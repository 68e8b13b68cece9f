import Vibeshine.PairingProtocol.Server

/-! # What a pairing grants

The log of one session is a prefix of one complete handshake, in every state
that requests, PIN submissions and expiries can lead to. A certificate is
therefore granted only at the end of such a handshake.
-/

namespace Vibeshine.PairingProtocol

open Library List

def history (serial : Nat) (log : List Entry) : List Entry :=
  log.filter fun entry => entry.serial = serial

lemma history_append_same {serial : Nat} {log entries : List Entry}
    (h : ∀ entry ∈ entries, entry.serial = serial) :
    history serial (log ++ entries) = history serial log ++ entries := by
  have hall : entries.filter (fun entry => decide (entry.serial = serial)) = entries :=
    filter_eq_self.mpr fun entry hentry => decide_eq_true (h entry hentry)
  rw [history, filter_append, hall]
  rfl

lemma history_append_other {serial other : Nat} {log entries : List Entry}
    (h : ∀ entry ∈ entries, entry.serial = other) (hne : serial ≠ other) :
    history serial (log ++ entries) = history serial log := by
  have hnone : entries.filter (fun entry => decide (entry.serial = serial)) = [] :=
    filter_eq_nil_iff.mpr fun entry hentry heq =>
      hne ((of_decide_eq_true heq).symm.trans (h entry hentry))
  rw [history, filter_append, hnone, append_nil]
  rfl

lemma mem_history {serial : Nat} {log : List Entry} {entry : Entry} (hmem : entry ∈ log)
    (hserial : entry.serial = serial) : entry ∈ history serial log :=
  mem_filter.mpr ⟨hmem, decide_eq_true hserial⟩

/-- The data of a complete handshake. -/
structure Handshake where
  cert : Bytes
  approval : Approval
  serverchallenge : Bytes := []
  clienthash : Bytes := []
  serversecret : Bytes := []
  secret : Bytes := []
  sign : Bytes := []
  device : Device := { name := [], cert := [], uuid := [], enabled := false }

namespace Host

variable {X509 : Type} (host : Host X509)

def entries (serial : Nat) (handshake : Handshake) : List Entry :=
  [.created serial handshake.cert, .approved serial handshake.approval 1 .none,
    .challenged serial handshake.serverchallenge, .hashFixed serial handshake.clienthash,
    .disclosed serial (host.pairingSecret handshake.serversecret),
    .proved serial handshake.secret handshake.sign, .granted serial handshake.device]

def Approves : Approval → Prop
  | .web pin => validPin pin = true
  | .console _ => host.pinStdin = true

def Proven (handshake : Handshake) : Prop :=
  ∃ certificate, host.x509 handshake.cert = some certificate ∧
    host.hash (handshake.serverchallenge ++ host.signature certificate ++ handshake.secret) =
      handshake.clienthash ∧
    host.verify256 certificate handshake.secret handshake.sign = true

def SameClient (device : Device) (cert : Bytes) : Prop :=
  ∃ identity, host.exactCertificateIdentity cert = some identity ∧
    host.exactCertificateIdentity device.cert = some identity

/-- A handshake that has come through its first `stage` steps. -/
structure Reached (stage : Nat) (handshake : Handshake) : Prop where
  approved : 2 ≤ stage → host.Approves handshake.approval
  proven : 6 ≤ stage → host.Proven handshake
  same : 7 ≤ stage → host.SameClient handshake.device handshake.cert

def Genuine (serial : Nat) (log : List Entry) : Prop :=
  ∃ handshake stage, host.Reached stage handshake ∧
    history serial log = (host.entries serial handshake).take stage

def stage : Phase → Nat
  | .none => 1
  | .getServerCert => 2
  | .clientChallenge => 3
  | .serverChallengeResponse => 5
  | .clientPairingSecret => 5

def handshakeOf (session : Session) (approval : Approval) : Handshake where
  cert := session.cert
  approval := approval
  serverchallenge := session.serverchallenge
  clienthash := session.clienthash
  serversecret := session.serversecret

/-- The log of a pending session is what its phase and its fields tell. -/
structure Pending (s : State) (uniqueId : Text) (session : Session) : Prop where
  key : session.uniqueId = uniqueId
  valid : validUniqueId uniqueId = true
  numbered : session.serial < s.nextSerial
  recorded : ∃ approval, (session.lastPhase ≠ .none → host.Approves approval) ∧
    history session.serial s.log =
      (host.entries session.serial (handshakeOf session approval)).take (stage session.lastPhase)

def Covered (log : List Entry) (reply : Reply) : Prop :=
  ∀ text, reply.pairingsecret = some text → ∃ serial, Entry.disclosed serial text ∈ log

structure Invariant (s : State) : Prop where
  sole : s.sessions.length ≤ maxPendingSessions
  pending : ∀ entry ∈ s.sessions, host.Pending s entry.1 entry.2
  genuine : ∀ serial, host.Genuine serial s.log
  unused : ∀ serial, s.nextSerial ≤ serial → history serial s.log = []
  sent : ∀ message ∈ s.sent, Covered s.log message.2

/-- A handler's result: a state and the reply that is still to be sent. -/
structure Sound (result : State × Reply) : Prop where
  state : host.Invariant result.1
  reply : Covered result.1.log result.2

variable {host} {s : State}

lemma Covered.append {log entries : List Entry} {reply : Reply} (h : Covered log reply) :
    Covered (log ++ entries) reply := by
  intro text htext
  obtain ⟨serial, hmem⟩ := h text htext
  exact ⟨serial, mem_append_left _ hmem⟩

lemma Covered.of_none {log : List Entry} {reply : Reply} (h : reply.pairingsecret = none) :
    Covered log reply := by
  intro text htext
  rw [h] at htext
  cases htext

lemma Pending.genuine {uniqueId : Text} {session : Session}
    (h : host.Pending s uniqueId session) : host.Genuine session.serial s.log := by
  obtain ⟨approval, happroves, hhistory⟩ := h.recorded
  refine ⟨_, _, ⟨fun htwo => happroves ?_, ?_, ?_⟩, hhistory⟩
  · rintro hnone
    rw [hnone] at htwo
    exact absurd htwo (by decide)
  · intro hsix
    cases hphase : session.lastPhase <;> rw [hphase] at hsix <;> exact absurd hsix (by decide)
  · intro hseven
    cases hphase : session.lastPhase <;> rw [hphase] at hseven <;> exact absurd hseven (by decide)

namespace Invariant

lemma initial : host.Invariant {} where
  sole := Nat.zero_le _
  pending := fun _ hmem => nomatch hmem
  genuine := fun _ =>
    ⟨{ cert := [], approval := .web [] }, 0,
      ⟨fun h => absurd h (by decide), fun h => absurd h (by decide), fun h => absurd h (by decide)⟩,
      rfl⟩
  unused := fun _ _ => rfl
  sent := fun _ hmem => nomatch hmem

lemma retain {s' : State} (h : host.Invariant s) (hsess : s'.sessions.Sublist s.sessions)
    (hlog : s'.log = s.log) (hnext : s'.nextSerial = s.nextSerial)
    (hsent : ∀ message ∈ s'.sent, message ∈ s.sent ∨ Covered s.log message.2) :
    host.Invariant s' where
  sole := Nat.le_trans hsess.length_le h.sole
  pending := by
    intro entry hentry
    have hbefore := h.pending entry (hsess.subset hentry)
    exact ⟨hbefore.key, hbefore.valid, hnext ▸ hbefore.numbered, hlog ▸ hbefore.recorded⟩
  genuine := fun serial => hlog ▸ h.genuine serial
  unused := fun serial hserial => hlog ▸ h.unused serial (hnext ▸ hserial)
  sent := by
    intro message hmessage
    rw [hlog]
    exact (hsent message hmessage).elim (h.sent message) id

lemma answer (h : host.Invariant s) (connection : Nat) {reply : Reply}
    (hreply : Covered s.log reply) : host.Invariant (s.answer connection reply) := by
  refine h.retain (.refl _) rfl rfl fun message hmessage => ?_
  rcases mem_append.mp hmessage with hbefore | hnew
  · exact .inl hbefore
  · exact .inr (mem_singleton.mp hnew ▸ hreply)

lemma extend {s' : State} (h : host.Invariant s) {serial : Nat} {entries : List Entry}
    (hentries : ∀ entry ∈ entries, entry.serial = serial) (hlog : s'.log = s.log ++ entries)
    (hnumbered : serial < s'.nextSerial) (hnext : s.nextSerial ≤ s'.nextSerial)
    (hsent : s'.sent = s.sent) (hsole : s'.sessions.length ≤ maxPendingSessions)
    (hpend : ∀ entry ∈ s'.sessions, host.Pending s' entry.1 entry.2)
    (hgenuine : host.Genuine serial s'.log) : host.Invariant s' where
  sole := hsole
  pending := hpend
  genuine := by
    intro other
    by_cases heq : other = serial
    · exact heq ▸ hgenuine
    · have hother := h.genuine other
      unfold Genuine at hother ⊢
      rwa [hlog, history_append_other hentries heq]
  unused := by
    intro other hother
    rw [hlog, history_append_other hentries (Nat.ne_of_gt (Nat.lt_of_lt_of_le hnumbered hother))]
    exact h.unused other (Nat.le_trans hnext hother)
  sent := by
    intro message hmessage
    rw [hlog]
    exact (h.sent message (hsent ▸ hmessage)).append

lemma sessions_eq (h : host.Invariant s) {uniqueId : Text} {session : Session}
    (hfind : s.find uniqueId = some session) : s.sessions = [(uniqueId, session)] := by
  have hsole := h.sole
  unfold State.find at hfind
  match hsess : s.sessions with
  | [] => simp [hsess] at hfind
  | [(key, only)] =>
    rw [hsess, lookup_cons] at hfind
    split at hfind
    next heq => rw [beq_iff_eq.mp heq, Option.some.inj hfind]
    next => cases hfind
  | _ :: _ :: _ =>
    rw [hsess, length_cons, length_cons] at hsole
    exact absurd hsole (by unfold maxPendingSessions; omega)

lemma pending_of_find (h : host.Invariant s) {uniqueId : Text} {session : Session}
    (hfind : s.find uniqueId = some session) : host.Pending s uniqueId session :=
  h.pending (uniqueId, session) (by simp [h.sessions_eq hfind])

end Invariant

/-! ## Handlers -/

section Handlers

variable {uniqueId : Text} {session : Session} {reply : Reply}

lemma Sound.answer {result : State × Reply} (h : host.Sound result) (connection : Nat) :
    host.Invariant (result.1.answer connection result.2) :=
  h.state.answer connection h.reply

lemma Sound.status (h : host.Sound (s, reply)) (code : Nat) (message : String) :
    host.Sound (s, reply.status code message) :=
  ⟨h.state, h.reply⟩

lemma invariant_removeSession (h : host.Invariant s) (session : Session) :
    host.Invariant (s.removeSession session) :=
  h.retain filter_sublist rfl rfl fun _ hmessage => .inl hmessage

lemma sound_failPair (h : host.Sound (s, reply)) (session : Session) (message : String) :
    host.Sound (s.failPair session reply message) :=
  ⟨invariant_removeSession h.state session, h.reply⟩

lemma invariant_advance (h : host.Invariant s) (hfind : s.find uniqueId = some session)
    {begun : Session} {entries : List Entry} (hserial : begun.serial = session.serial)
    (hid : begun.uniqueId = session.uniqueId)
    (hentries : ∀ entry ∈ entries, entry.serial = session.serial)
    (hrecorded : ∃ approval, (begun.lastPhase ≠ .none → host.Approves approval) ∧
      history session.serial s.log ++ entries =
        (host.entries session.serial (handshakeOf begun approval)).take (stage begun.lastPhase)) :
    host.Invariant ((s.update uniqueId begun).note entries) := by
  have hsess := h.sessions_eq hfind
  have hbefore := h.pending_of_find hfind
  have hpend : host.Pending ((s.update uniqueId begun).note entries) uniqueId begun := by
    refine ⟨hid.trans hbefore.key, hbefore.valid, hserial ▸ hbefore.numbered, ?_⟩
    rw [hserial]
    simpa [State.note, State.update, history_append_same hentries] using hrecorded
  refine h.extend hentries rfl hbefore.numbered (Nat.le_refl _) rfl ?_ ?_ (hserial ▸ hpend.genuine)
  · simpa [State.note, State.update] using h.sole
  · intro entry hentry
    have heq : entry = (uniqueId, begun) := by
      simpa [State.note, State.update, hsess] using hentry
    rw [heq]
    exact hpend

section

variable (h : host.Sound (s, reply))

include h

section

variable (hfind : s.find uniqueId = some session)

include hfind

lemma sound_getservercert {approval : Approval} (happroves : host.Approves approval) :
    host.Sound (host.getservercert s uniqueId session approval reply) := by
  unfold getservercert
  dsimp only
  split
  next => exact sound_failPair h _ _
  next hacc =>
    rw [Bool.not_eq_true', Bool.not_eq_false] at hacc
    obtain ⟨hphase, hnext⟩ := beginGetServerCertificate_accepted hacc
    obtain ⟨before, -, hhistory⟩ := (h.state.pending_of_find hfind).recorded
    have hcount : s.sessions.length = 1 := by rw [h.state.sessions_eq hfind]; rfl
    refine ⟨invariant_advance h.state hfind (by rfl) (by rfl) ?_ ⟨approval, fun _ => happroves, ?_⟩,
      h.reply.append⟩
    · simp [Entry.serial]
    · replace hphase : session.lastPhase = .none := hphase
      rw [hhistory, hnext, hphase, hcount]
      rfl

lemma sound_clientchallenge (around : Surroundings) (challenge : Bytes) :
    host.Sound (host.clientchallenge s uniqueId session around challenge reply) := by
  unfold clientchallenge
  dsimp only
  split
  next => exact sound_failPair h _ _
  next hacc =>
    rw [Bool.not_eq_true', Bool.not_eq_false] at hacc
    obtain ⟨hphase, hnext⟩ := beginClientChallenge_accepted hacc
    obtain ⟨approval, happroves, hhistory⟩ := (h.state.pending_of_find hfind).recorded
    replace hphase : session.lastPhase = .getServerCert := hphase
    rw [hphase] at happroves hhistory
    refine ⟨invariant_advance h.state hfind (by rfl) (by rfl) ?_
      ⟨approval, fun _ => happroves (by decide), ?_⟩, h.reply.append⟩
    · simp [Entry.serial]
    · rw [hhistory, hnext]
      rfl

lemma sound_serverchallengeresp (encryptedResponse : Bytes) :
    host.Sound (host.serverchallengeresp s uniqueId session encryptedResponse reply) := by
  unfold serverchallengeresp
  dsimp only
  split
  next => exact sound_failPair h _ _
  next hacc =>
    rw [Bool.not_eq_true', Bool.not_eq_false] at hacc
    obtain ⟨hphase, hnext⟩ := beginServerChallengeResponse_accepted hacc
    obtain ⟨approval, happroves, hhistory⟩ := (h.state.pending_of_find hfind).recorded
    replace hphase : session.lastPhase = .clientChallenge := hphase
    rw [hphase] at happroves hhistory
    refine ⟨invariant_advance h.state hfind (by rfl) (by rfl) ?_
      ⟨approval, fun _ => happroves (by decide), ?_⟩, ?_⟩
    · simp [Entry.serial]
    · rw [hhistory, hnext]
      rfl
    · intro text htext
      obtain rfl := Option.some.inj htext
      exact ⟨session.serial, mem_append_right _ (by simp)⟩

end

end

end Handlers

end Host

end Vibeshine.PairingProtocol
