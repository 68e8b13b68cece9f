import Vibeshine.PairingProtocol.History

/-! # The end of a handshake

What `add_authorized_client` enables is a record of the certificate it was
given, and it is given one only by a session whose last phase was accepted.
The endpoints and whole runs follow.
-/

namespace Vibeshine.PairingProtocol

open Library List

namespace Host

variable {X509 : Type} {host : Host X509} {s : State}

/-! ## Adding a client -/

lemma mapM_get {α β : Type} {f : α → Option β} {items : List α} {results : List β}
    (h : items.mapM f = some results) {index : Nat} {result : β}
    (hresult : results[index]? = some result) :
    ∃ item, items[index]? = some item ∧ f item = some result := by
  induction items generalizing results index with
  | nil =>
    obtain rfl : results = [] := by simpa using h.symm
    simp at hresult
  | cons item items ih =>
    rw [mapM_cons] at h
    obtain ⟨first, hfirst, h⟩ := Option.bind_eq_some_iff.mp h
    obtain ⟨rest, hrest, h⟩ := Option.bind_eq_some_iff.mp h
    obtain rfl := Option.some.inj h
    cases index with
    | zero => exact ⟨item, rfl, hfirst.trans hresult⟩
    | succ index => exact ih hrest hresult

lemma admitPairedClient_reauthorize {clients : List PairedClientRecord} {presented : Bytes}
    {index : Nat} (h : admitPairedClient clients presented = .reauthorize index) :
    ∃ client, clients[index]? = some client ∧ client.certificateIdentity = presented := by
  unfold admitPairedClient at h
  split at h
  next => cases h
  next =>
    split at h
    next found hfound =>
      cases h
      obtain ⟨hlt, hsame, -⟩ := findIdx?_eq_some_iff_getElem.mp hfound
      exact ⟨_, getElem?_eq_getElem hlt, of_decide_eq_true hsame⟩
    next => split at h <;> cases h

lemma pairedClientRecord_identity {device : Device} {record : PairedClientRecord}
    (h : host.pairedClientRecord device = some record) :
    host.exactCertificateIdentity device.cert = some record.certificateIdentity := by
  unfold pairedClientRecord at h
  split at h
  next => cases h
  next =>
    obtain ⟨identity, hidentity, rfl⟩ := Option.map_eq_some_iff.mp h
    exact hidentity

variable {devices : List Device}

lemma buildPairedClientRecords_get {records : List PairedClientRecord}
    (h : host.buildPairedClientRecords devices = some records) {index : Nat}
    {record : PairedClientRecord} (hrecord : records[index]? = some record) :
    ∃ device, devices[index]? = some device ∧
      host.exactCertificateIdentity device.cert = some record.certificateIdentity := by
  unfold buildPairedClientRecords at h
  split at h
  next => cases h
  next =>
    obtain ⟨hmap, -⟩ := Option.filter_eq_some_iff.mp h
    obtain ⟨device, hdevice, hbuilt⟩ := mapM_get hmap hrecord
    exact ⟨device, hdevice, pairedClientRecord_identity hbuilt⟩

variable {around : Surroundings}

lemma reauthorize_granted {index : Nat}
    {granted : Device} (h : (host.reauthorize devices around index).granted = some granted) :
    ∃ existing, devices[index]? = some existing ∧ granted.cert = existing.cert := by
  unfold reauthorize at h
  split at h
  next => cases h
  next existing hexisting =>
    split_ifs at h
    cases h
    exact ⟨existing, hexisting, rfl⟩

lemma append_granted {device granted : Device}
    (h : (host.append devices around device).granted = some granted) : granted = device := by
  unfold append at h
  split_ifs at h
  exact (Option.some.inj h).symm

lemma addAuthorizedClient_granted {name : Text} {cert : Bytes} {granted : Device}
    (h : (host.addAuthorizedClient devices around name cert).granted = some granted) :
    host.SameClient granted cert := by
  unfold addAuthorizedClient at h
  split at h
  next => cases h
  next candidate hcandidate =>
    split at h
    next => cases h
    next =>
      split at h
      next => cases h
      next records hrecs =>
        split at h
        next => cases h
        next index hindex =>
          obtain ⟨record, hrecord, hpresented⟩ := admitPairedClient_reauthorize hindex
          obtain ⟨device, hdevice, hidentity⟩ := buildPairedClientRecords_get hrecs hrecord
          obtain ⟨existing, hexisting, hcert⟩ := reauthorize_granted h
          obtain rfl := Option.some.inj (hdevice.symm.trans hexisting)
          exact ⟨candidate, hcandidate, by rw [hcert, hidentity, hpresented]⟩
        next =>
          obtain rfl := append_granted h
          exact ⟨candidate, hcandidate, hcandidate⟩

/-! ## The last phase -/

section LastPhase

variable {uniqueId : Text} {session : Session} {reply : Reply}

lemma checks_true {certificate : Option X509} {secret sign : Bytes}
    (hcertificate : certificate.isSome = true)
    (hhash : (host.checks session certificate secret sign).1 = true)
    (hverified : (host.checks session certificate secret sign).2 = true) :
    ∃ found, certificate = some found ∧
      host.hash (session.serverchallenge ++ host.signature found ++ secret) = session.clienthash ∧
      host.verify256 found secret sign = true := by
  obtain ⟨found, rfl⟩ := Option.isSome_iff_exists.mp hcertificate
  exact ⟨found, rfl, of_decide_eq_true hhash, hverified⟩

section

variable (h : host.Sound (s, reply))

include h

section

variable (hfind : s.find uniqueId = some session)

include hfind

lemma sound_admitClient (hphase : session.lastPhase = .serverChallengeResponse) (phase : Phase)
    (around : Surroundings) {secret sign : Bytes} {certificate : X509}
    (hcertificate : host.x509 session.cert = some certificate)
    (hhash : host.hash (session.serverchallenge ++ host.signature certificate ++ secret) =
      session.clienthash) (hverified : host.verify256 certificate secret sign = true) :
    host.Sound (host.admitClient s { session with lastPhase := phase } around secret sign reply) := by
  have hsess : s.sessions = [(uniqueId, session)] := h.state.sessions_eq hfind
  have hpend : host.Pending s uniqueId session := h.state.pending_of_find hfind
  obtain ⟨approval, happroves, hhistory⟩ := hpend.recorded
  rw [hphase] at happroves hhistory
  have happroved : host.Approves approval := happroves (by decide)
  unfold admitClient
  dsimp only
  generalize haddition : host.addAuthorizedClient s.devices around session.name session.cert =
    addition
  have hentries : ∀ entry ∈ Entry.proved session.serial secret sign ::
      addition.granted.toList.map (Entry.granted session.serial), entry.serial = session.serial := by
    intro entry hentry
    rcases mem_cons.mp hentry with rfl | hgranted
    · rfl
    · obtain ⟨device, -, rfl⟩ := mem_map.mp hgranted
      rfl
  -- the log now holds six steps of the handshake, or all seven
  have hgenuine : host.Genuine session.serial (s.log ++ Entry.proved session.serial secret sign ::
      addition.granted.toList.map (Entry.granted session.serial)) := by
    unfold Genuine
    rw [history_append_same hentries, hhistory]
    cases hgranted : addition.granted with
    | none =>
      exact ⟨{ handshakeOf session approval with secret := secret, sign := sign }, 6,
        ⟨fun _ => happroved, fun _ => ⟨certificate, hcertificate, hhash, hverified⟩,
          fun hseven => absurd hseven (by decide)⟩, rfl⟩
    | some device =>
      have hsame : host.SameClient device session.cert :=
        addAuthorizedClient_granted (haddition ▸ hgranted)
      exact ⟨{ handshakeOf session approval with
          secret := secret, sign := sign, device := device }, 7,
        ⟨fun _ => happroved, fun _ => ⟨certificate, hcertificate, hhash, hverified⟩,
          fun _ => hsame⟩, rfl⟩
  have hended : host.Invariant (State.removeSession
      { s with
        devices := addition.devices
        log := s.log ++ Entry.proved session.serial secret sign ::
          addition.granted.toList.map (Entry.granted session.serial) }
      { session with lastPhase := phase }) := by
    have hnone : (State.removeSession s { session with lastPhase := phase }).sessions = [] := by
      simp [State.removeSession, hsess, hpend.key]
    refine h.state.extend hentries rfl hpend.numbered (Nat.le_refl _) rfl ?_ ?_ hgenuine
    · exact Nat.le_trans (length_filter_le _ _) h.state.sole
    · intro entry hentry
      replace hentry : entry ∈ (State.removeSession s { session with lastPhase := phase }).sessions :=
        hentry
      rw [hnone] at hentry
      cases hentry
  split
  next => exact ⟨hended, h.reply.append⟩
  next => exact ⟨hended, h.reply.append⟩

lemma sound_clientpairingsecret (around : Surroundings) (clientPairingSecret : Bytes) :
    host.Sound (host.clientpairingsecret s session around clientPairingSecret reply) := by
  unfold clientpairingsecret
  dsimp only
  split
  next => exact sound_failPair h _ _
  next hacc =>
    rw [Bool.not_eq_true', Bool.not_eq_false] at hacc
    obtain ⟨hphase, -⟩ := beginClientPairingSecret_accepted hacc
    split
    next hdecided =>
      obtain ⟨hsome, hhash, hverified⟩ := decideClientPairingSecret_accepted hdecided
      obtain ⟨certificate, hcertificate, hhash, hverified⟩ := checks_true hsome hhash hverified
      exact sound_admitClient h hfind hphase _ around hcertificate hhash hverified
    next =>
      split
      next => exact sound_failPair h _ _
      next => exact ⟨invariant_removeSession h.state _, h.reply⟩

lemma sound_phaseParameters (args : Args) (around : Surroundings) :
    host.Sound (host.phaseParameters s uniqueId session args around reply) := by
  unfold phaseParameters
  split
  next =>
    split
    next => exact h.status _ _
    next => exact sound_clientchallenge h hfind around _
  next =>
    split
    next =>
      split
      next => exact h.status _ _
      next => exact sound_serverchallengeresp h hfind _
    next =>
      split
      next =>
        split
        next => exact h.status _ _
        next => exact sound_clientpairingsecret h hfind around _
      next => exact h.status _ _

end

lemma sound_lookupSession (uniqueId : Text) (args : Args)
    (around : Surroundings) : host.Sound (host.lookupSession s uniqueId args around reply) := by
  unfold lookupSession
  split
  next => exact h.status _ _
  next session hfind => exact sound_phaseParameters h hfind args around

end

end LastPhase

/-! ## Endpoints -/

lemma invariant_closePendingPairingResponse (h : host.Invariant s) (session : Session)
    (statusCode : Nat) (statusMessage : String) :
    host.Invariant (s.closePendingPairingResponse session statusCode statusMessage) := by
  unfold State.closePendingPairingResponse
  split
  next connection _ => exact h.answer connection (.of_none rfl)
  next => exact h

lemma closePendingPairingResponse_sessions (s : State) (session : Session) (statusCode : Nat)
    (statusMessage : String) :
    (s.closePendingPairingResponse session statusCode statusMessage).sessions = s.sessions := by
  unfold State.closePendingPairingResponse
  split <;> rfl

lemma invariant_expirePairingSessions (h : host.Invariant s) (now : Int) :
    host.Invariant (s.expirePairingSessions now) := by
  unfold State.expirePairingSessions
  have hkept : host.Invariant
      { s with sessions := s.sessions.filter fun entry => !State.expired now entry.2 } :=
    h.retain filter_sublist rfl rfl fun _ hmessage => .inl hmessage
  generalize (s.sessions.filter fun entry => State.expired now entry.2) = gone
  generalize State.mk _ _ _ _ _ = kept at hkept ⊢
  induction gone generalizing kept with
  | nil => exact hkept
  | cons entry rest ih =>
    exact ih _ (invariant_closePendingPairingResponse hkept entry.2 _ _)

lemma invariant_create (h : host.Invariant s) (hempty : s.sessions = []) {uniqueId : Text}
    (hvalid : validUniqueId uniqueId = true) (session : Session) (hid : session.uniqueId = uniqueId)
    (hserial : session.serial = s.nextSerial) (hphase : session.lastPhase = .none) : host.Invariant
      { s with
        nextSerial := s.nextSerial + 1
        log := s.log ++ [Entry.created s.nextSerial session.cert]
        sessions := s.sessions ++ [(uniqueId, session)] } := by
  have hentries : ∀ entry ∈ [Entry.created s.nextSerial session.cert],
      entry.serial = s.nextSerial := by
    simp [Entry.serial]
  have hhistory : history s.nextSerial (s.log ++ [Entry.created s.nextSerial session.cert]) =
      [Entry.created s.nextSerial session.cert] := by
    rw [history_append_same hentries, h.unused _ (Nat.le_refl _), nil_append]
  have hpend : host.Pending
      { s with
        nextSerial := s.nextSerial + 1
        log := s.log ++ [Entry.created s.nextSerial session.cert]
        sessions := s.sessions ++ [(uniqueId, session)] } uniqueId session := by
    refine ⟨hid, hvalid, hserial ▸ Nat.lt_succ_self _, .web [], fun hne => absurd hphase hne, ?_⟩
    rw [hserial, hphase]
    exact hhistory
  refine h.extend hentries rfl (Nat.lt_succ_self _) (Nat.le_succ _) rfl ?_ ?_
    (hserial ▸ hpend.genuine)
  · rw [hempty]
    exact Nat.le_refl _
  · intro entry hentry
    obtain rfl : entry = (uniqueId, session) := by simpa [hempty] using hentry
    exact hpend

lemma sessions_nil_of_admitted {uniqueId certificate salt : Text}
    (hadm : admitPendingSession uniqueId certificate salt s.sessions.length
      (s.find uniqueId).isSome (sameIdentity (s.find uniqueId) certificate) = none)
    (hfind : s.find uniqueId = none) : s.sessions = [] := by
  obtain ⟨-, -, -, hless | ⟨hreplacing, -⟩⟩ := admitPendingSession_none hadm
  · exact length_eq_zero_iff.mp (Nat.lt_one_iff.mp hless)
  · rw [hfind] at hreplacing
    cases hreplacing

section

variable (h : host.Invariant s)

include h

lemma invariant_openSession (hempty : s.sessions = [])
    {uniqueId : Text} (hvalid : validUniqueId uniqueId = true) (connection : Nat)
    {clientCertificate salt : Text} (args : Args) (around : Surroundings) : host.Invariant
      (host.openSession s connection uniqueId clientCertificate salt args around) := by
  unfold openSession
  dsimp only
  split
  next hconsole =>
    have hcreated := invariant_create h hempty hvalid
      (newSession s uniqueId clientCertificate salt around) rfl rfl rfl
    have happroves : host.Approves (.console around.typedPin) := hconsole
    refine Sound.answer (sound_lookupSession
      (sound_getservercert ⟨hcreated, .of_none rfl⟩ ?_ happroves) [] args around) connection
    simp [State.find, hempty]
  next =>
    exact invariant_create h hempty hvalid _ (by rfl) (by rfl) (by rfl)

lemma invariant_beginPairing (connection : Nat) (uniqueId : Text)
    (args : Args) (around : Surroundings) :
    host.Invariant (host.beginPairing s connection uniqueId args around) := by
  unfold beginPairing
  dsimp only
  split
  next => exact h.answer connection (.of_none rfl)
  next hadm =>
    have hvalid := (admitPendingSession_none hadm).1
    split
    next session hfind =>
      have hclosed := invariant_closePendingPairingResponse h session 409
        "Pairing request replaced by a newer request from the same client"
      have hsame := closePendingPairingResponse_sessions s session 409
        "Pairing request replaced by a newer request from the same client"
      generalize s.closePendingPairingResponse session 409 _ = closed at hclosed hsame ⊢
      have herased : host.Invariant
          { closed with sessions := closed.sessions.filter fun entry => entry.1 ≠ uniqueId } :=
        hclosed.retain filter_sublist rfl rfl fun _ hmessage => .inl hmessage
      refine invariant_openSession herased ?_ hvalid connection args around
      simp [hsame, h.sessions_eq hfind]
    next hfind =>
      exact invariant_openSession h (sessions_nil_of_admitted hadm hfind) hvalid connection
        args around

lemma invariant_pair (connection : Nat) (args : Args)
    (around : Surroundings) : host.Invariant (host.pair s connection args around) := by
  unfold pair
  split
  next => exact h.answer connection (.of_none rfl)
  next uniqueId _ =>
    split
    next => exact h.answer connection (.of_none rfl)
    next =>
      have hexpired := invariant_expirePairingSessions h around.now
      dsimp only
      split
      next => exact invariant_beginPairing hexpired connection uniqueId args around
      next =>
        split
        next => exact hexpired.answer connection (.of_none rfl)
        next =>
          exact Sound.answer (sound_lookupSession ⟨hexpired, .of_none rfl⟩ uniqueId args around)
            connection

lemma invariant_devices (devices : List Device) : host.Invariant { s with devices := devices } :=
  h.retain (.refl _) rfl rfl fun _ hmessage => .inl hmessage

lemma invariant_unpair (connection : Nat) (uuid : Option Text)
    (around : Surroundings) : host.Invariant (host.unpair s connection uuid around) := by
  unfold unpair
  split
  next =>
    split
    next => exact (invariant_devices h _).answer connection (.of_none rfl)
    next => exact h.answer connection (.of_none rfl)
  next => exact h.answer connection (.of_none rfl)

end

lemma pinTarget_some {uniqueId : Text} {session : Session}
    (h : pinTarget s = some (uniqueId, session)) :
    s.sessions = [(uniqueId, session)] ∧ session.lastPhase = .none := by
  unfold pinTarget at h
  split at h
  next key only hsess =>
    split at h
    next hphase =>
      cases h
      exact ⟨hsess, hphase⟩
    next => cases h
  next => cases h

section

variable (h : host.Invariant s)

include h

lemma invariant_name {uniqueId : Text} {session named : Session}
    (hfind : s.find uniqueId = some session) (hnamed : named =
      { session with name := named.name, response := named.response }) :
    host.Invariant (s.update uniqueId named) := by
  have hpend := h.pending_of_find hfind
  have hadvanced := @invariant_advance _ _ _ _ _ h hfind named [] (by rw [hnamed])
    (by rw [hnamed]) (fun _ hmem => nomatch hmem) (by
      rw [hnamed, append_nil]
      exact hpend.recorded)
  simpa [State.note] using hadvanced

lemma invariant_submitPin {uniqueId : Text} {session : Session}
    (hfind : s.find uniqueId = some session) {pin : Text} (hpin : validPin pin = true)
    (name : Text) : host.Invariant (host.submitPin s uniqueId session pin name).1 := by
  unfold submitPin
  split
  next => exact invariant_removeSession h session
  next =>
    have hsound : host.Sound (host.getservercert s uniqueId session (.web pin) {}) :=
      sound_getservercert ⟨h, .of_none rfl⟩ hfind hpin
    dsimp only
    generalize host.getservercert s uniqueId session (.web pin) {} = result at hsound
    split
    next => exact hsound.state
    next opened hopened =>
      split
      next => exact invariant_removeSession hsound.state _
      next =>
        split
        next connection _ =>
          exact (invariant_name hsound.state hopened (by rfl)).answer connection hsound.reply
        next => exact invariant_removeSession hsound.state _

lemma invariant_pin (pin name : Text) (now : Int) : host.Invariant (host.pin s pin name now).1 := by
  have hexpired := invariant_expirePairingSessions h now
  unfold Host.pin
  dsimp only
  split
  next => exact hexpired
  next =>
    split
    next => exact hexpired
    next hvalid =>
      split
      next => exact hexpired
      next uniqueId session htarget =>
        obtain ⟨hsess, -⟩ := pinTarget_some htarget
        refine invariant_submitPin hexpired ?_ (by simpa using hvalid) name
        simp [State.find, hsess]

lemma invariant_step (input : Input) : host.Invariant (host.step s input) := by
  cases input with
  | pair connection args around => exact invariant_pair h connection args around
  | unpair connection uuid around => exact invariant_unpair h connection uuid around
  | pin pin name now => exact invariant_pin h pin name now
  | administer devices => exact invariant_devices h devices

end

lemma invariant_of_reachable (h : host.server.Reachable s) : host.Invariant s :=
  h.invariant .initial fun _ input hinvariant _ => invariant_step hinvariant input

end Host

end Vibeshine.PairingProtocol
