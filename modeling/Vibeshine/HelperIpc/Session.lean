import Vibeshine.HelperIpc.Delivery

/-! # The readers of one session

Any number of calls take the reader lock one after another, in any order, and run their
loops turn by turn.
-/

namespace Vibeshine.HelperIpc

open Library Turn Wait Bool Option

/-- One connection. The last two fields are a record of the run that no code reads. -/
structure Session where
  inbox : List Frame := []
  protocol : ApplyResponseProtocol := .unknown
  /-- Who holds `response_mutex`. -/
  reader : Option Wait := none
  taken : List Frame := []
  returned : List (Wait × Frame) := []

inductive Event where
  | lock (w : Wait)
  | turn (t : Turn)

variable (known : ApplyResponseProtocol)

/-- `remember_apply_response_protocol`, which only an APPLY reply calls. -/
def rememberApplyResponseProtocol : Outcome → ApplyResponseProtocol
  | .returned _ (.apply result) => if known = .unknown then result.protocol else known
  | _ => known

def Session.finish (s : Session) (w : Wait) (pass : Pass) : Session where
  inbox := pass.inbox
  protocol := rememberApplyResponseProtocol s.protocol pass.outcome
  reader := if pass.outcome = .continued then some w else none
  taken := s.taken ++ pass.read.toList
  returned := s.returned ++ (pass.outcome.frame?.map (w, ·)).toList

def Session.step (s : Session) : Event → Session
  | .lock w => { s with reader := some w }
  | .turn t =>
    match s.reader with
    | none => s
    | some w => s.finish w (w.pass t s.inbox)

def Wait.StartsUnder : Wait → Prop
  | .apply _ protocol => protocol = .unknown ∨ protocol = known
  | .snapshot request => request ≠ 0
  | _ => True

def Session.Admits (s : Session) : Event → Prop
  | .lock w => s.reader = none ∧ w.StartsUnder s.protocol
  | .turn t => ∃ w, s.reader = some w ∧ w.Room t s.inbox ∧
      ∀ bytes, t.received = .frame bytes → bytes.hasType .applyResult = true → 10 ≤ bytes.length

def readers : System Session Event where
  init := {}
  admits := Session.Admits
  step := Session.step

def Session.Orderly (s : Session) : Event → Prop
  | .lock _ => True
  | .turn t => ∀ w, s.reader = some w → w.Orderly t s.inbox

/-- Every reply taken from the pipe is in the inbox or was returned to the call it answers. -/
structure Session.Accounted (s : Session) : Prop where
  counts : ∀ bytes, Correlated bytes →
    s.taken.count bytes = (s.returned.map Prod.snd).count bytes + s.inbox.count bytes
  claims : ∀ answer ∈ s.returned, Correlated answer.2 → answer.1.Claims answer.2

/-- A call that is neither out of time nor cancelled, and whose reply is in the inbox, returns
the oldest such reply in its next turn. -/
def Session.Answers (s : Session) : Prop :=
  ∀ w t bytes, s.reader = some w → s.Admits (.turn t) → s.Orderly (.turn t) →
    bytes ∈ s.inbox → Correlated bytes → bytes.hasType w.type = true → w.accepts t bytes = true →
      t.Looks → ∃ found reply, found ∈ s.inbox ∧ w.accepts t found = true ∧
          (w.pass t s.inbox).outcome = .returned found reply

/-! ## The invariant -/

structure Session.Sound (s : Session) : Prop where
  accounted : s.Accounted
  modern : s.protocol ≠ .legacy
  reader : ∀ w, s.reader = some w → w.SpeaksV2
  tagged : ∀ bytes ∈ s.inbox, bytes.hasType .applyResult = true → 10 ≤ bytes.length

variable {s : Session} {w : Wait} {t : Turn} {inbox : List Frame} {bytes : Frame}

lemma Wait.StartsUnder.speaksV2 {known : ApplyResponseProtocol} (h : w.StartsUnder known)
    (hmodern : known ≠ .legacy) : w.SpeaksV2 := by
  cases w with
  | apply request protocol =>
    obtain hunknown | hknown := h
    · subst hunknown
      exact nofun
    · subst hknown
      exact hmodern
  | _ => trivial

lemma protocol_of_decodeApplyResponse {issued : List Nat} {request : Nat}
    {protocol : ApplyResponseProtocol} {result : ApplyResult}
    (hdecode : decodeApplyResponse issued bytes request protocol = some result)
    (hid : responseRequestId bytes = some request) (hv2 : protocol ≠ .legacy) :
    result.protocol = .v2 := by
  unfold decodeApplyResponse at hdecode
  dsimp only at hdecode
  split at hdecode
  · cases hdecode
  · cases protocol with
    | legacy => exact absurd rfl hv2
    | v2 =>
      cases hdecode
      rfl
    | unknown =>
      simp only [hid, if_true, Option.some.injEq] at hdecode
      rw [← hdecode]

variable {type : MsgType} {accepts : Frame → Bool} {exhausted : Bool}

variable {onBuffered : Frame → Outcome}

lemma Turn.poll_returned {onFrame : Frame → List Frame × Outcome} {reply : Reply}
    (h : (t.poll inbox type accepts exhausted onBuffered onFrame).outcome = .returned bytes reply) :
    (∃ taken rest, takeBufferedResponse inbox type accepts = some (taken, rest) ∧
        onBuffered taken = .returned bytes reply) ∨
      ∃ received, t.received = .frame received ∧ (onFrame received).2 = .returned bytes reply := by
  unfold Turn.poll at h
  split at h
  · cases h
  · split at h
    next taken rest htake => exact .inl ⟨taken, rest, htake, h⟩
    · split at h
      · cases h
      · split at h
        · cases h
        · cases h
        next received hrecv =>
          split at h
          · cases h
          · exact .inr ⟨received, hrecv, h⟩

lemma leaveForOthers_outcome (inbox : List Frame) (bytes : Frame) :
    (leaveForOthers inbox bytes).2 = .continued := by
  unfold leaveForOthers
  split
  · rfl
  · split <;> rfl

lemma waitForAcknowledgement_outcome {reply : Reply}
    (h : (waitForAcknowledgement t inbox type accepts).outcome = .returned bytes reply) :
    ∃ success, reply = .acknowledged success := by
  obtain ⟨taken, rest, -, htaken⟩ | ⟨received, -, hrecv⟩ := poll_returned h
  · split at htaken
    · cases htaken
    · cases htaken
      exact ⟨_, rfl⟩
  · split at hrecv
    · split at hrecv
      · cases hrecv
        exact ⟨_, rfl⟩
      · split at hrecv <;> cases hrecv
    · rw [leaveForOthers_outcome] at hrecv
      cases hrecv

lemma exchangeBorrowControl_outcome {request : Borrow.Request} {reply : Reply}
    (h : (exchangeBorrowControl t inbox type request).outcome = .returned bytes reply) :
    ∃ result, reply = .borrow result := by
  obtain ⟨taken, rest, -, htaken⟩ | ⟨received, -, hrecv⟩ := poll_returned h
  · split at htaken
    · cases htaken
    · cases htaken
      exact ⟨_, rfl⟩
  · split at hrecv
    · cases hrecv
    · cases hrecv
      exact ⟨_, rfl⟩

lemma waitForApplyResult_outcome {request : Nat} {protocol : ApplyResponseProtocol} {reply : Reply}
    (h : (waitForApplyResult t inbox request protocol).outcome = .returned bytes reply) :
    bytes.hasType .applyResult = true ∧ (bytes ∈ inbox ∨ t.received = .frame bytes) ∧
      ∃ issued result, reply = .apply result ∧
        decodeApplyResponse issued bytes request protocol = some result := by
  obtain ⟨taken, rest, htake, htaken⟩ | ⟨received, hreceive, hrecv⟩ := poll_returned h
  · obtain ⟨htype, -, hperm⟩ := takeBufferedResponse_spec htake
    split at htaken
    · cases htaken
    next result hresult =>
      cases htaken
      exact ⟨htype, .inl (hperm.mem_iff.mpr List.mem_cons_self), _, result, rfl, hresult⟩
  · split at hrecv
    next htype =>
      split at hrecv
      · cases hrecv
      next result hresult =>
        cases hrecv
        exact ⟨htype, .inr hreceive, _, result, rfl, hresult⟩
    · rw [leaveForOthers_outcome] at hrecv
      cases hrecv

lemma Wait.pass_apply {result : ApplyResult}
    (h : (w.pass t inbox).outcome = .returned bytes (.apply result)) :
    ∃ request protocol, w = .apply request protocol := by
  cases w with
  | apply request protocol => exact ⟨request, protocol, rfl⟩
  | verification request =>
    obtain ⟨taken, rest, -, htaken⟩ | ⟨received, -, hrecv⟩ := poll_returned h
    · split at htaken <;> cases htaken
    · split at hrecv
      · split at hrecv
        · cases hrecv
        · split at hrecv
          · cases hrecv
          · split at hrecv <;> cases hrecv
      · rw [leaveForOthers_outcome] at hrecv
        cases hrecv
  | refreshRate _ | snapshot _ =>
    obtain ⟨_, hreply⟩ := waitForAcknowledgement_outcome h
    cases hreply
  | recovery ticket generation park =>
    obtain ⟨taken, rest, -, htaken⟩ | ⟨received, -, hrecv⟩ := poll_returned h
    · split at htaken <;> cases htaken
    · split at hrecv
      · split at hrecv
        · cases hrecv
        · split at hrecv
          · cases hrecv
          · split at hrecv <;> cases hrecv
      · rw [leaveForOthers_outcome] at hrecv
        cases hrecv
  | borrowAcquire _ | borrowRelease _ =>
    obtain ⟨_, hreply⟩ := exchangeBorrowControl_outcome h
    cases hreply

lemma Wait.pass_modern {known : ApplyResponseProtocol} (hmodern : known ≠ .legacy)
    (hv2 : w.SpeaksV2) (hpres : (w.pass t inbox).Preserves w inbox)
    (htagged : ∀ bytes ∈ inbox, bytes.hasType .applyResult = true → 10 ≤ bytes.length)
    (hscope : ∀ bytes, t.received = .frame bytes → bytes.hasType .applyResult = true →
      10 ≤ bytes.length) :
    rememberApplyResponseProtocol known (w.pass t inbox).outcome ≠ .legacy := by
  unfold rememberApplyResponseProtocol
  split
  next bytes result houtcome =>
    obtain ⟨request, protocol, rfl⟩ := pass_apply houtcome
    obtain ⟨htype, hsource, issued, _, hreply, hdecode⟩ := waitForApplyResult_outcome houtcome
    cases hreply
    have hlength : 10 ≤ bytes.length :=
      hsource.elim (fun hmem => htagged bytes hmem htype) fun hread => hscope bytes hread htype
    have hclaims := hpres.claims bytes (by rw [houtcome]; rfl)
      (.inl ⟨.applyResult, rfl, htype, hlength⟩)
    split
    · rw [protocol_of_decodeApplyResponse hdecode hclaims.2 hv2]
      exact nofun
    · exact hmodern
  · exact hmodern

lemma Turn.poll_read {onFrame : Frame → List Frame × Outcome}
    (h : (t.poll inbox type accepts exhausted onBuffered onFrame).read = some bytes) :
    t.received = .frame bytes := by
  unfold Turn.poll at h
  split at h
  · cases h
  · split at h
    · cases h
    · split at h
      · cases h
      · split at h
        · cases h
        · cases h
        next received hrecv =>
          split at h
          · cases h
            exact hrecv
          · cases h
            exact hrecv

lemma Wait.pass_read (h : (w.pass t inbox).read = some bytes) : t.received = .frame bytes := by
  cases w <;> exact poll_read h

lemma Turn.poll_taken {onFrame : Frame → List Frame × Outcome} {rest : List Frame}
    (hlooks : t.Looks) (htake : takeBufferedResponse inbox type accepts = some (bytes, rest)) :
    (t.poll inbox type accepts exhausted onBuffered onFrame).inbox = rest ∧
      (t.poll inbox type accepts exhausted onBuffered onFrame).read = none := by
  simp only [Turn.poll, hlooks.1, hlooks.2, Bool.or_self, htake]
  exact ⟨rfl, rfl⟩

lemma Wait.pass_taken {rest : List Frame} (hlooks : t.Looks)
    (htake : takeBufferedResponse inbox w.type (w.accepts t) = some (bytes, rest)) :
    (w.pass t inbox).inbox = rest ∧ (w.pass t inbox).read = none := by
  cases w <;> exact poll_taken hlooks htake

lemma length_of_responseRequestId {id : Nat} (hid : responseRequestId bytes = some id) :
    10 ≤ bytes.length := by
  unfold responseRequestId at hid
  split at hid
  · cases hid
  next hlength => exact Nat.not_lt.mp hlength

lemma length_of_acceptsRefreshRate {request : Option Nat} {found : Frame}
    (hcorr : Correlated bytes) (htype : bytes.hasType .refreshRateResult = true)
    (haccepts : acceptsRefreshRate request bytes = true)
    (hfound : acceptsRefreshRate request found = true) : 10 ≤ found.length := by
  cases request with
  | none =>
    have hid := hcorr.responseRequestId rfl htype
    simp [acceptsRefreshRate, hid] at haccepts
  | some request =>
    exact length_of_responseRequestId (by simpa using (and_eq_true_iff.mp hfound).2)

lemma Wait.correlated_of_accepts {found : Frame}
    (htagged : found.hasType .applyResult = true → 10 ≤ found.length)
    (hcorr : Correlated bytes) (htype : bytes.hasType w.type = true)
    (haccepts : w.accepts t bytes = true) (hfoundType : found.hasType w.type = true)
    (hfound : w.accepts t found = true) : Correlated found := by
  cases w with
  | apply request protocol => exact .inl ⟨_, rfl, hfoundType, htagged hfoundType⟩
  | verification request =>
    exact .inl ⟨_, rfl, hfoundType, length_of_responseRequestId (eq_of_beq hfound)⟩
  | refreshRate request =>
    exact .inl ⟨_, rfl, hfoundType, length_of_acceptsRefreshRate hcorr htype haccepts hfound⟩
  | snapshot request =>
    exact .inl ⟨_, rfl, hfoundType,
      length_of_responseRequestId (by simpa using (and_eq_true_iff.mp hfound).2)⟩
  | recovery ticket generation park =>
    have hlength := (and_eq_true_iff.mp (and_eq_true_iff.mp hfound).1).1
    exact .inr (.inl ⟨hfoundType, by simpa using hlength⟩)
  | borrowAcquire request =>
    obtain ⟨result, hresult⟩ := isSome_iff_exists.mp hfound
    refine .inr (.inr ⟨.inl hfoundType, ?_⟩)
    rw [(decodeBorrow_spec hresult).2.1]
    rfl
  | borrowRelease request =>
    obtain ⟨result, hresult⟩ := isSome_iff_exists.mp hfound
    refine .inr (.inr ⟨.inr hfoundType, ?_⟩)
    rw [(decodeBorrow_spec hresult).2.1]
    rfl

/-! ## Runs -/

lemma map_snd_toList (w : Wait) (frame? : Option Frame) :
    ((frame?.map (w, ·)).toList).map Prod.snd = frame?.toList := by
  cases frame? <;> rfl

lemma Session.Sound.finish (h : s.Sound) (hreader : s.reader = some w)
    (hroom : w.Room t s.inbox) (hscope : ∀ bytes, t.received = .frame bytes →
      bytes.hasType .applyResult = true → 10 ≤ bytes.length)
    (hord : w.Orderly t s.inbox) : (s.finish w (w.pass t s.inbox)).Sound := by
  have hv2 := h.reader w hreader
  have hpres := pass_preserves hv2 hroom hord
  constructor
  · constructor
    · intro bytes hcorr
      have hbefore := h.accounted.counts bytes hcorr
      have hturn := hpres.counts bytes hcorr
      simp only [Session.finish, List.count_append, List.map_append, map_snd_toList]
      omega
    · intro answer hanswer hcorr
      obtain hold | hnew := List.mem_append.mp hanswer
      · exact h.accounted.claims answer hold hcorr
      · obtain ⟨bytes, hframe, rfl⟩ := map_eq_some_iff.mp (mem_toList.mp hnew)
        exact hpres.claims bytes hframe hcorr
  · exact pass_modern h.modern hv2 hpres h.tagged hscope
  · intro other hother
    simp only [Session.finish] at hother
    split at hother
    · cases hother
      exact hv2
    · cases hother
  · intro bytes hmem htype
    obtain hkept | hread := hpres.known bytes hmem
    · exact h.tagged bytes hkept htype
    · exact hscope bytes (pass_read hread) htype

lemma Session.Sound.step {event : Event} (h : s.Sound) (hadmits : s.Admits event)
    (hord : s.Orderly event) : (s.step event).Sound := by
  cases event with
  | lock w =>
    refine ⟨⟨h.accounted.counts, h.accounted.claims⟩, h.modern, fun other hother => ?_, h.tagged⟩
    cases hother
    exact hadmits.2.speaksV2 h.modern
  | turn t =>
    obtain ⟨w, hreader, hroom, hscope⟩ := hadmits
    have hstep : s.step (.turn t) = s.finish w (w.pass t s.inbox) := by
      simp only [Session.step, hreader]
    rw [hstep]
    exact h.finish hreader hroom hscope (hord w hreader)

lemma sound_init : readers.init.Sound where
  accounted := ⟨fun _ _ => rfl, nofun⟩
  modern := nofun
  reader := nofun
  tagged := nofun

lemma Session.Sound.answers (h : s.Sound) : s.Answers := by
  intro w t bytes hreader hadmits hord hmem hcorr htype haccepts hlooks
  have hord := hord w hreader
  obtain ⟨found, rest, htake⟩ := exists_takeBufferedResponse hmem htype haccepts
  obtain ⟨hfoundType, hfoundAccepts, hperm⟩ := takeBufferedResponse_spec htake
  have hfound : found ∈ s.inbox := hperm.mem_iff.mpr List.mem_cons_self
  have hfoundCorrelated := correlated_of_accepts (h.tagged found hfound) hcorr htype
    haccepts hfoundType hfoundAccepts
  obtain ⟨_, hsame, hroom, -⟩ := hadmits
  obtain rfl := Option.some.inj (hreader.symm.trans hsame)
  have hpres := pass_preserves (h.reader w hreader) hroom hord
  obtain ⟨hinbox, hread⟩ := pass_taken hlooks htake
  have hcounts := hpres.counts found hfoundCorrelated
  rw [hinbox, hread, hperm.count_eq, List.count_cons_self] at hcounts
  cases houtcome : (w.pass t s.inbox).outcome with
  | returned answer reply =>
    have hsame : answer = found := by
      by_contra hne
      simp [houtcome, Outcome.frame?, List.count_cons_of_ne hne] at hcounts
    subst hsame
    exact ⟨answer, reply, hfound, hfoundAccepts, rfl⟩
  | continued | stopped =>
    simp [houtcome, Outcome.frame?] at hcounts

/-- In a run in which no reader drops what it holds, every reply stays accounted for, and a call
finds its own. -/
theorem replies_kept (h : readers.ReachableUnder Session.Orderly s) : s.Accounted ∧ s.Answers := by
  have hsound : s.Sound := h.invariant sound_init fun _ _ hsound hadmits hord =>
    hsound.step hadmits hord
  exact ⟨hsound.accounted, hsound.answers⟩

def snapshotReply : Frame := [12, 1, 5, 0, 0, 0, 0, 0, 0, 0]

lemma correlated_snapshotReply : Correlated snapshotReply :=
  .inl ⟨.snapshotResult, rfl, rfl, Nat.le_refl _⟩

def readsSnapshot (cancelled : Bool) : Turn :=
  { received := .frame snapshotReply, cancelledReceived := cancelled }

lemma admits_readsSnapshot (cancelled : Bool) :
    Session.Admits (({} : Session).step (.lock (.verification 7))) (.turn (readsSnapshot cancelled)) := by
  refine ⟨_, rfl, fun _ _ _ _ => by decide, fun bytes hrecv _ => ?_⟩
  obtain rfl := Received.frame.inj hrecv
  exact Nat.le_refl _

theorem snapshot_reply_kept :
    let s := readers.run {} [.lock (.verification 7), .turn (readsSnapshot false)]
    s.Accounted ∧ s.Answers := by
  refine replies_kept (.snoc (.snoc .refl ⟨rfl, trivial⟩ trivial) (admits_readsSnapshot false) ?_)
  intro w hw
  obtain rfl := Option.some.inj hw
  refine ⟨fun _ _ _ htake => ?_, fun _ _ _ bytes hrecv _ => ⟨rfl, fun htype => ?_⟩⟩
  · cases htake
  · obtain rfl := Received.frame.inj hrecv
    exact absurd htype (by decide)

/-- Superseded in the same step, the verification wait drops the snapshot reply. -/
theorem snapshot_reply_dropped : ¬ ∀ s, readers.Reachable s → s.Accounted ∧ s.Answers := by
  intro h
  have hrun := h (readers.run {} [.lock (.verification 7), .turn (readsSnapshot true)])
    (.snoc (.snoc .refl ⟨rfl, trivial⟩ trivial)
      (admits_readsSnapshot true) trivial)
  exact absurd (hrun.1.counts snapshotReply correlated_snapshotReply) (by decide)

end Vibeshine.HelperIpc
