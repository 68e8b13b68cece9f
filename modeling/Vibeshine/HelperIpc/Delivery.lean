import Vibeshine.HelperIpc.Waits
import Vibeshine.Library.System

/-! # No reply is lost

The readers of one session, turn by turn. A reply that a reader took from the pipe is
accounted for while it lies in the inbox or was returned to the call it answers.
-/

namespace Vibeshine.HelperIpc

open Library Turn Bool

variable {t : Turn} {w : Wait} {inbox rest : List Frame} {bytes : Frame} {type : MsgType}
  {accepts : Frame → Bool}

inductive Answered (w : Wait) (bytes : Frame) (outcome : Outcome) : Prop where
  | ignored (hnone : outcome.frame? = none) (hstray : ¬Correlated bytes)
  | returned (hsome : outcome.frame? = some bytes) (hclaims : Correlated bytes → w.Claims bytes)

inductive Disposed (w : Wait) (inbox : List Frame) (bytes : Frame) : List Frame × Outcome → Prop where
  | answered {outcome : Outcome} (h : Answered w bytes outcome) : Disposed w inbox bytes (inbox, outcome)
  | buffered : Disposed w inbox bytes (inbox ++ [bytes], .continued)

lemma disposed_ignored (hstray : ¬Correlated bytes) : Disposed w inbox bytes (inbox, .continued) :=
  .answered (.ignored rfl hstray)

lemma Correlated.bufferable (h : Correlated bytes) :
    isBufferableResponse (bytes.byte 0) = true := by
  obtain ⟨type, hne, htype⟩ := h.hasType
  exact Frame.bufferable_of_hasType htype hne

/-! ## One turn -/

/-- What a turn does to the replies: none appears or vanishes, none goes to another call. -/
structure Pass.Preserves (pass : Pass) (w : Wait) (inbox : List Frame) : Prop where
  counts : ∀ bytes, Correlated bytes → inbox.count bytes + pass.read.toList.count bytes =
    pass.inbox.count bytes + pass.outcome.frame?.toList.count bytes
  claims : ∀ bytes, pass.outcome.frame? = some bytes → Correlated bytes → w.Claims bytes
  known : ∀ bytes ∈ pass.inbox, bytes ∈ inbox ∨ pass.read = some bytes

lemma preserves_idle {outcome : Outcome} (hnone : outcome.frame? = none) :
    (⟨inbox, none, outcome⟩ : Pass).Preserves w inbox where
  counts _ _ := by simp [hnone]
  claims bytes hsome := by simp [hnone] at hsome
  known _ hmem := .inl hmem

lemma preserves_taken {outcome : Outcome} (hperm : inbox.Perm (bytes :: rest))
    (hanswered : Answered w bytes outcome) : (⟨rest, none, outcome⟩ : Pass).Preserves w inbox := by
  have hknown : ∀ reply ∈ rest, reply ∈ inbox ∨ (none : Option Frame) = some reply :=
    fun reply hmem => .inl (hperm.mem_iff.mpr (List.mem_cons_of_mem _ hmem))
  cases hanswered with
  | ignored hnone hstray =>
    refine ⟨fun reply hreply => ?_, fun reply hsome => by simp [hnone] at hsome, hknown⟩
    have hne : bytes ≠ reply := by
      rintro rfl
      exact hstray hreply
    simp [hnone, hperm.count_eq, List.count_cons_of_ne hne]
  | returned hsome hclaims =>
    refine ⟨fun reply _ => ?_, fun reply hreply => ?_, hknown⟩
    · rw [hsome, hperm.count_eq, List.count_cons]
      simp [List.count_cons]
    · rw [hsome] at hreply
      cases hreply
      exact hclaims

lemma preserves_read {disposal : List Frame × Outcome} (h : Disposed w inbox bytes disposal) :
    (⟨disposal.1, some bytes, disposal.2⟩ : Pass).Preserves w inbox := by
  cases h with
  | buffered =>
    refine ⟨fun reply _ => ?_, nofun, fun reply hmem => ?_⟩
    · simp [List.count_append, Outcome.frame?]
    · simpa [eq_comm] using hmem
  | answered hanswered =>
    cases hanswered with
    | ignored hnone hstray =>
      refine ⟨fun reply hreply => ?_, fun reply hsome => ?_, fun reply hmem => .inl hmem⟩
      · have hne : bytes ≠ reply := by
          rintro rfl
          exact hstray hreply
        simp [hnone, List.count_cons_of_ne hne]
      · simp [hnone] at hsome
    | returned hsome hclaims =>
      refine ⟨fun reply _ => ?_, fun reply hreply => ?_, fun reply hmem => .inl hmem⟩
      · simp [hsome]
      · simp only [hsome, Option.some.injEq] at hreply
        subst hreply
        exact hclaims

section Poll

variable {exhausted : Bool} {onBuffered : Frame → Outcome} {onFrame : Frame → List Frame × Outcome}

def Turn.Looks (t : Turn) : Prop := t.expired = false ∧ t.cancelled = false

lemma Turn.poll_preserves
    (htaken : t.Looks → ∀ bytes rest, takeBufferedResponse inbox type accepts = some (bytes, rest) →
      Answered w bytes (onBuffered bytes))
    (hread : t.Looks → takeBufferedResponse inbox type accepts = none → exhausted = false →
      ∀ bytes, t.received = .frame bytes →
        (Correlated bytes → t.cancelledReceived = false) ∧ Disposed w inbox bytes (onFrame bytes)) :
    (t.poll inbox type accepts exhausted onBuffered onFrame).Preserves w inbox := by
  unfold Turn.poll
  split
  · exact preserves_idle rfl
  next hlooks =>
    have hlooks : t.Looks := by simpa [Turn.Looks] using hlooks
    split
    next taken rest htake =>
      exact preserves_taken (takeBufferedResponse_spec htake).2.2 (htaken hlooks _ _ htake)
    next htake =>
      split
      · exact preserves_idle rfl
      next hexhausted =>
        have hexhausted : exhausted = false := by simpa using hexhausted
        split
        · exact preserves_idle rfl
        · exact preserves_idle rfl
        next received hrecv =>
          obtain ⟨hkept, hdisposed⟩ := hread hlooks htake hexhausted _ hrecv
          split
          next hdropped =>
            refine preserves_read (.answered (.ignored rfl fun hcorr => ?_))
            rw [hkept hcorr, Bool.false_or, List.isEmpty_iff] at hdropped
            exact hcorr.ne_nil hdropped
          · exact preserves_read hdisposed

end Poll

def ForeignFailure (issued : List Nat) (request : Nat) (protocol : ApplyResponseProtocol)
    (bytes : Frame) : Prop :=
  protocol = .unknown ∧ bytes.byte 1 = 0 ∧
    ∃ id, responseRequestId bytes = some id ∧ id ≠ request ∧ id ∉ issued

def Wait.KeepsTaken (t : Turn) (bytes : Frame) : Wait → Prop
  | .apply request protocol => ¬ForeignFailure t.issued request protocol bytes
  | .verification _ | .refreshRate _ | .snapshot _ => t.cancelledTaken = false
  | .recovery _ _ _ => wellFormedRecovery bytes = true
  | .borrowAcquire request =>
    (decodeBorrow t.peerTaken .borrowAcquireResult request bytes).isSome = true
  | .borrowRelease request =>
    (decodeBorrow t.peerTaken .borrowReleaseResult request bytes).isSome = true

def Wait.KeepsRead (t : Turn) (bytes : Frame) : Wait → Prop
  | .apply request protocol =>
    bytes.hasType .applyResult = true → ¬ForeignFailure t.issuedReceived request protocol bytes
  | .verification request =>
    bytes.hasType .verificationResult = true → responseRequestId bytes = some request →
      t.cancelledMatched = false
  | .recovery ticket _ park =>
    bytes.hasType .recoveryStatusResult = true → responseTicket bytes = ticket → park = true →
      bytes.byte 9 = RecoveryStatus.failed → bytes.byte 18 = 1
  | _ => True

def Wait.exhausted (t : Turn) : Wait → Bool
  | .recovery _ _ _ => t.exhausted
  | _ => false

/-- The call returns this frame when it comes from the pipe. -/
def Wait.Returns (t : Turn) (bytes : Frame) : Wait → Bool
  | .apply request protocol => (decodeApplyResponse t.issuedReceived bytes request protocol).isSome
  | .recovery ticket _ park => acceptsRecovery ticket park bytes && wellFormedRecovery bytes
  | .borrowAcquire request =>
    (decodeBorrow t.peerReceived .borrowAcquireResult request bytes).isSome
  | .borrowRelease request =>
    (decodeBorrow t.peerReceived .borrowReleaseResult request bytes).isSome
  | w => w.accepts t bytes

/-- A reply to another call finds room in the inbox. -/
def Wait.Room (w : Wait) (t : Turn) (inbox : List Frame) : Prop :=
  ∀ bytes, t.received = .frame bytes → isBufferableResponse (bytes.byte 0) = true →
    (bytes.hasType w.type = true → w.Returns t bytes = false) →
      inbox.length < kMaxBufferedResponses

lemma disposed_bufferResponse (hroom : w.Room t inbox) (hrecv : t.received = .frame bytes)
    (hother : bytes.hasType w.type = true → w.Returns t bytes = false) :
    Disposed w inbox bytes (bufferResponse inbox bytes, .continued) := by
  obtain ⟨hnot, hsame⟩ | hbuffered :=
    bufferResponse_cases fun hbufferable => hroom bytes hrecv hbufferable hother
  · rw [hsame]
    exact disposed_ignored fun hcorr => by simp [hcorr.bufferable] at hnot
  · rw [hbuffered]
    exact .buffered

lemma disposed_leaveForOthers (hroom : w.Room t inbox) (hrecv : t.received = .frame bytes)
    (hother : ¬bytes.hasType w.type = true) :
    Disposed w inbox bytes (leaveForOthers inbox bytes) := by
  unfold leaveForOthers
  split
  next hping =>
    refine disposed_ignored fun hcorr => ?_
    obtain ⟨type, hne, htype⟩ := hcorr.hasType
    exact hne (Frame.hasType_unique htype hping)
  · split
    · exact disposed_bufferResponse hroom hrecv fun htype => absurd htype hother
    next hnot => exact disposed_ignored fun hcorr => hnot hcorr.bufferable

/-- No reply is in the hand of the reader when a test makes it drop what it holds. -/
structure Wait.Orderly (w : Wait) (t : Turn) (inbox : List Frame) : Prop where
  taken : t.Looks → ∀ bytes rest,
    takeBufferedResponse inbox w.type (w.accepts t) = some (bytes, rest) → Correlated bytes →
      w.KeepsTaken t bytes
  read : t.Looks → takeBufferedResponse inbox w.type (w.accepts t) = none →
    w.exhausted t = false → ∀ bytes, t.received = .frame bytes → Correlated bytes →
      t.cancelledReceived = false ∧ w.KeepsRead t bytes

def Wait.SpeaksV2 : Wait → Prop
  | .apply _ protocol => protocol ≠ .legacy
  | _ => True

/-! ## Every loop preserves the replies -/

section Decode

variable {issued : List Nat} {request id : Nat} {protocol : ApplyResponseProtocol}
  {result : ApplyResult}

lemma decodeApplyResponse_own (hid : responseRequestId bytes = some request)
    (hv2 : protocol ≠ .legacy) :
    (decodeApplyResponse issued bytes request protocol).isSome = true := by
  have hlength : ¬bytes.length < 2 := by
    intro hshort
    rw [responseRequestId, if_pos (Nat.lt_trans hshort (by decide))] at hid
    cases hid
  unfold decodeApplyResponse
  dsimp only
  rw [if_neg hlength]
  cases protocol with
  | legacy => exact absurd rfl hv2
  | v2 | unknown => simp [hid]

lemma id_of_decodeApplyResponse
    (hdecode : decodeApplyResponse issued bytes request protocol = some result)
    (hid : responseRequestId bytes = some id) (hv2 : protocol ≠ .legacy)
    (hforeign : ¬ForeignFailure issued request protocol bytes) : id = request := by
  unfold decodeApplyResponse at hdecode
  dsimp only at hdecode
  split at hdecode
  · cases hdecode
  · cases protocol with
    | legacy => exact absurd rfl hv2
    | v2 =>
      by_contra hne
      have hother : responseRequestId bytes ≠ some request := by
        rw [hid]
        exact fun h => hne (Option.some.inj h)
      simp [hother] at hdecode
    | unknown =>
      by_contra hne
      simp only [hid, if_neg hne] at hdecode
      split at hdecode
      · cases hdecode
      next hissued =>
        split at hdecode
        · cases hdecode
        next hfailed =>
          have hzero : bytes.byte 1 = 0 := by simpa using hfailed
          exact hforeign ⟨rfl, hzero, id, hid, hne, hissued⟩

end Decode

lemma waitForApplyResult_preserves {request : Nat} {protocol : ApplyResponseProtocol}
    (hv2 : protocol ≠ .legacy)
    (hroom : (Wait.apply request protocol).Room t inbox)
    (hord : (Wait.apply request protocol).Orderly t inbox) :
    (waitForApplyResult t inbox request protocol).Preserves (.apply request protocol) inbox := by
  refine poll_preserves (fun hlooks bytes rest htake => ?_)
    fun hlooks htake hexhausted bytes hrecv =>
      ⟨fun hcorr => (hord.read hlooks htake rfl bytes hrecv hcorr).1, ?_⟩
  · obtain ⟨htype, haccepts, -⟩ := takeBufferedResponse_spec htake
    obtain ⟨result, hresult⟩ := Option.isSome_iff_exists.mp haccepts
    have hid : Correlated bytes → responseRequestId bytes = some request := by
      intro hcorr
      have hread := hcorr.responseRequestId rfl htype
      rw [hread, id_of_decodeApplyResponse hresult hread hv2
        (hord.taken hlooks bytes rest htake hcorr)]
    split
    next hnone =>
      refine .ignored rfl fun hcorr => ?_
      have hsome : (decodeApplyResponse t.issuedTaken bytes request protocol).isSome = true :=
        decodeApplyResponse_own (hid hcorr) hv2
      rw [hnone] at hsome
      cases hsome
    · exact .returned rfl fun hcorr => ⟨htype, hid hcorr⟩
  · split
    next htype =>
      split
      next hnone => exact disposed_bufferResponse hroom hrecv fun _ => by simp [Wait.Returns, hnone]
      next result hresult =>
        refine .answered (.returned rfl fun hcorr => ⟨htype, ?_⟩)
        have hread := hcorr.responseRequestId rfl htype
        have hkeeps := (hord.read hlooks htake rfl bytes hrecv hcorr).2
        rw [hread, id_of_decodeApplyResponse hresult hread hv2 (hkeeps htype)]
    next hother => exact disposed_leaveForOthers hroom hrecv hother

lemma waitForVerificationResult_preserves {request : Nat}
    (hroom : (Wait.verification request).Room t inbox)
    (hord : (Wait.verification request).Orderly t inbox) :
    (waitForVerificationResult t inbox request).Preserves (.verification request) inbox := by
  refine poll_preserves (fun hlooks bytes rest htake => ?_)
    fun hlooks htake hexhausted bytes hrecv =>
      ⟨fun hcorr => (hord.read hlooks htake rfl bytes hrecv hcorr).1, ?_⟩
  · obtain ⟨htype, haccepts, -⟩ := takeBufferedResponse_spec htake
    split
    next hcancelled =>
      refine .ignored rfl fun hcorr => ?_
      have hkept : t.cancelledTaken = false := hord.taken hlooks bytes rest htake hcorr
      rw [hkept] at hcancelled
      cases hcancelled
    · exact .returned rfl fun _ => ⟨htype, by simpa [matchesVerificationResponse] using haccepts⟩
  · split
    next htype =>
      split
      next hshort =>
        refine disposed_ignored fun hcorr => ?_
        exact absurd (hcorr.length_of_hasType rfl htype) (Nat.not_le.mpr hshort)
      · split
        next hmatches =>
          exact disposed_bufferResponse hroom hrecv fun _ => by
            simpa [Wait.Returns, Wait.accepts] using hmatches
        next hmatches =>
          have hid : responseRequestId bytes = some request := by
            simpa [matchesVerificationResponse] using hmatches
          split
          next hcancelled =>
            refine .answered (.ignored rfl fun hcorr => ?_)
            have hkeeps := (hord.read hlooks htake rfl bytes hrecv hcorr).2
            rw [hkeeps htype hid] at hcancelled
            cases hcancelled
          · exact .answered (.returned rfl fun _ => ⟨htype, hid⟩)
    next hother => exact disposed_leaveForOthers hroom hrecv hother

lemma waitForAcknowledgement_preserves (htype : w.type = type)
    (hcarries : type.carriesRequestId = true)
    (hclaims : ∀ bytes, bytes.hasType type = true → accepts bytes = true → Correlated bytes →
      w.Claims bytes)
    (hroom : w.Room t inbox)
    (hkeeps : ∀ bytes, w.KeepsTaken t bytes → t.cancelledTaken = false)
    (haccepts : w.accepts t = accepts) (hreturns : ∀ bytes, w.Returns t bytes = accepts bytes)
    (hexhausted : w.exhausted t = false)
    (hord : w.Orderly t inbox) :
    (waitForAcknowledgement t inbox type accepts).Preserves w inbox := by
  subst htype haccepts
  refine poll_preserves (fun hlooks bytes rest htake => ?_)
    fun hlooks htake _ bytes hrecv =>
      ⟨fun hcorr => (hord.read hlooks htake hexhausted bytes hrecv hcorr).1, ?_⟩
  · obtain ⟨htype, haccepts, -⟩ := takeBufferedResponse_spec htake
    split
    next hcancelled =>
      refine .ignored rfl fun hcorr => ?_
      rw [hkeeps bytes (hord.taken hlooks bytes rest htake hcorr)] at hcancelled
      cases hcancelled
    · exact .returned rfl (hclaims bytes htype haccepts)
  · split
    next htype =>
      split
      next haccepts => exact .answered (.returned rfl (hclaims bytes htype haccepts))
      next haccepts =>
        split
        · exact disposed_bufferResponse hroom hrecv fun _ => by simpa [hreturns] using haccepts
        next hnone =>
          refine disposed_ignored fun hcorr => hnone ?_
          rw [hcorr.responseRequestId hcarries htype]
          rfl
    next hother => exact disposed_leaveForOthers hroom hrecv hother

lemma waitForRefreshRateResult_preserves {request : Option Nat}
    (hroom : (Wait.refreshRate request).Room t inbox)
    (hord : (Wait.refreshRate request).Orderly t inbox) :
    (waitForRefreshRateResult t inbox request).Preserves (.refreshRate request) inbox := by
  refine waitForAcknowledgement_preserves rfl rfl (fun bytes htype haccepts hcorr => ?_)
    hroom (fun _ hkeeps => hkeeps) rfl (fun _ => rfl) rfl hord
  refine ⟨htype, ?_⟩
  have hid := hcorr.responseRequestId rfl htype
  cases request with
  | none => simp [acceptsRefreshRate, hid] at haccepts
  | some request => simpa using (and_eq_true_iff.mp haccepts).2

lemma waitForSnapshotResult_preserves {request : Nat}
    (hroom : (Wait.snapshot request).Room t inbox)
    (hord : (Wait.snapshot request).Orderly t inbox) :
    (waitForSnapshotResult t inbox request).Preserves (.snapshot request) inbox := by
  refine waitForAcknowledgement_preserves rfl rfl (fun bytes htype haccepts _ => ⟨htype, ?_⟩)
    hroom (fun _ hkeeps => hkeeps) rfl (fun _ => rfl) rfl hord
  simpa using (and_eq_true_iff.mp haccepts).2

lemma ticket_of_acceptsRecovery {ticket : Nat} {park : Bool}
    (h : acceptsRecovery ticket park bytes = true) : responseTicket bytes = ticket := by
  simp only [acceptsRecovery, and_eq_true, beq_iff_eq] at h
  exact h.1.2

lemma queryRecoveryStatus_preserves {ticket generation : Nat} {park : Bool}
    (hroom : (Wait.recovery ticket generation park).Room t inbox)
    (hord : (Wait.recovery ticket generation park).Orderly t inbox) :
    (queryRecoveryStatus t inbox ticket generation park).Preserves
      (.recovery ticket generation park) inbox := by
  refine poll_preserves (fun hlooks bytes rest htake => ?_)
    fun hlooks htake hexhausted bytes hrecv =>
      ⟨fun hcorr => (hord.read hlooks htake hexhausted bytes hrecv hcorr).1, ?_⟩
  · obtain ⟨htype, haccepts, -⟩ := takeBufferedResponse_spec htake
    split
    · exact .returned rfl fun _ => ⟨htype, ticket_of_acceptsRecovery haccepts⟩
    next hmalformed =>
      exact .ignored rfl fun hcorr =>
        hmalformed (hord.taken hlooks bytes rest htake hcorr)
  · split
    next htype =>
      split
      next hshort =>
        exact disposed_ignored fun hcorr =>
          absurd (hcorr.length_of_recovery htype) (Nat.not_le.mpr hshort)
      · split
        next hown =>
          have haccepts := (and_eq_true_iff.mp hown).1
          exact .answered (.returned rfl fun _ => ⟨htype, ticket_of_acceptsRecovery haccepts⟩)
        next hown =>
          split
          next hunparked =>
            simp only [and_eq_true, beq_iff_eq, bne_iff_ne] at hunparked
            obtain ⟨⟨⟨hticket, hfailed⟩, hpark⟩, hflag⟩ := hunparked
            refine disposed_ignored fun hcorr => hflag ?_
            exact (hord.read hlooks htake hexhausted bytes hrecv hcorr).2
              htype hticket hpark hfailed
          · exact disposed_bufferResponse hroom hrecv fun _ => by simpa [Wait.Returns] using hown
    next hother => exact disposed_leaveForOthers hroom hrecv hother

lemma decodeBorrow_spec {peer : Option Nat} {request : Borrow.Request} {result : Borrow.Result}
    (h : decodeBorrow peer type request bytes = some result) :
    bytes.hasType type = true ∧ Borrow.decodeResult bytes.tail = some result ∧
      result.token.request = request := by
  unfold decodeBorrow at h
  split at h
  next htype =>
    split at h
    · cases h
    next found hfound =>
      split at h
      next hmatches =>
        cases h
        exact ⟨htype, hfound, hmatches.1⟩
      · cases h
  · cases h

lemma exchangeBorrowControl_preserves {request : Borrow.Request} (htype : w.type = type)
    (hclaims : ∀ bytes result, bytes.hasType type = true →
      Borrow.decodeResult bytes.tail = some result → result.token.request = request →
        w.Claims bytes)
    (hroom : w.Room t inbox)
    (haccepts : w.accepts t = fun bytes => (decodeBorrow t.peer type request bytes).isSome)
    (hreturns : ∀ bytes,
      w.Returns t bytes = (decodeBorrow t.peerReceived type request bytes).isSome)
    (hkeeps : ∀ bytes, w.KeepsTaken t bytes →
      (decodeBorrow t.peerTaken type request bytes).isSome = true)
    (hexhausted : w.exhausted t = false) (hord : w.Orderly t inbox) :
    (exchangeBorrowControl t inbox type request).Preserves w inbox := by
  subst htype
  have hanswer : ∀ bytes peer result, decodeBorrow peer w.type request bytes = some result →
      w.Claims bytes := by
    intro bytes peer result hdecode
    obtain ⟨hown, hresult, hrequest⟩ := decodeBorrow_spec hdecode
    exact hclaims bytes result hown hresult hrequest
  have htaken := hord.taken
  have hread := hord.read
  rw [haccepts] at htaken hread
  refine poll_preserves (fun hlooks bytes rest htake => ?_)
    fun hlooks htake _ bytes hrecv =>
      ⟨fun hcorr => (hread hlooks htake hexhausted bytes hrecv hcorr).1, ?_⟩
  · split
    next hnone =>
      refine .ignored rfl fun hcorr => ?_
      have hsome := hkeeps bytes (htaken hlooks bytes rest htake hcorr)
      rw [hnone] at hsome
      cases hsome
    next result hdecode => exact .returned rfl fun _ => hanswer bytes _ result hdecode
  · split
    next hnone => exact disposed_bufferResponse hroom hrecv fun _ => by simp [hreturns, hnone]
    next result hdecode =>
      exact .answered (.returned rfl fun _ => hanswer bytes _ result hdecode)

lemma Wait.pass_preserves (hv2 : w.SpeaksV2)
    (hroom : w.Room t inbox)
    (hord : w.Orderly t inbox) : (w.pass t inbox).Preserves w inbox := by
  cases w with
  | apply request protocol => exact waitForApplyResult_preserves hv2 hroom hord
  | verification request => exact waitForVerificationResult_preserves hroom hord
  | refreshRate request => exact waitForRefreshRateResult_preserves hroom hord
  | snapshot request => exact waitForSnapshotResult_preserves hroom hord
  | recovery ticket generation park => exact queryRecoveryStatus_preserves hroom hord
  | borrowAcquire _ | borrowRelease _ =>
    exact exchangeBorrowControl_preserves rfl
      (fun bytes result htype hresult hrequest => ⟨htype, result, hresult, hrequest⟩) hroom rfl
      (fun _ => rfl) (fun _ hkeeps => hkeeps) rfl hord

end Vibeshine.HelperIpc
