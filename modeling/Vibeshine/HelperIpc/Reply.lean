import Mathlib.Data.List.Perm.Basic

/-! # Replies of the display helper

The frames a helper answers with, as the client takes them apart, and the inbox in which a
reader leaves what it read for somebody else.
-/

namespace Vibeshine.HelperIpc

/-- A message as `receive` hands it over: the type, then the payload. -/
abbrev Frame := List UInt8

/-- `MsgType`, as far as a reader tells the types apart. -/
inductive MsgType where
  | applyResult
  | verificationResult
  | refreshRateResult
  | snapshotResult
  | recoveryStatusResult
  | borrowAcquireResult
  | borrowReleaseResult
  | ping
  deriving DecidableEq

def MsgType.code : MsgType → UInt8
  | .applyResult => 6
  | .verificationResult => 9
  | .refreshRateResult => 11
  | .snapshotResult => 12
  | .recoveryStatusResult => 16
  | .borrowAcquireResult => 18
  | .borrowReleaseResult => 20
  | .ping => 0xFE

lemma MsgType.code_injective : Function.Injective MsgType.code := by
  intro first second hcode
  revert hcode
  cases first <;> cases second <;> decide

/-- The frame is of the type `type`. -/
def Frame.hasType (bytes : Frame) (type : MsgType) : Bool := bytes.head? == some type.code

lemma Frame.hasType_unique {bytes : Frame} {first second : MsgType}
    (hfirst : bytes.hasType first = true) (hsecond : bytes.hasType second = true) :
    first = second := by
  simp only [Frame.hasType, beq_iff_eq] at hfirst hsecond
  exact MsgType.code_injective (Option.some.inj (hfirst.symm.trans hsecond))

def littleEndian : List UInt8 → Nat
  | [] => 0
  | byte :: rest => byte.toNat + 256 * littleEndian rest

def read (bytes : Frame) (offset count : Nat) : Nat := littleEndian ((bytes.drop offset).take count)

/-- `bytes[index]`, which every caller asks for within the frame. -/
def Frame.byte (bytes : Frame) (index : Nat) : UInt8 := bytes.getD index 0

def responseRequestId (bytes : Frame) : Option Nat :=
  if bytes.length < 10 then none else some (read bytes 2 8)

def responseTicket (bytes : Frame) : Nat := read bytes 1 8

inductive ApplyResponseProtocol where
  | unknown
  | legacy
  | v2
  deriving DecidableEq

structure ApplyResult where
  success : Bool := false
  protocol : ApplyResponseProtocol := .unknown
  deriving DecidableEq

/-- `decode_apply_response`; `issued` are the ids that `was_issued_apply_request_id` knows. -/
def decodeApplyResponse (issued : List Nat) (bytes : Frame) (expectedRequestId : Nat)
    (protocol : ApplyResponseProtocol) : Option ApplyResult :=
  let success := bytes.byte 1 != 0
  if bytes.length < 2 then none
  else
    match protocol with
    | .legacy => some ⟨success, .legacy⟩
    | .v2 =>
      if responseRequestId bytes = some expectedRequestId then some ⟨success, .v2⟩ else none
    | .unknown =>
      match responseRequestId bytes with
      | none => some ⟨success, .legacy⟩
      | some requestId =>
        if requestId = expectedRequestId then some ⟨success, .v2⟩
        else if requestId ∈ issued then none
        -- Taken for the error text of a helper that knows no ids.
        else if success then none
        else some ⟨false, .legacy⟩

def matchesVerificationResponse (bytes : Frame) (expectedRequestId : Nat) : Bool :=
  responseRequestId bytes == some expectedRequestId

namespace Borrow

structure ProcessContext where
  pid : Nat
  creationTime : Nat
  deriving DecidableEq

def ProcessContext.valid (p : ProcessContext) : Bool := p.pid != 0 && p.creationTime != 0

structure Request where
  controller : ProcessContext
  id : Nat
  deriving DecidableEq

def Request.valid (r : Request) : Bool := r.controller.valid && r.id != 0

structure Token where
  request : Request
  helper : ProcessContext
  connectionEpoch : Nat
  deriving DecidableEq

def Token.valid (t : Token) : Bool := t.request.valid && t.helper.valid && t.connectionEpoch != 0

structure Result where
  token : Token
  success : Bool
  nativeKeepaliveHandle : Nat
  deriving DecidableEq

def protocolVersion : Nat := 1

def requestPrefix (bytes : Frame) : Option Request :=
  if bytes.length < 24 ∨ read bytes 0 4 ≠ protocolVersion then none
  else
    let request : Request := ⟨⟨read bytes 4 4, read bytes 8 8⟩, read bytes 16 8⟩
    if request.valid then some request else none

def decodeRelease (bytes : Frame) : Option Token :=
  match requestPrefix bytes with
  | none => none
  | some request =>
    if bytes.length ≠ 44 then none
    else
      let token : Token := ⟨request, ⟨read bytes 24 4, read bytes 28 8⟩, read bytes 36 8⟩
      let cancellation :=
        token.helper.pid == 0 && token.helper.creationTime == 0 && token.connectionEpoch == 0
      if token.valid || cancellation then some token else none

def decodeResult (bytes : Frame) : Option Result :=
  if bytes.length ≠ 53 ∨ 1 < bytes.byte 52 then none
  else
    match decodeRelease (bytes.take 44) with
    | none => none
    | some token =>
      if token.valid then some ⟨token, bytes.byte 52 != 0, read bytes 44 8⟩ else none

end Borrow

/-! ## The inbox -/

def kMaxBufferedResponses : Nat := 32

def isBufferableResponse (type : UInt8) : Bool :=
  type == MsgType.applyResult.code || type == MsgType.verificationResult.code ||
    type == MsgType.refreshRateResult.code || type == MsgType.snapshotResult.code ||
    type == MsgType.recoveryStatusResult.code || type == MsgType.borrowAcquireResult.code ||
    type == MsgType.borrowReleaseResult.code

def bufferResponse (inbox : List Frame) (bytes : Frame) : List Frame :=
  match bytes with
  | [] => inbox
  | type :: _ =>
    if isBufferableResponse type then
      (if inbox.length = kMaxBufferedResponses then inbox.tail else inbox) ++ [bytes]
    else inbox

/-- `take_buffered_response`: the oldest reply that is asked for, and the inbox without it. -/
def takeBufferedResponse (inbox : List Frame) (type : MsgType) (accepts : Frame → Bool) :
    Option (Frame × List Frame) :=
  let wanted := fun bytes : Frame => bytes.hasType type && accepts bytes
  match inbox.find? wanted with
  | none => none
  | some bytes => some (bytes, inbox.eraseP wanted)

variable {inbox rest : List Frame} {bytes : Frame} {type : MsgType} {accepts : Frame → Bool}

lemma takeBufferedResponse_spec
    (htake : takeBufferedResponse inbox type accepts = some (bytes, rest)) :
    bytes.hasType type = true ∧ accepts bytes = true ∧ inbox.Perm (bytes :: rest) := by
  unfold takeBufferedResponse at htake
  dsimp only at htake
  split at htake
  · cases htake
  next found hfind =>
    cases htake
    have hwanted := List.find?_some hfind
    rw [Bool.and_eq_true] at hwanted
    refine ⟨hwanted.1, hwanted.2, ?_⟩
    obtain ⟨_, before, after, rfl, hbefore⟩ := List.find?_eq_some_iff_append.mp hfind
    have hnone : ∀ reply ∈ before, ¬(reply.hasType type && accepts reply) = true := by
      intro reply hmem hwanted
      have hnot := hbefore reply hmem
      rw [hwanted] at hnot
      cases hnot
    rw [List.eraseP_append_right _ hnone, List.eraseP_cons_of_pos (by simpa using hwanted)]
    exact List.perm_middle

lemma exists_takeBufferedResponse (hmem : bytes ∈ inbox) (htype : bytes.hasType type = true)
    (haccepts : accepts bytes = true) :
    ∃ found rest, takeBufferedResponse inbox type accepts = some (found, rest) := by
  unfold takeBufferedResponse
  dsimp only
  split
  next hfind =>
    have hnot := List.find?_eq_none.mp hfind bytes hmem
    rw [htype, haccepts] at hnot
    exact absurd rfl hnot
  next found _ => exact ⟨found, _, rfl⟩

lemma isBufferableResponse_code (hne : type ≠ .ping) : isBufferableResponse type.code = true := by
  cases type with
  | ping => exact absurd rfl hne
  | _ => decide

@[simp] lemma Frame.byte_cons_zero (code : UInt8) (payload : List UInt8) :
    Frame.byte (code :: payload) 0 = code := rfl

lemma Frame.bufferable_of_hasType (htype : bytes.hasType type = true) (hne : type ≠ .ping) :
    isBufferableResponse (bytes.byte 0) = true := by
  cases bytes with
  | nil => cases htype
  | cons code payload =>
    have hcode : code = type.code := by simpa [Frame.hasType] using htype
    subst hcode
    rw [Frame.byte_cons_zero]
    exact isBufferableResponse_code hne

lemma bufferResponse_cases
    (hroom : isBufferableResponse (bytes.byte 0) = true → inbox.length < kMaxBufferedResponses) :
    isBufferableResponse (bytes.byte 0) = false ∧ bufferResponse inbox bytes = inbox ∨
      bufferResponse inbox bytes = inbox ++ [bytes] := by
  cases bytes with
  | nil => exact .inl ⟨rfl, rfl⟩
  | cons code payload =>
    rw [Frame.byte_cons_zero] at hroom ⊢
    cases hbufferable : isBufferableResponse code with
    | false => exact .inl ⟨rfl, by simp [bufferResponse, hbufferable]⟩
    | true =>
      have hlength := Nat.ne_of_lt (hroom hbufferable)
      exact .inr (by simp [bufferResponse, hbufferable, hlength])

/-! ## Correlation -/

def MsgType.carriesRequestId : MsgType → Bool
  | .applyResult | .verificationResult | .refreshRateResult | .snapshotResult => true
  | _ => false

/-- The frame is a reply that names its request: by an id, by a recovery ticket, or by the
request of a borrow token. -/
def Correlated (bytes : Frame) : Prop :=
  (∃ type : MsgType, type.carriesRequestId = true ∧ bytes.hasType type = true ∧ 10 ≤ bytes.length) ∨
    (bytes.hasType .recoveryStatusResult = true ∧ 19 ≤ bytes.length) ∨
    ((bytes.hasType .borrowAcquireResult = true ∨ bytes.hasType .borrowReleaseResult = true) ∧
      (Borrow.decodeResult bytes.tail).isSome = true)

section

variable (h : Correlated bytes)

include h

lemma Correlated.hasType : ∃ type : MsgType, type ≠ .ping ∧ bytes.hasType type = true := by
  obtain ⟨type, hcarries, htype, -⟩ | ⟨htype, -⟩ | ⟨htype | htype, -⟩ := h
  · refine ⟨type, ?_, htype⟩
    rintro rfl
    cases hcarries
  · exact ⟨.recoveryStatusResult, nofun, htype⟩
  · exact ⟨.borrowAcquireResult, nofun, htype⟩
  · exact ⟨.borrowReleaseResult, nofun, htype⟩

lemma Correlated.ne_nil : bytes ≠ [] := by
  rintro rfl
  obtain ⟨type, -, htype⟩ := h.hasType
  cases htype

lemma Correlated.length_of_hasType (hcarries : type.carriesRequestId = true)
    (htype : bytes.hasType type = true) : 10 ≤ bytes.length := by
  obtain ⟨other, -, -, hlength⟩ | ⟨hother, -⟩ | ⟨hother | hother, -⟩ := h
  · exact hlength
  all_goals
    cases Frame.hasType_unique htype hother
    cases hcarries

lemma Correlated.responseRequestId
    (hcarries : type.carriesRequestId = true) (htype : bytes.hasType type = true) :
    responseRequestId bytes = some (read bytes 2 8) :=
  if_neg (Nat.not_lt.mpr (h.length_of_hasType hcarries htype))

lemma Correlated.length_of_recovery
    (htype : bytes.hasType .recoveryStatusResult = true) : 19 ≤ bytes.length := by
  obtain ⟨other, hcarries, hother, -⟩ | ⟨-, hlength⟩ | ⟨hother | hother, -⟩ := h
  · cases Frame.hasType_unique htype hother
    cases hcarries
  · exact hlength
  all_goals cases Frame.hasType_unique htype hother

end

end Vibeshine.HelperIpc
