import Vibeshine.HelperIpc.Reply

/-! # The six wait loops

One turn of each loop in which a call waits for its reply. Whoever holds the reader lock
pulls frames for everybody; the clock, the cancellation test, the ids issued and the peer
may change between any two looks at them, so that each look is an input of its own.
-/

namespace Vibeshine.HelperIpc

/-- What `receive` came back with. -/
inductive Received where
  | timeout
  | failed
  | frame (bytes : Frame)
  deriving DecidableEq

/-- What one turn of a loop finds outside the session, in the order it looks. -/
structure Turn where
  expired : Bool := false
  cancelled : Bool := false
  issued : List Nat := []
  peer : Option Nat := none
  /-- Looked at with a buffered reply in hand. -/
  cancelledTaken : Bool := false
  issuedTaken : List Nat := []
  peerTaken : Option Nat := none
  /-- No time is left for another `receive`. -/
  exhausted : Bool := false
  received : Received := .timeout
  /-- Looked at with a frame of the pipe in hand. -/
  cancelledReceived : Bool := false
  issuedReceived : List Nat := []
  peerReceived : Option Nat := none
  /-- Looked at once more, when the frame is the reply waited for. -/
  cancelledMatched : Bool := false

/-- `RecoveryStatusResult`; the status is the byte that `RecoveryStatus` numbers. -/
structure RecoveryStatusResult where
  ticket : Nat
  connectionGeneration : Nat
  status : UInt8
  eventRevision : Nat
  parked : Bool
  deriving DecidableEq

namespace RecoveryStatus

def failed : UInt8 := 2
def restored : UInt8 := 3

end RecoveryStatus

inductive Reply where
  | apply (result : ApplyResult)
  | acknowledged (success : Bool)
  | recovery (result : RecoveryStatusResult)
  | borrow (result : Borrow.Result)
  deriving DecidableEq

inductive Outcome where
  /-- The loop goes round again. -/
  | continued
  /-- The call gives up without a value. -/
  | stopped
  | returned (bytes : Frame) (reply : Reply)
  deriving DecidableEq

def Outcome.frame? : Outcome → Option Frame
  | .returned bytes _ => some bytes
  | _ => none

/-- The inbox after a turn, the frame it read from the pipe, and how it ended. -/
structure Pass where
  inbox : List Frame
  read : Option Frame
  outcome : Outcome

variable (t : Turn) (inbox : List Frame)

def Turn.poll (type : MsgType) (accepts : Frame → Bool)
    (exhausted : Bool) (onBuffered : Frame → Outcome) (onFrame : Frame → List Frame × Outcome) :
    Pass :=
  if t.expired || t.cancelled then ⟨inbox, none, .stopped⟩
  else
    match takeBufferedResponse inbox type accepts with
    | some (bytes, rest) => ⟨rest, none, onBuffered bytes⟩
    | none =>
      if exhausted then ⟨inbox, none, .stopped⟩
      else
        match t.received with
        | .timeout => ⟨inbox, none, .continued⟩
        | .failed => ⟨inbox, none, .stopped⟩
        | .frame bytes =>
          -- The frame has left the pipe, whatever the test says.
          if t.cancelledReceived || bytes.isEmpty then ⟨inbox, some bytes, .stopped⟩
          else ⟨(onFrame bytes).1, some bytes, (onFrame bytes).2⟩

def leaveForOthers (bytes : Frame) : List Frame × Outcome :=
  if bytes.hasType .ping then (inbox, .continued)
  else if isBufferableResponse (bytes.byte 0) then (bufferResponse inbox bytes, .continued)
  else (inbox, .continued)

variable (bytes : Frame)

def acknowledge : Outcome := .returned bytes (.acknowledged (bytes.byte 1 != 0))

variable (request : Nat)

def acceptsApply (protocol : ApplyResponseProtocol) (bytes : Frame) : Bool :=
  (decodeApplyResponse t.issued bytes request protocol).isSome

def waitForApplyResult (inbox : List Frame) (request : Nat)
    (protocol : ApplyResponseProtocol) : Pass :=
  t.poll inbox .applyResult (acceptsApply t request protocol) false
    (fun bytes =>
      match decodeApplyResponse t.issuedTaken bytes request protocol with
      | none => .continued
      | some result => .returned bytes (.apply result))
    fun bytes =>
      if bytes.hasType .applyResult then
        match decodeApplyResponse t.issuedReceived bytes request protocol with
        | none => (bufferResponse inbox bytes, .continued)
        | some result => (inbox, .returned bytes (.apply result))
      else leaveForOthers inbox bytes

def waitForVerificationResult (inbox : List Frame) (request : Nat) : Pass :=
  t.poll inbox .verificationResult (matchesVerificationResponse · request) false
    (fun bytes => if t.cancelledTaken then .stopped else acknowledge bytes)
    fun bytes =>
      if bytes.hasType .verificationResult then
        if bytes.length < 10 then (inbox, .continued)
        else if !matchesVerificationResponse bytes request then
          (bufferResponse inbox bytes, .continued)
        else if t.cancelledMatched then (inbox, .stopped)
        else (inbox, acknowledge bytes)
      else leaveForOthers inbox bytes

/-- The loop of `wait_for_refresh_rate_result_locked` and `wait_for_snapshot_result_locked`. -/
def waitForAcknowledgement (inbox : List Frame) (type : MsgType) (accepts : Frame → Bool) : Pass :=
  t.poll inbox type accepts false
    (fun bytes => if t.cancelledTaken then .stopped else acknowledge bytes)
    fun bytes =>
      if bytes.hasType type then
        if accepts bytes then (inbox, acknowledge bytes)
        else if (responseRequestId bytes).isSome then (bufferResponse inbox bytes, .continued)
        else (inbox, .continued)
      else leaveForOthers inbox bytes

def acceptsRefreshRate (request : Option Nat) (bytes : Frame) : Bool :=
  2 ≤ bytes.length &&
    match request with
    | some _ => responseRequestId bytes == request
    | none => (responseRequestId bytes).isNone

def waitForRefreshRateResult (request : Option Nat) : Pass :=
  waitForAcknowledgement t inbox .refreshRateResult (acceptsRefreshRate request)

def acceptsSnapshot (bytes : Frame) : Bool :=
  2 ≤ bytes.length && responseRequestId bytes == some request

def waitForSnapshotResult : Pass :=
  waitForAcknowledgement t inbox .snapshotResult (acceptsSnapshot request)

/-- A status that a query about `ticket` returns; a failure answers a park request only when
the helper says that it parked. -/
def acceptsRecovery (ticket : Nat) (park : Bool) (bytes : Frame) : Bool :=
  19 ≤ bytes.length && responseTicket bytes == ticket &&
    (!park || bytes.byte 9 != RecoveryStatus.failed || bytes.byte 18 == 1)

def wellFormedRecovery : Bool :=
  decide (bytes.byte 9 ≤ RecoveryStatus.restored) && decide (bytes.byte 18 ≤ 1)

def recoveryReply (ticket generation : Nat) : Reply :=
  .recovery ⟨ticket, generation, bytes.byte 9, read bytes 10 8, bytes.byte 18 == 1⟩

def queryRecoveryStatus (inbox : List Frame) (ticket generation : Nat) (park : Bool) : Pass :=
  t.poll inbox .recoveryStatusResult (acceptsRecovery ticket park) t.exhausted
    (fun bytes =>
      if wellFormedRecovery bytes then .returned bytes (recoveryReply bytes ticket generation)
      else .continued)
    fun bytes =>
      if bytes.hasType .recoveryStatusResult then
        if bytes.length < 19 then (inbox, .continued)
        else if acceptsRecovery ticket park bytes && wellFormedRecovery bytes then
          (inbox, .returned bytes (recoveryReply bytes ticket generation))
        else if responseTicket bytes == ticket && bytes.byte 9 == RecoveryStatus.failed && park &&
            bytes.byte 18 != 1 then
          (inbox, .continued)
        else (bufferResponse inbox bytes, .continued)
      else leaveForOthers inbox bytes

/-- The `decode` of `exchange_borrow_control`. -/
def decodeBorrow (peer : Option Nat) (resultType : MsgType) (request : Borrow.Request)
    (bytes : Frame) : Option Borrow.Result :=
  if bytes.hasType resultType then
    match Borrow.decodeResult bytes.tail with
    | none => none
    | some result =>
      if result.token.request = request ∧ peer = some result.token.helper.pid then some result
      else none
  else none

def exchangeBorrowControl (inbox : List Frame) (resultType : MsgType)
    (request : Borrow.Request) : Pass :=
  t.poll inbox resultType (fun bytes => (decodeBorrow t.peer resultType request bytes).isSome) false
    (fun bytes =>
      match decodeBorrow t.peerTaken resultType request bytes with
      | none => .stopped
      | some result => .returned bytes (.borrow result))
    fun bytes =>
      match decodeBorrow t.peerReceived resultType request bytes with
      | none => (bufferResponse inbox bytes, .continued)
      | some result => (inbox, .returned bytes (.borrow result))

/-! ## A call that waits -/

inductive Wait where
  | apply (request : Nat) (protocol : ApplyResponseProtocol)
  | verification (request : Nat)
  | refreshRate (request : Option Nat)
  | snapshot (request : Nat)
  | recovery (ticket generation : Nat) (park : Bool)
  | borrowAcquire (request : Borrow.Request)
  | borrowRelease (request : Borrow.Request)
  deriving DecidableEq

def Wait.type : Wait → MsgType
  | .apply _ _ => .applyResult
  | .verification _ => .verificationResult
  | .refreshRate _ => .refreshRateResult
  | .snapshot _ => .snapshotResult
  | .recovery _ _ _ => .recoveryStatusResult
  | .borrowAcquire _ => .borrowAcquireResult
  | .borrowRelease _ => .borrowReleaseResult

def Wait.pass : Wait → Pass
  | .apply request protocol => waitForApplyResult t inbox request protocol
  | .verification request => waitForVerificationResult t inbox request
  | .refreshRate request => waitForRefreshRateResult t inbox request
  | .snapshot request => waitForSnapshotResult t inbox request
  | .recovery ticket generation park => queryRecoveryStatus t inbox ticket generation park
  | .borrowAcquire request => exchangeBorrowControl t inbox .borrowAcquireResult request
  | .borrowRelease request => exchangeBorrowControl t inbox .borrowReleaseResult request

def Wait.accepts : Wait → Frame → Bool
  | .apply request protocol => acceptsApply t request protocol
  | .verification request => (matchesVerificationResponse · request)
  | .refreshRate request => acceptsRefreshRate request
  | .snapshot request => acceptsSnapshot request
  | .recovery ticket _ park => acceptsRecovery ticket park
  | .borrowAcquire request => fun bytes =>
    (decodeBorrow t.peer .borrowAcquireResult request bytes).isSome
  | .borrowRelease request => fun bytes =>
    (decodeBorrow t.peer .borrowReleaseResult request bytes).isSome

def Wait.Claims (w : Wait) (bytes : Frame) : Prop :=
  bytes.hasType w.type = true ∧
    match w with
    | .apply request _ | .verification request | .snapshot request =>
      responseRequestId bytes = some request
    | .refreshRate request => responseRequestId bytes = request
    | .recovery ticket _ _ => responseTicket bytes = ticket
    | .borrowAcquire request | .borrowRelease request =>
      ∃ result, Borrow.decodeResult bytes.tail = some result ∧ result.token.request = request

end Vibeshine.HelperIpc
