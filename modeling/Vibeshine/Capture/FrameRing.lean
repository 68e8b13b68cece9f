import Vibeshine.Library.Program
import Mathlib

/-! # The session of a frame ring

`Session` of `frame_push_transport`: it registers the ring of a virtual display with the
driver, takes the newest frame of the ring, and revokes the ring once anything about it is
lost or invalid. The resources of the ring and the transport to the driver reply as they
like; an account of the exchanges tells which slots are held.
-/

namespace Vibeshine.Capture.FrameRing

open Library

inductive Access where
  | acquired | timeout | lost
  deriving DecidableEq

inductive Status where
  | ready | unsupported | invalidTarget | transportError | invalidReply | noFrame | timeout
  | invalidFrame | deviceLost | stopped
  deriving DecidableEq

/-- `FrameRingRegisterRequest`. -/
structure RegisterRequest where
  clientCookie : Nat := 0
  displayGeneration : Nat := 0
  leaseId : Nat := 0
  displayId : Nat := 0
  ownerCapability : Nat := 0
  deriving DecidableEq

/-- `FrameRingReply`. -/
structure RingReply where
  clientCookie : Nat := 0
  displayGeneration : Nat := 0
  ringGeneration : Nat := 0
  deriving DecidableEq

/-- `FrameRingClearRequest`. -/
structure ClearRequest where
  identity : RingReply := {}
  leaseId : Nat := 0
  displayId : Nat := 0
  ownerCapability : Nat := 0
  cancel : Bool := false
  deriving DecidableEq

/-- `FrameSlotMetadata`. -/
structure Metadata where
  clientCookie : Nat := 0
  displayGeneration : Nat := 0
  ringGeneration : Nat := 0
  sequence : Nat := 0
  acquiredQpc : Nat := 0
  reserved : Nat := 0
  deriving DecidableEq

/-- A private copy; the pixels are named by a number. -/
structure PrivateCopy where
  status : Access := .timeout
  pixels : Option Nat := none
  deriving DecidableEq

structure Frame where
  status : Status := .noFrame
  metadata : Metadata := {}
  pixels : Option Nat := none
  deriving DecidableEq

/-- The driver's answer to a registration: whether the exchange succeeded and returned a
whole reply, and the reply. -/
structure Registered where
  exchanged : Bool
  whole : Bool
  reply : RingReply

inductive Request where
  | wait (timeoutMs : Nat)
  | acquire (slot : Nat)
  | metadata (slot : Nat)
  | release (slot : Nat)
  | copyToPrivate (slot : Nat)
  | queryCapabilities
  | register (request : RegisterRequest)
  | clear (request : ClearRequest)

abbrev Request.Reply : Request → Type
  | .wait _ => Access
  | .acquire _ => Access
  | .metadata _ => Metadata
  | .release _ => Bool
  | .copyToPrivate _ => PrivateCopy
  | .queryCapabilities => Option (Nat × Nat)
  | .register _ => Registered
  | .clear _ => Unit

abbrev Operation := Program Request Request.Reply

def ask (request : Request) : Operation request.Reply := Program.request request

/-- What the driver protocol fixes: the number of slots, the capability of keyed mutexes,
and which requests and replies are well formed. -/
structure Protocol where
  slotCount : Nat
  requiredCapabilities : Nat
  validRequest : RegisterRequest → Bool
  validReply : RingReply → RegisterRequest → Bool

/-- What is registered with the driver: `request_` and `reply_`. -/
structure Registration where
  request : RegisterRequest
  reply : RingReply
  deriving DecidableEq

/-- `Session`; there is no registration without resources. -/
structure Session where
  registration : Option Registration := none
  lastSequence : Nat := 0
  deriving DecidableEq

def clearRequest (request : RegisterRequest) (reply : RingReply) (cancel : Bool) : ClearRequest where
  identity :=
    { reply with
      clientCookie := request.clientCookie
      displayGeneration := request.displayGeneration }
  leaseId := request.leaseId
  displayId := request.displayId
  ownerCapability := request.ownerCapability
  cancel := cancel

variable (registration : Registration)

def Registration.clear : ClearRequest :=
  clearRequest registration.request registration.reply false

def Registration.valid (metadata : Metadata) : Bool :=
  metadata.clientCookie == registration.request.clientCookie &&
    metadata.displayGeneration == registration.reply.displayGeneration &&
    metadata.ringGeneration == registration.reply.ringGeneration &&
    metadata.sequence != 0 && metadata.sequence != 2 ^ 64 - 1 &&
    metadata.acquiredQpc != 0 && metadata.reserved == 0

variable (s : Session) (p : Protocol)

namespace Session

def stop : Operation Session :=
  match s.registration with
  | none => pure s
  | some registration => do
      let _ ← ask (.clear registration.clear)
      pure {}

def supportsRequiredCapability (capabilities maxRingSlots : Nat) : Bool :=
  capabilities &&& p.requiredCapabilities == p.requiredCapabilities &&
    maxRingSlots == p.slotCount

/-- `start`, for resources with the given request. -/
def start (resources : Option RegisterRequest) (s : Session) : Operation (Status × Session) := do
  let s ← s.stop
  match resources with
  | none => pure (.invalidTarget, s)
  | some request =>
    if !p.validRequest request then pure (.invalidTarget, s)
    else
      match ← ask .queryCapabilities with
      | none => pure (.transportError, s)
      | some (capabilities, maxRingSlots) =>
        if !supportsRequiredCapability p capabilities maxRingSlots then pure (.unsupported, s)
        else do
          let registered ← ask (.register request)
          if !registered.exchanged then do
            let _ ← ask (.clear (clearRequest request {} true))
            pure (.transportError, s)
          else if !registered.whole || !p.validReply registered.reply request then do
            let _ ← ask (.clear (clearRequest request {} true))
            pure (.invalidReply, s)
          else
            pure (.ready, { registration := some ⟨request, registered.reply⟩ })

end Session

/-! ## The scan of the slots -/

/-- The locals of the scan. -/
structure Scan where
  chosen : Option Nat := none
  newest : Metadata := {}
  lost : Bool := false
  invalid : Bool := false

/-- The loop of `next` over the slots. -/
def scanSlots (registration : Registration) (lastSequence : Nat) : List Nat → Scan → Operation Scan
  | [], scan => pure scan
  | slot :: slots, scan => do
      match ← ask (.acquire slot) with
      | .timeout => scanSlots registration lastSequence slots scan
      | .lost => pure { scan with lost := true }
      | .acquired => do
          let metadata ← ask (.metadata slot)
          if !registration.valid metadata then do
            let released ← ask (.release slot)
            pure { scan with invalid := true, lost := scan.lost || !released }
          else if lastSequence < metadata.sequence &&
              (scan.chosen.isNone || scan.newest.sequence < metadata.sequence) then
            match scan.chosen with
            | none =>
              scanSlots registration lastSequence slots
                { scan with chosen := some slot, newest := metadata }
            | some former => do
                let released ← ask (.release former)
                if !released then
                  pure { scan with chosen := some slot, newest := metadata, lost := true }
                else
                  scanSlots registration lastSequence slots
                    { scan with chosen := some slot, newest := metadata }
          else do
            let released ← ask (.release slot)
            if !released then pure { scan with lost := true }
            else scanSlots registration lastSequence slots scan

/-- The end of `next` once a slot is chosen: the private copy and the release. -/
def takeChosen (slot : Nat) (newest : Metadata) : Operation (Frame × Session) := do
  let copy ← ask (.copyToPrivate slot)
  let released ← ask (.release slot)
  if !released || copy.status = .lost || (copy.status = .acquired && copy.pixels.isNone) then do
    let s ← s.stop
    pure ({ status := .deviceLost }, s)
  else if copy.status = .timeout then pure ({ status := .noFrame }, s)
  else
    pure ({ status := .ready, metadata := newest, pixels := copy.pixels },
      { s with lastSequence := newest.sequence })

/-- What `next` does after the scan. -/
def finishScan (wait : Access) (scan : Scan) : Operation (Frame × Session) :=
  if scan.lost || scan.invalid then do
    match scan.chosen with
    | none => pure ()
    | some slot => do
        let _ ← ask (.release slot)
    let s ← s.stop
    pure ({ status := if scan.lost then .deviceLost else .invalidFrame }, s)
  else
    match scan.chosen with
    | none => pure ({ status := if wait = .timeout then .timeout else .noFrame }, s)
    | some slot => takeChosen s slot scan.newest

def maxFrameWaitMs : Nat := 100

def Session.next (timeoutMs : Nat) (s : Session) : Operation (Frame × Session) :=
  match s.registration with
  | none => pure ({ status := .stopped }, s)
  | some registration => do
      let wait ← ask (.wait (min timeoutMs maxFrameWaitMs))
      if wait = .lost then do
        let s ← s.stop
        pure ({ status := .deviceLost }, s)
      else do
        let scan ← scanSlots registration s.lastSequence (List.range p.slotCount) {}
        finishScan s wait scan

/-! ## The account of the exchanges -/

/-- What the exchanges of a call amount to. -/
structure Account where
  /-- The slots that were acquired and have not been released since. -/
  held : List Nat := []
  /-- A slot was released that was not held. -/
  stray : Bool := false
  /-- A private copy was made while not exactly its own slot was held. -/
  crowded : Bool := false
  /-- Something was lost or invalid. -/
  failed : Bool := false
  clears : List ClearRequest := []

namespace Account

def note (a : Account) (registration : Option Registration) :
    (request : Request) → request.Reply → Account
  | .wait _, reply => { a with failed := a.failed || reply = .lost }
  | .acquire slot, reply =>
    { a with
      held := if reply = .acquired then slot :: a.held else a.held
      failed := a.failed || reply = .lost }
  | .metadata _, reply =>
    { a with failed := a.failed || registration.any fun own => !own.valid reply }
  | .release slot, reply =>
    { a with
      held := a.held.erase slot
      stray := a.stray || !a.held.contains slot
      failed := a.failed || !reply }
  | .copyToPrivate slot, reply =>
    { a with
      crowded := a.crowded || a.held != [slot]
      failed := a.failed || reply.status = .lost ||
        (reply.status = .acquired && reply.pixels.isNone) }
  | .clear request, _ => { a with clears := a.clears ++ [request] }
  | .queryCapabilities, _ | .register _, _ => a

/-- No slot is released twice, at most two are held, and one during the private copy. -/
structure Orderly (a : Account) : Prop where
  stray : a.stray = false
  crowded : a.crowded = false
  held : a.held.length ≤ 2

end Account

def entered (registration : Option Registration) (a : Account) (request : Request)
    (reply : request.Reply) (a' : Account) : Prop :=
  a' = a.note registration request reply

end Vibeshine.Capture.FrameRing
