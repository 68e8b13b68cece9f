import Vibeshine.DisplayHelper.Types

/-! # Runtime policies owned by the state machine

The restore scheduler (`RestoreScheduler`), the recovery ticket policy
(`recovery_status::policy`), the virtual-display reset policy (`ApplyPolicy`),
and the shared restore flags (`RestoreState`). The steady clock counts
milliseconds.
-/

namespace Vibeshine.DisplayHelper

structure RestoreScheduler where
  armed : Bool := false
  windowExhaustedReported : Bool := false
  windowUntil : Nat := 0
  nextAllowed : Nat := 0
  backoffIndex : Nat := 0

namespace RestoreScheduler

def restoreWindowPrimary : Nat := 120000

def restoreWindowEvent : Nat := 30000

def restoreBackoffProfile : List Nat :=
  [0, 1000, 3000, 5000, 10000, 15000, 20000, 30000]

def armPrimary (_scheduler : RestoreScheduler) (now grace : Nat) : RestoreScheduler where
  armed := true
  windowUntil := now + restoreWindowPrimary
  nextAllowed := now + grace
  backoffIndex := 0
  windowExhaustedReported := false

variable (scheduler : RestoreScheduler) (now : Nat)

def onDisplayEvent : RestoreScheduler :=
  if !scheduler.armed then
    scheduler
  else
    { scheduler with
      backoffIndex := 0
      nextAllowed := now
      windowUntil := max scheduler.windowUntil (now + restoreWindowEvent)
      windowExhaustedReported := false }

def onAttemptFailed : RestoreScheduler :=
  let index := if scheduler.backoffIndex + 1 < restoreBackoffProfile.length then
    scheduler.backoffIndex + 1 else scheduler.backoffIndex
  { scheduler with
    backoffIndex := index
    nextAllowed := now + restoreBackoffProfile.getD index 0 }

def disarm : RestoreScheduler :=
  { scheduler with armed := false, backoffIndex := 0, windowExhaustedReported := false }

def windowActive : Bool :=
  scheduler.armed && now ≤ scheduler.windowUntil

/-- The test of `window_just_expired`; a positive answer is reported once. -/
def windowJustExpired : Bool :=
  scheduler.armed && !scheduler.windowExhaustedReported && scheduler.windowUntil < now

def reportWindowExhausted : RestoreScheduler :=
  { scheduler with windowExhaustedReported := true }

def shouldAttempt : Bool :=
  scheduler.windowActive now && scheduler.nextAllowed ≤ now

end RestoreScheduler

/-! ## Recovery tickets -/

inductive RecoveryStatus where
  | unknown | active | failed | restored
  deriving DecidableEq

/-- `recovery_status::policy`: the ticket of the newest restore request. -/
structure RecoveryStatusPolicy where
  ticket : Nat := 0
  generation : Nat := 0
  epoch : Nat := 0
  status : RecoveryStatus := .unknown
  parked : Bool := false
  eventCount : Nat := 0
  ticketEventBase : Nat := 0

namespace RecoveryStatusPolicy

variable (policy : RecoveryStatusPolicy)

def «begin» (ticket generation epoch : Nat) : RecoveryStatusPolicy :=
  { policy with
    ticket := ticket
    generation := generation
    epoch := epoch
    ticketEventBase := policy.eventCount
    status := if ticket = 0 then .unknown else .active
    parked := false }

def restart (generation epoch : Nat) : RecoveryStatusPolicy :=
  if policy.ticket = 0 then
    policy
  else
    { policy with generation := generation, epoch := epoch, status := .active, parked := false }

def supersede : RecoveryStatusPolicy :=
  { policy with ticket := 0, generation := 0, epoch := 0, status := .unknown, parked := false }

def observeEvent : RecoveryStatusPolicy :=
  { policy with eventCount := policy.eventCount + 1 }

def publish (value : RecoveryStatus) (ticket generation epoch : Nat) : RecoveryStatusPolicy :=
  if policy.ticket = 0 ∨ ticket ≠ policy.ticket ∨ generation ≠ policy.generation ∨
      epoch ≠ policy.epoch then
    policy
  else
    { policy with status := value }

/-- The answer of `query` together with the policy it leaves behind. -/
def query (requestedTicket requestedGeneration requestedEpoch currentGeneration currentEpoch : Nat)
    (workerActive operationQueued park : Bool) : RecoveryStatus × RecoveryStatusPolicy :=
  if policy.ticket = 0 ∨ requestedTicket ≠ policy.ticket ∨
      requestedGeneration ≠ policy.generation ∨ requestedEpoch ≠ policy.epoch ∨
      currentGeneration ≠ policy.generation ∨ currentEpoch ≠ policy.epoch then
    (.unknown, policy)
  else if workerActive || operationQueued then
    (.active, policy)
  else if policy.status = .failed ∧ park then
    (policy.status, { policy with parked := true })
  else
    (policy.status, policy)

def eventRevision : Nat :=
  policy.eventCount - policy.ticketEventBase

end RecoveryStatusPolicy

/-- `ApplyPolicy`: the time of the last granted reset, zero for none. -/
structure ApplyPolicy where
  lastReset : Nat := 0

namespace ApplyPolicy

def resetCooldown : Nat := 30000

/-- `maybe_reset_virtual_display`: a granted reset starts the cooldown. -/
def maybeResetVirtualDisplay (policy : ApplyPolicy) (now : Nat) (status : ApplyStatus)
    (virtualDisplayRequested : Bool) : PolicyDecision × ApplyPolicy :=
  if status ≠ .needsVirtualDisplayReset ∨ !virtualDisplayRequested then
    (.proceed, policy)
  else if policy.lastReset ≠ 0 ∧ now < policy.lastReset + resetCooldown then
    (.proceed, policy)
  else
    (.resetVirtualDisplay, { policy with lastReset := now })

end ApplyPolicy

/-! ## Shared restore flags -/

/-- `RestoreState`, as far as the state machine reads or writes it. -/
structure RestoreState where
  alwaysRestoreFromGolden : Bool := false
  preferGoldenIfCurrentMissing : Bool := true
  restoreOnDisconnect : Bool := true
  restoreAttemptedUnconfirmed : Bool := false
  exclusions : Finset String := ∅

namespace RestoreState

/-- `reset_request_progress`; the fallback counter it also clears is read by
the recovery worker only. -/
def resetRequestProgress (restore : RestoreState) : RestoreState :=
  { restore with restoreAttemptedUnconfirmed := false }

end RestoreState

end Vibeshine.DisplayHelper
