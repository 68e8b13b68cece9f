import Vibeshine.DisplayHelper.Runtime
import Mathlib.Tactic.Simps.Basic

/-! # State of the display helper's state machine

The members of `StateMachine`, grouped by the concern they serve, together
with the generation counter and the dispatcher queues its collaborators own.
Every member is changed through one updater per group, so that a fact about
one group survives a change of another by definition.

Messages and calls that cross the boundary are recorded in `trace`, newest
first.
-/

namespace Vibeshine.DisplayHelper

inductive MutationWorkerKind where
  | apply | refreshRate | recovery
  deriving DecidableEq

structure ActiveMutationWorker where
  kind : MutationWorkerKind
  generation : Nat
  deriving DecidableEq

structure VirtualDisplayRepairIntent where
  resolvedDeviceId : String
  connectionEpoch : Nat := 0

inductive DeferredMutationCommand where
  | apply (command : ApplyCommand)
  | repair (intent : VirtualDisplayRepairIntent)
  | revert (command : RevertCommand)
  | disarm (command : DisarmCommand)
  | reset (command : ResetCommand)

namespace DeferredMutationCommand

def isReset : DeferredMutationCommand → Bool
  | .reset _ => true
  | _ => false

def isRepair : DeferredMutationCommand → Bool
  | .repair _ => true
  | _ => false

def isSessionIntent : DeferredMutationCommand → Bool
  | .apply _ | .revert _ | .disarm _ => true
  | _ => false

end DeferredMutationCommand

/-- Work handed to `AsyncDispatcher`, stamped with the generation of its
cancellation token. -/
inductive Task where
  | apply (request : ApplyRequest) (resetVirtualDisplay : Bool) (generation : Nat)
  | verification (request : ApplyRequest) (expectedTopology : Option ActiveTopology)
      (resolvedTarget : Option ResolvedConfigurationTarget) (purpose : VerificationPurpose)
      (generation : Nat)
  | reset (generation : Nat)
  | refreshRate (command : RefreshRateCommand) (generation : Nat)
  | recovery (delay : Nat) (generation : Nat)
  | recoveryValidation (snapshot : Snapshot) (generation : Nat)

namespace Task

def generation : Task → Nat
  | .apply _ _ generation => generation
  | .verification _ _ _ _ generation => generation
  | .reset generation => generation
  | .refreshRate _ generation => generation
  | .recovery _ generation => generation
  | .recoveryValidation _ generation => generation

end Task

/-- Log lines of the source that mark the branches which open a session, start a
restore, or give recovery up. -/
inductive LogLine where
  /-- "received Apply command" -/
  | receivedApply
  /-- "received Disarm command, resetting state" -/
  | receivedDisarm
  /-- "keeping recovery guard after DISARM" -/
  | keepingRecoveryGuard
  /-- "disconnect with restore-on-disconnect disabled; not restoring" -/
  | disconnectNotRestoring
  /-- "heartbeat lost with restore-on-disconnect disabled; not restoring" -/
  | heartbeatNotRestoring
  /-- "no session/previous or golden snapshot present; nothing to restore" -/
  | nothingToRestore
  /-- "received Revert command, initiating recovery" -/
  | receivedRevert
  /-- "recovery validation succeeded, display settings restored" -/
  | recoveryValidationSucceeded
  deriving DecidableEq

inductive PortCall where
  | clearPendingHdrBlank | armHeartbeat | disarmHeartbeat | recordPing | recordLivenessPing
  | refreshShell | goldenResetRequestTracking | goldenRegisterUnresolved | goldenClearStatus
  | captureBaseline (tier : SnapshotTier)

/-- What crosses the boundary of the state machine: the messages it handles,
each with the generation current at ingress, and the calls it makes. Assignments
of `unconfirmed_cancelled_mutation_` are recorded among them, since no call
marks them. -/
inductive Effect where
  | received (message : Message) (generation : Nat)
  | unconfirmed (value : Bool)
  | dispatch (task : Task)
  | applyResult (status : ApplyStatus) (connectionEpoch requestId : Nat)
  | verificationResult (success : Bool) (connectionEpoch requestId : Nat)
  | snapshotResult (success : Bool) (connectionEpoch requestId : Nat)
  | refreshRateResult (success : Bool) (connectionEpoch requestId : Nat)
  | recoveryStatusResult (ticket : Nat) (status : RecoveryStatus) (eventRevision : Nat)
      (parked : Bool) (connectionEpoch : Nat)
  | transition (source target : State) (trigger : ApplyAction) (status : Option ApplyStatus)
  | createRestoreTask
  | deleteRestoreTask
  | exit (code : Nat) (ends : Bool)
  | log (line : LogLine)
  | port (call : PortCall)

/-! ## Groups of members -/

/-- Whether the desktop must be restorable, and who may give that up. -/
structure Lease where
  recoveryArmed : Bool := false
  displayChangesPendingRecovery : Bool := false
  explicitRecoveryRequired : Bool := false
  unconfirmedCancelledMutation : Bool := false
  restoreTaskCreated : Bool := false
  recoveryLeaseBeforeApply : Bool := false

/-- The `transient_disconnect_*` members: the bounded verify-before-repair
sequence after a recent disconnect. -/
structure Settlement where
  requested : Bool := false
  checkPending : Bool := false
  repairInFlight : Bool := false
  deferredByStagedReset : Bool := false
  deferredFinalCheck : Bool := false
  finalCheckPending : Bool := false
  nextCheck : Nat := 0
  topology : Option ActiveTopology := none
  rollbackVerification : Bool := false

/-- The session that the last executed APPLY owns. -/
structure Session where
  currentRequest : ApplyRequest := {}
  currentConnectionEpoch : Nat := 0
  resolvedTarget : Option ResolvedConfigurationTarget := none
  expectedTopology : Option ActiveTopology := none
  lastApplyStarted : Option Nat := none
  sessionWasVerified : Bool := false
  applyResultSent : Bool := false
  verificationResultSent : Bool := false
  activeReactivation : Option ApplyCommand := none

/-- Bounded allowances for work the helper starts on its own. -/
structure Allowance where
  virtualHdrFallbackAttempted : Bool := false
  verificationReapplyAvailable : Bool := false
  baselineTopologyRepairAvailable : Bool := false
  baselineTopologyRepairInFlight : Bool := false
  virtualIdentityDiscoveriesRemaining : Nat := 0
  virtualIdentityRepairsRemaining : Nat := 0
  observedAbsentBaselineDevices : Finset String := ∅
  observedDisabledBaselineDevices : Finset String := ∅

/-- The mutation fence, the staged-reset barrier, and what waits behind them. -/
structure Fence where
  activeMutationWorker : Option ActiveMutationWorker := none
  deferredMutationCommands : List DeferredMutationCommand := []
  deferredApplyCompletion : Option ApplyCompleted := none
  stagedStateResetPending : Bool := false
  exitAfterStagedStateReset : Bool := false
  stagedStatePrepared : Bool := false
  recoveryStagedStateResetSucceeded : Option Bool := none

/-- Observations that steer recovery retries, and the recovery ticket. -/
structure Recovery where
  scheduler : RestoreScheduler := {}
  statusPolicy : RecoveryStatusPolicy := {}
  snapshot : Option Snapshot := none
  eventFeedbackQuietUntil : Option Nat := none
  deferredDisplayEvent : Option DisplayEventMessage := none
  baselinePresentDevices : Option (Finset String) := none
  lastNotification : Option (Nat × RecoveryStatus × Nat × Nat) := none

/-- `CancellationSource` and the queues of `AsyncDispatcher`: tasks run in the
order of `worker`; a delayed verification waits in `timers` first. -/
structure Dispatcher where
  generation : Nat := 0
  worker : List Task := []
  timers : List Task := []

structure Machine where
  state : State := .waiting
  lease : Lease := {}
  settlement : Settlement := {}
  session : Session := {}
  allowance : Allowance := {}
  fence : Fence := {}
  recovery : Recovery := {}
  restoreState : RestoreState := {}
  applyPolicy : ApplyPolicy := {}
  snapshotBlacklist : Finset String := ∅
  preferGoldenFirst : Bool := false
  dispatcher : Dispatcher := {}
  trace : List Effect := []

namespace Machine

/-! ## Updaters -/

@[simps]
def setState (machine : Machine) (state : State) : Machine := { machine with state := state }

@[simps]
def updLease (machine : Machine) (update : Lease → Lease) : Machine :=
  { machine with lease := update machine.lease }

@[simps]
def updSettlement (machine : Machine) (update : Settlement → Settlement) : Machine :=
  { machine with settlement := update machine.settlement }

@[simps]
def updSession (machine : Machine) (update : Session → Session) : Machine :=
  { machine with session := update machine.session }

@[simps]
def updAllowance (machine : Machine) (update : Allowance → Allowance) : Machine :=
  { machine with allowance := update machine.allowance }

@[simps]
def updFence (machine : Machine) (update : Fence → Fence) : Machine :=
  { machine with fence := update machine.fence }

@[simps]
def updRecovery (machine : Machine) (update : Recovery → Recovery) : Machine :=
  { machine with recovery := update machine.recovery }

@[simps]
def updRestoreState (machine : Machine) (update : RestoreState → RestoreState) : Machine :=
  { machine with restoreState := update machine.restoreState }

@[simps]
def setApplyPolicy (machine : Machine) (policy : ApplyPolicy) : Machine :=
  { machine with applyPolicy := policy }

@[simps]
def setSnapshotBlacklist (machine : Machine) (blacklist : Finset String) : Machine :=
  { machine with snapshotBlacklist := blacklist }

@[simps]
def setPreferGoldenFirst (machine : Machine) (prefer : Bool) : Machine :=
  { machine with preferGoldenFirst := prefer }

@[simps]
def updDispatcher (machine : Machine) (update : Dispatcher → Dispatcher) : Machine :=
  { machine with dispatcher := update machine.dispatcher }

@[simps]
def emit (machine : Machine) (effect : Effect) : Machine :=
  { machine with trace := effect :: machine.trace }

end Machine

end Vibeshine.DisplayHelper
