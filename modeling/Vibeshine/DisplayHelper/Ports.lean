import Vibeshine.DisplayHelper.Machine

/-! # Ports of the state machine

What the collaborators answer while one message is handled, the predicates on
the members that the handlers branch on, and the calls that dispatch work.

The connection epoch is owned by the pipe thread and may advance while a
handler runs. A handler reads it once at ingress (`epoch`); each deferred
command that is drained later in the same invocation reads it again
(`drainEpoch`, indexed by the number of commands still waiting behind it), and
the closing status notification reads it last (`epochAtEnd`).
-/

namespace Vibeshine.DisplayHelper

/-- Answers of the collaborators during one invocation. -/
structure Ports where
  now : Nat := 0
  epoch : Nat := 0
  drainEpoch : Nat → Nat := fun _ => 0
  epochAtEnd : Nat := 0
  virtualDeviceId : String := ""
  tierExists : SnapshotTier → Bool := fun _ => true
  createRestoreTask : Bool := true
  captureSaved : Bool := true
  /-- `SnapshotLedger::topology_with_returned_baseline_devices` on the device,
  the exclusions, and the observed absent and disabled devices. -/
  returnedBaseline : String → Finset String → Finset String → Finset String →
    Option ActiveTopology × Finset String × Finset String := fun _ _ absent disabled =>
      (none, absent, disabled)
  /-- `SnapshotLedger::present_physical_restore_baseline_devices`. -/
  presentBaseline : Option (Finset String) := none
  /-- Whether a clean exit ends the helper; it stays alive for a newer
  connection otherwise. -/
  exitRetires : Bool := false

/-- `is_stale_connection`; epoch zero belongs to no connection. -/
def isStaleConnection (liveEpoch connectionEpoch : Nat) : Bool :=
  connectionEpoch != 0 && connectionEpoch != liveEpoch

namespace Machine

variable (m : Machine)

def mutationWorkerActive : Bool :=
  m.fence.activeMutationWorker.isSome

def ownsActiveWorker (kind : MutationWorkerKind) (generation : Nat) : Bool :=
  m.fence.activeMutationWorker == some ⟨kind, generation⟩

def isStale (generation : Nat) : Bool :=
  generation != m.dispatcher.generation

def restorePending : Bool :=
  m.state == .recovery || m.state == .recoveryValidation || m.state == .eventLoop

def recoveryWorkerInProgress : Bool :=
  m.state == .recovery || m.state == .recoveryValidation

def applyInFlight : Bool :=
  m.mutationWorkerActive || m.state == .inProgress || m.state == .verification

def applyDisconnectGrace : Nat := 5000

def shouldDeferDisconnectRecovery (p : Ports) : Bool :=
  !m.lease.explicitRecoveryRequired && m.restoreState.restoreOnDisconnect &&
    m.session.lastApplyStarted.any fun started =>
      started ≤ p.now && p.now ≤ started + applyDisconnectGrace

def refreshTargetsActiveRequest (deviceId : String) : Bool :=
  m.session.currentRequest.configuration.any fun configuration =>
    iequals configuration.deviceId deviceId ||
      (configuration.deviceId.isEmpty && m.session.resolvedTarget.any fun target =>
        decide (∃ candidate ∈ target.duplicateDeviceIds, iequals candidate deviceId = true))

def virtualIdentityRepairAvailable : Bool :=
  m.allowance.virtualIdentityRepairsRemaining != 0

/-- `has_deferred_apply_intent`: a session start or an identity repair of the
live connection waits behind the fence. -/
def hasDeferredApplyIntent (epoch : Nat) : Bool :=
  m.fence.deferredMutationCommands.any fun
    | .apply command => !isStaleConnection epoch command.connectionEpoch
    | .repair intent => !isStaleConnection epoch intent.connectionEpoch
    | _ => false

@[simp]
def call (portCall : PortCall) : Machine := m.emit (.port portCall)

@[simp]
def log (m : Machine) (line : LogLine) : Machine := m.emit (.log line)

/-- `transition`: the observer sees proper changes only. -/
def transition (m : Machine) (next : State) (trigger : ApplyAction)
    (status : Option ApplyStatus := none) : Machine :=
  if next = m.state then m
  else (m.emit (.transition m.state next trigger status)).setState next

/-- `system_.cancel_operations`: every outstanding token becomes cancelled. -/
@[simp]
def cancelOperations : Machine :=
  m.updDispatcher fun d => { d with generation := d.generation + 1 }

/-- The exit callback. A helper that ends retires its generation first; only a
clean exit may keep it alive. -/
def exitCallback (p : Ports) (code : Nat) : Machine :=
  let ends := p.exitRetires || code != 0
  let m := m.emit (.exit code ends)
  if ends then m.cancelOperations else m

@[simp]
def enqueueTask (task : Task) : Machine :=
  (m.updDispatcher fun d => { d with worker := d.worker ++ [task] }).emit (.dispatch task)

@[simp]
def enqueueDelayedTask (task : Task) : Machine :=
  (m.updDispatcher fun d => { d with timers := d.timers ++ [task] }).emit (.dispatch task)

@[simp]
def setActiveMutationWorker (worker : Option ActiveMutationWorker) : Machine :=
  m.updFence fun f => { f with activeMutationWorker := worker }

variable (request : ApplyRequest)

/-- `dispatch_apply_worker`; the state machine never delays an APPLY. -/
def dispatchApplyWorker (resetVirtualDisplay : Bool) : Machine :=
  (m.enqueueTask (.apply request resetVirtualDisplay m.dispatcher.generation)).setActiveMutationWorker
    (some ⟨.apply, m.dispatcher.generation⟩)

/-- `ApplyPipeline::dispatch_verification`: a positive delay goes through the
timer queue. -/
def dispatchVerification (expectedTopology : Option ActiveTopology)
    (resolvedTarget : Option ResolvedConfigurationTarget) (delay : Nat)
    (purpose : VerificationPurpose) : Machine :=
  let task := Task.verification request expectedTopology resolvedTarget purpose
    m.dispatcher.generation
  if delay = 0 then m.enqueueTask task else m.enqueueDelayedTask task

def dispatchRefreshRate (command : RefreshRateCommand) : Machine :=
  (m.enqueueTask (.refreshRate command m.dispatcher.generation)).setActiveMutationWorker
    (some ⟨.refreshRate, m.dispatcher.generation⟩)

def dispatchRecovery (delay : Nat) : Machine :=
  (m.enqueueTask (.recovery delay m.dispatcher.generation)).setActiveMutationWorker
    (some ⟨.recovery, m.dispatcher.generation⟩)

def dispatchRecoveryValidation (snapshot : Snapshot) : Machine :=
  (m.enqueueTask (.recoveryValidation snapshot m.dispatcher.generation)).setActiveMutationWorker
    (some ⟨.recovery, m.dispatcher.generation⟩)

@[simp]
def updStatusPolicy (update : RecoveryStatusPolicy → RecoveryStatusPolicy) : Machine :=
  m.updRecovery fun r => { r with statusPolicy := update r.statusPolicy }

@[simp]
def updScheduler (update : RestoreScheduler → RestoreScheduler) : Machine :=
  m.updRecovery fun r => { r with scheduler := update r.scheduler }

/-! ## Replies -/

def sendApplyResult (status : ApplyStatus) : Machine :=
  if m.session.applyResultSent then m
  else
    (m.updSession fun s => { s with applyResultSent := true }).emit
      (.applyResult status m.session.currentConnectionEpoch m.session.currentRequest.requestId)

def sendVerificationResult (success : Bool) : Machine :=
  if m.session.verificationResultSent then m
  else
    (m.updSession fun s => { s with verificationResultSent := true }).emit
      (.verificationResult success m.session.currentConnectionEpoch
        m.session.currentRequest.requestId)

def sendFailedVerification : Machine :=
  if m.session.applyResultSent && !m.session.verificationResultSent then
    m.sendVerificationResult false
  else m

end Machine

end Vibeshine.DisplayHelper
