import Vibeshine.DisplayHelper.Ports

/-! # The APPLY worker

`ApplyOperation::run` and the task `AsyncDispatcher::dispatch_apply` wraps
around it. What the display stack answers is a parameter; what the worker
reports about its own progress is computed as in the source.
-/

namespace Vibeshine.DisplayHelper

inductive ResetExit where
  | cancelledBeforeArming | cancelledAfterArming | disableFailed | cancelledWhileDisabled
  | enableFailed | cancelledWhileSettling
  deriving DecidableEq

/-- The answers one APPLY worker receives. `stopped` is the outcome of the
numbered checks for cancellation or an expired deadline. -/
structure ApplyEnvironment where
  /-- The task raised, and its failure handler reports a default outcome. -/
  thrown : Bool := false
  resetArmed : Bool := false
  resetExit : Option ResetExit := none
  stopped : Nat → Bool := fun _ => false
  restoreExclusive : Bool := true
  reactivation : ApplyStatus := .ok
  preflightStatus : ApplyStatus := .ok
  /-- The preflight plan, reduced to the target it resolves to. -/
  preflightPlan : Option (Option ResolvedConfigurationTarget) := some none
  capturedTopology : Option ActiveTopology := none
  resetStagedState : Bool := true
  mutationBoundary : Bool := true
  armDurableRecovery : Bool := true
  topologyIsValid : Bool := true
  applied : ApplyStatus := .ok
  hdrBlank : Bool := false
  hdrBlanked : Bool := true

namespace ApplyEnvironment

def explicitTarget (request : ApplyRequest) : Option ResolvedConfigurationTarget :=
  request.configuration.bind fun configuration =>
    if configuration.deviceId.isEmpty then none
    else some
      { kind := .explicitDevice
        representativeDeviceId := configuration.deviceId
        duplicateDeviceIds := {configuration.deviceId} }

/-- The rollback-only lane of `ApplyOperation::run`. -/
def runRollback (env : ApplyEnvironment) (request : ApplyRequest) (outcome : ApplyOutcome) :
    ApplyOutcome :=
  if !isExclusiveRequest request || !request.configuration.any (! ·.deviceId.isEmpty) ||
      !request.exclusivePreApplyTopology.any (! ·.isEmpty) then
    { outcome with status := .invalidRequest }
  else
    { outcome with
      displayMayHaveChanged := true
      status := if env.restoreExclusive then .ok else .fatal }

def restoreAfterFailure (env : ApplyEnvironment) (request : ApplyRequest)
    (outcome : ApplyOutcome) : ApplyOutcome :=
  if isExclusiveRequest request && outcome.status != .ok && !env.restoreExclusive then
    { outcome with status := .fatal }
  else outcome

/-- The reactivation lane of `ApplyOperation::run`. -/
def runReactivation (env : ApplyEnvironment) (outcome : ApplyOutcome) : ApplyOutcome :=
  { outcome with
    displayMayHaveChanged := true
    status := if env.stopped 1 then .fatal else env.reactivation }

/-- The settings-only lane of `ApplyOperation::run`. -/
def runSettingsOnly (env : ApplyEnvironment) (request : ApplyRequest) (outcome : ApplyOutcome) :
    ApplyOutcome :=
  let outcome :=
    { outcome with
      resolvedTarget := request.repairTarget.or (explicitTarget request)
      displayMayHaveChanged := true
      durableRecoveryAttempted := true
      stagedStatePrepared := true }
  if isExclusiveRequest request && !request.exclusivePreApplyTopology.any (! ·.isEmpty) then
    { outcome with status := .fatal }
  else
    env.restoreAfterFailure request
      { outcome with status := if env.stopped 1 then .fatal else env.applied }

def runTransaction (env : ApplyEnvironment) (request : ApplyRequest) (outcome : ApplyOutcome) :
    ApplyOutcome :=
  let outcome :=
    { outcome with
      displayMayHaveChanged := true
      stagedStatePrepared := true
      status := env.applied }
  if env.stopped 4 then { outcome with status := .fatal }
  else
    let outcome := if env.stopped 5 then { outcome with status := .fatal } else outcome
    let outcome := if outcome.status == .ok && env.hdrBlank && !env.hdrBlanked then
        { outcome with status := if env.stopped 6 then .fatal else .hdrStateFailed }
      else outcome
    let outcome := if env.stopped 7 then { outcome with status := .fatal } else outcome
    env.restoreAfterFailure request outcome

def armAtBoundary (env : ApplyEnvironment) (outcome : ApplyOutcome) : ApplyOutcome :=
  if env.mutationBoundary then
    { outcome with
      durableRecoveryArmed := outcome.durableRecoveryArmed ||
        (!outcome.durableRecoveryAttempted && env.armDurableRecovery)
      durableRecoveryAttempted := true }
  else outcome

def stageTopology (env : ApplyEnvironment) (request : ApplyRequest) (outcome : ApplyOutcome) :
    ApplyOutcome :=
  if !isExclusiveRequest request && request.topology.isSome && env.topologyIsValid then
    { outcome with displayMayHaveChanged := true }
  else outcome

/-- The ordinary lane past the pre-APPLY topology: the durable lease, the staged
topology, and the transaction. -/
def runStaging (env : ApplyEnvironment) (request : ApplyRequest) (outcome : ApplyOutcome) :
    ApplyOutcome :=
  if request.refreshSettingsBaseline && request.topology.isSome &&
      request.configuration.any (·.devicePrep != .ensureOnlyDisplay) &&
      !env.resetStagedState then
    { outcome with status := .fatal }
  else if env.stopped 2 then { env.armAtBoundary outcome with status := .fatal }
  else
    let outcome := env.stageTopology request (env.armAtBoundary outcome)
    if env.stopped 3 then { outcome with status := .fatal } else env.runTransaction request outcome

/-- The ordinary lane of `ApplyOperation::run`, from its preflight on. -/
def runOrdinary (env : ApplyEnvironment) (request : ApplyRequest) (outcome : ApplyOutcome) :
    ApplyOutcome :=
  match env.preflightStatus, env.preflightPlan with
  | .ok, some target =>
    let outcome := { outcome with resolvedTarget := target.or (explicitTarget request) }
    if env.stopped 1 then { outcome with status := .fatal }
    else if isExclusiveRequest request then
      let topology := outcome.exclusivePreApplyTopology.or env.capturedTopology
      if topology.any (! ·.isEmpty) then
        env.runStaging request { outcome with exclusivePreApplyTopology := topology }
      else { outcome with exclusivePreApplyTopology := none, status := .fatal }
    else env.runStaging request outcome
  | .ok, none => { outcome with status := .fatal }
  | status, _ => { outcome with status := status }

/-- The singleton an Exclusive request owns is refused when it names no device
or another topology. -/
def exclusiveContractRefused (request : ApplyRequest) : Bool :=
  isExclusiveRequest request && request.configuration.any fun configuration =>
    configuration.deviceId.isEmpty || request.topology.any fun topology =>
      !topology.isEmpty && !isExclusiveSingleton topology configuration.deviceId

def run (env : ApplyEnvironment) (request : ApplyRequest) (armed attempted : Bool) : ApplyOutcome :=
  let outcome : ApplyOutcome :=
    { virtualDisplayRequested := request.virtualLayout.isSome
      exclusivePreApplyTopology := request.exclusivePreApplyTopology
      exclusiveRollbackOnly := request.exclusiveTopologyRollbackOnly
      durableRecoveryArmed := armed
      durableRecoveryAttempted := armed || attempted }
  if request.exclusiveTopologyRollbackOnly then env.runRollback request outcome
  else if env.stopped 0 then { outcome with status := .fatal }
  else if request.configuration.isNone || exclusiveContractRefused request then
    { outcome with status := .invalidRequest }
  else if request.reactivationOnly then env.runReactivation outcome
  else if request.settingsOnlyRepair then env.runSettingsOnly request outcome
  else env.runOrdinary request outcome

def resetOutcome (env : ApplyEnvironment) (request : ApplyRequest) (exit : ResetExit) :
    ApplyOutcome :=
  let outcome : ApplyOutcome := { virtualDisplayRequested := request.virtualLayout.isSome }
  match exit with
  | .cancelledBeforeArming => outcome
  | .cancelledAfterArming =>
    { outcome with durableRecoveryAttempted := true, durableRecoveryArmed := env.resetArmed }
  | .disableFailed | .cancelledWhileDisabled | .enableFailed | .cancelledWhileSettling =>
    { outcome with
      durableRecoveryAttempted := true
      durableRecoveryArmed := env.resetArmed
      displayMayHaveChanged := true }

/-- The task of `dispatch_apply`. -/
def runTask (env : ApplyEnvironment) (request : ApplyRequest) (resetVirtualDisplay : Bool) :
    ApplyOutcome :=
  if env.thrown then {}
  else if resetVirtualDisplay then
    match env.resetExit with
    | some exit => env.resetOutcome request exit
    | none =>
      { env.run request env.resetArmed true with
        displayMayHaveChanged := true
        durableRecoveryAttempted := true }
  else env.run request false false

/-! ## What a report tells -/

variable (env : ApplyEnvironment) (request : ApplyRequest) (outcome : ApplyOutcome)

end ApplyEnvironment

end Vibeshine.DisplayHelper
