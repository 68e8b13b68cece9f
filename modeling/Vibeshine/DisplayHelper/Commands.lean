import Vibeshine.DisplayHelper.Lanes

/-! # Command handlers

One function per command of the control pipe. A handler receives the
connection epoch it observes as an argument, because a deferred command is
handled again when it is drained.
-/

namespace Vibeshine.DisplayHelper.Machine

/-! ## APPLY -/

variable (m : Machine) (command : ApplyCommand)

def reactivationAdmitted : Bool :=
  match command.request.reactivationOf, command.request.configuration,
      m.session.currentRequest.configuration with
  | some target, some requested, some current =>
    m.state == .virtualDisplayMonitoring && m.session.sessionWasVerified &&
      m.lease.recoveryArmed && !m.lease.explicitRecoveryRequired && !m.mutationWorkerActive &&
      !m.fence.stagedStateResetPending && m.fence.deferredMutationCommands.isEmpty &&
      m.session.currentRequest.virtualLayout.isSome && m.session.currentRequest.requestId != 0 &&
      target == m.session.currentRequest.requestId &&
      command.connectionEpoch == m.session.currentConnectionEpoch &&
      !requested.deviceId.isEmpty && iequals requested.deviceId current.deviceId
  | _, _, _ => false

/-- The reactivation branch of `handle_apply_command`. -/
def handleReactivation : Machine :=
  if !m.reactivationAdmitted command then
    m.emit (.applyResult .retryable command.connectionEpoch command.request.requestId)
  else
    (m.updSession fun s => { s with activeReactivation := some command }).dispatchApplyWorker
      { m.session.currentRequest with
        reactivationOnly := true
        deadline := command.request.deadline } false

/-- What an APPLY of the live connection withdraws at ingress, even when it has
to wait behind a worker. -/
def supersedeForApply : Machine :=
  ((((m.updStatusPolicy (·.supersede)).call .clearPendingHdrBlank).updRecovery fun r =>
      { r with deferredDisplayEvent := none, baselinePresentDevices := none }).updLease fun l =>
    { l with explicitRecoveryRequired := false }).resetTransientDisconnectSettlement

def maxVirtualIdentityDiscoveriesPerSession : Nat := 2

def maxVirtualIdentityRepairsPerSession : Nat := 2

def openApplyTransaction : Machine :=
  let m := (m.updFence fun f => { f with deferredApplyCompletion := none }).updAllowance fun a =>
    { a with
      virtualIdentityDiscoveriesRemaining := maxVirtualIdentityDiscoveriesPerSession
      virtualIdentityRepairsRemaining := maxVirtualIdentityRepairsPerSession
      virtualHdrFallbackAttempted := false }
  let m := ((m.log .receivedApply).updLease fun l =>
      { l with recoveryLeaseBeforeApply :=
          l.recoveryArmed || l.displayChangesPendingRecovery }).cancelOperations
  let m := ((m.updScheduler (·.disarm)).updRestoreState (·.resetRequestProgress)).call .armHeartbeat
  let m := m.updSession fun s =>
    { s with
      applyResultSent := false
      verificationResultSent := false
      sessionWasVerified := false
      currentRequest := command.request
      currentConnectionEpoch := command.connectionEpoch
      resolvedTarget := none }
  let m := m.resetApplyVerificationState.resetBaselineRepair
  match command.request.snapshotExclusions with
  | none => m
  | some exclusions => m.updateBlacklist exclusions

def rejectApply : Machine :=
  (m.sendApplyResult .invalidRequest).transition .waiting .apply (some .invalidRequest)

variable (p : Ports)

def startApply (request : ApplyRequest) : Machine :=
  let m := (m.updSession fun s =>
      { s with currentRequest := request, lastApplyStarted := some p.now }).updAllowance fun a =>
    { a with
      baselineTopologyRepairAvailable :=
        request.virtualLayout.any fun layout => !iequals layout "exclusive"
      verificationReapplyAvailable := true }
  let m := m.applyRecoveryPolicyFromCurrentRequest
  let m := if p.tierExists .current then m else m.call (.captureBaseline .current)
  (m.transition .inProgress .apply).dispatchApplyWorker request false

/-- `handle_apply_command` past its barriers. -/
def executeApply (command : ApplyCommand) : Machine :=
  let m := m.openApplyTransaction command
  if command.request.configuration.isNone then m.rejectApply
  else
    match ensureExclusiveTopology command.request with
    | none => m.rejectApply
    | some request => m.startApply p request

variable (epoch : Nat)

def handleApplyCommand (command : ApplyCommand) : Machine :=
  if isStaleConnection epoch command.connectionEpoch then m
  else if command.request.reactivationOf.isSome then m.handleReactivation command
  else
    let m := m.supersedeForApply
    if m.mutationWorkerActive then m.queueAfterActiveMutation (.apply command) false
    else if m.fence.stagedStateResetPending then m.enqueueDeferredMutationCommand (.apply command)
    else m.executeApply p command

/-- `handle_virtual_display_repair_intent`: identity is observed again at the
fence, and autonomous maintenance keeps the session's results and status. -/
def handleVirtualDisplayRepairIntent (intent : VirtualDisplayRepairIntent) : Machine :=
  if isStaleConnection epoch intent.connectionEpoch then m
  else
    match m.session.currentRequest.configuration, m.session.currentRequest.virtualLayout with
    | some configuration, some _ =>
      if !m.virtualIdentityRepairAvailable then m
      else if p.virtualDeviceId.isEmpty then m
      else if iequals configuration.deviceId p.virtualDeviceId then m
      else
        (m.consumeVirtualIdentityRepair.updFence fun f =>
          { f with deferredApplyCompletion := none }).dispatchIdentityRepair p.virtualDeviceId
    | _, _ => m

/-! ## REVERT -/

/-- The ticket bookkeeping of `handle_revert_command`. -/
def openRestoreTicket (generation : Nat) (command : RevertCommand) : Machine :=
  m.updStatusPolicy fun policy =>
    if command.restoreTicket ≠ 0 ∧ policy.ticket = command.restoreTicket ∧
        policy.epoch = command.connectionEpoch then
      policy.restart generation command.connectionEpoch
    else
      policy.begin command.restoreTicket generation command.connectionEpoch

/-- What a REVERT latches at ingress, in the generation it arrives in: an
explicit one survives later autonomous decisions. -/
def latchRevert (generation : Nat) (command : RevertCommand) : Machine :=
  let m := (m.openRestoreTicket generation command).call .clearPendingHdrBlank
  if command.fromDisconnect then m
  else
    (m.updLease fun l =>
      { l with explicitRecoveryRequired := true }).resetTransientDisconnectSettlement

def revertGrace : Nat := 5000

/-- The restore branch of `handle_revert_command`. -/
def beginRevert (command : RevertCommand) : Machine :=
  let m := (m.log .receivedRevert).updRestoreState fun r =>
    { r with
      preferGoldenIfCurrentMissing := command.preferGoldenIfCurrentMissing
      alwaysRestoreFromGolden := command.alwaysRestoreFromGolden.getD r.alwaysRestoreFromGolden }
  let m := (m.call .goldenResetRequestTracking).cancelOperations.updLease fun l =>
    { l with recoveryArmed := true, displayChangesPendingRecovery := true }
  let m := (m.call .disarmHeartbeat).resetApplyVerificationState
  let grace := if command.immediate then 0 else revertGrace
  (m.updScheduler fun s => s.armPrimary p.now grace).startRecovery p grace .revert

/-- `handle_revert_command` past its barriers. -/
def executeRevert (command : RevertCommand) : Machine :=
  let m := (m.updFence fun f => { f with deferredApplyCompletion := none }).resetBaselineRepair
  if command.fromDisconnect && !m.lease.explicitRecoveryRequired &&
      !m.restoreState.restoreOnDisconnect && !m.recoveryWorkerInProgress then
    ((m.log .disconnectNotRestoring).cancelOperations.clearRecoveryState.resetApplyVerificationState
      ).transition .waiting .disarm
  else if !p.tierExists .current && !p.tierExists .previous && !p.tierExists .golden then
    (m.log .nothingToRestore).cancelOperations.clearRecoveryState.exitCallback p 0
  else m.beginRevert p command

def handleRevertCommand (command : RevertCommand) : Machine :=
  if isStaleConnection epoch command.connectionEpoch then m
  else
    let m := m.latchRevert m.dispatcher.generation command
    if command.fromDisconnect && m.recoveryWorkerInProgress then m
    else if m.mutationWorkerActive then m.queueAfterActiveMutation (.revert command)
    else if m.fence.stagedStateResetPending then m.enqueueDeferredMutationCommand (.revert command)
    else m.executeRevert p command

/-- `handle_disarm_command` past its barriers. A cancelled mutation that may
have changed the desktop keeps the recovery guard. -/
def executeDisarm : Machine :=
  let m := (m.updFence fun f => { f with deferredApplyCompletion := none }).resetBaselineRepair
  let m := (m.log .receivedDisarm).cancelOperations
  let m := if m.lease.unconfirmedCancelledMutation then m.log .keepingRecoveryGuard
    else m.clearRecoveryState
  let m := m.updSession fun s =>
    { s with
      applyResultSent := false
      verificationResultSent := false
      sessionWasVerified := false
      lastApplyStarted := none
      resolvedTarget := none }
  let m := if m.lease.unconfirmedCancelledMutation then m
    else m.updLease fun l => { l with restoreTaskCreated := false }
  m.resetApplyVerificationState.transition .waiting .disarm

def disarmIgnored (command : DisarmCommand) : Bool :=
  !command.force && m.restorePending && m.restoreState.restoreAttemptedUnconfirmed

def withdrawRecovery : Machine :=
  (m.updLease fun l =>
    { l with explicitRecoveryRequired := false }).resetTransientDisconnectSettlement

def handleDisarmCommand (command : DisarmCommand) : Machine :=
  if isStaleConnection epoch command.connectionEpoch then m
  else
    let m := (m.updStatusPolicy (·.supersede)).call .clearPendingHdrBlank
    if m.disarmIgnored command then m
    else
      let m := m.withdrawRecovery
      if m.fence.stagedStateResetPending then m.enqueueDeferredMutationCommand (.disarm command)
      else if m.mutationWorkerActive then
        (m.updScheduler (·.disarm)).queueAfterActiveMutation (.disarm command)
      else m.executeDisarm

def adoptExclusions (payload : SnapshotCommandPayload) : Machine :=
  if payload.updateExclusions || !payload.excludeDevices.isEmpty then
    m.updateBlacklist payload.excludeDevices
  else m

def handleExportGolden (command : ExportGoldenCommand) : Machine :=
  if isStaleConnection p.epoch command.connectionEpoch then m
  else if m.applyInFlight || m.restorePending then m
  else
    let m := (m.adoptExclusions command.payload).call (.captureBaseline .golden)
    if p.captureSaved then m.call .goldenClearStatus else m

def handleSnapshotCurrent (command : SnapshotCurrentCommand) : Machine :=
  if isStaleConnection p.epoch command.connectionEpoch then m
  else if m.restorePending || m.applyInFlight then
    m.emit (.snapshotResult false command.connectionEpoch command.requestId)
  else
    ((m.adoptExclusions command.payload).call (.captureBaseline .current)).emit
      (.snapshotResult p.captureSaved command.connectionEpoch command.requestId)

def handleRefreshRateCommand (command : RefreshRateCommand) : Machine :=
  if isStaleConnection p.epoch command.connectionEpoch then m
  else if command.deviceId.isEmpty || command.numerator == 0 || command.denominator == 0 ||
      (m.session.currentRequest.configuration.isSome &&
        !m.refreshTargetsActiveRequest command.deviceId) ||
      m.applyInFlight || m.restorePending then
    m.emit (.refreshRateResult false command.connectionEpoch command.requestId)
  else m.dispatchRefreshRate command

def handleResetCommand (command : ResetCommand) : Machine :=
  if isStaleConnection epoch command.connectionEpoch then m
  else
    let m := m.updStatusPolicy (·.supersede)
    if m.fence.stagedStateResetPending then m.enqueueDeferredMutationCommand (.reset command)
    else if m.mutationWorkerActive then m.queueAfterActiveMutation (.reset command) false
    else m.deferTransientDisconnectSettlementForStagedReset.beginStagedStateReset

def handlePingCommand (command : PingCommand) : Machine :=
  if isStaleConnection p.epoch command.connectionEpoch then m else m.call .recordPing

def handleStopCommand (command : StopCommand) : Machine :=
  if isStaleConnection p.epoch command.connectionEpoch then m else m.exitCallback p 0

def operationQueued : Bool :=
  m.fence.stagedStateResetPending || !m.fence.deferredMutationCommands.isEmpty

/-- The reply to a status poll. The parked acknowledgement is given for the
current ticket, generation, and epoch only. -/
def replyRecoveryStatus (command : RecoveryStatusCommand) (result : RecoveryStatus) : Machine :=
  let policy := m.recovery.statusPolicy
  m.emit (.recoveryStatusResult command.ticket result policy.eventRevision
    (command.park && result == .failed && policy.ticket == command.ticket &&
      policy.generation == m.dispatcher.generation && policy.epoch == p.epoch && policy.parked)
    command.connectionEpoch)

def queryRecoveryStatus (command : RecoveryStatusCommand)
    (workerActive operationQueued park : Bool) : RecoveryStatus × RecoveryStatusPolicy :=
  m.recovery.statusPolicy.query command.ticket command.generation command.connectionEpoch
    m.dispatcher.generation p.epoch workerActive operationQueued park

/-- The parking branch of `handle_recovery_status_command`. -/
def parkRecovery (command : RecoveryStatusCommand) : Machine :=
  let answer := m.queryRecoveryStatus p command false false true
  let m := m.updStatusPolicy fun _ => answer.2
  let m := if answer.1 == .failed && answer.2.parked then
      (m.updScheduler (·.disarm)).updRecovery fun r => { r with deferredDisplayEvent := none }
    else m
  m.replyRecoveryStatus p command answer.1

def handleRecoveryStatusCommand (command : RecoveryStatusCommand) : Machine :=
  let result := (m.queryRecoveryStatus p command m.mutationWorkerActive m.operationQueued false).1
  let m := if command.ticket != 0 && !isStaleConnection p.epoch command.connectionEpoch then
    m.call .recordLivenessPing else m
  if command.park && result == .failed && !m.operationQueued && !m.mutationWorkerActive &&
      m.state == .eventLoop then
    m.parkRecovery p command
  else
    -- park never manufactures failure: a busy or unparked recovery stays active
    m.replyRecoveryStatus p command
      (if command.park && result == .failed then .active else result)

/-- `notify_recovery_status`, after every message. -/
def notifyRecoveryStatus : Machine :=
  let policy := m.recovery.statusPolicy
  if policy.ticket = 0 then m
  else
    let status := (policy.query policy.ticket policy.generation policy.epoch
      m.dispatcher.generation p.epochAtEnd m.mutationWorkerActive m.operationQueued false).1
    let notification := (policy.ticket, status, policy.eventRevision, p.epochAtEnd)
    if m.recovery.lastNotification = some notification then m
    else
      (m.updRecovery fun r => { r with lastNotification := some notification }).emit
        (.recoveryStatusResult policy.ticket status policy.eventRevision false p.epochAtEnd)

/-! ## Draining -/

def handleDeferredCommand : DeferredMutationCommand → Machine
  | .apply command => m.handleApplyCommand p epoch command
  | .repair intent => m.handleVirtualDisplayRepairIntent p epoch intent
  | .revert command => m.handleRevertCommand p epoch command
  | .disarm command => m.handleDisarmCommand epoch command
  | .reset command => m.handleResetCommand epoch command

/-- `pop_front` of the deferred queue. -/
def setDeferredMutationCommands (queue : List DeferredMutationCommand) : Machine :=
  m.updFence fun f => { f with deferredMutationCommands := queue }

/-- The loop of `drain_deferred_mutation_commands`, with an iteration bound. -/
def drainLoop (p : Ports) : Nat → Machine → Machine
  | 0, m => m
  | fuel + 1, m =>
    if m.mutationWorkerActive || m.fence.stagedStateResetPending then m
    else
      match m.fence.deferredMutationCommands with
      | [] => m
      | command :: rest =>
        drainLoop p fuel ((m.setDeferredMutationCommands rest).handleDeferredCommand p
          (p.drainEpoch rest.length) command)

/-- `drain_deferred_mutation_commands`. No deferred handler enqueues while the
loop condition holds, so the queue length bounds the iterations. -/
def drainDeferredMutationCommands : Machine :=
  drainLoop p m.fence.deferredMutationCommands.length m

end Vibeshine.DisplayHelper.Machine
