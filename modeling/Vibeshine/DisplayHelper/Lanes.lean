import Vibeshine.DisplayHelper.Ports

/-! # Private members of the state machine

The operations the handlers are composed of: recovery start and lease, the
disconnect settlement, repairs, the deferred-command queue, and the staged
reset barrier.
-/

namespace Vibeshine.DisplayHelper.Machine

/-! ## Recovery and its lease -/

variable (m : Machine)

def updateBlacklist (excludeDevices : List String) : Machine :=
  let blacklist := (excludeDevices.filter (! ·.isEmpty)).toFinset
  (m.setSnapshotBlacklist blacklist).updRestoreState fun r => { r with exclusions := blacklist }

def startRecovery (p : Ports) (delay : Nat) (trigger : ApplyAction) : Machine :=
  let m := ((m.call .clearPendingHdrBlank).updFence fun f =>
      { f with recoveryStagedStateResetSucceeded := none }).updRecovery fun r =>
    { r with deferredDisplayEvent := none, baselinePresentDevices := p.presentBaseline }
  let m := (m.transition .recovery trigger).dispatchRecovery delay
  m.updStatusPolicy fun policy => policy.restart m.dispatcher.generation policy.epoch

def resetTransientDisconnectSettlement : Machine :=
  m.updSettlement fun _ => {}

def resetBaselineRepair : Machine :=
  (m.updAllowance fun a =>
      { a with
        baselineTopologyRepairAvailable := false
        baselineTopologyRepairInFlight := false
        observedAbsentBaselineDevices := ∅
        observedDisabledBaselineDevices := ∅ }).updSession fun s =>
    { s with expectedTopology := none }

/-- `delete_restore_task`, forgetting that it was created. -/
def deleteRestoreTask (m : Machine) : Machine :=
  (m.emit .deleteRestoreTask).updLease fun l => { l with restoreTaskCreated := false }

/-- `clear_recovery_state(true)`, the only form the handlers use. -/
def clearRecoveryState : Machine :=
  let m := (m.updStatusPolicy (·.supersede)).updScheduler (·.disarm)
  let m := (m.updRestoreState (·.resetRequestProgress)).updLease fun l =>
    { l with
      recoveryArmed := false
      displayChangesPendingRecovery := false
      explicitRecoveryRequired := false }
  let m := (m.updSession fun s => { s with lastApplyStarted := none }).resetTransientDisconnectSettlement
  let m := (m.call .disarmHeartbeat).updRecovery fun r =>
    { r with
      snapshot := none
      eventFeedbackQuietUntil := none
      deferredDisplayEvent := none
      baselinePresentDevices := none }
  let m := m.updAllowance fun a =>
    { a with virtualIdentityDiscoveriesRemaining := 0, virtualIdentityRepairsRemaining := 0 }
  m.resetBaselineRepair.deleteRestoreTask

def applyRecoveryPolicyFromCurrentRequest : Machine :=
  (m.updRestoreState fun r =>
      { r with
        alwaysRestoreFromGolden := m.session.currentRequest.preferGoldenFirst
        restoreOnDisconnect := m.session.currentRequest.restoreOnDisconnect }).setPreferGoldenFirst
    m.session.currentRequest.preferGoldenFirst

def activateRecoveryLease : Machine :=
  (m.updLease fun l =>
      { l with recoveryArmed := true, displayChangesPendingRecovery := true
    }).applyRecoveryPolicyFromCurrentRequest

def createRestoreTask (m : Machine) (p : Ports) : Machine :=
  (m.emit .createRestoreTask).updLease fun l =>
    { l with restoreTaskCreated := p.createRestoreTask }

def retainRecoveryAfterDisplayMutation (p : Ports) (completed : ApplyCompleted) : Machine :=
  let m := if completed.durableRecoveryArmed then
    m.updLease fun l => { l with restoreTaskCreated := true } else m
  let m := m.activateRecoveryLease
  if !m.lease.restoreTaskCreated && !completed.durableRecoveryAttempted then
    m.createRestoreTask p
  else m

def setUnconfirmedCancelledMutation (value : Bool) : Machine :=
  (m.updLease fun l => { l with unconfirmedCancelledMutation := value }).emit (.unconfirmed value)

def retainRecoveryAfterCancelledRecovery : Machine :=
  ((m.updLease fun l =>
      { l with
        recoveryArmed := true
        displayChangesPendingRecovery := true }).setUnconfirmedCancelledMutation true).call
    .armHeartbeat

/-- `enter_steady_state`; a monitored virtual session observes absent baseline
devices on entry. -/
def enterSteadyState (p : Ports) : Machine :=
  match m.session.currentRequest.virtualLayout with
  | none => m.transition .waiting .apply (some .ok)
  | some _ =>
    let m := match m.allowance.baselineTopologyRepairAvailable,
        m.session.currentRequest.configuration with
      | true, some configuration =>
        let observed := p.returnedBaseline configuration.deviceId m.snapshotBlacklist
          m.allowance.observedAbsentBaselineDevices m.allowance.observedDisabledBaselineDevices
        m.updAllowance fun a =>
          { a with
            observedAbsentBaselineDevices := observed.2.1
            observedDisabledBaselineDevices := observed.2.2 }
      | _, _ => m
    m.transition .virtualDisplayMonitoring .apply (some .ok)

def resetApplyVerificationState : Machine :=
  m.updAllowance fun a => { a with verificationReapplyAvailable := false }

def beginStagedStateReset : Machine :=
  if m.fence.stagedStateResetPending then m
  else
    (m.updFence fun f => { f with stagedStateResetPending := true }).enqueueTask
      (.reset m.dispatcher.generation)

def resetUncommittedStagedStateIfNeeded : Machine :=
  if !m.fence.stagedStatePrepared || m.lease.recoveryLeaseBeforeApply ||
      m.lease.recoveryArmed || m.lease.unconfirmedCancelledMutation then m
  else
    (if m.lease.restoreTaskCreated then m.deleteRestoreTask else m).beginStagedStateReset

/-! ## Disconnect settlement -/

/-- `transient_disconnect_verification_request`: a rolled-back session checks
the restored topology only. -/
def transientDisconnectVerificationRequest : ApplyRequest :=
  if m.settlement.rollbackVerification then
    { m.session.currentRequest with
      configuration := none
      virtualLayout := none
      settingsOnlyRepair := false
      repairTarget := none
      exclusivePreApplyTopology := none
      exclusiveTopologyRollbackOnly := false }
  else m.session.currentRequest

def settlementTarget : Option ResolvedConfigurationTarget :=
  if m.settlement.rollbackVerification then none else m.session.resolvedTarget

/-- `defer_transient_disconnect_settlement_for_staged_reset`: a cancelled timer
has not consumed a verification attempt. -/
def deferTransientDisconnectSettlementForStagedReset : Machine :=
  if !m.settlement.requested then m
  else
    let m := if m.settlement.checkPending then
        m.cancelOperations.updSettlement fun s =>
          { s with
            checkPending := false
            deferredFinalCheck := s.deferredFinalCheck || s.finalCheckPending
            nextCheck := if s.finalCheckPending then s.nextCheck else s.nextCheck - 1 }
      else m
    m.updSettlement fun s => { s with deferredByStagedReset := true, finalCheckPending := false }

def prepareTransientDisconnectSettlement : Machine :=
  (if m.session.sessionWasVerified && m.state == .verification then m.cancelOperations
    else m).resetApplyVerificationState

def dispatchTransientDisconnectFinalVerification : Machine :=
  let m := (m.updSettlement fun s =>
      { s with checkPending := true, finalCheckPending := true }).transition .verification .apply
  m.dispatchVerification m.transientDisconnectVerificationRequest
    (m.settlement.topology.or m.session.currentRequest.topology) m.settlementTarget 0
    .transientDisconnectFinal

def settlementDelays : List Nat := [250, 750]

/-- `dispatch_next_transient_disconnect_verification`: whether the settlement
still owns the session, and the state machine it leaves. -/
def dispatchNextTransientDisconnectVerification : Bool × Machine :=
  if m.fence.stagedStateResetPending && m.settlement.requested then
    (true, m.updSettlement fun s => { s with deferredByStagedReset := true })
  else if m.settlement.checkPending then
    (true, m)
  else if !m.settlement.requested || m.session.currentRequest.configuration.isNone then
    (false, m.resetTransientDisconnectSettlement)
  else
    match settlementDelays[m.settlement.nextCheck]? with
    | none =>
      if m.settlement.topology.any (! ·.isEmpty) &&
          (m.settlement.rollbackVerification || isExclusiveRequest m.session.currentRequest) then
        (true, m.dispatchTransientDisconnectFinalVerification)
      else
        (false, m.resetTransientDisconnectSettlement)
    | some delay =>
      let m := (m.updSettlement fun s =>
          { s with nextCheck := s.nextCheck + 1, checkPending := true }).transition
        .verification .apply
      let topology := if isExclusiveRequest m.session.currentRequest ||
          m.settlement.rollbackVerification then
        m.settlement.topology.or m.session.currentRequest.topology else none
      (true, m.dispatchVerification m.transientDisconnectVerificationRequest topology
        m.settlementTarget delay .transientDisconnect)

def resumeTransientDisconnectSettlementAfterStagedReset : Machine :=
  if !m.settlement.deferredByStagedReset || m.fence.stagedStateResetPending then m
  else
    let m := m.updSettlement fun s => { s with deferredByStagedReset := false }
    if !m.settlement.requested || m.mutationWorkerActive then m
    -- the source lets the original APPLY gate complete before a second readback
    else if !m.session.sessionWasVerified && m.state == .verification then m
    else if m.settlement.deferredFinalCheck then
      (m.updSettlement fun s =>
        { s with deferredFinalCheck := false }).dispatchTransientDisconnectFinalVerification
    else
      (if m.settlement.checkPending then m
        else m.prepareTransientDisconnectSettlement).dispatchNextTransientDisconnectVerification.2

def dispatchSettingsOnlyRepair : Machine :=
  m.dispatchApplyWorker
    { m.session.currentRequest with
      settingsOnlyRepair := true
      repairTarget := m.session.resolvedTarget } false

/-- `dispatch_next_verification_reapply`, once its allowance was found. -/
def dispatchVerificationReapply : Machine :=
  (m.resetApplyVerificationState.transition .inProgress .apply
    (some .verificationFailed)).dispatchSettingsOnlyRepair

def dispatchTransientDisconnectRepair : Machine :=
  ((m.cancelOperations.updSettlement fun s =>
      { s with checkPending := false, repairInFlight := true }).transition .inProgress .apply
    (some .verificationFailed)).dispatchSettingsOnlyRepair

def dispatchExclusiveTopologyRollback : Machine :=
  if !isExclusiveRequest m.session.currentRequest ||
      !m.session.currentRequest.exclusivePreApplyTopology.any (! ·.isEmpty) then m
  else
    (m.transition .inProgress .apply (some .verificationFailed)).dispatchApplyWorker
      { m.session.currentRequest with
        settingsOnlyRepair := false
        exclusiveTopologyRollbackOnly := true } false

/-- `retarget_virtual_display_device_id_if_needed`, on the request. -/
def retargetRequest (request : ApplyRequest) (resolved : String) : ApplyRequest :=
  match request.virtualLayout, request.configuration with
  | some _, some configuration =>
    if resolved.isEmpty then request
    else if !configuration.deviceId.isEmpty && iequals configuration.deviceId resolved then
      request
    else
      let previous := configuration.deviceId
      let retarget := fun (deviceId : String) =>
        if !previous.isEmpty && iequals deviceId previous then resolved else deviceId
      { request with
        configuration := some { configuration with deviceId := resolved }
        topology := request.topology.map (·.map (·.map retarget))
        monitorPositions := request.monitorPositions.map fun entry =>
          (retarget entry.1, entry.2) }
  | _, _ => request

/-- The common end of every identity repair: the request follows the device to
its new id, one mismatch repair becomes available, and an APPLY starts. -/
def dispatchIdentityRepair (resolved : String) : Machine :=
  let request := retargetRequest (resetExclusiveRollbackSnapshotForVerifiedReapply
    m.session.currentRequest m.session.sessionWasVerified) resolved
  let m := (m.updSession fun s => { s with currentRequest := request }).updAllowance fun a =>
    { a with verificationReapplyAvailable := true }
  (m.transition .inProgress .apply).dispatchApplyWorker request false

def consumeVirtualIdentityDiscovery : Machine :=
  m.updAllowance fun a =>
    { a with virtualIdentityDiscoveriesRemaining := a.virtualIdentityDiscoveriesRemaining - 1 }

def consumeVirtualIdentityRepair : Machine :=
  m.updAllowance fun a =>
    { a with virtualIdentityRepairsRemaining := a.virtualIdentityRepairsRemaining - 1 }

/-! ## Deferred commands -/

/-- The queue after `enqueue_deferred_mutation_command`. A device observation
never displaces a client intent; a client intent displaces everything but
RESET, which stays an ordered barrier. -/
def enqueueDeferred (queue : List DeferredMutationCommand) (command : DeferredMutationCommand) :
    List DeferredMutationCommand :=
  match command with
  | .repair _ =>
    if queue.any (·.isSessionIntent) then queue
    else queue.filter (! ·.isRepair) ++ [command]
  | .reset _ => queue ++ [command]
  | .apply _ | .revert _ | .disarm _ => queue.filter (·.isReset) ++ [command]

variable (command : DeferredMutationCommand)

def enqueueDeferredMutationCommand : Machine :=
  m.updFence fun f =>
    { f with deferredMutationCommands := enqueueDeferred f.deferredMutationCommands command }

def queueAfterActiveMutation (cancelActiveMutation : Bool := true) : Machine :=
  (if cancelActiveMutation then m.cancelOperations else m).enqueueDeferredMutationCommand command

end Vibeshine.DisplayHelper.Machine
