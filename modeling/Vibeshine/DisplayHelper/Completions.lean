import Vibeshine.DisplayHelper.Commands

/-! # Completion handlers

What the state machine does with the results of dispatched work. A completion
retires the mutation fence before its staleness is examined: a cancelled worker
is still the authoritative source for whether the desktop was touched.
-/

namespace Vibeshine.DisplayHelper.Machine

/-! ## APPLY completions -/

variable (m : Machine) (p : Ports)

/-- The members `finish_apply_completed` records before it decides anything. -/
def recordApplyCompletion (completed : ApplyCompleted) : Machine :=
  let baselineRepair := m.allowance.baselineTopologyRepairInFlight
  let m := m.updAllowance fun a => { a with baselineTopologyRepairInFlight := false }
  let m := if !baselineRepair || completed.resolvedTarget.isSome then
    m.updSession fun s => { s with resolvedTarget := completed.resolvedTarget } else m
  let restorable := completed.exclusivePreApplyTopology.any (! ·.isEmpty)
  let m := if isExclusiveRequest m.session.currentRequest && restorable then
      m.updSession fun s =>
        { s with currentRequest.exclusivePreApplyTopology := completed.exclusivePreApplyTopology }
    else m
  let m := if completed.exclusiveRollbackOnly && m.settlement.requested && restorable then
      m.updSettlement fun s =>
        { s with topology := completed.exclusivePreApplyTopology, rollbackVerification := true }
    else m
  let touched := completed.status == .ok || completed.displayMayHaveChanged
  let m := if touched then m.activateRecoveryLease else m
  let m := if completed.durableRecoveryArmed then
    m.updLease fun l => { l with restoreTaskCreated := true } else m
  if touched && !m.lease.restoreTaskCreated && !completed.durableRecoveryAttempted then
    m.createRestoreTask p
  else m

def disarmHeartbeatIfUnarmed : Machine :=
  if m.lease.recoveryArmed then m else m.call .disarmHeartbeat

/-- A settlement that waited for a rollback-only mutation resumes after any
queued intent had its chance to supersede it. -/
def resumeSettlementAfterRollback : Machine :=
  if !m.settlement.requested || m.mutationWorkerActive then m
  else if m.fence.stagedStateResetPending then
    m.updSettlement fun s => { s with deferredByStagedReset := true }
  else if m.settlement.deferredFinalCheck then
    (m.updSettlement fun s =>
      { s with deferredFinalCheck := false }).dispatchTransientDisconnectFinalVerification
  else m.prepareTransientDisconnectSettlement.dispatchNextTransientDisconnectVerification.2

/-- The rollback-only branch of `finish_apply_completed`. -/
def finishExclusiveRollback : Machine :=
  let m := ((m.sendApplyResult .verificationFailed).sendFailedVerification).disarmHeartbeatIfUnarmed
  let m := if m.session.sessionWasVerified then m.enterSteadyState p
    else m.transition .waiting .apply (some .verificationFailed)
  (m.drainDeferredMutationCommands p).resumeSettlementAfterRollback

/-- A settlement repair that was confirmed without a following probe keeps the
session alive. -/
def acceptUnprobedRepair : Machine :=
  ((((m.updSession fun s => { s with sessionWasVerified := true
    }).activateRecoveryLease).setUnconfirmedCancelledMutation false).enterSteadyState
      p).drainDeferredMutationCommands p

/-- The settlement's turn after one of its repairs completed: intents queued
meanwhile go first; `exhausted` runs when no check remains. -/
def continueSettlement (exhausted : Machine → Machine) : Machine :=
  let m := (m.updSettlement fun s =>
    { s with repairInFlight := false }).drainDeferredMutationCommands p
  if !m.settlement.requested || m.mutationWorkerActive then m
  else if m.fence.stagedStateResetPending then
    m.deferTransientDisconnectSettlementForStagedReset
  else
    match m.dispatchNextTransientDisconnectVerification with
    | (true, m) => m
    | (false, m) => exhausted m

def openVerificationGate (baselineRepair : Bool) : Machine :=
  let m := m.transition .verification .apply (some .ok)
  let topology := if baselineRepair then m.session.expectedTopology
    else if isExclusiveRequest m.session.currentRequest then m.session.currentRequest.topology
    else none
  (m.dispatchVerification m.session.currentRequest topology m.session.resolvedTarget 0
    (if baselineRepair then .baselineTopologyRepair else .initial)).drainDeferredMutationCommands p

/-- The `ApplyStatus::Ok` branch of `finish_apply_completed`. -/
def finishSuccessfulApply (baselineRepair : Bool) : Machine :=
  if m.settlement.repairInFlight then
    m.continueSettlement p fun m =>
      if isExclusiveRequest m.session.currentRequest && m.session.currentRequest.topology.isSome then
        m.dispatchTransientDisconnectFinalVerification
      else m.acceptUnprobedRepair p
  else m.openVerificationGate p baselineRepair

variable (completed : ApplyCompleted)

def canFallbackVirtualHdr : Bool :=
  !m.allowance.virtualHdrFallbackAttempted && completed.virtualDisplayRequested &&
    m.session.currentRequest.configuration.any (·.hdrState == some .enabled) &&
    completed.status == .hdrStateFailed

def dispatchVirtualHdrFallback : Machine :=
  let m := (m.updAllowance fun a => { a with virtualHdrFallbackAttempted := true }).updSession
    fun s => { s with currentRequest.configuration :=
      s.currentRequest.configuration.map fun c => { c with hdrState := some .disabled } }
  (m.transition .inProgress .apply (some completed.status)).dispatchSettingsOnlyRepair

def reportFailedApply (completed : ApplyCompleted) : Machine :=
  let m := ((m.sendApplyResult completed.status).sendFailedVerification).disarmHeartbeatIfUnarmed
  let m := if completed.displayMayHaveChanged then m else m.resetUncommittedStagedStateIfNeeded
  let m := if m.session.sessionWasVerified then m.enterSteadyState p
    else m.transition .waiting .apply (some completed.status)
  m.drainDeferredMutationCommands p

def concludeFailedApply (completed : ApplyCompleted) : Machine :=
  if m.canFallbackVirtualHdr completed then m.dispatchVirtualHdrFallback completed
  else m.reportFailedApply p completed

def abandonExclusiveSettlement (completed : ApplyCompleted) : Machine :=
  let m := m.resetTransientDisconnectSettlement.updSession fun s =>
    { s with sessionWasVerified := false }
  if m.lease.recoveryArmed then m.startRecovery p 0 .apply
  else m.concludeFailedApply p completed

/-- The failure branches of `finish_apply_completed`. -/
def finishFailedApply (completed : ApplyCompleted) : Machine :=
  let decision := m.applyPolicy.maybeResetVirtualDisplay p.now completed.status
    completed.virtualDisplayRequested
  if decision.1 = .resetVirtualDisplay then
    (m.setApplyPolicy decision.2).dispatchApplyWorker m.session.currentRequest true
  else if m.settlement.requested then
    m.continueSettlement p fun m =>
      if isExclusiveRequest m.session.currentRequest && m.session.currentRequest.topology.isSome then
        m.abandonExclusiveSettlement p completed
      else m.concludeFailedApply p completed
  else m.concludeFailedApply p completed

/-- The remainder of `finish_apply_completed` for a completion that still owns
the session. -/
def finishOwnedApply (baselineRepair : Bool) (completed : ApplyCompleted) : Machine :=
  if baselineRepair && completed.status != .ok then
    ((m.updSession fun s => { s with expectedTopology := none }).enterSteadyState
      p).drainDeferredMutationCommands p
  else if completed.status = .ok then m.finishSuccessfulApply p baselineRepair
  else m.finishFailedApply p completed

def setDeferredApplyCompletion (completion : Option ApplyCompleted) : Machine :=
  m.updFence fun f => { f with deferredApplyCompletion := completion }

def finishApplyCompleted (completed : ApplyCompleted) : Machine :=
  let baselineRepair := m.allowance.baselineTopologyRepairInFlight
  let m := m.recordApplyCompletion p completed
  if completed.exclusiveRollbackOnly then m.finishExclusiveRollback p
  else if m.hasDeferredApplyIntent p.epoch then
    let m := (m.setDeferredApplyCompletion (some completed)).drainDeferredMutationCommands p
    if m.mutationWorkerActive || m.fence.stagedStateResetPending then m
    else (m.setDeferredApplyCompletion none).finishOwnedApply p baselineRepair completed
  else m.finishOwnedApply p baselineRepair completed

/-- The branch of `handle_apply_completed` for a cancelled worker that owns the
fence. -/
def retireCancelledApply (completed : ApplyCompleted) : Machine :=
  let m := m.updSession fun s => { s with activeReactivation := none }
  let m := if completed.displayMayHaveChanged then
      ((m.retainRecoveryAfterDisplayMutation p completed).setUnconfirmedCancelledMutation
        true).call .armHeartbeat
    else
      (if completed.durableRecoveryArmed then
        m.updLease fun l => { l with restoreTaskCreated := true }
      else m).resetUncommittedStagedStateIfNeeded
  m.drainDeferredMutationCommands p

def finishReactivation (command : ApplyCommand) (completed : ApplyCompleted) : Machine :=
  let status := if m.hasDeferredApplyIntent p.epoch ||
      isStaleConnection p.epoch command.connectionEpoch then .retryable else completed.status
  let m := m.updSession fun s => { s with activeReactivation := none }
  let m := (m.emit (.applyResult status command.connectionEpoch command.request.requestId)).emit
    (.verificationResult (status == .ok) command.connectionEpoch command.request.requestId)
  m.drainDeferredMutationCommands p

def retireApplyWorker : Machine :=
  (m.setActiveMutationWorker none).updFence fun f =>
    { f with stagedStatePrepared := f.stagedStatePrepared || completed.stagedStatePrepared }

def handleApplyCompleted (completed : ApplyCompleted) : Machine :=
  if !m.ownsActiveWorker .apply completed.generation then m
  else
    let m := m.retireApplyWorker completed
    if m.isStale completed.generation then m.retireCancelledApply p completed
    else
      match m.session.activeReactivation with
      | some command => m.finishReactivation p command completed
      | none => m.finishApplyCompleted p completed

/-! ## Verification completions -/

def confirmSession : Machine :=
  ((m.updSession fun s => { s with sessionWasVerified := true
    }).activateRecoveryLease).setUnconfirmedCancelledMutation false

def confirmSessionIfUnverified : Machine :=
  if m.session.sessionWasVerified then m else m.confirmSession

variable (success : Bool)

def finishFinalSettlementCheck : Machine :=
  let m := m.resetTransientDisconnectSettlement
  if success then m.confirmSessionIfUnverified.enterSteadyState p
  else
    let m := m.updSession fun s => { s with sessionWasVerified := false }
    if m.lease.recoveryArmed then m.startRecovery p 0 .apply
    else m.transition .waiting .apply (some .verificationFailed)

def finishSettlementCheck : Machine :=
  if success then
    m.confirmSessionIfUnverified.resetTransientDisconnectSettlement.enterSteadyState p
  else if m.settlement.rollbackVerification then
    match m.dispatchNextTransientDisconnectVerification with
    | (true, m) => m
    | (false, m) => m.dispatchTransientDisconnectFinalVerification
  else if m.session.currentRequest.configuration.isSome then m.dispatchTransientDisconnectRepair
  else m.resetTransientDisconnectSettlement.transition .waiting .apply (some .invalidRequest)

def publishInitialVerification : Machine :=
  let disconnected := m.settlement.requested
  let m := m.confirmSession
  let m := (if disconnected then m else m.call .armHeartbeat).call .refreshShell
  (m.sendApplyResult .ok).sendVerificationResult true

variable (purpose : VerificationPurpose)

def finishVerifiedGate : Machine :=
  if purpose = .baselineTopologyReturn ∨ purpose = .baselineTopologyRepair then
    (m.updSession fun s =>
      { s with
        currentRequest.topology := s.expectedTopology.or s.currentRequest.topology
        expectedTopology := none }).enterSteadyState p
  else
    let m := if m.session.verificationResultSent then m else m.publishInitialVerification
    if m.settlement.requested then
      match m.dispatchNextTransientDisconnectVerification with
      | (true, m) => m
      | (false, m) => m.enterSteadyState p
    else m.enterSteadyState p

def dispatchBaselineTopologyRepair : Machine :=
  let m := (m.updAllowance fun a =>
      { a with
        verificationReapplyAvailable := false
        baselineTopologyRepairInFlight := true }).transition .inProgress .apply
    (some .verificationFailed)
  m.dispatchApplyWorker
    { m.session.currentRequest with
      topology := m.session.expectedTopology
      refreshSettingsBaseline := true } false

def concludeFailedGate : Machine :=
  if m.session.sessionWasVerified then m.enterSteadyState p
  else
    let m := m.sendApplyResult .verificationFailed
    (if m.session.applyResultSent then m.sendVerificationResult false else m).transition
      .waiting .apply (some .verificationFailed)

def finishFailedGate : Machine :=
  if m.settlement.requested then
    match m.dispatchNextTransientDisconnectVerification with
    | (true, m) => m
    | (false, m) =>
      if m.session.sessionWasVerified then m.enterSteadyState p
      else m.transition .waiting .apply (some .verificationFailed)
  else if purpose = .baselineTopologyReturn then m.dispatchBaselineTopologyRepair
  else if purpose = .baselineTopologyRepair then
    (m.updSession fun s => { s with expectedTopology := none }).enterSteadyState p
  else if m.allowance.verificationReapplyAvailable then m.dispatchVerificationReapply
  else if isExclusiveRequest m.session.currentRequest &&
      m.session.currentRequest.exclusivePreApplyTopology.isSome then
    let m := m.dispatchExclusiveTopologyRollback
    if m.mutationWorkerActive then m else m.concludeFailedGate p
  else m.concludeFailedGate p

def handleVerificationCompleted (completed : VerificationCompleted) : Machine :=
  if m.isStale completed.generation then m
  else if completed.purpose = .transientDisconnect ∨
      completed.purpose = .transientDisconnectFinal then
    if !m.settlement.requested || !m.settlement.checkPending then m
    else
      let m := m.updSettlement fun s =>
        { s with checkPending := false, finalCheckPending := false }
      if completed.purpose = .transientDisconnectFinal then
        m.finishFinalSettlementCheck p completed.success
      else m.finishSettlementCheck p completed.success
  else if completed.success then m.finishVerifiedGate p completed.purpose
  else m.finishFailedGate p completed.purpose

/-! ## Reset, refresh-rate, and recovery completions -/

def deferredFollowupMutation : Bool :=
  m.fence.deferredMutationCommands.any (! ·.isReset)

def setExitAfterStagedStateReset (exit : Bool) : Machine :=
  m.updFence fun f => { f with exitAfterStagedStateReset := exit }

def retireStagedReset : Machine :=
  m.updFence fun f =>
    { f with
      stagedStateResetPending := false
      stagedStatePrepared := f.stagedStatePrepared && !success }

def resumeDeferredApplyCompletion : Machine :=
  if m.mutationWorkerActive || m.fence.stagedStateResetPending then m
  else
    match m.fence.deferredApplyCompletion with
    | none => m
    | some completed => (m.setDeferredApplyCompletion none).finishApplyCompleted p completed

def handleResetCompleted (completed : ResetCompleted) : Machine :=
  let m := m.retireStagedReset completed.success
  if m.fence.exitAfterStagedStateReset && !completed.success then
    (m.setExitAfterStagedStateReset false).exitCallback p 1
  else
    let m := if m.fence.exitAfterStagedStateReset && m.deferredFollowupMutation then
      m.setExitAfterStagedStateReset false else m
    let m := (m.drainDeferredMutationCommands p).resumeDeferredApplyCompletion p
    if m.fence.exitAfterStagedStateReset && !m.fence.stagedStateResetPending then
      ((m.setExitAfterStagedStateReset false).notifyRecoveryStatus p).exitCallback p 0
    else m.resumeTransientDisconnectSettlementAfterStagedReset

def adoptRefreshRate (completed : RefreshRateCompleted) : Machine :=
  if completed.success then
    m.updSession fun s => { s with currentRequest.configuration :=
      s.currentRequest.configuration.map fun c =>
        { c with refreshRate := some ⟨completed.numerator, completed.denominator⟩ } }
  else m

def handleRefreshRateCompleted (completed : RefreshRateCompleted) : Machine :=
  if !m.ownsActiveWorker .refreshRate completed.generation then m
  else
    let m := m.setActiveMutationWorker none
    if m.isStale completed.generation then m.drainDeferredMutationCommands p
    else
      let m := if m.refreshTargetsActiveRequest completed.deviceId then
          let m := m.adoptRefreshRate completed
          if m.settlement.requested then m.prepareTransientDisconnectSettlement else m
        else m
      let m := if m.settlement.requested then
        m.dispatchNextTransientDisconnectVerification.2 else m
      (m.emit (.refreshRateResult completed.success completed.connectionEpoch
        completed.requestId)).drainDeferredMutationCommands p

def recoveryFeedbackQuietPeriod : Nat := 1000

def enterEventLoop (status : RecoveryStatus) (generation : Nat) : Machine :=
  let m := m.updStatusPolicy fun policy =>
    policy.publish status policy.ticket generation policy.epoch
  let m := (m.updScheduler fun s => s.onAttemptFailed p.now).updRecovery fun r =>
    { r with eventFeedbackQuietUntil := some (p.now + recoveryFeedbackQuietPeriod) }
  (m.transition .eventLoop .revert).drainDeferredMutationCommands p

/-- A cancelled recovery that left its grace period may have changed the
desktop. -/
def retireCancelledRecovery (displayMayHaveChanged : Bool) : Machine :=
  (if displayMayHaveChanged then m.retainRecoveryAfterCancelledRecovery
    else m.updRestoreState (·.resetRequestProgress)).drainDeferredMutationCommands p

def handleRecoveryCompleted (completed : RecoveryCompleted) : Machine :=
  if !m.ownsActiveWorker .recovery completed.generation then m
  else if m.isStale completed.generation then
    (m.setActiveMutationWorker none).retireCancelledRecovery p completed.displayMayHaveChanged
  else
    match completed.success, completed.snapshot with
    | true, some snapshot =>
      let m := if completed.stagedStateResetAttempted then
          m.updFence fun f => { f with
            recoveryStagedStateResetSucceeded := some completed.stagedStateResetSucceeded }
        else m
      let m := m.updRecovery fun r => { r with snapshot := some snapshot }
      (m.transition .recoveryValidation .revert).dispatchRecoveryValidation snapshot
    | _, _ =>
      (m.setActiveMutationWorker none).enterEventLoop p
        (if completed.displayMayHaveChanged then .failed else .unknown) completed.generation

def settleRestoredRecovery (generation : Nat) : Machine :=
  let m := (m.updStatusPolicy fun policy =>
      policy.publish .restored policy.ticket generation policy.epoch).log
    .recoveryValidationSucceeded
  let m := ((m.updLease fun l =>
      { l with
        recoveryArmed := false
        displayChangesPendingRecovery := false }).setUnconfirmedCancelledMutation
    false).updRecovery fun r =>
    { r with
      eventFeedbackQuietUntil := none
      deferredDisplayEvent := none
      baselinePresentDevices := none }
  let m := (m.updScheduler (·.disarm)).updRestoreState (·.resetRequestProgress)
  ((m.call .disarmHeartbeat).call .refreshShell).deleteRestoreTask

def stagedStateResetFailed : Bool :=
  m.fence.stagedStatePrepared && m.fence.recoveryStagedStateResetSucceeded == some false

/-- The success branch of `handle_recovery_validation_completed`. -/
def finishRestoredRecovery (generation : Nat) : Machine :=
  let m := m.settleRestoredRecovery generation
  let resetFailed := m.stagedStateResetFailed
  let m := if resetFailed then m else m.updFence fun f => { f with stagedStatePrepared := false }
  let m := m.transition .waiting .revert (some .ok)
  let m := if resetFailed then m.beginStagedStateReset else m
  let followup := m.deferredFollowupMutation
  let m := m.setExitAfterStagedStateReset (m.fence.stagedStateResetPending ||
    m.fence.deferredMutationCommands.any (·.isReset))
  let m := m.drainDeferredMutationCommands p
  if followup && !resetFailed then m.setExitAfterStagedStateReset false
  else if m.fence.exitAfterStagedStateReset then m
  else (m.notifyRecoveryStatus p).exitCallback p 0

def handleRecoveryValidationCompleted (completed : RecoveryValidationCompleted) : Machine :=
  if !m.ownsActiveWorker .recovery completed.generation then m
  else
    let m := m.setActiveMutationWorker none
    if m.isStale completed.generation then m.retireCancelledRecovery p true
    else if completed.success then m.finishRestoredRecovery p completed.generation
    else m.enterEventLoop p .failed completed.generation

end Vibeshine.DisplayHelper.Machine
