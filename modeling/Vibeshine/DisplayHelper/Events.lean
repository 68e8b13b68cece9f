import Vibeshine.DisplayHelper.Completions

/-! # Observations and the message loop

Display and heartbeat events, the periodic tick, the disconnect settlement that
the pipe owner may begin, and the dispatch of one message.
-/

namespace Vibeshine.DisplayHelper.Machine

variable (m : Machine) (p : Ports)

/-- `begin_transient_disconnect_settlement`: whether restore recovery is
deferred, and the state machine it leaves. -/
def beginTransientDisconnectSettlement : Bool × Machine :=
  if m.settlement.requested then (true, m)
  else if !m.shouldDeferDisconnectRecovery p || m.session.currentRequest.configuration.isNone then
    (false, m)
  else
    let request := m.session.currentRequest
    let m := m.updSettlement fun s =>
      { s with
        requested := true
        topology := if isExclusiveRequest request && request.topology.any (! ·.isEmpty) then
          request.topology else s.topology }
    let m := if m.mutationWorkerActive then m else m.prepareTransientDisconnectSettlement
    if m.fence.stagedStateResetPending then
      (true, m.deferTransientDisconnectSettlementForStagedReset)
    else if m.mutationWorkerActive || (!m.session.sessionWasVerified && m.state == .verification) then
      (true, m)
    else m.dispatchNextTransientDisconnectVerification

/-! ## Display events -/

def isDeviceIdentityEvent (event : DisplayEvent) : Bool :=
  event == .deviceArrival || event == .deviceRemoval

def observeParkedDisplayEvent (event : DisplayEvent) : Machine :=
  if event = .deviceRemoval then m else m.updStatusPolicy (·.observeEvent)

/-- The topology a returned physical baseline device would be part of, and the
observations made on the way. -/
def observeReturnedBaseline : Option ActiveTopology × Machine :=
  match m.session.currentRequest.configuration with
  | some configuration =>
    if m.state == .virtualDisplayMonitoring && m.allowance.baselineTopologyRepairAvailable &&
        m.session.currentRequest.virtualLayout.isSome && !m.mutationWorkerActive &&
        !m.fence.stagedStateResetPending then
      let observed := p.returnedBaseline configuration.deviceId m.snapshotBlacklist
        m.allowance.observedAbsentBaselineDevices m.allowance.observedDisabledBaselineDevices
      (observed.1, m.updAllowance fun a =>
        { a with
          observedAbsentBaselineDevices := observed.2.1
          observedDisabledBaselineDevices := observed.2.2 })
    else (none, m)
  | none => (none, m)

def admitBaselineTopologyReturn (topology : ActiveTopology) : Machine :=
  let m := ((m.updAllowance fun a =>
      { a with baselineTopologyRepairAvailable := false }).updStatusPolicy (·.observeEvent)).updSession
    fun s => { s with expectedTopology := some topology }
  let m := m.resetApplyVerificationState.transition .verification .apply
  m.dispatchVerification m.session.currentRequest m.session.expectedTopology
    m.session.resolvedTarget 0 .baselineTopologyReturn

def currentRepairIntent (resolved : String) : DeferredMutationCommand :=
  .repair { resolvedDeviceId := resolved, connectionEpoch := m.session.currentConnectionEpoch }

/-- An identity event in a virtual session with a configuration: discovery and
repair are bounded, a busy fence queues the repair, and a free one replaces
whatever is being read back with one APPLY. -/
def handleIdentityEvent (configuration : SingleDisplayConfiguration) : Machine :=
  if !m.virtualIdentityRepairAvailable then m
  else if m.allowance.virtualIdentityDiscoveriesRemaining = 0 then m
  else
    let m := m.consumeVirtualIdentityDiscovery
    if p.virtualDeviceId.isEmpty then m
    else if iequals configuration.deviceId p.virtualDeviceId then m
    else if m.mutationWorkerActive || m.fence.stagedStateResetPending then
      m.queueAfterActiveMutation (m.currentRepairIntent p.virtualDeviceId) false
    else
      m.cancelOperations.consumeVirtualIdentityRepair.dispatchIdentityRepair p.virtualDeviceId

/-- The monitoring branch without a configuration, which no executed APPLY
leaves behind: the source resolves no identity and re-applies as it is. -/
def handleUnconfiguredMonitoringEvent : Machine :=
  if m.mutationWorkerActive || m.fence.stagedStateResetPending then
    m.queueAfterActiveMutation (m.currentRepairIntent "") false
  else if !m.virtualIdentityRepairAvailable then m.cancelOperations
  else m.cancelOperations.consumeVirtualIdentityRepair.dispatchIdentityRepair ""

variable (event : DisplayEventMessage)

def handleEventLoopDisplayEvent : Machine :=
  if m.recovery.eventFeedbackQuietUntil.any (p.now < ·) then
    m.updRecovery fun r =>
      { r with
        eventFeedbackQuietUntil := some (p.now + recoveryFeedbackQuietPeriod)
        deferredDisplayEvent := some event }
  else
    let m := m.updRecovery fun r => { r with eventFeedbackQuietUntil := none }
    if m.recovery.scheduler.windowActive p.now then
      m.updRecovery fun r => { r with deferredDisplayEvent := some event }
    else
      let m := m.updScheduler fun s => s.onDisplayEvent p.now
      if m.recovery.scheduler.shouldAttempt p.now then
        (m.updStatusPolicy (·.observeEvent)).startRecovery p 0 .revert
      else m

def handleRecoveryDisplayEvent : Machine :=
  if m.lease.recoveryArmed && m.recoveryWorkerInProgress then
    m.updRecovery fun r => { r with deferredDisplayEvent := some event }
  else if m.state = .eventLoop ∧ m.lease.recoveryArmed then m.handleEventLoopDisplayEvent p event
  else m

def handleSessionDisplayEvent : Machine :=
  let virtualSession := m.session.currentRequest.virtualLayout.isSome
  let sessionState := m.state == .virtualDisplayMonitoring || m.state == .inProgress ||
    m.state == .verification
  if sessionState && virtualSession && !isDeviceIdentityEvent event.event then m
  else if m.state == .virtualDisplayMonitoring ||
      ((m.state == .inProgress || m.state == .verification) && virtualSession) then
    match m.session.currentRequest.configuration with
    | some configuration => m.handleIdentityEvent p configuration
    | none =>
      if m.state = .virtualDisplayMonitoring then m.handleUnconfiguredMonitoringEvent else m
  else m.handleRecoveryDisplayEvent p event

def handleDisplayEvent : Machine :=
  if m.isStale event.generation then m
  else if isStaleConnection p.epoch event.connectionEpoch then m
  else if m.recovery.statusPolicy.parked then m.observeParkedDisplayEvent event.event
  else
    match m.observeReturnedBaseline p with
    | (some topology, m) => m.admitBaselineTopologyReturn topology
    | (none, m) => m.handleSessionDisplayEvent p event

/-- Heartbeat loss while a mutation owns the fence: a queued session start wins;
otherwise the disconnect policy decides what is queued. -/
def queueHeartbeatIntent (event : HelperEventMessage) : Machine :=
  if m.hasDeferredApplyIntent p.epoch then m
  else if !m.lease.explicitRecoveryRequired && !m.restoreState.restoreOnDisconnect then
    m.queueAfterActiveMutation (.disarm { connectionEpoch := event.connectionEpoch })
  else
    m.queueAfterActiveMutation (.revert
      { connectionEpoch := event.connectionEpoch, immediate := true, fromDisconnect := true })

def beginHeartbeatRecovery : Machine :=
  let m := (m.cancelOperations.call .disarmHeartbeat).resetApplyVerificationState.resetBaselineRepair
  let m := (m.call .goldenResetRequestTracking).updScheduler fun s => s.armPrimary p.now revertGrace
  m.startRecovery p revertGrace .revert

def handleHelperEvent (event : HelperEventMessage) : Machine :=
  if m.isStale event.generation then m
  else if isStaleConnection p.epoch event.connectionEpoch then m
  else if m.recovery.statusPolicy.parked then m
  else if !m.lease.recoveryArmed then m
  else if m.recoveryWorkerInProgress then m
  else if m.mutationWorkerActive then m.queueHeartbeatIntent p event
  else if !m.lease.explicitRecoveryRequired && !m.restoreState.restoreOnDisconnect then
    ((m.log .heartbeatNotRestoring).cancelOperations.clearRecoveryState.resetApplyVerificationState
      ).transition .waiting .disarm
  else m.beginHeartbeatRecovery p

/-- The reconciliation of a deferred display event: only a newly present member
of the physical baseline reopens the recovery window. -/
def physicalReturn : Bool :=
  !m.isStale event.generation && !isStaleConnection p.epoch event.connectionEpoch &&
    match m.recovery.baselinePresentDevices, p.presentBaseline with
    | some before, some present => decide (∃ id ∈ present, id ∉ before)
    | _, _ => false

def tickScheduler : Machine :=
  if m.recovery.scheduler.windowJustExpired p.now then
    (m.updScheduler (·.reportWindowExhausted)).call .goldenRegisterUnresolved
  else if m.recovery.scheduler.shouldAttempt p.now then m.startRecovery p 0 .revert
  else m

/-- A deferred display event is reconciled once the worker, its feedback, and
its window have settled. -/
def settledDisplayEvent : Option DisplayEventMessage :=
  if !m.mutationWorkerActive && !m.fence.stagedStateResetPending &&
      !m.recovery.scheduler.windowActive p.now &&
      !m.recovery.eventFeedbackQuietUntil.any (p.now < ·) then
    m.recovery.deferredDisplayEvent
  else none

def handleTick : Machine :=
  if m.state ≠ .eventLoop || !m.lease.recoveryArmed || m.recovery.statusPolicy.parked then m
  else
    match m.settledDisplayEvent p with
    | none => m.tickScheduler p
    | some event =>
      let physicalReturn := m.physicalReturn p event
      let m := m.updRecovery fun r => { r with deferredDisplayEvent := none }
      if physicalReturn then
        let m := (m.updStatusPolicy (·.observeEvent)).updRecovery fun r =>
          { r with eventFeedbackQuietUntil := none }
        (m.updScheduler fun s => s.onDisplayEvent p.now).startRecovery p 0 .revert
      else m.tickScheduler p

/-! ## Messages -/

/-- The visitor of `handle_message`. -/
def dispatchMessage : Message → Machine
  | .applyCommand command => m.handleApplyCommand p p.epoch command
  | .revertCommand command => m.handleRevertCommand p p.epoch command
  | .disarmCommand command => m.handleDisarmCommand p.epoch command
  | .exportGoldenCommand command => m.handleExportGolden p command
  | .snapshotCurrentCommand command => m.handleSnapshotCurrent p command
  | .refreshRateCommand command => m.handleRefreshRateCommand p command
  | .resetCommand command => m.handleResetCommand p.epoch command
  | .pingCommand command => m.handlePingCommand p command
  | .stopCommand command => m.handleStopCommand p command
  | .recoveryStatusCommand command => m.handleRecoveryStatusCommand p command
  | .applyCompleted completed => m.handleApplyCompleted p completed
  | .verificationCompleted completed => m.handleVerificationCompleted p completed
  | .resetCompleted completed => m.handleResetCompleted p completed
  | .refreshRateCompleted completed => m.handleRefreshRateCompleted p completed
  | .recoveryCompleted completed => m.handleRecoveryCompleted p completed
  | .recoveryValidationCompleted completed => m.handleRecoveryValidationCompleted p completed
  | .displayEvent event => m.handleDisplayEvent p event
  | .helperEvent event => m.handleHelperEvent p event

def handleMessage (message : Message) : Machine :=
  ((m.emit (.received message m.dispatcher.generation)).dispatchMessage p message).notifyRecoveryStatus p

end Vibeshine.DisplayHelper.Machine
