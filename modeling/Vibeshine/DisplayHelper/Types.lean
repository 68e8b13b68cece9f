import Mathlib.Data.Finset.Basic

/-! # Value types of the display helper

The data carried by the messages of `display_helper_v2`: requests, commands,
completions, and observations. Times are milliseconds of the steady clock;
generations, connection epochs, tickets, and request identifiers are the
source's 64-bit counters. A `std::set` of device identifiers is a `Finset`.
-/

namespace Vibeshine.DisplayHelper

inductive ApplyAction where
  | apply | revert | disarm | exportGolden | snapshotCurrent | reset | ping | stop
  deriving DecidableEq

inductive ApplyStatus where
  | ok | helperUnavailable | invalidRequest | verificationFailed
  | needsVirtualDisplayReset | retryable | fatal | hdrStateFailed
  deriving DecidableEq

inductive SnapshotTier where
  | current | previous | golden
  deriving DecidableEq

inductive PolicyDecision where
  | proceed | retry | resetVirtualDisplay | skipToNextTier
  deriving DecidableEq

inductive State where
  | waiting | inProgress | verification | recovery | recoveryValidation | eventLoop
  | virtualDisplayMonitoring
  deriving DecidableEq

inductive DisplayEvent where
  | displayChange | powerResume | deviceArrival | deviceRemoval
  deriving DecidableEq

inductive HelperEvent where
  | heartbeatTimeout
  deriving DecidableEq

inductive HdrState where
  | disabled | enabled
  deriving DecidableEq

inductive DevicePreparation where
  | verifyOnly | ensureActive | ensurePrimary | ensureOnlyDisplay
  deriving DecidableEq

inductive DeviceTargetKind where
  | none | explicitDevice | defaultPrimaryGroup
  deriving DecidableEq

abbrev ActiveTopology := List (List String)

structure Rational where
  numerator : Nat
  denominator : Nat
  deriving DecidableEq

structure Point where
  x : Int
  y : Int
  deriving DecidableEq

structure Resolution where
  width : Nat
  height : Nat
  deriving DecidableEq

structure DisplayMode where
  resolution : Resolution
  refreshRate : Rational
  deriving DecidableEq

/-- `SingleDisplayConfiguration`, without the resolution, which the helper
hands to the settings manager unread. -/
structure SingleDisplayConfiguration where
  deviceId : String := ""
  devicePrep : DevicePreparation := .verifyOnly
  refreshRate : Option Rational := none
  hdrState : Option HdrState := none

structure ResolvedConfigurationTarget where
  kind : DeviceTargetKind := .none
  representativeDeviceId : String := ""
  duplicateDeviceIds : Finset String := ∅

/-- An APPLY request. Adjuncts that only the worker reads (refresh-rate
overrides, the HDR blank, and the legacy HDR field) travel with the
configuration and are left out. -/
structure ApplyRequest where
  configuration : Option SingleDisplayConfiguration := none
  topology : Option ActiveTopology := none
  monitorPositions : List (String × Point) := []
  deadline : Option Nat := none
  preferGoldenFirst : Bool := false
  restoreOnDisconnect : Bool := true
  settingsOnlyRepair : Bool := false
  reactivationOf : Option Nat := none
  reactivationOnly : Bool := false
  refreshSettingsBaseline : Bool := false
  repairTarget : Option ResolvedConfigurationTarget := none
  virtualLayout : Option String := none
  snapshotExclusions : Option (List String) := none
  requestId : Nat := 0
  exclusivePreApplyTopology : Option ActiveTopology := none
  exclusiveTopologyRollbackOnly : Bool := false

structure SnapshotCommandPayload where
  excludeDevices : List String := []
  updateExclusions : Bool := false

structure ApplyCommand where
  request : ApplyRequest
  connectionEpoch : Nat := 0

structure RevertCommand where
  connectionEpoch : Nat := 0
  preferGoldenIfCurrentMissing : Bool := true
  alwaysRestoreFromGolden : Option Bool := none
  immediate : Bool := false
  fromDisconnect : Bool := false
  restoreTicket : Nat := 0

structure RecoveryStatusCommand where
  ticket : Nat := 0
  generation : Nat := 0
  connectionEpoch : Nat := 0
  park : Bool := false

structure DisarmCommand where
  connectionEpoch : Nat := 0
  force : Bool := false

structure ExportGoldenCommand where
  payload : SnapshotCommandPayload
  connectionEpoch : Nat := 0

structure SnapshotCurrentCommand where
  payload : SnapshotCommandPayload
  connectionEpoch : Nat := 0
  requestId : Nat := 0

structure RefreshRateCommand where
  deviceId : String
  numerator : Nat
  denominator : Nat
  connectionEpoch : Nat := 0
  requestId : Nat := 0

structure ResetCommand where
  connectionEpoch : Nat := 0

structure PingCommand where
  connectionEpoch : Nat := 0

structure StopCommand where
  connectionEpoch : Nat := 0

/-- The captured state of all displays. The maps of the source are association
lists, whose order is the map's key order. -/
structure Snapshot where
  topology : ActiveTopology := []
  modes : List (String × DisplayMode) := []
  hdrStates : List (String × Option HdrState) := []
  primaryDevice : String := ""
  origins : List (String × Point) := []
  deriving DecidableEq

/-- What an APPLY worker reports. The worker's `ApplyOutcome` has the same
fields without the generation, which the dispatching pipeline adds. -/
structure ApplyOutcome where
  status : ApplyStatus := .fatal
  resolvedTarget : Option ResolvedConfigurationTarget := none
  virtualDisplayRequested : Bool := false
  displayMayHaveChanged : Bool := false
  durableRecoveryArmed : Bool := false
  durableRecoveryAttempted : Bool := false
  stagedStatePrepared : Bool := false
  exclusivePreApplyTopology : Option ActiveTopology := none
  exclusiveRollbackOnly : Bool := false

structure ApplyCompleted extends ApplyOutcome where
  generation : Nat := 0

inductive VerificationPurpose where
  | initial | transientDisconnect | transientDisconnectFinal
  | baselineTopologyReturn | baselineTopologyRepair
  deriving DecidableEq

structure VerificationCompleted where
  success : Bool
  purpose : VerificationPurpose
  generation : Nat

structure ResetCompleted where
  success : Bool
  generation : Nat

structure RefreshRateCompleted where
  success : Bool
  deviceId : String
  numerator : Nat
  denominator : Nat
  generation : Nat
  connectionEpoch : Nat
  requestId : Nat

structure RecoveryOutcome where
  success : Bool := false
  snapshot : Option Snapshot := none
  displayMayHaveChanged : Bool := false
  stagedStateResetAttempted : Bool := false
  stagedStateResetSucceeded : Bool := false

structure RecoveryCompleted extends RecoveryOutcome where
  generation : Nat := 0

structure RecoveryValidationCompleted where
  success : Bool
  generation : Nat

structure DisplayEventMessage where
  event : DisplayEvent
  generation : Nat := 0
  connectionEpoch : Nat := 0

structure HelperEventMessage where
  event : HelperEvent
  generation : Nat := 0
  connectionEpoch : Nat := 0

inductive Message where
  | applyCommand (command : ApplyCommand)
  | revertCommand (command : RevertCommand)
  | disarmCommand (command : DisarmCommand)
  | exportGoldenCommand (command : ExportGoldenCommand)
  | snapshotCurrentCommand (command : SnapshotCurrentCommand)
  | refreshRateCommand (command : RefreshRateCommand)
  | resetCommand (command : ResetCommand)
  | pingCommand (command : PingCommand)
  | stopCommand (command : StopCommand)
  | recoveryStatusCommand (command : RecoveryStatusCommand)
  | applyCompleted (completed : ApplyCompleted)
  | verificationCompleted (completed : VerificationCompleted)
  | resetCompleted (completed : ResetCompleted)
  | refreshRateCompleted (completed : RefreshRateCompleted)
  | recoveryCompleted (completed : RecoveryCompleted)
  | recoveryValidationCompleted (completed : RecoveryValidationCompleted)
  | displayEvent (event : DisplayEventMessage)
  | helperEvent (event : HelperEventMessage)

/-- `boost::iequals` in the classic locale. -/
def iequals (left right : String) : Bool :=
  left.toList.map Char.toLower == right.toList.map Char.toLower

variable (request : ApplyRequest)

def isExclusiveRequest : Bool :=
  request.virtualLayout.any (iequals · "exclusive")

def isExclusiveSingleton (topology : ActiveTopology) (deviceId : String) : Bool :=
  match topology with
  | [[only]] => iequals only deviceId
  | _ => false

/-- `ensure_exclusive_topology`: an Exclusive request owns exactly its
configured device, or it is refused. -/
def ensureExclusiveTopology : Option ApplyRequest :=
  if !isExclusiveRequest request then
    some request
  else
    match request.configuration with
    | none => none
    | some configuration =>
      if configuration.deviceId.isEmpty then
        none
      else if request.topology.any fun topology =>
          !topology.isEmpty && !isExclusiveSingleton topology configuration.deviceId then
        none
      else
        some { request with topology := some [[configuration.deviceId]] }

def resetExclusiveRollbackSnapshotForVerifiedReapply (sessionWasVerified : Bool) : ApplyRequest :=
  if sessionWasVerified && isExclusiveRequest request then
    { request with exclusivePreApplyTopology := none }
  else
    request

end Vibeshine.DisplayHelper
