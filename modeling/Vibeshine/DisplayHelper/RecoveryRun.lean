import Vibeshine.DisplayHelper.SnapshotFilter
import Vibeshine.Library.Program
import Mathlib

/-! # A recovery

`RecoveryOperation::run` restores a stored baseline. What it does to the displays, to the storage
and to the state that it shares with other threads are requests; the replies are arbitrary, also
those of the cancellation token. A topology transition is one request. The loops that wait for the
displays to settle end with the deadline, or after `turns` turns. Two requests are no calls: they
note what is compared and what is confirmed. Comparing the modes of two snapshots is a parameter.
-/

namespace Vibeshine.DisplayHelper.Recovery

open Library

/-- The settings of `RestoreState` that a recovery reads. -/
inductive Flag where
  | alwaysRestoreFromGolden
  | preferGoldenIfCurrentMissing
  | preserveActivePhysicalPrimary
  deriving DecidableEq

inductive Action where
  | validateTopology (topology : ActiveTopology)
  | topologyIsValid (topology : ActiveTopology)
  | applySnapshotSettings (snapshot : Snapshot)
  | applyLayoutRotations (rotations : LayoutRotationMap)
  | applySnapshotHdrStates (snapshot : Snapshot)
  | reassertLayoutRotations (rotations : LayoutRotationMap)
  | currentLayoutMatches (rotations : LayoutRotationMap)
  | resetStagedApplyState

/-- What a recovery leaves in `RestoreState` and `GoldenHealth`. -/
inductive Note where
  | restoreAttemptedUnconfirmed
  | goldenPendingSessionFallbacksReset
  | goldenPendingSessionFallback
  | lastSessionRestoreSuccess (ms : Int)
  | issue (reason : String)
  | clearStatus (reason : String)
  | registerUnresolved (context : String)

inductive Request where
  | isCancelled
  | now
  | sleepFor (ms : Int)
  | captureSnapshot
  | enumerate
  | flag (name : Flag)
  | lastSessionRestoreSuccess
  | exclusions
  | display (action : Action)
  | topologyTransition (topology : ActiveTopology)
  | loadWithMetadata (tier : SnapshotTier)
  | exists (tier : SnapshotTier)
  | save (tier : SnapshotTier) (snapshot : Snapshot) (rotations : LayoutRotationMap)
  | remove (tier : SnapshotTier)
  | note (note : Note)
  /-- A stable read is compared with a baseline. -/
  | compared (current requested : Snapshot)
  /-- The baseline of a tier is confirmed. -/
  | confirmed (tier : SnapshotTier) (loaded : ParsedSnapshot)
  /-- The live desktop is confirmed in place of the baseline of a tier. -/
  | preserved (tier : SnapshotTier) (live : Snapshot)

@[reducible] def Request.Reply : Request → Type
  | .isCancelled | .flag _ | .display _ | .exists _ | .save .. | .remove _ => Bool
  | .now | .lastSessionRestoreSuccess => Int
  | .captureSnapshot => Snapshot
  | .enumerate => List EnumeratedDevice
  | .exclusions => List String
  | .topologyTransition _ => ApplyStatus
  | .loadWithMetadata _ => Option ParsedSnapshot
  | .sleepFor _ | .note _ | .compared .. | .confirmed .. | .preserved .. => Unit

abbrev Operation (α : Type) := Program Request Request.Reply α

def ask (request : Request) : Operation request.Reply := Program.request request

variable (topology : ActiveTopology)

def canonicalTopology : ActiveTopology :=
  (topology.map fun group => group.mergeSort fun a b => decide (a ≤ b)).mergeSort
    fun a b => decide (a ≤ b)

abbrev EqualDisplayModes := List (String × DisplayMode) → List (String × DisplayMode) → Bool

def equalOrigins (lhs rhs : List (String × Point)) : Bool :=
  lhs.length == rhs.length && lhs.all fun entry => rhs.lookup entry.1 == some entry.2

section

variable (equalDisplayModes : EqualDisplayModes)

def recoverySnapshotMatches (current requested : Snapshot) : Bool :=
  !requested.modes.isEmpty &&
    canonicalTopology current.topology == canonicalTopology requested.topology &&
    equalDisplayModes current.modes requested.modes &&
    (requested.primaryDevice.isEmpty || current.primaryDevice == requested.primaryDevice) &&
    (requested.hdrStates.all fun entry =>
      entry.2.isNone || current.hdrStates.lookup entry.1 == some entry.2) &&
    requested.origins.all fun entry => current.origins.lookup entry.1 == some entry.2

def equalSnapshot (lhs rhs : Snapshot) : Bool :=
  lhs.topology == rhs.topology && equalDisplayModes lhs.modes rhs.modes &&
    lhs.hdrStates == rhs.hdrStates && lhs.primaryDevice == rhs.primaryDevice &&
    (lhs.origins.isEmpty || rhs.origins.isEmpty || equalOrigins lhs.origins rhs.origins)

/-! ## Waiting for the displays -/

def readStableLoop (start deadline interval : Int) :
    Nat → Option Snapshot → Operation (Option Snapshot)
  | 0, _ => pure none
  | turns + 1, last => do
      let now ← ask .now
      if deadline ≤ now - start then pure none
      else if ← ask .isCancelled then pure none
      else do
        let current ← ask .captureSnapshot
        let emptyish := current.topology.isEmpty && current.modes.isEmpty
        if last.any fun last => !emptyish && equalSnapshot equalDisplayModes current last then
          pure (some current)
        else if ← ask .isCancelled then pure none
        else do
          ask (.sleepFor interval)
          readStableLoop start deadline interval turns (some current)

variable (turns : Nat)

def readStableSnapshot (deadline interval : Int) : Operation (Option Snapshot) := do
  let start ← ask .now
  readStableLoop equalDisplayModes start deadline interval turns none

def quietLoop (stableTurns : Nat) (base : Snapshot) (start duration interval : Int) :
    Nat → Operation Bool
  | 0 => pure false
  | turns + 1 => do
      let now ← ask .now
      if duration ≤ now - start then pure true
      else if ← ask .isCancelled then pure false
      else do
        match ← readStableSnapshot equalDisplayModes stableTurns 2000 150 with
        | none => pure false
        | some current =>
          if !equalSnapshot equalDisplayModes current base then pure false
          else if ← ask .isCancelled then pure false
          else do
            ask (.sleepFor interval)
            quietLoop stableTurns base start duration interval turns

def quietPeriod (duration interval : Int) : Operation Bool := do
  match ← readStableSnapshot equalDisplayModes turns 2000 150 with
  | none => pure false
  | some base => do
      let start ← ask .now
      quietLoop equalDisplayModes turns base start duration interval turns

def waitWithCancel : Nat → Operation Bool
  | 0 => do
      let cancelled ← ask .isCancelled
      pure !cancelled
  | slices + 1 => do
      if ← ask .isCancelled then pure false
      else do
        ask (.sleepFor 50)
        waitWithCancel slices

def compare (current requested : Snapshot) : Operation Bool := do
  ask (.compared current requested)
  pure (recoverySnapshotMatches equalDisplayModes current requested)

variable (base : Snapshot)

def settles : Option Snapshot → Operation Bool
  | none => pure false
  | some current => do
      if ← compare equalDisplayModes current base then quietPeriod equalDisplayModes turns 750 150
      else pure false

def rereads : Operation Bool := do
  match ← readStableSnapshot equalDisplayModes turns 2000 150 with
  | none => pure false
  | some current =>
    if ← ask .isCancelled then pure false
    else compare equalDisplayModes current base

def readAgain (quiet : Bool) : Operation Bool :=
  if quiet then do
    if ← ask .isCancelled then pure false
    else rereads equalDisplayModes turns base
  else pure false

variable (loaded : ParsedSnapshot)

def layoutMatches : Operation Bool :=
  if !loaded.hasLayoutData then pure true
  else ask (.display (.currentLayoutMatches loaded.layoutRotations))

def confirmMatches (loaded : ParsedSnapshot) : Operation Bool := do
  let current ← readStableSnapshot equalDisplayModes turns 2000 150
  if ← ask .isCancelled then pure false
  else do
    let quiet ← settles equalDisplayModes turns loaded.snapshot current
    let stateOk ← readAgain equalDisplayModes turns loaded.snapshot quiet
    if ← ask .isCancelled then pure false
    else do
      let layoutOk ← layoutMatches loaded
      let cancelled ← ask .isCancelled
      pure (!cancelled && stateOk && layoutOk)

/-- The steps of `confirm_matches` again. -/
def verifyOnce (loaded : ParsedSnapshot) : Operation Bool :=
  confirmMatches equalDisplayModes turns loaded

def applyHdrStates : Operation Bool := do
  if ← ask .isCancelled then pure false
  else ask (.display (.applySnapshotHdrStates base))

def applyRotations : Operation Bool := do
  if !loaded.hasLayoutData || loaded.layoutRotations.isEmpty then pure true
  else if ← ask .isCancelled then pure false
  else ask (.display (.applyLayoutRotations loaded.layoutRotations))

def applyOnce : Operation Bool := do
  let status ← ask (.topologyTransition loaded.snapshot.topology)
  if status ≠ .ok then pure false
  else if ← ask .isCancelled then pure false
  else do
    let applied ← ask (.display (.applySnapshotSettings loaded.snapshot))
    if !applied then pure false
    else if ← ask .isCancelled then pure false
    else do
      let rotated ← applyRotations loaded
      if !rotated then pure false
      else applyHdrStates loaded.snapshot

def notCancelled : Operation Bool := do
  let cancelled ← ask .isCancelled
  pure !cancelled

def reassertRotationsAfterMatch (loaded : ParsedSnapshot) : Operation Bool := do
  if !loaded.hasLayoutData || loaded.layoutRotations.isEmpty then notCancelled
  else if ← ask .isCancelled then notCancelled
  else if !loaded.layoutRotations.any fun entry => entry.2 ≠ 0 then pure true
  else do
    let _ ← ask (.display (.reassertLayoutRotations loaded.layoutRotations))
    let applied ← applyHdrStates loaded.snapshot
    if applied then verifyOnce equalDisplayModes turns loaded else pure false

/-- `confirm_matches` and the refresh behind it. -/
def confirmInPlace (loaded : ParsedSnapshot) : Operation Bool := do
  let confirmed ← confirmMatches equalDisplayModes turns loaded
  if confirmed then reassertRotationsAfterMatch equalDisplayModes turns loaded else pure false

def applyAndVerify (loaded : ParsedSnapshot) : Operation Bool := do
  let applied ← applyOnce loaded
  if applied then verifyOnce equalDisplayModes turns loaded else pure false

def secondAttempt (loaded : ParsedSnapshot) : Operation Bool := do
  if ← ask .isCancelled then pure false
  else do
    let waited ← waitWithCancel 14
    if !waited then pure false
    else do
      let inPlace ← confirmInPlace equalDisplayModes turns loaded
      if inPlace then pure true else applyAndVerify equalDisplayModes turns loaded

def applyAndConfirm (loaded : ParsedSnapshot) : Operation Bool := do
  if loaded.snapshot.modes.isEmpty then pure false
  else do
    let _ ← ask .captureSnapshot
    if ← ask .isCancelled then pure false
    else do
      let inPlace ← confirmInPlace equalDisplayModes turns loaded
      if inPlace then pure true
      else if ← ask .isCancelled then pure false
      else do
        let applied ← applyAndVerify equalDisplayModes turns loaded
        if applied then pure true else secondAttempt equalDisplayModes turns loaded

end

/-! ## The tiers -/

def loadFiltered (tier : SnapshotTier) : Operation (Option ParsedSnapshot) := do
  match ← ask (.loadWithMetadata tier) with
  | none => pure none
  | some loaded => do
      let devices ← ask .enumerate
      let exclusions ← ask .exclusions
      pure (filterLoadedSnapshot loaded devices exclusions)

def topologyIds : List String := topology.flatten

def knownPresentDevices : Operation (List String) := do
  let snap ← ask .captureSnapshot
  let devices ← ask .enumerate
  let result := snap.modes.map (fun entry => normalizeDeviceId entry.1) ++
    (devices.filter fun d => !d.id.isEmpty).map fun d => normalizeDeviceId d.id
  pure (if result.isEmpty then (topologyIds snap.topology).map normalizeDeviceId else result)

def shouldSkipGolden (golden : Snapshot) : Operation Bool := do
  let now ← ask .now
  let lastOk ← ask .lastSessionRestoreSuccess
  let goldenFirst ← ask (.flag .alwaysRestoreFromGolden)
  if !goldenFirst && lastOk ≠ 0 && now - lastOk < 60000 then pure true
  else if (topologyIds golden.topology).isEmpty then pure true
  else do
    let present ← knownPresentDevices
    pure ((topologyIds golden.topology).any fun id => !present.contains (normalizeDeviceId id))

def snapshotDeviceSet (snap : Snapshot) : List String :=
  if (topologyIds snap.topology).isEmpty then snap.modes.map (·.1) else topologyIds snap.topology

def goldenRestoreIsPending : Operation Bool := do
  match ← ask (.loadWithMetadata .golden) with
  | none => pure false
  | some loaded => do
      let devices ← ask .enumerate
      let exclusions ← ask .exclusions
      if (filterLoadedSnapshot loaded devices exclusions).isSome then pure true
      else do
        let available ← knownPresentDevices
        let exclusions ← ask .exclusions
        pure ((snapshotDeviceSet loaded.snapshot).any fun id =>
          !isExcluded exclusions id && !available.contains (normalizeDeviceId id))

def isPhysicalPrimary (live : Snapshot) (device : EnumeratedDevice) : Bool :=
  isActiveDisplayDevice device && !device.displayName.isEmpty &&
    normalizeDeviceId device.deviceId == normalizeDeviceId live.primaryDevice &&
    live.modes.any fun entry => entry.1 == live.primaryDevice

def extendsBaseline (live baseline : Snapshot) : Bool :=
  let liveIds := (topologyIds live.topology).map normalizeDeviceId
  let baselineIds := (topologyIds baseline.topology).map normalizeDeviceId
  let primary := normalizeDeviceId live.primaryDevice
  liveIds.contains primary && !baselineIds.contains primary && baselineIds.all liveIds.contains

def liveDesktopToPreserve (baseline : Snapshot) : Operation (Option Snapshot) := do
  if !(← ask (.flag .preserveActivePhysicalPrimary)) then pure none
  else if ← ask (.flag .alwaysRestoreFromGolden) then pure none
  else do
    let live ← ask .captureSnapshot
    if (normalizeDeviceId live.primaryDevice).isEmpty then pure none
    else do
      let valid ← ask (.display (.topologyIsValid live.topology))
      if !valid || !extendsBaseline live baseline then pure none
      else do
        let exclusions ← ask .exclusions
        if isExcluded exclusions live.primaryDevice then pure none
        else do
          let devices ← ask .enumerate
          if devices.any fun d => isActiveDisplayDevice d && isVirtualDisplayDevice d then
            pure none
          else if devices.any (isPhysicalPrimary live) then pure (some live)
          else pure none

def clearSessionSnapshotsAfterGolden : Operation Unit := do
  let _ ← ask (.remove .current)
  let _ ← ask (.remove .previous)

def promoteCurrentToPrevious : Operation Bool := do
  match ← ask (.loadWithMetadata .current) with
  | none => pure false
  | some current => do
      let saved ← ask (.save .previous current.snapshot current.layoutRotations)
      if !saved then pure false
      else do
        let _ ← ask (.remove .current)
        pure true

/-! ## The run -/

section

variable (equalDisplayModes : EqualDisplayModes) (outcome : RecoveryOutcome)

def resetStagedState : Operation RecoveryOutcome := do
  let succeeded ← ask (.display .resetStagedApplyState)
  pure { outcome with stagedStateResetAttempted := true, stagedStateResetSucceeded := succeeded }

/-- The end of `try_golden`, after the golden baseline was applied. -/
def goldenConfirmed (golden : ParsedSnapshot) (outcome : RecoveryOutcome) :
    Operation (RecoveryOutcome × Option Snapshot) := do
  ask (.confirmed .golden golden)
  if ← ask .isCancelled then pure (outcome, none)
  else do
    let outcome ← resetStagedState outcome
    if ← ask .isCancelled then pure (outcome, none)
    else do
      clearSessionSnapshotsAfterGolden
      ask (.note (.clearStatus "restore confirmed"))
      pure (outcome, some golden.snapshot)

variable (turns : Nat)

def tryGolden (outcome : RecoveryOutcome) : Operation (RecoveryOutcome × Option Snapshot) := do
  if ← ask .isCancelled then pure (outcome, none)
  else do
    match ← loadFiltered .golden with
    | none => pure (outcome, none)
    | some golden => do
        if ← shouldSkipGolden golden.snapshot then pure (outcome, none)
        else do
          let valid ← ask (.display (.validateTopology golden.snapshot.topology))
          if !valid then do
            ask (.note (.issue "invalid_topology"))
            pure (outcome, none)
          else do
            let confirmed ← applyAndConfirm equalDisplayModes turns golden
            if confirmed then goldenConfirmed golden outcome
            else do
              if ← ask .isCancelled then pure (outcome, none)
              else do
                ask (.note (.issue "restore_not_confirmed"))
                pure (outcome, none)

/-- What a session tier has come to. -/
structure Attempt where
  attempted : Bool := false
  preservedLiveDesktop : Bool := false
  restored : Option Snapshot := none

/-- The end of `try_session`, after the baseline or the live desktop was confirmed. -/
def sessionConfirmed (preserveLive : Bool) (loaded : ParsedSnapshot) (outcome : RecoveryOutcome) :
    Operation (RecoveryOutcome × Attempt) := do
  if ← ask .isCancelled then pure (outcome, { attempted := true })
  else do
    let outcome ← resetStagedState outcome
    let now ← ask .now
    ask (.note (.lastSessionRestoreSuccess now))
    pure (outcome,
      { attempted := true, preservedLiveDesktop := preserveLive, restored := some loaded.snapshot })

def trySession (tier : SnapshotTier) (outcome : RecoveryOutcome) :
    Operation (RecoveryOutcome × Attempt) := do
  match ← loadFiltered tier with
  | none => pure (outcome, {})
  | some loaded => do
      let valid ← ask (.display (.topologyIsValid loaded.snapshot.topology))
      if !valid then pure (outcome, { attempted := true })
      else do
        match ← liveDesktopToPreserve loaded.snapshot with
        | some live => do
            let kept := { loaded with
              snapshot := live, hasLayoutData := false, layoutRotations := [] }
            let confirmed ← confirmMatches equalDisplayModes turns kept
            if confirmed then do
              ask (.preserved tier live)
              sessionConfirmed true kept outcome
            else pure (outcome, { attempted := true })
        | none => do
            let confirmed ← applyAndConfirm equalDisplayModes turns loaded
            if confirmed then do
              ask (.confirmed tier loaded)
              sessionConfirmed false loaded outcome
            else pure (outcome, { attempted := true })

def promoteConfirmed (attempt : Attempt) : Operation Unit := do
  if attempt.preservedLiveDesktop then pure ()
  else if ← ask .isCancelled then pure ()
  else do
    let _ ← promoteCurrentToPrevious

/-- What the session tiers have come to, and whether the golden one was tried before the previous
one. -/
structure SessionResult where
  outcome : RecoveryOutcome
  triedGoldenBeforePrevious : Bool := false
  restored : Option Snapshot := none

def tryPrevious (triedGolden attemptedCurrent : Bool) (outcome : RecoveryOutcome) :
    Operation SessionResult := do
  let (outcome, attempt) ← trySession equalDisplayModes turns .previous outcome
  if attempt.restored.isSome && !attempt.preservedLiveDesktop && attemptedCurrent then do
    let _ ← ask .isCancelled
    pure ⟨outcome, triedGolden, attempt.restored⟩
  else pure ⟨outcome, triedGolden, attempt.restored⟩

def prefersGolden (attempted : Bool) : Operation Bool := do
  if !(← ask (.flag .preferGoldenIfCurrentMissing)) || attempted then pure false
  else if !(← ask (.exists .previous)) then pure false
  else ask (.exists .golden)

def trySessionSnapshots (outcome : RecoveryOutcome) : Operation SessionResult := do
  let (outcome, attempt) ← trySession equalDisplayModes turns .current outcome
  if attempt.restored.isSome then do
    promoteConfirmed attempt
    pure ⟨outcome, false, attempt.restored⟩
  else do
    if ← prefersGolden attempt.attempted then do
      let (outcome, restored) ← tryGolden equalDisplayModes turns outcome
      if restored.isSome then pure ⟨outcome, true, restored⟩
      else tryPrevious equalDisplayModes turns true attempt.attempted outcome
    else tryPrevious equalDisplayModes turns false attempt.attempted outcome

def resetFallbacks : Operation Unit := ask (.note .goldenPendingSessionFallbacksReset)

def succeed (restored : Option Snapshot) : RecoveryOutcome :=
  { outcome with success := true, snapshot := restored }

def runGoldenFirst (outcome : RecoveryOutcome) : Operation RecoveryOutcome := do
  let (outcome, restored) ← tryGolden equalDisplayModes turns outcome
  if restored.isSome then do
    resetFallbacks
    pure (succeed outcome restored)
  else do
    let session ← trySessionSnapshots equalDisplayModes turns outcome
    if !session.restored.isSome then do
      resetFallbacks
      pure session.outcome
    else if ← goldenRestoreIsPending then do
      ask (.note .goldenPendingSessionFallback)
      pure session.outcome
    else do
      ask (.note (.registerUnresolved "session fallback accepted"))
      resetFallbacks
      pure (succeed session.outcome session.restored)

def runSessionFirst (outcome : RecoveryOutcome) : Operation RecoveryOutcome := do
  let session ← trySessionSnapshots equalDisplayModes turns outcome
  if session.restored.isSome then do
    if session.triedGoldenBeforePrevious then
      ask (.note (.registerUnresolved "session fallback accepted"))
    resetFallbacks
    pure (succeed session.outcome session.restored)
  else if session.triedGoldenBeforePrevious then do
    resetFallbacks
    pure session.outcome
  else do
    let (outcome, restored) ← tryGolden equalDisplayModes turns session.outcome
    resetFallbacks
    pure { outcome with success := restored.isSome, snapshot := restored }

def run : Operation RecoveryOutcome := do
  if ← ask .isCancelled then pure {}
  else do
    ask (.note .restoreAttemptedUnconfirmed)
    let outcome : RecoveryOutcome := { displayMayHaveChanged := true }
    if ← ask (.flag .alwaysRestoreFromGolden) then
      runGoldenFirst equalDisplayModes turns outcome
    else do
      resetFallbacks
      runSessionFirst equalDisplayModes turns outcome

end

end Vibeshine.DisplayHelper.Recovery
