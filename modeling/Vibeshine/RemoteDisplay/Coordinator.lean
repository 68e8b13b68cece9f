import Vibeshine.RemoteDisplay.Compose
import Vibeshine.Library.System

/-! # The display coordinator

`remote_display_topology::coordinator_t`. Every operation runs under one mutex, so
it is one step. The answers of the platform callbacks and of the lease gate are
arbitrary: each call site of an operation reads its own answer.

Capture handles belong to the callers and are listed in `handles`. The calls of the
last operation to the callbacks that touch displays are recorded, newest first, each
with the clients it was made for; `monitorLog` keeps the accepted and the released
monitor generations of the whole run.
-/

namespace Vibeshine.RemoteDisplay

/-- Which callbacks are installed. -/
structure Callbacks where
  createOrReclaim : Bool := false
  resolveMode : Bool := false
  applyComposedTopology : Bool := false
  observeSharedMode : Bool := false
  finalizeMode : Bool := false
  exactTargetHasCurrentModeAndDxgi : Bool := false
  removeOwnedDisplay : Bool := false
  clientIdentityCapacity : Bool := false
  terminateOwnedDisplay : Bool := false

inductive Call where
  | observed (uuid : String) (answer : Option Mode)
  | applied (nodes physicalBaseline : List Node) (clients : Clients) (answer : Bool)
  | removed (uuid : String) (clients : Clients) (answer : Bool)
  | terminated (uuid : String) (clients : Clients) (answer : Bool)
  deriving DecidableEq

inductive MonitorEvent where
  | accepted (uuid : String) (generation : Nat)
  | released (uuid : String) (generation : Nat)
  deriving DecidableEq

structure Coordinator where
  callbacks : Callbacks := {}
  layout : Json := emptyLayout
  physicalBaseline : List Node := []
  clients : Clients := []
  observedMonitorGenerations : String → Nat := fun _ => 0
  releasedMonitorGenerations : String → Option Nat := fun _ => none
  physicalRestorePending : Bool := false
  shutdownPending : Bool := false
  nextNormalGameToken : Nat := 0
  nextPlacementOrder : Nat := 0
  handles : List (String × Nat) := []
  calls : List Call := []
  monitorLog : List MonitorEvent := []

def defaultClientIdentities : Nat := 4

def maxClientIdentities : Nat := 8

/-! ## Client entries -/

def modifyClient (uuid : String) (f : Client → Client) (clients : Clients) : Clients :=
  clients.map fun entry => if entry.1 = uuid then (entry.1, f entry.2) else entry

def eraseClient (uuid : String) (clients : Clients) : Clients :=
  clients.filter fun entry => entry.1 != uuid

variable (client : Client)

def desiredMode : Mode :=
  match client.remoteMonitor, client.monitorRequestedMode, client.normalGame,
    client.normalRequestedMode with
  | true, some mode, _, _ => mode
  | _, _, true, some mode => mode
  | _, _, _, _ => {}

/-- `++references[token]`. -/
def retainReference (token : Nat) : List (Nat × Nat) → List (Nat × Nat)
  | [] => [(token, 1)]
  | (other, count) :: references =>
    if other = token then (other, count + 1) :: references
    else (other, count) :: retainReference token references

/-- `--references[token]`, erased at zero. -/
def dropReference (token : Nat) : List (Nat × Nat) → List (Nat × Nat)
  | [] => []
  | (other, count) :: references =>
    if other = token then
      if count - 1 = 0 then references else (other, count - 1) :: references
    else (other, count) :: dropReference token references

def Mode.usable (mode : Mode) : Bool := 0 < mode.width && 0 < mode.height && 0 < mode.refreshHz

def Mode.withGeometry (mode observed : Mode) : Mode :=
  { mode with width := observed.width, height := observed.height, refreshHz := observed.refreshHz }

/-- The loop of `refresh_unverified_shared_geometry_locked`: whether every shared
geometry was observed, the refreshed clients, and the calls made, newest first. -/
def refreshClients (installed : Bool) (except : String) (observe : String → Option Mode) :
    Clients → Bool × Clients × List Call
  | [] => (true, [], [])
  | (uuid, client) :: rest =>
    if uuid = except || !client.owning || !client.sharedModeUnverified then
      let (known, refreshed, calls) := refreshClients installed except observe rest
      (known, (uuid, client) :: refreshed, calls)
    else if !installed then (false, (uuid, client) :: rest, [])
    else
      match observe uuid with
      | none => (false, (uuid, client) :: rest, [.observed uuid none])
      | some mode =>
        if !mode.usable then (false, (uuid, client) :: rest, [.observed uuid (some mode)])
        else
          let (known, refreshed, calls) := refreshClients installed except observe rest
          let client := { client with effectiveMode := client.effectiveMode.withGeometry mode }
          (known, (uuid, client) :: refreshed, calls ++ [.observed uuid (some mode)])

variable (c : Coordinator) (protectedOutput : Bool) (resolve : Mode → Mode)

namespace Coordinator

variable (uuid : String)

def find : Option Client := c.clients.lookup uuid

def modify (f : Client → Client) : Coordinator :=
  { c with clients := modifyClient uuid f c.clients }

def erase : Coordinator :=
  { c with clients := eraseClient uuid c.clients }

/-- `try_emplace` of an absent client; where the iteration meets it is not fixed. -/
def insert (index : Nat) (uuid : String) : Coordinator :=
  { c with
    nextPlacementOrder := c.nextPlacementOrder + 1
    clients := c.clients.take index ++
      (uuid, { placementOrder := c.nextPlacementOrder + 1 }) :: c.clients.drop index }

def call (c : Coordinator) (call : Call) : Coordinator := { c with calls := call :: c.calls }

/-- `apply_composed_topology(compose_locked(..))`. -/
def applyTopology (answer : Bool) : Coordinator :=
  c.call (.applied (composeLocked c.layout c.physicalBaseline c.clients) c.physicalBaseline c.clients
    answer)

def resolveEffectiveMode (client : Client) : Client :=
  { client with effectiveMode :=
      if c.callbacks.resolveMode then resolve (desiredMode client) else desiredMode client }

/-- `refresh_unverified_shared_geometry_locked`, whose default exempts the empty
identity. -/
def refreshGeometry (observe : String → Option Mode) (except : String := "") : Bool × Coordinator :=
  let (known, clients, calls) :=
    refreshClients c.callbacks.observeSharedMode except observe c.clients
  (known, { c with clients := clients, calls := calls ++ c.calls })

def clientIdentityCapacity (c : Coordinator) (capacity : Nat) : Nat :=
  min maxClientIdentities
    (if c.callbacks.clientIdentityCapacity then capacity else defaultClientIdentities)

def displayMutationDeferred : Bool :=
  protectedOutput || c.shutdownPending || c.clients.any fun entry =>
    entry.2.normalReleasePending && !entry.2.normalCaptureReferences.isEmpty

def captureStillLive : Bool :=
  c.clients.any fun entry => !entry.2.normalCaptureReferences.isEmpty

end Coordinator

/-! ## Normal-game identities -/

structure NormalGameReservation where
  accepted : Bool := false
  newlyReserved : Bool := false
  token : Nat := 0

/-- What the gate and the callbacks answer to `reserve_normal_game_identity`. -/
structure ReserveAnswers where
  begun : Bool := true
  protectedOutput : Bool := false
  capacity : Nat := defaultClientIdentities
  index : Nat := 0

/-- What they answer to `release_normal_game_identity_locked`. -/
structure NormalReleaseAnswers where
  begun : Bool := true
  geometry : String → Option Mode := fun _ => none
  terminated : Bool := false
  applied : Bool := true
  removed : Bool := true
  geometryAgain : String → Option Mode := fun _ => none
  appliedAgain : Bool := true

namespace Coordinator

def reserveNormalGameIdentity (a : ReserveAnswers) (uuid label : String)
    (mode : Mode) : NormalGameReservation × Coordinator :=
  if !a.begun then ({}, c)
  else if c.displayMutationDeferred a.protectedOutput then ({}, c)
  else if uuid.isEmpty ||
      ((c.find uuid).isNone && c.clientIdentityCapacity a.capacity ≤ c.clients.length) then ({}, c)
  else
    let c := if (c.find uuid).isNone then c.insert a.index uuid else c
    match c.find uuid with
    | none => ({}, c)
    | some client =>
      if client.normalGame && !client.normalReleasePending then
        ({ accepted := true, token := client.normalGameToken }, c)
      else
        let token := c.nextNormalGameToken + 1
        ({ accepted := true, newlyReserved := true, token := token },
          { c with nextNormalGameToken := token }.modify uuid fun client =>
            { client with
              label := label
              normalRequestedMode := some mode
              effectiveMode := if client.remoteMonitor then client.effectiveMode else mode
              normalGame := true
              normalReleasePending := false
              normalGameToken := token })

def clearNormal : Client :=
  { client with normalGame := false, normalRequestedMode := none, normalGameToken := 0 }

variable (uuid : String)

def restoreNormal (former : Client) : Coordinator :=
  c.modify uuid fun client =>
    { client with
      normalGame := true
      normalRequestedMode := former.normalRequestedMode
      normalGameToken := former.normalGameToken }

def rollbackNormalGameIdentity (begun protectedOutput : Bool) (uuid : String)
    (token : Nat) : Bool × Coordinator :=
  if !begun then (false, c)
  else
    match c.find uuid with
    | none => (false, c)
    | some client =>
      if !client.normalGame || client.normalGameToken != token then (false, c)
      else if c.displayMutationDeferred protectedOutput ||
          !client.normalCaptureReferences.isEmpty then
        (false, c.modify uuid fun client => { client with normalReleasePending := true })
      else
        let c := c.modify uuid fun client =>
          { clearNormal client with normalReleasePending := false }
        if client.remoteMonitor then (false, c) else (true, c.erase uuid)

variable (a : NormalReleaseAnswers)

def releaseNormalGameIdentityLocked (uuid : String) : Coordinator :=
  if !a.begun then c
  else
    match c.find uuid with
    | none => c
    | some former =>
      let c := c.modify uuid clearNormal
      if former.remoteMonitor then
        c.modify uuid fun client => { client with normalReleasePending := false }
      else if !c.callbacks.applyComposedTopology then c.restoreNormal uuid former
      else
        let (known, c) := c.refreshGeometry a.geometry
        if !known then
          -- the exact target can be retired without composing guessed peers
          if !c.callbacks.terminateOwnedDisplay then c.restoreNormal uuid former
          else
            let c := c.call (.terminated uuid c.clients a.terminated)
            if a.terminated then c.erase uuid else c.restoreNormal uuid former
        else
          let c := c.applyTopology a.applied
          if !a.applied then c.restoreNormal uuid former
          else if !c.callbacks.removeOwnedDisplay then c.erase uuid
          else
            let c := c.call (.removed uuid c.clients a.removed)
            if a.removed then c.erase uuid
            else
              let (known, c) := (c.restoreNormal uuid former).refreshGeometry a.geometryAgain
              if known then c.applyTopology a.appliedAgain else c

def releaseNormalGameIdentity (uuid : String) (token : Nat) : Coordinator :=
  match c.find uuid with
  | none => c
  | some client =>
    if !client.normalGame || token == 0 || client.normalGameToken != token then c
    else
      let c := c.modify uuid fun client => { client with normalReleasePending := true }
      if c.displayMutationDeferred protectedOutput then c
      else c.releaseNormalGameIdentityLocked a uuid

/-- `normal_release_pending` on every normal game. -/
def markNormalReleases : Coordinator :=
  { c with clients := c.clients.map fun entry =>
      if entry.2.normalGame then (entry.1, { entry.2 with normalReleasePending := true })
      else entry }

def releaseAllNormalGameIdentities (answers : String → NormalReleaseAnswers) : Coordinator :=
  let c := c.markNormalReleases
  if c.displayMutationDeferred protectedOutput then c
  else
    (c.clients.map (·.1)).foldl (fun c uuid =>
      if (c.find uuid).any fun client => client.normalGame && client.normalReleasePending then
        c.releaseNormalGameIdentityLocked (answers uuid) uuid
      else c) c

def completeRestoredNormalGameCleanup : Coordinator :=
  if protectedOutput then c
  else
    { c with clients := c.clients.filter fun entry =>
        !(entry.2.normalGame && entry.2.normalReleasePending &&
          entry.2.normalCaptureReferences.isEmpty && !entry.2.remoteMonitor) }

def retainNormalGameCapture (token : Nat) : Coordinator :=
  match c.find uuid with
  | none => c
  | some client =>
    if !client.normalGame || token == 0 || client.normalGameToken != token ||
        client.normalReleasePending then c
    else
      { c with handles := (uuid, token) :: c.handles }.modify uuid fun client =>
        { client with normalCaptureReferences :=
            retainReference token client.normalCaptureReferences }

/-- `~capture_reference_t` of a held handle. -/
def dropCapture (token : Nat) : Coordinator :=
  { c with handles := c.handles.erase (uuid, token) }.modify uuid fun client =>
    { client with normalCaptureReferences := dropReference token client.normalCaptureReferences }

end Coordinator

/-! ## Monitor release -/

/-- What the gate and the callbacks answer to `release_locked`. -/
structure MonitorReleaseAnswers where
  begun : Bool := true
  protectedOutput : Bool := false
  resolve : Mode → Mode := id
  geometry : String → Option Mode := fun _ => none
  applied : Bool := true
  removed : Bool := true
  resolveBack : Mode → Mode := id
  geometryAgain : String → Option Mode := fun _ => none
  appliedAgain : Bool := true

namespace Coordinator

def deferMonitorRelease (uuid reason : String) : Coordinator :=
  c.modify uuid fun client =>
    { client with monitorReleasePending := true, monitorReleaseReason := reason }

def dropMonitor (reason : String) (client : Client) : Client :=
  let client := { client with remoteMonitor := false, monitorRequestedMode := none }
  let client := if client.normalGame then c.resolveEffectiveMode resolve client else client
  { client with leaseHeld := client.normalGame, lifecycle := .released, warning := reason }

def restoreMonitor (uuid : String) (former : Client) (reason : String) : Coordinator :=
  c.modify uuid fun client =>
    c.resolveEffectiveMode resolve
      { client with
        remoteMonitor := true
        monitorRequestedMode := former.monitorRequestedMode
        leaseHeld := former.leaseHeld
        lifecycle := former.lifecycle
        warning := former.warning
        monitorReleasePending := true
        monitorReleaseReason := reason }

variable (uuid : String)

def completeMonitorRelease (former : Client) : Coordinator :=
  let c := c.modify uuid fun client =>
    { client with
      monitorReleasePending := false
      monitorReleaseReason := ""
      deferredMonitorReconfiguration := false
      sharedModeUnverified := former.normalGame && former.sharedModeUnverified }
  if former.generation = 0 then c
  else
    { c with
      releasedMonitorGenerations := Function.update c.releasedMonitorGenerations uuid
        (some (max ((c.releasedMonitorGenerations uuid).getD 0) former.generation))
      monitorLog := .released uuid former.generation :: c.monitorLog }

variable (a : MonitorReleaseAnswers)

/-- The removal of `release_locked`. -/
def removeReleased (uuid : String) (former : Client) (reason : String) : Coordinator :=
  if former.normalGame ||
      !(c.callbacks.terminateOwnedDisplay || c.callbacks.removeOwnedDisplay) then
    c.completeMonitorRelease uuid former
  else
    let c := c.call (if c.callbacks.terminateOwnedDisplay then .terminated uuid c.clients a.removed
      else .removed uuid c.clients a.removed)
    if a.removed then c.completeMonitorRelease uuid former
    else
      let c := c.restoreMonitor a.resolveBack uuid former reason
      if !c.callbacks.terminateOwnedDisplay && c.callbacks.applyComposedTopology then
        let (known, c) := c.refreshGeometry a.geometryAgain
        if known then c.applyTopology a.appliedAgain else c
      else c

/-- The topology handoff of `release_locked` to the remaining owners. -/
def handOffReleased (uuid : String) (former : Client) (reason : String) : Coordinator :=
  if c.callbacks.applyComposedTopology then
    let (known, c) := c.refreshGeometry a.geometry
    let c := if known then c.applyTopology a.applied else c
    let applied := known && a.applied
    let c := if !applied && known then { c with physicalRestorePending := true } else c
    if !applied && !c.callbacks.terminateOwnedDisplay && (known || !former.normalGame) then
      c.restoreMonitor a.resolveBack uuid former reason
    else c.removeReleased a uuid former reason
  else if !former.normalGame && !c.callbacks.terminateOwnedDisplay then
    c.restoreMonitor a.resolveBack uuid former reason
  else c.removeReleased a uuid former reason

def releaseLocked (uuid reason : String) : Coordinator :=
  match c.find uuid with
  | none => c
  | some former =>
    if !a.begun then c.deferMonitorRelease uuid reason
    else if !former.remoteMonitor then c
    else if c.displayMutationDeferred a.protectedOutput then c.deferMonitorRelease uuid reason
    else
      let dropped := c.modify uuid (c.dropMonitor a.resolve reason)
      if former.normalReleasePending && !former.normalCaptureReferences.isEmpty then
        dropped.modify uuid fun client =>
          { client with
            deferredMonitorReconfiguration := false
            sharedModeUnverified := former.normalGame && former.sharedModeUnverified }
      else dropped.handOffReleased a uuid former reason

def eraseReleased : Coordinator :=
  if (c.find uuid).any fun client => !client.owning then c.erase uuid else c

def explicitRelease (uuid : String) (generation : Nat) (reason : String) : Bool × Coordinator :=
  match c.find uuid with
  | none => (true, c)
  | some client =>
    if generation ≠ client.generation then (true, c)
    else
      let c := c.releaseLocked a uuid reason
      ((c.find uuid).all fun client => !client.remoteMonitor, c.eraseReleased uuid)

def disconnectMonitor (uuid : String) : Coordinator :=
  match c.find uuid with
  | none => c
  | some _ => (c.releaseLocked a uuid "Remote Monitor was disconnected.").eraseReleased uuid

def unpairClient (uuid : String) : Coordinator :=
  c.disconnectMonitor a uuid

def transportLost (generation : Nat) : Coordinator :=
  match c.find uuid with
  | none => c
  | some client =>
    if generation ≠ client.generation then c
    else c.modify uuid fun client =>
      { client with
        lifecycle := .retryable
        warning := "Transport was lost; Remote Monitor ownership and desired settings were " ++
          "retained for Resume." }

def noteLeaseLost : Coordinator :=
  c.modify uuid fun client =>
    { client with
      leaseHeld := false
      lifecycle := .retryable
      warning := "Remote Monitor lease was lost; desired settings and identity are retained " ++
        "for Resume." }

end Coordinator

/-! ## Monitor activation -/

structure MonitorRuntimeState where
  accepted : Bool := false
  ready : Bool := false
  retryable : Bool := false
  output : String := ""
  error : String := ""
  hdrEnabled : Bool := false

structure ActivationResult where
  accepted : Bool := false
  captureReady : Bool := false
  warning : String := ""

/-- What the gate and the callbacks answer to `activate_or_resume` and
`activate_locked`. -/
structure ActivationAnswers where
  begun : Bool := true
  geometryFirst : String → Option Mode := fun _ => none
  protectedOutput : Bool := false
  capacity : Nat := defaultClientIdentities
  index : Nat := 0
  geometryBefore : String → Option Mode := fun _ => none
  created : Bool := true
  resolve : Mode → Mode := id
  observed : Option Mode := none
  geometryAfter : String → Option Mode := fun _ => none
  applied : Bool := true
  finalized : Bool := true
  finalMode : Mode → Mode := id
  exactOutput : Option String := some "output"

namespace Coordinator

def retryLater (uuid warning : String) : Coordinator :=
  c.modify uuid fun client => { client with lifecycle := .retryable, warning := warning }

def retryShared (uuid : String) (sharedCapture : Bool) (warning : String) : Coordinator :=
  c.modify uuid fun client =>
    { client with
      deferredMonitorReconfiguration := client.deferredMonitorReconfiguration || sharedCapture
      sharedModeUnverified := client.sharedModeUnverified || sharedCapture
      lifecycle := .retryable
      warning := warning }

variable (a : ActivationAnswers)

/-- `activate_locked` from its topology call on. -/
def applyActivation (uuid : String) (sharedCapture : Bool) : Coordinator :=
  let (known, c) := c.refreshGeometry a.geometryAfter uuid
  if !known then
    c.retryLater uuid
      "A shared display geometry could not be observed; topology changes are deferred."
  else
    let c := c.modify uuid fun client => { client with lifecycle := .applying }
    -- a warning of the composition is overwritten on every exit below
    let c := c.applyTopology a.applied
    if !a.applied then
      c.retryShared uuid sharedCapture
        ("The composed display topology did not apply; existing owners and their displays were " ++
          "retained.")
    else
      let c := if c.callbacks.finalizeMode then c.modify uuid fun client =>
          { client with effectiveMode := a.finalMode client.effectiveMode } else c
      if c.callbacks.finalizeMode && !a.finalized then
        c.retryShared uuid sharedCapture
          "The requested client display color state could not be verified; Resume will retry."
      else
        let output := a.exactOutput.getD ""
        if output.isEmpty then
          c.retryShared uuid sharedCapture
            ("The requested client display is not yet capture-ready. Existing streamed physical " ++
              "or virtual displays remain topology anchors, but capture will wait rather than " ++
              "mirror another screen.")
        else
          c.modify uuid fun client =>
            { client with
              exactOutput := output
              deferredMonitorReconfiguration := false
              sharedModeUnverified := false
              lifecycle := .ready
              warning := "" }

def matchesGeometry (observed : Option Mode) : Bool :=
  observed.any fun mode => mode.width == client.effectiveMode.width &&
    mode.height == client.effectiveMode.height && mode.refreshHz == client.effectiveMode.refreshHz

/-- `activate_locked` from the resolution of the mode on. -/
def verifyGeometry (uuid : String) (sharedCapture : Bool) : Coordinator :=
  let c := c.modify uuid (c.resolveEffectiveMode a.resolve)
  match c.find uuid with
  | none => c
  | some client =>
    if sharedCapture || client.sharedModeUnverified ||
        (c.callbacks.finalizeMode && client.deferredMonitorReconfiguration) then
      let observed := if c.callbacks.observeSharedMode then a.observed else none
      let c := if c.callbacks.observeSharedMode then c.call (.observed uuid a.observed) else c
      if !matchesGeometry client observed then
        c.modify uuid fun client =>
          { client with
            deferredMonitorReconfiguration :=
              client.deferredMonitorReconfiguration || sharedCapture
            sharedModeUnverified := true
            effectiveMode := match observed with
              | none => client.effectiveMode
              | some mode => client.effectiveMode.withGeometry mode
            lifecycle := .retryable
            warning := "The shared display does not yet match the requested geometry; Resume " ++
              "will retry." }
      else
        (c.modify uuid fun client =>
          { client with
            sharedModeUnverified := false
            deferredMonitorReconfiguration :=
              client.deferredMonitorReconfiguration && sharedCapture }).applyActivation a uuid
          sharedCapture
    else c.applyActivation a uuid sharedCapture

/-- `activate_locked` from the lease on. -/
def reclaimLease (uuid : String) (sharedCapture : Bool) : Coordinator :=
  match c.find uuid with
  | none => c
  | some client =>
    if !client.leaseHeld && sharedCapture then
      -- the game capture already owns this exact stable output
      (c.modify uuid fun client => { client with leaseHeld := true }).verifyGeometry a uuid
        sharedCapture
    else if !client.leaseHeld || (!sharedCapture && client.deferredMonitorReconfiguration) then
      if !a.created then
        c.retryLater uuid
          ("The owned virtual display could not be created or reclaimed; Resume will retry the " ++
            "same identity.")
      else
        (c.modify uuid fun client =>
          { client with lifecycle := .leased, leaseHeld := true }).verifyGeometry a uuid
          sharedCapture
    else c.verifyGeometry a uuid sharedCapture

/-- `activate_locked`; its result is always accepted, and reads the entry it leaves. -/
def activateLocked (uuid : String) : Coordinator :=
  match c.find uuid with
  | none => c
  | some client =>
    if !c.callbacks.createOrReclaim || !c.callbacks.applyComposedTopology ||
        !c.callbacks.exactTargetHasCurrentModeAndDxgi then
      c.retryLater uuid
        "Remote Monitor runtime wiring is unavailable; ownership was retained for Resume."
    else
      let sharedCapture := c.callbacks.finalizeMode &&
        (client.normalGame || client.lifecycle == .ready)
      let (known, c) := c.refreshGeometry a.geometryBefore uuid
      if !known then
        c.retryLater uuid
          "A shared display mode is awaiting verification; topology changes are deferred."
      else c.reclaimLease a uuid sharedCapture

def activationResult (uuid : String) : ActivationResult :=
  match c.find uuid with
  | none => { accepted := true }
  | some client =>
    { accepted := true, captureReady := client.lifecycle == .ready, warning := client.warning }

def rejected (error : String) : MonitorRuntimeState := { retryable := true, error := error }

/-- `activate_or_resume` once the client has an entry. -/
def activateEntry (uuid label : String) (mode : Mode)
    (generation : Nat) : MonitorRuntimeState × Coordinator :=
  match c.find uuid with
  | none => ({}, c)
  | some client =>
    if client.monitorReleasePending && generation ≤ client.generation then
      (rejected "The previous Remote Monitor release is still being finalized.", c)
    else
      let c := if client.monitorReleasePending then c.modify uuid fun client =>
          { client with monitorReleasePending := false, monitorReleaseReason := "" } else c
      if generation < client.generation then
        (rejected "A newer Remote Monitor generation is already active.", c)
      else if c.callbacks.finalizeMode && client.remoteMonitor && client.lifecycle == .ready then
        (rejected "The previous Remote Monitor transport has not drained.", c)
      else
        let reconfigured := c.callbacks.finalizeMode && client.leaseHeld &&
          !(client.monitorRequestedMode.any fun requested => requested.width == mode.width &&
            requested.height == mode.height && requested.refreshHz == mode.refreshHz)
        let c := c.modify uuid fun client =>
          { client with
            deferredMonitorReconfiguration :=
              client.deferredMonitorReconfiguration || reconfigured
            generation := generation
            label := label
            monitorRequestedMode := some mode
            effectiveMode := mode
            remoteMonitor := true }
        let c := c.activateLocked a uuid
        let c := { c with monitorLog := .accepted uuid generation :: c.monitorLog }
        let result := c.activationResult uuid
        let client := (c.find uuid).getD {}
        ({ accepted := result.accepted
           ready := result.captureReady
           retryable := client.lifecycle == .retryable
           output := client.exactOutput
           error := result.warning
           hdrEnabled := client.effectiveMode.hdr }, c)

def activateOrResume (uuid label : String) (mode : Mode)
    (generation : Nat) : MonitorRuntimeState × Coordinator :=
  if !a.begun then (rejected "Existing target borrowers hold display leases.", c)
  else
    let (known, c) := c.refreshGeometry a.geometryFirst uuid
    if !known then
      (rejected "A shared display mode is awaiting verification; topology changes are deferred.", c)
    else if generation < c.observedMonitorGenerations uuid then
      (rejected "A newer Remote Monitor generation was already observed.", c)
    else
      let c := { c with observedMonitorGenerations :=
          Function.update c.observedMonitorGenerations uuid generation }
      if c.displayMutationDeferred a.protectedOutput then
        (rejected "Remote display changes are waiting for active capture to drain.", c)
      else if (c.releasedMonitorGenerations uuid).any (generation ≤ ·) then
        (rejected "This Remote Monitor generation was already released.", c)
      else if (c.find uuid).isNone && c.clientIdentityCapacity a.capacity ≤ c.clients.length then
        (rejected ("Remote display capacity is " ++ toString (c.clientIdentityCapacity a.capacity) ++
          " paired-client identities."), c)
      else
        let c := if (c.find uuid).isNone then c.insert a.index uuid else c
        c.activateEntry a uuid label mode generation

def resumeRemoteMonitor (uuid : String) : ActivationResult × Coordinator :=
  if c.displayMutationDeferred a.protectedOutput then
    ({ warning := "Remote display changes are waiting for active capture to drain." }, c)
  else
    match c.find uuid with
    | none => ({ warning := "Remote Monitor is not owned by this paired client." }, c)
    | some client =>
      if !client.remoteMonitor then
        ({ warning := "Remote Monitor is not owned by this paired client." }, c)
      else if client.monitorReleasePending then
        ({ warning := "The previous Remote Monitor release is still being finalized." }, c)
      else
        let c := c.activateLocked a uuid
        (c.activationResult uuid, c)

/-! ## Reapplication, finalization, and shutdown -/

def resolveOwner (client : Client) : Client :=
  if !client.owning then client
  else
    let resolved := c.resolveEffectiveMode resolve client
    if c.callbacks.finalizeMode && client.remoteMonitor then
      { resolved with effectiveMode :=
          { resolved.effectiveMode with hdr := client.effectiveMode.hdr } }
    else resolved

end Coordinator

/-- What the gate and the callbacks answer to `reapply_composed_topology`. -/
structure ReapplyAnswers where
  begun : Bool := true
  protectedOutput : Bool := false
  resolve : String → Mode → Mode := fun _ => id
  geometry : String → Option Mode := fun _ => none
  applied : Bool := true

/-- What they answer to `finalize_shutdown_locked`. -/
structure ShutdownAnswers where
  begun : Bool := true
  protectedOutput : Bool := false
  applied : Bool := true
  removed : String → Bool := fun _ => true

/-- What they answer to `release_drained_normal_game_identities`. -/
structure DrainAnswers where
  protectedOutput : Bool := false
  shutdown : ShutdownAnswers := {}
  normal : String → NormalReleaseAnswers := fun _ => {}
  monitor : String → MonitorReleaseAnswers := fun _ => {}

namespace Coordinator

def reapplyComposedTopology (a : ReapplyAnswers) : Bool × Coordinator :=
  if !a.begun then (false, c)
  else if c.displayMutationDeferred a.protectedOutput then (false, c)
  else if !c.callbacks.applyComposedTopology then (false, c)
  else
    let c := { c with clients := c.clients.map fun entry : String × Client =>
        (entry.1, c.resolveOwner (a.resolve entry.1) entry.2) }
    let (known, c) := c.refreshGeometry a.geometry
    if !known then (false, c) else (a.applied, c.applyTopology a.applied)

def managedIds : List String :=
  ((c.clients.filter (·.2.owning)).map (·.1)).insertionSort fun lhs rhs => lhs.toList ≤ rhs.toList

def removeManaged (removed : String → Bool) (retained : Clients) (c : Coordinator)
    (uuid : String) : Coordinator :=
  if !c.callbacks.removeOwnedDisplay then c
  else
    let c := c.call (.removed uuid c.clients (removed uuid))
    if removed uuid then c
    else
      match retained.lookup uuid with
      | none => c
      | some client => { c with clients := c.clients ++ [(uuid, client)] }

def finalizeShutdownLocked (a : ShutdownAnswers) : Coordinator :=
  if !a.begun then c
  else if a.protectedOutput then { c with shutdownPending := true }
  else if c.managedIds.isEmpty && !c.physicalRestorePending then
    { c with clients := [], shutdownPending := false }
  else if c.physicalRestorePending && !c.callbacks.applyComposedTopology then
    { c with shutdownPending := true }
  else
    let emptied := { c with clients := [] }
    let applied := if c.callbacks.applyComposedTopology then emptied.applyTopology a.applied
      else emptied
    if c.callbacks.applyComposedTopology && !a.applied then
      { applied with clients := c.clients, shutdownPending := true }
    else
      let removed := c.managedIds.foldl (removeManaged a.removed c.clients)
        { applied with physicalRestorePending := false }
      { removed with shutdownPending := !removed.clients.isEmpty }

def releaseDrainedNormalGameIdentities (a : DrainAnswers) : Coordinator :=
  if c.shutdownPending then
    if c.captureStillLive then c else c.finalizeShutdownLocked a.shutdown
  else if c.captureStillLive && c.displayMutationDeferred a.protectedOutput then c
  else
    let c := (c.clients.map (·.1)).foldl (fun c uuid =>
      if (c.find uuid).any fun client =>
          client.normalReleasePending && client.normalCaptureReferences.isEmpty then
        c.releaseNormalGameIdentityLocked (a.normal uuid) uuid
      else c) c
    (c.clients.map (·.1)).foldl (fun c uuid =>
      match c.find uuid with
      | none => c
      | some client =>
        if !client.monitorReleasePending then c
        else (c.releaseLocked (a.monitor uuid) uuid client.monitorReleaseReason).eraseReleased
          uuid) c

def releaseIdleNormalGameIdentities (appRunning captureRuntimeOwned : Bool)
    (protectedOutput : Bool) (answers : String → NormalReleaseAnswers) (a : DrainAnswers) :
    Coordinator :=
  if !appRunning && !captureRuntimeOwned then
    c.releaseAllNormalGameIdentities protectedOutput answers
  else c.releaseDrainedNormalGameIdentities a

def shutdown (preserveOwnedDisplays : Bool) (a : ShutdownAnswers) : Coordinator :=
  if preserveOwnedDisplays then
    { c with
      clients := []
      observedMonitorGenerations := fun _ => 0
      releasedMonitorGenerations := fun _ => none
      physicalRestorePending := false
      shutdownPending := false }
  else if c.captureStillLive then { c with shutdownPending := true }.markNormalReleases
  else { c with shutdownPending := true }.finalizeShutdownLocked a

def refreshIdlePhysicalBaseline (nodes : List Node) : Coordinator :=
  if nodes.isEmpty || c.physicalRestorePending || c.clients.any (·.2.owning) then c
  else { c with physicalBaseline := nodes }

end Coordinator

/-! ## Runs -/

/-- One operation, with the answers it meets. `rehash` is a change of the order in
which `clients_` is iterated. -/
inductive Operation where
  | setRuntimeCallbacks (callbacks : Callbacks)
  | setLayout (layout : Json)
  | setPhysicalBaseline (nodes : List Node)
  | refreshIdlePhysicalBaseline (nodes : List Node)
  | reserve (a : ReserveAnswers) (uuid label : String) (mode : Mode)
  | reapply (a : ReapplyAnswers)
  | rollback (begun protectedOutput : Bool) (uuid : String) (token : Nat)
  | release (protectedOutput : Bool) (a : NormalReleaseAnswers) (uuid : String) (token : Nat)
  | retain (uuid : String) (token : Nat)
  | dropCapture (uuid : String) (token : Nat)
  | releaseDrained (a : DrainAnswers)
  | releaseAll (protectedOutput : Bool) (answers : String → NormalReleaseAnswers)
  | releaseIdle (appRunning captureRuntimeOwned protectedOutput : Bool)
      (answers : String → NormalReleaseAnswers) (a : DrainAnswers)
  | completeRestored (protectedOutput : Bool)
  | activateOrResume (a : ActivationAnswers) (uuid label : String) (mode : Mode)
      (generation : Nat)
  | resume (a : ActivationAnswers) (uuid : String)
  | explicitRelease (a : MonitorReleaseAnswers) (uuid : String) (generation : Nat)
      (reason : String)
  | transportLost (uuid : String) (generation : Nat)
  | noteLeaseLost (uuid : String)
  | disconnect (a : MonitorReleaseAnswers) (uuid : String)
  | unpair (a : MonitorReleaseAnswers) (uuid : String)
  | shutdown (preserveOwnedDisplays : Bool) (a : ShutdownAnswers)
  | rehash (clients : Clients)

def Coordinator.perform : Operation → Coordinator
  | .setRuntimeCallbacks callbacks => { c with callbacks := callbacks }
  | .setLayout layout => { c with layout := normalizeLayout layout }
  | .setPhysicalBaseline nodes => { c with physicalBaseline := nodes }
  | .refreshIdlePhysicalBaseline nodes => c.refreshIdlePhysicalBaseline nodes
  | .reserve a uuid label mode => (c.reserveNormalGameIdentity a uuid label mode).2
  | .reapply a => (c.reapplyComposedTopology a).2
  | .rollback begun protectedOutput uuid token =>
    (c.rollbackNormalGameIdentity begun protectedOutput uuid token).2
  | .release protectedOutput a uuid token => c.releaseNormalGameIdentity protectedOutput a uuid token
  | .retain uuid token => c.retainNormalGameCapture uuid token
  | .dropCapture uuid token => c.dropCapture uuid token
  | .releaseDrained a => c.releaseDrainedNormalGameIdentities a
  | .releaseAll protectedOutput answers => c.releaseAllNormalGameIdentities protectedOutput answers
  | .releaseIdle appRunning captureRuntimeOwned protectedOutput answers a =>
    c.releaseIdleNormalGameIdentities appRunning captureRuntimeOwned protectedOutput answers a
  | .completeRestored protectedOutput => c.completeRestoredNormalGameCleanup protectedOutput
  | .activateOrResume a uuid label mode generation =>
    (c.activateOrResume a uuid label mode generation).2
  | .resume a uuid => (c.resumeRemoteMonitor a uuid).2
  | .explicitRelease a uuid generation reason => (c.explicitRelease a uuid generation reason).2
  | .transportLost uuid generation => c.transportLost uuid generation
  | .noteLeaseLost uuid => c.noteLeaseLost uuid
  | .disconnect a uuid => c.disconnectMonitor a uuid
  | .unpair a uuid => c.unpairClient a uuid
  | .shutdown preserveOwnedDisplays a => c.shutdown preserveOwnedDisplays a
  | .rehash clients => { c with clients := clients }

def Coordinator.step (operation : Operation) : Coordinator :=
  { c with calls := [] }.perform operation

def Coordinator.Admits : Operation → Prop
  | .dropCapture uuid token => (uuid, token) ∈ c.handles
  | .rehash clients => clients.Perm c.clients
  | _ => True

def coordinatorSystem : Library.System Coordinator Operation where
  init := {}
  admits := Coordinator.Admits
  step := Coordinator.step

end Vibeshine.RemoteDisplay
