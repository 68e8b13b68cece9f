import Vibeshine.RemoteDisplay.Layout

/-! # Composed topologies

`compose_locked` lays the displays of all owning clients next to the physical
baseline: in order of first ownership, each after the client it is anchored to,
relative to its anchor where that is present and to the right of everything
otherwise.
-/

namespace Vibeshine.RemoteDisplay

inductive Lifecycle where
  | desired | leased | applying | ready | retryable | released
  deriving DecidableEq

structure Mode where
  width : Int := 1920
  height : Int := 1080
  refreshHz : Int := 60
  hdr : Bool := false
  deriving DecidableEq

structure Node where
  id : String := ""
  deviceId : String := ""
  label : String := ""
  preexisting : Bool := false
  physical : Bool := false
  active : Bool := false
  primary : Bool := false
  x : Int := 0
  y : Int := 0
  configuredMode : Mode := {}
  lastRequestedMode : Option Mode := none
  currentMode : Option Mode := none
  layoutWidth : Option Int := none
  layoutHeight : Option Int := none
  deriving DecidableEq

/-- `client_state_t`. -/
structure Client where
  label : String := ""
  normalRequestedMode : Option Mode := none
  monitorRequestedMode : Option Mode := none
  effectiveMode : Mode := {}
  normalGame : Bool := false
  normalGameToken : Nat := 0
  normalReleasePending : Bool := false
  normalCaptureReferences : List (Nat × Nat) := []
  remoteMonitor : Bool := false
  monitorReleasePending : Bool := false
  monitorReleaseReason : String := ""
  leaseHeld : Bool := false
  deferredMonitorReconfiguration : Bool := false
  sharedModeUnverified : Bool := false
  generation : Nat := 0
  placementOrder : Nat := 0
  exactOutput : String := ""
  lifecycle : Lifecycle := .desired
  warning : String := ""
  deriving DecidableEq

def Client.owning (client : Client) : Bool := client.normalGame || client.remoteMonitor

/-- `clients_`, in the order of its iteration. -/
abbrev Clients := List (String × Client)

namespace Node

variable (node : Node)

def effectiveMode : Mode :=
  node.currentMode.getD (node.lastRequestedMode.getD node.configuredMode)

def footprintWidth : Int := node.layoutWidth.getD node.effectiveMode.width

def footprintHeight : Int := node.layoutHeight.getD node.effectiveMode.height

end Node

def placeRelative (node anchor : Node) (placement : Json) : Node :=
  let anchorWidth := anchor.footprintWidth
  let anchorHeight := anchor.footprintHeight
  let width := node.footprintWidth
  let height := node.footprintHeight
  let gap := placement.number "gap_px"
  let edge := placement.text "edge" "right"
  let alignment := placement.text "alignment" "center"
  let node := if edge == "left" then { node with x := anchor.x - width - gap } else node
  let node := if edge == "right" then { node with x := anchor.x + anchorWidth + gap } else node
  let node := if edge == "above" then { node with y := anchor.y - height - gap } else node
  let node := if edge == "below" then { node with y := anchor.y + anchorHeight + gap } else node
  let node := if edge == "left" || edge == "right" then
      { node with y := if alignment == "start" then anchor.y
          else if alignment == "end" then anchor.y + anchorHeight - height
          else anchor.y + (anchorHeight - height).tdiv 2 }
    else node
  if edge == "above" || edge == "below" then
    { node with x := if alignment == "start" then anchor.x
        else if alignment == "end" then anchor.x + anchorWidth - width
        else anchor.x + (anchorWidth - width).tdiv 2 }
  else node

/-- The locals of `compose_locked` its recursive `emit` works on. -/
structure Composition where
  nodes : List Node
  rightmost : Int
  warnings : List String := []
  emitted : List String := []
  visiting : List String := []

namespace Composition

variable (c : Composition) (uuid : String)

def appendRight (node : Node) (warning : String) : Composition :=
  let node := { node with x := c.rightmost }
  { c with
    rightmost := c.rightmost + node.footprintWidth
    warnings := if warning.isEmpty then c.warnings else c.warnings ++ [warning]
    nodes := c.nodes ++ [node]
    emitted := uuid :: c.emitted }

def placeAt (node anchor : Node) (placement : Json) : Composition :=
  let node := placeRelative node anchor placement
  { c with
    rightmost := max c.rightmost (node.x + node.footprintWidth)
    nodes := c.nodes ++ [node]
    emitted := uuid :: c.emitted }

def enter : Composition :=
  { c with visiting := uuid :: c.visiting }

def leave : Composition :=
  { c with visiting := c.visiting.erase uuid }

end Composition

def clientNode (uuid : String) (client : Client) : Node :=
  { id := uuid
    label := client.label
    active := true
    configuredMode := client.effectiveMode
    lastRequestedMode := some client.effectiveMode }

def cycleWarning (uuid : String) : String :=
  "Saved client anchors contain a cycle; '" ++ uuid ++
    "' was appended to the right for this activation."

def anchorWarning (anchorId : String) : String :=
  "Saved anchor '" ++ anchorId ++
    "' is unavailable; the client display was appended to the right for this activation."

/-- `emit`. A client is entered at most once on the way down, so that the fuel of
`composeLocked` is never spent. -/
def emit (layout : Json) (clients : Clients) : Nat → String → Composition → Composition
  | 0, _, c => c
  | fuel + 1, uuid, c =>
    if c.emitted.contains uuid then c
    else
      match clients.lookup uuid with
      | none => c
      | some client =>
        if !client.owning then c
        else
          let node := clientNode uuid client
          if c.visiting.contains uuid then c.appendRight uuid node (cycleWarning uuid)
          else
            let c := c.enter uuid
            match (placementsOf layout).lookup uuid with
            | none => (c.appendRight uuid node "").leave uuid
            | some placement =>
              if placement.flag "preserve" && !isAutomaticFallback placement then
                (c.appendRight uuid node "").leave uuid
              else
                let node := { node with primary := placement.flag "primary" }
                if isAutomaticFallback placement then (c.appendRight uuid node "").leave uuid
                else
                  let anchorId := placement.text "anchor_id"
                  let anchored := placement.text "anchor_kind" == "client"
                  let c := if anchored then emit layout clients fuel anchorId c else c
                  if anchored && c.emitted.contains uuid then c.leave uuid
                  else
                    match c.nodes.find? (·.id == anchorId) with
                    | none => (c.appendRight uuid node (anchorWarning anchorId)).leave uuid
                    | some anchor => (c.placeAt uuid node anchor placement).leave uuid

def placedBefore (lhs rhs : String × Client) : Prop :=
  lhs.2.placementOrder < rhs.2.placementOrder ∨
    lhs.2.placementOrder = rhs.2.placementOrder ∧ lhs.1.toList ≤ rhs.1.toList

instance : DecidableRel placedBefore := fun _ _ =>
  inferInstanceAs (Decidable (_ ∨ _ ∧ _))

def activeIds (clients : Clients) : List String :=
  ((clients.filter (·.2.owning)).insertionSort placedBefore).map (·.1)

def initialComposition (physicalBaseline : List Node) : Composition :=
  { nodes := physicalBaseline
    rightmost := physicalBaseline.foldl (fun rightmost node =>
      max rightmost (node.x + node.footprintWidth)) 0 }

def composition (layout : Json) (physicalBaseline : List Node) (clients : Clients) : Composition :=
  (activeIds clients).foldl (fun c uuid => emit layout clients (clients.length + 1) uuid c)
    (initialComposition physicalBaseline)

/-- `compose_locked`; its warnings are those of the composition. -/
def composeLocked (layout : Json) (physicalBaseline : List Node) (clients : Clients) : List Node :=
  (composition layout physicalBaseline clients).nodes

end Vibeshine.RemoteDisplay
