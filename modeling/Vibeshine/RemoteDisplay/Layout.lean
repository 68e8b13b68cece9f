import Mathlib

/-! # Saved client layouts

The persisted layout of `remote_display_topology`: its schema check, the
normalization that drops stale fallback markers, and the validation of anchors,
primary displays, and anchor cycles. A layout is a JSON value; objects list their
members in key order.
-/

namespace Vibeshine.RemoteDisplay

inductive Json where
  | null
  | bool (value : Bool)
  | integer (value : Int)
  | float
  | string (value : String)
  | array (items : List Json)
  | object (members : List (String × Json))

variable (json : Json) (key : String)

namespace Json

def members : Json → List (String × Json)
  | .object members => members
  | _ => []

/-- `find` on an object. -/
def member? : Option Json := json.members.lookup key

def isObject : Json → Bool
  | .object _ => true
  | _ => false

def isString : Json → Bool
  | .string _ => true
  | _ => false

def isBoolean : Json → Bool
  | .bool _ => true
  | _ => false

def isNumberInteger : Json → Bool
  | .integer _ => true
  | _ => false

/-- `get<int>()` narrows a 64-bit number to 32 bits. -/
def getInt : Json → Int
  | .integer value => value.bmod (2 ^ 32)
  | _ => 0

/-- `value(key, false)`; the schema admits no other type under the key. -/
def flag : Bool :=
  match json.member? key with
  | some (.bool value) => value
  | _ => false

/-- `value(key, default)` of a text field. -/
def text (default : String := "") : String :=
  match json.member? key with
  | some (.string value) => value
  | _ => default

/-- `value(key, 0)` of a number field. -/
def number : Int :=
  match json.member? key with
  | some value => value.getInt
  | none => 0

/-- `erase(key)` on an object. -/
def erase : Json :=
  match json with
  | .object members => .object (members.filter fun member => member.1 != key)
  | other => other

end Json

def layoutVersion : Int := 1

def maxGapPx : Int := 100000

def emptyLayout : Json := .object [("placements", .object []), ("version", .integer layoutVersion)]

/-- The fallback that replaces a deleted anchor; older versions read it as a
preserved placement. -/
def isAutomaticFallback (placement : Json) : Bool :=
  placement.flag "automatic_fallback" && placement.flag "preserve" &&
    placement.text "anchor_kind" == "physical" && (placement.text "anchor_id").isEmpty

def Json.has (expected : Json → Bool) : Bool :=
  (json.member? key).any expected

def Json.admitsBoolean : Bool :=
  (json.member? key).all Json.isBoolean

/-- The error `layout_schema_valid` reports for one placement. -/
def placementSchemaError (client : String) (placement : Json) : Option String :=
  if client.isEmpty || !placement.isObject || !placement.has "anchor_kind" Json.isString ||
      !placement.has "anchor_id" Json.isString || !placement.has "edge" Json.isString ||
      !placement.has "alignment" Json.isString || !placement.has "gap_px" Json.isNumberInteger then
    some "Every layout placement must use the expected field types."
  else if !placement.admitsBoolean "primary" then
    some "Placement primary must be a boolean."
  else if !placement.admitsBoolean "preserve" then
    some "Placement preserve must be a boolean."
  else if !placement.admitsBoolean "automatic_fallback" then
    some "Placement automatic_fallback must be a boolean."
  else if !(["physical", "client"].contains (placement.text "anchor_kind")) ||
      (!placement.flag "preserve" && (placement.text "anchor_id").isEmpty) ||
      !(["left", "right", "above", "below"].contains (placement.text "edge")) ||
      !(["start", "center", "end"].contains (placement.text "alignment")) ||
      placement.number "gap_px" < 0 || maxGapPx < placement.number "gap_px" then
    some "Placement has an unsupported anchor, edge, alignment, or gap."
  else none

variable (layout : Json)

def placementsOf : List (String × Json) :=
  ((layout.member? "placements").getD .null).members

/-- `layout_schema_valid`, with the error it reports. -/
def layoutSchemaError : Option String :=
  if !layout.isObject || !layout.has "version" Json.isNumberInteger ||
      layout.number "version" != layoutVersion || !layout.has "placements" Json.isObject then
    some "Layout must be version 1 with an object of placements."
  else (placementsOf layout).findSome? fun member => placementSchemaError member.1 member.2

def layoutSchemaValid : Bool := (layoutSchemaError layout).isNone

/-- An older editor can retain the unknown marker while changing the rule; it must
not override a subsequently chosen anchor. -/
def normalizePlacement (placement : Json) : Json :=
  if placement.flag "automatic_fallback" && !isAutomaticFallback placement then
    placement.erase "automatic_fallback"
  else placement

def mapPlacements (f : Json → Json) : Json → Json
  | .object members => .object (members.map fun member =>
    if member.1 = "placements" then
      (member.1, .object (member.2.members.map fun placement => (placement.1, f placement.2)))
    else member)
  | other => other

def normalizeLayout : Json :=
  if layoutSchemaValid layout then mapPlacements normalizePlacement layout else emptyLayout

/-! ## Validation -/

/-- What the loop over the placements collects. -/
structure Anchors where
  primaryCount : Nat := 0
  clientAnchors : List (String × String) := []

/-- One placement of `validate_layout`. -/
def Anchors.scan (knownClients knownPhysicalIds : List String) (anchors : Anchors)
    (member : String × Json) : Except String Anchors :=
  let (client, placement) := member
  if !knownClients.contains client || !placement.isObject then
    .error "Every placement must name a paired client."
  else if placement.flag "preserve" && !isAutomaticFallback placement then .ok anchors
  else
    let primary := placement.flag "primary"
    let anchors := if primary then { anchors with primaryCount := anchors.primaryCount + 1 }
      else anchors
    if primary && 1 < anchors.primaryCount then
      .error "Only one client display may be primary."
    else if isAutomaticFallback placement then .ok anchors
    else
      let anchorId := placement.text "anchor_id"
      if placement.text "anchor_kind" == "client" then
        if !knownClients.contains anchorId || anchorId == client then
          .error "A client placement cannot anchor to itself or an unknown client."
        else if (anchors.clientAnchors.lookup client).isSome then .ok anchors
        else .ok { anchors with clientAnchors := anchors.clientAnchors ++ [(client, anchorId)] }
      else if !knownPhysicalIds.contains anchorId then
        .error "A physical placement must anchor to a currently known monitor device path."
      else .ok anchors

/-- The walk along client anchors comes back to a visited client. It visits every
anchored client at most once, so that the fuel is never spent. -/
def anchorCycle (clientAnchors : List (String × String)) : Nat → List String → String → Bool
  | 0, _, _ => true
  | fuel + 1, visited, current =>
    match clientAnchors.lookup current with
    | none => false
    | some next =>
      if visited.contains current then true
      else anchorCycle clientAnchors fuel (current :: visited) next

def validateLayout (knownClients knownPhysicalIds : List String) : Except String Unit := do
  if let some error := layoutSchemaError layout then throw error
  let anchors ← (placementsOf layout).foldlM (Anchors.scan knownClients knownPhysicalIds) {}
  if anchors.clientAnchors.any fun anchor =>
      anchorCycle anchors.clientAnchors (anchors.clientAnchors.length + 1) [] anchor.1 then
    throw "Client placements must not contain an anchor cycle."

end Vibeshine.RemoteDisplay
