import Vibeshine.DisplayHelper.SnapshotFilter
import Vibeshine.Library.Json

/-! # The text of a display baseline

`serialize_snapshot` writes a baseline as JSON. `parse_snapshot_text` reads only the layout
rotations and the version with the JSON parser; everything else it finds with scanners that
search for quoted keys and delimiters, and that convert numbers with `std::stoul` and
`std::stoi`. The JSON parser is a parameter: nothing when the text is no JSON.
-/

namespace Vibeshine.DisplayHelper

open Library Library.Scan

abbrev Text := List Char

def quotedText (name : String) : Text :=
  quoted '"' name.toList

/-! ## Writing -/

/-- An object with a colon and a blank after every key, in one of the layouts of the text:
what stands before every member, and what stands before the end. -/
def objectText (pad final : String) (members : List (String × Text)) : Text :=
  '{' :: ([','].intercalate
    (members.map fun m => pad.toList ++ Json.member m.1 (' ' :: m.2)) ++ (final.toList ++ ['}']))

def deviceSection (members : List (String × Text)) : Text :=
  objectText "\n    " "\n  " members

def numberText (n : Int) : Text :=
  (toString n).toList

def topologyText (topology : ActiveTopology) : Text :=
  let groupText := fun group : List String =>
    '[' :: ([','].intercalate (group.map quotedText) ++ [']'])
  '[' :: ([','].intercalate (topology.map groupText) ++ [']'])

def modeText (mode : DisplayMode) : Text :=
  objectText " " " "
    [("w", numberText mode.resolution.width), ("h", numberText mode.resolution.height),
      ("num", numberText mode.refreshRate.numerator),
      ("den", numberText mode.refreshRate.denominator)]

def hdrText : Option HdrState → Text
  | none => "null".toList
  | some .enabled => quotedText "on"
  | some .disabled => quotedText "off"

def originText (origin : Point) : Text :=
  objectText " " " " [("x", numberText origin.x), ("y", numberText origin.y)]

def rotationText (rotation : Int) : Text :=
  objectText " " " " [("rotation", numberText rotation)]

def kSnapshotLayoutVersionLatest : Int := 2

def serializeSnapshot (snap : Snapshot) (layoutRotations : LayoutRotationMap) : Text :=
  objectText "\n  " "\n"
    [("snapshot_version", numberText kSnapshotLayoutVersionLatest),
      ("topology", topologyText snap.topology),
      ("modes", deviceSection (snap.modes.map fun kv => (kv.1, modeText kv.2))),
      ("hdr", deviceSection (snap.hdrStates.map fun kh => (kh.1, hdrText kh.2))),
      ("primary", quotedText snap.primaryDevice),
      ("origins", deviceSection (snap.origins.map fun ko => (ko.1, originText ko.2))),
      ("layouts", deviceSection (layoutRotations.map fun kl => (kl.1, rotationText kl.2)))]

def findStrSection (data : Text) (key : String) : Text :=
  match findText (quotedText key) data with
  | none => []
  | some found => (seek (· = ':') found).tail

/-- The exceptions of `std::stoul` and `std::stoi`. -/
inductive ConversionError where
  | invalidArgument | outOfRange
  deriving DecidableEq

variable (text : Text)

/-- The sign and the digits with which a text begins, blanks aside, as the C library
reads them; nothing when there is no digit. -/
def leadingNumber : Option (Bool × Nat) :=
  let start := text.dropWhile isSpace
  let negative := start.head? = some '-'
  let unsigned := if negative || start.head? = some '+' then start.tail else start
  let digits := unsigned.takeWhile Char.isDigit
  if digits.isEmpty then none else some (negative, Nat.ofDigitChars 10 digits 0)

/-- `std::stoul`, where `unsigned long` has the 32 bits of Windows. -/
def stoul : Except ConversionError Nat :=
  match leadingNumber text with
  | none => .error .invalidArgument
  | some (negative, magnitude) =>
    if 2 ^ 32 ≤ magnitude then .error .outOfRange
    else .ok (if negative then (2 ^ 32 - magnitude) % 2 ^ 32 else magnitude)

variable (obj : Text)

def fieldNumber (key : String) : Option Text :=
  match findText (quotedText key) obj with
  | none => none
  | some found =>
    match seek (· = ':') found with
    | [] => none
    | _ :: number => some number

def parseNumField (key : String) : Except ConversionError Nat :=
  match fieldNumber obj key with
  | none => .ok 0
  | some number => stoul number

/-! ## Reading: the fields -/

def readGroup (text : Text) : List String × Text :=
  match _hseek : seek (delimiter '"' ']') text with
  | [] => ([], [])
  | c :: opened =>
    if c = ']' then
      ([], c :: opened)
    else
      match _hcut : cut (· = '"') opened with
      | none => ([], c :: opened)
      | some (id, rest) => (String.ofList id :: (readGroup rest).1, (readGroup rest).2)
termination_by text.length
decreasing_by
  all_goals
    have hopened := length_seek_le (delimiter '"' ']') text
    rw [_hseek, List.length_cons] at hopened
    have hrest := length_lt_of_cut _hcut
    omega

lemma readGroup_eq : readGroup text = match seek (delimiter '"' ']') text with
      | [] => ([], [])
      | c :: opened =>
        if c = ']' then
          ([], c :: opened) else
          match cut (· = '"') opened with
          | none => ([], c :: opened)
          | some (id, rest) => (String.ofList id :: (readGroup rest).1, (readGroup rest).2) := by
  rw [readGroup]
  split <;> rename_i hseek <;> simp only [hseek]
  split
  · rfl
  · split <;> rename_i hcut <;> simp only [hcut]

lemma length_readGroup_le : (readGroup text).2.length ≤ text.length := by
  induction hlength : text.length using Nat.strongRecOn generalizing text with
  | ind length ih =>
    have hopened := length_seek_le (delimiter '"' ']') text
    rw [readGroup_eq]
    split
    · simp
    · rename_i hseek
      rw [hseek, List.length_cons] at hopened
      split
      · simp only [List.length_cons]
        omega
      · split
        · simp only [List.length_cons]
          omega
        · rename_i id rest hcut
          have hrest := length_lt_of_cut hcut
          have hgroup := ih rest.length (by omega) rest rfl
          dsimp only
          omega

def readGroups (text : Text) : ActiveTopology :=
  match _hseek : seek (delimiter '[' ']') text with
  | [] => []
  | c :: opened =>
    if c = ']' then
      []
    else
      (readGroup opened).1 :: readGroups (seek (· = ']') (readGroup opened).2).tail
termination_by text.length
decreasing_by
  have hopened := length_seek_le (delimiter '[' ']') text
  rw [_hseek, List.length_cons] at hopened
  have hgroup := length_readGroup_le opened
  have hafter := length_seek_le (· = ']') (readGroup opened).2
  rw [List.length_tail]
  omega

def parseTopologyField (topo : Text) : ActiveTopology :=
  match seek (· = '[') topo with
  | [] => []
  | _ :: opened => readGroups opened

def objectReader : Reader Char Text where
  read text := cut (· = '}') (seek (· = '{') text)
  shrinks := by
    intro text value rest hcut
    have hrest := length_lt_of_cut hcut
    have hopened := length_seek_le (· = '{') text
    omega

/-- The loop that the fields of a map share: the entries of the first object, converted
one by one, each inserted unless its key is there. -/
def parseEntries {β γ : Type} (reader : Reader Char β)
    (convert : β → Except ConversionError γ) (sectionText : Text) :
    Except ConversionError (List (String × γ)) :=
  match seek (· = '{') sectionText with
  | [] => .ok []
  | _ :: opened => do
      let entries ← (scanEntries '"' '}' reader opened).mapM fun entry => do
        return (String.ofList entry.1, ← convert entry.2)
      return KeyMap.emplaceAll entries

def parseMode : Except ConversionError DisplayMode := do
  let width ← parseNumField obj "w"
  let height ← parseNumField obj "h"
  let numerator ← parseNumField obj "num"
  let denominator ← parseNumField obj "den"
  return ⟨⟨width, height⟩, ⟨numerator, denominator⟩⟩

def parseModesField : Text → Except ConversionError (List (String × DisplayMode)) :=
  parseEntries objectReader parseMode

/-! ## Reading: the snapshot -/

def snapshotTextHasRestorePayload (data : Text) : Bool :=
  let topology := parseTopologyField (findStrSection data "topology")
  match parseModesField (findStrSection data "modes") with
  | .error _ => false
  | .ok modes => !topology.isEmpty && !modes.isEmpty

end Vibeshine.DisplayHelper
