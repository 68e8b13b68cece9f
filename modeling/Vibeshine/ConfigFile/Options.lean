import Vibeshine.Library.KeyedMap

/-! # Reading the configuration file

The file has one option a line, `name = value`; a `#` starts a comment, and a value that starts
with `[` runs to the bracket that closes it, over as many lines as that takes. A position of the
file is what remains of its text from there on.
-/

namespace Vibeshine.ConfigFile

open Library List

abbrev Text := List Char

variable (ch : Char)

def endline : Bool := ch = '\r' || ch = '\n'

def spaceTab : Bool := ch = ' ' || ch = '\t'

def whitespace : Bool := spaceTab ch || endline ch

def stripComments : Bool → Text → Text
  | _, [] => []
  | true, ch :: text => if endline ch then ch :: stripComments false text else stripComments true text
  | false, ch :: text => if ch = '#' then stripComments true text else ch :: stripComments false text

variable (text : Text)

/-- `to_string` of a range of the file. -/
def toText : Text := stripComments false text

/-- The text behind the bracket that closes the innermost `stack` open ones. -/
def skipList : Nat → Text → Text
  | 0, text => text
  | _ + 1, [] => []
  | stack + 1, ch :: text =>
    skipList (if ch = '[' then stack + 2 else if ch = ']' then stack else stack + 1) text

def parseOption : Text × Option (Text × Text) :=
  let start := text.dropWhile whitespace
  let line := start.takeWhile fun ch => !endline ch
  let endl := start.dropWhile fun ch => !endline ch
  let content := (line.takeWhile (· ≠ '#')).rdropWhile whitespace
  let beforeEq := content.takeWhile (· ≠ '=')
  if beforeEq = content ∨ beforeEq = [] then (endl, none)
  else
    let afterEq := beforeEq.length + 1
    let beginVal := afterEq + ((content.drop afterEq).takeWhile spaceTab).length
    let name := beforeEq.rdropWhile spaceTab
    if line.drop beginVal = [] then (endl, none)
    else
      match start.drop beginVal with
      | '[' :: list =>
        if list = [] then ([], none)
        else
          let behind := skipList 1 list
          (behind, some (toText name, toText ('[' :: list.take (list.length - behind.length))))
      | _ => (endl, some (toText name, toText (line.drop beginVal)))

def skipEnd : Text → Text
  | [] => []
  | ch :: text => if ch = '\r' then text.drop 1 else text

/-- `std::isalnum` in the C locale. -/
def asciiWord : Bool := ch.isAlphanum || ch = '_'

def normalizeConfigKey (key : Text) : Text := key.dropWhile fun ch => !asciiWord ch

def readOptions : Nat → Text → List (Text × Text)
  | 0, _ => []
  | fuel + 1, text =>
    if text = [] then []
    else
      let (endl, var) := parseOption text
      let following := readOptions fuel (skipEnd endl)
      match var with
      | none => following
      | some (name, value) =>
        let key := normalizeConfigKey name
        if key = [] then following else (key, value) :: following

def options : List (Text × Text) := readOptions (text.length + 1) text

def parseConfig (fileContent : Text) : KeyedMap Text Text :=
  (options fileContent).foldl (fun vars var => vars.emplace var.1 var.2) .empty

/-! ## Progress -/

lemma skipList_suffix (stack : Nat) (text : Text) : skipList stack text <:+ text := by
  induction text generalizing stack with
  | nil => cases stack <;> exact suffix_rfl
  | cons ch text ih =>
    cases stack with
    | zero => exact suffix_rfl
    | succ stack => exact (ih _).trans (suffix_cons _ _)

lemma parseOption_suffix : (parseOption text).1 <:+ text := by
  have hstart : text.dropWhile whitespace <:+ text := dropWhile_suffix _
  have hendl := (dropWhile_suffix (l := text.dropWhile whitespace) fun ch => !endline ch).trans
    hstart
  unfold parseOption
  dsimp only
  split_ifs
  · exact hendl
  · exact hendl
  · split
    next list heq =>
      have hlist : list <:+ text :=
        ((suffix_cons '[' list).trans (heq ▸ drop_suffix _ _)).trans hstart
      split
      · exact nil_suffix
      · exact (skipList_suffix 1 list).trans hlist
    next => exact hendl

lemma length_skipEnd {text : Text} (h : text ≠ []) : (skipEnd text).length < text.length := by
  cases text with
  | nil => exact absurd rfl h
  | cons ch text =>
    change (if ch = '\r' then text.drop 1 else text).length < text.length + 1
    split
    · exact Nat.lt_succ_of_le (drop_sublist 1 text).length_le
    · exact Nat.lt_succ_self _

lemma length_next {text : Text} (h : text ≠ []) :
    (skipEnd (parseOption text).1).length < text.length := by
  have hlength := (parseOption_suffix text).length_le
  by_cases hend : (parseOption text).1 = []
  · rw [hend]
    exact length_pos_iff.mpr h
  · exact (length_skipEnd hend).trans_le hlength

lemma readOptions_of_le {fuel fuel' : Nat} {text : Text} (hfuel : text.length < fuel)
    (hfuel' : text.length < fuel') : readOptions fuel text = readOptions fuel' text := by
  induction fuel generalizing fuel' text with
  | zero => exact absurd hfuel (Nat.not_lt_zero _)
  | succ fuel ih =>
    cases fuel' with
    | zero => exact absurd hfuel' (Nat.not_lt_zero _)
    | succ fuel' =>
      unfold readOptions
      split
      · rfl
      next hne =>
        have hnext := length_next hne
        have hsame := ih (hnext.trans_le (Nat.le_of_lt_succ hfuel))
          (hnext.trans_le (Nat.le_of_lt_succ hfuel'))
        dsimp only
        rw [hsame]

def addOption (var : Option (Text × Text)) (following : List (Text × Text)) : List (Text × Text) :=
  match var with
  | none => following
  | some (name, value) =>
    let key := normalizeConfigKey name
    if key = [] then following else (key, value) :: following

lemma options_of_ne {text : Text} (h : text ≠ []) :
    options text = addOption (parseOption text).2 (options (skipEnd (parseOption text).1)) := by
  have hrest : readOptions text.length (skipEnd (parseOption text).1) =
      options (skipEnd (parseOption text).1) :=
    readOptions_of_le (length_next h) (Nat.lt_succ_self _)
  unfold options
  rw [readOptions, if_neg h]
  unfold addOption
  dsimp only
  rw [hrest]
  rfl

end Vibeshine.ConfigFile
