import Vibeshine.ConfigFile.Reading

/-! # Patching the configuration file

A patch is merged into the options of the file, and all of them are written back, each value as
it is. A value is read back as it was written if it has no comment sign and, where it is a list,
closes its first bracket at its end.
-/

namespace Vibeshine.ConfigFile

open Library List

inductive PatchValue where
  | null
  | text (value : Text)
  | json (dump : Text)
  deriving DecidableEq

namespace PatchValue

def written : PatchValue → Option Text
  | .null => none
  | .text value => if value = [] then none else some value
  | .json dump => some dump

end PatchValue

/-- A patch of the web interface: the keys are words, and no value has a line break. -/
structure Patch where
  values : KeyedMap Text PatchValue
  words : ∀ entry ∈ values.entries, entry.1 ≠ [] ∧ ∀ ch ∈ entry.1, asciiWord ch = true
  oneLine : ∀ entry ∈ values.entries, ∀ text, entry.2.written = some text →
    ∀ ch ∈ text, endline ch = false

def merge (current : KeyedMap Text Text) (patch : Patch) : KeyedMap Text Text :=
  patch.values.entries.foldl (fun current entry =>
    match entry.2.written with
    | none => current.erase entry.1
    | some text => current.assign entry.1 text) current

def writeOption (entry : Text × Text) : Text := heading entry.1 ++ ' ' :: (entry.2 ++ ['\n'])

def render (entries : List (Text × Text)) : Text := entries.flatMap writeOption

/-- The options that `saveConfig` writes, in their order. -/
def savedOptions (patch : Patch) : List (Text × Text) :=
  patch.values.entries.filterMap fun entry => entry.2.written.map fun text => (entry.1, text)

/-! ## Values that survive -/

/-- What stands behind the bracket that closes the innermost `stack` open ones, if any does. -/
def closing : Nat → Text → Option Text
  | 0, text => some text
  | _ + 1, [] => none
  | stack + 1, ch :: text =>
    closing (if ch = '[' then stack + 2 else if ch = ']' then stack else stack + 1) text

variable (exact : Bool) (value : Text)

def Survives : Prop :=
  match value.dropWhile spaceTab with
  | [] => exact = false
  | '[' :: list =>
    '#' ∉ value ∧ ∃ behind, closing 1 list = some behind ∧ (∀ ch ∈ behind, spaceTab ch = true) ∧
      (exact = true → behind = [])
  | _ => '#' ∉ value

def trim (text : Text) : Text := (text.dropWhile spaceTab).rdropWhile spaceTab

def stored : Text :=
  match value.dropWhile spaceTab with
  | [] => ' ' :: value
  | '[' :: list =>
    match closing 1 list with
    | some behind => '[' :: list.take (list.length - behind.length)
    | none => '[' :: list
  | shown => shown

def Agrees (value result : Text) : Prop :=
  if exact then result = value else trim result = trim value

/-- The values that the reader gives. -/
structure FileValue (value : Text) : Prop where
  plain : '#' ∉ value
  shape : (∃ list, value = '[' :: list) ∨ (∀ ch ∈ value, endline ch = false) ∧
    ((∀ ch ∈ value, spaceTab ch = true) ∨ ∃ ch rest, value = ch :: rest ∧ whitespace ch = false)

def Formed : Prop :=
  if exact then FileValue value else ∀ ch ∈ value, endline ch = false

/-! ### Brackets and blanks -/

variable {stack : Nat}

lemma closing_suffix {text behind : Text} (h : closing stack text = some behind) :
    behind <:+ text := by
  induction text generalizing stack with
  | nil =>
    cases stack with
    | zero => exact Option.some.inj h ▸ suffix_rfl
    | succ stack => exact absurd h nofun
  | cons ch text ih =>
    cases stack with
    | zero => exact Option.some.inj h ▸ suffix_rfl
    | succ stack => exact (ih h).trans (suffix_cons _ _)

lemma skipList_of_closing {text behind : Text}
    (h : closing stack text = some behind) (rest : Text) :
    skipList stack (text ++ rest) = behind ++ rest := by
  induction text generalizing stack with
  | nil =>
    cases stack with
    | zero => exact Option.some.inj h ▸ by cases rest <;> rfl
    | succ stack => exact absurd h nofun
  | cons ch text ih =>
    cases stack with
    | zero => exact Option.some.inj h ▸ rfl
    | succ stack => exact ih h

variable {text : Text}

lemma skipList_of_open (h : closing stack text = none)
    (rest : Text) : skipList stack (text ++ '\n' :: rest) <:+ rest := by
  induction text generalizing stack with
  | nil =>
    cases stack with
    | zero => exact absurd h nofun
    | succ stack =>
      rw [nil_append, skipList]
      exact skipList_suffix _ _
  | cons ch text ih =>
    cases stack with
    | zero => exact absurd h nofun
    | succ stack => exact ih h

lemma dropWhile_blank {blanks : Text} (h : ∀ ch ∈ blanks, spaceTab ch = true) (text : Text) :
    (blanks ++ text).dropWhile spaceTab = text.dropWhile spaceTab :=
  dropWhile_append_of_pos h

lemma mem_of_mem_trim {ch : Char} (h : ch ∈ trim text) : ch ∈ text :=
  (dropWhile_sublist _).subset ((List.rdropWhile_prefix _ _).subset h)

lemma mem_trim {ch : Char} (h : ch ∈ text) (hch : spaceTab ch = false) : ch ∈ trim text := by
  obtain ⟨before, after, rfl⟩ := append_of_mem h
  have hdrop : ∃ before', (before ++ ch :: after).dropWhile spaceTab = before' ++ ch :: after := by
    induction before with
    | nil => exact ⟨[], by rw [nil_append, dropWhile_cons_of_neg (by simp [hch])]⟩
    | cons first before ih =>
      rw [cons_append, dropWhile_cons]
      split
      · exact ih (by simp)
      · exact ⟨first :: before, rfl⟩
  obtain ⟨before', hbefore⟩ := hdrop
  rw [trim, hbefore, rdropWhile_append_cons hch, rdropWhile_cons hch]
  simp

lemma options_blank {blanks : Text} (h : ∀ ch ∈ blanks, whitespace ch = true) (text : Text) :
    options (blanks ++ text) = options text := by
  have hparse : parseOption (blanks ++ text) = parseOption text := by
    unfold parseOption
    rw [dropWhile_append_of_pos h]
  by_cases hnil : blanks ++ text = []
  · rw [hnil, (append_eq_nil_iff.mp hnil).2]
  · rw [options_of_ne hnil, hparse]
    by_cases htext : text = []
    · rw [htext]
      rfl
    · rw [options_of_ne htext]

end Vibeshine.ConfigFile
