import Mathlib.Data.List.Basic
import Mathlib.Tactic.Common

/-! # Scanning a text for delimiters

Scanners that search for the next delimiter, for a quoted key, and for the entries of an
object. A position of a text is what remains of the text from there on.
-/

namespace Vibeshine.Library.Scan

open List

variable {α : Type}

def seek (p : α → Bool) (text : List α) : List α :=
  text.dropWhile fun c => !p c

def cut (p : α → Bool) (text : List α) : Option (List α × List α) :=
  match seek p text with
  | [] => none
  | _ :: after => some (text.takeWhile fun c => !p c, after)

variable {p : α → Bool}

lemma length_seek_le (p : α → Bool) (text : List α) : (seek p text).length ≤ text.length :=
  (dropWhile_sublist _).length_le

lemma seek_append {before text : List α} (hbefore : ∀ c ∈ before, p c = false) :
    seek p (before ++ text) = seek p text :=
  dropWhile_append_of_pos fun c hc => by simp [hbefore c hc]

lemma seek_cons {c : α} (hc : p c) (text : List α) : seek p (c :: text) = c :: text := by
  simp [seek, hc]

lemma seek_cons_of_neg {c : α} (hc : p c = false) (text : List α) :
    seek p (c :: text) = seek p text := by
  simp [seek, hc]

lemma cut_append {before : List α} (hbefore : ∀ c ∈ before, p c = false) {c : α} (hc : p c)
    (after : List α) : cut p (before ++ c :: after) = some (before, after) := by
  have hseek : seek p (before ++ c :: after) = c :: after := by
    rw [seek_append hbefore, seek_cons hc]
  have htake : (before ++ c :: after).takeWhile (fun c => !p c) = before := by
    rw [takeWhile_append_of_pos fun c hc => by simp [hbefore c hc]]
    simp [hc]
  simp only [cut, hseek, htake]

lemma length_lt_of_cut {text before after : List α} (hcut : cut p text = some (before, after)) :
    after.length < text.length := by
  have hseek := length_seek_le p text
  simp only [cut] at hcut
  split at hcut
  · cases hcut
  · rename_i hfound
    cases hcut
    rw [hfound, length_cons] at hseek
    omega

/-! ## Searching for a key -/

section Search

variable [DecidableEq α]

def findText (pattern : List α) : List α → Option (List α)
  | [] => if pattern.isEmpty then some [] else none
  | c :: rest =>
    if pattern.isPrefixOf (c :: rest) then some (c :: rest) else findText pattern rest

def quoted (quote : α) (body : List α) : List α :=
  quote :: (body ++ [quote])

def Skips (pattern piece : List α) : Prop :=
  ∀ text, findText pattern (piece ++ text) = findText pattern text

variable {pattern piece piece' : List α}

lemma findText_append_self (hpattern : pattern ≠ []) (text : List α) :
    findText pattern (pattern ++ text) = some (pattern ++ text) := by
  have hstart : pattern.isPrefixOf (pattern ++ text) := by simp
  cases hcase : pattern ++ text with
  | nil => exact absurd (append_eq_nil_iff.1 hcase).1 hpattern
  | cons c rest =>
    rw [findText, ← hcase, if_pos hstart]

lemma Skips.nil (pattern : List α) : Skips pattern [] := fun _ => rfl

lemma Skips.append (hpiece : Skips pattern piece) (hpiece' : Skips pattern piece') :
    Skips pattern (piece ++ piece') := fun text => by
  rw [append_assoc, hpiece, hpiece']

lemma Skips.cons_of_ne {c d : α} (hne : d ≠ c) {rest : List α} :
    Skips (c :: rest) [d] := fun text => by
  have hstart : (c :: rest).isPrefixOf (d :: text) = false := by
    rw [isPrefixOf_cons_cons, beq_false_of_ne (Ne.symm hne), Bool.false_and]
  simp only [cons_append, nil_append, findText, hstart, Bool.false_eq_true, if_false]

lemma Skips.of_not_mem {c : α} {rest piece : List α} (hpiece : c ∉ piece) :
    Skips (c :: rest) piece := by
  induction piece with
  | nil => exact Skips.nil _
  | cons d piece ih =>
    simp only [mem_cons, not_or] at hpiece
    exact (Skips.cons_of_ne (Ne.symm hpiece.1)).append (ih hpiece.2)

lemma eq_of_prefix_quote {quote : α} : ∀ {key body text : List α}, quote ∉ key → quote ∉ body →
      (key ++ [quote]).isPrefixOf (body ++ quote :: text) → key = body
  | [], [], _, _, _, _ => rfl
  | [], d :: body, text, _, hbody, hstart => by
      simp only [nil_append, cons_append, isPrefixOf_cons_cons,
        Bool.and_eq_true, beq_iff_eq] at hstart
      exact absurd (hstart.1 ▸ mem_cons_self) hbody
  | c :: key, [], text, hkey, _, hstart => by
      simp only [nil_append, cons_append, isPrefixOf_cons_cons,
        Bool.and_eq_true, beq_iff_eq] at hstart
      exact absurd (hstart.1 ▸ mem_cons_self) hkey
  | c :: key, d :: body, text, hkey, hbody, hstart => by
      simp only [cons_append, isPrefixOf_cons_cons, Bool.and_eq_true, beq_iff_eq] at hstart
      simp only [mem_cons, not_or] at hkey hbody
      rw [hstart.1, eq_of_prefix_quote hkey.2 hbody.2 hstart.2]

lemma Skips.quoted {quote c : α} {key body : List α} (hkey : quote ∉ key)
    (hbody : quote ∉ body) (hne : body ≠ key) (hc : c ≠ quote) (hckey : c ∉ key) :
    Skips (quoted quote key) (Scan.quoted quote body ++ [c]) := by
  intro text
  have hopen : (Scan.quoted quote key).isPrefixOf (quote :: (body ++ quote :: c :: text)) =
      false := by
    rw [Bool.eq_false_iff]
    intro hstart
    simp only [Scan.quoted, isPrefixOf_cons_cons, beq_self_eq_true, Bool.true_and] at hstart
    exact hne (eq_of_prefix_quote hkey hbody hstart).symm
  have hclose : (Scan.quoted quote key).isPrefixOf (quote :: c :: text) = false := by
    rw [Bool.eq_false_iff]
    intro hstart
    simp only [Scan.quoted, isPrefixOf_cons_cons, beq_self_eq_true, Bool.true_and] at hstart
    cases key with
    | nil =>
      simp only [nil_append, isPrefixOf_cons_cons, Bool.and_eq_true, beq_iff_eq] at hstart
      exact hc hstart.1.symm
    | cons k key =>
      simp only [cons_append, isPrefixOf_cons_cons, Bool.and_eq_true, beq_iff_eq] at hstart
      exact hckey (hstart.1 ▸ mem_cons_self)
  have hbody' : Skips (Scan.quoted quote key) body := Skips.of_not_mem hbody
  have hc' : Skips (Scan.quoted quote key) [c] := Skips.cons_of_ne hc
  calc findText (Scan.quoted quote key) (Scan.quoted quote body ++ [c] ++ text)
      = findText (Scan.quoted quote key) (quote :: (body ++ quote :: c :: text)) := by
        simp [Scan.quoted]
    _ = findText (Scan.quoted quote key) (body ++ quote :: c :: text) := by
        rw [findText, if_neg (by simp [hopen])]
    _ = findText (Scan.quoted quote key) (quote :: c :: text) := hbody' _
    _ = findText (Scan.quoted quote key) (c :: text) := by
        rw [findText, if_neg (by simp [hclose])]
    _ = findText (Scan.quoted quote key) text := hc' text

lemma isPrefixOf_append_cons {c : α} (hc : c ∉ pattern) (before rest : List α) :
    pattern.isPrefixOf (before ++ c :: rest) = pattern.isPrefixOf before := by
  induction before generalizing pattern with
  | nil =>
    cases pattern with
    | nil => rfl
    | cons d pattern =>
      have hne : d ≠ c := fun h => hc (h ▸ mem_cons_self)
      simp [isPrefixOf_cons_cons, hne]
  | cons d before ih =>
    cases pattern with
    | nil => rfl
    | cons e pattern =>
      rw [cons_append, isPrefixOf_cons_cons, isPrefixOf_cons_cons,
        ih fun h => hc (mem_cons_of_mem _ h)]

/-- A pattern does not reach over a character that it does not have. -/
lemma findText_append_cons {c : α} (hpattern : pattern ≠ []) (hc : c ∉ pattern)
    (before rest : List α) : findText pattern (before ++ c :: rest) =
      ((findText pattern before).map (· ++ c :: rest)).or (findText pattern rest) := by
  have hempty : pattern.isEmpty = false := by simpa using hpattern
  induction before with
  | nil =>
    have hstart := isPrefixOf_append_cons hc [] rest
    have hnone : pattern.isPrefixOf ([] : List α) = false := by
      cases pattern with
      | nil => exact absurd rfl hpattern
      | cons d pattern => rfl
    rw [nil_append] at hstart ⊢
    simp [findText, hstart, hnone, hempty]
  | cons d before ih =>
    have hstart := isPrefixOf_append_cons hc (d :: before) rest
    rw [cons_append] at hstart ⊢
    rw [findText, findText, hstart, ih]
    split <;> rfl

end Search

/-! ## The entries of an object -/

/-- A reader takes a value from the front of a text, if it can, and leaves the rest. -/
structure Reader (α β : Type) where
  read : List α → Option (β × List α)
  shrinks : ∀ {text value rest}, read text = some (value, rest) → rest.length ≤ text.length

variable {β : Type} [DecidableEq α]

def delimiter (quote close c : α) : Bool :=
  c = quote || c = close

/-- The entries of an object from inside of it: a quoted key, and what the reader takes
after the key. It ends at the closing character, or where an entry cannot be read. -/
def scanEntries (quote close : α) (reader : Reader α β) (text : List α) : List (List α × β) :=
  match _hseek : seek (delimiter quote close) text with
  | [] => []
  | c :: opened =>
    if c = close then
      []
    else
      match _hcut : cut (· = quote) opened with
      | none => []
      | some (key, afterKey) =>
        match _hread : reader.read afterKey with
        | none => []
        | some (value, rest) => (key, value) :: scanEntries quote close reader rest
termination_by text.length
decreasing_by
  have hopened := length_seek_le (delimiter quote close) text
  rw [_hseek, length_cons] at hopened
  have hafter := length_lt_of_cut _hcut
  have hrest := reader.shrinks _hread
  omega

variable {quote close : α} {reader : Reader α β}

lemma scanEntries_eq (text : List α) : scanEntries quote close reader text =
      match seek (delimiter quote close) text with
      | [] => []
      | c :: opened =>
        if c = close then
          []
        else
          match cut (· = quote) opened with
          | none => []
          | some (key, afterKey) =>
            match reader.read afterKey with
            | none => []
            | some (value, rest) => (key, value) :: scanEntries quote close reader rest := by
  rw [scanEntries]
  split <;> rename_i hseek <;> simp only [hseek]
  split
  · rfl
  · split <;> rename_i hcut <;> simp only [hcut]
    split <;> rename_i hread <;> simp only [hread]

lemma scanEntries_congr {text text' : List α} (hseek : seek (delimiter quote close) text =
      seek (delimiter quote close) text') :
    scanEntries quote close reader text = scanEntries quote close reader text' := by
  rw [scanEntries_eq, scanEntries_eq, hseek]

lemma seek_pad {pad : List α} (hquote : quote ∉ pad) (hclose : close ∉ pad) (text : List α) :
    seek (delimiter quote close) (pad ++ text) = seek (delimiter quote close) text := by
  refine seek_append fun c hc => ?_
  have hcq : c ≠ quote := fun h => hquote (h ▸ hc)
  have hcc : c ≠ close := fun h => hclose (h ▸ hc)
  simp [delimiter, hcq, hcc]

lemma scanEntries_close {pad : List α} (hquote : quote ∉ pad) (hclose : close ∉ pad)
    (text : List α) : scanEntries quote close reader (pad ++ close :: text) = [] := by
  rw [scanEntries_eq, seek_pad hquote hclose, seek_cons (by simp [delimiter])]
  simp only [if_true]

lemma scanEntries_cons {pad key afterKey rest : List α} {value : β}
    (hquote : quote ∉ pad) (hclose : close ∉ pad) (hne : quote ≠ close) (hkey : quote ∉ key)
    (hread : reader.read afterKey = some (value, rest)) :
    scanEntries quote close reader (pad ++ (quoted quote key ++ afterKey)) =
      (key, value) :: scanEntries quote close reader rest := by
  have hopened : quoted quote key ++ afterKey = quote :: (key ++ quote :: afterKey) := by
    simp [quoted]
  have hcut : cut (fun c => decide (c = quote)) (key ++ quote :: afterKey) = some (key, afterKey) :=
    cut_append (fun c hc => by simpa using fun h : c = quote => hkey (h ▸ hc)) (by simp) _
  rw [scanEntries_eq, seek_pad hquote hclose, hopened, seek_cons (by simp [delimiter])]
  simp only [if_neg hne, hcut, hread]

lemma scanEntries_intercalate {ε : Type} {sep : α} {pad final : List α} {entries : List ε}
    {key body : ε → List α} {value : ε → β}
    (hne : quote ≠ close) (hsep : sep ≠ quote ∧ sep ≠ close)
    (hpad : quote ∉ pad ∧ close ∉ pad) (hfinal : quote ∉ final ∧ close ∉ final)
    (hkey : ∀ entry ∈ entries, quote ∉ key entry)
    (hread : ∀ entry ∈ entries, ∀ text,
      (∃ next, text = sep :: next) ∨ (∃ next, text = final ++ close :: next) →
      ∃ rest, reader.read (body entry ++ text) = some (value entry, rest) ∧
        seek (delimiter quote close) rest = seek (delimiter quote close) text)
    (text : List α) :
    scanEntries quote close reader
        ([sep].intercalate (entries.map fun entry =>
          pad ++ (quoted quote (key entry) ++ body entry)) ++ (final ++ close :: text)) =
      entries.map fun entry => (key entry, value entry) := by
  induction entries with
  | nil => exact scanEntries_close hfinal.1 hfinal.2 text
  | cons entry entries ih =>
    have hrest := ih (fun e he => hkey e (mem_cons_of_mem _ he))
      fun e he => hread e (mem_cons_of_mem _ he)
    have hkey' := hkey entry mem_cons_self
    cases entries with
    | nil =>
      obtain ⟨rest, htake, hseek⟩ := hread entry mem_cons_self
        (final ++ close :: text) (.inr ⟨text, rfl⟩)
      simp only [map_cons, map_nil, intercalate_singleton, append_assoc]
      rw [scanEntries_cons hpad.1 hpad.2 hne hkey' htake, scanEntries_congr hseek,
        scanEntries_close hfinal.1 hfinal.2]
    | cons next entries =>
      simp only [map_cons, intercalate_cons_cons, append_assoc] at hrest ⊢
      obtain ⟨rest, htake, hseek⟩ := hread entry mem_cons_self _ (.inl ⟨_, rfl⟩)
      have hskip : delimiter quote close sep = false := by
        simp [delimiter, hsep.1, hsep.2]
      rw [singleton_append, scanEntries_cons hpad.1 hpad.2 hne hkey' htake,
        scanEntries_congr (hseek.trans (seek_cons_of_neg hskip _)), hrest]

end Vibeshine.Library.Scan
