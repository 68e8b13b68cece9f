import Vibeshine.Library.Scan
import Mathlib

/-! # JSON texts

A reader for a part of JSON, by which assumptions on a JSON parser are stated: strings of
printable ASCII characters without escapes, integers that fit 64 bits, null, arrays, and
objects. An object is a map in key order.
-/

namespace Vibeshine.Library

open List

/-! ## Maps in key order -/

namespace KeyMap

variable {κ β : Type} [LinearOrder κ]

def Ordered (map : List (κ × β)) : Prop :=
  map.Pairwise fun entry later => entry.1 < later.1

def assign (key : κ) (value : β) : List (κ × β) → List (κ × β)
  | [] => [(key, value)]
  | entry :: rest =>
    if key < entry.1 then (key, value) :: entry :: rest
    else if key = entry.1 then (key, value) :: rest
    else entry :: assign key value rest

def emplace (key : κ) (value : β) (map : List (κ × β)) : List (κ × β) :=
  if map.any fun entry => entry.1 = key then map else assign key value map

def assignAll (entries : List (κ × β)) : List (κ × β) :=
  entries.foldl (fun map entry => assign entry.1 entry.2 map) []

def emplaceAll (entries : List (κ × β)) : List (κ × β) :=
  entries.foldl (fun map entry => emplace entry.1 entry.2 map) []

lemma assign_nil (key : κ) (value : β) : assign key value [] = [(key, value)] := rfl

lemma assign_cons (key : κ) (value : β) (entry : κ × β) (rest : List (κ × β)) :
    assign key value (entry :: rest) =
      if key < entry.1 then (key, value) :: entry :: rest
      else if key = entry.1 then (key, value) :: rest
      else entry :: assign key value rest := rfl

lemma assign_last {key : κ} {value : β} {map : List (κ × β)}
    (hlast : ∀ entry ∈ map, entry.1 < key) : assign key value map = map ++ [(key, value)] := by
  induction map with
  | nil => rfl
  | cons entry rest ih =>
    have hentry := hlast entry mem_cons_self
    rw [assign_cons, if_neg (not_lt.2 hentry.le), if_neg hentry.ne',
      ih fun e he => hlast e (mem_cons_of_mem _ he), cons_append]

lemma emplace_last {key : κ} {value : β} {map : List (κ × β)}
    (hlast : ∀ entry ∈ map, entry.1 < key) : emplace key value map = map ++ [(key, value)] := by
  have hnew : map.any (fun entry => entry.1 = key) = false := by
    simpa using fun a b hentry => (hlast (a, b) hentry).ne
  simp only [emplace, hnew, Bool.false_eq_true, if_false, assign_last hlast]

lemma mem_assign {key : κ} {value : β} {map : List (κ × β)} {entry : κ × β}
    (h : entry ∈ assign key value map) : entry = (key, value) ∨ entry ∈ map := by
  induction map with
  | nil => exact .inl (by simpa [assign_nil] using h)
  | cons first rest ih =>
    rw [assign_cons] at h
    split at h
    · simpa using h
    split at h
    · obtain rfl | hrest := mem_cons.1 h
      · exact .inl rfl
      · exact .inr (mem_cons_of_mem _ hrest)
    · obtain rfl | hrest := mem_cons.1 h
      · exact .inr mem_cons_self
      · exact (ih hrest).imp_right (mem_cons_of_mem _)

lemma assign_ordered {key : κ} {value : β} {map : List (κ × β)} (h : Ordered map) :
    Ordered (assign key value map) := by
  induction map with
  | nil => exact pairwise_singleton _ _
  | cons first rest ih =>
    obtain ⟨hfirst, hrest⟩ := pairwise_cons.1 h
    rw [assign_cons]
    split
    · rename_i hlt
      refine pairwise_cons.2 ⟨fun entry hentry => ?_, h⟩
      obtain rfl | hentry := mem_cons.1 hentry
      · exact hlt
      · exact hlt.trans (hfirst entry hentry)
    split
    · rename_i heq
      refine pairwise_cons.2 ⟨fun entry hentry => ?_, hrest⟩
      exact heq ▸ hfirst entry hentry
    · rename_i hlt hne
      refine pairwise_cons.2 ⟨fun entry hentry => ?_, ih hrest⟩
      obtain rfl | hentry := mem_assign hentry
      · exact lt_of_le_of_ne (not_lt.1 hlt) (Ne.symm hne)
      · exact hfirst entry hentry

lemma mem_assign_ne {key : κ} {value : β} {map : List (κ × β)} (hordered : Ordered map)
    {entry : κ × β} (h : entry ∈ assign key value map) (hentry : entry ≠ (key, value)) :
    entry ∈ map ∧ entry.1 ≠ key := by
  induction map with
  | nil => exact absurd (by simpa [assign_nil] using h) hentry
  | cons first rest ih =>
    obtain ⟨hfirst, hrest⟩ := pairwise_cons.1 hordered
    rw [assign_cons] at h
    split at h
    · rename_i hlt
      have hmem : entry ∈ first :: rest := (mem_cons.1 h).resolve_left hentry
      refine ⟨hmem, ?_⟩
      obtain rfl | hlater := mem_cons.1 hmem
      · exact hlt.ne'
      · exact (hlt.trans (hfirst entry hlater)).ne'
    split at h
    · rename_i heq
      have hmem : entry ∈ rest := (mem_cons.1 h).resolve_left hentry
      exact ⟨mem_cons_of_mem _ hmem, heq ▸ (hfirst entry hmem).ne'⟩
    · rename_i hne
      obtain rfl | hlater := mem_cons.1 h
      · exact ⟨mem_cons_self, Ne.symm hne⟩
      · exact (ih hrest hlater).imp_left (mem_cons_of_mem _)

lemma mem_emplace {key : κ} {value : β} {map : List (κ × β)} {entry : κ × β}
    (h : entry ∈ emplace key value map) : entry = (key, value) ∨ entry ∈ map := by
  unfold emplace at h
  split at h
  · exact .inr h
  · exact mem_assign h

lemma emplace_ordered {key : κ} {value : β} {map : List (κ × β)} (h : Ordered map) :
    Ordered (emplace key value map) := by
  unfold emplace
  split
  · exact h
  · exact assign_ordered h

omit [LinearOrder κ] in
lemma foldl_inserts {insert : κ → β → List (κ × β) → List (κ × β)}
    (good : List (κ × β) → Prop) {entries : List (κ × β)}
    (hinsert : ∀ entry ∈ entries, ∀ map, good map → good (insert entry.1 entry.2 map))
    {map : List (κ × β)} (hmap : good map) :
    good (entries.foldl (fun map entry => insert entry.1 entry.2 map) map) := by
  induction entries generalizing map with
  | nil => exact hmap
  | cons entry entries ih =>
    exact ih (fun e he => hinsert e (mem_cons_of_mem _ he))
      (hinsert entry mem_cons_self map hmap)

lemma ordered_assignAll (entries : List (κ × β)) : Ordered (assignAll entries) :=
  foldl_inserts Ordered (fun _ _ _ => assign_ordered) List.Pairwise.nil

lemma mem_assignAll {entries : List (κ × β)} {entry : κ × β} (h : entry ∈ assignAll entries) :
    ∃ before after, entries = before ++ entry :: after ∧ ∀ later ∈ after, later.1 ≠ entry.1 := by
  induction entries using List.reverseRecOn with
  | nil => simp [assignAll] at h
  | append_singleton entries last ih =>
    rw [assignAll, foldl_append] at h
    by_cases hlast : entry = last
    · exact ⟨entries, [], by rw [hlast], by simp⟩
    · obtain ⟨hmem, hne⟩ := mem_assign_ne (ordered_assignAll entries) h hlast
      obtain ⟨before, after, rfl, hafter⟩ := ih hmem
      refine ⟨before, after ++ [last], by simp, fun later hlater => ?_⟩
      obtain hlater | hlater := mem_append.1 hlater
      · exact hafter later hlater
      · rw [mem_singleton.1 hlater]
        exact Ne.symm hne

lemma ordered_emplaceAll (entries : List (κ × β)) : Ordered (emplaceAll entries) :=
  foldl_inserts Ordered (fun _ _ _ => emplace_ordered) List.Pairwise.nil

lemma mem_emplaceAll {entries : List (κ × β)} : ∀ entry ∈ emplaceAll entries, entry ∈ entries :=
  foldl_inserts (fun map => ∀ entry ∈ map, entry ∈ entries)
    (fun _ hentry _ hmap _ h => (mem_emplace h).elim (· ▸ hentry) (hmap _)) (by simp)

lemma foldl_ordered {insert : κ → β → List (κ × β) → List (κ × β)}
    (hinsert : ∀ {key value map}, (∀ entry ∈ map, entry.1 < key) →
      insert key value map = map ++ [(key, value)])
    {entries map : List (κ × β)} (hordered : Ordered (map ++ entries)) :
    entries.foldl (fun map entry => insert entry.1 entry.2 map) map = map ++ entries := by
  induction entries generalizing map with
  | nil => simp
  | cons entry entries ih =>
    have hlast : ∀ earlier ∈ map, earlier.1 < entry.1 := fun earlier hearlier =>
      (pairwise_append.1 hordered).2.2 earlier hearlier entry mem_cons_self
    rw [foldl_cons, hinsert hlast, ih (by simpa using hordered), append_assoc, singleton_append]

lemma emplaceAll_ordered {entries : List (κ × β)} (hordered : Ordered entries) :
    emplaceAll entries = entries :=
  foldl_ordered emplace_last hordered

/-! ### Looking up and erasing -/

def get? (key : κ) (map : List (κ × β)) : Option β := (map.find? (·.1 = key)).map (·.2)

def erase (key : κ) (map : List (κ × β)) : List (κ × β) := map.filter (·.1 ≠ key)

variable {key other : κ} {value : β} {map : List (κ × β)}

@[simp] lemma get?_nil : get? key ([] : List (κ × β)) = none := rfl

lemma get?_cons (entry : κ × β) :
    get? key (entry :: map) = if entry.1 = key then some entry.2 else get? key map := by
  by_cases h : entry.1 = key <;> simp [get?, h]

lemma get?_assign :
    get? other (assign key value map) = if other = key then some value else get? other map := by
  induction map with
  | nil => simp [assign_nil, get?_cons, eq_comm]
  | cons entry rest ih =>
    rw [assign_cons]
    split
    · simp [get?_cons, eq_comm]
    split
    · rename_i heq
      simp only [get?_cons, ← heq, eq_comm]
      split <;> rfl
    · rename_i hne
      rw [get?_cons, ih, get?_cons]
      split
      · rename_i hentry
        rw [if_neg fun h => hne (h.symm.trans hentry.symm)]
      · rfl

lemma get?_erase : get? other (erase key map) = if other = key then none else get? other map := by
  induction map with
  | nil => simp [erase]
  | cons entry rest ih =>
    by_cases h : entry.1 = key
    · have herase : erase key (entry :: rest) = erase key rest := by simp [erase, h]
      rw [herase, ih, get?_cons, h]
      split
      · rfl
      · rename_i hne
        rw [if_neg (Ne.symm hne)]
    · have herase : erase key (entry :: rest) = entry :: erase key rest := by simp [erase, h]
      rw [herase, get?_cons, get?_cons, ih]
      split
      · rename_i hentry
        rw [if_neg (hentry ▸ h)]
      · rfl

lemma mem_of_get? (h : get? key map = some value) : (key, value) ∈ map := by
  obtain ⟨entry, hfind, rfl⟩ := Option.map_eq_some_iff.1 h
  have hkey := find?_some hfind
  simp only [decide_eq_true_eq] at hkey
  exact hkey ▸ mem_of_find?_eq_some hfind

lemma get?_of_mem (hordered : Ordered map) (h : (key, value) ∈ map) :
    get? key map = some value := by
  induction map with
  | nil => simp at h
  | cons entry rest ih =>
    obtain ⟨hfirst, hrest⟩ := pairwise_cons.1 hordered
    rw [get?_cons]
    obtain rfl | hmem := mem_cons.1 h
    · exact if_pos rfl
    · rw [if_neg (hfirst _ hmem).ne, ih hrest hmem]

lemma any_key : (map.any fun entry => entry.1 = key) = (get? key map).isSome := by
  induction map with
  | nil => rfl
  | cons entry rest ih =>
    rw [any_cons, ih, get?_cons]
    by_cases h : entry.1 = key <;> simp [h]

lemma get?_emplace : get? other (emplace key value map) =
      if other = key then (get? key map).or (some value) else get? other map := by
  unfold emplace
  rw [any_key]
  split
  · rename_i hthere
    obtain ⟨found, hfound⟩ := Option.isSome_iff_exists.1 hthere
    split
    · rename_i hkey
      rw [hkey, hfound, Option.some_or]
    · rfl
  · rename_i hmissing
    rw [get?_assign, Option.not_isSome_iff_eq_none.1 hmissing, Option.none_or]

lemma Ordered.ext {map' : List (κ × β)} (h : Ordered map) (h' : Ordered map')
    (hget : ∀ key, get? key map = get? key map') : map = map' := by
  have hmem : ∀ entry, entry ∈ map ↔ entry ∈ map' := by
    intro entry
    constructor
    · intro hentry
      exact mem_of_get? ((hget entry.1).symm.trans (get?_of_mem h hentry))
    · intro hentry
      exact mem_of_get? ((hget entry.1).trans (get?_of_mem h' hentry))
  have hnodup : ∀ {entries : List (κ × β)}, Ordered entries → entries.Nodup := by
    intro entries hentries
    exact hentries.imp fun hlt heq => hlt.ne (congrArg Prod.fst heq)
  have hanti : ∀ entry later, entry ∈ map → later ∈ map' → entry.1 < later.1 → later.1 < entry.1 →
      entry = later := by
    intro entry later _ _ hlt hgt
    exact absurd (hlt.trans hgt) (lt_irrefl _)
  exact List.Perm.eq_of_pairwise hanti h h'
    ((perm_ext_iff_of_nodup (hnodup h) (hnodup h')).2 hmem)

lemma get?_append {entries : List (κ × β)} :
    get? key (entries ++ map) = (get? key entries).or (get? key map) := by
  induction entries with
  | nil => rfl
  | cons entry rest ih =>
    rw [cons_append, get?_cons, get?_cons, ih]
    split <;> rfl

lemma get?_eq_none : get? key map = none ↔ key ∉ map.map (·.1) := by
  constructor
  · intro hnone hmem
    obtain ⟨entry, hentry, rfl⟩ := mem_map.1 hmem
    simpa using List.find?_eq_none.1 (Option.map_eq_none_iff.1 hnone) entry hentry
  · intro hmissing
    rw [get?, List.find?_eq_none.2, Option.map_none]
    intro entry hentry hkey
    exact hmissing (mem_map.2 ⟨entry, hentry, by simpa using hkey⟩)

lemma get?_foldl_assign {entries : List (κ × β)} (hkeys : (entries.map (·.1)).Nodup) :
    get? key (entries.foldl (fun map entry => assign entry.1 entry.2 map) map) =
      (get? key entries).or (get? key map) := by
  induction entries generalizing map with
  | nil => rfl
  | cons entry rest ih =>
    obtain ⟨hentry, hrest⟩ := nodup_cons.1 hkeys
    rw [foldl_cons, ih hrest, get?_assign, get?_cons]
    by_cases h : key = entry.1
    · subst h
      simp [get?_eq_none.2 hentry]
    · rw [if_neg h, if_neg (Ne.symm h)]

lemma get?_assignAll {entries : List (κ × β)} (hkeys : (entries.map (·.1)).Nodup) :
    get? key (assignAll entries) = get? key entries := by
  rw [assignAll, get?_foldl_assign hkeys, get?_nil, Option.or_none]

lemma assignAll_replace {before after : List (κ × β)} {value' : β}
    (hkeys : ((before ++ (key, value) :: after).map (·.1)).Nodup) :
    assignAll (before ++ (key, value') :: after) =
      assign key value' (assignAll (before ++ (key, value) :: after)) := by
  have hkeys' : ((before ++ (key, value') :: after).map (·.1)).Nodup := by simpa using hkeys
  apply Ordered.ext (ordered_assignAll _) (assign_ordered (ordered_assignAll _))
  intro other
  rw [get?_assignAll hkeys', get?_assign, get?_assignAll hkeys]
  simp only [get?_append, get?_cons]
  by_cases h : other = key
  · subst h
    have hbefore : get? other before = none := by
      rw [get?_eq_none]
      intro hmem
      rw [map_append, nodup_append] at hkeys
      exact hkeys.2.2 other hmem other (by simp) rfl
    simp [hbefore]
  · simp [h, Ne.symm h]

end KeyMap

/-! ## Values and their texts -/

inductive Json where
  | null
  | bool (value : Bool)
  | integer (value : Int)
  | float
  | string (value : String)
  | array (elements : List Json)
  | object (members : List (String × Json))

namespace Json

open Scan

def isPlain (c : Char) : Bool :=
  ' ' ≤ c && c ≤ '~' && c ≠ '"' && c ≠ '\\'

def isBlank (c : Char) : Bool :=
  c = ' ' || c = '\n' || c = '\t' || c = '\r'

def skipBlank (text : List Char) : List Char :=
  text.dropWhile isBlank

def readString (text : List Char) : Option (String × List Char) :=
  match cut (· = '"') text with
  | none => none
  | some (body, rest) => if body.all isPlain then some (String.ofList body, rest) else none

def readInteger (text : List Char) : Option (Json × List Char) :=
  let negative := text.head? = some '-'
  let unsigned := if negative then text.tail else text
  let digits := unsigned.takeWhile Char.isDigit
  let rest := unsigned.dropWhile Char.isDigit
  let magnitude : Int := Nat.ofDigitChars 10 digits 0
  let value := if negative then -magnitude else magnitude
  if digits ≠ [] ∧ (digits.head? = some '0' → digits = ['0']) ∧
      rest.head? ∉ [some '.', some 'e', some 'E'] ∧ -2 ^ 63 ≤ value ∧ value < 2 ^ 64 then
    some (.integer value, rest)
  else
    none

mutual

def readValue : Nat → List Char → Option (Json × List Char)
  | 0, _ => none
  | fuel + 1, text =>
    match skipBlank text with
    | '"' :: opened => (readString opened).map fun read => (.string read.1, read.2)
    | 'n' :: 'u' :: 'l' :: 'l' :: rest => some (.null, rest)
    | '[' :: opened =>
      match skipBlank opened with
      | ']' :: rest => some (.array [], rest)
      | _ => (readElements fuel opened).map fun read => (.array read.1, read.2)
    | '{' :: opened =>
      match skipBlank opened with
      | '}' :: rest => some (.object [], rest)
      | _ => (readMembers fuel opened).map fun read =>
        (.object (KeyMap.assignAll read.1), read.2)
    | other => readInteger other

def readElements : Nat → List Char → Option (List Json × List Char)
  | 0, _ => none
  | fuel + 1, text =>
    match readValue fuel text with
    | none => none
    | some (value, rest) =>
      match skipBlank rest with
      | ',' :: rest => (readElements fuel rest).map fun read => (value :: read.1, read.2)
      | ']' :: rest => some ([value], rest)
      | _ => none

def readMembers : Nat → List Char → Option (List (String × Json) × List Char)
  | 0, _ => none
  | fuel + 1, text =>
    match skipBlank text with
    | '"' :: opened =>
      match readString opened with
      | none => none
      | some (key, rest) =>
        match skipBlank rest with
        | ':' :: rest =>
          match readValue fuel rest with
          | none => none
          | some (value, rest) =>
            match skipBlank rest with
            | ',' :: rest =>
              (readMembers fuel rest).map fun read => ((key, value) :: read.1, read.2)
            | '}' :: rest => some ([(key, value)], rest)
            | _ => none
        | _ => none
    | _ => none

end

def readJson (text : List Char) : Option Json :=
  match readValue (text.length + 1) text with
  | none => none
  | some (value, rest) => if skipBlank rest = [] then some value else none

/-! ## What the reader accepts -/

def Delimited (rest : List Char) : Prop :=
  ∀ c ∈ rest.head?, isBlank c ∨ c = ',' ∨ c = ']' ∨ c = '}'

def Spells (text : List Char) (value : Json) : Prop :=
  ∀ fuel rest, text.length < fuel → Delimited rest →
    readValue fuel (text ++ rest) = some (value, rest)

lemma skipBlank_cons {c : Char} (hc : isBlank c = false) (text : List Char) :
    skipBlank (c :: text) = c :: text := by
  simp [skipBlank, hc]

/-! ### Integers -/

lemma toDigits_head {n : Nat} (hhead : (Nat.toDigits 10 n).head? = some '0') :
    Nat.toDigits 10 n = ['0'] := by
  induction n using Nat.strongRecOn with
  | ind n ih =>
    rcases Nat.lt_or_ge n 10 with hsmall | hlarge
    · rw [Nat.toDigits_of_lt_base hsmall] at hhead ⊢
      simpa using hhead
    · rw [Nat.toDigits_of_base_le (by omega) hlarge,
        head?_append_of_ne_nil _ Nat.toDigits_ne_nil] at hhead
      have hfront := congrArg (Nat.ofDigitChars 10 · 0) (ih (n / 10) (by omega) hhead)
      simp only [Nat.ofDigitChars_ten_toDigits] at hfront
      have hzero : Nat.ofDigitChars 10 ['0'] 0 = 0 := by decide
      omega

lemma Delimited.head {rest : List Char} (hrest : Delimited rest) {c : Char}
    (hc : c.isDigit ∨ c = '.' ∨ c = 'e' ∨ c = 'E') : rest.head? ≠ some c := by
  intro hhead
  have hdelimiter := hrest c hhead
  simp only [isBlank, Bool.or_eq_true, decide_eq_true_eq] at hdelimiter
  rcases hdelimiter with (((rfl | rfl) | rfl) | rfl) | rfl | rfl | rfl <;>
    revert hc <;> decide

lemma span_digits {digits rest : List Char} (hdigits : ∀ c ∈ digits, c.isDigit)
    (hrest : Delimited rest) :
    (digits ++ rest).takeWhile Char.isDigit = digits ∧
      (digits ++ rest).dropWhile Char.isDigit = rest := by
  rw [takeWhile_append_of_pos hdigits, dropWhile_append_of_pos hdigits]
  cases rest with
  | nil => simp
  | cons c rest =>
    have hc : c.isDigit = false := by
      rw [Bool.eq_false_iff]
      exact fun hdigit => hrest.head (.inl hdigit) rfl
    simp [hc]

lemma toList_toString (n : Int) : (toString n).toList =
      if 0 ≤ n then Nat.toDigits 10 n.toNat else '-' :: Nat.toDigits 10 (-n).toNat := by
  rw [show toString n = n.repr from rfl, Int.repr_eq_if]
  split
  · exact Nat.toList_repr
  · rw [String.toList_append, Nat.toList_repr]
    rfl

lemma readInteger_digits (negative : Bool) (magnitude : Nat) {rest : List Char}
    (hlow : -2 ^ 63 ≤ (if negative then -(magnitude : Int) else magnitude))
    (hhigh : (if negative then -(magnitude : Int) else magnitude) < 2 ^ 64)
    (hrest : Delimited rest) :
    readInteger ((if negative then ['-'] else []) ++ Nat.toDigits 10 magnitude ++ rest) =
      some (.integer (if negative then -(magnitude : Int) else magnitude), rest) := by
  have hdigit : ∀ c ∈ Nat.toDigits 10 magnitude, c.isDigit := fun c hc =>
    Nat.isDigit_of_mem_toDigits (by omega) (by omega) hc
  obtain ⟨htake, hdrop⟩ := span_digits hdigit hrest
  have hpoint : rest.head? ∉ [some '.', some 'e', some 'E'] := by
    simp [hrest.head (c := '.'), hrest.head (c := 'e'), hrest.head (c := 'E')]
  have hsign : (Nat.toDigits 10 magnitude ++ rest).head? ≠ some '-' := by
    rw [head?_append_of_ne_nil _ Nat.toDigits_ne_nil]
    intro hhead
    have hminus := hdigit '-' (mem_of_mem_head? hhead)
    revert hminus
    decide
  cases negative with
  | false =>
    simp only [Bool.false_eq_true, if_false, nil_append] at hlow hhigh ⊢
    simp only [readInteger, hsign, if_false, htake, hdrop, Nat.ofDigitChars_ten_toDigits]
    rw [if_pos ⟨Nat.toDigits_ne_nil, toDigits_head, hpoint, hlow, hhigh⟩]
  | true =>
    simp only [if_true] at hlow hhigh ⊢
    simp only [readInteger, cons_append, nil_append, head?_cons,
      if_true, tail_cons, htake, hdrop, Nat.ofDigitChars_ten_toDigits]
    rw [if_pos ⟨Nat.toDigits_ne_nil, toDigits_head, hpoint, hlow, hhigh⟩]

lemma readInteger_toString {n : Int} (hlow : -2 ^ 63 ≤ n) (hhigh : n < 2 ^ 64)
    {rest : List Char} (hrest : Delimited rest) :
    readInteger ((toString n).toList ++ rest) = some (.integer n, rest) := by
  rw [toList_toString]
  by_cases hn : 0 ≤ n
  · have hread := readInteger_digits false n.toNat (by rw [if_neg (by decide)]; omega)
      (by rw [if_neg (by decide)]; omega) hrest
    simpa [hn] using hread
  · have hread := readInteger_digits true (-n).toNat (by rw [if_pos rfl]; omega)
      (by rw [if_pos rfl]; omega) hrest
    rw [if_neg hn]
    simpa [Int.toNat_of_nonneg (show 0 ≤ -n by omega)] using hread

lemma readValue_integer {c : Char} (hc : c.isDigit ∨ c = '-') (fuel : Nat)
    (text : List Char) : readValue (fuel + 1) (c :: text) = readInteger (c :: text) := by
  have hblank : isBlank c = false := by
    rw [Bool.eq_false_iff]
    intro hblank
    simp only [isBlank, Bool.or_eq_true, decide_eq_true_eq] at hblank
    rcases hblank with ((rfl | rfl) | rfl) | rfl <;> revert hc <;> decide
  rw [readValue, skipBlank_cons hblank]
  split
  case h_5 => rfl
  all_goals
    rename_i heq
    cases heq
    exact absurd hc (by decide)

lemma Spells.integer {n : Int} (hlow : -2 ^ 63 ≤ n) (hhigh : n < 2 ^ 64) :
    Spells (toString n).toList (.integer n) := by
  intro fuel rest hfuel hrest
  have hread := readInteger_toString hlow hhigh hrest
  obtain ⟨c, text, htext, hc⟩ : ∃ c text, (toString n).toList = c :: text ∧
      (c.isDigit ∨ c = '-') := by
    rw [toList_toString]
    split
    · cases hdigits : Nat.toDigits 10 n.toNat with
      | nil => exact absurd hdigits Nat.toDigits_ne_nil
      | cons c text =>
        refine ⟨c, text, rfl, .inl (Nat.isDigit_of_mem_toDigits (b := 10) (n := n.toNat)
          (by omega) (by omega) ?_)⟩
        rw [hdigits]
        exact mem_cons_self
    · exact ⟨'-', _, rfl, .inr rfl⟩
  cases fuel with
  | zero => simp at hfuel
  | succ fuel =>
    rw [htext, cons_append] at hread ⊢
    rw [readValue_integer hc, hread]

/-! ### Arrays and objects -/

variable {ι : Type} {items : List ι} {text : ι → List Char} {value : ι → Json}

variable {key : ι → String} {pad final : List Char}

def member (key : String) (text : List Char) : List Char :=
  quoted '"' key.toList ++ ':' :: text

lemma Spells.readJson {text : List Char} {value : Json} (htext : Spells text value) :
    readJson text = some value := by
  have hread := htext (text.length + 1) [] (by omega) (by simp [Delimited])
  rw [append_nil] at hread
  simp only [Json.readJson, hread, skipBlank, dropWhile_nil, if_true]

end Json

end Vibeshine.Library
