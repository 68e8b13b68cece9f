import Vibeshine.Library.Json

/-! # Maps that carry their order

A map in key order as one value: its entries with the proof that their keys increase.
-/

namespace Vibeshine.Library

instance {κ β : Type} [LinearOrder κ] (map : List (κ × β)) : Decidable (KeyMap.Ordered map) :=
  inferInstanceAs (Decidable (map.Pairwise _))

/-- A map, with its entries in key order. -/
structure KeyedMap (κ β : Type) [LinearOrder κ] where
  entries : List (κ × β)
  ordered : KeyMap.Ordered entries

namespace KeyedMap

variable {κ β : Type} [LinearOrder κ] {map : KeyedMap κ β} {key other : κ} {value found : β}

instance [DecidableEq β] : DecidableEq (KeyedMap κ β) := fun first second =>
  decidable_of_iff (first.entries = second.entries) (by
    cases first
    cases second
    simp)

def empty : KeyedMap κ β := ⟨[], List.Pairwise.nil⟩

def find? (map : KeyedMap κ β) (key : κ) : Option β := KeyMap.get? key map.entries

def contains (map : KeyedMap κ β) (key : κ) : Bool := (map.find? key).isSome

def emplace (key : κ) (value : β) (map : KeyedMap κ β) : KeyedMap κ β :=
  ⟨KeyMap.emplace key value map.entries, KeyMap.emplace_ordered map.ordered⟩

def assign (key : κ) (value : β) (map : KeyedMap κ β) : KeyedMap κ β :=
  ⟨KeyMap.assign key value map.entries, KeyMap.assign_ordered map.ordered⟩

def erase (key : κ) (map : KeyedMap κ β) : KeyedMap κ β :=
  ⟨KeyMap.erase key map.entries, map.ordered.filter _⟩

def filter (keep : κ × β → Bool) (map : KeyedMap κ β) : KeyedMap κ β :=
  ⟨map.entries.filter keep, map.ordered.filter keep⟩

def mapValues {γ : Type} (convert : β → γ) (map : KeyedMap κ β) : KeyedMap κ γ :=
  ⟨map.entries.map fun entry => (entry.1, convert entry.2),
    List.pairwise_map.mpr (map.ordered.imp id)⟩

lemma mem_entries : (key, value) ∈ map.entries ↔ map.find? key = some value :=
  ⟨KeyMap.get?_of_mem map.ordered, KeyMap.mem_of_get?⟩

@[simp] lemma find?_empty : (empty : KeyedMap κ β).find? key = none := rfl

lemma ext {map' : KeyedMap κ β} (h : ∀ key, map.find? key = map'.find? key) : map = map' := by
  obtain ⟨entries, hordered⟩ := map
  obtain ⟨entries', hordered'⟩ := map'
  congr
  exact hordered.ext hordered' h

lemma contains_eq_false : map.contains key = false ↔ map.find? key = none := by
  simp [contains]

lemma find?_emplace : (map.emplace key value).find? other =
      if other = key then (map.find? key).or (some value) else map.find? other :=
  KeyMap.get?_emplace

lemma find?_assign : (map.assign key value).find? other =
      if other = key then some value else map.find? other :=
  KeyMap.get?_assign

lemma find?_erase : (map.erase key).find? other = if other = key then none else map.find? other :=
  KeyMap.get?_erase

lemma nodup_keys : (map.entries.map (·.1)).Nodup :=
  List.pairwise_map.mpr (map.ordered.imp fun hlt => hlt.ne)

lemma find?_foldl_emplace {entries : List (κ × β)} :
    (entries.foldl (fun map entry => map.emplace entry.1 entry.2) map).find? key =
      (map.find? key).or (KeyMap.get? key entries) := by
  induction entries generalizing map with
  | nil => rw [KeyMap.get?_nil, Option.or_none]; rfl
  | cons entry entries ih =>
    rw [List.foldl_cons, ih, find?_emplace, KeyMap.get?_cons]
    by_cases hkey : entry.1 = key
    · rw [if_pos hkey.symm, if_pos hkey, hkey]
      cases map.find? key <;> rfl
    · rw [if_neg (Ne.symm hkey), if_neg hkey]

lemma find?_emplace_of_some (h : map.find? other = some found) :
    (map.emplace key value).find? other = some found := by
  rw [find?_emplace]
  split
  next heq => rw [← heq, h, Option.some_or]
  next => exact h

lemma find?_filter {keep : κ × β → Bool} : (map.filter keep).find? key = some value ↔
      map.find? key = some value ∧ keep (key, value) = true := by
  rw [← mem_entries, ← mem_entries]
  exact List.mem_filter

lemma find?_mapValues {γ : Type} {convert : β → γ} {result : γ} :
    (map.mapValues convert).find? key = some result ↔
      ∃ value, map.find? key = some value ∧ convert value = result := by
  rw [← mem_entries]
  constructor
  · intro h
    obtain ⟨⟨key', value⟩, hentry, heq⟩ := List.mem_map.mp h
    obtain ⟨rfl, rfl⟩ := Prod.mk.inj heq
    exact ⟨value, mem_entries.mp hentry, rfl⟩
  · rintro ⟨value, hfound, rfl⟩
    exact List.mem_map.mpr ⟨(key, value), mem_entries.mpr hfound, rfl⟩

lemma entries_eq_nil : map.entries = [] ↔ ∀ key, map.find? key = none := by
  constructor
  · intro h key
    rw [find?, h, KeyMap.get?_nil]
  · intro h
    refine List.eq_nil_iff_forall_not_mem.mpr fun entry hentry => ?_
    have hfound : map.find? entry.1 = some entry.2 := mem_entries.mp hentry
    rw [h] at hfound
    exact absurd hfound nofun

end KeyedMap

namespace KeyMap

variable {κ β : Type} [LinearOrder κ] {key : κ} {value : β} {entries : List (κ × β)}

lemma get?_eq_some_of_nodup (hnodup : (entries.map (·.1)).Nodup) :
    get? key entries = some value ↔ (key, value) ∈ entries := by
  refine ⟨mem_of_get?, fun hmem => ?_⟩
  induction entries with
  | nil => exact absurd hmem List.not_mem_nil
  | cons entry entries ih =>
    obtain ⟨hentry, hrest⟩ := List.nodup_cons.mp hnodup
    rw [get?_cons]
    obtain rfl | hmem := List.mem_cons.mp hmem
    · exact if_pos rfl
    · rw [if_neg, ih hrest hmem]
      rintro rfl
      exact hentry (List.mem_map.mpr ⟨_, hmem, rfl⟩)

lemma get?_of_perm {map : KeyedMap κ β} (hperm : entries.Perm map.entries) :
    get? key entries = map.find? key := by
  have hnodup : (entries.map (·.1)).Nodup := (hperm.map _).nodup_iff.mpr map.nodup_keys
  refine Option.ext fun value => ?_
  rw [get?_eq_some_of_nodup hnodup, hperm.mem_iff, KeyedMap.mem_entries]

end KeyMap

end Vibeshine.Library
