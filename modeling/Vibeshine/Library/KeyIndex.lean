import Vibeshine.Library.Json

/-! # A map and its index

The entries of a map carry a secondary key, and an index leads from it back to the key of
the entry. The two are changed one after the other; `Indexes` is what has to hold again
once both are.
-/

namespace Vibeshine.Library.KeyMap

variable {κ ι β : Type} [LinearOrder κ] [LinearOrder ι]

def Indexes (index : List (ι × κ)) (secondary : β → ι) (map : List (κ × β)) : Prop :=
  ∀ link key, get? link index = some key ↔ ∃ value, get? key map = some value ∧ secondary value = link

variable {index : List (ι × κ)} {secondary : β → ι} {map : List (κ × β)} {key : κ} {value : β}

lemma Indexes.nil : Indexes ([] : List (ι × κ)) secondary ([] : List (κ × β)) := by
  simp [Indexes]

section

variable (h : Indexes index secondary map)

include h

lemma Indexes.link (hvalue : get? key map = some value) : get? (secondary value) index = some key :=
  (h _ _).2 ⟨value, hvalue, rfl⟩

lemma Indexes.unique {key' : κ} {value' : β}
    (hvalue : get? key map = some value) (hvalue' : get? key' map = some value')
    (hsame : secondary value = secondary value') : key = key' := by
  have hlink := h.link hvalue
  rw [hsame, h.link hvalue'] at hlink
  exact (Option.some.inj hlink).symm

lemma Indexes.erase (hvalue : get? key map = some value) :
    Indexes (KeyMap.erase (secondary value) index) secondary (KeyMap.erase key map) := by
  intro link other
  rw [get?_erase, get?_erase]
  by_cases hkey : other = key
  · subst hkey
    simp only [if_true, reduceCtorEq, false_and, exists_false, iff_false]
    split
    · simp
    · rename_i hlink
      intro hother
      obtain ⟨found, hfound, rfl⟩ := (h _ _).1 hother
      rw [hvalue, Option.some.injEq] at hfound
      exact hlink (hfound ▸ rfl)
  · rw [if_neg hkey, ← h link other]
    split
    · rename_i hlink
      subst hlink
      rw [h.link hvalue]
      simpa using Ne.symm hkey
    · exact Iff.rfl

lemma Indexes.insert {map' : List (κ × β)}
    {index' : List (ι × κ)} (hnew : get? key map = none) (hlink : get? (secondary value) index = none)
    (hmap : ∀ other, get? other map' = if other = key then some value else get? other map)
    (hindex : ∀ link, get? link index' = if link = secondary value then some key else get? link index) :
    Indexes index' secondary map' := by
  intro link other
  rw [hmap, hindex]
  by_cases hkey : other = key
  · subst hkey
    simp only [if_true, Option.some.injEq, exists_eq_left']
    split
    · rename_i hsame
      simp [hsame]
    · rename_i hother
      refine iff_of_false (fun hfound => ?_) (Ne.symm hother)
      obtain ⟨found, hfound, _⟩ := (h _ _).1 hfound
      rw [hnew] at hfound
      cases hfound
  · rw [if_neg hkey, ← h link other]
    split
    · rename_i hsame
      subst hsame
      rw [hlink]
      simpa using Ne.symm hkey
    · exact Iff.rfl

end

end Vibeshine.Library.KeyMap
