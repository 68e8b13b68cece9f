import Mathlib.Data.List.Basic

/-! # Sweeps to a fixed point

A sweep goes once through a list of entries and puts the keys of those that may enter into a
set; sweeps are repeated until one of them changes nothing. What results is the least set
that contains the initial one and is closed under entering.
-/

namespace Vibeshine.Library

open List

namespace Saturation

variable {ε κ : Type} [DecidableEq κ] (key : ε → κ) (enters : List κ → ε → Bool)

def visit (state : List κ × Bool) (entry : ε) : List κ × Bool :=
  if key entry ∈ state.1 then state
  else if enters state.1 entry then (key entry :: state.1, true)
  else state

def sweep (entries : List ε) (chosen : List κ) : List κ × Bool :=
  entries.foldl (visit key enters) (chosen, false)

/-- Passes until one adds nothing, at most `fuel` of them. -/
def saturate (entries : List ε) : Nat → List κ → List κ
  | 0, chosen => chosen
  | fuel + 1, chosen =>
    let swept := sweep key enters entries chosen
    if swept.2 then saturate entries fuel swept.1 else swept.1

variable {key enters} {entries : List ε} {chosen : List κ} {state : List κ × Bool}

lemma visit_subset {entry : ε} : state.1 ⊆ (visit key enters state entry).1 := by
  unfold visit
  split_ifs
  · exact List.Subset.refl _
  · exact subset_cons_self _ _
  · exact List.Subset.refl _

lemma foldl_subset (state : List κ × Bool) :
    state.1 ⊆ (entries.foldl (visit key enters) state).1 := by
  induction entries generalizing state with
  | nil => exact List.Subset.refl _
  | cons entry entries ih => exact List.Subset.trans visit_subset (ih _)

lemma subset_sweep : chosen ⊆ (sweep key enters entries chosen).1 :=
  foldl_subset (chosen, false)

lemma subset_saturate {fuel : Nat} : chosen ⊆ saturate key enters entries fuel chosen := by
  induction fuel generalizing chosen with
  | zero => exact List.Subset.refl _
  | succ fuel ih =>
    unfold saturate
    dsimp only
    split
    · exact List.Subset.trans subset_sweep ih
    · exact subset_sweep

lemma forall_sweep {good : κ → Prop} (hchosen : ∀ k ∈ chosen, good k)
    (henters : ∀ set : List κ, (∀ k ∈ set, good k) → ∀ entry ∈ entries,
      enters set entry = true → good (key entry)) :
    ∀ k ∈ (sweep key enters entries chosen).1, good k := by
  unfold sweep
  generalize hstate : (chosen, false) = state
  have hgood : ∀ k ∈ state.1, good k := hstate ▸ hchosen
  clear hstate hchosen
  induction entries generalizing state with
  | nil => exact hgood
  | cons entry entries ih =>
    refine ih (fun set hset e he => henters set hset e (mem_cons_of_mem _ he)) _ ?_
    unfold visit
    split_ifs with hthere hin
    · exact hgood
    · intro k hk
      obtain rfl | hk := mem_cons.mp hk
      · exact henters state.1 hgood entry mem_cons_self hin
      · exact hgood k hk
    · exact hgood

lemma forall_saturate {good : κ → Prop} {fuel : Nat} (hchosen : ∀ k ∈ chosen, good k)
    (henters : ∀ set : List κ, (∀ k ∈ set, good k) → ∀ entry ∈ entries,
      enters set entry = true → good (key entry)) :
    ∀ k ∈ saturate key enters entries fuel chosen, good k := by
  induction fuel generalizing chosen with
  | zero => exact hchosen
  | succ fuel ih =>
    have hswept := forall_sweep hchosen henters
    unfold saturate
    dsimp only
    split
    · exact ih hswept
    · exact hswept

lemma foldl_flag (h : state.2 = true) : (entries.foldl (visit key enters) state).2 = true := by
  induction entries generalizing state with
  | nil => exact h
  | cons entry entries ih =>
    apply ih
    unfold visit
    split_ifs <;> simp [h]

lemma closed_of_still (hstill : (sweep key enters entries chosen).2 = false) :
    (sweep key enters entries chosen).1 = chosen ∧
      ∀ entry ∈ entries, enters chosen entry = true → key entry ∈ chosen := by
  unfold sweep at hstill ⊢
  induction entries with
  | nil => exact ⟨rfl, nofun⟩
  | cons entry entries ih =>
    rw [foldl_cons] at hstill ⊢
    have hvisit : visit key enters (chosen, false) entry = (chosen, false) ∧
        (enters chosen entry = true → key entry ∈ chosen) := by
      by_cases hthere : key entry ∈ chosen
      · exact ⟨if_pos hthere, fun _ => hthere⟩
      by_cases hin : enters chosen entry = true
      · have hadds : visit key enters (chosen, false) entry = (key entry :: chosen, true) :=
          (if_neg hthere).trans (if_pos hin)
        rw [hadds, foldl_flag rfl] at hstill
        exact absurd hstill (by simp)
      · exact ⟨(if_neg hthere).trans (if_neg hin), fun h => absurd h hin⟩
    rw [hvisit.1] at hstill ⊢
    obtain ⟨hsame, hclosed⟩ := ih hstill
    refine ⟨hsame, fun e he => ?_⟩
    obtain rfl | he := mem_cons.mp he
    · exact hvisit.2
    · exact hclosed e he

lemma exists_new_of_changed (hchanged : (sweep key enters entries chosen).2 = true) :
    ∃ entry ∈ entries, key entry ∉ chosen ∧ key entry ∈ (sweep key enters entries chosen).1 := by
  unfold sweep at hchanged ⊢
  induction entries with
  | nil => exact absurd hchanged (by simp)
  | cons entry entries ih =>
    rw [foldl_cons] at hchanged ⊢
    by_cases hvisit : visit key enters (chosen, false) entry = (chosen, false)
    · rw [hvisit] at hchanged ⊢
      obtain ⟨e, he, hnew⟩ := ih hchanged
      exact ⟨e, mem_cons_of_mem _ he, hnew⟩
    · refine ⟨entry, mem_cons_self, ?_⟩
      by_cases hthere : key entry ∈ chosen
      · exact absurd (if_pos hthere) hvisit
      by_cases hin : enters chosen entry = true
      · have hadds : visit key enters (chosen, false) entry = (key entry :: chosen, true) :=
          (if_neg hthere).trans (if_pos hin)
        rw [hadds]
        exact ⟨hthere, foldl_subset _ mem_cons_self⟩
      · exact absurd ((if_neg hthere).trans (if_neg hin)) hvisit

lemma closed_saturate {fuel : Nat}
    (hfuel : entries.countP (fun entry => key entry ∉ chosen) < fuel) :
    ∀ entry ∈ entries, enters (saturate key enters entries fuel chosen) entry = true →
      key entry ∈ saturate key enters entries fuel chosen := by
  induction fuel generalizing chosen with
  | zero => exact absurd hfuel (Nat.not_lt_zero _)
  | succ fuel ih =>
    unfold saturate
    dsimp only
    split
    next hchanged =>
      apply ih
      obtain ⟨entry, hentry, hnew, hnow⟩ := exists_new_of_changed hchanged
      refine Nat.lt_of_lt_of_le ?_ (Nat.le_of_lt_succ hfuel)
      -- every entry outside the new set was outside the old one, and one has come in
      have hsplit := countP_eq_countP_filter_add entries
        (fun e => decide (key e ∉ chosen))
        (fun e => decide (key e ∉ (sweep key enters entries chosen).1))
      have hkept : entries.countP (fun e => key e ∉ (sweep key enters entries chosen).1) =
          (entries.filter fun e => decide (key e ∉ (sweep key enters entries chosen).1)).countP
            (fun e => decide (key e ∉ chosen)) := by
        rw [countP_eq_length_filter, eq_comm, countP_eq_length]
        intro e he
        have hout := (mem_filter.mp he).2
        simp only [decide_eq_true_eq] at hout ⊢
        exact fun h => hout (subset_sweep h)
      have hlost : 0 < (entries.filter fun e =>
          !decide (key e ∉ (sweep key enters entries chosen).1)).countP
            (fun e => decide (key e ∉ chosen)) := by
        refine countP_pos_iff.mpr ⟨entry, mem_filter.mpr ⟨hentry, ?_⟩, ?_⟩
        · simpa using hnow
        · simpa using hnew
      rw [hkept]
      omega
    next hstill =>
      obtain ⟨hsame, hclosed⟩ := closed_of_still (Bool.eq_false_iff.mpr hstill)
      rw [hsame]
      exact hclosed

end Saturation

end Vibeshine.Library
