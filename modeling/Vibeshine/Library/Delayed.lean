import Mathlib.Data.List.Nodup

/-! # Delayed tasks with one handle each

A pool of delayed tasks, known by the count of the push that made them, in which each
task belongs to a holder that keeps its handle. A holder that pushes only while its
handle is null, and clears it with its task, has at most one task in the pool.
-/

namespace Vibeshine.Library

variable {ι π : Type} {holder : π → ι} {timers : List (Nat × π)} {pushes : Nat}
  {handle : ι → Option Nat}

/-- The handles are those of the tasks in the pool. -/
structure Handles (holder : π → ι) (timers : List (Nat × π)) (pushes : Nat)
    (handle : ι → Option Nat) : Prop where
  pending : ∀ timer ∈ timers, handle (holder timer.2) = some timer.1
  listed : ∀ i task, handle i = some task → ∃ timer ∈ timers, timer.1 = task ∧ holder timer.2 = i
  distinct : (timers.map Prod.fst).Nodup
  pushed : ∀ timer ∈ timers, timer.1 < pushes

namespace Handles

lemma initial (holder : π → ι) : Handles holder [] 0 fun _ => none := by
  constructor <;> simp

lemma congr (h : Handles holder timers pushes handle) {handle' : ι → Option Nat}
    (heq : ∀ i, handle' i = handle i) : Handles holder timers pushes handle' :=
  funext heq ▸ h

lemma push [DecidableEq ι] (h : Handles holder timers pushes handle) (payload : π)
    (hnone : handle (holder payload) = none) :
    Handles holder ((pushes, payload) :: timers) (pushes + 1)
      (Function.update handle (holder payload) (some pushes)) := by
  have hother : ∀ timer ∈ timers, holder timer.2 ≠ holder payload := fun timer htimer heq => by
    simpa [heq, hnone] using h.pending timer htimer
  refine ⟨?_, ?_, ?_, ?_⟩
  · intro timer htimer
    rcases List.mem_cons.mp htimer with rfl | htimer
    · simp
    · rw [Function.update_of_ne (hother timer htimer)]
      exact h.pending timer htimer
  · intro i task htask
    by_cases hsame : i = holder payload
    · subst hsame
      exact ⟨(pushes, payload), .head _, by simpa using htask, rfl⟩
    · rw [Function.update_of_ne hsame] at htask
      obtain ⟨timer, htimer, hboth⟩ := h.listed i task htask
      exact ⟨timer, .tail _ htimer, hboth⟩
  · refine List.nodup_cons.mpr ⟨fun hmem => ?_, h.distinct⟩
    obtain ⟨timer, htimer, heq⟩ := List.mem_map.mp hmem
    exact absurd (h.pushed timer htimer) (heq ▸ Nat.lt_irrefl _)
  · intro timer htimer
    rcases List.mem_cons.mp htimer with rfl | htimer
    · exact Nat.lt_succ_self _
    · exact Nat.lt_succ_of_lt (h.pushed timer htimer)

lemma remove [DecidableEq ι] (h : Handles holder timers pushes handle) (i : ι)
    {kept : List (Nat × π)} (hkept : kept.Sublist timers)
    (hmem : ∀ timer ∈ timers, timer ∈ kept ↔ holder timer.2 ≠ i) :
    Handles holder kept pushes (Function.update handle i none) := by
  refine ⟨?_, ?_, h.distinct.sublist (hkept.map _), fun timer htimer =>
    h.pushed timer (hkept.subset htimer)⟩
  · intro timer htimer
    have hbefore := hkept.subset htimer
    rw [Function.update_of_ne ((hmem timer hbefore).mp htimer)]
    exact h.pending timer hbefore
  · intro j task htask
    by_cases hsame : j = i
    · simp [hsame] at htask
    · rw [Function.update_of_ne hsame] at htask
      obtain ⟨timer, htimer, hid, hholder⟩ := h.listed j task htask
      exact ⟨timer, (hmem timer htimer).mpr (hholder ▸ hsame), hid, hholder⟩

lemma cancel [DecidableEq ι] (h : Handles holder timers pushes handle) (i : ι) :
    Handles holder (timers.filter fun timer => some timer.1 ≠ handle i) pushes
      (Function.update handle i none) := by
  refine h.remove i List.filter_sublist fun timer htimer => ?_
  simp only [List.mem_filter, htimer, true_and, decide_eq_true_eq]
  refine not_congr ⟨fun heq => ?_, fun heq => ?_⟩
  · obtain ⟨other, hother, hid, hholder⟩ := h.listed i timer.1 heq.symm
    have hsame : other = timer := List.inj_on_of_nodup_map h.distinct hother htimer hid
    rw [← hsame, hholder]
  · rw [← heq, h.pending timer htimer]

lemma fire [DecidableEq ι] [BEq (Nat × π)] [LawfulBEq (Nat × π)]
    (h : Handles holder timers pushes handle) {timer : Nat × π} (htimer : timer ∈ timers) :
    Handles holder (timers.erase timer) pushes (Function.update handle (holder timer.2) none) := by
  have honce : timers.Nodup := List.Nodup.of_map _ h.distinct
  refine h.remove _ List.erase_sublist fun other hother => ?_
  rw [honce.mem_erase_iff]
  refine ⟨fun hboth heq => hboth.1 ?_, fun hne => ⟨fun heq => hne (heq ▸ rfl), hother⟩⟩
  refine List.inj_on_of_nodup_map h.distinct hother htimer ?_
  have hid := h.pending other hother
  rw [heq, h.pending timer htimer] at hid
  exact (Option.some.inj hid).symm

end Handles

end Vibeshine.Library
