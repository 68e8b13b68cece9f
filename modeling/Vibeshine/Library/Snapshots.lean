import Mathlib.Order.Nat

/-! # Snapshots on the way to a store

Several threads copy a value under one lock and write their copies to a store under
another, so the copies may arrive in any order. A ledger numbers them as they are taken.
As long as no copy is written after a later one, the store ends up with the last of them.
-/

namespace Vibeshine.Library

open Function

/-- The numbers of the last snapshot taken and the last one written, and what was last taken. -/
structure Ledger (σ : Type) where
  taken : Nat := 0
  written : Nat := 0
  last : σ

namespace Ledger

variable {τ σ : Type}

def take (ledger : Ledger σ) (value : σ) : Ledger σ :=
  { ledger with taken := ledger.taken + 1, last := value }

def write (ledger : Ledger σ) (number : Nat) : Ledger σ := { ledger with written := number }

/-- The last snapshot is in the store or in the hands of a thread. -/
structure Tracks (ledger : Ledger σ) (held : τ → Option (Nat × σ)) (stored : σ) : Prop where
  written : ledger.written ≤ ledger.taken
  numbered : ∀ thread snapshot, held thread = some snapshot →
    snapshot.1 ≤ ledger.taken ∧ (snapshot.1 = ledger.taken → snapshot.2 = ledger.last)
  settled : ledger.written = ledger.taken → stored = ledger.last
  latest : ledger.written ≠ ledger.taken → ∃ thread, held thread = some (ledger.taken, ledger.last)

variable {ledger : Ledger σ} {held : τ → Option (Nat × σ)} {stored : σ}

lemma Tracks.start (value : σ) : Tracks { last := value } (fun _ : τ => none) value where
  written := le_rfl
  numbered _ _ h := by cases h
  settled _ := rfl
  latest h := absurd rfl h

lemma Tracks.idle (h : ledger.Tracks held stored) (hidle : ∀ thread, held thread = none) :
    stored = ledger.last := by
  apply h.settled
  by_contra hne
  obtain ⟨thread, hthread⟩ := h.latest hne
  rw [hidle thread] at hthread
  cases hthread

variable [DecidableEq τ]

section

variable (h : ledger.Tracks held stored)

include h

lemma Tracks.pass {thread : τ} (hnone : held thread = none) :
    ledger.Tracks (Function.update held thread none) stored := by
  rwa [← hnone, update_eq_self]

lemma Tracks.take {thread : τ} (value : σ) :
    (ledger.take value).Tracks (Function.update held thread (some (ledger.taken + 1, value)))
      stored where
  written := h.written.trans (Nat.le_succ _)
  numbered other snapshot hother := by
    by_cases hthread : other = thread
    · subst hthread
      rw [update_self] at hother
      obtain rfl := Option.some.inj hother
      exact ⟨le_rfl, fun _ => rfl⟩
    · rw [update_of_ne hthread] at hother
      have hle := (h.numbered other snapshot hother).1
      refine ⟨hle.trans (Nat.le_succ _), fun hsame => ?_⟩
      rw [hsame] at hle
      exact absurd hle (Nat.not_succ_le_self _)
  settled hsame := by
    have hle := h.written
    rw [show ledger.written = ledger.taken + 1 from hsame] at hle
    exact absurd hle (Nat.not_succ_le_self _)
  latest _ := ⟨thread, update_self ..⟩

lemma Tracks.write {thread : τ} {snapshot : Nat × σ}
    (hthread : held thread = some snapshot) (hlater : ledger.written < snapshot.1) :
    (ledger.write snapshot.1).Tracks (Function.update held thread none) snapshot.2 where
  written := (h.numbered thread snapshot hthread).1
  numbered other found hother := by
    by_cases hsame : other = thread
    · subst hsame
      rw [update_self] at hother
      cases hother
    · rw [update_of_ne hsame] at hother
      exact h.numbered other found hother
  settled hsame := (h.numbered thread snapshot hthread).2 hsame
  latest hne := by
    have hle := (h.numbered thread snapshot hthread).1
    obtain ⟨other, hother⟩ := h.latest (hlater.trans_le hle).ne
    refine ⟨other, ?_⟩
    rw [update_of_ne, hother]
    · rfl
    · rintro rfl
      rw [hthread, Option.some.injEq] at hother
      exact hne (congrArg Prod.fst hother)

end

end Ledger

end Vibeshine.Library
