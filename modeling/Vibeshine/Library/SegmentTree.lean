import Mathlib.Order.MinMax

/-! # Minimum trees

A complete binary tree in an array: node `n` has the children `2 * n` and `2 * n + 1`,
the leaves follow the inner nodes, and every inner node holds the minimum of its
children. Range minima are read bottom up.
-/

namespace Vibeshine.Library.SegmentTree

open Function

variable {α : Type} [LinearOrder α]

def below (tree : Nat → α) (n : Nat) : α := min (tree (2 * n)) (tree (2 * n + 1))

/-- Every inner node but `except` holds the minimum of its children. -/
def HeapExcept (leaves except : Nat) (tree : Nat → α) : Prop :=
  ∀ n, 0 < n → n < leaves → n ≠ except → tree n = below tree n

def Heap (leaves : Nat) (tree : Nat → α) : Prop := HeapExcept leaves 0 tree

lemma below_update_of_ne {tree : Nat → α} {n m : Nat} {value : α} (h : m / 2 ≠ n) :
    below (Function.update tree m value) n = below tree n := by
  have hleft : 2 * n ≠ m := by omega
  have hright : 2 * n + 1 ≠ m := by omega
  rw [below, update_of_ne hleft, update_of_ne hright, below]

/-! ## Queries -/

/-- The minimum of `best` and of the nodes from `lo` up to `hi`. -/
def query (tree : Nat → α) (lo hi : Nat) (best : α) : α :=
  if lo < hi then
    let best := if lo % 2 = 1 then min best (tree lo) else best
    let best := if hi % 2 = 1 then min best (tree (hi - 1)) else best
    query tree ((lo + lo % 2) / 2) ((hi - hi % 2) / 2) best
  else best
termination_by hi

variable {tree : Nat → α} {leaves lo hi : Nat} {best : α}

lemma query_le_best : query tree lo hi best ≤ best := by
  fun_induction query tree lo hi best with
  | case1 lo hi best hlt best₁ best₂ ih =>
    have hsecond : best₂ ≤ best₁ := by
      dsimp only [best₂]
      split
      · exact min_le_left _ _
      · exact le_refl _
    have hfirst : best₁ ≤ best := by
      dsimp only [best₁]
      split
      · exact min_le_left _ _
      · exact le_refl _
    exact ih.trans (hsecond.trans hfirst)
  | case2 => exact le_refl _

lemma query_le (hheap : Heap leaves tree) (hlo : 0 < lo) (hhi : hi ≤ 2 * leaves) {i : Nat}
    (hfirst : lo ≤ i) (hlast : i < hi) : query tree lo hi best ≤ tree i := by
  fun_induction query tree lo hi best generalizing i with
  | case1 lo hi best hlt best₁ best₂ ih =>
    by_cases hleft : i = lo ∧ lo % 2 = 1
    · refine query_le_best.trans ?_
      have hbest : best₁ ≤ tree i := by
        dsimp only [best₁]
        rw [dif_pos hleft.2, hleft.1]
        exact min_le_right _ _
      dsimp only [best₂]
      split
      · exact (min_le_left _ _).trans hbest
      · exact hbest
    by_cases hright : i = hi - 1 ∧ hi % 2 = 1
    · refine query_le_best.trans ?_
      dsimp only [best₂]
      rw [dif_pos hright.2, hright.1]
      exact min_le_right _ _
    -- the parent of a node between the two ends is covered one level up
    have hparent : query tree ((lo + lo % 2) / 2) ((hi - hi % 2) / 2) best₂ ≤ tree (i / 2) :=
      ih (by omega) (by omega) (by omega) (by omega)
    rw [hheap (i / 2) (by omega) (by omega) (by omega)] at hparent
    refine hparent.trans ?_
    rcases Nat.mod_two_eq_zero_or_one i with heven | hodd
    · exact (min_le_left _ _).trans (le_of_eq (congrArg tree (by omega)))
    · exact (min_le_right _ _).trans (le_of_eq (congrArg tree (by omega)))
  | case2 lo hi best hlt => omega

lemma query_mem (hheap : Heap leaves tree) (hlo : 0 < lo) (hhi : hi ≤ 2 * leaves) :
    query tree lo hi best = best ∨ ∃ i, lo ≤ i ∧ i < hi ∧ query tree lo hi best = tree i := by
  fun_induction query tree lo hi best with
  | case1 lo hi best hlt best₁ best₂ ih =>
    rcases ih (by omega) (by omega) with hbest | ⟨i, hfirst, hlast, heq⟩
    · rw [hbest]
      have hsecond : best₂ = best₁ ∨ best₂ = tree (hi - 1) := by
        dsimp only [best₂]
        split
        · exact min_choice _ _
        · exact .inl rfl
      rcases hsecond with hsecond | hsecond
      · rw [hsecond]
        dsimp only [best₁]
        split
        · rcases min_choice best (tree lo) with hchoice | hchoice
          · exact .inl hchoice
          · exact .inr ⟨lo, le_refl _, hlt, hchoice⟩
        · exact .inl rfl
      · exact .inr ⟨hi - 1, by omega, by omega, hsecond⟩
    · right
      rw [heq, hheap i (by omega) (by omega) (by omega)]
      rcases min_choice (tree (2 * i)) (tree (2 * i + 1)) with hchoice | hchoice
      · exact ⟨2 * i, by omega, by omega, hchoice⟩
      · exact ⟨2 * i + 1, by omega, by omega, hchoice⟩
  | case2 => exact .inl rfl

/-! ## Construction and repair -/

/-- Fills the inner nodes from `n` down to the root. -/
def fill (tree : Nat → α) : Nat → Nat → α
  | 0 => tree
  | n + 1 => fill (Function.update tree (n + 1) (below tree (n + 1))) n

lemma fill_of_lt (tree : Nat → α) {n m : Nat} (h : n < m) : fill tree n m = tree m := by
  induction n generalizing tree with
  | zero => rfl
  | succ n ih =>
    rw [fill, ih _ (by omega), update_of_ne (by omega)]

lemma heap_fill (tree : Nat → α) (n : Nat)
    (h : ∀ m, n < m → m < leaves → tree m = below tree m) : Heap leaves (fill tree n) := by
  induction n generalizing tree with
  | zero => exact fun m hpos hlt _ => h m hpos hlt
  | succ n ih =>
    refine ih _ fun m hfirst hlast => ?_
    rw [below_update_of_ne (by omega)]
    by_cases hm : m = n + 1
    · rw [hm, update_self]
    · rw [update_of_ne hm]
      exact h m (by omega) hlast

def repair (tree : Nat → α) (n : Nat) : Nat → α :=
  if n = 0 then tree else repair (Function.update tree n (below tree n)) (n / 2)
termination_by n

lemma repair_of_lt (tree : Nat → α) {n m : Nat} (h : n < m) : repair tree n m = tree m := by
  fun_induction repair tree n with
  | case1 => rfl
  | case2 tree n hn ih =>
    rw [ih (by omega), update_of_ne (by omega)]

lemma heap_repair (tree : Nat → α) (n : Nat) (h : HeapExcept leaves n tree) :
    Heap leaves (repair tree n) := by
  fun_induction repair tree n with
  | case1 tree => exact h
  | case2 tree n hn ih =>
    refine ih fun m hpos hlt hne => ?_
    rw [below_update_of_ne (by omega)]
    by_cases hm : m = n
    · rw [hm, update_self]
    · rw [update_of_ne hm]
      exact h m hpos hlt hm

lemma Heap.update (h : Heap leaves tree) {n : Nat} (hn : leaves ≤ n) (value : α) :
    HeapExcept leaves (n / 2) (Function.update tree n value) := by
  intro m hpos hlt hne
  rw [below_update_of_ne (Ne.symm hne), update_of_ne (by omega)]
  exact h m hpos hlt (by omega)

end Vibeshine.Library.SegmentTree
