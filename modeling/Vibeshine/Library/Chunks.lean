import Mathlib.Data.List.Basic

/-! # Chunks of a list

A list cut every `n` entries. The chunks are counted by a rounded-up division, read the
list in order, and are all full but the last.
-/

namespace Vibeshine.Library

open List

variable {α : Type}

/-- The pieces of a list between the multiples of `n`. -/
def chunks (n : Nat) (list : List α) : List (List α) :=
  (List.range ((list.length + n - 1) / n)).map fun index => (list.drop (index * n)).take n

variable {n : Nat}

lemma chunks_length (n : Nat) (list : List α) :
    (chunks n list).length = (list.length + n - 1) / n := by
  rw [chunks, length_map, length_range]

lemma chunks_nil (hn : 0 < n) : chunks n ([] : List α) = [] := by
  have hzero : (([] : List α).length + n - 1) / n = 0 :=
    Nat.div_eq_of_lt (by rw [length_nil]; omega)
  rw [chunks, hzero]
  rfl

lemma ceilDiv_succ {length : Nat} (hn : 0 < n) (hlength : 0 < length) :
    (length + n - 1) / n = (length - n + n - 1) / n + 1 := by
  rcases Nat.lt_or_ge length n with hless | hmore
  · have hrest : (length - n + n - 1) / n = 0 := Nat.div_eq_of_lt (by omega)
    rw [hrest]
    exact Nat.div_eq_of_lt_le (by omega) (by omega)
  · rw [← Nat.add_div_right _ hn]
    congr 1
    omega

lemma chunks_cons (hn : 0 < n) {list : List α} (hne : list ≠ []) :
    chunks n list = list.take n :: chunks n (list.drop n) := by
  have hlength := length_pos_of_ne_nil hne
  have hcount := ceilDiv_succ hn hlength
  rw [chunks, hcount, range_succ_eq_map, map_cons, map_map, chunks, length_drop]
  congr 1
  · rw [Nat.zero_mul, drop_zero]
  · refine map_congr_left fun index _ => ?_
    simp only [Function.comp, drop_drop, Nat.succ_mul, Nat.add_comm]

lemma chunks_induction {motive : List α → Prop} (hn : 0 < n) (hnil : motive [])
    (hcons : ∀ list, list ≠ [] → motive (list.drop n) → motive list) (list : List α) :
    motive list := by
  induction hlength : list.length using Nat.strongRecOn generalizing list with
  | ind length ih =>
    by_cases hne : list = []
    · rw [hne]
      exact hnil
    · have hpos := length_pos_of_ne_nil hne
      exact hcons list hne (ih (list.drop n).length (by rw [length_drop]; omega) _ rfl)

lemma flatten_chunks (hn : 0 < n) (list : List α) : (chunks n list).flatten = list := by
  induction list using chunks_induction hn with
  | hnil => rw [chunks_nil hn, flatten_nil]
  | hcons list hne ih => rw [chunks_cons hn hne, flatten_cons, ih, take_append_drop]

/-- Pieces of size `n`, the last one possibly shorter. -/
def Chunked (n : Nat) : List (List α) → Prop
  | [] => True
  | [last] => 0 < last.length ∧ last.length ≤ n
  | piece :: next :: rest => piece.length = n ∧ Chunked n (next :: rest)

lemma Chunked.chunks_flatten (hn : 0 < n) {pieces : List (List α)} (h : Chunked n pieces) :
    chunks n pieces.flatten = pieces := by
  induction pieces with
  | nil => exact chunks_nil hn
  | cons piece rest ih =>
    cases rest with
    | nil =>
      obtain ⟨hpos, hle⟩ := h
      rw [flatten_cons, flatten_nil, append_nil,
        chunks_cons hn (ne_nil_of_length_pos hpos), take_of_length_le hle,
        drop_of_length_le hle, chunks_nil hn]
    | cons next rest =>
      obtain ⟨hfull, hrest⟩ := h
      have hne : (piece :: next :: rest).flatten ≠ [] := by
        rw [flatten_cons]
        intro hnil
        rw [(append_eq_nil_iff.mp hnil).1] at hfull
        exact Nat.ne_of_lt hn hfull
      rw [chunks_cons hn hne, flatten_cons, take_left' hfull, drop_left' hfull, ih hrest]

lemma chunked_chunks (hn : 0 < n) (list : List α) : Chunked n (chunks n list) := by
  induction list using chunks_induction hn with
  | hnil =>
    rw [chunks_nil hn]
    trivial
  | hcons list hne ih =>
    have hpos := length_pos_of_ne_nil hne
    rw [chunks_cons hn hne]
    by_cases hlast : list.drop n = []
    · rw [hlast, chunks_nil hn]
      have hle : list.length ≤ n := drop_eq_nil_iff.mp hlast
      refine ⟨?_, ?_⟩ <;> rw [length_take] <;> omega
    · rw [chunks_cons hn hlast] at ih ⊢
      have hmore : n < list.length := Nat.lt_of_not_le fun hle =>
        hlast (drop_eq_nil_iff.mpr hle)
      exact ⟨by rw [length_take]; omega, ih⟩

lemma Chunked.map_append (extra : List α) {pieces : List (List α)} (h : Chunked n pieces) :
    Chunked (extra.length + n) (pieces.map (extra ++ ·)) := by
  induction pieces with
  | nil => trivial
  | cons piece rest ih =>
    cases rest with
    | nil =>
      obtain ⟨hpos, hle⟩ := h
      refine ⟨?_, ?_⟩ <;> rw [length_append] <;> omega
    | cons next rest =>
      obtain ⟨hfull, hrest⟩ := h
      exact ⟨by rw [length_append, hfull], ih hrest⟩

lemma flatten_map_append_length (extra : List α) (pieces : List (List α)) :
    (pieces.map (extra ++ ·)).flatten.length =
      pieces.length * extra.length + pieces.flatten.length := by
  induction pieces with
  | nil => simp
  | cons piece rest ih =>
    rw [map_cons, flatten_cons, length_append, ih, length_append,
      flatten_cons, length_append, length_cons, Nat.succ_mul]
    omega

variable {pieces : List (List α)}

lemma Chunked.split (h : Chunked n pieces) (hne : pieces ≠ []) :
    ∃ front last, pieces = front ++ [last] ∧ (∀ piece ∈ front, piece.length = n) ∧
      0 < last.length ∧ last.length ≤ n := by
  induction pieces with
  | nil => exact absurd rfl hne
  | cons piece rest ih =>
    cases rest with
    | nil => exact ⟨[], piece, rfl, fun _ hmem => absurd hmem not_mem_nil, h.1, h.2⟩
    | cons next rest =>
      obtain ⟨front, last, heq, hfull, hlast⟩ := ih h.2 (cons_ne_nil _ _)
      exact ⟨piece :: front, last, by rw [heq, cons_append],
        forall_mem_cons.mpr ⟨h.1, hfull⟩, hlast⟩

lemma flatten_length_of_full (h : ∀ piece ∈ pieces, piece.length = n) :
    pieces.flatten.length = pieces.length * n := by
  induction pieces with
  | nil => simp
  | cons piece rest ih =>
    obtain ⟨hpiece, hrest⟩ := forall_mem_cons.mp h
    rw [flatten_cons, length_append, hpiece, ih hrest, length_cons, Nat.succ_mul, Nat.add_comm]

lemma chunks_drop (hn : 0 < n) (count : Nat) (list : List α) :
    chunks n (list.drop (count * n)) = (chunks n list).drop count := by
  induction count generalizing list with
  | zero => rw [Nat.zero_mul, drop_zero, drop_zero]
  | succ count ih =>
    by_cases hne : list = []
    · rw [hne, drop_nil, chunks_nil hn, drop_nil]
    · rw [chunks_cons hn hne, drop_succ_cons, ← ih, drop_drop, Nat.succ_mul, Nat.add_comm]

lemma chunks_take (hn : 0 < n) (count : Nat) (list : List α) :
    chunks n (list.take (count * n)) = (chunks n list).take count := by
  induction count generalizing list with
  | zero => rw [Nat.zero_mul, take_zero, chunks_nil hn, take_zero]
  | succ count ih =>
    by_cases hne : list = []
    · rw [hne, take_nil, chunks_nil hn, take_nil]
    · have hsome : list.take ((count + 1) * n) ≠ [] := by
        rw [Ne, take_eq_nil_iff, not_or]
        exact ⟨Nat.ne_of_gt (Nat.mul_pos (Nat.succ_pos count) hn), hne⟩
      rw [chunks_cons hn hsome, chunks_cons hn hne, take_succ_cons, take_take,
        drop_take, Nat.succ_mul, Nat.add_sub_cancel, ih,
        Nat.min_eq_left (Nat.le_add_left _ _)]

lemma flatMap_slices (size count : Nat) (list : List α) :
    (List.range count).flatMap (fun index => (list.drop (index * size)).take size) =
      list.take (count * size) := by
  induction count with
  | zero => rw [Nat.zero_mul, take_zero, range_zero, flatMap_nil]
  | succ count ih =>
    rw [range_succ, flatMap_append, ih, flatMap_singleton, Nat.succ_mul, take_add]

end Vibeshine.Library
