import Vibeshine.Library.SegmentTree
import Mathlib.Order.WithBot
import Mathlib.Data.List.GetD
import Mathlib.Data.List.Sort

/-! # The index of remaining records

`fit_index_t` buckets records by their size in words, by a counting sort, and keeps
the earliest remaining record of each size in a minimum tree. It refines the list of
the remaining records in frame order.
-/

namespace Vibeshine.PyroWave

open Library List Function

/-- `LEAVES`; sizes in words have 12 bits. -/
@[irreducible] def leaves : Nat := 4096

lemma leaves_eq : leaves = 4096 := by unfold leaves; rfl

/-- `fit_index_t`; `NONE` is the top value. -/
structure FitIndex where
  heads : Nat → Nat
  ends : Nat → Nat
  order : Nat → Nat
  tree : Nat → WithTop Nat

namespace FitIndex

variable (words : List Nat)

/-- `++heads[w + 1]` for every size. -/
def countSizes : Nat → Nat :=
  words.foldl (fun heads w => Function.update heads (w + 1) (heads (w + 1) + 1)) fun _ => 0

def accumulate (heads : Nat → Nat) : (Nat → Nat) × (Nat → Nat) :=
  (List.range leaves).foldl (fun (arrays : (Nat → Nat) × (Nat → Nat)) b =>
    let heads := Function.update arrays.1 (b + 1) (arrays.1 (b + 1) + arrays.1 b)
    (heads, Function.update arrays.2 b (heads (b + 1)))) (heads, fun _ => 0)

/-- `order[fill[words[i]]++] = i` for every record. -/
def fillOrder (heads : Nat → Nat) (words : List Nat) : (Nat → Nat) × (Nat → Nat) :=
  (List.range words.length).foldl (fun (arrays : (Nat → Nat) × (Nat → Nat)) i =>
    let w := words.getD i 0
    (Function.update arrays.1 w (arrays.1 w + 1), Function.update arrays.2 (arrays.1 w) i))
    (heads, fun _ => 0)

def build : FitIndex :=
  let (heads, ends) := accumulate (countSizes words)
  let order := (fillOrder heads words).2
  { heads := heads
    ends := ends
    order := order
    tree := SegmentTree.fill (fun n =>
      if leaves ≤ n ∧ heads (n - leaves) < ends (n - leaves) then
        WithTop.some (order (heads (n - leaves)))
      else ⊤) (leaves - 1) }

/-- Earliest remaining record of at most `maxWords` words. -/
def earliestFitting (fit : FitIndex) (maxWords : Nat) : WithTop Nat :=
  if maxWords = 0 then ⊤
  else SegmentTree.query fit.tree leaves (leaves + min maxWords (leaves - 1) + 1) ⊤

/-- Earliest remaining record of exactly `words` words. -/
def earliestExact (fit : FitIndex) (words : Nat) : WithTop Nat :=
  if words < leaves then fit.tree (leaves + words) else ⊤

/-- Removes the earliest remaining record of `words` words. -/
def remove (fit : FitIndex) (words : Nat) : FitIndex :=
  let head := fit.heads words + 1
  { fit with
    heads := Function.update fit.heads words head
    tree := SegmentTree.repair (Function.update fit.tree (leaves + words)
      (if head < fit.ends words then WithTop.some (fit.order head) else ⊤)) ((leaves + words) / 2) }

section

variable (word : Nat → Nat)

/-- The first `n` records of one size, in frame order. -/
def bucket (n b : Nat) : List Nat := (List.range n).filter fun i => word i = b

/-- The number of the first `n` records of smaller sizes. -/
def start (n b : Nat) : Nat := ((List.range n).filter fun i => word i < b).length

lemma bucket_succ (n b : Nat) :
    bucket word (n + 1) b = bucket word n b ++ if word n = b then [n] else [] := by
  rw [bucket, range_succ, filter_append, bucket]
  by_cases h : word n = b <;> simp [h]

lemma start_succ (n b : Nat) :
    start word n (b + 1) = start word n b + (bucket word n b).length := by
  unfold start bucket
  induction n with
  | zero => rfl
  | succ n ih =>
    rw [range_succ]
    simp only [filter_append, length_append, ih]
    have hsingle : ∀ p : Nat → Bool, ([n].filter p).length = if p n then 1 else 0 := by
      intro p
      cases hp : p n <;> simp [hp]
    simp only [hsingle, decide_eq_true_eq]
    split <;> split <;> split <;> omega

lemma start_mono (n : Nat) {b b' : Nat} (h : b ≤ b') : start word n b ≤ start word n b' := by
  induction b' with
  | zero => rw [Nat.le_zero.mp h]
  | succ b' ih =>
    rcases Nat.lt_or_eq_of_le h with hlt | heq
    · rw [start_succ]
      exact Nat.le_trans (ih (by omega)) (Nat.le_add_right _ _)
    · rw [heq]

lemma bucket_length_mono {k n b : Nat} (h : k ≤ n) :
    (bucket word k b).length ≤ (bucket word n b).length := by
  induction n with
  | zero => rw [Nat.le_zero.mp h]
  | succ n ih =>
    rcases Nat.lt_or_eq_of_le h with hlt | heq
    · rw [bucket_succ, length_append]
      exact Nat.le_trans (ih (by omega)) (Nat.le_add_right _ _)
    · rw [heq]

lemma run_disjoint {n k b b' t : Nat} (hk : k < n) (hword : word k = b') (hne : b ≠ b')
    (ht : t < (bucket word k b).length) :
    start word n b + t ≠ start word n b' + (bucket word k b').length := by
  have hown : (bucket word k b).length ≤ (bucket word n b).length :=
    bucket_length_mono word (Nat.le_of_lt hk)
  have hother : (bucket word k b').length + 1 ≤ (bucket word n b').length := by
    have hsucc := bucket_length_mono word (b := b') (Nat.succ_le_of_lt hk)
    rw [bucket_succ, if_pos hword, length_append] at hsucc
    exact hsucc
  have hend := start_succ word n b
  have hend' := start_succ word n b'
  rcases Nat.lt_or_gt_of_ne hne with hlt | hgt
  · have := start_mono word n (show b + 1 ≤ b' by omega)
    omega
  · have := start_mono word n (show b' + 1 ≤ b by omega)
    omega

/-! ## The arrays of the constructor -/

lemma countSizes_eq (n : Nat) (b : Nat) :
    countSizes ((List.range n).map word) (b + 1) = (bucket word n b).length ∧
      countSizes ((List.range n).map word) 0 = 0 := by
  unfold countSizes
  induction n with
  | zero => exact ⟨rfl, rfl⟩
  | succ n ih =>
    rw [range_succ, map_append, foldl_append]
    simp only [map_cons, map_nil, foldl_cons, foldl_nil]
    generalize ((List.range n).map word).foldl (fun heads w =>
      Function.update heads (w + 1) (heads (w + 1) + 1)) (fun _ => 0) = heads at ih ⊢
    refine ⟨?_, by rw [update_of_ne (by omega)]; exact ih.2⟩
    rw [bucket_succ, length_append]
    by_cases h : word n = b
    · rw [h, update_self, ih.1, if_pos rfl]
      rfl
    · rw [update_of_ne (by omega), ih.1, if_neg h]
      rfl

lemma accumulate_prefix (n k : Nat) (heads : Nat → Nat)
    (hcounts : ∀ b, heads (b + 1) = (bucket word n b).length) (hzero : heads 0 = 0) :
    let arrays := (List.range k).foldl (fun (arrays : (Nat → Nat) × (Nat → Nat)) b =>
      let heads := Function.update arrays.1 (b + 1) (arrays.1 (b + 1) + arrays.1 b)
      (heads, Function.update arrays.2 b (heads (b + 1)))) (heads, fun _ => 0)
    (∀ b ≤ k, arrays.1 b = start word n b) ∧
      (∀ b, k ≤ b → arrays.1 (b + 1) = (bucket word n b).length) ∧
      ∀ b < k, arrays.2 b = start word n (b + 1) := by
  induction k with
  | zero =>
    refine ⟨fun b hb => ?_, fun b _ => hcounts b, fun b hb => absurd hb (Nat.not_lt_zero _)⟩
    rw [Nat.le_zero.mp hb]
    refine hzero.trans ?_
    simp [start]
  | succ k ih =>
    rw [range_succ, foldl_append]
    simp only [foldl_cons, foldl_nil]
    generalize (List.range k).foldl (fun (arrays : (Nat → Nat) × (Nat → Nat)) b =>
      (Function.update arrays.1 (b + 1) (arrays.1 (b + 1) + arrays.1 b), Function.update arrays.2 b
          (Function.update arrays.1 (b + 1) (arrays.1 (b + 1) + arrays.1 b) (b + 1))))
      (heads, fun _ => 0) = arrays at ih ⊢
    obtain ⟨hsums, hraw, hends⟩ := ih
    have hnew : arrays.1 (k + 1) + arrays.1 k = start word n (k + 1) := by
      rw [hraw k (Nat.le_refl _), hsums k (Nat.le_refl _), start_succ]
      omega
    refine ⟨fun b hb => ?_, fun b hb => ?_, fun b hb => ?_⟩
    · by_cases h : b = k + 1
      · rw [h, update_self, hnew]
      · rw [update_of_ne h]
        exact hsums b (by omega)
    · rw [update_of_ne (by omega)]
      exact hraw b (by omega)
    · by_cases h : b = k
      · rw [h, update_self, update_self, hnew]
      · rw [update_of_ne h]
        exact hends b (by omega)

lemma fillOrder_prefix (n k : Nat) (hk : k ≤ n) (heads : Nat → Nat)
    (hsmall : ∀ i < n, word i < leaves) (hheads : ∀ b < leaves, heads b = start word n b) :
    let arrays := (List.range k).foldl (fun (arrays : (Nat → Nat) × (Nat → Nat)) i =>
      (Function.update arrays.1 (word i) (arrays.1 (word i) + 1),
        Function.update arrays.2 (arrays.1 (word i)) i)) (heads, fun _ => 0)
    ∀ b < leaves, arrays.1 b = start word n b + (bucket word k b).length ∧
      (List.range (bucket word k b).length).map (fun t => arrays.2 (start word n b + t)) =
        bucket word k b := by
  induction k with
  | zero =>
    intro arrays b hb
    exact ⟨hheads b hb, rfl⟩
  | succ k ih =>
    have hih := ih (by omega)
    rw [range_succ, foldl_append]
    simp only [foldl_cons, foldl_nil]
    generalize (List.range k).foldl (fun (arrays : (Nat → Nat) × (Nat → Nat)) i =>
      (Function.update arrays.1 (word i) (arrays.1 (word i) + 1),
        Function.update arrays.2 (arrays.1 (word i)) i)) (heads, fun _ => 0) = arrays
      at hih ⊢
    have hposition := (hih (word k) (hsmall k (by omega))).1
    intro b hb
    obtain ⟨hfill, horder⟩ := hih b hb
    rw [bucket_succ]
    by_cases h : word k = b
    · subst h
      rw [if_pos rfl, update_self, hfill, length_append, length_singleton]
      refine ⟨by omega, ?_⟩
      rw [range_succ, map_append, map_singleton, update_self]
      congr 1
      refine Eq.trans (map_congr_left fun t ht => ?_) horder
      rw [update_of_ne]
      have := mem_range.mp ht
      omega
    · rw [if_neg h, append_nil, update_of_ne (Ne.symm h)]
      refine ⟨hfill, Eq.trans (map_congr_left fun t ht => ?_) horder⟩
      rw [update_of_ne]
      rw [hposition]
      exact run_disjoint word (by omega) rfl (Ne.symm h) (mem_range.mp ht)

end

/-! ## The remaining records -/

/-- The first of a list, or `NONE`. -/
def earliest : List Nat → WithTop Nat
  | [] => ⊤
  | i :: _ => WithTop.some i

/-- The index keeps the records of `remaining`, which are listed in frame order. -/
structure Holds (fit : FitIndex) (word : Nat → Nat) (remaining : List Nat) : Prop where
  runs : ∀ b < leaves, (List.range' (fit.heads b) (fit.ends b - fit.heads b)).map fit.order =
    remaining.filter fun i => word i = b
  leaf : ∀ b < leaves, fit.tree (leaves + b) = earliest (remaining.filter fun i => word i = b)
  heap : SegmentTree.Heap leaves fit.tree
  sorted : remaining.Pairwise (· < ·)

lemma earliest_run (order : Nat → Nat) (head finish : Nat) :
    (if head < finish then WithTop.some (order head) else ⊤) =
      earliest ((List.range' head (finish - head)).map order) := by
  split
  · next h =>
    obtain ⟨rest, hrest⟩ : ∃ rest, finish - head = rest + 1 := ⟨finish - head - 1, by omega⟩
    rw [hrest, range'_succ]
    rfl
  · next h =>
    rw [show finish - head = 0 by omega]
    rfl

lemma build_holds (hsmall : ∀ w ∈ words, w < leaves) :
    (build words).Holds (fun i => words.getD i 0) (List.range words.length) := by
  have hwords : words = (List.range words.length).map fun i => words.getD i 0 := by
    refine ext_getElem (by simp) fun i hfirst hsecond => ?_
    rw [getElem_map, getElem_range, getD_eq_getElem _ _ hfirst]
  have hword : ∀ i < words.length, words.getD i 0 < leaves := by
    intro i hi
    rw [getD_eq_getElem _ _ hi]
    exact hsmall _ (getElem_mem hi)
  have hcounts : ∀ b, countSizes words (b + 1) =
      (bucket (fun i => words.getD i 0) words.length b).length ∧ countSizes words 0 = 0 := by
    intro b
    have := countSizes_eq (fun i => words.getD i 0) words.length b
    rwa [← hwords] at this
  obtain ⟨hheads, -, hends⟩ := accumulate_prefix (fun i => words.getD i 0) words.length leaves
    (countSizes words) (fun b => (hcounts b).1) (hcounts 0).2
  have hfilled := fillOrder_prefix (fun i => words.getD i 0) words.length words.length
    (Nat.le_refl _) (accumulate (countSizes words)).1 hword
    fun b hb => hheads b (Nat.le_of_lt hb)
  have hruns : ∀ b < leaves, (List.range' ((build words).heads b)
      ((build words).ends b - (build words).heads b)).map (build words).order =
      (List.range words.length).filter fun i => words.getD i 0 = b := by
    intro b hb
    have hhead : (build words).heads b = start (fun i => words.getD i 0) words.length b :=
      hheads b (Nat.le_of_lt hb)
    have hend : (build words).ends b = start (fun i => words.getD i 0) words.length (b + 1) :=
      hends b hb
    rw [hhead, hend, start_succ, Nat.add_sub_cancel_left, range'_eq_map_range, map_map]
    exact (hfilled b hb).2
  refine ⟨hruns, fun b hb => ?_, ?_, pairwise_lt_range⟩
  · rw [← hruns b hb, ← earliest_run]
    refine (SegmentTree.fill_of_lt _ (show leaves - 1 < leaves + b by omega)).trans ?_
    rw [show leaves + b - leaves = b by omega]
    by_cases hrun : (build words).heads b < (build words).ends b
    · rw [if_pos hrun]
      exact if_pos ⟨Nat.le_add_right _ _, hrun⟩
    · rw [if_neg hrun]
      exact if_neg fun h => hrun h.2
  · refine SegmentTree.heap_fill _ _ fun m hfirst hlast => ?_
    omega

section

variable {fit : FitIndex} {word : Nat → Nat} {remaining : List Nat}

def firstWhere (remaining : List Nat) (p : Nat → Bool) : WithTop Nat :=
  earliest (remaining.filter p)

lemma earliest_mem {records : List Nat} {i : Nat} (h : earliest records = WithTop.some i) :
    i ∈ records := by
  cases records with
  | nil => cases h
  | cons first rest =>
    rw [WithTop.coe_inj.mp h]
    exact mem_cons_self

lemma earliest_le {records : List Nat} (hsorted : records.Pairwise (· < ·)) {i : Nat}
    (h : i ∈ records) : earliest records ≤ WithTop.some i := by
  cases records with
  | nil => cases h
  | cons first rest =>
    rcases mem_cons.mp h with rfl | h
    · exact le_refl _
    · exact WithTop.coe_le_coe.mpr (Nat.le_of_lt ((pairwise_cons.mp hsorted).1 i h))

lemma firstWhere_le (hsorted : remaining.Pairwise (· < ·)) {p : Nat → Bool} {i : Nat}
    (hmem : i ∈ remaining) (hp : p i = true) : firstWhere remaining p ≤ WithTop.some i :=
  earliest_le (hsorted.sublist filter_sublist) (mem_filter.mpr ⟨hmem, hp⟩)

lemma firstWhere_mem {p : Nat → Bool} {i : Nat} (h : firstWhere remaining p = WithTop.some i) :
    i ∈ remaining ∧ p i = true := mem_filter.mp (earliest_mem h)

lemma firstWhere_eq_top {p : Nat → Bool} (h : firstWhere remaining p = ⊤) :
    ∀ i ∈ remaining, p i = false := by
  intro i hmem
  by_contra hp
  have hkept : i ∈ remaining.filter p := mem_filter.mpr ⟨hmem, by simpa using hp⟩
  unfold firstWhere at h
  cases hfilter : remaining.filter p with
  | nil =>
    rw [hfilter] at hkept
    cases hkept
  | cons first rest =>
    rw [hfilter] at h
    cases h

section

variable (h : fit.Holds word remaining)

include h

lemma earliestFitting_eq
    (hsmall : ∀ i ∈ remaining, word i < leaves) {maxWords : Nat} (hpos : 0 < maxWords) :
    fit.earliestFitting maxWords = firstWhere remaining fun i => word i ≤ maxWords := by
  rw [earliestFitting, if_neg (by omega)]
  have hleaves : 0 < leaves := by rw [leaves_eq]; decide
  have hwidth : leaves + min maxWords (leaves - 1) + 1 ≤ 2 * leaves := by omega
  refine le_antisymm ?_ ?_
  · cases hfirst : firstWhere remaining fun i => word i ≤ maxWords with
    | top => exact le_top
    | coe i =>
      obtain ⟨hmem, hfits⟩ := firstWhere_mem hfirst
      have hword := hsmall i hmem
      rw [decide_eq_true_eq] at hfits
      refine (SegmentTree.query_le h.heap hleaves hwidth
        (show leaves ≤ leaves + word i by omega) (by omega)).trans ?_
      rw [h.leaf (word i) hword]
      exact earliest_le (h.sorted.sublist filter_sublist)
        (mem_filter.mpr ⟨hmem, by simp⟩)
  · rcases (SegmentTree.query_mem h.heap hleaves hwidth :
        SegmentTree.query fit.tree _ _ ⊤ = ⊤ ∨ _) with htop | ⟨node, hlow, hhigh, heq⟩
    · rw [htop]
      exact le_top
    · rw [heq]
      obtain ⟨b, rfl⟩ : ∃ b, node = leaves + b := ⟨node - leaves, by omega⟩
      rw [h.leaf b (by omega)]
      cases hleaf : earliest (remaining.filter fun i => word i = b) with
      | top => exact le_top
      | coe i =>
        obtain ⟨hmem, hsize⟩ := mem_filter.mp (earliest_mem hleaf)
        rw [decide_eq_true_eq] at hsize
        refine firstWhere_le h.sorted hmem ?_
        rw [decide_eq_true_eq]
        omega

lemma earliestExact_eq (hsmall : ∀ i ∈ remaining, word i < leaves) (words : Nat) :
    fit.earliestExact words = firstWhere remaining fun i => word i = words := by
  unfold earliestExact
  split
  · next hwords => exact h.leaf words hwords
  · next hwords =>
    have hnone : (remaining.filter fun i => word i = words) = [] := by
      rw [filter_eq_nil_iff]
      intro i hmem hsize
      rw [decide_eq_true_eq] at hsize
      exact hwords (hsize ▸ hsmall i hmem)
    rw [firstWhere, hnone]
    rfl

lemma remove_holds {i : Nat}
    (hfirst : firstWhere remaining (fun j => word j = word i) = WithTop.some i)
    (hsmall : word i < leaves) : (fit.remove (word i)).Holds word (remaining.erase i) := by
  have hmem := (firstWhere_mem hfirst).1
  have hnodup : remaining.Nodup := h.sorted.imp fun hlt => Nat.ne_of_lt hlt
  obtain ⟨rest, hrest⟩ : ∃ rest, (remaining.filter fun j => word j = word i) = i :: rest := by
    unfold firstWhere at hfirst
    cases hfilter : remaining.filter fun j => word j = word i with
    | nil =>
      rw [hfilter] at hfirst
      cases hfirst
    | cons first rest =>
      rw [hfilter] at hfirst
      exact ⟨rest, by rw [WithTop.coe_inj.mp hfirst]⟩
  have herased : ∀ b, ((remaining.erase i).filter fun j => word j = b) =
      if b = word i then rest else remaining.filter fun j => word j = b := by
    intro b
    rw [hnodup.erase_eq_filter, filter_filter]
    split
    · next hb =>
      subst hb
      have hrestNodup : (i :: rest).Nodup := hrest ▸ hnodup.filter _
      have hswap : (remaining.filter fun j => decide (word j = word i) && (j != i)) =
          (remaining.filter fun j => word j = word i).filter (· != i) := by
        rw [filter_filter]
        refine filter_congr fun j _ => Bool.and_comm _ _
      rw [hswap, hrest, filter_cons_of_neg (by simp), filter_eq_self]
      intro j hj
      rw [bne_iff_ne]
      rintro rfl
      exact (nodup_cons.mp hrestNodup).1 hj
    · next hb =>
      refine filter_congr fun j _ => ?_
      by_cases hj : word j = b
      · have hne : j ≠ i := by
          rintro rfl
          exact hb hj.symm
        simp [hj, hne]
      · simp [hj]
  have hrun : (List.range' (fit.heads (word i) + 1)
      (fit.ends (word i) - (fit.heads (word i) + 1))).map fit.order = rest := by
    have hruns := h.runs (word i) hsmall
    rw [hrest] at hruns
    cases hlength : fit.ends (word i) - fit.heads (word i) with
    | zero =>
      rw [hlength] at hruns
      cases hruns
    | succ length =>
      rw [hlength, range'_succ, map_cons] at hruns
      rw [show fit.ends (word i) - (fit.heads (word i) + 1) = length by omega]
      exact (List.cons.inj hruns).2
  refine ⟨fun b hb => ?_, fun b hb => ?_, ?_, h.sorted.sublist erase_sublist⟩
  · rw [herased b]
    show (List.range' (Function.update fit.heads (word i) (fit.heads (word i) + 1) b)
      (fit.ends b - Function.update fit.heads (word i) (fit.heads (word i) + 1) b)).map
        fit.order = _
    split
    · next hbucket => rw [hbucket, update_self, hrun]
    · next hbucket =>
      rw [update_of_ne hbucket]
      exact h.runs b hb
  · rw [herased b]
    refine (SegmentTree.repair_of_lt _ (by omega)).trans ?_
    by_cases hbucket : b = word i
    · rw [if_pos hbucket, hbucket, update_self, earliest_run, hrun]
    · rw [if_neg hbucket, update_of_ne (by omega)]
      exact h.leaf b hb
  · exact SegmentTree.heap_repair _ _ (h.heap.update (Nat.le_add_right _ _) _)

end

end

/-! ## Runs of removals -/

section

variable (word : Nat → Nat)

def takeAway (remaining : List Nat) (words : Nat) : List Nat :=
  match firstWhere remaining fun i => word i = words with
  | ⊤ => remaining
  | WithTop.some i => remaining.erase i

def Removable : List Nat → List Nat → Prop
  | _, [] => True
  | remaining, words :: sizes => (∃ i ∈ remaining, word i = words) ∧
      Removable (takeAway word remaining words) sizes

end

lemma Holds.removals {fit : FitIndex} {word : Nat → Nat} {remaining : List Nat}
    (h : fit.Holds word remaining) (hsmall : ∀ i ∈ remaining, word i < leaves) {sizes : List Nat}
    (hsizes : Removable word remaining sizes) :
    (sizes.foldl remove fit).Holds word (sizes.foldl (takeAway word) remaining) ∧
      ∀ i ∈ sizes.foldl (takeAway word) remaining, word i < leaves := by
  induction sizes generalizing fit remaining with
  | nil => exact ⟨h, hsmall⟩
  | cons words sizes ih =>
    obtain ⟨⟨i, hi, hword⟩, hrest⟩ := hsizes
    rw [foldl_cons, foldl_cons]
    unfold takeAway at hrest ⊢
    cases hfirst : firstWhere remaining fun i => word i = words with
    | top =>
      have hnone := firstWhere_eq_top hfirst i hi
      simp [hword] at hnone
    | coe first =>
      obtain ⟨hmem, hsize⟩ := firstWhere_mem hfirst
      obtain rfl : word first = words := by simpa using hsize
      rw [hfirst] at hrest
      exact ih (remove_holds h hfirst (hsmall first hmem))
        (fun j hj => hsmall j (mem_of_mem_erase hj)) hrest

/-- After any removals, a query for at least one word is the scan of the remaining records. A query
for no words finds nothing. -/
theorem fit_index_scans (words sizes : List Nat) (hsmall : ∀ w ∈ words, w < 4096)
    (hsizes : Removable (fun i => words.getD i 0) (List.range words.length) sizes) :
    let fit := sizes.foldl remove (build words)
    let remaining := sizes.foldl (takeAway fun i => words.getD i 0) (List.range words.length)
    remaining.Pairwise (· < ·) ∧ fit.earliestFitting 0 = ⊤ ∧
      (∀ maxWords, 0 < maxWords → fit.earliestFitting maxWords =
        firstWhere remaining fun i => words.getD i 0 ≤ maxWords) ∧
      ∀ exact, fit.earliestExact exact = firstWhere remaining fun i => words.getD i 0 = exact := by
  rw [← leaves_eq] at hsmall
  have hword : ∀ i ∈ List.range words.length, words.getD i 0 < leaves := by
    intro i hi
    rw [getD_eq_getElem _ _ (mem_range.mp hi)]
    exact hsmall _ (getElem_mem _)
  obtain ⟨hholds, hleft⟩ := (build_holds words hsmall).removals hword hsizes
  exact ⟨hholds.sorted, if_pos rfl, fun _ hpos => earliestFitting_eq hholds hleft hpos,
    earliestExact_eq hholds hleft⟩

theorem fit_index_scans_three :
    ([3].foldl remove (build [3, 1, 3])).earliestFitting 3 = WithTop.some 1 ∧
      ([3].foldl remove (build [3, 1, 3])).earliestExact 3 = WithTop.some 2 := by
  obtain ⟨-, -, hfitting, hexact⟩ := fit_index_scans [3, 1, 3] [3] (by simp)
    ⟨⟨0, by decide, rfl⟩, trivial⟩
  exact ⟨hfitting 3 (by decide), hexact 3⟩

/-- The only record has no words, and is not found among those of at most none. -/
theorem no_words_found : (build [0]).earliestFitting 0 ≠
    firstWhere (List.range [0].length) fun i => [0].getD i 0 ≤ 0 := by
  rw [earliestFitting, if_pos rfl]
  exact WithTop.top_ne_coe

end FitIndex

end Vibeshine.PyroWave
