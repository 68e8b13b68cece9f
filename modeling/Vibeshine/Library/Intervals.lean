import Mathlib.Data.List.Basic

/-! # Intervals chosen from left to right

Of intervals that are sorted by where they start, the longest first, a pass takes every one
that starts behind the last one taken. It covers all of them only under a condition on how
they overlap.
-/

namespace Vibeshine.Library.Intervals

open List

variable {α : Type} (start stop : α → Nat)

def Covers (interval : α) (position : Nat) : Prop :=
  start interval ≤ position ∧ position < stop interval

instance (interval : α) (position : Nat) : Decidable (Covers start stop interval position) :=
  inferInstanceAs (Decidable (_ ∧ _))

def choose : Nat → List α → List α
  | _, [] => []
  | cursor, interval :: rest =>
    if start interval < cursor then choose cursor rest
    else interval :: choose (stop interval) rest

/-- Intervals that are not empty, in the order in which they are gone through. -/
structure Arranged (intervals : List α) : Prop where
  proper : ∀ interval ∈ intervals, start interval < stop interval
  sorted : intervals.Pairwise fun first second =>
    start first ≤ start second ∧ (start first = start second → stop second ≤ stop first)

def Longest (intervals : List α) (interval : α) : Prop :=
  ∀ other ∈ intervals, start other = start interval → stop other ≤ stop interval

/-- The intervals that lead: no interval reaches over their start from before, or they start
where a leading one ends. -/
inductive Leading (intervals : List α) : α → Prop where
  | free {interval : α} (hmem : interval ∈ intervals)
      (hlongest : Longest start stop intervals interval)
      (hfree : ∀ other ∈ intervals, start other < start interval → stop other ≤ start interval) :
      Leading intervals interval
  | next {before interval : α} (hbefore : Leading intervals before) (hmem : interval ∈ intervals)
      (hlongest : Longest start stop intervals interval)
      (hnext : start interval = stop before) : Leading intervals interval

def Tiled (intervals : List α) : Prop :=
  ∀ leading, Leading start stop intervals leading → ∀ other ∈ intervals,
    start other < stop leading → stop leading < stop other →
    ∃ next ∈ intervals, start next = stop leading

variable {start stop} {intervals rest : List α} {cursor : Nat} {interval : α}

lemma Arranged.tail (h : Arranged start stop (interval :: rest)) : Arranged start stop rest :=
  ⟨(forall_mem_cons.mp h.proper).2, (pairwise_cons.mp h.sorted).2⟩

lemma Leading.mem (h : Leading start stop intervals interval) : interval ∈ intervals := by
  cases h with
  | free hmem | next _ hmem => exact hmem

/-! ## What is taken -/

lemma choose_subset (cursor : Nat) (intervals : List α) :
    choose start stop cursor intervals ⊆ intervals := by
  induction intervals generalizing cursor with
  | nil => exact List.Subset.refl _
  | cons interval rest ih =>
    unfold choose
    split
    · exact fun _ hmem => mem_cons_of_mem _ (ih cursor hmem)
    · exact cons_subset_cons _ (ih _)

section

variable (h : Arranged start stop intervals)

include h

lemma cursor_le : ∀ chosen ∈ choose start stop cursor intervals, cursor ≤ start chosen := by
  induction intervals generalizing cursor with
  | nil => exact fun _ h => absurd h not_mem_nil
  | cons interval rest ih =>
    unfold choose
    split
    · exact ih h.tail
    next hstart =>
      have hproper := h.proper interval mem_cons_self
      refine forall_mem_cons.mpr ⟨Nat.le_of_not_lt hstart, fun chosen hchosen => ?_⟩
      have := ih h.tail chosen hchosen
      omega

lemma choose_pairwise :
    (choose start stop cursor intervals).Pairwise fun first second => stop first ≤ start second := by
  induction intervals generalizing cursor with
  | nil => exact List.Pairwise.nil
  | cons interval rest ih =>
    unfold choose
    split
    · exact ih h.tail
    · exact pairwise_cons.mpr ⟨cursor_le h.tail, ih h.tail⟩

lemma choose_longest :
    ∀ chosen ∈ choose start stop cursor intervals, Longest start stop intervals chosen := by
  induction intervals generalizing cursor with
  | nil => exact fun _ h => absurd h not_mem_nil
  | cons interval rest ih =>
    have hproper := h.proper interval mem_cons_self
    have hsorted := (pairwise_cons.mp h.sorted).1
    unfold choose
    split
    next hskip =>
      intro chosen hchosen
      have hcursor := cursor_le h.tail chosen hchosen
      refine forall_mem_cons.mpr ⟨fun hsame => by omega, ih h.tail chosen hchosen⟩
    · refine forall_mem_cons.mpr ⟨?_, fun chosen hchosen => ?_⟩
      · exact forall_mem_cons.mpr ⟨fun _ => Nat.le_refl _, fun other hother hsame =>
          (hsorted other hother).2 hsame.symm⟩
      · have hcursor := cursor_le h.tail chosen hchosen
        exact forall_mem_cons.mpr ⟨fun hsame => by omega, ih h.tail chosen hchosen⟩

lemma exists_at_cursor {interval : α}
    (hmem : interval ∈ intervals) (hstart : start interval = cursor) :
    ∃ chosen ∈ choose start stop cursor intervals, start chosen = cursor := by
  induction intervals with
  | nil => cases hmem
  | cons first rest ih =>
    have hsorted := (pairwise_cons.mp h.sorted).1
    unfold choose
    split
    next hskip =>
      obtain rfl | hmem := mem_cons.mp hmem
      · omega
      · exact ih h.tail hmem
    next htake =>
      refine ⟨first, mem_cons_self, ?_⟩
      obtain rfl | hmem := mem_cons.mp hmem
      · exact hstart
      · have := (hsorted interval hmem).1
        omega

lemma exists_at_free {interval : α}
    (hmem : interval ∈ intervals) (hcursor : cursor ≤ start interval)
    (hfree : ∀ other ∈ intervals, start other < start interval → stop other ≤ start interval) :
    ∃ chosen ∈ choose start stop cursor intervals, start chosen = start interval := by
  induction intervals generalizing cursor with
  | nil => cases hmem
  | cons first rest ih =>
    obtain ⟨hfirst, hfree⟩ := forall_mem_cons.mp hfree
    have hsorted := (pairwise_cons.mp h.sorted).1
    unfold choose
    split
    next hskip =>
      obtain rfl | hmem := mem_cons.mp hmem
      · omega
      · exact ih h.tail hmem hcursor hfree
    next htake =>
      obtain hsame | hother := Nat.eq_or_lt_of_le (show start first ≤ start interval by
        obtain rfl | hmem := mem_cons.mp hmem
        · exact Nat.le_refl _
        · exact (hsorted interval hmem).1)
      · exact ⟨first, mem_cons_self, hsame⟩
      · obtain rfl | hmem := mem_cons.mp hmem
        · omega
        · obtain ⟨chosen, hchosen, hstart⟩ := ih h.tail hmem (hfirst hother) hfree
          exact ⟨chosen, mem_cons_of_mem _ hchosen, hstart⟩

lemma exists_at_end {before interval : α}
    (hbefore : before ∈ choose start stop cursor intervals) (hmem : interval ∈ intervals)
    (hnext : start interval = stop before) :
    ∃ chosen ∈ choose start stop cursor intervals, start chosen = stop before := by
  induction intervals generalizing cursor with
  | nil => cases hmem
  | cons first rest ih =>
    have hproper := h.proper first mem_cons_self
    have hlong : start before < stop before :=
      h.proper before (choose_subset cursor _ hbefore)
    unfold choose at hbefore ⊢
    split at hbefore
    next hskip =>
      have hcursor := cursor_le h.tail before hbefore
      rw [if_pos hskip]
      obtain rfl | hmem := mem_cons.mp hmem
      · omega
      · exact ih h.tail hbefore hmem
    next htake =>
      rw [if_neg htake]
      obtain rfl | hbefore := mem_cons.mp hbefore
      · obtain rfl | hmem := mem_cons.mp hmem
        · omega
        · obtain ⟨chosen, hchosen, hstart⟩ := exists_at_cursor h.tail hmem hnext
          exact ⟨chosen, mem_cons_of_mem _ hchosen, hstart⟩
      · have hcursor := cursor_le h.tail before hbefore
        obtain rfl | hmem := mem_cons.mp hmem
        · omega
        · obtain ⟨chosen, hchosen, hstart⟩ := ih h.tail hbefore hmem
          exact ⟨chosen, mem_cons_of_mem _ hchosen, hstart⟩

lemma Leading.chosen {interval : α}
    (hleading : Leading start stop intervals interval) : ∃ chosen ∈ choose start stop 0 intervals,
      start chosen = start interval ∧ stop chosen = stop interval := by
  have hsame : ∀ {interval : α}, interval ∈ intervals → Longest start stop intervals interval →
      (∃ chosen ∈ choose start stop 0 intervals, start chosen = start interval) →
      ∃ chosen ∈ choose start stop 0 intervals,
        start chosen = start interval ∧ stop chosen = stop interval := by
    intro interval hmem hlongest hexists
    obtain ⟨chosen, hchosen, hstart⟩ := hexists
    refine ⟨chosen, hchosen, hstart, Nat.le_antisymm ?_ ?_⟩
    · exact hlongest chosen (choose_subset 0 _ hchosen) hstart
    · exact choose_longest h chosen hchosen interval hmem hstart.symm
  induction hleading with
  | free hmem hlongest hfree =>
    exact hsame hmem hlongest (exists_at_free h hmem (Nat.zero_le _) hfree)
  | @next before interval hbefore hmem hlongest hnext ih =>
    obtain ⟨chosen, hchosen, -, hstop⟩ := ih
    obtain ⟨other, hother, hstart⟩ := exists_at_end h hchosen hmem (hnext.trans hstop.symm)
    exact hsame hmem hlongest ⟨other, hother, by rw [hstart, hstop, hnext]⟩

end

/-! ## What is covered -/

lemma covered_from (htiled : Tiled start stop intervals) (hproper : ∀ interval ∈ intervals,
      start interval < stop interval) (harranged : Arranged start stop rest)
    (hrest : rest ⊆ intervals)
    (hpassed : ∀ interval ∈ intervals, interval ∈ rest ∨ start interval < cursor)
    (hcursor : cursor = 0 ∨ ∃ leading, Leading start stop intervals leading ∧ stop leading = cursor) :
    ∀ interval ∈ intervals, ∀ position, cursor ≤ position → Covers start stop interval position →
      ∃ chosen ∈ choose start stop cursor rest, Covers start stop chosen position := by
  -- Where an interval reaches over the cursor, one of those left starts there.
  have hreached : ∀ {cursor : Nat} {rest : List α},
      (∀ interval ∈ intervals, interval ∈ rest ∨ start interval < cursor) →
      (cursor = 0 ∨ ∃ leading, Leading start stop intervals leading ∧ stop leading = cursor) →
      ∀ interval ∈ intervals, start interval < cursor → cursor < stop interval →
      ∃ next ∈ rest, start next = cursor := by
    intro cursor rest hpassed hcursor interval hmem hbefore hbehind
    obtain rfl | ⟨leading, hleading, rfl⟩ := hcursor
    · omega
    · obtain ⟨next, hnext, hstart⟩ := htiled leading hleading interval hmem hbefore hbehind
      exact ⟨next, (hpassed next hnext).resolve_right (by omega), hstart⟩
  induction rest generalizing cursor with
  | nil =>
    intro interval hmem position hposition hcovers
    obtain hleft | hbefore := hpassed interval hmem
    · cases hleft
    · obtain ⟨next, hnext, -⟩ := hreached hpassed hcursor interval hmem hbefore
        (Nat.lt_of_le_of_lt hposition hcovers.2)
      cases hnext
  | cons first rest ih =>
    obtain ⟨hfirst, hsub⟩ := cons_subset.mp hrest
    have hsorted := (pairwise_cons.mp harranged.sorted).1
    have hleast : ∀ interval ∈ first :: rest, start first ≤ start interval :=
      forall_mem_cons.mpr ⟨Nat.le_refl _, fun other hother => (hsorted other hother).1⟩
    intro interval hmem position hposition hcovers
    unfold choose
    split
    next hskip =>
      refine ih harranged.tail hsub (fun other hother => ?_) hcursor interval hmem position
        hposition hcovers
      obtain hleft | hbefore := hpassed other hother
      · obtain rfl | hleft := mem_cons.mp hleft
        · exact .inr hskip
        · exact .inl hleft
      · exact .inr hbefore
    next htake =>
      have hlongest : Longest start stop intervals first := by
        intro other hother hsame
        obtain hleft | hbefore := hpassed other hother
        · obtain rfl | hleft := mem_cons.mp hleft
          · exact Nat.le_refl _
          · exact (hsorted other hleft).2 hsame.symm
        · omega
      have hleading : Leading start stop intervals first := by
        by_cases hfree : ∀ other ∈ intervals, start other < start first → stop other ≤ start first
        · exact .free hfirst hlongest hfree
        · push Not at hfree
          obtain ⟨other, hother, hbefore, hover⟩ := hfree
          have hpast : start other < cursor := by
            obtain hleft | hpast := hpassed other hother
            · have := hleast other hleft
              omega
            · exact hpast
          obtain ⟨next, hnext, hstart⟩ := hreached hpassed hcursor other hother hpast (by omega)
          have hat : start first = cursor := by
            have := hleast next hnext
            omega
          obtain rfl | ⟨leading, hleading, hstop⟩ := hcursor
          · omega
          · exact .next hleading hfirst hlongest (hat.trans hstop.symm)
      have hlong := hproper first hfirst
      obtain hnear | hfar := Nat.lt_or_ge position (stop first)
      · refine ⟨first, mem_cons_self, ?_, hnear⟩
        refine Nat.le_of_not_lt fun hgap => ?_
        -- A position in a gap is covered from before the cursor, so that one starts there.
        obtain hleft | hbefore := hpassed interval hmem
        · have := hleast interval hleft
          have := hcovers.1
          omega
        · obtain ⟨next, hnext, hstart⟩ := hreached hpassed hcursor interval hmem hbefore
            (Nat.lt_of_le_of_lt hposition hcovers.2)
          have := hleast next hnext
          omega
      · obtain ⟨chosen, hchosen, hcovered⟩ := ih harranged.tail hsub
          (fun other hother => by
            obtain hleft | hbefore := hpassed other hother
            · obtain rfl | hleft := mem_cons.mp hleft
              · exact .inr hlong
              · exact .inl hleft
            · exact .inr (by omega))
          (.inr ⟨first, hleading, rfl⟩) interval hmem position hfar hcovers
        exact ⟨chosen, mem_cons_of_mem _ hchosen, hcovered⟩

lemma covered_iff_tiled (h : Arranged start stop intervals) :
    (∀ interval ∈ intervals, ∀ position, Covers start stop interval position →
      ∃ chosen ∈ choose start stop 0 intervals, Covers start stop chosen position) ↔
      Tiled start stop intervals := by
  constructor
  · intro hcovered leading hleading other hother hbefore hbehind
    obtain ⟨chosen, hchosen, hstart, hstop⟩ := hleading.chosen h
    obtain ⟨beyond, hbeyond, hfrom, hto⟩ :=
      hcovered other hother (stop leading) ⟨Nat.le_of_lt hbefore, hbehind⟩
    refine ⟨beyond, choose_subset 0 _ hbeyond, Nat.le_antisymm hfrom ?_⟩
    have hproper := h.proper leading hleading.mem
    have hdisjoint : stop chosen ≤ start beyond ∨ stop beyond ≤ start chosen := by
      have hne : chosen ≠ beyond := by
        rintro rfl
        omega
      have hpairwise := @choose_pairwise _ _ _ _ 0 h
      obtain ⟨i, hi, rfl⟩ := getElem_of_mem hchosen
      obtain ⟨j, hj, rfl⟩ := getElem_of_mem hbeyond
      obtain hlt | hgt := Nat.lt_or_gt_of_ne (show i ≠ j by rintro rfl; exact hne rfl)
      · exact .inl (pairwise_iff_getElem.mp hpairwise i j hi hj hlt)
      · exact .inr (pairwise_iff_getElem.mp hpairwise j i hj hi hgt)
    omega
  · intro htiled interval hmem position hcovers
    exact covered_from htiled h.proper h (List.Subset.refl _) (fun other hother => .inl hother)
      (.inl rfl) interval hmem position (Nat.zero_le _) hcovers

lemma Leading.congr {other : List α} (h : ∀ interval, interval ∈ intervals ↔ interval ∈ other)
    {interval : α} (hleading : Leading start stop intervals interval) :
    Leading start stop other interval := by
  induction hleading with
  | free hmem hlongest hfree =>
    exact .free ((h _).mp hmem) (fun x hx => hlongest x ((h x).mpr hx))
      fun x hx => hfree x ((h x).mpr hx)
  | next _ hmem hlongest hnext ih =>
    exact .next ih ((h _).mp hmem) (fun x hx => hlongest x ((h x).mpr hx)) hnext

lemma tiled_congr {other : List α} (h : ∀ interval, interval ∈ intervals ↔ interval ∈ other) :
    Tiled start stop intervals ↔ Tiled start stop other := by
  have hone : ∀ {first second : List α}, (∀ interval, interval ∈ first ↔ interval ∈ second) →
      Tiled start stop first → Tiled start stop second := by
    intro first second h htiled leading hleading beyond hbeyond hbefore hbehind
    obtain ⟨next, hnext, hstart⟩ := htiled leading (hleading.congr fun x => (h x).symm) beyond
      ((h beyond).mpr hbeyond) hbefore hbehind
    exact ⟨next, (h next).mp hnext, hstart⟩
  exact ⟨hone h, hone fun x => (h x).symm⟩

end Vibeshine.Library.Intervals
