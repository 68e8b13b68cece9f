import Mathlib.Data.List.Basic
import Mathlib.Order.Lattice

/-! # Cutting a text made of segments

Ranges that begin and end at borders of segments are cut out of a text, the last one first.
What is left are the segments outside of the ranges.
-/

namespace Vibeshine.Library.Cuts

open List

variable {α : Type}

def retain (kept : Nat → Bool) : Nat → List α → List α
  | _, [] => []
  | index, entry :: entries =>
    if kept index then entry :: retain kept (index + 1) entries
    else retain kept (index + 1) entries

section

variable {kept kept' : Nat → Bool} {index : Nat} {entries entries' : List α}

lemma retain_cons (entry : α) : retain kept index (entry :: entries) =
    if kept index then entry :: retain kept (index + 1) entries
    else retain kept (index + 1) entries := rfl

lemma retain_append : retain kept index (entries ++ entries') =
    retain kept index entries ++ retain kept (index + entries.length) entries' := by
  induction entries generalizing index with
  | nil => rfl
  | cons entry entries ih =>
    rw [cons_append, retain_cons, retain_cons, ih, length_cons, Nat.add_assoc, Nat.add_comm 1]
    split <;> rfl

lemma retain_congr (h : ∀ i, index ≤ i → i < index + entries.length → kept i = kept' i) :
    retain kept index entries = retain kept' index entries := by
  induction entries generalizing index with
  | nil => rfl
  | cons entry entries ih =>
    rw [length_cons] at h
    rw [retain_cons, retain_cons, h index le_rfl (by omega),
      ih fun i hi hlt => h i (by omega) (by omega)]

lemma retain_all (h : ∀ i, index ≤ i → i < index + entries.length → kept i = true) :
    retain kept index entries = entries := by
  induction entries generalizing index with
  | nil => rfl
  | cons entry entries ih =>
    rw [length_cons] at h
    rw [retain_cons, if_pos (h index le_rfl (by omega)),
      ih fun i hi hlt => h i (by omega) (by omega)]

lemma retain_none (h : ∀ i, index ≤ i → i < index + entries.length → kept i = false) :
    retain kept index entries = [] := by
  induction entries generalizing index with
  | nil => rfl
  | cons entry entries ih =>
    rw [length_cons] at h
    rw [retain_cons, h index le_rfl (by omega), if_neg Bool.false_ne_true,
      ih fun i hi hlt => h i (by omega) (by omega)]

lemma map_retain {β : Type} (f : α → β) :
    (retain kept index entries).map f = retain kept index (entries.map f) := by
  induction entries generalizing index with
  | nil => rfl
  | cons entry entries ih =>
    rw [retain_cons, map_cons, retain_cons]
    split
    · rw [map_cons, ih]
    · exact ih

end

/-! ## Segments -/

def border (segments : List (List α)) (index : Nat) : Nat := (segments.take index).flatten.length

def cut (text : List α) (start stop : Nat) : List α := text.take start ++ text.drop stop

section

variable {segments before after : List (List α)} {first last : Nat}

lemma flatten_split (segments : List (List α)) (index : Nat) :
    segments.flatten = (segments.take index).flatten ++ (segments.drop index).flatten := by
  rw [← flatten_append, take_append_drop]

lemma cut_flatten : cut segments.flatten (border segments first) (border segments last) =
      (segments.take first ++ segments.drop last).flatten := by
  rw [cut, flatten_append, border, border]
  congr 1
  · conv_lhs => rw [flatten_split segments first, take_left]
  · conv_lhs => rw [flatten_split segments last, drop_left]

lemma border_append (h : first ≤ before.length) :
    border (before ++ after) first = border before first := by
  rw [border, border, take_append_of_le_length h]

lemma retain_range {entries : List α} {kept : Nat → Bool} {first last : Nat} (hle : first ≤ last)
    (hlast : last ≤ entries.length) (hkept : ∀ index, index < last → kept index = true) :
    retain (fun index => !(first ≤ index && index < last) && kept index) 0 entries =
      (retain kept 0 entries).take first ++ (retain kept 0 entries).drop last := by
  have hfirstLength : (entries.take first).length = first := by
    rw [length_take]
    omega
  have hmiddleLength : ((entries.drop first).take (last - first)).length = last - first := by
    simp only [length_take, length_drop]
    omega
  have hlastLength : (entries.take last).length = last := by
    rw [length_take]
    omega
  have hsplit : retain kept 0 entries = entries.take last ++ retain kept last (entries.drop last) := by
    conv_lhs => rw [← take_append_drop last entries, retain_append, hlastLength, Nat.zero_add]
    rw [retain_all fun i _ hi => hkept i (by omega)]
  have hparts : entries = entries.take first ++ ((entries.drop first).take (last - first) ++ entries.drop last) := by
    conv_lhs => rw [← take_append_drop first entries,
      ← take_append_drop (last - first) (entries.drop first)]
    rw [drop_drop, Nat.add_sub_cancel' hle]
  have hafter : (retain kept 0 entries).drop last = retain kept last (entries.drop last) := by
    rw [hsplit, drop_append_of_le_length (by omega), drop_of_length_le (by omega), nil_append]
  have hbefore : (retain kept 0 entries).take first = entries.take first := by
    rw [hsplit, take_append_of_le_length (by omega), take_take, Nat.min_eq_left hle]
  rw [hbefore, hafter]
  conv_lhs => rw [hparts]
  rw [retain_append, retain_append, hfirstLength, hmiddleLength, Nat.zero_add,
    Nat.add_sub_cancel' hle]
  congr 1
  · apply retain_all
    intro i _ hi
    simp only [hkept i (by omega), Bool.and_true, Bool.not_eq_true', Bool.and_eq_false_iff,
      decide_eq_false_iff_not]
    omega
  · rw [retain_none, nil_append]
    · apply retain_congr
      intro i hi _
      simp only [not_lt.2 hi, decide_false, Bool.and_false, Bool.not_false, Bool.true_and]
    · intro i hi hlt
      have hin : i < last := by omega
      simp [hi, hin]

lemma mem_of_border {offset index : Nat} {c : α} {segment : List α}
    (hsegment : segments[index]? = some segment) (hc : segments.flatten[offset]? = some c)
    (hlow : border segments index ≤ offset) (hhigh : offset < border segments (index + 1)) :
    c ∈ segment := by
  obtain ⟨hindex, rfl⟩ := List.getElem?_eq_some_iff.1 hsegment
  have hnext : border segments (index + 1) = border segments index + segments[index].length := by
    rw [border, border, take_add_one, hsegment, Option.toList_some, flatten_append,
      length_append, flatten_singleton]
  rw [flatten_split segments index, getElem?_append_right hlow,
    drop_eq_getElem_cons hindex, flatten_cons, getElem?_append_left] at hc
  · exact mem_of_getElem? hc
  · change offset - border segments index < _
    omega

lemma cut_ranges {ranges : List (Nat × Nat)}
    (hordered : ranges.Pairwise fun range later => range.2 ≤ later.1)
    (hranges : ∀ range ∈ ranges, range.1 ≤ range.2 ∧ range.2 ≤ segments.length) :
    (ranges.foldr (fun range text => cut text (border segments range.1) (border segments range.2))
      segments.flatten) =
      (retain (fun index => !ranges.any fun range => range.1 ≤ index && index < range.2) 0
        segments).flatten := by
  induction ranges with
  | nil =>
    rw [retain_all (by simp)]
    rfl
  | cons range ranges ih =>
    obtain ⟨hfirst, hrest⟩ := pairwise_cons.1 hordered
    obtain ⟨hle, hlength⟩ := hranges range mem_cons_self
    rw [foldr_cons, ih hrest fun later hlater => hranges later (mem_cons_of_mem _ hlater)]
    simp only [any_cons, Bool.not_or]
    -- the later ranges leave everything up to the end of the first one
    have hkept : ∀ index, index < range.2 →
        (!ranges.any fun range => range.1 ≤ index && index < range.2) = true := by
      intro index hindex
      simp only [Bool.not_eq_true', any_eq_false, Bool.and_eq_true, decide_eq_true_eq]
      intro later hlater hin
      have := hfirst later hlater
      omega
    rw [retain_range hle hlength hkept]
    generalize hname : (fun index => !ranges.any fun range => range.1 ≤ index && index < range.2) =
      kept
    have hkept : ∀ index, index < range.2 → kept index = true := hname ▸ hkept
    have hborder : ∀ index, index ≤ range.2 →
        border segments index = border (retain kept 0 segments) index := by
      intro index hindex
      have htake : (segments.take range.2).length = range.2 := by
        rw [length_take]
        omega
      conv_lhs => rw [← take_append_drop range.2 segments, border_append (by omega)]
      conv_rhs => rw [← take_append_drop range.2 segments, retain_append]
      rw [retain_all fun i _ hi => hkept i (by omega), border_append (by omega)]
    rw [hborder range.1 hle, hborder range.2 le_rfl, cut_flatten]

lemma retain_flatten (kept : Nat → Bool) (index start : Nat) (segments : List (List α)) :
    ∃ keptAt : Nat → Bool,
      (retain kept index segments).flatten = retain keptAt start segments.flatten ∧
      ∀ offset, start ≤ offset → offset < start + segments.flatten.length → keptAt offset = false →
        ∃ i < segments.length, kept (index + i) = false ∧ start + border segments i ≤ offset ∧
          offset < start + border segments (i + 1) := by
  induction segments generalizing index start with
  | nil => exact ⟨fun _ => true, rfl, by simp⟩
  | cons segment segments ih =>
    obtain ⟨keptAt, hflatten, hleft⟩ := ih (index + 1) (start + segment.length)
    refine ⟨fun offset => if offset < start + segment.length then kept index else keptAt offset, ?_, ?_⟩
    · have hsegment : retain (fun offset => if offset < start + segment.length then kept index
          else keptAt offset) start segment = if kept index then segment else [] := by
        split
        · rename_i hkept
          exact retain_all fun i _ hi => by rw [if_pos hi, hkept]
        · rename_i hkept
          exact retain_none fun i _ hi => by rw [if_pos hi, Bool.eq_false_iff.2 hkept]
      have hrest : retain (fun offset => if offset < start + segment.length then kept index
          else keptAt offset) (start + segment.length) segments.flatten =
          (retain kept (index + 1) segments).flatten := by
        rw [hflatten]
        apply retain_congr
        intro i hi _
        rw [if_neg (not_lt.2 hi)]
      rw [flatten_cons, retain_append, hsegment, hrest, retain_cons]
      split
      · rw [flatten_cons]
      · rw [nil_append]
    · intro offset hstart hlength hout
      rw [flatten_cons, length_append] at hlength
      dsimp only at hout
      split at hout
      · exact ⟨0, by simp, by simpa using hout, by simpa [border] using hstart, by simpa [border]⟩
      · obtain ⟨i, hi, hkept, hlow, hhigh⟩ := hleft offset (by omega) (by omega) hout
        refine ⟨i + 1, by simpa using hi, by rwa [Nat.add_assoc, Nat.add_comm 1] at hkept, ?_, ?_⟩
        · simp only [border, take_succ_cons, flatten_cons, length_append] at hlow ⊢
          omega
        · simp only [border, take_succ_cons, flatten_cons, length_append] at hhigh ⊢
          omega

end

end Vibeshine.Library.Cuts
