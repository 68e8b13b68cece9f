import Vibeshine.Library.Cuts
import Vibeshine.Pairing.Boundaries

/-! # The text of a candidate

The records that a reconciliation removes are cut out of the text of the snapshot, runs of
neighbours at once, with the separator after them, or before them at the end of the array.
-/

namespace Vibeshine.Pairing

open Library Library.JsonText Library.Cuts List
open Library.Json (isBlank Delimited)

/-- A record of a group, as it is reported. -/
structure GroupRecord (σ : Type) where
  index : Nat
  uuid : JsonTree σ
  name : JsonTree σ
  enabled : Bool

/-- The records of one certificate. -/
structure Group (σ : Type) where
  certificateSha256 : String
  records : List (GroupRecord σ)

structure Analysis (σ : Type) where
  candidate : JsonTree σ
  groups : List (Group σ) := []
  duplicates : List (List Nat) := []
  sourceSpans : List Span := []
  sourceIndices : List Nat := []
  removedIndices : Finset Nat := ∅
  changed : Bool := false

def withNamedDevices {σ : Type} (document : JsonTree σ) (records : List (JsonTree σ)) : JsonTree σ :=
  match document.member? "root" with
  | some root => document.set "root" (root.set "named_devices" (.array records))
  | none => document

def runsFrom (first last : Nat) : List Nat → List (Nat × Nat)
  | [] => [(first, last)]
  | index :: indices =>
    if index = last + 1 then runsFrom first index indices
    else (first, last) :: runsFrom index index indices

def runs : List Nat → List (Nat × Nat)
  | [] => []
  | first :: indices => runsFrom first first indices

def spanAt (spans : List Span) (index : Nat) : Span := spans.getD index { start := 0, stop := 0 }

def removal (spans : List Span) (run : Nat × Nat) : Except RecoveryError Span :=
  if run.2 + 1 < spans.length then
    .ok { start := (spanAt spans run.1).start, stop := (spanAt spans (run.2 + 1)).start }
  else do
    require (0 < run.1) "Recovery must retain a named client."
    pure { start := (spanAt spans (run.1 - 1)).stop, stop := (spanAt spans run.2).stop }

def JsonLibrary.candidateBytes {σ : Type} (lib : JsonLibrary σ) (bytes : List Char)
    (analysis : Analysis σ) : Except RecoveryError (List Char) := do
  let removals ← (runs (analysis.removedIndices.sort (· ≤ ·))).mapM (removal analysis.sourceSpans)
  let result := removals.foldr (fun span text => cut text span.start span.stop) bytes
  let parsed ← lib.parseSnapshot result
  require (lib.same parsed analysis.candidate)
    "Prepared state does not match the reviewed reconciliation."
  pure result

/-! ## Runs -/

def Apart (runs : List (Nat × Nat)) : Prop :=
  (∀ run ∈ runs, run.1 ≤ run.2) ∧ runs.Pairwise fun run later => run.2 + 1 < later.1

lemma runsFrom_spec {first last : Nat} {indices : List Nat} (hle : first ≤ last)
    (hordered : (last :: indices).Pairwise (· < ·)) :
    Apart (runsFrom first last indices) ∧ (∀ run ∈ runsFrom first last indices, first ≤ run.1) ∧
      ∀ index, (∃ run ∈ runsFrom first last indices, run.1 ≤ index ∧ index ≤ run.2) ↔
        first ≤ index ∧ index ≤ last ∨ index ∈ indices := by
  induction indices generalizing first last with
  | nil =>
    refine ⟨⟨?_, pairwise_singleton _ _⟩, ?_, ?_⟩ <;> simp [runsFrom, hle]
  | cons next indices ih =>
    obtain ⟨hlast, hrest⟩ := pairwise_cons.1 hordered
    have hnext := hlast next mem_cons_self
    rw [runsFrom]
    split
    · rename_i hadjacent
      obtain ⟨hapart, hfirst, hcover⟩ := ih (by omega : first ≤ next) hrest
      refine ⟨hapart, hfirst, fun index => ?_⟩
      rw [hcover, mem_cons]
      constructor
      · rintro (hin | hin)
        · by_cases hsame : index = next
          · exact .inr (.inl hsame)
          · exact .inl (by omega)
        · exact .inr (.inr hin)
      · rintro (hin | rfl | hin)
        · exact .inl (by omega)
        · exact .inl (by omega)
        · exact .inr hin
    · rename_i hgap
      obtain ⟨⟨hruns, hpairwise⟩, hfirst, hcover⟩ := ih le_rfl hrest
      refine ⟨⟨?_, pairwise_cons.2 ⟨fun run hrun => ?_, hpairwise⟩⟩, ?_, fun index => ?_⟩
      · intro run hrun
        obtain rfl | hrun := mem_cons.1 hrun
        · exact hle
        · exact hruns run hrun
      · have := hfirst run hrun
        change last + 1 < run.1
        omega
      · intro run hrun
        obtain rfl | hrun := mem_cons.1 hrun
        · exact le_rfl
        · have := hfirst run hrun
          omega
      · simp only [mem_cons, exists_eq_or_imp, hcover]
        refine or_congr_right (or_congr_left ?_)
        omega

lemma runs_spec {indices : List Nat} (hordered : indices.Pairwise (· < ·)) : Apart (runs indices) ∧
      ∀ index, (∃ run ∈ runs indices, run.1 ≤ index ∧ index ≤ run.2) ↔ index ∈ indices := by
  cases indices with
  | nil => simp [runs, Apart]
  | cons first indices =>
    obtain ⟨hapart, _, hcover⟩ := runsFrom_spec le_rfl hordered
    refine ⟨hapart, fun index => ?_⟩
    rw [runs, hcover, mem_cons]
    refine or_congr_left ?_
    omega

lemma Apart.separated {found : List (Nat × Nat)} (h : Apart found) {run other : Nat × Nat}
    (hrun : run ∈ found) (hother : other ∈ found) :
    run = other ∨ run.2 + 1 < other.1 ∨ other.2 + 1 < run.1 := by
  by_cases hne : run = other
  · exact .inl hne
  · have hpairwise : found.Pairwise fun run other => run.2 + 1 < other.1 ∨ other.2 + 1 < run.1 :=
      h.2.imp .inl
    have hsymm : Std.Symm fun run other : Nat × Nat => run.2 + 1 < other.1 ∨ other.2 + 1 < run.1 :=
      ⟨fun _ _ => Or.symm⟩
    exact .inr (hpairwise.forall hrun hother hne)

/-! ## What is cut out

A text between brackets is taken apart into segments: what is before the first record, the
records, the separators between them, and what is after the last one.
-/

def segmentRange (count : Nat) (run : Nat × Nat) : Nat × Nat :=
  if run.2 + 1 < count then (2 * run.1 + 1, 2 * run.2 + 3) else (2 * run.1, 2 * run.2 + 2)

def segmentRanges (count : Nat) (removed : Finset Nat) : List (Nat × Nat) :=
  (runs (removed.sort (· ≤ ·))).map (segmentRange count)

def keptSegment (count : Nat) (removed : Finset Nat) (index : Nat) : Bool :=
  !(segmentRanges count removed).any fun range => range.1 ≤ index && index < range.2

section

variable {count : Nat} {removed : Finset Nat}

lemma removed_runs (removed : Finset Nat) : Apart (runs (removed.sort (· ≤ ·))) ∧
      ∀ index, (∃ run ∈ runs (removed.sort (· ≤ ·)), run.1 ≤ index ∧ index ≤ run.2) ↔
        index ∈ removed := by
  have hspec := runs_spec (removed.sortedLT_sort).pairwise
  simpa only [Finset.mem_sort] using hspec

lemma run_bounds (hremoved : ∀ index ∈ removed, index < count)
    (hkept : ∃ index < count, index ∉ removed) {run : Nat × Nat}
    (hrun : run ∈ runs (removed.sort (· ≤ ·))) :
    run.1 ≤ run.2 ∧ run.2 < count ∧ (run.2 + 1 < count ∨ 0 < run.1) := by
  obtain ⟨⟨hle, _⟩, hcover⟩ := removed_runs removed
  have hrunLe := hle run hrun
  refine ⟨hrunLe, hremoved _ ((hcover _).1 ⟨run, hrun, hrunLe, le_rfl⟩), ?_⟩
  by_contra hwhole
  obtain ⟨index, hindex, hout⟩ := hkept
  exact hout ((hcover index).1 ⟨run, hrun, by omega, by omega⟩)

lemma segmentRanges_ordered (hremoved : ∀ index ∈ removed, index < count)
    (hkept : ∃ index < count, index ∉ removed) :
    (segmentRanges count removed).Pairwise (fun range later => range.2 ≤ later.1) ∧
      ∀ range ∈ segmentRanges count removed, range.1 ≤ range.2 ∧ range.2 ≤ 2 * count + 1 := by
  refine ⟨?_, fun range hrange => ?_⟩
  · rw [segmentRanges, pairwise_map]
    refine (removed_runs removed).1.2.imp_of_mem fun {run later} hrun hlater hgap => ?_
    obtain ⟨_, _, _⟩ := run_bounds hremoved hkept hrun
    obtain ⟨_, _, _⟩ := run_bounds hremoved hkept hlater
    unfold segmentRange
    split_ifs <;> dsimp only <;> omega
  · obtain ⟨run, hrun, rfl⟩ := mem_map.1 hrange
    obtain ⟨_, _, _⟩ := run_bounds hremoved hkept hrun
    unfold segmentRange
    split_ifs <;> dsimp only <;> omega

lemma keptSegment_eq_false {index : Nat} : keptSegment count removed index = false ↔
    ∃ run ∈ runs (removed.sort (· ≤ ·)), (segmentRange count run).1 ≤ index ∧
      index < (segmentRange count run).2 := by
  simp [keptSegment, segmentRanges]

lemma keptSegment_record (hremoved : ∀ index ∈ removed, index < count)
    (hkept : ∃ index < count, index ∉ removed) (index : Nat) :
    keptSegment count removed (2 * index + 1) = false ↔ index ∈ removed := by
  rw [keptSegment_eq_false, ← (removed_runs removed).2]
  refine exists_congr fun run => and_congr_right fun hrun => ?_
  obtain ⟨_, _, _⟩ := run_bounds hremoved hkept hrun
  unfold segmentRange
  split_ifs <;> dsimp only <;> omega

lemma keptSegment_separator (hremoved : ∀ index ∈ removed, index < count)
    (hkept : ∃ index < count, index ∉ removed) {index : Nat} (hindex : index + 1 < count) :
    keptSegment count removed (2 * index + 2) = false ↔
      index ∈ removed ∨ ∀ later, index < later → later < count → later ∈ removed := by
  obtain ⟨hapart, hcover⟩ := removed_runs removed
  rw [keptSegment_eq_false]
  constructor
  · rintro ⟨run, hrun, hlow, hhigh⟩
    obtain ⟨_, _, _⟩ := run_bounds hremoved hkept hrun
    unfold segmentRange at hlow hhigh
    split_ifs at hlow hhigh <;> dsimp only at hlow hhigh
    · exact .inl ((hcover index).1 ⟨run, hrun, by omega, by omega⟩)
    · exact .inr fun later _ _ => (hcover later).1 ⟨run, hrun, by omega, by omega⟩
  · intro hout
    by_cases hself : index ∈ removed
    · obtain ⟨run, hrun, hlow, hhigh⟩ := (hcover index).2 hself
      refine ⟨run, hrun, ?_⟩
      unfold segmentRange
      split_ifs <;> dsimp only <;> omega
    · -- the run of the last record starts right after this separator
      have hlater := hout.resolve_left hself
      obtain ⟨run, hrun, hlow, hhigh⟩ := (hcover (count - 1)).2 (hlater _ (by omega) (by omega))
      obtain ⟨_, hlast, _⟩ := run_bounds hremoved hkept hrun
      have hstart : run.1 ≤ index + 1 := by
        by_contra hafter
        obtain ⟨other, hother, hotherLow, hotherHigh⟩ :=
          (hcover (run.1 - 1)).2 (hlater _ (by omega) (by omega))
        obtain rfl | hgap | hgap := hapart.separated hrun hother <;> omega
      refine ⟨run, hrun, ?_⟩
      unfold segmentRange
      split_ifs <;> dsimp only <;> omega

end

/-! ## What is left -/

section

variable {α : Type}

def segments : List (Piece α) → List (List Char)
  | [] => []
  | [piece] => [piece.text]
  | piece :: next :: pieces =>
    piece.text :: (piece.after ++ ',' :: next.before) :: segments (next :: pieces)

def lastAfter : List (Piece α) → List Char
  | [] => []
  | [piece] => piece.after
  | _ :: next :: pieces => lastAfter (next :: pieces)

/-- The pieces that are left. Each takes the blank before the first piece that is removed
before it, and the last one the blank at the end. -/
def edit (removed : Finset Nat) : List Char → Nat → List (Piece α) → List (Piece α)
  | _, _, [] => []
  | before, index, [piece] => if index ∈ removed then [] else [{ piece with before }]
  | before, index, piece :: next :: pieces =>
    if index ∈ removed then edit removed before (index + 1) (next :: pieces)
    else
      let later := edit removed next.before (index + 1) (next :: pieces)
      { piece with
        before
        after := if later.isEmpty then lastAfter (next :: pieces) else piece.after } :: later

variable {piece : Piece α} {pieces : List (Piece α)} {removed : Finset Nat} {index offset : Nat}
  {before blank : List Char}

lemma length_segments : (segments (piece :: pieces)).length = 2 * pieces.length + 1 := by
  induction pieces generalizing piece with
  | nil => rfl
  | cons next pieces ih =>
    simp only [segments, length_cons, ih]
    omega

lemma flatten_segments : inside blank (piece :: pieces) =
      piece.before ++ ((segments (piece :: pieces)).flatten ++ lastAfter (piece :: pieces)) := by
  induction pieces generalizing piece with
  | nil => simp [inside, segments, lastAfter, Piece.spelled]
  | cons next pieces ih => simp [inside, segments, lastAfter, Piece.spelled, ih]

lemma spanAt_elementSpans (hindex : index ≤ pieces.length) :
    spanAt (elementSpans offset (piece :: pieces)) index =
      { start := offset + piece.before.length + border (segments (piece :: pieces)) (2 * index)
        stop := offset + piece.before.length + border (segments (piece :: pieces)) (2 * index + 1) } := by
  induction pieces generalizing piece offset index with
  | nil =>
    obtain rfl : index = 0 := by simpa using hindex
    simp [spanAt, elementSpans, segments, border]
  | cons next pieces ih =>
    cases index with
    | zero => simp [spanAt, elementSpans, segments, border]
    | succ index =>
      have hnext : spanAt (elementSpans (offset + piece.spelled.length + 1) (next :: pieces)) index = _ :=
        ih (Nat.le_of_succ_le_succ hindex)
      rw [elementSpans, spanAt, getD_cons_succ]
      rw [spanAt] at hnext
      rw [hnext]
      have hborder : ∀ i, border (segments (piece :: next :: pieces)) (i + 2) =
          piece.text.length + (piece.after.length + 1 + next.before.length) +
            border (segments (next :: pieces)) i := by
        intro i
        simp [segments, border]
        omega
      have hstop : 2 * index + 2 + 1 = 2 * index + 1 + 2 := by omega
      rw [mul_add, mul_one, hborder, hstop, hborder]
      have hspelled : piece.spelled.length =
          piece.before.length + piece.text.length + piece.after.length := by
        simp [Piece.spelled, add_assoc]
      congr 1 <;> omega

lemma length_elementSpans : (elementSpans offset pieces).length = pieces.length := by
  induction pieces generalizing offset with
  | nil => rfl
  | cons piece pieces ih => rw [elementSpans, length_cons, ih, length_cons]

/-! ### The pieces that are left -/

lemma edit_values : (edit removed before index pieces).map (·.value) =
      retain (fun index => index ∉ removed) index (pieces.map (·.value)) := by
  induction pieces generalizing before index with
  | nil => rfl
  | cons piece pieces ih =>
    cases pieces with
    | nil =>
      by_cases hremoved : index ∈ removed <;> simp [edit, retain, hremoved]
    | cons next pieces =>
      rw [edit, map_cons, retain]
      split
      · rename_i hremoved
        rw [ih, if_neg (by simpa using hremoved)]
      · rename_i hkept
        rw [if_pos (by simpa using hkept), map_cons, ih]

lemma edit_eq_nil : edit removed before index pieces = [] ↔
      ∀ i, index ≤ i → i < index + pieces.length → i ∈ removed := by
  induction pieces generalizing before index with
  | nil =>
    refine iff_of_true rfl fun i hi hlt => ?_
    rw [length_nil] at hlt
    omega
  | cons piece pieces ih =>
    rw [length_cons]
    by_cases hremoved : index ∈ removed
    · have hrest : edit removed before index (piece :: pieces) = edit removed before (index + 1) pieces := by
        cases pieces <;> simp [edit, hremoved]
      rw [hrest, ih]
      constructor
      · intro h i hi hlt
        obtain rfl | hlater := Nat.eq_or_lt_of_le hi
        · exact hremoved
        · exact h i hlater (by omega)
      · intro h i hi hlt
        exact h i (by omega) (by omega)
    · have hne : edit removed before index (piece :: pieces) ≠ [] := by
        cases pieces <;> simp [edit, hremoved]
      refine iff_of_false hne fun h => hremoved (h index le_rfl (by omega))

lemma lastAfter_blank (hpadded : ∀ piece ∈ pieces, piece.Padded) :
    ∀ c ∈ lastAfter pieces, isBlank c := by
  induction pieces with
  | nil => simp [lastAfter]
  | cons piece pieces ih =>
    cases pieces with
    | nil => exact (hpadded piece mem_cons_self).after
    | cons next pieces => exact ih fun other hother => hpadded other (mem_cons_of_mem _ hother)

lemma mem_edit {left : Piece α} (hpadded : ∀ piece ∈ pieces, piece.Padded)
    (hbefore : ∀ c ∈ before, isBlank c) (hleft : left ∈ edit removed before index pieces) :
    left.Padded ∧ ∃ piece ∈ pieces, left.text = piece.text ∧ left.value = piece.value := by
  induction pieces generalizing before index with
  | nil => simp [edit] at hleft
  | cons piece pieces ih =>
    have hpiece := hpadded piece mem_cons_self
    have hrest : ∀ other ∈ pieces, other.Padded :=
      fun other hother => hpadded other (mem_cons_of_mem _ hother)
    cases pieces with
    | nil =>
      rw [edit] at hleft
      split at hleft
      · cases hleft
      · obtain rfl := mem_singleton.1 hleft
        exact ⟨⟨hbefore, hpiece.after⟩, piece, mem_cons_self, rfl, rfl⟩
    | cons next pieces =>
      have hlater : ∀ {before : List Char}, (∀ c ∈ before, isBlank c) →
          left ∈ edit removed before (index + 1) (next :: pieces) →
          left.Padded ∧ ∃ old ∈ piece :: next :: pieces,
            left.text = old.text ∧ left.value = old.value := by
        intro before hbefore hleft
        obtain ⟨hpadded, old, hold, hsame⟩ := ih hrest hbefore hleft
        exact ⟨hpadded, old, mem_cons_of_mem _ hold, hsame⟩
      rw [edit] at hleft
      split at hleft
      · exact hlater hbefore hleft
      · obtain rfl | hleft := mem_cons.1 hleft
        · refine ⟨⟨hbefore, ?_⟩, piece, mem_cons_self, rfl, rfl⟩
          dsimp only
          split
          · exact lastAfter_blank hrest
          · exact hpiece.after
        · exact hlater (hrest next mem_cons_self).before hleft

lemma inside_cons_of_ne {later : List (Piece α)} (hne : later ≠ []) :
    inside blank (piece :: later) = piece.spelled ++ ',' :: inside blank later := by
  obtain ⟨next, later, rfl⟩ := exists_cons_of_ne_nil hne
  rw [inside]

lemma inside_edit {count : Nat} (hcount : index + pieces.length = count)
    (hremoved : ∀ i ∈ removed, i < count) (hkept : ∃ i, index ≤ i ∧ i < count ∧ i ∉ removed) :
    inside blank (edit removed before index pieces) =
      before ++ ((retain (keptSegment count removed) (2 * index + 1) (segments pieces)).flatten ++
        lastAfter pieces) := by
  induction pieces generalizing before index with
  | nil =>
    obtain ⟨i, hi, hlt, _⟩ := hkept
    rw [length_nil] at hcount
    omega
  | cons piece pieces ih =>
    have hany : ∃ i < count, i ∉ removed := by
      obtain ⟨i, _, hlt, hout⟩ := hkept
      exact ⟨i, hlt, hout⟩
    have hrecord := keptSegment_record hremoved hany index
    rw [length_cons] at hcount
    cases pieces with
    | nil =>
      have hself : index ∉ removed := by
        obtain ⟨i, hi, hlt, hout⟩ := hkept
        obtain rfl : i = index := by
          rw [length_nil] at hcount
          omega
        exact hout
      have hshown : keptSegment count removed (2 * index + 1) = true := by
        rwa [← hrecord, Bool.not_eq_false] at hself
      simp [edit, hself, segments, retain, hshown, inside, Piece.spelled, lastAfter]
    | cons next pieces =>
      have hlength : index + 1 + (next :: pieces).length = count := by omega
      rw [length_cons] at hcount
      have hseparator := keptSegment_separator hremoved hany (by omega : index + 1 < count)
      rw [edit, segments, retain, retain, lastAfter]
      by_cases hself : index ∈ removed
      · have hlater : ∃ i, index + 1 ≤ i ∧ i < count ∧ i ∉ removed := by
          obtain ⟨i, hi, hlt, hout⟩ := hkept
          refine ⟨i, ?_, hlt, hout⟩
          by_contra hsame
          obtain rfl : i = index := by omega
          exact hout hself
        rw [if_pos hself, hrecord.2 hself, hseparator.2 (.inl hself), if_neg Bool.false_ne_true,
          if_neg Bool.false_ne_true, ih hlength hlater]
        rfl
      · have hshown : keptSegment count removed (2 * index + 1) = true := by
          rwa [← hrecord, Bool.not_eq_false] at hself
        rw [if_neg hself, hshown, if_pos rfl]
        by_cases hlater : ∃ i, index + 1 ≤ i ∧ i < count ∧ i ∉ removed
        · have hne : edit removed next.before (index + 1) (next :: pieces) ≠ [] := by
            rw [Ne, edit_eq_nil, hlength]
            obtain ⟨i, hi, hlt, hout⟩ := hlater
            exact fun h => hout (h i hi hlt)
          have hseparated : keptSegment count removed (2 * index + 1 + 1) = true := by
            rw [← Bool.not_eq_false, hseparator]
            obtain ⟨i, hi, hlt, hout⟩ := hlater
            rintro (hin | hall)
            · exact hself hin
            · exact hout (hall i hi hlt)
          dsimp only
          rw [hseparated, if_pos rfl, inside_cons_of_ne hne, ih hlength hlater,
            if_neg (by simpa using hne)]
          simp [Piece.spelled, mul_add]
        · -- everything from the separator on is cut out
          have hall : ∀ i, index + 1 ≤ i → i < count → i ∈ removed := by
            intro i hi hlt
            by_contra hout
            exact hlater ⟨i, hi, hlt, hout⟩
          have hnil : edit removed next.before (index + 1) (next :: pieces) = [] := by
            rw [edit_eq_nil, hlength]
            exact hall
          have hseparated : keptSegment count removed (2 * index + 1 + 1) = false :=
            hseparator.2 (.inr hall)
          have hrest : retain (keptSegment count removed) (2 * index + 1 + 1 + 1)
              (segments (next :: pieces)) = [] := by
            apply retain_none
            intro i hi hlt
            rw [length_segments] at hlt
            obtain ⟨j, rfl | rfl⟩ : ∃ j, i = 2 * j + 1 ∨ i = 2 * j + 2 := ⟨(i - 1) / 2, by omega⟩
            · exact (keptSegment_record hremoved hany j).2 (hall j (by omega) (by omega))
            · exact (keptSegment_separator hremoved hany (by omega)).2
                (.inl (hall j (by omega) (by omega)))
          dsimp only
          rw [hseparated, if_neg Bool.false_ne_true, hrest, hnil]
          simp [inside, Piece.spelled]

end

/-! ## The cut text -/

lemma mapM_ok {α β : Type} {f : α → Except RecoveryError β} {g : α → β} {values : List α}
    (h : ∀ value ∈ values, f value = .ok (g value)) : values.mapM f = .ok (values.map g) := by
  induction values with
  | nil => rfl
  | cons value values ih =>
    rw [mapM_cons, h value mem_cons_self, ok_bind,
      ih fun other hother => h other (mem_cons_of_mem _ hother), ok_bind]
    rfl

section

variable {α : Type} {piece : Piece α} {pieces : List (Piece α)} {removed : Finset Nat}
  {blank head tail : List Char}

lemma slice_elementSpans {bytes rest : List Char} {offset index : Nat} {pieces : List (Piece α)}
    (hdrop : bytes.drop offset = inside blank pieces ++ rest) {piece : Piece α}
    (hpiece : pieces[index]? = some piece) :
    slice bytes (spanAt (elementSpans offset pieces) index) = piece.text := by
  induction pieces generalizing offset index with
  | nil => simp at hpiece
  | cons first pieces ih =>
    cases index with
    | zero =>
      obtain rfl : first = piece := by simpa using hpiece
      rw [inside_cons, Piece.spelled, append_assoc, append_assoc, append_assoc] at hdrop
      simpa [spanAt, elementSpans] using slice_of_drop (drop_add hdrop)
    | succ index =>
      rw [getElem?_cons_succ] at hpiece
      cases pieces with
      | nil => simp at hpiece
      | cons next pieces =>
        rw [inside, append_assoc, cons_append] at hdrop
        have hrest := ih (drop_succ (drop_add hdrop)) hpiece
        simpa [spanAt, elementSpans] using hrest

lemma segments_separator {piece : Piece α} {pieces : List (Piece α)} {index : Nat}
    {separator : List Char} (hpadded : ∀ other ∈ piece :: pieces, other.Padded)
    (hindex : (segments (piece :: pieces))[2 * index + 1]? = some separator) :
    ∀ c ∈ separator, isBlank c ∨ c = ',' := by
  induction pieces generalizing piece index with
  | nil => simp [segments] at hindex
  | cons next pieces ih =>
    rw [segments] at hindex
    cases index with
    | zero =>
      obtain rfl : piece.after ++ ',' :: next.before = separator := by simpa using hindex
      intro c hc
      rw [mem_append, mem_cons] at hc
      obtain hafter | rfl | hbefore := hc
      · exact .inl ((hpadded piece (by simp)).after c hafter)
      · exact .inr rfl
      · exact .inl ((hpadded next (by simp)).before c hbefore)
    | succ index =>
      rw [mul_add, add_right_comm, getElem?_cons_succ, getElem?_cons_succ] at hindex
      exact ih (fun other hother => hpadded other (mem_cons_of_mem _ hother)) hindex

def textSegments (head tail : List Char) (piece : Piece α) (pieces : List (Piece α)) :
    List (List Char) :=
  (head ++ piece.before) :: (segments (piece :: pieces) ++ [lastAfter (piece :: pieces) ++ tail])

lemma flatten_textSegments (blank : List Char) :
    (textSegments head tail piece pieces).flatten = head ++ (inside blank (piece :: pieces) ++ tail) := by
  simp [textSegments, flatten_segments]

lemma length_textSegments :
    (textSegments head tail piece pieces).length = 2 * (pieces.length + 1) + 1 := by
  simp only [textSegments, length_cons, length_append, length_segments, length_nil]
  omega

lemma spanAt_textSegments (tail : List Char) {index : Nat} (hindex : index ≤ pieces.length) :
    spanAt (elementSpans head.length (piece :: pieces)) index =
      { start := border (textSegments head tail piece pieces) (2 * index + 1)
        stop := border (textSegments head tail piece pieces) (2 * index + 2) } := by
  have hborder : ∀ i, i ≤ 2 * pieces.length + 1 →
      border (textSegments head tail piece pieces) (i + 1) =
        head.length + piece.before.length + border (segments (piece :: pieces)) i := by
    intro i hi
    have hi : i ≤ (segments (piece :: pieces)).length := by rwa [length_segments]
    simp only [border, textSegments, take_succ_cons, flatten_cons, length_append,
      take_append_of_le_length hi]
  rw [spanAt_elementSpans hindex, hborder _ (by omega), hborder _ (by omega)]

def segmentSpan (segments : List (List Char)) (range : Nat × Nat) : Span where
  start := border segments range.1
  stop := border segments range.2

lemma removal_run (tail : List Char) {run : Nat × Nat} (hle : run.1 ≤ run.2) (hlast : run.2 < pieces.length + 1)
    (hbounds : run.2 + 1 < pieces.length + 1 ∨ 0 < run.1) :
    removal (elementSpans head.length (piece :: pieces)) run =
      .ok (segmentSpan (textSegments head tail piece pieces) (segmentRange (pieces.length + 1) run)) := by
  rw [removal, length_elementSpans, length_cons, segmentRange]
  split
  · rw [spanAt_textSegments tail (by omega), spanAt_textSegments tail (by omega)]
    rfl
  · have hfirst : 0 < run.1 := by omega
    have hprevious : 2 * (run.1 - 1) + 2 = 2 * run.1 := by omega
    rw [spanAt_textSegments tail (by omega), spanAt_textSegments tail (by omega),
      require, if_pos (by simpa using hfirst), hprevious]
    rfl

lemma cut_records (piece : Piece α) (blank head tail : List Char) (hremoved : ∀ index ∈ removed, index < pieces.length + 1)
    (hkept : ∃ index < pieces.length + 1, index ∉ removed) : ∃ removals,
      (runs (removed.sort (· ≤ ·))).mapM (removal (elementSpans head.length (piece :: pieces))) =
        .ok removals ∧ removals.foldr (fun span text => cut text span.start span.stop)
        (head ++ (inside blank (piece :: pieces) ++ tail)) =
          (retain (keptSegment (pieces.length + 1) removed) 0
            (textSegments head tail piece pieces)).flatten := by
  refine ⟨(segmentRanges (pieces.length + 1) removed).map
    (segmentSpan (textSegments head tail piece pieces)), ?_, ?_⟩
  · rw [segmentRanges, map_map]
    apply mapM_ok
    intro run hrun
    obtain ⟨hle, hlast, hbounds⟩ := run_bounds hremoved hkept hrun
    exact removal_run tail hle hlast hbounds
  · obtain ⟨hordered, hranges⟩ := segmentRanges_ordered hremoved hkept
    rw [← flatten_textSegments blank, foldr_map]
    apply cut_ranges hordered
    rwa [length_textSegments]

lemma keptSegment_ends (hremoved : ∀ index ∈ removed, index < pieces.length + 1)
    (hkept : ∃ index < pieces.length + 1, index ∉ removed) :
    keptSegment (pieces.length + 1) removed 0 = true ∧
      keptSegment (pieces.length + 1) removed (2 * (pieces.length + 1)) = true := by
  constructor
  all_goals
    by_contra hcut
    obtain ⟨run, hrun, hlow, hhigh⟩ := keptSegment_eq_false.1 (by simpa using hcut)
    obtain ⟨_, _, _⟩ := run_bounds hremoved hkept hrun
    unfold segmentRange at hlow hhigh
    split_ifs at hlow hhigh <;> dsimp only at hlow hhigh <;> omega

lemma retain_textSegments (hremoved : ∀ index ∈ removed, index < pieces.length + 1)
    (hkept : ∃ index < pieces.length + 1, index ∉ removed) :
    (retain (keptSegment (pieces.length + 1) removed) 0 (textSegments head tail piece pieces)).flatten =
      head ++ (inside blank (edit removed piece.before 0 (piece :: pieces)) ++ tail) := by
  obtain ⟨hfirst, hlast⟩ := keptSegment_ends hremoved hkept
  have hlength : 1 + (segments (piece :: pieces)).length = 2 * (pieces.length + 1) := by
    rw [length_segments]
    omega
  obtain ⟨index, hindex, hout⟩ := hkept
  have hcount : 0 + (piece :: pieces).length = pieces.length + 1 := by simp
  rw [inside_edit hcount hremoved ⟨index, zero_le, hindex, hout⟩, textSegments, retain, hfirst, if_pos rfl, retain_append, zero_add, hlength, retain, hlast,
    if_pos rfl]
  simp [retain]

end

end Vibeshine.Pairing
