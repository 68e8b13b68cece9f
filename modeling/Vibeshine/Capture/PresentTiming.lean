import Vibeshine.Library.System
import Mathlib.Algebra.Order.Group.Int

/-! # Stamps of captured frames

The refiner of `present_timing_policy` places each captured frame at the cadence of the
game's presents, inside the refresh in which it was composed. Stamps stay inside their
refresh and keep their distance, and a present stands for one frame only.
-/

namespace Vibeshine.Capture.PresentTiming

open Library (System)

def latencyWindow : Nat := 64

def minimumLatencySamples : Nat := 16

def gridViolationLimit : Nat := 3

structure Result where
  stamp : Int := 0
  matched : Bool := false
  refined : Bool := false
  deriving DecidableEq

/-- `refiner_t`; a value that is not there yet is absent. -/
structure Refiner where
  latencies : List Int := List.replicate latencyWindow 0
  latencyCount : Nat := 0
  latencyIndex : Nat := 0
  consumed : Option Int := none
  lastStamp : Option Int := none
  lastComposition : Option Int := none
  gridViolations : Nat := 0
  deriving DecidableEq

namespace Refiner

variable (r : Refiner)

def gridDisabled : Bool := gridViolationLimit ≤ r.gridViolations

def latency : Int :=
  if r.latencyCount = 0 then 0
  else ((r.latencies.take r.latencyCount).mergeSort (· ≤ ·))[r.latencyCount / 2]?.getD 0

def candidates (composition : Int) (presents : List Int) (stale : Int) : List Int :=
  let oldestExcluded :=
    max (r.consumed.getD (composition - stale - 1)) (composition - stale - 1)
  (presents.dropWhile (· ≤ oldestExcluded)).takeWhile (· ≤ composition)

def select (composition grid : Int) (presents : List Int) (stale : Int) : Option Int :=
  match r.candidates composition presents stale with
  | [] => none
  | first :: rest =>
    if r.latencyCount < minimumLatencySamples then some first
    else
      let readyLead := r.latency - grid.tdiv 2
      some (((first :: rest).reverse.find? (· + readyLead ≤ composition)).getD first)

def observeLatency (sample stale : Int) : Refiner :=
  if sample < 0 || stale < sample then r
  else
    { r with
      latencies := r.latencies.set r.latencyIndex sample
      latencyIndex := (r.latencyIndex + 1) % latencyWindow
      latencyCount := min (r.latencyCount + 1) latencyWindow }

def noteComposition (composition grid : Int) : Refiner :=
  let tooSoon := match r.lastComposition with
    | none => false
    | some last =>
      0 < grid && last < composition && composition - last < (grid * 3).tdiv 4
  { r with
    gridViolations := if tooSoon then r.gridViolations + 1 else r.gridViolations
    lastComposition := some composition }

def place (composition grid : Int) (presents : List Int) (stale : Int) : Result × Refiner :=
  if grid ≤ 0 then ({ stamp := composition }, r)
  else
    match r.select composition grid presents stale with
    | none => ({ stamp := composition - grid.tdiv 2 }, r)
    | some present =>
      let r := { r with consumed := some present }.observeLatency (composition - present) stale
      if minimumLatencySamples ≤ r.latencyCount then
        let ready := present + r.latency - grid.tdiv 2
        ({ stamp := max (composition - grid + 1) (min ready composition)
           matched := true
           refined := true }, r)
      else ({ stamp := composition - grid.tdiv 2, matched := true }, r)

def spaced (stamp minimumStep : Int) : Int :=
  match r.lastStamp with
  | none => stamp
  | some last => if stamp < last + minimumStep then last + minimumStep else stamp

def refine (composition grid : Int) (presents : List Int) (minimumStep stale : Int) :
    Result × Refiner :=
  let r := r.noteComposition composition grid
  let grid := if r.gridDisabled then 0 else grid
  let (result, r) := r.place composition grid presents stale
  let result := { result with stamp := r.spaced result.stamp minimumStep }
  (result, { r with lastStamp := some result.stamp })

def resetSource : Refiner :=
  { r with consumed := none, latencyCount := 0, latencyIndex := 0 }

end Refiner

inductive Call where
  | refine (composition grid : Int) (presents : List Int) (minimumStep stale : Int)
  | resetSource

inductive Entry where
  | frame (stamp : Int) (matched : Option Int)
  | reset
  deriving DecidableEq

structure State where
  refiner : Refiner := {}
  /-- What the calls left, the latest first. -/
  history : List Entry := []

def State.step (s : State) : Call → State
  | .refine composition grid presents minimumStep stale =>
    let (result, refiner) := s.refiner.refine composition grid presents minimumStep stale
    { refiner := refiner
      history :=
        .frame result.stamp (if result.matched then refiner.consumed else none) :: s.history }
  | .resetSource => { refiner := s.refiner.resetSource, history := .reset :: s.history }

/-- Presents are ascending, and compositions follow each other at the smallest step of
stamps or more. -/
def State.Admits (s : State) : Call → Prop
  | .refine composition _ presents minimumStep _ =>
    presents.Pairwise (· ≤ ·) ∧ 0 < minimumStep ∧
      ∀ last, s.refiner.lastComposition = some last → last + minimumStep ≤ composition
  | .resetSource => True

def refinement : System State Call where
  init := {}
  admits := State.Admits
  step := State.step

def matchedSince : List Entry → List Int
  | [] => []
  | .reset :: _ => []
  | .frame _ matched :: older => matched.toList ++ matchedSince older

def latestStamp : List Entry → Option Int
  | [] => none
  | .reset :: older => latestStamp older
  | .frame stamp _ :: _ => some stamp

/-! ## One frame -/

lemma lt_of_mem_dropWhile {values : List Int} {bound value : Int}
    (hsorted : values.Pairwise (· ≤ ·)) (hmem : value ∈ values.dropWhile (· ≤ bound)) :
    bound < value := by
  induction values with
  | nil => cases hmem
  | cons first rest ih =>
    rw [List.pairwise_cons] at hsorted
    by_cases hfirst : first ≤ bound
    · rw [List.dropWhile_cons_of_pos (by simpa using hfirst)] at hmem
      exact ih hsorted.2 hmem
    · rw [List.dropWhile_cons_of_neg (by simpa using hfirst)] at hmem
      rw [not_le] at hfirst
      obtain rfl | hmem := List.mem_cons.mp hmem
      · exact hfirst
      · exact hfirst.trans_le (hsorted.1 value hmem)

namespace Refiner

variable {r : Refiner} {composition grid stale : Int} {presents : List Int} {present : Int}

lemma mem_candidates_of_select (h : r.select composition grid presents stale = some present) :
    present ∈ r.candidates composition presents stale := by
  unfold select at h
  cases hcandidates : r.candidates composition presents stale with
  | nil =>
    rw [hcandidates] at h
    cases h
  | cons first rest =>
    rw [hcandidates] at h
    dsimp only at h
    split at h
    · cases h
      exact List.mem_cons_self
    · cases hfind : (first :: rest).reverse.find?
          (· + (r.latency - grid.tdiv 2) ≤ composition) with
      | none =>
        rw [hfind] at h
        cases h
        exact List.mem_cons_self
      | some newest =>
        rw [hfind] at h
        cases h
        exact List.mem_reverse.mp (List.mem_of_find?_eq_some hfind)

lemma consumed_lt_of_select (hsorted : presents.Pairwise (· ≤ ·))
    (h : r.select composition grid presents stale = some present) :
    ∀ last, r.consumed = some last → last < present := by
  intro last hlast
  have hmem := (List.takeWhile_sublist _).subset (mem_candidates_of_select h)
  have hbound := lt_of_mem_dropWhile hsorted hmem
  rw [hlast] at hbound
  exact (le_max_left _ _).trans_lt hbound

lemma observeLatency_frame (sample : Int) : (r.observeLatency sample stale).consumed = r.consumed ∧
      (r.observeLatency sample stale).lastStamp = r.lastStamp ∧
      (r.observeLatency sample stale).lastComposition = r.lastComposition ∧
      (r.observeLatency sample stale).gridViolations = r.gridViolations := by
  unfold observeLatency
  split <;> exact ⟨rfl, rfl, rfl, rfl⟩

lemma place_frame (r : Refiner) (composition grid : Int) (presents : List Int) (stale : Int) :
    (r.place composition grid presents stale).2.lastStamp = r.lastStamp ∧
      (r.place composition grid presents stale).2.lastComposition = r.lastComposition ∧
      (r.place composition grid presents stale).2.gridViolations = r.gridViolations := by
  unfold place
  split
  · exact ⟨rfl, rfl, rfl⟩
  split
  · exact ⟨rfl, rfl, rfl⟩
  · dsimp only
    split <;> exact (observeLatency_frame _).2

lemma place_stamp (r : Refiner) (composition grid : Int) (presents : List Int) (stale : Int) :
    (grid ≤ 0 → (r.place composition grid presents stale).1.stamp = composition) ∧
      (0 < grid → composition - grid < (r.place composition grid presents stale).1.stamp ∧
        (r.place composition grid presents stale).1.stamp ≤ composition) := by
  refine ⟨fun hgrid => by simp [place, hgrid], fun hgrid => ?_⟩
  have hhalf : 0 ≤ grid.tdiv 2 ∧ grid.tdiv 2 < grid := by
    rw [Int.tdiv_eq_ediv_of_nonneg hgrid.le]
    omega
  rw [place, if_neg (not_le.mpr hgrid)]
  split
  · dsimp only
    omega
  · dsimp only
    split
    · dsimp only
      omega
    · dsimp only
      omega

lemma place_matched (r : Refiner) (composition grid stale : Int)
    (hsorted : presents.Pairwise (· ≤ ·)) :
    ((r.place composition grid presents stale).1.matched = false ∧
      (r.place composition grid presents stale).2.consumed = r.consumed) ∨
    ∃ present, (r.place composition grid presents stale).1.matched = true ∧
      (r.place composition grid presents stale).2.consumed = some present ∧
      ∀ last, r.consumed = some last → last < present := by
  unfold place
  split
  · exact .inl ⟨rfl, rfl⟩
  cases hselect : r.select composition grid presents stale with
  | none => exact .inl ⟨rfl, rfl⟩
  | some present =>
    refine .inr ⟨present, ?_, ?_, consumed_lt_of_select hsorted hselect⟩
    · dsimp only
      split <;> rfl
    · dsimp only
      split <;> exact (observeLatency_frame _).1

def effectiveGrid (r : Refiner) (composition grid : Int) : Int :=
  if (r.noteComposition composition grid).gridDisabled then 0 else grid

def placed (r : Refiner) (composition grid : Int) (presents : List Int) (stale : Int) :
    Result × Refiner :=
  (r.noteComposition composition grid).place composition (r.effectiveGrid composition grid)
    presents stale

lemma refine_eq (r : Refiner) (composition grid : Int) (presents : List Int)
    (minimumStep stale : Int) : r.refine composition grid presents minimumStep stale =
      ({ (r.placed composition grid presents stale).1 with
          stamp := r.spaced (r.placed composition grid presents stale).1.stamp minimumStep },
        { (r.placed composition grid presents stale).2 with
          lastStamp := some
            (r.spaced (r.placed composition grid presents stale).1.stamp minimumStep) }) := by
  have hspaced : (r.placed composition grid presents stale).2.spaced = r.spaced := by
    unfold spaced
    rw [placed, (place_frame _ _ _ _ _).1]
    rfl
  rw [← hspaced]
  rfl

lemma placed_lastComposition (r : Refiner) (composition grid : Int) (presents : List Int)
    (stale : Int) :
    (r.placed composition grid presents stale).2.lastComposition = some composition :=
  (place_frame _ _ _ _ _).2.1

end Refiner

/-! ## Runs -/

/-- What holds after any calls. -/
structure Sound (s : State) : Prop where
  latest : latestStamp s.history = s.refiner.lastStamp
  composed : ∀ stamp, s.refiner.lastStamp = some stamp →
    ∃ composition, s.refiner.lastComposition = some composition ∧ stamp ≤ composition
  ordered : (matchedSince s.history).Pairwise (· > ·)
  consumed : ∀ present ∈ matchedSince s.history,
    ∃ last, s.refiner.consumed = some last ∧ present ≤ last

lemma Sound.initial : Sound {} where
  latest := rfl
  composed := nofun
  ordered := .nil
  consumed := nofun

section

variable {s : State} {composition grid minimumStep stale : Int} {presents : List Int}

lemma Sound.spaced (h : Sound s)
    (hadmits : s.Admits (.refine composition grid presents minimumStep stale)) {stamp : Int}
    (hstamp : stamp ≤ composition) : stamp ≤ s.refiner.spaced stamp minimumStep ∧
      s.refiner.spaced stamp minimumStep ≤ composition ∧ ∀ last, s.refiner.lastStamp = some last →
        last + minimumStep ≤ s.refiner.spaced stamp minimumStep := by
  obtain ⟨-, -, hstep⟩ := hadmits
  unfold Refiner.spaced
  cases hlast : s.refiner.lastStamp with
  | none => exact ⟨le_refl _, hstamp, nofun⟩
  | some last =>
    obtain ⟨previous, hprevious, hbehind⟩ := h.composed last hlast
    have := hstep previous hprevious
    dsimp only
    split
    next hnear => exact ⟨by omega, by omega, fun other hother => by cases hother; omega⟩
    next hfar => exact ⟨le_refl _, hstamp, fun other hother => by cases hother; omega⟩

lemma placed_le_composition (r : Refiner) (composition grid : Int) (presents : List Int)
    (stale : Int) : (r.placed composition grid presents stale).1.stamp ≤ composition := by
  obtain ⟨hnone, hsome⟩ := (r.noteComposition composition grid).place_stamp composition
    (r.effectiveGrid composition grid) presents stale
  obtain hgrid | hgrid := le_or_gt (r.effectiveGrid composition grid) 0
  · exact (hnone hgrid).le
  · exact (hsome hgrid).2

lemma step_refine (s : State) (composition grid : Int) (presents : List Int)
    (minimumStep stale : Int) : s.step (.refine composition grid presents minimumStep stale) =
      { refiner :=
          { (s.refiner.placed composition grid presents stale).2 with
            lastStamp := some (s.refiner.spaced
              (s.refiner.placed composition grid presents stale).1.stamp minimumStep) }
        history :=
          .frame
            (s.refiner.spaced (s.refiner.placed composition grid presents stale).1.stamp
              minimumStep)
            (if (s.refiner.placed composition grid presents stale).1.matched then
              (s.refiner.placed composition grid presents stale).2.consumed else none)
            :: s.history } := by
  rw [State.step, Refiner.refine_eq]

lemma Sound.refine (h : Sound s)
    (hadmits : s.Admits (.refine composition grid presents minimumStep stale)) :
    Sound (s.step (.refine composition grid presents minimumStep stale)) := by
  obtain ⟨-, hbefore, -⟩ :=
    h.spaced hadmits (placed_le_composition s.refiner composition grid presents stale)
  have hcomposition := s.refiner.placed_lastComposition composition grid presents stale
  have hmatched := (s.refiner.noteComposition composition grid).place_matched composition
    (s.refiner.effectiveGrid composition grid) stale hadmits.1
  change ((s.refiner.placed composition grid presents stale).1.matched = false ∧
      (s.refiner.placed composition grid presents stale).2.consumed = s.refiner.consumed) ∨
    ∃ present, (s.refiner.placed composition grid presents stale).1.matched = true ∧
      (s.refiner.placed composition grid presents stale).2.consumed = some present ∧
      ∀ last, s.refiner.consumed = some last → last < present at hmatched
  rw [step_refine]
  generalize s.refiner.placed composition grid presents stale = placed at *
  have hcomposed : ∀ stamp, some (s.refiner.spaced placed.1.stamp minimumStep) = some stamp →
      ∃ composition, placed.2.lastComposition = some composition ∧ stamp ≤ composition := by
    intro stamp hstamp
    cases hstamp
    exact ⟨composition, hcomposition, hbefore⟩
  obtain ⟨hunmatched, hconsumed⟩ | ⟨present, hfound, hconsumed, hnewer⟩ := hmatched
  · rw [hunmatched]
    refine ⟨rfl, hcomposed, h.ordered, fun matched hmem => ?_⟩
    obtain ⟨last, hlast, hle⟩ := h.consumed matched hmem
    exact ⟨last, hconsumed.trans hlast, hle⟩
  · rw [hfound, hconsumed]
    have hall : ∀ matched ∈ matchedSince s.history, matched < present := by
      intro matched hmem
      obtain ⟨last, hlast, hle⟩ := h.consumed matched hmem
      exact hle.trans_lt (hnewer last hlast)
    refine ⟨rfl, hcomposed, .cons hall h.ordered, fun matched hmem => ⟨present, hconsumed, ?_⟩⟩
    obtain rfl | hmem := List.mem_cons.mp hmem
    · exact le_refl _
    · exact (hall matched hmem).le

lemma Sound.resetSource (h : Sound s) : Sound (s.step .resetSource) where
  latest := h.latest
  composed := h.composed
  ordered := .nil
  consumed := nofun

end

lemma sound_of_reachable {s : State} (h : refinement.Reachable s) : Sound s := by
  apply h.invariant .initial
  intro s call hsound hadmits
  cases call with
  | refine => exact hsound.refine hadmits
  | resetSource => exact hsound.resetSource

/-- A stamp lies inside the refresh of its frame, and at the composition where refinement is
disabled; it keeps the step from the stamp before it; and no present is matched twice between
two resets. -/
theorem stamps_refined {s : State} (hreach : refinement.Reachable s) :
    (matchedSince s.history).Pairwise (· > ·) ∧ ∀ composition grid presents minimumStep stale,
      refinement.admits s (.refine composition grid presents minimumStep stale) →
      let refined := s.refiner.refine composition grid presents minimumStep stale
      (0 < grid → composition - grid < refined.1.stamp ∧ refined.1.stamp ≤ composition) ∧
      (grid ≤ 0 ∨ refined.2.gridDisabled = true → refined.1.stamp = composition) ∧
      ∀ last, latestStamp s.history = some last → last + minimumStep ≤ refined.1.stamp := by
  have hsound := sound_of_reachable hreach
  refine ⟨hsound.ordered, fun composition grid presents minimumStep stale hadmits => ?_⟩
  change s.Admits (.refine composition grid presents minimumStep stale) at hadmits
  obtain ⟨hafter, hbefore, hspaced⟩ := hsound.spaced hadmits
    (placed_le_composition s.refiner composition grid presents stale)
  have hviolations : (s.refiner.placed composition grid presents stale).2.gridDisabled =
      (s.refiner.noteComposition composition grid).gridDisabled := by
    unfold Refiner.gridDisabled
    rw [Refiner.placed, (Refiner.place_frame _ _ _ _ _).2.2]
  obtain ⟨hnone, hsome⟩ := (s.refiner.noteComposition composition grid).place_stamp composition
    (s.refiner.effectiveGrid composition grid) presents stale
  change s.refiner.effectiveGrid composition grid ≤ 0 →
    (s.refiner.placed composition grid presents stale).1.stamp = composition at hnone
  change 0 < s.refiner.effectiveGrid composition grid →
    composition - s.refiner.effectiveGrid composition grid <
      (s.refiner.placed composition grid presents stale).1.stamp ∧ _ at hsome
  rw [hsound.latest, Refiner.refine_eq]
  dsimp only
  refine ⟨fun hgrid => ⟨?_, hbefore⟩, fun hdisabled => ?_, hspaced⟩
  · -- A disabled grid places the frame at its composition, which lies inside the refresh too.
    unfold Refiner.effectiveGrid at hnone hsome
    split at hnone
    · have := hnone (le_refl _)
      omega
    next henabled =>
      rw [if_neg henabled] at hsome
      have := (hsome hgrid).1
      omega
  · have heffective : s.refiner.effectiveGrid composition grid ≤ 0 := by
      unfold Refiner.effectiveGrid
      split
      · exact le_refl _
      next henabled =>
        obtain hgrid | hdisabled := hdisabled
        · exact hgrid
        · exact absurd (hviolations.symm.trans hdisabled) henabled
    exact le_antisymm hbefore ((hnone heffective).symm.le.trans hafter)

def refinedFrames : State :=
  refinement.run {}
    [.refine 100 10 [95] 1 50, .refine 110 10 [95, 104] 1 50]

lemma refinedFrames_reachable : refinement.Reachable refinedFrames := by
  refine System.Segment.of_follows .refl ⟨⟨by decide, by decide, nofun⟩, trivial,
    ⟨by decide, by decide, fun last hlast => ?_⟩, trivial, trivial⟩
  cases hlast
  decide

theorem stamps_refined_frames : matchedSince refinedFrames.history = [104, 95] ∧
      ∀ last, latestStamp refinedFrames.history = some last →
        last + 1 ≤ (refinedFrames.refiner.refine 120 10 [95, 104, 113] 1 50).1.stamp := by
  refine ⟨by decide, ((stamps_refined refinedFrames_reachable).2 120 10 [95, 104, 113] 1 50
    ⟨by decide, by decide, fun last hlast => ?_⟩).2.2⟩
  cases hlast
  decide

end Vibeshine.Capture.PresentTiming
