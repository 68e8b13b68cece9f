import Mathlib.Order.Basic

/-! # Systems driven by inputs

A deterministic system reads one admissible input per step. A segment is a run
all of whose steps meet a condition; runs from the initial state are segments
under the trivial condition. Invariants and potentials are transported along
segments once, here.
-/

namespace Vibeshine.Library

structure System (σ ι : Type) where
  init : σ
  admits : σ → ι → Prop
  step : σ → ι → σ

namespace System

variable {σ ι : Type} (S : System σ ι)

/-- Runs from `source` whose steps are admissible and meet `cond`. -/
inductive Segment (cond : σ → ι → Prop) (source : σ) : σ → Prop where
  | refl : Segment cond source source
  | snoc {state : σ} {input : ι} (before : Segment cond source state)
      (admitted : S.admits state input) (meets : cond state input) :
      Segment cond source (S.step state input)

/-- The states of all runs whose steps meet `cond`. -/
def ReachableUnder (cond : σ → ι → Prop) (state : σ) : Prop := S.Segment cond S.init state

def Reachable (state : σ) : Prop := S.ReachableUnder (fun _ _ => True) state

variable {S} {cond : σ → ι → Prop} {source state : σ}

lemma Segment.mono {weaker : σ → ι → Prop}
    (hcond : ∀ state input, cond state input → weaker state input)
    (segment : S.Segment cond source state) : S.Segment weaker source state := by
  induction segment with
  | refl => exact .refl
  | snoc _ admitted meets ih => exact .snoc ih admitted (hcond _ _ meets)

lemma Segment.trans {target : σ} (first : S.Segment cond source state)
    (second : S.Segment cond state target) : S.Segment cond source target := by
  induction second with
  | refl => exact first
  | snoc _ admitted meets ih => exact .snoc ih admitted meets

lemma ReachableUnder.reachable (h : S.ReachableUnder cond state) : S.Reachable state :=
  h.mono fun _ _ _ => trivial

lemma Reachable.extend (hsource : S.Reachable source) (segment : S.Segment cond source state) :
    S.Reachable state :=
  Segment.trans hsource (segment.mono fun _ _ _ => trivial)

lemma ReachableUnder.invariant {inv : σ → Prop} (hinit : inv S.init)
    (hstep : ∀ state input, inv state → S.admits state input → cond state input →
      inv (S.step state input)) (h : S.ReachableUnder cond state) : inv state := by
  induction h with
  | refl => exact hinit
  | snoc _ admitted meets ih => exact hstep _ _ ih admitted meets

lemma Reachable.invariant {inv : σ → Prop} (hinit : inv S.init)
    (hstep : ∀ state input, inv state → S.admits state input → inv (S.step state input))
    (h : S.Reachable state) : inv state :=
  ReachableUnder.invariant hinit (fun state input hinv admitted _ => hstep state input hinv admitted)
    h

lemma Segment.invariant {inv : σ → Prop} (hsource : S.Reachable source) (hinv : inv source)
    (hstep : ∀ state input, S.Reachable state → inv state → S.admits state input →
      cond state input → inv (S.step state input))
    (segment : S.Segment cond source state) : inv state := by
  induction segment with
  | refl => exact hinv
  | snoc before admitted meets ih =>
    exact hstep _ _ (hsource.extend before) ih admitted meets

/-! ## Finite runs -/

variable (S)

def run (state : σ) (inputs : List ι) : σ := inputs.foldl S.step state

/-- Every listed input is admissible, and meets `cond`, where it is read. -/
def Follows (cond : σ → ι → Prop) : σ → List ι → Prop
  | _, [] => True
  | state, input :: inputs =>
    S.admits state input ∧ cond state input ∧ Follows cond (S.step state input) inputs

instance Follows.decidable (cond : σ → ι → Prop)
    [∀ state input, Decidable (S.admits state input)]
    [∀ state input, Decidable (cond state input)] :
    ∀ state inputs, Decidable (S.Follows cond state inputs)
  | _, [] => .isTrue trivial
  | state, input :: inputs =>
    have := Follows.decidable cond (S.step state input) inputs
    inferInstanceAs (Decidable (_ ∧ _ ∧ _))

variable {S}

lemma Segment.of_follows {inputs : List ι} (before : S.Segment cond source state)
    (h : S.Follows cond state inputs) : S.Segment cond source (S.run state inputs) := by
  induction inputs generalizing state with
  | nil => exact before
  | cons input inputs ih =>
    obtain ⟨admitted, meets, follows⟩ := h
    exact ih (.snoc before admitted meets) follows

end System

end Vibeshine.Library
