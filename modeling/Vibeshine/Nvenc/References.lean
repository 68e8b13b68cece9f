import Vibeshine.Library.System
import Mathlib

/-! # Invalidated reference frames

`encode_frame` and `invalidate_ref_frames` of the NVENC base class, beside the driver as its
documentation describes it: a picture refers to pictures since the last IDR that were not
invalidated, and an IDR refers to none.
-/

namespace Vibeshine.Nvenc

open Library

/-- What `encoder_params` of a created encoder says about invalidation. -/
structure Params where
  rfi : Bool
  refFramesInDpb : Nat

/-- What `encoder_state` says about invalidation. -/
structure EncoderState where
  lastEncodedFrameIndex : Nat := 0
  rfiNeedsConfirmation : Bool := false
  lastRfiRange : Nat × Nat := (0, 0)
  deriving DecidableEq

namespace EncoderState

/-- The end of an `encode_frame` that succeeds. -/
def encoded (e : EncoderState) (frameIndex : Nat) : EncoderState :=
  { e with rfiNeedsConfirmation := false, lastEncodedFrameIndex := frameIndex }

def alreadyDone (e : EncoderState) (firstFrame lastFrame : Nat) : Bool :=
  e.lastRfiRange.1 ≤ firstFrame && lastFrame ≤ e.lastRfiRange.2

end EncoderState

/-- `last_frame - first_frame + 1` in 64 bits. -/
def rangeSize (firstFrame lastFrame : Nat) : Nat := (lastFrame + 2 ^ 64 - firstFrame + 1) % 2 ^ 64

/-- The loop over `nvEncInvalidateRefFrames`, and the frames it passes to the driver. There is
no result where it tests its condition more often than the fuel allows. -/
def invalidateLoop (accepts : Nat → Bool) (lastFrame : Nat) : Nat → Nat → Option (Bool × List Nat)
  | 0, _ => none
  | fuel + 1, i =>
    if i ≤ lastFrame then
      if accepts i then
        (invalidateLoop accepts lastFrame fuel ((i + 1) % 2 ^ 64)).map fun rest =>
          (rest.1, i :: rest.2)
      else some (false, [i])
    else some (true, [])

structure Reply where
  encoder : EncoderState
  result : Bool
  passed : List Nat := []
  deriving DecidableEq

/-- `invalidate_ref_frames`; `entered` says whether the platform context was entered. -/
def invalidateRefFrames (params : Params) (accepts : Nat → Bool) (entered : Bool) (fuel : Nat)
    (firstFrame lastFrame : Nat) (e : EncoderState) : Option Reply :=
  if !entered then some ⟨e, false, []⟩
  else if !params.rfi then some ⟨e, false, []⟩
  else if e.alreadyDone firstFrame lastFrame then some ⟨e, true, []⟩
  else
    let e := { e with rfiNeedsConfirmation := true }
    if lastFrame < firstFrame then some ⟨e, false, []⟩
    else
      let lastFrame := e.lastEncodedFrameIndex
      let e := { e with lastRfiRange := (firstFrame, lastFrame) }
      if params.refFramesInDpb ≤ rangeSize firstFrame lastFrame then some ⟨e, false, []⟩
      else
        (invalidateLoop accepts lastFrame fuel firstFrame).map fun outcome =>
          ⟨e, outcome.1, outcome.2⟩

/-! ## One request -/

section

variable {accepts : Nat → Bool} {lastFrame i : Nat}

lemma invalidateLoop_past (h : lastFrame < i) {fuel : Nat} (hfuel : 0 < fuel) :
    invalidateLoop accepts lastFrame fuel i = some (true, []) := by
  cases fuel with
  | zero => cases hfuel
  | succ fuel =>
    unfold invalidateLoop
    rw [if_neg (not_le.mpr h)]

lemma invalidateLoop_refused (h : i ≤ lastFrame) (haccepts : accepts i = false) {fuel : Nat}
    (hfuel : 0 < fuel) : invalidateLoop accepts lastFrame fuel i = some (false, [i]) := by
  cases fuel with
  | zero => cases hfuel
  | succ fuel =>
    unfold invalidateLoop
    rw [if_pos h, haccepts]
    rfl

lemma invalidateLoop_accepted (h : i ≤ lastFrame) (haccepts : accepts i = true) (fuel : Nat) :
    invalidateLoop accepts lastFrame (fuel + 1) i =
      (invalidateLoop accepts lastFrame fuel ((i + 1) % 2 ^ 64)).map fun rest =>
        (rest.1, i :: rest.2) := by
  rw [invalidateLoop, if_pos h, if_pos haccepts]

lemma invalidateLoop_ends (accepts : Nat → Bool) (hlast : lastFrame < 2 ^ 64 - 1) (i : Nat) :
    ∃ result passed, (∀ fuel, lastFrame + 1 - i < fuel →
        invalidateLoop accepts lastFrame fuel i = some (result, passed)) ∧
      passed.length ≤ lastFrame + 1 - i ∧ (∀ j ∈ passed, i ≤ j ∧ j ≤ lastFrame) ∧
      (result = true → ∀ j, i ≤ j → j ≤ lastFrame → j ∈ passed ∧ accepts j = true) := by
  generalize hsteps : lastFrame + 1 - i = steps
  induction steps generalizing i with
  | zero =>
    refine ⟨true, [], fun fuel hfuel => invalidateLoop_past (by omega) hfuel, le_rfl, nofun,
      fun _ j hfrom hto => ?_⟩
    omega
  | succ steps ih =>
    have hwithin : i ≤ lastFrame := by omega
    cases haccepts : accepts i with
    | false =>
      refine ⟨false, [i], fun fuel hfuel => ?_, Nat.le_add_left 1 steps, fun j hj => ?_, nofun⟩
      · exact invalidateLoop_refused hwithin haccepts (Nat.zero_lt_of_lt hfuel)
      · rw [List.mem_singleton.mp hj]
        exact ⟨le_rfl, hwithin⟩
    | true =>
      have hnext : (i + 1) % 2 ^ 64 = i + 1 := Nat.mod_eq_of_lt (by omega)
      obtain ⟨result, passed, hends, hlength, hinside, hall⟩ := ih (i + 1) (by omega)
      refine ⟨result, i :: passed, fun fuel hfuel => ?_, Nat.succ_le_succ hlength, fun j hj => ?_,
        fun hresult j hfrom hto => ?_⟩
      · cases fuel with
        | zero => cases hfuel
        | succ fuel =>
          rw [invalidateLoop_accepted hwithin haccepts, hnext, hends fuel (by omega)]
          rfl
      · obtain rfl | hj := List.mem_cons.mp hj
        · exact ⟨le_rfl, hwithin⟩
        · have := hinside j hj
          omega
      · obtain rfl | hbeyond := Nat.eq_or_lt_of_le hfrom
        · exact ⟨List.mem_cons_self, haccepts⟩
        · obtain ⟨hmem, hacc⟩ := hall hresult j hbeyond hto
          exact ⟨List.mem_cons_of_mem _ hmem, hacc⟩

end

lemma invalidateLoop_endless (fuel i : Nat) (hi : i < 2 ^ 64) :
    invalidateLoop (fun _ => true) (2 ^ 64 - 1) fuel i = none := by
  induction fuel generalizing i with
  | zero => rfl
  | succ fuel ih =>
    -- The successor of the last number is zero again.
    rw [invalidateLoop_accepted (by omega) rfl, ih _ (Nat.mod_lt _ (by omega))]
    rfl

/-- What a request does to the encoder, and what it passes to the driver. -/
structure Answers (params : Params) (accepts : Nat → Bool) (entered : Bool)
    (firstFrame lastFrame : Nat) (e : EncoderState) (reply : Reply) : Prop where
  ends : ∀ fuel, params.refFramesInDpb ≤ fuel →
    invalidateRefFrames params accepts entered fuel firstFrame lastFrame e = some reply
  few : reply.passed = [] ∨ reply.passed.length < params.refFramesInDpb
  inside : ∀ i ∈ reply.passed, firstFrame ≤ i ∧ i ≤ e.lastEncodedFrameIndex
  encoded : reply.encoder.lastEncodedFrameIndex = e.lastEncodedFrameIndex
  confirmation : reply.encoder.rfiNeedsConfirmation =
    (e.rfiNeedsConfirmation || (params.rfi && entered && !e.alreadyDone firstFrame lastFrame))
  range : reply.encoder.lastRfiRange = e.lastRfiRange ∧
      (reply.result = true → e.alreadyDone firstFrame lastFrame = true) ∨
    reply.encoder.lastRfiRange = (firstFrame, e.lastEncodedFrameIndex) ∧
      (reply.result = true → ∀ i, firstFrame ≤ i → i ≤ e.lastEncodedFrameIndex →
        i ∈ reply.passed ∧ accepts i = true)

lemma exists_answers (params : Params) (accepts : Nat → Bool) (entered : Bool)
    {firstFrame : Nat} (lastFrame : Nat) {e : EncoderState} (hfirst : firstFrame < 2 ^ 64)
    (hlast : e.lastEncodedFrameIndex < 2 ^ 64 - 1) :
    ∃ reply, Answers params accepts entered firstFrame lastFrame e reply := by
  cases entered with
  | false => exact ⟨⟨e, false, []⟩, fun _ _ => rfl, .inl rfl, nofun, rfl, by simp, .inl ⟨rfl, nofun⟩⟩
  | true =>
  cases hrfi : params.rfi with
  | false =>
    refine ⟨⟨e, false, []⟩, fun fuel _ => ?_, .inl rfl, nofun, rfl, ?_, .inl ⟨rfl, nofun⟩⟩
    · rw [invalidateRefFrames, hrfi]
      rfl
    · rw [hrfi]
      simp
  | true =>
  -- Past the context and the support, the guards of the source in their order.
  have hunfold : ∀ fuel, invalidateRefFrames params accepts true fuel firstFrame lastFrame e =
      if e.alreadyDone firstFrame lastFrame then some ⟨e, true, []⟩
      else if lastFrame < firstFrame then
        some ⟨{ e with rfiNeedsConfirmation := true }, false, []⟩
      else if params.refFramesInDpb ≤ rangeSize firstFrame e.lastEncodedFrameIndex then
        some ⟨{ e with
          rfiNeedsConfirmation := true
          lastRfiRange := (firstFrame, e.lastEncodedFrameIndex) }, false, []⟩
      else (invalidateLoop accepts e.lastEncodedFrameIndex fuel firstFrame).map fun outcome =>
        ⟨{ e with
          rfiNeedsConfirmation := true
          lastRfiRange := (firstFrame, e.lastEncodedFrameIndex) }, outcome.1, outcome.2⟩ := by
    intro fuel
    rw [invalidateRefFrames, hrfi]
    rfl
  cases hdone : e.alreadyDone firstFrame lastFrame with
  | true =>
    refine ⟨⟨e, true, []⟩, fun fuel _ => ?_, .inl rfl, nofun, rfl, ?_, .inl ⟨rfl, fun _ => hdone⟩⟩
    · rw [hunfold, if_pos hdone]
    · rw [hdone]
      simp
  | false =>
  have hmarked : (e.rfiNeedsConfirmation ||
      (params.rfi && true && !e.alreadyDone firstFrame lastFrame)) = true := by
    rw [hrfi, hdone]
    simp
  have hundone : ¬ e.alreadyDone firstFrame lastFrame = true := by
    rw [hdone]
    nofun
  by_cases hinverted : lastFrame < firstFrame
  · refine ⟨⟨{ e with rfiNeedsConfirmation := true }, false, []⟩, fun fuel _ => ?_, .inl rfl, nofun,
      rfl, hmarked.symm, .inl ⟨rfl, nofun⟩⟩
    rw [hunfold, if_neg hundone, if_pos hinverted]
  by_cases hlarge : params.refFramesInDpb ≤ rangeSize firstFrame e.lastEncodedFrameIndex
  · refine ⟨⟨{ e with
        rfiNeedsConfirmation := true
        lastRfiRange := (firstFrame, e.lastEncodedFrameIndex) }, false, []⟩,
      fun fuel _ => ?_, .inl rfl, nofun, rfl, hmarked.symm, .inr ⟨rfl, nofun⟩⟩
    rw [hunfold, if_neg hundone, if_neg hinverted, if_pos hlarge]
  · obtain ⟨result, passed, hends, hlength, hinside, hall⟩ :=
      invalidateLoop_ends accepts hlast firstFrame
    -- A first frame beyond the last one wraps around, but then the loop is empty.
    have hfew : e.lastEncodedFrameIndex + 1 - firstFrame < params.refFramesInDpb := by
      unfold rangeSize at hlarge
      omega
    refine ⟨⟨{ e with
        rfiNeedsConfirmation := true
        lastRfiRange := (firstFrame, e.lastEncodedFrameIndex) }, result, passed⟩,
      fun fuel hfuel => ?_, .inr (lt_of_le_of_lt hlength hfew), hinside, rfl, hmarked.symm,
      .inr ⟨rfl, hall⟩⟩
    rw [hunfold, if_neg hundone, if_neg hinverted, if_neg hlarge, hends fuel (by omega)]
    rfl

end Vibeshine.Nvenc
