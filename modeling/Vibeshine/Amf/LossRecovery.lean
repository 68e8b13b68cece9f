import Vibeshine.Library.System
import Mathlib.Tactic.Common

/-! # Loss recovery through long-term references

The long-term reference slots of the native encoder, the frames it submits and
the invalidation requests it answers, beside the driver as its documentation
describes it: a slot holds the last accepted frame marked for it, an IDR drops
every reference, and a forced long-term reference leaves only its own slot.
-/

namespace Vibeshine.Amf.LossRecovery

open Library Option

def maxLtrSlots : Nat := 4

def ltrMarkInterval : Nat := 4

structure Encoder where
  rfiEnabled : Bool
  maxLtrFrames : Nat
  effectiveLtrSlots : Nat
  rfiPending : Bool := false
  lastRfiLtrIndex : Nat := 0
  currentLtrSlot : Nat := 0
  ltrSlotsValid : Nat → Bool := fun _ => false
  ltrSlotFrameIndex : Nat → Nat := fun _ => 0
  lastSubmittedFrameIndex : Nat := 0
  /-- the frames that answer an invalidation -/
  frameRfiFlags : List Nat := []

/-- What a submission commits once it is accepted. -/
structure Plan where
  slotToCommit : Option Nat := none
  nextSlotToCommit : Nat
  consumeRfi : Bool := false
  resetCache : Bool := false
  slotToPreserve : Option Nat := none
  referenceSlot : Option Nat := none
  frameAfterInvalidation : Bool := false

inductive Picture where
  | idr
  | forced (slot : Nat)
  | plain
  deriving DecidableEq

variable (e : Encoder)

namespace Encoder

def effectiveLtrSlotsSnapshot : Nat :=
  if e.rfiEnabled then e.effectiveLtrSlots else 0

/-- The recovery plan `encode_frame` takes under the state lock. -/
def plan (frameIndex : Nat) (forceIdr : Bool) : Plan :=
  let slots := e.effectiveLtrSlotsSnapshot
  if forceIdr then
    if 0 < slots then
      { slotToCommit := some 0, nextSlotToCommit := if 1 < slots then 1 else 0
        consumeRfi := true, resetCache := true }
    else { nextSlotToCommit := e.currentLtrSlot, consumeRfi := true, resetCache := true }
  else if e.rfiPending && 0 < slots then
    { nextSlotToCommit := e.currentLtrSlot, consumeRfi := true, resetCache := true
      slotToPreserve := some e.lastRfiLtrIndex, referenceSlot := some e.lastRfiLtrIndex
      frameAfterInvalidation := true }
  else if 0 < slots && frameIndex % ltrMarkInterval = 0 then
    { slotToCommit := some e.currentLtrSlot
      nextSlotToCommit :=
        if 1 < slots then if slots ≤ e.currentLtrSlot + 1 then 1 else e.currentLtrSlot + 1
        else e.currentLtrSlot }
  else { nextSlotToCommit := e.currentLtrSlot }

def disableRfiAfterPropertyFailure : Encoder :=
  { e with
    rfiEnabled := false, maxLtrFrames := 0, effectiveLtrSlots := 0, rfiPending := false
    ltrSlotsValid := fun _ => false, ltrSlotFrameIndex := fun _ => 0 }

variable (plan : Plan)

/-- The per-surface properties of a submission: what is left of the plan and
the picture asked for, if the submission goes ahead. -/
def setProperties (forceIdr ltrProperty idrProperties : Bool) : Encoder × Option (Plan × Picture) :=
  if forceIdr then
    if !idrProperties then (e, none)
    else if plan.slotToCommit.isSome && !ltrProperty then
      (e.disableRfiAfterPropertyFailure, some ({ plan with slotToCommit := none }, .idr))
    else (e, some (plan, .idr))
  else
    match plan.referenceSlot with
    | some slot =>
      if ltrProperty then (e, some (plan, .forced slot))
      else if !idrProperties then (e.disableRfiAfterPropertyFailure, none)
      else
        (e.disableRfiAfterPropertyFailure,
          some ({ plan with
            frameAfterInvalidation := false, consumeRfi := false, slotToPreserve := none
            resetCache := true }, .idr))
    | none =>
      if plan.slotToCommit.isSome && !ltrProperty then
        (e.disableRfiAfterPropertyFailure, some ({ plan with slotToCommit := none }, .plain))
      else (e, some (plan, .plain))

/-- `commit_recovery_state` of an accepted submission. -/
def commitRecoveryState (frameIndex : Nat) : Encoder :=
  let bounded := min e.effectiveLtrSlots maxLtrSlots
  let drops (slot : Nat) : Bool :=
    plan.resetCache && slot < bounded && plan.slotToPreserve ≠ some slot
  let marks (slot : Nat) : Bool := slot < bounded && plan.slotToCommit = some slot
  { e with
    ltrSlotsValid := fun slot =>
      if marks slot then true else if drops slot then false else e.ltrSlotsValid slot
    ltrSlotFrameIndex := fun slot =>
      if marks slot then frameIndex else if drops slot then 0 else e.ltrSlotFrameIndex slot
    currentLtrSlot :=
      if (plan.slotToCommit.map marks).getD false then plan.nextSlotToCommit else e.currentLtrSlot
    rfiPending := if plan.consumeRfi then false else e.rfiPending
    frameRfiFlags := if plan.frameAfterInvalidation then frameIndex :: e.frameRfiFlags
      else e.frameRfiFlags }

def accept (frameIndex : Nat) : Encoder :=
  { e.commitRecoveryState plan frameIndex with
    lastSubmittedFrameIndex := max e.lastSubmittedFrameIndex frameIndex }

def bestLtr (firstFrame : Nat) : Option Nat :=
  (List.range e.effectiveLtrSlots).foldl (fun best slot =>
    if e.ltrSlotsValid slot && e.ltrSlotFrameIndex slot < firstFrame then
      match best with
      | none => some slot
      | some other =>
        if e.ltrSlotFrameIndex other < e.ltrSlotFrameIndex slot then some slot else best
    else best) none

def invalidateRefFrames (firstFrame lastFrame : Nat) : Encoder × Bool :=
  if !e.rfiEnabled || e.effectiveLtrSlots = 0 then (e, false)
  else
    match e.bestLtr firstFrame with
    | none => (e, false)
    | some best =>
      let effectiveLastFrame := max lastFrame e.lastSubmittedFrameIndex
      ({ e with
          ltrSlotsValid := fun slot =>
            if slot < e.effectiveLtrSlots && firstFrame ≤ e.ltrSlotFrameIndex slot &&
                e.ltrSlotFrameIndex slot ≤ effectiveLastFrame then false
            else e.ltrSlotsValid slot
          lastRfiLtrIndex := best
          rfiPending := true }, true)

end Encoder

/-- The driver: the frame in each long-term slot with every frame it depends on,
and the frames a new frame without a forced reference may depend on. -/
structure Driver where
  stored : Nat → Option (Nat × List Nat) := fun _ => none
  live : List Nat := []

namespace Driver

variable (d : Driver) (picture : Picture)

def chain (frameIndex : Nat) : List Nat :=
  match picture with
  | .idr => [frameIndex]
  | .forced slot =>
    frameIndex :: match d.stored slot with
      | some held => held.2
      | none => d.live
  | .plain => frameIndex :: d.live

def kept (slot : Nat) : Option (Nat × List Nat) :=
  match picture with
  | .idr => none
  | .forced only => if slot = only then d.stored slot else none
  | .plain => d.stored slot

def accept (mark : Option Nat) (frameIndex : Nat) : Driver where
  stored := fun slot =>
    if mark = some slot then some (frameIndex, d.chain picture frameIndex) else d.kept picture slot
  live := d.chain picture frameIndex

end Driver

/-- The outcome of an attempt: whether it comes as far as the plan, which
properties the driver takes, and whether it takes the submission. -/
structure Outcome where
  planned : Bool
  ltrProperty : Bool
  idrProperties : Bool
  accepted : Bool
  deriving DecidableEq

/-- The encoder and its driver, with what has been asked and answered so far. -/
structure Run where
  encoder : Encoder
  driver : Driver := {}
  /-- the next frame index is at least this -/
  nextIndex : Nat := 0
  /-- one past the last accepted frame -/
  submitted : Nat := 0
  /-- the requests, each with the end of the frames submitted until then -/
  requests : List (Nat × Nat) := []
  /-- a request was refused and no IDR has been accepted since -/
  owed : Bool := false
  /-- a request was taken and no frame has been accepted since -/
  waiting : Bool := false

namespace Run

def attempt (r : Run) (frameIndex : Nat) (forceIdr : Bool) (outcome : Outcome) : Run :=
  let r := { r with nextIndex := frameIndex + 1 }
  if !outcome.planned then r
  else
    let result := r.encoder.setProperties (r.encoder.plan frameIndex forceIdr) forceIdr
      outcome.ltrProperty outcome.idrProperties
    match result.2 with
    | none => { r with encoder := result.1 }
    | some (plan, picture) =>
      if !outcome.accepted then { r with encoder := result.1 }
      else
        { r with
          encoder := result.1.accept plan frameIndex
          driver := r.driver.accept picture plan.slotToCommit frameIndex
          submitted := frameIndex + 1
          owed := r.owed && picture ≠ .idr
          waiting := false }

def request (r : Run) (firstFrame lastFrame : Nat) : Run :=
  let result := r.encoder.invalidateRefFrames firstFrame lastFrame
  { r with
    encoder := result.1
    requests := (firstFrame, r.submitted) :: r.requests
    owed := r.owed || !result.2
    waiting := r.waiting || result.2 }

def acceptedPicture (r : Run) (frameIndex : Nat) (forceIdr : Bool) (outcome : Outcome) :
    Option Picture :=
  if outcome.planned && outcome.accepted then
    (r.encoder.setProperties (r.encoder.plan frameIndex forceIdr) forceIdr
      outcome.ltrProperty outcome.idrProperties).2.map (·.2)
  else none

end Run

inductive Input where
  | attempt (frameIndex : Nat) (forceIdr : Bool) (outcome : Outcome)
  | request (firstFrame lastFrame : Nat)

def admits (r : Run) : Input → Prop
  | .attempt frameIndex forceIdr _ => r.nextIndex ≤ frameIndex ∧ (r.owed = true → forceIdr = true)
  | .request _ _ => True

def step (r : Run) : Input → Run
  | .attempt frameIndex forceIdr outcome => r.attempt frameIndex forceIdr outcome
  | .request firstFrame lastFrame => r.request firstFrame lastFrame

def stream (rfiEnabled : Bool) (maxLtrFrames : Nat) : System Run Input where
  init :=
    { encoder :=
        { rfiEnabled := rfiEnabled, maxLtrFrames := maxLtrFrames
          effectiveLtrSlots := min maxLtrFrames maxLtrSlots } }
  admits := admits
  step := step

/-! ## The invariant -/

def Clean (requests : List (Nat × Nat)) (frameIndex : Nat) : Prop :=
  ∀ request ∈ requests, ¬(request.1 ≤ frameIndex ∧ frameIndex < request.2)

structure Sound (r : Run) : Prop where
  slots_le : r.encoder.effectiveLtrSlots ≤ maxLtrSlots
  valid_lt : ∀ slot, r.encoder.ltrSlotsValid slot = true → slot < r.encoder.effectiveLtrSlots
  holds : ∀ slot, r.encoder.ltrSlotsValid slot = true →
    ∃ chain, r.driver.stored slot = some (r.encoder.ltrSlotFrameIndex slot, chain)
  stored_lt : ∀ slot frame chain, r.driver.stored slot = some (frame, chain) →
    frame < r.submitted ∧ frame ∈ chain ∧ ∀ other ∈ chain, other ≤ frame
  live_lt : ∀ frame ∈ r.driver.live, frame < r.submitted
  requested : ∀ request ∈ r.requests, request.2 ≤ r.submitted
  last : r.submitted ≤ r.encoder.lastSubmittedFrameIndex + 1
  next : r.submitted ≤ r.nextIndex
  clean : r.owed = false → ∀ slot, r.encoder.ltrSlotsValid slot = true →
    ∀ frame chain, r.driver.stored slot = some (frame, chain) →
      ∀ other ∈ chain, Clean r.requests other
  live_clean : r.owed = false → r.encoder.rfiPending = false → r.encoder.rfiEnabled = true →
    0 < r.encoder.effectiveLtrSlots → ∀ frame ∈ r.driver.live, Clean r.requests frame
  pending : r.encoder.rfiPending = true →
    r.encoder.ltrSlotsValid r.encoder.lastRfiLtrIndex = true ∧ r.encoder.rfiEnabled = true

namespace Sound

variable {r : Run}

lemma initial (rfiEnabled : Bool) (maxLtrFrames : Nat) :
    Sound (stream rfiEnabled maxLtrFrames).init where
  slots_le := Nat.min_le_right _ _
  valid_lt := nofun
  holds := nofun
  stored_lt := nofun
  live_lt := nofun
  requested := nofun
  last := Nat.zero_le _
  next := Nat.zero_le _
  clean := nofun
  live_clean := fun _ _ _ _ => nofun
  pending := nofun

section

variable (h : Sound r)

include h

lemma advance {nextIndex : Nat} (hnext : r.submitted ≤ nextIndex) :
    Sound { r with nextIndex := nextIndex } :=
  ⟨h.slots_le, h.valid_lt, h.holds, h.stored_lt, h.live_lt, h.requested, h.last, hnext, h.clean,
    h.live_clean, h.pending⟩

lemma wait (waiting : Bool) : Sound { r with waiting := waiting } :=
  ⟨h.slots_le, h.valid_lt, h.holds, h.stored_lt, h.live_lt, h.requested, h.last, h.next, h.clean,
    h.live_clean, h.pending⟩

lemma disable : Sound { r with encoder := r.encoder.disableRfiAfterPropertyFailure } where
  slots_le := Nat.zero_le _
  valid_lt := nofun
  holds := nofun
  stored_lt := h.stored_lt
  live_lt := h.live_lt
  requested := h.requested
  last := h.last
  next := h.next
  clean := fun _ _ => nofun
  live_clean := fun _ _ => nofun
  pending := nofun

lemma clean_new {frameIndex : Nat} (hnew : r.submitted ≤ frameIndex) :
    Clean r.requests frameIndex := fun request hrequest hinside =>
  absurd hinside.2 (Nat.not_lt.mpr (Nat.le_trans (h.requested request hrequest) hnew))

end

/-! ### Requests -/

lemma bestLtr_some {e : Encoder} {firstFrame best : Nat} (h : e.bestLtr firstFrame = some best) :
    e.ltrSlotsValid best = true ∧ e.ltrSlotFrameIndex best < firstFrame := by
  unfold Encoder.bestLtr at h
  have hinit : ∀ best, (none : Option Nat) = some best →
      e.ltrSlotsValid best = true ∧ e.ltrSlotFrameIndex best < firstFrame := nofun
  generalize (none : Option Nat) = found at h hinit
  generalize List.range e.effectiveLtrSlots = slots at h
  induction slots generalizing found with
  | nil => exact hinit best h
  | cons slot slots ih =>
    refine ih _ (fun other hother => ?_) h
    dsimp only at hother
    split at hother
    next htaken =>
      simp only [Bool.and_eq_true, decide_eq_true_eq] at htaken
      split at hother
      next => exact some.inj hother ▸ htaken
      next =>
        split at hother
        next => exact some.inj hother ▸ htaken
        next => exact hinit other hother
    next => exact hinit other hother

section

variable (h : Sound r)

include h

lemma request_refused (firstFrame : Nat) :
    Sound { r with requests := (firstFrame, r.submitted) :: r.requests, owed := true } where
  slots_le := h.slots_le
  valid_lt := h.valid_lt
  holds := h.holds
  stored_lt := h.stored_lt
  live_lt := h.live_lt
  requested := by
    intro request hrequest
    rcases List.mem_cons.mp hrequest with rfl | hbefore
    · exact Nat.le_refl _
    · exact h.requested request hbefore
  last := h.last
  next := h.next
  clean := nofun
  live_clean := nofun
  pending := h.pending

lemma request_taken (henabled : r.encoder.rfiEnabled = true)
    {firstFrame lastFrame best : Nat} (hbest : r.encoder.bestLtr firstFrame = some best) :
    Sound { r with
      encoder :=
        { r.encoder with
          ltrSlotsValid := fun slot =>
            if slot < r.encoder.effectiveLtrSlots &&
                firstFrame ≤ r.encoder.ltrSlotFrameIndex slot &&
                r.encoder.ltrSlotFrameIndex slot ≤
                  max lastFrame r.encoder.lastSubmittedFrameIndex then false
            else r.encoder.ltrSlotsValid slot
          lastRfiLtrIndex := best
          rfiPending := true }
      requests := (firstFrame, r.submitted) :: r.requests } := by
  obtain ⟨hvalid, hbefore⟩ := bestLtr_some hbest
  have hstill : ∀ slot, (if slot < r.encoder.effectiveLtrSlots &&
      firstFrame ≤ r.encoder.ltrSlotFrameIndex slot &&
      r.encoder.ltrSlotFrameIndex slot ≤ max lastFrame r.encoder.lastSubmittedFrameIndex then false
      else r.encoder.ltrSlotsValid slot) = true →
      r.encoder.ltrSlotsValid slot = true ∧ r.encoder.ltrSlotFrameIndex slot < firstFrame := by
    intro slot hslot
    split at hslot
    next => cases hslot
    next hkept =>
      refine ⟨hslot, ?_⟩
      obtain ⟨chain, hstored⟩ := h.holds slot hslot
      have hsub := (h.stored_lt slot _ chain hstored).1
      have hlast := h.last
      have hlt := h.valid_lt slot hslot
      simp only [Bool.and_eq_true, decide_eq_true_eq, not_and] at hkept
      by_contra hnot
      exact hkept ⟨hlt, by omega⟩ (by omega)
  refine
    { slots_le := h.slots_le
      valid_lt := fun slot hslot => h.valid_lt slot (hstill slot hslot).1
      holds := fun slot hslot => h.holds slot (hstill slot hslot).1
      stored_lt := h.stored_lt
      live_lt := h.live_lt
      requested := fun request hrequest => ?_
      last := h.last
      next := h.next
      clean := fun howed slot hslot frame chain hstored other hother => ?_
      live_clean := fun _ hpend => by cases hpend
      pending := fun _ => ⟨?_, henabled⟩ }
  · rcases List.mem_cons.mp hrequest with rfl | hbefore
    · exact Nat.le_refl _
    · exact h.requested request hbefore
  · obtain ⟨hslot, hframe⟩ := hstill slot hslot
    intro request hrequest
    rcases List.mem_cons.mp hrequest with rfl | hearlier
    · obtain ⟨held, hheld⟩ := h.holds slot hslot
      have heq : frame = r.encoder.ltrSlotFrameIndex slot :=
        congrArg Prod.fst (some.inj (hstored.symm.trans hheld))
      have hle := (h.stored_lt slot frame chain hstored).2.2 other hother
      exact fun hinside => absurd hinside.1 (by omega)
    · exact h.clean howed slot hslot frame chain hstored other hother request hearlier
  · dsimp only
    rw [if_neg (by simp [Nat.not_le.mpr hbefore])]
    exact hvalid

lemma request (firstFrame lastFrame : Nat) : Sound (r.request firstFrame lastFrame) := by
  unfold Run.request Encoder.invalidateRefFrames
  dsimp only
  split
  next => simpa using h.request_refused firstFrame
  next henabled =>
    split
    next => simpa using h.request_refused firstFrame
    next best hbest =>
      have hon : r.encoder.rfiEnabled = true := by
        simp only [Bool.or_eq_true, Bool.not_eq_true', decide_eq_true_eq, not_or,
          Bool.not_eq_false] at henabled
        exact henabled.1
      simpa using (@request_taken r h hon firstFrame lastFrame best hbest).wait true

/-! ### Accepted frames -/

lemma chain_le (picture : Picture) {frameIndex : Nat} (hnew : r.submitted ≤ frameIndex) :
    ∀ other ∈ r.driver.chain picture frameIndex, other ≤ frameIndex := by
  have hlive : ∀ other ∈ frameIndex :: r.driver.live, other ≤ frameIndex := by
    intro other hother
    rcases List.mem_cons.mp hother with rfl | hbefore
    · exact Nat.le_refl _
    · exact Nat.le_trans (Nat.le_of_lt (h.live_lt other hbefore)) hnew
  intro other hother
  cases picture with
  | idr => exact Nat.le_of_eq (List.mem_singleton.mp hother)
  | plain => exact hlive other hother
  | forced slot =>
    unfold Driver.chain at hother
    dsimp only at hother
    split at hother
    next held hheld =>
      obtain ⟨hlt, -, hle⟩ := h.stored_lt slot held.1 held.2 hheld
      rcases List.mem_cons.mp hother with rfl | hbefore
      · exact Nat.le_refl _
      · exact Nat.le_trans (hle other hbefore) (Nat.le_trans (Nat.le_of_lt hlt) hnew)
    next => exact hlive other hother

lemma accept {plan : Plan} {picture : Picture} {frameIndex : Nat}
    (hnew : r.submitted ≤ frameIndex) (hnext : frameIndex + 1 ≤ r.nextIndex)
    (hkept : ∀ slot, r.encoder.ltrSlotsValid slot = true →
      plan.resetCache = false ∨ plan.slotToPreserve = some slot →
      r.driver.kept picture slot = r.driver.stored slot)
    (hconsumed : plan.consumeRfi = true ∨ r.encoder.rfiPending = false)
    (henabled : plan.slotToCommit ≠ none → r.encoder.rfiEnabled = true)
    (hclean : (r.owed && picture ≠ .idr) = false → r.encoder.rfiEnabled = true →
      0 < r.encoder.effectiveLtrSlots →
      ∀ other ∈ r.driver.chain picture frameIndex, Clean r.requests other) : Sound { r with
      encoder := r.encoder.accept plan frameIndex
      driver := r.driver.accept picture plan.slotToCommit frameIndex
      submitted := frameIndex + 1
      owed := r.owed && picture ≠ .idr
      waiting := false } := by
  have hbounded : min r.encoder.effectiveLtrSlots maxLtrSlots = r.encoder.effectiveLtrSlots :=
    Nat.min_eq_left h.slots_le
  -- a slot that is valid afterwards is the marked one, or was kept
  have hafter : ∀ slot, (r.encoder.accept plan frameIndex).ltrSlotsValid slot = true →
      (slot < r.encoder.effectiveLtrSlots ∧ plan.slotToCommit = some slot ∧
        (r.encoder.accept plan frameIndex).ltrSlotFrameIndex slot = frameIndex) ∨
      (plan.slotToCommit ≠ some slot ∧ r.encoder.ltrSlotsValid slot = true ∧
        (plan.resetCache = false ∨ plan.slotToPreserve = some slot) ∧
        (r.encoder.accept plan frameIndex).ltrSlotFrameIndex slot =
          r.encoder.ltrSlotFrameIndex slot) := by
    intro slot hslot
    simp only [Encoder.accept, Encoder.commitRecoveryState, hbounded] at hslot ⊢
    by_cases hmark : slot < r.encoder.effectiveLtrSlots ∧ plan.slotToCommit = some slot
    · exact .inl ⟨hmark.1, hmark.2, by simp [hmark]⟩
    · have hmarks : (decide (slot < r.encoder.effectiveLtrSlots) &&
          decide (plan.slotToCommit = some slot)) = false := by
        simpa using hmark
      rw [hmarks] at hslot ⊢
      simp only [Bool.false_eq_true, if_false] at hslot ⊢
      split at hslot
      next => cases hslot
      next hdrops =>
        have hlt := h.valid_lt slot hslot
        refine .inr ⟨fun hcommit => hmark ⟨hlt, hcommit⟩, hslot, ?_, if_neg hdrops⟩
        simp only [hlt, Bool.and_eq_true, decide_eq_true_eq, not_and] at hdrops
        by_cases hreset : plan.resetCache = true
        · exact .inr (not_not.mp (hdrops ⟨hreset, trivial⟩))
        · exact .inl (Bool.not_eq_true _ ▸ hreset)
  have hpend : (r.encoder.accept plan frameIndex).rfiPending = false := by
    simp only [Encoder.accept, Encoder.commitRecoveryState]
    split
    next => rfl
    next hconsume => exact hconsumed.resolve_left hconsume
  have hstored : ∀ slot, r.encoder.ltrSlotsValid slot = true → plan.slotToCommit ≠ some slot →
      plan.resetCache = false ∨ plan.slotToPreserve = some slot →
      (r.driver.accept picture plan.slotToCommit frameIndex).stored slot =
        r.driver.stored slot := by
    intro slot hvalid hcommit hsaved
    simp only [Driver.accept, if_neg hcommit]
    exact hkept slot hvalid hsaved
  refine
    { slots_le := h.slots_le
      valid_lt := fun slot hslot => ?_
      holds := fun slot hslot => ?_
      stored_lt := fun slot frame chain hheld => ?_
      live_lt := fun other hother => Nat.lt_succ_of_le (h.chain_le picture hnew other hother)
      requested := fun request hrequest =>
        Nat.le_trans (h.requested request hrequest) (Nat.le_succ_of_le hnew)
      last := Nat.succ_le_succ (Nat.le_max_right _ _)
      next := hnext
      clean := fun howed slot hslot frame chain hheld => ?_
      live_clean := fun howed _ henabled hpos => hclean howed henabled hpos
      pending := fun htrue => ?_ }
  · rcases hafter slot hslot with ⟨hlt, -⟩ | ⟨-, hvalid, -⟩
    · exact hlt
    · exact h.valid_lt slot hvalid
  · rcases hafter slot hslot with ⟨-, hcommit, hindex⟩ | ⟨hcommit, hvalid, hsaved, hindex⟩
    · refine ⟨r.driver.chain picture frameIndex, ?_⟩
      rw [hindex]
      exact if_pos hcommit
    · obtain ⟨chain, hheld⟩ := h.holds slot hvalid
      exact ⟨chain, by rw [hstored slot hvalid hcommit hsaved, hindex, hheld]⟩
  · simp only [Driver.accept] at hheld
    split at hheld
    next =>
      cases hheld
      refine ⟨Nat.lt_succ_self _, ?_, h.chain_le picture hnew⟩
      cases picture <;> exact List.mem_cons_self
    next =>
      have hbefore : r.driver.stored slot = some (frame, chain) := by
        unfold Driver.kept at hheld
        split at hheld
        next => cases hheld
        next =>
          split at hheld
          next => exact hheld
          next => cases hheld
        next => exact hheld
      obtain ⟨hlt, hle⟩ := h.stored_lt slot frame chain hbefore
      exact ⟨Nat.lt_succ_of_le (Nat.le_trans (Nat.le_of_lt hlt) hnew), hle⟩
  · rcases hafter slot hslot with ⟨hlt, hcommit, -⟩ | ⟨hcommit, hvalid, hsaved, -⟩
    · have hmarked : (r.driver.accept picture plan.slotToCommit frameIndex).stored slot =
          some (frameIndex, r.driver.chain picture frameIndex) := if_pos hcommit
      obtain ⟨-, rfl⟩ := Prod.mk.inj (some.inj (hmarked.symm.trans hheld))
      exact hclean howed (henabled (by rw [hcommit]; nofun)) (Nat.zero_lt_of_lt hlt)
    · have hbefore := (hstored slot hvalid hcommit hsaved).symm.trans hheld
      by_cases hwas : r.owed = false
      · exact h.clean hwas slot hvalid frame chain hbefore
      · -- the refusal was answered by an IDR, which keeps no slot
        have hidr : picture = .idr := by
          simpa [Bool.not_eq_false _ ▸ hwas] using howed
        have hnone : r.driver.stored slot = none := by
          rw [← hkept slot hvalid hsaved, hidr]
          rfl
        rw [hnone] at hbefore
        cases hbefore
  · dsimp only at htrue
    rw [hpend] at htrue
    cases htrue

end

/-! ### Attempts -/

lemma rfiEnabled_of_snapshot {e : Encoder} (h : 0 < e.effectiveLtrSlotsSnapshot) :
    e.rfiEnabled = true := by
  unfold Encoder.effectiveLtrSlotsSnapshot at h
  split at h
  next henabled => exact henabled
  next => exact absurd h (Nat.lt_irrefl _)

lemma plan_idr (frameIndex : Nat) :
    (e.plan frameIndex true).resetCache = true ∧ (e.plan frameIndex true).slotToPreserve = none ∧
      (e.plan frameIndex true).consumeRfi = true ∧
      ((e.plan frameIndex true).slotToCommit ≠ none → e.rfiEnabled = true) := by
  unfold Encoder.plan
  dsimp only
  rw [if_pos rfl]
  split
  next hslots => exact ⟨rfl, rfl, rfl, fun _ => rfiEnabled_of_snapshot hslots⟩
  next => exact ⟨rfl, rfl, rfl, fun hcommit => absurd rfl hcommit⟩

lemma plan_forced {e : Encoder} {frameIndex slot : Nat}
    (h : (e.plan frameIndex false).referenceSlot = some slot) :
    e.rfiPending = true ∧ slot = e.lastRfiLtrIndex ∧ (e.plan frameIndex false).slotToCommit = none ∧
      (e.plan frameIndex false).resetCache = true ∧
      (e.plan frameIndex false).slotToPreserve = some slot ∧
      (e.plan frameIndex false).consumeRfi = true := by
  unfold Encoder.plan at h ⊢
  dsimp only at h ⊢
  rw [if_neg Bool.false_ne_true] at h ⊢
  split at h
  next hrecovers =>
    simp only [Bool.and_eq_true, decide_eq_true_eq] at hrecovers
    obtain rfl := Option.some.inj h
    rw [if_pos (by simp [hrecovers])]
    exact ⟨hrecovers.1, rfl, rfl, rfl, rfl, rfl⟩
  next => split at h <;> cases h

section

variable (h : Sound r)

include h

lemma plan_plain {frameIndex : Nat}
    (hnone : (r.encoder.plan frameIndex false).referenceSlot = none) :
    r.encoder.rfiPending = false ∧ (r.encoder.plan frameIndex false).resetCache = false ∧
      ((r.encoder.plan frameIndex false).slotToCommit ≠ none → r.encoder.rfiEnabled = true) := by
  unfold Encoder.plan at hnone ⊢
  dsimp only at hnone ⊢
  rw [if_neg Bool.false_ne_true] at hnone ⊢
  split at hnone
  next => cases hnone
  next hstill =>
    rw [if_neg hstill]
    refine ⟨?_, ?_, ?_⟩
    · by_contra hpend
      rw [Bool.not_eq_false] at hpend
      obtain ⟨hvalid, henabled⟩ := h.pending hpend
      exact hstill (by simp [Encoder.effectiveLtrSlotsSnapshot, hpend, henabled,
        Nat.zero_lt_of_lt (h.valid_lt _ hvalid)])
    · split <;> rfl
    · split
      next hmarks =>
        simp only [Bool.and_eq_true, decide_eq_true_eq] at hmarks
        exact fun _ => rfiEnabled_of_snapshot hmarks.1
      next => exact fun hcommit => absurd rfl hcommit

lemma goesAhead {frameIndex : Nat} {forceIdr ltrProperty idrProperties : Bool}
    (hnew : r.submitted ≤ frameIndex) (hnext : frameIndex + 1 ≤ r.nextIndex)
    (howed : r.owed = true → forceIdr = true) : Sound { r with encoder :=
        (r.encoder.setProperties (r.encoder.plan frameIndex forceIdr) forceIdr ltrProperty
          idrProperties).1 } ∧
      ∀ plan picture, (r.encoder.setProperties (r.encoder.plan frameIndex forceIdr) forceIdr
          ltrProperty idrProperties).2 = some (plan, picture) →
        Sound { r with
          encoder := ((r.encoder.setProperties (r.encoder.plan frameIndex forceIdr) forceIdr
            ltrProperty idrProperties).1).accept plan frameIndex
          driver := r.driver.accept picture plan.slotToCommit frameIndex
          submitted := frameIndex + 1
          owed := r.owed && picture ≠ .idr
          waiting := false } := by
  have hfresh : ∀ other ∈ r.driver.chain .idr frameIndex, Clean r.requests other := by
    intro other hother
    rw [List.mem_singleton.mp hother]
    exact h.clean_new hnew
  cases forceIdr with
  | true =>
    obtain ⟨hreset, hpreserve, hconsume, henabled⟩ := plan_idr r.encoder frameIndex
    unfold Encoder.setProperties
    rw [if_pos rfl]
    split
    next => exact ⟨h, nofun⟩
    next =>
      split
      next =>
        refine ⟨h.disable, fun plan picture hsub => ?_⟩
        obtain ⟨rfl, rfl⟩ := Prod.mk.inj (Option.some.inj hsub)
        exact h.disable.accept hnew hnext (fun _ => nofun) (.inl hconsume)
          (fun hcommit => absurd rfl hcommit) fun _ _ _ => hfresh
      next =>
        refine ⟨h, fun plan picture hsub => ?_⟩
        obtain ⟨rfl, rfl⟩ := Prod.mk.inj (Option.some.inj hsub)
        refine h.accept hnew hnext ?_ (.inl hconsume) henabled fun _ _ _ => hfresh
        rintro slot - (hkeeps | hsaves)
        · rw [hreset] at hkeeps
          cases hkeeps
        · rw [hpreserve] at hsaves
          cases hsaves
  | false =>
    have hnot : r.owed = false := by
      by_contra howes
      exact Bool.false_ne_true (howed (Bool.not_eq_false _ ▸ howes))
    unfold Encoder.setProperties
    rw [if_neg Bool.false_ne_true]
    split
    next slot href =>
      obtain ⟨hpend, rfl, hcommit, hreset, hpreserve, hconsume⟩ := plan_forced href
      obtain ⟨hvalid, -⟩ := h.pending hpend
      split
      next =>
        refine ⟨h, fun plan picture hsub => ?_⟩
        obtain ⟨rfl, rfl⟩ := Prod.mk.inj (Option.some.inj hsub)
        refine h.accept hnew hnext ?_ (.inl hconsume) (fun hmark => absurd hcommit hmark) ?_
        · rintro slot - (hkeeps | hsaves)
          · rw [hreset] at hkeeps
            cases hkeeps
          · rw [hpreserve] at hsaves
            exact if_pos (Option.some.inj hsaves).symm
        · intro _ _ _ other hother
          obtain ⟨chain, hheld⟩ := h.holds _ hvalid
          simp only [Driver.chain, hheld] at hother
          rcases List.mem_cons.mp hother with rfl | hbefore
          · exact h.clean_new hnew
          · exact h.clean hnot _ hvalid _ chain hheld other hbefore
      next =>
        split
        next => exact ⟨h.disable, nofun⟩
        next =>
          refine ⟨h.disable, fun plan picture hsub => ?_⟩
          obtain ⟨rfl, rfl⟩ := Prod.mk.inj (Option.some.inj hsub)
          exact h.disable.accept hnew hnext (fun _ => nofun) (.inr rfl)
            (fun hmark => absurd hcommit hmark) fun _ _ _ => hfresh
    next href =>
      obtain ⟨hpend, hreset, henabled⟩ := h.plan_plain href
      split
      next =>
        refine ⟨h.disable, fun plan picture hsub => ?_⟩
        obtain ⟨rfl, rfl⟩ := Prod.mk.inj (Option.some.inj hsub)
        exact h.disable.accept hnew hnext (fun _ => nofun) (.inr rfl)
          (fun hmark => absurd rfl hmark) fun _ hoff => by cases hoff
      next =>
        refine ⟨h, fun plan picture hsub => ?_⟩
        obtain ⟨rfl, rfl⟩ := Prod.mk.inj (Option.some.inj hsub)
        refine h.accept hnew hnext (fun _ _ _ => rfl) (.inr hpend) henabled ?_
        intro _ hon hpos other hother
        rcases List.mem_cons.mp hother with rfl | hbefore
        · exact h.clean_new hnew
        · exact h.live_clean hnot hpend hon hpos other hbefore

lemma attempt {frameIndex : Nat} {forceIdr : Bool}
    (hnext : r.nextIndex ≤ frameIndex) (howed : r.owed = true → forceIdr = true)
    (outcome : Outcome) : Sound (r.attempt frameIndex forceIdr outcome) := by
  have hnew : r.submitted ≤ frameIndex := Nat.le_trans h.next hnext
  have hnumbered := h.advance (Nat.le_succ_of_le hnew)
  obtain ⟨hprep, hacc⟩ := @goesAhead _ hnumbered frameIndex forceIdr outcome.ltrProperty
    outcome.idrProperties hnew (Nat.le_refl _) howed
  unfold Run.attempt
  dsimp only
  split
  next => exact hnumbered
  next =>
    split
    next => exact hprep
    next plan picture hsub =>
      split
      next => exact hprep
      next => exact hacc plan picture hsub

lemma step {input : Input} (hadmits : admits r input) : Sound (LossRecovery.step r input) := by
  cases input with
  | attempt frameIndex forceIdr outcome => exact h.attempt hadmits.1 hadmits.2 outcome
  | request firstFrame lastFrame => exact h.request firstFrame lastFrame

end

end Sound

/-! ## Recoveries -/

variable {r : Run}

/-- An attempt under a pending recovery at which the driver refuses the
long-term reference property, and that is not accepted then. -/
def losesRecovery (r : Run) : Input → Bool
  | .attempt _ forceIdr outcome =>
    r.encoder.rfiPending && outcome.planned && (!forceIdr || outcome.idrProperties) &&
      !outcome.ltrProperty && !(outcome.idrProperties && outcome.accepted)
  | .request _ _ => false

lemma setProperties_pending (h : Sound r) {frameIndex : Nat}
    {forceIdr ltrProperty idrProperties : Bool} (hpend : r.encoder.rfiPending = true)
    (hset : ltrProperty = true ∨ (forceIdr = true ∧ idrProperties = false)) :
    (r.encoder.setProperties (r.encoder.plan frameIndex forceIdr) forceIdr ltrProperty
      idrProperties).1.rfiPending = true := by
  unfold Encoder.setProperties
  rcases hset with rfl | ⟨rfl, rfl⟩
  · split
    next => split <;> simpa using hpend
    next hforce =>
      rw [Bool.not_eq_true] at hforce
      subst hforce
      split
      next => exact hpend
      next href =>
        rw [(h.plan_plain href).1] at hpend
        cases hpend
  · exact hpend

lemma waiting_pending_step (h : Sound r) (hwaiting : r.waiting = true → r.encoder.rfiPending = true)
    {input : Input} (hkeeps : losesRecovery r input = false) :
    (step r input).waiting = true → (step r input).encoder.rfiPending = true := by
  cases input with
  | request firstFrame lastFrame =>
    unfold step Run.request Encoder.invalidateRefFrames
    dsimp only
    split
    next => simpa using hwaiting
    next =>
      split
      next => simpa using hwaiting
      next => exact fun _ => rfl
  | attempt frameIndex forceIdr outcome =>
    have hset : r.encoder.rfiPending = true → outcome.planned = true →
        ¬(outcome.idrProperties = true ∧ outcome.accepted = true) →
        outcome.ltrProperty = true ∨ (forceIdr = true ∧ outcome.idrProperties = false) := by
      intro hpend hplanned hlost
      have hlost' : (outcome.idrProperties && outcome.accepted) = false := by simpa using hlost
      simp only [losesRecovery, hpend, hplanned, hlost', Bool.true_and, Bool.not_false,
        Bool.and_true] at hkeeps
      cases hltr : outcome.ltrProperty with
      | true => exact .inl rfl
      | false => exact .inr (by simpa [hltr] using hkeeps)
    unfold step Run.attempt
    dsimp only
    split
    next => exact hwaiting
    next hplanned =>
      rw [Bool.not_eq_true', Bool.not_eq_false] at hplanned
      split
      next hrefused =>
        intro hstill
        have hpend := hwaiting hstill
        refine setProperties_pending h hpend (hset hpend hplanned fun hboth => ?_)
        -- nothing is submitted only when the IDR properties are refused
        have hsome : (r.encoder.setProperties (r.encoder.plan frameIndex forceIdr) forceIdr
            outcome.ltrProperty outcome.idrProperties).2 ≠ none := by
          unfold Encoder.setProperties
          rw [hboth.1]
          split
          next => split <;> [contradiction; (split <;> nofun)]
          next =>
            split
            next => split <;> [nofun; (split <;> [contradiction; nofun])]
            next => split <;> nofun
        exact hsome hrefused
      next =>
        split
        next hdropped =>
          intro hstill
          have hpend := hwaiting hstill
          refine setProperties_pending h hpend (hset hpend hplanned fun hboth => ?_)
          rw [hboth.2] at hdropped
          cases hdropped
        next => nofun

/-- What loss recovery guarantees in a state: the slots are those of the driver,
a forced reference is clean of every loss reported before, and the frame after
a request is such a one or an IDR. -/
structure Recovers (r : Run) : Prop where
  slots : ∀ slot, r.encoder.ltrSlotsValid slot = true →
    ∃ chain, r.driver.stored slot = some (r.encoder.ltrSlotFrameIndex slot, chain)
  forced : ∀ frameIndex forceIdr outcome, admits r (.attempt frameIndex forceIdr outcome) →
    ∀ slot, r.acceptedPicture frameIndex forceIdr outcome = some (.forced slot) →
      ∃ held chain, r.driver.stored slot = some (held, chain) ∧ held ∈ chain ∧
        ∀ frame ∈ chain, Clean r.requests frame
  answered : r.waiting = true →
    ∀ frameIndex forceIdr outcome, admits r (.attempt frameIndex forceIdr outcome) →
      ∀ picture, r.acceptedPicture frameIndex forceIdr outcome = some picture →
        picture = .idr ∨ ∃ slot, picture = .forced slot

lemma picture_cases {e : Encoder} {plan : Plan} {forceIdr ltrProperty idrProperties : Bool}
    {picture : Picture}
    (h : (e.setProperties plan forceIdr ltrProperty idrProperties).2.map (·.2) = some picture) :
    picture = .idr ∨ (forceIdr = false ∧ ∃ slot, picture = .forced slot ∧
      plan.referenceSlot = some slot) ∨
      (forceIdr = false ∧ picture = .plain ∧ plan.referenceSlot = none) := by
  obtain ⟨submitted, hsub, rfl⟩ := Option.map_eq_some_iff.mp h
  unfold Encoder.setProperties at hsub
  cases forceIdr with
  | true =>
    rw [if_pos rfl] at hsub
    split at hsub
    next => cases hsub
    next =>
      left
      split at hsub <;> rw [← Option.some.inj hsub]
  | false =>
    rw [if_neg Bool.false_ne_true] at hsub
    split at hsub
    next slot href =>
      split at hsub
      next =>
        rw [← Option.some.inj hsub]
        exact .inr (.inl ⟨rfl, slot, rfl, href⟩)
      next =>
        split at hsub
        next => cases hsub
        next =>
          rw [← Option.some.inj hsub]
          exact .inl rfl
    next href =>
      refine .inr (.inr ⟨rfl, ?_, href⟩)
      split at hsub <;> rw [← Option.some.inj hsub]

lemma acceptedPicture_cases {frameIndex : Nat} {forceIdr : Bool} {outcome : Outcome}
    {picture : Picture} (h : r.acceptedPicture frameIndex forceIdr outcome = some picture) :
    picture = .idr ∨ (forceIdr = false ∧ ∃ slot, picture = .forced slot ∧
      (r.encoder.plan frameIndex forceIdr).referenceSlot = some slot) ∨
      (forceIdr = false ∧ picture = .plain ∧
        (r.encoder.plan frameIndex forceIdr).referenceSlot = none) := by
  unfold Run.acceptedPicture at h
  split at h
  next => exact picture_cases h
  next => cases h

lemma Sound.forced_clean (h : Sound r) {frameIndex : Nat} {forceIdr : Bool} {outcome : Outcome}
    (hadmits : admits r (.attempt frameIndex forceIdr outcome)) {slot : Nat}
    (hpicture : r.acceptedPicture frameIndex forceIdr outcome = some (.forced slot)) :
    ∃ held chain, r.driver.stored slot = some (held, chain) ∧ held ∈ chain ∧
      ∀ frame ∈ chain, Clean r.requests frame := by
  rcases acceptedPicture_cases hpicture with hidr | ⟨rfl, other, hsame, href⟩ | ⟨-, hplain, -⟩
  · cases hidr
  · cases hsame
    obtain ⟨hpend, rfl, -⟩ := plan_forced href
    obtain ⟨hvalid, -⟩ := h.pending hpend
    obtain ⟨chain, hheld⟩ := h.holds _ hvalid
    have hnot : r.owed = false := by
      by_contra howes
      exact Bool.false_ne_true (hadmits.2 (Bool.not_eq_false _ ▸ howes))
    exact ⟨_, chain, hheld, (h.stored_lt _ _ _ hheld).2.1, h.clean hnot _ hvalid _ chain hheld⟩
  · cases hplain

/-- The invariant of runs that lose no recovery. -/
structure Kept (r : Run) : Prop where
  sound : Sound r
  pending : r.waiting = true → r.encoder.rfiPending = true

/-- Loss recovery holds along every run in which no attempt under a pending
recovery meets a refused property and is dropped. -/
theorem loss_recovery_of_kept {rfiEnabled : Bool} {maxLtrFrames : Nat}
    (hreachable : (stream rfiEnabled maxLtrFrames).ReachableUnder
      (fun r input => losesRecovery r input = false) r) : Recovers r := by
  have hkept : Kept r := by
    refine hreachable.invariant ⟨Sound.initial rfiEnabled maxLtrFrames, nofun⟩ ?_
    intro state input hstate hadmits hkeeps
    exact ⟨hstate.sound.step hadmits, waiting_pending_step hstate.sound hstate.pending hkeeps⟩
  obtain ⟨h, hwaiting⟩ := hkept
  refine
    { slots := h.holds
      forced := fun _ _ _ hadmits _ hpicture => h.forced_clean hadmits hpicture
      answered := fun hstill frameIndex forceIdr outcome _ picture hpicture => ?_ }
  rcases acceptedPicture_cases hpicture with hidr | ⟨-, slot, hslot, -⟩ | ⟨rfl, -, href⟩
  · exact .inl hidr
  · exact .inr ⟨slot, hslot⟩
  · rw [(h.plan_plain href).1] at hwaiting
    exact absurd (hwaiting hstill) Bool.false_ne_true

/-! ## Two runs -/

def accepted : Outcome where
  planned := true
  ltrProperty := true
  idrProperties := true
  accepted := true

def refusedAndDropped : Outcome where
  planned := true
  ltrProperty := false
  idrProperties := true
  accepted := false

def lossReported : List Input :=
  [.attempt 1 true accepted, .attempt 2 false accepted, .request 2 2]

theorem loss_recovery_of_kept_reported :
    Recovers ((stream true 2).run (stream true 2).init lossReported) := by
  have hfollows : (stream true 2).Follows (fun r input => losesRecovery r input = false)
      (stream true 2).init lossReported :=
    ⟨⟨by decide, nofun⟩, rfl, ⟨by decide, nofun⟩, rfl, trivial, rfl, trivial⟩
  exact loss_recovery_of_kept (.of_follows .refl hfollows)

/-- The recovery is dropped with the submission, and the next frame is a plain one. -/
theorem dropped_recovery_unanswered : ¬ ∀ (rfiEnabled : Bool) (maxLtrFrames : Nat) (r : Run),
      (stream rfiEnabled maxLtrFrames).Reachable r → r.waiting = true →
        ∀ frameIndex forceIdr outcome, admits r (.attempt frameIndex forceIdr outcome) →
          ∀ picture, r.acceptedPicture frameIndex forceIdr outcome = some picture →
            picture = .idr ∨ ∃ slot, picture = .forced slot := by
  intro hclaim
  have hfollows : (stream true 2).Follows (fun _ _ => True) (stream true 2).init
      (lossReported ++ [.attempt 3 false refusedAndDropped]) :=
    ⟨⟨by decide, nofun⟩, trivial, ⟨by decide, nofun⟩, trivial, trivial, trivial,
      ⟨by decide, nofun⟩, trivial, trivial⟩
  have hplain := hclaim true 2 _ (.of_follows .refl hfollows) rfl 4 false accepted
    ⟨by decide, nofun⟩ .plain rfl
  rcases hplain with hidr | ⟨slot, hslot⟩
  · cases hidr
  · cases hslot

end Vibeshine.Amf.LossRecovery
