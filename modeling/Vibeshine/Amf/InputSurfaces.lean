import Vibeshine.Library.System
import Mathlib.Data.Finset.Card

/-! # Input surfaces of the native encoder

The ring of textures between the converter and the AMD runtime. One thread
acquires, cancels and encodes; the release callbacks and the output pump come
in between wherever that thread does not hold the state mutex. What the runtime
answers, and what the pump has completed, is read from the input.
-/

namespace Vibeshine.Amf.InputSurfaces

open Library

def minimumInputSurfaceCount : Nat := 4

def inputSurfaceTransitCount : Nat := 2

def maximumAmfInputQueueSize : Nat := 32

def maximumInputSurfaceCount : Nat := maximumAmfInputQueueSize + inputSurfaceTransitCount

def inputSurfaceCountForLookahead (lookaheadDepth : Int) : Nat :=
  max minimumInputSurfaceCount
    (min (minimumInputSurfaceCount + lookaheadDepth.toNat * 2) maximumInputSurfaceCount)

inductive SurfaceState where
  | free
  | reserved
  | inFlight
  deriving DecidableEq

/-- A slot of the ring. The last three fields record the generations of its
wrappers that were made, accepted by the runtime and released by it; the code
has no such record. -/
structure Slot where
  frameIndex : Nat := 0
  state : SurfaceState := .free
  releaseNotified : Bool := false
  texture : Bool := false
  generation : Nat := 0
  wrappers : List Nat := []
  accepted : List Nat := []
  released : List Nat := []
  deriving DecidableEq

namespace Slot

variable (slot : Slot)

def reserve : Slot :=
  { slot with
    state := .reserved, releaseNotified := false, generation := slot.generation + 1 }

def giveBack : Slot :=
  if slot.state = .reserved then { slot with state := .free, frameIndex := 0 } else slot

def wrap : Slot := { slot with wrappers := slot.generation :: slot.wrappers }

/-- `on_surface_released`: whether the slot became reusable. -/
def onSurfaceReleased : Slot × Bool :=
  let notified := { slot with releaseNotified := true }
  if slot.state ≠ .inFlight then (notified, false)
  else ({ notified with state := .free, frameIndex := 0 }, true)

/-- `on_input_accepted`: whether the runtime has already released the surface. -/
def onInputAccepted (frameIndex : Nat) : Slot × Bool :=
  let submitted := { slot with
    state := .inFlight, frameIndex := frameIndex, accepted := slot.generation :: slot.accepted }
  if !slot.releaseNotified then (submitted, false)
  else ({ submitted with state := .free, frameIndex := 0 }, true)

end Slot

inductive Activity where
  | outside
  /-- making a texture, for a new image -/
  | acquireExpanding
  | acquireWaiting
  /-- waiting for the latency budget, at the start of an attempt -/
  | capacityWaiting
  /-- making a texture, to repeat the image of a slot -/
  | repeatExpanding (source : Nat)
  | repeatWaiting (source : Nat)
  /-- with a reservation, before and after the wrapper is made -/
  | holding (slot : Nat) (wrapped : Bool)
  deriving DecidableEq

structure Pool where
  ring : Nat → Slot
  activeInputSurfaceCount : Nat
  nextInputSurfaceSlot : Nat := 0
  preparedInputSurfaceSlot : Option Nat := none
  lastRenderedInputSurfaceSlot : Option Nat := none
  inputSurfacesInFlight : Nat := 0
  outputFatal : Bool := false
  activity : Activity := .outside

variable (p : Pool)

namespace Pool

variable (index : Nat)

def set (slot : Slot) : Pool :=
  { p with ring := Function.update p.ring index slot }

def goTo (activity : Activity) : Pool := { p with activity := activity }

def onInputSurfaceReleased (index generation : Nat) : Pool :=
  let slot := { p.ring index with released := generation :: (p.ring index).released }
  if maximumInputSurfaceCount ≤ index || generation ≠ slot.generation then p.set index slot
  else
    let result := slot.onSurfaceReleased
    { p.set index result.1 with
      inputSurfacesInFlight :=
        if result.2 then p.inputSurfacesInFlight - 1 else p.inputSurfacesInFlight }

def isFree : Bool := (p.ring index).state = .free

def findFreeSlot : Option Nat :=
  ((List.range p.activeInputSurfaceCount).map fun offset =>
    (p.nextInputSurfaceSlot + offset) % p.activeInputSurfaceCount).find? p.isFree

variable (source : Nat)

def selectRepeatSurface : Option Nat :=
  let bounded := max 1 (min p.activeInputSurfaceCount maximumInputSurfaceCount)
  if bounded ≤ source then none
  else if p.isFree source then some source
  else ((List.range bounded).map fun offset =>
    (p.nextInputSurfaceSlot + offset) % bounded).find? p.isFree

def mayExpand : Bool :=
  !p.outputFatal && p.activeInputSurfaceCount < maximumInputSurfaceCount

variable (found : Option Nat)

/-- The search after a texture was made outside the lock: a slot that became
free meanwhile goes first, else the ring grows by the new texture. -/
def expand (created : Bool) : Pool × Option Nat :=
  match found with
  | some slot => (p, some slot)
  | none =>
    if created && p.mayExpand then
      let index := p.activeInputSurfaceCount
      ({ p.set index { p.ring index with texture := true } with
          activeInputSurfaceCount := index + 1 }, some index)
    else (p, none)

def reserve (p : Pool) (index : Nat) : Pool :=
  { p.set index (p.ring index).reserve with
    nextInputSurfaceSlot := (index + 1) % p.activeInputSurfaceCount }

def releaseUnsubmittedCapture : Pool :=
  match p.preparedInputSurfaceSlot with
  | none => p
  | some index =>
    { p.set index (p.ring index).giveBack with
      preparedInputSurfaceSlot := none
      lastRenderedInputSurfaceSlot :=
        if (p.ring index).state = .reserved then some index
        else p.lastRenderedInputSurfaceSlot }

def finishAcquire : Pool :=
  match found with
  | some index =>
    if p.outputFatal then p.goTo .outside
    else
      let reserved := p.reserve index
      { reserved.set index { reserved.ring index with frameIndex := 0 } with
        preparedInputSurfaceSlot := some index, activity := .outside }
  | none => p.goTo .outside

def acquire : Pool :=
  match p.preparedInputSurfaceSlot with
  | some _ => p
  | none =>
    match p.findFreeSlot with
    | some index => p.finishAcquire (some index)
    | none => p.goTo (if p.mayExpand then .acquireExpanding else .acquireWaiting)

def acquireExpanded (created : Bool) : Pool :=
  let result := p.expand p.findFreeSlot created
  match result.2 with
  | some index => result.1.finishAcquire (some index)
  | none => result.1.goTo .acquireWaiting

def acquireResumed : Pool := p.finishAcquire p.findFreeSlot

def cancel : Pool :=
  match p.preparedInputSurfaceSlot with
  | none => p
  | some index =>
    { p.set index (p.ring index).giveBack with preparedInputSurfaceSlot := none }

def finishRepeat (outputReady : Bool) : Pool :=
  if p.outputFatal || outputReady then p.goTo .outside
  else
    match found with
    | none => p.goTo .outside
    | some index =>
      { p.reserve index with
        lastRenderedInputSurfaceSlot := some index, activity := .holding index false }

def takeInput : Pool :=
  match p.preparedInputSurfaceSlot with
  | some index =>
    { p with
      preparedInputSurfaceSlot := none, lastRenderedInputSurfaceSlot := some index
      activity := .holding index false }
  | none =>
    match p.lastRenderedInputSurfaceSlot with
    | none => p.goTo .outside
    | some source =>
      match p.selectRepeatSurface source with
      | some index => p.finishRepeat (some index) false
      | none =>
        p.goTo (if p.mayExpand then .repeatExpanding source else .repeatWaiting source)

def beginEncode (encoderPresent outputReady capacityAvailable : Bool) : Pool :=
  if !encoderPresent || p.outputFatal then p
  else if outputReady then p.releaseUnsubmittedCapture
  else if !capacityAvailable then p.goTo .capacityWaiting
  else p.takeInput

def capacityResumed (outputReady capacityAvailable : Bool) : Pool :=
  if p.outputFatal || outputReady || !capacityAvailable then
    p.releaseUnsubmittedCapture.goTo .outside
  else p.takeInput

def repeatExpanded (created outputReady : Bool) : Pool :=
  let result := p.expand (p.selectRepeatSurface source) created
  match result.2 with
  | some index => result.1.finishRepeat (some index) outputReady
  | none => result.1.goTo (.repeatWaiting source)

def repeatResumed (outputReady : Bool) : Pool :=
  p.finishRepeat (p.selectRepeatSurface source) outputReady

def wrap (p : Pool) (index : Nat) : Pool :=
  { p.set index (p.ring index).wrap with activity := .holding index true }

def abandon : Pool :=
  { p.set index (p.ring index).giveBack with activity := .outside }

/-- The commit after `SubmitInput` took the surface. -/
def accept (index frameIndex : Nat) : Pool :=
  let result := (p.ring index).onInputAccepted frameIndex
  { p.set index result.1 with
    activity := .outside
    inputSurfacesInFlight :=
      if result.2 then p.inputSurfacesInFlight else p.inputSurfacesInFlight + 1 }

end Pool

/-! ## Runs -/

inductive Input where
  | acquire
  | acquireExpanded (created : Bool)
  | acquireResumed
  | cancel
  | beginEncode (encoderPresent outputReady capacityAvailable : Bool)
  | capacityResumed (outputReady capacityAvailable : Bool)
  | repeatExpanded (created outputReady : Bool)
  | repeatResumed (outputReady : Bool)
  | wrap
  | abandon
  | accept (frameIndex : Nat)
  /-- `OnSurfaceDataRelease` of a wrapper of the slot -/
  | release (index generation : Nat)
  /-- the output pump fails -/
  | pumpFails
  deriving DecidableEq

section

variable (start : Nat → Nat) (lookaheadDepth : Int)

def admits (p : Pool) : Input → Prop
  | .acquire | .cancel | .beginEncode _ _ _ => p.activity = .outside
  | .acquireExpanded _ => p.activity = .acquireExpanding
  | .acquireResumed => p.activity = .acquireWaiting
  | .capacityResumed _ _ => p.activity = .capacityWaiting
  | .repeatExpanded _ _ => ∃ source, p.activity = .repeatExpanding source
  | .repeatResumed _ => ∃ source, p.activity = .repeatWaiting source
  | .wrap => ∃ index, p.activity = .holding index false
  | .accept _ => ∃ index, p.activity = .holding index true
  | .abandon => ∃ index wrapped, p.activity = .holding index wrapped
  | .release index generation =>
    generation ∈ (p.ring index).wrappers ∨ generation ≤ start index
  | .pumpFails => True

def step : Input → Pool
  | .acquire => p.acquire
  | .acquireExpanded created => p.acquireExpanded created
  | .acquireResumed => p.acquireResumed
  | .cancel => p.cancel
  | .beginEncode encoderPresent outputReady capacityAvailable =>
    p.beginEncode encoderPresent outputReady capacityAvailable
  | .capacityResumed outputReady capacityAvailable =>
    p.capacityResumed outputReady capacityAvailable
  | .repeatExpanded created outputReady =>
    match p.activity with
    | .repeatExpanding source => p.repeatExpanded source created outputReady
    | _ => p
  | .repeatResumed outputReady =>
    match p.activity with
    | .repeatWaiting source => p.repeatResumed source outputReady
    | _ => p
  | .wrap =>
    match p.activity with
    | .holding index _ => p.wrap index
    | _ => p
  | .abandon =>
    match p.activity with
    | .holding index _ => p.abandon index
    | _ => p
  | .accept frameIndex =>
    match p.activity with
    | .holding index _ => p.accept index frameIndex
    | _ => p
  | .release index generation => p.onInputSurfaceReleased index generation
  | .pumpFails => { p with outputFatal := true }

/-- A session begins with the textures of the lookahead and with the generations
the slots had before. -/
def session : System Pool Input where
  init :=
    { ring := fun index =>
        { texture := index < inputSurfaceCountForLookahead lookaheadDepth
          generation := start index }
      activeInputSurfaceCount := inputSurfaceCountForLookahead lookaheadDepth }
  admits := admits start
  step := step

end

/-! ## One slot -/

/-- The fields of a slot agree with the wrappers made from it. -/
structure Slot.Sound (start : Nat) (slot : Slot) : Prop where
  started : start ≤ slot.generation
  wrapped : ∀ generation ∈ slot.wrappers, generation ≤ slot.generation
  delivered : ∀ generation ∈ slot.released, generation ≤ slot.generation
  notified : slot.state = .reserved →
    (slot.releaseNotified = true ↔ slot.generation ∈ slot.released)
  flying : slot.state = .inFlight →
    slot.generation ∈ slot.accepted ∧ slot.generation ∉ slot.released
  settled : ∀ generation ∈ slot.accepted, generation ∈ slot.released ∨
    (generation = slot.generation ∧ slot.state = .inFlight)

namespace Slot.Sound

variable {start : Nat} {slot : Slot}

section

variable (h : slot.Sound start)

include h

lemma reserve (hfree : slot.state = .free) : slot.reserve.Sound start where
  started := Nat.le_succ_of_le h.started
  wrapped := fun generation hmem => Nat.le_succ_of_le (h.wrapped generation hmem)
  delivered := fun generation hmem => Nat.le_succ_of_le (h.delivered generation hmem)
  notified := by
    intro _
    refine iff_of_false (by simp [Slot.reserve]) fun hmem => ?_
    exact absurd (h.delivered _ hmem) (Nat.not_succ_le_self _)
  flying := fun hstate => by cases hstate
  settled := by
    intro generation hmem
    refine (h.settled generation hmem).imp id fun hflying => ?_
    rw [hfree] at hflying
    cases hflying.2

lemma giveBack : slot.giveBack.Sound start := by
  unfold Slot.giveBack
  split
  next hres =>
    refine ⟨h.started, h.wrapped, h.delivered, nofun, nofun, fun generation hmem => ?_⟩
    refine (h.settled generation hmem).imp id fun hflying => ?_
    rw [hres] at hflying
    cases hflying.2
  next => exact h

lemma wrap : slot.wrap.Sound start where
  started := h.started
  wrapped := by
    intro generation hmem
    rcases List.mem_cons.mp hmem with rfl | hbefore
    · exact Nat.le_refl _
    · exact h.wrapped generation hbefore
  delivered := h.delivered
  notified := h.notified
  flying := h.flying
  settled := h.settled

lemma accept (hres : slot.state = .reserved) (frameIndex : Nat) :
    (slot.onInputAccepted frameIndex).1.Sound start := by
  have hnotified := h.notified hres
  have hsettled : ∀ generation ∈ slot.accepted, generation ∈ slot.released := by
    intro generation hmem
    refine (h.settled generation hmem).resolve_right fun hflying => ?_
    rw [hres] at hflying
    cases hflying.2
  unfold Slot.onInputAccepted
  dsimp only
  split
  next hsilent =>
    have hnot : slot.generation ∉ slot.released := by
      intro hmem
      rw [hnotified.mpr hmem] at hsilent
      cases hsilent
    refine ⟨h.started, h.wrapped, h.delivered, nofun,
      fun _ => ⟨List.mem_cons_self, hnot⟩, fun generation hmem => ?_⟩
    rcases List.mem_cons.mp hmem with rfl | hbefore
    · exact .inr ⟨rfl, rfl⟩
    · exact .inl (hsettled generation hbefore)
  next hrel =>
    rw [Bool.not_eq_true', Bool.not_eq_false] at hrel
    refine ⟨h.started, h.wrapped, h.delivered, nofun, nofun, fun generation hmem => .inl ?_⟩
    rcases List.mem_cons.mp hmem with rfl | hbefore
    · exact hnotified.mp hrel
    · exact hsettled generation hbefore

lemma release_stale {generation : Nat}
    (hle : generation ≤ slot.generation) (hne : generation ≠ slot.generation) :
    Slot.Sound start { slot with released := generation :: slot.released } where
  started := h.started
  wrapped := h.wrapped
  delivered := by
    intro other hmem
    rcases List.mem_cons.mp hmem with rfl | hbefore
    · exact hle
    · exact h.delivered other hbefore
  notified := by
    intro hres
    rw [h.notified hres, List.mem_cons]
    exact ⟨.inr, fun hmem => hmem.resolve_left (Ne.symm hne)⟩
  flying := by
    intro hflying
    refine ⟨(h.flying hflying).1, fun hmem => ?_⟩
    rcases List.mem_cons.mp hmem with heq | hbefore
    · exact hne heq.symm
    · exact (h.flying hflying).2 hbefore
  settled := fun other hmem => (h.settled other hmem).imp (List.mem_cons_of_mem _) id

lemma release_current : (Slot.onSurfaceReleased
      { slot with released := slot.generation :: slot.released }).1.Sound start := by
  have hdelivered : ∀ other ∈ slot.generation :: slot.released, other ≤ slot.generation := by
    intro other hmem
    rcases List.mem_cons.mp hmem with rfl | hbefore
    · exact Nat.le_refl _
    · exact h.delivered other hbefore
  have hsettled : ∀ other ∈ slot.accepted, other ∈ slot.generation :: slot.released := by
    intro other hmem
    rcases h.settled other hmem with hbefore | ⟨rfl, -⟩
    · exact List.mem_cons_of_mem _ hbefore
    · exact List.mem_cons_self
  unfold Slot.onSurfaceReleased
  dsimp only
  split
  next hgrounded =>
    exact ⟨h.started, h.wrapped, hdelivered, fun _ => iff_of_true rfl List.mem_cons_self,
      fun hstate => absurd hstate hgrounded, fun other hmem => .inl (hsettled other hmem)⟩
  next =>
    exact ⟨h.started, h.wrapped, hdelivered, nofun,
      nofun, fun other hmem => .inl (hsettled other hmem)⟩

lemma released_of_reserved (hres : slot.state = .reserved) :
    ∀ generation ∈ slot.accepted, generation ∈ slot.released := by
  intro generation hmem
  refine (h.settled generation hmem).resolve_right fun hflying => ?_
  rw [hres] at hflying
  cases hflying.2

end

end Slot.Sound

end Vibeshine.Amf.InputSurfaces
