import Vibeshine.Amf.InputSurfaces

/-! # Ownership of the input surfaces

In every state of a session the counters and the states of the ring agree with
the wrappers the runtime holds, whatever returns the attempts took and whenever
the callbacks came.
-/

namespace Vibeshine.Amf.InputSurfaces

open Library Function Pool

def Activity.holds : Activity → Nat → Prop
  | .holding slot _, index => slot = index
  | _, _ => False

def inFlightSlots (ring : Nat → Slot) : Finset Nat :=
  (Finset.range maximumInputSurfaceCount).filter fun index => (ring index).state = .inFlight

section Counting

variable {ring : Nat → Slot} {index : Nat} {slot : Slot}

lemma card_keep (h : slot.state = .inFlight ↔ (ring index).state = .inFlight) :
    (inFlightSlots (Function.update ring index slot)).card = (inFlightSlots ring).card := by
  congr 1
  ext other
  simp only [inFlightSlots, Finset.mem_filter, Finset.mem_range]
  by_cases hsame : other = index
  · rw [hsame, update_self, h]
  · rw [update_of_ne hsame]

lemma card_enter (hindex : index < maximumInputSurfaceCount)
    (hbefore : (ring index).state ≠ .inFlight) (hafter : slot.state = .inFlight) :
    (inFlightSlots (Function.update ring index slot)).card = (inFlightSlots ring).card + 1 := by
  have hnew : index ∉ inFlightSlots ring := fun hmem => hbefore (Finset.mem_filter.mp hmem).2
  rw [← Finset.card_insert_of_notMem hnew]
  congr 1
  ext other
  simp only [inFlightSlots, Finset.mem_filter, Finset.mem_range, Finset.mem_insert]
  by_cases hsame : other = index
  · simp [hsame, hindex, hafter]
  · simp [hsame]

lemma card_leave (hindex : index < maximumInputSurfaceCount)
    (hbefore : (ring index).state = .inFlight) (hafter : slot.state ≠ .inFlight) :
    (inFlightSlots (Function.update ring index slot)).card = (inFlightSlots ring).card - 1 := by
  have hmem : index ∈ inFlightSlots ring :=
    Finset.mem_filter.mpr ⟨Finset.mem_range.mpr hindex, hbefore⟩
  rw [← Finset.card_erase_of_mem hmem]
  congr 1
  ext other
  simp only [inFlightSlots, Finset.mem_filter, Finset.mem_range, Finset.mem_erase]
  by_cases hsame : other = index
  · simp [hsame, hafter]
  · simp [hsame]

end Counting

/-! ## The invariant -/

structure Pool.Sound (start : Nat → Nat) (p : Pool) : Prop where
  slots : ∀ index, (p.ring index).Sound (start index)
  active_pos : 0 < p.activeInputSurfaceCount
  active_le : p.activeInputSurfaceCount ≤ maximumInputSurfaceCount
  textured : ∀ index < p.activeInputSurfaceCount, (p.ring index).texture = true
  active : ∀ index, (p.ring index).state ≠ .free → index < p.activeInputSurfaceCount
  counted : p.inputSurfacesInFlight = (inFlightSlots p.ring).card
  reserved : ∀ index, (p.ring index).state = .reserved ↔
    p.preparedInputSurfaceSlot = some index ∨ p.activity.holds index
  /-- Nothing is prepared while a slot is searched or held. -/
  alone : p.preparedInputSurfaceSlot ≠ none → p.activity = .outside ∨ p.activity = .capacityWaiting

namespace Pool.Sound

variable {start : Nat → Nat} {p : Pool}

lemma change {p' : Pool} {index : Nat} {slot : Slot} (h : p.Sound start)
    (hring : p'.ring = Function.update p.ring index slot)
    (hcount : p'.activeInputSurfaceCount = p.activeInputSurfaceCount)
    (hslot : slot.Sound (start index)) (htexture : slot.texture = (p.ring index).texture)
    (hactive : slot.state ≠ .free → index < p.activeInputSurfaceCount)
    (hcounted : p'.inputSurfacesInFlight = (inFlightSlots (Function.update p.ring index slot)).card)
    (hres : slot.state = .reserved ↔
      p'.preparedInputSurfaceSlot = some index ∨ p'.activity.holds index)
    (hothers : ∀ other, other ≠ index →
      ((p'.preparedInputSurfaceSlot = some other ∨ p'.activity.holds other) ↔
        (p.preparedInputSurfaceSlot = some other ∨ p.activity.holds other)))
    (halone : p'.preparedInputSurfaceSlot ≠ none →
      p'.activity = .outside ∨ p'.activity = .capacityWaiting) : p'.Sound start where
  slots := by
    intro other
    rw [hring]
    by_cases hsame : other = index
    · rw [hsame, update_self]
      exact hslot
    · rw [update_of_ne hsame]
      exact h.slots other
  active_pos := hcount ▸ h.active_pos
  active_le := hcount ▸ h.active_le
  textured := by
    intro other hother
    rw [hcount] at hother
    rw [hring]
    by_cases hsame : other = index
    · rw [hsame, update_self, htexture]
      exact h.textured index (hsame ▸ hother)
    · rw [update_of_ne hsame]
      exact h.textured other hother
  active := by
    intro other hstate
    rw [hcount]
    rw [hring] at hstate
    by_cases hsame : other = index
    · rw [hsame, update_self] at hstate
      exact hsame ▸ hactive hstate
    · rw [update_of_ne hsame] at hstate
      exact h.active other hstate
  counted := by rw [hcounted, hring]
  reserved := by
    intro other
    rw [hring]
    by_cases hsame : other = index
    · rw [hsame, update_self]
      exact hres
    · rw [update_of_ne hsame, hothers other hsame]
      exact h.reserved other
  alone := halone

lemma goTo (h : p.Sound start) {activity : Activity}
    (hbefore : ∀ index, ¬p.activity.holds index) (hafter : ∀ index, ¬activity.holds index)
    (halone : p.preparedInputSurfaceSlot ≠ none →
      activity = .outside ∨ activity = .capacityWaiting) : (p.goTo activity).Sound start where
  slots := h.slots
  active_pos := h.active_pos
  active_le := h.active_le
  textured := h.textured
  active := h.active
  counted := h.counted
  reserved := by
    intro index
    refine (h.reserved index).trans ?_
    simp only [Pool.goTo, hbefore index, hafter index]
  alone := halone

lemma frame (h : p.Sound start) (next : Nat) (lastRendered : Option Nat) (outputFatal : Bool) :
    Sound start { p with
      nextInputSurfaceSlot := next
      lastRenderedInputSurfaceSlot := lastRendered
      outputFatal := outputFatal } where
  slots := h.slots
  active_pos := h.active_pos
  active_le := h.active_le
  textured := h.textured
  active := h.active
  counted := h.counted
  reserved := h.reserved
  alone := h.alone

lemma initial (start : Nat → Nat) (lookaheadDepth : Int) :
    (session start lookaheadDepth).init.Sound start where
  slots := fun index =>
    ⟨le_rfl, nofun, nofun, nofun, nofun, nofun⟩
  active_pos := lt_of_lt_of_le (by decide) (Nat.le_max_left _ _)
  active_le := Nat.max_le.mpr ⟨by decide, Nat.min_le_right _ _⟩
  textured := fun index hindex => decide_eq_true hindex
  active := fun index hstate => absurd rfl hstate
  counted := by
    have hnone : inFlightSlots (session start lookaheadDepth).init.ring = ∅ :=
      Finset.filter_eq_empty_iff.mpr fun _ _ => nofun
    rw [hnone]
    rfl
  reserved := fun index => iff_of_false nofun (by rintro (h | h) <;> cases h)
  alone := fun hprep => absurd rfl hprep

/-! ### Searches -/

def Offers (p : Pool) (found : Option Nat) : Prop :=
  ∀ index, found = some index → index < p.activeInputSurfaceCount ∧ (p.ring index).state = .free

lemma offers_findFreeSlot (h : p.Sound start) : Offers p p.findFreeSlot := by
  intro index hfound
  unfold Pool.findFreeSlot at hfound
  have hfree : p.isFree index = true := List.find?_some hfound
  obtain ⟨offset, -, hindex⟩ := List.mem_map.mp (List.mem_of_find?_eq_some hfound)
  exact ⟨hindex ▸ Nat.mod_lt _ h.active_pos, of_decide_eq_true hfree⟩

lemma offers_selectRepeatSurface (h : p.Sound start) (source : Nat) :
    Offers p (p.selectRepeatSurface source) := by
  intro index hfound
  have hbounded : max 1 (min p.activeInputSurfaceCount maximumInputSurfaceCount) =
      p.activeInputSurfaceCount := by
    rw [Nat.min_eq_left h.active_le, Nat.max_eq_right h.active_pos]
  unfold Pool.selectRepeatSurface at hfound
  dsimp only at hfound
  rw [hbounded] at hfound
  split at hfound
  next => cases hfound
  next hsource =>
    split at hfound
    next hfree =>
      cases hfound
      exact ⟨not_le.mp hsource, of_decide_eq_true hfree⟩
    next =>
      have hfree : p.isFree index = true := List.find?_some hfound
      obtain ⟨offset, -, hindex⟩ := List.mem_map.mp (List.mem_of_find?_eq_some hfound)
      exact ⟨hindex ▸ Nat.mod_lt _ h.active_pos, of_decide_eq_true hfree⟩

lemma offers_none : Offers p none := nofun

lemma expand (h : p.Sound start) {found : Option Nat} (hfound : Offers p found) (created : Bool) :
    (p.expand found created).1.Sound start ∧
      Offers (p.expand found created).1 (p.expand found created).2 := by
  unfold Pool.expand
  split
  next => exact ⟨h, hfound⟩
  next =>
    split
    next hgrows =>
      have hfree : (p.ring p.activeInputSurfaceCount).state = .free := by
        by_contra hbusy
        exact absurd (h.active _ hbusy) (lt_irrefl _)
      have hroom : p.activeInputSurfaceCount < maximumInputSurfaceCount := by
        simp only [Pool.mayExpand, Bool.and_eq_true, decide_eq_true_eq] at hgrows
        exact hgrows.2.2
      refine ⟨?_, ?_⟩
      · refine
          { slots := fun other => ?_
            active_pos := Nat.succ_pos _
            active_le := hroom
            textured := fun other hother => ?_
            active := fun other hstate => ?_
            counted := h.counted.trans (card_keep (by rfl)).symm
            reserved := fun other => ?_
            alone := h.alone }
        · dsimp only [Pool.set]
          by_cases hsame : other = p.activeInputSurfaceCount
          · rw [hsame, update_self]
            have hslot := h.slots p.activeInputSurfaceCount
            exact ⟨hslot.started, hslot.wrapped, hslot.delivered, hslot.notified, hslot.flying,
              hslot.settled⟩
          · rw [update_of_ne hsame]
            exact h.slots other
        · dsimp only [Pool.set]
          by_cases hsame : other = p.activeInputSurfaceCount
          · rw [hsame, update_self]
          · rw [update_of_ne hsame]
            exact h.textured other (Nat.lt_of_le_of_ne (Nat.lt_succ_iff.mp hother) hsame)
        · dsimp only [Pool.set] at hstate
          by_cases hsame : other = p.activeInputSurfaceCount
          · rw [hsame]
            exact Nat.lt_succ_self _
          · rw [update_of_ne hsame] at hstate
            exact Nat.lt_succ_of_lt (h.active other hstate)
        · dsimp only [Pool.set]
          rw [← h.reserved other]
          by_cases hsame : other = p.activeInputSurfaceCount
          · rw [hsame, update_self]
          · rw [update_of_ne hsame]
      · rintro index hindex
        cases hindex
        refine ⟨Nat.lt_succ_self _, ?_⟩
        simp [Pool.set, hfree]
    next => exact ⟨h, offers_none⟩

lemma expand_fields (found : Option Nat) (created : Bool) :
    (p.expand found created).1.preparedInputSurfaceSlot = p.preparedInputSurfaceSlot ∧
      (p.expand found created).1.activity = p.activity ∧
      p.activeInputSurfaceCount ≤ (p.expand found created).1.activeInputSurfaceCount := by
  unfold Pool.expand
  split
  next => exact ⟨rfl, rfl, le_rfl⟩
  next =>
    split
    next => exact ⟨rfl, rfl, Nat.le_succ _⟩
    next => exact ⟨rfl, rfl, le_rfl⟩

/-! ### Reservations -/

section

variable (h : p.Sound start)

include h

lemma not_reserved (hidle : ∀ index, ¬p.activity.holds index)
    (hprep : p.preparedInputSurfaceSlot = none) (index : Nat) :
    (p.ring index).state ≠ .reserved := by
  intro hstate
  rcases (h.reserved index).mp hstate with hsome | hholds
  · rw [hprep] at hsome
    cases hsome
  · exact hidle index hholds

lemma finishAcquire {found : Option Nat} (hfound : Offers p found)
    (hidle : ∀ index, ¬p.activity.holds index) (hprep : p.preparedInputSurfaceSlot = none) :
    (p.finishAcquire found).Sound start := by
  unfold Pool.finishAcquire
  split
  next index =>
    obtain ⟨hindex, hfree⟩ := hfound index rfl
    split
    next => exact h.goTo hidle (fun _ => id) fun _ => .inl rfl
    next =>
      have hslot := (h.slots index).reserve hfree
      refine @change start p _ index { (p.ring index).reserve with frameIndex := 0 } h ?_ rfl
        ⟨hslot.started, hslot.wrapped, hslot.delivered, hslot.notified, hslot.flying,
          hslot.settled⟩ rfl (fun _ => hindex) ?_ (iff_of_true rfl (.inl rfl)) ?_
        fun _ => .inl rfl
      · simp [Pool.reserve, Pool.set]
      · refine h.counted.trans (card_keep ?_).symm
        rw [hfree]
        exact iff_of_false nofun nofun
      · intro other hother
        refine iff_of_false ?_ ?_
        · rintro (hsome | hholds)
          · exact hother (Option.some.inj hsome).symm
          · exact hholds
        · rintro (hsome | hholds)
          · rw [hprep] at hsome
            cases hsome
          · exact hidle other hholds
  next => exact h.goTo hidle (fun _ => id) fun _ => .inl rfl

lemma finishRepeat {found : Option Nat} (hfound : Offers p found)
    (hidle : ∀ index, ¬p.activity.holds index) (hprep : p.preparedInputSurfaceSlot = none)
    (outputReady : Bool) : (p.finishRepeat found outputReady).Sound start := by
  unfold Pool.finishRepeat
  split
  next => exact h.goTo hidle (fun _ => id) fun _ => .inl rfl
  next =>
    split
    next => exact h.goTo hidle (fun _ => id) fun _ => .inl rfl
    next index =>
      obtain ⟨hindex, hfree⟩ := hfound index rfl
      refine h.change rfl rfl ((h.slots index).reserve hfree) rfl (fun _ => hindex) ?_
        (iff_of_true rfl (.inr rfl)) ?_ fun hsome => absurd hprep hsome
      · refine h.counted.trans (card_keep ?_).symm
        rw [hfree]
        exact iff_of_false nofun nofun
      · intro other hother
        refine or_congr Iff.rfl (iff_of_false ?_ (hidle other))
        exact fun heq => hother heq.symm

lemma acquire (hact : p.activity = .outside) : p.acquire.Sound start := by
  have hidle : ∀ index, ¬p.activity.holds index := by
    rw [hact]
    exact fun _ => id
  unfold Pool.acquire
  split
  next => exact h
  next hprep =>
    split
    next index hfound =>
      exact h.finishAcquire (hfound ▸ h.offers_findFreeSlot) hidle hprep
    next =>
      refine h.goTo hidle ?_ fun hsome => absurd hprep hsome
      split <;> exact fun _ => id

lemma prepared_none (houtside : p.activity ≠ .outside)
    (hwaiting : p.activity ≠ .capacityWaiting) : p.preparedInputSurfaceSlot = none := by
  by_contra hsome
  exact (h.alone hsome).elim houtside hwaiting

lemma acquireExpanded (hact : p.activity = .acquireExpanding)
    (created : Bool) : (p.acquireExpanded created).Sound start := by
  have hnone : p.preparedInputSurfaceSlot = none :=
    h.prepared_none (by rw [hact]; nofun) (by rw [hact]; nofun)
  obtain ⟨hexpanded, hoffers⟩ := h.expand h.offers_findFreeSlot created
  obtain ⟨hprep, hsame, -⟩ := @expand_fields p p.findFreeSlot created
  have hidle : ∀ index, ¬(p.expand p.findFreeSlot created).1.activity.holds index := by
    rw [hsame, hact]
    exact fun _ => id
  unfold Pool.acquireExpanded
  dsimp only
  split
  next index hfound =>
    exact hexpanded.finishAcquire (hfound ▸ hoffers) hidle (hprep.trans hnone)
  next =>
    exact hexpanded.goTo hidle (fun _ => id) fun hsome => absurd (hprep.trans hnone) hsome

lemma acquireResumed (hact : p.activity = .acquireWaiting) : p.acquireResumed.Sound start :=
  h.finishAcquire h.offers_findFreeSlot (by rw [hact]; exact fun _ => id)
    (h.prepared_none (by rw [hact]; nofun) (by rw [hact]; nofun))

/-! ### Returns -/

lemma giveBack {p' : Pool} {index : Nat}
    (howner : p.preparedInputSurfaceSlot = some index ∨ p.activity.holds index)
    (honly : ∀ other, other ≠ index →
      ¬(p.preparedInputSurfaceSlot = some other ∨ p.activity.holds other))
    (hring : p'.ring = Function.update p.ring index (p.ring index).giveBack)
    (hcount : p'.activeInputSurfaceCount = p.activeInputSurfaceCount)
    (hflight : p'.inputSurfacesInFlight = p.inputSurfacesInFlight)
    (hprep : p'.preparedInputSurfaceSlot = none)
    (hidle : ∀ other, ¬p'.activity.holds other) : p'.Sound start := by
  have hstate : (p.ring index).state = .reserved := (h.reserved index).mpr howner
  have hback : (p.ring index).giveBack =
      { p.ring index with state := .free, frameIndex := 0 } := if_pos hstate
  have hnone : ∀ other, ¬(p'.preparedInputSurfaceSlot = some other ∨ p'.activity.holds other) := by
    rintro other (hsome | hholds)
    · rw [hprep] at hsome
      cases hsome
    · exact hidle other hholds
  refine h.change hring hcount (h.slots index).giveBack (by rw [hback]) ?_ ?_ ?_ ?_
    fun hsome => absurd hprep hsome
  · intro hbusy
    rw [hback] at hbusy
    exact absurd rfl hbusy
  · refine (hflight.trans h.counted).trans (card_keep ?_).symm
    rw [hback, hstate]
    exact iff_of_false nofun nofun
  · rw [hback]
    exact iff_of_false nofun (hnone index)
  · exact fun other hother => iff_of_false (hnone other) (honly other hother)

end

lemma only_prepared {index : Nat} (hprep : p.preparedInputSurfaceSlot = some index)
    (hidle : ∀ other, ¬p.activity.holds other) (other : Nat) (hother : other ≠ index) :
    ¬(p.preparedInputSurfaceSlot = some other ∨ p.activity.holds other) := by
  rintro (hsome | hholds)
  · exact hother (Option.some.inj (hsome.symm.trans hprep))
  · exact hidle other hholds

lemma cancel (h : p.Sound start) (hact : p.activity = .outside) : p.cancel.Sound start := by
  have hidle : ∀ index, ¬p.activity.holds index := by
    rw [hact]
    exact fun _ => id
  unfold Pool.cancel
  split
  next => exact h
  next index hprep =>
    exact h.giveBack (.inl hprep) (only_prepared hprep hidle) rfl rfl rfl rfl hidle

lemma releaseUnsubmittedCapture (h : p.Sound start) (hidle : ∀ index, ¬p.activity.holds index) :
    p.releaseUnsubmittedCapture.Sound start := by
  unfold Pool.releaseUnsubmittedCapture
  split
  next => exact h
  next index hprep =>
    exact h.giveBack (.inl hprep) (only_prepared hprep hidle) rfl rfl rfl rfl hidle

lemma releaseUnsubmittedCapture_fields :
    p.releaseUnsubmittedCapture.preparedInputSurfaceSlot = none ∧
      p.releaseUnsubmittedCapture.activity = p.activity := by
  unfold Pool.releaseUnsubmittedCapture
  split
  next hnone => exact ⟨hnone, rfl⟩
  next => exact ⟨rfl, rfl⟩

section

variable (h : p.Sound start)

include h

lemma abandon {index : Nat} {wrapped : Bool}
    (hact : p.activity = .holding index wrapped) : (p.abandon index).Sound start := by
  have hnone : p.preparedInputSurfaceSlot = none :=
    h.prepared_none (by rw [hact]; nofun) (by rw [hact]; nofun)
  refine h.giveBack (.inr (by rw [hact]; rfl)) ?_ rfl rfl rfl hnone fun _ => id
  rintro other hother (hsome | hholds)
  · rw [hnone] at hsome
    cases hsome
  · rw [hact] at hholds
    exact hother hholds.symm

/-! ### Attempts -/

lemma takeInput (hidle : ∀ index, ¬p.activity.holds index) : p.takeInput.Sound start := by
  unfold Pool.takeInput
  split
  next index hprep =>
    refine
      { slots := h.slots
        active_pos := h.active_pos
        active_le := h.active_le
        textured := h.textured
        active := h.active
        counted := h.counted
        reserved := fun other => (h.reserved other).trans ?_
        alone := fun hsome => absurd rfl hsome }
    -- the reservation passes from the prepared slot to the attempt
    rw [hprep]
    constructor
    · rintro (hsome | hholds)
      · exact .inr (Option.some.inj hsome)
      · exact absurd hholds (hidle other)
    · rintro (hsome | hholds)
      · cases hsome
      · exact .inl (congrArg some hholds)
  next hprep =>
    split
    next => exact h.goTo hidle (fun _ => id) fun _ => .inl rfl
    next source _ =>
      split
      next index hfound =>
        exact h.finishRepeat (hfound ▸ h.offers_selectRepeatSurface source) hidle hprep false
      next =>
        refine h.goTo hidle ?_ fun hsome => absurd hprep hsome
        split <;> exact fun _ => id

lemma beginEncode (hact : p.activity = .outside)
    (encoderPresent outputReady capacityAvailable : Bool) :
    (p.beginEncode encoderPresent outputReady capacityAvailable).Sound start := by
  have hidle : ∀ index, ¬p.activity.holds index := by
    rw [hact]
    exact fun _ => id
  unfold Pool.beginEncode
  split
  next => exact h
  next =>
    split
    next => exact h.releaseUnsubmittedCapture hidle
    next =>
      split
      next => exact h.goTo hidle (fun _ => id) fun _ => .inr rfl
      next => exact h.takeInput hidle

lemma capacityResumed (hact : p.activity = .capacityWaiting)
    (outputReady capacityAvailable : Bool) :
    (p.capacityResumed outputReady capacityAvailable).Sound start := by
  have hidle : ∀ index, ¬p.activity.holds index := by
    rw [hact]
    exact fun _ => id
  unfold Pool.capacityResumed
  split
  next =>
    refine (h.releaseUnsubmittedCapture hidle).goTo ?_ (fun _ => id) fun _ => .inl rfl
    rw [releaseUnsubmittedCapture_fields.2]
    exact hidle
  next => exact h.takeInput hidle

lemma repeatExpanded {source : Nat}
    (hact : p.activity = .repeatExpanding source) (created outputReady : Bool) :
    (p.repeatExpanded source created outputReady).Sound start := by
  have hnone : p.preparedInputSurfaceSlot = none :=
    h.prepared_none (by rw [hact]; nofun) (by rw [hact]; nofun)
  obtain ⟨hexpanded, hoffers⟩ := h.expand (h.offers_selectRepeatSurface source) created
  obtain ⟨hprep, hsame, -⟩ := @expand_fields p (p.selectRepeatSurface source) created
  have hidle : ∀ index,
      ¬(p.expand (p.selectRepeatSurface source) created).1.activity.holds index := by
    rw [hsame, hact]
    exact fun _ => id
  unfold Pool.repeatExpanded
  dsimp only
  split
  next index hfound =>
    exact hexpanded.finishRepeat (hfound ▸ hoffers) hidle (hprep.trans hnone) outputReady
  next =>
    exact hexpanded.goTo hidle (fun _ => id) fun hsome => absurd (hprep.trans hnone) hsome

lemma repeatResumed {source : Nat}
    (hact : p.activity = .repeatWaiting source) (outputReady : Bool) :
    (p.repeatResumed source outputReady).Sound start :=
  h.finishRepeat (h.offers_selectRepeatSurface source) (by rw [hact]; exact fun _ => id)
    (h.prepared_none (by rw [hact]; nofun) (by rw [hact]; nofun)) outputReady

end

section Held

variable {index : Nat} {wrapped : Bool}

section

variable (h : p.Sound start)

include h

section

variable (hact : p.activity = .holding index wrapped)

include hact

lemma held_reserved : (p.ring index).state = .reserved :=
  (h.reserved index).mpr (.inr (by rw [hact]; rfl))

lemma wrap : (p.wrap index).Sound start := by
  have hstate := h.held_reserved hact
  have hnone : p.preparedInputSurfaceSlot = none :=
    h.prepared_none (by rw [hact]; nofun) (by rw [hact]; nofun)
  refine h.change rfl rfl (h.slots index).wrap rfl (h.active index) ?_
    (iff_of_true hstate (.inr rfl)) ?_ fun hsome => absurd hnone hsome
  · exact h.counted.trans (card_keep (by rfl)).symm
  · intro other _
    rw [hact]
    exact Iff.rfl

lemma accept (frameIndex : Nat) : (p.accept index frameIndex).Sound start := by
  have hstate := h.held_reserved hact
  have hindex : index < p.activeInputSurfaceCount := h.active index (by rw [hstate]; nofun)
  have hring : index < maximumInputSurfaceCount := lt_of_lt_of_le hindex h.active_le
  have hnone : p.preparedInputSurfaceSlot = none :=
    h.prepared_none (by rw [hact]; nofun) (by rw [hact]; nofun)
  have hfree : ((p.ring index).onInputAccepted frameIndex).1.state ≠ .reserved := by
    unfold Slot.onInputAccepted
    dsimp only
    split <;> nofun
  have hrest : ∀ other, ¬((p.accept index frameIndex).preparedInputSurfaceSlot = some other ∨
      (p.accept index frameIndex).activity.holds other) := by
    rintro other (hsome | hholds)
    · rw [show (p.accept index frameIndex).preparedInputSurfaceSlot = none from hnone] at hsome
      cases hsome
    · exact hholds
  refine h.change rfl rfl ((h.slots index).accept hstate frameIndex) ?_ (fun _ => hindex) ?_
    (iff_of_false hfree (hrest index)) ?_ fun hsome => absurd hnone hsome
  · unfold Slot.onInputAccepted
    dsimp only
    split <;> rfl
  · unfold Pool.accept Slot.onInputAccepted
    dsimp only
    split
    next =>
      rw [card_enter hring (by rw [hstate]; nofun) rfl, ← h.counted]
      rfl
    next =>
      rw [card_keep (by rw [hstate]; exact iff_of_false nofun nofun), ← h.counted]
      rfl
  · intro other hother
    refine iff_of_false (hrest other) ?_
    rintro (hsome | hholds)
    · rw [hnone] at hsome
      cases hsome
    · rw [hact] at hholds
      exact hother hholds.symm

end

end

end Held

/-! ### Callbacks -/

section

variable (h : p.Sound start)

include h

lemma release_stale {index generation : Nat}
    (hle : generation ≤ (p.ring index).generation) (hne : generation ≠ (p.ring index).generation) :
    (p.onInputSurfaceReleased index generation).Sound start := by
  unfold Pool.onInputSurfaceReleased
  dsimp only
  rw [if_pos (by simp [hne])]
  refine h.change rfl rfl ((h.slots index).release_stale hle hne) rfl (h.active index) ?_
    (h.reserved index) (fun _ _ => Iff.rfl) h.alone
  exact h.counted.trans (card_keep (by rfl)).symm

lemma release_current {index : Nat} :
    (p.onInputSurfaceReleased index (p.ring index).generation).Sound start := by
  have hslot := (h.slots index).release_current
  unfold Pool.onInputSurfaceReleased
  dsimp only
  split
  next hout =>
    have hfree : (p.ring index).state = .free := by
      by_contra hbusy
      have hlt := lt_of_lt_of_le (h.active index hbusy) h.active_le
      simp [not_le.mpr hlt] at hout
    have hgrounded : (p.ring index).state ≠ .inFlight := by rw [hfree]; nofun
    unfold Slot.onSurfaceReleased at hslot
    dsimp only at hslot
    rw [if_pos hgrounded] at hslot
    refine h.change rfl rfl ⟨hslot.started, hslot.wrapped, hslot.delivered, ?_, ?_, hslot.settled⟩
      rfl (h.active index) ?_ (h.reserved index) (fun _ _ => Iff.rfl) h.alone
    · exact fun hres => by rw [hfree] at hres; cases hres
    · exact fun hflying => absurd hflying hgrounded
    · exact h.counted.trans (card_keep (by rfl)).symm
  next hin =>
    have hindex : index < maximumInputSurfaceCount := by
      simp only [ne_eq, not_true_eq_false, decide_false, Bool.or_false, decide_eq_true_eq] at hin
      exact not_le.mp hin
    by_cases hflying : (p.ring index).state = .inFlight
    · have hresult : Slot.onSurfaceReleased
          { p.ring index with released := (p.ring index).generation :: (p.ring index).released } =
          ({ p.ring index with
              released := (p.ring index).generation :: (p.ring index).released
              releaseNotified := true, state := .free, frameIndex := 0 }, true) :=
        if_neg (not_not.mpr hflying)
      rw [hresult] at hslot ⊢
      refine h.change rfl rfl hslot rfl (fun hbusy => absurd rfl hbusy) ?_ ?_
        (fun _ _ => Iff.rfl) h.alone
      · rw [card_leave hindex hflying (by nofun), ← h.counted]
        rfl
      · refine iff_of_false nofun fun howner => ?_
        rw [(h.reserved index).mpr howner] at hflying
        cases hflying
    · have hresult : Slot.onSurfaceReleased
          { p.ring index with released := (p.ring index).generation :: (p.ring index).released } =
          ({ p.ring index with
              released := (p.ring index).generation :: (p.ring index).released
              releaseNotified := true }, false) :=
        if_pos hflying
      rw [hresult] at hslot ⊢
      refine h.change rfl rfl hslot rfl (h.active index) ?_ (h.reserved index)
        (fun _ _ => Iff.rfl) h.alone
      exact h.counted.trans (card_keep (by rfl)).symm

lemma release {index generation : Nat} (hle : generation ≤ (p.ring index).generation) :
    (p.onInputSurfaceReleased index generation).Sound start := by
  by_cases heq : generation = (p.ring index).generation
  · rw [heq]
    exact h.release_current
  · exact h.release_stale hle heq

/-! ### Runs -/

lemma step {input : Input} (hadmits : admits start p input) :
    (InputSurfaces.step p input).Sound start := by
  cases input with
  | acquire => exact h.acquire hadmits
  | acquireExpanded created => exact h.acquireExpanded hadmits created
  | acquireResumed => exact h.acquireResumed hadmits
  | cancel => exact h.cancel hadmits
  | beginEncode encoderPresent outputReady capacityAvailable =>
    exact h.beginEncode hadmits encoderPresent outputReady capacityAvailable
  | capacityResumed outputReady capacityAvailable =>
    exact h.capacityResumed hadmits outputReady capacityAvailable
  | repeatExpanded created outputReady =>
    obtain ⟨source, hact⟩ := hadmits
    simp only [InputSurfaces.step, hact]
    exact h.repeatExpanded hact created outputReady
  | repeatResumed outputReady =>
    obtain ⟨source, hact⟩ := hadmits
    simp only [InputSurfaces.step, hact]
    exact h.repeatResumed hact outputReady
  | wrap =>
    obtain ⟨index, hact⟩ := hadmits
    simp only [InputSurfaces.step, hact]
    exact h.wrap hact
  | abandon =>
    obtain ⟨index, wrapped, hact⟩ := hadmits
    simp only [InputSurfaces.step, hact]
    exact h.abandon hact
  | accept frameIndex =>
    obtain ⟨index, hact⟩ := hadmits
    simp only [InputSurfaces.step, hact]
    exact h.accept hact frameIndex
  | release index generation =>
    refine h.release ?_
    rcases hadmits with hmem | hle
    · exact (h.slots index).wrapped generation hmem
    · exact le_trans hle (h.slots index).started
  | pumpFails => exact h.frame p.nextInputSurfaceSlot p.lastRenderedInputSurfaceSlot true

end

lemma of_reachable {lookaheadDepth : Int} (h : (session start lookaheadDepth).Reachable p) :
    p.Sound start :=
  h.invariant (initial start lookaheadDepth) fun _ _ hsound hadmits => hsound.step hadmits

end Pool.Sound

/-! ## The ring only grows -/

namespace Pool

variable {p : Pool}

lemma activeInputSurfaceCount_finishAcquire (found : Option Nat) :
    (p.finishAcquire found).activeInputSurfaceCount = p.activeInputSurfaceCount := by
  unfold finishAcquire
  split
  next => split <;> rfl
  next => rfl

lemma activeInputSurfaceCount_finishRepeat (found : Option Nat) (outputReady : Bool) :
    (p.finishRepeat found outputReady).activeInputSurfaceCount = p.activeInputSurfaceCount := by
  unfold finishRepeat
  split
  next => rfl
  next => split <;> rfl

lemma activeInputSurfaceCount_releaseUnsubmittedCapture :
    p.releaseUnsubmittedCapture.activeInputSurfaceCount = p.activeInputSurfaceCount := by
  unfold releaseUnsubmittedCapture
  split <;> rfl

lemma activeInputSurfaceCount_takeInput :
    p.takeInput.activeInputSurfaceCount = p.activeInputSurfaceCount := by
  unfold takeInput
  split
  next => rfl
  next =>
    split
    next => rfl
    next =>
      split
      next => exact activeInputSurfaceCount_finishRepeat _ _
      next => rfl

end Pool

lemma activeInputSurfaceCount_step (p : Pool) (input : Input) :
    p.activeInputSurfaceCount ≤ (step p input).activeInputSurfaceCount := by
  cases input with
  | acquire =>
    refine le_of_eq (Eq.symm ?_)
    unfold step Pool.acquire
    dsimp only
    split
    next => rfl
    next =>
      split
      next => exact activeInputSurfaceCount_finishAcquire _
      next => rfl
  | acquireExpanded created =>
    have hgrown := (@Pool.Sound.expand_fields p p.findFreeSlot created).2.2
    unfold step Pool.acquireExpanded
    dsimp only
    split
    next => rwa [activeInputSurfaceCount_finishAcquire]
    next => exact hgrown
  | acquireResumed =>
    exact le_of_eq (activeInputSurfaceCount_finishAcquire _).symm
  | cancel =>
    unfold step Pool.cancel
    dsimp only
    split <;> exact le_rfl
  | beginEncode encoderPresent outputReady capacityAvailable =>
    refine le_of_eq (Eq.symm ?_)
    unfold step Pool.beginEncode
    dsimp only
    split
    next => rfl
    next =>
      split
      next => exact activeInputSurfaceCount_releaseUnsubmittedCapture
      next =>
        split
        next => rfl
        next => exact activeInputSurfaceCount_takeInput
  | capacityResumed outputReady capacityAvailable =>
    refine le_of_eq (Eq.symm ?_)
    unfold step Pool.capacityResumed
    dsimp only
    split
    next => exact activeInputSurfaceCount_releaseUnsubmittedCapture
    next => exact activeInputSurfaceCount_takeInput
  | repeatExpanded created outputReady =>
    unfold step
    dsimp only
    split
    next source _ =>
      have hgrown := (@Pool.Sound.expand_fields p (p.selectRepeatSurface source) created).2.2
      unfold Pool.repeatExpanded
      dsimp only
      split
      next => rwa [activeInputSurfaceCount_finishRepeat]
      next => exact hgrown
    next => exact le_rfl
  | repeatResumed outputReady =>
    unfold step
    dsimp only
    split
    next => exact le_of_eq (activeInputSurfaceCount_finishRepeat _ _).symm
    next => exact le_rfl
  | wrap | abandon | accept _ =>
    unfold step
    dsimp only
    split <;> exact le_rfl
  | release index generation =>
    unfold step Pool.onInputSurfaceReleased
    dsimp only
    split <;> exact le_rfl
  | pumpFails => exact le_rfl

/-! ## The end of an attempt -/

/-- The steps of `encode_frame`. -/
def Input.ofAttempt : Input → Bool
  | .beginEncode _ _ _ | .capacityResumed _ _ | .repeatExpanded _ _ | .repeatResumed _ | .wrap
  | .abandon | .accept _ => true
  | _ => false

def Input.refused (p : Pool) : Input → Bool
  | .beginEncode encoderPresent _ _ => !encoderPresent || p.outputFatal
  | _ => false

lemma prepared_takeInput (p : Pool) : p.takeInput.preparedInputSurfaceSlot = none := by
  unfold Pool.takeInput
  split
  next => rfl
  next hnone =>
    split
    next => exact hnone
    next =>
      split
      next =>
        unfold Pool.finishRepeat
        split
        next => exact hnone
        next => split <;> exact hnone
      next => exact hnone

lemma prepared_finishRepeat (p : Pool) (found : Option Nat) (outputReady : Bool) :
    (p.finishRepeat found outputReady).preparedInputSurfaceSlot = p.preparedInputSurfaceSlot := by
  unfold Pool.finishRepeat
  split
  next => rfl
  next => split <;> rfl

lemma prepared_attempt {start : Nat → Nat} {p : Pool} (h : p.Sound start) {input : Input}
    (hadmits : admits start p input) (hattempt : input.ofAttempt = true)
    (hrefused : input.refused p = false) (hends : (step p input).activity = .outside) :
    (step p input).preparedInputSurfaceSlot = none := by
  have hheld : (∃ index wrapped, p.activity = .holding index wrapped) →
      p.preparedInputSurfaceSlot = none := by
    rintro ⟨index, wrapped, hact⟩
    exact h.prepared_none (by rw [hact]; nofun) (by rw [hact]; nofun)
  cases input with
  | beginEncode encoderPresent outputReady capacityAvailable =>
    unfold step Pool.beginEncode at hends ⊢
    dsimp only at hends ⊢
    rw [if_neg (by rw [← Input.refused, hrefused]; nofun)] at hends ⊢
    split
    next => exact Pool.Sound.releaseUnsubmittedCapture_fields.1
    next houtput =>
      rw [if_neg houtput] at hends
      split
      next hwaits =>
        rw [if_pos hwaits] at hends
        cases hends
      next => exact prepared_takeInput p
  | capacityResumed outputReady capacityAvailable =>
    unfold step Pool.capacityResumed
    dsimp only
    split
    next => exact Pool.Sound.releaseUnsubmittedCapture_fields.1
    next => exact prepared_takeInput p
  | repeatExpanded created outputReady =>
    obtain ⟨source, hact⟩ := hadmits
    have hnone : p.preparedInputSurfaceSlot = none :=
      h.prepared_none (by rw [hact]; nofun) (by rw [hact]; nofun)
    have hkept := (@Pool.Sound.expand_fields p (p.selectRepeatSurface source) created).1
    simp only [step, hact]
    unfold Pool.repeatExpanded
    dsimp only
    split
    next => rw [prepared_finishRepeat, hkept, hnone]
    next => exact hkept.trans hnone
  | repeatResumed outputReady =>
    obtain ⟨source, hact⟩ := hadmits
    simp only [step, hact]
    exact (prepared_finishRepeat p _ outputReady).trans
      (h.prepared_none (by rw [hact]; nofun) (by rw [hact]; nofun))
  | wrap =>
    obtain ⟨index, hact⟩ := hadmits
    simp only [step, hact]
    exact hheld ⟨index, false, hact⟩
  | abandon =>
    obtain ⟨index, wrapped, hact⟩ := hadmits
    simp only [step, hact]
    exact hheld ⟨index, wrapped, hact⟩
  | accept frameIndex =>
    obtain ⟨index, hact⟩ := hadmits
    simp only [step, hact]
    exact hheld ⟨index, true, hact⟩
  | _ => cases hattempt

/-! ## The guarantee -/

/-- What holds of the ring in one state, and of the steps from there. -/
structure Owned (start : Nat → Nat) (p : Pool) : Prop where
  counted : p.inputSurfacesInFlight = (inFlightSlots p.ring).card
  prepared : p.activity = .outside → ∀ index,
    ((p.ring index).state = .reserved ↔ p.preparedInputSurfaceSlot = some index)
  settled : ∀ index, (p.ring index).state = .reserved →
    ∀ generation ∈ (p.ring index).accepted, generation ∈ (p.ring index).released
  stale : ∀ index generation, generation < (p.ring index).generation →
    step p (.release index generation) =
      p.set index { p.ring index with released := generation :: (p.ring index).released }
  /-- A slot without an owner is free once its accepted wrapper is released. -/
  free : ∀ index, (p.ring index).state = .free ↔
    ((p.ring index).generation ∈ (p.ring index).accepted →
        (p.ring index).generation ∈ (p.ring index).released) ∧
      p.preparedInputSurfaceSlot ≠ some index ∧ ¬p.activity.holds index
  /-- An attempt that ends leaves no reservation; a refused one leaves all as it is. -/
  ended : ∀ input, admits start p input → input.ofAttempt = true →
    (input.refused p = true → step p input = p) ∧
      (input.refused p = false → (step p input).activity = .outside →
        ∀ index, ((step p input).ring index).state ≠ .reserved)
  bounded : p.activeInputSurfaceCount ≤ maximumInputSurfaceCount
  grows : ∀ input, p.activeInputSurfaceCount ≤ (step p input).activeInputSurfaceCount
  textured : ∀ index < p.activeInputSurfaceCount, (p.ring index).texture = true

lemma Pool.Sound.free_iff {start : Nat → Nat} {p : Pool} (h : p.Sound start) (index : Nat) :
    (p.ring index).state = .free ↔ ((p.ring index).generation ∈ (p.ring index).accepted →
        (p.ring index).generation ∈ (p.ring index).released) ∧
      p.preparedInputSurfaceSlot ≠ some index ∧ ¬p.activity.holds index := by
  constructor
  · intro hfree
    have hnot : ¬(p.preparedInputSurfaceSlot = some index ∨ p.activity.holds index) := by
      rw [← h.reserved index, hfree]
      nofun
    refine ⟨fun hacc => ?_, fun hprep => hnot (.inl hprep),
      fun hholds => hnot (.inr hholds)⟩
    refine ((h.slots index).settled _ hacc).resolve_right fun hflying => ?_
    rw [hfree] at hflying
    cases hflying.2
  · rintro ⟨hrel, hprep, hholds⟩
    cases hstate : (p.ring index).state with
    | free => rfl
    | reserved => exact absurd ((h.reserved index).mp hstate) (not_or.mpr ⟨hprep, hholds⟩)
    | inFlight =>
      obtain ⟨hacc, hnot⟩ := (h.slots index).flying hstate
      exact absurd (hrel hacc) hnot

theorem input_surfaces_owned {start : Nat → Nat} {lookaheadDepth : Int} {p : Pool}
    (hreachable : (session start lookaheadDepth).Reachable p) : Owned start p := by
  have h := Pool.Sound.of_reachable hreachable
  refine
    { counted := h.counted
      prepared := fun houtside index => ?_
      settled := fun index hres => (h.slots index).released_of_reserved hres
      stale := fun index generation hlt => ?_
      free := h.free_iff
      ended := fun input hadmits hattempt => ⟨fun hrefused => ?_, fun hrefused hends index => ?_⟩
      bounded := h.active_le
      grows := activeInputSurfaceCount_step p
      textured := h.textured }
  · refine (h.reserved index).trans ?_
    rw [houtside]
    exact or_iff_left id
  · unfold step Pool.onInputSurfaceReleased
    exact if_pos (by simp [Nat.ne_of_lt hlt])
  · cases input with
    | beginEncode encoderPresent outputReady capacityAvailable => exact if_pos hrefused
    | _ => cases hrefused
  · refine (h.step hadmits).not_reserved ?_ (prepared_attempt h hadmits hattempt hrefused hends)
      index
    rw [hends]
    exact fun _ => id

/-- A new image, accepted and released from inside the submission, then a repeat of it that is
dropped. -/
def repeatedRun : List Input :=
  [.acquire, .beginEncode true false true, .wrap, .release 0 1, .accept 7,
    .beginEncode true false true, .abandon]

theorem input_surfaces_owned_repeated :
    Owned (fun _ => 0) ((session (fun _ => 0) 1).run (session (fun _ => 0) 1).init repeatedRun) := by
  have hfollows : (session (fun _ => 0) 1).Follows (fun _ _ => True)
      (session (fun _ => 0) 1).init repeatedRun :=
    ⟨rfl, trivial, rfl, trivial, ⟨0, rfl⟩, trivial, .inl List.mem_cons_self, trivial, ⟨0, rfl⟩,
      trivial, rfl, trivial, ⟨0, false, rfl⟩, trivial, trivial⟩
  exact input_surfaces_owned (.of_follows .refl hfollows)

/-- An attempt after the pump has failed keeps the reservation of the prepared slot. -/
theorem refused_attempt_keeps_reservation :
    ¬ ∀ (start : Nat → Nat) (lookaheadDepth : Int) (p : Pool),
      (session start lookaheadDepth).Reachable p →
        ∀ input, admits start p input → input.ofAttempt = true →
          (step p input).activity = .outside →
            ∀ index, ((step p input).ring index).state ≠ .reserved := by
  intro hclaim
  have hfollows : (session (fun _ => 0) 0).Follows (fun _ _ => True)
      (session (fun _ => 0) 0).init [.acquire, .pumpFails] :=
    ⟨rfl, trivial, trivial, trivial, trivial⟩
  exact hclaim _ _ _ (.of_follows .refl hfollows) (.beginEncode true false true) rfl rfl rfl 0 rfl

end Vibeshine.Amf.InputSurfaces
