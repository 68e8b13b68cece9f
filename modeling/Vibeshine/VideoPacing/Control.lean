import Vibeshine.Library.System
import Vibeshine.VideoPacing.Adaptive

/-! # What the controller keeps

The bounds of the rate and of a probe hold after every call. Only a tick raises the rate,
by one step, on evidence of its interval. Frames are counted once as long as the frame
counter does not come round to them.
-/

namespace Vibeshine.VideoPacing

open Library List

namespace Pacing

/-- The rate lies between the floor and the ceiling, a probe is an increase, and the quiet
period is between eight seconds and a minute. -/
structure Sound (p : Pacing) : Prop where
  floor : p.floor ≤ p.ceiling
  ceiling : p.ceiling ≤ uint64Max
  limit : ∀ limit ∈ p.limit, p.floor ≤ limit ∧ limit ≤ p.ceiling
  probe : ∀ probe ∈ p.probe, ∃ limit ∈ p.limit, p.floor ≤ probe.stable ∧ probe.stable < limit
  hold : seconds 8 ≤ p.recoveryHold ∧ p.recoveryHold ≤ seconds 60
  fence : p.awaitingFence = true → p.lastSample = none
  fresh : p.initialized = false → p.limit = none ∧ p.probe = none ∧ (p.enabled = true → p.ceiling = 0)
  disabled : p.enabled = false → p.initialized = false

variable {p : Pacing}

lemma clamp_bounds (value : Nat) {low high : Nat} (h : low ≤ high) :
    low ≤ clamp value low high ∧ clamp value low high ≤ high := by
  unfold clamp
  split_ifs <;> omega

lemma clamp_of_bounds {value low high : Nat} (hlow : low ≤ value) (hhigh : value ≤ high) :
    clamp value low high = value := by
  unfold clamp
  split_ifs <;> omega

lemma wireFloor_le (needed ceiling : Nat) : wireFloor needed ceiling ≤ ceiling :=
  min_le_right _ _

lemma Sound.create (enabled : Bool) : (create enabled).Sound where
  floor := le_rfl
  ceiling := zero_le
  limit _ h := by cases h
  probe _ h := by cases h
  hold := by
    change seconds 8 ≤ seconds 8 ∧ seconds 8 ≤ seconds 60
    decide
  fence h := by cases h
  fresh _ := ⟨rfl, rfl, fun _ => rfl⟩
  disabled _ := rfl

lemma Sound.current (h : p.Sound) : p.floor ≤ p.current ∧ p.current ≤ p.ceiling := by
  unfold Pacing.current
  cases hlimit : p.limit with
  | none => exact ⟨h.floor, le_rfl⟩
  | some limit => exact h.limit limit hlimit

lemma Sound.longerHold (h : p.Sound) : seconds 8 ≤ p.longerHold ∧ p.longerHold ≤ seconds 60 := by
  have hhold := h.hold
  unfold Pacing.longerHold
  simp only [seconds] at hhold ⊢
  omega

/-! ### Frames -/

/-- A state in which only the limit may be out of bounds, and no probe is active then. -/
structure Loose (p : Pacing) : Prop where
  floor : p.floor ≤ p.ceiling
  ceiling : p.ceiling ≤ uint64Max
  probe : ∀ probe ∈ p.probe, ∃ limit ∈ p.limit, p.floor ≤ probe.stable ∧ probe.stable < limit
  hold : seconds 8 ≤ p.recoveryHold ∧ p.recoveryHold ≤ seconds 60
  fence : p.awaitingFence = true → p.lastSample = none
  initialized : p.initialized = true
  enabled : p.enabled = true

lemma Loose.clampLimit (h : p.Loose) : p.clampLimit.Sound := by
  unfold Pacing.clampLimit
  cases hlimit : p.limit with
  | none =>
    exact ⟨h.floor, h.ceiling, by simp [hlimit], h.probe, h.hold, h.fence,
      by simp [h.initialized], by simp [h.enabled]⟩
  | some limit =>
    have hbounds := clamp_bounds limit h.floor
    dsimp only
    split
    · exact ⟨h.floor, h.ceiling, by simpa using hbounds, by simp, h.hold, h.fence,
        by simp [h.initialized], by simp [h.enabled]⟩
    · rename_i hsame
      have hsame : clamp limit p.floor p.ceiling = limit := not_not.1 hsame
      refine ⟨h.floor, h.ceiling, by simpa using hbounds, ?_, h.hold, h.fence,
        by simp [h.initialized], by simp [h.enabled]⟩
      simpa [hsame, hlimit] using h.probe

lemma retractProbe_keeps (hhold : seconds 8 ≤ p.recoveryHold ∧ p.recoveryHold ≤ seconds 60) :
    p.retractProbe.probe = none ∧ p.retractProbe.floor = p.floor ∧
      p.retractProbe.ceiling = p.ceiling ∧ p.retractProbe.initialized = p.initialized ∧
      p.retractProbe.enabled = p.enabled ∧ seconds 8 ≤ p.retractProbe.recoveryHold ∧ p.retractProbe.recoveryHold ≤ seconds 60 := by
  unfold retractProbe
  split
  · rename_i hnone
    exact ⟨hnone, rfl, rfl, rfl, rfl, hhold⟩
  · dsimp only
    split
    · refine ⟨rfl, rfl, rfl, rfl, rfl, ?_⟩
      simp only [Pacing.longerHold, seconds] at hhold ⊢
      omega
    · exact ⟨rfl, rfl, rfl, rfl, rfl, hhold⟩

lemma rebudget_loose {previousCeiling previousRate : Nat} (hfloor : p.floor ≤ p.ceiling)
    (hceiling : p.ceiling ≤ uint64Max)
    (hhold : seconds 8 ≤ p.recoveryHold ∧ p.recoveryHold ≤ seconds 60)
    (hinit : p.initialized = true) (henabled : p.enabled = true) :
    (p.rebudget previousCeiling previousRate).Loose := by
  unfold Pacing.rebudget
  extract_lets first second
  have hfirst : first.floor = p.floor ∧ first.ceiling = p.ceiling ∧
      first.initialized = p.initialized ∧ first.enabled = p.enabled ∧
      first.recoveryHold = p.recoveryHold := by
    simp only [first]
    split <;> exact ⟨rfl, rfl, rfl, rfl, rfl⟩
  have hsecond : second.floor = first.floor ∧ second.ceiling = first.ceiling ∧
      second.initialized = first.initialized ∧ second.enabled = first.enabled ∧
      second.recoveryHold = first.recoveryHold := by
    simp only [second]
    split <;> exact ⟨rfl, rfl, rfl, rfl, rfl⟩
  obtain ⟨hfloor₁, hceiling₁, hinitialized₁, henabled₁, hhold₁⟩ := hfirst
  obtain ⟨hfloor₂, hceiling₂, hinitialized₂, henabled₂, hhold₂⟩ := hsecond
  obtain ⟨hprobe, hfloor₃, hceiling₃, hinitialized₃, henabled₃, hretracted⟩ :=
    retractProbe_keeps (hhold₂.trans hhold₁ ▸ hhold)
  exact
    { floor := by
        change second.retractProbe.floor ≤ second.retractProbe.ceiling
        omega
      ceiling := by
        change second.retractProbe.ceiling ≤ uint64Max
        omega
      probe := fun probe hsome => absurd (hprobe.symm.trans hsome) (by simp)
      hold := hretracted
      fence := fun _ => rfl
      initialized := (hinitialized₃.trans (hinitialized₂.trans hinitialized₁)).trans hinit
      enabled := (henabled₃.trans (henabled₂.trans henabled₁)).trans henabled }

section

variable (h : p.Sound)

include h

lemma Sound.adjust (henabled : p.enabled = true) {q : Pacing}
    (hq : ∃ ceiling floor, q = { p with ceiling, floor }) (hfloor : q.floor ≤ q.ceiling)
    (hceiling : q.ceiling ≤ uint64Max) (encoderKbps : Nat) : (q.adjust p encoderKbps).Loose := by
  obtain ⟨ceiling, floor, rfl⟩ := hq
  unfold Pacing.adjust
  split
  · rename_i huninitialized
    obtain ⟨_, hprobe, _⟩ := h.fresh (by simpa using huninitialized)
    exact ⟨hfloor, hceiling, fun probe hsome => absurd (hprobe.symm.trans hsome) (by simp), h.hold,
      h.fence, rfl, henabled⟩
  rename_i hstarted
  have hinit : p.initialized = true := by simpa using hstarted
  clear hstarted
  split
  · exact rebudget_loose hfloor hceiling h.hold hinit henabled
  · rename_i hsame
    obtain ⟨rfl, rfl⟩ : ceiling = p.ceiling ∧ floor = p.floor := by simpa using hsame
    exact ⟨hfloor, hceiling, h.probe, h.hold, h.fence, hinit, henabled⟩

lemma Sound.rate {ceiling : Nat} (hceiling : ceiling ≤ uint64Max)
    (needed encoderKbps : Nat) : (p.rate ceiling needed encoderKbps).1.Sound := by
  have hfloor : (p.withBudget ceiling needed).floor ≤ (p.withBudget ceiling needed).ceiling :=
    wireFloor_le needed _
  have htop : (p.withBudget ceiling needed).ceiling ≤ uint64Max :=
    max_le hceiling (by decide)
  unfold Pacing.rate
  dsimp only
  split
  · rename_i hdisabled
    have hinit := h.disabled (by simpa using hdisabled)
    obtain ⟨hlimit, hprobe, _⟩ := h.fresh hinit
    exact ⟨hfloor, htop, fun limit hsome => absurd (hlimit.symm.trans hsome) (by simp),
      fun probe hsome => absurd (hprobe.symm.trans hsome) (by simp), h.hold, h.fence,
      fun _ => ⟨hlimit, hprobe, fun henabled => by simp_all [withBudget]⟩, h.disabled⟩
  · rename_i henabled
    exact (h.adjust (by simpa using henabled) ⟨_, _, rfl⟩ hfloor htop encoderKbps).clampLimit

/-! ### Reports -/

lemma Sound.onPing (now : Int) (payload : List UInt8) : (p.onPing now payload).Sound := by
  unfold Pacing.onPing
  split
  · exact ⟨h.floor, h.ceiling, h.limit, h.probe, h.hold, h.fence, h.fresh, h.disabled⟩
  · exact h

lemma Sound.onBlock (frame lastSent : UInt32) (period : Int) (block : Block) :
    (p.onBlock frame lastSent period block).Sound := by
  unfold Pacing.onBlock
  split
  · exact h
  · exact ⟨h.floor, h.ceiling, h.limit, h.probe, h.hold, h.fence, h.fresh, h.disabled⟩

end

/-! ### Ticks -/

def largestStep (p : Pacing) : Nat := max (p.current / 8) (max (p.current / 20) 1000000)

lemma probeStep_bounds (p : Pacing) : 0 < p.probeStep ∧ p.probeStep ≤ p.largestStep := by
  unfold probeStep largestStep
  split <;> omega

/-- What a tick makes of an interval: the rate is raised on evidence only, and a probe only
when none is active or the active one is confirmed. -/
structure Judged (p q : Pacing) (interval : Interval) (tick : Tick) : Prop where
  sound : q.Sound
  floor : q.floor = p.floor
  ceiling : q.ceiling = p.ceiling
  raised : p.current < q.current → interval.ping = true ∧ interval.loss = false ∧
    tick.rtt ≠ 0 ∧ interval.queued = false ∧ q.current ≤ p.current + p.largestStep
  probed : q.events.probeStarted = true → p.events.probeStarted = true ∨ p.probe = none ∨
    q.events.probeAccepted = true

section

variable (h : p.Sound)

include h

lemma Sound.sampled (hfence : p.awaitingFence = false) (interval : Interval)
    (tick : Tick) : (p.sampled interval tick).Sound :=
  ⟨h.floor, h.ceiling, h.limit, h.probe, h.hold,
    fun hwaiting => absurd (hfence.symm.trans hwaiting) (by simp), h.fresh, h.disabled⟩

section

variable (hinit : p.initialized = true)

include hinit

lemma Sound.cutBack (failedCut : Bool)
    (lastSent : Option UInt32) : (p.cutBack failedCut lastSent).Sound ∧
      (p.cutBack failedCut lastSent).current ≤ p.current := by
  have hcur := h.current
  unfold Pacing.cutBack
  cases hprobe : p.probe with
  | none =>
    have hbounds := clamp_bounds (p.current / 2) h.floor
    refine ⟨⟨h.floor, h.ceiling, by simpa using hbounds, by simp, h.hold, h.fence,
      by simp [hinit], h.disabled⟩, ?_⟩
    simp only [Pacing.current, Option.getD_some] at hcur ⊢
    unfold clamp
    split_ifs <;> omega
  | some probe =>
    obtain ⟨limit, hlimit, hstable, hless⟩ := h.probe probe hprobe
    have hlimit : p.limit = some limit := hlimit
    have hbounds := clamp_bounds probe.stable h.floor
    refine ⟨⟨h.floor, h.ceiling, by simpa using hbounds, by simp, h.longerHold, h.fence,
      by simp [hinit], h.disabled⟩, ?_⟩
    have htop := (h.limit limit hlimit).2
    simp only [Pacing.current, Option.getD_some, hlimit]
    rw [clamp_of_bounds hstable (hless.le.trans htop)]
    exact hless.le

lemma Sound.confirmCeiling (hprobe : p.probe = none) : p.confirmCeiling.Sound :=
  ⟨h.floor, h.ceiling, by simp [Pacing.confirmCeiling], by simp [Pacing.confirmCeiling, hprobe],
    h.hold, h.fence, by simp [Pacing.confirmCeiling, hinit], h.disabled⟩

lemma settleProbe_spec (clean : Int) (tick : Tick) :
    (p.settleProbe clean tick).Sound ∧ (p.settleProbe clean tick).initialized = true ∧
      (p.settleProbe clean tick).current = p.current ∧ (p.settleProbe clean tick).floor = p.floor ∧
      (p.settleProbe clean tick).ceiling = p.ceiling ∧
      (p.settleProbe clean tick).events.probeStarted = p.events.probeStarted ∧
      ((p.settleProbe clean tick).probe = p.probe ∨
        (p.settleProbe clean tick).events.probeAccepted = true) := by
  unfold settleProbe
  split
  · exact ⟨h, hinit, rfl, rfl, rfl, rfl, .inl rfl⟩
  rename_i probe hprobe
  split
  · have hsound : p.acceptProbe.Sound :=
      ⟨h.floor, h.ceiling, h.limit, by simp [acceptProbe], h.hold, h.fence,
        by simp [acceptProbe, hinit], h.disabled⟩
    split
    · rename_i hceiling
      exact ⟨hsound.confirmCeiling hinit rfl, hinit, hceiling.symm, rfl, rfl, rfl,
        .inr rfl⟩
    · exact ⟨hsound, hinit, rfl, rfl, rfl, rfl, .inr rfl⟩
  · exact ⟨h, hinit, rfl, rfl, rfl, rfl, .inl rfl⟩

lemma raise_spec (clean : Int) (tick : Tick) :
    (p.raise clean tick).Sound ∧ (p.raise clean tick).floor = p.floor ∧
      (p.raise clean tick).ceiling = p.ceiling ∧
      (p.raise clean tick).current ≤ p.current + p.largestStep ∧
      (p.raise clean tick).events.probeAccepted = p.events.probeAccepted ∧
      ((p.raise clean tick).events.probeStarted = true →
        p.events.probeStarted = true ∨ p.probe = none) := by
  have hcur := h.current
  have hstep := p.probeStep_bounds
  unfold raise
  split
  case isFalse => exact ⟨h, rfl, rfl, Nat.le_add_right _ _, rfl, .inl⟩
  rename_i hready
  split
  · rename_i hroom
    have htop := h.ceiling
    have hnext : p.current < min (saturatingAdd uint64Max p.current p.probeStep) p.ceiling ∧
        min (saturatingAdd uint64Max p.current p.probeStep) p.ceiling ≤ p.current + p.largestStep := by
      unfold saturatingAdd
      split_ifs <;> omega
    refine ⟨⟨h.floor, h.ceiling, ?_, ?_, h.hold, h.fence, by simp [startProbe, hinit],
      h.disabled⟩, rfl, rfl, hnext.2, rfl, fun _ => .inr hready.1⟩
    · intro limit hlimit
      obtain rfl := Option.some.inj (Option.mem_def.1 hlimit)
      exact ⟨hcur.1.trans hnext.1.le, min_le_right _ _⟩
    · intro probe hprobe
      obtain rfl := Option.some.inj (Option.mem_def.1 hprobe)
      exact ⟨_, rfl, hcur.1, hnext.1⟩
  · rename_i hfull
    have hsame : p.ceiling = p.current := by omega
    split
    · refine ⟨h.confirmCeiling hinit hready.1, rfl, rfl, ?_, rfl, fun _ => .inr hready.1⟩
      change p.ceiling ≤ _
      omega
    · exact ⟨h, rfl, rfl, Nat.le_add_right _ _, rfl, .inl⟩

lemma advance_judged (interval : Interval)
    (tick : Tick) : (p.advance interval tick).Sound ∧ (p.advance interval tick).floor = p.floor ∧
      (p.advance interval tick).ceiling = p.ceiling ∧
      (p.advance interval tick).current ≤ p.current + p.largestStep ∧
      ((p.advance interval tick).events.probeStarted = true → p.events.probeStarted = true ∨
        p.probe = none ∨ (p.advance interval tick).events.probeAccepted = true) := by
  unfold advance
  split
  · exact ⟨h, rfl, rfl, Nat.le_add_right _ _, .inl⟩
  dsimp only
  generalize p.cleanSince.getD (if p.startup = true then interval.previous else tick.now) = clean
  have hclean : ({ p with cleanSince := some clean } : Pacing).Sound :=
    ⟨h.floor, h.ceiling, h.limit, h.probe, h.hold, h.fence, h.fresh, h.disabled⟩
  obtain ⟨hsound, hstarted, hcur, hfloor, hceiling, hevents, hprobe⟩ :=
    settleProbe_spec hclean hinit clean tick
  obtain ⟨hraised, hfloor', hceiling', hstep, hacc, hprobed⟩ :=
    raise_spec hsound hstarted clean tick
  refine ⟨hraised, hfloor'.trans hfloor, hceiling'.trans hceiling, ?_, fun hprobing => ?_⟩
  · rw [largestStep, hcur] at hstep
    exact hstep
  · obtain hbefore | hnone := hprobed hprobing
    · exact .inl (hevents ▸ hbefore)
    · obtain hsame | hsettled := hprobe
      · exact .inr (.inl (hsame.symm.trans hnone))
      · exact .inr (.inr (hacc.trans hsettled))

lemma Sound.judge (hfence : p.awaitingFence = false) (interval : Interval) (tick : Tick) :
    Judged p (p.judge interval tick) interval tick := by
  have hsampled := h.sampled hfence interval tick
  unfold Pacing.judge
  dsimp only
  split
  · obtain ⟨hsound, hle⟩ := hsampled.cutBack hinit interval.failedCut tick.lastSent
    refine ⟨hsound, ?_, ?_, fun hraised => ?_, fun hprobed => .inl ?_⟩
    · unfold Pacing.cutBack
      dsimp only
      split <;> rfl
    · unfold Pacing.cutBack
      dsimp only
      split <;> rfl
    · exact absurd hraised (not_lt.2 hle)
    · unfold Pacing.cutBack at hprobed
      dsimp only at hprobed
      split at hprobed <;> exact hprobed
  split
  · refine ⟨⟨hsampled.floor, hsampled.ceiling, hsampled.limit, hsampled.probe, hsampled.hold,
      hsampled.fence, hsampled.fresh, hsampled.disabled⟩, rfl, rfl, fun hraised => ?_, .inl⟩
    exact absurd hraised (lt_irrefl _)
  · rename_i hclean
    obtain ⟨hsound, hfloor, hceiling, hstep, hprobed⟩ :=
      advance_judged hsampled hinit interval tick
    refine ⟨hsound, hfloor, hceiling, fun _ => ?_, hprobed⟩
    simp only [Bool.or_eq_true, Bool.not_eq_true', decide_eq_true_eq, not_or, Bool.not_eq_true,
      Bool.not_eq_false] at hclean
    exact ⟨hclean.1.1.1.2, hclean.1.1.1.1, hclean.1.2, hclean.2, hstep⟩

end

lemma Sound.fenced (lastSent : Option UInt32) : (p.fenced lastSent).Sound :=
  ⟨h.floor, h.ceiling, h.limit, h.probe, h.hold, by simp [Pacing.fenced], h.fresh, h.disabled⟩

lemma tick_cases (tick : Tick) : ((p.tick tick).1.Sound ∧ (p.tick tick).1.floor = p.floor ∧
      (p.tick tick).1.ceiling = p.ceiling ∧ (p.tick tick).1.current = p.current ∧
      (p.tick tick).1.events = p.events) ∨
    ∃ sample ∈ p.lastSample, Judged p (p.tick tick).1 (p.interval sample tick) tick := by
  unfold Pacing.tick
  split
  · exact .inl ⟨h, rfl, rfl, rfl, rfl⟩
  rename_i hactive
  have hinit : p.initialized = true := by
    by_contra huninitialized
    obtain ⟨_, _, hceiling⟩ := h.fresh (by simpa using huninitialized)
    simp_all
  cases hawaiting : p.awaitingFence with
  | true =>
    -- a new budget has dropped the last sample
    have hsample : (p.fenced tick.lastSent).lastSample = none := h.fence hawaiting
    have hsound := h.fenced tick.lastSent
    simp only [if_true, hsample]
    exact .inl ⟨⟨hsound.floor, hsound.ceiling, hsound.limit, hsound.probe, hsound.hold,
      by simp [Pacing.fenced], hsound.fresh, hsound.disabled⟩, rfl, rfl, rfl, rfl⟩
  | false =>
    simp only [Bool.false_eq_true, if_false]
    cases hsample : p.lastSample with
    | none =>
      exact .inl ⟨⟨h.floor, h.ceiling, h.limit, h.probe, h.hold, by simp [hawaiting], h.fresh,
        h.disabled⟩, rfl, rfl, rfl, rfl⟩
    | some sample =>
      dsimp only
      split
      · exact .inl ⟨h, rfl, rfl, rfl, rfl⟩
      · exact .inr ⟨sample, rfl, h.judge hinit hawaiting _ tick⟩

end

/-! ### A frame that changes nothing -/

lemma adjust_budget (q : Pacing) (encoderKbps : Nat) :
    (q.adjust p encoderKbps).floor = q.floor ∧ (q.adjust p encoderKbps).ceiling = q.ceiling := by
  unfold adjust
  split
  · exact ⟨rfl, rfl⟩
  split
  · unfold rebudget retractProbe
    dsimp only
    split_ifs <;> split <;> exact ⟨rfl, rfl⟩
  · exact ⟨rfl, rfl⟩

lemma clampLimit_budget (p : Pacing) :
    p.clampLimit.floor = p.floor ∧ p.clampLimit.ceiling = p.ceiling := by
  unfold clampLimit
  split
  · exact ⟨rfl, rfl⟩
  · dsimp only
    split <;> exact ⟨rfl, rfl⟩

lemma Sound.clampLimit_current (h : p.Sound) : p.clampLimit.current = p.current := by
  unfold Pacing.clampLimit
  cases hlimit : p.limit with
  | none => rfl
  | some limit =>
    obtain ⟨hlow, hhigh⟩ := h.limit limit hlimit
    have hsame : clamp limit p.floor p.ceiling = limit := clamp_of_bounds hlow hhigh
    simp [hsame, Pacing.current, hlimit]

lemma Sound.rate_same (h : p.Sound) {ceiling needed encoderKbps : Nat}
    (hfloor : (p.rate ceiling needed encoderKbps).1.floor = p.floor)
    (hceiling : (p.rate ceiling needed encoderKbps).1.ceiling = p.ceiling) :
    (p.rate ceiling needed encoderKbps).1.current = p.current := by
  have hsame : p.withBudget ceiling needed = p := by
    have hbudget : (p.rate ceiling needed encoderKbps).1.floor = (p.withBudget ceiling needed).floor ∧
        (p.rate ceiling needed encoderKbps).1.ceiling = (p.withBudget ceiling needed).ceiling := by
      unfold Pacing.rate
      dsimp only
      split
      · exact ⟨rfl, rfl⟩
      · obtain ⟨hfloor₁, hceiling₁⟩ := clampLimit_budget ((p.withBudget ceiling needed).adjust p encoderKbps)
        obtain ⟨hfloor₂, hceiling₂⟩ := adjust_budget (p := p) (p.withBudget ceiling needed) encoderKbps
        exact ⟨hfloor₁.trans hfloor₂, hceiling₁.trans hceiling₂⟩
    have hfloor' : wireFloor needed (max ceiling 1) = p.floor := hbudget.1.symm.trans hfloor
    have hceiling' : max ceiling 1 = p.ceiling := hbudget.2.symm.trans hceiling
    rw [withBudget, hfloor', hceiling']
  have hpos : 0 < p.ceiling := by
    rw [← hsame]
    exact Nat.one_pos.trans_le (le_max_right _ _)
  unfold Pacing.rate
  rw [hsame]
  dsimp only
  split
  · rfl
  · rename_i henabled
    have hadjust : p.adjust p encoderKbps = p := by
      unfold Pacing.adjust
      split
      · rename_i huninitialized
        obtain ⟨_, _, hzero⟩ := h.fresh (by simpa using huninitialized)
        have := hzero (by simpa using henabled)
        omega
      · simp
    rw [hadjust]
    exact h.clampLimit_current

lemma rate_probeStarted (p : Pacing) (ceiling needed encoderKbps : Nat) :
    (p.rate ceiling needed encoderKbps).1.events.probeStarted = p.events.probeStarted := by
  have hclamp : ∀ q : Pacing, q.clampLimit.events = q.events := by
    intro q
    unfold clampLimit
    split
    · rfl
    · dsimp only
      split <;> rfl
  have hadjust : ∀ q : Pacing, (q.adjust p encoderKbps).events.probeStarted = q.events.probeStarted := by
    intro q
    unfold adjust
    split
    · rfl
    split
    · unfold rebudget retractProbe
      dsimp only
      split_ifs <;> split <;> rfl
    · rfl
  unfold rate
  dsimp only
  split
  · rfl
  · rw [hclamp, hadjust]
    rfl

end Pacing

/-! ## Runs -/

/-- A call of the controller. A block report says how far the last sent frame has advanced
since the report before. -/
inductive Call where
  | rate (ceiling needed encoderKbps : Nat)
  | ping (now : Int) (payload : List UInt8)
  | block (frame : UInt32) (advance : Nat) (period : Int) (block : Block)
  | tick (tick : Tick)
  deriving DecidableEq

structure Run where
  pacing : Pacing
  /-- how far the last sent frame has advanced -/
  sent : Nat := 0
  /-- the frames counted as lost, and as failed -/
  lost : List UInt32 := []
  failed : List UInt32 := []
  deriving DecidableEq

def lastSent (start : UInt32) (sent : Nat) : UInt32 := UInt32.ofNat (start.toNat + sent)

def Pacing.counts (p : Pacing) (frame lastSent : UInt32) (period : Int) (block : Block) :
    Bool × Bool :=
  if p.ignores frame lastSent period block then (false, false)
  else (Pacing.report (p.recentReports lastSent period) frame (block.kind = .unrecoverable)).2

def Run.step (start : UInt32) (run : Run) (call : Call) : Run :=
  let p := run.pacing.takeEvents.2
  match call with
  | .rate ceiling needed encoderKbps =>
    { run with pacing := (p.rate ceiling needed encoderKbps).1 }
  | .ping now payload => { run with pacing := p.onPing now payload }
  | .block frame advance period block =>
    let sent := run.sent + advance
    let (lost, failed) := p.counts frame (lastSent start sent) period block
    { pacing := p.onBlock frame (lastSent start sent) period block
      sent
      lost := if lost then frame :: run.lost else run.lost
      failed := if failed then frame :: run.failed else run.failed }
  | .tick tick => { run with pacing := (p.tick tick).1 }

def Call.WellTyped : Call → Prop
  | .rate ceiling _ _ => ceiling ≤ uint64Max
  | .ping _ _ | .block _ _ _ _ => True
  | .tick input => 0 ≤ input.rtt

instance : ∀ call : Call, Decidable call.WellTyped
  | .rate .. => inferInstanceAs (Decidable (_ ≤ _))
  | .ping .. | .block .. => .isTrue trivial
  | .tick .. => inferInstanceAs (Decidable (_ ≤ _))

/-- A controller with its calls in any order, the last sent frame being `start` at first. -/
def pacingSystem (enabled : Bool) (start : UInt32) : System Run Call where
  init := { pacing := .create enabled }
  admits _ call := call.WellTyped
  step := Run.step start

instance (enabled : Bool) (start : UInt32) (run : Run) (call : Call) :
    Decidable ((pacingSystem enabled start).admits run call) :=
  inferInstanceAs (Decidable call.WellTyped)

section

variable {enabled : Bool} {start : UInt32} {run : Run}

lemma sound_clear {p : Pacing} (h : p.Sound) : p.takeEvents.2.Sound :=
  ⟨h.floor, h.ceiling, h.limit, h.probe, h.hold, h.fence, h.fresh, h.disabled⟩

lemma sound_step (h : run.pacing.Sound) {call : Call} (hcall : call.WellTyped) :
    (run.step start call).pacing.Sound := by
  have hclear := sound_clear h
  cases call with
  | rate ceiling needed encoderKbps => exact hclear.rate hcall needed encoderKbps
  | ping now payload => exact hclear.onPing now payload
  | block frame advance period block => exact hclear.onBlock _ _ _ _
  | tick tick =>
    obtain hkept | ⟨_, _, hjudged⟩ := Pacing.tick_cases hclear tick
    · exact hkept.1
    · exact hjudged.sound

lemma sound_of_reachable (h : (pacingSystem enabled start).Reachable run) : run.pacing.Sound :=
  @System.Reachable.invariant _ _ _ _ (fun run => run.pacing.Sound) (.create enabled)
    (fun _ _ hsound hcall => sound_step hsound hcall) h

lemma raised_by_tick (h : run.pacing.Sound) {call : Call} (hcall : call.WellTyped)
    (hfloor : (run.step start call).pacing.floor = run.pacing.floor)
    (hceiling : (run.step start call).pacing.ceiling = run.pacing.ceiling)
    (hraised : run.pacing.current < (run.step start call).pacing.current) :
    ∃ tick, call = .tick tick ∧ ∃ sample ∈ run.pacing.lastSample,
      (run.pacing.interval sample tick).ping = true ∧
      (run.pacing.interval sample tick).loss = false ∧ 0 < tick.rtt ∧
      (run.pacing.interval sample tick).queued = false ∧
      (run.step start call).pacing.current ≤ run.pacing.current + run.pacing.largestStep := by
  have hclear := sound_clear h
  cases call with
  | rate ceiling needed encoderKbps =>
    have hsame := hclear.rate_same hfloor hceiling
    exact absurd hraised (not_lt.2 hsame.le)
  | ping now payload =>
    refine absurd hraised (not_lt.2 ?_)
    simp only [Run.step, Pacing.onPing]
    split <;> exact le_rfl
  | block frame advance period block =>
    refine absurd hraised (not_lt.2 ?_)
    simp only [Run.step, Pacing.onBlock]
    split <;> exact le_rfl
  | tick tick =>
    obtain ⟨_, _, _, hsame, _⟩ | ⟨sample, hsample, hjudged⟩ := Pacing.tick_cases hclear tick
    · exact absurd hraised (not_lt.2 hsame.le)
    · obtain ⟨hping, hloss, hrtt, hqueued, hstep⟩ := hjudged.raised hraised
      exact ⟨tick, rfl, sample, hsample, hping, hloss, lt_of_le_of_ne hcall hrtt.symm, hqueued, hstep⟩

lemma probe_after_probe (h : run.pacing.Sound) {call : Call}
    (hstarted : (run.step start call).pacing.events.probeStarted = true) :
    run.pacing.probe = none ∨ (run.step start call).pacing.events.probeAccepted = true := by
  have hclear := sound_clear h
  cases call with
  | rate ceiling needed encoderKbps =>
    simp only [Run.step] at hstarted
    rw [Pacing.rate_probeStarted] at hstarted
    cases hstarted
  | ping now payload =>
    simp only [Run.step, Pacing.onPing] at hstarted
    split at hstarted <;> cases hstarted
  | block frame advance period block =>
    simp only [Run.step, Pacing.onBlock] at hstarted
    split at hstarted <;> cases hstarted
  | tick tick =>
    obtain ⟨_, _, _, _, hevents⟩ | ⟨sample, hsample, hjudged⟩ := Pacing.tick_cases hclear tick
    · simp only [Run.step] at hstarted
      rw [hevents] at hstarted
      cases hstarted
    · obtain hbefore | hprobe := hjudged.probed hstarted
      · cases hbefore
      · exact hprobe

end

/-! ## Counting frames -/

namespace Pacing

variable (p : Pacing)

lemma rate_reportedFrames (ceiling needed encoderKbps : Nat) :
    (p.rate ceiling needed encoderKbps).1.reportedFrames = p.reportedFrames := by
  have hclamp : ∀ q : Pacing, q.clampLimit.reportedFrames = q.reportedFrames := by
    intro q
    unfold clampLimit
    split
    · rfl
    · dsimp only
      split <;> rfl
  have hadjust : ∀ q : Pacing, (q.adjust p encoderKbps).reportedFrames = q.reportedFrames := by
    intro q
    unfold adjust
    split
    · rfl
    split
    · unfold rebudget retractProbe
      dsimp only
      split_ifs <;> split <;> rfl
    · rfl
  unfold rate
  dsimp only
  split
  · rfl
  · rw [hclamp, hadjust]
    rfl

lemma judge_reportedFrames (interval : Interval) (tick : Tick) :
    (p.judge interval tick).reportedFrames = p.reportedFrames := by
  unfold judge
  dsimp only
  split
  · unfold cutBack
    dsimp only
    split <;> rfl
  split
  · rfl
  · unfold advance
    split
    · rfl
    · dsimp only
      have hsettle : ∀ (q : Pacing) clean, (q.settleProbe clean tick).reportedFrames = q.reportedFrames := by
        intro q clean
        unfold settleProbe
        split
        · rfl
        · split_ifs <;> rfl
      have hraise : ∀ (q : Pacing) clean, (q.raise clean tick).reportedFrames = q.reportedFrames := by
        intro q clean
        unfold raise
        split_ifs <;> rfl
      rw [hraise, hsettle]
      rfl

lemma tick_reportedFrames (tick : Tick) : (p.tick tick).1.reportedFrames = p.reportedFrames := by
  have hfenced : (if p.awaitingFence then p.fenced tick.lastSent else p).reportedFrames =
      p.reportedFrames := by
    split <;> rfl
  unfold Pacing.tick
  split
  · rfl
  dsimp only
  generalize (if p.awaitingFence = true then p.fenced tick.lastSent else p) = q at hfenced ⊢
  split
  · exact hfenced
  split
  · exact hfenced
  · rw [judge_reportedFrames]
    exact hfenced

lemma report_cases (frames : List ReportedFrame) (frame : UInt32) (failed : Bool) :
    (∃ seen ∈ frames, seen.frame = frame ∧ seen.failed = false ∧ report frames frame failed =
      (frames.map fun entry => if entry.frame = frame then { entry with failed := true } else entry,
        false, true)) ∨
    report frames frame failed = (frames, false, false) ∨
    (∀ entry ∈ frames, entry.frame ≠ frame) ∧
      report frames frame failed = (frames ++ [⟨frame, failed⟩], true, failed) := by
  cases hfind : frames.find? (·.frame = frame) with
  | none =>
    refine .inr (.inr ⟨fun entry hentry => ?_, by simp only [report, hfind]⟩)
    simpa using List.find?_eq_none.1 hfind entry hentry
  | some seen =>
    have hseen := mem_of_find?_eq_some hfind
    have hframe : seen.frame = frame := by simpa using find?_some hfind
    by_cases hfails : failed = true ∧ (!seen.failed) = true
    · exact .inl ⟨seen, hseen, hframe, by simpa using hfails.2,
        by simp only [report, hfind, if_pos hfails]⟩
    · exact .inr (.inl (by simp only [report, hfind, if_neg hfails]))

end Pacing

/-- A frame that was counted is remembered while it is recent, and marked once it has failed.
Its age is how far the last sent frame is ahead of it. -/
structure Counted (start : UInt32) (recent sent : Nat) (frames : List ReportedFrame)
    (lost failed : List UInt32) : Prop where
  remembered : ∀ frame ∈ lost, ∃ age, age + 1 ≤ sent + recent ∧
    (age + frame.toNat) % 2 ^ 32 = (start.toNat + sent) % 2 ^ 32 ∧
    (age < recent → ∃ entry ∈ frames, entry.frame = frame)
  marked : ∀ entry ∈ frames, entry.frame ∈ failed → entry.failed = true
  distinct : (frames.map (·.frame)).Nodup
  entries_lost : ∀ entry ∈ frames, entry.frame ∈ lost
  failed_lost : ∀ frame ∈ failed, frame ∈ lost
  lost : lost.Nodup
  failed : failed.Nodup

section

variable {start : UInt32} {recent sent : Nat} {frames : List ReportedFrame}
  {lost failed : List UInt32}

lemma lastSent_sub {frame : UInt32} {age : Nat} (hage : age < 2 ^ 32)
    (h : (age + frame.toNat) % 2 ^ 32 = (start.toNat + sent) % 2 ^ 32) :
    (lastSent start sent - frame).toNat = age := by
  have hframe := frame.toNat_lt
  rw [lastSent, UInt32.toNat_sub, UInt32.toNat_ofNat']
  omega

lemma Counted.nil (start : UInt32) (recent sent : Nat) : Counted start recent sent [] [] [] := by
  constructor <;> simp

section

variable (h : Counted start recent sent frames lost failed)

include h

lemma Counted.advance (advance : Nat) :
    Counted start recent (sent + advance) frames lost failed := by
  refine { h with remembered := fun frame hframe => ?_ }
  obtain ⟨age, hbound, hage, hentry⟩ := h.remembered frame hframe
  exact ⟨age + advance, by omega, by omega, fun hrecent => hentry (by omega)⟩

lemma Counted.entry (hbound : sent + recent ≤ 2 ^ 32) {frame : UInt32} (hframe : frame ∈ lost)
    (hrecent : (lastSent start sent - frame).toNat < recent) :
    ∃ entry ∈ frames, entry.frame = frame := by
  obtain ⟨age, hage, hsame, hentry⟩ := h.remembered frame hframe
  rw [lastSent_sub (by omega) hsame] at hrecent
  exact hentry hrecent

lemma Counted.forget (hbound : sent + recent ≤ 2 ^ 32) : Counted start recent sent
      (frames.filter fun seen => (lastSent start sent - seen.frame).toNat < recent) lost failed where
  remembered frame hframe := by
    obtain ⟨age, hage, hsame, hentry⟩ := h.remembered frame hframe
    refine ⟨age, hage, hsame, fun hrecent => ?_⟩
    obtain ⟨entry, hmem, rfl⟩ := hentry hrecent
    refine ⟨entry, mem_filter.2 ⟨hmem, ?_⟩, rfl⟩
    rw [lastSent_sub (by omega) hsame]
    exact decide_eq_true hrecent
  marked entry hentry := h.marked entry (mem_filter.1 hentry).1
  distinct := h.distinct.sublist (filter_sublist.map _)
  entries_lost entry hentry := h.entries_lost entry (mem_filter.1 hentry).1
  failed_lost := h.failed_lost
  lost := h.lost
  failed := h.failed

lemma Counted.mark {seen : ReportedFrame}
    (hseen : seen ∈ frames) (hmark : seen.failed = false) : Counted start recent sent
      (frames.map fun entry => if entry.frame = seen.frame then { entry with failed := true } else entry)
      lost (seen.frame :: failed) := by
  have hframes : ∀ entry : ReportedFrame,
      (if entry.frame = seen.frame then { entry with failed := true } else entry).frame =
        entry.frame := by
    intro entry
    split <;> rfl
  refine ⟨fun frame hframe => ?_, fun entry hentry hfailed => ?_, ?_, fun entry hentry => ?_,
    fun frame hframe => ?_, h.lost, nodup_cons.2 ⟨fun hold => ?_, h.failed⟩⟩
  · obtain ⟨age, hage, hsame, hentry⟩ := h.remembered frame hframe
    refine ⟨age, hage, hsame, fun hrecent => ?_⟩
    obtain ⟨entry, hmem, rfl⟩ := hentry hrecent
    exact ⟨_, mem_map_of_mem hmem, hframes entry⟩
  · obtain ⟨old, hold, rfl⟩ := mem_map.1 hentry
    rw [hframes] at hfailed
    split
    · rfl
    · rename_i hother
      exact h.marked old hold ((mem_cons.1 hfailed).resolve_left hother)
  · rw [map_map]
    exact (congrArg (List.map · frames) (funext hframes)).symm ▸ h.distinct
  · obtain ⟨old, hold, rfl⟩ := mem_map.1 hentry
    rw [hframes]
    exact h.entries_lost old hold
  · obtain rfl | hold := mem_cons.1 hframe
    · exact h.entries_lost seen hseen
    · exact h.failed_lost frame hold
  · exact absurd ((h.marked seen hseen hold).symm.trans hmark) (by simp)

lemma Counted.enter (hbound : sent + recent ≤ 2 ^ 32) {frame : UInt32}
    (hrecent : (lastSent start sent - frame).toNat < recent)
    (hnew : ∀ entry ∈ frames, entry.frame ≠ frame) (fails : Bool) :
    Counted start recent sent (frames ++ [⟨frame, fails⟩]) (frame :: lost)
      (if fails then frame :: failed else failed) := by
  have hlost : frame ∉ lost := by
    intro hlost
    obtain ⟨entry, hentry, hframe⟩ := h.entry hbound hlost hrecent
    exact hnew entry hentry hframe
  have hfailed : frame ∉ failed := fun hfailed => hlost (h.failed_lost frame hfailed)
  refine ⟨fun other hother => ?_, fun entry hentry hmark => ?_, ?_, fun entry hentry => ?_,
    fun other hother => ?_, nodup_cons.2 ⟨hlost, h.lost⟩, ?_⟩
  · obtain rfl | hother := mem_cons.1 hother
    · refine ⟨(lastSent start sent - other).toNat, by omega, ?_, fun _ => ⟨⟨other, fails⟩, by simp⟩⟩
      have hframe := other.toNat_lt
      rw [lastSent, UInt32.toNat_sub, UInt32.toNat_ofNat']
      omega
    · obtain ⟨age, hage, hsame, hentry⟩ := h.remembered other hother
      refine ⟨age, hage, hsame, fun hyoung => ?_⟩
      obtain ⟨entry, hmem, rfl⟩ := hentry hyoung
      exact ⟨entry, mem_append_left _ hmem, rfl⟩
  · obtain hold | hentry := mem_append.1 hentry
    · refine h.marked entry hold ?_
      split at hmark
      · exact (mem_cons.1 hmark).resolve_left (hnew entry hold)
      · exact hmark
    · obtain rfl := mem_singleton.1 hentry
      cases fails with
      | true => rfl
      | false => exact absurd hmark hfailed
  · rw [map_append, nodup_append]
    refine ⟨h.distinct, by simp, fun name hname other hother => ?_⟩
    obtain ⟨entry, hentry, rfl⟩ := mem_map.1 hname
    obtain rfl : other = frame := by simpa using hother
    exact hnew entry hentry
  · obtain hold | hentry := mem_append.1 hentry
    · exact mem_cons_of_mem _ (h.entries_lost entry hold)
    · obtain rfl := mem_singleton.1 hentry
      exact mem_cons_self
  · split at hother
    · obtain rfl | hother := mem_cons.1 hother
      · exact mem_cons_self
      · exact mem_cons_of_mem _ (h.failed_lost other hother)
    · exact mem_cons_of_mem _ (h.failed_lost other hother)
  · split
    · exact nodup_cons.2 ⟨hfailed, h.failed⟩
    · exact h.failed

lemma Counted.report (hbound : sent + recent ≤ 2 ^ 32) {frame : UInt32}
    (hrecent : (lastSent start sent - frame).toNat < recent) (fails : Bool) :
    Counted start recent sent (Pacing.report frames frame fails).1
      (if (Pacing.report frames frame fails).2.1 then frame :: lost else lost)
      (if (Pacing.report frames frame fails).2.2 then frame :: failed else failed) := by
  obtain ⟨seen, hseen, rfl, hmark, hreport⟩ | hreport | ⟨hnew, hreport⟩ :=
    Pacing.report_cases frames frame fails
  · rw [hreport]
    exact h.mark hseen hmark
  · rw [hreport]
    exact h
  · rw [hreport]
    exact h.enter hbound hrecent hnew fails

end

end

def Call.HasPeriod (period : Int) : Call → Prop
  | .block _ _ reported _ => reported = period
  | .rate _ _ _ | .ping _ _ | .tick _ => True

instance (period : Int) : ∀ call : Call, Decidable (call.HasPeriod period)
  | .block .. => inferInstanceAs (Decidable (_ = _))
  | .rate .. | .ping .. | .tick .. => .isTrue trivial

def Run.Counts (start : UInt32) (period : Int) (run : Run) : Prop :=
  run.sent + recentFrames period ≤ 2 ^ 32 →
    Counted start (recentFrames period) run.sent run.pacing.reportedFrames run.lost run.failed

section

variable {enabled : Bool} {start : UInt32} {run : Run} {period : Int}

lemma Run.Counts.block (h : run.Counts start period) (frame : UInt32) (advance : Nat)
    (block : Block) : (run.step start (.block frame advance period block)).Counts start period := by
  intro hbound
  have hbound : run.sent + advance + recentFrames period ≤ 2 ^ 32 := hbound
  have hadvanced := (h (by omega)).advance advance
  change Counted start _ _ (Pacing.onBlock _ _ _ _ _).reportedFrames _ _
  unfold Pacing.onBlock
  split
  · rename_i hignored
    simp only [Run.step, Pacing.counts, hignored, if_true, Bool.false_eq_true, if_false]
    exact hadvanced
  · rename_i hvalid
    have hrecent : (lastSent start (run.sent + advance) - frame).toNat < recentFrames period := by
      by_contra hold
      exact hvalid (by simp [Pacing.ignores, not_lt.1 hold])
    simp only [Run.step, Pacing.counts, hvalid, Bool.false_eq_true, if_false]
    exact (hadvanced.forget hbound).report hbound hrecent _

lemma Run.Counts.step (h : run.Counts start period) {call : Call} (hcall : call.HasPeriod period) :
    (run.step start call).Counts start period := by
  cases call with
  | rate ceiling needed encoderKbps =>
    intro hbound
    simp only [Run.step, Pacing.rate_reportedFrames]
    exact h hbound
  | ping now payload =>
    intro hbound
    simp only [Run.step, Pacing.onPing]
    split <;> exact h hbound
  | block frame advance reported block =>
    obtain rfl : reported = period := hcall
    exact h.block frame advance block
  | tick tick =>
    intro hbound
    simp only [Run.step, Pacing.tick_reportedFrames]
    exact h hbound

lemma counts_of_reachable
    (h : (pacingSystem enabled start).ReachableUnder (fun _ call => call.HasPeriod period) run) :
    run.Counts start period :=
  @System.ReachableUnder.invariant _ _ _ _ _ (fun run => run.Counts start period)
    (fun _ => Counted.nil start _ _) (fun _ _ hcounts _ hcall => hcounts.step hcall) h

end

/-- The controller keeps its rate, its probe and its quiet period within their bounds. With
floor and ceiling unchanged only a tick raises the rate, by one step and on evidence, and no
probe starts over an unsettled one. With a constant period, no frame is counted twice until
the counter of the last sent frame is about to come round. -/
theorem pacing_controlled (enabled : Bool) (start : UInt32) :
    (∀ run, (pacingSystem enabled start).Reachable run →
      (run.pacing.floor ≤ run.pacing.current ∧ run.pacing.current ≤ run.pacing.ceiling) ∧
      (∀ probe ∈ run.pacing.probe, ∃ limit ∈ run.pacing.limit,
        run.pacing.floor ≤ probe.stable ∧ probe.stable < limit ∧ limit ≤ run.pacing.ceiling) ∧
      (seconds 8 ≤ run.pacing.recoveryHold ∧ run.pacing.recoveryHold ≤ seconds 60) ∧
      ∀ call, (pacingSystem enabled start).admits run call →
        ((run.step start call).pacing.floor = run.pacing.floor →
          (run.step start call).pacing.ceiling = run.pacing.ceiling →
          run.pacing.current < (run.step start call).pacing.current →
          ∃ tick, call = .tick tick ∧ ∃ sample ∈ run.pacing.lastSample,
            (run.pacing.interval sample tick).ping = true ∧
            (run.pacing.interval sample tick).loss = false ∧ 0 < tick.rtt ∧
            (run.pacing.interval sample tick).queued = false ∧
            (run.step start call).pacing.current ≤ run.pacing.current + run.pacing.largestStep) ∧
        ((run.step start call).pacing.events.probeStarted = true →
          run.pacing.probe = none ∨ (run.step start call).pacing.events.probeAccepted = true)) ∧
    (∀ run period,
      (pacingSystem enabled start).ReachableUnder (fun _ call => call.HasPeriod period) run →
      run.sent + recentFrames period ≤ 2 ^ 32 → run.lost.Nodup ∧ run.failed.Nodup) := by
  refine ⟨fun run hrun => ?_, fun run period hrun hbound => ?_⟩
  · have hsound := sound_of_reachable hrun
    refine ⟨hsound.current, fun probe hprobe => ?_, hsound.hold, fun call hcall => ?_⟩
    · obtain ⟨limit, hlimit, hstable, hless⟩ := hsound.probe probe hprobe
      exact ⟨limit, hlimit, hstable, hless, (hsound.limit limit hlimit).2⟩
    · exact ⟨raised_by_tick hsound hcall, probe_after_probe hsound⟩
  · have hcounted := counts_of_reachable hrun hbound
    exact ⟨hcounted.lost, hcounted.failed⟩

def repairedBlock : Call := .block 0 0 16666666 { kind := .recovered, lost := 1 }

theorem pacing_controlled_repaired : ((pacingSystem true 100).run (pacingSystem true 100).init
      [.rate 50000000 1000000 20000, repairedBlock, repairedBlock]).lost.Nodup ∧
    ((pacingSystem true 100).run (pacingSystem true 100).init
      [.rate 50000000 1000000 20000, repairedBlock, repairedBlock]).failed.Nodup :=
  (pacing_controlled true 100).2 _ 16666666 (System.Segment.of_follows .refl (by decide))
    (by decide)

/-- A block of a frame is reported, one of a later frame drops it from the recent ones, and
before the counter has come round, the frame is recent again and counted once more. -/
theorem frame_counted_again :
    ¬ ∀ run, (pacingSystem true 100).ReachableUnder (fun _ call => call.HasPeriod 16666666) run →
      run.sent < 2 ^ 32 → run.lost.Nodup ∧ run.failed.Nodup := by
  intro h
  have hfollows : (pacingSystem true 100).Follows (fun _ call => call.HasPeriod 16666666)
      (pacingSystem true 100).init
      [.rate 50000000 1000000 20000, repairedBlock,
        .block 10000 9900 16666666 { kind := .recovered, lost := 1 },
        .block 0 (2 ^ 32 - 1 - 9900) 16666666 { kind := .recovered, lost := 1 }] := by decide
  exact absurd (h _ (System.Segment.of_follows .refl hfollows) (by decide)).1 (by decide)

end Vibeshine.VideoPacing
