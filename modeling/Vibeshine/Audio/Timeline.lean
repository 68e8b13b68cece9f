import Vibeshine.Audio.ContinuousBuffer
import Mathlib.Data.List.Basic

/-! # The timeline of a continuous buffer

What the circular buffer stands for: frames without end, silent until something is put on
them, and a cursor that leaves them behind.
-/

namespace Vibeshine.Audio

/-! ## Timelines -/

structure Timeline (α : Type) where
  content : Int → Nat → α
  cursor : Int

inductive Call (α : Type) where
  | advance (now : Int)
  | put (timestamp : Int) (frames : Nat) (data : Nat → α) (silent : Bool)
  | ready (now : Int)
  | waitMs (now : Int)
  | take (now : Int) (size : Nat)

inductive Result (α : Type) where
  | advanced
  | accepted (accepted : Bool)
  | ready (ready : Bool)
  | waitMs (ms : Nat)
  | output (samples : Option (List α))

def Call.now? {α : Type} : Call α → Option Int
  | .advance now => some now
  | .put .. => none
  | .ready now => some now
  | .waitMs now => some now
  | .take now _ => some now

section

variable {α : Type} [Zero α]

namespace Timeline

def silent : Timeline α := { content := fun _ _ => 0, cursor := 0 }

def write (t : Timeline α) (first : Int) (frames : Nat) (values : Int → Nat → α) : Timeline α :=
  { t with
    content := fun frame channel =>
      if t.cursor ≤ frame ∧ first ≤ frame ∧ frame < first + frames then values frame channel
      else t.content frame channel }

def window (cfg : Config) (t : Timeline α) : List α :=
  (List.range cfg.packetFrames).flatMap fun (frame : Nat) =>
    (List.range cfg.channels).map fun channel => t.content (t.cursor + frame) channel

/-- A timestamp that the buffer takes: not negative, and at most a second before the origin. -/
def Trusted (cfg : Config) (timestamp : Int) : Prop :=
  0 ≤ timestamp ∧ cfg.origin - ticksPerSecond ≤ timestamp

/-- Frames that end within the capacity from the cursor on. -/
def Within (cfg : Config) (t : Timeline α) (timestamp : Int) (frames : Nat) : Prop :=
  cfg.frameAt (timestamp - cfg.origin) + frames ≤ t.cursor + cfg.capacity

/-- The frames that are missing until the packet behind the cursor is ready. -/
def missing (cfg : Config) (t : Timeline α) (now : Int) : Int :=
  t.cursor + cfg.packetFrames + cfg.marginFrames - cfg.frameNow now

/-- The milliseconds in which the missing frames pass, rounded up. -/
def waitMs (cfg : Config) (t : Timeline α) (now : Int) : Nat :=
  if t.missing cfg now ≤ 0 then 0
  else ((t.missing cfg now * 1000 + cfg.rate - 1).tdiv cfg.rate).toNat % 2 ^ 32

inductive Step (cfg : Config) (t : Timeline α) : Call α → Result α → Timeline α → Prop where
  | advance {now cursor : Int} (forward : t.cursor ≤ cursor) :
      Step cfg t (.advance now) .advanced { t with cursor := cursor }
  | put {timestamp : Int} {frames : Nat} {data : Nat → α} {silent : Bool}
      (trusted : Trusted cfg timestamp) (within : t.Within cfg timestamp frames) :
      Step cfg t (.put timestamp frames data silent) (.accepted true)
        (t.write (cfg.frameAt (timestamp - cfg.origin)) frames fun frame channel =>
          if silent then 0
          else data ((frame - cfg.frameAt (timestamp - cfg.origin)).toNat * cfg.channels + channel))
  | refuse {timestamp : Int} {frames : Nat} {data : Nat → α} {silent : Bool}
      (beyond : Trusted cfg timestamp → ¬t.Within cfg timestamp frames) :
      Step cfg t (.put timestamp frames data silent) (.accepted false) t
  | ready {now : Int} : Step cfg t (.ready now) (.ready (t.missing cfg now ≤ 0)) t
  | waitMs {now : Int} : Step cfg t (.waitMs now) (.waitMs (t.waitMs cfg now)) t
  | take {now : Int} (ready : t.missing cfg now ≤ 0) :
      Step cfg t (.take now (cfg.packetFrames * cfg.channels)) (.output (some (t.window cfg)))
        { t with cursor := t.cursor + cfg.packetFrames }
  | keep {now : Int} {size : Nat}
      (unready : size = cfg.packetFrames * cfg.channels → 0 < t.missing cfg now) :
      Step cfg t (.take now size) (.output none) t

inductive Run (cfg : Config) : Timeline α → List (Call α) → List (Result α) → Timeline α → Prop where
  | nil (t : Timeline α) : Run cfg t [] [] t
  | cons {t next last : Timeline α} {call : Call α} {result : Result α} {calls : List (Call α)}
      {results : List (Result α)} (step : Step cfg t call result next)
      (rest : Run cfg next calls results last) : Run cfg t (call :: calls) (result :: results) last

end Timeline

namespace Buffer

def call (cfg : Config) (b : Buffer α) : Call α → Buffer α × Result α
  | .advance now => (b.advance cfg now, .advanced)
  | .put timestamp frames data silent =>
    let (b, accepted) := b.put cfg timestamp frames data silent
    (b, .accepted accepted)
  | .ready now => (b, .ready (b.ready cfg now))
  | .waitMs now => (b, .waitMs (b.waitMs cfg now))
  | .take now size =>
    let (b, samples) := b.take cfg now size
    (b, .output samples)

def run (cfg : Config) (b : Buffer α) : List (Call α) → Buffer α × List (Result α)
  | [] => (b, [])
  | call :: calls =>
    let (b, result) := b.call cfg call
    let (b, results) := b.run cfg calls
    (b, result :: results)

end Buffer

/-! ## What a buffer stands for -/

/-- The window from the cursor on shows the timeline, and beyond it the timeline is silent. -/
structure Represents (cfg : Config) (b : Buffer α) (t : Timeline α) : Prop where
  cursor : b.cursor = t.cursor
  nonneg : 0 ≤ b.cursor
  shown : ∀ frame channel, b.cursor ≤ frame → frame < b.cursor + cfg.capacity →
    channel < cfg.channels → b.samples (cfg.slot frame + channel) = t.content frame channel
  beyond : ∀ frame channel, b.cursor + cfg.capacity ≤ frame → channel < cfg.channels →
    t.content frame channel = 0

variable {cfg : Config} {b : Buffer α} {t : Timeline α}

section

variable (h : Represents cfg b t)

include h

lemma Represents.ready {now : Int} : b.ready cfg now = decide (t.missing cfg now ≤ 0) := by
  unfold Buffer.ready Timeline.missing
  rw [h.cursor]
  exact decide_eq_decide.mpr (by omega)

lemma Represents.waitMs {now : Int} : b.waitMs cfg now = t.waitMs cfg now := by
  unfold Buffer.waitMs Timeline.waitMs Timeline.missing
  rw [h.cursor]

section

variable (hcapacity : 0 < cfg.capacity)

include hcapacity

lemma Represents.retire {next : Int}
    (hnext : b.cursor ≤ next) : Represents cfg (b.retire cfg next) { t with cursor := next } where
  cursor := rfl
  nonneg := h.nonneg.trans hnext
  shown frame channel hfrom hto hchannel := by
    change next ≤ frame at hfrom
    change frame < next + cfg.capacity at hto
    show (if next - b.cursor ≥ cfg.capacity then fun _ => 0
      else storeFrames cfg b.samples b.cursor (fun _ _ => 0) (next - b.cursor).toNat)
        (cfg.slot frame + channel) = t.content frame channel
    split
    next hall => rw [h.beyond frame channel (by omega) hchannel]
    next hpart =>
      by_cases hold : frame < b.cursor + cfg.capacity
      · rw [storeFrames_apply hcapacity _ _ _ hchannel (by omega) (by omega), if_neg (by omega)]
        exact h.shown frame channel (by omega) hold hchannel
      · -- The frame takes the slot of one that was cleared.
        have hslot : cfg.slot frame = cfg.slot (frame - cfg.capacity) := by
          unfold Config.slot
          rw [Int.sub_emod_right]
        rw [hslot, storeFrames_apply hcapacity _ _ _ hchannel (by omega) (by omega),
          if_pos (by omega), h.beyond frame channel (by omega) hchannel]
  beyond frame channel hbeyond hchannel := by
    change next + cfg.capacity ≤ frame at hbeyond
    exact h.beyond frame channel (by omega) hchannel

lemma Represents.advance (now : Int) : ∃ cursor, t.cursor ≤ cursor ∧
      Represents cfg (b.advance cfg now) { t with cursor := cursor } := by
  unfold Buffer.advance
  dsimp only
  split
  · refine ⟨_, ?_, h.retire hcapacity (Int.le_max_left _ _)⟩
    rw [← h.cursor]
    exact Int.le_max_left _ _
  · exact ⟨t.cursor, Int.le_refl _, h⟩

lemma Represents.put (timestamp : Int) (frames : Nat) (data : Nat → α) (silent : Bool) :
    ∃ later, Represents cfg (b.put cfg timestamp frames data silent).1 later ∧
      t.Step cfg (.put timestamp frames data silent)
        (.accepted (b.put cfg timestamp frames data silent).2) later := by
  have hcursor := h.cursor
  unfold Buffer.put
  split
  next huntrusted =>
    refine ⟨t, h, .refuse fun htrusted => ?_⟩
    unfold Timeline.Trusted at htrusted
    simp only [Bool.or_eq_true, decide_eq_true_eq] at huntrusted
    omega
  next htrusted =>
  simp only [Bool.or_eq_true, decide_eq_true_eq, not_or, Int.not_lt] at htrusted
  dsimp only
  split
  next hpassed =>
    refine ⟨_, ?_, .put htrusted (by unfold Timeline.Within; omega)⟩
    -- Nothing is written: all frames are before the cursor.
    refine ⟨h.cursor, h.nonneg, fun frame channel hfrom hto hchannel => ?_,
      fun frame channel hbeyond hchannel => ?_⟩
    · show _ = if _ then _ else _
      rw [if_neg (by omega)]
      exact h.shown frame channel hfrom hto hchannel
    · show (if _ then _ else _) = _
      rw [if_neg (by omega)]
      exact h.beyond frame channel hbeyond hchannel
  next hpend =>
  split
  next hbeyond =>
    simp only [Bool.or_eq_true, decide_eq_true_eq] at hbeyond
    exact ⟨t, h, .refuse fun _ => by unfold Timeline.Within; omega⟩
  next hinside =>
    simp only [Bool.or_eq_true, decide_eq_true_eq, not_or, Int.not_lt] at hinside
    refine ⟨_, ?_, .put htrusted (by unfold Timeline.Within; omega)⟩
    generalize cfg.frameAt (timestamp - cfg.origin) = first at *
    refine ⟨h.cursor, h.nonneg, fun frame channel hfrom hto hchannel => ?_,
      fun frame channel hbeyond hchannel => ?_⟩
    · show storeFrames cfg b.samples _ _ _ (cfg.slot frame + channel) = if _ then _ else _
      change b.cursor ≤ frame at hfrom
      change frame < b.cursor + cfg.capacity at hto
      rw [storeFrames_apply hcapacity _ _ _ hchannel (by omega) (by omega)]
      by_cases hwritten : t.cursor ≤ frame ∧ first ≤ frame ∧ frame < first + frames
      · rw [if_pos hwritten, if_pos (by omega)]
      · rw [if_neg hwritten, if_neg (by omega)]
        exact h.shown frame channel hfrom hto hchannel
    · show (if _ then _ else _) = _
      change b.cursor + cfg.capacity ≤ frame at hbeyond
      rw [if_neg (by omega)]
      exact h.beyond frame channel hbeyond hchannel

lemma Represents.take (hpacket : cfg.packetFrames ≤ cfg.capacity) (now : Int) (size : Nat) :
    ∃ later, Represents cfg (b.take cfg now size).1 later ∧
      t.Step cfg (.take now size) (.output (b.take cfg now size).2) later := by
  unfold Buffer.take
  split
  next hkept =>
    refine ⟨t, h, .keep fun hsize => ?_⟩
    simpa [hsize, h.ready] using hkept
  next htaken =>
    simp only [Bool.or_eq_true, decide_eq_true_eq, not_or, ne_eq, not_not, h.ready,
      Bool.not_eq_true', decide_eq_false_iff_not] at htaken
    obtain ⟨rfl, hready⟩ := htaken
    refine ⟨{ t with cursor := t.cursor + cfg.packetFrames }, ?_, ?_⟩
    · rw [← h.cursor]
      exact h.retire hcapacity (by omega)
    · have hwindow : ((List.range cfg.packetFrames).flatMap fun (frame : Nat) =>
          (List.range cfg.channels).map fun channel =>
            b.samples (cfg.slot (b.cursor + frame) + channel)) = t.window cfg := by
        unfold Timeline.window
        refine List.flatMap_congr fun frame hframe => List.map_congr_left fun channel hchannel => ?_
        rw [List.mem_range] at hframe hchannel
        rw [h.shown _ channel (by omega) (by omega) hchannel, h.cursor]
      dsimp only
      rw [hwindow]
      exact .take hready

lemma Represents.call (hpacket : cfg.packetFrames ≤ cfg.capacity) (call : Call α) :
    ∃ later, Represents cfg (b.call cfg call).1 later ∧
      t.Step cfg call (b.call cfg call).2 later := by
  cases call with
  | advance now =>
    obtain ⟨cursor, hforward, hlater⟩ := h.advance hcapacity now
    exact ⟨_, hlater, .advance hforward⟩
  | put timestamp frames data silent => exact h.put hcapacity timestamp frames data silent
  | ready now =>
    refine ⟨t, h, ?_⟩
    rw [Buffer.call, h.ready]
    exact .ready
  | waitMs now =>
    refine ⟨t, h, ?_⟩
    rw [Buffer.call, h.waitMs]
    exact .waitMs
  | take now size => exact h.take hcapacity hpacket now size

end

end

/-! ## The pace of the cursor -/

def Ordered (latest : Int) : List (Call α) → Prop
  | [] => True
  | call :: calls => latest ≤ call.now?.getD latest ∧ Ordered (call.now?.getD latest) calls

def Paced (cfg : Config) (latest : Int) (b : Buffer α) : Prop :=
  b.cursor ≤ 0 ∨ b.cursor + cfg.marginFrames ≤ cfg.frameNow latest

omit [Zero α] in
lemma Paced.mono {earlier later : Int} (h : Paced cfg earlier b) (hle : earlier ≤ later) :
    Paced cfg later b :=
  h.imp_right fun hbehind => hbehind.trans (frameNow_mono cfg hle)

lemma Buffer.put_cursor (timestamp : Int) (frames : Nat) (data : Nat → α) (silent : Bool) :
    (b.put cfg timestamp frames data silent).1.cursor = b.cursor := by
  unfold Buffer.put
  split
  · rfl
  dsimp only
  split
  · rfl
  split <;> rfl

lemma Paced.call {latest : Int} (h : Paced cfg latest b) (call : Call α)
    (hle : latest ≤ call.now?.getD latest) :
    Paced cfg (call.now?.getD latest) (b.call cfg call).1 := by
  replace h := h.mono hle
  cases call with
  | advance now =>
    show Paced cfg now (b.advance cfg now)
    change Paced cfg now b at h
    unfold Buffer.advance
    dsimp only
    split
    · unfold Paced at h ⊢
      show max b.cursor (cfg.frameNow now - cfg.marginFrames - cfg.packetFrames) ≤ 0 ∨
        max b.cursor (cfg.frameNow now - cfg.marginFrames - cfg.packetFrames) +
          cfg.marginFrames ≤ cfg.frameNow now
      omega
    · exact h
  | put timestamp frames data silent =>
    show Paced cfg latest (b.put cfg timestamp frames data silent).1
    unfold Paced
    rw [Buffer.put_cursor]
    exact h
  | ready _ | waitMs _ => exact h
  | take now size =>
    show Paced cfg now (b.take cfg now size).1
    unfold Buffer.take
    split
    · exact h
    next htaken =>
      have hready : b.ready cfg now = true := by
        simp only [Bool.or_eq_true, decide_eq_true_eq, not_or, Bool.not_eq_true',
          Bool.not_eq_false] at htaken
        exact htaken.2
      simp only [Buffer.ready, ge_iff_le, decide_eq_true_eq] at hready
      right
      show b.cursor + cfg.packetFrames + cfg.marginFrames ≤ cfg.frameNow now
      exact hready

omit [Zero α] in
lemma Paced.wait {latest now : Int} (h : Paced cfg latest b) (hnow : latest ≤ now)
    (hrate : 0 < cfg.rate)
    (hfits : (cfg.packetFrames + cfg.marginFrames) * 1000 + cfg.rate ≤ 2 ^ 32 * cfg.rate) :
    (b.waitMs cfg now = 0 ↔ b.ready cfg now = true) ∧
      (cfg.origin ≤ now → b.ready cfg (now + b.waitMs cfg now * 10000) = true) := by
  replace h := h.mono hnow
  have hframe : 0 ≤ cfg.frameNow now := by
    unfold Config.frameNow
    rw [frameAt_eq cfg (by omega)]
    have := Int.mul_nonneg (show 0 ≤ max now cfg.origin - cfg.origin by omega)
      (Int.natCast_nonneg cfg.rate)
    omega
  have hready : ∀ at' : Int, b.ready cfg at' = true ↔
      b.cursor + cfg.packetFrames + cfg.marginFrames ≤ cfg.frameNow at' := fun at' => by
    simp [Buffer.ready]
  generalize hremaining :
    b.cursor + cfg.packetFrames + cfg.marginFrames - cfg.frameNow now = remaining
  have hwait : b.waitMs cfg now = if remaining ≤ 0 then 0
      else ((remaining * 1000 + cfg.rate - 1).tdiv cfg.rate).toNat % 2 ^ 32 := by
    rw [← hremaining]
    rfl
  by_cases hover : remaining ≤ 0
  · rw [hwait, if_pos hover, hready]
    refine ⟨⟨fun _ => by omega, fun _ => rfl⟩, fun _ => (hready _).mpr ?_⟩
    rw [Int.natCast_zero, Int.zero_mul, Int.add_zero]
    omega
  · have hbound : remaining ≤ cfg.packetFrames + cfg.marginFrames := by
      unfold Paced at h
      omega
    have hrate' : (0 : Int) < cfg.rate := by omega
    generalize hms : (remaining * 1000 + cfg.rate - 1).tdiv cfg.rate = ms at hwait
    rw [Int.tdiv_eq_ediv_of_nonneg (by omega)] at hms
    -- The milliseconds are rounded up, and fit into 32 bits.
    have hlower : ms * cfg.rate ≤ remaining * 1000 + cfg.rate - 1 := by
      rw [← hms]
      exact Int.ediv_mul_le _ (by omega)
    have hupper : remaining * 1000 + cfg.rate - 1 < (ms + 1) * cfg.rate := by
      rw [← hms]
      exact Int.lt_ediv_add_one_mul_self _ hrate'
    have hpos : 0 < ms := by
      by_contra hnot
      have := Int.mul_le_mul_of_nonneg_right (show ms + 1 ≤ 1 by omega) (Int.le_of_lt hrate')
      omega
    have hsmall : ms < 2 ^ 32 := by
      by_contra hnot
      have := Int.mul_le_mul_of_nonneg_right (show (2 : Int) ^ 32 ≤ ms by omega)
        (Int.le_of_lt hrate')
      omega
    have hmod : b.waitMs cfg now = ms.toNat := by
      rw [hwait, if_neg hover, Nat.mod_eq_of_lt (by omega)]
    rw [hmod, hready]
    refine ⟨⟨fun _ => by omega, fun _ => by omega⟩, fun horigin => (hready _).mpr ?_⟩
    have hpassed : cfg.frameNow now + remaining ≤ cfg.frameNow (now + ms * 10000) := by
      apply frameNow_add cfg horigin (Int.le_of_lt hpos)
      rw [Int.add_mul, Int.one_mul] at hupper
      omega
    rw [Int.toNat_of_nonneg (Int.le_of_lt hpos)]
    omega

/-! ## Runs -/

def early : Config :=
  { rate := 1000, channels := 1, packetFrames := 10, deviceFrames := 10, origin := 10000000 }

def wide : Config :=
  { rate := 1, channels := 1, packetFrames := 2 ^ 30, deviceFrames := 0, origin := 0 }

end

end Vibeshine.Audio
