import Mathlib.Tactic.Ring

/-! # Continuous loopback audio

`continuous_buffer_t`: a circular buffer of the frames from the output cursor on. Frames
that the cursor leaves behind are cleared. Times are in ticks of 100 nanoseconds.
-/

namespace Vibeshine.Audio

def ticksPerSecond : Int := 10000000

structure Config where
  rate : Nat
  channels : Nat
  packetFrames : Nat
  deviceFrames : Nat
  origin : Int

namespace Config

variable (cfg : Config)

def marginFrames : Nat := (2 * cfg.deviceFrames + cfg.packetFrames) % 2 ^ 32

def maxBacklog : Nat := max (2 * cfg.deviceFrames % 2 ^ 32) (4 * cfg.packetFrames % 2 ^ 32)

def capacity : Nat := max cfg.rate (4 * (cfg.deviceFrames + cfg.packetFrames) % 2 ^ 32)

/-- `frame_at`: the frame nearest to the ticks. -/
def frameAt (ticks : Int) : Int :=
  let seconds := ticks.tdiv ticksPerSecond
  let remainder := ticks.tmod ticksPerSecond
  let scaled := remainder * cfg.rate
  seconds * cfg.rate +
    (scaled + if scaled < 0 then (-ticksPerSecond).tdiv 2 else ticksPerSecond.tdiv 2).tdiv
      ticksPerSecond

def frameNow (now : Int) : Int := cfg.frameAt (max now cfg.origin - cfg.origin)

def slot (frame : Int) : Nat := (frame % cfg.capacity).toNat * cfg.channels

end Config

def storeFrame {α : Type} (samples : Nat → α) (start : Nat) (values : Nat → α) : Nat → Nat → α
  | 0 => samples
  | channel + 1 =>
    Function.update (storeFrame samples start values channel) (start + channel) (values channel)

def storeFrames {α : Type} (cfg : Config) (samples : Nat → α) (first : Int)
    (values : Int → Nat → α) : Nat → Nat → α
  | 0 => samples
  | count + 1 =>
    storeFrame (storeFrames cfg samples first values count) (cfg.slot (first + count))
      (values (first + count)) cfg.channels

/-- The cursor and the samples, of which there are `capacity * channels`. -/
structure Buffer (α : Type) where
  cursor : Int := 0
  samples : Nat → α

section

variable {α : Type} [Zero α]

def Buffer.empty : Buffer α := { samples := fun _ => 0 }

namespace Buffer

variable (cfg : Config) (b : Buffer α)

def retire (next : Int) : Buffer α :=
  { cursor := next
    samples :=
      if next - b.cursor ≥ cfg.capacity then fun _ => 0
      else storeFrames cfg b.samples b.cursor (fun _ _ => 0) (next - b.cursor).toNat }

variable (now : Int)

def advance : Buffer α :=
  let frontier := cfg.frameNow now - cfg.marginFrames
  if frontier - b.cursor > cfg.maxBacklog then
    b.retire cfg (max b.cursor (frontier - cfg.packetFrames))
  else b

/-- `put`; the samples of the packet are those from `data` on. -/
def put (timestamp : Int) (frames : Nat) (data : Nat → α) (silent : Bool) : Buffer α × Bool :=
  if timestamp < 0 || timestamp < cfg.origin - ticksPerSecond then (b, false)
  else
    let first := cfg.frameAt (timestamp - cfg.origin)
    let last := first + frames
    if last ≤ b.cursor then (b, true)
    else if first > b.cursor + cfg.capacity || last > b.cursor + cfg.capacity then (b, false)
    else
      let skip := max 0 (b.cursor - first)
      ({ b with
        samples := storeFrames cfg b.samples (first + skip)
          (fun frame channel =>
            if silent then 0 else data ((frame - first).toNat * cfg.channels + channel))
          (last - (first + skip)).toNat }, true)

def ready : Bool :=
  cfg.frameNow now ≥ b.cursor + cfg.packetFrames + cfg.marginFrames

def waitMs : Nat :=
  let remaining := b.cursor + cfg.packetFrames + cfg.marginFrames - cfg.frameNow now
  if remaining ≤ 0 then 0 else ((remaining * 1000 + cfg.rate - 1).tdiv cfg.rate).toNat % 2 ^ 32

/-- `take`, for an output of the given size. -/
def take (size : Nat) : Buffer α × Option (List α) :=
  if size ≠ cfg.packetFrames * cfg.channels || !b.ready cfg now then (b, none)
  else
    (b.retire cfg (b.cursor + cfg.packetFrames),
      some ((List.range cfg.packetFrames).flatMap fun (frame : Nat) =>
        (List.range cfg.channels).map fun channel =>
          b.samples (cfg.slot (b.cursor + frame) + channel)))

end Buffer

end

lemma frameAt_eq (cfg : Config) {ticks : Int} (h : 0 ≤ ticks) :
    cfg.frameAt ticks = (ticks * cfg.rate + 5000000) / 10000000 := by
  have hremainder : 0 ≤ ticks % 10000000 := Int.emod_nonneg ticks (by decide)
  have hscaled : 0 ≤ ticks % 10000000 * (cfg.rate : Int) :=
    Int.mul_nonneg hremainder (Int.natCast_nonneg _)
  have hsplit : ticks * cfg.rate + 5000000 =
      ticks % 10000000 * cfg.rate + 5000000 + ticks / 10000000 * cfg.rate * 10000000 := by
    have := Int.emod_add_mul_ediv ticks 10000000
    calc ticks * cfg.rate + 5000000
        = (ticks % 10000000 + 10000000 * (ticks / 10000000)) * cfg.rate + 5000000 := by rw [this]
      _ = _ := by ring
  unfold Config.frameAt ticksPerSecond
  rw [Int.tdiv_eq_ediv_of_nonneg h, Int.tmod_eq_emod_of_nonneg h]
  dsimp only
  rw [if_neg (Int.not_lt.mpr hscaled), hsplit, Int.add_mul_ediv_right _ _ (by decide)]
  have hhalf : (10000000 : Int).tdiv 2 = 5000000 := by decide
  rw [hhalf, Int.tdiv_eq_ediv_of_nonneg (by omega), Int.add_comm]

lemma frameAt_mono (cfg : Config) {earlier later : Int} (hearlier : 0 ≤ earlier)
    (h : earlier ≤ later) : cfg.frameAt earlier ≤ cfg.frameAt later := by
  rw [frameAt_eq cfg hearlier, frameAt_eq cfg (hearlier.trans h)]
  have := Int.mul_le_mul_of_nonneg_right h (Int.natCast_nonneg cfg.rate)
  exact Int.ediv_le_ediv (by decide) (by omega)

lemma frameNow_mono (cfg : Config) {earlier later : Int} (h : earlier ≤ later) :
    cfg.frameNow earlier ≤ cfg.frameNow later := by
  unfold Config.frameNow
  exact frameAt_mono cfg (by omega) (by omega)

lemma frameNow_add (cfg : Config) {now remaining ms : Int} (hnow : cfg.origin ≤ now)
    (hms : 0 ≤ ms) (h : remaining * 1000 ≤ ms * cfg.rate) :
    cfg.frameNow now + remaining ≤ cfg.frameNow (now + ms * 10000) := by
  unfold Config.frameNow
  rw [Int.max_eq_left hnow, Int.max_eq_left (by omega), frameAt_eq cfg (by omega),
    frameAt_eq cfg (by omega), ← Int.add_mul_ediv_right _ _ (by decide)]
  apply Int.ediv_le_ediv (by decide)
  have hsplit : (now + ms * 10000 - cfg.origin) * cfg.rate =
      (now - cfg.origin) * cfg.rate + ms * cfg.rate * 10000 := by ring
  rw [hsplit]
  omega

/-! ## Slots -/

lemma eq_of_slot_eq {n a b c d : Nat} (hc : c < n) (hd : d < n) (h : a * n + c = b * n + d) :
    a = b ∧ c = d := by
  have ha : (a * n + c) / n = a := by
    rw [Nat.mul_comm, Nat.mul_add_div (Nat.zero_lt_of_lt hc), Nat.div_eq_of_lt hc, Nat.add_zero]
  have hb : (b * n + d) / n = b := by
    rw [Nat.mul_comm, Nat.mul_add_div (Nat.zero_lt_of_lt hc), Nat.div_eq_of_lt hd, Nat.add_zero]
  obtain rfl : a = b := by rw [← ha, h, hb]
  exact ⟨rfl, Nat.add_left_cancel h⟩

lemma frame_eq_of_slot_eq {cfg : Config} {f g : Int} {c d : Nat} (hcapacity : 0 < cfg.capacity)
    (hc : c < cfg.channels) (hd : d < cfg.channels) (hfg : f - g < cfg.capacity)
    (hgf : g - f < cfg.capacity) (h : cfg.slot f + c = cfg.slot g + d) : f = g ∧ c = d := by
  obtain ⟨hslot, rfl⟩ := eq_of_slot_eq hc hd h
  refine ⟨?_, rfl⟩
  have hf := Int.emod_nonneg f (b := (cfg.capacity : Int)) (by omega)
  have hg := Int.emod_nonneg g (b := (cfg.capacity : Int)) (by omega)
  have hmod : f % (cfg.capacity : Int) = g % (cfg.capacity : Int) := by omega
  have hdvd : (cfg.capacity : Int) ∣ f - g :=
    Int.dvd_of_emod_eq_zero (Int.emod_eq_emod_iff_emod_sub_eq_zero.mp hmod)
  have hzero := Int.eq_zero_of_dvd_of_natAbs_lt_natAbs hdvd (by omega)
  omega

lemma storeFrame_apply {α : Type} (samples : Nat → α) (start : Nat) (values : Nat → α)
    (count i : Nat) : storeFrame samples start values count i =
      if start ≤ i ∧ i < start + count then values (i - start) else samples i := by
  induction count with
  | zero => rw [storeFrame, if_neg (by omega)]
  | succ count ih =>
    rw [storeFrame]
    by_cases hi : i = start + count
    · rw [hi, Function.update_self, if_pos (by omega), Nat.add_sub_cancel_left]
    · rw [Function.update_of_ne hi, ih]
      by_cases hinside : start ≤ i ∧ i < start + count
      · rw [if_pos hinside, if_pos (by omega)]
      · rw [if_neg hinside, if_neg (by omega)]

lemma storeFrames_apply {α : Type} {cfg : Config} (hcapacity : 0 < cfg.capacity)
    (samples : Nat → α) (first : Int) (values : Int → Nat → α) {count : Nat} {frame : Int}
    {channel : Nat} (hchannel : channel < cfg.channels) (hafter : frame - first < cfg.capacity)
    (hbefore : first + count - frame ≤ cfg.capacity) :
    storeFrames cfg samples first values count (cfg.slot frame + channel) =
      if first ≤ frame ∧ frame < first + count then values frame channel
      else samples (cfg.slot frame + channel) := by
  induction count with
  | zero => rw [storeFrames, if_neg (by omega)]
  | succ count ih =>
    rw [storeFrames, storeFrame_apply]
    by_cases hframe : frame = first + count
    · rw [hframe, if_pos (by omega), Nat.add_sub_cancel_left, if_pos (by omega)]
    · have hother : ¬ (cfg.slot (first + count) ≤ cfg.slot frame + channel ∧
          cfg.slot frame + channel < cfg.slot (first + count) + cfg.channels) := by
        rintro ⟨hfrom, hto⟩
        refine hframe (frame_eq_of_slot_eq (d := cfg.slot frame + channel -
          cfg.slot (first + count)) hcapacity hchannel (by omega) (by omega) (by omega)
          (by omega)).1
      rw [if_neg hother, ih (by omega)]
      by_cases hinside : first ≤ frame ∧ frame < first + count
      · rw [if_pos hinside, if_pos (by omega)]
      · rw [if_neg hinside, if_neg (by omega)]

end Vibeshine.Audio
