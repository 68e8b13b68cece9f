import Vibeshine.PyroWave.Framing

/-! # FEC blocks of a frame

`plan_fec_blocks` of `pyrowave_policy.cpp`. Sums and products are taken in 64 bits; an unsigned
subtraction that would wrap has no result, so a plan that exists subtracted within bounds.
-/

namespace Vibeshine.PyroWave

open List
open Option (bind_eq_bind bind_some bind_eq_some_iff)

def maxFecBlocks : Nat := 4

def maxFecBlockShards : Nat := 1023

def maxReedSolomonShards : Nat := 255

def maxDetailFecPercentage : Int := 50

structure FecBlock where
  dataShards : Nat
  fecPercentage : Int
  deriving DecidableEq

/-- A `std::size_t`. -/
def size (n : Nat) : Nat := n % 2 ^ 64

def parityShards (dataShards : Nat) (fecPercentage : Int) (minParityShards : Nat) : Nat :=
  if fecPercentage ≤ 0 then 0
  else max (size (dataShards * fecPercentage.toNat + 99) / 100) minParityShards

def minus (a b : Nat) : Option Nat := if b ≤ a then some (a - b) else none

/-- `std::clamp`, which needs its bounds in order. -/
def clamp (value low high : Nat) : Option Nat :=
  if low ≤ high then some (max low (min value high)) else none

/-- `split`: unprotected blocks of even size. -/
def split (shards maxBlocks : Nat) : Option (List FecBlock) := do
  let count ← clamp (size (shards + maxReedSolomonShards - 1) / maxReedSolomonShards) 1 maxBlocks
  let perBlock := size (shards + count - 1) / count
  let last ← minus shards (size (perBlock * (count - 1)))
  return List.replicate (count - 1) ⟨perBlock, 0⟩ ++ [⟨last, 0⟩]

/-- `capacity`: the most data shards of a Reed-Solomon block, counted down from `data`. -/
def capacityFrom (percentage : Int) (minParityShards : Nat) : Nat → Nat
  | 0 => 0
  | data + 1 =>
    if size (data + 1 + parityShards (data + 1) percentage minParityShards) >
        maxReedSolomonShards then
      capacityFrom percentage minParityShards data
    else data + 1

variable (percentage : Int)

def capacity (minParityShards : Nat) : Nat :=
  capacityFrom percentage minParityShards maxReedSolomonShards

def evenBlocks (fine count : Nat) (percentage : Int) : List FecBlock :=
  (List.range count).map fun i =>
    ⟨fine / count + (if i < fine % count then 1 else 0), percentage⟩

def totalParity (minParityShards : Nat) (blocks : List FecBlock) : Nat :=
  (blocks.map fun block =>
    parityShards block.dataShards block.fecPercentage minParityShards).sum

def coverDetail (fine budget minParityShards : Nat) : Nat → Option (List FecBlock)
  | 0 => none
  | lower + 1 =>
    let percentage : Int := lower + 1
    let cap := capacity percentage minParityShards
    let count := size (fine + cap - 1) / cap
    let candidate := evenBlocks fine count percentage
    if cap = 0 then coverDetail fine budget minParityShards lower
    else if count > maxFecBlocks - 1 then coverDetail fine budget minParityShards lower
    else if size (totalParity minParityShards candidate) ≤ budget then some candidate
    else coverDetail fine budget minParityShards lower

/-- The critical block is extended shard by shard, for at most `fuel` shards. -/
def extendLeading (percentage : Int) (minParityShards baseParity budget cap : Nat) :
    Nat → Nat → Option Nat
  | 0, leading => some leading
  | fuel + 1, leading =>
    if leading < cap then do
      let extra ← minus (parityShards (leading + 1) percentage minParityShards) baseParity
      if extra ≤ budget then
        extendLeading percentage minParityShards baseParity budget cap fuel (leading + 1)
      else return leading
    else some leading

def affordable (percentage : Int) (minParityShards budget : Nat) : Nat → Nat
  | 0 => 0
  | data + 1 =>
    if parityShards (data + 1) percentage minParityShards > budget then
      affordable percentage minParityShards budget data
    else data + 1

def protectPrefixes (percentage : Int) (minParityShards cap : Nat) :
    Nat → List FecBlock → Nat → Nat → Option (List FecBlock × Nat)
  | 0, blocks, remaining, _ => some (blocks, remaining)
  | fuel + 1, blocks, remaining, budget =>
    if remaining ≠ 0 ∧ blocks.length < maxFecBlocks ∧ cap ≠ 0 then do
      let data := affordable percentage minParityShards budget (min remaining cap)
      let slotsAfter ← minus maxFecBlocks blocks.length
      let slotsAfter ← minus slotsAfter 1
      let rest ← minus remaining data
      if data = 0 ∨ rest > slotsAfter * maxFecBlockShards then return (blocks, remaining)
      else do
        let budget ← minus budget (parityShards data percentage minParityShards)
        protectPrefixes percentage minParityShards cap fuel (blocks ++ [⟨data, percentage⟩])
          rest budget
    else some (blocks, remaining)

def planPrefixes (totalShards critical : Nat) (criticalFecPercentage : Int)
    (minParityShards : Nat) (detailFecPercentage : Int) (budget : Nat) :
    Option (List FecBlock) := do
  let baseParity := parityShards critical criticalFecPercentage minParityShards
  let leadingCap := min totalShards (capacity criticalFecPercentage minParityShards)
  let leading ← extendLeading criticalFecPercentage minParityShards baseParity budget leadingCap
    leadingCap critical
  let spent ← minus (parityShards leading criticalFecPercentage minParityShards) baseParity
  let budget ← minus budget spent
  let remaining ← minus totalShards leading
  let cap := capacity detailFecPercentage minParityShards
  let (blocks, remaining) ← protectPrefixes detailFecPercentage minParityShards cap maxFecBlocks
    [⟨leading, criticalFecPercentage⟩] remaining budget
  if remaining ≠ 0 then do
    let slots ← minus maxFecBlocks blocks.length
    let rest ← split remaining slots
    return blocks ++ rest
  else return blocks

def protects (critical : Nat) (criticalFecPercentage : Int) (minParityShards : Nat) : Prop :=
  critical ≠ 0 ∧ criticalFecPercentage > 0 ∧
    size (critical + parityShards critical criticalFecPercentage minParityShards) ≤
      maxReedSolomonShards

instance (critical : Nat) (criticalFecPercentage : Int) (minParityShards : Nat) :
    Decidable (protects critical criticalFecPercentage minParityShards) :=
  inferInstanceAs (Decidable (_ ∧ _))

def planFecBlocks (totalShards criticalShards : Nat) (criticalFecPercentage : Int)
    (minParityShards : Nat) (detailFecPercentage : Int) (extraParityBudget : Nat) :
    Option (List FecBlock) :=
  if totalShards = 0 then some []
  else
    let critical := min criticalShards totalShards
    if ¬ protects critical criticalFecPercentage minParityShards then
      split totalShards maxFecBlocks
    else
      let front : FecBlock := ⟨critical, criticalFecPercentage⟩
      let detail := max 0 (min detailFecPercentage maxDetailFecPercentage)
      if detail > 0 ∧ extraParityBudget > 0 ∧ totalShards > critical then do
        let fine ← minus totalShards critical
        let budget := min extraParityBudget (parityShards fine detail 0)
        match coverDetail fine budget minParityShards detail.toNat with
        | some candidate => return front :: candidate
        | none =>
          planPrefixes totalShards critical criticalFecPercentage minParityShards detail budget
      else if totalShards > critical then do
        let fine ← minus totalShards critical
        let rest ← split fine (maxFecBlocks - 1)
        return front :: rest
      else some [front]

def maxFrameBytes (packetsize : Int) (criticalFec : Bool) : Nat :=
  if packetsize ≤ shardOverheadBytes then 0
  else min (if criticalFec then 3000 else 4000) (maxFecBlocks * maxFecBlockShards) *
    (packetsize - shardOverheadBytes).toNat - frameHeaderBytes

def frameShards (packetsize : Int) (frameBytes : Nat) : Nat :=
  (frameHeaderBytes + frameBytes + (packetsize - shardOverheadBytes).toNat - 1) / (packetsize - shardOverheadBytes).toNat

variable (minParity : Nat)

lemma size_eq {n : Nat} (h : n < 2 ^ 64) : size n = n := Nat.mod_eq_of_lt h

/-- The product of the parity of a block does not wrap. -/
lemma parityShards_eq {percentage : Int} (hint : percentage < 2 ^ 31) {data : Nat}
    (hdata : data ≤ 1023) (minParity : Nat) : parityShards data percentage minParity =
      if percentage ≤ 0 then 0 else max ((data * percentage.toNat + 99) / 100) minParity := by
  have hmul : data * percentage.toNat ≤ 1023 * 2 ^ 31 := Nat.mul_le_mul hdata (by omega)
  rw [parityShards, size_eq (by omega)]

lemma parityShards_mono {percentage : Int} (hint : percentage < 2 ^ 31) {data more : Nat}
    (h : data ≤ more) (hmore : more ≤ 1023) :
    parityShards data percentage minParity ≤ parityShards more percentage minParity := by
  rw [parityShards_eq hint (h.trans hmore), parityShards_eq hint hmore]
  split
  · exact le_rfl
  · have hmul : data * percentage.toNat ≤ more * percentage.toNat := Nat.mul_le_mul_right _ h
    omega

lemma parityShards_zero (data minParity : Nat) : parityShards data 0 minParity = 0 := rfl

def Fits (data : Nat) (percentage : Int) (minParity : Nat) : Prop :=
  data + parityShards data percentage minParity ≤ maxReedSolomonShards

lemma Fits.le_size {data minParity : Nat} {percentage : Int} (h : Fits data percentage minParity) :
    data ≤ 1023 := by
  unfold Fits maxReedSolomonShards at h
  omega

lemma capacityFrom_le (data : Nat) : capacityFrom percentage minParity data ≤ data := by
  induction data with
  | zero => exact le_rfl
  | succ data ih =>
    unfold capacityFrom
    split
    · exact Nat.le_succ_of_le ih
    · exact le_rfl

lemma capacity_le : capacity percentage minParity ≤ 255 :=
  capacityFrom_le percentage minParity maxReedSolomonShards

section

variable {percentage : Int} {minParity : Nat} (hint : percentage < 2 ^ 31)

include hint

lemma Fits.anti {data more : Nat} (hle : data ≤ more) (h : Fits more percentage minParity) :
    Fits data percentage minParity := by
  have := parityShards_mono minParity hint hle h.le_size
  unfold Fits at h ⊢
  omega

variable (hleast : minParity + 255 < 2 ^ 64)

include hleast

/-- The sum of a block of at most 255 data shards does not wrap. -/
lemma size_fits {data : Nat} (hdata : data ≤ 255) :
    size (data + parityShards data percentage minParity) ≤ maxReedSolomonShards ↔
      Fits data percentage minParity := by
  have hmul : data * percentage.toNat ≤ 255 * 2 ^ 31 := Nat.mul_le_mul hdata (by omega)
  have hsum : data + parityShards data percentage minParity < 2 ^ 64 := by
    rw [parityShards_eq hint (by omega)]
    split <;> omega
  rw [size_eq hsum, Fits]

lemma capacityFrom_spec {data : Nat} (hdata : data ≤ 255) :
    (capacityFrom percentage minParity data ≠ 0 →
        Fits (capacityFrom percentage minParity data) percentage minParity) ∧
      ∀ less ≤ data, Fits less percentage minParity →
        less ≤ capacityFrom percentage minParity data := by
  induction data with
  | zero => exact ⟨fun h => absurd rfl h, fun less hless _ => hless⟩
  | succ data ih =>
    obtain ⟨hfits, hmost⟩ := ih (Nat.le_of_succ_le hdata)
    unfold capacityFrom
    have hfit := size_fits hint hleast hdata
    split
    · next hover =>
      refine ⟨hfits, fun less hless hless' => ?_⟩
      rcases Nat.lt_succ_iff_lt_or_eq.mp (Nat.lt_succ_of_le hless) with hlt | rfl
      · exact hmost less (Nat.le_of_lt_succ hlt) hless'
      · exact absurd (hfit.mpr hless') (Nat.not_le_of_gt hover)
    · next hwithin =>
      exact ⟨fun _ => hfit.mp (Nat.le_of_not_gt hwithin), fun less hless _ => hless⟩

lemma capacity_fits {data : Nat} (h : data ≤ capacity percentage minParity) (hdata : data ≠ 0) :
    Fits data percentage minParity :=
  Fits.anti hint h ((capacityFrom_spec hint hleast le_rfl).1
    (Nat.ne_of_gt ((Nat.pos_of_ne_zero hdata).trans_le h)))

lemma le_capacity {data : Nat} (h : Fits data percentage minParity) :
    data ≤ capacity percentage minParity :=
  (capacityFrom_spec hint hleast le_rfl).2 data (le_trans (Nat.le_add_right _ _) h) h

end

/-! ## Parts of a plan -/

/-- Blocks that carry some shards. -/
structure Carries (minParity : Nat) (blocks : List FecBlock) (shards : Nat) : Prop where
  positive : ∀ block ∈ blocks, 0 < block.dataShards
  sum : (blocks.map FecBlock.dataShards).sum = shards
  fits : ∀ block ∈ blocks, block.fecPercentage ≠ 0 →
    Fits block.dataShards block.fecPercentage minParity

lemma Carries.append {minParity : Nat} {first second : List FecBlock} {shards more : Nat}
    (hfirst : Carries minParity first shards) (hsecond : Carries minParity second more) :
    Carries minParity (first ++ second) (shards + more) where
  positive := forall_mem_append.mpr ⟨hfirst.positive, hsecond.positive⟩
  sum := by rw [map_append, sum_append, hfirst.sum, hsecond.sum]
  fits := forall_mem_append.mpr ⟨hfirst.fits, hsecond.fits⟩

lemma Carries.single {minParity data : Nat} {percentage : Int} (hdata : 0 < data)
    (hfits : percentage ≠ 0 → Fits data percentage minParity) :
    Carries minParity [⟨data, percentage⟩] data where
  positive := forall_mem_singleton.mpr hdata
  sum := by simp
  fits := forall_mem_singleton.mpr hfits

lemma totalParity_append (first second : List FecBlock) : totalParity minParity (first ++ second) =
      totalParity minParity first + totalParity minParity second := by
  rw [totalParity, map_append, sum_append]
  rfl

lemma totalParity_singleton (minParity data : Nat) (percentage : Int) :
    totalParity minParity [⟨data, percentage⟩] = parityShards data percentage minParity := by
  simp [totalParity]

lemma totalParity_unprotected {minParity : Nat} {blocks : List FecBlock}
    (h : ∀ block ∈ blocks, block.fecPercentage = 0) : totalParity minParity blocks = 0 := by
  refine sum_eq_zero fun parity hmem => ?_
  obtain ⟨block, hblock, rfl⟩ := mem_map.mp hmem
  rw [h block hblock, parityShards_zero]

lemma Carries.totalParity_le {minParity shards : Nat} {blocks : List FecBlock}
    (h : Carries minParity blocks shards) : totalParity minParity blocks ≤ blocks.length * 255 := by
  refine (sum_le_card_nsmul _ 255 fun parity hmem => ?_).trans_eq (by simp)
  obtain ⟨block, hblock, rfl⟩ := mem_map.mp hmem
  by_cases hzero : block.fecPercentage = 0
  · rw [hzero, parityShards_zero]
    exact zero_le
  · exact (Nat.le_add_left _ _).trans (h.fits block hblock hzero)

lemma minus_of_le {a b : Nat} (h : b ≤ a) : minus a b = some (a - b) := if_pos h

lemma perBlock_bounds {shards count : Nat} (hcount : 1 ≤ count) (hfour : count ≤ 4)
    (hshards : 255 * (count - 1) < shards) :
    0 < (shards + count - 1) / count ∧ (shards + count - 1) / count * (count - 1) < shards ∧
      shards - (shards + count - 1) / count * (count - 1) ≤ (shards + count - 1) / count ∧
      (shards + count - 1) / count * count < shards + count := by
  interval_cases count <;> omega

lemma split_spec {shards slots : Nat} (hshards : 0 < shards) (hsize : shards + 254 < 2 ^ 64)
    (hslots : 1 ≤ slots) (hfour : slots ≤ 4) :
    ∃ blocks, split shards slots = some blocks ∧ Carries minParity blocks shards ∧
      1 ≤ blocks.length ∧ blocks.length ≤ slots ∧ (∀ block ∈ blocks, block.fecPercentage = 0) ∧
      (shards ≤ slots * 1023 → ∀ block ∈ blocks, block.dataShards ≤ 1023) := by
  obtain ⟨count, hcount⟩ : ∃ count, max 1 (min ((shards + maxReedSolomonShards - 1) /
      maxReedSolomonShards) slots) = count := ⟨_, rfl⟩
  have hlow : 1 ≤ count ∧ count ≤ slots ∧ 255 * (count - 1) < shards ∧
      (count < slots → shards ≤ 255 * count) := by
    unfold maxReedSolomonShards at hcount
    omega
  obtain ⟨hone, hcap, hmany, hfew⟩ := hlow
  obtain ⟨hpos, hrest, hlast, hround⟩ := perBlock_bounds hone (by omega) hmany
  generalize hper : (shards + count - 1) / count = perBlock at hpos hrest hlast hround
  have heq : split shards slots = some (List.replicate (count - 1) ⟨perBlock, 0⟩ ++
      [⟨shards - perBlock * (count - 1), 0⟩]) := by
    simp only [split, clamp, if_pos hslots, bind_eq_bind, bind_some,
      size_eq (show shards + maxReedSolomonShards - 1 < 2 ^ 64 by unfold maxReedSolomonShards; omega),
      hcount, size_eq (show shards + count - 1 < 2 ^ 64 by omega), hper,
      size_eq (show perBlock * (count - 1) < 2 ^ 64 by omega), minus_of_le (le_of_lt hrest),
      Option.pure_def]
  have hblocks : ∀ block ∈ List.replicate (count - 1) (⟨perBlock, 0⟩ : FecBlock) ++
      [⟨shards - perBlock * (count - 1), 0⟩],
      0 < block.dataShards ∧ block.dataShards ≤ perBlock ∧ block.fecPercentage = 0 := by
    intro block hmem
    rcases mem_append.mp hmem with hmem | hmem
    · rw [(mem_replicate.mp hmem).2]
      exact ⟨hpos, le_rfl, rfl⟩
    · rw [mem_singleton.mp hmem]
      exact ⟨by dsimp only; omega, hlast, rfl⟩
  refine ⟨_, heq, ⟨fun block hmem => (hblocks block hmem).1, ?_, fun block hmem hne => ?_⟩, ?_, ?_,
    fun block hmem => (hblocks block hmem).2.2, fun hlimit block hmem => ?_⟩
  · rw [map_append, sum_append, map_replicate, sum_replicate_nat,
      map_singleton, sum_singleton, mul_comm (count - 1)]
    dsimp only
    omega
  · exact absurd (hblocks block hmem).2.2 hne
  · simp
  · rw [length_append, length_replicate, length_singleton]
    omega
  · refine le_trans (hblocks block hmem).2.1 ?_
    -- fewer blocks than slots are of Reed-Solomon size
    have hbound : shards ≤ 1023 * count := by
      rcases Nat.lt_or_ge count slots with hless | hall
      · exact le_trans (hfew hless) (Nat.mul_le_mul_right count (by decide))
      · rw [le_antisymm hcap hall, mul_comm]
        exact hlimit
    refine Nat.le_of_lt_succ (Nat.lt_of_mul_lt_mul_right (a := count) ?_)
    rw [Nat.succ_mul]
    exact lt_of_lt_of_le hround (Nat.add_le_add_right hbound count)

/-! ## Covered detail -/

lemma even_sum (quotient remainder count : Nat) :
    ((List.range count).map fun i => quotient + if i < remainder then 1 else 0).sum =
      quotient * count + min remainder count := by
  induction count with
  | zero => simp
  | succ count ih =>
    rw [range_succ, map_append, sum_append, ih, map_singleton, sum_singleton, Nat.mul_succ]
    split <;> omega

lemma even_bounds {fine cap count : Nat} (hfine : 0 < fine) (hcap : cap ≠ 0)
    (hcount : (fine + cap - 1) / cap = count) (hthree : count ≤ 3) (i : Nat) :
    1 ≤ count ∧ 0 < fine / count ∧ fine / count + (if i < fine % count then 1 else 0) ≤ cap := by
  have hlow : cap * count ≤ fine + cap - 1 := by
    rw [← hcount]
    exact Nat.mul_div_le _ _
  have hhigh : fine + cap - 1 < cap * (count + 1) := by
    rw [← hcount]
    exact Nat.lt_mul_div_succ _ (Nat.pos_of_ne_zero hcap)
  have hone : 1 ≤ count := by
    by_contra hzero
    have : count = 0 := by omega
    subst this
    omega
  refine ⟨hone, ?_⟩
  split <;> interval_cases count <;> omega

lemma evenBlocks_carries {fine cap count minParity : Nat} {percentage : Int}
    (hint : percentage < 2 ^ 31) (hleast : minParity + 255 < 2 ^ 64) (hfine : 0 < fine)
    (hcap : capacity percentage minParity = cap) (hne : cap ≠ 0)
    (hcount : (fine + cap - 1) / cap = count) (hthree : count ≤ 3) :
    Carries minParity (evenBlocks fine count percentage) fine ∧
      ∀ block ∈ evenBlocks fine count percentage, block.dataShards ≤ 255 := by
  have hblock : ∀ block ∈ evenBlocks fine count percentage,
      0 < block.dataShards ∧ block.dataShards ≤ cap ∧ block.fecPercentage = percentage := by
    intro block hmem
    obtain ⟨i, -, rfl⟩ := mem_map.mp hmem
    obtain ⟨-, hpos, hle⟩ := even_bounds hfine hne hcount hthree i
    exact ⟨lt_of_lt_of_le hpos (Nat.le_add_right _ _), hle, rfl⟩
  have hcapacity := capacity_le percentage minParity
  refine ⟨⟨fun block hmem => (hblock block hmem).1, ?_, fun block hmem _ => ?_⟩,
    fun block hmem => le_trans (hblock block hmem).2.1 (by omega)⟩
  · have hone := (even_bounds hfine hne hcount hthree 0).1
    have hmod := Nat.mod_lt fine hone
    have hsum := even_sum (fine / count) (fine % count) count
    rw [min_eq_left (le_of_lt hmod), Nat.div_add_mod'] at hsum
    rw [evenBlocks, map_map]
    exact hsum
  · obtain ⟨hpos, hle, hsame⟩ := hblock block hmem
    rw [hsame]
    exact capacity_fits hint hleast (hcap ▸ hle) (Nat.ne_of_gt hpos)

lemma coverDetail_spec {fine budget minParity : Nat} (hfine : 0 < fine)
    (hsize : fine + 254 < 2 ^ 64) (hleast : minParity + 255 < 2 ^ 64) {percentage : Nat}
    (hint : (percentage : Int) < 2 ^ 31) {candidate : List FecBlock}
    (h : coverDetail fine budget minParity percentage = some candidate) :
    Carries minParity candidate fine ∧ candidate.length ≤ 3 ∧
      totalParity minParity candidate ≤ budget ∧ ∀ block ∈ candidate, block.dataShards ≤ 255 := by
  induction percentage with
  | zero => cases h
  | succ lower ih =>
    rw [Nat.cast_succ] at hint
    have ih := ih (by omega)
    have hcap := capacity_le (lower + 1 : Int) minParity
    unfold coverDetail at h
    dsimp only at h
    rw [size_eq (show fine + capacity (lower + 1 : Int) minParity - 1 < 2 ^ 64 by omega)] at h
    split at h
    · exact ih h
    · next hne =>
      split at h
      · exact ih h
      · next hthree =>
        split at h
        · next hbudget =>
          obtain rfl := Option.some.inj h
          have hcount := Nat.le_of_not_gt hthree
          obtain ⟨hcarries, hsmall⟩ := evenBlocks_carries hint hleast hfine rfl hne rfl hcount
          have hlength : (evenBlocks fine ((fine + capacity (lower + 1 : Int) minParity - 1) /
              capacity (lower + 1 : Int) minParity) (lower + 1 : Int)).length ≤ 3 := by
            rw [evenBlocks, length_map, length_range]
            exact hcount
          have hparity := hcarries.totalParity_le.trans (Nat.mul_le_mul_right 255 hlength)
          rw [size_eq (by omega)] at hbudget
          exact ⟨hcarries, hlength, hbudget, hsmall⟩
        · exact ih h

/-! ## Extended and prefixed plans -/

lemma extendLeading_spec {percentage : Int} (hint : percentage < 2 ^ 31)
    {minParity critical budget cap : Nat} (hsmall : cap ≤ 255) (fuel : Nat)
    {leading : Nat} (hleading : critical ≤ leading) (hcap : leading ≤ cap)
    (hspent : parityShards leading percentage minParity ≤
      parityShards critical percentage minParity + budget) :
    ∃ extended, extendLeading percentage minParity (parityShards critical percentage minParity)
        budget cap fuel leading = some extended ∧ critical ≤ extended ∧ extended ≤ cap ∧
      parityShards extended percentage minParity ≤
        parityShards critical percentage minParity + budget := by
  induction fuel generalizing leading with
  | zero => exact ⟨leading, rfl, hleading, hcap, hspent⟩
  | succ fuel ih =>
    unfold extendLeading
    split
    · next hless =>
      have hmono : parityShards critical percentage minParity ≤
          parityShards (leading + 1) percentage minParity :=
        parityShards_mono minParity hint (Nat.le_succ_of_le hleading) (by omega)
      simp only [minus_of_le hmono, bind_eq_bind, bind_some]
      split
      · exact ih (Nat.le_succ_of_le hleading) hless (by omega)
      · exact ⟨leading, rfl, hleading, hcap, hspent⟩
    · exact ⟨leading, rfl, hleading, hcap, hspent⟩

lemma affordable_spec (minParity budget data : Nat) :
    affordable percentage minParity budget data ≤ data ∧
      (affordable percentage minParity budget data ≠ 0 →
        parityShards (affordable percentage minParity budget data) percentage minParity ≤ budget) := by
  induction data with
  | zero => exact ⟨le_rfl, fun h => absurd rfl h⟩
  | succ data ih =>
    unfold affordable
    split
    · exact ⟨Nat.le_succ_of_le ih.1, ih.2⟩
    · next hwithin => exact ⟨le_rfl, fun _ => Nat.le_of_not_gt hwithin⟩

/-- What the prefix loop adds, and the slots it leaves for what remains. -/
structure Prefixed (minParity : Nat) (blocks : List FecBlock) (remaining budget : Nat)
    (result : List FecBlock × Nat) : Prop where
  added : ∃ more, result.1 = blocks ++ more ∧ Carries minParity more (remaining - result.2) ∧
    totalParity minParity more ≤ budget ∧ ∀ block ∈ more, block.dataShards ≤ 255
  rest : result.2 ≤ remaining
  length : result.1.length ≤ 4
  open_slot : result.2 ≠ 0 → result.1.length < 4
  slots : remaining ≤ (4 - blocks.length) * 1023 → result.2 ≤ (4 - result.1.length) * 1023

lemma Prefixed.nothing {minParity remaining : Nat} (budget : Nat) {blocks : List FecBlock}
    (hlength : blocks.length ≤ 4) (hslot : remaining ≠ 0 → blocks.length < 4) :
    Prefixed minParity blocks remaining budget (blocks, remaining) where
  added := ⟨[], (append_nil _).symm, ⟨fun _ h => (not_mem_nil h).elim,
    by simp, fun _ h => (not_mem_nil h).elim⟩, zero_le,
    fun _ h => (not_mem_nil h).elim⟩
  rest := le_rfl
  length := hlength
  open_slot := hslot
  slots := id

lemma Prefixed.cons {minParity remaining budget data : Nat} {percentage : Int}
    {blocks : List FecBlock} {result : List FecBlock × Nat} (hdata : 0 < data)
    (hle : data ≤ remaining) (hsmall : data ≤ 255) (hfits : Fits data percentage minParity)
    (hbudget : parityShards data percentage minParity ≤ budget)
    (hafter : remaining - data ≤ (4 - (blocks.length + 1)) * 1023)
    (h : Prefixed minParity (blocks ++ [⟨data, percentage⟩]) (remaining - data)
      (budget - parityShards data percentage minParity) result) :
    Prefixed minParity blocks remaining budget result := by
  obtain ⟨more, hmore, hcarries, hparity, hblocks⟩ := h.added
  have hrest := h.rest
  refine ⟨⟨⟨data, percentage⟩ :: more, ?_, ?_, ?_, ?_⟩, by omega, h.length, h.open_slot,
    fun _ => h.slots ?_⟩
  · rw [hmore, append_assoc]
    rfl
  · have hsum : remaining - result.2 = data + (remaining - data - result.2) := by omega
    rw [hsum]
    exact (Carries.single hdata fun _ => hfits).append hcarries
  · have happend := totalParity_append minParity [⟨data, percentage⟩] more
    rw [totalParity_singleton] at happend
    rw [← singleton_append, happend]
    omega
  · exact forall_mem_cons.mpr ⟨hsmall, hblocks⟩
  · rw [length_append]
    exact hafter

lemma protectPrefixes_spec {percentage : Int} {minParity : Nat} (hint : percentage < 2 ^ 31)
    (hleast : minParity + 255 < 2 ^ 64) (fuel : Nat) {blocks : List FecBlock} {remaining budget : Nat} (hlength : blocks.length ≤ 4)
    (hslot : remaining ≠ 0 → blocks.length < 4) :
    ∃ result, protectPrefixes percentage minParity (capacity percentage minParity) fuel blocks
        remaining budget = some result ∧ Prefixed minParity blocks remaining budget result := by
  induction fuel generalizing blocks remaining budget with
  | zero => exact ⟨_, rfl, .nothing budget hlength hslot⟩
  | succ fuel ih =>
    unfold protectPrefixes
    split
    · next hgo =>
      obtain ⟨hleft, hfour, -⟩ := hgo
      obtain ⟨hdata, hparity⟩ := affordable_spec percentage minParity budget
        (min remaining (capacity percentage minParity))
      generalize affordable percentage minParity budget
        (min remaining (capacity percentage minParity)) = data at hdata hparity
      have hcap := capacity_le percentage minParity
      unfold maxFecBlocks at hfour
      simp only [minus_of_le (show blocks.length ≤ maxFecBlocks from hlength),
        minus_of_le (show 1 ≤ maxFecBlocks - blocks.length by unfold maxFecBlocks; omega),
        minus_of_le (show data ≤ remaining by omega), bind_eq_bind, bind_some]
      split
      · exact ⟨_, rfl, .nothing budget hlength hslot⟩
      · next hprotect =>
        obtain ⟨hne, hafter⟩ := not_or.mp hprotect
        have hafter := Nat.le_of_not_gt hafter
        unfold maxFecBlocks maxFecBlockShards at hafter
        have hbudget := hparity hne
        simp only [minus_of_le hbudget, bind_some]
        obtain ⟨result, hresult, hspec⟩ := @ih (blocks ++ [⟨data, percentage⟩])
          (remaining - data) (budget - parityShards data percentage minParity)
          (by rw [length_append, length_singleton]; omega)
          (fun hne => by rw [length_append, length_singleton]; omega)
        refine ⟨result, hresult, hspec.cons (by omega) (by omega) (by omega)
          (capacity_fits hint hleast (by omega) hne) hbudget (by omega)⟩
    · exact ⟨_, rfl, .nothing budget hlength hslot⟩

/-- A plan whose critical block is protected. -/
structure Guarded (totalShards critical : Nat) (percentage : Int) (minParity budget : Nat)
    (blocks : List FecBlock) : Prop where
  carries : Carries minParity blocks totalShards
  length : blocks.length ≤ 4
  front : ∃ leading rest, blocks = ⟨leading, percentage⟩ :: rest ∧ critical ≤ leading
  parity : totalParity minParity blocks ≤ parityShards critical percentage minParity + budget
  small : totalShards ≤ critical + 3069 → ∀ block ∈ blocks, block.dataShards ≤ 1023

lemma planPrefixes_guarded {totalShards critical minParity : Nat} {percentage detail : Int}
    (hint : percentage < 2 ^ 31) (hdetail : detail < 2 ^ 31) (hsize : totalShards + 254 < 2 ^ 64)
    (hleast : minParity + 255 < 2 ^ 64) (budget : Nat) (hcritical : critical ≤ totalShards)
    (hne : critical ≠ 0) (hfits : Fits critical percentage minParity) :
    ∃ blocks, planPrefixes totalShards critical percentage minParity detail budget = some blocks ∧
      Guarded totalShards critical percentage minParity budget blocks := by
  have hcap := le_capacity hint hleast hfits
  have hlimit := capacity_le percentage minParity
  obtain ⟨leading, hextend, hlow, hhigh, hspent⟩ := extendLeading_spec hint
    (show min totalShards (capacity percentage minParity) ≤ 255 by omega)
    (min totalShards (capacity percentage minParity)) le_rfl
    (show critical ≤ min totalShards (capacity percentage minParity) by omega)
    (Nat.le_add_right (parityShards critical percentage minParity) budget)
  have hmono := parityShards_mono minParity hint hlow (by omega)
  obtain ⟨⟨blocks, remaining⟩, hprefixes, hspec⟩ := @protectPrefixes_spec detail minParity
    hdetail hleast maxFecBlocks [⟨leading, percentage⟩] (totalShards - leading)
    (budget - (parityShards leading percentage minParity -
      parityShards critical percentage minParity)) (by simp) (fun _ => by simp)
  obtain ⟨more, hmore, hcarries, hparity, hblocks⟩ := hspec.added
  have hrest := hspec.rest
  have hlength := hspec.length
  have hfront : Carries minParity [⟨leading, percentage⟩] leading :=
    .single (by omega) fun _ => capacity_fits hint hleast (by omega) (by omega)
  dsimp only at hmore hcarries hrest hlength
  have hplan : planPrefixes totalShards critical percentage minParity detail budget =
      if remaining ≠ 0 then
        (minus maxFecBlocks blocks.length).bind fun slots =>
          (split remaining slots).bind fun rest => some (blocks ++ rest)
      else some blocks := by
    simp only [planPrefixes, hextend, minus_of_le hmono,
      minus_of_le (show parityShards leading percentage minParity -
        parityShards critical percentage minParity ≤ budget by omega),
      minus_of_le (show leading ≤ totalShards by omega), hprefixes, bind_eq_bind,
      bind_some, Option.pure_def]
  have hsum : leading + (totalShards - leading - remaining) + remaining = totalShards := by omega
  have hboth : Carries minParity blocks (leading + (totalShards - leading - remaining)) :=
    hmore ▸ hfront.append hcarries
  have htotal : totalParity minParity blocks ≤
      parityShards critical percentage minParity + budget := by
    rw [hmore, totalParity_append, totalParity_singleton]
    omega
  have hsmall : ∀ block ∈ blocks, block.dataShards ≤ 1023 := by
    rw [hmore]
    refine forall_mem_append.mpr ⟨forall_mem_singleton.mpr ?_, fun block hmem => ?_⟩
    · dsimp only
      omega
    · exact le_trans (hblocks block hmem) (by decide)
  rw [hplan]
  split
  · next hleft =>
    have hslot := hspec.open_slot hleft
    dsimp only at hslot
    obtain ⟨rest, hsplit, hcarry, -, hslots, hzero, hfew⟩ := split_spec minParity
      (Nat.pos_of_ne_zero hleft) (show remaining + 254 < 2 ^ 64 by omega) (show 1 ≤ maxFecBlocks - blocks.length by
        unfold maxFecBlocks; omega) (by unfold maxFecBlocks; omega)
    unfold maxFecBlocks at hslots
    refine ⟨blocks ++ rest, ?_, ?_⟩
    · rw [minus_of_le (show blocks.length ≤ maxFecBlocks from hlength), bind_some, hsplit,
        bind_some]
    · refine ⟨hsum ▸ hboth.append hcarry, ?_, ⟨leading, more ++ rest, ?_, hlow⟩, ?_, fun hbound => ?_⟩
      · rw [length_append]
        omega
      · rw [hmore]
        rfl
      · rw [totalParity_append, totalParity_unprotected hzero]
        exact htotal
      · refine forall_mem_append.mpr ⟨hsmall, hfew (hspec.slots ?_)⟩
        simp only [length_singleton]
        omega
  · next hnone =>
    have hzero : remaining = 0 := not_not.mp hnone
    subst hzero
    exact ⟨blocks, rfl, hsum ▸ hboth, hlength, ⟨leading, more, hmore, hlow⟩, htotal,
      fun _ => hsmall⟩

/-- The sums of the planner fit in 64 bits; the percentage is an `int`. -/
structure Sums (totalShards criticalShards : Nat) (percentage : Int) (minParity : Nat) : Prop where
  int : percentage < 2 ^ 31
  total : totalShards + 254 < 2 ^ 64
  critical : min criticalShards totalShards +
    parityShards (min criticalShards totalShards) percentage minParity < 2 ^ 64
  least : minParity + 255 < 2 ^ 64

lemma planFecBlocks_cases {totalShards criticalShards minParity : Nat} {percentage : Int}
    (htotal : 0 < totalShards) (hsums : Sums totalShards criticalShards percentage minParity)
    (detail : Int) (extra : Nat) :
    ∃ blocks, planFecBlocks totalShards criticalShards percentage minParity detail extra =
        some blocks ∧
      ((Carries minParity blocks totalShards ∧ 1 ≤ blocks.length ∧ blocks.length ≤ 4 ∧
          (∀ block ∈ blocks, block.fecPercentage = 0) ∧
          (totalShards ≤ 4092 → ∀ block ∈ blocks, block.dataShards ≤ 1023)) ∨ 0 < percentage ∧
          Guarded totalShards (min criticalShards totalShards) percentage minParity extra
            blocks) := by
  obtain ⟨hint, hsize, hsum, hleast⟩ := hsums
  unfold planFecBlocks
  rw [if_neg (Nat.ne_of_gt htotal)]
  dsimp only
  split
  · obtain ⟨blocks, hsplit, hcarries, hone, hfour, hzero, hsmall⟩ := split_spec minParity htotal
      hsize (show 1 ≤ maxFecBlocks by decide) le_rfl
    exact ⟨blocks, hsplit, .inl ⟨hcarries, hone, hfour, hzero, hsmall⟩⟩
  · next hprotects =>
    have hprotects := not_not.mp hprotects
    have hcritical : min criticalShards totalShards ≤ totalShards := min_le_right _ _
    generalize min criticalShards totalShards = critical at hprotects hcritical hsum
    obtain ⟨hne, hpos, hfits⟩ := hprotects
    rw [size_eq hsum] at hfits
    have hfront : Carries minParity [⟨critical, percentage⟩] critical :=
      .single (Nat.pos_of_ne_zero hne) fun _ => hfits
    have hfrontSmall : critical ≤ 1023 := by
      unfold maxReedSolomonShards at hfits
      omega
    have hbase := totalParity_singleton minParity critical percentage
    split
    · next hdetail =>
      have hfine : 0 < totalShards - critical := by omega
      simp only [minus_of_le hcritical, bind_eq_bind, bind_some]
      split
      · next candidate hcover =>
        obtain ⟨hcarries, hthree, hparity, hsmall⟩ := coverDetail_spec hfine (by omega) hleast
          (by unfold maxDetailFecPercentage; omega) hcover
        refine ⟨_, rfl, .inr ⟨hpos, ?_⟩⟩
        have hsum : critical + (totalShards - critical) = totalShards := by omega
        refine ⟨hsum ▸ hfront.append hcarries, ?_, ⟨critical, candidate, rfl, le_rfl⟩, ?_,
          fun _ => ?_⟩
        · rw [length_cons]
          omega
        · rw [← singleton_append, totalParity_append, hbase]
          omega
        · exact forall_mem_cons.mpr ⟨hfrontSmall,
            fun block hmem => le_trans (hsmall block hmem) (by decide)⟩
      · obtain ⟨blocks, hplan, hguarded⟩ := planPrefixes_guarded hint
          (show max 0 (min detail maxDetailFecPercentage) < 2 ^ 31 by
            unfold maxDetailFecPercentage; omega) hsize hleast
          (min extra (parityShards (totalShards - critical)
            (max 0 (min detail maxDetailFecPercentage)) 0)) hcritical hne hfits
        refine ⟨blocks, hplan, .inr ⟨hpos, { hguarded with parity := ?_ }⟩⟩
        have := hguarded.parity
        omega
    · split
      · next hmore =>
        obtain ⟨rest, hsplit, hcarries, -, hthree, hzero, hsmall⟩ := split_spec minParity
          (show 0 < totalShards - critical by omega) (by omega)
          (show 1 ≤ maxFecBlocks - 1 by decide) (by decide)
        unfold maxFecBlocks at hthree hsmall
        simp only [minus_of_le hcritical, bind_eq_bind, bind_some, hsplit]
        refine ⟨_, rfl, .inr ⟨hpos, ?_⟩⟩
        have hsum : critical + (totalShards - critical) = totalShards := by omega
        refine ⟨hsum ▸ hfront.append hcarries, ?_, ⟨critical, rest, rfl, le_rfl⟩, ?_,
          fun hbound => ?_⟩
        · rw [length_cons]
          omega
        · rw [← singleton_append, totalParity_append, hbase, totalParity_unprotected hzero]
          omega
        · exact forall_mem_cons.mpr ⟨hfrontSmall, hsmall (by omega)⟩
      · next hall =>
        have hsame : critical = totalShards := by omega
        refine ⟨_, rfl, .inr ⟨hpos, hsame ▸ hfront, by simp, ⟨critical, [], rfl, le_rfl⟩,
          ?_, fun _ => forall_mem_singleton.mpr hfrontSmall⟩⟩
        rw [hbase]
        exact Nat.le_add_right _ _

/-! ## Percentages -/

def Within (limit : Int) (blocks : List FecBlock) : Prop :=
  ∀ block ∈ blocks, 0 ≤ block.fecPercentage ∧ block.fecPercentage ≤ limit

lemma split_within {limit : Int} (hlimit : 0 ≤ limit) {shards slots : Nat}
    {blocks : List FecBlock} (h : split shards slots = some blocks) : Within limit blocks := by
  simp only [split, bind_eq_bind, bind_eq_some_iff, Option.pure_def, Option.some.injEq] at h
  obtain ⟨count, -, last, -, rfl⟩ := h
  refine forall_mem_append.mpr ⟨fun block hmem => ?_, ?_⟩
  · rw [(mem_replicate.mp hmem).2]
    exact ⟨Int.le_refl 0, hlimit⟩
  · exact forall_mem_singleton.mpr ⟨Int.le_refl 0, hlimit⟩

lemma coverDetail_within {fine budget minParity percentage : Nat} {candidate : List FecBlock}
    (h : coverDetail fine budget minParity percentage = some candidate) :
    Within percentage candidate := by
  induction percentage with
  | zero => cases h
  | succ lower ih =>
    have hweaker : Within lower candidate → Within (lower + 1 : Nat) candidate :=
      fun hwithin block hmem => ⟨(hwithin block hmem).1, by
        have := (hwithin block hmem).2
        omega⟩
    unfold coverDetail at h
    dsimp only at h
    split at h
    · exact hweaker (ih h)
    · split at h
      · exact hweaker (ih h)
      · split at h
        · obtain rfl := Option.some.inj h
          intro block hmem
          obtain ⟨i, -, rfl⟩ := mem_map.mp hmem
          exact ⟨by dsimp only; omega, by dsimp only; omega⟩
        · exact hweaker (ih h)

lemma protectPrefixes_within {limit percentage : Int} (hlow : 0 ≤ percentage)
    (hhigh : percentage ≤ limit) {minParity cap : Nat} (fuel : Nat) {blocks : List FecBlock}
    {remaining budget : Nat} {result : List FecBlock × Nat} (hblocks : Within limit blocks)
    (h : protectPrefixes percentage minParity cap fuel blocks remaining budget = some result) :
    Within limit result.1 := by
  induction fuel generalizing blocks remaining budget with
  | zero =>
    obtain rfl := Option.some.inj h
    exact hblocks
  | succ fuel ih =>
    unfold protectPrefixes at h
    split at h
    · simp only [bind_eq_bind, bind_eq_some_iff] at h
      obtain ⟨_, -, _, -, _, -, h⟩ := h
      split at h
      · obtain rfl := Option.some.inj h
        exact hblocks
      · simp only [bind_eq_some_iff] at h
        obtain ⟨_, -, h⟩ := h
        refine ih (forall_mem_append.mpr ⟨hblocks, ?_⟩) h
        exact forall_mem_singleton.mpr ⟨hlow, hhigh⟩
    · obtain rfl := Option.some.inj h
      exact hblocks

lemma planPrefixes_within {limit percentage detail : Int} (hpct : 0 ≤ percentage)
    (hlimit : percentage ≤ limit) (hdetail : 0 ≤ detail) (hdetailLimit : detail ≤ limit)
    {totalShards critical minParity budget : Nat} {blocks : List FecBlock}
    (h : planPrefixes totalShards critical percentage minParity detail budget = some blocks) :
    Within limit blocks := by
  simp only [planPrefixes, bind_eq_bind, bind_eq_some_iff] at h
  obtain ⟨leading, -, _, -, _, -, _, -, result, hprefixes, h⟩ := h
  have hfront : Within limit [⟨leading, percentage⟩] :=
    forall_mem_singleton.mpr ⟨hpct, hlimit⟩
  have hresult := protectPrefixes_within hdetail hdetailLimit maxFecBlocks hfront hprefixes
  split at h
  · simp only [bind_eq_some_iff, Option.pure_def, Option.some.injEq] at h
    obtain ⟨_, -, rest, hrest, rfl⟩ := h
    exact forall_mem_append.mpr
      ⟨hresult, split_within (Int.le_trans hpct hlimit) hrest⟩
  · obtain rfl := Option.some.inj h
    exact hresult

lemma planFecBlocks_within {totalShards criticalShards minParity extra : Nat}
    {percentage detail limit : Int} (hpct : percentage ≤ limit) (hlimit : 50 ≤ limit)
    {blocks : List FecBlock}
    (h : planFecBlocks totalShards criticalShards percentage minParity detail extra = some blocks) :
    Within limit blocks := by
  have hzero : (0 : Int) ≤ limit := Int.le_trans (by decide) hlimit
  unfold planFecBlocks at h
  split at h
  · obtain rfl := Option.some.inj h
    exact fun block hmem => (not_mem_nil hmem).elim
  dsimp only at h
  split at h
  · exact split_within hzero h
  · next hprotects =>
    have hpos := (not_not.mp hprotects).2.1
    have hfront : 0 ≤ percentage ∧ percentage ≤ limit := ⟨by omega, hpct⟩
    have hdetail : 0 ≤ max 0 (min detail maxDetailFecPercentage) ∧
        max 0 (min detail maxDetailFecPercentage) ≤ limit := by
      unfold maxDetailFecPercentage
      omega
    split at h
    · simp only [bind_eq_bind, bind_eq_some_iff] at h
      obtain ⟨_, -, h⟩ := h
      split at h
      · next candidate hcover =>
        obtain rfl := Option.some.inj h
        refine forall_mem_cons.mpr ⟨hfront, fun block hmem => ?_⟩
        obtain ⟨hlow, hhigh⟩ := coverDetail_within hcover block hmem
        exact ⟨hlow, by omega⟩
      · exact planPrefixes_within hfront.1 hfront.2 hdetail.1 hdetail.2 h
    · split at h
      · simp only [bind_eq_bind, bind_eq_some_iff, Option.pure_def, Option.some.injEq] at h
        obtain ⟨_, -, rest, hrest, rfl⟩ := h
        exact forall_mem_cons.mpr ⟨hfront, split_within hzero hrest⟩
      · obtain rfl := Option.some.inj h
        exact forall_mem_singleton.mpr hfront

lemma frameShards_le {packetsize : Int} {frameBytes : Nat} {criticalFec : Bool}
    (hframe : 0 < frameBytes) (h : frameBytes ≤ maxFrameBytes packetsize criticalFec) :
    0 < frameShards packetsize frameBytes ∧
      frameShards packetsize frameBytes ≤ if criticalFec then 3000 else 4000 := by
  unfold maxFrameBytes at h
  split at h
  · omega
  · next hpacket =>
    have hpayload : 0 < (packetsize - shardOverheadBytes).toNat := by omega
    unfold frameShards
    generalize (packetsize - shardOverheadBytes).toNat = payload at h hpayload ⊢
    refine ⟨Nat.div_pos (by omega) hpayload, ?_⟩
    have hshards : min (if criticalFec = true then 3000 else 4000)
        (maxFecBlocks * maxFecBlockShards) = if criticalFec = true then 3000 else 4000 := by
      cases criticalFec <;> rfl
    rw [hshards] at h
    refine Nat.le_of_lt_succ (Nat.div_lt_of_lt_mul ?_)
    rw [Nat.mul_succ, mul_comm payload]
    unfold frameHeaderBytes at *
    have hroom : 8 ≤ (if criticalFec = true then 3000 else 4000) * payload := by
      refine le_trans ?_ (Nat.mul_le_mul_left _ hpayload)
      cases criticalFec <;> decide
    omega

/-- Where its sums fit in 64 bits, a plan subtracts within bounds and gives one to four
non-empty blocks of all the shards, each protected one of Reed-Solomon size; a protected first
block has the critical shards, and the rest of the parity is in the budget; and every block fits
the 10-bit shard index when the shards do, so for every frame within `max_frame_bytes`. -/
theorem fec_plan_sound :
    (∀ (totalShards criticalShards : Nat) (percentage : Int) (minParity : Nat) (detail : Int)
      (extra : Nat), 0 < totalShards → Sums totalShards criticalShards percentage minParity →
      ∃ blocks, planFecBlocks totalShards criticalShards percentage minParity detail extra =
          some blocks ∧
        1 ≤ blocks.length ∧ blocks.length ≤ 4 ∧ (∀ block ∈ blocks, 0 < block.dataShards) ∧
        (blocks.map FecBlock.dataShards).sum = totalShards ∧
        (∀ block ∈ blocks, block.fecPercentage ≠ 0 → block.dataShards +
          parityShards block.dataShards block.fecPercentage minParity ≤ 255) ∧
        (∀ first ∈ blocks.head?, first.fecPercentage ≠ 0 →
          min criticalShards totalShards ≤ first.dataShards ∧ totalParity minParity blocks ≤
            parityShards (min criticalShards totalShards) percentage minParity + extra) ∧
        ((totalShards ≤ 4092 ∧ ∀ block ∈ blocks, block.fecPercentage = 0) ∨
            (totalShards ≤ criticalShards + 3069 ∧ ∃ first ∈ blocks.head?, first.fecPercentage ≠ 0) →
          ∀ block ∈ blocks, block.dataShards ≤ 1023)) ∧
    ∀ (packetsize : Int) (frameBytes criticalShards : Nat) (percentage : Int) (minParity : Nat)
      (detail : Int) (extra : Nat), 0 < frameBytes →
      frameBytes ≤ maxFrameBytes packetsize (0 < percentage) →
      Sums (frameShards packetsize frameBytes) criticalShards percentage minParity →
      ∃ blocks, planFecBlocks (frameShards packetsize frameBytes) criticalShards percentage
          minParity detail extra = some blocks ∧ ∀ block ∈ blocks, block.dataShards ≤ 1023 := by
  constructor
  · intro totalShards criticalShards percentage minParity detail extra htotal hsums
    obtain ⟨blocks, hplan, hcases⟩ := planFecBlocks_cases htotal hsums detail extra
    refine ⟨blocks, hplan, ?_⟩
    rcases hcases with ⟨hcarries, hone, hfour, hzero, hsmall⟩ | ⟨hpos, hguarded⟩
    · refine ⟨hone, hfour, hcarries.positive, hcarries.sum, hcarries.fits, fun first hfirst hne => ?_,
        fun hbound => hsmall ?_⟩
      · exact absurd (hzero first (mem_of_mem_head? hfirst)) hne
      · rcases hbound with hbound | ⟨-, first, hfirst, hne⟩
        · exact hbound.1
        · exact absurd (hzero first (mem_of_mem_head? hfirst)) hne
    · obtain ⟨leading, rest, rfl, hleading⟩ := hguarded.front
      refine ⟨by simp, hguarded.length, hguarded.carries.positive, hguarded.carries.sum,
        hguarded.carries.fits, fun first hfirst _ => ?_, fun hbound => hguarded.small ?_⟩
      · obtain rfl : _ = first := Option.mem_some_iff.mp hfirst
        exact ⟨hleading, hguarded.parity⟩
      · rcases hbound with ⟨-, hzero⟩ | hbound
        · have hfirst : percentage = 0 := hzero _ mem_cons_self
          omega
        · have := hbound.1
          omega
  · intro packetsize frameBytes criticalShards percentage minParity detail extra hframe hbytes hsums
    obtain ⟨htotal, hshards⟩ := frameShards_le hframe hbytes
    obtain ⟨blocks, hplan, hcases⟩ := planFecBlocks_cases htotal hsums detail extra
    refine ⟨blocks, hplan, ?_⟩
    rcases hcases with ⟨-, -, -, -, hsmall⟩ | ⟨hpos, hguarded⟩
    · exact hsmall (by split at hshards <;> omega)
    · rw [if_pos (decide_eq_true hpos)] at hshards
      exact hguarded.small (by omega)

/-- A frame of 100000 bytes in packets of 1392, with 40 critical shards. -/
theorem fec_plan_sound_frame : frameShards 1392 100000 = 73 ∧
      (∃ blocks, planFecBlocks 73 40 20 2 10 30 = some blocks ∧ 1 ≤ blocks.length) ∧
      ∃ blocks, planFecBlocks (frameShards 1392 100000) 40 20 2 10 30 = some blocks ∧
        ∀ block ∈ blocks, block.dataShards ≤ 1023 := by
  obtain ⟨hplans, hframes⟩ := fec_plan_sound
  have hsums : Sums 73 40 20 2 := ⟨by decide, by decide, by decide, by decide⟩
  refine ⟨by decide, ?_, hframes 1392 100000 40 20 2 10 30 (by decide) (by decide) hsums⟩
  obtain ⟨blocks, hplan, hone, -⟩ := hplans 73 40 20 2 10 30 (by decide) hsums
  exact ⟨blocks, hplan, hone⟩

/-- A sum that wraps loses the detail of a frame, or takes a parity that no Reed-Solomon block
has for one that fits. -/
theorem fec_plan_wraps : (planFecBlocks (2 ^ 64 - 1) 10 20 2 10 1 = some [⟨10, 20⟩] ∧
      ([⟨10, 20⟩].map FecBlock.dataShards).sum ≠ 2 ^ 64 - 1) ∧
      planFecBlocks 10 10 20 (2 ^ 64 - 5) 0 0 = some [⟨10, 20⟩] ∧
      255 < 10 + parityShards 10 20 (2 ^ 64 - 5) := by
  decide +kernel

end Vibeshine.PyroWave
