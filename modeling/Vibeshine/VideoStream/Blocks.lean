import Vibeshine.VideoStream.Packetize

/-! # Blocks of a frame that is not PyroWave

The sizes of `standardBlocks` in shards: the payload of a sensible packet size has shards
that are all full but the last, and the last one is longer than a packet header, so the
split by bytes is the even split of the shards.
-/

namespace Vibeshine.VideoStream

open Library PyroWave List

/-- The blocks that `shards` data shards need. -/
def neededBlocks (fecPercentage shards : Nat) : Nat :=
  (shards + maxDataShards fecPercentage - 1) / maxDataShards fecPercentage

def blockCount (fecPercentage shards : Nat) : Nat :=
  if neededBlocks fecPercentage shards > maxFecBlocks then maxFecBlocks
  else neededBlocks fecPercentage shards

def blockPercentage (fecPercentage shards : Nat) : Nat :=
  if neededBlocks fecPercentage shards > maxFecBlocks then 0 else fecPercentage

def blockShards (fecPercentage shards : Nat) : Nat :=
  (shards + blockCount fecPercentage shards - 1) / blockCount fecPercentage shards

variable {fecPercentage shards : Nat}

lemma maxDataShards_bounds (hpct : fecPercentage ≤ 255) :
    71 ≤ maxDataShards fecPercentage ∧ maxDataShards fecPercentage ≤ 255 := by
  unfold maxDataShards maxReedSolomonShards
  constructor
  · rw [Nat.le_div_iff_mul_le (by omega)]
    omega
  · exact Nat.div_le_of_le_mul (by omega)

lemma maxDataShards_le (hpct : 1 ≤ fecPercentage) : maxDataShards fecPercentage ≤ 252 :=
  Nat.div_le_div_left (a := maxReedSolomonShards * 100) (show 101 ≤ 100 + fecPercentage by omega)
    (by decide)

lemma parity_fits {data : Nat} (h : data ≤ maxDataShards fecPercentage) :
    data + (data * fecPercentage + 99) / 100 ≤ 255 := by
  have hmul : data * (100 + fecPercentage) ≤ 255 * 100 :=
    le_trans (Nat.mul_le_mul_right _ h) (Nat.div_mul_le_self _ _)
  rw [mul_add] at hmul
  omega

lemma ceilDiv_bounds {x b : Nat} (hb : 0 < b) :
    x ≤ (x + b - 1) / b * b ∧ (x + b - 1) / b * b < x + b := by
  have hlow := Nat.div_mul_le_self (x + b - 1) b
  have hhigh : x + b - 1 < ((x + b - 1) / b + 1) * b := by
    rw [mul_comm]
    exact Nat.lt_mul_div_succ _ hb
  rw [Nat.succ_mul] at hhigh
  omega

section

variable (hpct : fecPercentage ≤ 255)

include hpct

section

variable (hshards : 0 < shards)

include hshards

lemma blockCount_bounds :
    1 ≤ blockCount fecPercentage shards ∧ blockCount fecPercentage shards ≤ 4 ∧
      71 * (blockCount fecPercentage shards - 1) < shards ∧ (neededBlocks fecPercentage shards ≤ 4 →
        shards ≤ blockCount fecPercentage shards * maxDataShards fecPercentage) := by
  obtain ⟨hlow, -⟩ := maxDataShards_bounds hpct
  obtain ⟨henough, hleast⟩ := ceilDiv_bounds (show 0 < maxDataShards fecPercentage by omega)
    (x := shards)
  unfold blockCount neededBlocks maxFecBlocks
  generalize (shards + maxDataShards fecPercentage - 1) / maxDataShards fecPercentage = needed
    at henough hleast ⊢
  have hpos : 0 < needed := by
    rcases Nat.eq_zero_or_pos needed with rfl | hpos
    · omega
    · exact hpos
  -- the shards before the last block are at least 71 for each block
  have hmany : ∀ count, count + 1 ≤ needed → 71 * count < shards := by
    intro count hcount
    have hmul : (count + 1) * maxDataShards fecPercentage ≤
        needed * maxDataShards fecPercentage := Nat.mul_le_mul_right _ hcount
    have hleast : 71 * count ≤ count * maxDataShards fecPercentage := by
      rw [mul_comm]
      exact Nat.mul_le_mul_left _ hlow
    rw [Nat.succ_mul] at hmul
    omega
  split
  · next hover => exact ⟨by decide, by decide, hmany 3 (by omega), fun hle => absurd hle (by omega)⟩
  · next hwithin => exact ⟨hpos, by omega, hmany (needed - 1) (by omega), fun _ => henough⟩

lemma blockShards_bounds : 0 < blockShards fecPercentage shards ∧
      shards ≤ blockShards fecPercentage shards * blockCount fecPercentage shards ∧
      blockShards fecPercentage shards * blockCount fecPercentage shards <
        shards + blockCount fecPercentage shards ∧
      (blockCount fecPercentage shards - 1) * blockShards fecPercentage shards < shards := by
  obtain ⟨hone, hfour, hmany, -⟩ := blockCount_bounds hpct hshards
  obtain ⟨henough, hleast⟩ := ceilDiv_bounds hone (x := shards)
  unfold blockShards
  generalize blockCount fecPercentage shards = count at *
  generalize (shards + count - 1) / count = each at *
  refine ⟨?_, henough, hleast, ?_⟩
  · rcases Nat.eq_zero_or_pos each with rfl | hpos
    · omega
    · exact hpos
  · interval_cases count <;> omega

lemma blockShards_le_max (hneeded : neededBlocks fecPercentage shards ≤ 4) :
    blockShards fecPercentage shards ≤ maxDataShards fecPercentage := by
  obtain ⟨-, -, -, henough⟩ := blockCount_bounds hpct hshards
  obtain ⟨-, -, hleast, -⟩ := blockShards_bounds hpct hshards
  refine Nat.le_of_lt_succ (Nat.lt_of_mul_lt_mul_right
    (a := blockCount fecPercentage shards) ?_)
  rw [Nat.succ_mul, mul_comm (maxDataShards fecPercentage)]
  exact lt_of_lt_of_le hleast (Nat.add_le_add_right (henough hneeded) _)

end

end

lemma count_in_bytes {size shards blocksize each count : Nat} (hshards : 0 < shards)
    (heach : 0 < each * blocksize) (hlow : (shards - 1) * blocksize + 32 < size)
    (hhigh : size ≤ shards * blocksize) (henough : shards ≤ count * each)
    (hleast : count * each < shards + each) :
    (size + each * blocksize - 1) / (each * blocksize) = count := by
  refine ceilDiv_eq heach ?_ ?_
  · have hmul := Nat.mul_le_mul_right blocksize henough
    rw [mul_assoc] at hmul
    exact le_trans hhigh hmul
  · have hmul : count * each * blocksize ≤ (shards - 1 + each) * blocksize :=
      Nat.mul_le_mul_right _ (by omega)
    rw [mul_assoc, add_mul] at hmul
    omega

lemma each_in_bytes {size shards blocksize each count : Nat} (hcount : 1 ≤ count)
    (hfour : count ≤ 4) (hblock : 32 < blocksize) (heach : 0 < each)
    (hlow : (shards - 1) * blocksize + 32 < size) (hhigh : size ≤ shards * blocksize)
    (henough : shards ≤ each * count) (hleast : each * count < shards + count) :
    (size / count + blocksize - 1) / blocksize = each := by
  refine ceilDiv_eq (by omega) ?_ ?_
  · refine Nat.div_le_of_le_mul ?_
    have hmul := Nat.mul_le_mul_right blocksize henough
    rw [Nat.mul_right_comm, mul_comm _ count] at hmul
    exact le_trans hhigh hmul
  · obtain ⟨less, rfl⟩ : ∃ less, each = less + 1 := ⟨each - 1, by omega⟩
    have hpassed : less * blocksize + 8 ≤ size / count := by
      rw [Nat.le_div_iff_mul_le (by omega)]
      have hmul : less * count * blocksize ≤ (shards - 1) * blocksize := by
        refine Nat.mul_le_mul_right _ ?_
        rw [Nat.succ_mul] at hleast
        omega
      rw [add_mul, Nat.mul_right_comm]
      omega
    rw [Nat.succ_mul]
    omega

lemma offset_in_payload {size shards blocksize each count x : Nat} (hx : x < count)
    (hlow : (shards - 1) * blocksize + 32 < size) (hbefore : (count - 1) * each < shards) :
    x * (each * blocksize) < size := by
  have hmul : x * each * blocksize ≤ (shards - 1) * blocksize := by
    have hless : x * each ≤ (count - 1) * each :=
      Nat.mul_le_mul_right each (Nat.le_sub_one_of_lt hx)
    exact Nat.mul_le_mul_right _ (by omega)
  rw [← mul_assoc]
  omega

/-- The slice of block `x` when each block has `each` bytes. -/
def blockSlice (payload : Bytes) (count each x : Nat) : Bytes :=
  if x = count - 1 then payload.drop (x * each) else (payload.drop (x * each)).take each

/-- A payload of some shards, each but the last of the block size and the last longer than
a packet header. -/
structure Sharded (payload : Bytes) (shards blocksize : Nat) : Prop where
  positive : 0 < shards
  wide : 32 < blocksize
  low : (shards - 1) * blocksize + 32 < payload.length
  high : payload.length ≤ shards * blocksize
  vector : payload.length < 2 ^ 63

lemma quotient_rounded {size each count : Nat} (heach : 0 < each) (hsmall : each < 2 ^ 31)
    (hsize : size < 2 ^ 63) (h : (size + each - 1) / each = count) :
    quotient ((size + toSize ((each : Int) - 1)) % 2 ^ 64) (toSize each) = some count := by
  rw [toSize_of_nonneg (by omega) (by omega), toSize_of_nonneg (by omega) (by omega),
    Nat.mod_eq_of_lt (by omega), quotient, if_neg (by omega), ← h, Int.toNat_natCast]
  congr 2
  omega

lemma standardBlocks_eq {blocksize : Nat} {payload : Bytes} (hpct : fecPercentage ≤ 255)
    (h : Sharded payload shards blocksize)
    (hint : maxDataShards fecPercentage * blocksize < 2 ^ 31) :
    standardBlocks blocksize fecPercentage payload =
      some ((List.range (blockCount fecPercentage shards)).map fun x =>
        (blockSlice payload (blockCount fecPercentage shards)
          (blockShards fecPercentage shards * blocksize) x,
          blockPercentage fecPercentage shards)) := by
  obtain ⟨hmax, -⟩ := maxDataShards_bounds hpct
  obtain ⟨hone, hfour, -, -⟩ := blockCount_bounds hpct h.positive
  obtain ⟨heach, henough, hleast, hbefore⟩ := blockShards_bounds hpct h.positive
  have hpos : 0 < maxDataShards fecPercentage := lt_of_lt_of_le (by decide) hmax
  obtain ⟨hneeded, hneededLeast⟩ := ceilDiv_bounds hpos (x := shards)
  have hwide : 0 < blocksize := lt_of_lt_of_le (by decide) (le_of_lt h.wide)
  have hmaxPos := Nat.mul_pos hpos hwide
  have hblockInt : blocksize < 2 ^ 31 :=
    lt_of_le_of_lt (Nat.le_mul_of_pos_left _ hpos) hint
  have hmaxInt : int (maxDataShards fecPercentage * blocksize) =
      some ((maxDataShards fecPercentage * blocksize : Nat) : Int) := by
    rw [← Nat.cast_mul]
    exact int_of_lt (Int.natCast_nonneg _) (by exact_mod_cast hint)
  have hfirst : quotient _ _ = some (neededBlocks fecPercentage shards) :=
    quotient_rounded hmaxPos hint h.vector
      (count_in_bytes h.positive hmaxPos h.low h.high hneeded hneededLeast)
  have hsecond : quotient payload.length (blockCount fecPercentage shards) =
      some (payload.length / blockCount fecPercentage shards) := if_neg (Nat.ne_of_gt hone)
  have hdivLt := lt_of_le_of_lt
    (Nat.div_le_self payload.length (blockCount fecPercentage shards)) h.vector
  have hrounded := each_in_bytes hone hfour h.wide heach h.low h.high henough hleast
  have hthird := quotient_rounded hwide hblockInt hdivLt hrounded
  have haligned : blockShards fecPercentage shards * blocksize < 2 ^ 64 := by
    have hbound := (ceilDiv_bounds hwide
      (x := payload.length / blockCount fecPercentage shards)).2
    rw [hrounded] at hbound
    exact lt_trans hbound (Nat.add_lt_add hdivLt (lt_trans hblockInt (by decide)))
  have hoffset : ∀ x < blockCount fecPercentage shards,
      x * (blockShards fecPercentage shards * blocksize) % 2 ^ 64 =
          x * (blockShards fecPercentage shards * blocksize) ∧
        x * (blockShards fecPercentage shards * blocksize) < payload.length := by
    intro x hx
    have hinside := offset_in_payload hx h.low hbefore
    exact ⟨Nat.mod_eq_of_lt (lt_trans hinside (lt_trans h.vector (by decide))), hinside⟩
  have hblocksize : toSize (blocksize : Int) = blocksize := by
    rw [toSize_of_nonneg (Int.natCast_nonneg _)
      (by exact_mod_cast lt_trans hblockInt (by decide)), Int.toNat_natCast]
  simp only [standardBlocks, hmaxInt, Option.bind_eq_bind, Option.bind_some, hfirst]
  change (quotient payload.length (blockCount fecPercentage shards)).bind _ = _
  rw [hsecond, Option.bind_some, hthird, Option.bind_some, hblocksize, Nat.mod_eq_of_lt haligned]
  refine (if_pos fun x hx => ?_).trans (congrArg some (map_congr_left fun x hx => ?_))
  · obtain ⟨hmod, hinside⟩ := hoffset x hx
    rw [hmod]
    exact le_of_lt hinside
  · rw [(hoffset x (mem_range.mp hx)).1]
    rfl

variable {blocksize : Nat}

lemma dataShards_eq (hwide : 0 < blocksize) (length : Nat) :
    length / blocksize + (if length % blocksize ≠ 0 then 1 else 0) =
      (length + blocksize - 1) / blocksize := by
  symm
  have hdiv := Nat.div_add_mod' length blocksize
  have hmod := Nat.mod_lt length hwide
  split
  · next hrest =>
    refine ceilDiv_eq hwide ?_ ?_ <;> rw [Nat.succ_mul] <;> omega
  · next hnone =>
    rw [not_not] at hnone
    refine ceilDiv_eq hwide ?_ ?_ <;> rw [add_zero] <;> omega

/-- The parity of `data` shards. -/
def parityOf (minParity data fecPercentage : Nat) : Nat :=
  if (data * fecPercentage + 99) / 100 < minParity ∧ fecPercentage ≠ 0 then minParity
  else (data * fecPercentage + 99) / 100

/-- The percentage of `data` shards. -/
def percentageOf (minParity data fecPercentage : Nat) : Nat :=
  if (data * fecPercentage + 99) / 100 < minParity ∧ fecPercentage ≠ 0 then 100 * minParity / data
  else fecPercentage

def encodedOf (blocksize minParity : Nat) (block : Bytes) (fecPercentage : Nat) : Encoded :=
  { block := block
    dataShards := (chunks blocksize block).length
    parityShards := parityOf minParity (chunks blocksize block).length fecPercentage
    percentage := percentageOf minParity (chunks blocksize block).length fecPercentage
    data := (chunks blocksize block).map (padTo blocksize) }

lemma encode_eq (hwide : 0 < blocksize) (minParity : Nat) {block : Bytes} (hblock : block ≠ [])
    (fecPercentage : Nat) : encode blocksize minParity block fecPercentage =
      some (encodedOf blocksize minParity block fecPercentage) := by
  have hne : blocksize ≠ 0 := Nat.ne_of_gt hwide
  have hcount := (dataShards_eq hwide block.length).trans (chunks_length blocksize block).symm
  have hsome : (chunks blocksize block).length ≠ 0 := by
    rw [chunks_cons hwide hblock, length_cons]
    exact Nat.succ_ne_zero _
  simp only [encode, remainder, quotient, if_neg hne, Option.bind_eq_bind, Option.bind_some, hcount,
    if_neg hsome, encodedOf, parityOf, percentageOf, Option.pure_def]
  split <;> rfl

lemma chunks_blockSlice {payload : Bytes} {count each x : Nat} (hwide : 0 < blocksize) :
    chunks blocksize (blockSlice payload count (each * blocksize) x) =
      if x = count - 1 then (chunks blocksize payload).drop (x * each)
      else ((chunks blocksize payload).drop (x * each)).take each := by
  unfold blockSlice
  rw [← mul_assoc]
  split
  · exact chunks_drop hwide _ _
  · rw [chunks_take hwide, chunks_drop hwide]

lemma blockSlice_ne_nil {payload : Bytes} {count each x : Nat} (heach : 0 < each)
    (hinside : x * each < payload.length) : blockSlice payload count each x ≠ [] := by
  have hdrop : payload.drop (x * each) ≠ [] := fun hnil =>
    Nat.not_le_of_gt hinside (drop_eq_nil_iff.mp hnil)
  unfold blockSlice
  split
  · exact hdrop
  · rw [Ne, take_eq_nil_iff, not_or]
    exact ⟨Nat.ne_of_gt heach, hdrop⟩

/-! ## Safety -/

variable {packetsize minRequiredFecPackets : Int} {info : FrameInfo} {frame : Bytes}

def encodedBlocks (packetsize minRequiredFecPackets : Int) (fecPercentage : Nat) (info : FrameInfo)
    (frame : Bytes) : List Encoded :=
  let shards := (pieces packetsize info frame).length
  let blocksize := (packetsize + 16).toNat
  (List.range (blockCount fecPercentage shards)).map fun x =>
    encodedOf blocksize (minParity minRequiredFecPackets)
      (blockSlice (pieces packetsize info frame).flatten (blockCount fecPercentage shards)
        (blockShards fecPercentage shards * blocksize) x)
      (blockPercentage fecPercentage shards)

section

variable (hpacket : 16 < packetsize)

include hpacket

lemma pieces_sharded (hvector : (pieces packetsize info frame).flatten.length < 2 ^ 63) :
    Sharded (pieces packetsize info frame).flatten (pieces packetsize info frame).length
      (packetsize + 16).toNat := by
  obtain ⟨hpositive, hlow, hhigh⟩ := @pieces_flatten_length packetsize info frame hpacket
  exact ⟨hpositive, by omega, hlow, hhigh, hvector⟩

lemma packetize_eq (hpct : fecPercentage ≤ 255)
    (hvector : (pieces packetsize info frame).flatten.length < 2 ^ 63)
    (hint : maxDataShards fecPercentage * (packetsize + 16).toNat < 2 ^ 31) :
    packetize packetsize minRequiredFecPackets fecPercentage info frame =
      some (encodedBlocks packetsize minRequiredFecPackets fecPercentage info frame) := by
  have hsharded := pieces_sharded hpacket hvector
  obtain ⟨hmax, -⟩ := maxDataShards_bounds hpct
  obtain ⟨heach, -, -, hbefore⟩ := blockShards_bounds hpct hsharded.positive
  have hwide : 0 < (packetsize + 16).toNat := lt_trans (by decide) hsharded.wide
  have hblockInt : (packetsize + 16).toNat < 2 ^ 31 :=
    lt_of_le_of_lt (Nat.le_mul_of_pos_left _ (lt_of_lt_of_le (by decide) hmax)) hint
  have hcast : ((packetsize + 16).toNat : Int) = packetsize + 16 := by omega
  have hblocks := standardBlocks_eq hpct hsharded hint
  rw [hcast] at hblocks
  have hsize : toSize (packetsize + 16) = (packetsize + 16).toNat :=
    toSize_of_nonneg (by omega) (by omega)
  unfold packetize
  rw [framePayload_eq hpacket (by omega), if_pos (show _ < maxVectorSize from hvector)]
  simp only [Option.bind_eq_bind, Option.bind_some, hblocks, hsize, encodedBlocks]
  rw [mapM_some (g := fun block => encodedOf (packetsize + 16).toNat
    (minParity minRequiredFecPackets) block.1 block.2), map_map]
  · rfl
  · intro block hmem
    obtain ⟨x, hx, rfl⟩ := mem_map.mp hmem
    refine encode_eq hwide _ (blockSlice_ne_nil (Nat.mul_pos heach hwide) ?_) _
    exact offset_in_payload (mem_range.mp hx) hsharded.low hbefore

lemma encodedBlocks_data (hpct : fecPercentage ≤ 255) {encoded : Encoded}
    (hmem : encoded ∈ encodedBlocks packetsize minRequiredFecPackets fecPercentage info frame) :
    encoded.dataShards ≤ blockShards fecPercentage (pieces packetsize info frame).length ∧
      encoded.parityShards = parityOf (minParity minRequiredFecPackets) encoded.dataShards
        (blockPercentage fecPercentage (pieces packetsize info frame).length) ∧
      encoded.percentage = percentageOf (minParity minRequiredFecPackets) encoded.dataShards
        (blockPercentage fecPercentage (pieces packetsize info frame).length) := by
  have hwide : 0 < (packetsize + 16).toNat := by omega
  obtain ⟨hpositive, -, -⟩ := @pieces_flatten_length packetsize info frame hpacket
  obtain ⟨-, henough, -, -⟩ := blockShards_bounds hpct hpositive
  obtain ⟨hone, -, -, -⟩ := blockCount_bounds hpct hpositive
  obtain ⟨x, hx, rfl⟩ := mem_map.mp hmem
  refine ⟨?_, rfl, rfl⟩
  simp only [encodedOf]
  rw [chunks_blockSlice hwide, (pieces_chunked hpacket).chunks_flatten hwide]
  split
  · next hlast =>
    -- the last block has what the others leave
    subst hlast
    rw [length_drop, Nat.sub_mul, one_mul]
    rw [mul_comm] at henough
    omega
  · rw [length_take]
    exact min_le_left _ _

lemma encodedBlocks_first (hpct : fecPercentage ≤ 255) :
    ∃ encoded ∈ encodedBlocks packetsize minRequiredFecPackets fecPercentage info frame,
      encoded.dataShards = blockShards fecPercentage (pieces packetsize info frame).length := by
  have hwide : 0 < (packetsize + 16).toNat := by omega
  obtain ⟨hpositive, -, -⟩ := @pieces_flatten_length packetsize info frame hpacket
  obtain ⟨hone, -, -, -⟩ := blockCount_bounds hpct hpositive
  obtain ⟨heach, henough, hleast, hbefore⟩ := blockShards_bounds hpct hpositive
  refine ⟨_, mem_map.mpr ⟨0, mem_range.mpr hone, rfl⟩, ?_⟩
  simp only [encodedOf]
  rw [chunks_blockSlice hwide, (pieces_chunked hpacket).chunks_flatten hwide, zero_mul, drop_zero]
  generalize blockCount fecPercentage (pieces packetsize info frame).length = count at *
  generalize blockShards fecPercentage (pieces packetsize info frame).length = each at *
  split
  · next hlast =>
    obtain rfl : count = 1 := by omega
    omega
  · next hmore =>
    rw [length_take, min_eq_left]
    have hmul : 1 * each ≤ (count - 1) * each := Nat.mul_le_mul_right _ (by omega)
    omega

end

lemma minParity_le_parityOf {minimum data : Nat} (hpct : fecPercentage ≠ 0) :
    minimum ≤ parityOf minimum data fecPercentage := by
  unfold parityOf
  split
  · exact le_rfl
  · next hmet =>
    by_contra hless
    exact hmet ⟨Nat.lt_of_not_le hless, hpct⟩

lemma percentageOf_ne_zero {minimum data : Nat} (hdata : 0 < data)
    (hpct : fecPercentage ≠ 0) : percentageOf minimum data fecPercentage ≠ 0 := by
  unfold percentageOf
  split
  · next hraised =>
    have hless : data * fecPercentage + 99 < 100 * minimum := by
      have := hraised.1
      omega
    have hmul : data * 1 ≤ data * fecPercentage :=
      Nat.mul_le_mul_left _ (Nat.one_le_iff_ne_zero.mpr hpct)
    exact Nat.ne_of_gt (Nat.div_pos (by omega) hdata)
  · exact hpct

/-- The packetization has a result of one to four blocks, none empty, and every protected
block is of Reed-Solomon size. -/
def Safe (packetsize minRequiredFecPackets : Int) (fecPercentage : Nat) (info : FrameInfo)
    (frame : Bytes) : Prop :=
  ∃ encoded, packetize packetsize minRequiredFecPackets fecPercentage info frame = some encoded ∧
    1 ≤ encoded.length ∧ encoded.length ≤ 4 ∧
    ∀ block ∈ encoded, block.block ≠ [] ∧
      (block.percentage ≠ 0 → block.dataShards + block.parityShards ≤ 255)

lemma pieces_length_eq_frameShards :
    (pieces packetsize info frame).length = frameShards packetsize frame.length := by
  rw [pieces_length, frameShards, add_comm frame.length]
  rfl

section

variable (hpacket : 16 < packetsize)

include hpacket

lemma encodedBlocks_block (hpct : fecPercentage ≤ 255) {encoded : Encoded}
    (hmem : encoded ∈ encodedBlocks packetsize minRequiredFecPackets fecPercentage info frame) :
    encoded.block ≠ [] ∧ 0 < encoded.dataShards := by
  have hwide : 0 < (packetsize + 16).toNat := by omega
  obtain ⟨hpositive, hlow, -⟩ := @pieces_flatten_length packetsize info frame hpacket
  obtain ⟨heach, -, -, hbefore⟩ := blockShards_bounds hpct hpositive
  obtain ⟨x, hx, rfl⟩ := mem_map.mp hmem
  have hne := @blockSlice_ne_nil _ (blockCount fecPercentage
    (pieces packetsize info frame).length) _ _ (Nat.mul_pos heach hwide)
    (offset_in_payload (mem_range.mp hx) hlow hbefore)
  refine ⟨hne, ?_⟩
  simp only [encodedOf]
  rw [chunks_cons hwide hne]
  exact Nat.succ_pos _

lemma encodedBlocks_small_iff (hpct : 1 ≤ fecPercentage) (hlimit : fecPercentage ≤ 255) :
    (∀ block ∈ encodedBlocks packetsize minRequiredFecPackets fecPercentage info frame,
        block.percentage ≠ 0 → block.dataShards + block.parityShards ≤ 255) ↔
      4 < neededBlocks fecPercentage (pieces packetsize info frame).length ∨
        blockShards fecPercentage (pieces packetsize info frame).length +
          minParity minRequiredFecPackets ≤ 255 := by
  obtain ⟨hpositive, -, -⟩ := @pieces_flatten_length packetsize info frame hpacket
  by_cases hskip : 4 < neededBlocks fecPercentage (pieces packetsize info frame).length
  · refine ⟨fun _ => .inl hskip, fun _ block hmem hne => ?_⟩
    obtain ⟨-, -, hpercent⟩ := encodedBlocks_data hpacket hlimit hmem
    have hzero : blockPercentage fecPercentage (pieces packetsize info frame).length = 0 :=
      if_pos hskip
    rw [hpercent, hzero, percentageOf, if_neg fun hboth => hboth.2 rfl] at hne
    exact absurd rfl hne
  · have hkeep : blockPercentage fecPercentage (pieces packetsize info frame).length =
        fecPercentage := if_neg hskip
    constructor
    · intro hsmall
      obtain ⟨first, hmem, hdata⟩ := @encodedBlocks_first fecPercentage packetsize
        minRequiredFecPackets info frame hpacket hlimit
      obtain ⟨-, hparity, hpercent⟩ := encodedBlocks_data hpacket hlimit hmem
      have hdataPos := (encodedBlocks_block hpacket hlimit hmem).2
      rw [hkeep] at hparity hpercent
      have hbound := hsmall first hmem (by
        rw [hpercent]
        exact percentageOf_ne_zero hdataPos (by omega))
      have hminimum := @minParity_le_parityOf fecPercentage (minParity minRequiredFecPackets)
        first.dataShards (by omega)
      rw [← hparity] at hminimum
      exact .inr (by omega)
    · intro hroom block hmem _
      have hroom := hroom.resolve_left hskip
      obtain ⟨hdata, hparity, -⟩ := encodedBlocks_data hpacket hlimit hmem
      have hshare := blockShards_le_max hlimit hpositive (Nat.le_of_not_lt hskip)
      have hfits := parity_fits (le_trans hdata hshare)
      rw [hkeep] at hparity
      rw [hparity, parityOf]
      split
      · omega
      · exact hfits

lemma safe_iff_room (hpct : 1 ≤ fecPercentage) (hlimit : fecPercentage ≤ 255)
    (hvector : (pieces packetsize info frame).flatten.length < 2 ^ 63)
    (hint : maxDataShards fecPercentage * (packetsize + 16).toNat < 2 ^ 31) :
    Safe packetsize minRequiredFecPackets fecPercentage info frame ↔
      4 < neededBlocks fecPercentage (pieces packetsize info frame).length ∨
        blockShards fecPercentage (pieces packetsize info frame).length +
          minParity minRequiredFecPackets ≤ 255 := by
  have hresult := @packetize_eq fecPercentage packetsize minRequiredFecPackets info frame hpacket
    hlimit hvector hint
  obtain ⟨hpositive, -, -⟩ := @pieces_flatten_length packetsize info frame hpacket
  obtain ⟨hone, hfour, -, -⟩ := blockCount_bounds hlimit hpositive
  have hlength : (encodedBlocks packetsize minRequiredFecPackets fecPercentage info frame).length =
      blockCount fecPercentage (pieces packetsize info frame).length := by
    rw [encodedBlocks, length_map, length_range]
  rw [← @encodedBlocks_small_iff fecPercentage packetsize minRequiredFecPackets info frame hpacket
    hpct hlimit]
  constructor
  · rintro ⟨encoded, hencoded, -, -, hblocks⟩ block hmem
    obtain rfl : _ = encoded := Option.some.inj (hresult.symm.trans hencoded)
    exact (hblocks block hmem).2
  · intro hsmall
    exact ⟨_, hresult, hlength ▸ hone, hlength ▸ hfour, fun block hmem =>
      ⟨(encodedBlocks_block hpacket hlimit hmem).1, hsmall block hmem⟩⟩

end

lemma packetize_domain (hpacket : 16 ≤ packetsize) {encoded : List Encoded}
    (h : packetize packetsize minRequiredFecPackets fecPercentage info frame = some encoded) :
    16 < packetsize ∧ maxDataShards fecPercentage * (packetsize + 16) < 2 ^ 31 ∧
      (pieces packetsize info frame).flatten.length < 2 ^ 63 := by
  have hsome : (framePayload packetsize info frame).isSome := by
    cases hpayload : framePayload packetsize info frame with
    | none =>
      rw [packetize, hpayload] at h
      cases h
    | some _ => rfl
  obtain ⟨hne, hint⟩ := framePayload_domain hsome
  have hgreater : 16 < packetsize := by omega
  rw [framePayload_eq hgreater hint] at hsome
  have hvector : (pieces packetsize info frame).flatten.length < 2 ^ 63 := by
    by_contra hlarge
    rw [if_neg (show ¬ _ < maxVectorSize from hlarge)] at hsome
    cases hsome
  refine ⟨hgreater, ?_, hvector⟩
  by_contra hlarge
  have hnone : int (maxDataShards fecPercentage * (packetsize + 16)) = none :=
    if_neg fun hbounds => hlarge hbounds.2
  rw [packetize, framePayload_eq hgreater hint, if_pos (show _ < maxVectorSize from hvector)] at h
  simp only [Option.bind_eq_bind, Option.bind_some, standardBlocks, hnone, Option.bind_none] at h
  cases h

/-- A frame is packetized safely if its packet size is above 16, its sizes are in range and,
unless it is so large that it gets no parity, its largest block has room for the minimum of
parity shards; from a packet size of 16 on it is packetized safely only then. -/
theorem packetization_safe_iff (packetsize minRequiredFecPackets : Int) (fecPercentage : Nat)
    (info : FrameInfo) (frame : Bytes) (hpct : 1 ≤ fecPercentage)
    (hlimit : fecPercentage ≤ 255) :
    let room := 16 < packetsize ∧ maxDataShards fecPercentage * (packetsize + 16) < 2 ^ 31 ∧
      frameShards packetsize frame.length * 32 + (frame.length + 8) < 2 ^ 63 ∧
      (4 < neededBlocks fecPercentage (frameShards packetsize frame.length) ∨
        blockShards fecPercentage (frameShards packetsize frame.length) +
          minParity minRequiredFecPackets ≤ 255)
    (room → Safe packetsize minRequiredFecPackets fecPercentage info frame) ∧
      (16 ≤ packetsize → (Safe packetsize minRequiredFecPackets fecPercentage info frame ↔ room)) := by
  intro room
  have hcast : ∀ (hpacket : 16 < packetsize),
      (maxDataShards fecPercentage * (packetsize + 16) : Int) =
        ((maxDataShards fecPercentage * (packetsize + 16).toNat : Nat) : Int) := by
    intro hpacket
    rw [Nat.cast_mul, Int.toNat_of_nonneg (by omega)]
  have henough : room → Safe packetsize minRequiredFecPackets fecPercentage info frame := by
    rintro ⟨hpacket, hint, hvector, hroom⟩
    rw [hcast hpacket] at hint
    rw [← @pieces_length_eq_frameShards packetsize info frame] at hvector hroom
    exact (safe_iff_room hpacket hpct hlimit ((pieces_flatten_size hpacket).symm ▸ hvector)
      (by exact_mod_cast hint)).mpr hroom
  refine ⟨henough, fun hpacket => ⟨fun hsafe => ?_, henough⟩⟩
  obtain ⟨encoded, hencoded, -⟩ := id hsafe
  obtain ⟨hgreater, hint, hvector⟩ := packetize_domain hpacket hencoded
  have hroom := (safe_iff_room hgreater hpct hlimit hvector
    (by rw [hcast hgreater] at hint; exact_mod_cast hint)).mp hsafe
  rw [pieces_flatten_size hgreater, pieces_length_eq_frameShards] at hvector
  rw [pieces_length_eq_frameShards] at hroom
  exact ⟨hgreater, hint, hvector, hroom⟩

/-- A frame of nine bytes in packets of 1392 bytes, with two parity shards at least. -/
theorem packetization_safe_small : Safe 1392 2 20 {} (List.replicate 9 7) :=
  (packetization_safe_iff 1392 2 20 {} (List.replicate 9 7) (by decide) (by decide)).1
    (by decide)

/-- A client with a packet size of 16. -/
theorem packet_size_divides_by_zero : ¬ Safe 16 2 20 {} (List.replicate 9 7) := by
  rintro ⟨encoded, hencoded, -⟩
  cases hencoded

end Vibeshine.VideoStream
