import Vibeshine.Library.Chunks
import Vibeshine.PyroWave.FecPlan

/-! # Packets of a video frame

The packetization of `videoBroadcastThread` and `fec::encode`. A frame with its header is
cut into shards of the client's packet size, each with space for a packet header; the
shards are split into blocks, and each block gets its parity. A computation that divides
by zero, overflows an `int`, slices past the end or outgrows a vector has no result.
-/

namespace Vibeshine.VideoStream

open Library PyroWave List

/-- The conversion of a signed value to `size_t`. -/
def toSize (value : Int) : Nat := (value % 2 ^ 64).toNat

/-- The result of `int` arithmetic. -/
def int (value : Int) : Option Int :=
  if -2 ^ 31 ≤ value ∧ value < 2 ^ 31 then some value else none

def quotient (dividend divisor : Nat) : Option Nat :=
  if divisor = 0 then none else some (dividend / divisor)

def remainder (dividend divisor : Nat) : Option Nat :=
  if divisor = 0 then none else some (dividend % divisor)

def maxVectorSize : Nat := 2 ^ 63

/-- `sizeof(video_packet_raw_t)`. -/
def packetHeaderBytes : Nat := 32

def maxRtpHeaderSize : Int := 16

/-- What `video_short_frame_header_t` holds beside the payload length. -/
structure FrameInfo where
  latency : UInt16 := 0
  frameType : UInt8 := 1
  criticalPackets : UInt16 := 0

def u16Bytes (value : Nat) : Bytes := [UInt8.ofNat value, UInt8.ofNat (value / 256)]

/-- `video_short_frame_header_t`. -/
def frameHeader (info : FrameInfo) (lastPayloadLen : Nat) : Bytes :=
  [1] ++ u16Bytes info.latency.toNat ++ [info.frameType] ++ u16Bytes lastPayloadLen ++
    u16Bytes info.criticalPackets.toNat

/-- The 16-bit `lastPayloadLen`. -/
def lastPayloadLen (packetsize : Int) (frameBytes : Nat) : Option Nat := do
  let payload := toSize (packetsize - 16)
  let rest ← remainder (frameBytes + frameHeaderBytes) payload
  if rest % 2 ^ 16 = 0 then return payload % 2 ^ 16 else return rest % 2 ^ 16

def concatAndInsert (insertSize sliceSize : Nat) (data1 data2 : Bytes) : Bytes :=
  if sliceSize = 0 then []
  else ((chunks sliceSize (data1 ++ data2)).map (List.replicate insertSize 0 ++ ·)).flatten

def framePayload (packetsize : Int) (info : FrameInfo) (frame : Bytes) : Option (Int × Bytes) := do
  let last ← lastPayloadLen packetsize frame.length
  let blocksize ← int (packetsize + maxRtpHeaderSize)
  let payloadBlocksize := toSize (blocksize - packetHeaderBytes)
  let _ ← quotient ((frameHeaderBytes + frame.length + payloadBlocksize - 1) % 2 ^ 64)
    payloadBlocksize
  let payload := concatAndInsert packetHeaderBytes payloadBlocksize (frameHeader info last) frame
  if payload.length < maxVectorSize then return (blocksize, payload) else none

def maxDataShards (fecPercentage : Nat) : Nat := maxReedSolomonShards * 100 / (100 + fecPercentage)

def standardBlocks (blocksize : Int) (fecPercentage : Nat) (payload : Bytes) :
    Option (List (Bytes × Nat)) := do
  let maxData ← int (maxDataShards fecPercentage * blocksize)
  let needed ← quotient ((payload.length + toSize (maxData - 1)) % 2 ^ 64) (toSize maxData)
  -- FEC is skipped for a frame that needs too many blocks
  let percentage := if needed > maxFecBlocks then 0 else fecPercentage
  let needed := if needed > maxFecBlocks then maxFecBlocks else needed
  let unaligned ← quotient payload.length needed
  let shards ← quotient ((unaligned + toSize (blocksize - 1)) % 2 ^ 64) (toSize blocksize)
  let aligned := shards * toSize blocksize % 2 ^ 64
  if ∀ x < needed, x * aligned % 2 ^ 64 ≤ payload.length then
    return (List.range needed).map fun x =>
      (if x = needed - 1 then payload.drop (x * aligned % 2 ^ 64)
        else (payload.drop (x * aligned % 2 ^ 64)).take aligned, percentage)
  else none

def plannedBlocks (blocksize : Nat) (payload : Bytes) : Nat → List FecBlock → List (Bytes × Nat)
  | _, [] => []
  | offset, [last] => [(payload.drop (offset * blocksize), last.fecPercentage.toNat)]
  | offset, block :: next :: rest =>
    ((payload.drop (offset * blocksize)).take (block.dataShards * blocksize),
      block.fecPercentage.toNat) ::
      plannedBlocks blocksize payload (offset + block.dataShards) (next :: rest)

/-- What `fec::encode` makes of a block. -/
structure Encoded where
  block : Bytes
  dataShards : Nat
  parityShards : Nat
  percentage : Nat
  /-- the data shards, the last one padded -/
  data : List Bytes
  deriving DecidableEq

def padTo (size : Nat) (shard : Bytes) : Bytes :=
  shard ++ List.replicate (size - shard.length) 0

def encode (blocksize minParityShards : Nat) (block : Bytes) (fecPercentage : Nat) :
    Option Encoded := do
  let rest ← remainder block.length blocksize
  let aligned ← quotient block.length blocksize
  let dataShards := aligned + if rest ≠ 0 then 1 else 0
  let parityShards := (dataShards * fecPercentage + 99) / 100
  let data := (chunks blocksize block).map (padTo blocksize)
  -- the percentage is raised to the minimum of parity shards
  if parityShards < minParityShards ∧ fecPercentage ≠ 0 then do
    let raised ← quotient (100 * minParityShards) dataShards
    return ⟨block, dataShards, minParityShards, raised, data⟩
  else return ⟨block, dataShards, parityShards, fecPercentage, data⟩

/-- `min_parity_shards` of a session that is not PyroWave. -/
def minParity (minRequiredFecPackets : Int) : Nat := (max minRequiredFecPackets 0).toNat

def packetize (packetsize minRequiredFecPackets : Int) (fecPercentage : Nat) (info : FrameInfo)
    (frame : Bytes) : Option (List Encoded) := do
  let (blocksize, payload) ← framePayload packetsize info frame
  let blocks ← standardBlocks blocksize fecPercentage payload
  blocks.mapM fun block =>
    encode (toSize blocksize) (minParity minRequiredFecPackets) block.1 block.2

/-! ## Shards of the payload -/

lemma ceilDiv_eq {x b c : Nat} (hb : 0 < b) (hlow : x ≤ c * b) (hhigh : c * b < x + b) :
    (x + b - 1) / b = c := by
  refine Nat.div_eq_of_lt_le (by omega) ?_
  rw [Nat.succ_mul]
  omega

lemma toSize_of_nonneg {value : Int} (hlow : 0 ≤ value) (hhigh : value < 2 ^ 64) :
    toSize value = value.toNat := by
  rw [toSize, Int.emod_eq_of_lt hlow hhigh]

lemma int_of_lt {value : Int} (hlow : 0 ≤ value) (hhigh : value < 2 ^ 31) :
    int value = some value :=
  if_pos ⟨by omega, hhigh⟩

lemma mapM_some {α β : Type} {f : α → Option β} {g : α → β} {list : List α}
    (h : ∀ value ∈ list, f value = some (g value)) : list.mapM f = some (list.map g) := by
  induction list with
  | nil => rfl
  | cons value rest ih =>
    rw [mapM_cons, h value mem_cons_self, ih fun other hmem => h other (mem_cons_of_mem _ hmem)]
    rfl

def payloadSize (packetsize : Int) : Nat := (packetsize - 16).toNat

/-- The value of `lastPayloadLen`. -/
def lastLen (packetsize : Int) (frameBytes : Nat) : Nat :=
  if (frameBytes + frameHeaderBytes) % payloadSize packetsize % 2 ^ 16 = 0 then
    payloadSize packetsize % 2 ^ 16
  else (frameBytes + frameHeaderBytes) % payloadSize packetsize % 2 ^ 16

def headed (packetsize : Int) (info : FrameInfo) (frame : Bytes) : Bytes :=
  frameHeader info (lastLen packetsize frame.length) ++ frame

def pieces (packetsize : Int) (info : FrameInfo) (frame : Bytes) : List Bytes :=
  (chunks (payloadSize packetsize) (headed packetsize info frame)).map
    (List.replicate packetHeaderBytes 0 ++ ·)

lemma frameHeader_length (info : FrameInfo) (last : Nat) : (frameHeader info last).length = 8 :=
  rfl

variable {packetsize : Int} {info : FrameInfo} {frame : Bytes}

lemma headed_length : (headed packetsize info frame).length = frame.length + 8 := by
  rw [headed, length_append, frameHeader_length, add_comm]

lemma framePayload_eq (hpacket : 16 < packetsize) (hint : packetsize + 16 < 2 ^ 31) :
    framePayload packetsize info frame =
      if (pieces packetsize info frame).flatten.length < maxVectorSize then
        some (packetsize + 16, (pieces packetsize info frame).flatten) else none := by
  have hsize : toSize (packetsize - 16) = payloadSize packetsize :=
    toSize_of_nonneg (by omega) (by omega)
  have hne : payloadSize packetsize ≠ 0 := by
    unfold payloadSize
    omega
  have hlast : lastPayloadLen packetsize frame.length = some (lastLen packetsize frame.length) := by
    simp only [lastPayloadLen, hsize, remainder, if_neg hne, Option.bind_eq_bind, Option.bind_some,
      lastLen, Option.pure_def]
    split <;> rfl
  have hblock : int (packetsize + maxRtpHeaderSize) = some (packetsize + 16) :=
    int_of_lt (by unfold maxRtpHeaderSize; omega) hint
  have hslice : toSize (packetsize + 16 - packetHeaderBytes) = payloadSize packetsize := by
    rw [← hsize]
    congr 1
    unfold packetHeaderBytes
    omega
  simp only [framePayload, hlast, hblock, hslice, quotient, if_neg hne, Option.bind_eq_bind,
    Option.bind_some, concatAndInsert, Option.pure_def]
  rfl

lemma framePayload_domain (h : (framePayload packetsize info frame).isSome) :
    packetsize ≠ 16 ∧ packetsize + 16 < 2 ^ 31 := by
  constructor
  · rintro rfl
    cases h
  · by_contra hlarge
    have hnone : int (packetsize + maxRtpHeaderSize) = none :=
      if_neg fun hbounds => hlarge hbounds.2
    unfold framePayload at h
    rw [hnone] at h
    cases hlast : lastPayloadLen packetsize frame.length with
    | none | some _ => rw [hlast] at h; cases h

lemma pieces_length : (pieces packetsize info frame).length =
    (frame.length + 8 + payloadSize packetsize - 1) / payloadSize packetsize := by
  rw [pieces, length_map, chunks_length, headed_length]

lemma pieces_chunked (hpacket : 16 < packetsize) :
    Chunked (packetsize + 16).toNat (pieces packetsize info frame) := by
  have hpos : 0 < payloadSize packetsize := by
    unfold payloadSize
    omega
  have hmap := (chunked_chunks hpos (headed packetsize info frame)).map_append
    (List.replicate packetHeaderBytes 0)
  have hsum : (List.replicate packetHeaderBytes (0 : UInt8)).length + payloadSize packetsize =
      (packetsize + 16).toNat := by
    rw [length_replicate]
    unfold packetHeaderBytes payloadSize
    omega
  rw [hsum] at hmap
  exact hmap

lemma shards_bounds {size payload count : Nat} (hpos : 0 < payload) (hsize : 0 < size)
    (hcount : (size + payload - 1) / payload = count) :
    0 < count ∧ (count - 1) * (payload + 32) + 32 < count * 32 + size ∧
      count * 32 + size ≤ count * (payload + 32) := by
  have hlow : count * payload ≤ size + payload - 1 := by
    rw [← hcount]
    exact Nat.div_mul_le_self _ _
  have hhigh : size + payload - 1 < (count + 1) * payload := by
    rw [← hcount, mul_comm]
    exact Nat.lt_mul_div_succ _ hpos
  cases count with
  | zero => omega
  | succ less =>
    simp only [Nat.succ_mul, mul_add, Nat.add_sub_cancel] at hlow hhigh ⊢
    omega

lemma pieces_flatten_size (hpacket : 16 < packetsize) :
    (pieces packetsize info frame).flatten.length =
      (pieces packetsize info frame).length * 32 + (frame.length + 8) := by
  have hpos : 0 < payloadSize packetsize := by
    unfold payloadSize
    omega
  rw [pieces, flatten_map_append_length, flatten_chunks hpos, headed_length, length_map,
    length_replicate]
  rfl

lemma pieces_flatten_length (hpacket : 16 < packetsize) :
    0 < (pieces packetsize info frame).length ∧
    ((pieces packetsize info frame).length - 1) * (packetsize + 16).toNat + 32 <
      (pieces packetsize info frame).flatten.length ∧
    (pieces packetsize info frame).flatten.length ≤
      (pieces packetsize info frame).length * (packetsize + 16).toNat := by
  have hpos : 0 < payloadSize packetsize := by
    unfold payloadSize
    omega
  have hblock : (packetsize + 16).toNat = payloadSize packetsize + 32 := by
    unfold payloadSize
    omega
  rw [pieces_flatten_size hpacket, hblock]
  exact shards_bounds hpos (Nat.succ_pos _) pieces_length.symm

end Vibeshine.VideoStream
