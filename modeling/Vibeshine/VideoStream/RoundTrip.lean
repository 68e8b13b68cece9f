import Vibeshine.VideoStream.Blocks

/-! # What a client reads

The fields that `videoBroadcastThread` writes into each shard, and the client's reading of
them: the shards of a frame give back its header and its bytes.
-/

namespace Vibeshine.VideoStream

open Library PyroWave List

/-- The fields of a sent shard that say where it belongs, and its bytes. -/
structure Shard where
  fecInfo : Nat
  multiFecBlocks : Nat
  body : Bytes

/-- The 32-bit `fecInfo`. -/
def fecInfo (index dataShards percentage : Nat) : Nat :=
  (index <<< 12 ||| dataShards <<< 22 ||| percentage <<< 4) % 2 ^ 32

/-- The 8-bit `multiFecBlocks`. -/
def multiFecBlocks (blockIndex blocks : Nat) : Nat :=
  (blockIndex <<< 4 ||| (blocks - 1) <<< 6) % 2 ^ 8

/-- The shards of a block; `parity` is the Reed-Solomon code. -/
def blockShardsOf (parity : Encoded → Nat → Bytes) (blockIndex blocks : Nat) (encoded : Encoded) :
    List Shard :=
  (List.range (encoded.dataShards + encoded.parityShards)).map fun x =>
    { fecInfo := fecInfo x encoded.dataShards encoded.percentage
      multiFecBlocks := multiFecBlocks blockIndex blocks
      body := encoded.data[x]?.getD (parity encoded x) }

def sentFrom (parity : Encoded → Nat → Bytes) (blocks : Nat) :
    Nat → List Encoded → List (List Shard)
  | _, [] => []
  | index, encoded :: rest =>
    blockShardsOf parity index blocks encoded :: sentFrom parity blocks (index + 1) rest

def sent (parity : Encoded → Nat → Bytes) (blocks : List Encoded) : List (List Shard) :=
  sentFrom parity blocks.length 0 blocks

def packetizePyrowave (packetsize minRequiredFecPackets : Int) (criticalShards : Nat)
    (criticalPercentage : Int) (detailPercentage : Int) (extraParity : Nat) (info : FrameInfo)
    (frame : Bytes) : Option (List Encoded) := do
  let (blocksize, payload) ← framePayload packetsize info frame
  let minimum := max 2 (minParity minRequiredFecPackets)
  let plan ← planFecBlocks (frameShards packetsize frame.length) criticalShards criticalPercentage
    minimum detailPercentage extraParity
  (plannedBlocks (toSize blocksize) payload 0 plan).mapM fun block =>
    encode (toSize blocksize) minimum block.1 block.2

def readIndex (fecInfo : Nat) : Nat := fecInfo >>> 12 % 2 ^ 10

def readDataShards (fecInfo : Nat) : Nat := fecInfo >>> 22

def readPercentage (fecInfo : Nat) : Nat := fecInfo >>> 4 % 2 ^ 8

def readParity (fecInfo : Nat) : Nat :=
  (readDataShards fecInfo * readPercentage fecInfo + 99) / 100

def readBlockIndex (multiFecBlocks : Nat) : Nat := multiFecBlocks >>> 4 % 4

def readBlockCount (multiFecBlocks : Nat) : Nat := multiFecBlocks >>> 6 + 1

def readPayloads : List Shard → List Bytes
  | [] => []
  | first :: rest =>
    ((first :: rest).take (readDataShards first.fecInfo)).map fun shard =>
      shard.body.drop packetHeaderBytes

/-- The frame header and the frame: the payloads in order, the last one cut to the length
that the frame header announces. -/
def readFrame (blocks : List (List Shard)) : Bytes :=
  let payloads := blocks.flatMap readPayloads
  let last := payloads.flatten.getD 4 0
  let high := payloads.flatten.getD 5 0
  payloads.dropLast.flatten ++ (payloads.getLast?.getD []).take (last.toNat + 256 * high.toNat)

lemma fecInfo_eq {index data percentage : Nat} (hindex : index < 1024)
    (hdata : data < 1024) (hpct : percentage < 256) :
    fecInfo index data percentage = (data * 1024 + index) * 4096 + percentage * 16 := by
  have hlow : percentage <<< 4 < 2 ^ 12 := by
    rw [Nat.shiftLeft_eq]
    omega
  have hmiddle : index <<< 12 < 2 ^ 22 := by
    rw [Nat.shiftLeft_eq]
    omega
  have hhigh : index <<< 12 ||| data <<< 22 = (data * 1024 + index) <<< 12 := by
    rw [Nat.or_comm, ← Nat.shiftLeft_add_eq_or_of_lt hmiddle]
    simp only [Nat.shiftLeft_eq]
    omega
  rw [fecInfo, hhigh, ← Nat.shiftLeft_add_eq_or_of_lt hlow]
  simp only [Nat.shiftLeft_eq]
  exact Nat.mod_eq_of_lt (by omega)

lemma fecInfo_read {index data percentage : Nat} (hindex : index < 1024)
    (hdata : data < 1024) (hpct : percentage < 256) :
    readIndex (fecInfo index data percentage) = index ∧
      readDataShards (fecInfo index data percentage) = data ∧
      readPercentage (fecInfo index data percentage) = percentage := by
  rw [fecInfo_eq hindex hdata hpct]
  simp only [readIndex, readDataShards, readPercentage, Nat.shiftRight_eq_div_pow]
  omega

lemma multiFecBlocks_read {blockIndex blocks : Nat} (hindex : blockIndex < blocks)
    (hblocks : blocks ≤ 4) :
    readBlockIndex (multiFecBlocks blockIndex blocks) = blockIndex ∧
      readBlockCount (multiFecBlocks blockIndex blocks) = blocks := by
  interval_cases blocks <;> interval_cases blockIndex <;> decide

lemma percentageOf_read {minimum data fecPercentage : Nat} (hminimum : minimum ≤ 2)
    (hdata : 0 < data) (hpct : fecPercentage ≤ 255) :
    percentageOf minimum data fecPercentage ≤ 255 ∧
      (data * percentageOf minimum data fecPercentage + 99) / 100 =
        parityOf minimum data fecPercentage := by
  unfold percentageOf parityOf
  split
  · next hraised =>
    obtain ⟨hless, hne⟩ := hraised
    have hone : data * 1 ≤ data * fecPercentage :=
      Nat.mul_le_mul_left _ (Nat.one_le_iff_ne_zero.mpr hne)
    obtain rfl : minimum = 2 := by omega
    have hsmall : data ≤ 100 := by omega
    have hlow : 200 < (200 / data + 1) * data := by
      rw [mul_comm]
      exact Nat.lt_mul_div_succ _ hdata
    have hhigh := Nat.div_mul_le_self 200 data
    rw [Nat.succ_mul] at hlow
    refine ⟨?_, ?_⟩
    · exact le_trans (Nat.div_le_self _ _) (by decide)
    · rw [mul_comm data]
      change (200 / data * data + 99) / 100 = 2
      omega
  · exact ⟨hpct, rfl⟩

/-! ## Blocks that the fields can carry -/

/-- An encoded block whose fields fit and announce its shards. -/
structure Encoded.Carried (encoded : Encoded) : Prop where
  positive : 0 < encoded.dataShards
  shards : encoded.dataShards + encoded.parityShards ≤ 1023
  percentage : encoded.percentage ≤ 255
  parity : (encoded.dataShards * encoded.percentage + 99) / 100 = encoded.parityShards
  length : encoded.data.length = encoded.dataShards

variable {parity : Encoded → Nat → Bytes} {blockIndex blocks : Nat} {encoded : Encoded}

lemma Encoded.Carried.fields (h : encoded.Carried) (hindex : blockIndex < blocks)
    (hblocks : blocks ≤ 4) {x : Nat} {shard : Shard}
    (hshard : (blockShardsOf parity blockIndex blocks encoded)[x]? = some shard) :
    readIndex shard.fecInfo = x ∧ readDataShards shard.fecInfo = encoded.dataShards ∧
      readPercentage shard.fecInfo ≤ 255 ∧ readParity shard.fecInfo = encoded.parityShards ∧
      readBlockIndex shard.multiFecBlocks = blockIndex ∧
      readBlockCount shard.multiFecBlocks = blocks := by
  have hsum := h.shards
  have hpct := h.percentage
  simp only [blockShardsOf, List.getElem?_map, Option.map_eq_some_iff] at hshard
  obtain ⟨place, hplace, rfl⟩ := hshard
  obtain ⟨hx, hsame⟩ := List.getElem?_eq_some_iff.mp hplace
  rw [getElem_range] at hsame
  rw [length_range] at hx
  subst hsame
  obtain ⟨hread, hdata, hpercent⟩ := fecInfo_read (show x < 1024 by omega)
    (show encoded.dataShards < 1024 by omega) (show encoded.percentage < 256 by omega)
  obtain ⟨hplaceRead, hcount⟩ := multiFecBlocks_read hindex hblocks
  refine ⟨hread, hdata, le_trans (le_of_eq hpercent) hpct, ?_, hplaceRead, hcount⟩
  rw [readParity, hdata, hpercent]
  exact h.parity

lemma Encoded.Carried.payloads (h : encoded.Carried) (blockIndex blocks : Nat) :
    readPayloads (blockShardsOf parity blockIndex blocks encoded) =
      encoded.data.map (List.drop packetHeaderBytes) := by
  have hpositive := h.positive
  have hsum := h.shards
  have hpct := h.percentage
  have hdata := (fecInfo_read (show 0 < 1024 by decide)
    (show encoded.dataShards < 1024 by omega) (show encoded.percentage < 256 by omega)).2.1
  obtain ⟨count, hcount⟩ : ∃ count, encoded.dataShards + encoded.parityShards = count + 1 :=
    ⟨encoded.dataShards + encoded.parityShards - 1, by omega⟩
  have hshards : ∃ first rest, blockShardsOf parity blockIndex blocks encoded = first :: rest ∧
      first.fecInfo = fecInfo 0 encoded.dataShards encoded.percentage := by
    rw [blockShardsOf, hcount, range_succ_eq_map, map_cons]
    exact ⟨_, _, rfl, rfl⟩
  obtain ⟨first, rest, heq, hfirst⟩ := hshards
  rw [heq, readPayloads, hfirst, hdata, ← heq, blockShardsOf, ← map_take, take_range,
    min_eq_left (Nat.le_add_right _ _), map_map]
  refine ext_getElem? fun x => ?_
  rw [getElem?_map, getElem?_map]
  rcases Nat.lt_or_ge x encoded.dataShards with hx | hx
  · have hsome : encoded.data[x]? = some (encoded.data[x]?.getD (parity encoded x)) := by
      rw [getElem?_eq_getElem (h.length ▸ hx), Option.getD_some]
    rw [getElem?_range hx, hsome]
    rfl
  · rw [getElem?_eq_none (by rw [length_range]; exact hx),
      getElem?_eq_none (by rw [h.length]; exact hx)]
    rfl

lemma sentFrom_payloads (blocks : Nat) (index : Nat) {list : List Encoded}
    (h : ∀ encoded ∈ list, encoded.Carried) :
    (sentFrom parity blocks index list).flatMap readPayloads =
      (list.flatMap Encoded.data).map (List.drop packetHeaderBytes) := by
  induction list generalizing index with
  | nil => rfl
  | cons encoded rest ih =>
    obtain ⟨hfirst, hrest⟩ := forall_mem_cons.mp h
    rw [sentFrom, flatMap_cons, hfirst.payloads, ih _ hrest, flatMap_cons, map_append]

lemma sentFrom_getElem? (blocks : Nat) (index : Nat) (list : List Encoded) (place : Nat) :
    (sentFrom parity blocks index list)[place]? =
      list[place]?.map (blockShardsOf parity (index + place) blocks) := by
  induction list generalizing index place with
  | nil => rfl
  | cons encoded rest ih =>
    cases place with
    | zero => rfl
    | succ place =>
      rw [sentFrom, getElem?_cons_succ, getElem?_cons_succ, ih]
      congr 2
      omega

/-! ## The frame -/

variable {packetsize : Int} {info : FrameInfo} {frame : Bytes}

lemma padded_payloads (hpacket : 16 < packetsize) :
    ((pieces packetsize info frame).map (padTo (packetsize + 16).toNat)).map
        (List.drop packetHeaderBytes) =
      (chunks (payloadSize packetsize) (headed packetsize info frame)).map
        (padTo (payloadSize packetsize)) := by
  rw [pieces, map_map, map_map]
  refine map_congr_left fun piece _ => ?_
  have hheader : (List.replicate packetHeaderBytes (0 : UInt8)).length = packetHeaderBytes :=
    length_replicate
  have hsize : (packetsize + 16).toNat - (packetHeaderBytes + piece.length) =
      payloadSize packetsize - piece.length := by
    unfold packetHeaderBytes payloadSize
    omega
  simp only [Function.comp, padTo, length_append, hheader, hsize, append_assoc, drop_left' hheader]

lemma lastLen_lt : lastLen packetsize frame.length < 2 ^ 16 := by
  unfold lastLen
  split <;> exact Nat.mod_lt _ (by decide)

lemma headed_length_field (padding : Bytes) (hlast : lastLen packetsize frame.length < 2 ^ 16) :
    ((headed packetsize info frame ++ padding).getD 4 0).toNat +
      256 * ((headed packetsize info frame ++ padding).getD 5 0).toNat =
        lastLen packetsize frame.length := by
  have hlow : (headed packetsize info frame ++ padding).getD 4 0 =
      UInt8.ofNat (lastLen packetsize frame.length) := rfl
  have hhigh : (headed packetsize info frame ++ padding).getD 5 0 =
      UInt8.ofNat (lastLen packetsize frame.length / 256) := rfl
  rw [hlow, hhigh, UInt8.toNat_ofNat', UInt8.toNat_ofNat']
  omega

lemma readFrame_eq {front : List Bytes} {last : Bytes} {shards : List (List Shard)}
    (hsplit : chunks (payloadSize packetsize) (headed packetsize info frame) = front ++ [last])
    (hpacket : 16 < packetsize)
    (hfull : ∀ piece ∈ front, piece.length = payloadSize packetsize)
    (h : shards.flatMap readPayloads =
      ((pieces packetsize info frame).map (padTo (packetsize + 16).toNat)).map
        (List.drop packetHeaderBytes)) :
    readFrame shards = front.flatten ++ (padTo (payloadSize packetsize) last).take
        (lastLen packetsize frame.length) := by
  have hpos : 0 < payloadSize packetsize := by
    unfold payloadSize
    omega
  have hfront : front.map (padTo (payloadSize packetsize)) = front := by
    refine (map_congr_left fun piece hmem => ?_).trans (map_id front)
    rw [padTo, hfull piece hmem, Nat.sub_self, replicate_zero, append_nil]
    rfl
  have hpayloads : shards.flatMap readPayloads =
      front ++ [padTo (payloadSize packetsize) last] := by
    rw [h, padded_payloads hpacket, hsplit, map_append, hfront, map_singleton]
  have hflatten : (front ++ [padTo (payloadSize packetsize) last]).flatten =
      headed packetsize info frame ++ List.replicate (payloadSize packetsize - last.length) 0 := by
    have hread := flatten_chunks hpos (headed packetsize info frame)
    rw [hsplit] at hread
    rw [← hread, flatten_append, flatten_append, flatten_singleton,
      flatten_singleton, padTo, append_assoc]
  unfold readFrame
  simp only [hpayloads, hflatten, headed_length_field _ lastLen_lt, dropLast_concat,
    getLast?_concat, Option.getD_some]

def lastPayload (packetsize : Int) (frameBytes : Nat) : Nat :=
  if (frameBytes + frameHeaderBytes) % payloadSize packetsize = 0 then payloadSize packetsize
  else (frameBytes + frameHeaderBytes) % payloadSize packetsize

lemma lastLen_eq (hlast : lastPayload packetsize frame.length < 2 ^ 16) :
    lastLen packetsize frame.length = lastPayload packetsize frame.length := by
  unfold lastPayload at hlast ⊢
  unfold lastLen
  split at hlast
  · next hzero => rw [hzero, Nat.zero_mod, if_pos rfl, if_pos rfl, Nat.mod_eq_of_lt hlast]
  · next hne => rw [Nat.mod_eq_of_lt hlast, if_neg hne, if_neg hne]

lemma lastPayload_eq {front : List Bytes} {last : Bytes} (hpacket : 16 < packetsize)
    (hsplit : chunks (payloadSize packetsize) (headed packetsize info frame) = front ++ [last])
    (hfull : ∀ piece ∈ front, piece.length = payloadSize packetsize) (hpositive : 0 < last.length)
    (hle : last.length ≤ payloadSize packetsize) :
    lastPayload packetsize frame.length = last.length := by
  have hpos : 0 < payloadSize packetsize := by
    unfold payloadSize
    omega
  have hlength : frame.length + frameHeaderBytes =
      last.length + payloadSize packetsize * front.length := by
    have hread := congrArg List.length (flatten_chunks hpos (headed packetsize info frame))
    rw [hsplit, flatten_append, flatten_singleton, length_append,
      flatten_length_of_full hfull, headed_length, mul_comm, add_comm] at hread
    exact hread.symm
  rw [lastPayload, hlength, Nat.add_mul_mod_self_left]
  rcases Nat.lt_or_eq_of_le hle with hless | heq
  · rw [Nat.mod_eq_of_lt hless, if_neg (Nat.ne_of_gt hpositive)]
  · rw [heq, Nat.mod_self, if_pos rfl]

lemma readFrame_headed {shards : List (List Shard)} (hpacket : 16 < packetsize)
    (hlast : lastPayload packetsize frame.length < 2 ^ 16)
    (h : shards.flatMap readPayloads =
      ((pieces packetsize info frame).map (padTo (packetsize + 16).toNat)).map
        (List.drop packetHeaderBytes)) :
    readFrame shards = headed packetsize info frame := by
  have hpos : 0 < payloadSize packetsize := by
    unfold payloadSize
    omega
  have hne : chunks (payloadSize packetsize) (headed packetsize info frame) ≠ [] := by
    rw [chunks_cons hpos (ne_nil_of_length_pos (by rw [headed_length]; exact Nat.succ_pos _))]
    exact cons_ne_nil _ _
  obtain ⟨front, last, hsplit, hfull, hpositive, hle⟩ :=
    (chunked_chunks hpos (headed packetsize info frame)).split hne
  rw [readFrame_eq hsplit hpacket hfull h, lastLen_eq hlast,
    lastPayload_eq hpacket hsplit hfull hpositive hle, padTo, take_left]
  have hread := flatten_chunks hpos (headed packetsize info frame)
  rw [hsplit, flatten_append, flatten_singleton] at hread
  exact hread

/-! ## The two splits -/

lemma flatMap_blocks {α : Type} {count : Nat} (hcount : 1 ≤ count) (each : Nat) (list : List α) :
    (List.range count).flatMap (fun x =>
        if x = count - 1 then list.drop (x * each) else (list.drop (x * each)).take each) = list := by
  obtain ⟨less, rfl⟩ : ∃ less, count = less + 1 := ⟨count - 1, by omega⟩
  rw [range_succ, flatMap_append, flatMap_singleton, Nat.add_sub_cancel, if_pos rfl]
  have hbefore : (List.range less).flatMap (fun x =>
      if x = less then list.drop (x * each) else (list.drop (x * each)).take each) =
      list.take (less * each) := by
    rw [← flatMap_slices]
    refine flatMap_congr fun x hx => ?_
    rw [if_neg (ne_of_lt (mem_range.mp hx))]
  rw [hbefore, take_append_drop]

lemma encodedOf_carried {blocksize minimum fecPercentage : Nat} {block : Bytes}
    (hminimum : minimum ≤ 2) (hpct : fecPercentage ≤ 255)
    (hpositive : 0 < (chunks blocksize block).length)
    (hdata : (chunks blocksize block).length ≤ 1023)
    (hfits : fecPercentage ≠ 0 → (chunks blocksize block).length +
      parityOf minimum (chunks blocksize block).length fecPercentage ≤ 255) :
    (encodedOf blocksize minimum block fecPercentage).Carried := by
  obtain ⟨hlimit, hparity⟩ := percentageOf_read hminimum hpositive hpct
  refine ⟨hpositive, ?_, hlimit, hparity, length_map _⟩
  by_cases hzero : fecPercentage = 0
  · subst hzero
    simp only [encodedOf, parityOf, ne_eq, not_true_eq_false, and_false, if_false, mul_zero]
    exact hdata
  · exact le_trans (hfits hzero) (by decide)

lemma encodedBlocks_carried {minRequiredFecPackets : Int} {fecPercentage : Nat}
    (hpacket : 16 < packetsize) (hpct : fecPercentage ≤ 255)
    (hminimum : minParity minRequiredFecPackets ≤ 2)
    (hdata : blockShards fecPercentage (pieces packetsize info frame).length ≤ 1023) :
    ∀ encoded ∈ encodedBlocks packetsize minRequiredFecPackets fecPercentage info frame,
      encoded.Carried := by
  intro encoded hmem
  obtain ⟨hle, -, hpercent⟩ := encodedBlocks_data hpacket hpct hmem
  have hpositive := (encodedBlocks_block hpacket hpct hmem).2
  obtain ⟨hshards, -, -⟩ := @pieces_flatten_length packetsize info frame hpacket
  have hlimit : blockPercentage fecPercentage (pieces packetsize info frame).length ≤ 255 := by
    unfold blockPercentage
    split
    · exact zero_le
    · exact hpct
  have hfits : blockPercentage fecPercentage (pieces packetsize info frame).length ≠ 0 →
      encoded.dataShards + encoded.parityShards ≤ 255 := by
    intro hne
    have hneeded : neededBlocks fecPercentage (pieces packetsize info frame).length ≤ 4 := by
      by_contra hover
      exact hne (if_pos (Nat.lt_of_not_le hover))
    have hsame : blockPercentage fecPercentage (pieces packetsize info frame).length =
        fecPercentage := if_neg (Nat.not_lt_of_le hneeded)
    rw [hsame] at hne hpercent
    have hshare := blockShards_le_max hpct hshards hneeded
    have hsome := Nat.one_le_iff_ne_zero.mpr hne
    have hroom := maxDataShards_le hsome
    refine (encodedBlocks_small_iff hpacket hsome hpct).mpr
      (.inr (by omega)) encoded hmem ?_
    rw [hpercent]
    exact percentageOf_ne_zero hpositive hne
  obtain ⟨x, hx, rfl⟩ := mem_map.mp hmem
  exact encodedOf_carried hminimum hlimit hpositive (le_trans hle hdata) hfits

lemma encodedBlocks_shards {minRequiredFecPackets : Int} {fecPercentage : Nat}
    (hpacket : 16 < packetsize) (hpct : fecPercentage ≤ 255) :
    (encodedBlocks packetsize minRequiredFecPackets fecPercentage info frame).flatMap Encoded.data =
      (pieces packetsize info frame).map (padTo (packetsize + 16).toNat) := by
  have hwide : 0 < (packetsize + 16).toNat := by omega
  obtain ⟨hshards, -, -⟩ := @pieces_flatten_length packetsize info frame hpacket
  obtain ⟨hone, -, -, -⟩ := blockCount_bounds hpct hshards
  conv_rhs => rw [← flatMap_blocks hone (blockShards fecPercentage
    (pieces packetsize info frame).length) (pieces packetsize info frame)]
  rw [encodedBlocks, flatMap_map, map_flatMap]
  refine flatMap_congr fun x _ => ?_
  simp only [encodedOf]
  rw [chunks_blockSlice hwide, (pieces_chunked hpacket).chunks_flatten hwide]

lemma plannedBlocks_spec {blocksize : Nat} (hwide : 0 < blocksize) {payload : Bytes}
    {plan : List FecBlock} (hne : plan ≠ []) {offset : Nat}
    (hsum : offset + (plan.map FecBlock.dataShards).sum = (chunks blocksize payload).length) :
    (plannedBlocks blocksize payload offset plan).flatMap (fun block => chunks blocksize block.1) =
        (chunks blocksize payload).drop offset ∧
      ∀ block ∈ plannedBlocks blocksize payload offset plan, ∃ planned ∈ plan,
        (chunks blocksize block.1).length = planned.dataShards ∧
          block.2 = planned.fecPercentage.toNat := by
  induction plan generalizing offset with
  | nil => exact absurd rfl hne
  | cons planned rest ih =>
    cases rest with
    | nil =>
      have hchunks := chunks_drop hwide offset payload
      refine ⟨?_, forall_mem_singleton.mpr ⟨planned, mem_cons_self, ?_, rfl⟩⟩
      · rw [plannedBlocks, flatMap_singleton]
        exact hchunks
      · simp only [hchunks, length_drop]
        simp only [map_cons, map_nil, sum_cons, sum_nil] at hsum
        omega
    | cons next rest =>
      rw [map_cons, sum_cons, ← add_assoc] at hsum
      obtain ⟨hread, hblocks⟩ := ih (cons_ne_nil _ _) hsum
      have hchunks : chunks blocksize ((payload.drop (offset * blocksize)).take
          (planned.dataShards * blocksize)) =
          ((chunks blocksize payload).drop offset).take planned.dataShards := by
        rw [chunks_take hwide, chunks_drop hwide]
      refine ⟨?_, forall_mem_cons.mpr ⟨⟨planned, mem_cons_self, ?_, rfl⟩,
        fun block hmem => ?_⟩⟩
      · rw [plannedBlocks, flatMap_cons, hread, hchunks, ← drop_drop, take_append_drop]
      · simp only [hchunks, length_take, length_drop]
        omega
      · obtain ⟨other, hother, hsame⟩ := hblocks block hmem
        exact ⟨other, mem_cons_of_mem _ hother, hsame⟩

/-! ## Round trips -/

def RoundTrips (parity : Encoded → Nat → Bytes) (packetsize : Int) (info : FrameInfo)
    (frame : Bytes) (blocks : List Encoded) : Prop :=
  (∀ index encoded, blocks[index]? = some encoded →
    ∃ shards, (sent parity blocks)[index]? = some shards ∧
      shards.length = encoded.dataShards + encoded.parityShards ∧
      ∀ x shard, shards[x]? = some shard →
        readIndex shard.fecInfo = x ∧ readDataShards shard.fecInfo = encoded.dataShards ∧
          readPercentage shard.fecInfo ≤ 255 ∧
          readParity shard.fecInfo = encoded.parityShards ∧
          readBlockIndex shard.multiFecBlocks = index ∧
          readBlockCount shard.multiFecBlocks = blocks.length) ∧
    readFrame (sent parity blocks) = headed packetsize info frame

lemma roundTrips_of_carried {blocks : List Encoded} (parity : Encoded → Nat → Bytes)
    (hpacket : 16 < packetsize) (hlast : lastPayload packetsize frame.length < 2 ^ 16)
    (hlength : blocks.length ≤ 4)
    (hcarried : ∀ encoded ∈ blocks, encoded.Carried)
    (hshards : blocks.flatMap Encoded.data =
      (pieces packetsize info frame).map (padTo (packetsize + 16).toNat)) :
    RoundTrips parity packetsize info frame blocks := by
  constructor
  · intro index encoded hencoded
    have hindex : index < blocks.length := (List.getElem?_eq_some_iff.mp hencoded).1
    have hblock := hcarried encoded (mem_of_getElem? hencoded)
    refine ⟨blockShardsOf parity index blocks.length encoded, ?_, ?_, fun x shard hshard => ?_⟩
    · rw [sent, sentFrom_getElem?, hencoded, zero_add]
      rfl
    · rw [blockShardsOf, length_map, length_range]
    · exact hblock.fields hindex hlength hshard
  · refine readFrame_headed hpacket hlast ?_
    rw [sent, sentFrom_payloads _ _ hcarried, hshards]

lemma pieces_vector (hpacket : 16 < packetsize) (hint : packetsize + 16 < 2 ^ 31)
    (hshards : (pieces packetsize info frame).length ≤ 4092) :
    (pieces packetsize info frame).flatten.length < 2 ^ 63 := by
  obtain ⟨-, -, hhigh⟩ := @pieces_flatten_length packetsize info frame hpacket
  have hmul : (pieces packetsize info frame).length * (packetsize + 16).toNat ≤ 4092 * 2 ^ 31 :=
    Nat.mul_le_mul hshards (by omega)
  exact lt_of_le_of_lt (le_trans hhigh hmul) (by decide)

lemma standard_round_trip {minRequiredFecPackets : Int} {fecPercentage : Nat}
    (parity : Encoded → Nat → Bytes) (hpacket : 16 < packetsize)
    (hint : maxDataShards fecPercentage * (packetsize + 16).toNat < 2 ^ 31)
    (hlast : lastPayload packetsize frame.length < 2 ^ 16)
    (hminimum : minRequiredFecPackets ≤ 2) (hpct : fecPercentage ≤ 255)
    (hdata : blockShards fecPercentage (frameShards packetsize frame.length) ≤ 1023) :
    ∃ blocks, packetize packetsize minRequiredFecPackets fecPercentage info frame = some blocks ∧
      RoundTrips parity packetsize info frame blocks := by
  rw [← @pieces_length_eq_frameShards packetsize info frame] at hdata
  obtain ⟨hpositive, -, -⟩ := @pieces_flatten_length packetsize info frame hpacket
  obtain ⟨hone, hfour, -, -⟩ := blockCount_bounds hpct hpositive
  obtain ⟨-, henough, -, -⟩ := blockShards_bounds hpct hpositive
  have hshards : (pieces packetsize info frame).length ≤ 4092 :=
    le_trans henough (Nat.mul_le_mul hdata hfour)
  have hsome : 0 < maxDataShards fecPercentage :=
    lt_of_lt_of_le (by decide) (maxDataShards_bounds hpct).1
  have hwide : (packetsize + 16).toNat < 2 ^ 31 :=
    lt_of_le_of_lt (Nat.le_mul_of_pos_left _ hsome) hint
  have hvector := @pieces_vector packetsize info frame hpacket (by omega) hshards
  have hminimum : minParity minRequiredFecPackets ≤ 2 := by
    unfold minParity
    omega
  refine ⟨_, packetize_eq hpacket hpct hvector hint, ?_⟩
  refine roundTrips_of_carried parity hpacket hlast ?_
    (encodedBlocks_carried hpacket hpct hminimum hdata)
    (encodedBlocks_shards hpacket hpct)
  rw [encodedBlocks, length_map, length_range]
  exact hfour

lemma plannedBlocks_length (blocksize : Nat) (payload : Bytes) (offset : Nat)
    (plan : List FecBlock) : (plannedBlocks blocksize payload offset plan).length = plan.length := by
  induction plan generalizing offset with
  | nil => rfl
  | cons planned rest ih =>
    cases rest with
    | nil => rfl
    | cons next rest => rw [plannedBlocks, length_cons, ih]; rfl

lemma parityOf_le {minimum data : Nat} {percentage : Int} (hpct : percentage ≠ 0)
    (hpositive : 0 ≤ percentage) (hint : percentage < 2 ^ 31) (hdata : data ≤ 1023) :
    parityOf minimum data percentage.toNat = parityShards data percentage minimum := by
  have hne : percentage.toNat ≠ 0 := by omega
  rw [parityShards_eq hint hdata, if_neg (show ¬ percentage ≤ 0 by omega)]
  unfold parityOf
  split
  · next hraised => exact (Nat.max_eq_right (le_of_lt hraised.1)).symm
  · next hmet =>
    refine (Nat.max_eq_left ?_).symm
    by_contra hless
    exact hmet ⟨Nat.lt_of_not_le hless, hne⟩

lemma sum_le_of_forall {plan : List FecBlock} {limit : Nat}
    (h : ∀ block ∈ plan, block.dataShards ≤ limit) :
    (plan.map FecBlock.dataShards).sum ≤ plan.length * limit := by
  induction plan with
  | nil => exact zero_le
  | cons block rest ih =>
    obtain ⟨hblock, hrest⟩ := forall_mem_cons.mp h
    rw [map_cons, sum_cons, length_cons, Nat.succ_mul, add_comm]
    exact Nat.add_le_add (ih hrest) hblock

lemma planFecBlocks_carries {shards criticalShards minimum extra : Nat} {percentage detail : Int}
    {plan : List FecBlock} (hshards : 0 < shards)
    (hsums : Sums shards criticalShards percentage minimum)
    (hplan : planFecBlocks shards criticalShards percentage minimum detail extra = some plan) :
    Carries minimum plan shards ∧ 1 ≤ plan.length ∧ plan.length ≤ 4 := by
  obtain ⟨blocks, hblocks, hcases⟩ :=
    planFecBlocks_cases hshards hsums detail extra
  obtain rfl : blocks = plan := Option.some.inj (hblocks.symm.trans hplan)
  rcases hcases with ⟨hcarries, hone, hfour, -⟩ | ⟨-, hguarded⟩
  · exact ⟨hcarries, hone, hfour⟩
  · obtain ⟨leading, rest, hsame, -⟩ := hguarded.front
    exact ⟨hguarded.carries, by rw [hsame]; exact Nat.succ_pos _, hguarded.length⟩

lemma frameShards_sums (hframe : frame.length < maxVectorSize) (hpacket : 16 < packetsize)
    {percentage : Int} (hpct : percentage ≤ 255) (criticalShards : Nat) :
    Sums (frameShards packetsize frame.length) criticalShards percentage 2 := by
  have hshards : frameShards packetsize frame.length ≤ frameHeaderBytes + frame.length := by
    unfold frameShards
    obtain ⟨payload, hpayload⟩ : ∃ payload, (packetsize - shardOverheadBytes).toNat = payload + 1 :=
      ⟨(packetsize - shardOverheadBytes).toNat - 1, by unfold shardOverheadBytes; omega⟩
    rw [hpayload]
    refine Nat.div_le_of_le_mul ?_
    rw [Nat.succ_mul]
    have := Nat.le_mul_of_pos_right payload (show 0 < frameHeaderBytes + frame.length by
      unfold frameHeaderBytes; omega)
    omega
  unfold frameHeaderBytes maxVectorSize at *
  refine ⟨by omega, by omega, ?_, by decide⟩
  have hproduct : size (min criticalShards (frameShards packetsize frame.length) *
      percentage.toNat + 99) < 2 ^ 64 := Nat.mod_lt _ (by decide)
  unfold parityShards
  split <;> omega

lemma pyrowave_round_trip {minRequiredFecPackets percentage detail : Int}
    {criticalShards extra : Nat} {plan : List FecBlock} (parity : Encoded → Nat → Bytes)
    (hpacket : 16 < packetsize) (hint : packetsize + 16 < 2 ^ 31)
    (hlast : lastPayload packetsize frame.length < 2 ^ 16)
    (hminimum : minRequiredFecPackets ≤ 2) (hpct : percentage ≤ 255)
    (hframe : frame.length < maxVectorSize)
    (hplan : planFecBlocks (frameShards packetsize frame.length) criticalShards percentage
      (max 2 (minParity minRequiredFecPackets)) detail extra = some plan)
    (hdata : ∀ block ∈ plan, block.dataShards ≤ 1023) :
    ∃ blocks, packetizePyrowave packetsize minRequiredFecPackets criticalShards percentage detail
        extra info frame = some blocks ∧
      RoundTrips parity packetsize info frame blocks := by
  have hwide : 0 < (packetsize + 16).toNat := by omega
  have hminimum : max 2 (minParity minRequiredFecPackets) = 2 := by
    unfold minParity
    omega
  obtain ⟨hpositive, -, -⟩ := @pieces_flatten_length packetsize info frame hpacket
  have hshards := @pieces_length_eq_frameShards packetsize info frame
  have hwithin := planFecBlocks_within hpct (by decide) hplan
  rw [hminimum] at hplan
  obtain ⟨hcarries, hone, hfour⟩ := planFecBlocks_carries (hshards ▸ hpositive)
    (frameShards_sums hframe hpacket hpct criticalShards) hplan
  have hfew : (pieces packetsize info frame).length ≤ 4092 := by
    rw [hshards, ← hcarries.sum]
    exact le_trans (sum_le_of_forall hdata) (Nat.mul_le_mul_right _ hfour)
  have hvector := pieces_vector hpacket hint hfew
  have hchunks := (@pieces_chunked packetsize info frame hpacket).chunks_flatten hwide
  have hsum : 0 + (plan.map FecBlock.dataShards).sum =
      (chunks (packetsize + 16).toNat (pieces packetsize info frame).flatten).length := by
    rw [zero_add, hcarries.sum, hchunks, hshards]
  obtain ⟨hread, hplanned⟩ := plannedBlocks_spec hwide (ne_nil_of_length_pos hone) hsum
  have hsize : toSize (packetsize + 16) = (packetsize + 16).toNat :=
    toSize_of_nonneg (by omega) (by omega)
  refine ⟨(plannedBlocks (packetsize + 16).toNat (pieces packetsize info frame).flatten 0
    plan).map fun block => encodedOf (packetsize + 16).toNat 2 block.1 block.2, ?_, ?_⟩
  · unfold packetizePyrowave
    rw [framePayload_eq hpacket (by omega), if_pos (show _ < maxVectorSize from hvector)]
    simp only [Option.bind_eq_bind, Option.bind_some, hplan, hminimum, hsize]
    refine mapM_some fun block hmem => encode_eq hwide _ ?_ _
    obtain ⟨planned, hmem, hlength, -⟩ := hplanned block hmem
    rintro hnil
    rw [hnil, chunks_nil hwide] at hlength
    exact absurd (hcarries.positive planned hmem) (by rw [← hlength]; exact lt_irrefl 0)
  · refine roundTrips_of_carried parity hpacket hlast ?_ ?_ ?_
    · rw [length_map, plannedBlocks_length]
      exact hfour
    · refine forall_mem_map.mpr fun block hmem => ?_
      obtain ⟨planned, hmem, hlength, hpercent⟩ := hplanned block hmem
      obtain ⟨hlow, hhigh⟩ := hwithin planned hmem
      rw [hpercent]
      refine encodedOf_carried (by decide) (by omega) ?_ ?_ ?_
      · rw [hlength]
        exact hcarries.positive planned hmem
      · rw [hlength]
        exact hdata planned hmem
      · intro hne
        have hprotected : planned.fecPercentage ≠ 0 := by omega
        rw [hlength, parityOf_le hprotected hlow (by omega) (hdata planned hmem)]
        exact hcarries.fits planned hmem hprotected
    · rw [flatMap_map]
      simp only [encodedOf]
      rw [← map_flatMap, hread, drop_zero, hchunks]

/-- The shards of a frame give it back, with either split, where 16 bits hold the length of
its last payload and the block sizes are in the range of `int`. `blockShards` is the size of
the largest block of the even split. -/
theorem frame_round_trip (parity : Encoded → Nat → Bytes) (packetsize minRequiredFecPackets : Int)
    (info : FrameInfo) (frame : Bytes) (hpacket : 16 < packetsize)
    (hlast : lastPayload packetsize frame.length < 2 ^ 16)
    (hminimum : minRequiredFecPackets ≤ 2) :
    (∀ fecPercentage ≤ 255, maxDataShards fecPercentage * (packetsize + 16) < 2 ^ 31 →
      blockShards fecPercentage (frameShards packetsize frame.length) ≤ 1023 →
      ∃ blocks, packetize packetsize minRequiredFecPackets fecPercentage info frame = some blocks ∧
        RoundTrips parity packetsize info frame blocks) ∧
      (packetsize + 16 < 2 ^ 31 → frame.length < maxVectorSize → ∀ criticalShards criticalPercentage detailPercentage extraParity,
        criticalPercentage ≤ 255 → ∃ plan,
          planFecBlocks (frameShards packetsize frame.length) criticalShards criticalPercentage
            (max 2 (minParity minRequiredFecPackets)) detailPercentage extraParity = some plan ∧
          ((∀ block ∈ plan, block.dataShards ≤ 1023) →
            ∃ blocks, packetizePyrowave packetsize minRequiredFecPackets criticalShards
                criticalPercentage detailPercentage extraParity info frame = some blocks ∧
              RoundTrips parity packetsize info frame blocks)) := by
  constructor
  · intro fecPercentage hpct hint hdata
    have hcast : ((packetsize + 16).toNat : Int) = packetsize + 16 := by omega
    rw [← hcast] at hint
    exact standard_round_trip parity hpacket (by exact_mod_cast hint) hlast hminimum hpct
      hdata
  · intro hint hframe criticalShards criticalPercentage detailPercentage extraParity hpct
    obtain ⟨hpositive, -, -⟩ := @pieces_flatten_length packetsize info frame hpacket
    rw [@pieces_length_eq_frameShards packetsize info frame] at hpositive
    have hleast : max 2 (minParity minRequiredFecPackets) = 2 := by
      unfold minParity
      omega
    obtain ⟨plan, hplan, -⟩ := planFecBlocks_cases hpositive
      (hleast ▸ frameShards_sums hframe hpacket hpct criticalShards) detailPercentage
      extraParity
    exact ⟨plan, hplan,
      pyrowave_round_trip parity hpacket hint hlast hminimum hpct hframe hplan⟩

/-- A frame of a hundred bytes in packets of 64 bytes. -/
theorem frame_round_trip_small :
    ∃ blocks, packetize 64 2 20 {} (List.replicate 100 7) = some blocks ∧
      RoundTrips (fun _ _ => []) 64 {} (List.replicate 100 7) blocks :=
  (frame_round_trip (fun _ _ => []) 64 2 {} (List.replicate 100 7) (by decide) (by decide)
    (by decide)).1 20 (by decide) (by decide) (by decide)

/-- A frame that fills one payload of 65536 bytes: its length does not fit in the frame
header. -/
theorem last_payload_truncated :
    ∃ blocks, packetize 65552 2 20 {} (List.replicate 65528 7) = some blocks ∧
      blockShards 20 (frameShards 65552 65528) ≤ 1023 ∧
      ¬ RoundTrips (fun _ _ => []) 65552 {} (List.replicate 65528 7) blocks := by
  have hpos : 0 < payloadSize 65552 := by decide
  generalize hframe : List.replicate 65528 (7 : UInt8) = frame
  have hlength : frame.length = 65528 := by rw [← hframe, length_replicate]
  have hone : (pieces 65552 {} frame).length = 1 := by
    rw [pieces_length_eq_frameShards, hlength]
    decide
  have hvector := pieces_vector (by decide) (by decide) (Nat.le_of_eq hone |>.trans (by decide))
  have hheaded : (headed 65552 {} frame).length = payloadSize 65552 := by
    rw [headed_length, hlength]
    decide
  have hsplit : chunks (payloadSize 65552) (headed 65552 {} frame) =
      [] ++ [headed 65552 {} frame] := by
    rw [chunks_cons hpos (ne_nil_of_length_pos (hheaded ▸ hpos)),
      take_of_length_le (Nat.le_of_eq hheaded), drop_of_length_le (Nat.le_of_eq hheaded),
      chunks_nil hpos, nil_append]
  have hcarried : ∀ encoded ∈ encodedBlocks 65552 2 20 {} frame, encoded.Carried :=
    encodedBlocks_carried (by decide) (by decide) (by decide) (by rw [hone]; decide)
  have hpayloads : (sent (fun _ _ => []) (encodedBlocks 65552 2 20 {} frame)).flatMap readPayloads =
      ((pieces 65552 {} frame).map (padTo 65568)).map (List.drop packetHeaderBytes) := by
    rw [sent, sentFrom_payloads _ _ hcarried, encodedBlocks_shards (by decide) (by decide)]
    rfl
  refine ⟨_, packetize_eq (by decide) (by decide) hvector (by decide), by decide, fun htrips => ?_⟩
  -- the announced length is zero, so that the client keeps nothing
  have hzero : lastLen 65552 frame.length = 0 := by
    rw [hlength]
    decide
  have hread := readFrame_eq hsplit (by decide) (forall_mem_nil _) hpayloads
  rw [hzero, take_zero, flatten_nil, append_nil] at hread
  have hnone := congrArg List.length (hread.symm.trans htrips.2)
  rw [hheaded] at hnone
  exact absurd hnone (by decide)

end Vibeshine.VideoStream
