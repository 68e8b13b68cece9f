import Vibeshine.PyroWave.FitIndex
import Mathlib

/-! # Record framing

`write_record_frame` lays the block records of one PyroWave frame out so that a
receiver can use every shard that arrives: the coarsest wavelet level first, in each
level the oversized records first, and the others packed without crossing a shard
boundary. `inspect_record_frame` parses a frame as a receiver does.
-/

namespace Vibeshine.PyroWave

abbrev Bytes := List UInt8

def paddingMagic : Nat := 0xFFFFFFFF

def paddingRecordMinBytes : Nat := 8

def shardOverheadBytes : Int := 16

def frameHeaderBytes : Nat := 8

def sequenceHeaderBytes : Nat := 8

/-- `read_u32` at a position. -/
def readU32 (bytes : Bytes) (position : Nat) : Nat :=
  (bytes.getD position 0).toNat + (bytes.getD (position + 1) 0).toNat * 2 ^ 8 +
    (bytes.getD (position + 2) 0).toNat * 2 ^ 16 + (bytes.getD (position + 3) 0).toNat * 2 ^ 24

/-- The bytes `append_u32` appends. -/
def u32Bytes (value : Nat) : Bytes :=
  [UInt8.ofNat value, UInt8.ofNat (value / 2 ^ 8), UInt8.ofNat (value / 2 ^ 16),
    UInt8.ofNat (value / 2 ^ 24)]

/-- The bytes `append_padding` appends. -/
def paddingBytes (bytes : Nat) : Bytes :=
  u32Bytes paddingMagic ++ u32Bytes (bytes / 4 - 2) ++
    List.replicate (bytes - paddingRecordMinBytes) 0

structure Record where
  offset : Nat
  size : Nat
  blockIndex : Nat
  deriving DecidableEq

def oversized (recordBytes shardPayload : Nat) : Bool :=
  shardPayload < recordBytes + paddingRecordMinBytes

def shardRemaining (position shardPayload : Nat) : Nat :=
  shardPayload - (position + frameHeaderBytes) % shardPayload

def coarseBlockCount (width height : Nat) : Nat :=
  let blocks := fun extent => ((max ((extent + 31) / 32 * 32) 128 / 32) + 31) / 32
  blocks width * blocks height * 4 * 3

def shardPayloadBytes (packetsize : Int) : Nat :=
  if packetsize ≤ shardOverheadBytes then 0
  else
    let shard := (packetsize - shardOverheadBytes).toNat
    if shard < frameHeaderBytes + sequenceHeaderBytes + paddingRecordMinBytes ∨ shard % 4 ≠ 0 then 0
    else shard

/-! ## Writing -/

structure RecordFrameStats where
  blockRecords : Nat := 0
  paddingRecords : Nat := 0
  paddingBytes : Nat := 0
  oversizedRecords : Nat := 0
  reorderedRecords : Nat := 0
  criticalBytes : Nat := 0
  deriving DecidableEq

/-- The block records from a position on. A record has at least eight bytes, so that
the fuel of `parseFrame` is never spent. -/
def splitRecords (bitstream : Bytes) : Nat → Nat → Option (List Record)
  | fuel, position =>
    if bitstream.length ≤ position then some []
    else
      match fuel with
      | 0 => none
      | fuel + 1 =>
        if bitstream.length - position < 8 then none
        else
          let word0 := readU32 bitstream position
          let payloadWords := word0 / 2 ^ 16 % 2 ^ 12
          if word0 / 2 ^ 31 ≠ 0 ∨ payloadWords < 2 ∨
              bitstream.length - position < payloadWords * 4 then none
          else
            (splitRecords bitstream fuel (position + payloadWords * 4)).map fun records =>
              ⟨position, payloadWords * 4, readU32 bitstream (position + 4) / 2 ^ 8⟩ :: records

/-- The checks of `write_record_frame`, with the records of an accepted bitstream. -/
def parseFrame (bitstream : Bytes) (frameLimit : Nat) : Option (List Record) :=
  if bitstream.length < 8 ∨ readU32 bitstream 0 / 2 ^ 31 = 0 ∨
      (frameLimit ≠ 0 ∧ frameLimit < bitstream.length) then none
  else splitRecords bitstream bitstream.length 8

/-- The output with its statistics. -/
structure Writing where
  out : Bytes
  stats : RecordFrameStats

/-- What the packer reads: the bitstream, the shard payload, and where the frame starts. -/
structure Packer where
  bitstream : Bytes
  shardPayload : Nat
  frameStart : Nat

variable (p : Packer) (record : Record) (w : Writing)

namespace Packer

def recordBytes : Bytes :=
  (p.bitstream.drop record.offset).take record.size

def remaining : Nat :=
  shardRemaining (w.out.length - p.frameStart) p.shardPayload

def place : Writing :=
  { w with out := w.out ++ p.recordBytes record }

end Packer

def Writing.pad (bytes : Nat) : Writing :=
  { out := w.out ++ PyroWave.paddingBytes bytes
    stats := { w.stats with
      paddingRecords := w.stats.paddingRecords + 1
      paddingBytes := w.stats.paddingBytes + bytes } }

namespace Packer

def placeOversized : Writing :=
  let w := if record.size % p.shardPayload = p.remaining w - 4 then w.pad paddingRecordMinBytes
    else w
  let w := p.place record w
  { w with stats := { w.stats with oversizedRecords := w.stats.oversizedRecords + 1 } }

def placeAllOversized (group : List Record) (w : Writing) : Writing × List Record :=
  group.foldl (fun (state : Writing × List Record) record =>
    if oversized record.size p.shardPayload then (p.placeOversized record state.1, state.2)
    else (state.1, state.2 ++ [record])) (w, [])

/-- The locals of the packing loop. -/
structure Filling where
  fit : FitIndex
  placed : Nat → Bool
  earliest : Nat
  left : Nat
  writing : Writing

/-- `while (placed[earliest]) ++earliest`. -/
def skipPlaced (placed : Nat → Bool) : Nat → Nat → Option Nat
  | 0, _ => none
  | fuel + 1, earliest =>
    if placed earliest then skipPlaced placed fuel (earliest + 1) else some earliest

def choose (fit : FitIndex) (words : List Nat) (room : Nat) : WithTop Nat :=
  match (fit.earliestFitting (room / 4) : Option Nat) with
  | none => ⊤
  | some chosen =>
    if room - words.getD chosen 0 * 4 = 4 then
      -- that would strand 4 bytes
      min (fit.earliestExact (room / 4))
        (if 16 ≤ room then fit.earliestFitting ((room - 8) / 4) else ⊤)
    else WithTop.some chosen

def fillRound (ordinary : List Record) (words : List Nat) (state : Filling)
    (earliest : Nat) : Filling :=
  let room := p.remaining state.writing
  match (choose state.fit words room : Option Nat) with
  | none => { state with earliest := earliest, writing := state.writing.pad room }
  | some chosen =>
    let stats := state.writing.stats
    let stats := if chosen = earliest then stats
      else { stats with reorderedRecords := stats.reorderedRecords + 1 }
    { fit := state.fit.remove (words.getD chosen 0)
      placed := Function.update state.placed chosen true
      earliest := earliest
      left := state.left - 1
      writing := p.place (ordinary.getD chosen ⟨0, 0, 0⟩) { state.writing with stats := stats } }

def fillShards (p : Packer) (ordinary : List Record) (words : List Nat) :
    Nat → Filling → Option Filling
  | fuel, state =>
    if state.left = 0 then some state
    else
      match fuel with
      | 0 => none
      | fuel + 1 =>
        (skipPlaced state.placed (ordinary.length + 1) state.earliest).bind fun earliest =>
          fillShards p ordinary words fuel (p.fillRound ordinary words state earliest)

def packGroup (fuel : Nat) (group : List Record) (w : Writing) : Option Writing :=
  let (w, ordinary) := p.placeAllOversized group w
  let words := ordinary.map fun record => record.size / 4
  (p.fillShards ordinary words fuel
    { fit := FitIndex.build words
      placed := fun _ => false
      earliest := 0
      left := ordinary.length
      writing := w }).map (·.writing)

end Packer

/-- `write_record_frame`, with the new content of `out`; nothing when the fuel of its
packing loops is spent. -/
def writeRecordFrame (fuel : Nat) (bitstream : Bytes) (shardPayload : Nat) (out : Bytes)
    (frameLimit : Nat) : Option (Option RecordFrameStats × Bytes) :=
  match parseFrame bitstream frameLimit with
  | none => some (none, out)
  | some records =>
    let start : Writing :=
      { out := out ++ bitstream.take 8, stats := { blockRecords := records.length } }
    if shardPayload = 0 then some (some start.stats, start.out ++ bitstream.drop 8)
    else
      let p : Packer := ⟨bitstream, shardPayload, out.length⟩
      let word := readU32 bitstream 0
      let coarseBlocks := coarseBlockCount (word % 2 ^ 14 + 1) (word / 2 ^ 14 % 2 ^ 14 + 1)
      let coarse := records.filter fun record => record.blockIndex < coarseBlocks
      let fine := records.filter fun record => !(record.blockIndex < coarseBlocks)
      (p.packGroup fuel coarse start).bind fun w =>
        let w := { w with stats := { w.stats with criticalBytes := w.out.length - out.length } }
        (p.packGroup fuel fine w).map fun w =>
          if frameLimit ≠ 0 ∧ frameLimit < w.out.length - out.length then
            let w := coarse.foldl (fun w record => p.place record w) start
            let w := { w with stats :=
              { w.stats with criticalBytes := w.out.length - out.length } }
            let w := fine.foldl (fun w record => p.place record w) w
            (some w.stats, w.out)
          else (some w.stats, w.out)

/-! ## Inspection -/

structure RecordFrameInfo where
  valid : Bool := false
  error : String := ""
  hasSequenceHeader : Bool := false
  width : Nat := 0
  height : Nat := 0
  chroma444 : Bool := false
  totalBlocks : Nat := 0
  blockRecords : Nat := 0
  paddingRecords : Nat := 0
  paddingBytes : Nat := 0
  misalignedRecords : Nat := 0
  outOfOrderRecords : Nat := 0
  oversizedRecords : Nat := 0
  lateOversizedRecords : Nat := 0
  lateCoarseRecords : Nat := 0
  criticalBytes : Nat := 0
  stripped : Bytes := []
  deriving DecidableEq

/-- The locals of `inspect_record_frame`. -/
structure Inspecting where
  info : RecordFrameInfo := {}
  position : Nat := 0
  lastBlockIndex : Nat := 0
  coarseBlocks : Nat := 0
  seenOrdinaryCoarse : Bool := false
  seenOrdinaryFine : Bool := false
  seenFine : Bool := false

namespace Inspecting

variable (s : Inspecting)

def fail (error : String) : RecordFrameInfo :=
  { s.info with valid := false, error := error }

/-- `note_alignment`, with whether the record is oversized. -/
def noteAlignment (shardPayload size : Nat) : Bool × Inspecting :=
  if shardPayload = 0 then (false, s)
  else
    let wireStart := s.position + frameHeaderBytes
    if oversized size shardPayload then
      (true, { s with info := { s.info with oversizedRecords := s.info.oversizedRecords + 1 } })
    else if wireStart / shardPayload ≠ (wireStart + size - 1) / shardPayload then
      (false, { s with info := { s.info with misalignedRecords := s.info.misalignedRecords + 1 } })
    else (false, s)

def notePadding (shardPayload bytes : Nat) : Inspecting :=
  let s := { s with info := { s.info with
    paddingRecords := s.info.paddingRecords + 1
    paddingBytes := s.info.paddingBytes + bytes } }
  let s := (s.noteAlignment shardPayload bytes).2
  { s with position := s.position + bytes }

def noteHeader (shardPayload word0 word1 : Nat) (record : Bytes) : Inspecting :=
  let s := { s with
    info := { s.info with
      hasSequenceHeader := true
      width := word0 % 2 ^ 14 + 1
      height := word0 / 2 ^ 14 % 2 ^ 14 + 1
      totalBlocks := word1 % 2 ^ 24
      chroma444 := word1 / 2 ^ 26 % 2 ≠ 0
      criticalBytes := s.position + 8 }
    coarseBlocks := coarseBlockCount (word0 % 2 ^ 14 + 1) (word0 / 2 ^ 14 % 2 ^ 14 + 1) }
  let s := (s.noteAlignment shardPayload 8).2
  { s with
    info := { s.info with stripped := s.info.stripped ++ record }
    position := s.position + 8 }

def noteLevel (shardPayload blockIndex bytes : Nat) : Inspecting :=
  let coarse := decide (blockIndex < s.coarseBlocks)
  let s := if coarse && s.seenFine then
      { s with info := { s.info with lateCoarseRecords := s.info.lateCoarseRecords + 1 } }
    else s
  let (spans, s) := s.noteAlignment shardPayload bytes
  let s := if spans then
      if (if coarse then s.seenOrdinaryCoarse else s.seenOrdinaryFine) then
        { s with info := { s.info with lateOversizedRecords := s.info.lateOversizedRecords + 1 } }
      else s
    else if coarse then { s with seenOrdinaryCoarse := true }
    else { s with seenOrdinaryFine := true }
  if coarse then { s with info := { s.info with criticalBytes := s.position + bytes } }
  else { s with seenFine := true }

def noteBlock (shardPayload blockIndex bytes : Nat) (record : Bytes) : Inspecting :=
  let s := if s.info.blockRecords ≠ 0 ∧ blockIndex < s.lastBlockIndex then
      { s with info := { s.info with outOfOrderRecords := s.info.outOfOrderRecords + 1 } }
    else s
  let s := { s with
    lastBlockIndex := blockIndex
    info := { s.info with blockRecords := s.info.blockRecords + 1 } }
  let s := if shardPayload = 0 then s else s.noteLevel shardPayload blockIndex bytes
  { s with
    info := { s.info with stripped := s.info.stripped ++ record }
    position := s.position + bytes }

end Inspecting

/-- The loop of `inspect_record_frame`. Every record has at least eight bytes, so that
the fuel of `inspectRecordFrame` is never spent. -/
def inspectFrom (frame : Bytes) (shardPayload : Nat) : Nat → Inspecting → RecordFrameInfo
  | 0, s => s.info
  | fuel + 1, s =>
    if s.position < frame.length then
      if frame.length - s.position < 8 then
        s.fail ("truncated record header at byte " ++ toString s.position)
      else
        let word0 := readU32 frame s.position
        let word1 := readU32 frame (s.position + 4)
        if word0 = paddingMagic then
          let bytes := paddingRecordMinBytes + word1 * 4
          if frame.length - s.position < bytes then
            s.fail ("padding record runs past the end of the frame at byte " ++ toString s.position)
          else inspectFrom frame shardPayload fuel (s.notePadding shardPayload bytes)
        else if word0 / 2 ^ 31 ≠ 0 then
          if s.info.hasSequenceHeader then
            s.fail ("second sequence header at byte " ++ toString s.position)
          else if s.info.blockRecords ≠ 0 then s.fail "sequence header after block records"
          else if word1 / 2 ^ 24 % 4 ≠ 0 then
            -- the header fields read before the code stay in the result
            { s.info with
              hasSequenceHeader := true
              width := word0 % 2 ^ 14 + 1
              height := word0 / 2 ^ 14 % 2 ^ 14 + 1
              totalBlocks := word1 % 2 ^ 24
              error := "sequence header code " ++ toString (word1 / 2 ^ 24 % 4) ++
                " is not START_OF_FRAME" }
          else
            inspectFrom frame shardPayload fuel (s.noteHeader shardPayload word0 word1
              ((frame.drop s.position).take 8))
        else if !s.info.hasSequenceHeader then s.fail "block record before the sequence header"
        else
          let payloadWords := word0 / 2 ^ 16 % 2 ^ 12
          if payloadWords < 2 then
            s.fail ("block record with payload_words " ++ toString payloadWords ++ " at byte " ++
              toString s.position)
          else if frame.length - s.position < payloadWords * 4 then
            s.fail ("block record runs past the end of the frame at byte " ++ toString s.position)
          else
            inspectFrom frame shardPayload fuel (s.noteBlock shardPayload (word1 / 2 ^ 8)
              (payloadWords * 4) ((frame.drop s.position).take (payloadWords * 4)))
    else if !s.info.hasSequenceHeader then s.fail "frame has no sequence header"
    else { s.info with valid := true }

variable (frame : Bytes)

def inspectRecordFrame (shardPayload : Nat) : RecordFrameInfo :=
  inspectFrom frame shardPayload (frame.length + 1) {}

/-- The size of the record at a position, as `record_start_shards` reads it. Only the
size of a block record may be less than eight. -/
def recordSize (position : Nat) : Nat :=
  let word0 := readU32 frame position
  if word0 = paddingMagic then paddingRecordMinBytes + readU32 frame (position + 4) * 4
  else if word0 / 2 ^ 31 ≠ 0 then 8
  else word0 / 2 ^ 16 % 2 ^ 12 * 4

/-- The loop of `record_start_shards`; an empty result when the frame cannot be walked. -/
def startsFrom (frame : Bytes) (shardPayload : Nat) : Nat → Nat → List Bool → List Bool
  | 0, _, _ => []
  | fuel + 1, position, starts =>
    if position < frame.length then
      if frame.length - position < 8 then []
      else
        let starts :=
          if (position + frameHeaderBytes) % shardPayload = 0 ∨ position = 0 then
            starts.set ((position + frameHeaderBytes) / shardPayload) true
          else starts
        let bytes := recordSize frame position
        if bytes < 8 ∨ frame.length - position < bytes then []
        else startsFrom frame shardPayload fuel (position + bytes) starts
    else starts

def recordStartShards (shardPayload : Nat) : List Bool :=
  if shardPayload = 0 ∨ frame = [] then []
  else
    startsFrom frame shardPayload (frame.length + 1) 0
      (List.replicate ((frame.length + frameHeaderBytes + shardPayload - 1) / shardPayload) false)

end Vibeshine.PyroWave
