import Vibeshine.PyroWave.Packing

/-! # What a receiver reads

`inspect_record_frame` walks a written frame item by item, so that a frame can be judged
by its layout; `record_start_shards` finds the shards where a receiver can start.
-/

namespace Vibeshine.PyroWave

open List

def Item.Readable (bitstream : Bytes) : Item → Prop
  | .block record => record.Sound bitstream
  | .padding size => 8 ≤ size ∧ size % 4 = 0 ∧ size < 2 ^ 32

variable {bitstream : Bytes} {item : Item}

lemma Item.Readable.sound (h : item.Readable bitstream) : item.Sound bitstream := by
  cases item with
  | block record => exact h
  | padding size => exact h.1

lemma readable_of_laid {shard position : Nat} {items : List Item}
    (hpos : 0 < shard) (hsmall : shard < 2 ^ 32) (hlaid : Laid shard position items)
    (hsound : ∀ item ∈ items, item.Sound bitstream) : ∀ item ∈ items, item.Readable bitstream := by
  induction items generalizing position with
  | nil => exact fun _ hitem => by cases hitem
  | cons item rest ih =>
    obtain ⟨hitem, hrest⟩ := forall_mem_cons.mp hsound
    refine forall_mem_cons.mpr ⟨?_, ih hlaid.2 hrest⟩
    cases item with
    | block record => exact hitem
    | padding size =>
      obtain ⟨hleast, haligned, hfits⟩ := hlaid.1
      have := (shardRemaining_pos position hpos).2
      exact ⟨hleast, haligned, by omega⟩

lemma read_block {record : Record} (h : record.Sound bitstream) (before after : Bytes) :
    readU32 (before ++ ((Item.block record).bytes bitstream ++ after)) before.length =
        readU32 bitstream record.offset ∧
      readU32 (before ++ ((Item.block record).bytes bitstream ++ after)) (before.length + 4) =
        readU32 bitstream (record.offset + 4) := by
  have hleast := h.least
  have hlength : ((Item.block record).bytes bitstream).length = record.size := h.length_bytes
  constructor
  · exact (readU32_middle before after (show 0 + 4 ≤ _ by omega)).trans
      (readU32_slice bitstream record.offset (by omega))
  · exact (readU32_middle before after (by omega)).trans
      (readU32_slice bitstream record.offset (by omega))

lemma read_padding (bitstream : Bytes) {size : Nat} (hleast : 8 ≤ size) (hsmall : size < 2 ^ 32)
    (before after : Bytes) :
    readU32 (before ++ ((Item.padding size).bytes bitstream ++ after)) before.length =
        paddingMagic ∧
      readU32 (before ++ ((Item.padding size).bytes bitstream ++ after)) (before.length + 4) =
        size / 4 - 2 := by
  have hlength : ((Item.padding size).bytes bitstream).length = size := paddingBytes_length hleast
  constructor
  · exact (readU32_middle before after (show 0 + 4 ≤ _ by omega)).trans (paddingBytes_magic size)
  · exact (readU32_middle before after (by omega)).trans (paddingBytes_words hsmall)

/-! ## Noting an item -/

def noteItem (bitstream : Bytes) (shard : Nat) (s : Inspecting) : Item → Inspecting
  | .block record => s.noteBlock shard record.blockIndex record.size (record.bytes bitstream)
  | .padding size => s.notePadding shard size

def noteItems (bitstream : Bytes) (shard : Nat) (s : Inspecting) (items : List Item) : Inspecting :=
  items.foldl (noteItem bitstream shard) s

/-- What is noted of any items. -/
structure Noted (bitstream : Bytes) (s s' : Inspecting) (items : List Item) : Prop where
  position : s'.position = s.position + extent items
  coarseBlocks : s'.coarseBlocks = s.coarseBlocks
  hasSequenceHeader : s'.info.hasSequenceHeader = s.info.hasSequenceHeader
  blockRecords : s'.info.blockRecords = s.info.blockRecords + (blocks items).length
  paddingRecords : s'.info.paddingRecords = s.info.paddingRecords + (paddings items).length
  paddingBytes : s'.info.paddingBytes = s.info.paddingBytes + (paddings items).sum
  stripped : s'.info.stripped = s.info.stripped ++ (blocks items).flatMap (Record.bytes bitstream)

lemma noted_nil (bitstream : Bytes) (s : Inspecting) : Noted bitstream s s [] :=
  ⟨rfl, rfl, rfl, rfl, rfl, rfl, (append_nil _).symm⟩

lemma Noted.trans {bitstream : Bytes} {s s' s'' : Inspecting} {first second : List Item}
    (hfirst : Noted bitstream s s' first) (hsecond : Noted bitstream s' s'' second) :
    Noted bitstream s s'' (first ++ second) where
  position := by rw [hsecond.position, hfirst.position, extent_append, add_assoc]
  coarseBlocks := hsecond.coarseBlocks.trans hfirst.coarseBlocks
  hasSequenceHeader := hsecond.hasSequenceHeader.trans hfirst.hasSequenceHeader
  blockRecords := by
    rw [hsecond.blockRecords, hfirst.blockRecords, blocks_append, length_append, add_assoc]
  paddingRecords := by
    rw [hsecond.paddingRecords, hfirst.paddingRecords, paddings_append, length_append, add_assoc]
  paddingBytes := by
    rw [hsecond.paddingBytes, hfirst.paddingBytes, paddings_append, sum_append, add_assoc]
  stripped := by
    rw [hsecond.stripped, hfirst.stripped, blocks_append, flatMap_append, append_assoc]

/-- The counters of misplaced records after one that stands where it belongs. -/
def Inspecting.Spares (s : Inspecting) (shard blockIndex size mis lateOversized lateCoarse : Nat) :
    Prop :=
  ((oversized size shard = false → (s.position + frameHeaderBytes) / shard =
    (s.position + frameHeaderBytes + size - 1) / shard) → mis = s.info.misalignedRecords) ∧
  ((blockIndex < s.coarseBlocks → s.seenFine = false) → lateCoarse = s.info.lateCoarseRecords) ∧
  ((oversized size shard = true →
    (if blockIndex < s.coarseBlocks then s.seenOrdinaryCoarse else s.seenOrdinaryFine) = false) →
      lateOversized = s.info.lateOversizedRecords)

variable (s : Inspecting) {shard : Nat}

section

variable (hshard : shard ≠ 0)

include hshard

lemma noteAlignment_eq (size : Nat) :
    ∃ spans mis, s.noteAlignment shard size = (oversized size shard, { s with info := { s.info with
      oversizedRecords := spans
      misalignedRecords := mis } }) ∧
      ((oversized size shard = false → (s.position + frameHeaderBytes) / shard =
        (s.position + frameHeaderBytes + size - 1) / shard) → mis = s.info.misalignedRecords) := by
  unfold Inspecting.noteAlignment
  rw [if_neg hshard]
  dsimp only
  split
  · next hover =>
    exact ⟨_, s.info.misalignedRecords, by rw [hover], fun _ => rfl⟩
  · next hover =>
    rw [Bool.not_eq_true] at hover
    rw [hover]
    split
    · next hcross => exact ⟨s.info.oversizedRecords, _, rfl, fun h => absurd (h rfl) hcross⟩
    · exact ⟨s.info.oversizedRecords, s.info.misalignedRecords, rfl, fun _ => rfl⟩

lemma notePadding_eq (size : Nat) : ∃ spans mis, s.notePadding shard size = { s with
      position := s.position + size
      info := { s.info with
        paddingRecords := s.info.paddingRecords + 1
        paddingBytes := s.info.paddingBytes + size
        oversizedRecords := spans
        misalignedRecords := mis } } ∧
      ((oversized size shard = false → (s.position + frameHeaderBytes) / shard =
        (s.position + frameHeaderBytes + size - 1) / shard) → mis = s.info.misalignedRecords) := by
  obtain ⟨spans, mis, heq, hmis⟩ := noteAlignment_eq { s with info := { s.info with
    paddingRecords := s.info.paddingRecords + 1
    paddingBytes := s.info.paddingBytes + size } } hshard size
  refine ⟨spans, mis, ?_, hmis⟩
  unfold Inspecting.notePadding
  dsimp only
  rw [heq]

lemma noteLevel_eq (blockIndex size : Nat) :
    ∃ spans mis lateOversized lateCoarse, s.noteLevel shard blockIndex size = { s with
        info := { s.info with
          oversizedRecords := spans
          misalignedRecords := mis
          lateOversizedRecords := lateOversized
          lateCoarseRecords := lateCoarse
          criticalBytes :=
            if blockIndex < s.coarseBlocks then s.position + size else s.info.criticalBytes }
        seenOrdinaryCoarse := s.seenOrdinaryCoarse ||
          (decide (blockIndex < s.coarseBlocks) && !oversized size shard)
        seenOrdinaryFine := s.seenOrdinaryFine ||
          (!decide (blockIndex < s.coarseBlocks) && !oversized size shard)
        seenFine := s.seenFine || !decide (blockIndex < s.coarseBlocks) } ∧
      s.Spares shard blockIndex size mis lateOversized lateCoarse := by
  obtain ⟨lateCoarse, hfirst, hlateCoarse⟩ : ∃ lateCoarse,
      (if decide (blockIndex < s.coarseBlocks) && s.seenFine then
        { s with info := { s.info with lateCoarseRecords := s.info.lateCoarseRecords + 1 } }
      else s) = { s with info := { s.info with lateCoarseRecords := lateCoarse } } ∧
      ((blockIndex < s.coarseBlocks → s.seenFine = false) →
        lateCoarse = s.info.lateCoarseRecords) := by
    split
    · next hlate =>
      rw [Bool.and_eq_true, decide_eq_true_eq] at hlate
      refine ⟨_, rfl, fun h => ?_⟩
      rw [h hlate.1] at hlate
      cases hlate.2
    · exact ⟨s.info.lateCoarseRecords, rfl, fun _ => rfl⟩
  obtain ⟨spans, mis, halign, hmis⟩ := noteAlignment_eq
    { s with info := { s.info with lateCoarseRecords := lateCoarse } } hshard size
  unfold Inspecting.noteLevel
  dsimp only
  rw [hfirst, halign]
  -- one case for each level, and each way a record may lie
  by_cases hcoarse : blockIndex < s.coarseBlocks
  all_goals
    cases hover : oversized size shard with
    | true =>
      cases hseen : if blockIndex < s.coarseBlocks then s.seenOrdinaryCoarse else
          s.seenOrdinaryFine with
      | true =>
        simp only [hcoarse, if_true, if_false] at hseen
        exact ⟨spans, mis, s.info.lateOversizedRecords + 1, lateCoarse, by simp [hcoarse, hseen],
          by simpa [hover] using hmis, hlateCoarse,
          fun h => absurd (h hover) (by simp [hcoarse, hseen])⟩
      | false =>
        simp only [hcoarse, if_true, if_false] at hseen
        exact ⟨spans, mis, s.info.lateOversizedRecords, lateCoarse, by simp [hcoarse, hseen],
          by simpa [hover] using hmis, hlateCoarse, fun _ => rfl⟩
    | false =>
      exact ⟨spans, mis, s.info.lateOversizedRecords, lateCoarse, by simp [hcoarse],
        by simpa [hover] using hmis, hlateCoarse, fun _ => rfl⟩

lemma noteBlock_eq (blockIndex size : Nat) (record : Bytes) :
    ∃ spans mis order lateOversized lateCoarse, s.noteBlock shard blockIndex size record = { s with
        info := { s.info with
          blockRecords := s.info.blockRecords + 1
          outOfOrderRecords := order
          oversizedRecords := spans
          misalignedRecords := mis
          lateOversizedRecords := lateOversized
          lateCoarseRecords := lateCoarse
          criticalBytes :=
            if blockIndex < s.coarseBlocks then s.position + size else s.info.criticalBytes
          stripped := s.info.stripped ++ record }
        position := s.position + size
        lastBlockIndex := blockIndex
        seenOrdinaryCoarse := s.seenOrdinaryCoarse ||
          (decide (blockIndex < s.coarseBlocks) && !oversized size shard)
        seenOrdinaryFine := s.seenOrdinaryFine ||
          (!decide (blockIndex < s.coarseBlocks) && !oversized size shard)
        seenFine := s.seenFine || !decide (blockIndex < s.coarseBlocks) } ∧
      s.Spares shard blockIndex size mis lateOversized lateCoarse := by
  obtain ⟨order, hfirst⟩ : ∃ order, (if s.info.blockRecords ≠ 0 ∧ blockIndex < s.lastBlockIndex then
        { s with info := { s.info with outOfOrderRecords := s.info.outOfOrderRecords + 1 } }
      else s) = { s with info := { s.info with outOfOrderRecords := order } } := by
    split
    · exact ⟨_, rfl⟩
    · exact ⟨s.info.outOfOrderRecords, rfl⟩
  obtain ⟨spans, mis, lateOversized, lateCoarse, hlevel, hspares⟩ := noteLevel_eq
    { s with
      lastBlockIndex := blockIndex
      info := { s.info with
        blockRecords := s.info.blockRecords + 1
        outOfOrderRecords := order } } hshard blockIndex size
  refine ⟨spans, mis, order, lateOversized, lateCoarse, ?_, hspares⟩
  unfold Inspecting.noteBlock
  dsimp only
  rw [hfirst, if_neg hshard, hlevel]

end

lemma noted_item (bitstream : Bytes) {shard : Nat} (hshard : shard ≠ 0) (s : Inspecting)
    (item : Item) : Noted bitstream s (noteItem bitstream shard s item) [item] := by
  cases item with
  | block record =>
    obtain ⟨spans, mis, order, lateOversized, lateCoarse, heq, -⟩ :=
      noteBlock_eq s hshard record.blockIndex record.size (record.bytes bitstream)
    rw [noteItem, heq]
    exact ⟨rfl, rfl, rfl, rfl, rfl, rfl, by simp [blocks, Item.record?]⟩
  | padding size =>
    obtain ⟨spans, mis, heq, -⟩ := notePadding_eq s hshard size
    rw [noteItem, heq]
    exact ⟨rfl, rfl, rfl, rfl, rfl, rfl, by simp [blocks, Item.record?]⟩

lemma noted_items (bitstream : Bytes) {shard : Nat} (hshard : shard ≠ 0) (s : Inspecting)
    (items : List Item) : Noted bitstream s (noteItems bitstream shard s items) items := by
  induction items generalizing s with
  | nil => exact noted_nil bitstream s
  | cons item rest ih => exact (noted_item bitstream hshard s item).trans (ih _)

lemma noteItems_append (bitstream : Bytes) (shard : Nat) (s : Inspecting)
    (first second : List Item) : noteItems bitstream shard s (first ++ second) =
      noteItems bitstream shard (noteItems bitstream shard s first) second :=
  foldl_append

lemma same_shard {position size shard : Nat} (hpos : 0 < shard) (hsize : 0 < size)
    (hfits : size ≤ shardRemaining position shard) :
    (position + frameHeaderBytes) / shard = (position + frameHeaderBytes + size - 1) / shard := by
  unfold shardRemaining at hfits
  generalize position + frameHeaderBytes = start at hfits ⊢
  have hmod := Nat.mod_lt start hpos
  have hdiv := Nat.div_add_mod start shard
  have hlast : start + size - 1 = (start % shard + size - 1) + shard * (start / shard) := by omega
  have hsame : (start % shard + size - 1) / shard = 0 := Nat.div_eq_of_lt (by omega)
  rw [hlast, Nat.add_mul_div_left _ _ hpos, hsame, zero_add]

lemma Item.Fits.inside {shard position : Nat} (h : item.Fits shard position) :
    oversized item.size shard = false → item.size ≤ shardRemaining position shard := by
  cases item with
  | block record => exact h.1
  | padding size => exact fun _ => h.2.2

lemma Item.Sound.pos (h : item.Sound bitstream) : 8 ≤ item.size := by
  cases item with
  | block record => exact Record.Sound.least h
  | padding size => exact h

/-! ## The order of the records -/

/-- Items whose records are all of one level, and all oversized or all ordinary, leave
nothing to complain about. -/
structure Orderly (coarse spans : Bool) (s s' : Inspecting) : Prop where
  misaligned : s'.info.misalignedRecords = s.info.misalignedRecords
  lateOversized : s'.info.lateOversizedRecords = s.info.lateOversizedRecords
  lateCoarse : s'.info.lateCoarseRecords = s.info.lateCoarseRecords
  fine : coarse = true → s'.seenFine = s.seenFine
  ordinaryCoarse : coarse = false ∨ spans = true → s'.seenOrdinaryCoarse = s.seenOrdinaryCoarse
  ordinaryFine : coarse = true ∨ spans = true → s'.seenOrdinaryFine = s.seenOrdinaryFine
  critical : coarse = false → s'.info.criticalBytes = s.info.criticalBytes

lemma Orderly.trans {coarse spans : Bool} {s s' s'' : Inspecting}
    (hfirst : Orderly coarse spans s s') (hsecond : Orderly coarse spans s' s'') :
    Orderly coarse spans s s'' where
  misaligned := hsecond.misaligned.trans hfirst.misaligned
  lateOversized := hsecond.lateOversized.trans hfirst.lateOversized
  lateCoarse := hsecond.lateCoarse.trans hfirst.lateCoarse
  fine h := (hsecond.fine h).trans (hfirst.fine h)
  ordinaryCoarse h := (hsecond.ordinaryCoarse h).trans (hfirst.ordinaryCoarse h)
  ordinaryFine h := (hsecond.ordinaryFine h).trans (hfirst.ordinaryFine h)
  critical h := (hsecond.critical h).trans (hfirst.critical h)

lemma orderly_item (bitstream : Bytes) {shard : Nat} (hpos : 0 < shard) {coarse spans : Bool}
    {s : Inspecting} {item : Item} (hblock : ∀ record, item = .block record →
      decide (record.blockIndex < s.coarseBlocks) = coarse ∧ oversized record.size shard = spans)
    (hfits : item.Fits shard s.position) (hsize : 0 < item.size)
    (hfine : coarse = true → s.seenFine = false) (hspan : spans = true →
      (if coarse then s.seenOrdinaryCoarse else s.seenOrdinaryFine) = false) :
    Orderly coarse spans s (noteItem bitstream shard s item) := by
  have hshard : shard ≠ 0 := Nat.ne_of_gt hpos
  have haligned : oversized item.size shard = false → (s.position + frameHeaderBytes) / shard =
      (s.position + frameHeaderBytes + item.size - 1) / shard :=
    fun hordinary => same_shard hpos hsize (hfits.inside hordinary)
  cases item with
  | block record =>
    obtain ⟨hcoarse, hover⟩ := hblock record rfl
    obtain ⟨_, mis, _, lateOversized, lateCoarse, heq, hmis, hlateCoarse, hlateOversized⟩ :=
      noteBlock_eq s hshard record.blockIndex record.size (record.bytes bitstream)
    rw [noteItem, heq]
    refine ⟨hmis haligned, hlateOversized fun h => ?_, hlateCoarse fun h => hfine ?_, ?_, ?_, ?_,
      ?_⟩
    · have hseen := hspan (hover.symm.trans h)
      rw [← hcoarse] at hseen
      simpa using hseen
    · rw [← hcoarse, decide_eq_true h]
    · rintro rfl
      rw [hcoarse]
      simp
    · rw [hcoarse, hover]
      rintro (rfl | rfl) <;> simp
    · rw [hcoarse, hover]
      rintro (rfl | rfl) <;> simp
    · rintro rfl
      exact if_neg (of_decide_eq_false hcoarse)
  | padding size =>
    obtain ⟨_, mis, heq, hmis⟩ := notePadding_eq s hshard size
    rw [noteItem, heq]
    exact ⟨hmis haligned, rfl, rfl, fun _ => rfl, fun _ => rfl, fun _ => rfl, fun _ => rfl⟩

lemma orderly_items (hpos : 0 < shard) {coarse spans : Bool} {s : Inspecting} {items : List Item}
    (hblocks : ∀ record ∈ blocks items,
      decide (record.blockIndex < s.coarseBlocks) = coarse ∧ oversized record.size shard = spans)
    (hlaid : Laid shard s.position items) (hsound : ∀ item ∈ items, item.Sound bitstream)
    (hfine : coarse = true → s.seenFine = false) (hspan : spans = true →
      (if coarse then s.seenOrdinaryCoarse else s.seenOrdinaryFine) = false) :
    Orderly coarse spans s (noteItems bitstream shard s items) := by
  induction items generalizing s with
  | nil => exact ⟨rfl, rfl, rfl, fun _ => rfl, fun _ => rfl, fun _ => rfl, fun _ => rfl⟩
  | cons item rest ih =>
    obtain ⟨hitem, hrest⟩ := forall_mem_cons.mp hsound
    have hnoted := noted_item bitstream (Nat.ne_of_gt hpos) s item
    have hmem : ∀ record, item = .block record → record ∈ blocks (item :: rest) := by
      rintro record rfl
      exact mem_cons_self
    have hstep : Orderly coarse spans s (noteItem bitstream shard s item) :=
      orderly_item bitstream hpos (fun record hrecord => hblocks record (hmem record hrecord))
        hlaid.1 (by have := hitem.pos; omega) hfine hspan
    refine hstep.trans (ih (fun record hrecord => ?_) ?_ hrest (fun h => ?_) fun h => ?_)
    · rw [hnoted.coarseBlocks]
      refine hblocks record ?_
      rw [← singleton_append, blocks_append]
      exact mem_append_right _ hrecord
    · rw [hnoted.position, extent_singleton]
      exact hlaid.2
    · rw [hstep.fine h]
      exact hfine h
    · rw [hstep.ordinaryCoarse (.inr h), hstep.ordinaryFine (.inr h)]
      exact hspan h

/-! ## The walk over the items -/

lemma itemBytes_cons (bitstream : Bytes) (item : Item) (rest : List Item) :
    itemBytes bitstream (item :: rest) = item.bytes bitstream ++ itemBytes bitstream rest := rfl

lemma inspectFrom_item {item : Item} (hitem : item.Readable bitstream)
    (before after : Bytes) (shard fuel : Nat) {s : Inspecting}
    (hposition : s.position = before.length) (hheader : s.info.hasSequenceHeader = true) :
    inspectFrom (before ++ (item.bytes bitstream ++ after)) shard (fuel + 1) s =
      inspectFrom (before ++ (item.bytes bitstream ++ after)) shard fuel
        (noteItem bitstream shard s item) := by
  have hleast := hitem.sound.pos
  have hlength : (before ++ (item.bytes bitstream ++ after)).length - s.position =
      item.size + after.length := by
    rw [length_append, length_append, hitem.sound.length_bytes, hposition]
    omega
  rw [inspectFrom, if_pos (by omega), if_neg (by omega)]
  dsimp only
  cases item with
  | block record =>
    obtain ⟨hfirst, hsecond⟩ := read_block hitem before after
    have hkind := hitem.kind
    have hsize := hitem.size_eq
    have hslice : ((before ++ ((Item.block record).bytes bitstream ++ after)).drop
        before.length).take record.size = record.bytes bitstream := by
      rw [drop_left]
      exact take_left' hitem.length_bytes
    dsimp only [Item.size] at hlength hleast
    rw [hposition] at hlength ⊢
    rw [hfirst, hsecond, ← hsize, hslice, ← hitem.index, if_neg (by unfold paddingMagic; omega),
      if_neg (by omega), if_neg (by simp [hheader]), if_neg (by omega), if_neg (by omega)]
    rfl
  | padding size =>
    obtain ⟨hmin, haligned, hsmall⟩ := hitem
    obtain ⟨hfirst, hsecond⟩ := read_padding bitstream hmin hsmall before after
    have hbytes : paddingRecordMinBytes + (size / 4 - 2) * 4 = size := by
      unfold paddingRecordMinBytes
      omega
    dsimp only [Item.size] at hlength
    rw [hposition] at hlength ⊢
    rw [hfirst, hsecond, if_pos rfl, hbytes, if_neg (by omega)]
    rfl

lemma inspectFrom_items (hshard : shard ≠ 0)
    {items : List Item} (hitems : ∀ item ∈ items, item.Readable bitstream) {before : Bytes}
    {fuel : Nat} (hfuel : items.length < fuel) {s : Inspecting}
    (hposition : s.position = before.length) (hheader : s.info.hasSequenceHeader = true) :
    inspectFrom (before ++ itemBytes bitstream items) shard fuel s =
      { (noteItems bitstream shard s items).info with valid := true } := by
  induction items generalizing before fuel s with
  | nil =>
    obtain ⟨fuel, rfl⟩ : ∃ rest, fuel = rest + 1 := ⟨fuel - 1, by omega⟩
    have hend : (before ++ itemBytes bitstream []).length = s.position := by
      rw [hposition]
      simp [itemBytes]
    rw [inspectFrom, if_neg (by omega), if_neg (by simp [hheader])]
    rfl
  | cons item rest ih =>
    obtain ⟨hitem, hrest⟩ := forall_mem_cons.mp hitems
    have hnoted := noted_item bitstream hshard s item
    rw [length_cons] at hfuel
    obtain ⟨fuel, rfl⟩ : ∃ rest, fuel = rest + 1 := ⟨fuel - 1, by omega⟩
    rw [itemBytes_cons, inspectFrom_item hitem before _ shard fuel hposition hheader,
      ← append_assoc]
    refine ih hrest (by omega) ?_ ?_
    · rw [hnoted.position, extent_singleton, hposition, length_append, hitem.sound.length_bytes]
    · rw [hnoted.hasSequenceHeader, hheader]

lemma inspectRecordFrame_header (hlength : 8 ≤ bitstream.length)
    (hleast : 24 ≤ shard) (hkind : readU32 bitstream 0 / 2 ^ 31 ≠ 0)
    (hmagic : readU32 bitstream 0 ≠ paddingMagic) (hcode : readU32 bitstream 4 / 2 ^ 24 % 4 = 0)
    (rest : Bytes) : ∃ s : Inspecting, inspectRecordFrame (bitstream.take 8 ++ rest) shard =
        inspectFrom (bitstream.take 8 ++ rest) shard (bitstream.take 8 ++ rest).length s ∧
      s.position = 8 ∧ s.coarseBlocks = headerCoarseBlocks bitstream ∧
      s.info.hasSequenceHeader = true ∧ s.info.criticalBytes = 8 ∧
      s.info.stripped = bitstream.take 8 ∧ s.info.blockRecords = 0 ∧ s.info.paddingRecords = 0 ∧
      s.info.paddingBytes = 0 ∧ s.info.misalignedRecords = 0 ∧
      s.info.lateOversizedRecords = 0 ∧ s.info.lateCoarseRecords = 0 ∧
      s.seenOrdinaryCoarse = false ∧ s.seenOrdinaryFine = false ∧ s.seenFine = false := by
  have hhead : (bitstream.take 8).length = 8 := by
    rw [length_take, min_eq_left hlength]
  have hword : ∀ position, position + 4 ≤ 8 →
      readU32 (bitstream.take 8 ++ rest) position = readU32 bitstream position := by
    intro position hinside
    rw [readU32_append_left rest (by omega)]
    exact (readU32_slice bitstream 0 hinside).trans (by rw [zero_add])
  have hslice : ((bitstream.take 8 ++ rest).drop 0).take 8 = bitstream.take 8 := by
    rw [drop_zero, take_left' hhead]
  obtain ⟨spans, mis, halign, hmis⟩ := noteAlignment_eq
    { info := {
        hasSequenceHeader := true
        width := readU32 bitstream 0 % 2 ^ 14 + 1
        height := readU32 bitstream 0 / 2 ^ 14 % 2 ^ 14 + 1
        totalBlocks := readU32 bitstream 4 % 2 ^ 24
        chroma444 := readU32 bitstream 4 / 2 ^ 26 % 2 ≠ 0
        criticalBytes := 0 + 8 }
      coarseBlocks := headerCoarseBlocks bitstream } (show shard ≠ 0 by omega) 8
  have hzero : mis = 0 := by
    refine hmis fun _ => ?_
    unfold frameHeaderBytes
    rw [Nat.div_eq_of_lt (show 0 + 8 < shard by omega),
      Nat.div_eq_of_lt (show 0 + 8 + 8 - 1 < shard by omega)]
  refine ⟨Inspecting.noteHeader {} shard (readU32 bitstream 0) (readU32 bitstream 4)
    (bitstream.take 8), ?_, ?_⟩
  · rw [inspectRecordFrame, inspectFrom]
    dsimp only
    rw [if_pos (by rw [length_append]; omega),
      if_neg (by rw [length_append]; omega), hword 0 (by omega), hword (0 + 4) (by omega),
      if_neg hmagic, if_pos hkind, if_neg (by simp), if_neg (by simp), if_neg (not_not_intro hcode),
      hslice]
  · unfold Inspecting.noteHeader
    dsimp only
    unfold headerCoarseBlocks at halign
    dsimp only at halign
    rw [halign, hzero]
    exact ⟨rfl, rfl, rfl, rfl, rfl, rfl, rfl, rfl, rfl, rfl, rfl, rfl, rfl, rfl⟩

/-! ## The inspection of a layout -/

variable {items : List Item}

lemma length_le_extent
    (h : ∀ item ∈ items, item.Sound bitstream) : items.length ≤ extent items := by
  induction items with
  | nil => exact zero_le
  | cons item rest ih =>
    obtain ⟨hitem, hrest⟩ := forall_mem_cons.mp h
    have hpos := hitem.pos
    have hle := ih hrest
    have hextent : extent (item :: rest) = item.size + extent rest := by simp [extent]
    rw [length_cons, hextent]
    omega

lemma noteItems_critical (bitstream : Bytes) {shard : Nat} (hshard : shard ≠ 0) {s : Inspecting}
    {items : List Item} (hends : EndsInBlock items)
    (hcoarse : ∀ record ∈ blocks items, record.blockIndex < s.coarseBlocks)
    (hstart : s.info.criticalBytes = s.position) :
    (noteItems bitstream shard s items).info.criticalBytes = s.position + extent items := by
  rcases hends with rfl | ⟨earlier, record, rfl⟩
  · exact hstart
  · have hnoted := noted_items bitstream hshard s earlier
    have hmem : record ∈ blocks (earlier ++ [.block record]) := by
      rw [blocks_append]
      exact mem_append_right _ mem_cons_self
    obtain ⟨_, _, _, _, _, heq, -⟩ := noteBlock_eq (noteItems bitstream shard s earlier) hshard
      record.blockIndex record.size (record.bytes bitstream)
    rw [noteItems_append]
    change (Inspecting.noteBlock _ _ _ _ _).info.criticalBytes = _
    rw [heq, extent_append, extent_singleton, Item.size, ← add_assoc, ← hnoted.position]
    refine if_pos ?_
    rw [hnoted.coarseBlocks]
    exact hcoarse record hmem

variable {records : List Record} {layout : Layout}

lemma Layout.Of.levels (h : layout.Of bitstream shard records) :
    (∀ record ∈ blocks layout.coarseSpanning,
      decide (record.blockIndex < headerCoarseBlocks bitstream) = true ∧
        oversized record.size shard = true) ∧ (∀ record ∈ blocks layout.coarsePacked,
      decide (record.blockIndex < headerCoarseBlocks bitstream) = true ∧
        oversized record.size shard = false) ∧ (∀ record ∈ blocks layout.fineSpanning,
      decide (record.blockIndex < headerCoarseBlocks bitstream) = false ∧
        oversized record.size shard = true) ∧ (∀ record ∈ blocks layout.finePacked,
      decide (record.blockIndex < headerCoarseBlocks bitstream) = false ∧
        oversized record.size shard = false) := by
  have hlevel : ∀ {level span : Record → Bool} {record : Record},
      record ∈ (records.filter level).filter span → level record = true ∧ span record = true :=
    fun hmem => ⟨(mem_filter.mp (mem_filter.mp hmem).1).2, (mem_filter.mp hmem).2⟩
  refine ⟨fun record hmem => ?_, fun record hmem => ?_, fun record hmem => ?_,
    fun record hmem => ?_⟩
  · exact hlevel (h.coarseSpanning ▸ hmem)
  · obtain ⟨hcoarse, hspan⟩ := hlevel (h.coarsePacked.mem_iff.mp hmem)
    exact ⟨hcoarse, by simpa using hspan⟩
  · obtain ⟨hcoarse, hspan⟩ := hlevel (h.fineSpanning ▸ hmem)
    exact ⟨by simpa using hcoarse, hspan⟩
  · obtain ⟨hcoarse, hspan⟩ := hlevel (h.finePacked.mem_iff.mp hmem)
    exact ⟨by simpa using hcoarse, by simpa using hspan⟩

lemma layout_orderly
    (hpos : 0 < shard) (hlayout : layout.Of bitstream shard records) {s : Inspecting}
    (hposition : s.position = 8) (hblocks : s.coarseBlocks = headerCoarseBlocks bitstream)
    (hcritical : s.info.criticalBytes = 8) (hcoarseSeen : s.seenOrdinaryCoarse = false)
    (hordinarySeen : s.seenOrdinaryFine = false) (hfineSeen : s.seenFine = false) :
    (noteItems bitstream shard s layout.items).info.misalignedRecords = s.info.misalignedRecords ∧
      (noteItems bitstream shard s layout.items).info.lateOversizedRecords =
        s.info.lateOversizedRecords ∧
      (noteItems bitstream shard s layout.items).info.lateCoarseRecords = s.info.lateCoarseRecords ∧
      (noteItems bitstream shard s layout.items).info.criticalBytes = 8 + extent layout.coarse := by
  have hshard : shard ≠ 0 := Nat.ne_of_gt hpos
  obtain ⟨hlevel₁, hlevel₂, hlevel₃, hlevel₄⟩ := hlayout.levels
  have hlaid := hlayout.laid
  have hsound := hlayout.sound
  rw [Layout.items, Layout.front, laid_append, laid_append] at hlaid
  obtain ⟨⟨hlaidCoarse, hlaid₃⟩, hlaid₄⟩ := hlaid
  rw [Layout.coarse, laid_append] at hlaidCoarse
  simp only [Layout.items, Layout.front, Layout.coarse, forall_mem_append] at hsound
  obtain ⟨⟨⟨hsound₁, hsound₂⟩, hsound₃⟩, hsound₄⟩ := hsound
  -- the coarse records
  generalize hs₁ : noteItems bitstream shard s layout.coarseSpanning = s₁
  have hnoted₁ := noted_items bitstream hshard s layout.coarseSpanning
  rw [hs₁] at hnoted₁
  have horder₁ : Orderly true true s s₁ := hs₁ ▸ orderly_items hpos (hblocks ▸ hlevel₁)
    (hposition ▸ hlaidCoarse.1) hsound₁ (fun _ => hfineSeen) fun _ => hcoarseSeen
  generalize hs₂ : noteItems bitstream shard s₁ layout.coarsePacked = s₂
  have hcoarse : noteItems bitstream shard s layout.coarse = s₂ := by
    rw [Layout.coarse, noteItems_append, hs₁, hs₂]
  have hnoted₂ := noted_items bitstream hshard s layout.coarse
  rw [hcoarse] at hnoted₂
  have horder₂ : Orderly true false s₁ s₂ := hs₂ ▸ orderly_items hpos
    (by rw [hnoted₁.coarseBlocks, hblocks]; exact hlevel₂)
    (by rw [hnoted₁.position, hposition]; exact hlaidCoarse.2) hsound₂
    (fun _ => (horder₁.fine rfl).trans hfineSeen) (fun h => by cases h)
  have hcriticalCoarse : s₂.info.criticalBytes = 8 + extent layout.coarse := by
    rw [← hcoarse, ← hposition]
    refine noteItems_critical bitstream hshard hlayout.coarseEnds (fun record hmem => ?_)
      (hcritical.trans hposition.symm)
    rw [hblocks]
    rw [Layout.coarse, blocks_append] at hmem
    rcases mem_append.mp hmem with hmem | hmem
    · exact of_decide_eq_true (hlevel₁ record hmem).1
    · exact of_decide_eq_true (hlevel₂ record hmem).1
  -- the fine records
  generalize hs₃ : noteItems bitstream shard s₂ layout.fineSpanning = s₃
  have hfront : noteItems bitstream shard s layout.front = s₃ := by
    rw [Layout.front, noteItems_append, hcoarse, hs₃]
  have hnoted₃ := noted_items bitstream hshard s layout.front
  rw [hfront] at hnoted₃
  have horder₃ : Orderly false true s₂ s₃ := hs₃ ▸ orderly_items hpos
    (by rw [hnoted₂.coarseBlocks, hblocks]; exact hlevel₃)
    (by rw [hnoted₂.position, hposition]; exact hlaid₃) hsound₃ (fun h => by cases h)
    (fun _ => (horder₂.ordinaryFine (.inl rfl)).trans
      ((horder₁.ordinaryFine (.inl rfl)).trans hordinarySeen))
  generalize hs₄ : noteItems bitstream shard s₃ layout.finePacked = s₄
  have hall : noteItems bitstream shard s layout.items = s₄ := by
    rw [Layout.items, noteItems_append, hfront, hs₄]
  have horder₄ : Orderly false false s₃ s₄ := hs₄ ▸ orderly_items hpos
    (by rw [hnoted₃.coarseBlocks, hblocks]; exact hlevel₄)
    (by rw [hnoted₃.position, hposition]; exact hlaid₄) hsound₄ (fun h => by cases h)
    (fun h => by cases h)
  rw [hall]
  refine ⟨?_, ?_, ?_, ?_⟩
  · rw [horder₄.misaligned, horder₃.misaligned, horder₂.misaligned, horder₁.misaligned]
  · rw [horder₄.lateOversized, horder₃.lateOversized, horder₂.lateOversized, horder₁.lateOversized]
  · rw [horder₄.lateCoarse, horder₃.lateCoarse, horder₂.lateCoarse, horder₁.lateCoarse]
  · rw [horder₄.critical rfl, horder₃.critical rfl, hcriticalCoarse]

/-- What the inspection says about a frame with these items. -/
structure Inspected (bitstream : Bytes) (info : RecordFrameInfo) (items : List Item)
    (critical : Nat) : Prop where
  valid : info.valid = true
  misaligned : info.misalignedRecords = 0
  lateOversized : info.lateOversizedRecords = 0
  lateCoarse : info.lateCoarseRecords = 0
  blockRecords : info.blockRecords = (blocks items).length
  paddingRecords : info.paddingRecords = (paddings items).length
  paddingBytes : info.paddingBytes = (paddings items).sum
  criticalBytes : info.criticalBytes = critical
  stripped : info.stripped = bitstream.take 8 ++ (blocks items).flatMap (Record.bytes bitstream)

lemma inspect_layout
    (hlength : 8 ≤ bitstream.length) (hleast : 24 ≤ shard) (hsmall : shard < 2 ^ 32)
    (hkind : readU32 bitstream 0 / 2 ^ 31 ≠ 0) (hmagic : readU32 bitstream 0 ≠ paddingMagic)
    (hcode : readU32 bitstream 4 / 2 ^ 24 % 4 = 0) (hlayout : layout.Of bitstream shard records) :
    Inspected bitstream
      (inspectRecordFrame (bitstream.take 8 ++ itemBytes bitstream layout.items) shard)
      layout.items (8 + extent layout.coarse) := by
  have hpos : 0 < shard := by omega
  have hshard : shard ≠ 0 := by omega
  have hhead : (bitstream.take 8).length = 8 := by
    rw [length_take, min_eq_left hlength]
  obtain ⟨s, hwalk, hposition, hblocks, hheader, hcritical, hstripped, hrecs, hpaddings, hbytes,
    hmis, hlateOver, hlateCoarse, hordinaryCoarse, hordinaryFine, hfine⟩ :=
    inspectRecordFrame_header hlength hleast hkind hmagic hcode (itemBytes bitstream layout.items)
  have hfuel : layout.items.length < (bitstream.take 8 ++
      itemBytes bitstream layout.items).length := by
    have := length_le_extent hlayout.sound
    rw [length_append, itemBytes_length hlayout.sound, hhead]
    omega
  rw [hwalk, inspectFrom_items hshard (readable_of_laid hpos hsmall hlayout.laid hlayout.sound)
    hfuel (hposition.trans hhead.symm) hheader]
  have hnoted := noted_items bitstream hshard s layout.items
  obtain ⟨hmisEnd, hlateOverEnd, hlateCoarseEnd, hcriticalEnd⟩ := layout_orderly hpos hlayout
    hposition hblocks hcritical hordinaryCoarse hordinaryFine hfine
  exact ⟨rfl, hmisEnd.trans hmis, hlateOverEnd.trans hlateOver, hlateCoarseEnd.trans hlateCoarse,
    by rw [hnoted.blockRecords, hrecs, zero_add],
    by rw [hnoted.paddingRecords, hpaddings, zero_add],
    by rw [hnoted.paddingBytes, hbytes, zero_add], hcriticalEnd,
    by rw [hnoted.stripped, hstripped]⟩

/-! ## Shards that start with a record -/

def markStart (shard position : Nat) (starts : List Bool) : List Bool :=
  if (position + frameHeaderBytes) % shard = 0 ∨ position = 0 then
    starts.set ((position + frameHeaderBytes) / shard) true
  else starts

lemma markStart_length (shard position : Nat) (starts : List Bool) :
    (markStart shard position starts).length = starts.length := by
  unfold markStart
  split
  · exact length_set
  · rfl

lemma markStart_keeps (shard position : Nat) {starts : List Bool} {k : Nat}
    (h : starts[k]? = some true) : (markStart shard position starts)[k]? = some true := by
  unfold markStart
  split
  · rw [getElem?_set]
    split
    · next hsame =>
      have hinside : k < starts.length := (List.getElem?_eq_some_iff.mp h).1
      rw [hsame, if_pos hinside]
    · exact h
  · exact h

lemma markStart_marks {shard position : Nat} (starts : List Bool)
    (h : (position + frameHeaderBytes) % shard = 0 ∨ position = 0)
    (hinside : (position + frameHeaderBytes) / shard < starts.length) :
    (markStart shard position starts)[(position + frameHeaderBytes) / shard]? = some true := by
  rw [markStart, if_pos h, getElem?_set_self hinside]

lemma startsFrom_succ {frame : Bytes} {shard fuel position size : Nat} {starts : List Bool}
    (hsize : recordSize frame position = size) (hleast : 8 ≤ size)
    (hinside : position + size ≤ frame.length) : startsFrom frame shard (fuel + 1) position starts =
      startsFrom frame shard fuel (position + size) (markStart shard position starts) := by
  rw [startsFrom, if_pos (by omega), if_neg (by omega), hsize]
  dsimp only
  rw [if_neg (by omega)]
  rfl

lemma recordSize_item (hitem : item.Readable bitstream) (before after : Bytes) :
    recordSize (before ++ (item.bytes bitstream ++ after)) before.length = item.size := by
  unfold recordSize
  dsimp only
  cases item with
  | block record =>
    obtain ⟨hfirst, -⟩ := read_block hitem before after
    have hkind := hitem.kind
    rw [hfirst, if_neg (by unfold paddingMagic; omega), if_neg (by omega)]
    exact hitem.size_eq.symm
  | padding size =>
    obtain ⟨hmin, haligned, hsmall⟩ := hitem
    obtain ⟨hfirst, hsecond⟩ := read_padding bitstream hmin hsmall before after
    rw [hfirst, hsecond, if_pos rfl, Item.size]
    unfold paddingRecordMinBytes
    omega

lemma startsFrom_items
    (hitems : ∀ item ∈ items, item.Readable bitstream) (before : Bytes) {fuel : Nat}
    (hfuel : items.length < fuel) (starts : List Bool) : (∀ k : Nat, starts[k]? = some true →
      (startsFrom (before ++ itemBytes bitstream items) shard fuel before.length
        starts)[k]? = some true) ∧ ∀ first item rest, items = first ++ item :: rest →
      (before.length + extent first + frameHeaderBytes) % shard = 0 →
      (before.length + extent first + frameHeaderBytes) / shard < starts.length →
      (startsFrom (before ++ itemBytes bitstream items) shard fuel before.length
        starts)[(before.length + extent first + frameHeaderBytes) / shard]? = some true := by
  induction items generalizing before fuel starts with
  | nil =>
    obtain ⟨fuel, rfl⟩ : ∃ rest, fuel = rest + 1 := ⟨fuel - 1, by omega⟩
    have hend : ¬ before.length < (before ++ itemBytes bitstream []).length := by
      simp [itemBytes]
    rw [startsFrom, if_neg hend]
    refine ⟨fun k h => h, fun first item rest h => ?_⟩
    cases first <;> cases h
  | cons item rest ih =>
    obtain ⟨hitem, hrest⟩ := forall_mem_cons.mp hitems
    rw [length_cons] at hfuel
    obtain ⟨fuel, rfl⟩ : ∃ rest, fuel = rest + 1 := ⟨fuel - 1, by omega⟩
    have hbehind : (before ++ item.bytes bitstream).length = before.length + item.size := by
      rw [length_append, hitem.sound.length_bytes]
    obtain ⟨hkeeps, hmarks⟩ := ih hrest (before ++ item.bytes bitstream)
      (show rest.length < fuel by omega) (markStart shard before.length starts)
    rw [hbehind] at hkeeps hmarks
    rw [itemBytes_cons, startsFrom_succ (recordSize_item hitem before _) hitem.sound.pos (by
      rw [← append_assoc, length_append, hbehind]
      exact Nat.le_add_right _ _), ← append_assoc]
    refine ⟨fun k h => hkeeps k (markStart_keeps shard _ h), ?_⟩
    intro first other later hsplit hboundary hinside
    cases first with
    | nil => exact hkeeps _ (markStart_marks starts (.inl hboundary) hinside)
    | cons head tail =>
      rw [cons_append, List.cons.injEq] at hsplit
      obtain ⟨rfl, hsplit⟩ := hsplit
      have hextent : before.length + extent (item :: tail) =
          before.length + item.size + extent tail := by
        simp [extent, add_assoc]
      rw [hextent] at hboundary hinside ⊢
      exact hmarks tail other later hsplit hboundary (by rwa [markStart_length])

lemma exists_item_at_boundary (hpos : 0 < shard) {items : List Item}
    (hordinary : ∀ record ∈ blocks items, oversized record.size shard = false)
    {position boundary : Nat} (hlaid : Laid shard position items) (hle : position ≤ boundary)
    (hlt : boundary < position + extent items)
    (hboundary : (boundary + frameHeaderBytes) % shard = 0) :
    ∃ first item rest, items = first ++ item :: rest ∧ position + extent first = boundary := by
  induction items generalizing position with
  | nil =>
    rw [show extent [] = 0 from rfl] at hlt
    omega
  | cons item rest ih =>
    by_cases hhere : position = boundary
    · exact ⟨[], item, rest, rfl, hhere⟩
    · have hfits : item.size ≤ shardRemaining position shard := by
        cases item with
        | block record => exact hlaid.1.1 (hordinary record mem_cons_self)
        | padding size => exact hlaid.1.2.2
      have hnext : position + shardRemaining position shard ≤ boundary := by
        -- both ends are multiples of the shard
        have hmod := Nat.mod_lt (position + frameHeaderBytes) hpos
        have hstart := Nat.div_add_mod (position + frameHeaderBytes) shard
        have hend := Nat.div_add_mod (boundary + frameHeaderBytes) shard
        have hquotient : (position + frameHeaderBytes) / shard <
            (boundary + frameHeaderBytes) / shard := by
          rw [Nat.div_lt_iff_lt_mul hpos, mul_comm]
          omega
        have hmul := Nat.mul_le_mul_left shard (Nat.succ_le_of_lt hquotient)
        rw [Nat.mul_succ] at hmul
        unfold shardRemaining
        omega
      have hextent : extent (item :: rest) = item.size + extent rest := by simp [extent]
      have hothers : ∀ record ∈ blocks rest, oversized record.size shard = false := by
        intro record hmem
        refine hordinary record ?_
        rw [← singleton_append, blocks_append]
        exact mem_append_right _ hmem
      obtain ⟨first, other, later, hsplit, hat⟩ := ih hothers hlaid.2 (by omega) (by omega)
      refine ⟨item :: first, other, later, by rw [hsplit]; rfl, ?_⟩
      rw [show extent (item :: first) = item.size + extent first by simp [extent]]
      omega

/-- Where the last block record with a property ends; `found` when there is none. -/
def lastEnd (property : Record → Bool) : Nat → Nat → List Item → Nat
  | _, found, [] => found
  | position, found, .padding size :: rest => lastEnd property (position + size) found rest
  | position, found, .block record :: rest =>
    lastEnd property (position + record.size)
      (if property record then position + record.size else found) rest

/-- The end of the last oversized fine record of a frame, or, when there is none, the end
of the sequence header and the coarse records. -/
def frontEnd (bitstream : Bytes) (shard : Nat) (items : List Item) : Nat :=
  let coarse := fun record : Record => decide (record.blockIndex < headerCoarseBlocks bitstream)
  let spanning := fun record : Record => !coarse record && oversized record.size shard
  if (blocks items).any spanning then lastEnd spanning 8 8 items else lastEnd coarse 8 8 items

lemma lastEnd_append (property : Record → Bool) (first second : List Item)
    (position found : Nat) : lastEnd property position found (first ++ second) =
      lastEnd property (position + extent first) (lastEnd property position found first)
        second := by
  induction first generalizing position found with
  | nil => rfl
  | cons item rest ih =>
    have hextent : position + extent (item :: rest) = position + item.size + extent rest := by
      simp [extent, add_assoc]
    rw [hextent]
    cases item with
    | block record => exact ih _ _
    | padding size => exact ih _ _

variable {property : Record → Bool}

lemma lastEnd_none {items : List Item}
    (h : ∀ record ∈ blocks items, property record = false) (position found : Nat) :
    lastEnd property position found items = found := by
  induction items generalizing position found with
  | nil => rfl
  | cons item rest ih =>
    cases item with
    | block record =>
      obtain ⟨hrecord, hrest⟩ := forall_mem_cons.mp h
      rw [lastEnd, hrecord]
      exact ih hrest _ _
    | padding size => exact ih h _ _

lemma lastEnd_last {items : List Item} (hends : EndsInBlock items)
    (h : ∀ record ∈ blocks items, property record = true) {position found : Nat}
    (hstart : items = [] → found = position) :
    lastEnd property position found items = position + extent items := by
  rcases hends with rfl | ⟨earlier, record, rfl⟩
  · exact hstart rfl
  · have hrecord : property record = true := by
      refine h record ?_
      rw [blocks_append]
      exact mem_append_right _ mem_cons_self
    rw [lastEnd_append, extent_append, extent_singleton, ← add_assoc]
    exact if_pos hrecord

lemma Layout.Of.frontEnd_eq (h : layout.Of bitstream shard records) :
    frontEnd bitstream shard layout.items = 8 + extent layout.front := by
  obtain ⟨hlevel₁, hlevel₂, hlevel₃, hlevel₄⟩ := h.levels
  have hcoarse : ∀ record ∈ blocks layout.coarse,
      decide (record.blockIndex < headerCoarseBlocks bitstream) = true := by
    intro record hmem
    rw [Layout.coarse, blocks_append] at hmem
    rcases mem_append.mp hmem with hmem | hmem
    · exact (hlevel₁ record hmem).1
    · exact (hlevel₂ record hmem).1
  unfold frontEnd
  dsimp only
  rcases h.spanningEnds with hnone | hsome
  · -- no oversized fine record
    have hitems : layout.items = layout.coarse ++ layout.finePacked := by
      rw [Layout.items, Layout.front, hnone, append_nil]
    rw [if_neg, hitems, lastEnd_append, lastEnd_none fun record hmem => (hlevel₄ record hmem).1,
      lastEnd_last h.coarseEnds hcoarse fun _ => rfl, Layout.front, hnone, append_nil]
    rw [hitems, blocks_append, Bool.not_eq_true, any_eq_false]
    intro record hmem
    rcases mem_append.mp hmem with hmem | hmem
    · rw [hcoarse record hmem]
      simp
    · rw [(hlevel₄ record hmem).2]
      simp
  · have hspanning : ∀ record ∈ blocks layout.fineSpanning,
        (!decide (record.blockIndex < headerCoarseBlocks bitstream) &&
          oversized record.size shard) = true := by
      intro record hmem
      rw [(hlevel₃ record hmem).1, (hlevel₃ record hmem).2]
      rfl
    have hnonempty : layout.fineSpanning ≠ [] := by
      obtain ⟨earlier, record, heq⟩ := hsome
      simp [heq]
    rw [if_pos, Layout.items, lastEnd_append, lastEnd_none, Layout.front, lastEnd_append,
      lastEnd_last (.inr hsome) hspanning fun hempty => absurd hempty hnonempty, extent_append,
      add_assoc]
    · intro record hmem
      rw [(hlevel₄ record hmem).2, Bool.and_false]
    · obtain ⟨earlier, record, heq⟩ := hsome
      have hmem : record ∈ blocks layout.fineSpanning := by
        rw [heq, blocks_append]
        exact mem_append_right _ mem_cons_self
      refine any_eq_true.mpr ⟨record, ?_, hspanning record hmem⟩
      rw [Layout.items, Layout.front, blocks_append, blocks_append]
      exact mem_append_left _ (mem_append_right _ hmem)

lemma recordStartShards_layout (hlength : 8 ≤ bitstream.length) (hleast : 24 ≤ shard)
    (hsmall : shard < 2 ^ 32) (hkind : readU32 bitstream 0 / 2 ^ 31 ≠ 0)
    (hmagic : readU32 bitstream 0 ≠ paddingMagic) (hlayout : layout.Of bitstream shard records)
    {frame : Bytes} (hframe : frame = bitstream.take 8 ++ itemBytes bitstream layout.items) :
    (recordStartShards frame shard)[0]? = some true ∧
      ∀ k, 8 + extent layout.front + frameHeaderBytes ≤ k * shard →
        k * shard < frame.length + frameHeaderBytes →
        (recordStartShards frame shard)[k]? = some true := by
  have hpos : 0 < shard := by omega
  have hhead : (bitstream.take 8).length = 8 := by
    rw [length_take, min_eq_left hlength]
  have htotal : frame.length = 8 + extent layout.items := by
    rw [hframe, length_append, hhead, itemBytes_length hlayout.sound]
  have hreadable := readable_of_laid hpos hsmall hlayout.laid hlayout.sound
  have hfew := length_le_extent hlayout.sound
  have hsize : recordSize frame 0 = 8 := by
    have hword : readU32 frame 0 = readU32 bitstream 0 := by
      rw [hframe, readU32_append_left _ (by omega)]
      exact readU32_slice bitstream 0 (by omega)
    unfold recordSize
    dsimp only
    rw [hword, if_neg hmagic, if_pos hkind]
  -- the number of shards
  have hshards : ∀ k, k * shard < frame.length + frameHeaderBytes →
      k < (frame.length + frameHeaderBytes + shard - 1) / shard := by
    intro k hk
    rw [Nat.lt_iff_add_one_le, Nat.le_div_iff_mul_le hpos, Nat.add_one_mul]
    omega
  have hunfold : recordStartShards frame shard = startsFrom frame shard frame.length 8
      (markStart shard 0 (List.replicate
        ((frame.length + frameHeaderBytes + shard - 1) / shard) false)) := by
    have hsome : frame ≠ [] := by
      intro hempty
      rw [hempty, length_nil] at htotal
      omega
    rw [recordStartShards, if_neg (by simp [hsome]; omega), startsFrom_succ hsize le_rfl (by omega)]
  obtain ⟨hkeeps, hmarks⟩ := startsFrom_items hreadable (bitstream.take 8)
    (show layout.items.length < frame.length by omega)
    (markStart shard 0 (List.replicate
      ((frame.length + frameHeaderBytes + shard - 1) / shard) false))
  rw [hhead, ← hframe] at hkeeps hmarks
  rw [hunfold]
  constructor
  · have hfirst : (0 + frameHeaderBytes) / shard = 0 :=
      Nat.div_eq_of_lt (by unfold frameHeaderBytes; omega)
    refine hkeeps 0 ?_
    have hmark := markStart_marks
      (List.replicate ((frame.length + frameHeaderBytes + shard - 1) / shard) false)
      (.inr rfl : (0 + frameHeaderBytes) % shard = 0 ∨ 0 = 0) (by
        rw [hfirst, length_replicate]
        exact hshards 0 (by unfold frameHeaderBytes; omega))
    rwa [hfirst] at hmark
  · intro k hlow hhigh
    have hoffset : k * shard - frameHeaderBytes + frameHeaderBytes = k * shard :=
      Nat.sub_add_cancel (by omega)
    have hlaid := hlayout.laid
    rw [Layout.items, laid_append] at hlaid
    obtain ⟨first, item, rest, hsplit, hat⟩ := exists_item_at_boundary hpos
      (fun record hmem => (hlayout.levels.2.2.2 record hmem).2) hlaid.2
      (show 8 + extent layout.front ≤ k * shard - frameHeaderBytes by omega)
      (by
        rw [Layout.items, extent_append] at htotal
        omega)
      (by rw [hoffset, Nat.mul_mod_left])
    have hplace : 8 + extent (layout.front ++ first) + frameHeaderBytes = k * shard := by
      rw [extent_append]
      omega
    have hindex : k * shard / shard = k := Nat.mul_div_cancel k hpos
    have hmark := hmarks (layout.front ++ first) item rest
      (by rw [Layout.items, hsplit, append_assoc]) (by rw [hplace, Nat.mul_mod_left])
    rw [hplace, hindex, markStart_length, length_replicate] at hmark
    exact hmark (hshards k hhigh)

/-! ## Written frames -/

lemma shardPayloadBytes_bounds {packetsize : Int} (hint : packetsize < 2 ^ 31)
    (h : shardPayloadBytes packetsize ≠ 0) :
    24 ≤ shardPayloadBytes packetsize ∧ shardPayloadBytes packetsize % 4 = 0 ∧
      shardPayloadBytes packetsize < 2 ^ 32 := by
  unfold shardPayloadBytes at h ⊢
  split at h
  · exact absurd rfl h
  · next hover =>
    dsimp only at h ⊢
    split at h
    · exact absurd rfl h
    · next hleast =>
      rw [if_neg hover, if_neg hleast]
      unfold frameHeaderBytes sequenceHeaderBytes paddingRecordMinBytes at hleast
      unfold shardOverheadBytes at *
      omega

lemma laid_mem {shard position : Nat} {items first rest : List Item} {item : Item}
    (h : Laid shard position items) (hsplit : items = first ++ item :: rest) :
    item.Fits shard (position + extent first) := by
  rw [hsplit, laid_append] at h
  exact h.2.1

lemma mem_paddings {size : Nat} (h : size ∈ paddings items) : Item.padding size ∈ items := by
  obtain ⟨item, hmem, hitem⟩ := mem_filterMap.mp h
  cases item with
  | block record => cases hitem
  | padding other =>
    cases hitem
    exact hmem

/-- Every accepted bitstream with a start-of-frame header is written as a frame that a
receiver reads back, whatever the sizes of its records. -/
theorem writeRecordFrame_inspected {bitstream : Bytes} {records : List Record}
    {packetsize : Int} (hparse : parseFrame bitstream 0 = some records)
    (hmagic : readU32 bitstream 0 ≠ paddingMagic)
    (hcode : readU32 bitstream 4 / 2 ^ 24 % 4 = 0) (hint : packetsize < 2 ^ 31)
    (hshard : shardPayloadBytes packetsize ≠ 0) (out : Bytes) :
    ∃ stats items frame, frame = bitstream.take 8 ++ itemBytes bitstream items ∧
      (∃ bound, ∀ fuel, bound ≤ fuel →
        writeRecordFrame fuel bitstream (shardPayloadBytes packetsize) out 0 =
          some (some stats, out ++ frame)) ∧
      (inspectRecordFrame frame (shardPayloadBytes packetsize)).valid = true ∧
      (inspectRecordFrame frame (shardPayloadBytes packetsize)).misalignedRecords = 0 ∧
      (inspectRecordFrame frame (shardPayloadBytes packetsize)).lateOversizedRecords = 0 ∧
      (inspectRecordFrame frame (shardPayloadBytes packetsize)).lateCoarseRecords = 0 ∧
      (inspectRecordFrame frame (shardPayloadBytes packetsize)).blockRecords = stats.blockRecords ∧
      (inspectRecordFrame frame (shardPayloadBytes packetsize)).paddingRecords =
        stats.paddingRecords ∧
      (inspectRecordFrame frame (shardPayloadBytes packetsize)).paddingBytes = stats.paddingBytes ∧
      (inspectRecordFrame frame (shardPayloadBytes packetsize)).criticalBytes =
        stats.criticalBytes ∧ (inspectRecordFrame frame (shardPayloadBytes packetsize)).stripped =
        bitstream.take 8 ++ (blocks items).flatMap (Record.bytes bitstream) ∧
      (blocks items).Perm records ∧ records.flatMap (Record.bytes bitstream) = bitstream.drop 8 ∧
      (∀ size ∈ paddings items, 8 ≤ size ∧ size % 4 = 0) ∧
      (∀ first record rest, items = first ++ .block record :: rest →
        shardRemaining (8 + extent first + record.size) (shardPayloadBytes packetsize) ≠ 4) ∧
      (recordStartShards frame (shardPayloadBytes packetsize))[0]? = some true ∧
      ∀ k, frontEnd bitstream (shardPayloadBytes packetsize) items + frameHeaderBytes ≤
          k * shardPayloadBytes packetsize →
        k * shardPayloadBytes packetsize < frame.length + frameHeaderBytes →
        (recordStartShards frame (shardPayloadBytes packetsize))[k]? = some true := by
  obtain ⟨hleast, haligned, hsmall⟩ := shardPayloadBytes_bounds hint hshard
  generalize shardPayloadBytes packetsize = shard at hleast haligned hsmall ⊢
  obtain ⟨hlength, hkind, -, hwhole⟩ := parseFrame_some hparse
  obtain ⟨stats, layout, hrun, hlayout, hrecs, hpaddings, hbytes, hcritical⟩ :=
    writeRecordFrame_layout hparse hleast haligned out
  have hinfo := inspect_layout hlength hleast hsmall hkind hmagic hcode hlayout
  obtain ⟨hfirst, hstarts⟩ := recordStartShards_layout hlength hleast hsmall hkind hmagic hlayout
    rfl
  rw [← hlayout.frontEnd_eq] at hstarts
  refine ⟨stats, layout.items, _, rfl, ⟨_, hrun⟩, hinfo.valid, hinfo.misaligned,
    hinfo.lateOversized, hinfo.lateCoarse, ?_, hinfo.paddingRecords.trans hpaddings.symm,
    hinfo.paddingBytes.trans hbytes.symm, hinfo.criticalBytes.trans hcritical.symm,
    hinfo.stripped, hlayout.perm, hwhole, ?_, ?_, hfirst, hstarts⟩
  · rw [hinfo.blockRecords, hlayout.perm.length_eq, hrecs]
  · intro size hsize
    obtain ⟨first, rest, hsplit⟩ := append_of_mem (mem_paddings hsize)
    obtain ⟨hmin, hmultiple, -⟩ := laid_mem hlayout.laid hsplit
    exact ⟨hmin, hmultiple⟩
  · intro first record rest hsplit
    exact (laid_mem hlayout.laid hsplit).2

/-- A frame of one block record. -/
theorem writeRecordFrame_inspected_single :
    parseFrame [0, 0, 0, 128, 0, 0, 0, 0, 0, 0, 2, 0, 0, 0, 0, 0] 0 = some [⟨8, 8, 0⟩] ∧
      shardPayloadBytes 40 = 24 ∧ ∃ stats items frame, (∃ bound, ∀ fuel, bound ≤ fuel →
          writeRecordFrame fuel [0, 0, 0, 128, 0, 0, 0, 0, 0, 0, 2, 0, 0, 0, 0, 0]
            (shardPayloadBytes 40) [7] 0 = some (some stats, [7] ++ frame)) ∧
        (inspectRecordFrame frame (shardPayloadBytes 40)).valid = true ∧
        (blocks items).Perm [⟨8, 8, 0⟩] := by
  have hparse : parseFrame [0, 0, 0, 128, 0, 0, 0, 0, 0, 0, 2, 0, 0, 0, 0, 0] 0 =
      some [⟨8, 8, 0⟩] := by decide
  obtain ⟨stats, items, frame, -, hrun, hvalid, -, -, -, -, -, -, -, -, hperm, -⟩ :=
    writeRecordFrame_inspected hparse (by decide) (by decide) (show (40 : Int) < 2 ^ 31 by decide)
      (by decide) [7]
  exact ⟨hparse, by decide, stats, items, frame, hrun, hvalid, hperm⟩

end Vibeshine.PyroWave
