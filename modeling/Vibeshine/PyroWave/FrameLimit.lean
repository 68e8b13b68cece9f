import Vibeshine.PyroWave.Packing

/-! # Frames with a limit

Where the padded layout of a frame would exceed its limit, the records are written without
padding. Either way each record is written once, and the coarse level comes first.
-/

namespace Vibeshine.PyroWave

open List

section

variable {bitstream out : Bytes} {records : List Record} {shard frameLimit fuel : Nat}

def unpadded (bitstream : Bytes) (records : List Record) (shard : Nat) (out : Bytes) : Writing :=
  let p : Packer := ⟨bitstream, shard, out.length⟩
  let start : Writing := { out := out ++ bitstream.take 8, stats := { blockRecords := records.length } }
  let w := (records.filter fun record => record.blockIndex < headerCoarseBlocks bitstream).foldl
    (fun w record => p.place record w) start
  (records.filter fun record => !(record.blockIndex < headerCoarseBlocks bitstream)).foldl
    (fun w record => p.place record w)
    { w with stats := { w.stats with criticalBytes := w.out.length - out.length } }

lemma parseFrame_unlimited (h : parseFrame bitstream frameLimit = some records) :
    parseFrame bitstream 0 = some records ∧ (frameLimit ≠ 0 → bitstream.length ≤ frameLimit) := by
  unfold parseFrame at h ⊢
  split at h
  · cases h
  · next hcheck =>
    rw [if_neg fun hunlimited => hcheck (by tauto)]
    exact ⟨h, by omega⟩

lemma writeRecordFrame_limit (hparse : parseFrame bitstream frameLimit = some records)
    (hshard : shard ≠ 0) {stats : RecordFrameStats} {result : Bytes}
    (h : writeRecordFrame fuel bitstream shard out 0 = some (some stats, result)) :
    writeRecordFrame fuel bitstream shard out frameLimit =
      if frameLimit ≠ 0 ∧ frameLimit < result.length - out.length then
        some (some (unpadded bitstream records shard out).stats,
          (unpadded bitstream records shard out).out) else some (some stats, result) := by
  unfold writeRecordFrame at h ⊢
  rw [(parseFrame_unlimited hparse).1] at h
  rw [hparse]
  dsimp only at h ⊢
  rw [if_neg hshard] at h ⊢
  obtain ⟨coarse, hcoarse, h⟩ := Option.bind_eq_some_iff.mp h
  rw [hcoarse, Option.bind_some]
  obtain ⟨fine, hfine, h⟩ := Option.map_eq_some_iff.mp h
  rw [hfine, Option.map_some]
  rw [if_neg (by simp)] at h
  cases h
  split <;> rfl

/-! ## The frame without padding -/

lemma foldl_place (p : Packer) (group : List Record) (w : Writing) :
    group.foldl (fun w record => p.place record w) w =
      { w with out := w.out ++ group.flatMap p.recordBytes } := by
  induction group generalizing w with
  | nil => simp
  | cons record group ih => rw [foldl_cons, ih]; simp [Packer.place]

lemma itemBytes_blocks (bitstream : Bytes) (group : List Record) :
    itemBytes bitstream (group.map Item.block) = group.flatMap (Record.bytes bitstream) := by
  rw [itemBytes, flatMap_map]
  rfl

lemma blocks_map_block (group : List Record) : blocks (group.map Item.block) = group := by
  rw [blocks, filterMap_map]
  exact filterMap_some

/-- The items of a frame: the sequence header, then each record once among padding, and in
front of the critical end exactly the coarse ones. -/
structure Framed (bitstream : Bytes) (shard frameLimit : Nat) (records : List Record)
    (stats : RecordFrameStats) (frame : Bytes) : Prop where
  limit : frameLimit ≠ 0 → frame.length ≤ frameLimit
  items : ∃ first rest : List Item, (∀ item ∈ first ++ rest, item.Sound bitstream) ∧
    frame = bitstream.take 8 ++ itemBytes bitstream (first ++ rest) ∧
    (blocks (first ++ rest)).Perm records ∧
    (shard ≠ 0 → stats.criticalBytes = (bitstream.take 8 ++ itemBytes bitstream first).length ∧
      (blocks first).Perm
        (records.filter fun record => record.blockIndex < headerCoarseBlocks bitstream) ∧
      (blocks rest).Perm
        (records.filter fun record => !(record.blockIndex < headerCoarseBlocks bitstream)))

lemma sound_map_block {group : List Record} (h : ∀ record ∈ group, record.Sound bitstream) :
    ∀ item ∈ group.map Item.block, item.Sound bitstream := by
  intro item hmem
  obtain ⟨record, hrecord, rfl⟩ := mem_map.mp hmem
  exact h record hrecord

lemma length_perm {group : List Record} (hperm : group.Perm records) :
    (itemBytes bitstream (group.map Item.block)).length =
      (records.flatMap (Record.bytes bitstream)).length := by
  rw [itemBytes_blocks]
  exact (hperm.flatMap_right _).length_eq

lemma unpadded_framed (hparse : parseFrame bitstream frameLimit = some records)
    (hlimit : frameLimit ≠ 0) : ∃ frame, (unpadded bitstream records shard out).out = out ++ frame ∧
      Framed bitstream shard frameLimit records (unpadded bitstream records shard out).stats
        frame := by
  obtain ⟨hparse, hwithin⟩ := parseFrame_unlimited hparse
  obtain ⟨hlength, -, hsound, htiles⟩ := parseFrame_some hparse
  generalize hcoarse :
    records.filter (fun record => record.blockIndex < headerCoarseBlocks bitstream) = coarse
  generalize hfine :
    records.filter (fun record => !(record.blockIndex < headerCoarseBlocks bitstream)) = fine
  have hperm : (coarse ++ fine).Perm records := by
    rw [← hcoarse, ← hfine]
    exact filter_append_perm _ records
  have hout : (unpadded bitstream records shard out).out = out ++ (bitstream.take 8 ++
        itemBytes bitstream (coarse.map Item.block ++ fine.map Item.block)) := by
    unfold unpadded
    dsimp only
    rw [hcoarse, hfine, foldl_place, foldl_place, itemBytes_append, itemBytes_blocks,
      itemBytes_blocks]
    simp only [append_assoc]
    rfl
  have hcritical : (unpadded bitstream records shard out).stats.criticalBytes =
      (bitstream.take 8 ++ itemBytes bitstream (coarse.map Item.block)).length := by
    unfold unpadded
    dsimp only
    rw [hcoarse, hfine, foldl_place, foldl_place, itemBytes_blocks]
    dsimp only
    rw [append_assoc, length_append, Nat.add_sub_cancel_left]
    rfl
  refine ⟨_, hout, fun _ => ?_, coarse.map Item.block, fine.map Item.block, ?_, rfl, ?_,
    fun _ => ⟨hcritical, ?_, ?_⟩⟩
  · rw [← map_append, length_append, length_perm hperm, htiles, ← length_append, take_append_drop]
    exact hwithin hlimit
  · rw [← map_append]
    exact sound_map_block fun record hmem => hsound record (hperm.subset hmem)
  · rw [← map_append, blocks_map_block]
    exact hperm
  · rw [blocks_map_block, ← hcoarse]
  · rw [blocks_map_block, ← hfine]

lemma writeRecordFrame_within {result : Bytes} {stats : RecordFrameStats} (hlimit : frameLimit ≠ 0)
    (h : writeRecordFrame fuel bitstream shard out frameLimit = some (some stats, result)) :
    result.length - out.length ≤ frameLimit := by
  unfold writeRecordFrame at h
  cases hparse : parseFrame bitstream frameLimit with
  | none => simp [hparse] at h
  | some records =>
    rw [hparse] at h
    dsimp only at h
    split_ifs at h
    · cases h
      have hwhole := (parseFrame_unlimited hparse).2 hlimit
      simp
      omega
    · obtain ⟨coarse, -, h⟩ := Option.bind_eq_some_iff.mp h
      obtain ⟨fine, -, h⟩ := Option.map_eq_some_iff.mp h
      split_ifs at h
      · cases h
        obtain ⟨frame, hout, hframed⟩ := @unpadded_framed bitstream out records shard _ hparse hlimit
        show (unpadded bitstream records shard out).out.length - out.length ≤ frameLimit
        simpa [hout] using hframed.limit hlimit
      · cases h
        omega

lemma Layout.Of.framed {layout : Layout} (h : layout.Of bitstream shard records)
    (hlength : 8 ≤ bitstream.length) {stats : RecordFrameStats}
    (hcritical : stats.criticalBytes = 8 + extent layout.coarse) (hlimit : frameLimit ≠ 0 →
      (bitstream.take 8 ++ itemBytes bitstream layout.items).length ≤ frameLimit) :
    Framed bitstream shard frameLimit records stats
      (bitstream.take 8 ++ itemBytes bitstream layout.items) := by
  have hitems : layout.items = layout.coarse ++ (layout.fineSpanning ++ layout.finePacked) := by
    rw [Layout.items, Layout.front, append_assoc]
  have hcoarse : ∀ item ∈ layout.coarse, item.Sound bitstream := fun item hmem =>
    h.sound item (by rw [hitems]; exact mem_append_left _ hmem)
  refine ⟨hlimit, layout.coarse, layout.fineSpanning ++ layout.finePacked, ?_, ?_, ?_,
    fun _ => ⟨?_, ?_, ?_⟩⟩
  · rw [← hitems]
    exact h.sound
  · rw [hitems]
  · rw [← hitems]
    exact h.perm
  · rw [hcritical, length_append, length_take, itemBytes_length hcoarse, min_eq_left hlength]
  · rw [Layout.coarse, blocks_append]
    exact Layout.spanning_append_packed h.coarseSpanning h.coarsePacked
  · rw [blocks_append]
    exact Layout.spanning_append_packed h.fineSpanning h.finePacked

lemma shardPayloadBytes_cases (packetsize : Int) : shardPayloadBytes packetsize = 0 ∨
      24 ≤ shardPayloadBytes packetsize ∧ shardPayloadBytes packetsize % 4 = 0 := by
  unfold shardPayloadBytes
  split
  · exact .inl rfl
  · dsimp only
    split
    · exact .inl rfl
    next hvalid =>
      simp only [not_or, not_lt, not_not] at hvalid
      exact .inr hvalid

/-- A refused bitstream leaves the output alone. An accepted one is appended as its sequence
header and its records, each once, within the limit; and where the records are aligned to
shards, the critical bytes hold the header and exactly the coarse records. -/
theorem written_frame_law (packetsize : Int) (bitstream out : Bytes) (frameLimit : Nat) :
    ∃ bound result, (∀ fuel, bound ≤ fuel →
      writeRecordFrame fuel bitstream (shardPayloadBytes packetsize) out frameLimit = some result) ∧
      (result.1 = none → result.2 = out) ∧ ∀ stats, result.1 = some stats → ∃ records frame,
        parseFrame bitstream frameLimit = some records ∧
        records.flatMap (Record.bytes bitstream) = bitstream.drop 8 ∧ result.2 = out ++ frame ∧
        Framed bitstream (shardPayloadBytes packetsize) frameLimit records stats frame := by
  generalize hshard : shardPayloadBytes packetsize = shard
  cases hparse : parseFrame bitstream frameLimit with
  | none =>
    refine ⟨0, (none, out), fun fuel _ => ?_, fun _ => rfl, nofun⟩
    unfold writeRecordFrame
    rw [hparse]
  | some records =>
  obtain ⟨hunlimited, hwithin⟩ := parseFrame_unlimited hparse
  obtain ⟨hlength, -, hsound, htiles⟩ := parseFrame_some hunlimited
  obtain hzero | ⟨hleast, haligned⟩ := hshard ▸ shardPayloadBytes_cases packetsize
  · -- The bitstream is copied, so that its records stay in their order.
    subst hzero
    refine ⟨0, (some { blockRecords := records.length }, out ++ bitstream.take 8 ++ bitstream.drop 8),
      fun fuel _ => ?_, nofun, fun stats hstats => ?_⟩
    · unfold writeRecordFrame
      rw [hparse]
      rfl
    · cases hstats
      refine ⟨records, bitstream.take 8 ++ bitstream.drop 8, rfl, htiles, append_assoc .., ?_,
        records.map Item.block, [], ?_, ?_, ?_, fun h => absurd rfl h⟩
      · rw [take_append_drop]
        exact hwithin
      · rw [append_nil]
        exact sound_map_block hsound
      · rw [append_nil, itemBytes_blocks, htiles]
      · rw [append_nil, blocks_map_block]
  · obtain ⟨stats, layout, hwrites, hlayout, -, -, -, hcritical⟩ :=
      writeRecordFrame_layout hunlimited hleast haligned out
    have hlimited := fun fuel hfuel =>
      writeRecordFrame_limit hparse (show shard ≠ 0 by omega) (hwrites fuel hfuel)
    rw [length_append, Nat.add_sub_cancel_left] at hlimited
    by_cases hover : frameLimit ≠ 0 ∧
        frameLimit < (bitstream.take 8 ++ itemBytes bitstream layout.items).length
    · obtain ⟨frame, hout, hframed⟩ := @unpadded_framed bitstream out records shard frameLimit
        hparse hover.1
      refine ⟨2 * records.length + 1, (some (unpadded bitstream records shard out).stats,
          (unpadded bitstream records shard out).out),
        fun fuel hfuel => ?_, nofun, fun other hother => ?_⟩
      · exact (hlimited fuel hfuel).trans (if_pos hover)
      · cases hother
        exact ⟨records, frame, rfl, htiles, hout, hframed⟩
    · refine ⟨2 * records.length + 1,
        (some stats, out ++ (bitstream.take 8 ++ itemBytes bitstream layout.items)),
        fun fuel hfuel => ?_, nofun, fun other hother => ?_⟩
      · exact (hlimited fuel hfuel).trans (if_neg hover)
      · cases hother
        refine ⟨records, _, rfl, htiles, rfl, hlayout.framed hlength hcritical fun hlimit => ?_⟩
        exact Nat.le_of_not_lt fun hlt => hover ⟨hlimit, hlt⟩

end

end Vibeshine.PyroWave
