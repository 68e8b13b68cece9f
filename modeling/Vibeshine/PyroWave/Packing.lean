import Vibeshine.PyroWave.Framing

/-! # What the packer lays out

A written frame is a list of items: block records of the bitstream, and padding. No
ordinary record and no padding crosses a shard boundary, and no block record leaves
four bytes of a shard, which nothing could fill.
-/

namespace Vibeshine.PyroWave

open List

lemma readU32_append_right (before after : Bytes) (position : Nat) :
    readU32 (before ++ after) (before.length + position) = readU32 after position := by
  simp only [readU32, getD_eq_getElem?_getD, add_assoc,
    getElem?_append_right (Nat.le_add_right _ _), Nat.add_sub_cancel_left]

lemma readU32_append_left {before : Bytes} (after : Bytes) {position : Nat}
    (h : position + 4 ≤ before.length) :
    readU32 (before ++ after) position = readU32 before position := by
  simp only [readU32, getD_eq_getElem?_getD]
  rw [getElem?_append_left (by omega), getElem?_append_left (by omega),
    getElem?_append_left (by omega), getElem?_append_left (by omega)]

lemma readU32_slice (bytes : Bytes) (offset : Nat) {size position : Nat} (h : position + 4 ≤ size) :
    readU32 ((bytes.drop offset).take size) position = readU32 bytes (offset + position) := by
  simp only [readU32, getD_eq_getElem?_getD]
  rw [getElem?_take_of_lt (by omega), getElem?_take_of_lt (by omega),
    getElem?_take_of_lt (by omega), getElem?_take_of_lt (by omega)]
  simp only [getElem?_drop, add_assoc]

lemma readU32_u32Bytes {value : Nat} (h : value < 2 ^ 32) : readU32 (u32Bytes value) 0 = value := by
  simp only [readU32, u32Bytes, getD_cons_zero, getD_cons_succ, UInt8.toNat_ofNat']
  omega

lemma readU32_middle (before after : Bytes) {part : Bytes} {position : Nat}
    (h : position + 4 ≤ part.length) :
    readU32 (before ++ (part ++ after)) (before.length + position) = readU32 part position := by
  rw [readU32_append_right, readU32_append_left after h]

lemma paddingBytes_length {size : Nat} (h : 8 ≤ size) : (paddingBytes size).length = size := by
  simp only [paddingBytes, u32Bytes, paddingRecordMinBytes, length_append, length_cons,
    length_nil, length_replicate]
  omega

lemma paddingBytes_magic (size : Nat) : readU32 (paddingBytes size) 0 = paddingMagic := by
  rw [paddingBytes, append_assoc, readU32_append_left _ (by simp [u32Bytes])]
  exact readU32_u32Bytes (by decide)

lemma paddingBytes_words {size : Nat} (h : size < 2 ^ 32) :
    readU32 (paddingBytes size) 4 = size / 4 - 2 := by
  have hread := readU32_middle (u32Bytes paddingMagic)
    (List.replicate (size - paddingRecordMinBytes) 0) (show 0 + 4 ≤ (u32Bytes (size / 4 - 2)).length
      from le_rfl)
  rw [readU32_u32Bytes (by omega)] at hread
  rw [paddingBytes, append_assoc]
  exact hread

/-! ## The records of a bitstream -/

/-- A block record as `write_record_frame` accepts it. -/
structure Record.Sound (bitstream : Bytes) (record : Record) : Prop where
  inside : record.offset + record.size ≤ bitstream.length
  size_eq : record.size = readU32 bitstream record.offset / 2 ^ 16 % 2 ^ 12 * 4
  least : 8 ≤ record.size
  kind : readU32 bitstream record.offset / 2 ^ 31 = 0
  index : record.blockIndex = readU32 bitstream (record.offset + 4) / 2 ^ 8

def Record.bytes (bitstream : Bytes) (record : Record) : Bytes :=
  (bitstream.drop record.offset).take record.size

variable {bitstream : Bytes}

lemma Record.Sound.length_bytes {record : Record}
    (h : record.Sound bitstream) : (record.bytes bitstream).length = record.size := by
  rw [Record.bytes, length_take, length_drop]
  have := h.inside
  omega

variable {records : List Record}

lemma splitRecords_sound {fuel position : Nat}
    (h : splitRecords bitstream fuel position = some records) :
    (∀ record ∈ records, record.Sound bitstream) ∧
      records.flatMap (Record.bytes bitstream) = bitstream.drop position := by
  induction fuel generalizing position records with
  | zero =>
    unfold splitRecords at h
    split at h
    · next hend =>
      cases h
      exact ⟨by simp, (drop_eq_nil_of_le hend).symm⟩
    · cases h
  | succ fuel ih =>
    unfold splitRecords at h
    split at h
    · next hend =>
      cases h
      exact ⟨by simp, (drop_eq_nil_of_le hend).symm⟩
    · dsimp only at h
      split at h
      · cases h
      · split at h
        · cases h
        · next hstart hrest hcheck =>
          obtain ⟨rest, hsplit, rfl⟩ := Option.map_eq_some_iff.mp h
          obtain ⟨hsound, hbytes⟩ := ih hsplit
          have hkind : readU32 bitstream position / 2 ^ 31 = 0 := by
            by_contra hkind
            exact hcheck (.inl hkind)
          refine ⟨forall_mem_cons.mpr ⟨⟨?_, rfl, ?_, hkind, rfl⟩, hsound⟩, ?_⟩
          · dsimp only
            omega
          · dsimp only
            omega
          · rw [flatMap_cons, hbytes, Record.bytes, ← drop_drop, take_append_drop]

lemma shardRemaining_pos (position : Nat) {shard : Nat} (h : 0 < shard) :
    0 < shardRemaining position shard ∧ shardRemaining position shard ≤ shard := by
  unfold shardRemaining
  have := Nat.mod_lt (position + frameHeaderBytes) h
  omega

lemma shardRemaining_aligned {position shard : Nat} (h : 0 < shard) (hshard : shard % 4 = 0)
    (hposition : position % 4 = 0) : shardRemaining position shard % 4 = 0 := by
  have hphase : (position + frameHeaderBytes) % shard % 4 = (position + 8) % 4 :=
    Nat.mod_mod_of_dvd _ (Nat.dvd_of_mod_eq_zero hshard)
  have := Nat.mod_lt (position + frameHeaderBytes) h
  unfold shardRemaining
  omega

lemma shardRemaining_add (position size : Nat) {shard : Nat} (h : 0 < shard) :
    shardRemaining (position + size) shard = if size % shard < shardRemaining position shard
      then shardRemaining position shard - size % shard
      else shard + shardRemaining position shard - size % shard := by
  have hphase := Nat.mod_lt (position + frameHeaderBytes) h
  have hsize := Nat.mod_lt size h
  have hmod : (position + size + frameHeaderBytes) % shard =
      ((position + frameHeaderBytes) % shard + size % shard) % shard := by
    rw [add_right_comm, Nat.add_mod]
  unfold shardRemaining
  rw [hmod]
  split
  · rw [Nat.mod_eq_of_lt (by omega)]
    omega
  · rw [Nat.mod_eq_sub_mod (by omega), Nat.mod_eq_of_lt (by omega)]
    omega

lemma shardRemaining_add_le {position size shard : Nat} (h : 0 < shard)
    (hsize : size ≤ shardRemaining position shard) : shardRemaining (position + size) shard =
      if size = shardRemaining position shard then shard
      else shardRemaining position shard - size := by
  have hroom := shardRemaining_pos position h
  rw [shardRemaining_add position size h]
  by_cases hfull : size = shard
  · rw [hfull, Nat.mod_self, if_pos hroom.1, if_pos (by omega)]
    omega
  · rw [Nat.mod_eq_of_lt (by omega)]
    split <;> split <;> omega

/-! ## Items -/

inductive Item where
  | block (record : Record)
  | padding (size : Nat)
  deriving DecidableEq

namespace Item

def size : Item → Nat
  | .block record => record.size
  | .padding size => size

def bytes (bitstream : Bytes) : Item → Bytes
  | .block record => record.bytes bitstream
  | .padding size => paddingBytes size

def record? : Item → Option Record
  | .block record => some record
  | .padding _ => none

def padding? : Item → Option Nat
  | .block _ => none
  | .padding size => some size

def Fits (shard position : Nat) : Item → Prop
  | .block record =>
    (oversized record.size shard = false → record.size ≤ shardRemaining position shard) ∧
      shardRemaining (position + record.size) shard ≠ 4
  | .padding size => 8 ≤ size ∧ size % 4 = 0 ∧ size ≤ shardRemaining position shard

def Sound (bitstream : Bytes) : Item → Prop
  | .block record => record.Sound bitstream
  | .padding size => 8 ≤ size

lemma Sound.length_bytes {bitstream : Bytes} {item : Item} (h : item.Sound bitstream) :
    (item.bytes bitstream).length = item.size := by
  cases item with
  | block record => exact Record.Sound.length_bytes h
  | padding size => exact paddingBytes_length h

end Item

def blocks (items : List Item) : List Record := items.filterMap Item.record?

def paddings (items : List Item) : List Nat := items.filterMap Item.padding?

/-- The bytes that the records take. -/
def extent (items : List Item) : Nat := (items.map Item.size).sum

def itemBytes (bitstream : Bytes) (items : List Item) : Bytes :=
  items.flatMap (Item.bytes bitstream)

/-- Each record fits into the shard that it starts in. -/
def Laid (shard : Nat) : Nat → List Item → Prop
  | _, [] => True
  | position, item :: rest => item.Fits shard position ∧ Laid shard (position + item.size) rest

@[simp] lemma extent_append (first second : List Item) :
    extent (first ++ second) = extent first + extent second := by
  simp [extent]

@[simp] lemma extent_singleton (item : Item) : extent [item] = item.size := by
  simp [extent]

@[simp] lemma blocks_append (first second : List Item) :
    blocks (first ++ second) = blocks first ++ blocks second := filterMap_append

@[simp] lemma paddings_append (first second : List Item) :
    paddings (first ++ second) = paddings first ++ paddings second := filterMap_append

@[simp] lemma itemBytes_append (bitstream : Bytes) (first second : List Item) :
    itemBytes bitstream (first ++ second) =
      itemBytes bitstream first ++ itemBytes bitstream second := flatMap_append

lemma itemBytes_length {items : List Item} (h : ∀ item ∈ items, item.Sound bitstream) :
    (itemBytes bitstream items).length = extent items := by
  induction items with
  | nil => rfl
  | cons item rest ih =>
    obtain ⟨hitem, hrest⟩ := forall_mem_cons.mp h
    rw [itemBytes, flatMap_cons, length_append, hitem.length_bytes]
    exact congrArg (item.size + ·) (ih hrest)

lemma laid_append {shard : Nat} {first second : List Item} {position : Nat} :
    Laid shard position (first ++ second) ↔
      Laid shard position first ∧ Laid shard (position + extent first) second := by
  induction first generalizing position with
  | nil => simp [Laid, extent]
  | cons item rest ih =>
    have hextent : position + extent (item :: rest) = position + item.size + extent rest := by
      simp [extent, add_assoc]
    rw [cons_append, Laid, Laid, ih, hextent, and_assoc]

/-- No padding is last. -/
def EndsInBlock (items : List Item) : Prop :=
  items = [] ∨ ∃ before record, items = before ++ [.block record]

lemma EndsInBlock.append {first second : List Item} (hfirst : EndsInBlock first)
    (hsecond : EndsInBlock second) : EndsInBlock (first ++ second) := by
  rcases hsecond with rfl | ⟨before, record, rfl⟩
  · rwa [append_nil]
  · exact .inr ⟨first ++ before, record, by rw [append_assoc]⟩

/-! ## Writing items -/

/-- The shard payload is one of `shard_payload_bytes`, and the output before the items
ends with the sequence header. -/
structure Packer.Ready (p : Packer) (before : Bytes) : Prop where
  least : 24 ≤ p.shardPayload
  aligned : p.shardPayload % 4 = 0
  start : before.length = p.frameStart + 8

/-- The output holds the items, and the statistics count their padding. -/
structure Written (p : Packer) (before : Bytes) (total critical : Nat) (w : Writing)
    (items : List Item) : Prop where
  out : w.out = before ++ itemBytes p.bitstream items
  sound : ∀ item ∈ items, item.Sound p.bitstream
  laid : Laid p.shardPayload 8 items
  aligned : extent items % 4 = 0
  paddingRecords : w.stats.paddingRecords = (paddings items).length
  paddingBytes : w.stats.paddingBytes = (paddings items).sum
  blockRecords : w.stats.blockRecords = total
  criticalBytes : w.stats.criticalBytes = critical

/-- What is left of the open shard holds a padding record. -/
def Roomy (p : Packer) (items : List Item) : Prop :=
  shardRemaining (8 + extent items) p.shardPayload ≠ 4

section

variable {p : Packer} {before : Bytes} {total critical : Nat} {w : Writing} {items : List Item}

section

variable (h : Written p before total critical w items)

include h

section

variable (hready : p.Ready before)

include hready

lemma Written.length : w.out.length = p.frameStart + 8 + extent items := by
  rw [h.out, length_append, itemBytes_length h.sound, hready.start]

lemma Written.remaining_eq : p.remaining w = shardRemaining (8 + extent items) p.shardPayload := by
  rw [Packer.remaining, h.length hready, add_assoc, Nat.add_sub_cancel_left]

lemma Written.remaining_least (hroomy : Roomy p items) :
    8 ≤ p.remaining w ∧ p.remaining w % 4 = 0 ∧ p.remaining w ≤ p.shardPayload := by
  have hleast := hready.least
  have haligned := h.aligned
  have hpos := shardRemaining_pos (8 + extent items) (show 0 < p.shardPayload by omega)
  have hmod := shardRemaining_aligned (show 0 < p.shardPayload by omega) hready.aligned
    (show (8 + extent items) % 4 = 0 by omega)
  rw [h.remaining_eq hready]
  unfold Roomy at hroomy
  omega

end

lemma Written.stats {stats : RecordFrameStats}
    (hrecs : stats.paddingRecords = w.stats.paddingRecords)
    (hbytes : stats.paddingBytes = w.stats.paddingBytes)
    (htotal : stats.blockRecords = w.stats.blockRecords) {critical' : Nat}
    (hcritical : stats.criticalBytes = critical') :
    Written p before total critical' { w with stats := stats } items where
  out := h.out
  sound := h.sound
  laid := h.laid
  aligned := h.aligned
  paddingRecords := hrecs.trans h.paddingRecords
  paddingBytes := hbytes.trans h.paddingBytes
  blockRecords := htotal.trans h.blockRecords
  criticalBytes := hcritical

/-- A padding record that fits is appended. -/
lemma Written.pad (hready : p.Ready before)
    {size : Nat} (hleast : 8 ≤ size) (haligned : size % 4 = 0) (hfits : size ≤ p.remaining w) :
    Written p before total critical (w.pad size) (items ++ [.padding size]) where
  out := by
    rw [Writing.pad, h.out, itemBytes_append, append_assoc]
    simp [itemBytes, Item.bytes]
  sound := by
    intro item hitem
    rcases mem_append.mp hitem with hold | hnew
    · exact h.sound item hold
    · cases mem_singleton.mp hnew
      exact hleast
  laid := by
    refine laid_append.mpr ⟨h.laid, ⟨hleast, haligned, ?_⟩, trivial⟩
    rwa [h.remaining_eq hready] at hfits
  aligned := by
    have := h.aligned
    rw [extent_append, extent_singleton, Item.size]
    omega
  paddingRecords := by
    rw [paddings_append, length_append, ← h.paddingRecords]
    rfl
  paddingBytes := by
    rw [paddings_append, sum_append, ← h.paddingBytes]
    rfl
  blockRecords := h.blockRecords
  criticalBytes := h.criticalBytes

/-- A block record is appended. -/
lemma Written.place {record : Record} (hsound : record.Sound p.bitstream)
    (hfits : (Item.block record).Fits p.shardPayload (8 + extent items)) :
    Written p before total critical (p.place record w) (items ++ [.block record]) where
  out := by
    rw [Packer.place, h.out, itemBytes_append, append_assoc]
    simp [itemBytes, Item.bytes, Packer.recordBytes, Record.bytes]
  sound := by
    intro item hitem
    rcases mem_append.mp hitem with hold | hnew
    · exact h.sound item hold
    · cases mem_singleton.mp hnew
      exact hsound
  laid := laid_append.mpr ⟨h.laid, hfits, trivial⟩
  aligned := by
    have := h.aligned
    have := hsound.size_eq
    rw [extent_append, extent_singleton, Item.size]
    omega
  paddingRecords := by
    rw [paddings_append, length_append, ← h.paddingRecords]
    rfl
  paddingBytes := by
    rw [paddings_append, sum_append, ← h.paddingBytes]
    rfl
  blockRecords := h.blockRecords
  criticalBytes := h.criticalBytes

end

lemma roomy_place {record : Record}
    (hfits : (Item.block record).Fits p.shardPayload (8 + extent items)) :
    Roomy p (items ++ [.block record]) := by
  rw [Roomy, extent_append, extent_singleton, ← add_assoc]
  exact hfits.2

/-! ## Oversized records -/

lemma placeOversized_written (h : Written p before total critical w items)
    (hready : p.Ready before) (hroomy : Roomy p items) {record : Record}
    (hsound : record.Sound p.bitstream) (hover : oversized record.size p.shardPayload = true) :
    ∃ added, Written p before total critical (p.placeOversized record w) (items ++ added) ∧
      Roomy p (items ++ added) ∧ blocks added = [record] ∧ EndsInBlock added := by
  have hleast := hready.least
  have hroom := h.remaining_least hready hroomy
  have hpos : 0 < p.shardPayload := by omega
  have hspans : ∀ {position}, shardRemaining (position + record.size) p.shardPayload ≠ 4 →
      (Item.block record).Fits p.shardPayload position :=
    fun hne => ⟨fun hordinary => absurd (hover.symm.trans hordinary) (by decide), hne⟩
  have hmod := Nat.mod_lt record.size hpos
  unfold Packer.placeOversized
  split
  · next hshift =>
    have hpadded := h.pad hready le_rfl (by decide) hroom.1
    have hafter : shardRemaining (8 + extent (items ++ [.padding 8]) + record.size)
        p.shardPayload ≠ 4 := by
      -- the record then ends four bytes after a boundary
      have hstart : shardRemaining (8 + extent items) p.shardPayload = p.remaining w :=
        (h.remaining_eq hready).symm
      have hmoved := shardRemaining_add_le hpos (show 8 ≤ shardRemaining (8 + extent items)
        p.shardPayload by omega)
      rw [extent_append, extent_singleton, Item.size, ← add_assoc,
        shardRemaining_add _ record.size hpos]
      split at hmoved <;> split <;> omega
    refine ⟨[.padding 8, .block record], ?_, ?_, rfl, .inr ⟨[.padding 8], record, rfl⟩⟩
    · rw [← singleton_append, ← append_assoc]
      exact (hpadded.place hsound (hspans hafter)).stats (by rfl) (by rfl) (by rfl)
        (by exact h.criticalBytes)
    · rw [← singleton_append, ← append_assoc]
      exact roomy_place (hspans hafter)
  · next hshift =>
    have hafter : shardRemaining (8 + extent items + record.size) p.shardPayload ≠ 4 := by
      rw [shardRemaining_add _ record.size hpos, ← h.remaining_eq hready]
      split <;> omega
    refine ⟨[.block record], ?_, roomy_place (hspans hafter), rfl, .inr ⟨[], record, rfl⟩⟩
    exact (h.place hsound (hspans hafter)).stats (by rfl) (by rfl) (by rfl)
      (by exact h.criticalBytes)

lemma placeAllOversized_written (h : Written p before total critical w items)
    (hready : p.Ready before) (hroomy : Roomy p items) {group : List Record}
    (hsound : ∀ record ∈ group, record.Sound p.bitstream) :
    ∃ added, Written p before total critical (p.placeAllOversized group w).1 (items ++ added) ∧
      Roomy p (items ++ added) ∧
      blocks added = group.filter (fun record => oversized record.size p.shardPayload) ∧
      EndsInBlock added ∧ (p.placeAllOversized group w).2 =
        group.filter fun record => !oversized record.size p.shardPayload := by
  unfold Packer.placeAllOversized
  suffices hrun : ∀ ordinary : List Record, ∃ added,
      Written p before total critical (group.foldl (fun (state : Writing × List Record) record =>
        if oversized record.size p.shardPayload then (p.placeOversized record state.1, state.2)
        else (state.1, state.2 ++ [record])) (w, ordinary)).1 (items ++ added) ∧
      Roomy p (items ++ added) ∧
      blocks added = group.filter (fun record => oversized record.size p.shardPayload) ∧
      EndsInBlock added ∧
      (group.foldl (fun (state : Writing × List Record) record =>
        if oversized record.size p.shardPayload then (p.placeOversized record state.1, state.2)
        else (state.1, state.2 ++ [record])) (w, ordinary)).2 =
        ordinary ++ group.filter fun record => !oversized record.size p.shardPayload by
    simpa using hrun []
  induction group generalizing w items with
  | nil => exact fun ordinary => ⟨[], by simpa using h, by simpa using hroomy, rfl, .inl rfl,
      by simp⟩
  | cons record rest ih =>
    intro ordinary
    obtain ⟨hrecord, hrest⟩ := forall_mem_cons.mp hsound
    rw [foldl_cons]
    cases hover : oversized record.size p.shardPayload with
    | true =>
      obtain ⟨first, hwritten, hroomy, hblocks, hends⟩ :=
        placeOversized_written h hready hroomy hrecord hover
      obtain ⟨added, hrun, hroomy, hall, hlast, hordinary⟩ := ih hwritten hroomy hrest ordinary
      refine ⟨first ++ added, ?_, ?_, ?_, hends.append hlast, ?_⟩
      · rw [← append_assoc, if_pos rfl]
        exact hrun
      · rwa [← append_assoc]
      · rw [blocks_append, hblocks, hall, filter_cons, if_pos hover]
        rfl
      · rw [if_pos rfl, filter_cons, if_neg (by simp [hover])]
        exact hordinary
    | false =>
      obtain ⟨added, hrun, hroomy, hall, hlast, hordinary⟩ :=
        ih h hroomy hrest (ordinary ++ [record])
      refine ⟨added, ?_, hroomy, ?_, hlast, ?_⟩
      · rw [if_neg (by simp)]
        exact hrun
      · rw [hall, filter_cons, if_neg (by simp [hover])]
      · rw [if_neg (by simp), filter_cons, if_pos (by simp [hover])]
        simpa using hordinary

end

/-! ## Ordinary records -/

lemma firstWhere_of_imp {remaining : List Nat} (hsorted : remaining.Pairwise (· < ·))
    {weak strong : Nat → Bool} {i : Nat} (hfirst : FitIndex.firstWhere remaining weak = WithTop.some i)
    (himp : ∀ j, strong j = true → weak j = true) (hi : strong i = true) :
    FitIndex.firstWhere remaining strong = WithTop.some i := by
  have hmem := (FitIndex.firstWhere_mem hfirst).1
  have hle := FitIndex.firstWhere_le hsorted hmem hi
  cases hother : FitIndex.firstWhere remaining strong with
  | top =>
    rw [hother] at hle
    exact absurd hle (by simp)
  | coe j =>
    obtain ⟨hj, hstrong⟩ := FitIndex.firstWhere_mem hother
    have hweak := FitIndex.firstWhere_le hsorted hj (himp j hstrong)
    rw [hfirst] at hweak
    rw [hother] at hle
    exact le_antisymm hle hweak

lemma choose_some {fit : FitIndex} {words remaining : List Nat} {room i : Nat}
    (hholds : fit.Holds (fun i => words.getD i 0) remaining)
    (hsmall : ∀ i ∈ remaining, words.getD i 0 < leaves) (hroom : 8 ≤ room)
    (haligned : room % 4 = 0) (h : Packer.choose fit words room = WithTop.some i) :
    i ∈ remaining ∧ words.getD i 0 * 4 ≤ room ∧ room - words.getD i 0 * 4 ≠ 4 ∧
      FitIndex.firstWhere remaining (fun j => words.getD j 0 = words.getD i 0) =
        WithTop.some i := by
  have hfirst : ∀ {weak : Nat → Bool}, FitIndex.firstWhere remaining weak = WithTop.some i →
      (∀ j, words.getD j 0 = words.getD i 0 → weak j = true) →
      FitIndex.firstWhere remaining (fun j => words.getD j 0 = words.getD i 0) = WithTop.some i :=
    fun hweak himp => firstWhere_of_imp hholds.sorted hweak
      (fun j hj => himp j (of_decide_eq_true hj)) (by simp)
  unfold Packer.choose at h
  rw [FitIndex.earliestFitting_eq hholds hsmall (by omega)] at h
  cases hfitting : FitIndex.firstWhere remaining fun i => words.getD i 0 ≤ room / 4 with
  | top =>
    rw [hfitting] at h
    cases h
  | coe chosen =>
    rw [hfitting] at h
    change (if room - words.getD chosen 0 * 4 = 4 then _ else WithTop.some chosen) = _ at h
    split at h
    · -- a record that fills the shard, or one that leaves room for padding
      rw [FitIndex.earliestExact_eq hholds hsmall] at h
      rcases min_choice (FitIndex.firstWhere remaining fun i => words.getD i 0 = room / 4)
        (if 16 ≤ room then fit.earliestFitting ((room - 8) / 4) else ⊤) with hexact | hroomy
      · rw [hexact] at h
        obtain ⟨hmem, hsize⟩ := FitIndex.firstWhere_mem h
        rw [decide_eq_true_eq] at hsize
        refine ⟨hmem, by omega, by omega, hfirst h fun j hj => ?_⟩
        rw [decide_eq_true_eq, hj, hsize]
      · rw [hroomy] at h
        split at h
        · rw [FitIndex.earliestFitting_eq hholds hsmall (by omega)] at h
          obtain ⟨hmem, hsize⟩ := FitIndex.firstWhere_mem h
          rw [decide_eq_true_eq] at hsize
          refine ⟨hmem, by omega, by omega, hfirst h fun j hj => ?_⟩
          rw [decide_eq_true_eq, hj]
          exact hsize
        · cases h
    · next hleaves =>
      cases WithTop.coe_inj.mp h
      obtain ⟨hmem, hsize⟩ := FitIndex.firstWhere_mem hfitting
      rw [decide_eq_true_eq] at hsize
      refine ⟨hmem, by omega, hleaves, hfirst hfitting fun j hj => ?_⟩
      rw [decide_eq_true_eq, hj]
      exact hsize

lemma choose_ne_top {fit : FitIndex} {words remaining : List Nat} {room i : Nat}
    (hholds : fit.Holds (fun i => words.getD i 0) remaining)
    (hsmall : ∀ i ∈ remaining, words.getD i 0 < leaves) (hroom : 8 ≤ room)
    (hmem : i ∈ remaining) (hfits : ∀ j ∈ remaining, words.getD j 0 * 4 + 8 ≤ room) :
    Packer.choose fit words room ≠ ⊤ := by
  intro h
  unfold Packer.choose at h
  rw [FitIndex.earliestFitting_eq hholds hsmall (by omega)] at h
  cases hfitting : FitIndex.firstWhere remaining fun i => words.getD i 0 ≤ room / 4 with
  | top =>
    have hlarge := FitIndex.firstWhere_eq_top hfitting i hmem
    rw [decide_eq_false_iff_not] at hlarge
    have := hfits i hmem
    omega
  | coe chosen =>
    rw [hfitting] at h
    change (if room - words.getD chosen 0 * 4 = 4 then _ else WithTop.some chosen) = _ at h
    have := hfits chosen (FitIndex.firstWhere_mem hfitting).1
    rw [if_neg (by omega)] at h
    cases h

lemma skipPlaced_some {placed : Nat → Bool} {fuel earliest i : Nat} (hi : placed i = false)
    (hle : earliest ≤ i) (hfuel : i < earliest + fuel) :
    ∃ next, Packer.skipPlaced placed fuel earliest = some next ∧
      ∀ j, placed j = false → earliest ≤ j → next ≤ j := by
  induction fuel generalizing earliest with
  | zero => omega
  | succ fuel ih =>
    unfold Packer.skipPlaced
    split
    · next hplaced =>
      have hne : ∀ j, placed j = false → earliest ≠ j := by
        rintro j hj rfl
        rw [hj] at hplaced
        cases hplaced
      have hstart := hne i hi
      obtain ⟨next, hskip, hafter⟩ := ih (show earliest + 1 ≤ i by omega) (by omega)
      refine ⟨next, hskip, fun j hj hlow => hafter j hj ?_⟩
      have := hne j hj
      omega
    · exact ⟨earliest, rfl, fun j _ hlow => hlow⟩

/-- The locals of the packing loop agree with the records that remain. -/
structure Keeps (ordinary : List Record) (state : Packer.Filling) (remaining : List Nat) :
    Prop where
  holds : state.fit.Holds (fun i => (ordinary.map fun record => record.size / 4).getD i 0)
    remaining
  inside : ∀ i ∈ remaining, i < ordinary.length
  left : state.left = remaining.length
  unplaced : ∀ i ∈ remaining, state.placed i = false
  earliest : ∀ i ∈ remaining, state.earliest ≤ i

section

variable {p : Packer} {before : Bytes} {total critical : Nat} {ordinary : List Record}
  {state : Packer.Filling} {items : List Item} {remaining : List Nat}

lemma ordinary_getD (hsound : ∀ record ∈ ordinary, record.Sound p.bitstream) {i : Nat}
    (hi : i < ordinary.length) : ordinary.getD i ⟨0, 0, 0⟩ ∈ ordinary ∧
      (ordinary.map fun record => record.size / 4).getD i 0 * 4 = (ordinary.getD i ⟨0, 0, 0⟩).size ∧
      (ordinary.map fun record => record.size / 4).getD i 0 < leaves := by
  have hget : ordinary.getD i ⟨0, 0, 0⟩ = ordinary[i] := getD_eq_getElem _ _ hi
  have hmem : ordinary.getD i ⟨0, 0, 0⟩ ∈ ordinary := hget ▸ getElem_mem hi
  have hword : (ordinary.map fun record => record.size / 4).getD i 0 = ordinary[i].size / 4 := by
    rw [getD_eq_getElem _ _ (by simpa using hi), getElem_map]
  have hsize := (hsound _ hmem).size_eq
  rw [hget] at hsize
  rw [hword, hget, leaves_eq]
  refine ⟨getElem_mem hi, by omega, by omega⟩

lemma fillRound_none (hready : p.Ready before) (hkeeps : Keeps ordinary state remaining)
    (hwritten : Written p before total critical state.writing items) (hroomy : Roomy p items)
    {earliest : Nat} (hearliest : ∀ i ∈ remaining, earliest ≤ i)
    (h : Packer.choose state.fit (ordinary.map fun record => record.size / 4)
      (p.remaining state.writing) = ⊤) :
    ∃ next, p.fillRound ordinary (ordinary.map fun record => record.size / 4) state earliest =
        next ∧ Keeps ordinary next remaining ∧ Written p before total critical next.writing
        (items ++ [.padding (p.remaining state.writing)]) ∧
      Roomy p (items ++ [.padding (p.remaining state.writing)]) ∧
      p.remaining next.writing = p.shardPayload := by
  have hleast := hready.least
  obtain ⟨hmin, haligned, -⟩ := hwritten.remaining_least hready hroomy
  have hpadded := hwritten.pad hready hmin haligned le_rfl
  have hfull : shardRemaining (8 + extent (items ++ [.padding (p.remaining state.writing)]))
      p.shardPayload = p.shardPayload := by
    have hroom := hwritten.remaining_eq hready
    rw [extent_append, extent_singleton, Item.size, ← add_assoc,
      shardRemaining_add_le (by omega) (le_of_eq hroom), if_pos hroom]
  refine ⟨{ state with
      earliest := earliest
      writing := state.writing.pad (p.remaining state.writing) }, ?_, ?_, hpadded, ?_, ?_⟩
  · simp only [Packer.fillRound]
    rw [h]
  · exact ⟨hkeeps.holds, hkeeps.inside, hkeeps.left, hkeeps.unplaced, hearliest⟩
  · rw [Roomy, hfull]
    omega
  · rw [hpadded.remaining_eq hready, hfull]

/-- A round that finds a fitting record places it. -/
lemma fillRound_some (hready : p.Ready before)
    (hsound : ∀ record ∈ ordinary, record.Sound p.bitstream)
    (hkeeps : Keeps ordinary state remaining)
    (hwritten : Written p before total critical state.writing items) (hroomy : Roomy p items)
    {earliest i : Nat} (hearliest : ∀ i ∈ remaining, earliest ≤ i)
    (h : Packer.choose state.fit (ordinary.map fun record => record.size / 4)
      (p.remaining state.writing) = WithTop.some i) :
    ∃ next, p.fillRound ordinary (ordinary.map fun record => record.size / 4) state earliest =
        next ∧ i ∈ remaining ∧ Keeps ordinary next (remaining.erase i) ∧
      Written p before total critical next.writing (items ++ [.block (ordinary.getD i ⟨0, 0, 0⟩)]) ∧
      Roomy p (items ++ [.block (ordinary.getD i ⟨0, 0, 0⟩)]) := by
  have hleast := hready.least
  obtain ⟨hmin, haligned, -⟩ := hwritten.remaining_least hready hroomy
  have hsmall : ∀ j ∈ remaining, (ordinary.map fun record => record.size / 4).getD j 0 < leaves :=
    fun j hj => (ordinary_getD hsound (hkeeps.inside j hj)).2.2
  obtain ⟨hmem, hfits, hfour, hfirst⟩ := choose_some hkeeps.holds hsmall hmin haligned h
  obtain ⟨hrecord, hsize, hword⟩ := ordinary_getD hsound (hkeeps.inside i hmem)
  have hroom := hwritten.remaining_eq hready
  have hnodup : remaining.Nodup := hkeeps.holds.sorted.imp fun hlt => ne_of_lt hlt
  have hkept : ∀ j ∈ remaining.erase i, j ∈ remaining ∧ j ≠ i :=
    fun j hj => ⟨mem_of_mem_erase hj, (hnodup.mem_erase_iff.mp hj).1⟩
  have hlies : (Item.block (ordinary.getD i ⟨0, 0, 0⟩)).Fits p.shardPayload
      (8 + extent items) := by
    rw [hroom, hsize] at hfits
    refine ⟨fun _ => hfits, ?_⟩
    rw [shardRemaining_add_le (by omega) hfits]
    split <;> omega
  refine ⟨_, rfl, hmem, ?_, ?_, roomy_place hlies⟩
  · simp only [Packer.fillRound]
    rw [h]
    refine ⟨FitIndex.remove_holds hkeeps.holds hfirst hword,
      fun j hj => hkeeps.inside j (hkept j hj).1, ?_, fun j hj => ?_,
      fun j hj => hearliest j (hkept j hj).1⟩
    · rw [length_erase_of_mem hmem, ← hkeeps.left]
    · exact (Function.update_of_ne (hkept j hj).2 _ _).trans (hkeeps.unplaced j (hkept j hj).1)
  · simp only [Packer.fillRound]
    rw [h]
    refine (hwritten.stats ?_ ?_ ?_ ?_).place (hsound _ hrecord) hlies
    · split <;> rfl
    · split <;> rfl
    · split <;> rfl
    · split <;> exact hwritten.criticalBytes

end

lemma ordinary_size {size shard : Nat} (h : oversized size shard = false) : size + 8 ≤ shard := by
  have hsmall : ¬ shard < size + paddingRecordMinBytes := of_decide_eq_false h
  exact Nat.le_of_not_lt hsmall

lemma fillShards_done {p : Packer} {ordinary : List Record} {words : List Nat}
    {state : Packer.Filling} (h : state.left = 0) (fuel : Nat) :
    p.fillShards ordinary words fuel state = some state := by
  unfold Packer.fillShards
  rw [if_pos h]

lemma fillShards_succ {p : Packer} {ordinary : List Record} {words : List Nat}
    {state : Packer.Filling} {remaining : List Nat} (hkeeps : Keeps ordinary state remaining)
    {i : Nat} (hmem : i ∈ remaining) : ∃ earliest, (∀ j ∈ remaining, earliest ≤ j) ∧ ∀ fuel,
      p.fillShards ordinary words (fuel + 1) state =
        p.fillShards ordinary words fuel (p.fillRound ordinary words state earliest) := by
  have hinside := hkeeps.inside i hmem
  obtain ⟨earliest, hskip, hafter⟩ := skipPlaced_some (hkeeps.unplaced i hmem)
    (hkeeps.earliest i hmem) (show i < state.earliest + (ordinary.length + 1) by omega)
  refine ⟨earliest, fun j hj => hafter j (hkeeps.unplaced j hj) (hkeeps.earliest j hj),
    fun fuel => ?_⟩
  have hleft := hkeeps.left
  have hlength : 0 < remaining.length := length_pos_of_mem hmem
  rw [Packer.fillShards, if_neg (by omega), hskip, Option.bind_some]

/-- The ordinary records of a level are all placed. -/
lemma fillShards_written {p : Packer} {before : Bytes} {total critical : Nat}
    {ordinary : List Record} (hready : p.Ready before)
    (hsound : ∀ record ∈ ordinary, record.Sound p.bitstream)
    (hordinary : ∀ record ∈ ordinary, oversized record.size p.shardPayload = false)
    (bound : Nat) {state : Packer.Filling} {items : List Item} {remaining : List Nat}
    (hkeeps : Keeps ordinary state remaining)
    (hwritten : Written p before total critical state.writing items) (hroomy : Roomy p items)
    (hbound : 2 * remaining.length +
      (if p.remaining state.writing = p.shardPayload then 0 else 1) ≤ bound) : ∃ result added,
      (∀ fuel, bound ≤ fuel →
        p.fillShards ordinary (ordinary.map fun record => record.size / 4) fuel state =
          some result) ∧
      Written p before total critical result.writing (items ++ added) ∧ Roomy p (items ++ added) ∧
      (blocks added).Perm (remaining.map fun i => ordinary.getD i ⟨0, 0, 0⟩) ∧
      EndsInBlock added := by
  induction bound generalizing state items remaining with
  | zero =>
    have hnone : remaining = [] := length_eq_zero_iff.mp (by omega)
    subst hnone
    exact ⟨state, [], fun fuel _ => fillShards_done hkeeps.left fuel, by simpa using hwritten,
      by simpa using hroomy, List.Perm.nil, .inl rfl⟩
  | succ bound ih =>
    rcases remaining.eq_nil_or_concat' with hnone | ⟨others, last, hlast⟩
    · subst hnone
      exact ⟨state, [], fun fuel _ => fillShards_done hkeeps.left fuel, by simpa using hwritten,
        by simpa using hroomy, List.Perm.nil, .inl rfl⟩
    · have hmem : last ∈ remaining := hlast ▸ mem_concat_self
      have hlength : 0 < remaining.length := length_pos_of_mem hmem
      obtain ⟨earliest, hearliest, hround⟩ := fillShards_succ hkeeps hmem
      cases hchoice : Packer.choose state.fit (ordinary.map fun record => record.size / 4)
          (p.remaining state.writing) with
      | top =>
        obtain ⟨next, hnext, hkeepsNext, hwrittenNext, hroomyNext, hfull⟩ :=
          fillRound_none hready hkeeps hwritten hroomy hearliest hchoice
        have hpartial : p.remaining state.writing ≠ p.shardPayload := by
          intro hwhole
          have hmin := hready.least
          refine choose_ne_top hkeeps.holds
            (fun j hj => (ordinary_getD hsound (hkeeps.inside j hj)).2.2) (by omega) hmem
            (fun j hj => ?_) hchoice
          obtain ⟨hj, hsize, -⟩ := ordinary_getD hsound (hkeeps.inside j hj)
          have hfits := ordinary_size (hordinary _ hj)
          omega
        rw [if_neg hpartial] at hbound
        obtain ⟨result, added, hrun, hrest⟩ := ih hkeepsNext hwrittenNext hroomyNext (by
          rw [if_pos hfull]
          omega)
        obtain ⟨hwrittenLast, hroomyLast, hperm, hends⟩ := hrest
        refine ⟨result, [.padding (p.remaining state.writing)] ++ added, ?_, ?_, ?_, hperm, ?_⟩
        · intro fuel hfuel
          obtain ⟨fuel, rfl⟩ : ∃ rest, fuel = rest + 1 := ⟨fuel - 1, by omega⟩
          rw [hround, hnext]
          exact hrun fuel (by omega)
        · rwa [← append_assoc]
        · rwa [← append_assoc]
        · rcases hends with rfl | ⟨earlier, record, rfl⟩
          · have := hperm.length_eq
            rw [length_map] at this
            exact absurd this (ne_of_lt hlength)
          · exact .inr ⟨_ :: earlier, record, rfl⟩
      | coe i =>
        obtain ⟨next, hnext, hi, hkeepsNext, hwrittenNext, hroomyNext⟩ :=
          fillRound_some hready hsound hkeeps hwritten hroomy hearliest hchoice
        have hshorter := length_erase_of_mem hi
        obtain ⟨result, added, hrun, hrest⟩ := ih hkeepsNext hwrittenNext hroomyNext (by
          split <;> omega)
        obtain ⟨hwrittenLast, hroomyLast, hperm, hends⟩ := hrest
        refine ⟨result, [.block (ordinary.getD i ⟨0, 0, 0⟩)] ++ added, ?_, ?_, ?_, ?_, ?_⟩
        · intro fuel hfuel
          obtain ⟨fuel, rfl⟩ : ∃ rest, fuel = rest + 1 := ⟨fuel - 1, by omega⟩
          rw [hround, hnext]
          exact hrun fuel (by omega)
        · rwa [← append_assoc]
        · rwa [← append_assoc]
        · have hfirst := (perm_cons_erase hi).map fun j => ordinary.getD j ⟨0, 0, 0⟩
          rw [map_cons] at hfirst
          exact (hperm.cons _).trans hfirst.symm
        · exact EndsInBlock.append (.inr ⟨[], _, rfl⟩) hends

/-- A level is written: its spanning records, then the ordinary ones. -/
lemma packGroup_written {p : Packer} {before : Bytes} {total critical : Nat} {w : Writing}
    {items : List Item} {group : List Record} (hready : p.Ready before)
    (h : Written p before total critical w items) (hroomy : Roomy p items)
    (hsound : ∀ record ∈ group, record.Sound p.bitstream) : ∃ result spanning packed,
      (∀ fuel, 2 * group.length + 1 ≤ fuel → p.packGroup fuel group w = some result) ∧
      Written p before total critical result (items ++ (spanning ++ packed)) ∧
      Roomy p (items ++ (spanning ++ packed)) ∧
      blocks spanning = group.filter (fun record => oversized record.size p.shardPayload) ∧
      (blocks packed).Perm (group.filter fun record => !oversized record.size p.shardPayload) ∧
      EndsInBlock spanning ∧ EndsInBlock packed := by
  obtain ⟨spanning, hspanning, hroomySpan, hover, hends, hordinary⟩ :=
    placeAllOversized_written h hready hroomy hsound
  generalize horder : (group.filter fun record => !oversized record.size p.shardPayload) =
    ordinary at hordinary
  have hkept : ∀ record ∈ ordinary, record ∈ group ∧
      oversized record.size p.shardPayload = false := by
    intro record hrecord
    rw [← horder] at hrecord
    obtain ⟨hmem, hsmall⟩ := mem_filter.mp hrecord
    exact ⟨hmem, by simpa using hsmall⟩
  have hfewer : ordinary.length ≤ group.length := horder ▸ length_filter_le _ _
  have hsoundOrdinary : ∀ record ∈ ordinary, record.Sound p.bitstream :=
    fun record hrecord => hsound record (hkept record hrecord).1
  have hwords : ∀ words ∈ ordinary.map (fun record => record.size / 4), words < leaves := by
    intro words hmem
    obtain ⟨record, hrecord, rfl⟩ := mem_map.mp hmem
    have := (hsoundOrdinary record hrecord).size_eq
    rw [leaves_eq]
    omega
  have hholds := FitIndex.build_holds _ hwords
  rw [length_map] at hholds
  have hinitial : Keeps ordinary ⟨FitIndex.build (ordinary.map fun record => record.size / 4),
      fun _ => false, 0, ordinary.length, (p.placeAllOversized group w).1⟩
      (List.range ordinary.length) :=
    ⟨hholds, fun i hi => mem_range.mp hi, length_range.symm, fun _ _ => rfl,
      fun i _ => zero_le⟩
  obtain ⟨result, packed, hrun, hwritten, hroomyLast, hperm, hlast⟩ :=
    fillShards_written hready hsoundOrdinary (fun record hrecord => (hkept record hrecord).2)
      (2 * group.length + 1) hinitial hspanning hroomySpan (by
        rw [length_range]
        split <;> omega)
  refine ⟨result.writing, spanning, packed, fun fuel hfuel => ?_, ?_, ?_, hover, ?_, hends, hlast⟩
  · unfold Packer.packGroup
    rw [← hordinary] at hrun
    dsimp only
    rw [hrun fuel hfuel]
    rfl
  · rwa [← append_assoc]
  · rwa [← append_assoc]
  · have hall : (List.range ordinary.length).map (fun i => ordinary.getD i ⟨0, 0, 0⟩) =
        ordinary := by
      refine ext_getElem (by simp) fun i hfirst hsecond => ?_
      rw [getElem_map, getElem_range, getD_eq_getElem _ _ hsecond]
    rwa [hall] at hperm

/-! ## A frame -/

def headerCoarseBlocks (bitstream : Bytes) : Nat :=
  let word := readU32 bitstream 0
  coarseBlockCount (word % 2 ^ 14 + 1) (word / 2 ^ 14 % 2 ^ 14 + 1)

/-- The items of a frame by level, and in each level the oversized records first. -/
structure Layout where
  coarseSpanning : List Item
  coarsePacked : List Item
  fineSpanning : List Item
  finePacked : List Item

namespace Layout

variable (layout : Layout)

def coarse : List Item := layout.coarseSpanning ++ layout.coarsePacked

def front : List Item := layout.coarse ++ layout.fineSpanning

def items : List Item := layout.front ++ layout.finePacked

/-- A layout of the records of a bitstream. -/
structure Of (bitstream : Bytes) (shard : Nat) (records : List Record) (layout : Layout) :
    Prop where
  sound : ∀ item ∈ layout.items, item.Sound bitstream
  laid : Laid shard 8 layout.items
  coarseSpanning : blocks layout.coarseSpanning =
    (records.filter fun record => record.blockIndex < headerCoarseBlocks bitstream).filter
      fun record => oversized record.size shard
  coarsePacked : (blocks layout.coarsePacked).Perm
    ((records.filter fun record => record.blockIndex < headerCoarseBlocks bitstream).filter
      fun record => !oversized record.size shard)
  fineSpanning : blocks layout.fineSpanning =
    (records.filter fun record => !(record.blockIndex < headerCoarseBlocks bitstream)).filter
      fun record => oversized record.size shard
  finePacked : (blocks layout.finePacked).Perm
    ((records.filter fun record => !(record.blockIndex < headerCoarseBlocks bitstream)).filter
      fun record => !oversized record.size shard)
  coarseEnds : EndsInBlock layout.coarse
  spanningEnds : EndsInBlock layout.fineSpanning

lemma spanning_append_packed {shard : Nat} {group spanning packed : List Record}
    (hspanning : spanning = group.filter fun record => oversized record.size shard)
    (hpacked : packed.Perm (group.filter fun record => !oversized record.size shard)) :
    (spanning ++ packed).Perm group := by
  subst hspanning
  exact (hpacked.append_left _).trans (filter_append_perm _ group)

lemma Of.perm {shard : Nat} {records : List Record} {layout : Layout}
    (h : layout.Of bitstream shard records) : (blocks layout.items).Perm records := by
  have hcoarse := spanning_append_packed h.coarseSpanning h.coarsePacked
  have hfine := spanning_append_packed h.fineSpanning h.finePacked
  rw [items, front, coarse, blocks_append, blocks_append, blocks_append, append_assoc]
  exact (hcoarse.append hfine).trans (filter_append_perm _ records)

end Layout

lemma parseFrame_some {frameLimit : Nat} (h : parseFrame bitstream frameLimit = some records) :
    8 ≤ bitstream.length ∧ readU32 bitstream 0 / 2 ^ 31 ≠ 0 ∧
      (∀ record ∈ records, record.Sound bitstream) ∧
      records.flatMap (Record.bytes bitstream) = bitstream.drop 8 := by
  unfold parseFrame at h
  split at h
  · cases h
  · next hcheck => exact ⟨by omega, fun hkind => hcheck (.inr (.inl hkind)), splitRecords_sound h⟩

lemma writeRecordFrame_layout {shard : Nat}
    (hparse : parseFrame bitstream 0 = some records) (hleast : 24 ≤ shard)
    (haligned : shard % 4 = 0) (out : Bytes) : ∃ stats, ∃ layout : Layout,
      (∀ fuel, 2 * records.length + 1 ≤ fuel → writeRecordFrame fuel bitstream shard out 0 =
        some (some stats, out ++ (bitstream.take 8 ++ itemBytes bitstream layout.items))) ∧
      layout.Of bitstream shard records ∧ stats.blockRecords = records.length ∧
      stats.paddingRecords = (paddings layout.items).length ∧
      stats.paddingBytes = (paddings layout.items).sum ∧
      stats.criticalBytes = 8 + extent layout.coarse := by
  obtain ⟨hlength, -, hsound, -⟩ := parseFrame_some hparse
  have hstart : (out ++ bitstream.take 8).length = out.length + 8 := by
    rw [length_append, length_take, min_eq_left hlength]
  have hready : Packer.Ready ⟨bitstream, shard, out.length⟩ (out ++ bitstream.take 8) :=
    ⟨hleast, haligned, hstart⟩
  have hempty : Written ⟨bitstream, shard, out.length⟩ (out ++ bitstream.take 8) records.length 0
      { out := out ++ bitstream.take 8, stats := { blockRecords := records.length } } [] :=
    ⟨by simp [itemBytes], by simp, trivial, rfl, rfl, rfl, rfl, rfl⟩
  have hroomy : Roomy ⟨bitstream, shard, out.length⟩ [] := by
    -- the frame header and the sequence header leave eight bytes at least
    have hphase : (8 + extent [] + frameHeaderBytes) % shard = 16 :=
      Nat.mod_eq_of_lt (show 16 < shard by omega)
    unfold Roomy shardRemaining
    rw [hphase]
    dsimp only
    omega
  have hlevel : ∀ level : Record → Bool, ∀ record ∈ records.filter level,
      record.Sound bitstream := fun level record hrecord =>
    hsound record (mem_filter.mp hrecord).1
  obtain ⟨first, coarseSpanning, coarsePacked, hfirst, hwritten, hroomyFirst, hspan, hpack,
    hspanEnds, hpackEnds⟩ := packGroup_written hready hempty hroomy
      (hlevel fun record => record.blockIndex < headerCoarseBlocks bitstream)
  have hcritical : first.out.length - out.length = 8 + extent (coarseSpanning ++ coarsePacked) := by
    rw [hwritten.length hready, nil_append]
    dsimp only
    omega
  have hmarked := hwritten.stats (by rfl) (by rfl) (by rfl) (show
    { first.stats with criticalBytes := first.out.length - out.length }.criticalBytes =
      8 + extent (coarseSpanning ++ coarsePacked) from hcritical)
  obtain ⟨last, fineSpanning, finePacked, hlast, hwrittenLast, -, hspanFine, hpackFine,
    hspanFineEnds, -⟩ := packGroup_written hready hmarked hroomyFirst
      (hlevel fun record => !(record.blockIndex < headerCoarseBlocks bitstream))
  have hitems : [] ++ (coarseSpanning ++ coarsePacked) ++ (fineSpanning ++ finePacked) =
      Layout.items ⟨coarseSpanning, coarsePacked, fineSpanning, finePacked⟩ := by
    simp [Layout.items, Layout.front, Layout.coarse]
  rw [hitems] at hwrittenLast
  have hfewer : ∀ level : Record → Bool, (records.filter level).length ≤ records.length :=
    fun level => length_filter_le _ _
  refine ⟨last.stats, ⟨coarseSpanning, coarsePacked, fineSpanning, finePacked⟩, ?_,
    ⟨hwrittenLast.sound, hwrittenLast.laid, hspan, hpack, hspanFine, hpackFine,
      hspanEnds.append hpackEnds, hspanFineEnds⟩, hwrittenLast.blockRecords,
    hwrittenLast.paddingRecords, hwrittenLast.paddingBytes, hwrittenLast.criticalBytes⟩
  intro fuel hfuel
  have hcoarse := hfewer fun record => record.blockIndex < headerCoarseBlocks bitstream
  have hfine := hfewer fun record => !(record.blockIndex < headerCoarseBlocks bitstream)
  have hrunFirst := hfirst fuel (by omega)
  have hrunLast := hlast fuel (by omega)
  unfold headerCoarseBlocks at hrunFirst hrunLast
  unfold writeRecordFrame
  rw [hparse]
  dsimp only
  rw [if_neg (by omega), hrunFirst, Option.bind_some, hrunLast, Option.map_some,
    if_neg (by simp), ← append_assoc, hwrittenLast.out]

end Vibeshine.PyroWave
