import Vibeshine.Library.System
import Mathlib

/-! # Sequence numbers of a video session

The block loop of `videoBroadcastThread` with the sends below it: what `send_batch` of each
platform gives to the socket, the individual sends of `send_video_batch` after it, and the
cursor and the counter of the session on every way out of a frame.
-/

namespace Vibeshine.VideoStream

open Library List

/-! ## The socket -/

inductive Platform where
  | linux
  | windows
  | macos
  deriving DecidableEq

inductive Call where
  /-- It took this many packets. -/
  | accepted (packets : Nat)
  /-- There is no buffer space, and whether waiting for some ended well. -/
  | again (writable : Bool)
  /-- An error, and whether it says that batches are unsupported. -/
  | failed (offload : Bool)

/-- The packets that a batch gave to the socket, its result and `allow_fallback` after it. -/
structure BatchOutcome where
  accepted : Nat
  sent : Bool
  allowFallback : Bool

/-- The segments of one `sendmsg`. -/
def segMax : Nat := 65536 / 1500

/-- The `sendmsg` loop with segmentation, from a segment on. Where no further answer is
listed, the system answers with an error. -/
def sendSegments (count : Nat) : Nat → List Call → Nat × List Call
  | index, [] => (index, [])
  | index, call :: calls =>
    if count ≤ index then (index, call :: calls)
    else
      match call with
      | .accepted packets =>
        sendSegments count (index + min packets (min (count - index) segMax)) calls
      | .again true => sendSegments count index calls
      | .again false => (index, calls)
      | .failed _ => (index, calls)

/-- The `sendmmsg` loop. A failed wait leaves the loop, and the batch counts as sent. -/
def sendMessages (count : Nat) : Nat → List Call → Nat × Bool
  | index, [] => (index, count ≤ index)
  | index, call :: calls =>
    if count ≤ index then (index, true)
    else
      match call with
      | .accepted packets => sendMessages count (index + min packets (count - index)) calls
      | .again true => sendMessages count index calls
      | .again false => (index, true)
      | .failed _ => (index, false)

/-- The retried `WSASendMsg`, of all packets or of none. -/
def sendMessage (count : Nat) : List Call → BatchOutcome
  | [] => { accepted := 0, sent := false, allowFallback := false }
  | .accepted _ :: _ => { accepted := count, sent := true, allowFallback := false }
  | .again true :: calls => sendMessage count calls
  | .again false :: _ => { accepted := 0, sent := false, allowFallback := false }
  | .failed offload :: _ =>
    { accepted := 0, sent := false, allowFallback := offload && decide (1 < count) }

def sendBatch (platform : Platform) (count : Nat) (calls : List Call) : BatchOutcome :=
  match platform with
  | .linux =>
    let (segments, rest) := sendSegments count 0 calls
    if segments ≠ 0 then
      { accepted := segments, sent := count ≤ segments, allowFallback := true }
    else
      let (messages, sent) := sendMessages count 0 rest
      { accepted := messages, sent := sent, allowFallback := true }
  | .windows => sendMessage count calls
  | .macos => { accepted := 0, sent := false, allowFallback := true }

/-- What happens around one individual send. -/
structure PacketInput where
  cancelled : Bool := false
  sent : Bool := true
  cancelledAfter : Bool := false

/-- What happens around one batch. -/
structure BatchInput where
  cancelledFirst : Bool := false
  cancelledBefore : Bool := false
  calls : List Call
  cancelledAfter : Bool := false
  packets : List PacketInput := []

/-- `video_batch_send_result_t`, with the packets handed to the socket, in order. -/
structure VideoBatchSendResult where
  sent : Bool := false
  cancelled : Bool := false
  usedFallback : Bool := false
  packetsAccepted : Nat := 0
  handed : List Nat := []

/-- The individual sends of the packets that remain, after `packetsAccepted`. -/
def sendPackets (result : VideoBatchSendResult) : Nat → List PacketInput → VideoBatchSendResult
  | 0, _ => { result with sent := true }
  | _ + 1, [] => result
  | remaining + 1, packet :: packets =>
    if packet.cancelled then { result with cancelled := true }
    else if packet.sent then
      sendPackets { result with
        packetsAccepted := result.packetsAccepted + 1
        handed := result.handed ++ [result.packetsAccepted] } remaining packets
    else { result with cancelled := packet.cancelledAfter }

def sendVideoBatch (platform : Platform) (count : Nat) (input : BatchInput) :
    VideoBatchSendResult :=
  if input.cancelledBefore then { cancelled := true }
  else
    let outcome := sendBatch platform count input.calls
    let handed := List.range outcome.accepted
    if outcome.sent then { sent := true, packetsAccepted := count, handed := handed }
    else if input.cancelledAfter then { cancelled := true, handed := handed }
    else if !outcome.allowFallback then { handed := handed }
    else sendPackets { usedFallback := true, handed := handed } count input.packets

/-! ## A frame -/

/-- The fields of a packet that come from the cursor. -/
structure Packet where
  seq : Nat
  sequenceNumber : Nat
  isData : Bool
  streamPacketIndex : Nat
  deriving DecidableEq

/-- A block. `parityIndex` is what the code writes into the index field of a parity shard. -/
structure BlockInput where
  dataShards : Nat
  parityShards : Nat
  parityIndex : Nat → Nat := fun _ => 0
  batches : List BatchInput

def BlockInput.shards (block : BlockInput) : Nat := block.dataShards + block.parityShards

structure FrameInput where
  sendBatchSize : Nat
  blocks : List BlockInput

def FrameInput.shards (frame : FrameInput) : Nat := (frame.blocks.map BlockInput.shards).sum

/-- The state of `session->video`, with the packets handed to the socket and the counter
values that encrypted a shard. -/
structure Session where
  lowseq : Nat := 0
  gcmIvCounter : Nat := 0
  cipher : Bool
  wire : List Packet := []
  nonces : List Nat := []

/-- Shard `x` of a block that starts at `lowseq`. -/
def BlockInput.shard (block : BlockInput) (lowseq x : Nat) : Packet where
  seq := (lowseq + x) % 2 ^ 32
  sequenceNumber := (lowseq + x) % 2 ^ 32 % 2 ^ 16
  isData := x < block.dataShards
  streamPacketIndex :=
    if x < block.dataShards then ((lowseq + x) % 2 ^ 32) <<< 8 % 2 ^ 32 else block.parityIndex x

def Session.encryptShard (session : Session) : Session :=
  if session.cipher then
    { session with
      nonces := session.nonces ++ [session.gcmIvCounter]
      gcmIvCounter := (session.gcmIvCounter + 1) % 2 ^ 64 }
  else session

/-- The shards of a block from `x` on: each is encrypted, and a full batch, or the last one,
is sent. The result says whether the block was completed. Where no further input is listed,
the send is cancelled. -/
def sendShards (platform : Platform) (sendBatchSize : Nat) (block : BlockInput) (lowseq : Nat) :
    Nat → Nat → Nat → List BatchInput → Session → Session × Bool
  | 0, _, _, _, session => (session, true)
  | remaining + 1, x, nextShardToSend, batches, session =>
    let session := session.encryptShard
    if x - nextShardToSend + 1 ≥ sendBatchSize ∨ x + 1 = block.shards then
      match batches with
      | [] => (session, false)
      | batch :: batches =>
        if batch.cancelledFirst then (session, false)
        else
          let result := sendVideoBatch platform (x - nextShardToSend + 1) batch
          let session := { session with
            wire := session.wire ++
              result.handed.map fun y => block.shard lowseq (nextShardToSend + y) }
          if result.sent then
            sendShards platform sendBatchSize block lowseq remaining (x + 1) (x + 1) batches
              session
          else (session, false)
    else
      sendShards platform sendBatchSize block lowseq remaining (x + 1) nextShardToSend batches
        session

/-- The block loop, with the local cursor. A block is reserved before it is sent, and a
failed send leaves the frame with the reservation. -/
def sendBlocks (platform : Platform) (sendBatchSize : Nat) :
    Nat → List BlockInput → Session → Session
  | lowseq, [], session => { session with lowseq := lowseq }
  | lowseq, block :: blocks, session =>
    let reserved := { session with lowseq := (lowseq + block.shards) % 2 ^ 32 }
    let (session, sent) :=
      sendShards platform sendBatchSize block lowseq block.shards 0 0 block.batches reserved
    if sent then
      sendBlocks platform sendBatchSize ((lowseq + block.shards) % 2 ^ 32) blocks session
    else session

def Session.sendFrame (platform : Platform) (session : Session) (frame : FrameInput) : Session :=
  sendBlocks platform frame.sendBatchSize session.lowseq frame.blocks session

def videoSystem (platform : Platform) (cipher : Bool) : System Session FrameInput where
  init := { cipher := cipher }
  admits _ _ := True
  step := Session.sendFrame platform

/-! ## What enters the socket -/

lemma sendSegments_le {count : Nat} (calls : List Call) {index : Nat} (h : index ≤ count) :
    (sendSegments count index calls).1 ≤ count := by
  fun_induction sendSegments count index calls with
  | case3 index calls hmore packets ih => exact ih (by omega)
  | case4 index calls hmore ih => exact ih h
  | case1 | case2 | case5 | case6 => exact h

lemma sendMessages_le {count : Nat} (calls : List Call) {index : Nat} (h : index ≤ count) :
    (sendMessages count index calls).1 ≤ count := by
  fun_induction sendMessages count index calls with
  | case3 index calls hmore packets ih => exact ih (by omega)
  | case4 index calls hmore ih => exact ih h
  | case1 | case2 | case5 | case6 => exact h

lemma sendMessage_le (count : Nat) (calls : List Call) :
    (sendMessage count calls).accepted ≤ count := by
  fun_induction sendMessage count calls with
  | case2 => exact le_rfl
  | case3 calls ih => exact ih
  | case1 | case4 | case5 => exact zero_le

lemma sendBatch_le (platform : Platform) (count : Nat) (calls : List Call) :
    (sendBatch platform count calls).accepted ≤ count := by
  cases platform with
  | linux =>
    simp only [sendBatch]
    split
    · exact sendSegments_le calls zero_le
    · exact sendMessages_le _ zero_le
  | windows => exact sendMessage_le count calls
  | macos => exact zero_le

def StartsWithSend (packets : List PacketInput) : Prop :=
  ∃ packet rest, packets = packet :: rest ∧ packet.cancelled = false ∧ packet.sent = true

lemma sendPackets_handed (remaining : Nat) (packets : List PacketInput)
    (result : VideoBatchSendResult) :
    ∃ accepted ≤ remaining, (sendPackets result remaining packets).handed =
        result.handed ++ List.range' result.packetsAccepted accepted ∧
      (accepted ≠ 0 → StartsWithSend packets) := by
  induction remaining generalizing packets result with
  | zero => exact ⟨0, le_rfl, (append_nil _).symm, fun h => absurd rfl h⟩
  | succ remaining ih =>
    cases packets with
    | nil => exact ⟨0, zero_le, (append_nil _).symm, fun h => absurd rfl h⟩
    | cons packet packets =>
      rw [sendPackets]
      split
      · exact ⟨0, zero_le, (append_nil _).symm, fun h => absurd rfl h⟩
      · next hgoing =>
        split
        · next hsent =>
          obtain ⟨accepted, hle, hhanded, -⟩ := ih packets { result with
            packetsAccepted := result.packetsAccepted + 1
            handed := result.handed ++ [result.packetsAccepted] }
          refine ⟨accepted + 1, Nat.succ_le_succ hle, ?_, fun _ =>
            ⟨packet, packets, rfl, Bool.eq_false_iff.mpr hgoing, hsent⟩⟩
          rw [hhanded, range'_succ, append_assoc, singleton_append]
        · exact ⟨0, zero_le, (append_nil _).symm, fun h => absurd rfl h⟩

def BatchInput.Resends (platform : Platform) (count : Nat) (input : BatchInput) : Prop :=
  (sendBatch platform count input.calls).accepted ≠ 0 ∧
    (sendBatch platform count input.calls).sent = false ∧
    (sendBatch platform count input.calls).allowFallback = true ∧
    input.cancelledAfter = false ∧ StartsWithSend input.packets

lemma sendVideoBatch_handed (platform : Platform) (count : Nat) (input : BatchInput) :
    ∃ accepted ≤ count, ∃ resent ≤ count,
      (sendVideoBatch platform count input).handed = List.range accepted ++ List.range resent ∧
      (accepted ≠ 0 → resent ≠ 0 → input.Resends platform count) := by
  have hnone : ∀ accepted, List.range accepted = List.range accepted ++ List.range 0 :=
    fun accepted => (append_nil _).symm
  have hle := sendBatch_le platform count input.calls
  unfold sendVideoBatch
  split
  · exact ⟨0, zero_le, 0, zero_le, rfl, fun h => absurd rfl h⟩
  · simp only
    split
    · exact ⟨_, hle, 0, zero_le, hnone _, fun _ h => absurd rfl h⟩
    · next hsent =>
      split
      · exact ⟨_, hle, 0, zero_le, hnone _, fun _ h => absurd rfl h⟩
      · next hcancelled =>
        split
        · exact ⟨_, hle, 0, zero_le, hnone _, fun _ h => absurd rfl h⟩
        · next hallowed =>
          obtain ⟨resent, hresent, hhanded, hstarts⟩ := sendPackets_handed count input.packets
            { usedFallback := true
              handed := List.range (sendBatch platform count input.calls).accepted }
          refine ⟨_, hle, resent, hresent, ?_, fun hacc hsome =>
            ⟨hacc, Bool.eq_false_iff.mpr hsent, ?_, Bool.eq_false_iff.mpr hcancelled,
              hstarts hsome⟩⟩
          · rw [hhanded, range_eq_range' (n := resent)]
          · simpa using hallowed

/-! ## The shards of a block -/

/-- No batch of a block resends: the batches have `size` shards while there are as many. -/
def Unbroken (platform : Platform) (size : Nat) : Nat → List BatchInput → Prop
  | _, [] => True
  | left, batch :: batches =>
    ¬ batch.Resends platform (min size left) ∧ Unbroken platform size (left - min size left) batches

lemma handed_of_unbroken {platform : Platform} {count : Nat} {batch : BatchInput}
    (h : ¬ batch.Resends platform count) :
    ∃ accepted ≤ count, (sendVideoBatch platform count batch).handed = List.range accepted := by
  obtain ⟨accepted, hacc, resent, hresent, hhanded, hresends⟩ :=
    sendVideoBatch_handed platform count batch
  rcases Nat.eq_zero_or_pos accepted with rfl | hsome
  · exact ⟨resent, hresent, hhanded⟩
  rcases Nat.eq_zero_or_pos resent with rfl | hagain
  · exact ⟨accepted, hacc, hhanded.trans (append_nil _)⟩
  · exact absurd (hresends (Nat.ne_of_gt hsome) (Nat.ne_of_gt hagain)) h

@[simp] lemma encryptShard_wire (session : Session) : session.encryptShard.wire = session.wire := by
  unfold Session.encryptShard
  split <;> rfl

@[simp] lemma encryptShard_lowseq (session : Session) :
    session.encryptShard.lowseq = session.lowseq := by
  unfold Session.encryptShard
  split <;> rfl

section Block

variable {platform : Platform} {sendBatchSize : Nat} {block : BlockInput} {lowseq : Nat}

variable (block lowseq) in
lemma handed_shards {count : Nat} {batch : BatchInput} (next : Nat)
    (h : ¬ batch.Resends platform count) :
    ((sendVideoBatch platform count batch).handed.map fun y =>
      block.shard lowseq (next + y)).Sublist
        ((List.range' next count).map (block.shard lowseq)) := by
  obtain ⟨accepted, hacc, hhanded⟩ := handed_of_unbroken h
  have hfirst : (List.range accepted).map (fun y => block.shard lowseq (next + y)) =
      (List.range' next accepted).map (block.shard lowseq) := by
    rw [range'_eq_map_range, map_map]
    rfl
  have hsub : (List.range' next accepted).Sublist (List.range' next count) :=
    range'_sublist_right.mpr hacc
  rw [hhanded, hfirst]
  exact hsub.map _

lemma range'_split {next x last : Nat} (hnext : next ≤ x) (hx : x < last) :
    List.range' next (last - next) =
      List.range' next (x - next + 1) ++ List.range' (x + 1) (last - (x + 1)) := by
  have hsame : last - next = (x - next + 1) + (last - (x + 1)) := by omega
  have hstart : x + 1 = next + (x - next + 1) := by omega
  rw [hsame, ← range'_append_1, ← hstart]

lemma sendShards_wire (remaining : Nat) {x next : Nat} (batches : List BatchInput)
    (session : Session) (hnext : next ≤ x) (hsize : x - next < max sendBatchSize 1)
    (hlast : x + remaining = block.shards)
    (h : Unbroken platform (max sendBatchSize 1) (block.shards - next) batches) :
    ∃ added, (sendShards platform sendBatchSize block lowseq remaining x next batches
        session).1.wire = session.wire ++ added ∧
      added.Sublist ((List.range' next (block.shards - next)).map (block.shard lowseq)) := by
  induction remaining generalizing x next batches session with
  | zero => exact ⟨[], (append_nil _).symm, nil_sublist _⟩
  | succ remaining ih =>
    simp only [sendShards]
    split
    · next hfull =>
      cases batches with
      | nil => exact ⟨[], by simp, nil_sublist _⟩
      | cons batch batches =>
        simp only
        split
        · exact ⟨[], by simp, nil_sublist _⟩
        · obtain ⟨hunbroken, hrest⟩ := h
          have hcount : min (max sendBatchSize 1) (block.shards - next) = x - next + 1 := by
            omega
          rw [hcount] at hunbroken hrest
          have hsub := handed_shards block lowseq next hunbroken
          rw [range'_split hnext (show x < block.shards by omega), map_append]
          split
          · have hleft : block.shards - (x + 1) = block.shards - next - (x - next + 1) := by
              omega
            obtain ⟨added, hadded, hsublist⟩ := ih batches _ (Nat.le_refl (x + 1)) (by omega)
              (by omega) (hleft ▸ hrest)
            refine ⟨_ ++ added, ?_, hsub.append hsublist⟩
            rw [hadded, encryptShard_wire, append_assoc]
          · refine ⟨_, ?_, hsub.trans (sublist_append_left _ _)⟩
            rw [encryptShard_wire]
    · next hroom =>
      obtain ⟨added, hadded, hsublist⟩ :=
        ih batches session.encryptShard (Nat.le_succ_of_le hnext) (by omega) (by omega) h
      exact ⟨added, by rw [hadded, encryptShard_wire], hsublist⟩

lemma sendShards_invariant (inv : Nat → Session → Prop)
    (hencrypt : ∀ {remaining session}, inv (remaining + 1) session →
      inv remaining session.encryptShard)
    (hsend : ∀ {remaining session} (handed : List Nat) (next : Nat), inv remaining session →
      inv remaining { session with
        wire := session.wire ++ handed.map fun y => block.shard lowseq (next + y) })
    {remaining : Nat} (x next : Nat) (batches : List BatchInput) {session : Session}
    (h : inv remaining session) :
    ∃ left, inv left (sendShards platform sendBatchSize block lowseq remaining x next batches
      session).1 := by
  induction remaining generalizing x next batches session with
  | zero => exact ⟨0, h⟩
  | succ remaining ih =>
    simp only [sendShards]
    split
    · cases batches with
      | nil => exact ⟨remaining, hencrypt h⟩
      | cons batch batches =>
        simp only
        split
        · exact ⟨remaining, hencrypt h⟩
        · split
          · exact ih _ _ _ (hsend _ _ (hencrypt h))
          · exact ⟨remaining, hsend _ _ (hencrypt h)⟩
    · exact ih _ _ _ (hencrypt h)

lemma sendShards_lowseq (remaining x next : Nat) (batches : List BatchInput) (session : Session) :
    (sendShards platform sendBatchSize block lowseq remaining x next batches session).1.lowseq =
      session.lowseq := by
  obtain ⟨-, hsame⟩ := sendShards_invariant
    (fun _ after => after.lowseq = session.lowseq)
    (fun h => (encryptShard_lowseq _).trans h) (fun _ _ h => h) x next batches rfl
  exact hsame

lemma sendShards_all {property : Packet → Prop} (hshard : ∀ x, property (block.shard lowseq x))
    (remaining x next : Nat) (batches : List BatchInput) {session : Session}
    (h : ∀ packet ∈ session.wire, property packet) :
    ∀ packet ∈ (sendShards platform sendBatchSize block lowseq remaining x next batches
      session).1.wire, property packet := by
  obtain ⟨-, hall⟩ := sendShards_invariant
    (fun _ after => ∀ packet ∈ after.wire, property packet)
    (fun h => by rwa [encryptShard_wire])
    (fun _ _ h => forall_mem_append.mpr ⟨h, forall_mem_map.mpr fun _ _ => hshard _⟩)
    x next batches h
  exact hall

/-- The nonces so far are the counter values so far, and `shards` more fit in the counter. -/
def Counted (shards : Nat) (session : Session) : Prop :=
  session.nonces = List.range session.gcmIvCounter ∧ session.gcmIvCounter + shards < 2 ^ 64

lemma encryptShard_counted {remaining : Nat} {session : Session}
    (h : Counted (remaining + 1) session) : Counted remaining session.encryptShard := by
  obtain ⟨hnonces, hwrap⟩ := h
  unfold Session.encryptShard
  split
  · have hnext : session.gcmIvCounter + 1 < 2 ^ 64 := by omega
    refine ⟨?_, ?_⟩
    · simp only [Nat.mod_eq_of_lt hnext, hnonces, range_succ]
    · simp only [Nat.mod_eq_of_lt hnext]
      omega
  · exact ⟨hnonces, by omega⟩

lemma sendShards_counted {remaining : Nat} (shards x next : Nat) (batches : List BatchInput)
    {session : Session} (h : Counted (remaining + shards) session) : Counted shards
      (sendShards platform sendBatchSize block lowseq remaining x next batches session).1 := by
  obtain ⟨left, hnonces, hwrap⟩ := sendShards_invariant
    (fun remaining after => Counted (remaining + shards) after)
    (fun h => encryptShard_counted (by rwa [add_right_comm] at h)) (fun _ _ h => h)
    x next batches h
  exact ⟨hnonces, by omega⟩

/-! ## Whole frames -/

lemma shards_ordered (hwrap : lowseq + block.shards < 2 ^ 32) :
    ((List.range' 0 block.shards).map (block.shard lowseq)).Pairwise (·.seq < ·.seq) ∧
      ∀ packet ∈ (List.range' 0 block.shards).map (block.shard lowseq),
        lowseq ≤ packet.seq ∧ packet.seq < lowseq + block.shards := by
  have hseq : ∀ x < block.shards, (block.shard lowseq x).seq = lowseq + x := fun x hx =>
    Nat.mod_eq_of_lt (by omega)
  rw [← range_eq_range']
  constructor
  · refine pairwise_map.mpr (pairwise_lt_range.imp_of_mem ?_)
    intro x y hx hy hless
    rw [hseq x (mem_range.mp hx), hseq y (mem_range.mp hy)]
    exact Nat.add_lt_add_left hless _
  · refine forall_mem_map.mpr fun x hx => ?_
    have hx := mem_range.mp hx
    rw [hseq x hx]
    omega

/-- The packets so far have increasing sequence values, all of them before `lowseq`. -/
def Ordered (lowseq : Nat) (wire : List Packet) : Prop :=
  wire.Pairwise (·.seq < ·.seq) ∧ ∀ packet ∈ wire, packet.seq < lowseq

lemma Ordered.append {wire added : List Packet} (h : Ordered lowseq wire)
    (hwrap : lowseq + block.shards < 2 ^ 32)
    (hadded : added.Sublist ((List.range' 0 block.shards).map (block.shard lowseq))) :
    Ordered (lowseq + block.shards) (wire ++ added) := by
  obtain ⟨hincreasing, hbounds⟩ := shards_ordered hwrap
  have hin : ∀ packet ∈ added, lowseq ≤ packet.seq ∧ packet.seq < lowseq + block.shards :=
    fun packet hmem => hbounds packet (hadded.subset hmem)
  refine ⟨pairwise_append.mpr ⟨h.1, hincreasing.sublist hadded, ?_⟩,
    forall_mem_append.mpr ⟨?_, fun packet hmem => (hin packet hmem).2⟩⟩
  · intro before hbefore after hafter
    exact lt_of_lt_of_le (h.2 before hbefore) (hin after hafter).1
  · intro packet hmem
    exact lt_of_lt_of_le (h.2 packet hmem) (Nat.le_add_right _ _)

end Block

def FrameInput.Unbroken (platform : Platform) (frame : FrameInput) : Prop :=
  ∀ block ∈ frame.blocks,
    VideoStream.Unbroken platform (max frame.sendBatchSize 1) block.shards block.batches

section Blocks

variable {platform : Platform} {sendBatchSize lowseq : Nat} {blocks : List BlockInput}
  {session : Session}

lemma sendBlocks_ordered (h : Ordered lowseq session.wire)
    (hwrap : lowseq + (blocks.map BlockInput.shards).sum < 2 ^ 32) (hunbroken : ∀ block ∈ blocks,
      Unbroken platform (max sendBatchSize 1) block.shards block.batches) :
    Ordered (sendBlocks platform sendBatchSize lowseq blocks session).lowseq
      (sendBlocks platform sendBatchSize lowseq blocks session).wire := by
  induction blocks generalizing lowseq session with
  | nil => exact h
  | cons block blocks ih =>
    obtain ⟨hblock, hblocks⟩ := forall_mem_cons.mp hunbroken
    rw [map_cons, sum_cons] at hwrap
    have hroom : lowseq + block.shards < 2 ^ 32 := by omega
    obtain ⟨added, hadded, hsublist⟩ := @sendShards_wire platform sendBatchSize block lowseq
      block.shards 0 0 block.batches { session with lowseq := lowseq + block.shards }
      le_rfl (by omega) (zero_add _) hblock
    have hordered := h.append hroom hsublist
    simp only [sendBlocks, Nat.mod_eq_of_lt hroom]
    split
    · exact ih (hadded ▸ hordered) (by omega) hblocks
    · rw [sendShards_lowseq, hadded]
      exact hordered

lemma sendBlocks_counted (h : Counted (blocks.map BlockInput.shards).sum session) :
    (sendBlocks platform sendBatchSize lowseq blocks session).nonces =
      List.range (sendBlocks platform sendBatchSize lowseq blocks session).gcmIvCounter := by
  induction blocks generalizing lowseq session with
  | nil => exact h.1
  | cons block blocks ih =>
    rw [map_cons, sum_cons] at h
    have hblock := @sendShards_counted platform sendBatchSize block lowseq block.shards _ 0 0
      block.batches { session with lowseq := (lowseq + block.shards) % 2 ^ 32 } h
    simp only [sendBlocks]
    split
    · exact ih hblock
    · exact hblock.1

lemma sendBlocks_all {property : Packet → Prop}
    (hshard : ∀ (block : BlockInput) lowseq x, property (block.shard lowseq x))
    (h : ∀ packet ∈ session.wire, property packet) :
    ∀ packet ∈ (sendBlocks platform sendBatchSize lowseq blocks session).wire, property packet := by
  induction blocks generalizing lowseq session with
  | nil => exact h
  | cons block blocks ih =>
    have hblock := @sendShards_all platform sendBatchSize block lowseq property
      (hshard block lowseq) block.shards 0 0 block.batches
      { session with lowseq := (lowseq + block.shards) % 2 ^ 32 } h
    simp only [sendBlocks]
    split
    · exact ih hblock
    · exact hblock

end Blocks

/-! ## Sessions -/

lemma shard_index (block : BlockInput) (lowseq x : Nat)
    (hdata : (block.shard lowseq x).isData = true) :
    (block.shard lowseq x).streamPacketIndex = ((block.shard lowseq x).seq % 2 ^ 24) <<< 8 := by
  have hx : x < block.dataShards := of_decide_eq_true hdata
  simp only [BlockInput.shard, if_pos hx, Nat.shiftLeft_eq]
  omega

def WireOrdered (session : Session) : Prop := Ordered session.lowseq session.wire

def WireIndexed (session : Session) : Prop :=
  ∀ packet ∈ session.wire, packet.isData = true →
    packet.streamPacketIndex = (packet.seq % 2 ^ 24) <<< 8

def NoncesCounted (session : Session) : Prop :=
  session.nonces = List.range session.gcmIvCounter

def Sound (platform : Platform) (session : Session) (frame : FrameInput) : Prop :=
  frame.Unbroken platform ∧ session.lowseq + frame.shards < 2 ^ 32

/-- In every run whose frames are sound the sequence values on the wire increase; in every
run data shards carry them, and the counter values are distinct as long as the counter does
not wrap. -/
theorem video_sequence_increases (platform : Platform) (cipher : Bool) :
    (∀ session, (videoSystem platform cipher).ReachableUnder (Sound platform) session →
      session.wire.Pairwise (·.seq < ·.seq)) ∧
    (∀ session, (videoSystem platform cipher).Reachable session → ∀ packet ∈ session.wire,
      packet.isData = true → packet.streamPacketIndex = (packet.seq % 2 ^ 24) <<< 8) ∧
    (∀ session, (videoSystem platform cipher).ReachableUnder
        (fun session frame => session.gcmIvCounter + frame.shards < 2 ^ 64) session →
      session.nonces.Nodup) := by
  refine ⟨fun session hreach => ?_, fun session hreach => ?_, fun session hreach => ?_⟩
  · have hinv : WireOrdered session := by
      refine System.ReachableUnder.invariant ⟨List.Pairwise.nil, forall_mem_nil _⟩ ?_ hreach
      intro state frame hinv _ hsound
      exact sendBlocks_ordered hinv hsound.2 hsound.1
    exact hinv.1
  · have hinv : WireIndexed session := by
      refine System.Reachable.invariant ?_ ?_ hreach
      · exact forall_mem_nil _
      intro state frame hinv _
      exact sendBlocks_all shard_index hinv
    exact hinv
  · have hinv : NoncesCounted session := by
      refine System.ReachableUnder.invariant ?_ ?_ hreach
      · rfl
      intro state frame hinv _ hwrap
      exact sendBlocks_counted ⟨hinv, hwrap⟩
    exact hinv.symm ▸ nodup_range

/-- A frame whose second batch is cancelled, and the next frame. -/
theorem video_sequence_increases_aborted : ((videoSystem .linux true).run { cipher := true }
      [{ sendBatchSize := 2
         blocks := [{ dataShards := 2, parityShards := 1
                      batches := [{ calls := [.accepted 2] }] }] },
       { sendBatchSize := 2
         blocks := [{ dataShards := 1, parityShards := 1
                      batches := [{ calls := [.accepted 2] }] }] }]).wire.Pairwise
      (·.seq < ·.seq) := by
  have hnone : ∀ (count : Nat) (batch : BatchInput), batch.packets = [] →
      ¬ batch.Resends .linux count := by
    rintro count batch hnil ⟨-, -, -, -, packet, rest, hcons, -⟩
    rw [hnil] at hcons
    cases hcons
  refine (video_sequence_increases .linux true).1 _ (System.Segment.of_follows .refl ?_)
  refine ⟨trivial, ⟨?_, by decide⟩, trivial, ⟨?_, by decide⟩, trivial⟩
  · exact forall_mem_singleton.mpr ⟨hnone _ _ rfl, trivial⟩
  · exact forall_mem_singleton.mpr ⟨hnone _ _ rfl, trivial⟩

/-- Without segmentation one of two packets is sent and the next call fails: the fallback
sends the first packet again. -/
theorem fallback_resends : ¬ ((videoSystem .linux true).run { cipher := true }
      [{ sendBatchSize := 2
         blocks := [{ dataShards := 1, parityShards := 1
                      batches := [{ calls := [.failed true, .accepted 1, .failed false]
                                    packets := [{}, {}] }] }] }]).wire.Pairwise
      (·.seq < ·.seq) := by
  decide

end Vibeshine.VideoStream
