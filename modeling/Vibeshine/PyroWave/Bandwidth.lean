import Vibeshine.PyroWave.FecPlan
import Vibeshine.PyroWave.FrameLimit

/-! # Bandwidth of a frame

`pyrowave_bandwidth.h`: the image bytes that fit in the wire bytes of a frame, and back.
Sums and products are taken in 64 bits.
-/

namespace Vibeshine.PyroWave

structure Transport where
  packetsize : Int := 1392
  criticalFecPercentage : Int := 20
  minParityShards : Nat := 2
  envelopeBytes : Nat := 0

def wireOverhead : Nat := 134

def frameHeader : Nat := 8

namespace Transport

def payload (t : Transport) : Nat := (t.packetsize - 16).toNat

def wirePacket (t : Transport) : Nat := t.packetsize.toNat + wireOverhead

def maxCriticalParityTo (t : Transport) : Nat → Nat
  | 0 => 0
  | critical + 1 =>
    let parity := max (size ((critical + 1) * t.criticalFecPercentage.toNat + 99) / 100)
      t.minParityShards
    if size (critical + 1 + parity) ≤ 255 then max (t.maxCriticalParityTo critical) parity
    else t.maxCriticalParityTo critical

def maxCriticalParity (t : Transport) (packets : Nat) : Nat :=
  if t.criticalFecPercentage ≤ 0 then 0 else t.maxCriticalParityTo (min packets 255)

end Transport

def imageBytes (wireBytes : Nat) (t : Transport) : Nat :=
  if t.packetsize ≤ 16 then 0
  else
    let packets := wireBytes / t.wirePacket
    let parity := t.maxCriticalParity packets
    if packets ≤ parity then 0
    else
      let data := size ((packets - parity) * t.payload)
      let headers := size (frameHeader + t.envelopeBytes)
      -- `& ~3` rounds down to a multiple of four.
      if headers < data then (data - headers) / 4 * 4 else 0

def wireBytes (image : Nat) (t : Transport) : Nat :=
  if t.packetsize ≤ 16 ∨ image = 0 then 0
  else
    let data := size (image + frameHeader + t.envelopeBytes + t.payload - 1) / t.payload
    size ((data + t.maxCriticalParity 255) * t.wirePacket)

namespace Transport

/-- The sums with the fields of the transport do not wrap; the percentage is an `int`. -/
structure Sized (t : Transport) : Prop where
  packet : 16 < t.packetsize
  percentage : t.criticalFecPercentage < 2 ^ 31
  parity : t.minParityShards + 255 < 2 ^ 64
  headers : frameHeader + t.envelopeBytes < 2 ^ 64

def packets (t : Transport) (image : Nat) : Nat :=
  (image + frameHeader + t.envelopeBytes + t.payload - 1) / t.payload + t.maxCriticalParity 255

/-- The wire size of an image is computed without wrapping. -/
structure Holds (t : Transport) (image : Nat) : Prop where
  shards : image + frameHeader + t.envelopeBytes + t.payload - 1 < 2 ^ 64
  wire : t.packets image * t.wirePacket < 2 ^ 64

/-! ## Parity of the critical block -/

variable {t : Transport} {critical packets : Nat}

lemma Sized.payload_pos (h : t.Sized) : 0 < t.payload := by
  have := h.packet
  unfold payload
  omega

lemma payload_le_wirePacket (t : Transport) : t.payload ≤ t.wirePacket := by
  unfold payload wirePacket
  omega

lemma wirePacket_pos (t : Transport) : 0 < t.wirePacket := by
  unfold wirePacket wireOverhead
  omega

lemma maxCriticalParityTo_succ (h : t.Sized) (hpos : 0 < t.criticalFecPercentage)
    (hcritical : critical < 255) : (Fits (critical + 1) t.criticalFecPercentage t.minParityShards ∧
      t.maxCriticalParityTo (critical + 1) = max (t.maxCriticalParityTo critical)
        (parityShards (critical + 1) t.criticalFecPercentage t.minParityShards)) ∨
      (¬Fits (critical + 1) t.criticalFecPercentage t.minParityShards ∧
        t.maxCriticalParityTo (critical + 1) = t.maxCriticalParityTo critical) := by
  have hfits := size_fits h.percentage h.parity hcritical
  have hparity : parityShards (critical + 1) t.criticalFecPercentage t.minParityShards =
      max (size ((critical + 1) * t.criticalFecPercentage.toNat + 99) / 100) t.minParityShards :=
    if_neg (not_le.mpr hpos)
  rw [maxCriticalParityTo, ← hparity]
  split
  next hless => exact .inl ⟨hfits.mp hless, rfl⟩
  next hover => exact .inr ⟨fun hless => hover (hfits.mpr hless), rfl⟩

lemma maxCriticalParityTo_mono {more : Nat} (hle : packets ≤ more) :
    t.maxCriticalParityTo packets ≤ t.maxCriticalParityTo more := by
  induction hle with
  | refl => exact le_rfl
  | step _ ih =>
    refine ih.trans ?_
    rw [maxCriticalParityTo]
    split
    · exact le_max_left _ _
    · exact le_rfl

lemma le_maxCriticalParityTo (h : t.Sized) (hpos : 0 < t.criticalFecPercentage)
    (hone : 1 ≤ critical) (hle : critical ≤ packets) (hpackets : packets ≤ 255)
    (hfits : Fits critical t.criticalFecPercentage t.minParityShards) :
    parityShards critical t.criticalFecPercentage t.minParityShards ≤
      t.maxCriticalParityTo packets := by
  obtain ⟨critical, rfl⟩ : ∃ less, critical = less + 1 := ⟨critical - 1, by omega⟩
  refine le_trans ?_ (maxCriticalParityTo_mono hle)
  have hcritical : critical < 255 := by omega
  obtain ⟨-, hnext⟩ | ⟨hover, -⟩ := maxCriticalParityTo_succ h hpos hcritical
  · rw [hnext]
    exact le_max_right _ _
  · exact absurd hfits hover

lemma data_succ_mono (h : t.Sized) (hpos : 0 < t.criticalFecPercentage)
    (hpackets : packets < 255) :
    packets - t.maxCriticalParityTo packets ≤ packets + 1 - t.maxCriticalParityTo (packets + 1) := by
  obtain ⟨hfits, hnext⟩ | ⟨-, hnext⟩ := maxCriticalParityTo_succ h hpos hpackets
  · obtain rfl | hone := Nat.eq_zero_or_pos packets
    · rw [Nat.zero_sub]
      exact zero_le
    have hbefore := le_maxCriticalParityTo h hpos hone le_rfl (by omega)
      (hfits.anti h.percentage (Nat.le_succ packets))
    rw [hnext]
    rw [parityShards_eq h.percentage (by omega), if_neg (not_le.mpr hpos)] at *
    generalize t.criticalFecPercentage.toNat = percentage at *
    rw [Nat.succ_mul]
    obtain hsmall | hlarge := le_or_gt percentage 100
    · omega
    · -- Above 100 percent there is no room for data until parity stops growing.
      have hall : packets * 100 ≤ packets * percentage := Nat.mul_le_mul_left _ hlarge.le
      omega
  · rw [hnext]
    omega

def dataPackets (t : Transport) (packets : Nat) : Nat := packets - t.maxCriticalParity packets

lemma dataPackets_mono (h : t.Sized) {more : Nat} (hle : packets ≤ more) :
    t.dataPackets packets ≤ t.dataPackets more := by
  induction hle with
  | refl => exact le_rfl
  | @step more _ ih =>
    refine ih.trans ?_
    unfold dataPackets maxCriticalParity
    split
    · omega
    next hpos =>
      obtain hfew | hmany := Nat.lt_or_ge more 255
      · rw [min_eq_left hfew.le, min_eq_left (show more + 1 ≤ 255 from hfew)]
        exact data_succ_mono h (not_le.mp hpos) hfew
      · rw [min_eq_right hmany, min_eq_right (Nat.le_succ_of_le hmany)]
        omega

lemma maxCriticalParity_le (t : Transport) (packets : Nat) :
    t.maxCriticalParity packets ≤ t.maxCriticalParity 255 := by
  unfold maxCriticalParity
  split
  · exact le_rfl
  · exact maxCriticalParityTo_mono (by omega)

end Transport

variable {t : Transport}

lemma imageBytes_eq (h : t.Sized) {wire : Nat} (hwire : wire < 2 ^ 64) : imageBytes wire t =
      (t.dataPackets (wire / t.wirePacket) * t.payload - (frameHeader + t.envelopeBytes)) / 4 * 4 := by
  have hroom : (wire / t.wirePacket - t.maxCriticalParity (wire / t.wirePacket)) * t.payload ≤ wire :=
    (Nat.mul_le_mul (Nat.sub_le _ _) t.payload_le_wirePacket).trans (Nat.div_mul_le_self _ _)
  unfold imageBytes Transport.dataPackets
  rw [if_neg (not_le.mpr h.packet)]
  dsimp only
  rw [size, size, Nat.mod_eq_of_lt h.headers, Nat.mod_eq_of_lt (hroom.trans_lt hwire)]
  split
  next hnone => rw [Nat.sub_eq_zero_of_le hnone, zero_mul, Nat.zero_sub]
  · split
    · rfl
    · omega

lemma imageBytes_mono (h : t.Sized) {wire more : Nat} (hle : wire ≤ more) (hmore : more < 2 ^ 64) :
    imageBytes wire t ≤ imageBytes more t := by
  rw [imageBytes_eq h (hle.trans_lt hmore), imageBytes_eq h hmore]
  have hdata := Nat.mul_le_mul_right t.payload
    (Transport.dataPackets_mono h (Nat.div_le_div_right hle : wire / t.wirePacket ≤ _))
  omega

lemma wireBytes_eq (h : t.Sized) {image : Nat} (himage : 0 < image) (hholds : t.Holds image) :
    wireBytes image t = t.packets image * t.wirePacket := by
  have hpacket := h.packet
  unfold wireBytes
  rw [if_neg (by omega)]
  dsimp only
  rw [size, size, Nat.mod_eq_of_lt hholds.shards]
  exact Nat.mod_eq_of_lt hholds.wire

lemma packets_mono {image more : Nat} (hle : image ≤ more) : t.packets image ≤ t.packets more :=
  Nat.add_le_add_right (Nat.div_le_div_right (by omega)) _

lemma wireBytes_mono (h : t.Sized) {image more : Nat} (hle : image ≤ more)
    (hholds : t.Holds more) : wireBytes image t ≤ wireBytes more t := by
  obtain rfl | himage := Nat.eq_zero_or_pos image
  · rw [wireBytes, if_pos (.inr rfl)]
    exact zero_le
  · have hmul := Nat.mul_le_mul_right t.wirePacket (packets_mono (t := t) hle)
    rw [wireBytes_eq h himage ⟨lt_of_le_of_lt (by omega) hholds.shards, hmul.trans_lt hholds.wire⟩,
      wireBytes_eq h (himage.trans_le hle) hholds]
    exact hmul

lemma le_imageBytes_wireBytes (h : t.Sized) {image : Nat} (himage : 0 < image)
    (hfour : 4 ∣ image) (hholds : t.Holds image) : image ≤ imageBytes (wireBytes image t) t := by
  have hpayload := h.payload_pos
  rw [wireBytes_eq h himage hholds, imageBytes_eq h hholds.wire,
    Nat.mul_div_cancel _ t.wirePacket_pos]
  have hdata : (image + frameHeader + t.envelopeBytes + t.payload - 1) / t.payload ≤
      t.dataPackets (t.packets image) := by
    have hparity := t.maxCriticalParity_le (t.packets image)
    unfold Transport.dataPackets
    unfold Transport.packets at *
    omega
  have hcarried := Nat.mul_le_mul_right t.payload hdata
  have hround := Nat.lt_div_mul_add (a := image + frameHeader + t.envelopeBytes + t.payload - 1)
    hpayload
  omega

/-! ## The packets of a frame -/

lemma Transport.Sized.sums (h : t.Sized) {total critical : Nat} (htotal : total < 2 ^ 63)
    (hparity : min critical total + t.minParityShards < 2 ^ 64) :
    Sums total critical t.criticalFecPercentage t.minParityShards := by
  refine ⟨h.percentage, by omega, ?_, h.parity⟩
  have hproduct : size (min critical total * t.criticalFecPercentage.toNat + 99) < 2 ^ 64 :=
    Nat.mod_lt _ (by decide)
  unfold parityShards
  split <;> omega

lemma planFecBlocks_without_detail (totalShards critical : Nat) (percentage : Int)
    (minParity extra : Nat) : planFecBlocks totalShards critical percentage minParity 0 extra =
      planFecBlocks totalShards critical percentage minParity 0 0 := by
  simp [planFecBlocks, maxDetailFecPercentage]

lemma frame_packets_le (h : t.Sized) {total packets : Nat} (htotal : 0 < total)
    (hroom : total ≤ t.dataPackets packets) (hpackets : packets < 2 ^ 63) {critical : Nat}
    (hparity : min critical total + t.minParityShards < 2 ^ 64) (extra : Nat) :
    ∃ blocks, planFecBlocks total critical t.criticalFecPercentage t.minParityShards 0 extra =
        some blocks ∧ total + totalParity t.minParityShards blocks ≤ packets := by
  rw [planFecBlocks_without_detail]
  unfold Transport.dataPackets at hroom
  obtain ⟨blocks, hplan, hcase⟩ := planFecBlocks_cases htotal
    (h.sums (by omega) hparity) 0 0
  refine ⟨blocks, hplan, ?_⟩
  obtain ⟨-, -, -, hzero, -⟩ | ⟨hpos, hguarded⟩ := hcase
  · rw [totalParity_unprotected hzero]
    omega
  · obtain ⟨leading, rest, hblocks, hle⟩ := hguarded.front
    have hmem : (⟨leading, t.criticalFecPercentage⟩ : FecBlock) ∈ blocks := by
      rw [hblocks]
      exact List.mem_cons_self
    have hleading := hguarded.carries.positive _ hmem
    have hfits := hguarded.carries.fits _ hmem hpos.ne'
    have hparity := hguarded.parity
    dsimp only at hleading hfits
    have hcounted : parityShards (max 1 (min critical total)) t.criticalFecPercentage
        t.minParityShards ≤ t.maxCriticalParity packets := by
      have hsmall : leading ≤ 255 := by
        unfold Fits maxReedSolomonShards at hfits
        omega
      unfold Transport.maxCriticalParity
      rw [if_neg (not_le.mpr hpos)]
      apply Transport.le_maxCriticalParityTo h hpos (le_max_left _ _) (by omega) (by omega)
      exact hfits.anti h.percentage (by omega)
    have hmore := parityShards_mono t.minParityShards h.percentage
      (le_max_right 1 (min critical total)) (by have := hfits.le_size; omega)
    omega

lemma frame_wire_le (h : t.Sized) {wire frame : Nat} (hwire : wire < 2 ^ 64)
    (himage : 0 < imageBytes wire t) (hframe : frame ≤ imageBytes wire t + t.envelopeBytes)
    {critical : Nat}
    (hparity : min critical (frameShards t.packetsize frame) + t.minParityShards < 2 ^ 64)
    (extra : Nat) :
    ∃ blocks, planFecBlocks (frameShards t.packetsize frame) critical t.criticalFecPercentage
        t.minParityShards 0 extra = some blocks ∧
      (frameShards t.packetsize frame + totalParity t.minParityShards blocks) * t.wirePacket ≤
        wire := by
  have hpayload := h.payload_pos
  rw [imageBytes_eq h hwire] at himage hframe
  have hshards : frameShards t.packetsize frame =
      (frameHeader + frame + t.payload - 1) / t.payload := rfl
  have htotal : 0 < frameShards t.packetsize frame := by
    rw [hshards]
    exact Nat.div_pos (by unfold frameHeader; omega) hpayload
  have hroom : frameShards t.packetsize frame ≤ t.dataPackets (wire / t.wirePacket) := by
    rw [hshards]
    refine Nat.le_of_lt_succ (Nat.div_lt_of_lt_mul ?_)
    rw [Nat.mul_succ, mul_comm t.payload]
    omega
  have hfew : wire / t.wirePacket < 2 ^ 63 := by
    refine Nat.div_lt_of_lt_mul (hwire.trans_le ?_)
    unfold Transport.wirePacket wireOverhead
    omega
  obtain ⟨blocks, hplan, hpackets⟩ := frame_packets_le h htotal hroom hfew hparity extra
  refine ⟨blocks, hplan, ?_⟩
  exact (Nat.mul_le_mul_right _ hpackets).trans (Nat.div_mul_le_self _ _)

/-- Image and wire bytes grow with each other; a frame that fits in the image bytes of a budget
is sent within it whatever is critical; and the wire bytes of an image have room for it. -/
theorem bandwidth_sound (h : t.Sized) :
    (∀ wire more, wire ≤ more → more < 2 ^ 64 → imageBytes wire t ≤ imageBytes more t) ∧
      (∀ image more, image ≤ more → t.Holds more → wireBytes image t ≤ wireBytes more t) ∧
      (∀ wire frame critical extra, wire < 2 ^ 64 → 0 < imageBytes wire t →
        frame ≤ imageBytes wire t + t.envelopeBytes →
        min critical (frameShards t.packetsize frame) + t.minParityShards < 2 ^ 64 →
        ∃ blocks, planFecBlocks (frameShards t.packetsize frame) critical t.criticalFecPercentage
            t.minParityShards 0 extra = some blocks ∧
          (frameShards t.packetsize frame + totalParity t.minParityShards blocks) * t.wirePacket ≤
            wire) ∧
      ∀ image, 0 < image → 4 ∣ image → t.Holds image → image ≤ imageBytes (wireBytes image t) t :=
  ⟨fun _ _ => imageBytes_mono h, fun _ _ => wireBytes_mono h,
    fun _ _ _ extra hwire himage hframe hparity => frame_wire_le h hwire himage hframe hparity extra,
    fun _ => le_imageBytes_wireBytes h⟩

theorem bandwidth_sound_default :
    (100000 ≤ imageBytes (wireBytes 100000 {}) {}) ∧ wireBytes 100000 {} = 177016 :=
  ⟨(@bandwidth_sound {} ⟨by decide, by decide, by decide, by decide⟩).2.2.2 100000 (by decide)
    (by decide) ⟨by decide, by decide +kernel⟩, by decide +kernel⟩

/-- A budget without room for an image has none for the header of an empty frame; a minimum of
parity, an envelope or an image near the end of the 64 bits wraps, and so does the sum of the
critical shards and a minimum of parity that is near it. -/
theorem bandwidth_limits :
    (imageBytes 0 {} = 0 ∧ planFecBlocks (frameShards 1392 0) 0 20 2 0 0 = some [⟨1, 0⟩]) ∧
      imageBytes 100000 { minParityShards := 2 ^ 64 - 2 } <
        imageBytes 1526 { minParityShards := 2 ^ 64 - 2 } ∧
      (imageBytes 30520 { envelopeBytes := 2 ^ 64 - 8 } = 22016 ∧
        30520 < frameShards 1392 (22016 + (2 ^ 64 - 8)) * 1526) ∧
      (412000 ≤ imageBytes 500000 { minParityShards := 2 ^ 64 - 256 } ∧
        frameShards 1392 412000 = 300 ∧
        planFecBlocks 300 300 20 (2 ^ 64 - 256) 0 0 = some [⟨300, 20⟩] ∧
        500000 < totalParity (2 ^ 64 - 256) [⟨300, 20⟩] * 1526) ∧
      wireBytes (2 ^ 64 - 4) {} < wireBytes 1000000 {} ∧
      imageBytes (wireBytes (2 ^ 64 - 4) {}) {} < 2 ^ 64 - 4 := by
  decide +kernel

/-- A frame written within the image bytes of a wire budget is sent within the budget. -/
theorem written_frame_sent (h : t.Sized) {wire limit fuel shard : Nat} {bitstream out result : Bytes}
    {stats : RecordFrameStats} (hwire : wire < 2 ^ 64) (hlimit : limit ≠ 0)
    (hbudget : limit ≤ imageBytes wire t)
    (hrun : writeRecordFrame fuel bitstream shard out limit = some (some stats, result))
    (critical extra : Nat) :
    let shards := frameShards t.packetsize (result.length - out.length + t.envelopeBytes)
    min critical shards + t.minParityShards < 2 ^ 64 →
    ∃ blocks, planFecBlocks shards critical t.criticalFecPercentage t.minParityShards 0 extra =
        some blocks ∧ (shards + totalParity t.minParityShards blocks) * t.wirePacket ≤ wire :=
  have hlength := (writeRecordFrame_within hlimit hrun).trans hbudget
  fun hparity => frame_wire_le h hwire (by omega) (by omega) hparity extra

theorem written_frame_sent_single :
    let bitstream : Bytes := [0, 0, 0, 128, 0, 0, 0, 0, 0, 0, 2, 0, 0, 0, 0, 0]
    writeRecordFrame 3 bitstream 24 [] 16 = some (some ⟨1, 0, 0, 0, 0, 16⟩, bitstream) ∧
      ∃ blocks, planFecBlocks (frameShards 1392 16) 1 20 2 0 0 = some blocks ∧
        (frameShards 1392 16 + totalParity 2 blocks) * 1526 ≤ 30520 := by
  intro bitstream
  have hrun : writeRecordFrame 3 bitstream 24 [] 16 = some (some ⟨1, 0, 0, 0, 0, 16⟩, bitstream) := by
    decide +kernel
  exact ⟨hrun, @written_frame_sent {} ⟨by decide, by decide, by decide, by decide⟩ 30520 16 3
    24 _ [] _ _ (by decide) (by decide) (by decide +kernel) hrun 1 0 (by decide)⟩

end Vibeshine.PyroWave
