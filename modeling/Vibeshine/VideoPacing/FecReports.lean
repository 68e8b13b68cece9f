import Vibeshine.Library.System
import Mathlib.Data.List.Nodup
import Mathlib.Data.List.Perm.Subperm
import Mathlib.Data.Nat.Bitwise

/-! # Reports on FEC blocks

A client reports what became of the FEC blocks of a frame. The tracker accepts a report on
each block once; it remembers the frames of a window behind the last one that was sent.
-/

namespace Vibeshine.VideoPacing

open Library List

inductive FecBlockKind where
  | clean | recovered | unrecoverable
  deriving DecidableEq

structure FecBlock where
  kind : FecBlockKind := .clean
  lost : Nat := 0
  data : Nat := 0
  deriving DecidableEq

structure FecStatus where
  frame : Nat
  highestReceived : Nat
  nextContiguous : Nat
  missingBeforeHighest : Nat
  data : Nat
  parity : Nat
  receivedData : Nat
  receivedParity : Nat
  percentage : Nat
  block : Nat
  blocks : Nat
  deriving DecidableEq

def fecStatusSize : Nat := 21

def readFecStatus (payload : List UInt8) : FecStatus :=
  let byte := fun offset => (payload.getD offset 0).toNat
  let word := fun offset => byte offset * 2 ^ 8 + byte (offset + 1)
  { frame := byte 0 * 2 ^ 24 + byte 1 * 2 ^ 16 + byte 2 * 2 ^ 8 + byte 3
    highestReceived := word 4
    nextContiguous := word 6
    missingBeforeHighest := word 8
    data := word 10
    parity := word 12
    receivedData := word 14
    receivedParity := word 16
    percentage := byte 18
    block := byte 19
    blocks := byte 20 }

def parseFecStatus (payload : List UInt8) : Option FecStatus :=
  if payload.length ≠ fecStatusSize then none
  else
    let status := readFecStatus payload
    if status.blocks < 1 || 4 < status.blocks || status.blocks ≤ status.block then none
    else if status.data < 1 || 1023 < status.data then none
    else
      let total := status.data + status.parity
      if status.parity ≠ (status.data * status.percentage + 99) / 100 ||
          (status.parity ≠ 0 && 255 < total) then none
      else if status.data < status.receivedData || status.parity < status.receivedParity then none
      else if total - (status.receivedData + status.receivedParity) < status.missingBeforeHighest then
        none
      else if total < (status.highestReceived + 1 + 2 ^ 16 - status.nextContiguous) % 2 ^ 16 then none
      else some status

structure FecReport where
  frame : Nat
  block : FecBlock
  deriving DecidableEq

/-- `frame_t`; `blocks` has the bit of every block already reported. -/
structure TrackedFrame where
  index : Nat
  blocks : Nat
  blockCount : Nat
  deriving DecidableEq

structure FecReportTracker where
  frames : List TrackedFrame := []
  reports : Nat := 0
  invalidReports : Nat := 0
  duplicateReports : Nat := 0
  deriving DecidableEq

def window : Nat := 1024

/-- `last - frame` in 32 bits. -/
def behind (last frame : Nat) : Nat := (last + 2 ^ 32 - frame) % 2 ^ 32

namespace FecReportTracker

def modifyFrame (index : Nat) (f : TrackedFrame → TrackedFrame) :
    List TrackedFrame → List TrackedFrame
  | [] => []
  | frame :: frames =>
    if frame.index = index then f frame :: frames else frame :: modifyFrame index f frames

def inferred (status : FecStatus) : FecBlock :=
  if status.receivedData + status.receivedParity < status.data then { kind := .unrecoverable }
  else if status.receivedData < status.data then
    { kind := .recovered, lost := status.data - status.receivedData, data := status.data }
  else {}

def tracked (frames : List TrackedFrame) (last : Nat) (status : FecStatus) : List TrackedFrame :=
  let kept := frames.filter fun frame => behind last frame.index < window
  if kept.any fun frame => frame.index == status.frame then kept
  else kept ++ [{ index := status.frame, blocks := 0, blockCount := status.blocks }]

def record (t : FecReportTracker) (payload : List UInt8) (lastSent : Option Nat) :
    Option FecReport × FecReportTracker :=
  let t := { t with reports := t.reports + 1 }
  let invalid := (none, { t with invalidReports := t.invalidReports + 1 })
  match parseFecStatus payload, lastSent with
  | some status, some last =>
    if window ≤ behind last status.frame then invalid
    else
      let t := { t with frames := tracked t.frames last status }
      match t.frames.find? fun frame => frame.index == status.frame with
      | none => (none, t)
      | some entry =>
        if entry.blockCount ≠ status.blocks then
          (none, { t with invalidReports := t.invalidReports + 1 })
        else if entry.blocks.testBit status.block then
          (none, { t with duplicateReports := t.duplicateReports + 1 })
        else
          (some { frame := status.frame, block := inferred status },
            { t with
              frames := modifyFrame status.frame (fun frame =>
                { frame with blocks := frame.blocks ||| 2 ^ status.block }) t.frames })
  | _, _ => invalid

end FecReportTracker

/-- An accepted report: the frame of the wire, its block, and the last frame sent by then. -/
structure Accepted where
  frame : Nat
  block : Nat
  last : Nat
  deriving DecidableEq

/-- The tracker of a session. The frames sent are counted without wrapping. -/
structure Reporting where
  tracker : FecReportTracker := {}
  /-- The accepted reports, the latest first. -/
  accepted : List Accepted := []
  first : Option Nat := none
  last : Option Nat := none
  deriving DecidableEq

structure Report where
  payload : List UInt8
  lastSent : Option Nat

namespace Reporting

def step (s : Reporting) (report : Report) : Reporting :=
  let recorded := s.tracker.record report.payload (report.lastSent.map (· % 2 ^ 32))
  { tracker := recorded.2
    accepted :=
      match recorded.1, parseFecStatus report.payload, report.lastSent with
      | some _, some status, some last => ⟨status.frame, status.block, last⟩ :: s.accepted
      | _, _, _ => s.accepted
    first := s.first.or report.lastSent
    last := report.lastSent.or s.last }

def advance (s : Reporting) : Nat := s.last.getD 0 - s.first.getD 0

end Reporting

def reporting : System Reporting Report where
  init := {}
  admits s report := ∀ last ∈ s.last, ∀ sent ∈ report.lastSent, last ≤ sent
  step := Reporting.step

/-! ## One report -/

lemma parseFecStatus_frame {payload : List UInt8} {status : FecStatus}
    (h : parseFecStatus payload = some status) : status.frame < 2 ^ 32 := by
  have hread : status = readFecStatus payload := by
    unfold parseFecStatus at h
    dsimp only at h
    repeat' split at h
    all_goals first | exact (Option.some.inj h).symm | cases h
  subst hread
  have hbyte := fun offset => (payload.getD offset 0).toNat_lt
  have h0 := hbyte 0
  have h1 := hbyte 1
  have h2 := hbyte 2
  have h3 := hbyte 3
  simp only [readFecStatus]
  omega

namespace FecReportTracker

variable {frames : List TrackedFrame} {last index block : Nat} {status : FecStatus}

lemma map_index_modifyFrame {f : TrackedFrame → TrackedFrame}
    (hf : ∀ frame, (f frame).index = frame.index) :
    (modifyFrame index f frames).map (·.index) = frames.map (·.index) := by
  induction frames with
  | nil => rfl
  | cons frame frames ih =>
    rw [modifyFrame]
    split
    · simp [hf]
    · simp [ih]

/-- The entries are of different frames of a window. -/
structure Windowed (frames : List TrackedFrame) (last : Nat) : Prop where
  nodup : (frames.map (·.index)).Nodup
  within : ∀ entry ∈ frames, entry.index < 2 ^ 32 ∧ behind last entry.index < window

lemma behind_injective {other : Nat} (hlast : last < 2 ^ 32) (hindex : index < 2 ^ 32)
    (hother : other < 2 ^ 32) (h : behind last index = behind last other) : index = other := by
  unfold behind at h
  omega

lemma Windowed.length_le (h : Windowed frames last) (hlast : last < 2 ^ 32) :
    frames.length ≤ window := by
  have hnodup : (frames.map fun entry => behind last entry.index).Nodup := by
    have hmap : frames.map (fun entry => behind last entry.index) =
        (frames.map (·.index)).map (behind last) := by rw [map_map]; rfl
    rw [hmap]
    refine List.Nodup.map_on ?_ h.nodup
    intro index hindex other hother hsame
    obtain ⟨entry, hentry, rfl⟩ := mem_map.mp hindex
    obtain ⟨entry', hentry', rfl⟩ := mem_map.mp hother
    exact behind_injective hlast (h.within entry hentry).1 (h.within entry' hentry').1 hsame
  have hsubset : (frames.map fun entry => behind last entry.index) ⊆ List.range window := by
    intro distance hdistance
    obtain ⟨entry, hentry, rfl⟩ := mem_map.mp hdistance
    exact mem_range.mpr (h.within entry hentry).2
  have hlength := (subperm_of_subset hnodup hsubset).length_le
  rwa [length_map, length_range] at hlength

lemma tracked_windowed (hnodup : (frames.map (·.index)).Nodup)
    (hindices : ∀ entry ∈ frames, entry.index < 2 ^ 32) (hframe : status.frame < 2 ^ 32)
    (hwithin : behind last status.frame < window) : Windowed (tracked frames last status) last := by
  have hkept : Windowed (frames.filter fun frame => behind last frame.index < window) last := by
    constructor
    · exact hnodup.sublist (filter_sublist.map _)
    · intro entry hentry
      have hentry := mem_filter.mp hentry
      exact ⟨hindices entry hentry.1, of_decide_eq_true hentry.2⟩
  unfold tracked
  dsimp only
  split
  · exact hkept
  next hnew =>
    constructor
    · rw [map_append, nodup_append]
      refine ⟨hkept.nodup, nodup_singleton _, ?_⟩
      intro index hindex other hother
      obtain rfl := mem_singleton.mp hother
      rintro rfl
      obtain ⟨entry, hentry, hsame⟩ := mem_map.mp hindex
      exact hnew (any_eq_true.mpr ⟨entry, hentry, beq_iff_eq.mpr hsame⟩)
    · intro entry hentry
      obtain hentry | hentry := mem_append.mp hentry
      · exact hkept.within entry hentry
      · obtain rfl := mem_singleton.mp hentry
        exact ⟨hframe, hwithin⟩

lemma mem_tracked {entry : TrackedFrame} (hentry : entry ∈ frames)
    (hwithin : behind last entry.index < window) : entry ∈ tracked frames last status := by
  have hkept : entry ∈ frames.filter fun frame => behind last frame.index < window :=
    mem_filter.mpr ⟨hentry, decide_eq_true hwithin⟩
  unfold tracked
  dsimp only
  split
  · exact hkept
  · exact mem_append_left _ hkept

lemma exists_tracked : ∃ entry ∈ tracked frames last status, entry.index = status.frame := by
  unfold tracked
  dsimp only
  split
  next hany =>
    obtain ⟨entry, hentry, hsame⟩ := any_eq_true.mp hany
    exact ⟨entry, hentry, beq_iff_eq.mp hsame⟩
  next => exact ⟨_, mem_append_right _ (mem_singleton_self _), rfl⟩

def marked (frames : List TrackedFrame) (index block : Nat) : List TrackedFrame :=
  modifyFrame index (fun frame => { frame with blocks := frame.blocks ||| 2 ^ block }) frames

lemma exists_marked {other : Nat} {entry : TrackedFrame} (hentry : entry ∈ frames)
    (hbit : entry.blocks.testBit block = true) : ∃ after ∈ marked frames index other,
      after.index = entry.index ∧ after.blocks.testBit block = true := by
  unfold marked
  induction frames with
  | nil => cases hentry
  | cons frame frames ih =>
    rw [modifyFrame]
    obtain rfl | hentry := mem_cons.mp hentry
    · split
      · refine ⟨_, mem_cons_self, rfl, ?_⟩
        rw [Nat.testBit_or, hbit, Bool.true_or]
      · exact ⟨entry, mem_cons_self, rfl, hbit⟩
    · split
      · exact ⟨entry, mem_cons_of_mem _ hentry, rfl, hbit⟩
      · obtain ⟨after, hafter, hsame⟩ := ih hentry
        exact ⟨after, mem_cons_of_mem _ hafter, hsame⟩

lemma exists_reported (hentry : ∃ entry ∈ frames, entry.index = index) :
    ∃ after ∈ marked frames index block,
      after.index = index ∧ after.blocks.testBit block = true := by
  unfold marked
  induction frames with
  | nil =>
    obtain ⟨entry, hentry, -⟩ := hentry
    cases hentry
  | cons frame frames ih =>
    rw [modifyFrame]
    split
    next hsame =>
      refine ⟨_, mem_cons_self, hsame, ?_⟩
      rw [Nat.testBit_or, Nat.testBit_two_pow_self, Bool.or_true]
    next hother =>
      obtain ⟨entry, hentry, hindex⟩ := hentry
      obtain rfl | hentry := mem_cons.mp hentry
      · exact absurd hindex hother
      · obtain ⟨after, hmem, hsame⟩ := ih ⟨entry, hentry, hindex⟩
        exact ⟨after, mem_cons_of_mem _ hmem, hsame⟩

lemma Windowed.marked (h : Windowed frames last) : Windowed (marked frames index block) last := by
  have hindices : (FecReportTracker.marked frames index block).map (·.index) =
      frames.map (·.index) := map_index_modifyFrame fun _ => rfl
  constructor
  · rw [hindices]
    exact h.nodup
  · intro entry hentry
    have hindex := mem_map_of_mem (f := (·.index)) hentry
    rw [hindices] at hindex
    obtain ⟨old, hold, hsame⟩ := mem_map.mp hindex
    rw [← hsame]
    exact h.within old hold

/-- What a report does: it is refused and forgets at most entries out of the window, or it is
the first one on its block. -/
inductive Recorded (t : FecReportTracker) (payload : List UInt8) (lastSent : Option Nat) :
    Option FecReport × FecReportTracker → Prop where
  | invalid : Recorded t payload lastSent
        (none, { t with reports := t.reports + 1, invalidReports := t.invalidReports + 1 })
  | refused {status : FecStatus} {last : Nat} (hparse : parseFecStatus payload = some status)
      (hlast : lastSent = some last) (hwithin : behind last status.frame < window)
      (invalid duplicate : Nat) (hcounts : invalid + duplicate = 1) :
      Recorded t payload lastSent
        (none, { frames := tracked t.frames last status, reports := t.reports + 1,
                 invalidReports := t.invalidReports + invalid,
                 duplicateReports := t.duplicateReports + duplicate })
  | accepted {status : FecStatus} {last : Nat} (hparse : parseFecStatus payload = some status)
      (hlast : lastSent = some last) (hwithin : behind last status.frame < window)
      (entry : TrackedFrame)
      (hfind : (tracked t.frames last status).find? (·.index == status.frame) = some entry)
      (hfresh : entry.blocks.testBit status.block = false) (report : FecReport) :
      Recorded t payload lastSent
        (some report, { t with frames := marked (tracked t.frames last status) status.frame status.block,
                               reports := t.reports + 1 })

lemma record_cases (t : FecReportTracker) (payload : List UInt8) (lastSent : Option Nat) :
    Recorded t payload lastSent (t.record payload lastSent) := by
  unfold record
  dsimp only
  split
  next status last hparse =>
    split
    · exact .invalid
    next hwithin =>
      have hwithin := Nat.lt_of_not_le hwithin
      split
      next hnone =>
        obtain ⟨entry, hentry, hsame⟩ := @exists_tracked t.frames last status
        exact absurd (beq_iff_eq.mpr hsame) (List.find?_eq_none.mp hnone entry hentry)
      next entry hfind =>
        split
        · exact .refused hparse rfl hwithin 1 0 rfl
        · split
          · exact .refused hparse rfl hwithin 0 1 rfl
          next hfresh =>
            exact .accepted hparse rfl hwithin entry hfind (Bool.eq_false_of_not_eq_true hfresh) _
  · exact .invalid

end FecReportTracker

/-! ## The invariant of a session -/

def Accepted.place (a : Accepted) : Nat := a.last + window - behind (a.last % 2 ^ 32) a.frame

structure Reporting.Inv (s : Reporting) : Prop where
  counts : s.tracker.reports =
    s.accepted.length + s.tracker.invalidReports + s.tracker.duplicateReports
  windowed : ∃ last < 2 ^ 32, FecReportTracker.Windowed s.tracker.frames last
  sent : ∀ a ∈ s.accepted, ∃ first ∈ s.first, ∃ last ∈ s.last, first ≤ a.last ∧ a.last ≤ last
  ordered : ∀ first ∈ s.first, ∃ last ∈ s.last, first ≤ last
  within : ∀ a ∈ s.accepted, a.frame < 2 ^ 32 ∧ behind (a.last % 2 ^ 32) a.frame < window
  /-- What is still in the window is remembered. -/
  remembered : ∀ a ∈ s.accepted, ∀ last ∈ s.last, last < a.place →
    ∃ entry ∈ s.tracker.frames, entry.index = a.frame ∧ entry.blocks.testBit a.block = true
  once : (s.accepted.map fun a => (a.place, a.block)).Nodup

namespace Reporting

variable {s : Reporting} {report : Report}

lemma behind_of_place {a : Accepted} {last : Nat} (hframe : a.frame < 2 ^ 32)
    (hwithin : behind (a.last % 2 ^ 32) a.frame < window) (hle : a.last ≤ last)
    (hlast : last < a.place) : behind (last % 2 ^ 32) a.frame = last + window - a.place := by
  unfold Accepted.place at *
  unfold behind window at *
  omega

lemma frame_of_place {a b : Accepted} (ha : a.frame < 2 ^ 32) (hb : b.frame < 2 ^ 32)
    (hbw : behind (b.last % 2 ^ 32) b.frame < window) (h : a.place = b.place) :
    a.frame = b.frame := by
  unfold Accepted.place at h
  unfold behind window at *
  omega

lemma place_of_frame {a b : Accepted} {first last : Nat} (hspan : last - first + window ≤ 2 ^ 32)
    (ha : first ≤ a.last ∧ a.last ≤ last) (hb : first ≤ b.last ∧ b.last ≤ last)
    (haw : behind (a.last % 2 ^ 32) a.frame < window)
    (hbw : behind (b.last % 2 ^ 32) b.frame < window) (hframe : a.frame < 2 ^ 32)
    (h : a.frame = b.frame) : a.place = b.place := by
  unfold Accepted.place
  unfold behind window at *
  omega

lemma inv_init : Inv {} where
  counts := rfl
  windowed := ⟨0, by decide, nodup_nil, nofun⟩
  sent := nofun
  ordered := nofun
  within := nofun
  remembered := nofun
  once := nodup_nil

section

variable (h : s.Inv)

include h

lemma Inv.tracked {sent : Nat} (hsent : ∀ last ∈ s.last, last ≤ sent)
    (status : FecStatus) {a : Accepted} (ha : a ∈ s.accepted) (hplace : sent < a.place) :
    ∃ entry ∈ FecReportTracker.tracked s.tracker.frames (sent % 2 ^ 32) status,
      entry.index = a.frame ∧ entry.blocks.testBit a.block = true := by
  obtain ⟨-, -, last, hlast, -, hle⟩ := h.sent a ha
  have hlater := hsent last hlast
  obtain ⟨entry, hentry, hindex, hbit⟩ :=
    h.remembered a ha last hlast (lt_of_le_of_lt hlater hplace)
  have hbehind := behind_of_place (h.within a ha).1 (h.within a ha).2 (hle.trans hlater) hplace
  have hkept : behind (sent % 2 ^ 32) entry.index < window := by
    rw [hindex, hbehind]
    unfold window
    omega
  exact ⟨entry, FecReportTracker.mem_tracked hentry hkept, hindex, hbit⟩

lemma Inv.first_le {sent : Nat} (hsent : ∀ last ∈ s.last, last ≤ sent) :
    ∃ first ∈ s.first.or (some sent), first ≤ sent ∧ ∀ a ∈ s.accepted, first ≤ a.last := by
  cases hfirst : s.first with
  | none =>
    refine ⟨sent, rfl, le_rfl, fun a ha => ?_⟩
    obtain ⟨first, hsome, -⟩ := h.sent a ha
    cases hfirst.symm.trans hsome
  | some first =>
    obtain ⟨last, hlast, hle⟩ := h.ordered first hfirst
    refine ⟨first, rfl, hle.trans (hsent last hlast), fun a ha => ?_⟩
    obtain ⟨first', hsome, -, -, hle, -⟩ := h.sent a ha
    cases hfirst.symm.trans hsome
    exact hle

lemma Inv.advanced {sent : Nat} (hsent : ∀ last ∈ s.last, last ≤ sent)
    {t : FecReportTracker} (hcounts : t.reports =
      s.accepted.length + t.invalidReports + t.duplicateReports)
    (hwindowed : ∃ last < 2 ^ 32, FecReportTracker.Windowed t.frames last)
    (hremembered : ∀ a ∈ s.accepted, sent < a.place →
      ∃ entry ∈ t.frames, entry.index = a.frame ∧ entry.blocks.testBit a.block = true) :
    Inv ⟨t, s.accepted, s.first.or (some sent), some sent⟩ := by
  obtain ⟨first, hfirst, hle, hold⟩ := h.first_le hsent
  refine ⟨hcounts, hwindowed, fun a ha => ?_, fun other hother => ?_, h.within, ?_, h.once⟩
  · obtain ⟨-, -, last, hlast, -, hlater⟩ := h.sent a ha
    exact ⟨first, hfirst, sent, rfl, hold a ha, hlater.trans (hsent last hlast)⟩
  · cases Option.some.inj (hother.symm.trans hfirst)
    exact ⟨sent, rfl, hle⟩
  · rintro a ha last ⟨⟩
    exact hremembered a ha

lemma Inv.accept {sent : Nat} (hsent : ∀ last ∈ s.last, last ≤ sent)
    {status : FecStatus} (hframe : status.frame < 2 ^ 32)
    (hwithin : behind (sent % 2 ^ 32) status.frame < window) {entry : TrackedFrame}
    (hfind : (FecReportTracker.tracked s.tracker.frames (sent % 2 ^ 32) status).find?
      (·.index == status.frame) = some entry) (hfresh : entry.blocks.testBit status.block = false) :
    Inv ⟨{ s.tracker with
        frames := FecReportTracker.marked
          (FecReportTracker.tracked s.tracker.frames (sent % 2 ^ 32) status) status.frame status.block
        reports := s.tracker.reports + 1 },
      ⟨status.frame, status.block, sent⟩ :: s.accepted, s.first.or (some sent), some sent⟩ := by
  obtain ⟨first, hfirst, hle, hold⟩ := h.first_le hsent
  obtain ⟨last, -, hwindowed⟩ := h.windowed
  have htracked := FecReportTracker.tracked_windowed hwindowed.nodup
    (fun entry hentry => (hwindowed.within entry hentry).1) hframe hwithin
  have hfound : entry.index = status.frame := beq_iff_eq.mp (find?_some hfind :)
  have hmem := mem_of_find?_eq_some hfind
  constructor
  · dsimp only
    rw [length_cons, h.counts]
    omega
  · exact ⟨sent % 2 ^ 32, Nat.mod_lt _ (by decide), htracked.marked⟩
  · rintro a (_ | ⟨_, ha⟩)
    · exact ⟨first, hfirst, sent, rfl, hle, le_rfl⟩
    · obtain ⟨-, -, last, hlast, -, hlater⟩ := h.sent a ha
      exact ⟨first, hfirst, sent, rfl, hold a ha, hlater.trans (hsent last hlast)⟩
  · intro other hother
    cases Option.some.inj (hother.symm.trans hfirst)
    exact ⟨sent, rfl, hle⟩
  · rintro a (_ | ⟨_, ha⟩)
    · exact ⟨hframe, hwithin⟩
    · exact h.within a ha
  · rintro a ha last ⟨⟩ hplace
    obtain _ | ⟨_, ha⟩ := ha
    · exact FecReportTracker.exists_reported ⟨entry, hmem, hfound⟩
    · obtain ⟨old, hentry, hindex, hbit⟩ := h.tracked hsent status ha hplace
      rw [← hindex]
      exact FecReportTracker.exists_marked hentry hbit
  · rw [map_cons, nodup_cons]
    refine ⟨fun hagain => ?_, h.once⟩
    -- A report in the same place still has its entry, the one that was found.
    obtain ⟨a, ha, hsame⟩ := mem_map.mp hagain
    obtain ⟨hplace, hblock⟩ := Prod.mk.inj hsame
    have hplaced : sent < a.place := by
      rw [hplace]
      unfold Accepted.place
      dsimp only
      omega
    obtain ⟨old, hentry, hindex, hbit⟩ := h.tracked hsent status ha hplaced
    have hsameFrame : a.frame = status.frame := frame_of_place (h.within a ha).1 hframe hwithin hplace
    have hsameEntry : old = entry :=
      inj_on_of_nodup_map htracked.nodup hentry hmem
        (hindex.trans (hsameFrame.trans hfound.symm))
    rw [hsameEntry, hblock, hfresh] at hbit
    cases hbit

lemma inv_step (hadmits : reporting.admits s report) : (s.step report).Inv := by
  obtain ⟨payload, lastSent⟩ := report
  have hrecorded := s.tracker.record_cases payload (lastSent.map (· % 2 ^ 32))
  unfold step
  dsimp only
  generalize s.tracker.record payload (lastSent.map (· % 2 ^ 32)) = recorded at hrecorded ⊢
  cases lastSent with
  | none =>
    cases hrecorded with
    | invalid =>
      rw [Option.or_none, Option.none_or]
      refine { h with counts := ?_ }
      dsimp only
      rw [h.counts]
      omega
    | refused _ hlast => cases hlast
    | accepted _ hlast => cases hlast
  | some sent =>
    have hsent : ∀ last ∈ s.last, last ≤ sent := fun last hlast => hadmits last hlast sent rfl
    obtain ⟨last, hlast, hwindowed⟩ := h.windowed
    cases hrecorded with
    | invalid =>
      refine h.advanced hsent ?_ h.windowed fun a ha hplace => ?_
      · dsimp only
        rw [h.counts]
        omega
      · obtain ⟨-, -, last, hlast, -⟩ := h.sent a ha
        exact h.remembered a ha last hlast (lt_of_le_of_lt (hsent last hlast) hplace)
    | refused hparse hsome hwithin invalid duplicate hcounts =>
      cases hsome
      refine h.advanced hsent ?_ ⟨sent % 2 ^ 32, Nat.mod_lt _ (by decide), ?_⟩ fun a ha hplace => ?_
      · dsimp only
        rw [h.counts]
        omega
      · exact FecReportTracker.tracked_windowed hwindowed.nodup
          (fun entry hentry => (hwindowed.within entry hentry).1) (parseFecStatus_frame hparse)
          hwithin
      · exact h.tracked hsent _ ha hplace
    | accepted hparse hsome hwithin entry hfind hfresh report =>
      cases hsome
      rw [hparse]
      exact h.accept hsent (parseFecStatus_frame hparse) hwithin hfind hfresh

end

end Reporting

/-- A block of a frame is counted once, as long as the frames sent stay a window short of
coming back to the same number. -/
theorem reports_counted_once {s : Reporting} (h : reporting.Reachable s) :
    (s.advance + 1024 ≤ 2 ^ 32 → (s.accepted.map fun a => (a.frame, a.block)).Nodup) ∧
      s.tracker.frames.length ≤ 1024 ∧ (∀ a ∈ s.accepted, behind (a.last % 2 ^ 32) a.frame < 1024) ∧
      s.tracker.reports =
        s.accepted.length + s.tracker.invalidReports + s.tracker.duplicateReports := by
  have hinv : s.Inv :=
    h.invariant Reporting.inv_init fun state input hinv hadmits => Reporting.inv_step hinv hadmits
  refine ⟨fun hadvance => ?_, ?_, fun a ha => (hinv.within a ha).2, hinv.counts⟩
  · have honce := pairwise_map.mp hinv.once
    refine pairwise_map.mpr (honce.imp_of_mem ?_)
    rintro a b ha hb hne hsame
    obtain ⟨hframe, hblock⟩ := Prod.mk.inj hsame
    obtain ⟨first, hfirst, last, hlast, haspan⟩ := hinv.sent a ha
    obtain ⟨first', hfirst', last', hlast', hbspan⟩ := hinv.sent b hb
    cases Option.some.inj (hfirst.symm.trans hfirst')
    cases Option.some.inj (hlast.symm.trans hlast')
    have hspan : last - first + window ≤ 2 ^ 32 := by
      rw [Reporting.advance, Option.mem_def.mp hfirst, Option.mem_def.mp hlast] at hadvance
      exact hadvance
    have hplace := Reporting.place_of_frame hspan haspan hbspan (hinv.within a ha).2
      (hinv.within b hb).2 (hinv.within a ha).1 hframe
    exact hne (Prod.ext hplace hblock)
  · obtain ⟨last, hlast, hwindowed⟩ := hinv.windowed
    exact hwindowed.length_le hlast

def blockReport (frame : Nat) : List UInt8 :=
  [(frame / 2 ^ 24).toUInt8, (frame / 2 ^ 16).toUInt8, (frame / 2 ^ 8).toUInt8, frame.toUInt8] ++
    [0, 0, 0, 0, 0, 0, 0, 1, 0, 0, 0, 1, 0, 0, 0, 0, 1]

instance (s : Reporting) (report : Report) : Decidable (reporting.admits s report) :=
  inferInstanceAs (Decidable (∀ last ∈ s.last, ∀ sent ∈ report.lastSent, last ≤ sent))

def after (reports : List Report) : Reporting := reports.foldl Reporting.step {}

lemma reachable_after {reports : List Report} {report : Report}
    (h : reporting.Reachable (after reports)) (hadmits : reporting.admits (after reports) report) :
    reporting.Reachable (after (reports ++ [report])) := by
  unfold after
  rw [foldl_append]
  exact .snoc h hadmits trivial

theorem reports_counted_once_twice :
    (let s := after [⟨blockReport 7, some 9⟩, ⟨blockReport 7, some 9⟩]
    (s.advance + 1024 ≤ 2 ^ 32 → (s.accepted.map fun a => (a.frame, a.block)).Nodup) ∧
      s.tracker.frames.length ≤ 1024 ∧
      (∀ a ∈ s.accepted, behind (a.last % 2 ^ 32) a.frame < 1024) ∧
      s.tracker.reports =
        s.accepted.length + s.tracker.invalidReports + s.tracker.duplicateReports) ∧
      (after [⟨blockReport 7, some 9⟩, ⟨blockReport 7, some 9⟩]).accepted = [⟨7, 0, 9⟩] :=
  ⟨reports_counted_once (.snoc (.snoc .refl (by decide) trivial) (by decide) trivial), by decide⟩

/-- A frame that is not sent yet is accepted behind a wrapped number, and again once it is. -/
theorem unsent_frame_counted_twice : ∃ s, reporting.Reachable s ∧ s.advance < 2 ^ 32 ∧
      ¬(s.accepted.map fun a => (a.frame, a.block)).Nodup := by
  let early : Report := ⟨blockReport (2 ^ 32 - 1018), some 5⟩
  let between : Report := ⟨blockReport 2000, some 2000⟩
  let late : Report := ⟨blockReport (2 ^ 32 - 1018), some (2 ^ 32 - 1018)⟩
  refine ⟨after ([] ++ [early] ++ [between] ++ [late]), ?_, ?_, ?_⟩
  · have h1 : reporting.admits (after []) early := by decide
    have h2 : reporting.admits (after ([] ++ [early])) between := by decide +kernel
    have h3 : reporting.admits (after ([] ++ [early] ++ [between])) late := by decide +kernel
    exact reachable_after (reachable_after (@reachable_after [] _ .refl h1) h2) h3
  · decide +kernel
  · decide +kernel

end Vibeshine.VideoPacing
