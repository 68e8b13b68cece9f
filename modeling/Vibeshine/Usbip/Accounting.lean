import Vibeshine.Usbip.Reassembly

/-! # The account of the requests

Every submit that a session consumes is queued, answered or unlinked, once. The account is
kept by every primitive of the handlers, with the request that a handler has in hand on
one side of the balance.
-/

namespace Vibeshine.Usbip

open Library List

/-! ## The control requests stay within their data -/

variable {device : Device} {core : Core} {request : Urb} {now : Int}

@[simp] lemma Registers.answers_reads (registers : Registers) (response : Response) :
    (registers.answers response).reads = 0 := rfl

variable {registers : Registers}

lemma standardRequest_reads {type code value index : Nat} {inward : Bool} :
    (standardRequest device registers type code value index inward).reads = 0 := by
  unfold standardRequest
  simp only [apply_ite Outcome.reads, Registers.answers_reads, ite_self]

lemma setReport_reads {id reportType : Nat} :
    (setReport registers request id reportType).reads ≤ request.data.length := by
  unfold setReport
  split
  · exact le_rfl
  · split
    case isTrue => exact zero_le
    case isFalse hsome =>
      split
      · exact length_pos_of_ne_nil hsome
      · exact le_rfl

lemma hidRequest_reads {input : List UInt8} {code value : Nat} {inward : Bool} :
    (hidRequest device registers input request code value inward).reads ≤ request.data.length := by
  unfold hidRequest
  simp only [apply_ite Outcome.reads, Registers.answers_reads, ite_self]
  split
  · exact zero_le
  · split
    · exact zero_le
    · split
      · exact setReport_reads
      · exact zero_le

lemma frequencyRequest_reads {code length : Nat} {inward : Bool}
    (hdata : inward = false → length ≤ request.data.length) :
    (frequencyRequest registers request code length inward).reads ≤ request.data.length := by
  unfold frequencyRequest
  dsimp only
  split
  · exact zero_le
  · split
    case isTrue hset =>
      obtain ⟨houtward, -, rfl⟩ := hset
      exact hdata (by simpa using houtward)
    case isFalse => exact zero_le

lemma featureRequest_reads {type code value index length : Nat}
    {inward : Bool} (hdata : inward = false → length ≤ request.data.length) :
    (featureRequest registers request type code value index length inward).reads ≤
      request.data.length := by
  unfold featureRequest
  dsimp only
  split
  · exact zero_le
  · split
    · exact zero_le
    · split
      case isTrue hmute =>
        obtain ⟨-, -, houtward, -, rfl⟩ := hmute
        exact hdata (by simpa using houtward)
      case isFalse =>
        split
        · exact zero_le
        · split
          case isTrue hvolume =>
            obtain ⟨-, houtward, -, rfl⟩ := hvolume
            exact hdata (by simpa using houtward)
          case isFalse => exact zero_le

lemma control_reads {input : List UInt8} (hformed : request.WellFormed) :
    (control device registers input request).reads ≤ request.data.length := by
  unfold control
  dsimp only
  split
  · exact zero_le
  · next hmatch =>
    obtain ⟨hdirection, hlength⟩ := not_or.mp hmatch
    have hdata : decide (byteAt request.setup 0 &&& 0x80 ≠ 0) = false →
        wLength request ≤ request.data.length := by
      intro houtward
      have hout : request.direction = 0 := by
        rw [houtward] at hdirection
        simpa using hdirection
      rw [hformed.data, if_pos hout]
      exact not_lt.mp hlength
    split
    · exact zero_le
    · split
      · rw [standardRequest_reads]
        exact zero_le
      · split
        · exact zero_le
        · split
          · exact hidRequest_reads
          · split
            · exact frequencyRequest_reads hdata
            · exact featureRequest_reads hdata

/-! ## The account -/

namespace Urb

def key (request : Urb) : Nat × Nat := (request.serial, request.sequence)

def isSpeaker (request : Urb) : Prop := request.endpoint = 1 ∧ request.direction = 0

instance (request : Urb) : Decidable request.isSpeaker := inferInstanceAs (Decidable (_ ∧ _))

def Covers (request : Urb) : Prop :=
  (request.packets.map IsoPacket.length).sum = request.length

instance (request : Urb) : Decidable request.Covers := inferInstanceAs (Decidable (_ = _))

/-- What is known of a request that waits for `poll`. -/
structure Queued (request : Urb) : Prop extends request.WellFormed where
  lane : (request.endpoint = 4 ∧ request.direction = 1 ∧ request.packets = []) ∨
    (request.endpoint = 2 ∧ request.direction = 1) ∨
    (request.endpoint = 1 ∧ request.direction = 0 ∧ ∀ packet ∈ request.packets, packet.length % 8 = 0)

end Urb

/-- The lengths in an answer agree with what it carries. -/
structure RetSubmit.Exact (ret : RetSubmit) : Prop where
  payload : ret.request.direction ≠ 0 → ret.actualLength = ret.payload.length
  packets : ret.status = 0 → ret.request.packets ≠ [] →
    ret.actualLength = (ret.request.packets.map ret.packetActual).sum

lemma RetSubmit.payload_length (ret : RetSubmit) (h : ret.request.direction ≠ 0) :
    ret.actualLength = ret.payload.length := by
  unfold RetSubmit.actualLength RetSubmit.payload
  by_cases hstatus : ret.status = 0
  · simp [hstatus, h]
  · simp [hstatus]

lemma RetSubmit.exact_failed {ret : RetSubmit} (h : ret.status ≠ 0) : ret.Exact :=
  ⟨ret.payload_length, fun hstatus => absurd hstatus h⟩

lemma RetSubmit.exact_plain {ret : RetSubmit} (h : ret.request.packets = []) : ret.Exact :=
  ⟨ret.payload_length, fun _ hpackets => absurd h hpackets⟩

def Answer.ret? : Answer → Option RetSubmit
  | .submit ret => some ret
  | .unlink _ => none

def Answer.unlink? : Answer → Option RetUnlink
  | .submit _ => none
  | .unlink ret => some ret

def Unlinked.answer (unlinked : Unlinked) : RetUnlink :=
  { sequence := unlinked.sequence, status := if unlinked.removed.isSome then canceled else 0 }

namespace Core

/-- The requests answered by a `RET_SUBMIT`. -/
def answered (core : Core) : List Urb := (core.answers.filterMap Answer.ret?).map RetSubmit.request

/-- The requests removed by a `CMD_UNLINK`. -/
def removed (core : Core) : List Urb := core.unlinked.filterMap Unlinked.removed

def account (core : Core) : Multiset (Nat × Nat) :=
  ↑(core.pending.map Urb.key) + ↑(core.answered.map Urb.key) + ↑(core.removed.map Urb.key)

def log (core : Core) : Multiset (Nat × Nat) := ↑(core.submitted.zipIdx.map Prod.swap)

end Core

/-- The account is balanced, with the requests in hand. -/
structure Accounts (core : Core) (hand : Multiset (Nat × Nat)) : Prop where
  balance : core.account + hand = core.log
  few : core.pending.length ≤ 64
  distinct : (core.pending.map Urb.sequence).Nodup
  queued : ∀ request ∈ core.pending, request.Queued
  unlinks : core.answers.filterMap Answer.unlink? = core.unlinked.map Unlinked.answer
  victims : ∀ unlinked ∈ core.unlinked, ∀ request ∈ unlinked.removed,
    request.sequence = unlinked.victim
  exact : ∀ ret ∈ core.answers.filterMap Answer.ret?, ret.Exact
  written : core.taken ++ core.transmit = core.greeting ++ core.answers.flatMap Answer.encode
  safe : core.overread = false
  greeted : core.imported = false → core.answers = [] ∧ core.pending = []

variable {hand : Multiset (Nat × Nat)}

section

variable (h : Accounts core hand)

include h

lemma Accounts.frame (registers : Registers) (input : List UInt8) (calls : List Call) :
    Accounts { core with registers := registers, input := input, calls := calls } hand :=
  { h with }

lemma Accounts.call (call : Call) : Accounts (core.call call) hand :=
  h.frame core.registers core.input _

lemma Accounts.hidOutput (report : Option (List UInt8)) :
    Accounts (core.hidOutput device report) hand := by
  unfold Core.hidOutput
  split
  · split
    · exact h.call _
    · exact h
  · exact h

lemma Accounts.reads {ends : List Nat} (hends : ∀ last ∈ ends, last ≤ request.data.length) :
    Accounts (core.reads request ends) hand := by
  have hnone : (ends.any fun last => request.data.length < last) = false := by
    simpa using hends
  exact { h with safe := by simp only [Core.reads, h.safe, hnone, Bool.or_self] }

end

section

variable (h : Accounts core (request.key ::ₘ hand))

include h

section

variable (himp : core.imported = true)

include himp

lemma Accounts.reply {status : Int} {data : List UInt8} {outLength : Nat} (hexact : RetSubmit.Exact
      { request := request, status := status, data := data, outLength := outLength }) :
    Accounts (core.reply request status data outLength) hand where
  balance := by
    have hbalance := h.balance
    have haccount : (core.reply request status data outLength).account =
        core.account + {request.key} := by
      simp only [Core.account, Core.reply, Core.answer, Core.answered, Core.removed,
        filterMap_append, map_append, ← Multiset.coe_add]
      rw [← add_assoc, add_right_comm]
      rfl
    rw [haccount, add_assoc, Multiset.singleton_add]
    exact hbalance
  few := h.few
  distinct := h.distinct
  queued := h.queued
  unlinks := by
    simp only [Core.reply, Core.answer, filterMap_append, h.unlinks]
    simp [Answer.unlink?]
  victims := h.victims
  exact := by
    intro ret hret
    simp only [Core.reply, Core.answer, filterMap_append, mem_append] at hret
    rcases hret with hbefore | hnow
    · exact h.exact ret hbefore
    · obtain rfl : ret = _ := by simpa [Answer.ret?] using hnow
      exact hexact
  written := by
    simp only [Core.reply, Core.answer, ← append_assoc, h.written, flatMap_append]
    simp
  safe := h.safe
  greeted := fun hnot => by
    rw [show (core.reply request status data outLength).imported = true from himp] at hnot
    cases hnot

lemma Accounts.refuse
    {status : Int} (hstatus : status ≠ 0) : Accounts (core.reply request status [] 0) hand :=
  h.reply himp (RetSubmit.exact_failed hstatus)

lemma Accounts.reject : Accounts (core.reject request) hand :=
  h.refuse himp (by decide)

end

end

lemma Accounts.takeOut (h : Accounts core hand) (kept out : List Urb)
    (hsplit : (core.pending : Multiset Urb) = ↑kept + ↑out) (hsublist : kept.Sublist core.pending) :
    Accounts { core with pending := kept } (↑(out.map Urb.key) + hand) where
  balance := by
    have hkeys : (↑(core.pending.map Urb.key) : Multiset (Nat × Nat)) =
        ↑(kept.map Urb.key) + ↑(out.map Urb.key) := by
      rw [← Multiset.map_coe, hsplit, Multiset.map_add, Multiset.map_coe, Multiset.map_coe]
    have hbalance := h.balance
    simp only [Core.account, hkeys] at hbalance
    rw [show Core.log { core with pending := kept } = core.log from rfl, ← hbalance]
    simp only [Core.account, Core.answered, Core.removed]
    ac_rfl
  few := le_trans hsublist.length_le h.few
  distinct := h.distinct.sublist (hsublist.map Urb.sequence)
  queued := fun request hrequest => h.queued request (hsublist.subset hrequest)
  unlinks := h.unlinks
  victims := h.victims
  exact := h.exact
  written := h.written
  safe := h.safe
  greeted := fun hnot => by
    obtain ⟨hanswers, hpend⟩ := h.greeted hnot
    rw [hpend] at hsublist
    exact ⟨hanswers, sublist_nil.mp hsublist⟩

lemma Accounts.replies {requests : List Urb} (h : Accounts core (↑(requests.map Urb.key) + hand))
    (himp : core.imported = true) :
    Accounts (requests.foldl (fun core request => core.reply request canceled [] 0) core) hand := by
  induction requests generalizing core with
  | nil => simpa using h
  | cons request requests ih =>
    have hfirst : Accounts core (request.key ::ₘ (↑(requests.map Urb.key) + hand)) := by
      rw [map_cons, ← Multiset.cons_coe, Multiset.cons_add] at h
      exact h
    exact ih (hfirst.refuse himp (by decide)) himp

lemma replies_pending (requests kept : List Urb) (core : Core) :
    { requests.foldl (fun core request => core.reply request canceled [] 0) core with
        pending := kept } =
      requests.foldl (fun core request => core.reply request canceled [] 0)
        { core with pending := kept } := by
  induction requests generalizing core with
  | nil => rfl
  | cons request requests ih => exact ih (core.reply request canceled [] 0)

lemma Accounts.cancel (h : Accounts core hand) (himp : core.imported = true)
    (cancels : Urb → Bool) : Accounts (core.cancel cancels) hand := by
  unfold Core.cancel
  dsimp only
  rw [replies_pending]
  refine Accounts.replies (h.takeOut _ _ ?_ filter_sublist) himp
  rw [add_comm, Multiset.coe_add]
  exact Multiset.coe_eq_coe.mpr (filter_append_perm cancels core.pending).symm

lemma Accounts.push (h : Accounts core (request.key ::ₘ hand)) (himp : core.imported = true)
    (hroom : core.pending.length < 64) {queued : Urb} (hkey : queued.key = request.key)
    (hqueued : queued.Queued)
    (hfresh : ∀ pending ∈ core.pending, pending.sequence ≠ request.sequence) :
    Accounts { core with pending := core.pending ++ [queued] } hand where
  balance := by
    have hbalance := h.balance
    rw [show Core.log { core with pending := core.pending ++ [queued] } = core.log from rfl,
      ← hbalance, ← Multiset.singleton_add]
    simp only [Core.account, Core.answered, Core.removed, map_append, map_cons,
      map_nil, hkey, ← Multiset.coe_add, Multiset.coe_singleton]
    ac_rfl
  few := by
    rw [length_append]
    exact hroom
  distinct := by
    have hsequence : queued.sequence = request.sequence := congrArg Prod.snd hkey
    rw [map_append]
    refine nodup_append'.mpr ⟨h.distinct, nodup_singleton _, ?_⟩
    intro sequence hbefore hnow
    obtain ⟨pending, hpend, rfl⟩ := mem_map.mp hbefore
    exact hfresh pending hpend (by simpa [hsequence] using hnow)
  queued := by
    intro other hother
    rcases mem_append.mp hother with hbefore | hnow
    · exact h.queued other hbefore
    · rw [mem_singleton.mp hnow]
      exact hqueued
  unlinks := h.unlinks
  victims := h.victims
  exact := h.exact
  written := h.written
  safe := h.safe
  greeted := fun hnot => by
    rw [show core.imported = false from hnot] at himp
    cases himp

/-! ## Handlers -/

lemma Urb.WellFormed.plain (h : request.WellFormed) (hiso : request.isIso = false) :
    request.packets = [] := by
  have hcount := h.count
  have hzero : Urb.tableSize request.packetCount = 0 := by
    simp only [Urb.isIso, decide_eq_false_iff_not, not_and_or, not_not] at hiso
    unfold Urb.tableSize
    rcases hiso with hnon | hnone
    · rw [if_pos hnon]
    · rw [hnone]
      split <;> rfl
  rw [hzero] at hcount
  exact length_eq_zero_iff.mp hcount

lemma imported_cancel (cancels : Urb → Bool) : (core.cancel cancels).imported = core.imported :=
  core.view_cancel Core.imported cancels (fun _ _ => rfl) (fun _ _ => rfl)

lemma imported_hidOutput (report : Option (List UInt8)) :
    (core.hidOutput device report).imported = core.imported := by
  unfold Core.hidOutput
  split
  · split <;> rfl
  · rfl

lemma Accounts.controlRequest (h : Accounts core (request.key ::ₘ hand))
    (himp : core.imported = true) (hformed : request.WellFormed)
    (hplain : request.packets = []) : Accounts (core.controlRequest device request) hand := by
  unfold Core.controlRequest
  dsimp only
  have hreads : ∀ last ∈ [(control device core.registers core.input request).reads],
      last ≤ request.data.length := by
    intro last hlast
    rw [mem_singleton.mp hlast]
    exact control_reads hformed
  generalize control device core.registers core.input request = outcome at hreads ⊢
  have hframe : Accounts { core with registers := outcome.registers } (request.key ::ₘ hand) :=
    h.frame outcome.registers core.input core.calls
  let output := (Core.reads { core with registers := outcome.registers } request
    [outcome.reads]).hidOutput device outcome.hidOutput
  have hhid : Accounts output (request.key ::ₘ hand) := (hframe.reads hreads).hidOutput _
  have hthere : output.imported = true := (imported_hidOutput _).trans himp
  have hcancel := hhid.cancel hthere outcome.cancels
  have hstill := (imported_cancel outcome.cancels).trans hthere
  split
  · exact hcancel.reply hstill (RetSubmit.exact_plain hplain)
  · exact hcancel.reply hstill (RetSubmit.exact_plain hplain)
  · exact hcancel.refuse hstill (by decide)

lemma Accounts.enqueue (h : Accounts core (request.key ::ₘ hand)) (himp : core.imported = true)
    (hqueued : request.Queued)
    (hfresh : ∀ pending ∈ core.pending, pending.sequence ≠ request.sequence) :
    Accounts (core.enqueue request) hand := by
  unfold Core.enqueue
  split
  · exact h.refuse himp (by decide)
  · next hroom => exact h.push himp (not_le.mp hroom) rfl hqueued hfresh

lemma Urb.WellFormed.stamped (h : request.WellFormed) (due : Int) (startFrame : Nat) :
    Urb.WellFormed { request with due := due, startFrame := startFrame } :=
  ⟨h.direction, h.data, h.count, h.within⟩

lemma Accounts.stamp (h : Accounts core (request.key ::ₘ hand)) (himp : core.imported = true)
    (hroom : core.pending.length < 64) (hqueued : request.Queued)
    (hfresh : ∀ pending ∈ core.pending, pending.sequence ≠ request.sequence)
    (registers : Registers) (due : Int) (startFrame : Nat) : Accounts { core with
      registers := registers
      pending := core.pending ++ [{ request with due := due, startFrame := startFrame }] } hand :=
  (h.frame registers core.input core.calls).push himp hroom rfl
    ⟨hqueued.stamped due startFrame, hqueued.lane⟩ hfresh

lemma Accounts.submit (h : Accounts core (request.key ::ₘ hand)) (himp : core.imported = true)
    (hformed : request.WellFormed)
    (hfresh : ∀ pending ∈ core.pending, pending.sequence ≠ request.sequence) :
    Accounts (core.submit device now request) hand := by
  unfold Core.submit
  dsimp only
  split
  case isTrue hcontrol =>
    exact h.controlRequest himp hformed (hformed.plain (by simpa using hcontrol.2))
  case isFalse =>
    split
    · exact h.reject himp
    · split
      case isTrue hout =>
        have hplain := hformed.plain (by simpa using hout.2.2.1)
        exact (h.hidOutput request.outputReport).reply
          ((imported_hidOutput request.outputReport).trans himp) (RetSubmit.exact_plain hplain)
      case isFalse =>
        split
        case isTrue hin =>
          have hplain := hformed.plain (by simpa using hin.2.2)
          split
          · exact h.reply himp (RetSubmit.exact_plain hplain)
          · exact h.enqueue himp ⟨hformed, .inl ⟨hin.1, hin.2.1, hplain⟩⟩ hfresh
        case isFalse =>
          split
          · exact h.reject himp
          · next hlane =>
            split
            · exact h.reject himp
            · next haudible =>
              split
              · exact h.refuse himp (by decide)
              · next hroom =>
                refine h.stamp himp (not_le.mp hroom) ⟨hformed, ?_⟩ hfresh _ _ _
                have hone := (not_or.mp hlane).1
                by_cases hin : request.endpoint = 2 ∧ request.direction = 1
                · exact .inr (.inl hin)
                · have hout : request.endpoint = 1 ∧ request.direction = 0 := by
                    simpa [hin] using hone
                  refine .inr (.inr ⟨hout.1, hout.2, fun packet hpacket => ?_⟩)
                  have hall := all_eq_true.mp (by simpa using haudible) packet hpacket
                  simp only [hout.1, hout.2, Core.audible] at hall
                  exact (of_decide_eq_true hall).2

/-! ## Completion -/

lemma frames_within {packet : IsoPacket} (hwhole : packet.length % 8 = 0) {frame : Nat}
    (hframe : frame ∈ Core.frames packet) : frame + 8 ≤ packet.offset + packet.length := by
  obtain ⟨index, hindex, rfl⟩ := mem_map.mp hframe
  have hlt := mem_range.mp hindex
  omega

lemma samplesEnds_within (hqueued : request.WellFormed) (hdirection : request.direction = 0)
    (hwhole : ∀ packet ∈ request.packets, packet.length % 8 = 0) :
    ∀ last ∈ Core.samplesEnds request, last ≤ request.data.length := by
  intro last hlast
  obtain ⟨packet, hpacket, hlast⟩ := mem_flatMap.mp hlast
  obtain ⟨frame, hframe, rfl⟩ := mem_map.mp hlast
  rw [hqueued.data, if_pos hdirection]
  exact le_trans (frames_within (hwhole packet hpacket) hframe) (hqueued.within packet hpacket)

lemma RetSubmit.exact_silence (hdirection : request.direction = 1) : RetSubmit.Exact
      { request := request
        status := 0
        data := zeros ((request.packets.map fun packet => min packet.length 192).sum) } := by
  refine ⟨RetSubmit.payload_length _, fun _ _ => ?_⟩
  have hactual : RetSubmit.packetActual
      { request := request
        status := 0
        data := zeros ((request.packets.map fun packet => min packet.length 192).sum) } =
        fun packet => min packet.length 192 := by
    funext packet
    simp [RetSubmit.packetActual, hdirection]
  rw [hactual]
  simp [RetSubmit.actualLength, hdirection, zeros]

lemma RetSubmit.exact_played (hdirection : request.direction = 0) (hcovers : request.Covers) :
    RetSubmit.Exact { request := request, status := 0, outLength := request.length } := by
  refine ⟨RetSubmit.payload_length _, fun _ _ => ?_⟩
  have hactual : RetSubmit.packetActual
      { request := request, status := 0, outLength := request.length } = IsoPacket.length := by
    funext packet
    simp [RetSubmit.packetActual, hdirection]
  rw [hactual, hcovers]
  simp [RetSubmit.actualLength, hdirection]

lemma Accounts.complete (h : Accounts core (request.key ::ₘ hand))
    (himp : core.imported = true) (hqueued : request.Queued)
    (hcovers : request.isSpeaker → request.Covers) :
    Accounts (core.complete device now request) hand := by
  unfold Core.complete
  rcases hqueued.lane with ⟨hendpoint, -, hplain⟩ | ⟨hendpoint, hin⟩ | ⟨hendpoint, hout, hwhole⟩
  · rw [if_pos hendpoint]
    exact (h.reply himp (RetSubmit.exact_plain hplain)).frame _ core.input core.calls
  · rw [if_neg (by rw [hendpoint]; decide), if_pos hin]
    exact h.reply himp (RetSubmit.exact_silence hin)
  · rw [if_neg (by rw [hendpoint]; decide), if_neg (by rw [hout]; decide)]
    unfold Core.completeSpeaker
    dsimp only
    have hreads := h.reads (samplesEnds_within hqueued.toWellFormed hout hwhole)
    have hexact := RetSubmit.exact_played hout (hcovers ⟨hendpoint, hout⟩)
    split_ifs
    · exact ((hreads.call _).call _).reply himp hexact
    · exact (hreads.call _).reply himp hexact
    · exact (hreads.call _).reply himp hexact
    · exact hreads.reply himp hexact

@[simp] lemma complete_pending : (core.complete device now request).pending = core.pending := by
  unfold Core.complete Core.completeSpeaker
  dsimp only
  split_ifs <;> rfl

/-- The requests that `poll` completes on the speaker lane cover their transfers. -/
def Covered (now : Int) (requests : List Urb) : Prop :=
  ∀ request ∈ requests, request.isSpeaker → request.due ≤ now → request.Covers

instance (now : Int) (requests : List Urb) : Decidable (Covered now requests) :=
  inferInstanceAs (Decidable (∀ request ∈ requests, _ → _ → _))

lemma Accounts.pollFrom {kept rest : List Urb} (h : Accounts core hand)
    (hpend : core.pending = kept ++ rest) (hcovered : Covered now rest) :
    (Core.pollFrom device now kept rest core).failed = true ∨
      Accounts (Core.pollFrom device now kept rest core) hand := by
  induction rest generalizing core kept with
  | nil => exact .inr h
  | cons request rest ih =>
    have hrest : Covered now rest := fun other hother => hcovered other (mem_cons_of_mem _ hother)
    rw [Core.pollFrom]
    split
    case isTrue => exact ih h (by rw [hpend, append_assoc]; rfl) hrest
    case isFalse hdue =>
      dsimp only
      split
      case isTrue => exact .inl rfl
      case isFalse =>
        have hmem : request ∈ core.pending := by
          rw [hpend]
          exact mem_append_right _ mem_cons_self
        have himp : core.imported = true := by
          by_contra hnot
          rw [(h.greeted (by simpa using hnot)).2] at hmem
          cases hmem
        have hout : Accounts { core with pending := kept ++ rest } (request.key ::ₘ hand) := by
          refine h.takeOut (kept ++ rest) [request] ?_ ?_
          · rw [hpend, Multiset.coe_add, Multiset.coe_eq_coe, append_assoc]
            exact (perm_append_singleton request rest).symm.append_left kept
          · rw [hpend]
            exact (List.Sublist.refl kept).append (sublist_cons_self _ _)
        refine ih (hout.complete himp (h.queued request hmem) fun hspeaker => ?_) (by simp) hrest
        refine hcovered request mem_cons_self hspeaker ?_
        simp only [Core.waits, hspeaker.1] at hdue
        simpa using hdue

/-! ## Records -/

lemma readPackets_spec {length count done : Nat} {bytes : List UInt8} {packets : List IsoPacket}
    (h : readPackets length count done bytes = some packets) :
    packets.length = count ∧ ∀ packet ∈ packets, Urb.Within length packet := by
  induction count generalizing done bytes packets with
  | zero =>
    obtain rfl := Option.some.inj h
    exact ⟨rfl, nofun⟩
  | succ count ih =>
    rw [readPackets] at h
    dsimp only at h
    split at h
    case isTrue => cases h
    case isFalse hvalid =>
      obtain ⟨rest, hrest, rfl⟩ := Option.map_eq_some_iff.mp h
      obtain ⟨hlength, hwithin⟩ := ih hrest
      refine ⟨by rw [length_cons, hlength], forall_mem_cons.mpr ⟨?_, hwithin⟩⟩
      unfold Urb.Within
      dsimp only
      omega

lemma scanSubmit_wellFormed {wire : List UInt8} {size : Nat}
    (h : scanSubmit wire = .submit request size) : request.WellFormed := by
  unfold scanSubmit at h
  dsimp only at h
  split at h
  case isTrue => cases h
  case isFalse hvalid =>
    split at h
    case isTrue => cases h
    case isFalse hwhole =>
      split at h
      case h_1 => cases h
      case h_2 packets hpackets =>
        obtain ⟨rfl, -⟩ := Record.submit.inj h
        obtain ⟨hcount, hwithin⟩ := readPackets_spec hpackets
        have hheader : (readHeader wire).headerValid = true := by simpa using hvalid
        refine ⟨(of_decide_eq_true hheader).1, ?_, hcount, hwithin⟩
        have hsize : (readHeader wire).dataSize + headerSize ≤ (readHeader wire).messageSize := by
          unfold Urb.messageSize
          omega
        simp only [length_take, length_drop]
        change min (readHeader wire).dataSize _ = (readHeader wire).dataSize
        omega

variable {imported : Bool}

lemma scan_wellFormed {wire : List UInt8} {size : Nat}
    (h : scan device imported wire = .submit request size) :
    imported = true ∧ request.WellFormed := by
  unfold scan at h
  split at h
  case isTrue himp =>
    unfold scanCommand at h
    split_ifs at h
    exact ⟨himp, scanSubmit_wellFormed h⟩
  case isFalse =>
    unfold scanImport importRecord at h
    dsimp only at h
    split_ifs at h

lemma scan_unlink {wire : List UInt8} {sequence victim : Nat}
    (h : scan device imported wire = .unlink sequence victim) : imported = true := by
  unfold scan at h
  split at h
  case isTrue himp => exact himp
  case isFalse =>
    unfold scanImport importRecord at h
    dsimp only at h
    split_ifs at h

lemma scan_import {wire : List UInt8} {record : Record} (h : scan device imported wire = record)
    (hrecord : record = .list ∨ record = .refuse ∨ record = .import_) : imported = false := by
  by_contra hnot
  have himp : imported = true := by simpa using hnot
  unfold scan at h
  rw [if_pos himp] at h
  unfold scanCommand scanSubmit at h
  dsimp only at h
  split_ifs at h <;> (try split at h) <;> subst h <;> simp at hrecord

lemma Accounts.register (h : Accounts core hand) (request : Urb) :
    Accounts (core.register request) ((core.submitted.length, request.sequence) ::ₘ hand) where
  balance := by
    have hlog : (core.register request).log =
        core.log + {(core.submitted.length, request.sequence)} := by
      simp [Core.log, Core.register, zipIdx_append, ← Multiset.coe_add]
    rw [hlog, ← h.balance, ← Multiset.singleton_add]
    change core.account + _ = _
    ac_rfl
  few := h.few
  distinct := h.distinct
  queued := h.queued
  unlinks := h.unlinks
  victims := h.victims
  exact := h.exact
  written := h.written
  safe := h.safe
  greeted := h.greeted

lemma find_eraseP (p : Urb → Bool) (requests : List Urb) :
    (requests : Multiset Urb) = ↑(requests.eraseP p) + ↑(requests.find? p).toList := by
  induction requests with
  | nil => rfl
  | cons request requests ih =>
    by_cases hp : p request = true
    · rw [eraseP_cons_of_pos hp, find?_cons_of_pos hp, Multiset.coe_add, Multiset.coe_eq_coe]
      exact (perm_append_singleton request requests).symm
    · rw [eraseP_cons_of_neg hp, find?_cons_of_neg hp, ← Multiset.cons_coe, ih,
        ← Multiset.cons_coe, Multiset.cons_add]

lemma Accounts.unlink (h : Accounts core hand) (himp : core.imported = true)
    (sequence victim : Nat) : Accounts (core.unlink sequence victim) hand := by
  have hout := h.takeOut _ _
    (find_eraseP (fun request => decide (request.sequence = victim)) core.pending)
    eraseP_sublist
  have hbalance := hout.balance
  refine ⟨?_, hout.few, hout.distinct, hout.queued, ?_, ?_, ?_, ?_, h.safe, fun hnot => ?_⟩
  · refine Eq.trans ?_ hbalance
    have hfound : ∀ found : Option Urb, [found].filterMap id = found.toList := fun found => by
      cases found <;> rfl
    have hremoved : (core.unlink sequence victim).removed = core.removed ++
        (core.pending.find? fun request => request.sequence = victim).toList := by
      rw [← hfound]
      simp only [Core.unlink, Core.answer, Core.removed, filterMap_append]
      rfl
    have hanswered : (core.unlink sequence victim).answered = core.answered := by
      simp only [Core.unlink, Core.answer, Core.answered, filterMap_append]
      simp [Answer.ret?]
    unfold Core.account
    rw [hremoved, hanswered, map_append, ← Multiset.coe_add]
    simp only [Core.unlink, Core.answer, Core.answered, Core.removed]
    ac_rfl
  · simp only [Core.unlink, Core.answer, filterMap_append, map_append, h.unlinks]
    rfl
  · intro unlinked hunlinked removed hremoved
    rcases mem_append.mp hunlinked with hbefore | hnow
    · exact h.victims unlinked hbefore removed hremoved
    · rw [mem_singleton.mp hnow] at hremoved ⊢
      have hfound := find?_some hremoved
      simpa using hfound
  · intro ret hret
    simp only [Core.unlink, Core.answer, filterMap_append, mem_append] at hret
    rcases hret with hbefore | hnow
    · exact h.exact ret hbefore
    · cases hnow
  · simp only [Core.unlink, Core.answer, ← append_assoc, h.written, flatMap_append]
    simp
  · rw [show core.imported = false from hnot] at himp
    cases himp

/-! ## Sessions -/

lemma Accounts.write (h : Accounts core hand) (hanswers : core.answers = []) (bytes : List UInt8) :
    Accounts (core.write bytes) hand where
  balance := h.balance
  few := h.few
  distinct := h.distinct
  queued := h.queued
  unlinks := h.unlinks
  victims := h.victims
  exact := h.exact
  written := by
    have hwritten := h.written
    rw [hanswers, flatMap_nil, append_nil] at hwritten
    simp only [Core.write, hanswers, flatMap_nil, append_nil, ← append_assoc, hwritten]
  safe := h.safe
  greeted := h.greeted

def Kept (core : Core) : Prop := core.failed = true ∨ Accounts core 0

lemma Kept.parse (h : Accounts core 0) {incarnation : Nat} {wire : List UInt8} {next : Core} :
    (core.parse device now incarnation wire = .stop next → Kept next) ∧
      ∀ size, core.parse device now incarnation wire = .consume size next → Kept next := by
  have hbound : ∀ (size : Nat) (after : Core), Accounts after 0 →
      (Core.bound size after = .stop next → Kept next) ∧
        ∀ count, Core.bound size after = .consume count next → Kept next := by
    intro size after hafter
    rcases Core.bound_cases size after with hcase | hcase
    · rw [hcase]
      exact ⟨fun hnext => .inl (by rw [← Library.Verdict.stop.inj hnext]; rfl), nofun⟩
    · rw [hcase]
      exact ⟨nofun, fun _ hnext => .inr (by rw [← (Library.Verdict.consume.inj hnext).2]; exact hafter)⟩
  have hnothing : ∀ {record : Record}, scan device core.imported wire = record →
      record = .list ∨ record = .refuse ∨ record = .import_ →
      core.imported = false ∧ core.answers = [] := fun hscan hrecord =>
    have hfresh := scan_import hscan hrecord
    ⟨hfresh, (h.greeted hfresh).1⟩
  unfold Core.parse
  cases hscan : scan device core.imported wire with
  | incomplete => exact ⟨nofun, nofun⟩
  | malformed => exact ⟨fun hnext => .inl (by rw [← Library.Verdict.stop.inj hnext]; rfl), nofun⟩
  | list =>
    refine ⟨fun hnext => .inr ?_, nofun⟩
    rw [← Library.Verdict.stop.inj hnext]
    exact { h.write (hnothing hscan (.inl rfl)).2 _ with }
  | refuse =>
    refine ⟨fun hnext => .inr ?_, nofun⟩
    rw [← Library.Verdict.stop.inj hnext]
    exact { h.write (hnothing hscan (.inr (.inl rfl))).2 _ with }
  | import_ =>
    obtain ⟨hfresh, hanswers⟩ := hnothing hscan (.inr (.inr rfl))
    exact hbound 40 _ { h.write hanswers _ with greeted := nofun }
  | unlink sequence victim =>
    exact hbound headerSize _ (h.unlink (scan_unlink hscan) sequence victim)
  | submit request size =>
    obtain ⟨himp, hformed⟩ := scan_wellFormed hscan
    dsimp only
    split
    case isTrue => exact ⟨fun hnext => .inl (by rw [← Library.Verdict.stop.inj hnext]; rfl), nofun⟩
    case isFalse hfresh =>
      refine hbound size _ ((h.register request).submit himp
        ⟨hformed.direction, hformed.data, hformed.count, hformed.within⟩ fun pending hpend => ?_)
      have hnone : ∀ other ∈ core.pending, other.sequence ≠ request.sequence := by
        simpa using hfresh
      exact hnone pending hpend

lemma Kept.feed {session : Session} (h : Kept session.core) (bytes : List UInt8)
    (incarnation : Nat) : Kept (session.feed device bytes incarnation now).core := by
  unfold Session.feed
  split
  case isTrue => exact .inl rfl
  case isFalse =>
    let inv (reader : RecordParser.Reader Core UInt8 Nat) : Prop := Kept reader.core
    suffices inv ((parser device now).absorb incarnation session.reader bytes) from this
    refine RecordParser.drain_invariant h ?_
    intro before next hbefore hrunning htakes
    have hfailed : before.core.failed = false := (Bool.or_eq_false_iff.mp hrunning).1
    have haccounts : Accounts before.core 0 := by
      rcases hbefore with hfail | haccounts
      · rw [hfailed] at hfail
        cases hfail
      · exact haccounts
    cases htakes with
    | stop hparse => exact (Kept.parse haccounts).1 hparse
    | consume hparse => exact (Kept.parse haccounts).2 _ hparse

/-! ## Runs -/

inductive Step where
  | feed (bytes : List UInt8) (incarnation : Nat) (now : Int)
  | poll (now : Int)
  | setInputReport (report : List UInt8)
  | takeOutput
  deriving DecidableEq

def step (device : Device) (session : Session) : Step → Session
  | .feed bytes incarnation now => session.feed device bytes incarnation now
  | .poll now => { session with core := session.core.poll device now }
  | .setInputReport report => { session with core := session.core.setInputReport report }
  | .takeOutput => { session with core := session.core.takeOutput }

def sessions (device : Device) : System Session Step where
  init := .create device
  admits := fun _ _ => True
  step := step device

/-- The speaker requests that a `poll` completes have packets that cover their transfers. -/
def Clear (session : Session) : Step → Prop
  | .poll now => Covered now session.core.pending
  | _ => True

instance (session : Session) (input : Step) : Decidable (Clear session input) := by
  cases input <;> simp only [Clear] <;> infer_instance

instance (session : Session) (input : Step) : Decidable ((sessions device).admits session input) :=
  .isTrue trivial

lemma Kept.create : Kept (Session.create device).core := by
  unfold Session.create
  dsimp only
  split
  · exact .inl rfl
  · exact .inr ⟨rfl, zero_le, nodup_nil, nofun, rfl, nofun, nofun, rfl, rfl,
      fun _ => ⟨rfl, rfl⟩⟩

lemma Kept.step {session : Session} (h : Kept session.core) {input : Step}
    (hclear : Clear session input) : Kept (step device session input).core := by
  cases input with
  | feed bytes incarnation now => exact h.feed bytes incarnation
  | poll now =>
    simp only [Usbip.step, Core.poll]
    split
    case isTrue => exact h
    case isFalse hrun =>
      rcases h with hfailed | haccounts
      · exact absurd (.inl hfailed) hrun
      · exact haccounts.pollFrom rfl hclear
  | setInputReport report =>
    simp only [Usbip.step, Core.setInputReport]
    split
    · rcases h with hfailed | haccounts
      · exact .inl hfailed
      · exact .inr (haccounts.frame session.core.registers report session.core.calls)
    · exact h
  | takeOutput =>
    rcases h with hfailed | haccounts
    · exact .inl hfailed
    · refine .inr { haccounts with written := ?_ }
      simpa [Usbip.step, Core.takeOutput] using haccounts.written

lemma kept_of_reachable {session : Session}
    (h : (sessions device).ReachableUnder Clear session) : Kept session.core := by
  induction h with
  | refl => exact Kept.create
  | snoc _ _ hclear ih => exact ih.step hclear

/-- As long as a session has not failed, every submit is queued, answered or unlinked once,
every unlink has its one answer, and the lengths in the answers agree with what they carry. -/
theorem requests_accounted (device : Device) {session : Session}
    (h : (sessions device).ReachableUnder Clear session) (hrunning : session.core.failed = false) :
    Accounts session.core 0 := by
  rcases kept_of_reachable h with hfailed | haccounts
  · rw [hrunning] at hfailed
    cases hfailed
  · exact haccounts

def importRequest (slot : Nat) : List UInt8 :=
  write16 0x0111 ++ write16 0x8003 ++ write32 0 ++ fixedString (busId slot) 32

variable (packetLength : Nat)

def speakerSubmit : List UInt8 :=
  write32 1 ++ write32 9 ++ write32 65537 ++ write32 0 ++ write32 1 ++ write32 0 ++ write32 16 ++
    write32 0 ++ write32 1 ++ zeros 12 ++ zeros 16 ++
    write32 0 ++ write32 packetLength ++ zeros 8

def speakerRun : List Step :=
  [.feed (importRequest 0) 0 1000, .feed (speakerSubmit packetLength) 0 1000, .poll 2000000000]

def speakerSession : Session :=
  (sessions bareDevice).run (.create bareDevice) (speakerRun packetLength)

theorem requests_accounted_speaker :
    (speakerSession 16).core.answered.map Urb.sequence = [9] ∧ Accounts (speakerSession 16).core 0 :=
  ⟨by decide +kernel, requests_accounted bareDevice (.of_follows .refl (by decide +kernel))
    (by decide +kernel)⟩

/-- A packet that leaves a gap behind it: 16 bytes are reported, 8 of them in packets. -/
theorem speaker_length_reported :
    ∃ session, (sessions bareDevice).Reachable session ∧ session.core.failed = false ∧
      ((session.core.answers.filterMap Answer.ret?).map fun ret =>
        (ret.actualLength, (ret.request.packets.map ret.packetActual).sum)) = [(16, 8)] ∧
      ¬Accounts session.core 0 := by
  refine ⟨speakerSession 8, .of_follows .refl (by decide +kernel), by decide +kernel,
    by decide +kernel, fun h => ?_⟩
  have hsums : ∀ ret ∈ (speakerSession 8).core.answers.filterMap Answer.ret?,
      ret.status = 0 → ret.request.packets ≠ [] →
        ret.actualLength = (ret.request.packets.map ret.packetActual).sum :=
    fun ret hret => (h.exact ret hret).packets
  exact absurd hsums (by decide +kernel)

end Vibeshine.Usbip
