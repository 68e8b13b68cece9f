import Vibeshine.Input.Batching
import Vibeshine.Library.System

/-! # Runs of the input worker

The queue of one client, filled by `passthrough` on the control thread and emptied by
`passthrough_next_message` on a thread of the pool. The critical sections are the steps;
`input_queue_task_scheduled` is set exactly while the worker is not idle.
-/

namespace Vibeshine.Input.Batching

open Library List

inductive Worker where
  | idle | scheduled
  /-- Between the two critical sections, before the typed `passthrough`. -/
  | sending (payload : Packet)
  | sent
  deriving DecidableEq

def Worker.inHand : Worker → List Packet
  | .sending payload => [payload]
  | _ => []

structure State where
  inputQueue : List Packet := []
  inputClosed : Bool := false
  worker : Worker := .idle
  /-- The packets that were queued, in their order. -/
  enqueued : List Packet := []
  /-- The packets handed to the typed `passthrough`, in their order. -/
  dispatched : List Packet := []
  /-- The packets that the seal of the queue threw away. -/
  cleared : List Packet := []
  /-- The pairs handed to `batch`. -/
  compared : List (Packet × Packet) := []

namespace State

/-- `request_serialized_worker_wake`, and the push of the task. -/
def wake (state : State) : State :=
  if state.worker = .idle then { state with worker := .scheduled } else state

/-- `passthrough` of a message: the packet, if `validate_packet` finds one. -/
def passthrough (state : State) (packet : Option Packet) : State :=
  match packet with
  | none => state
  | some packet =>
    if state.inputClosed then state
    else { state with
      inputQueue := state.inputQueue ++ [packet]
      enqueued := state.enqueued ++ [packet] }.wake

/-- `input_geometry_refresh_tick`. -/
def refreshTick (state : State) : State := if state.inputClosed then state else state.wake

/-- The first critical section of `passthrough_next_message`. -/
def take (state : State) : State :=
  match state.inputQueue with
  | [] => { state with worker := .idle }
  | payload :: queue =>
    { state with
      inputQueue := (payload.absorb queue).2
      worker := .sending (payload.absorb queue).1
      compared := state.compared ++ payload.comparisons queue }

/-- The typed `passthrough`. -/
def send (state : State) : State :=
  { state with worker := .sent, dispatched := state.dispatched ++ state.worker.inHand }

/-- The second critical section of `passthrough_next_message`. -/
def finish (state : State) : State :=
  { state with worker := if state.inputQueue = [] then .idle else .scheduled }

/-- The seal of the queue, in `reset`. -/
def close (state : State) : State :=
  if state.inputClosed then state
  else { state with inputClosed := true, cleared := state.inputQueue, inputQueue := [] }

end State

inductive Step where
  | passthrough (packet : Option Packet)
  | refreshTick | take | send | finish | close
  deriving DecidableEq

def admits (state : State) : Step → Prop
  | .take => state.worker = .scheduled
  | .send => state.worker.inHand ≠ []
  | .finish => state.worker = .sent
  | _ => True

def step (state : State) : Step → State
  | .passthrough packet => state.passthrough packet
  | .refreshTick => state.refreshTick
  | .take => state.take
  | .send => state.send
  | .finish => state.finish
  | .close => state.close

def batching : System State Step where
  init := {}
  admits := admits
  step := step

instance (state : State) (input : Step) : Decidable (batching.admits state input) := by
  cases input <;> simp only [batching, admits] <;> infer_instance

def headRight : List Packet → Bool
  | payload :: entry :: _ => !payload.misjudged entry
  | _ => true

def Clear (state : State) (input : Step) : Prop := input = .take → headRight state.inputQueue

instance (state : State) (input : Step) : Decidable (Clear state input) :=
  inferInstanceAs (Decidable (_ → _))

/-! ## The walk along the queue -/

variable (lane : Lane)

def onLane (packets : List Packet) : List Packet :=
  packets.filter fun packet => packet.lane = lane

@[simp] lemma onLane_nil : onLane lane [] = [] := rfl

lemma onLane_append (first second : List Packet) :
    onLane lane (first ++ second) = onLane lane first ++ onLane lane second :=
  filter_append ..

lemma onLane_cons (packet : Packet) (packets : List Packet) :
    onLane lane (packet :: packets) = onLane lane [packet] ++ onLane lane packets :=
  onLane_append lane [packet] packets

lemma onLane_of_forall {lane : Lane} {packets : List Packet}
    (h : ∀ packet ∈ packets, packet.lane = lane) : onLane lane packets = packets :=
  filter_eq_self.mpr fun packet hpacket => decide_eq_true (h packet hpacket)

lemma onLane_of_ne {lane other : Lane} {packets : List Packet}
    (h : ∀ packet ∈ packets, packet.lane = other) (hne : other ≠ lane) : onLane lane packets = [] :=
  filter_eq_nil_iff.mpr fun packet hpacket => by simpa [h packet hpacket] using hne

variable {run : List Packet}

lemma onLane_swap {other : Lane} (hrun : ∀ packet ∈ run, packet.lane = other)
    {entry : Packet} (hentry : entry.lane ≠ other) (lane : Lane) :
    onLane lane run ++ onLane lane [entry] = onLane lane [entry] ++ onLane lane run := by
  by_cases hlane : entry.lane = lane
  · have hempty : onLane lane run = [] := onLane_of_ne hrun fun h => hentry (hlane.trans h.symm)
    rw [hempty, append_nil, nil_append]
  · have hempty : onLane lane [entry] = [] := onLane_of_ne (by simp) hlane
    rw [hempty, append_nil, nil_append]

variable {sent : Packet}

lemma Merges.lane_eq (h : Merges run sent) : ∀ packet ∈ run, packet.lane = sent.lane := by
  induction h with
  | single packet => simp
  | state _ hlane _ _ ih => exact forall_mem_cons.mpr ⟨hlane, ih⟩
  | relMouse | scroll | hscroll => simp [Packet.lane]

/-- The packet to send merges a run of its lane, and what is left behind keeps the order of
every lane. -/
def Absorbed (payload : Packet) (queue : List Packet) (result : Packet × List Packet) : Prop :=
  ∃ run, Merges (payload :: run) result.1 ∧
    ∀ lane, onLane lane (payload :: queue) = onLane lane (payload :: run) ++ onLane lane result.2

lemma Absorbed.stop (payload : Packet) (queue : List Packet) :
    Absorbed payload queue (payload, queue) :=
  ⟨[], .single payload, fun lane => onLane_cons lane payload queue⟩

variable {payload entry : Packet} {queue : List Packet} {result : Packet × List Packet}

lemma Absorbed.keep (h : Absorbed payload queue result) (hlane : entry.lane ≠ payload.lane) :
    Absorbed payload (entry :: queue) (result.1, entry :: result.2) := by
  obtain ⟨run, merged, hsplit⟩ := h
  have hsame : ∀ packet ∈ payload :: run, packet.lane = payload.lane := fun packet hpacket =>
    (merged.lane_eq packet hpacket).trans (merged.lane_eq payload mem_cons_self).symm
  refine ⟨run, merged, fun lane => ?_⟩
  calc onLane lane (payload :: entry :: queue)
      = (onLane lane [payload] ++ onLane lane [entry]) ++ onLane lane queue := by
        rw [onLane_cons, onLane_cons lane entry, append_assoc]
    _ = onLane lane [entry] ++ onLane lane (payload :: queue) := by
        rw [onLane_swap (by simp) hlane, append_assoc, ← onLane_cons]
    _ = (onLane lane [entry] ++ onLane lane (payload :: run)) ++ onLane lane result.2 := by
        rw [hsplit, append_assoc]
    _ = onLane lane (payload :: run) ++ onLane lane (entry :: result.2) := by
        rw [← onLane_swap hsame hlane, append_assoc, ← onLane_cons]

lemma Absorbed.replace (h : Absorbed entry queue result) (hstate : result.1.isState)
    (hlane : entry.lane = payload.lane) (hs : payload.standing = result.1.standing) :
    Absorbed payload (entry :: queue) result := by
  obtain ⟨run, merged, hsplit⟩ := h
  have hsame : payload.lane = result.1.lane :=
    hlane.symm.trans (merged.lane_eq entry mem_cons_self)
  refine ⟨entry :: run, .state hstate hsame hs merged, fun lane => ?_⟩
  rw [onLane_cons lane payload (entry :: queue), hsplit, onLane_cons lane payload (entry :: run),
    append_assoc]

lemma isSummed_of_isState {packet : Packet} (h : packet.isState) : packet.isSummed = false := by
  cases packet <;> first | rfl | cases h

/-- What the walk keeps of the payload, where nothing adds up. -/
structure Kept (payload : Packet) (result : Packet × List Packet) : Prop where
  isSummed : result.1.isSummed = false
  isState : payload.isState → result.1.isState
  standing : result.1.standing = payload.standing

lemma absorb_kept (hsummed : payload.isSummed = false) (queue : List Packet) :
    Absorbed payload queue (payload.absorb queue) ∧ Kept payload (payload.absorb queue) := by
  induction queue generalizing payload with
  | nil => exact ⟨.stop payload [], hsummed, id, rfl⟩
  | cons entry queue ih =>
    have hsound := payload.batch_sound hsummed entry
    unfold Packet.absorb
    cases hbatch : payload.batch entry with
    | terminateBatch => exact ⟨.stop payload (entry :: queue), hsummed, id, rfl⟩
    | batched merged =>
      rw [hbatch] at hsound
      obtain ⟨rfl, hlane, hs, hstate⟩ := hsound
      obtain ⟨habsorbed, hkept⟩ := ih (isSummed_of_isState hstate)
      have hlast := hkept.isState hstate
      exact ⟨habsorbed.replace hlast hlane (hs.trans hkept.standing.symm),
        hkept.isSummed, fun _ => hlast, hkept.standing.trans hs.symm⟩
    | notBatchable =>
      rw [hbatch] at hsound
      obtain ⟨habsorbed, hkept⟩ := ih hsummed
      exact ⟨habsorbed.keep hsound, hkept.isSummed, hkept.isState, hkept.standing⟩

lemma headRight_cons (hright : headRight (payload :: entry :: queue)) :
    payload.misjudged entry = false := by
  simpa [headRight] using hright

lemma absorb_absorbed (hright : headRight (payload :: queue)) :
    Absorbed payload queue (payload.absorb queue) := by
  cases hsummed : payload.isSummed with
  | false => exact (absorb_kept hsummed queue).1
  | true =>
    cases queue with
    | nil => exact .stop payload []
    | cons entry queue =>
      -- The rules do not add here, so the walk ends at once.
      rw [Packet.absorb, Packet.batch_terminates hsummed (headRight_cons hright)]
      exact .stop payload (entry :: queue)

lemma comparisons_state (hsummed : payload.isSummed = false) (queue : List Packet) :
    ∀ pair ∈ payload.comparisons queue, pair.1.JudgedRight pair.2 := by
  induction queue generalizing payload with
  | nil => simp [Packet.comparisons]
  | cons entry queue ih =>
    have hsound := payload.batch_sound hsummed entry
    refine forall_mem_cons.mpr ⟨fun h => by simp [hsummed] at h, ?_⟩
    cases hbatch : payload.batch entry with
    | terminateBatch => simp
    | batched merged =>
      rw [hbatch] at hsound
      obtain ⟨rfl, -, -, hstate⟩ := hsound
      exact ih (isSummed_of_isState hstate)
    | notBatchable => exact ih hsummed

lemma comparisons_right (hright : headRight (payload :: queue)) :
    ∀ pair ∈ payload.comparisons queue, pair.1.JudgedRight pair.2 := by
  cases hsummed : payload.isSummed with
  | false => exact comparisons_state hsummed queue
  | true =>
    cases queue with
    | nil => simp [Packet.comparisons]
    | cons entry queue =>
      have hpair := headRight_cons hright
      rw [Packet.comparisons, Packet.batch_terminates hsummed hpair]
      simpa using (payload.judgedRight_iff entry).mpr hpair

/-! ## Edges -/

def changes (before : Standing) : List Standing → List Standing
  | [] => []
  | standing :: standings =>
    if standing = before then changes before standings
    else standing :: changes standing standings

lemma changes_append (before : Standing) (first second : List Standing) :
    changes before (first ++ second) =
      changes before first ++ changes (first.getLastD before) second := by
  induction first generalizing before with
  | nil => rfl
  | cons standing standings ih =>
    rw [cons_append, changes, changes, getLastD_cons]
    split
    case isTrue hsame => rw [ih, hsame]
    case isFalse => rw [ih, cons_append]

lemma changes_replicate (standing : Standing) (count : Nat) :
    changes standing (List.replicate count standing) = [] := by
  induction count with
  | zero => rfl
  | succ count ih => rw [replicate_succ, changes, if_pos rfl, ih]

section

variable (h : Merges run sent)

include h

lemma Merges.ne_nil : run ≠ [] := by
  cases h with
  | single | state => exact cons_ne_nil _ _
  | relMouse hrun | scroll hrun | hscroll hrun => exact mt map_eq_nil_iff.mp hrun

lemma Merges.standing_eq : ∀ packet ∈ run, packet.standing = sent.standing := by
  induction h with
  | single packet => simp
  | state _ _ hs _ ih => exact forall_mem_cons.mpr ⟨hs, ih⟩
  | relMouse | scroll | hscroll => simp [Packet.standing]

lemma Merges.standings :
    ∃ count, run.map Packet.standing = List.replicate (count + 1) sent.standing := by
  have hlength : run.length ≠ 0 := mt length_eq_zero_iff.mp h.ne_nil
  obtain ⟨count, hcount⟩ := Nat.exists_eq_succ_of_ne_zero hlength
  refine ⟨count, eq_replicate_iff.mpr ⟨by rw [length_map, hcount], ?_⟩⟩
  intro standing hs
  obtain ⟨packet, hpacket, rfl⟩ := mem_map.mp hs
  exact h.standing_eq packet hpacket

end

lemma Coalesced.edges {taken dispatched : List Packet} (h : Coalesced taken dispatched)
    (before : Standing) :
    changes before (taken.map Packet.standing) = changes before (dispatched.map Packet.standing) ∧
      (taken.map Packet.standing).getLastD before =
        (dispatched.map Packet.standing).getLastD before := by
  induction h with
  | nil => exact ⟨rfl, rfl⟩
  | @run sent taken dispatched run _ merged ih =>
    obtain ⟨hchanges, hlast⟩ := ih
    obtain ⟨count, hcount⟩ := merged.standings
    simp only [map_append, map_cons, map_nil, changes_append, hchanges, hlast, hcount]
    refine ⟨?_, by simp [getLastD_eq_getLast?, getLast?_replicate]⟩
    rw [replicate_succ, changes, changes, changes_replicate, changes]
    split
    case isTrue hsame => rw [← hsame, changes_replicate]
    case isFalse => rfl

/-! ## Runs -/

lemma Coalesced.extend {taken dispatched run : List Packet} {sent : Packet}
    (h : Coalesced taken dispatched) (merged : Merges run sent) (lane : Lane) :
    Coalesced (taken ++ onLane lane run) (dispatched ++ onLane lane [sent]) := by
  by_cases hlane : sent.lane = lane
  · have hsent : onLane lane [sent] = [sent] := onLane_of_forall (by simpa using hlane)
    rw [onLane_of_forall fun packet hpacket => (merged.lane_eq packet hpacket).trans hlane, hsent]
    exact h.run merged
  · have hsent : onLane lane [sent] = [] := onLane_of_ne (by simp) hlane
    rw [onLane_of_ne merged.lane_eq hlane, hsent, append_nil, append_nil]
    exact h

/-- The packets of a lane that are no longer queued went out, merged in runs. -/
structure Flow (state : State) : Prop where
  lanes : ∀ lane, ∃ taken,
    onLane lane state.enqueued = taken ++ onLane lane (state.inputQueue ++ state.cleared) ∧
      Coalesced taken (onLane lane (state.dispatched ++ state.worker.inHand))
  sums : ∀ pair ∈ state.compared, pair.1.JudgedRight pair.2
  closed : state.inputClosed → state.inputQueue = []
  opened : state.inputClosed = false → state.cleared = []

structure Invariant (state : State) : Prop extends Flow state where
  awake : state.inputQueue ≠ [] → state.worker ≠ .idle

variable {state : State}

lemma Flow.setWorker (h : Flow state) (worker : Worker)
    (hhand : worker.inHand = state.worker.inHand) : Flow { state with worker := worker } where
  lanes := by
    intro lane
    rw [hhand]
    exact h.lanes lane
  sums := h.sums
  closed := h.closed
  opened := h.opened

lemma Flow.wake (h : Flow state) : Invariant state.wake := by
  unfold State.wake
  split
  case isTrue hidle =>
    exact { h.setWorker .scheduled (by rw [hidle]; rfl) with awake := fun _ => nofun }
  case isFalse hidle => exact { h with awake := fun _ => hidle }

lemma Flow.enqueue (h : Flow state) (hopen : state.inputClosed = false) (packet : Packet) :
    Flow { state with
      inputQueue := state.inputQueue ++ [packet]
      enqueued := state.enqueued ++ [packet] } where
  lanes := by
    intro lane
    obtain ⟨taken, hsplit, hcoalesced⟩ := h.lanes lane
    refine ⟨taken, ?_, hcoalesced⟩
    dsimp only
    rw [onLane_append, hsplit, h.opened hopen, append_nil, append_nil, onLane_append, append_assoc]
  sums := h.sums
  closed := fun hclosed => by simp [hopen] at hclosed
  opened := h.opened

section

variable (h : Invariant state)

include h

lemma Invariant.passthrough (packet : Option Packet) : Invariant (state.passthrough packet) := by
  unfold State.passthrough
  cases packet with
  | none => exact h
  | some packet =>
    dsimp only
    split
    case isTrue => exact h
    case isFalse hclosed => exact (h.toFlow.enqueue (by simpa using hclosed) packet).wake

lemma Invariant.refreshTick : Invariant state.refreshTick := by
  unfold State.refreshTick
  split
  case isTrue => exact h
  case isFalse => exact h.toFlow.wake

lemma Invariant.take (hworker : state.worker = .scheduled)
    (hright : headRight state.inputQueue) : Invariant state.take := by
  have hhand : state.worker.inHand = [] := by rw [hworker]; rfl
  unfold State.take
  split
  case h_1 hqueue =>
    exact { h.toFlow.setWorker .idle hhand.symm with awake := fun hne => absurd hqueue hne }
  case h_2 payload queue hqueue =>
    rw [hqueue] at hright
    have hopen : state.inputClosed = false :=
      Bool.eq_false_iff.mpr fun hclosed => cons_ne_nil _ _ (hqueue.symm.trans (h.closed hclosed))
    obtain ⟨run, merged, habsorbed⟩ := absorb_absorbed hright
    refine { lanes := ?_, sums := ?_, closed := ?_, opened := h.opened, awake := fun _ => nofun }
    · intro lane
      obtain ⟨taken, hsplit, hcoalesced⟩ := h.lanes lane
      refine ⟨taken ++ onLane lane (payload :: run), ?_, ?_⟩
      · rw [hsplit, hqueue, h.opened hopen, append_nil, append_nil, habsorbed, append_assoc]
      · rw [hhand, append_nil] at hcoalesced
        rw [onLane_append]
        exact hcoalesced.extend merged lane
    · intro pair hpair
      rcases mem_append.mp hpair with hbefore | hnow
      · exact h.sums pair hbefore
      · exact comparisons_right hright pair hnow
    · intro hclosed
      simp [hopen] at hclosed

lemma Invariant.send : Invariant state.send where
  lanes := by
    intro lane
    obtain ⟨taken, hsplit, hcoalesced⟩ := h.lanes lane
    refine ⟨taken, hsplit, ?_⟩
    rw [State.send, show Worker.sent.inHand = [] from rfl, append_nil]
    exact hcoalesced
  sums := h.sums
  closed := h.closed
  opened := h.opened
  awake := fun _ => nofun

lemma Invariant.finish (hworker : state.worker = .sent) : Invariant state.finish := by
  have hhand : state.worker.inHand = [] := by rw [hworker]; rfl
  unfold State.finish
  split
  case isTrue hqueue =>
    exact { h.toFlow.setWorker .idle hhand.symm with awake := fun hne => absurd hqueue hne }
  case isFalse => exact { h.toFlow.setWorker .scheduled hhand.symm with awake := fun _ => nofun }

lemma Invariant.close : Invariant state.close := by
  unfold State.close
  split
  case isTrue => exact h
  case isFalse hclosed =>
    refine { lanes := ?_, sums := h.sums, closed := fun _ => rfl, opened := nofun,
             awake := fun hne => absurd rfl hne }
    intro lane
    obtain ⟨taken, hsplit, hcoalesced⟩ := h.lanes lane
    rw [h.opened (by simpa using hclosed), append_nil] at hsplit
    exact ⟨taken, hsplit, hcoalesced⟩

lemma Invariant.step {input : Step} (hadmits : admits state input)
    (hclear : Clear state input) : Invariant (step state input) := by
  cases input with
  | passthrough packet => exact h.passthrough packet
  | refreshTick => exact h.refreshTick
  | take => exact h.take hadmits (hclear rfl)
  | send => exact h.send
  | finish => exact h.finish hadmits
  | close => exact h.close

end

lemma Invariant.initial : Invariant {} where
  lanes := fun _ => ⟨[], rfl, .nil⟩
  sums := fun _ hpair => absurd hpair not_mem_nil
  closed := fun _ => rfl
  opened := fun _ => rfl
  awake := fun hne => absurd rfl hne

lemma invariant_of_reachable (h : batching.ReachableUnder Clear state) : Invariant state :=
  h.invariant .initial fun _ _ hinv hadmits hclear => hinv.step hadmits hclear

/-- The stream keeps its meaning: in every lane the packets taken from the queue went out,
with runs of consecutive packets merged into one that says the same; no change of the
buttons, the triggers or a contact is lost; and amounts are merged exactly if their sums
fit a packet. A queue with packets has its task. -/
structure Preserved (state : State) : Prop where
  lanes : ∀ lane, ∃ taken,
    onLane lane state.enqueued = taken ++ onLane lane (state.inputQueue ++ state.cleared) ∧
      Coalesced taken (onLane lane (state.dispatched ++ state.worker.inHand)) ∧
      ∀ before, changes before (taken.map Packet.standing) =
        changes before ((onLane lane (state.dispatched ++ state.worker.inHand)).map
          Packet.standing)
  sums : ∀ pair ∈ state.compared, pair.1.JudgedRight pair.2
  awake : state.inputQueue ≠ [] → state.worker ≠ .idle

theorem packet_stream_preserved (h : batching.ReachableUnder Clear state) : Preserved state := by
  have hinv := invariant_of_reachable h
  refine ⟨fun lane => ?_, hinv.sums, hinv.awake⟩
  obtain ⟨taken, hsplit, hcoalesced⟩ := hinv.lanes lane
  exact ⟨taken, hsplit, hcoalesced, fun before => (hcoalesced.edges before).1⟩

def twoFingers : List Step :=
  let move (pointer : UInt32) (place : UInt8) : Step :=
    .passthrough (some (.touch { eventType := .move, pointerId := pointer, rest := [place] }))
  [move 1 10, move 2 20, move 1 11, .take, .send, .finish]

theorem packet_stream_preserved_twoFingers :
    batching.Follows Clear batching.init twoFingers ∧ Preserved (batching.run {} twoFingers) :=
  ⟨by decide, packet_stream_preserved (.of_follows .refl (by decide))⟩

/-- Small movements that meet in the queue are sent one by one, and two scroll amounts
whose sum is too large are sent as its remainder. -/
def backlog : List Step :=
  let move : Step := .passthrough (some (.relMouse { deltaX := 1, deltaY := 0 }))
  let scroll (amount : Int16) : Step :=
    .passthrough (some (.scroll { scrollAmt1 := amount, scrollAmt2 := amount }))
  [move, move, scroll 32767, scroll 1,
    .take, .send, .finish, .take, .send, .finish, .take, .send, .finish]

theorem packet_stream_altered : ∃ state, batching.Reachable state ∧ state.dispatched =
        [.relMouse { deltaX := 1, deltaY := 0 }, .relMouse { deltaX := 1, deltaY := 0 },
          .scroll { scrollAmt1 := -32768, scrollAmt2 := -32768 }] ∧
      ¬Preserved state := by
  refine ⟨batching.run {} backlog, .of_follows .refl (by decide), by decide, fun h => ?_⟩
  have hpair := h.sums (.scroll { scrollAmt1 := 32767, scrollAmt2 := 32767 },
    .scroll { scrollAmt1 := 1, scrollAmt2 := 1 }) (by decide)
  exact absurd ((Packet.judgedRight_iff _ _).mp hpair) (by decide)

end Vibeshine.Input.Batching
