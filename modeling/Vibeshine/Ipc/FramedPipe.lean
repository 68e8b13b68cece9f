import Vibeshine.Library.System
import Mathlib

/-! # Framed pipes

`FramedPipe`: messages with a length header on a byte stream. Every read of the inner
pipe is a step, so that the stream may be cut anywhere and the sender may write between
two reads of one `receive`.
-/

namespace Vibeshine.Ipc.FramedPipe

open Library List

/-! ## Frames -/

def header (length : Nat) : List UInt8 :=
  [.ofNat length, .ofNat (length / 2 ^ 8), .ofNat (length / 2 ^ 16), .ofNat (length / 2 ^ 24)]

/-- What `send` writes. -/
def frame (message : List UInt8) : List UInt8 := header message.length ++ message

def headerLength (a b c d : UInt8) : Nat :=
  a.toNat + b.toNat * 2 ^ 8 + c.toNat * 2 ^ 16 + d.toNat * 2 ^ 24

def kMaxFrameLen : Nat := 2 * 1024 * 1024

/-- `try_decode_one_frame`: the message copied into `capacity` bytes, and `_rxbuf` after. -/
def tryDecodeOneFrame (capacity : Nat) : List UInt8 → Option (List UInt8) × List UInt8
  | a :: b :: c :: d :: rest =>
    let length := headerLength a b c d
    if length = 0 ∨ kMaxFrameLen < length then
      tryDecodeOneFrame capacity (b :: c :: d :: rest)
    else if rest.length < length then (none, a :: b :: c :: d :: rest)
    else if capacity < length then (none, a :: b :: c :: d :: rest)
    else (some (rest.take length), rest.drop length)
  | rxbuf => (none, rxbuf)

def Sendable (message : List UInt8) : Prop := 0 < message.length ∧ message.length ≤ kMaxFrameLen

instance (message : List UInt8) : Decidable (Sendable message) := inferInstanceAs (Decidable (_ ∧ _))

variable {capacity : Nat} {message rest rxbuf : List UInt8}

lemma headerLength_header {length : Nat} (h : length < 2 ^ 32) :
    headerLength (.ofNat length) (.ofNat (length / 2 ^ 8)) (.ofNat (length / 2 ^ 16))
      (.ofNat (length / 2 ^ 24)) = length := by
  simp only [headerLength, UInt8.toNat_ofNat']
  omega

lemma Sendable.headerLength (h : Sendable message) :
    FramedPipe.headerLength (.ofNat message.length) (.ofNat (message.length / 2 ^ 8))
      (.ofNat (message.length / 2 ^ 16)) (.ofNat (message.length / 2 ^ 24)) = message.length :=
  headerLength_header (lt_of_le_of_lt h.2 (by decide))

lemma Sendable.plausible (h : Sendable message) :
    ¬(message.length = 0 ∨ kMaxFrameLen < message.length) :=
  not_or.mpr ⟨Nat.ne_of_gt h.1, not_lt.mpr h.2⟩

@[simp] lemma length_frame (message : List UInt8) :
    (frame message).length = 4 + message.length := by
  rw [frame, length_append]
  rfl

lemma frame_append (message rest : List UInt8) : frame message ++ rest =
      .ofNat message.length :: .ofNat (message.length / 2 ^ 8) ::
        .ofNat (message.length / 2 ^ 16) :: .ofNat (message.length / 2 ^ 24) ::
          (message ++ rest) := by
  simp [frame, header]

lemma tryDecodeOneFrame_bounds (h : tryDecodeOneFrame capacity rxbuf = (some message, rest)) :
    0 < message.length ∧ message.length ≤ capacity ∧
      ∃ skipped, rxbuf = skipped ++ message ++ rest ∧ 4 ≤ skipped.length := by
  fun_induction tryDecodeOneFrame capacity rxbuf with
  | case1 a b c d tail length hskip ih =>
    obtain ⟨hpos, hfits, skipped, hsplit, hheader⟩ := ih h
    refine ⟨hpos, hfits, a :: skipped, by rw [hsplit]; rfl, ?_⟩
    exact le_trans hheader (by simp)
  | case2 | case3 => cases h
  | case4 a b c d tail length hplausible hwhole hfits =>
    obtain ⟨rfl, rfl⟩ : tail.take length = message ∧ tail.drop length = rest := by simpa using h
    have hlength : (tail.take length).length = length :=
      length_take_of_le (not_lt.mp hwhole)
    rw [hlength]
    refine ⟨Nat.pos_of_ne_zero fun hzero => hplausible (.inl hzero), not_lt.mp hfits,
      [a, b, c, d], ?_, le_rfl⟩
    rw [append_assoc, take_append_drop]
    rfl
  | case5 => cases h

lemma tryDecodeOneFrame_frame (hsendable : Sendable message) (hfits : message.length ≤ capacity)
    (rest : List UInt8) :
    tryDecodeOneFrame capacity (frame message ++ rest) = (some message, rest) := by
  have hwhole : ¬(message ++ rest).length < message.length := by simp
  rw [frame_append, tryDecodeOneFrame, hsendable.headerLength,
    if_neg hsendable.plausible, if_neg hwhole, if_neg (not_lt.mpr hfits), take_left,
    drop_left]

lemma tryDecodeOneFrame_short (hsendable : Sendable message) {later : List UInt8}
    (hstream : rxbuf ++ later = frame message ++ rest) (hshort : rxbuf.length < 4 + message.length) :
    tryDecodeOneFrame capacity rxbuf = (none, rxbuf) := by
  match rxbuf with
  | a :: b :: c :: d :: tail =>
    rw [frame_append] at hstream
    simp only [cons_append, List.cons.injEq] at hstream
    obtain ⟨rfl, rfl, rfl, rfl, -⟩ := hstream
    have htail : tail.length < message.length := by
      simp only [length_cons] at hshort
      omega
    rw [tryDecodeOneFrame, hsendable.headerLength, if_neg hsendable.plausible, if_pos htail]
  | [] | [_] | [_, _] | [_, _, _] => rfl

/-! ## Runs -/

inductive PipeResult where
  | success | timeout | disconnected | brokenPipe | error
  deriving DecidableEq

structure State where
  /-- Written to the inner pipe and not yet read from it. -/
  inFlight : List UInt8 := []
  rxbuf : List UInt8 := []
  /-- The length of `dst`, while a `receive` waits for the inner pipe. -/
  receiving : Option Nat := none
  /-- What the last `receive` returned. -/
  result : Option PipeResult := none
  /-- The messages whose `send` returned true, and those `receive` returned. -/
  accepted : List (List UInt8) := []
  received : List (List UInt8) := []
  deriving DecidableEq

namespace State

def returns (state : State) (result : PipeResult) : State :=
  { state with receiving := none, result := some result }

/-- One call of the decoder in `receive`, and what follows where it finds nothing. -/
def decode (state : State) (capacity : Nat) (missed : State → State) : State :=
  match tryDecodeOneFrame capacity state.rxbuf with
  | (some message, rest) =>
    { state with rxbuf := rest, received := state.received ++ [message] }.returns .success
  | (none, rest) => missed { state with rxbuf := rest }

/-- `send`, on an inner pipe that writes all or nothing. -/
def send (state : State) (message : List UInt8) (written : Bool) : State :=
  if written then
    { state with
      inFlight := state.inFlight ++ frame message
      accepted := state.accepted ++ [message] }
  else state

/-- The start of `receive`. -/
def receive (state : State) (capacity : Nat) : State :=
  state.decode capacity fun state => { state with receiving := some capacity }

/-- The inner pipe returns `count` bytes. -/
def read (state : State) (count : Nat) : State :=
  if count = 0 then state.returns .disconnected
  else
    { state with
      rxbuf := state.rxbuf ++ state.inFlight.take count
      inFlight := state.inFlight.drop count }.decode (state.receiving.getD 0) id

def timeout (state : State) : State :=
  state.decode (state.receiving.getD 0) fun state => state.returns .timeout

end State

inductive Step where
  | send (message : List UInt8) (written : Bool)
  | receive (capacity : Nat)
  | read (count : Nat)
  | timeout
  /-- The inner pipe fails. -/
  | fail (result : PipeResult)
  deriving DecidableEq

def admits (state : State) : Step → Prop
  | .send _ _ => True
  | .receive _ => state.receiving = none
  | .read count => state.receiving ≠ none ∧ count ≤ 65536 ∧ count ≤ state.inFlight.length
  | .timeout => state.receiving ≠ none
  | .fail result => state.receiving ≠ none ∧ result ≠ .success ∧ result ≠ .timeout

def step (state : State) : Step → State
  | .send message written => state.send message written
  | .receive capacity => state.receive capacity
  | .read count => state.read count
  | .timeout => state.timeout
  | .fail result => state.returns result

def pipe : System State Step where
  init := {}
  admits := admits
  step := step

instance (state : State) (input : Step) : Decidable (pipe.admits state input) := by
  cases input <;> simp only [pipe, admits] <;> infer_instance

/-- The messages written are not empty, not longer than the decoder takes and not longer
than `capacity`, which is what every `receive` offers at least. -/
def Fits (capacity : Nat) (_ : State) : Step → Prop
  | .send message written => written → Sendable message ∧ message.length ≤ capacity
  | .receive offered => capacity ≤ offered
  | _ => True

instance (capacity : Nat) (state : State) (input : Step) :
    Decidable (Fits capacity state input) := by
  cases input <;> simp only [Fits] <;> infer_instance

def HeadFrame (rxbuf : List UInt8) : Prop :=
  ∃ a b c d tail, rxbuf = a :: b :: c :: d :: tail ∧
    0 < headerLength a b c d ∧ headerLength a b c d ≤ kMaxFrameLen ∧
      headerLength a b c d ≤ tail.length

lemma Sendable.headFrame (h : Sendable message) (rest : List UInt8) :
    HeadFrame (frame message ++ rest) := by
  refine ⟨_, _, _, _, _, frame_append message rest, ?_⟩
  rw [h.headerLength]
  exact ⟨h.1, h.2, by simp⟩

/-- What the sender has written and the receiver has not returned is in the stream, frame
by frame. -/
structure Flow (capacity : Nat) (state : State) (pending : List (List UInt8)) : Prop where
  split : state.accepted = state.received ++ pending
  stream : (pending.map frame).flatten = state.rxbuf ++ state.inFlight
  sendable : ∀ message ∈ pending, Sendable message ∧ message.length ≤ capacity
  offered : ∀ offered ∈ state.receiving, capacity ≤ offered

variable {state : State} {pending : List (List UInt8)} {offered : Nat}

section

variable (h : Flow capacity state pending)

include h

lemma Flow.decoded (hoffered : capacity ≤ offered) :
    (∃ message later rest, pending = message :: later ∧ state.rxbuf = frame message ++ rest ∧
        tryDecodeOneFrame offered state.rxbuf = (some message, rest)) ∨
      (tryDecodeOneFrame offered state.rxbuf = (none, state.rxbuf) ∧ ¬HeadFrame state.rxbuf) := by
  cases pending with
  | nil =>
    have hempty : state.rxbuf = [] := (append_eq_nil_iff.mp h.stream.symm).1
    rw [hempty]
    exact .inr ⟨rfl, nofun⟩
  | cons message later =>
    obtain ⟨hsendable, hfits⟩ := h.sendable message mem_cons_self
    have hstream : state.rxbuf ++ state.inFlight =
        frame message ++ (later.map frame).flatten := by rw [← h.stream]; rfl
    by_cases hshort : state.rxbuf.length < 4 + message.length
    · refine .inr ⟨tryDecodeOneFrame_short hsendable hstream hshort, ?_⟩
      rintro ⟨a, b, c, d, tail, hbuffer, -, -, htail⟩
      rw [hbuffer, frame_append] at hstream
      simp only [cons_append, List.cons.injEq] at hstream
      obtain ⟨rfl, rfl, rfl, rfl, -⟩ := hstream
      rw [hsendable.headerLength] at htail
      simp only [hbuffer, length_cons] at hshort
      omega
    · obtain ⟨rest, hrest⟩ : ∃ rest, state.rxbuf = frame message ++ rest := by
        have hprefix : frame message <+: state.rxbuf :=
          prefix_of_prefix_length_le (prefix_append _ _)
            (hstream ▸ prefix_append _ _) (by simpa using hshort)
        obtain ⟨rest, hrest⟩ := hprefix
        exact ⟨rest, hrest.symm⟩
      refine .inl ⟨message, later, rest, rfl, hrest, ?_⟩
      rw [hrest]
      exact tryDecodeOneFrame_frame hsendable (le_trans hfits hoffered) rest

lemma Flow.decode (hoffered : capacity ≤ offered)
    {missed : State → State} (hmissed : Flow capacity (missed state) pending) :
    ∃ pending, Flow capacity (state.decode offered missed) pending := by
  unfold State.decode
  rcases h.decoded hoffered with ⟨message, later, rest, rfl, hbuffer, hdecode⟩ | ⟨hdecode, -⟩
  · rw [hdecode]
    refine ⟨later, ?_, ?_, fun message hmessage =>
      h.sendable message (mem_cons_of_mem _ hmessage), nofun⟩
    · rw [h.split]
      simp [State.returns]
    · have hstream := h.stream
      rw [map_cons, flatten_cons, hbuffer, append_assoc] at hstream
      exact append_cancel_left hstream
  · rw [hdecode]
    exact ⟨pending, hmissed⟩

lemma Flow.setReceiving {receiving : Option Nat}
    (hreceiving : ∀ offered ∈ receiving, capacity ≤ offered) :
    Flow capacity { state with receiving := receiving } pending :=
  { h with offered := hreceiving }

lemma Flow.returns {result : PipeResult} : Flow capacity (state.returns result) pending :=
  { h with offered := nofun }

lemma Flow.getD (hreceiving : state.receiving ≠ none) : capacity ≤ state.receiving.getD 0 := by
  obtain ⟨offered, hoffered⟩ := Option.ne_none_iff_exists'.mp hreceiving
  rw [hoffered]
  exact h.offered offered hoffered

lemma Flow.send (hsendable : Sendable message) (hfits : message.length ≤ capacity) :
    Flow capacity (state.send message true) (pending ++ [message]) where
  split := by
    rw [State.send, if_pos rfl, h.split, append_assoc]
  stream := by
    rw [State.send, if_pos rfl, map_append, flatten_append, h.stream]
    simp
  sendable := by
    intro other hother
    rcases mem_append.mp hother with hbefore | hnew
    · exact h.sendable other hbefore
    · rw [mem_singleton.mp hnew]
      exact ⟨hsendable, hfits⟩
  offered := h.offered

lemma Flow.transfer (count : Nat) : Flow capacity { state with
      rxbuf := state.rxbuf ++ state.inFlight.take count
      inFlight := state.inFlight.drop count } pending where
  split := h.split
  stream := by
    rw [h.stream, append_assoc, take_append_drop]
  sendable := h.sendable
  offered := h.offered

lemma Flow.step {input : Step} (hadmits : admits state input)
    (hfits : Fits capacity state input) : ∃ pending, Flow capacity (step state input) pending := by
  cases input with
  | send message written =>
    cases written with
    | false => exact ⟨pending, h⟩
    | true => exact ⟨_, h.send (hfits rfl).1 (hfits rfl).2⟩
  | receive offered =>
    simp only [FramedPipe.step, State.receive]
    refine h.decode hfits (h.setReceiving fun other hother => ?_)
    obtain rfl : offered = other := Option.some.inj hother
    exact hfits
  | read count =>
    simp only [FramedPipe.step, State.read]
    split
    case isTrue => exact ⟨pending, h.returns⟩
    case isFalse => exact (h.transfer count).decode (h.getD hadmits.1) (h.transfer count)
  | timeout =>
    simp only [FramedPipe.step, State.timeout]
    exact h.decode (h.getD hadmits) h.returns
  | fail result => exact ⟨pending, h.returns⟩

end

lemma flow_of_reachable (h : pipe.ReachableUnder (Fits capacity) state) :
    ∃ pending, Flow capacity state pending := by
  induction h with
  | refl => exact ⟨[], rfl, rfl, nofun, nofun⟩
  | snoc _ hadmits hfits ih =>
    obtain ⟨pending, hflow⟩ := ih
    exact hflow.step hadmits hfits

/-- The calls of `receive` return what was sent: in order and each once, all of it once
everything is read and nothing more is found, with no frame stuck at the head of the
buffer; and no copy leaves the destination or the buffer. -/
structure RoundTrip (capacity : Nat) (state : State) : Prop where
  ordered : state.received <+: state.accepted
  complete : state.inFlight = [] → (tryDecodeOneFrame capacity state.rxbuf).1 = none →
    state.received = state.accepted
  unblocked : HeadFrame state.rxbuf → (tryDecodeOneFrame capacity state.rxbuf).1 ≠ none
  bounded : ∀ offered rxbuf message rest, tryDecodeOneFrame offered rxbuf = (some message, rest) →
      message.length ≤ offered ∧ ∃ skipped, rxbuf = skipped ++ message ++ rest ∧ 4 ≤ skipped.length

theorem framing_round_trip (capacity : Nat)
    (h : pipe.ReachableUnder (Fits capacity) state) : RoundTrip capacity state := by
  obtain ⟨pending, hflow⟩ := flow_of_reachable h
  have hdecoded := hflow.decoded (Nat.le_refl capacity)
  refine { ordered := ⟨pending, hflow.split.symm⟩, complete := ?_, unblocked := ?_, bounded := ?_ }
  · intro hread hnone
    rcases hdecoded with ⟨message, later, rest, -, -, hdecode⟩ | ⟨-, hwaits⟩
    · rw [hdecode] at hnone
      cases hnone
    · cases pending with
      | nil => rw [hflow.split, append_nil]
      | cons message later =>
        refine absurd ?_ hwaits
        have hstream := hflow.stream
        rw [hread, append_nil, map_cons, flatten_cons] at hstream
        rw [← hstream]
        exact (hflow.sendable message mem_cons_self).1.headFrame _
  · intro hhead
    rcases hdecoded with ⟨message, later, rest, -, -, hdecode⟩ | ⟨-, hwaits⟩
    · simp [hdecode]
    · exact absurd hhead hwaits
  · intro offered rxbuf message rest hdecode
    exact (tryDecodeOneFrame_bounds hdecode).2

def cutFrame : List Step :=
  [.send [7, 8] true, .receive 65536, .read 5, .timeout, .receive 65536, .read 1]

theorem framing_round_trip_cutFrame :
    (pipe.run {} cutFrame).received = [[7, 8]] ∧ RoundTrip 65536 (pipe.run {} cutFrame) :=
  ⟨by decide, framing_round_trip 65536 (.of_follows .refl (by decide))⟩

def emptyMessage : List Step :=
  [.send [] true, .send [7] true, .receive 65536, .read 9, .timeout]

/-- The message after an empty one is lost, and a message longer than the destination
blocks the one behind it. -/
theorem empty_message_loses_next :
    (∃ state, pipe.Reachable state ∧ state.accepted = [[], [7]] ∧ state.received = [] ∧
        state.inFlight = [] ∧ ¬RoundTrip 65536 state) ∧
      ∃ state, pipe.Reachable state ∧ state.accepted = [[7, 8], [9]] ∧ state.received = [] ∧
        HeadFrame state.rxbuf ∧ (tryDecodeOneFrame 1 state.rxbuf).1 = none := by
  refine ⟨⟨pipe.run {} emptyMessage, .of_follows .refl (by decide), by decide, by decide,
    by decide, fun h => ?_⟩, ⟨pipe.run {} [.send [7, 8] true, .send [9] true, .receive 1, .read 11,
      .timeout], .of_follows .refl (by decide), by decide, by decide, ?_, by decide⟩⟩
  · exact absurd (h.complete (by decide) (by decide)) (by decide)
  · exact ⟨2, 0, 0, 0, [7, 8, 1, 0, 0, 0, 9], by decide, by decide, by decide, by decide⟩

end Vibeshine.Ipc.FramedPipe
