import Mathlib

/-! # Batching of input packets

The pairwise rules by which the input worker merges queued packets, and its walk along
the queue. A packet is what `validate_packet` has let through, with the fields the rules
read; the bytes of the other fields are kept together.
-/

namespace Vibeshine.Input.Batching

inductive BatchResult (α : Type) where
  | batched (dest : α)
  | notBatchable
  | terminateBatch
  deriving DecidableEq

def BatchResult.map {α β : Type} (f : α → β) : BatchResult α → BatchResult β
  | .batched dest => .batched (f dest)
  | .notBatchable => .notBatchable
  | .terminateBatch => .terminateBatch

/-- `LI_TOUCH_EVENT_MOVE`, `LI_TOUCH_EVENT_HOVER`, and the other codes. -/
inductive TouchEvent where
  | move | hover
  | other (code : UInt8)
  deriving DecidableEq

def TouchEvent.isMotion (event : TouchEvent) : Bool := event = .move ∨ event = .hover

/-- `__builtin_add_overflow` into a `short`: whether the exact sum does not fit. -/
def addOverflow (a b : Int16) : Bool := (a + b).toInt ≠ a.toInt + b.toInt

structure RelMouseMovePacket where
  deltaX : Int16
  deltaY : Int16
  deriving DecidableEq

def RelMouseMovePacket.batch (dest src : RelMouseMovePacket) : BatchResult RelMouseMovePacket :=
  if !addOverflow dest.deltaX src.deltaX then .terminateBatch
  else if !addOverflow dest.deltaY src.deltaY then .terminateBatch
  else .batched { deltaX := dest.deltaX + src.deltaX, deltaY := dest.deltaY + src.deltaY }

structure AbsMouseMovePacket where
  width : Int16
  height : Int16
  rest : List UInt8
  deriving DecidableEq

def AbsMouseMovePacket.batch (dest src : AbsMouseMovePacket) : BatchResult AbsMouseMovePacket :=
  if dest.width ≠ src.width ∨ dest.height ≠ src.height then .terminateBatch
  else .batched src

structure ScrollPacket where
  scrollAmt1 : Int16
  scrollAmt2 : Int16
  deriving DecidableEq

def ScrollPacket.batch (dest src : ScrollPacket) : BatchResult ScrollPacket :=
  if !addOverflow dest.scrollAmt1 src.scrollAmt1 then .terminateBatch
  else .batched { scrollAmt1 := dest.scrollAmt1 + src.scrollAmt1
                  scrollAmt2 := dest.scrollAmt1 + src.scrollAmt1 }

structure HScrollPacket where
  scrollAmount : Int16
  deriving DecidableEq

def HScrollPacket.batch (dest src : HScrollPacket) : BatchResult HScrollPacket :=
  if !addOverflow dest.scrollAmount src.scrollAmount then .terminateBatch
  else .batched { scrollAmount := dest.scrollAmount + src.scrollAmount }

structure MultiControllerPacket where
  activeGamepadMask : UInt16
  controllerNumber : UInt16
  buttonFlags : UInt16
  buttonFlags2 : UInt16
  leftTrigger : UInt8
  rightTrigger : UInt8
  rest : List UInt8
  deriving DecidableEq

def MultiControllerPacket.batch (dest src : MultiControllerPacket) :
    BatchResult MultiControllerPacket :=
  if dest.activeGamepadMask ≠ src.activeGamepadMask then .terminateBatch
  else if dest.controllerNumber ≠ src.controllerNumber then .notBatchable
  else if dest.buttonFlags ≠ src.buttonFlags ∨ dest.buttonFlags2 ≠ src.buttonFlags2 ∨
      (dest.leftTrigger == 0) ≠ (src.leftTrigger == 0) ∨
      (dest.rightTrigger == 0) ≠ (src.rightTrigger == 0) ∨
      decide (dest.leftTrigger ≥ 0xF0) ≠ decide (src.leftTrigger ≥ 0xF0) ∨
      decide (dest.rightTrigger ≥ 0xF0) ≠ decide (src.rightTrigger ≥ 0xF0) then .terminateBatch
  else .batched src

structure TouchPacket where
  eventType : TouchEvent
  pointerId : UInt32
  rest : List UInt8
  deriving DecidableEq

def TouchPacket.batch (dest src : TouchPacket) : BatchResult TouchPacket :=
  if !dest.eventType.isMotion then .terminateBatch
  else if !src.eventType.isMotion then .terminateBatch
  else if dest.pointerId ≠ src.pointerId then .notBatchable
  else if dest.eventType ≠ src.eventType then .terminateBatch
  else .batched src

structure PenPacket where
  eventType : TouchEvent
  toolType : UInt8
  penButtons : UInt8
  rest : List UInt8
  deriving DecidableEq

def PenPacket.batch (dest src : PenPacket) : BatchResult PenPacket :=
  if !dest.eventType.isMotion then .terminateBatch
  else if dest.eventType ≠ src.eventType then .terminateBatch
  else if dest.penButtons ≠ src.penButtons then .terminateBatch
  else if dest.toolType ≠ src.toolType then .terminateBatch
  else .batched src

structure ControllerTouchPacket where
  controllerNumber : UInt8
  touchpadIndex : UInt8
  eventType : TouchEvent
  pointerId : UInt32
  rest : List UInt8
  deriving DecidableEq

def ControllerTouchPacket.batch (dest src : ControllerTouchPacket) :
    BatchResult ControllerTouchPacket :=
  if !dest.eventType.isMotion then .terminateBatch
  else if dest.controllerNumber ≠ src.controllerNumber then .notBatchable
  else if !src.eventType.isMotion then .terminateBatch
  else if dest.touchpadIndex ≠ src.touchpadIndex then .notBatchable
  else if dest.pointerId ≠ src.pointerId then .notBatchable
  else if dest.eventType ≠ src.eventType then .terminateBatch
  else .batched src

structure ControllerMotionPacket where
  controllerNumber : UInt8
  motionType : UInt8
  rest : List UInt8
  deriving DecidableEq

def ControllerMotionPacket.batch (dest src : ControllerMotionPacket) :
    BatchResult ControllerMotionPacket :=
  if dest.controllerNumber ≠ src.controllerNumber then .notBatchable
  else if dest.motionType ≠ src.motionType then .notBatchable
  else .batched src

inductive Packet where
  | relMouse (packet : RelMouseMovePacket)
  | absMouse (packet : AbsMouseMovePacket)
  | scroll (packet : ScrollPacket)
  | hscroll (packet : HScrollPacket)
  | controller (packet : MultiControllerPacket)
  | touch (packet : TouchPacket)
  | pen (packet : PenPacket)
  | controllerTouch (packet : ControllerTouchPacket)
  | controllerMotion (packet : ControllerMotionPacket)
  /-- The types without a rule, by their magic. -/
  | unbatchable (magic : UInt32) (bytes : List UInt8)
  deriving DecidableEq

namespace Packet

def batch : Packet → Packet → BatchResult Packet
  | .relMouse dest, .relMouse src => (dest.batch src).map .relMouse
  | .absMouse dest, .absMouse src => (dest.batch src).map .absMouse
  | .scroll dest, .scroll src => (dest.batch src).map .scroll
  | .hscroll dest, .hscroll src => (dest.batch src).map .hscroll
  | .controller dest, .controller src => (dest.batch src).map .controller
  | .touch dest, .touch src => (dest.batch src).map .touch
  | .pen dest, .pen src => (dest.batch src).map .pen
  | .controllerTouch dest, .controllerTouch src => (dest.batch src).map .controllerTouch
  | .controllerMotion dest, .controllerMotion src => (dest.batch src).map .controllerMotion
  | _, _ => .terminateBatch

/-- The loop of `passthrough_next_message` along the queue: the packet to send and what
stays queued. -/
def absorb (payload : Packet) : List Packet → Packet × List Packet
  | [] => (payload, [])
  | entry :: queue =>
    match payload.batch entry with
    | .terminateBatch => (payload, entry :: queue)
    | .batched merged => merged.absorb queue
    | .notBatchable => ((payload.absorb queue).1, entry :: (payload.absorb queue).2)

/-- The pairs that the loop hands to `batch`. -/
def comparisons (payload : Packet) : List Packet → List (Packet × Packet)
  | [] => []
  | entry :: queue =>
    (payload, entry) ::
      match payload.batch entry with
      | .terminateBatch => []
      | .batched merged => merged.comparisons queue
      | .notBatchable => payload.comparisons queue

end Packet

/-! ## What the batching is for -/

inductive Lane where
  | relMouse
  | absMouse (width height : Int16)
  | scroll | hscroll
  | controller (number : UInt16)
  | touch (pointerId : UInt32)
  | pen
  | controllerTouch (number touchpad : UInt8) (pointerId : UInt32)
  | controllerMotion (number sensor : UInt8)
  | unbatchable (magic : UInt32)
  deriving DecidableEq

inductive Standing where
  | any
  /-- The connected controllers, the buttons, and the trigger classes at 0 and at `0xF0`. -/
  | controller (mask buttons buttons2 : UInt16) (leftZero rightZero leftFull rightFull : Bool)
  | contact (event : TouchEvent)
  | pen (event : TouchEvent) (tool buttons : UInt8)
  deriving DecidableEq

namespace Packet

def lane : Packet → Lane
  | .relMouse _ => .relMouse
  | .absMouse packet => .absMouse packet.width packet.height
  | .scroll _ => .scroll
  | .hscroll _ => .hscroll
  | .controller packet => .controller packet.controllerNumber
  | .touch packet => .touch packet.pointerId
  | .pen _ => .pen
  | .controllerTouch packet =>
    .controllerTouch packet.controllerNumber packet.touchpadIndex packet.pointerId
  | .controllerMotion packet => .controllerMotion packet.controllerNumber packet.motionType
  | .unbatchable magic _ => .unbatchable magic

def standing : Packet → Standing
  | .controller packet =>
    .controller packet.activeGamepadMask packet.buttonFlags packet.buttonFlags2
      (packet.leftTrigger == 0) (packet.rightTrigger == 0)
      (decide (packet.leftTrigger ≥ 0xF0)) (decide (packet.rightTrigger ≥ 0xF0))
  | .touch packet => .contact packet.eventType
  | .controllerTouch packet => .contact packet.eventType
  | .pen packet => .pen packet.eventType packet.toolType packet.penButtons
  | _ => .any

def isState : Packet → Bool
  | .absMouse _ | .controller _ | .controllerMotion _ => true
  | .touch packet => packet.eventType.isMotion
  | .controllerTouch packet => packet.eventType.isMotion
  | .pen packet => packet.eventType.isMotion
  | _ => false

def isSummed : Packet → Bool
  | .relMouse _ | .scroll _ | .hscroll _ => true
  | _ => false

end Packet

inductive Merges : List Packet → Packet → Prop where
  | single (packet : Packet) : Merges [packet] packet
  /-- The last state stands for the ones before it, if nothing changed unseen. -/
  | state {earlier packet : Packet} {run : List Packet} (hstate : packet.isState)
      (hlane : earlier.lane = packet.lane) (hs : earlier.standing = packet.standing)
      (later : Merges run packet) : Merges (earlier :: run) packet
  | relMouse {total : RelMouseMovePacket} {run : List RelMouseMovePacket} (hrun : run ≠ [])
      (hx : (run.map fun packet => packet.deltaX.toInt).sum = total.deltaX.toInt)
      (hy : (run.map fun packet => packet.deltaY.toInt).sum = total.deltaY.toInt) :
      Merges (run.map .relMouse) (.relMouse total)
  | scroll {total : ScrollPacket} {run : List ScrollPacket} (hrun : run ≠ [])
      (hsum : (run.map fun packet => packet.scrollAmt1.toInt).sum = total.scrollAmt1.toInt) :
      Merges (run.map .scroll) (.scroll total)
  | hscroll {total : HScrollPacket} {run : List HScrollPacket} (hrun : run ≠ [])
      (hsum : (run.map fun packet => packet.scrollAmount.toInt).sum = total.scrollAmount.toInt) :
      Merges (run.map .hscroll) (.hscroll total)

inductive Coalesced : List Packet → List Packet → Prop where
  | nil : Coalesced [] []
  | run {sent : Packet} {taken dispatched run : List Packet} (before : Coalesced taken dispatched)
      (merged : Merges run sent) : Coalesced (taken ++ run) (dispatched ++ [sent])

def fits (sum : Int) : Bool := -2 ^ 15 ≤ sum ∧ sum < 2 ^ 15

namespace Packet

def sumFits : Packet → Packet → Bool
  | .relMouse dest, .relMouse src =>
    fits (dest.deltaX.toInt + src.deltaX.toInt) && fits (dest.deltaY.toInt + src.deltaY.toInt)
  | .scroll dest, .scroll src => fits (dest.scrollAmt1.toInt + src.scrollAmt1.toInt)
  | .hscroll dest, .hscroll src => fits (dest.scrollAmount.toInt + src.scrollAmount.toInt)
  | _, _ => false

def JudgedRight (dest src : Packet) : Prop :=
  dest.isSummed → src.lane = dest.lane →
    ((∃ merged, dest.batch src = .batched merged) ↔ sumFits dest src)

end Packet

/-! ## The pairwise rules -/

lemma addOverflow_eq (a b : Int16) : addOverflow a b = !fits (a.toInt + b.toInt) := by
  have hlow := Int16.le_toInt (a + b)
  have hhigh := Int16.toInt_lt (a + b)
  have hsum : (a + b).toInt = (a.toInt + b.toInt).bmod (2 ^ 16) := Int16.toInt_add a b
  unfold addOverflow fits
  by_cases hfits : -2 ^ 15 ≤ a.toInt + b.toInt ∧ a.toInt + b.toInt < 2 ^ 15
  · have hexact : (a + b).toInt = a.toInt + b.toInt := by
      rw [hsum]
      exact Int.bmod_eq_of_le (by omega) (by omega)
    rw [decide_eq_false (not_not.mpr hexact), decide_eq_true hfits]
    rfl
  · have hwrapped : (a + b).toInt ≠ a.toInt + b.toInt := by
      intro hexact
      exact hfits (by omega)
    rw [decide_eq_true hwrapped, decide_eq_false hfits]
    rfl

/-- What an answer of `batch` says, where the packets do not add up. -/
def Sound (dest src : Packet) : BatchResult Packet → Prop
  | .batched merged =>
    merged = src ∧ src.lane = dest.lane ∧ dest.standing = src.standing ∧ src.isState
  | .notBatchable => src.lane ≠ dest.lane
  | .terminateBatch => True

lemma AbsMouseMovePacket.batch_sound (dest src : AbsMouseMovePacket) :
    Sound (.absMouse dest) (.absMouse src) ((dest.batch src).map .absMouse) := by
  unfold AbsMouseMovePacket.batch
  split_ifs with hsize
  · trivial
  · obtain ⟨hwidth, hheight⟩ := not_or.mp hsize
    exact ⟨rfl, by simp_all [Packet.lane], rfl, rfl⟩

lemma MultiControllerPacket.batch_sound (dest src : MultiControllerPacket) :
    Sound (.controller dest) (.controller src) ((dest.batch src).map .controller) := by
  unfold MultiControllerPacket.batch
  split_ifs with hmask hnumber hedges
  · trivial
  · exact fun hlane => hnumber (by simpa [Packet.lane] using hlane.symm)
  · trivial
  · refine ⟨rfl, ?_, ?_, rfl⟩
    · simp_all [Packet.lane]
    · simp_all [Packet.standing]

lemma TouchPacket.batch_sound (dest src : TouchPacket) :
    Sound (.touch dest) (.touch src) ((dest.batch src).map .touch) := by
  unfold TouchPacket.batch
  split_ifs with hdest hsrc hpointer hevent
  · trivial
  · trivial
  · exact fun hlane => hpointer (by simpa [Packet.lane] using hlane.symm)
  · trivial
  · refine ⟨rfl, ?_, ?_, by simpa [Packet.isState] using hsrc⟩
    · simp_all [Packet.lane]
    · simp_all [Packet.standing]

lemma PenPacket.batch_sound (dest src : PenPacket) :
    Sound (.pen dest) (.pen src) ((dest.batch src).map .pen) := by
  unfold PenPacket.batch
  split_ifs with hdest hevent hbuttons htool
  · trivial
  · trivial
  · trivial
  · trivial
  · refine ⟨rfl, rfl, ?_, ?_⟩
    · simp_all [Packet.standing]
    · simpa [Packet.isState, not_not.mp hevent] using hdest

lemma ControllerTouchPacket.batch_sound (dest src : ControllerTouchPacket) :
    Sound (.controllerTouch dest) (.controllerTouch src)
      ((dest.batch src).map .controllerTouch) := by
  unfold ControllerTouchPacket.batch
  split_ifs with hdest hnumber hsrc hpad hpointer hevent
  · trivial
  · exact fun hlane => hnumber (by simp_all [Packet.lane])
  · trivial
  · exact fun hlane => hpad (by simp_all [Packet.lane])
  · exact fun hlane => hpointer (by simp_all [Packet.lane])
  · trivial
  · refine ⟨rfl, ?_, ?_, by simpa [Packet.isState] using hsrc⟩
    · simp_all [Packet.lane]
    · simp_all [Packet.standing]

lemma ControllerMotionPacket.batch_sound (dest src : ControllerMotionPacket) :
    Sound (.controllerMotion dest) (.controllerMotion src)
      ((dest.batch src).map .controllerMotion) := by
  unfold ControllerMotionPacket.batch
  split_ifs with hnumber hsensor
  · exact fun hlane => hnumber (by simp_all [Packet.lane])
  · exact fun hlane => hsensor (by simp_all [Packet.lane])
  · exact ⟨rfl, by simp_all [Packet.lane], rfl, rfl⟩

lemma Packet.batch_sound {dest : Packet} (hsummed : dest.isSummed = false) (src : Packet) :
    Sound dest src (dest.batch src) := by
  fun_cases Packet.batch dest src with
  | case1 => cases hsummed
  | case2 dest src => exact dest.batch_sound src
  | case3 | case4 => cases hsummed
  | case5 dest src => exact dest.batch_sound src
  | case6 dest src | case7 dest src | case8 dest src | case9 dest src => exact dest.batch_sound src
  | case10 => trivial

/-! ## The packets that add up -/

/-- The pairs that the rules get wrong: the test of the overflow is the wrong way round,
so two amounts of a movement are told apart only if they differ in it. -/
def Packet.misjudged : Packet → Packet → Bool
  | .relMouse dest, .relMouse src =>
    fits (dest.deltaX.toInt + src.deltaX.toInt) == fits (dest.deltaY.toInt + src.deltaY.toInt)
  | .scroll _, .scroll _ | .hscroll _, .hscroll _ => true
  | _, _ => false

lemma RelMouseMovePacket.batch_cases (dest src : RelMouseMovePacket) :
    ((∃ merged, dest.batch src = .batched merged) ∧
        fits (dest.deltaX.toInt + src.deltaX.toInt) = false ∧
        fits (dest.deltaY.toInt + src.deltaY.toInt) = false) ∨ (dest.batch src = .terminateBatch ∧
        (fits (dest.deltaX.toInt + src.deltaX.toInt) = true ∨
          fits (dest.deltaY.toInt + src.deltaY.toInt) = true)) := by
  unfold RelMouseMovePacket.batch
  rw [addOverflow_eq, addOverflow_eq]
  split_ifs with hx hy
  · exact .inr ⟨rfl, .inl (by simpa using hx)⟩
  · exact .inr ⟨rfl, .inr (by simpa using hy)⟩
  · exact .inl ⟨⟨_, rfl⟩, by simpa using hx, by simpa using hy⟩

lemma ScrollPacket.batch_cases (dest src : ScrollPacket) :
    ((∃ merged, dest.batch src = .batched merged) ∧
        fits (dest.scrollAmt1.toInt + src.scrollAmt1.toInt) = false) ∨
      (dest.batch src = .terminateBatch ∧
        fits (dest.scrollAmt1.toInt + src.scrollAmt1.toInt) = true) := by
  unfold ScrollPacket.batch
  rw [addOverflow_eq]
  split_ifs with hfits
  · exact .inr ⟨rfl, by simpa using hfits⟩
  · exact .inl ⟨⟨_, rfl⟩, by simpa using hfits⟩

lemma HScrollPacket.batch_cases (dest src : HScrollPacket) :
    ((∃ merged, dest.batch src = .batched merged) ∧
        fits (dest.scrollAmount.toInt + src.scrollAmount.toInt) = false) ∨
      (dest.batch src = .terminateBatch ∧
        fits (dest.scrollAmount.toInt + src.scrollAmount.toInt) = true) := by
  unfold HScrollPacket.batch
  rw [addOverflow_eq]
  split_ifs with hfits
  · exact .inr ⟨rfl, by simpa using hfits⟩
  · exact .inl ⟨⟨_, rfl⟩, by simpa using hfits⟩

lemma Packet.judgedRight_iff (dest src : Packet) :
    dest.JudgedRight src ↔ dest.misjudged src = false := by
  fun_cases Packet.misjudged dest src with
  | case1 dest src =>
    rcases dest.batch_cases src with ⟨⟨merged, hmerged⟩, hx, hy⟩ | ⟨hend, hfits⟩
    · simp [JudgedRight, isSummed, lane, batch, BatchResult.map, sumFits, hmerged, hx, hy]
    · simp only [JudgedRight, isSummed, lane, batch, BatchResult.map, sumFits, hend]
      rcases hfits with hfits | hfits <;> simp [hfits]
  | case2 dest src | case3 dest src =>
    rcases dest.batch_cases src with ⟨⟨merged, hmerged⟩, hfits⟩ | ⟨hend, hfits⟩
    · simp [JudgedRight, isSummed, lane, batch, BatchResult.map, sumFits, hmerged, hfits]
    · simp [JudgedRight, isSummed, lane, batch, BatchResult.map, sumFits, hend, hfits]
  | case4 dest src hrel hscroll hhscroll =>
    refine iff_of_true (fun hsummed hlane => ?_) rfl
    cases dest <;> cases src <;> simp_all [isSummed, lane]

lemma Packet.batch_terminates {dest src : Packet} (hsummed : dest.isSummed)
    (hright : dest.misjudged src = false) : dest.batch src = .terminateBatch := by
  fun_cases Packet.batch dest src with
  | case1 dest src =>
    rcases dest.batch_cases src with ⟨-, hx, hy⟩ | ⟨hend, -⟩
    · simp [misjudged, hx, hy] at hright
    · rw [hend]
      rfl
  | case2 => cases hsummed
  | case3 | case4 => cases hright
  | case5 | case6 | case7 | case8 | case9 => cases hsummed
  | case10 => rfl

end Vibeshine.Input.Batching
