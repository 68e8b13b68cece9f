import Vibeshine.Library.Delayed
import Vibeshine.Library.System
import Mathlib

/-! # Controller slots

The tasks of the single input worker that touch the controllers: arrivals, state packets,
Steam attributes, the bound guide key, the Back timer, and the end of a client. A client
has sixteen slots, and the host sixteen ids for the slots of all clients.
-/

namespace Vibeshine.Input.Controllers

open Library

def maxGamepads : Nat := 16

/-- `LI_CTYPE_STEAM` and `LI_CCAP_STEAM_ATTRIBUTES`, whose values the protocol fixes. -/
structure SteamCodes where
  ctype : Nat
  attributesBit : Nat
  deriving DecidableEq

inductive ButtonState where
  | none | up | down
  deriving DecidableEq

structure GamepadState where
  buttonFlags : Nat := 0
  lt : Nat := 0
  rt : Nat := 0
  lsX : Int := 0
  lsY : Int := 0
  rsX : Int := 0
  rsY : Int := 0
  deriving DecidableEq

/-- Attributes of a Steam controller: the slot they name, and what the client read. -/
structure SteamAttributes where
  globalIndex : Int
  clientRelativeIndex : Nat
  payload : List Nat
  deriving DecidableEq

structure Gamepad where
  gamepadState : GamepadState := {}
  guideKeyDown : Bool := false
  backTimeoutId : Option Nat := none
  id : Int := -1
  allocFailed : Bool := false
  arrivalType : Nat := 0
  arrivalCapabilities : Nat := 0
  pendingSteamAttributes : Option SteamAttributes := none
  backButtonState : ButtonState := .none
  /-- The arrival that allocated the slot, with the type and the capabilities it gave. -/
  announced : Option (Nat × Nat) := none
  deriving DecidableEq

inductive Call where
  | alloc (id : Int) (failed : Bool)
  | free (id : Int)
  | update (id : Int) (state : GamepadState)
  /-- `gamepad_attributes`, with the arrival of the slot. -/
  | attributes (attributes : SteamAttributes) (announced : Option (Nat × Nat))
  deriving DecidableEq

/-- The other fields of `input_t` that the controllers use. -/
structure Client where
  guideKeyPressed : Bool := false
  /-- The reset task of the client has run. -/
  closed : Bool := false
  destroyed : Bool := false
  deriving DecidableEq

structure Config where
  controller : Bool := true
  keyboard : Bool := true
  backButtonTimeout : Int := -1
  deriving DecidableEq

structure State (ι : Type) where
  config : Config := {}
  gamepadMask : Int → Bool := fun _ => false
  clients : ι → Client := fun _ => {}
  /-- `input->gamepads`. -/
  gamepads : ι × Nat → Gamepad := fun _ => {}
  /-- The bits of `input->allocated_gamepads`. -/
  allocatedGamepads : ι × Nat → Bool := fun _ => false
  /-- The Back timers in the pool, each with its slot. -/
  timers : List (Nat × (ι × Nat)) := []
  pushes : Nat := 0
  /-- The ids whose free was pushed by a destructor. -/
  queuedFrees : List Int := []
  /-- The calls of the platform, last one first. -/
  calls : List Call := []

/-- `platf::BACK & flags`. -/
def back (flags : Nat) : Bool := flags.testBit 5

def BACK : Nat := 0x20

def HOME : Nat := 0x400

/-- `flags & ~bit`. -/
def clearFlag (flags bit : Nat) : Nat := flags ^^^ (flags &&& bit)

/-- A state packet. -/
structure ControllerPacket where
  controllerNumber : Int
  activeGamepadMask : Nat
  buttonFlags : Nat := 0
  buttonFlags2 : Nat := 0
  leftTrigger : Nat := 0
  rightTrigger : Nat := 0
  leftStickX : Int := 0
  leftStickY : Int := 0
  rightStickX : Int := 0
  rightStickY : Int := 0
  deriving DecidableEq

namespace State

variable {ι : Type}

def call (state : State ι) (call : Call) : State ι := { state with calls := call :: state.calls }

/-- The id that `alloc_id` takes. -/
def freeId? (state : State ι) : Option Nat :=
  (List.range maxGamepads).find? fun id => !state.gamepadMask id

def freeGamepad (state : State ι) (id : Int) : State ι :=
  let freed := (state.call (.update id {})).call (.free id)
  { freed with gamepadMask := Function.update freed.gamepadMask id false }

variable [DecidableEq ι]

def setGamepad (state : State ι) (slot : ι × Nat) (gamepad : Gamepad) : State ι :=
  { state with gamepads := Function.update state.gamepads slot gamepad }

def setAllocated (state : State ι) (slot : ι × Nat) (allocated : Bool) : State ι :=
  { state with allocatedGamepads := Function.update state.allocatedGamepads slot allocated }

def sendGamepadState (state : State ι) (gamepad : Gamepad) : State ι :=
  state.call (.update gamepad.id
    { gamepad.gamepadState with
      buttonFlags :=
        if gamepad.guideKeyDown then gamepad.gamepadState.buttonFlags ||| HOME
        else gamepad.gamepadState.buttonFlags })

def cancelBack (state : State ι) (slot : ι × Nat) : State ι :=
  let gamepad := state.gamepads slot
  { state.setGamepad slot { gamepad with backTimeoutId := none } with
    timers := state.timers.filter fun timer => some timer.1 ≠ gamepad.backTimeoutId }

def pushBack (state : State ι) (slot : ι × Nat) : State ι :=
  { state.setGamepad slot { state.gamepads slot with backTimeoutId := some state.pushes } with
    timers := (state.pushes, slot) :: state.timers
    pushes := state.pushes + 1 }

def resetGamepad (state : State ι) (slot : ι × Nat) : State ι :=
  let cancelled := state.cancelBack slot
  let id := (state.gamepads slot).id
  let freed := if 0 ≤ id then cancelled.freeGamepad id else cancelled
  freed.setGamepad slot {}

def forwardSteamAttributes (state : State ι) (steam : SteamCodes) (gamepad : Gamepad)
    (attributes : SteamAttributes) : State ι :=
  if gamepad.arrivalType ≠ steam.ctype ∨
      gamepad.arrivalCapabilities.testBit steam.attributesBit = false then state
  else state.call (.attributes { attributes with globalIndex := gamepad.id } gamepad.announced)

/-- An attempt to allocate a slot, whose arrival is recorded; whether the platform fails is
for the platform to say. -/
def allocate (state : State ι) (slot : ι × Nat) (announced : Option (Nat × Nat))
    (failed : Bool) : State ι :=
  let gamepad := state.gamepads slot
  let refused := { gamepad with allocFailed := true, pendingSteamAttributes := none }
  match state.freeId? with
  | none => state.setGamepad slot refused
  | some id =>
    let asked := { state with gamepadMask := Function.update state.gamepadMask id true }.call
      (.alloc id failed)
    if failed then
      { asked with gamepadMask := Function.update asked.gamepadMask id false }.setGamepad slot
        refused
    else (asked.setGamepad slot { gamepad with id, announced }).setAllocated slot true

def slot? (client : ι) (controllerNumber : Int) : Option (ι × Nat) :=
  if controllerNumber < 0 ∨ (maxGamepads : Int) ≤ controllerNumber then none
  else some (client, controllerNumber.toNat)

/-- `passthrough` of an arrival. -/
def passthroughArrival (state : State ι) (steam : SteamCodes) (client : ι)
    (controllerNumber : Int) (type capabilities : Nat) (failed : Bool) : State ι :=
  if ¬state.config.controller then state
  else
    match slot? client controllerNumber with
    | none => state
    | some slot =>
      let gamepad := state.gamepads slot
      if 0 ≤ gamepad.id then state
      else
        let announced := state.setGamepad slot
          { gamepad with
            allocFailed := false, arrivalType := type, arrivalCapabilities := capabilities }
        let allocated := announced.allocate slot (some (type, capabilities)) failed
        let gamepad := allocated.gamepads slot
        match gamepad.pendingSteamAttributes with
        | none => allocated
        | some attributes =>
          (allocated.setGamepad slot
            { gamepad with pendingSteamAttributes := none }).forwardSteamAttributes steam
              gamepad attributes

/-- `passthrough` of Steam attributes. -/
def passthroughSteamAttributes (state : State ι) (steam : SteamCodes) (client : ι)
    (controllerNumber : Nat) (payload : List Nat) : State ι :=
  if ¬state.config.controller then state
  else
    match slot? client controllerNumber with
    | none => state
    | some slot =>
      let gamepad := state.gamepads slot
      let attributes : SteamAttributes := ⟨gamepad.id, controllerNumber, payload⟩
      if gamepad.id < 0 then
        if gamepad.allocFailed then state
        else state.setGamepad slot { gamepad with pendingSteamAttributes := some attributes }
      else state.forwardSteamAttributes steam gamepad attributes

def retireAbsent (client : ι) (activeGamepadMask : Nat) (state : State ι) (number : Nat) :
    State ι :=
  let gamepad := state.gamepads (client, number)
  if activeGamepadMask.testBit number = false ∧
      (0 ≤ gamepad.id ∨ gamepad.backTimeoutId.isSome ∨ gamepad.allocFailed ∨
        gamepad.pendingSteamAttributes.isSome) then
    (state.resetGamepad (client, number)).setAllocated (client, number) false
  else state

def packetState (packet : ControllerPacket) (forced : ButtonState) : GamepadState × ButtonState :=
  let flags := packet.buttonFlags % 2 ^ 16 ||| (packet.buttonFlags2 % 2 ^ 16) <<< 16
  let state : GamepadState :=
    { buttonFlags := flags, lt := packet.leftTrigger, rt := packet.rightTrigger,
      lsX := packet.leftStickX, lsY := packet.leftStickY, rsX := packet.rightStickX,
      rsY := packet.rightStickY }
  match forced with
  | .up =>
    ({ state with buttonFlags := clearFlag flags BACK }, if back flags then .up else .none)
  | .down =>
    ({ state with buttonFlags := flags ||| BACK }, if back flags then .none else .down)
  | .none => (state, .none)

def applyState (state : State ι) (slot : ι × Nat) (packet : ControllerPacket) : State ι :=
  let gamepad := state.gamepads slot
  let (gamepadState, backButtonState) := packetState packet gamepad.backButtonState
  let forced := state.setGamepad slot { gamepad with backButtonState }
  let changed := back (gamepadState.buttonFlags ^^^ gamepad.gamepadState.buttonFlags)
  let timed :=
    if changed then
      if back gamepadState.buttonFlags then
        if 0 ≤ state.config.backButtonTimeout then forced.pushBack slot else forced
      else if gamepad.backTimeoutId.isSome then forced.cancelBack slot else forced
    else forced
  let updated := { timed.gamepads slot with gamepadState }
  (timed.setGamepad slot updated).sendGamepadState updated

/-- `passthrough` of a state packet. -/
def passthroughController (state : State ι) (client : ι) (packet : ControllerPacket)
    (failed : Bool) : State ι :=
  match slot? client packet.controllerNumber with
  | none => state
  | some slot =>
    let retired := (List.range maxGamepads).foldl
      (retireAbsent client packet.activeGamepadMask) state
    if ¬retired.config.controller then retired
    else
      let gamepad := retired.gamepads slot
      let allocated :=
        if packet.activeGamepadMask.testBit slot.2 ∧ gamepad.id < 0 ∧ ¬gamepad.allocFailed then
          retired.allocate slot none failed
        else retired
      if (allocated.gamepads slot).id < 0 then allocated else allocated.applyState slot packet

def forceBack (gamepad : Gamepad) (flags : Nat) : Gamepad :=
  { gamepad with
    backButtonState := .up, gamepadState := { gamepad.gamepadState with buttonFlags := flags } }

def backTimer (state : State ι) (slot : ι × Nat) : State ι :=
  let gamepad := state.gamepads slot
  let flags := clearFlag gamepad.gamepadState.buttonFlags BACK
  let home := flags ||| HOME
  let released := clearFlag home HOME
  let sent := ((state.sendGamepadState (forceBack gamepad flags)).sendGamepadState
    (forceBack gamepad home)).sendGamepadState (forceBack gamepad released)
  sent.setGamepad slot { forceBack gamepad released with backTimeoutId := none }

def setClient (state : State ι) (client : ι) (input : Client) : State ι :=
  { state with clients := Function.update state.clients client input }

/-- `passthrough_guide_key`, of a packet of the bound key. -/
def passthroughGuideKey (state : State ι) (guideButtonController : Int) (client : ι)
    (release : Bool) : State ι :=
  if (state.clients client).guideKeyPressed = !release then state
  else
    let latched := state.setClient client
      { state.clients client with guideKeyPressed := !release }
    match slot? client guideButtonController with
    | none => latched
    | some slot =>
      let gamepad := latched.gamepads slot
      if release then
        if gamepad.guideKeyDown then
          let up := { gamepad with guideKeyDown := false }
          (latched.setGamepad slot up).sendGamepadState up
        else latched
      else if latched.config.keyboard ∧ latched.config.controller ∧ 0 ≤ gamepad.id then
        let down := { gamepad with guideKeyDown := true }
        (latched.setGamepad slot down).sendGamepadState down
      else latched

/-- The task that `reset` pushes. -/
def reset (state : State ι) (client : ι) : State ι :=
  let released := (List.range maxGamepads).foldl
    (fun state number =>
      (state.resetGamepad (client, number)).setAllocated (client, number) false)
    state
  released.setClient client { guideKeyPressed := false, closed := true }

def abandon (client : ι) (state : State ι) (number : Nat) : State ι :=
  let gamepad := state.gamepads (client, number)
  let pushed :=
    if 0 ≤ gamepad.id then { state with queuedFrees := state.queuedFrees ++ [gamepad.id] } else state
  (pushed.setGamepad (client, number) {}).setAllocated (client, number) false

/-- The destructor of `input_t`. -/
def destroy (state : State ι) (client : ι) : State ι :=
  let abandoned := (List.range maxGamepads).foldl (abandon client) state
  abandoned.setClient client { abandoned.clients client with destroyed := true }

end State

inductive Task (ι : Type) where
  | arrival (client : ι) (controllerNumber : Int) (type capabilities : Nat) (failed : Bool)
  | steamAttributes (client : ι) (controllerNumber : Nat) (payload : List Nat)
  | controller (client : ι) (packet : ControllerPacket) (failed : Bool)
  | guideKey (client : ι) (release : Bool)
  /-- The pool hands out a Back timer. -/
  | backTimer (task : Nat) (slot : ι × Nat)
  /-- The pool hands out the free that a destructor pushed. -/
  | queuedFree (id : Int)
  | configure (config : Config)
  | reset (client : ι)
  | destroy (client : ι)
  deriving DecidableEq

variable {ι : Type} [DecidableEq ι]

def State.Open (state : State ι) (client : ι) : Prop :=
  (state.clients client).closed = false ∧ (state.clients client).destroyed = false

def admits (state : State ι) : Task ι → Prop
  | .arrival client _ _ _ _ => state.Open client
  | .steamAttributes client _ _ => state.Open client
  | .controller client _ _ => state.Open client
  | .guideKey client _ => state.Open client
  | .backTimer task slot => (task, slot) ∈ state.timers
  | .queuedFree id => id ∈ state.queuedFrees
  | .configure _ => True
  | .reset client => state.Open client
  | .destroy client =>
    (state.clients client).destroyed = false ∧ ∀ timer ∈ state.timers, timer.2.1 ≠ client

def step (steam : SteamCodes) (guideButtonController : ι → Int) (state : State ι) : Task ι → State ι
  | .arrival client controllerNumber type capabilities failed =>
    state.passthroughArrival steam client controllerNumber type capabilities failed
  | .steamAttributes client controllerNumber payload =>
    state.passthroughSteamAttributes steam client controllerNumber payload
  | .controller client packet failed => state.passthroughController client packet failed
  | .guideKey client release =>
    state.passthroughGuideKey (guideButtonController client) client release
  | .backTimer task slot =>
    State.backTimer { state with timers := state.timers.erase (task, slot) } slot
  | .queuedFree id =>
    State.freeGamepad { state with queuedFrees := state.queuedFrees.erase id } id
  | .configure config => { state with config }
  | .reset client => state.reset client
  | .destroy client => state.destroy client

def worker (steam : SteamCodes) (guideButtonController : ι → Int) : System (State ι) (Task ι) where
  init := {}
  admits := admits
  step := step steam guideButtonController

instance (steam : SteamCodes) (guideButtonController : ι → Int) (state : State ι) :
    ∀ task, Decidable ((worker steam guideButtonController).admits state task)
  | .arrival _ _ _ _ _ | .steamAttributes _ _ _ | .controller _ _ _ | .guideKey _ _ | .reset _ =>
    inferInstanceAs (Decidable (_ ∧ _))
  | .backTimer _ _ | .queuedFree _ => inferInstanceAs (Decidable (_ ∈ _))
  | .configure _ => .isTrue trivial
  | .destroy _ => inferInstanceAs (Decidable (_ ∧ ∀ timer ∈ _, _))

end Vibeshine.Input.Controllers
