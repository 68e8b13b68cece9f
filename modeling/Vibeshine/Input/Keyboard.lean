import Vibeshine.Library.Delayed
import Vibeshine.Library.System
import Mathlib.Algebra.BigOperators.Group.Finset.Basic
import Mathlib.Data.Fintype.Basic

/-! # The keyboard shared by several clients

The tasks of the single input worker that touch the keyboard of the host: key packets,
the repeat timer, and the reset of a client. Every task is one step. Key codes, flags and
modifier bytes are natural numbers, reduced where the source narrows them.
-/

namespace Vibeshine.Input.Keyboard

open Library

inductive Modifier where
  | shift | ctrl | alt
  deriving DecidableEq

namespace Modifier

def mask : Modifier → Nat
  | shift => 1
  | ctrl => 2
  | alt => 4

/-- The bit of `shortcutFlags`. -/
def shortcut : Modifier → Nat
  | ctrl => 1
  | alt => 2
  | shift => 4

def generic : Modifier → Nat
  | shift => 0x10
  | ctrl => 0x11
  | alt => 0x12

def left : Modifier → Nat
  | shift => 0xA0
  | ctrl => 0xA2
  | alt => 0xA4

def right : Modifier → Nat
  | shift => 0xA1
  | ctrl => 0xA3
  | alt => 0xA5

def names (modifier : Modifier) (key : Nat) : Bool :=
  key = modifier.generic ∨ key = modifier.left ∨ key = modifier.right

end Modifier

def modifiers : List Modifier := [.shift, .ctrl, .alt]

/-- `input_t::SHORTCUT`. -/
def shortcutAll : Nat := 7

def updateShortcutFlags (flags key : Nat) (release : Bool) : Nat :=
  match modifiers.find? fun modifier => modifier.names key with
  | none => flags
  | some modifier =>
    if release then flags ^^^ (flags &&& modifier.shortcut) else flags ||| modifier.shortcut

def isModifier (key : Nat) : Bool := modifiers.any fun modifier => modifier.names key

/-- `host_keycode`: a generic modifier is its left one. -/
def hostKeycode (key : Nat) : Nat :=
  if key = Modifier.shift.generic then Modifier.shift.left
  else if key = Modifier.ctrl.generic then Modifier.ctrl.left
  else if key = Modifier.alt.generic then Modifier.alt.left
  else key

/-- `apply_shortcut`, as far as its answer goes. -/
def applyShortcut (key : Nat) : Bool := (0x70 ≤ key ∧ key ≤ 0x7C) ∨ key = 0x4E

/-! ## State -/

structure HeldKey where
  hostKey : Nat
  flags : Nat
  modifiers : Nat
  deriving DecidableEq

structure HostKey where
  owners : Nat := 0
  key : Nat := 0
  flags : Nat := 0
  deriving DecidableEq

/-- The fields of `input_t` that the keyboard uses. -/
structure Client where
  shortcutFlags : Nat := 0
  keys : List (Nat × HeldKey) := []
  keyPressRepeatId : Option Nat := none
  repeatingKey : Nat := 0
  guideKeyPressed : Bool := false
  /-- The reset task of the client has run. -/
  closed : Bool := false
  deriving DecidableEq

/-- `config::input`, as far as the keyboard goes. -/
structure Config where
  keyboard : Bool := true
  keybindings : Int → Option Int := fun _ => none
  keyRepeatDelay : Int := 500

/-- A call of `platf::keyboard_update`. -/
structure Event where
  key : Nat
  release : Bool
  flags : Nat
  /-- The call injects a modifier. -/
  synthetic : Bool := false
  /-- The injected modifier is held on the host at the time of the call. -/
  shadowed : Bool := false
  deriving DecidableEq

structure State (ι : Type) where
  config : Config := {}
  hostKeys : Nat → Option HostKey := fun _ => none
  clients : ι → Client := fun _ => {}
  /-- The repeat tasks in the pool, each with its client and its key. -/
  timers : List (Nat × (ι × Nat)) := []
  pushes : Nat := 0
  /-- The calls of `keyboard_update`, last one first. -/
  hostEvents : List Event := []

/-- `input->keys.find`. -/
def Client.find? (client : Client) (code : Nat) : Option HeldKey :=
  (client.keys.find? fun entry => entry.1 = code).map Prod.snd

variable (client : Client)

def Client.refreshShortcutFlags : Client :=
  { client with
    shortcutFlags := client.keys.foldl (fun flags entry => updateShortcutFlags flags entry.1 false) 0 }

/-- `keys.emplace` of a key that is not held. -/
def Client.emplace (code : Nat) (held : HeldKey) : Client :=
  { client with keys := client.keys ++ [(code, held)] }

def Client.setRepeating (code : Nat) : Client :=
  { client with repeatingKey := code }

namespace State

variable {ι : Type}

def contains (state : State ι) (key : Nat) : Bool := (state.hostKeys key).isSome

def holdsModifier (state : State ι) (modifier : Modifier) : Bool :=
  state.contains modifier.left || state.contains modifier.right

def keyboardUpdate (state : State ι) (key : Nat) (release : Bool) (flags : Nat) : State ι :=
  { state with hostEvents := { key, release, flags } :: state.hostEvents }

def injectUpdate (state : State ι) (flags : Nat) (release : Bool) (modifier : Modifier) : State ι :=
  { state with
    hostEvents :=
      { key := modifier.generic, release, flags, synthetic := true,
        shadowed := state.holdsModifier modifier } :: state.hostEvents }

/-- The condition of `inject`. The calls before it leave the host keys alone. -/
def injects (state : State ι) (key : HeldKey) (shortcutFlags : Nat) (modifier : Modifier) : Bool :=
  key.modifiers &&& modifier.mask ≠ 0 ∧ shortcutFlags &&& modifier.shortcut = 0 ∧
    state.contains modifier.left = false ∧ state.contains modifier.right = false

def sendKeyAndModifiers (state : State ι) (key : HeldKey) (shortcutFlags : Nat) : State ι :=
  let synthetic := modifiers.filter (state.injects key shortcutFlags)
  let pressed := synthetic.foldl (fun state => state.injectUpdate key.flags false) state
  let sent := pressed.keyboardUpdate key.hostKey false key.flags
  synthetic.foldl (fun state => state.injectUpdate key.flags true) sent

def setHostKey (state : State ι) (code : Nat) (host : Option HostKey) : State ι :=
  { state with hostKeys := Function.update state.hostKeys code host }

def releaseKey (state : State ι) (key : HeldKey) : State ι :=
  let code := hostKeycode key.hostKey
  match state.hostKeys code with
  | none => state
  | some host =>
    if host.owners - 1 = 0 then
      (state.keyboardUpdate host.key true host.flags).setHostKey code none
    else state.setHostKey code (some { host with owners := host.owners - 1 })

def pressKey (state : State ι) (held : HeldKey) (shortcutFlags : Nat) : State ι :=
  let code := hostKeycode held.hostKey
  match state.hostKeys code with
  | none =>
    (state.setHostKey code
      (some { owners := 1, key := held.hostKey, flags := held.flags })).sendKeyAndModifiers
        held shortcutFlags
  | some host => state.setHostKey code (some { host with owners := host.owners + 1 })

variable [DecidableEq ι]

def setClient (state : State ι) (client : ι) (input : Client) : State ι :=
  { state with clients := Function.update state.clients client input }

/-- `task_pool.cancel(input->key_press_repeat_id)` with the handle cleared. -/
def cancelRepeat (state : State ι) (client : ι) : State ι :=
  let input := state.clients client
  { state.setClient client { input with keyPressRepeatId := none } with
    timers := state.timers.filter fun timer => some timer.1 ≠ input.keyPressRepeatId }

/-- `input->key_press_repeat_id = task_pool.pushDelayed(repeat_key, …)`. -/
def pushRepeat (state : State ι) (client : ι) (code : Nat) : State ι :=
  { state.setClient client
      { state.clients client with keyPressRepeatId := some state.pushes } with
    timers := (state.pushes, client, code) :: state.timers
    pushes := state.pushes + 1 }

/-- `repeat_key`, or nothing where the lookup in `host_keys` throws. Whether the platform
repeats the key by itself is for the platform to say. -/
def repeatKey (state : State ι) (client : ι) (code : Nat) (nativeRepeat : Bool) :
    Option (State ι) :=
  let input := state.clients client
  match input.find? code with
  | none => some (state.setClient client { input with keyPressRepeatId := none })
  | some held =>
    match state.hostKeys (hostKeycode held.hostKey) with
    | none => none
    | some host =>
      let held := { held with hostKey := host.key, flags := host.flags }
      let sent :=
        if nativeRepeat then state else state.sendKeyAndModifiers held input.shortcutFlags
      some (sent.pushRepeat client code)

/-- A key packet, without the type of its header. -/
structure Packet where
  release : Bool
  keyCode : Int
  flags : Nat := 0
  modifiers : Nat := 0
  deriving DecidableEq

/-- `passthrough_guide_key`, as far as the keyboard goes: whether the key is consumed. -/
def passthroughGuideKey (state : State ι) (guideButtonKey : Int) (client : ι) (code : Nat)
    (release : Bool) : Option (State ι) :=
  if guideButtonKey = 0 ∨ code ≠ guideButtonKey then none
  else some (state.setClient client { state.clients client with guideKeyPressed := !release })

def keyUp (state : State ι) (client : ι) (code : Nat) : State ι :=
  match (state.clients client).find? code with
  | none => state
  | some held =>
    let cancelled :=
      if (state.clients client).repeatingKey = code then state.cancelRepeat client else state
    let released := cancelled.releaseKey held
    let input := released.clients client
    released.setClient client
      { input with keys := input.keys.filter fun entry => entry.1 ≠ code }.refreshShortcutFlags

def syntheticModifiers (code modifierByte consumed : Nat) : Nat :=
  if isModifier code then 0
  else
    ((modifiers.filter fun modifier =>
      modifierByte &&& modifier.mask ≠ 0 ∧ consumed &&& modifier.shortcut = 0).map
        Modifier.mask).foldl (· ||| ·) 0

/-- `map_keycode`, narrowed to 16 bits. -/
def mapKeycode (config : Config) (code : Nat) : Nat :=
  ((config.keybindings code).getD code % 65536).toNat

def keyDown (state : State ι) (guideButtonKey : Int) (client : ι) (code : Nat) (packet : Packet)
    (nativeRepeat : Bool) : State ι :=
  let input := state.clients client
  let consumed :=
    if input.guideKeyPressed then updateShortcutFlags input.shortcutFlags guideButtonKey.toNat false
    else input.shortcutFlags
  let held : HeldKey :=
    { hostKey := mapKeycode state.config code, flags := packet.flags % 256,
      modifiers := syntheticModifiers code packet.modifiers consumed }
  let kept := state.setClient client (input.emplace code held)
  let pressed := kept.pressKey held input.shortcutFlags
  let refreshed := pressed.setClient client (pressed.clients client).refreshShortcutFlags
  let cancelled := refreshed.cancelRepeat client
  let marked := cancelled.setClient client ((cancelled.clients client).setRepeating code)
  if ¬nativeRepeat ∧ 0 < state.config.keyRepeatDelay then marked.pushRepeat client code else marked

/-- `passthrough` of a key packet. -/
def passthroughKey (state : State ι) (guideButtonKey : Int) (client : ι) (packet : Packet)
    (nativeRepeat : Bool) : State ι :=
  let code := (packet.keyCode % 256).toNat
  match state.passthroughGuideKey guideButtonKey client code packet.release with
  | some consumed => consumed
  | none =>
    if packet.release then state.keyUp client code
    else if ¬state.config.keyboard ∨ ((state.clients client).find? code).isSome then state
    else if (state.clients client).shortcutFlags = shortcutAll ∧ applyShortcut code then state
    else state.keyDown guideButtonKey client code packet nativeRepeat

/-- The task that `reset` pushes, which releases the keys in the order of the table. The
packets of the client end with it. -/
def reset (state : State ι) (client : ι) (order : List (Nat × HeldKey)) : State ι :=
  let released := order.foldl (fun state entry => state.releaseKey entry.2)
    (state.cancelRepeat client)
  released.setClient client
    { released.clients client with
      keys := [], shortcutFlags := 0, guideKeyPressed := false, closed := true }

end State

inductive Task (ι : Type) where
  | key (client : ι) (packet : State.Packet) (nativeRepeat : Bool)
  /-- The pool hands out a repeat task. -/
  | repeat (task : Nat) (client : ι) (code : Nat) (nativeRepeat : Bool)
  | configure (config : Config)
  | reset (client : ι) (order : List (Nat × HeldKey))

variable {ι : Type} [DecidableEq ι]

def admits (state : State ι) : Task ι → Prop
  | .key client _ _ => (state.clients client).closed = false
  | .repeat task client code _ => (task, client, code) ∈ state.timers
  | .configure _ => True
  | .reset client order =>
    (state.clients client).closed = false ∧ order.Perm (state.clients client).keys

def step (guideButtonKey : ι → Int) (state : State ι) : Task ι → State ι
  | .key client packet nativeRepeat =>
    state.passthroughKey (guideButtonKey client) client packet nativeRepeat
  | .repeat task client code nativeRepeat =>
    let fired := { state with timers := state.timers.erase (task, client, code) }
    (fired.repeatKey client code nativeRepeat).getD fired
  | .configure config => { state with config }
  | .reset client order => state.reset client order

/-- The input worker, as far as the keyboard goes. Each client has the guide key that its
session was launched with. -/
def worker (guideButtonKey : ι → Int) : System (State ι) (Task ι) where
  init := {}
  admits := admits
  step := step guideButtonKey

instance (guideButtonKey : ι → Int) (state : State ι) :
    ∀ task, Decidable ((worker guideButtonKey).admits state task)
  | .key _ _ _ => inferInstanceAs (Decidable (_ = false))
  | .repeat _ _ _ _ => inferInstanceAs (Decidable (_ ∈ _))
  | .configure _ => .isTrue trivial
  | .reset _ _ => inferInstanceAs (Decidable (_ ∧ List.Perm _ _))

end Vibeshine.Input.Keyboard
