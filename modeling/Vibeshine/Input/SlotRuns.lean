import Vibeshine.Input.Slots

/-! # Runs of the controllers

Each task of the input worker keeps the accounts of the ids, and the Back timers and the
guide key to slots that have one.
-/

namespace Vibeshine.Input.Controllers

open Library Function State

variable {ι : Type} {steam : SteamCodes} {state : State ι}

/-- What is recorded of a slot: a Back timer or a held guide key needs an id, and what the
slot was announced as is what its own arrival said, or nothing. -/
structure Sound (gamepad : Gamepad) : Prop where
  valid : -1 ≤ gamepad.id
  timer : gamepad.backTimeoutId ≠ none →
    0 ≤ gamepad.id ∧ back gamepad.gamepadState.buttonFlags = true
  guide : gamepad.guideKeyDown = true → 0 ≤ gamepad.id
  arrived : 0 ≤ gamepad.id →
    (gamepad.arrivalType, gamepad.arrivalCapabilities) = gamepad.announced.getD (0, 0)
  unannounced : gamepad.id < 0 → gamepad.allocFailed = false →
    gamepad.arrivalType = 0 ∧ gamepad.arrivalCapabilities = 0

lemma Sound.initial : Sound {} := by
  constructor <;> simp

/-- What holds between two tasks of the worker. -/
structure Invariant (steam : SteamCodes) (state : State ι) : Prop where
  accounts : Accounts steam (fun slot => (state.gamepads slot).id) state.gamepadMask
    state.queuedFrees state.calls
  slots : ∀ slot, Sound (state.gamepads slot)
  bits : ∀ slot, state.allocatedGamepads slot = true ↔ 0 ≤ (state.gamepads slot).id
  timed : Handles id state.timers state.pushes fun slot => (state.gamepads slot).backTimeoutId
  range : ∀ slot, maxGamepads ≤ slot.2 → state.gamepads slot = {}
  gone : ∀ client, (state.clients client).destroyed = true →
    ∀ number, (state.gamepads (client, number)).id < 0

lemma Invariant.initial (steam : SteamCodes) : Invariant steam ({} : State ι) where
  accounts := Accounts.initial steam
  slots := fun _ => Sound.initial
  bits := by simp
  timed := Handles.initial id
  range := by simp
  gone := by simp

variable [DecidableEq ι]

/-! ## One slot -/

section

variable (h : Invariant steam state)

include h

lemma Invariant.replace {slot : ι × Nat} (hslot : slot.2 < maxGamepads)
    {gamepad : Gamepad} (hid : gamepad.id = (state.gamepads slot).id) (hsound : Sound gamepad)
    {timers : List (Nat × (ι × Nat))} {pushes : Nat} (htimed : Handles id timers pushes
      (Function.update (fun slot => (state.gamepads slot).backTimeoutId) slot
        gamepad.backTimeoutId)) : Invariant steam
      { state with gamepads := Function.update state.gamepads slot gamepad, timers, pushes } := by
  have hids : ∀ other, (Function.update state.gamepads slot gamepad other).id =
      (state.gamepads other).id := by
    intro other
    by_cases hsame : other = slot <;> simp [hsame, hid]
  refine ⟨?_, ?_, ?_, ?_, ?_, ?_⟩
  · simpa only [hids] using h.accounts
  · intro other
    by_cases hsame : other = slot
    · simpa [hsame] using hsound
    · simpa [hsame] using h.slots other
  · intro other
    rw [hids]
    exact h.bits other
  · refine htimed.congr fun other => ?_
    by_cases hsame : other = slot <;> simp [hsame]
  · intro other hother
    have hne : other ≠ slot := fun heq => by
      rw [heq] at hother
      omega
    simpa [hne] using h.range other hother
  · intro client hdestroyed number
    rw [hids]
    exact h.gone client hdestroyed number

lemma Invariant.setGamepad {slot : ι × Nat}
    (hslot : slot.2 < maxGamepads) {gamepad : Gamepad} (hid : gamepad.id = (state.gamepads slot).id)
    (htimer : gamepad.backTimeoutId = (state.gamepads slot).backTimeoutId)
    (hsound : Sound gamepad) : Invariant steam (state.setGamepad slot gamepad) := by
  refine h.replace hslot hid hsound (h.timed.congr fun other => ?_)
  by_cases hsame : other = slot <;> simp [hsame, htimer]

omit [DecidableEq ι] in
lemma Invariant.send (slot : ι × Nat) {gamepad : Gamepad}
    (hid : gamepad.id = (state.gamepads slot).id) (hallocated : 0 ≤ gamepad.id) :
    Invariant steam (state.sendGamepadState gamepad) := by
  have hheld : 0 ≤ (state.gamepads slot).id := hid ▸ hallocated
  refine ⟨?_, h.slots, h.bits, h.timed, h.range, h.gone⟩
  unfold sendGamepadState call
  rw [hid]
  exact h.accounts.send hheld _

omit [DecidableEq ι] in
lemma Invariant.setConfig (config : Config) : Invariant steam { state with config } :=
  ⟨h.accounts, h.slots, h.bits, h.timed, h.range, h.gone⟩

lemma Invariant.resetSlot (slot : ι × Nat) :
    Invariant steam ((state.resetGamepad slot).setAllocated slot false) := by
  have hids : ∀ other, (Function.update (Function.update state.gamepads slot
      { state.gamepads slot with backTimeoutId := none }) slot {} other).id =
        Function.update (fun slot => (state.gamepads slot).id) slot (-1) other := by
    intro other
    by_cases hsame : other = slot <;> simp [hsame]
  have hrest : ∀ next : State ι, next.gamepads = Function.update (Function.update state.gamepads slot
        { state.gamepads slot with backTimeoutId := none }) slot {} →
      next.timers = (state.cancelBack slot).timers → next.pushes = state.pushes →
      next.clients = state.clients →
      next.allocatedGamepads = Function.update state.allocatedGamepads slot false →
      Accounts steam (Function.update (fun slot => (state.gamepads slot).id) slot (-1))
        next.gamepadMask next.queuedFrees next.calls → Invariant steam next := by
    intro next hgamepads htimers hpushes hclients hbits haccounts
    have hids : ∀ other, (next.gamepads other).id =
        Function.update (fun slot => (state.gamepads slot).id) slot (-1) other := by
      intro other
      rw [hgamepads, hids]
    refine ⟨?_, ?_, ?_, ?_, ?_, ?_⟩
    · simpa only [hids] using haccounts
    · intro other
      rw [hgamepads]
      by_cases hsame : other = slot
      · simpa [hsame] using Sound.initial
      · simpa [hsame] using h.slots other
    · intro other
      rw [hids, hbits]
      by_cases hsame : other = slot
      · simp [hsame]
      · simpa [hsame] using h.bits other
    · rw [htimers, hpushes]
      refine (h.timed.cancel slot).congr fun other => ?_
      rw [hgamepads]
      by_cases hsame : other = slot <;> simp [hsame]
    · intro other hother
      rw [hgamepads]
      by_cases hsame : other = slot
      · simp [hsame]
      · simpa [hsame] using h.range other hother
    · intro client hdestroyed number
      rw [hclients] at hdestroyed
      rw [hids]
      by_cases hsame : (client, number) = slot
      · simp [hsame]
      · simpa [hsame] using h.gone client hdestroyed number
  unfold resetGamepad
  dsimp only
  split_ifs with hid
  · exact hrest _ rfl rfl rfl rfl rfl (h.accounts.retire hid)
  · refine hrest _ rfl rfl rfl rfl rfl ?_
    have hnone : (state.gamepads slot).id = -1 := by
      have := (h.slots slot).valid
      omega
    have hsame : Function.update (fun slot => (state.gamepads slot).id) slot (-1) =
        fun slot => (state.gamepads slot).id := by
      rw [← hnone]
      exact update_eq_self slot _
    rw [hsame]
    exact h.accounts

end

/-! ## Allocation -/

omit [DecidableEq ι] in
lemma State.freeId?_spec {id : Nat} (h : state.freeId? = some id) :
    state.gamepadMask id = false := by
  simpa using List.find?_some h

omit [DecidableEq ι] in
lemma State.slot?_spec {client : ι} {controllerNumber : Int} {slot : ι × Nat}
    (h : slot? client controllerNumber = some slot) : slot.1 = client ∧ slot.2 < maxGamepads := by
  unfold slot? at h
  split_ifs at h with hrange
  obtain rfl := Option.some.inj h
  refine ⟨rfl, ?_⟩
  simp only [maxGamepads] at hrange ⊢
  omega

@[simp] lemma State.setGamepad_setGamepad (slot : ι × Nat) (first second : Gamepad) :
    (state.setGamepad slot first).setGamepad slot second = state.setGamepad slot second := by
  simp [setGamepad]

lemma Invariant.allocate (h : Invariant steam state) {slot : ι × Nat}
    (hslot : slot.2 < maxGamepads) (hopen : (state.clients slot.1).destroyed = false)
    {gamepad : Gamepad} (hsame : gamepad.id = (state.gamepads slot).id)
    (htimer : gamepad.backTimeoutId = (state.gamepads slot).backTimeoutId)
    (hguide : gamepad.guideKeyDown = (state.gamepads slot).guideKeyDown) (hid : gamepad.id < 0)
    {announced : Option (Nat × Nat)}
    (hannounced : (gamepad.arrivalType, gamepad.arrivalCapabilities) = announced.getD (0, 0))
    (failed : Bool) :
    Invariant steam ((state.setGamepad slot gamepad).allocate slot announced failed) := by
  have hsound := h.slots slot
  have hneg : (state.gamepads slot).id < 0 := hsame ▸ hid
  have hnone : gamepad.backTimeoutId = none := by
    by_contra hsome
    exact absurd (hsound.timer (htimer ▸ hsome)).1 (by omega)
  have hup : gamepad.guideKeyDown = false := by
    by_contra hdown
    exact absurd (hsound.guide (hguide ▸ by simpa using hdown)) (by omega)
  have hrefused : Sound { gamepad with allocFailed := true, pendingSteamAttributes := none } :=
    ⟨hsame ▸ hsound.valid, by simp [hnone], by simp [hup], fun hpos => absurd hid (by
      change 0 ≤ gamepad.id at hpos
      omega), by simp⟩
  have hself : (state.setGamepad slot gamepad).gamepads slot = gamepad := by
    simp [State.setGamepad]
  unfold State.allocate
  rw [hself]
  dsimp only
  cases hfree : (state.setGamepad slot gamepad).freeId? with
  | none =>
    dsimp only
    rw [setGamepad_setGamepad]
    exact h.setGamepad hslot hsame htimer hrefused
  | some id =>
    have hmask : state.gamepadMask id = false := freeId?_spec hfree
    have hpos : (0 : Int) ≤ id := Int.natCast_nonneg id
    dsimp only
    split_ifs
    · subst_vars
      have hasked : Invariant steam (state.call (.alloc id true)) :=
        ⟨h.accounts.refuse hpos hmask, h.slots, h.bits, h.timed, h.range, h.gone⟩
      have hset : Invariant steam ((state.call (.alloc id true)).setGamepad slot
          { gamepad with allocFailed := true, pendingSteamAttributes := none }) :=
        hasked.setGamepad hslot (by exact hsame) (by exact htimer) hrefused
      have hrestored : Function.update (Function.update state.gamepadMask id true) id false =
          state.gamepadMask := by
        rw [update_idem, ← hmask, update_eq_self]
      simpa [State.call, State.setGamepad, hrestored] using hset
    · next hfailed =>
        obtain rfl : failed = false := by simpa using hfailed
        have hgamepads : ∀ other, (Function.update (Function.update state.gamepads slot gamepad) slot
            { gamepad with id, announced }) other =
              if other = slot then { gamepad with id, announced } else state.gamepads other := by
          intro other
          by_cases hother : other = slot <;> simp [hother]
        have hids : ∀ other, ((if other = slot then { gamepad with id, announced }
            else state.gamepads other : Gamepad)).id =
              Function.update (fun slot => (state.gamepads slot).id) slot id other := by
          intro other
          by_cases hother : other = slot <;> simp [hother]
        refine ⟨?_, ?_, ?_, ?_, ?_, ?_⟩
        · have haccounts := h.accounts.claim hneg hpos hmask
          simp only [State.setAllocated, State.setGamepad, State.call, hgamepads, hids]
          exact haccounts
        · intro other
          simp only [State.setAllocated, State.setGamepad, State.call, hgamepads]
          split
          · refine ⟨?_, by simp [hnone], by simp [hup], fun _ => hannounced, ?_⟩
            · change (-1 : Int) ≤ id
              omega
            · intro hnegative
              exact absurd hnegative (by change ¬((id : Int) < 0); omega)
          · exact h.slots other
        · intro other
          simp only [State.setAllocated, State.setGamepad, State.call, hgamepads, hids]
          by_cases hother : other = slot
          · simp [hother]
          · simpa [hother] using h.bits other
        · refine h.timed.congr fun other => ?_
          simp only [State.setAllocated, State.setGamepad, State.call, hgamepads]
          by_cases hother : other = slot <;> simp [hother, htimer]
        · intro other hout
          have hne : other ≠ slot := fun heq => by
            rw [heq] at hout
            omega
          simpa [State.setAllocated, State.setGamepad, State.call, hne] using h.range other hout
        · intro client hdestroyed number
          have hne : (client, number) ≠ slot := fun heq => by
            have hclient : slot.1 = client := by rw [← heq]
            rw [hclient] at hopen
            exact absurd hdestroyed
              (by simpa [State.setAllocated, State.setGamepad, State.call] using hopen)
          simpa [State.setAllocated, State.setGamepad, State.call, hne] using
            h.gone client hdestroyed number

omit [DecidableEq ι] in
lemma Invariant.forwardSteamAttributes (h : Invariant steam state) (slot : ι × Nat)
    {gamepad : Gamepad} (hid : gamepad.id = (state.gamepads slot).id) (hallocated : 0 ≤ gamepad.id)
    (harrived : (gamepad.arrivalType, gamepad.arrivalCapabilities) =
      gamepad.announced.getD (0, 0)) (attributes : SteamAttributes) :
    Invariant steam (state.forwardSteamAttributes steam gamepad attributes) := by
  unfold State.forwardSteamAttributes
  split_ifs with hother
  · exact h
  · simp only [not_or, not_not, Bool.not_eq_false] at hother
    obtain ⟨htype, hbit⟩ := hother
    have hheld : 0 ≤ (state.gamepads slot).id := hid ▸ hallocated
    have hannounced : ∃ capabilities, gamepad.announced = some (steam.ctype, capabilities) ∧
        capabilities.testBit steam.attributesBit = true := by
      cases hcase : gamepad.announced with
      | none =>
        rw [hcase] at harrived
        have hzero : gamepad.arrivalCapabilities = 0 := congrArg Prod.snd harrived
        simp [hzero] at hbit
      | some pair =>
        rw [hcase] at harrived
        have hpair : (gamepad.arrivalType, gamepad.arrivalCapabilities) = pair := harrived
        exact ⟨gamepad.arrivalCapabilities, by rw [← hpair, htype], hbit⟩
    exact ⟨h.accounts.forward slot hheld hid hannounced, h.slots, h.bits, h.timed, h.range, h.gone⟩

lemma State.allocate_gamepads (state : State ι) (slot : ι × Nat) (announced : Option (Nat × Nat)) (failed : Bool) :
    (((state.allocate slot announced failed).gamepads slot).pendingSteamAttributes = none ∨
      0 ≤ ((state.allocate slot announced failed).gamepads slot).id) ∧
    (state.allocate slot announced failed).clients = state.clients := by
  unfold allocate
  dsimp only
  split
  · simp [setGamepad]
  · split_ifs
    · simp [setGamepad, call]
    · simp [setAllocated, setGamepad, call]

lemma State.allocate_failed_mask (state : State ι) (slot : ι × Nat)
    (announced : Option (Nat × Nat)) :
    (state.allocate slot announced true).gamepadMask = state.gamepadMask := by
  unfold allocate
  dsimp only
  cases hfree : state.freeId? with
  | none => rfl
  | some id =>
    change Function.update (Function.update state.gamepadMask id true) id false = _
    rw [update_idem, ← freeId?_spec hfree, update_eq_self]

/-! ## Packets -/

section

variable (h : Invariant steam state)

include h

lemma Invariant.passthroughArrival {client : ι}
    (hopen : (state.clients client).destroyed = false) (controllerNumber : Int)
    (type capabilities : Nat) (failed : Bool) : Invariant steam
      (state.passthroughArrival steam client controllerNumber type capabilities failed) := by
  unfold State.passthroughArrival
  rw [ite_not]
  split
  swap
  · exact h
  cases hslot? : slot? client controllerNumber with
  | none => exact h
  | some slot =>
    obtain ⟨rfl, hslot⟩ := slot?_spec hslot?
    dsimp only
    split_ifs with hid
    · exact h
    have hneg : (state.gamepads slot).id < 0 := by omega
    let noted : Gamepad := { state.gamepads slot with
      allocFailed := false, arrivalType := type, arrivalCapabilities := capabilities }
    have hallocated : Invariant steam
        ((state.setGamepad slot noted).allocate slot (some (type, capabilities)) failed) :=
      h.allocate hslot hopen (by rfl) (by rfl) (by rfl) (by exact hneg) (by rfl) failed
    have hleft := ((state.setGamepad slot noted).allocate_gamepads slot
      (some (type, capabilities)) failed).1
    generalize (state.setGamepad slot noted).allocate slot (some (type, capabilities)) failed =
      allocated at hallocated hleft
    cases hpend : (allocated.gamepads slot).pendingSteamAttributes with
    | none => simpa [hpend] using hallocated
    | some attributes =>
      have hpos := hleft.resolve_left (by simp [hpend])
      have hsound := hallocated.slots slot
      have hcleared : Invariant steam (allocated.setGamepad slot
          { allocated.gamepads slot with pendingSteamAttributes := none }) :=
        hallocated.setGamepad hslot (by rfl) (by rfl)
          ⟨hsound.valid, hsound.timer, hsound.guide, hsound.arrived, hsound.unannounced⟩
      exact hcleared.forwardSteamAttributes slot (by simp [State.setGamepad]) hpos
        (hsound.arrived hpos) attributes

lemma Invariant.passthroughSteamAttributes (client : ι)
    (controllerNumber : Nat) (payload : List Nat) : Invariant steam
      (state.passthroughSteamAttributes steam client controllerNumber payload) := by
  unfold State.passthroughSteamAttributes
  rw [ite_not]
  split
  swap
  · exact h
  cases hslot? : slot? client controllerNumber with
  | none => exact h
  | some slot =>
    have hslot := (slot?_spec hslot?).2
    have hsound := h.slots slot
    dsimp only
    split_ifs with hid hfailed
    · exact h
    · exact h.setGamepad hslot (by rfl) (by rfl)
        ⟨hsound.valid, hsound.timer, hsound.guide, hsound.arrived, hsound.unannounced⟩
    · have hpos : 0 ≤ (state.gamepads slot).id := by omega
      exact h.forwardSteamAttributes slot rfl hpos (hsound.arrived hpos) _

lemma Invariant.retireAbsent (client : ι) (activeGamepadMask : Nat)
    (number : Nat) : Invariant steam (State.retireAbsent client activeGamepadMask state number) := by
  unfold State.retireAbsent
  dsimp only
  split_ifs
  · exact h.resetSlot (client, number)
  · exact h

end

omit [DecidableEq ι] in
lemma Invariant.foldl (numbers : List Nat) {turn : State ι → Nat → State ι}
    (hturn : ∀ state number, Invariant steam state → Invariant steam (turn state number))
    {state : State ι} (h : Invariant steam state) : Invariant steam (numbers.foldl turn state) := by
  induction numbers generalizing state with
  | nil => exact h
  | cons number numbers ih => exact ih (hturn state number h)

lemma State.retireAbsent_clients (client : ι) (activeGamepadMask : Nat) (numbers : List Nat)
    (state : State ι) :
    (numbers.foldl (retireAbsent client activeGamepadMask) state).clients = state.clients := by
  induction numbers generalizing state with
  | nil => rfl
  | cons number numbers ih =>
    rw [List.foldl_cons, ih]
    unfold retireAbsent resetGamepad
    dsimp only
    split_ifs <;> rfl

omit [DecidableEq ι] in
lemma back_xor (first second : Nat) : back (first ^^^ second) = (back first != back second) := by
  simp [back, Nat.testBit_xor]

section

variable (h : Invariant steam state)

include h

lemma Invariant.applyState {slot : ι × Nat}
    (hslot : slot.2 < maxGamepads) (hid : 0 ≤ (state.gamepads slot).id) (packet : ControllerPacket) :
    Invariant steam (state.applyState slot packet) := by
  have hsound := h.slots slot
  unfold State.applyState
  dsimp only
  generalize State.packetState packet (state.gamepads slot).backButtonState = forced
  obtain ⟨gamepadState, backButtonState⟩ := forced
  dsimp only
  rw [back_xor]
  -- The slot ends with the state of the packet and a handle that goes with its Back button.
  have hfinal : ∀ (handle : Option Nat) (timers : List (Nat × (ι × Nat))) (pushes : Nat),
      (handle ≠ none → back gamepadState.buttonFlags = true) →
      Handles id timers pushes
        (Function.update (fun slot => (state.gamepads slot).backTimeoutId) slot handle) →
      Invariant steam (sendGamepadState
        { state with
          gamepads := Function.update state.gamepads slot
            { state.gamepads slot with
              gamepadState, backButtonState, backTimeoutId := handle }
          timers, pushes }
        { state.gamepads slot with gamepadState, backButtonState, backTimeoutId := handle }) := by
    intro handle timers pushes hhandle htimed
    have hnew : Sound { state.gamepads slot with
        gamepadState, backButtonState, backTimeoutId := handle } :=
      ⟨hsound.valid, fun hsome => ⟨hid, hhandle hsome⟩, hsound.guide, hsound.arrived,
        hsound.unannounced⟩
    exact (h.replace hslot (by rfl) hnew htimed).send slot (by simp) hid
  split_ifs with hchanged hback htimeout hpend
  · have hnone : (state.gamepads slot).backTimeoutId = none := by
      by_contra hsome
      simp [(hsound.timer hsome).2, hback] at hchanged
    have hpushed := hfinal (some state.pushes) ((state.pushes, slot) :: state.timers)
      (state.pushes + 1) (fun _ => hback) (h.timed.push slot hnone)
    simpa [State.pushBack, State.setGamepad] using hpushed
  · have hkept := hfinal (state.gamepads slot).backTimeoutId state.timers state.pushes
      (fun _ => hback) (h.timed.congr fun other => by
        by_cases hother : other = slot <;> simp [hother])
    simpa [State.setGamepad] using hkept
  · have hcancelled := hfinal none
      (state.timers.filter fun timer => some timer.1 ≠ (state.gamepads slot).backTimeoutId)
      state.pushes (by simp) (h.timed.cancel slot)
    simpa [State.cancelBack, State.setGamepad] using hcancelled
  · have hnone : (state.gamepads slot).backTimeoutId = none := by simpa using hpend
    have hkept := hfinal (state.gamepads slot).backTimeoutId state.timers state.pushes
      (fun hsome => absurd hnone hsome) (h.timed.congr fun other => by
        by_cases hother : other = slot <;> simp [hother])
    simpa [State.setGamepad] using hkept
  · have hkept := hfinal (state.gamepads slot).backTimeoutId state.timers state.pushes
      (fun hsome => by
        have hheld := (hsound.timer hsome).2
        simpa [hheld] using hchanged)
      (h.timed.congr fun other => by by_cases hother : other = slot <;> simp [hother])
    simpa [State.setGamepad] using hkept

lemma Invariant.passthroughController {client : ι}
    (hopen : (state.clients client).destroyed = false) (packet : ControllerPacket) (failed : Bool) :
    Invariant steam (state.passthroughController client packet failed) := by
  unfold State.passthroughController
  cases hslot? : State.slot? client packet.controllerNumber with
  | none => exact h
  | some slot =>
    obtain ⟨rfl, hslot⟩ := State.slot?_spec hslot?
    have hretired : Invariant steam ((List.range maxGamepads).foldl
        (State.retireAbsent slot.1 packet.activeGamepadMask) state) :=
      h.foldl _ fun state number hstate => hstate.retireAbsent _ _ _
    have hclients := State.retireAbsent_clients slot.1 packet.activeGamepadMask
      (List.range maxGamepads) state
    generalize (List.range maxGamepads).foldl
      (State.retireAbsent slot.1 packet.activeGamepadMask) state = retired at hretired hclients
    dsimp only
    rw [ite_not]
    split
    swap
    · exact hretired
    have hallocated : Invariant steam (if packet.activeGamepadMask.testBit slot.2 = true ∧
        (retired.gamepads slot).id < 0 ∧ ¬(retired.gamepads slot).allocFailed = true then
          retired.allocate slot none failed else retired) := by
      split_ifs with hnew
      · obtain ⟨-, hneg, hfailed⟩ := hnew
        obtain ⟨htype, hcapabilities⟩ :=
          (hretired.slots slot).unannounced hneg (by simpa using hfailed)
        have hself : retired.setGamepad slot (retired.gamepads slot) = retired := by
          simp [State.setGamepad]
        have hunannounced : ((retired.gamepads slot).arrivalType,
            (retired.gamepads slot).arrivalCapabilities) =
              (none : Option (Nat × Nat)).getD (0, 0) := by
          simp [htype, hcapabilities]
        have hattempt := hretired.allocate hslot (by rwa [hclients]) (by rfl) (by rfl) (by rfl)
          hneg hunannounced failed
        rwa [hself] at hattempt
      · exact hretired
    split_ifs at hallocated ⊢ with hnew hneg hneg
    · exact hallocated
    · exact hallocated.applyState hslot (by omega) packet
    · exact hallocated
    · exact hallocated.applyState hslot (by omega) packet

/-! ## Timers, the guide key and the end of a client -/

omit [DecidableEq ι] in
lemma Invariant.range_of_id {slot : ι × Nat}
    (hid : 0 ≤ (state.gamepads slot).id) : slot.2 < maxGamepads := by
  by_contra hout
  have hempty := h.range slot (by omega)
  rw [hempty] at hid
  exact absurd hid (by decide)

lemma Invariant.backTimer {task : Nat} {slot : ι × Nat}
    (htimer : (task, slot) ∈ state.timers) : Invariant steam
      (backTimer { state with timers := state.timers.erase (task, slot) } slot) := by
  have hfired := h.timed.fire htimer
  have hhandle : (state.gamepads slot).backTimeoutId ≠ none := by
    have hpend := h.timed.pending _ htimer
    simp only [id_eq] at hpend
    simp [hpend]
  have hsound := h.slots slot
  obtain ⟨hid, -⟩ := hsound.timer hhandle
  have hnew : ∀ flags, Sound { forceBack (state.gamepads slot) flags with
      backTimeoutId := none } := fun flags =>
    ⟨hsound.valid, by simp, hsound.guide, hsound.arrived, hsound.unannounced⟩
  have hsend : ∀ {next : State ι} (flags : Nat), Invariant steam next →
      (next.gamepads slot).id = (state.gamepads slot).id →
      Invariant steam (next.sendGamepadState (forceBack (state.gamepads slot) flags)) :=
    fun flags hnext hsame => hnext.send slot hsame.symm hid
  unfold State.backTimer
  extract_lets gamepad flags home released sent
  have hreplaced := h.replace (h.range_of_id hid) (by rfl) (hnew released) hfired
  have hfirst := hsend flags hreplaced (by simp [forceBack])
  have hsecond := hsend home hfirst (by simp [forceBack, sendGamepadState, call])
  have hthird := hsend released hsecond
    (by simp [forceBack, sendGamepadState, call])
  exact hthird

end

omit [DecidableEq ι] in
lemma Invariant.setLatch [DecidableEq ι] (h : Invariant steam state) (client : ι) {input : Client}
    (hdestroyed : input.destroyed = true → (state.clients client).destroyed = true) :
    Invariant steam (state.setClient client input) := by
  refine ⟨h.accounts, h.slots, h.bits, h.timed, h.range, ?_⟩
  intro other hother number
  simp only [setClient, update_apply] at hother
  split at hother
  · next hsame => exact h.gone other (hsame ▸ hdestroyed hother) number
  · exact h.gone other hother number

section

variable (h : Invariant steam state)

include h

lemma Invariant.passthroughGuideKey (guideButtonController : Int)
    {client : ι} (hopen : (state.clients client).destroyed = false) (release : Bool) :
    Invariant steam (state.passthroughGuideKey guideButtonController client release) := by
  unfold State.passthroughGuideKey
  split
  · exact h
  have hlatched : Invariant steam (state.setClient client
      { state.clients client with guideKeyPressed := !release }) :=
    h.setLatch client (by simp [hopen])
  dsimp only
  generalize state.setClient client
    { state.clients client with guideKeyPressed := !release } = latched at hlatched
  cases hslot? : slot? client guideButtonController with
  | none => exact hlatched
  | some slot =>
    have hslot := (slot?_spec hslot?).2
    have hsound := hlatched.slots slot
    dsimp only
    split_ifs with hrelease hdown hallowed
    · have hid := hsound.guide hdown
      have hup : Sound { latched.gamepads slot with guideKeyDown := false } :=
        ⟨hsound.valid, hsound.timer, by simp, hsound.arrived, hsound.unannounced⟩
      exact (hlatched.setGamepad hslot (by rfl) (by rfl) hup).send slot
        (by simp [State.setGamepad]) hid
    · exact hlatched
    · obtain ⟨-, -, hid⟩ := hallowed
      have hheld : Sound { latched.gamepads slot with guideKeyDown := true } :=
        ⟨hsound.valid, hsound.timer, fun _ => hid, hsound.arrived, hsound.unannounced⟩
      exact (hlatched.setGamepad hslot (by rfl) (by rfl) hheld).send slot
        (by simp [State.setGamepad]) hid
    · exact hlatched

lemma Invariant.reset (client : ι) : Invariant steam (state.reset client) := by
  have hrel : Invariant steam ((List.range maxGamepads).foldl
      (fun state number => (state.resetGamepad (client, number)).setAllocated (client, number) false)
      state) :=
    h.foldl _ fun state number hstate => hstate.resetSlot (client, number)
  exact hrel.setLatch client (by simp)

lemma Invariant.abandon (client : ι) (number : Nat)
    (hnone : (state.gamepads (client, number)).backTimeoutId = none) :
    Invariant steam (abandon client state number) := by
  have hrest : ∀ queued, Accounts steam
      (Function.update (fun slot => (state.gamepads slot).id) (client, number) (-1))
      state.gamepadMask queued state.calls →
      Invariant steam (({ state with queuedFrees := queued }.setGamepad (client, number) {}).setAllocated
        (client, number) false) := by
    intro queued haccounts
    have hids : ∀ slot, (Function.update state.gamepads (client, number) {} slot).id =
        Function.update (fun slot => (state.gamepads slot).id) (client, number) (-1) slot := by
      intro slot
      by_cases hsame : slot = (client, number) <;> simp [hsame]
    refine ⟨?_, ?_, ?_, ?_, ?_, ?_⟩
    · simpa only [State.setAllocated, State.setGamepad, hids] using haccounts
    · intro slot
      simp only [State.setAllocated, State.setGamepad]
      by_cases hsame : slot = (client, number)
      · simpa [hsame] using Sound.initial
      · simpa [hsame] using h.slots slot
    · intro slot
      simp only [State.setAllocated, State.setGamepad, hids]
      by_cases hsame : slot = (client, number)
      · simp [hsame]
      · simpa [hsame] using h.bits slot
    · refine h.timed.congr fun slot => ?_
      simp only [State.setAllocated, State.setGamepad]
      by_cases hsame : slot = (client, number) <;> simp [hsame, hnone]
    · intro slot hslot
      simp only [State.setAllocated, State.setGamepad]
      by_cases hsame : slot = (client, number)
      · simp [hsame]
      · simpa [hsame] using h.range slot hslot
    · intro other hdestroyed other'
      simp only [State.setAllocated, State.setGamepad, hids]
      by_cases hsame : (other, other') = (client, number)
      · rw [hsame, update_self]
        decide
      · rw [update_of_ne hsame]
        exact h.gone other hdestroyed other'
  unfold State.abandon
  dsimp only
  split_ifs with hid
  · exact hrest _ (h.accounts.abandon hid)
  · refine hrest state.queuedFrees ?_
    have hneg : (state.gamepads (client, number)).id = -1 := by
      have := (h.slots (client, number)).valid
      omega
    have hsame : Function.update (fun slot => (state.gamepads slot).id) (client, number) (-1) =
        fun slot => (state.gamepads slot).id := by
      rw [← hneg]
      exact update_eq_self (client, number) _
    rw [hsame]
    exact h.accounts

lemma Invariant.abandon_foldl (client : ι) (numbers : List Nat)
    (hnone : ∀ number, (state.gamepads (client, number)).backTimeoutId = none) :
    Invariant steam (numbers.foldl (State.abandon client) state) ∧
      (numbers.foldl (State.abandon client) state).clients = state.clients ∧
      ∀ number, (numbers.foldl (State.abandon client) state).gamepads (client, number) =
        if number ∈ numbers then {} else state.gamepads (client, number) := by
  induction numbers generalizing state with
  | nil => exact ⟨h, rfl, by simp⟩
  | cons number numbers ih =>
    have habandoned := h.abandon client number (hnone number)
    have hgamepads : ∀ other, (State.abandon client state number).gamepads (client, other) =
        if other = number then {} else state.gamepads (client, other) := by
      intro other
      unfold State.abandon State.setAllocated State.setGamepad
      dsimp only
      split_ifs with hid hsame hsame <;> simp_all
    have hclients : (State.abandon client state number).clients = state.clients := by
      unfold State.abandon State.setAllocated State.setGamepad
      dsimp only
      split_ifs <;> rfl
    obtain ⟨hinv, hsame, hempty⟩ := ih habandoned fun other => by
      rw [hgamepads]
      split
      · rfl
      · exact hnone other
    refine ⟨hinv, hsame.trans hclients, fun other => ?_⟩
    rw [List.foldl_cons, hempty, hgamepads]
    by_cases hother : other = number <;> simp [hother]

lemma Invariant.destroy {client : ι} (htimers : ∀ timer ∈ state.timers, timer.2.1 ≠ client) :
    Invariant steam (state.destroy client) := by
  have hnone : ∀ number, (state.gamepads (client, number)).backTimeoutId = none := by
    intro number
    cases hhandle : (state.gamepads (client, number)).backTimeoutId with
    | none => rfl
    | some task =>
      obtain ⟨timer, htimer, -, hholder⟩ := h.timed.listed (client, number) task hhandle
      exact absurd (congrArg Prod.fst hholder) (htimers timer htimer)
  obtain ⟨habandoned, hclients, hempty⟩ :=
    h.abandon_foldl client (List.range maxGamepads) hnone
  unfold State.destroy
  dsimp only
  refine ⟨habandoned.accounts, habandoned.slots, habandoned.bits, habandoned.timed,
    habandoned.range, ?_⟩
  intro other hdestroyed number
  by_cases hsame : other = client
  · subst hsame
    by_cases hnumber : number < maxGamepads
    · have hslot := hempty number
      rw [if_pos (List.mem_range.mpr hnumber)] at hslot
      simp only [setClient]
      rw [hslot]
      decide
    · have hslot := habandoned.range (other, number) (Nat.le_of_not_lt hnumber)
      simp only [setClient]
      rw [hslot]
      decide
  · refine habandoned.gone other ?_ number
    simpa [setClient, hsame] using hdestroyed

omit [DecidableEq ι] in
lemma Invariant.queuedFree {id : Int} (hid : id ∈ state.queuedFrees) : Invariant steam
      (freeGamepad { state with queuedFrees := state.queuedFrees.erase id } id) :=
  ⟨h.accounts.drain hid, h.slots, h.bits, h.timed, h.range, h.gone⟩

lemma Invariant.step (guideButtonController : ι → Int)
    {task : Task ι} (hadmits : admits state task) :
    Invariant steam (step steam guideButtonController state task) := by
  cases task with
  | arrival client controllerNumber type capabilities failed =>
    exact h.passthroughArrival hadmits.2 controllerNumber type capabilities failed
  | steamAttributes client controllerNumber payload =>
    exact h.passthroughSteamAttributes client controllerNumber payload
  | controller client packet failed => exact h.passthroughController hadmits.2 packet failed
  | guideKey client release => exact h.passthroughGuideKey _ hadmits.2 release
  | backTimer task slot => exact h.backTimer hadmits
  | queuedFree id => exact h.queuedFree hadmits
  | configure config => exact h.setConfig config
  | reset client => exact h.reset client
  | destroy client => exact h.destroy hadmits.2

end

lemma Invariant.of_reachable {guideButtonController : ι → Int}
    (h : (worker steam guideButtonController).Reachable state) : Invariant steam state :=
  h.invariant (Invariant.initial steam) fun _ _ hinv hadmits =>
    hinv.step guideButtonController hadmits

/-! ## Slot accounting -/

/-- In every run of any number of clients: a bit of the mask is set iff exactly one slot of
a living client has its id, and no free of it is pending, or exactly one free is pending and
no slot has it; the summary of each client is the set of its slots with an id; every call of
the platform is permitted where it is made, so that allocations and frees of an id alternate
and states are sent to allocated ids only; a Back timer and a held guide key are those of a
slot with an id, with one timer for each slot; and attributes go to slots announced for them. -/
theorem controller_slot_accounting {guideButtonController : ι → Int}
    (h : (worker steam guideButtonController).Reachable state) :
    (∀ id, state.gamepadMask id = true ↔ 0 ≤ id ∧
        ((∃ slot, ((state.gamepads slot).id = id ∧ (state.clients slot.1).destroyed = false ∧
            ∀ other, (state.gamepads other).id = id → other = slot) ∧
            state.queuedFrees.count id = 0) ∨
          (state.queuedFrees.count id = 1 ∧ ∀ slot, (state.gamepads slot).id ≠ id))) ∧
      (∀ slot, state.allocatedGamepads slot = true ↔ 0 ≤ (state.gamepads slot).id) ∧
      Orderly steam state.calls ∧ (∀ id, isAllocated id state.calls = state.gamepadMask id) ∧
      (∀ slot announced, (state.allocate slot announced true).gamepadMask = state.gamepadMask) ∧
      (∀ task slot, (task, slot) ∈ state.timers → 0 ≤ (state.gamepads slot).id ∧
        ∀ other, (other, slot) ∈ state.timers → other = task) ∧
      (∀ slot, (state.gamepads slot).guideKeyDown = true → 0 ≤ (state.gamepads slot).id) := by
  have hinv := Invariant.of_reachable h
  refine ⟨?_, hinv.bits, hinv.accounts.orderly, hinv.accounts.allocated,
    state.allocate_failed_mask, ?_, fun slot => (hinv.slots slot).guide⟩
  · intro id
    constructor
    · intro hmask
      rcases hinv.accounts.covered id hmask with ⟨hpos, slot, rfl⟩ | hmem
      · refine ⟨hpos, .inl ⟨slot, ⟨rfl, ?_, fun other hother => ?_⟩, ?_⟩⟩
        · cases hdestroyed : (state.clients slot.1).destroyed with
          | false => rfl
          | true =>
            have hneg := hinv.gone slot.1 hdestroyed slot.2
            exact absurd hpos (by simpa using hneg)
        · exact (hinv.accounts.distinct slot other hpos hother.symm).symm
        · exact List.count_eq_zero.mpr (hinv.accounts.apart slot hpos)
      · refine ⟨(hinv.accounts.pending id hmem).1, .inr ⟨?_, fun slot hslot => ?_⟩⟩
        · exact List.count_eq_one_of_mem hinv.accounts.once hmem
        · have hpos := (hinv.accounts.pending id hmem).1
          exact hinv.accounts.apart slot (by simpa [hslot] using hpos) (by simpa [hslot] using hmem)
    · rintro ⟨hpos, ⟨slot, ⟨rfl, -, -⟩, -⟩ | ⟨hcount, -⟩⟩
      · exact hinv.accounts.held slot hpos
      · have hmem : id ∈ state.queuedFrees := List.count_pos_iff.mp (by omega)
        exact (hinv.accounts.pending id hmem).2
  · intro task slot htimer
    have hpend : (state.gamepads slot).backTimeoutId = some task := hinv.timed.pending _ htimer
    refine ⟨((hinv.slots slot).timer (by simp [hpend])).1, fun other hother => ?_⟩
    have hpend' : (state.gamepads slot).backTimeoutId = some other := hinv.timed.pending _ hother
    simpa [hpend] using hpend'.symm

def departure : List (Task (Fin 2)) :=
  [.configure { backButtonTimeout := 1000 }, .arrival ⟨0, Nat.two_pos⟩ 0 5 1 false,
    .controller ⟨0, Nat.two_pos⟩ { controllerNumber := 1, activeGamepadMask := 3, buttonFlags := 0x20 }
      false,
    .backTimer 0 (⟨0, Nat.two_pos⟩, 1), .destroy ⟨0, Nat.two_pos⟩, .queuedFree 1,
    .arrival ⟨1, Nat.one_lt_two⟩ 0 0 0 false]

theorem controller_slot_accounting_departure :
    isAllocated 0 ((worker ⟨5, 0⟩ fun _ : Fin 2 => 0).run {} departure).calls =
      ((worker ⟨5, 0⟩ fun _ : Fin 2 => 0).run {} departure).gamepadMask 0 := by
  have hfollows : (worker ⟨5, 0⟩ fun _ : Fin 2 => 0).Follows (fun _ _ => True) {} departure := by
    decide +kernel
  have hreachable : (worker ⟨5, 0⟩ fun _ : Fin 2 => 0).Reachable
      ((worker ⟨5, 0⟩ fun _ : Fin 2 => 0).run {} departure) := .of_follows .refl hfollows
  generalize (worker ⟨5, 0⟩ fun _ : Fin 2 => 0).run {} departure = state at hreachable ⊢
  exact (controller_slot_accounting hreachable).2.2.2.1 0

end Vibeshine.Input.Controllers
