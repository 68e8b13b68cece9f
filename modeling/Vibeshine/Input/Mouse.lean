import Vibeshine.Library.Delayed
import Vibeshine.Library.System

/-! # Mouse buttons shared by several clients

The tasks of the single input worker that touch the mouse buttons of the host: button
packets, the delayed release of the left button, and the reset of a client. Every task
is one step. A delayed task is known by the count of the push that made it.
-/

namespace Vibeshine.Input.Mouse

open Library Function

def buttonLeft : Int := 1

def buttonRight : Int := 3

def buttonX2 : Int := 5

/-- The fields of `input_t` that the mouse buttons use. -/
structure Client where
  mouseLeftButtonDelay : Bool := true
  mouseLeftButtonTimeout : Option Nat := none
  /-- The reset task of the client has run. -/
  closed : Bool := false
  deriving DecidableEq

structure State where
  /-- `config::input.mouse`. -/
  mouse : Bool := true
  mousePress : Int → Bool := fun _ => false
  mousePressOwner : Int → Option Nat := fun _ => none
  clients : Nat → Client := fun _ => {}
  /-- The delayed releases in the task pool, each with its client. -/
  timers : List (Nat × Nat) := []
  pushes : Nat := 0
  /-- The calls of `platf::button_mouse`, last one first: the button and whether it is
  released. -/
  hostEvents : List (Int × Bool) := []

namespace State

def buttonMouse (state : State) (button : Int) (release : Bool) : State :=
  { state with hostEvents := (button, release) :: state.hostEvents }

def setPress (state : State) (button : Int) (pressed : Bool) : State :=
  { state with mousePress := Function.update state.mousePress button pressed }

def setOwner (state : State) (button : Int) (owner : Option Nat) : State :=
  { state with mousePressOwner := Function.update state.mousePressOwner button owner }

def setClient (state : State) (client : Nat) (input : Client) : State :=
  { state with clients := Function.update state.clients client input }

def delayRelease (state : State) (client : Nat) : State :=
  { state.setClient client
      { state.clients client with mouseLeftButtonTimeout := some state.pushes } with
    timers := (state.pushes, client) :: state.timers
    pushes := state.pushes + 1 }

def deliver (state : State) (client : Nat) (button : Int) (release : Bool) : State :=
  let input := state.clients client
  if button = buttonLeft ∧ release ∧ input.mouseLeftButtonDelay ∧
      input.mouseLeftButtonTimeout = none then state.delayRelease client
  else if button = buttonRight ∧ ¬release ∧ input.mouseLeftButtonDelay ∧
      input.mouseLeftButtonTimeout ≠ none then
    -- The right click comes before the left release that is still due.
    (((state.buttonMouse buttonRight false).buttonMouse buttonRight true).setPress
      buttonRight false).setOwner buttonRight none
  else
    (state.buttonMouse button release).setOwner button (if release then none else some client)

/-- `passthrough` of a button packet. -/
def passthroughButton (state : State) (client : Nat) (button : Int) (release : Bool) : State :=
  if ¬state.mouse ∧ ¬release then state
  else if button ≤ 0 ∨ buttonX2 < button then state
  else if release ∧ state.mousePressOwner button ≠ some client then state
  else if state.mousePress button ≠ release then state
  else (state.setPress button (!release)).deliver client button release

def leftRelease (state : State) (client : Nat) : State :=
  let fired := state.setClient client
    { state.clients client with mouseLeftButtonTimeout := none }
  if fired.mousePress buttonLeft ∨ fired.mousePressOwner buttonLeft ≠ some client then fired
  else (fired.buttonMouse buttonLeft true).setOwner buttonLeft none

/-- `passthrough` of a relative or an absolute movement, as far as the buttons go. -/
def passthroughMove (state : State) (client : Nat) (absolute : Bool) : State :=
  if ¬state.mouse then state
  else state.setClient client { state.clients client with mouseLeftButtonDelay := absolute }

def releaseOwned (client : Nat) (state : State) (button : Int) : State :=
  if state.mousePressOwner button = some client then
    ((state.buttonMouse button true).setPress button false).setOwner button none
  else state

def cancelRelease (state : State) (client : Nat) : State :=
  let input := state.clients client
  { state.setClient client { input with mouseLeftButtonTimeout := none, closed := true } with
    timers := state.timers.filter fun timer => some timer.1 ≠ input.mouseLeftButtonTimeout }

/-- The task that `reset` pushes. The packets of the client end with it. -/
def reset (state : State) (client : Nat) : State :=
  [1, 2, 3, 4, 5].foldl (releaseOwned client) (state.cancelRelease client)

end State

inductive Task where
  | button (client : Nat) (button : Int) (release : Bool)
  | move (client : Nat) (absolute : Bool)
  /-- The pool hands out a delayed release. -/
  | timer (task client : Nat)
  | configure (mouse : Bool)
  | reset (client : Nat)
  deriving DecidableEq

def admits (state : State) : Task → Prop
  | .button client _ _ => (state.clients client).closed = false
  | .move client _ => (state.clients client).closed = false
  | .timer task client => (task, client) ∈ state.timers
  | .configure _ => True
  | .reset client => (state.clients client).closed = false

def step (state : State) : Task → State
  | .button client button release => state.passthroughButton client button release
  | .move client absolute => state.passthroughMove client absolute
  | .timer task client =>
    State.leftRelease { state with timers := state.timers.erase (task, client) } client
  | .configure mouse => { state with mouse }
  | .reset client => state.reset client

def worker : System State Task where
  init := {}
  admits := admits
  step := step

instance (state : State) : ∀ task, Decidable (worker.admits state task)
  | .button _ _ _ | .move _ _ | .reset _ => inferInstanceAs (Decidable (_ = false))
  | .timer _ _ => inferInstanceAs (Decidable (_ ∈ _))
  | .configure _ => .isTrue trivial

/-! ## What the host has seen of a button -/

def eventsOf (button : Int) (events : List (Int × Bool)) : List Bool :=
  (events.filter fun event => event.1 = button).map Prod.snd

def Alternates : List Bool → Prop
  | [] => True
  | release :: earlier => (release = true ↔ earlier.head? = some false) ∧ Alternates earlier

def Closes : List Bool → Prop
  | [] => True
  | release :: earlier => (release = true → earlier.head? = some false) ∧ Closes earlier

instance Alternates.decidable : ∀ events, Decidable (Alternates events)
  | [] => .isTrue trivial
  | _ :: earlier =>
    have := Alternates.decidable earlier
    inferInstanceAs (Decidable (_ ∧ _))

@[simp] lemma eventsOf_cons (button : Int) (event : Int × Bool) (events : List (Int × Bool)) :
    eventsOf button (event :: events) =
      if event.1 = button then event.2 :: eventsOf button events else eventsOf button events := by
  unfold eventsOf
  by_cases h : event.1 = button <;> simp [h]

/-- What is recorded of a button agrees with what the host has seen of it. -/
structure Held (button : Int) (down : Bool) (owner : Option Nat) (events : List Bool) : Prop where
  pressed : down = true → owner ≠ none
  owned : button ≠ buttonLeft → owner ≠ none → down = true
  bounded : owner ≠ none → 0 < button ∧ button ≤ buttonX2
  last : events.head? = some false ↔ owner ≠ none
  alternates : button ≠ buttonLeft → Alternates events
  closes : Closes events

section

variable {button : Int} {down : Bool} {owner : Option Nat} {events : List Bool}

lemma Held.initial (button : Int) : Held button false none [] := by
  constructor <;> simp [Alternates, Closes]

lemma Held.press (h : Held button down owner events) (hbutton : 0 < button ∧ button ≤ buttonX2)
    (hup : down = false) (client : Nat) : Held button true (some client) (false :: events) where
  pressed := by simp
  owned := by simp
  bounded := fun _ => hbutton
  last := by simp
  alternates := by
    intro hne
    have hfree : ¬owner ≠ none := fun howner => by simp [h.owned hne howner] at hup
    exact ⟨by simp [h.last, hfree], h.alternates hne⟩
  closes := ⟨by simp, h.closes⟩

lemma Held.release (h : Held button down owner events) (howner : owner ≠ none) :
    Held button false none (true :: events) where
  pressed := by simp
  owned := by simp
  bounded := by simp
  last := by simp
  alternates := fun hne => ⟨by simp [h.last, howner], h.alternates hne⟩
  closes := ⟨fun _ => h.last.mpr howner, h.closes⟩

lemma Held.pause (h : Held buttonLeft down owner events) : Held buttonLeft false owner events where
  pressed := by simp
  owned := fun hne => absurd rfl hne
  bounded := h.bounded
  last := h.last
  alternates := h.alternates
  closes := h.closes

end

variable {state : State}

def Timed (state : State) : Prop :=
  Handles id state.timers state.pushes fun client => (state.clients client).mouseLeftButtonTimeout

/-- What holds between two tasks of the worker. -/
structure Invariant (state : State) : Prop where
  buttons : ∀ button, Held button (state.mousePress button) (state.mousePressOwner button)
    (eventsOf button state.hostEvents)
  due : ∀ client, state.mousePressOwner buttonLeft = some client →
    state.mousePress buttonLeft = false → (state.clients client).mouseLeftButtonTimeout ≠ none
  handles : Timed state
  gone : ∀ client, (state.clients client).closed = true →
    (state.clients client).mouseLeftButtonTimeout = none ∧
      ∀ button, state.mousePressOwner button ≠ some client

lemma Invariant.initial : Invariant {} where
  buttons := Held.initial
  due := by simp
  handles := Handles.initial id
  gone := by simp

lemma Timed.delayRelease (h : Timed state) {client : Nat}
    (hnone : (state.clients client).mouseLeftButtonTimeout = none) :
    Timed (state.delayRelease client) := by
  refine (Handles.push h client hnone).congr fun other => ?_
  by_cases hsame : other = client <;> simp [State.delayRelease, State.setClient, hsame]

/-! ## Button packets -/

inductive Delivered (state : State) (client : Nat) (button : Int) : Bool → State → Prop where
  | ignored (release : Bool) : Delivered state client button release state
  | pressed (hbutton : 0 < button ∧ button ≤ buttonX2) (hup : state.mousePress button = false) :
      Delivered state client button false
        (((state.setPress button true).buttonMouse button false).setOwner button (some client))
  | released (howner : state.mousePressOwner button = some client) :
      Delivered state client button true
        (((state.setPress button false).buttonMouse button true).setOwner button none)
  | delayed (hleft : button = buttonLeft) (howner : state.mousePressOwner buttonLeft = some client)
      (hnone : (state.clients client).mouseLeftButtonTimeout = none) :
      Delivered state client button true ((state.setPress buttonLeft false).delayRelease client)
  | clicked (hright : button = buttonRight) (hup : state.mousePress buttonRight = false) :
      Delivered state client button false
        (((((state.setPress buttonRight true).buttonMouse buttonRight false).buttonMouse
          buttonRight true).setPress buttonRight false).setOwner buttonRight none)

lemma State.passthroughButton_delivered (state : State) (client : Nat) (button : Int)
    (release : Bool) :
    Delivered state client button release (state.passthroughButton client button release) := by
  unfold State.passthroughButton
  split_ifs with hoff hrange howner hpress
  · exact .ignored release
  · exact .ignored release
  · exact .ignored release
  · exact .ignored release
  have hbutton : 0 < button ∧ button ≤ buttonX2 := by omega
  push Not at howner hpress
  unfold State.deliver
  dsimp only
  split_ifs with hdelay hclick hrelease
  · obtain ⟨hleft, hrelease, _, hnone⟩ := hdelay
    subst hleft hrelease
    exact .delayed rfl (howner rfl) hnone
  · obtain ⟨hright, hrelease, _⟩ := hclick
    obtain rfl : release = false := by simpa using hrelease
    subst hright
    exact .clicked rfl hpress
  · subst hrelease
    exact .released (howner rfl)
  · obtain rfl : release = false := by simpa using hrelease
    exact .pressed hbutton hpress

section

variable (h : Invariant state)

include h

lemma Invariant.frame {next : State}
    (htimers : next.timers = state.timers) (hpushes : next.pushes = state.pushes)
    (hclients : next.clients = state.clients)
    (hbuttons : ∀ button, Held button (next.mousePress button) (next.mousePressOwner button)
      (eventsOf button next.hostEvents))
    (hdue : ∀ client, next.mousePressOwner buttonLeft = some client →
      next.mousePress buttonLeft = false →
      state.mousePressOwner buttonLeft = some client ∧ state.mousePress buttonLeft = false)
    (howners : ∀ button client, next.mousePressOwner button = some client →
      state.mousePressOwner button = some client ∨ (state.clients client).closed = false) :
    Invariant next where
  buttons := hbuttons
  due := by
    intro client howner hup
    obtain ⟨howner, hup⟩ := hdue client howner hup
    rw [hclients]
    exact h.due client howner hup
  handles := by
    unfold Timed
    rw [htimers, hpushes, hclients]
    exact h.handles
  gone := by
    intro client hclosed
    rw [hclients] at hclosed ⊢
    obtain ⟨hnone, hfree⟩ := h.gone client hclosed
    refine ⟨hnone, fun button howner => ?_⟩
    rcases howners button client howner with howner | hopen
    · exact hfree button howner
    · simp [hclosed] at hopen

lemma Invariant.delivered {client : Nat} {button : Int} {release : Bool}
    {next : State} (hopen : (state.clients client).closed = false)
    (hnext : Delivered state client button release next) : Invariant next := by
  cases hnext with
  | ignored release => exact h
  | pressed hbutton hup =>
    refine h.frame rfl rfl rfl ?_ ?_ ?_
    · intro other
      by_cases hsame : other = button
      · subst hsame
        simpa [State.setOwner, State.buttonMouse, State.setPress] using
          (h.buttons other).press hbutton hup client
      · simpa [State.setOwner, State.buttonMouse, State.setPress, hsame, Ne.symm hsame] using
          h.buttons other
    · intro owner
      simp only [State.setOwner, State.buttonMouse, State.setPress, update_apply]
      split <;> simp +contextual
    · intro other owner
      simp only [State.setOwner, State.buttonMouse, State.setPress, update_apply]
      split
      · intro howner
        obtain rfl : client = owner := by simpa using howner
        exact .inr hopen
      · exact .inl
  | released howner =>
    refine h.frame rfl rfl rfl ?_ ?_ ?_
    · intro other
      by_cases hsame : other = button
      · subst hsame
        simpa [State.setOwner, State.buttonMouse, State.setPress] using
          (h.buttons other).release (by simp [howner])
      · simpa [State.setOwner, State.buttonMouse, State.setPress, hsame, Ne.symm hsame] using
          h.buttons other
    · intro owner
      simp only [State.setOwner, State.buttonMouse, State.setPress, update_apply]
      split <;> simp +contextual
    · intro other owner
      simp only [State.setOwner, State.buttonMouse, State.setPress, update_apply]
      split
      · simp
      · exact .inl
  | clicked hright hup =>
    refine h.frame rfl rfl rfl ?_ ?_ ?_
    · intro other
      by_cases hsame : other = buttonRight
      · subst hsame
        have hpressed := (h.buttons buttonRight).press (by decide) hup client
        simpa [State.setOwner, State.buttonMouse, State.setPress] using
          hpressed.release (by simp)
      · simpa [State.setOwner, State.buttonMouse, State.setPress, hsame, Ne.symm hsame] using
          h.buttons other
    · intro owner
      simp [State.setOwner, State.buttonMouse, State.setPress, buttonLeft, buttonRight]
      exact fun howner hup => ⟨howner, hup⟩
    · intro other owner
      simp only [State.setOwner, State.buttonMouse, State.setPress, update_apply]
      split
      · simp
      · exact .inl
  | delayed hleft howner hnone =>
    have hpaused : Timed (state.setPress buttonLeft false) := h.handles
    refine ⟨?_, ?_, hpaused.delayRelease hnone, ?_⟩
    · intro other
      by_cases hsame : other = buttonLeft
      · subst hsame
        simpa [State.delayRelease, State.setPress, State.setClient] using
          (h.buttons buttonLeft).pause
      · simpa [State.delayRelease, State.setPress, State.setClient, hsame] using h.buttons other
    · intro owner hsame _
      have hsame : state.mousePressOwner buttonLeft = some owner := hsame
      obtain rfl : client = owner := by simpa [howner] using hsame
      simp [State.delayRelease, State.setClient]
    · intro gone hgone
      have hne : gone ≠ client := fun heq => by
        subst heq
        simp [State.delayRelease, State.setPress, State.setClient, hopen] at hgone
      simp only [State.delayRelease, State.setPress, State.setClient, update_of_ne hne] at hgone ⊢
      exact h.gone gone hgone

/-! ## Movements and delayed releases -/

lemma Invariant.move (client : Nat) (absolute : Bool) :
    Invariant (state.passthroughMove client absolute) := by
  unfold State.passthroughMove
  rw [ite_not]
  split
  swap
  · exact h
  have hclient : ∀ other, ((state.setClient client
      { state.clients client with mouseLeftButtonDelay := absolute }).clients other) =
        { state.clients other with mouseLeftButtonDelay :=
            if other = client then absolute else (state.clients other).mouseLeftButtonDelay } := by
    intro other
    by_cases hsame : other = client
    · subst hsame
      simp [State.setClient]
    · simp [State.setClient, hsame]
  refine ⟨h.buttons, ?_, h.handles.congr fun other => by rw [hclient], ?_⟩
  · intro other
    rw [hclient]
    exact h.due other
  · intro other
    rw [hclient]
    exact h.gone other

lemma Invariant.clear {next : State} (client : Nat) (hhandles : Timed next)
    (hbuttons : ∀ button, Held button (next.mousePress button) (next.mousePressOwner button)
      (eventsOf button next.hostEvents))
    (howners : ∀ button owner, next.mousePressOwner button = some owner →
      state.mousePressOwner button = some owner ∧ next.mousePress button = state.mousePress button)
    (hleft : next.mousePressOwner buttonLeft = some client → next.mousePress buttonLeft = true)
    (hclients : ∀ other, (next.clients other).mouseLeftButtonTimeout =
      if other = client then none else (state.clients other).mouseLeftButtonTimeout)
    (hclosed : ∀ other, (next.clients other).closed = true → (state.clients other).closed = true ∨
        other = client ∧ ∀ button, next.mousePressOwner button ≠ some client) : Invariant next where
  buttons := hbuttons
  due := by
    intro owner howner hup
    have hne : owner ≠ client := fun heq => by simp [hleft (heq ▸ howner)] at hup
    obtain ⟨hbefore, hsame⟩ := howners buttonLeft owner howner
    rw [hclients, if_neg hne]
    exact h.due owner hbefore (hsame ▸ hup)
  handles := hhandles
  gone := by
    intro other hother
    rcases hclosed other hother with hbefore | ⟨rfl, hfree⟩
    · obtain ⟨hnone, hfree⟩ := h.gone other hbefore
      refine ⟨by rw [hclients, hnone, ite_self], fun button howner => ?_⟩
      exact hfree button (howners button other howner).1
    · exact ⟨by rw [hclients, if_pos rfl], hfree⟩

lemma Invariant.timer {task client : Nat}
    (htimer : (task, client) ∈ state.timers) : Invariant (step state (.timer task client)) := by
  have hfired := h.handles.fire htimer
  simp only [step, State.leftRelease]
  split_ifs with hstale
  · refine h.clear client (hfired.congr ?_) h.buttons ?_ ?_ ?_ ?_
    · intro other
      by_cases hsame : other = client <;> simp [State.setClient, hsame]
    · exact fun button owner howner => ⟨howner, rfl⟩
    · intro howner
      exact hstale.resolve_right (not_not.mpr howner)
    · intro other
      simp only [State.setClient, update_apply]
      split <;> rfl
    · intro other hclosed
      refine .inl ?_
      by_cases hsame : other = client
      · subst hsame
        simpa [State.setClient] using hclosed
      · simpa [State.setClient, hsame] using hclosed
  · push Not at hstale
    obtain ⟨hup, howner⟩ := hstale
    have howner : state.mousePressOwner buttonLeft = some client := howner
    have hup : state.mousePress buttonLeft = false := by simpa [State.setClient] using hup
    refine h.clear client (hfired.congr ?_) ?_ ?_ ?_ ?_ ?_
    · intro other
      by_cases hsame : other = client <;>
        simp [State.setOwner, State.buttonMouse, State.setClient, hsame]
    · intro other
      by_cases hsame : other = buttonLeft
      · subst hsame
        have hrel := (h.buttons buttonLeft).release (by simp [howner])
        simpa [State.setOwner, State.buttonMouse, State.setClient, hup] using hrel
      · simpa [State.setOwner, State.buttonMouse, State.setClient, hsame, Ne.symm hsame] using
          h.buttons other
    · intro button owner
      simp only [State.setOwner, State.buttonMouse, State.setClient, update_apply]
      split
      · simp
      · exact fun howner => ⟨howner, trivial⟩
    · simp [State.setOwner]
    · intro other
      simp only [State.setOwner, State.buttonMouse, State.setClient, update_apply]
      split <;> rfl
    · intro other hclosed
      refine .inl ?_
      by_cases hsame : other = client
      · subst hsame
        simpa [State.setOwner, State.buttonMouse, State.setClient] using hclosed
      · simpa [State.setOwner, State.buttonMouse, State.setClient, hsame] using hclosed

end

/-! ## Reset -/

lemma State.releaseOwned_facts (state : State) (client : Nat) (button : Int) :
    (releaseOwned client state button).timers = state.timers ∧
      (releaseOwned client state button).pushes = state.pushes ∧
      (releaseOwned client state button).clients = state.clients ∧
      ∀ other, (releaseOwned client state button).mousePressOwner other =
          (if other = button ∧ state.mousePressOwner other = some client then none
            else state.mousePressOwner other) ∧
        (releaseOwned client state button).mousePress other =
          (if other = button ∧ state.mousePressOwner other = some client then false
            else state.mousePress other) := by
  unfold State.releaseOwned
  split_ifs with howner
  · refine ⟨rfl, rfl, rfl, fun other => ?_⟩
    simp only [State.setOwner, State.setPress, State.buttonMouse, update_apply]
    by_cases hsame : other = button <;> simp [hsame, howner]
  · refine ⟨rfl, rfl, rfl, fun other => ?_⟩
    have hnot : ¬(other = button ∧ state.mousePressOwner other = some client) := by
      rintro ⟨rfl, hother⟩
      exact howner hother
    simp [hnot]

lemma State.releaseOwned_held {client : Nat}
    (h : ∀ button, Held button (state.mousePress button) (state.mousePressOwner button)
      (eventsOf button state.hostEvents)) (button other : Int) :
    Held other ((releaseOwned client state button).mousePress other)
      ((releaseOwned client state button).mousePressOwner other)
      (eventsOf other (releaseOwned client state button).hostEvents) := by
  unfold State.releaseOwned
  split_ifs with howner
  · by_cases hsame : other = button
    · subst hsame
      simpa [State.setOwner, State.setPress, State.buttonMouse] using
        (h other).release (by simp [howner])
    · simpa [State.setOwner, State.setPress, State.buttonMouse, hsame, Ne.symm hsame] using h other
  · exact h other

lemma State.releaseOwned_foldl (client : Nat) (buttons : List Int) (state : State) :
    (buttons.foldl (releaseOwned client) state).timers = state.timers ∧
      (buttons.foldl (releaseOwned client) state).pushes = state.pushes ∧
      (buttons.foldl (releaseOwned client) state).clients = state.clients ∧
      ∀ other, (buttons.foldl (releaseOwned client) state).mousePressOwner other =
          (if other ∈ buttons ∧ state.mousePressOwner other = some client then none
            else state.mousePressOwner other) ∧
        (buttons.foldl (releaseOwned client) state).mousePress other =
          (if other ∈ buttons ∧ state.mousePressOwner other = some client then false
            else state.mousePress other) := by
  induction buttons generalizing state with
  | nil => simp
  | cons button buttons ih =>
    obtain ⟨htimers, hpushes, hclients, hrest⟩ := ih (releaseOwned client state button)
    obtain ⟨htimers', hpushes', hclients', hfirst⟩ := state.releaseOwned_facts client button
    rw [List.foldl_cons]
    refine ⟨htimers.trans htimers', hpushes.trans hpushes', hclients.trans hclients', ?_⟩
    intro other
    rw [(hrest other).1, (hrest other).2, (hfirst other).1, (hfirst other).2]
    by_cases hsame : other = button <;>
      by_cases howner : state.mousePressOwner other = some client <;> simp_all

lemma State.releaseOwned_foldl_held (client : Nat) (buttons : List Int) {state : State}
    (h : ∀ button, Held button (state.mousePress button) (state.mousePressOwner button)
      (eventsOf button state.hostEvents)) (other : Int) :
    Held other ((buttons.foldl (releaseOwned client) state).mousePress other)
      ((buttons.foldl (releaseOwned client) state).mousePressOwner other)
      (eventsOf other (buttons.foldl (releaseOwned client) state).hostEvents) := by
  induction buttons generalizing state with
  | nil => exact h other
  | cons button buttons ih => exact ih (releaseOwned_held h button)

lemma State.releaseOwned_foldl_events (client : Nat) (buttons : List Int) (state : State)
    (other : Int) : eventsOf other (buttons.foldl (releaseOwned client) state).hostEvents =
      if other ∈ buttons ∧ state.mousePressOwner other = some client then
        true :: eventsOf other state.hostEvents else eventsOf other state.hostEvents := by
  induction buttons generalizing state with
  | nil => simp
  | cons button buttons ih =>
    rw [List.foldl_cons, ih, ((state.releaseOwned_facts client button).2.2.2 other).1]
    unfold State.releaseOwned
    by_cases hsame : other = button
    · subst hsame
      by_cases howner : state.mousePressOwner other = some client <;>
        simp [howner, State.setOwner, State.setPress, State.buttonMouse]
    · by_cases howner : state.mousePressOwner button = some client <;>
        simp [howner, hsame, Ne.symm hsame, State.setOwner, State.setPress, State.buttonMouse]

section

variable (h : Invariant state)

include h

lemma Invariant.reset_free (client : Nat) (button : Int) :
    (state.reset client).mousePressOwner button ≠ some client := by
  intro howner
  obtain ⟨-, -, -, hbuttons⟩ :=
    State.releaseOwned_foldl client [1, 2, 3, 4, 5] (state.cancelRelease client)
  rw [State.reset, (hbuttons button).1] at howner
  split at howner
  · simp at howner
  · next hnot =>
      have howner : state.mousePressOwner button = some client := howner
      have hrange := (h.buttons button).bounded (by simp [howner])
      refine hnot ⟨?_, howner⟩
      have hle : button ≤ 5 := hrange.2
      have hpos := hrange.1
      simp only [List.mem_cons, List.not_mem_nil, or_false]
      omega

lemma Invariant.reset (client : Nat) : Invariant (state.reset client) := by
  have hfree := h.reset_free client
  have hcancelled : ∀ button, Held button ((state.cancelRelease client).mousePress button)
      ((state.cancelRelease client).mousePressOwner button)
      (eventsOf button (state.cancelRelease client).hostEvents) := h.buttons
  have hheld := State.releaseOwned_foldl_held client [1, 2, 3, 4, 5] hcancelled
  obtain ⟨htimers, hpushes, hclients, hbuttons⟩ :=
    State.releaseOwned_foldl client [1, 2, 3, 4, 5] (state.cancelRelease client)
  change (state.reset client).timers = _ at htimers
  change (state.reset client).clients = _ at hclients
  change (state.reset client).pushes = _ at hpushes
  have hhandles : Timed (state.reset client) := by
    unfold Timed
    rw [htimers, hpushes, hclients]
    refine (h.handles.cancel client).congr fun other => ?_
    by_cases hsame : other = client <;> simp [State.cancelRelease, State.setClient, hsame]
  refine h.clear client hhandles hheld ?_ ?_ ?_ ?_
  · intro button owner howner
    obtain ⟨hafter, hpress⟩ := hbuttons button
    change (state.reset client).mousePressOwner button = _ at hafter
    change (state.reset client).mousePress button = _ at hpress
    rw [hafter] at howner
    rw [hpress]
    split at howner
    · simp at howner
    · next hnot => exact ⟨howner, if_neg hnot⟩
  · exact fun howner => absurd howner (hfree buttonLeft)
  · intro other
    rw [hclients]
    simp only [State.cancelRelease, State.setClient, update_apply]
    split <;> rfl
  · intro other hclosed
    by_cases hsame : other = client
    · exact .inr ⟨hsame, hfree⟩
    · rw [hclients] at hclosed
      exact .inl (by simpa [State.cancelRelease, State.setClient, hsame] using hclosed)

lemma Invariant.step {task : Task} (hadmits : admits state task) : Invariant (step state task) := by
  cases task with
  | button client button release =>
    exact h.delivered hadmits (state.passthroughButton_delivered client button release)
  | move client absolute => exact h.move client absolute
  | timer task client => exact h.timer hadmits
  | configure mouse => exact ⟨h.buttons, h.due, h.handles, h.gone⟩
  | reset client => exact h.reset client

end

lemma Invariant.of_reachable (h : worker.Reachable state) : Invariant state :=
  h.invariant Invariant.initial fun _ _ hinv hadmits => hinv.step hadmits

/-! ## Ownership -/

lemma Invariant.reset_events (h : Invariant state) (client : Nat) (button : Int) :
    eventsOf button (state.reset client).hostEvents =
      if state.mousePressOwner button = some client then
        true :: eventsOf button state.hostEvents else eventsOf button state.hostEvents := by
  rw [State.reset, State.releaseOwned_foldl_events]
  change (if button ∈ [1, 2, 3, 4, 5] ∧ state.mousePressOwner button = some client then
    true :: eventsOf button state.hostEvents else eventsOf button state.hostEvents) = _
  by_cases howner : state.mousePressOwner button = some client
  · have hrange := (h.buttons button).bounded (by simp [howner])
    have hle : button ≤ 5 := hrange.2
    have hmem : button ∈ [1, 2, 3, 4, 5] := by
      simp only [List.mem_cons, List.not_mem_nil, or_false]
      omega
    rw [if_pos ⟨hmem, howner⟩, if_pos howner]
  · rw [if_neg fun hboth => howner hboth.2, if_neg howner]

lemma Delivered.release_foreign {client other : Nat} {button : Int} {next : State}
    (h : Delivered state client button true next) (target : Int)
    (howner : state.mousePressOwner target = some other) (hne : other ≠ client) :
    next.mousePressOwner target = some other ∧
      eventsOf target next.hostEvents = eventsOf target state.hostEvents := by
  cases h with
  | ignored => exact ⟨howner, rfl⟩
  | released hown =>
    have htarget : target ≠ button := fun heq => hne (by simpa [heq, hown, eq_comm] using howner)
    simp [State.setOwner, State.buttonMouse, State.setPress, htarget, Ne.symm htarget, howner]
  | delayed => exact ⟨howner, rfl⟩

lemma State.leftRelease_foreign {client other : Nat} (target : Int)
    (howner : state.mousePressOwner target = some other) (hne : other ≠ client) :
    (state.leftRelease client).mousePressOwner target = some other ∧
      eventsOf target (state.leftRelease client).hostEvents = eventsOf target state.hostEvents := by
  unfold State.leftRelease
  dsimp only
  split_ifs with hstale
  · exact ⟨howner, rfl⟩
  · push Not at hstale
    have hleft : state.mousePressOwner buttonLeft = some client := hstale.2
    have htarget : target ≠ buttonLeft := fun heq => hne (by simpa [heq, hleft, eq_comm] using howner)
    simp [State.setOwner, State.buttonMouse, State.setClient, htarget, Ne.symm htarget, howner]

lemma Invariant.second_press (h : Invariant state) {task : Task} (hadmits : admits state task)
    {button : Int} (hpress : eventsOf button (Mouse.step state task).hostEvents =
      false :: eventsOf button state.hostEvents)
    (hlast : (eventsOf button state.hostEvents).head? = some false) :
    button = buttonLeft ∧ (∃ client, task = .button client buttonLeft false) ∧
      state.mousePress buttonLeft = false ∧ ∃ owner, state.mousePressOwner buttonLeft = some owner ∧
          (state.clients owner).mouseLeftButtonTimeout ≠ none := by
  have howned := (h.buttons button).last.mp hlast
  cases task with
  | button client pressed release =>
    have hdelivered := state.passthroughButton_delivered client pressed release
    change eventsOf button (state.passthroughButton client pressed release).hostEvents = _ at hpress
    generalize state.passthroughButton client pressed release = next at hdelivered hpress
    cases hdelivered with
    | ignored | delayed => simp [State.delayRelease, State.setPress, State.setClient] at hpress
    | pressed hbutton hup =>
      by_cases hsame : pressed = button
      · subst hsame
        by_cases hleft : pressed = buttonLeft
        · subst hleft
          obtain ⟨owner, howner⟩ := Option.ne_none_iff_exists'.mp howned
          exact ⟨rfl, ⟨client, rfl⟩, hup, owner, howner, h.due owner howner hup⟩
        · simp [(h.buttons pressed).owned hleft howned] at hup
      · simp [State.setOwner, State.buttonMouse, State.setPress, hsame] at hpress
    | released =>
      by_cases hsame : pressed = button <;>
        simp [State.setOwner, State.buttonMouse, State.setPress, hsame] at hpress
    | clicked =>
      by_cases hsame : buttonRight = button <;>
        simp [State.setOwner, State.buttonMouse, State.setPress, hsame] at hpress
  | move client absolute =>
    simp only [Mouse.step, State.passthroughMove] at hpress
    split at hpress <;> simp [State.setClient] at hpress
  | timer task client =>
    simp only [Mouse.step, State.leftRelease] at hpress
    split at hpress
    · simp [State.setClient] at hpress
    · by_cases hsame : buttonLeft = button <;>
        simp [State.setOwner, State.buttonMouse, State.setClient, hsame] at hpress
  | configure mouse => simp [Mouse.step] at hpress
  | reset client =>
    change eventsOf button (state.reset client).hostEvents = _ at hpress
    rw [h.reset_events] at hpress
    split at hpress <;> simp at hpress

/-- In every run: the host's last event for a button is a press iff the button has an
owner, and a recorded press has one; no release packet or delayed release of a client
touches the buttons of another; releases come only after presses, and all buttons
alternate but for a press of the left one while its release is due; and a reset task
releases all its client owns. -/
theorem mouse_button_ownership (h : worker.Reachable state) :
    (∀ button, (eventsOf button state.hostEvents).head? = some false ↔
      state.mousePressOwner button ≠ none) ∧
      (∀ button, state.mousePress button = true → state.mousePressOwner button ≠ none) ∧
      (∀ client other button target, state.mousePressOwner target = some other → other ≠ client →
        (state.passthroughButton client button true).mousePressOwner target = some other ∧
          eventsOf target (state.passthroughButton client button true).hostEvents =
            eventsOf target state.hostEvents) ∧
      (∀ task client other target, state.mousePressOwner target = some other → other ≠ client →
        (step state (.timer task client)).mousePressOwner target = some other ∧
          eventsOf target (step state (.timer task client)).hostEvents =
            eventsOf target state.hostEvents) ∧
      (∀ button ≠ buttonLeft, Alternates (eventsOf button state.hostEvents)) ∧
      (∀ button, Closes (eventsOf button state.hostEvents)) ∧ (∀ task button, admits state task →
        eventsOf button (step state task).hostEvents = false :: eventsOf button state.hostEvents →
        (eventsOf button state.hostEvents).head? = some false →
        button = buttonLeft ∧ (∃ client, task = .button client buttonLeft false) ∧
          state.mousePress buttonLeft = false ∧ ∃ owner,
            state.mousePressOwner buttonLeft = some owner ∧
              (state.clients owner).mouseLeftButtonTimeout ≠ none) ∧
      (∀ client button, (state.reset client).mousePressOwner button ≠ some client ∧
        (state.mousePressOwner button = some client →
          eventsOf button (state.reset client).hostEvents =
            true :: eventsOf button state.hostEvents)) ∧
      (∀ client, (state.clients client).closed = true →
        ∀ button, state.mousePressOwner button ≠ some client) := by
  have hinv := Invariant.of_reachable h
  refine ⟨fun button => (hinv.buttons button).last, fun button => (hinv.buttons button).pressed,
    ?_, ?_, fun button => (hinv.buttons button).alternates,
    fun button => (hinv.buttons button).closes, ?_, ?_, ?_⟩
  · intro client other button target howner hne
    exact (state.passthroughButton_delivered client button true).release_foreign target howner hne
  · intro task client other target howner hne
    exact State.leftRelease_foreign target howner hne
  · intro task button hadmits hpress hlast
    exact hinv.second_press hadmits hpress hlast
  · intro client button
    refine ⟨hinv.reset_free client button, fun howner => ?_⟩
    rw [hinv.reset_events, if_pos howner]
  · intro client hclosed
    exact (hinv.gone client hclosed).2

def doubleClick : List Task :=
  [.button 0 buttonLeft false, .button 0 buttonLeft true, .button 0 buttonLeft false]

theorem mouse_button_ownership_doubleClick :
    (worker.run worker.init doubleClick).mousePressOwner buttonLeft ≠ none := by
  have hfollows : worker.Follows (fun _ _ => True) worker.init doubleClick := by decide
  exact (mouse_button_ownership (System.Segment.of_follows .refl hfollows)).2.1 buttonLeft (by decide)

/-- The second press of a double click reaches the host before the release. -/
theorem left_press_twice :
    ¬∀ state, worker.Reachable state → ∀ button, Alternates (eventsOf button state.hostEvents) := by
  have hfollows : worker.Follows (fun _ _ => True) worker.init doubleClick := by decide
  intro hclaim
  have halternates := hclaim _ (System.Segment.of_follows .refl hfollows) buttonLeft
  exact absurd halternates (by decide)

end Vibeshine.Input.Mouse
