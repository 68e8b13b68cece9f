import Vibeshine.Library.System
import Mathlib.Data.List.Nodup

/-! # Host stream control

`host_stream_control`: activities enter freely while the epoch is even; a terminal
action makes the epoch odd, drains the activities, and runs alone. Every locked section
is one step, together with what its thread does to its own locals, which no other thread
reads. A waiting call is a call whose next step is not taken yet.

Guards are scoped: the authorization and the action of `terminate` return with no guard
of their thread left.
-/

namespace Vibeshine.HostStream

open Library

/-- `local_t` of a thread. -/
structure Local where
  depth : Nat := 0
  registered : Bool := false
  terminal : Bool := false
  deriving DecidableEq

/-- Where a thread is in `terminate`. -/
inductive Phase where
  /-- not in it -/
  | idle
  /-- with the terminal lock, in the first `authorized` -/
  | authorizing
  /-- waiting for the last activity -/
  | draining
  /-- in the second `authorized` -/
  | reauthorizing
  /-- in the action -/
  | acting
  /-- before `reopen` -/
  | closing
  /-- before the terminal lock is released -/
  | unlocking
  deriving DecidableEq

/-- A ticket, with the number of terminal actions that had begun when it was taken. -/
structure Ticket where
  epoch : Nat
  begun : Nat
  deriving DecidableEq

/-- An entered activity guard; a start guard has a ticket, and is admitted or not once
it has compared the ticket. -/
structure Guard where
  id : Nat
  thread : Nat
  ticket : Option Ticket := none
  admitted : Option Bool := none
  deriving DecidableEq

/-- The comparison of `start_guard_t` at an epoch. -/
def Guard.compare (guard : Guard) (epoch : Nat) : Guard :=
  { guard with admitted := guard.ticket.map fun ticket =>
      ticket.epoch % 2 = 0 && ticket.epoch = epoch }

structure State where
  active : Nat := 0
  epoch : Nat := 0
  /-- the owner of the terminal lock -/
  terminal : Option Nat := none
  locals : Nat → Local := fun _ => {}
  phase : Nat → Phase := fun _ => .idle
  guards : List Guard := []
  callbacks : List Nat := []
  tickets : List Ticket := []
  /-- terminal actions that were admitted -/
  begun : Nat := 0
  /-- objects made so far -/
  made : Nat := 0

variable (s : State) (thread : Nat)

namespace State

/-- `epoch & 1`. -/
def closed : Bool := s.epoch % 2 = 1

def requestTicket : Ticket := ⟨s.epoch, s.begun⟩

/-- The constructor of `activity_guard_t`, with whether it entered. -/
def enter (ticket : Option Ticket) : Bool × State :=
  let mine := s.locals thread
  let entered := fun (mine : Local) (active : Nat) =>
    (true, { s with
      active := active
      locals := Function.update s.locals thread mine
      guards := { id := s.made, thread := thread, ticket := ticket } :: s.guards
      made := s.made + 1 })
  if mine.depth ≠ 0 || mine.terminal then entered { mine with depth := mine.depth + 1 } s.active
  else if s.closed then (false, s)
  else entered { mine with depth := mine.depth + 1, registered := true } (s.active + 1)

def judge (id : Nat) : State :=
  { s with guards := s.guards.map fun guard =>
      if guard.id = id then guard.compare s.epoch else guard }

/-- `unlock` of the activity guards of a thread. -/
def leave (guard : Guard) : State :=
  let mine := s.locals guard.thread
  let mine := { mine with depth := mine.depth - 1 }
  let s := { s with guards := s.guards.erase guard }
  if mine.depth = 0 && mine.registered then
    { s with
      active := s.active - 1
      locals := Function.update s.locals guard.thread { mine with registered := false } }
  else { s with locals := Function.update s.locals guard.thread mine }

/-- The constructor of `callback_guard_t`, with whether there is a reservation. -/
def reserve : Bool × State :=
  if s.closed && !(s.locals thread).registered then (false, s)
  else
    (true, { s with
      active := s.active + 1
      callbacks := s.made :: s.callbacks
      made := s.made + 1 })

def retire (id : Nat) : State :=
  { s with active := s.active - 1, callbacks := s.callbacks.erase id }

/-- `terminate` up to the terminal lock, with whether it was refused at once. -/
def terminate : Bool × State :=
  let mine := s.locals thread
  if mine.depth ≠ 0 || mine.terminal then (true, s)
  else if s.terminal = none then
    (false, { s with
      terminal := some thread
      phase := Function.update s.phase thread .authorizing })
  else (false, s)

def setPhase (phase : Phase) : State :=
  { s with phase := Function.update s.phase thread phase }

def authorize (answer : Bool) : State :=
  if answer then
    { s with epoch := s.epoch + 1, begun := s.begun + 1 }.setPhase thread .draining
  else s.setPhase thread .unlocking

def drain (timeout : Bool) : State :=
  if timeout then s.setPhase thread .closing
  else if s.active = 0 then s.setPhase thread .reauthorizing
  else s

def reauthorize (answer : Bool) : State :=
  if answer then
    { s with
      locals := Function.update s.locals thread
        ({ s.locals thread with terminal := true }) }.setPhase thread .acting
  else s.setPhase thread .closing

/-- The destructor of `reopen_t`. -/
def reopen : State :=
  { s with
    epoch := s.epoch + 1
    locals := Function.update s.locals thread
      ({ s.locals thread with terminal := false }) }.setPhase thread .unlocking

def unlock : State :=
  { s with terminal := none }.setPhase thread .idle

end State

/-! ## Runs -/

inductive Move where
  | requestTicket
  /-- the constructor of a guard, with a ticket for a start guard -/
  | enter (thread : Nat) (ticket : Option Ticket)
  | judge (guard : Guard)
  | leave (guard : Guard)
  | reserve (thread : Nat)
  | retire (id : Nat)
  | terminate (thread : Nat)
  | authorize (thread : Nat) (answer : Bool)
  | drain (thread : Nat) (timeout : Bool)
  | reauthorize (thread : Nat) (answer : Bool)
  /-- the action returned, or threw -/
  | finish (thread : Nat)
  | reopen (thread : Nat)
  | unlock (thread : Nat)

namespace State

/-- The thread runs its own code: outside of `terminate`, or in one of its callables. -/
def free : Prop :=
  s.phase thread = .idle ∨ s.phase thread = .authorizing ∨ s.phase thread = .reauthorizing ∨
    s.phase thread = .acting

def bare : Prop := ∀ guard ∈ s.guards, guard.thread ≠ thread

def Admits : Move → Prop
  | .requestTicket => True
  | .enter thread ticket => s.free thread ∧ ∀ value ∈ ticket, value ∈ s.tickets
  | .judge guard => guard ∈ s.guards ∧ guard.admitted = none ∧ s.free guard.thread
  | .leave guard => guard ∈ s.guards ∧ s.free guard.thread
  | .reserve thread => s.free thread
  | .retire id => id ∈ s.callbacks
  | .terminate thread => s.free thread
  | .authorize thread _ => s.phase thread = .authorizing ∧ s.bare thread
  | .drain thread _ => s.phase thread = .draining
  | .reauthorize thread _ => s.phase thread = .reauthorizing ∧ s.bare thread
  | .finish thread => s.phase thread = .acting ∧ s.bare thread
  | .reopen thread => s.phase thread = .closing
  | .unlock thread => s.phase thread = .unlocking

def step : Move → State
  | .requestTicket => { s with tickets := s.requestTicket :: s.tickets }
  | .enter thread ticket => (s.enter thread ticket).2
  | .judge guard => s.judge guard.id
  | .leave guard => s.leave guard
  | .reserve thread => (s.reserve thread).2
  | .retire id => s.retire id
  | .terminate thread => (s.terminate thread).2
  | .authorize thread answer => s.authorize thread answer
  | .drain thread timeout => s.drain thread timeout
  | .reauthorize thread answer => s.reauthorize thread answer
  | .finish thread => s.setPhase thread .closing
  | .reopen thread => s.reopen thread
  | .unlock thread => s.unlock thread

def system : System State Move := { init := {}, admits := Admits, step := step }

end State

end Vibeshine.HostStream
