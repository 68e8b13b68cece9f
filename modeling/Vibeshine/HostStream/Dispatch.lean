import Vibeshine.HostStream.Exclusion

/-! # Startup dispatch

`startup_dispatch_t`: a submission reserves the epoch of its ticket, and the reservation
is retired by the submitted closure, by the handler of a failed submission, or with its
last owner. The executor is free: it may run a closure on any thread, inside the
submitting call or later, more than once, or drop it.
-/

namespace Vibeshine.HostStream

open Library

inductive Call where
  /-- the executor runs, or returned normally -/
  | submitting
  /-- the executor threw -/
  | handling
  | left
  deriving DecidableEq

/-- `reservation_t`, with what was done under it. -/
structure Reservation where
  thread : Nat := 0
  ticket : Ticket := ⟨0, 0⟩
  runtime : Bool := true
  pending : Bool := false
  call : Call := .submitting
  /-- the last owner is gone -/
  destroyed : Bool := false
  /-- calls of `retire` that found it pending -/
  retired : Nat := 0
  finalized : Nat := 0
  deriving DecidableEq

inductive Stage where
  /-- the start guard has entered and compares its ticket -/
  | guarding
  /-- in the task -/
  | working
  /-- before `retire` -/
  | settling
  /-- in `finalize` -/
  | finalizing
  /-- before the guard is released -/
  | leaving
  | done
  deriving DecidableEq

structure Run where
  reservation : Nat := 0
  thread : Nat := 0
  handler : Bool := false
  /-- the start guard, when it entered and is not released -/
  guard : Option Guard := none
  stage : Stage := .done
  deriving DecidableEq

namespace Run

def admission (run : Run) : Bool := run.guard.any fun guard => guard.admitted = some true

def guarded (run : Run) : Stage := if run.handler then .settling else .working

/-- The run has called `retire`. -/
def settled (run : Run) : Bool :=
  match run.stage with
  | .finalizing | .leaving | .done => true
  | .guarding | .working | .settling => false

end Run

/-- The dispatch with the control it runs under, and the runs made so far. -/
structure Dispatch where
  control : State := {}
  /-- `state_t::pending` -/
  pending : Nat → Option Nat := fun _ => none
  responses : Nat := 0
  reservations : Nat → Reservation := fun _ => {}
  made : Nat := 0
  runs : Nat → Run := fun _ => {}
  started : Nat := 0

namespace Dispatch

variable (s : Dispatch)

/-- The constructor of `reservation_t`. -/
def reserve (thread : Nat) (ticket : Ticket) (runtime : Bool) : Dispatch :=
  { s with
    pending := if runtime then
        Function.update s.pending ticket.epoch (some ((s.pending ticket.epoch).getD 0 + 1))
      else s.pending
    responses := if runtime then s.responses else s.responses + 1
    reservations := Function.update s.reservations s.made
      ({ thread := thread, ticket := ticket, runtime := runtime, pending := true })
    made := s.made + 1 }

/-- `reservation_t::retire`, with its answer. -/
def retire (id : Nat) : Bool × Dispatch :=
  let mine := s.reservations id
  if mine.pending then
    (true, { s with
      pending := if mine.runtime then
          Function.update s.pending mine.ticket.epoch
            ((s.pending mine.ticket.epoch).bind fun count =>
              if count - 1 = 0 then none else some (count - 1))
        else s.pending
      responses := if mine.runtime then s.responses else s.responses - 1
      reservations := Function.update s.reservations id
        ({ mine with pending := false, retired := mine.retired + 1 }) })
  else (false, s)

def count : Nat :=
  if s.control.closed then 0 else (s.pending s.control.epoch).getD 0

variable (index : Nat)

def setRun (run : Run) : Dispatch :=
  { s with runs := Function.update s.runs index run }

def addRun (run : Run) : Dispatch :=
  { s with runs := Function.update s.runs s.started run, started := s.started + 1 }

/-- A closure, or the handler of a failed submission, is run on a thread; a response has
no start guard. -/
def start (id thread : Nat) (handler : Bool) : Dispatch :=
  let mine := s.reservations id
  let run : Run := { reservation := id, thread := thread, handler := handler }
  let entered := s.control.enter thread (some mine.ticket)
  if mine.runtime && entered.1 then
    { s with control := entered.2 }.addRun
      ({ run with
        guard := some ({ id := s.control.made, thread := thread, ticket := some mine.ticket })
        stage := .guarding })
  else s.addRun ({ run with stage := run.guarded })

def compare (s : Dispatch) (index : Nat) : Dispatch :=
  let run := s.runs index
  { s with control := run.guard.elim s.control fun guard => s.control.judge guard.id }.setRun index
    ({ run with
      guard := run.guard.map (Guard.compare · s.control.epoch)
      stage := run.guarded })

def work : Dispatch :=
  s.setRun index ({ s.runs index with stage := .settling })

/-- `retire` of a run, which goes on to `finalize` under its admission. -/
def settle : Dispatch :=
  let run := s.runs index
  let retired := s.retire run.reservation
  if retired.1 && run.admission then
    let mine := retired.2.reservations run.reservation
    { retired.2 with
      reservations := Function.update retired.2.reservations run.reservation
        ({ mine with finalized := mine.finalized + 1 }) }.setRun index
      ({ run with stage := .finalizing })
  else retired.2.setRun index ({ run with stage := .leaving })

/-- `finalize` returned, or threw. -/
def finalize : Dispatch :=
  s.setRun index ({ s.runs index with stage := .leaving })

def finish : Dispatch :=
  let run := s.runs index
  { s with control := run.guard.elim s.control s.control.leave }.setRun index
    ({ run with guard := none, stage := .done })

def setCall (id : Nat) (call : Call) : Dispatch :=
  { s with
    reservations := Function.update s.reservations id ({ s.reservations id with call := call }) }

/-- The destructor of `reservation_t`. -/
def destroy (id : Nat) : Dispatch :=
  let s := (s.retire id).2
  { s with
    reservations := Function.update s.reservations id
      ({ s.reservations id with destroyed := true }) }

/-! ## Runs -/

inductive Move where
  /-- what other code does to the control -/
  | control (move : HostStream.Move)
  /-- `submit_with_ticket`, up to the executor -/
  | submit (thread : Nat) (ticket : Ticket)
  /-- `post_response`, up to the executor -/
  | postResponse (thread : Nat)
  | start (id thread : Nat)
  /-- the executor threw -/
  | handle (id : Nat)
  | compare (index : Nat)
  | work (index : Nat)
  | settle (index : Nat)
  | finalize (index : Nat)
  | finish (index : Nat)
  /-- the submitting call is left -/
  | leave (id : Nat)
  | destroy (id : Nat)

def ready (stage : Stage) : Prop :=
  index < s.started ∧ (s.runs index).stage = stage ∧ s.control.free (s.runs index).thread

def Admits (s : Dispatch) : Move → Prop
  | .control move => s.control.Admits move ∧
      -- the start guard of a run is its own
      ∀ index < s.started, ∀ guard ∈ (s.runs index).guard, move ≠ .judge guard ∧ move ≠ .leave guard
  | .submit thread ticket => s.control.free thread ∧ ticket ∈ s.control.tickets
  | .postResponse thread => s.control.free thread
  | .start id thread => id < s.made ∧ (s.reservations id).destroyed = false ∧ s.control.free thread
  | .handle id => id < s.made ∧ (s.reservations id).call = .submitting ∧
      s.control.free (s.reservations id).thread
  | .compare index => s.ready index .guarding
  | .work index => s.ready index .working
  | .settle index => s.ready index .settling
  | .finalize index => s.ready index .finalizing
  | .finish index => s.ready index .leaving
  | .leave id => id < s.made ∧ (s.reservations id).call ≠ .left ∧
      s.control.free (s.reservations id).thread ∧
      ∀ index < s.started, (s.runs index).reservation = id → (s.runs index).handler = true →
        (s.runs index).stage = .done
  | .destroy id => id < s.made ∧ (s.reservations id).destroyed = false ∧
      (s.reservations id).call = .left ∧
      ∀ index < s.started, (s.runs index).reservation = id → (s.runs index).stage = .done

def step (s : Dispatch) : Move → Dispatch
  | .control move => { s with control := s.control.step move }
  | .submit thread ticket => s.reserve thread ticket true
  | .postResponse thread => s.reserve thread ⟨0, 0⟩ false
  | .start id thread => s.start id thread false
  | .handle id => (s.setCall id .handling).start id (s.reservations id).thread true
  | .compare index => s.compare index
  | .work index => s.work index
  | .settle index => s.settle index
  | .finalize index => s.finalize index
  | .finish index => s.finish index
  | .leave id => s.setCall id .left
  | .destroy id => s.destroy id

def system : System Dispatch Move := { init := {}, admits := Admits, step := step }

end Dispatch

end Vibeshine.HostStream
