import Vibeshine.Library.System
import Mathlib.Tactic.Common

/-! # Single-flight admission of host mutations

`nvhttp::handoff::admission_t`: one mutation of the host at a time, and one start that
may wait for a running cancel. What a thread does under the mutex is one step; what it
does between two critical sections is kept as a call in flight. Ids are drawn from a
64-bit counter and are taken to be distinct.
-/

namespace Vibeshine.Handoff

open Library

inductive Operation where
  | start | cancel | other
  deriving DecidableEq

inductive Result where
  | admitted | waiting | busy
  deriving DecidableEq

inductive End where
  | disconnected | expired | stopping
  deriving DecidableEq

inductive Phase where
  | pending | reserved | running | done
  deriving DecidableEq

/-- `job_t`: a start that was answered with `waiting`, with the calls in flight on it. -/
structure Job where
  phase : Phase := .pending
  id : Nat := 0
  deadline : Nat := 0
  /-- `on_end` is set and was not moved out. -/
  onEnd : Bool := false
  /-- Whether the caller of `submit` gave an `on_end`. -/
  handler : Bool := false
  /-- The id that was active when the job was made. -/
  awaits : Nat := 0
  /-- Calls of `finish` that have reserved the job and not yet called `prepare`. -/
  preparing : Nat := 0
  /-- Calls of `prepared` that have not yet called `submit`. -/
  handing : Nat := 0
  /-- Calls of `abort` that wait for the mutex. -/
  aborting : List End := []
  /-- Calls of `abort` that took the job, with the `on_end` they moved out. -/
  ending : List (End × Bool) := []
  /-- The executor was given a closure that runs the job. -/
  submitted : Bool := false
  /-- The calls of the task, and the reasons with which `on_end` was called. -/
  runs : Nat := 0
  ended : List End := []
  deriving DecidableEq

inductive LeasePhase where
  | held | running | released
  deriving DecidableEq

/-- `lease_t`, alive until its destructor has called `finish`. A released lease is in
its destructor. -/
structure Lease where
  id : Nat
  operation : Operation
  phase : LeasePhase
  deriving DecidableEq

structure State where
  isStopping : Bool := false
  nextId : Nat := 0
  activeId : Nat := 0
  activeOperation : Operation := .other
  pending : Option Nat := none
  reserved : Option Nat := none
  /-- The jobs by the count of the submission that made them. -/
  jobs : Nat → Job := fun _ => {}
  created : Nat := 0
  leases : List Lease := []
  /-- The jobs whose `run` has left its critical section and not yet made its lease. -/
  claims : List Nat := []
  /-- The operations whose lease has called `finish`. -/
  finished : List (Nat × Operation) := []

/-- The arguments of `submit`. -/
structure Request where
  operation : Operation
  /-- The allocation of the lease succeeds. -/
  allocated : Bool := true
  /-- `make_peer`, if one is given, with whether it returns a peer. -/
  makePeer : Option Bool := none
  /-- `start` of the peer does not throw. -/
  started : Bool := true
  onEnd : Bool := false
  deadline : Nat := 0
  deriving DecidableEq

/-- A job that `abort` takes: its task is destroyed and its `on_end` moved out. -/
def Job.discard (job : Job) (reason : End) : Job :=
  { job with phase := .done, onEnd := false, ending := (reason, job.onEnd) :: job.ending }

variable (state : State)

namespace State

variable (job : Nat)

@[simps pending reserved activeId activeOperation leases claims created finished isStopping nextId]
def setJob (value : Job) : State :=
  { state with jobs := Function.update state.jobs job value }

variable (request : Request)

/-- `submit` of an idle host. An allocation that fails frees the id it had taken. -/
def letIn : Option Result × State :=
  let id := state.nextId + 1
  let taken := { state with nextId := id, activeOperation := request.operation }
  if request.allocated then
    (some .admitted,
      { taken with activeId := id, leases := state.leases ++ [⟨id, request.operation, .held⟩] })
  else (none, { taken with activeId := 0 })

/-- `submit` of a start that may wait. The job is dropped again if its peer throws. -/
def await : Option Result × State :=
  if request.started then
    (some .waiting,
      { state.setJob state.created
          { deadline := request.deadline, onEnd := request.onEnd, handler := request.onEnd,
            awaits := state.activeId } with
        pending := some state.created
        created := state.created + 1 })
  else (none, state)

/-- `submit`, with its answer unless it throws. -/
def submit : Option Result × State :=
  if state.isStopping then (some .busy, state)
  else if state.activeId = 0 then state.letIn request
  else if request.operation ≠ .start ∨ state.activeOperation ≠ .cancel ∨ state.pending.isSome ∨
      request.makePeer = none then (some .busy, state)
  else if request.makePeer = some false then (some .busy, state)
  else state.await request

/-- The critical section of `abort`. -/
def abort (reason : End) : State :=
  if (state.jobs job).phase = .pending ∧ state.pending = some job then
    { state.setJob job ((state.jobs job).discard reason) with pending := none }
  else if (state.jobs job).phase = .reserved ∧ state.reserved = some job ∧
      state.activeId = (state.jobs job).id then
    { state.setJob job ((state.jobs job).discard reason) with reserved := none, activeId := 0 }
  else state

/-- A call of `abort` starts. -/
def callAbort (reason : End) : State :=
  state.setJob job { state.jobs job with aborting := reason :: (state.jobs job).aborting }

def callAbort? (job : Option Nat) (reason : End) : State :=
  match job with
  | none => state
  | some job => state.callAbort job reason

/-- `stop`, which aborts what it finds after its critical section. -/
def stop : State :=
  let stopped := { state with isStopping := true }
  (stopped.callAbort? state.pending .stopping).callAbort? state.reserved .stopping

/-- The critical section of `finish`: a pending job is reserved, to be prepared. -/
def finish (id : Nat) : State :=
  if state.activeId ≠ id then state
  else
    match state.pending with
    | none => { state with activeId := 0 }
    | some job =>
      if state.isStopping then { state with activeId := 0 }
      else
        let next := state.nextId + 1
        let old := state.jobs job
        { state.setJob job
            { old with phase := .reserved, id := next, preparing := old.preparing + 1 } with
          pending := none
          nextId := next
          activeId := next
          activeOperation := .start
          reserved := some job }

/-- `prepare` of the peer of a reserved job, which throws or will report. -/
def prepare (thrown : Bool) : State :=
  let called := state.setJob job
    { state.jobs job with preparing := (state.jobs job).preparing - 1 }
  if thrown then called.callAbort job .stopping else called

/-- `prepared` up to the call of `submit`. -/
def prepared (ready : Bool) : State :=
  let old := state.jobs job
  if ¬ready then state.callAbort job .disconnected
  else if old.phase ≠ .reserved ∨ state.reserved ≠ some job ∨ state.isStopping then state
  else state.setJob job { old with handing := old.handing + 1 }

/-- The call of `submit` in `prepared`. -/
def handOver (thrown : Bool) : State :=
  let called := state.setJob job
    { state.jobs job with handing := (state.jobs job).handing - 1, submitted := true }
  if thrown then called.callAbort job .stopping else called

/-- Why `run` rejects a job, given whether its peer is connected and the times at which
the clock is read before and after asking it. -/
def rejection (isStopping : Bool) (deadline first second : Nat) (connected : Bool) : Option End :=
  if isStopping then some .stopping
  else if deadline ≤ first then some .expired
  else if ¬connected then some (if deadline ≤ second then .expired else .disconnected)
  else if deadline ≤ second then some .expired
  else none

/-- The critical section of `run`. -/
def run (first second : Nat) (connected : Bool) : State :=
  let old := state.jobs job
  if old.phase ≠ .reserved ∨ state.reserved ≠ some job ∨ state.activeId ≠ old.id then state
  else
    match rejection state.isStopping old.deadline first second connected with
    | some reason => state.callAbort job reason
    | none =>
      { state.setJob job { old with phase := .running, onEnd := false } with
        reserved := none
        claims := state.claims ++ [job] }

/-- `run` after its critical section: the lease is made and the task is called. -/
def launch : State :=
  let old := state.jobs job
  { state.setJob job { old with runs := old.runs + 1 } with
    claims := state.claims.erase job
    leases := state.leases ++ [⟨old.id, .start, .running⟩] }

def setLease (lease : Lease) (phase : LeasePhase) : State :=
  { state with leases := state.leases.erase lease ++ [{ lease with phase }] }

end State

inductive Input where
  | submit (request : Request)
  | stop
  /-- The executor calls the task of a lease. -/
  | execute (lease : Lease)
  /-- The task of a lease returns or throws. -/
  | complete (lease : Lease)
  /-- The closure of a lease is destroyed without having run. -/
  | drop (lease : Lease)
  /-- The destructor of a released lease calls `finish`. -/
  | finish (lease : Lease)
  | peerEnd (job : Nat) (expired : Bool)
  | prepare (job : Nat) (thrown : Bool)
  | prepared (job : Nat) (ready : Bool)
  | handOver (job : Nat) (thrown : Bool)
  | run (job : Nat) (first second : Nat) (connected : Bool)
  | launch (job : Nat)
  /-- A call of `abort` enters its critical section. -/
  | abort (job : Nat) (reason : End)
  /-- A call of `abort` that took its job calls `on_end`. -/
  | notify (job : Nat) (ending : End × Bool)
  deriving DecidableEq

/-- What the callers promise: a closure is run or destroyed once, a peer and an executor
call back for jobs they were given. -/
def admits : Input → Prop
  | .submit _ => True
  | .stop => True
  | .execute lease => lease ∈ state.leases ∧ lease.phase = .held
  | .complete lease => lease ∈ state.leases ∧ lease.phase = .running
  | .drop lease => lease ∈ state.leases ∧ lease.phase = .held
  | .finish lease => lease ∈ state.leases ∧ lease.phase = .released
  | .peerEnd job _ => job < state.created
  | .prepare job _ => job < state.created ∧ 0 < (state.jobs job).preparing
  | .prepared job _ => job < state.created ∧ (state.jobs job).id ≠ 0
  | .handOver job _ => job < state.created ∧ 0 < (state.jobs job).handing
  | .run job _ _ _ => job < state.created ∧ (state.jobs job).submitted
  | .launch job => job ∈ state.claims
  | .abort job reason => job < state.created ∧ reason ∈ (state.jobs job).aborting
  | .notify job ending => job < state.created ∧ ending ∈ (state.jobs job).ending

def step : Input → State
  | .submit request => (state.submit request).2
  | .stop => state.stop
  | .execute lease => state.setLease lease .running
  | .complete lease => state.setLease lease .released
  | .drop lease => state.setLease lease .released
  | .finish lease =>
    State.finish
      { state with
        leases := state.leases.erase lease
        finished := (lease.id, lease.operation) :: state.finished }
      lease.id
  | .peerEnd job expired => state.callAbort job (if expired then .expired else .disconnected)
  | .prepare job thrown => state.prepare job thrown
  | .prepared job ready => state.prepared job ready
  | .handOver job thrown => state.handOver job thrown
  | .run job first second connected => state.run job first second connected
  | .launch job => state.launch job
  | .abort job reason =>
    State.abort
      (state.setJob job
        { state.jobs job with aborting := (state.jobs job).aborting.erase reason })
      job reason
  | .notify job ending =>
    let old := state.jobs job
    state.setJob job
      { old with
        ending := old.ending.erase ending
        ended := if ending.2 then ending.1 :: old.ended else old.ended }

def admission : System State Input where
  init := {}
  admits := admits
  step := step

instance (state : State) : ∀ input, Decidable (admits state input)
  | .submit _ | .stop => .isTrue trivial
  | .execute _ | .complete _ | .drop _ | .finish _ | .prepare _ _ | .prepared _ _
  | .handOver _ _ | .run _ _ _ _ | .abort _ _ | .notify _ _ => inferInstanceAs (Decidable (_ ∧ _))
  | .peerEnd _ _ => inferInstanceAs (Decidable (_ < _))
  | .launch _ => inferInstanceAs (Decidable (_ ∈ _))

instance (state : State) (input : Input) : Decidable (admission.admits state input) :=
  inferInstanceAs (Decidable (admits state input))

end Vibeshine.Handoff
