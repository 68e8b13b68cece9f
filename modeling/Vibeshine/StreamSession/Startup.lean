import Vibeshine.Library.System
import Mathlib.Logic.Function.Basic
import Mathlib.Tactic.Common

/-! # Starting and stopping a session

`session::start` against the sweeps of `controlBroadcastThread` and calls of
`request_stop`. Every access to a shared field of the session is one step of its thread. The
session list is locked for the whole of a sweep and for the publication, and for nothing
else in `start`.
-/

namespace Vibeshine.StreamSession

open Library

/-- `session::state_e`. -/
inductive SessionState where
  | stopped
  | stopping
  | starting
  | running
  deriving DecidableEq

/-- `stop_reason_e`. -/
inductive StopReason where
  | none
  | abrupt
  | graceful
  deriving DecidableEq

/-- Where `session::start` is. -/
inductive Phase where
  /-- after `alloc` -/
  | allocated
  /-- in the session list -/
  | published
  /-- with its `pingTimeout` -/
  | armed
  /-- with its threads -/
  | spawned
  /-- after the `RUNNING` store -/
  | running
  deriving DecidableEq

inductive Thread where
  | control
  | other (id : Nat)
  deriving DecidableEq

/-- A call of `request_stop`, with the time of the sweep that made it for a ping timeout. -/
structure Call where
  reason : StopReason
  deadline : Option Nat := none
  deriving DecidableEq

inductive Pc where
  | idle
  /-- in a sweep, before the session; `now` is the time of the sweep -/
  | sweeping (now : Nat)
  /-- in a sweep, after the deadline -/
  | swept
  /-- in `while_starting_do_nothing` -/
  | waiting (call : Call)
  /-- before the load of the state -/
  | checking (call : Call)
  /-- before the exchange of the reason -/
  | exchanging (call : Call)
  /-- before the input is reset and the shutdown is raised -/
  | cleaning (call : Call)
  /-- before the `STOPPING` store -/
  | storing (call : Call)
  deriving DecidableEq

structure State where
  now : Nat
  phase : Phase := .allocated
  state : SessionState := .stopped
  stopReason : StopReason := .none
  /-- `time_point {}` at first -/
  pingTimeout : Nat := 0
  listed : Bool := false
  clientDisconnected : Bool := false
  inputReset : Bool := false
  shutdown : Bool := false
  controlEnd : Bool := false
  pcs : Thread → Pc := fun _ => .idle
  /-- when `start` set `pingTimeout` -/
  armedAt : Option Nat := none
  /-- the sweeps that stopped the session for a ping timeout -/
  timeouts : List Nat := []
  /-- the calls of `request_stop` that returned -/
  returned : Nat := 0

def State.setPc (s : State) (thread : Thread) (pc : Pc) : State :=
  { s with pcs := Function.update s.pcs thread pc }

/-- The return of `request_stop`: a sweep goes on. -/
def State.returns (s : State) (thread : Thread) (call : Call) : State :=
  { s.setPc thread (if call.deadline.isSome then .swept else .idle) with
    returned := s.returned + 1 }

/-- The next step of `session::start`; `timeout` is `config::stream.ping_timeout`. -/
def State.start (timeout : Nat) (s : State) : State :=
  match s.phase with
  | .allocated => { s with phase := .published, listed := true }
  | .published =>
    { s with phase := .armed, pingTimeout := s.now + timeout, armedAt := some s.now }
  | .armed => { s with phase := .spawned }
  | .spawned => { s with phase := .running, state := .running }
  | .running => s

def State.advance (s : State) (thread : Thread) : State :=
  match s.pcs thread with
  | .idle => s
  | .sweeping now =>
    if now > s.pingTimeout then
      { s with clientDisconnected := true }.setPc thread
        (.waiting { reason := .abrupt, deadline := some now })
    else s.setPc thread .swept
  | .swept =>
    if s.state = .stopping then
      { s with listed := false, controlEnd := true }.setPc thread .idle
    else s.setPc thread .idle
  | .waiting call => if s.state = .starting then s else s.setPc thread (.checking call)
  | .checking call =>
    if s.state ≠ .running then s.returns thread call else s.setPc thread (.exchanging call)
  | .exchanging call =>
    if s.stopReason ≠ .none then s.returns thread call
    else { s with stopReason := call.reason }.setPc thread (.cleaning call)
  | .cleaning call =>
    { s with inputReset := true, shutdown := true }.setPc thread (.storing call)
  | .storing call =>
    { s with state := .stopping, timeouts := s.timeouts ++ call.deadline.toList }.returns
      thread call

inductive Input where
  /-- time passes -/
  | tick (elapsed : Nat)
  | start
  /-- the control thread begins a sweep that sees the session -/
  | sweep
  /-- the control thread receives an event of the session's peer -/
  | receive
  /-- a thread calls `request_stop` -/
  | request (thread : Thread) (reason : StopReason)
  | advance (thread : Thread)

def State.admits (s : State) : Input → Prop
  | .tick _ => True
  | .start => s.phase ≠ .running
  | .sweep => s.pcs .control = .idle ∧ s.listed = true
  | .receive => s.pcs .control = .idle ∧ s.listed = true
  | .request thread reason =>
    s.pcs thread = .idle ∧ s.phase ≠ .allocated ∧ reason ≠ .none
  | .advance thread => s.pcs thread ≠ .idle

def State.step (timeout : Nat) (s : State) : Input → State
  | .tick elapsed => { s with now := s.now + elapsed }
  | .start => s.start timeout
  | .sweep => s.setPc .control (.sweeping s.now)
  | .receive => { s with pingTimeout := s.now + timeout }
  | .request thread reason => s.setPc thread (.waiting { reason := reason })
  | .advance thread => s.advance thread

/-- A session from its allocation on; `boot` is the time of the steady clock then. -/
def startup (timeout boot : Nat) : System State Input where
  init := { now := boot }
  admits := State.admits
  step := State.step timeout

/-- No sweep compares the deadline before it is set, and no stop looks at the state before
the session runs. -/
def Orderly (s : State) : Input → Prop
  | .advance thread =>
    match s.pcs thread with
    | .sweeping _ => s.phase ≠ .published
    | .checking _ => s.phase = .running
    | _ => True
  | _ => True

/-! ## The invariant -/

/-- The call was made for a deadline that had passed since `start` set it. -/
def State.Due (timeout : Nat) (s : State) (deadline : Option Nat) : Prop :=
  ∀ time, deadline = some time →
    ∃ armed, s.armedAt = some armed ∧ armed + timeout < time ∧ time ≤ s.now

def State.Holds (timeout : Nat) (s : State) : Pc → Prop
  | .idle => True
  | .sweeping now => s.phase ≠ .allocated ∧ now ≤ s.now
  | .swept => True
  | .waiting call => s.Due timeout call.deadline ∧ call.reason ≠ .none
  | .checking call => s.Due timeout call.deadline ∧ call.reason ≠ .none
  | .exchanging call => s.Due timeout call.deadline ∧ call.reason ≠ .none ∧ s.phase = .running
  | .cleaning call => s.Due timeout call.deadline ∧ s.phase = .running ∧ s.stopReason ≠ .none
  | .storing call => s.Due timeout call.deadline ∧ s.phase = .running ∧ s.stopReason ≠ .none

/-- The thread is about to store `STOPPING`. -/
def Pc.Stops : Pc → Prop
  | .cleaning _ => True
  | .storing _ => True
  | _ => False

/-- A stop is final, and on its way where a thread has won the exchange. -/
structure State.Inv (timeout : Nat) (s : State) : Prop where
  holds : ∀ thread, s.Holds timeout (s.pcs thread)
  listed : s.listed = true → s.phase ≠ .allocated
  unarmed : s.phase = .allocated ∨ s.phase = .published → s.armedAt = none
  armed : s.phase ≠ .allocated → s.phase ≠ .published →
    ∃ armed, s.armedAt = some armed ∧ armed + timeout ≤ s.pingTimeout ∧ armed ≤ s.now
  before : s.phase ≠ .running → s.state = .stopped ∧ s.stopReason = .none
  after : s.phase = .running → s.state = .running ∨ s.state = .stopping
  reason : s.stopReason ≠ .none → s.state = .stopping ∨ ∃ thread, (s.pcs thread).Stops
  stopping : s.state = .stopping → s.stopReason ≠ .none
  timeouts : ∀ time ∈ s.timeouts, s.Due timeout (some time)
  returned : 0 < s.returned → s.stopReason ≠ .none

variable {timeout : Nat} {s t : State}

/-- What a step leaves as it was. -/
structure Later (s t : State) : Prop where
  now : s.now ≤ t.now
  armedAt : ∀ armed, s.armedAt = some armed → t.armedAt = some armed
  published : s.phase ≠ .allocated → t.phase ≠ .allocated
  running : s.phase = .running → t.phase = .running
  reason : s.stopReason ≠ .none → t.stopReason ≠ .none

lemma State.Due.later {deadline : Option Nat} (h : s.Due timeout deadline) (hlater : Later s t) :
    t.Due timeout deadline := by
  intro time htime
  obtain ⟨armed, harmed, hless, hle⟩ := h time htime
  exact ⟨armed, hlater.armedAt armed harmed, hless, Nat.le_trans hle hlater.now⟩

lemma State.Holds.later {pc : Pc} (h : s.Holds timeout pc) (hlater : Later s t) :
    t.Holds timeout pc := by
  cases pc with
  | idle | swept => trivial
  | sweeping now => exact ⟨hlater.published h.1, Nat.le_trans h.2 hlater.now⟩
  | waiting _ | checking _ => exact ⟨h.1.later hlater, h.2⟩
  | exchanging call => exact ⟨h.1.later hlater, h.2.1, hlater.running h.2.2⟩
  | cleaning _ | storing _ => exact ⟨h.1.later hlater, hlater.running h.2.1, hlater.reason h.2.2⟩

lemma holds_update (h : ∀ thread, s.Holds timeout (s.pcs thread)) (hlater : Later s t)
    {thread : Thread} {pc : Pc} (hpcs : t.pcs = Function.update s.pcs thread pc)
    (hpc : t.Holds timeout pc) (other : Thread) : t.Holds timeout (t.pcs other) := by
  rw [hpcs]
  by_cases hsame : other = thread
  · rw [hsame, Function.update_self]
    exact hpc
  · rw [Function.update_of_ne hsame]
    exact (h other).later hlater

lemma stops_update {pcs : Thread → Pc} (h : ∃ thread, (pcs thread).Stops) {thread : Thread}
    {pc : Pc} (hpc : (pcs thread).Stops → pc.Stops) :
    ∃ other, (Function.update pcs thread pc other).Stops := by
  obtain ⟨other, hstops⟩ := h
  by_cases hsame : other = thread
  · subst hsame
    exact ⟨other, by rw [Function.update_self]; exact hpc hstops⟩
  · exact ⟨other, by rwa [Function.update_of_ne hsame]⟩

section

variable (h : s.Inv timeout)

include h

lemma State.Inv.setPc {thread : Thread} {pc : Pc}
    (hpc : s.Holds timeout pc) (hstops : (s.pcs thread).Stops → pc.Stops) :
    (s.setPc thread pc).Inv timeout :=
  { h with
    holds := holds_update h.holds ⟨Nat.le_refl _, fun _ h => h, fun h => h, fun h => h,
      fun h => h⟩ rfl (by cases pc <;> exact hpc)
    reason := fun hreason => (h.reason hreason).imp_right fun hstop => stops_update hstop hstops }

lemma State.Inv.returns {thread : Thread} {call : Call}
    (hreason : s.stopReason ≠ .none) (hstops : ¬ (s.pcs thread).Stops) :
    (s.returns thread call).Inv timeout := by
  have hmoved : (s.setPc thread (if call.deadline.isSome then .swept else .idle)).Inv timeout :=
    h.setPc (by split <;> trivial) (fun hstop => absurd hstop hstops)
  exact { hmoved with returned := fun _ => hreason }

/-! ## Steps -/

lemma inv_start : (s.start timeout).Inv timeout := by
  unfold State.start
  split
  · next hphase =>
    have hnone := h.unarmed (.inl hphase)
    have hbefore : s.phase ≠ .running := by rw [hphase]; decide
    obtain ⟨hstate, hreason⟩ := h.before hbefore
    have hlater : Later s { s with phase := .published, listed := true } :=
      ⟨Nat.le_refl _, fun _ h => h, fun _ => by simp, fun h => absurd h hbefore, fun h => h⟩
    exact { h with
      holds := fun thread => (h.holds thread).later hlater
      listed := fun _ => by simp
      unarmed := fun _ => hnone
      armed := fun _ hne => absurd rfl hne
      before := fun _ => ⟨hstate, hreason⟩
      after := fun hrun => by cases hrun
      timeouts := fun time hmem => (h.timeouts time hmem).later hlater }
  · next hphase =>
    have hnone := h.unarmed (.inr hphase)
    have hbefore : s.phase ≠ .running := by rw [hphase]; decide
    obtain ⟨hstate, hreason⟩ := h.before hbefore
    have hlater : Later s
        { s with phase := .armed, pingTimeout := s.now + timeout, armedAt := some s.now } :=
      ⟨Nat.le_refl _, fun _ h => (nomatch hnone.symm.trans h), fun _ => by simp,
        fun h => absurd h hbefore, fun h => h⟩
    exact { h with
      holds := fun thread => (h.holds thread).later hlater
      listed := fun _ => by simp
      unarmed := fun h => by rcases h with h | h <;> cases h
      armed := fun _ _ => ⟨s.now, rfl, Nat.le_refl _, Nat.le_refl _⟩
      before := fun _ => ⟨hstate, hreason⟩
      after := fun hrun => by cases hrun
      timeouts := fun time hmem => (h.timeouts time hmem).later hlater }
  · next hphase =>
    have hbefore : s.phase ≠ .running := by rw [hphase]; decide
    obtain ⟨hstate, hreason⟩ := h.before hbefore
    have hlater : Later s { s with phase := .spawned } :=
      ⟨Nat.le_refl _, fun _ h => h, fun _ => by simp, fun h => absurd h hbefore, fun h => h⟩
    exact { h with
      holds := fun thread => (h.holds thread).later hlater
      listed := fun _ => by simp
      unarmed := fun h => by rcases h with h | h <;> cases h
      armed := fun _ _ => h.armed (by rw [hphase]; decide) (by rw [hphase]; decide)
      before := fun _ => ⟨hstate, hreason⟩
      after := fun hrun => by cases hrun
      timeouts := fun time hmem => (h.timeouts time hmem).later hlater }
  · next hphase =>
    have hbefore : s.phase ≠ .running := by rw [hphase]; decide
    obtain ⟨hstate, hreason⟩ := h.before hbefore
    have hlater : Later s { s with phase := .running, state := .running } :=
      ⟨Nat.le_refl _, fun _ h => h, fun _ => by simp, fun _ => rfl, fun h => h⟩
    exact { h with
      holds := fun thread => (h.holds thread).later hlater
      listed := fun _ => by simp
      unarmed := fun h => by rcases h with h | h <;> cases h
      armed := fun _ _ => h.armed (by rw [hphase]; decide) (by rw [hphase]; decide)
      before := fun hrun => absurd rfl hrun
      after := fun _ => .inl rfl
      reason := fun hne => absurd hreason hne
      stopping := fun hstop => by cases hstop
      timeouts := fun time hmem => (h.timeouts time hmem).later hlater }
  · exact h

lemma inv_advance {thread : Thread}
    (hord : Orderly s (.advance thread)) : (s.advance thread).Inv timeout := by
  have hholds := h.holds thread
  unfold State.advance
  split
  · exact h
  · next now hpc =>
    rw [hpc] at hholds
    simp only [Orderly, hpc] at hord
    have hstops : ¬ (s.pcs thread).Stops := by rw [hpc]; exact id
    split
    · next hpassed =>
      -- the deadline is set, so it has passed since
      obtain ⟨armed, harmed, hdeadline, -⟩ := h.armed hholds.1 hord
      have hmoved : (s.setPc thread (.waiting { reason := .abrupt, deadline := some now })).Inv
          timeout := by
        refine h.setPc ⟨?_, fun hnone => by cases hnone⟩ (fun hstop => absurd hstop hstops)
        rintro time ⟨⟩
        exact ⟨armed, harmed, by omega, hholds.2⟩
      exact { hmoved with }
    · exact h.setPc trivial (fun hstop => absurd hstop hstops)
  · next hpc =>
    have hstops : ¬ (s.pcs thread).Stops := by rw [hpc]; exact id
    have hmoved : (s.setPc thread .idle).Inv timeout :=
      h.setPc trivial (fun hstop => absurd hstop hstops)
    split
    · exact { hmoved with listed := fun hlisted => by cases hlisted }
    · exact hmoved
  · next call hpc =>
    rw [hpc] at hholds
    split
    · exact h
    · exact h.setPc hholds (fun hstop => by rw [hpc] at hstop; exact hstop)
  · next call hpc =>
    rw [hpc] at hholds
    simp only [Orderly, hpc] at hord
    have hstops : ¬ (s.pcs thread).Stops := by rw [hpc]; exact id
    split
    · next hstate =>
      -- the session runs, so it is stopping
      have hstopping := (h.after hord).resolve_left hstate
      exact h.returns (h.stopping hstopping) hstops
    · exact h.setPc ⟨hholds.1, hholds.2, hord⟩ (fun hstop => absurd hstop hstops)
  · next call hpc =>
    rw [hpc] at hholds
    obtain ⟨hdue, hreason, hrunning⟩ := hholds
    have hstops : ¬ (s.pcs thread).Stops := by rw [hpc]; exact id
    split
    · next hset => exact h.returns hset hstops
    · have hlater : Later s
          ({ s with stopReason := call.reason }.setPc thread (.cleaning call)) :=
        ⟨Nat.le_refl _, fun _ h => h, fun h => h, fun h => h, fun _ => hreason⟩
      exact {
        holds := holds_update h.holds hlater rfl ⟨hdue, hrunning, hreason⟩
        listed := h.listed
        unarmed := h.unarmed
        armed := h.armed
        before := fun hne => absurd hrunning hne
        after := h.after
        reason := fun _ => .inr ⟨thread, by simp [State.setPc, Pc.Stops]⟩
        stopping := fun _ => hreason
        timeouts := h.timeouts
        returned := fun _ => hreason }
  · next call hpc =>
    rw [hpc] at hholds
    have hmoved : (s.setPc thread (.storing call)).Inv timeout := h.setPc hholds fun _ => trivial
    exact { hmoved with }
  · next call hpc =>
    rw [hpc] at hholds
    obtain ⟨hdue, hrunning, hreason⟩ := hholds
    have hlater : Later s ({ s with
        state := .stopping, timeouts := s.timeouts ++ call.deadline.toList }.returns thread
          call) :=
      ⟨Nat.le_refl _, fun _ h => h, fun h => h, fun h => h, fun h => h⟩
    exact {
      holds := holds_update h.holds hlater rfl (by split <;> trivial)
      listed := h.listed
      unarmed := h.unarmed
      armed := h.armed
      before := fun hne => absurd hrunning hne
      after := fun _ => .inr rfl
      reason := fun _ => .inl rfl
      stopping := fun _ => hreason
      timeouts := List.forall_mem_append.mpr ⟨h.timeouts, fun time hmem => by
        rw [Option.mem_toList] at hmem
        rw [← Option.mem_def.mp hmem]
        exact hdue⟩
      returned := fun _ => hreason }

lemma inv_step {input : Input} (hadmits : s.admits input)
    (hord : Orderly s input) : (s.step timeout input).Inv timeout := by
  cases input with
  | tick elapsed =>
    have hlater : Later s { s with now := s.now + elapsed } :=
      ⟨Nat.le_add_right _ _, fun _ h => h, fun h => h, fun h => h, fun h => h⟩
    exact { h with
      holds := fun thread => (h.holds thread).later hlater
      armed := fun hpublished hset => by
        obtain ⟨armed, harmed, hdeadline, hle⟩ := h.armed hpublished hset
        exact ⟨armed, harmed, hdeadline, Nat.le_trans hle hlater.now⟩
      timeouts := fun time hmem => (h.timeouts time hmem).later hlater }
  | start => exact inv_start h
  | sweep =>
    obtain ⟨hidle, hlisted⟩ := hadmits
    exact h.setPc ⟨h.listed hlisted, Nat.le_refl _⟩
      (fun hstop => by rw [hidle] at hstop; exact hstop)
  | receive =>
    exact { h with
      holds := fun thread => (h.holds thread).later
        ⟨Nat.le_refl _, fun _ h => h, fun h => h, fun h => h, fun h => h⟩
      armed := fun hpublished hset => by
        obtain ⟨armed, harmed, -, hle⟩ := h.armed hpublished hset
        exact ⟨armed, harmed, Nat.add_le_add_right hle timeout, hle⟩ }
  | request thread reason =>
    obtain ⟨hidle, -, hreason⟩ := hadmits
    refine h.setPc ⟨?_, hreason⟩ (fun hstop => by rw [hidle] at hstop; exact hstop)
    rintro time ⟨⟩
  | advance thread => exact inv_advance h hord

end

lemma inv_init (timeout boot : Nat) : (startup timeout boot).init.Inv timeout where
  holds _ := trivial
  listed h := by cases h
  unarmed _ := rfl
  armed h := absurd rfl h
  before _ := ⟨rfl, rfl⟩
  after h := by cases h
  reason h := absurd rfl h
  stopping h := by cases h
  timeouts := List.forall_mem_nil _
  returned h := absurd h (Nat.lt_irrefl 0)

/-! ## Runs -/

def Pc.left : Pc → Nat
  | .idle => 0
  | .swept => 1
  | .storing _ => 2
  | .cleaning _ => 3
  | .exchanging _ => 4
  | .checking _ => 5
  | .waiting _ => 6
  | .sweeping _ => 7

@[simp] lemma setPc_pcs (s : State) (thread : Thread) (pc : Pc) :
    (s.setPc thread pc).pcs thread = pc := by
  simp [State.setPc]

lemma returns_left (s : State) (thread : Thread) (call : Call) :
    ((s.returns thread call).pcs thread).left < 2 := by
  change ((s.setPc thread (if call.deadline.isSome then .swept else .idle)).pcs thread).left < 2
  rw [setPc_pcs]
  split <;> decide

lemma advance_left (h : s.state ≠ .starting) {thread : Thread} (hbusy : s.pcs thread ≠ .idle) :
    ((s.advance thread).pcs thread).left < (s.pcs thread).left := by
  cases hpc : s.pcs thread with
  | idle => exact absurd hpc hbusy
  | sweeping _ | swept =>
    simp only [State.advance, hpc]
    split <;> simp [Pc.left]
  | waiting call => simp [State.advance, hpc, h, Pc.left]
  | checking call | exchanging call =>
    simp only [State.advance, hpc]
    split
    · exact Nat.lt_trans (returns_left s thread call) (by simp [Pc.left])
    · simp [Pc.left]
  | cleaning call => simp [State.advance, hpc, Pc.left]
  | storing call =>
    simp only [State.advance, hpc]
    exact returns_left _ thread call

/-- In every orderly run a sweep stops the session only for a deadline that has passed since
`start` set it, and once a stop has returned the session is stopping, or a thread is about to
make it so. Every thread that is busy becomes idle by its own steps. -/
theorem starting_session_stops (timeout boot : Nat) {s : State}
    (hreach : (startup timeout boot).ReachableUnder Orderly s) :
    (∀ time ∈ s.timeouts, ∃ armed, s.armedAt = some armed ∧ armed + timeout < time ∧ time ≤ s.now) ∧
      (0 < s.returned → s.state = .stopping ∨ ∃ thread, (s.pcs thread).Stops) ∧
      (∀ thread, s.pcs thread ≠ .idle →
        ((s.advance thread).pcs thread).left < (s.pcs thread).left) := by
  have hinv : s.Inv timeout := by
    refine System.ReachableUnder.invariant ?_ ?_ hreach
    · exact inv_init timeout boot
    · intro state input hinv hadmits hord
      exact inv_step hinv hadmits hord
  have hstate : s.state ≠ .starting := by
    by_cases hphase : s.phase = .running
    · rcases hinv.after hphase with hstate | hstate <;> rw [hstate] <;> decide
    · rw [(hinv.before hphase).1]
      decide
  exact ⟨fun time hmem => hinv.timeouts time hmem time rfl,
    fun hreturned => hinv.reason (hinv.returned hreturned),
    fun thread hbusy => advance_left hstate hbusy⟩

/-- A session that runs is stopped by its video thread. -/
theorem starting_session_stops_running :
    let s := (startup 10000 1).run { now := 1 }
      [.start, .start, .start, .start, .request (.other 0) .abrupt, .advance (.other 0),
        .advance (.other 0), .advance (.other 0), .advance (.other 0), .advance (.other 0)]
    0 < s.returned → s.state = .stopping ∨ ∃ thread, (s.pcs thread).Stops := by
  intro s
  refine (starting_session_stops 10000 1 (System.Segment.of_follows .refl ?_)).2.1
  simp [System.Follows, startup, State.admits, Orderly, State.step, State.start, State.advance,
    State.setPc]

/-- A sweep that reads the deadline before it is set stops the session when it runs, and a
stop before the session runs is lost. -/
theorem starting_session_races :
    (∃ s, (startup 10000 1).Reachable s ∧ ∃ armed, s.armedAt = some armed ∧
      ∃ time ∈ s.timeouts, time < armed + 10000) ∧
    (∃ s, (startup 10000 1).Reachable s ∧ 0 < s.returned ∧ (∀ thread, s.pcs thread = .idle) ∧
      s.state = .running) := by
  constructor
  · refine ⟨(startup 10000 1).run { now := 1 } [.start, .sweep, .advance .control, .start, .start,
      .start, .advance .control, .advance .control, .advance .control, .advance .control,
      .advance .control], System.Segment.of_follows .refl ?_, 1, rfl, 1, ?_, by decide⟩
    · simp [System.Follows, startup, State.admits, State.step, State.start, State.advance,
        State.setPc]
    · decide
  · refine ⟨(startup 10000 1).run { now := 1 } [.start, .request (.other 0) .abrupt,
      .advance (.other 0), .advance (.other 0), .start, .start, .start],
      System.Segment.of_follows .refl ?_, by decide, ?_, rfl⟩
    · simp [System.Follows, startup, State.admits, State.step, State.start, State.advance,
        State.setPc, State.returns]
    · intro thread
      simp [System.run, startup, State.step, State.start, State.advance, State.setPc, State.returns]

end Vibeshine.StreamSession
