import Vibeshine.Library.System
import Mathlib.Data.Finset.Card

/-! # The gate of the native runtime

`native_runtime_gate_t` keeps initializations and teardowns of the AMD runtime apart. Every
method holds the mutex but for its wait. A wait tests its predicate first, again whenever
the thread is woken, and a last time when its deadline passes; each test, with what follows
it when the wait is over, is one step.
-/

namespace Vibeshine.Amf

open Library Function

inductive TeardownAdmission where
  | granted | quarantined | contended
  deriving DecidableEq

inductive Activity where
  | idle
  /-- in the wait of `begin_initialization_for` -/
  | awaitingInitialization
  /-- admitted, before `finish_initialization` or `cancel_initialization` -/
  | initializing
  /-- in the wait of `begin_teardown_until` -/
  | awaitingTeardown
  /-- granted, before `finish_teardown` -/
  | tearingDown
  deriving DecidableEq

def Activity.passive : Activity → Bool
  | .idle | .awaitingInitialization | .awaitingTeardown => true
  | .initializing | .tearingDown => false

inductive Outcome where
  | initialization (admitted : Bool)
  | published (publish : Bool)
  | teardown (admission : TeardownAdmission)
  deriving DecidableEq

def Outcome.refused : Outcome → Bool
  | .initialization admitted => !admitted
  | .published publish => !publish
  | .teardown admission => admission ≠ .granted

structure Gate where
  quarantined : Bool := false
  initializationInProgress : Bool := false
  pendingTeardowns : Nat := 0
  teardownsInProgress : Nat := 0
  activity : Nat → Activity := fun _ => .idle
  /-- what the methods returned, the latest first -/
  outcomes : List Outcome := []

namespace Gate

def become (g : Gate) (thread : Nat) (activity : Activity) : Gate :=
  { g with activity := Function.update g.activity thread activity }

def returns (g : Gate) (thread : Nat) (activity : Activity) (outcome : Outcome) : Gate :=
  { g.become thread activity with outcomes := outcome :: g.outcomes }

def initializationReady (g : Gate) : Bool :=
  g.quarantined ||
    (!g.initializationInProgress && g.pendingTeardowns == 0 && g.teardownsInProgress == 0)

def teardownReady (g : Gate) : Bool :=
  g.quarantined || (!g.initializationInProgress && g.teardownsInProgress == 0)

/-- `begin_initialization_for` after its wait, which ended with the given predicate. -/
def endInitializationWait (g : Gate) (thread : Nat) (available : Bool) : Gate :=
  if !available || g.quarantined then
    g.returns thread .idle (.initialization false)
  else
    { g with initializationInProgress := true }.returns thread .initializing (.initialization true)

def testInitialization (g : Gate) (thread : Nat) (timedOut : Bool) : Gate :=
  if g.initializationReady || timedOut then
    g.endInitializationWait thread g.initializationReady
  else
    g.become thread .awaitingInitialization

def finishInitialization (g : Gate) (thread : Nat) : Gate :=
  let publish := g.initializationInProgress && !g.quarantined && g.teardownsInProgress == 0
  { g with initializationInProgress := false }.returns thread .idle (.published publish)

def cancelInitialization (g : Gate) (thread : Nat) : Gate :=
  { g with initializationInProgress := false }.become thread .idle

def quarantineInitialization (g : Gate) : Gate :=
  { g with quarantined := true }

/-- `begin_teardown_until` after its wait, which ended with the given predicate. -/
def endTeardownWait (g : Gate) (thread : Nat) (available : Bool) : Gate :=
  let g := { g with pendingTeardowns := g.pendingTeardowns - 1 }
  if g.quarantined then
    g.returns thread .idle (.teardown .quarantined)
  else if !available then
    g.returns thread .idle (.teardown .contended)
  else
    { g with teardownsInProgress := g.teardownsInProgress + 1 }.returns thread .tearingDown
      (.teardown .granted)

def testTeardown (g : Gate) (thread : Nat) (timedOut : Bool) : Gate :=
  if g.teardownReady || timedOut then
    g.endTeardownWait thread g.teardownReady
  else
    g.become thread .awaitingTeardown

def beginTeardown (g : Gate) (thread : Nat) : Gate :=
  { g with pendingTeardowns := g.pendingTeardowns + 1 }.testTeardown thread false

def finishTeardown (g : Gate) (thread : Nat) (completed : Bool) : Gate :=
  let ended := { g with
    teardownsInProgress :=
      if completed && g.teardownsInProgress != 0 then g.teardownsInProgress - 1
      else g.teardownsInProgress
    quarantined := g.quarantined || !completed }
  ended.become thread .idle

inductive Input where
  | beginInitialization (thread : Nat)
  /-- a woken thread, or one whose deadline has passed -/
  | wakeInitialization (thread : Nat) (timedOut : Bool)
  | finishInitialization (thread : Nat)
  | cancelInitialization (thread : Nat)
  | quarantineInitialization
  | beginTeardown (thread : Nat)
  /-- a woken thread, or one whose deadline has passed -/
  | wakeTeardown (thread : Nat) (timedOut : Bool)
  | finishTeardown (thread : Nat) (completed : Bool)

def admits (g : Gate) : Input → Prop
  | .beginInitialization thread | .beginTeardown thread => g.activity thread = .idle
  | .wakeInitialization thread _ => g.activity thread = .awaitingInitialization
  | .finishInitialization thread | .cancelInitialization thread =>
    g.activity thread = .initializing
  | .quarantineInitialization => True
  | .wakeTeardown thread _ => g.activity thread = .awaitingTeardown
  | .finishTeardown thread _ => g.activity thread = .tearingDown

def step (g : Gate) : Input → Gate
  | .beginInitialization thread => g.testInitialization thread false
  | .wakeInitialization thread timedOut => g.testInitialization thread timedOut
  | .finishInitialization thread => g.finishInitialization thread
  | .cancelInitialization thread => g.cancelInitialization thread
  | .quarantineInitialization => g.quarantineInitialization
  | .beginTeardown thread => g.beginTeardown thread
  | .wakeTeardown thread timedOut => g.testTeardown thread timedOut
  | .finishTeardown thread completed => g.finishTeardown thread completed

def system : System Gate Input where
  init := {}
  admits := admits
  step := step

/-! ## The invariant -/

def Waits (activity : Nat → Activity) (count : Nat) : Prop :=
  ∃ threads : Finset Nat,
    (∀ thread, thread ∈ threads ↔ activity thread = .awaitingTeardown) ∧ count = threads.card

/-- The fields agree with what the threads are doing. -/
structure Inv (g : Gate) : Prop where
  initialization : ∀ thread, g.activity thread = .initializing → g.initializationInProgress = true
  initialization_alone : ∀ thread other, g.activity thread = .initializing →
    g.activity other = .initializing → thread = other
  teardown : ∀ thread, g.activity thread = .tearingDown → g.teardownsInProgress = 1
  teardown_alone : ∀ thread other, g.activity thread = .tearingDown →
    g.activity other = .tearingDown → thread = other
  apart : g.initializationInProgress = true → g.teardownsInProgress = 0
  waiting : Waits g.activity g.pendingTeardowns

variable {g : Gate} {thread : Nat} {activity : Activity}

lemma inv_init : Inv system.init where
  initialization _ h := by cases h
  initialization_alone _ _ h := by cases h
  teardown _ h := by cases h
  teardown_alone _ _ h := by cases h
  apart h := by cases h
  waiting := ⟨∅, fun _ => ⟨fun h => absurd h (Finset.notMem_empty _), fun h => by cases h⟩, rfl⟩

variable {before : Nat → Activity} {count : Nat}

section

variable (h : Waits before count)

include h

lemma Waits.keep
    (hbefore : before thread ≠ .awaitingTeardown) (hafter : activity ≠ .awaitingTeardown) :
    Waits (Function.update before thread activity) count := by
  obtain ⟨threads, hthreads, hcount⟩ := h
  refine ⟨threads, fun other => ?_, hcount⟩
  rw [hthreads, update_apply]
  split
  · rename_i hsame
    rw [hsame]
    exact iff_of_false hbefore hafter
  · rfl

lemma Waits.enter (hbefore : before thread ≠ .awaitingTeardown) :
    Waits (Function.update before thread .awaitingTeardown) (count + 1) := by
  obtain ⟨threads, hthreads, hcount⟩ := h
  have hnew : thread ∉ threads := fun hmem => hbefore ((hthreads thread).mp hmem)
  refine ⟨insert thread threads, fun other => ?_, by rw [Finset.card_insert_of_notMem hnew, hcount]⟩
  rw [Finset.mem_insert, hthreads, update_apply]
  split <;> simp_all

lemma Waits.leave
    (hbefore : before thread = .awaitingTeardown) (hafter : activity ≠ .awaitingTeardown) :
    Waits (Function.update before thread activity) (count - 1) := by
  obtain ⟨threads, hthreads, hcount⟩ := h
  have hmem : thread ∈ threads := (hthreads thread).mpr hbefore
  refine ⟨threads.erase thread, fun other => ?_, by rw [Finset.card_erase_of_mem hmem, hcount]⟩
  rw [Finset.mem_erase, hthreads, update_apply]
  split <;> simp_all

end

lemma Inv.frame (h : g.Inv) (quarantined : Bool) (outcomes : List Outcome) :
    Inv { g with quarantined := quarantined, outcomes := outcomes } :=
  ⟨h.initialization, h.initialization_alone, h.teardown, h.teardown_alone, h.apart, h.waiting⟩

lemma of_update {busy : Activity} {other : Nat} (hne : activity ≠ busy)
    (hnow : Function.update g.activity thread activity other = busy) :
    other ≠ thread ∧ g.activity other = busy := by
  rw [update_apply] at hnow
  split at hnow
  · exact absurd hnow hne
  · exact ⟨‹_›, hnow⟩

lemma Inv.become_passive (h : g.Inv) (hact : activity.passive = true) {pending : Nat}
    (hwaiting : Waits (Function.update g.activity thread activity) pending) :
    Inv { g.become thread activity with pendingTeardowns := pending } := by
  have hne : ∀ busy : Activity, busy.passive = false → activity ≠ busy := by
    rintro busy hbusy rfl
    rw [hbusy] at hact
    cases hact
  exact
    { initialization := fun other hnow => h.initialization other (of_update (hne _ rfl) hnow).2
      initialization_alone := fun one other hone hnow =>
        h.initialization_alone one other (of_update (hne _ rfl) hone).2
          (of_update (hne _ rfl) hnow).2
      teardown := fun other hnow => h.teardown other (of_update (hne _ rfl) hnow).2
      teardown_alone := fun one other hone hnow =>
        h.teardown_alone one other (of_update (hne _ rfl) hone).2 (of_update (hne _ rfl) hnow).2
      apart := h.apart
      waiting := hwaiting }

lemma Inv.become (h : g.Inv) (activity : Activity) (hact : activity.passive = true)
    (hbefore : g.activity thread ≠ .awaitingTeardown) (hafter : activity ≠ .awaitingTeardown) :
    (g.become thread activity).Inv :=
  h.become_passive hact (h.waiting.keep hbefore hafter)

lemma initializationReady_iff : g.initializationReady = true ↔ g.quarantined = true ∨
      (g.initializationInProgress = false ∧ g.pendingTeardowns = 0 ∧ g.teardownsInProgress = 0) := by
  simp [initializationReady, and_assoc]

lemma Inv.beginInitialization (h : g.Inv) (hidle : g.initializationInProgress = false)
    (hfree : g.teardownsInProgress = 0) (hbefore : g.activity thread ≠ .awaitingTeardown) :
    Inv { g.become thread .initializing with initializationInProgress := true } where
  initialization _ _ := rfl
  initialization_alone one other hone hother := by
    have honly : ∀ any, Function.update g.activity thread .initializing any = .initializing →
        any = thread := by
      intro any hany
      by_contra hne
      rw [update_of_ne hne] at hany
      rw [h.initialization any hany] at hidle
      cases hidle
    rw [honly one hone, honly other hother]
  teardown other hother := h.teardown other (of_update (by decide) hother).2
  teardown_alone one other hone hother :=
    h.teardown_alone one other (of_update (by decide) hone).2 (of_update (by decide) hother).2
  apart _ := hfree
  waiting := h.waiting.keep hbefore (by decide)

lemma Inv.testInitialization (h : g.Inv) (hbefore : g.activity thread ≠ .awaitingTeardown)
    (timedOut : Bool) : (g.testInitialization thread timedOut).Inv := by
  unfold Gate.testInitialization
  split
  · unfold Gate.endInitializationWait
    split
    · exact (h.become .idle rfl hbefore (by decide)).frame _ _
    · rename_i hready
      simp only [Bool.or_eq_true, Bool.not_eq_true', not_or, Bool.not_eq_false,
        Bool.not_eq_true] at hready
      obtain ⟨hready, hquar⟩ := hready
      rcases initializationReady_iff.mp hready with hquarantine | ⟨hidle, -, hfree⟩
      · rw [hquarantine] at hquar
        cases hquar
      · exact (h.beginInitialization hidle hfree hbefore).frame _ _
  · exact h.become .awaitingInitialization rfl hbefore (by decide)

lemma Inv.endInitialization (h : g.Inv) (hthread : g.activity thread = .initializing) :
    Inv { g.become thread .idle with initializationInProgress := false } := by
  have hinv := h.become .idle rfl (by rw [hthread]; decide) (by decide)
  refine
    { initialization := fun other hother => ?_
      initialization_alone := hinv.initialization_alone
      teardown := hinv.teardown
      teardown_alone := hinv.teardown_alone
      apart := fun hfalse => by cases hfalse
      waiting := hinv.waiting }
  obtain ⟨hne, hbusy⟩ := of_update (by decide) hother
  exact absurd (h.initialization_alone other thread hbusy hthread) hne

/-! ## Teardowns -/

lemma teardownReady_iff : g.teardownReady = true ↔ g.quarantined = true ∨
      (g.initializationInProgress = false ∧ g.teardownsInProgress = 0) := by
  simp [teardownReady]

/-- Between the two counts of `begin_teardown_until` the thread waits. -/
def enterTeardown (g : Gate) (thread : Nat) : Gate :=
  { g.become thread .awaitingTeardown with pendingTeardowns := g.pendingTeardowns + 1 }

lemma beginTeardown_eq (g : Gate) (thread : Nat) :
    g.beginTeardown thread = (g.enterTeardown thread).testTeardown thread false := by
  simp [beginTeardown, enterTeardown, testTeardown, endTeardownWait, teardownReady, Gate.become,
    returns]

section

variable (h : g.Inv)

include h

lemma Inv.enterTeardown (hthread : g.activity thread = .idle) : (g.enterTeardown thread).Inv :=
  h.become_passive rfl (h.waiting.enter (by rw [hthread]; decide))

lemma Inv.grant (hthread : g.activity thread = .awaitingTeardown)
    (hidle : g.initializationInProgress = false) (hfree : g.teardownsInProgress = 0) :
    Inv { g.become thread .tearingDown with
      pendingTeardowns := g.pendingTeardowns - 1
      teardownsInProgress := g.teardownsInProgress + 1 } where
  initialization other hother := h.initialization other (of_update (by decide) hother).2
  initialization_alone one other hone hother :=
    h.initialization_alone one other (of_update (by decide) hone).2
      (of_update (by decide) hother).2
  teardown _ _ := by
    dsimp only
    rw [hfree]
  teardown_alone one other hone hother := by
    have honly : ∀ any, Function.update g.activity thread .tearingDown any = .tearingDown →
        any = thread := by
      intro any hany
      by_contra hne
      rw [update_of_ne hne] at hany
      rw [h.teardown any hany] at hfree
      cases hfree
    rw [honly one hone, honly other hother]
  apart hbusy := by
    rw [show g.initializationInProgress = true from hbusy] at hidle
    cases hidle
  waiting := h.waiting.leave hthread (by decide)

lemma Inv.testTeardown (hthread : g.activity thread = .awaitingTeardown)
    (timedOut : Bool) : (g.testTeardown thread timedOut).Inv := by
  have hleave : Inv { g.become thread .idle with pendingTeardowns := g.pendingTeardowns - 1 } :=
    h.become_passive rfl (h.waiting.leave hthread (by decide))
  unfold Gate.testTeardown
  split
  · unfold Gate.endTeardownWait
    dsimp only
    split
    · exact hleave.frame _ _
    · rename_i hquar
      split
      · exact hleave.frame _ _
      · rename_i hready
        rw [Bool.not_eq_true', Bool.not_eq_false] at hready
        rcases teardownReady_iff.mp hready with hquarantine | ⟨hidle, hfree⟩
        · exact absurd hquarantine hquar
        · exact (h.grant hthread hidle hfree).frame _ _
  · have hstay : g.become thread .awaitingTeardown = g := by
      rw [Gate.become, ← hthread, update_eq_self]
    rw [hstay]
    exact h

lemma Inv.finishTeardown (hthread : g.activity thread = .tearingDown)
    (completed : Bool) : (g.finishTeardown thread completed).Inv := by
  have hinv := h.become .idle rfl (by rw [hthread]; decide) (by decide)
  have hone := h.teardown thread hthread
  refine
    { initialization := hinv.initialization
      initialization_alone := hinv.initialization_alone
      teardown := fun other hother => ?_
      teardown_alone := hinv.teardown_alone
      apart := fun hbusy => ?_
      waiting := hinv.waiting }
  · obtain ⟨hne, hbusy⟩ := of_update (by decide) hother
    exact absurd (h.teardown_alone other thread hbusy hthread) hne
  · have hzero := h.apart hbusy
    rw [hone] at hzero
    cases hzero

lemma Inv.step {input : Input} (hadmits : g.admits input) : (g.step input).Inv := by
  cases input with
  | beginInitialization thread | wakeInitialization thread _ =>
    exact h.testInitialization (by rw [show g.activity thread = _ from hadmits]; decide) _
  | finishInitialization thread => exact (h.endInitialization hadmits).frame _ _
  | cancelInitialization thread => exact h.endInitialization hadmits
  | quarantineInitialization => exact h.frame _ _
  | beginTeardown thread =>
    rw [Gate.step, beginTeardown_eq]
    exact (h.enterTeardown hadmits).testTeardown (update_self ..) _
  | wakeTeardown thread timedOut => exact h.testTeardown hadmits _
  | finishTeardown thread completed => exact h.finishTeardown hadmits _

end

lemma inv_of_reachable (h : system.Reachable g) : g.Inv :=
  h.invariant inv_init fun _ _ hinv hadmits => hinv.step hadmits

/-! ## What the gate guarantees -/

lemma Inv.not_waiting (h : g.Inv) (hready : g.initializationReady = true)
    (hquar : g.quarantined = false) (other : Nat) :
    g.activity other ≠ .awaitingTeardown := by
  rcases initializationReady_iff.mp hready with hquarantine | ⟨-, hpend, -⟩
  · rw [hquarantine] at hquar
    cases hquar
  · obtain ⟨threads, hthreads, hcount⟩ := h.waiting
    rw [hpend] at hcount
    intro hother
    have hmem := (hthreads other).mpr hother
    rw [Finset.card_eq_zero.mp hcount.symm] at hmem
    exact Finset.notMem_empty _ hmem

lemma admitted_by_test {other : Nat} {timedOut : Bool} (hother : g.activity other ≠ .initializing)
    (hadm : (g.testInitialization thread timedOut).activity other = .initializing) :
    g.initializationReady = true ∧ g.quarantined = false := by
  unfold testInitialization at hadm
  split at hadm
  · unfold endInitializationWait at hadm
    split at hadm
    · exact absurd (of_update (by decide) hadm).2 hother
    · rename_i hready
      simpa using hready
  · exact absurd (of_update (by decide) hadm).2 hother

lemma testTeardown_initializing {other : Nat} {timedOut : Bool}
    (hadm : (g.testTeardown thread timedOut).activity other = .initializing) :
    g.activity other = .initializing := by
  unfold testTeardown endTeardownWait at hadm
  dsimp only at hadm
  split at hadm
  · split at hadm
    · exact (of_update (by decide) hadm).2
    · split at hadm <;> exact (of_update (by decide) hadm).2
  · exact (of_update (by decide) hadm).2

lemma Inv.admission (h : g.Inv) {input : Input} {other : Nat}
    (hother : g.activity other ≠ .initializing)
    (hadm : (g.step input).activity other = .initializing) :
    ∀ waiting, g.activity waiting ≠ .awaitingTeardown := by
  cases input with
  | beginInitialization _ | wakeInitialization _ _ =>
    obtain ⟨hready, hquar⟩ := admitted_by_test hother hadm
    exact h.not_waiting hready hquar
  | finishInitialization thread => exact absurd (of_update (by decide) hadm).2 hother
  | cancelInitialization thread => exact absurd (of_update (by decide) hadm).2 hother
  | quarantineInitialization => exact absurd hadm hother
  | beginTeardown thread =>
    rw [Gate.step, beginTeardown_eq] at hadm
    exact absurd (of_update (by decide) (testTeardown_initializing hadm)).2 hother
  | wakeTeardown thread timedOut => exact absurd (testTeardown_initializing hadm) hother
  | finishTeardown thread completed => exact absurd (of_update (by decide) hadm).2 hother

/-- What may have happened to a quarantined gate since: nothing was admitted or published. -/
structure Closed (g later : Gate) : Prop where
  quarantined : later.quarantined = true
  outcomes : ∃ new, later.outcomes = new ++ g.outcomes ∧ ∀ outcome ∈ new, outcome.refused = true
  activity : ∀ thread, (later.activity thread).passive = false →
    later.activity thread = g.activity thread

lemma Closed.refl (hquar : g.quarantined = true) : g.Closed g :=
  ⟨hquar, ⟨[], rfl, fun _ hmem => absurd hmem List.not_mem_nil⟩, fun _ _ => rfl⟩

lemma Closed.passive {later after : Gate} (h : g.Closed later) (activity : Activity)
    (hact : activity.passive = true) (hquar : after.quarantined = true)
    (hafter : after.activity = Function.update later.activity thread activity)
    (new : List Outcome) (hnew : ∀ outcome ∈ new, outcome.refused = true)
    (houtcomes : after.outcomes = new ++ later.outcomes) : g.Closed after := by
  obtain ⟨old, hold, hrefused⟩ := h.outcomes
  refine ⟨hquar, ⟨new ++ old, by rw [houtcomes, hold, List.append_assoc], ?_⟩, ?_⟩
  · intro outcome hmem
    rcases List.mem_append.mp hmem with hmem | hmem
    · exact hnew outcome hmem
    · exact hrefused outcome hmem
  · intro other hbusy
    rw [hafter, update_apply] at hbusy ⊢
    split at hbusy
    · rw [hact] at hbusy
      cases hbusy
    · rename_i hne
      rw [if_neg hne]
      exact h.activity other hbusy

lemma Closed.testInitialization {later : Gate} (h : g.Closed later) (thread : Nat)
    (timedOut : Bool) : g.Closed (later.testInitialization thread timedOut) := by
  have hready := initializationReady_iff.mpr (.inl h.quarantined)
  simp only [Gate.testInitialization, hready, Bool.true_or, if_true, endInitializationWait,
    h.quarantined, Bool.or_true]
  exact h.passive .idle rfl h.quarantined rfl [.initialization false] (by decide) rfl

lemma Closed.testTeardown {later : Gate} (h : g.Closed later) (thread : Nat)
    (timedOut : Bool) : g.Closed (later.testTeardown thread timedOut) := by
  have hready := teardownReady_iff.mpr (.inl h.quarantined)
  simp only [Gate.testTeardown, hready, Bool.true_or, if_true, endTeardownWait, h.quarantined]
  exact h.passive .idle rfl rfl rfl [.teardown .quarantined] (by decide) rfl

lemma Closed.step {later : Gate} (h : g.Closed later) (input : Input) :
    g.Closed (later.step input) := by
  cases input with
  | beginInitialization thread => exact h.testInitialization thread false
  | wakeInitialization thread timedOut => exact h.testInitialization thread timedOut
  | finishInitialization thread =>
    refine h.passive .idle rfl h.quarantined rfl [.published false] (by decide) ?_
    simp [Gate.step, finishInitialization, h.quarantined, returns, Gate.become]
  | cancelInitialization thread =>
    exact h.passive .idle rfl h.quarantined rfl [] (by decide) rfl
  | quarantineInitialization => exact ⟨rfl, h.outcomes, h.activity⟩
  | beginTeardown thread =>
    have henter : g.Closed (later.enterTeardown thread) :=
      h.passive .awaitingTeardown rfl h.quarantined rfl [] (by decide) rfl
    rw [Gate.step, beginTeardown_eq]
    exact henter.testTeardown thread false
  | wakeTeardown thread timedOut => exact h.testTeardown thread timedOut
  | finishTeardown thread completed =>
    refine h.passive .idle rfl ?_ rfl [] (by decide) rfl
    simp [Gate.step, finishTeardown, h.quarantined, Gate.become]

lemma closed_of_segment {later : Gate} (hquar : g.quarantined = true)
    (segment : system.Segment (fun _ _ => True) g later) : g.Closed later := by
  induction segment with
  | refl => exact Closed.refl hquar
  | snoc _ _ _ ih => exact ih.step _

/-- In every state that the gate reaches, at most one initialization and at most one teardown
are admitted, never both; the count of pending teardowns is that of the waiting threads, and
as long as one waits no initialization is admitted; and once the gate is quarantined nothing
is admitted or published any more. -/
theorem gate_keeps_apart (h : system.Reachable g) :
    (∀ thread other, g.activity thread = .initializing → g.activity other = .initializing →
      thread = other) ∧
    (∀ thread other, g.activity thread = .tearingDown → g.activity other = .tearingDown →
      thread = other) ∧
    (∀ thread other, g.activity thread = .initializing → g.activity other ≠ .tearingDown) ∧
    Waits g.activity g.pendingTeardowns ∧
    (∀ input other, g.admits input → g.activity other ≠ .initializing →
      (g.step input).activity other = .initializing →
      ∀ waiting, g.activity waiting ≠ .awaitingTeardown) ∧
    (g.quarantined = true → ∀ later, system.Segment (fun _ _ => True) g later → g.Closed later) := by
  have hinv := inv_of_reachable h
  refine ⟨hinv.initialization_alone, hinv.teardown_alone, fun thread other hthread hother => ?_,
    hinv.waiting, fun input other _ => hinv.admission,
    fun hquar _ => closed_of_segment hquar⟩
  have hfree := hinv.apart (hinv.initialization thread hthread)
  rw [hinv.teardown other hother] at hfree
  cases hfree

instance decidableAdmits (g : Gate) (input : Input) : Decidable (system.admits g input) := by
  cases input <;> unfold system <;> dsimp only [admits] <;> infer_instance

def abandonedTeardown : List Input :=
  [.beginInitialization 1, .beginTeardown 2, .beginInitialization 3, .finishInitialization 1,
    .wakeTeardown 2 false, .finishTeardown 2 false, .wakeInitialization 3 false]

theorem gate_keeps_apart_abandoned : (system.run system.init abandonedTeardown).outcomes =
        [.initialization false, .teardown .granted, .published true, .initialization true] ∧
      (∀ later, system.Segment (fun _ _ => True) (system.run system.init abandonedTeardown) later →
        (system.run system.init abandonedTeardown).Closed later) := by
  have hreachable : system.Reachable (system.run system.init abandonedTeardown) :=
    System.Segment.of_follows .refl (by decide)
  exact ⟨rfl, (gate_keeps_apart hreachable).2.2.2.2.2 rfl⟩

end Gate

end Vibeshine.Amf
