import Mathlib.Data.Finset.Card
import Vibeshine.HelperIpc.Reply
import Vibeshine.Library.System

/-! # The borrow gate

Threads that change the display hold scopes of a gate; a controller that borrows the display
closes the gate and waits until the scopes are gone. `Gate` is what the mutex guards, and each
function on it is one locked section. `Scene` adds what surrounds the gate: the call every
thread is in, the scopes that are alive, and what the calls have answered so far.
-/

namespace Vibeshine.HelperIpc.Borrow

open List Function

structure Gate (Thread : Type) where
  held : Finset Request
  retired : ProcessContext → Nat
  /-- The scopes of a thread; a thread without an entry has none. -/
  depth : Thread → Nat
  active : Nat
  permanent : Bool

/-- How a locked section ends: the lock is let go for a wait, or the call returns. A `refused`
call has left no trace, one that `gaveUp` has retired its request. -/
inductive Outcome where
  | waits
  | refused
  | gaveUp
  | granted
  deriving DecidableEq

namespace Gate

variable {Thread : Type} [DecidableEq Thread]

/-- `inhibited_locked`. -/
def inhibited (g : Gate Thread) : Bool := g.permanent || decide (g.held ≠ ∅)

def nest (g : Gate Thread) (thread : Thread) : Gate Thread :=
  { g with depth := Function.update g.depth thread (g.depth thread + 1) }

/-- `emplace` keeps an entry that is there. -/
def admitOwner (g : Gate Thread) (thread : Thread) : Gate Thread :=
  { g with
    depth := Function.update g.depth thread (max (g.depth thread) 1)
    active := g.active + 1 }

def tryEnter (g : Gate Thread) (thread : Thread) : Gate Thread × Outcome :=
  if g.depth thread ≠ 0 then (g.nest thread, .granted)
  else if g.inhibited then (g, .refused)
  else (g.admitOwner thread, .granted)

/-- One turn of the loop of `wait_enter`, or the check behind the loop. -/
def pollEnter (g : Gate Thread) (thread : Thread) (cancelled : Bool) : Gate Thread × Outcome :=
  if cancelled then (g, .refused)
  else if g.inhibited then (g, .waits)
  else (g.admitOwner thread, .granted)

def waitEnter (g : Gate Thread) (thread : Thread) (cancelled : Bool) : Gate Thread × Outcome :=
  if g.depth thread ≠ 0 then (g.nest thread, .granted) else g.pollEnter thread cancelled

/-- The request leaves the held ones, and no request of its controller up to its number is
taken any more. -/
def retire (g : Gate Thread) (request : Request) : Gate Thread :=
  { g with
    held := g.held.erase request
    retired := Function.update g.retired request.controller
      (max (g.retired request.controller) request.id) }

/-- One turn of the loop of `acquire`, or the check behind the loop; `stopped` is the answer of
`cancelled` or the deadline. -/
def pollAcquire (g : Gate Thread) (request : Request) (stopped : Bool) : Gate Thread × Outcome :=
  if stopped then (g.retire request, .gaveUp)
  else if g.active ≠ 0 then (g, .waits)
  else (g, .granted)

def acquire (g : Gate Thread) (request : Request) (stopped : Bool) : Gate Thread × Outcome :=
  if !request.valid then (g, .refused)
  else if g.permanent || decide (request.id ≤ g.retired request.controller) then (g, .refused)
  else pollAcquire { g with held := insert request g.held } request stopped

def release (g : Gate Thread) (request : Request) : Gate Thread × Bool :=
  (g.retire request, decide (request ∈ g.held))

def leave (g : Gate Thread) (thread : Thread) : Gate Thread :=
  if g.depth thread = 0 then g
  else
    { g with
      depth := Function.update g.depth thread (g.depth thread - 1)
      active := if g.depth thread - 1 = 0 then g.active - 1 else g.active }

def retainUnknown (g : Gate Thread) : Gate Thread := { g with permanent := true }

/-! Scopes come and go without touching the requests. -/

variable (g : Gate Thread) (thread : Thread)

@[simp] lemma nest_held : (g.nest thread).held = g.held := rfl
@[simp] lemma nest_retired : (g.nest thread).retired = g.retired := rfl
@[simp] lemma nest_permanent : (g.nest thread).permanent = g.permanent := rfl
@[simp] lemma admitOwner_held : (g.admitOwner thread).held = g.held := rfl
@[simp] lemma admitOwner_retired : (g.admitOwner thread).retired = g.retired := rfl
@[simp] lemma admitOwner_permanent : (g.admitOwner thread).permanent = g.permanent := rfl

@[simp] lemma leave_held : (g.leave thread).held = g.held := by
  unfold leave
  split <;> rfl

@[simp] lemma leave_retired : (g.leave thread).retired = g.retired := by
  unfold leave
  split <;> rfl

omit [DecidableEq Thread] in
lemma retired_le_retire (request : Request) (controller : ProcessContext) :
    g.retired controller ≤ (g.retire request).retired controller := by
  obtain rfl | hne := eq_or_ne controller request.controller
  · simp [retire]
  · simp [retire, update_of_ne hne]

omit [DecidableEq Thread] in
lemma id_le_retire (request : Request) :
    request.id ≤ (g.retire request).retired request.controller := by
  simp [retire]

@[simp] lemma leave_permanent : (g.leave thread).permanent = g.permanent := by
  unfold leave
  split <;> rfl

end Gate

/-! ## Threads around the gate -/

inductive Call where
  | idle
  | entering
  | acquiring (request : Request)
  deriving DecidableEq

/-- What the calls have done so far. A thread is `admitted` when it gets its first scope. -/
inductive Entry (Thread : Type) where
  | admitted (thread : Thread)
  | granted (request : Request)
  | givenUp (request : Request)
  | released (request : Request)
  | retained
  deriving DecidableEq

structure Scene (Thread : Type) where
  gate : Gate Thread
  calls : Thread → Call
  /-- The threads whose token the living scopes carry. -/
  scopes : List Thread
  /-- The newest entry first. -/
  log : List (Entry Thread)

/-- The locked sections. A scope is left by whichever thread destroys it, and a release or
`retain_unknown` comes from any thread. -/
inductive Event (Thread : Type) where
  | tryEnter (thread : Thread)
  | waitEnter (thread : Thread) (cancelled : Bool)
  | acquire (thread : Thread) (request : Request) (stopped : Bool)
  | wake (thread : Thread) (stopped : Bool)
  | release (request : Request)
  | leave (thread : Thread)
  | retainUnknown

namespace Scene

variable {Thread : Type} [DecidableEq Thread]

def initial : Scene Thread where
  gate := ⟨∅, fun _ => 0, fun _ => 0, 0, false⟩
  calls := fun _ => .idle
  scopes := []
  log := []

/-- `try_enter` or `wait_enter` lets the lock go. -/
def afterEnter (s : Scene Thread) (thread : Thread) : Gate Thread × Outcome → Scene Thread
  | (gate, .granted) =>
    { gate := gate
      calls := Function.update s.calls thread .idle
      scopes := thread :: s.scopes
      log := if thread ∈ s.scopes then s.log else .admitted thread :: s.log }
  | (gate, .waits) => { s with gate := gate, calls := Function.update s.calls thread .entering }
  | (gate, _) => { s with gate := gate, calls := Function.update s.calls thread .idle }

/-- `acquire` lets the lock go. -/
def afterAcquire (s : Scene Thread) (thread : Thread) (request : Request) :
    Gate Thread × Outcome → Scene Thread
  | (gate, .granted) =>
    { s with
      gate := gate
      calls := Function.update s.calls thread .idle
      log := .granted request :: s.log }
  | (gate, .gaveUp) =>
    { s with
      gate := gate
      calls := Function.update s.calls thread .idle
      log := .givenUp request :: s.log }
  | (gate, .waits) =>
    { s with gate := gate, calls := Function.update s.calls thread (.acquiring request) }
  | (gate, .refused) => { s with gate := gate, calls := Function.update s.calls thread .idle }

def step (s : Scene Thread) : Event Thread → Scene Thread
  | .tryEnter thread => s.afterEnter thread (s.gate.tryEnter thread)
  | .waitEnter thread cancelled => s.afterEnter thread (s.gate.waitEnter thread cancelled)
  | .acquire thread request stopped =>
    s.afterAcquire thread request (s.gate.acquire request stopped)
  | .wake thread stopped =>
    match s.calls thread with
    | .idle => s
    | .entering => s.afterEnter thread (s.gate.pollEnter thread stopped)
    | .acquiring request => s.afterAcquire thread request (s.gate.pollAcquire request stopped)
  | .release request =>
    { s with gate := (s.gate.release request).1, log := .released request :: s.log }
  | .leave thread =>
    { s with gate := s.gate.leave thread, scopes := s.scopes.erase thread }
  | .retainUnknown => { s with gate := s.gate.retainUnknown, log := .retained :: s.log }

def admits (s : Scene Thread) : Event Thread → Prop
  | .tryEnter thread | .waitEnter thread _ | .acquire thread _ _ => s.calls thread = .idle
  | .wake thread _ => s.calls thread ≠ .idle
  | .leave thread => thread ∈ s.scopes
  | .release _ | .retainUnknown => True

instance admits.decidable (s : Scene Thread) : ∀ event, Decidable (s.admits event)
  | .tryEnter thread => inferInstanceAs (Decidable (s.calls thread = .idle))
  | .waitEnter thread _ => inferInstanceAs (Decidable (s.calls thread = .idle))
  | .acquire thread _ _ => inferInstanceAs (Decidable (s.calls thread = .idle))
  | .wake thread _ => inferInstanceAs (Decidable (s.calls thread ≠ .idle))
  | .leave thread => inferInstanceAs (Decidable (thread ∈ s.scopes))
  | .release _ => .isTrue trivial
  | .retainUnknown => .isTrue trivial

def system (Thread : Type) [DecidableEq Thread] : Library.System (Scene Thread) (Event Thread) where
  init := initial
  admits := admits
  step := step

instance system.decidable (s : Scene Thread) (event : Event Thread) :
    Decidable ((system Thread).admits s event) := admits.decidable s event

end Scene

section Log

variable {Thread : Type}

/-- `acquire` has granted the request, and no release of it has followed. -/
def borrowed (request : Request) : List (Entry Thread) → Bool
  | [] => false
  | .granted other :: log => decide (other = request) || borrowed request log
  | .released other :: log => decide (other ≠ request) && borrowed request log
  | .admitted _ :: log | .givenUp _ :: log | .retained :: log => borrowed request log

/-- The request has been released, or an `acquire` of it has given up. -/
def Retired (request : Request) (log : List (Entry Thread)) : Prop :=
  .released request ∈ log ∨ .givenUp request ∈ log

def Entry.FollowsOn (log : List (Entry Thread)) : Entry Thread → Prop
  | .admitted _ => .retained ∉ log
  | .granted request =>
    ∀ other : Request, Retired other log → other.controller = request.controller →
      other.id < request.id
  | .givenUp _ | .released _ | .retained => True

def Lawful (log : List (Entry Thread)) : Prop :=
  ∀ entry earlier, entry :: earlier <:+ log → entry.FollowsOn earlier

lemma lawful_nil : Lawful ([] : List (Entry Thread)) :=
  fun entry earlier hsuffix => absurd (suffix_nil.mp hsuffix) (cons_ne_nil entry earlier)

lemma Lawful.cons {log : List (Entry Thread)} {entry : Entry Thread} (hlog : Lawful log)
    (hentry : entry.FollowsOn log) : Lawful (entry :: log) := by
  intro other earlier hsuffix
  obtain heq | hsuffix := suffix_cons_iff.mp hsuffix
  · obtain ⟨rfl, rfl⟩ := List.cons.inj heq
    exact hentry
  · exact hlog other earlier hsuffix

end Log

/-! ## What every run keeps -/

namespace Scene

variable {Thread : Type} [DecidableEq Thread] {s : Scene Thread} {thread : Thread}
  {request : Request}

/-- What holds of the gate and the scopes whatever the calls do. -/
structure Counted (s : Scene Thread) : Prop where
  depth : ∀ thread, s.gate.depth thread = s.scopes.count thread
  active : s.gate.active = s.scopes.toFinset.card
  entering : ∀ thread, s.calls thread = .entering → thread ∉ s.scopes
  permanent : .retained ∈ s.log → s.gate.permanent = true
  retired : ∀ request, Retired request s.log → request.id ≤ s.gate.retired request.controller
  registered : ∀ thread request, s.calls thread = .acquiring request →
    s.gate.retired request.controller < request.id → request ∈ s.gate.held

/-- What a controller relies on. -/
structure Exclusive (s : Scene Thread) : Prop where
  held : ∀ request, borrowed request s.log = true → request ∈ s.gate.held ∧ s.scopes = []
  log : Lawful s.log

lemma counted_initial : (initial : Scene Thread).Counted where
  depth _ := rfl
  active := rfl
  entering _ hcall := nomatch hcall
  permanent hlog := nomatch hlog
  retired _ hretired := by cases hretired <;> contradiction
  registered _ _ hcall := nomatch hcall

omit [DecidableEq Thread] in
lemma exclusive_initial : (initial : Scene Thread).Exclusive where
  held _ hborrowed := nomatch hborrowed
  log := lawful_nil

/-! ### Scopes -/

lemma Counted.depth_eq_zero (h : s.Counted) : s.gate.depth thread = 0 ↔ thread ∉ s.scopes := by
  rw [h.depth, count_eq_zero]

lemma Counted.active_eq_zero (h : s.Counted) : s.gate.active = 0 ↔ s.scopes = [] := by
  rw [h.active, Finset.card_eq_zero, toFinset_eq_empty_iff]

lemma calls_of_returned {calls : Thread → Call} {other : Thread} {call : Call}
    (h : Function.update calls thread .idle other = call) (hcall : call ≠ .idle) :
    other ≠ thread ∧ calls other = call := by
  obtain rfl | hne := eq_or_ne other thread
  · rw [update_self] at h
    exact absurd h.symm hcall
  · rw [update_of_ne hne] at h
    exact ⟨hne, h⟩

section

variable (h : s.Counted)

include h

lemma Counted.nest (hmem : thread ∈ s.scopes) :
    (s.afterEnter thread (s.gate.nest thread, .granted)).Counted where
  depth other := by
    obtain rfl | hne := eq_or_ne other thread
    · simp [afterEnter, Gate.nest, h.depth]
    · simp [afterEnter, Gate.nest, h.depth, update_of_ne hne, hne.symm]
  active := by
    simpa [afterEnter, Gate.nest, toFinset_cons, Finset.insert_eq_of_mem, hmem] using h.active
  entering other hcall := by
    obtain ⟨hne, hcall⟩ := calls_of_returned hcall nofun
    simpa [afterEnter, hne] using h.entering other hcall
  permanent := by simpa [afterEnter, hmem] using h.permanent
  retired := by simpa [afterEnter, hmem] using h.retired
  registered other request hcall := h.registered other request (calls_of_returned hcall nofun).2

lemma Counted.admitOwner (hmem : thread ∉ s.scopes) :
    (s.afterEnter thread (s.gate.admitOwner thread, .granted)).Counted where
  depth other := by
    obtain rfl | hne := eq_or_ne other thread
    · simp [afterEnter, Gate.admitOwner, h.depth_eq_zero.mpr hmem, count_eq_zero.mpr hmem]
    · simp [afterEnter, Gate.admitOwner, h.depth, update_of_ne hne, hne.symm]
  active := by
    have hnew : thread ∉ s.scopes.toFinset := by simpa using hmem
    simp [afterEnter, Gate.admitOwner, h.active, toFinset_cons, Finset.card_insert_of_notMem hnew]
  entering other hcall := by
    obtain ⟨hne, hcall⟩ := calls_of_returned hcall nofun
    simpa [afterEnter, hne] using h.entering other hcall
  permanent := by simpa [afterEnter, hmem] using h.permanent
  retired := by simpa [afterEnter, hmem, Retired] using h.retired
  registered other request hcall := h.registered other request (calls_of_returned hcall nofun).2

lemma Counted.refused :
    ({ s with calls := Function.update s.calls thread .idle } : Scene Thread).Counted where
  depth := h.depth
  active := h.active
  entering other hcall := h.entering other (calls_of_returned hcall nofun).2
  permanent := h.permanent
  retired := h.retired
  registered other request hcall := h.registered other request (calls_of_returned hcall nofun).2

lemma Counted.waitsToEnter (hmem : thread ∉ s.scopes) :
    ({ s with calls := Function.update s.calls thread .entering } : Scene Thread).Counted where
  depth := h.depth
  active := h.active
  entering other hcall := by
    obtain rfl | hne := eq_or_ne other thread
    · exact hmem
    · exact h.entering other ((update_of_ne hne _ _).symm.trans hcall)
  permanent := h.permanent
  retired := h.retired
  registered other request hcall := by
    obtain rfl | hne := eq_or_ne other thread
    · cases (update_self ..).symm.trans hcall
    · exact h.registered other request ((update_of_ne hne _ _).symm.trans hcall)

lemma Counted.leave (hmem : thread ∈ s.scopes) : (s.step (.leave thread)).Counted where
  depth other := by
    have hdepth := mt h.depth_eq_zero.mp (not_not_intro hmem)
    obtain rfl | hne := eq_or_ne other thread
    · simp only [step, Gate.leave, if_neg hdepth, update_self, count_erase_self]
      rw [h.depth]
    · simp only [step, Gate.leave, if_neg hdepth, update_of_ne hne, count_erase_of_ne hne]
      rw [h.depth]
  active := by
    have hdepth := mt h.depth_eq_zero.mp (not_not_intro hmem)
    have hcount : (s.scopes.erase thread).count thread = s.gate.depth thread - 1 := by
      rw [h.depth, count_erase_self]
    simp only [step, Gate.leave, if_neg hdepth]
    split
    next hlast =>
      rw [hlast, count_eq_zero] at hcount
      have herase : (s.scopes.erase thread).toFinset = s.scopes.toFinset.erase thread := by
        ext other
        obtain rfl | hne := eq_or_ne other thread
        · simpa using hcount
        · simp [mem_erase_of_ne hne, hne]
      rw [herase, Finset.card_erase_of_mem (mem_toFinset.mpr hmem), h.active]
    next hmore =>
      have hkept : thread ∈ s.scopes.erase thread := by
        rw [← count_pos_iff]
        omega
      have hsame : (s.scopes.erase thread).toFinset = s.scopes.toFinset := by
        ext other
        obtain rfl | hne := eq_or_ne other thread
        · simp [hmem, hkept]
        · simp [mem_erase_of_ne hne]
      rw [hsame, h.active]
  entering other hcall hother := h.entering other hcall (mem_of_mem_erase hother)
  permanent := by simpa [step] using h.permanent
  retired := by simpa [step] using h.retired
  registered := by simpa [step] using h.registered

/-! ### Requests -/

lemma Counted.register (request : Request) :
    ({ s with gate := { s.gate with held := insert request s.gate.held } } : Scene Thread).Counted
    where
  depth := h.depth
  active := h.active
  entering := h.entering
  permanent := h.permanent
  retired := h.retired
  registered other waiting hcall hid :=
    Finset.mem_insert_of_mem (h.registered other waiting hcall hid)

lemma Counted.waitsToAcquire
    (hheld : s.gate.retired request.controller < request.id → request ∈ s.gate.held) :
    ({ s with calls := Function.update s.calls thread (.acquiring request) } : Scene Thread).Counted
    where
  depth := h.depth
  active := h.active
  entering other hcall := by
    obtain rfl | hne := eq_or_ne other thread
    · cases (update_self ..).symm.trans hcall
    · exact h.entering other ((update_of_ne hne _ _).symm.trans hcall)
  permanent := h.permanent
  retired := h.retired
  registered other waiting hcall hid := by
    obtain rfl | hne := eq_or_ne other thread
    · cases (update_self ..).symm.trans hcall
      exact hheld hid
    · exact h.registered other waiting ((update_of_ne hne _ _).symm.trans hcall) hid

lemma Counted.grant : (s.afterAcquire thread request (s.gate, .granted)).Counted where
  depth := h.depth
  active := h.active
  entering other hcall := h.entering other (calls_of_returned hcall nofun).2
  permanent := by simpa [afterAcquire] using h.permanent
  retired := by simpa [afterAcquire, Retired] using h.retired
  registered other waiting hcall := h.registered other waiting (calls_of_returned hcall nofun).2

lemma Counted.retire {calls : Thread → Call}
    (hcalls : ∀ other call, calls other = call → call ≠ .idle → s.calls other = call)
    {entry : Entry Thread} (hentry : entry = .released request ∨ entry = .givenUp request) :
    ({ s with gate := s.gate.retire request, calls := calls, log := entry :: s.log } :
      Scene Thread).Counted where
  depth := h.depth
  active := h.active
  entering other hcall := h.entering other (hcalls other _ hcall nofun)
  permanent hlog := by
    refine h.permanent ((mem_cons.mp hlog).resolve_left ?_)
    rintro rfl
    obtain heq | heq := hentry <;> cases heq
  retired other hretired := by
    have hbefore : other = request ∨ Retired other s.log := by
      obtain rfl | rfl := hentry <;>
        simpa [Retired, mem_cons, or_assoc, or_left_comm] using hretired
    obtain rfl | hbefore := hbefore
    · exact s.gate.id_le_retire other
    · exact (h.retired other hbefore).trans (s.gate.retired_le_retire request other.controller)
  registered other waiting hcall hid := by
    have hbefore := h.registered other waiting (hcalls other _ hcall nofun)
    have hne : waiting ≠ request := by
      rintro rfl
      exact absurd (s.gate.id_le_retire waiting) (Nat.not_le.mpr hid)
    exact Finset.mem_erase.mpr ⟨hne, hbefore
      (lt_of_le_of_lt (s.gate.retired_le_retire request waiting.controller) hid)⟩

/-! ### Steps -/

lemma Counted.afterEnter_poll (hmem : thread ∉ s.scopes) (cancelled : Bool) :
    (s.afterEnter thread (s.gate.pollEnter thread cancelled)).Counted := by
  unfold Gate.pollEnter
  split
  · exact h.refused
  · split
    · exact h.waitsToEnter hmem
    · exact h.admitOwner hmem

lemma Counted.afterAcquire_poll
    (hheld : s.gate.retired request.controller < request.id → request ∈ s.gate.held)
    (stopped : Bool) :
    (s.afterAcquire thread request (s.gate.pollAcquire request stopped)).Counted := by
  unfold Gate.pollAcquire
  split
  · exact h.retire (fun other call => fun hcall hne => (calls_of_returned hcall hne).2) (.inr rfl)
  · split
    · exact h.waitsToAcquire hheld
    · exact h.grant

end

lemma Counted.step {event : Event Thread} (h : s.Counted) (hadmits : s.admits event) :
    (s.step event).Counted := by
  cases event with
  | tryEnter thread =>
    simp only [Scene.step, Gate.tryEnter]
    split
    next hdepth => exact h.nest (not_not.mp (mt h.depth_eq_zero.mpr hdepth))
    next hdepth =>
      split
      · exact h.refused
      · exact h.admitOwner (h.depth_eq_zero.mp (not_not.mp hdepth))
  | waitEnter thread cancelled =>
    simp only [Scene.step, Gate.waitEnter]
    split
    next hdepth => exact h.nest (not_not.mp (mt h.depth_eq_zero.mpr hdepth))
    next hdepth => exact h.afterEnter_poll (h.depth_eq_zero.mp (not_not.mp hdepth)) cancelled
  | acquire thread request stopped =>
    simp only [Scene.step, Gate.acquire]
    split
    · exact h.refused
    · split
      · exact h.refused
      · exact (h.register request).afterAcquire_poll
          (fun _ => Finset.mem_insert_self request s.gate.held) stopped
  | wake thread stopped =>
    simp only [Scene.step]
    split
    next => exact h
    next hcall => exact h.afterEnter_poll (h.entering thread hcall) stopped
    next request hcall => exact h.afterAcquire_poll (h.registered thread request hcall) stopped
  | release request => exact h.retire (fun _ _ hcall _ => hcall) (.inl rfl)
  | leave thread => exact h.leave hadmits
  | retainUnknown =>
    exact
      { depth := h.depth
        active := h.active
        entering := h.entering
        permanent := fun _ => rfl
        retired := by simpa [Scene.step, Gate.retainUnknown, Retired] using h.retired
        registered := h.registered }

/-! ## Exclusion -/

section

variable (h : s.Exclusive)

include h

section

variable (hcounted : s.Counted)

include hcounted

lemma Exclusive.entered {gate : Gate Thread}
    (hfree : thread ∈ s.scopes ∨ s.gate.inhibited = false) :
    (s.afterEnter thread (gate, .granted)).Exclusive := by
  -- While a request is borrowed neither way in is open.
  have hnone : ∀ request, borrowed request s.log = false := by
    intro request
    by_contra hborrowed
    obtain ⟨hheld, hscopes⟩ := h.held request (Bool.not_eq_false _ ▸ hborrowed)
    obtain hmem | hopen := hfree
    · rw [hscopes] at hmem
      exact not_mem_nil hmem
    · simp only [Gate.inhibited, Bool.or_eq_false_iff, decide_eq_false_iff_not, not_not] at hopen
      rw [hopen.2] at hheld
      exact Finset.notMem_empty request hheld
  by_cases hmem : thread ∈ s.scopes
  · refine ⟨fun request hborrowed => ?_, ?_⟩
    · simp [afterEnter, hmem, hnone request] at hborrowed
    · simpa [afterEnter, hmem] using h.log
  · refine ⟨fun request hborrowed => ?_, ?_⟩
    · simp [afterEnter, hmem, borrowed, hnone request] at hborrowed
    · simp only [afterEnter, if_neg hmem]
      refine h.log.cons fun hretained => ?_
      have hopen := hfree.resolve_left hmem
      rw [Gate.inhibited, hcounted.permanent hretained, Bool.true_or] at hopen
      cases hopen

lemma Exclusive.grant
    (hlate : s.gate.retired request.controller < request.id) (hheld : request ∈ s.gate.held)
    (hactive : s.gate.active = 0) :
    (s.afterAcquire thread request (s.gate, .granted)).Exclusive where
  held other hborrowed := by
    simp only [afterAcquire, borrowed, Bool.or_eq_true, decide_eq_true_eq] at hborrowed
    obtain rfl | hborrowed := hborrowed
    · exact ⟨hheld, hcounted.active_eq_zero.mp hactive⟩
    · exact h.held other hborrowed
  log := h.log.cons fun other hretired hcontroller =>
    lt_of_le_of_lt (hcontroller ▸ hcounted.retired other hretired) hlate

lemma Exclusive.afterEnter_poll (cancelled : Bool) :
    (s.afterEnter thread (s.gate.pollEnter thread cancelled)).Exclusive := by
  unfold Gate.pollEnter
  split
  next => exact ⟨h.held, h.log⟩
  next =>
    split
    next => exact ⟨h.held, h.log⟩
    next hopen => exact h.entered hcounted (.inr (Bool.not_eq_true _ ▸ hopen))

end

omit [DecidableEq Thread] in
lemma Exclusive.retire {calls : Thread → Call} {entry : Entry Thread}
    (hentry : entry.FollowsOn s.log) (hborrowed : ∀ other, borrowed other (entry :: s.log) = true →
      other ≠ request ∧ borrowed other s.log = true) :
    ({ s with gate := s.gate.retire request, calls := calls, log := entry :: s.log } :
      Scene Thread).Exclusive where
  held other hother := by
    obtain ⟨hne, hother⟩ := hborrowed other hother
    obtain ⟨hheld, hscopes⟩ := h.held other hother
    exact ⟨Finset.mem_erase.mpr ⟨hne, hheld⟩, hscopes⟩
  log := h.log.cons hentry

lemma Exclusive.giveUp (hnone : borrowed request s.log = false) :
    (s.afterAcquire thread request (s.gate.retire request, .gaveUp)).Exclusive := by
  refine h.retire trivial fun other hother => ⟨?_, hother⟩
  rintro rfl
  exact Bool.false_ne_true (hnone.symm.trans hother)

lemma Exclusive.release (request : Request) : (s.step (.release request)).Exclusive := by
  refine h.retire trivial fun other hother => ?_
  simp only [borrowed, Bool.and_eq_true, decide_eq_true_eq] at hother
  exact ⟨hother.1.symm, hother.2⟩

lemma Exclusive.leave (hmem : thread ∈ s.scopes) : (s.step (.leave thread)).Exclusive where
  held request hborrowed := by
    rw [(h.held request hborrowed).2] at hmem
    exact absurd hmem not_mem_nil
  log := h.log

end

/-- An `acquire` that ends its wait with the lock still lets nothing of its controller pass that
was retired meanwhile, and an `acquire` of a borrowed request does not give up. -/
def Undisturbed (s : Scene Thread) : Event Thread → Prop
  | .acquire _ request stopped =>
    stopped = true → s.gate.permanent = false →
      s.gate.retired request.controller < request.id → borrowed request s.log = false
  | .wake thread stopped =>
    match s.calls thread with
    | .acquiring request =>
      if stopped then borrowed request s.log = false
      else s.gate.active = 0 → s.gate.retired request.controller < request.id
    | .idle | .entering => True
  | .tryEnter _ | .waitEnter _ _ | .release _ | .leave _ | .retainUnknown => True

instance Undisturbed.decidable (s : Scene Thread) : ∀ event, Decidable (s.Undisturbed event)
  | .acquire _ request stopped =>
    inferInstanceAs (Decidable (stopped = true → s.gate.permanent = false →
      s.gate.retired request.controller < request.id → borrowed request s.log = false))
  | .wake thread stopped =>
    match hcall : s.calls thread with
    | .acquiring request =>
      decidable_of_iff (if stopped then borrowed request s.log = false
        else s.gate.active = 0 → s.gate.retired request.controller < request.id)
        (by simp only [Undisturbed, hcall])
    | .idle => .isTrue (by simp only [Undisturbed, hcall])
    | .entering => .isTrue (by simp only [Undisturbed, hcall])
  | .tryEnter _ => .isTrue trivial
  | .waitEnter _ _ => .isTrue trivial
  | .release _ => .isTrue trivial
  | .leave _ => .isTrue trivial
  | .retainUnknown => .isTrue trivial

lemma Exclusive.afterAcquire_poll (h : s.Exclusive) (hcounted : s.Counted) {stopped : Bool}
    (hheld : s.gate.retired request.controller < request.id → request ∈ s.gate.held)
    (hgaveUp : stopped = true → borrowed request s.log = false)
    (hgranted : stopped = false → s.gate.active = 0 →
      s.gate.retired request.controller < request.id) :
    (s.afterAcquire thread request (s.gate.pollAcquire request stopped)).Exclusive := by
  unfold Gate.pollAcquire
  split
  next hstopped => exact h.giveUp (hgaveUp hstopped)
  next hstopped =>
    split
    next => exact ⟨h.held, h.log⟩
    next hactive =>
      have hactive := not_not.mp hactive
      have hlate := hgranted (Bool.not_eq_true _ ▸ hstopped) hactive
      exact h.grant hcounted hlate (hheld hlate) hactive

lemma Exclusive.step {event : Event Thread} (h : s.Exclusive) (hcounted : s.Counted)
    (hadmits : s.admits event) (hundisturbed : s.Undisturbed event) : (s.step event).Exclusive := by
  cases event with
  | tryEnter thread =>
    simp only [Scene.step, Gate.tryEnter]
    split
    next hdepth =>
      exact h.entered hcounted (.inl (not_not.mp (mt hcounted.depth_eq_zero.mpr hdepth)))
    next =>
      split
      next => exact ⟨h.held, h.log⟩
      next hopen => exact h.entered hcounted (.inr (Bool.not_eq_true _ ▸ hopen))
  | waitEnter thread cancelled =>
    simp only [Scene.step, Gate.waitEnter]
    split
    next hdepth =>
      exact h.entered hcounted (.inl (not_not.mp (mt hcounted.depth_eq_zero.mpr hdepth)))
    next => exact h.afterEnter_poll hcounted cancelled
  | acquire thread request stopped =>
    simp only [Scene.step, Gate.acquire]
    split
    next => exact ⟨h.held, h.log⟩
    next =>
      split
      next => exact ⟨h.held, h.log⟩
      next hopen =>
        simp only [Bool.or_eq_true, decide_eq_true_eq, not_or, Bool.not_eq_true,
          Nat.not_le] at hopen
        have hregd : ({ s with
            gate := { s.gate with held := insert request s.gate.held } } :
            Scene Thread).Exclusive :=
          ⟨fun other hborrowed => (h.held other hborrowed).imp_left Finset.mem_insert_of_mem, h.log⟩
        exact hregd.afterAcquire_poll (hcounted.register request)
          (fun _ => Finset.mem_insert_self request s.gate.held)
          (fun hstopped => hundisturbed hstopped hopen.1 hopen.2) fun _ _ => hopen.2
  | wake thread stopped =>
    simp only [Scene.step]
    split
    next => exact h
    next => exact h.afterEnter_poll hcounted stopped
    next request hcall =>
      simp only [Undisturbed, hcall] at hundisturbed
      refine h.afterAcquire_poll hcounted (hcounted.registered thread request hcall) ?_ ?_
      · rintro rfl
        simpa using hundisturbed
      · rintro rfl
        simpa using hundisturbed
  | release request => exact h.release request
  | leave thread => exact h.leave hadmits
  | retainUnknown => exact ⟨h.held, h.log.cons trivial⟩

/-- In a run all of whose steps are undisturbed, a granted request is held and no scope lives
until the request is released; the gate counts the threads with a living scope; no thread gets
its first scope after `retain_unknown`; and nothing is granted whose controller has had an equal
or a later request retired. -/
theorem borrow_exclusion (h : (system Thread).ReachableUnder Undisturbed s) :
    (∀ request, borrowed request s.log = true → request ∈ s.gate.held ∧ s.scopes = []) ∧
      s.gate.active = s.scopes.toFinset.card ∧ Lawful s.log := by
  let inv (s : Scene Thread) : Prop := s.Counted ∧ s.Exclusive
  have hinv : inv s := by
    refine h.invariant ⟨counted_initial, exclusive_initial⟩ ?_
    intro state event hinv hadmits hundisturbed
    exact ⟨hinv.1.step hadmits, hinv.2.step hinv.1 hadmits hundisturbed⟩
  obtain ⟨hcounted, hexclusive⟩ := hinv
  exact ⟨hexclusive.held, hcounted.active, hexclusive.log⟩

/-- A controller waits for the scope of a thread and gets the display. -/
theorem borrow_exclusion_drained : let request : Request := ⟨⟨1, 1⟩, 1⟩
    let s := (system ℕ).run initial
      [.tryEnter 0, .acquire 1 request false, .leave 0, .wake 1 false]
    borrowed request s.log = true ∧ request ∈ s.gate.held ∧ s.scopes = [] := by
  intro request s
  have hborrowed : borrowed request s.log = true := by decide
  have hreach : (system ℕ).ReachableUnder Undisturbed s :=
    Library.System.Segment.of_follows .refl (by decide)
  exact ⟨hborrowed, (borrow_exclusion hreach).1 request hborrowed⟩

/-- The request is released while its `acquire` waits for the scope of a thread. Once the scope
is gone the `acquire` succeeds without holding anything, and the thread enters again. -/
theorem released_while_waiting : let request : Request := ⟨⟨1, 1⟩, 1⟩
    ∃ s : Scene ℕ, (system ℕ).Reachable s ∧ borrowed request s.log = true ∧
      request ∉ s.gate.held ∧ s.scopes = [0] :=
  ⟨(system ℕ).run initial
      [.tryEnter 0, .acquire 1 ⟨⟨1, 1⟩, 1⟩ false, .release ⟨⟨1, 1⟩, 1⟩, .leave 0, .wake 1 false,
        .tryEnter 0],
    Library.System.Segment.of_follows .refl (by decide), by decide, by decide, by decide⟩

end Scene

end Vibeshine.HelperIpc.Borrow
