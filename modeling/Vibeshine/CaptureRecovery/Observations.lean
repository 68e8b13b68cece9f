import Mathlib.Data.List.Sublists
import Vibeshine.Library.System

/-! # Frames that confirm a recovery

A recovery of a display is watched until a capture that was begun after the watch produces a
frame of the watched output. `Observations` is what the mutex of `observations_t` guards, with
the flag that calls read before they take it; `World` adds the observations themselves, which
their owners drop at any time, the calls under way and the history of all calls. `Confirmation`
is the owner's side: it asks for a bounded number of retries while no frame comes.
-/

namespace Vibeshine.CaptureRecovery

open List Function

abbrev Time := Int

def sameName (left right : String) : Bool :=
  !left.isEmpty && left.toList.map Char.toLower == right.toList.map Char.toLower

structure Observation where
  generation : Nat
  deviceIds : List String
  lastIdentityLookupInstance : Nat := 0
  retryIdentityLookupInstance : Nat := 0
  retryIdentityLookupAfter : Time := 0
  frameObserved : Bool := false
  deriving DecidableEq

namespace Observation

variable (o : Observation) (deviceId : String)

/-- One of the watched targets is `deviceId`. -/
def names : Bool := o.deviceIds.any (sameName · deviceId)

variable (capture : Nat) (now : Time)

def retryLater : Observation :=
  { o with retryIdentityLookupInstance := capture, retryIdentityLookupAfter := now + 500 }

def lookupFailed (o : Observation) : Observation :=
  if o.generation < capture ∧ capture ≠ o.lastIdentityLookupInstance then o.retryLater capture now
  else o

def acknowledges (capture : Nat) (o : Observation) : Bool :=
  decide (o.generation < capture) && o.names deviceId

def framed (capture : Nat) (now : Time) (o : Observation) : Observation :=
  if o.generation < capture then
    if o.names deviceId then
      { o with
        lastIdentityLookupInstance := capture
        retryIdentityLookupInstance := 0
        frameObserved := true }
    else o.retryLater capture now
  else o

end Observation

inductive Call where
  | requiresIdentityLookup (capture : Nat) (now : Time)
  | identityLookupFailed (capture : Nat) (now : Time)
  | frame (deviceId : String) (capture : Nat) (now : Time)
  deriving DecidableEq

def Call.visit : Call → Observation → Observation
  | .requiresIdentityLookup _ _ => id
  | .identityLookupFailed capture now => Observation.lookupFailed capture now
  | .frame deviceId capture now => Observation.framed deviceId capture now

def Call.acknowledges : Call → Observation → Bool
  | .frame deviceId capture _ => Observation.acknowledges deviceId capture
  | .requiresIdentityLookup _ _ | .identityLookupFailed _ _ => fun _ => false

variable (call : Call)

lemma Call.visit_generation (o : Observation) : (call.visit o).generation = o.generation := by
  cases call with
  | requiresIdentityLookup => rfl
  | identityLookupFailed =>
    simp only [visit, Observation.lookupFailed]
    split <;> rfl
  | frame =>
    simp only [visit, Observation.framed]
    split
    · split <;> rfl
    · rfl

lemma Call.visit_deviceIds (o : Observation) : (call.visit o).deviceIds = o.deviceIds := by
  cases call with
  | requiresIdentityLookup => rfl
  | identityLookupFailed =>
    simp only [visit, Observation.lookupFailed]
    split <;> rfl
  | frame =>
    simp only [visit, Observation.framed]
    split
    · split <;> rfl
    · rfl

lemma Call.visit_frameObserved (o : Observation) :
    (call.visit o).frameObserved = (o.frameObserved || call.acknowledges o) := by
  cases call with
  | requiresIdentityLookup => exact (Bool.or_false _).symm
  | identityLookupFailed =>
    simp only [visit, Observation.lookupFailed, acknowledges, Bool.or_false]
    split <;> rfl
  | frame =>
    simp only [visit, Observation.framed, acknowledges, Observation.acknowledges]
    split
    next hlate =>
      split
      next hnamed => simp [hlate, hnamed]
      next hnamed => simp [Observation.retryLater, hnamed]
    next hlate => simp [hlate]

/-- What has happened, by the numbers of the calls; the number of an observation is its
generation. -/
inductive Entry where
  | begun (capture : Nat)
  | watched (observation : Nat)
  | started (number : Nat) (call : Call)
  | returned (number : Nat)
  deriving DecidableEq

structure Observations where
  generation : Nat := 1
  active : Bool := false
  /-- Weak references. -/
  observers : List Nat := []

structure World extends Observations where
  /-- The observations that somebody still owns. -/
  alive : Nat → Option Observation := fun _ => none
  calls : Nat → Option Call := fun _ => none
  nextCall : Nat := 0
  /-- The newest entry first. -/
  log : List Entry := []

inductive Event where
  | beginCapture
  | watch (deviceIds : List String)
  | drop (observation : Nat)
  | start (call : Call)
  | locked (number : Nat)

namespace World

variable (w : World)

/-- Under the lock every live observer is visited once, and those that are expired or done leave
the list. -/
def sweep (visit : Observation → Observation) (done : Observation → Bool) : World :=
  let observers := w.observers.filter fun id => (w.alive id).any fun o => !done o
  { w with
    alive := fun id => if id ∈ w.observers then (w.alive id).map visit else w.alive id
    observers := observers
    active := !observers.isEmpty }

def beginCapture : World :=
  { w with generation := w.generation + 1, log := .begun w.generation :: w.log }

def watch (deviceIds : List String) : World :=
  { w with
    generation := w.generation + 1
    observers := w.observers.filter (fun id => (w.alive id).isSome) ++ [w.generation]
    active := true
    alive := Function.update w.alive w.generation
      (some { generation := w.generation, deviceIds := deviceIds })
    log := .watched w.generation :: w.log }

def perform (call : Call) : World := w.sweep call.visit call.acknowledges

def step : Event → World
  | .beginCapture => w.beginCapture
  | .watch deviceIds => w.watch deviceIds
  | .drop observation => { w with alive := Function.update w.alive observation none }
  | .start call =>
    let started := { w with
      nextCall := w.nextCall + 1, log := .started w.nextCall call :: w.log }
    if w.active then { started with calls := Function.update w.calls w.nextCall (some call) }
    else { started with log := .returned w.nextCall :: started.log }
  | .locked number =>
    match w.calls number with
    | none => w
    | some call =>
      let performed := w.perform call
      { performed with
        calls := Function.update performed.calls number none
        log := .returned number :: performed.log }

def admits : Event → Prop
  | .start (.frame _ capture _) => .begun capture ∈ w.log
  | .locked number => w.calls number ≠ none
  | .start _ | .beginCapture | .watch _ | .drop _ => True

def system : Library.System World Event where
  init := {}
  admits := admits
  step := step

/-! ## What every run keeps -/

/-- The list of observers and its flag. -/
structure Listed (w : World) : Prop where
  active : w.active = !w.observers.isEmpty
  generation : ∀ id o, w.alive id = some o → o.generation = id ∧ id < w.generation
  waiting : ∀ id o, w.alive id = some o → o.frameObserved = false → id ∈ w.observers

/-- The history of captures, watches and calls. -/
structure Recorded (w : World) : Prop where
  begun : ∀ capture, .begun capture ∈ w.log → capture < w.generation
  watched : ∀ id, .watched id ∈ w.log → id < w.generation
  watches : ∀ id o, w.alive id = some o → .watched id ∈ w.log
  order : ∀ capture id, .begun capture ∈ w.log → .watched id ∈ w.log →
    (id < capture ↔ [.begun capture, .watched id].Sublist w.log)
  started : ∀ number call, .started number call ∈ w.log → number < w.nextCall
  running : ∀ number call, w.calls number = some call →
    .started number call ∈ w.log ∧ ∀ other, .started number other ∈ w.log → other = call
  framing : ∀ number deviceId capture now, w.calls number = some (.frame deviceId capture now) →
    .begun capture ∈ w.log ∧ ∀ id, [.begun capture, .watched id].Sublist w.log →
        [.started number (.frame deviceId capture now), .begun capture, .watched id].Sublist w.log

end World

/-- A frame of a watched target has come from a capture that was begun after the watch, and its
call has returned. -/
def Acknowledged (log : List Entry) (id : Nat) (o : Observation) : Prop :=
  ∃ number deviceId capture now, o.names deviceId = true ∧
    [.returned number, .started number (.frame deviceId capture now), .begun capture,
      .watched id].Sublist log

namespace World

def Exact (w : World) : Prop :=
  ∀ id o, w.alive id = some o → (o.frameObserved = true ↔ Acknowledged w.log id o)

end World

lemma sublist_cons_of_ne {α : Type} {first second : α} {list log : List α}
    (hne : first ≠ second) : (first :: list).Sublist (second :: log) ↔ (first :: list).Sublist log :=
  ⟨fun h => h.of_cons_of_ne hne, fun h => h.cons second⟩

lemma Acknowledged.cons {log : List Entry} {id : Nat} {o : Observation} (entry : Entry)
    (h : Acknowledged log id o) : Acknowledged (entry :: log) id o := by
  obtain ⟨number, deviceId, capture, now, hnames, hlog⟩ := h
  exact ⟨number, deviceId, capture, now, hnames, hlog.cons entry⟩

lemma acknowledged_cons_iff {log : List Entry} {id : Nat} {o : Observation} {entry : Entry}
    (hentry : ∀ number, entry ≠ .returned number) :
    Acknowledged (entry :: log) id o ↔ Acknowledged log id o := by
  refine ⟨?_, Acknowledged.cons entry⟩
  rintro ⟨number, deviceId, capture, now, hnames, hlog⟩
  exact ⟨number, deviceId, capture, now, hnames, (sublist_cons_of_ne (hentry number).symm).mp hlog⟩

namespace World

variable {w : World}

lemma alive_perform (call : Call) {id : Nat} {o : Observation}
    (h : (w.perform call).alive id = some o) : ∃ before, w.alive id = some before ∧
      o = if id ∈ w.observers then call.visit before else before := by
  simp only [perform, sweep] at h
  split at h
  next hmem =>
    obtain ⟨before, hbefore, rfl⟩ := Option.map_eq_some_iff.mp h
    exact ⟨before, hbefore, (if_pos hmem).symm⟩
  next hmem => exact ⟨o, h, (if_neg hmem).symm⟩

/-! ### The list of observers -/

lemma Listed.observed_of_inactive (h : w.Listed) (hactive : w.active = false) {id : Nat}
    {o : Observation} (halive : w.alive id = some o) : o.frameObserved = true := by
  by_contra hwaiting
  have hmem := h.waiting id o halive (Bool.not_eq_true _ ▸ hwaiting)
  rw [h.active, Bool.not_eq_false', List.isEmpty_iff] at hactive
  rw [hactive] at hmem
  exact not_mem_nil hmem

lemma Listed.perform (h : w.Listed) (call : Call) : (w.perform call).Listed where
  active := rfl
  generation id o halive := by
    obtain ⟨before, hbefore, rfl⟩ := alive_perform call halive
    have hgeneration := h.generation id before hbefore
    split
    · rwa [call.visit_generation]
    · exact hgeneration
  waiting id o halive hwaiting := by
    obtain ⟨before, hbefore, rfl⟩ := alive_perform call halive
    split at hwaiting
    next hmem =>
      rw [call.visit_frameObserved, Bool.or_eq_false_iff] at hwaiting
      exact mem_filter.mpr ⟨hmem, by simp [hbefore, hwaiting.2]⟩
    next hmem => exact absurd (h.waiting id before hbefore hwaiting) hmem

lemma Listed.watch (h : w.Listed) (deviceIds : List String) : (w.watch deviceIds).Listed where
  active := by simp [World.watch]
  generation id o halive := by
    obtain rfl | hne := eq_or_ne id w.generation
    · simp only [World.watch, update_self, Option.some.injEq] at halive
      exact ⟨halive ▸ rfl, Nat.lt_succ_self _⟩
    · simp only [World.watch, update_of_ne hne] at halive
      exact (h.generation id o halive).imp_right Nat.lt_succ_of_lt
  waiting id o halive hwaiting := by
    obtain rfl | hne := eq_or_ne id w.generation
    · simp [World.watch]
    · simp only [World.watch, update_of_ne hne] at halive
      simp [World.watch, h.waiting id o halive hwaiting, halive]

lemma alive_of_drop {observation id : Nat} {o : Observation}
    (h : (w.step (.drop observation)).alive id = some o) : w.alive id = some o := by
  obtain rfl | hne := eq_or_ne id observation
  · simp [World.step] at h
  · simpa [World.step, update_of_ne hne] using h

lemma Listed.drop (h : w.Listed) (observation : Nat) : (w.step (.drop observation)).Listed where
  active := h.active
  generation id o halive := h.generation id o (alive_of_drop halive)
  waiting id o halive := h.waiting id o (alive_of_drop halive)

lemma Listed.step {event : Event} (h : w.Listed) : (w.step event).Listed := by
  cases event with
  | beginCapture =>
    exact ⟨h.active, fun id o halive => (h.generation id o halive).imp_right Nat.lt_succ_of_lt,
      h.waiting⟩
  | watch deviceIds => exact h.watch deviceIds
  | drop observation => exact h.drop observation
  | start call =>
    simp only [World.step]
    split <;> exact ⟨h.active, h.generation, h.waiting⟩
  | locked number =>
    simp only [World.step]
    split
    next => exact h
    next call hcall =>
      have hperformed := h.perform call
      exact ⟨hperformed.active, hperformed.generation, hperformed.waiting⟩

/-! ### The history -/

lemma Recorded.beginCapture (h : w.Recorded) : w.beginCapture.Recorded where
  begun capture hbegun := by
    obtain heq | hbegun := mem_cons.mp hbegun
    · cases heq
      exact Nat.lt_succ_self _
    · exact Nat.lt_succ_of_lt (h.begun capture hbegun)
  watched id hwatched :=
    Nat.lt_succ_of_lt (h.watched id (mem_of_ne_of_mem (by nofun) hwatched))
  watches id o halive := mem_cons_of_mem _ (h.watches id o halive)
  order capture id hbegun hwatched := by
    have hwatched := mem_of_ne_of_mem (by nofun) hwatched
    obtain heq | hbegun := mem_cons.mp hbegun
    · cases heq
      exact iff_of_true (h.watched id hwatched)
        (cons_sublist_cons.mpr (singleton_sublist.mpr hwatched))
    · have hne : Entry.begun capture ≠ .begun w.generation := by
        rintro ⟨⟩
        exact lt_irrefl _ (h.begun _ hbegun)
      rw [h.order capture id hbegun hwatched, World.beginCapture, sublist_cons_of_ne hne]
  started number call hstarted := h.started number call (mem_of_ne_of_mem (by nofun) hstarted)
  running number call hcall := by
    obtain ⟨hstarted, hunique⟩ := h.running number call hcall
    exact ⟨mem_cons_of_mem _ hstarted,
      fun other hother => hunique other (mem_of_ne_of_mem (by nofun) hother)⟩
  framing number deviceId capture now hcall := by
    obtain ⟨hbegun, hframing⟩ := h.framing number deviceId capture now hcall
    have hne : Entry.begun capture ≠ .begun w.generation := by
      rintro ⟨⟩
      exact lt_irrefl _ (h.begun _ hbegun)
    exact ⟨mem_cons_of_mem _ hbegun,
      fun id hafter => (hframing id ((sublist_cons_of_ne hne).mp hafter)).cons _⟩

lemma Recorded.watch (h : w.Recorded) (deviceIds : List String) : (w.watch deviceIds).Recorded where
  begun capture hbegun :=
    Nat.lt_succ_of_lt (h.begun capture (mem_of_ne_of_mem (by nofun) hbegun))
  watched id hwatched := by
    obtain heq | hwatched := mem_cons.mp hwatched
    · cases heq
      exact Nat.lt_succ_self _
    · exact Nat.lt_succ_of_lt (h.watched id hwatched)
  watches id o halive := by
    obtain rfl | hne := eq_or_ne id w.generation
    · exact mem_cons_self
    · simp only [World.watch, update_of_ne hne] at halive
      exact mem_cons_of_mem _ (h.watches id o halive)
  order capture id hbegun hwatched := by
    have hbegun := mem_of_ne_of_mem (by nofun) hbegun
    have hne : Entry.begun capture ≠ .watched w.generation := nofun
    refine Iff.trans ?_ (sublist_cons_of_ne hne).symm
    obtain heq | hwatched := mem_cons.mp hwatched
    · cases heq
      -- The new watch comes after every capture so far.
      refine iff_of_false (Nat.lt_asymm (h.begun capture hbegun)) fun hafter => ?_
      exact lt_irrefl _ (h.watched _ (hafter.subset (by simp)))
    · exact h.order capture id hbegun hwatched
  started number call hstarted := h.started number call (mem_of_ne_of_mem (by nofun) hstarted)
  running number call hcall := by
    obtain ⟨hstarted, hunique⟩ := h.running number call hcall
    exact ⟨mem_cons_of_mem _ hstarted,
      fun other hother => hunique other (mem_of_ne_of_mem (by nofun) hother)⟩
  framing number deviceId capture now hcall := by
    obtain ⟨hbegun, hframing⟩ := h.framing number deviceId capture now hcall
    exact ⟨mem_cons_of_mem _ hbegun,
      fun id hafter => (hframing id (List.Sublist.of_cons_of_ne (by nofun) hafter)).cons _⟩

lemma Recorded.started_call (h : w.Recorded) {call : Call} (hadmits : w.admits (.start call)) :
    ({ w with
        nextCall := w.nextCall + 1
        log := .started w.nextCall call :: w.log
        calls := Function.update w.calls w.nextCall (some call) } : World).Recorded where
  begun capture hbegun := h.begun capture (mem_of_ne_of_mem (by nofun) hbegun)
  watched id hwatched := h.watched id (mem_of_ne_of_mem (by nofun) hwatched)
  watches id o halive := mem_cons_of_mem _ (h.watches id o halive)
  order capture id hbegun hwatched := by
    have hne : Entry.begun capture ≠ .started w.nextCall call := nofun
    exact (h.order capture id (mem_of_ne_of_mem (by nofun) hbegun)
      (mem_of_ne_of_mem (by nofun) hwatched)).trans (sublist_cons_of_ne hne).symm
  started number other hstarted := by
    obtain heq | hstarted := mem_cons.mp hstarted
    · cases heq
      exact Nat.lt_succ_self _
    · exact Nat.lt_succ_of_lt (h.started number other hstarted)
  running number other hcall := by
    obtain rfl | hne := eq_or_ne number w.nextCall
    · cases (update_self ..).symm.trans hcall
      refine ⟨mem_cons_self, fun another hanother => ?_⟩
      obtain heq | hanother := mem_cons.mp hanother
      · cases heq
        rfl
      · exact absurd (h.started _ another hanother) (lt_irrefl _)
    · obtain ⟨hstarted, hunique⟩ :=
        h.running number other ((update_of_ne hne _ _).symm.trans hcall)
      refine ⟨mem_cons_of_mem _ hstarted, fun another hanother => ?_⟩
      refine hunique another (mem_of_ne_of_mem ?_ hanother)
      rintro ⟨⟩
      exact hne rfl
  framing number deviceId capture now hcall := by
    obtain rfl | hne := eq_or_ne number w.nextCall
    · cases (update_self ..).symm.trans hcall
      exact ⟨mem_cons_of_mem _ hadmits, fun id hafter =>
        cons_sublist_cons.mpr (List.Sublist.of_cons_of_ne (by nofun) hafter)⟩
    · obtain ⟨hbegun, hframing⟩ := h.framing number deviceId capture now
        ((update_of_ne hne _ _).symm.trans hcall)
      exact ⟨mem_cons_of_mem _ hbegun,
        fun id hafter => (hframing id (List.Sublist.of_cons_of_ne (by nofun) hafter)).cons _⟩

lemma Recorded.returned {next : World} {number : Nat} (h : w.Recorded)
    (hlog : next.log = .returned number :: w.log) (hgeneration : next.generation = w.generation)
    (hnextCall : next.nextCall = w.nextCall)
    (halive : ∀ id o, next.alive id = some o → ∃ before, w.alive id = some before)
    (hcalls : ∀ other call, next.calls other = some call → w.calls other = some call) :
    next.Recorded where
  begun capture hbegun := by
    rw [hlog] at hbegun
    exact hgeneration ▸ h.begun capture (mem_of_ne_of_mem (by nofun) hbegun)
  watched id hwatched := by
    rw [hlog] at hwatched
    exact hgeneration ▸ h.watched id (mem_of_ne_of_mem (by nofun) hwatched)
  watches id o hsome := by
    obtain ⟨before, hbefore⟩ := halive id o hsome
    exact hlog ▸ mem_cons_of_mem _ (h.watches id before hbefore)
  order capture id hbegun hwatched := by
    rw [hlog] at hbegun hwatched ⊢
    have hne : Entry.begun capture ≠ .returned number := nofun
    exact (h.order capture id (mem_of_ne_of_mem (by nofun) hbegun)
      (mem_of_ne_of_mem (by nofun) hwatched)).trans (sublist_cons_of_ne hne).symm
  started other call hstarted := by
    rw [hlog] at hstarted
    exact hnextCall ▸ h.started other call (mem_of_ne_of_mem (by nofun) hstarted)
  running other call hcall := by
    obtain ⟨hstarted, hunique⟩ := h.running other call (hcalls other call hcall)
    rw [hlog]
    exact ⟨mem_cons_of_mem _ hstarted,
      fun another hanother => hunique another (mem_of_ne_of_mem (by nofun) hanother)⟩
  framing other deviceId capture now hcall := by
    obtain ⟨hbegun, hframing⟩ := h.framing other deviceId capture now (hcalls other _ hcall)
    rw [hlog]
    exact ⟨mem_cons_of_mem _ hbegun,
      fun id hafter => (hframing id (List.Sublist.of_cons_of_ne (by nofun) hafter)).cons _⟩

lemma Recorded.step {event : Event} (h : w.Recorded) (hadmits : w.admits event) :
    (w.step event).Recorded := by
  cases event with
  | beginCapture => exact h.beginCapture
  | watch deviceIds => exact h.watch deviceIds
  | drop observation =>
    exact
      { begun := h.begun
        watched := h.watched
        watches := fun id o halive => h.watches id o (alive_of_drop halive)
        order := h.order
        started := h.started
        running := h.running
        framing := h.framing }
  | start call =>
    simp only [World.step]
    split
    next => exact h.started_call hadmits
    next =>
      refine (h.started_call hadmits).returned rfl rfl rfl (fun id o halive => ⟨o, halive⟩) ?_
      intro number other hcall
      obtain rfl | hne := eq_or_ne number w.nextCall
      · exact absurd (h.started _ other (h.running _ other hcall).1) (lt_irrefl _)
      · exact (update_of_ne hne _ _).trans hcall
  | locked number =>
    simp only [World.step]
    split
    next => exact h
    next call hcall =>
      refine h.returned rfl rfl rfl ?_ ?_
      · intro id o halive
        obtain ⟨before, hbefore, -⟩ := alive_perform call halive
        exact ⟨before, hbefore⟩
      · intro other running hrun
        obtain rfl | hne := eq_or_ne other number
        · simp at hrun
        · simpa [perform, sweep, update_of_ne hne] using hrun

/-! ### Frames -/

lemma Recorded.acknowledged_returned (h : w.Recorded) {number id : Nat} {call : Call}
    {o : Observation} (hcall : w.calls number = some call) (halive : w.alive id = some o)
    (hgeneration : o.generation = id) : Acknowledged (.returned number :: w.log) id o ↔
      Acknowledged w.log id o ∨ call.acknowledges o = true := by
  obtain ⟨hstarted, hunique⟩ := h.running number call hcall
  constructor
  · rintro ⟨other, deviceId, capture, now, hnames, hlog⟩
    obtain hlog | ⟨rest, heq, hlog⟩ := sublist_cons_iff.mp hlog
    · exact .inl ⟨other, deviceId, capture, now, hnames, hlog⟩
    · cases heq
      have hmem : Entry.started number (.frame deviceId capture now) ∈ w.log :=
        hlog.subset mem_cons_self
      obtain rfl := hunique _ hmem
      have hafter : [.begun capture, .watched id].Sublist w.log :=
        (sublist_cons_self _ _).trans hlog
      have hlate := (h.order capture id (h.framing _ _ _ _ hcall).1
        (h.watches id o halive)).mpr hafter
      refine .inr ?_
      simp [Call.acknowledges, Observation.acknowledges, hgeneration, hlate, hnames]
  · rintro (hbefore | hnow)
    · exact hbefore.cons _
    · cases call with
      | requiresIdentityLookup | identityLookupFailed => cases hnow
      | frame deviceId capture now =>
        simp only [Call.acknowledges, Observation.acknowledges, hgeneration, Bool.and_eq_true,
          decide_eq_true_eq] at hnow
        obtain ⟨hbegun, hframing⟩ := h.framing number deviceId capture now hcall
        have hafter := (h.order capture id hbegun (h.watches id o halive)).mp hnow.1
        exact ⟨number, deviceId, capture, now, hnow.2, cons_sublist_cons.mpr (hframing id hafter)⟩

lemma Exact.locked (h : w.Exact) (hlisted : w.Listed) (hrecorded : w.Recorded) {number : Nat}
    {call : Call} (hcall : w.calls number = some call) : (w.step (.locked number)).Exact := by
  intro id o halive
  simp only [World.step, hcall] at halive ⊢
  obtain ⟨before, hbefore, rfl⟩ := alive_perform call halive
  have hreturned := hrecorded.acknowledged_returned hcall hbefore
    (hlisted.generation id before hbefore).1
  split
  next hmem =>
    have hsame : Acknowledged (.returned number :: w.log) id (call.visit before) ↔
        Acknowledged (.returned number :: w.log) id before := by
      simp only [Acknowledged, Observation.names, call.visit_deviceIds]
    rw [call.visit_frameObserved, Bool.or_eq_true, h id before hbefore, ← hreturned]
    exact hsame.symm
  next hmem =>
    -- An observation that has left the list has its frame.
    have hobs : before.frameObserved = true := by
      by_contra hwaiting
      exact hmem (hlisted.waiting id before hbefore (Bool.not_eq_true _ ▸ hwaiting))
    exact iff_of_true hobs (((h id before hbefore).mp hobs).cons _)

lemma Exact.step {event : Event} (h : w.Exact) (hlisted : w.Listed) (hrecorded : w.Recorded) :
    (w.step event).Exact := by
  cases event with
  | beginCapture => exact fun id o halive => (h id o halive).trans (acknowledged_cons_iff (by nofun)).symm
  | watch deviceIds =>
    intro id o halive
    refine Iff.trans ?_ (acknowledged_cons_iff (by nofun)).symm
    obtain rfl | hne := eq_or_ne id w.generation
    · simp only [World.step, World.watch, update_self, Option.some.injEq] at halive
      subst halive
      refine iff_of_false Bool.false_ne_true ?_
      rintro ⟨number, deviceId, capture, now, -, hlog⟩
      exact lt_irrefl _ (hrecorded.watched w.generation (hlog.subset (by simp)))
    · simp only [World.step, World.watch, update_of_ne hne] at halive
      exact h id o halive
  | drop observation =>
    exact fun id o halive => h id o (alive_of_drop halive)
  | start call =>
    simp only [World.step]
    split
    next => exact fun id o halive => (h id o halive).trans (acknowledged_cons_iff (by nofun)).symm
    next hactive =>
      intro id o halive
      have hobs := hlisted.observed_of_inactive (Bool.not_eq_true _ ▸ hactive) halive
      exact iff_of_true hobs ((((h id o halive).mp hobs).cons _).cons _)
  | locked number =>
    match hcall : w.calls number with
    | none => simpa only [World.step, hcall] using h
    | some call => exact h.locked hlisted hrecorded hcall

lemma listed_init : ({} : World).Listed := ⟨rfl, nofun, nofun⟩

lemma recorded_init : ({} : World).Recorded :=
  ⟨nofun, nofun, nofun, nofun, nofun, nofun, nofun⟩

lemma exact_init : ({} : World).Exact := nofun

lemma exact_of_reachable (h : system.Reachable w) : w.Exact := by
  let inv (w : World) : Prop := w.Listed ∧ w.Recorded ∧ w.Exact
  have hinv : inv w := by
    refine h.invariant ⟨listed_init, recorded_init, exact_init⟩ ?_
    intro state event hinv hadmits
    exact ⟨hinv.1.step, hinv.2.1.step hadmits, hinv.2.2.step hinv.1 hinv.2.1⟩
  exact hinv.2.2

end World

/-! ## Confirmations -/

inductive ConfirmationStatus where
  | waiting
  | retry
  | stalled
  | confirmed
  deriving DecidableEq

structure Confirmation where
  observation : Option Nat := none
  retryAfter : Time := 0
  attempts : Nat := 0

/-- One call of `poll`: when it was made, whether the flag of the observation was set then, and
what it returned. -/
structure Poll where
  now : Time
  frameObserved : Bool
  status : ConfirmationStatus

namespace Confirmation

def start (_ : Confirmation) (observation : Nat) (now : Time) : Confirmation :=
  { observation := some observation, attempts := 1, retryAfter := now + 5000 }

variable (c : Confirmation)

def pending : Bool := c.observation.isSome

def reset : Confirmation := { c with observation := none }

variable (now : Time)

def again : Confirmation :=
  { c with retryAfter := now + 5000, attempts := c.attempts + 1 }

@[simp] lemma again_attempts : (c.again now).attempts = c.attempts + 1 := rfl

def poll (frameObserved : Bool) : Confirmation × ConfirmationStatus :=
  if frameObserved then (c.reset, .confirmed)
  else if now < c.retryAfter ∨ 3 < c.attempts then (c, .waiting)
  else (c.again now, if 3 < (c.again now).attempts then .stalled else .retry)

/-- The polls of a caller that asks while a confirmation is pending; `inputs` are the times and
what the flag reads. -/
def polls (c : Confirmation) : List (Time × Bool) → List Poll
  | [] => []
  | (now, frameObserved) :: inputs =>
    if c.pending then
      let (next, status) := c.poll now frameObserved
      ⟨now, frameObserved, status⟩ :: next.polls inputs
    else []

end Confirmation

def Poll.acted (p : Poll) : Bool := p.status = .retry ∨ p.status = .stalled

namespace Confirmation

variable {c : Confirmation} {previous : Time}

lemma poll_cases (c : Confirmation) (now : Time) (frameObserved : Bool) :
    (frameObserved = true ∧ c.poll now frameObserved = (c.reset, .confirmed)) ∨
    c.poll now frameObserved = (c, .waiting) ∨
    (c.retryAfter ≤ now ∧ c.attempts < 3 ∧ c.poll now frameObserved = (c.again now, .retry)) ∨
    (c.retryAfter ≤ now ∧ c.attempts = 3 ∧ c.poll now frameObserved = (c.again now, .stalled)) := by
  unfold poll
  split
  next hobs => exact .inl ⟨hobs, rfl⟩
  next =>
    split
    next => exact .inr (.inl rfl)
    next hdue =>
      rw [not_or, Int.not_lt, not_lt] at hdue
      refine .inr (.inr ?_)
      rw [again_attempts]
      obtain hmore | hlast := Nat.lt_or_eq_of_le hdue.2
      · exact .inl ⟨hdue.1, hmore, by rw [if_neg (not_lt.mpr hmore)]⟩
      · exact .inr ⟨hdue.1, hlast, by rw [if_pos (Nat.lt_succ_of_le hlast.ge)]⟩

variable (inputs : List (Time × Bool))

lemma polls_reset : c.reset.polls inputs = [] := by
  cases inputs <;> rfl

lemma polls_cons (now : Time) (frameObserved : Bool) (inputs : List (Time × Bool)) :
    c.polls ((now, frameObserved) :: inputs) = if c.pending then
        ⟨now, frameObserved, (c.poll now frameObserved).2⟩ ::
          (c.poll now frameObserved).1.polls inputs else [] := rfl

lemma polls_confirmed : ∀ p ∈ c.polls inputs, p.status = .confirmed → p.frameObserved = true := by
  induction inputs generalizing c with
  | nil => exact fun p hp => absurd hp not_mem_nil
  | cons input inputs ih =>
    obtain ⟨now, frameObserved⟩ := input
    rw [polls_cons]
    split
    next =>
      rintro p hp hconf
      obtain rfl | hp := mem_cons.mp hp
      · obtain ⟨hobs, -⟩ | hpoll | ⟨-, -, hpoll⟩ | ⟨-, -, hpoll⟩ :=
          c.poll_cases now frameObserved
        · exact hobs
        all_goals
          rw [hpoll] at hconf
          cases hconf
      · exact ih p hp hconf
    next => exact fun p hp => absurd hp not_mem_nil

lemma polls_bounded : (c.polls inputs).countP (·.status = .retry) ≤ 3 - c.attempts ∧
      (c.polls inputs).countP (·.status = .stalled) ≤ if c.attempts ≤ 3 then 1 else 0 := by
  induction inputs generalizing c with
  | nil => exact ⟨Nat.zero_le _, Nat.zero_le _⟩
  | cons input inputs ih =>
    obtain ⟨now, frameObserved⟩ := input
    rw [polls_cons]
    split
    next =>
      obtain ⟨-, hpoll⟩ | hpoll | ⟨-, hmore, hpoll⟩ | ⟨-, hlast, hpoll⟩ :=
        c.poll_cases now frameObserved
      · simp [hpoll, polls_reset]
      · simpa [hpoll] using ih
      · obtain ⟨hretries, hstalls⟩ := ih (c := c.again now)
        rw [again_attempts] at hretries hstalls
        rw [if_pos (Nat.succ_le_of_lt hmore)] at hstalls
        rw [if_pos hmore.le]
        simp only [hpoll, countP_cons]
        exact ⟨by simp; omega, by simpa using hstalls⟩
      · obtain ⟨hretries, hstalls⟩ := ih (c := c.again now)
        rw [again_attempts] at hretries hstalls
        rw [hlast] at hretries hstalls ⊢
        simp only [hpoll, countP_cons]
        exact ⟨by simpa using hretries, by simpa using hstalls⟩
    next => exact ⟨Nat.zero_le _, Nat.zero_le _⟩

lemma polls_spaced (hafter : c.retryAfter = previous + 5000) :
    (previous :: ((c.polls inputs).filter Poll.acted).map Poll.now).IsChain
      fun earlier later => earlier + 5000 ≤ later := by
  induction inputs generalizing c previous with
  | nil => exact .singleton previous
  | cons input inputs ih =>
    obtain ⟨now, frameObserved⟩ := input
    rw [polls_cons]
    split
    next =>
      obtain ⟨-, hpoll⟩ | hpoll | ⟨hdue, -, hpoll⟩ | ⟨hdue, -, hpoll⟩ :=
        c.poll_cases now frameObserved
      · simp [hpoll, polls_reset, Poll.acted]
      · simpa [hpoll, Poll.acted] using ih hafter
      all_goals
        rw [hafter] at hdue
        simp only [hpoll, Poll.acted, filter_cons]
        exact .cons_cons hdue (ih rfl)
    next => exact .singleton previous

end Confirmation

/-- In every run a living observation shows a frame exactly when a frame call for one of its
targets has returned that belongs to a capture begun after the watch; and a confirmation reports
only a frame the observation shows, asks for two retries at most, stalls once at most, and
waits five seconds before each of these. -/
theorem confirmation_law : (∀ w, World.system.Reachable w → ∀ id o, w.alive id = some o →
      (o.frameObserved = true ↔ Acknowledged w.log id o)) ∧
    ∀ (c : Confirmation) observation begin inputs,
      let results := (c.start observation begin).polls inputs
      (∀ p ∈ results, p.status = .confirmed → p.frameObserved = true) ∧
        results.countP (·.status = .retry) ≤ 2 ∧ results.countP (·.status = .stalled) ≤ 1 ∧
        (begin :: (results.filter Poll.acted).map Poll.now).IsChain
          fun earlier later => earlier + 5000 ≤ later :=
  ⟨fun _ h => World.exact_of_reachable h, fun _ _ _ inputs =>
    ⟨Confirmation.polls_confirmed inputs, (Confirmation.polls_bounded inputs).1,
      (Confirmation.polls_bounded inputs).2, Confirmation.polls_spaced inputs rfl⟩⟩

/-- A watched output whose name differs in case only, and a capture begun after the watch. -/
theorem confirmation_law_frame :
    Acknowledged (World.system.run {} [.watch ["DISPLAY1"], .beginCapture,
      .start (.frame "display1" 2 0), .locked 0]).log 1 ⟨1, ["DISPLAY1"], 2, 0, 0, true⟩ := by
  have hreach : World.system.Reachable (World.system.run {} [.watch ["DISPLAY1"], .beginCapture,
      .start (.frame "display1" 2 0), .locked 0]) :=
    Library.System.Segment.of_follows .refl ⟨trivial, trivial, trivial, trivial,
      mem_cons_self, trivial, nofun, trivial, trivial⟩
  exact (confirmation_law.1 _ hreach 1 _ (by decide)).mp rfl

end Vibeshine.CaptureRecovery
