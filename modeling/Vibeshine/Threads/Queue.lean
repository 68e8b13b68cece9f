import Vibeshine.Library.System
import Mathlib

/-! # The bounded queue of classes

`safe::queue_t` with `raise_latest_classed`: an arrival replaces what is pending under
its key, priority values are never evicted, reserved events have a bound of their own,
and ordinary events evict their oldest sibling. Every operation holds the lock of the
queue. A `pop` that waits or cannot take the lock at once changes nothing; a step is a
call that gets through.
-/

namespace Vibeshine.Threads

open Library List

inductive PollState where
  | stopped | empty | ready
  deriving DecidableEq

def uint32Max : Nat := 2 ^ 32 - 1

/-- The functions and limits that the callers of a queue fix. -/
structure Classes (α κ : Type) where
  key : α → κ
  priority : α → Bool
  reserved : α → Bool
  maxElements : Nat
  eventLimit : Nat
  reservedLimit : Nat
  maxElements_pos : 0 < maxElements
  maxElements_le : maxElements ≤ uint32Max
  eventLimit_pos : 0 < eventLimit
  reservedLimit_pos : 0 < reservedLimit

def Classes.ordinary {α κ : Type} (c : Classes α κ) (value : α) : Bool :=
  !c.priority value && !c.reserved value

def Classes.reservedEvent {α κ : Type} (c : Classes α κ) (value : α) : Bool :=
  !c.priority value && c.reserved value

structure Queue (α : Type) where
  pollState : PollState := .empty
  pending : List α := []

namespace Queue

variable {α κ : Type} [DecidableEq κ]

def running (q : Queue α) : Bool := q.pollState ≠ .stopped

def peek (q : Queue α) : Bool := q.pollState = .ready

def setReady (q : Queue α) (ready : Bool) : Queue α :=
  { q with pollState := if ready then .ready else .empty }

def evict (p : α → Bool) (pending : List α) : Option (List α) :=
  if pending.any p then some (pending.eraseP p) else none

/-- `raise_latest_classed` of a running queue, after the values of the same key are gone. -/
def place (c : Classes α κ) (q : Queue α) (value : α) (pending : List α) : Bool × Queue α :=
  let important := c.priority value
  let isReserved := !important && c.reserved value
  let classLimit := if isReserved then c.reservedLimit else c.eventLimit
  let sameClass := fun other => !c.priority other && c.reserved other == isReserved
  let eventsFull := !important && classLimit ≠ uint32Max && classLimit ≤ pending.countP sameClass
  let accept := fun pending => (true, { q with pending := pending ++ [value] }.setReady true)
  let refuse := (false, { q with pending := pending })
  if c.maxElements ≤ pending.length ∨ eventsFull then
    if !important && classLimit = uint32Max then refuse
    else if eventsFull then
      match evict sameClass pending with
      | some rest => accept rest
      | none => refuse
    else
      match evict c.ordinary pending with
      | some rest => accept rest
      | none =>
        if important || isReserved then
          match evict c.reservedEvent pending with
          | some rest => accept rest
          | none => refuse
        else refuse
  else accept pending

/-- `raise_latest_classed`, with whether the value was accepted. -/
def raiseLatestClassed (c : Classes α κ) (q : Queue α) (value : α) : Bool × Queue α :=
  if !q.running then (false, q)
  else place c q value (q.pending.filter fun other => c.key other ≠ c.key value)

def discardIf (q : Queue α) (p : α → Bool) : Queue α :=
  let q := { q with pending := q.pending.filter fun value => !p value }
  if q.running then q.setReady (!q.pending.isEmpty) else q

/-- `pop`, in all its forms, when it gets through. -/
def pop (q : Queue α) : Option α × Queue α :=
  if !q.running then (none, q)
  else
    match q.pending with
    | [] => (none, q)
    | value :: rest => (some value, { q with pending := rest }.setReady (!rest.isEmpty))

def drain (q : Queue α) : List α × Queue α :=
  if !q.running then ([], q) else (q.pending, { q with pending := [] }.setReady false)

def stop (q : Queue α) : Queue α := { q with pollState := .stopped }

def reset (q : Queue α) : Queue α := { q with pending := [] }.setReady false

end Queue

/-! ## What an arrival does -/

section

variable {α κ : Type} (c : Classes α κ)

namespace Classes

def evictable (value other : α) : Bool :=
  !c.priority other && (c.priority value || c.reserved value || !c.reserved other)

end Classes

namespace Queue

/-- The bounds that the operations keep. -/
structure Bounded (pending : List α) : Prop where
  length : pending.length ≤ c.maxElements
  ordinary : pending.countP c.ordinary ≤ c.eventLimit
  reserved : pending.countP c.reservedEvent ≤ c.reservedLimit

variable {c}

lemma Bounded.sublist {pending rest : List α} (h : Bounded c pending)
    (hsub : rest.Sublist pending) : Bounded c rest where
  length := le_trans hsub.length_le h.length
  ordinary := le_trans hsub.countP_le h.ordinary
  reserved := le_trans hsub.countP_le h.reserved

lemma evict_some {p : α → Bool} {pending rest : List α} (h : evict p pending = some rest) :
    ∃ front victim back, p victim = true ∧ pending = front ++ victim :: back ∧
      rest = front ++ back := by
  unfold evict at h
  split at h
  · next hany =>
    cases h
    obtain ⟨first, hmem, hp⟩ := any_eq_true.mp hany
    obtain ⟨victim, front, back, -, hvictim, hsplit, hrest⟩ := exists_of_eraseP hmem hp
    exact ⟨front, victim, back, hvictim, hsplit, hrest⟩
  · cases h

lemma evict_none {p : α → Bool} {pending : List α} (h : evict p pending = none) :
    ∀ value ∈ pending, p value = false := by
  unfold evict at h
  split at h
  · cases h
  · next hnone =>
    rw [Bool.not_eq_true, any_eq_false] at hnone
    exact fun value hmem => by simpa using hnone value hmem

/-- What is left for an accepted value: it can be appended within the bounds, and only
values that it may evict are gone. -/
structure Room (c : Classes α κ) (base rest : List α) (value : α) : Prop where
  sublist : rest.Sublist base
  kept : ∀ other ∈ base, c.evictable value other = false → other ∈ rest
  bounded : Bounded c (rest ++ [value])

lemma room_evict {base rest : List α} {value : α} {p : α → Bool} (h : Bounded c base)
    (hevict : evict p base = some rest) (hp : ∀ other, p other = true →
      c.evictable value other = true) (hordinary : c.ordinary value = true →
      base.countP c.ordinary < c.eventLimit ∨ ∀ other, p other = true → c.ordinary other = true)
    (hres : c.reservedEvent value = true → base.countP c.reservedEvent < c.reservedLimit ∨
        ∀ other, p other = true → c.reservedEvent other = true) : Room c base rest value := by
  obtain ⟨front, victim, back, hvictim, rfl, rfl⟩ := evict_some hevict
  have hlength := h.length
  have hcount := h.ordinary
  have hevents := h.reserved
  simp only [length_append, length_cons, countP_append, countP_cons]
    at hlength hcount hevents hordinary hres
  refine ⟨(sublist_cons_self _ _).append_left _, fun other hmem hkept => ?_, ?_, ?_, ?_⟩
  · rcases mem_append.mp hmem with hfront | hrest
    · exact mem_append_left _ hfront
    · rcases mem_cons.mp hrest with rfl | hback
      · rw [hp other hvictim] at hkept
        cases hkept
      · exact mem_append_right _ hback
  · simp only [length_append, length_singleton]
    omega
  · simp only [countP_append, countP_singleton]
    cases hclass : c.ordinary value with
    | false => simp only [Bool.false_eq_true, if_false]; omega
    | true =>
      simp only [if_true]
      rcases hordinary hclass with hless | hsame
      · omega
      · rw [if_pos (hsame victim hvictim)] at hcount
        omega
  · simp only [countP_append, countP_singleton]
    cases hclass : c.reservedEvent value with
    | false => simp only [Bool.false_eq_true, if_false]; omega
    | true =>
      simp only [if_true]
      rcases hres hclass with hless | hsame
      · omega
      · rw [if_pos (hsame victim hvictim)] at hevents
        omega

lemma room_append {base : List α} {value : α} (h : Bounded c base)
    (hlength : base.length < c.maxElements)
    (hordinary : c.ordinary value = true → base.countP c.ordinary < c.eventLimit)
    (hres : c.reservedEvent value = true →
      base.countP c.reservedEvent < c.reservedLimit) : Room c base base value := by
  refine ⟨List.Sublist.refl _, fun other hmem _ => hmem, ?_, ?_, ?_⟩
  · rw [length_append, length_singleton]
    exact hlength
  · rw [countP_append, countP_singleton]
    have := h.ordinary
    split
    · next hclass => exact hordinary hclass
    · omega
  · rw [countP_append, countP_singleton]
    have := h.reserved
    split
    · next hclass => exact hres hclass
    · omega

lemma class_room {own : α → Bool} {limit : Nat} {base : List α}
    (hlength : base.length < c.maxElements)
    (hcount : ¬ (limit ≠ uint32Max ∧ limit ≤ base.countP own)) : base.countP own < limit := by
  by_cases hmax : limit = uint32Max
  · have hcountLe : base.countP own ≤ base.length := countP_le_length
    have := c.maxElements_le
    omega
  · exact Nat.lt_of_not_le fun hle => hcount ⟨hmax, hle⟩

lemma evict_at_limit {own : α → Bool} {limit : Nat} {base : List α} (hpos : 0 < limit)
    (hcount : limit ≤ base.countP own) : ∃ rest, evict own base = some rest := by
  cases hevict : evict own base with
  | some rest => exact ⟨rest, rfl⟩
  | none =>
    have hzero : base.countP own = 0 :=
      countP_eq_zero.mpr fun other hmem => by simp [evict_none hevict other hmem]
    omega

/-- The arrival of a value at what is pending under other keys: it is accepted into the
room there is, or the queue is full and refuses it. -/
def Settles (c : Classes α κ) (q : Queue α) (value : α) (base : List α)
    (result : Bool × Queue α) : Prop :=
  (∃ rest, result = (true, { pollState := .ready, pending := rest ++ [value] }) ∧
    Room c base rest value) ∨
  (result = (false, { q with pending := base }) ∧ c.maxElements ≤ base.length ∧
    (c.priority value = true → ∀ other ∈ base, c.priority other = true))

lemma raiseLatestClassed_eq [DecidableEq κ] {q : Queue α} (hrunning : q.running = true)
    (value : α) : q.raiseLatestClassed c value =
      place c q value (q.pending.filter fun other => c.key other ≠ c.key value) := by
  unfold raiseLatestClassed
  rw [if_neg (by simp [hrunning])]

section Place

variable {q : Queue α} {value : α} {base : List α}

section

variable (h : Bounded c base)

include h

lemma place_priority (hpriority : c.priority value = true) :
    Settles c q value base (place c q value base) := by
  have hnotOrdinary : c.ordinary value = true → False := by
    simp [Classes.ordinary, hpriority]
  have hnotReserved : c.reservedEvent value = true → False := by
    simp [Classes.reservedEvent, hpriority]
  have hevictable : ∀ other, (!c.priority other) = true → c.evictable value other = true := by
    intro other hother
    rw [Classes.evictable, hother, hpriority]
    rfl
  have hroom : ∀ {own : α → Bool} {rest : List α}, evict own base = some rest →
      (∀ other, own other = true → (!c.priority other) = true) → Room c base rest value :=
    fun hevict hown => room_evict h hevict (fun other hother => hevictable other (hown other hother))
      (fun hclass => (hnotOrdinary hclass).elim) fun hclass => (hnotReserved hclass).elim
  unfold place
  simp only [hpriority, Bool.not_true, Bool.false_and, Bool.false_eq_true, or_false, if_false,
    Bool.true_or, if_true]
  split
  · next hfull =>
    cases hevict : evict c.ordinary base with
    | some rest =>
      exact .inl ⟨rest, rfl, hroom hevict fun other hother => (Bool.and_eq_true_iff.mp hother).1⟩
    | none =>
      cases hnext : evict c.reservedEvent base with
      | some rest =>
        exact .inl ⟨rest, rfl, hroom hnext fun other hother => (Bool.and_eq_true_iff.mp hother).1⟩
      | none =>
        refine .inr ⟨rfl, hfull, fun _ other hmem => ?_⟩
        have hfirst := evict_none hevict other hmem
        have hsecond := evict_none hnext other hmem
        cases hother : c.priority other with
        | true => rfl
        | false =>
          rw [Classes.ordinary, hother] at hfirst
          rw [Classes.reservedEvent, hother] at hsecond
          cases hclass : c.reserved other <;> simp [hclass] at hfirst hsecond
  · next hfull =>
    exact .inl ⟨base, rfl, room_append h (Nat.lt_of_not_le hfull)
      (fun hclass => (hnotOrdinary hclass).elim) fun hclass => (hnotReserved hclass).elim⟩

lemma place_reserved (hpriority : c.priority value = false)
    (hclass : c.reserved value = true) : Settles c q value base (place c q value base) := by
  have hnotOrdinary : c.ordinary value = true → False := by
    simp [Classes.ordinary, hclass]
  have hsame : (fun other => !c.priority other && c.reserved other == true) = c.reservedEvent := by
    funext other
    simp [Classes.reservedEvent]
  have hevictable : ∀ other, (!c.priority other) = true → c.evictable value other = true := by
    intro other hother
    rw [Classes.evictable, hother, hclass]
    simp
  have hrefused : c.priority value = true → ∀ other ∈ base, c.priority other = true := by
    simp [hpriority]
  unfold place
  simp only [hpriority, hclass, Bool.not_false, Bool.true_and, if_true, hsame, Bool.false_or]
  by_cases hcount : c.reservedLimit ≠ uint32Max ∧ c.reservedLimit ≤ base.countP c.reservedEvent
  · rw [if_pos (.inr (by simpa using hcount)), if_neg (by simpa using hcount.1),
      if_pos (by simpa using hcount)]
    obtain ⟨rest, hevict⟩ := evict_at_limit c.reservedLimit_pos hcount.2
    rw [hevict]
    refine .inl ⟨rest, rfl, room_evict h hevict (fun other hother => ?_)
      (fun hvalue => (hnotOrdinary hvalue).elim) fun _ => .inr fun other hother => hother⟩
    exact hevictable other (Bool.and_eq_true_iff.mp hother).1
  · have hnot : ¬ ((decide (c.reservedLimit ≠ uint32Max) &&
        decide (c.reservedLimit ≤ base.countP c.reservedEvent)) = true) := by
      simpa using hcount
    by_cases hfull : c.maxElements ≤ base.length
    · rw [if_pos (.inl hfull)]
      by_cases hmax : c.reservedLimit = uint32Max
      · rw [if_pos (by simpa using hmax)]
        exact .inr ⟨rfl, hfull, hrefused⟩
      · have hless : base.countP c.reservedEvent < c.reservedLimit :=
          Nat.lt_of_not_le fun hle => hcount ⟨hmax, hle⟩
        have hroom : ∀ {own : α → Bool} {rest : List α}, evict own base = some rest →
            (∀ other, own other = true → (!c.priority other) = true) → Room c base rest value :=
          fun hevict hown => room_evict h hevict
            (fun other hother => hevictable other (hown other hother))
            (fun hvalue => (hnotOrdinary hvalue).elim) fun _ => .inl hless
        rw [if_neg (by simpa using hmax), if_neg hnot]
        cases hevict : evict c.ordinary base with
        | some rest =>
          exact .inl ⟨rest, rfl,
            hroom hevict fun other hother => (Bool.and_eq_true_iff.mp hother).1⟩
        | none =>
          cases hnext : evict c.reservedEvent base with
          | some rest =>
            exact .inl ⟨rest, rfl,
              hroom hnext fun other hother => (Bool.and_eq_true_iff.mp hother).1⟩
          | none => exact .inr ⟨rfl, hfull, hrefused⟩
    · rw [if_neg (by rintro (hlimit | hlimit) <;> [exact hfull hlimit; exact hnot hlimit])]
      have hlength := Nat.lt_of_not_le hfull
      exact .inl ⟨base, rfl, room_append h hlength (fun hvalue => (hnotOrdinary hvalue).elim)
        fun _ => class_room hlength hcount⟩

lemma place_ordinary (hpriority : c.priority value = false)
    (hclass : c.reserved value = false) : Settles c q value base (place c q value base) := by
  have hnotReserved : c.reservedEvent value = true → False := by
    simp [Classes.reservedEvent, hclass]
  have hsame : (fun other => !c.priority other && c.reserved other == false) = c.ordinary := by
    funext other
    simp [Classes.ordinary]
  have hevictable : ∀ other, c.ordinary other = true → c.evictable value other = true := by
    intro other hother
    obtain ⟨hfirst, hsecond⟩ := Bool.and_eq_true_iff.mp hother
    rw [Classes.evictable, hfirst, hsecond]
    simp
  have hrefused : c.priority value = true → ∀ other ∈ base, c.priority other = true := by
    simp [hpriority]
  unfold place
  simp only [hpriority, hclass, Bool.not_false, Bool.true_and, Bool.false_eq_true, if_false,
    Bool.and_false, hsame, Bool.or_false]
  by_cases hcount : c.eventLimit ≠ uint32Max ∧ c.eventLimit ≤ base.countP c.ordinary
  · rw [if_pos (.inr (by simpa using hcount)), if_neg (by simpa using hcount.1),
      if_pos (by simpa using hcount)]
    obtain ⟨rest, hevict⟩ := evict_at_limit c.eventLimit_pos hcount.2
    rw [hevict]
    exact .inl ⟨rest, rfl, room_evict h hevict hevictable
      (fun _ => .inr fun other hother => hother) fun hvalue => (hnotReserved hvalue).elim⟩
  · have hnot : ¬ ((decide (c.eventLimit ≠ uint32Max) &&
        decide (c.eventLimit ≤ base.countP c.ordinary)) = true) := by
      simpa using hcount
    by_cases hfull : c.maxElements ≤ base.length
    · rw [if_pos (.inl hfull)]
      by_cases hmax : c.eventLimit = uint32Max
      · rw [if_pos (by simpa using hmax)]
        exact .inr ⟨rfl, hfull, hrefused⟩
      · have hless : base.countP c.ordinary < c.eventLimit :=
          Nat.lt_of_not_le fun hle => hcount ⟨hmax, hle⟩
        rw [if_neg (by simpa using hmax), if_neg hnot]
        cases hevict : evict c.ordinary base with
        | some rest =>
          exact .inl ⟨rest, rfl, room_evict h hevict hevictable
            (fun _ => .inl hless) fun hvalue => (hnotReserved hvalue).elim⟩
        | none => exact .inr ⟨rfl, hfull, hrefused⟩
    · rw [if_neg (by rintro (hlimit | hlimit) <;> [exact hfull hlimit; exact hnot hlimit])]
      have hlength := Nat.lt_of_not_le hfull
      exact .inl ⟨base, rfl, room_append h hlength (fun _ => class_room hlength hcount)
        fun hvalue => (hnotReserved hvalue).elim⟩

end

end Place

lemma raise_cases [DecidableEq κ] {q : Queue α} {value : α} (hrunning : q.running = true)
    (h : Bounded c q.pending) : (∃ rest, q.raiseLatestClassed c value =
        (true, { pollState := .ready, pending := rest ++ [value] }) ∧
      Room c (q.pending.filter fun other => c.key other ≠ c.key value) rest value) ∨
    (q.raiseLatestClassed c value =
        (false, { q with pending := q.pending.filter fun other => c.key other ≠ c.key value }) ∧
      c.maxElements ≤ (q.pending.filter fun other => c.key other ≠ c.key value).length ∧
      (c.priority value = true →
        ∀ other ∈ q.pending.filter (fun other => c.key other ≠ c.key value),
          c.priority other = true)) := by
  have hbase : Bounded c (q.pending.filter fun other => c.key other ≠ c.key value) :=
    h.sublist filter_sublist
  rw [raiseLatestClassed_eq hrunning]
  cases hpriority : c.priority value with
  | true => simpa only [Settles, hpriority] using place_priority (q := q) hbase hpriority
  | false =>
    cases hclass : c.reserved value with
    | true => simpa only [Settles, hpriority] using place_reserved (q := q) hbase hpriority hclass
    | false => simpa only [Settles, hpriority] using place_ordinary (q := q) hbase hpriority hclass

end Queue

end

/-! ## Runs -/

section

variable {α κ : Type} [DecidableEq κ]

def Classes.counted (c : Classes α κ) : Classes (α × Nat) κ :=
  { c with
    key := fun value => c.key value.1
    priority := fun value => c.priority value.1
    reserved := fun value => c.reserved value.1 }

inductive Command (α : Type) where
  | raise (value : α)
  | discardIf (p : α → Bool)
  | pop
  | drain
  | stop
  | reset

/-- A queue with its history: the count of arrivals, the accepted values, and the values
that were popped or drained, oldest first. -/
structure Traffic (α : Type) where
  queue : Queue (α × Nat) := {}
  arrivals : Nat := 0
  accepted : List (α × Nat) := []
  popped : List (α × Nat) := []

namespace Traffic

def step (c : Classes α κ) (s : Traffic α) : Command α → Traffic α
  | .raise value =>
    let (accepted, queue) := s.queue.raiseLatestClassed c.counted (value, s.arrivals)
    { s with
      queue := queue
      arrivals := s.arrivals + 1
      accepted := if accepted then s.accepted ++ [(value, s.arrivals)] else s.accepted }
  | .discardIf p => { s with queue := s.queue.discardIf fun value => p value.1 }
  | .pop =>
    let (value, queue) := s.queue.pop
    { s with queue := queue, popped := s.popped ++ value.toList }
  | .drain =>
    let (values, queue) := s.queue.drain
    { s with queue := queue, popped := s.popped ++ values }
  | .stop => { s with queue := s.queue.stop }
  | .reset => { s with queue := s.queue.reset }

def system (c : Classes α κ) : System (Traffic α) (Command α) :=
  { init := {}, admits := fun _ _ => True, step := step c }

/-- The invariant of the queue. -/
structure Kept (c : Classes α κ) (s : Traffic α) : Prop where
  bounded : Queue.Bounded c.counted s.queue.pending
  keys : (s.queue.pending.map c.counted.key).Nodup
  ready : s.queue.running = true → (s.queue.pollState = .ready ↔ s.queue.pending ≠ [])
  order : (s.popped ++ s.queue.pending).Pairwise fun first second => first.2 < second.2
  counted : ∀ value ∈ s.popped ++ s.queue.pending, value.2 < s.arrivals
  older : ∀ value ∈ s.accepted, value.2 < s.arrivals
  latest : ∀ value ∈ s.queue.pending, value ∈ s.accepted ∧
    ∀ other ∈ s.accepted, c.key other.1 = c.key value.1 → other.2 ≤ value.2

omit [DecidableEq κ] in
lemma Kept.remove {c : Classes α κ} {s : Traffic α} (h : s.Kept c) {queue : Queue (α × Nat)}
    {taken : List (α × Nat)} (hsub : (taken ++ queue.pending).Sublist s.queue.pending)
    (hready : queue.running = true → (queue.pollState = .ready ↔ queue.pending ≠ [])) :
    Kept c { s with queue := queue, popped := s.popped ++ taken } := by
  have hrest : queue.pending.Sublist s.queue.pending :=
    (sublist_append_right _ _).trans hsub
  have hall : (s.popped ++ taken ++ queue.pending).Sublist (s.popped ++ s.queue.pending) := by
    rw [append_assoc]
    exact hsub.append_left _
  exact ⟨h.bounded.sublist hrest, h.keys.sublist (hrest.map _), hready, h.order.sublist hall,
    fun value hmem => h.counted value (hall.subset hmem), h.older,
    fun value hmem => h.latest value (hrest.subset hmem)⟩

lemma Kept.accept {c : Classes α κ} {s : Traffic α} (h : s.Kept c) {value : α}
    {rest : List (α × Nat)} (hroom : Queue.Room c.counted (s.queue.pending.filter fun other =>
      c.counted.key other ≠ c.counted.key (value, s.arrivals)) rest (value, s.arrivals)) :
    Kept c { s with
      queue := { pollState := .ready, pending := rest ++ [(value, s.arrivals)] }
      arrivals := s.arrivals + 1
      accepted := s.accepted ++ [(value, s.arrivals)] } := by
  have hrest : rest.Sublist s.queue.pending := hroom.sublist.trans filter_sublist
  have hkey : ∀ other ∈ rest, c.key other.1 ≠ c.key value := by
    intro other hmem
    exact of_decide_eq_true (mem_filter.mp (hroom.sublist.subset hmem)).2
  have hall : (s.popped ++ rest).Sublist (s.popped ++ s.queue.pending) := hrest.append_left _
  refine ⟨hroom.bounded, ?_, fun _ => ⟨fun _ => by simp, fun _ => rfl⟩, ?_, ?_, ?_, ?_⟩
  · rw [map_append]
    refine nodup_append.mpr ⟨h.keys.sublist (hrest.map _), nodup_singleton _, ?_⟩
    intro key hmem other hother
    obtain ⟨pending, hpend, rfl⟩ := mem_map.mp hmem
    rw [mem_singleton.mp hother]
    exact hkey pending hpend
  · rw [← append_assoc]
    refine pairwise_append.mpr ⟨h.order.sublist hall, pairwise_singleton _ _, ?_⟩
    intro first hfirst second hsecond
    rw [mem_singleton.mp hsecond]
    exact h.counted first (hall.subset hfirst)
  · rw [← append_assoc]
    intro other hmem
    rcases mem_append.mp hmem with hold | hnew
    · exact Nat.lt_succ_of_lt (h.counted other (hall.subset hold))
    · rw [mem_singleton.mp hnew]
      exact Nat.lt_succ_self _
  · intro other hmem
    rcases mem_append.mp hmem with hold | hnew
    · exact Nat.lt_succ_of_lt (h.older other hold)
    · rw [mem_singleton.mp hnew]
      exact Nat.lt_succ_self _
  · intro pending hmem
    rcases mem_append.mp hmem with hold | hnew
    · obtain ⟨hacc, hlatest⟩ := h.latest pending (hrest.subset hold)
      refine ⟨mem_append_left _ hacc, fun other hother hsame => ?_⟩
      rcases mem_append.mp hother with hother | hother
      · exact hlatest other hother hsame
      · rw [mem_singleton.mp hother] at hsame
        exact absurd hsame.symm (hkey pending hold)
    · rw [mem_singleton.mp hnew]
      refine ⟨mem_append_right _ mem_cons_self, fun other hother _ => ?_⟩
      rcases mem_append.mp hother with hother | hother
      · exact le_of_lt (h.older other hother)
      · exact le_of_eq (by rw [mem_singleton.mp hother])

omit [DecidableEq κ] in
lemma Kept.refuse {c : Classes α κ} {s : Traffic α} (h : s.Kept c) {queue : Queue (α × Nat)}
    (hstate : queue.pollState = s.queue.pollState) (hpend : queue.pending = s.queue.pending) :
    Kept c { s with queue := queue, arrivals := s.arrivals + 1 } := by
  refine ⟨hpend ▸ h.bounded, hpend ▸ h.keys, ?_, hpend ▸ h.order, ?_, ?_,
    hpend ▸ h.latest⟩
  · intro hrunning
    rw [Queue.running, hstate] at hrunning
    rw [hstate, hpend]
    exact h.ready hrunning
  · rw [hpend]
    exact fun value hmem => Nat.lt_succ_of_lt (h.counted value hmem)
  · exact fun value hmem => Nat.lt_succ_of_lt (h.older value hmem)

lemma filter_eq_of_full {c : Classes α κ} {q : Queue (α × Nat)} {value : α × Nat}
    (h : Queue.Bounded c.counted q.pending) (hfull : c.counted.maxElements ≤
      (q.pending.filter fun other => c.counted.key other ≠ c.counted.key value).length) :
    (q.pending.filter fun other => c.counted.key other ≠ c.counted.key value) = q.pending :=
  filter_sublist.eq_of_length_le (le_trans h.length hfull)

lemma raise_counted {c : Classes α κ} {s : Traffic α} (h : s.Kept c) (value : α)
    (hrunning : s.queue.running = true) :
    (∃ rest, s.queue.raiseLatestClassed c.counted (value, s.arrivals) =
        (true, { pollState := .ready, pending := rest ++ [(value, s.arrivals)] }) ∧
      Queue.Room c.counted (s.queue.pending.filter fun other =>
        c.counted.key other ≠ c.counted.key (value, s.arrivals)) rest (value, s.arrivals)) ∨
    (s.queue.raiseLatestClassed c.counted (value, s.arrivals) =
        (false, { s.queue with
          pending := (s.queue.pending.filter fun other =>
            c.counted.key other ≠ c.counted.key (value, s.arrivals)) }) ∧
      c.counted.maxElements ≤ (s.queue.pending.filter fun other =>
        c.counted.key other ≠ c.counted.key (value, s.arrivals)).length ∧
      (c.priority value = true → ∀ other ∈ s.queue.pending.filter (fun other =>
        c.counted.key other ≠ c.counted.key (value, s.arrivals)), c.priority other.1 = true)) :=
  Queue.raise_cases hrunning h.bounded

lemma kept_step (c : Classes α κ) (s : Traffic α) (command : Command α) (h : s.Kept c) :
    (s.step c command).Kept c := by
  cases command with
  | raise value =>
    cases hrunning : s.queue.running with
    | false =>
      have hraise : s.queue.raiseLatestClassed c.counted (value, s.arrivals) =
          (false, s.queue) := by
        rw [Queue.raiseLatestClassed, if_pos (by simp [hrunning])]
      simp only [step, hraise]
      exact h.refuse rfl rfl
    | true =>
      rcases raise_counted h value hrunning with ⟨rest, hraise, hroom⟩ | ⟨hraise, hfull, -⟩
      · simp only [step, hraise]
        exact h.accept hroom
      · simp only [step, hraise]
        exact h.refuse rfl (filter_eq_of_full h.bounded hfull)
  | discardIf p =>
    have hsub : ([] ++ (s.queue.discardIf fun value => p value.1).pending).Sublist
        s.queue.pending := by
      unfold Queue.discardIf
      dsimp only
      split <;> exact filter_sublist
    have hkept := h.remove hsub (by
      unfold Queue.discardIf
      dsimp only
      split
      · intro _
        cases hempty : s.queue.pending.filter fun value => !p value.1 <;>
          simp [Queue.setReady]
      · next hstopped => exact fun hrunning => absurd hrunning hstopped)
    rwa [append_nil] at hkept
  | pop =>
    cases hrunning : s.queue.running with
    | false =>
      have hpop : s.queue.pop = (none, s.queue) := by
        rw [Queue.pop, if_pos (by simp [hrunning])]
      simp only [step, hpop]
      exact h.remove (List.Sublist.refl _) h.ready
    | true =>
      cases hpend : s.queue.pending with
      | nil =>
        have hpop : s.queue.pop = (none, s.queue) := by
          rw [Queue.pop, if_neg (by simp [hrunning])]
          simp only [hpend]
        simp only [step, hpop]
        exact h.remove (List.Sublist.refl _) h.ready
      | cons value rest =>
        have hpop : s.queue.pop =
            (some value, { s.queue with pending := rest }.setReady (!rest.isEmpty)) := by
          rw [Queue.pop, if_neg (by simp [hrunning])]
          simp only [hpend]
        simp only [step, hpop]
        refine h.remove (by rw [hpend]; exact List.Sublist.refl _) fun _ => ?_
        cases rest <;> simp [Queue.setReady]
  | drain =>
    cases hrunning : s.queue.running with
    | false =>
      have hdrain : s.queue.drain = ([], s.queue) := by
        rw [Queue.drain, if_pos (by simp [hrunning])]
      simp only [step, hdrain]
      exact h.remove (List.Sublist.refl _) h.ready
    | true =>
      have hdrain : s.queue.drain =
          (s.queue.pending, { s.queue with pending := [] }.setReady false) := by
        rw [Queue.drain, if_neg (by simp [hrunning])]
      simp only [step, hdrain]
      exact h.remove (by simp [Queue.setReady]) fun _ => by simp [Queue.setReady]
  | stop =>
    have hsub : ([] ++ s.queue.stop.pending).Sublist s.queue.pending := List.Sublist.refl _
    have hkept := h.remove hsub fun hrunning => by simp [Queue.running, Queue.stop] at hrunning
    rwa [append_nil] at hkept
  | reset =>
    have hsub : ([] ++ s.queue.reset.pending).Sublist s.queue.pending := nil_sublist _
    have hkept := h.remove hsub fun _ => by simp [Queue.reset, Queue.setReady]
    rwa [append_nil] at hkept

lemma kept_of_reachable {c : Classes α κ} {s : Traffic α} (h : (system c).Reachable s) :
    s.Kept c := by
  have hinit : Kept c (system c).init :=
    ⟨⟨zero_le, zero_le, zero_le⟩, List.Pairwise.nil, fun _ => by simp [system],
      List.Pairwise.nil, fun _ hmem => (not_mem_nil hmem).elim,
      fun _ hmem => (not_mem_nil hmem).elim, fun _ hmem => (not_mem_nil hmem).elim⟩
  exact h.invariant hinit fun state command hinv _ => kept_step c state command hinv

def Takes (c : Classes α κ) (s : Traffic α) (taken : α × Nat) : Command α → Prop
  | .raise value => c.key value = c.key taken.1 ∧
      (s.queue.raiseLatestClassed c.counted (value, s.arrivals)).1 = true
  | .discardIf p => p taken.1 = true
  | .pop => s.queue.pop.1 = some taken
  | .drain => True
  | .stop => False
  | .reset => True

lemma mem_step {c : Classes α κ} {s : Traffic α} (h : s.Kept c) {other : α × Nat}
    (hmem : other ∈ s.queue.pending) {command : Command α} (htakes : ¬ Takes c s other command)
    (hevict : ∀ value, command = .raise value →
      c.key value ≠ c.key other.1 ∧ c.evictable value other.1 = false ∨
        c.key value = c.key other.1) : other ∈ (s.step c command).queue.pending := by
  cases command with
  | raise value =>
    cases hrunning : s.queue.running with
    | false =>
      have hraise : s.queue.raiseLatestClassed c.counted (value, s.arrivals) =
          (false, s.queue) := by
        rw [Queue.raiseLatestClassed, if_pos (by simp [hrunning])]
      simp only [step, hraise]
      exact hmem
    | true =>
      rcases raise_counted h value hrunning with ⟨rest, hraise, hroom⟩ | ⟨hraise, hfull, -⟩
      · rcases hevict value rfl with ⟨hkey, hkept⟩ | hsame
        · simp only [step, hraise]
          refine mem_append_left _ (hroom.kept other ?_ hkept)
          exact mem_filter.mpr ⟨hmem, decide_eq_true (Ne.symm hkey)⟩
        · exact absurd ⟨hsame, by rw [hraise]⟩ htakes
      · simp only [step, hraise]
        rwa [filter_eq_of_full h.bounded hfull]
  | discardIf p =>
    have hp : p other.1 = false := by simpa [Takes] using htakes
    have hkept : other ∈ s.queue.pending.filter fun value => !p value.1 :=
      mem_filter.mpr ⟨hmem, by simp [hp]⟩
    simp only [step, Queue.discardIf]
    split <;> exact hkept
  | pop =>
    simp only [Takes] at htakes
    simp only [step]
    unfold Queue.pop at htakes ⊢
    split
    · exact hmem
    · next hrunning =>
      rw [if_neg hrunning] at htakes
      split
      · exact hmem
      · next value rest hpend =>
        simp only [hpend] at htakes
        rw [hpend] at hmem
        rcases mem_cons.mp hmem with rfl | hrest
        · exact absurd rfl htakes
        · exact hrest
  | drain => exact absurd trivial htakes
  | stop => exact hmem
  | reset => exact absurd trivial htakes

/-- What the queue keeps in every run: an accepted value is its last one, and a stopped queue
accepts nothing. -/
theorem classed_queue_kept (c : Classes α κ) {s : Traffic α} (h : (system c).Reachable s) :
    s.queue.pending.length ≤ c.maxElements ∧
      (s.queue.pending.map fun value => c.key value.1).Nodup ∧
      (∀ value ∈ s.queue.pending, value ∈ s.accepted ∧
        ∀ other ∈ s.accepted, c.key other.1 = c.key value.1 → other.2 ≤ value.2) ∧
      (∀ taken ∈ s.queue.pending, c.priority taken.1 = true → ∀ command,
        taken ∉ (s.step c command).queue.pending → Takes c s taken command) ∧
      (∀ value, c.priority value = true →
        (s.queue.raiseLatestClassed c.counted (value, s.arrivals)).1 = false →
        s.queue.running = false ∨ s.queue.pending.length = c.maxElements ∧
          ∀ other ∈ s.queue.pending, c.priority other.1 = true ∧ c.key other.1 ≠ c.key value) ∧
      (∀ value, c.ordinary value = true → ∀ other ∈ s.queue.pending,
        c.priority other.1 = true ∨ c.reserved other.1 = true → c.key other.1 ≠ c.key value →
        other ∈ (s.step c (.raise value)).queue.pending) ∧
      (s.queue.pending.countP fun value => c.ordinary value.1) ≤ c.eventLimit ∧
      (s.queue.pending.countP fun value => c.reservedEvent value.1) ≤ c.reservedLimit ∧
      (s.popped ++ s.queue.pending).Pairwise (fun first second => first.2 < second.2) ∧
      (s.queue.peek = true ↔ s.queue.running = true ∧ s.queue.pending ≠ []) ∧
      ∀ value, (s.queue.raiseLatestClassed c.counted (value, s.arrivals)).1 = true →
        (s.queue.raiseLatestClassed c.counted (value, s.arrivals)).2.pending.getLast? =
          some (value, s.arrivals) := by
  have hkept := kept_of_reachable h
  refine ⟨hkept.bounded.length, hkept.keys, hkept.latest, ?_, ?_, ?_, hkept.bounded.ordinary,
    hkept.bounded.reserved, hkept.order, ?_, fun value haccepted => ?_⟩
  · intro taken hmem hpriority command hgone
    by_contra htakes
    refine hgone (mem_step hkept hmem htakes fun value _ => ?_)
    by_cases hsame : c.key value = c.key taken.1
    · exact .inr hsame
    · exact .inl ⟨hsame, by rw [Classes.evictable, hpriority]; rfl⟩
  · intro value hpriority hrefused
    cases hrunning : s.queue.running with
    | false => exact .inl rfl
    | true =>
      rcases raise_counted hkept value hrunning with ⟨rest, hraise, -⟩ | ⟨-, hfull, hall⟩
      · rw [hraise] at hrefused
        cases hrefused
      · have hsame := filter_eq_of_full hkept.bounded hfull
        rw [hsame] at hfull
        refine .inr ⟨Nat.le_antisymm hkept.bounded.length hfull, fun other hmem => ?_⟩
        rw [← hsame] at hmem
        exact ⟨hall hpriority other hmem, of_decide_eq_true (mem_filter.mp hmem).2⟩
  · intro value hordinary other hmem hclass hkey
    obtain ⟨hnotPriority, hnotReserved⟩ := Bool.and_eq_true_iff.mp hordinary
    refine mem_step hkept hmem (fun htakes => hkey htakes.1.symm) fun raised hraised => ?_
    cases hraised
    refine .inl ⟨Ne.symm hkey, ?_⟩
    rw [Bool.not_eq_true'] at hnotPriority hnotReserved
    rw [Classes.evictable, hnotPriority, hnotReserved]
    rcases hclass with hother | hother <;> simp [hother]
  · rw [Queue.peek, decide_eq_true_eq]
    constructor
    · intro hready
      have hrunning : s.queue.running = true := by simp [Queue.running, hready]
      exact ⟨hrunning, (hkept.ready hrunning).mp hready⟩
    · rintro ⟨hrunning, hsome⟩
      exact (hkept.ready hrunning).mpr hsome
  · cases hrunning : s.queue.running with
    | false => simp [Queue.raiseLatestClassed, hrunning] at haccepted
    | true =>
      rcases raise_counted hkept value hrunning with ⟨rest, hraise, -⟩ | ⟨hraise, -⟩
      · rw [hraise]
        exact getLast?_concat
      · rw [hraise] at haccepted
        cases haccepted

end Traffic

end

def pairClasses : Classes Nat Nat where
  key := id
  priority value := value < 10
  reserved value := value < 20
  maxElements := 2
  eventLimit := 2
  reservedLimit := 1
  maxElements_pos := by decide
  maxElements_le := by decide
  eventLimit_pos := by decide
  reservedLimit_pos := by decide

/-- A full queue makes room for a priority value, and a value replaces its predecessor. -/
theorem Traffic.classed_queue_kept_replaced :
    let s := (Traffic.system pairClasses).run {} [.raise 25, .raise 30, .raise 3, .raise 3, .pop]
    s.popped = [(30, 1)] ∧ s.queue.pending = [(3, 3)] ∧
      (s.queue.pending.map fun value => pairClasses.key value.1).Nodup := by
  have hrun : (Traffic.system pairClasses).Reachable ((Traffic.system pairClasses).run {}
      [.raise 25, .raise 30, .raise 3, .raise 3, .pop]) :=
    System.Segment.of_follows .refl ⟨trivial, trivial, trivial, trivial, trivial, trivial, trivial,
      trivial, trivial, trivial, trivial⟩
  exact ⟨by decide, by decide, (Traffic.classed_queue_kept pairClasses hrun).2.1⟩

/-- A stopped queue refuses a priority value although nothing is pending. -/
theorem Traffic.stopped_queue_refuses_priority :
    ∃ s, (Traffic.system pairClasses).Reachable s ∧ pairClasses.priority 3 = true ∧
      (s.queue.raiseLatestClassed pairClasses.counted (3, s.arrivals)).1 = false ∧
      s.queue.pending = [] :=
  ⟨(Traffic.system pairClasses).run {} [.stop],
    System.Segment.of_follows .refl ⟨trivial, trivial, trivial⟩, by decide, by decide, by decide⟩

end Vibeshine.Threads
