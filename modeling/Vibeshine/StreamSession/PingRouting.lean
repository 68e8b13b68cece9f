import Vibeshine.Library.System
import Mathlib.Data.List.Infix
import Mathlib.Logic.Function.Basic
import Mathlib.Tactic.Common

/-! # Routing of pings

Calls of `recv_ping` register a queue under the payload of their session, and for a legacy
session under the address of its peer; the receive thread reads the registrations from a
bounded queue before it looks up a datagram. Every access to a shared queue is one step.
-/

namespace Vibeshine.StreamSession.PingRouting

open Library Function

variable {Address : Type}

/-- `socket_e`. -/
inductive SocketType where
  | video
  | audio
  deriving DecidableEq

/-- `av_session_id_t`. -/
inductive Key (Address : Type) where
  | address (value : Address)
  | payload (value : List UInt8)
  deriving DecidableEq

/-- A call of `recv_ping`, with the first address of its peer. -/
structure Waiter (Address : Type) where
  socket : SocketType
  legacy : Bool
  payload : List UInt8
  address : Address

structure Datagram (Address : Type) where
  address : Address
  bytes : List UInt8
  deriving DecidableEq

/-- The sizes of `SS_PING` and of its payload. -/
structure PingFormat where
  size : Nat
  payload : Nat

def Datagram.key (format : PingFormat) (datagram : Datagram Address) : Option (Key Address) :=
  if datagram.bytes.length = 4 then some (.address datagram.address)
  else if datagram.bytes.length ≥ format.size then
    some (.payload (datagram.bytes.take format.payload))
  else none

/-- The text `PING`. -/
def legacyPing : List UInt8 := [80, 73, 78, 71]

/-- Whether `recv_ping` takes a message for a ping of its client. -/
def Waiter.accepts (waiter : Waiter Address) (datagram : Datagram Address) : Bool :=
  waiter.payload <:+: datagram.bytes || waiter.legacy && datagram.bytes == legacyPing

def maxElements : Nat := 30

/-- The queue of a call. -/
structure Messages (Address : Type) where
  running : Bool := true
  items : List (Datagram Address) := []

/-- `queue_t::raise`: a full queue is cleared. -/
def push {α : Type} (items : List α) (item : α) : List α :=
  if items.length = maxElements then [item] else items ++ [item]

def Messages.raise (messages : Messages Address) (datagram : Datagram Address) : Messages Address :=
  if messages.running then { messages with items := push messages.items datagram } else messages

/-- A registration, or a removal where there is no queue. -/
structure Entry (Address : Type) where
  socket : SocketType
  key : Key Address
  waiter : Option Nat
  deriving DecidableEq

inductive Pc where
  /-- before `recv_ping` -/
  | idle
  /-- before the registration of the address -/
  | addressing
  /-- before the registration of the payload -/
  | naming
  /-- in the loop -/
  | waiting
  /-- before its queue is stopped -/
  | stopping
  /-- before the removal of the address -/
  | unaddressing
  /-- before the removal of the payload -/
  | unnaming
  | done
  deriving DecidableEq

structure State (Address : Type) where
  queue : List (Entry Address) := []
  routes : SocketType → Key Address → Option Nat := fun _ _ => none
  /-- a completed receive, with its datagram if there was no error -/
  receiving : Option (SocketType × Option (Datagram Address)) := none
  pcs : Nat → Pc := fun _ => .idle
  peers : Nat → Address
  messages : Nat → Messages Address := fun _ => {}

section Steps

variable (info : Nat → Waiter Address) (format : PingFormat)

def State.raising (s : State Address) (waiter : Nat) : Option (Entry Address) :=
  match s.pcs waiter with
  | .addressing => some ⟨(info waiter).socket, .address (s.peers waiter), some waiter⟩
  | .naming => some ⟨(info waiter).socket, .payload (info waiter).payload, some waiter⟩
  | .unaddressing => some ⟨(info waiter).socket, .address (s.peers waiter), none⟩
  | .unnaming => some ⟨(info waiter).socket, .payload (info waiter).payload, none⟩
  | _ => none

def next (waiter : Nat) : Pc → Pc
  | .idle => if (info waiter).legacy then .addressing else .naming
  | .addressing => .naming
  | .naming => .waiting
  | .waiting => .waiting
  | .stopping => if (info waiter).legacy then .unaddressing else .unnaming
  | .unaddressing => .unnaming
  | .unnaming => .done
  | .done => .done

def State.advance (s : State Address) (waiter : Nat) : State Address :=
  { s with
    pcs := Function.update s.pcs waiter (next info waiter (s.pcs waiter))
    queue :=
      match s.raising info waiter with
      | some entry => push s.queue entry
      | none => s.queue
    messages :=
      if s.pcs waiter = .stopping then
        Function.update s.messages waiter { s.messages waiter with running := false }
      else s.messages }

def State.pop (s : State Address) (waiter : Nat) : State Address :=
  match (s.messages waiter).items with
  | [] => s
  | datagram :: items =>
    let s := { s with
      messages := Function.update s.messages waiter { s.messages waiter with items := items } }
    if (info waiter).accepts datagram then
      { s with
        peers := Function.update s.peers waiter datagram.address
        pcs := Function.update s.pcs waiter .stopping }
    else s

def State.populate [DecidableEq Address] (s : State Address) : State Address :=
  match s.queue with
  | [] => s
  | entry :: queue =>
    { s with
      queue := queue
      routes := Function.update s.routes entry.socket
        (Function.update (s.routes entry.socket) entry.key entry.waiter) }

def State.lookup (s : State Address) (socket : SocketType) (datagram : Datagram Address) :
    Option Nat :=
  (datagram.key format).bind (s.routes socket)

def State.deliver (s : State Address) : State Address :=
  match s.receiving with
  | some (socket, some datagram) =>
    match s.lookup format socket datagram with
    | some waiter =>
      { s with
        receiving := none
        messages := Function.update s.messages waiter
          ((s.messages waiter).raise datagram) }
    | none => { s with receiving := none }
  | _ => { s with receiving := none }

end Steps

inductive Input (Address : Type) where
  | advance (waiter : Nat)
  | pop (waiter : Nat)
  /-- the loop ends without a ping -/
  | timeout (waiter : Nat)
  | receive (socket : SocketType) (datagram : Option (Datagram Address))
  | populate
  | deliver

def State.admits (s : State Address) : Input Address → Prop
  | .advance waiter => s.pcs waiter ≠ .waiting ∧ s.pcs waiter ≠ .done
  | .pop waiter => s.pcs waiter = .waiting ∧ (s.messages waiter).items ≠ []
  | .timeout waiter => s.pcs waiter = .waiting
  | .receive _ _ => s.receiving = none
  | .populate => s.receiving.isSome ∧ s.queue ≠ []
  | .deliver => s.receiving.isSome ∧ s.queue = []

def State.step [DecidableEq Address] (info : Nat → Waiter Address) (format : PingFormat)
    (s : State Address) : Input Address → State Address
  | .advance waiter => s.advance info waiter
  | .pop waiter => s.pop info waiter
  | .timeout waiter => { s with pcs := Function.update s.pcs waiter .stopping }
  | .receive socket datagram => { s with receiving := some (socket, datagram) }
  | .populate => s.populate
  | .deliver => s.deliver format

def pings [DecidableEq Address] (info : Nat → Waiter Address) (format : PingFormat) :
    System (State Address) (Input Address) where
  init := { peers := fun waiter => (info waiter).address }
  admits := State.admits
  step := State.step info format

def Waiter.Has (waiter : Waiter Address) (key : Key Address) : Prop :=
  key = .payload waiter.payload ∨ waiter.legacy = true ∧ key = .address waiter.address

def State.Registered (info : Nat → Waiter Address) (s : State Address) (waiter : Nat)
    (key : Key Address) : Prop :=
  match s.pcs waiter with
  | .naming => (info waiter).legacy = true ∧ key = .address (info waiter).address
  | .waiting => (info waiter).Has key
  | .stopping => (info waiter).Has key
  | .unaddressing => (info waiter).Has key
  | .unnaming => key = .payload (info waiter).payload
  | _ => False

/-- A call raises an entry only while there is room for it, and no other call of its socket
is registered under its key. -/
def Isolated (info : Nat → Waiter Address) (s : State Address) : Input Address → Prop
  | .advance waiter => ∀ entry, s.raising info waiter = some entry → s.queue.length < maxElements ∧
        ∀ other ≠ waiter, (info other).socket = entry.socket → ¬ s.Registered info other entry.key
  | _ => True

def Entry.Targets (entry : Entry Address) (socket : SocketType) (key : Key Address) : Prop :=
  entry.socket = socket ∧ entry.key = key

section Invariant

variable {info : Nat → Waiter Address} {format : PingFormat} {s : State Address}

def registration (info : Nat → Waiter Address) (waiter : Nat) (key : Key Address) : Entry Address :=
  ⟨(info waiter).socket, key, some waiter⟩

/-- A registration that is pending is the last entry for its key; else it is in the map, and
no entry for its key is pending. -/
def State.Routed (info : Nat → Waiter Address) (s : State Address) (waiter : Nat)
    (key : Key Address) : Prop :=
  (s.routes (info waiter).socket key = some waiter ∧
      ∀ entry ∈ s.queue, ¬ entry.Targets (info waiter).socket key) ∨
    (s.routes (info waiter).socket key ≠ some waiter ∧
      ∃ before after, s.queue = before ++ registration info waiter key :: after ∧
        (∀ entry ∈ before, entry ≠ registration info waiter key) ∧
        ∀ entry ∈ after, ¬ entry.Targets (info waiter).socket key)

def State.Unraised (info : Nat → Waiter Address) (s : State Address) (waiter : Nat)
    (key : Key Address) : Prop :=
  s.routes (info waiter).socket key ≠ some waiter ∧
    ∀ entry ∈ s.queue, entry ≠ registration info waiter key

def State.Ahead (info : Nat → Waiter Address) (s : State Address) (waiter : Nat)
    (key : Key Address) : Prop :=
  match s.pcs waiter with
  | .idle => True
  | .addressing => True
  | .naming => key = .payload (info waiter).payload
  | _ => False

def Pc.early : Pc → Bool
  | .idle | .addressing | .naming | .waiting => true
  | _ => false

def Pc.stopped : Pc → Bool
  | .unaddressing | .unnaming | .done => true
  | _ => false

structure State.Inv (info : Nat → Waiter Address) (s : State Address) : Prop where
  routed : ∀ waiter key, s.Registered info waiter key → s.Routed info waiter key
  unraised : ∀ waiter key, s.Ahead info waiter key → s.Unraised info waiter key
  /-- the peer is the first one until the loop ends -/
  peer : ∀ waiter, (s.pcs waiter).early = true → s.peers waiter = (info waiter).address
  running : ∀ waiter, (s.pcs waiter).stopped = false → (s.messages waiter).running = true

section Populate

variable [DecidableEq Address]

lemma populate_route {entry : Entry Address} {queue : List (Entry Address)}
    (hqueue : s.queue = entry :: queue) (socket : SocketType) (key : Key Address) :
    s.populate.queue = queue ∧
      (entry.Targets socket key → s.populate.routes socket key = entry.waiter) ∧
      (¬ entry.Targets socket key → s.populate.routes socket key = s.routes socket key) := by
  simp only [State.populate, hqueue]
  refine ⟨trivial, ?_, fun hother => ?_⟩
  · rintro ⟨rfl, rfl⟩
    simp
  · by_cases hsocket : socket = entry.socket
    · subst hsocket
      have hkey : key ≠ entry.key := fun h => hother ⟨rfl, h.symm⟩
      rw [update_self, update_of_ne hkey]
    · rw [update_of_ne hsocket]

lemma State.Routed.populate {waiter : Nat} {key : Key Address}
    (h : s.Routed info waiter key) {entry : Entry Address} {queue : List (Entry Address)}
    (hqueue : s.queue = entry :: queue) : s.populate.Routed info waiter key := by
  obtain ⟨hrest, hset, hkept⟩ := populate_route hqueue (info waiter).socket key
  rcases h with ⟨hroute, hnone⟩ | ⟨hroute, before, after, hsplit, hbefore, hafter⟩
  · rw [hqueue, List.forall_mem_cons] at hnone
    exact .inl ⟨(hkept hnone.1).trans hroute, hrest ▸ hnone.2⟩
  · rw [hqueue] at hsplit
    cases before with
    | nil =>
      -- the registration is applied
      obtain ⟨rfl, rfl⟩ := List.cons.inj hsplit
      exact .inl ⟨hset ⟨rfl, rfl⟩, hrest ▸ hafter⟩
    | cons first before =>
      obtain ⟨rfl, rfl⟩ := List.cons.inj hsplit
      obtain ⟨hfirst, hbefore⟩ := List.forall_mem_cons.mp hbefore
      refine .inr ⟨fun hnow => ?_, before, after, hrest, hbefore, hafter⟩
      by_cases htargets : entry.Targets (info waiter).socket key
      · obtain ⟨hsocket, hkey⟩ := htargets
        have hwaiter : entry.waiter = some waiter := (hset ⟨hsocket, hkey⟩).symm.trans hnow
        obtain ⟨socket, entryKey, entryWaiter⟩ := entry
        exact hfirst (by rw [registration, ← hsocket, ← hkey, ← hwaiter])
      · exact hroute ((hkept htargets).symm.trans hnow)

lemma State.Unraised.populate {waiter : Nat} {key : Key Address}
    (h : s.Unraised info waiter key) {entry : Entry Address} {queue : List (Entry Address)}
    (hqueue : s.queue = entry :: queue) : s.populate.Unraised info waiter key := by
  obtain ⟨hrest, hset, hkept⟩ := populate_route hqueue (info waiter).socket key
  obtain ⟨hroute, hnone⟩ := h
  rw [hqueue, List.forall_mem_cons] at hnone
  refine ⟨fun hnow => ?_, hrest ▸ hnone.2⟩
  by_cases htargets : entry.Targets (info waiter).socket key
  · obtain ⟨hsocket, hkey⟩ := htargets
    have hwaiter : entry.waiter = some waiter := (hset ⟨hsocket, hkey⟩).symm.trans hnow
    obtain ⟨socket, entryKey, entryWaiter⟩ := entry
    exact hnone.1 (by rw [registration, ← hsocket, ← hkey, ← hwaiter])
  · exact hroute ((hkept htargets).symm.trans hnow)

end Populate

/-! ## Calls -/

section Raise

variable {t : State Address} {waiter : Nat} {key : Key Address} {entry : Entry Address}

lemma State.Routed.append (h : s.Routed info waiter key) (hroutes : t.routes = s.routes)
    (hqueue : t.queue = s.queue ++ [entry])
    (hother : ¬ entry.Targets (info waiter).socket key) : t.Routed info waiter key := by
  unfold State.Routed
  rw [hroutes, hqueue]
  rcases h with ⟨hroute, hnone⟩ | ⟨hroute, before, after, hsplit, hbefore, hafter⟩
  · exact .inl ⟨hroute, List.forall_mem_append.mpr
      ⟨hnone, List.forall_mem_singleton.mpr hother⟩⟩
  · refine .inr ⟨hroute, before, after ++ [entry], ?_, hbefore, List.forall_mem_append.mpr
      ⟨hafter, List.forall_mem_singleton.mpr hother⟩⟩
    rw [hsplit, List.append_assoc, List.cons_append]

lemma State.Unraised.append (h : s.Unraised info waiter key) (hroutes : t.routes = s.routes)
    (hqueue : t.queue = s.queue ++ [entry]) (hother : entry ≠ registration info waiter key) :
    t.Unraised info waiter key := by
  unfold State.Unraised
  rw [hroutes, hqueue]
  exact ⟨h.1, List.forall_mem_append.mpr ⟨h.2, List.forall_mem_singleton.mpr hother⟩⟩

lemma State.Unraised.registers (h : s.Unraised info waiter key) (hroutes : t.routes = s.routes)
    (hqueue : t.queue = s.queue ++ [registration info waiter key]) :
    t.Routed info waiter key := by
  unfold State.Routed
  rw [hroutes, hqueue]
  exact .inr ⟨h.1, s.queue, [], rfl, h.2, List.forall_mem_nil _⟩

lemma registered_congr (hpc : t.pcs waiter = s.pcs waiter) :
    t.Registered info waiter key ↔ s.Registered info waiter key := by
  simp only [State.Registered, hpc]

lemma ahead_congr (hpc : t.pcs waiter = s.pcs waiter) :
    t.Ahead info waiter key ↔ s.Ahead info waiter key := by
  simp only [State.Ahead, hpc]

lemma routed_congr (hroutes : t.routes = s.routes) (hqueue : t.queue = s.queue) :
    t.Routed info waiter key ↔ s.Routed info waiter key := by
  simp only [State.Routed, hroutes, hqueue]

lemma unraised_congr (hroutes : t.routes = s.routes) (hqueue : t.queue = s.queue) :
    t.Unraised info waiter key ↔ s.Unraised info waiter key := by
  simp only [State.Unraised, hroutes, hqueue]

end Raise

lemma State.Inv.others (h : s.Inv info) {t : State Address} {waiter : Nat}
    {entry : Entry Address} (hroutes : t.routes = s.routes)
    (hqueue : t.queue = s.queue ++ [entry])
    (hpcs : ∀ other ≠ waiter, t.pcs other = s.pcs other)
    (howner : entry.waiter = some waiter ∨ entry.waiter = none)
    (hisolated : ∀ other ≠ waiter, (info other).socket = entry.socket →
      ¬ s.Registered info other entry.key) {other : Nat} (hother : other ≠ waiter)
    (key : Key Address) :
    (t.Registered info other key → t.Routed info other key) ∧
      (t.Ahead info other key → t.Unraised info other key) := by
  constructor
  · intro hregd
    have hbefore := (registered_congr (hpcs other hother)).mp hregd
    refine (h.routed other key hbefore).append hroutes hqueue ?_
    rintro ⟨hsocket, rfl⟩
    exact hisolated other hother hsocket.symm hbefore
  · intro hahead
    refine (h.unraised other key ((ahead_congr (hpcs other hother)).mp hahead)).append hroutes
      hqueue ?_
    rintro rfl
    rcases howner with howner | howner
    · exact hother (Option.some.inj howner)
    · cases howner

lemma push_of_room {α : Type} {items : List α} (item : α) (h : items.length < maxElements) :
    push items item = items ++ [item] :=
  if_neg (Nat.ne_of_lt h)

lemma advance_queue (info : Nat → Waiter Address) (s : State Address) (waiter : Nat)
    {entry : Entry Address} (hraising : s.raising info waiter = some entry)
    (hroom : s.queue.length < maxElements) :
    (s.advance info waiter).queue = s.queue ++ [entry] := by
  simp only [State.advance, hraising, push_of_room entry hroom]

lemma advance_pcs (info : Nat → Waiter Address) (s : State Address) (waiter : Nat) :
    (s.advance info waiter).pcs waiter = next info waiter (s.pcs waiter) ∧
      ∀ other ≠ waiter, (s.advance info waiter).pcs other = s.pcs other :=
  ⟨update_self .., fun _ hother => update_of_ne hother ..⟩

lemma early_of_next {waiter : Nat} {pc : Pc} (h : (next info waiter pc).early = true) :
    pc.early = true := by
  cases pc with
  | idle | addressing | naming | waiting => rfl
  | stopping => cases hlegacy : (info waiter).legacy <;> simp [next, hlegacy, Pc.early] at h
  | unaddressing | unnaming | done => cases h

lemma going_of_next {waiter : Nat} {pc : Pc} (h : (next info waiter pc).stopped = false) :
    pc ≠ .stopping ∧ pc.stopped = false := by
  cases pc with
  | idle | addressing | naming | waiting => exact ⟨nofun, rfl⟩
  | stopping => cases hlegacy : (info waiter).legacy <;> simp [next, hlegacy, Pc.stopped] at h
  | unaddressing | unnaming | done => cases h

section

variable (h : s.Inv info)

include h

lemma State.Inv.own {waiter : Nat}
    (hisolated : Isolated info s (.advance waiter)) (key : Key Address) :
    ((s.advance info waiter).Registered info waiter key →
        (s.advance info waiter).Routed info waiter key) ∧
      ((s.advance info waiter).Ahead info waiter key →
        (s.advance info waiter).Unraised info waiter key) := by
  have hpc := (advance_pcs info s waiter).1
  have hroutes : (s.advance info waiter).routes = s.routes := rfl
  simp only [State.Registered, State.Ahead, hpc]
  cases hwhere : s.pcs waiter with
  | idle =>
    have hqueue : (s.advance info waiter).queue = s.queue := by
      simp only [State.advance, State.raising, hwhere]
    have hahead : s.Ahead info waiter key := by simp [State.Ahead, hwhere]
    refine ⟨fun hnow => ?_,
      fun _ => (unraised_congr hroutes hqueue).mpr (h.unraised waiter key hahead)⟩
    cases hlegacy : (info waiter).legacy <;> simp [next, hlegacy] at hnow
  | addressing =>
    have hpeer : s.peers waiter = (info waiter).address := h.peer waiter (by rw [hwhere]; rfl)
    have hraising : s.raising info waiter =
        some (registration info waiter (.address (info waiter).address)) := by
      simp only [State.raising, hwhere, hpeer, registration]
    have hqueue := advance_queue info s waiter hraising (hisolated _ hraising).1
    have hahead : ∀ key, s.Ahead info waiter key := fun key => by simp [State.Ahead, hwhere]
    simp only [next]
    refine ⟨?_, ?_⟩
    · rintro ⟨-, rfl⟩
      exact (h.unraised waiter _ (hahead _)).registers hroutes hqueue
    · rintro rfl
      exact (h.unraised waiter _ (hahead _)).append hroutes hqueue (by simp [registration])
  | naming =>
    have hraising : s.raising info waiter =
        some (registration info waiter (.payload (info waiter).payload)) := by
      simp only [State.raising, hwhere, registration]
    have hqueue := advance_queue info s waiter hraising (hisolated _ hraising).1
    simp only [next]
    refine ⟨?_, fun hnow => hnow.elim⟩
    rintro (rfl | hlegacy)
    · exact (h.unraised waiter _ (by simp [State.Ahead, hwhere])).registers hroutes hqueue
    · refine (h.routed waiter key (by simpa [State.Registered, hwhere] using hlegacy)).append
        hroutes hqueue ?_
      rintro ⟨-, hkey⟩
      rw [hlegacy.2] at hkey
      cases hkey
  | waiting =>
    have hqueue : (s.advance info waiter).queue = s.queue := by
      simp only [State.advance, State.raising, hwhere]
    refine ⟨fun hnow => (routed_congr hroutes hqueue).mpr (h.routed waiter key ?_),
      fun hnow => hnow.elim⟩
    simp only [State.Registered, hwhere]
    exact hnow
  | stopping =>
    have hqueue : (s.advance info waiter).queue = s.queue := by
      simp only [State.advance, State.raising, hwhere]
    refine ⟨fun hnow => (routed_congr hroutes hqueue).mpr (h.routed waiter key ?_),
      fun hnow => ?_⟩
    · simp only [State.Registered, hwhere]
      cases hlegacy : (info waiter).legacy <;>
        simp only [next, hlegacy, if_true, Bool.false_eq_true, if_false] at hnow
      · exact Or.inl hnow
      · exact hnow
    · cases hlegacy : (info waiter).legacy <;> simp [next, hlegacy] at hnow
  | unaddressing =>
    have hraising : s.raising info waiter =
        some ⟨(info waiter).socket, .address (s.peers waiter), none⟩ := by
      simp only [State.raising, hwhere]
    have hqueue := advance_queue info s waiter hraising (hisolated _ hraising).1
    simp only [next]
    refine ⟨?_, fun hnow => hnow.elim⟩
    rintro rfl
    refine (h.routed waiter _ ?_).append hroutes hqueue ?_
    · simp [State.Registered, hwhere, Waiter.Has]
    · rintro ⟨-, hkey⟩
      cases hkey
  | unnaming | done => exact ⟨fun hnow => hnow.elim, fun hnow => hnow.elim⟩

lemma inv_advance {waiter : Nat}
    (hisolated : Isolated info s (.advance waiter)) : (s.advance info waiter).Inv info := by
  obtain ⟨hpc, hpcs⟩ := advance_pcs info s waiter
  have hroutes : (s.advance info waiter).routes = s.routes := rfl
  have hothers : ∀ other ≠ waiter, ∀ key, ((s.advance info waiter).Registered info other key →
          (s.advance info waiter).Routed info other key) ∧
        ((s.advance info waiter).Ahead info other key →
          (s.advance info waiter).Unraised info other key) := by
    intro other hother key
    cases hraising : s.raising info waiter with
    | none =>
      have hqueue : (s.advance info waiter).queue = s.queue := by
        simp only [State.advance, hraising]
      exact ⟨fun hnow => (routed_congr hroutes hqueue).mpr
          (h.routed other key ((registered_congr (hpcs other hother)).mp hnow)),
        fun hnow => (unraised_congr hroutes hqueue).mpr
          (h.unraised other key ((ahead_congr (hpcs other hother)).mp hnow))⟩
    | some entry =>
      obtain ⟨hroom, halone⟩ := hisolated entry hraising
      have howner : entry.waiter = some waiter ∨ entry.waiter = none := by
        unfold State.raising at hraising
        split at hraising <;> cases hraising
        · exact .inl rfl
        · exact .inl rfl
        · exact .inr rfl
        · exact .inr rfl
      exact h.others hroutes (advance_queue info s waiter hraising hroom) hpcs howner halone
        hother key
  constructor
  · intro other key
    by_cases hsame : other = waiter
    · exact hsame ▸ (h.own hisolated key).1
    · exact (hothers other hsame key).1
  · intro other key
    by_cases hsame : other = waiter
    · exact hsame ▸ (h.own hisolated key).2
    · exact (hothers other hsame key).2
  · intro other hearly
    by_cases hsame : other = waiter
    · subst hsame
      rw [hpc] at hearly
      exact h.peer other (early_of_next hearly)
    · rw [hpcs other hsame] at hearly
      exact h.peer other hearly
  · intro other hgoing
    by_cases hsame : other = waiter
    · subst hsame
      rw [hpc] at hgoing
      obtain ⟨hstopping, hbefore⟩ := going_of_next hgoing
      simp only [State.advance, if_neg hstopping]
      exact h.running other hbefore
    · rw [hpcs other hsame] at hgoing
      have hrun := h.running other hgoing
      simp only [State.advance]
      split
      · rwa [update_of_ne hsame]
      · exact hrun

lemma State.Inv.leave {waiter : Nat} (hwaiting : s.pcs waiter = .waiting)
    {t : State Address} (hroutes : t.routes = s.routes) (hqueue : t.queue = s.queue)
    (hpcs : t.pcs = Function.update s.pcs waiter .stopping)
    (hpeers : ∀ other ≠ waiter, t.peers other = s.peers other)
    (hmessages : ∀ other, (t.messages other).running = (s.messages other).running) :
    t.Inv info := by
  have hpc : t.pcs waiter = .stopping := by rw [hpcs, update_self]
  have hothers : ∀ other ≠ waiter, t.pcs other = s.pcs other := fun other hother => by
    rw [hpcs, update_of_ne hother]
  constructor
  · intro other key hnow
    refine (routed_congr hroutes hqueue).mpr (h.routed other key ?_)
    by_cases hsame : other = waiter
    · subst hsame
      simp only [State.Registered, hpc] at hnow
      simp only [State.Registered, hwaiting]
      exact hnow
    · exact (registered_congr (hothers other hsame)).mp hnow
  · intro other key hnow
    refine (unraised_congr hroutes hqueue).mpr (h.unraised other key ?_)
    by_cases hsame : other = waiter
    · subst hsame
      simp only [State.Ahead, hpc] at hnow
    · exact (ahead_congr (hothers other hsame)).mp hnow
  · intro other hearly
    by_cases hsame : other = waiter
    · subst hsame
      rw [hpc] at hearly
      cases hearly
    · rw [hothers other hsame] at hearly
      rw [hpeers other hsame]
      exact h.peer other hearly
  · intro other hgoing
    rw [hmessages]
    refine h.running other ?_
    by_cases hsame : other = waiter
    · subst hsame
      rw [hwaiting]
      rfl
    · rwa [hothers other hsame] at hgoing

lemma State.Inv.messages {t : State Address} (hroutes : t.routes = s.routes)
    (hqueue : t.queue = s.queue) (hpcs : t.pcs = s.pcs) (hpeers : t.peers = s.peers)
    (hmessages : ∀ other, (t.messages other).running = (s.messages other).running) :
    t.Inv info where
  routed waiter key hnow := (routed_congr hroutes hqueue).mpr
    (h.routed waiter key ((registered_congr (by rw [hpcs])).mp hnow))
  unraised waiter key hnow := (unraised_congr hroutes hqueue).mpr
    (h.unraised waiter key ((ahead_congr (by rw [hpcs])).mp hnow))
  peer waiter hearly := by
    rw [hpcs] at hearly
    rw [hpeers]
    exact h.peer waiter hearly
  running waiter hgoing := by
    rw [hpcs] at hgoing
    rw [hmessages]
    exact h.running waiter hgoing

lemma inv_pop {waiter : Nat} (hwaiting : s.pcs waiter = .waiting) :
    (s.pop info waiter).Inv info := by
  unfold State.pop
  split
  · exact h
  · next datagram items hitems =>
    have hrun : ∀ other, (Function.update s.messages waiter
        { s.messages waiter with items := items } other).running = (s.messages other).running := by
      intro other
      by_cases hsame : other = waiter
      · subst hsame
        rw [update_self]
      · rw [update_of_ne hsame]
    simp only
    split
    · exact h.leave hwaiting rfl rfl rfl (fun other hother => update_of_ne hother ..)
        hrun
    · exact h.messages rfl rfl rfl rfl hrun

end

lemma raise_running (messages : Messages Address) (datagram : Datagram Address) :
    (messages.raise datagram).running = messages.running := by
  unfold Messages.raise
  split <;> rfl

lemma inv_deliver (h : s.Inv info) : (s.deliver format).Inv info := by
  unfold State.deliver
  split
  · next socket datagram hreceiving =>
    split
    · next waiter hlookup =>
      have hrun : ∀ other, (Function.update s.messages waiter
          ((s.messages waiter).raise datagram) other).running = (s.messages other).running := by
        intro other
        by_cases hsame : other = waiter
        · subst hsame
          rw [update_self, raise_running]
        · rw [update_of_ne hsame]
      exact h.messages rfl rfl rfl rfl hrun
    · exact h.messages rfl rfl rfl rfl fun _ => rfl
  · exact h.messages rfl rfl rfl rfl fun _ => rfl

section Runs

variable [DecidableEq Address]

lemma inv_init : (pings info format).init.Inv info where
  routed _ _ h := h.elim
  unraised _ _ _ := ⟨nofun, List.forall_mem_nil _⟩
  peer _ _ := rfl
  running _ _ := rfl

lemma inv_populate (h : s.Inv info) : s.populate.Inv info := by
  cases hqueue : s.queue with
  | nil =>
    simp only [State.populate, hqueue]
    exact h
  | cons entry queue =>
    have hpcs : s.populate.pcs = s.pcs := by simp only [State.populate, hqueue]
    have hpeers : s.populate.peers = s.peers := by simp only [State.populate, hqueue]
    have hmessages : s.populate.messages = s.messages := by
      simp only [State.populate, hqueue]
    constructor
    · intro waiter key hnow
      exact (h.routed waiter key ((registered_congr (by rw [hpcs])).mp hnow)).populate hqueue
    · intro waiter key hnow
      exact (h.unraised waiter key ((ahead_congr (by rw [hpcs])).mp hnow)).populate hqueue
    · intro waiter hearly
      rw [hpcs] at hearly
      rw [hpeers]
      exact h.peer waiter hearly
    · intro waiter hgoing
      rw [hpcs] at hgoing
      rw [hmessages]
      exact h.running waiter hgoing

lemma inv_step (h : s.Inv info) {input : Input Address} (hadmits : s.admits input)
    (hisolated : Isolated info s input) : (s.step info format input).Inv info := by
  cases input with
  | advance waiter => exact inv_advance h hisolated
  | pop waiter => exact inv_pop h hadmits.1
  | timeout waiter => exact h.leave hadmits rfl rfl rfl (fun _ _ => rfl) fun _ => rfl
  | receive socket datagram => exact h.messages rfl rfl rfl rfl fun _ => rfl
  | populate => exact inv_populate h
  | deliver => exact inv_deliver h

def State.Waits (info : Nat → Waiter Address) (s : State Address) (waiter : Nat)
    (key : Key Address) : Prop :=
  s.pcs waiter = .waiting ∧ (info waiter).Has key

/-- In every isolated run the receive thread never takes the queue of a waiting call out of
its map, and a datagram of a waiting call goes to the queue of that call and to no other. -/
theorem pings_isolated (info : Nat → Waiter Address) (format : PingFormat) {s : State Address}
    (hreach : (pings info format).ReachableUnder (Isolated info) s) {waiter : Nat}
    {key : Key Address} (hwaits : s.Waits info waiter key) :
    (s.routes (info waiter).socket key = some waiter →
      s.populate.routes (info waiter).socket key = some waiter) ∧
    (∀ datagram, s.receiving = some ((info waiter).socket, some datagram) →
      datagram.key format = some key → s.queue = [] →
      (s.deliver format).messages waiter =
          { s.messages waiter with items := push (s.messages waiter).items datagram } ∧
        ∀ other ≠ waiter, (s.deliver format).messages other = s.messages other) := by
  have hinv : s.Inv info := by
    refine System.ReachableUnder.invariant ?_ ?_ hreach
    · exact inv_init
    · intro state input hinv hadmits hisolated
      exact inv_step hinv hadmits hisolated
  obtain ⟨hwaiting, hhas⟩ := hwaits
  have hrouted : s.Routed info waiter key :=
    hinv.routed waiter key (by simpa only [State.Registered, hwaiting] using hhas)
  constructor
  · intro hroute
    rcases hrouted with ⟨-, hnone⟩ | ⟨hroute', -⟩
    · cases hqueue : s.queue with
      | nil =>
        simp only [State.populate, hqueue]
        exact hroute
      | cons entry queue =>
        -- no entry for the key is pending
        rw [hqueue, List.forall_mem_cons] at hnone
        exact ((populate_route hqueue _ key).2.2 hnone.1).trans hroute
    · exact absurd hroute hroute'
  · intro datagram hreceiving hkey hempty
    have hroute : s.routes (info waiter).socket key = some waiter := by
      rcases hrouted with ⟨hroute, -⟩ | ⟨-, before, after, hsplit, -⟩
      · exact hroute
      · rw [hempty] at hsplit
        simp at hsplit
    have hlookup : s.lookup format (info waiter).socket datagram = some waiter := by
      rw [State.lookup, hkey, Option.bind_some, hroute]
    have hrun := hinv.running waiter (by rw [hwaiting]; rfl)
    simp only [State.deliver, hreceiving, hlookup]
    refine ⟨?_, fun other hother => update_of_ne hother ..⟩
    rw [update_self, Messages.raise, if_pos hrun]

end Runs

end Invariant

/-! ## Examples -/

instance [DecidableEq Address] (s : State Address) (input : Input Address) :
    Decidable (s.admits input) :=
  match input with
  | .advance _ => inferInstanceAs (Decidable (_ ∧ _))
  | .pop _ => inferInstanceAs (Decidable (_ ∧ _))
  | .timeout _ => inferInstanceAs (Decidable (_ = _))
  | .receive _ _ => inferInstanceAs (Decidable (_ = _))
  | .populate => inferInstanceAs (Decidable (_ ∧ _))
  | .deliver => inferInstanceAs (Decidable (_ ∧ _))

instance [DecidableEq Address] (info : Nat → Waiter Address) (format : PingFormat)
    (s : State Address) (input : Input Address) :
    Decidable ((pings info format).admits s input) :=
  inferInstanceAs (Decidable (s.admits input))

def twoClients (addresses : Nat → Nat) (waiter : Nat) : Waiter Nat :=
  { socket := .video, legacy := true, payload := List.replicate 16 (UInt8.ofNat waiter)
    address := addresses waiter }

lemma registered_has {info : Nat → Waiter Address} {s : State Address} {waiter : Nat}
    {key : Key Address} (h : s.Registered info waiter key) :
    s.pcs waiter ≠ .idle ∧ (info waiter).Has key := by
  unfold State.Registered at h
  cases hwhere : s.pcs waiter <;> simp_all [Waiter.Has]

lemma isolated_pair {s : State Nat} {waiter : Nat} (hroom : s.queue.length < maxElements)
    (hidle : ∀ other, s.pcs (other + 2) = .idle)
    (hpair : ∀ entry ∈ s.raising (twoClients id) waiter, ∀ other < 2, other ≠ waiter →
      entry.key ≠ .payload (twoClients id other).payload ∧ entry.key ≠ .address other) :
    Isolated (twoClients id) s (.advance waiter) := by
  refine fun entry hentry => ⟨hroom, fun other hother _ hregd => ?_⟩
  obtain ⟨hbusy, hhas⟩ := registered_has hregd
  have hlow : other < 2 := by
    by_contra hle
    obtain ⟨other, rfl⟩ := Nat.exists_eq_add_of_le' (Nat.not_lt.mp hle)
    exact hbusy (hidle other)
  obtain ⟨hpayload, haddress⟩ := hpair entry hentry other hlow hother
  exact hhas.elim hpayload fun hkey => haddress hkey.2

/-- A client gets its ping after the call of the other on its socket has ended. -/
theorem pings_isolated_one :
    let s := (pings (twoClients id) { size := 20, payload := 16 }).run
      { peers := fun waiter => waiter }
      [.advance 0, .advance 0, .advance 0, .advance 1, .advance 1, .advance 1, .timeout 0,
        .advance 0, .advance 0, .advance 0,
        .receive .video (some { address := 1, bytes := legacyPing }),
        .populate, .populate, .populate, .populate, .populate, .populate]
    ((s.deliver { size := 20, payload := 16 }).messages 1).items =
      [{ address := 1, bytes := legacyPing }] := by
  intro s
  have hreach : (pings (twoClients id) { size := 20, payload := 16 }).ReachableUnder
      (Isolated (twoClients id)) s := by
    refine System.Segment.of_follows .refl ?_
    repeat' apply And.intro
    all_goals first
      | decide
      | exact isolated_pair (by decide) (fun _ => rfl) (by decide)
      | trivial
  have hwaits : s.Waits (twoClients id) 1 (.address 1) := ⟨rfl, .inr ⟨rfl, rfl⟩⟩
  have hdelivered := (pings_isolated (twoClients id) { size := 20, payload := 16 } hreach
    hwaits).2 _ rfl rfl rfl
  rw [hdelivered.1]
  rfl

def Lost (info : Nat → Waiter Nat) (format : PingFormat) (waiter : Nat) (s : State Nat) : Prop :=
  s.Waits info waiter (.address (info waiter).address) ∧
    (∀ other ≠ waiter, s.pcs other ≠ .waiting) ∧
    s.receiving = some (.video, some { address := (info waiter).address, bytes := legacyPing }) ∧
    s.queue = [] ∧ ((s.deliver format).messages waiter).items = []

/-- The call that ends removes the queue of another: two clients of one address, and a
client whose ping came from the address of the other. -/
theorem pings_lose_queue :
    (∃ s, (pings (twoClients fun _ => 0) { size := 20, payload := 16 }).Reachable s ∧
      Lost (twoClients fun _ => 0) { size := 20, payload := 16 } 1 s) ∧
    (∃ s, (pings (twoClients id) { size := 20, payload := 16 }).Reachable s ∧
      Lost (twoClients id) { size := 20, payload := 16 } 1 s) := by
  constructor
  · refine ⟨(pings (twoClients fun _ => 0) { size := 20, payload := 16 }).run
      { peers := fun _ => 0 }
      [.advance 0, .advance 0, .advance 0, .advance 1, .advance 1, .advance 1, .timeout 0,
        .advance 0, .advance 0, .advance 0,
        .receive .video (some { address := 0, bytes := legacyPing }),
        .populate, .populate, .populate, .populate, .populate, .populate],
      System.Segment.of_follows .refl ?_, ⟨rfl, .inr ⟨rfl, rfl⟩⟩, ?_, rfl, rfl, rfl⟩
    · decide
    · intro other hother
      rcases other with _ | _ | other
      · decide
      · exact absurd rfl hother
      · exact nofun
  · refine ⟨(pings (twoClients id) { size := 20, payload := 16 }).run
      { peers := fun waiter => waiter }
      [.advance 0, .advance 0, .advance 0, .advance 1, .advance 1, .advance 1,
        .receive .video (some { address := 1, bytes := List.replicate 20 0 }),
        .populate, .populate, .populate, .populate, .deliver, .pop 0,
        .advance 0, .advance 0, .advance 0,
        .receive .video (some { address := 1, bytes := legacyPing }), .populate, .populate],
      System.Segment.of_follows .refl ?_, ⟨rfl, .inr ⟨rfl, rfl⟩⟩, ?_, rfl, rfl, rfl⟩
    · decide
    · intro other hother
      rcases other with _ | _ | other
      · decide
      · exact absurd rfl hother
      · exact nofun

end Vibeshine.StreamSession.PingRouting
