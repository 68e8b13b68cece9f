import Vibeshine.Input.Keyboard

/-! # Who holds which key

The table of host keys counts, for each key of the host, the entries of all clients that
are mapped to it. The host sees a key down while its count is not zero, and each release
with the code and flags of the press it ends.
-/

namespace Vibeshine.Input.Keyboard

open Library List State

/-! ## One key of the host -/

/-- What the host has seen of a key, last event first, leaving out injected modifiers:
whether it is a release, its code and its flags. -/
def eventsOf (code : Nat) (events : List Event) : List (Bool × Nat × Nat) :=
  (events.filter fun event => !event.synthetic && hostKeycode event.key = code).map
    fun event => (event.release, event.key, event.flags)

/-- A press follows nothing, a release, or the same press; a release follows the press
that has its code and flags. -/
def Matched : List (Bool × Nat × Nat) → Prop
  | [] => True
  | (release, key) :: earlier =>
    (if release then earlier.head? = some (false, key)
      else ∀ last ∈ earlier.head?, last.1 = true ∨ last = (false, key)) ∧ Matched earlier

/-- The entry of a key agrees with the number of its holders and with what the host has
seen of it. -/
structure Tracked (code : Nat) (host : Option HostKey) (holders : Nat)
    (events : List (Bool × Nat × Nat)) : Prop where
  owners : (host.elim 0 HostKey.owners) = holders
  positive : ∀ entry ∈ host, 0 < entry.owners
  code : ∀ entry ∈ host, hostKeycode entry.key = code
  down : ∀ entry ∈ host, events.head? = some (false, entry.key, entry.flags)
  up : host = none → ∀ last ∈ events.head?, last.1 = true
  matched : Matched events

section

variable {code holders : Nat} {events : List (Bool × Nat × Nat)}

lemma Tracked.initial (code : Nat) : Tracked code none 0 [] := by
  constructor <;> simp [Matched]

lemma Tracked.press (h : Tracked code none holders events) {key : Nat}
    (hkey : hostKeycode key = code) (flags : Nat) :
    Tracked code (some ⟨1, key, flags⟩) (holders + 1) ((false, key, flags) :: events) where
  owners := congrArg (· + 1) h.owners
  positive := by simp
  code := by simpa using hkey
  down := by simp
  up := by simp
  matched := ⟨fun last hlast => .inl (h.up rfl last hlast), h.matched⟩

variable {host : HostKey}

lemma Tracked.share (h : Tracked code (some host) holders events) :
    Tracked code (some { host with owners := host.owners + 1 }) (holders + 1) events where
  owners := congrArg (· + 1) h.owners
  positive := by simp
  code := by simpa using h.code
  down := by simpa using h.down
  up := by simp
  matched := h.matched

lemma Tracked.unshare (h : Tracked code (some host) (holders + 1) events)
    (hmore : host.owners - 1 ≠ 0) :
    Tracked code (some { host with owners := host.owners - 1 }) holders events where
  owners := Nat.sub_eq_of_eq_add h.owners
  positive := by simpa using Nat.pos_of_ne_zero hmore
  code := by simpa using h.code
  down := by simpa using h.down
  up := by simp
  matched := h.matched

lemma Tracked.release (h : Tracked code (some host) (holders + 1) events)
    (hlast : host.owners - 1 = 0) :
    Tracked code none holders ((true, host.key, host.flags) :: events) where
  owners := by
    have howners : host.owners = holders + 1 := h.owners
    simp only [Option.elim_none]
    omega
  positive := by simp
  code := by simp
  down := by simp
  up := by simp
  matched := ⟨by simpa using h.down, h.matched⟩

lemma Tracked.repeat (h : Tracked code (some host) holders events) :
    Tracked code (some host) holders ((false, host.key, host.flags) :: events) where
  owners := h.owners
  positive := h.positive
  code := h.code
  down := by simp
  up := by simp
  matched := by
    refine ⟨?_, h.matched⟩
    rw [h.down host rfl]
    simp

end

/-! ## The calls of one send -/

def Modifier.event (flags : Nat) (release : Bool) (modifier : Modifier) : Event :=
  { key := modifier.generic, release, flags, synthetic := true }

variable (injected : List Modifier)

/-- The calls of one `send_key_and_modifiers`, last one first: the injected modifiers go
down, then the key, and then they go up again. -/
def call (key : HeldKey) : List Event :=
  (injected.map (Modifier.event key.flags true)).reverse ++
    { key := key.hostKey, release := false, flags := key.flags } ::
      (injected.map (Modifier.event key.flags false)).reverse

inductive Balanced : List Event → Prop where
  | nil : Balanced []
  | release {events : List Event} (key flags : Nat) (h : Balanced events) :
      Balanced ({ key, release := true, flags } :: events)
  | send {events : List Event} (injected : List Modifier) (key : HeldKey) (h : Balanced events) :
      Balanced (call injected key ++ events)

lemma eventsOf_append (code : Nat) (first second : List Event) :
    eventsOf code (first ++ second) = eventsOf code first ++ eventsOf code second := by
  simp [eventsOf]

lemma eventsOf_synthetic (code : Nat) {events : List Event}
    (h : ∀ event ∈ events, event.synthetic = true) : eventsOf code events = [] := by
  simp only [eventsOf, map_eq_nil_iff, filter_eq_nil_iff]
  intro event hevent
  simp [h event hevent]

lemma eventsOf_call (code : Nat) (injected : List Modifier) (key : HeldKey) :
    eventsOf code (call injected key) =
      if hostKeycode key.hostKey = code then [(false, key.hostKey, key.flags)] else [] := by
  have hsynthetic : ∀ release, ∀ event ∈ (injected.map (Modifier.event key.flags release)).reverse,
      event.synthetic = true := by
    intro release event hevent
    obtain ⟨modifier, -, rfl⟩ := mem_map.mp (mem_reverse.mp hevent)
    rfl
  rw [call, ← singleton_append, eventsOf_append, eventsOf_append,
    eventsOf_synthetic code (hsynthetic true), eventsOf_synthetic code (hsynthetic false)]
  by_cases hcode : hostKeycode key.hostKey = code <;> simp [eventsOf, hcode]

variable {ι : Type} {state : State ι}

lemma State.inject_foldl (flags : Nat) (release : Bool) (injected : List Modifier)
    (state : State ι) (hfree : ∀ modifier ∈ injected, state.holdsModifier modifier = false) :
    injected.foldl (fun state => state.injectUpdate flags release) state = { state with
        hostEvents := (injected.map (Modifier.event flags release)).reverse ++ state.hostEvents } := by
  induction injected generalizing state with
  | nil => rfl
  | cons modifier injected ih =>
    have hhead := hfree modifier (by simp)
    rw [foldl_cons, ih (state.injectUpdate flags release modifier) fun other hother =>
      hfree other (.tail _ hother)]
    simp [injectUpdate, Modifier.event, hhead]

lemma State.sendKeyAndModifiers_eq (state : State ι) (key : HeldKey) (shortcutFlags : Nat) :
    ∃ injected : List Modifier, (∀ modifier ∈ injected, state.holdsModifier modifier = false) ∧
        state.sendKeyAndModifiers key shortcutFlags =
          { state with hostEvents := call injected key ++ state.hostEvents } := by
  refine ⟨modifiers.filter (state.injects key shortcutFlags), ?_, ?_⟩
  · intro modifier hmodifier
    have hinjects := (mem_filter.mp hmodifier).2
    simp only [injects, decide_eq_true_eq] at hinjects
    simp [holdsModifier, hinjects.2.2]
  · have hfree : ∀ modifier ∈ modifiers.filter (state.injects key shortcutFlags),
        state.holdsModifier modifier = false := by
      intro modifier hmodifier
      have hinjects := (mem_filter.mp hmodifier).2
      simp only [injects, decide_eq_true_eq] at hinjects
      simp [holdsModifier, hinjects.2.2]
    unfold sendKeyAndModifiers
    dsimp only
    rw [inject_foldl _ _ _ state hfree, inject_foldl]
    · simp [keyboardUpdate, call]
    · exact hfree

/-! ## All keys of the host -/

/-- The table and the host's events agree with a number of holders for each key, and the
injected modifiers stay within their calls. -/
structure Tracks (state : State ι) (holders : Nat → Nat) : Prop where
  tracked : ∀ code, Tracked code (state.hostKeys code) (holders code)
    (eventsOf code state.hostEvents)
  balanced : Balanced state.hostEvents
  unshadowed : ∀ event ∈ state.hostEvents, event.shadowed = false

lemma Tracks.congr {holders : Nat → Nat} {next : State ι} (h : Tracks state holders)
    (hkeys : next.hostKeys = state.hostKeys) (hevents : next.hostEvents = state.hostEvents) :
    Tracks next holders := by
  constructor
  · rw [hkeys, hevents]
    exact h.tracked
  · rw [hevents]
    exact h.balanced
  · rw [hevents]
    exact h.unshadowed

def one (code other : Nat) : Nat := if other = code then 1 else 0

lemma call_unshadowed (key : HeldKey) : ∀ event ∈ call injected key, event.shadowed = false := by
  intro event hevent
  simp only [call, mem_append, mem_reverse, mem_map, mem_cons] at hevent
  rcases hevent with ⟨_, -, rfl⟩ | rfl | ⟨_, -, rfl⟩ <;> rfl

lemma Tracks.send {holders : Nat → Nat} (table : State ι) (key : HeldKey) (shortcutFlags : Nat)
    (hevents : table.hostEvents = state.hostEvents) (h : Tracks state holders)
    {holders' : Nat → Nat} (htracked : ∀ code, Tracked code (table.hostKeys code) (holders' code)
      ((if hostKeycode key.hostKey = code then [(false, key.hostKey, key.flags)] else []) ++
        eventsOf code state.hostEvents)) :
    Tracks (table.sendKeyAndModifiers key shortcutFlags) holders' := by
  obtain ⟨injected, -, hsend⟩ := table.sendKeyAndModifiers_eq key shortcutFlags
  rw [hsend]
  constructor
  · intro code
    simp only [eventsOf_append, eventsOf_call, hevents]
    exact htracked code
  · simp only [hevents]
    exact .send injected key h.balanced
  · simp only [hevents]
    intro event hevent
    rcases mem_append.mp hevent with hnew | hold
    · exact call_unshadowed injected key event hnew
    · exact h.unshadowed event hold

lemma Tracks.releaseKey {holders : Nat → Nat} (key : HeldKey)
    (h : Tracks state fun code => holders code + one (hostKeycode key.hostKey) code) :
    Tracks (state.releaseKey key) holders := by
  have hkey := h.tracked (hostKeycode key.hostKey)
  have hother : ∀ code, code ≠ hostKeycode key.hostKey → Tracked code (state.hostKeys code)
      (holders code) (eventsOf code state.hostEvents) := by
    intro code hne
    simpa [one, hne] using h.tracked code
  simp only [one, if_true] at hkey
  unfold State.releaseKey
  dsimp only
  cases hhost : state.hostKeys (hostKeycode key.hostKey) with
  | none =>
    rw [hhost] at hkey
    simpa using hkey.owners
  | some host =>
    rw [hhost] at hkey
    have hcode := hkey.code host rfl
    dsimp only
    split_ifs with hlast
    · refine ⟨fun code => ?_, .release _ _ h.balanced, ?_⟩
      · by_cases hsame : code = hostKeycode key.hostKey
        · subst hsame
          simpa [setHostKey, keyboardUpdate, eventsOf, hcode] using hkey.release hlast
        · simpa [setHostKey, keyboardUpdate, eventsOf, hcode, hsame, Ne.symm hsame]
            using hother code hsame
      · intro event hevent
        rcases mem_cons.mp hevent with rfl | hold
        · rfl
        · exact h.unshadowed event hold
    · refine ⟨fun code => ?_, h.balanced, h.unshadowed⟩
      by_cases hsame : code = hostKeycode key.hostKey
      · subst hsame
        simpa [setHostKey] using hkey.unshare hlast
      · simpa [setHostKey, hsame] using hother code hsame

def holdersOf (entries : List (Nat × HeldKey)) (code : Nat) : Nat :=
  entries.countP fun entry => hostKeycode entry.2.hostKey = code

lemma holdersOf_cons (entry : Nat × HeldKey) (entries : List (Nat × HeldKey)) (code : Nat) :
    holdersOf (entry :: entries) code =
      holdersOf entries code + one (hostKeycode entry.2.hostKey) code := by
  simp [holdersOf, countP_cons, one, eq_comm]

lemma Tracks.releaseKeys {holders : Nat → Nat} (order : List (Nat × HeldKey))
    (h : Tracks state fun code => holders code + holdersOf order code) :
    Tracks (order.foldl (fun state entry => state.releaseKey entry.2) state) holders := by
  induction order generalizing state with
  | nil => exact h
  | cons entry order ih =>
    refine ih (Tracks.releaseKey entry.2 ?_)
    simpa only [holdersOf_cons, Nat.add_assoc] using h

/-! ## The holders of all clients -/

def Client.holders (client : Client) (code : Nat) : Nat := holdersOf client.keys code

variable [DecidableEq ι] [Fintype ι]

def State.holders (state : State ι) (code : Nat) : Nat :=
  ∑ client, (state.clients client).holders code

def State.besides (state : State ι) (client : ι) (code : Nat) : Nat :=
  ∑ other ∈ Finset.univ.erase client, (state.clients other).holders code

lemma State.holders_eq (state : State ι) (client : ι) (code : Nat) :
    state.holders code = state.besides client code + (state.clients client).holders code := by
  rw [holders, besides, Finset.sum_erase_add _ _ (Finset.mem_univ client)]

lemma State.besides_congr {next : State ι} {client : ι}
    (h : ∀ other ≠ client, (next.clients other).keys = (state.clients other).keys) (code : Nat) :
    next.besides client code = state.besides client code := by
  refine Finset.sum_congr rfl fun other hother => ?_
  rw [Client.holders, Client.holders, h other (Finset.ne_of_mem_erase hother)]

/-- What holds between two tasks of the worker. -/
structure Invariant (state : State ι) : Prop where
  tracks : Tracks state state.holders
  unique : ∀ client, ((state.clients client).keys.map Prod.fst).Nodup
  timed : Handles (fun timer : ι × Nat => timer.1) state.timers state.pushes
    fun client => (state.clients client).keyPressRepeatId
  gone : ∀ client, (state.clients client).closed = true →
    (state.clients client).keys = [] ∧ (state.clients client).keyPressRepeatId = none

omit [DecidableEq ι] in
lemma Invariant.initial : Invariant ({} : State ι) where
  tracks := by
    refine ⟨fun code => ?_, .nil, by simp⟩
    have hnone : holders ({} : State ι) code = 0 := by
      simp [holders, Client.holders, holdersOf]
    rw [hnone]
    exact Tracked.initial code
  unique := by simp
  timed := Handles.initial _
  gone := by simp

lemma Invariant.lookup (h : Invariant state) {client : ι} {code : Nat} {held : HeldKey}
    (hheld : (state.clients client).find? code = some held) :
    ∃ host, state.hostKeys (hostKeycode held.hostKey) = some host := by
  have hmem : ∃ entry ∈ (state.clients client).keys, entry.2 = held := by
    simp only [Client.find?, Option.map_eq_some_iff] at hheld
    obtain ⟨entry, hfind, hentry⟩ := hheld
    exact ⟨entry, mem_of_find?_eq_some hfind, hentry⟩
  obtain ⟨entry, hentry, rfl⟩ := hmem
  have hcount : 0 < (state.clients client).holders (hostKeycode entry.2.hostKey) :=
    countP_pos_iff.mpr ⟨entry, hentry, by simp⟩
  have howners := (h.tracks.tracked (hostKeycode entry.2.hostKey)).owners
  rw [state.holders_eq client] at howners
  cases hhost : state.hostKeys (hostKeycode entry.2.hostKey) with
  | none =>
    rw [hhost, Option.elim_none] at howners
    omega
  | some host => exact ⟨host, rfl⟩

end Vibeshine.Input.Keyboard
