import Vibeshine.Library.System
import Mathlib.Data.Finset.Basic
import Mathlib.Data.Prod.Lex

/-! # Contacts and the geometry of the capture

The transport of `input_geometry_policy` between a touch screen or a pen and the desktop.
Each contact is a machine of its own, which a change of the geometry puts into quarantine;
the transport runs one such machine for every touch id and one for the pen.
-/

namespace Vibeshine.Input.Geometry

open Library (System)

inductive ContactEvent where
  | hover | down | move | up | cancel | cancelAll | other
  deriving DecidableEq

inductive ContactResult where
  | accept | suppress
  deriving DecidableEq

inductive SnapshotResult where
  | initial | updated | unchanged | stale
  deriving DecidableEq

/-- What is remembered of one contact. -/
structure Contact where
  active : Bool := false
  quarantined : Bool := false
  deriving DecidableEq

namespace Contact

variable (contact : Contact)

def change : Contact :=
  { active := false, quarantined := contact.quarantined || contact.active }

def handle (event : ContactEvent) (mappingValid : Bool) : ContactResult × Contact :=
  let judged (accepted : Bool) : ContactResult := if accepted then .accept else .suppress
  match event with
  | .cancelAll => (.accept, {})
  | .down => if mappingValid then (.accept, { active := true }) else (.suppress, contact)
  | .move => (judged (mappingValid && contact.active && !contact.quarantined), contact)
  | .up | .cancel =>
    if contact.quarantined then (.suppress, { contact with quarantined := false })
    else (judged mappingValid, { contact with active := false })
  | .hover | .other => (judged (mappingValid && !contact.quarantined), contact)

def Separate : Prop := ¬(contact.active = true ∧ contact.quarantined = true)

lemma Separate.change (contact : Contact) : contact.change.Separate := by
  rintro ⟨hactive, -⟩
  cases hactive

lemma Separate.handle {contact : Contact} (h : contact.Separate) (event : ContactEvent)
    (mappingValid : Bool) : (contact.handle event mappingValid).2.Separate := by
  obtain ⟨active, quarantined⟩ := contact
  revert h
  unfold Separate
  cases event <;> cases mappingValid <;> cases active <;> cases quarantined <;> decide

end Contact

/-! ## The transport -/

/-- `input_geometry_snapshot_t`. -/
structure Snapshot (τ : Type) where
  captureGeneration : Nat := 0
  geometrySequence : Nat := 0
  valid : Bool := true
  target : τ
  offsetX : Int := 0
  offsetY : Int := 0
  desktopWidth : Int := 0
  desktopHeight : Int := 0

def Snapshot.version {τ : Type} (snapshot : Snapshot τ) : Nat ×ₗ Nat :=
  toLex (snapshot.captureGeneration, snapshot.geometrySequence)

/-- The port of an input context; `stream` is what only a port event sets. -/
structure Port (τ ρ : Type) where
  offsetX : Int := 0
  offsetY : Int := 0
  envWidth : Int := 0
  envHeight : Int := 0
  captureGeneration : Nat := 0
  geometrySequence : Nat := 0
  geometryValid : Bool := true
  geometryTarget : τ
  stream : ρ

section

variable {τ ρ : Type}

def applySnapshotToPort (port : Port τ ρ) (snapshot : Snapshot τ) : Port τ ρ :=
  let port := if snapshot.valid then
      { port with
        offsetX := snapshot.offsetX
        offsetY := snapshot.offsetY
        envWidth := snapshot.desktopWidth
        envHeight := snapshot.desktopHeight }
    else port
  { port with
    captureGeneration := snapshot.captureGeneration
    geometrySequence := snapshot.geometrySequence
    geometryValid := snapshot.valid
    geometryTarget := snapshot.target }

/-- `transport_t`; there is no current snapshot before the first. -/
structure Transport (τ : Type) where
  current : Option (Snapshot τ) := none
  activeTouches : Finset UInt32 := ∅
  quarantinedTouches : Finset UInt32 := ∅
  penActive : Bool := false
  penQuarantined : Bool := false

/-- What a refresh leaves, and the ports that `cancel_old_contacts` was invoked with. -/
structure Refreshed (τ ρ : Type) where
  result : SnapshotResult
  transport : Transport τ
  port : Port τ ρ
  cancelled : List (Port τ ρ) := []

namespace Transport

def refresh (t : Transport τ) (snapshot : Snapshot τ) (port : Port τ ρ) : Refreshed τ ρ :=
  match t.current with
  | none =>
    { result := .initial
      transport := { t with current := some snapshot }
      port := applySnapshotToPort port snapshot }
  | some current =>
    if snapshot.captureGeneration < current.captureGeneration ||
        (snapshot.captureGeneration == current.captureGeneration &&
          snapshot.geometrySequence < current.geometrySequence) then
      { result := .stale, transport := t, port := port }
    else if snapshot.captureGeneration == current.captureGeneration &&
        snapshot.geometrySequence == current.geometrySequence then
      { result := .unchanged, transport := t, port := port }
    else
      { result := .updated
        transport :=
          { current := some snapshot
            activeTouches := ∅
            quarantinedTouches := t.quarantinedTouches ∪ t.activeTouches
            penActive := false
            penQuarantined := t.penQuarantined || t.penActive }
        port := applySnapshotToPort port snapshot
        cancelled := [port] }

def refreshFromEvent (t : Transport τ) (snapshot : Snapshot τ) (port eventPort : Port τ ρ) :
    Refreshed τ ρ :=
  let refreshed := t.refresh snapshot port
  if refreshed.result = .stale then refreshed
  else
    let acceptedSnapshot := if refreshed.result = .unchanged then t.current.getD snapshot
      else snapshot
    { refreshed with
      port := applySnapshotToPort
        { eventPort with
          offsetX := refreshed.port.offsetX
          offsetY := refreshed.port.offsetY
          envWidth := refreshed.port.envWidth
          envHeight := refreshed.port.envHeight }
        acceptedSnapshot }

def touch (t : Transport τ) (event : ContactEvent) (pointerId : UInt32) (mappingValid : Bool) :
    ContactResult × Transport τ :=
  match event with
  | .cancelAll => (.accept, { t with activeTouches := ∅, quarantinedTouches := ∅ })
  | .down =>
    if !mappingValid then (.suppress, t)
    else
      (.accept,
        { t with
          quarantinedTouches := t.quarantinedTouches.erase pointerId
          activeTouches := insert pointerId t.activeTouches })
  | .move =>
    (if mappingValid && pointerId ∈ t.activeTouches && pointerId ∉ t.quarantinedTouches then
      .accept else .suppress, t)
  | .up | .cancel =>
    if pointerId ∈ t.quarantinedTouches then
      (.suppress, { t with quarantinedTouches := t.quarantinedTouches.erase pointerId })
    else
      (if mappingValid then .accept else .suppress,
        { t with activeTouches := t.activeTouches.erase pointerId })
  | .hover | .other =>
    (if mappingValid && pointerId ∉ t.quarantinedTouches then .accept else .suppress, t)

def pen (t : Transport τ) (event : ContactEvent) (mappingValid : Bool) :
    ContactResult × Transport τ :=
  match event with
  | .cancelAll => (.accept, { t with penActive := false, penQuarantined := false })
  | .down =>
    if !mappingValid then (.suppress, t)
    else (.accept, { t with penQuarantined := false, penActive := true })
  | .move =>
    (if mappingValid && t.penActive && !t.penQuarantined then .accept else .suppress, t)
  | .up | .cancel =>
    if t.penQuarantined then
      (.suppress, { t with penQuarantined := false, penActive := false })
    else (if mappingValid then .accept else .suppress, { t with penActive := false })
  | .hover | .other =>
    (if mappingValid && !t.penQuarantined then .accept else .suppress, t)

end Transport

end

/-! ## Runs of the transport -/

inductive Call (τ ρ : Type) where
  | refresh (snapshot : Snapshot τ)
  | refreshFromEvent (snapshot : Snapshot τ) (eventPort : Port τ ρ)
  | touch (event : ContactEvent) (pointerId : UInt32) (mappingValid : Bool)
  | pen (event : ContactEvent) (mappingValid : Bool)

inductive Key where
  | touch (pointerId : UInt32)
  | pen
  deriving DecidableEq

inductive Entry where
  | snapshot (result : SnapshotResult) (version : Nat ×ₗ Nat)
  | touch (event : ContactEvent) (pointerId : UInt32) (result : ContactResult)
  | pen (event : ContactEvent) (result : ContactResult)

structure State (τ ρ : Type) where
  transport : Transport τ
  port : Port τ ρ
  /-- How often `cancel_old_contacts` was invoked. -/
  cancels : Nat := 0
  /-- What the calls did, the latest first. -/
  history : List Entry := []

section

variable {τ ρ : Type}

def State.refreshed (s : State τ ρ) (snapshot : Snapshot τ) (refreshed : Refreshed τ ρ) :
    State τ ρ where
  transport := refreshed.transport
  port := refreshed.port
  cancels := s.cancels + refreshed.cancelled.length
  history := .snapshot refreshed.result snapshot.version :: s.history

def State.step (s : State τ ρ) : Call τ ρ → State τ ρ
  | .refresh snapshot => s.refreshed snapshot (s.transport.refresh snapshot s.port)
  | .refreshFromEvent snapshot eventPort =>
    s.refreshed snapshot (s.transport.refreshFromEvent snapshot s.port eventPort)
  | .touch event pointerId mappingValid =>
    let handled := s.transport.touch event pointerId mappingValid
    { s with transport := handled.2, history := .touch event pointerId handled.1 :: s.history }
  | .pen event mappingValid =>
    let handled := s.transport.pen event mappingValid
    { s with transport := handled.2, history := .pen event handled.1 :: s.history }

def geometrySystem (port : Port τ ρ) : System (State τ ρ) (Call τ ρ) where
  init := { transport := {}, port := port }
  admits _ _ := True
  step := State.step

def Transport.contact (t : Transport τ) : Key → Contact
  | .touch pointerId =>
    { active := pointerId ∈ t.activeTouches, quarantined := pointerId ∈ t.quarantinedTouches }
  | .pen => { active := t.penActive, quarantined := t.penQuarantined }

def Transport.handle (t : Transport τ) (key : Key) (event : ContactEvent) (mappingValid : Bool) :
    ContactResult × Transport τ :=
  match key with
  | .touch pointerId => t.touch event pointerId mappingValid
  | .pen => t.pen event mappingValid

def Call.eventFor (key : Key) : Call τ ρ → Option (ContactEvent × Bool)
  | .touch event pointerId mappingValid =>
    match key with
    | .touch own => if own = pointerId ∨ event = .cancelAll then some (event, mappingValid) else none
    | .pen => none
  | .pen event mappingValid =>
    match key with
    | .touch _ => none
    | .pen => some (event, mappingValid)
  | _ => none

end

namespace Entry

def eventFor (key : Key) : Entry → Option (ContactEvent × ContactResult)
  | .touch event pointerId result =>
    match key with
    | .touch own => if own = pointerId ∨ event = .cancelAll then some (event, result) else none
    | .pen => none
  | .pen event result =>
    match key with
    | .touch _ => none
    | .pen => some (event, result)
  | .snapshot _ _ => none

def accepted? : Entry → Option (Nat ×ₗ Nat)
  | .snapshot .initial version | .snapshot .updated version => some version
  | _ => none

def Changes (entry : Entry) : Prop := ∃ version, entry = .snapshot .updated version

def Ends (key : Key) (entry : Entry) : Prop :=
  ∃ event result, entry.eventFor key = some (event, result) ∧
    (event = .up ∨ event = .cancel ∨ event = .cancelAll)

end Entry

def acceptedVersions (history : List Entry) : List (Nat ×ₗ Nat) := history.filterMap Entry.accepted?

/-- The last accepted down of a contact was not followed by its end, and by no entry that
interrupts all contacts. -/
def Stands (interrupts : Entry → Prop) (key : Key) (history : List Entry) : Prop :=
  ∃ later down earlier, history = later ++ down :: earlier ∧
    down.eventFor key = some (.down, .accept) ∧
    ∀ entry ∈ later, entry.eventFor key ≠ some (.down, .accept) ∧ ¬entry.Ends key ∧
      ¬interrupts entry

lemma Stands.cons {interrupts : Entry → Prop} {key : Key} {history : List Entry} {entry : Entry}
    (h : Stands interrupts key history) (hdown : entry.eventFor key ≠ some (.down, .accept))
    (hends : ¬entry.Ends key) (hinterrupts : ¬interrupts entry) :
    Stands interrupts key (entry :: history) := by
  obtain ⟨later, down, earlier, rfl, hstart, hlater⟩ := h
  refine ⟨entry :: later, down, earlier, rfl, hstart, fun other hmem => ?_⟩
  obtain rfl | hmem := List.mem_cons.mp hmem
  · exact ⟨hdown, hends, hinterrupts⟩
  · exact hlater other hmem

/-! ## The transport runs the machines of its contacts -/

section

variable {τ ρ : Type} {t : Transport τ}

lemma Transport.handle_contact {key : Key} (h : (t.contact key).Separate) (event : ContactEvent)
    (mappingValid : Bool) :
    (t.handle key event mappingValid).1 = ((t.contact key).handle event mappingValid).1 ∧
      (t.handle key event mappingValid).2.contact key =
        ((t.contact key).handle event mappingValid).2 := by
  cases key with
  | touch pointerId =>
    by_cases hactive : pointerId ∈ t.activeTouches <;>
      by_cases hquar : pointerId ∈ t.quarantinedTouches <;>
        cases event <;> cases mappingValid <;>
          simp [Transport.handle, Transport.touch, Transport.contact, Contact.handle, hactive,
            hquar]
  | pen =>
    unfold Contact.Separate at h
    revert h
    cases hactive : t.penActive <;> cases hquar : t.penQuarantined <;>
      cases event <;> cases mappingValid <;>
        simp [Transport.handle, Transport.pen, Transport.contact, Contact.handle, hactive,
          hquar]

lemma Transport.touch_other {key : Key} {pointerId : UInt32} (hkey : key ≠ .touch pointerId)
    {event : ContactEvent} (hevent : event ≠ .cancelAll) (mappingValid : Bool) :
    (t.touch event pointerId mappingValid).2.contact key = t.contact key := by
  cases key with
  | pen => cases event <;> simp only [Transport.touch] <;> (try split) <;> rfl
  | touch own =>
    have hne : own ≠ pointerId := fun heq => hkey (heq ▸ rfl)
    by_cases hquar : pointerId ∈ t.quarantinedTouches <;>
      cases event <;> cases mappingValid <;>
        simp_all [Transport.touch, Transport.contact]

lemma Transport.touch_cancelAll (pointerId other : UInt32) (mappingValid : Bool) :
    (t.touch .cancelAll pointerId mappingValid).2.contact (.touch other) = {} := by
  simp [Transport.touch, Transport.contact]

lemma Transport.pen_other (pointerId : UInt32) (event : ContactEvent) (mappingValid : Bool) :
    (t.pen event mappingValid).2.contact (.touch pointerId) = t.contact (.touch pointerId) := by
  cases event <;> simp only [Transport.pen] <;> (try split) <;> rfl

/-! ### Refreshes -/

lemma Transport.refresh_cases (t : Transport τ) (snapshot : Snapshot τ) (port : Port τ ρ) :
    (t.current = none ∧ (t.refresh snapshot port).result = .initial ∧
      (t.refresh snapshot port).transport = { t with current := some snapshot } ∧
      (t.refresh snapshot port).cancelled = []) ∨
    (∃ current, t.current = some current ∧ current.version < snapshot.version ∧
      (t.refresh snapshot port).result = .updated ∧
      (t.refresh snapshot port).transport.current = some snapshot ∧
      (∀ key, (t.refresh snapshot port).transport.contact key = (t.contact key).change) ∧
      (t.refresh snapshot port).cancelled = [port]) ∨
    (((t.refresh snapshot port).result = .unchanged ∨ (t.refresh snapshot port).result = .stale) ∧
      (t.refresh snapshot port).transport = t ∧ (t.refresh snapshot port).cancelled = []) := by
  cases hcur : t.current with
  | none => exact .inl (by simp [Transport.refresh, hcur])
  | some current =>
    simp only [Transport.refresh, hcur, Bool.or_eq_true, Bool.and_eq_true, decide_eq_true_eq,
      beq_iff_eq]
    by_cases hstale : snapshot.captureGeneration < current.captureGeneration ∨
        snapshot.captureGeneration = current.captureGeneration ∧
          snapshot.geometrySequence < current.geometrySequence
    · rw [if_pos hstale]
      exact .inr (.inr ⟨.inr rfl, rfl, rfl⟩)
    rw [if_neg hstale]
    by_cases hsame : snapshot.captureGeneration = current.captureGeneration ∧
        snapshot.geometrySequence = current.geometrySequence
    · rw [if_pos hsame]
      exact .inr (.inr ⟨.inl rfl, rfl, rfl⟩)
    rw [if_neg hsame]
    refine .inr (.inl ⟨current, rfl, ?_, rfl, rfl, fun key => ?_, rfl⟩)
    · rw [Snapshot.version, Snapshot.version, Prod.Lex.toLex_lt_toLex]
      dsimp only
      omega
    · cases key with
      | touch pointerId => simp [Transport.contact, Contact.change]
      | pen => rfl

lemma Transport.refreshFromEvent_refresh (t : Transport τ) (snapshot : Snapshot τ)
    (port eventPort : Port τ ρ) :
    (t.refreshFromEvent snapshot port eventPort).result = (t.refresh snapshot port).result ∧
      (t.refreshFromEvent snapshot port eventPort).transport = (t.refresh snapshot port).transport ∧
      (t.refreshFromEvent snapshot port eventPort).cancelled =
        (t.refresh snapshot port).cancelled := by
  unfold Transport.refreshFromEvent
  dsimp only
  split
  · exact ⟨rfl, rfl, rfl⟩
  · exact ⟨rfl, rfl, rfl⟩

end

end Vibeshine.Input.Geometry
