import Vibeshine.Library.System

/-! # The lease registry of exact display targets

`display_target::registry_t`: existing outputs are borrowed, never configured,
and a borrowed output excludes display mutations. An acquisition is admitted
under the lock, probes the output without it, and publishes its hold under the
lock again; every locked section and every destructor is one step, so steps of
any number of threads interleave freely.

Holds, mutations, and in-flight calls are objects of their threads. They are
listed here next to the members of the registry and of its barrier, and what
callers observe is recorded in `log`, newest first.
-/

namespace Vibeshine.TargetLease

inductive Platform where
  | linuxDrm | windowsDevice
  deriving DecidableEq

inductive Kind where
  | physical | sharedVirtual
  deriving DecidableEq

structure Descriptor where
  platform : Platform := .linuxDrm
  kind : Kind := .physical
  exactId : String := ""
  deriving DecidableEq

structure Mode where
  width : Int := 0
  height : Int := 0
  refreshMillihz : Nat := 0
  hdr : Bool := false
  deriving DecidableEq

/-- What the native probe reports; the runtime hold it carries is not read. -/
structure Observation where
  target : Descriptor
  mode : Mode
  captureOutput : String

/-- The members a hold receives when it is published first. -/
structure Binding where
  target : Descriptor := {}
  mode : Mode := {}
  output : String := ""
  deriving DecidableEq

structure Owner where
  generation : Nat
  hold : Nat

/-- An acquisition between its two locked sections. `previous` says that it
shares the hold of the owner it found. -/
structure Admission where
  client : String
  generation : Nat
  target : Descriptor
  mode : Mode
  hold : Nat
  previous : Bool

inductive Event where
  /-- `acquire` was called, with a usable identity and mode or not. -/
  | presented (client : String) (generation : Nat) (wellFormed : Bool)
  /-- `acquire` published an owner and returned its hold. -/
  | acquired (client : String) (generation : Nat)
  | revoked (client : String)
  | shutdown
  /-- `release_monitor` returned true. -/
  | released (client : String) (generation : Nat)
  deriving DecidableEq

structure Registry where
  -- `barrier_t`
  borrowers : Nat := 0
  mutations : Nat := 0
  uncertain : Bool := false
  permanentFence : Bool := false
  mutationOwner : Option Nat := none
  -- `registry_t`
  owners : String → Option Owner := fun _ => none
  observed : String → Nat := fun _ => 0
  released : String → Option Nat := fun _ => none
  closed : Bool := false
  -- objects of the calling threads
  bindings : Nat → Binding := fun _ => {}
  nextHold : Nat := 0
  liveHolds : List Nat := []
  liveMutations : List Nat := []
  admissions : List Admission := []
  tokens : List Nat := []
  delegated : List (String × Nat) := []
  log : List Event := []

def wellFormed (client : String) (generation : Nat) (target : Descriptor) (mode : Mode) : Bool :=
  !(client.isEmpty || generation == 0 || target.exactId.isEmpty || mode.width ≤ 0 ||
    mode.height ≤ 0 || mode.refreshMillihz == 0)

variable (r : Registry)

namespace Registry

def record (event : Event) : Registry := { r with log := event :: r.log }

variable (client : String) (generation : Nat)

/-- `released_.contains(client) && generation <= released_[client]`. -/
def isReleased : Bool :=
  (r.released client).any (generation ≤ ·)

/-! ## Acquisition -/

variable (target : Descriptor)

/-- Protection is installed before the native read; repeated acquisitions share
the hold of the published owner. -/
def protect (mode : Mode) : Registry :=
  match r.owners client with
  | some owner =>
    { r with admissions :=
        r.admissions ++ [⟨client, generation, target, mode, owner.hold, true⟩] }
  | none =>
    { r with
      borrowers := r.borrowers + 1
      nextHold := r.nextHold + 1
      liveHolds := r.nextHold :: r.liveHolds
      admissions := r.admissions ++ [⟨client, generation, target, mode, r.nextHold, false⟩] }

/-- The first locked section of `acquire`. -/
def admitRequest (mode : Mode) : Registry :=
  if r.closed then r
  else if !wellFormed client generation target mode then r
  else if generation < r.observed client || r.isReleased client generation then r
  else
    let r := { r with observed := Function.update r.observed client generation }
    if (r.owners client).any fun owner =>
        (r.bindings owner.hold).target != target || (r.bindings owner.hold).mode != mode then r
    else if r.permanentFence || r.mutations != 0 || r.uncertain then r
    else r.protect client generation target mode

/-- `acquire`, up to its probe. -/
def acquire (mode : Mode) : Registry :=
  (r.record (.presented client generation (wellFormed client generation target mode))).admitRequest client
    generation target mode

variable (a : Admission)

def superseded : Bool :=
  r.permanentFence || r.uncertain || r.closed || r.observed a.client != a.generation ||
    r.isReleased a.client a.generation ||
    (r.owners a.client).any fun owner => !(a.previous && owner.hold == a.hold)

def confirms (observation : Observation) : Bool :=
  observation.target == a.target && !observation.captureOutput.isEmpty &&
    observation.mode == a.mode &&
    (!a.previous || (r.bindings a.hold).output == observation.captureOutput)

def install (output : String) : Registry :=
  { r with
    bindings := if a.previous then r.bindings
      else Function.update r.bindings a.hold ⟨a.target, a.mode, output⟩
    owners := Function.update r.owners a.client (some ⟨a.generation, a.hold⟩)
    tokens := a.hold :: r.tokens
    log := .acquired a.client a.generation :: r.log }

variable (observation : Option Observation)

/-- The second locked section of `acquire`. A rejected call drops its reference
to the hold after the lock. -/
def settle : Registry :=
  if r.superseded a then r
  else
    match observation with
    | none => r
    | some observation =>
      if r.confirms a observation then r.install a observation.captureOutput else r

variable (index : Nat)

def publish (observation : Option Observation) : Registry :=
  match r.admissions[index]? with
  | none => r
  | some a => { r with admissions := r.admissions.eraseIdx index }.settle a observation

/-! ## Release, revocation, and shutdown -/

/-- `release`: `none` delegates to the legacy runtime. -/
def release : Option Bool × Registry :=
  match r.owners client with
  | none => (if r.isReleased client generation then some true else none, r)
  | some owner =>
    if generation ≠ owner.generation then (some true, r)
    else
      (some true,
        { r with
          released := Function.update r.released client (some generation)
          owners := Function.update r.owners client none })

/-- `remote_session::release_monitor`, up to its delegation. -/
def releaseMonitor : Registry :=
  match r.release client generation with
  | (some true, r) => r.record (.released client generation)
  | (some false, r) => r
  | (none, r) => { r with delegated := r.delegated ++ [(client, generation)] }

/-- The legacy runtime answered a delegated `release_monitor`. -/
def legacyReturn (result : Bool) : Registry :=
  match r.delegated[index]? with
  | none => r
  | some call =>
    let r := { r with delegated := r.delegated.eraseIdx index }
    if result then r.record (.released call.1 call.2) else r

def revoke : Registry :=
  let released := max ((r.released client).getD 0) (r.observed client)
  let released := match r.owners client with
    | none => released
    | some owner => max released owner.generation
  { r with
    released := Function.update r.released client (some released)
    owners := Function.update r.owners client none
    log := .revoked client :: r.log }

def shutdown (r : Registry) : Registry :=
  { r with
    closed := true
    released := fun client =>
      match r.owners client with
      | none => r.released client
      | some owner => some owner.generation
    owners := fun _ => none
    log := .shutdown :: r.log }

/-- `snapshot` hands out another reference to the hold of a current owner. -/
def snapshot : Registry :=
  match r.owners client with
  | none => r
  | some owner =>
    if owner.generation = generation then { r with tokens := owner.hold :: r.tokens } else r

def beginMutation (thread : Nat) : Registry :=
  if r.permanentFence || r.uncertain || r.borrowers != 0 ||
      (r.mutations != 0 && r.mutationOwner != some thread) then r
  else
    { r with
      mutationOwner := if r.mutations = 0 then some thread else r.mutationOwner
      mutations := r.mutations + 1
      liveMutations := thread :: r.liveMutations }

/-- `~mutation_t`. -/
def endMutation : Registry :=
  let r := { r with liveMutations := r.liveMutations.eraseIdx index }
  if r.mutations = 0 then r
  else
    { r with
      mutations := r.mutations - 1
      mutationOwner := if r.mutations = 1 then none else r.mutationOwner }

def completionUnknown : Registry := { r with uncertain := true }

def fenceUnknownRelease : Registry :=
  { r with permanentFence := true, uncertain := true }

/-- A published owner, an in-flight acquisition, or a token of a caller keeps the
hold alive. -/
def Referenced (hold : Nat) : Prop :=
  (∃ client owner, r.owners client = some owner ∧ owner.hold = hold) ∨
    (∃ a ∈ r.admissions, a.hold = hold) ∨ hold ∈ r.tokens

/-- `~hold_t`. -/
def destroyHold (hold : Nat) : Registry :=
  { r with borrowers := r.borrowers - 1, liveHolds := r.liveHolds.erase hold }

def bindingOf : Option Binding :=
  (r.owners client).map fun owner => r.bindings owner.hold

/-! ## What the locked sections can do -/

lemma admitRequest_cases (mode : Mode) : r.admitRequest client generation target mode = r ∨
      (r.closed = false ∧ wellFormed client generation target mode = true ∧
        r.observed client ≤ generation ∧ r.isReleased client generation = false ∧
        (r.admitRequest client generation target mode =
            { r with observed := Function.update r.observed client generation } ∨
          (r.mutations = 0 ∧ r.admitRequest client generation target mode =
            { r with observed := Function.update r.observed client generation }.protect client
              generation target mode))) := by
  unfold admitRequest
  split
  · exact .inl rfl
  · next hopen =>
    split
    · exact .inl rfl
    · next hformed =>
      split
      · exact .inl rfl
      · next hfresh =>
        right
        simp only [Bool.or_eq_true, decide_eq_true_eq, not_or, Nat.not_lt, Bool.not_eq_true]
          at hopen hfresh
        refine ⟨hopen, by simpa using hformed, hfresh.1, hfresh.2, ?_⟩
        dsimp only
        split
        · exact .inl rfl
        · split
          · exact .inl rfl
          · next hbarrier =>
            simp only [Bool.or_eq_true, bne_iff_ne, not_or, not_not] at hbarrier
            exact .inr ⟨hbarrier.1.2, rfl⟩

lemma admitRequest_noted {client : String} {generation : Nat} {target : Descriptor}
    {mode : Mode} (hopen : r.closed = false)
    (hformed : wellFormed client generation target mode = true) :
    generation ≤ (r.admitRequest client generation target mode).observed client ∨
      r.isReleased client generation = true := by
  unfold admitRequest
  rw [if_neg (by simp [hopen]), if_neg (by simp [hformed])]
  split
  · next hstale =>
    simp only [Bool.or_eq_true, decide_eq_true_eq] at hstale
    exact hstale.imp Nat.le_of_lt id
  · left
    dsimp only
    split
    · simp
    · split
      · simp
      · unfold protect
        split <;> simp

lemma settle_cases : r.settle a observation = r ∨
      (r.superseded a = false ∧ ∃ output, r.settle a observation = r.install a output) := by
  unfold settle
  split
  · exact .inl rfl
  · next hcur =>
    split
    · exact .inl rfl
    · next observed =>
      split
      · exact .inr ⟨by simpa using hcur, observed.captureOutput, rfl⟩
      · exact .inl rfl

lemma superseded_eq_false {r : Registry} {a : Admission} (h : r.superseded a = false) :
    (r.permanentFence = false ∧ r.uncertain = false ∧ r.closed = false) ∧
      r.observed a.client = a.generation ∧ r.isReleased a.client a.generation = false ∧
      ∀ owner, r.owners a.client = some owner → a.previous = true ∧ owner.hold = a.hold := by
  simp only [superseded, Bool.or_eq_false_iff, bne_eq_false_iff_eq] at h
  obtain ⟨⟨⟨⟨⟨hfence, huncertain⟩, hclosed⟩, hobs⟩, hrel⟩, howner⟩ := h
  refine ⟨⟨hfence, huncertain, hclosed⟩, hobs, hrel, fun owner hsome => ?_⟩
  simpa [hsome] using howner

end Registry

/-! ## Interleavings -/

inductive Input where
  | acquire (client : String) (generation : Nat) (target : Descriptor) (mode : Mode)
  | publish (index : Nat) (observation : Option Observation)
  | releaseMonitor (client : String) (generation : Nat)
  | legacyReturn (index : Nat) (result : Bool)
  | revoke (client : String)
  | shutdown
  | snapshot (client : String) (generation : Nat)
  | copyToken (hold : Nat)
  | dropToken (index : Nat)
  | destroyHold (hold : Nat)
  | beginMutation (thread : Nat)
  | endMutation (index : Nat)
  | completionUnknown
  | fenceUnknownRelease

def Registry.step : Input → Registry
  | .acquire client generation target mode => r.acquire client generation target mode
  | .publish index observation => r.publish index observation
  | .releaseMonitor client generation => r.releaseMonitor client generation
  | .legacyReturn index result => r.legacyReturn index result
  | .revoke client => r.revoke client
  | .shutdown => r.shutdown
  | .snapshot client generation => r.snapshot client generation
  | .copyToken hold => { r with tokens := hold :: r.tokens }
  | .dropToken index => { r with tokens := r.tokens.eraseIdx index }
  | .destroyHold hold => r.destroyHold hold
  | .beginMutation thread => r.beginMutation thread
  | .endMutation index => r.endMutation index
  | .completionUnknown => r.completionUnknown
  | .fenceUnknownRelease => r.fenceUnknownRelease

/-- What the owners of the objects promise: a token is copied from a token, a hold
is destroyed after its last reference, and a mutation object while it lives. -/
def Registry.Admits : Input → Prop
  | .copyToken hold => hold ∈ r.tokens
  | .destroyHold hold => hold ∈ r.liveHolds ∧ ¬ r.Referenced hold
  | .endMutation index => index < r.liveMutations.length
  | .completionUnknown => r.liveMutations ≠ []
  | _ => True

def registrySystem : Library.System Registry Input where
  init := {}
  admits := Registry.Admits
  step := Registry.step

end Vibeshine.TargetLease
