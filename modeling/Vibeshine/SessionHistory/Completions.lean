import Mathlib.Data.List.Basic

/-! # Completions of a write batch

`process_batch` applies the commands of a batch in one transaction and sets the completions
it collected on the way. The commands behind a failing one are not reached, and neither are
their completions.
-/

namespace Vibeshine.SessionHistory

open List

inductive CmdType where
  | beginSession | endSession | deleteSession | insertSample | insertEvent | prune
  | setEndTimeForTests | forceFailureForTests | stop
  deriving DecidableEq

inductive CompletionKind where
  | delete | bool
  deriving DecidableEq

/-- `write_cmd_t`, with the promises it carries. Only the commands that have a result of the
kind are made with one. -/
structure WriteCmd where
  type : CmdType
  deleteCompletion : Bool := false
  boolCompletion : Bool := false
  deleteTyped : deleteCompletion = true → type = .deleteSession := by decide
  boolTyped : boolCompletion = true →
    type = .prune ∨ type = .setEndTimeForTests ∨ type = .forceFailureForTests := by decide
  deriving DecidableEq

def WriteCmd.carries (cmd : WriteCmd) : CompletionKind → Bool
  | .delete => cmd.deleteCompletion
  | .bool => cmd.boolCompletion

inductive DeleteApply where
  | deleted | notFound | failed
  deriving DecidableEq

inductive DeleteResult where
  | deleted | notFound | failed
  deriving DecidableEq

def DeleteApply.result : DeleteApply → DeleteResult
  | .deleted => .deleted
  | .notFound => .notFound
  | .failed => .failed

/-- How the storage behaves while a batch is processed; commands are named by their
position. -/
structure Storage (σ : Type) where
  /-- There is a database to write to. -/
  present : Bool := true
  begins : Bool := true
  commits : Bool := true
  applies : Nat → Bool := fun _ => true
  deletes : Nat → DeleteApply := fun _ => .deleted
  change : Nat → σ → σ

inductive CompletionValue where
  | delete (result : DeleteResult)
  | bool (result : Bool)
  deriving DecidableEq

/-- A promise with a value; it is named by the position of the command that carries it. -/
structure Completion where
  position : Nat
  value : CompletionValue
  deriving DecidableEq

/-- The open transaction and the collected completions. -/
structure Applying (σ : Type) where
  content : σ
  deleteCompletions : List (Nat × DeleteResult) := []
  boolCompletions : List (Nat × Bool) := []

/-- What a batch leaves behind. -/
structure BatchOutcome (σ : Type) where
  stored : σ
  /-- The promises in the order in which they were set. -/
  completions : List Completion
  committed : Bool
  /-- `record_writer_failure` was called. -/
  failureRecorded : Bool
  /-- The log of the database was truncated after a prune. -/
  checkpointed : Bool := false

section

variable {σ : Type}

namespace Applying

def finish (s : Applying σ) (position : Nat) (cmd : WriteCmd) (result : Bool) : Bool × Applying σ :=
  (result,
    if cmd.boolCompletion then { s with boolCompletions := s.boolCompletions ++ [(position, result)] }
    else s)

end Applying

/-- `apply_write_cmd`, as it is built with the commands for tests; without them no such
command is made. -/
def applyWriteCmd (storage : Storage σ) (position : Nat) (cmd : WriteCmd) (s : Applying σ) :
    Bool × Applying σ :=
  let changed := { s with content := storage.change position s.content }
  match cmd.type with
  | .beginSession | .endSession | .insertSample | .insertEvent =>
    (storage.applies position, changed)
  | .deleteSession =>
    let result := storage.deletes position
    (result != .failed,
      if cmd.deleteCompletion then
        { changed with
          deleteCompletions := changed.deleteCompletions ++ [(position, result.result)] }
      else changed)
  | .prune | .setEndTimeForTests => changed.finish position cmd (storage.applies position)
  | .forceFailureForTests => s.finish position cmd false
  | .stop => (true, s)

def applyBatch (storage : Storage σ) : Nat → List WriteCmd → Applying σ → Bool × Applying σ
  | _, [], s => (true, s)
  | position, cmd :: batch, s =>
    let (ok, s) := applyWriteCmd storage position cmd s
    if ok then applyBatch storage (position + 1) batch s else (false, s)

def resolveCompletions (s : Applying σ) (committed : Bool) : List Completion :=
  s.deleteCompletions.map (fun completion =>
    ⟨completion.1, .delete (if committed then completion.2 else .failed)⟩) ++
  s.boolCompletions.map fun completion => ⟨completion.1, .bool (committed && completion.2)⟩

def failAll : Nat → List WriteCmd → List Completion
  | _, [] => []
  | position, cmd :: batch =>
    (if cmd.deleteCompletion then [⟨position, .delete .failed⟩] else []) ++
      (if cmd.boolCompletion then [⟨position, .bool false⟩] else []) ++
      failAll (position + 1) batch

def processBatch (storage : Storage σ) (batch : List WriteCmd) (stored : σ) : BatchOutcome σ :=
  if batch.isEmpty then
    { stored, completions := [], committed := true, failureRecorded := false }
  else if !storage.present || !storage.begins then
    { stored, completions := failAll 0 batch, committed := false, failureRecorded := true }
  else
    let (ok, s) := applyBatch storage 0 batch { content := stored }
    let committed := ok && storage.commits
    { stored := if committed then s.content else stored
      completions := resolveCompletions s committed
      committed
      failureRecorded := !committed
      checkpointed := committed && batch.any fun cmd => cmd.type == .prune }

def Storage.fails (storage : Storage σ) (position : Nat) (cmd : WriteCmd) : Bool :=
  match cmd.type with
  | .deleteSession => storage.deletes position == .failed
  | .forceFailureForTests => true
  | .stop => false
  | _ => !storage.applies position

def Storage.ownResult (storage : Storage σ) (position : Nat) (cmd : WriteCmd) :
    CompletionKind → CompletionValue
  | .delete => .delete (storage.deletes position).result
  | .bool => .bool (!storage.fails position cmd)

def CompletionKind.failure : CompletionKind → CompletionValue
  | .delete => .delete .failed
  | .bool => .bool false

def Storage.changes (storage : Storage σ) : Nat → List WriteCmd → σ → σ
  | _, [], content => content
  | position, cmd :: batch, content =>
    storage.changes (position + 1) batch
      (if cmd.type = .forceFailureForTests ∨ cmd.type = .stop then content
      else storage.change position content)

/-- All changes are stored or none, and every promise of the batch is set exactly once. -/
structure Settles (storage : Storage σ) (batch : List WriteCmd) (stored : σ)
    (outcome : BatchOutcome σ) : Prop where
  atomic : outcome.stored =
    if outcome.committed then storage.changes 0 batch stored else stored
  settled : ∀ position cmd kind, batch[position]? = some cmd → cmd.carries kind = true →
    outcome.completions.filter (·.position == position) =
      [⟨position, if outcome.committed then storage.ownResult position cmd kind else kind.failure⟩]

/-! ## One command -/

lemma WriteCmd.carries_other {cmd : WriteCmd} (h : cmd.deleteCompletion = true) :
    cmd.boolCompletion = false := by
  by_contra hbool
  rw [Bool.not_eq_false] at hbool
  have hdelete := cmd.deleteTyped h
  obtain hprune | htest | htest := cmd.boolTyped hbool
  · rw [hdelete] at hprune
    cases hprune
  · rw [hdelete] at htest
    cases htest
  · rw [hdelete] at htest
    cases htest

namespace Applying

def collected (s : Applying σ) : CompletionKind → List Completion
  | .delete => s.deleteCompletions.map fun completion => ⟨completion.1, .delete completion.2⟩
  | .bool => s.boolCompletions.map fun completion => ⟨completion.1, .bool completion.2⟩

end Applying

variable {storage : Storage σ} {position : Nat} {cmd : WriteCmd} {batch : List WriteCmd}
  {s : Applying σ}

lemma applyWriteCmd_ok : (applyWriteCmd storage position cmd s).1 = !storage.fails position cmd := by
  obtain ⟨type, _, _, _, _⟩ := cmd
  cases type with
  | deleteSession => rfl
  | forceFailureForTests | stop => rfl
  | _ => exact (Bool.not_not _).symm

variable (kind : CompletionKind)

lemma applyWriteCmd_collected :
    (applyWriteCmd storage position cmd s).2.collected kind = s.collected kind ++
      if cmd.carries kind then [⟨position, storage.ownResult position cmd kind⟩] else [] := by
  obtain ⟨type, deleteCompletion, boolCompletion, hdelete, hbool⟩ := cmd
  have hnone : boolCompletion = true → type ≠ .prune → type ≠ .setEndTimeForTests →
      type ≠ .forceFailureForTests → False := fun h hprune hend hfail => by
    obtain h | h | h := hbool h <;> contradiction
  cases type with
  | deleteSession =>
    have hother : boolCompletion = false :=
      Bool.eq_false_iff.mpr fun h => hnone h nofun nofun nofun
    cases kind <;> cases deleteCompletion <;>
      simp [applyWriteCmd, Applying.collected, WriteCmd.carries, Storage.ownResult, hother]
  | prune | setEndTimeForTests | forceFailureForTests =>
    have hother : deleteCompletion = false :=
      Bool.eq_false_iff.mpr fun h => by cases hdelete h
    cases kind <;> cases boolCompletion <;>
      simp [applyWriteCmd, Applying.finish, Applying.collected, WriteCmd.carries,
        Storage.ownResult, Storage.fails, hother]
  | _ =>
    have hother : deleteCompletion = false :=
      Bool.eq_false_iff.mpr fun h => by cases hdelete h
    have hother' : boolCompletion = false :=
      Bool.eq_false_iff.mpr fun h => hnone h nofun nofun nofun
    cases kind <;>
      simp [applyWriteCmd, Applying.collected, WriteCmd.carries, hother, hother']

lemma applyWriteCmd_content (h : storage.fails position cmd = false) :
    (applyWriteCmd storage position cmd s).2.content =
      if cmd.type = .forceFailureForTests ∨ cmd.type = .stop then s.content
      else storage.change position s.content := by
  obtain ⟨type, deleteCompletion, boolCompletion, _, _⟩ := cmd
  cases type with
  | forceFailureForTests => cases h
  | stop => rfl
  | deleteSession => cases deleteCompletion <;> rfl
  | _ => cases boolCompletion <;> rfl

/-! ## The batch -/

lemma applyBatch_cons : applyBatch storage position (cmd :: batch) s =
      if storage.fails position cmd then (false, (applyWriteCmd storage position cmd s).2)
      else applyBatch storage (position + 1) batch (applyWriteCmd storage position cmd s).2 := by
  have hok : (applyWriteCmd storage position cmd s).1 = !storage.fails position cmd :=
    applyWriteCmd_ok
  rw [applyBatch]
  generalize applyWriteCmd storage position cmd s = applied at *
  obtain ⟨ok, applied⟩ := applied
  dsimp only at hok ⊢
  rw [hok]
  cases storage.fails position cmd <;> rfl

lemma applyBatch_ok : (applyBatch storage position batch s).1 = true →
      (applyBatch storage position batch s).2.content = storage.changes position batch s.content := by
  induction batch generalizing position s with
  | nil => exact fun _ => rfl
  | cons cmd batch ih =>
    rw [applyBatch_cons]
    cases hfails : storage.fails position cmd with
    | true => exact nofun
    | false =>
      intro hok
      rw [if_neg Bool.false_ne_true] at hok ⊢
      rw [ih hok, applyWriteCmd_content hfails]
      rfl

def Applying.at (s : Applying σ) (kind : CompletionKind) (position : Nat) : List Completion :=
  (s.collected kind).filter (·.position == position)

lemma applyWriteCmd_at (other : Nat) :
    (applyWriteCmd storage position cmd s).2.at kind other = s.at kind other ++
      if position = other ∧ cmd.carries kind then
        [⟨position, storage.ownResult position cmd kind⟩] else [] := by
  unfold Applying.at
  rw [applyWriteCmd_collected, filter_append]
  congr 1
  by_cases hsame : position = other <;> cases hcarries : cmd.carries kind <;> simp [hsame]

lemma applyBatch_before {earlier : Nat} (h : earlier < position) :
    (applyBatch storage position batch s).2.at kind earlier = s.at kind earlier := by
  induction batch generalizing position s with
  | nil => rfl
  | cons cmd batch ih =>
    have hhead : (applyWriteCmd storage position cmd s).2.at kind earlier = s.at kind earlier := by
      rw [applyWriteCmd_at, if_neg fun hsame => Nat.ne_of_gt h hsame.1, append_nil]
    rw [applyBatch_cons]
    split
    · exact hhead
    · rw [ih (Nat.lt_succ_of_lt h), hhead]

lemma applyBatch_reached {index : Nat} (hcmd : batch[index]? = some cmd)
    (hreached : ∀ j < index, ∀ other, batch[j]? = some other →
      storage.fails (position + j) other = false) :
    (applyBatch storage position batch s).2.at kind (position + index) =
      s.at kind (position + index) ++ if cmd.carries kind then
          [⟨position + index, storage.ownResult (position + index) cmd kind⟩] else [] := by
  induction batch generalizing position s index with
  | nil => cases hcmd
  | cons first batch ih =>
    rw [applyBatch_cons]
    cases index with
    | zero =>
      cases hcmd
      have hhead := @applyWriteCmd_at _ storage position cmd s kind position
      simp only [true_and] at hhead
      split
      · exact hhead
      · exact (applyBatch_before kind (Nat.lt_succ_self position)).trans hhead
    | succ index =>
      have hfirst : storage.fails position first = false :=
        hreached 0 (Nat.zero_lt_succ index) first rfl
      rw [if_neg (by rw [hfirst]; exact Bool.false_ne_true)]
      have hrest := @ih (position + 1) (applyWriteCmd storage position first s).2 index hcmd
        fun j hj other hother => by
          have := hreached (j + 1) (Nat.succ_lt_succ hj) other hother
          rwa [Nat.add_right_comm, Nat.add_assoc]
      rw [Nat.add_right_comm, Nat.add_assoc] at hrest
      rw [hrest, applyWriteCmd_at, if_neg fun hsame => by omega, append_nil]

lemma applyBatch_unreached {failing index : Nat}
    (hcmd : batch[failing]? = some cmd) (hfails : storage.fails (position + failing) cmd = true)
    (hbehind : failing < index) :
    (applyBatch storage position batch s).2.at kind (position + index) =
      s.at kind (position + index) := by
  induction batch generalizing position s failing index with
  | nil => cases hcmd
  | cons first batch ih =>
    have hhead : (applyWriteCmd storage position first s).2.at kind (position + index) =
        s.at kind (position + index) := by
      rw [applyWriteCmd_at, if_neg fun hsame => by omega, append_nil]
    rw [applyBatch_cons]
    split
    · exact hhead
    next hok =>
      cases failing with
      | zero =>
        cases hcmd
        exact absurd hfails hok
      | succ failing =>
        obtain ⟨index, rfl⟩ : ∃ rest, index = rest + 1 := ⟨index - 1, by omega⟩
        have hrest := @ih (position + 1) (applyWriteCmd storage position first s).2 failing index
          hcmd (by rwa [Nat.add_right_comm, Nat.add_assoc]) (by omega)
        rw [Nat.add_right_comm, Nat.add_assoc] at hrest
        rw [hrest, hhead]

/-! ## The promises -/

variable (committed : Bool)

def CompletionValue.resolve : CompletionValue → CompletionValue
  | .delete result => .delete (if committed then result else .failed)
  | .bool result => .bool (committed && result)

lemma resolve_ownResult : (storage.ownResult position cmd kind).resolve committed =
      if committed then storage.ownResult position cmd kind else kind.failure := by
  cases kind <;> cases committed <;> rfl

lemma resolveCompletions_filter : (resolveCompletions s committed).filter (·.position == position) =
      (s.at .delete position ++ s.at .bool position).map fun completion =>
        { completion with value := completion.value.resolve committed } := by
  simp only [resolveCompletions, Applying.at, Applying.collected, filter_append,
    map_append, filter_map, map_map]
  rfl

lemma WriteCmd.of_carries {kind : CompletionKind} (h : cmd.carries kind = true) :
    cmd.deleteCompletion = (kind == .delete) ∧ cmd.boolCompletion = (kind == .bool) := by
  cases kind with
  | delete => exact ⟨h, WriteCmd.carries_other h⟩
  | bool =>
    refine ⟨Bool.eq_false_iff.mpr fun hdelete => ?_, h⟩
    have hother := WriteCmd.carries_other hdelete
    change cmd.boolCompletion = true at h
    rw [hother] at h
    cases h

lemma failAll_before {earlier : Nat} (h : earlier < position) :
    (failAll position batch).filter (·.position == earlier) = [] := by
  induction batch generalizing position with
  | nil => rfl
  | cons cmd batch ih =>
    have hne : (position == earlier) = false := beq_eq_false_iff_ne.mpr (Nat.ne_of_gt h)
    rw [failAll, filter_append, ih (Nat.lt_succ_of_lt h)]
    cases cmd.deleteCompletion <;> cases cmd.boolCompletion <;> simp [hne]

lemma failAll_filter {index : Nat} {kind : CompletionKind} (hcmd : batch[index]? = some cmd)
    (hcarries : cmd.carries kind = true) :
    (failAll position batch).filter (·.position == position + index) =
      [⟨position + index, kind.failure⟩] := by
  induction batch generalizing position index with
  | nil => cases hcmd
  | cons first batch ih =>
    rw [failAll, filter_append]
    cases index with
    | zero =>
      cases hcmd
      obtain ⟨hdelete, hbool⟩ := cmd.of_carries hcarries
      have hrest : (failAll (position + 1) batch).filter (·.position == position + 0) = [] :=
        failAll_before (Nat.lt_succ_self position)
      rw [hrest, hdelete, hbool]
      cases kind <;> simp [CompletionKind.failure]
    | succ index =>
      have hne : (position == position + (index + 1)) = false :=
        beq_eq_false_iff_ne.mpr (by omega)
      have hrest := @ih (position + 1) index hcmd
      rw [Nat.add_right_comm, Nat.add_assoc] at hrest
      rw [hrest]
      cases first.deleteCompletion <;> cases first.boolCompletion <;> simp [hne]

def Storage.Spares (storage : Storage σ) (batch : List WriteCmd) : Prop :=
  ∀ failing index cmd other, failing < index → batch[failing]? = some cmd →
    batch[index]? = some other → storage.fails failing cmd = true →
      ∀ kind, other.carries kind = false

lemma settled_of_reached (hspares : storage.Spares batch) {index : Nat} {kind : CompletionKind}
    (hcmd : batch[index]? = some cmd) (hcarries : cmd.carries kind = true) (content : σ)
    (committed : Bool) :
    (resolveCompletions (applyBatch storage 0 batch { content }).2 committed).filter
        (·.position == index) =
      [⟨index, if committed then storage.ownResult index cmd kind else kind.failure⟩] := by
  have hreached : ∀ j < index, ∀ other, batch[j]? = some other →
      storage.fails (0 + j) other = false := by
    intro j hj other hother
    rw [Nat.zero_add, ← Bool.not_eq_true]
    intro hfails
    rw [hspares j index other cmd hj hother hcmd hfails kind] at hcarries
    cases hcarries
  have hat := fun kind => applyBatch_reached (s := { content }) kind hcmd hreached
  simp only [Nat.zero_add] at hat
  obtain ⟨hdelete, hbool⟩ := cmd.of_carries hcarries
  rw [resolveCompletions_filter, hat, hat]
  cases kind with
  | delete =>
    have hother : cmd.carries .bool = false := hbool
    rw [if_pos hcarries, if_neg (by rw [hother]; exact Bool.false_ne_true)]
    simp [Applying.at, Applying.collected, resolve_ownResult]
  | bool =>
    have hother : cmd.carries .delete = false := hdelete
    rw [if_pos hcarries, if_neg (by rw [hother]; exact Bool.false_ne_true)]
    simp [Applying.at, Applying.collected, resolve_ownResult]

/-- A batch settles exactly where no transaction began, or no command with a promise stands
behind the failing one. -/
theorem batch_settles_iff (storage : Storage σ) (batch : List WriteCmd) (stored : σ) :
    Settles storage batch stored (processBatch storage batch stored) ↔
      storage.present = false ∨ storage.begins = false ∨ storage.Spares batch := by
  cases batch with
  | nil =>
    refine ⟨fun _ => .inr (.inr fun _ _ _ _ _ hcmd => by cases hcmd), fun _ => ⟨?_, ?_⟩⟩
    · rfl
    · exact fun _ _ _ hcmd => by cases hcmd
  | cons first batch =>
  generalize hbatch : first :: batch = whole
  have hsome : whole.isEmpty = false := by rw [← hbatch]; rfl
  unfold processBatch
  rw [hsome, if_neg Bool.false_ne_true]
  cases hopen : !storage.present || !storage.begins with
  | true =>
    rw [if_pos rfl]
    refine ⟨fun _ => ?_, fun _ => ⟨rfl, fun index cmd kind hcmd hcarries => ?_⟩⟩
    · simp only [Bool.or_eq_true, Bool.not_eq_true'] at hopen
      exact hopen.imp_right .inl
    · have hfail := @failAll_filter 0 cmd whole index kind hcmd hcarries
      rwa [Nat.zero_add] at hfail
  | false =>
    rw [if_neg Bool.false_ne_true]
    dsimp only
    simp only [Bool.or_eq_false_iff, Bool.not_eq_false'] at hopen
    rw [hopen.1, hopen.2]
    simp only [Bool.true_eq_false, false_or]
    constructor
    · intro hsettles failing index cmd other hbehind hcmd hother hfails kind
      rw [← Bool.not_eq_true]
      intro hcarries
      have hset := hsettles.settled index other kind hother hcarries
      have hat := fun kind => @applyBatch_unreached _ storage 0 cmd whole { content := stored }
        kind failing index hcmd (by rwa [Nat.zero_add]) hbehind
      simp only [Nat.zero_add] at hat
      dsimp only at hset
      rw [resolveCompletions_filter, hat, hat] at hset
      cases hset
    · intro hspares
      refine ⟨?_, fun index cmd kind hcmd hcarries =>
        settled_of_reached hspares hcmd hcarries stored _⟩
      dsimp only
      cases hcommitted : (applyBatch storage 0 whole { content := stored }).1 &&
          storage.commits with
      | false => rfl
      | true => exact applyBatch_ok (Bool.and_eq_true_iff.mp hcommitted).1

def endThenDelete : List WriteCmd :=
  [{ type := .endSession }, { type := .deleteSession, deleteCompletion := true }]

def endFails : Storage Nat where
  applies _ := false
  change _ content := content + 1

theorem failing_end_leaves_promise : (processBatch endFails endThenDelete 0).completions = [] ∧
      ¬ Settles endFails endThenDelete 0 (processBatch endFails endThenDelete 0) := by
  refine ⟨rfl, fun h => ?_⟩
  have hset := h.settled 1 { type := .deleteSession, deleteCompletion := true } .delete rfl rfl
  cases hset

end

end Vibeshine.SessionHistory
