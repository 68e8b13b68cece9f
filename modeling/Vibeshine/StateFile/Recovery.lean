import Vibeshine.StateFile.Policy

/-! # Recovery never rolls authorization back

The primary is written only when it was missing or could not be relied on, and only from a
backup that passed validation; the backup is written only from a primary that can be relied
on. What the files held is what the first read of each returned, and the callbacks may
return anything.
-/

namespace Vibeshine.StateFile

open Library Program

abbrev Trace := List (Exchange Request.Reply)

namespace Trace

def firstRead (path : String) : Trace → Option ReadResult
  | [] => none
  | ⟨.read file, result⟩ :: later => if file = path then some result else firstRead path later
  | ⟨.write _ _, _⟩ :: later => firstRead path later

def Writes (path contents : String) (trace : Trace) : Prop :=
  ∃ succeeded : Bool, ⟨.write path contents, succeeded⟩ ∈ trace

variable {path file contents : String} {trace later : Trace}

@[simp] lemma firstRead_read (result : ReadResult) :
    firstRead path (⟨.read file, result⟩ :: later) =
      if file = path then some result else firstRead path later := rfl

@[simp] lemma firstRead_write (text : String) (succeeded : Bool) :
    firstRead path (⟨.write file text, succeeded⟩ :: later) = firstRead path later := rfl

@[simp] lemma writes_nil : ¬ Writes path contents [] := by simp [Writes]

@[simp] lemma writes_read (result : ReadResult) :
    Writes path contents (⟨.read file, result⟩ :: later) ↔ Writes path contents later := by
  simp [Writes]

@[simp] lemma writes_write (text : String) (succeeded : Bool) :
    Writes path contents (⟨.write file text, succeeded⟩ :: later) ↔
      (file = path ∧ text = contents) ∨ Writes path contents later := by
  simp only [Writes, List.mem_cons]
  constructor
  · rintro ⟨given, hhere | hlater⟩
    · injection hhere with hrequest
      injection hrequest with hfile htext
      exact .inl ⟨hfile.symm, htext.symm⟩
    · exact .inr ⟨given, hlater⟩
  · rintro (⟨rfl, rfl⟩ | ⟨given, hlater⟩)
    · exact ⟨succeeded, .inl rfl⟩
    · exact ⟨given, .inr hlater⟩

end Trace

open Trace

lemma backupPath_ne (path : String) : backupPath path ≠ path := by
  intro h
  have hlength := congrArg String.length h
  rw [backupPath, String.length_append] at hlength
  exact absurd hlength (by simp)

@[simp] lemma ne_backupPath (path : String) : path ≠ backupPath path :=
  (backupPath_ne path).symm

lemma backupPath_ne_empty (path : String) : backupPath path ≠ "" := by simp [backupPath]

/-- What a run may write: the primary when it cannot be relied on, with what a backup
restores, and the backup when the primary can be relied on, with what refreshes it. -/
structure KeepsAuthorization (path : String) (usable : ReadResult → Prop)
    (restores refreshes : ReadResult → String → Prop) (trace : Trace) : Prop where
  primary : ∀ contents, Writes path contents trace →
    ∃ primary backup, firstRead path trace = some primary ∧ primary.status ≠ .failed ∧
      ¬ usable primary ∧ firstRead (backupPath path) trace = some backup ∧
      restores backup contents
  backup : ∀ contents, Writes (backupPath path) contents trace →
    ∃ primary, firstRead path trace = some primary ∧ usable primary ∧ refreshes primary contents
  others : ∀ file contents, Writes file contents trace → file = path ∨ file = backupPath path

namespace KeepsAuthorization

variable {path : String} {usable : ReadResult → Prop}
  {restores refreshes : ReadResult → String → Prop} {trace : Trace}

lemma of_silent (h : ∀ file contents, ¬ Writes file contents trace) :
    KeepsAuthorization path usable restores refreshes trace where
  primary _ hwrites := absurd hwrites (h _ _)
  backup _ hwrites := absurd hwrites (h _ _)
  others _ _ hwrites := absurd hwrites (h _ _)

variable {primary backup : ReadResult}

lemma of_refresh (husable : usable primary) (hwrites : ∀ file contents, Writes file contents trace →
      file = backupPath path ∧ refreshes primary contents) :
    KeepsAuthorization path usable restores refreshes
      (⟨.read path, primary⟩ :: ⟨.read (backupPath path), backup⟩ :: trace) where
  primary contents h := absurd (hwrites path contents (by simpa using h)).1 (by simp)
  backup contents h := ⟨primary, by simp, husable, (hwrites _ _ (by simpa using h)).2⟩
  others file contents h := .inr (hwrites file contents (by simpa using h)).1

lemma untouched (h : KeepsAuthorization path usable restores refreshes trace)
    {result : ReadResult} (hread : firstRead path trace = some result) (husable : usable result)
    (contents : String) : ¬ Writes path contents trace := by
  intro hwrites
  obtain ⟨primary, _, hprim, _, hunusable, _⟩ := h.primary contents hwrites
  obtain rfl : result = primary := Option.some.inj (hread.symm.trans hprim)
  exact hunusable husable

end KeepsAuthorization

namespace TreeLibrary

variable (lib : TreeLibrary) {path : String}

variable (result : ReadResult)

lemma loadContents_cases :
    (result.status = .missing ∧ lib.loadContents result = (.missing, .empty)) ∨
      (result.status = .failed ∧ lib.loadContents result = (.failed, .empty)) ∨
      (result.status = .loaded ∧ lib.loadContents result = (.corrupt, .empty)) ∨
      (result.status = .loaded ∧
        ∃ tree, lib.readJson (withoutByteOrderMark result.contents) = some tree ∧
          lib.loadContents result = (.loaded, tree)) := by
  simp only [loadContents]
  cases hstatus : result.status
  case loaded =>
    by_cases hblank : isBlank (withoutByteOrderMark result.contents)
    · simp [hblank]
    · cases hread : lib.readJson (withoutByteOrderMark result.contents) <;> simp [hblank]
  all_goals simp

lemma loadContents_failed {result : ReadResult} :
    (lib.loadContents result).1 = .failed ↔ result.status = .failed := by
  rcases lib.loadContents_cases result with
    ⟨hstatus, h⟩ | ⟨hstatus, h⟩ | ⟨hstatus, h⟩ | ⟨hstatus, tree, _, h⟩ <;> simp [h, hstatus]

lemma loadJsonForRead_failed {reads : Bool} (h : reads = false ∨ path = "") :
    lib.loadJsonForRead path (readFile reads) = .done (.failed, .empty) := by
  cases reads with
  | false => rfl
  | true => exact if_pos (h.resolve_left (by simp))

lemma loadJsonForRead_asks (hpath : path ≠ "") : lib.loadJsonForRead path (readFile true) =
      .ask (.read path) fun result => .done (lib.loadContents result) :=
  if_neg hpath

def HoldsVibeshine (tree : PTree) : Prop :=
  lib.loadContents result = (.loaded, tree) ∧ lib.validVibeshineTree tree

def VibeshineText (contents : String) : Prop :=
  ∃ tree, lib.HoldsVibeshine result tree ∧ lib.writeJson tree = some contents

/-- What a run of `load_vibeshine_state` may do. -/
structure VibeshineLoad (path : String) (trace : Trace) (loaded : LoadResult × PTree) : Prop where
  keeps : KeepsAuthorization path (fun primary => ∃ tree, lib.HoldsVibeshine primary tree)
    lib.VibeshineText lib.VibeshineText trace
  returned : ∀ primary tree, firstRead path trace = some primary →
    lib.HoldsVibeshine primary tree → loaded = (.loaded, tree)
  failed : loaded.1 = .failed → loaded.2 = .empty

section

variable {lib} {primary backup : ReadResult} {tree : PTree} {later : Trace}

lemma VibeshineLoad.of_valid (hholds : lib.HoldsVibeshine primary tree)
    (hwrites : ∀ file contents, Writes file contents later →
      file = backupPath path ∧ lib.writeJson tree = some contents) :
    lib.VibeshineLoad path (⟨.read path, primary⟩ :: ⟨.read (backupPath path), backup⟩ :: later)
      (.loaded, tree) where
  keeps := .of_refresh ⟨tree, hholds⟩ fun file contents h =>
    ⟨(hwrites file contents h).1, tree, hholds, (hwrites file contents h).2⟩
  returned found other hfirst hother := by
    obtain rfl : primary = found := by simpa using hfirst
    exact hholds.1.symm.trans hother.1
  failed h := by simp at h

end

variable {file : ReadResult}

end TreeLibrary

end Vibeshine.StateFile
