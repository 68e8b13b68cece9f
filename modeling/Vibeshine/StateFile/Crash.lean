import Vibeshine.StateFile.Recovery

/-! # The auxiliary state survives crashes

Writes and loads of the auxiliary state may be interrupted at any request, their reads may
fail, and a write of a file may take effect or not; it never leaves anything else in the
file. Afterwards one of the two files may be lost or damaged.
-/

namespace Vibeshine.StateFile

open Library Program

abbrev Files := String → Option String

namespace Files

def read (files : Files) (path : String) : ReadResult :=
  match files path with
  | some contents => ⟨.loaded, contents⟩
  | none => ⟨.missing, ""⟩

def write (files : Files) (path contents : String) : Files :=
  Function.update files path (some contents)

def Serves (files : Files) : (request : Request) → request.Reply → Files → Prop
  | .read path, result, after =>
    after = files ∧ (result = files.read path ∨ result.status = .failed)
  | .write path contents, succeeded, after =>
    after = files.write path contents ∨ (after = files ∧ succeeded = false)

def work (files : Files) : (request : Request) → request.Reply × Files
  | .read path => (files.read path, files)
  | .write path contents => (true, files.write path contents)

variable {files : Files} {path file contents : String}

lemma work_serves (files : Files) (request : Request) :
    files.Serves request (files.work request).1 (files.work request).2 := by
  cases request with
  | read path => exact ⟨rfl, .inl rfl⟩
  | write path contents => exact .inl rfl

@[simp] lemma read_write_same : (files.write path contents).read path = ⟨.loaded, contents⟩ := by
  simp [read, write]

@[simp] lemma read_write_of_ne (h : file ≠ path) :
    (files.write path contents).read file = files.read file := by
  simp [read, write, Function.update_of_ne h]

end Files

namespace TreeLibrary

variable (lib : TreeLibrary)

/-- The text of a tree begins with a brace and reads as the tree. -/
structure ReadsBack : Prop where
  opens : ∀ {tree text}, lib.writeJson tree = some text → text.toList.head? = some '{'
  reads : ∀ {tree text}, lib.writeJson tree = some text → lib.readJson text = some tree

def Holds (files : Files) (path : String) (tree : PTree) : Prop :=
  lib.HoldsVibeshine (files.read path) tree

variable {lib} {files after : Files} {path text : String} {tree other : PTree}

lemma HoldsVibeshine.unique {result : ReadResult} (h : lib.HoldsVibeshine result tree)
    (hother : lib.HoldsVibeshine result other) : tree = other := by
  simpa using h.1.symm.trans hother.1

lemma loadContents_text (lib : TreeLibrary) (hread : lib.readJson text = some tree)
    (hopens : text.toList.head? = some '{') :
    lib.loadContents ⟨.loaded, text⟩ = (.loaded, tree) := by
  obtain ⟨rest, hrest⟩ : ∃ rest, text.toList = '{' :: rest := List.head?_eq_some_iff.1 hopens
  have hplain : withoutByteOrderMark text = text := by
    simp [withoutByteOrderMark, byteOrderMark, hrest]
  have hblank : isBlank text = false := by simp [isBlank, hrest]
  simp [TreeLibrary.loadContents, hplain, hblank, hread]

lemma ReadsBack.loadContents (hlib : lib.ReadsBack) (htext : lib.writeJson tree = some text) :
    lib.loadContents ⟨.loaded, text⟩ = (.loaded, tree) :=
  lib.loadContents_text (hlib.reads htext) (hlib.opens htext)

lemma ReadsBack.holds (hlib : lib.ReadsBack) (htext : lib.writeJson tree = some text)
    (hvalid : lib.validVibeshineTree tree) : lib.Holds (files.write path text) path tree := by
  rw [Holds, Files.read_write_same]
  exact ⟨hlib.loadContents htext, hvalid⟩

/-! ## What the functions do to the files -/

lemma writeJsonAtomic_ensures (lib : TreeLibrary) (path : String) (tree : PTree) (files : Files) :
    (lib.writeJsonAtomic path tree (writeFile true) (readFile true)).Ensures Files.Serves files
      (fun after => after = files ∨
        ∃ text, lib.writeJson tree = some text ∧ after = files.write path text)
      (fun outcome after => outcome = .ok () →
        ∃ text, lib.writeJson tree = some text ∧ after = files.write path text) := by
  simp only [writeFile, readFile, if_true, writeJsonAtomic]
  by_cases hpath : path = ""
  · simpa [hpath] using .done (.inl rfl) (by simp)
  rw [if_neg hpath]
  cases htext : lib.writeJson tree with
  | none => exact .done (.inl rfl) (by simp)
  | some text =>
    simp only [request_bind]
    split
    · exact .done (.inl rfl) (by simp)
    refine .ask (.inl rfl) fun succeeded after hserve => ?_
    obtain rfl | ⟨rfl, rfl⟩ := hserve
    · split
      · exact .done (.inr ⟨text, rfl, rfl⟩) (by simp)
      refine .ask (.inr ⟨text, rfl, rfl⟩) fun written _ hserve => ?_
      obtain ⟨rfl, _⟩ := hserve
      split
      · exact .done (.inr ⟨text, rfl, rfl⟩) (by simp)
      · exact .done (.inr ⟨text, rfl, rfl⟩) fun _ => ⟨text, rfl, rfl⟩
    · exact .done (.inl rfl) (by simp)

/-- The files after a load was interrupted or has ended: at most one of them was written,
the backup from a valid primary or the primary from a valid backup. -/
inductive Repairs (lib : TreeLibrary) (path : String) (files : Files) : Files → Prop where
  | none : Repairs lib path files files
  | backup {tree : PTree} {text : String} (primary : lib.Holds files path tree)
      (htext : lib.writeJson tree = some text) :
      Repairs lib path files (files.write (backupPath path) text)
  | primary {tree : PTree} {text : String} (invalid : ∀ tree, ¬ lib.Holds files path tree)
      (backup : lib.Holds files (backupPath path) tree)
      (htext : lib.writeJson tree = some text) :
      Repairs lib path files (files.write path text)

lemma read_loaded (lib : TreeLibrary) {result : ReadResult}
    (hread : result = files.read path ∨ result.status = .failed)
    (hstatus : (lib.loadContents result).1 ≠ .failed) : result = files.read path :=
  hread.resolve_right (mt lib.loadContents_failed.2 hstatus)

lemma holds_of_loaded {result : ReadResult}
    (hread : result = files.read path ∨ result.status = .failed)
    (hloaded : (lib.loadContents result).1 = .loaded)
    (hvalid : lib.validVibeshineTree (lib.loadContents result).2) :
    lib.Holds files path (lib.loadContents result).2 := by
  have hsame : result = files.read path := lib.read_loaded hread (by simp [hloaded])
  rw [Holds, ← hsame]
  exact ⟨Prod.ext hloaded rfl, hvalid⟩

lemma loadVibeshineState_ensures (lib : TreeLibrary) (path : String) (files : Files) :
    (lib.loadVibeshineState path (readFile true) (writeFile true)).Ensures Files.Serves files
      (Repairs lib path files) (fun _ _ => True) := by
  by_cases hpath : path = ""
  · rw [loadVibeshineState, lib.loadJsonForRead_failed (.inr hpath)]
    exact .done .none trivial
  simp only [loadVibeshineState, lib.loadJsonForRead_asks hpath,
    lib.loadJsonForRead_asks (backupPath_ne_empty path), ask_bind, done_bind, pure_eq]
  refine .ask .none fun primary _ hprim => ?_
  obtain ⟨rfl, hprim⟩ := hprim
  rename Files => files
  split
  · exact .done .none trivial
  rename_i hfailed
  refine .ask .none fun backup _ hbackup => ?_
  obtain ⟨rfl, hbackup⟩ := hbackup
  rename Files => files
  split
  · rename_i hvalid
    have hholds := holds_of_loaded hprim hvalid.1 hvalid.2
    split
    · refine .bind ((writeJsonAtomic_ensures lib _ _ files).mono ?_ ?_)
      · rintro _ (rfl | ⟨text, htext, rfl⟩)
        · exact .none
        · exact .backup hholds htext
      · rintro _ _ (rfl | ⟨text, htext, rfl⟩) _
        · exact .done .none trivial
        · exact .done (.backup hholds htext) trivial
    · exact .done .none trivial
  rename_i hinvalid
  have hnone : ∀ tree, ¬ lib.Holds files path tree := by
    intro tree hholds
    rw [Holds, ← lib.read_loaded hprim hfailed] at hholds
    exact hinvalid (by rw [hholds.1]; exact ⟨rfl, hholds.2⟩)
  split
  · exact .done .none trivial
  split
  · exact .done .none trivial
  rename_i hrestorable
  obtain ⟨hloaded, hvalid⟩ :
      (lib.loadContents backup).1 = .loaded ∧ lib.validVibeshineTree (lib.loadContents backup).2 := by
    simpa using hrestorable
  have hholds := holds_of_loaded hbackup hloaded hvalid
  have hrepairs : ∀ after, (after = files ∨
      ∃ text, lib.writeJson (lib.loadContents backup).2 = some text ∧
        after = files.write path text) → Repairs lib path files after := by
    rintro _ (rfl | ⟨text, htext, rfl⟩)
    · exact .none
    · exact .primary hnone hholds htext
  refine .bind ((writeJsonAtomic_ensures lib _ _ files).mono hrepairs ?_)
  intro outcome after hafter _
  cases outcome with
  | error _ | ok => exact .done (hrepairs after hafter) trivial

lemma writeVibeshineState_ensures (lib : TreeLibrary) (path : String) (tree : PTree)
    (files : Files) :
    (lib.writeVibeshineState path tree (writeFile true) (readFile true)).Ensures Files.Serves files
      (fun after => after = files ∨
        ∃ text, lib.validVibeshineTree tree ∧ lib.writeJson tree = some text ∧
          (after = files.write path text ∨
            after = (files.write path text).write (backupPath path) text))
      (fun outcome after => outcome = .ok () →
        ∃ text, lib.validVibeshineTree tree ∧ lib.writeJson tree = some text ∧
          after = (files.write path text).write (backupPath path) text) := by
  unfold writeVibeshineState
  by_cases hvalid : lib.validVibeshineTree tree
  case neg =>
    rw [if_pos (by simpa using hvalid)]
    exact .done (.inl rfl) (by simp)
  simp only [hvalid, Bool.not_true, Bool.false_eq_true, if_false]
  refine .bind ((writeJsonAtomic_ensures lib _ _ files).mono ?_ ?_)
  · rintro _ (rfl | ⟨text, htext, rfl⟩)
    · exact .inl rfl
    · exact .inr ⟨text, trivial, htext, .inl rfl⟩
  intro outcome middle hmiddle hok
  cases outcome with
  | error what =>
    refine .done ?_ (by simp)
    obtain rfl | ⟨text, htext, rfl⟩ := hmiddle
    · exact .inl rfl
    · exact .inr ⟨text, trivial, htext, .inl rfl⟩
  | ok =>
    obtain ⟨text, htext, rfl⟩ := hok rfl
    refine (writeJsonAtomic_ensures lib _ _ _).mono ?_ ?_
    · rintro _ (rfl | ⟨text', htext', rfl⟩)
      · exact .inr ⟨text, trivial, htext, .inl rfl⟩
      · obtain rfl : text = text' := by simpa using htext.symm.trans htext'
        exact .inr ⟨text, trivial, htext, .inr rfl⟩
    · intro _ _ _ hok' h
      obtain ⟨text', htext', rfl⟩ := hok' h
      obtain rfl : text = text' := by simpa using htext.symm.trans htext'
      exact ⟨text, trivial, htext, rfl⟩

/-! ## Runs -/

def Stored (lib : TreeLibrary) (files : Files) (path : String) (tree : PTree) : Prop :=
  lib.Holds files path tree ∧ ∃ text, lib.writeJson tree = some text

lemma ReadsBack.stored (hlib : lib.ReadsBack) (htext : lib.writeJson tree = some text)
    (hvalid : lib.validVibeshineTree tree) : Stored lib (files.write path text) path tree :=
  ⟨hlib.holds htext hvalid, text, htext⟩

lemma stored_write_of_ne {file contents : String} (h : file ≠ path) :
    Stored lib (files.write path contents) file tree ↔ Stored lib files file tree := by
  rw [Stored, Stored, Holds, Holds, Files.read_write_of_ne h]

/-- The files after a sequence of writes and loads, with the tree of the last write that
returned normally and the trees of the interrupted writes begun after it, the latest first.
An exception interrupts a write too. -/
inductive Run (lib : TreeLibrary) (path : String) : Files → Option PTree → List PTree → Prop where
  | start (files : Files) : Run lib path files none []
  | returned {files after : Files} {last : Option PTree} {since : List PTree} {tree : PTree}
      (before : Run lib path files last since)
      (write : (lib.writeVibeshineState path tree (writeFile true) (readFile true)).Finishes
        Files.Serves files (.ok ()) after) :
      Run lib path after (some tree) []
  | interrupted {files after : Files} {last : Option PTree} {since : List PTree} {tree : PTree}
      (before : Run lib path files last since) (valid : lib.validVibeshineTree tree)
      (write : (lib.writeVibeshineState path tree (writeFile true) (readFile true)).Visits
        Files.Serves files after) :
      Run lib path after last (tree :: since)
  | load {files after : Files} {last : Option PTree} {since : List PTree}
      (before : Run lib path files last since)
      (load : (lib.loadVibeshineState path (readFile true) (writeFile true)).Visits
        Files.Serves files after) :
      Run lib path after last since

def Recent (lib : TreeLibrary) (path : String) (trees : List PTree) (files : Files) : Prop :=
  (∃ tree ∈ trees, Stored lib files path tree) ∧
    ∃ tree ∈ trees, Stored lib files (backupPath path) tree

def Recoverable (lib : TreeLibrary) (path : String) (trees : List PTree) (files : Files) : Prop :=
  (∃ tree ∈ trees, Stored lib files path tree) ∨ ((∀ tree, ¬ lib.Holds files path tree) ∧
      ∃ tree ∈ trees, Stored lib files (backupPath path) tree)

section

variable (hlib : lib.ReadsBack)

include hlib

lemma Recent.repairs {trees : List PTree}
    (h : Recent lib path trees files) (hrepairs : Repairs lib path files after) :
    Recent lib path trees after := by
  obtain ⟨⟨primary, hprim, hstored⟩, hbackup⟩ := h
  cases hrepairs with
  | none => exact ⟨⟨primary, hprim, hstored⟩, hbackup⟩
  | @backup held text hheld htext =>
    obtain rfl : primary = held := hstored.1.unique hheld
    exact ⟨⟨primary, hprim, (stored_write_of_ne (by simp)).2 hstored⟩,
      ⟨primary, hprim, hlib.stored htext hheld.2⟩⟩
  | primary invalid => exact absurd hstored.1 (invalid primary)

lemma Recoverable.repairs {trees : List PTree}
    (h : Recoverable lib path trees files) (hrepairs : Repairs lib path files after) :
    Recoverable lib path trees after := by
  cases hrepairs with
  | none => exact h
  | @backup held text hheld htext =>
    obtain ⟨tree, htree, hstored⟩ | ⟨hnone, _⟩ := h
    · exact .inl ⟨tree, htree, (stored_write_of_ne (by simp)).2 hstored⟩
    · exact absurd hheld (hnone held)
  | @primary held text invalid hheld htext =>
    obtain ⟨tree, htree, hstored⟩ | ⟨_, tree, htree, hstored⟩ := h
    · exact absurd hstored.1 (invalid tree)
    · obtain rfl : tree = held := hstored.1.unique hheld
      exact .inl ⟨tree, htree, hlib.stored htext hheld.2⟩

lemma Run.recent {last : Option PTree} {since : List PTree} (hrun : Run lib path files last since) :
    ∀ returned, last = some returned → Recent lib path (returned :: since) files := by
  induction hrun with
  | start => simp
  | @returned files after _ _ tree _ write _ =>
    rintro _ ⟨⟩
    obtain ⟨text, hvalid, htext, rfl⟩ :=
      (writeVibeshineState_ensures lib path tree files).finished _ _ write rfl
    exact ⟨⟨tree, by simp, (stored_write_of_ne (by simp)).2 (hlib.stored htext hvalid)⟩,
      ⟨tree, by simp, hlib.stored htext hvalid⟩⟩
  | @interrupted files after last since tree _ _ write ih =>
    intro returned hlast
    obtain ⟨⟨primary, hprim, hstored⟩, ⟨backup, hbackup, hkept⟩⟩ := ih returned hlast
    have widen : ∀ kept ∈ returned :: since, kept ∈ returned :: tree :: since := by
      simp +contextual [or_imp]
    obtain rfl | ⟨text, hvalid, htext, rfl | rfl⟩ :=
      (writeVibeshineState_ensures lib path tree files).interrupted _ write
    · exact ⟨⟨primary, widen _ hprim, hstored⟩, ⟨backup, widen _ hbackup, hkept⟩⟩
    · exact ⟨⟨tree, by simp, hlib.stored htext hvalid⟩,
        ⟨backup, widen _ hbackup, (stored_write_of_ne (backupPath_ne path)).2 hkept⟩⟩
    · exact ⟨⟨tree, by simp, (stored_write_of_ne (by simp)).2 (hlib.stored htext hvalid)⟩,
        ⟨tree, by simp, hlib.stored htext hvalid⟩⟩
  | @load files after _ _ _ load ih =>
    intro returned hlast
    exact (ih returned hlast).repairs hlib
      ((loadVibeshineState_ensures lib path files).interrupted _ load)

end

/-! ## Damage and recovery -/

/-- At most one of the files was lost or overwritten; a primary that was damaged holds no
state any more. -/
inductive Damage (lib : TreeLibrary) (path : String) (files : Files) : Files → Prop where
  | none : Damage lib path files files
  | primary (contents : Option String)
      (invalid : ∀ tree, ¬ lib.Holds (Function.update files path contents) path tree) :
      Damage lib path files (Function.update files path contents)
  | backup (contents : Option String) :
      Damage lib path files (Function.update files (backupPath path) contents)

inductive Loads (lib : TreeLibrary) (path : String) (files : Files) : Files → Prop where
  | none : Loads lib path files files
  | load {middle after : Files} (before : Loads lib path files middle)
      (load : (lib.loadVibeshineState path (readFile true) (writeFile true)).Visits
        Files.Serves middle after) : Loads lib path files after

lemma Damage.recoverable {trees : List PTree} (h : Damage lib path files after)
    (hrecent : Recent lib path trees files) : Recoverable lib path trees after := by
  obtain ⟨⟨primary, hprim, hstored⟩, ⟨backup, hbackup, hkept⟩⟩ := hrecent
  cases h with
  | none => exact .inl ⟨primary, hprim, hstored⟩
  | primary contents invalid =>
    refine .inr ⟨invalid, backup, hbackup, ?_⟩
    simpa [Stored, Holds, Files.read, Function.update_of_ne (backupPath_ne path)] using hkept
  | backup contents =>
    refine .inl ⟨primary, hprim, ?_⟩
    simpa [Stored, Holds, Files.read, Function.update_of_ne (ne_backupPath path)] using hstored

lemma Loads.recoverable (hlib : lib.ReadsBack) {trees : List PTree}
    (h : Loads lib path files after) (hrecoverable : Recoverable lib path trees files) :
    Recoverable lib path trees after := by
  induction h with
  | none => exact hrecoverable
  | @load middle after _ load ih =>
    exact ih.repairs hlib ((loadVibeshineState_ensures lib path middle).interrupted _ load)

lemma loadContents_read (lib : TreeLibrary) (files : Files) (path : String) :
    (lib.loadContents (files.read path)).1 ≠ .failed := by
  rw [Ne, lib.loadContents_failed, Files.read]
  split <;> simp

section

variable (hlib : lib.ReadsBack)

include hlib

section

variable (hpath : path ≠ "")

include hpath

lemma ReadsBack.writeJsonAtomic_works (htext : lib.writeJson tree = some text) (files : Files) :
    (lib.writeJsonAtomic path tree (writeFile true) (readFile true)).run Files.work files =
      (.ok (), files.write path text) := by
  have hparses : lib.parsesAsJson text := by simp [parsesAsJson, hlib.reads htext]
  simp [writeFile, readFile, writeJsonAtomic, hpath, htext, hparses, Files.work]

lemma ReadsBack.writeVibeshineState_works
    (htext : lib.writeJson tree = some text) (hvalid : lib.validVibeshineTree tree)
    (files : Files) :
    (lib.writeVibeshineState path tree (writeFile true) (readFile true)).run Files.work files =
      (.ok (), (files.write path text).write (backupPath path) text) := by
  rw [writeVibeshineState, if_neg (by simpa using hvalid), run_bind,
    hlib.writeJsonAtomic_works hpath htext]
  exact hlib.writeJsonAtomic_works (backupPath_ne_empty path) htext _

lemma Recoverable.load_works {trees : List PTree}
    (h : Recoverable lib path trees files) : ∃ tree ∈ trees, ∃ after,
      (lib.loadVibeshineState path (readFile true) (writeFile true)).run Files.work files =
        ((.loaded, tree), after) ∧
      lib.Holds after path tree ∧ lib.Holds after (backupPath path) tree := by
  simp only [loadVibeshineState, lib.loadJsonForRead_asks hpath,
    lib.loadJsonForRead_asks (backupPath_ne_empty path), ask_bind, done_bind, run_ask,
    Files.work, loadContents_read, if_false]
  obtain ⟨tree, htree, ⟨hloaded, hvalid⟩, text, htext⟩ |
    ⟨hnone, tree, htree, hholds, text, htext⟩ := h
  · refine ⟨tree, htree, ?_⟩
    simp only [hloaded, hvalid, and_self, if_true]
    by_cases hsame : lib.loadContents (files.read (backupPath path)) = (.loaded, tree)
    · refine ⟨files, ?_, ⟨hloaded, hvalid⟩, ⟨hsame, hvalid⟩⟩
      simp [hsame]
    · have hdiffer : ((lib.loadContents (files.read (backupPath path))).1 ≠ .loaded ∨
          tree ≠ (lib.loadContents (files.read (backupPath path))).2) := by
        rw [← not_and_or]
        exact fun h => hsame (Prod.ext h.1 h.2.symm)
      refine ⟨files.write (backupPath path) text, ?_, ?_, hlib.holds htext hvalid⟩
      · rw [if_pos ⟨hdiffer, lib.loadContents_read files _⟩, run_bind,
          hlib.writeJsonAtomic_works (backupPath_ne_empty path) htext]
        rfl
      · rw [Holds, Files.read_write_of_ne (by simp)]
        exact ⟨hloaded, hvalid⟩
  · refine ⟨tree, htree, files.write path text, ?_, hlib.holds htext hholds.2, ?_⟩
    · have hinvalid : ¬ ((lib.loadContents (files.read path)).1 = .loaded ∧
          lib.validVibeshineTree (lib.loadContents (files.read path)).2) :=
        fun h => hnone _ ⟨Prod.ext h.1 rfl, h.2⟩
      simp only [hinvalid, if_false, hholds.1, hholds.2, reduceCtorEq, and_false, if_false, ne_eq, not_true_eq_false,
        Bool.not_true, Bool.false_eq_true, or_self, run_bind,
        hlib.writeJsonAtomic_works hpath htext]
      rfl
    · rw [Holds, Files.read_write_of_ne (backupPath_ne path)]
      exact hholds

end

end

lemma writeVibeshineState_unnamed (lib : TreeLibrary) (tree : PTree) :
    ∃ what, lib.writeVibeshineState "" tree (writeFile true) (readFile true) =
      .done (.error what) := by
  unfold writeVibeshineState
  split
  · exact ⟨_, rfl⟩
  · exact ⟨_, rfl⟩

lemma Run.path_ne {last : Option PTree} {since : List PTree}
    (hrun : Run lib path files last since) : last ≠ none → path ≠ "" := by
  induction hrun with
  | start => simp
  | @returned _ _ _ _ tree _ write _ =>
    rintro - rfl
    obtain ⟨what, hwrite⟩ := writeVibeshineState_unnamed lib tree
    rw [hwrite] at write
    cases write
  | interrupted _ _ _ ih | load _ _ ih => exact ih

/-- After any writes and loads of which a write returned normally, the loss or damage of at
most one file, and any failed loads, a load on working storage returns the tree of the last
write that returned normally or of an interrupted write begun after it, and leaves it in
both files. -/
theorem vibeshine_state_survives (lib : TreeLibrary) (hlib : lib.ReadsBack) (path : String)
    (files damaged before : Files) (returned : PTree) (since : List PTree)
    (hrun : Run lib path files (some returned) since)
    (hdamage : Damage lib path files damaged) (hloads : Loads lib path damaged before) :
    ∃ tree ∈ returned :: since, ∃ after,
      (lib.loadVibeshineState path (readFile true) (writeFile true)).run Files.work before =
        ((.loaded, tree), after) ∧
      lib.Holds after path tree ∧ lib.Holds after (backupPath path) tree :=
  (hloads.recoverable hlib (hdamage.recoverable (hrun.recent hlib returned rfl))).load_works hlib
    (hrun.path_ne (by simp))

def emptyState : PTree := .node "" [("root", .leaf "")]

def emptyStateText : String := "\x7b\n    \"root\": \"\"\n\x7d\n"

def emptyStateLibrary : TreeLibrary where
  readJson contents := if contents = emptyStateText then some emptyState else none
  writeJson tree := if tree = emptyState then some emptyStateText else none
  int64 _ := none
  bool _ := none

lemma emptyStateLibrary_readsBack : emptyStateLibrary.ReadsBack where
  opens h := by
    obtain ⟨_, htext⟩ := Option.ite_none_right_eq_some.1 h
    obtain rfl := Option.some.inj htext
    decide
  reads h := by
    obtain ⟨rfl, htext⟩ := Option.ite_none_right_eq_some.1 h
    obtain rfl := Option.some.inj htext
    rfl

def writtenFiles : Files :=
  Files.write (Files.write (fun _ => none) "state" emptyStateText) (backupPath "state")
    emptyStateText

/-- The empty state is written, and the primary is lost. -/
theorem vibeshine_state_survives_loss : ∃ tree ∈ [emptyState], ∃ after,
      (emptyStateLibrary.loadVibeshineState "state" (readFile true) (writeFile true)).run
        Files.work (Function.update writtenFiles "state" none) = ((.loaded, tree), after) ∧
      emptyStateLibrary.Holds after "state" tree ∧
      emptyStateLibrary.Holds after (backupPath "state") tree := by
  have hwrite : (emptyStateLibrary.writeVibeshineState "state" emptyState (writeFile true)
      (readFile true)).Finishes Files.Serves (fun _ => none) (.ok ()) writtenFiles := by
    have hrun := finishes_run Files.work_serves (emptyStateLibrary.writeVibeshineState "state"
      emptyState (writeFile true) (readFile true)) fun _ => none
    rwa [emptyStateLibrary_readsBack.writeVibeshineState_works (by decide) rfl (by decide)] at hrun
  refine vibeshine_state_survives emptyStateLibrary emptyStateLibrary_readsBack "state" _ _ _
    emptyState [] (.returned (.start _) hwrite) (.primary none ?_) .none
  intro tree hholds
  simp [Holds, HoldsVibeshine, Files.read, TreeLibrary.loadContents] at hholds

end TreeLibrary

end Vibeshine.StateFile
