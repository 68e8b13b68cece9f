import Vibeshine.ProcessTracker.Association

/-! # The tracker

The tracker holds the baseline and the tree of the processes that it attributes to the
launch. A later snapshot is associated anew, and what that selects is merged into the tree;
then the tree takes in the processes whose parent pid it has.
-/

namespace Vibeshine.ProcessTracker

open Library

def sameStart (start other : Nat) : Bool := start = 0 || other = 0 || start = other

lemma sameStart_self (start : Nat) : sameStart start start = true := by
  simp [sameStart]

structure Tracker where
  baseline : ProcessSnapshot := {}
  installDir : Text := []
  options : AssociationOptions := {}
  tree : TrackedTree := {}
  begun : Bool := false

namespace Tracker

variable (tracker : Tracker)

def clear (_tracker : Tracker) : Tracker := {}

def begin (installDir : Text) (options : AssociationOptions) (baseline : Option ProcessSnapshot) :
    Tracker × Bool :=
  let cleared := tracker.clear
  match baseline with
  | none => (cleared, false)
  | some baseline => ({ cleared with baseline, installDir, options, begun := true }, true)

def mergeProcess (tree : KeyedMap Nat TrackedProcess) (entry : Nat × TrackedProcess) :
    KeyedMap Nat TrackedProcess :=
  match tree.find? entry.1 with
  | none => tree.emplace entry.1 entry.2
  | some existing =>
    if sameStart existing.info.startTimeTicks entry.2.info.startTimeTicks then
      tree.emplace entry.1 entry.2
    -- a pid that was used again is a new identity
    else tree.assign entry.1 entry.2

variable (files : Files)

def adoptProcess (options : AssociationOptions)
    (tree : KeyedMap Nat TrackedProcess) (entry : Nat × ProcessInfo) :
    KeyedMap Nat TrackedProcess :=
  if tree.contains entry.1 || files.isProtectedSteamProcess entry.2 options then tree
  else if tree.contains entry.2.parentPid then tree.emplace entry.1 { info := entry.2 }
  else tree

variable (after : ProcessSnapshot)

def retains (entry : Nat × TrackedProcess) : Bool :=
  match after.processes.find? entry.1 with
  | none => false
  | some found => sameStart entry.2.info.startTimeTicks found.startTimeTicks

def finish : Tracker × AssociationResult :=
  if !tracker.begun then (tracker, { reason := "tracker was not started" })
  else
    let result := associate files tracker.baseline after tracker.installDir tracker.options
    if result.associated then
      if tracker.tree.empty then ({ tracker with tree := result.tree }, result)
      else
        let merged := result.tree.processes.entries.foldl mergeProcess tracker.tree.processes
        let adopted := after.processes.entries.foldl (adoptProcess files tracker.options) merged
        let tree := { tracker.tree with processes := adopted }
        ({ tracker with tree }, { result with tree })
    else if tracker.tree.empty then (tracker, result)
    else if tracker.tree.processes.entries.any (retains after) || !after.complete then
      (tracker, { result with
        outcome := .associated
        tree := tracker.tree
        reason := "retained previously associated game process tree" })
    else ({ tracker with tree := {} }, result)

/-- `finish` with the provider's snapshot. -/
def finishFromProvider (after : Option ProcessSnapshot) : Tracker × AssociationResult :=
  if !tracker.begun then (tracker, { reason := "tracker was not started" })
  else
    match after with
    | none => (tracker, { reason := "post-launch process snapshot is unavailable" })
    | some after => tracker.finish files after

def hasLiveProcesses (current : ProcessSnapshot) : Bool :=
  if tracker.tree.empty then false
  else tracker.tree.processes.entries.any (retains current) || !current.complete

end Tracker

/-! ## One poll -/

/-- What one call of `finish` reads. `creatorStart` gives, for each pid of the snapshot, the
start time of the process that created its process; no code reads it. -/
structure Poll where
  tracker : Tracker
  files : Files
  after : ProcessSnapshot
  creatorStart : Nat → Nat

namespace Poll

variable (poll : Poll)

def launch : Launch :=
  ⟨poll.files, poll.tracker.baseline, poll.after, poll.files.normalize poll.tracker.installDir,
    poll.tracker.options⟩

def before (pid : Nat) : Option TrackedProcess := poll.tracker.tree.processes.find? pid

def merged : KeyedMap Nat TrackedProcess :=
  poll.launch.selectedProcesses.entries.foldl Tracker.mergeProcess poll.tracker.tree.processes

def adopted : KeyedMap Nat TrackedProcess :=
  poll.after.processes.entries.foldl
    (Tracker.adoptProcess poll.files poll.tracker.options) poll.merged

def tree : KeyedMap Nat TrackedProcess :=
  (poll.tracker.finish poll.files poll.after).1.tree.processes

variable {poll : Poll} {pid : Nat}

lemma launch_selected_of_associated
    (h : (associate poll.files poll.tracker.baseline poll.after poll.tracker.installDir
      poll.tracker.options).associated = true) :
    (associate poll.files poll.tracker.baseline poll.after poll.tracker.installDir
      poll.tracker.options).tree.processes = poll.launch.selectedProcesses := by
  unfold associate at h ⊢
  dsimp only at h ⊢
  split_ifs at h ⊢
  · exact absurd h (by simp [AssociationResult.associated])
  · exact absurd h (by simp [AssociationResult.associated])
  · exact absurd h (by simp [AssociationResult.associated])
  · rfl

lemma finish_frame :
    (poll.tracker.finish poll.files poll.after).1.baseline = poll.tracker.baseline ∧
      (poll.tracker.finish poll.files poll.after).1.options = poll.tracker.options ∧
      (poll.tracker.finish poll.files poll.after).1.installDir = poll.tracker.installDir := by
  unfold Tracker.finish
  dsimp only
  split_ifs <;> exact ⟨rfl, rfl, rfl⟩

/-! ### The merge -/

def settle (existing : Option TrackedProcess) (process : TrackedProcess) : TrackedProcess :=
  match existing with
  | none => process
  | some existing =>
    if sameStart existing.info.startTimeTicks process.info.startTimeTicks then existing
    else process

lemma find?_mergeProcess {tree : KeyedMap Nat TrackedProcess} {entry : Nat × TrackedProcess} :
    (Tracker.mergeProcess tree entry).find? pid =
      if pid = entry.1 then some (settle (tree.find? entry.1) entry.2) else tree.find? pid := by
  unfold Tracker.mergeProcess settle
  cases hfound : tree.find? entry.1 with
  | none => rw [KeyedMap.find?_emplace, hfound, Option.none_or]
  | some existing =>
    dsimp only
    split
    · rw [KeyedMap.find?_emplace, hfound, Option.some_or]
    · rw [KeyedMap.find?_assign]

lemma find?_foldl_merge {entries : List (Nat × TrackedProcess)}
    (hordered : KeyMap.Ordered entries) {tree : KeyedMap Nat TrackedProcess} :
    (entries.foldl Tracker.mergeProcess tree).find? pid = match KeyMap.get? pid entries with
      | some process => some (settle (tree.find? pid) process)
      | none => tree.find? pid := by
  induction entries generalizing tree with
  | nil => rfl
  | cons entry entries ih =>
    obtain ⟨hfirst, hrest⟩ := List.pairwise_cons.mp hordered
    rw [List.foldl_cons, ih hrest, find?_mergeProcess, KeyMap.get?_cons]
    by_cases hpid : entry.1 = pid
    · have hlater : KeyMap.get? pid entries = none := by
        rw [KeyMap.get?_eq_none]
        intro hmem
        obtain ⟨later, hlater, hsame⟩ := List.mem_map.mp hmem
        exact absurd (hsame.trans hpid.symm) (hfirst later hlater).ne'
      rw [hlater, if_pos hpid, if_pos hpid.symm, hpid]
    · rw [if_neg hpid, if_neg (Ne.symm hpid)]

lemma find?_merged : poll.merged.find? pid = match poll.launch.selectedProcesses.find? pid with
      | some process => some (settle (poll.before pid) process)
      | none => poll.before pid :=
  find?_foldl_merge poll.launch.selectedProcesses.ordered

lemma tree_cases : (∀ pid entry, poll.tree.find? pid = some entry → poll.before pid = some entry) ∨
      poll.tree = poll.merged ∨ poll.tree = poll.adopted := by
  unfold tree Tracker.finish
  dsimp only
  split
  · exact .inl fun _ _ h => h
  split
  next hassociated =>
    have hselected := launch_selected_of_associated hassociated
    split
    next hempty =>
      refine .inr (.inl (hselected.trans (KeyedMap.ext fun pid => ?_)))
      have hbefore : poll.before pid = none :=
        KeyedMap.entries_eq_nil.mp (List.isEmpty_iff.mp hempty) pid
      rw [find?_merged, hbefore]
      cases poll.launch.selectedProcesses.find? pid <;> rfl
    next =>
      refine .inr (.inr ?_)
      unfold adopted merged
      rw [← hselected]
  next =>
    split
    · exact .inl fun _ _ h => h
    split
    · exact .inl fun _ _ h => h
    · exact .inl fun _ _ h => absurd h nofun

end Poll

end Vibeshine.ProcessTracker
