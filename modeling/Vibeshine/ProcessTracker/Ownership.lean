import Vibeshine.ProcessTracker.Tracker
import Vibeshine.Library.System

/-! # What the tracker takes for its own

A process is told from a later one with its pid by its start time. The tracker looks parents
up by pid alone, so what it adopts is descended from the launch in those runs where the
parent pids that lead to the launch still name the processes they were recorded for.
-/

namespace Vibeshine.ProcessTracker

open Library List

/-! ## One poll -/

/-- Whether a process with this start time, as far as it is known, is the one that created a
process whose creator started at `creatorStart`. -/
def IsCreator (start creatorStart : Nat) : Prop := start = 0 ∨ start = creatorStart

instance (start creatorStart : Nat) : Decidable (IsCreator start creatorStart) :=
  inferInstanceAs (Decidable (_ ∨ _))

namespace Poll

inductive Linked (poll : Poll) : Nat → ProcessInfo → Prop
  | evidence {pid : Nat} {process : ProcessInfo} (candidate : poll.launch.Candidate pid process)
      (shows : poll.launch.evidence process = true) : Linked poll pid process
  | tracked {pid : Nat} {process : ProcessInfo} {entry : TrackedProcess}
      (present : poll.after.processes.find? pid = some process)
      (unprotected : poll.launch.isProtected process = false)
      (follows : poll.before process.parentPid = some entry) : Linked poll pid process
  | child {pid : Nat} {process parent : ProcessInfo}
      (present : poll.after.processes.find? pid = some process)
      (unprotected : poll.launch.isProtected process = false)
      (follows : Linked poll process.parentPid parent) : Linked poll pid process

/-- The start time of the process that a pid stands for: the tracked one, unless a new process
of the launch has its pid, or the one that joins under it. -/
inductive Names (poll : Poll) (pid : Nat) : Nat → Prop
  | tracked {entry : TrackedProcess} (before : poll.before pid = some entry)
      (kept : ∀ process, poll.launch.Associated pid process →
        sameStart entry.info.startTimeTicks process.startTimeTicks = true) :
      Names poll pid entry.info.startTimeTicks
  | joining {process : ProcessInfo} (linked : poll.Linked pid process)
      (new : ∀ entry, poll.before pid = some entry → poll.launch.Associated pid process ∧
        sameStart entry.info.startTimeTicks process.startTimeTicks = false) :
      Names poll pid process.startTimeTicks

def CreatedByParent (poll : Poll) (pid : Nat) (process : ProcessInfo) : Prop :=
  ∀ start, poll.Names process.parentPid start → IsCreator start (poll.creatorStart pid)

def Tracks (poll : Poll) (pid : Nat) (process : ProcessInfo) : Prop :=
  ∃ entry, poll.before pid = some entry ∧
    sameStart entry.info.startTimeTicks process.startTimeTicks = true

/-- What the parent pids link to the launch appeared after the baseline, and its parent pid
names the process that created it. -/
def Faithful (poll : Poll) : Prop :=
  ∀ pid process, poll.Linked pid process → ¬ poll.Tracks pid process →
    poll.tracker.baseline.processes.find? pid = none ∧
      (poll.launch.evidence process = true ∨ poll.CreatedByParent pid process)

/-- A process joins by its own evidence, or beside a parent, the very process that created it,
that was in the tree or joins it in this poll. -/
inductive Joins (poll : Poll) (tree : KeyedMap Nat TrackedProcess) : Nat → ProcessInfo → Prop
  | evidence {pid : Nat} {process : ProcessInfo} (shows : poll.launch.evidence process = true) :
      Joins poll tree pid process
  | tracked {pid : Nat} {process : ProcessInfo} {parent : TrackedProcess}
      (before : poll.before process.parentPid = some parent)
      (creator : IsCreator parent.info.startTimeTicks (poll.creatorStart pid)) :
      Joins poll tree pid process
  | joined {pid : Nat} {process : ProcessInfo} {parent : TrackedProcess}
      (now : tree.find? process.parentPid = some parent)
      (creator : IsCreator parent.info.startTimeTicks (poll.creatorStart pid))
      (joins : Joins poll tree process.parentPid parent.info) : Joins poll tree pid process

/-- What is known of an entry that a poll puts into the tree. -/
structure Placed (poll : Poll) (tree : KeyedMap Nat TrackedProcess) (pid : Nat)
    (entry : TrackedProcess) : Prop where
  linked : poll.Linked pid entry.info
  new : ∀ old, poll.before pid = some old → poll.launch.Associated pid entry.info ∧
    sameStart old.info.startTimeTicks entry.info.startTimeTicks = false
  fresh : poll.tracker.baseline.processes.find? pid = none
  unprotected : poll.launch.isProtected entry.info = false
  joins : poll.Joins tree pid entry.info

/-- The invariant of the loops of a poll. -/
structure Settled (poll : Poll) (tree : KeyedMap Nat TrackedProcess) : Prop where
  holds : ∀ pid old, poll.before pid = some old → ∃ entry, tree.find? pid = some entry
  covers : ∀ pid process, poll.launch.Associated pid process → ∃ entry, tree.find? pid = some entry ∧
    sameStart entry.info.startTimeTicks process.startTimeTicks = true
  origin : ∀ pid entry, tree.find? pid = some entry →
    poll.before pid = some entry ∨ poll.Placed tree pid entry

variable {poll : Poll} {tree tree' : KeyedMap Nat TrackedProcess} {pid : Nat}
  {process : ProcessInfo} {entry : TrackedProcess}

lemma Linked.of_associated (h : poll.launch.Associated pid process) : poll.Linked pid process := by
  induction h with
  | evidence candidate shows => exact .evidence candidate shows
  | child candidate _ ih => exact .child candidate.present candidate.unprotected ih

lemma Joins.mono (hsub : ∀ pid entry, tree.find? pid = some entry → tree'.find? pid = some entry)
    (h : poll.Joins tree pid process) : poll.Joins tree' pid process := by
  induction h with
  | evidence shows => exact .evidence shows
  | tracked before creator => exact .tracked before creator
  | joined now creator _ ih => exact .joined (hsub _ _ now) creator ih

lemma Placed.mono (hsub : ∀ pid entry, tree.find? pid = some entry → tree'.find? pid = some entry)
    (h : poll.Placed tree pid entry) : poll.Placed tree' pid entry :=
  { h with joins := h.joins.mono hsub }

/-! ### The merge -/

lemma find?_selected_of_associated (h : poll.launch.Associated pid process) :
    poll.launch.selectedProcesses.find? pid = some { info := process } :=
  Launch.find?_selectedProcesses.mpr ⟨h, rfl⟩

lemma find?_merged_of_associated (h : poll.launch.Associated pid process) :
    poll.merged.find? pid = some (settle (poll.before pid) { info := process }) := by
  rw [find?_merged, find?_selected_of_associated h]

lemma settle_of_new {old : Option TrackedProcess} (hnew : ∀ existing, old = some existing →
      sameStart existing.info.startTimeTicks entry.info.startTimeTicks = false) :
    settle old entry = entry := by
  unfold settle
  split
  · rfl
  next existing => rw [if_neg (by simp [hnew existing rfl])]

lemma associated_unique {other : ProcessInfo} (h : poll.launch.Associated pid process)
    (hother : poll.launch.Associated pid other) : other = process :=
  Option.some_injective _ (hother.candidate.present.symm.trans h.candidate.present)

lemma joins_of_associated (hfaithful : poll.Faithful) (h : poll.launch.Associated pid process)
    (hnew : ∀ old, poll.before pid = some old →
      sameStart old.info.startTimeTicks process.startTimeTicks = false) :
    poll.Joins poll.merged pid process := by
  induction h with
  | evidence _ shows => exact .evidence shows
  | @child pid process parent candidate follows ih =>
    have hlinked : poll.Linked pid process := .of_associated (.child candidate follows)
    have huntracked : ¬ poll.Tracks pid process := by
      rintro ⟨old, hold, hsame⟩
      rw [hnew old hold] at hsame
      exact absurd hsame Bool.false_ne_true
    obtain ⟨-, hshows | hcreated⟩ := hfaithful pid process hlinked huntracked
    · exact .evidence hshows
    by_cases htracked : ∃ old, poll.before process.parentPid = some old ∧
        sameStart old.info.startTimeTicks parent.startTimeTicks = true
    · obtain ⟨old, hold, hsame⟩ := htracked
      refine .tracked hold (hcreated _ (.tracked hold fun other hother => ?_))
      rw [associated_unique follows hother]
      exact hsame
    · have hparentNew : ∀ old, poll.before process.parentPid = some old →
          sameStart old.info.startTimeTicks parent.startTimeTicks = false := by
        intro old hold
        exact Bool.eq_false_iff.mpr fun hsame => htracked ⟨old, hold, hsame⟩
      have hnow : poll.merged.find? process.parentPid = some { info := parent } := by
        rw [find?_merged_of_associated follows, settle_of_new hparentNew]
      exact .joined hnow (hcreated _ (.joining (.of_associated follows)
        fun old hold => ⟨follows, hparentNew old hold⟩)) (ih hparentNew)

lemma merged_settled (hfaithful : poll.Faithful) : poll.Settled poll.merged where
  holds pid old hold := by
    rw [find?_merged]
    split
    · exact ⟨_, rfl⟩
    · exact ⟨old, hold⟩
  covers pid process h := by
    refine ⟨_, find?_merged_of_associated h, ?_⟩
    unfold settle
    split
    · exact sameStart_self _
    · split
      next hsame => exact hsame
      next => exact sameStart_self _
  origin pid entry h := by
    rw [find?_merged] at h
    split at h
    next selected hselected =>
      obtain ⟨hassociated, -⟩ := Launch.find?_selectedProcesses.mp hselected
      by_cases htracked : ∃ old, poll.before pid = some old ∧
          sameStart old.info.startTimeTicks selected.info.startTimeTicks = true
      · obtain ⟨old, hold, hsame⟩ := htracked
        rw [hold, settle, if_pos hsame] at h
        exact .inl (hold.trans h)
      · have hnew : ∀ old, poll.before pid = some old →
            sameStart old.info.startTimeTicks selected.info.startTimeTicks = false := by
          intro old hold
          exact Bool.eq_false_iff.mpr fun hsame => htracked ⟨old, hold, hsame⟩
        rw [settle_of_new hnew] at h
        obtain rfl := Option.some_injective _ h
        exact .inr
          { linked := .of_associated hassociated
            new := fun old hold => ⟨hassociated, hnew old hold⟩
            fresh := hassociated.candidate.new
            unprotected := hassociated.candidate.unprotected
            joins := joins_of_associated hfaithful hassociated hnew }
    next => exact .inl h

/-! ### The adoption -/

lemma Settled.adopts (hsettled : poll.Settled tree) (hfaithful : poll.Faithful)
    (hpresent : poll.after.processes.find? pid = some process)
    (hunprotected : poll.launch.isProtected process = false) (hout : tree.find? pid = none)
    {parent : TrackedProcess} (hparent : tree.find? process.parentPid = some parent)
    (hsub : ∀ pid entry, tree.find? pid = some entry → tree'.find? pid = some entry) :
    poll.Placed tree' pid { info := process } := by
  have huntracked : ∀ old, poll.before pid ≠ some old := by
    intro old hold
    obtain ⟨entry, hentry⟩ := hsettled.holds pid old hold
    exact absurd (hout.symm.trans hentry) nofun
  obtain hbefore | hplaced := hsettled.origin _ _ hparent
  · have hlinked : poll.Linked pid process := .tracked hpresent hunprotected hbefore
    obtain ⟨hfresh, hjoins⟩ :=
      hfaithful pid process hlinked fun ⟨old, hold, _⟩ => huntracked old hold
    refine ⟨hlinked, fun old hold => absurd hold (huntracked old), hfresh, hunprotected, ?_⟩
    obtain hshows | hcreated := hjoins
    · exact .evidence hshows
    · refine .tracked hbefore (hcreated _ (.tracked hbefore fun other hother => ?_))
      obtain ⟨entry, hentry, hsame⟩ := hsettled.covers _ other hother
      rw [Option.some_injective _ (hparent.symm.trans hentry)]
      exact hsame
  · have hlinked : poll.Linked pid process := .child hpresent hunprotected hplaced.linked
    obtain ⟨hfresh, hjoins⟩ :=
      hfaithful pid process hlinked fun ⟨old, hold, _⟩ => huntracked old hold
    refine ⟨hlinked, fun old hold => absurd hold (huntracked old), hfresh, hunprotected, ?_⟩
    obtain hshows | hcreated := hjoins
    · exact .evidence hshows
    · exact .joined (hsub _ _ hparent) (hcreated _ (.joining hplaced.linked hplaced.new))
        (hplaced.joins.mono hsub)

lemma Settled.adoptProcess (hsettled : poll.Settled tree) (hfaithful : poll.Faithful)
    (hpresent : poll.after.processes.find? pid = some process) :
    poll.Settled (Tracker.adoptProcess poll.files poll.tracker.options tree (pid, process)) := by
  unfold Tracker.adoptProcess
  split
  · exact hsettled
  next hskip =>
    split
    next hparent =>
      obtain ⟨hout, hunprotected⟩ := not_or.mp fun h => hskip ((Bool.or_eq_true _ _).mpr h)
      have hnone : tree.find? pid = none :=
        KeyedMap.contains_eq_false.mp (Bool.eq_false_iff.mpr hout)
      obtain ⟨parent, hfound⟩ := Option.isSome_iff_exists.mp hparent
      have hsub : ∀ pid' entry, tree.find? pid' = some entry →
          (tree.emplace pid { info := process }).find? pid' = some entry :=
        fun _ _ => KeyedMap.find?_emplace_of_some
      refine ⟨fun pid' old hold => ?_, fun pid' other hother => ?_, fun pid' entry hentry => ?_⟩
      · exact (hsettled.holds pid' old hold).imp fun _ => hsub _ _
      · exact (hsettled.covers pid' other hother).imp fun _ => And.imp_left (hsub _ _)
      · rw [KeyedMap.find?_emplace] at hentry
        split at hentry
        next heq =>
          rw [hnone, Option.none_or] at hentry
          obtain rfl := Option.some_injective _ hentry
          rw [heq]
          exact .inr (hsettled.adopts hfaithful hpresent (Bool.eq_false_iff.mpr hunprotected) hnone
            hfound hsub)
        next => exact (hsettled.origin pid' entry hentry).imp_right (Placed.mono hsub)
    next => exact hsettled

lemma adopted_settled (hfaithful : poll.Faithful) : poll.Settled poll.adopted := by
  unfold adopted
  have hpresent : ∀ entry ∈ poll.after.processes.entries,
      poll.after.processes.find? entry.1 = some entry.2 := fun entry => KeyedMap.mem_entries.mp
  have hmerged := merged_settled hfaithful
  generalize poll.merged = tree at hmerged ⊢
  generalize poll.after.processes.entries = entries at hpresent
  induction entries generalizing tree with
  | nil => exact hmerged
  | cons entry entries ih =>
    exact ih _ (hmerged.adoptProcess hfaithful (hpresent entry mem_cons_self))
      fun e he => hpresent e (mem_cons_of_mem _ he)

lemma tree_origin (hfaithful : poll.Faithful) (h : poll.tree.find? pid = some entry) :
    poll.before pid = some entry ∨ poll.Placed poll.tree pid entry := by
  obtain hkept | hmerged | hadopted := poll.tree_cases
  · exact .inl (hkept pid entry h)
  · rw [hmerged] at h ⊢
    exact (merged_settled hfaithful).origin pid entry h
  · rw [hadopted] at h ⊢
    exact (adopted_settled hfaithful).origin pid entry h

end Poll

/-! ## Runs -/

/-- A process that a poll put into the tree. -/
structure Placement where
  poll : Poll
  pid : Nat
  process : ProcessInfo

def Poll.placements (poll : Poll) : List Placement :=
  (poll.tree.entries.filter fun entry => poll.before entry.1 ≠ some entry.2).map fun entry =>
    ⟨poll, entry.1, entry.2.info⟩

inductive TrackerCall where
  | begin (installDir : Text) (options : AssociationOptions) (baseline : Option ProcessSnapshot)
  | finish (files : Files) (after : ProcessSnapshot) (creatorStart : Nat → Nat)
  /-- The provider's own snapshot fails. -/
  | finishUnavailable (files : Files)
  | clear

structure World where
  tracker : Tracker := {}
  placements : List Placement := []

namespace World

def step (world : World) : TrackerCall → World
  | .begin installDir options baseline =>
    { world with tracker := (world.tracker.begin installDir options baseline).1 }
  | .finish files after creatorStart =>
    { tracker := (world.tracker.finish files after).1
      placements := world.placements ++ Poll.placements ⟨world.tracker, files, after, creatorStart⟩ }
  | .finishUnavailable files =>
    { world with tracker := (world.tracker.finishFromProvider files none).1 }
  | .clear => { world with tracker := world.tracker.clear }

def system : System World TrackerCall where
  init := {}
  admits _ _ := True
  step := step

def FaithfulStep (world : World) : TrackerCall → Prop
  | .finish files after creatorStart =>
    world.tracker.begun = true → Poll.Faithful ⟨world.tracker, files, after, creatorStart⟩
  | _ => True

end World

/-- What the tracker promises of a process in its tree. -/
structure Placement.Owned (placement : Placement) : Prop where
  fresh : placement.poll.tracker.baseline.processes.find? placement.pid = none
  unprotected : placement.poll.launch.isProtected placement.process = false
  joins : placement.poll.Joins placement.poll.tree placement.pid placement.process

inductive Descends (placements : List Placement) : Placement → Prop
  | evidence {placement : Placement} (placed : placement ∈ placements)
      (shows : placement.poll.launch.evidence placement.process = true) :
      Descends placements placement
  | created {placement parent : Placement} (placed : placement ∈ placements)
      (descends : Descends placements parent) (named : parent.pid = placement.process.parentPid)
      (creator : IsCreator parent.process.startTimeTicks
        (placement.poll.creatorStart placement.pid)) : Descends placements placement

/-- A record of the present launch. -/
structure Placement.Records (placement : Placement) (tracker : Tracker) (pid : Nat)
    (process : ProcessInfo) : Prop where
  pid : placement.pid = pid
  process : placement.process = process
  baseline : placement.poll.tracker.baseline = tracker.baseline
  options : placement.poll.tracker.options = tracker.options
  installDir : placement.poll.tracker.installDir = tracker.installDir

structure World.Owned (world : World) : Prop where
  owned : ∀ placement ∈ world.placements, placement.Owned
  descends : ∀ placement ∈ world.placements, Descends world.placements placement
  recorded : ∀ pid entry, world.tracker.tree.processes.find? pid = some entry →
    ∃ placement ∈ world.placements, placement.Records world.tracker pid entry.info

lemma Descends.mono {placements placements' : List Placement} {placement : Placement}
    (hsub : placements ⊆ placements') (h : Descends placements placement) :
    Descends placements' placement := by
  induction h with
  | evidence placed shows => exact .evidence (hsub placed) shows
  | created placed _ named creator ih => exact .created (hsub placed) ih named creator

namespace Poll

variable {poll : Poll} {pid : Nat} {process : ProcessInfo}

lemma mem_placements {placement : Placement} :
    placement ∈ poll.placements ↔ ∃ entry, poll.tree.find? placement.pid = some entry ∧
      poll.before placement.pid ≠ some entry ∧ placement = ⟨poll, placement.pid, entry.info⟩ := by
  unfold placements
  simp only [mem_map, mem_filter, decide_eq_true_eq]
  constructor
  · rintro ⟨⟨pid, entry⟩, ⟨hentry, hnew⟩, rfl⟩
    exact ⟨entry, KeyedMap.mem_entries.mp hentry, hnew, rfl⟩
  · rintro ⟨entry, hfound, hnew, heq⟩
    exact ⟨(placement.pid, entry), ⟨KeyedMap.mem_entries.mpr hfound, hnew⟩, heq.symm⟩

lemma owned_placements (hfaithful : poll.Faithful) {placement : Placement}
    (h : placement ∈ poll.placements) : placement.Owned := by
  obtain ⟨entry, hfound, hnew, heq⟩ := mem_placements.mp h
  have hplaced := (tree_origin hfaithful hfound).resolve_left hnew
  rw [heq]
  exact ⟨hplaced.fresh, hplaced.unprotected, hplaced.joins⟩

lemma descends_of_joins {old : List Placement}
    (hold : ∀ pid entry, poll.before pid = some entry → ∃ placement,
      Descends old placement ∧ placement.pid = pid ∧ placement.process = entry.info)
    (hjoins : poll.Joins poll.tree pid process)
    (hplaced : (⟨poll, pid, process⟩ : Placement) ∈ poll.placements) :
    Descends (old ++ poll.placements) ⟨poll, pid, process⟩ := by
  have hmem : ∀ {placement : Placement}, placement ∈ poll.placements →
      placement ∈ old ++ poll.placements := mem_append_right _
  induction hjoins with
  | evidence shows => exact .evidence (hmem hplaced) shows
  | tracked before creator =>
    obtain ⟨parent, hdescends, hpid, hprocess⟩ := hold _ _ before
    refine .created (hmem hplaced) (hdescends.mono (subset_append_left _ _)) hpid ?_
    rw [hprocess]
    exact creator
  | @joined pid process parent now creator _ ih =>
    by_cases hbefore : poll.before process.parentPid = some parent
    · obtain ⟨known, hdescends, hpid, hprocess⟩ := hold _ _ hbefore
      refine .created (hmem hplaced) (hdescends.mono (subset_append_left _ _)) hpid ?_
      rw [hprocess]
      exact creator
    · exact .created (hmem hplaced) (ih (mem_placements.mpr ⟨parent, now, hbefore, rfl⟩)) rfl
        creator

end Poll

namespace World

variable {world : World}

lemma Owned.withTracker {tracker : Tracker} (h : world.Owned)
    (htree : ∀ pid, tracker.tree.processes.find? pid = none) : Owned { world with tracker } :=
  { owned := h.owned
    descends := h.descends
    recorded := fun pid _ hentry => absurd ((htree pid).symm.trans hentry) nofun }

lemma placements_of_not_begun (poll : Poll) (h : poll.tracker.begun = false) :
    (poll.tracker.finish poll.files poll.after).1 = poll.tracker ∧ poll.placements = [] := by
  have hsame : (poll.tracker.finish poll.files poll.after).1 = poll.tracker := by
    unfold Tracker.finish
    rw [h]
    rfl
  refine ⟨hsame, eq_nil_iff_forall_not_mem.mpr fun placement hplacement => ?_⟩
  obtain ⟨entry, hfound, hnew, -⟩ := Poll.mem_placements.mp hplacement
  unfold Poll.tree at hfound
  rw [hsame] at hfound
  exact hnew hfound

lemma Owned.finish {files : Files} {after : ProcessSnapshot} {creatorStart : Nat → Nat}
    (h : world.Owned) (hfaithful : Poll.Faithful ⟨world.tracker, files, after, creatorStart⟩) :
    (world.step (.finish files after creatorStart)).Owned := by
  generalize hpoll : (⟨world.tracker, files, after, creatorStart⟩ : Poll) = poll at hfaithful
  have hstep : world.step (.finish files after creatorStart) =
      ⟨(poll.tracker.finish poll.files poll.after).1, world.placements ++ poll.placements⟩ := by
    rw [← hpoll]
    rfl
  have htracker : poll.tracker = world.tracker := by rw [← hpoll]
  have hbefore : ∀ pid entry, poll.before pid = some entry →
      ∃ placement ∈ world.placements, placement.Records world.tracker pid entry.info := by
    intro pid entry hentry
    unfold Poll.before at hentry
    rw [htracker] at hentry
    exact h.recorded pid entry hentry
  rw [hstep]
  refine ⟨fun placement hplacement => ?_, fun placement hplacement => ?_, fun pid entry hentry => ?_⟩
  · obtain hold | hnew := mem_append.mp hplacement
    · exact h.owned placement hold
    · exact Poll.owned_placements hfaithful hnew
  · obtain hold | hnew := mem_append.mp hplacement
    · exact (h.descends placement hold).mono (subset_append_left _ _)
    · have hjoins := (Poll.owned_placements hfaithful hnew).joins
      obtain ⟨entry, -, -, heq⟩ := Poll.mem_placements.mp hnew
      rw [heq] at hjoins hnew ⊢
      refine Poll.descends_of_joins (fun pid old hfound => ?_) hjoins hnew
      obtain ⟨known, hmem, hrecs⟩ := hbefore pid old hfound
      exact ⟨known, h.descends known hmem, hrecs.pid, hrecs.process⟩
  · obtain ⟨hbaseline, hoptions, hinstall⟩ := poll.finish_frame
    have hframe : ∀ {placement : Placement}, placement.Records world.tracker pid entry.info →
        placement.Records (poll.tracker.finish poll.files poll.after).1 pid entry.info :=
      fun hrecs => ⟨hrecs.pid, hrecs.process,
        hrecs.baseline.trans (htracker ▸ hbaseline.symm),
        hrecs.options.trans (htracker ▸ hoptions.symm),
        hrecs.installDir.trans (htracker ▸ hinstall.symm)⟩
    by_cases hkept : poll.before pid = some entry
    · obtain ⟨known, hmem, hrecs⟩ := hbefore pid entry hkept
      exact ⟨known, mem_append_left _ hmem, hframe hrecs⟩
    · refine ⟨⟨poll, pid, entry.info⟩, mem_append_right _ ?_, rfl, rfl, hbaseline.symm,
        hoptions.symm, hinstall.symm⟩
      exact Poll.mem_placements.mpr ⟨entry, hentry, hkept, rfl⟩

lemma Owned.step {call : TrackerCall} (h : world.Owned) (hfaithful : world.FaithfulStep call) :
    (world.step call).Owned := by
  cases call with
  | begin installDir options baseline =>
    refine h.withTracker fun pid => ?_
    cases baseline <;> rfl
  | finish files after creatorStart =>
    cases hbegun : world.tracker.begun with
    | true => exact h.finish (hfaithful hbegun)
    | false =>
      obtain ⟨hsame, hnone⟩ := placements_of_not_begun
        ⟨world.tracker, files, after, creatorStart⟩ hbegun
      have hstep : world.step (.finish files after creatorStart) = world := by
        change World.mk (world.tracker.finish files after).1 (world.placements ++ _) = world
        rw [hnone, append_nil]
        exact congrArg (World.mk · world.placements) hsame
      rw [hstep]
      exact h
  | finishUnavailable files =>
    have hsame : (world.tracker.finishFromProvider files none).1 = world.tracker := by
      unfold Tracker.finishFromProvider
      split <;> rfl
    change (World.mk (world.tracker.finishFromProvider files none).1 world.placements).Owned
    rw [hsame]
    exact h
  | clear => exact h.withTracker fun _ => rfl

lemma owned_of_reachable (h : system.ReachableUnder FaithfulStep world) : world.Owned := by
  refine h.invariant ?_ fun _ _ howned _ hfaithful => howned.step hfaithful
  exact ⟨nofun, nofun, fun _ _ h => absurd h nofun⟩

end World

/-! ## One snapshot, and the question whether the game still runs -/

/-- The sets of candidates that hold those with evidence and every candidate child of a member. -/
structure Launch.Closed (launch : Launch) (pids : Set Nat) : Prop where
  candidates : ∀ pid ∈ pids, ∃ process, launch.Candidate pid process
  evidence : ∀ pid process, launch.Candidate pid process → launch.evidence process = true →
    pid ∈ pids
  children : ∀ pid process, launch.Candidate pid process → process.parentPid ∈ pids → pid ∈ pids

/-- The pids of the tree that `associate` gives. -/
def associatedPids (files : Files) (baseline after : ProcessSnapshot) (installDir : Text)
    (options : AssociationOptions) : Set Nat :=
  {pid | (associate files baseline after installDir options).tree.processes.contains pid = true}

namespace Launch

variable {launch : Launch} {pid : Nat} {process : ProcessInfo}

lemma Associated.mem_closed {pids : Set Nat} (hclosed : launch.Closed pids)
    (h : launch.Associated pid process) : pid ∈ pids := by
  induction h with
  | evidence candidate shows => exact hclosed.evidence _ _ candidate shows
  | child candidate _ ih => exact hclosed.children _ _ candidate ih

lemma isLeast_associated :
    IsLeast {pids | launch.Closed pids} {pid | ∃ process, launch.Associated pid process} := by
  constructor
  · refine ⟨fun pid h => h.imp fun _ => Associated.candidate, ?_, ?_⟩
    · intro pid process hcandidate hshows
      exact ⟨process, .evidence hcandidate hshows⟩
    · rintro pid process hcandidate ⟨parent, hparent⟩
      exact ⟨process, .child hcandidate hparent⟩
  · rintro pids hclosed pid ⟨process, h⟩
    exact h.mem_closed hclosed

lemma no_evidence (hempty : launch.installDir.isEmpty = true) :
    launch.evidence process = false := by
  have hpath : ∀ path, launch.files.pathIsWithin path launch.installDir = false := by
    intro path
    unfold Files.pathIsWithin
    rw [if_pos (by simp [hempty])]
  simp [evidence, Files.installEvidence, Files.directInstallEvidence,
    Files.commandLineContainsInstall, hpath]

lemma not_associated_of_no_evidence (h : ∀ process, launch.evidence process = false) :
    ¬ launch.Associated pid process := by
  intro hassociated
  induction hassociated with
  | evidence _ shows => exact absurd (shows.symm.trans (h _)) nofun
  | child _ _ ih => exact ih

end Launch

lemma find?_associate {files : Files} {baseline after : ProcessSnapshot} {installDir : Text}
    {options : AssociationOptions} {pid : Nat} {entry : TrackedProcess} :
    (associate files baseline after installDir options).tree.processes.find? pid = some entry ↔
      Launch.Associated ⟨files, baseline, after, files.normalize installDir, options⟩ pid
        entry.info ∧ entry.protectedProcess = false := by
  generalize hlaunch :
    (⟨files, baseline, after, files.normalize installDir, options⟩ : Launch) = launch
  have hnone : (∀ process, ¬ launch.Associated pid process) →
      ((KeyedMap.empty : KeyedMap Nat TrackedProcess).find? pid = some entry ↔
        launch.Associated pid entry.info ∧ entry.protectedProcess = false) := by
    intro hno
    exact ⟨nofun, fun h => absurd h.1 (hno _)⟩
  unfold associate
  rw [hlaunch]
  dsimp only
  split_ifs with hempty hfresh hselected
  · exact hnone fun process =>
      Launch.not_associated_of_no_evidence fun process => Launch.no_evidence hempty
  · refine hnone fun process h => ?_
    have hmem := Launch.mem_fresh.mpr ⟨h.candidate.present, h.candidate.new⟩
    rw [List.isEmpty_iff.mp hfresh] at hmem
    exact absurd hmem not_mem_nil
  · refine hnone fun process h => ?_
    have hmem := Launch.selected_of_associated h
    rw [List.isEmpty_iff.mp hselected] at hmem
    exact absurd hmem not_mem_nil
  · exact Launch.find?_selectedProcesses

lemma associate_least (files : Files) (baseline after : ProcessSnapshot) (installDir : Text)
    (options : AssociationOptions) : IsLeast {pids | Launch.Closed
        ⟨files, baseline, after, files.normalize installDir, options⟩ pids}
      (associatedPids files baseline after installDir options) := by
  have hsame : associatedPids files baseline after installDir options =
      {pid | ∃ process, Launch.Associated
        ⟨files, baseline, after, files.normalize installDir, options⟩ pid process} := by
    ext pid
    constructor
    · intro h
      obtain ⟨entry, hentry⟩ := Option.isSome_iff_exists.mp h
      exact ⟨entry.info, (find?_associate.mp hentry).1⟩
    · rintro ⟨process, h⟩
      exact Option.isSome_iff_exists.mpr ⟨{ info := process }, find?_associate.mpr ⟨h, rfl⟩⟩
  rw [hsame]
  exact Launch.isLeast_associated

def Tracker.SeenIn (tracker : Tracker) (current : ProcessSnapshot) : Prop :=
  ∃ pid entry found, tracker.tree.processes.find? pid = some entry ∧
    current.processes.find? pid = some found ∧
    sameStart entry.info.startTimeTicks found.startTimeTicks = true

lemma Tracker.any_retains {tracker : Tracker} {current : ProcessSnapshot} :
    tracker.tree.processes.entries.any (retains current) = true ↔ tracker.SeenIn current := by
  rw [any_eq_true]
  constructor
  · rintro ⟨⟨pid, entry⟩, hentry, hretains⟩
    unfold retains at hretains
    split at hretains
    next => exact absurd hretains Bool.false_ne_true
    next found hfound => exact ⟨pid, entry, found, KeyedMap.mem_entries.mp hentry, hfound, hretains⟩
  · rintro ⟨pid, entry, found, hentry, hfound, hsame⟩
    refine ⟨(pid, entry), KeyedMap.mem_entries.mpr hentry, ?_⟩
    unfold retains
    rw [hfound]
    exact hsame

lemma Tracker.hasLiveProcesses_eq_false {tracker : Tracker} {current : ProcessSnapshot} :
    tracker.hasLiveProcesses current = false ↔
      tracker.tree.empty = true ∨ current.complete = true ∧ ¬ tracker.SeenIn current := by
  unfold hasLiveProcesses
  rw [← any_retains]
  cases tracker.tree.empty <;> simp [and_comm]

/-- A process of the baseline has neither a tracked nor a present parent; any other one's
parent, where it is tracked or present, is its creator. -/
def Poll.calm (poll : Poll) (entry : Nat × ProcessInfo) : Bool :=
  let tracked := poll.before entry.2.parentPid
  let present := poll.after.processes.find? entry.2.parentPid
  if poll.tracker.baseline.processes.contains entry.1 then tracked.isNone && present.isNone
  else
    tracked.all (fun parent => IsCreator parent.info.startTimeTicks (poll.creatorStart entry.1)) &&
      present.all (fun parent => IsCreator parent.startTimeTicks (poll.creatorStart entry.1))

namespace Poll

variable {poll : Poll} {pid : Nat} {process : ProcessInfo}

lemma Linked.present (h : poll.Linked pid process) :
    poll.after.processes.find? pid = some process := by
  cases h with
  | evidence candidate _ => exact candidate.present
  | tracked present _ _ | child present _ _ => exact present

lemma faithful_of_calm (h : poll.after.processes.entries.all poll.calm = true) : poll.Faithful := by
  intro pid process hlinked _
  have hcalm := all_eq_true.mp h (pid, process) (KeyedMap.mem_entries.mpr hlinked.present)
  unfold calm at hcalm
  dsimp only at hcalm
  split at hcalm
  next hbaseline =>
    obtain ⟨htracked, hpresent⟩ := (Bool.and_eq_true _ _).mp hcalm
    rw [Option.isNone_iff_eq_none] at htracked hpresent
    cases hlinked with
    | evidence candidate _ =>
      exact absurd (hbaseline.symm.trans (KeyedMap.contains_eq_false.mpr candidate.new)) nofun
    | tracked _ _ follows => exact absurd (htracked.symm.trans follows) nofun
    | child _ _ follows => exact absurd (hpresent.symm.trans follows.present) nofun
  next hfresh =>
    obtain ⟨htracked, hpresent⟩ := (Bool.and_eq_true _ _).mp hcalm
    refine ⟨KeyedMap.contains_eq_false.mp (Bool.eq_false_iff.mpr hfresh), .inr ?_⟩
    intro start hnames
    cases hnames with
    | tracked before _ =>
      rw [before] at htracked
      exact of_decide_eq_true htracked
    | joining linked _ =>
      rw [linked.present] at hpresent
      exact of_decide_eq_true hpresent

end Poll

/-! ## The contract of the tracker -/

/-- In every run whose polls are faithful, whatever was put into the tree was not in the
baseline, is no protected process, and joined by evidence or beside the process that created
it; it descends from the launch, and the tree holds nothing else. For one snapshot the
association is the least closed set, and a tree has no live process only where a complete
snapshot shows none. -/
theorem process_tree_owned (world : World) (h : World.system.ReachableUnder World.FaithfulStep world) :
    (∀ placement ∈ world.placements, placement.Owned ∧ Descends world.placements placement) ∧
    (∀ pid entry, world.tracker.tree.processes.find? pid = some entry →
      ∃ placement ∈ world.placements, placement.Records world.tracker pid entry.info) ∧
    (∀ files baseline after installDir options, IsLeast
      {pids | Launch.Closed ⟨files, baseline, after, files.normalize installDir, options⟩ pids}
      (associatedPids files baseline after installDir options)) ∧
    (∀ current, world.tracker.hasLiveProcesses current = false → world.tracker.tree.empty = true ∨
        current.complete = true ∧ ¬ world.tracker.SeenIn current) := by
  have howned := World.owned_of_reachable h
  exact ⟨fun placement hplaced => ⟨howned.owned placement hplaced, howned.descends placement hplaced⟩,
    howned.recorded, associate_least, fun _ => Tracker.hasLiveProcesses_eq_false.mp⟩

def plainFiles : Files where
  windows := false
  weaklyCanonical := some
  absolute := some
  lexicallyNormal := id
  genericString := id
  components path := path.splitOn '/'
  filename path := (path.splitOn '/').getLast?.getD []

def gameDirectory : Text := "/games/g".toList

def initProcess : ProcessInfo := { pid := 1, executable := "/sbin/init".toList, startTimeTicks := 1 }

def gameProcess : ProcessInfo :=
  { pid := 40, parentPid := 1, executable := "/games/g/game".toList, startTimeTicks := 70 }

def orphanProcess : ProcessInfo :=
  { pid := 50, parentPid := 40, executable := "/usr/bin/editor".toList, startTimeTicks := 20 }

def rendererProcess : ProcessInfo :=
  { pid := 60, parentPid := 40, executable := "/usr/bin/renderer".toList, startTimeTicks := 80 }

def beforeLaunch : ProcessSnapshot where
  processes := ⟨[(1, initProcess), (50, orphanProcess)], by decide⟩

def afterLaunch : ProcessSnapshot where
  processes := ⟨[(1, initProcess), (40, gameProcess), (50, orphanProcess)], by decide⟩

def orphanPolls : List TrackerCall :=
  [.begin gameDirectory {} (some beforeLaunch), .finish plainFiles afterLaunch fun _ => 10,
    .finish plainFiles afterLaunch fun _ => 10]

theorem orphan_adopted :
    ¬ ∀ world, World.system.Reachable world → ∀ placement ∈ world.placements, placement.Owned := by
  intro hclaim
  have hreach : World.system.Reachable (World.system.run {} orphanPolls) :=
    .of_follows .refl ⟨trivial, trivial, trivial, trivial, trivial, trivial, trivial⟩
  have hadopted : ((World.system.run {} orphanPolls).placements.any fun placement =>
      placement.poll.tracker.baseline.processes.contains placement.pid) = true := by
    decide +kernel
  obtain ⟨placement, hplacement, hold⟩ := any_eq_true.mp hadopted
  have howned := hclaim _ hreach placement hplacement
  rw [KeyedMap.contains_eq_false.mpr howned.fresh] at hold
  exact absurd hold Bool.false_ne_true

def quietBaseline : ProcessSnapshot where
  processes := ⟨[(1, initProcess)], by decide⟩

def quietPolls : List TrackerCall :=
  [.begin gameDirectory {} (some quietBaseline),
    .finish plainFiles ⟨true, ⟨[(1, initProcess), (40, gameProcess)], by decide⟩⟩ fun _ => 1,
    .finish plainFiles
      ⟨true, ⟨[(1, initProcess), (40, gameProcess), (60, rendererProcess)], by decide⟩⟩
      fun pid => if pid = 60 then 70 else 1]

theorem quiet_polls_owned : (World.system.run {} quietPolls).placements.map (·.pid) = [40, 60] ∧
      ∀ placement ∈ (World.system.run {} quietPolls).placements, placement.Owned := by
  have hreach : World.system.ReachableUnder World.FaithfulStep (World.system.run {} quietPolls) := by
    refine .of_follows .refl ⟨trivial, trivial, trivial, fun _ => ?_, trivial, fun _ => ?_, trivial⟩
    · exact Poll.faithful_of_calm (by decide +kernel)
    · exact Poll.faithful_of_calm (by decide +kernel)
  have howned := process_tree_owned _ hreach
  exact ⟨by decide +kernel, fun placement hplacement => (howned.1 placement hplacement).1⟩

end Vibeshine.ProcessTracker
