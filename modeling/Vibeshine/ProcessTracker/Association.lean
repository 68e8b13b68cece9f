import Vibeshine.Library.KeyedMap
import Vibeshine.Library.Saturation

/-! # The association of processes with a launch

A snapshot of the processes is compared with the one taken before the launch: of the
processes that appeared since, those with evidence of the install directory are selected,
and with them their new descendants.
-/

namespace Vibeshine.ProcessTracker

open Library

abbrev Text := List Char

structure ProcessInfo where
  pid : Nat := 0
  parentPid : Nat := 0
  executable : Text := []
  cwd : Text := []
  commandLine : List Text := []
  /-- Zero where the platform gives no identity value. -/
  startTimeTicks : Nat := 0
  deriving DecidableEq

structure ProcessSnapshot where
  complete : Bool := true
  processes : KeyedMap Nat ProcessInfo := .empty

inductive AssociationOutcome where
  | associated
  | baselineOnly
  | untrackable
  deriving DecidableEq

structure TrackedProcess where
  info : ProcessInfo
  protectedProcess : Bool := false
  deriving DecidableEq

structure TrackedTree where
  rootPid : Nat := 0
  installDir : Text := []
  processes : KeyedMap Nat TrackedProcess := .empty

def TrackedTree.empty (tree : TrackedTree) : Bool := tree.processes.entries.isEmpty

structure AssociationResult where
  outcome : AssociationOutcome := .untrackable
  tree : TrackedTree := {}
  reason : String := ""

def AssociationResult.associated (result : AssociationResult) : Bool :=
  result.outcome = .associated

structure AssociationOptions where
  protectedSteamRoots : List Nat := []

/-! ## Paths -/

/-- The file system, and the platform's operations on paths. -/
structure Files where
  windows : Bool
  weaklyCanonical : Text → Option Text
  absolute : Text → Option Text
  lexicallyNormal : Text → Text
  genericString : Text → Text
  components : Text → List Text
  filename : Text → Text

def lower (value : Text) : Text := value.map Char.toLower

namespace Files

variable (files : Files) (value : Text)

def normalize : Text :=
  if value.isEmpty then []
  else
    let resolved := (files.weaklyCanonical value).getD ((files.absolute value).getD value)
    let result := files.lexicallyNormal resolved
    if files.windows then lower (files.genericString result) else result

/-- How `path_is_within` reads one component. -/
def component (part : Text) : Text :=
  if files.windows then lower (files.genericString part) else files.genericString part

def startsWith : List Text → List Text → Bool
  | _, [] => true
  | [], _ :: _ => false
  | part :: candidate, rootPart :: root =>
    files.component part = files.component rootPart && startsWith candidate root

def pathIsWithin (path directory : Text) : Bool :=
  if path.isEmpty || directory.isEmpty then false
  else
    let candidate := files.normalize path
    let root := files.normalize directory
    if candidate.isEmpty || root.isEmpty then false
    else files.startsWith (files.components candidate) (files.components root)

def basename : Text := lower (files.filename value)

def looksLikeSteam : Bool :=
  files.basename value ∈ [
    "steam".toList, "steam.exe".toList, "steamwebhelper".toList, "steamwebhelper.exe".toList,
    "steamservice".toList, "steamservice.exe".toList, "steam-runtime".toList,
    "steam-runtime-sniper".toList, "steam-launch-wrapper".toList]

variable (process : ProcessInfo)

def looksLikeCompatibilityRuntime : Bool :=
  let exe := files.basename process.executable
  "proton".toList <:+: exe || "wine".toList <:+: exe ||
    exe = "pressure-vessel".toList || exe = "pressure-vessel-wrap".toList ||
    exe = "gamescope".toList ||
    process.commandLine.any fun argument =>
      let value := files.basename argument
      "proton".toList <:+: value || "wine".toList <:+: value ||
        value = "pressure-vessel".toList || value = "pressure-vessel-wrap".toList

variable (installDir : Text)

def commandLineContainsInstall : Bool :=
  process.commandLine.any fun argument =>
    files.pathIsWithin argument installDir ||
      (files.genericString argument).contains '/' &&
        files.pathIsWithin (files.genericString argument) installDir

def directInstallEvidence : Bool :=
  files.pathIsWithin process.executable installDir || files.pathIsWithin process.cwd installDir ||
    files.commandLineContainsInstall process installDir

def isProtectedSteamProcess (options : AssociationOptions) : Bool :=
  process.pid ∈ options.protectedSteamRoots || files.looksLikeSteam process.executable ||
    match process.commandLine with
    | [] => false
    | first :: _ => files.looksLikeSteam first

/-- The test by which `associate` selects a process of its own. -/
def installEvidence : Bool :=
  files.directInstallEvidence process installDir ||
    files.looksLikeCompatibilityRuntime process &&
      files.commandLineContainsInstall process installDir

end Files

/-- What `associate` is given. -/
structure Launch where
  files : Files
  baseline : ProcessSnapshot
  after : ProcessSnapshot
  /-- The install directory, normalized. -/
  installDir : Text
  options : AssociationOptions

namespace Launch

variable (launch : Launch)

def isProtected (process : ProcessInfo) : Bool :=
  launch.files.isProtectedSteamProcess process launch.options

def evidence (process : ProcessInfo) : Bool :=
  launch.files.installEvidence process launch.installDir

def fresh : KeyedMap Nat ProcessInfo :=
  launch.after.processes.filter fun entry => !launch.baseline.processes.contains entry.1

def direct : List Nat :=
  (launch.fresh.entries.filter fun entry =>
    !launch.isProtected entry.2 && launch.evidence entry.2).map (·.1)

def follows (selected : List Nat) (entry : Nat × ProcessInfo) : Bool :=
  !launch.isProtected entry.2 && entry.2.parentPid ∈ selected

def selected : List Nat :=
  Saturation.saturate (·.1) launch.follows launch.fresh.entries (launch.fresh.entries.length + 1)
    launch.direct

def selectedProcesses : KeyedMap Nat TrackedProcess :=
  (launch.fresh.filter fun entry => entry.1 ∈ launch.selected).mapValues fun process => { info := process }

end Launch

def launchRoot (processes : KeyedMap Nat TrackedProcess) : Nat :=
  match processes.entries.find? fun entry => !processes.contains entry.2.info.parentPid with
  | some entry => entry.1
  | none => 0

def associate (files : Files) (baseline after : ProcessSnapshot) (installDir : Text)
    (options : AssociationOptions) : AssociationResult :=
  let launch : Launch := ⟨files, baseline, after, files.normalize installDir, options⟩
  let tree : TrackedTree := { installDir := launch.installDir }
  if launch.installDir.isEmpty then
    { tree, reason := "process snapshot or install directory is unavailable" }
  else if launch.fresh.entries.isEmpty then
    { tree, outcome := .baselineOnly, reason := "no process appeared after the launch baseline" }
  else if launch.selected.isEmpty then
    { tree, outcome := .untrackable,
      reason := "new processes had no install-directory or compatibility-runtime evidence" }
  else
    let processes := launch.selectedProcesses
    { outcome := .associated
      tree := { tree with processes, rootPid := launchRoot processes }
      reason := "associated new game process tree" }

/-! ## What is selected -/

namespace Launch

variable {launch : Launch} {pid : Nat} {process parent : ProcessInfo}

/-- The processes that `associate` may select. -/
structure Candidate (launch : Launch) (pid : Nat) (process : ProcessInfo) : Prop where
  present : launch.after.processes.find? pid = some process
  new : launch.baseline.processes.find? pid = none
  unprotected : launch.isProtected process = false

inductive Associated (launch : Launch) : Nat → ProcessInfo → Prop
  | evidence {pid : Nat} {process : ProcessInfo} (candidate : launch.Candidate pid process)
      (shows : launch.evidence process = true) : Associated launch pid process
  | child {pid : Nat} {process parent : ProcessInfo} (candidate : launch.Candidate pid process)
      (follows : Associated launch process.parentPid parent) : Associated launch pid process

lemma Associated.candidate (h : launch.Associated pid process) : launch.Candidate pid process := by
  cases h <;> assumption

lemma mem_fresh : (pid, process) ∈ launch.fresh.entries ↔
      launch.after.processes.find? pid = some process ∧
        launch.baseline.processes.find? pid = none := by
  rw [KeyedMap.mem_entries, fresh, KeyedMap.find?_filter, Bool.not_eq_true',
    KeyedMap.contains_eq_false]

lemma mem_direct : pid ∈ launch.direct ↔
      ∃ process, launch.Candidate pid process ∧ launch.evidence process = true := by
  constructor
  · intro h
    obtain ⟨⟨pid', process⟩, hentry, rfl⟩ := List.mem_map.mp h
    obtain ⟨hfresh, htest⟩ := List.mem_filter.mp hentry
    obtain ⟨hpresent, hnew⟩ := mem_fresh.mp hfresh
    obtain ⟨hunprotected, hshows⟩ := (Bool.and_eq_true _ _).mp htest
    exact ⟨process, ⟨hpresent, hnew, (Bool.not_eq_true' _).mp hunprotected⟩, hshows⟩
  · rintro ⟨process, hcandidate, hshows⟩
    refine List.mem_map.mpr ⟨(pid, process), List.mem_filter.mpr ⟨?_, ?_⟩, rfl⟩
    · exact mem_fresh.mpr ⟨hcandidate.present, hcandidate.new⟩
    · simp [hcandidate.unprotected, hshows]

lemma associated_of_selected :
    ∀ pid ∈ launch.selected, ∃ process, launch.Associated pid process := by
  refine Saturation.forall_saturate ?_ ?_
  · intro k hk
    obtain ⟨process, hcandidate, hshows⟩ := mem_direct.mp hk
    exact ⟨process, .evidence hcandidate hshows⟩
  · rintro set hset ⟨k, process⟩ hentry hfollows
    obtain ⟨hpresent, hnew⟩ := mem_fresh.mp hentry
    obtain ⟨hunprotected, hparent⟩ := (Bool.and_eq_true _ _).mp hfollows
    obtain ⟨parent, hassociated⟩ := hset process.parentPid (of_decide_eq_true hparent)
    exact ⟨process, .child ⟨hpresent, hnew, (Bool.not_eq_true' _).mp hunprotected⟩ hassociated⟩

lemma selected_closed {entry : Nat × ProcessInfo} (hentry : entry ∈ launch.fresh.entries)
    (hfollows : launch.follows launch.selected entry = true) : entry.1 ∈ launch.selected :=
  Saturation.closed_saturate (Nat.lt_succ_of_le List.countP_le_length) entry hentry hfollows

lemma selected_of_associated (h : launch.Associated pid process) : pid ∈ launch.selected := by
  induction h with
  | evidence candidate shows =>
    exact Saturation.subset_saturate (mem_direct.mpr ⟨_, candidate, shows⟩)
  | child candidate _ ih =>
    refine selected_closed (mem_fresh.mpr ⟨candidate.present, candidate.new⟩) ?_
    simp [follows, candidate.unprotected, ih]

lemma find?_selectedProcesses {entry : TrackedProcess} :
    launch.selectedProcesses.find? pid = some entry ↔
      launch.Associated pid entry.info ∧ entry.protectedProcess = false := by
  rw [selectedProcesses, KeyedMap.find?_mapValues]
  constructor
  · rintro ⟨process, hfound, rfl⟩
    obtain ⟨hfresh, hselected⟩ := KeyedMap.find?_filter.mp hfound
    obtain ⟨process', hassociated⟩ := associated_of_selected pid (of_decide_eq_true hselected)
    have hsame : process' = process := Option.some_injective _
      (hassociated.candidate.present.symm.trans
        (mem_fresh.mp (KeyedMap.mem_entries.mpr hfresh)).1)
    exact ⟨hsame ▸ hassociated, rfl⟩
  · rintro ⟨hassociated, hplain⟩
    refine ⟨entry.info, KeyedMap.find?_filter.mpr ⟨?_, ?_⟩, by rw [← hplain]⟩
    · exact KeyedMap.mem_entries.mp
        (mem_fresh.mpr ⟨hassociated.candidate.present, hassociated.candidate.new⟩)
    · exact decide_eq_true (selected_of_associated hassociated)

end Launch

end Vibeshine.ProcessTracker
