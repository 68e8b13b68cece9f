import Vibeshine.Library.Program
import Vibeshine.ProcessTracker.Association

/-! # Stopping a tracked tree

`stop_tree` as a program that asks a process controller. The controller may answer in any
way: processes exit, numbers are used again and signals fail between any two calls.
-/

namespace Vibeshine.ProcessTracker

open Library List

inductive SignalKind where
  | terminate
  | kill
  deriving DecidableEq

/-- The calls of `process_controller`; a duration is in milliseconds. -/
inductive ControllerCall where
  | signal (pid : Nat) (kind : SignalKind)
  | alive (pid : Nat)
  | identityMatches (pid : Nat) (expected : ProcessInfo)
  | sleepFor (duration : Int)
  deriving DecidableEq

def ControllerCall.Reply : ControllerCall → Type
  | .sleepFor _ => Unit
  | _ => Bool

abbrev Stopping := Program ControllerCall ControllerCall.Reply

structure StopOptions where
  gracePeriod : Int := 2000
  pollPeriod : Int := 25

structure StopResult where
  terminateSent : Nat := 0
  killSent : Nat := 0
  skipped : Nat := 0
  complete : Bool := true
  deriving DecidableEq

abbrev Entry := Nat × TrackedProcess

variable (tree : TrackedTree)

def unvisited (visited : List Nat) : List Entry :=
  tree.processes.entries.filter fun entry => entry.1 ∉ visited

lemma unvisited_lt {tree : TrackedTree} {visited : List Nat} {pid : Nat} {process : TrackedProcess}
    (hfind : tree.processes.find? pid = some process) (hnew : pid ∉ visited) :
    (unvisited tree (pid :: visited)).length < (unvisited tree visited).length := by
  have hsplit : unvisited tree (pid :: visited) =
      (unvisited tree visited).filter fun entry => entry.1 ≠ pid := by
    unfold unvisited
    rw [filter_filter]
    congr
    funext entry
    simp [not_or]
  rw [hsplit]
  apply length_filter_lt_length_iff_exists.mpr
  exact ⟨(pid, process), mem_filter.mpr
    ⟨KeyedMap.mem_entries.mpr hfind, by simpa using hnew⟩, by simp⟩

def depthFrom (tree : TrackedTree) (visited : List Nat) (current : Nat) : Nat :=
  match hfind : tree.processes.find? current with
  | none => 0
  | some process =>
    if hnew : current ∉ visited then
      if tree.processes.contains process.info.parentPid then
        depthFrom tree (current :: visited) process.info.parentPid + 1
      else 0
    else 0
  termination_by (unvisited tree visited).length
  decreasing_by exact unvisited_lt hfind hnew

def depth (pid : Nat) : Nat := depthFrom tree [] pid

def precedes (left right : Entry) : Bool :=
  let leftDepth := depth tree left.1
  let rightDepth := depth tree right.1
  if leftDepth ≠ rightDepth then rightDepth < leftDepth else right.1 < left.1

def order : List Entry :=
  (tree.processes.entries.filter fun entry => !entry.2.protectedProcess).mergeSort
    fun left right => !precedes tree right left

def identityMatches (entry : Entry) : Stopping Bool :=
  .ask (.identityMatches entry.1 entry.2.info) fun reply => .done reply

def alive (entry : Entry) : Stopping Bool := .ask (.alive entry.1) fun reply => .done reply

def signal (entry : Entry) (kind : SignalKind) : Stopping Bool :=
  .ask (.signal entry.1 kind) fun reply => .done reply

variable (entry : Entry)

def present : Stopping Bool := do
  if ← identityMatches entry then alive entry else return false

def trySignal (kind : SignalKind) : Stopping Bool := do
  if ← present entry then signal entry kind else return false

def terminateEach : List Entry → List Entry → StopResult → Stopping (List Entry × StopResult)
  | [], signalled, result => return (signalled, result)
  | entry :: order, signalled, result => do
      if ← trySignal entry .terminate then
        terminateEach order (signalled ++ [entry])
          { result with terminateSent := result.terminateSent + 1 }
      else terminateEach order signalled { result with skipped := result.skipped + 1 }

def remaining : List Entry → Stopping Bool
  | [] => return false
  | entry :: signalled => do
      if ← present entry then return true else remaining signalled

variable (options : StopOptions)

def StopOptions.poll : Int :=
  if 0 < options.pollPeriod then options.pollPeriod else 1

lemma StopOptions.poll_pos : 0 < options.poll := by
  unfold poll
  split <;> omega

def waitGrace (options : StopOptions) (signalled : List Entry) (elapsed : Int) : Stopping Unit := do
  if ← remaining signalled then
    if _hmore : elapsed < options.gracePeriod then
      Program.ask (.sleepFor options.poll) fun _ =>
        waitGrace options signalled (elapsed + options.poll)
    else return ()
  else return ()
  termination_by (options.gracePeriod - elapsed).toNat
  decreasing_by
    have := options.poll_pos
    omega

def killEach : List Entry → StopResult → Stopping StopResult
  | [], result => return result
  | entry :: signalled, result => do
      if ← trySignal entry .kill then
        killEach signalled { result with killSent := result.killSent + 1 }
      else killEach signalled result

def stopTree (options : StopOptions) : Stopping StopResult :=
  if tree.empty then return {}
  else do
    let skipped := (tree.processes.entries.filter (·.2.protectedProcess)).length
    let (signalled, result) ← terminateEach (order tree) [] { skipped := skipped }
    waitGrace options signalled 0
    let result ← killEach signalled result
    return { result with complete := !(← remaining signalled) }

/-! ## The traces of the calls -/

abbrev Call := Program.Exchange ControllerCall.Reply

def Entry.identified (reply : Bool) : Call :=
  ⟨.identityMatches entry.1 entry.2.info, reply⟩

def Entry.lives (reply : Bool) : Call := ⟨.alive entry.1, reply⟩

def Entry.signals (kind : SignalKind) (reply : Bool) : Call :=
  ⟨.signal entry.1 kind, reply⟩

inductive Checked (entry : Entry) : List Call → Bool → Prop where
  | other : Checked entry [entry.identified false] false
  | exited : Checked entry [entry.identified true, entry.lives false] false
  | present : Checked entry [entry.identified true, entry.lives true] true

inductive Tried (kind : SignalKind) (entry : Entry) : List Call → Bool → Prop where
  | absent {trace : List Call} (checked : Checked entry trace false) : Tried kind entry trace false
  | signal (reply : Bool) :
      Tried kind entry [entry.identified true, entry.lives true, entry.signals kind reply] reply

inductive Pass (kind : SignalKind) : List Entry → List Entry → List Call → Prop where
  | nil : Pass kind [] [] []
  | sent {entry : Entry} {order signalled : List Entry} {trace later : List Call}
      (tried : Tried kind entry trace true) (rest : Pass kind order signalled later) :
      Pass kind (entry :: order) (entry :: signalled) (trace ++ later)
  | skipped {entry : Entry} {order signalled : List Entry} {trace later : List Call}
      (tried : Tried kind entry trace false) (rest : Pass kind order signalled later) :
      Pass kind (entry :: order) signalled (trace ++ later)

inductive Surveyed : List Entry → List Call → Bool → Prop where
  | nil : Surveyed [] [] false
  | found {entry : Entry} {signalled : List Entry} {trace : List Call}
      (checked : Checked entry trace true) : Surveyed (entry :: signalled) trace true
  | absent {entry : Entry} {signalled : List Entry} {trace later : List Call} {answer : Bool}
      (checked : Checked entry trace false) (rest : Surveyed signalled later answer) :
      Surveyed (entry :: signalled) (trace ++ later) answer

def ControllerCall.isSignal : ControllerCall → Bool
  | .signal _ _ => true
  | _ => false

def ControllerCall.isSleep : ControllerCall → Bool
  | .sleepFor _ => true
  | _ => false

/-- The wait sleeps at most so many times and signals nothing. -/
structure Waited (sleeps : Nat) (trace : List Call) : Prop where
  silent : ∀ call ∈ trace, call.request.isSignal = false
  bounded : trace.countP (·.request.isSleep) ≤ sleeps

lemma present_checked : (present entry).Every (Checked entry) := by
  unfold present
  refine Program.every_ask.mpr ?_
  rintro (_ | _)
  · exact Program.every_done.mpr .other
  · refine Program.every_ask.mpr ?_
    rintro (_ | _)
    · exact Program.every_done.mpr .exited
    · exact Program.every_done.mpr .present

lemma trySignal_tried (kind : SignalKind) : (trySignal entry kind).Every (Tried kind entry) := by
  unfold trySignal
  refine Program.Every.bind ((present_checked entry).mono fun trace found hchecked => ?_)
  cases hchecked with
  | present => exact Program.every_ask.mpr fun reply => Program.every_done.mpr (.signal reply)
  | other =>
    refine Program.every_done.mpr ?_
    exact .absent .other
  | exited =>
    refine Program.every_done.mpr ?_
    exact .absent .exited

lemma terminateEach_pass (order signalled : List Entry) (result : StopResult) :
    (terminateEach order signalled result).Every fun trace final =>
      ∃ sent, Pass .terminate order sent trace ∧ final.1 = signalled ++ sent ∧
        final.2 = { result with terminateSent := result.terminateSent + sent.length
                                skipped := result.skipped + (order.length - sent.length) } ∧
        sent.length ≤ order.length := by
  induction order generalizing signalled result with
  | nil => exact Program.every_done.mpr ⟨[], .nil, (append_nil _).symm, rfl, le_rfl⟩
  | cons entry order ih =>
    unfold terminateEach
    refine Program.Every.bind ((trySignal_tried entry .terminate).mono fun trace sent htried => ?_)
    cases sent with
    | true =>
      refine (ih _ _).mono fun later final ⟨sent, hpass, hsignalled, hresult, hlength⟩ => ?_
      refine ⟨entry :: sent, .sent htried hpass, ?_, ?_, Nat.succ_le_succ hlength⟩
      · rw [hsignalled, append_assoc]
        rfl
      · rw [hresult]
        simp only [length_cons, StopResult.mk.injEq, true_and, and_true]
        omega
    | false =>
      refine (ih _ _).mono fun later final ⟨sent, hpass, hsignalled, hresult, hlength⟩ => ?_
      refine ⟨sent, .skipped htried hpass, hsignalled, ?_, Nat.le_succ_of_le hlength⟩
      rw [hresult]
      simp only [length_cons, StopResult.mk.injEq, true_and, and_true]
      omega

variable (signalled : List Entry)

lemma killEach_pass (result : StopResult) : (killEach signalled result).Every fun trace final =>
      ∃ killed, Pass .kill signalled killed trace ∧
        final = { result with killSent := result.killSent + killed.length } := by
  induction signalled generalizing result with
  | nil => exact Program.every_done.mpr ⟨[], .nil, rfl⟩
  | cons entry signalled ih =>
    unfold killEach
    refine Program.Every.bind ((trySignal_tried entry .kill).mono fun trace sent htried => ?_)
    cases sent with
    | true =>
      refine (ih _).mono fun later final ⟨killed, hpass, hresult⟩ => ?_
      refine ⟨entry :: killed, .sent htried hpass, ?_⟩
      rw [hresult]
      simp only [length_cons, StopResult.mk.injEq, true_and, and_true]
      omega
    | false =>
      refine (ih _).mono fun later final ⟨killed, hpass, hresult⟩ => ?_
      exact ⟨killed, .skipped htried hpass, hresult⟩

lemma remaining_surveyed : (remaining signalled).Every (Surveyed signalled) := by
  induction signalled with
  | nil => exact Program.every_done.mpr .nil
  | cons entry signalled ih =>
    unfold remaining
    refine Program.Every.bind ((present_checked entry).mono fun trace found hchecked => ?_)
    cases found with
    | true =>
      refine Program.every_done.mpr ?_
      rw [append_nil]
      exact .found hchecked
    | false => exact ih.mono fun later answer hrest => .absent hchecked hrest

lemma Checked.quiet {entry : Entry} {trace : List Call} {found : Bool}
    (h : Checked entry trace found) :
    ∀ call ∈ trace, call.request.isSignal = false ∧ call.request.isSleep = false := by
  cases h <;> simp [Entry.identified, Entry.lives, ControllerCall.isSignal, ControllerCall.isSleep]

lemma Surveyed.quiet {signalled : List Entry} {trace : List Call} {answer : Bool}
    (h : Surveyed signalled trace answer) :
    ∀ call ∈ trace, call.request.isSignal = false ∧ call.request.isSleep = false := by
  induction h with
  | nil => exact fun _ h => absurd h not_mem_nil
  | found checked => exact checked.quiet
  | absent checked _ ih => exact forall_mem_append.mpr ⟨checked.quiet, ih⟩

def StopOptions.periods (elapsed : Int) : Nat :=
  ((options.gracePeriod - elapsed + options.poll - 1) / options.poll).toNat

lemma StopOptions.periods_succ {options : StopOptions} {elapsed : Int}
    (h : elapsed < options.gracePeriod) :
    options.periods elapsed = options.periods (elapsed + options.poll) + 1 := by
  have hpoll := options.poll_pos
  unfold periods
  have hshift : options.gracePeriod - elapsed + options.poll - 1 =
      options.gracePeriod - (elapsed + options.poll) + options.poll - 1 + options.poll := by omega
  rw [hshift, Int.add_ediv_of_dvd_right (Int.dvd_refl _), Int.ediv_self hpoll.ne']
  have hnonneg : 0 ≤ (options.gracePeriod - (elapsed + options.poll) + options.poll - 1) /
      options.poll := Int.ediv_nonneg (by omega) hpoll.le
  omega

lemma countP_sleep_of_quiet {trace : List Call}
    (h : ∀ call ∈ trace, call.request.isSignal = false ∧ call.request.isSleep = false) :
    trace.countP (·.request.isSleep) = 0 :=
  countP_eq_zero.mpr fun call hcall => by simp [(h call hcall).2]

lemma waitGrace_waited (signalled : List Entry) (elapsed : Int) :
    (waitGrace options signalled elapsed).Every fun trace _ =>
      Waited (options.periods elapsed) trace := by
  induction hleft : (options.gracePeriod - elapsed).toNat using Nat.strong_induction_on
    generalizing elapsed with
  | _ left ih =>
    have hpoll := options.poll_pos
    rw [waitGrace]
    refine Program.Every.bind ((remaining_surveyed signalled).mono fun trace answer hsurvey => ?_)
    have hquiet := hsurvey.quiet
    have hstop : Waited (options.periods elapsed) (trace ++ []) := by
      rw [append_nil]
      exact ⟨fun call hcall => (hquiet call hcall).1,
        (countP_sleep_of_quiet hquiet).le.trans zero_le⟩
    cases answer with
    | false => exact Program.every_done.mpr hstop
    | true =>
      rw [if_pos rfl]
      split
      next hmore =>
        refine Program.every_ask.mpr fun _ => ?_
        refine (ih _ (by omega) (elapsed + options.poll) rfl).mono fun later _ hlater => ?_
        constructor
        · refine forall_mem_append.mpr ⟨fun call hcall => (hquiet call hcall).1, ?_⟩
          exact forall_mem_cons.mpr ⟨rfl, hlater.silent⟩
        · rw [countP_append, countP_sleep_of_quiet hquiet, countP_cons,
            StopOptions.periods_succ hmore]
          have := hlater.bounded
          have hslept : (ControllerCall.sleepFor options.poll).isSleep = true := rfl
          rw [if_pos hslept]
          omega
      · exact Program.every_done.mpr hstop

/-- A call of `stop_tree`, in its four parts. -/
structure Stopped (tree : TrackedTree) (options : StopOptions) (trace : List Call)
    (result : StopResult) : Prop where
  parts : ∃ signalled killed terminating waiting killing last answer,
    trace = terminating ++ (waiting ++ (killing ++ last)) ∧
      Pass .terminate (order tree) signalled terminating ∧
      Waited (options.periods 0) waiting ∧ Pass .kill signalled killed killing ∧
      Surveyed signalled last answer ∧ signalled.length ≤ (order tree).length ∧
      result = { terminateSent := signalled.length, killSent := killed.length,
                 skipped := (tree.processes.entries.filter (·.2.protectedProcess)).length +
                   ((order tree).length - signalled.length),
                 complete := !answer }

lemma stopTree_stopped (options : StopOptions) :
    (stopTree tree options).Every (Stopped tree options) := by
  unfold stopTree
  cases hempty : tree.empty with
  | true =>
    refine Program.every_done.mpr ⟨[], [], [], [], [], [], false, rfl, ?_⟩
    have hnone : tree.processes.entries = [] := List.isEmpty_iff.mp hempty
    have horder : order tree = [] := by
      rw [order, hnone, filter_nil, mergeSort_nil]
    rw [horder, hnone]
    exact ⟨.nil, ⟨fun _ h => absurd h not_mem_nil, zero_le⟩, .nil, .nil, le_rfl, rfl⟩
  | false =>
    dsimp only
    rw [if_neg Bool.false_ne_true]
    refine Program.Every.bind ((terminateEach_pass _ _ _).mono ?_)
    rintro terminating ⟨signalled, result⟩ ⟨sent, hterminate, hsignalled, hresult, hlength⟩
    dsimp only at hsignalled hresult
    rw [nil_append] at hsignalled
    subst hsignalled
    refine Program.Every.bind ((waitGrace_waited _ _ _).mono fun waiting _ hwait => ?_)
    refine Program.Every.bind ((killEach_pass _ _).mono fun killing final ⟨killed, hkill, hfinal⟩ => ?_)
    refine Program.Every.bind ((remaining_surveyed _).mono fun last answer hsurvey => ?_)
    refine Program.every_done.mpr ⟨signalled, killed, terminating, waiting, killing, last, answer,
      by rw [append_nil], hterminate, hwait, hkill, hsurvey, hlength, ?_⟩
    rw [hfinal, hresult]
    simp

/-! ## Descendants -/

inductive Ancestor (tree : TrackedTree) : Nat → Nat → Prop where
  | parent {pid parent : Nat} {process : TrackedProcess}
      (hfind : tree.processes.find? pid = some process) (hparent : process.info.parentPid = parent)
      (htree : tree.processes.contains parent = true) : Ancestor tree parent pid
  | trans {pid middle ancestor : Nat} (first : Ancestor tree middle pid)
      (second : Ancestor tree ancestor middle) : Ancestor tree ancestor pid

def Acyclic : Prop := ∀ pid, ¬Ancestor tree pid pid

lemma depthFrom_eq {tree : TrackedTree} {visited : List Nat} {current : Nat}
    {process : TrackedProcess} (hfind : tree.processes.find? current = some process)
    (hnew : current ∉ visited) : depthFrom tree visited current =
      if tree.processes.contains process.info.parentPid then
        depthFrom tree (current :: visited) process.info.parentPid + 1 else 0 := by
  rw [depthFrom]
  split
  next hnone => cases hnone.symm.trans hfind
  next other hother =>
    cases hfind.symm.trans hother
    rw [dif_pos hnew]

lemma depthFrom_none {tree : TrackedTree} {visited : List Nat} {current : Nat}
    (hnone : tree.processes.find? current = none) : depthFrom tree visited current = 0 := by
  rw [depthFrom]
  split
  · rfl
  next hsome => cases hnone.symm.trans hsome

lemma depthFrom_visited {tree : TrackedTree} (hacyclic : Acyclic tree) (visited : List Nat)
    (current : Nat) : ∀ other, (∀ pid ∈ visited, Ancestor tree current pid) →
      (∀ pid ∈ other, Ancestor tree current pid) →
      depthFrom tree visited current = depthFrom tree other current := by
  induction visited, current using depthFrom.induct tree with
  | case1 visited current hnone =>
    intro other _ _
    rw [depthFrom_none hnone, depthFrom_none hnone]
  | case2 visited current process hfind hnew hparent ih =>
    intro other hvisited hother
    have hfresh : current ∉ other := fun hmem => hacyclic current (hother current hmem)
    rw [depthFrom_eq hfind hnew, depthFrom_eq hfind hfresh, if_pos hparent, if_pos hparent]
    have habove : Ancestor tree process.info.parentPid current := .parent hfind rfl hparent
    have hlift : ∀ pids : List Nat, (∀ pid ∈ pids, Ancestor tree current pid) →
        ∀ pid ∈ current :: pids, Ancestor tree process.info.parentPid pid := fun pids hpids =>
      forall_mem_cons.mpr ⟨habove, fun pid hpid => .trans (hpids pid hpid) habove⟩
    rw [ih (current :: other) (hlift visited hvisited) (hlift other hother)]
  | case3 visited current process hfind hnew hroot =>
    intro other _ hother
    have hfresh : current ∉ other := fun hmem => hacyclic current (hother current hmem)
    rw [depthFrom_eq hfind hnew, depthFrom_eq hfind hfresh, if_neg hroot, if_neg hroot]
  | case4 visited current process hfind hold =>
    intro other hvisited _
    exact absurd (hvisited current (not_not.mp hold)) (hacyclic current)

lemma depth_lt_of_ancestor {tree : TrackedTree} (hacyclic : Acyclic tree) {pid ancestor : Nat}
    (h : Ancestor tree ancestor pid) : depth tree ancestor < depth tree pid := by
  induction h with
  | @parent pid parent process hfind hparent htree =>
    subst hparent
    unfold depth
    rw [depthFrom_eq hfind not_mem_nil, if_pos htree]
    have hsame := depthFrom_visited hacyclic [pid] process.info.parentPid []
      (forall_mem_singleton.mpr (.parent hfind rfl htree)) (forall_mem_nil _)
    rw [hsame]
    exact Nat.lt_succ_self _
  | trans _ _ hfirst hsecond => exact hsecond.trans hfirst

lemma order_sorted : (order tree).Pairwise fun left right => precedes tree right left = false := by
  have hsorted := @pairwise_mergeSort _ (fun left right => !precedes tree right left)
    (fun a b c hab hbc => by
      simp only [precedes, Bool.not_eq_true', ne_eq] at *
      split at hab <;> split at hbc <;> split <;> simp_all <;> omega)
    (fun a b => by
      simp only [precedes, ne_eq]
      split <;> split <;> simp_all <;> omega)
    (tree.processes.entries.filter fun entry => !entry.2.protectedProcess)
  exact hsorted.imp fun h => by simpa using h

lemma order_perm :
    (order tree).Perm (tree.processes.entries.filter fun entry => !entry.2.protectedProcess) :=
  mergeSort_perm _ _

lemma mem_order {tree : TrackedTree} {entry : Entry} : entry ∈ order tree ↔
      tree.processes.find? entry.1 = some entry.2 ∧ entry.2.protectedProcess = false := by
  rw [(order_perm tree).mem_iff, mem_filter, ← KeyedMap.mem_entries, Bool.not_eq_true']

lemma order_nodup : ((order tree).map (·.1)).Nodup :=
  ((order_perm tree).map _).nodup_iff.mpr (tree.processes.nodup_keys.sublist
    (filter_sublist.map _))

lemma order_descendants_first {tree : TrackedTree} (hacyclic : Acyclic tree) :
    ((order tree).map (·.1)).Pairwise fun earlier later => ¬Ancestor tree earlier later := by
  refine pairwise_map.mpr ((order_sorted tree).imp fun {left right} hsorted hancestor => ?_)
  have hdepth := depth_lt_of_ancestor hacyclic hancestor
  rw [precedes] at hsorted
  simp only [ne_eq, hdepth.ne', not_false_eq_true, if_true, decide_eq_false_iff_not] at hsorted
  exact hsorted hdepth

/-! ## What the traces say -/

def sentCall (kind : SignalKind) (call : Call) : Option Nat :=
  match call.request with
  | .signal pid other => if other = kind then some pid else none
  | _ => none

def sent (kind : SignalKind) (trace : List Call) : List Nat := trace.filterMap (sentCall kind)

def acceptedCall (kind : SignalKind) : Call → Option Nat
  | ⟨.signal pid other, true⟩ => if other = kind then some pid else none
  | _ => none

def accepted (kind : SignalKind) (trace : List Call) : List Nat :=
  trace.filterMap (acceptedCall kind)

lemma sentCall_identified (kind : SignalKind) (entry : Entry) (reply : Bool) :
    sentCall kind (entry.identified reply) = none := rfl

lemma sentCall_lives (kind : SignalKind) (entry : Entry) (reply : Bool) :
    sentCall kind (entry.lives reply) = none := rfl

lemma sentCall_signals (kind other : SignalKind) (entry : Entry) (reply : Bool) :
    sentCall kind (entry.signals other reply) = if other = kind then some entry.1 else none := rfl

lemma sent_append (kind : SignalKind) (trace later : List Call) :
    sent kind (trace ++ later) = sent kind trace ++ sent kind later := filterMap_append

variable {kind : SignalKind}

lemma sent_of_silent {trace : List Call}
    (h : ∀ call ∈ trace, call.request.isSignal = false) : sent kind trace = [] := by
  refine filterMap_eq_nil_iff.mpr fun call hcall => ?_
  obtain ⟨request, reply⟩ := call
  cases request with
  | signal pid other => cases h _ hcall
  | alive | identityMatches | sleepFor => rfl

lemma mem_sent {trace : List Call} {pid : Nat} {reply : Bool}
    (h : (⟨.signal pid kind, reply⟩ : Call) ∈ trace) : pid ∈ sent kind trace :=
  mem_filterMap.mpr ⟨_, h, if_pos rfl⟩

lemma Tried.sent_sublist {kind other : SignalKind} {entry : Entry} {trace : List Call}
    {reply : Bool} (h : Tried kind entry trace reply) :
    (sent other trace).Sublist [entry.1] ∧ (other ≠ kind → sent other trace = []) := by
  cases h with
  | absent checked =>
    rw [sent_of_silent fun call hcall => (checked.quiet call hcall).1]
    exact ⟨nil_sublist _, fun _ => rfl⟩
  | signal reply =>
    have hsent : sent other [entry.identified true, entry.lives true, entry.signals kind reply] =
        if kind = other then [entry.1] else [] := by
      unfold sent
      rw [filterMap_cons_none (sentCall_identified ..), filterMap_cons_none (sentCall_lives ..)]
      by_cases hsame : kind = other
      · rw [filterMap_cons_some ((sentCall_signals ..).trans (if_pos hsame)), if_pos hsame]
        rfl
      · rw [filterMap_cons_none ((sentCall_signals ..).trans (if_neg hsame)), if_neg hsame]
        rfl
    rw [hsent]
    split
    next hsame => exact ⟨List.Sublist.refl _, fun h => absurd hsame.symm h⟩
    · exact ⟨nil_sublist _, fun _ => rfl⟩

lemma Pass.sent_sublist {kind other : SignalKind} {order signalled : List Entry}
    {trace : List Call} (h : Pass kind order signalled trace) :
    (ProcessTracker.sent other trace).Sublist (order.map (·.1)) ∧
      (other ≠ kind → ProcessTracker.sent other trace = []) := by
  induction h with
  | nil => exact ⟨nil_sublist _, fun _ => rfl⟩
  | sent tried _ ih | skipped tried _ ih =>
    rw [sent_append]
    refine ⟨tried.sent_sublist.1.append ih.1, fun hother => ?_⟩
    rw [tried.sent_sublist.2 hother, ih.2 hother, append_nil]

lemma Pass.sublist {order signalled : List Entry} {trace : List Call}
    (h : Pass kind order signalled trace) : signalled.Sublist order := by
  induction h with
  | nil => exact nil_sublist _
  | sent _ _ ih => exact ih.cons_cons _
  | skipped _ _ ih => exact ih.cons _

lemma mem_accepted {trace : List Call} {pid : Nat} :
    pid ∈ accepted kind trace ↔ (⟨.signal pid kind, true⟩ : Call) ∈ trace := by
  unfold accepted
  rw [mem_filterMap]
  refine ⟨?_, fun hmem => ⟨_, hmem, if_pos rfl⟩⟩
  rintro ⟨⟨request, reply⟩, hmem, hcall⟩
  cases request with
  | signal other given =>
    cases reply with
    | false => cases hcall
    | true =>
      obtain ⟨rfl, rfl⟩ : given = kind ∧ other = pid := by simpa [acceptedCall] using hcall
      exact hmem
  | alive | identityMatches | sleepFor => cases hcall

lemma accepted_append (trace later : List Call) :
    accepted kind (trace ++ later) = accepted kind trace ++ accepted kind later := filterMap_append

lemma accepted_of_silent {trace : List Call}
    (h : ∀ call ∈ trace, call.request.isSignal = false) : accepted kind trace = [] := by
  refine eq_nil_iff_forall_not_mem.mpr fun pid hmem => ?_
  cases h _ (mem_accepted.mp hmem)

/-- Of a pass the accepted signals are those of the entries it hands on. -/
lemma Pass.accepted {other : SignalKind} {order signalled : List Entry} {trace : List Call}
    (h : Pass kind order signalled trace) : accepted other trace =
      if kind = other then signalled.map (·.1) else [] := by
  have htried : ∀ entry trace reply, Tried kind entry trace reply →
      ProcessTracker.accepted other trace = if kind = other ∧ reply = true then [entry.1] else [] := by
    intro entry trace reply htried
    cases htried with
    | absent checked =>
      rw [accepted_of_silent fun call hcall => (checked.quiet call hcall).1]
      simp
    | signal reply =>
      cases reply <;> by_cases hsame : kind = other <;>
        simp [ProcessTracker.accepted, acceptedCall, Entry.identified, Entry.lives, Entry.signals,
          filterMap_cons, hsame]
  induction h with
  | nil => simp [ProcessTracker.accepted]
  | sent tried _ ih =>
    rw [accepted_append, htried _ _ _ tried, ih]
    split <;> simp_all
  | skipped tried _ ih =>
    rw [accepted_append, htried _ _ _ tried, ih]
    simp

def Guarded (entries : List Entry) (trace : List Call) : Prop :=
  ∀ before after pid kind reply, trace = before ++ (⟨.signal pid kind, reply⟩ : Call) :: after →
    ∃ earlier, ∃ entry ∈ entries, entry.1 = pid ∧
      before = earlier ++ [entry.identified true, entry.lives true]

lemma Guarded.of_silent {entries : List Entry} {trace : List Call}
    (h : ∀ call ∈ trace, call.request.isSignal = false) : Guarded entries trace := by
  rintro before after pid kind reply rfl
  cases h _ (mem_append_right _ mem_cons_self)

lemma Guarded.append {entries : List Entry} {trace later : List Call}
    (h : Guarded entries trace) (hlater : Guarded entries later) :
    Guarded entries (trace ++ later) := by
  intro before after pid kind reply hsplit
  obtain ⟨common, hbefore, hafter⟩ | ⟨common, htrace, hcall⟩ := append_eq_append_iff.mp hsplit
  · obtain ⟨earlier, entry, hentry, hpid, hchecked⟩ := hlater common after pid kind reply hafter
    exact ⟨trace ++ earlier, entry, hentry, hpid, by rw [hbefore, hchecked, append_assoc]⟩
  · cases common with
    | nil =>
      rw [append_nil] at htrace
      obtain ⟨earlier, entry, hentry, hpid, hchecked⟩ :=
        hlater [] after pid kind reply hcall.symm
      exact absurd hchecked.symm (by simp)
    | cons call common =>
      obtain ⟨rfl, -⟩ := List.cons.inj hcall
      exact h before common pid kind reply htrace

lemma Tried.guarded {entry : Entry} {trace : List Call} {reply : Bool}
    {entries : List Entry} (hentry : entry ∈ entries) (h : Tried kind entry trace reply) :
    Guarded entries trace := by
  cases h with
  | absent checked => exact .of_silent fun call hcall => (checked.quiet call hcall).1
  | signal reply =>
    intro before after pid other answer hsplit
    obtain _ | ⟨first, _ | ⟨second, _ | ⟨third, rest⟩⟩⟩ := before
    · cases hsplit
    · cases hsplit
    · cases hsplit
      exact ⟨[], entry, hentry, rfl, rfl⟩
    · cases rest <;> cases hsplit

lemma Pass.guarded {kind : SignalKind} {order signalled : List Entry} {trace : List Call}
    {entries : List Entry} (h : Pass kind order signalled trace) (hentries : order ⊆ entries) :
    Guarded entries trace := by
  induction h with
  | nil => exact .of_silent fun _ h => absurd h not_mem_nil
  | sent tried _ ih | skipped tried _ ih =>
    exact (tried.guarded (hentries mem_cons_self)).append
      (ih fun _ hmem => hentries (mem_cons_of_mem _ hmem))

def Gone (last : List Call) (pid : Nat) : Prop :=
  ∃ process, tree.processes.find? pid = some process ∧
    ((⟨.identityMatches pid process.info, false⟩ : Call) ∈ last ∨
      (⟨.alive pid, false⟩ : Call) ∈ last)

def ControllerCall.pid : ControllerCall → Option Nat
  | .signal pid _ | .alive pid | .identityMatches pid _ => some pid
  | .sleepFor _ => none

lemma Checked.pid {entry : Entry} {trace : List Call} {found : Bool}
    (h : Checked entry trace found) : ∀ call ∈ trace, call.request.pid = some entry.1 := by
  cases h <;> simp [Entry.identified, Entry.lives, ControllerCall.pid]

def Call.affirmed : Call → Bool
  | ⟨.identityMatches _ _, reply⟩ => reply
  | ⟨.alive _, reply⟩ => reply
  | _ => true

lemma Checked.affirmed {entry : Entry} {trace : List Call} (h : Checked entry trace true) :
    ∀ call ∈ trace, call.affirmed = true := by
  cases h
  exact forall_mem_cons.mpr ⟨rfl, forall_mem_singleton.mpr rfl⟩

lemma Surveyed.gone {tree : TrackedTree} {signalled : List Entry} {last : List Call}
    (h : Surveyed signalled last false)
    (htree : ∀ entry ∈ signalled, tree.processes.find? entry.1 = some entry.2) :
    ∀ entry ∈ signalled, Gone tree last entry.1 := by
  generalize hanswer : false = answer at h
  induction h with
  | nil => exact fun _ h => absurd h not_mem_nil
  | found => cases hanswer
  | @absent first signalled trace later answer checked _ ih =>
    obtain ⟨hfirst, htree⟩ := forall_mem_cons.mp htree
    refine forall_mem_cons.mpr ⟨⟨first.2, hfirst, ?_⟩, fun entry hentry => ?_⟩
    · cases checked with
      | other => exact .inl mem_cons_self
      | exited => exact .inr (.tail _ (.head _))
    · obtain ⟨process, hfind, hgone⟩ := ih htree hanswer entry hentry
      exact ⟨process, hfind, hgone.imp (mem_append_right _) (mem_append_right _)⟩

lemma Surveyed.present {tree : TrackedTree} {signalled : List Entry} {last : List Call}
    (h : Surveyed signalled last true) (hnodup : (signalled.map (·.1)).Nodup) :
    ∃ entry ∈ signalled, ¬Gone tree last entry.1 := by
  generalize hanswer : true = answer at h
  induction h with
  | nil => cases hanswer
  | @found entry signalled trace checked =>
    refine ⟨entry, mem_cons_self, ?_⟩
    rintro ⟨process, -, hgone⟩
    obtain hgone | hgone := hgone
    · cases checked.affirmed _ hgone
    · cases checked.affirmed _ hgone
  | @absent first signalled trace later answer checked _ ih =>
    obtain ⟨hnew, hnodup⟩ := nodup_cons.mp hnodup
    obtain ⟨entry, hentry, hpresent⟩ := ih hnodup hanswer
    refine ⟨entry, mem_cons_of_mem _ hentry, ?_⟩
    rintro ⟨process, hfind, hgone⟩
    have hother : first.1 ≠ entry.1 := fun hsame =>
      hnew (mem_map.mpr ⟨entry, hentry, hsame.symm⟩)
    have hlater : ∀ call : Call, call.request.pid = some entry.1 → call ∈ trace ++ later →
        call ∈ later := fun call hpid hmem =>
      (mem_append.mp hmem).resolve_left fun htrace =>
        hother (Option.some.inj ((checked.pid call htrace).symm.trans hpid))
    exact hpresent ⟨process, hfind, hgone.imp (hlater _ rfl) (hlater _ rfl)⟩

/-! ## The law of a call -/

def TrackedTree.unprotected : List Entry :=
  tree.processes.entries.filter fun entry => !entry.2.protectedProcess

structure StopLaw (tree : TrackedTree) (options : StopOptions) (trace : List Call)
    (result : StopResult) : Prop where
  /-- A signal goes to an unprotected process of the tree, right behind its two checks. -/
  checked : ∀ before after pid kind reply,
    trace = before ++ (⟨.signal pid kind, reply⟩ : Call) :: after →
    ∃ earlier process, tree.processes.find? pid = some process ∧ process.protectedProcess = false ∧
      before = earlier ++ [⟨.identityMatches pid process.info, true⟩, ⟨.alive pid, true⟩]
  /-- Every unprotected process is checked and, if it is there, sent terminate, each before its
  ancestors. -/
  tried : ∃ before after order signalled, trace = before ++ after ∧ order.Perm tree.unprotected ∧
    (Acyclic tree → (order.map (·.1)).Pairwise fun earlier later => ¬Ancestor tree earlier later) ∧
    Pass .terminate order signalled before ∧ sent .terminate after = []
  /-- Only what was sent terminate is killed. -/
  killed : ∀ before after pid reply,
    trace = before ++ (⟨.signal pid .kill, reply⟩ : Call) :: after →
    (⟨.signal pid .terminate, true⟩ : Call) ∈ before
  descendantsFirst : Acyclic tree →
    (sent .terminate trace).Pairwise fun earlier later => ¬Ancestor tree earlier later
  once : ∀ kind, (sent kind trace).Nodup
  terminateSent : result.terminateSent = (accepted .terminate trace).length
  killSent : result.killSent = (accepted .kill trace).length
  counted : result.terminateSent + result.skipped = tree.processes.entries.length
  waits : trace.countP (·.request.isSleep) ≤
    ((options.gracePeriod + options.poll - 1) / options.poll).toNat
  /-- The call ends with a check of all that was sent terminate, and is complete exactly if that
  finds them gone. -/
  complete : ∃ before last signalled, trace = before ++ last ∧
    signalled.map (·.1) = accepted .terminate before ∧ signalled ⊆ tree.processes.entries ∧
    Surveyed signalled last (!result.complete) ∧
    (result.complete = true ↔ ∀ pid ∈ accepted .terminate trace, Gone tree last pid)

lemma Pass.countP_sleep {order signalled : List Entry} {trace : List Call}
    (h : Pass kind order signalled trace) : trace.countP (·.request.isSleep) = 0 := by
  have htried : ∀ entry trace reply, Tried kind entry trace reply →
      trace.countP (·.request.isSleep) = 0 := by
    intro entry trace reply h
    cases h with
    | absent checked => exact countP_sleep_of_quiet checked.quiet
    | signal => rfl
  induction h with
  | nil => rfl
  | sent tried _ ih | skipped tried _ ih => rw [countP_append, htried _ _ _ tried, ih]

lemma append_before {trace later before after : List Call} {call : Call} (hnot : call ∉ trace)
    (h : trace ++ later = before ++ call :: after) : ∀ other ∈ trace, other ∈ before := by
  obtain ⟨common, hbefore, -⟩ | ⟨common, htrace, hcall⟩ := append_eq_append_iff.mp h
  · rw [hbefore]
    exact fun other => mem_append_left _
  · cases common with
    | nil =>
      rw [htrace, append_nil]
      exact fun _ => id
    | cons first common =>
      obtain ⟨rfl, -⟩ := List.cons.inj hcall
      exact absurd (htrace ▸ mem_append_right _ mem_cons_self) hnot

lemma Stopped.law {tree : TrackedTree} {options : StopOptions} {trace : List Call}
    {result : StopResult} (h : Stopped tree options trace result) :
    StopLaw tree options trace result := by
  obtain ⟨signalled, killed, terminating, waiting, killing, last, answer, rfl, hterminate, hwait,
    hkill, hsurvey, hlength, rfl⟩ := h.parts
  have hsignalled := hterminate.sublist
  have hquiet := hsurvey.quiet
  have hlast : ∀ call ∈ last, call.request.isSignal = false := fun call hcall =>
    (hquiet call hcall).1
  have hacc : ∀ kind, accepted kind (terminating ++ (waiting ++ (killing ++ last))) =
      accepted kind terminating ++ accepted kind killing := fun kind => by
    rw [accepted_append, accepted_append, accepted_append, accepted_of_silent hwait.silent,
      accepted_of_silent hlast, nil_append, append_nil]
  have hsent : ∀ kind, sent kind (terminating ++ (waiting ++ (killing ++ last))) =
      sent kind terminating ++ sent kind killing := fun kind => by
    rw [sent_append, sent_append, sent_append, sent_of_silent hwait.silent, sent_of_silent hlast,
      nil_append, append_nil]
  have hpids : accepted .terminate (terminating ++ (waiting ++ (killing ++ last))) =
      signalled.map (·.1) := by
    rw [hacc, hterminate.accepted, hkill.accepted, if_pos rfl, if_neg (by decide), append_nil]
  constructor
  · intro before after pid kind reply hsplit
    have hguarded : Guarded (order tree) (terminating ++ (waiting ++ (killing ++ last))) :=
      (hterminate.guarded fun _ => id).append ((Guarded.of_silent hwait.silent).append
        ((hkill.guarded hsignalled.subset).append (.of_silent hlast)))
    obtain ⟨earlier, entry, hentry, rfl, hbefore⟩ := hguarded before after pid kind reply hsplit
    obtain ⟨hfind, hunprotected⟩ := mem_order.mp hentry
    exact ⟨earlier, entry.2, hfind, hunprotected, hbefore⟩
  · refine ⟨terminating, waiting ++ (killing ++ last), order tree, signalled, rfl, order_perm tree,
      order_descendants_first, hterminate, ?_⟩
    rw [sent_append, sent_append, sent_of_silent hwait.silent, sent_of_silent hlast,
      hkill.sent_sublist.2 (by decide)]
    rfl
  · intro before after pid reply hsplit
    have hmem : (⟨.signal pid .kill, reply⟩ : Call) ∈
        terminating ++ (waiting ++ (killing ++ last)) := by
      rw [hsplit]
      exact mem_append_right _ mem_cons_self
    have hnone : (⟨.signal pid .kill, reply⟩ : Call) ∉ terminating := fun hearly => by
      have hlisted := mem_sent hearly
      rw [hterminate.sent_sublist.2 (by decide)] at hlisted
      cases hlisted
    have hkilled : pid ∈ sent .kill killing := by
      have hlisted := mem_sent hmem
      rwa [hsent, hterminate.sent_sublist.2 (by decide), nil_append] at hlisted
    refine append_before hnone hsplit _ (mem_accepted.mp ?_)
    rw [hterminate.accepted, if_pos rfl]
    exact hkill.sent_sublist.1.subset hkilled
  · intro hacyclic
    rw [hsent, hkill.sent_sublist.2 (by decide), append_nil]
    exact (order_descendants_first hacyclic).sublist hterminate.sent_sublist.1
  · intro kind
    rw [hsent]
    cases kind with
    | terminate =>
      rw [hkill.sent_sublist.2 (by decide), append_nil]
      exact (order_nodup tree).sublist hterminate.sent_sublist.1
    | kill =>
      rw [hterminate.sent_sublist.2 (by decide), nil_append]
      exact (order_nodup tree).sublist
        (hkill.sent_sublist.1.trans (hsignalled.map _))
  · rw [hpids, length_map]
  · rw [hacc, hterminate.accepted, hkill.accepted, if_neg (by decide), if_pos rfl, nil_append,
      length_map]
  · have hsplit : tree.processes.entries.length =
        (tree.processes.entries.filter (·.2.protectedProcess)).length +
          (tree.processes.entries.filter fun entry => !entry.2.protectedProcess).length :=
      length_eq_length_filter_add _
    have horder : (order tree).length =
        (tree.processes.entries.filter fun entry => !entry.2.protectedProcess).length :=
      (order_perm tree).length_eq
    dsimp only
    omega
  · rw [countP_append, countP_append, countP_append, hterminate.countP_sleep,
      hkill.countP_sleep, countP_sleep_of_quiet hquiet]
    have hbounded := hwait.bounded
    unfold StopOptions.periods at hbounded
    rw [Int.sub_zero] at hbounded
    omega
  · have hfind : ∀ entry ∈ signalled, tree.processes.find? entry.1 = some entry.2 :=
      fun entry hentry => (mem_order.mp (hsignalled.subset hentry)).1
    refine ⟨terminating ++ (waiting ++ killing), last, signalled, by simp only [append_assoc], ?_,
      fun entry hentry => KeyedMap.mem_entries.mpr (hfind entry hentry), ?_, ?_⟩
    · rw [← hpids, hacc, accepted_append, accepted_append, accepted_of_silent hwait.silent,
        nil_append]
    · rwa [Bool.not_not]
    rw [hpids, forall_mem_map]
    cases answer with
    | false => exact ⟨fun _ => hsurvey.gone hfind, fun _ => rfl⟩
    | true =>
      refine ⟨nofun, fun hgone => ?_⟩
      obtain ⟨entry, hentry, hpresent⟩ := hsurvey.present
        ((order_nodup tree).sublist (hsignalled.map _))
      exact absurd (hgone entry hentry) hpresent

/-- Whatever the controller answers, a stopped tree is signalled as the law says. -/
theorem stop_tree_law (tree : TrackedTree) (options : StopOptions) :
    (stopTree tree options).Every (StopLaw tree options) :=
  (stopTree_stopped tree options).mono fun _ _ h => h.law

end Vibeshine.ProcessTracker
