import Vibeshine.Library.System
import Mathlib.Data.List.Basic

/-! # The task pool

`TaskPool`: immediate tasks in a queue, and delayed tasks in a list kept by due time
with the earliest at the back. Every operation runs under the lock of the pool and is
one step; the clock is read by the step that needs it.
-/

namespace Vibeshine.Threads

open Library List

/-- A runnable: the address by which callers name it, and the count of the push that
made it. Addresses are reused, counts are not. -/
structure Task where
  address : Nat
  serial : Nat
  deriving DecidableEq

abbrev Entry := Int × Option Task

structure TaskPool where
  tasks : List Task := []
  timerTasks : List Entry := []
  deriving DecidableEq

def Entry.named (id : Nat) (entry : Entry) : Bool := entry.2.map Task.address = some id

variable (pool : TaskPool)

namespace TaskPool

def push (task : Task) : TaskPool := { pool with tasks := pool.tasks ++ [task] }

def insert (due : Int) (task : Task) : List Entry → List Entry
  | [] => [(due, some task)]
  | entry :: rest =>
    if entry.1 < due then (due, some task) :: entry :: rest
    else entry :: insert due task rest

def pushDelayed (due : Int) (task : Task) : TaskPool :=
  { pool with timerTasks := insert due task pool.timerTasks }

/-- The loop of `delay` from an entry to the front: `front` is what lies before the
entry, nearest first, and `back` what lies behind it. -/
def settle : List Entry → Entry → List Entry → List Entry
  | [], entry, back => entry :: back
  | previous :: front, entry, back =>
    if previous.1 < entry.1 then settle front entry (previous :: back)
    else settle front previous (entry :: back)

def delay (id : Nat) (due : Int) : TaskPool :=
  let front := pool.timerTasks.takeWhile fun entry => !entry.named id
  match pool.timerTasks.dropWhile fun entry => !entry.named id with
  | [] => pool
  | entry :: back => { pool with timerTasks := settle front.reverse (due, entry.2) back }

/-- `cancel`, with whether a task was found. -/
def cancel (id : Nat) : Bool × TaskPool :=
  let front := pool.timerTasks.takeWhile fun entry => !entry.named id
  match pool.timerTasks.dropWhile fun entry => !entry.named id with
  | [] => (false, pool)
  | _ :: back => (true, { pool with timerTasks := front ++ back })

/-- `pop` of a task: the entry is moved out, and stays in the list without its task. -/
def popNamed (id : Nat) : Option Entry × TaskPool :=
  let front := pool.timerTasks.takeWhile fun entry => !entry.named id
  match pool.timerTasks.dropWhile fun entry => !entry.named id with
  | [] => (none, pool)
  | entry :: back => (some entry, { pool with timerTasks := front ++ (entry.1, none) :: back })

/-- `pop` at a time; a task that is handed out may be null. -/
def pop (now : Int) : Option (Option Task) × TaskPool :=
  match pool.tasks with
  | task :: rest => (some (some task), { pool with tasks := rest })
  | [] =>
    match pool.timerTasks.getLast? with
    | none => (none, pool)
    | some entry =>
      if entry.1 ≤ now then (some entry.2, { pool with timerTasks := pool.timerTasks.dropLast })
      else (none, pool)

def held : List Task := pool.tasks ++ pool.timerTasks.filterMap Prod.snd

end TaskPool

/-- A call; `push` and `pushDelayed` make their task at an address. -/
inductive Call where
  | push (address : Nat)
  | pushDelayed (address : Nat) (due : Int)
  | delay (id : Nat) (due : Int)
  | cancel (id : Nat)
  | popNamed (id : Nat)
  | pop (now : Int)

/-- The pool with what happened to its tasks: the next count of a push, the tasks handed
out by `pop()`, and those taken out by `cancel` or `pop(id)`. -/
structure Pooled where
  pool : TaskPool := {}
  pushes : Nat := 0
  handed : List Nat := []
  withdrawn : List Nat := []

variable (s : Pooled)

namespace Pooled

def found (id : Nat) : List Nat :=
  ((s.pool.timerTasks.find? (Entry.named id)).bind Prod.snd).toList.map Task.serial

def step : Call → Pooled
  | .push address =>
    { s with pool := s.pool.push ⟨address, s.pushes⟩, pushes := s.pushes + 1 }
  | .pushDelayed address due =>
    { s with pool := s.pool.pushDelayed due ⟨address, s.pushes⟩, pushes := s.pushes + 1 }
  | .delay id due => { s with pool := s.pool.delay id due }
  | .cancel id =>
    { s with pool := (s.pool.cancel id).2, withdrawn := s.found id ++ s.withdrawn }
  | .popNamed id =>
    { s with pool := (s.pool.popNamed id).2, withdrawn := s.found id ++ s.withdrawn }
  | .pop now =>
    let (task, pool) := s.pool.pop now
    { s with pool := pool, handed := (task.join.toList.map Task.serial) ++ s.handed }

def Admits : Call → Prop
  | .push address => ∀ task ∈ s.pool.held, task.address ≠ address
  | .pushDelayed address _ => ∀ task ∈ s.pool.held, task.address ≠ address
  | _ => True

def system : System Pooled Call := { init := {}, admits := Admits, step := step }

end Pooled

namespace TaskPool

lemma split_named (entries : List Entry) (id : Nat) : (entries.find? (Entry.named id) = none ∧
        (entries.dropWhile fun entry => !entry.named id) = []) ∨
      ∃ entry back, entries.find? (Entry.named id) = some entry ∧
        (entries.dropWhile fun entry => !entry.named id) = entry :: back ∧
        entries = (entries.takeWhile fun entry => !entry.named id) ++ entry :: back := by
  induction entries with
  | nil => exact .inl ⟨rfl, rfl⟩
  | cons first rest ih =>
    cases hnamed : first.named id with
    | true => exact .inr ⟨first, rest, by simp [hnamed], by simp [hnamed], by simp [hnamed]⟩
    | false =>
      rcases ih with ⟨hnone, hdrop⟩ | ⟨entry, back, hfind, hdrop, hsplit⟩
      · exact .inl ⟨by simp [hnamed, hnone], by simp [hnamed, hdrop]⟩
      · refine .inr ⟨entry, back, by simp [hnamed, hfind], by simp [hnamed, hdrop], ?_⟩
        rw [takeWhile_cons_of_pos (by simp [hnamed]), cons_append, ← hsplit]

lemma settle_perm (front : List Entry) (entry : Entry) (back : List Entry) :
    (settle front entry back).Perm (front ++ entry :: back) := by
  induction front generalizing entry back with
  | nil => exact List.Perm.refl _
  | cons previous front ih =>
    unfold settle
    split
    · refine (ih entry (previous :: back)).trans ?_
      exact (perm_middle.trans (List.Perm.cons _ perm_middle)).trans
        ((List.Perm.swap previous entry _).trans (List.Perm.cons _ perm_middle.symm))
    · refine (ih previous (entry :: back)).trans ?_
      exact perm_middle

lemma insert_perm (due : Int) (task : Task) (entries : List Entry) :
    (insert due task entries).Perm ((due, some task) :: entries) := by
  induction entries with
  | nil => exact List.Perm.refl _
  | cons entry rest ih =>
    unfold insert
    split
    · exact List.Perm.refl _
    · exact (ih.cons entry).trans (List.Perm.swap _ _ _)

/-! ## The order of the delayed tasks -/

def Sorted (entries : List Entry) : Prop :=
  entries.Pairwise fun first second => second.1 ≤ first.1

lemma insert_sorted {due : Int} {task : Task} {entries : List Entry} (h : Sorted entries) :
    Sorted (insert due task entries) := by
  induction entries with
  | nil => exact pairwise_singleton _ _
  | cons entry rest ih =>
    obtain ⟨hentry, hrest⟩ := pairwise_cons.mp h
    unfold insert
    split
    · next hlater =>
      refine pairwise_cons.mpr ⟨fun other hother => ?_, h⟩
      rcases mem_cons.mp hother with rfl | hother
      · exact Int.le_of_lt hlater
      · exact Int.le_trans (hentry other hother) (Int.le_of_lt hlater)
    · next hearlier =>
      refine pairwise_cons.mpr ⟨fun other hother => ?_, ih hrest⟩
      rcases mem_cons.mp ((insert_perm due task rest).mem_iff.mp hother) with rfl | hother
      · exact Int.not_lt.mp hearlier
      · exact hentry other hother

lemma settle_sorted {front back : List Entry} {entry : Entry}
    (hfront : front.Pairwise fun first second => first.1 ≤ second.1) (hback : Sorted back)
    (hentry : ∀ other ∈ back, other.1 ≤ entry.1)
    (hacross : ∀ previous ∈ front, ∀ other ∈ back, other.1 ≤ previous.1) :
    Sorted (settle front entry back) := by
  induction front generalizing entry back with
  | nil => exact pairwise_cons.mpr ⟨hentry, hback⟩
  | cons previous front ih =>
    obtain ⟨hprevious, hfront⟩ := pairwise_cons.mp hfront
    have hkeep := hacross previous mem_cons_self
    unfold settle
    split
    · next hlater =>
      refine ih hfront (pairwise_cons.mpr ⟨hkeep, hback⟩) ?_ ?_
      · exact forall_mem_cons.mpr ⟨Int.le_of_lt hlater, hentry⟩
      · intro earlier hearlier
        exact forall_mem_cons.mpr ⟨hprevious earlier hearlier,
          hacross earlier (mem_cons_of_mem _ hearlier)⟩
    · next hearlier =>
      refine ih hfront (pairwise_cons.mpr ⟨hentry, hback⟩) ?_ ?_
      · exact forall_mem_cons.mpr ⟨Int.not_lt.mp hearlier, hkeep⟩
      · intro earlier hmem
        refine forall_mem_cons.mpr ⟨?_, hacross earlier (mem_cons_of_mem _ hmem)⟩
        exact Int.le_trans (Int.not_lt.mp hearlier) (hprevious earlier hmem)

def behind (id : Nat) : List Entry :=
  (pool.timerTasks.dropWhile fun entry => !entry.named id).tail

lemma delay_sorted {pool : TaskPool} {id : Nat} {due : Int} (h : Sorted pool.timerTasks)
    (hbehind : ∀ entry ∈ (pool.behind id).head?, entry.1 ≤ due) :
    Sorted (pool.delay id due).timerTasks := by
  rcases split_named pool.timerTasks id with ⟨-, hdrop⟩ | ⟨entry, back, -, hdrop, hsplit⟩
  · simp only [delay, hdrop]
    exact h
  · unfold behind at hbehind
    rw [hdrop, tail_cons] at hbehind
    rw [hsplit] at h
    obtain ⟨hfront, hrest, hacross⟩ := pairwise_append.mp h
    obtain ⟨-, hback⟩ := pairwise_cons.mp hrest
    have hdue : ∀ other ∈ back, other.1 ≤ due := by
      cases back with
      | nil => exact fun _ hother => by cases hother
      | cons first rest =>
        have hfirst := hbehind first rfl
        refine forall_mem_cons.mpr ⟨hfirst, fun other hother => ?_⟩
        exact Int.le_trans ((pairwise_cons.mp hback).1 other hother) hfirst
    simp only [delay, hdrop]
    refine settle_sorted (pairwise_reverse.mpr hfront) hback hdue ?_
    intro previous hprevious other hother
    exact hacross previous (mem_reverse.mp hprevious) other (mem_cons_of_mem _ hother)

lemma getLast_earliest {entries : List Entry} (h : Sorted entries) {last : Entry}
    (hlast : entries.getLast? = some last) : ∀ entry ∈ entries, last.1 ≤ entry.1 := by
  obtain ⟨front, rfl⟩ := getLast?_eq_some_iff.mp hlast
  intro entry hentry
  rcases mem_append.mp hentry with hfront | hsame
  · exact (pairwise_append.mp h).2.2 entry hfront last mem_cons_self
  · exact Int.le_of_eq (by rw [mem_singleton.mp hsame])

end TaskPool

variable (call : Call)

namespace Pooled

/-! ## Tasks are handed out once -/

def ledger : List Nat :=
  s.pool.held.map Task.serial ++ (s.handed ++ s.withdrawn)

lemma filterMap_found {entries front back : List Entry} {entry : Entry}
    (hsplit : entries = front ++ entry :: back) : (entries.filterMap Prod.snd).Perm
      (entry.2.toList ++ (front ++ back).filterMap Prod.snd) := by
  rw [hsplit, filterMap_append, filterMap_append]
  cases hentry : entry.2 with
  | none => rw [filterMap_cons_none hentry]; exact List.Perm.refl _
  | some task =>
    rw [filterMap_cons_some hentry]
    exact perm_middle

lemma ledger_withdraw {s : Pooled} {pool : TaskPool} {id : Nat}
    (htasks : pool.tasks = s.pool.tasks) (h : (s.pool.timerTasks.filterMap Prod.snd).Perm
      (((s.pool.timerTasks.find? (Entry.named id)).bind Prod.snd).toList ++
        pool.timerTasks.filterMap Prod.snd)) :
    (ledger { s with pool := pool, withdrawn := s.found id ++ s.withdrawn }).Perm s.ledger := by
  have hheld : (s.found id ++ pool.held.map Task.serial).Perm (s.pool.held.map Task.serial) := by
    rw [found, ← map_append, TaskPool.held, TaskPool.held, htasks]
    refine List.Perm.map _ ?_
    refine List.Perm.trans ?_ (h.symm.append_left _)
    rw [← append_assoc, ← append_assoc]
    exact perm_append_comm.append_right _
  unfold ledger
  refine List.Perm.trans ?_ (hheld.append_right _)
  rw [append_assoc]
  exact ((perm_append_comm_assoc _ _ _).append_left _).trans
    (perm_append_comm_assoc _ _ _)

lemma step_ledger : (s.step call).pushes = s.pushes ∧ (s.step call).ledger.Perm s.ledger ∨
      (s.step call).pushes = s.pushes + 1 ∧ (s.step call).ledger.Perm (s.pushes :: s.ledger) := by
  cases call with
  | push address =>
    refine .inr ⟨rfl, ?_⟩
    simp only [step, ledger, TaskPool.push, TaskPool.held, append_assoc, map_append,
      map_cons, map_nil]
    exact perm_middle
  | pushDelayed address due =>
    refine .inr ⟨rfl, ?_⟩
    have hinsert := ((TaskPool.insert_perm due ⟨address, s.pushes⟩ s.pool.timerTasks).filterMap
      Prod.snd).map Task.serial
    simp only [step, ledger, TaskPool.pushDelayed, TaskPool.held, map_append]
    refine List.Perm.trans ((hinsert.append_left _).append_right _) ?_
    exact perm_middle.append_right _
  | delay id due =>
    refine .inl ⟨rfl, ?_⟩
    have hheld : (s.pool.delay id due).held.Perm s.pool.held := by
      rcases TaskPool.split_named s.pool.timerTasks id with
        ⟨-, hdrop⟩ | ⟨entry, back, -, hdrop, hsplit⟩
      · simp only [TaskPool.delay, hdrop]
        exact List.Perm.refl _
      · simp only [TaskPool.delay, hdrop, TaskPool.held]
        refine List.Perm.append_left _ ?_
        refine ((TaskPool.settle_perm _ _ _).filterMap Prod.snd).trans ?_
        refine ((reverse_perm _).append_right _).filterMap Prod.snd |>.trans ?_
        conv_rhs => rw [hsplit]
        rw [filterMap_append, filterMap_append]
        refine List.Perm.append_left _ ?_
        rw [filterMap_cons, filterMap_cons]
    exact (hheld.map _).append_right _
  | cancel id =>
    refine .inl ⟨rfl, ledger_withdraw ?_ ?_⟩
    · unfold TaskPool.cancel
      dsimp only
      split <;> rfl
    · rcases TaskPool.split_named s.pool.timerTasks id with
        ⟨hnone, hdrop⟩ | ⟨entry, back, hfind, hdrop, hsplit⟩
      · simp only [TaskPool.cancel, hdrop, hnone]
        exact List.Perm.refl _
      · simp only [TaskPool.cancel, hdrop, hfind]
        exact filterMap_found hsplit
  | popNamed id =>
    refine .inl ⟨rfl, ledger_withdraw ?_ ?_⟩
    · unfold TaskPool.popNamed
      dsimp only
      split <;> rfl
    · rcases TaskPool.split_named s.pool.timerTasks id with
        ⟨hnone, hdrop⟩ | ⟨entry, back, hfind, hdrop, hsplit⟩
      · simp only [TaskPool.popNamed, hdrop, hnone]
        exact List.Perm.refl _
      · simp only [TaskPool.popNamed, hdrop, hfind]
        refine (filterMap_found hsplit).trans ?_
        rw [filterMap_append, filterMap_append, filterMap_cons_none rfl]
        exact List.Perm.refl _
  | pop now =>
    refine .inl ⟨rfl, ?_⟩
    have hheld : (((s.pool.pop now).1.join.toList.map Task.serial) ++
        (s.pool.pop now).2.held.map Task.serial).Perm (s.pool.held.map Task.serial) := by
      rw [← map_append]
      refine List.Perm.map _ ?_
      unfold TaskPool.pop
      split
      · next task rest htasks =>
        simp only [TaskPool.held, htasks]
        exact List.Perm.refl _
      · next htasks =>
        split
        · exact List.Perm.refl _
        · next entry hlast =>
          split
          · obtain ⟨front, hfront⟩ := getLast?_eq_some_iff.mp hlast
            simp only [TaskPool.held, htasks, nil_append]
            rw [hfront, dropLast_concat, filterMap_append]
            refine List.Perm.trans perm_append_comm ?_
            refine List.Perm.append_left _ ?_
            cases hentry : entry.2 with
            | none => rw [filterMap_cons_none hentry]; exact List.Perm.refl _
            | some task => rw [filterMap_cons_some hentry]; exact List.Perm.refl _
          · exact List.Perm.refl _
    simp only [step, ledger]
    refine List.Perm.trans ?_ (hheld.append_right _)
    rw [append_assoc, append_assoc]
    exact perm_append_comm_assoc _ _ _

/-- Every task is in one place. -/
structure Accounted (s : Pooled) : Prop where
  once : s.ledger.Nodup
  pushed : ∀ serial ∈ s.ledger, serial < s.pushes

lemma accounted_step (h : s.Accounted) : (s.step call).Accounted := by
  rcases step_ledger s call with ⟨hpushes, hperm⟩ | ⟨hpushes, hperm⟩
  · exact ⟨hperm.nodup_iff.mpr h.once, fun serial hmem =>
      hpushes ▸ h.pushed serial (hperm.mem_iff.mp hmem)⟩
  · refine ⟨hperm.nodup_iff.mpr (nodup_cons.mpr ⟨fun hmem => ?_, h.once⟩),
      fun serial hmem => ?_⟩
    · exact Nat.lt_irrefl _ (h.pushed _ hmem)
    · rw [hpushes]
      rcases mem_cons.mp (hperm.mem_iff.mp hmem) with rfl | hold
      · exact Nat.lt_succ_self _
      · exact Nat.lt_succ_of_lt (h.pushed serial hold)

end Pooled

namespace Pooled

/-! ## The timer queue -/

/-- The steps that keep the timer queue: `delay` does not move a task ahead of one that
lies behind it, and `pop(id)` does not name a queued task. -/
def Keeps : Call → Prop
  | .delay id due => ∀ entry ∈ (s.pool.behind id).head?, entry.1 ≤ due
  | .popNamed id => s.pool.timerTasks.find? (Entry.named id) = none
  | _ => True

/-- The delayed tasks are sorted, and none of them is null. -/
structure Queued (s : Pooled) : Prop where
  sorted : TaskPool.Sorted s.pool.timerTasks
  nonnull : ∀ entry ∈ s.pool.timerTasks, entry.2 ≠ none

lemma queued_step (h : s.Queued) (hkeeps : s.Keeps call) : (s.step call).Queued := by
  cases call with
  | push address => exact ⟨h.sorted, h.nonnull⟩
  | pushDelayed address due =>
    refine ⟨TaskPool.insert_sorted h.sorted, fun entry hmem => ?_⟩
    rcases mem_cons.mp ((TaskPool.insert_perm due _ _).mem_iff.mp hmem) with rfl | hold
    · exact Option.some_ne_none _
    · exact h.nonnull entry hold
  | delay id due =>
    refine ⟨TaskPool.delay_sorted h.sorted hkeeps, ?_⟩
    rcases TaskPool.split_named s.pool.timerTasks id with
      ⟨-, hdrop⟩ | ⟨entry, back, -, hdrop, hsplit⟩
    · simp only [step, TaskPool.delay, hdrop]
      exact h.nonnull
    · have hall := h.nonnull
      rw [hsplit] at hall
      simp only [step, TaskPool.delay, hdrop]
      intro other hother
      rcases mem_append.mp ((TaskPool.settle_perm _ _ _).mem_iff.mp hother) with
        hfront | hrest
      · exact hall other (mem_append_left _ (mem_reverse.mp hfront))
      · rcases mem_cons.mp hrest with rfl | hback
        · exact hall entry (mem_append_right _ mem_cons_self)
        · exact hall other (mem_append_right _ (mem_cons_of_mem _ hback))
  | cancel id =>
    rcases TaskPool.split_named s.pool.timerTasks id with
      ⟨-, hdrop⟩ | ⟨entry, back, -, hdrop, hsplit⟩
    · simp only [step, TaskPool.cancel, hdrop]
      exact ⟨h.sorted, h.nonnull⟩
    · have hsub : (s.pool.timerTasks.takeWhile (fun entry => !entry.named id) ++ back).Sublist
          s.pool.timerTasks := by
        conv_rhs => rw [hsplit]
        exact (sublist_cons_self _ _).append_left _
      simp only [step, TaskPool.cancel, hdrop]
      exact ⟨h.sorted.sublist hsub, fun other hother => h.nonnull other (hsub.subset hother)⟩
  | popNamed id =>
    rcases TaskPool.split_named s.pool.timerTasks id with
      ⟨-, hdrop⟩ | ⟨entry, back, hfind, -, -⟩
    · simp only [step, TaskPool.popNamed, hdrop]
      exact ⟨h.sorted, h.nonnull⟩
    · exact absurd (hkeeps.symm.trans hfind) (by simp)
  | pop now =>
    have hsub : (s.pool.pop now).2.timerTasks.Sublist s.pool.timerTasks := by
      unfold TaskPool.pop
      split
      · exact List.Sublist.refl _
      · split
        · exact List.Sublist.refl _
        · split
          · exact dropLast_sublist _
          · exact List.Sublist.refl _
    exact ⟨h.sorted.sublist hsub, fun other hother => h.nonnull other (hsub.subset hother)⟩

lemma pop_earliest {s : Pooled} (h : s.Queued) (now : Int) : ((s.pool.pop now).1 ≠ none ↔
      s.pool.tasks ≠ [] ∨ ∃ entry ∈ s.pool.timerTasks, entry.1 ≤ now) ∧
    ∀ popped, (s.pool.pop now).1 = some popped → ∃ task, popped = some task ∧
      (s.pool.tasks = [] → ∃ due, (due, some task) ∈ s.pool.timerTasks ∧ due ≤ now ∧
        ∀ entry ∈ s.pool.timerTasks, due ≤ entry.1) := by
  unfold TaskPool.pop
  split
  · next task rest htasks =>
    refine ⟨⟨fun _ => .inl (by rw [htasks]; simp), fun _ => by simp⟩, fun popped hpopped => ?_⟩
    exact ⟨task, (Option.some.inj hpopped).symm, fun hempty => absurd hempty (by simp [htasks])⟩
  · next htasks =>
    split
    · next hnone =>
      have hempty : s.pool.timerTasks = [] := getLast?_eq_none_iff.mp hnone
      refine ⟨⟨fun h => absurd rfl h, ?_⟩, fun popped hpopped => by cases hpopped⟩
      rintro (hsome | ⟨entry, hmem, -⟩)
      · exact absurd htasks hsome
      · rw [hempty] at hmem
        cases hmem
    · next entry hlast =>
      have hmem : entry ∈ s.pool.timerTasks := mem_of_getLast? hlast
      have hfirst := TaskPool.getLast_earliest h.sorted hlast
      split
      · next hdue =>
        refine ⟨⟨fun _ => .inr ⟨entry, hmem, hdue⟩, fun _ => by simp⟩, fun popped hpopped => ?_⟩
        obtain ⟨task, htask⟩ := Option.ne_none_iff_exists'.mp (h.nonnull entry hmem)
        refine ⟨task, (Option.some.inj hpopped).symm.trans htask, fun _ => ⟨entry.1, ?_, hdue,
          hfirst⟩⟩
        rw [← htask]
        exact hmem
      · next hlater =>
        refine ⟨⟨fun h => absurd rfl h, ?_⟩, fun popped hpopped => by cases hpopped⟩
        rintro (hsome | ⟨other, hother, hdue⟩)
        · exact absurd htasks hsome
        · exact absurd (Int.le_trans (hfirst other hother) hdue) hlater

/-- In every run that neither shortens a delay past the task behind it nor pops a queued
task by its name, the timer queue is in order and every task is handed out at most once. -/
theorem timer_queue_in_order {s : Pooled} (h : system.ReachableUnder Keeps s) :
    s.pool.timerTasks.Pairwise (fun first second => second.1 ≤ first.1) ∧
      (∀ entry ∈ s.pool.timerTasks, entry.2 ≠ none) ∧ (∀ now, (s.pool.pop now).1 ≠ none ↔
        s.pool.tasks ≠ [] ∨ ∃ entry ∈ s.pool.timerTasks, entry.1 ≤ now) ∧
      (∀ now popped, (s.pool.pop now).1 = some popped → ∃ task, popped = some task ∧
        (s.pool.tasks = [] → ∃ due, (due, some task) ∈ s.pool.timerTasks ∧ due ≤ now ∧
          ∀ entry ∈ s.pool.timerTasks, due ≤ entry.1)) ∧ (s.handed ++ s.withdrawn).Nodup ∧
      ∀ task ∈ s.pool.held, task.serial ∉ s.handed ++ s.withdrawn := by
  have hempty : Queued system.init := ⟨List.Pairwise.nil, fun _ hmem => by cases hmem⟩
  have hnone : Accounted system.init := ⟨nodup_nil, fun _ hmem => by cases hmem⟩
  have hqueued : s.Queued :=
    h.invariant hempty fun state call hinv _ hkeeps => queued_step state call hinv hkeeps
  have haccounted : s.Accounted :=
    h.reachable.invariant hnone fun state call hinv _ => accounted_step state call hinv
  obtain ⟨-, houtside, hdisjoint⟩ := nodup_append.mp haccounted.once
  refine ⟨hqueued.sorted, hqueued.nonnull, fun now => (pop_earliest hqueued now).1,
    fun now => (pop_earliest hqueued now).2, houtside, fun task hmem houter => ?_⟩
  exact hdisjoint task.serial (mem_map_of_mem hmem) task.serial houter rfl

/-- Two delayed tasks, one of them delayed further, the other popped. -/
theorem timer_queue_in_order_delayed :
    let s := system.run {} [.pushDelayed 1 10, .pushDelayed 2 20, .delay 1 30, .pop 25]
    s.pool.timerTasks = [(30, some ⟨1, 0⟩)] ∧ s.handed = [1] ∧ (s.handed ++ s.withdrawn).Nodup := by
  have hrun : system.ReachableUnder Keeps
      (system.run {} [.pushDelayed 1 10, .pushDelayed 2 20, .delay 1 30, .pop 25]) := by
    refine System.Segment.of_follows .refl ⟨?_, trivial, ?_, trivial, trivial, ?_, trivial, trivial,
      trivial⟩
    · intro task hmem
      cases hmem
    · intro task hmem
      cases mem_singleton.mp hmem
      decide
    · intro entry hentry
      cases hentry
  exact ⟨by decide, by decide, (timer_queue_in_order hrun).2.2.2.2.1⟩

/-- A delay that is shortened leaves a task that is due behind one that is not, and a
task popped by its name leaves a null one that `pop()` hands out. -/
theorem timer_queue_out_of_order : (∃ s, system.Reachable s ∧ (0, some ⟨2, 1⟩) ∈ s.pool.timerTasks ∧
        ¬ TaskPool.Sorted s.pool.timerTasks ∧ (s.pool.pop 5).1 = none) ∧
      ∃ s, system.Reachable s ∧ (10, none) ∈ s.pool.timerTasks ∧ (s.pool.pop 10).1 = some none := by
  have hfirst : system.Reachable
      (system.run {} [.pushDelayed 1 10, .pushDelayed 2 20, .delay 2 0]) := by
    refine System.Segment.of_follows .refl ⟨?_, trivial, ?_, trivial, trivial, trivial, trivial⟩
    · intro task hmem
      cases hmem
    · intro task hmem
      cases mem_singleton.mp hmem
      decide
  have hsecond : system.Reachable (system.run {} [.pushDelayed 1 10, .popNamed 1]) := by
    refine System.Segment.of_follows .refl ⟨?_, trivial, trivial, trivial, trivial⟩
    intro task hmem
    cases hmem
  exact ⟨⟨_, hfirst, by decide, by unfold TaskPool.Sorted; decide, by decide⟩,
    ⟨_, hsecond, by decide, by decide⟩⟩

end Pooled

end Vibeshine.Threads
