import Vibeshine.DisplayHelper.Commands

/-! # What waits behind the mutation fence

Whatever was enqueued, one session intent survives among the RESETs, at the place where it
was enqueued.
-/

namespace Vibeshine.DisplayHelper.Machine

open DeferredMutationCommand List

variable {commands queue : List DeferredMutationCommand} {command : DeferredMutationCommand}

inductive Waiting (commands : List DeferredMutationCommand) : List DeferredMutationCommand → Prop where
  | resets (hresets : ∀ command ∈ commands, command.isReset = true) : Waiting commands commands
  /-- The last APPLY, REVERT or DISARM. -/
  | intent {before after : List DeferredMutationCommand} {last : DeferredMutationCommand}
      (hcommands : commands = before ++ last :: after) (hlast : last.isSessionIntent = true)
      (hafter : ∀ later ∈ after, later.isSessionIntent = false) :
      Waiting commands (before.filter (·.isReset) ++ last :: after.filter (·.isReset))
  /-- The last repair, where no client states an intent. -/
  | repair {before after : List DeferredMutationCommand} {last : DeferredMutationCommand}
      (hcommands : commands = before ++ last :: after) (hlast : last.isRepair = true)
      (hnone : ∀ command ∈ commands, command.isSessionIntent = false)
      (hafter : ∀ later ∈ after, later.isRepair = false) :
      Waiting commands (before.filter (·.isReset) ++ last :: after.filter (·.isReset))

lemma isReset_eq_false_of_isSessionIntent (h : command.isSessionIntent = true) :
    command.isReset = false := by
  cases command with
  | apply _ | revert _ | disarm _ => rfl
  | _ => cases h

lemma isReset_eq_false_of_isRepair (h : command.isRepair = true) : command.isReset = false := by
  cases command with
  | repair _ => rfl
  | _ => cases h

lemma isSessionIntent_eq_false_of_isReset (h : command.isReset = true) :
    command.isSessionIntent = false := by
  cases command with
  | reset _ => rfl
  | _ => cases h

lemma isSessionIntent_eq_false_of_isRepair (h : command.isRepair = true) :
    command.isSessionIntent = false := by
  cases command with
  | repair _ => rfl
  | _ => cases h

lemma isRepair_eq_false_of_isReset (h : command.isReset = true) : command.isRepair = false := by
  cases command with
  | reset _ => rfl
  | _ => cases h

lemma filter_isReset_around {before after : List DeferredMutationCommand}
    {last : DeferredMutationCommand} (hlast : last.isReset = false) :
    (before.filter (·.isReset) ++ last :: after.filter (·.isReset)).filter (·.isReset) =
      (before ++ last :: after).filter (·.isReset) := by
  simp [hlast]

lemma Waiting.filter_isReset (h : Waiting commands queue) :
    queue.filter (·.isReset) = commands.filter (·.isReset) := by
  cases h with
  | resets => rfl
  | intent hcommands hlast =>
    rw [hcommands, filter_isReset_around (isReset_eq_false_of_isSessionIntent hlast)]
  | repair hcommands hlast =>
    rw [hcommands, filter_isReset_around (isReset_eq_false_of_isRepair hlast)]

lemma filter_not_isReset_around {before after : List DeferredMutationCommand}
    {last : DeferredMutationCommand} :
    (before.filter (·.isReset) ++ last :: after.filter (·.isReset)).filter (! ·.isReset) =
      [last].filter (! ·.isReset) := by
  have hnone : ∀ commands : List DeferredMutationCommand,
      (commands.filter (·.isReset)).filter (! ·.isReset) = [] := by
    intro commands
    rw [filter_filter]
    exact filter_eq_nil_iff.mpr fun command _ => by cases command.isReset <;> decide
  rw [filter_append, filter_cons, filter_cons, hnone, hnone, nil_append, filter_nil]

section

variable (h : Waiting commands queue)

include h

lemma Waiting.length_le_one : (queue.filter (! ·.isReset)).length ≤ 1 := by
  cases h with
  | resets hresets =>
    have hnone : commands.filter (! ·.isReset) = [] :=
      filter_eq_nil_iff.mpr fun command hmem => by simp [hresets command hmem]
    rw [hnone]
    exact Nat.zero_le 1
  | intent | repair =>
    rw [filter_not_isReset_around]
    exact length_filter_le _ _

lemma Waiting.enqueue_reset (hreset : command.isReset = true) :
    Waiting (commands ++ [command]) (queue ++ [command]) := by
  have hfilter : [command].filter (·.isReset) = [command] := by simp [hreset]
  cases h with
  | resets hresets =>
    refine .resets fun other hother => ?_
    obtain hold | hnew := mem_append.mp hother
    · exact hresets other hold
    · rwa [mem_singleton.mp hnew]
  | @intent before after last hcommands hlast hafter =>
    have hqueue := @Waiting.intent (commands ++ [command]) before
      (after ++ [command]) _ (by simp [hcommands]) hlast (by
        intro later hlater
        obtain hold | hnew := mem_append.mp hlater
        · exact hafter later hold
        · rw [mem_singleton.mp hnew]
          exact isSessionIntent_eq_false_of_isReset hreset)
    simpa [hreset] using hqueue
  | @repair before after last hcommands hlast hnone hafter =>
    have hqueue := @Waiting.repair (commands ++ [command]) before
      (after ++ [command]) _ (by simp [hcommands]) hlast (by
        intro other hother
        obtain hold | hnew := mem_append.mp hother
        · exact hnone other hold
        · rw [mem_singleton.mp hnew]
          exact isSessionIntent_eq_false_of_isReset hreset) (by
        intro later hlater
        obtain hold | hnew := mem_append.mp hlater
        · exact hafter later hold
        · rw [mem_singleton.mp hnew]
          exact isRepair_eq_false_of_isReset hreset)
    simpa [hreset] using hqueue

lemma Waiting.enqueue_intent (hintent : command.isSessionIntent = true) :
    Waiting (commands ++ [command]) (queue.filter (·.isReset) ++ [command]) := by
  rw [h.filter_isReset]
  exact .intent rfl hintent (forall_mem_nil _)

end

lemma any_isSessionIntent_eq_false : commands.any (·.isSessionIntent) = false ↔
      ∀ command ∈ commands, command.isSessionIntent = false := by
  simp

lemma Waiting.any_isSessionIntent (h : Waiting commands queue) :
    queue.any (·.isSessionIntent) = commands.any (·.isSessionIntent) := by
  cases h with
  | resets => rfl
  | intent hcommands hlast => simp [hcommands, hlast]
  | @repair before after last hcommands hlast hnone =>
    have hqueue : ∀ command ∈ before.filter (·.isReset) ++ last :: after.filter (·.isReset),
        command.isSessionIntent = false := by
      intro command hmem
      refine hnone command (hcommands ▸ ?_)
      obtain hbefore | hrest := mem_append.mp hmem
      · exact mem_append_left _ (mem_filter.mp hbefore).1
      · obtain rfl | hafter := mem_cons.mp hrest
        · exact mem_append_right _ mem_cons_self
        · exact mem_append_right _ (mem_cons_of_mem _ (mem_filter.mp hafter).1)
    rw [any_isSessionIntent_eq_false.mpr hqueue, any_isSessionIntent_eq_false.mpr hnone]

lemma Waiting.drop_repair (h : Waiting commands queue) (hrepair : command.isRepair = true)
    (hwaits : commands.any (·.isSessionIntent) = true) : Waiting (commands ++ [command]) queue := by
  obtain ⟨intent, hmem, hintent⟩ := any_eq_true.mp hwaits
  cases h with
  | resets hresets =>
    have hnot := isSessionIntent_eq_false_of_isReset (hresets intent hmem)
    rw [hintent] at hnot
    cases hnot
  | @intent before after last hcommands hlast hafter =>
    have hqueue := @Waiting.intent (commands ++ [command]) before
      (after ++ [command]) _ (by simp [hcommands]) hlast (by
        intro later hlater
        obtain hold | hnew := mem_append.mp hlater
        · exact hafter later hold
        · rw [mem_singleton.mp hnew]
          exact isSessionIntent_eq_false_of_isRepair hrepair)
    simpa [isReset_eq_false_of_isRepair hrepair] using hqueue
  | repair hcommands hlast hnone =>
    have hnot := hnone intent hmem
    rw [hintent] at hnot
    cases hnot

lemma filter_not_isRepair (hnone : queue.any (·.isSessionIntent) = false) :
    queue.filter (! ·.isRepair) = queue.filter (·.isReset) := by
  refine filter_congr fun command hmem => ?_
  have hintent := any_isSessionIntent_eq_false.mp hnone command hmem
  cases command with
  | repair _ | reset _ => rfl
  | _ => cases hintent

lemma Waiting.enqueue_repair (h : Waiting commands queue) (hrepair : command.isRepair = true)
    (hnone : commands.any (·.isSessionIntent) = false) :
    Waiting (commands ++ [command]) (queue.filter (! ·.isRepair) ++ [command]) := by
  have hqueue := h.any_isSessionIntent.trans hnone
  rw [filter_not_isRepair hqueue, h.filter_isReset]
  refine .repair rfl hrepair (fun other hother => ?_) (forall_mem_nil _)
  obtain hold | hnew := mem_append.mp hother
  · exact any_isSessionIntent_eq_false.mp hnone other hold
  · rw [mem_singleton.mp hnew]
    exact isSessionIntent_eq_false_of_isRepair hrepair

lemma Waiting.enqueue (h : Waiting commands queue) (command : DeferredMutationCommand) :
    Waiting (commands ++ [command]) (enqueueDeferred queue command) := by
  cases command with
  | repair intent =>
    simp only [enqueueDeferred, h.any_isSessionIntent]
    split
    next hwaits => exact h.drop_repair rfl hwaits
    next hnone => exact h.enqueue_repair rfl (Bool.eq_false_iff.mpr hnone)
  | reset command => exact h.enqueue_reset rfl
  | apply command | revert command | disarm command => exact h.enqueue_intent rfl

lemma foldl_enqueue_queue (m : Machine) (commands : List DeferredMutationCommand) :
    (commands.foldl enqueueDeferredMutationCommand m).fence.deferredMutationCommands =
      commands.foldl enqueueDeferred m.fence.deferredMutationCommands := by
  induction commands generalizing m with
  | nil => rfl
  | cons command rest ih => exact ih _

lemma waiting_foldl (commands : List DeferredMutationCommand) :
    Waiting commands (commands.foldl enqueueDeferred []) := by
  induction commands using List.reverseRecOn with
  | nil => exact .resets (forall_mem_nil _)
  | append_singleton before command ih =>
    rw [foldl_append]
    exact ih.enqueue command

/-- Whatever is enqueued behind an empty fence: one entry that is no RESET, the RESETs in their
order, and the surviving intent in its place among them. -/
theorem deferred_queue_law (m : Machine) (commands : List DeferredMutationCommand) :
    let queue := (commands.foldl enqueueDeferredMutationCommand
      (m.setDeferredMutationCommands [])).fence.deferredMutationCommands
    (queue.filter (! ·.isReset)).length ≤ 1 ∧
      queue.filter (·.isReset) = commands.filter (·.isReset) ∧ Waiting commands queue := by
  dsimp only
  rw [foldl_enqueue_queue]
  have h := waiting_foldl commands
  exact ⟨h.length_le_one, h.filter_isReset, h⟩

end Vibeshine.DisplayHelper.Machine
