import Mathlib
import Vibeshine.DisplayHelper.Runtime

/-! # The windows of a recovery

What `RestoreScheduler` admits is told by the calls since it was armed: display events extend
its window, and failures in a row delay the next attempt.
-/

namespace Vibeshine.DisplayHelper.RestoreScheduler

open List

inductive Call where
  | armPrimary (now grace : Nat)
  | onDisplayEvent (now : Nat)
  | onAttemptFailed (now : Nat)
  | disarm
  | windowJustExpired (now : Nat)

/-- The display events and failed attempts since the arming, the latest first. -/
structure Window where
  start : Nat
  grace : Nat
  happened : List (Nat × Bool) := []
  reported : Bool := false

namespace Window

variable (window : Window)

def failures : Nat := (window.happened.takeWhile (!·.2)).length

def opens : Nat :=
  match window.happened.head? with
  | none => window.start + window.grace
  | some (time, true) => time
  | some (time, false) => time + restoreBackoffProfile.getD (min window.failures 7) 0

def closes : Nat :=
  ((window.happened.filter (·.2)).map (·.1 + restoreWindowEvent)).foldr max
    (window.start + restoreWindowPrimary)

end Window

structure State where
  scheduler : RestoreScheduler := {}
  window : Option Window := none

def State.step (s : State) : Call → State
  | .armPrimary now grace => ⟨s.scheduler.armPrimary now grace, some { start := now, grace }⟩
  | .onDisplayEvent now =>
    ⟨s.scheduler.onDisplayEvent now, s.window.map fun window =>
      { window with happened := (now, true) :: window.happened, reported := false }⟩
  | .onAttemptFailed now =>
    ⟨s.scheduler.onAttemptFailed now, s.window.map fun window =>
      { window with happened := (now, false) :: window.happened }⟩
  | .disarm => ⟨s.scheduler.disarm, none⟩
  | .windowJustExpired now =>
    if s.scheduler.windowJustExpired now then
      ⟨s.scheduler.reportWindowExhausted, s.window.map ({ · with reported := true })⟩
    else s

def State.Tells (s : State) : Prop :=
  s.scheduler.armed = s.window.isSome ∧ ∀ window ∈ s.window,
    s.scheduler.windowExhaustedReported = window.reported ∧
      s.scheduler.windowUntil = window.closes ∧ s.scheduler.nextAllowed = window.opens ∧
      s.scheduler.backoffIndex = min window.failures 7

lemma State.Tells.step {s : State} (h : s.Tells) (call : Call) : (s.step call).Tells := by
  obtain ⟨scheduler, window⟩ := s
  obtain ⟨harmed, htells⟩ := h
  dsimp only at harmed htells
  cases call with
  | armPrimary now grace =>
    refine ⟨rfl, fun _ hmem => ?_⟩
    cases hmem
    simp [State.step, armPrimary, Window.closes, Window.opens, Window.failures]
  | disarm => exact ⟨rfl, by simp [State.step]⟩
  | onDisplayEvent now =>
    cases window with
    | none => simp_all [State.step, Tells, onDisplayEvent]
    | some window =>
      obtain ⟨-, huntil, -, -⟩ := htells window rfl
      refine ⟨by simp [State.step, onDisplayEvent, harmed], fun _ hmem => ?_⟩
      cases hmem
      simp [State.step, onDisplayEvent, harmed, huntil, Window.closes, Window.opens,
        Window.failures, max_comm]
  | onAttemptFailed now =>
    cases window with
    | none => simp_all [State.step, Tells, onAttemptFailed]
    | some window =>
      -- The profile has eight entries, and the index stays at the last.
      have hlength : restoreBackoffProfile.length = 8 := rfl
      have hnext : (if scheduler.backoffIndex + 1 < restoreBackoffProfile.length then
          scheduler.backoffIndex + 1 else scheduler.backoffIndex) = min (window.failures + 1) 7 := by
        rw [(htells window rfl).2.2.2]
        split <;> omega
      refine ⟨by simp [State.step, onAttemptFailed, harmed], fun _ hmem => ?_⟩
      cases hmem
      simp_all [State.step, onAttemptFailed, Window.closes, Window.opens, Window.failures]
  | windowJustExpired now =>
    simp only [State.step]
    split
    · cases window with
      | none => simp_all [Tells, reportWindowExhausted]
      | some window =>
        refine ⟨harmed, fun _ hmem => ?_⟩
        cases hmem
        exact ⟨rfl, (htells window rfl).2⟩
    · exact ⟨harmed, htells⟩

/-- An attempt is admitted from the opening to the closing of the window that the calls tell,
and its end is reported once. -/
theorem attempts_windowed (calls : List Call) (now : Nat) :
    let s := calls.foldl State.step {}
    s.scheduler.shouldAttempt now =
        s.window.any (fun window => window.opens ≤ now ∧ now ≤ window.closes) ∧
      s.scheduler.windowJustExpired now =
        s.window.any (fun window => window.closes < now ∧ !window.reported) := by
  have hrun : (calls.foldl State.step {}).Tells := by
    induction calls using List.reverseRecOn with
    | nil => exact ⟨rfl, by simp⟩
    | append_singleton calls call ih =>
      rw [foldl_append]
      exact ih.step call
  dsimp only
  generalize calls.foldl State.step {} = s at hrun ⊢
  obtain ⟨harmed, htells⟩ := hrun
  cases hwindow : s.window with
  | none => simp_all [shouldAttempt, windowActive, windowJustExpired]
  | some window =>
    obtain ⟨hreported, huntil, hnext, -⟩ := htells window hwindow
    simp [shouldAttempt, windowActive, windowJustExpired, harmed, hwindow, hreported, huntil,
      hnext, Bool.and_comm]

end Vibeshine.DisplayHelper.RestoreScheduler
