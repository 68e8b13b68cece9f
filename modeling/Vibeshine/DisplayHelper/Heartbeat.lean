import Vibeshine.Library.System
import Mathlib.Algebra.Order.Group.Int

/-! # The heartbeat of a session

`HeartbeatMonitor` decides when the helper restores the desktop of a session whose
heartbeat is gone. Beside the monitor stands the history of its calls: a restore is due
only where the history shows the missed heartbeats and the grace that followed, and it
comes in time where the session is silent.
-/

namespace Vibeshine.DisplayHelper.Heartbeat

open Library (System)

/-- The ticks of `steady_clock` in a second. -/
def second : Int := 1000000000

def optionalWindow : Int := 30 * second

def missWindow : Int := 30 * second

def recoveryWindow : Int := 120 * second

/-- `HeartbeatMonitor`. -/
structure Monitor where
  armed : Bool := false
  lastPing : Int := 0
  optionalUntil : Int := 0
  recoveryDeadline : Option Int := none
  deriving DecidableEq

namespace Monitor

def arm (m : Monitor) (now : Int) : Monitor :=
  { m with
    armed := true
    lastPing := now
    optionalUntil := now + optionalWindow
    recoveryDeadline := none }

def disarm (m : Monitor) : Monitor :=
  { m with armed := false, optionalUntil := 0, recoveryDeadline := none }

def recordPing (m : Monitor) (now : Int) : Monitor :=
  if !m.armed then m else { m with lastPing := now, recoveryDeadline := none }

def recordLivenessPing (m : Monitor) (now : Int) : Monitor :=
  if !m.armed then m else { m with lastPing := now }

def checkTimeout (m : Monitor) (now : Int) : Bool × Monitor :=
  if !m.armed then (false, m)
  else if now < m.optionalUntil then (false, m)
  else
    match m.recoveryDeadline with
    | none =>
      if now - m.lastPing < missWindow then (false, m)
      else (false, { m with recoveryDeadline := some (now + recoveryWindow) })
    | some deadline =>
      if deadline ≤ now then
        (true, { m with armed := false, optionalUntil := 0, recoveryDeadline := none })
      else (false, m)

end Monitor

inductive Call where
  | arm | disarm | recordPing | recordLivenessPing | checkTimeout
  deriving DecidableEq

/-- A call at a time, and what `check_timeout` returned. -/
structure Entry where
  call : Call
  time : Int
  fired : Bool := false
  deriving DecidableEq

namespace Entry

def IsPing (entry : Entry) : Prop :=
  entry.call = .recordPing ∨ entry.call = .recordLivenessPing

def Rearms (entry : Entry) : Prop :=
  entry.call = .arm ∨ entry.call = .disarm ∨ entry.fired = true

def Resets (entry : Entry) : Prop :=
  entry.call = .arm ∨ entry.call = .disarm ∨ entry.call = .recordPing

end Entry

structure State where
  monitor : Monitor := {}
  now : Int := 0
  /-- The calls so far, the latest first. -/
  history : List Entry := []

def Monitor.after (m : Monitor) (call : Call) (time : Int) : Bool × Monitor :=
  match call with
  | .arm => (false, m.arm time)
  | .disarm => (false, m.disarm)
  | .recordPing => (false, m.recordPing time)
  | .recordLivenessPing => (false, m.recordLivenessPing time)
  | .checkTimeout => m.checkTimeout time

def State.step (s : State) (input : Call × Int) : State where
  monitor := (s.monitor.after input.1 input.2).2
  now := input.2
  history :=
    { call := input.1, time := input.2, fired := (s.monitor.after input.1 input.2).1 } :: s.history

def heartbeat : System State (Call × Int) where
  init := {}
  admits s input := s.now ≤ input.2
  step := State.step

instance (s : State) (input : Call × Int) : Decidable (heartbeat.admits s input) :=
  inferInstanceAs (Decidable (s.now ≤ input.2))

/-! ## What the history says of the monitor -/

def ArmedSince (history : List Entry) (time : Int) : Prop :=
  ∃ later earlier fired, history = later ++ ⟨.arm, time, fired⟩ :: earlier ∧
    ∀ entry ∈ later, ¬entry.Rearms

def MissedAt (history : List Entry) (time : Int) : Prop :=
  ∃ later earlier fired, history = later ++ ⟨.checkTimeout, time, fired⟩ :: earlier ∧
    (∀ entry ∈ later, ¬entry.Resets) ∧
    ∀ entry ∈ earlier, entry.IsPing → entry.time + missWindow ≤ time

lemma ArmedSince.cons {history : List Entry} {time : Int} {entry : Entry}
    (h : ArmedSince history time) (hentry : ¬entry.Rearms) :
    ArmedSince (entry :: history) time := by
  obtain ⟨later, earlier, fired, rfl, hlater⟩ := h
  refine ⟨entry :: later, earlier, fired, rfl, fun other hmem => ?_⟩
  obtain rfl | hmem := List.mem_cons.mp hmem
  · exact hentry
  · exact hlater other hmem

lemma MissedAt.cons {history : List Entry} {time : Int} {entry : Entry}
    (h : MissedAt history time) (hentry : ¬entry.Resets) :
    MissedAt (entry :: history) time := by
  obtain ⟨later, earlier, fired, rfl, hlater, hearlier⟩ := h
  refine ⟨entry :: later, earlier, fired, rfl, fun other hmem => ?_, hearlier⟩
  obtain rfl | hmem := List.mem_cons.mp hmem
  · exact hentry
  · exact hlater other hmem

/-- What the fields of the monitor record of its history. -/
structure Recorded (s : State) : Prop where
  past : ∀ entry ∈ s.history, entry.time ≤ s.now
  armed : s.monitor.armed = true → ∃ time, ArmedSince s.history time ∧ time ≤ s.now ∧
    s.monitor.optionalUntil = time + optionalWindow
  pinged : s.monitor.armed = true → s.monitor.lastPing ≤ s.now ∧
    ∀ entry ∈ s.history, entry.IsPing → entry.time ≤ s.monitor.lastPing
  missed : ∀ deadline, s.monitor.recoveryDeadline = some deadline → s.monitor.armed = true ∧
    ∃ time, MissedAt s.history time ∧ time ≤ s.now ∧ deadline = time + recoveryWindow

lemma Recorded.initial : Recorded {} where
  past := nofun
  armed := nofun
  pinged := nofun
  missed := nofun

section

variable {s : State} {time : Int}

variable {entry : Entry}

section

variable (h : Recorded s)

include h

section

variable (htime : s.now ≤ time)

include htime

lemma Recorded.past_step (call : Call) (fired : Bool) :
    ∀ entry ∈ (⟨call, time, fired⟩ : Entry) :: s.history, entry.time ≤ time := by
  intro entry hmem
  obtain rfl | hmem := List.mem_cons.mp hmem
  · exact le_refl _
  · exact (h.past entry hmem).trans htime

lemma Recorded.armed_step (harmed : s.monitor.armed = true) (hentry : ¬entry.Rearms) :
    ∃ since, ArmedSince (entry :: s.history) since ∧ since ≤ time ∧
      s.monitor.optionalUntil = since + optionalWindow := by
  obtain ⟨since, hsince, hpast, huntil⟩ := h.armed harmed
  exact ⟨since, hsince.cons hentry, hpast.trans htime, huntil⟩

lemma Recorded.pinged_step (harmed : s.monitor.armed = true) (hentry : ¬entry.IsPing) :
    s.monitor.lastPing ≤ time ∧
      ∀ other ∈ entry :: s.history, other.IsPing → other.time ≤ s.monitor.lastPing := by
  obtain ⟨hlast, hpings⟩ := h.pinged harmed
  refine ⟨hlast.trans htime, fun other hmem hping => ?_⟩
  obtain rfl | hmem := List.mem_cons.mp hmem
  · exact absurd hping hentry
  · exact hpings other hmem hping

lemma Recorded.missed_step (hentry : ¬entry.Resets)
    {deadline : Int} (hdeadline : s.monitor.recoveryDeadline = some deadline) :
    s.monitor.armed = true ∧ ∃ missed, MissedAt (entry :: s.history) missed ∧ missed ≤ time ∧
      deadline = missed + recoveryWindow := by
  obtain ⟨harmed, missed, hmissed, hpast, heq⟩ := h.missed deadline hdeadline
  exact ⟨harmed, missed, hmissed.cons hentry, hpast.trans htime, heq⟩

lemma Recorded.arm : Recorded (s.step (.arm, time)) where
  past := h.past_step htime _ _
  armed _ := ⟨time, ⟨[], s.history, false, rfl, nofun⟩, le_refl _, rfl⟩
  pinged _ := ⟨le_refl _, fun entry hmem _ => h.past_step htime _ _ entry hmem⟩
  missed := nofun

lemma Recorded.disarm : Recorded (s.step (.disarm, time)) where
  past := h.past_step htime _ _
  armed := nofun
  pinged := nofun
  missed := nofun

lemma Recorded.idle {call : Call} (hmon : s.monitor.after call time = (false, s.monitor))
    (hcall : s.monitor.armed = true → call = .checkTimeout) :
    Recorded (s.step (call, time)) := by
  have hstep : s.step (call, time) =
      { monitor := s.monitor, now := time, history := ⟨call, time, false⟩ :: s.history } := by
    rw [State.step, hmon]
  rw [hstep]
  refine ⟨h.past_step htime _ _, fun harmed => h.armed_step htime harmed ?_,
    fun harmed => h.pinged_step htime harmed ?_, fun deadline hdeadline =>
      h.missed_step htime ?_ hdeadline⟩
  · simp [hcall harmed, Entry.Rearms]
  · simp [hcall harmed, Entry.IsPing]
  · simp [hcall (h.missed deadline hdeadline).1, Entry.Resets]

lemma Recorded.ping (harmed : s.monitor.armed = true)
    {call : Call} (hcall : call = .recordPing ∨ call = .recordLivenessPing)
    {deadline : Option Int} (hdeadline : deadline = none ∨
      call = .recordLivenessPing ∧ deadline = s.monitor.recoveryDeadline) :
    Recorded
      { monitor := { s.monitor with lastPing := time, recoveryDeadline := deadline }
        now := time
        history := ⟨call, time, false⟩ :: s.history } where
  past := h.past_step htime _ _
  armed _ := h.armed_step htime harmed (by obtain rfl | rfl := hcall <;> simp [Entry.Rearms])
  pinged _ := ⟨le_refl _, fun entry hmem _ => h.past_step htime _ _ entry hmem⟩
  missed other hother := by
    change deadline = some other at hother
    obtain rfl | ⟨rfl, rfl⟩ := hdeadline
    · cases hother
    · exact h.missed_step htime (by simp [Entry.Resets]) hother

lemma Recorded.recordPing : Recorded (s.step (.recordPing, time)) := by
  cases harmed : s.monitor.armed with
  | false =>
    exact h.idle htime (by simp [Monitor.after, Monitor.recordPing, harmed])
      (fun h => by rw [harmed] at h; cases h)
  | true =>
    have hping := h.ping htime harmed (.inl rfl) (.inl rfl)
    simpa [State.step, Monitor.after, Monitor.recordPing, harmed] using hping

lemma Recorded.recordLivenessPing : Recorded (s.step (.recordLivenessPing, time)) := by
  cases harmed : s.monitor.armed with
  | false =>
    exact h.idle htime (by simp [Monitor.after, Monitor.recordLivenessPing, harmed])
      (fun h => by rw [harmed] at h; cases h)
  | true =>
    have hping := h.ping htime harmed (.inr rfl) (.inr ⟨rfl, rfl⟩)
    simpa [State.step, Monitor.after, Monitor.recordLivenessPing, harmed] using hping

end

end

lemma Monitor.checkTimeout_cases (m : Monitor) (now : Int) : m.checkTimeout now = (false, m) ∨
    (m.armed = true ∧ m.optionalUntil ≤ now ∧ m.recoveryDeadline = none ∧
      m.lastPing + missWindow ≤ now ∧
      m.checkTimeout now = (false, { m with recoveryDeadline := some (now + recoveryWindow) })) ∨
    (m.armed = true ∧ m.optionalUntil ≤ now ∧
      (∃ deadline, m.recoveryDeadline = some deadline ∧ deadline ≤ now) ∧
      m.checkTimeout now =
        (true, { m with armed := false, optionalUntil := 0, recoveryDeadline := none })) := by
  unfold checkTimeout
  cases harmed : m.armed with
  | false => exact .inl rfl
  | true =>
    simp only [Bool.not_true, Bool.false_eq_true, if_false]
    split
    · exact .inl rfl
    next huntil =>
      rw [not_lt] at huntil
      cases hdeadline : m.recoveryDeadline with
      | none =>
        dsimp only
        split
        · exact .inl rfl
        next hmissed => exact .inr (.inl ⟨trivial, huntil, rfl, by omega, rfl⟩)
      | some deadline =>
        dsimp only
        split
        next hover => exact .inr (.inr ⟨trivial, huntil, ⟨deadline, rfl, hover⟩, rfl⟩)
        · exact .inl rfl

lemma Recorded.checkTimeout (h : Recorded s) (htime : s.now ≤ time) :
    Recorded (s.step (.checkTimeout, time)) := by
  obtain hidle | ⟨harmed, -, -, hmissed, hcheck⟩ | ⟨-, -, -, hcheck⟩ :=
    s.monitor.checkTimeout_cases time
  · exact h.idle htime hidle fun _ => rfl
  · have hstep : s.step (.checkTimeout, time) =
        { monitor := { s.monitor with recoveryDeadline := some (time + recoveryWindow) }
          now := time
          history := ⟨.checkTimeout, time, false⟩ :: s.history } := by
      rw [State.step, Monitor.after, hcheck]
    rw [hstep]
    refine ⟨h.past_step htime _ _, fun _ => h.armed_step htime harmed ?_,
      fun _ => h.pinged_step htime harmed ?_, fun deadline hdeadline => ?_⟩
    · simp [Entry.Rearms]
    · simp [Entry.IsPing]
    · cases hdeadline
      -- Every ping so far is old enough, since the last one is.
      have hpings := (h.pinged harmed).2
      refine ⟨harmed, time, ⟨[], s.history, false, rfl, nofun, fun entry hmem hping => ?_⟩,
        le_refl _, rfl⟩
      have := hpings entry hmem hping
      omega
  · have hstep : s.step (.checkTimeout, time) =
        { monitor := { s.monitor with
            armed := false, optionalUntil := 0, recoveryDeadline := none }
          now := time
          history := ⟨.checkTimeout, time, true⟩ :: s.history } := by
      rw [State.step, Monitor.after, hcheck]
    rw [hstep]
    exact ⟨h.past_step htime _ _, nofun, nofun, nofun⟩

end

lemma recorded_of_reachable {s : State} (h : heartbeat.Reachable s) : Recorded s := by
  apply h.invariant .initial
  intro s input hrecorded hadmits
  obtain ⟨call, time⟩ := input
  cases call with
  | arm => exact hrecorded.arm hadmits
  | disarm => exact hrecorded.disarm hadmits
  | recordPing => exact hrecorded.recordPing hadmits
  | recordLivenessPing => exact hrecorded.recordLivenessPing hadmits
  | checkTimeout => exact hrecorded.checkTimeout hadmits

/-! ## A silent session -/

def Monitor.checked (m : Monitor) (checks : List Int) : Monitor :=
  checks.foldl (fun m time => (m.checkTimeout time).2) m

def FiresBy (m : Monitor) (checks : List Int) (bound : Int) : Prop :=
  ∃ before time after, checks = before ++ time :: after ∧ time ≤ bound ∧
    ((m.checked before).checkTimeout time).1 = true

section

variable {m : Monitor} {checks : List Int} {bound time : Int}

lemma FiresBy.cons (h : FiresBy (m.checkTimeout time).2 checks bound) :
    FiresBy m (time :: checks) bound := by
  obtain ⟨before, fired, after, rfl, hbound, hfired⟩ := h
  exact ⟨time :: before, fired, after, rfl, hbound, hfired⟩

lemma FiresBy.head (hbound : time ≤ bound) (hfired : (m.checkTimeout time).1 = true) :
    FiresBy m (time :: checks) bound :=
  ⟨[], time, checks, rfl, hbound, hfired⟩

lemma FiresBy.mono {later : Int} (h : FiresBy m checks bound) (hlater : bound ≤ later) :
    FiresBy m checks later := by
  obtain ⟨before, fired, after, hchecks, hbound, hfired⟩ := h
  exact ⟨before, fired, after, hchecks, hbound.trans hlater, hfired⟩

lemma firesBy_of_deadline {deadline late : Int} (harmed : m.armed = true)
    (hdeadline : m.recoveryDeadline = some deadline) (hover : deadline ≤ late)
    (huntil : m.optionalUntil ≤ late) (hmem : late ∈ checks) (hsorted : checks.Pairwise (· ≤ ·)) :
    FiresBy m checks late := by
  induction checks with
  | nil => cases hmem
  | cons time checks ih =>
    rw [List.pairwise_cons] at hsorted
    have htime : time ≤ late := by
      obtain rfl | hmem := List.mem_cons.mp hmem
      · exact le_refl _
      · exact hsorted.1 late hmem
    by_cases hfires : m.optionalUntil ≤ time ∧ deadline ≤ time
    · refine .head htime ?_
      rw [Monitor.checkTimeout, hdeadline]
      simp [harmed, not_lt.mpr hfires.1, hfires.2]
    · have hidle : m.checkTimeout time = (false, m) := by
        obtain hidle | ⟨-, -, hnone, -⟩ | ⟨-, hreached, ⟨other, hother, hpassed⟩, -⟩ :=
          m.checkTimeout_cases time
        · exact hidle
        · rw [hdeadline] at hnone
          cases hnone
        · rw [hdeadline] at hother
          cases hother
          exact absurd ⟨hreached, hpassed⟩ hfires
      refine .cons ?_
      rw [hidle]
      refine ih ?_ hsorted.2
      obtain rfl | hmem := List.mem_cons.mp hmem
      · exact absurd ⟨huntil, hover⟩ hfires
      · exact hmem

lemma firesBy_of_missed {missed late : Int} (harmed : m.armed = true)
    (hnone : m.recoveryDeadline = none) (huntil : m.optionalUntil ≤ missed)
    (hping : m.lastPing + missWindow ≤ missed) (hmissed : missed ∈ checks)
    (hlate : late ∈ checks) (hgrace : missed + recoveryWindow ≤ late)
    (hsorted : checks.Pairwise (· ≤ ·)) : FiresBy m checks late := by
  induction checks with
  | nil => cases hmissed
  | cons time checks ih =>
    rw [List.pairwise_cons] at hsorted
    have htime : time ≤ missed := by
      obtain rfl | hmem := List.mem_cons.mp hmissed
      · exact le_refl _
      · exact hsorted.1 missed hmem
    have hpos : 0 < recoveryWindow := by decide
    have hrest : late ∈ checks := by
      obtain rfl | hmem := List.mem_cons.mp hlate
      · omega
      · exact hmem
    refine .cons ?_
    obtain hidle | ⟨-, -, -, -, hset⟩ | ⟨-, -, ⟨other, hother, -⟩, -⟩ :=
      m.checkTimeout_cases time
    · rw [hidle]
      refine ih ?_ hrest hsorted.2
      obtain rfl | hmem := List.mem_cons.mp hmissed
      · rw [Monitor.checkTimeout, hnone] at hidle
        have hdue : ¬missed - m.lastPing < missWindow := by omega
        simp [harmed, not_lt.mpr huntil, hdue] at hidle
        have := congrArg Monitor.recoveryDeadline hidle
        rw [hnone] at this
        cases this
      · exact hmem
    · rw [hset]
      have hdue : time + recoveryWindow ≤ late := by omega
      have hreached : m.optionalUntil ≤ late := by omega
      exact firesBy_of_deadline harmed rfl hdue hreached hrest hsorted.2
    · rw [hnone] at hother
      cases hother

end

/-- A restore is due only after a missed heartbeat and the grace that follows it, and at
most once for each arming; and it comes in time for an armed monitor that hears nothing. -/
theorem restore_law {s : State} (hreach : heartbeat.Reachable s) :
    (∀ time, s.now ≤ time → (s.monitor.checkTimeout time).1 = true →
      (∃ armed, ArmedSince s.history armed ∧ armed + 30 * second ≤ time) ∧
      ∃ missed, MissedAt s.history missed ∧ missed + 120 * second ≤ time) ∧
    (s.monitor.armed = true → ∀ start (period : Nat) checks, s.now ≤ start →
      checks.Pairwise (· ≤ ·) → (∀ check ∈ checks, start ≤ check) →
      (∀ moment, start ≤ moment → moment ≤ start + 150 * second + period →
        ∃ check ∈ checks, moment ≤ check ∧ check ≤ moment + period) →
      FiresBy s.monitor checks (start + 150 * second + 2 * period)) := by
  have hrecorded := recorded_of_reachable hreach
  refine ⟨fun time htime hfired => ?_, fun harmed start period checks hstart hsorted hafter
    hcovered => ?_⟩
  · obtain hidle | ⟨-, -, -, -, hset⟩ | ⟨harmed, huntil, ⟨deadline, hdeadline, hover⟩, -⟩ :=
      s.monitor.checkTimeout_cases time
    · rw [hidle] at hfired
      cases hfired
    · rw [hset] at hfired
      cases hfired
    · obtain ⟨since, hsince, -, heq⟩ := hrecorded.armed harmed
      obtain ⟨-, missed, hmissed, -, rfl⟩ := hrecorded.missed deadline hdeadline
      rw [heq] at huntil
      exact ⟨⟨since, hsince, huntil⟩, missed, hmissed, hover⟩
  · obtain ⟨since, -, hsince, huntil⟩ := hrecorded.armed harmed
    obtain ⟨hlast, -⟩ := hrecorded.pinged harmed
    unfold optionalWindow at huntil
    cases hdeadline : s.monitor.recoveryDeadline with
    | none =>
      obtain ⟨missed, hmissed, hlow, hhigh⟩ :=
        hcovered (start + 30 * second) (by simp only [second]; omega) (by simp only [second]; omega)
      obtain ⟨late, hlate, hgrace, hbound⟩ :=
        hcovered (start + 150 * second + period) (by simp only [second]; omega) (le_refl _)
      refine (firesBy_of_missed harmed hdeadline (by omega) ?_ hmissed hlate ?_ hsorted).mono
        (by omega)
      · unfold missWindow
        omega
      · simp only [recoveryWindow, second] at *
        omega
    | some deadline =>
      obtain ⟨-, missed, -, hpast, rfl⟩ := hrecorded.missed deadline hdeadline
      obtain ⟨late, hlate, hgrace, hbound⟩ :=
        hcovered (start + 120 * second) (by simp only [second]; omega)
          (by simp only [second]; omega)
      simp only [recoveryWindow, second] at *
      exact (firesBy_of_deadline harmed hdeadline (by omega) (by omega) hlate hsorted).mono
        (by omega)

def silent : State := heartbeat.run {} [(.arm, 0)]

def missing : State := heartbeat.run {} [(.arm, 0), (.checkTimeout, 150 * second)]

theorem restore_law_silent : FiresBy silent.monitor [150 * second, 300 * second] (450 * second) ∧
      ∃ missed, MissedAt missing.history missed ∧ missed + 120 * second ≤ 300 * second := by
  have hsilent : heartbeat.Reachable silent :=
    System.Segment.of_follows .refl
      (show heartbeat.Follows _ _ [(Call.arm, 0)] from ⟨by decide, trivial, trivial⟩)
  have hmissing : heartbeat.Reachable missing :=
    System.Segment.of_follows .refl
      (show heartbeat.Follows _ _ [(Call.arm, 0), (Call.checkTimeout, 150 * second)] from
        ⟨by decide, trivial, by decide, trivial, trivial⟩)
  refine ⟨?_, ((restore_law hmissing).1 (300 * second) (by decide) (by decide)).2⟩
  refine (restore_law hsilent).2 rfl 0 150000000000 _ (by decide) (by decide) (by decide)
    fun moment hlow hhigh => ?_
  obtain hearly | hlate := Int.le_total moment (150 * second)
  · exact ⟨150 * second, by simp, hearly, by simp only [second]; omega⟩
  · simp only [second] at hhigh hlate ⊢
    exact ⟨300 * 1000000000, by simp, by omega, by omega⟩

end Vibeshine.DisplayHelper.Heartbeat
