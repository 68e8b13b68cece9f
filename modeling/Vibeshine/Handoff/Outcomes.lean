import Vibeshine.Handoff.Exclusion

/-! # Outcomes of the admission

What the holder of the active id means for the tasks, for the jobs that wait, and for
those that meet a stop.
-/

namespace Vibeshine.Handoff

open Library System.Segment State

variable {state : State}

/-- The ids carried by the live leases, by the reserved job, and by the jobs that `run`
has taken and whose lease is about to be made. -/
def State.carriers (state : State) : List Nat :=
  state.leases.map Lease.id ++ state.reserved.toList.map (fun job => (state.jobs job).id) ++
    state.claims.map fun job => (state.jobs job).id

def State.Awaited (state : State) (job : Nat) : Prop :=
  state.pending = some job ∨ state.reserved = some job ∨ job ∈ state.claims ∨
    (state.jobs job).ending ≠ []

/-- The task ran once and `on_end` was not called, or `on_end` was called once and the
task did not run. -/
def Job.Settled (job : Job) : Prop :=
  (job.runs = 1 ∧ job.ended = []) ∨ (job.runs = 0 ∧ job.ended.length = if job.handler then 1 else 0)

lemma Carried.carriers_eq (h : Carried state) :
    state.carriers = if state.activeId = 0 then [] else [state.activeId] := by
  cases h with
  | nobody hactive hleases hres hclaims =>
    simp [carriers, hactive, hleases, hres, hclaims]
  | lease lease hactive hleases hid hop hres hclaims =>
    simp [carriers, hactive, hleases, hid, hres, hclaims]
  | reservation job hactive hleases hres hid hop hclaims =>
    simp [carriers, hactive, hleases, hres, hid, hclaims]
  | claim job hactive hleases hres hclaims hid hop =>
    simp [carriers, hactive, hleases, hres, hclaims, hid]

lemma Carried.running_le (h : Carried state) :
    (state.leases.filter fun lease => lease.phase = .running).length ≤ 1 := by
  apply Nat.le_trans (List.length_filter_le _ _)
  cases h with
  | nobody _ hleases | reservation _ _ hleases | claim _ _ hleases => simp [hleases]
  | lease _ _ hleases => simp [hleases]

lemma Course.untouched {number : Nat} (h : Course state number) (hawaited : state.Awaited number) :
    (state.jobs number).runs = 0 ∧ (state.jobs number).ended = [] := by
  rcases hawaited with hpend | hres | hclaim | hending
  · obtain ⟨hruns, hended, _⟩ := h.waiting (.inl (h.pending.mpr hpend))
    exact ⟨hruns, hended⟩
  · obtain ⟨hruns, hended, _⟩ := h.waiting (.inr (h.reserved.mpr hres))
    exact ⟨hruns, hended⟩
  · obtain ⟨hruns, hended, _⟩ := h.running (h.claimed hclaim)
    exact ⟨by simpa [hclaim] using hruns, hended⟩
  · cases hphase : (state.jobs number).phase with
    | pending => exact absurd (h.waiting (.inl hphase)).2.2.1 hending
    | reserved => exact absurd (h.waiting (.inr hphase)).2.2.1 hending
    | running => exact absurd (h.running hphase).2.2 hending
    | done =>
      obtain ⟨hruns, reason, ⟨_, hended⟩ | ⟨hnone, _⟩⟩ := h.done hphase
      · exact ⟨hruns, hended⟩
      · exact absurd hnone hending

lemma Course.settled {number : Nat} (h : Course state number)
    (hawaited : ¬state.Awaited number) : (state.jobs number).Settled := by
  simp only [State.Awaited, not_or, ne_eq, not_not] at hawaited
  obtain ⟨hpend, hres, hclaim, hending⟩ := hawaited
  cases hphase : (state.jobs number).phase with
  | pending => exact absurd (h.pending.mp hphase) hpend
  | reserved => exact absurd (h.reserved.mp hphase) hres
  | running =>
    obtain ⟨hruns, hended, _⟩ := h.running hphase
    exact .inl ⟨by simpa [hclaim] using hruns, hended⟩
  | done =>
    obtain ⟨hruns, reason, ⟨hsome, _⟩ | ⟨_, hended⟩⟩ := h.done hphase
    · simp [hending] at hsome
    · refine .inr ⟨hruns, ?_⟩
      rw [hended]
      split <;> rfl

lemma Invariant.abort_done (h : Invariant state) {job : Nat} (hjob : job < state.created)
    (hphase : (state.jobs job).phase = .pending ∨ (state.jobs job).phase = .reserved)
    (reason : End) : ((state.abort job reason).jobs job).phase = .done := by
  have hcourse := h.courses job hjob
  unfold State.abort
  rcases hphase with hphase | hphase
  · rw [if_pos ⟨hphase, hcourse.pending.mp hphase⟩]
    simp [Job.discard]
  · have hres := hcourse.reserved.mp hphase
    have hid := (h.carried.eq_reservation hres).2.2.1
    rw [if_neg (by simp [hphase]), if_pos ⟨hphase, hres, hid.symm⟩]
    simp [Job.discard]

/-! ## Stopping -/

/-- A job that a stop has met: it has ended, or the stop is about to end it. -/
structure Met (state : State) (job : Nat) : Prop where
  stopping : state.isStopping = true
  made : job < state.created
  course : (state.jobs job).phase = .done ∨
    (((state.jobs job).phase = .pending ∨ (state.jobs job).phase = .reserved) ∧
      .stopping ∈ (state.jobs job).aborting)

/-- The phase is as before, and no call of `abort` is lost. -/
def Keeps (old new : Job) : Prop :=
  new.phase = old.phase ∧ ∀ reason ∈ old.aborting, reason ∈ new.aborting

lemma Keeps.refl (job : Job) : Keeps job job := ⟨rfl, fun _ => id⟩

lemma Keeps.trans {first second third : Job} (h : Keeps first second) (h' : Keeps second third) :
    Keeps first third :=
  ⟨h'.1.trans h.1, fun reason hreason => h'.2 reason (h.2 reason hreason)⟩

lemma Keeps.setJob (state : State) (job changed : Nat) (value : Job)
    (h : Keeps (state.jobs changed) value) :
    Keeps (state.jobs job) ((state.setJob changed value).jobs job) := by
  rw [setJob_jobs]
  split
  · next hsame => rwa [hsame]
  · exact .refl _

lemma Keeps.callAbort (state : State) (changed : Nat) (reason : End) (job : Nat) :
    Keeps (state.jobs job) ((state.callAbort changed reason).jobs job) :=
  .setJob state job changed _ ⟨rfl, fun _ => .tail _⟩

lemma Keeps.callAbort? (state : State) (changed : Option Nat) (reason : End) (job : Nat) :
    Keeps (state.jobs job) ((state.callAbort? changed reason).jobs job) := by
  cases changed with
  | none => exact .refl _
  | some changed => exact .callAbort state changed reason job

lemma State.abort_jobs_ne (state : State) {changed job : Nat} (hne : job ≠ changed)
    (reason : End) : (state.abort changed reason).jobs job = state.jobs job := by
  unfold abort
  split_ifs <;> simp [hne]

lemma keeps_of_stopping (hstopping : state.isStopping = true) (job : Nat) {input : Input}
    (hinput : ∀ reason, input ≠ .abort job reason) :
    Keeps (state.jobs job) ((step state input).jobs job) := by
  cases input with
  | submit request =>
    simp only [step, submit, hstopping, if_true]
    exact .refl _
  | stop => exact (Keeps.callAbort? { state with isStopping := true } _ _ job).trans (.callAbort? _ _ _ job)
  | execute lease | complete lease | drop lease => exact .refl _
  | finish lease =>
    simp only [step, finish, hstopping, if_true]
    split_ifs
    · exact .refl _
    · split <;> exact .refl _
  | peerEnd changed expired => exact .callAbort state changed _ job
  | prepare changed thrown =>
    have hcalled := Keeps.setJob state job changed
      { state.jobs changed with preparing := (state.jobs changed).preparing - 1 }
      ⟨rfl, fun _ => id⟩
    change Keeps _ ((state.prepare changed thrown).jobs job)
    unfold prepare
    cases thrown with
    | true => exact hcalled.trans (.callAbort _ _ _ _)
    | false => exact hcalled
  | prepared changed ready =>
    change Keeps _ ((state.prepared changed ready).jobs job)
    unfold prepared
    dsimp only
    split_ifs
    · exact .refl _
    · exact .setJob state job _ _ ⟨rfl, fun _ => id⟩
    · exact .callAbort _ _ _ _
  | handOver changed thrown =>
    have hcalled := Keeps.setJob state job changed
      { state.jobs changed with
        handing := (state.jobs changed).handing - 1, submitted := true }
      ⟨rfl, fun _ => id⟩
    change Keeps _ ((state.handOver changed thrown).jobs job)
    unfold handOver
    cases thrown with
    | true => exact hcalled.trans (.callAbort _ _ _ _)
    | false => exact hcalled
  | run changed first second connected =>
    simp only [step, run, rejection, hstopping, if_true]
    split_ifs
    · exact .refl _
    · exact .callAbort _ _ _ _
  | launch changed => exact .setJob state job _ _ ⟨rfl, fun _ => id⟩
  | abort changed reason =>
    have hne : job ≠ changed := fun heq => hinput reason (heq ▸ rfl)
    change Keeps _ ((abort _ changed reason).jobs job)
    rw [abort_jobs_ne _ hne, setJob_jobs, if_neg hne]
    exact .refl _
  | notify changed ending => exact .setJob state job _ _ ⟨rfl, fun _ => id⟩

lemma isStopping_step (hstopping : state.isStopping = true) (input : Input) :
    (step state input).isStopping = true := by
  cases input with
  | submit request => simp [step, submit, hstopping]
  | stop => exact (SameHolder.stop state).stopping hstopping
  | execute lease | complete lease | drop lease | launch job | notify job ending => exact hstopping
  | finish lease =>
    simp only [step, finish, hstopping, if_true]
    split_ifs
    · rfl
    · split <;> rfl
  | peerEnd job expired => exact (SameHolder.callAbort state job _).stopping hstopping
  | prepare job thrown => exact (SameHolder.prepare state job thrown).stopping hstopping
  | prepared job ready => exact (SameHolder.prepared state job ready).stopping hstopping
  | handOver job thrown => exact (SameHolder.handOver state job thrown).stopping hstopping
  | run job first second connected =>
    simp only [step, run, rejection, hstopping, if_true]
    split_ifs
    · exact hstopping
    · exact (SameHolder.callAbort state job _).stopping hstopping
  | abort job reason =>
    simp only [step, abort]
    split_ifs <;> exact hstopping

lemma created_step_le (state : State) (input : Input) :
    state.created ≤ (step state input).created := by
  cases input with
  | submit request =>
    simp only [step, submit, letIn, await]
    split_ifs <;> simp
  | stop => exact Nat.le_of_eq (SameHolder.stop state).created.symm
  | execute lease | complete lease | drop lease | launch job | notify job ending => exact Nat.le_refl _
  | finish lease =>
    simp only [step, finish]
    split_ifs
    · exact Nat.le_refl _
    · split <;> exact Nat.le_refl _
    · split <;> exact Nat.le_refl _
  | peerEnd job expired => exact Nat.le_of_eq (SameHolder.callAbort state job _).created.symm
  | prepare job thrown => exact Nat.le_of_eq (SameHolder.prepare state job thrown).created.symm
  | prepared job ready => exact Nat.le_of_eq (SameHolder.prepared state job ready).created.symm
  | handOver job thrown => exact Nat.le_of_eq (SameHolder.handOver state job thrown).created.symm
  | run job first second connected =>
    simp only [step, run]
    split_ifs
    · exact Nat.le_refl _
    · split
      · exact Nat.le_of_eq (SameHolder.callAbort state job _).created.symm
      · exact Nat.le_refl _
  | abort job reason =>
    simp only [step, abort]
    split_ifs <;> exact Nat.le_refl _

lemma Met.step (hinv : Invariant state) {job : Nat} (h : Met state job) {input : Input}
    (hadmits : admits state input) : Met (step state input) job := by
  refine ⟨isStopping_step h.stopping input, Nat.lt_of_lt_of_le h.made (created_step_le state input), ?_⟩
  by_cases hinput : ∀ reason, input ≠ .abort job reason
  · obtain ⟨hphase, haborting⟩ := keeps_of_stopping h.stopping job hinput
    rw [hphase]
    exact h.course.imp_right fun hwaits => ⟨hwaits.1, haborting _ hwaits.2⟩
  · push Not at hinput
    obtain ⟨reason, rfl⟩ := hinput
    have hcalled : SameHolder state (state.setJob job
        { state.jobs job with aborting := (state.jobs job).aborting.erase reason }) :=
      .setJob state _ _ ⟨rfl, rfl, rfl, rfl, rfl, rfl, rfl, rfl⟩
    refine .inl ?_
    change ((abort _ job reason).jobs job).phase = .done
    rcases h.course with hdone | ⟨hphase, _⟩
    · simp [abort, hdone]
    · exact (hinv.of_same hcalled).abort_done h.made (by rwa [(hcalled.jobs job).phase]) reason

lemma Met.of_stop (hinv : Invariant state) {job : Nat}
    (hjob : state.pending = some job ∨ state.reserved = some job) : Met state.stop job := by
  have same := SameHolder.stop state
  have hmade := hjob.elim (hinv.pendingMade job) (hinv.reservedMade job)
  have hcourse := hinv.courses job hmade
  refine ⟨?_, by rwa [same.created], .inr ⟨?_, ?_⟩⟩
  · exact ((SameHolder.callAbort? { state with isStopping := true } _ _).trans
      (.callAbort? _ _ _)).stopping rfl
  · rw [(same.jobs job).phase]
    exact hjob.imp hcourse.pending.mpr hcourse.reserved.mpr
  · unfold stop
    rcases hjob with hpend | hres
    · refine (Keeps.callAbort? _ _ _ job).2 _ ?_
      simp [hpend, callAbort?, callAbort]
    · simp [hres, callAbort?, callAbort]

lemma reachable_stop (h : admission.Reachable state) : admission.Reachable state.stop :=
  have hstop : admission.Reachable (admission.step state .stop) := .snoc h trivial trivial
  hstop

lemma Met.of_segment (hsource : admission.Reachable state) {job : Nat}
    (hjob : state.pending = some job ∨ state.reserved = some job) {later : State}
    (segment : admission.Segment (fun _ _ => True) state.stop later) : Met later job := by
  refine @System.Segment.invariant _ _ _ _ _ _ (fun state => Met state job) (reachable_stop hsource)
    (Met.of_stop (.of_reachable hsource) hjob) ?_ segment
  intro state input hreachable hmet hadmits _
  exact hmet.step (.of_reachable hreachable) hadmits

/-! ## The admission as a whole -/

lemma State.finish_of_ne (state : State) {id : Nat} (hid : id ≠ state.activeId) :
    state.finish id = state :=
  if_pos hid.symm

lemma Invariant.peerEnd_done (h : Invariant state) {job : Nat}
    (hjob : state.pending = some job ∨ state.reserved = some job) (expired : Bool) :
    ∃ reason, Library.System.Follows admission (fun _ _ => True) state
        [.peerEnd job expired, .abort job reason] ∧
      ((admission.run state [.peerEnd job expired, .abort job reason]).jobs job).phase = .done := by
  have hmade := hjob.elim (h.pendingMade job) (h.reservedMade job)
  have hcourse := h.courses job hmade
  let reason : End := if expired then .expired else .disconnected
  refine ⟨reason, ⟨hmade, trivial, ⟨?_, ?_⟩, trivial, trivial⟩, ?_⟩
  · exact hmade
  · change reason ∈ ((state.callAbort job reason).jobs job).aborting
    simp [callAbort]
  · have hcalled := SameHolder.callAbort state job reason
    have herased := hcalled.trans (.setJob (state.callAbort job reason) job
      { (state.callAbort job reason).jobs job with
        aborting := ((state.callAbort job reason).jobs job).aborting.erase reason }
      ⟨rfl, rfl, rfl, rfl, rfl, rfl, rfl, rfl⟩)
    refine (h.of_same herased).abort_done hmade ?_ reason
    rw [(herased.jobs job).phase]
    exact hjob.imp hcourse.pending.mpr hcourse.reserved.mpr

/-- A cancel, a start that waits for it, and the start up to the moment at which `run`
has left its critical section. -/
def claimedStart : List Input :=
  [.submit { operation := .cancel }, .execute ⟨1, .cancel, .held⟩,
    .submit { operation := .start, makePeer := some true, onEnd := true, deadline := 20 },
    .complete ⟨1, .cancel, .running⟩, .finish ⟨1, .cancel, .released⟩, .prepare 0 false,
    .prepared 0 true, .handOver 0 false, .run 0 5 5 true]

/-- In every interleaving: one task at a time; the active id is zero or carried by
exactly one live lease, reserved job or job that `run` has taken; one job is pending or
reserved, and runs after the cancel it waited for has released its lease; a job that
waits settles in exactly one way; an older `finish` changes nothing; and a stop keeps
the jobs it meets from running. -/
theorem admission_single_flight (h : admission.Reachable state) :
    (state.leases.filter fun lease => lease.phase = .running).length ≤ 1 ∧
      (state.carriers = if state.activeId = 0 then [] else [state.activeId]) ∧
      (state.pending = none ∨ state.reserved = none) ∧ (∀ job < state.created,
        (state.jobs job).phase = .reserved ∨ (state.jobs job).phase = .running →
          ((state.jobs job).awaits, Operation.cancel) ∈ state.finished) ∧ (∀ job < state.created,
        (state.Awaited job → (state.jobs job).runs = 0 ∧ (state.jobs job).ended = []) ∧
          (¬state.Awaited job → (state.jobs job).Settled)) ∧
      (∀ job expired, state.pending = some job ∨ state.reserved = some job →
        ∃ reason, admission.Follows (fun _ _ => True) state
            [.peerEnd job expired, .abort job reason] ∧
          ((admission.run state [.peerEnd job expired, .abort job reason]).jobs job).phase =
            .done) ∧
      (∀ job id, state.reserved = some job → id < (state.jobs job).id → state.finish id = state) ∧
      (∀ job later, state.pending = some job ∨ state.reserved = some job →
        admission.Segment (fun _ _ => True) state.stop later →
        (later.jobs job).runs = 0 ∧ ((later.jobs job).phase = .done ∨
          .stopping ∈ (later.jobs job).aborting)) ∧
      (state.leases = [] → state.pending = none → state.reserved = none → state.claims = [] →
        state.activeId = 0) := by
  have hinv := Invariant.of_reachable h
  refine ⟨hinv.carried.running_le, hinv.carried.carriers_eq, hinv.exclusive, ?_, ?_, ?_, ?_, ?_, ?_⟩
  · intro job hjob hphase
    exact (hinv.courses job hjob).awaited hphase
  · intro job hjob
    exact ⟨(hinv.courses job hjob).untouched, (hinv.courses job hjob).settled⟩
  · intro job expired hjob
    exact hinv.peerEnd_done hjob expired
  · intro job id hres hid
    apply state.finish_of_ne
    rw [← (hinv.carried.eq_reservation hres).2.2.1]
    exact Nat.ne_of_lt hid
  · intro job later hjob segment
    have hmet := Met.of_segment h hjob segment
    have hlater : admission.Reachable later := (reachable_stop h).extend segment
    have hcourse := (Invariant.of_reachable hlater).courses job hmet.made
    rcases hmet.course with hdone | ⟨hphase, haborting⟩
    · exact ⟨(hcourse.done hdone).1, .inl hdone⟩
    · exact ⟨(hcourse.waiting hphase).1, .inr haborting⟩
  · intro hleases _ hres hclaims
    cases hinv.carried with
    | nobody hactive => exact hactive
    | lease _ _ hsome => simp [hsome] at hleases
    | reservation _ _ _ hsome => simp [hsome] at hres
    | claim _ _ _ _ hsome => simp [hsome] at hclaims

theorem admission_single_flight_start :
    ((admission.run admission.init (claimedStart ++ [.launch 0])).leases.filter
      fun lease => lease.phase = .running).length ≤ 1 := by
  have hfollows : admission.Follows (fun _ _ => True) admission.init
      (claimedStart ++ [.launch 0]) := by decide
  exact (admission_single_flight (of_follows .refl hfollows)).1

/-- After `run` has left its critical section, the id is active and neither a live lease
nor a reserved job carries it. -/
theorem active_without_holder : ¬∀ state, admission.Reachable state → (state.activeId ≠ 0 ↔
        (state.leases.filter fun lease => lease.id = state.activeId).length +
          (state.reserved.toList.filter fun job => (state.jobs job).id = state.activeId).length = 1) := by
  have hfollows : admission.Follows (fun _ _ => True) admission.init claimedStart := by decide
  intro hclaim
  have hiff := hclaim _ (of_follows .refl hfollows)
  exact absurd hiff (by decide)

end Vibeshine.Handoff
