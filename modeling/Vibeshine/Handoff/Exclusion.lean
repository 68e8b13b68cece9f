import Vibeshine.Handoff.Admission

/-! # Who holds the admission

At every moment the active id is carried by one live lease, by the reserved job, or by
a job that `run` has taken and whose lease it is about to make, or there is none. Each
waiting job goes one way: to its one run, or to its one end.
-/

namespace Vibeshine.Handoff

open Library State

variable {state : State}

inductive Carried (state : State) : Prop where
  | nobody (hactive : state.activeId = 0) (hleases : state.leases = [])
      (hreserved : state.reserved = none) (hclaims : state.claims = [])
  | lease (lease : Lease) (hactive : state.activeId ≠ 0) (hleases : state.leases = [lease])
      (hid : lease.id = state.activeId) (hoperation : lease.operation = state.activeOperation)
      (hreserved : state.reserved = none) (hclaims : state.claims = [])
  | reservation (job : Nat) (hactive : state.activeId ≠ 0) (hleases : state.leases = [])
      (hreserved : state.reserved = some job) (hid : (state.jobs job).id = state.activeId)
      (hoperation : state.activeOperation = .start) (hclaims : state.claims = [])
  | claim (job : Nat) (hactive : state.activeId ≠ 0) (hleases : state.leases = [])
      (hreserved : state.reserved = none) (hclaims : state.claims = [job])
      (hid : (state.jobs job).id = state.activeId) (hoperation : state.activeOperation = .start)

/-- How far a job that was answered with `waiting` has come. -/
structure Course (state : State) (number : Nat) : Prop where
  pending : (state.jobs number).phase = .pending ↔ state.pending = some number
  reserved : (state.jobs number).phase = .reserved ↔ state.reserved = some number
  claimed : number ∈ state.claims → (state.jobs number).phase = .running
  waiting : (state.jobs number).phase = .pending ∨ (state.jobs number).phase = .reserved →
    (state.jobs number).runs = 0 ∧ (state.jobs number).ended = [] ∧
      (state.jobs number).ending = [] ∧ (state.jobs number).onEnd = (state.jobs number).handler
  running : (state.jobs number).phase = .running →
    (state.jobs number).runs = (if number ∈ state.claims then 0 else 1) ∧
      (state.jobs number).ended = [] ∧ (state.jobs number).ending = []
  done : (state.jobs number).phase = .done → (state.jobs number).runs = 0 ∧ ∃ reason,
    ((state.jobs number).ending = [(reason, (state.jobs number).handler)] ∧
        (state.jobs number).ended = []) ∨
      ((state.jobs number).ending = [] ∧
        (state.jobs number).ended = if (state.jobs number).handler then [reason] else [])
  awaited : (state.jobs number).phase = .reserved ∨ (state.jobs number).phase = .running →
    ((state.jobs number).awaits, Operation.cancel) ∈ state.finished

structure Invariant (state : State) : Prop where
  carried : Carried state
  pendingMade : ∀ job, state.pending = some job → job < state.created
  reservedMade : ∀ job, state.reserved = some job → job < state.created
  claimsMade : ∀ job ∈ state.claims, job < state.created
  exclusive : state.pending = none ∨ state.reserved = none
  waits : ∀ job, state.pending = some job → state.isStopping = true ∨
    (state.activeId = (state.jobs job).awaits ∧ state.activeId ≠ 0 ∧
      state.activeOperation = .cancel)
  courses : ∀ number < state.created, Course state number

lemma Invariant.initial : Invariant {} where
  carried := .nobody rfl rfl rfl rfl
  pendingMade := by simp
  reservedMade := by simp
  claimsMade := by simp
  exclusive := .inl rfl
  waits := by simp
  courses := by simp

/-! ## Calls in flight -/

/-- Two records of a job that differ in nothing but the calls that may still abort it
or carry it to the executor. -/
structure SameCourse (old new : Job) : Prop where
  phase : new.phase = old.phase
  id : new.id = old.id
  onEnd : new.onEnd = old.onEnd
  handler : new.handler = old.handler
  awaits : new.awaits = old.awaits
  ending : new.ending = old.ending
  runs : new.runs = old.runs
  ended : new.ended = old.ended

@[simp] lemma State.setJob_jobs (state : State) (job number : Nat) (value : Job) :
    (state.setJob job value).jobs number = if number = job then value else state.jobs number := by
  simp [setJob, Function.update_apply]

/-- Two states that agree but for calls in flight. -/
structure SameHolder (old new : State) : Prop where
  activeId : new.activeId = old.activeId
  activeOperation : new.activeOperation = old.activeOperation
  leases : new.leases = old.leases
  reserved : new.reserved = old.reserved
  pending : new.pending = old.pending
  claims : new.claims = old.claims
  created : new.created = old.created
  finished : new.finished = old.finished
  stopping : old.isStopping = true → new.isStopping = true
  jobs : ∀ number, SameCourse (old.jobs number) (new.jobs number)

lemma SameCourse.refl (job : Job) : SameCourse job job := ⟨rfl, rfl, rfl, rfl, rfl, rfl, rfl, rfl⟩

lemma SameHolder.refl (state : State) : SameHolder state state :=
  ⟨rfl, rfl, rfl, rfl, rfl, rfl, rfl, rfl, id, fun _ => .refl _⟩

lemma SameHolder.trans {first second third : State} (h : SameHolder first second)
    (h' : SameHolder second third) : SameHolder first third where
  activeId := h'.activeId.trans h.activeId
  activeOperation := h'.activeOperation.trans h.activeOperation
  leases := h'.leases.trans h.leases
  reserved := h'.reserved.trans h.reserved
  pending := h'.pending.trans h.pending
  claims := h'.claims.trans h.claims
  created := h'.created.trans h.created
  finished := h'.finished.trans h.finished
  stopping := fun hstop => h'.stopping (h.stopping hstop)
  jobs := fun number =>
    have old := h.jobs number
    have new := h'.jobs number
    ⟨new.phase.trans old.phase, new.id.trans old.id, new.onEnd.trans old.onEnd,
      new.handler.trans old.handler, new.awaits.trans old.awaits, new.ending.trans old.ending,
      new.runs.trans old.runs, new.ended.trans old.ended⟩

lemma SameHolder.setJob (state : State) (job : Nat) (value : Job)
    (h : SameCourse (state.jobs job) value) : SameHolder state (state.setJob job value) := by
  refine ⟨rfl, rfl, rfl, rfl, rfl, rfl, rfl, rfl, id, fun number => ?_⟩
  rw [setJob_jobs]
  split
  · next hnumber => rwa [hnumber]
  · exact .refl _

lemma SameHolder.callAbort (state : State) (job : Nat) (reason : End) :
    SameHolder state (state.callAbort job reason) :=
  .setJob state _ _ ⟨rfl, rfl, rfl, rfl, rfl, rfl, rfl, rfl⟩

lemma SameHolder.callAbort? (state : State) (job : Option Nat) (reason : End) :
    SameHolder state (state.callAbort? job reason) := by
  cases job with
  | none => exact .refl _
  | some job => exact .callAbort state job reason

variable {new : State}

lemma Course.of_same {number : Nat} (same : SameHolder state new)
    (h : Course state number) : Course new number := by
  have hjob := same.jobs number
  constructor
  · rw [hjob.phase, same.pending]
    exact h.pending
  · rw [hjob.phase, same.reserved]
    exact h.reserved
  · rw [hjob.phase, same.claims]
    exact h.claimed
  · rw [hjob.phase, hjob.runs, hjob.ended, hjob.ending, hjob.onEnd, hjob.handler]
    exact h.waiting
  · rw [hjob.phase, hjob.runs, hjob.ended, hjob.ending, same.claims]
    exact h.running
  · rw [hjob.phase, hjob.runs, hjob.ended, hjob.ending, hjob.handler]
    exact h.done
  · rw [hjob.phase, hjob.awaits, same.finished]
    exact h.awaited

lemma Carried.of_same (same : SameHolder state new) (h : Carried state) : Carried new := by
  cases h with
  | nobody hactive hleases hreserved hclaims =>
    exact .nobody (same.activeId.trans hactive) (same.leases.trans hleases)
      (same.reserved.trans hreserved) (same.claims.trans hclaims)
  | lease lease hactive hleases hid hoperation hreserved hclaims =>
    exact .lease lease (by rwa [same.activeId]) (same.leases.trans hleases)
      (by rwa [same.activeId]) (by rwa [same.activeOperation])
      (same.reserved.trans hreserved) (same.claims.trans hclaims)
  | reservation job hactive hleases hreserved hid hoperation hclaims =>
    exact .reservation job (by rwa [same.activeId]) (same.leases.trans hleases)
      (same.reserved.trans hreserved) (by rwa [same.activeId, (same.jobs job).id])
      (by rwa [same.activeOperation]) (same.claims.trans hclaims)
  | claim job hactive hleases hreserved hclaims hid hoperation =>
    exact .claim job (by rwa [same.activeId]) (same.leases.trans hleases)
      (same.reserved.trans hreserved) (same.claims.trans hclaims)
      (by rwa [same.activeId, (same.jobs job).id]) (by rwa [same.activeOperation])

lemma Invariant.of_same {new : State} (same : SameHolder state new) (h : Invariant state) :
    Invariant new where
  carried := h.carried.of_same same
  pendingMade := by
    rw [same.pending, same.created]
    exact h.pendingMade
  reservedMade := by
    rw [same.reserved, same.created]
    exact h.reservedMade
  claimsMade := by
    rw [same.claims, same.created]
    exact h.claimsMade
  exclusive := by
    rw [same.pending, same.reserved]
    exact h.exclusive
  waits := by
    intro job hpending
    rw [same.pending] at hpending
    rw [same.activeId, same.activeOperation, (same.jobs job).awaits]
    exact (h.waits job hpending).imp_left same.stopping
  courses := by
    rw [same.created]
    exact fun number hnumber => (h.courses number hnumber).of_same same

/-! ## The critical sections -/

lemma Course.frame {number : Nat} (h : Course state number)
    (hjob : new.jobs number = state.jobs number)
    (hpending : new.pending = some number ↔ state.pending = some number)
    (hreserved : new.reserved = some number ↔ state.reserved = some number)
    (hclaims : number ∈ new.claims ↔ number ∈ state.claims)
    (hfinished : ∀ entry ∈ state.finished, entry ∈ new.finished) : Course new number where
  pending := by
    rw [hjob, hpending]
    exact h.pending
  reserved := by
    rw [hjob, hreserved]
    exact h.reserved
  claimed := by
    rw [hjob, hclaims]
    exact h.claimed
  waiting := by
    rw [hjob]
    exact h.waiting
  running := by
    simp only [hjob, hclaims]
    exact h.running
  done := by
    rw [hjob]
    exact h.done
  awaited := by
    rw [hjob]
    exact fun hphase => hfinished _ (h.awaited hphase)

section

variable (h : Carried state)

include h

lemma Carried.eq_nobody (hactive : state.activeId = 0) :
    state.leases = [] ∧ state.reserved = none ∧ state.claims = [] := by
  cases h with
  | nobody _ hleases hreserved hclaims => exact ⟨hleases, hreserved, hclaims⟩
  | lease _ hne | reservation _ hne | claim _ hne => exact absurd hactive hne

lemma Carried.eq_lease {lease : Lease} (hlease : lease ∈ state.leases) :
    state.activeId ≠ 0 ∧ state.leases = [lease] ∧ lease.id = state.activeId ∧
      lease.operation = state.activeOperation ∧ state.reserved = none ∧ state.claims = [] := by
  cases h with
  | nobody _ hleases | reservation _ _ hleases | claim _ _ hleases => simp [hleases] at hlease
  | lease only hactive hleases hid hoperation hreserved hclaims =>
    obtain rfl : lease = only := by simpa [hleases] using hlease
    exact ⟨hactive, hleases, hid, hoperation, hreserved, hclaims⟩

lemma Carried.eq_reservation {job : Nat} (hreserved : state.reserved = some job) :
    state.activeId ≠ 0 ∧ state.leases = [] ∧ (state.jobs job).id = state.activeId ∧
      state.activeOperation = .start ∧ state.claims = [] := by
  cases h with
  | nobody _ _ hnone | lease _ _ _ _ _ hnone | claim _ _ _ hnone => simp [hnone] at hreserved
  | reservation only hactive hleases honly hid hoperation hclaims =>
    obtain rfl : only = job := by simpa [honly] using hreserved
    exact ⟨hactive, hleases, hid, hoperation, hclaims⟩

lemma Carried.eq_claim {job : Nat} (hclaim : job ∈ state.claims) :
    state.activeId ≠ 0 ∧ state.leases = [] ∧ state.reserved = none ∧ state.claims = [job] ∧
      (state.jobs job).id = state.activeId ∧ state.activeOperation = .start := by
  cases h with
  | nobody _ _ _ hclaims | lease _ _ _ _ _ _ hclaims | reservation _ _ _ _ _ _ hclaims =>
    simp [hclaims] at hclaim
  | claim only hactive hleases hreserved hclaims hid hoperation =>
    obtain rfl : job = only := by simpa [hclaims] using hclaim
    exact ⟨hactive, hleases, hreserved, hclaims, hid, hoperation⟩

end

section

variable (h : Invariant state)

include h

lemma Invariant.letIn (request : Request)
    (hrun : state.isStopping = false) (hactive : state.activeId = 0) :
    Invariant (state.letIn request).2 := by
  obtain ⟨hleases, hreserved, hclaims⟩ := h.carried.eq_nobody hactive
  have hpending : state.pending = none := by
    cases hpending : state.pending with
    | none => rfl
    | some job => have := h.waits job hpending; simp_all
  unfold State.letIn
  split
  · refine ⟨?_, ?_, ?_, h.claimsMade, .inl hpending, ?_, fun number hnumber =>
      (h.courses number hnumber).frame rfl .rfl .rfl .rfl fun _ => id⟩
    · exact .lease ⟨state.nextId + 1, request.operation, .held⟩ (Nat.succ_ne_zero _)
        (by simp [hleases]) rfl rfl hreserved hclaims
    · exact h.pendingMade
    · exact h.reservedMade
    · intro job hjob
      simp [hpending] at hjob
  · refine ⟨.nobody rfl hleases hreserved hclaims, h.pendingMade, h.reservedMade, h.claimsMade,
      .inl hpending, ?_, fun number hnumber =>
        (h.courses number hnumber).frame rfl .rfl .rfl .rfl fun _ => id⟩
    intro job hjob
    simp [hpending] at hjob

lemma Invariant.await (request : Request)
    (hactive : state.activeId ≠ 0) (hoperation : state.activeOperation = .cancel)
    (hpending : state.pending = none) : Invariant (state.await request).2 := by
  unfold State.await
  split
  swap
  · exact h
  have hold : ∀ number < state.created, number ≠ state.created := fun number hnumber => by omega
  have hreserved : state.reserved = none := by
    cases hreserved : state.reserved with
    | none => rfl
    | some job => have := (h.carried.eq_reservation hreserved).2.2.2.1; simp_all
  have hclaims : state.claims = [] := by
    cases hclaims : state.claims with
    | nil => rfl
    | cons job rest =>
      have hclaim : job ∈ state.claims := by simp [hclaims]
      have := (h.carried.eq_claim hclaim).2.2.2.2.2
      simp_all
  refine ⟨?_, ?_, ?_, ?_, .inr hreserved, ?_, ?_⟩
  · cases h.carried with
    | nobody hzero => exact absurd hzero hactive
    | lease lease _ hleases hid hop _ _ =>
      exact .lease lease hactive hleases hid hop hreserved hclaims
    | reservation job _ _ hsome => simp [hsome] at hreserved
    | claim job _ _ _ hsome => simp [hsome] at hclaims
  · intro job hjob
    obtain rfl : state.created = job := by simpa using hjob
    exact Nat.lt_succ_self _
  · intro job hjob
    simp [hreserved] at hjob
  · intro job hjob
    simp [hclaims] at hjob
  · intro job hjob
    obtain rfl : state.created = job := by simpa using hjob
    exact .inr (by simp [hactive, hoperation])
  · intro number hnumber
    rcases Nat.lt_succ_iff_lt_or_eq.mp hnumber with hlt | rfl
    · refine (h.courses number hlt).frame (by simp [hold number hlt]) ?_ .rfl .rfl fun _ => id
      have hne := hold number hlt
      simp [hpending, hne.symm]
    · constructor <;> simp [hreserved, hclaims]

lemma Invariant.submit (request : Request) : Invariant (state.submit request).2 := by
  unfold State.submit
  split_ifs with hstopping hactive hbusy hpeer
  · exact h
  · exact h.letIn request (by simpa using hstopping) hactive
  · exact h
  · exact h
  · push Not at hbusy
    obtain ⟨_, hcancel, hpending, _⟩ := hbusy
    exact h.await request hactive hcancel (by simpa using hpending)

lemma Invariant.abort {job : Nat} (hjob : job < state.created)
    (reason : End) : Invariant (state.abort job reason) := by
  have hcourse := h.courses job hjob
  unfold State.abort
  split_ifs with hpending hreserved
  · obtain ⟨hphase, hpending⟩ := hpending
    obtain ⟨hruns, hended, hending, honEnd⟩ := hcourse.waiting (.inl hphase)
    have hfree : state.reserved = none := h.exclusive.resolve_left (by simp [hpending])
    have hunclaimed : job ∉ state.claims := fun hclaim => by
      simp [hcourse.claimed hclaim] at hphase
    refine ⟨?_, by simp, by simp [hfree], h.claimsMade, .inl rfl, by simp, fun number hnumber => ?_⟩
    · cases h.carried with
      | nobody hactive hleases hnone hclaims => exact .nobody hactive hleases hnone hclaims
      | lease lease hactive hleases hid hop hnone hclaims =>
        exact .lease lease hactive hleases hid hop hnone hclaims
      | reservation other _ _ hsome => simp [hfree] at hsome
      | claim other hactive hleases hnone hclaims hid hop =>
        refine .claim other hactive hleases hnone hclaims ?_ hop
        have hne : other ≠ job := fun heq => hunclaimed (by simp [hclaims, heq])
        simpa [hne] using hid
    · by_cases hsame : number = job
      · subst hsame
        constructor <;> simp [Job.discard, hfree, hunclaimed, hruns, hended, hending, honEnd]
      · refine (h.courses number hnumber).frame (by simp [hsame]) ?_ .rfl .rfl fun _ => id
        simp [hpending, Ne.symm hsame]
  · obtain ⟨hphase, hreserved, hid⟩ := hreserved
    obtain ⟨hruns, hended, hending, honEnd⟩ := hcourse.waiting (.inr hphase)
    have hfree : state.pending = none := h.exclusive.resolve_right (by simp [hreserved])
    obtain ⟨hactive, hleases, _, hop, hclaims⟩ := h.carried.eq_reservation hreserved
    refine ⟨.nobody rfl hleases rfl hclaims, h.pendingMade, by simp, h.claimsMade, .inr rfl,
      by simp [hfree], fun number hnumber => ?_⟩
    by_cases hsame : number = job
    · subst hsame
      constructor <;> simp [Job.discard, hfree, hclaims, hruns, hended, hending, honEnd]
    · refine (h.courses number hnumber).frame (by simp [hsame]) .rfl ?_ .rfl fun _ => id
      simp [hreserved, Ne.symm hsame]
  · exact h

lemma Invariant.finish {lease : Lease} (hlease : lease ∈ state.leases) :
    Invariant (step state (.finish lease)) := by
  obtain ⟨hactive, hleases, hid, hop, hreserved, hclaims⟩ := h.carried.eq_lease hlease
  change Invariant (State.finish _ lease.id)
  unfold State.finish
  rw [if_neg (by simp [hid])]
  have hframe : ∀ {new : State} {number : Nat}, Course state number →
      new.jobs number = state.jobs number →
      (new.pending = some number ↔ state.pending = some number) →
      (new.reserved = some number ↔ state.reserved = some number) → new.claims = state.claims →
      new.finished = (lease.id, lease.operation) :: state.finished → Course new number :=
    fun hcourse hjob hpend hres hcl hfin =>
      hcourse.frame hjob hpend hres (by rw [hcl]) fun _ hentry => by
        rw [hfin]
        exact .tail _ hentry
  cases hpending : state.pending with
  | none =>
    dsimp only
    refine ⟨.nobody rfl (by simp [hleases]) hreserved hclaims, by simp, h.reservedMade,
      h.claimsMade, .inl rfl, by simp, fun number hnumber => ?_⟩
    exact hframe (h.courses number hnumber) rfl (by simp [hpending]) .rfl rfl rfl
  | some job =>
    have hmade := h.pendingMade job hpending
    dsimp only
    split_ifs with hstopping
    · refine ⟨.nobody rfl (by simp [hleases]) hreserved hclaims, ?_, h.reservedMade,
        h.claimsMade, .inr hreserved, fun _ _ => .inl hstopping, fun number hnumber => ?_⟩
      · intro other hother
        obtain rfl : job = other := by simpa using hother
        exact hmade
      · exact hframe (h.courses number hnumber) rfl (by simp [hpending]) .rfl rfl rfl
    · have hcourse := h.courses job hmade
      obtain ⟨hawaits, _, hcancel⟩ := (h.waits job hpending).resolve_left (by simpa using hstopping)
      obtain ⟨hruns, hended, hending, honEnd⟩ := hcourse.waiting (.inl (hcourse.pending.mpr hpending))
      refine ⟨.reservation job (Nat.succ_ne_zero _) (by simp [hleases]) rfl (by simp) rfl hclaims,
        by simp, ?_, h.claimsMade, .inl rfl, by simp, fun number hnumber => ?_⟩
      · intro other hother
        obtain rfl : job = other := by simpa using hother
        exact hmade
      · by_cases hsame : number = job
        · subst hsame
          constructor <;> simp [hclaims, hruns, hended, hending, honEnd, hid, hop, hawaits, hcancel]
        · refine hframe (h.courses number hnumber) (by simp [hsame]) ?_ ?_ rfl rfl
          · simp [hpending, Ne.symm hsame]
          · simp [hreserved, Ne.symm hsame]

lemma Invariant.run {job : Nat} (hjob : job < state.created)
    (first second : Nat) (connected : Bool) : Invariant (state.run job first second connected) := by
  have hcourse := h.courses job hjob
  unfold State.run
  dsimp only
  split_ifs with hpast
  · exact h
  push Not at hpast
  obtain ⟨hphase, hreserved, hactive⟩ := hpast
  cases hrejection : rejection state.isStopping (state.jobs job).deadline first second connected with
  | some reason => exact h.of_same (.callAbort state job reason)
  | none =>
    obtain ⟨hne, hleases, hid, hop, hclaims⟩ := h.carried.eq_reservation hreserved
    obtain ⟨hruns, hended, hending, _⟩ := hcourse.waiting (.inr hphase)
    have hfree : state.pending = none := h.exclusive.resolve_right (by simp [hreserved])
    refine ⟨.claim job hne hleases rfl (by simp [hclaims]) (by simp [hid]) hop, h.pendingMade,
      by simp, ?_, .inr rfl, by simp [hfree], fun number hnumber => ?_⟩
    · intro other hother
      obtain rfl : other = job := by simpa [hclaims] using hother
      exact hjob
    · by_cases hsame : number = job
      · subst hsame
        constructor <;> simp [hfree, hruns, hended, hending, hcourse.awaited (.inl hphase)]
      · refine (h.courses number hnumber).frame (by simp [hsame]) .rfl ?_ ?_ fun _ => id
        · simp [hreserved, Ne.symm hsame]
        · simp [hsame]

lemma Invariant.launch {job : Nat} (hclaim : job ∈ state.claims) :
    Invariant (state.launch job) := by
  have hjob := h.claimsMade job hclaim
  obtain ⟨hne, hleases, hreserved, hclaims, hid, hop⟩ := h.carried.eq_claim hclaim
  have hcourse := h.courses job hjob
  have hphase := hcourse.claimed hclaim
  obtain ⟨hruns, hended, hending⟩ := hcourse.running hphase
  have hunpending : state.pending ≠ some job := fun hpending => by
    simp [hcourse.pending.mpr hpending] at hphase
  unfold State.launch
  refine ⟨.lease ⟨(state.jobs job).id, .start, .running⟩ hne (by simp [hleases]) hid hop.symm hreserved
      (by simp [hclaims]), h.pendingMade, h.reservedMade, by simp [hclaims], .inr hreserved, ?_,
    fun number hnumber => ?_⟩
  · intro other hother
    have hne : other ≠ job := fun heq => hunpending (heq ▸ hother)
    simpa [hne] using h.waits other hother
  · by_cases hsame : number = job
    · subst hsame
      constructor <;>
        simp [hphase, hunpending, hreserved, hclaims, hruns, hended, hending,
          hcourse.awaited (.inr hphase)]
    · refine (h.courses number hnumber).frame (by simp [hsame]) .rfl .rfl ?_ fun _ => id
      simp [hclaims, hsame]

lemma Invariant.setLease {lease : Lease} (hlease : lease ∈ state.leases)
    (phase : LeasePhase) : Invariant (state.setLease lease phase) := by
  obtain ⟨hactive, hleases, hid, hop, hreserved, hclaims⟩ := h.carried.eq_lease hlease
  refine ⟨?_, h.pendingMade, h.reservedMade, h.claimsMade, h.exclusive, h.waits,
    fun number hnumber => (h.courses number hnumber).frame rfl .rfl .rfl .rfl fun _ => id⟩
  exact .lease { lease with phase } hactive (by simp [State.setLease, hleases]) hid hop hreserved
    hclaims

lemma Invariant.notify {job : Nat} (hjob : job < state.created)
    {ending : End × Bool} (hending : ending ∈ (state.jobs job).ending) :
    Invariant (step state (.notify job ending)) := by
  have hcourse := h.courses job hjob
  have hdone : (state.jobs job).phase = .done := by
    cases hphase : (state.jobs job).phase with
    | pending => simp [(hcourse.waiting (.inl hphase)).2.2.1] at hending
    | reserved => simp [(hcourse.waiting (.inr hphase)).2.2.1] at hending
    | running => simp [(hcourse.running hphase).2.2] at hending
    | done => rfl
  obtain ⟨hruns, reason, hcase⟩ := hcourse.done hdone
  obtain ⟨honly, hended⟩ := hcase.resolve_right fun hgone => by simp [hgone.1] at hending
  obtain rfl : ending = (reason, (state.jobs job).handler) := by simpa [honly] using hending
  have hunpending : state.pending ≠ some job := fun hpending => by
    simp [hcourse.pending.mpr hpending] at hdone
  have hunreserved : state.reserved ≠ some job := fun hreserved => by
    simp [hcourse.reserved.mpr hreserved] at hdone
  have hunclaimed : job ∉ state.claims := fun hclaim => by simp [hcourse.claimed hclaim] at hdone
  refine ⟨?_, h.pendingMade, h.reservedMade, h.claimsMade, h.exclusive, ?_, fun number hnumber => ?_⟩
  · cases h.carried with
    | nobody hactive hleases hreserved hclaims => exact .nobody hactive hleases hreserved hclaims
    | lease lease hactive hleases hid hop hreserved hclaims =>
      exact .lease lease hactive hleases hid hop hreserved hclaims
    | reservation other hactive hleases hreserved hid hop hclaims =>
      have hne : other ≠ job := fun heq => hunreserved (heq ▸ hreserved)
      exact .reservation other hactive hleases hreserved (by simpa [step, hne] using hid) hop hclaims
    | claim other hactive hleases hreserved hclaims hid hop =>
      have hne : other ≠ job := fun heq => hunclaimed (by simp [hclaims, heq])
      exact .claim other hactive hleases hreserved hclaims (by simpa [step, hne] using hid) hop
  · intro other hother
    have hne : other ≠ job := fun heq => hunpending (heq ▸ hother)
    simpa [step, hne] using h.waits other hother
  · by_cases hsame : number = job
    · subst hsame
      constructor <;>
        simp [step, hdone, hunpending, hunreserved, hunclaimed, hruns, hended, honly]
      exact ⟨reason, rfl⟩
    · exact (h.courses number hnumber).frame (by simp [step, hsame]) .rfl .rfl .rfl fun _ => id

end

/-! ## Every run -/

lemma SameHolder.stop (state : State) : SameHolder state state.stop := by
  have hstopped : SameHolder state { state with isStopping := true } :=
    ⟨rfl, rfl, rfl, rfl, rfl, rfl, rfl, rfl, fun _ => rfl, fun _ => .refl _⟩
  exact (hstopped.trans (.callAbort? _ _ _)).trans (.callAbort? _ _ _)

lemma SameHolder.prepare (state : State) (job : Nat) (thrown : Bool) :
    SameHolder state (state.prepare job thrown) := by
  have hcalled := SameHolder.setJob state job
    { state.jobs job with preparing := (state.jobs job).preparing - 1 }
    ⟨rfl, rfl, rfl, rfl, rfl, rfl, rfl, rfl⟩
  unfold State.prepare
  cases thrown with
  | true => exact hcalled.trans (.callAbort _ _ _)
  | false => exact hcalled

lemma SameHolder.prepared (state : State) (job : Nat) (ready : Bool) :
    SameHolder state (state.prepared job ready) := by
  unfold State.prepared
  dsimp only
  split_ifs
  · exact .refl _
  · exact .setJob state _ _ ⟨rfl, rfl, rfl, rfl, rfl, rfl, rfl, rfl⟩
  · exact .callAbort _ _ _

lemma SameHolder.handOver (state : State) (job : Nat) (thrown : Bool) :
    SameHolder state (state.handOver job thrown) := by
  have hcalled := SameHolder.setJob state job
    { state.jobs job with handing := (state.jobs job).handing - 1, submitted := true }
    ⟨rfl, rfl, rfl, rfl, rfl, rfl, rfl, rfl⟩
  unfold State.handOver
  cases thrown with
  | true => exact hcalled.trans (.callAbort _ _ _)
  | false => exact hcalled

lemma Invariant.step (h : Invariant state) {input : Input} (hadmits : admits state input) :
    Invariant (step state input) := by
  cases input with
  | submit request => exact h.submit request
  | stop => exact h.of_same (.stop state)
  | execute _ | complete _ | drop _ => exact h.setLease hadmits.1 _
  | finish lease => exact h.finish hadmits.1
  | peerEnd job expired => exact h.of_same (.callAbort state job _)
  | prepare job thrown => exact h.of_same (.prepare state job thrown)
  | prepared job ready => exact h.of_same (.prepared state job ready)
  | handOver job thrown => exact h.of_same (.handOver state job thrown)
  | run job first second connected => exact h.run hadmits.1 first second connected
  | launch job => exact h.launch hadmits
  | abort job reason =>
    have hcalled : SameHolder state (state.setJob job
        { state.jobs job with aborting := (state.jobs job).aborting.erase reason }) :=
      .setJob state _ _ ⟨rfl, rfl, rfl, rfl, rfl, rfl, rfl, rfl⟩
    exact (h.of_same hcalled).abort hadmits.1 reason
  | notify job ending => exact h.notify hadmits.1 hadmits.2

lemma Invariant.of_reachable (h : admission.Reachable state) : Invariant state :=
  h.invariant Invariant.initial fun _ _ hinv hadmits => hinv.step hadmits

end Vibeshine.Handoff
