import Vibeshine.RemoteDisplay.Runs

/-! # Monitor generations

The observed and the released generation of a client bound every event of its log, so
that an activation is accepted only with a generation that no earlier activation
exceeds and every earlier release falls short of.
-/

namespace Vibeshine.RemoteDisplay

open Function Coordinator

open Library (System)

/-! ## The records of generations -/

/-- The state that decides about generations. -/
structure Ledger where
  observed : String → Nat
  released : String → Option Nat
  log : List MonitorEvent

def Coordinator.ledger (c : Coordinator) : Ledger :=
  ⟨c.observedMonitorGenerations, c.releasedMonitorGenerations, c.monitorLog⟩

namespace Ledger

def Ordered : List MonitorEvent → Prop
  | [] => True
  | .released _ _ :: before => Ordered before
  | .accepted uuid generation :: before =>
    (∀ earlier, .accepted uuid earlier ∈ before → earlier ≤ generation) ∧
      (∀ released, .released uuid released ∈ before → released < generation) ∧ Ordered before

lemma Ordered.of_suffix {log before : List MonitorEvent} {uuid : String} {generation : Nat}
    (h : Ordered log) (hsuffix : .accepted uuid generation :: before <:+ log) :
    (∀ earlier, .accepted uuid earlier ∈ before → earlier ≤ generation) ∧
      ∀ released, .released uuid released ∈ before → released < generation := by
  induction log with
  | nil => cases List.eq_nil_of_suffix_nil hsuffix
  | cons newest older ih =>
    rcases List.suffix_cons_iff.mp hsuffix with heq | holder
    · cases heq
      exact ⟨h.1, h.2.1⟩
    · cases newest with
      | accepted => exact ih h.2.2 holder
      | released => exact ih h holder

/-- The records bound the events of the log. -/
structure Bounds (ledger : Ledger) : Prop where
  accepted : ∀ uuid generation, .accepted uuid generation ∈ ledger.log →
    generation ≤ ledger.observed uuid
  released : ∀ uuid generation, .released uuid generation ∈ ledger.log →
    ∃ latest, ledger.released uuid = some latest ∧ generation ≤ latest
  ordered : Ordered ledger.log

def note (ledger : Ledger) (uuid : String) (generation : Nat) : Ledger :=
  { ledger with observed := Function.update ledger.observed uuid generation }

def accept (ledger : Ledger) (uuid : String) (generation : Nat) : Ledger :=
  { ledger with log := .accepted uuid generation :: ledger.log }

def finish (ledger : Ledger) (uuid : String) (generation : Nat) : Ledger :=
  { ledger with
    released := Function.update ledger.released uuid
      (some (max ((ledger.released uuid).getD 0) generation))
    log := .released uuid generation :: ledger.log }

namespace Bounds

variable {ledger : Ledger} {uuid : String} {generation : Nat}

section

variable (h : ledger.Bounds)

include h

lemma note (hnew : ledger.observed uuid ≤ generation) : (ledger.note uuid generation).Bounds where
  accepted := fun other earlier hmem => by
    have hbound := h.accepted other earlier hmem
    by_cases hother : other = uuid
    · subst hother
      show earlier ≤ Function.update ledger.observed other generation other
      rw [update_self]
      exact le_trans hbound hnew
    · show earlier ≤ Function.update ledger.observed uuid generation other
      rw [update_of_ne hother]
      exact hbound
  released := h.released
  ordered := h.ordered

lemma accept (hnoted : ledger.observed uuid = generation)
    (hpast : (ledger.released uuid).any (generation ≤ ·) = false) :
    (ledger.accept uuid generation).Bounds where
  accepted := fun other earlier hmem => by
    rcases List.mem_cons.mp hmem with heq | hmem
    · cases heq
      exact le_of_eq hnoted.symm
    · exact h.accepted other earlier hmem
  released := fun other earlier hmem => by
    rcases List.mem_cons.mp hmem with heq | hmem
    · cases heq
    · exact h.released other earlier hmem
  ordered := by
    refine ⟨fun earlier hmem => hnoted ▸ h.accepted uuid earlier hmem, fun earlier hmem => ?_,
      h.ordered⟩
    obtain ⟨latest, hlatest, hle⟩ := h.released uuid earlier hmem
    rw [hlatest, Option.any_some, decide_eq_false_iff_not] at hpast
    omega

lemma finish : (ledger.finish uuid generation).Bounds where
  accepted := fun other earlier hmem => by
    rcases List.mem_cons.mp hmem with heq | hmem
    · cases heq
    · exact h.accepted other earlier hmem
  released := fun other earlier hmem => by
    by_cases hother : other = uuid
    · subst hother
      refine ⟨max ((ledger.released other).getD 0) generation, update_self .., ?_⟩
      rcases List.mem_cons.mp hmem with heq | hmem
      · cases heq
        exact le_max_right _ _
      · obtain ⟨latest, hlatest, hle⟩ := h.released other earlier hmem
        rw [hlatest]
        exact le_trans hle (le_max_left _ _)
    · rcases List.mem_cons.mp hmem with heq | hmem
      · cases heq
        exact absurd rfl hother
      · obtain ⟨latest, hlatest, hle⟩ := h.released other earlier hmem
        exact ⟨latest, (update_of_ne hother ..).trans hlatest, hle⟩
  ordered := h.ordered

end

end Bounds

end Ledger

/-! ## Operations that leave the records alone -/

section

variable {c : Coordinator} {uuid : String}

lemma ledger_refreshGeometry {observe : String → Option Mode} {except : String} {known : Bool}
    {refreshed : Coordinator} (h : c.refreshGeometry observe except = (known, refreshed)) :
    refreshed.ledger = c.ledger := by
  have hsecond : (c.refreshGeometry observe except).2 = refreshed := by rw [h]
  rw [← hsecond]
  rfl

lemma ledger_foldl {step : Coordinator → String → Coordinator}
    (hstep : ∀ c uuid, (step c uuid).ledger = c.ledger) (uuids : List String) :
    (uuids.foldl step c).ledger = c.ledger := by
  induction uuids generalizing c with
  | nil => rfl
  | cons uuid rest ih => exact ih.trans (hstep c uuid)

lemma ledger_reserve (a : ReserveAnswers) (label : String) (mode : Mode) :
    (c.reserveNormalGameIdentity a uuid label mode).2.ledger = c.ledger := by
  unfold reserveNormalGameIdentity
  split
  · rfl
  split
  · rfl
  split
  · rfl
  dsimp only
  generalize hstart : (if (c.find uuid).isNone = true then c.insert a.index uuid else c) = start
  have hledger : start.ledger = c.ledger := by
    rw [← hstart]
    split <;> rfl
  cases start.find uuid with
  | none => exact hledger
  | some client =>
    dsimp only
    split <;> exact hledger

lemma ledger_rollback (begun protectedOutput : Bool) (token : Nat) :
    (c.rollbackNormalGameIdentity begun protectedOutput uuid token).2.ledger = c.ledger := by
  unfold rollbackNormalGameIdentity
  split
  · rfl
  cases c.find uuid with
  | none => rfl
  | some client =>
    dsimp only
    split
    · rfl
    split
    · rfl
    split <;> rfl

lemma ledger_releaseNormal (a : NormalReleaseAnswers) :
    (c.releaseNormalGameIdentityLocked a uuid).ledger = c.ledger := by
  unfold releaseNormalGameIdentityLocked
  split
  · rfl
  cases c.find uuid with
  | none => rfl
  | some former =>
    dsimp only
    split
    · rfl
    split
    · rfl
    cases hround : (c.modify uuid clearNormal).refreshGeometry a.geometry with
    | mk known refreshed =>
    have hledger : refreshed.ledger = c.ledger := (ledger_refreshGeometry hround).trans rfl
    dsimp only
    split
    · split
      · exact hledger
      · split <;> exact hledger
    split
    · exact hledger
    split
    · exact hledger
    split
    · exact hledger
    split <;> exact hledger

variable (protectedOutput : Bool)

lemma ledger_release (a : NormalReleaseAnswers) (token : Nat) :
    (c.releaseNormalGameIdentity protectedOutput a uuid token).ledger = c.ledger := by
  unfold releaseNormalGameIdentity
  cases c.find uuid with
  | none => rfl
  | some client =>
    dsimp only
    split
    · rfl
    split
    · rfl
    · exact ledger_releaseNormal a

lemma ledger_releaseAll (answers : String → NormalReleaseAnswers) :
    (c.releaseAllNormalGameIdentities protectedOutput answers).ledger = c.ledger := by
  unfold releaseAllNormalGameIdentities
  dsimp only
  split
  · rfl
  · refine (ledger_foldl (fun d uuid => ?_) _).trans rfl
    split
    · exact ledger_releaseNormal (answers uuid)
    · rfl

lemma ledger_reapply (a : ReapplyAnswers) : (c.reapplyComposedTopology a).2.ledger = c.ledger := by
  unfold reapplyComposedTopology
  split
  · rfl
  split
  · rfl
  split
  · rfl
  dsimp only
  split <;> rfl

lemma ledger_finalizeShutdown (a : ShutdownAnswers) :
    (c.finalizeShutdownLocked a).ledger = c.ledger := by
  unfold finalizeShutdownLocked
  split
  · rfl
  split
  · rfl
  split
  · rfl
  split
  · rfl
  dsimp only
  have happlied : (if c.callbacks.applyComposedTopology = true then
      ({ c with clients := [] } : Coordinator).applyTopology a.applied
      else { c with clients := [] }).ledger = c.ledger := by
    split <;> rfl
  generalize (if c.callbacks.applyComposedTopology = true then
    ({ c with clients := [] } : Coordinator).applyTopology a.applied
    else { c with clients := [] }) = applied at happlied ⊢
  split
  · exact happlied
  · refine Eq.trans (ledger_foldl (fun d uuid => ?_) _) happlied
    unfold removeManaged
    split
    · rfl
    dsimp only
    split
    · rfl
    · split <;> rfl

variable (a : ActivationAnswers)

lemma ledger_applyActivation (sharedCapture : Bool) :
    (c.applyActivation a uuid sharedCapture).ledger = c.ledger := by
  unfold applyActivation
  cases hround : c.refreshGeometry a.geometryAfter uuid with
  | mk known refreshed =>
  have hledger : refreshed.ledger = c.ledger := ledger_refreshGeometry hround
  dsimp only
  split
  · exact hledger
  split
  · exact hledger
  have happlied : ((refreshed.modify uuid fun client =>
      { client with lifecycle := .applying }).applyTopology a.applied).ledger = c.ledger := hledger
  generalize (refreshed.modify uuid fun client =>
    { client with lifecycle := .applying }).applyTopology a.applied = applied at happlied ⊢
  have hfinal : (if applied.callbacks.finalizeMode then applied.modify uuid fun client =>
      { client with effectiveMode := a.finalMode client.effectiveMode } else applied).ledger =
      c.ledger := by
    split <;> exact happlied
  generalize (if applied.callbacks.finalizeMode then applied.modify uuid fun client =>
    { client with effectiveMode := a.finalMode client.effectiveMode } else applied) = final
    at hfinal ⊢
  split
  · exact hfinal
  split <;> exact hfinal

lemma ledger_verifyGeometry (sharedCapture : Bool) :
    (c.verifyGeometry a uuid sharedCapture).ledger = c.ledger := by
  unfold verifyGeometry
  dsimp only
  have hresolved : (c.modify uuid (c.resolveEffectiveMode a.resolve)).ledger = c.ledger := rfl
  generalize c.modify uuid (c.resolveEffectiveMode a.resolve) = resolved at hresolved ⊢
  cases resolved.find uuid with
  | none => exact hresolved
  | some client =>
    dsimp only
    have hcalled : (if resolved.callbacks.observeSharedMode then
        resolved.call (.observed uuid a.observed) else resolved).ledger = c.ledger := by
      split <;> exact hresolved
    generalize (if resolved.callbacks.observeSharedMode then
      resolved.call (.observed uuid a.observed) else resolved) = called at hcalled ⊢
    generalize (if resolved.callbacks.observeSharedMode then a.observed else none) = observed
    split
    · split
      · exact hcalled
      · refine (ledger_applyActivation a sharedCapture).trans ?_
        exact hcalled
    · refine (ledger_applyActivation a sharedCapture).trans ?_
      exact hresolved

lemma ledger_activateLocked : (c.activateLocked a uuid).ledger = c.ledger := by
  unfold activateLocked
  cases c.find uuid with
  | none => rfl
  | some client =>
    dsimp only
    split
    · rfl
    cases hround : c.refreshGeometry a.geometryBefore uuid with
    | mk known refreshed =>
    have hledger : refreshed.ledger = c.ledger := ledger_refreshGeometry hround
    dsimp only
    split
    · exact hledger
    unfold reclaimLease
    cases refreshed.find uuid with
    | none => exact hledger
    | some client =>
      dsimp only
      split
      · refine (ledger_verifyGeometry a _).trans ?_
        exact hledger
      split
      · split
        · exact hledger
        · refine (ledger_verifyGeometry a _).trans ?_
          exact hledger
      · exact (ledger_verifyGeometry a _).trans hledger

lemma ledger_resume : (c.resumeRemoteMonitor a uuid).2.ledger = c.ledger := by
  unfold resumeRemoteMonitor
  split
  · rfl
  cases c.find uuid with
  | none => rfl
  | some client =>
    dsimp only
    split
    · rfl
    split
    · rfl
    · exact ledger_activateLocked a

/-! ## Releases and activations -/

/-- The records of generations after a release: as they were, or with one more
completed release. -/
def Settles (uuid : String) (before after : Ledger) : Prop :=
  after = before ∨ ∃ generation, after = before.finish uuid generation

lemma completeMonitorRelease_settles (former : Client) :
    Settles uuid c.ledger (c.completeMonitorRelease uuid former).ledger := by
  unfold completeMonitorRelease
  dsimp only
  split
  · exact .inl rfl
  · exact .inr ⟨former.generation, rfl⟩

lemma removeReleased_settles (a : MonitorReleaseAnswers) (former : Client) (reason : String) :
    Settles uuid c.ledger (c.removeReleased a uuid former reason).ledger := by
  unfold removeReleased
  split
  · exact completeMonitorRelease_settles former
  dsimp only
  generalize (if c.callbacks.terminateOwnedDisplay = true then
    Call.terminated uuid c.clients a.removed else Call.removed uuid c.clients a.removed) = call
  split
  · exact completeMonitorRelease_settles former
  split
  · split <;> exact .inl rfl
  · exact .inl rfl

lemma releaseLocked_settles (a : MonitorReleaseAnswers) (reason : String) :
    Settles uuid c.ledger (c.releaseLocked a uuid reason).ledger := by
  unfold releaseLocked
  cases c.find uuid with
  | none => exact .inl rfl
  | some former =>
    dsimp only
    split
    · exact .inl rfl
    split
    · exact .inl rfl
    split
    · exact .inl rfl
    split
    · exact .inl rfl
    have hdropped : (c.modify uuid (c.dropMonitor a.resolve reason)).ledger = c.ledger := rfl
    generalize c.modify uuid (c.dropMonitor a.resolve reason) = dropped at hdropped ⊢
    unfold handOffReleased
    split
    · cases hround : dropped.refreshGeometry a.geometry with
      | mk known refreshed =>
      have hledger : refreshed.ledger = c.ledger :=
        (ledger_refreshGeometry hround).trans hdropped
      dsimp only
      have happlied : (if known = true then refreshed.applyTopology a.applied
          else refreshed).ledger = c.ledger := by
        split <;> exact hledger
      generalize (if known = true then refreshed.applyTopology a.applied else refreshed) = applied
        at happlied ⊢
      have hflagged : (if (!(known && a.applied) && known) = true then
          { applied with physicalRestorePending := true } else applied).ledger = c.ledger := by
        split <;> exact happlied
      generalize (if (!(known && a.applied) && known) = true then
        { applied with physicalRestorePending := true } else applied) = flagged at hflagged ⊢
      split
      · exact .inl hflagged
      · rw [← hflagged]
        exact removeReleased_settles a former reason
    · split
      · exact .inl hdropped
      · rw [← hdropped]
        exact removeReleased_settles a former reason

lemma ledger_eraseReleased : (c.eraseReleased uuid).ledger = c.ledger := by
  unfold eraseReleased
  split <;> rfl

lemma Settles.bounds {before after : Ledger} (h : Settles uuid before after)
    (hbounds : before.Bounds) : after.Bounds := by
  rcases h with rfl | ⟨generation, rfl⟩
  · exact hbounds
  · exact hbounds.finish

lemma releaseMonitor_settles (a : MonitorReleaseAnswers) (reason : String) :
    Settles uuid c.ledger ((c.releaseLocked a uuid reason).eraseReleased uuid).ledger := by
  rw [ledger_eraseReleased]
  exact releaseLocked_settles a reason

lemma explicitRelease_settles (a : MonitorReleaseAnswers) (generation : Nat) (reason : String) :
    Settles uuid c.ledger (c.explicitRelease a uuid generation reason).2.ledger := by
  unfold Coordinator.explicitRelease
  cases c.find uuid with
  | none => exact .inl rfl
  | some client =>
    dsimp only
    split
    · exact .inl rfl
    · exact releaseMonitor_settles a reason

lemma disconnect_settles (a : MonitorReleaseAnswers) :
    Settles uuid c.ledger (c.disconnectMonitor a uuid).ledger := by
  unfold disconnectMonitor
  cases c.find uuid with
  | none => exact .inl rfl
  | some client => exact releaseMonitor_settles a _

lemma drain_bounds (a : DrainAnswers) (h : c.ledger.Bounds) :
    (c.releaseDrainedNormalGameIdentities a).ledger.Bounds := by
  unfold releaseDrainedNormalGameIdentities
  split
  · split
    · exact h
    · rw [ledger_finalizeShutdown]
      exact h
  split
  · exact h
  dsimp only
  have hnormal : ((c.clients.map (·.1)).foldl (fun c uuid =>
      if (c.find uuid).any fun client =>
          client.normalReleasePending && client.normalCaptureReferences.isEmpty then
        c.releaseNormalGameIdentityLocked (a.normal uuid) uuid
      else c) c).ledger = c.ledger := by
    refine ledger_foldl (fun d uuid => ?_) _
    split
    · exact ledger_releaseNormal (a.normal uuid)
    · rfl
  generalize (c.clients.map (·.1)).foldl (fun c uuid =>
      if (c.find uuid).any fun client =>
          client.normalReleasePending && client.normalCaptureReferences.isEmpty then
        c.releaseNormalGameIdentityLocked (a.normal uuid) uuid
      else c) c = drained at hnormal ⊢
  rw [← hnormal] at h
  generalize drained.clients.map (·.1) = uuids
  clear hnormal
  induction uuids generalizing drained with
  | nil => exact h
  | cons uuid rest ih =>
    refine ih _ ?_
    dsimp only
    cases drained.find uuid with
    | none => exact h
    | some client =>
      dsimp only
      split
      · exact h
      · exact (releaseMonitor_settles (a.monitor uuid) _).bounds h

lemma activationResult_accepted : (c.activationResult uuid).accepted = true := by
  unfold activationResult
  cases c.find uuid <;> rfl

variable (label : String) (mode : Mode) (generation : Nat)

lemma ledger_activateEntry : ((c.activateEntry a uuid label mode generation).1.accepted = false ∧
        (c.activateEntry a uuid label mode generation).2.ledger = c.ledger) ∨
      ((c.activateEntry a uuid label mode generation).1.accepted = true ∧
        (c.activateEntry a uuid label mode generation).2.ledger =
          c.ledger.accept uuid generation) := by
  unfold activateEntry
  cases c.find uuid with
  | none => exact .inl ⟨rfl, rfl⟩
  | some client =>
    dsimp only
    split
    · exact .inl ⟨rfl, rfl⟩
    have hkept : (if client.monitorReleasePending = true then c.modify uuid fun client =>
        { client with monitorReleasePending := false, monitorReleaseReason := "" }
        else c).ledger = c.ledger := by
      split <;> rfl
    generalize (if client.monitorReleasePending = true then c.modify uuid fun client =>
      { client with monitorReleasePending := false, monitorReleaseReason := "" } else c) = kept
      at hkept ⊢
    split
    · exact .inl ⟨rfl, hkept⟩
    split
    · exact .inl ⟨rfl, hkept⟩
    generalize (kept.callbacks.finalizeMode && client.leaseHeld &&
      !(client.monitorRequestedMode.any fun requested => requested.width == mode.width &&
        requested.height == mode.height && requested.refreshHz == mode.refreshHz)) = reconfigured
    have htaken : (kept.modify uuid fun client =>
        { client with
          deferredMonitorReconfiguration := client.deferredMonitorReconfiguration || reconfigured
          generation := generation
          label := label
          monitorRequestedMode := some mode
          effectiveMode := mode
          remoteMonitor := true }).ledger = c.ledger := hkept
    generalize (kept.modify uuid fun client =>
        { client with
          deferredMonitorReconfiguration := client.deferredMonitorReconfiguration || reconfigured
          generation := generation
          label := label
          monitorRequestedMode := some mode
          effectiveMode := mode
          remoteMonitor := true }) = taken at htaken ⊢
    refine .inr ⟨activationResult_accepted, ?_⟩
    show (taken.activateLocked a uuid).ledger.accept uuid generation = _
    rw [ledger_activateLocked, htaken]

/-- A request notes its generation, unless a newer one was observed, and is accepted
only past the released generation. -/
def Requested (uuid : String) (generation : Nat) (before : Ledger)
    (outcome : MonitorRuntimeState × Coordinator) : Prop :=
  (outcome.1.accepted = false ∧ (outcome.2.ledger = before ∨
      before.observed uuid ≤ generation ∧ outcome.2.ledger = before.note uuid generation)) ∨
    (outcome.1.accepted = true ∧ before.observed uuid ≤ generation ∧
      (before.released uuid).any (generation ≤ ·) = false ∧
      outcome.2.ledger = (before.note uuid generation).accept uuid generation)

lemma activateEntry_requested
    {generation : Nat} {before : Ledger} (hnoted : c.ledger = before.note uuid generation)
    (hobs : before.observed uuid ≤ generation)
    (hpast : (before.released uuid).any (generation ≤ ·) = false) :
    Requested uuid generation before (c.activateEntry a uuid label mode generation) := by
  rcases ledger_activateEntry a label mode generation with
    ⟨hrejected, hsame⟩ | ⟨hacc, hlogged⟩
  · exact .inl ⟨hrejected, .inr ⟨hobs, hsame.trans hnoted⟩⟩
  · exact .inr ⟨hacc, hobs, hpast, by rw [hlogged, hnoted]⟩

lemma activateOrResume_requested :
    Requested uuid generation c.ledger (c.activateOrResume a uuid label mode generation) := by
  unfold Coordinator.activateOrResume
  split
  · exact .inl ⟨rfl, .inl rfl⟩
  cases hround : c.refreshGeometry a.geometryFirst uuid with
  | mk known refreshed =>
  have hledger : refreshed.ledger = c.ledger := ledger_refreshGeometry hround
  rw [← hledger]
  dsimp only
  split
  · exact .inl ⟨rfl, .inl rfl⟩
  split
  · exact .inl ⟨rfl, .inl rfl⟩
  next hfresh =>
  have hobs : refreshed.ledger.observed uuid ≤ generation := Nat.le_of_not_lt hfresh
  split
  · exact .inl ⟨rfl, .inr ⟨hobs, rfl⟩⟩
  split
  · exact .inl ⟨rfl, .inr ⟨hobs, rfl⟩⟩
  next hpast =>
  rw [Bool.not_eq_true] at hpast
  split
  · exact .inl ⟨rfl, .inr ⟨hobs, rfl⟩⟩
  refine activateEntry_requested a label mode ?_ hobs hpast
  split <;> rfl

lemma Requested.bounds {generation : Nat} {before : Ledger}
    {outcome : MonitorRuntimeState × Coordinator} (h : Requested uuid generation before outcome)
    (hbounds : before.Bounds) : outcome.2.ledger.Bounds := by
  rcases h with ⟨-, hsame | ⟨hobs, hnoted⟩⟩ | ⟨-, hobs, hpast, hacc⟩
  · rw [hsame]
    exact hbounds
  · rw [hnoted]
    exact hbounds.note hobs
  · rw [hacc]
    exact (hbounds.note hobs).accept (update_self ..) hpast

end

/-! ## Runs -/

variable {c : Coordinator}

lemma perform_bounds {operation : Operation} (hkeeps : operation.Keeps) (h : c.ledger.Bounds) :
    (c.perform operation).ledger.Bounds := by
  have hsame : (c.perform operation).ledger = c.ledger → (c.perform operation).ledger.Bounds := by
    intro heq
    rw [heq]
    exact h
  cases operation with
  | setRuntimeCallbacks | setLayout | setPhysicalBaseline | dropCapture | noteLeaseLost | rehash =>
    exact hsame rfl
  | refreshIdlePhysicalBaseline nodes =>
    refine hsame ?_
    unfold perform Coordinator.refreshIdlePhysicalBaseline
    dsimp only
    split <;> rfl
  | reserve a uuid label mode => exact hsame (ledger_reserve a label mode)
  | reapply a => exact hsame (ledger_reapply a)
  | rollback begun protectedOutput uuid token =>
    exact hsame (ledger_rollback begun protectedOutput token)
  | release protectedOutput a uuid token => exact hsame (ledger_release protectedOutput a token)
  | retain uuid token =>
    refine hsame ?_
    rcases retain_cases c uuid token with heq | ⟨-, -, heq⟩
    · exact congrArg Coordinator.ledger heq
    · exact (congrArg Coordinator.ledger heq).trans rfl
  | releaseDrained a => exact drain_bounds a h
  | releaseAll protectedOutput answers => exact hsame (ledger_releaseAll protectedOutput answers)
  | releaseIdle appRunning captureRuntimeOwned protectedOutput answers a =>
    show (c.releaseIdleNormalGameIdentities appRunning captureRuntimeOwned protectedOutput answers
      a).ledger.Bounds
    unfold releaseIdleNormalGameIdentities
    split
    · rw [ledger_releaseAll]
      exact h
    · exact drain_bounds a h
  | completeRestored protectedOutput =>
    refine hsame ?_
    unfold perform completeRestoredNormalGameCleanup
    dsimp only
    split <;> rfl
  | activateOrResume a uuid label mode generation =>
    exact (activateOrResume_requested a label mode generation).bounds h
  | resume a uuid => exact hsame (ledger_resume a)
  | explicitRelease a uuid generation reason =>
    exact (explicitRelease_settles a generation reason).bounds h
  | transportLost uuid generation =>
    refine hsame ?_
    unfold perform Coordinator.transportLost
    dsimp only
    split
    · rfl
    · split <;> rfl
  | disconnect a _ | unpair a _ => exact (disconnect_settles a).bounds h
  | shutdown preserveOwnedDisplays a =>
    cases preserveOwnedDisplays with
    | true => exact hkeeps.elim
    | false =>
      refine hsame ?_
      show (c.shutdown false a).ledger = c.ledger
      unfold Coordinator.shutdown
      rw [if_neg Bool.false_ne_true]
      split
      · rfl
      · exact (ledger_finalizeShutdown a).trans rfl

lemma reachable_bounds
    (h : coordinatorSystem.ReachableUnder (fun _ operation => operation.Keeps) c) :
    c.ledger.Bounds := by
  induction h with
  | refl => exact ⟨fun _ _ hmem => (by cases hmem), fun _ _ hmem => (by cases hmem), trivial⟩
  | snoc before hadmits hkeeps ih => exact perform_bounds hkeeps ih

/-- In every run without a shutdown that leaves the displays in place, the accepted
generations of a client do not go back and pass every generation released before, the
log lists exactly the accepted requests, and a release or a lost transport of another
generation changes nothing. -/
theorem generations_never_go_back
    (hreach : coordinatorSystem.ReachableUnder (fun _ operation => operation.Keeps) c) :
    (∀ uuid generation before, .accepted uuid generation :: before <:+ c.monitorLog →
      (∀ earlier, .accepted uuid earlier ∈ before → earlier ≤ generation) ∧
        ∀ released, .released uuid released ∈ before → released < generation) ∧
    (∀ a uuid label mode generation,
      (c.activateOrResume a uuid label mode generation).2.monitorLog =
        if (c.activateOrResume a uuid label mode generation).1.accepted then
          .accepted uuid generation :: c.monitorLog else c.monitorLog) ∧
    (∀ uuid client generation, c.find uuid = some client → generation ≠ client.generation →
      (∀ a reason, (c.explicitRelease a uuid generation reason).2 = c) ∧
        c.transportLost uuid generation = c) := by
  refine ⟨fun uuid generation before => (reachable_bounds hreach).ordered.of_suffix,
    fun a uuid label mode generation => ?_, fun uuid client generation hfind hother => ?_⟩
  · have hrequested : Requested uuid generation c.ledger
        (c.activateOrResume a uuid label mode generation) :=
      activateOrResume_requested a label mode generation
    rcases hrequested with
      ⟨hrejected, hsame | ⟨-, hnoted⟩⟩ | ⟨hacc, -, -, hlogged⟩
    · rw [hrejected]
      exact congrArg Ledger.log hsame
    · rw [hrejected]
      exact congrArg Ledger.log hnoted
    · rw [hacc]
      exact congrArg Ledger.log hlogged
  · refine ⟨fun a reason => ?_, ?_⟩
    · unfold Coordinator.explicitRelease
      rw [hfind]
      dsimp only
      rw [if_pos hother]
    · unfold Coordinator.transportLost
      rw [hfind]
      dsimp only
      rw [if_pos hother]

def reconnectedRun : List Operation :=
  [.setRuntimeCallbacks { terminateOwnedDisplay := true },
    .activateOrResume {} "phone" "Phone" {} 1, .explicitRelease {} "phone" 1 "Disconnected.",
    .activateOrResume {} "phone" "Phone" {} 2]

def reconnected : Coordinator := coordinatorSystem.run coordinatorSystem.init reconnectedRun

lemma reconnected_reachable :
    coordinatorSystem.ReachableUnder (fun _ operation => operation.Keeps) reconnected :=
  System.Segment.of_follows .refl (show coordinatorSystem.Follows _ _ reconnectedRun from
    ⟨trivial, trivial, trivial, trivial, trivial, trivial, trivial, trivial, trivial⟩)

theorem generations_never_go_back_reconnected : reconnected.monitorLog =
        [.accepted "phone" 2, .released "phone" 1, .accepted "phone" 1] ∧
      ∀ released, .released "phone" released ∈
        [MonitorEvent.released "phone" 1, .accepted "phone" 1] → released < 2 :=
  ⟨by decide, ((generations_never_go_back reconnected_reachable).1 "phone" 2
    [.released "phone" 1, .accepted "phone" 1] (by decide)).2⟩

end Vibeshine.RemoteDisplay
