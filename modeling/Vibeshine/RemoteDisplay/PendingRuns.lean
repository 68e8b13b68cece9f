import Vibeshine.RemoteDisplay.PendingRelease

/-! # Runs with pending monitor releases

What every operation of the coordinator does to the marks of pending releases.
-/

namespace Vibeshine.RemoteDisplay

section

variable {c : Coordinator} {uuid : String}

/-! ## Activation -/

section

variable (h : Tidy none c)

include h

lemma Tidy.retryLater (uuid warning : String) :
    Tidy none (c.retryLater uuid warning) := h.keep (fun _ => rfl) fun _ => rfl

lemma Tidy.retryShared (uuid : String) (sharedCapture : Bool)
    (warning : String) : Tidy none (c.retryShared uuid sharedCapture warning) :=
  h.keep (fun _ => rfl) fun _ => rfl

lemma Tidy.applyActivation (a : ActivationAnswers) (uuid : String)
    (sharedCapture : Bool) : Tidy none (c.applyActivation a uuid sharedCapture) := by
  unfold Coordinator.applyActivation
  have hknown := h.refresh a.geometryAfter uuid
  generalize c.refreshGeometry a.geometryAfter uuid = refreshed at hknown ⊢
  obtain ⟨known, refreshed⟩ := refreshed
  dsimp only at hknown ⊢
  split
  · exact hknown.retryLater uuid _
  have happlying : Tidy none (refreshed.modify uuid fun client =>
      { client with lifecycle := .applying }) := hknown.keep (fun _ => rfl) fun _ => rfl
  have happlied := happlying.applyTopology a.applied
  generalize (refreshed.modify uuid fun client =>
    { client with lifecycle := .applying }).applyTopology a.applied = applied at happlied ⊢
  split
  · exact happlied.retryShared uuid sharedCapture _
  have hmode : Tidy none (if applied.callbacks.finalizeMode then applied.modify uuid fun client =>
      { client with effectiveMode := a.finalMode client.effectiveMode } else applied) :=
    .ite (happlied.keep (fun _ => rfl) fun _ => rfl) happlied
  generalize (if applied.callbacks.finalizeMode then applied.modify uuid fun client =>
    { client with effectiveMode := a.finalMode client.effectiveMode } else applied) = finalized
    at hmode ⊢
  split
  · exact hmode.retryShared uuid sharedCapture _
  split
  · exact hmode.retryShared uuid sharedCapture _
  · exact hmode.keep (fun _ => rfl) fun _ => rfl

lemma Tidy.verifyGeometry (a : ActivationAnswers) (uuid : String)
    (sharedCapture : Bool) : Tidy none (c.verifyGeometry a uuid sharedCapture) := by
  unfold Coordinator.verifyGeometry
  have hresolved : Tidy none (c.modify uuid (c.resolveEffectiveMode a.resolve)) :=
    h.keep (fun _ => rfl) fun _ => rfl
  generalize c.modify uuid (c.resolveEffectiveMode a.resolve) = resolved at hresolved ⊢
  dsimp only
  cases resolved.find uuid with
  | none => exact hresolved
  | some client =>
  dsimp only
  split
  · have hobs : Tidy none (if resolved.callbacks.observeSharedMode then
        resolved.call (.observed uuid a.observed) else resolved) :=
      .ite (hresolved.call _) hresolved
    generalize (if resolved.callbacks.observeSharedMode then
      resolved.call (.observed uuid a.observed) else resolved) = observed at hobs ⊢
    generalize (if resolved.callbacks.observeSharedMode then a.observed else none) = answer
    split
    · exact hobs.keep (fun _ => rfl) fun _ => rfl
    · refine Tidy.applyActivation ?_ a uuid sharedCapture
      exact hobs.keep (fun _ => rfl) fun _ => rfl
  · exact hresolved.applyActivation a uuid sharedCapture

lemma Tidy.reclaimLease (a : ActivationAnswers) (uuid : String)
    (sharedCapture : Bool) : Tidy none (c.reclaimLease a uuid sharedCapture) := by
  unfold Coordinator.reclaimLease
  cases c.find uuid with
  | none => exact h
  | some client =>
  dsimp only
  split
  · refine Tidy.verifyGeometry ?_ a uuid sharedCapture
    exact h.keep (fun _ => rfl) fun _ => rfl
  split
  · split
    · exact h.retryLater uuid _
    · refine Tidy.verifyGeometry ?_ a uuid sharedCapture
      exact h.keep (fun _ => rfl) fun _ => rfl
  · exact h.verifyGeometry a uuid sharedCapture

lemma Tidy.activateLocked (a : ActivationAnswers) (uuid : String) :
    Tidy none (c.activateLocked a uuid) := by
  unfold Coordinator.activateLocked
  cases c.find uuid with
  | none => exact h
  | some client =>
  dsimp only
  split
  · exact h.retryLater uuid _
  have hknown := h.refresh a.geometryBefore uuid
  split
  · exact hknown.retryLater uuid _
  · exact hknown.reclaimLease a uuid _

lemma Tidy.activateEntry (a : ActivationAnswers) (uuid label : String)
    (mode : Mode) (generation : Nat) : Tidy none (c.activateEntry a uuid label mode generation).2 := by
  unfold Coordinator.activateEntry
  cases c.find uuid with
  | none => exact h
  | some client =>
  dsimp only
  split
  · exact h
  have hended : Tidy none (if client.monitorReleasePending then c.modify uuid fun client =>
      { client with monitorReleasePending := false, monitorReleaseReason := "" } else c) :=
    .ite (h.modify fun _ _ _ _ => nofun) h
  generalize (if client.monitorReleasePending then c.modify uuid fun client =>
    { client with monitorReleasePending := false, monitorReleaseReason := "" } else c) = ended
    at hended ⊢
  split
  · exact hended
  split
  · exact hended
  · refine Tidy.of_clients (Tidy.activateLocked ?_ a uuid) rfl
    exact hended.modify fun _ _ _ _ _ => rfl

lemma Tidy.inserted (index : Nat) (uuid : String) :
    Tidy none (if (c.find uuid).isNone then c.insert index uuid else c) := by
  split
  next habsent =>
    refine ⟨insert_keys h.keys (Option.isNone_iff_eq_none.mp habsent), fun other client hmem _ => ?_⟩
    obtain heq | hmem := mem_insert.mp hmem
    · cases heq
      exact nofun
    · exact h.monitored other client hmem nofun
  · exact h

lemma Tidy.activateOrResume (a : ActivationAnswers) (uuid label : String)
    (mode : Mode) (generation : Nat) :
    Tidy none (c.activateOrResume a uuid label mode generation).2 := by
  unfold Coordinator.activateOrResume
  split
  · exact h
  have hknown := h.refresh a.geometryFirst uuid
  generalize c.refreshGeometry a.geometryFirst uuid = refreshed at hknown ⊢
  obtain ⟨known, refreshed⟩ := refreshed
  dsimp only at hknown ⊢
  split
  · exact hknown
  split
  · exact hknown
  have hseen : Tidy none { refreshed with
      observedMonitorGenerations :=
        Function.update refreshed.observedMonitorGenerations uuid generation } :=
    hknown.of_clients rfl
  split
  · exact hseen
  split
  · exact hseen
  split
  · exact hseen
  · exact (hseen.inserted a.index uuid).activateEntry a uuid label mode generation

/-! ## The other operations -/

lemma Tidy.reserve (a : ReserveAnswers) (uuid label : String) (mode : Mode) :
    Tidy none (c.reserveNormalGameIdentity a uuid label mode).2 := by
  unfold Coordinator.reserveNormalGameIdentity
  split
  · exact h
  split
  · exact h
  split
  · exact h
  have hinserted := h.inserted a.index uuid
  generalize (if (c.find uuid).isNone then c.insert a.index uuid else c) = inserted
    at hinserted ⊢
  dsimp only
  cases inserted.find uuid with
  | none => exact hinserted
  | some client =>
    dsimp only
    split
    · exact hinserted
    · refine Tidy.keep ?_ (fun _ => rfl) fun _ => rfl
      exact hinserted.of_clients rfl

lemma Tidy.rollback (begun protectedOutput : Bool) (uuid : String) (token : Nat) :
    Tidy none (c.rollbackNormalGameIdentity begun protectedOutput uuid token).2 := by
  unfold Coordinator.rollbackNormalGameIdentity
  split
  · exact h
  cases c.find uuid with
  | none => exact h
  | some client =>
  dsimp only
  split
  · exact h
  split
  · exact h.keep (fun _ => rfl) fun _ => rfl
  have hcleared : Tidy none (c.modify uuid fun client =>
      { Coordinator.clearNormal client with normalReleasePending := false }) :=
    h.keep (fun _ => rfl) fun _ => rfl
  split
  · exact hcleared
  · exact hcleared.erase' uuid

lemma Tidy.release (protectedOutput : Bool) (a : NormalReleaseAnswers)
    (uuid : String) (token : Nat) :
    Tidy none (c.releaseNormalGameIdentity protectedOutput a uuid token) := by
  unfold Coordinator.releaseNormalGameIdentity
  cases c.find uuid with
  | none => exact h
  | some client =>
  dsimp only
  split
  · exact h
  have hmarked : Tidy none (c.modify uuid fun client =>
      { client with normalReleasePending := true }) := h.keep (fun _ => rfl) fun _ => rfl
  split
  · exact hmarked
  · exact hmarked.releaseNormal a uuid

lemma Tidy.markNormalReleases : Tidy none c.markNormalReleases where
  keys := by
    have hkeys : c.markNormalReleases.clients.map (·.1) = c.clients.map (·.1) := by
      show (c.clients.map _).map _ = _
      rw [List.map_map]
      apply List.map_congr_left
      intro entry _
      show (if _ then _ else _ : String × Client).1 = entry.1
      split <;> rfl
    rw [hkeys]
    exact h.keys
  monitored other client hmem _ := by
    obtain ⟨⟨key, source⟩, hsource, heq⟩ := List.mem_map.mp hmem
    have hmonitored := h.monitored key source hsource nofun
    split at heq <;> cases heq <;> exact hmonitored

lemma Tidy.foldl {step : Coordinator → String → Coordinator}
    (hstep : ∀ c uuid, Tidy none c → Tidy none (step c uuid)) (uuids : List String) :
    Tidy none (uuids.foldl step c) := by
  induction uuids generalizing c with
  | nil => exact h
  | cons uuid rest ih => exact ih (hstep c uuid h)

lemma Tidy.releaseAll (protectedOutput : Bool) (answers : String → NormalReleaseAnswers) :
    Tidy none (c.releaseAllNormalGameIdentities protectedOutput answers) := by
  unfold Coordinator.releaseAllNormalGameIdentities
  dsimp only
  split
  · exact h.markNormalReleases
  · refine h.markNormalReleases.foldl (fun c uuid h => ?_) _
    split
    · exact h.releaseNormal _ uuid
    · exact h

lemma Tidy.shutdown (preserveOwnedDisplays : Bool) (a : ShutdownAnswers)
    (hkeys : ((c.shutdown preserveOwnedDisplays a).clients.map (·.1)).Nodup) :
    Tidy none (c.shutdown preserveOwnedDisplays a) := by
  refine ⟨hkeys, fun other client hmem _ => ?_⟩
  unfold Coordinator.shutdown at hmem
  split at hmem
  · cases hmem
  split at hmem
  · exact Tidy.monitored (Tidy.markNormalReleases (h.of_clients rfl)) other client hmem nofun
  · have hentry := finalizeShutdown_entries a (other, client) hmem
    exact h.monitored other client hentry nofun

lemma Tidy.releaseDrained (a : DrainAnswers)
    (hkeys : ((c.releaseDrainedNormalGameIdentities a).clients.map (·.1)).Nodup) :
    Tidy none (c.releaseDrainedNormalGameIdentities a) := by
  refine ⟨hkeys, ?_⟩
  unfold Coordinator.releaseDrainedNormalGameIdentities
  split
  · split
    · exact h.monitored
    · exact fun other client hmem _ =>
        h.monitored other client (finalizeShutdown_entries a.shutdown _ hmem) nofun
  split
  · exact h.monitored
  refine Tidy.monitored (Tidy.foldl (h.foldl (fun c uuid h => ?_) _) (fun c uuid h => ?_) _)
  · split
    · exact h.releaseNormal _ uuid
    · exact h
  cases hfind : c.find uuid with
  | none => exact h
  | some client =>
    dsimp only
    split
    · exact h
    next hpend =>
      refine (h.releaseLocked (a.monitor uuid) uuid _ fun other hother => ?_).eraseReleased uuid
      rw [hfind] at hother
      cases hother
      rw [Bool.not_eq_true, Bool.not_eq_false'] at hpend
      exact .inr (h.monitored uuid client (mem_of_lookup hfind) nofun hpend)

lemma Tidy.reapply (a : ReapplyAnswers) : Tidy none (c.reapplyComposedTopology a).2 := by
  unfold Coordinator.reapplyComposedTopology
  split
  · exact h
  split
  · exact h
  split
  · exact h
  have hresolved : Tidy none { c with clients := c.clients.map fun entry : String × Client =>
      (entry.1, c.resolveOwner (a.resolve entry.1) entry.2) } := by
    refine ⟨?_, fun other client hmem _ => ?_⟩
    · show ((c.clients.map _).map _).Nodup
      rw [List.map_map]
      exact h.keys
    · obtain ⟨⟨key, source⟩, hsource, heq⟩ := List.mem_map.mp hmem
      have hmonitored := h.monitored key source hsource nofun
      cases heq
      unfold Coordinator.resolveOwner
      split
      · exact hmonitored
      · dsimp only
        split <;> exact hmonitored
  have hknown := hresolved.refresh a.geometry ""
  dsimp only
  split
  · exact hknown
  · exact hknown.applyTopology _

end

/-! ## Runs -/

def Coordinator.GateServes (c : Coordinator) : Operation → Prop
  | .explicitRelease a uuid generation _ => ∀ client, c.find uuid = some client →
      generation = client.generation → client.normalGame = true → client.remoteMonitor = false →
        a.begun = true
  | .disconnect a uuid => ∀ client, c.find uuid = some client → client.normalGame = true →
      client.remoteMonitor = false → a.begun = true
  | .unpair a uuid => ∀ client, c.find uuid = some client → client.normalGame = true →
      client.remoteMonitor = false → a.begun = true
  | _ => True

lemma Tidy.releaseAndErase (h : Tidy none c) (a : MonitorReleaseAnswers) (uuid reason : String)
    (hgate : ∀ client, c.find uuid = some client → client.normalGame = true →
      client.remoteMonitor = false → a.begun = true) :
    Tidy none ((c.releaseLocked a uuid reason).eraseReleased uuid) := by
  by_cases hserved : ∀ client, c.find uuid = some client →
      a.begun = true ∨ client.remoteMonitor = true
  · exact (h.releaseLocked a uuid reason hserved).eraseReleased uuid
  · -- The refused release of a client without any role stays pending, and the entry goes.
    simp only [not_forall, not_or, Bool.not_eq_true] at hserved
    obtain ⟨client, hfind, hrefused, hmon⟩ := hserved
    have hnormal : client.normalGame = false := by
      by_contra hgame
      rw [Bool.not_eq_false] at hgame
      rw [hgate client hfind hgame hmon] at hrefused
      cases hrefused
    have hdeferred : c.releaseLocked a uuid reason = c.deferMonitorRelease uuid reason := by
      unfold Coordinator.releaseLocked
      rw [hfind, hrefused]
      rfl
    have hlater : (c.deferMonitorRelease uuid reason).find uuid = some
        { client with monitorReleasePending := true, monitorReleaseReason := reason } := by
      unfold Coordinator.find at hfind ⊢
      unfold Coordinator.deferMonitorRelease Coordinator.modify
      rw [lookup_modifyClient_self, hfind]
      rfl
    have hgone : ((c.deferMonitorRelease uuid reason).find uuid).any
        (fun client => !client.owning) = true := by
      rw [hlater]
      simp [Client.owning, hnormal, hmon]
    rw [hdeferred, Coordinator.eraseReleased, if_pos hgone]
    exact ((h.exempted uuid).modify fun _ _ hother => absurd rfl hother).erase

lemma Tidy.perform (h : Tidy none c) (operation : Operation) (hadmits : c.Admits operation)
    (hgate : c.GateServes operation)
    (hkeys : ((c.perform operation).clients.map (·.1)).Nodup) : Tidy none (c.perform operation) := by
  cases operation with
  | setRuntimeCallbacks | setLayout | setPhysicalBaseline => exact h.of_clients rfl
  | refreshIdlePhysicalBaseline nodes =>
    apply h.of_clients
    show (c.refreshIdlePhysicalBaseline nodes).clients = c.clients
    unfold Coordinator.refreshIdlePhysicalBaseline
    split <;> rfl
  | reserve a uuid label mode => exact h.reserve a uuid label mode
  | reapply a => exact h.reapply a
  | rollback begun protectedOutput uuid token => exact h.rollback begun protectedOutput uuid token
  | release protectedOutput a uuid token => exact h.release protectedOutput a uuid token
  | retain uuid token =>
    show Tidy none (c.retainNormalGameCapture uuid token)
    unfold Coordinator.retainNormalGameCapture
    split
    · exact h
    · split
      · exact h
      · refine Tidy.keep ?_ (fun _ => rfl) fun _ => rfl
        exact h.of_clients rfl
  | dropCapture uuid token =>
    show Tidy none (c.dropCapture uuid token)
    unfold Coordinator.dropCapture
    refine Tidy.keep ?_ (fun _ => rfl) fun _ => rfl
    exact h.of_clients rfl
  | releaseDrained a => exact h.releaseDrained a hkeys
  | releaseAll protectedOutput answers => exact h.releaseAll protectedOutput answers
  | releaseIdle appRunning captureRuntimeOwned protectedOutput answers a =>
    change ((c.releaseIdleNormalGameIdentities appRunning captureRuntimeOwned protectedOutput
      answers a).clients.map (·.1)).Nodup at hkeys
    show Tidy none (c.releaseIdleNormalGameIdentities appRunning captureRuntimeOwned
      protectedOutput answers a)
    unfold Coordinator.releaseIdleNormalGameIdentities at hkeys ⊢
    split at hkeys
    next hidle =>
      rw [if_pos hidle]
      exact h.releaseAll protectedOutput answers
    next hbusy =>
      rw [if_neg hbusy]
      exact h.releaseDrained a hkeys
  | completeRestored protectedOutput =>
    apply h.sublist
    show (c.completeRestoredNormalGameCleanup protectedOutput).clients.Sublist c.clients
    unfold Coordinator.completeRestoredNormalGameCleanup
    split
    · exact List.Sublist.refl _
    · exact List.filter_sublist
  | activateOrResume a uuid label mode generation =>
    exact h.activateOrResume a uuid label mode generation
  | resume a uuid =>
    show Tidy none (c.resumeRemoteMonitor a uuid).2
    unfold Coordinator.resumeRemoteMonitor
    split
    · exact h
    split
    · exact h
    split
    · exact h
    split
    · exact h
    · exact h.activateLocked a uuid
  | explicitRelease a uuid generation reason =>
    show Tidy none (c.explicitRelease a uuid generation reason).2
    unfold Coordinator.explicitRelease
    cases hfind : c.find uuid with
    | none => exact h
    | some client =>
      dsimp only
      split
      · exact h
      next hgeneration =>
        rw [ne_eq, not_not] at hgeneration
        apply h.releaseAndErase a uuid reason
        intro other hother
        rw [hfind] at hother
        cases hother
        exact hgate client hfind hgeneration
  | transportLost uuid generation =>
    show Tidy none (c.transportLost uuid generation)
    unfold Coordinator.transportLost
    split
    · exact h
    · split
      · exact h
      · exact h.keep (fun _ => rfl) fun _ => rfl
  | noteLeaseLost uuid => exact h.keep (fun _ => rfl) fun _ => rfl
  | disconnect a uuid | unpair a uuid =>
    show Tidy none (c.disconnectMonitor a uuid)
    unfold Coordinator.disconnectMonitor
    split
    · exact h
    · exact h.releaseAndErase a uuid _ hgate
  | shutdown preserveOwnedDisplays a => exact h.shutdown preserveOwnedDisplays a hkeys
  | rehash clients =>
    have hperm : clients.Perm c.clients := hadmits
    exact ⟨hkeys, fun other client hmem _ =>
      h.monitored other client (hperm.subset hmem) nofun⟩

lemma tidy_of_reachable (h : coordinatorSystem.ReachableUnder Coordinator.GateServes c) :
    Tidy none c := by
  induction h with
  | refl => exact ⟨List.nodup_nil, fun _ _ hmem => by cases hmem⟩
  | @snoc state operation before hadmits hgate ih =>
    -- That the keys stay distinct is known of every reachable state.
    have hnext := reachable_standing
      (reachable_step (Library.System.ReachableUnder.reachable before) hadmits)
    have hkeys := hnext.1.represents.keys
    rw [records_keys] at hkeys
    have hstart : Tidy none { state with calls := [] } := ih.of_clients rfl
    refine hstart.perform operation ?_ ?_ hkeys
    · cases operation <;> exact hadmits
    · cases operation <;> exact hgate

end

def pendingText : String := "The previous Remote Monitor release is still being finalized."

lemma rejected_ne {text : String} (h : text ≠ pendingText) :
    Coordinator.rejected text ≠ Coordinator.rejected pendingText := fun heq =>
  h (congrArg MonitorRuntimeState.error heq)

lemma capacityText_ne (rest : String) : "Remote display capacity is " ++ rest ≠ pendingText := by
  intro heq
  have hfirst : ("Remote display capacity is " ++ rest).toList.take 12 =
      pendingText.toList.take 12 := by rw [heq]
  rw [String.toList_append, List.take_append_of_le_length (by decide)] at hfirst
  revert hfirst
  decide

lemma activateEntry_not_pending {c : Coordinator} {uuid : String} {client : Client}
    (hfind : c.find uuid = some client) (hpend : client.monitorReleasePending = false)
    (a : ActivationAnswers) (label : String) (mode : Mode) (generation : Nat) :
    (c.activateEntry a uuid label mode generation).1 ≠ Coordinator.rejected pendingText := by
  unfold Coordinator.activateEntry
  rw [hfind]
  dsimp only
  rw [hpend, Bool.false_and, if_neg Bool.false_ne_true, if_neg Bool.false_ne_true]
  split
  · exact rejected_ne (by decide)
  split
  · exact rejected_ne (by decide)
  · intro heq
    have hacc := congrArg MonitorRuntimeState.accepted heq
    dsimp only at hacc
    unfold Coordinator.activationResult at hacc
    split at hacc <;> cases hacc

/-- In every run without a refused release of a client that owns only a normal game, a pending
monitor release is that of a monitor the client owns, and the activation of a monitor for a
client that owns none is not refused for a pending release. -/
theorem pending_release_monitored {c : Coordinator}
    (h : coordinatorSystem.ReachableUnder Coordinator.GateServes c) :
    (∀ uuid client, c.find uuid = some client → client.monitorReleasePending = true →
      client.remoteMonitor = true) ∧
    ∀ uuid client, c.find uuid = some client → client.remoteMonitor = false →
      ∀ a label mode generation, (c.activateOrResume a uuid label mode generation).1 ≠
        Coordinator.rejected pendingText := by
  have htidy := tidy_of_reachable h
  refine ⟨fun uuid client hfind => htidy.monitored uuid client (mem_of_lookup hfind) nofun,
    fun uuid client hfind hmon a label mode generation => ?_⟩
  unfold Coordinator.activateOrResume
  split
  · exact rejected_ne (by decide)
  have hrefreshed := htidy.refresh a.geometryFirst uuid
  have hrecs : records (c.refreshGeometry a.geometryFirst uuid).2.clients = records c.clients :=
    records_refreshClients _ _ _ _
  generalize c.refreshGeometry a.geometryFirst uuid = refreshed at hrefreshed hrecs ⊢
  obtain ⟨known, refreshed⟩ := refreshed
  dsimp only at hrefreshed hrecs ⊢
  -- The refreshed geometry changes no role of the client.
  obtain ⟨later, hlater, hsame⟩ : ∃ later, refreshed.clients.lookup uuid = some later ∧
      later.remoteMonitor = client.remoteMonitor := by
    have hlookup : (records refreshed.clients).lookup uuid =
        (refreshed.clients.lookup uuid).map Client.record := records_lookup
    rw [hrecs, records_lookup, show c.clients.lookup uuid = some client from hfind] at hlookup
    obtain ⟨later, hlater, hrecord⟩ := Option.map_eq_some_iff.mp hlookup.symm
    have hmon := congrArg Client.remoteMonitor hrecord
    exact ⟨later, hlater, hmon⟩
  have hpend : later.monitorReleasePending = false := by
    by_contra hmarked
    rw [Bool.not_eq_false] at hmarked
    have := hrefreshed.monitored uuid later (mem_of_lookup hlater) nofun hmarked
    rw [hsame, hmon] at this
    cases this
  split
  · exact rejected_ne (by decide)
  split
  · exact rejected_ne (by decide)
  split
  · exact rejected_ne (by decide)
  split
  · exact rejected_ne (by decide)
  split
  · apply rejected_ne
    rw [String.append_assoc]
    exact capacityText_ne _
  have hpresent : ({ refreshed with
      observedMonitorGenerations :=
        Function.update refreshed.observedMonitorGenerations uuid generation } :
        Coordinator).find uuid = some later := hlater
  rw [hpresent]
  exact activateEntry_not_pending hpresent hpend a label mode generation

def releaseRun (begun : Bool) : List Operation :=
  [.reserve {} "tablet" "Tablet" {}, .disconnect { begun } "tablet"]

def released (begun : Bool) : Coordinator :=
  coordinatorSystem.run coordinatorSystem.init (releaseRun begun)

theorem pending_release_monitored_served : (released true).clients.map (·.1) = ["tablet"] ∧
      ((released true).activateOrResume {} "tablet" "Tablet" {} 0).1 ≠
        Coordinator.rejected pendingText := by
  have hreachable : coordinatorSystem.ReachableUnder Coordinator.GateServes (released true) :=
    Library.System.Segment.of_follows .refl
      ⟨trivial, trivial, trivial, fun _ _ _ _ => rfl, trivial⟩
  exact ⟨by decide, (pending_release_monitored hreachable).2 "tablet" _ rfl rfl {} "Tablet" {} 0⟩

/-- Where the gate refuses, the release stays pending without a monitor, and the activation of a
monitor is refused for it. -/
theorem refused_release_pending : coordinatorSystem.Reachable (released false) ∧
      ((released false).find "tablet").any (fun client => client.normalGame &&
        client.monitorReleasePending && !client.remoteMonitor) = true ∧
      ((released false).activateOrResume {} "tablet" "Tablet" {} 0).1.accepted = false ∧
      ((released false).activateOrResume {} "tablet" "Tablet" {} 0).1.error = pendingText :=
  ⟨Library.System.Segment.of_follows .refl ⟨trivial, trivial, trivial, trivial, trivial⟩,
    by decide, by decide, by decide⟩

end Vibeshine.RemoteDisplay
