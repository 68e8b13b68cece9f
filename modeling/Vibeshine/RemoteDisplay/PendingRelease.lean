import Vibeshine.RemoteDisplay.Custody

/-! # Pending monitor releases

A release that could not be carried out stays pending. Where no release of a client that
owns only a normal game meets a refusing lease gate, every pending release is that of a
monitor the client owns.
-/

namespace Vibeshine.RemoteDisplay

def Client.Monitored (client : Client) : Prop :=
  client.monitorReleasePending = true → client.remoteMonitor = true

/-- Every entry but those of the exempted client is monitored. -/
structure Tidy (exempt : Option String) (c : Coordinator) : Prop where
  keys : (c.clients.map (·.1)).Nodup
  monitored : ∀ uuid client, (uuid, client) ∈ c.clients → some uuid ≠ exempt → client.Monitored

section

variable {exempt : Option String} {c later : Coordinator} {uuid : String} {f : Client → Client}

/-! ## Entries -/

lemma Tidy.of_clients (h : Tidy exempt c) (hclients : later.clients = c.clients) :
    Tidy exempt later := ⟨hclients ▸ h.keys, hclients ▸ h.monitored⟩

lemma Tidy.exempted (h : Tidy none c) (uuid : String) : Tidy (some uuid) c :=
  ⟨h.keys, fun other client hmem _ => h.monitored other client hmem nofun⟩

section

variable (h : Tidy exempt c)

include h

lemma Tidy.sublist (hsublist : later.clients.Sublist c.clients) : Tidy exempt later :=
  ⟨h.keys.sublist (hsublist.map _),
    fun uuid client hmem hother => h.monitored uuid client (hsublist.subset hmem) hother⟩

lemma Tidy.modify
    (hf : ∀ client, (uuid, client) ∈ c.clients → some uuid ≠ exempt → client.Monitored →
      (f client).Monitored) : Tidy exempt (c.modify uuid f) where
  keys := by
    show ((modifyClient uuid f c.clients).map (·.1)).Nodup
    rw [modifyClient_keys]
    exact h.keys
  monitored other client hmem hother := by
    obtain ⟨hmem, -⟩ | ⟨source, hsource, heq⟩ := mem_modifyClient.mp hmem
    · exact h.monitored other client hmem hother
    · cases heq
      exact hf source hsource hother (h.monitored uuid source hsource hother)

lemma Tidy.keep
    (hpend : ∀ client, (f client).monitorReleasePending = client.monitorReleasePending)
    (hmon : ∀ client, (f client).remoteMonitor = client.remoteMonitor) :
    Tidy exempt (c.modify uuid f) :=
  h.modify fun client _ _ hmonitored hmarked => by
    rw [hmon]
    exact hmonitored ((hpend client).symm.trans hmarked)

end

lemma Tidy.settle (h : Tidy (some uuid) c) (hf : ∀ client, (f client).Monitored) :
    Tidy none (c.modify uuid f) where
  keys := by
    show ((modifyClient uuid f c.clients).map (·.1)).Nodup
    rw [modifyClient_keys]
    exact h.keys
  monitored other client hmem _ := by
    obtain ⟨hmem, hne⟩ | ⟨source, -, heq⟩ := mem_modifyClient.mp hmem
    · exact h.monitored other client hmem fun heq => hne (Option.some.inj heq)
    · cases heq
      exact hf source

lemma Tidy.erase (h : Tidy (some uuid) c) : Tidy none (c.erase uuid) where
  keys := eraseClient_keys_nodup h.keys
  monitored other client hmem _ := by
    obtain ⟨hmem, hne⟩ := mem_eraseClient.mp hmem
    exact h.monitored other client hmem fun heq => hne (Option.some.inj heq)

lemma Tidy.erase' (h : Tidy none c) (uuid : String) : Tidy none (c.erase uuid) :=
  (h.exempted uuid).erase

section

variable (h : Tidy exempt c)

include h

lemma Tidy.call (call : Call) : Tidy exempt (c.call call) := h.of_clients rfl

lemma Tidy.applyTopology (answer : Bool) : Tidy exempt (c.applyTopology answer) := h.of_clients rfl

lemma Tidy.of_records (hrecs : records later.clients = records c.clients) :
    Tidy exempt later where
  keys := by
    rw [← records_keys, hrecs, records_keys]
    exact h.keys
  monitored uuid client hmem hother := by
    have hrecord : (uuid, client.record) ∈ records c.clients := by
      rw [← hrecs]
      exact mem_records.mpr ⟨client, hmem, rfl⟩
    obtain ⟨source, hsource, heq⟩ := mem_records.mp hrecord
    have hpend := congrArg Client.monitorReleasePending heq
    have hmon := congrArg Client.remoteMonitor heq
    change source.monitorReleasePending = client.monitorReleasePending at hpend
    change source.remoteMonitor = client.remoteMonitor at hmon
    exact fun hmarked => hmon.symm.trans
      (h.monitored uuid source hsource hother (hpend.trans hmarked))

end

lemma Tidy.ite {cond : Prop} [Decidable cond] {other : Coordinator} (hthen : Tidy exempt later)
    (helse : Tidy exempt other) : Tidy exempt (if cond then later else other) := by
  split
  · exact hthen
  · exact helse

lemma Tidy.refresh (h : Tidy exempt c) (observe : String → Option Mode) (except : String) :
    Tidy exempt (c.refreshGeometry observe except).2 :=
  h.of_records (records_refreshClients _ _ _ _)

lemma Tidy.found (h : Tidy exempt c) {former client : Client} (hfind : c.find uuid = some former)
    (hmem : (uuid, client) ∈ c.clients) : client = former :=
  mem_unique h.keys hmem (mem_of_lookup hfind)

lemma Tidy.restoreNormal (h : Tidy none c) (uuid : String) (former : Client) :
    Tidy none (c.restoreNormal uuid former) := h.keep (fun _ => rfl) fun _ => rfl

lemma Tidy.releaseNormal (h : Tidy none c) (a : NormalReleaseAnswers) (uuid : String) :
    Tidy none (c.releaseNormalGameIdentityLocked a uuid) := by
  unfold Coordinator.releaseNormalGameIdentityLocked
  split
  · exact h
  cases hfind : c.find uuid with
  | none => exact h
  | some former =>
  have hcleared : Tidy none (c.modify uuid Coordinator.clearNormal) := h.keep (fun _ => rfl) fun _ => rfl
  dsimp only
  split
  · exact hcleared.keep (fun _ => rfl) fun _ => rfl
  split
  · exact hcleared.restoreNormal uuid former
  have hknown := hcleared.refresh a.geometry ""
  split
  · split
    · exact hknown.restoreNormal uuid former
    · split
      · exact (hknown.call _).erase' uuid
      · exact (hknown.call _).restoreNormal uuid former
  · have happlied := hknown.applyTopology a.applied
    split
    · exact happlied.restoreNormal uuid former
    split
    · exact happlied.erase' uuid
    split
    · exact (happlied.call _).erase' uuid
    have hagain := fun call =>
      ((happlied.call call).restoreNormal uuid former).refresh a.geometryAgain ""
    split
    · exact (hagain _).applyTopology _
    · exact hagain _

/-! ## Releases of monitors -/

section

variable (h : Tidy (some uuid) c)

include h

lemma Tidy.restoreMonitor (resolve : Mode → Mode) (former : Client)
    (reason : String) : Tidy none (c.restoreMonitor resolve uuid former reason) :=
  h.settle fun _ _ => rfl

lemma Tidy.completeMonitorRelease (former : Client) :
    Tidy none (c.completeMonitorRelease uuid former) := by
  unfold Coordinator.completeMonitorRelease
  dsimp only
  split
  · exact h.settle fun _ => nofun
  · exact Tidy.of_clients (h.settle (f := fun client =>
      { client with
        monitorReleasePending := false
        monitorReleaseReason := ""
        deferredMonitorReconfiguration := false
        sharedModeUnverified := former.normalGame && former.sharedModeUnverified })
      fun _ => nofun) rfl

lemma Tidy.removeReleased (a : MonitorReleaseAnswers) (former : Client)
    (reason : String) : Tidy none (c.removeReleased a uuid former reason) := by
  unfold Coordinator.removeReleased
  split
  · exact h.completeMonitorRelease former
  dsimp only
  split
  · exact (h.call _).completeMonitorRelease former
  have hrestored := fun call =>
    (h.call call).restoreMonitor a.resolveBack former reason
  generalize (if c.callbacks.terminateOwnedDisplay then Call.terminated uuid c.clients a.removed
    else Call.removed uuid c.clients a.removed) = call
  split
  · split
    · exact ((hrestored call).refresh a.geometryAgain "").applyTopology _
    · exact (hrestored call).refresh a.geometryAgain ""
  · exact hrestored call

lemma Tidy.handOffReleased (a : MonitorReleaseAnswers) (former : Client)
    (reason : String) : Tidy none (c.handOffReleased a uuid former reason) := by
  unfold Coordinator.handOffReleased
  split
  · have hknown := h.refresh a.geometry ""
    generalize c.refreshGeometry a.geometry = refreshed at hknown ⊢
    obtain ⟨known, refreshed⟩ := refreshed
    dsimp only at hknown ⊢
    have happlied : Tidy (some uuid)
        (if known then refreshed.applyTopology a.applied else refreshed) :=
      .ite (hknown.applyTopology _) hknown
    generalize (if known then refreshed.applyTopology a.applied else refreshed) = applied
      at happlied ⊢
    have hpend : Tidy (some uuid) (if (!(known && a.applied) && known) = true then
        { applied with physicalRestorePending := true } else applied) :=
      .ite (happlied.of_clients rfl) happlied
    generalize (if (!(known && a.applied) && known) = true then
      { applied with physicalRestorePending := true } else applied) = pending at hpend ⊢
    split
    · exact hpend.restoreMonitor a.resolveBack former reason
    · exact hpend.removeReleased a former reason
  · split
    · exact h.restoreMonitor a.resolveBack former reason
    · exact h.removeReleased a former reason

end

lemma Tidy.releaseLocked (h : Tidy none c) (a : MonitorReleaseAnswers) (uuid reason : String)
    (hgate : ∀ client, c.find uuid = some client → a.begun = true ∨ client.remoteMonitor = true) :
    Tidy none (c.releaseLocked a uuid reason) := by
  unfold Coordinator.releaseLocked
  cases hfind : c.find uuid with
  | none => exact h
  | some former =>
  dsimp only
  have hdeferred : former.remoteMonitor = true → Tidy none (c.deferMonitorRelease uuid reason) :=
    fun hmon => h.modify fun client hmem _ _ _ => by
      show client.remoteMonitor = true
      rw [h.found hfind hmem]
      exact hmon
  split
  next hrefused =>
    obtain hbegun | hmon := hgate former hfind
    · rw [hbegun] at hrefused
      cases hrefused
    · exact hdeferred hmon
  split
  · exact h
  next hmon =>
  rw [Bool.not_eq_true, Bool.not_eq_false'] at hmon
  split
  · exact hdeferred hmon
  next hallowed =>
  split
  next hretiring =>
    -- A retiring normal role defers every mutation of the display, also this release.
    refine absurd ?_ hallowed
    unfold Coordinator.displayMutationDeferred
    rw [Bool.or_eq_true, List.any_eq_true]
    exact .inr ⟨(uuid, former), mem_of_lookup hfind, hretiring⟩
  · exact ((h.exempted uuid).modify fun _ _ hother => absurd rfl hother).handOffReleased a former
      reason

lemma Tidy.eraseReleased (h : Tidy none c) (uuid : String) : Tidy none (c.eraseReleased uuid) := by
  unfold Coordinator.eraseReleased
  split
  · exact h.erase' uuid
  · exact h

end

end Vibeshine.RemoteDisplay
