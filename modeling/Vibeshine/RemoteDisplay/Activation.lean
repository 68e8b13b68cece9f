import Vibeshine.RemoteDisplay.Release

/-! # Activations revise one entry

An activation observes the shared geometries of all other clients before it composes
a topology, verifies its own, and writes to its own entry only. It publishes readiness
together with a capture output and a verified geometry.
-/

namespace Vibeshine.RemoteDisplay

/-- Roles, reservations, and captures of an entry stay as they are. -/
structure Adjusts (former later : Client) : Prop where
  normalGame : later.normalGame = former.normalGame
  token : later.normalGameToken = former.normalGameToken
  requested : later.normalRequestedMode = former.normalRequestedMode
  pending : later.normalReleasePending = former.normalReleasePending
  references : later.normalCaptureReferences = former.normalCaptureReferences
  monitor : later.remoteMonitor = former.remoteMonitor
  generation : later.generation = former.generation

/-- An activation ends with a truthful readiness. -/
structure Activates (former later : Client) : Prop extends Adjusts former later where
  ready : later.lifecycle = .ready → later.exactOutput ≠ "" ∧ later.sharedModeUnverified = false

lemma Adjusts.trans {former mid later : Client} (first : Adjusts former mid)
    (second : Adjusts mid later) : Adjusts former later :=
  ⟨second.normalGame.trans first.normalGame, second.token.trans first.token,
    second.requested.trans first.requested, second.pending.trans first.pending,
    second.references.trans first.references, second.monitor.trans first.monitor,
    second.generation.trans first.generation⟩

def Revises (watched : List (String × Nat)) (uuid : String) (revision : Client → Client → Prop)
    (c later : Coordinator) : Prop :=
  ∃ update, Effect watched c later (modifyClient uuid update) ∧
    ∀ client, revision client (update client)

def Verified (c : Coordinator) (uuid : String) : Prop :=
  ∀ client, (uuid, client) ∈ records c.clients → client.sharedModeUnverified = false

section

variable {watched : List (String × Nat)} {c mid later : Coordinator} {uuid : String}

lemma Revises.modify {revision : Client → Client → Prop} (record : Client → Client)
    {update : Client → Client} (h : ∀ client, (update client).record = record client.record)
    (hrevision : ∀ client, revision client (record client)) :
    Revises watched uuid revision c (c.modify uuid update) :=
  ⟨record, .modify record h, hrevision⟩

lemma Revises.of_same (h : Effect watched c later id) : Revises watched uuid Adjusts c later := by
  refine ⟨id, h.congr ?_, fun _ => ⟨rfl, rfl, rfl, rfl, rfl, rfl, rfl⟩⟩
  exact (modifyClient_eq_self fun _ _ => rfl).symm

lemma Revises.trans (first : Revises watched uuid Adjusts c mid)
    (second : Revises watched uuid Activates mid later) :
    Revises watched uuid Activates c later := by
  obtain ⟨update, heffect, hupdate⟩ := first
  obtain ⟨revise, heffect', hrevise⟩ := second
  refine ⟨revise ∘ update, (heffect.trans heffect').congr modifyClient_modifyClient,
    fun client => ⟨(hupdate client).trans (hrevise (update client)).toAdjusts,
      (hrevise (update client)).ready⟩⟩

lemma Grounded.modify {calls : List Call} {clients : Clients} {update : Client → Client}
    (h : Grounded calls clients uuid) : Grounded calls (modifyClient uuid update clients) uuid := by
  intro other client hmem howning hunverified hother hempty
  rcases mem_modifyClient.mp hmem with ⟨hmem, -⟩ | ⟨source, -, heq⟩
  · exact h other client hmem howning hunverified hother hempty
  · cases heq
    exact absurd rfl hother

lemma Grounded.unexempt {calls : List Call} {clients : Clients} (h : Grounded calls clients uuid)
    (hverified : ∀ client, (uuid, client) ∈ clients → client.sharedModeUnverified = false) :
    Grounded calls clients "" := by
  intro other client hmem howning hunverified _ hempty
  refine h other client hmem howning hunverified ?_ hempty
  rintro rfl
  rw [hverified client hmem] at hunverified
  cases hunverified

def applying (client : Client) : Client := { client with lifecycle := .applying }

def verifiedEntry (sharedCapture : Bool) (client : Client) : Client :=
  { client with
    sharedModeUnverified := false
    deferredMonitorReconfiguration := client.deferredMonitorReconfiguration && sharedCapture }

lemma retryLater_revises (c : Coordinator) (warning : String) :
    Revises watched uuid Activates c (c.retryLater uuid warning) :=
  .modify (fun client => { client with lifecycle := .retryable, warning := warning })
    (fun _ => rfl) fun _ => ⟨⟨rfl, rfl, rfl, rfl, rfl, rfl, rfl⟩, fun hready => by cases hready⟩

lemma retryShared_revises (c : Coordinator) (sharedCapture : Bool) (warning : String) :
    Revises watched uuid Activates c (c.retryShared uuid sharedCapture warning) :=
  .modify (fun client =>
    { client with
      deferredMonitorReconfiguration := client.deferredMonitorReconfiguration || sharedCapture
      sharedModeUnverified := client.sharedModeUnverified || sharedCapture
      lifecycle := .retryable
      warning := warning })
    (fun _ => rfl) fun _ => ⟨⟨rfl, rfl, rfl, rfl, rfl, rfl, rfl⟩, fun hready => by cases hready⟩

section

variable (hkeys : (c.clients.map (·.1)).Nodup)

include hkeys

lemma applyActivation_revises (hverified : Verified c uuid)
    (a : ActivationAnswers) (sharedCapture : Bool) :
    Revises watched uuid Activates c (c.applyActivation a uuid sharedCapture) := by
  unfold Coordinator.applyActivation
  have hrefresh : Effect watched _ _ id := .refresh c a.geometryAfter uuid
  have hgrounded := refreshGeometry_grounded a.geometryAfter uuid hkeys
  cases hround : c.refreshGeometry a.geometryAfter uuid with
  | mk known refreshed =>
  rw [hround] at hrefresh hgrounded
  dsimp only at hrefresh hgrounded ⊢
  split
  · exact (Revises.of_same hrefresh).trans (retryLater_revises refreshed _)
  next hknown =>
  rw [Bool.not_eq_true', Bool.not_eq_false] at hknown
  have happlying : Effect watched c (refreshed.modify uuid applying)
      (modifyClient uuid applying) := hrefresh.trans (.modify applying fun _ => rfl)
  have hground : Grounded refreshed.calls (modifyClient uuid applying refreshed.clients) "" := by
    refine (hgrounded hknown).modify.unexempt fun client hmem => ?_
    have hrecord : (uuid, client.record) ∈ records (refreshed.modify uuid applying).clients :=
      mem_records.mpr ⟨client, hmem, rfl⟩
    rw [happlying.recorded] at hrecord
    rcases mem_modifyClient.mp hrecord with ⟨-, hne⟩ | ⟨source, hsource, heq⟩
    · exact absurd rfl hne
    · have hsame := congrArg (fun entry => entry.2.sharedModeUnverified) heq
      exact hsame.trans (hverified source hsource)
  have happlied : Effect watched c ((refreshed.modify uuid applying).applyTopology a.applied)
      (modifyClient uuid applying) := happlying.trans (.apply a.applied hground)
  have hstart : Revises watched uuid Adjusts c
      ((refreshed.modify uuid fun client => { client with lifecycle := .applying }).applyTopology
        a.applied) :=
    ⟨applying, happlied, fun _ => ⟨rfl, rfl, rfl, rfl, rfl, rfl, rfl⟩⟩
  generalize (refreshed.modify uuid fun client =>
    { client with lifecycle := .applying }).applyTopology a.applied = applied at hstart
  split
  · exact hstart.trans (retryShared_revises applied sharedCapture _)
  have hfinal : Revises watched uuid Adjusts c (if applied.callbacks.finalizeMode then
      applied.modify uuid fun client =>
        { client with effectiveMode := a.finalMode client.effectiveMode } else applied) := by
    split
    · obtain ⟨update, heffect, hupdate⟩ := hstart
      exact ⟨update, heffect.thenRetune fun _ => rfl, hupdate⟩
    · exact hstart
  generalize (if applied.callbacks.finalizeMode then
      applied.modify uuid fun client =>
        { client with effectiveMode := a.finalMode client.effectiveMode } else applied) = final
    at hfinal
  split
  · exact hfinal.trans (retryShared_revises final sharedCapture _)
  split
  · exact hfinal.trans (retryShared_revises final sharedCapture _)
  next houtput =>
  refine hfinal.trans (.modify (fun client =>
    { client with
      exactOutput := a.exactOutput.getD ""
      deferredMonitorReconfiguration := false
      sharedModeUnverified := false
      lifecycle := .ready
      warning := "" }) (fun _ => rfl) fun _ =>
    ⟨⟨rfl, rfl, rfl, rfl, rfl, rfl, rfl⟩, fun _ => ⟨fun hempty => houtput ?_, rfl⟩⟩)
  rw [show a.exactOutput.getD "" = "" from hempty]
  rfl

lemma verified_of_find {client : Client}
    (hfind : c.find uuid = some client) (h : client.sharedModeUnverified = false) :
    Verified c uuid := by
  intro other hmem
  rw [(mem_records_iff_find hkeys hfind).mp hmem]
  exact h

lemma verifyGeometry_revises (a : ActivationAnswers)
    (sharedCapture : Bool) (hfind : (c.find uuid).isSome) :
    Revises watched uuid Activates c (c.verifyGeometry a uuid sharedCapture) := by
  unfold Coordinator.verifyGeometry
  have hresolved : Effect watched c (c.modify uuid (c.resolveEffectiveMode a.resolve)) id :=
    .retune fun _ => rfl
  have hresolvedKeys : ((c.modify uuid (c.resolveEffectiveMode a.resolve)).clients.map
      (·.1)).Nodup := by
    rw [hresolved.keys]
    exact hkeys
  have hfound : ((c.modify uuid (c.resolveEffectiveMode a.resolve)).find uuid).isSome := by
    rw [find_modify_self]
    simpa using hfind
  generalize c.modify uuid (c.resolveEffectiveMode a.resolve) = resolved at *
  dsimp only
  obtain ⟨client, hclient⟩ := Option.isSome_iff_exists.mp hfound
  rw [hclient]
  dsimp only
  split
  · have hobs : Effect watched c (if resolved.callbacks.observeSharedMode then
        resolved.call (.observed uuid a.observed) else resolved) id := by
      split
      · exact hresolved.trans (.call (.observed uuid a.observed) trivial)
      · exact hresolved
    generalize (if resolved.callbacks.observeSharedMode then
        resolved.call (.observed uuid a.observed) else resolved) = observed at hobs
    generalize (if resolved.callbacks.observeSharedMode then a.observed else none) = answer
    split
    · refine (Revises.of_same hobs).trans ?_
      refine ⟨fun client =>
        { client with
          deferredMonitorReconfiguration :=
            client.deferredMonitorReconfiguration || sharedCapture
          sharedModeUnverified := true
          lifecycle := .retryable
          warning := "The shared display does not yet match the requested geometry; Resume " ++
            "will retry." }, ?_, ?_⟩
      · exact .modify _ fun _ => rfl
      · exact fun _ => ⟨⟨rfl, rfl, rfl, rfl, rfl, rfl, rfl⟩, fun hready => by cases hready⟩
    · have hverify : Effect watched c (observed.modify uuid (verifiedEntry sharedCapture))
          (modifyClient uuid (verifiedEntry sharedCapture)) :=
        hobs.trans (.modify (verifiedEntry sharedCapture) fun _ => rfl)
      show Revises watched uuid Activates c
        ((observed.modify uuid (verifiedEntry sharedCapture)).applyActivation a uuid sharedCapture)
      refine Revises.trans ⟨verifiedEntry sharedCapture, hverify, fun _ =>
        ⟨rfl, rfl, rfl, rfl, rfl, rfl, rfl⟩⟩
        (applyActivation_revises ?_ (fun client hmem => ?_) a sharedCapture)
      · rw [show (observed.modify uuid _).clients.map (·.1) = observed.clients.map (·.1) from
          modifyClient_keys, hobs.keys]
        exact hkeys
      · have hrecord : (uuid, client) ∈ records
            (observed.modify uuid (verifiedEntry sharedCapture)).clients := hmem
        rw [hverify.recorded] at hrecord
        rcases mem_modifyClient.mp hrecord with ⟨-, hne⟩ | ⟨source, -, heq⟩
        · exact absurd rfl hne
        · cases heq
          rfl
  · next hunshared =>
    have hverified : client.sharedModeUnverified = false := by
      simp only [Bool.or_eq_true, not_or, Bool.not_eq_true] at hunshared
      exact hunshared.1.2
    exact (Revises.of_same hresolved).trans (applyActivation_revises hresolvedKeys
      (verified_of_find hresolvedKeys hclient hverified) a sharedCapture)

lemma reclaimLease_revises (a : ActivationAnswers)
    (sharedCapture : Bool) (hfind : (c.find uuid).isSome) :
    Revises watched uuid Activates c (c.reclaimLease a uuid sharedCapture) := by
  unfold Coordinator.reclaimLease
  obtain ⟨client, hclient⟩ := Option.isSome_iff_exists.mp hfind
  rw [hclient]
  dsimp only
  have hnext : ∀ update : Client → Client, (∀ client, (update client).record =
      update client.record) → (∀ client, Adjusts client (update client)) →
      Revises watched uuid Activates c ((c.modify uuid update).verifyGeometry a uuid
        sharedCapture) := by
    intro update hrecord hadjusts
    refine Revises.trans (.modify update hrecord hadjusts) (verifyGeometry_revises ?_ a
      sharedCapture ?_)
    · rw [show (c.modify uuid update).clients.map (·.1) = c.clients.map (·.1) from
        modifyClient_keys]
      exact hkeys
    · rw [find_modify_self]
      simpa using hfind
  split
  · exact hnext _ (fun _ => rfl) fun _ => ⟨rfl, rfl, rfl, rfl, rfl, rfl, rfl⟩
  split
  · split
    · exact retryLater_revises c _
    · exact hnext _ (fun _ => rfl) fun _ => ⟨rfl, rfl, rfl, rfl, rfl, rfl, rfl⟩
  · exact verifyGeometry_revises hkeys a sharedCapture hfind

lemma activateLocked_revises (a : ActivationAnswers) (hfind : (c.find uuid).isSome) :
    Revises watched uuid Activates c (c.activateLocked a uuid) := by
  unfold Coordinator.activateLocked
  obtain ⟨client, hclient⟩ := Option.isSome_iff_exists.mp hfind
  rw [hclient]
  dsimp only
  split
  · exact retryLater_revises c _
  have hrefresh : Effect watched _ _ id := .refresh c a.geometryBefore uuid
  cases hround : c.refreshGeometry a.geometryBefore uuid with
  | mk known refreshed =>
  rw [hround] at hrefresh
  dsimp only at hrefresh ⊢
  split
  · exact (Revises.of_same hrefresh).trans (retryLater_revises refreshed _)
  · refine (Revises.of_same hrefresh).trans (reclaimLease_revises ?_ a _ ?_)
    · rw [hrefresh.keys]
      exact hkeys
    · rw [Coordinator.find, ← Option.isSome_map (f := Client.record), ← records_lookup,
        hrefresh.recorded, id, records_lookup, Option.isSome_map]
      exact hfind

end

end

end Vibeshine.RemoteDisplay
