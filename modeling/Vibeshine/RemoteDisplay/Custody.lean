import Vibeshine.RemoteDisplay.Runs

/-! # Ownership until removal

An entry leaves the coordinator only after its display, and an entry that a release
leaves behind keeps its roles with their requested modes and its reservation.
-/

namespace Vibeshine.RemoteDisplay

open Library (System)

namespace Operation

def ReleasesNormal : Operation → Prop
  | .release _ _ _ _ | .releaseDrained _ | .releaseAll _ _ | .releaseIdle _ _ _ _ _ => True
  | _ => False

def ReleasesMonitor : Operation → Prop
  | .explicitRelease _ _ _ _ | .disconnect _ _ | .unpair _ _ => True
  | _ => False

end Operation

/-- The operation may finish the shutdown transaction. -/
def Coordinator.Finalizes (c : Coordinator) : Operation → Prop
  | .shutdown false _ => True
  | .releaseDrained _ | .releaseIdle _ _ _ _ _ => c.shutdownPending = true
  | _ => False

/-- The normal role is as it was. -/
structure SameNormal (former later : Client) : Prop where
  normalGame : later.normalGame = former.normalGame
  requested : later.normalRequestedMode = former.normalRequestedMode
  token : later.normalGameToken = former.normalGameToken

/-- The monitor role is as it was. -/
structure SameMonitor (former later : Client) : Prop where
  remoteMonitor : later.remoteMonitor = former.remoteMonitor
  requested : later.monitorRequestedMode = former.monitorRequestedMode

/-- The client has the roles it had, with their modes and its reservation token. -/
def Coordinator.KeepsRoles (later : Coordinator) (uuid : String) (former : Client) : Prop :=
  ∃ kept, (uuid, kept) ∈ later.clients ∧ SameNormal former kept ∧ SameMonitor former kept

section

variable {watched : List (String × Nat)} {c mid later : Coordinator} {uuid : String}
  {former : Client}

lemma keepsRoles_of_mem {kept : Client} (hmem : (uuid, kept) ∈ records later.clients)
    (hnormal : SameNormal former kept) (hmon : SameMonitor former kept) :
    later.KeepsRoles uuid former := by
  obtain ⟨source, hsource, rfl⟩ := mem_records.mp hmem
  obtain ⟨hgame, hmode, htoken⟩ := hnormal
  obtain ⟨hremote, hrequested⟩ := hmon
  exact ⟨source, hsource, ⟨hgame, hmode, htoken⟩, hremote, hrequested⟩

lemma Effect.keepsRoles (h : Effect watched c later id) (hfind : c.find uuid = some former) :
    later.KeepsRoles uuid former := by
  have hmem : (uuid, former.record) ∈ records later.clients := by
    rw [h.recorded]
    exact Standing.record_mem hfind
  exact keepsRoles_of_mem hmem ⟨rfl, rfl, rfl⟩ ⟨rfl, rfl⟩

lemma Effect.relates {same : Client → Client → Prop} {update : Client → Client}
    (hs : Standing watched c) (h : Effect watched c later (modifyClient uuid update))
    (hrefl : ∀ client, same client client) (hupdate : ∀ client, same client (update client))
    {other : String} {client kept : Client} (hmem : (other, client) ∈ records c.clients)
    (hkept : (other, kept) ∈ records later.clients) : same client kept := by
  rw [h.recorded] at hkept
  rcases mem_modifyClient.mp hkept with ⟨hkept, -⟩ | ⟨source, hsource, heq⟩
  · rw [mem_unique hs.represents.keys hmem hkept]
    exact hrefl kept
  · cases heq
    rw [mem_unique hs.represents.keys hmem hsource]
    exact hupdate source

lemma Effect.modified_keys {update : Client → Client}
    (h : Effect watched c later (modifyClient uuid update)) :
    later.clients.map (·.1) = c.clients.map (·.1) := by
  rw [← records_keys, h.recorded, modifyClient_keys, records_keys]

lemma SameNormal.refl (client : Client) : SameNormal client client := ⟨rfl, rfl, rfl⟩

lemma SameMonitor.refl (client : Client) : SameMonitor client client := ⟨rfl, rfl⟩

/-! ## Releases of a monitor role -/

/-- Entries leave only after their displays. -/
def SeesRemovals (c later : Coordinator) : Prop :=
  ∀ uuid ∈ c.clients.map (·.1), uuid ∉ later.clients.map (·.1) → DisplayRemoved later uuid

lemma SeesRemovals.refl (c : Coordinator) : SeesRemovals c c :=
  fun _ hmem hgone => absurd hmem hgone

lemma SeesRemovals.trans (first : SeesRemovals c mid) (second : SeesRemovals mid later)
    (hframe : Frame mid later) : SeesRemovals c later := by
  intro uuid hmem hgone
  by_cases hmid : uuid ∈ mid.clients.map (·.1)
  · exact second uuid hmid hgone
  · exact (first uuid hmem hmid).mono hframe

section

variable (hs : Standing watched c)

include hs

lemma releaseMonitor_sees (hfind : c.find uuid = some former) (a : MonitorReleaseAnswers)
    (reason : String) : SeesRemovals c ((c.releaseLocked a uuid reason).eraseReleased uuid) := by
  have hsame : ∀ later : Coordinator, later.clients.map (·.1) = c.clients.map (·.1) →
      SeesRemovals c later := fun later hkeys other hmem hgone =>
    absurd (hkeys ▸ hmem) hgone
  rcases releaseMonitor_effect hs hfind a reason with
    hkept | hpostponed | ⟨hmon, ⟨-, hended⟩ | ⟨hnormal, herased⟩⟩
  · exact hsame _ hkept.keys
  · exact hsame _ hpostponed.modified_keys
  · exact hsame _ hended.modified_keys
  · intro other hmem hgone
    rw [herased.eq_of_erased hmem hgone]
    exact hmon.display.resolve_left (by simp [hnormal])

lemma releaseMonitor_sameNormal (hfind : c.find uuid = some former)
    (a : MonitorReleaseAnswers) (reason : String) {other : String} {client kept : Client}
    (hmem : (other, client) ∈ records c.clients)
    (hkept : (other, kept) ∈ records ((c.releaseLocked a uuid reason).eraseReleased uuid).clients) :
    SameNormal client kept := by
  rcases releaseMonitor_effect hs hfind a reason with
    hsame | hpostponed | ⟨-, ⟨-, hended⟩ | ⟨-, herased⟩⟩
  · rw [hsame.recorded] at hkept
    rw [mem_unique hs.represents.keys hmem hkept]
    exact .refl kept
  · exact hpostponed.relates hs SameNormal.refl (fun _ => ⟨rfl, rfl, rfl⟩) hmem hkept
  · exact hended.relates hs SameNormal.refl (fun _ => ⟨rfl, rfl, rfl⟩) hmem hkept
  · rw [herased.recorded] at hkept
    rw [mem_unique hs.represents.keys hmem (mem_eraseClient.mp hkept).1]
    exact .refl kept

lemma releaseMonitor_keepsRoles (hfind : c.find uuid = some former) (a : MonitorReleaseAnswers)
    (reason : String) :
    ((c.releaseLocked a uuid reason).eraseReleased uuid).KeepsRoles uuid former ∨
      MonitorEnded c ((c.releaseLocked a uuid reason).eraseReleased uuid) a uuid former := by
  rcases releaseMonitor_effect hs hfind a reason with hsame | hpostponed | ⟨hmon, -⟩
  · exact .inl (hsame.keepsRoles hfind)
  · have hmem : (uuid, postponeMonitor reason former.record) ∈
        records ((c.releaseLocked a uuid reason).eraseReleased uuid).clients := by
      rw [hpostponed.recorded]
      exact mem_modifyClient.mpr (.inr ⟨_, Standing.record_mem hfind, rfl⟩)
    exact .inl (keepsRoles_of_mem hmem ⟨rfl, rfl, rfl⟩ ⟨rfl, rfl⟩)
  · exact .inr hmon

/-- The loop over postponed monitor releases. -/
lemma releaseEach_sees (answers : String → MonitorReleaseAnswers) (uuids : List String) :
    Moves watched c (uuids.foldl (fun c uuid =>
        match c.find uuid with
        | none => c
        | some client =>
          if !client.monitorReleasePending then c
          else (c.releaseLocked (answers uuid) uuid client.monitorReleaseReason).eraseReleased
            uuid) c) ∧
      SeesRemovals c (uuids.foldl (fun c uuid =>
        match c.find uuid with
        | none => c
        | some client =>
          if !client.monitorReleasePending then c
          else (c.releaseLocked (answers uuid) uuid client.monitorReleaseReason).eraseReleased
            uuid) c) := by
  induction uuids generalizing c with
  | nil => exact ⟨.refl hs, .refl c⟩
  | cons uuid rest ih =>
    rw [List.foldl_cons]
    cases hfind : c.find uuid with
    | none => exact ih hs
    | some former =>
      dsimp only
      split
      · exact ih hs
      · have hmoves := releaseMonitor_moves hs hfind (answers uuid)
          former.monitorReleaseReason
        obtain ⟨hrest, hsees⟩ := ih hmoves.standing
        exact ⟨hmoves.trans hrest,
          (releaseMonitor_sees hs hfind (answers uuid) _).trans hsees hrest.frame⟩

end

lemma perform_monitor {P : Coordinator → Prop} {operation : Operation}
    (hreleases : operation.ReleasesMonitor) (hsame : P c)
    (hrel : ∀ uuid former a reason, c.find uuid = some former →
      P ((c.releaseLocked a uuid reason).eraseReleased uuid)) : P (c.perform operation) := by
  have hdisconnect : ∀ a uuid, P (c.disconnectMonitor a uuid) := by
    intro a uuid
    unfold Coordinator.disconnectMonitor
    cases hfind : c.find uuid with
    | none => exact hsame
    | some former => exact hrel uuid former a _ hfind
  cases operation with
  | explicitRelease a uuid generation reason =>
    unfold Coordinator.perform Coordinator.explicitRelease
    dsimp only
    cases hfind : c.find uuid with
    | none => exact hsame
    | some former =>
      dsimp only
      split
      · exact hsame
      · exact hrel uuid former a reason hfind
  | disconnect a uuid | unpair a uuid => exact hdisconnect a uuid
  | _ => exact hreleases.elim

/-! ## Releases of normal roles -/

/-- Monitor roles stay as they are, and their entries with them. -/
structure SparesMonitors (c later : Coordinator) : Prop where
  stays : ∀ uuid client, (uuid, client) ∈ records c.clients → client.remoteMonitor = true →
    uuid ∈ later.clients.map (·.1)
  same : ∀ uuid client kept, (uuid, client) ∈ records c.clients →
    (uuid, kept) ∈ records later.clients → SameMonitor client kept

namespace SparesMonitors

lemma of_modify {update : Client → Client} (hs : Standing watched c)
    (h : Effect watched c later (modifyClient uuid update))
    (hupdate : ∀ client, SameMonitor client (update client)) : SparesMonitors c later where
  stays := fun other client hmem _ => by
    rw [h.modified_keys, ← records_keys]
    exact List.mem_map.mpr ⟨_, hmem, rfl⟩
  same := fun other client kept hmem hkept =>
    h.relates hs SameMonitor.refl hupdate hmem hkept

lemma of_same (hs : Standing watched c) (h : Effect watched c later id) :
    SparesMonitors c later := by
  have hmodified : Effect watched c later (modifyClient "" id) :=
    h.congr (modifyClient_eq_self fun _ _ => rfl).symm
  exact of_modify hs hmodified SameMonitor.refl

lemma trans (first : SparesMonitors c mid) (second : SparesMonitors mid later)
    (hkeys : later.clients.map (·.1) ⊆ mid.clients.map (·.1)) : SparesMonitors c later where
  stays := fun uuid client hmem hremote => by
    have hmid := first.stays uuid client hmem hremote
    rw [← records_keys] at hmid
    obtain ⟨⟨key, between⟩, hbetween, rfl⟩ := List.mem_map.mp hmid
    refine second.stays _ between hbetween ?_
    rw [(first.same _ client between hmem hbetween).remoteMonitor]
    exact hremote
  same := fun uuid client kept hmem hkept => by
    have hmid : uuid ∈ (records mid.clients).map (·.1) := by
      rw [records_keys]
      refine hkeys ?_
      rw [← records_keys]
      exact List.mem_map.mpr ⟨_, hkept, rfl⟩
    obtain ⟨⟨key, between⟩, hbetween, rfl⟩ := List.mem_map.mp hmid
    have hfirst := first.same _ client between hmem hbetween
    have hsecond := second.same _ between kept hbetween hkept
    exact ⟨hsecond.remoteMonitor.trans hfirst.remoteMonitor,
      hsecond.requested.trans hfirst.requested⟩

end SparesMonitors

section

variable (hs : Standing [] c)

include hs

lemma releaseNormal_spares (hfind : c.find uuid = some former)
    (hnormal : former.normalGame = true) (a : NormalReleaseAnswers) :
    SparesMonitors c (c.releaseNormalGameIdentityLocked a uuid) := by
  rcases releaseNormal_effect hs.keys hfind hnormal (fun _ => List.not_mem_nil) a with
    hsame | ⟨-, hended, -⟩ | ⟨hlone, herased, -⟩
  · exact .of_same hs hsame
  · exact .of_modify hs hended fun _ => ⟨rfl, rfl⟩
  · refine ⟨fun other client hmem hremote => ?_, fun other client kept hmem hkept => ?_⟩
    · by_contra hgone
      have hkey : other ∈ c.clients.map (·.1) := by
        rw [← records_keys]
        exact List.mem_map.mpr ⟨_, hmem, rfl⟩
      rw [herased.eq_of_erased hkey hgone] at hmem
      rw [hs.mem hfind hmem] at hremote
      exact absurd hremote (by simpa [Client.record] using hlone)
    · rw [herased.recorded] at hkept
      rw [mem_unique hs.represents.keys hmem (mem_eraseClient.mp hkept).1]
      exact .refl kept

lemma markAll_spares : SparesMonitors c c.markNormalReleases where
  stays := fun uuid client hmem _ => by
    rw [markNormalReleases_keys, ← records_keys]
    exact List.mem_map.mpr ⟨_, hmem, rfl⟩
  same := fun uuid client kept hmem hkept => by
    obtain ⟨origin, horigin, hsame⟩ := mem_markNormalReleases hkept
    rw [mem_unique hs.represents.keys hmem horigin]
    rcases hsame with hsame | ⟨-, hsame⟩
    · rw [show kept = origin from hsame]
      exact .refl origin
    · rw [show kept = _ from hsame]
      exact ⟨rfl, rfl⟩

/-- A release of one normal role: the roles of the client stay, or it passed the gate,
nothing was deferred and no topology refused. -/
lemma release_keepsRoles (protectedOutput : Bool) (a : NormalReleaseAnswers) (token : Nat)
    (hfind : c.find uuid = some former) :
    (c.releaseNormalGameIdentity protectedOutput a uuid token).KeepsRoles uuid former ∨
      (NormalEnded c (c.releaseNormalGameIdentity protectedOutput a uuid token) a ∧
        protectedOutput = false ∧ c.shutdownPending = false ∧
        former.normalCaptureReferences = []) := by
  have hback : ∀ {later : Coordinator},
      later.KeepsRoles uuid { former with normalReleasePending := true } →
        later.KeepsRoles uuid former := by
    rintro later ⟨kept, hkept, ⟨hgame, hmode, htoken⟩, hremote, hrequested⟩
    exact ⟨kept, hkept, ⟨hgame, hmode, htoken⟩, hremote, hrequested⟩
  rcases release_cases protectedOutput a uuid token with hsame |
    ⟨source, _, hsource, hnormal, rfl, hmarks | ⟨hprotected, hpend, hempty, hfound, hreleases⟩⟩
  · rw [hsame]
    exact .inl (Effect.keepsRoles (.refl : Effect [] _ _ id) hfind)
  · cases hsource.symm.trans hfind
    rw [hmarks]
    refine .inl (hback (Effect.keepsRoles (.refl : Effect [] _ _ id) ?_))
    rw [find_modify_self, hfind]
    rfl
  · cases hsource.symm.trans hfind
    have hmarked := (markNormal_moves hs hfind hnormal).standing
    rw [hreleases]
    rcases releaseNormal_effect hmarked.keys hfound hnormal
      (fun _ => List.not_mem_nil) a with hsame | ⟨-, -, hended⟩ | ⟨-, -, hended, -⟩
    · exact .inl (hback (hsame.keepsRoles hfound))
    · exact .inr ⟨⟨hended.begun, hended.applied⟩, hprotected, hpend, hempty⟩
    · exact .inr ⟨⟨hended.begun, hended.applied⟩, hprotected, hpend, hempty⟩

lemma release_spares (protectedOutput : Bool) (a : NormalReleaseAnswers) (uuid : String)
    (token : Nat) :
    SparesMonitors c (c.releaseNormalGameIdentity protectedOutput a uuid token) := by
  have hmark : SparesMonitors c (c.modify uuid fun client =>
      { client with normalReleasePending := true }) :=
    .of_modify hs (.modify (fun client =>
      { client with normalReleasePending := true }) fun _ => rfl) fun _ => ⟨rfl, rfl⟩
  rcases release_cases protectedOutput a uuid token with
    hsame | ⟨former, _, hfind, hnormal, rfl, hmarks | ⟨-, -, hempty, hfound, hreleases⟩⟩
  · rw [hsame]
    exact .of_same hs .refl
  · rw [hmarks]
    exact hmark
  · have hmarked := (markNormal_moves hs hfind hnormal).standing
    rw [hreleases]
    exact hmark.trans (releaseNormal_spares hmarked hfound hnormal a)
      (releaseNormal_moves hmarked hfound hnormal hempty a).1.keys

/-- The loops over normal roles. -/
lemma releaseEach_spares (due : Client → Bool) (answers : String → NormalReleaseAnswers)
    (hdue : ∀ c uuid former, Standing [] c → c.find uuid = some former → due former = true →
      former.normalGame = true)
    (extra : Coordinator → Prop) (hextra : extra c)
    (hstep : ∀ c uuid former, Standing [] c → extra c → c.find uuid = some former →
      due former = true → former.normalCaptureReferences = [] ∧
        extra (c.releaseNormalGameIdentityLocked (answers uuid) uuid)) (uuids : List String) :
    Moves [] c (uuids.foldl (fun c uuid => if (c.find uuid).any due then
        c.releaseNormalGameIdentityLocked (answers uuid) uuid else c) c) ∧
      SparesMonitors c (uuids.foldl (fun c uuid => if (c.find uuid).any due then
        c.releaseNormalGameIdentityLocked (answers uuid) uuid else c) c) := by
  induction uuids generalizing c with
  | nil => exact ⟨.refl hs, .of_same hs .refl⟩
  | cons uuid rest ih =>
    rw [List.foldl_cons]
    cases hfind : c.find uuid with
    | none => exact ih hs hextra
    | some former =>
      cases hpend : due former with
      | false =>
        rw [Option.any_some, hpend, if_neg Bool.false_ne_true]
        exact ih hs hextra
      | true =>
        rw [Option.any_some, hpend, if_pos rfl]
        have hnormal := hdue c uuid former hs hfind hpend
        obtain ⟨hempty, hnext⟩ := hstep c uuid former hs hextra hfind hpend
        have hmoves := (releaseNormal_moves hs hfind hnormal hempty (answers uuid)).1
        obtain ⟨hrest, hspares⟩ := ih hmoves.standing hnext
        exact ⟨hmoves.trans hrest,
          (releaseNormal_spares hs hfind hnormal _).trans hspares hrest.keys⟩

lemma releaseAll_spares (protectedOutput : Bool) (answers : String → NormalReleaseAnswers) :
    SparesMonitors c (c.releaseAllNormalGameIdentities protectedOutput answers) := by
  unfold Coordinator.releaseAllNormalGameIdentities
  have hmarked := markAll_moves hs
  dsimp only
  split
  · exact markAll_spares hs
  next hdeferred =>
  rw [Bool.not_eq_true] at hdeferred
  obtain ⟨hmoves, hspares⟩ := releaseEach_spares hmarked.standing
    (fun client => client.normalGame && client.normalReleasePending) answers
    (fun c uuid former _ _ hdue => (Bool.and_eq_true _ _ ▸ hdue).1) Drained
    (drained_of_not_deferred hdeferred) (fun c uuid former hs hdrained hfind hdue => by
      rw [Bool.and_eq_true] at hdue
      have hempty := hdrained uuid former.record (Standing.record_mem hfind) hdue.2
      exact ⟨hempty, (releaseNormal_moves hs hfind hdue.1 hempty (answers uuid)).2 hdrained⟩)
    (c.markNormalReleases.clients.map (·.1))
  exact (markAll_spares hs).trans hspares hmoves.keys

end

lemma perform_sameNormal (hs : Standing [] c) {operation : Operation}
    (hreleases : operation.ReleasesMonitor) {other : String} {client kept : Client}
    (hmem : (other, client) ∈ records c.clients)
    (hkept : (other, kept) ∈ records (c.perform operation).clients) : SameNormal client kept := by
  refine perform_monitor (P := fun later => ∀ kept, (other, kept) ∈ records later.clients →
    SameNormal client kept) hreleases (fun kept hkept => ?_)
    (fun uuid former a reason hfind kept hkept =>
      releaseMonitor_sameNormal hs hfind a reason hmem hkept) kept hkept
  rw [mem_unique hs.represents.keys hmem hkept]
  exact .refl kept

/-! ## Departures -/

/-- An entry leaves after its display, or where no normal removal is installed and the
client had a normal role alone. -/
def Departs (c later : Coordinator) : Prop :=
  ∀ uuid client, (uuid, client) ∈ records c.clients → uuid ∉ later.clients.map (·.1) →
    DisplayRemoved later uuid ∨
      (later.callbacks.removeOwnedDisplay = false ∧ client.remoteMonitor = false)

lemma SparesMonitors.departs (h : SparesMonitors c later) (hmoves : Moves watched c later) :
    Departs c later := by
  intro uuid client hmem hgone
  have hkey : uuid ∈ c.clients.map (·.1) := by
    rw [← records_keys]
    exact List.mem_map.mpr ⟨_, hmem, rfl⟩
  have hlone : client.remoteMonitor = false := by
    by_contra hremote
    exact hgone (h.stays uuid client hmem (Bool.not_eq_false _ ▸ hremote))
  rcases hmoves.confirmed uuid hkey hgone with hcall | hmissing
  · exact .inl (.inl hcall)
  · exact .inr ⟨hmissing, hlone⟩

lemma Departs.thenSees (first : Departs c mid) (second : SeesRemovals mid later)
    (hframe : Frame mid later) : Departs c later := by
  intro uuid client hmem hgone
  by_cases hmid : uuid ∈ mid.clients.map (·.1)
  · exact .inl (second uuid hmid hgone)
  · rcases first uuid client hmem hmid with hremoved | ⟨hmissing, hlone⟩
    · exact .inl (hremoved.mono hframe)
    · exact .inr ⟨hframe.callbacks ▸ hmissing, hlone⟩

section

variable (hs : Standing [] c)

include hs

lemma drain_departs (hpend : c.shutdownPending = false) (a : DrainAnswers) :
    Departs c (c.releaseDrainedNormalGameIdentities a) := by
  have hrefl : Departs c c := (SparesMonitors.of_same hs .refl).departs (.refl hs)
  unfold Coordinator.releaseDrainedNormalGameIdentities
  rw [hpend, if_neg Bool.false_ne_true]
  split
  · exact hrefl
  obtain ⟨hmoves, hspares⟩ := releaseEach_spares hs
    (fun client => client.normalReleasePending && client.normalCaptureReferences.isEmpty) a.normal
    (fun c uuid former hs hfind hdue =>
      (hs.represents.sound uuid former.record (Standing.record_mem hfind)).pending
        (Bool.and_eq_true _ _ ▸ hdue).1) (fun _ => True) trivial
    (fun c uuid former _ _ _ hdue =>
      ⟨List.isEmpty_iff.mp (Bool.and_eq_true _ _ ▸ hdue).2, trivial⟩) (c.clients.map (·.1))
  dsimp only
  generalize (c.clients.map (·.1)).foldl (fun c uuid => if (c.find uuid).any fun client =>
      client.normalReleasePending && client.normalCaptureReferences.isEmpty then
        c.releaseNormalGameIdentityLocked (a.normal uuid) uuid
      else c) c = drained at hmoves hspares ⊢
  obtain ⟨hlast, hsees⟩ :=
    releaseEach_sees hmoves.standing a.monitor (drained.clients.map (·.1))
  exact (hspares.departs hmoves).thenSees hsees hlast.frame

lemma perform_departs {operation : Operation} (hreleases : operation.Releases)
    (hfinal : ¬ c.Finalizes operation) :
    ∀ uuid client, (uuid, client) ∈ records c.clients →
      uuid ∉ (c.perform operation).clients.map (·.1) → DisplayRemoved (c.perform operation) uuid ∨
        ((c.perform operation).callbacks.removeOwnedDisplay = false ∧
          client.remoteMonitor = false ∧ operation.ReleasesNormal) := by
  intro uuid client hmem hgone
  have hnormal : operation.ReleasesNormal → Departs c (c.perform operation) →
      DisplayRemoved (c.perform operation) uuid ∨
        ((c.perform operation).callbacks.removeOwnedDisplay = false ∧
          client.remoteMonitor = false ∧ operation.ReleasesNormal) := by
    intro hnormal hdeparts
    refine (hdeparts uuid client hmem hgone).imp_right fun ⟨hmissing, hlone⟩ => ?_
    exact ⟨hmissing, hlone, hnormal⟩
  by_cases hmon : operation.ReleasesMonitor
  · have hkey : uuid ∈ c.clients.map (·.1) := by
      rw [← records_keys]
      exact List.mem_map.mpr ⟨_, hmem, rfl⟩
    have hsees : SeesRemovals c (c.perform operation) :=
      perform_monitor hmon (SeesRemovals.refl c) fun uuid former a reason hfind =>
        releaseMonitor_sees hs hfind a reason
    exact .inl (hsees uuid hkey hgone)
  cases operation with
  | release protectedOutput a uuid token =>
    exact hnormal trivial ((release_spares hs protectedOutput a uuid token).departs
      (release_moves hs protectedOutput a uuid token))
  | releaseAll protectedOutput answers =>
    exact hnormal trivial ((releaseAll_spares hs protectedOutput answers).departs
      (releaseAll_moves hs protectedOutput answers))
  | releaseDrained a =>
    exact hnormal trivial (drain_departs hs (Bool.not_eq_true _ ▸ hfinal) a)
  | releaseIdle appRunning captureRuntimeOwned protectedOutput answers a =>
    refine hnormal trivial ?_
    unfold Coordinator.perform Coordinator.releaseIdleNormalGameIdentities
    dsimp only
    split
    · exact (releaseAll_spares hs protectedOutput answers).departs
        (releaseAll_moves hs protectedOutput answers)
    · exact drain_departs hs (Bool.not_eq_true _ ▸ hfinal) a
  | shutdown preserveOwnedDisplays a =>
    cases preserveOwnedDisplays with
    | false => exact absurd trivial hfinal
    | true => exact hreleases.elim
  | explicitRelease | disconnect | unpair => exact absurd trivial hmon
  | _ => exact hreleases.elim

end

lemma removeManaged_entries (removed : String → Bool) {retained : Clients} (uuids : List String)
    (hstart : ∀ entry ∈ c.clients, entry ∈ retained) :
    ∀ entry ∈ (uuids.foldl (Coordinator.removeManaged removed retained) c).clients,
      entry ∈ retained := by
  induction uuids generalizing c with
  | nil => exact hstart
  | cons uuid rest ih =>
    refine ih fun entry hmem => ?_
    unfold Coordinator.removeManaged at hmem
    split at hmem
    · exact hstart entry hmem
    dsimp only at hmem
    split at hmem
    · exact hstart entry hmem
    cases hlookup : retained.lookup uuid with
    | none =>
      rw [hlookup] at hmem
      exact hstart entry hmem
    | some client =>
      rw [hlookup] at hmem
      rcases List.mem_append.mp hmem with hmem | hmem
      · exact hstart entry hmem
      · rw [List.mem_singleton.mp hmem]
        exact mem_of_lookup hlookup

lemma finalizeShutdown_entries (a : ShutdownAnswers) :
    ∀ entry ∈ (c.finalizeShutdownLocked a).clients, entry ∈ c.clients := by
  unfold Coordinator.finalizeShutdownLocked
  intro entry hmem
  split at hmem
  · exact hmem
  split at hmem
  · exact hmem
  split at hmem
  · cases hmem
  split at hmem
  · exact hmem
  dsimp only at hmem
  split at hmem
  · exact hmem
  refine removeManaged_entries a.removed c.managedIds (fun entry hentry => ?_) entry hmem
  split at hentry <;> cases hentry

lemma shutdown_same (hs : Standing [] c) (a : ShutdownAnswers) {other : String}
    {client kept : Client} (hmem : (other, client) ∈ records c.clients)
    (hkept : (other, kept) ∈ records (c.shutdown false a).clients) :
    SameNormal client kept ∧ SameMonitor client kept := by
  unfold Coordinator.shutdown at hkept
  rw [if_neg Bool.false_ne_true] at hkept
  obtain ⟨source, hsource, hrecord⟩ := mem_records.mp hkept
  split at hsource
  · obtain ⟨⟨key, origin⟩, horigin, heq⟩ := List.mem_map.mp hsource
    have hkey : key = other := by
      split at heq <;> exact congrArg Prod.fst heq
    subst hkey
    rw [mem_unique hs.represents.keys hmem (mem_records.mpr ⟨origin, horigin, rfl⟩)]
    dsimp only at heq hrecord
    subst hrecord
    split at heq <;> cases heq <;> exact ⟨⟨rfl, rfl, rfl⟩, rfl, rfl⟩
  · have hentry := finalizeShutdown_entries a (other, source) hsource
    rw [mem_unique hs.represents.keys hmem (mem_records.mpr ⟨source, hentry, rfl⟩)]
    dsimp only at hrecord
    subst hrecord
    exact ⟨.refl _, .refl _⟩

lemma explicitRelease_failed {a : MonitorReleaseAnswers} {generation : Nat} {reason : String}
    (h : (c.explicitRelease a uuid generation reason).1 = false) :
    ∃ kept, (uuid, kept) ∈ (c.explicitRelease a uuid generation reason).2.clients ∧
      kept.remoteMonitor = true := by
  unfold Coordinator.explicitRelease at h ⊢
  cases hfind : c.find uuid with
  | none =>
    rw [hfind] at h
    cases h
  | some former =>
    rw [hfind] at h
    dsimp only at h ⊢
    split at h
    · cases h
    next hcur =>
    rw [if_neg hcur]
    dsimp only at h ⊢
    cases hafter : (c.releaseLocked a uuid reason).find uuid with
    | none =>
      rw [hafter] at h
      cases h
    | some kept =>
      have hremote : kept.remoteMonitor = true := by
        rw [hafter] at h
        simpa using h
      refine ⟨kept, ?_, hremote⟩
      have howning : kept.owning = true := by
        rw [Client.owning, hremote, Bool.or_true]
      unfold Coordinator.eraseReleased
      rw [hafter, Option.any_some, howning]
      exact mem_of_lookup hafter

lemma givesUp_uncalled {operation : Operation} :
    ({ c with calls := [] } : Coordinator).GivesUp operation ↔ c.GivesUp operation := by
  cases operation with
  | rollback begun protectedOutput uuid token =>
    show (Coordinator.rollbackNormalGameIdentity _ begun protectedOutput uuid token).1 = true ↔
      (c.rollbackNormalGameIdentity begun protectedOutput uuid token).1 = true
    unfold Coordinator.rollbackNormalGameIdentity
    have hfind : ({ c with calls := [] } : Coordinator).find uuid = c.find uuid := rfl
    have hdeferred : ({ c with calls := [] } : Coordinator).displayMutationDeferred
        protectedOutput = c.displayMutationDeferred protectedOutput := rfl
    rw [hfind]
    split
    · rfl
    cases c.find uuid with
    | none => rfl
    | some client =>
      dsimp only
      rw [hdeferred]
      split
      · rfl
      split
      · rfl
      split <;> rfl
  | shutdown preserveOwnedDisplays a => cases preserveOwnedDisplays <;> rfl
  | _ => rfl

lemma step_keys_of_not_plain {operation : Operation} (hadmits : c.Admits operation)
    (hplain : ¬ operation.Plain) (hholds : ¬ c.GivesUp operation)
    (hmem : uuid ∈ c.clients.map (·.1)) : uuid ∈ (c.step operation).clients.map (·.1) := by
  cases operation with
  | retain key token =>
    have hkeys : (c.step (.retain key token)).clients.map (·.1) = c.clients.map (·.1) := by
      rcases retain_cases { c with calls := [] } key token with hsame | ⟨-, -, heq⟩
      · exact congrArg (fun d : Coordinator => d.clients.map (·.1)) hsame
      · refine (congrArg (fun d : Coordinator => d.clients.map (·.1)) heq).trans ?_
        show (recountEntry key (retainReference token) c.clients).map (·.1) = _
        rw [recountEntry, modifyClient_keys]
    rw [hkeys]
    exact hmem
  | dropCapture key token =>
    show uuid ∈ (recountEntry key (dropReference token) c.clients).map (·.1)
    rw [recountEntry, modifyClient_keys]
    exact hmem
  | rehash clients => exact (List.Perm.map _ hadmits).mem_iff.mpr hmem
  | shutdown preserveOwnedDisplays a =>
    cases preserveOwnedDisplays with
    | false => exact absurd trivial hplain
    | true => exact absurd trivial hholds
  | _ => exact absurd trivial hplain

/-- An entry leaves only after a removal of its display that returned true, or where no
removal is installed; without `remove_owned_display` a client with a normal role alone
also leaves after a normal release, and every client in the shutdown transaction. A
client that a release leaves behind has one of its roles, and its roles are former ones
with their modes and its token; a release of one role leaves the other alone, a shutdown
leaves both. Each release of one role, from any state that keeps the representation,
keeps both roles or has passed the gate, deferred nothing and met no refused topology
(a monitor role may end over one where the display can be terminated); and a client
that an explicit release did not release has the roles it had. -/
theorem ownership_kept_until_removal {operation : Operation}
    (hreach : coordinatorSystem.Reachable c) (hadmits : c.Admits operation) :
    (¬ c.GivesUp operation → ∀ uuid client, (uuid, client) ∈ c.clients →
      uuid ∉ (c.step operation).clients.map (·.1) → DisplayRemoved (c.step operation) uuid ∨
          ((c.step operation).callbacks.removeOwnedDisplay = false ∧
            ((client.remoteMonitor = false ∧ operation.ReleasesNormal) ∨ c.Finalizes operation))) ∧
    (∀ uuid client kept, (uuid, client) ∈ c.clients → (uuid, kept) ∈ (c.step operation).clients →
      (operation.Releases →
        (kept.normalGame = true ∨ kept.remoteMonitor = true) ∧ RolesKept client kept) ∧
      (operation.ReleasesMonitor → SameNormal client kept) ∧
      (∀ protectedOutput a target token, operation = .release protectedOutput a target token →
        SameMonitor client kept) ∧
      (∀ protectedOutput answers, operation = .releaseAll protectedOutput answers →
        SameMonitor client kept) ∧
      (∀ a, operation = .shutdown false a → SameNormal client kept ∧ SameMonitor client kept)) ∧
    (∀ d uuid former, Standing [] d → d.find uuid = some former → (∀ protectedOutput a token,
        (d.releaseNormalGameIdentity protectedOutput a uuid token).KeepsRoles uuid former ∨
          (NormalEnded d (d.releaseNormalGameIdentity protectedOutput a uuid token) a ∧
            protectedOutput = false ∧ d.shutdownPending = false ∧
            former.normalCaptureReferences = [])) ∧
      (∀ a, former.normalGame = true →
        (d.releaseNormalGameIdentityLocked a uuid).KeepsRoles uuid former ∨
          NormalEnded d (d.releaseNormalGameIdentityLocked a uuid) a) ∧
      ∀ a reason, ((d.releaseLocked a uuid reason).eraseReleased uuid).KeepsRoles uuid former ∨
        MonitorEnded d ((d.releaseLocked a uuid reason).eraseReleased uuid) a uuid former) ∧
    (∀ a uuid client generation reason, operation = .explicitRelease a uuid generation reason →
      (uuid, client) ∈ c.clients →
      (({ c with calls := [] } : Coordinator).explicitRelease a uuid generation reason).1 = false →
        (c.step operation).KeepsRoles uuid client) := by
  obtain ⟨hs, -⟩ := reachable_standing hreach
  have hstart := hs.uncalled
  have hrecord : ∀ {d : Coordinator} {uuid client}, (uuid, client) ∈ d.clients →
      (uuid, client.record) ∈ records d.clients := fun hmem => mem_records.mpr ⟨_, hmem, rfl⟩
  have hroles : operation.Releases → ∀ uuid client kept, (uuid, client) ∈ c.clients →
      (uuid, kept) ∈ (c.step operation).clients →
        (kept.normalGame = true ∨ kept.remoteMonitor = true) ∧ RolesKept client kept := by
    intro hreleases uuid client kept hclient hkept
    have hmoves := perform_moves hstart hreleases
    have howned := (hmoves.standing.represents.sound uuid _ (hrecord hkept)).owned
    rw [Client.owning, Bool.or_eq_true] at howned
    obtain ⟨hnormal, hmon⟩ := hmoves.roles uuid _ _ (hrecord hclient) (hrecord hkept)
    exact ⟨howned, hnormal, hmon⟩
  have hnormals : operation.ReleasesMonitor → ∀ uuid client kept, (uuid, client) ∈ c.clients →
      (uuid, kept) ∈ (c.step operation).clients → SameNormal client kept := by
    intro hreleases uuid client kept hclient hkept
    obtain ⟨hnormal, hmode, htoken⟩ := perform_sameNormal hstart hreleases (hrecord hclient)
      (hrecord hkept)
    exact ⟨hnormal, hmode, htoken⟩
  refine ⟨fun hholds uuid client hmem hgone => ?_, fun uuid client kept hclient hkept => ?_,
    fun d uuid former hs hfind => ?_, ?_⟩
  · have hkey : uuid ∈ c.clients.map (·.1) := List.mem_map.mpr ⟨_, hmem, rfl⟩
    by_cases hplain : operation.Plain
    swap
    · exact absurd (step_keys_of_not_plain hadmits hplain hholds hkey) hgone
    by_cases hreleases : operation.Releases
    swap
    · refine absurd ((perform_performs hstart hplain).stays ?_ hkey) hgone
      exact not_or.mpr ⟨fun hgives => hholds (givesUp_uncalled.mp hgives), hreleases⟩
    by_cases hfinal : c.Finalizes operation
    · rcases (perform_moves hstart hreleases).confirmed uuid hkey hgone with hcall | hmissing
      · exact .inl (.inl hcall)
      · exact .inr ⟨hmissing, .inr hfinal⟩
    · have hfinal' : ¬ ({ c with calls := [] } : Coordinator).Finalizes operation := by
        cases operation <;> exact hfinal
      refine (perform_departs hstart hreleases hfinal' uuid _ (hrecord hmem) hgone).imp_right ?_
      rintro ⟨hmissing, hlone, hnormal⟩
      exact ⟨hmissing, .inl ⟨hlone, hnormal⟩⟩
  · refine ⟨fun hreleases => hroles hreleases uuid client kept hclient hkept,
      fun hreleases => hnormals hreleases uuid client kept hclient hkept, ?_, ?_, ?_⟩
    · rintro protectedOutput a target token rfl
      obtain ⟨hmon, hmode⟩ := (release_spares hstart protectedOutput a target token).same
        uuid _ _ (hrecord hclient) (hrecord hkept)
      exact ⟨hmon, hmode⟩
    · rintro protectedOutput answers rfl
      obtain ⟨hmon, hmode⟩ := (releaseAll_spares hstart protectedOutput answers).same
        uuid _ _ (hrecord hclient) (hrecord hkept)
      exact ⟨hmon, hmode⟩
    · rintro a rfl
      obtain ⟨⟨hnormal, hmode, htoken⟩, hmon, hmode'⟩ := shutdown_same hstart a
        (hrecord hclient) (hrecord hkept)
      exact ⟨⟨hnormal, hmode, htoken⟩, hmon, hmode'⟩
  · refine ⟨fun protectedOutput a token => release_keepsRoles hs protectedOutput a token
      hfind, fun a hnormal => ?_, fun a reason => releaseMonitor_keepsRoles hs hfind a
      reason⟩
    rcases releaseNormal_effect hs.keys hfind hnormal (fun _ => List.not_mem_nil) a with
      hsame | ⟨-, -, hended⟩ | ⟨-, -, hended, -⟩
    · exact .inl (hsame.keepsRoles hfind)
    · exact .inr hended
    · exact .inr hended
  · rintro a uuid client generation reason rfl hclient hfailed
    obtain ⟨kept, hkept, hremote⟩ := explicitRelease_failed hfailed
    obtain ⟨hformer, hmode⟩ := (hroles trivial uuid client kept hclient hkept).2.monitor hremote
    exact ⟨kept, hkept, hnormals trivial uuid client kept hclient hkept,
      hremote.trans hformer.symm, hmode⟩

end

/-- The removal of the display confirms a release, and a refused topology keeps the
client. -/
theorem ownership_kept_until_removal_refused : (∃ clients,
      .removed "tablet" clients true ∈ (paired.step (.release false {} "tablet" 1)).calls ∨
        .terminated "tablet" clients true ∈ (paired.step (.release false {} "tablet" 1)).calls) ∧
      ∃ former, paired.find "tablet" = some former ∧ (paired.step
        (.release false { applied := false } "tablet" 1)).KeepsRoles "tablet" former := by
  obtain ⟨former, hfind⟩ := Option.isSome_iff_exists.mp
    (show (paired.find "tablet").isSome = true by decide)
  refine ⟨?_, former, hfind, ?_⟩
  · rcases (@ownership_kept_until_removal paired (.release false {} "tablet" 1)
      paired_reachable.reachable trivial).1 id "tablet" former (mem_of_lookup hfind) (by decide) with
      (hcall | ⟨hmissing, -⟩) | ⟨hmissing, -⟩
    · exact hcall
    · exact absurd hmissing (by decide)
    · exact absurd hmissing (by decide)
  · rcases ((@ownership_kept_until_removal paired (.release false {} "tablet" 1)
      paired_reachable.reachable trivial).2.2.1 { paired with calls := [] } "tablet" former
      (reachable_standing paired_reachable.reachable).1.uncalled hfind).1 false
      { applied := false } 1 with hkept | ⟨⟨-, happlied⟩, -⟩
    · exact hkept
    · refine absurd (congrArg List.length happlied) ?_
      decide

/-- A reservation where only `terminate_owned_display` can remove a display. -/
def terminalRun : List Operation :=
  [.setRuntimeCallbacks { applyComposedTopology := true, terminateOwnedDisplay := true },
    .reserve {} "tablet" "Tablet" {}]

def terminal : Coordinator := coordinatorSystem.run coordinatorSystem.init terminalRun

/-- Normal releases and the shutdown transaction ask `remove_owned_display` only, so that
the entry leaves without a removal although `terminate_owned_display` is installed. -/
theorem released_without_removal :
    (¬ ∀ (c : Coordinator) (operation : Operation), coordinatorSystem.Reachable c →
      c.Admits operation → ¬ c.GivesUp operation → ∀ uuid ∈ c.clients.map (·.1),
        uuid ∉ (c.step operation).clients.map (·.1) → DisplayRemoved (c.step operation) uuid) ∧
    ¬ ∀ (c : Coordinator) (a : ShutdownAnswers), coordinatorSystem.Reachable c →
      ∀ uuid ∈ c.clients.map (·.1), uuid ∉ (c.step (.shutdown false a)).clients.map (·.1) →
        DisplayRemoved (c.step (.shutdown false a)) uuid := by
  have hreach : coordinatorSystem.Reachable terminal :=
    System.Segment.of_follows .refl (show coordinatorSystem.Follows _ _ terminalRun from
      ⟨trivial, trivial, trivial, trivial, trivial⟩)
  have hnone : ∀ operation : Operation, (terminal.step operation).calls.all (fun call =>
      match call with
      | .removed _ _ _ | .terminated _ _ _ => false
      | _ => true) = true →
      (terminal.step operation).callbacks.terminateOwnedDisplay = true →
      ¬ DisplayRemoved (terminal.step operation) "tablet" := by
    rintro operation hcalls hinstalled (⟨clients, hcall | hcall⟩ | ⟨-, hmissing⟩)
    · cases List.all_eq_true.mp hcalls _ hcall
    · cases List.all_eq_true.mp hcalls _ hcall
    · rw [hinstalled] at hmissing
      cases hmissing
  refine ⟨fun h => ?_, fun h => ?_⟩
  · exact hnone (.release false {} "tablet" 1) (by decide) (by decide)
      (h terminal (.release false {} "tablet" 1) hreach trivial id "tablet" (by decide) (by decide))
  · exact hnone (.shutdown false {}) (by decide) (by decide)
      (h terminal {} hreach "tablet" (by decide) (by decide))

end Vibeshine.RemoteDisplay
