import Vibeshine.RemoteDisplay.Ownership

/-! # Releases keep what they do not remove

Every release, and the shutdown transaction, moves the coordinator in a way that
composes: entries keep their invariant, an entry with capture references keeps its
token, an entry disappears only after its display, and the roles that remain are as
they were.
-/

namespace Vibeshine.RemoteDisplay

open List

/-- The roles of the later entry are roles of the former one, with their requested
modes and the reservation token. -/
structure RolesKept (former later : Client) : Prop where
  normal : later.normalGame = true → former.normalGame = true ∧
    later.normalRequestedMode = former.normalRequestedMode ∧
    later.normalGameToken = former.normalGameToken
  monitor : later.remoteMonitor = true → former.remoteMonitor = true ∧
    later.monitorRequestedMode = former.monitorRequestedMode

lemma RolesKept.rfl {client : Client} : RolesKept client client :=
  ⟨fun h => ⟨h, by rfl, by rfl⟩, fun h => ⟨h, by rfl⟩⟩

lemma RolesKept.trans {former mid later : Client} (first : RolesKept former mid)
    (second : RolesKept mid later) : RolesKept former later := by
  refine ⟨fun h => ?_, fun h => ?_⟩
  · obtain ⟨hmid, hmode, htoken⟩ := second.normal h
    obtain ⟨hformer, hmode', htoken'⟩ := first.normal hmid
    exact ⟨hformer, hmode.trans hmode', htoken.trans htoken'⟩
  · obtain ⟨hmid, hmode⟩ := second.monitor h
    obtain ⟨hformer, hmode'⟩ := first.monitor hmid
    exact ⟨hformer, hmode.trans hmode'⟩

/-- The invariant of the entries, and of the watched handles. -/
structure Standing (watched : List (String × Nat)) (c : Coordinator) : Prop where
  represents : Represents c.handles c.nextNormalGameToken (records c.clients)
  held : Held watched (records c.clients)

def Retains (c later : Coordinator) : Prop :=
  ∀ uuid client, (uuid, client) ∈ records c.clients → client.normalCaptureReferences ≠ [] →
    ∃ kept, (uuid, kept) ∈ records later.clients ∧ kept.normalGameToken = client.normalGameToken ∧
      kept.normalCaptureReferences = client.normalCaptureReferences

lemma Retains.held {watched : List (String × Nat)} {c later : Coordinator} (h : Retains c later)
    (hheld : Held watched (records c.clients)) : Held watched (records later.clients) := by
  intro uuid token hwatched
  obtain ⟨client, hmem, hlive⟩ := hheld uuid token hwatched
  obtain ⟨kept, hkept, -, hsame⟩ := h uuid client hmem hlive
  exact ⟨kept, hkept, by rw [hsame]; exact hlive⟩

lemma Standing.unwatched {watched : List (String × Nat)} {c : Coordinator} {uuid : String}
    {client : Client} (h : Standing watched c) (hmem : (uuid, client) ∈ records c.clients)
    (hempty : client.normalCaptureReferences = []) (token : Nat) : (uuid, token) ∉ watched := by
  intro hwatched
  obtain ⟨holder, hholder, hlive⟩ := h.held uuid token hwatched
  rw [mem_unique h.represents.keys hholder hmem] at hlive
  exact hlive hempty

/-- What a release does to the coordinator. -/
structure Moves (watched : List (String × Nat)) (c later : Coordinator) : Prop where
  frame : Frame c later
  lawful : LawfulCalls watched c.calls → LawfulCalls watched later.calls
  standing : Standing watched later
  retains : Retains c later
  keys : later.clients.map (·.1) ⊆ c.clients.map (·.1)
  confirmed : ∀ uuid ∈ c.clients.map (·.1), uuid ∉ later.clients.map (·.1) →
    RemovalConfirmed later uuid
  roles : ∀ uuid client kept, (uuid, client) ∈ records c.clients →
    (uuid, kept) ∈ records later.clients → RolesKept client kept

section

variable {watched : List (String × Nat)} {c later : Coordinator} {uuid : String}

lemma Effect.retains {update : Client → Client}
    (h : Effect watched c later (modifyClient uuid update))
    (hreferences : ∀ client, (uuid, client) ∈ records c.clients →
      (update client).normalCaptureReferences = client.normalCaptureReferences)
    (htoken : ∀ client, (uuid, client) ∈ records c.clients → client.normalCaptureReferences ≠ [] →
        (update client).normalGameToken = client.normalGameToken) : Retains c later := by
  intro other client hmem hlive
  rw [h.recorded]
  by_cases hother : other = uuid
  · subst hother
    exact ⟨update client, mem_modifyClient.mpr (.inr ⟨client, hmem, rfl⟩),
      htoken client hmem hlive, hreferences client hmem⟩
  · exact ⟨client, mem_modifyClient.mpr (.inl ⟨hmem, hother⟩), rfl, rfl⟩

lemma Effect.retains_of_erase (h : Effect watched c later (eraseClient uuid))
    (hempty : ∀ client, (uuid, client) ∈ records c.clients →
      client.normalCaptureReferences = []) : Retains c later := by
  intro other client hmem hlive
  have hother : other ≠ uuid := by
    rintro rfl
    exact hlive (hempty client hmem)
  refine ⟨client, ?_, rfl, rfl⟩
  rw [h.recorded]
  exact mem_eraseClient.mpr ⟨hmem, hother⟩

lemma Effect.eq_of_erased (h : Effect watched c later (eraseClient uuid)) {other : String}
    (hmem : other ∈ c.clients.map (·.1)) (hgone : other ∉ later.clients.map (·.1)) :
    other = uuid := by
  by_contra hother
  rw [← records_keys] at hmem
  obtain ⟨entry, hentry, rfl⟩ := mem_map.mp hmem
  refine hgone ?_
  rw [← records_keys, h.recorded]
  exact mem_map.mpr ⟨entry, mem_eraseClient.mpr ⟨hentry, hother⟩, rfl⟩

end

namespace Moves

variable {watched : List (String × Nat)} {c mid later : Coordinator} {uuid : String}

lemma trans (first : Moves watched c mid) (second : Moves watched mid later) :
    Moves watched c later where
  frame := first.frame.trans second.frame
  lawful := second.lawful ∘ first.lawful
  standing := second.standing
  retains := fun uuid client hmem hreferences => by
    obtain ⟨kept, hkept, htoken, hsame⟩ := first.retains uuid client hmem hreferences
    obtain ⟨last, hlast, htoken', hsame'⟩ :=
      second.retains uuid kept hkept (by rw [hsame]; exact hreferences)
    exact ⟨last, hlast, htoken'.trans htoken, hsame'.trans hsame⟩
  keys := fun uuid hmem => first.keys (second.keys hmem)
  confirmed := fun uuid hmem hgone => by
    by_cases hmid : uuid ∈ mid.clients.map (·.1)
    · exact second.confirmed uuid hmid hgone
    · exact (first.confirmed uuid hmem hmid).mono second.frame
  roles := fun uuid client kept hmem hkept => by
    have hmid : uuid ∈ (records mid.clients).map (·.1) := by
      rw [records_keys]
      refine second.keys ?_
      rw [← records_keys]
      exact mem_map.mpr ⟨_, hkept, rfl⟩
    obtain ⟨⟨key, between⟩, hbetween, rfl⟩ := mem_map.mp hmid
    exact (first.roles _ client between hmem hbetween).trans
      (second.roles _ between kept hbetween hkept)

lemma length_le (h : Moves watched c later) : later.clients.length ≤ c.clients.length := by
  have hkeys := h.standing.represents.keys
  rw [records_keys] at hkeys
  have := (subperm_of_subset hkeys h.keys).length_le
  simpa using this

section

variable (hs : Standing watched c)

include hs

lemma of_same (h : Effect watched c later id) : Moves watched c later where
  frame := h.frame
  lawful := h.lawful
  standing := by
    refine ⟨?_, ?_⟩
    · rw [h.frame.handles, h.frame.nextToken, h.recorded]
      exact hs.represents
    · rw [h.recorded]
      exact hs.held
  retains := fun uuid client hmem _ => ⟨client, by rw [h.recorded]; exact hmem, rfl, rfl⟩
  keys := by
    rw [h.keys]
    exact List.Subset.refl _
  confirmed := fun uuid hmem hgone => by
    rw [h.keys] at hgone
    exact absurd hmem hgone
  roles := fun uuid client kept hmem hkept => by
    rw [h.recorded] at hkept
    rw [mem_unique hs.represents.keys hmem hkept]
    exact .rfl

lemma of_modify {update : Client → Client} (h : Effect watched c later (modifyClient uuid update))
    (hsound : ∀ client, (uuid, client) ∈ records c.clients →
      Sound c.handles c.nextNormalGameToken uuid (update client))
    (hroles : ∀ client, (uuid, client) ∈ records c.clients → RolesKept client (update client))
    (hreferences : ∀ client, (uuid, client) ∈ records c.clients →
      (update client).normalCaptureReferences = client.normalCaptureReferences)
    (htoken : ∀ client, (uuid, client) ∈ records c.clients → client.normalCaptureReferences ≠ [] →
        (update client).normalGameToken = client.normalGameToken) : Moves watched c later where
  frame := h.frame
  lawful := h.lawful
  standing := by
    refine ⟨?_, (h.retains hreferences htoken).held hs.held⟩
    rw [h.frame.handles, h.frame.nextToken, h.recorded]
    refine hs.represents.modifyClient hsound fun client hmem hnormal => ?_
    obtain ⟨hbefore, -, hsame⟩ := (hroles client hmem).normal hnormal
    exact ⟨hbefore, hsame⟩
  retains := h.retains hreferences htoken
  keys := by
    rw [← records_keys, h.recorded, modifyClient_keys, records_keys]
    exact List.Subset.refl _
  confirmed := fun other hmem hgone => by
    rw [← records_keys, h.recorded, modifyClient_keys, records_keys] at hgone
    exact absurd hmem hgone
  roles := fun other client kept hmem hkept => by
    rw [h.recorded] at hkept
    rcases mem_modifyClient.mp hkept with ⟨hkept, -⟩ | ⟨source, hsource, heq⟩
    · rw [mem_unique hs.represents.keys hmem hkept]
      exact .rfl
    · cases heq
      rw [mem_unique hs.represents.keys hmem hsource]
      exact hroles source hsource

lemma of_erase (h : Effect watched c later (eraseClient uuid))
    (hempty : ∀ client, (uuid, client) ∈ records c.clients → client.normalCaptureReferences = [])
    (hconf : RemovalConfirmed later uuid) : Moves watched c later where
  frame := h.frame
  lawful := h.lawful
  standing := by
    refine ⟨?_, (h.retains_of_erase hempty).held hs.held⟩
    rw [h.frame.handles, h.frame.nextToken, h.recorded]
    exact hs.represents.eraseClient uuid
  retains := h.retains_of_erase hempty
  keys := by
    intro other hmem
    rw [← records_keys, h.recorded] at hmem
    obtain ⟨entry, hentry, rfl⟩ := mem_map.mp hmem
    rw [← records_keys]
    exact mem_map.mpr ⟨entry, (mem_eraseClient.mp hentry).1, rfl⟩
  confirmed := fun other hmem hgone => by
    rw [h.eq_of_erased hmem hgone]
    exact hconf
  roles := fun other client kept hmem hkept => by
    rw [h.recorded] at hkept
    rw [mem_unique hs.represents.keys hmem (mem_eraseClient.mp hkept).1]
    exact .rfl

lemma refl : Moves watched c c := of_same hs .refl

end

lemma foldl {step : Coordinator → String → Coordinator} (extra : Coordinator → Prop)
    (hstep : ∀ c uuid, Standing watched c → extra c →
      Moves watched c (step c uuid) ∧ extra (step c uuid))
    (uuids : List String) (hs : Standing watched c) (hextra : extra c) :
    Moves watched c (uuids.foldl step c) := by
  induction uuids generalizing c with
  | nil => exact refl hs
  | cons uuid rest ih =>
    obtain ⟨hmoves, hkept⟩ := hstep c uuid hs hextra
    exact hmoves.trans (ih hmoves.standing hkept)

end Moves

/-! ## The release routines -/

section

variable {watched : List (String × Nat)} {c : Coordinator} {uuid : String} {former : Client}

lemma Standing.keys (h : Standing watched c) : (c.clients.map (·.1)).Nodup := by
  rw [← records_keys]
  exact h.represents.keys

lemma Standing.mem (h : Standing watched c) (hfind : c.find uuid = some former)
    {client : Client} (hmem : (uuid, client) ∈ records c.clients) : client = former.record :=
  (mem_records_iff_find h.keys hfind).mp hmem

lemma Standing.record_mem (hfind : c.find uuid = some former) :
    (uuid, former.record) ∈ records c.clients :=
  mem_records.mpr ⟨former, mem_of_lookup hfind, rfl⟩

def Drained (c : Coordinator) : Prop :=
  ∀ uuid client, (uuid, client) ∈ records c.clients → client.normalReleasePending = true →
    client.normalCaptureReferences = []

lemma drained_of_not_deferred {protectedOutput : Bool}
    (h : c.displayMutationDeferred protectedOutput = false) : Drained c := by
  intro uuid client hmem hpend
  obtain ⟨source, hsource, rfl⟩ := mem_records.mp hmem
  simp only [Coordinator.displayMutationDeferred, Bool.or_eq_false_iff, any_eq_false] at h
  have hreferences := h.2 (uuid, source) hsource
  show source.normalCaptureReferences = []
  simpa [show source.normalReleasePending = true from hpend] using hreferences

lemma endNormal_moves (hs : Standing watched c) (hfind : c.find uuid = some former)
    (hremote : former.remoteMonitor = true) (hempty : former.normalCaptureReferences = [])
    {later : Coordinator} (hended : Effect watched c later (modifyClient uuid endNormal)) :
    Moves watched c later ∧ (Drained c → Drained later) := by
  refine ⟨.of_modify hs hended (fun client hmem => ?_) (fun client hmem => ?_)
    (fun client _ => rfl) fun client hmem hlive => ?_, fun hdrained other client hmem => ?_⟩
  · have hsound := hs.represents.sound uuid client hmem
    rw [hs.mem hfind hmem] at hsound ⊢
    have hcount : c.handles.count (uuid, 0) = 0 :=
      count_eq_zero.mpr fun hhandle => (hs.represents.handles _ hhandle).1 rfl
    exact {
      owned := by simp [endNormal, Coordinator.clearNormal, Client.owning, Client.record, hremote]
      token := by simp [endNormal, Coordinator.clearNormal]
      requested := by simp [endNormal, Coordinator.clearNormal]
      pending := fun hpend => by cases hpend
      ready := hsound.ready
      references := by
        rw [show (endNormal former.record).normalGameToken = 0 from rfl, hcount]
        exact hempty
      minted := zero_le }
  · exact ⟨fun h => (by cases h), fun h => ⟨h, rfl⟩⟩
  · rw [hs.mem hfind hmem] at hlive
    exact absurd hempty hlive
  · rw [hended.recorded] at hmem
    rcases mem_modifyClient.mp hmem with ⟨hmem, -⟩ | ⟨source, hsource, heq⟩
    · exact hdrained other client hmem
    · cases heq
      intro hpend
      cases hpend

lemma releaseNormal_moves (hs : Standing watched c) (hfind : c.find uuid = some former)
    (hnormal : former.normalGame = true) (hempty : former.normalCaptureReferences = [])
    (a : NormalReleaseAnswers) : Moves watched c (c.releaseNormalGameIdentityLocked a uuid) ∧
      (Drained c → Drained (c.releaseNormalGameIdentityLocked a uuid)) := by
  have hrecord := Standing.record_mem hfind
  have hfree := hs.unwatched hrecord hempty
  rcases releaseNormal_effect hs.keys hfind hnormal hfree a with
    hsame | ⟨hremote, hended, -⟩ | ⟨-, herased, -, hconf⟩
  · refine ⟨.of_same hs hsame, fun hdrained other client hmem => ?_⟩
    rw [hsame.recorded] at hmem
    exact hdrained other client hmem
  · exact endNormal_moves hs hfind hremote hempty hended
  · refine ⟨.of_erase hs herased (fun client hmem => ?_) hconf,
      fun hdrained other client hmem => ?_⟩
    · rw [hs.mem hfind hmem]
      exact hempty
    · rw [herased.recorded] at hmem
      exact hdrained other client (mem_eraseClient.mp hmem).1

lemma Sound.postponeMonitor {handles : List (String × Nat)} {nextToken : Nat} {client : Client}
    (h : Sound handles nextToken uuid client) (reason : String) :
    Sound handles nextToken uuid (postponeMonitor reason client) :=
  ⟨h.owned, h.token, h.requested, h.pending, h.ready, h.references, h.minted⟩

lemma eraseReleased_eq (c : Coordinator) (uuid : String) : c.eraseReleased uuid =
      if ((records c.clients).lookup uuid).any (fun client => !client.owning) then c.erase uuid
      else c := by
  unfold Coordinator.eraseReleased
  rw [records_lookup, Coordinator.find]
  cases c.clients.lookup uuid <;> rfl

/-- What the release of one monitor role does, the erasure of its entry included. -/
lemma releaseMonitor_effect (hs : Standing watched c) (hfind : c.find uuid = some former)
    (a : MonitorReleaseAnswers) (reason : String) :
    Effect watched c ((c.releaseLocked a uuid reason).eraseReleased uuid) id ∨
      Effect watched c ((c.releaseLocked a uuid reason).eraseReleased uuid)
        (modifyClient uuid (postponeMonitor reason)) ∨
      (MonitorEnded c ((c.releaseLocked a uuid reason).eraseReleased uuid) a uuid former ∧
        ((former.normalGame = true ∧
            Effect watched c ((c.releaseLocked a uuid reason).eraseReleased uuid)
              (modifyClient uuid (endMonitor reason))) ∨
          (former.normalGame = false ∧
            Effect watched c ((c.releaseLocked a uuid reason).eraseReleased uuid)
              (eraseClient uuid)))) := by
  have hrecord := Standing.record_mem hfind
  have hsound := hs.represents.sound uuid former.record hrecord
  have hfree : former.normalGame = false → ∀ token, (uuid, token) ∉ watched := fun hnormal =>
    hs.unwatched hrecord
      (hs.represents.references_of_not_normal hrecord hnormal)
  have hlookup : (records c.clients).lookup uuid = some former.record := by
    rw [records_lookup, show c.clients.lookup uuid = some former from hfind]
    rfl
  rw [eraseReleased_eq]
  rcases releaseLocked_effect hs.keys hfind hfree a reason with
    hsame | hpostponed | ⟨-, hended, hmon⟩
  · rw [if_neg (by rw [hsame.recorded, id, hlookup]; simp [hsound.owned])]
    exact .inl hsame
  · have howned : (postponeMonitor reason former.record).owning = true := hsound.owned
    rw [if_neg (by
      rw [hpostponed.recorded, lookup_modifyClient_self, hlookup]
      simp [howned])]
    exact .inr (.inl hpostponed)
  · cases hnormal : former.normalGame with
    | true =>
      have howned : (endMonitor reason former.record).owning = true := by
        simp [endMonitor, droppedMonitor, Client.owning, Client.record, hnormal]
      rw [if_neg (by
        rw [hended.recorded, lookup_modifyClient_self, hlookup]
        simp [howned])]
      exact .inr (.inr ⟨hmon, .inl ⟨rfl, hended⟩⟩)
    | false =>
      have hunowned : (endMonitor reason former.record).owning = false := by
        simp [endMonitor, droppedMonitor, Client.owning, Client.record, hnormal]
      rw [if_pos (by
        rw [hended.recorded, lookup_modifyClient_self, hlookup]
        simp [hunowned])]
      exact .inr (.inr ⟨⟨hmon.begun, hmon.undeferred, hmon.applied, hmon.display⟩,
        .inr ⟨rfl, hended.eraseCleared⟩⟩)

lemma releaseMonitor_moves (hs : Standing watched c) (hfind : c.find uuid = some former)
    (a : MonitorReleaseAnswers) (reason : String) :
    Moves watched c ((c.releaseLocked a uuid reason).eraseReleased uuid) := by
  rcases releaseMonitor_effect hs hfind a reason with
    hsame | hpostponed | ⟨hmon, ⟨hnormal, hended⟩ | ⟨hnormal, herased⟩⟩
  · exact .of_same hs hsame
  · exact .of_modify hs hpostponed
      (fun client hmem => (hs.represents.sound uuid client hmem).postponeMonitor reason)
      (fun client _ => ⟨fun h => ⟨h, rfl, rfl⟩, fun h => ⟨h, rfl⟩⟩) (fun _ _ => rfl) fun _ _ _ => rfl
  · refine .of_modify hs hended (fun client hmem => ?_)
      (fun client _ => ⟨fun h => ⟨h, rfl, rfl⟩, fun h => (by cases h)⟩) (fun _ _ => rfl)
      fun _ _ _ => rfl
    have hclient := hs.represents.sound uuid client hmem
    rw [hs.mem hfind hmem] at hclient ⊢
    have howned : (endMonitor reason former.record).owning = true := by
      simp [endMonitor, droppedMonitor, Client.owning, Client.record, hnormal]
    exact ⟨howned, hclient.token, hclient.requested, hclient.pending,
      fun hready => (by cases hready), hclient.references, hclient.minted⟩
  · refine .of_erase hs herased (fun client hmem => ?_)
      (hmon.display.resolve_left (by simp [hnormal])).confirmed
    exact hs.represents.references_of_not_normal hmem
      (by rw [hs.mem hfind hmem]; exact hnormal)

/-! ## The operations -/

lemma markNormal_moves (hs : Standing watched c) (hfind : c.find uuid = some former)
    (hnormal : former.normalGame = true) :
    Moves watched c (c.modify uuid fun client => { client with normalReleasePending := true }) := by
  refine .of_modify hs (.modify (fun client =>
    { client with normalReleasePending := true }) fun _ => rfl) (fun client hmem => ?_)
    (fun client _ => ⟨fun h => ⟨h, rfl, rfl⟩, fun h => ⟨h, rfl⟩⟩) (fun _ _ => rfl) fun _ _ _ => rfl
  have hsound := hs.represents.sound uuid client hmem
  rw [hs.mem hfind hmem] at hsound ⊢
  exact ⟨hsound.owned, hsound.token, hsound.requested, fun _ => hnormal, hsound.ready,
    hsound.references, hsound.minted⟩

lemma mem_markNormalReleases {entry : String × Client}
    (h : entry ∈ records c.markNormalReleases.clients) : ∃ client,
      (entry.1, client) ∈ records c.clients ∧ (entry.2 = client ∨ client.normalGame = true ∧
          entry.2 = { client with normalReleasePending := true }) := by
  obtain ⟨uuid, kept⟩ := entry
  obtain ⟨source, hsource, hrecord⟩ := mem_records.mp h
  obtain ⟨⟨key, origin⟩, horigin, heq⟩ := mem_map.mp hsource
  dsimp only at heq hrecord ⊢
  subst hrecord
  split at heq
  · next hnormal =>
    cases heq
    exact ⟨origin.record, mem_records.mpr ⟨origin, horigin, rfl⟩, .inr ⟨hnormal, rfl⟩⟩
  · cases heq
    exact ⟨source.record, mem_records.mpr ⟨source, horigin, rfl⟩, .inl rfl⟩

lemma markNormalReleases_keys (c : Coordinator) :
    c.markNormalReleases.clients.map (·.1) = c.clients.map (·.1) := by
  simp only [Coordinator.markNormalReleases, map_map]
  refine map_congr_left fun entry _ => ?_
  dsimp only [Function.comp]
  split <;> rfl

lemma modify_keys (c : Coordinator) (uuid : String) (update : Client → Client) :
    (c.modify uuid update).clients.map (·.1) = c.clients.map (·.1) :=
  modifyClient_keys

lemma find_modify_self (c : Coordinator) (uuid : String) (update : Client → Client) :
    (c.modify uuid update).find uuid = (c.find uuid).map update :=
  lookup_modifyClient_self

/-- What `release_normal_game_identity` does: nothing, a mark, or the release itself. -/
lemma release_cases (protectedOutput : Bool)
    (a : NormalReleaseAnswers) (uuid : String) (token : Nat) :
    c.releaseNormalGameIdentity protectedOutput a uuid token = c ∨ ∃ former marked,
      c.find uuid = some former ∧ former.normalGame = true ∧
      marked = c.modify uuid (fun client => { client with normalReleasePending := true }) ∧
      (c.releaseNormalGameIdentity protectedOutput a uuid token = marked ∨
        protectedOutput = false ∧ c.shutdownPending = false ∧ former.normalCaptureReferences = [] ∧
          marked.find uuid = some { former with normalReleasePending := true } ∧
          c.releaseNormalGameIdentity protectedOutput a uuid token =
            marked.releaseNormalGameIdentityLocked a uuid) := by
  unfold Coordinator.releaseNormalGameIdentity
  cases hfind : c.find uuid with
  | none => exact .inl rfl
  | some former =>
    dsimp only
    split
    · exact .inl rfl
    next hcur =>
    simp only [Bool.or_eq_true, not_or, Bool.not_eq_true', Bool.not_eq_false] at hcur
    refine .inr ⟨former, _, rfl, hcur.1.1, rfl, ?_⟩
    split
    · exact .inl rfl
    next hdeferred =>
    rw [Bool.not_eq_true] at hdeferred
    have hfound : (c.modify uuid fun client =>
        { client with normalReleasePending := true }).find uuid =
        some { former with normalReleasePending := true } := by
      rw [find_modify_self, hfind]
      rfl
    have hempty := drained_of_not_deferred hdeferred uuid _ (Standing.record_mem hfound) rfl
    simp only [Coordinator.displayMutationDeferred, Bool.or_eq_false_iff] at hdeferred
    exact .inr ⟨hdeferred.1.1, hdeferred.1.2, hempty, hfound, rfl⟩

lemma release_moves (hs : Standing watched c) (protectedOutput : Bool)
    (a : NormalReleaseAnswers) (uuid : String) (token : Nat) :
    Moves watched c (c.releaseNormalGameIdentity protectedOutput a uuid token) := by
  rcases release_cases protectedOutput a uuid token with
    hsame | ⟨former, _, hfind, hnormal, rfl, hmarks | ⟨-, -, hempty, hfound, hreleases⟩⟩
  · rw [hsame]
    exact .refl hs
  · rw [hmarks]
    exact markNormal_moves hs hfind hnormal
  · have hmarked := markNormal_moves hs hfind hnormal
    rw [hreleases]
    exact hmarked.trans (releaseNormal_moves hmarked.standing hfound hnormal hempty a).1

section

variable (hs : Standing watched c)

include hs

lemma markAll_moves : Moves watched c c.markNormalReleases := by
  have hmark : ∀ uuid client, (uuid, client) ∈ records c.clients → ∃ kept,
      (uuid, kept) ∈ records c.markNormalReleases.clients ∧
        kept.normalGameToken = client.normalGameToken ∧
        kept.normalCaptureReferences = client.normalCaptureReferences := by
    intro uuid client hclient
    obtain ⟨source, hsource, rfl⟩ := mem_records.mp hclient
    by_cases hnormal : source.normalGame = true
    · let marked := { source with normalReleasePending := true }
      exact ⟨marked.record, mem_records.mpr ⟨marked,
        mem_map.mpr ⟨(uuid, source), hsource, if_pos hnormal⟩, rfl⟩, rfl, rfl⟩
    · exact ⟨source.record, mem_records.mpr ⟨source,
        mem_map.mpr ⟨(uuid, source), hsource, if_neg hnormal⟩, rfl⟩, rfl, rfl⟩
  have hkeys := markNormalReleases_keys c
  have hretains : Retains c c.markNormalReleases :=
    fun uuid client hclient _ => hmark uuid client hclient
  refine ⟨⟨rfl, rfl, rfl, suffix_refl _⟩, id,
    ⟨⟨?_, ?_, ?_, hs.represents.handles⟩, hretains.held hs.held⟩, hretains, ?_, ?_, ?_⟩
  · rw [records_keys, hkeys]
    exact hs.keys
  · intro uuid client hclient
    obtain ⟨origin, horigin, rfl | ⟨hnormal, rfl⟩⟩ := mem_markNormalReleases hclient
    · exact hs.represents.sound uuid _ horigin
    · have hsound := hs.represents.sound uuid origin horigin
      exact ⟨hsound.owned, hsound.token, hsound.requested, fun _ => hnormal, hsound.ready,
        hsound.references, hsound.minted⟩
  · intro uuid client other peer hclient hpeer hne hnormal hpeerNormal
    obtain ⟨origin, horigin, hsame⟩ := mem_markNormalReleases hclient
    obtain ⟨peerOrigin, hpeerOrigin, hpeerSame⟩ := mem_markNormalReleases hpeer
    have hdistinct := hs.represents.distinct uuid origin other peerOrigin horigin hpeerOrigin
      hne
    rcases hsame with rfl | ⟨-, rfl⟩ <;> rcases hpeerSame with rfl | ⟨-, rfl⟩ <;>
      exact hdistinct hnormal hpeerNormal
  · rw [hkeys]
    exact List.Subset.refl _
  · intro uuid hclient hgone
    rw [hkeys] at hgone
    exact absurd hclient hgone
  · intro uuid client kept hclient hkept
    obtain ⟨origin, horigin, hsame⟩ := mem_markNormalReleases hkept
    rw [mem_unique hs.represents.keys hclient horigin]
    rcases hsame with hsame | ⟨-, hsame⟩
    · rw [show kept = origin from hsame]
      exact .rfl
    · rw [show kept = _ from hsame]
      exact ⟨fun h => ⟨h, rfl, rfl⟩, fun h => ⟨h, rfl⟩⟩

lemma releaseAll_moves (protectedOutput : Bool) (answers : String → NormalReleaseAnswers) :
    Moves watched c (c.releaseAllNormalGameIdentities protectedOutput answers) := by
  unfold Coordinator.releaseAllNormalGameIdentities
  have hmarked := markAll_moves hs
  dsimp only
  split
  · exact hmarked
  next hdeferred =>
  rw [Bool.not_eq_true] at hdeferred
  refine hmarked.trans (.foldl Drained (fun c uuid hs hdrained => ?_) _ hmarked.standing
    (drained_of_not_deferred hdeferred))
  cases hfind : c.find uuid with
  | none => exact ⟨.refl hs, hdrained⟩
  | some former =>
    simp only [Option.any_some]
    split
    · next hpend =>
      rw [Bool.and_eq_true] at hpend
      have hempty := hdrained uuid former.record (Standing.record_mem hfind) hpend.2
      have hrel :=
        releaseNormal_moves hs hfind hpend.1 hempty (answers uuid)
      exact ⟨hrel.1, hrel.2 hdrained⟩
    · exact ⟨.refl hs, hdrained⟩

lemma explicitRelease_moves (a : MonitorReleaseAnswers)
    (uuid : String) (generation : Nat) (reason : String) :
    Moves watched c (c.explicitRelease a uuid generation reason).2 := by
  unfold Coordinator.explicitRelease
  cases hfind : c.find uuid with
  | none => exact .refl hs
  | some former =>
    dsimp only
    split
    · exact .refl hs
    · exact releaseMonitor_moves hs hfind a reason

lemma disconnect_moves (a : MonitorReleaseAnswers)
    (uuid : String) : Moves watched c (c.disconnectMonitor a uuid) := by
  unfold Coordinator.disconnectMonitor
  cases hfind : c.find uuid with
  | none => exact .refl hs
  | some former => exact releaseMonitor_moves hs hfind a _

end

/-! ## Shutdown -/

lemma captureStillLive_eq_false (h : c.captureStillLive = false) {client : Client}
    (hmem : (uuid, client) ∈ records c.clients) : client.normalCaptureReferences = [] := by
  obtain ⟨source, hsource, rfl⟩ := mem_records.mp hmem
  simp only [Coordinator.captureStillLive, any_eq_false] at h
  have hreferences := h (uuid, source) hsource
  show source.normalCaptureReferences = []
  simpa using hreferences

lemma mem_managedIds : uuid ∈ c.managedIds ↔ ∃ client, (uuid, client) ∈ c.clients ∧
    client.owning = true := by
  simp only [Coordinator.managedIds, mem_insertionSort, mem_map, mem_filter]
  constructor
  · rintro ⟨entry, ⟨hmem, howning⟩, rfl⟩
    exact ⟨entry.2, hmem, howning⟩
  · rintro ⟨client, hmem, howning⟩
    exact ⟨(uuid, client), ⟨hmem, howning⟩, rfl⟩

/-- The removals of the shutdown transaction, after those of `handled`. -/
structure Transaction (watched : List (String × Nat)) (c d : Coordinator) (handled : List String) :
    Prop where
  callbacks : d.callbacks = c.callbacks
  handles : d.handles = c.handles
  nextToken : d.nextNormalGameToken = c.nextNormalGameToken
  calls : c.calls <:+ d.calls
  lawful : LawfulCalls watched c.calls → LawfulCalls watched d.calls
  keys : (d.clients.map (·.1)).Nodup
  entries : ∀ entry ∈ d.clients, entry ∈ c.clients ∧ entry.1 ∈ handled
  confirmed : ∀ uuid ∈ handled, uuid ∉ d.clients.map (·.1) → RemovalConfirmed d uuid

lemma Transaction.remove {d : Coordinator} {handled : List String}
    (h : Transaction watched c d handled) (hfree : ∀ token, (uuid, token) ∉ watched)
    (hnew : uuid ∉ handled) {client : Client} (hmem : (uuid, client) ∈ c.clients)
    (hkeys : (c.clients.map (·.1)).Nodup) (removed : String → Bool) :
    Transaction watched c (Coordinator.removeManaged removed c.clients d uuid)
      (uuid :: handled) := by
  have habsent : uuid ∉ d.clients.map (·.1) := by
    intro hpresent
    obtain ⟨entry, hentry, rfl⟩ := mem_map.mp hpresent
    exact hnew (h.entries entry hentry).2
  have hweaken : ∀ entry ∈ d.clients, entry ∈ c.clients ∧ entry.1 ∈ uuid :: handled :=
    fun entry hentry => ⟨(h.entries entry hentry).1, mem_cons_of_mem _ (h.entries entry hentry).2⟩
  have hlawful : Lawful watched d.calls (.removed uuid d.clients (removed uuid)) :=
    ⟨hfree, fun client hclient => absurd (mem_map.mpr ⟨_, hclient, rfl⟩) habsent⟩
  have hconf : ∀ e : Coordinator, d.calls <:+ e.calls → e.callbacks = d.callbacks →
      ∀ other ∈ handled, other ∉ d.clients.map (·.1) → RemovalConfirmed e other := by
    intro e hcalls hcallbacks other hother hgone
    rcases h.confirmed other hother hgone with ⟨clients, hcall | hcall⟩ | hmissing
    · exact .inl ⟨clients, .inl (hcalls.mem hcall)⟩
    · exact .inl ⟨clients, .inr (hcalls.mem hcall)⟩
    · exact .inr (hcallbacks ▸ hmissing)
  unfold Coordinator.removeManaged
  split
  · next hmissing =>
    rw [Bool.not_eq_true'] at hmissing
    refine ⟨h.callbacks, h.handles, h.nextToken, h.calls, h.lawful, h.keys, hweaken,
      fun other hother hgone => ?_⟩
    rcases mem_cons.mp hother with rfl | hother
    · exact .inr hmissing
    · exact h.confirmed other hother hgone
  · dsimp only
    split
    · next hgone =>
      refine ⟨h.callbacks, h.handles, h.nextToken, h.calls.trans (suffix_cons _ _),
        fun hcalls => ⟨hlawful, h.lawful hcalls⟩, h.keys, hweaken, fun other hother habsent => ?_⟩
      rcases mem_cons.mp hother with rfl | hother
      · refine .inl ⟨d.clients, .inl ?_⟩
        rw [hgone]
        exact mem_cons_self
      · exact hconf (d.call _) (suffix_cons _ _) rfl other hother habsent
    · rw [lookup_of_mem hkeys hmem]
      refine ⟨h.callbacks, h.handles, h.nextToken, h.calls.trans (suffix_cons _ _),
        fun hcalls => ⟨hlawful, h.lawful hcalls⟩, ?_, fun entry hentry => ?_,
        fun other hother hgone => ?_⟩
      · show ((d.clients ++ [(uuid, client)]).map (·.1)).Nodup
        rw [map_append, nodup_append]
        refine ⟨h.keys, nodup_singleton _, fun key hkey other hother heq => ?_⟩
        rw [heq, mem_singleton.mp hother] at hkey
        exact habsent hkey
      · rcases mem_append.mp hentry with hentry | hentry
        · exact hweaken entry hentry
        · rw [mem_singleton.mp hentry]
          exact ⟨hmem, mem_cons_self⟩
      · have hgone' : other ∉ d.clients.map (·.1) ∧ other ≠ uuid := by
          refine ⟨fun hpresent => hgone ?_, fun heq => hgone ?_⟩
          · exact map_append ▸ mem_append_left _ hpresent
          · rw [heq]
            exact mem_map.mpr ⟨(uuid, client), mem_append_right _ mem_cons_self, rfl⟩
        rcases mem_cons.mp hother with heq | hother
        · exact absurd heq hgone'.2
        · exact hconf { d.call _ with clients := _ } (suffix_cons _ _) rfl other hother
            hgone'.1

lemma Transaction.foldl {d : Coordinator} {handled : List String}
    (h : Transaction watched c d handled) (removed : String → Bool) (uuids : List String)
    (hnodup : uuids.Nodup) (hnew : ∀ uuid ∈ uuids, uuid ∉ handled)
    (hmem : ∀ uuid ∈ uuids, (∀ token, (uuid, token) ∉ watched) ∧
      ∃ client, (uuid, client) ∈ c.clients) (hkeys : (c.clients.map (·.1)).Nodup) :
    ∃ all, Transaction watched c (uuids.foldl (Coordinator.removeManaged removed c.clients) d) all ∧
      uuids ⊆ all ∧ handled ⊆ all := by
  induction uuids generalizing d handled with
  | nil => exact ⟨handled, h, nil_subset _, List.Subset.refl _⟩
  | cons uuid rest ih =>
    rw [nodup_cons] at hnodup
    obtain ⟨hfree, client, hclient⟩ := hmem uuid mem_cons_self
    have hstep := h.remove hfree (hnew uuid mem_cons_self) hclient hkeys removed
    have hrest : ∀ other ∈ rest, other ∉ uuid :: handled := by
      intro other hother hpresent
      rcases mem_cons.mp hpresent with rfl | hpresent
      · exact hnodup.1 hother
      · exact hnew other (mem_cons_of_mem _ hother) hpresent
    obtain ⟨all, hlast, hsubset, hhandled⟩ := ih hstep hnodup.2 hrest
      fun other hother => hmem other (mem_cons_of_mem _ hother)
    exact ⟨all, hlast, cons_subset.mpr ⟨hhandled mem_cons_self, hsubset⟩,
      fun other hother => hhandled (mem_cons_of_mem _ hother)⟩

section

variable (hs : Standing watched c)

include hs

lemma finalizeShutdown_moves (hdry : c.captureStillLive = false)
    (a : ShutdownAnswers) : Moves watched c (c.finalizeShutdownLocked a) := by
  have hflag : ∀ d : Coordinator, d.callbacks = c.callbacks → d.handles = c.handles →
      d.nextNormalGameToken = c.nextNormalGameToken → d.calls = c.calls →
      d.clients = c.clients → Moves watched c d := by
    intro d hcallbacks hhandles htoken hcalls hclients
    exact .of_same hs (Effect.refl.relabel hcallbacks hhandles htoken hcalls hclients)
  have hempty : ∀ uuid client, (uuid, client) ∈ records c.clients →
      client.normalCaptureReferences = [] := fun _ _ => captureStillLive_eq_false hdry
  unfold Coordinator.finalizeShutdownLocked
  split
  · exact .refl hs
  split
  · exact hflag _ rfl rfl rfl rfl rfl
  split
  · next hidle =>
    -- every entry has a role, so that there is none
    have hnone : c.clients = [] := by
      rw [Bool.and_eq_true, List.isEmpty_iff] at hidle
      rcases hclients : c.clients with _ | ⟨⟨uuid, client⟩, rest⟩
      · rfl
      · have hmem : (uuid, client) ∈ c.clients := by
          rw [hclients]
          exact mem_cons_self
        have howned := (hs.represents.sound uuid client.record
          (mem_records.mpr ⟨client, hmem, rfl⟩)).owned
        have hmanaged := mem_managedIds.mpr ⟨client, hmem, howned⟩
        rw [hidle.1] at hmanaged
        cases hmanaged
    exact hflag _ rfl rfl rfl rfl hnone.symm
  split
  · exact hflag _ rfl rfl rfl rfl rfl
  dsimp only
  have hground : LawfulCalls watched c.calls → LawfulCalls watched
      (if c.callbacks.applyComposedTopology then
        { c with clients := [] }.applyTopology a.applied else { c with clients := [] }).calls := by
    intro hcalls
    split
    · exact ⟨⟨fun _ _ hmem => (by cases hmem), _, rfl⟩, hcalls⟩
    · exact hcalls
  have hcallsSuffix : c.calls <:+ (if c.callbacks.applyComposedTopology then
      { c with clients := [] }.applyTopology a.applied else { c with clients := [] }).calls := by
    split
    · exact suffix_cons _ _
    · exact suffix_refl _
  split
  · refine .of_same hs ⟨⟨?_, ?_, ?_, hcallsSuffix⟩, rfl, hground⟩ <;> split <;> rfl
  have hstart : Transaction watched c { (if c.callbacks.applyComposedTopology then
      { c with clients := [] }.applyTopology a.applied else { c with clients := [] }) with
      physicalRestorePending := false } [] := by
    refine ⟨?_, ?_, ?_, hcallsSuffix, hground, ?_, ?_, fun _ hmem => by cases hmem⟩
    · split <;> rfl
    · split <;> rfl
    · split <;> rfl
    · split <;> exact nodup_nil
    · intro entry hmem
      split at hmem <;> cases hmem
  have hmanaged : ∀ uuid ∈ c.managedIds, (∀ token, (uuid, token) ∉ watched) ∧
      ∃ client, (uuid, client) ∈ c.clients := by
    intro uuid hmem
    obtain ⟨client, hclient, -⟩ := mem_managedIds.mp hmem
    have hrecord : (uuid, client.record) ∈ records c.clients :=
      mem_records.mpr ⟨client, hclient, rfl⟩
    exact ⟨hs.unwatched hrecord (hempty uuid _ hrecord), client, hclient⟩
  have hnodup : c.managedIds.Nodup := by
    refine (perm_insertionSort _ _).nodup_iff.mpr ?_
    exact hs.keys.sublist (filter_sublist.map _)
  obtain ⟨all, hend, hsubset, -⟩ := hstart.foldl a.removed c.managedIds hnodup
    (fun _ _ hmem => by cases hmem) hmanaged hs.keys
  generalize c.managedIds.foldl (Coordinator.removeManaged a.removed c.clients) _ = d at hend
  have hentries : ∀ entry ∈ records d.clients, entry ∈ records c.clients := by
    intro entry hmem
    obtain ⟨client, hclient, hrecord⟩ := mem_records.mp hmem
    exact mem_records.mpr ⟨client, (hend.entries _ hclient).1, hrecord⟩
  have hretains : Retains c { d with shutdownPending := !d.clients.isEmpty } :=
    fun uuid client hmem hlive => absurd (hempty uuid client hmem) hlive
  refine ⟨⟨hend.callbacks, hend.handles, hend.nextToken, hend.calls⟩, hend.lawful,
    ⟨?_, hretains.held hs.held⟩, hretains, ?_, ?_, ?_⟩
  · show Represents d.handles d.nextNormalGameToken (records d.clients)
    rw [hend.handles, hend.nextToken]
    refine hs.represents.subset ?_ hentries
    rw [records_keys]
    exact hend.keys
  · intro uuid hmem
    obtain ⟨entry, hentry, rfl⟩ := mem_map.mp hmem
    exact mem_map.mpr ⟨entry, (hend.entries entry hentry).1, rfl⟩
  · intro uuid hmem hgone
    obtain ⟨⟨key, client⟩, hclient, rfl⟩ := mem_map.mp hmem
    have howned := (hs.represents.sound key client.record
      (mem_records.mpr ⟨client, hclient, rfl⟩)).owned
    exact hend.confirmed key (hsubset (mem_managedIds.mpr ⟨client, hclient, howned⟩)) hgone
  · intro uuid client kept hclient hkept
    rw [mem_unique hs.represents.keys hclient (hentries _ hkept)]
    exact .rfl

lemma drain_moves (a : DrainAnswers) :
    Moves watched c (c.releaseDrainedNormalGameIdentities a) := by
  unfold Coordinator.releaseDrainedNormalGameIdentities
  split
  · split
    · exact .refl hs
    · next hdry => exact finalizeShutdown_moves hs (by simpa using hdry) a.shutdown
  split
  · exact .refl hs
  have hfirst : Moves watched c ((c.clients.map (·.1)).foldl (fun c uuid =>
      if (c.find uuid).any fun client =>
          client.normalReleasePending && client.normalCaptureReferences.isEmpty then
        c.releaseNormalGameIdentityLocked (a.normal uuid) uuid
      else c) c) := by
    refine .foldl (fun _ => True) (fun c uuid hs _ => ⟨?_, trivial⟩) _ hs trivial
    cases hfind : c.find uuid with
    | none => exact .refl hs
    | some former =>
      simp only [Option.any_some]
      split
      · next hpend =>
        rw [Bool.and_eq_true, List.isEmpty_iff] at hpend
        have hnormal := (hs.represents.sound uuid former.record
          (Standing.record_mem hfind)).pending hpend.1
        exact (releaseNormal_moves hs hfind hnormal hpend.2 (a.normal uuid)).1
      · exact .refl hs
  refine hfirst.trans (.foldl (fun _ => True) (fun c uuid hs _ => ?_) _ hfirst.standing
    trivial)
  refine ⟨?_, trivial⟩
  cases hfind : c.find uuid with
  | none => exact .refl hs
  | some former =>
    dsimp only
    split
    · exact .refl hs
    · exact releaseMonitor_moves hs hfind (a.monitor uuid) former.monitorReleaseReason

lemma idle_moves (appRunning captureRuntimeOwned : Bool)
    (protectedOutput : Bool) (answers : String → NormalReleaseAnswers) (a : DrainAnswers) :
    Moves watched c (c.releaseIdleNormalGameIdentities appRunning captureRuntimeOwned
      protectedOutput answers a) := by
  unfold Coordinator.releaseIdleNormalGameIdentities
  split
  · exact releaseAll_moves hs protectedOutput answers
  · exact drain_moves hs a

lemma shutdown_moves (a : ShutdownAnswers) : Moves watched c (c.shutdown false a) := by
  have hpend : Moves watched c { c with shutdownPending := true } :=
    .of_same hs (Effect.refl.relabel rfl rfl rfl rfl rfl)
  unfold Coordinator.shutdown
  rw [if_neg Bool.false_ne_true]
  split
  · exact hpend.trans (markAll_moves hpend.standing)
  · next hdry =>
    rw [Bool.not_eq_true] at hdry
    exact hpend.trans (finalizeShutdown_moves hpend.standing hdry a)

end

end

end Vibeshine.RemoteDisplay
