import Vibeshine.RemoteDisplay.Activation

/-! # Every operation keeps the representation

One lemma per operation of the coordinator: the entries keep their invariant, the
calls are lawful, entries with capture references stay, entries leave only after
their displays or where the operation gives them up, and the number of entries stays
within the room the operation found.
-/

namespace Vibeshine.RemoteDisplay

open List

/-- What one operation does. `room` is the capacity it admits new clients up to, and
`givesUp` says that entries may leave. -/
structure Performs (watched : List (String × Nat)) (room : Nat) (givesUp : Prop)
    (c later : Coordinator) : Prop where
  handles : later.handles = c.handles
  lawful : LawfulCalls watched c.calls → LawfulCalls watched later.calls
  standing : Standing watched later
  retains : Retains c later
  stays : ¬ givesUp → c.clients.map (·.1) ⊆ later.clients.map (·.1)
  length : later.clients.length ≤ max c.clients.length room

lemma Moves.performs {watched : List (String × Nat)} {c later : Coordinator} {givesUp : Prop}
    (h : Moves watched c later) (room : Nat)
    (hstays : ¬ givesUp → c.clients.map (·.1) ⊆ later.clients.map (·.1)) :
    Performs watched room givesUp c later :=
  ⟨h.frame.handles, h.lawful, h.standing, h.retains, hstays, le_trans h.length_le (le_max_left _ _)⟩

lemma Performs.of_same {watched : List (String × Nat)} {c later : Coordinator}
    (hs : Standing watched c) (h : Effect watched c later id) (room : Nat)
    (givesUp : Prop) : Performs watched room givesUp c later :=
  (Moves.of_same hs h).performs room fun _ => by
    rw [h.keys]
    exact List.Subset.refl _

lemma Performs.refl {watched : List (String × Nat)} {c : Coordinator}
    (hs : Standing watched c) (room : Nat) (givesUp : Prop) :
    Performs watched room givesUp c c :=
  .of_same hs .refl room givesUp

/-! ## Normal roles and generations of one entry -/

/-- The part of the entry invariant that concerns the normal role. -/
structure Reserved (handles : List (String × Nat)) (nextToken : Nat) (uuid : String)
    (client : Client) : Prop where
  token : client.normalGame = true ↔ client.normalGameToken ≠ 0
  requested : client.normalGame = true ↔ client.normalRequestedMode.isSome = true
  pending : client.normalReleasePending = true → client.normalGame = true
  references : client.normalCaptureReferences =
    tally client.normalGameToken (handles.count (uuid, client.normalGameToken))
  minted : client.normalGameToken ≤ nextToken

section

variable {handles : List (String × Nat)} {nextToken : Nat} {uuid : String} {entries : Clients}

lemma Sound.reserved {client : Client} (h : Sound handles nextToken uuid client) :
    Reserved handles nextToken uuid client :=
  ⟨h.token, h.requested, h.pending, h.references, h.minted⟩

lemma Sound.mono {client : Client} (h : Sound handles nextToken uuid client) {later : Nat}
    (hle : nextToken ≤ later) : Sound handles later uuid client :=
  { h with minted := le_trans h.minted hle }

lemma Reserved.of_unreserved (hhandles : ∀ handle ∈ handles, handle.2 ≠ 0 ∧ handle.2 ≤ nextToken)
    {client : Client} (hnormal : client.normalGame = false) (htoken : client.normalGameToken = 0)
    (hmode : client.normalRequestedMode = none) (hpend : client.normalReleasePending = false)
    (hreferences : client.normalCaptureReferences = []) :
    Reserved handles nextToken uuid client where
  token := by simp [hnormal, htoken]
  requested := by simp [hnormal, hmode]
  pending := fun h => by rw [hpend] at h; cases h
  references := by
    have hcount : handles.count (uuid, 0) = 0 :=
      count_eq_zero.mpr fun hhandle => (hhandles _ hhandle).1 rfl
    rw [hreferences, htoken, hcount]
    rfl
  minted := by rw [htoken]; exact zero_le

lemma Represents.replace (h : Represents handles nextToken entries) (uuid : String) {later : Nat}
    (hle : nextToken ≤ later) {replaced : Clients} (hkeys : (replaced.map (·.1)).Nodup)
    (hmem : ∀ other client, (other, client) ∈ replaced →
      ((other, client) ∈ entries ∧ other ≠ uuid) ∨
        (other = uuid ∧ Sound handles later uuid client ∧ (client.normalGame = true →
          nextToken < client.normalGameToken ∨ ∃ former, (uuid, former) ∈ entries ∧
            former.normalGame = true ∧ client.normalGameToken = former.normalGameToken))) :
    Represents handles later replaced where
  keys := hkeys
  sound := fun other client hclient => by
    rcases hmem other client hclient with ⟨hold, -⟩ | ⟨rfl, hsound, -⟩
    · exact (h.sound other client hold).mono hle
    · exact hsound
  distinct := fun first client second peer hfirst hsecond hne hnormal hpeer => by
    rcases hmem first client hfirst with ⟨hold, hother⟩ | ⟨rfl, -, htoken⟩
    · rcases hmem second peer hsecond with ⟨hold', -⟩ | ⟨rfl, -, htoken⟩
      · exact h.distinct first client second peer hold hold' hne hnormal hpeer
      · rcases htoken hpeer with hnew | ⟨former, hformer, hwas, heq⟩
        · have := (h.sound first client hold).minted
          omega
        · rw [heq]
          exact h.distinct first client second former hold hformer hne hnormal hwas
    · rcases hmem second peer hsecond with ⟨hold, -⟩ | ⟨rfl, -, -⟩
      · rcases htoken hnormal with hnew | ⟨former, hformer, hwas, heq⟩
        · have := (h.sound second peer hold).minted
          omega
        · rw [heq]
          exact h.distinct first former second peer hformer hold hne hwas hpeer
      · exact absurd rfl hne
  handles := fun handle hhandle =>
    ⟨(h.handles handle hhandle).1, le_trans (h.handles handle hhandle).2 hle⟩

end

section

variable {watched : List (String × Nat)} {c later : Coordinator} {uuid : String} {former : Client}
  {givesUp : Prop} {room : Nat}

section

variable (hs : Standing watched c)

include hs

lemma Performs.relabel (hhandles : later.handles = c.handles)
    (htoken : later.nextNormalGameToken = c.nextNormalGameToken) (hcalls : later.calls = c.calls)
    (hclients : later.clients = c.clients) : Performs watched room givesUp c later where
  handles := hhandles
  lawful := fun h => by rw [hcalls]; exact h
  standing := by
    refine ⟨?_, ?_⟩
    · rw [hhandles, htoken, hclients]
      exact hs.represents
    · rw [hclients]
      exact hs.held
  retains := fun uuid client hmem _ => ⟨client, by rw [hclients]; exact hmem, rfl, rfl⟩
  stays := fun _ => by
    rw [hclients]
    exact List.Subset.refl _
  length := by
    rw [hclients]
    exact le_max_left _ _

lemma Performs.of_modify {update : Client → Client}
    (h : Effect watched c later (modifyClient uuid update))
    (hsound : ∀ client, (uuid, client) ∈ records c.clients →
      Sound c.handles c.nextNormalGameToken uuid (update client))
    (hnormal : ∀ client, (update client).normalGame = client.normalGame)
    (htoken : ∀ client, (update client).normalGameToken = client.normalGameToken)
    (hreferences : ∀ client,
      (update client).normalCaptureReferences = client.normalCaptureReferences) :
    Performs watched room givesUp c later := by
  have hretains : Retains c later :=
    h.retains (fun client _ => hreferences client) fun client _ _ => htoken client
  have hkeys : later.clients.map (·.1) = c.clients.map (·.1) := by
    rw [← records_keys, h.recorded, modifyClient_keys, records_keys]
  refine ⟨h.frame.handles, h.lawful, ⟨?_, hretains.held hs.held⟩, hretains,
    fun _ => hkeys ▸ List.Subset.refl _, ?_⟩
  · rw [h.frame.handles, h.frame.nextToken, h.recorded]
    exact hs.represents.modifyClient hsound fun client _ hgame =>
      ⟨(hnormal client).symm.trans hgame, htoken client⟩
  · have hlength := congrArg List.length hkeys
    rw [length_map, length_map] at hlength
    rw [hlength]
    exact le_max_left _ _

lemma Performs.of_subset (hhandles : later.handles = c.handles)
    (htoken : later.nextNormalGameToken = c.nextNormalGameToken)
    (hlawful : LawfulCalls watched c.calls → LawfulCalls watched later.calls)
    (hsublist : later.clients.Sublist c.clients)
    (hkept : ∀ uuid client, (uuid, client) ∈ c.clients → client.normalCaptureReferences ≠ [] →
      (uuid, client) ∈ later.clients) (hgivesUp : givesUp) :
    Performs watched room givesUp c later := by
  have hretains : Retains c later := by
    intro uuid client hmem hlive
    obtain ⟨source, hsource, rfl⟩ := mem_records.mp hmem
    exact ⟨_, mem_records.mpr ⟨source, hkept uuid source hsource hlive, rfl⟩, rfl, rfl⟩
  refine ⟨hhandles, hlawful, ⟨?_, hretains.held hs.held⟩, hretains,
    fun hnever => absurd hgivesUp hnever, ?_⟩
  · rw [hhandles, htoken]
    refine hs.represents.subset ?_ fun entry hmem => ?_
    · rw [records_keys]
      exact hs.keys.sublist (hsublist.map _)
    · obtain ⟨client, hclient, hrecord⟩ := mem_records.mp hmem
      exact mem_records.mpr ⟨client, hsublist.subset hclient, hrecord⟩
  · exact le_trans hsublist.length_le (le_max_left _ _)

/-! ## Reapplication and the smaller operations -/

lemma reapply_performs (a : ReapplyAnswers) :
    Performs watched room givesUp c (c.reapplyComposedTopology a).2 := by
  have hrefl := Performs.refl hs room givesUp
  unfold Coordinator.reapplyComposedTopology
  split
  · exact hrefl
  split
  · exact hrefl
  split
  · exact hrefl
  have hresolved : Effect watched c { c with clients := c.clients.map fun entry : String × Client =>
      (entry.1, c.resolveOwner (a.resolve entry.1) entry.2) } id := by
    refine ⟨⟨rfl, rfl, rfl, suffix_refl _⟩, ?_, id⟩
    simp only [records, map_map, id]
    refine map_congr_left fun entry _ => ?_
    dsimp only [Function.comp]
    unfold Coordinator.resolveOwner
    split
    · rfl
    · dsimp only
      split <;> rfl
  have hkeys := hresolved.keys ▸ hs.keys
  dsimp only
  generalize ({ c with clients := c.clients.map fun entry : String × Client =>
      (entry.1, c.resolveOwner (a.resolve entry.1) entry.2) } : Coordinator) = resolved
    at hresolved hkeys ⊢
  have hrefresh : Effect watched _ _ id := .refresh resolved a.geometry ""
  have hgrounded := refreshGeometry_grounded a.geometry "" hkeys
  cases hround : resolved.refreshGeometry a.geometry with
  | mk known refreshed =>
  rw [hround] at hrefresh hgrounded
  dsimp only at hrefresh hgrounded ⊢
  have hrefreshed : Effect watched c refreshed id := hresolved.trans hrefresh
  split
  · exact Performs.of_same hs hrefreshed room givesUp
  · next hknown =>
    rw [Bool.not_eq_true', Bool.not_eq_false] at hknown
    have happlied : Effect watched c (refreshed.applyTopology a.applied) id :=
      hrefreshed.trans (.apply a.applied (hgrounded hknown))
    exact Performs.of_same hs happlied room givesUp

lemma retryable_performs {update : Client → Client}
    (h : Effect watched c later (modifyClient uuid update))
    (hadjusts : ∀ client, Adjusts client (update client))
    (hretry : ∀ client, (update client).lifecycle = .retryable) :
    Performs watched room givesUp c later := by
  refine .of_modify hs h (fun client hmem => ?_) (fun client => (hadjusts client).normalGame)
    (fun client => (hadjusts client).token) fun client => (hadjusts client).references
  have hsound := hs.represents.sound uuid client hmem
  have hsame := hadjusts client
  refine ⟨?_, ?_, ?_, ?_, fun hready => ?_, ?_, ?_⟩
  · rw [Client.owning, hsame.normalGame, hsame.monitor]
    exact hsound.owned
  · rw [hsame.normalGame, hsame.token]
    exact hsound.token
  · rw [hsame.normalGame, hsame.requested]
    exact hsound.requested
  · rw [hsame.pending, hsame.normalGame]
    exact hsound.pending
  · rw [hretry client] at hready
    cases hready
  · rw [hsame.references, hsame.token]
    exact hsound.references
  · rw [hsame.token]
    exact hsound.minted

lemma transportLost_performs (uuid : String)
    (generation : Nat) : Performs watched room givesUp c (c.transportLost uuid generation) := by
  have hrefl := Performs.refl hs room givesUp
  unfold Coordinator.transportLost
  cases c.find uuid with
  | none => exact hrefl
  | some client =>
    dsimp only
    split
    · exact hrefl
    · exact retryable_performs hs (.modify (fun client =>
        { client with lifecycle := .retryable, warning := _ }) fun _ => rfl)
        (fun _ => ⟨rfl, rfl, rfl, rfl, rfl, rfl, rfl⟩) fun _ => rfl

lemma noteLeaseLost_performs (uuid : String) :
    Performs watched room givesUp c (c.noteLeaseLost uuid) :=
  retryable_performs hs (.modify (fun client =>
    { client with leaseHeld := false, lifecycle := .retryable, warning := _ }) fun _ => rfl)
    (fun _ => ⟨rfl, rfl, rfl, rfl, rfl, rfl, rfl⟩) fun _ => rfl

lemma completeRestored_performs (protectedOutput : Bool) :
    Performs watched room True c (c.completeRestoredNormalGameCleanup protectedOutput) := by
  unfold Coordinator.completeRestoredNormalGameCleanup
  split
  · exact Performs.refl hs room True
  · refine .of_subset hs rfl rfl id filter_sublist (fun uuid client hmem hlive => ?_)
      trivial
    refine mem_filter.mpr ⟨hmem, ?_⟩
    simp [hlive]

lemma rollback_performs (begun protectedOutput : Bool)
    (uuid : String) (token : Nat) : Performs watched room
      ((c.rollbackNormalGameIdentity begun protectedOutput uuid token).1 = true) c
      (c.rollbackNormalGameIdentity begun protectedOutput uuid token).2 := by
  unfold Coordinator.rollbackNormalGameIdentity
  split
  · exact Performs.refl hs room _
  cases hfind : c.find uuid with
  | none => exact Performs.refl hs room _
  | some former =>
    dsimp only
    split
    · exact Performs.refl hs room _
    next hcur =>
    have hnormal : former.normalGame = true := by
      simp only [Bool.or_eq_true, not_or, Bool.not_eq_true', Bool.not_eq_false] at hcur
      exact hcur.1
    split
    · refine (markNormal_moves hs hfind hnormal).performs room fun _ => ?_
      rw [modify_keys]
      exact List.Subset.refl _
    next hdeferred =>
    have hempty : former.normalCaptureReferences = [] := by
      simp only [Bool.or_eq_true, not_or, Bool.not_eq_true', Bool.not_eq_false,
        List.isEmpty_iff] at hdeferred
      exact hdeferred.2
    have hcleared : Effect watched c (c.modify uuid endNormal) (modifyClient uuid endNormal) :=
      .modify _ fun _ => rfl
    split
    · next hremote =>
      have hended := (endNormal_moves hs hfind hremote hempty hcleared).1
      refine hended.performs room fun _ => ?_
      rw [modify_keys]
      exact List.Subset.refl _
    · refine .of_subset hs rfl rfl id ?_ (fun other client hmem hlive => ?_) rfl
      · show (eraseClient uuid (modifyClient uuid endNormal c.clients)).Sublist c.clients
        rw [eraseClient_modifyClient]
        exact filter_sublist
      · show (other, client) ∈ eraseClient uuid (modifyClient uuid endNormal c.clients)
        rw [eraseClient_modifyClient]
        refine mem_eraseClient.mpr ⟨hmem, ?_⟩
        rintro rfl
        rw [mem_unique hs.keys hmem (mem_of_lookup hfind)] at hlive
        exact hlive hempty

end

/-! ## Reservations -/

variable {index : Nat}

lemma mem_insert {entry : String × Client} : entry ∈ (c.insert index uuid).clients ↔
      entry = (uuid, { placementOrder := c.nextPlacementOrder + 1 }) ∨ entry ∈ c.clients := by
  simp only [Coordinator.insert, mem_append, mem_cons]
  rw [or_left_comm, ← mem_append, take_append_drop]

lemma insert_keys (hkeys : (c.clients.map (·.1)).Nodup)
    (habsent : c.find uuid = none) : ((c.insert index uuid).clients.map (·.1)).Nodup := by
  have hperm : (c.insert index uuid).clients.Perm
      ((uuid, { placementOrder := c.nextPlacementOrder + 1 }) :: c.clients) := by
    refine (perm_middle).trans (List.Perm.cons _ ?_)
    rw [take_append_drop]
  refine (hperm.map _).nodup_iff.mpr ?_
  rw [map_cons, nodup_cons]
  exact ⟨lookup_eq_none_iff_not_mem.mp habsent, hkeys⟩

lemma insert_length : (c.insert index uuid).clients.length = c.clients.length + 1 := by
  simp only [Coordinator.insert, length_append, length_cons, length_take, length_drop]
  omega

lemma Performs.of_replace (hs : Standing watched c) (start : Coordinator)
    (update : Client → Client) (hhandles : later.handles = c.handles)
    (hle : c.nextNormalGameToken ≤ later.nextNormalGameToken)
    (hlawful : LawfulCalls watched c.calls → LawfulCalls watched later.calls)
    (hrecorded : records later.clients = modifyClient uuid update (records start.clients))
    (hstart : start.clients = c.clients ∨ (c.find uuid = none ∧ c.clients.length < room ∧ ∃ index,
        start.clients = (c.insert index uuid).clients))
    (hsound : ∀ client, (uuid, client) ∈ records start.clients →
      Sound c.handles later.nextNormalGameToken uuid (update client))
    (htoken : ∀ client, (uuid, client) ∈ records start.clients → (update client).normalGame = true →
        c.nextNormalGameToken < (update client).normalGameToken ∨
          (uuid, client) ∈ records c.clients ∧ client.normalGame = true ∧
            (update client).normalGameToken = client.normalGameToken)
    (hretained : ∀ client, (uuid, client) ∈ records c.clients →
      client.normalCaptureReferences ≠ [] →
        (update client).normalGameToken = client.normalGameToken ∧
          (update client).normalCaptureReferences = client.normalCaptureReferences) :
    Performs watched room givesUp c later := by
  have hstartKeys : (start.clients.map (·.1)).Nodup := by
    rcases hstart with hsame | ⟨habsent, -, index, hinserted⟩
    · rw [hsame]
      exact hs.keys
    · rw [hinserted]
      exact insert_keys hs.keys habsent
  have hold : ∀ entry, entry ∈ records c.clients → entry ∈ records start.clients := by
    intro entry hmem
    obtain ⟨client, hclient, hrecord⟩ := mem_records.mp hmem
    refine mem_records.mpr ⟨client, ?_, hrecord⟩
    rcases hstart with hsame | ⟨-, -, index, hinserted⟩
    · rw [hsame]
      exact hclient
    · rw [hinserted]
      exact mem_insert.mpr (.inr hclient)
  have hback : ∀ entry, entry ∈ records start.clients → entry.1 ≠ uuid →
      entry ∈ records c.clients := by
    intro entry hmem hother
    obtain ⟨client, hclient, hrecord⟩ := mem_records.mp hmem
    refine mem_records.mpr ⟨client, ?_, hrecord⟩
    rcases hstart with hsame | ⟨-, -, index, hinserted⟩
    · rw [hsame] at hclient
      exact hclient
    · rw [hinserted] at hclient
      rcases mem_insert.mp hclient with hnew | hclient
      · exact absurd (congrArg Prod.fst hnew) hother
      · exact hclient
  have hkeys : later.clients.map (·.1) = start.clients.map (·.1) := by
    rw [← records_keys, hrecorded, modifyClient_keys, records_keys]
  have hretains : Retains c later := by
    intro other client hmem hlive
    rw [hrecorded]
    by_cases hother : other = uuid
    · subst hother
      obtain ⟨hsame, hreferences⟩ := hretained client hmem hlive
      exact ⟨update client, mem_modifyClient.mpr (.inr ⟨client, hold _ hmem, rfl⟩), hsame,
        hreferences⟩
    · exact ⟨client, mem_modifyClient.mpr (.inl ⟨hold _ hmem, hother⟩), rfl, rfl⟩
  refine ⟨hhandles, hlawful, ⟨?_, hretains.held hs.held⟩, hretains,
    fun _ other hmem => ?_, ?_⟩
  · rw [hhandles]
    refine hs.represents.replace uuid hle ?_ fun other client hmem => ?_
    · rw [records_keys, hkeys]
      exact hstartKeys
    · rw [hrecorded] at hmem
      rcases mem_modifyClient.mp hmem with ⟨hmem, hother⟩ | ⟨source, hsource, heq⟩
      · exact .inl ⟨hback _ hmem hother, hother⟩
      · cases heq
        refine .inr ⟨rfl, hsound source hsource, fun hnormal => ?_⟩
        refine (htoken source hsource hnormal).imp id fun hformer => ?_
        exact ⟨source, hformer.1, hformer.2.1, hformer.2.2⟩
  · rw [hkeys]
    rw [← records_keys] at hmem ⊢
    obtain ⟨entry, hentry, rfl⟩ := mem_map.mp hmem
    exact mem_map.mpr ⟨entry, hold entry hentry, rfl⟩
  · have hlength := congrArg List.length hkeys
    rw [length_map, length_map] at hlength
    rw [hlength]
    rcases hstart with hsame | ⟨-, hroom, index, hinserted⟩
    · rw [hsame]
      exact le_max_left _ _
    · rw [hinserted, insert_length]
      exact le_trans hroom (le_max_right _ _)

lemma Standing.count_fresh (h : Standing watched c) :
    c.handles.count (uuid, c.nextNormalGameToken + 1) = 0 :=
  count_eq_zero.mpr fun hhandle => by
    have := (h.represents.handles _ hhandle).2
    exact absurd this (Nat.not_succ_le_self _)

def reservedEntry (label : String) (mode : Mode) (token : Nat) (client : Client) : Client :=
  { client with
    label := label
    normalRequestedMode := some mode
    normalGame := true
    normalReleasePending := false
    normalGameToken := token }

lemma reserve_performs (hs : Standing watched c) (a : ReserveAnswers)
    (uuid label : String) (mode : Mode) :
    Performs watched (c.clientIdentityCapacity a.capacity) givesUp c
      (c.reserveNormalGameIdentity a uuid label mode).2 := by
  have hrefl := Performs.refl hs (c.clientIdentityCapacity a.capacity) givesUp
  unfold Coordinator.reserveNormalGameIdentity
  split
  · exact hrefl
  split
  · exact hrefl
  next hdeferred =>
  rw [Bool.not_eq_true] at hdeferred
  split
  · exact hrefl
  next hroom =>
  simp only [Bool.or_eq_true, Bool.and_eq_true, decide_eq_true_eq, not_or, not_and, not_le] at hroom
  dsimp only
  have hdrained := drained_of_not_deferred hdeferred
  obtain ⟨start, hstartEq⟩ : ∃ start, start =
    (if (c.find uuid).isNone then c.insert a.index uuid else c) := ⟨_, rfl⟩
  rw [← hstartEq]
  have hstart : start.clients = c.clients ∨ (c.find uuid = none ∧
      c.clients.length < c.clientIdentityCapacity a.capacity ∧ ∃ index,
        start.clients = (c.insert index uuid).clients) := by
    by_cases habsent : (c.find uuid).isNone = true
    · rw [if_pos habsent] at hstartEq
      exact .inr ⟨Option.isNone_iff_eq_none.mp habsent, hroom.2 habsent, a.index, by rw [hstartEq]⟩
    · rw [if_neg habsent] at hstartEq
      exact .inl (by rw [hstartEq])
  have hsame : start.handles = c.handles ∧ start.nextNormalGameToken = c.nextNormalGameToken ∧
      start.calls = c.calls := by
    rw [hstartEq]
    split <;> exact ⟨rfl, rfl, rfl⟩
  have hstartKeys : (start.clients.map (·.1)).Nodup := by
    rcases hstart with hclients | ⟨habsent, -, index, hinserted⟩
    · rw [hclients]
      exact hs.keys
    · rw [hinserted]
      exact insert_keys hs.keys habsent
  cases hfind : start.find uuid with
  | none =>
    -- an absent client was just added
    exfalso
    by_cases habsent : (c.find uuid).isNone = true
    · rw [if_pos habsent] at hstartEq
      have hnew : uuid ∈ start.clients.map (·.1) := by
        rw [hstartEq]
        exact mem_map.mpr ⟨_, mem_insert.mpr (.inl rfl), rfl⟩
      exact lookup_eq_none_iff_not_mem.mp hfind hnew
    · rw [if_neg habsent] at hstartEq
      rw [hstartEq] at hfind
      rw [hfind] at habsent
      exact habsent rfl
  | some former =>
    dsimp only
    split
    · next hkept =>
      rw [Bool.and_eq_true] at hkept
      rcases hstart with hclients | ⟨habsent, -, index, hinserted⟩
      · exact .relabel hs hsame.1 hsame.2.1 hsame.2.2 hclients
      · -- a new entry is no normal game
        have hmem := mem_of_lookup hfind
        rw [hinserted] at hmem
        rcases mem_insert.mp hmem with hnew | hold
        · cases hnew
          cases hkept.1
        · exact absurd (mem_map.mpr ⟨_, hold, rfl⟩) (lookup_eq_none_iff_not_mem.mp habsent)
    · next hopen =>
      have hformer : (uuid, former.record) ∈ records c.clients ∨
          former.record = { placementOrder := c.nextPlacementOrder + 1 } := by
        rcases hstart with hclients | ⟨-, -, index, hinserted⟩
        · left
          rw [← hclients]
          exact Standing.record_mem hfind
        · have hmem := mem_of_lookup hfind
          rw [hinserted] at hmem
          rcases mem_insert.mp hmem with hnew | hold
          · cases hnew
            exact .inr rfl
          · exact .inl (mem_records.mpr ⟨former, hold, rfl⟩)
      have hempty : former.normalCaptureReferences = [] := by
        rcases hformer with hmem | hnew
        · by_cases hnormal : former.normalGame = true
          · have hpend : former.normalReleasePending = true := by
              simpa [hnormal] using hopen
            exact hdrained uuid former.record hmem hpend
          · rw [Bool.not_eq_true] at hnormal
            have hnone := hs.represents.references_of_not_normal hmem hnormal
            exact hnone
        · exact congrArg Client.normalCaptureReferences hnew
      have hready : former.lifecycle = .ready → former.remoteMonitor = true ∧
          former.exactOutput ≠ "" ∧ former.sharedModeUnverified = false := by
        rcases hformer with hmem | hnew
        · exact (hs.represents.sound uuid former.record hmem).ready
        · intro hlifecycle
          have : former.lifecycle = .desired := congrArg Client.lifecycle hnew
          rw [this] at hlifecycle
          cases hlifecycle
      have honly : ∀ client, (uuid, client) ∈ records start.clients → client = former.record :=
        fun client hmem => (mem_records_iff_find hstartKeys hfind).mp hmem
      refine .of_replace hs start (reservedEntry label mode (start.nextNormalGameToken + 1))
        hsame.1 ?_ ?_ ?_ hstart (fun client hmem => ?_) (fun client hmem _ => .inl ?_)
        (fun client hmem hlive => ?_)
      · rw [← hsame.2.1]
        exact Nat.le_succ _
      · intro hcalls
        show LawfulCalls watched start.calls
        rw [hsame.2.2]
        exact hcalls
      · dsimp only [Coordinator.modify]
        exact records_modifyClient fun _ => rfl
      · rw [honly client hmem]
        exact {
          owned := rfl
          token := by simp [reservedEntry]
          requested := by simp [reservedEntry]
          pending := fun hpend => by cases hpend
          ready := hready
          references := by
            rw [show (reservedEntry label mode (start.nextNormalGameToken + 1)
              former.record).normalGameToken = c.nextNormalGameToken + 1 from by
                rw [← hsame.2.1]; rfl, hs.count_fresh]
            exact hempty
          minted := le_rfl }
      · rw [← hsame.2.1]
        exact Nat.lt_succ_self _
      · rcases hstart with hclients | ⟨habsent, -⟩
        · rw [← hclients] at hmem
          rw [honly client hmem] at hlive
          exact absurd hempty hlive
        · have hkey := lookup_eq_none_iff_not_mem.mp habsent
          rw [← records_keys] at hkey
          exact absurd (mem_map.mpr ⟨_, hmem, rfl⟩) hkey

/-! ## Activations -/

/-- An entry whose monitor role was taken up, and what its activation made of it. -/
structure Taken (generation : Nat) (former later : Client) : Prop where
  normalGame : later.normalGame = former.normalGame
  token : later.normalGameToken = former.normalGameToken
  requested : later.normalRequestedMode = former.normalRequestedMode
  pending : later.normalReleasePending = former.normalReleasePending
  references : later.normalCaptureReferences = former.normalCaptureReferences
  monitor : later.remoteMonitor = true
  generation : later.generation = generation
  ready : later.lifecycle = .ready → later.exactOutput ≠ "" ∧ later.sharedModeUnverified = false

lemma Reserved.taken {handles : List (String × Nat)} {nextToken generation : Nat}
    {later : Client} (h : Reserved handles nextToken uuid former)
    (htaken : Taken generation former later) : Sound handles nextToken uuid later where
  owned := by simp [Client.owning, htaken.monitor]
  token := by
    rw [htaken.normalGame, htaken.token]
    exact h.token
  requested := by
    rw [htaken.normalGame, htaken.requested]
    exact h.requested
  pending := by
    rw [htaken.pending, htaken.normalGame]
    exact h.pending
  ready := fun hready => ⟨htaken.monitor, htaken.ready hready⟩
  references := by
    rw [htaken.references, htaken.token]
    exact h.references
  minted := by
    rw [htaken.token]
    exact h.minted

def takenEntry (reconfigured : Bool) (generation : Nat) (label : String) (mode : Mode)
    (client : Client) : Client :=
  { client with
    deferredMonitorReconfiguration := client.deferredMonitorReconfiguration || reconfigured
    generation := generation
    label := label
    monitorRequestedMode := some mode
    remoteMonitor := true }

lemma activateEntry_effect (watched : List (String × Nat)) (hkeys : (c.clients.map (·.1)).Nodup)
    (hfind : c.find uuid = some former) (a : ActivationAnswers) (label : String) (mode : Mode)
    (generation : Nat) : ((former.monitorReleasePending = true ∨ generation < former.generation ∨
        former.remoteMonitor = true) ∧
      ∃ update, Effect watched c (c.activateEntry a uuid label mode generation).2
        (modifyClient uuid update) ∧ (∀ client, Adjusts client (update client) ∧
          (update client).lifecycle = client.lifecycle ∧
          (update client).exactOutput = client.exactOutput ∧
          (update client).sharedModeUnverified = client.sharedModeUnverified)) ∨
      ∃ update, Effect watched c (c.activateEntry a uuid label mode generation).2
        (modifyClient uuid update) ∧ ∀ client, Taken generation client (update client) := by
  unfold Coordinator.activateEntry
  rw [hfind]
  dsimp only
  have hsame : ∀ client : Client, Adjusts client client ∧ client.lifecycle = client.lifecycle ∧
      client.exactOutput = client.exactOutput ∧
      client.sharedModeUnverified = client.sharedModeUnverified :=
    fun _ => ⟨⟨rfl, rfl, rfl, rfl, rfl, rfl, rfl⟩, rfl, rfl, rfl⟩
  have hrefl : Effect watched c c (modifyClient uuid id) :=
    Effect.refl.congr (modifyClient_eq_self fun _ _ => rfl).symm
  split
  · next hpend =>
    rw [Bool.and_eq_true] at hpend
    exact .inl ⟨.inl hpend.1, id, hrefl, hsame⟩
  generalize hclear : (if former.monitorReleasePending then c.modify uuid fun client =>
      { client with monitorReleasePending := false, monitorReleaseReason := "" } else c) = cleared
  have hcleared : ∃ update, Effect watched c cleared (modifyClient uuid update) ∧ (∀ client, Adjusts client (update client) ∧
        (update client).lifecycle = client.lifecycle ∧
        (update client).exactOutput = client.exactOutput ∧
        (update client).sharedModeUnverified = client.sharedModeUnverified) := by
    rw [← hclear]
    split
    · refine ⟨fun client =>
        { client with monitorReleasePending := false, monitorReleaseReason := "" }, ?_, ?_⟩
      · exact .modify _ fun _ => rfl
      · exact fun _ => ⟨⟨rfl, rfl, rfl, rfl, rfl, rfl, rfl⟩, rfl, rfl, rfl⟩
    · exact ⟨id, hrefl, hsame⟩
  have hfound : (cleared.find uuid).isSome := by
    rw [← hclear]
    split
    · rw [find_modify_self, hfind]
      rfl
    · rw [hfind]
      rfl
  obtain ⟨update, heffect, hupdate⟩ := hcleared
  split
  · next hstale => exact .inl ⟨.inr (.inl hstale), update, heffect, hupdate⟩
  split
  · next hready =>
    rw [Bool.and_eq_true, Bool.and_eq_true] at hready
    exact .inl ⟨.inr (.inr hready.1.2), update, heffect, hupdate⟩
  right
  generalize (cleared.callbacks.finalizeMode && former.leaseHeld && _) = reconfigured
  generalize hmodify : (cleared.modify uuid fun client =>
      { client with
        deferredMonitorReconfiguration := client.deferredMonitorReconfiguration || reconfigured
        generation := generation
        label := label
        monitorRequestedMode := some mode
        effectiveMode := mode
        remoteMonitor := true }) = taken
  have htaken : Effect watched c taken
      (modifyClient uuid (takenEntry reconfigured generation label mode ∘ update)) := by
    subst hmodify
    refine (heffect.trans (.modify (takenEntry reconfigured generation label mode)
      fun _ => rfl)).congr ?_
    exact modifyClient_modifyClient
  have htakenKeys : (taken.clients.map (·.1)).Nodup := by
    rw [← records_keys, htaken.recorded, modifyClient_keys, records_keys]
    exact hkeys
  have htakenFound : (taken.find uuid).isSome := by
    rw [← hmodify, find_modify_self]
    simpa using hfound
  have hrevises : Revises watched uuid Activates taken (taken.activateLocked a uuid) :=
    activateLocked_revises htakenKeys a htakenFound
  obtain ⟨activate, hactivated, hactivates⟩ := hrevises
  refine ⟨activate ∘ takenEntry reconfigured generation label mode ∘ update, ?_, fun client => ?_⟩
  · exact ((htaken.trans hactivated).congr modifyClient_modifyClient).relabel rfl rfl rfl rfl rfl
  · have hlast := hactivates (takenEntry reconfigured generation label mode (update client))
    have hfirst := (hupdate client).1
    exact ⟨hlast.normalGame.trans hfirst.normalGame, hlast.token.trans hfirst.token,
      hlast.requested.trans hfirst.requested, hlast.pending.trans hfirst.pending,
      hlast.references.trans hfirst.references, hlast.monitor, hlast.generation, hlast.ready⟩

lemma Performs.after_same {mid : Coordinator} (first : Effect watched c mid id)
    (second : Performs watched room givesUp mid later) : Performs watched room givesUp c later where
  handles := second.handles.trans first.frame.handles
  lawful := second.lawful ∘ first.lawful
  standing := second.standing
  retains := fun uuid client hmem => second.retains uuid client (by rw [first.recorded]; exact hmem)
  stays := fun hnever uuid hmem => second.stays hnever (by rw [first.keys]; exact hmem)
  length := by
    have hlength := congrArg List.length first.keys
    rw [length_map, length_map] at hlength
    rw [← hlength]
    exact second.length

section

variable (hs : Standing watched c)

include hs

lemma activateEntry_performs (a : ActivationAnswers)
    (uuid label : String) (mode : Mode) (generation : Nat)
    (hroom : (c.find uuid).isNone = true → c.clients.length < room) :
    Performs watched room givesUp c
      ((if (c.find uuid).isNone then c.insert a.index uuid else c).activateEntry a uuid label mode
        generation).2 := by
  obtain ⟨start, hstartEq⟩ : ∃ start, start =
    (if (c.find uuid).isNone then c.insert a.index uuid else c) := ⟨_, rfl⟩
  rw [← hstartEq]
  have hsame : start.handles = c.handles ∧ start.nextNormalGameToken = c.nextNormalGameToken ∧
      start.calls = c.calls := by
    rw [hstartEq]
    split <;> exact ⟨rfl, rfl, rfl⟩
  by_cases habsent : (c.find uuid).isNone = true
  · -- a new entry is never rejected
    rw [if_pos habsent] at hstartEq
    have hnone := Option.isNone_iff_eq_none.mp habsent
    have hkeys : (start.clients.map (·.1)).Nodup := by
      rw [hstartEq]
      exact insert_keys hs.keys hnone
    have hmem : (uuid, { placementOrder := c.nextPlacementOrder + 1 }) ∈ start.clients := by
      rw [hstartEq]
      exact mem_insert.mpr (.inl rfl)
    have hfind : start.find uuid = some { placementOrder := c.nextPlacementOrder + 1 } :=
      lookup_of_mem hkeys hmem
    have heffect := activateEntry_effect watched hkeys hfind a label mode generation
    rcases heffect with ⟨hrejected, -⟩ | ⟨update, heffect, htaken⟩
    · rcases hrejected with hpend | hstale | hremote
      · cases hpend
      · exact absurd hstale (Nat.not_lt_zero _)
      · cases hremote
    · have honly : ∀ client, (uuid, client) ∈ records start.clients →
          Reserved c.handles c.nextNormalGameToken uuid client ∧ client.normalGame = false := by
        intro client hclient
        rw [(mem_records_iff_find hkeys hfind).mp hclient]
        exact ⟨.of_unreserved hs.represents.handles rfl rfl rfl rfl rfl, rfl⟩
      refine .of_replace hs start update (heffect.frame.handles.trans hsame.1)
        (by rw [heffect.frame.nextToken, hsame.2.1]) (fun hcalls => heffect.lawful
          (by rw [hsame.2.2]; exact hcalls)) heffect.recorded
        (.inr ⟨hnone, hroom habsent, a.index, by rw [hstartEq]⟩) (fun client hclient => ?_)
        (fun client hclient hnormal => ?_) fun client hclient _ => ?_
      · rw [heffect.frame.nextToken, hsame.2.1]
        exact (honly client hclient).1.taken (htaken client)
      · rw [(htaken client).normalGame, (honly client hclient).2] at hnormal
        cases hnormal
      · have hkey := lookup_eq_none_iff_not_mem.mp hnone
        rw [← records_keys] at hkey
        exact absurd (mem_map.mpr ⟨_, hclient, rfl⟩) hkey
  · rw [if_neg habsent] at hstartEq
    subst hstartEq
    obtain ⟨former, hfind⟩ := Option.isSome_iff_exists.mp
      (by simpa [Option.isSome_iff_ne_none] using habsent : (start.find uuid).isSome)
    have heffect := activateEntry_effect watched hs.keys hfind a label mode
      generation
    rcases heffect with ⟨-, update, heffect, hupdate⟩ | ⟨update, heffect, htaken⟩
    · refine .of_modify hs heffect (fun client hmem => ?_)
        (fun client => (hupdate client).1.normalGame) (fun client => (hupdate client).1.token)
        fun client => (hupdate client).1.references
      have hsound := hs.represents.sound uuid client hmem
      obtain ⟨hadjusts, hlifecycle, houtput, hverified⟩ := hupdate client
      refine ⟨?_, ?_, ?_, ?_, ?_, ?_, ?_⟩
      · rw [Client.owning, hadjusts.normalGame, hadjusts.monitor]
        exact hsound.owned
      · rw [hadjusts.normalGame, hadjusts.token]
        exact hsound.token
      · rw [hadjusts.normalGame, hadjusts.requested]
        exact hsound.requested
      · rw [hadjusts.pending, hadjusts.normalGame]
        exact hsound.pending
      · rw [hlifecycle, houtput, hverified, hadjusts.monitor]
        exact hsound.ready
      · rw [hadjusts.references, hadjusts.token]
        exact hsound.references
      · rw [hadjusts.token]
        exact hsound.minted
    · exact .of_modify hs heffect
        (fun client hmem => (hs.represents.sound uuid client hmem).reserved.taken
          (htaken client)) (fun client => (htaken client).normalGame)
        (fun client => (htaken client).token) fun client => (htaken client).references

lemma activateOrResume_performs (a : ActivationAnswers)
    (uuid label : String) (mode : Mode) (generation : Nat) :
    Performs watched (c.clientIdentityCapacity a.capacity) givesUp c
      (c.activateOrResume a uuid label mode generation).2 := by
  unfold Coordinator.activateOrResume
  split
  · exact Performs.refl hs _ givesUp
  have hrefresh : Effect watched _ _ id := .refresh c a.geometryFirst uuid
  cases hround : c.refreshGeometry a.geometryFirst uuid with
  | mk known refreshed =>
  rw [hround] at hrefresh
  dsimp only at hrefresh ⊢
  split
  · exact Performs.of_same hs hrefresh _ givesUp
  split
  · exact Performs.of_same hs hrefresh _ givesUp
  have hnoted : Effect watched c
      { refreshed with
        observedMonitorGenerations :=
          Function.update refreshed.observedMonitorGenerations uuid generation } id :=
    hrefresh.relabel rfl rfl rfl rfl rfl
  have hsame := Performs.of_same hs hnoted (c.clientIdentityCapacity a.capacity)
    givesUp
  split
  · exact hsame
  split
  · exact hsame
  split
  · exact hsame
  next hroom =>
  refine .after_same hnoted (activateEntry_performs hsame.standing a uuid label mode generation
    fun habsent => ?_)
  rw [Bool.and_eq_true, habsent, decide_eq_true_eq, Coordinator.clientIdentityCapacity,
    hnoted.frame.callbacks] at hroom
  simpa [Coordinator.clientIdentityCapacity] using hroom

lemma resume_performs (a : ActivationAnswers) (uuid : String) :
    Performs watched room givesUp c (c.resumeRemoteMonitor a uuid).2 := by
  have hrefl := Performs.refl hs room givesUp
  unfold Coordinator.resumeRemoteMonitor
  split
  · exact hrefl
  cases hfind : c.find uuid with
  | none => exact hrefl
  | some former =>
    dsimp only
    split
    · exact hrefl
    next hremote =>
    split
    · exact hrefl
    have hrevises : Revises watched uuid Activates c (c.activateLocked a uuid) :=
      activateLocked_revises hs.keys a (by rw [hfind]; rfl)
    obtain ⟨update, heffect, hupdate⟩ := hrevises
    refine .of_modify hs heffect (fun client hmem => ?_)
      (fun client => (hupdate client).normalGame) (fun client => (hupdate client).token)
      fun client => (hupdate client).references
    have hclient : client.remoteMonitor = true := by
      rw [hs.mem hfind hmem]
      show former.remoteMonitor = true
      simpa using hremote
    have hlast := hupdate client
    exact (hs.represents.sound uuid client hmem).reserved.taken
      ⟨hlast.normalGame, hlast.token, hlast.requested, hlast.pending, hlast.references,
        hlast.monitor.trans hclient, hlast.generation, hlast.ready⟩

end

end

end Vibeshine.RemoteDisplay
