import Vibeshine.RemoteDisplay.Captures

/-! # Runs of the coordinator

What every operation does, assembled from the lemmas of the single operations, and
what therefore holds in every state of every run.
-/

namespace Vibeshine.RemoteDisplay

open Library (System)

namespace Operation

/-- The operation leaves handles, and the order of the entries, alone, and it is not
the shutdown that forgets them. -/
def Plain : Operation → Prop
  | .retain _ _ | .dropCapture _ _ | .rehash _ | .shutdown true _ => False
  | _ => True

def Releases : Operation → Prop
  | .release _ _ _ _ | .releaseDrained _ | .releaseAll _ _ | .releaseIdle _ _ _ _ _
  | .explicitRelease _ _ _ _ | .disconnect _ _ | .unpair _ _ | .shutdown false _ => True
  | _ => False

def Keeps : Operation → Prop
  | .shutdown true _ => False
  | _ => True

end Operation

namespace Coordinator

def GivesUp (c : Coordinator) : Operation → Prop
  | .rollback begun protectedOutput uuid token =>
    (c.rollbackNormalGameIdentity begun protectedOutput uuid token).1 = true
  | .completeRestored _ | .shutdown true _ => True
  | _ => False

def room (c : Coordinator) : Operation → Nat
  | .reserve a _ _ _ => c.clientIdentityCapacity a.capacity
  | .activateOrResume a _ _ _ _ => c.clientIdentityCapacity a.capacity
  | _ => 0

def CapacityIs (capacity : Nat) (c : Coordinator) : Operation → Prop
  | .reserve a _ _ _ => c.clientIdentityCapacity a.capacity = capacity
  | .activateOrResume a _ _ _ _ => c.clientIdentityCapacity a.capacity = capacity
  | _ => True

end Coordinator

section

variable {watched : List (String × Nat)} {c : Coordinator} {operation : Operation}

lemma perform_moves (hs : Standing watched c) (hreleases : operation.Releases) :
    Moves watched c (c.perform operation) := by
  cases operation with
  | release protectedOutput a uuid token => exact release_moves hs protectedOutput a uuid token
  | releaseDrained a => exact drain_moves hs a
  | releaseAll protectedOutput answers => exact releaseAll_moves hs protectedOutput answers
  | releaseIdle appRunning captureRuntimeOwned protectedOutput answers a =>
    exact idle_moves hs appRunning captureRuntimeOwned protectedOutput answers a
  | explicitRelease a uuid generation reason =>
    exact explicitRelease_moves hs a uuid generation reason
  | disconnect a uuid | unpair a uuid => exact disconnect_moves hs a uuid
  | shutdown preserveOwnedDisplays a =>
    cases preserveOwnedDisplays with
    | false => exact shutdown_moves hs a
    | true => exact hreleases.elim
  | _ => exact hreleases.elim

lemma perform_performs (hs : Standing watched c) (hplain : operation.Plain) :
    Performs watched (c.room operation) (c.GivesUp operation ∨ operation.Releases) c
      (c.perform operation) := by
  by_cases hreleases : operation.Releases
  · exact (perform_moves hs hreleases).performs _ fun hnever =>
      absurd (.inr hreleases) hnever
  have hgives : ∀ {room : Nat} {later : Coordinator} {givesUp : Prop},
      Performs watched room givesUp c later →
      Performs watched room (givesUp ∨ operation.Releases) c later :=
    fun h => ⟨h.handles, h.lawful, h.standing, h.retains, fun hnever => h.stays (hnever ∘ .inl),
      h.length⟩
  cases operation with
  | setRuntimeCallbacks | setLayout | setPhysicalBaseline =>
    exact .relabel hs rfl rfl rfl rfl
  | refreshIdlePhysicalBaseline nodes =>
    unfold Coordinator.perform Coordinator.refreshIdlePhysicalBaseline
    dsimp only
    split <;> exact .relabel hs rfl rfl rfl rfl
  | reserve a uuid label mode => exact reserve_performs hs a uuid label mode
  | reapply a => exact reapply_performs hs a
  | rollback begun protectedOutput uuid token =>
    exact hgives (rollback_performs hs begun protectedOutput uuid token)
  | completeRestored protectedOutput =>
    exact hgives (completeRestored_performs hs protectedOutput)
  | activateOrResume a uuid label mode generation =>
    exact activateOrResume_performs hs a uuid label mode generation
  | resume a uuid => exact resume_performs hs a uuid
  | transportLost uuid generation => exact transportLost_performs hs uuid generation
  | noteLeaseLost uuid => exact noteLeaseLost_performs hs uuid
  | shutdown preserveOwnedDisplays a =>
    cases preserveOwnedDisplays with
    | false => exact absurd trivial hreleases
    | true => exact hplain.elim
  | retain | dropCapture | rehash => exact hplain.elim
  | _ => exact absurd trivial hreleases

lemma Standing.uncalled (h : Standing watched c) : Standing watched { c with calls := [] } :=
  ⟨h.represents, h.held⟩

lemma Standing.rehash {clients : Clients} (h : Standing [] c) (hperm : clients.Perm c.clients) :
    Standing [] { c with clients := clients } := by
  have hentries : (records clients).Perm (records c.clients) := hperm.map _
  refine ⟨h.represents.subset ?_ fun entry hmem => hentries.mem_iff.mp hmem,
    fun _ _ hmem => by cases hmem⟩
  exact (hentries.map _).nodup_iff.mpr h.represents.keys

lemma step_standing (h : Standing [] c) (hadmits : c.Admits operation) :
    Standing [] (c.step operation) ∧ LawfulCalls [] (c.step operation).calls ∧
      (c.step operation).clients.length ≤ max c.clients.length (c.room operation) := by
  by_cases hplain : operation.Plain
  · have hperforms := perform_performs h.uncalled hplain
    have hroom : ({ c with calls := [] } : Coordinator).room operation = c.room operation := by
      cases operation <;> rfl
    exact ⟨hperforms.standing, hperforms.lawful trivial, hroom ▸ hperforms.length⟩
  cases operation with
  | retain uuid token =>
    refine ⟨retain_standing h.uncalled uuid token, ?_, ?_⟩
    · rcases retain_cases { c with calls := [] } uuid token with hsame | ⟨-, -, heq⟩
      · show LawfulCalls [] (Coordinator.retainNormalGameCapture _ uuid token).calls
        rw [hsame]
        trivial
      · show LawfulCalls [] (Coordinator.retainNormalGameCapture _ uuid token).calls
        rw [heq]
        trivial
    · rcases retain_cases { c with calls := [] } uuid token with hsame | ⟨-, -, heq⟩
      · show (Coordinator.retainNormalGameCapture _ uuid token).clients.length ≤ _
        rw [hsame]
        exact le_max_left _ _
      · show (Coordinator.retainNormalGameCapture _ uuid token).clients.length ≤ _
        rw [heq, Coordinator.modify, modifyClient, List.length_map]
        exact le_max_left _ _
  | dropCapture uuid token =>
    refine ⟨drop_standing h.uncalled uuid token, trivial, ?_⟩
    show (recountEntry uuid (dropReference token) c.clients).length ≤ _
    rw [recountEntry, modifyClient, List.length_map]
    exact le_max_left _ _
  | rehash clients =>
    refine ⟨h.uncalled.rehash hadmits, trivial, ?_⟩
    show clients.length ≤ _
    rw [List.Perm.length_eq hadmits]
    exact le_max_left _ _
  | shutdown preserveOwnedDisplays a =>
    cases preserveOwnedDisplays with
    | false => exact absurd trivial hplain
    | true =>
      refine ⟨⟨?_, fun _ _ hmem => by cases hmem⟩, trivial, zero_le⟩
      exact h.represents.subset List.nodup_nil fun _ hmem => by cases hmem
  | _ => exact absurd trivial hplain

end

/-! ## The representation invariant -/

variable {c : Coordinator}

lemma initial_standing : Standing [] coordinatorSystem.init :=
  ⟨⟨List.nodup_nil, fun _ _ hmem => (by cases hmem), fun _ _ _ _ hmem => (by cases hmem),
    fun _ hmem => (by cases hmem)⟩, fun _ _ hmem => (by cases hmem)⟩

lemma reachable_step {operation : Operation} (h : coordinatorSystem.Reachable c)
    (hadmits : c.Admits operation) : coordinatorSystem.Reachable (c.step operation) :=
  .snoc h hadmits trivial

lemma reachable_standing (h : coordinatorSystem.Reachable c) :
    Standing [] c ∧ LawfulCalls [] c.calls := by
  induction h with
  | refl => exact ⟨initial_standing, trivial⟩
  | snoc before hadmits hmeets ih =>
    obtain ⟨hs, hlawful, -⟩ := step_standing ih.1 hadmits
    exact ⟨hs, hlawful⟩

lemma length_le_of_capacity {capacity : Nat}
    (h : coordinatorSystem.ReachableUnder (Coordinator.CapacityIs capacity) c) :
    c.clients.length ≤ capacity := by
  induction h with
  | refl => exact zero_le
  | @snoc state operation before hadmits hcapacity ih =>
    obtain ⟨hs, -⟩ := reachable_standing (before.mono fun _ _ _ => trivial)
    obtain ⟨-, -, hlength⟩ := step_standing hs hadmits
    have hroom : state.room operation ≤ capacity := by
      cases operation with
      | reserve _ | activateOrResume _ => exact le_of_eq hcapacity
      | _ => exact zero_le
    exact le_trans hlength (Nat.max_le.mpr ⟨ih, hroom⟩)

lemma Sound.counted {handles : List (String × Nat)} {nextToken token count : Nat} {uuid : String}
    {client : Client} (h : Sound handles nextToken uuid client)
    (hmem : (token, count) ∈ client.normalCaptureReferences) :
    token = client.normalGameToken ∧ 0 < count ∧ count = handles.count (uuid, token) := by
  rw [h.references] at hmem
  cases hcount : handles.count (uuid, client.normalGameToken) with
  | zero =>
    rw [hcount] at hmem
    cases hmem
  | succ rest =>
    rw [hcount] at hmem
    cases List.mem_singleton.mp hmem
    exact ⟨rfl, Nat.succ_pos _, hcount.symm⟩

/-- In every state of every run the entries keep the facts of their fields, tokens of
different clients differ, references count the live handles, and the number of entries
stays within a constant capacity. -/
theorem representation_invariant (hreach : coordinatorSystem.Reachable c) :
    (c.clients.map (·.1)).Nodup ∧ (∀ uuid client, (uuid, client) ∈ c.clients →
        (client.normalGame = true ∨ client.remoteMonitor = true) ∧
        (client.normalGame = true ↔ client.normalGameToken ≠ 0) ∧
        (client.normalGame = true ↔ client.normalRequestedMode.isSome = true) ∧
        (client.normalReleasePending = true → client.normalGame = true) ∧
        (∀ token count, (token, count) ∈ client.normalCaptureReferences →
          token = client.normalGameToken ∧ 0 < count ∧ count = c.handles.count (uuid, token)) ∧
        (client.lifecycle = .ready → client.remoteMonitor = true ∧ client.exactOutput ≠ "" ∧
          client.sharedModeUnverified = false)) ∧
      (∀ uuid client other peer, (uuid, client) ∈ c.clients → (other, peer) ∈ c.clients →
        uuid ≠ other → client.normalGameToken ≠ 0 → peer.normalGameToken ≠ 0 →
          client.normalGameToken ≠ peer.normalGameToken) ∧
      ∀ capacity, coordinatorSystem.ReachableUnder (Coordinator.CapacityIs capacity) c →
        c.clients.length ≤ capacity := by
  obtain ⟨hs, -⟩ := reachable_standing hreach
  have hrecord : ∀ uuid client, (uuid, client) ∈ c.clients →
      (uuid, client.record) ∈ records c.clients := fun uuid client hmem =>
    mem_records.mpr ⟨client, hmem, rfl⟩
  have hsound : ∀ uuid client, (uuid, client) ∈ c.clients →
      Sound c.handles c.nextNormalGameToken uuid client := by
    intro uuid client hmem
    have hsound := hs.represents.sound uuid _ (hrecord uuid client hmem)
    exact ⟨hsound.owned, hsound.token, hsound.requested, hsound.pending, hsound.ready,
      hsound.references, hsound.minted⟩
  refine ⟨hs.keys, fun uuid client hmem => ?_,
    fun uuid client other peer hmem hpeer hne htoken htoken' => ?_,
    fun capacity => length_le_of_capacity⟩
  · have hclient := hsound uuid client hmem
    refine ⟨?_, hclient.token, hclient.requested, hclient.pending, fun _ _ => hclient.counted,
      hclient.ready⟩
    have howned := hclient.owned
    rwa [Client.owning, Bool.or_eq_true] at howned
  · exact hs.represents.distinct uuid client.record other peer.record
      (hrecord uuid client hmem) (hrecord other peer hpeer) hne ((hsound uuid client hmem).token.mpr htoken)
      ((hsound other peer hpeer).token.mpr htoken')

def capturedRun : List Operation := [.reserve {} "tablet" "Tablet" {}, .retain "tablet" 1]

def captured : Coordinator := coordinatorSystem.run coordinatorSystem.init capturedRun

lemma captured_follows : coordinatorSystem.Follows (Coordinator.CapacityIs 4)
    coordinatorSystem.init capturedRun :=
  ⟨trivial, rfl, trivial, trivial, trivial⟩

lemma captured_reachable : coordinatorSystem.ReachableUnder (Coordinator.CapacityIs 4) captured :=
  System.Segment.of_follows .refl captured_follows

theorem representation_invariant_captured :
    captured.clients.map (·.1) = ["tablet"] ∧ captured.handles = [("tablet", 1)] ∧
      captured.clients.length ≤ 4 :=
  ⟨by decide, by decide,
    (representation_invariant captured_reachable.reachable).2.2.2 4 captured_reachable⟩

/-! ## Captured outputs -/

lemma reachable_tied (h : coordinatorSystem.ReachableUnder (fun _ operation => operation.Keeps) c) :
    Tied c.handles (records c.clients) := by
  induction h with
  | refl => intro uuid token hmem; cases hmem
  | @snoc state operation before hadmits hkeeps ih =>
    obtain ⟨hs, -⟩ := reachable_standing (before.mono fun _ _ _ => trivial)
    have htied : Tied ({ state with calls := [] } : Coordinator).handles
      (records ({ state with calls := [] } : Coordinator).clients) := ih
    by_cases hplain : operation.Plain
    · exact (perform_performs hs.uncalled hplain).tied hs.uncalled htied
    cases operation with
    | retain uuid token => exact retain_tied htied uuid token
    | dropCapture uuid token => exact drop_tied htied uuid token
    | rehash clients =>
      intro uuid token hmem
      obtain ⟨client, hclient, htoken⟩ := ih uuid token hmem
      have hperm : (records clients).Perm (records state.clients) := List.Perm.map _ hadmits
      exact ⟨client, hperm.mem_iff.mpr hclient, htoken⟩
    | shutdown preserveOwnedDisplays a =>
      cases preserveOwnedDisplays with
      | false => exact absurd trivial hplain
      | true => exact hkeeps.elim
    | _ => exact absurd trivial hplain

lemma step_calls_of_not_plain {operation : Operation} (h : ¬ operation.Plain) :
    (c.step operation).calls = [] := by
  cases operation with
  | retain uuid token =>
    rcases retain_cases { c with calls := [] } uuid token with hsame | ⟨-, -, heq⟩
    · exact congrArg Coordinator.calls hsame
    · exact congrArg Coordinator.calls heq
  | dropCapture | rehash => rfl
  | shutdown preserveOwnedDisplays a =>
    cases preserveOwnedDisplays with
    | false => exact absurd trivial h
    | true => rfl
  | _ => exact absurd trivial h

def Call.Removes (uuid : String) (clients : Clients) (call : Call) : Prop :=
  ∃ answer, call = .removed uuid clients answer ∨ call = .terminated uuid clients answer

/-- Whenever an operation removes the display of a client, the client has no live
capture handle and no remaining role, and no operation erases an entry that a live
handle was taken from. -/
theorem captured_output_not_removed {operation : Operation}
    (hreach : coordinatorSystem.ReachableUnder (fun _ operation => operation.Keeps) c)
    (hadmits : c.Admits operation) (hkeeps : operation.Keeps) :
    (∀ call ∈ (c.step operation).calls, ∀ uuid clients, call.Removes uuid clients →
      (∀ token, (uuid, token) ∉ c.handles) ∧ ∀ client, (uuid, client) ∈ clients →
          client.normalGame = false ∧ client.remoteMonitor = false) ∧
      ∀ uuid token, (uuid, token) ∈ c.handles →
        (∃ client, (uuid, client) ∈ c.clients ∧ client.normalGameToken = token) ∧
          ∃ client, (uuid, client) ∈ (c.step operation).clients ∧
            client.normalGameToken = token := by
  obtain ⟨hs, -⟩ := reachable_standing hreach.reachable
  have htied := reachable_tied hreach
  have hwatching : Standing c.handles c := ⟨hs.represents, htied.held hs.represents⟩
  have hentry : ∀ {entries : Clients} {uuid token},
      (∃ client, (uuid, client) ∈ records entries ∧ client.normalGameToken = token) →
        ∃ client, (uuid, client) ∈ entries ∧ client.normalGameToken = token := by
    rintro entries uuid token ⟨client, hclient, htoken⟩
    obtain ⟨source, hsource, rfl⟩ := mem_records.mp hclient
    exact ⟨source, hsource, htoken⟩
  refine ⟨fun call hcall uuid clients hremoves => ?_, fun uuid token hmem =>
    ⟨hentry (htied uuid token hmem), hentry ?_⟩⟩
  · by_cases hplain : operation.Plain
    · have hlawful := (perform_performs hwatching.uncalled hplain).lawful trivial
      obtain ⟨newer, before, hsplit⟩ := List.append_of_mem hcall
      have hcalled := hlawful.of_suffix ⟨newer, hsplit.symm⟩
      have hunowned : (∀ token, (uuid, token) ∉ c.handles) ∧
          ∀ client, (uuid, client) ∈ clients → client.owning = false := by
        obtain ⟨answer, rfl | rfl⟩ := hremoves <;> exact hcalled
      refine ⟨hunowned.1, fun client hmem => ?_⟩
      have howning := hunowned.2 client hmem
      rwa [Client.owning, Bool.or_eq_false_iff] at howning
    · rw [step_calls_of_not_plain hplain] at hcall
      cases hcall
  · by_cases hplain : operation.Plain
    · have hperforms := perform_performs hwatching.uncalled hplain
      refine hperforms.tied hwatching.uncalled htied uuid token ?_
      rw [hperforms.handles]
      exact hmem
    cases operation with
    | retain key other =>
      refine retain_tied (c := { c with calls := [] }) htied key other uuid token ?_
      rcases retain_cases { c with calls := [] } key other with hsame | ⟨-, -, heq⟩
      · rw [hsame]
        exact hmem
      · rw [heq]
        exact List.mem_cons_of_mem _ hmem
    | dropCapture key other =>
      show ∃ client, (uuid, client) ∈ records (recountEntry key (dropReference other) c.clients) ∧
        client.normalGameToken = token
      rw [records_recountEntry]
      exact Tied.recount htied uuid token hmem
    | rehash clients =>
      obtain ⟨client, hclient, htoken⟩ := htied uuid token hmem
      have hperm : (records clients).Perm (records c.clients) := List.Perm.map _ hadmits
      exact ⟨client, hperm.mem_iff.mpr hclient, htoken⟩
    | shutdown preserveOwnedDisplays a =>
      cases preserveOwnedDisplays with
      | false => exact absurd trivial hplain
      | true => exact hkeeps.elim
    | _ => exact absurd trivial hplain

def pairedRun : List Operation :=
  [.setRuntimeCallbacks { applyComposedTopology := true, removeOwnedDisplay := true },
    .reserve {} "tablet" "Tablet" {}, .reserve {} "phone" "Phone" {}, .retain "phone" 2]

def paired : Coordinator := coordinatorSystem.run coordinatorSystem.init pairedRun

lemma paired_reachable :
    coordinatorSystem.ReachableUnder (fun _ operation => operation.Keeps) paired :=
  System.Segment.of_follows .refl (show coordinatorSystem.Follows _ _ pairedRun from
    ⟨trivial, trivial, trivial, trivial, trivial, trivial, trivial, trivial, trivial⟩)

theorem captured_output_not_removed_paired :
    (paired.step (.release false {} "tablet" 1)).clients.map (·.1) = ["phone"] ∧
      ∃ client, ("phone", client) ∈ (paired.step (.release false {} "tablet" 1)).clients ∧
        client.normalGameToken = 2 :=
  ⟨by decide, ((@captured_output_not_removed paired (.release false {} "tablet" 1)
    paired_reachable trivial trivial).2 "phone" 2 (by decide)).2⟩

end Vibeshine.RemoteDisplay
