import Vibeshine.RemoteDisplay.Entries

/-! # Ownership records

The representation invariant of the coordinator's entries, and what a release
routine may do to them. A routine is described by its effect on the records: it
leaves them alone, ends one of two roles, or removes an entry whose display was
confirmed to be gone.
-/

namespace Vibeshine.RemoteDisplay

open List

/-! ## The representation invariant -/

/-- The references of a client whose current token has `count` live handles. -/
def tally (token : Nat) : Nat → List (Nat × Nat)
  | 0 => []
  | count + 1 => [(token, count + 1)]

/-- The facts one entry keeps. -/
structure Sound (handles : List (String × Nat)) (nextToken : Nat) (uuid : String)
    (client : Client) : Prop where
  owned : client.owning = true
  token : client.normalGame = true ↔ client.normalGameToken ≠ 0
  requested : client.normalGame = true ↔ client.normalRequestedMode.isSome = true
  pending : client.normalReleasePending = true → client.normalGame = true
  ready : client.lifecycle = .ready → client.remoteMonitor = true ∧ client.exactOutput ≠ "" ∧
    client.sharedModeUnverified = false
  references : client.normalCaptureReferences =
    tally client.normalGameToken (handles.count (uuid, client.normalGameToken))
  minted : client.normalGameToken ≤ nextToken

/-- The representation invariant, over the records of the entries. -/
structure Represents (handles : List (String × Nat)) (nextToken : Nat) (entries : Clients) :
    Prop where
  keys : (entries.map (·.1)).Nodup
  sound : ∀ uuid client, (uuid, client) ∈ entries → Sound handles nextToken uuid client
  distinct : ∀ uuid client other peer, (uuid, client) ∈ entries → (other, peer) ∈ entries →
    uuid ≠ other → client.normalGame = true → peer.normalGame = true →
      client.normalGameToken ≠ peer.normalGameToken
  handles : ∀ handle ∈ handles, handle.2 ≠ 0 ∧ handle.2 ≤ nextToken

def Held (watched : List (String × Nat)) (entries : Clients) : Prop :=
  ∀ uuid token, (uuid, token) ∈ watched →
    ∃ client, (uuid, client) ∈ entries ∧ client.normalCaptureReferences ≠ []

namespace Represents

variable {handles : List (String × Nat)} {nextToken : Nat} {entries : Clients} {uuid : String}

section

variable (h : Represents handles nextToken entries)

include h

lemma subset {rest : Clients}
    (hkeys : (rest.map (·.1)).Nodup) (hsubset : ∀ entry ∈ rest, entry ∈ entries) :
    Represents handles nextToken rest where
  keys := hkeys
  sound := fun uuid client hmem => h.sound uuid client (hsubset _ hmem)
  distinct := fun uuid client other peer hmem hpeer =>
    h.distinct uuid client other peer (hsubset _ hmem) (hsubset _ hpeer)
  handles := h.handles

lemma eraseClient (uuid : String) : Represents handles nextToken (eraseClient uuid entries) :=
  h.subset (eraseClient_keys_nodup h.keys) fun _ hmem => (mem_eraseClient.mp hmem).1

lemma modifyClient {f : Client → Client}
    (hsound : ∀ client, (uuid, client) ∈ entries → Sound handles nextToken uuid (f client))
    (htoken : ∀ client, (uuid, client) ∈ entries → (f client).normalGame = true →
      client.normalGame = true ∧ (f client).normalGameToken = client.normalGameToken) :
    Represents handles nextToken (modifyClient uuid f entries) where
  keys := by
    rw [modifyClient_keys]
    exact h.keys
  sound := fun other client hmem => by
    rcases mem_modifyClient.mp hmem with ⟨hmem, -⟩ | ⟨source, hsource, heq⟩
    · exact h.sound other client hmem
    · cases heq
      exact hsound source hsource
  distinct := fun first client second peer hfirst hsecond hne hnormal hpeer => by
    rcases mem_modifyClient.mp hfirst with ⟨hfirst, -⟩ | ⟨source, hsource, heq⟩
    · rcases mem_modifyClient.mp hsecond with ⟨hsecond, -⟩ | ⟨source, hsource, heq⟩
      · exact h.distinct first client second peer hfirst hsecond hne hnormal hpeer
      · cases heq
        obtain ⟨hbefore, htokens⟩ := htoken source hsource hpeer
        rw [htokens]
        exact h.distinct first client uuid source hfirst hsource hne hnormal hbefore
    · cases heq
      obtain ⟨hbefore, htokens⟩ := htoken source hsource hnormal
      rw [htokens]
      rcases mem_modifyClient.mp hsecond with ⟨hsecond, -⟩ | ⟨other, hother, heq⟩
      · exact h.distinct uuid source second peer hsource hsecond hne hbefore hpeer
      · cases heq
        exact absurd rfl hne
  handles := h.handles

lemma references_of_not_normal {client : Client}
    (hmem : (uuid, client) ∈ entries) (hnormal : client.normalGame = false) :
    client.normalCaptureReferences = [] := by
  have hsound := h.sound uuid client hmem
  have htoken : client.normalGameToken = 0 := by
    by_contra hne
    rw [hsound.token.mpr hne] at hnormal
    cases hnormal
  have hcount : handles.count (uuid, 0) = 0 :=
    count_eq_zero.mpr fun hhandle => (h.handles _ hhandle).1 rfl
  rw [hsound.references, htoken, hcount]
  rfl

end

end Represents

/-! ## Effects on the records -/

/-- What every part of an operation leaves alone. -/
structure Frame (c later : Coordinator) : Prop where
  callbacks : later.callbacks = c.callbacks
  handles : later.handles = c.handles
  nextToken : later.nextNormalGameToken = c.nextNormalGameToken
  calls : c.calls <:+ later.calls

lemma Frame.rfl {c : Coordinator} : Frame c c := ⟨by rfl, by rfl, by rfl, suffix_refl _⟩

lemma Frame.trans {c mid later : Coordinator} (first : Frame c mid) (second : Frame mid later) :
    Frame c later :=
  ⟨second.callbacks.trans first.callbacks, second.handles.trans first.handles,
    second.nextToken.trans first.nextToken, first.calls.trans second.calls⟩

/-- A part of an operation that changes the records by `f` and makes lawful calls. -/
structure Effect (watched : List (String × Nat)) (c later : Coordinator) (f : Clients → Clients) :
    Prop where
  frame : Frame c later
  recorded : records later.clients = f (records c.clients)
  lawful : LawfulCalls watched c.calls → LawfulCalls watched later.calls

namespace Effect

variable {watched : List (String × Nat)} {c mid later : Coordinator} {f g : Clients → Clients}
  {uuid : String}

lemma refl : Effect watched c c id := ⟨.rfl, rfl, id⟩

lemma trans (first : Effect watched c mid f) (second : Effect watched mid later g) :
    Effect watched c later (g ∘ f) :=
  ⟨first.frame.trans second.frame, by rw [second.recorded, first.recorded]; rfl,
    second.lawful ∘ first.lawful⟩

lemma congr (h : Effect watched c later f) (heq : f (records c.clients) =
      g (records c.clients)) : Effect watched c later g :=
  ⟨h.frame, h.recorded.trans heq, h.lawful⟩

lemma relabel {relabeled : Coordinator} (h : Effect watched c later f)
    (hcallbacks : relabeled.callbacks = later.callbacks)
    (hhandles : relabeled.handles = later.handles)
    (htoken : relabeled.nextNormalGameToken = later.nextNormalGameToken)
    (hcalls : relabeled.calls = later.calls) (hclients : relabeled.clients = later.clients) :
    Effect watched c relabeled f where
  frame := ⟨hcallbacks.trans h.frame.callbacks, hhandles.trans h.frame.handles,
    htoken.trans h.frame.nextToken, hcalls ▸ h.frame.calls⟩
  recorded := hclients ▸ h.recorded
  lawful := hcalls ▸ h.lawful

lemma modify (record : Client → Client) {update : Client → Client}
    (h : ∀ client, (update client).record = record client.record) :
    Effect watched c (c.modify uuid update) (modifyClient uuid record) :=
  ⟨⟨rfl, rfl, rfl, suffix_refl _⟩, records_modifyClient h, id⟩

lemma retune {update : Client → Client} (h : ∀ client, (update client).record = client.record) :
    Effect watched c (c.modify uuid update) id :=
  (modify id h).congr (modifyClient_eq_self fun _ _ => rfl)

lemma thenRetune (h : Effect watched c later f) {update : Client → Client}
    (hrecord : ∀ client, (update client).record = client.record) :
    Effect watched c (later.modify uuid update) f :=
  h.trans (retune hrecord)

lemma erase : Effect watched c (c.erase uuid) (eraseClient uuid) :=
  ⟨⟨rfl, rfl, rfl, suffix_refl _⟩, records_eraseClient, id⟩

lemma call (call : Call) (h : Lawful watched c.calls call) : Effect watched c (c.call call) id :=
  ⟨⟨rfl, rfl, rfl, suffix_cons _ _⟩, rfl, fun hcalls => ⟨h, hcalls⟩⟩

lemma refresh (c : Coordinator) (observe : String → Option Mode) (except : String) :
    Effect watched c (c.refreshGeometry observe except).2 id where
  frame := ⟨rfl, rfl, rfl, suffix_append _ _⟩
  recorded := records_refreshClients _ _ _ _
  lawful := lawfulCalls_append_observed (refreshClients_calls _ _ _ _)

lemma apply (answer : Bool) (h : Grounded c.calls c.clients "") :
    Effect watched c (c.applyTopology answer) id :=
  call _ ⟨h, _, rfl⟩

lemma keys (h : Effect watched c later id) : later.clients.map (·.1) = c.clients.map (·.1) := by
  rw [← records_keys, h.recorded, id, records_keys]

end Effect

lemma refreshGeometry_grounded {c : Coordinator} (observe : String → Option Mode)
    (except : String) (hkeys : (c.clients.map (·.1)).Nodup)
    (hknown : (c.refreshGeometry observe except).1 = true) :
    Grounded (c.refreshGeometry observe except).2.calls
      (c.refreshGeometry observe except).2.clients except :=
  refreshClients_grounded _ _ _ _ hkeys hknown _

lemma Effect.refreshAndApply {watched : List (String × Nat)} (c : Coordinator)
    (observe : String → Option Mode) (answer : Bool) (hkeys : (c.clients.map (·.1)).Nodup) :
    Effect watched c
      (if (c.refreshGeometry observe).1 then (c.refreshGeometry observe).2.applyTopology answer
        else (c.refreshGeometry observe).2) id := by
  split
  · next hknown =>
    exact (Effect.refresh c observe "").trans (.apply _ (refreshGeometry_grounded _ _ hkeys hknown))
  · exact .refresh c observe ""

/-! ## The release of a normal role -/

def RemovalConfirmed (c : Coordinator) (uuid : String) : Prop :=
  (∃ clients, .removed uuid clients true ∈ c.calls ∨ .terminated uuid clients true ∈ c.calls) ∨
    c.callbacks.removeOwnedDisplay = false

lemma RemovalConfirmed.mono {c later : Coordinator} {uuid : String}
    (h : RemovalConfirmed c uuid) (hframe : Frame c later) : RemovalConfirmed later uuid := by
  rcases h with ⟨clients, hcall | hcall⟩ | hmissing
  · exact .inl ⟨clients, .inl (hframe.calls.mem hcall)⟩
  · exact .inl ⟨clients, .inr (hframe.calls.mem hcall)⟩
  · exact .inr (hframe.callbacks ▸ hmissing)

/-- A removal of the display returned true, or no removal is installed. -/
def DisplayRemoved (c : Coordinator) (uuid : String) : Prop :=
  (∃ clients, .removed uuid clients true ∈ c.calls ∨ .terminated uuid clients true ∈ c.calls) ∨
    (c.callbacks.removeOwnedDisplay = false ∧ c.callbacks.terminateOwnedDisplay = false)

lemma DisplayRemoved.mono {c later : Coordinator} {uuid : String}
    (h : DisplayRemoved c uuid) (hframe : Frame c later) : DisplayRemoved later uuid := by
  rcases h with ⟨clients, hcall | hcall⟩ | hmissing
  · exact .inl ⟨clients, .inl (hframe.calls.mem hcall)⟩
  · exact .inl ⟨clients, .inr (hframe.calls.mem hcall)⟩
  · exact .inr (hframe.callbacks ▸ hmissing)

lemma DisplayRemoved.confirmed {c : Coordinator} {uuid : String} (h : DisplayRemoved c uuid) :
    RemovalConfirmed c uuid :=
  h.imp id And.left

/-- A composed topology was refused. -/
def Call.refused : Call → Bool
  | .applied _ _ _ answer => !answer
  | _ => false

def Coordinator.refusals (c : Coordinator) : List Call := c.calls.filter Call.refused

lemma refusals_refreshGeometry (c : Coordinator) (observe : String → Option Mode)
    (except : String) : (c.refreshGeometry observe except).2.refusals = c.refusals := by
  have hcalls := refreshClients_calls c.callbacks.observeSharedMode except observe c.clients
  unfold Coordinator.refusals Coordinator.refreshGeometry
  dsimp only
  rw [filter_append, filter_eq_nil_iff.mpr, nil_append]
  intro call hmem
  obtain ⟨uuid, answer, rfl⟩ := hcalls call hmem
  exact Bool.false_ne_true

lemma refusals_completeMonitorRelease (c : Coordinator) (uuid : String) (former : Client) :
    (c.completeMonitorRelease uuid former).refusals = c.refusals := by
  unfold Coordinator.completeMonitorRelease
  dsimp only
  split <;> rfl

/-- A normal role was ended: the gate was passed and no topology refused. -/
structure NormalEnded (c later : Coordinator) (a : NormalReleaseAnswers) : Prop where
  begun : a.begun = true
  applied : later.refusals = c.refusals

/-- A monitor role was ended: the gate was passed and nothing deferred, a topology was
refused at most where the display can be terminated without it, and the display of a
client without a normal role is gone. -/
structure MonitorEnded (c later : Coordinator) (a : MonitorReleaseAnswers) (uuid : String)
    (former : Client) : Prop where
  begun : a.begun = true
  undeferred : c.displayMutationDeferred a.protectedOutput = false
  applied : later.callbacks.terminateOwnedDisplay = true ∨ later.refusals = c.refusals
  display : former.normalGame = true ∨ DisplayRemoved later uuid

def endNormal (client : Client) : Client :=
  { Coordinator.clearNormal client with normalReleasePending := false }

section

variable {watched : List (String × Nat)} {c cleared later : Coordinator} {uuid : String}
  {former : Client}

lemma mem_records_iff_find (hkeys : (c.clients.map (·.1)).Nodup)
    (hfind : c.find uuid = some former) {client : Client} :
    (uuid, client) ∈ records c.clients ↔ client = former.record := by
  rw [mem_records]
  constructor
  · rintro ⟨source, hmem, rfl⟩
    rw [mem_unique hkeys hmem (mem_of_lookup hfind)]
  · rintro rfl
    exact ⟨former, mem_of_lookup hfind, rfl⟩

lemma Effect.restoreNormal (hkeys : (c.clients.map (·.1)).Nodup)
    (hfind : c.find uuid = some former) (hnormal : former.normalGame = true)
    (h : Effect watched c later (modifyClient uuid Coordinator.clearNormal)) :
    Effect watched c (later.restoreNormal uuid former) id := by
  refine (h.trans (.modify (fun client =>
    { client with
      normalGame := true
      normalRequestedMode := former.normalRequestedMode
      normalGameToken := former.normalGameToken }) fun _ => rfl)).congr ?_
  rw [Function.comp_apply, modifyClient_modifyClient]
  refine modifyClient_eq_self fun client hmem => ?_
  rw [(mem_records_iff_find hkeys hfind).mp hmem]
  simp [Coordinator.clearNormal, Client.record, hnormal]

lemma Effect.eraseCleared {update : Client → Client}
    (h : Effect watched c later (modifyClient uuid update)) :
    Effect watched c (later.erase uuid) (eraseClient uuid) :=
  (h.trans .erase).congr eraseClient_modifyClient

lemma lawful_removal (hkeys : (c.clients.map (·.1)).Nodup)
    (hfind : c.find uuid = some former) {update : Client → Client}
    (hcleared : (update former.record).owning = false) (hfree : ∀ token, (uuid, token) ∉ watched)
    (h : Effect watched c later (modifyClient uuid update)) : (∀ token, (uuid, token) ∉ watched) ∧
      ∀ client, (uuid, client) ∈ later.clients → client.owning = false := by
  refine ⟨hfree, fun client hmem => ?_⟩
  have hrecord : (uuid, client.record) ∈ records later.clients :=
    mem_records.mpr ⟨client, hmem, rfl⟩
  rw [h.recorded] at hrecord
  rcases mem_modifyClient.mp hrecord with ⟨-, hne⟩ | ⟨source, hsource, heq⟩
  · exact absurd rfl hne
  · rw [(mem_records_iff_find hkeys hfind).mp hsource] at heq
    have hclient : client.record = update former.record := congrArg Prod.snd heq
    rw [← Client.owning_record, hclient]
    exact hcleared

lemma releaseNormal_effect (hkeys : (c.clients.map (·.1)).Nodup)
    (hfind : c.find uuid = some former) (hnormal : former.normalGame = true)
    (hfree : ∀ token, (uuid, token) ∉ watched) (a : NormalReleaseAnswers) :
    Effect watched c (c.releaseNormalGameIdentityLocked a uuid) id ∨
      (former.remoteMonitor = true ∧ Effect watched c (c.releaseNormalGameIdentityLocked a uuid)
        (modifyClient uuid endNormal) ∧
        NormalEnded c (c.releaseNormalGameIdentityLocked a uuid) a) ∨
      (former.remoteMonitor = false ∧ Effect watched c (c.releaseNormalGameIdentityLocked a uuid)
        (eraseClient uuid) ∧ NormalEnded c (c.releaseNormalGameIdentityLocked a uuid) a ∧
        RemovalConfirmed (c.releaseNormalGameIdentityLocked a uuid) uuid) := by
  have hclear : Effect watched c (c.modify uuid Coordinator.clearNormal)
      (modifyClient uuid Coordinator.clearNormal) := .modify _ fun _ => rfl
  unfold Coordinator.releaseNormalGameIdentityLocked
  rw [hfind]
  dsimp only
  split
  · exact .inl .refl
  next hbegun =>
  rw [Bool.not_eq_true', Bool.not_eq_false] at hbegun
  split
  · next hremote =>
    refine .inr (.inl ⟨hremote, (hclear.trans (.modify (fun client =>
      { client with normalReleasePending := false }) fun _ => rfl)).congr ?_, hbegun, rfl⟩)
    rw [Function.comp_apply, modifyClient_modifyClient]
    rfl
  next hremote =>
  rw [Bool.not_eq_true] at hremote
  split
  · exact .inl (hclear.restoreNormal hkeys hfind hnormal)
  have hclearedKeys : ((c.modify uuid Coordinator.clearNormal).clients.map (·.1)).Nodup := by
    rw [show (c.modify uuid Coordinator.clearNormal).clients =
      modifyClient uuid Coordinator.clearNormal c.clients from rfl, modifyClient_keys]
    exact hkeys
  have hrefresh : Effect watched _ _ id :=
    .refresh (c.modify uuid Coordinator.clearNormal) a.geometry ""
  have hgrounded := refreshGeometry_grounded a.geometry "" hclearedKeys
  have hrefusals : _ = c.refusals :=
    refusals_refreshGeometry (c.modify uuid Coordinator.clearNormal) a.geometry ""
  cases hround : (c.modify uuid Coordinator.clearNormal).refreshGeometry a.geometry with
  | mk known refreshed =>
  rw [hround] at hrefresh hgrounded hrefusals
  have hrefreshed := hclear.trans hrefresh
  have hunowned : (Coordinator.clearNormal former.record).owning = false := by
    simp [Coordinator.clearNormal, Client.owning, Client.record, hremote]
  dsimp only
  split
  · -- the geometry of a peer is unknown
    split
    · exact .inl (hrefreshed.restoreNormal hkeys hfind hnormal)
    · have hterm := hrefreshed.trans (.call (.terminated uuid refreshed.clients
        a.terminated) (lawful_removal hkeys hfind hunowned hfree hrefreshed))
      split
      · next hgone =>
        refine .inr (.inr ⟨hremote, hterm.eraseCleared, ⟨hbegun, hrefusals⟩,
          .inl ⟨refreshed.clients, .inr ?_⟩⟩)
        rw [hgone]
        exact mem_cons_self
      · exact .inl (hterm.restoreNormal hkeys hfind hnormal)
  · next hknown =>
    rw [Bool.not_eq_true', Bool.not_eq_false] at hknown
    have happlied := hrefreshed.trans (.apply a.applied (hgrounded hknown))
    split
    · exact .inl (happlied.restoreNormal hkeys hfind hnormal)
    next hgranted =>
    rw [Bool.not_eq_true', Bool.not_eq_false] at hgranted
    have happliedRefusals : (refreshed.applyTopology a.applied).refusals = c.refusals := by
      rw [hgranted]
      exact hrefusals
    split
    · next hmissing =>
      rw [Bool.not_eq_true'] at hmissing
      exact .inr (.inr ⟨hremote, happlied.eraseCleared, ⟨hbegun, happliedRefusals⟩, .inr hmissing⟩)
    have hremoved := happlied.trans (.call (.removed uuid
      (refreshed.applyTopology a.applied).clients a.removed)
      (lawful_removal hkeys hfind hunowned hfree happlied))
    split
    · next hgone =>
      refine .inr (.inr ⟨hremote, hremoved.eraseCleared, ⟨hbegun, happliedRefusals⟩,
        .inl ⟨(refreshed.applyTopology a.applied).clients, .inl ?_⟩⟩)
      rw [hgone]
      exact mem_cons_self
    · -- the display stays, and the topology is composed with it again
      have hrestored := hremoved.restoreNormal hkeys hfind hnormal
      have hrestoredKeys := hrestored.keys
      exact .inl (hrestored.trans (.refreshAndApply _ _ _ (by rw [hrestoredKeys]; exact hkeys)))

/-! ## The release of a monitor role -/

def postponeMonitor (reason : String) (client : Client) : Client :=
  { client with monitorReleasePending := true, monitorReleaseReason := reason }

def droppedMonitor (reason : String) (client : Client) : Client :=
  { client with
    remoteMonitor := false
    monitorRequestedMode := none
    leaseHeld := client.normalGame
    lifecycle := .released
    warning := reason }

def endMonitor (reason : String) (client : Client) : Client :=
  { droppedMonitor reason client with
    monitorReleasePending := false
    monitorReleaseReason := ""
    deferredMonitorReconfiguration := false
    sharedModeUnverified := client.normalGame && client.sharedModeUnverified }

lemma record_dropMonitor (resolve : Mode → Mode) (reason : String) (client : Client) :
    (c.dropMonitor resolve reason client).record = droppedMonitor reason client.record := by
  cases hnormal : client.normalGame <;>
    simp [Coordinator.dropMonitor, Coordinator.resolveEffectiveMode, Client.record, droppedMonitor,
      hnormal]

variable {reason : String}

section

variable (hkeys : (c.clients.map (·.1)).Nodup)

include hkeys

section

variable (hfind : c.find uuid = some former)

include hfind

lemma Effect.restoreMonitor (hremote : former.remoteMonitor = true)
    (h : Effect watched c later (modifyClient uuid (droppedMonitor reason)))
    (resolve : Mode → Mode) : Effect watched c (later.restoreMonitor resolve uuid former reason)
      (modifyClient uuid (postponeMonitor reason)) := by
  refine (h.trans (.modify (fun client =>
    { client with
      remoteMonitor := true
      monitorRequestedMode := former.monitorRequestedMode
      leaseHeld := former.leaseHeld
      lifecycle := former.lifecycle
      warning := former.warning
      monitorReleasePending := true
      monitorReleaseReason := reason }) fun _ => rfl)).congr ?_
  rw [Function.comp_apply, modifyClient_modifyClient]
  refine modifyClient_congr fun client hmem => ?_
  rw [(mem_records_iff_find hkeys hfind).mp hmem]
  simp [droppedMonitor, postponeMonitor, Client.record, hremote]

lemma Effect.completeMonitor
    (h : Effect watched c later (modifyClient uuid (droppedMonitor reason))) :
    Effect watched c (later.completeMonitorRelease uuid former)
      (modifyClient uuid (endMonitor reason)) := by
  have hended : Effect watched c (later.modify uuid fun client =>
      { client with
        monitorReleasePending := false
        monitorReleaseReason := ""
        deferredMonitorReconfiguration := false
        sharedModeUnverified := former.normalGame && former.sharedModeUnverified })
      (modifyClient uuid (endMonitor reason)) := by
    refine (h.trans (.modify (fun client =>
      { client with
        monitorReleasePending := false
        monitorReleaseReason := ""
        deferredMonitorReconfiguration := false
        sharedModeUnverified := former.normalGame && former.sharedModeUnverified })
      fun _ => rfl)).congr ?_
    rw [Function.comp_apply, modifyClient_modifyClient]
    refine modifyClient_congr fun client hmem => ?_
    rw [(mem_records_iff_find hkeys hfind).mp hmem]
    rfl
  unfold Coordinator.completeMonitorRelease
  dsimp only
  split
  · exact hended
  · exact hended.relabel rfl rfl rfl rfl rfl

lemma Effect.removeReleased (hremote : former.remoteMonitor = true)
    (hfree : former.normalGame = false → ∀ token, (uuid, token) ∉ watched)
    (h : Effect watched c later (modifyClient uuid (droppedMonitor reason)))
    (a : MonitorReleaseAnswers) : Effect watched c (later.removeReleased a uuid former reason)
        (modifyClient uuid (postponeMonitor reason)) ∨
      Effect watched c (later.removeReleased a uuid former reason)
          (modifyClient uuid (endMonitor reason)) ∧
        (later.removeReleased a uuid former reason).refusals = later.refusals ∧
        (former.normalGame = true ∨
          DisplayRemoved (later.removeReleased a uuid former reason) uuid) := by
  unfold Coordinator.removeReleased
  split
  · next hkept =>
    refine .inr ⟨h.completeMonitor hkeys hfind, refusals_completeMonitorRelease _ _ _, ?_⟩
    rw [Bool.or_eq_true] at hkept
    refine hkept.imp id fun hmissing => .inr ?_
    have hmissing : later.callbacks.removeOwnedDisplay = false ∧
        later.callbacks.terminateOwnedDisplay = false := by
      simp only [Bool.not_eq_true', Bool.or_eq_false_iff] at hmissing
      exact hmissing.symm
    unfold Coordinator.completeMonitorRelease
    dsimp only
    split <;> exact hmissing
  · next hremove =>
    rw [Bool.or_eq_true, not_or, Bool.not_eq_true] at hremove
    have hunowned : (droppedMonitor reason former.record).owning = false := by
      simp [droppedMonitor, Client.owning, Client.record, hremove.1]
    have hlawful := lawful_removal hkeys hfind hunowned (hfree hremove.1) h
    dsimp only
    have hcalled : Effect watched c (later.call (if later.callbacks.terminateOwnedDisplay then
        .terminated uuid later.clients a.removed else .removed uuid later.clients a.removed))
        (modifyClient uuid (droppedMonitor reason)) := by
      refine h.trans (.call _ ?_)
      split <;> exact hlawful
    split
    · next hgone =>
      refine .inr ⟨hcalled.completeMonitor hkeys hfind, ?_, .inr (.inl ⟨later.clients, ?_⟩)⟩
      · rw [refusals_completeMonitorRelease]
        cases later.callbacks.terminateOwnedDisplay <;> rfl
      unfold Coordinator.completeMonitorRelease
      rw [hgone]
      cases later.callbacks.terminateOwnedDisplay
      · left
        dsimp only
        split <;> exact mem_cons_self
      · right
        dsimp only
        split <;> exact mem_cons_self
    · left
      generalize (if later.callbacks.terminateOwnedDisplay = true then
        Call.terminated uuid later.clients a.removed
        else Call.removed uuid later.clients a.removed) = call at hcalled ⊢
      have hrestored := hcalled.restoreMonitor hkeys hfind hremote a.resolveBack
      split
      · refine hrestored.trans (.refreshAndApply _ a.geometryAgain a.appliedAgain ?_)
        rw [← records_keys, hrestored.recorded, modifyClient_keys, records_keys]
        exact hkeys
      · exact hrestored

lemma releaseLocked_effect (hfree : former.normalGame = false → ∀ token, (uuid, token) ∉ watched)
    (a : MonitorReleaseAnswers) (reason : String) :
    Effect watched c (c.releaseLocked a uuid reason) id ∨
      Effect watched c (c.releaseLocked a uuid reason)
        (modifyClient uuid (postponeMonitor reason)) ∨ (former.remoteMonitor = true ∧
        Effect watched c (c.releaseLocked a uuid reason) (modifyClient uuid (endMonitor reason)) ∧
        MonitorEnded c (c.releaseLocked a uuid reason) a uuid former) := by
  have hpostpone : Effect watched c (c.deferMonitorRelease uuid reason)
      (modifyClient uuid (postponeMonitor reason)) := .modify _ fun _ => rfl
  unfold Coordinator.releaseLocked
  rw [hfind]
  dsimp only
  split
  · exact .inr (.inl hpostpone)
  next hbegun =>
  rw [Bool.not_eq_true', Bool.not_eq_false] at hbegun
  split
  · exact .inl .refl
  next hremote =>
  rw [Bool.not_eq_true', Bool.not_eq_false] at hremote
  split
  · exact .inr (.inl hpostpone)
  next hdeferred =>
  split
  · next hcaptured =>
    -- the deferral above already looked for such an entry
    refine absurd ?_ hdeferred
    simp only [Coordinator.displayMutationDeferred, Bool.or_eq_true, any_eq_true]
    exact .inr ⟨_, mem_of_lookup hfind, hcaptured⟩
  have hdropped : Effect watched c (c.modify uuid (c.dropMonitor a.resolve reason))
      (modifyClient uuid (droppedMonitor reason)) := .modify _ (record_dropMonitor a.resolve reason)
  have hdroppedKeys :
      ((c.modify uuid (c.dropMonitor a.resolve reason)).clients.map (·.1)).Nodup := by
    rw [← records_keys, hdropped.recorded, modifyClient_keys, records_keys]
    exact hkeys
  have hfinish : ∀ later, Effect watched c later (modifyClient uuid (droppedMonitor reason)) →
      ∀ giveUp : Bool, (giveUp = false → c.callbacks.terminateOwnedDisplay = true ∨
        later.refusals = c.refusals) → ∀ result, result = (if giveUp then
          later.restoreMonitor a.resolveBack uuid former reason
        else later.removeReleased a uuid former reason) →
      Effect watched c result id ∨
        Effect watched c result (modifyClient uuid (postponeMonitor reason)) ∨
        (former.remoteMonitor = true ∧
          Effect watched c result (modifyClient uuid (endMonitor reason)) ∧
          MonitorEnded c result a uuid former) := by
    rintro later hlater giveUp hgranted result rfl
    cases giveUp
    · rcases hlater.removeReleased hkeys hfind hremote hfree a with
        hkept | ⟨hended, hrefusals, hgone⟩
      · exact .inr (.inl hkept)
      · refine .inr (.inr ⟨hremote, hended, hbegun, Bool.not_eq_true _ ▸ hdeferred, ?_, hgone⟩)
        show (later.removeReleased a uuid former reason).callbacks.terminateOwnedDisplay = true ∨
          (later.removeReleased a uuid former reason).refusals = c.refusals
        rw [hended.frame.callbacks]
        exact (hgranted rfl).imp_right hrefusals.trans
    · exact .inr (.inl (hlater.restoreMonitor hkeys hfind hremote a.resolveBack))
  unfold Coordinator.handOffReleased
  split
  · have hrefresh : Effect watched _ _ id :=
      .refresh (c.modify uuid (c.dropMonitor a.resolve reason)) a.geometry ""
    have hgrounded := refreshGeometry_grounded a.geometry "" hdroppedKeys
    have hrefusals : _ = c.refusals :=
      refusals_refreshGeometry (c.modify uuid (c.dropMonitor a.resolve reason)) a.geometry ""
    cases hround : (c.modify uuid (c.dropMonitor a.resolve reason)).refreshGeometry a.geometry with
    | mk known refreshed =>
    rw [hround] at hrefresh hgrounded hrefusals
    have hrefreshed := hdropped.trans hrefresh
    have happlied : Effect watched c (if known then refreshed.applyTopology a.applied
        else refreshed) (modifyClient uuid (droppedMonitor reason)) := by
      split
      · next hknown => exact hrefreshed.trans (.apply a.applied (hgrounded hknown))
      · exact hrefreshed
    have hflagged : Effect watched c (if !(known && a.applied) && known then
        { (if known then refreshed.applyTopology a.applied else refreshed) with
          physicalRestorePending := true }
        else if known then refreshed.applyTopology a.applied else refreshed)
        (modifyClient uuid (droppedMonitor reason)) := by
      split
      · exact happlied.relabel rfl rfl rfl rfl rfl
      · exact happlied
    refine hfinish _ hflagged _ (fun hgranted => ?_) _ rfl
    have hterminate : refreshed.callbacks = c.callbacks := hrefreshed.frame.callbacks
    cases hmissing : c.callbacks.terminateOwnedDisplay with
    | true => exact .inl rfl
    | false =>
      -- no refused topology comes this far without the terminal removal
      right
      cases known with
      | false => exact hrefusals
      | true =>
        cases happly : a.applied with
        | true => exact hrefusals
        | false =>
          rw [happly] at hgranted
          simp [Coordinator.applyTopology, Coordinator.call, hterminate, hmissing] at hgranted
  · exact hfinish _ hdropped _ (fun _ => .inr rfl) _ rfl

end

end

end

end Vibeshine.RemoteDisplay
