import Vibeshine.DisplayHelper.SnapshotFilter

/-! # Returned baseline devices

`topology_with_returned_baseline_devices` looks at the displays while a session runs on a
virtual one, and adds the physical devices of the baseline that have come back. A device that is
connected but disabled counts as returned only if it was seen missing first: the user may have
switched it off. What a session has seen of a device is kept in two sets, by the normalized
identifier.
-/

namespace Vibeshine.DisplayHelper

open List Bool

inductive Sight where
  | missing
  | virtual
  | active
  | disabled
  deriving DecidableEq

/-- The two sets that the observations of a session update. -/
structure Evidence where
  absent : Finset String := ∅
  disabled : Finset String := ∅

namespace Evidence

/-- What `returned_physical_device` makes of a sight: the sets, and whether the device has
returned. -/
def returnedPhysicalDevice (e : Evidence) (key : String) : Sight → Evidence × Bool
  | .missing =>
    (if key ∈ e.disabled then e else { e with absent := insert key e.absent }, false)
  | .virtual => ({ e with absent := e.absent.erase key }, false)
  | .active =>
    ({ absent := e.absent.erase key, disabled := e.disabled.erase key }, true)
  | .disabled =>
    if key ∈ e.absent then (e, true)
    else ({ e with disabled := insert key e.disabled }, false)

def note (e : Evidence) (seen : String × Sight) : Evidence :=
  (e.returnedPhysicalDevice seen.1 seen.2).1

variable (history : List (String × Sight))

def after : Evidence := history.foldl note {}

lemma after_concat (seen : String × Sight) :
    after (history ++ [seen]) = (after history).note seen := by
  rw [after, foldl_append]
  rfl

end Evidence

/-! ## Histories -/

def sinceActive (key : String) (history : List (String × Sight)) : List Sight :=
  history.foldl
    (fun sights seen =>
      if seen.1 ≠ key then sights else if seen.2 = .active then [] else sights ++ [seen.2]) []

def MissingFirst (sights : List Sight) : Prop :=
  ∃ before later, sights = before ++ .missing :: later ∧ .disabled ∉ before

lemma MissingFirst.append {sights : List Sight} (h : MissingFirst sights) (later : List Sight) :
    MissingFirst (sights ++ later) := by
  obtain ⟨before, rest, rfl, hbefore⟩ := h
  exact ⟨before, rest ++ later, by simp, hbefore⟩

lemma sinceActive_concat (key : String) (history : List (String × Sight))
    (seen : String × Sight) : sinceActive key (history ++ [seen]) =
      if seen.1 ≠ key then sinceActive key history
      else if seen.2 = .active then [] else sinceActive key history ++ [seen.2] := by
  rw [sinceActive, foldl_append]
  rfl

/-- What the sets say of a device, from what was seen of it since it was last active. -/
structure Evidence.Records (e : Evidence) (key : String) (sights : List Sight) : Prop where
  disjoint : key ∈ e.absent → key ∉ e.disabled
  absent : key ∈ e.absent → MissingFirst sights
  disabled : .disabled ∈ sights → key ∈ e.disabled ∨ MissingFirst sights

namespace Evidence.Records

variable {e : Evidence} {key : String} {sights : List Sight}

lemma note_other {seen : String × Sight} (h : e.Records key sights) (hne : seen.1 ≠ key) :
    (e.note seen).Records key sights := by
  obtain ⟨other, sight⟩ := seen
  replace hne : key ≠ other := hne.symm
  have habsent : key ∈ (e.note (other, sight)).absent ↔ key ∈ e.absent := by
    cases sight <;> simp only [note, returnedPhysicalDevice] <;> (try split) <;> simp [hne]
  have hdisabled : key ∈ (e.note (other, sight)).disabled ↔ key ∈ e.disabled := by
    cases sight <;> simp only [note, returnedPhysicalDevice] <;> (try split) <;> simp [hne]
  constructor
  · rw [habsent, hdisabled]
    exact h.disjoint
  · rw [habsent]
    exact h.absent
  · rw [hdisabled]
    exact h.disabled

lemma note_missing (h : e.Records key sights) :
    (e.note (key, .missing)).Records key (sights ++ [.missing]) := by
  simp only [note, returnedPhysicalDevice]
  split
  next hdisabled =>
    exact ⟨h.disjoint, fun habsent => absurd hdisabled (h.disjoint habsent),
      fun _ => .inl hdisabled⟩
  next hdisabled =>
    have hfirst : MissingFirst (sights ++ [.missing]) := by
      by_cases hmem : Sight.disabled ∈ sights
      · exact ((h.disabled hmem).resolve_left hdisabled).append _
      · exact ⟨sights, [], rfl, hmem⟩
    exact ⟨fun _ => hdisabled, fun _ => hfirst, fun _ => .inr hfirst⟩

lemma note_virtual (h : e.Records key sights) :
    (e.note (key, .virtual)).Records key (sights ++ [.virtual]) where
  disjoint habsent := absurd habsent (Finset.notMem_erase key e.absent)
  absent habsent := absurd habsent (Finset.notMem_erase key e.absent)
  disabled hmem := by
    have hmem : Sight.disabled ∈ sights := by simpa using hmem
    exact (h.disabled hmem).imp_right (·.append _)

lemma note_active : (e.note (key, .active)).Records key [] where
  disjoint habsent := absurd habsent (Finset.notMem_erase key e.absent)
  absent habsent := absurd habsent (Finset.notMem_erase key e.absent)
  disabled hmem := absurd hmem not_mem_nil

lemma note_disabled (h : e.Records key sights) :
    (e.note (key, .disabled)).Records key (sights ++ [.disabled]) := by
  simp only [note, returnedPhysicalDevice]
  split
  next habsent =>
    have hfirst := (h.absent habsent).append [.disabled]
    exact ⟨h.disjoint, fun _ => hfirst, fun _ => .inr hfirst⟩
  next habsent =>
    exact ⟨fun hmem => absurd hmem habsent, fun hmem => absurd hmem habsent,
      fun _ => .inl (Finset.mem_insert_self key e.disabled)⟩

lemma of_history (key : String) (history : List (String × Sight)) :
    (after history).Records key (sinceActive key history) := by
  induction history using List.reverseRecOn with
  | nil => exact ⟨nofun, nofun, nofun⟩
  | append_singleton history seen ih =>
    rw [after_concat, sinceActive_concat]
    by_cases hkey : seen.1 = key
    · obtain ⟨other, sight⟩ := seen
      cases hkey
      rw [if_neg (not_not_intro rfl)]
      cases sight with
      | missing => exact ih.note_missing
      | virtual => exact ih.note_virtual
      | active => exact note_active
      | disabled => exact ih.note_disabled
    · rw [if_pos hkey]
      exact ih.note_other hkey

end Evidence.Records

/-! ## One observation -/

/-- What one call reads. `reading` is nothing where the enumeration fails or the capture throws;
`tiers` are the topologies that the tiers hold, in the order of recovery. -/
structure ReturnObservation where
  reading : Option (List EnumeratedDevice × ActiveTopology)
  virtualDeviceId : String
  exclusions : List String
  tiers : List (Option ActiveTopology)

def containsId (ids : List String) (needle : String) : Bool := ids.any (iequals · needle)

def topologyContains (topology : ActiveTopology) (needle : String) : Bool :=
  topology.any (containsId · needle)

def findDevice (devices : List EnumeratedDevice) (needle : String) : Option EnumeratedDevice :=
  devices.find? fun device => !device.deviceId.isEmpty && iequals device.deviceId needle

def sightOf (devices : List EnumeratedDevice) (needle : String) : Sight :=
  match findDevice devices needle with
  | none => .missing
  | some device =>
    if isVirtualDisplayDevice device then .virtual
    else if device.hasInfo then .active
    else .disabled

def seen (devices : List EnumeratedDevice) (needle : String) : String × Sight :=
  (normalizeDeviceId needle, sightOf devices needle)

def represented (devices : List EnumeratedDevice) (topology : ActiveTopology) : Bool :=
  topology.all fun group => group.all fun id =>
    !id.isEmpty && devices.any fun device => iequals device.deviceId id && device.hasInfo

namespace ReturnObservation

variable (o : ReturnObservation)

def considers (id : String) : Bool :=
  !id.isEmpty && !iequals id o.virtualDeviceId && !containsId o.exclusions id

def live : Option (List EnumeratedDevice × ActiveTopology) :=
  o.reading.filter fun reading =>
    !o.virtualDeviceId.isEmpty && !reading.2.isEmpty &&
      topologyContains reading.2 o.virtualDeviceId && represented reading.1 reading.2

def baseline : Option ActiveTopology :=
  o.tiers.findSome? fun tier => tier.filter fun topology => !topology.isEmpty

def activeGroup (o : ReturnObservation) (devices : List EnumeratedDevice) :
    Evidence → List String → Evidence × List String
  | e, [] => (e, [])
  | e, id :: ids =>
    if o.considers id then
      let (next, returned) :=
        e.returnedPhysicalDevice (normalizeDeviceId id) (sightOf devices id)
      let (last, group) := activeGroup o devices next ids
      (last, if returned then id :: group else group)
    else activeGroup o devices e ids

end ReturnObservation

/-- The missing devices join the first group that has one of the active ones, or else the active
devices become a group of their own. -/
def placeGroup (active missing : List String) : ActiveTopology → ActiveTopology
  | [] => [active]
  | group :: groups =>
    if active.any (containsId group) then (group ++ missing) :: groups
    else group :: placeGroup active missing groups

structure Merge where
  evidence : Evidence
  candidate : ActiveTopology
  added : Bool

namespace ReturnObservation

def mergeGroup (o : ReturnObservation) (devices : List EnumeratedDevice) (topology : ActiveTopology)
    (m : Merge) (baselineGroup : List String) : Merge :=
  let (evidence, active) := o.activeGroup devices m.evidence baselineGroup
  let missing := active.filter fun id => !topologyContains topology id
  if missing.isEmpty then { m with evidence := evidence }
  else ⟨evidence, placeGroup active missing m.candidate, true⟩

def merge (o : ReturnObservation) (devices : List EnumeratedDevice) (topology : ActiveTopology)
    (e : Evidence) (baseline : ActiveTopology) : Merge :=
  baseline.foldl (o.mergeGroup devices topology) ⟨e, topology, false⟩

end ReturnObservation

def topologyWithReturnedBaselineDevices (o : ReturnObservation) (e : Evidence) :
    Evidence × Option ActiveTopology :=
  match o.live, o.baseline with
  | some (devices, topology), some baseline =>
    let m := o.merge devices topology e baseline
    (m.evidence, if m.added then some m.candidate else none)
  | _, _ => (e, none)

def ReturnObservation.sights (o : ReturnObservation) : List (String × Sight) :=
  match o.live, o.baseline with
  | some (devices, _), some baseline => (baseline.flatten.filter o.considers).map (seen devices)
  | _, _ => []

variable (calls : List ReturnObservation)

def observeAll : Evidence :=
  calls.foldl (fun e o => (topologyWithReturnedBaselineDevices o e).1) {}

/-! ## What is added -/

def foldCase (id : String) : List Char := id.toList.map Char.toLower

lemma iequals_iff {left right : String} :
    iequals left right = true ↔ foldCase left = foldCase right := beq_iff_eq

lemma containsId_iff {ids : List String} {needle : String} :
    containsId ids needle = true ↔ foldCase needle ∈ ids.map foldCase := by
  simp only [containsId, any_eq_true, iequals_iff, mem_map]

lemma topologyContains_iff {topology : ActiveTopology} {needle : String} :
    topologyContains topology needle = true ↔ foldCase needle ∈ topology.flatten.map foldCase := by
  simp only [topologyContains, any_eq_true, containsId_iff, mem_map, mem_flatten]
  constructor
  · rintro ⟨group, hgroup, id, hid, heq⟩
    exact ⟨id, ⟨group, hgroup, hid⟩, heq⟩
  · rintro ⟨id, ⟨group, hgroup, hid⟩, heq⟩
    exact ⟨group, hgroup, id, hid, heq⟩

def ListsOnce (topology : ActiveTopology) : Prop := (topology.flatten.map foldCase).Nodup

lemma Evidence.returned_cases {e : Evidence} {key : String} {sight : Sight}
    (h : (e.returnedPhysicalDevice key sight).2 = true) :
    sight = .active ∨ sight = .disabled ∧ key ∈ e.absent := by
  cases sight with
  | missing | virtual => cases h
  | active => exact .inl rfl
  | disabled =>
    simp only [returnedPhysicalDevice] at h
    split at h
    next habsent => exact .inr ⟨rfl, habsent⟩
    next => cases h

/-! ### Groups of the baseline -/

namespace ReturnObservation

variable {o : ReturnObservation} {devices : List EnumeratedDevice} {e : Evidence}
  {ids : List String}

def sightsOf (o : ReturnObservation) (devices : List EnumeratedDevice) (ids : List String) :
    List (String × Sight) :=
  (ids.filter o.considers).map (seen devices)

def Returned (o : ReturnObservation) (devices : List EnumeratedDevice) (e : Evidence)
    (ids : List String) (id : String) : Prop :=
  id ∈ ids ∧ o.considers id = true ∧
    ∃ before later, o.sightsOf devices ids = before ++ seen devices id :: later ∧
      ((before.foldl Evidence.note e).returnedPhysicalDevice (normalizeDeviceId id)
        (sightOf devices id)).2 = true

lemma sightsOf_append (first second : List String) :
    o.sightsOf devices (first ++ second) = o.sightsOf devices first ++ o.sightsOf devices second := by
  simp only [sightsOf, filter_append, map_append]

lemma Returned.append_left {id : String} (before : List String)
    (h : o.Returned devices ((o.sightsOf devices before).foldl Evidence.note e) ids id) :
    o.Returned devices e (before ++ ids) id := by
  obtain ⟨hmem, hconsiders, first, later, hsights, hreturned⟩ := h
  refine ⟨mem_append_right _ hmem, hconsiders, o.sightsOf devices before ++ first, later, ?_, ?_⟩
  · rw [sightsOf_append, hsights, append_assoc]
  · rwa [foldl_append]

lemma Returned.append_right {id : String} (h : o.Returned devices e ids id)
    (more : List String) : o.Returned devices e (ids ++ more) id := by
  obtain ⟨hmem, hconsiders, first, later, hsights, hreturned⟩ := h
  refine ⟨mem_append_left _ hmem, hconsiders, first, later ++ o.sightsOf devices more, ?_,
    hreturned⟩
  rw [sightsOf_append, hsights, append_assoc, cons_append]

lemma activeGroup_evidence (ids : List String) :
    (o.activeGroup devices e ids).1 = (o.sightsOf devices ids).foldl Evidence.note e := by
  induction ids generalizing e with
  | nil => rfl
  | cons id ids ih =>
    rw [activeGroup, sightsOf, filter_cons]
    split
    next => exact ih
    next => exact ih

lemma activeGroup_sublist (ids : List String) : (o.activeGroup devices e ids).2.Sublist ids := by
  induction ids generalizing e with
  | nil => exact .slnil
  | cons id ids ih =>
    rw [activeGroup]
    split
    next =>
      dsimp only
      split
      · exact ih.cons_cons id
      · exact ih.cons id
    next => exact ih.cons id

lemma activeGroup_returned (ids : List String) :
    ∀ id ∈ (o.activeGroup devices e ids).2, o.Returned devices e ids id := by
  induction ids generalizing e with
  | nil => exact fun id hid => absurd hid not_mem_nil
  | cons first ids ih =>
    rw [activeGroup]
    split
    next hconsiders =>
      have hrest : ∀ id ∈ (o.activeGroup devices
          (e.returnedPhysicalDevice (normalizeDeviceId first) (sightOf devices first)).1 ids).2,
          o.Returned devices e (first :: ids) id := by
        intro id hid
        refine Returned.append_left [first] ?_
        simpa [sightsOf, hconsiders, seen, Evidence.note] using ih id hid
      dsimp only
      split
      next hreturned =>
        intro id hid
        obtain rfl | hid := mem_cons.mp hid
        · refine ⟨mem_cons_self, hconsiders, [], o.sightsOf devices ids, ?_, hreturned⟩
          simp [sightsOf, hconsiders]
        · exact hrest id hid
      next => exact hrest
    next hconsiders =>
      intro id hid
      refine Returned.append_left [first] ?_
      simpa [sightsOf, hconsiders] using ih id hid

end ReturnObservation

/-! ### Groups of the topology -/

section Place

variable {active missing : List String} {topology : ActiveTopology}

lemma prefix_placeGroup {group : List String} (h : group ∈ topology) :
    ∃ placed ∈ placeGroup active missing topology, group <+: placed := by
  induction topology with
  | nil => exact absurd h not_mem_nil
  | cons first topology ih =>
    rw [placeGroup]
    obtain rfl | h := mem_cons.mp h
    · split
      · exact ⟨_, mem_cons_self, prefix_append _ _⟩
      · exact ⟨_, mem_cons_self, prefix_rfl⟩
    · split
      · exact ⟨group, mem_cons_of_mem _ h, prefix_rfl⟩
      · obtain ⟨placed, hplaced, hprefix⟩ := ih h
        exact ⟨placed, mem_cons_of_mem _ hplaced, hprefix⟩

lemma placeGroup_perm (h : ∃ group ∈ topology, active.any (containsId group) = true) :
    (placeGroup active missing topology).flatten.Perm (topology.flatten ++ missing) := by
  induction topology with
  | nil =>
    obtain ⟨group, hgroup, -⟩ := h
    exact absurd hgroup not_mem_nil
  | cons first topology ih =>
    rw [placeGroup]
    split
    next =>
      simp only [flatten_cons, append_assoc]
      exact perm_append_comm.append_left first
    next hfirst =>
      obtain ⟨group, hgroup, hany⟩ := h
      obtain rfl | hgroup := mem_cons.mp hgroup
      · exact absurd hany hfirst
      · simp only [flatten_cons, append_assoc]
        exact (ih ⟨group, hgroup, hany⟩).append_left first

lemma placeGroup_of_none (h : ∀ group ∈ topology, active.any (containsId group) = false) :
    placeGroup active missing topology = topology ++ [active] := by
  induction topology with
  | nil => rfl
  | cons first topology ih =>
    rw [placeGroup, h first mem_cons_self, ih fun group hgroup =>
      h group (mem_cons_of_mem _ hgroup)]
    rfl

end Place

/-! ### The merge -/

namespace ReturnObservation

variable {o : ReturnObservation} {devices : List EnumeratedDevice} {e : Evidence}
  {topology : ActiveTopology} {m : Merge} {groups : ActiveTopology} {group : List String}

/-- What the merge of some groups has led to. -/
structure Merged (o : ReturnObservation) (devices : List EnumeratedDevice)
    (topology : ActiveTopology) (e : Evidence) (groups : ActiveTopology) (m : Merge) : Prop where
  evidence : m.evidence = (o.sightsOf devices groups.flatten).foldl Evidence.note e
  origin : ∀ id ∈ m.candidate.flatten,
    id ∈ topology.flatten ∨ o.Returned devices e groups.flatten id
  kept : ∀ group ∈ topology, ∃ merged ∈ m.candidate, group <+: merged
  added : m.added = true → ∃ id ∈ m.candidate.flatten, topologyContains topology id = false
  once : ListsOnce topology → ListsOnce groups → ListsOnce m.candidate

section

variable (h : o.Merged devices topology e groups m)

include h

lemma Merged.placed {active : List String} {id : String}
    (hid : id ∈ active) (hlive : topologyContains topology id = true) :
    ∃ group ∈ m.candidate, active.any (containsId group) = true := by
  obtain ⟨group, hgroup, hcontains⟩ := any_eq_true.mp hlive
  obtain ⟨merged, hmerged, hprefix⟩ := h.kept group hgroup
  refine ⟨merged, hmerged, any_eq_true.mpr ⟨id, hid, ?_⟩⟩
  rw [containsId_iff] at hcontains ⊢
  exact map_subset _ hprefix.subset hcontains

lemma Merged.placeGroup_perm (active : List String) :
    let missing := active.filter fun id => !topologyContains topology id
    (placeGroup active missing m.candidate).flatten.Perm (m.candidate.flatten ++ missing) := by
  intro missing
  by_cases hplace : ∃ group ∈ m.candidate, active.any (containsId group) = true
  · exact DisplayHelper.placeGroup_perm hplace
  · have hmissing : missing = active := by
      refine filter_eq_self.mpr fun id hid => ?_
      rw [not_eq_true']
      by_contra hlive
      exact hplace (h.placed hid (not_eq_false _ ▸ hlive))
    rw [placeGroup_of_none fun group hgroup =>
      eq_false_iff.mpr fun hany => hplace ⟨group, hgroup, hany⟩, hmissing, flatten_append,
      flatten_singleton]

lemma Merged.once_append {missing : List String}
    (hmissing : ∀ id ∈ missing, topologyContains topology id = false)
    (hsublist : missing.Sublist group) (htopology : ListsOnce topology)
    (hgroups : ListsOnce (groups ++ [group])) :
    ((m.candidate.flatten ++ missing).map foldCase).Nodup := by
  rw [ListsOnce, flatten_append, flatten_singleton, map_append, nodup_append] at hgroups
  obtain ⟨hbefore, hgroup, hdisjoint⟩ := hgroups
  rw [map_append, nodup_append]
  refine ⟨h.once htopology hbefore, hgroup.sublist (hsublist.map _), ?_⟩
  intro first hfirst second hsecond heq
  obtain ⟨old, hold, rfl⟩ := mem_map.mp hfirst
  obtain ⟨new, hnew, rfl⟩ := mem_map.mp hsecond
  obtain hlive | hreturned := h.origin old hold
  · -- What is missing is not live under any spelling.
    have hcontains : topologyContains topology new = true :=
      topologyContains_iff.mpr (heq ▸ mem_map_of_mem hlive)
    exact Bool.false_ne_true ((hmissing new hnew).symm.trans hcontains)
  · exact hdisjoint _ (mem_map_of_mem hreturned.1) _
      (mem_map_of_mem (hsublist.subset hnew)) heq

lemma Merged.mergeGroup (group : List String) :
    o.Merged devices topology e (groups ++ [group]) (o.mergeGroup devices topology m group) := by
  have hflatten : (groups ++ [group]).flatten = groups.flatten ++ group := by simp
  have hevidence : (o.activeGroup devices m.evidence group).1 =
      (o.sightsOf devices (groups ++ [group]).flatten).foldl Evidence.note e := by
    rw [activeGroup_evidence, hflatten, sightsOf_append, foldl_append, h.evidence]
  have hreturned : ∀ id ∈ (o.activeGroup devices m.evidence group).2,
      o.Returned devices e (groups ++ [group]).flatten id := by
    intro id hid
    rw [hflatten]
    exact Returned.append_left _ (h.evidence ▸ activeGroup_returned group id hid)
  have horigin : ∀ id ∈ m.candidate.flatten,
      id ∈ topology.flatten ∨ o.Returned devices e (groups ++ [group]).flatten id := by
    intro id hid
    rw [hflatten]
    exact (h.origin id hid).imp_right (·.append_right group)
  have hperm := h.placeGroup_perm (o.activeGroup devices m.evidence group).2
  have hsublist : (o.activeGroup devices m.evidence group).2.Sublist group :=
    activeGroup_sublist group
  simp only [ReturnObservation.mergeGroup]
  generalize (o.activeGroup devices m.evidence group).2 = active at *
  split
  next =>
    exact ⟨hevidence, horigin, h.kept, h.added, fun htopology hgroups =>
      h.once htopology (List.Nodup.sublist (by simp [hflatten]) hgroups)⟩
  next hsome =>
    have hmissing : ∀ id ∈ active.filter fun id => !topologyContains topology id,
        topologyContains topology id = false := by
      intro id hid
      simpa using (mem_filter.mp hid).2
    refine ⟨hevidence, ?_, ?_, ?_, ?_⟩
    · intro id hid
      obtain hid | hid := mem_append.mp (hperm.mem_iff.mp hid)
      · exact horigin id hid
      · exact .inr (hreturned id (mem_filter.mp hid).1)
    · intro live hlive
      obtain ⟨merged, hmerged, hprefix⟩ := h.kept live hlive
      obtain ⟨placed, hplaced, hafter⟩ := prefix_placeGroup hmerged
      exact ⟨placed, hplaced, hprefix.trans hafter⟩
    · intro _
      obtain ⟨id, hid⟩ := exists_mem_of_ne_nil _ (mt List.isEmpty_iff.mpr hsome)
      exact ⟨id, hperm.mem_iff.mpr (mem_append_right _ hid), hmissing id hid⟩
    · intro htopology hgroups
      exact (hperm.map _).nodup_iff.mpr
        (h.once_append hmissing (filter_sublist.trans hsublist) htopology hgroups)

end

lemma merged (o : ReturnObservation) (devices : List EnumeratedDevice) (topology : ActiveTopology)
    (e : Evidence) (groups : ActiveTopology) :
    o.Merged devices topology e groups (o.merge devices topology e groups) := by
  induction groups using List.reverseRecOn with
  | nil =>
    exact ⟨rfl, fun id hid => .inl hid, fun group hgroup => ⟨group, hgroup, prefix_rfl⟩,
      nofun, fun htopology _ => htopology⟩
  | append_singleton groups group ih =>
    rw [merge, foldl_append]
    exact ih.mergeGroup group

end ReturnObservation

/-! ## Sessions -/

section Session

variable {o : ReturnObservation} {e : Evidence} {id : String}

lemma topologyWithReturnedBaselineDevices_evidence (o : ReturnObservation) (e : Evidence) :
    (topologyWithReturnedBaselineDevices o e).1 = o.sights.foldl Evidence.note e := by
  unfold topologyWithReturnedBaselineDevices ReturnObservation.sights
  split
  next devices topology baseline _ _ => exact (o.merged devices topology e baseline).evidence
  next => rfl

lemma observeAll_eq_after (calls : List ReturnObservation) :
    observeAll calls = Evidence.after (calls.flatMap ReturnObservation.sights) := by
  induction calls using List.reverseRecOn with
  | nil => rfl
  | append_singleton calls o ih =>
    rw [observeAll, foldl_append, flatMap_append, Evidence.after, foldl_append]
    simp only [foldl_cons, foldl_nil, flatMap_singleton]
    rw [topologyWithReturnedBaselineDevices_evidence]
    exact congrArg (List.foldl Evidence.note · o.sights) ih

lemma observeAll_disjoint : Disjoint (observeAll calls).absent (observeAll calls).disabled := by
  rw [Finset.disjoint_left]
  intro key habsent
  rw [observeAll_eq_after] at habsent ⊢
  exact (Evidence.Records.of_history key _).disjoint habsent

variable {devices : List EnumeratedDevice}

lemma ReturnObservation.active_of_live {topology : ActiveTopology}
    (hlive : o.live = some (devices, topology)) (hid : id ∈ topology.flatten) :
    id ≠ "" ∧ ∃ device ∈ devices, iequals device.deviceId id = true ∧ device.hasInfo = true := by
  obtain ⟨-, hchecks⟩ := Option.filter_eq_some_iff.mp hlive
  simp only [and_eq_true] at hchecks
  obtain ⟨group, hgroup, hid⟩ := mem_flatten.mp hid
  have hrepresented := all_eq_true.mp (all_eq_true.mp hchecks.2 group hgroup) id hid
  simpa [String.isEmpty_iff] using hrepresented

lemma ReturnObservation.Returned.missing_first {ids : List String} {history : List (String × Sight)}
    (h : o.Returned devices (Evidence.after history) ids id)
    (hinactive : ∀ device ∈ devices, iequals device.deviceId id = true → device.hasInfo = false) :
    ∃ earlier later, o.sightsOf devices ids =
        earlier ++ (normalizeDeviceId id, .disabled) :: later ∧
      MissingFirst (sinceActive (normalizeDeviceId id) (history ++ earlier)) := by
  obtain ⟨-, -, before, later, hsights, hreturned⟩ := h
  rw [Evidence.after, ← foldl_append] at hreturned
  obtain hactive | ⟨hdisabled, habsent⟩ := Evidence.returned_cases hreturned
  · simp only [sightOf] at hactive
    split at hactive
    next => cases hactive
    next device hfound =>
      have hmatches := find?_some hfound
      simp only [and_eq_true] at hmatches
      rw [hinactive device (mem_of_find?_eq_some hfound) hmatches.2] at hactive
      split at hactive <;> cases hactive
  · refine ⟨before, later, ?_, (Evidence.Records.of_history _ _).absent habsent⟩
    rw [hsights, seen, hdisabled]

lemma ReturnObservation.Returned.physical {ids : List String} (h : o.Returned devices e ids id) :
    containsId o.exclusions id = false ∧ iequals id o.virtualDeviceId = false ∧
      ∃ device, findDevice devices id = some device ∧ isVirtualDisplayDevice device = false := by
  obtain ⟨-, hconsiders, before, later, -, hreturned⟩ := h
  simp only [ReturnObservation.considers, and_eq_true, not_eq_true'] at hconsiders
  refine ⟨hconsiders.2, hconsiders.1.2, ?_⟩
  have hsight := Evidence.returned_cases hreturned
  simp only [sightOf] at hsight
  split at hsight
  next => simp at hsight
  next device hfound =>
    refine ⟨device, hfound, eq_false_iff.mpr fun hvirtual => ?_⟩
    simp [hvirtual] at hsight

end Session

/-- In a session the two sets stay apart. A returned topology shows an enumerated device that is
not active only if the device was missing, since it was last active, before it was ever disabled;
what it adds is a physical device of the baseline that is not excluded; and where the live
topology and the baseline list every device once, so does the returned one, which extends groups
of the live one and adds at least one device. -/
theorem returned_baseline (calls : List ReturnObservation) (o : ReturnObservation) :
    let history := calls.flatMap ReturnObservation.sights
    Disjoint (observeAll calls).absent (observeAll calls).disabled ∧
    ∀ topology, (topologyWithReturnedBaselineDevices o (observeAll calls)).2 = some topology →
      ∃ devices live baseline, o.live = some (devices, live) ∧ o.baseline = some baseline ∧
        (∀ id ∈ topology.flatten, (∃ device ∈ devices, iequals device.deviceId id = true) →
          (∀ device ∈ devices, iequals device.deviceId id = true → device.hasInfo = false) →
          -- The sight that brings the device back is one of this call.
          ∃ earlier later, o.sights = earlier ++ (normalizeDeviceId id, .disabled) :: later ∧
            MissingFirst (sinceActive (normalizeDeviceId id) (history ++ earlier))) ∧
        (∀ id ∈ topology.flatten, topologyContains live id = false →
          id ∈ baseline.flatten ∧ containsId o.exclusions id = false ∧
            iequals id o.virtualDeviceId = false ∧
            ∃ device, findDevice devices id = some device ∧ isVirtualDisplayDevice device = false) ∧
        (ListsOnce live → ListsOnce baseline →
          (∀ group ∈ live, ∃ merged ∈ topology, group <+: merged) ∧ ListsOnce topology ∧
            ∃ id ∈ topology.flatten, topologyContains live id = false) := by
  refine ⟨observeAll_disjoint calls, fun topology htopology => ?_⟩
  rw [observeAll_eq_after] at htopology
  unfold topologyWithReturnedBaselineDevices at htopology
  split at htopology
  next devices live baseline hlive hbaseline =>
    have hmerged := o.merged devices live
      (Evidence.after (calls.flatMap ReturnObservation.sights)) baseline
    dsimp only at htopology
    split at htopology
    next hadded =>
      cases htopology
      refine ⟨devices, live, baseline, hlive, hbaseline, ?_, ?_, fun hliveOnce hbaselineOnce =>
        ⟨hmerged.kept, hmerged.once hliveOnce hbaselineOnce, hmerged.added hadded⟩⟩
      · intro id hid _ hinactive
        obtain hlisted | hreturned := hmerged.origin id hid
        · obtain ⟨-, device, hdevice, hmatches, hinfo⟩ :=
            ReturnObservation.active_of_live hlive hlisted
          rw [hinactive device hdevice hmatches] at hinfo
          cases hinfo
        · have hsights : o.sights = o.sightsOf devices baseline.flatten := by
            simp only [ReturnObservation.sights, hlive, hbaseline]
            rfl
          rw [hsights]
          exact hreturned.missing_first hinactive
      · intro id hid hnew
        obtain hlisted | hreturned := hmerged.origin id hid
        · have hcontains : topologyContains live id = true :=
            topologyContains_iff.mpr (mem_map_of_mem hlisted)
          rw [hcontains] at hnew
          cases hnew
        · exact ⟨hreturned.1, hreturned.physical⟩
    next => cases htopology
  next => cases htopology

def monitorSession (devices : List EnumeratedDevice) : ReturnObservation where
  reading := some (⟨"virtual", "", "", none, true⟩ :: devices, [["virtual"]])
  virtualDeviceId := "virtual"
  exclusions := []
  tiers := [none, some [["Monitor"]]]

/-- The monitor is gone, and then it is connected again. -/
theorem returned_baseline_monitor : let gone := monitorSession []
    let back := monitorSession [⟨"monitor", "", "", none, false⟩]
    ∃ earlier later, back.sights = earlier ++ (normalizeDeviceId "Monitor", .disabled) :: later ∧
      MissingFirst (sinceActive (normalizeDeviceId "Monitor")
        ([gone].flatMap ReturnObservation.sights ++ earlier)) := by
  intro gone back
  have hreturned : (topologyWithReturnedBaselineDevices back (observeAll [gone])).2 =
      some [["virtual"], ["Monitor"]] := by decide
  obtain ⟨devices, live, baseline, hlive, -, hmissing, -⟩ :=
    (returned_baseline [gone] back).2 _ hreturned
  obtain rfl : devices = [⟨"virtual", "", "", none, true⟩, ⟨"monitor", "", "", none, false⟩] :=
    (Prod.ext_iff.mp (Option.some.inj (Option.filter_eq_some_iff.mp hlive).1)).1.symm
  refine hmissing "Monitor" (by simp) ⟨_, mem_cons_of_mem _ mem_cons_self, by decide⟩ ?_
  intro device hdevice hmatches
  obtain rfl | hdevice := mem_cons.mp hdevice
  · exact absurd hmatches (by decide)
  · rw [mem_singleton.mp hdevice]

end Vibeshine.DisplayHelper
