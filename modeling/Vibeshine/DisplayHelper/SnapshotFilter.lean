import Vibeshine.DisplayHelper.Types

/-! # The filters of a display baseline

`filter_snapshot_for_save` decides what of a capture becomes a baseline, and
`filter_loaded_snapshot` decides whether a stored baseline can still be restored. They
classify devices differently: the first asks for a display name and compares identifiers
exactly, the second asks for presence and compares them normalized. What both write to the
log is left out.
-/

namespace Vibeshine.DisplayHelper

open List Bool

/-- `std::isspace` in the classic locale. -/
def isSpace (ch : Char) : Bool :=
  ch = ' ' || ('\t' ≤ ch && ch ≤ '\r')

def normalizeDeviceId (id : String) : String :=
  let trimmed := ((id.toList.dropWhile isSpace).reverse.dropWhile isSpace).reverse
  String.ofList (trimmed.map Char.toLower)

/-- `contains_ci`: some position of the haystack reads as the needle, letter case aside. -/
def containsCi (haystack needle : String) : Bool :=
  (haystack.toList.map Char.toLower).tails.any (needle.toList.map Char.toLower).isPrefixOf

def equalsCi (lhs rhs : String) : Bool :=
  lhs.length = rhs.length && containsCi lhs rhs

structure EdidData where
  manufacturerId : String

/-- `EnumeratedDevice`. Of `m_info` the filters ask only whether it is there. -/
structure EnumeratedDevice where
  deviceId : String
  displayName : String := ""
  friendlyName : String := ""
  edid : Option EdidData := none
  hasInfo : Bool := false

namespace EnumeratedDevice

def id (d : EnumeratedDevice) : String :=
  if d.deviceId.isEmpty then d.displayName else d.deviceId

end EnumeratedDevice

variable (device : EnumeratedDevice)

def isVirtualDisplayDevice : Bool :=
  if containsCi device.deviceId "SunshineVirtualDisplay" ||
      containsCi device.deviceId "Sunshine Virtual Display" ||
      containsCi device.displayName "SunshineVirtualDisplay" ||
      containsCi device.displayName "Sunshine Virtual Display" ||
      containsCi device.friendlyName "SunshineVirtualDisplay" ||
      containsCi device.friendlyName "Sunshine Virtual Display" then
    true
  else if equalsCi device.friendlyName "Sunshine Virtual Display Driver" then
    true
  else
    device.edid.any fun edid =>
      equalsCi edid.manufacturerId "SDD" || equalsCi edid.manufacturerId "SMK"

def isActiveDisplayDevice : Bool :=
  device.hasInfo || !device.displayName.isEmpty

abbrev LayoutRotationMap := List (String × Int)

structure ParsedSnapshot where
  snapshot : Snapshot
  snapshotVersion : Int := 1
  hasLayoutData : Bool := false
  layoutRotations : LayoutRotationMap := []
  deriving DecidableEq

/-! ## What both filters do to a snapshot -/

def filterTopology (keep : String → Bool) (topology : ActiveTopology) : ActiveTopology :=
  (topology.map fun group => group.filter keep).filter fun group => !group.isEmpty

def Snapshot.restrict (keep : String → Bool) (snap : Snapshot) : Snapshot where
  topology := filterTopology keep snap.topology
  modes := snap.modes.filter fun entry => keep entry.1
  hdrStates := snap.hdrStates.filter fun entry => keep entry.1
  primaryDevice := if keep snap.primaryDevice then snap.primaryDevice else ""
  origins := snap.origins.filter fun entry => keep entry.1

/-- Every device that a snapshot names satisfies a predicate, and no group is empty. -/
structure Snapshot.Within (keep : String → Bool) (snap : Snapshot) : Prop where
  group_ne_nil : ∀ group ∈ snap.topology, group ≠ []
  topology : ∀ group ∈ snap.topology, ∀ id ∈ group, keep id
  modes : ∀ entry ∈ snap.modes, keep entry.1
  hdrStates : ∀ entry ∈ snap.hdrStates, keep entry.1
  primaryDevice : snap.primaryDevice ≠ "" → keep snap.primaryDevice
  origins : ∀ entry ∈ snap.origins, keep entry.1

variable {keep : String → Bool} {topology : ActiveTopology}

lemma filterTopology_eq_self (hne : ∀ group ∈ topology, group ≠ [])
    (hkeep : ∀ group ∈ topology, ∀ id ∈ group, keep id) :
    filterTopology keep topology = topology := by
  have hgroups : topology.map (fun group => group.filter keep) = topology := by
    rw [map_congr_left fun group hgroup => filter_eq_self.2 (hkeep group hgroup)]
    exact map_id' topology
  rw [filterTopology, hgroups, filter_eq_self]
  intro group hgroup
  simpa using hne group hgroup

variable {group : List String}

lemma mem_filterTopology (hgroup : group ∈ filterTopology keep topology) :
    group ≠ [] ∧ ∀ id ∈ group, keep id := by
  obtain ⟨hmem, hne⟩ := mem_filter.1 hgroup
  obtain ⟨whole, -, rfl⟩ := mem_map.1 hmem
  exact ⟨by simpa using hne, fun id hid => (mem_filter.1 hid).2⟩

lemma Snapshot.restrict_within (keep : String → Bool) (snap : Snapshot) :
    (snap.restrict keep).Within keep where
  group_ne_nil group hgroup := (mem_filterTopology hgroup).1
  topology group hgroup := (mem_filterTopology hgroup).2
  modes entry hentry := (mem_filter.1 hentry).2
  hdrStates entry hentry := (mem_filter.1 hentry).2
  primaryDevice hne := by
    unfold restrict at hne ⊢
    dsimp only at hne ⊢
    split at hne
    · rename_i hkeep
      simp [hkeep]
    · exact absurd rfl hne
  origins entry hentry := (mem_filter.1 hentry).2

lemma Snapshot.Within.mono {keep keep' : String → Bool} {snap : Snapshot}
    (h : snap.Within keep) (hle : ∀ id, keep id → keep' id) : snap.Within keep' where
  group_ne_nil := h.group_ne_nil
  topology group hgroup id hid := hle id (h.topology group hgroup id hid)
  modes entry hentry := hle _ (h.modes entry hentry)
  hdrStates entry hentry := hle _ (h.hdrStates entry hentry)
  primaryDevice hne := hle _ (h.primaryDevice hne)
  origins entry hentry := hle _ (h.origins entry hentry)

lemma Snapshot.Within.restrict_eq {snap : Snapshot}
    (h : snap.Within keep) : snap.restrict keep = snap := by
  have hprim : (if keep snap.primaryDevice then snap.primaryDevice else "") =
      snap.primaryDevice := by
    by_cases hne : snap.primaryDevice = ""
    · simp [hne]
    · rw [if_pos (h.primaryDevice hne)]
  simp only [restrict, filterTopology_eq_self h.group_ne_nil h.topology,
    filter_eq_self.2 h.modes, filter_eq_self.2 h.hdrStates,
    filter_eq_self.2 h.origins, hprim]

variable (devices : List EnumeratedDevice)

def validDeviceIds : List String :=
  (devices.filter fun d =>
    !isVirtualDisplayDevice d && !d.displayName.isEmpty && !d.id.isEmpty).map (·.id)

def virtualDeviceIds : List String :=
  (devices.filter fun d => isVirtualDisplayDevice d && !d.id.isEmpty).map (·.id)

variable (exclusions : List String)

def isExcluded (deviceId : String) : Bool :=
  (exclusions.map normalizeDeviceId).contains (normalizeDeviceId deviceId)

/-- `filter_snapshot_for_save`, with the reason of a rejection. -/
def filterSnapshotForSave (snap : Snapshot) (devices : List EnumeratedDevice)
    (exclusions : List String) : Except String Snapshot :=
  if snap.modes.isEmpty then
    .error "mode set is empty"
  else
    let valid := (validDeviceIds devices).filter fun id => !isExcluded exclusions id
    if !exclusions.isEmpty && valid.isEmpty then
      .error "all devices are excluded"
    else
      let lost := fun id => !valid.contains id && !isExcluded exclusions id &&
        !(virtualDeviceIds devices).contains id
      match snap.topology.flatten.find? lost with
      | some deviceId =>
        .error ("physical topology device lost during capture: " ++ deviceId)
      | none =>
        if (filterTopology valid.contains snap.topology).isEmpty then
          .error "no devices with valid display_name"
        else
          .ok (snap.restrict valid.contains)

/-! ## Loading -/

def virtualDevicesNorm : List String :=
  (devices.filter fun d =>
    !d.id.isEmpty && isVirtualDisplayDevice d && isActiveDisplayDevice d).map
      fun d => normalizeDeviceId d.id

def validDevicesNorm : List String :=
  (devices.filter fun d =>
    !d.id.isEmpty && !isVirtualDisplayDevice d && !isExcluded exclusions d.id).map
      fun d => normalizeDeviceId d.id

def isPresent (id : String) : Bool :=
  (validDevicesNorm devices exclusions).contains (normalizeDeviceId id)

def isAllowed (id : String) : Bool :=
  isPresent devices exclusions id && !isExcluded exclusions id

def filterLoadedSnapshot (loaded : ParsedSnapshot) (devices : List EnumeratedDevice)
    (exclusions : List String) : Option ParsedSnapshot :=
  let ids := loaded.snapshot.topology.flatten
  let allowed := isAllowed devices exclusions
  if ids.any fun id => (virtualDevicesNorm devices).contains (normalizeDeviceId id) then
    none
  else if (validDevicesNorm devices exclusions).isEmpty then
    none
  else if ids.any fun id => !isExcluded exclusions id && !isPresent devices exclusions id then
    none
  else if (filterTopology allowed loaded.snapshot.topology).isEmpty then
    none
  else
    let layoutRotations := loaded.layoutRotations.filter fun entry => allowed entry.1
    some
      { snapshot := loaded.snapshot.restrict allowed
        snapshotVersion := loaded.snapshotVersion
        hasLayoutData := loaded.hasLayoutData && !layoutRotations.isEmpty
        layoutRotations := layoutRotations }

lemma filterLoadedSnapshot_eq {loaded : ParsedSnapshot} {devices : List EnumeratedDevice}
    {exclusions : List String} (hwithin : loaded.snapshot.Within (isAllowed devices exclusions))
    (htopology : loaded.snapshot.topology ≠ [])
    (hphysical : ∀ group ∈ loaded.snapshot.topology, ∀ id ∈ group,
      normalizeDeviceId id ∉ virtualDevicesNorm devices)
    (hrotations : ∀ entry ∈ loaded.layoutRotations, isAllowed devices exclusions entry.1) :
    filterLoadedSnapshot loaded devices exclusions = some { loaded with
        hasLayoutData := loaded.hasLayoutData && !loaded.layoutRotations.isEmpty } := by
  have hids : ∀ id ∈ loaded.snapshot.topology.flatten, isAllowed devices exclusions id := by
    intro id hid
    obtain ⟨group, hgroup, hmem⟩ := mem_flatten.1 hid
    exact hwithin.topology group hgroup id hmem
  have hvirtual : loaded.snapshot.topology.flatten.any
      (fun id => (virtualDevicesNorm devices).contains (normalizeDeviceId id)) = false := by
    simp only [any_eq_false, contains_iff_mem]
    intro id hid
    obtain ⟨group, hgroup, hmem⟩ := mem_flatten.1 hid
    exact hphysical group hgroup id hmem
  have hvalid : (validDevicesNorm devices exclusions).isEmpty = false := by
    obtain ⟨group, hgroup⟩ := exists_mem_of_ne_nil _ htopology
    obtain ⟨id, hid⟩ := exists_mem_of_ne_nil _ (hwithin.group_ne_nil group hgroup)
    have hallowed := hwithin.topology group hgroup id hid
    simp only [isAllowed, isPresent, and_eq_true, contains_iff_mem] at hallowed
    exact isEmpty_eq_false_iff.2 (ne_nil_of_mem hallowed.1)
  have hmissing : loaded.snapshot.topology.flatten.any
      (fun id => !isExcluded exclusions id && !isPresent devices exclusions id) = false := by
    simp only [any_eq_false]
    intro id hid
    have hallowed := hids id hid
    simp only [isAllowed, and_eq_true] at hallowed
    simp [hallowed.1]
  have hkept : filterTopology (isAllowed devices exclusions) loaded.snapshot.topology =
      loaded.snapshot.topology :=
    filterTopology_eq_self hwithin.group_ne_nil hwithin.topology
  have hnonempty : loaded.snapshot.topology.isEmpty = false := by
    simpa using htopology
  simp only [filterLoadedSnapshot, hvirtual, hvalid, hmissing, hkept, hnonempty,
    false_eq_true, if_false, hwithin.restrict_eq, filter_eq_self.2 hrotations]

lemma subset_filterTopology (hgroup : group ∈ filterTopology keep topology) {id : String}
    (hid : id ∈ group) : id ∈ topology.flatten := by
  obtain ⟨whole, hwhole, rfl⟩ := mem_map.1 (mem_filter.1 hgroup).1
  exact mem_flatten.2 ⟨whole, hwhole, (mem_filter.1 hid).1⟩

/-! ## A saved baseline is reloadable -/

lemma filterSnapshotForSave_ok {captured saved : Snapshot} {devices : List EnumeratedDevice}
    {exclusions : List String}
    (hsave : filterSnapshotForSave captured devices exclusions = .ok saved) :
    ∃ valid, valid = (validDeviceIds devices).filter (fun id => !isExcluded exclusions id) ∧
      saved = captured.restrict valid.contains ∧ saved.topology ≠ [] := by
  simp only [filterSnapshotForSave] at hsave
  split at hsave
  · cases hsave
  split at hsave
  · cases hsave
  split at hsave
  · cases hsave
  split at hsave
  · cases hsave
  rename_i hempty
  cases hsave
  refine ⟨_, rfl, rfl, ?_⟩
  simpa [Snapshot.restrict] using hempty

lemma exists_device_of_valid {devices : List EnumeratedDevice} {exclusions : List String}
    {id : String} (hid : id ∈ (validDeviceIds devices).filter fun id => !isExcluded exclusions id) :
    ∃ d ∈ devices, d.id = id ∧ id ≠ "" ∧ isVirtualDisplayDevice d = false ∧
      isExcluded exclusions id = false := by
  obtain ⟨hvalid, hexcluded⟩ := mem_filter.1 hid
  obtain ⟨d, hd, rfl⟩ := mem_map.1 hvalid
  simp only [mem_filter, and_eq_true, not_eq_true'] at hd hexcluded
  obtain ⟨hmem, ⟨hphysical, -⟩, hnamed⟩ := hd
  exact ⟨d, hmem, rfl, by simpa using hnamed, hphysical, hexcluded⟩

lemma isAllowed_of_valid {devices : List EnumeratedDevice} {exclusions : List String}
    {id : String} (hid : id ∈ (validDeviceIds devices).filter fun id => !isExcluded exclusions id) :
    isAllowed devices exclusions id := by
  obtain ⟨d, hd, rfl, hnamed, hphysical, hexcluded⟩ := exists_device_of_valid hid
  have hpresent : normalizeDeviceId d.id ∈ validDevicesNorm devices exclusions :=
    mem_map.2 ⟨d, by simp [hd, hnamed, hphysical, hexcluded], rfl⟩
  simp [isAllowed, isPresent, hpresent, hexcluded]

lemma not_virtual_of_valid {devices : List EnumeratedDevice} {exclusions : List String}
    (hdistinct : ((devices.filter fun d => !d.id.isEmpty).map
      fun d => normalizeDeviceId d.id).Nodup) {id : String}
    (hid : id ∈ (validDeviceIds devices).filter fun id => !isExcluded exclusions id) :
    normalizeDeviceId id ∉ virtualDevicesNorm devices := by
  obtain ⟨d, hd, rfl, hnamed, hphysical, -⟩ := exists_device_of_valid hid
  intro hvirtual
  obtain ⟨v, hv, hsame⟩ := mem_map.1 hvirtual
  simp only [mem_filter, and_eq_true] at hv
  obtain ⟨hvmem, ⟨hvnamed, hvvirtual⟩, -⟩ := hv
  have hvd : v = d :=
    inj_on_of_nodup_map hdistinct (mem_filter.2 ⟨hvmem, hvnamed⟩)
      (mem_filter.2 ⟨hd, by simpa using hnamed⟩) hsame
  rw [hvd, hphysical] at hvvirtual
  cases hvvirtual

/-- A baseline that the save filter accepts passes the load filter under the same devices
and exclusions, with its snapshot, its version and the rotations of its devices as they
are. The flag for layout data is dropped exactly when there are no rotations. -/
theorem saved_baseline_reloads {captured saved : Snapshot} {devices : List EnumeratedDevice}
    {exclusions : List String} {loaded : ParsedSnapshot}
    (hdistinct : ((devices.filter fun d => !d.id.isEmpty).map
      fun d => normalizeDeviceId d.id).Nodup)
    (hsave : filterSnapshotForSave captured devices exclusions = .ok saved)
    (hloaded : loaded.snapshot = saved)
    (hrotations : ∀ entry ∈ loaded.layoutRotations, entry.1 ∈ saved.topology.flatten) :
    filterLoadedSnapshot loaded devices exclusions = some { loaded with
        hasLayoutData := loaded.hasLayoutData && !loaded.layoutRotations.isEmpty } := by
  obtain ⟨valid, hvalid, hrestrict, htopology⟩ := filterSnapshotForSave_ok hsave
  have hsaved : saved.Within valid.contains := hrestrict ▸ captured.restrict_within _
  have hallowed : ∀ id, valid.contains id → isAllowed devices exclusions id := fun id hid =>
    isAllowed_of_valid (hvalid ▸ contains_iff_mem.1 hid)
  subst hloaded
  refine filterLoadedSnapshot_eq (hsaved.mono hallowed) htopology ?_ ?_
  · intro group hgroup id hid
    have hmem := hsaved.topology group hgroup id hid
    exact not_virtual_of_valid hdistinct (hvalid ▸ contains_iff_mem.1 hmem)
  · intro entry hentry
    obtain ⟨group, hgroup, hid⟩ := mem_flatten.1 (hrotations entry hentry)
    exact hallowed _ (hsaved.topology group hgroup _ hid)

def threeOutputs : List EnumeratedDevice :=
  [{ deviceId := "A", displayName := "d1" },
   { deviceId := "V", displayName := "d2", friendlyName := "Sunshine Virtual Display" },
   { deviceId := "P", displayName := "d3" }]

def threeOutputsCapture : Snapshot where
  topology := [["A"], ["V", "P"]]
  modes := [("A", ⟨⟨1920, 1080⟩, ⟨60, 1⟩⟩), ("V", ⟨⟨1280, 720⟩, ⟨60, 1⟩⟩)]
  primaryDevice := "V"
  origins := [("A", ⟨0, 0⟩), ("P", ⟨1920, 0⟩)]

def threeOutputsSaved : Snapshot where
  topology := [["A"]]
  modes := [("A", ⟨⟨1920, 1080⟩, ⟨60, 1⟩⟩)]
  origins := [("A", ⟨0, 0⟩)]

/-- The capture above is saved without the virtual display and the projector, and reloads. -/
theorem saved_baseline_reloads_three :
    filterSnapshotForSave threeOutputsCapture threeOutputs ["p "] = .ok threeOutputsSaved ∧
      filterLoadedSnapshot ⟨threeOutputsSaved, 2, true, [("A", 90)]⟩ threeOutputs ["p "] =
        some ⟨threeOutputsSaved, 2, true, [("A", 90)]⟩ := by
  have hsave : filterSnapshotForSave threeOutputsCapture threeOutputs ["p "] =
      .ok threeOutputsSaved := by rfl
  exact ⟨hsave, saved_baseline_reloads (by decide) hsave rfl (by decide)⟩

end Vibeshine.DisplayHelper
