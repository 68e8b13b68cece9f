import Vibeshine.StateFile.Tree
import Mathlib.Data.List.Nodup

/-! # Pairing records of one certificate

Named records of one certificate are collapsed into the first of them, and certificates of legacy
clients that are known already are dropped.
-/

namespace Vibeshine.StateFile

open List

namespace PTree

/-- `put` of a value for a path of one key. -/
def putData (tree : PTree) (key data : String) : PTree :=
  tree.putChild key (.node data (((tree.child? key).map children).getD []))

/-- `get` with a default, for a path of one key. -/
def getData (tree : PTree) (key default : String) : String :=
  ((tree.child? key).map data).getD default

def childrenOf (tree : PTree) (key : String) : List (String × PTree) :=
  ((tree.child? key).map children).getD []

def setChildren (tree : PTree) (key : String) (children : List (String × PTree)) : PTree :=
  match tree.child? key with
  | some child => tree.putChild key (.node child.data children)
  | none => tree

variable {tree child : PTree} {key : String} {children : List (String × PTree)}

lemma putChild_self (h : tree.child? key = some child) : tree.putChild key child = tree := by
  obtain ⟨data, children⟩ := tree
  rw [putChild, h, Option.isSome_some, if_pos rfl, data_node, children_node]
  rw [child?, children_node] at h
  congr 1
  induction children with
  | nil => rfl
  | cons entry rest ih =>
    by_cases hkey : entry.1 = key
    · rw [find?_cons_of_pos (by simpa using hkey)] at h
      rw [replaceFirst, if_pos hkey, ← hkey, ← Option.some.inj h]
    · rw [find?_cons_of_neg (by simpa using hkey)] at h
      rw [replaceFirst, if_neg hkey, ih h]

lemma putData_putData (data : String) :
    (tree.putData key data).putData key data = tree.putData key data := by
  rw [putData.eq_def (tree.putData key data)]
  refine putChild_self ?_
  rw [putData, child?_putChild_same]
  rfl

lemma setChildren_self (h : tree.childrenOf key = children) : tree.setChildren key children = tree := by
  unfold setChildren
  split
  · next child hchild =>
    rw [childrenOf, hchild, Option.map_some, Option.getD_some] at h
    refine putChild_self ?_
    rw [hchild, ← h]
    cases child
    rfl
  · rfl

lemma childrenOf_setChildren (h : tree.childrenOf key = [] → children = []) :
    (tree.setChildren key children).childrenOf key = children := by
  unfold setChildren
  split
  · simp [childrenOf]
  · next hnone =>
    have hempty : tree.childrenOf key = [] := by simp [childrenOf, hnone]
    rw [h hempty, hempty]

lemma childrenOf_setChildren_of_ne {other : String} (h : other ≠ key) :
    (tree.setChildren key children).childrenOf other = tree.childrenOf other := by
  unfold setChildren
  split
  · rw [childrenOf, child?_putChild h, childrenOf]
  · rfl

end PTree

open PTree

structure CollapsedPairingRecord where
  keptIndex : Nat
  keptUuid : String
  droppedIndex : Nat
  droppedUuid : String
deriving DecidableEq

/-- A named record that stays, where it was and under which identity. -/
structure Survivor where
  identity : String
  index : Nat
  key : String
  record : PTree
deriving DecidableEq

def namedDevices (tree : PTree) : List (String × PTree) := (rootOf tree).childrenOf "named_devices"

def legacyDevices (tree : PTree) : List (String × PTree) := (rootOf tree).childrenOf "devices"

def withDevices (tree : PTree) (named legacy : List (String × PTree)) : PTree :=
  match tree.child? "root" with
  | some root =>
    tree.putChild "root" ((root.setChildren "named_devices" named).setChildren "devices" legacy)
  | none => tree

section

variable (lib : TreeLibrary) (certificateIdentity : String → Option String)

def disabled (device : PTree) : Bool :=
  match device.child? "enabled" with
  | none => false
  | some value => lib.bool value.data ≠ some true

def namedIdentity (index : Nat) (device : PTree) : Except String String :=
  match device.child? "cert" with
  | none => .error "malformed certificate records"
  | some cert =>
    match certificateIdentity cert.data with
    | none => .error ("root.named_devices[" ++ toString index ++ "].cert is invalid")
    | some identity =>
      if identity = "" then .error ("root.named_devices[" ++ toString index ++ "].cert is invalid")
      else .ok identity

def settle (identity : String) (device : PTree) (survivor : Survivor) : Survivor :=
  if survivor.identity = identity ∧ disabled lib device then
    { survivor with record := survivor.record.putData "enabled" "false" }
  else survivor

def collapseNamed (index : Nat) : List (String × PTree) → List Survivor →
    List CollapsedPairingRecord → Except String (List Survivor × List CollapsedPairingRecord)
  | [], kept, collapsed => .ok (kept, collapsed)
  | (key, device) :: devices, kept, collapsed =>
    match namedIdentity certificateIdentity index device with
    | .error reason => .error reason
    | .ok identity =>
      match kept.find? fun survivor => survivor.identity = identity with
      | none => collapseNamed (index + 1) devices
          (kept ++ [{ identity, index, key, record := device }]) collapsed
      | some survivor => collapseNamed (index + 1) devices
          (kept.map (settle lib identity device))
          (collapsed ++
            [{ keptIndex := survivor.index
               keptUuid := survivor.record.getData "uuid" ""
               droppedIndex := index
               droppedUuid := device.getData "uuid" "" }])

/-- The loop over the certificates of a legacy client. The identities of the named clients count as
seen. -/
def collapseCertificates : List (String × PTree) → (seen : List String) →
    Except String (List (String × PTree) × List String)
  | [], seen => .ok ([], seen)
  | (key, cert) :: certs, seen =>
    if key ≠ "" ∨ !cert.childless ∨ cert.data = "" ∨ 65536 < cert.data.length then
      .error "invalid legacy certificate record"
    else
      match certificateIdentity cert.data with
      | none => .error "invalid legacy certificate identity"
      | some identity =>
        if identity = "" then .error "invalid legacy certificate identity"
        else if identity ∈ seen then collapseCertificates certs seen
        else do
          let (kept, seen) ← collapseCertificates certs (seen ++ [identity])
          pure ((key, cert) :: kept, seen)

def collapseLegacy : List (String × PTree) → (seen : List String) →
    Except String (List (String × PTree))
  | [], _ => .ok []
  | (key, device) :: devices, seen => do
    let (kept, seen) ← collapseCertificates certificateIdentity (device.childrenOf "certs") seen
    let devices ← collapseLegacy devices seen
    pure ((key, device.setChildren "certs" kept) :: devices)

def normalized (tree : PTree) : Except String (PTree × List CollapsedPairingRecord) := do
  let (kept, collapsed) ← collapseNamed lib certificateIdentity 0 (namedDevices tree) [] []
  let legacy ← collapseLegacy certificateIdentity (legacyDevices tree)
    (kept.map Survivor.identity)
  pure (withDevices tree (kept.map fun survivor => (survivor.key, survivor.record)) legacy, collapsed)

end

/-- `normalize_legacy_pairing_state`: the tree that is left, and why it failed or what was
collapsed. -/
def normalizeLegacyPairingState (lib : TreeLibrary)
    (certificateIdentity : Option (String → Option String)) (tree : PTree) :
    PTree × Except String (List CollapsedPairingRecord) :=
  match certificateIdentity with
  | none => (tree, .error "certificate validation is unavailable")
  | some certificateIdentity =>
    match normalized lib certificateIdentity tree with
    | .error reason => (tree, .error reason)
    | .ok (tree, collapsed) => (tree, .ok collapsed)

/-! ## The named records -/

section

variable (lib : TreeLibrary) (ids : String × PTree → String)

def firstIndex (devices : List (String × PTree)) (identity : String) : Nat :=
  devices.findIdx fun entry => ids entry = identity

def survive (devices : List (String × PTree)) (entry : (String × PTree) × Nat) : Survivor where
  identity := ids entry.1
  index := entry.2
  key := entry.1.1
  record :=
    if (devices.drop (entry.2 + 1)).any fun other => ids entry.1 = ids other ∧ disabled lib other.2
    then entry.1.2.putData "enabled" "false"
    else entry.1.2

def survivors (devices : List (String × PTree)) : List Survivor :=
  (devices.zipIdx.filter fun entry => firstIndex ids devices (ids entry.1) = entry.2).map
    (survive lib ids devices)

def repeats (devices : List (String × PTree)) : List (Nat × Nat) :=
  (devices.zipIdx.filter fun entry => firstIndex ids devices (ids entry.1) ≠ entry.2).map
    fun entry => (firstIndex ids devices (ids entry.1), entry.2)

def places (collapsed : List CollapsedPairingRecord) : List (Nat × Nat) :=
  collapsed.map fun record => (record.keptIndex, record.droppedIndex)

variable {lib ids} {devices : List (String × PTree)} {device : String × PTree} {identity : String}

lemma firstIndex_lt : firstIndex ids devices identity < devices.length ↔
    ∃ entry ∈ devices, ids entry = identity := by
  simp [firstIndex, findIdx_lt_length]

lemma firstIndex_snoc {entry : (String × PTree) × Nat} (h : entry ∈ devices.zipIdx) :
    firstIndex ids (devices ++ [device]) (ids entry.1) = firstIndex ids devices (ids entry.1) := by
  have hlt : firstIndex ids devices (ids entry.1) < devices.length :=
    firstIndex_lt.mpr ⟨entry.1, fst_mem_of_mem_zipIdx h, rfl⟩
  unfold firstIndex at hlt ⊢
  rw [findIdx_append, if_pos hlt]

lemma firstIndex_snoc_self : firstIndex ids (devices ++ [device]) (ids device) =
    if firstIndex ids devices (ids device) < devices.length then firstIndex ids devices (ids device)
    else devices.length := by
  unfold firstIndex
  rw [findIdx_append]
  simp [findIdx_cons]

lemma survive_snoc {entry : (String × PTree) × Nat} (h : entry ∈ devices.zipIdx) :
    survive lib ids (devices ++ [device]) entry =
      settle lib (ids device) device.2 (survive lib ids devices entry) := by
  have hlt := snd_lt_of_mem_zipIdx h
  unfold survive settle
  rw [drop_append_of_le_length (by omega), any_append]
  by_cases hsame : ids entry.1 = ids device ∧ disabled lib device.2
  · simp only [any_cons, any_nil, hsame, and_self, decide_true, Bool.or_false, Bool.or_true, if_true]
    split
    · rw [putData_putData]
    · rfl
  · simp only [any_cons, any_nil, hsame, decide_false, Bool.or_false, if_false]

lemma survivors_snoc : survivors lib ids (devices ++ [device]) =
    (survivors lib ids devices).map (settle lib (ids device) device.2) ++
      if firstIndex ids devices (ids device) < devices.length then []
      else [⟨ids device, devices.length, device.1, device.2⟩] := by
  unfold survivors
  rw [zipIdx_append, filter_append, map_append]
  congr 1
  · rw [filter_congr fun entry h => by rw [firstIndex_snoc h], map_map]
    exact map_congr_left fun entry h => survive_snoc (mem_of_mem_filter h)
  · rw [zipIdx_singleton, Nat.zero_add]
    by_cases h : firstIndex ids devices (ids device) < devices.length
    · simp [firstIndex_snoc_self, h, Nat.ne_of_lt h]
    · simp [firstIndex_snoc_self, h, survive]

lemma repeats_snoc : repeats ids (devices ++ [device]) = repeats ids devices ++
    if firstIndex ids devices (ids device) < devices.length then
      [(firstIndex ids devices (ids device), devices.length)] else [] := by
  unfold repeats
  rw [zipIdx_append, filter_append, map_append]
  congr 1
  · rw [filter_congr fun entry h => by rw [firstIndex_snoc h]]
    exact map_congr_left fun entry h => by rw [firstIndex_snoc (mem_of_mem_filter h)]
  · rw [zipIdx_singleton, Nat.zero_add]
    by_cases h : firstIndex ids devices (ids device) < devices.length
    · rw [filter_cons_of_pos (by simp [firstIndex_snoc_self, h, Nat.ne_of_lt h])]
      simp [firstIndex_snoc_self, h]
    · simp [firstIndex_snoc_self, h]

lemma find?_survivors :
    ((survivors lib ids devices).find? fun survivor => survivor.identity = identity).map (·.index) =
      if firstIndex ids devices identity < devices.length then some (firstIndex ids devices identity)
      else none := by
  cases hfind : (survivors lib ids devices).find? fun survivor => survivor.identity = identity with
  | none =>
    rw [if_neg]
    · rfl
    · intro hlt
      obtain ⟨entry, hentry, rfl⟩ := firstIndex_lt.mp hlt
      have hids : ids (devices.get ⟨_, hlt⟩) = ids entry :=
        of_decide_eq_true (findIdx_getElem (p := fun other => ids other = ids entry) (w := hlt))
      refine find?_eq_none.mp hfind _ (mem_map.mpr ⟨(devices.get ⟨_, hlt⟩,
        firstIndex ids devices (ids entry)), mem_filter.mpr ⟨?_, ?_⟩, rfl⟩) ?_
      · exact mem_zipIdx_iff_getElem?.mpr (getElem?_eq_getElem hlt)
      · exact decide_eq_true (by rw [hids])
      · exact decide_eq_true hids
  | some survivor =>
    obtain ⟨entry, hentry, rfl⟩ := mem_map.mp (mem_of_find?_eq_some hfind)
    obtain ⟨hmem, hfirst⟩ := mem_filter.mp hentry
    have hidentity : decide (ids entry.1 = identity) = true :=
      find?_some (p := fun survivor : Survivor => survivor.identity = identity) hfind
    obtain rfl := of_decide_eq_true hidentity
    rw [if_pos (firstIndex_lt.mpr ⟨entry.1, fst_mem_of_mem_zipIdx hmem, rfl⟩), of_decide_eq_true hfirst]
    rfl

/-! ## The loop over them -/

variable {f : String → Option String}

def identityOf (f : String → Option String) (entry : String × PTree) : String :=
  ((entry.2.child? "cert").bind fun cert => f cert.data).getD ""

lemma namedIdentity_ok {index : Nat} : namedIdentity f index device.2 = .ok identity ↔
    identityOf f device = identity ∧ identity ≠ "" := by
  unfold namedIdentity identityOf
  split
  · next h => simp +contextual [h, eq_comm]
  · next cert h =>
    rw [h, Option.bind_some]
    split
    · next hnone => simp +contextual [hnone, eq_comm]
    · next found hfound =>
      rw [hfound, Option.getD_some]
      by_cases hempty : found = ""
      · simp +contextual [hempty, eq_comm]
      · rw [if_neg hempty, Except.ok.injEq]
        exact ⟨fun h => ⟨h, h ▸ hempty⟩, And.left⟩

/-- After the records that were read, the ones kept are the survivors among them. -/
lemma collapseNamed_run {rest : List (String × PTree)} {kept kept' : List Survivor}
    {collapsed collapsed' : List CollapsedPairingRecord}
    (h : collapseNamed lib f devices.length rest kept collapsed = .ok (kept', collapsed'))
    (hkept : kept = survivors lib (identityOf f) devices)
    (hcollapsed : places collapsed = repeats (identityOf f) devices) :
    kept' = survivors lib (identityOf f) (devices ++ rest) ∧
      places collapsed' = repeats (identityOf f) (devices ++ rest) ∧
      ∀ entry ∈ rest, identityOf f entry ≠ "" := by
  induction rest generalizing devices kept collapsed with
  | nil =>
    obtain ⟨rfl, rfl⟩ := Prod.mk.inj (Except.ok.inj h)
    rw [append_nil]
    exact ⟨hkept, hcollapsed, nofun⟩
  | cons device rest ih =>
    rw [append_cons, forall_mem_cons]
    rw [collapseNamed] at h
    cases hidentity : namedIdentity f devices.length device.2 with
    | error => simp [hidentity] at h
    | ok identity =>
      obtain ⟨rfl, hne⟩ := namedIdentity_ok.mp hidentity
      have hfind := @find?_survivors lib (identityOf f) devices (identityOf f device)
      rw [← hkept] at hfind
      rw [hidentity] at h
      dsimp only at h
      split at h
      · next hnone =>
        have hnew : ¬firstIndex (identityOf f) devices (identityOf f device) < devices.length := by
          intro hlt
          rw [hnone, if_pos hlt] at hfind
          cases hfind
        have hsettled : kept.map (settle lib (identityOf f device) device.2) = kept := by
          refine (map_congr_left fun survivor hsurvivor => ?_).trans (map_id _)
          exact if_neg fun hsame => find?_eq_none.mp hnone survivor hsurvivor (decide_eq_true hsame.1)
        obtain ⟨hkept', hcollapsed', hrest⟩ := @ih (devices ++ [device]) _ _ (by simpa using h)
          (by rw [survivors_snoc, if_neg hnew, ← hkept, hsettled])
          (by rw [repeats_snoc, if_neg hnew, append_nil, hcollapsed])
        exact ⟨hkept', hcollapsed', hne, hrest⟩
      · next survivor hsome =>
        have hold : firstIndex (identityOf f) devices (identityOf f device) < devices.length := by
          by_contra hlt
          rw [hsome, if_neg hlt] at hfind
          cases hfind
        rw [hsome, if_pos hold, Option.map_some, Option.some_inj] at hfind
        obtain ⟨hkept', hcollapsed', hrest⟩ := @ih (devices ++ [device]) _ _ (by simpa using h)
          (by rw [survivors_snoc, if_pos hold, ← hkept, append_nil])
          (by rw [repeats_snoc, if_pos hold, ← hcollapsed, places, map_append, ← places, ← hfind]; rfl)
        exact ⟨hkept', hcollapsed', hne, hrest⟩

/-- Records of different identities all stay as they are. -/
lemma collapseNamed_distinct {index : Nat} {rest : List (String × PTree)} {kept : List Survivor}
    {collapsed : List CollapsedPairingRecord} (hids : ∀ entry ∈ rest, identityOf f entry ≠ "")
    (hnodup : (kept.map Survivor.identity ++ rest.map (identityOf f)).Nodup) :
    ∃ more : List Survivor, collapseNamed lib f index rest kept collapsed =
        .ok (kept ++ more, collapsed) ∧
      more.map (fun survivor => (survivor.key, survivor.record)) = rest ∧
      more.map Survivor.identity = rest.map (identityOf f) := by
  induction rest generalizing index kept with
  | nil => exact ⟨[], by simp [collapseNamed]⟩
  | cons device rest ih =>
    obtain ⟨hne, hrest⟩ := forall_mem_cons.mp hids
    have hnew : (kept.find? fun survivor => survivor.identity = identityOf f device) = none := by
      refine find?_eq_none.mpr fun survivor hsurvivor hsame => ?_
      exact (nodup_append.mp hnodup).2.2 _ (mem_map.mpr ⟨survivor, hsurvivor, rfl⟩) _
        mem_cons_self (of_decide_eq_true hsame)
    obtain ⟨more, hmore, hrecs, hidentities⟩ := @ih (index + 1) (kept ++
      [⟨identityOf f device, index, device.1, device.2⟩]) hrest (by simpa using hnodup)
    refine ⟨⟨identityOf f device, index, device.1, device.2⟩ :: more, ?_, ?_, ?_⟩
    · rw [collapseNamed, namedIdentity_ok.mpr ⟨rfl, hne⟩]
      dsimp only
      rw [hnew]
      dsimp only
      rw [hmore, append_assoc]
      rfl
    · rw [map_cons, hrecs]
    · rw [map_cons, map_cons, hidentities]

lemma survivors_identity {survivor : Survivor}
    (h : survivor ∈ survivors lib (identityOf f) devices) :
    identityOf f (survivor.key, survivor.record) = survivor.identity := by
  obtain ⟨entry, -, rfl⟩ := mem_map.mp h
  unfold survive
  dsimp only
  split
  · rw [identityOf, putData, child?_putChild (by decide), ← identityOf]
  · rfl

lemma survivors_nodup : ((survivors lib ids devices).map Survivor.identity).Nodup := by
  unfold survivors
  rw [map_map]
  refine Nodup.map_on (fun entry hentry other hother hsame => ?_) (Nodup.filter _ ?_)
  · have hindex : entry.2 = other.2 := by
      rw [← of_decide_eq_true (mem_filter.mp hentry).2, ← of_decide_eq_true (mem_filter.mp hother).2]
      exact congrArg _ hsame
    have hfirst := mem_zipIdx_iff_getElem?.mp (mem_filter.mp hentry).1
    rw [hindex, mem_zipIdx_iff_getElem?.mp (mem_filter.mp hother).1] at hfirst
    exact Prod.ext (Option.some.inj hfirst).symm hindex
  · exact (zipIdx_map_snd 0 devices ▸ nodup_range' (n := devices.length) : _).of_map _

lemma mem_survivors {entry : String × PTree} (h : entry ∈ devices) :
    ids entry ∈ (survivors lib ids devices).map Survivor.identity := by
  have hfind := @find?_survivors lib ids devices (ids entry)
  rw [if_pos (firstIndex_lt.mpr ⟨entry, h, rfl⟩)] at hfind
  obtain ⟨survivor, hsurvivor, -⟩ := Option.map_eq_some_iff.mp hfind
  exact mem_map.mpr ⟨survivor, mem_of_find?_eq_some hsurvivor,
    of_decide_eq_true (find?_some (p := fun survivor : Survivor => survivor.identity = ids entry)
      hsurvivor)⟩

/-! ## The legacy certificates -/

lemma bind_ok {α β : Type} {computed : Except String α} {next : α → Except String β} {result : β}
    (h : computed >>= next = .ok result) : ∃ value, computed = .ok value ∧ next value = .ok result := by
  cases computed with
  | error => cases h
  | ok value => exact ⟨value, rfl, h⟩

def legacyIdentity (f : String → Option String) (cert : String × PTree) : String :=
  (f cert.2.data).getD ""

lemma collapseCertificates_run {certs kept : List (String × PTree)} {seen seen' : List String}
    (h : collapseCertificates f certs seen = .ok (kept, seen')) :
    seen' = seen ++ kept.map (legacyIdentity f) ∧ (seen.Nodup → seen'.Nodup) ∧
      kept.Sublist certs ∧ collapseCertificates f kept seen = .ok (kept, seen') := by
  induction certs generalizing seen kept seen' with
  | nil =>
    obtain ⟨rfl, rfl⟩ := Prod.mk.inj (Except.ok.inj h)
    simp [collapseCertificates]
  | cons cert certs ih =>
    obtain ⟨key, cert⟩ := cert
    rw [collapseCertificates] at h
    split at h
    · cases h
    next hvalid =>
    split at h
    · cases h
    next identity hidentity =>
    split at h
    · cases h
    next hne =>
    split at h
    · obtain ⟨hseen, hnodup, hkept, hagain⟩ := ih h
      exact ⟨hseen, hnodup, hkept.cons _, hagain⟩
    · next hnew =>
      obtain ⟨⟨rest, seen''⟩, hrest, h⟩ := bind_ok h
      obtain ⟨rfl, rfl⟩ := Prod.mk.inj (Except.ok.inj h)
      obtain ⟨hseen, hnodup, hkept, hagain⟩ := ih hrest
      refine ⟨?_, fun hold => hnodup ?_, hkept.cons_cons _, ?_⟩
      · simp [hseen, legacyIdentity, hidentity]
      · exact nodup_append.mpr ⟨hold, nodup_singleton _, by
          rintro other hother _ hidentity rfl
          exact hnew (mem_singleton.mp hidentity ▸ hother)⟩
      · rw [collapseCertificates, if_neg hvalid, hidentity]
        dsimp only
        rw [if_neg hne, if_neg hnew, hagain]
        rfl

/-- A certificate whose identity is met for the first time is kept. -/
lemma collapseCertificates_stays {certs kept : List (String × PTree)} {seen seen' : List String}
    (h : collapseCertificates f certs seen = .ok (kept, seen')) :
    (∀ identity, identity ∈ seen' ↔ identity ∈ seen ++ certs.map (legacyIdentity f)) ∧
      ∀ earlier cert later, certs = earlier ++ cert :: later →
        legacyIdentity f cert ∉ seen ++ earlier.map (legacyIdentity f) → cert ∈ kept := by
  induction certs generalizing seen kept seen' with
  | nil =>
    obtain ⟨rfl, rfl⟩ := Prod.mk.inj (Except.ok.inj h)
    simp
  | cons cert certs ih =>
    obtain ⟨key, cert⟩ := cert
    rw [collapseCertificates] at h
    split at h
    · cases h
    split at h
    · cases h
    next identity hidentity =>
    have hlegacy : legacyIdentity f (key, cert) = identity := by simp [legacyIdentity, hidentity]
    split at h
    · cases h
    split at h
    · next hold =>
      obtain ⟨hseen, hstays⟩ := ih h
      refine ⟨fun other => ?_, fun earlier found later hcerts hnew => ?_⟩
      · rw [hseen, map_cons, hlegacy, mem_append, mem_append, mem_cons]
        grind
      · cases earlier with
        | nil =>
          obtain ⟨rfl, -⟩ := cons.inj hcerts
          exact absurd (mem_append_left _ (hlegacy ▸ hold)) hnew
        | cons first earlier =>
          exact hstays earlier found later (cons.inj hcerts).2 (by grind)
    · obtain ⟨⟨rest, seen''⟩, hrest, h⟩ := bind_ok h
      obtain ⟨rfl, rfl⟩ := Prod.mk.inj (Except.ok.inj h)
      obtain ⟨hseen, hstays⟩ := ih hrest
      refine ⟨fun other => by rw [hseen, map_cons, hlegacy]; simp, ?_⟩
      intro earlier found later hcerts hnew
      cases earlier with
      | nil => exact (cons.inj hcerts).1 ▸ mem_cons_self
      | cons first earlier =>
        obtain ⟨rfl, htail⟩ := cons.inj hcerts
        refine mem_cons_of_mem _ (hstays earlier found later htail ?_)
        simpa [hlegacy] using hnew

def certificatesOf (devices : List (String × PTree)) : List (String × PTree) :=
  devices.flatMap fun device => device.2.childrenOf "certs"

/-- Only certificates go, and none whose identity is not among those seen before it. -/
inductive Thinned (f : String → Option String) :
    List String → List (String × PTree) → List (String × PTree) → Prop where
  | nil (seen : List String) : Thinned f seen [] []
  | cons {seen : List String} {key : String} {device : PTree} {certs : List (String × PTree)}
      {devices devices' : List (String × PTree)}
      (kept : certs.Sublist (device.childrenOf "certs"))
      (stays : ∀ earlier cert later, device.childrenOf "certs" = earlier ++ cert :: later →
        legacyIdentity f cert ∉ seen ++ earlier.map (legacyIdentity f) → cert ∈ certs)
      (rest : Thinned f (seen ++ (device.childrenOf "certs").map (legacyIdentity f)) devices devices') :
      Thinned f seen ((key, device) :: devices) ((key, device.setChildren "certs" certs) :: devices')

lemma collapseLegacy_thinned {devices' : List (String × PTree)} {seen known : List String}
    (h : collapseLegacy f devices seen = .ok devices')
    (hknown : ∀ identity, identity ∈ seen ↔ identity ∈ known) : Thinned f known devices devices' := by
  induction devices generalizing seen known devices' with
  | nil =>
    obtain rfl := Except.ok.inj h
    exact .nil known
  | cons device devices ih =>
    obtain ⟨key, device⟩ := device
    rw [collapseLegacy] at h
    obtain ⟨⟨kept, seen'⟩, hcerts, h⟩ := bind_ok h
    obtain ⟨rest, hrest, h⟩ := bind_ok h
    obtain rfl := Except.ok.inj h
    obtain ⟨hseen, hstays⟩ := collapseCertificates_stays hcerts
    refine .cons (collapseCertificates_run hcerts).2.2.1 (fun earlier cert later hsplit hnew => ?_)
      (ih hrest fun identity => ?_)
    · refine hstays earlier cert later hsplit fun hmem => hnew ?_
      rwa [mem_append, hknown, ← mem_append] at hmem
    · rw [hseen, mem_append, hknown, mem_append]

lemma collapseLegacy_run {devices' : List (String × PTree)} {seen : List String}
    (h : collapseLegacy f devices seen = .ok devices') :
    (seen.Nodup → (seen ++ (certificatesOf devices').map (legacyIdentity f)).Nodup) ∧
      collapseLegacy f devices' seen = .ok devices' := by
  induction devices generalizing seen devices' with
  | nil =>
    obtain rfl := Except.ok.inj h
    exact ⟨by simp [certificatesOf], rfl⟩
  | cons device devices ih =>
    obtain ⟨key, device⟩ := device
    rw [collapseLegacy] at h
    obtain ⟨⟨kept, seen'⟩, hcerts, h⟩ := bind_ok h
    obtain ⟨rest, hrest, h⟩ := bind_ok h
    obtain rfl := Except.ok.inj h
    obtain ⟨hseen, hnodup, hkept, hagain⟩ := collapseCertificates_run hcerts
    obtain ⟨hids, hlegacy⟩ := ih hrest
    have hchildren : (device.setChildren "certs" kept).childrenOf "certs" = kept :=
      childrenOf_setChildren fun hnil => sublist_nil.mp (hnil ▸ hkept)
    refine ⟨fun hold => ?_, ?_⟩
    · simpa [certificatesOf, hchildren, hseen] using hids (hnodup hold)
    · rw [collapseLegacy, hchildren, hagain]
      change (do pure ((key, (device.setChildren "certs" kept).setChildren "certs" kept) ::
        (← collapseLegacy f rest seen'))) = _
      rw [hlegacy, setChildren_self hchildren]
      rfl

/-! ## The tree -/

lemma withDevices_spec {tree : PTree} {named legacy : List (String × PTree)}
    (hnamed : namedDevices tree = [] → named = []) (hlegacy : legacyDevices tree = [] → legacy = []) :
    namedDevices (withDevices tree named legacy) = named ∧
      legacyDevices (withDevices tree named legacy) = legacy ∧
      withDevices (withDevices tree named legacy) named legacy = withDevices tree named legacy := by
  unfold namedDevices legacyDevices at *
  unfold withDevices
  cases hroot : tree.child? "root" with
  | none =>
    have hempty : rootOf tree = .empty := by simp [rootOf, hroot]
    rw [hempty] at hnamed hlegacy
    simp [hroot, hempty, hnamed rfl, hlegacy rfl, childrenOf]
  | some root =>
    rw [rootOf_of_root hroot] at hnamed hlegacy
    have hnamed' : ((root.setChildren "named_devices" named).setChildren "devices" legacy).childrenOf
        "named_devices" = named := by
      rw [childrenOf_setChildren_of_ne (by decide), childrenOf_setChildren hnamed]
    have hlegacy' : ((root.setChildren "named_devices" named).setChildren "devices" legacy).childrenOf
        "devices" = legacy :=
      childrenOf_setChildren (by rwa [childrenOf_setChildren_of_ne (by decide)])
    refine ⟨by rw [rootOf_putChild, hnamed'], by rw [rootOf_putChild, hlegacy'], ?_⟩
    dsimp only
    rw [child?_putChild_same]
    dsimp only
    rw [setChildren_self hnamed', setChildren_self hlegacy']
    exact putChild_self child?_putChild_same

/-- What a normalization leaves of a tree. -/
structure Normalized (lib : TreeLibrary) (f : String → Option String) (tree tree' : PTree)
    (collapsed : List CollapsedPairingRecord) : Prop where
  /-- The first record of each identity is left, disabled where one that is collapsed is. -/
  named : namedDevices tree' =
    (survivors lib (identityOf f) (namedDevices tree)).map fun survivor => (survivor.key, survivor.record)
  identified : ∀ entry ∈ namedDevices tree, identityOf f entry ≠ "" ∧
    identityOf f entry ∈ (namedDevices tree').map (identityOf f)
  distinct : ((namedDevices tree').map (identityOf f) ++
    (certificatesOf (legacyDevices tree')).map (legacyIdentity f)).Nodup
  collapsed : places collapsed = repeats (identityOf f) (namedDevices tree)
  thinned : Thinned f ((namedDevices tree').map (identityOf f)) (legacyDevices tree)
    (legacyDevices tree')
  rest : tree' = withDevices tree (namedDevices tree') (legacyDevices tree')
  again : normalizeLegacyPairingState lib (some f) tree' = (tree', .ok [])

lemma Normalized.of_ok {tree tree' : PTree} {collapsed : List CollapsedPairingRecord}
    (h : normalized lib f tree = .ok (tree', collapsed)) : Normalized lib f tree tree' collapsed := by
  obtain ⟨⟨kept, collapsed⟩, hnamed, h⟩ := bind_ok h
  obtain ⟨legacy, hlegacy, h⟩ := bind_ok h
  obtain ⟨rfl, rfl⟩ := Prod.mk.inj (Except.ok.inj h)
  obtain ⟨hkept, hplaces, hids⟩ := @collapseNamed_run lib [] f _ _ _ _ _ hnamed rfl rfl
  rw [nil_append] at hkept hplaces
  subst hkept
  obtain ⟨hdistinct, hagain⟩ := collapseLegacy_run hlegacy
  have hthinned := collapseLegacy_thinned hlegacy fun _ => Iff.rfl
  set devices := namedDevices tree
  set kept := survivors lib (identityOf f) devices
  set named := kept.map fun survivor => (survivor.key, survivor.record)
  have hidentities : named.map (identityOf f) = kept.map Survivor.identity := by
    rw [map_map]
    exact map_congr_left fun survivor h => survivors_identity h
  obtain ⟨hnamed', hlegacy', hrest⟩ := @withDevices_spec tree named legacy
    (fun hnil => by simp only [named, kept, devices, hnil]; rfl)
    (fun hnil => by rw [hnil] at hthinned; cases hthinned; rfl)
  refine ⟨hnamed', fun entry hentry => ⟨hids entry hentry, ?_⟩, ?_, hplaces, ?_, ?_, ?_⟩
  · rw [hnamed', hidentities]
    exact mem_survivors hentry
  · rw [hnamed', hlegacy', hidentities]
    exact hdistinct survivors_nodup
  · rwa [hnamed', hlegacy', hidentities]
  · rw [hnamed', hlegacy']
  · have hne (entry : String × PTree) (hentry : entry ∈ named) : identityOf f entry ≠ "" := by
      obtain ⟨survivor, hsurvivor, rfl⟩ := mem_map.mp hentry
      rw [survivors_identity hsurvivor]
      obtain ⟨entry, hfirst, rfl⟩ := mem_map.mp hsurvivor
      exact hids entry.1 (fst_mem_of_mem_zipIdx (mem_filter.mp hfirst).1)
    obtain ⟨more, hmore, hrecs, hmoreIds⟩ := @collapseNamed_distinct lib f 0 _ [] [] hne
      (by rw [map_nil, nil_append, hidentities]; exact survivors_nodup)
    have hnormalized : normalized lib f (withDevices tree named legacy) =
        .ok (withDevices tree named legacy, []) := by
      rw [normalized, hnamed', hmore, nil_append]
      change (do pure (withDevices _ _ (← collapseLegacy _ _ (more.map Survivor.identity)), [])) = _
      rw [hlegacy', hmoreIds, hidentities, hagain, hrecs]
      exact congrArg (fun tree => Except.ok (tree, [])) hrest
    rw [normalizeLegacyPairingState, hnormalized]

/-- Pairing records are collapsed into the first of each certificate, and nothing changes when they
cannot be, or a second time. -/
theorem pairing_records_normalized (lib : TreeLibrary)
    (certificateIdentity : Option (String → Option String)) (tree : PTree) :
    (∀ reason, (normalizeLegacyPairingState lib certificateIdentity tree).2 = .error reason →
        (normalizeLegacyPairingState lib certificateIdentity tree).1 = tree) ∧
      ∀ collapsed, (normalizeLegacyPairingState lib certificateIdentity tree).2 = .ok collapsed →
        ∃ identity, certificateIdentity = some identity ∧ Normalized lib identity tree
          (normalizeLegacyPairingState lib certificateIdentity tree).1 collapsed := by
  cases certificateIdentity with
  | none => exact ⟨fun _ _ => rfl, nofun⟩
  | some identity =>
    rw [normalizeLegacyPairingState]
    cases h : normalized lib identity tree with
    | error => exact ⟨fun _ _ => rfl, nofun⟩
    | ok result =>
      refine ⟨nofun, fun collapsed hcollapsed => ⟨identity, rfl, ?_⟩⟩
      obtain rfl := Except.ok.inj hcollapsed
      exact .of_ok h

end

end Vibeshine.StateFile
