import Vibeshine.RemoteDisplay.Layout

/-! # Accepted layouts

Normalization drops a marker that validation does not read otherwise, so that the two
agree. An accepted layout has at most one primary client and ranks the clients so that
each client anchor points to a smaller rank.
-/

namespace Vibeshine.RemoteDisplay

open List

/-! ## Normalized placements -/

section

variable {placement : Json} {members : List (String × Json)}

lemma lookup_filter_of_ne {key erased : String} (h : key ≠ erased) :
    (members.filter fun member => member.1 != erased).lookup key = members.lookup key := by
  induction members with
  | nil => rfl
  | cons member rest ih =>
    obtain ⟨name, value⟩ := member
    by_cases hname : name = erased
    · subst hname
      have hkey : (key == name) = false := beq_eq_false_iff_ne.mpr h
      simp [lookup_cons, hkey, ih]
    · simp [hname, lookup_cons, ih]

lemma lookup_filter_self {key : String} :
    (members.filter fun member => member.1 != key).lookup key = none := by
  induction members with
  | nil => rfl
  | cons member rest ih =>
    obtain ⟨name, value⟩ := member
    by_cases hname : name = key
    · simp [hname, ih]
    · have hkey : (key == name) = false := beq_eq_false_iff_ne.mpr (Ne.symm hname)
      simp [hname, lookup_cons, hkey, ih]

@[simp] lemma member?_erase_of_ne {key erased : String} (h : key ≠ erased) :
    (placement.erase erased).member? key = placement.member? key := by
  cases placement with
  | object members => exact lookup_filter_of_ne h
  | _ => rfl

variable {key : String}

@[simp] lemma member?_erase_self : (placement.erase key).member? key = none := by
  cases placement with
  | object members => exact lookup_filter_self
  | _ => rfl

lemma member?_normalizePlacement (h : key ≠ "automatic_fallback") :
    (normalizePlacement placement).member? key = placement.member? key := by
  unfold normalizePlacement
  split
  · exact member?_erase_of_ne h
  · rfl

lemma flag_normalizePlacement (h : key ≠ "automatic_fallback") :
    (normalizePlacement placement).flag key = placement.flag key := by
  rw [Json.flag, member?_normalizePlacement h, Json.flag]

lemma text_normalizePlacement {key default : String} (h : key ≠ "automatic_fallback") :
    (normalizePlacement placement).text key default = placement.text key default := by
  rw [Json.text, member?_normalizePlacement h, Json.text]

lemma number_normalizePlacement (h : key ≠ "automatic_fallback") :
    (normalizePlacement placement).number key = placement.number key := by
  rw [Json.number, member?_normalizePlacement h, Json.number]

lemma has_normalizePlacement {expected : Json → Bool} (h : key ≠ "automatic_fallback") :
    (normalizePlacement placement).has key expected = placement.has key expected := by
  rw [Json.has, member?_normalizePlacement h, Json.has]

lemma admitsBoolean_normalizePlacement (h : key ≠ "automatic_fallback") :
    (normalizePlacement placement).admitsBoolean key = placement.admitsBoolean key := by
  rw [Json.admitsBoolean, member?_normalizePlacement h, Json.admitsBoolean]

lemma isObject_normalizePlacement :
    (normalizePlacement placement).isObject = placement.isObject := by
  unfold normalizePlacement
  split
  · cases placement <;> rfl
  · rfl

lemma marker_normalizePlacement :
    (normalizePlacement placement).flag "automatic_fallback" = isAutomaticFallback placement := by
  unfold normalizePlacement
  split
  · next hstale =>
    rw [Bool.and_eq_true, Bool.not_eq_true'] at hstale
    rw [Json.flag, member?_erase_self, hstale.2]
  · next hfresh =>
    rw [Bool.and_eq_true, not_and, Bool.not_eq_true', Bool.not_eq_false] at hfresh
    cases hflag : placement.flag "automatic_fallback" with
    | false => simp [isAutomaticFallback, hflag]
    | true => exact (hfresh hflag).symm

@[simp] lemma isAutomaticFallback_normalizePlacement :
    isAutomaticFallback (normalizePlacement placement) = isAutomaticFallback placement := by
  conv_lhs => unfold isAutomaticFallback
  rw [marker_normalizePlacement, flag_normalizePlacement (by decide),
    text_normalizePlacement (by decide), text_normalizePlacement (by decide)]
  unfold isAutomaticFallback
  cases placement.flag "automatic_fallback" <;> cases placement.flag "preserve" <;>
    cases (placement.text "anchor_kind" == "physical") <;> simp

lemma admitsBoolean_marker : (normalizePlacement placement).admitsBoolean "automatic_fallback" =
      placement.admitsBoolean "automatic_fallback" := by
  unfold normalizePlacement
  split
  · next hstale =>
    rw [Bool.and_eq_true] at hstale
    have hflag := hstale.1
    unfold Json.flag at hflag
    split at hflag
    · next hmember =>
      rw [Json.admitsBoolean, member?_erase_self, Json.admitsBoolean, hmember]
      rfl
    · cases hflag
  · rfl

lemma normalizePlacement_idem :
    normalizePlacement (normalizePlacement placement) = normalizePlacement placement := by
  have hfresh : ((normalizePlacement placement).flag "automatic_fallback" &&
      !isAutomaticFallback (normalizePlacement placement)) = false := by
    rw [marker_normalizePlacement, isAutomaticFallback_normalizePlacement, Bool.and_not_self]
  generalize normalizePlacement placement = normalized at hfresh ⊢
  unfold normalizePlacement
  rw [hfresh]
  rfl

lemma placementSchemaError_normalizePlacement (client : String) :
    placementSchemaError client (normalizePlacement placement) =
      placementSchemaError client placement := by
  unfold placementSchemaError
  rw [isObject_normalizePlacement, has_normalizePlacement (by decide),
    has_normalizePlacement (by decide), has_normalizePlacement (by decide),
    has_normalizePlacement (by decide), has_normalizePlacement (by decide),
    admitsBoolean_normalizePlacement (by decide), admitsBoolean_normalizePlacement (by decide),
    admitsBoolean_marker, text_normalizePlacement (by decide), text_normalizePlacement (by decide),
    text_normalizePlacement (by decide), text_normalizePlacement (by decide),
    flag_normalizePlacement (by decide), number_normalizePlacement (by decide)]

lemma scan_normalizePlacement (knownClients knownPhysicalIds : List String) (anchors : Anchors)
    (client : String) :
    anchors.scan knownClients knownPhysicalIds (client, normalizePlacement placement) =
      anchors.scan knownClients knownPhysicalIds (client, placement) := by
  unfold Anchors.scan
  dsimp only
  rw [isObject_normalizePlacement, isAutomaticFallback_normalizePlacement,
    flag_normalizePlacement (by decide), flag_normalizePlacement (by decide),
    text_normalizePlacement (by decide), text_normalizePlacement (by decide)]

end

/-! ## Edited layouts -/

def editPlacements (edit : List (String × Json) → List (String × Json)) : Json → Json
  | .object members => .object (members.map fun member =>
    if member.1 = "placements" then (member.1, .object (edit member.2.members)) else member)
  | other => other

lemma eq_none_of_guard {α : Type} {cond : Prop} [Decidable cond] {message : α}
    {rest : Option α} : (if cond then some message else rest) = none ↔ ¬cond ∧ rest = none := by
  split
  next h => simp [h]
  next h => simp [h]

section

variable {layout : Json} {edit : List (String × Json) → List (String × Json)}

lemma editPlacements_editPlacements
    (edit' : List (String × Json) → List (String × Json)) (layout : Json) :
    editPlacements edit' (editPlacements edit layout) = editPlacements (edit' ∘ edit) layout := by
  cases layout with
  | object members =>
    simp only [editPlacements, map_map]
    congr 1
    apply map_congr_left
    intro member _
    by_cases hname : member.1 = "placements"
    · simp [Function.comp, hname, Json.members]
    · simp [Function.comp, hname]
  | _ => rfl

lemma isObject_editPlacements : (editPlacements edit layout).isObject = layout.isObject := by
  cases layout <;> rfl

lemma member?_editPlacements_of_ne {key : String} (h : key ≠ "placements") :
    (editPlacements edit layout).member? key = layout.member? key := by
  cases layout with
  | object members =>
    show List.lookup key (members.map _) = members.lookup key
    induction members with
    | nil => rfl
    | cons member rest ih =>
      obtain ⟨name, value⟩ := member
      by_cases hname : name = "placements"
      · subst hname
        simp only [map_cons, if_true, lookup_cons, beq_eq_false_iff_ne.mpr h]
        exact ih
      · simp only [map_cons, hname, if_false, lookup_cons]
        rw [ih]
  | _ => rfl

lemma member?_editPlacements : (editPlacements edit layout).member? "placements" =
      (layout.member? "placements").map fun value => .object (edit value.members) := by
  cases layout with
  | object members =>
    show List.lookup "placements" (members.map _) = (members.lookup "placements").map _
    induction members with
    | nil => rfl
    | cons member rest ih =>
      obtain ⟨name, value⟩ := member
      by_cases hname : name = "placements"
      · subst hname
        simp
      · simp only [map_cons, hname, if_false, lookup_cons, beq_eq_false_iff_ne.mpr (Ne.symm hname)]
        exact ih
  | _ => rfl

lemma placementsOf_editPlacements (hnil : edit [] = []) :
    placementsOf (editPlacements edit layout) = edit (placementsOf layout) := by
  unfold placementsOf
  rw [member?_editPlacements]
  cases layout.member? "placements" with
  | none => exact hnil.symm
  | some value => rfl

lemma placementSchemaError_of_valid (h : layoutSchemaValid layout = true)
    {member : String × Json} (hmem : member ∈ placementsOf layout) :
    placementSchemaError member.1 member.2 = none := by
  rw [layoutSchemaValid, Option.isNone_iff_eq_none, layoutSchemaError] at h
  split at h
  · cases h
  · exact findSome?_eq_none_iff.mp h member hmem

lemma layoutSchemaValid_editPlacements (h : layoutSchemaValid layout = true) (hnil : edit [] = [])
    (hmembers : ∀ member ∈ edit (placementsOf layout),
      placementSchemaError member.1 member.2 = none) :
    layoutSchemaValid (editPlacements edit layout) = true := by
  rw [layoutSchemaValid, Option.isNone_iff_eq_none] at h ⊢
  unfold layoutSchemaError at h ⊢
  rw [eq_none_of_guard] at h ⊢
  have hversion : (editPlacements edit layout).member? "version" = layout.member? "version" :=
    member?_editPlacements_of_ne (by decide)
  have hplacements : (editPlacements edit layout).has "placements" Json.isObject =
      layout.has "placements" Json.isObject := by
    have hobject : layout.has "placements" Json.isObject = true := by
      have hhead := h.1
      simp only [Bool.or_eq_true, not_or, Bool.not_eq_true', Bool.not_eq_false] at hhead
      exact hhead.2
    rw [hobject]
    unfold Json.has at hobject ⊢
    rw [member?_editPlacements]
    cases hmember : layout.member? "placements" with
    | none =>
      rw [hmember] at hobject
      cases hobject
    | some value => rfl
  refine ⟨?_, ?_⟩
  · have hhead := h.1
    rw [hplacements, isObject_editPlacements]
    simpa only [Json.has, Json.number, hversion] using hhead
  · rw [placementsOf_editPlacements hnil]
    exact findSome?_eq_none_iff.mpr hmembers

end

section

variable {layout : Json} {f : Json → Json}

lemma mapPlacements_eq_edit (f : Json → Json) (layout : Json) : mapPlacements f layout =
      editPlacements (List.map fun placement => (placement.1, f placement.2)) layout := by
  cases layout <;> rfl

lemma placementsOf_mapPlacements : placementsOf (mapPlacements f layout) =
      (placementsOf layout).map fun placement => (placement.1, f placement.2) := by
  rw [mapPlacements_eq_edit]
  exact placementsOf_editPlacements rfl

lemma mapPlacements_idem (hf : ∀ placement, f (f placement) = f placement) :
    mapPlacements f (mapPlacements f layout) = mapPlacements f layout := by
  rw [mapPlacements_eq_edit, mapPlacements_eq_edit, editPlacements_editPlacements]
  congr 1
  funext members
  rw [Function.comp_apply, map_map]
  apply map_congr_left
  intro member _
  show (member.1, f (f member.2)) = (member.1, f member.2)
  rw [hf]

section

variable (h : layoutSchemaValid layout = true)

include h

lemma layoutSchemaError_normalize :
    layoutSchemaError (mapPlacements normalizePlacement layout) = layoutSchemaError layout := by
  have hplacements : ∀ member ∈ (placementsOf layout).map fun member =>
      (member.1, normalizePlacement member.2), placementSchemaError member.1 member.2 = none := by
    intro member hmem
    obtain ⟨source, hsource, rfl⟩ := mem_map.mp hmem
    rw [placementSchemaError_normalizePlacement]
    exact placementSchemaError_of_valid h hsource
  have hnormal : layoutSchemaValid (mapPlacements normalizePlacement layout) = true := by
    rw [mapPlacements_eq_edit]
    exact layoutSchemaValid_editPlacements h rfl hplacements
  rw [layoutSchemaValid, Option.isNone_iff_eq_none] at h hnormal
  rw [h, hnormal]

lemma normalizeLayout_eq :
    normalizeLayout layout = mapPlacements normalizePlacement layout := if_pos h

lemma layoutSchemaValid_normalizeLayout : layoutSchemaValid (normalizeLayout layout) = true := by
  rw [normalizeLayout_eq h, layoutSchemaValid, layoutSchemaError_normalize h]
  exact h

lemma normalizeLayout_idem : normalizeLayout (normalizeLayout layout) = normalizeLayout layout := by
  rw [normalizeLayout_eq (layoutSchemaValid_normalizeLayout h), normalizeLayout_eq h]
  exact mapPlacements_idem fun _ => normalizePlacement_idem

lemma validateLayout_normalizeLayout (knownClients knownPhysicalIds : List String) :
    validateLayout (normalizeLayout layout) knownClients knownPhysicalIds =
      validateLayout layout knownClients knownPhysicalIds := by
  have hscan : (placementsOf (mapPlacements normalizePlacement layout)).foldlM
      (Anchors.scan knownClients knownPhysicalIds) {} =
      (placementsOf layout).foldlM (Anchors.scan knownClients knownPhysicalIds) {} := by
    rw [placementsOf_mapPlacements, foldlM_map]
    congr 1
    funext anchors member
    exact scan_normalizePlacement knownClients knownPhysicalIds anchors member.1
  unfold validateLayout
  rw [normalizeLayout_eq h, layoutSchemaError_normalize h, hscan]

end

end

/-! ## What validation collects -/

def Json.arranged (placement : Json) : Bool :=
  !(placement.flag "preserve" && !isAutomaticFallback placement)

def Json.countsPrimary (placement : Json) : Bool := placement.arranged && placement.flag "primary"

def Json.clientAnchor? (placement : Json) : Option String :=
  if placement.arranged && !isAutomaticFallback placement &&
      placement.text "anchor_kind" == "client" then some (placement.text "anchor_id")
  else none

section

variable {knownClients knownPhysicalIds : List String} {anchors next : Anchors} {client : String}
  {placement : Json}

lemma scan_cases (h : anchors.scan knownClients knownPhysicalIds (client, placement) = .ok next) :
    next.primaryCount = anchors.primaryCount + (if placement.countsPrimary then 1 else 0) ∧
      (placement.countsPrimary = true → next.primaryCount ≤ 1) ∧
      next.clientAnchors = match placement.clientAnchor? with
        | none => anchors.clientAnchors
        | some anchorId => if (anchors.clientAnchors.lookup client).isSome then
            anchors.clientAnchors else anchors.clientAnchors ++ [(client, anchorId)] := by
  unfold Anchors.scan at h
  dsimp only at h
  split at h
  · cases h
  split at h
  · next hpreserved =>
    cases h
    have harranged : placement.arranged = false := by rw [Json.arranged, hpreserved]; rfl
    simp [Json.countsPrimary, Json.clientAnchor?, harranged]
  next hpreserved =>
  have harranged : placement.arranged = true := by
    rw [Bool.not_eq_true] at hpreserved
    rw [Json.arranged, hpreserved]
    rfl
  cases hprim : placement.flag "primary" <;> rw [hprim] at h
  · simp only [Bool.false_eq_true, if_false, Bool.false_and] at h
    split at h
    · next hfallback =>
      cases h
      simp [Json.countsPrimary, Json.clientAnchor?, harranged, hprim, hfallback]
    next hfallback =>
    split at h
    · next hkind =>
      split at h
      · cases h
      split at h
      · next hknown =>
        cases h
        simp [Json.countsPrimary, Json.clientAnchor?, harranged, hprim, hfallback, hkind, hknown]
      · next hknown =>
        cases h
        simp [Json.countsPrimary, Json.clientAnchor?, harranged, hprim, hfallback, hkind, hknown]
    · next hkind =>
      split at h
      · cases h
      · cases h
        simp [Json.countsPrimary, Json.clientAnchor?, harranged, hprim, hfallback, hkind]
  · simp only [if_true, Bool.true_and] at h
    split at h
    · cases h
    next hcount =>
    have hbound : anchors.primaryCount + 1 ≤ 1 := by simpa using hcount
    split at h
    · next hfallback =>
      cases h
      simp [Json.countsPrimary, Json.clientAnchor?, harranged, hprim, hfallback]
      omega
    next hfallback =>
    split at h
    · next hkind =>
      split at h
      · cases h
      split at h
      · next hknown =>
        cases h
        simp [Json.countsPrimary, Json.clientAnchor?, harranged, hprim, hfallback, hkind, hknown]
        omega
      · next hknown =>
        cases h
        simp [Json.countsPrimary, Json.clientAnchor?, harranged, hprim, hfallback, hkind, hknown]
        omega
    · next hkind =>
      split at h
      · cases h
      · cases h
        simp [Json.countsPrimary, Json.clientAnchor?, harranged, hprim, hfallback, hkind]
        omega

variable {member : String × Json}

lemma foldlM_scan_cons {rest : List (String × Json)}
    (h : (member :: rest).foldlM (Anchors.scan knownClients knownPhysicalIds) anchors = .ok next) :
    ∃ mid, anchors.scan knownClients knownPhysicalIds member = .ok mid ∧
      rest.foldlM (Anchors.scan knownClients knownPhysicalIds) mid = .ok next := by
  rw [foldlM_cons] at h
  cases hscan : anchors.scan knownClients knownPhysicalIds member with
  | error message =>
    rw [hscan] at h
    cases h
  | ok mid =>
    rw [hscan] at h
    exact ⟨mid, rfl, h⟩

variable {members : List (String × Json)}

lemma foldlM_scan_primary
    (h : members.foldlM (Anchors.scan knownClients knownPhysicalIds) anchors = .ok next) :
    next.primaryCount =
        anchors.primaryCount + (members.filter fun member => member.2.countsPrimary).length ∧
      ((∃ member ∈ members, member.2.countsPrimary = true) → next.primaryCount ≤ 1) := by
  induction members generalizing anchors with
  | nil =>
    cases h
    exact ⟨rfl, fun ⟨_, hmem, _⟩ => by cases hmem⟩
  | cons member rest ih =>
    obtain ⟨client, placement⟩ := member
    obtain ⟨mid, hscan, hrest⟩ := foldlM_scan_cons h
    obtain ⟨hcount, hbound, -⟩ := scan_cases hscan
    obtain ⟨htotal, hlater⟩ := ih hrest
    refine ⟨?_, fun hexists => ?_⟩
    · rw [htotal, hcount, filter_cons]
      cases placement.countsPrimary
      · rfl
      · simp only [if_true, length_cons]
        omega
    · by_cases hrestPrimary : ∃ member ∈ rest, member.2.countsPrimary = true
      · exact hlater hrestPrimary
      · have hnone : (rest.filter fun member => member.2.countsPrimary) = [] := by
          rw [filter_eq_nil_iff]
          exact fun member hmem hprim => hrestPrimary ⟨member, hmem, hprim⟩
        rw [htotal, hnone]
        obtain ⟨member, hmem, hprim⟩ := hexists
        rcases mem_cons.mp hmem with rfl | hmem
        · exact hbound hprim
        · exact absurd ⟨member, hmem, hprim⟩ hrestPrimary

lemma scan_lookup_of_some {key anchorId : String}
    (h : anchors.scan knownClients knownPhysicalIds member = .ok next)
    (hlookup : anchors.clientAnchors.lookup key = some anchorId) :
    next.clientAnchors.lookup key = some anchorId := by
  obtain ⟨client, placement⟩ := member
  obtain ⟨-, -, hanchors⟩ := scan_cases h
  rw [hanchors]
  split
  · exact hlookup
  · split
    · exact hlookup
    · rw [lookup_append, hlookup]
      rfl

lemma foldlM_scan_lookup_of_some {key anchorId : String}
    (h : members.foldlM (Anchors.scan knownClients knownPhysicalIds) anchors = .ok next)
    (hlookup : anchors.clientAnchors.lookup key = some anchorId) :
    next.clientAnchors.lookup key = some anchorId := by
  induction members generalizing anchors with
  | nil =>
    cases h
    exact hlookup
  | cons member rest ih =>
    obtain ⟨mid, hscan, hrest⟩ := foldlM_scan_cons h
    exact ih hrest (scan_lookup_of_some hscan hlookup)

lemma foldlM_scan_anchor {uuid anchorId : String}
    (h : members.foldlM (Anchors.scan knownClients knownPhysicalIds) anchors = .ok next)
    (hfresh : anchors.clientAnchors.lookup uuid = none)
    (hlookup : members.lookup uuid = some placement)
    (hanchor : placement.clientAnchor? = some anchorId) :
    next.clientAnchors.lookup uuid = some anchorId := by
  induction members generalizing anchors with
  | nil => cases hlookup
  | cons member rest ih =>
    obtain ⟨client, first⟩ := member
    obtain ⟨mid, hscan, hrest⟩ := foldlM_scan_cons h
    obtain ⟨-, -, hanchors⟩ := scan_cases hscan
    rw [lookup_cons] at hlookup
    by_cases hclient : uuid = client
    · subst hclient
      simp only [beq_self_eq_true, Option.some.injEq] at hlookup
      subst hlookup
      apply foldlM_scan_lookup_of_some hrest
      rw [hanchors, hanchor]
      simp [hfresh, lookup_append]
    · have hkey : (uuid == client) = false := beq_eq_false_iff_ne.mpr hclient
      rw [hkey] at hlookup
      refine ih hrest ?_ hlookup
      rw [hanchors]
      split
      · exact hfresh
      · split
        · exact hfresh
        · rw [lookup_append, hfresh, Option.none_or, lookup_cons, hkey]
          rfl

/-! ## Ranks -/

def Ends (clientAnchors : List (String × String)) : Nat → String → Prop
  | 0, _ => False
  | steps + 1, current =>
    match clientAnchors.lookup current with
    | none => True
    | some anchorId => Ends clientAnchors steps anchorId

variable {clientAnchors : List (String × String)}

lemma ends_of_not_cycle {fuel : Nat} {visited : List String} {current : String}
    (h : anchorCycle clientAnchors fuel visited current = false) :
    Ends clientAnchors fuel current := by
  induction fuel generalizing visited current with
  | zero => cases h
  | succ fuel ih =>
    unfold anchorCycle at h
    unfold Ends
    cases hlookup : clientAnchors.lookup current with
    | none => trivial
    | some anchorId =>
      rw [hlookup] at h
      dsimp only at h ⊢
      split at h
      · cases h
      · exact ih h

lemma exists_rank {fuel : Nat}
    (h : ∀ anchor ∈ clientAnchors, anchorCycle clientAnchors fuel [] anchor.1 = false) :
    ∃ rank : String → Nat, ∀ key anchorId, clientAnchors.lookup key = some anchorId →
      rank anchorId < rank key := by
  classical
  have hends : ∀ key, ∃ steps, Ends clientAnchors steps key := by
    intro key
    cases hlookup : clientAnchors.lookup key with
    | none => exact ⟨1, by unfold Ends; rw [hlookup]; trivial⟩
    | some anchorId =>
      obtain ⟨before, after, hsplit, -⟩ := lookup_eq_some_iff.mp hlookup
      have hmem : (key, anchorId) ∈ clientAnchors := by
        rw [hsplit]
        exact mem_append_right _ mem_cons_self
      exact ⟨fuel, ends_of_not_cycle (h _ hmem)⟩
  refine ⟨fun key => Nat.find (hends key), fun key anchorId hlookup => ?_⟩
  show Nat.find (hends anchorId) < Nat.find (hends key)
  have hleast := Nat.find_spec (hends key)
  cases hsteps : Nat.find (hends key) with
  | zero =>
    rw [hsteps] at hleast
    exact hleast.elim
  | succ steps =>
    rw [hsteps] at hleast
    unfold Ends at hleast
    rw [hlookup] at hleast
    exact Nat.lt_succ_of_le (Nat.find_min' (hends anchorId) hleast)

lemma validateLayout_accepts {layout : Json}
    (h : validateLayout layout knownClients knownPhysicalIds = .ok ()) :
    layoutSchemaValid layout = true ∧
      ((placementsOf layout).filter fun member => member.2.countsPrimary).length ≤ 1 ∧
      ∃ rank : String → Nat, ∀ uuid placement anchorId,
        (placementsOf layout).lookup uuid = some placement →
          placement.clientAnchor? = some anchorId → rank anchorId < rank uuid := by
  unfold validateLayout at h
  cases hschema : layoutSchemaError layout with
  | some message =>
    rw [hschema] at h
    cases h
  | none =>
    rw [hschema] at h
    cases hscan : (placementsOf layout).foldlM (Anchors.scan knownClients knownPhysicalIds) {} with
    | error message =>
      rw [hscan] at h
      cases h
    | ok anchors =>
      rw [hscan] at h
      simp only [bind, Except.bind] at h
      split at h
      · cases h
      next hcycle =>
      refine ⟨by rw [layoutSchemaValid, hschema]; rfl, ?_, ?_⟩
      · obtain ⟨htotal, hbound⟩ := foldlM_scan_primary hscan
        by_cases hexists : ∃ member ∈ placementsOf layout, member.2.countsPrimary = true
        · have := hbound hexists
          rw [htotal] at this
          omega
        · have hnone : ((placementsOf layout).filter fun member =>
              member.2.countsPrimary) = [] := by
            rw [filter_eq_nil_iff]
            exact fun member hmem hprim => hexists ⟨member, hmem, hprim⟩
          rw [hnone]
          exact zero_le
      · have hacyclic : ∀ anchor ∈ anchors.clientAnchors, anchorCycle anchors.clientAnchors
            (anchors.clientAnchors.length + 1) [] anchor.1 = false := by
          intro anchor hmem
          rw [any_eq_true] at hcycle
          exact Bool.eq_false_iff.mpr fun hfound => hcycle ⟨anchor, hmem, hfound⟩
        obtain ⟨rank, hrank⟩ := exists_rank hacyclic
        exact ⟨rank, fun uuid placement anchorId hlookup hanchor =>
          hrank uuid anchorId (foldlM_scan_anchor hscan rfl hlookup hanchor)⟩

end

end Vibeshine.RemoteDisplay
