import Vibeshine.RemoteDisplay.Acceptance

/-! # Layouts without an unpaired client

`remove_client_from_layout` drops the placement of a client that is unpaired, and lets the
placements that were anchored to it fall back to automatic positions. What validation
accepted, it accepts without the client.
-/

namespace Vibeshine.RemoteDisplay

open List

/-! ## Assignments to members -/

def assignMember (key : String) (value : Json) : List (String × Json) → List (String × Json)
  | [] => [(key, value)]
  | (name, former) :: rest =>
    if name = key then (key, value) :: rest
    else if key < name then (key, value) :: (name, former) :: rest
    else (name, former) :: assignMember key value rest

/-- `json[key] = value` on an object. -/
def Json.assign (json : Json) (key : String) (value : Json) : Json :=
  match json with
  | .object members => .object (assignMember key value members)
  | other => other

section

variable {json : Json} {key : String} {value : Json}

lemma lookup_assignMember (members : List (String × Json)) :
    (assignMember key value members).lookup key = some value := by
  induction members with
  | nil => simp [assignMember]
  | cons member rest ih =>
    obtain ⟨name, former⟩ := member
    unfold assignMember
    split
    · simp
    next hname =>
      split
      · simp
      · rw [lookup_cons, beq_eq_false_iff_ne.mpr (Ne.symm hname)]
        exact ih

variable {other : String}

lemma lookup_assignMember_of_ne (h : other ≠ key) (members : List (String × Json)) :
    (assignMember key value members).lookup other = members.lookup other := by
  induction members with
  | nil => simp [assignMember, lookup_cons, beq_eq_false_iff_ne.mpr h]
  | cons member rest ih =>
    obtain ⟨name, former⟩ := member
    unfold assignMember
    split
    next hname =>
      subst hname
      rw [lookup_cons, lookup_cons, beq_eq_false_iff_ne.mpr h]
    next hname =>
      split
      · rw [lookup_cons, beq_eq_false_iff_ne.mpr h]
      · rw [lookup_cons, lookup_cons, ih]

lemma isObject_assign : (json.assign key value).isObject = json.isObject := by
  cases json <;> rfl

lemma member?_assign (h : json.isObject = true) :
    (json.assign key value).member? key = some value := by
  cases json with
  | object members => exact lookup_assignMember members
  | _ => cases h

lemma member?_assign_of_ne (h : other ≠ key) :
    (json.assign key value).member? other = json.member? other := by
  cases json with
  | object members => exact lookup_assignMember_of_ne h members
  | _ => rfl

lemma flag_assign_of_ne (h : other ≠ key) :
    (json.assign key value).flag other = json.flag other := by
  rw [Json.flag, member?_assign_of_ne h, Json.flag]

end

def referencesClient (clientUuid : String) (placement : Json) : Bool :=
  placement.text "anchor_kind" == "client" && placement.text "anchor_id" == clientUuid

/-- The former anchor cannot return: the placement falls back to an automatic position.
Older versions accept that as a manual placement. -/
def detachPlacement (clientUuid : String) (placement : Json) : Json :=
  if referencesClient clientUuid placement then
    let detached := (placement.assign "anchor_kind" (.string "physical")).assign "anchor_id"
      (.string "")
    if !detached.flag "preserve" then
      (detached.assign "preserve" (.bool true)).assign "automatic_fallback" (.bool true)
    else detached
  else placement

/-- The loop of `remove_client_from_layout` over the placements. -/
def detachAll (clientUuid : String) (members : List (String × Json)) : List (String × Json) :=
  (members.filter fun member => member.1 != clientUuid).map fun member =>
    (member.1, detachPlacement clientUuid member.2)

def removeClientFromLayout (layout : Json) (clientUuid : String) : Json :=
  editPlacements (detachAll clientUuid) (normalizeLayout layout)

/-! ## What validation accepts -/

def AnchorKnown (knownClients knownPhysicalIds : List String) (client : String)
    (placement : Json) : Prop :=
  placement.arranged = true → isAutomaticFallback placement = false →
    if placement.text "anchor_kind" = "client" then
      placement.text "anchor_id" ∈ knownClients ∧ placement.text "anchor_id" ≠ client
    else placement.text "anchor_id" ∈ knownPhysicalIds

/-- What `validate_layout` accepts. -/
structure Accepted (layout : Json) (knownClients knownPhysicalIds : List String) : Prop where
  schema : layoutSchemaValid layout = true
  known : ∀ member ∈ placementsOf layout, member.1 ∈ knownClients
  anchors : ∀ member ∈ placementsOf layout,
    AnchorKnown knownClients knownPhysicalIds member.1 member.2
  primary : ((placementsOf layout).filter fun member => member.2.countsPrimary).length ≤ 1
  ranked : ∃ rank : String → Nat, ∀ member ∈ placementsOf layout, ∀ anchorId,
    member.2.clientAnchor? = some anchorId → rank anchorId < rank member.1

section

variable {knownClients knownPhysicalIds : List String} {anchors next : Anchors} {client : String}
  {placement : Json} {layout : Json}

lemma isObject_of_schema (h : placementSchemaError client placement = none) :
    placement.isObject = true := by
  unfold placementSchemaError at h
  split at h
  · cases h
  next hhead =>
    simp only [Bool.or_eq_true, not_or, Bool.not_eq_true', Bool.not_eq_false] at hhead
    exact hhead.1.1.1.1.1.2

lemma exists_ok_of_guard {α : Type} {cond : Prop} [Decidable cond] {message : String}
    {result : Except String α} : (∃ next, (if cond then .error message else result) = .ok next) ↔
      ¬cond ∧ ∃ next, result = .ok next := by
  split
  next h => simp [h]
  next h => simp [h]

lemma exists_ok_of_branch {α : Type} {cond : Prop} [Decidable cond]
    {left right : Except String α} : (∃ next, (if cond then left else right) = .ok next) ↔
      (cond → ∃ next, left = .ok next) ∧ (¬cond → ∃ next, right = .ok next) := by
  split
  next h => simp [h]
  next h => simp [h]

lemma scan_ok_iff (hobject : placement.isObject = true) :
    (∃ next, anchors.scan knownClients knownPhysicalIds (client, placement) = .ok next) ↔
      client ∈ knownClients ∧ AnchorKnown knownClients knownPhysicalIds client placement ∧
        (placement.countsPrimary = true → anchors.primaryCount = 0) := by
  unfold Anchors.scan AnchorKnown Json.countsPrimary Json.arranged
  dsimp only
  rw [exists_ok_of_guard, exists_ok_of_branch, exists_ok_of_guard, exists_ok_of_branch,
    exists_ok_of_branch, exists_ok_of_guard, exists_ok_of_guard, exists_ok_of_branch]
  cases placement.flag "preserve" <;> cases isAutomaticFallback placement <;>
    cases placement.flag "primary" <;>
      by_cases hkind : placement.text "anchor_kind" = "client" <;>
        simp [hobject, hkind] <;> tauto

variable {members : List (String × Json)}

lemma foldlM_scan_ok_iff (hobject : ∀ member ∈ members, member.2.isObject = true) :
    (∃ next, members.foldlM (Anchors.scan knownClients knownPhysicalIds) anchors = .ok next) ↔
      (∀ member ∈ members, member.1 ∈ knownClients ∧
        AnchorKnown knownClients knownPhysicalIds member.1 member.2) ∧
      ((members.filter fun member => member.2.countsPrimary) = [] ∨ anchors.primaryCount +
          (members.filter fun member => member.2.countsPrimary).length ≤ 1) := by
  induction members generalizing anchors with
  | nil => simp [pure, Except.pure]
  | cons member rest ih =>
    obtain ⟨client, placement⟩ := member
    have hfirst := hobject (client, placement) mem_cons_self
    have hiff : (∃ next,
        anchors.scan knownClients knownPhysicalIds (client, placement) = .ok next) ↔ _ :=
      scan_ok_iff hfirst
    constructor
    · rintro ⟨next, hnext⟩
      obtain ⟨mid, hscan, hrest⟩ := foldlM_scan_cons hnext
      obtain ⟨hknown, hanchor, hprim⟩ := hiff.mp ⟨mid, hscan⟩
      obtain ⟨hcount, -, -⟩ := scan_cases hscan
      obtain ⟨hall, hbound⟩ :=
        (ih fun member hmem => hobject member (mem_cons_of_mem _ hmem)).mp ⟨next, hrest⟩
      refine ⟨fun member hmem => ?_, ?_⟩
      · obtain rfl | hmem := mem_cons.mp hmem
        · exact ⟨hknown, hanchor⟩
        · exact hall member hmem
      · rw [filter_cons]
        cases hcounts : placement.countsPrimary with
        | false =>
          rw [hcounts] at hcount
          simpa [hcount] using hbound
        | true =>
          have hzero := hprim hcounts
          rw [hcounts, hzero] at hcount
          right
          obtain hnone | hbound := hbound
          · simp [hzero, hnone]
          · simp only [if_true, zero_add] at hcount
            simp only [if_true, length_cons, hzero]
            omega
    · rintro ⟨hall, hbound⟩
      obtain ⟨hknown, hanchor⟩ := hall (client, placement) mem_cons_self
      obtain ⟨mid, hscan⟩ := hiff.mpr ⟨hknown, hanchor, fun hcounts => by
        rw [filter_cons, if_pos (by simpa using hcounts)] at hbound
        obtain hnone | hbound := hbound
        · cases hnone
        · rw [length_cons] at hbound
          omega⟩
      obtain ⟨hcount, -, -⟩ := scan_cases hscan
      rw [foldlM_cons, hscan]
      refine (ih fun member hmem => hobject member (mem_cons_of_mem _ hmem)).mpr
        ⟨fun member hmem => hall member (mem_cons_of_mem _ hmem), ?_⟩
      rw [filter_cons] at hbound
      cases hcounts : placement.countsPrimary with
      | false =>
        rw [hcounts] at hcount hbound
        simpa [hcount] using hbound
      | true =>
        rw [hcounts] at hcount hbound
        obtain hnone | hbound := hbound
        · cases hnone
        · right
          simp only [if_true, length_cons] at hbound hcount
          omega

lemma foldlM_scan_source {key anchorId : String}
    (h : members.foldlM (Anchors.scan knownClients knownPhysicalIds) anchors = .ok next)
    (hlookup : next.clientAnchors.lookup key = some anchorId) :
    anchors.clientAnchors.lookup key = some anchorId ∨
      ∃ member ∈ members, member.1 = key ∧ member.2.clientAnchor? = some anchorId := by
  induction members generalizing anchors with
  | nil =>
    cases h
    exact .inl hlookup
  | cons member rest ih =>
    obtain ⟨client, placement⟩ := member
    obtain ⟨mid, hscan, hrest⟩ := foldlM_scan_cons h
    obtain ⟨-, -, hanchors⟩ := scan_cases hscan
    obtain hmid | ⟨member, hmem, hsource⟩ := ih hrest
    · rw [hanchors] at hmid
      cases hanchor : placement.clientAnchor? with
      | none =>
        rw [hanchor] at hmid
        exact .inl hmid
      | some own =>
        rw [hanchor] at hmid
        dsimp only at hmid
        split at hmid
        · exact .inl hmid
        · rw [lookup_append, Option.or_eq_some_iff] at hmid
          obtain hformer | ⟨-, hadded⟩ := hmid
          · exact .inl hformer
          · rw [lookup_cons] at hadded
            split at hadded
            next hkey =>
              cases hadded
              exact .inr ⟨_, mem_cons_self, (beq_iff_eq.mp hkey).symm, hanchor⟩
            · cases hadded
    · exact .inr ⟨member, mem_cons_of_mem _ hmem, hsource⟩

lemma anchorCycle_of_rank {clientAnchors : List (String × String)} {rank : String → Nat}
    (hrank : ∀ key anchorId, clientAnchors.lookup key = some anchorId →
      rank anchorId < rank key) {fuel : Nat} {visited : List String} {current : String}
    (hnodup : visited.Nodup) (hknown : ∀ uuid ∈ visited, uuid ∈ clientAnchors.map (·.1))
    (hbefore : ∀ uuid ∈ visited, rank current < rank uuid)
    (hfuel : clientAnchors.length < visited.length + fuel) :
    anchorCycle clientAnchors fuel visited current = false := by
  induction fuel generalizing visited current with
  | zero =>
    have hlength := (subperm_of_subset hnodup hknown).length_le
    rw [length_map] at hlength
    omega
  | succ fuel ih =>
    unfold anchorCycle
    cases hlookup : clientAnchors.lookup current with
    | none => rfl
    | some anchorId =>
      have hfresh : current ∉ visited := fun hmem => lt_irrefl _ (hbefore current hmem)
      have hsmaller := hrank current anchorId hlookup
      dsimp only
      rw [if_neg (by simpa using hfresh)]
      refine ih (nodup_cons.mpr ⟨hfresh, hnodup⟩) (fun uuid hmem => ?_)
        (fun uuid hmem => ?_) (by rw [length_cons]; omega)
      · obtain rfl | hmem := mem_cons.mp hmem
        · obtain ⟨before, after, hsplit, -⟩ := lookup_eq_some_iff.mp hlookup
          rw [hsplit]
          simp
        · exact hknown uuid hmem
      · obtain rfl | hmem := mem_cons.mp hmem
        · exact hsmaller
        · exact lt_trans hsmaller (hbefore uuid hmem)

lemma validateLayout_ok_iff : validateLayout layout knownClients knownPhysicalIds = .ok () ↔
      layoutSchemaError layout = none ∧ ∃ anchors,
        (placementsOf layout).foldlM (Anchors.scan knownClients knownPhysicalIds) {} = .ok anchors ∧
        (anchors.clientAnchors.any fun anchor =>
          anchorCycle anchors.clientAnchors (anchors.clientAnchors.length + 1) [] anchor.1) =
            false := by
  unfold validateLayout
  cases hschema : layoutSchemaError layout with
  | some message => simp [bind, Except.bind, throw, throwThe, MonadExceptOf.throw]
  | none =>
    cases hscan : (placementsOf layout).foldlM (Anchors.scan knownClients knownPhysicalIds) {} with
    | error message => simp [bind, Except.bind]
    | ok anchors =>
      simp only [bind, Except.bind, Except.ok.injEq, exists_eq_left', true_and]
      generalize (anchors.clientAnchors.any fun anchor =>
        anchorCycle anchors.clientAnchors (anchors.clientAnchors.length + 1) [] anchor.1) = cycle
      cases cycle with
      | true => simp [throw, throwThe, MonadExceptOf.throw]
      | false => simp [pure, Except.pure]

lemma mem_lookup_of_nodup
    (hdistinct : (members.map (·.1)).Nodup) {member : String × Json} (hmem : member ∈ members) :
    members.lookup member.1 = some member.2 := by
  induction members with
  | nil => cases hmem
  | cons first rest ih =>
    rw [map_cons, nodup_cons] at hdistinct
    rw [lookup_cons]
    obtain rfl | hmem := mem_cons.mp hmem
    · simp
    · have hne : member.1 ≠ first.1 := fun heq =>
        hdistinct.1 (heq ▸ mem_map_of_mem hmem)
      rw [beq_eq_false_iff_ne.mpr hne]
      exact ih hdistinct.2 hmem

lemma validateLayout_iff (hdistinct : ((placementsOf layout).map (·.1)).Nodup) :
    validateLayout layout knownClients knownPhysicalIds = .ok () ↔
      Accepted layout knownClients knownPhysicalIds := by
  constructor
  · intro h
    obtain ⟨hvalid, hprim, rank, hrank⟩ := validateLayout_accepts h
    obtain ⟨-, anchors, hscan, -⟩ := validateLayout_ok_iff.mp h
    obtain ⟨hall, -⟩ := (foldlM_scan_ok_iff fun member hmem =>
      isObject_of_schema (placementSchemaError_of_valid hvalid hmem)).mp ⟨anchors, hscan⟩
    exact
      { schema := hvalid
        known := fun member hmem => (hall member hmem).1
        anchors := fun member hmem => (hall member hmem).2
        primary := hprim
        ranked := ⟨rank, fun member hmem anchorId hanchor =>
          hrank member.1 member.2 anchorId (mem_lookup_of_nodup hdistinct hmem) hanchor⟩ }
  · intro h
    obtain ⟨rank, hrank⟩ := h.ranked
    obtain ⟨anchors, hscan⟩ : ∃ anchors, (placementsOf layout).foldlM
        (Anchors.scan knownClients knownPhysicalIds) {} = .ok anchors :=
      (foldlM_scan_ok_iff fun member hmem =>
        isObject_of_schema (placementSchemaError_of_valid h.schema hmem)).mpr
          ⟨fun member hmem => ⟨h.known member hmem, h.anchors member hmem⟩,
            .inr (by simpa using h.primary)⟩
    have hschema := h.schema
    rw [layoutSchemaValid, Option.isNone_iff_eq_none] at hschema
    refine validateLayout_ok_iff.mpr ⟨hschema, anchors, hscan, ?_⟩
    rw [any_eq_false]
    intro anchor _
    rw [Bool.not_eq_true]
    have hanchors : ∀ key anchorId, anchors.clientAnchors.lookup key = some anchorId →
        rank anchorId < rank key := by
      intro key anchorId hlookup
      obtain hnone | ⟨member, hmem, rfl, hanchor⟩ := foldlM_scan_source hscan hlookup
      · cases hnone
      · exact hrank member hmem anchorId hanchor
    exact anchorCycle_of_rank hanchors .nil (by simp) (by simp) (by simp)

end

/-! ## Detached placements -/

section

variable {clientUuid client : String} {placement : Json}

lemma isObject_of_references (h : referencesClient clientUuid placement = true) :
    placement.isObject = true := by
  cases placement with
  | object members => rfl
  | _ => cases h

lemma detachPlacement_eq (h : referencesClient clientUuid placement = false) :
    detachPlacement clientUuid placement = placement := by
  rw [detachPlacement, h]
  rfl

lemma isObject_detachPlacement :
    (detachPlacement clientUuid placement).isObject = placement.isObject := by
  unfold detachPlacement
  split
  · dsimp only
    split <;> simp only [isObject_assign]
  · rfl

lemma member?_detachPlacement {key : String} (hkind : key ≠ "anchor_kind")
    (hid : key ≠ "anchor_id") (hpreserve : key ≠ "preserve")
    (hfallback : key ≠ "automatic_fallback") :
    (detachPlacement clientUuid placement).member? key = placement.member? key := by
  unfold detachPlacement
  split
  · dsimp only
    split
    · rw [member?_assign_of_ne hfallback, member?_assign_of_ne hpreserve,
        member?_assign_of_ne hid, member?_assign_of_ne hkind]
    · rw [member?_assign_of_ne hid, member?_assign_of_ne hkind]
  · rfl

lemma detachPlacement_fields (h : referencesClient clientUuid placement = true)
    (hobject : placement.isObject = true) :
    (detachPlacement clientUuid placement).member? "anchor_kind" = some (.string "physical") ∧
    (detachPlacement clientUuid placement).member? "anchor_id" = some (.string "") ∧
    (placement.flag "preserve" = true →
      (detachPlacement clientUuid placement).member? "preserve" = placement.member? "preserve" ∧
      (detachPlacement clientUuid placement).member? "automatic_fallback" =
        placement.member? "automatic_fallback") ∧ (placement.flag "preserve" = false →
      (detachPlacement clientUuid placement).member? "preserve" = some (.bool true) ∧
      (detachPlacement clientUuid placement).member? "automatic_fallback" = some (.bool true)) := by
  rw [detachPlacement, if_pos h]
  dsimp only
  rw [flag_assign_of_ne (by decide), flag_assign_of_ne (by decide)]
  cases hpreserve : placement.flag "preserve" with
  | true =>
    rw [Bool.not_true, if_neg (by decide)]
    refine ⟨?_, ?_, fun _ => ⟨?_, ?_⟩, nofun⟩
    · rw [member?_assign_of_ne (by decide), member?_assign hobject]
    · rw [member?_assign (by rw [isObject_assign, hobject])]
    · rw [member?_assign_of_ne (by decide), member?_assign_of_ne (by decide)]
    · rw [member?_assign_of_ne (by decide), member?_assign_of_ne (by decide)]
  | false =>
    rw [Bool.not_false, if_pos rfl]
    refine ⟨?_, ?_, nofun, fun _ => ⟨?_, ?_⟩⟩
    · rw [member?_assign_of_ne (by decide), member?_assign_of_ne (by decide),
        member?_assign_of_ne (by decide), member?_assign hobject]
    · rw [member?_assign_of_ne (by decide), member?_assign_of_ne (by decide),
        member?_assign (by rw [isObject_assign, hobject])]
    · rw [member?_assign_of_ne (by decide), member?_assign (by simp only [isObject_assign, hobject])]
    · rw [member?_assign (by simp only [isObject_assign, hobject])]

lemma detachPlacement_flags (h : referencesClient clientUuid placement = true)
    (hobject : placement.isObject = true) :
    (detachPlacement clientUuid placement).text "anchor_kind" = "physical" ∧
    (detachPlacement clientUuid placement).text "anchor_id" = "" ∧
    (detachPlacement clientUuid placement).flag "preserve" = true ∧
    (detachPlacement clientUuid placement).flag "automatic_fallback" =
      (!placement.flag "preserve" || placement.flag "automatic_fallback") := by
  obtain ⟨hkind, hid, hkept, hset⟩ := detachPlacement_fields h hobject
  refine ⟨by rw [Json.text, hkind], by rw [Json.text, hid], ?_, ?_⟩
  · cases hpreserve : placement.flag "preserve" with
    | true => rw [Json.flag, (hkept hpreserve).1, ← Json.flag, hpreserve]
    | false => rw [Json.flag, (hset hpreserve).1]
  · cases hpreserve : placement.flag "preserve" with
    | true =>
      rw [Json.flag, (hkept hpreserve).2, ← Json.flag]
      rfl
    | false =>
      rw [Json.flag, (hset hpreserve).2]
      rfl

lemma flag_primary_detachPlacement :
    (detachPlacement clientUuid placement).flag "primary" = placement.flag "primary" := by
  rw [Json.flag, member?_detachPlacement (by decide) (by decide) (by decide) (by decide), Json.flag]

lemma not_references_detachPlacement (other : String)
    (h : referencesClient clientUuid placement = true) (hobject : placement.isObject = true) :
    referencesClient other (detachPlacement clientUuid placement) = false := by
  rw [referencesClient, (detachPlacement_flags h hobject).1]
  rfl

lemma placementSchemaError_eq_none : placementSchemaError client placement = none ↔
      (client.isEmpty = false ∧ placement.isObject = true ∧
        placement.has "edge" Json.isString = true ∧ placement.has "alignment" Json.isString = true ∧
        placement.has "gap_px" Json.isNumberInteger = true ∧
        placement.admitsBoolean "primary" = true ∧
        ["left", "right", "above", "below"].contains (placement.text "edge") = true ∧
        ["start", "center", "end"].contains (placement.text "alignment") = true ∧
        0 ≤ placement.number "gap_px" ∧ placement.number "gap_px" ≤ maxGapPx) ∧
      placement.has "anchor_kind" Json.isString = true ∧
      placement.has "anchor_id" Json.isString = true ∧ placement.admitsBoolean "preserve" = true ∧
      placement.admitsBoolean "automatic_fallback" = true ∧
      ["physical", "client"].contains (placement.text "anchor_kind") = true ∧
      (placement.flag "preserve" = true ∨ (placement.text "anchor_id").isEmpty = false) := by
  unfold placementSchemaError
  rw [eq_none_of_guard, eq_none_of_guard, eq_none_of_guard, eq_none_of_guard, eq_none_of_guard]
  simp only [Bool.or_eq_true, Bool.and_eq_true, not_or, Bool.not_eq_true', Bool.not_eq_false,
    decide_eq_true_eq, not_lt, not_and, Bool.not_eq_true]
  constructor
  · rintro ⟨⟨⟨⟨⟨⟨⟨hclient, hobject⟩, hkind⟩, hid⟩, hedge⟩, halignment⟩, hgap⟩, hprim, hpreserve,
      hfallback, ⟨⟨⟨⟨⟨hkinds, hanchored⟩, hedges⟩, halignments⟩, hlow⟩, hhigh⟩, -⟩
    refine ⟨⟨hclient, hobject, hedge, halignment, hgap, hprim, hedges, halignments, hlow, hhigh⟩,
      hkind, hid, hpreserve, hfallback, hkinds, ?_⟩
    cases hflag : placement.flag "preserve" with
    | true => exact .inl rfl
    | false => exact .inr (hanchored hflag)
  · rintro ⟨⟨hclient, hobject, hedge, halignment, hgap, hprim, hedges, halignments, hlow, hhigh⟩,
      hkind, hid, hpreserve, hfallback, hkinds, hanchored⟩
    refine ⟨⟨⟨⟨⟨⟨⟨hclient, hobject⟩, hkind⟩, hid⟩, hedge⟩, halignment⟩, hgap⟩, hprim, hpreserve,
      hfallback, ⟨⟨⟨⟨⟨hkinds, fun hflag => ?_⟩, hedges⟩, halignments⟩, hlow⟩, hhigh⟩, trivial⟩
    obtain hset | hnamed := hanchored
    · rw [hflag] at hset
      cases hset
    · exact hnamed

lemma placementSchemaError_detachPlacement (hvalid : placementSchemaError client placement = none) :
    placementSchemaError client (detachPlacement clientUuid placement) = none := by
  cases h : referencesClient clientUuid placement with
  | false => rw [detachPlacement_eq h, hvalid]
  | true =>
    have hobject := isObject_of_schema hvalid
    obtain ⟨hkind, hid, hkept, hset⟩ := detachPlacement_fields h hobject
    obtain ⟨hkindText, -, hpreserve, -⟩ := detachPlacement_flags h hobject
    obtain ⟨hrest, -, -, hadmits, hadmits', -⟩ := placementSchemaError_eq_none.mp hvalid
    have hsame : ∀ key, key ≠ "anchor_kind" → key ≠ "anchor_id" → key ≠ "preserve" →
        key ≠ "automatic_fallback" →
        (detachPlacement clientUuid placement).member? key = placement.member? key :=
      fun key => member?_detachPlacement
    refine placementSchemaError_eq_none.mpr ⟨?_, ?_, ?_, ?_, ?_, ?_, .inl hpreserve⟩
    · simpa only [Json.has, Json.admitsBoolean, Json.text, Json.number, isObject_detachPlacement,
        hsame "edge" (by decide) (by decide) (by decide) (by decide),
        hsame "alignment" (by decide) (by decide) (by decide) (by decide),
        hsame "gap_px" (by decide) (by decide) (by decide) (by decide),
        hsame "primary" (by decide) (by decide) (by decide) (by decide)] using hrest
    · rw [Json.has, hkind]
      rfl
    · rw [Json.has, hid]
      rfl
    · cases hflag : placement.flag "preserve" with
      | true => rw [Json.admitsBoolean, (hkept hflag).1, ← Json.admitsBoolean, hadmits]
      | false =>
        rw [Json.admitsBoolean, (hset hflag).1]
        rfl
    · cases hflag : placement.flag "preserve" with
      | true => rw [Json.admitsBoolean, (hkept hflag).2, ← Json.admitsBoolean, hadmits']
      | false =>
        rw [Json.admitsBoolean, (hset hflag).2]
        rfl
    · rw [hkindText]
      rfl

/-! ### A placement of an accepted layout -/

lemma detachPlacement_normalized (h : referencesClient clientUuid placement = true)
    (hobject : placement.isObject = true)
    (hmarker : placement.flag "automatic_fallback" = isAutomaticFallback placement) :
    isAutomaticFallback (detachPlacement clientUuid placement) = !placement.flag "preserve" ∧
      (detachPlacement clientUuid placement).arranged = placement.arranged := by
  obtain ⟨hkind, hid, hpreserve, hfallback⟩ := detachPlacement_flags h hobject
  have hnone : isAutomaticFallback placement = false := by
    rw [referencesClient, Bool.and_eq_true, beq_iff_eq] at h
    rw [isAutomaticFallback, h.1]
    simp
  rw [hnone] at hmarker
  have hautomatic : isAutomaticFallback (detachPlacement clientUuid placement) =
      !placement.flag "preserve" := by
    rw [isAutomaticFallback, hkind, hid, hpreserve, hfallback, hmarker]
    simp
  refine ⟨hautomatic, ?_⟩
  rw [Json.arranged, Json.arranged, hautomatic, hpreserve, hnone]
  cases placement.flag "preserve" <;> rfl

lemma normalizePlacement_detachPlacement
    (hmarker : placement.flag "automatic_fallback" = isAutomaticFallback placement) :
    normalizePlacement (detachPlacement clientUuid placement) =
      detachPlacement clientUuid placement := by
  have hfresh : (detachPlacement clientUuid placement).flag "automatic_fallback" =
      isAutomaticFallback (detachPlacement clientUuid placement) := by
    cases h : referencesClient clientUuid placement with
    | false => rw [detachPlacement_eq h, hmarker]
    | true =>
      have hobject := isObject_of_references h
      have hnone : isAutomaticFallback placement = false := by
        rw [referencesClient, Bool.and_eq_true, beq_iff_eq] at h
        rw [isAutomaticFallback, h.1]
        simp
      rw [(detachPlacement_flags h hobject).2.2.2, (detachPlacement_normalized h hobject hmarker).1,
        hmarker, hnone, Bool.or_false]
  rw [normalizePlacement, hfresh, Bool.and_not_self]
  rfl

end

/-! ## Removed clients -/

section

variable {layout : Json} {clientUuid : String} {members : List (String × Json)}

lemma lookup_map_value (f : Json → Json) (key : String) :
    (members.map fun member => (member.1, f member.2)).lookup key = (members.lookup key).map f := by
  induction members with
  | nil => rfl
  | cons member rest ih =>
    obtain ⟨name, value⟩ := member
    rw [map_cons, lookup_cons, lookup_cons]
    dsimp only
    cases key == name with
    | true => rfl
    | false => exact ih

lemma lookup_detachAll {client : String} (h : client ≠ clientUuid) :
    (detachAll clientUuid members).lookup client =
      (members.lookup client).map (detachPlacement clientUuid) := by
  rw [detachAll, lookup_map_value, lookup_filter_of_ne h]

lemma mem_detachAll {member : String × Json} :
    member ∈ detachAll clientUuid members ↔ ∃ former ∈ members, former.1 ≠ clientUuid ∧
      (former.1, detachPlacement clientUuid former.2) = member := by
  simp [detachAll, and_assoc]

lemma keys_detachAll : (detachAll clientUuid members).map (·.1) =
      (members.map (·.1)).filter (· != clientUuid) := by
  rw [detachAll, map_map, filter_map]
  rfl

variable {placement : Json}

lemma detachPlacement_idem : detachPlacement clientUuid (detachPlacement clientUuid placement) =
      detachPlacement clientUuid placement := by
  cases h : referencesClient clientUuid placement with
  | false => rw [detachPlacement_eq h, detachPlacement_eq h]
  | true =>
    exact detachPlacement_eq
      (not_references_detachPlacement clientUuid h (isObject_of_references h))

lemma detachAll_idem :
    detachAll clientUuid (detachAll clientUuid members) = detachAll clientUuid members := by
  unfold detachAll
  rw [filter_map, filter_filter, map_map]
  simp [Function.comp_def, detachPlacement_idem]

lemma map_normalize_detachAll : (detachAll clientUuid (members.map fun member =>
      (member.1, normalizePlacement member.2))).map (fun member =>
        (member.1, normalizePlacement member.2)) = detachAll clientUuid (members.map fun member =>
        (member.1, normalizePlacement member.2)) := by
  unfold detachAll
  rw [map_map]
  apply map_congr_left
  intro member hmem
  obtain ⟨former, -, rfl⟩ := mem_map.mp (mem_of_mem_filter hmem)
  have hmarker : (normalizePlacement former.2).flag "automatic_fallback" =
      isAutomaticFallback (normalizePlacement former.2) := by
    rw [marker_normalizePlacement, isAutomaticFallback_normalizePlacement]
  exact congrArg (former.1, ·) (normalizePlacement_detachPlacement hmarker)

lemma removeClientFromLayout_eq (h : layoutSchemaValid layout = true) :
    removeClientFromLayout layout clientUuid =
      editPlacements (detachAll clientUuid ∘ List.map fun member =>
        (member.1, normalizePlacement member.2)) layout := by
  rw [removeClientFromLayout, normalizeLayout_eq h, mapPlacements_eq_edit,
    editPlacements_editPlacements]

lemma placementsOf_removeClientFromLayout :
    placementsOf (removeClientFromLayout layout clientUuid) =
      detachAll clientUuid (placementsOf (normalizeLayout layout)) := by
  rw [removeClientFromLayout, placementsOf_editPlacements rfl]

section

variable (h : layoutSchemaValid layout = true)

include h

lemma layoutSchemaValid_removeClientFromLayout :
    layoutSchemaValid (removeClientFromLayout layout clientUuid) = true := by
  have hnormal := layoutSchemaValid_normalizeLayout h
  apply layoutSchemaValid_editPlacements hnormal rfl
  intro member hmem
  obtain ⟨former, hformer, -, rfl⟩ := mem_detachAll.mp hmem
  exact placementSchemaError_detachPlacement (placementSchemaError_of_valid hnormal hformer)

lemma removeClientFromLayout_idem :
    removeClientFromLayout (removeClientFromLayout layout clientUuid) clientUuid =
      removeClientFromLayout layout clientUuid := by
  rw [removeClientFromLayout_eq (layoutSchemaValid_removeClientFromLayout h),
    removeClientFromLayout_eq h, editPlacements_editPlacements]
  congr 1
  funext members
  simp only [Function.comp_apply]
  rw [map_normalize_detachAll, detachAll_idem]

lemma placementsOf_normalizeLayout :
    placementsOf (normalizeLayout layout) = (placementsOf layout).map fun member =>
      (member.1, normalizePlacement member.2) := by
  rw [normalizeLayout_eq h, placementsOf_mapPlacements]

lemma keys_normalizeLayout :
    (placementsOf (normalizeLayout layout)).map (·.1) = (placementsOf layout).map (·.1) := by
  rw [placementsOf_normalizeLayout h, map_map]
  rfl

lemma marker_of_normalizeLayout {member : String × Json}
    (hmem : member ∈ placementsOf (normalizeLayout layout)) :
    member.2.flag "automatic_fallback" = isAutomaticFallback member.2 := by
  rw [placementsOf_normalizeLayout h] at hmem
  obtain ⟨former, -, rfl⟩ := mem_map.mp hmem
  rw [marker_normalizePlacement, isAutomaticFallback_normalizePlacement]

end

lemma countsPrimary_detachPlacement
    (hmarker : placement.flag "automatic_fallback" = isAutomaticFallback placement) :
    (detachPlacement clientUuid placement).countsPrimary = placement.countsPrimary := by
  rw [Json.countsPrimary, Json.countsPrimary, flag_primary_detachPlacement]
  cases h : referencesClient clientUuid placement with
  | false => rw [detachPlacement_eq h]
  | true => rw [(detachPlacement_normalized h (isObject_of_references h) hmarker).2]

lemma clientAnchor_detachPlacement {anchorId : String}
    (hanchor : (detachPlacement clientUuid placement).clientAnchor? = some anchorId) :
    placement.clientAnchor? = some anchorId := by
  cases h : referencesClient clientUuid placement with
  | false => rwa [detachPlacement_eq h] at hanchor
  | true =>
    unfold Json.clientAnchor? at hanchor
    rw [(detachPlacement_flags h (isObject_of_references h)).1] at hanchor
    simp at hanchor

lemma anchorKnown_detachPlacement {knownClients knownPhysicalIds : List String}
    {client : String} {placement : Json}
    (hmarker : placement.flag "automatic_fallback" = isAutomaticFallback placement)
    (hknown : AnchorKnown knownClients knownPhysicalIds client placement) :
    AnchorKnown (knownClients.filter (· != clientUuid)) knownPhysicalIds client
      (detachPlacement clientUuid placement) := by
  cases h : referencesClient clientUuid placement with
  | true =>
    intro harranged hfallback
    obtain ⟨hautomatic, hsame⟩ :=
      detachPlacement_normalized h (isObject_of_references h) hmarker
    rw [hautomatic] at hfallback
    rw [Json.arranged, hautomatic, hfallback,
      (detachPlacement_flags h (isObject_of_references h)).2.2.1] at harranged
    cases harranged
  | false =>
    rw [detachPlacement_eq h]
    intro harranged hfallback
    have hanchor := hknown harranged hfallback
    split at hanchor
    next hkind =>
      rw [if_pos hkind]
      refine ⟨mem_filter.mpr ⟨hanchor.1, ?_⟩, hanchor.2⟩
      rw [referencesClient, hkind, beq_self_eq_true, Bool.true_and] at h
      simpa using h
    next hkind => rwa [if_neg hkind]

lemma Accepted.removeClient {knownClients knownPhysicalIds : List String}
    (h : Accepted (normalizeLayout layout) knownClients knownPhysicalIds)
    (hvalid : layoutSchemaValid layout = true) :
    Accepted (removeClientFromLayout layout clientUuid) (knownClients.filter (· != clientUuid))
      knownPhysicalIds := by
  have hmarker : ∀ member ∈ placementsOf (normalizeLayout layout),
      member.2.flag "automatic_fallback" = isAutomaticFallback member.2 :=
    fun member hmem => marker_of_normalizeLayout hvalid hmem
  refine ⟨layoutSchemaValid_removeClientFromLayout hvalid, fun member hmem => ?_,
    fun member hmem => ?_, ?_, ?_⟩
  · rw [placementsOf_removeClientFromLayout] at hmem
    obtain ⟨former, hformer, hne, rfl⟩ := mem_detachAll.mp hmem
    exact mem_filter.mpr ⟨h.known former hformer, by simpa using hne⟩
  · rw [placementsOf_removeClientFromLayout] at hmem
    obtain ⟨former, hformer, hne, rfl⟩ := mem_detachAll.mp hmem
    exact anchorKnown_detachPlacement (hmarker former hformer) (h.anchors former hformer)
  · have hsame : ((placementsOf (normalizeLayout layout)).filter
        fun member => member.1 != clientUuid).filter
          (fun member => (detachPlacement clientUuid member.2).countsPrimary) =
        ((placementsOf (normalizeLayout layout)).filter
          fun member => member.1 != clientUuid).filter fun member => member.2.countsPrimary :=
      filter_congr fun member hmem =>
        countsPrimary_detachPlacement (hmarker member (mem_of_mem_filter hmem))
    rw [placementsOf_removeClientFromLayout, detachAll, filter_map, length_map]
    apply le_trans (le_of_eq (congrArg List.length hsame))
    exact le_trans (filter_sublist.filter _).length_le h.primary
  · obtain ⟨rank, hrank⟩ := h.ranked
    refine ⟨rank, fun member hmem anchorId hanchor => ?_⟩
    rw [placementsOf_removeClientFromLayout] at hmem
    obtain ⟨former, hformer, hne, rfl⟩ := mem_detachAll.mp hmem
    exact hrank former hformer anchorId (clientAnchor_detachPlacement hanchor)

end

/-- Unpairing a client keeps the layout valid for the others: the client is gone from it, every
other placement stays as normalized unless it was anchored to the client, and every other
client keeps its primary flag. The members of an object have distinct names. -/
theorem removal_keeps_layouts_valid {layout : Json} {knownClients knownPhysicalIds : List String}
    (hdistinct : ((placementsOf layout).map (·.1)).Nodup)
    (hacc : validateLayout layout knownClients knownPhysicalIds = .ok ())
    (clientUuid : String) : validateLayout (removeClientFromLayout layout clientUuid)
      (knownClients.filter (· != clientUuid)) knownPhysicalIds = .ok () ∧
    (∀ member ∈ placementsOf (removeClientFromLayout layout clientUuid),
      member.1 ≠ clientUuid ∧ referencesClient clientUuid member.2 = false) ∧
    (∀ client, client ≠ clientUuid → ∀ placement,
      (placementsOf (normalizeLayout layout)).lookup client = some placement →
      referencesClient clientUuid placement = false →
      (placementsOf (removeClientFromLayout layout clientUuid)).lookup client = some placement) ∧
    (∀ client, client ≠ clientUuid →
      ((placementsOf (removeClientFromLayout layout clientUuid)).lookup client).map
          (·.flag "primary") = ((placementsOf layout).lookup client).map (·.flag "primary")) ∧
    removeClientFromLayout (removeClientFromLayout layout clientUuid) clientUuid =
      removeClientFromLayout layout clientUuid := by
  have hvalid := (validateLayout_accepts hacc).1
  have hkeys := keys_normalizeLayout hvalid
  have hnormal : Accepted (normalizeLayout layout) knownClients knownPhysicalIds := by
    rw [← validateLayout_normalizeLayout hvalid] at hacc
    exact (validateLayout_iff (by rw [hkeys]; exact hdistinct)).mp hacc
  refine ⟨?_, fun member hmem => ?_, fun client hclient placement hplacement hother => ?_,
    fun client hclient => ?_, removeClientFromLayout_idem hvalid⟩
  · refine (validateLayout_iff ?_).mpr (hnormal.removeClient hvalid)
    rw [placementsOf_removeClientFromLayout, keys_detachAll, hkeys]
    exact hdistinct.filter _
  · rw [placementsOf_removeClientFromLayout] at hmem
    obtain ⟨former, hformer, hne, rfl⟩ := mem_detachAll.mp hmem
    refine ⟨hne, ?_⟩
    cases h : referencesClient clientUuid former.2 with
    | false => rw [detachPlacement_eq h, h]
    | true => exact not_references_detachPlacement clientUuid h (isObject_of_references h)
  · rw [placementsOf_removeClientFromLayout, lookup_detachAll hclient, hplacement,
      Option.map_some, detachPlacement_eq hother]
  · rw [placementsOf_removeClientFromLayout, lookup_detachAll hclient,
      placementsOf_normalizeLayout hvalid, lookup_map_value, Option.map_map, Option.map_map]
    congr 1
    funext placement
    exact flag_primary_detachPlacement.trans (flag_normalizePlacement (by decide))

/-- A phone that is anchored to a tablet keeps its primary display when the tablet goes. -/
theorem removal_keeps_layouts_valid_tablet : validateLayout (removeClientFromLayout (.object
          [("placements", .object [("phone", .object
            [("alignment", .string "start"), ("anchor_id", .string "tablet"),
              ("anchor_kind", .string "client"), ("edge", .string "right"),
              ("gap_px", .integer 0), ("primary", .bool true)])]),
            ("version", .integer 1)]) "tablet") ["phone"] [] = .ok () := by
  have hacc : validateLayout (.object
      [("placements", .object [("phone", .object
        [("alignment", .string "start"), ("anchor_id", .string "tablet"),
          ("anchor_kind", .string "client"), ("edge", .string "right"),
          ("gap_px", .integer 0), ("primary", .bool true)])]),
        ("version", .integer 1)]) ["phone", "tablet"] [] = .ok () := by rfl
  exact (removal_keeps_layouts_valid (by decide) hacc "tablet").1

end Vibeshine.RemoteDisplay
