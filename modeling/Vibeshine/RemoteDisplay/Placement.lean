import Vibeshine.RemoteDisplay.Acceptance
import Vibeshine.RemoteDisplay.Compose

/-! # Placed clients

What `compose_locked` does with the layout: which nodes it adds to the baseline, with
which modes, and where. Under an accepted layout the recursion of `emit` meets no
cycle, and every client is emitted after the client it is anchored to.
-/

namespace Vibeshine.RemoteDisplay

open List

def Moved (node later : Node) : Prop := ∃ x y, later = { node with x := x, y := y }

namespace Moved

variable {node later : Node} {cond : Prop} [Decidable cond]

lemma refl (node : Node) : Moved node node := ⟨node.x, node.y, rfl⟩

lemma setX (h : Moved node later) (value : Int) :
    Moved node (if cond then { later with x := value } else later) := by
  split
  · obtain ⟨x, y, rfl⟩ := h
    exact ⟨value, y, rfl⟩
  · exact h

lemma setY (h : Moved node later) (value : Int) :
    Moved node (if cond then { later with y := value } else later) := by
  split
  · obtain ⟨x, y, rfl⟩ := h
    exact ⟨x, value, rfl⟩
  · exact h

end Moved

lemma placeRelative_moved (node anchor : Node) (placement : Json) :
    Moved node (placeRelative node anchor placement) :=
  ((((((Moved.refl node).setX _).setX _).setY _).setY _).setY _).setX _

def Shows (clients : Clients) (node : Node) : Prop :=
  ∃ client, clients.lookup node.id = some client ∧ client.owning = true ∧
    node.configuredMode = client.effectiveMode ∧
    node.lastRequestedMode = some client.effectiveMode ∧ node.currentMode = none

/-! ## The rule of a client -/

def placementRule (layout : Json) (uuid : String) : Bool × Option Json :=
  match (placementsOf layout).lookup uuid with
  | none => (false, none)
  | some placement =>
    if placement.arranged then
      (placement.flag "primary", if isAutomaticFallback placement then none else some placement)
    else (false, none)

def ruledNode (layout : Json) (uuid : String) (client : Client) : Node :=
  { clientNode uuid client with primary := (placementRule layout uuid).1 }

/-- The anchored part of `emit`. -/
def emitAnchored (layout : Json) (clients : Clients) (fuel : Nat) (uuid : String) (client : Client)
    (placement : Json) (c : Composition) : Composition :=
  let anchorId := placement.text "anchor_id"
  let anchored := placement.text "anchor_kind" == "client"
  let c := if anchored then emit layout clients fuel anchorId c else c
  if anchored && c.emitted.contains uuid then c.leave uuid
  else
    match c.nodes.find? (·.id == anchorId) with
    | none => (c.appendRight uuid (ruledNode layout uuid client) (anchorWarning anchorId)).leave uuid
    | some anchor => (c.placeAt uuid (ruledNode layout uuid client) anchor placement).leave uuid

lemma emit_succ (layout : Json) (clients : Clients) (fuel : Nat) (uuid : String)
    (c : Composition) : emit layout clients (fuel + 1) uuid c = if uuid ∈ c.emitted then c else
        match clients.lookup uuid with
        | none => c
        | some client =>
          if client.owning = false then c else if uuid ∈ c.visiting then
            c.appendRight uuid (clientNode uuid client) (cycleWarning uuid) else
            match (placementRule layout uuid).2 with
            | none => ((c.enter uuid).appendRight uuid (ruledNode layout uuid client) "").leave uuid
            | some placement =>
              emitAnchored layout clients fuel uuid client placement (c.enter uuid) := by
  conv_lhs => unfold emit
  simp only [contains_iff_mem]
  split
  · rfl
  cases clients.lookup uuid with
  | none => rfl
  | some client =>
    dsimp only
    cases client.owning with
    | false => simp
    | true =>
    simp only [Bool.not_true, Bool.false_eq_true, if_false, Bool.true_eq_false]
    split
    · rfl
    unfold emitAnchored ruledNode
    have hrule : placementRule layout uuid = placementRule layout uuid := rfl
    conv at hrule => rhs; unfold placementRule
    cases hlookup : (placementsOf layout).lookup uuid with
    | none =>
      rw [hlookup] at hrule
      rw [hrule]
      rfl
    | some placement =>
      rw [hlookup] at hrule
      unfold Json.arranged at hrule
      dsimp only at hrule ⊢
      cases hfallback : isAutomaticFallback placement with
      | true =>
        rw [hfallback] at hrule
        rw [hrule]
        simp
      | false =>
        cases hpreserve : placement.flag "preserve" <;> rw [hpreserve, hfallback] at hrule <;>
          rw [hrule] <;> rfl

/-! ## Modes of composed nodes -/

section

variable {layout : Json} {clients : Clients} {uuid : String} {client : Client}

lemma shows_ruledNode (hclient : clients.lookup uuid = some client)
    (howning : client.owning = true) {primary : Bool} {x y : Int} :
    Shows clients { clientNode uuid client with primary := primary, x := x, y := y } :=
  ⟨client, hclient, howning, rfl, rfl, rfl⟩

lemma emit_shows (layout : Json) (clients : Clients) (fuel : Nat) (uuid : String)
    (c : Composition) : ∃ placed, (emit layout clients fuel uuid c).nodes = c.nodes ++ placed ∧
      ∀ node ∈ placed, Shows clients node := by
  induction fuel generalizing uuid c with
  | zero => exact ⟨[], (append_nil _).symm, fun _ hmem => by cases hmem⟩
  | succ fuel ih =>
    have hnothing : ∃ placed, c.nodes = c.nodes ++ placed ∧ ∀ node ∈ placed, Shows clients node :=
      ⟨[], (append_nil _).symm, fun _ hmem => by cases hmem⟩
    rw [emit_succ]
    split
    · exact hnothing
    cases hclient : clients.lookup uuid with
    | none => exact hnothing
    | some client =>
    dsimp only
    split
    · exact hnothing
    next howning =>
    rw [Bool.not_eq_false] at howning
    have hsingle : ∀ primary x y, ∀ node ∈
        [{ clientNode uuid client with primary := primary, x := x, y := y }],
        Shows clients node := by
      intro primary x y node hmem
      rw [mem_singleton.mp hmem]
      exact shows_ruledNode hclient howning
    split
    · exact ⟨[_], rfl, hsingle _ _ _⟩
    cases (placementRule layout uuid).2 with
    | none => exact ⟨[_], rfl, hsingle _ _ _⟩
    | some placement =>
    obtain ⟨earlier, hearlier, hshown⟩ : ∃ placed,
        (if (placement.text "anchor_kind" == "client") = true then
          emit layout clients fuel (placement.text "anchor_id") (c.enter uuid)
          else c.enter uuid).nodes = c.nodes ++ placed ∧
        ∀ node ∈ placed, Shows clients node := by
      split
      · exact ih _ (c.enter uuid)
      · exact hnothing
    unfold emitAnchored
    dsimp only
    generalize (if (placement.text "anchor_kind" == "client") = true then
      emit layout clients fuel (placement.text "anchor_id") (c.enter uuid)
      else c.enter uuid) = recursed at hearlier ⊢
    have hpushed : ∀ primary x y, ∃ placed, recursed.nodes ++
        [{ clientNode uuid client with primary := primary, x := x, y := y }] =
          c.nodes ++ placed ∧ ∀ node ∈ placed, Shows clients node := by
      intro primary x y
      refine ⟨earlier ++ [_], by rw [hearlier, append_assoc], fun node hmem => ?_⟩
      rcases mem_append.mp hmem with hmem | hmem
      · exact hshown node hmem
      · exact hsingle primary x y node hmem
    split
    · exact ⟨earlier, hearlier, hshown⟩
    cases recursed.nodes.find? (·.id == placement.text "anchor_id") with
    | none => exact hpushed _ _ _
    | some anchor =>
      obtain ⟨x, y, hposition⟩ :=
        placeRelative_moved (ruledNode layout uuid client) anchor placement
      show ∃ placed, recursed.nodes ++ [placeRelative _ anchor placement] = _ ∧ _
      rw [hposition]
      exact hpushed _ x y

lemma composeLocked_shows (layout : Json) (baseline : List Node) (clients : Clients) :
    ∃ placed, composeLocked layout baseline clients = baseline ++ placed ∧
      ∀ node ∈ placed, Shows clients node := by
  unfold composeLocked composition
  have hfold : ∀ (uuids : List String) (c : Composition), ∃ placed,
      (uuids.foldl (fun c uuid => emit layout clients (clients.length + 1) uuid c) c).nodes =
        c.nodes ++ placed ∧ ∀ node ∈ placed, Shows clients node := by
    intro uuids
    induction uuids with
    | nil => exact fun c => ⟨[], (append_nil _).symm, fun _ hmem => by cases hmem⟩
    | cons uuid rest ih =>
      intro c
      obtain ⟨first, hfirst, hshown⟩ := emit_shows layout clients (clients.length + 1) uuid c
      obtain ⟨later, hlater, hshown'⟩ := ih (emit layout clients (clients.length + 1) uuid c)
      refine ⟨first ++ later, ?_, fun node hmem => ?_⟩
      · rw [foldl_cons, hlater, hfirst, append_assoc]
      · rcases mem_append.mp hmem with hmem | hmem
        · exact hshown node hmem
        · exact hshown' node hmem
  exact hfold (activeIds clients) (initialComposition baseline)

end

/-! ## Composition without cycles -/

def Owns (clients : Clients) (uuid : String) : Prop :=
  ∃ client, clients.lookup uuid = some client ∧ client.owning = true

section

variable (layout : Json) (clients : Clients)

/-- How a node stands after the nodes before it: with the flags of its rule, relative
to its anchor where that is present, and after the client it is anchored to. -/
structure Settled (before : List Node) (node : Node) : Prop where
  owner : Owns clients node.id
  ruled : ∀ client, clients.lookup node.id = some client →
    Moved (ruledNode layout node.id client) node
  relative : ∀ client placement anchor, clients.lookup node.id = some client →
    (placementRule layout node.id).2 = some placement →
    before.find? (·.id == placement.text "anchor_id") = some anchor →
      node = placeRelative (ruledNode layout node.id client) anchor placement
  anchored : ∀ placement, (placementRule layout node.id).2 = some placement →
    placement.text "anchor_kind" = "client" → Owns clients (placement.text "anchor_id") →
      before.find? (·.id == placement.text "anchor_id") ≠ none

inductive Composes (baseline : List Node) : List Node → Prop where
  | nil : Composes baseline []
  | snoc {placed : List Node} {node : Node} (before : Composes baseline placed)
      (settled : Settled layout clients (baseline ++ placed) node)
      (fresh : node.id ∉ placed.map (·.id)) : Composes baseline (placed ++ [node])

/-- The locals of a composition that met no cycle. -/
structure Composed (baseline placed : List Node) (c : Composition) : Prop where
  nodes : c.nodes = baseline ++ placed
  composes : Composes layout clients baseline placed
  emitted : ∀ uuid, uuid ∈ c.emitted ↔ uuid ∈ placed.map (·.id)
  warned : ∀ warning ∈ c.warnings, ∃ anchorId, warning = anchorWarning anchorId

end

section

variable {layout : Json} {clients : Clients} {baseline placed : List Node} {c : Composition}
  {uuid : String}

section

variable (h : Composed layout clients baseline placed c)

include h

lemma Composed.enter (uuid : String) : Composed layout clients baseline placed (c.enter uuid) :=
  ⟨h.nodes, h.composes, h.emitted, h.warned⟩

lemma Composed.leave (uuid : String) : Composed layout clients baseline placed (c.leave uuid) :=
  ⟨h.nodes, h.composes, h.emitted, h.warned⟩

lemma Composed.push {later : Composition} {node : Node} (hnodes : later.nodes = c.nodes ++ [node])
    (hemitted : later.emitted = node.id :: c.emitted)
    (hwarned : ∀ warning ∈ later.warnings, warning ∈ c.warnings ∨
      ∃ anchorId, warning = anchorWarning anchorId)
    (hfresh : node.id ∉ c.emitted) (hsettled : Settled layout clients c.nodes node) :
    Composed layout clients baseline (placed ++ [node]) later where
  nodes := by rw [hnodes, h.nodes, append_assoc]
  composes := by
    refine .snoc h.composes (h.nodes ▸ hsettled) fun hmem => hfresh ?_
    exact (h.emitted node.id).mpr hmem
  emitted := fun uuid => by
    rw [hemitted, mem_cons, h.emitted uuid, map_append, mem_append, or_comm]
    simp
  warned := fun warning hmem => (hwarned warning hmem).elim (h.warned warning) id

end

lemma Settled.of_owner {before : List Node} {node : Node} {client : Client}
    (hclient : clients.lookup node.id = some client) (howning : client.owning = true)
    (hmoved : Moved (ruledNode layout node.id client) node)
    (hrelative : ∀ placement, (placementRule layout node.id).2 = some placement →
      (∀ anchor, before.find? (·.id == placement.text "anchor_id") = some anchor →
        node = placeRelative (ruledNode layout node.id client) anchor placement) ∧
      (placement.text "anchor_kind" = "client" → Owns clients (placement.text "anchor_id") →
        before.find? (·.id == placement.text "anchor_id") ≠ none)) :
    Settled layout clients before node := by
  refine ⟨⟨client, hclient, howning⟩, fun owner hlookup => ?_,
    fun owner placement anchor hlookup hplacement hfound => ?_,
    fun placement hplacement => (hrelative placement hplacement).2⟩
  · cases hclient.symm.trans hlookup
    exact hmoved
  · cases hclient.symm.trans hlookup
    exact (hrelative placement hplacement).1 anchor hfound

lemma Composed.find?_ne_none (h : Composed layout clients baseline placed c)
    (hemitted : uuid ∈ c.emitted) : c.nodes.find? (·.id == uuid) ≠ none := by
  intro hnone
  obtain ⟨node, hnode, rfl⟩ := mem_map.mp ((h.emitted uuid).mp hemitted)
  have hmem : node ∈ c.nodes := by
    rw [h.nodes]
    exact mem_append_right _ hnode
  have := List.find?_eq_none.mp hnone node hmem
  simp at this

lemma visiting_length_le {visiting : List String} (hnodup : visiting.Nodup)
    (hknown : ∀ uuid ∈ visiting, uuid ∈ clients.map (·.1)) : visiting.length ≤ clients.length := by
  have := (subperm_of_subset hnodup hknown).length_le
  rwa [length_map] at this

lemma mem_keys_of_lookup {client : Client} (h : clients.lookup uuid = some client) :
    uuid ∈ clients.map (·.1) := by
  obtain ⟨before, after, hsplit, -⟩ := lookup_eq_some_iff.mp h
  rw [hsplit]
  simp

lemma appendRight_warnings (node : Node) (warning : String) :
    ∀ message ∈ (c.appendRight uuid node warning).warnings,
      message ∈ c.warnings ∨ message = warning ∧ warning.isEmpty = false := by
  intro message hmem
  simp only [Composition.appendRight] at hmem
  split at hmem
  · exact .inl hmem
  · next hempty =>
    rcases mem_append.mp hmem with hmem | hmem
    · exact .inl hmem
    · exact .inr ⟨mem_singleton.mp hmem, by simpa using hempty⟩

variable {rank : String → Nat}

lemma emit_composed (hrank : ∀ uuid placement, (placementRule layout uuid).2 = some placement →
      placement.text "anchor_kind" = "client" → rank (placement.text "anchor_id") < rank uuid)
    (fuel : Nat) (uuid : String) (h : Composed layout clients baseline placed c)
    (hnodup : c.visiting.Nodup) (hknown : ∀ other ∈ c.visiting, other ∈ clients.map (·.1))
    (hfuel : clients.length + 1 ≤ fuel + c.visiting.length)
    (hbelow : ∀ other ∈ c.visiting, rank uuid < rank other) :
    ∃ more, Composed layout clients baseline (placed ++ more) (emit layout clients fuel uuid c) ∧
      (emit layout clients fuel uuid c).visiting = c.visiting ∧
      (Owns clients uuid → uuid ∈ (emit layout clients fuel uuid c).emitted) := by
  induction fuel generalizing uuid c placed with
  | zero =>
    have := visiting_length_le hnodup hknown
    omega
  | succ fuel ih =>
    have hsame : Composed layout clients baseline (placed ++ []) c := by
      rw [append_nil]
      exact h
    rw [emit_succ]
    split
    · next hemitted => exact ⟨[], hsame, rfl, fun _ => hemitted⟩
    next hfresh =>
    cases hclient : clients.lookup uuid with
    | none =>
      refine ⟨[], hsame, rfl, fun ⟨client, hlookup, _⟩ => ?_⟩
      rw [hclient] at hlookup
      cases hlookup
    | some client =>
    dsimp only
    split
    · next hunowned =>
      refine ⟨[], hsame, rfl, fun ⟨client, hlookup, howning⟩ => ?_⟩
      rw [hclient] at hlookup
      cases hlookup
      rw [hunowned] at howning
      cases howning
    next howning =>
    rw [Bool.not_eq_false] at howning
    split
    · next hvisited => exact absurd (hbelow uuid hvisited) (lt_irrefl _)
    next hunvisited =>
    have howns : Owns clients uuid := ⟨client, hclient, howning⟩
    have hentered := h.enter uuid
    cases hrule : (placementRule layout uuid).2 with
    | none =>
      refine ⟨[{ ruledNode layout uuid client with x := c.rightmost }], ?_, ?_,
        fun _ => mem_cons_self⟩
      · refine (hentered.push rfl rfl (fun warning hmem => ?_) hfresh ?_).leave uuid
        · rcases appendRight_warnings _ _ warning hmem with hmem | ⟨-, hempty⟩
          · exact .inl hmem
          · cases hempty
        · refine .of_owner hclient howning ⟨c.rightmost, (ruledNode layout uuid client).y, rfl⟩
            fun placement hplacement => ?_
          cases hrule.symm.trans hplacement
      · exact erase_cons_head ..
    | some placement =>
    obtain ⟨more, hrecursed, hvisiting, hanchor, hkept⟩ : ∃ more,
        Composed layout clients baseline (placed ++ more)
          (if (placement.text "anchor_kind" == "client") = true then
            emit layout clients fuel (placement.text "anchor_id") (c.enter uuid)
            else c.enter uuid) ∧
        (if (placement.text "anchor_kind" == "client") = true then
            emit layout clients fuel (placement.text "anchor_id") (c.enter uuid)
            else c.enter uuid).visiting = uuid :: c.visiting ∧
        (placement.text "anchor_kind" = "client" → Owns clients (placement.text "anchor_id") →
          placement.text "anchor_id" ∈ (if (placement.text "anchor_kind" == "client") = true then
              emit layout clients fuel (placement.text "anchor_id") (c.enter uuid)
              else c.enter uuid).emitted) ∧
        ((placement.text "anchor_kind" == "client") = false →
          uuid ∉ (if (placement.text "anchor_kind" == "client") = true then
            emit layout clients fuel (placement.text "anchor_id") (c.enter uuid)
            else c.enter uuid).emitted) := by
      cases hkind : placement.text "anchor_kind" == "client" with
      | false =>
        refine ⟨[], hsame.enter uuid, rfl, fun heq => ?_, fun _ => hfresh⟩
        rw [heq] at hkind
        cases hkind
      | true =>
        have hdown := hrank uuid placement hrule (beq_iff_eq.mp hkind)
        obtain ⟨more, hmore, hsame, hemits⟩ := ih (placement.text "anchor_id") hentered
          (nodup_cons.mpr ⟨hunvisited, hnodup⟩)
          (fun other hmem => (mem_cons.mp hmem).elim
            (fun heq => heq ▸ mem_keys_of_lookup hclient) (hknown other))
          (by
            show clients.length + 1 ≤ fuel + (uuid :: c.visiting).length
            rw [length_cons]
            omega)
          (fun other hmem => (mem_cons.mp hmem).elim (fun heq => heq ▸ hdown)
            fun hmem => lt_trans hdown (hbelow other hmem))
        exact ⟨more, hmore, hsame, fun _ => hemits, fun hfalse => by cases hfalse⟩
    dsimp only
    unfold emitAnchored
    dsimp only
    generalize (if (placement.text "anchor_kind" == "client") = true then
      emit layout clients fuel (placement.text "anchor_id") (c.enter uuid)
      else c.enter uuid) = recursed at hrecursed hvisiting hanchor hkept ⊢
    have hleft : recursed.visiting.erase uuid = c.visiting := by
      rw [hvisiting]
      exact erase_cons_head ..
    split
    · next hemitted =>
      rw [Bool.and_eq_true, contains_iff_mem] at hemitted
      exact ⟨more, hrecursed.leave uuid, hleft, fun _ => hemitted.2⟩
    next hmissing =>
    have hunemitted : uuid ∉ recursed.emitted := by
      intro hmem
      rw [Bool.and_eq_true, contains_iff_mem, not_and] at hmissing
      cases hkind : placement.text "anchor_kind" == "client" with
      | false => exact hkept hkind hmem
      | true => exact hmissing hkind hmem
    cases hfound : recursed.nodes.find? (·.id == placement.text "anchor_id") with
    | none =>
      refine ⟨more ++ [{ ruledNode layout uuid client with x := recursed.rightmost }], ?_, hleft,
        fun _ => mem_cons_self⟩
      rw [← append_assoc]
      refine (hrecursed.push rfl rfl (fun warning hmem => ?_) hunemitted ?_).leave uuid
      · rcases appendRight_warnings _ _ warning hmem with hmem | ⟨heq, -⟩
        · exact .inl hmem
        · exact .inr ⟨_, heq⟩
      · refine .of_owner hclient howning
          ⟨recursed.rightmost, (ruledNode layout uuid client).y, rfl⟩
          fun other hplacement => ?_
        cases hrule.symm.trans hplacement
        refine ⟨fun anchor hanchored => ?_, fun hkind howner => ?_⟩
        · rw [hfound] at hanchored
          cases hanchored
        · exact hrecursed.find?_ne_none (hanchor hkind howner)
    | some anchor =>
      obtain ⟨x, y, hposition⟩ :=
        placeRelative_moved (ruledNode layout uuid client) anchor placement
      have hid : (placeRelative (ruledNode layout uuid client) anchor placement).id = uuid := by
        rw [hposition]
        rfl
      refine ⟨more ++ [placeRelative (ruledNode layout uuid client) anchor placement], ?_, hleft,
        fun _ => mem_cons_self⟩
      rw [← append_assoc]
      suffices hplaced : Composed layout clients baseline
          (placed ++ more ++ [placeRelative (ruledNode layout uuid client) anchor placement])
          (recursed.placeAt uuid (ruledNode layout uuid client) anchor placement) from
        hplaced.leave uuid
      refine hrecursed.push rfl ?_ (fun warning hmem => .inl hmem) ?_ ?_
      · rw [hid]
        rfl
      · rw [hid]
        exact hunemitted
      · refine .of_owner (by rw [hid]; exact hclient) howning ?_ fun other hplacement => ?_
        · rw [hid]
          exact ⟨x, y, hposition⟩
        · rw [hid] at hplacement ⊢
          cases hrule.symm.trans hplacement
          refine ⟨fun found hanchored => ?_, fun _ _ => ?_⟩
          · cases hfound.symm.trans hanchored
            rfl
          · rw [hfound]
            exact Option.some_ne_none _

lemma foldl_emit_composed
    (hrank : ∀ uuid placement, (placementRule layout uuid).2 = some placement →
      placement.text "anchor_kind" = "client" → rank (placement.text "anchor_id") < rank uuid)
    (uuids : List String) (h : Composed layout clients baseline placed c)
    (hvisiting : c.visiting = []) : ∃ more, Composed layout clients baseline (placed ++ more)
        (uuids.foldl (fun c uuid => emit layout clients (clients.length + 1) uuid c) c) ∧
      ∀ uuid ∈ uuids, Owns clients uuid → uuid ∈ (placed ++ more).map (·.id) := by
  induction uuids generalizing c placed with
  | nil =>
    refine ⟨[], ?_, fun _ hmem => by cases hmem⟩
    rw [append_nil]
    exact h
  | cons uuid rest ih =>
    obtain ⟨first, hfirst, hkept, hemits⟩ := emit_composed hrank (clients.length + 1) uuid h
      (by rw [hvisiting]; exact nodup_nil) (by rw [hvisiting]; intro _ hmem; cases hmem)
      (by omega) (by rw [hvisiting]; intro _ hmem; cases hmem)
    obtain ⟨later, hlater, hrest⟩ := ih hfirst (hkept.trans hvisiting)
    refine ⟨first ++ later, ?_, fun other hmem howns => ?_⟩
    · rw [← append_assoc]
      exact hlater
    · rw [← append_assoc]
      rcases mem_cons.mp hmem with rfl | hmem
      · have := (hfirst.emitted other).mp (hemits howns)
        rw [map_append]
        exact mem_append_left _ this
      · exact hrest other hmem howns

lemma mem_activeIds (h : Owns clients uuid) : uuid ∈ activeIds clients := by
  obtain ⟨client, hlookup, howning⟩ := h
  obtain ⟨before, after, hsplit, -⟩ := lookup_eq_some_iff.mp hlookup
  have hmem : (uuid, client) ∈ clients := by
    rw [hsplit]
    exact mem_append_right _ mem_cons_self
  refine mem_map.mpr ⟨(uuid, client), (mem_insertionSort _).mpr ?_, rfl⟩
  exact mem_filter.mpr ⟨hmem, howning⟩

lemma composition_composed
    (hrank : ∀ uuid placement, (placementRule layout uuid).2 = some placement →
      placement.text "anchor_kind" = "client" → rank (placement.text "anchor_id") < rank uuid)
    (baseline : List Node) (clients : Clients) :
    ∃ placed, Composed layout clients baseline placed (composition layout baseline clients) ∧
      ∀ uuid, Owns clients uuid → uuid ∈ placed.map (·.id) := by
  have hstart : Composed layout clients baseline [] (initialComposition baseline) :=
    ⟨(append_nil _).symm, .nil, fun _ => Iff.rfl, fun _ hmem => by cases hmem⟩
  obtain ⟨placed, hplaced, howners⟩ := foldl_emit_composed hrank (activeIds clients) hstart rfl
  exact ⟨placed, hplaced, fun uuid howns => howners uuid (mem_activeIds howns) howns⟩

/-! ## What composed nodes satisfy -/

lemma Composes.nodup (h : Composes layout clients baseline placed) : (placed.map (·.id)).Nodup := by
  induction h with
  | nil => exact nodup_nil
  | snoc before settled fresh ih =>
    rw [map_append, nodup_append]
    refine ⟨ih, nodup_singleton _, fun id hid other hother heq => fresh ?_⟩
    rw [heq, mem_singleton.mp hother] at hid
    exact hid

lemma Composes.settled (h : Composes layout clients baseline placed) {node : Node}
    (hmem : node ∈ placed) :
    ∃ before after, placed = before ++ after ∧ Settled layout clients (baseline ++ before) node := by
  induction h with
  | nil => cases hmem
  | snoc before settled fresh ih =>
    rcases mem_append.mp hmem with hmem | hmem
    · obtain ⟨first, rest, hsplit, hsettled⟩ := ih hmem
      exact ⟨first, rest ++ [_], by rw [hsplit, append_assoc], hsettled⟩
    · rw [mem_singleton.mp hmem]
      exact ⟨_, [_], rfl, settled⟩

lemma placementRule_of_arranged {placement : Json}
    (hlookup : (placementsOf layout).lookup uuid = some placement)
    (hpreserve : placement.flag "preserve" = false) :
    placementRule layout uuid = (placement.flag "primary", some placement) := by
  have hfallback : isAutomaticFallback placement = false := by
    simp [isAutomaticFallback, hpreserve]
  simp [placementRule, hlookup, Json.arranged, hpreserve, hfallback]

lemma countsPrimary_of_rule (h : (placementRule layout uuid).1 = true) :
    ∃ placement, (uuid, placement) ∈ placementsOf layout ∧ placement.countsPrimary = true := by
  unfold placementRule at h
  cases hlookup : (placementsOf layout).lookup uuid with
  | none =>
    rw [hlookup] at h
    cases h
  | some placement =>
    rw [hlookup] at h
    obtain ⟨before, after, hsplit, -⟩ := lookup_eq_some_iff.mp hlookup
    refine ⟨placement, by rw [hsplit]; simp, ?_⟩
    dsimp only at h
    split at h
    · next harranged => rw [Json.countsPrimary, harranged, Bool.true_and]; exact h
    · cases h

lemma Composes.primary_le (h : Composes layout clients baseline placed) :
    (placed.filter (·.primary)).length ≤
      ((placementsOf layout).filter fun member => member.2.countsPrimary).length := by
  have hnodup : ((placed.filter (·.primary)).map (·.id)).Nodup :=
    h.nodup.sublist (filter_sublist.map _)
  have hsubset : (placed.filter (·.primary)).map (·.id) ⊆
      ((placementsOf layout).filter fun member => member.2.countsPrimary).map (·.1) := by
    intro id hid
    obtain ⟨node, hnode, rfl⟩ := mem_map.mp hid
    obtain ⟨hmem, hprim⟩ := mem_filter.mp hnode
    obtain ⟨before, -, -, hsettled⟩ := h.settled hmem
    obtain ⟨client, hlookup, -⟩ := hsettled.owner
    obtain ⟨x, y, hmoved⟩ := hsettled.ruled client hlookup
    have hrule : (placementRule layout node.id).1 = true := by
      rw [hmoved] at hprim
      exact hprim
    obtain ⟨placement, hplacement, hcounts⟩ := countsPrimary_of_rule hrule
    exact mem_map.mpr ⟨_, mem_filter.mpr ⟨hplacement, hcounts⟩, rfl⟩
  have := (subperm_of_subset hnodup hsubset).length_le
  rwa [length_map, length_map] at this

lemma cycleWarning_ne_anchorWarning (uuid anchorId : String) :
    cycleWarning uuid ≠ anchorWarning anchorId := by
  unfold cycleWarning anchorWarning
  intro heq
  have hcycle : 6 < "Saved client anchors contain a cycle; '".toList.length := by decide
  have hanchor : 6 < "Saved anchor '".toList.length := by decide
  have hchar := congrArg String.toList heq
  rw [String.append_assoc, String.append_assoc, String.toList_append, String.toList_append,
    String.toList_append, String.toList_append] at hchar
  have hseventh := congrArg (fun chars => chars[6]?) hchar
  rw [getElem?_append_left hcycle, getElem?_append_left hanchor] at hseventh
  revert hseventh
  decide

end

lemma exists_rank_of_accepted {layout : Json} {knownClients knownPhysicalIds : List String}
    (h : validateLayout layout knownClients knownPhysicalIds = .ok ()) :
    ∃ rank : String → Nat, ∀ uuid placement, (placementRule layout uuid).2 = some placement →
      placement.text "anchor_kind" = "client" → rank (placement.text "anchor_id") < rank uuid := by
  obtain ⟨-, -, rank, hrank⟩ := validateLayout_accepts h
  refine ⟨rank, fun uuid placement hrule hkind => ?_⟩
  unfold placementRule at hrule
  cases hlookup : (placementsOf layout).lookup uuid with
  | none =>
    rw [hlookup] at hrule
    cases hrule
  | some found =>
    rw [hlookup] at hrule
    dsimp only at hrule
    split at hrule
    · next harranged =>
      dsimp only at hrule
      split at hrule
      · cases hrule
      · next hfallback =>
        cases hrule
        refine hrank uuid placement _ hlookup ?_
        rw [Bool.not_eq_true] at hfallback
        simp [Json.clientAnchor?, harranged, hfallback, hkind]
    · cases hrule

/-- Accepted layouts compose without a cycle and with at most one primary client, and
place every arranged client whose anchor is a physical display of the baseline, or an
owning client it is anchored to, relative to the first node of that name. Normalizing
a layout of the schema is idempotent, and validation does not see it. -/
theorem accepted_layouts_compose : (∀ layout knownClients knownPhysicalIds,
      validateLayout layout knownClients knownPhysicalIds = .ok () → ∀ baseline clients,
      (∀ uuid, cycleWarning uuid ∉
        (composition (normalizeLayout layout) baseline clients).warnings) ∧
      ∃ placed, composeLocked (normalizeLayout layout) baseline clients = baseline ++ placed ∧
        (placed.map (·.id)).Nodup ∧ (∀ uuid, uuid ∈ placed.map (·.id) ↔ Owns clients uuid) ∧
        (placed.filter (·.primary)).length ≤ 1 ∧
        ∀ node ∈ placed, ∀ client placement, clients.lookup node.id = some client →
          (placementsOf (normalizeLayout layout)).lookup node.id = some placement →
          placement.flag "preserve" = false → (placement.text "anchor_id" ∈ baseline.map (·.id) ∨
            placement.text "anchor_kind" = "client" ∧ Owns clients (placement.text "anchor_id")) →
          ∃ anchor, (composeLocked (normalizeLayout layout) baseline clients).find?
              (·.id == placement.text "anchor_id") = some anchor ∧ node = placeRelative
              { clientNode node.id client with primary := placement.flag "primary" } anchor
              placement) ∧
    ∀ layout, layoutSchemaValid layout = true →
      normalizeLayout (normalizeLayout layout) = normalizeLayout layout ∧
        ∀ knownClients knownPhysicalIds,
          validateLayout (normalizeLayout layout) knownClients knownPhysicalIds =
            validateLayout layout knownClients knownPhysicalIds := by
  refine ⟨fun layout knownClients knownPhysicalIds hacc baseline clients => ?_,
    fun layout hvalid => ⟨normalizeLayout_idem hvalid, validateLayout_normalizeLayout hvalid⟩⟩
  have hvalid := (validateLayout_accepts hacc).1
  rw [← validateLayout_normalizeLayout hvalid] at hacc
  obtain ⟨-, hprim, -⟩ := validateLayout_accepts hacc
  obtain ⟨rank, hrank⟩ := exists_rank_of_accepted hacc
  obtain ⟨placed, hplaced, howners⟩ := composition_composed hrank baseline clients
  generalize normalizeLayout layout = installed at *
  refine ⟨fun uuid hmem => ?_, placed, hplaced.nodes, hplaced.composes.nodup,
    fun uuid => ⟨fun hmem => ?_, howners uuid⟩, Nat.le_trans hplaced.composes.primary_le hprim,
    fun node hnode client placement hlookup hplacement hpreserve hanchor => ?_⟩
  · obtain ⟨anchorId, hwarning⟩ := hplaced.warned _ hmem
    exact cycleWarning_ne_anchorWarning uuid anchorId hwarning
  · obtain ⟨node, hnode, rfl⟩ := mem_map.mp hmem
    obtain ⟨before, -, -, hsettled⟩ := hplaced.composes.settled hnode
    exact hsettled.owner
  · have hrule := placementRule_of_arranged hplacement hpreserve
    obtain ⟨before, after, hsplit, hsettled⟩ := hplaced.composes.settled hnode
    have hrelative := hsettled.relative client placement
    have hanchored := hsettled.anchored placement (congrArg Prod.snd hrule)
    rw [show ruledNode installed node.id client =
      { clientNode node.id client with primary := placement.flag "primary" } by
        rw [ruledNode, hrule]] at hrelative
    cases hfound : (baseline ++ before).find? (·.id == placement.text "anchor_id") with
    | none =>
      rcases hanchor with hphysical | ⟨hkind, howns⟩
      · obtain ⟨anchor, hmem, hid⟩ := mem_map.mp hphysical
        have := List.find?_eq_none.mp hfound anchor (mem_append_left _ hmem)
        simp [hid] at this
      · exact absurd hfound (hanchored hkind howns)
    | some anchor =>
      refine ⟨anchor, ?_, hrelative anchor hlookup (congrArg Prod.snd hrule) hfound⟩
      rw [show composeLocked installed baseline clients = baseline ++ before ++ after by
        rw [append_assoc, ← hsplit]
        exact hplaced.nodes, find?_append, hfound]
      rfl

def besideLayout (uuid kind anchorId : String) : Json :=
  .object
    [("placements", .object [(uuid, .object
      [("alignment", .string "start"), ("anchor_id", .string anchorId),
        ("anchor_kind", .string kind), ("edge", .string "right"), ("gap_px", .integer 0)])]),
      ("version", .integer 1)]

def phoneThenTablet : Clients :=
  [("phone", { normalGame := true, placementOrder := 1 }),
    ("tablet", { normalGame := true, placementOrder := 2 })]

theorem accepted_layouts_compose_client :
    validateLayout (besideLayout "phone" "client" "tablet") ["phone", "tablet"] [] = .ok () ∧
      (composeLocked (normalizeLayout (besideLayout "phone" "client" "tablet")) []
        phoneThenTablet).map (fun node => (node.id, node.x)) = [("tablet", 0), ("phone", 1920)] ∧
      ∀ uuid, cycleWarning uuid ∉ (composition (normalizeLayout
        (besideLayout "phone" "client" "tablet")) [] phoneThenTablet).warnings :=
  ⟨by rfl, by decide, (accepted_layouts_compose.1 _ ["phone", "tablet"] [] (by rfl) []
    phoneThenTablet).1⟩

/-- A physical anchor is not looked for among the clients that are composed later. -/
theorem physical_anchor_not_awaited : ¬ ∀ layout knownClients knownPhysicalIds,
      validateLayout layout knownClients knownPhysicalIds = .ok () → ∀ baseline clients,
      ∀ node ∈ composeLocked (normalizeLayout layout) baseline clients,
      ∀ client placement, clients.lookup node.id = some client → client.owning = true →
        (placementsOf (normalizeLayout layout)).lookup node.id = some placement →
        placement.flag "preserve" = false →
        ∀ anchor ∈ composeLocked (normalizeLayout layout) baseline clients,
          anchor.id = placement.text "anchor_id" → node = placeRelative
              { clientNode node.id client with primary := placement.flag "primary" } anchor
              placement := by
  intro h
  have hnode := h (besideLayout "phone" "physical" "tablet") ["phone"] ["tablet"] (by rfl) []
    phoneThenTablet { clientNode "phone" { normalGame := true, placementOrder := 1 } with x := 0 }
    (by decide) { normalGame := true, placementOrder := 1 } _ rfl rfl rfl rfl
    { clientNode "tablet" { normalGame := true, placementOrder := 2 } with x := 1920 } (by decide)
    rfl
  have hx := congrArg Node.x hnode
  revert hx
  decide

end Vibeshine.RemoteDisplay
