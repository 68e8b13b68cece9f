import Vibeshine.RemoteDisplay.Placement

/-! # Layouts with any anchors

`compose_locked` under a saved layout that nothing has validated: clients may be anchored to
themselves and in cycles of any length. The recursion of `emit` still ends, places every
owner once, and no owner that goes to the right overlaps what was placed before it.
-/

namespace Vibeshine.RemoteDisplay

open List

/-! ## The recursion -/

/-- The end of `emit` for an anchored client, once its anchor was emitted. -/
def placeAnchored (layout : Json) (uuid : String) (client : Client) (placement : Json)
    (c : Composition) : Composition :=
  if placement.text "anchor_kind" == "client" && c.emitted.contains uuid then c.leave uuid
  else
    match c.nodes.find? (·.id == placement.text "anchor_id") with
    | none =>
      (c.appendRight uuid (ruledNode layout uuid client)
        (anchorWarning (placement.text "anchor_id"))).leave uuid
    | some anchor => (c.placeAt uuid (ruledNode layout uuid client) anchor placement).leave uuid

/-- `emit`, without a result where the calls nest deeper than the given depth. -/
def emit? (layout : Json) (clients : Clients) : Nat → String → Composition → Option Composition
  | 0, _, _ => none
  | depth + 1, uuid, c =>
    if uuid ∈ c.emitted then some c
    else
      match clients.lookup uuid with
      | none => some c
      | some client =>
        if client.owning = false then some c
        else if uuid ∈ c.visiting then
          some (c.appendRight uuid (clientNode uuid client) (cycleWarning uuid))
        else
          match (placementRule layout uuid).2 with
          | none =>
            some (((c.enter uuid).appendRight uuid (ruledNode layout uuid client) "").leave
              uuid)
          | some placement =>
            (if placement.text "anchor_kind" == "client" then
                emit? layout clients depth (placement.text "anchor_id") (c.enter uuid)
              else some (c.enter uuid)).map (placeAnchored layout uuid client placement)

lemma emit?_succ (layout : Json) (clients : Clients) (depth : Nat) (uuid : String)
    (c : Composition) : emit? layout clients (depth + 1) uuid c = if uuid ∈ c.emitted then some c
      else
        match clients.lookup uuid with
        | none => some c
        | some client =>
          if client.owning = false then some c else if uuid ∈ c.visiting then
            some (c.appendRight uuid (clientNode uuid client) (cycleWarning uuid)) else
            match (placementRule layout uuid).2 with
            | none =>
              some (((c.enter uuid).appendRight uuid (ruledNode layout uuid client) "").leave uuid)
            | some placement =>
              (if placement.text "anchor_kind" == "client" then
                  emit? layout clients depth (placement.text "anchor_id") (c.enter uuid)
                else some (c.enter uuid)).map (placeAnchored layout uuid client placement) :=
  rfl

lemma emit?_deeper {layout : Json} {clients : Clients} {depth : Nat} {uuid : String}
    {c later : Composition} (h : emit? layout clients depth uuid c = some later) :
    emit? layout clients (depth + 1) uuid c = some later := by
  induction depth generalizing uuid c later with
  | zero => cases h
  | succ depth ih =>
    rw [emit?_succ] at h ⊢
    by_cases hfresh : uuid ∈ c.emitted
    · rw [if_pos hfresh] at h ⊢
      exact h
    rw [if_neg hfresh] at h ⊢
    cases hclient : clients.lookup uuid with
    | none =>
      rw [hclient] at h
      exact h
    | some client =>
    rw [hclient] at h
    dsimp only at h ⊢
    by_cases howning : client.owning = false
    · rw [if_pos howning] at h ⊢
      exact h
    rw [if_neg howning] at h ⊢
    by_cases hvisited : uuid ∈ c.visiting
    · rw [if_pos hvisited] at h ⊢
      exact h
    rw [if_neg hvisited] at h ⊢
    cases hrule : (placementRule layout uuid).2 with
    | none =>
      rw [hrule] at h
      exact h
    | some placement =>
    rw [hrule] at h
    dsimp only at h ⊢
    obtain ⟨recursed, hrecursed, hlater⟩ := Option.map_eq_some_iff.mp h
    refine Option.map_eq_some_iff.mpr ⟨recursed, ?_, hlater⟩
    by_cases hkind : (placement.text "anchor_kind" == "client") = true
    · rw [if_pos hkind] at hrecursed ⊢
      exact ih hrecursed
    · rw [if_neg hkind] at hrecursed ⊢
      exact hrecursed

/-- `compose_locked` with calls of `emit` that nest no deeper than the given depth. -/
def composition? (layout : Json) (physicalBaseline : List Node) (clients : Clients)
    (depth : Nat) : Option Composition :=
  (activeIds clients).foldlM (fun c uuid => emit? layout clients depth uuid c)
    (initialComposition physicalBaseline)

/-! ## Where nodes stand -/

def PositiveWidths (clients : Clients) : Prop :=
  ∀ uuid client, clients.lookup uuid = some client → client.owning = true →
    0 < client.effectiveMode.width

def Node.rightEdge (node : Node) : Int := node.x + node.footprintWidth

inductive Stands (layout : Json) (clients : Clients) (before : List Node) (node : Node) : Prop where
  | right (beyond : PositiveWidths clients →
      0 ≤ node.x ∧ ∀ earlier ∈ before, earlier.rightEdge ≤ node.x)
  | relative (client : Client) (placement : Json) (anchor : Node)
      (owner : clients.lookup node.id = some client)
      (rule : (placementRule layout node.id).2 = some placement)
      (found : before.find? (·.id == placement.text "anchor_id") = some anchor)
      (placed : node = placeRelative (ruledNode layout node.id client) anchor placement)

inductive Laid (layout : Json) (clients : Clients) (baseline : List Node) : List Node → Prop where
  | nil : Laid layout clients baseline []
  | snoc {placed : List Node} {node : Node} (before : Laid layout clients baseline placed)
      (owns : Owns clients node.id) (fresh : node.id ∉ placed.map (·.id))
      (stands : Stands layout clients (baseline ++ placed) node) :
      Laid layout clients baseline (placed ++ [node])

/-- The locals of a composition. -/
structure Spread (layout : Json) (clients : Clients) (baseline placed : List Node)
    (c : Composition) : Prop where
  nodes : c.nodes = baseline ++ placed
  laid : Laid layout clients baseline placed
  emitted : ∀ uuid, uuid ∈ c.emitted ↔ uuid ∈ placed.map (·.id)
  rightmost : PositiveWidths clients →
    0 ≤ c.rightmost ∧ ∀ node ∈ c.nodes, node.rightEdge ≤ c.rightmost

section

variable {layout : Json} {clients : Clients} {baseline placed : List Node} {c : Composition}
  {uuid : String} {client : Client}

section

variable (h : Spread layout clients baseline placed c)

include h

lemma Spread.enter (uuid : String) : Spread layout clients baseline placed (c.enter uuid) :=
  ⟨h.nodes, h.laid, h.emitted, h.rightmost⟩

lemma Spread.leave (uuid : String) : Spread layout clients baseline placed (c.leave uuid) :=
  ⟨h.nodes, h.laid, h.emitted, h.rightmost⟩

lemma Spread.push {later : Composition} {node : Node} (hnodes : later.nodes = c.nodes ++ [node])
    (hemitted : later.emitted = node.id :: c.emitted) (hfresh : node.id ∉ c.emitted)
    (howns : Owns clients node.id) (hstands : Stands layout clients c.nodes node)
    (hrightmost : PositiveWidths clients →
      c.rightmost ≤ later.rightmost ∧ node.rightEdge ≤ later.rightmost) :
    Spread layout clients baseline (placed ++ [node]) later where
  nodes := by rw [hnodes, h.nodes, append_assoc]
  laid := by
    refine .snoc h.laid howns (fun hmem => hfresh ?_) (h.nodes ▸ hstands)
    exact (h.emitted node.id).mpr hmem
  emitted uuid := by
    rw [hemitted, mem_cons, h.emitted uuid, map_append, mem_append, or_comm]
    simp
  rightmost hwidths := by
    obtain ⟨hpos, hbounded⟩ := h.rightmost hwidths
    obtain ⟨hgrown, hedge⟩ := hrightmost hwidths
    refine ⟨hpos.trans hgrown, fun other hmem => ?_⟩
    rw [hnodes] at hmem
    obtain hmem | hmem := mem_append.mp hmem
    · exact (hbounded other hmem).trans hgrown
    · rw [mem_singleton.mp hmem]
      exact hedge

section

variable (hclient : clients.lookup uuid = some client)

include hclient

lemma Spread.appendRight (howning : client.owning = true)
    (hfresh : uuid ∉ c.emitted) (primary : Bool) (warning : String) :
    ∃ node, Spread layout clients baseline (placed ++ [node])
      (c.appendRight uuid { clientNode uuid client with primary := primary } warning) := by
  refine ⟨{ clientNode uuid client with primary := primary, x := c.rightmost },
    h.push rfl rfl hfresh ⟨client, hclient, howning⟩ (.right h.rightmost) fun hwidths => ?_⟩
  have hwidth := hwidths uuid client hclient howning
  have hlater : (c.appendRight uuid { clientNode uuid client with primary := primary }
      warning).rightmost = c.rightmost + client.effectiveMode.width := rfl
  have hedge : ({ clientNode uuid client with
      primary := primary, x := c.rightmost } : Node).rightEdge =
        c.rightmost + client.effectiveMode.width := rfl
  rw [hlater, hedge]
  exact ⟨by omega, le_refl _⟩

lemma Spread.placeAt (howning : client.owning = true)
    (hfresh : uuid ∉ c.emitted) {placement : Json} {anchor : Node}
    (hrule : (placementRule layout uuid).2 = some placement)
    (hfound : c.nodes.find? (·.id == placement.text "anchor_id") = some anchor) :
    ∃ node, Spread layout clients baseline (placed ++ [node])
      (c.placeAt uuid (ruledNode layout uuid client) anchor placement) := by
  obtain ⟨x, y, hposition⟩ := placeRelative_moved (ruledNode layout uuid client) anchor placement
  have hid : (placeRelative (ruledNode layout uuid client) anchor placement).id = uuid := by
    rw [hposition]
    rfl
  refine ⟨placeRelative (ruledNode layout uuid client) anchor placement,
    h.push rfl ?_ ?_ ?_ ?_ fun _ => ⟨le_max_left _ _, le_max_right _ _⟩⟩
  · rw [hid]
    rfl
  · rwa [hid]
  · rw [hid]
    exact ⟨client, hclient, howning⟩
  · refine .relative client placement anchor (by rw [hid]; exact hclient) (by rw [hid]; exact hrule)
      hfound ?_
    rw [hid]

lemma Spread.anchored (howning : client.owning = true)
    {placement : Json} (hrule : (placementRule layout uuid).2 = some placement)
    (hkept : (placement.text "anchor_kind" == "client") = false → uuid ∉ c.emitted) :
    ∃ more, Spread layout clients baseline (placed ++ more)
        (placeAnchored layout uuid client placement c) ∧
      (placeAnchored layout uuid client placement c).visiting = c.visiting.erase uuid ∧
      uuid ∈ (placeAnchored layout uuid client placement c).emitted := by
  unfold placeAnchored
  split
  next hemitted =>
    rw [Bool.and_eq_true, contains_iff_mem] at hemitted
    refine ⟨[], ?_, rfl, hemitted.2⟩
    rw [append_nil]
    exact h.leave uuid
  next hmissing =>
  have hunemitted : uuid ∉ c.emitted := by
    intro hmem
    rw [Bool.and_eq_true, contains_iff_mem, not_and] at hmissing
    cases hkind : placement.text "anchor_kind" == "client" with
    | false => exact hkept hkind hmem
    | true => exact hmissing hkind hmem
  cases hfound : c.nodes.find? (·.id == placement.text "anchor_id") with
  | none =>
    obtain ⟨node, hpushed⟩ := h.appendRight hclient howning hunemitted
      (ruledNode layout uuid client).primary (anchorWarning (placement.text "anchor_id"))
    exact ⟨[node], hpushed.leave uuid, rfl, mem_cons_self⟩
  | some anchor =>
    obtain ⟨node, hpushed⟩ := h.placeAt hclient howning hunemitted hrule hfound
    exact ⟨[node], hpushed.leave uuid, rfl, mem_cons_self⟩

end

end

/-! ## Every call of `emit` ends -/

lemma emit?_spread (depth : Nat) (uuid : String) (h : Spread layout clients baseline placed c)
    (hnodup : c.visiting.Nodup) (hknown : ∀ other ∈ c.visiting, other ∈ clients.map (·.1))
    (hdepth : clients.length + 1 ≤ depth + c.visiting.length) :
    ∃ later more, emit? layout clients depth uuid c = some later ∧
      emit layout clients depth uuid c = later ∧
      Spread layout clients baseline (placed ++ more) later ∧ later.visiting = c.visiting ∧
      (Owns clients uuid → uuid ∈ later.emitted) := by
  induction depth generalizing uuid c placed with
  | zero =>
    have := visiting_length_le hnodup hknown
    omega
  | succ depth ih =>
    have hsame : Spread layout clients baseline (placed ++ []) c := by
      rw [append_nil]
      exact h
    rw [emit_succ, emit?_succ]
    by_cases hfresh : uuid ∈ c.emitted
    · rw [if_pos hfresh, if_pos hfresh]
      exact ⟨c, [], rfl, rfl, hsame, rfl, fun _ => hfresh⟩
    rw [if_neg hfresh, if_neg hfresh]
    cases hclient : clients.lookup uuid with
    | none =>
      refine ⟨c, [], rfl, rfl, hsame, rfl, fun ⟨client, hlookup, _⟩ => ?_⟩
      rw [hclient] at hlookup
      cases hlookup
    | some client =>
    dsimp only
    cases howning : client.owning with
    | false =>
      refine ⟨c, [], rfl, rfl, hsame, rfl, fun ⟨other, hlookup, hother⟩ => ?_⟩
      rw [hclient] at hlookup
      cases hlookup
      rw [howning] at hother
      cases hother
    | true =>
    have howned : ¬ true = false := nofun
    rw [if_neg howned, if_neg howned]
    by_cases hvisited : uuid ∈ c.visiting
    · obtain ⟨node, hspread⟩ :=
        h.appendRight hclient howning hfresh (clientNode uuid client).primary (cycleWarning uuid)
      rw [if_pos hvisited, if_pos hvisited]
      exact ⟨_, [node], rfl, rfl, hspread, rfl, fun _ => mem_cons_self⟩
    rw [if_neg hvisited, if_neg hvisited]
    have hentered := h.enter uuid
    have hback : (uuid :: c.visiting).erase uuid = c.visiting := erase_cons_head ..
    cases hrule : (placementRule layout uuid).2 with
    | none =>
      obtain ⟨node, hspread⟩ :=
        hentered.appendRight hclient howning hfresh (ruledNode layout uuid client).primary ""
      exact ⟨_, [node], rfl, rfl, hspread.leave uuid, hback, fun _ => mem_cons_self⟩
    | some placement =>
    dsimp only
    -- The anchor is emitted first; the client itself may be emitted on the way.
    obtain ⟨recursed, more, hrecursed?, hrecursed, hspread, hvisiting, hkept⟩ : ∃ recursed more,
          (if placement.text "anchor_kind" == "client" then
              emit? layout clients depth (placement.text "anchor_id") (c.enter uuid)
            else some (c.enter uuid)) = some recursed ∧
          (if placement.text "anchor_kind" == "client" then
              emit layout clients depth (placement.text "anchor_id") (c.enter uuid)
            else c.enter uuid) = recursed ∧
          Spread layout clients baseline (placed ++ more) recursed ∧
          recursed.visiting = uuid :: c.visiting ∧
          ((placement.text "anchor_kind" == "client") = false → uuid ∉ recursed.emitted) := by
      cases hkind : placement.text "anchor_kind" == "client" with
      | false => exact ⟨_, [], rfl, rfl, hsame.enter uuid, rfl, fun _ => hfresh⟩
      | true =>
        obtain ⟨later, more, hlater?, hlater, hspread, hvisiting, -⟩ :=
          ih (placement.text "anchor_id") hentered (nodup_cons.mpr ⟨hvisited, hnodup⟩)
            (fun other hmem => (mem_cons.mp hmem).elim
              (fun heq => heq ▸ mem_keys_of_lookup hclient) (hknown other))
            (by
              show clients.length + 1 ≤ depth + (uuid :: c.visiting).length
              rw [length_cons]
              omega)
        exact ⟨later, more, hlater?, hlater, hspread, hvisiting, nofun⟩
    have hanchored : emitAnchored layout clients depth uuid client placement (c.enter uuid) =
        placeAnchored layout uuid client placement recursed := by
      rw [← hrecursed]
      rfl
    rw [hrecursed?, hanchored, Option.map_some]
    obtain ⟨own, hplaced, hleft, hmem⟩ := hspread.anchored hclient howning hrule hkept
    rw [append_assoc] at hplaced
    rw [hvisiting, hback] at hleft
    exact ⟨_, more ++ own, rfl, rfl, hplaced, hleft, fun _ => hmem⟩

lemma foldlM_emit?_deeper {depth : Nat} {uuids : List String} {c later : Composition}
    (h : uuids.foldlM (fun c uuid => emit? layout clients depth uuid c) c = some later) :
    uuids.foldlM (fun c uuid => emit? layout clients (depth + 1) uuid c) c = some later := by
  induction uuids generalizing c with
  | nil => exact h
  | cons uuid rest ih =>
    rw [foldlM_cons] at h ⊢
    obtain ⟨middle, hmiddle, hrest⟩ := Option.bind_eq_some_iff.mp h
    exact Option.bind_eq_some_iff.mpr ⟨middle, emit?_deeper hmiddle, ih hrest⟩

lemma foldlM_emit?_spread (depth : Nat) (hdepth : clients.length < depth) (uuids : List String)
    (h : Spread layout clients baseline placed c) (hvisiting : c.visiting = []) : ∃ more,
      uuids.foldlM (fun c uuid => emit? layout clients depth uuid c) c =
        some (uuids.foldl (fun c uuid => emit layout clients depth uuid c) c) ∧
      Spread layout clients baseline (placed ++ more)
        (uuids.foldl (fun c uuid => emit layout clients depth uuid c) c) ∧
      ∀ uuid ∈ uuids, Owns clients uuid → uuid ∈ (placed ++ more).map (·.id) := by
  induction uuids generalizing c placed with
  | nil =>
    refine ⟨[], rfl, ?_, fun _ hmem => by cases hmem⟩
    rw [append_nil]
    exact h
  | cons uuid rest ih =>
    obtain ⟨later, first, hlater?, hlater, hfirst, hkept, hemits⟩ := emit?_spread depth uuid h
      (by rw [hvisiting]; exact nodup_nil) (by rw [hvisiting]; intro _ hmem; cases hmem)
      (by omega)
    obtain ⟨more, hrest?, hspread, hrest⟩ := ih hfirst (hkept.trans hvisiting)
    rw [append_assoc] at hspread hrest
    refine ⟨first ++ more, ?_, ?_, fun other hmem howns => ?_⟩
    · rw [foldlM_cons, hlater?, foldl_cons, hlater]
      exact hrest?
    · rw [foldl_cons, hlater]
      exact hspread
    · obtain rfl | hmem := mem_cons.mp hmem
      · have := (hfirst.emitted other).mp (hemits howns)
        rw [← append_assoc, map_append]
        exact mem_append_left _ this
      · exact hrest other hmem howns

lemma le_foldl_rightEdge (nodes : List Node) (start : Int) :
    start ≤ nodes.foldl (fun rightmost node => max rightmost (node.x + node.footprintWidth)) start ∧
      ∀ node ∈ nodes, node.rightEdge ≤
        nodes.foldl (fun rightmost node => max rightmost (node.x + node.footprintWidth)) start := by
  induction nodes generalizing start with
  | nil => exact ⟨le_refl _, fun _ hmem => by cases hmem⟩
  | cons node rest ih =>
    rw [foldl_cons]
    obtain ⟨hstart, hbounded⟩ := ih (max start (node.x + node.footprintWidth))
    refine ⟨(le_max_left _ _).trans hstart, fun other hmem => ?_⟩
    obtain rfl | hmem := mem_cons.mp hmem
    · exact (le_max_right _ _).trans hstart
    · exact hbounded other hmem

lemma spread_initialComposition (layout : Json) (clients : Clients) (baseline : List Node) :
    Spread layout clients baseline [] (initialComposition baseline) where
  nodes := (append_nil _).symm
  laid := .nil
  emitted _ := Iff.rfl
  rightmost _ := le_foldl_rightEdge baseline 0

/-! ## What the laid nodes satisfy -/

section

variable (h : Laid layout clients baseline placed)

include h

lemma Laid.nodup : (placed.map (·.id)).Nodup := by
  induction h with
  | nil => exact nodup_nil
  | snoc before owns fresh stands ih =>
    rw [map_append, nodup_append]
    refine ⟨ih, nodup_singleton _, fun id hid other hother heq => fresh ?_⟩
    rw [heq, mem_singleton.mp hother] at hid
    exact hid

lemma Laid.owns {node : Node} (hmem : node ∈ placed) : Owns clients node.id := by
  induction h with
  | nil => cases hmem
  | snoc before owns fresh stands ih =>
    obtain hmem | hmem := mem_append.mp hmem
    · exact ih hmem
    · rw [mem_singleton.mp hmem]
      exact owns

lemma Laid.stands {before after : List Node}
    {node : Node} (hsplit : placed = before ++ node :: after) :
    Stands layout clients (baseline ++ before) node := by
  induction h generalizing after with
  | nil => exact absurd hsplit.symm (append_ne_nil_of_right_ne_nil _ (cons_ne_nil _ _))
  | @snoc placed last _ _ _ hstands ih =>
    obtain rfl | ⟨rest, final, rfl⟩ := eq_nil_or_concat after
    · obtain ⟨rfl, hlast⟩ := append_inj' hsplit rfl
      cases hlast
      exact hstands
    · rw [concat_eq_append, ← cons_append, ← append_assoc] at hsplit
      exact ih (append_inj' hsplit rfl).1

end

end

/-- `compose_locked` ends for every layout, its calls of `emit` nested no deeper than one
call for each client and one more. It keeps the baseline as a prefix and adds one node for
every owner. Each of these stands beyond 0 and all nodes before it, or relative to the
node of the result that its anchor names. -/
theorem any_layout_composes (layout : Json) (baseline : List Node) (clients : Clients) :
    (∀ depth, clients.length < depth →
      composition? layout baseline clients depth = some (composition layout baseline clients)) ∧
    ∃ placed, composeLocked layout baseline clients = baseline ++ placed ∧
      (placed.map (·.id)).Nodup ∧ (∀ uuid, uuid ∈ placed.map (·.id) ↔ Owns clients uuid) ∧
      ∀ before node after, placed = before ++ node :: after → (PositiveWidths clients →
          0 ≤ node.x ∧ ∀ earlier ∈ baseline ++ before, earlier.rightEdge ≤ node.x) ∨
        ∃ client placement anchor, clients.lookup node.id = some client ∧
          (placementRule layout node.id).2 = some placement ∧
          (composeLocked layout baseline clients).find? (·.id == placement.text "anchor_id") =
            some anchor ∧
          node = placeRelative (ruledNode layout node.id client) anchor placement := by
  obtain ⟨placed, hends, hspread, howners⟩ := foldlM_emit?_spread (clients.length + 1)
    (Nat.lt_succ_self _) (activeIds clients) (spread_initialComposition layout clients baseline) rfl
  refine ⟨fun depth hdepth => ?_, placed, hspread.nodes, hspread.laid.nodup,
    fun uuid => ⟨fun hmem => ?_, fun howns => howners uuid (mem_activeIds howns) howns⟩,
    fun before node after hsplit => ?_⟩
  · induction depth, hdepth using Nat.le_induction with
    | base => exact hends
    | succ depth hdepth ih => exact foldlM_emit?_deeper ih
  · obtain ⟨node, hnode, rfl⟩ := mem_map.mp hmem
    exact hspread.laid.owns hnode
  · cases hspread.laid.stands hsplit with
    | right beyond => exact .inl beyond
    | relative client placement anchor owner rule found placed =>
      refine .inr ⟨client, placement, anchor, owner, rule, ?_, placed⟩
      have hnodes : composeLocked layout baseline clients =
          baseline ++ before ++ node :: after := by
        rw [append_assoc, ← hsplit]
        exact hspread.nodes
      rw [hnodes, find?_append, found]
      rfl

def circularLayout : Json :=
  let beside (anchorId : String) : Json := .object
    [("alignment", .string "start"), ("anchor_id", .string anchorId),
      ("anchor_kind", .string "client"), ("edge", .string "right"), ("gap_px", .integer 0)]
  .object
    [("placements", .object [("phone", beside "tablet"), ("tablet", beside "phone")]),
      ("version", .integer 1)]

theorem any_layout_composes_circular : composition? circularLayout [] phoneThenTablet 3 =
        some (composition circularLayout [] phoneThenTablet) ∧
      (composeLocked circularLayout [] phoneThenTablet).map (fun node => (node.id, node.x)) =
        [("phone", 0), ("tablet", 1920)] :=
  ⟨(any_layout_composes circularLayout [] phoneThenTablet).1 3 (by decide), by decide⟩

end Vibeshine.RemoteDisplay
