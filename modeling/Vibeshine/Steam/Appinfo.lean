import Vibeshine.Steam.VdfBinary

/-! # The applications of Steam's cache

`enrich_from_appinfo` walks over the records of `appinfo.vdf`, applies each to the game of its
app id, and finishes the games that got launch metadata.
-/

namespace Vibeshine.Steam

open List

/-! ## The walk over the records -/

/-- A pass of the loop up to its last check: the app id and the size of the record, if the walk
goes on. `behind` counts the bytes from the table on. -/
def header (behind : Nat) (s : Bytes) : Except Stop (Option (Nat × Nat)) :=
  if s.length < behind + 4 then .ok none
  else
    (readU32 s).bind fun appId =>
      if appId.1 = 0 then .ok none
      else if s.length < behind + 68 then .ok none
      else
        (readU32 (s.drop 4)).bind fun size =>
          -- the limit that the size is compared with would wrap
          if s.length < behind + 8 then .error .wild
          else if s.length - behind - 8 < size.1 then .ok none
          else if size.1 < 60 ∨ s.length < behind + 8 + size.1 ∨ 8 + size.1 < 68 then .ok none
          else .ok (some (appId.1, size.1))

/-- `game_t`: where it is installed, which is not assigned here, and the rest. -/
structure Game (π δ : Type) where
  place : π
  details : δ

def appinfoKey : Bytes := [97, 112, 112, 105, 110, 102, 111]

def VdfNode.find? (key : Bytes) : VdfNode → Option VdfNode
  | .node _ children => (children.find? (·.1 = key)).map (·.2)

def manifestId : Nat := 891390

/-- What is applied to a game, the tools that are selected explicitly, each with whether its
configuration is supported, and how a tool is found. -/
structure Enrichment (π δ τ : Type) where
  applyCommonNode : VdfNode → Game π δ → δ
  applyLaunchNode : VdfNode → Bool → Game π δ → δ
  startable : δ → Bool
  clearExecutable : δ → δ
  useProton : τ → δ → δ
  applyProtonMetadata : Game π δ → δ
  overrides : List (Nat × Bytes × Bool)
  resolveExplicitProton : Bytes → VdfNode → (Nat → Option π) → Option τ

/-- The variables of the loop. -/
structure Loop (π δ : Type) where
  games : Nat → Option (Game π δ)
  manifest : VdfNode
  launch : Nat → Option VdfNode

section

variable {π δ τ : Type} (e : Enrichment π δ τ)

def accepted (loop : Loop π δ) (appId : Nat) (parsed : Except Stop VdfNode) : Option VdfNode :=
  if (loop.games appId).isSome ∨ (appId = manifestId ∧ e.overrides ≠ []) then
    match parsed with
    | .error _ => none
    | .ok root => some ((root.find? appinfoKey).getD root)
  else none

def visit (loop : Loop π δ) (appId : Nat) (parsed : Except Stop VdfNode) : Loop π δ :=
  match accepted e loop appId parsed with
  | none => loop
  | some metadata =>
    { games := fun id =>
        if id = appId then
          (loop.games id).map fun game => { game with details := e.applyCommonNode metadata game }
        else loop.games id
      manifest := if appId = manifestId then metadata else loop.manifest
      launch := fun id =>
        if id = appId ∧ (loop.games id).isSome then (loop.launch id).or (some metadata)
        else loop.launch id }

def walk (keys : List Bytes) (behind : Nat) : Nat → Bytes → Loop π δ → Except Stop (Loop π δ)
  | 0, _, _ => .error .wild
  | fuel + 1, s, loop =>
    (header behind s).bind fun found =>
      match found with
      | none => .ok loop
      | some (appId, size) =>
        walk keys behind fuel (s.drop (8 + size))
          (visit e loop appId (parseBinaryVdf (s.drop (8 + size)).length keys (s.drop 68)))

/-- A game with launch metadata, behind the walk. The resolved tools are not stored here: a
tool's name, the manifest and the places of the games determine it. -/
def finishGame (loop : Loop π δ) (id : Nat) (metadata : VdfNode) (game : Game π δ) : δ :=
  match e.overrides.lookup id with
  | none => e.applyProtonMetadata { game with details := e.applyLaunchNode metadata false game }
  | some (name, supported) =>
    let proton :=
      if supported then
        e.resolveExplicitProton name loop.manifest fun id => (loop.games id).map Game.place
      else none
    match proton with
    | none => e.applyLaunchNode (.node [] []) false game
    | some proton =>
      let details := e.applyLaunchNode metadata true game
      if e.startable details then
        e.applyProtonMetadata { game with details := e.useProton proton details }
      else e.clearExecutable details

def finish (loop : Loop π δ) (id : Nat) : Option (Game π δ) :=
  (loop.games id).map fun game =>
    match loop.launch id with
    | none => game
    | some metadata => { game with details := finishGame e loop id metadata game }

def readKeys : Nat → Bytes → Read (List Bytes)
  | 0, s => .ok ([], s)
  | count + 1, s =>
    (readCstring 0 s).bind fun key =>
      (readKeys count key.2).map fun read => (key.1 :: read.1, read.2)

def readTable (data : Bytes) : Except Stop (Option (Nat × List Bytes)) :=
  if data.length < 20 then .ok none
  else
    (readU32 data).bind fun magic =>
      if magic.1 ≠ 0x07564429 then .ok none
      else
        (readU64 (data.drop 8)).bind fun table =>
          if data.length - 4 < table.1 then .ok none
          else
            (readU32 (data.drop table.1)).bind fun count =>
              if count.2.length < count.1 then .ok none
              else
                (readKeys count.1 count.2).map fun keys => some (data.length - table.1, keys.1)

def enrichFromAppinfo (data : Bytes) (games : Nat → Option (Game π δ)) :
    (Nat → Option (Game π δ)) × Option Stop :=
  match readTable data with
  | .error stop => (games, some stop)
  | .ok none => (games, none)
  | .ok (some (behind, keys)) =>
    match walk e keys behind (data.length + 1) (data.drop 16)
        ⟨games, .node [] [], fun _ => none⟩ with
    | .error stop => (games, some stop)
    | .ok loop => (finish e loop, none)

/-! ## The records -/

def found (behind length : Nat) (head : Bytes) : Option (Nat × Nat) :=
  if fromBytes (head.take 4) = 0 ∨ length < behind + 68 ∨ fromBytes (head.drop 4) < 60 ∨
      length < behind + 8 + fromBytes (head.drop 4) then none
  else some (fromBytes (head.take 4), fromBytes (head.drop 4))

lemma found_bounds {behind length appId size : Nat} {head : Bytes}
    (h : found behind length head = some (appId, size)) :
    68 ≤ 8 + size ∧ behind + 8 + size ≤ length := by
  unfold found at h
  split at h
  · cases h
  next hnot =>
    cases h
    omega

lemma header_eq (behind : Nat) (s : Bytes) :
    header behind s = .ok (found behind s.length (s.take 8)) := by
  have hid : (s.take 8).take 4 = s.take 4 := by rw [take_take]; rfl
  have hsize : (s.take 8).drop 4 = (s.drop 4).take 4 := drop_take
  unfold header found readU32 readUnsigned
  rw [hid, hsize]
  generalize fromBytes (s.take 4) = appId
  generalize fromBytes ((s.drop 4).take 4) = size
  by_cases hlong : behind + 68 ≤ s.length
  · have hdrop : ¬ (s.drop 4).length < 4 := by
      rw [length_drop]
      omega
    rw [if_neg (by omega), if_neg (by omega), if_neg hdrop]
    simp only [Except.bind]
    split_ifs <;> first | rfl | omega
  · have hshort : s.length < behind + 68 := by omega
    rw [if_pos (show appId = 0 ∨ s.length < behind + 68 ∨ size < 60 ∨
      s.length < behind + 8 + size from .inr (.inl hshort))]
    split
    · rfl
    · rw [if_neg (by omega)]
      simp only [Except.bind, ite_self]

def records (behind : Nat) : Nat → Bytes → List (Nat × Bytes)
  | 0, _ => []
  | fuel + 1, s =>
    match found behind s.length (s.take 8) with
    | none => []
    | some (appId, size) =>
      (appId, (s.take (8 + size)).drop 68) :: records behind fuel (s.drop (8 + size))

def visitRecord (keys : List Bytes) (loop : Loop π δ) (record : Nat × Bytes) : Loop π δ :=
  visit e loop record.1 (parseBinaryVdf 0 keys record.2)

/-- The walk comes to its end, and looks at each record by its own bytes and the keys. -/
lemma walk_eq (keys : List Bytes) (behind : Nat) {fuel : Nat} {s : Bytes} (hfuel : s.length < fuel)
    (loop : Loop π δ) : walk e keys behind fuel s loop =
      .ok ((records behind fuel s).foldl (visitRecord e keys) loop) := by
  induction fuel generalizing s loop with
  | zero => exact absurd hfuel (Nat.not_lt_zero _)
  | succ fuel ih =>
    unfold walk records
    rw [header_eq]
    cases hfound : found behind s.length (s.take 8) with
    | none => rfl
    | some entry =>
      obtain ⟨appId, size⟩ := entry
      obtain ⟨hgrows, hin⟩ := found_bounds hfound
      have halone : parseBinaryVdf (s.drop (8 + size)).length keys (s.drop 68) =
          parseBinaryVdf 0 keys ((s.take (8 + size)).drop 68) := by
        have hsplit : s.drop 68 = (s.take (8 + size)).drop 68 ++ s.drop (8 + size) := by
          have hlength : 68 ≤ (s.take (8 + size)).length := by
            rw [length_take]
            omega
          rw [← drop_append_of_le_length hlength, take_append_drop]
        rw [hsplit, parseBinaryVdf_alone]
      simp only [Except.bind]
      rw [halone, ih (by rw [length_drop]; omega), foldl_cons]
      rfl

inductive Visits (behind : Nat) : Bytes → Bytes → Prop
  | here (s : Bytes) : Visits behind s s
  | next {s t : Bytes} {appId size : Nat}
      (hfound : found behind s.length (s.take 8) = some (appId, size))
      (h : Visits behind (s.drop (8 + size)) t) : Visits behind s t

lemma Visits.suffix {behind : Nat} {s t : Bytes} (h : Visits behind s t) : t <:+ s := by
  induction h with
  | here s => exact suffix_rfl
  | next _ _ ih => exact ih.trans (drop_suffix _ _)

lemma records_replaced {behind appId fuel : Nat} {s before head payload payload' after : Bytes}
    (h : Visits behind s (head ++ (payload ++ after))) (hs : s = before ++ (head ++ (payload ++ after)))
    (hhead : head.length = 8) (hlength : payload'.length = payload.length) (hfuel : s.length < fuel)
    (hfound : found behind (head ++ (payload ++ after)).length head = some (appId, payload.length)) :
    ∃ former later, records behind fuel s = former ++ (appId, payload.drop 60) :: later ∧
      records behind fuel (before ++ (head ++ (payload' ++ after))) =
        former ++ (appId, payload'.drop 60) :: later := by
  generalize ht : head ++ (payload ++ after) = t at h hs hfound
  induction h generalizing before fuel with
  | here t =>
    obtain rfl : before = [] := append_left_eq_self.mp hs.symm
    cases fuel with
    | zero => exact absurd hfuel (Nat.not_lt_zero _)
    | succ fuel =>
      have hrecs : ∀ body : Bytes, body.length = payload.length →
          records behind (fuel + 1) (head ++ (body ++ after)) =
            (appId, body.drop 60) :: records behind fuel after := by
        intro body hbody
        have hsame : (head ++ (body ++ after)).length = t.length := by
          rw [← ht]
          simp [hbody]
        have hwhole : (head ++ body).length = 8 + payload.length := by simp [hhead, hbody]
        rw [records, take_left' hhead, hsame, hfound]
        dsimp only
        rw [← append_assoc, take_left' hwhole, drop_left' hwhole, drop_append,
          drop_eq_nil_of_le (by omega), hhead]
        simp only [nil_append]
      exact ⟨[], records behind fuel after, ht ▸ hrecs payload rfl, hrecs payload' hlength⟩
  | @next s t appId' size hnext hvisits ih =>
    cases fuel with
    | zero => exact absurd hfuel (Nat.not_lt_zero _)
    | succ fuel =>
      obtain ⟨hgrows, hin⟩ := found_bounds hnext
      obtain ⟨between, hbetween⟩ := hvisits.suffix
      have hfirst : (s.take (8 + size)).length = 8 + size := by
        rw [length_take]
        omega
      have hbefore : before = s.take (8 + size) ++ between := by
        have hall : before ++ t = (s.take (8 + size) ++ between) ++ t := by
          rw [append_assoc, hbetween, take_append_drop, hs]
        exact append_cancel_right hall
      obtain ⟨former, later, hrecs, hreplaced⟩ := ih
        (show (s.drop (8 + size)).length < fuel by rw [length_drop]; omega) ht hbetween.symm hfound
      refine ⟨(appId', (s.take (8 + size)).drop 68) :: former, later, ?_, ?_⟩
      · rw [records, hnext, cons_append, ← hrecs]
      · have hsame : (before ++ (head ++ (payload' ++ after))).length = s.length := by
          rw [hs, ← ht]
          simp [hlength]
        rw [hbefore, append_assoc] at hsame ⊢
        rw [records, hsame, take_append_of_le_length (by omega), take_take,
          show min 8 (8 + size) = 8 by omega, hnext]
        dsimp only
        rw [take_left' hfirst, drop_left' hfirst, hreplaced]
        rfl

/-! ## Games apart from a record -/

/-- Two states of the loop that differ in one game at most, and in the manifest if it is the
manifest's record. -/
structure Apart (appId : Nat) (loop loop' : Loop π δ) : Prop where
  games : ∀ id, id ≠ appId → loop.games id = loop'.games id
  launch : ∀ id, id ≠ appId → loop.launch id = loop'.launch id
  places : ∀ id, (loop.games id).map Game.place = (loop'.games id).map Game.place
  manifest : appId ≠ manifestId → loop.manifest = loop'.manifest

lemma visit_places (loop : Loop π δ) (appId : Nat) (parsed : Except Stop VdfNode) (id : Nat) :
    ((visit e loop appId parsed).games id).map Game.place = (loop.games id).map Game.place := by
  unfold visit
  cases accepted e loop appId parsed with
  | none => rfl
  | some metadata =>
    dsimp only
    split
    · cases loop.games id <;> rfl
    · rfl

lemma visit_frame {loop : Loop π δ} {appId id : Nat} (parsed : Except Stop VdfNode)
    (h : id ≠ appId) : (visit e loop appId parsed).games id = loop.games id ∧
      (visit e loop appId parsed).launch id = loop.launch id := by
  unfold visit
  cases accepted e loop appId parsed with
  | none => exact ⟨rfl, rfl⟩
  | some metadata => exact ⟨if_neg h, if_neg fun h' => h h'.1⟩

lemma visit_manifest {loop : Loop π δ} {appId : Nat} (parsed : Except Stop VdfNode)
    (h : appId ≠ manifestId) : (visit e loop appId parsed).manifest = loop.manifest := by
  unfold visit
  cases accepted e loop appId parsed with
  | none => rfl
  | some metadata => exact if_neg h

variable {e}

lemma Apart.visit {appId : Nat} {loop loop' : Loop π δ} (h : Apart appId loop loop') (visited : Nat)
    {parsed parsed' : Except Stop VdfNode} (hparsed : visited ≠ appId → parsed = parsed') :
    Apart appId (Steam.visit e loop visited parsed) (Steam.visit e loop' visited parsed') := by
  have hplaces : ∀ id, ((Steam.visit e loop visited parsed).games id).map Game.place =
      ((Steam.visit e loop' visited parsed').games id).map Game.place := by
    intro id
    rw [visit_places, visit_places, h.places]
  by_cases hvisited : visited = appId
  · subst hvisited
    refine ⟨fun id hid => ?_, fun id hid => ?_, hplaces, fun hne => ?_⟩
    · rw [(visit_frame e parsed hid).1, (visit_frame e parsed' hid).1, h.games id hid]
    · rw [(visit_frame e parsed hid).2, (visit_frame e parsed' hid).2, h.launch id hid]
    · rw [visit_manifest e parsed hne, visit_manifest e parsed' hne, h.manifest hne]
  · obtain rfl := hparsed hvisited
    have hacc : accepted e loop visited parsed = accepted e loop' visited parsed := by
      unfold accepted
      rw [h.games visited hvisited]
    unfold Steam.visit at hplaces ⊢
    rw [hacc] at hplaces ⊢
    cases hfound : accepted e loop' visited parsed with
    | none => exact h
    | some metadata =>
      rw [hfound] at hplaces
      refine ⟨fun id hid => ?_, fun id hid => ?_, hplaces, fun hne => ?_⟩
      · dsimp only
        rw [h.games id hid]
      · dsimp only
        rw [h.games id hid, h.launch id hid]
      · dsimp only
        rw [h.manifest hne]

lemma Apart.foldl {appId : Nat} {keys : List Bytes} (later : List (Nat × Bytes))
    {loop loop' : Loop π δ} (h : Apart appId loop loop') :
    Apart appId (later.foldl (visitRecord e keys) loop) (later.foldl (visitRecord e keys) loop') := by
  induction later generalizing loop loop' with
  | nil => exact h
  | cons record later ih => exact ih (h.visit record.1 fun _ => rfl)

lemma Apart.finish {appId id : Nat} {loop loop' : Loop π δ} (h : Apart appId loop loop')
    (hid : id ≠ appId) (hmanifest : appId = manifestId → ∀ name, e.overrides.lookup id ≠ some (name, true)) :
    Steam.finish e loop id = Steam.finish e loop' id := by
  have hplaces : (fun id => (loop.games id).map Game.place) =
      fun id => (loop'.games id).map Game.place := funext h.places
  have hgame : ∀ metadata game, finishGame e loop id metadata game =
      finishGame e loop' id metadata game := by
    intro metadata game
    unfold finishGame
    rw [hplaces]
    by_cases happ : appId = manifestId
    · cases hlookup : e.overrides.lookup id with
      | none => rfl
      | some tool =>
        obtain ⟨name, supported⟩ := tool
        cases supported with
        | false => rfl
        | true => exact absurd hlookup (hmanifest happ name)
    · rw [h.manifest happ]
  unfold Steam.finish
  simp only [h.games id hid, h.launch id hid, hgame]

end

/-! ## The law -/

lemma readUnsigned_of_le {width : Nat} {s : Bytes} (h : width ≤ s.length) :
    readUnsigned width s = .ok (fromBytes (s.take width), s.drop width) :=
  if_neg (Nat.not_lt.mpr h)

lemma readKeys_sound (count : Nat) (s : Bytes) : readKeys count s ≠ .error .wild := by
  induction count generalizing s with
  | zero => exact nofun
  | succ count ih =>
    unfold readKeys
    cases hread : readCstring 0 s with
    | error stop =>
      rintro ⟨rfl⟩
      exact (readCstring_sound 0 s).1 hread
    | ok key =>
      cases hkeys : readKeys count key.2 with
      | error stop =>
        simp only [Except.bind, hkeys, Except.map]
        rintro ⟨rfl⟩
        exact ih key.2 hkeys
      | ok keys => simp [Except.bind, hkeys, Except.map]

lemma readTable_sound (data : Bytes) : readTable data ≠ .error .wild := by
  unfold readTable readU32 readU64
  split
  · exact nofun
  next hlength =>
    rw [readUnsigned_of_le (by omega), readUnsigned_of_le (by rw [length_drop]; omega)]
    simp only [Except.bind]
    split
    · exact nofun
    split
    · exact nofun
    next htable =>
      rw [readUnsigned_of_le (by rw [length_drop]; omega)]
      dsimp only
      split
      · exact nofun
      · generalize hkeys : readKeys _ _ = keys
        cases keys with
        | error stop =>
          rintro ⟨rfl⟩
          exact readKeys_sound _ _ hkeys
        | ok keys => exact nofun

/-- The table is read from the header of the file and from what lies behind the records. -/
lemma readTable_congr {data data' : Bytes} {behind : Nat} {keys : List Bytes}
    (h : readTable data = .ok (some (behind, keys))) (hlength : data.length = data'.length)
    (hhead : data.take 16 = data'.take 16)
    (htail : data.drop (data.length - behind) = data'.drop (data.length - behind)) :
    readTable data' = .ok (some (behind, keys)) := by
  have hmagic : data.take 4 = data'.take 4 := by
    have htake := congrArg (List.take 4) hhead
    rwa [take_take, take_take] at htake
  have htable : (data.drop 8).take 8 = (data'.drop 8).take 8 := by
    have hdrop := congrArg (List.drop 8) hhead
    rwa [drop_take, drop_take] at hdrop
  unfold readTable readU32 readU64 at h ⊢
  by_cases hshort : data.length < 20
  · rw [if_pos hshort] at h
    cases h
  rw [if_neg hshort, readUnsigned_of_le (by omega),
    readUnsigned_of_le (by rw [length_drop]; omega)] at h
  rw [← hlength, if_neg hshort, readUnsigned_of_le (by omega),
    readUnsigned_of_le (by rw [length_drop]; omega), ← hmagic, ← htable]
  generalize fromBytes (data.take 4) = magic at h ⊢
  generalize fromBytes ((data.drop 8).take 8) = table at h ⊢
  simp only [Except.bind] at h ⊢
  split at h
  · cases h
  next hgood =>
    rw [if_neg hgood]
    split at h
    · cases h
    next hin =>
      rw [if_neg hin]
      rw [readUnsigned_of_le (by rw [length_drop]; omega)] at h
      dsimp only at h
      split at h
      · cases h
      next hcount =>
        cases hkeys : readKeys (fromBytes ((data.drop table).take 4)) ((data.drop table).drop 4) with
        | error => rw [hkeys] at h; cases h
        | ok read =>
          rw [hkeys] at h
          obtain ⟨rfl, rfl⟩ := Prod.mk.inj (Option.some.inj (Except.ok.inj h))
          rw [show data.length - (data.length - table) = table by omega] at htail
          rw [← htail, readUnsigned_of_le (by rw [length_drop]; omega)]
          dsimp only
          rw [if_neg hcount, hkeys]
          rfl

section

variable {π δ τ : Type} (e : Enrichment π δ τ) (games : Nat → Option (Game π δ))

lemma enrich_of_table {data : Bytes} {behind : Nat} {keys : List Bytes}
    (h : readTable data = .ok (some (behind, keys))) : enrichFromAppinfo e data games =
      (finish e ((records behind (data.length + 1) (data.drop 16)).foldl (visitRecord e keys)
        ⟨games, .node [] [], fun _ => none⟩), none) := by
  rw [enrichFromAppinfo, h]
  dsimp only
  rw [walk_eq e keys behind (by rw [length_drop]; omega)]

/-- A game other than the record's keeps what it gets, unless it needs the manifest that the
record holds. -/
lemma enrich_apart {behind appId id : Nat} {keys : List Bytes}
    {before head payload payload' after : Bytes}
    (htable : readTable (before ++ (head ++ (payload ++ after))) = .ok (some (behind, keys)))
    (hvisits : Visits behind ((before ++ (head ++ (payload ++ after))).drop 16)
      (head ++ (payload ++ after))) (hbefore : 16 ≤ before.length) (hhead : head.length = 8)
    (hlength : payload'.length = payload.length)
    (hfound : found behind (head ++ (payload ++ after)).length head = some (appId, payload.length))
    (hid : id ≠ appId)
    (hmanifest : appId = manifestId → ∀ name, e.overrides.lookup id ≠ some (name, true)) :
    (enrichFromAppinfo e (before ++ (head ++ (payload ++ after))) games).1 id =
      (enrichFromAppinfo e (before ++ (head ++ (payload' ++ after))) games).1 id := by
  obtain ⟨-, hin⟩ := found_bounds hfound
  simp only [length_append, hhead] at hin
  have htable' : readTable (before ++ (head ++ (payload' ++ after))) = .ok (some (behind, keys)) := by
    apply readTable_congr htable
    · simp [hlength]
    · rw [take_append_of_le_length hbefore, take_append_of_le_length hbefore]
    · -- the table begins in `after`
      have hdrop : ∀ body : Bytes, body.length = payload.length →
          (before ++ (head ++ (body ++ after))).drop
            ((before ++ (head ++ (payload ++ after))).length - behind) =
          after.drop (after.length - behind) := by
        intro body hbody
        have hfront : (before ++ (head ++ (payload ++ after))).length - behind =
            (before ++ (head ++ body)).length + (after.length - behind) := by
          simp only [length_append, hhead, hbody]
          omega
        have hall : before ++ (head ++ (body ++ after)) = (before ++ (head ++ body)) ++ after := by
          simp
        rw [hfront, hall, drop_length_add_append]
      rw [hdrop payload rfl, hdrop payload' hlength]
  have hsplit : (before ++ (head ++ (payload ++ after))).drop 16 =
      before.drop 16 ++ (head ++ (payload ++ after)) := drop_append_of_le_length hbefore
  have hfuel : ((before ++ (head ++ (payload ++ after))).drop 16).length <
      (before ++ (head ++ (payload ++ after))).length + 1 := by
    rw [length_drop]
    omega
  obtain ⟨former, later, hrecs, hreplaced⟩ :=
    records_replaced hvisits hsplit hhead hlength hfuel hfound
  have hsame : (before ++ (head ++ (payload' ++ after))).length =
      (before ++ (head ++ (payload ++ after))).length := by simp [hlength]
  rw [enrich_of_table e games htable, enrich_of_table e games htable', hrecs, hsame,
    drop_append_of_le_length hbefore, hreplaced, foldl_append, foldl_append,
    foldl_cons, foldl_cons]
  generalize former.foldl (visitRecord e keys) _ = loop
  have happart : Apart appId loop loop := ⟨fun _ _ => rfl, fun _ _ => rfl, fun _ => rfl, fun _ => rfl⟩
  exact ((happart.visit appId fun hne => absurd rfl hne).foldl later).finish hid hmanifest

/-- What holds of the cache, whatever the bytes of its file. -/
structure AppinfoLaw (data : Bytes) : Prop where
  inside : (enrichFromAppinfo e data games).2 ≠ some .wild
  grows : ∀ behind s appId size, header behind s = .ok (some (appId, size)) →
    68 ≤ 8 + size ∧ behind + 8 + size ≤ s.length
  walks : ∀ keys behind loop, walk e keys behind (data.length + 1) (data.drop 16) loop =
    .ok ((records behind (data.length + 1) (data.drop 16)).foldl (visitRecord e keys) loop)
  alone : ∀ keys front behind,
    parseBinaryVdf (List.length behind) keys (front ++ behind) = parseBinaryVdf 0 keys front
  rejected : ∀ loop appId stop, visit e loop appId (.error stop) = loop
  apart : ∀ before head payload payload' after behind keys appId,
    data = before ++ (head ++ (payload ++ after)) → readTable data = .ok (some (behind, keys)) →
    16 ≤ before.length → Visits behind (data.drop 16) (head ++ (payload ++ after)) →
    List.length head = 8 → List.length payload' = List.length payload →
    found behind (head ++ (payload ++ after)).length head = some (appId, payload.length) →
    ∀ id, id ≠ appId → (appId = manifestId → ∀ name, e.overrides.lookup id ≠ some (name, true)) →
      (enrichFromAppinfo e data games).1 id =
        (enrichFromAppinfo e (before ++ (head ++ (payload' ++ after))) games).1 id
  malformed : (∀ table, readTable data ≠ .ok (some table)) →
    (enrichFromAppinfo e data games).1 = games
  encoded : ∀ keys children text, Encodes keys children text →
    parseBinaryVdf 0 keys text = .ok (.node [] children)

theorem appinfo_law (data : Bytes) : AppinfoLaw e games data where
  inside := by
    cases htable : readTable data with
    | error stop =>
      simp only [enrichFromAppinfo, htable]
      rintro ⟨rfl⟩
      exact readTable_sound data htable
    | ok table =>
      cases table with
      | none => simp [enrichFromAppinfo, htable]
      | some table => simp [enrich_of_table e games htable]
  grows behind s appId size h := by
    rw [header_eq] at h
    exact found_bounds (Except.ok.inj h)
  walks keys behind loop := walk_eq e keys behind (by rw [length_drop]; omega) loop
  alone keys front behind := parseBinaryVdf_alone behind front
  rejected loop appId stop := by
    unfold visit accepted
    simp
  apart before head payload payload' after behind keys appId hdata htable hbefore hvisits hhead
      hlength hfound id hid hmanifest := by
    subst hdata
    exact enrich_apart e games htable hvisits hbefore hhead hlength hfound hid hmanifest
  malformed h := by
    unfold enrichFromAppinfo
    split
    · rfl
    · rfl
    next heq => exact absurd heq (h _)
  encoded keys children text h := parseBinaryVdf_encoded h

end

/-! ## The app id of a record -/

def commonKey : Bytes := [99, 111, 109, 109, 111, 110]

def nameKey : Bytes := [110, 97, 109, 101]

/-- A record whose common node has a name of one letter. -/
def namedRecord (appId letter : UInt8) : Bytes :=
  [appId, 0, 0, 0, 74, 0, 0, 0] ++ List.replicate 60 0 ++
    [0, 0, 0, 0, 0, 1, 1, 0, 0, 0, letter, 0, 8, 8]

def twoRecords (first : UInt8) : Bytes :=
  [0x29, 0x44, 0x56, 0x07, 0, 0, 0, 0, 180, 0, 0, 0, 0, 0, 0, 0] ++ namedRecord first 65 ++
    namedRecord 2 66 ++ [2, 0, 0, 0] ++ commonKey ++ [0] ++ nameKey ++ [0]

def naming : Enrichment Unit Bytes Unit where
  applyCommonNode root game :=
    match (root.find? commonKey).bind (VdfNode.find? nameKey) with
    | some (.node name _) => name
    | none => game.details
  applyLaunchNode _ _ game := game.details
  startable _ := true
  clearExecutable details := details
  useProton _ details := details
  applyProtonMetadata game := game.details
  overrides := []
  resolveExplicitProton _ _ _ := none

def secondGame (id : Nat) : Option (Game Unit Bytes) := if id = 2 then some ⟨(), []⟩ else none

/-- The app id of a record, where it becomes 0, ends the walk before the game behind it. -/
theorem app_id_ends_walk :
    (twoRecords 1).take 16 = (twoRecords 0).take 16 ∧ (twoRecords 1).drop 20 = (twoRecords 0).drop 20 ∧
      ((enrichFromAppinfo naming (twoRecords 1) secondGame).1 2).map Game.details = some [66] ∧
      ((enrichFromAppinfo naming (twoRecords 0) secondGame).1 2).map Game.details = some [] := by
  decide +kernel

end Vibeshine.Steam
