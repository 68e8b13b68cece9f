import Vibeshine.AppCatalog.Identities

/-! # Ids that stay

A refresh gives every application an id of its own, and records what the next refresh needs. What
the next one re-derives are the same ids, unless an application with a uuid has no artwork version,
or was given the id that it has without one.
-/

namespace Vibeshine.AppCatalog

open Library List

section

variable {num : Numbering} {fuel : Nat} {app : AppIdentity} {index : Int} {occupied : Finset String}

/-! ## Searching an id -/

lemma unavailableId_eq_false {id : String} : unavailableId num id occupied = false ↔
    usableConfiguredId num id = true ∧ id ∉ occupied := by
  simp [unavailableId]

lemma searchId_free {attempt : Nat} {preferred id : String}
    (h : searchId num app index occupied fuel attempt preferred = some id) :
    unavailableId num id occupied = false := by
  induction fuel generalizing attempt preferred with
  | zero => exact absurd h nofun
  | succ fuel ih =>
    rw [searchId] at h
    split at h
    · exact ih h
    · next hfree =>
        cases h
        simpa using hfree

lemma releasedState_free {state next : AliasState} {changed : Bool}
    (h : releasedState num fuel app index occupied state = some (next, changed)) :
    unavailableId num next.currentId occupied = false := by
  unfold releasedState at h
  dsimp only at h
  split at h
  · obtain ⟨id, hid, hnext⟩ := Option.bind_eq_some_iff.mp h
    cases hnext
    exact searchId_free hid
  · next hfree =>
      cases h
      simpa using hfree

/-! ## One assignment -/

variable {pass : Pass}

/-- What an assignment gives an application. -/
structure Assigned (num : Numbering) (app : AppIdentity) (pass : Pass)
    (given : AppIdentity) (next : Pass) : Prop where
  same : given = { app with id := given.id, aliases := given.aliases }
  usable : usableConfiguredId num given.id = true
  free : given.id ∉ pass.occupied
  occupied : next.occupied = insert given.id pass.occupied
  active : next.active = if app.uuid = "" then pass.active else insert app.uuid pass.active
  plain : app.uuid = "" → given.aliases = app.aliases
  sorted : app.uuid ≠ "" → ∃ aliases : Finset String, given.aliases = aliases.sort
lemma assignCompatibleId_some {given : AppIdentity} {next : Pass}
    (h : assignCompatibleId num fuel app index pass = some (given, next)) :
    Assigned num app pass given next := by
  unfold assignCompatibleId at h
  dsimp only at h
  split at h
  · next huuid =>
      obtain ⟨id, hid, hgiven⟩ := Option.bind_eq_some_iff.mp h
      cases hgiven
      obtain ⟨husable, hoccupied⟩ := unavailableId_eq_false.mp (searchId_free hid)
      exact ⟨rfl, husable, hoccupied, rfl, (if_pos huuid).symm, fun _ => rfl,
        fun hne => absurd huuid hne⟩
  · next huuid =>
      obtain ⟨⟨state, versioned⟩, -, h⟩ := Option.bind_eq_some_iff.mp h
      obtain ⟨⟨final, released⟩, hrel, h⟩ := Option.bind_eq_some_iff.mp h
      cases h
      obtain ⟨husable, hoccupied⟩ := unavailableId_eq_false.mp (releasedState_free hrel)
      exact ⟨rfl, husable, hoccupied, rfl, (if_neg huuid).symm, fun heq => absurd heq huuid,
        fun _ => ⟨final.aliases, rfl⟩⟩

lemma calculateIds_uuid (huuid : app.uuid ≠ "") :
    (calculateIds num app index).1 = numericId num [app.uuid] none := by
  simp only [calculateIds, if_pos huuid]

variable (num) in
/-- An application with a uuid has an artwork version, and not the id that it has without one. -/
def AppIdentity.Versioned (app : AppIdentity) : Prop :=
  app.uuid ≠ "" → app.artVersion ≠ "" ∧ app.id ≠ numericId num [app.uuid] none

lemma assignCompatibleId_again {given : AppIdentity} {next again : Pass} {aliases : Finset String}
    (h : assignCompatibleId num fuel app index pass = some (given, next))
    (hoccupied : again.occupied = pass.occupied) (hrecorded : app.uuid ≠ "" →
      again.persisted.find? app.uuid = some ⟨given.id, app.artVersion, aliases⟩)
    (hversioned : given.Versioned num) :
    assignCompatibleId num fuel app index again =
      some (if app.uuid = "" then given else { given with aliases := aliases.sort },
        { again with
          occupied := next.occupied
          active := if app.uuid = "" then again.active else insert app.uuid again.active }) := by
  have hassigned := assignCompatibleId_some h
  by_cases huuid : app.uuid = ""
  · unfold assignCompatibleId at h ⊢
    simp only [huuid, if_true] at h ⊢
    obtain ⟨id, hid, hgiven⟩ := Option.bind_eq_some_iff.mp h
    cases hgiven
    rw [hoccupied, hid]
    rfl
  · have hfound := hrecorded huuid
    rw [hassigned.same] at hversioned
    obtain ⟨hart, hid⟩ : app.artVersion ≠ "" ∧ given.id ≠ (calculateIds num app index).1 := by
      rw [calculateIds_uuid huuid]
      exact hversioned huuid
    have hnonempty : given.id ≠ "" := by
      intro hempty
      have husable := hassigned.usable
      rw [hempty] at husable
      simp [usableConfiguredId] at husable
    have hstate : restoredState app (calculateIds num app index).1
        (some ⟨given.id, app.artVersion, aliases⟩) =
          (⟨given.id, app.artVersion, aliases⟩, false) := by
      simp [restoredState, hnonempty, hart]
    have hversioned : versionedState num fuel app index again.occupied
        ⟨given.id, app.artVersion, aliases⟩ =
          some (⟨given.id, app.artVersion, aliases⟩, false) := by
      simp [versionedState, hid]
    have hrel : releasedState num fuel app index again.occupied
        ⟨given.id, app.artVersion, aliases⟩ =
          some (⟨given.id, app.artVersion, aliases⟩, false) := by
      have hfree : unavailableId num given.id again.occupied = false :=
        unavailableId_eq_false.mpr ⟨hassigned.usable, hoccupied ▸ hassigned.free⟩
      simp [releasedState, hfree]
    have hsame : again.persisted.assign app.uuid ⟨given.id, app.artVersion, aliases⟩ =
        again.persisted := by
      refine KeyedMap.ext fun key => ?_
      rw [KeyedMap.find?_assign]
      split
      · next hkey => rw [hkey, hfound]
      · rfl
    unfold assignCompatibleId
    simp only [huuid, if_false, hfound, hstate, hversioned, hrel, Option.bind_eq_bind,
      Option.bind_some, hsame]
    rw [hassigned.same, hassigned.occupied, hoccupied]
    simp

/-! ## The assignments of a refresh -/

/-- What the assignments of a refresh give its applications. -/
structure Assignment (num : Numbering) (pass : Pass) (apps : List AppIdentity) (next : Pass) :
    Prop where
  usable : ∀ app ∈ apps, usableConfiguredId num app.id = true
  free : ∀ app ∈ apps, app.id ∉ pass.occupied
  distinct : (apps.map (·.id)).Nodup
  active : ∀ uuid, uuid ∈ next.active ↔ uuid ∈ pass.active ∨ uuid ≠ "" ∧ uuid ∈ apps.map (·.uuid)
  sorted : ∀ app ∈ apps, app.uuid ≠ "" → ∃ aliases : Finset String, app.aliases = aliases.sort

def AppIdentity.given (app : AppIdentity) : AppIdentity := { app with id := "", aliases := [] }

lemma assignAll_cons {apps result : List AppIdentity} {final : Pass}
    (h : assignAll num fuel index (app :: apps) pass = some (result, final)) :
    ∃ first rest middle, assignCompatibleId num fuel app index pass = some (first, middle) ∧
      assignAll num fuel (index + 1) apps middle = some (rest, final) ∧ result = first :: rest := by
  rw [assignAll] at h
  obtain ⟨⟨first, middle⟩, hfirst, h⟩ := Option.bind_eq_some_iff.mp h
  obtain ⟨⟨rest, last⟩, hrest, h⟩ := Option.bind_eq_some_iff.mp h
  cases h
  exact ⟨first, rest, middle, hfirst, hrest, rfl⟩

lemma assignAll_some {apps result : List AppIdentity} {final : Pass}
    (h : assignAll num fuel index apps pass = some (result, final)) :
    Assignment num pass result final ∧ result.map (·.given) = apps.map (·.given) := by
  induction apps generalizing index pass result with
  | nil =>
    cases h
    exact ⟨⟨nofun, nofun, nodup_nil, by simp, nofun⟩, rfl⟩
  | cons app apps ih =>
    obtain ⟨first, rest, middle, hfirst, hrest, rfl⟩ := assignAll_cons h
    have hassigned := assignCompatibleId_some hfirst
    obtain ⟨hall, hgiven⟩ := ih hrest
    have huuid : first.uuid = app.uuid := by rw [hassigned.same]
    have hlater : ∀ other ∈ rest, other.id ≠ first.id ∧ other.id ∉ pass.occupied := by
      intro other hother
      have hfree := hall.free other hother
      rw [hassigned.occupied, Finset.mem_insert, not_or] at hfree
      exact hfree
    refine ⟨⟨?_, ?_, ?_, fun uuid => ?_, ?_⟩, ?_⟩
    · exact forall_mem_cons.mpr ⟨hassigned.usable, hall.usable⟩
    · exact forall_mem_cons.mpr ⟨hassigned.free, fun other hother => (hlater other hother).2⟩
    · refine nodup_cons.mpr ⟨fun hmem => ?_, hall.distinct⟩
      obtain ⟨other, hother, hsame⟩ := mem_map.mp hmem
      exact (hlater other hother).1 hsame
    · rw [hall.active, hassigned.active, map_cons, mem_cons, huuid]
      by_cases hempty : app.uuid = ""
      · rw [if_pos hempty, hempty]
        constructor
        · exact fun hactive => hactive.imp_right fun h => ⟨h.1, .inr h.2⟩
        · exact fun hactive => hactive.imp_right fun h => ⟨h.1, h.2.resolve_left h.1⟩
      · rw [if_neg hempty, Finset.mem_insert]
        constructor
        · rintro ((rfl | hactive) | hrest)
          · exact .inr ⟨hempty, .inl rfl⟩
          · exact .inl hactive
          · exact .inr ⟨hrest.1, .inr hrest.2⟩
        · rintro (hactive | ⟨hne, rfl | hrest⟩)
          · exact .inl (.inr hactive)
          · exact .inl (.inl rfl)
          · exact .inr ⟨hne, hrest⟩
    · exact forall_mem_cons.mpr
        ⟨fun hne => hassigned.sorted (huuid ▸ hne), hall.sorted⟩
    · rw [map_cons, map_cons, hgiven, hassigned.same]
      rfl

lemma assignAll_plain {apps result : List AppIdentity} {final : Pass}
    (h : assignAll num fuel index apps pass = some (result, final))
    (hplain : ∀ app ∈ apps, app.uuid = "" → app.aliases = []) :
    ∀ app ∈ result, app.uuid = "" → app.aliases = [] := by
  induction apps generalizing index pass result with
  | nil =>
    cases h
    exact nofun
  | cons app apps ih =>
    obtain ⟨first, rest, middle, hfirst, hrest, rfl⟩ := assignAll_cons h
    have hassigned := assignCompatibleId_some hfirst
    have huuid : first.uuid = app.uuid := by rw [hassigned.same]
    refine forall_mem_cons.mpr ⟨fun hempty => ?_, ?_⟩
    · rw [hassigned.plain (huuid ▸ hempty), hplain app mem_cons_self (huuid ▸ hempty)]
    · exact ih hrest fun other hother => hplain other (mem_cons_of_mem _ hother)

lemma assignAll_again {apps result : List AppIdentity} {final again : Pass}
    {aliases : String → Finset String}
    (h : assignAll num fuel index apps pass = some (result, final))
    (hoccupied : again.occupied = pass.occupied) (hrecorded : ∀ app ∈ result, app.uuid ≠ "" →
      again.persisted.find? app.uuid = some ⟨app.id, app.artVersion, aliases app.uuid⟩)
    (hversioned : ∀ app ∈ result, app.Versioned num) :
    ∃ active, assignAll num fuel index apps again =
      some (result.map (·.recorded aliases), { again with occupied := final.occupied, active }) := by
  induction apps generalizing index pass result again with
  | nil =>
    cases h
    refine ⟨again.active, ?_⟩
    rw [← hoccupied]
    rfl
  | cons app apps ih =>
    obtain ⟨first, rest, middle, hfirst, hrest, rfl⟩ := assignAll_cons h
    have hassigned := assignCompatibleId_some hfirst
    have huuid : first.uuid = app.uuid := by rw [hassigned.same]
    have hart : first.artVersion = app.artVersion := by rw [hassigned.same]
    have hfound : app.uuid ≠ "" → again.persisted.find? app.uuid =
        some ⟨first.id, app.artVersion, aliases app.uuid⟩ := by
      intro hne
      have hfound := hrecorded first mem_cons_self (huuid ▸ hne)
      rw [huuid, hart] at hfound
      exact hfound
    have hagain := assignCompatibleId_again hfirst hoccupied hfound
      (hversioned first mem_cons_self)
    let later : Pass := { again with
      occupied := middle.occupied
      active := if app.uuid = "" then again.active else insert app.uuid again.active }
    obtain ⟨active, hlater⟩ : ∃ active, assignAll num fuel (index + 1) apps later =
        some (rest.map (·.recorded aliases), { later with occupied := final.occupied, active }) :=
      ih hrest rfl (fun other hother => hrecorded other (mem_cons_of_mem _ hother))
        fun other hother => hversioned other (mem_cons_of_mem _ hother)
    refine ⟨active, ?_⟩
    have hrecordedFirst : first.recorded aliases =
        if app.uuid = "" then first else { first with aliases := (aliases app.uuid).sort } := by
      rw [AppIdentity.recorded, huuid]
    rw [assignAll, hagain]
    simp only [Option.bind_eq_bind, Option.bind_some, map_cons, hrecordedFirst]
    rw [hlater]
    rfl

/-! ## The filter of the aliases -/

section

variable {id : String} {currentIds seen formerIds : List String} {count : String → Nat}

lemma filterAliases_sublist :
    (filterAliases num id currentIds count seen formerIds).1.Sublist formerIds := by
  induction formerIds generalizing seen with
  | nil => exact List.Sublist.refl _
  | cons formerId rest ih =>
    rw [filterAliases]
    split
    · exact ih.cons formerId
    split
    · exact ih.cons formerId
    split
    · exact ih.cons formerId
    · exact ih.cons_cons formerId

/-- What is kept is an id of no application, and an alias of one only. -/
structure Kept (num : Numbering) (id : String) (currentIds : List String) (count : String → Nat)
    (formerId : String) : Prop where
  usable : usableConfiguredId num formerId = true
  former : formerId ≠ id
  fresh : formerId ∉ currentIds
  once : count formerId ≤ 1

lemma filterAliases_kept {formerId : String}
    (h : formerId ∈ (filterAliases num id currentIds count seen formerIds).1) :
    Kept num id currentIds count formerId := by
  induction formerIds generalizing seen with
  | nil => exact absurd h not_mem_nil
  | cons first rest ih =>
    rw [filterAliases] at h
    split at h
    · exact ih h
    split at h
    · exact ih h
    split at h
    · exact ih h
    · next hused _ hshared =>
        obtain rfl | hrest := mem_cons.mp h
        · simp only [Bool.or_eq_true, Bool.not_eq_true', beq_iff_eq, not_or,
            contains_iff_mem, decide_eq_true_eq, not_lt] at hused hshared
          exact ⟨by simpa using hused.1, hused.2, hshared.1, hshared.2⟩
        · exact ih hrest

lemma filterAliases_eq (hkept : ∀ formerId ∈ formerIds, Kept num id currentIds count formerId)
    (hnodup : formerIds.Nodup) (hseen : ∀ formerId ∈ formerIds, formerId ∉ seen) :
    filterAliases num id currentIds count seen formerIds = (formerIds, false) := by
  induction formerIds generalizing seen with
  | nil => rfl
  | cons first rest ih =>
    obtain ⟨hfirst, hrest⟩ := nodup_cons.mp hnodup
    have hgood := hkept first mem_cons_self
    have hlater : filterAliases num id currentIds count (first :: seen) rest = (rest, false) := by
      refine ih (fun other hother => hkept other (mem_cons_of_mem _ hother)) hrest ?_
      intro other hother
      rw [mem_cons, not_or]
      exact ⟨fun heq => hfirst (heq ▸ hother), hseen other (mem_cons_of_mem _ hother)⟩
    have hused : (!usableConfiguredId num first || first == id) = false := by
      simp [hgood.usable, hgood.former]
    have hnew : seen.contains first = false := by
      simpa using hseen first mem_cons_self
    have hshared : (currentIds.contains first || decide (1 < count first)) = false := by
      simpa [hgood.fresh] using hgood.once
    rw [filterAliases]
    simp only [hused, hnew, hshared, Bool.false_eq_true, if_false, hlater]

end

section

variable {apps : List AppIdentity}

@[simp] lemma filteredApp_id : (filteredApp num apps app).id = app.id := by
  unfold filteredApp
  split <;> rfl

@[simp] lemma filteredApp_uuid : (filteredApp num apps app).uuid = app.uuid := by
  unfold filteredApp
  split <;> rfl

@[simp] lemma filteredApp_artVersion : (filteredApp num apps app).artVersion = app.artVersion := by
  unfold filteredApp
  split <;> rfl

@[simp] lemma filteredApp_given : (filteredApp num apps app).given = app.given := by
  unfold filteredApp
  split <;> rfl

lemma filteredApp_sublist : (filteredApp num apps app).aliases.Sublist app.aliases := by
  unfold filteredApp
  split
  · exact List.Sublist.refl _
  · exact filterAliases_sublist

/-- Every id and every alias belongs to one application. -/
structure Unambiguous (num : Numbering) (apps : List AppIdentity) : Prop where
  usable : ∀ app ∈ apps, usableConfiguredId num app.id = true
  ids : (apps.map (·.id)).Nodup
  aliases : (apps.flatMap (·.aliases)).Nodup
  former : ∀ formerId ∈ apps.flatMap (·.aliases),
    usableConfiguredId num formerId = true ∧ formerId ∉ apps.map (·.id)

lemma filtered_ids : (apps.map (filteredApp num apps)).map (·.id) = apps.map (·.id) := by
  rw [map_map]
  exact map_congr_left fun app _ => filteredApp_id

lemma filtered_flatMap_sublist {others : List AppIdentity} :
    ((others.map (filteredApp num apps)).flatMap (·.aliases)).Sublist
      (others.flatMap (·.aliases)) := by
  induction others with
  | nil => exact List.Sublist.refl _
  | cons other others ih =>
    rw [map_cons, flatMap_cons, flatMap_cons]
    exact filteredApp_sublist.append ih

lemma Assignment.unambiguous {final : Pass} (h : Assignment num pass apps final)
    (hplain : ∀ app ∈ apps, app.uuid = "" → app.aliases = []) :
    Unambiguous num (apps.map (filteredApp num apps)) := by
  have hkept : ∀ formerId ∈ (apps.map (filteredApp num apps)).flatMap (·.aliases),
      ∃ id, Kept num id (apps.map (·.id))
        (fun formerId => (apps.flatMap (·.aliases)).count formerId) formerId := by
    intro formerId hformer
    obtain ⟨filtered, hfiltered, hmem⟩ := mem_flatMap.mp hformer
    obtain ⟨app, happ, rfl⟩ := mem_map.mp hfiltered
    refine ⟨app.id, ?_⟩
    unfold filteredApp at hmem
    split at hmem
    · next hempty =>
        rw [hplain app happ hempty] at hmem
        exact absurd hmem not_mem_nil
    · exact filterAliases_kept hmem
  refine ⟨fun filtered hfiltered => ?_, ?_, ?_, fun formerId hformer => ?_⟩
  · obtain ⟨app, happ, rfl⟩ := mem_map.mp hfiltered
    rw [filteredApp_id]
    exact h.usable app happ
  · rw [filtered_ids]
    exact h.distinct
  · refine nodup_iff_count_le_one.mpr fun formerId => ?_
    by_cases hformer : formerId ∈ (apps.map (filteredApp num apps)).flatMap (·.aliases)
    · obtain ⟨id, hgood⟩ := hkept formerId hformer
      exact (filtered_flatMap_sublist.count_le formerId).trans hgood.once
    · rw [count_eq_zero_of_not_mem hformer]
      exact zero_le
  · obtain ⟨id, hgood⟩ := hkept formerId hformer
    rw [filtered_ids]
    exact ⟨hgood.usable, hgood.fresh⟩

lemma Unambiguous.keptAliases (h : Unambiguous num apps) (happ : app ∈ apps) :
    keptAliases num apps app = (app.aliases, false) := by
  have hall : ∀ formerId ∈ app.aliases, formerId ∈ apps.flatMap (·.aliases) :=
    fun formerId hformer => mem_flatMap.mpr ⟨app, happ, hformer⟩
  refine filterAliases_eq (fun formerId hformer => ?_) ?_ fun _ _ => not_mem_nil
  · obtain ⟨husable, hfresh⟩ := h.former formerId (hall formerId hformer)
    refine ⟨husable, fun heq => hfresh (heq ▸ mem_map.mpr ⟨app, happ, rfl⟩), hfresh, ?_⟩
    exact nodup_iff_count_le_one.mp h.aliases formerId
  · exact (nodup_flatMap.mp h.aliases).1 app happ

lemma Unambiguous.filtered_eq (h : Unambiguous num apps) :
    apps.map (filteredApp num apps) = apps := by
  have hsame : ∀ app ∈ apps, filteredApp num apps app = app := by
    intro app happ
    unfold filteredApp
    rw [h.keptAliases happ]
    split <;> rfl
  rw [map_congr_left hsame, map_id']

end

/-! ## What is recorded -/

section

variable {apps : List AppIdentity} {map : KeyedMap String AliasState} {state : AliasState}

def DistinctUuids (apps : List AppIdentity) : Prop :=
  ((apps.map (·.uuid)).filter (· ≠ "")).Nodup

lemma find?_recordApp {key : String} : (recordApp map app).find? key =
    if app.uuid ≠ "" ∧ key = app.uuid then some app.state else map.find? key := by
  unfold recordApp
  by_cases huuid : app.uuid = ""
  · rw [if_pos huuid, if_neg fun h => h.1 huuid]
  · rw [if_neg huuid, KeyedMap.find?_assign]
    simp [huuid]

lemma find?_foldl_recordApp (hdistinct : DistinctUuids apps) {key : String} :
    (apps.foldl recordApp map).find? key = some state ↔
      (∃ app ∈ apps, app.uuid = key ∧ key ≠ "" ∧ app.state = state) ∨
        (key = "" ∨ key ∉ apps.map (·.uuid)) ∧ map.find? key = some state := by
  induction apps generalizing map with
  | nil => simp
  | cons app apps ih =>
    have hrest : DistinctUuids apps := by
      refine List.Nodup.sublist ?_ hdistinct
      exact (sublist_cons_self _ _).filter _
    have hother : app.uuid ≠ "" → app.uuid ∉ apps.map (·.uuid) := by
      intro hne hmem
      have hnodup : (app.uuid :: (apps.map (·.uuid)).filter (· ≠ "")).Nodup := by
        simpa [DistinctUuids, hne] using hdistinct
      exact (nodup_cons.mp hnodup).1 (mem_filter.mpr ⟨hmem, by simpa using hne⟩)
    rw [foldl_cons, ih hrest, find?_recordApp]
    by_cases hkey : app.uuid ≠ "" ∧ key = app.uuid
    · obtain ⟨hne, rfl⟩ := hkey
      rw [if_pos ⟨hne, rfl⟩]
      constructor
      · rintro (⟨other, hmem, hsame, hrest⟩ | ⟨-, hstate⟩)
        · exact .inl ⟨other, mem_cons_of_mem _ hmem, hsame, hrest⟩
        · exact .inl ⟨app, mem_cons_self, rfl, hne, Option.some.inj hstate⟩
      · rintro (⟨other, hmem, hsame, hrest, hstate⟩ | ⟨hempty | hmissing, -⟩)
        · obtain rfl | hmem := mem_cons.mp hmem
          · exact .inr ⟨.inr (hother hne), congrArg some hstate⟩
          · exact .inl ⟨other, hmem, hsame, hrest, hstate⟩
        · exact absurd hempty hne
        · exact absurd mem_cons_self hmissing
    · rw [if_neg hkey]
      constructor
      · rintro (⟨other, hmem, hsame⟩ | ⟨hmissing, hstate⟩)
        · exact .inl ⟨other, mem_cons_of_mem _ hmem, hsame⟩
        · refine .inr ⟨?_, hstate⟩
          by_cases hempty : key = ""
          · exact .inl hempty
          · refine .inr ?_
            rw [map_cons, mem_cons, not_or]
            exact ⟨fun heq => hkey ⟨heq ▸ hempty, heq⟩, hmissing.resolve_left hempty⟩
      · rintro (⟨other, hmem, hsame, hne, hstate⟩ | ⟨hmissing, hstate⟩)
        · obtain rfl | hmem := mem_cons.mp hmem
          · exact absurd ⟨hsame ▸ hne, hsame.symm⟩ hkey
          · exact .inl ⟨other, hmem, hsame, hne, hstate⟩
        · exact .inr ⟨hmissing.imp_right fun hnot hmem =>
            hnot (mem_cons_of_mem _ hmem), hstate⟩

def Records (map : KeyedMap String AliasState) (apps : List AppIdentity) : Prop :=
  ∀ key state, map.find? key = some state ↔
    ∃ app ∈ apps, app.uuid = key ∧ key ≠ "" ∧ app.state = state

lemma Records.foldl (h : Records map apps) : apps.foldl recordApp map = map := by
  have hsame : ∀ others : List AppIdentity, (∀ app ∈ others, app ∈ apps) →
      others.foldl recordApp map = map := by
    intro others hothers
    induction others with
    | nil => rfl
    | cons other others ih =>
      have hrecord : recordApp map other = map := by
        refine KeyedMap.ext fun key => ?_
        rw [find?_recordApp]
        split
        · next hkey =>
            refine ((h key other.state).mpr ⟨other, hothers other mem_cons_self, ?_⟩).symm
            exact ⟨hkey.2.symm, hkey.2 ▸ hkey.1, rfl⟩
        · rfl
      rw [foldl_cons, hrecord]
      exact ih fun app happ => hothers app (mem_cons_of_mem _ happ)
  exact hsame apps fun _ => id

end

/-! ## Resolving -/

section

variable {apps before after : List AppIdentity} {id : String}

lemma trim_usable (h : usableConfiguredId num id = true) : trim id = id ∧ id ≠ "" ∧ id ≠ "0" := by
  simp only [usableConfiguredId, Bool.and_eq_true, decide_eq_true_eq, beq_iff_eq] at h
  obtain ⟨⟨⟨hpos, -⟩, hdigits⟩, -⟩ := h
  have hdigit : ∀ c ∈ id.toList, isSpace c = false := by
    intro c hc
    rw [hdigits] at hc
    have hisDigit := Nat.isDigit_of_mem_toDigits (by omega) (by omega) hc
    rw [Bool.eq_false_iff]
    intro hspace
    simp only [isSpace, Bool.or_eq_true, decide_eq_true_eq, Bool.and_eq_true] at hspace
    simp only [Char.isDigit, Bool.and_eq_true, decide_eq_true_eq] at hisDigit
    obtain rfl | ⟨-, hhigh⟩ := hspace
    · exact absurd hisDigit.1 (by decide)
    · exact absurd (le_trans hisDigit.1 hhigh) (by decide)
  have hdrop : ∀ text : List Char, (∀ c ∈ text, isSpace c = false) →
      text.dropWhile isSpace = text := by
    intro text htext
    cases text with
    | nil => rfl
    | cons c text => rw [dropWhile_cons_of_neg (by simp [htext c mem_cons_self])]
  refine ⟨?_, ?_, ?_⟩
  · have hreverse : ∀ c ∈ id.toList.reverse, isSpace c = false :=
      fun c hc => hdigit c (mem_reverse.mp hc)
    rw [trim, hdrop _ hdigit, hdrop _ hreverse, reverse_reverse, String.ofList_toList]
  · rintro rfl
    exact absurd hpos (by decide)
  · rintro rfl
    exact absurd hpos (by decide)

lemma aliasMatch_none {i : Nat} {found : Option Nat}
    (h : ∀ app ∈ apps, id ∉ app.aliases) : aliasMatch id i found apps = found := by
  induction apps generalizing i with
  | nil => rfl
  | cons app apps ih =>
    have hmissing : app.aliases.contains id = false := by
      simpa using h app mem_cons_self
    rw [aliasMatch, hmissing, if_neg (by decide)]
    exact ih fun other hother => h other (mem_cons_of_mem _ hother)

lemma aliasMatch_unique {i : Nat} (hbefore : ∀ other ∈ before, id ∉ other.aliases)
    (hmem : id ∈ app.aliases) (hafter : ∀ other ∈ after, id ∉ other.aliases) :
    aliasMatch id i none (before ++ app :: after) = some (i + before.length) := by
  induction before generalizing i with
  | nil =>
    have hfound : app.aliases.contains id = true := contains_iff_mem.mpr hmem
    rw [nil_append, aliasMatch, if_pos hfound, aliasMatch_none hafter]
    rfl
  | cons other before ih =>
    have hmissing : other.aliases.contains id = false := by
      simpa using hbefore other mem_cons_self
    rw [cons_append, aliasMatch, hmissing, if_neg (by decide),
      ih fun other hother => hbefore other (mem_cons_of_mem _ hother), length_cons]
    congr 1
    omega

lemma Unambiguous.resolves (h : Unambiguous num (before ++ app :: after)) :
    resolveApp (before ++ app :: after) app.id "" = some before.length ∧ ∀ formerId ∈ app.aliases,
        resolveApp (before ++ app :: after) formerId "" = some before.length := by
  have hmem : app ∈ before ++ app :: after := mem_append_right _ mem_cons_self
  constructor
  · obtain ⟨htrim, hempty, hzero⟩ := trim_usable (h.usable app hmem)
    have hids := h.ids
    rw [map_append, map_cons] at hids
    have hbefore : ∀ other ∈ before, ¬ other.id = app.id := fun other hother heq =>
      (nodup_append.mp hids).2.2 other.id (mem_map.mpr ⟨other, hother, rfl⟩) app.id
        mem_cons_self heq
    have hfind : (before ++ app :: after).findIdx? (·.id = app.id) = some before.length := by
      rw [findIdx?_append, findIdx?_cons]
      have hnone : before.findIdx? (·.id = app.id) = none := by
        rw [findIdx?_eq_none_iff]
        intro other hother
        simpa using hbefore other hother
      simp [hnone]
    simp [resolveApp, htrim, hempty, hzero, hfind]
  · intro formerId hformer
    have hall : formerId ∈ (before ++ app :: after).flatMap (·.aliases) :=
      mem_flatMap.mpr ⟨app, hmem, hformer⟩
    obtain ⟨husable, hfresh⟩ := h.former formerId hall
    obtain ⟨htrim, hempty, hzero⟩ := trim_usable husable
    have hfind : (before ++ app :: after).findIdx? (·.id = formerId) = none := by
      rw [findIdx?_eq_none_iff]
      intro other hother
      simpa using fun heq : other.id = formerId =>
        hfresh (heq ▸ mem_map.mpr ⟨other, hother, rfl⟩)
    have haliases := h.aliases
    rw [flatMap_append, flatMap_cons] at haliases
    obtain ⟨-, hlater, hapart⟩ := nodup_append.mp haliases
    have hbefore : ∀ other ∈ before, formerId ∉ other.aliases := fun other hother hin =>
      hapart formerId (mem_flatMap.mpr ⟨other, hother, hin⟩) formerId
        (mem_append_left _ hformer) rfl
    have hafter : ∀ other ∈ after, formerId ∉ other.aliases := fun other hother hin =>
      (nodup_append.mp hlater).2.2 formerId hformer formerId
        (mem_flatMap.mpr ⟨other, hother, hin⟩) rfl
    have hmatch := aliasMatch_unique (i := 0) hbefore hformer hafter
    simp [resolveApp, htrim, hempty, hzero, hfind, hmatch]

end

/-! ## The next refresh -/

variable {apps final : List AppIdentity} {persisted persisted' : KeyedMap String AliasState}
  {changed : Bool}

lemma refresh_some (h : refresh num fuel apps persisted = some (final, persisted', changed)) :
    ∃ given pass, assignAll num fuel 0 apps { persisted } = some (given, pass) ∧
      final = given.map (filteredApp num given) ∧ persisted' = final.foldl recordApp
        (pass.persisted.filter fun entry => decide (entry.1 ∈ pass.active)) := by
  obtain ⟨⟨given, pass⟩, hassign, hfinal⟩ := Option.bind_eq_some_iff.mp h
  cases hfinal
  exact ⟨given, pass, hassign, rfl, rfl⟩

lemma uuids_of_given {others : List AppIdentity} (h : others.map (·.given) = apps.map (·.given)) :
    others.map (·.uuid) = apps.map (·.uuid) := by
  have hgiven := congrArg (List.map AppIdentity.uuid) h
  simpa [map_map, Function.comp_def, AppIdentity.given] using hgiven

lemma filtered_given {given : List AppIdentity} :
    (given.map (filteredApp num given)).map (·.given) = given.map (·.given) := by
  rw [map_map]
  exact map_congr_left fun app _ => filteredApp_given

lemma refresh_records (hdistinct : DistinctUuids apps)
    (h : refresh num fuel apps persisted = some (final, persisted', changed)) :
    Records persisted' final := by
  obtain ⟨given, pass, hassign, hfinal, rfl⟩ := refresh_some h
  obtain ⟨hall, hgiven⟩ := assignAll_some hassign
  have huuids : final.map (·.uuid) = given.map (·.uuid) :=
    uuids_of_given (hfinal ▸ filtered_given)
  have hfinalDistinct : DistinctUuids final := by
    rw [DistinctUuids, huuids, uuids_of_given hgiven]
    exact hdistinct
  intro key state
  rw [find?_foldl_recordApp hfinalDistinct]
  refine or_iff_left ?_
  rintro ⟨hmissing, hfound⟩
  have hactive := (KeyedMap.find?_filter.mp hfound).2
  rw [decide_eq_true_eq, hall.active] at hactive
  obtain ⟨hne, hmem⟩ := hactive.resolve_left (Finset.notMem_empty _)
  exact hmissing.elim hne fun hnot => hnot (huuids ▸ hmem)

lemma sort_toFinset_sublist {formerIds : List String} {aliases : Finset String}
    (h : formerIds.Sublist aliases.sort) : formerIds.toFinset.sort = formerIds := by
  have hnodup : formerIds.Nodup := (aliases.sort_nodup _).sublist h
  exact (toFinset_sort _ hnodup).mpr ((aliases.pairwise_sort _).sublist h)

/-- The ids are unambiguous and recorded. The next refresh finds the same ones and changes nothing,
if every application with a uuid has an artwork version and an id that depends on it. -/
theorem identities_stable (hdistinct : DistinctUuids apps)
    (hfresh : ∀ app ∈ apps, app.uuid = "" → app.aliases = [])
    (h : refresh num fuel apps persisted = some (final, persisted', changed)) :
    final.map (·.given) = apps.map (·.given) ∧ Unambiguous num final ∧ Records persisted' final ∧
      (∀ before app after, final = before ++ app :: after →
        resolveApp final app.id "" = some before.length ∧
          ∀ formerId ∈ app.aliases, resolveApp final formerId "" = some before.length) ∧
      ((∀ app ∈ final, app.Versioned num) →
        refresh num fuel apps persisted' = some (final, persisted', false)) := by
  obtain ⟨given, pass, hassign, hfinal, hpersisted⟩ := refresh_some h
  obtain ⟨hall, hgiven⟩ := assignAll_some hassign
  have hplain := assignAll_plain hassign hfresh
  have hunambiguous : Unambiguous num final := hfinal ▸ hall.unambiguous hplain
  have hrecs := refresh_records hdistinct h
  refine ⟨by rw [hfinal, filtered_given, hgiven], hunambiguous, hrecs, ?_, ?_⟩
  · rintro before app after rfl
    exact hunambiguous.resolves
  intro hversioned
  have hgivenVersioned : ∀ app ∈ given, app.Versioned num := by
    intro app happ
    have hfiltered := hversioned (filteredApp num given app)
      (hfinal ▸ mem_map.mpr ⟨app, happ, rfl⟩)
    simpa [AppIdentity.Versioned] using hfiltered
  let aliases : String → Finset String := fun uuid =>
    ((persisted'.find? uuid).map (·.aliases)).getD ∅
  have hfound : ∀ app ∈ given, app.uuid ≠ "" →
      persisted'.find? app.uuid = some (filteredApp num given app).state := by
    intro app happ hne
    refine (hrecs app.uuid _).mpr ⟨filteredApp num given app, ?_, filteredApp_uuid, hne, rfl⟩
    rw [hfinal]
    exact mem_map.mpr ⟨app, happ, rfl⟩
  have haliases : ∀ app ∈ given, app.uuid ≠ "" →
      aliases app.uuid = (filteredApp num given app).aliases.toFinset := by
    intro app happ hne
    simp [aliases, hfound app happ hne, AppIdentity.state]
  have hrecorded : ∀ app ∈ given, app.uuid ≠ "" →
      persisted'.find? app.uuid = some ⟨app.id, app.artVersion, aliases app.uuid⟩ := by
    intro app happ hne
    rw [hfound app happ hne, haliases app happ hne]
    simp [AppIdentity.state]
  have hsame : given.map (·.recorded aliases) = final := by
    rw [hfinal]
    refine map_congr_left fun app happ => ?_
    unfold AppIdentity.recorded
    by_cases hempty : app.uuid = ""
    · rw [if_pos hempty, filteredApp, if_pos hempty]
    · obtain ⟨former, hformer⟩ := hall.sorted app happ hempty
      have hsort : (filteredApp num given app).aliases.toFinset.sort =
          (filteredApp num given app).aliases :=
        sort_toFinset_sublist (hformer ▸ filteredApp_sublist)
      rw [if_neg hempty, haliases app happ hempty, hsort, filteredApp, if_neg hempty]
  obtain ⟨active, hagain⟩ : ∃ active, assignAll num fuel 0 apps { persisted := persisted' } =
      some (given.map (·.recorded aliases),
        { persisted := persisted', occupied := pass.occupied, active }) :=
    assignAll_again hassign rfl hrecorded hgivenVersioned
  rw [hsame] at hagain
  obtain ⟨hallAgain, -⟩ := assignAll_some hagain
  have hactive : ∀ entry ∈ persisted'.entries, entry.1 ∈ active := by
    intro entry hentry
    obtain ⟨app, happ, huuid, hne, -⟩ :=
      (hrecs entry.1 entry.2).mp (KeyedMap.mem_entries.mp hentry)
    exact (hallAgain.active entry.1).mpr (.inr ⟨hne, mem_map.mpr ⟨app, happ, huuid⟩⟩)
  have hpruned : persisted'.filter (fun entry => decide (entry.1 ∈ active)) = persisted' := by
    refine KeyedMap.ext fun key => Option.ext fun state => ?_
    rw [KeyedMap.find?_filter, and_iff_left_iff_imp]
    exact fun hfound => by simpa using hactive (key, state) (KeyedMap.mem_entries.mpr hfound)
  have hnone : persisted'.entries.any (fun entry => decide (entry.1 ∉ active)) = false := by
    simpa using fun key state hentry => hactive (key, state) hentry
  have hkept : (final.any fun app => app.uuid ≠ "" && (keptAliases num final app).2) = false := by
    rw [any_eq_false]
    intro app happ
    rw [hunambiguous.keptAliases happ]
    simp
  unfold refresh
  rw [hagain]
  simp only [Option.bind_eq_bind, Option.bind_some, pruneAndFilterAliases, hpruned, hnone, hkept,
    hunambiguous.filtered_eq, hrecs.foldl, Bool.or_false]

end

/-- The checksums of the texts by which an application with the uuid `u` gets its ids. -/
def sampleChecksum (text : String) : Int :=
  if text = "u" then -227710402
  else if text = "u0" then 893956064
  else if text = "u\n" then -213617070
  else if text = "u\n0" then 1900915599
  else if text = "u\ndefault" then -1278258851
  else if text = "u\ndefault0" then -508412615
  else 0

def sampleNumbering : Numbering := ⟨sampleChecksum, fun _ => true⟩

def sampleApp (artVersion : String) : AppIdentity := ⟨"Game", "u", "", artVersion, "", []⟩

/-- Without an artwork version, every refresh takes the recorded one for missing. -/
theorem unversioned_changes : refresh sampleNumbering 1 [sampleApp ""] KeyedMap.empty =
        some ([{ sampleApp "" with id := "227710402" }],
          KeyedMap.empty.assign "u" ⟨"227710402", "", ∅⟩, true) ∧
      refresh sampleNumbering 1 [sampleApp ""] (KeyedMap.empty.assign "u" ⟨"227710402", "", ∅⟩) =
        some ([{ sampleApp "" with id := "227710402" }],
          KeyedMap.empty.assign "u" ⟨"227710402", "", ∅⟩, true) := by
  decide +kernel

/-- With one, the second refresh of an application finds the id of the first. -/
theorem identities_stable_sample : refresh sampleNumbering 1 [sampleApp "default"]
        (KeyedMap.empty.assign "u" ⟨"1278258851", "default", {"227710402"}⟩) =
      some ([{ sampleApp "default" with id := "1278258851", aliases := ["227710402"] }],
        KeyedMap.empty.assign "u" ⟨"1278258851", "default", {"227710402"}⟩, false) := by
  have hrefresh : refresh sampleNumbering 1 [sampleApp "default"] KeyedMap.empty =
      some ([{ sampleApp "default" with id := "1278258851", aliases := ["227710402"] }],
        KeyedMap.empty.assign "u" ⟨"1278258851", "default", {"227710402"}⟩, true) := by
    decide +kernel
  have hversioned : ∀ app ∈ [{ sampleApp "default" with
      id := "1278258851", aliases := ["227710402"] }], app.Versioned sampleNumbering := by
    intro app happ _
    rw [mem_singleton.mp happ]
    exact ⟨by decide, by decide +kernel⟩
  have hdistinct : DistinctUuids [sampleApp "default"] := by
    unfold DistinctUuids
    decide
  exact (identities_stable hdistinct (by decide) hrefresh).2.2.2.2 hversioned

end Vibeshine.AppCatalog
