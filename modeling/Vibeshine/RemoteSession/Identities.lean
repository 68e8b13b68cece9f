import Vibeshine.RemoteSession.Catalogue

/-! # Identities of the catalogue

The probe for the running game ends with an id of its own, no two rows of a catalogue share
an id, and a request for a row is taken for the row.
-/

namespace Vibeshine.RemoteSession

open List

section

variable {configured : List App}

/-- The applications have ids of their own that are no controls, and with their aliases they
leave room for the controls and the running application. -/
structure Admissible (configured : List App) : Prop where
  ids : ∀ app ∈ configured, configuredAppId app.id = true
  distinct : (configured.map (·.id)).Nodup
  room : configured.length + (configured.flatMap (·.idAliases)).length + 18 < 2 ^ 31 - 1

/-- The id that the running application is advertised with. -/
structure Advertised (configured : List App) (appId id : Int) : Prop where
  ends : ∀ fuel, 2 ^ 31 ≤ fuel → syntheticRunningGameId fuel appId configured = some id
  positive : 0 < id
  bounded : id < 2 ^ 31
  other : id ≠ appId
  uncontrolled : identifyFixed id "" = .none
  unconfigured : ∀ app ∈ configured, app.id ≠ id ∧ toString id ∉ app.idAliases

lemma and_positiveIdMask (n : Nat) : n &&& positiveIdMask = n % 2 ^ 31 :=
  Nat.and_two_pow_sub_one_eq_mod n 31

lemma Admissible.exists_advertised (h : Admissible configured) (appId : Int) :
    ∃ id, Advertised configured appId id := by
  obtain ⟨free, hpos, hfree, hunoccupied⟩ : ∃ free, 1 ≤ free ∧ free ≤ positiveIdMask ∧
      occupied ((appId % 2 ^ 32).toNat &&& positiveIdMask) configured free = false :=
    exists_free h.room
  have hstart : (((appId % 2 ^ 32).toNat &&& positiveIdMask) ^^^ identitySalt) &&& positiveIdMask ≤
      positiveIdMask := Nat.and_le_right
  obtain ⟨found, hfound, hbound, hprobe⟩ := probe_ends hstart hpos hfree hunoccupied
  obtain ⟨hsource, hcontrol, hidentity⟩ := occupied_eq_false.mp hfound
  have hmask : positiveIdMask = 2 ^ 31 - 1 := rfl
  have hcontrol' := hcontrol
  simp only [configuredAppId, Bool.and_eq_true, decide_eq_true_eq, beq_iff_eq] at hcontrol'
  refine ⟨found, fun fuel hfuel => ?_, hcontrol'.1, by omega, fun heq => hsource ?_, hcontrol'.2,
    fun app hmem => ?_⟩
  · unfold syntheticRunningGameId
    dsimp only
    rw [hprobe fuel (by omega)]
    rfl
  · rw [and_positiveIdMask]
    omega
  · have hfree : ¬ (app.id = found ∨ toString (found : Int) ∈ app.idAliases) := fun hshared => by
      rw [configuredIdentity_iff.mpr ⟨app, hmem, hshared⟩] at hidentity
      cases hidentity
    exact not_or.mp hfree

lemma Advertised.configuredAppId {appId id : Int} (h : Advertised configured appId id) :
    configuredAppId id = true := by
  simp [RemoteSession.configuredAppId, h.positive, h.uncontrolled]

lemma Advertised.configuredIdentity {appId id : Int} (h : Advertised configured appId id) :
    configuredIdentity id configured = false := by
  rw [← Bool.not_eq_true, configuredIdentity_iff]
  rintro ⟨app, hmem, hid | halias⟩
  · exact (h.unconfigured app hmem).1 hid
  · exact (h.unconfigured app hmem).2 halias

lemma Advertised.identify {appId id : Int} (h : Advertised configured appId id)
    (happ : 0 < appId) {fuel : Nat} (hfuel : 2 ^ 31 ≤ fuel) :
    identify fuel id "" appId configured = some .runningGame := by
  unfold RemoteSession.identify
  rw [h.uncontrolled, h.configuredIdentity, h.ends fuel hfuel]
  simp [happ]

lemma identify_configured {id runningAppId : Int} {uuid : String} {fuel : Nat}
    (hcontrol : identifyFixed id uuid = .none) (h : configuredIdentity id configured = true) :
    identify fuel id uuid runningAppId configured = some .none := by
  unfold identify
  rw [hcontrol, h]
  simp

/-! ## Rows of a catalogue -/

section

variable (h : Admissible configured)

include h

lemma Admissible.visible_nodup (listed : App → Bool) :
    ((configured.filter listed).map (·.id)).Nodup :=
  h.distinct.sublist (filter_sublist.map _)

lemma Admissible.not_mem_visible (listed : App → Bool) {id : Int}
    (hcontrol : RemoteSession.configuredAppId id = false) :
    id ∉ (configured.filter listed).map (·.id) := by
  intro hmem
  obtain ⟨app, happ, rfl⟩ := mem_map.mp hmem
  rw [h.ids app (mem_of_mem_filter happ)] at hcontrol
  cases hcontrol

lemma Admissible.nodup_append (listed : App → Bool)
    {controls : List App} (hcontrols : (controls.map (·.id)).Nodup)
    (hfixed : ∀ control ∈ controls, configuredAppId control.id = false) :
    ((configured.filter listed ++ controls).map (·.id)).Nodup := by
  rw [map_append, List.nodup_append]
  refine ⟨h.visible_nodup listed, hcontrols, fun id hid other hother heq => ?_⟩
  obtain ⟨control, hcontrol, rfl⟩ := mem_map.mp hother
  exact h.not_mem_visible listed (hfixed control hcontrol) (heq ▸ hid)

lemma Admissible.nodup_running (listed : App → Bool)
    {appId : Int} {running : App} (hrun : Advertised configured appId running.id) :
    (([running, prioritizedSecondaryControl .resume, prioritizedSecondaryControl .terminate] ++
        configured.filter listed ++
        [prioritizedSecondaryControl .input, prioritizedSecondaryControl .monitor]).map
          (·.id)).Nodup := by
  have hperm : List.Perm
      ([running, prioritizedSecondaryControl .resume, prioritizedSecondaryControl .terminate] ++
        configured.filter listed ++
        [prioritizedSecondaryControl .input, prioritizedSecondaryControl .monitor])
      (running :: (configured.filter listed ++
        ([prioritizedSecondaryControl .resume, prioritizedSecondaryControl .terminate] ++
          [prioritizedSecondaryControl .input, prioritizedSecondaryControl .monitor]))) := by
    exact ((perm_append_comm.append_right _).trans
      (List.Perm.of_eq (append_assoc ..))).cons running
  rw [(hperm.map _).nodup_iff, map_cons, nodup_cons]
  refine ⟨fun hmem => ?_, h.nodup_append listed (by decide) (by decide)⟩
  obtain ⟨app, happ, hid⟩ := mem_map.mp hmem
  obtain hlisted | hcontrol := mem_append.mp happ
  · exact (hrun.unconfigured app (mem_of_mem_filter hlisted)).1 hid
  · have hfixed : ∀ control ∈
        [prioritizedSecondaryControl .resume, prioritizedSecondaryControl .terminate] ++
          [prioritizedSecondaryControl .input, prioritizedSecondaryControl .monitor],
        configuredAppId control.id = false := by decide
    have := hfixed app hcontrol
    rw [hid, hrun.configuredAppId] at this
    cases this

lemma Admissible.project (caller : Caller) (game : Game)
    (role : Role) (active : Bool) : ∃ projection, (∀ fuel, 2 ^ 31 ≤ fuel →
        project fuel caller game role configured active = some projection) ∧
      (projection.catalogue.map (·.id)).Nodup ∧
      (role ≠ .monitor → game.running = true → ownsGame caller game = false →
        ∃ tile rest, projection.catalogue = tile :: rest ∧
          Advertised configured game.app.id tile.id) := by
  have hlisted : ((configured.filter (visible configured) ++
      [synthetic .input, synthetic .monitor]).map (·.id)).Nodup :=
    h.nodup_append _ (by decide) (by decide)
  by_cases hmon : role = .monitor
  · refine ⟨{ catalogue := [synthetic .resume, synthetic .disconnectMonitor] }, fun fuel _ => ?_,
      by decide, fun hrole => absurd hmon hrole⟩
    unfold RemoteSession.project
    rw [if_pos hmon]
  cases hrun : game.running with
  | false =>
    refine ⟨{ catalogue := configured.filter (visible configured) ++
      [synthetic .input, synthetic .monitor] }, fun fuel _ => ?_, hlisted, fun _ hgame => ?_⟩
    · have howns : ownsGame caller game = false := by
        unfold ownsGame
        rw [hrun]
        rfl
      unfold RemoteSession.project
      rw [if_neg hmon, howns, hrun]
      split <;> rfl
    · cases hgame
  | true =>
  cases howns : ownsGame caller game with
  | true =>
    refine ⟨{ free := false
              currentGame := game.app.id
              catalogue := configured.filter (visible configured) ++
                [synthetic .input, synthetic .monitor] }, fun fuel _ => ?_, hlisted, nofun⟩
    unfold RemoteSession.project
    rw [if_neg hmon, howns, hrun]
    rfl
  | false =>
    obtain ⟨id, hid⟩ := h.exists_advertised game.app.id
    have hrow : Advertised configured game.app.id
        (control .runningGame id ("     " ++ game.app.title)).id := hid
    refine ⟨{ catalogue :=
        [control .runningGame id ("     " ++ game.app.title),
          prioritizedSecondaryControl .resume, prioritizedSecondaryControl .terminate] ++
          configured.filter (visible configured) ++
          [prioritizedSecondaryControl .input, prioritizedSecondaryControl .monitor] },
      fun fuel hfuel => ?_, h.nodup_running (visible configured) hrow,
      fun _ _ _ => ⟨_, _, rfl, hrow⟩⟩
    unfold RemoteSession.project syntheticRunningGame
    rw [if_neg hmon, howns, hrun, hid.ends fuel hfuel]
    rfl

end

end

/-- With room left, the probe for a running application ends with a positive id that is no
control, no configured id or alias and not the id of the application. Every catalogue has
distinct ids. The advertised id of a positive application leads back to the running game, and
configured ids and aliases that are no controls lead to no control. -/
theorem catalogue_unambiguous (configured : List App) (h : Admissible configured) :
    (∀ appId, ∃ id, Advertised configured appId id ∧ (0 < appId → ∀ fuel, 2 ^ 31 ≤ fuel →
        identify fuel id "" appId configured = some .runningGame)) ∧
    (∀ caller game role active, ∃ projection,
      (∀ fuel, 2 ^ 31 ≤ fuel → project fuel caller game role configured active = some projection) ∧
      (projection.catalogue.map (·.id)).Nodup ∧
      (role ≠ .monitor → game.running = true → ownsGame caller game = false →
        ∃ tile rest, projection.catalogue = tile :: rest ∧
          (0 < game.app.id → ∀ fuel, 2 ^ 31 ≤ fuel →
            identify fuel tile.id "" game.app.id configured = some .runningGame))) ∧
    (∀ app ∈ configured, ∀ fuel runningAppId,
      identify fuel app.id "" runningAppId configured = some .none) ∧
    ∀ app ∈ configured, ∀ id, toString id ∈ app.idAliases → identifyFixed id "" = .none →
      ∀ fuel runningAppId, identify fuel id "" runningAppId configured = some .none := by
  refine ⟨fun appId => ?_, fun caller game role active => ?_, fun app hmem fuel runningAppId => ?_,
    fun app hmem id halias hcontrol fuel runningAppId => ?_⟩
  · obtain ⟨id, hid⟩ := h.exists_advertised appId
    exact ⟨id, hid, fun happ fuel hfuel => hid.identify happ hfuel⟩
  · obtain ⟨projection, hends, hnodup, hsecond⟩ := h.project caller game role active
    refine ⟨projection, hends, hnodup, fun hrole hrun howns => ?_⟩
    obtain ⟨tile, rest, hcatalogue, htile⟩ := hsecond hrole hrun howns
    exact ⟨tile, rest, hcatalogue, fun happ fuel hfuel => htile.identify happ hfuel⟩
  · have hcontrol : identifyFixed app.id "" = .none := by
      have := h.ids app hmem
      simp only [configuredAppId, Bool.and_eq_true, beq_iff_eq] at this
      exact this.2
    exact identify_configured hcontrol (configuredIdentity_iff.mpr ⟨app, hmem, .inl rfl⟩)
  · exact identify_configured hcontrol (configuredIdentity_iff.mpr ⟨app, hmem, .inr halias⟩)

def twoApps : List App := [{ id := 42 }, { id := 1073741866, idAliases := ["1073741867"] }]

theorem catalogue_unambiguous_two :
    Admissible twoApps ∧ identify 5 1073741867 "" 42 twoApps = some .none ∧
      syntheticRunningGameId 5 42 twoApps = some 1073741868 := by
  have h : Admissible twoApps := ⟨by decide, by decide, by decide⟩
  have hmem : { id := 1073741866, idAliases := ["1073741867"] } ∈ twoApps := by decide
  exact ⟨h, (catalogue_unambiguous twoApps h).2.2.2 _ hmem 1073741867 (by decide) (by decide) 5 42,
    by decide⟩

def allIds : List App :=
  ((List.range' 1 positiveIdMask).filter fun (id : Nat) => configuredAppId id).map fun (id : Nat) =>
    { id := id }

lemma probe_allIds (source fuel : Nat) {candidate : Nat} (h : candidate ≤ positiveIdMask) :
    probe source allIds fuel candidate = none := by
  induction fuel generalizing candidate with
  | zero => rfl
  | succ fuel ih =>
    have hoccupied : occupied source allIds candidate = true := by
      by_contra hfree
      rw [Bool.not_eq_true, occupied_eq_false] at hfree
      obtain ⟨-, hcontrol, hidentity⟩ := hfree
      have hpos := (configuredAppId_iff.mp hcontrol).1
      have hlisted : configuredIdentity candidate allIds = true := by
        refine configuredIdentity_iff.mpr ⟨{ id := candidate }, mem_map.mpr
          ⟨candidate, mem_filter.mpr ⟨?_, hcontrol⟩, rfl⟩, .inl rfl⟩
        rw [mem_range'_1]
        omega
      rw [hlisted] at hidentity
      cases hidentity
    unfold probe
    rw [hoccupied, if_pos rfl]
    apply ih
    split
    · decide
    · omega

/-- Fewer ids than positive numbers may leave none for the probe. An application without a
positive id is not led back to, and an alias may be a control. -/
theorem catalogue_limits :
    ((∀ app ∈ allIds, configuredAppId app.id = true) ∧ (allIds.map (·.id)).Nodup ∧
      allIds.length + (allIds.flatMap (·.idAliases)).length < 2 ^ 31 - 1 ∧
      ∀ fuel, syntheticRunningGameId fuel 42 allIds = none) ∧
    (syntheticRunningGameId 5 0 [] = some 1073741824 ∧ identify 5 1073741824 "" 0 [] = some .none) ∧
    identify 5 2147483501 "" 42 [{ id := 7, idAliases := ["2147483501"] }] = some .resume := by
  refine ⟨⟨fun app hmem => ?_, ?_, ?_, fun fuel => ?_⟩, ⟨by decide, by decide⟩, by decide⟩
  · obtain ⟨id, hid, rfl⟩ := mem_map.mp hmem
    exact (mem_filter.mp hid).2
  · unfold allIds
    rw [map_map]
    refine List.Nodup.map (fun first second heq => Int.ofNat_inj.mp heq) ?_
    exact (nodup_range' ..).filter _
  · have haliases : allIds.flatMap (·.idAliases) = [] := by
      apply flatMap_eq_nil_iff.mpr
      intro app hmem
      obtain ⟨id, -, rfl⟩ := mem_map.mp hmem
      rfl
    rw [haliases, length_nil, Nat.add_zero, allIds, length_map]
    have hcontrol : ∃ id ∈ List.range' 1 positiveIdMask, ¬ configuredAppId (id : Nat) = true := by
      refine ⟨2147483501, ?_, by decide⟩
      rw [mem_range'_1]
      decide
    have := length_filter_lt_length_iff_exists.mpr hcontrol
    rwa [length_range'] at this
  · unfold syntheticRunningGameId
    dsimp only
    rw [probe_allIds _ fuel Nat.and_le_right]
    rfl

end Vibeshine.RemoteSession
