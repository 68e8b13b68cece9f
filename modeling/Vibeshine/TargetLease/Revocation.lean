import Vibeshine.TargetLease.Exclusion
import Mathlib.Algebra.Order.Ring.Nat
import Mathlib.Data.List.Perm.Basic

/-! # Revoked and released leases

Three records order the generations of a client: the newest one it presented,
the newest one that was released, and the one its owner holds. They only
advance, and a publication is checked against all of them, so an acquisition
that was in flight during a revocation cannot bring the lease back.

`release` looks at published owners only. It settles the released generation
where the client has an owner of that generation, or where newer records already
stand above it; an acquisition in flight is not covered otherwise.
-/

namespace Vibeshine.TargetLease

open List Function Registry

/-! ## Records -/

/-- How the three records of a client stand to each other. -/
structure Levels (r : Registry) : Prop where
  started : ∀ a ∈ r.admissions, 0 < a.generation ∧ a.client ≠ ""
  owned : ∀ client owner, r.owners client = some owner →
    owner.generation ≤ r.observed client ∧ r.isReleased client owner.generation = false
  bounded : ∀ client limit, r.released client = some limit → limit ≤ r.observed client

/-- The records of a later state. -/
structure Advances (r later : Registry) : Prop where
  observed : ∀ client, r.observed client ≤ later.observed client
  released : ∀ client generation, r.isReleased client generation = true →
    later.isReleased client generation = true
  closed : r.closed = true → later.closed = true
  uncertain : r.uncertain = true → later.uncertain = true
  fenced : r.permanentFence = true → later.permanentFence = true

def Input.Silent : Input → Prop
  | .acquire .. | .publish .. | .releaseMonitor .. | .legacyReturn .. | .revoke .. | .shutdown =>
    False
  | _ => True

namespace Registry

variable {r : Registry}

lemma isReleased_iff {client : String} {generation : Nat} : r.isReleased client generation = true ↔
      ∃ limit, r.released client = some limit ∧ generation ≤ limit := by
  unfold isReleased
  cases r.released client <;> simp

lemma acquire_log (r : Registry) (client : String) (generation : Nat) (target : Descriptor)
    (mode : Mode) : (r.acquire client generation target mode).log =
      .presented client generation (wellFormed client generation target mode) :: r.log := by
  unfold acquire
  rcases admitRequest_cases (r.record _) client generation target mode with
    hsame | ⟨-, -, -, -, hnoted | ⟨-, hadm⟩⟩
  · rw [hsame]; rfl
  · rw [hnoted]; rfl
  · rw [hadm]
    unfold protect
    split <;> rfl

lemma releaseMonitor_log (r : Registry) (client : String) (generation : Nat) :
    (r.releaseMonitor client generation).log = r.log ∨
      (r.releaseMonitor client generation).log = .released client generation :: r.log := by
  unfold releaseMonitor release
  cases r.owners client with
  | none =>
    cases r.isReleased client generation
    · exact .inl rfl
    · exact .inr rfl
  | some owner =>
    right
    by_cases hstale : generation ≠ owner.generation
    · simp only [if_pos hstale]
      rfl
    · simp only [if_neg hstale]
      rfl

lemma legacyReturn_log (r : Registry) (index : Nat) (result : Bool) :
    (r.legacyReturn index result).log = r.log ∨ ∃ call, r.delegated[index]? = some call ∧
        (r.legacyReturn index result).log = .released call.1 call.2 :: r.log := by
  unfold legacyReturn
  split
  · exact .inl rfl
  · next call hcall =>
    cases result
    · exact .inl rfl
    · exact .inr ⟨call, hcall, rfl⟩

lemma step_log_of_silent (r : Registry) (input : Input) (h : input.Silent) :
    (r.step input).log = r.log := by
  cases input with
  | snapshot client generation =>
    dsimp only [step, snapshot]
    split
    · rfl
    · split <;> rfl
  | beginMutation thread =>
    dsimp only [step, beginMutation]
    split <;> rfl
  | endMutation index =>
    dsimp only [step, endMutation]
    split <;> rfl
  | completionUnknown | fenceUnknownRelease | copyToken | dropToken | destroyHold => rfl
  | acquire | publish | releaseMonitor | legacyReturn | revoke | shutdown => exact absurd h id

end Registry

lemma Advances.rfl {r : Registry} : Advances r r :=
  ⟨fun _ => le_refl _, fun _ _ => id, id, id, id⟩

namespace Levels

variable {r : Registry}

section

variable (h : Levels r)

include h

lemma observed_of_released {client : String} {generation : Nat}
    (hrel : r.isReleased client generation = true) : generation ≤ r.observed client := by
  obtain ⟨limit, hlimit, hle⟩ := isReleased_iff.mp hrel
  exact hle.trans (h.bounded client limit hlimit)

lemma below_owner {client : String} {owner : Owner} {generation : Nat}
    (howner : r.owners client = some owner) (hrel : r.isReleased client generation = true) :
    generation < owner.generation := by
  by_contra hle
  obtain ⟨limit, hlimit, hbound⟩ := isReleased_iff.mp hrel
  have : r.isReleased client owner.generation = true :=
    isReleased_iff.mpr ⟨limit, hlimit, by omega⟩
  rw [(h.owned client owner howner).2] at this
  cases this

lemma acquire (client : String) (generation : Nat) (target : Descriptor)
    (mode : Mode) : Levels (r.acquire client generation target mode) ∧
      Advances r (r.acquire client generation target mode) := by
  set recorded := r.record (.presented client generation (wellFormed client generation target mode))
  have hrecorded : Levels recorded := ⟨h.started, h.owned, h.bounded⟩
  show Levels (recorded.admitRequest client generation target mode) ∧
    Advances r (recorded.admitRequest client generation target mode)
  rcases recorded.admitRequest_cases client generation target mode with
    hsame | ⟨-, hformed, hobs, -, hnoted⟩
  · rw [hsame]
    exact ⟨hrecorded, ⟨fun _ => le_refl _, fun _ _ => id, id, id, id⟩⟩
  · have hpos : 0 < generation ∧ client ≠ "" := by
      simp only [wellFormed, Bool.not_eq_true', Bool.or_eq_false_iff, beq_eq_false_iff_ne] at hformed
      obtain ⟨⟨⟨⟨⟨hclient, hgeneration⟩, -⟩, -⟩, -⟩, -⟩ := hformed
      refine ⟨by omega, ?_⟩
      rintro rfl
      simp at hclient
    have hobserves : ∀ other,
        r.observed other ≤ Function.update r.observed client generation other := by
      intro other
      by_cases hother : other = client
      · subst hother
        rw [update_self]
        exact hobs
      · rw [update_of_ne hother]
    have howned : ∀ other owner, r.owners other = some owner →
        owner.generation ≤ Function.update r.observed client generation other ∧
          r.isReleased other owner.generation = false := fun other owner howner =>
      ⟨(h.owned other owner howner).1.trans (hobserves other), (h.owned other owner howner).2⟩
    have hbounded : ∀ other limit, r.released other = some limit →
        limit ≤ Function.update r.observed client generation other := fun other limit hlimit =>
      (h.bounded other limit hlimit).trans (hobserves other)
    rcases hnoted with hnoted | ⟨-, hadm⟩
    · rw [hnoted]
      exact ⟨⟨h.started, howned, hbounded⟩, ⟨hobserves, fun _ _ => id, id, id, id⟩⟩
    · rw [hadm]
      have hstarted : ∀ hold previous, ∀ a ∈ r.admissions ++
          [⟨client, generation, target, mode, hold, previous⟩], 0 < a.generation ∧ a.client ≠ "" := by
        intro hold previous a hmem
        rcases mem_append.mp hmem with hmem | hmem
        · exact h.started a hmem
        · rw [mem_singleton.mp hmem]
          exact hpos
      unfold protect
      split
      · exact ⟨⟨hstarted _ _, howned, hbounded⟩, ⟨hobserves, fun _ _ => id, id, id, id⟩⟩
      · exact ⟨⟨hstarted _ _, howned, hbounded⟩, ⟨hobserves, fun _ _ => id, id, id, id⟩⟩

lemma install {a : Admission} (hcur : r.superseded a = false)
    (output : String) : Levels (r.install a output) := by
  obtain ⟨-, hobs, hrel, -⟩ := superseded_eq_false hcur
  refine ⟨h.started, fun client owner howner => ?_, h.bounded⟩
  dsimp only [Registry.install] at howner
  by_cases hclient : client = a.client
  · subst hclient
    rw [update_self] at howner
    cases howner
    exact ⟨le_of_eq hobs.symm, hrel⟩
  · rw [update_of_ne hclient] at howner
    exact h.owned client owner howner

lemma publish (index : Nat) (observation : Option Observation) :
    Levels (r.publish index observation) ∧ Advances r (r.publish index observation) := by
  unfold Registry.publish
  split
  · exact ⟨h, .rfl⟩
  · next a ha =>
    have hdropped : Levels { r with admissions := r.admissions.eraseIdx index } :=
      ⟨fun b hmem => h.started b (mem_of_mem_eraseIdx hmem), h.owned, h.bounded⟩
    rcases settle_cases _ a observation with hsame | ⟨hcur, output, hinstalled⟩
    · rw [hsame]
      exact ⟨hdropped, ⟨fun _ => le_refl _, fun _ _ => id, id, id, id⟩⟩
    · rw [hinstalled]
      exact ⟨hdropped.install hcur output, ⟨fun _ => le_refl _, fun _ _ => id, id, id, id⟩⟩

lemma retire {client : String} {limit : Nat} {log : List Event} (hlimit : limit ≤ r.observed client)
    (hadv : ∀ generation, r.isReleased client generation = true → generation ≤ limit) :
    Levels { r with
      released := Function.update r.released client (some limit)
      owners := Function.update r.owners client none
      log := log } ∧
    Advances r { r with
      released := Function.update r.released client (some limit)
      owners := Function.update r.owners client none
      log := log } := by
  refine ⟨⟨h.started, fun other owner howner => ?_, fun other bound hbound => ?_⟩,
    ⟨fun _ => le_refl _, fun other generation hrel => ?_, id, id, id⟩⟩
  · have hother : other ≠ client := by
      rintro rfl
      dsimp only at howner
      rw [update_self] at howner
      cases howner
    dsimp only at howner
    rw [update_of_ne hother] at howner
    simpa [isReleased, update_of_ne hother] using h.owned other owner howner
  · dsimp only at hbound
    by_cases hother : other = client
    · subst hother
      rw [update_self] at hbound
      cases hbound
      exact hlimit
    · rw [update_of_ne hother] at hbound
      exact h.bounded other bound hbound
  · by_cases hother : other = client
    · subst hother
      simpa [isReleased] using hadv generation hrel
    · simpa [isReleased, update_of_ne hother] using hrel

lemma releaseMonitor (client : String) (generation : Nat) :
    Levels (r.releaseMonitor client generation) ∧
      Advances r (r.releaseMonitor client generation) := by
  unfold Registry.releaseMonitor Registry.release
  cases howner : r.owners client with
  | none =>
    dsimp only
    cases r.isReleased client generation <;>
      exact ⟨⟨h.started, h.owned, h.bounded⟩, ⟨fun _ => le_refl _, fun _ _ => id, id, id, id⟩⟩
  | some owner =>
    dsimp only
    by_cases hgeneration : generation ≠ owner.generation
    · rw [if_pos hgeneration]
      exact ⟨⟨h.started, h.owned, h.bounded⟩, ⟨fun _ => le_refl _, fun _ _ => id, id, id, id⟩⟩
    · rw [if_neg hgeneration]
      rw [not_not] at hgeneration
      subst hgeneration
      exact h.retire (h.owned client owner howner).1 fun other hrel =>
        Nat.le_of_lt (h.below_owner howner hrel)

lemma legacyReturn (index : Nat) (result : Bool) :
    Levels (r.legacyReturn index result) ∧ Advances r (r.legacyReturn index result) := by
  unfold Registry.legacyReturn
  split
  · exact ⟨h, .rfl⟩
  · dsimp only
    split <;>
      exact ⟨⟨h.started, h.owned, h.bounded⟩, ⟨fun _ => le_refl _, fun _ _ => id, id, id, id⟩⟩

end

lemma revoke_limit (r : Registry) (client : String) : ∃ limit,
    (r.released client).getD 0 ≤ limit ∧ r.observed client ≤ limit ∧
      (Levels r → limit ≤ r.observed client) ∧ r.revoke client = { r with
          released := Function.update r.released client (some limit)
          owners := Function.update r.owners client none
          log := .revoked client :: r.log } := by
  have hbound : Levels r → (r.released client).getD 0 ≤ r.observed client := by
    intro h
    cases hrel : r.released client with
    | none => exact Nat.zero_le _
    | some limit => exact h.bounded client limit hrel
  unfold revoke
  cases howner : r.owners client with
  | none => exact ⟨_, Nat.le_max_left _ _, Nat.le_max_right _ _, fun h => by simp [hbound h], rfl⟩
  | some owner =>
    refine ⟨_, ?_, ?_, fun h => ?_, rfl⟩
    · exact (Nat.le_max_left _ _).trans (Nat.le_max_left _ _)
    · exact (Nat.le_max_right _ _).trans (Nat.le_max_left _ _)
    · simp [hbound h, (h.owned client owner howner).1]

lemma revoke (h : Levels r) (client : String) :
    Levels (r.revoke client) ∧ Advances r (r.revoke client) := by
  obtain ⟨limit, hrel, -, hobs, hrevoked⟩ := revoke_limit r client
  rw [hrevoked]
  refine h.retire (hobs h) fun generation hbefore => ?_
  obtain ⟨bound, hbound, hle⟩ := isReleased_iff.mp hbefore
  rw [hbound] at hrel
  exact hle.trans hrel

lemma shutdown (h : Levels r) : Levels r.shutdown ∧ Advances r r.shutdown := by
  refine ⟨⟨h.started, fun _ _ howner => (by cases howner), fun client limit hlimit => ?_⟩,
    ⟨fun _ => le_refl _, fun client generation hrel => ?_, fun _ => by rfl, id, id⟩⟩
  · dsimp only [Registry.shutdown] at hlimit
    cases howner : r.owners client with
    | none =>
      rw [howner] at hlimit
      exact h.bounded client limit hlimit
    | some owner =>
      rw [howner] at hlimit
      cases hlimit
      exact (h.owned client owner howner).1
  · cases howner : r.owners client with
    | none => simpa [Registry.isReleased, Registry.shutdown, howner] using hrel
    | some owner =>
      have := Nat.le_of_lt (h.below_owner howner hrel)
      simpa [Registry.isReleased, Registry.shutdown, howner] using this

lemma step (h : Levels r) (input : Input) : Levels (r.step input) ∧ Advances r (r.step input) := by
  have hkept : Levels r ∧ Advances r r := ⟨h, .rfl⟩
  cases input with
  | acquire client generation target mode => exact h.acquire client generation target mode
  | publish index observation => exact h.publish index observation
  | releaseMonitor client generation => exact h.releaseMonitor client generation
  | legacyReturn index result => exact h.legacyReturn index result
  | revoke client => exact h.revoke client
  | shutdown => exact h.shutdown
  | snapshot client generation =>
    show Levels (r.snapshot client generation) ∧ Advances r (r.snapshot client generation)
    unfold snapshot
    split
    · exact hkept
    · split
      · exact ⟨⟨h.started, h.owned, h.bounded⟩, ⟨hkept.2.observed, hkept.2.released, id, id, id⟩⟩
      · exact hkept
  | beginMutation thread =>
    show Levels (r.beginMutation thread) ∧ Advances r (r.beginMutation thread)
    unfold beginMutation
    split
    · exact hkept
    · exact ⟨⟨h.started, h.owned, h.bounded⟩, ⟨hkept.2.observed, hkept.2.released, id, id, id⟩⟩
  | endMutation index =>
    show Levels (r.endMutation index) ∧ Advances r (r.endMutation index)
    unfold endMutation
    dsimp only
    split <;>
      exact ⟨⟨h.started, h.owned, h.bounded⟩, ⟨hkept.2.observed, hkept.2.released, id, id, id⟩⟩
  | completionUnknown | fenceUnknownRelease =>
    exact ⟨⟨h.started, h.owned, h.bounded⟩,
      ⟨hkept.2.observed, hkept.2.released, id, fun _ => rfl, fun hfenced => by first | rfl | exact hfenced⟩⟩
  | copyToken | dropToken | destroyHold =>
    exact ⟨⟨h.started, h.owned, h.bounded⟩, ⟨hkept.2.observed, hkept.2.released, id, id, id⟩⟩

lemma init : Levels {} where
  started := fun _ hmem => by cases hmem
  owned := fun _ _ howner => by cases howner
  bounded := fun _ _ hlimit => by cases hlimit

end Levels

/-! ## History -/

/-- Nothing that happened before speaks against the success of `generation`. -/
structure Unrevived (client : String) (generation : Nat) (older : List Event) : Prop where
  running : .shutdown ∉ older
  newest : ∀ earlier, .acquired client earlier ∈ older → earlier ≤ generation
  unrevoked : ∀ before presented, .revoked client :: before <:+ older →
    .presented client presented true ∈ before → presented < generation

/-- What the records remember of the log. -/
structure History (r : Registry) : Prop where
  presented : ∀ client generation, .presented client generation true ∈ r.log →
    r.closed = true ∨ generation ≤ r.observed client
  acquired : ∀ client generation, .acquired client generation ∈ r.log →
    generation ≤ r.observed client
  revoked : ∀ client before generation, .revoked client :: before <:+ r.log →
    .presented client generation true ∈ before →
      r.closed = true ∨ r.isReleased client generation = true
  stopped : .shutdown ∈ r.log → r.closed = true
  ordered : ∀ client generation older, .acquired client generation :: older <:+ r.log →
    Unrevived client generation older

/-- What a step that logs `event` has to establish in `later`. -/
def Justified (log : List Event) (later : Registry) : Event → Prop
  | .presented client generation formed =>
    formed = true → later.closed = true ∨ generation ≤ later.observed client
  | .acquired client generation =>
    generation ≤ later.observed client ∧ Unrevived client generation log
  | .revoked client => ∀ generation, .presented client generation true ∈ log →
      later.closed = true ∨ later.isReleased client generation = true
  | .shutdown => later.closed = true
  | .released _ _ => True

namespace History

variable {r later : Registry}

section

variable (h : History r)

include h

lemma keep (hadv : Advances r later) (hlog : later.log = r.log) : History later := by
  refine ⟨fun client generation hmem => ?_, fun client generation hmem => ?_,
    fun client before generation hsuffix hmem => ?_, fun hmem => ?_,
    fun client generation older hsuffix => ?_⟩ <;> rw [hlog] at *
  · exact (h.presented client generation hmem).imp hadv.closed
      fun hle => hle.trans (hadv.observed client)
  · exact (h.acquired client generation hmem).trans (hadv.observed client)
  · exact (h.revoked client before generation hsuffix hmem).imp hadv.closed
      (hadv.released client generation)
  · exact hadv.closed (h.stopped hmem)
  · exact h.ordered client generation older hsuffix

lemma append (hadv : Advances r later) (event : Event)
    (hlog : later.log = event :: r.log) (hevent : Justified r.log later event) : History later := by
  have hkept : History { later with log := r.log } :=
    h.keep ⟨hadv.observed, hadv.released, hadv.closed, hadv.uncertain,
      hadv.fenced⟩ rfl
  refine ⟨fun client generation hmem => ?_, fun client generation hmem => ?_,
    fun client before generation hsuffix hmem => ?_, fun hmem => ?_,
    fun client generation older hsuffix => ?_⟩
  · rw [hlog] at hmem
    rcases mem_cons.mp hmem with rfl | hmem
    · exact hevent rfl
    · exact hkept.presented client generation hmem
  · rw [hlog] at hmem
    rcases mem_cons.mp hmem with rfl | hmem
    · exact hevent.1
    · exact hkept.acquired client generation hmem
  · rw [hlog] at hsuffix
    rcases suffix_cons_iff.mp hsuffix with hnew | hsuffix
    · cases hnew
      exact hevent generation hmem
    · exact hkept.revoked client before generation hsuffix hmem
  · rw [hlog] at hmem
    rcases mem_cons.mp hmem with rfl | hmem
    · exact hevent
    · exact hkept.stopped hmem
  · rw [hlog] at hsuffix
    rcases suffix_cons_iff.mp hsuffix with hnew | hsuffix
    · cases hnew
      exact hevent.2
    · exact hkept.ordered client generation older hsuffix

lemma unrevived {a : Admission} (hcur : r.superseded a = false) :
    Unrevived a.client a.generation r.log := by
  obtain ⟨⟨-, -, hopen⟩, hobs, hrel, -⟩ := superseded_eq_false hcur
  refine ⟨fun hmem => ?_, fun earlier hmem => ?_, fun before presented hsuffix hmem => ?_⟩
  · rw [h.stopped hmem] at hopen
    cases hopen
  · exact (h.acquired a.client earlier hmem).trans (le_of_eq hobs)
  · rcases h.revoked a.client before presented hsuffix hmem with hclosed | hbefore
    · rw [hclosed] at hopen
      cases hopen
    · obtain ⟨limit, hlimit, hle⟩ := isReleased_iff.mp hbefore
      by_contra hnewer
      have : r.isReleased a.client a.generation = true :=
        isReleased_iff.mpr ⟨limit, hlimit, by omega⟩
      rw [hrel] at this
      cases this

section

variable (hlevels : Levels r)

include hlevels

lemma acquire (client : String) (generation : Nat)
    (target : Descriptor) (mode : Mode) : History (r.acquire client generation target mode) := by
  have hadv := (hlevels.acquire client generation target mode).2
  refine h.append hadv _ (acquire_log ..) fun hformed => ?_
  by_cases hclosed : r.closed = true
  · exact .inl (hadv.closed hclosed)
  · rw [Bool.not_eq_true] at hclosed
    right
    rcases admitRequest_noted (r.record _) hclosed hformed with hnoted | hrel
    · exact hnoted
    · exact (hlevels.observed_of_released hrel).trans (hadv.observed client)

lemma publish (index : Nat)
    (observation : Option Observation) : History (r.publish index observation) := by
  have hadv := (hlevels.publish index observation).2
  unfold Registry.publish at *
  split
  · exact h
  · next a ha =>
    rw [ha] at hadv
    dsimp only at hadv
    have hdropped : History { r with admissions := r.admissions.eraseIdx index } :=
      h.keep ⟨fun _ => le_refl _, fun _ _ => id, id, id, id⟩ rfl
    rcases settle_cases _ a observation with hsame | ⟨hcur, output, hinstalled⟩
    · rw [hsame]
      exact hdropped
    · rw [hinstalled] at hadv ⊢
      have hobs := (superseded_eq_false hcur).2.1
      exact h.append hadv (.acquired a.client a.generation) rfl
        ⟨le_of_eq hobs.symm, hdropped.unrevived hcur⟩

lemma releaseMonitor (client : String) (generation : Nat) :
    History (r.releaseMonitor client generation) := by
  have hadv := (hlevels.releaseMonitor client generation).2
  rcases releaseMonitor_log r client generation with hlog | hlog
  · exact h.keep hadv hlog
  · exact h.append hadv _ hlog trivial

lemma legacyReturn (index : Nat) (result : Bool) : History (r.legacyReturn index result) := by
  have hadv := (hlevels.legacyReturn index result).2
  rcases legacyReturn_log r index result with hlog | ⟨call, -, hlog⟩
  · exact h.keep hadv hlog
  · exact h.append hadv _ hlog trivial

lemma revoke (client : String) : History (r.revoke client) := by
  obtain ⟨limit, -, hobs, -, hrevoked⟩ := Levels.revoke_limit r client
  have hadv := (hlevels.revoke client).2
  refine h.append hadv (.revoked client) rfl fun generation hmem => ?_
  refine (h.presented client generation hmem).imp hadv.closed fun hle => ?_
  rw [hrevoked]
  exact isReleased_iff.mpr ⟨limit, update_self .., hle.trans hobs⟩

lemma step (input : Input) : History (r.step input) := by
  have hadv := (hlevels.step input).2
  cases input with
  | acquire client generation target mode => exact h.acquire hlevels client generation target mode
  | publish index observation => exact h.publish hlevels index observation
  | releaseMonitor client generation => exact h.releaseMonitor hlevels client generation
  | legacyReturn index result => exact h.legacyReturn hlevels index result
  | revoke client => exact h.revoke hlevels client
  | shutdown => exact h.append hadv .shutdown rfl (by rfl)
  | snapshot | beginMutation | endMutation | completionUnknown | fenceUnknownRelease | copyToken
  | dropToken | destroyHold =>
    exact h.keep hadv (step_log_of_silent _ _ (by simp [Input.Silent]))

end

end

lemma init : History {} where
  presented := fun _ _ hmem => by cases hmem
  acquired := fun _ _ hmem => by cases hmem
  revoked := fun _ _ _ hsuffix _ => by cases eq_nil_of_suffix_nil hsuffix
  stopped := fun hmem => by cases hmem
  ordered := fun _ _ _ hsuffix => by cases eq_nil_of_suffix_nil hsuffix

end History

/-- The records are in order and remember the log. -/
structure Recorded (r : Registry) : Prop where
  levels : Levels r
  history : History r

lemma Recorded.reachable {r : Registry} (h : registrySystem.Reachable r) : Recorded r :=
  h.invariant ⟨.init, .init⟩ fun _ input hinv _ =>
    ⟨(hinv.levels.step input).1, hinv.history.step hinv.levels input⟩

/-! ## Stable bindings -/

/-- An acquisition that made its own hold shares it with nobody. -/
structure Fresh (r : Registry) : Prop where
  minted : ∀ a ∈ r.admissions, a.hold < r.nextHold
  owned : ∀ client owner, r.owners client = some owner → owner.hold < r.nextHold
  unshared : ∀ a ∈ r.admissions, a.previous = false →
    ∀ client owner, r.owners client = some owner → owner.hold ≠ a.hold
  distinct : r.admissions.Pairwise fun a b =>
    a.previous = false ∨ b.previous = false → a.hold ≠ b.hold

/-- Owners may leave; the holds and the acquisitions in flight stay as they are. -/
structure Retires (r later : Registry) : Prop where
  owners : ∀ client owner, later.owners client = some owner → r.owners client = some owner
  bindings : later.bindings = r.bindings
  admissions : later.admissions = r.admissions
  nextHold : later.nextHold = r.nextHold

lemma Registry.step_retires (r : Registry) (input : Input) : Retires r (r.step input) ∨
      (∃ client generation target mode, input = .acquire client generation target mode) ∨
      ∃ index observation, input = .publish index observation := by
  have hkept : Retires r r := ⟨fun _ _ => id, rfl, rfl, rfl⟩
  have hleft : ∀ client other owner, Function.update r.owners client none other = some owner →
      r.owners other = some owner := by
    intro client other owner howner
    by_cases hother : other = client
    · subst hother
      rw [update_self] at howner
      cases howner
    · rwa [update_of_ne hother] at howner
  cases input with
  | acquire client generation target mode => exact .inr (.inl ⟨_, _, _, _, rfl⟩)
  | publish index observation => exact .inr (.inr ⟨_, _, rfl⟩)
  | releaseMonitor client generation =>
    left
    dsimp only [step, releaseMonitor, release]
    cases howner : r.owners client with
    | none =>
      cases r.isReleased client generation <;> exact ⟨fun _ _ => id, rfl, rfl, rfl⟩
    | some owner =>
      by_cases hstale : generation ≠ owner.generation
      · simp only [if_pos hstale]
        exact ⟨fun _ _ => id, rfl, rfl, rfl⟩
      · simp only [if_neg hstale]
        exact ⟨hleft client, rfl, rfl, rfl⟩
  | legacyReturn index result =>
    left
    dsimp only [step, legacyReturn]
    split
    · exact hkept
    · split <;> exact ⟨fun _ _ => id, rfl, rfl, rfl⟩
  | revoke client => exact .inl ⟨hleft client, rfl, rfl, rfl⟩
  | shutdown => exact .inl ⟨fun _ _ howner => (by cases howner), rfl, rfl, rfl⟩
  | snapshot client generation =>
    left
    dsimp only [step, snapshot]
    split
    · exact hkept
    · split <;> exact ⟨fun _ _ => id, rfl, rfl, rfl⟩
  | beginMutation thread =>
    left
    dsimp only [step, beginMutation]
    split <;> exact ⟨fun _ _ => id, rfl, rfl, rfl⟩
  | endMutation index =>
    left
    dsimp only [step, endMutation]
    split <;> exact ⟨fun _ _ => id, rfl, rfl, rfl⟩
  | copyToken | dropToken | destroyHold | completionUnknown | fenceUnknownRelease =>
    exact .inl ⟨fun _ _ => id, rfl, rfl, rfl⟩

namespace Fresh

variable {r : Registry}

section

variable (h : Fresh r)

include h

lemma protect (client : String) (generation : Nat) (target : Descriptor)
    (mode : Mode) : Fresh (r.protect client generation target mode) := by
  unfold Registry.protect
  split
  · next owner howner =>
    refine ⟨fun a hmem => ?_, h.owned, fun a hmem hown => ?_, ?_⟩
    · rcases mem_append.mp hmem with hmem | hmem
      · exact h.minted a hmem
      · rw [mem_singleton.mp hmem]
        exact h.owned client owner howner
    · rcases mem_append.mp hmem with hmem | hmem
      · exact h.unshared a hmem hown
      · rw [mem_singleton.mp hmem] at hown
        cases hown
    · refine pairwise_append.mpr ⟨h.distinct, pairwise_singleton .., ?_⟩
      intro a hmem b hb hown
      rw [mem_singleton.mp hb] at hown ⊢
      rcases hown with hown | hown
      · exact fun heq => h.unshared a hmem hown client owner howner heq.symm
      · cases hown
  · refine ⟨fun a hmem => ?_, fun other owner howner => ?_, fun a hmem hown other owner howner => ?_,
      ?_⟩
    · rcases mem_append.mp hmem with hmem | hmem
      · exact Nat.lt_succ_of_lt (h.minted a hmem)
      · rw [mem_singleton.mp hmem]
        exact Nat.lt_succ_self _
    · exact Nat.lt_succ_of_lt (h.owned other owner howner)
    · rcases mem_append.mp hmem with hmem | hmem
      · exact h.unshared a hmem hown other owner howner
      · rw [mem_singleton.mp hmem]
        exact Nat.ne_of_lt (h.owned other owner howner)
    · refine pairwise_append.mpr ⟨h.distinct, pairwise_singleton .., ?_⟩
      intro a hmem b hb _
      rw [mem_singleton.mp hb]
      exact Nat.ne_of_lt (h.minted a hmem)

lemma acquire (client : String) (generation : Nat) (target : Descriptor)
    (mode : Mode) : Fresh (r.acquire client generation target mode) := by
  unfold Registry.acquire
  rcases Registry.admitRequest_cases (r.record _) client generation target mode with
    hsame | ⟨-, -, -, -, hnoted | ⟨-, hadm⟩⟩
  · rw [hsame]
    exact ⟨h.minted, h.owned, h.unshared, h.distinct⟩
  · rw [hnoted]
    exact ⟨h.minted, h.owned, h.unshared, h.distinct⟩
  · rw [hadm]
    refine protect ?_ client generation target mode
    exact ⟨h.minted, h.owned, h.unshared, h.distinct⟩

lemma dropped (index : Nat) : Fresh { r with admissions := r.admissions.eraseIdx index } :=
  ⟨fun a hmem => h.minted a (mem_of_mem_eraseIdx hmem), h.owned,
    fun a hmem => h.unshared a (mem_of_mem_eraseIdx hmem),
    h.distinct.sublist (eraseIdx_sublist ..)⟩

lemma apart {index : Nat} {a : Admission} (ha : r.admissions[index]? = some a) :
    ∀ b ∈ r.admissions.eraseIdx index, b.previous = false → a.hold ≠ b.hold := by
  obtain ⟨hindex, hget⟩ := List.getElem?_eq_some_iff.mp ha
  have hperm := getElem_cons_eraseIdx_perm hindex
  have hsymm : ∀ {x y : Admission}, (x.previous = false ∨ y.previous = false → x.hold ≠ y.hold) →
        (y.previous = false ∨ x.previous = false → y.hold ≠ x.hold) :=
    fun hxy hor heq => hxy hor.symm heq.symm
  have hpairs := (hperm.pairwise_iff hsymm).mpr h.distinct
  rw [hget] at hpairs
  intro b hmem hown
  exact (pairwise_cons.mp hpairs).1 b hmem (.inr hown)

lemma publish (index : Nat) (observation : Option Observation) :
    Fresh (r.publish index observation) := by
  unfold Registry.publish
  split
  · exact h
  · next a ha =>
    rcases settle_cases _ a observation with hsame | ⟨-, output, hinstalled⟩
    · rw [hsame]
      exact h.dropped index
    · rw [hinstalled]
      have hminted := h.minted a (mem_of_getElem? ha)
      refine ⟨(h.dropped index).minted, fun client owner howner => ?_,
        fun b hmem hown client owner howner => ?_, (h.dropped index).distinct⟩
      · by_cases hclient : client = a.client
        · subst hclient
          dsimp only [install] at howner
          rw [update_self] at howner
          cases howner
          exact hminted
        · dsimp only [install] at howner
          rw [update_of_ne hclient] at howner
          exact h.owned client owner howner
      · by_cases hclient : client = a.client
        · subst hclient
          dsimp only [install] at howner
          rw [update_self] at howner
          cases howner
          exact h.apart ha b hmem hown
        · dsimp only [install] at howner
          rw [update_of_ne hclient] at howner
          exact (h.dropped index).unshared b hmem hown client owner howner

lemma retire {later : Registry} (hretires : Retires r later) : Fresh later := by
  obtain ⟨howners, -, hadmissions, hnext⟩ := hretires
  refine ⟨fun a hmem => ?_, fun client owner howner => ?_, fun a hmem hown client owner howner => ?_,
    ?_⟩
  · rw [hadmissions] at hmem
    rw [hnext]
    exact h.minted a hmem
  · rw [hnext]
    exact h.owned client owner (howners client owner howner)
  · rw [hadmissions] at hmem
    exact h.unshared a hmem hown client owner (howners client owner howner)
  · rw [hadmissions]
    exact h.distinct

lemma step (input : Input) : Fresh (r.step input) := by
  rcases step_retires r input with hretires | hacquire | hpublish
  · exact h.retire hretires
  · obtain ⟨client, generation, target, mode, rfl⟩ := hacquire
    exact h.acquire client generation target mode
  · obtain ⟨index, observation, rfl⟩ := hpublish
    exact h.publish index observation

end

lemma init : Fresh {} where
  minted := fun _ hmem => by cases hmem
  owned := fun _ _ howner => by cases howner
  unshared := fun _ hmem => by cases hmem
  distinct := .nil

lemma reachable (h : registrySystem.Reachable r) : Fresh r :=
  h.invariant init fun _ input hinv _ => hinv.step input

lemma publish_bindingOf (h : Fresh r) (index : Nat) (observation : Option Observation)
    {client : String} {owner : Owner} (howner : r.owners client = some owner) :
    (r.publish index observation).bindingOf client = r.bindingOf client := by
  unfold Registry.publish
  split
  · rfl
  · next a ha =>
    rcases settle_cases _ a observation with hsame | ⟨hcur, output, hinstalled⟩
    · rw [hsame]
      rfl
    · rw [hinstalled]
      by_cases hclient : client = a.client
      · subst hclient
        obtain ⟨hprevious, hhold⟩ := (superseded_eq_false hcur).2.2.2 owner howner
        simp [bindingOf, install, hprevious, howner, hhold]
      · have hother : a.previous = false → owner.hold ≠ a.hold := fun hown =>
          h.unshared a (mem_of_getElem? ha) hown client owner howner
        cases hprevious : a.previous with
        | true =>
          simp [bindingOf, install, hprevious, howner, update_of_ne hclient]
        | false =>
          simp [bindingOf, install, hprevious, howner,
            update_of_ne hclient, update_of_ne (hother hprevious)]

lemma step_bindingOf (h : Fresh r) (input : Input) {client : String}
    (hbefore : (r.owners client).isSome) (hafter : ((r.step input).owners client).isSome) :
    (r.step input).bindingOf client = r.bindingOf client := by
  obtain ⟨owner, howner⟩ := Option.isSome_iff_exists.mp hbefore
  rcases step_retires r input with hretires | hacquire | hpublish
  · obtain ⟨later, hlater⟩ := Option.isSome_iff_exists.mp hafter
    have hsame := hretires.owners client later hlater
    rw [howner] at hsame
    cases hsame
    rw [bindingOf, bindingOf, hlater, howner, hretires.bindings]
  · obtain ⟨client', generation, target, mode, rfl⟩ := hacquire
    show (r.acquire client' generation target mode).bindingOf client = r.bindingOf client
    unfold Registry.acquire
    rcases Registry.admitRequest_cases (r.record _) client' generation target mode with
      hsame | ⟨-, -, -, -, hnoted | ⟨-, hadm⟩⟩
    · rw [hsame]
      rfl
    · rw [hnoted]
      rfl
    · rw [hadm]
      unfold Registry.protect
      split <;> rfl
  · obtain ⟨index, observation, rfl⟩ := hpublish
    exact h.publish_bindingOf index observation howner

end Fresh

/-! ## Main results -/

def StaysOwner (client : String) (r : Registry) (input : Input) : Prop :=
  (r.owners client).isSome ∧ ((r.step input).owners client).isSome

/-- In every interleaving, a success comes before any shutdown, is at least as new as
every earlier success of its client, and is newer than everything its client had
presented in a well-formed request before it was revoked. While a client stays
owner, what its hold names does not change. -/
theorem revoked_stay_revoked {r : Registry} (h : registrySystem.Reachable r) :
    (∀ client generation older, .acquired client generation :: older <:+ r.log → .shutdown ∉ older ∧
        (∀ earlier, .acquired client earlier ∈ older → earlier ≤ generation) ∧
        ∀ before presented, .revoked client :: before <:+ older →
          .presented client presented true ∈ before → presented < generation) ∧
      ∀ client later, registrySystem.Segment (StaysOwner client) r later →
        later.bindingOf client = r.bindingOf client := by
  refine ⟨fun client generation older hsuffix => ?_, fun client later hsegment => ?_⟩
  · obtain ⟨hrun, hnewest, hunrevoked⟩ :=
      (Recorded.reachable h).history.ordered client generation older hsuffix
    exact ⟨hrun, hnewest, hunrevoked⟩
  · induction hsegment with
    | refl => rfl
    | snoc before _ stays ih =>
      have hfresh := Fresh.reachable (h.extend before)
      exact (hfresh.step_bindingOf _ stays.1 stays.2).trans ih

def revokedAndRenewed : List Input :=
  let mode : Mode := { width := 1920, height := 1080, refreshMillihz := 60000 }
  let target : Descriptor := { exactId := "DP-1" }
  [.acquire "client" 4 target mode, .publish 0 (some ⟨target, mode, "DP-1"⟩), .revoke "client",
    .acquire "client" 5 target mode, .publish 0 (some ⟨target, mode, "DP-1"⟩)]

theorem revoked_stay_revoked_renewed : (registrySystem.run {} revokedAndRenewed).log =
        [.acquired "client" 5, .presented "client" 5 true, .revoked "client",
          .acquired "client" 4, .presented "client" 4 true] ∧
      Event.shutdown ∉ [Event.presented "client" 5 true, .revoked "client",
          .acquired "client" 4, .presented "client" 4 true] ∧ 4 < 5 :=
  have hreachable : registrySystem.Reachable (registrySystem.run {} revokedAndRenewed) :=
    Library.System.Segment.of_follows .refl
      ⟨trivial, trivial, trivial, trivial, trivial, trivial, trivial, trivial, trivial, trivial,
        trivial⟩
  have hlog : (registrySystem.run {} revokedAndRenewed).log =
      [.acquired "client" 5, .presented "client" 5 true, .revoked "client",
        .acquired "client" 4, .presented "client" 4 true] := by decide
  have hlast := (revoked_stay_revoked hreachable).1 "client" 5 _ (hlog ▸ suffix_refl _)
  ⟨hlog, hlast.1, hlast.2.2 [.acquired "client" 4, .presented "client" 4 true] 4
    (suffix_cons _ _) (by simp)⟩

/-- A request without a width is turned away before its generation is noted, so the
revocation that follows does not cover it. -/
theorem malformed_request_not_revoked :
    ¬ ∀ r, registrySystem.Reachable r → ∀ client generation older before presented formed,
      .acquired client generation :: older <:+ r.log → .revoked client :: before <:+ older →
        .presented client presented formed ∈ before → presented < generation := by
  intro hclaim
  let mode : Mode := { width := 1920, height := 1080, refreshMillihz := 60000 }
  let target : Descriptor := { exactId := "DP-1" }
  let inputs : List Input :=
    [.acquire "client" 10 target { mode with width := 0 }, .revoke "client",
      .acquire "client" 10 target mode, .publish 0 (some ⟨target, mode, "DP-1"⟩)]
  have hreachable : registrySystem.Reachable (registrySystem.run {} inputs) :=
    Library.System.Segment.of_follows .refl
      ⟨trivial, trivial, trivial, trivial, trivial, trivial, trivial, trivial, trivial⟩
  have hlog : (registrySystem.run {} inputs).log =
      [.acquired "client" 10, .presented "client" 10 true, .revoked "client",
        .presented "client" 10 false] := by decide
  have hsuffix : [.acquired "client" 10, .presented "client" 10 true, .revoked "client",
      .presented "client" 10 false] <:+ (registrySystem.run {} inputs).log :=
    hlog.symm ▸ suffix_refl _
  have hless := hclaim _ hreachable "client" 10 _ [.presented "client" 10 false] 10 false
    hsuffix (suffix_cons _ _) (by simp)
  exact absurd hless (by decide)

/-! ## Released leases -/

/-- Admission is over for this generation: it was released, a newer one was
presented, no acquisition can name it, or nothing is admitted any more. -/
def Settled (r : Registry) (client : String) (generation : Nat) : Prop :=
  r.isReleased client generation = true ∨ generation < r.observed client ∨
    generation = 0 ∨ client = "" ∨ r.closed = true ∨ r.uncertain = true ∨ r.permanentFence = true

/-- A `release_monitor` that returns true names the generation of the published
owner, or one that is settled. -/
def ReleasesCovered (r : Registry) : Input → Prop
  | .releaseMonitor client generation =>
    (r.owners client).isNone ∨ Settled r client generation ∨
      ∃ owner, r.owners client = some owner ∧ owner.generation = generation
  | .legacyReturn index result => ∀ call, r.delegated[index]? = some call → result = true →
      Settled r call.1 call.2
  | _ => True

lemma Settled.advance {r later : Registry} {client : String} {generation : Nat}
    (h : Settled r client generation) (hadv : Advances r later) :
    Settled later client generation :=
  h.imp (hadv.released client generation) <| .imp
    (fun hless => Nat.lt_of_lt_of_le hless (hadv.observed client)) <| .imp id <| .imp id <|
      .imp hadv.closed <| .imp hadv.uncertain hadv.fenced

lemma Settled.older {r : Registry} {client : String} {generation : Nat}
    (h : Settled r client generation) {a : Admission} (hclient : a.client = client)
    (hstarted : 0 < a.generation ∧ a.client ≠ "") (hcur : r.superseded a = false) :
    generation < a.generation := by
  subst hclient
  obtain ⟨⟨hfence, huncertain, hopen⟩, hobs, hrel, -⟩ :=
    superseded_eq_false hcur
  rcases h with hbefore | hless | hzero | hempty | hclosed | hunknown | hfenced
  · obtain ⟨limit, hlimit, hle⟩ := isReleased_iff.mp hbefore
    by_contra hnewer
    have : r.isReleased a.client a.generation = true :=
      isReleased_iff.mpr ⟨limit, hlimit, by omega⟩
    rw [hrel] at this
    cases this
  · omega
  · omega
  · exact absurd hempty hstarted.2
  · rw [hclosed] at hopen
    cases hopen
  · rw [hunknown] at huncertain
    cases huncertain
  · rw [hfenced] at hfence
    cases hfence

/-- What was released is settled, and later successes are newer. -/
structure Finished (r : Registry) : Prop where
  levels : Levels r
  settled : ∀ client generation, .released client generation ∈ r.log → Settled r client generation
  older : ∀ client generation older, .acquired client generation :: older <:+ r.log →
    ∀ released, .released client released ∈ older → released < generation

namespace Finished

variable {r later : Registry}

section

variable (h : Finished r)

include h

lemma keep (hlevels : Levels later) (hadv : Advances r later)
    (hlog : later.log = r.log) : Finished later := by
  refine ⟨hlevels, fun client generation hmem => ?_, fun client generation older hsuffix => ?_⟩
  · rw [hlog] at hmem
    exact (h.settled client generation hmem).advance hadv
  · rw [hlog] at hsuffix
    exact h.older client generation older hsuffix

lemma append (hlevels : Levels later) (hadv : Advances r later)
    (event : Event) (hlog : later.log = event :: r.log)
    (hsettled : ∀ client generation, event = .released client generation →
      Settled later client generation)
    (hother : ∀ client generation, event ≠ .acquired client generation) : Finished later := by
  refine ⟨hlevels, fun client generation hmem => ?_, fun client generation older hsuffix => ?_⟩
  · rw [hlog] at hmem
    rcases mem_cons.mp hmem with hnew | hmem
    · exact hsettled client generation hnew.symm
    · exact (h.settled client generation hmem).advance hadv
  · rw [hlog] at hsuffix
    rcases suffix_cons_iff.mp hsuffix with hnew | hsuffix
    · cases hnew
      exact absurd rfl (hother client generation)
    · exact h.older client generation older hsuffix

lemma publish (index : Nat) (observation : Option Observation) :
    Finished (r.publish index observation) := by
  have hsteps := h.levels.publish index observation
  unfold Registry.publish at *
  split
  · exact h
  · next a ha =>
    rw [ha] at hsteps
    dsimp only at hsteps
    rcases settle_cases _ a observation with hsame | ⟨hcur, output, hinstalled⟩
    · rw [hsame] at hsteps ⊢
      exact h.keep hsteps.1 hsteps.2 rfl
    · rw [hinstalled] at hsteps ⊢
      refine ⟨hsteps.1, fun client generation hmem => ?_, fun client generation older hsuffix => ?_⟩
      · rcases mem_cons.mp hmem with hnew | hmem
        · cases hnew
        · exact (h.settled client generation hmem).advance hsteps.2
      · rcases suffix_cons_iff.mp hsuffix with hnew | hsuffix
        · cases hnew
          intro released hmem
          exact Settled.older (h.settled a.client released hmem) rfl
            (h.levels.started a (mem_of_getElem? ha)) hcur
        · exact h.older client generation older hsuffix

lemma releaseMonitor {client : String} {generation : Nat}
    (hcovered : ReleasesCovered r (.releaseMonitor client generation)) :
    Finished (r.releaseMonitor client generation) := by
  obtain ⟨hlevels, hadv⟩ := h.levels.releaseMonitor client generation
  have hcases : (r.releaseMonitor client generation).log = r.log ∨
      Settled (r.releaseMonitor client generation) client generation := by
    rcases hcovered with hnone | hsettled | ⟨owner, howner, rfl⟩
    · rw [Option.isNone_iff_eq_none] at hnone
      unfold Registry.releaseMonitor Registry.release
      rw [hnone]
      cases hrel : r.isReleased client generation
      · exact .inl rfl
      · exact .inr (.inl hrel)
    · exact .inr (hsettled.advance hadv)
    · right
      left
      unfold Registry.releaseMonitor Registry.release
      rw [howner]
      simp [Registry.isReleased, record]
  rcases Registry.releaseMonitor_log r client generation with hlog | hlog
  · exact h.keep hlevels hadv hlog
  · rcases hcases with hsame | hsettled
    · rw [hsame] at hlog
      exact absurd hlog (by simp)
    · refine h.append hlevels hadv _ hlog (fun other number hevent => ?_)
        fun _ _ hevent => by cases hevent
      cases hevent
      exact hsettled

lemma legacyReturn {index : Nat} {result : Bool}
    (hcovered : ReleasesCovered r (.legacyReturn index result)) :
    Finished (r.legacyReturn index result) := by
  obtain ⟨hlevels, hadv⟩ := h.levels.legacyReturn index result
  cases result with
  | false =>
    refine h.keep hlevels hadv ?_
    unfold Registry.legacyReturn
    split <;> rfl
  | true =>
    rcases Registry.legacyReturn_log r index true with hlog | ⟨call, hcall, hlog⟩
    · exact h.keep hlevels hadv hlog
    · refine h.append hlevels hadv _ hlog (fun client generation hevent => ?_)
        fun _ _ hevent => by cases hevent
      cases hevent
      exact (hcovered call hcall rfl).advance hadv

lemma step {input : Input} (hcovered : ReleasesCovered r input) : Finished (r.step input) := by
  obtain ⟨hlevels, hadv⟩ := h.levels.step input
  cases input with
  | publish index observation => exact h.publish index observation
  | releaseMonitor client generation => exact h.releaseMonitor hcovered
  | legacyReturn index result => exact h.legacyReturn hcovered
  | acquire client generation target mode =>
    exact h.append hlevels hadv _ (acquire_log ..) (fun _ _ hevent => by cases hevent)
      fun _ _ hevent => by cases hevent
  | revoke client =>
    exact h.append hlevels hadv (.revoked client) rfl (fun _ _ hevent => by cases hevent)
      fun _ _ hevent => by cases hevent
  | shutdown =>
    exact h.append hlevels hadv .shutdown rfl (fun _ _ hevent => by cases hevent)
      fun _ _ hevent => by cases hevent
  | snapshot | beginMutation | endMutation | completionUnknown | fenceUnknownRelease | copyToken
  | dropToken | destroyHold =>
    exact h.keep hlevels hadv (step_log_of_silent _ _ (by simp [Input.Silent]))

end

lemma init : Finished {} where
  levels := .init
  settled := fun _ _ hmem => by cases hmem
  older := fun _ _ _ hsuffix => by cases eq_nil_of_suffix_nil hsuffix

end Finished

/-- In every interleaving in which each `release_monitor` that returns true names the
published owner's generation or a settled one, the successes after it are newer. -/
theorem released_stay_released {r : Registry}
    (h : registrySystem.ReachableUnder ReleasesCovered r) {client : String} {generation : Nat}
    {older : List Event} (hsuffix : .acquired client generation :: older <:+ r.log)
    {released : Nat} (hrel : .released client released ∈ older) : released < generation :=
  have hfinished : Finished r := h.invariant .init fun _ _ hinv _ hcovered => hinv.step hcovered
  hfinished.older client generation older hsuffix released hrel

def releasedAndRenewed : List Input :=
  let mode : Mode := { width := 1920, height := 1080, refreshMillihz := 60000 }
  let target : Descriptor := { exactId := "DP-1" }
  [.acquire "client" 4 target mode, .publish 0 (some ⟨target, mode, "DP-1"⟩),
    .releaseMonitor "client" 4, .acquire "client" 5 target mode,
    .publish 0 (some ⟨target, mode, "DP-1"⟩)]

theorem released_stay_released_renewed :
    registrySystem.ReachableUnder ReleasesCovered (registrySystem.run {} releasedAndRenewed) ∧
      (registrySystem.run {} releasedAndRenewed).log =
        [.acquired "client" 5, .presented "client" 5 true, .released "client" 4,
          .acquired "client" 4, .presented "client" 4 true] ∧ 4 < 5 :=
  have hreachable : registrySystem.ReachableUnder ReleasesCovered
      (registrySystem.run {} releasedAndRenewed) :=
    Library.System.Segment.of_follows .refl
      ⟨trivial, trivial, trivial, trivial, trivial, .inr (.inr ⟨⟨4, 0⟩, by rfl, rfl⟩), trivial,
        trivial, trivial, trivial, trivial⟩
  have hlog : (registrySystem.run {} releasedAndRenewed).log =
      [.acquired "client" 5, .presented "client" 5 true, .released "client" 4,
        .acquired "client" 4, .presented "client" 4 true] := by decide
  have hsuffix : [.acquired "client" 5, .presented "client" 5 true, .released "client" 4,
      .acquired "client" 4, .presented "client" 4 true] <:+
        (registrySystem.run {} releasedAndRenewed).log :=
    hlog.symm ▸ suffix_refl _
  ⟨hreachable, hlog, released_stay_released hreachable hsuffix (by simp)⟩

/-- The release finds no owner while the acquisition probes, the legacy runtime has
nothing to release, and the acquisition publishes its owner afterwards. -/
theorem release_in_flight_publishes : ¬ ∀ r, registrySystem.Reachable r → ∀ client generation older,
      .acquired client generation :: older <:+ r.log →
        ∀ released, .released client released ∈ older → released < generation := by
  intro hclaim
  let mode : Mode := { width := 1920, height := 1080, refreshMillihz := 60000 }
  let target : Descriptor := { exactId := "DP-1" }
  let inputs : List Input :=
    [.acquire "client" 5 target mode, .releaseMonitor "client" 5, .legacyReturn 0 true,
      .publish 0 (some ⟨target, mode, "DP-1"⟩)]
  have hreachable : registrySystem.Reachable (registrySystem.run {} inputs) :=
    Library.System.Segment.of_follows .refl
      ⟨trivial, trivial, trivial, trivial, trivial, trivial, trivial, trivial, trivial⟩
  have hlog : (registrySystem.run {} inputs).log =
      [.acquired "client" 5, .released "client" 5, .presented "client" 5 true] := by decide
  have hsuffix : [.acquired "client" 5, .released "client" 5, .presented "client" 5 true] <:+
      (registrySystem.run {} inputs).log :=
    hlog.symm ▸ suffix_refl _
  have hless := hclaim _ hreachable "client" 5 _ hsuffix 5 (by simp)
  exact absurd hless (by decide)

end Vibeshine.TargetLease
