import Vibeshine.TargetLease.Registry

/-! # Borrowing excludes mutation

The counters of the barrier count the live holds and mutations, live mutations
belong to one thread, and a hold never lives beside a mutation.
-/

namespace Vibeshine.TargetLease

open List

/-- The barrier tells the truth about the objects it protects. -/
structure Exclusion (r : Registry) : Prop where
  borrowed : r.borrowers = r.liveHolds.length
  mutating : r.mutations = r.liveMutations.length
  owned : ∀ thread ∈ r.liveMutations, r.mutationOwner = some thread
  exclusive : r.liveHolds = [] ∨ r.liveMutations = []
  alive : ∀ hold, r.Referenced hold → hold ∈ r.liveHolds

namespace Exclusion

variable {r : Registry}

section

variable (h : Exclusion r)

include h

lemma protect (hidle : r.mutations = 0) (client : String) (generation : Nat)
    (target : Descriptor) (mode : Mode) : Exclusion (r.protect client generation target mode) := by
  have hquiet : r.liveMutations = [] := length_eq_zero_iff.mp (h.mutating.symm.trans hidle)
  unfold Registry.protect
  split
  · next owner howner =>
    refine { h with alive := fun hold href => ?_ }
    rcases href with href | ⟨a, hmem, rfl⟩ | htoken
    · exact h.alive hold (.inl href)
    · rcases mem_append.mp hmem with hmem | hmem
      · exact h.alive _ (.inr (.inl ⟨a, hmem, rfl⟩))
      · rw [mem_singleton.mp hmem]
        exact h.alive _ (.inl ⟨client, owner, howner, rfl⟩)
    · exact h.alive hold (.inr (.inr htoken))
  · refine { h with
      borrowed := by simp [h.borrowed]
      exclusive := .inr hquiet
      alive := fun hold href => ?_ }
    rcases href with href | ⟨a, hmem, rfl⟩ | htoken
    · exact mem_cons_of_mem _ (h.alive hold (.inl href))
    · rcases mem_append.mp hmem with hmem | hmem
      · exact mem_cons_of_mem _ (h.alive _ (.inr (.inl ⟨a, hmem, rfl⟩)))
      · rw [mem_singleton.mp hmem]
        exact mem_cons_self
    · exact mem_cons_of_mem _ (h.alive hold (.inr (.inr htoken)))

lemma acquire (client : String) (generation : Nat) (target : Descriptor)
    (mode : Mode) : Exclusion (r.acquire client generation target mode) := by
  have hrecorded : Exclusion (r.record (.presented client generation
      (wellFormed client generation target mode))) := { h with }
  unfold Registry.acquire
  rcases Registry.admitRequest_cases _ client generation target mode with
    hsame | ⟨-, -, -, -, hnoted | ⟨hidle, hadm⟩⟩
  · rw [hsame]; exact hrecorded
  · rw [hnoted]; exact { hrecorded with }
  · rw [hadm]
    have hnoted : Exclusion { r.record (.presented client generation
        (wellFormed client generation target mode)) with
        observed := Function.update r.observed client generation } := { hrecorded with }
    exact hnoted.protect hidle client generation target mode

lemma publish (index : Nat) (observation : Option Observation) :
    Exclusion (r.publish index observation) := by
  unfold Registry.publish
  split
  · exact h
  · next a ha =>
    have hheld : a.hold ∈ r.liveHolds :=
      h.alive _ (.inr (.inl ⟨a, mem_of_getElem? ha, rfl⟩))
    have hdropped : Exclusion { r with admissions := r.admissions.eraseIdx index } := by
      refine { h with alive := fun hold href => h.alive hold ?_ }
      rcases href with href | ⟨b, hmem, rfl⟩ | htoken
      · exact .inl href
      · exact .inr (.inl ⟨b, mem_of_mem_eraseIdx hmem, rfl⟩)
      · exact .inr (.inr htoken)
    rcases Registry.settle_cases _ a observation with hsame | ⟨-, output, hinstalled⟩
    · rw [hsame]; exact hdropped
    · rw [hinstalled]
      refine { hdropped with alive := fun hold href => ?_ }
      rcases href with ⟨client, owner, howner, rfl⟩ | hadm | htoken
      · dsimp only [Registry.install] at howner
        by_cases hclient : client = a.client
        · subst hclient
          rw [Function.update_self] at howner
          cases howner
          exact hheld
        · rw [Function.update_of_ne hclient] at howner
          exact hdropped.alive _ (.inl ⟨client, owner, howner, rfl⟩)
      · exact hdropped.alive _ (.inr (.inl hadm))
      · rcases mem_cons.mp htoken with rfl | htoken
        · exact hheld
        · exact hdropped.alive _ (.inr (.inr htoken))

lemma retire {owners : String → Option Owner}
    {released : String → Option Nat} {closed : Bool} {log : List Event}
    (howners : ∀ client owner, owners client = some owner → r.owners client = some owner) :
    Exclusion { r with owners := owners, released := released, closed := closed, log := log } := by
  refine { h with alive := fun hold href => h.alive hold ?_ }
  rcases href with ⟨client, owner, howner, hhold⟩ | href
  · exact .inl ⟨client, owner, howners client owner howner, hhold⟩
  · exact .inr href

end

lemma erased_owner {owners : String → Option Owner} {client other : String} {owner : Owner}
    (h : Function.update owners client none other = some owner) : owners other = some owner := by
  by_cases hother : other = client
  · subst hother
    rw [Function.update_self] at h
    cases h
  · rwa [Function.update_of_ne hother] at h

section

variable (h : Exclusion r)

include h

lemma releaseMonitor (client : String) (generation : Nat) :
    Exclusion (r.releaseMonitor client generation) := by
  unfold Registry.releaseMonitor Registry.release
  cases howner : r.owners client with
  | none =>
    dsimp only
    cases r.isReleased client generation with
    | false => exact { h with }
    | true => exact { h with }
  | some owner =>
    dsimp only
    by_cases hgeneration : generation ≠ owner.generation
    · rw [if_pos hgeneration]
      exact { h with }
    · rw [if_neg hgeneration]
      exact h.retire fun _ _ => erased_owner

lemma legacyReturn (index : Nat) (result : Bool) : Exclusion (r.legacyReturn index result) := by
  unfold Registry.legacyReturn
  split
  · exact h
  · dsimp only
    split <;> exact { h with }

lemma snapshot (client : String) (generation : Nat) : Exclusion (r.snapshot client generation) := by
  unfold Registry.snapshot
  split
  · exact h
  · next owner howner =>
    split
    · refine { h with alive := fun hold href => ?_ }
      rcases href with href | href | htoken
      · exact h.alive hold (.inl href)
      · exact h.alive hold (.inr (.inl href))
      · rcases mem_cons.mp htoken with rfl | htoken
        · exact h.alive _ (.inl ⟨client, owner, howner, rfl⟩)
        · exact h.alive hold (.inr (.inr htoken))
    · exact h

lemma retoken {tokens : List Nat} (hsub : ∀ hold ∈ tokens, hold ∈ r.tokens) :
    Exclusion { r with tokens := tokens } := by
  refine { h with alive := fun hold href => h.alive hold ?_ }
  exact href.imp id (Or.imp id (hsub hold))

lemma destroyHold {hold : Nat} (hlive : hold ∈ r.liveHolds)
    (hunreferenced : ¬ r.Referenced hold) : Exclusion (r.destroyHold hold) where
  borrowed := by
    show r.borrowers - 1 = (r.liveHolds.erase hold).length
    rw [length_erase_of_mem hlive, h.borrowed]
  mutating := h.mutating
  owned := h.owned
  exclusive := h.exclusive.imp (fun hnone => by rw [hnone] at hlive; cases hlive) id
  alive := fun other href => by
    refine (mem_erase_of_ne ?_).mpr (h.alive other href)
    rintro rfl
    exact hunreferenced href

lemma beginMutation (thread : Nat) : Exclusion (r.beginMutation thread) := by
  unfold Registry.beginMutation
  split
  · exact h
  · next hgate =>
    simp only [Bool.or_eq_true, bne_iff_ne, not_or, Bool.and_eq_true, not_and, not_not] at hgate
    obtain ⟨⟨-, hidle⟩, hthread⟩ := hgate
    refine { h with
      mutating := by simp [h.mutating]
      owned := fun other hmem => ?_
      exclusive := .inl (length_eq_zero_iff.mp (h.borrowed.symm.trans hidle)) }
    rcases mem_cons.mp hmem with rfl | hmem
    · by_cases hfirst : r.mutations = 0
      · simp [hfirst]
      · simp [hfirst, hthread hfirst]
    · have hbusy : r.mutations ≠ 0 := by
        rw [h.mutating]
        exact Nat.ne_of_gt (length_pos_of_mem hmem)
      simp [hbusy, h.owned other hmem]

lemma endMutation {index : Nat} (hindex : index < r.liveMutations.length) :
    Exclusion (r.endMutation index) := by
  have hbusy : r.mutations ≠ 0 := by rw [h.mutating]; omega
  have hlength := length_eraseIdx_of_lt hindex
  unfold Registry.endMutation
  dsimp only
  rw [if_neg hbusy]
  refine ⟨h.borrowed, ?_, fun thread hmem => ?_, ?_, h.alive⟩
  · show r.mutations - 1 = (r.liveMutations.eraseIdx index).length
    rw [hlength, h.mutating]
  · have hremaining : r.mutations ≠ 1 := by
      have hothers : 0 < (r.liveMutations.eraseIdx index).length := length_pos_of_mem hmem
      rw [h.mutating]
      omega
    simp [hremaining, h.owned thread (mem_of_mem_eraseIdx hmem)]
  · exact h.exclusive.imp id fun hnone => by simp [hnone]

lemma step {input : Input} (admitted : r.Admits input) : Exclusion (r.step input) := by
  cases input with
  | acquire client generation target mode => exact h.acquire client generation target mode
  | publish index observation => exact h.publish index observation
  | releaseMonitor client generation => exact h.releaseMonitor client generation
  | legacyReturn index result => exact h.legacyReturn index result
  | revoke client => exact h.retire fun _ _ => erased_owner
  | shutdown => exact h.retire fun _ _ howner => by cases howner
  | snapshot client generation => exact h.snapshot client generation
  | copyToken hold =>
    refine h.retoken fun other hmem => ?_
    rcases mem_cons.mp hmem with rfl | hmem
    · exact admitted
    · exact hmem
  | dropToken index => exact h.retoken fun _ => mem_of_mem_eraseIdx
  | destroyHold hold => exact h.destroyHold admitted.1 admitted.2
  | beginMutation thread => exact h.beginMutation thread
  | endMutation index => exact h.endMutation admitted
  | completionUnknown | fenceUnknownRelease => exact { h with }

end

lemma init : Exclusion {} where
  borrowed := rfl
  mutating := rfl
  owned := fun _ hmem => by cases hmem
  exclusive := .inl rfl
  alive := fun _ href => by
    rcases href with ⟨_, _, howner, _⟩ | ⟨_, hmem, _⟩ | hmem
    · cases howner
    · cases hmem
    · cases hmem

lemma reachable (h : registrySystem.Reachable r) : Exclusion r :=
  h.invariant init fun _ _ hinv admitted => hinv.step admitted

end Exclusion

/-- In every interleaving no hold lives beside a mutation, all live mutations are of
one thread, the counters count both, and whatever is referenced lives. -/
theorem holds_exclude_mutations {r : Registry} (h : registrySystem.Reachable r) :
    (r.liveHolds = [] ∨ r.liveMutations = []) ∧
      (∃ thread, ∀ other ∈ r.liveMutations, other = thread) ∧
      r.borrowers = r.liveHolds.length ∧ r.mutations = r.liveMutations.length ∧
      ∀ hold, r.Referenced hold → hold ∈ r.liveHolds := by
  have hinv := Exclusion.reachable h
  refine ⟨hinv.exclusive, ?_, hinv.borrowed, hinv.mutating, hinv.alive⟩
  cases howner : r.mutationOwner with
  | none =>
    refine ⟨0, fun other hmem => ?_⟩
    rw [hinv.owned other hmem] at howner
    cases howner
  | some thread =>
    refine ⟨thread, fun other hmem => ?_⟩
    rw [hinv.owned other hmem] at howner
    exact Option.some.inj howner

def nestedMutation : List Input :=
  [.beginMutation 7, .beginMutation 7, .acquire "client" 1 { exactId := "DP-1" }
    { width := 1920, height := 1080, refreshMillihz := 60000 }, .beginMutation 8]

theorem holds_exclude_mutations_nested :
    (registrySystem.run {} nestedMutation).liveMutations = [7, 7] ∧
      (registrySystem.run {} nestedMutation).mutations = 2 ∧
      (registrySystem.run {} nestedMutation).liveHolds = [] :=
  have hreachable : registrySystem.Reachable (registrySystem.run {} nestedMutation) :=
    Library.System.Segment.of_follows .refl
      ⟨trivial, trivial, trivial, trivial, trivial, trivial, trivial, trivial, trivial⟩
  have hlive : (registrySystem.run {} nestedMutation).liveMutations = [7, 7] := by decide
  have hall := holds_exclude_mutations hreachable
  ⟨hlive, by rw [hall.2.2.2.1, hlive]; rfl, hall.1.resolve_right (by rw [hlive]; decide)⟩

end Vibeshine.TargetLease
