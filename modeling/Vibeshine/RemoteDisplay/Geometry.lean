import Vibeshine.RemoteDisplay.Placement
import Vibeshine.RemoteDisplay.Runs

/-! # Applied geometries were observed

A composed topology is applied with the geometries that the same operation observed
last for the clients whose shared output is not verified.
-/

namespace Vibeshine.RemoteDisplay

open Library (System)

variable {c : Coordinator}

/-- Whenever a topology is applied, every composed node of a client whose shared mode
is unverified shows the latest observation of the same operation, which is present and
positive. -/
theorem applied_geometry_observed (hreach : coordinatorSystem.Reachable c)
    {nodes baseline : List Node} {clients : Clients} {answer : Bool} {before : List Call}
    (hcall : .applied nodes baseline clients answer :: before <:+ c.calls) :
    ∃ placed, nodes = baseline ++ placed ∧ ∀ node ∈ placed,
      ∃ client, (node.id, client) ∈ clients ∧ client.owning = true ∧
        node.effectiveMode = node.configuredMode ∧
        (client.sharedModeUnverified = true → node.id ≠ "" →
          ∃ observed, latestObservation node.id before = some (some observed) ∧
            0 < observed.width ∧ 0 < observed.height ∧ 0 < observed.refreshHz ∧
            node.configuredMode.width = observed.width ∧
            node.configuredMode.height = observed.height ∧
            node.configuredMode.refreshHz = observed.refreshHz) := by
  obtain ⟨-, hlawful⟩ := reachable_standing hreach
  obtain ⟨hgrounded, layout, rfl⟩ := hlawful.of_suffix hcall
  obtain ⟨placed, hplaced, hshown⟩ := composeLocked_shows layout baseline clients
  refine ⟨placed, hplaced, fun node hmem => ?_⟩
  obtain ⟨client, hlookup, howning, hconfigured, hrequested, hcur⟩ := hshown node hmem
  refine ⟨client, mem_of_lookup hlookup, howning, ?_, fun hunverified hnamed => ?_⟩
  · rw [Node.effectiveMode, hcur, hrequested, hconfigured]
    rfl
  · obtain ⟨observed, hlatest, husable, hwidth, hheight, hrefresh⟩ :=
      hgrounded node.id client (mem_of_lookup hlookup) howning hunverified hnamed hnamed
    simp only [Mode.usable, Bool.and_eq_true, decide_eq_true_eq] at husable
    rw [hconfigured]
    exact ⟨observed, hlatest, husable.1.1, husable.1.2, husable.2, hwidth, hheight, hrefresh⟩

def sharedRun : List Operation :=
  [.setRuntimeCallbacks
      { createOrReclaim := true
        applyComposedTopology := true
        observeSharedMode := true
        finalizeMode := true
        exactTargetHasCurrentModeAndDxgi := true
        removeOwnedDisplay := true },
    .reserve {} "phone" "Phone" {},
    .activateOrResume { observed := some {} } "phone" "Phone" { width := 2560, height := 1440 } 1,
    .reserve {} "tablet" "Tablet" {}]

def shared : Coordinator := coordinatorSystem.run coordinatorSystem.init sharedRun

lemma shared_reachable : coordinatorSystem.Reachable shared :=
  System.Segment.of_follows .refl (show coordinatorSystem.Follows _ _ sharedRun from
    ⟨trivial, trivial, trivial, trivial, trivial, trivial, trivial, trivial, trivial⟩)

def refusedRelease : Operation :=
  .release false { geometry := fun _ => some {}, removed := false } "tablet" 2

def Call.isApplied : Call → Bool
  | .applied _ _ _ _ => true
  | _ => false

lemma refused_applied : ∃ nodes baseline clients answer,
    .applied nodes baseline clients answer ∈ (shared.step refusedRelease).calls := by
  have happlied : (shared.step refusedRelease).calls.any Call.isApplied = true := by decide
  obtain ⟨call, hmem, hkind⟩ := List.any_eq_true.mp happlied
  cases call with
  | applied nodes baseline clients answer => exact ⟨nodes, baseline, clients, answer, hmem⟩
  | observed | removed | terminated => cases hkind

theorem applied_geometry_observed_shared :
    ∃ nodes baseline clients answer before, .applied nodes baseline clients answer :: before <:+
        (shared.step refusedRelease).calls ∧
      ∃ placed, nodes = baseline ++ placed ∧ ∀ node ∈ placed, ∃ client,
        (node.id, client) ∈ clients ∧ (client.sharedModeUnverified = true → node.id ≠ "" →
          ∃ observed, latestObservation node.id before = some (some observed) ∧
            node.configuredMode.width = observed.width) := by
  obtain ⟨nodes, baseline, clients, answer, hmem⟩ := refused_applied
  obtain ⟨newer, before, hsplit⟩ := List.append_of_mem hmem
  have hcall : .applied nodes baseline clients answer :: before <:+
      (shared.step refusedRelease).calls := ⟨newer, hsplit.symm⟩
  have hreach : coordinatorSystem.Reachable (shared.step refusedRelease) :=
    reachable_step shared_reachable trivial
  obtain ⟨placed, hplaced, hnodes⟩ := applied_geometry_observed hreach hcall
  refine ⟨nodes, baseline, clients, answer, before, hcall, placed, hplaced, fun node hnode => ?_⟩
  obtain ⟨client, hclient, -, -, hobs⟩ := hnodes node hnode
  refine ⟨client, hclient, fun hunverified hnamed => ?_⟩
  obtain ⟨observed, hlatest, -, -, -, hwidth, -⟩ := hobs hunverified hnamed
  exact ⟨observed, hlatest, hwidth⟩

/-- The topology was applied before the observation that was missing in the same
operation. -/
theorem applied_before_missing_observation :
    ¬ ∀ (c : Coordinator) (operation : Operation), coordinatorSystem.Reachable c →
      c.Admits operation → ∀ uuid client observed, (uuid, client) ∈ c.clients →
        client.owning = true → client.sharedModeUnverified = true →
        .observed uuid observed ∈ (c.step operation).calls → observed.any Mode.usable = false →
          ∀ nodes baseline clients answer,
            .applied nodes baseline clients answer ∉ (c.step operation).calls := by
  intro h
  obtain ⟨nodes, baseline, clients, answer, hmem⟩ := refused_applied
  have hphone : (shared.clients.lookup "phone").any (fun client =>
      client.owning && client.sharedModeUnverified) = true := by decide
  obtain ⟨client, hclient, hmarked⟩ : ∃ client, shared.clients.lookup "phone" = some client ∧
      (client.owning && client.sharedModeUnverified) = true := by
    cases hlookup : shared.clients.lookup "phone" with
    | none =>
      rw [hlookup] at hphone
      cases hphone
    | some client =>
      rw [hlookup] at hphone
      exact ⟨client, rfl, hphone⟩
  rw [Bool.and_eq_true] at hmarked
  exact h shared refusedRelease shared_reachable trivial "phone" client none
    (mem_of_lookup hclient) hmarked.1 hmarked.2 (by decide) rfl nodes baseline clients answer hmem

end Vibeshine.RemoteDisplay
