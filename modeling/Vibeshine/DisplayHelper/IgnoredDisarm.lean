import Vibeshine.DisplayHelper.Helper

/-! # A DISARM during an unconfirmed restore

The restore goes on, with everything it needs; only its ticket is withdrawn, as by every
command that states what the session should become.
-/

namespace Vibeshine.DisplayHelper

open Library Machine

/-- The display helper as a system: each input comes with what the collaborators
answer while it is handled. -/
def helper : System Helper (Ports × Input) where
  init := {}
  admits h input :=
    h.machine.running = true ∧ Helper.Observes input.1 h.epoch ∧
      Helper.Promised h.machine input.1 input.2
  step h input := ⟨Helper.respond h.machine input.1 input.2, input.1.epochAtEnd⟩

/-- The obligations of the recovery that do not belong to its ticket. -/
structure Machine.SameRecovery (m m' : Machine) : Prop where
  state : m'.state = m.state
  lease : m'.lease = m.lease
  fence : m'.fence = m.fence
  scheduler : m'.recovery.scheduler = m.recovery.scheduler
  restoreState : m'.restoreState = m.restoreState
  dispatcher : m'.dispatcher = m.dispatcher

/-- The ticket and what a status query says about it. -/
structure Machine.SameTicket (m m' : Machine) : Prop where
  ticket : m'.recovery.statusPolicy.ticket = m.recovery.statusPolicy.ticket
  status : m'.recovery.statusPolicy.status = m.recovery.statusPolicy.status
  parked : m'.recovery.statusPolicy.parked = m.recovery.statusPolicy.parked

variable {m : Machine} {epoch : Nat} {command : DisarmCommand}

lemma handleDisarmCommand_of_ignored
    (hlive : isStaleConnection epoch command.connectionEpoch = false)
    (hignored : m.disarmIgnored command = true) : m.handleDisarmCommand epoch command =
      (m.updStatusPolicy (·.supersede)).call .clearPendingHdrBlank := by
  unfold handleDisarmCommand
  rw [hlive]
  exact if_pos hignored

/-- An ignored DISARM leaves the restore as it was, and leaves no ticket. -/
theorem disarm_ignored (m : Machine) (epoch : Nat) (command : DisarmCommand)
    (hlive : isStaleConnection epoch command.connectionEpoch = false)
    (hignored : m.disarmIgnored command = true) :
    m.SameRecovery (m.handleDisarmCommand epoch command) ∧
      (m.handleDisarmCommand epoch command).recovery.statusPolicy = { m.recovery.statusPolicy with
          ticket := 0, generation := 0, epoch := 0, status := .unknown, parked := false } := by
  rw [handleDisarmCommand_of_ignored hlive hignored]
  exact ⟨⟨rfl, rfl, rfl, rfl, rfl, rfl⟩, rfl⟩

def firstConnection : Ports := { epoch := 1, drainEpoch := fun _ => 1, epochAtEnd := 1 }

def unconfirmedRestore : List (Ports × Input) :=
  [(firstConnection, .message (.revertCommand { connectionEpoch := 1, restoreTicket := 7 })),
    (firstConnection, .recoveryEntered)]

def probe : DisarmCommand := { connectionEpoch := 1 }

lemma unconfirmedRestore_reachable : helper.Reachable (helper.run helper.init unconfirmedRestore) := by
  have hobserves : ∀ epoch ≤ 1, Helper.Observes firstConnection epoch := fun epoch hepoch =>
    ⟨hepoch, fun _ => Nat.le_refl 1, fun _ => Nat.le_refl 1⟩
  refine .snoc (.snoc .refl ⟨by decide, hobserves 0 (Nat.zero_le 1), rfl, Nat.le_refl 1, ?_⟩ trivial)
    ⟨by decide, hobserves 1 (Nat.le_refl 1), trivial⟩ trivial
  rintro command hcommand hdisconnect
  cases hcommand
  cases hdisconnect

theorem probe_ignored : let m := (helper.run helper.init unconfirmedRestore).machine
    m.SameRecovery (m.handleDisarmCommand 1 probe) ∧
      (m.handleDisarmCommand 1 probe).recovery.statusPolicy.ticket = 0 := by
  have h := disarm_ignored (helper.run helper.init unconfirmedRestore).machine 1 probe (by decide)
    (by decide)
  exact ⟨h.1, congrArg RecoveryStatusPolicy.ticket h.2⟩

/-- The ticket of the restore does not survive the probe. -/
theorem probe_withdraws_ticket :
    ¬ ∀ h epoch command, helper.Reachable h → isStaleConnection epoch command.connectionEpoch = false →
      h.machine.disarmIgnored command = true →
        h.machine.SameTicket (h.machine.handleDisarmCommand epoch command) ∧
          h.machine.SameRecovery (h.machine.handleDisarmCommand epoch command) := by
  intro h
  have hprobe := h (helper.run helper.init unconfirmedRestore) 1 probe unconfirmedRestore_reachable
    (by decide) (by decide)
  exact absurd hprobe.1.ticket (by decide)

end Vibeshine.DisplayHelper
