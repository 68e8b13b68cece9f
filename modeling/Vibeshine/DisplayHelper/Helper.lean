import Vibeshine.DisplayHelper.Events
import Vibeshine.DisplayHelper.Worker
import Vibeshine.Library.System

/-! # Runs of the display helper

The state machine together with the dispatcher queues and the connection
epoch. Completions arrive in the order of the single worker queue; a delayed
verification enters that queue when its timer fires. The helper retires the
connection of a session before it asks for a disconnect settlement, and handles
nothing after an exit that ends it.
-/

namespace Vibeshine.DisplayHelper

namespace Message

def isCompletion : Message → Bool
  | .applyCompleted _ | .verificationCompleted _ | .resetCompleted _ | .refreshRateCompleted _
  | .recoveryCompleted _ | .recoveryValidationCompleted _ => true
  | _ => false

def connectionEpoch : Message → Nat
  | .applyCommand command => command.connectionEpoch
  | .revertCommand command => command.connectionEpoch
  | .disarmCommand command => command.connectionEpoch
  | .exportGoldenCommand command => command.connectionEpoch
  | .snapshotCurrentCommand command => command.connectionEpoch
  | .refreshRateCommand command => command.connectionEpoch
  | .resetCommand command => command.connectionEpoch
  | .pingCommand command => command.connectionEpoch
  | .stopCommand command => command.connectionEpoch
  | .recoveryStatusCommand command => command.connectionEpoch
  | .displayEvent event => event.connectionEpoch
  | .helperEvent event => event.connectionEpoch
  | _ => 0

end Message

inductive Answer where
  | apply (environment : ApplyEnvironment)
  | recovery (outcome : RecoveryOutcome)
  | success (success : Bool)

def Task.completion : Task → Answer → Option Message
  | .apply request resetVirtualDisplay generation, .apply environment =>
    some (.applyCompleted ⟨environment.runTask request resetVirtualDisplay, generation⟩)
  | .verification _ _ _ purpose generation, .success success =>
    some (.verificationCompleted ⟨success, purpose, generation⟩)
  | .reset generation, .success success => some (.resetCompleted ⟨success, generation⟩)
  | .refreshRate command generation, .success success =>
    some (.refreshRateCompleted ⟨success, command.deviceId, command.numerator,
      command.denominator, generation, command.connectionEpoch, command.requestId⟩)
  | .recovery _ generation, .recovery outcome => some (.recoveryCompleted ⟨outcome, generation⟩)
  | .recoveryValidation _ generation, .success success =>
    some (.recoveryValidationCompleted ⟨success, generation⟩)
  | _, _ => none

variable (m : Machine)

namespace Machine

def setWorker (worker : List Task) : Machine :=
  m.updDispatcher fun d => { d with worker := worker }

/-- The timer thread serves the oldest delayed verification; a cancelled one is
dropped without a completion. -/
def fireTimer : Machine :=
  match m.dispatcher.timers with
  | [] => m
  | task :: rest => m.updDispatcher fun d =>
    { d with
      timers := rest
      worker := if task.generation = d.generation then d.worker ++ [task] else d.worker }

def enterRecoveryWorker : Machine :=
  match m.dispatcher.worker with
  | .recovery _ generation :: _ =>
    if m.isStale generation then m
    else m.updRestoreState fun r => { r with restoreAttemptedUnconfirmed := true }
  | _ => m

def running : Bool :=
  !m.trace.any fun
    | .exit _ ends => ends
    | _ => false

end Machine

structure Helper where
  machine : Machine := {}
  epoch : Nat := 0

inductive Input where
  | message (message : Message)
  | completion (answer : Answer)
  | timer
  | recoveryEntered
  | tick
  | disconnect

namespace Helper

def respond (p : Ports) : Input → Machine
  | .message message => m.handleMessage p message
  | .completion answer =>
    match m.dispatcher.worker with
    | [] => m
    | task :: rest =>
      match task.completion answer with
      | none => m
      | some message => (m.setWorker rest).handleMessage p message
  | .timer => m.fireTimer
  | .recoveryEntered => m.enterRecoveryWorker
  | .tick => m.handleTick p
  | .disconnect => (m.beginTransientDisconnectSettlement p).2

/-- The epochs one invocation observes do not run backwards. -/
structure Observes (p : Ports) (epoch : Nat) : Prop where
  ingress : epoch ≤ p.epoch
  drain : ∀ waiting, p.epoch ≤ p.drainEpoch waiting
  close : ∀ waiting, p.drainEpoch waiting ≤ p.epochAtEnd

def Promised (p : Ports) : Input → Prop
  | .message message =>
    message.isCompletion = false ∧ message.connectionEpoch ≤ p.epoch ∧
      -- the helper's own REVERT after a disconnect carries no ticket
      ∀ command, message = .revertCommand command → command.fromDisconnect = true →
        command.restoreTicket = 0
  | .disconnect =>
    isStaleConnection p.epoch m.session.currentConnectionEpoch = true ∨
      m.session.currentRequest.configuration = none
  | _ => True

end Helper

end Vibeshine.DisplayHelper
