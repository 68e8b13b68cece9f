import Mathlib.Tactic.Common

/-! # Programs that make requests

A program makes requests one after the other and goes on with the replies. What holds of
all its runs is established in two ways: for any replies at all, as a condition on the
trace, and against a service with a state, as a condition on the state in which the program
ends together with one on every state in which it can be interrupted.
-/

namespace Vibeshine.Library

inductive Program (ρ : Type) (Reply : ρ → Type) (α : Type) where
  | done (result : α)
  | ask (request : ρ) (next : Reply request → Program ρ Reply α)

namespace Program

variable {ρ : Type} {Reply : ρ → Type} {α β : Type}

def bind : Program ρ Reply α → (α → Program ρ Reply β) → Program ρ Reply β
  | .done result, rest => rest result
  | .ask request next, rest => .ask request fun reply => (next reply).bind rest

instance : Monad (Program ρ Reply) where
  pure := .done
  bind := bind

def request (request : ρ) : Program ρ Reply (Reply request) := .ask request .done

@[simp] lemma pure_eq (result : α) : (pure result : Program ρ Reply α) = .done result := rfl

@[simp] lemma done_bind (result : α) (rest : α → Program ρ Reply β) :
    Program.done result >>= rest = rest result := rfl

@[simp] lemma ask_bind (request : ρ) (next : Reply request → Program ρ Reply α)
    (rest : α → Program ρ Reply β) :
    Program.ask request next >>= rest = .ask request fun reply => next reply >>= rest := rfl

@[simp] lemma request_bind (request : ρ) (rest : Reply request → Program ρ Reply β) :
    Program.request request >>= rest = .ask request rest := rfl

structure Exchange {ρ : Type} (Reply : ρ → Type) where
  request : ρ
  reply : Reply request

inductive Runs : Program ρ Reply α → List (Exchange Reply) → α → Prop where
  | done (result : α) : Runs (.done result) [] result
  | ask {request : ρ} {next : Reply request → Program ρ Reply α} {trace : List (Exchange Reply)}
      {result : α} (reply : Reply request) (rest : Runs (next reply) trace result) :
      Runs (.ask request next) (⟨request, reply⟩ :: trace) result

def Every (program : Program ρ Reply α) (post : List (Exchange Reply) → α → Prop) : Prop :=
  ∀ trace result, program.Runs trace result → post trace result

@[simp] lemma every_done {result : α} {post : List (Exchange Reply) → α → Prop} :
    (Program.done result : Program ρ Reply α).Every post ↔ post [] result :=
  ⟨fun h => h _ _ (.done _), fun h _ _ hruns => by cases hruns; exact h⟩

@[simp] lemma every_ask {request : ρ} {next : Reply request → Program ρ Reply α}
    {post : List (Exchange Reply) → α → Prop} : (Program.ask request next).Every post ↔
      ∀ reply, (next reply).Every fun trace result => post (⟨request, reply⟩ :: trace) result :=
  ⟨fun h reply _ _ hruns => h _ _ (.ask reply hruns), fun h _ _ hruns => by
    cases hruns with
    | ask reply rest => exact h reply _ _ rest⟩

variable {program : Program ρ Reply α}

lemma Every.mono {post weaker : List (Exchange Reply) → α → Prop}
    (h : program.Every post) (himp : ∀ trace result, post trace result → weaker trace result) :
    program.Every weaker :=
  fun trace result hruns => himp _ _ (h trace result hruns)

lemma Every.bind {rest : α → Program ρ Reply β} {post : List (Exchange Reply) → β → Prop}
    (h : program.Every fun trace value =>
      (rest value).Every fun later result => post (trace ++ later) result) :
    (program >>= rest).Every post := by
  induction program generalizing post with
  | done result => simpa using h
  | ask request next ih =>
    simp only [every_ask, ask_bind] at h ⊢
    exact fun reply => ih reply (h reply)

/-! ## A service with a state -/

variable {σ : Type} (serves : σ → (request : ρ) → Reply request → σ → Prop)

inductive Finishes : Program ρ Reply α → σ → α → σ → Prop where
  | done (result : α) (state : σ) : Finishes (.done result) state result state
  | ask {request : ρ} {next : Reply request → Program ρ Reply α} {state served final : σ}
      {result : α} (reply : Reply request) (serve : serves state request reply served)
      (rest : Finishes (next reply) served result final) :
      Finishes (.ask request next) state result final

inductive Visits : Program ρ Reply α → σ → σ → Prop where
  | here (program : Program ρ Reply α) (state : σ) : Visits program state state
  | ask {request : ρ} {next : Reply request → Program ρ Reply α} {state served final : σ}
      (reply : Reply request) (serve : serves state request reply served)
      (rest : Visits (next reply) served final) : Visits (.ask request next) state final

/-- Started in a state, the program is interrupted in states that satisfy `crash` only, and
ends as stated by `post`. -/
structure Ensures (program : Program ρ Reply α) (state : σ) (crash : σ → Prop)
    (post : α → σ → Prop) : Prop where
  interrupted : ∀ final, program.Visits serves state final → crash final
  finished : ∀ result final, program.Finishes serves state result final → post result final

variable {serves} {state : σ} {crash : σ → Prop} {post : α → σ → Prop}

lemma Ensures.done {result : α} (hcrash : crash state) (hpost : post result state) :
    (Program.done result : Program ρ Reply α).Ensures serves state crash post where
  interrupted _ hvisits := by cases hvisits; exact hcrash
  finished _ _ hfinishes := by cases hfinishes; exact hpost

lemma Ensures.ask {request : ρ} {next : Reply request → Program ρ Reply α} (hcrash : crash state)
    (h : ∀ reply served, serves state request reply served →
      (next reply).Ensures serves served crash post) :
    (Program.ask request next).Ensures serves state crash post where
  interrupted _ hvisits := by
    cases hvisits with
    | here => exact hcrash
    | ask reply serve rest => exact (h reply _ serve).interrupted _ rest
  finished _ _ hfinishes := by
    cases hfinishes with
    | ask reply serve rest => exact (h reply _ serve).finished _ _ rest

lemma Finishes.visits {program : Program ρ Reply α} {result : α} {final : σ}
    (h : program.Finishes serves state result final) : program.Visits serves state final := by
  induction h with
  | done => exact .here _ _
  | ask reply serve _ ih => exact .ask reply serve ih

lemma Ensures.mono {program : Program ρ Reply α} {crash' : σ → Prop} {post' : α → σ → Prop}
    (h : program.Ensures serves state crash post) (hcrash : ∀ final, crash final → crash' final)
    (hpost : ∀ result final, crash final → post result final → post' result final) :
    program.Ensures serves state crash' post' where
  interrupted final hvisits := hcrash final (h.interrupted final hvisits)
  finished result final hfinishes :=
    hpost result final (h.interrupted final hfinishes.visits) (h.finished result final hfinishes)

lemma Ensures.bind {program : Program ρ Reply α} {rest : α → Program ρ Reply β}
    {post : β → σ → Prop} (h : program.Ensures serves state crash fun value middle =>
      (rest value).Ensures serves middle crash post) :
    (program >>= rest).Ensures serves state crash post := by
  induction program generalizing state with
  | done result => exact h.finished _ _ (.done _ _)
  | ask request next ih =>
    refine .ask (h.interrupted _ (.here _ _)) fun reply served hserve => ih reply ⟨?_, ?_⟩
    · exact fun final hvisits => h.interrupted _ (.ask reply hserve hvisits)
    · exact fun value middle hfinishes => h.finished _ _ (.ask reply hserve hfinishes)

lemma Ensures.invariant {program : Program ρ Reply α} {inv : σ → Prop}
    (h : program.Ensures serves state crash post) (hstart : inv state)
    (hstep : ∀ state request reply served, inv state → crash served →
      serves state request reply served → inv served) :
    program.Ensures serves state (fun final => crash final ∧ inv final) post := by
  refine ⟨fun final hvisits => ⟨h.interrupted final hvisits, ?_⟩, h.finished⟩
  have hcrash := h.interrupted
  clear h
  induction hvisits with
  | here => exact hstart
  | ask reply serve rest ih =>
    exact ih (hstep _ _ reply _ hstart (hcrash _ (.ask reply serve (.here _ _))) serve)
      fun final hvisits => hcrash final (.ask reply serve hvisits)

/-! ## Programs that make requests of one kind -/

def Asks (kind : ρ → Prop) : Program ρ Reply α → Prop
  | .done _ => True
  | .ask request next => kind request ∧ ∀ reply, (next reply).Asks kind

variable {kind : ρ → Prop}

lemma Asks.done (result : α) : (Program.done result : Program ρ Reply α).Asks kind := trivial

lemma Asks.request {request : ρ} (h : kind request) :
    (Program.request request : Program ρ Reply (Reply request)).Asks kind :=
  ⟨h, fun _ => trivial⟩

lemma Asks.bind {program : Program ρ Reply α} {rest : α → Program ρ Reply β}
    (h : program.Asks kind) (hrest : ∀ value, (rest value).Asks kind) :
    (program >>= rest).Asks kind := by
  induction program with
  | done result => exact hrest result
  | ask request next ih => exact ⟨h.1, fun reply => ih reply (h.2 reply)⟩

lemma Asks.ensures {program : Program ρ Reply α} {inv : σ → Prop} (h : program.Asks kind)
    (hstart : inv state) (hstep : ∀ state request reply served, kind request → inv state →
      serves state request reply served → inv served) (hcrash : ∀ state, inv state → crash state)
    (hpost : ∀ result state, inv state → post result state) :
    program.Ensures serves state crash post := by
  induction program generalizing state with
  | done result => exact .done (hcrash state hstart) (hpost result state hstart)
  | ask request next ih =>
    refine .ask (hcrash state hstart) fun reply served hserves => ?_
    exact ih reply (h.2 reply) (hstep state request reply served h.1 hstart hserves)

def run (handle : σ → (request : ρ) → Reply request × σ) : Program ρ Reply α → σ → α × σ
  | .done result, state => (result, state)
  | .ask request next, state =>
    (next (handle state request).1).run handle (handle state request).2

section

variable (handle : σ → (request : ρ) → Reply request × σ)

include handle

@[simp] lemma run_done (result : α)
    (state : σ) : (Program.done result : Program ρ Reply α).run handle state = (result, state) :=
  rfl

@[simp] lemma run_ask (request : ρ) (next : Reply request → Program ρ Reply α) (state : σ) :
    (Program.ask request next).run handle state =
      (next (handle state request).1).run handle (handle state request).2 := rfl

lemma run_bind (program : Program ρ Reply α)
    (rest : α → Program ρ Reply β) (state : σ) : (program >>= rest).run handle state =
      (rest (program.run handle state).1).run handle (program.run handle state).2 := by
  induction program generalizing state with
  | done result => rfl
  | ask request next ih => exact ih (handle state request).1 (handle state request).2

end

lemma finishes_run {handle : σ → (request : ρ) → Reply request × σ}
    (hhandle : ∀ state request, serves state request (handle state request).1
      (handle state request).2) (program : Program ρ Reply α) (state : σ) :
    program.Finishes serves state (program.run handle state).1 (program.run handle state).2 := by
  induction program generalizing state with
  | done result => exact .done _ _
  | ask request next ih => exact .ask _ (hhandle state request) (ih _ _)

def stopAfter (handle : σ → (request : ρ) → Reply request × σ) : Nat → Program ρ Reply α → σ → σ
  | 0, _, state => state
  | _ + 1, .done _, state => state
  | count + 1, .ask request next, state =>
    stopAfter handle count (next (handle state request).1) (handle state request).2

lemma visits_stopAfter {handle : σ → (request : ρ) → Reply request × σ}
    (hhandle : ∀ state request, serves state request (handle state request).1
      (handle state request).2) (count : Nat) (program : Program ρ Reply α) (state : σ) :
    program.Visits serves state (stopAfter handle count program state) := by
  induction count generalizing program state with
  | zero => exact .here _ _
  | succ count ih =>
    cases program with
    | done result => exact .here _ _
    | ask request next => exact .ask _ (hhandle state request) (ih _ _)

end Program

end Vibeshine.Library
