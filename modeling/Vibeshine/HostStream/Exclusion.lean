import Vibeshine.HostStream.Control

/-! # Terminal actions run alone

The counter of activities counts the threads that own a registered guard and the
callback reservations; a terminal action runs when it is zero and nothing can enter.
-/

namespace Vibeshine.HostStream

open Library List Function Bool State

def Phase.inside : Phase → Bool
  | .draining | .reauthorizing | .acting | .closing => true
  | .idle | .authorizing | .unlocking => false

namespace State

/-- The invariant of the control. -/
structure Inv (s : State) : Prop where
  ids : (s.guards.map Guard.id).Nodup
  made : ∀ guard ∈ s.guards, guard.id < s.made
  depth : ∀ thread, (s.locals thread).depth = s.guards.countP fun guard => guard.thread = thread
  owning : ∀ thread, (s.locals thread).registered = true → (s.locals thread).depth ≠ 0
  covered : ∀ thread, (s.locals thread).depth ≠ 0 →
    (s.locals thread).registered = true ∨ (s.locals thread).terminal = true
  counted : ∃ owners : List Nat, owners.Nodup ∧
    (∀ thread, thread ∈ owners ↔ (s.locals thread).registered = true) ∧
    s.active = owners.length + s.callbacks.length
  callbacks : s.callbacks.Nodup ∧ ∀ id ∈ s.callbacks, id < s.made
  lock : ∀ thread, s.terminal = some thread ↔ s.phase thread ≠ .idle
  epoch : s.closed = s.terminal.any fun thread => (s.phase thread).inside
  acting : ∀ thread, s.phase thread = .acting → (s.locals thread).terminal = true
  terminal : ∀ thread, (s.locals thread).terminal = true →
    s.phase thread = .acting ∨ s.phase thread = .closing
  bare : ∀ thread, s.phase thread = .draining ∨ s.phase thread = .closing ∨
    s.phase thread = .unlocking → (s.locals thread).depth = 0
  quiet : ∀ thread, s.phase thread = .reauthorizing ∨ s.phase thread = .acting → s.active = 0
  begun : s.begun = (s.epoch + 1) / 2
  tickets : ∀ ticket ∈ s.tickets, ticket.epoch ≤ s.epoch ∧ ticket.begun = (ticket.epoch + 1) / 2
  held : ∀ guard ∈ s.guards, ∀ ticket ∈ guard.ticket, ticket ∈ s.tickets
  admitted : ∀ guard ∈ s.guards, guard.admitted = some true →
    (s.locals guard.thread).registered = true

variable {s : State}

lemma inv_init : Inv system.init where
  ids := nodup_nil
  made := fun _ hmem => (not_mem_nil hmem).elim
  depth := fun _ => rfl
  owning := fun _ h => by cases h
  covered := fun _ h => absurd rfl h
  counted := ⟨[], nodup_nil, fun _ => ⟨fun hmem => (not_mem_nil hmem).elim,
    fun h => by cases h⟩, rfl⟩
  callbacks := ⟨nodup_nil, fun _ hmem => (not_mem_nil hmem).elim⟩
  lock := fun _ => ⟨fun h => (by cases h), fun h => absurd rfl h⟩
  epoch := rfl
  acting := fun _ h => (by cases h)
  terminal := fun _ h => (by cases h)
  bare := fun _ _ => rfl
  quiet := fun _ _ => rfl
  begun := rfl
  tickets := fun _ hmem => (not_mem_nil hmem).elim
  held := fun _ hmem => (not_mem_nil hmem).elim
  admitted := fun _ hmem => (not_mem_nil hmem).elim

/-! ## Phases -/

lemma Inv.alone (h : s.Inv) {thread other : Nat} (hthread : s.phase thread ≠ .idle)
    (hother : s.phase other ≠ .idle) : other = thread :=
  Option.some.inj (((h.lock other).mpr hother).symm.trans ((h.lock thread).mpr hthread))

lemma Inv.closed_eq (h : s.Inv) {thread : Nat} (hthread : s.phase thread ≠ .idle) :
    s.closed = (s.phase thread).inside := by
  rw [h.epoch, (h.lock thread).mpr hthread]
  rfl

lemma Inv.closed_of_terminal (h : s.Inv) {thread : Nat}
    (hterminal : (s.locals thread).terminal = true) : s.closed = true := by
  rcases h.terminal thread hterminal with hphase | hphase
  · rw [h.closed_eq (by rw [hphase]; simp), hphase]
    rfl
  · rw [h.closed_eq (by rw [hphase]; simp), hphase]
    rfl

def moved (s : State) (thread : Nat) (phase : Phase) (epoch begun : Nat) (terminal : Bool) :
    State :=
  { s with
    epoch := epoch
    begun := begun
    terminal := if phase = .idle then none else some thread
    locals := Function.update s.locals thread ({ s.locals thread with terminal := terminal })
    phase := Function.update s.phase thread phase }

lemma moved_locals (s : State) (thread : Nat) (phase : Phase) (epoch begun : Nat)
    (terminal : Bool) (other : Nat) :
    ((s.moved thread phase epoch begun terminal).locals other).depth = (s.locals other).depth ∧
      ((s.moved thread phase epoch begun terminal).locals other).registered =
        (s.locals other).registered := by
  by_cases hsame : other = thread
  · subst hsame
    simp [moved]
  · simp [moved, update_of_ne hsame]

section

variable (h : s.Inv)

include h

lemma Inv.moved {thread : Nat} {phase : Phase} {epoch begun : Nat} {terminal : Bool}
    (hlock : s.terminal = none ∨ s.terminal = some thread)
    (hepoch : decide (epoch % 2 = 1) = phase.inside) (hbegun : begun = (epoch + 1) / 2)
    (hle : s.epoch ≤ epoch) (hacting : phase = .acting → terminal = true)
    (hterminal : terminal = true → phase = .acting ∨ phase = .closing)
    (hdepth : (s.locals thread).depth = 0)
    (hquiet : phase = .reauthorizing ∨ phase = .acting → s.active = 0) :
    (s.moved thread phase epoch begun terminal).Inv := by
  have hlocals := moved_locals s thread phase epoch begun terminal
  have hothers : ∀ other, other ≠ thread → s.phase other = .idle := by
    intro other hne
    by_contra hphase
    have howner := (h.lock other).mpr hphase
    rcases hlock with hnone | hsome
    · rw [hnone] at howner
      cases howner
    · exact hne (Option.some.inj (howner.symm.trans hsome))
  refine
    { ids := h.ids
      made := h.made
      depth := fun other => (hlocals other).1.trans (h.depth other)
      owning := fun other => ?_
      covered := fun other => ?_
      counted := ?_
      callbacks := h.callbacks
      lock := fun other => ?_
      epoch := ?_
      acting := fun other hother => ?_
      terminal := fun other hother => ?_
      bare := fun other hother => ?_
      quiet := fun other hother => ?_
      begun := hbegun
      tickets := fun ticket hmem =>
        ⟨Nat.le_trans (h.tickets ticket hmem).1 hle, (h.tickets ticket hmem).2⟩
      held := h.held
      admitted := fun guard hmem hguard => ?_ }
  · rw [(hlocals other).1, (hlocals other).2]
    exact h.owning other
  · rw [(hlocals other).1, (hlocals other).2]
    intro hother
    by_cases hsame : other = thread
    · subst hsame
      exact absurd hdepth hother
    · refine .inl ((h.covered other hother).resolve_right fun hflag => ?_)
      rcases h.terminal other hflag with hphase | hphase
      · rw [hothers other hsame] at hphase
        cases hphase
      · rw [hothers other hsame] at hphase
        cases hphase
  · obtain ⟨owners, hnodup, hmem, hactive⟩ := h.counted
    exact ⟨owners, hnodup, fun other => (hmem other).trans (by rw [(hlocals other).2]), hactive⟩
  · by_cases hsame : other = thread
    · subst hsame
      by_cases hidle : phase = .idle <;> simp [State.moved, hidle]
    · simp only [State.moved, update_of_ne hsame, hothers other hsame]
      split
      · simp
      · simp only [Option.some.injEq, ne_eq, not_true_eq_false, iff_false]
        exact Ne.symm hsame
  · by_cases hidle : phase = .idle
    · simp only [State.moved, closed, hepoch, hidle, if_pos]
      rfl
    · simp only [State.moved, closed, hepoch, if_neg hidle, Option.any_some, update_self]
  · by_cases hsame : other = thread
    · subst hsame
      simp only [State.moved, update_self] at hother ⊢
      exact hacting hother
    · simp only [State.moved, update_of_ne hsame, hothers other hsame] at hother
      cases hother
  · by_cases hsame : other = thread
    · subst hsame
      simp only [State.moved, update_self] at hother ⊢
      exact hterminal hother
    · simp only [State.moved, update_of_ne hsame] at hother ⊢
      exact h.terminal other hother
  · rw [(hlocals other).1]
    by_cases hsame : other = thread
    · rw [hsame]
      exact hdepth
    · simp only [State.moved, update_of_ne hsame, hothers other hsame] at hother
      rcases hother with hother | hother | hother <;> cases hother
  · by_cases hsame : other = thread
    · subst hsame
      simp only [State.moved, update_self] at hother
      exact hquiet hother
    · simp only [State.moved, update_of_ne hsame, hothers other hsame] at hother
      rcases hother with hother | hother <;> cases hother
  · rw [(hlocals guard.thread).2]
    exact h.admitted guard hmem hguard

lemma Inv.unregistered {thread : Nat} (hdepth : (s.locals thread).depth = 0) :
    (s.locals thread).registered = false := by
  cases hregd : (s.locals thread).registered with
  | false => rfl
  | true => exact absurd hdepth (h.owning thread hregd)

lemma Inv.depth_zero {thread : Nat} (hbare : s.bare thread) : (s.locals thread).depth = 0 := by
  rw [h.depth, countP_eq_zero]
  exact fun guard hmem => by simpa using hbare guard hmem

lemma setPhase_eq_moved {thread : Nat} {phase : Phase}
    (hthread : s.phase thread ≠ .idle) (hphase : phase ≠ .idle) : s.setPhase thread phase =
      s.moved thread phase s.epoch s.begun (s.locals thread).terminal := by
  simp only [setPhase, moved, if_neg hphase, (h.lock thread).mpr hthread, update_eq_self]

lemma Inv.setPhase {thread : Nat} {phase : Phase} (hthread : s.phase thread ≠ .idle)
    (hphase : phase ≠ .idle) (hinside : (s.phase thread).inside = phase.inside)
    (hacting : phase ≠ .acting) (hterminal : (s.locals thread).terminal = true → phase = .closing)
    (hdepth : (s.locals thread).depth = 0) (hquiet : phase = .reauthorizing → s.active = 0) :
    (s.setPhase thread phase).Inv := by
  rw [setPhase_eq_moved h hthread hphase]
  refine h.moved (.inr ((h.lock thread).mpr hthread)) ?_ h.begun (Nat.le_refl _)
    (fun hsame => absurd hsame hacting) (fun hflag => .inr (hterminal hflag)) hdepth ?_
  · exact (h.closed_eq hthread).trans hinside
  · exact fun hsame => hquiet (hsame.resolve_right hacting)

lemma inv_terminate (thread : Nat) : (s.terminate thread).2.Inv := by
  unfold terminate
  dsimp only
  split
  · exact h
  · next hrefused =>
    split
    · next hnone =>
      have hdepth : (s.locals thread).depth = 0 := by
        by_contra hne
        exact hrefused (by simp [hne])
      have hflag : (s.locals thread).terminal = false := by
        by_contra hne
        exact hrefused (by simp [hne])
      have hopen : decide (s.epoch % 2 = 1) = false := by
        have hepoch := h.epoch
        rwa [hnone] at hepoch
      have heq : { s with
          terminal := some thread
          phase := Function.update s.phase thread .authorizing } =
          s.moved thread .authorizing s.epoch s.begun (s.locals thread).terminal := by
        simp [moved]
      rw [heq]
      refine h.moved (.inl hnone) hopen h.begun (Nat.le_refl _) (fun hsame => by cases hsame)
        (fun hsame => ?_) hdepth fun hsame => ?_
      · rw [hflag] at hsame
        cases hsame
      · rcases hsame with hsame | hsame <;> cases hsame
    · exact h

lemma inv_authorize {thread : Nat} (hphase : s.phase thread = .authorizing)
    (hbare : s.bare thread) (answer : Bool) : (s.authorize thread answer).Inv := by
  have hidle : s.phase thread ≠ .idle := by
    rw [hphase]
    simp
  have hdepth := h.depth_zero hbare
  have hflag : (s.locals thread).terminal = false := by
    by_contra hset
    rcases h.terminal thread (by simpa using hset) with hsame | hsame <;> rw [hphase] at hsame <;>
      cases hsame
  have hopen : decide (s.epoch % 2 = 1) = false := by
    have hclosed := h.closed_eq hidle
    rwa [hphase] at hclosed
  unfold authorize
  split
  · have heq : { s with epoch := s.epoch + 1, begun := s.begun + 1 }.setPhase thread .draining =
        s.moved thread .draining (s.epoch + 1) (s.begun + 1) (s.locals thread).terminal := by
      simp only [setPhase, moved, reduceCtorEq, if_false, (h.lock thread).mpr hidle, update_eq_self]
    have heven := of_decide_eq_false hopen
    have hbegun := h.begun
    rw [heq]
    refine h.moved (.inr ((h.lock thread).mpr hidle)) (decide_eq_true ?_) ?_ (Nat.le_succ _)
      (fun hsame => by cases hsame) (fun hsame => ?_) hdepth fun hsame => ?_
    · omega
    · omega
    · rw [hflag] at hsame
      cases hsame
    · rcases hsame with hsame | hsame <;> cases hsame
  · refine h.setPhase hidle (by simp) (by rw [hphase]; rfl) (by simp) (fun hsame => ?_) hdepth
      (fun hsame => by cases hsame)
    rw [hflag] at hsame
    cases hsame

lemma inv_drain {thread : Nat} (hphase : s.phase thread = .draining)
    (timeout : Bool) : (s.drain thread timeout).Inv := by
  have hidle : s.phase thread ≠ .idle := by
    rw [hphase]
    simp
  have hdepth := h.bare thread (.inl hphase)
  unfold drain
  split
  · exact h.setPhase hidle (by simp) (by rw [hphase]; rfl) (by simp) (fun _ => rfl) hdepth
      (fun hsame => by cases hsame)
  · split
    · next hzero =>
      refine h.setPhase hidle (by simp) (by rw [hphase]; rfl) (by simp) (fun hflag => ?_) hdepth
        fun _ => hzero
      rcases h.terminal thread hflag with hsame | hsame <;> rw [hphase] at hsame <;> cases hsame
    · exact h

lemma inv_reauthorize {thread : Nat} (hphase : s.phase thread = .reauthorizing)
    (hbare : s.bare thread) (answer : Bool) : (s.reauthorize thread answer).Inv := by
  have hidle : s.phase thread ≠ .idle := by
    rw [hphase]
    simp
  have hdepth := h.depth_zero hbare
  have hquiet := h.quiet thread (.inl hphase)
  unfold reauthorize
  split
  · have heq : { s with
        locals := Function.update s.locals thread
          ({ s.locals thread with terminal := true }) }.setPhase thread .acting =
        s.moved thread .acting s.epoch s.begun true := by
      simp only [setPhase, moved, reduceCtorEq, if_false, (h.lock thread).mpr hidle]
    have hclosed := h.closed_eq hidle
    rw [hphase] at hclosed
    rw [heq]
    exact h.moved (.inr ((h.lock thread).mpr hidle)) hclosed h.begun (Nat.le_refl _) (fun _ => rfl)
      (fun _ => .inl rfl) hdepth fun _ => hquiet
  · exact h.setPhase hidle (by simp) (by rw [hphase]; rfl) (by simp) (fun _ => rfl) hdepth
      (fun hsame => by cases hsame)

lemma inv_finish {thread : Nat} (hphase : s.phase thread = .acting)
    (hbare : s.bare thread) : (s.setPhase thread .closing).Inv := by
  refine h.setPhase (by rw [hphase]; simp) (by simp) (by rw [hphase]; rfl) (by simp) (fun _ => rfl)
    (h.depth_zero hbare) fun hsame => ?_
  cases hsame

lemma inv_reopen {thread : Nat} (hphase : s.phase thread = .closing) : (s.reopen thread).Inv := by
  have hidle : s.phase thread ≠ .idle := by
    rw [hphase]
    simp
  have hclosed : s.epoch % 2 = 1 := by
    have hclosed := h.closed_eq hidle
    rw [hphase] at hclosed
    exact of_decide_eq_true hclosed
  have heq : s.reopen thread = s.moved thread .unlocking (s.epoch + 1) s.begun false := by
    simp only [reopen, setPhase, moved, reduceCtorEq, if_false, (h.lock thread).mpr hidle]
  have hbegun := h.begun
  rw [heq]
  refine h.moved (.inr ((h.lock thread).mpr hidle)) (decide_eq_false ?_) ?_ (Nat.le_succ _)
    (fun hsame => by cases hsame) (fun hsame => by cases hsame) (h.bare thread (.inr (.inl hphase)))
    fun hsame => ?_
  · omega
  · omega
  · rcases hsame with hsame | hsame <;> cases hsame

lemma inv_unlock {thread : Nat} (hphase : s.phase thread = .unlocking) : (s.unlock thread).Inv := by
  have hidle : s.phase thread ≠ .idle := by
    rw [hphase]
    simp
  have hflag : (s.locals thread).terminal = false := by
    by_contra hset
    rcases h.terminal thread (by simpa using hset) with hsame | hsame <;> rw [hphase] at hsame <;>
      cases hsame
  have hclosed := h.closed_eq hidle
  rw [hphase] at hclosed
  have heq : s.unlock thread = s.moved thread .idle s.epoch s.begun (s.locals thread).terminal := by
    simp only [unlock, setPhase, moved, if_true, update_eq_self]
  rw [heq]
  refine h.moved (.inr ((h.lock thread).mpr hidle)) hclosed h.begun (Nat.le_refl _)
    (fun hsame => by cases hsame) (fun hsame => ?_) (h.bare thread (.inr (.inr hphase)))
    fun hsame => ?_
  · rw [hflag] at hsame
    cases hsame
  · rcases hsame with hsame | hsame <;> cases hsame

end

/-! ## Guards -/

lemma not_blocked {thread : Nat} (hfree : s.free thread) :
    ¬ (s.phase thread = .draining ∨ s.phase thread = .closing ∨ s.phase thread = .unlocking) := by
  rintro (hphase | hphase | hphase) <;> rcases hfree with hfree | hfree | hfree | hfree <;>
    rw [hphase] at hfree <;> cases hfree

section

variable (h : s.Inv)

include h

lemma Inv.not_quiet (hopen : s.closed = false) (thread : Nat) :
    ¬ (s.phase thread = .reauthorizing ∨ s.phase thread = .acting) := by
  rintro (hphase | hphase)
  · rw [h.closed_eq (by rw [hphase]; simp), hphase] at hopen
    cases hopen
  · rw [h.closed_eq (by rw [hphase]; simp), hphase] at hopen
    cases hopen

lemma Inv.active_pos {thread : Nat}
    (hregd : (s.locals thread).registered = true) : 0 < s.active := by
  obtain ⟨owners, -, hmem, hactive⟩ := h.counted
  have := length_pos_of_mem ((hmem thread).mpr hregd)
  omega

lemma inv_requestTicket : Inv { s with tickets := s.requestTicket :: s.tickets } :=
  { h with
    tickets := forall_mem_cons.mpr ⟨⟨Nat.le_refl _, h.begun⟩, h.tickets⟩
    held := fun guard hmem ticket hticket =>
      mem_cons_of_mem _ (h.held guard hmem ticket hticket) }

lemma Inv.addGuard {thread : Nat} {ticket : Option Ticket} {registered : Bool}
    {active : Nat} (hfree : s.free thread) (hticket : ∀ value ∈ ticket, value ∈ s.tickets)
    (hkeeps : (s.locals thread).registered = true → registered = true)
    (hcovered : registered = true ∨ (s.locals thread).terminal = true)
    (hcounted : ∃ owners : List Nat, owners.Nodup ∧
      (∀ other, other ∈ owners ↔ if other = thread then registered = true
        else (s.locals other).registered = true) ∧ active = owners.length + s.callbacks.length)
    (hquiet : ∀ other, s.phase other = .reauthorizing ∨ s.phase other = .acting → active = 0) :
    Inv { s with
      active := active
      locals := Function.update s.locals thread
        ({ s.locals thread with depth := (s.locals thread).depth + 1, registered := registered })
      guards := { id := s.made, thread := thread, ticket := ticket } :: s.guards
      made := s.made + 1 } := by
  refine
    { ids := ?_
      made := ?_
      depth := (forall_update_iff _ fun other (mine : Local) => mine.depth =
        ({ id := s.made, thread := thread, ticket := ticket } :: s.guards : List Guard).countP
          fun guard => guard.thread = other).mpr ⟨?_, fun other hother => ?_⟩
      owning := (forall_update_iff _ fun _ (mine : Local) =>
        mine.registered = true → mine.depth ≠ 0).mpr
          ⟨fun _ => Nat.succ_ne_zero _, fun other _ => h.owning other⟩
      covered := (forall_update_iff _ fun _ (mine : Local) =>
        mine.depth ≠ 0 → mine.registered = true ∨ mine.terminal = true).mpr
          ⟨fun _ => hcovered, fun other _ => h.covered other⟩
      counted := ?_
      callbacks := ⟨h.callbacks.1, fun id hmem => Nat.lt_succ_of_lt (h.callbacks.2 id hmem)⟩
      lock := h.lock
      epoch := h.epoch
      acting := (forall_update_iff _ fun other (mine : Local) =>
        s.phase other = .acting → mine.terminal = true).mpr
          ⟨h.acting thread, fun other _ => h.acting other⟩
      terminal := (forall_update_iff _ fun other (mine : Local) =>
        mine.terminal = true → s.phase other = .acting ∨ s.phase other = .closing).mpr
          ⟨h.terminal thread, fun other _ => h.terminal other⟩
      bare := (forall_update_iff _ fun other (mine : Local) =>
        s.phase other = .draining ∨ s.phase other = .closing ∨ s.phase other = .unlocking →
          mine.depth = 0).mpr
          ⟨fun hother => absurd hother (not_blocked hfree), fun other _ => h.bare other⟩
      quiet := hquiet
      begun := h.begun
      tickets := h.tickets
      held := forall_mem_cons.mpr ⟨hticket, h.held⟩
      admitted := forall_mem_cons.mpr ⟨fun hguard => (by cases hguard), ?_⟩ }
  · refine nodup_cons.mpr ⟨fun hmem => ?_, h.ids⟩
    obtain ⟨guard, hguard, hid⟩ := mem_map.mp hmem
    exact Nat.ne_of_lt (h.made guard hguard) hid
  · exact forall_mem_cons.mpr ⟨Nat.lt_succ_self _,
      fun guard hmem => Nat.lt_succ_of_lt (h.made guard hmem)⟩
  · simp [h.depth thread]
  · simp [Ne.symm hother, h.depth other]
  · obtain ⟨owners, hnodup, hmem, hactive⟩ := hcounted
    refine ⟨owners, hnodup, fun other => (hmem other).trans ?_, hactive⟩
    by_cases hsame : other = thread
    · subst hsame
      simp
    · simp [hsame]
  · intro guard hmem hguard
    have hregd := h.admitted guard hmem hguard
    by_cases hsame : guard.thread = thread
    · rw [hsame] at hregd ⊢
      simp only [update_self]
      exact hkeeps hregd
    · simp only [update_of_ne hsame]
      exact hregd

lemma inv_enter {thread : Nat} {ticket : Option Ticket} (hfree : s.free thread)
    (hticket : ∀ value ∈ ticket, value ∈ s.tickets) : (s.enter thread ticket).2.Inv := by
  unfold enter
  dsimp only
  split
  · next hnested =>
    obtain ⟨owners, hnodup, hmem, hactive⟩ := h.counted
    refine h.addGuard hfree hticket id ?_ ⟨owners, hnodup, fun other => ?_, hactive⟩ h.quiet
    · rw [or_eq_true, decide_eq_true_eq] at hnested
      exact hnested.elim (h.covered thread) .inr
    · by_cases hsame : other = thread
      · subst hsame
        simpa using hmem other
      · simpa [hsame] using hmem other
  · next hfirst =>
    have hdepth : (s.locals thread).depth = 0 := by
      by_contra hne
      exact hfirst (by simp [hne])
    split
    · exact h
    · next hopen =>
      rw [not_eq_true] at hopen
      obtain ⟨owners, hnodup, hmem, hactive⟩ := h.counted
      have hnew : thread ∉ owners := by
        rw [hmem, h.unregistered hdepth]
        simp
      refine h.addGuard hfree hticket (fun _ => rfl) (.inl rfl) ⟨thread :: owners,
        nodup_cons.mpr ⟨hnew, hnodup⟩, fun other => ?_, ?_⟩
        fun other hother => absurd hother (h.not_quiet hopen other)
      · by_cases hsame : other = thread
        · simp [hsame]
        · simpa [hsame] using hmem other
      · rw [hactive, length_cons]
        omega

lemma inv_reserve (thread : Nat) : (s.reserve thread).2.Inv := by
  unfold reserve
  split
  · exact h
  · next hadm =>
    obtain ⟨owners, hnodup, hmem, hactive⟩ := h.counted
    refine { h with
      counted := ⟨owners, hnodup, hmem, ?_⟩
      made := fun guard hguard => Nat.lt_succ_of_lt (h.made guard hguard)
      callbacks := ?_
      quiet := fun other hother => ?_ }
    · simp only [length_cons]
      omega
    · refine ⟨nodup_cons.mpr ⟨fun hold => ?_, h.callbacks.1⟩, forall_mem_cons.mpr
        ⟨Nat.lt_succ_self _, fun id hold => Nat.lt_succ_of_lt (h.callbacks.2 id hold)⟩⟩
      exact Nat.lt_irrefl _ (h.callbacks.2 _ hold)
    · cases hclosed : s.closed with
      | false => exact absurd hother (h.not_quiet hclosed other)
      | true =>
        have hregd : (s.locals thread).registered = true := by
          by_contra hnot
          exact hadm (by simp [hclosed, hnot])
        have hpos := h.active_pos hregd
        have := h.quiet other hother
        omega

lemma inv_retire {id : Nat} (hid : id ∈ s.callbacks) : (s.retire id).Inv := by
  obtain ⟨owners, hnodup, hmem, hactive⟩ := h.counted
  have hpos := length_pos_of_mem hid
  refine { h with
    counted := ⟨owners, hnodup, hmem, ?_⟩
    callbacks := ⟨h.callbacks.1.erase _, fun other hold =>
      h.callbacks.2 other (mem_of_mem_erase hold)⟩
    quiet := fun other hother => ?_ }
  · simp only [retire, length_erase_of_mem hid]
    omega
  · have := h.quiet other hother
    simp only [retire]
    omega

lemma Inv.erase_count {guard : Guard} (hguard : guard ∈ s.guards) (other : Nat) :
    (s.guards.erase guard).countP (fun g => g.thread = other) +
      (if guard.thread = other then 1 else 0) = (s.locals other).depth := by
  rw [h.depth other, (perm_cons_erase hguard).countP_eq, countP_cons]
  simp only [decide_eq_true_eq]

end

lemma leave_eq (s : State) (guard : Guard) : ∃ registered active, s.leave guard = { s with
      active := active
      locals := Function.update s.locals guard.thread ({ s.locals guard.thread with
        depth := (s.locals guard.thread).depth - 1
        registered := registered })
      guards := s.guards.erase guard } ∧
    (registered = true ↔ (s.locals guard.thread).registered = true ∧
      (s.locals guard.thread).depth - 1 ≠ 0) ∧
    active = (if (s.locals guard.thread).registered = true ∧ registered = false
      then s.active - 1 else s.active) := by
  unfold leave
  dsimp only
  split
  · next hlast =>
    rw [and_eq_true, decide_eq_true_eq] at hlast
    exact ⟨false, s.active - 1, rfl, by simp [hlast.1], by simp [hlast.2]⟩
  · next hmore =>
    refine ⟨(s.locals guard.thread).registered, s.active, rfl, ?_, ?_⟩
    · constructor
      · intro hregd
        exact ⟨hregd, fun hzero => hmore (by simp [hzero, hregd])⟩
      · exact fun hboth => hboth.1
    · cases (s.locals guard.thread).registered <;> simp

lemma Inv.counted_leave (h : s.Inv) {thread active : Nat} {mine : Local}
    (hkept : mine.registered = true → (s.locals thread).registered = true)
    (hactive : active = (if (s.locals thread).registered = true ∧ mine.registered = false
      then s.active - 1 else s.active)) : ∃ owners : List Nat, owners.Nodup ∧
      (∀ other, other ∈ owners ↔ (Function.update s.locals thread mine other).registered = true) ∧
      active = owners.length + s.callbacks.length := by
  obtain ⟨owners, hnodup, hmem, hold⟩ := h.counted
  by_cases hgone : (s.locals thread).registered = true ∧ mine.registered = false
  · have hin : thread ∈ owners := (hmem _).mpr hgone.1
    have hpos := length_pos_of_mem hin
    rw [if_pos hgone] at hactive
    refine ⟨owners.erase thread, hnodup.erase _, ?_, ?_⟩
    · refine (forall_update_iff _ fun other (mine : Local) =>
        other ∈ owners.erase thread ↔ mine.registered = true).mpr ⟨?_, fun other hother => ?_⟩
      · simp [hnodup.mem_erase_iff, hgone.2]
      · rw [hnodup.mem_erase_iff, hmem]
        exact and_iff_right hother
    · rw [length_erase_of_mem hin]
      omega
  · rw [if_neg hgone] at hactive
    refine ⟨owners, hnodup, ?_, by omega⟩
    refine (forall_update_iff _ fun other (mine : Local) =>
      other ∈ owners ↔ mine.registered = true).mpr ⟨?_, fun other _ => hmem other⟩
    rw [hmem]
    constructor
    · intro hset
      by_contra hnot
      exact hgone ⟨hset, eq_false_iff.mpr hnot⟩
    · exact hkept

lemma inv_leave (h : s.Inv) {guard : Guard} (hguard : guard ∈ s.guards)
    (hfree : s.free guard.thread) : (s.leave guard).Inv := by
  have hcount := h.erase_count hguard
  have hmine := hcount guard.thread
  rw [if_pos rfl] at hmine
  have hsub : (s.guards.erase guard).Sublist s.guards := erase_sublist
  obtain ⟨registered, active, heq, hregd, hactive⟩ := leave_eq s guard
  rw [heq]
  refine
    { ids := h.ids.sublist (hsub.map _)
      made := fun g hmem => h.made g (hsub.subset hmem)
      depth := (forall_update_iff _ fun other (mine : Local) =>
        mine.depth = (s.guards.erase guard).countP fun g => g.thread = other).mpr ⟨?_, ?_⟩
      owning := (forall_update_iff _ fun _ (mine : Local) =>
        mine.registered = true → mine.depth ≠ 0).mpr
          ⟨fun hset => (hregd.mp hset).2, fun other _ => h.owning other⟩
      covered := (forall_update_iff _ fun _ (mine : Local) =>
        mine.depth ≠ 0 → mine.registered = true ∨ mine.terminal = true).mpr
          ⟨fun hdepth => ?_, fun other _ => h.covered other⟩
      counted := h.counted_leave (fun hset => (hregd.mp hset).1) hactive
      callbacks := h.callbacks
      lock := h.lock
      epoch := h.epoch
      acting := (forall_update_iff _ fun other (mine : Local) =>
        s.phase other = .acting → mine.terminal = true).mpr
          ⟨h.acting guard.thread, fun other _ => h.acting other⟩
      terminal := (forall_update_iff _ fun other (mine : Local) =>
        mine.terminal = true → s.phase other = .acting ∨ s.phase other = .closing).mpr
          ⟨h.terminal guard.thread, fun other _ => h.terminal other⟩
      bare := (forall_update_iff _ fun other (mine : Local) =>
        s.phase other = .draining ∨ s.phase other = .closing ∨ s.phase other = .unlocking →
          mine.depth = 0).mpr
          ⟨fun hother => absurd hother (not_blocked hfree), fun other _ => h.bare other⟩
      quiet := fun other hother => ?_
      begun := h.begun
      tickets := h.tickets
      held := fun g hmem => h.held g (hsub.subset hmem)
      admitted := fun g hmem hg => ?_ }
  · simp only
    omega
  · intro other hother
    have hothers := hcount other
    rw [if_neg (Ne.symm hother)] at hothers
    omega
  · simp only at hdepth ⊢
    exact (h.covered guard.thread (by omega)).imp_left fun hset => hregd.mpr ⟨hset, hdepth⟩
  · have hzero := h.quiet other hother
    simp only
    split at hactive <;> omega
  · have hold := h.admitted g (hsub.subset hmem) hg
    by_cases hsame : g.thread = guard.thread
    · rw [hsame] at hold ⊢
      simp only [update_self]
      refine hregd.mpr ⟨hold, fun hzero => ?_⟩
      -- another guard of the thread is left
      have hpos : 0 < (s.guards.erase guard).countP fun g => g.thread = guard.thread :=
        countP_pos_iff.mpr ⟨g, hmem, by simpa using hsame⟩
      omega
    · simp only [update_of_ne hsame]
      exact hold

lemma Guard.compare_admitted {guard : Guard} {epoch : Nat}
    (h : (guard.compare epoch).admitted = some true) :
    ∃ ticket ∈ guard.ticket, ticket.epoch % 2 = 0 ∧ ticket.epoch = epoch := by
  unfold Guard.compare at h
  obtain ⟨ticket, hticket, hsame⟩ := Option.map_eq_some_iff.mp h
  simp only [and_eq_true, decide_eq_true_eq] at hsame
  exact ⟨ticket, hticket, hsame⟩

lemma inv_judge (h : s.Inv) (id : Nat) : (s.judge id).Inv := by
  have hmap : ∀ guard ∈ (s.judge id).guards, ∃ old ∈ s.guards,
      guard.id = old.id ∧ guard.thread = old.thread ∧ guard.ticket = old.ticket ∧
        (guard = old ∨ guard = old.compare s.epoch) := by
    intro guard hmem
    obtain ⟨old, hold, rfl⟩ := mem_map.mp hmem
    refine ⟨old, hold, ?_⟩
    split
    · exact ⟨rfl, rfl, rfl, .inr rfl⟩
    · exact ⟨rfl, rfl, rfl, .inl rfl⟩
  refine { h with
    ids := ?_
    made := fun guard hmem => ?_
    depth := fun thread => ?_
    held := fun guard hmem ticket hticket => ?_
    admitted := fun guard hmem hguard => ?_ }
  · have hsame : (s.judge id).guards.map Guard.id = s.guards.map Guard.id := by
      simp only [judge, map_map]
      refine map_congr_left fun guard _ => ?_
      simp only [Function.comp]
      split <;> rfl
    rw [hsame]
    exact h.ids
  · obtain ⟨old, hold, hid, -⟩ := hmap guard hmem
    rw [hid]
    exact h.made old hold
  · refine (h.depth thread).trans ?_
    simp only [judge, countP_map]
    refine countP_congr fun guard _ => ?_
    simp only [Function.comp]
    split <;> rfl
  · obtain ⟨old, hold, -, -, hsame, -⟩ := hmap guard hmem
    exact h.held old hold ticket (hsame ▸ hticket)
  · obtain ⟨old, hold, -, hthread, -, hcase⟩ := hmap guard hmem
    rw [hthread]
    rcases hcase with rfl | rfl
    · exact h.admitted _ hold hguard
    · obtain ⟨ticket, -, heven, hepoch⟩ := Guard.compare_admitted hguard
      have hdepth : (s.locals old.thread).depth ≠ 0 := by
        rw [h.depth]
        exact Nat.ne_of_gt (countP_pos_iff.mpr ⟨old, hold, by simp⟩)
      refine (h.covered old.thread hdepth).resolve_right fun hflag => ?_
      have hclosed := of_decide_eq_true (h.closed_of_terminal hflag)
      omega

lemma inv_step (s : State) (move : Move) (h : s.Inv) (hadmits : s.Admits move) :
    (s.step move).Inv := by
  cases move with
  | requestTicket => exact inv_requestTicket h
  | enter thread ticket => exact inv_enter h hadmits.1 hadmits.2
  | judge guard => exact inv_judge h guard.id
  | leave guard => exact inv_leave h hadmits.1 hadmits.2
  | reserve thread => exact inv_reserve h thread
  | retire id => exact inv_retire h hadmits
  | terminate thread => exact inv_terminate h thread
  | authorize thread answer => exact inv_authorize h hadmits.1 hadmits.2 answer
  | drain thread timeout => exact inv_drain h hadmits timeout
  | reauthorize thread answer => exact inv_reauthorize h hadmits.1 hadmits.2 answer
  | finish thread => exact inv_finish h hadmits.1 hadmits.2
  | reopen thread => exact inv_reopen h hadmits
  | unlock thread => exact inv_unlock h hadmits

lemma inv_of_reachable (h : system.Reachable s) : s.Inv :=
  h.invariant inv_init inv_step

/-! ## Exclusion -/

section

variable (h : s.Inv)

include h

lemma Inv.depth_ne_zero_iff (thread : Nat) :
    (s.locals thread).depth ≠ 0 ↔ ∃ guard ∈ s.guards, guard.thread = thread := by
  rw [h.depth, ← Nat.pos_iff_ne_zero, countP_pos_iff]
  simp only [decide_eq_true_eq]

lemma Inv.acting_unregistered {thread : Nat} (hphase : s.phase thread = .acting)
    (other : Nat) : (s.locals other).registered = false := by
  cases hregd : (s.locals other).registered with
  | false => rfl
  | true =>
    have hpos := h.active_pos hregd
    have hzero := h.quiet thread (.inr hphase)
    omega

lemma Inv.registered_iff (thread : Nat) : (s.locals thread).registered = true ↔
      (∃ guard ∈ s.guards, guard.thread = thread) ∧ s.phase thread ≠ .acting := by
  rw [← h.depth_ne_zero_iff]
  constructor
  · intro hregd
    refine ⟨h.owning thread hregd, fun hphase => ?_⟩
    rw [h.acting_unregistered hphase thread] at hregd
    cases hregd
  · rintro ⟨hdepth, hphase⟩
    refine (h.covered thread hdepth).resolve_right fun hflag => ?_
    have hclosing := (h.terminal thread hflag).resolve_left hphase
    exact hdepth (h.bare thread (.inr (.inl hclosing)))

lemma Inv.acting_alone {thread : Nat} (hphase : s.phase thread = .acting) :
    (∀ guard ∈ s.guards, guard.thread = thread) ∧ s.callbacks = [] := by
  constructor
  · intro guard hmem
    by_contra hne
    have hidle : s.phase guard.thread ≠ .acting := fun hother =>
      hne (h.alone (by rw [hphase]; simp) (by rw [hother]; simp))
    have hregd := (h.registered_iff guard.thread).mpr ⟨⟨guard, hmem, rfl⟩, hidle⟩
    rw [h.acting_unregistered hphase] at hregd
    cases hregd
  · obtain ⟨owners, -, -, hactive⟩ := h.counted
    have hzero := h.quiet thread (.inr hphase)
    exact eq_nil_of_length_eq_zero (by omega)

lemma Inv.acting_closed {thread : Nat} (hphase : s.phase thread = .acting) : s.closed = true := by
  rw [h.closed_eq (by rw [hphase]; simp), hphase]
  rfl

lemma Inv.acting_refuses {thread other : Nat} (hphase : s.phase thread = .acting)
    (hother : other ≠ thread) (ticket : Option Ticket) : s.enter other ticket = (false, s) := by
  have hdepth : (s.locals other).depth = 0 := by
    by_contra hne
    obtain ⟨guard, hmem, hguard⟩ := (h.depth_ne_zero_iff other).mp hne
    exact hother (hguard ▸ (h.acting_alone hphase).1 guard hmem)
  have hflag : (s.locals other).terminal = false := by
    by_contra hset
    have hinside := h.terminal other (by simpa using hset)
    refine hother (h.alone (by rw [hphase]; simp) fun hidle => ?_)
    rcases hinside with hinside | hinside <;> rw [hidle] at hinside <;> cases hinside
  simp [enter, hdepth, hflag, h.acting_closed hphase]

lemma Inv.acting_reserves_none {thread : Nat} (hphase : s.phase thread = .acting)
    (other : Nat) : s.reserve other = (false, s) := by
  simp [reserve, h.acting_closed hphase, h.acting_unregistered hphase]

lemma Inv.closed_iff : s.closed = true ↔ ∃ thread, (s.phase thread).inside = true := by
  constructor
  · intro hclosed
    rw [h.epoch, Option.any_eq_true] at hclosed
    obtain ⟨thread, -, hinside⟩ := hclosed
    exact ⟨thread, hinside⟩
  · rintro ⟨thread, hinside⟩
    rw [h.closed_eq fun hidle => (by rw [hidle] at hinside; cases hinside)]
    exact hinside

lemma Inv.terminate_refused {thread : Nat}
    (hbusy : (∃ guard ∈ s.guards, guard.thread = thread) ∨ s.phase thread = .acting) :
    s.terminate thread = (true, s) := by
  rcases hbusy with hguard | hphase
  · simp [terminate, (h.depth_ne_zero_iff thread).mpr hguard]
  · simp [terminate, h.acting thread hphase]

end

/-- In every reachable state: the action of a terminal thread is alone with that thread's
guards, and nothing of another thread enters; the counter counts the threads with a
registered guard and the reservations; the epoch is odd from the admission of a terminal
action to its exit; and `terminate` is refused to a thread with a guard or in its action. -/
theorem terminal_action_alone (h : system.Reachable s) : (∀ thread, s.phase thread = .acting →
      (∀ guard ∈ s.guards, guard.thread = thread) ∧ s.callbacks = [] ∧
      (∀ other ticket, other ≠ thread → s.enter other ticket = (false, s)) ∧
      ∀ other, s.reserve other = (false, s)) ∧ (∃ owners : List Nat, owners.Nodup ∧
      (∀ thread, thread ∈ owners ↔ (s.locals thread).registered = true) ∧
      s.active = owners.length + s.callbacks.length) ∧
    (∀ thread, (s.locals thread).registered = true ↔
      (∃ guard ∈ s.guards, guard.thread = thread) ∧ s.phase thread ≠ .acting) ∧
    (s.closed = true ↔ ∃ thread, (s.phase thread).inside = true) ∧
    ∀ thread, (∃ guard ∈ s.guards, guard.thread = thread) ∨ s.phase thread = .acting →
      s.terminate thread = (true, s) := by
  have hinv := inv_of_reachable h
  refine ⟨fun thread hphase => ?_, hinv.counted, hinv.registered_iff, hinv.closed_iff,
    fun thread hbusy => hinv.terminate_refused hbusy⟩
  obtain ⟨hguards, hcallbacks⟩ := hinv.acting_alone hphase
  exact ⟨hguards, hcallbacks, fun other ticket hother => hinv.acting_refuses hphase hother ticket,
    hinv.acting_reserves_none hphase⟩

def nestedRun : List Move :=
  [.enter 1 none, .reserve 1, .retire 1, .leave ⟨0, 1, none, none⟩, .terminate 0,
    .authorize 0 true, .drain 0 false, .reauthorize 0 true, .enter 0 none]

lemma nested_follows : system.Follows (fun _ _ => True) system.init nestedRun := by
  simp only [nestedRun, System.Follows, system, Admits, free, bare]
  decide

/-- Thread 0 is in its action with a nested guard. -/
theorem terminal_action_alone_nested : (system.run system.init nestedRun).phase 0 = .acting ∧
      (system.run system.init nestedRun).guards.length = 1 ∧
      (system.run system.init nestedRun).enter 1 none =
        (false, system.run system.init nestedRun) := by
  have hreach : system.Reachable (system.run system.init nestedRun) :=
    System.Segment.of_follows .refl nested_follows
  have hphase : (system.run system.init nestedRun).phase 0 = .acting := by decide
  exact ⟨hphase, by decide, ((terminal_action_alone hreach).1 0 hphase).2.2.1 1 none (by decide)⟩

end State

end Vibeshine.HostStream
