import Vibeshine.HostStream.Dispatch

/-! # Start admission

Each start guard that is admitted shuts terminal actions out, and the dispatch keeps its
ledger: a reservation is pending until the one `retire` that finds it so, whoever calls it.
-/

namespace Vibeshine.HostStream

open Library List Function

namespace State

variable {s : State}

lemma ticket_kept (move : Move) {ticket : Ticket} (h : ticket ∈ s.tickets) :
    ticket ∈ (s.step move).tickets := by
  cases move with
  | requestTicket => exact mem_cons_of_mem _ h
  | enter thread value =>
    simp only [State.step, State.enter]
    split
    · exact h
    · split <;> exact h
  | reserve thread =>
    simp only [State.step, State.reserve]
    split <;> exact h
  | leave guard =>
    simp only [State.step, State.leave]
    split <;> exact h
  | terminate thread =>
    simp only [State.step, State.terminate]
    split
    · exact h
    · split <;> exact h
  | authorize thread answer =>
    simp only [State.step, State.authorize]
    split <;> exact h
  | drain thread timeout =>
    simp only [State.step, State.drain]
    split
    · exact h
    · split <;> exact h
  | reauthorize thread answer =>
    simp only [State.step, State.reauthorize]
    split <;> exact h
  | judge _ | retire _ | finish _ | reopen _ | unlock _ => exact h

lemma guard_kept (hinv : s.Inv) {move : Move} (hadmits : s.Admits move) {guard : Guard}
    (h : guard ∈ s.guards) (hjudge : move ≠ .judge guard) (hleave : move ≠ .leave guard) :
    guard ∈ (s.step move).guards := by
  cases move with
  | enter thread value =>
    simp only [State.step, State.enter]
    split
    · exact mem_cons_of_mem _ h
    · split
      · exact h
      · exact mem_cons_of_mem _ h
  | judge other =>
    have hid : guard.id ≠ other.id := fun hsame =>
      hjudge (congrArg _ (inj_on_of_nodup_map hinv.ids hadmits.1 h hsame.symm))
    exact mem_map.mpr ⟨guard, h, if_neg hid⟩
  | leave other =>
    have hne : guard ≠ other := fun hsame => hleave (congrArg _ hsame.symm)
    have hmem : guard ∈ s.guards.erase other := (mem_erase_of_ne hne).mpr h
    simp only [State.step, State.leave]
    split <;> exact hmem
  | reserve thread =>
    simp only [State.step, State.reserve]
    split <;> exact h
  | terminate thread =>
    simp only [State.step, State.terminate]
    split
    · exact h
    · split <;> exact h
  | authorize thread answer =>
    simp only [State.step, State.authorize]
    split <;> exact h
  | drain thread timeout =>
    simp only [State.step, State.drain]
    split
    · exact h
    · split <;> exact h
  | reauthorize thread answer =>
    simp only [State.step, State.reauthorize]
    split <;> exact h
  | requestTicket | retire _ | finish _ | reopen _ | unlock _ => exact h

lemma enter_guard {thread : Nat} {ticket : Option Ticket} (h : (s.enter thread ticket).1 = true) :
    (s.enter thread ticket).2.guards =
      { id := s.made, thread := thread, ticket := ticket } :: s.guards := by
  unfold State.enter at h ⊢
  dsimp only at h ⊢
  split
  · rfl
  · next hfirst =>
    rw [if_neg hfirst] at h
    split
    · next hclosed =>
      rw [if_pos hclosed] at h
      cases h
    · rfl

lemma admitted_step {move : Move} {guard : Guard} (h : guard ∈ (s.step move).guards)
    (hadm : guard.admitted = some true) :
    guard ∈ s.guards ∨ ∃ old ∈ s.guards, guard = old.compare s.epoch := by
  cases move with
  | enter thread value =>
    simp only [State.step, State.enter] at h
    split at h
    · rcases mem_cons.mp h with rfl | hold
      · cases hadm
      · exact .inl hold
    · split at h
      · exact .inl h
      · rcases mem_cons.mp h with rfl | hold
        · cases hadm
        · exact .inl hold
  | judge other =>
    obtain ⟨old, hold, hsame⟩ := mem_map.mp h
    split at hsame
    · exact .inr ⟨old, hold, hsame.symm⟩
    · exact .inl (hsame ▸ hold)
  | leave other =>
    simp only [State.step, State.leave] at h
    split at h <;> exact .inl (mem_of_mem_erase h)
  | reserve thread =>
    simp only [State.step, State.reserve] at h
    split at h <;> exact .inl h
  | terminate thread =>
    simp only [State.step, State.terminate] at h
    split at h
    · exact .inl h
    · split at h <;> exact .inl h
  | authorize thread answer =>
    simp only [State.step, State.authorize] at h
    split at h <;> exact .inl h
  | drain thread timeout =>
    simp only [State.step, State.drain] at h
    split at h
    · exact .inl h
    · split at h <;> exact .inl h
  | reauthorize thread answer =>
    simp only [State.step, State.reauthorize] at h
    split at h <;> exact .inl h
  | requestTicket | retire _ | finish _ | reopen _ | unlock _ => exact .inl h

lemma Inv.compare_begun (h : s.Inv) {guard : Guard} (hmem : guard ∈ s.guards)
    (hadm : (guard.compare s.epoch).admitted = some true) :
    ∃ ticket ∈ guard.ticket, ticket.begun = s.begun := by
  obtain ⟨ticket, hticket, -, hepoch⟩ := Guard.compare_admitted hadm
  refine ⟨ticket, hticket, ?_⟩
  rw [(h.tickets ticket (h.held guard hmem ticket hticket)).2, hepoch, h.begun]

lemma Inv.admitted_excludes (h : s.Inv) {guard : Guard} (hmem : guard ∈ s.guards)
    (hadm : guard.admitted = some true) (thread : Nat) : s.phase thread ≠ .acting := by
  intro hphase
  have hregd := h.admitted guard hmem hadm
  rw [h.acting_unregistered hphase] at hregd
  cases hregd

end State

lemma countP_range_change {n id : Nat} {p q : Nat → Bool} (hid : id < n)
    (hsame : ∀ other, other ≠ id → p other = q other) :
    (List.range n).countP p + (if q id then 1 else 0) =
      (List.range n).countP q + (if p id then 1 else 0) := by
  have hperm := perm_cons_erase (mem_range.mpr hid)
  have hrest : ((List.range n).erase id).countP p = ((List.range n).erase id).countP q := by
    refine countP_congr fun other hmem => ?_
    rw [hsame other ((nodup_range.mem_erase_iff).mp hmem).1]
  rw [hperm.countP_eq, hperm.countP_eq, countP_cons, countP_cons, hrest]
  omega

namespace Dispatch

def waiting (s : Dispatch) (epoch : Nat) : Nat :=
  (List.range s.made).countP fun id => (s.reservations id).pending &&
    (s.reservations id).runtime && (s.reservations id).ticket.epoch = epoch

def answering (s : Dispatch) : Nat :=
  (List.range s.made).countP fun id => (s.reservations id).pending && !(s.reservations id).runtime

/-- The entry of `pending` for a count. -/
def entry (count : Nat) : Option Nat := if count = 0 then none else some count

/-- A guard of a run. -/
structure Holds (s : Dispatch) (run : Run) (guard : Guard) : Prop where
  live : guard ∈ s.control.guards
  thread : guard.thread = run.thread
  ticket : guard.ticket = some (s.reservations run.reservation).ticket
  compared : guard.admitted = none ↔ run.stage = .guarding

/-- The invariant of the dispatch. -/
structure Inv (s : Dispatch) : Prop where
  control : State.system.Reachable s.control
  tickets : ∀ id < s.made, (s.reservations id).runtime = true →
    (s.reservations id).ticket ∈ s.control.tickets
  once : ∀ id < s.made, (s.reservations id).retired = if (s.reservations id).pending then 0 else 1
  finalized : ∀ id < s.made, (s.reservations id).finalized ≤ (s.reservations id).retired
  destroyed : ∀ id < s.made, (s.reservations id).destroyed = true →
    (s.reservations id).pending = false
  counted : ∀ epoch, s.pending epoch = entry (s.waiting epoch)
  responses : s.responses = s.answering
  known : ∀ index < s.started, (s.runs index).reservation < s.made
  guards : ∀ index < s.started, ∀ guard ∈ (s.runs index).guard, s.Holds (s.runs index) guard
  owners : ∀ index < s.started, ∀ other < s.started, ∀ guard ∈ (s.runs index).guard,
    guard ∈ (s.runs other).guard → index = other
  settled : ∀ index < s.started, (s.runs index).settled = true →
    (s.reservations (s.runs index).reservation).pending = false
  finalizing : ∀ index < s.started, (s.runs index).stage = .finalizing →
    (s.runs index).admission = true

variable {s : Dispatch}

lemma inv_init : Inv system.init where
  control := .refl
  tickets := fun _ h => absurd h (Nat.not_lt_zero _)
  once := fun _ h => absurd h (Nat.not_lt_zero _)
  finalized := fun _ h => absurd h (Nat.not_lt_zero _)
  destroyed := fun _ h => absurd h (Nat.not_lt_zero _)
  counted := fun _ => rfl
  responses := rfl
  known := fun _ h => absurd h (Nat.not_lt_zero _)
  guards := fun _ h => absurd h (Nat.not_lt_zero _)
  owners := fun _ h => absurd h (Nat.not_lt_zero _)
  settled := fun _ h => absurd h (Nat.not_lt_zero _)
  finalizing := fun _ h => absurd h (Nat.not_lt_zero _)

lemma inv_control (h : s.Inv) (move : HostStream.Move) (hadmits : s.control.Admits move)
    (hothers : ∀ index < s.started, ∀ guard ∈ (s.runs index).guard,
      move ≠ .judge guard ∧ move ≠ .leave guard) : Inv { s with control := s.control.step move } :=
  { h with
    control := .snoc h.control hadmits trivial
    tickets := fun id hid hruntime => State.ticket_kept move (h.tickets id hid hruntime)
    guards := fun index hindex guard hguard =>
      have hholds := h.guards index hindex guard hguard
      have hne := hothers index hindex guard hguard
      { hholds with
        live := State.guard_kept (State.inv_of_reachable h.control) hadmits hholds.live hne.1
          hne.2 } }

/-! ## Reservations -/

lemma inv_reserve (h : s.Inv) (thread : Nat) {ticket : Ticket} {runtime : Bool}
    (hticket : runtime = true → ticket ∈ s.control.tickets) :
    (s.reserve thread ticket runtime).Inv := by
  have hold : ∀ id < s.made, (s.reserve thread ticket runtime).reservations id =
      s.reservations id := fun id hid => update_of_ne (Nat.ne_of_lt hid) _ _
  have hnew : (s.reserve thread ticket runtime).reservations s.made =
      { thread := thread, ticket := ticket, runtime := runtime, pending := true } :=
    update_self _ _ _
  have hall : ∀ {P : Reservation → Prop}, (∀ id < s.made, P (s.reservations id)) →
      P { thread := thread, ticket := ticket, runtime := runtime, pending := true } →
      ∀ id < s.made + 1, P ((s.reserve thread ticket runtime).reservations id) := by
    intro P hP hlast id hid
    rcases Nat.lt_succ_iff_lt_or_eq.mp hid with hlt | rfl
    · rw [hold id hlt]
      exact hP id hlt
    · rw [hnew]
      exact hlast
  have hrange : ∀ p : Reservation → Bool, (List.range (s.made + 1)).countP
      (fun id => p ((s.reserve thread ticket runtime).reservations id)) =
      (List.range s.made).countP (fun id => p (s.reservations id)) +
        if p { thread := thread, ticket := ticket, runtime := runtime, pending := true }
          then 1 else 0 := by
    intro p
    rw [range_succ, countP_append, countP_singleton, hnew]
    congr 1
    refine countP_congr fun id hid => ?_
    rw [hold id (mem_range.mp hid)]
  refine
    { control := h.control
      tickets := hall (P := fun r => r.runtime = true → r.ticket ∈ s.control.tickets) h.tickets
        hticket
      once := hall (P := fun r => r.retired = if r.pending then 0 else 1) h.once rfl
      finalized := hall (P := fun r => r.finalized ≤ r.retired) h.finalized (Nat.le_refl _)
      destroyed := hall (P := fun r => r.destroyed = true → r.pending = false) h.destroyed
        fun hset => (by cases hset)
      counted := fun epoch => ?_
      responses := ?_
      known := fun index hindex => Nat.lt_succ_of_lt (h.known index hindex)
      guards := fun index hindex guard hguard => ?_
      owners := h.owners
      settled := fun index hindex hset => ?_
      finalizing := h.finalizing }
  · have hwaiting := hrange fun r => r.pending && r.runtime && r.ticket.epoch = epoch
    have hentry := h.counted epoch
    simp only [waiting, reserve] at hwaiting hentry ⊢
    rw [hwaiting]
    cases runtime with
    | false => simpa using hentry
    | true =>
      by_cases hepoch : ticket.epoch = epoch
      · subst hepoch
        simp only [if_true, update_self, hentry, entry]
        split <;> simp_all
      · simpa [hepoch, Ne.symm hepoch] using hentry
  · have hanswering := hrange fun r => r.pending && !r.runtime
    have hresponses := h.responses
    simp only [answering, reserve] at hanswering hresponses ⊢
    rw [hanswering, hresponses]
    cases runtime <;> simp
  · have hholds := h.guards index hindex guard hguard
    have hsame := hold _ (h.known index hindex)
    exact { hholds with ticket := hholds.ticket.trans (congrArg (some ·.ticket) hsame.symm) }
  · have hsame := hold _ (h.known index hindex)
    exact (congrArg Reservation.pending hsame).trans (h.settled index hindex hset)

lemma Inv.amend (h : s.Inv) (id : Nat) (mine : Reservation)
    (hticket : mine.ticket = (s.reservations id).ticket)
    (hruntime : mine.runtime = (s.reservations id).runtime)
    (hpend : mine.pending = (s.reservations id).pending)
    (hretired : mine.retired = (s.reservations id).retired)
    (hfinalized : mine.finalized ≤ mine.retired)
    (hdestroyed : mine.destroyed = true → mine.pending = false) :
    Inv { s with reservations := Function.update s.reservations id mine } := by
  have hsame : ∀ other, (Function.update s.reservations id mine other).ticket =
        (s.reservations other).ticket ∧
      (Function.update s.reservations id mine other).runtime = (s.reservations other).runtime ∧
      (Function.update s.reservations id mine other).pending = (s.reservations other).pending ∧
      (Function.update s.reservations id mine other).retired = (s.reservations other).retired := by
    intro other
    by_cases heq : other = id
    · subst heq
      simp only [update_self]
      exact ⟨hticket, hruntime, hpend, hretired⟩
    · simp only [update_of_ne heq, and_self]
  refine { h with
    tickets := fun other hother => ?_
    once := fun other hother => ?_
    finalized := fun other hother => ?_
    destroyed := fun other hother => ?_
    counted := fun epoch => ?_
    responses := ?_
    guards := fun index hindex guard hguard => ?_
    settled := fun index hindex hset => ?_ }
  · rw [(hsame other).1, (hsame other).2.1]
    exact h.tickets other hother
  · rw [(hsame other).2.2.1, (hsame other).2.2.2]
    exact h.once other hother
  · by_cases heq : other = id
    · subst heq
      simpa only [update_self] using hfinalized
    · simpa only [update_of_ne heq] using h.finalized other hother
  · by_cases heq : other = id
    · subst heq
      simpa only [update_self] using hdestroyed
    · simpa only [update_of_ne heq] using h.destroyed other hother
  · refine (h.counted epoch).trans (congrArg entry ?_)
    exact countP_congr fun other _ => by
      rw [(hsame other).1, (hsame other).2.1, (hsame other).2.2.1]
  · exact h.responses.trans (countP_congr fun other _ => by
      rw [(hsame other).2.1, (hsame other).2.2.1])
  · have hholds := h.guards index hindex guard hguard
    exact { hholds with ticket := hholds.ticket.trans (by rw [(hsame _).1]) }
  · exact (hsame _).2.2.1.trans (h.settled index hindex hset)

lemma entry_retired {count rest : Nat} (h : count = rest + 1) :
    ((entry count).bind fun count => if count - 1 = 0 then none else some (count - 1)) =
      entry rest := by
  subst h
  simp [entry]

section Retire

variable {id : Nat}

def afterRetire (mine : Reservation) : Reservation :=
  { mine with pending := false, retired := mine.retired + 1 }

lemma retire_eq (hpend : (s.reservations id).pending = true) : (s.retire id).2 = { s with
    pending := if (s.reservations id).runtime then
        Function.update s.pending (s.reservations id).ticket.epoch
          ((s.pending (s.reservations id).ticket.epoch).bind fun count =>
            if count - 1 = 0 then none else some (count - 1))
      else s.pending
    responses := if (s.reservations id).runtime then s.responses else s.responses - 1
    reservations := Function.update s.reservations id (afterRetire (s.reservations id)) } := by
  simp only [retire, hpend, if_true]
  rfl

lemma countP_retire (hid : id < s.made) (hpend : (s.reservations id).pending = true)
    (kind : Reservation → Bool) : (List.range s.made).countP (fun other =>
        (s.reservations other).pending && kind (s.reservations other)) =
      (List.range s.made).countP (fun other =>
        (Function.update s.reservations id (afterRetire (s.reservations id)) other).pending &&
          kind (Function.update s.reservations id (afterRetire (s.reservations id)) other)) +
        (if kind (s.reservations id) = true then 1 else 0) := by
  have hchange := countP_range_change hid
    (p := fun other => (s.reservations other).pending && kind (s.reservations other))
    (q := fun other =>
      (Function.update s.reservations id (afterRetire (s.reservations id)) other).pending &&
        kind (Function.update s.reservations id (afterRetire (s.reservations id)) other))
    fun other hne => by rw [update_of_ne hne]
  simpa only [update_self, afterRetire, hpend, Bool.false_and, Bool.true_and,
    Bool.false_eq_true, if_false, Nat.add_zero] using hchange

lemma counted_retire (h : s.Inv) (hid : id < s.made)
    (hpend : (s.reservations id).pending = true) (epoch : Nat) :
    (s.retire id).2.pending epoch = entry ((s.retire id).2.waiting epoch) := by
  have hentry := h.counted epoch
  have hchange := countP_retire hid hpend fun mine => mine.runtime && mine.ticket.epoch = epoch
  rw [retire_eq hpend]
  simp only [waiting, Bool.and_assoc] at hentry ⊢
  rw [hchange] at hentry
  cases hruntime : (s.reservations id).runtime with
  | false =>
    simp only [hruntime, Bool.false_and, Bool.false_eq_true, if_false, Nat.add_zero] at hentry ⊢
    exact hentry
  | true =>
    simp only [hruntime, Bool.true_and, decide_eq_true_eq, if_true] at hentry ⊢
    by_cases hepoch : (s.reservations id).ticket.epoch = epoch
    · subst hepoch
      rw [update_self, hentry, if_pos rfl]
      exact entry_retired rfl
    · rw [update_of_ne (Ne.symm hepoch), hentry, if_neg hepoch, Nat.add_zero]

lemma responses_retire (h : s.Inv) (hid : id < s.made)
    (hpend : (s.reservations id).pending = true) :
    (s.retire id).2.responses = (s.retire id).2.answering := by
  have hresponses := h.responses
  have hchange := countP_retire hid hpend fun mine => !mine.runtime
  rw [retire_eq hpend]
  simp only [answering] at hresponses ⊢
  rw [hchange] at hresponses
  cases hruntime : (s.reservations id).runtime with
  | false =>
    simp only [hruntime, Bool.not_false, if_true, Bool.false_eq_true, if_false] at hresponses ⊢
    omega
  | true =>
    simp only [hruntime, Bool.not_true, Bool.false_eq_true, if_false, if_true] at hresponses ⊢
    omega

lemma inv_retire (h : s.Inv) (hid : id < s.made) : (s.retire id).2.Inv := by
  by_cases hpend : (s.reservations id).pending = true
  · have hcounted := counted_retire h hid hpend
    have hresponses := responses_retire h hid hpend
    rw [retire_eq hpend] at hcounted hresponses ⊢
    refine { h with
      tickets := (forall_update_iff _ fun other (mine : Reservation) =>
        other < s.made → mine.runtime = true → mine.ticket ∈ s.control.tickets).mpr
          ⟨h.tickets id, fun other _ => h.tickets other⟩
      once := (forall_update_iff _ fun other (mine : Reservation) =>
        other < s.made → mine.retired = if mine.pending then 0 else 1).mpr
          ⟨fun _ => ?_, fun other _ => h.once other⟩
      finalized := (forall_update_iff _ fun other (mine : Reservation) =>
        other < s.made → mine.finalized ≤ mine.retired).mpr
          ⟨fun hmade => Nat.le_succ_of_le (h.finalized id hmade), fun other _ => h.finalized other⟩
      destroyed := (forall_update_iff _ fun other (mine : Reservation) =>
        other < s.made → mine.destroyed = true → mine.pending = false).mpr
          ⟨fun _ _ => rfl, fun other _ => h.destroyed other⟩
      counted := hcounted
      responses := hresponses
      guards := fun index hindex guard hguard => ?_
      settled := fun index hindex hset => ?_ }
    · rw [afterRetire, h.once id hid, if_pos hpend]
      rfl
    · have hholds := h.guards index hindex guard hguard
      refine { hholds with ticket := hholds.ticket.trans ?_ }
      dsimp only
      by_cases heq : (s.runs index).reservation = id
      · rw [heq, update_self]
        rfl
      · rw [update_of_ne heq]
    · dsimp only
      by_cases heq : (s.runs index).reservation = id
      · rw [heq, update_self]
        rfl
      · rw [update_of_ne heq]
        exact h.settled index hindex hset
  · simp only [retire, if_neg hpend]
    exact h

end Retire

lemma retire_frame (s : Dispatch) (id : Nat) :
    (s.retire id).2.control = s.control ∧ (s.retire id).2.made = s.made ∧
      (s.retire id).2.runs = s.runs ∧ (s.retire id).2.started = s.started := by
  unfold retire
  dsimp only
  split <;> exact ⟨rfl, rfl, rfl, rfl⟩

lemma retire_pending (s : Dispatch) (id : Nat) :
    ((s.retire id).2.reservations id).pending = false := by
  unfold retire
  dsimp only
  split
  · dsimp only
    rw [update_self]
  · next hpend => simpa using hpend

section

variable (h : s.Inv)

include h

lemma Inv.retire_first {id : Nat} (hid : id < s.made)
    (hfound : (s.retire id).1 = true) : ((s.retire id).2.reservations id).retired = 1 ∧
      ((s.retire id).2.reservations id).finalized = 0 := by
  have hpend : (s.reservations id).pending = true := by
    unfold retire at hfound
    dsimp only at hfound
    split at hfound
    · next hpend => exact hpend
    · cases hfound
  have honce := h.once id hid
  have hfinalized := h.finalized id hid
  rw [if_pos hpend] at honce
  rw [honce] at hfinalized
  simp only [retire, if_pos hpend, update_self, honce]
  exact ⟨trivial, Nat.le_zero.mp hfinalized⟩

/-! ## Runs -/

lemma Inv.setStage {index : Nat} (stage : Stage) (hindex : index < s.started)
    (hold : (s.runs index).guard = none ∨ (s.runs index).stage ≠ .guarding)
    (hnew : stage ≠ .guarding) (hsettled : Run.settled { s.runs index with stage := stage } = true →
      (s.reservations (s.runs index).reservation).pending = false)
    (hfinalizing : stage = .finalizing → (s.runs index).admission = true) :
    (s.setRun index { s.runs index with stage := stage }).Inv := by
  have hkept : ∀ other, (Function.update s.runs index
        { s.runs index with stage := stage } other).guard = (s.runs other).guard ∧
      (Function.update s.runs index { s.runs index with stage := stage } other).reservation =
        (s.runs other).reservation := by
    intro other
    by_cases heq : other = index
    · subst heq
      simp
    · simp [update_of_ne heq]
  refine { h with
    known := fun other hother => ?_
    guards := fun other hother guard hguard => ?_
    owners := fun one hone two htwo guard hguard hsame => ?_
    settled := fun other hother hset => ?_
    finalizing := fun other hother hstage => ?_ }
  · simp only [setRun, (hkept other).2]
    exact h.known other hother
  · simp only [setRun, (hkept other).1] at hguard
    have hholds := h.guards other hother guard hguard
    by_cases heq : other = index
    · subst heq
      simp only [setRun, update_self]
      have hold := hold.resolve_left fun hnone => by rw [hnone] at hguard; cases hguard
      exact
        { live := hholds.live
          thread := hholds.thread
          ticket := hholds.ticket
          compared := hholds.compared.trans
            ⟨fun hstage => absurd hstage hold, fun hstage => absurd hstage hnew⟩ }
    · simp only [setRun, update_of_ne heq]
      exact { hholds with }
  · simp only [setRun, (hkept _).1] at hguard hsame
    exact h.owners one hone two htwo guard hguard hsame
  · by_cases heq : other = index
    · subst heq
      simp only [setRun, update_self] at hset ⊢
      exact hsettled hset
    · simp only [setRun, update_of_ne heq] at hset ⊢
      exact h.settled other hother hset
  · by_cases heq : other = index
    · subst heq
      simp only [setRun, update_self] at hstage ⊢
      exact hfinalizing hstage
    · simp only [setRun, update_of_ne heq] at hstage ⊢
      exact h.finalizing other hother hstage

lemma inv_work {index : Nat} (hready : s.ready index .working) : (s.work index).Inv := by
  refine h.setStage .settling hready.1 (.inr (by rw [hready.2.1]; simp)) (by simp) (fun hset => ?_)
    (fun hstage => by cases hstage)
  cases hset

lemma inv_finalize {index : Nat} (hready : s.ready index .finalizing) : (s.finalize index).Inv := by
  refine h.setStage .leaving hready.1 (.inr (by rw [hready.2.1]; simp)) (by simp) (fun _ => ?_)
    (fun hstage => by cases hstage)
  exact h.settled index hready.1 (by rw [Run.settled, hready.2.1])

lemma inv_settle {index : Nat} (hready : s.ready index .settling) : (s.settle index).Inv := by
  have hid := h.known index hready.1
  obtain ⟨-, hmade, hruns, hstarted⟩ := retire_frame s (s.runs index).reservation
  have hinv := inv_retire h hid
  have hpend := retire_pending s (s.runs index).reservation
  have hold : (s.runs index).stage ≠ .guarding := by
    rw [hready.2.1]
    simp
  unfold settle
  dsimp only
  split
  · next hboth =>
    rw [Bool.and_eq_true] at hboth
    obtain ⟨hretired, hfinalized⟩ := h.retire_first hid hboth.1
    -- the ledger first, then the stage
    have hamended := hinv.amend (s.runs index).reservation
      { (s.retire (s.runs index).reservation).2.reservations (s.runs index).reservation with
        finalized := ((s.retire (s.runs index).reservation).2.reservations
          (s.runs index).reservation).finalized + 1 }
      rfl rfl rfl rfl (by dsimp only; omega) fun _ => hpend
    have hstage := hamended.setStage .finalizing
      (hstarted ▸ hready.1) (.inr (by simpa only [hruns] using hold)) (by simp)
      (fun _ => by simp only [hruns, update_self, hpend])
      (fun _ => by simpa only [hruns] using hboth.2)
    simpa only [setRun, hruns] using hstage
  · have hstage := hinv.setStage .leaving (hstarted ▸ hready.1)
      (.inr (by simpa only [hruns] using hold)) (by simp)
      (fun _ => by simpa only [hruns] using hpend) (fun hstage => by cases hstage)
    simpa only [setRun, hruns] using hstage

lemma Inv.addRun {run : Run} (hknown : run.reservation < s.made)
    (hguard : ∀ guard ∈ run.guard, s.Holds run guard)
    (howner : ∀ index < s.started, ∀ guard ∈ run.guard, guard ∉ (s.runs index).guard)
    (hsettled : run.settled = false) : (s.addRun run).Inv := by
  have hold : ∀ index < s.started, Function.update s.runs s.started run index = s.runs index :=
    fun index hindex => update_of_ne (Nat.ne_of_lt hindex) _ _
  have hlast : Function.update s.runs s.started run s.started = run := update_self _ _ _
  have hcases : ∀ {index}, index < s.started + 1 → index < s.started ∨ index = s.started :=
    Nat.lt_succ_iff_lt_or_eq.mp
  refine { h with
    known := fun index hindex => ?_
    guards := fun index hindex guard hmem => ?_
    owners := fun one hone two htwo guard hmem hsame => ?_
    settled := fun index hindex hset => ?_
    finalizing := fun index hindex hstage => ?_ }
  · rcases hcases hindex with hlt | rfl
    · simp only [Dispatch.addRun, hold index hlt]
      exact h.known index hlt
    · simp only [Dispatch.addRun, hlast]
      exact hknown
  · rcases hcases hindex with hlt | rfl
    · simp only [Dispatch.addRun, hold index hlt] at hmem ⊢
      exact { h.guards index hlt guard hmem with }
    · simp only [Dispatch.addRun, hlast] at hmem ⊢
      exact { hguard guard hmem with }
  · rcases hcases hone with hone | rfl <;> rcases hcases htwo with htwo | rfl
    · simp only [Dispatch.addRun, hold _ hone, hold _ htwo] at hmem hsame
      exact h.owners one hone two htwo guard hmem hsame
    · simp only [Dispatch.addRun, hold _ hone, hlast] at hmem hsame
      exact absurd hmem (howner one hone guard hsame)
    · simp only [Dispatch.addRun, hold _ htwo, hlast] at hmem hsame
      exact absurd hsame (howner two htwo guard hmem)
    · rfl
  · rcases hcases hindex with hlt | rfl
    · simp only [Dispatch.addRun, hold index hlt] at hset ⊢
      exact h.settled index hlt hset
    · simp only [Dispatch.addRun, hlast] at hset
      rw [hsettled] at hset
      cases hset
  · rcases hcases hindex with hlt | rfl
    · simp only [Dispatch.addRun, hold index hlt] at hstage ⊢
      exact h.finalizing index hlt hstage
    · simp only [Dispatch.addRun, hlast] at hstage
      rw [Run.settled, hstage] at hsettled
      cases hsettled

lemma inv_start {id thread : Nat} (hid : id < s.made) (hfree : s.control.free thread)
    (handler : Bool) : (s.start id thread handler).Inv := by
  unfold start
  dsimp only
  split
  · next hboth =>
    rw [Bool.and_eq_true] at hboth
    have hticket := h.tickets id hid hboth.1
    have hguards := State.enter_guard hboth.2
    have hcontrol := State.inv_of_reachable h.control
    have hentered := inv_control h (.enter thread (some (s.reservations id).ticket))
      ⟨hfree, fun value hvalue => Option.mem_some_iff.mp hvalue ▸ hticket⟩
      fun _ _ _ _ => ⟨by simp, by simp⟩
    refine hentered.addRun hid (fun guard hguard => ?_) (fun index hindex guard hguard hother => ?_)
      rfl
    · obtain rfl := Option.mem_some_iff.mp hguard
      exact
        { live := hguards ▸ mem_cons_self
          thread := rfl
          ticket := rfl
          compared := ⟨fun _ => rfl, fun _ => rfl⟩ }
    · obtain rfl := Option.mem_some_iff.mp hguard
      -- the guards of earlier runs have smaller ids
      exact Nat.lt_irrefl _ (hcontrol.made _ (h.guards index hindex _ hother).live)
  · refine h.addRun hid (fun guard hguard => ?_) (fun _ _ guard hguard => ?_) ?_
    · cases hguard
    · cases hguard
    · cases handler <;> rfl

lemma Inv.other_guard {index other : Nat} {mine guard : Guard}
    (hindex : index < s.started) (hother : other < s.started) (hne : other ≠ index)
    (hmine : mine ∈ (s.runs index).guard) (hguard : guard ∈ (s.runs other).guard) :
    mine ≠ guard := by
  rintro rfl
  exact hne (h.owners other hother index hindex mine hguard hmine)

lemma Inv.moveGuard {index : Nat} {mine : Guard} {move : HostStream.Move}
    (run : Run) (hindex : index < s.started) (hmine : mine ∈ (s.runs index).guard)
    (hmove : move = .judge mine ∨ move = .leave mine) (hadmits : s.control.Admits move)
    (hreservation : run.reservation = (s.runs index).reservation)
    (hguard : ∀ guard ∈ run.guard, guard.id = mine.id ∧
      Holds { s with control := s.control.step move } run guard)
    (hsettled : run.settled = true → (s.runs index).settled = true)
    (hfinalizing : run.stage ≠ .finalizing) :
    Inv ({ s with control := s.control.step move }.setRun index run) := by
  have hself : Function.update s.runs index run index = run := update_self _ _ _
  have hothers : ∀ {other}, other ≠ index → Function.update s.runs index run other =
      s.runs other := fun hne => update_of_ne hne _ _
  have hcontrol := State.inv_of_reachable h.control
  have hkept : ∀ other < s.started, other ≠ index → ∀ guard ∈ (s.runs other).guard,
      guard ∈ (s.control.step move).guards := by
    intro other hother hne guard hmem
    have hdiffers := h.other_guard hindex hother hne hmine hmem
    refine State.guard_kept hcontrol hadmits (h.guards other hother guard hmem).live ?_ ?_
    · rintro rfl
      rcases hmove with hmove | hmove <;> cases hmove
      exact hdiffers rfl
    · rintro rfl
      rcases hmove with hmove | hmove <;> cases hmove
      exact hdiffers rfl
  -- the guards of two runs differ in their ids
  have hids : ∀ other < s.started, other ≠ index → ∀ guard ∈ run.guard,
      guard ∉ (s.runs other).guard := by
    intro other hother hne guard hmem hsame
    refine h.other_guard hindex hother hne hmine hsame ?_
    exact inj_on_of_nodup_map hcontrol.ids (h.guards index hindex mine hmine).live
      (h.guards other hother guard hsame).live (hguard guard hmem).1.symm
  refine { h with
    control := .snoc h.control hadmits trivial
    tickets := fun id hid hruntime => State.ticket_kept move (h.tickets id hid hruntime)
    known := fun other hother => ?_
    guards := fun other hother guard hmem => ?_
    owners := fun one hone two htwo guard hmem hsame => ?_
    settled := fun other hother hset => ?_
    finalizing := fun other hother hstage => ?_ }
  · by_cases heq : other = index
    · subst heq
      simp only [setRun, hself, hreservation]
      exact h.known other hother
    · simp only [setRun, hothers heq]
      exact h.known other hother
  · by_cases heq : other = index
    · subst heq
      simp only [setRun, hself] at hmem ⊢
      exact { (hguard guard hmem).2 with }
    · simp only [setRun, hothers heq] at hmem ⊢
      exact { h.guards other hother guard hmem with live := hkept other hother heq guard hmem }
  · by_cases hfirst : one = index <;> by_cases hsecond : two = index
    · rw [hfirst, hsecond]
    · subst hfirst
      simp only [setRun, hself, hothers hsecond] at hmem hsame
      exact absurd hsame (hids two htwo hsecond guard hmem)
    · subst hsecond
      simp only [setRun, hself, hothers hfirst] at hmem hsame
      exact absurd hmem (hids one hone hfirst guard hsame)
    · simp only [setRun, hothers hfirst, hothers hsecond] at hmem hsame
      exact h.owners one hone two htwo guard hmem hsame
  · by_cases heq : other = index
    · subst heq
      simp only [setRun, hself, hreservation] at hset ⊢
      exact h.settled other hother (hsettled hset)
    · simp only [setRun, hothers heq] at hset ⊢
      exact h.settled other hother hset
  · by_cases heq : other = index
    · subst heq
      simp only [setRun, hself] at hstage
      exact absurd hstage hfinalizing
    · simp only [setRun, hothers heq] at hstage ⊢
      exact h.finalizing other hother hstage

lemma inv_compare {index : Nat} (hready : s.ready index .guarding) : (s.compare index).Inv := by
  obtain ⟨hindex, hstage, hfree⟩ := hready
  have hguarded : (s.runs index).guarded ≠ .guarding ∧ (s.runs index).guarded ≠ .finalizing := by
    unfold Run.guarded
    split <;> simp
  have hsettled : ∀ guard, Run.settled
      { s.runs index with guard := guard, stage := (s.runs index).guarded } = false := by
    intro guard
    cases hhandler : (s.runs index).handler <;> simp [Run.settled, Run.guarded, hhandler]
  cases hguard : (s.runs index).guard with
  | none =>
    have hstaged := h.setStage (s.runs index).guarded hindex (.inl hguard) hguarded.1
      (fun hset => ?_) fun hfinal => absurd hfinal hguarded.2
    · have heq : { s.runs index with stage := (s.runs index).guarded } =
          { s.runs index with guard := none, stage := (s.runs index).guarded } := by rw [← hguard]
      simpa only [compare, hguard, Option.elim_none, Option.map_none, heq] using hstaged
    · exact absurd hset (by rw [hsettled]; simp)
  | some mine =>
    have hmine : mine ∈ (s.runs index).guard := hguard
    have hholds := h.guards index hindex mine hmine
    have hadmits : s.control.Admits (.judge mine) :=
      ⟨hholds.live, hholds.compared.mpr hstage, by rw [hholds.thread]; exact hfree⟩
    have hmoved := h.moveGuard
      { s.runs index with
        guard := some (mine.compare s.control.epoch), stage := (s.runs index).guarded }
      hindex hmine (.inl rfl) hadmits rfl (fun guard hmem => ?_) (fun hset => ?_) hguarded.2
    · simpa only [compare, hguard, Option.elim_some, Option.map_some] using! hmoved
    · obtain rfl := Option.mem_some_iff.mp hmem
      refine ⟨rfl, ?_⟩
      exact
        { live := mem_map.mpr ⟨mine, hholds.live, if_pos rfl⟩
          thread := hholds.thread
          ticket := hholds.ticket
          compared := by simp [Guard.compare, hholds.ticket, hguarded.1] }
    · rw [hsettled] at hset
      cases hset

lemma inv_finish {index : Nat} (hready : s.ready index .leaving) : (s.finish index).Inv := by
  obtain ⟨hindex, hstage, hfree⟩ := hready
  have hsettled : (s.runs index).settled = true := by rw [Run.settled, hstage]
  cases hguard : (s.runs index).guard with
  | none =>
    have hdone := h.setStage .done hindex (.inl hguard) (by simp)
      (fun _ => h.settled index hindex hsettled) (fun hstage => by cases hstage)
    have heq : { s.runs index with stage := .done } =
        { s.runs index with guard := none, stage := .done } := by rw [← hguard]
    simpa only [finish, hguard, Option.elim_none, heq] using hdone
  | some mine =>
    have hmine : mine ∈ (s.runs index).guard := hguard
    have hholds := h.guards index hindex mine hmine
    have hadmits : s.control.Admits (.leave mine) :=
      ⟨hholds.live, by rw [hholds.thread]; exact hfree⟩
    have hmoved := h.moveGuard { s.runs index with guard := none, stage := .done }
      hindex hmine (.inr rfl) hadmits rfl (fun guard hmem => by cases hmem) (fun _ => hsettled)
      (by simp)
    simpa only [finish, hguard, Option.elim_some] using! hmoved

lemma inv_destroy {id : Nat} (hid : id < s.made) : (s.destroy id).Inv := by
  have hinv := inv_retire h hid
  have hmade := (retire_frame s id).2.1
  exact hinv.amend id _ rfl rfl rfl rfl (hinv.finalized id (hmade ▸ hid))
    fun _ => retire_pending s id

lemma inv_setCall {id : Nat} (hid : id < s.made) (call : Call) : (s.setCall id call).Inv :=
  h.amend id _ rfl rfl rfl rfl (h.finalized id hid) (h.destroyed id hid)

end

lemma inv_step (s : Dispatch) (move : Move) (h : s.Inv) (hadmits : s.Admits move) :
    (s.step move).Inv := by
  cases move with
  | control move => exact inv_control h move hadmits.1 hadmits.2
  | submit thread ticket => exact inv_reserve h thread fun _ => hadmits.2
  | postResponse thread => exact inv_reserve h thread fun hruntime => (by cases hruntime)
  | start id thread => exact inv_start h hadmits.1 hadmits.2.2 false
  | handle id => exact inv_start (inv_setCall h hadmits.1 .handling) hadmits.1 hadmits.2.2 true
  | compare index => exact inv_compare h hadmits
  | work index => exact inv_work h hadmits
  | settle index => exact inv_settle h hadmits
  | finalize index => exact inv_finalize h hadmits
  | finish index => exact inv_finish h hadmits
  | leave id => exact inv_setCall h hadmits.1 .left
  | destroy id => exact inv_destroy h hadmits.1

lemma inv_of_reachable (h : system.Reachable s) : s.Inv :=
  h.invariant inv_init inv_step

/-! ## Admission -/

lemma control_step (s : Dispatch) (move : Move) :
    (s.step move).control = s.control ∨ ∃ taken, (s.step move).control = s.control.step taken := by
  have hstart : ∀ (s : Dispatch) id thread handler,
      (s.start id thread handler).control = s.control ∨
        ∃ taken, (s.start id thread handler).control = s.control.step taken := by
    intro s id thread handler
    unfold start
    dsimp only
    split
    · exact .inr ⟨.enter thread (some (s.reservations id).ticket), rfl⟩
    · exact .inl rfl
  cases move with
  | control move => exact .inr ⟨move, rfl⟩
  | start id thread => exact hstart s id thread false
  | handle id => exact hstart (s.setCall id .handling) id (s.reservations id).thread true
  | compare index =>
    cases hguard : (s.runs index).guard with
    | none => exact .inl (by simp [step, compare, setRun, hguard])
    | some guard => exact .inr ⟨.judge guard, by simp [step, compare, setRun, hguard, State.step]⟩
  | finish index =>
    cases hguard : (s.runs index).guard with
    | none => exact .inl (by simp [step, finish, setRun, hguard])
    | some guard => exact .inr ⟨.leave guard, by simp [step, finish, setRun, hguard, State.step]⟩
  | settle index =>
    refine .inl ?_
    have hframe := (retire_frame s (s.runs index).reservation).1
    simp only [step, settle]
    split <;> exact hframe
  | destroy id => exact .inl (retire_frame s id).1
  | submit _ _ | postResponse _ | work _ | finalize _ | leave _ => exact .inl rfl

section

variable (h : s.Inv)

include h

lemma Inv.admitted_begun {move : Move} {guard : Guard}
    (hmem : guard ∈ (s.step move).control.guards) (hadm : guard.admitted = some true)
    (hnew : guard ∉ s.control.guards) :
    ∃ ticket ∈ guard.ticket, ticket.begun = s.control.begun := by
  rcases control_step s move with hsame | ⟨taken, htaken⟩
  · rw [hsame] at hmem
    exact absurd hmem hnew
  · rw [htaken] at hmem
    rcases State.admitted_step hmem hadm with hold | ⟨old, hold, rfl⟩
    · exact absurd hold hnew
    · obtain ⟨ticket, hticket, hbegun⟩ :=
        (State.inv_of_reachable h.control).compare_begun hold hadm
      exact ⟨ticket, hticket, hbegun⟩

lemma Inv.finalizing_guard {index : Nat} (hindex : index < s.started)
    (hstage : (s.runs index).stage = .finalizing) :
    ∃ guard ∈ s.control.guards, guard.thread = (s.runs index).thread ∧ guard.admitted = some true ∧
      guard.ticket = some (s.reservations (s.runs index).reservation).ticket := by
  have hadmission := h.finalizing index hindex hstage
  rw [Run.admission, Option.any_eq_true] at hadmission
  obtain ⟨guard, hguard, hadm⟩ := hadmission
  have hholds := h.guards index hindex guard hguard
  exact ⟨guard, hholds.live, hholds.thread, of_decide_eq_true hadm, hholds.ticket⟩

lemma Inv.count_eq : s.count = if s.control.closed then 0 else s.waiting s.control.epoch := by
  unfold count
  split
  · rfl
  · rw [h.counted, entry]
    split
    · next hzero => exact hzero.symm
    · rfl

lemma Inv.retired_of_not_pending {id : Nat} (hid : id < s.made)
    (hpend : (s.reservations id).pending = false) : (s.reservations id).retired = 1 := by
  rw [h.once id hid, hpend]
  rfl

lemma Inv.finalized_le {id : Nat} (hid : id < s.made) : (s.reservations id).finalized ≤ 1 := by
  refine Nat.le_trans (h.finalized id hid) ?_
  rw [h.once id hid]
  split <;> omega

end

/-- In every reachable state: a start guard gets admitted only when no terminal action
began since its ticket was taken, and while it lives no terminal action runs; a
reservation is retired by the first `retire` and never again, in any case before its
destructor or a run of its closure or handler is over; `finalize` is called at most once,
under an admitted guard with the ticket of the reservation; and `count` is the number of
unretired runtime reservations of the current epoch. -/
theorem start_admission (h : system.Reachable s) :
    (∀ move guard, s.Admits move → guard ∈ (s.step move).control.guards →
      guard.admitted = some true → guard ∉ s.control.guards →
      ∃ ticket ∈ guard.ticket, ticket.begun = s.control.begun) ∧
    (∀ guard ∈ s.control.guards, guard.admitted = some true →
      ∀ thread, s.control.phase thread ≠ .acting) ∧ (∀ id < s.made,
      (s.reservations id).retired = (if (s.reservations id).pending then 0 else 1) ∧
      ((s.reservations id).destroyed = true → (s.reservations id).retired = 1) ∧
      (s.reservations id).finalized ≤ 1) ∧ (∀ index < s.started, (s.runs index).settled = true →
      (s.reservations (s.runs index).reservation).retired = 1) ∧
    (∀ index < s.started, (s.runs index).stage = .finalizing →
      ∃ guard ∈ s.control.guards, guard.thread = (s.runs index).thread ∧
        guard.admitted = some true ∧
        guard.ticket = some (s.reservations (s.runs index).reservation).ticket) ∧
    s.count = if s.control.closed then 0 else s.waiting s.control.epoch := by
  have hinv := inv_of_reachable h
  have hcontrol := State.inv_of_reachable hinv.control
  refine ⟨fun move guard _ hmem hadm hnew => hinv.admitted_begun hmem hadm hnew,
    fun guard hmem hadm => hcontrol.admitted_excludes hmem hadm,
    fun id hid => ⟨hinv.once id hid, fun hset => ?_, hinv.finalized_le hid⟩,
    fun index hindex hset => ?_, fun index hindex => hinv.finalizing_guard hindex, hinv.count_eq⟩
  · exact hinv.retired_of_not_pending hid (hinv.destroyed id hid hset)
  · exact hinv.retired_of_not_pending (hinv.known index hindex) (hinv.settled index hindex hset)

def inlineRun : List Move :=
  [.control .requestTicket, .submit 1 ⟨0, 0⟩, .submit 1 ⟨0, 0⟩, .start 0 1, .compare 0, .work 0,
    .settle 0, .finalize 0, .finish 0, .handle 0, .compare 1, .settle 1]

lemma inline_follows : system.Follows (fun _ _ => True) system.init inlineRun := by
  -- there is no run yet at the first move, and the rest is evaluated
  refine ⟨⟨trivial, fun _ hindex => absurd hindex (Nat.not_lt_zero _)⟩, trivial, ?_⟩
  simp only [System.Follows, system, Admits, ready, State.free, true_and, and_true]
  refine ⟨?_, ?_, ?_, ?_, ?_, ?_, ?_, ?_, ?_, ?_, ?_⟩ <;> decide

theorem start_admission_inline : ((system.run system.init inlineRun).reservations 0).retired = 1 ∧
      ((system.run system.init inlineRun).reservations 0).finalized = 1 ∧
      (system.run system.init inlineRun).count = 1 ∧
      (system.run system.init inlineRun).waiting 0 = 1 := by
  have hreach : system.Reachable (system.run system.init inlineRun) :=
    System.Segment.of_follows .refl inline_follows
  have hmain := start_admission hreach
  refine ⟨hmain.2.2.2.1 0 (by decide) (by decide), by decide, ?_, by decide⟩
  rw [hmain.2.2.2.2.2]
  decide

end Dispatch

end Vibeshine.HostStream
