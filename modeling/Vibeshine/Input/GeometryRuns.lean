import Vibeshine.Input.Geometry

/-! # Runs of the geometry transport

No contact crosses a change of the geometry: one that was active goes into quarantine and
stays there until it comes down anew or ends.
-/

namespace Vibeshine.Input.Geometry

open Library (System)

namespace Contact

variable {contact : Contact} {event : ContactEvent} {mappingValid : Bool}

lemma active_handle (hseparate : contact.Separate)
    (hactive : (contact.handle event mappingValid).2.active = true) :
    event = .down ∧ (contact.handle event mappingValid).1 = .accept ∨
      contact.active = true ∧ event ≠ .up ∧ event ≠ .cancel ∧ event ≠ .cancelAll ∧
        ¬(event = .down ∧ (contact.handle event mappingValid).1 = .accept) := by
  obtain ⟨active, quarantined⟩ := contact
  revert hseparate hactive
  unfold Separate
  cases event <;> cases mappingValid <;> cases active <;> cases quarantined <;> decide

lemma suppressed_of_quarantined (h : contact.quarantined = true) (hdown : event ≠ .down)
    (hall : event ≠ .cancelAll) : (contact.handle event mappingValid).1 = .suppress := by
  cases event <;> simp_all [handle]

lemma quarantined_handle (h : contact.quarantined = true) (hup : event ≠ .up)
    (hcancel : event ≠ .cancel) (hall : event ≠ .cancelAll)
    (hdown : event = .down → (contact.handle event mappingValid).1 = .suppress) :
    (contact.handle event mappingValid).2.quarantined = true := by
  obtain ⟨active, quarantined⟩ := contact
  revert h hup hcancel hall hdown
  cases event <;> cases mappingValid <;> cases active <;> cases quarantined <;> decide

lemma accepted_move (h : (contact.handle .move mappingValid).1 = .accept) :
    mappingValid = true ∧ contact.active = true := by
  obtain ⟨active, quarantined⟩ := contact
  revert h
  cases mappingValid <;> cases active <;> cases quarantined <;> decide

end Contact

/-! ## Steps -/

section

variable {τ ρ : Type} {s : State τ ρ}

inductive Effect (s : State τ ρ) (call : Call τ ρ) (s' : State τ ρ) : Prop where
  | quiet (entry : Entry) (history : s'.history = entry :: s.history)
      (accepted : entry.accepted? = none) (current : s'.transport.current = s.transport.current)
      (cancels : s'.cancels = s.cancels)
      (contacts : ∀ key, (∃ event mappingValid, call.eventFor key = some (event, mappingValid) ∧
          entry.eventFor key =
            some (event, ((s.transport.contact key).handle event mappingValid).1) ∧
          s'.transport.contact key = ((s.transport.contact key).handle event mappingValid).2) ∨
        call.eventFor key = none ∧ entry.eventFor key = none ∧
          s'.transport.contact key = s.transport.contact key)
  | initial (snapshot : Snapshot τ) (none : s.transport.current = none)
      (history : s'.history = .snapshot .initial snapshot.version :: s.history)
      (current : s'.transport.current = some snapshot) (cancels : s'.cancels = s.cancels)
      (contacts : ∀ key, call.eventFor key = Option.none ∧
        s'.transport.contact key = s.transport.contact key)
  | updated (old snapshot : Snapshot τ) (some : s.transport.current = some old)
      (newer : old.version < snapshot.version)
      (history : s'.history = .snapshot .updated snapshot.version :: s.history)
      (current : s'.transport.current = Option.some snapshot)
      (cancels : s'.cancels = s.cancels + 1)
      (contacts : ∀ key, call.eventFor key = none ∧
        s'.transport.contact key = (s.transport.contact key).change)

lemma Effect.of_refresh {call : Call τ ρ} (hcall : ∀ key, call.eventFor key = none)
    {snapshot : Snapshot τ} {refreshed : Refreshed τ ρ}
    (hresult : refreshed.result = (s.transport.refresh snapshot s.port).result)
    (htransport : refreshed.transport = (s.transport.refresh snapshot s.port).transport)
    (hcancelled : refreshed.cancelled = (s.transport.refresh snapshot s.port).cancelled) :
    Effect s call (s.refreshed snapshot refreshed) := by
  obtain ⟨hnone, hinitial, hsame, hquiet⟩ | ⟨old, hold, hnewer, hupdated, hcur, hchange,
    hcancel⟩ | ⟨hignored, hsame, hquiet⟩ := s.transport.refresh_cases snapshot s.port
  · refine .initial snapshot hnone ?_ ?_ ?_ fun key => ⟨hcall key, ?_⟩
    · simp [State.refreshed, hresult, hinitial]
    · simp [State.refreshed, htransport, hsame]
    · simp [State.refreshed, hcancelled, hquiet]
    · rw [State.refreshed, htransport, hsame]
      cases key <;> rfl
  · refine .updated old snapshot hold hnewer ?_ ?_ ?_ fun key => ⟨hcall key, ?_⟩
    · simp [State.refreshed, hresult, hupdated]
    · simp [State.refreshed, htransport, hcur]
    · simp [State.refreshed, hcancelled, hcancel]
    · rw [State.refreshed, htransport, hchange]
  · refine .quiet (.snapshot refreshed.result snapshot.version) rfl ?_ ?_ ?_
      fun key => .inr ⟨hcall key, rfl, ?_⟩
    · obtain hignored | hignored := hignored <;> simp [Entry.accepted?, hresult, hignored]
    · rw [State.refreshed, htransport, hsame]
    · simp [State.refreshed, hcancelled, hquiet]
    · rw [State.refreshed, htransport, hsame]

lemma Transport.touch_current (t : Transport τ) (event : ContactEvent) (pointerId : UInt32)
    (mappingValid : Bool) : (t.touch event pointerId mappingValid).2.current = t.current := by
  cases event <;> simp only [Transport.touch] <;> (try split) <;> rfl

lemma Transport.pen_current (t : Transport τ) (event : ContactEvent) (mappingValid : Bool) :
    (t.pen event mappingValid).2.current = t.current := by
  cases event <;> simp only [Transport.pen] <;> (try split) <;> rfl

lemma Effect.of_step (hseparate : ∀ key, (s.transport.contact key).Separate)
    (call : Call τ ρ) : Effect s call (s.step call) := by
  cases call with
  | refresh snapshot => exact .of_refresh (fun _ => rfl) rfl rfl rfl
  | refreshFromEvent snapshot eventPort =>
    obtain ⟨hresult, htransport, hcancelled⟩ :=
      s.transport.refreshFromEvent_refresh snapshot s.port eventPort
    exact .of_refresh (fun _ => rfl) hresult htransport hcancelled
  | touch event pointerId mappingValid =>
    refine .quiet (.touch event pointerId (s.transport.touch event pointerId mappingValid).1)
      rfl rfl (s.transport.touch_current _ _ _) rfl fun key => ?_
    by_cases hown : key = .touch pointerId
    · subst hown
      obtain ⟨hresult, hcontact⟩ :=
        Transport.handle_contact (hseparate (.touch pointerId)) event mappingValid
      refine .inl ⟨event, mappingValid, by simp [Call.eventFor], ?_, hcontact⟩
      rw [← hresult]
      simp [Entry.eventFor, Transport.handle]
    by_cases hall : event = .cancelAll
    · subst hall
      cases key with
      | pen => exact .inr ⟨rfl, rfl, rfl⟩
      | touch other =>
        refine .inl ⟨.cancelAll, mappingValid, by simp [Call.eventFor], ?_,
          Transport.touch_cancelAll pointerId other mappingValid⟩
        simp [Entry.eventFor, Transport.touch, Contact.handle]
    · refine .inr ⟨?_, ?_, Transport.touch_other hown hall mappingValid⟩
      · cases key with
        | pen => rfl
        | touch other =>
          have hne : other ≠ pointerId := fun heq => hown (heq ▸ rfl)
          simp [Call.eventFor, hne, hall]
      · cases key with
        | pen => rfl
        | touch other =>
          have hne : other ≠ pointerId := fun heq => hown (heq ▸ rfl)
          simp [Entry.eventFor, hne, hall]
  | pen event mappingValid =>
    refine .quiet (.pen event (s.transport.pen event mappingValid).1) rfl rfl
      (s.transport.pen_current _ _) rfl fun key => ?_
    cases key with
    | touch pointerId => exact .inr ⟨rfl, rfl, Transport.pen_other _ _ _⟩
    | pen =>
      obtain ⟨hresult, hcontact⟩ :=
        Transport.handle_contact (hseparate .pen) event mappingValid
      refine .inl ⟨event, mappingValid, rfl, ?_, hcontact⟩
      rw [← hresult]
      rfl

/-! ## Runs -/

/-- What holds after any calls. -/
structure Sound (s : State τ ρ) : Prop where
  separate : ∀ key, (s.transport.contact key).Separate
  standing : ∀ key, (s.transport.contact key).active = true → Stands Entry.Changes key s.history
  current : (acceptedVersions s.history).head? = s.transport.current.map Snapshot.version
  ordered : (acceptedVersions s.history).Pairwise (· > ·)
  cancelled : s.cancels = (acceptedVersions s.history).length - 1

lemma Sound.initial (port : Port τ ρ) : Sound ({ transport := {}, port := port } : State τ ρ) where
  separate key := by
    rintro ⟨hactive, -⟩
    cases key <;> simp [Transport.contact] at hactive
  standing key hactive := by cases key <;> simp [Transport.contact] at hactive
  current := rfl
  ordered := .nil
  cancelled := rfl

lemma not_changes_of_accepted {entry : Entry} (h : entry.accepted? = none) : ¬entry.Changes := by
  rintro ⟨version, rfl⟩
  cases h

lemma Sound.newest (h : Sound s) {old : Snapshot τ} {version : Nat ×ₗ Nat}
    (hold : s.transport.current = some old) (hnewer : old.version < version) :
    (version :: acceptedVersions s.history).Pairwise (· > ·) := by
  have hcur := h.current
  have hordered := h.ordered
  rw [hold, Option.map_some] at hcur
  cases hacc : acceptedVersions s.history with
  | nil => exact .cons nofun .nil
  | cons latest older =>
    rw [hacc] at hcur hordered
    cases hcur
    refine .cons (fun other hmem => ?_) hordered
    obtain rfl | hmem := List.mem_cons.mp hmem
    · exact hnewer
    · exact ((List.pairwise_cons.mp hordered).1 other hmem).trans hnewer

lemma Sound.stands_handle (h : Sound s) {entry : Entry} (hacc : entry.accepted? = none)
    {key : Key} {event : ContactEvent} {mappingValid : Bool} (hentry : entry.eventFor key =
      some (event, ((s.transport.contact key).handle event mappingValid).1))
    (hactive : ((s.transport.contact key).handle event mappingValid).2.active = true) :
    Stands Entry.Changes key (entry :: s.history) := by
  obtain ⟨rfl, haccept⟩ | ⟨hbefore, hup, hcancel, hall, hdown⟩ :=
    Contact.active_handle (h.separate key) hactive
  · exact ⟨[], entry, s.history, rfl, by rw [hentry, haccept], nofun⟩
  · refine (h.standing key hbefore).cons (fun hfresh => ?_) ?_ (not_changes_of_accepted hacc)
    · rw [hentry] at hfresh
      rw [Option.some.injEq, Prod.mk.injEq] at hfresh
      exact hdown hfresh
    · rintro ⟨ending, result, hending, hends⟩
      rw [hentry] at hending
      cases hending
      tauto

lemma Sound.stands_idle (h : Sound s) {entry : Entry} {key : Key}
    (hentry : entry.eventFor key = none) (hchanges : ¬entry.Changes)
    (hactive : (s.transport.contact key).active = true) :
    Stands Entry.Changes key (entry :: s.history) := by
  refine (h.standing key hactive).cons (by rw [hentry]; exact nofun) ?_ hchanges
  rintro ⟨ending, result, hending, -⟩
  rw [hentry] at hending
  cases hending

lemma Sound.effect {call : Call τ ρ} {s' : State τ ρ} (h : Sound s) (heffect : Effect s call s') :
    Sound s' := by
  cases heffect with
  | quiet entry hhistory hacc hcur hcancels hcontacts =>
    have hversions : acceptedVersions s'.history = acceptedVersions s.history := by
      rw [hhistory, acceptedVersions, List.filterMap_cons, hacc]
      rfl
    refine ⟨fun key => ?_, fun key hactive => ?_, ?_, ?_, ?_⟩
    · obtain ⟨event, mappingValid, -, -, hcontact⟩ | ⟨-, -, hcontact⟩ := hcontacts key
      · rw [hcontact]
        exact (h.separate key).handle event mappingValid
      · rw [hcontact]
        exact h.separate key
    · rw [hhistory]
      obtain ⟨event, mappingValid, -, hentry, hcontact⟩ | ⟨-, hentry, hcontact⟩ := hcontacts key
      · rw [hcontact] at hactive
        exact h.stands_handle hacc hentry hactive
      · rw [hcontact] at hactive
        exact h.stands_idle hentry (not_changes_of_accepted hacc) hactive
    · rw [hversions, hcur, h.current]
    · rw [hversions]
      exact h.ordered
    · rw [hversions, hcancels, h.cancelled]
  | initial snapshot hnone hhistory hcur hcancels hcontacts =>
    have hversions : acceptedVersions s.history = [] := by
      have hhead := h.current
      rw [hnone, Option.map_none] at hhead
      exact List.head?_eq_none_iff.mp hhead
    have hversions' : acceptedVersions s'.history = [snapshot.version] := by
      rw [hhistory, acceptedVersions, List.filterMap_cons]
      exact congrArg (snapshot.version :: ·) hversions
    refine ⟨fun key => ?_, fun key hactive => ?_, ?_, ?_, ?_⟩
    · rw [(hcontacts key).2]
      exact h.separate key
    · rw [(hcontacts key).2] at hactive
      rw [hhistory]
      -- The first version interrupts nothing.
      refine h.stands_idle rfl ?_ hactive
      rintro ⟨version, hchange⟩
      cases hchange
    · rw [hversions', hcur]
      rfl
    · rw [hversions']
      exact .cons nofun .nil
    · rw [hversions', hcancels, h.cancelled, hversions]
      rfl
  | updated old snapshot hold hnewer hhistory hcur hcancels hcontacts =>
    have hversions' : acceptedVersions s'.history =
        snapshot.version :: acceptedVersions s.history := by
      rw [hhistory]
      rfl
    have hsome : acceptedVersions s.history ≠ [] := by
      intro hnil
      have hhead := h.current
      rw [hnil, hold] at hhead
      cases hhead
    refine ⟨fun key => ?_, fun key hactive => ?_, ?_, ?_, ?_⟩
    · rw [(hcontacts key).2]
      exact Contact.Separate.change _
    · rw [(hcontacts key).2] at hactive
      cases hactive
    · rw [hversions', hcur]
      rfl
    · rw [hversions']
      exact h.newest hold hnewer
    · rw [hversions', hcancels, h.cancelled, List.length_cons]
      have := List.length_pos_iff.mpr hsome
      omega

lemma sound_of_reachable {port : Port τ ρ} (h : (geometrySystem port).Reachable s) : Sound s :=
  h.invariant (.initial port) fun _ call hsound _ => hsound.effect (.of_step hsound.separate call)

/-- The call does not renew or end a contact: it neither brings it down anew, nor lifts or
cancels it. -/
def Unrenewed (key : Key) (s : State τ ρ) (call : Call τ ρ) : Prop :=
  ∀ event mappingValid, call.eventFor key = some (event, mappingValid) →
    event ≠ .up ∧ event ≠ .cancel ∧ event ≠ .cancelAll ∧
      (event = .down → (s.transport.handle key event mappingValid).1 = .suppress)

lemma quarantined_segment {port : Port τ ρ} {source : State τ ρ} {key : Key}
    (hreach : (geometrySystem port).Reachable source)
    (hquar : (source.transport.contact key).quarantined = true)
    (hsegment : (geometrySystem port).Segment (Unrenewed key) source s) :
    (s.transport.contact key).quarantined = true := by
  induction hsegment with
  | refl => exact hquar
  | @snoc state call before _ hunrenewed ih =>
    have hsound := sound_of_reachable (hreach.extend before)
    show ((state.step call).transport.contact key).quarantined = true
    cases Effect.of_step hsound.separate call with
    | quiet entry _ _ _ _ hcontacts =>
      obtain ⟨event, mappingValid, hevent, -, hcontact⟩ | ⟨-, -, hcontact⟩ := hcontacts key
      · obtain ⟨hup, hcancel, hall, hdown⟩ := hunrenewed event mappingValid hevent
        rw [(Transport.handle_contact (hsound.separate key) event mappingValid).1] at hdown
        rw [hcontact]
        exact Contact.quarantined_handle ih hup hcancel hall hdown
      · rw [hcontact]
        exact ih
    | initial _ _ _ _ _ hcontacts =>
      rw [(hcontacts key).2]
      exact ih
    | updated _ _ _ _ _ _ _ hcontacts =>
      rw [(hcontacts key).2]
      simp [Contact.change, ih]

/-- Versions only grow, with one cancellation for each change after the first; no touch is
active and in quarantine; a move is accepted only while its contact stands since the last
change; and a contact that was active at a change stays suppressed until it is renewed. -/
theorem contacts_follow_geometry {port : Port τ ρ} (hreach : (geometrySystem port).Reachable s) :
    (acceptedVersions s.history).Pairwise (· > ·) ∧
    s.cancels = (acceptedVersions s.history).length - 1 ∧
    Disjoint s.transport.activeTouches s.transport.quarantinedTouches ∧
    (∀ key mappingValid, (s.transport.handle key .move mappingValid).1 = .accept →
      mappingValid = true ∧ Stands Entry.Changes key s.history) ∧
    ∀ key, (s.transport.contact key).active = true → ∀ call,
      (s.step call).cancels = s.cancels + 1 → ∀ later,
      (geometrySystem port).Segment (Unrenewed key) (s.step call) later →
      ∀ event mappingValid, event ≠ .down → event ≠ .cancelAll →
        (later.transport.handle key event mappingValid).1 = .suppress := by
  have hsound := sound_of_reachable hreach
  refine ⟨hsound.ordered, hsound.cancelled, ?_, fun key mappingValid haccept => ?_,
    fun key hactive call hcancels later hsegment event mappingValid hdown hall => ?_⟩
  · rw [Finset.disjoint_left]
    intro pointerId hactive hquar
    exact hsound.separate (.touch pointerId) (by simp [Transport.contact, hactive, hquar])
  · rw [(Transport.handle_contact (hsound.separate key) .move mappingValid).1] at haccept
    obtain ⟨hvalid, hactive⟩ := Contact.accepted_move haccept
    exact ⟨hvalid, hsound.standing key hactive⟩
  · have hnext : (geometrySystem port).Reachable (s.step call) := .snoc hreach trivial trivial
    have hquar : ((s.step call).transport.contact key).quarantined = true := by
      cases Effect.of_step hsound.separate call with
      | quiet _ _ _ _ _ _ | initial _ _ _ _ _ _ => omega
      | updated _ _ _ _ _ _ _ hcontacts =>
        rw [(hcontacts key).2]
        simp [Contact.change, hactive]
    have hlater := sound_of_reachable (hnext.extend hsegment)
    rw [(Transport.handle_contact (hlater.separate key) event mappingValid).1]
    exact Contact.suppressed_of_quarantined (quarantined_segment hnext hquar hsegment)
      hdown hall

end

/-! ### A contact that is older than the first geometry -/

def earlyTouch : State Unit Unit :=
  (geometrySystem { geometryTarget := (), stream := () }).run
    { transport := {}, port := { geometryTarget := (), stream := () } }
    [.touch .down 1 true, .refresh { captureGeneration := 1, target := () }]

lemma earlyTouch_reachable :
    (geometrySystem { geometryTarget := (), stream := () }).Reachable earlyTouch :=
  System.Segment.of_follows .refl ⟨trivial, trivial, trivial, trivial, trivial⟩

theorem contacts_follow_geometry_early : Stands Entry.Changes (.touch 1) earlyTouch.history ∧
      ((earlyTouch.step (.refresh { captureGeneration := 2, target := () })).transport.handle
        (.touch 1) .up true).1 = .suppress := by
  obtain ⟨-, -, -, hmoves, hchanges⟩ := contacts_follow_geometry earlyTouch_reachable
  exact ⟨(hmoves (.touch 1) true (by decide)).2,
    hchanges (.touch 1) (by decide) (.refresh { captureGeneration := 2, target := () }) (by decide)
      _ .refl .up true (by decide) (by decide)⟩

/-- The first geometry does not end the contacts that are older than it. -/
theorem first_geometry_keeps_contacts :
    ¬ ∀ (port : Port Unit Unit) (s : State Unit Unit), (geometrySystem port).Reachable s →
      ∀ key mappingValid, (s.transport.handle key .move mappingValid).1 = .accept →
        Stands (fun entry => entry.accepted? ≠ none) key s.history := by
  intro h
  obtain ⟨later, down, earlier, hhistory, hdown, hlater⟩ :=
    h _ earlyTouch earlyTouch_reachable (.touch 1) true (by decide)
  have hlist : earlyTouch.history =
      [.snapshot .initial (toLex (1, 0)), .touch .down 1 .accept] := rfl
  rw [hlist] at hhistory
  cases later with
  | nil =>
    cases hhistory
    cases hdown
  | cons first later =>
    obtain ⟨rfl, -⟩ := List.cons.inj hhistory
    exact (hlater _ List.mem_cons_self).2.2 nofun

end Vibeshine.Input.Geometry
