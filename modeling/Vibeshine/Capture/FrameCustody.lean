import Vibeshine.Capture.FrameRing

/-! # Custody of the slots of a frame ring

However the ring and the transport reply, the slots that `next` acquires are released, and a
session that saw anything lost or invalid has revoked its registration once.
-/

namespace Vibeshine.Capture.FrameRing

open Library List

section

variable {registration : Option Registration} {a : Account} {α : Type}

lemma ensures_ask {request : Request} {rest : request.Reply → Operation α}
    {crash : Account → Prop} {post : α → Account → Prop} (hcrash : crash a)
    (h : ∀ reply, (rest reply).Ensures (entered registration) (a.note registration request reply)
      crash post) :
    (ask request >>= rest).Ensures (entered registration) a crash post :=
  .ask hcrash fun reply served hserve => by
    rw [hserve]
    exact h reply

namespace Account.Orderly

variable {slot : Nat}

section

variable (h : a.Orderly)

include h

lemma wait {timeoutMs : Nat} (reply : Access) :
    (a.note registration (.wait timeoutMs) reply).Orderly := ⟨h.stray, h.crowded, h.held⟩

lemma acquire (hheld : a.held.length ≤ 1) (reply : Access) :
    (a.note registration (.acquire slot) reply).Orderly := by
  refine ⟨h.stray, h.crowded, ?_⟩
  simp only [note]
  split
  · simpa using hheld
  · exact h.held

lemma metadata (reply : Metadata) :
    (a.note registration (.metadata slot) reply).Orderly := ⟨h.stray, h.crowded, h.held⟩

lemma release (hheld : slot ∈ a.held) (reply : Bool) :
    (a.note registration (.release slot) reply).Orderly := by
  refine ⟨?_, h.crowded, ?_⟩
  · simp [note, h.stray, hheld]
  · exact le_trans length_erase_le h.held

lemma copy (hheld : a.held = [slot]) (reply : PrivateCopy) :
    (a.note registration (.copyToPrivate slot) reply).Orderly := by
  refine ⟨h.stray, ?_, h.held⟩
  simp [note, h.crowded, hheld]

lemma clear (request : ClearRequest) :
    (a.note registration (.clear request) ()).Orderly := ⟨h.stray, h.crowded, h.held⟩

end

end Account.Orderly

end

/-! ## The scan -/

/-- What the account says of a scan. -/
structure Scanned (registration : Registration) (lastSequence : Nat) (scan : Scan) (a : Account) :
    Prop where
  orderly : a.Orderly
  held : a.held = scan.chosen.toList
  failed : a.failed = (scan.lost || scan.invalid)
  clears : a.clears = []
  newest : ∀ slot, scan.chosen = some slot →
    lastSequence < scan.newest.sequence ∧ registration.valid scan.newest = true

section

variable {registration : Registration} {lastSequence : Nat} {scan : Scan} {a : Account}

lemma Scanned.held_le (h : Scanned registration lastSequence scan a) : a.held.length ≤ 1 := by
  rw [h.held]
  cases scan.chosen <;> simp

/-- A slot was acquired beside the one chosen so far, and its metadata was read. -/
structure Acquired (registration : Registration) (lastSequence slot : Nat) (scan : Scan)
    (metadata : Metadata) (a : Account) : Prop where
  orderly : a.Orderly
  held : a.held = slot :: scan.chosen.toList
  failed : a.failed = !registration.valid metadata
  clears : a.clears = []
  newest : ∀ slot, scan.chosen = some slot →
    lastSequence < scan.newest.sequence ∧ registration.valid scan.newest = true

lemma Scanned.acquired (h : Scanned registration lastSequence scan a) (hlost : scan.lost = false)
    (hinvalid : scan.invalid = false) (slot : Nat) (metadata : Metadata) :
    Acquired registration lastSequence slot scan metadata
      ((a.note (some registration) (.acquire slot) .acquired).note (some registration)
        (.metadata slot) metadata) where
  orderly := (h.orderly.acquire h.held_le .acquired).metadata metadata
  held := by simp [Account.note, h.held]
  failed := by simp [Account.note, h.failed, hlost, hinvalid]
  clears := h.clears
  newest := h.newest

variable {slot : Nat} {metadata : Metadata}

section

variable (h : Acquired registration lastSequence slot scan metadata a)

include h

lemma Acquired.release_orderly
    (released : Bool) : (a.note (some registration) (.release slot) released).Orderly :=
  h.orderly.release (by rw [h.held]; exact mem_cons_self) released

lemma Acquired.giveBack (released : Bool) {later : Scan} (hchosen : later.chosen = scan.chosen)
    (hnewest : later.newest = scan.newest)
    (hfailed : (later.lost || later.invalid) = (!registration.valid metadata || !released)) :
    Scanned registration lastSequence later
      (a.note (some registration) (.release slot) released) where
  orderly := h.release_orderly released
  held := by simp [Account.note, h.held, hchosen]
  failed := by simp [Account.note, h.failed, hfailed]
  clears := h.clears
  newest := by
    rw [hchosen, hnewest]
    exact h.newest

lemma Acquired.choose
    (hvalid : registration.valid metadata = true) (hsequence : lastSequence < metadata.sequence)
    (hnone : scan.chosen = none) (hlost : scan.lost = false) (hinvalid : scan.invalid = false) :
    Scanned registration lastSequence { scan with chosen := some slot, newest := metadata } a where
  orderly := h.orderly
  held := by
    rw [h.held, hnone]
    rfl
  failed := by simp [h.failed, hvalid, hlost, hinvalid]
  clears := h.clears
  newest _ _ := ⟨hsequence, hvalid⟩

lemma Acquired.replace
    (hvalid : registration.valid metadata = true) (hsequence : lastSequence < metadata.sequence)
    {former : Nat} (hformer : scan.chosen = some former) (released : Bool) {later : Scan}
    (hchosen : later.chosen = some slot) (hnewest : later.newest = metadata)
    (hfailed : (later.lost || later.invalid) = !released) :
    Scanned registration lastSequence later
      (a.note (some registration) (.release former) released) where
  orderly := h.orderly.release (by simp [h.held, hformer]) released
  held := by
    have herase : (slot :: [former]).erase former = [slot] := by
      by_cases hsame : slot = former
      · rw [hsame, erase_cons_head]
      · rw [erase_cons_tail (by simpa using hsame), erase_cons_head]
    rw [hchosen]
    simp only [Account.note, h.held, hformer]
    exact herase
  failed := by simp [Account.note, h.failed, hvalid, hfailed]
  clears := h.clears
  newest _ _ := by
    rw [hnewest]
    exact ⟨hsequence, hvalid⟩

end

lemma scanSlots_ensures (slots : List Nat) (h : Scanned registration lastSequence scan a)
    (hlost : scan.lost = false) (hinvalid : scan.invalid = false) :
    (scanSlots registration lastSequence slots scan).Ensures (entered (some registration)) a
      Account.Orderly (Scanned registration lastSequence) := by
  induction slots generalizing scan a with
  | nil => exact .done h.orderly h
  | cons slot slots ih =>
    apply ensures_ask h.orderly
    intro access
    have hacquire : (a.note (some registration) (.acquire slot) access).Orderly :=
      h.orderly.acquire h.held_le access
    cases access with
    | timeout =>
      refine ih ⟨hacquire, ?_, ?_, h.clears, h.newest⟩ hlost hinvalid
      · simpa [Account.note] using h.held
      · simpa [Account.note] using h.failed
    | lost =>
      refine .done hacquire ⟨hacquire, ?_, ?_, h.clears, h.newest⟩
      · simpa [Account.note] using h.held
      · simp [Account.note]
    | acquired =>
      apply ensures_ask hacquire
      intro metadata
      have hmetadata := h.acquired hlost hinvalid slot metadata
      split
      next hbad =>
        rw [Bool.not_eq_true'] at hbad
        refine ensures_ask hmetadata.orderly fun released =>
          .done (hmetadata.release_orderly released) (hmetadata.giveBack released rfl rfl ?_)
        simp [hbad]
      next hgood =>
        rw [Bool.not_eq_true', Bool.not_eq_false] at hgood
        split
        next hnewer =>
          rw [Bool.and_eq_true, decide_eq_true_eq] at hnewer
          cases hchosen : scan.chosen with
          | none =>
            exact ih (hmetadata.choose hgood hnewer.1 hchosen hlost hinvalid) hlost hinvalid
          | some former =>
            apply ensures_ask hmetadata.orderly
            intro released
            split
            next hkept =>
              rw [Bool.not_eq_true'] at hkept
              refine .done (hmetadata.orderly.release ?_ released)
                (hmetadata.replace hgood hnewer.1 hchosen released rfl rfl (by simp [hkept]))
              simp [hmetadata.held, hchosen]
            next hrel =>
              rw [Bool.not_eq_true', Bool.not_eq_false] at hrel
              exact ih (hmetadata.replace hgood hnewer.1 hchosen released rfl rfl
                (by simp [hrel, hlost, hinvalid])) hlost hinvalid
        next holder =>
          apply ensures_ask hmetadata.orderly
          intro released
          split
          next hkept =>
            rw [Bool.not_eq_true'] at hkept
            exact .done (hmetadata.release_orderly released)
              (hmetadata.giveBack released rfl rfl (by simp [hkept]))
          next hrel =>
            rw [Bool.not_eq_true', Bool.not_eq_false] at hrel
            exact ih (hmetadata.giveBack released rfl rfl
              (by simp [hgood, hrel, hlost, hinvalid])) hlost hinvalid

end

/-! ## A call of `next` -/

/-- What a call of `next` leaves of a registered session. -/
structure Served (s : Session) (registration : Registration) (served : Frame × Session)
    (a : Account) : Prop where
  released : a.held = []
  ready : served.1.status = .ready → registration.valid served.1.metadata = true ∧
    s.lastSequence < served.1.metadata.sequence ∧ a.failed = false ∧
    served.2.lastSequence = served.1.metadata.sequence
  idle : served.1.status ≠ .ready → a.failed = false → served.2 = s
  revoked : a.failed = true → served.2 = {} ∧ a.clears = [registration.clear]
  kept : a.failed = false → served.2.registration = some registration ∧ a.clears = []

section

variable {s : Session} {registration : Registration} {a : Account}

section

variable (hreg : s.registration = some registration)

include hreg

lemma stop_ensures (hord : a.Orderly)
    (hheld : a.held = []) (hfailed : a.failed = true) (hclears : a.clears = []) {status : Status}
    (hstatus : status ≠ .ready) :
    (do
      let s ← s.stop
      pure (({ status := status } : Frame), s) : Operation (Frame × Session)).Ensures
      (entered (some registration)) a Account.Orderly (Served s registration) := by
  unfold Session.stop
  rw [hreg]
  refine ensures_ask hord fun _ => .done (hord.clear _) ?_
  exact
    { released := hheld
      ready := fun hready => absurd hready hstatus
      idle := fun _ hkept => by simp [Account.note, hfailed] at hkept
      revoked := fun _ => ⟨rfl, by simp [Account.note, hclears]⟩
      kept := fun hkept => by simp [Account.note, hfailed] at hkept }

lemma takeChosen_ensures {slot : Nat}
    {newest : Metadata} (hord : a.Orderly) (hheld : a.held = [slot])
    (hfailed : a.failed = false) (hclears : a.clears = [])
    (hnewest : s.lastSequence < newest.sequence ∧ registration.valid newest = true) :
    (takeChosen s slot newest).Ensures (entered (some registration)) a Account.Orderly
      (Served s registration) := by
  apply ensures_ask hord
  intro copy
  have hcopy : (a.note (some registration) (.copyToPrivate slot) copy).Orderly :=
    hord.copy hheld copy
  apply ensures_ask hcopy
  intro released
  have hrelease : ((a.note (some registration) (.copyToPrivate slot) copy).note
      (some registration) (.release slot) released).Orderly :=
    hcopy.release (show slot ∈ a.held by simp [hheld]) released
  split
  next hbad =>
    refine stop_ensures hreg hrelease (by simp [Account.note, hheld]) ?_ hclears nofun
    simp only [Bool.or_eq_true, Bool.and_eq_true, decide_eq_true_eq] at hbad
    simp only [Account.note, hfailed, Bool.false_or, Bool.or_eq_true, Bool.and_eq_true,
      decide_eq_true_eq]
    tauto
  next hgood =>
    simp only [Bool.or_eq_true, Bool.and_eq_true, decide_eq_true_eq, not_or] at hgood
    have hkept : ((a.note (some registration) (.copyToPrivate slot) copy).note
        (some registration) (.release slot) released).failed = false := by
      simp only [Account.note, hfailed, Bool.false_or]
      simp_all
      exact fun hacquired => Option.isSome_iff_ne_none.mpr (hgood.2 hacquired)
    split
    next htimeout =>
      refine .done hrelease ?_
      exact
        { released := by simp [Account.note, hheld]
          ready := nofun
          idle := fun _ _ => rfl
          revoked := fun hfail => by rw [hkept] at hfail; cases hfail
          kept := fun _ => ⟨hreg, hclears⟩ }
    next =>
      refine .done hrelease ?_
      exact
        { released := by simp [Account.note, hheld]
          ready := fun _ => ⟨hnewest.2, hnewest.1, hkept, rfl⟩
          idle := fun hidle => absurd rfl hidle
          revoked := fun hfail => by rw [hkept] at hfail; cases hfail
          kept := fun _ => ⟨hreg, hclears⟩ }

lemma finishScan_ensures {scan : Scan}
    (h : Scanned registration s.lastSequence scan a) (wait : Access) :
    (finishScan s wait scan).Ensures (entered (some registration)) a Account.Orderly
      (Served s registration) := by
  unfold finishScan
  split
  next hbad =>
    have hstatus : (if scan.lost = true then Status.deviceLost else .invalidFrame) ≠ .ready := by
      split <;> exact nofun
    have hfailed : a.failed = true := by rw [h.failed, hbad]
    cases hchosen : scan.chosen with
    | none =>
      exact stop_ensures hreg h.orderly (by rw [h.held, hchosen]; rfl) hfailed h.clears
        hstatus
    | some slot =>
      have hheld : a.held = [slot] := by rw [h.held, hchosen]; rfl
      apply ensures_ask h.orderly
      intro released
      exact stop_ensures hreg
        (h.orderly.release (by rw [hheld]; exact mem_cons_self) released)
        (by simp [Account.note, hheld]) (by simp [Account.note, hfailed]) h.clears hstatus
  next hgood =>
    have hfailed : a.failed = false := by rw [h.failed, Bool.eq_false_iff]; exact hgood
    cases hchosen : scan.chosen with
    | none =>
      refine .done h.orderly ?_
      exact
        { released := by rw [h.held, hchosen]; rfl
          ready := fun hready => by
            dsimp only at hready
            split at hready <;> cases hready
          idle := fun _ _ => rfl
          revoked := fun hfail => by rw [hfailed] at hfail; cases hfail
          kept := fun _ => ⟨hreg, h.clears⟩ }
    | some slot =>
      exact takeChosen_ensures hreg h.orderly (by rw [h.held, hchosen]; rfl) hfailed
        h.clears (h.newest slot hchosen)

end

lemma next_ensures (p : Protocol) (timeoutMs : Nat)
    (hreg : s.registration = some registration) :
    (s.next p timeoutMs).Ensures (entered (some registration)) {} Account.Orderly
      (Served s registration) := by
  have hstart : Account.Orderly {} := ⟨rfl, rfl, zero_le⟩
  unfold Session.next
  rw [hreg]
  apply ensures_ask hstart
  intro wait
  have hwait : (({} : Account).note (some registration) (.wait (min timeoutMs maxFrameWaitMs))
      wait).Orderly := hstart.wait wait
  split
  next hlost =>
    exact stop_ensures hreg hwait rfl (by simp [Account.note, hlost]) rfl nofun
  next hreached =>
    have hscan : Scanned registration s.lastSequence {} (({} : Account).note (some registration)
        (.wait (min timeoutMs maxFrameWaitMs)) wait) :=
      ⟨hwait, rfl, by simp [Account.note, hreached], rfl, fun _ hchosen => by cases hchosen⟩
    exact .bind ((scanSlots_ensures _ hscan rfl rfl).mono (fun _ h => h)
      fun scan account _ hscanned => finishScan_ensures hreg hscanned wait)

end

/-! ## Runs of a session -/

/-- A session with the Ready frames since its last start, the registrations that the driver
accepted, and the clear requests that were sent for them. -/
structure World where
  session : Session := {}
  /-- The latest first. -/
  frames : List Metadata := []
  registrations : List Registration := []
  clears : List ClearRequest := []

inductive Reachable (p : Protocol) : World → Prop where
  | init : Reachable p {}
  | start {w : World} (before : Reachable p w) (resources : Option RegisterRequest)
      {started : Status × Session} {a : Account}
      (run : (w.session.start p resources).Finishes (entered none) {} started a) :
      Reachable p
        { session := started.2
          frames := []
          registrations := w.registrations ++ started.2.registration.toList
          clears := w.clears ++ a.clears.filter (!·.cancel) }
  | next {w : World} (before : Reachable p w) (timeoutMs : Nat) {served : Frame × Session}
      {a : Account}
      (run : (w.session.next p timeoutMs).Finishes (entered w.session.registration) {} served a) :
      Reachable p
        { w with
          session := served.2
          frames := if served.1.status = .ready then served.1.metadata :: w.frames else w.frames
          clears := w.clears ++ a.clears.filter (!·.cancel) }
  | stop {w : World} (before : Reachable p w) {stopped : Session} {a : Account}
      (run : w.session.stop.Finishes (entered none) {} stopped a) :
      Reachable p
        { w with
          session := stopped
          clears := w.clears ++ a.clears.filter (!·.cancel) }

section

variable {p : Protocol} {s : Session} {registration : Registration}

lemma stop_clears {stopped : Session} {a : Account}
    (h : s.stop.Finishes (entered none) {} stopped a) :
    stopped.registration = none ∧ a.clears = s.registration.toList.map Registration.clear := by
  unfold Session.stop at h
  cases hreg : s.registration with
  | none =>
    rw [hreg] at h
    cases h
    exact ⟨hreg, rfl⟩
  | some registration =>
    rw [hreg] at h
    cases h with
    | ask reply serve rest =>
      cases rest
      rw [serve]
      exact ⟨rfl, rfl⟩

lemma stop_ensures_clears : s.stop.Ensures (entered none) {} (fun _ => True) fun stopped a =>
      stopped.registration = none ∧ a.clears = s.registration.toList.map Registration.clear :=
  ⟨fun _ _ => trivial, fun _ _ h => stop_clears h⟩

lemma filter_cancel_clears (registrations : List Registration) :
    (registrations.map Registration.clear).filter (!·.cancel) =
      registrations.map Registration.clear := by
  apply filter_eq_self.mpr
  intro request hmem
  obtain ⟨registration, -, rfl⟩ := mem_map.mp hmem
  rfl

lemma start_clears {resources : Option RegisterRequest} {started : Status × Session}
    {a : Account} (h : (s.start p resources).Finishes (entered none) {} started a) :
    a.clears.filter (!·.cancel) = s.registration.toList.map Registration.clear := by
  have hensures : (s.start p resources).Ensures (entered none) {} (fun _ => True)
      fun _ a => a.clears.filter (!·.cancel) = s.registration.toList.map Registration.clear := by
    unfold Session.start
    refine .bind (stop_ensures_clears.mono (fun _ h => h) fun stopped a _ hstopped => ?_)
    obtain ⟨-, hclears⟩ := hstopped
    have hformer : a.clears.filter (!·.cancel) = s.registration.toList.map Registration.clear := by
      rw [hclears]
      exact filter_cancel_clears _
    -- A cancellation of what was not acknowledged is no clear of a registration.
    have hcancelled : ∀ request, (a.clears ++ [clearRequest request {} true]).filter (!·.cancel) =
        s.registration.toList.map Registration.clear := by
      intro request
      rw [filter_append, hformer]
      exact append_nil _
    cases resources with
    | none => exact .done trivial hformer
    | some request =>
      show Program.Ensures _ (if !p.validRequest request then _ else _) _ _ _
      split
      · exact .done trivial hformer
      apply ensures_ask trivial
      intro capabilities
      cases capabilities with
      | none => exact .done trivial hformer
      | some capabilities =>
        obtain ⟨capabilities, maxRingSlots⟩ := capabilities
        dsimp only
        split
        · exact .done trivial hformer
        apply ensures_ask trivial
        intro registered
        split
        · exact ensures_ask trivial fun _ => .done trivial (hcancelled request)
        split
        · exact ensures_ask trivial fun _ => .done trivial (hcancelled request)
        · exact .done trivial hformer
  exact hensures.finished _ _ h

lemma Registration.of_valid {registration : Registration} {metadata : Metadata}
    (h : registration.valid metadata = true) :
    metadata.clientCookie = registration.request.clientCookie ∧
      metadata.displayGeneration = registration.reply.displayGeneration ∧
      metadata.ringGeneration = registration.reply.ringGeneration := by
  simp only [Registration.valid, Bool.and_eq_true, beq_iff_eq] at h
  exact ⟨h.1.1.1.1.1.1, h.1.1.1.1.1.2, h.1.1.1.1.2⟩

/-- What holds after any calls. -/
structure Sound (w : World) : Prop where
  ordered : w.frames.Pairwise fun newer older => older.sequence < newer.sequence
  latest : w.session.registration ≠ none →
    ∀ frame ∈ w.frames, frame.sequence ≤ w.session.lastSequence
  revoked : w.clears ++ w.session.registration.toList.map Registration.clear =
    w.registrations.map Registration.clear

lemma Sound.next_stopped {w : World} (h : Sound w) (hreg : w.session.registration = none)
    {timeoutMs : Nat} {served : Frame × Session} {a : Account}
    (run : (w.session.next p timeoutMs).Finishes (entered none) {} served a) :
    Sound
      { w with
        session := served.2
        frames := if served.1.status = .ready then served.1.metadata :: w.frames else w.frames
        clears := w.clears ++ a.clears.filter (!·.cancel) } := by
  unfold Session.next at run
  rw [hreg] at run
  cases run
  refine ⟨h.ordered, h.latest, ?_⟩
  exact (congrArg (· ++ _) (append_nil _)).trans h.revoked

lemma Sound.next_registered {w : World} (h : Sound w)
    (hreg : w.session.registration = some registration) {served : Frame × Session}
    {a : Account} (hserved : Served w.session registration served a) :
    Sound
      { w with
        session := served.2
        frames := if served.1.status = .ready then served.1.metadata :: w.frames else w.frames
        clears := w.clears ++ a.clears.filter (!·.cancel) } := by
  have hrevoked := h.revoked
  rw [hreg] at hrevoked
  have hlatest := h.latest (by rw [hreg]; exact nofun)
  refine ⟨?_, fun hactive => ?_, ?_⟩
  · dsimp only
    split
    next hready =>
      obtain ⟨-, hnewer, -⟩ := hserved.ready hready
      exact .cons (fun frame hmem => lt_of_le_of_lt (hlatest frame hmem) hnewer) h.ordered
    · exact h.ordered
  · dsimp only at hactive ⊢
    cases hfailed : a.failed with
    | true => exact absurd (by rw [(hserved.revoked hfailed).1]) hactive
    | false =>
      split
      next hready =>
        obtain ⟨-, hnewer, -, hsequence⟩ := hserved.ready hready
        intro frame hmem
        rw [hsequence]
        obtain rfl | hmem := mem_cons.mp hmem
        · exact le_rfl
        · exact le_of_lt (lt_of_le_of_lt (hlatest frame hmem) hnewer)
      next hidle =>
        rw [hserved.idle hidle hfailed]
        exact hlatest
  · dsimp only
    cases hfailed : a.failed with
    | true =>
      -- The one clear of the call takes the place of the registration.
      obtain ⟨hstopped, hclears⟩ := hserved.revoked hfailed
      rw [hstopped, hclears, ← hrevoked]
      exact append_nil _
    | false =>
      obtain ⟨hkept, hclears⟩ := hserved.kept hfailed
      rw [hkept, hclears, ← hrevoked]
      exact congrArg (· ++ _) (append_nil _)

lemma sound_of_reachable {w : World} (h : Reachable p w) : Sound w := by
  induction h with
  | init => exact ⟨.nil, nofun, rfl⟩
  | start before resources run ih =>
    refine ⟨.nil, nofun, ?_⟩
    dsimp only
    rw [start_clears run, ih.revoked, map_append]
  | @stop w before stopped a run ih =>
    obtain ⟨hstopped, hclears⟩ := stop_clears run
    refine ⟨ih.ordered, fun hactive => absurd hstopped hactive, ?_⟩
    dsimp only
    rw [hstopped, hclears, filter_cancel_clears, ih.revoked]
    exact append_nil _
  | @next w before timeoutMs served a run ih =>
    cases hreg : w.session.registration with
    | none =>
      rw [hreg] at run
      exact ih.next_stopped hreg run
    | some registration =>
      rw [hreg] at run
      exact ih.next_registered hreg
        ((next_ensures p timeoutMs hreg).finished _ _ run)

end

/-- Slots are released, frames advance and name their registration, and what is lost or
invalid revokes the registration, once. -/
theorem session_law {p : Protocol} {w : World} (hreach : Reachable p w) :
    (w.frames.Pairwise fun newer older => older.sequence < newer.sequence) ∧
    w.clears ++ w.session.registration.toList.map Registration.clear =
      w.registrations.map Registration.clear ∧
    ∀ registration, w.session.registration = some registration → ∀ timeoutMs,
      (w.session.next p timeoutMs).Ensures (entered (some registration)) {} Account.Orderly
        fun served a =>
          a.held = [] ∧
          (served.1.status = .ready →
            served.1.metadata.clientCookie = registration.request.clientCookie ∧
            served.1.metadata.displayGeneration = registration.reply.displayGeneration ∧
            served.1.metadata.ringGeneration = registration.reply.ringGeneration) ∧
          (a.failed = true → served.2.registration = none ∧ a.clears = [registration.clear]) ∧
          (a.failed = false → served.2.registration = some registration ∧ a.clears = []) := by
  have hsound := sound_of_reachable hreach
  refine ⟨hsound.ordered, hsound.revoked, fun registration hreg timeoutMs => ?_⟩
  refine (next_ensures p timeoutMs hreg).mono (fun _ h => h) fun served a _ hserved => ?_
  refine ⟨hserved.released, fun hready => ?_, fun hfailed => ?_, hserved.kept⟩
  · exact Registration.of_valid (hserved.ready hready).1
  · obtain ⟨hstopped, hclears⟩ := hserved.revoked hfailed
    exact ⟨by rw [hstopped], hclears⟩

def fourSlots : Protocol where
  slotCount := 4
  requiredCapabilities := 1
  validRequest _ := true
  validReply _ _ := true

def fullRing : (request : Request) → request.Reply
  | .wait _ => .acquired
  | .acquire _ => .acquired
  | .metadata slot =>
    { clientCookie := 7, displayGeneration := 1, ringGeneration := 2, sequence := slot + 1
      acquiredQpc := 1 }
  | .release _ => true
  | .copyToPrivate slot => { status := .acquired, pixels := some slot }
  | .queryCapabilities => some (1, 4)
  | .register _ =>
    { exchanged := true, whole := true
      reply := { clientCookie := 7, displayGeneration := 1, ringGeneration := 2 } }
  | .clear _ => ()

def registered : World where
  session :=
    { registration := some
        ⟨{ clientCookie := 7, displayGeneration := 1 },
          { clientCookie := 7, displayGeneration := 1, ringGeneration := 2 }⟩ }
  registrations :=
    [⟨{ clientCookie := 7, displayGeneration := 1 },
      { clientCookie := 7, displayGeneration := 1, ringGeneration := 2 }⟩]

def answered (registration : Option Registration) (a : Account) (request : Request) :
    request.Reply × Account :=
  (fullRing request, a.note registration request (fullRing request))

lemma entered_answered (registration : Option Registration) (a : Account) (request : Request) :
    entered registration a request (answered registration a request).1
      (answered registration a request).2 := rfl

lemma registered_reachable : Reachable fourSlots registered := by
  have hstart := Program.finishes_run (entered_answered none)
    (({} : Session).start fourSlots (some { clientCookie := 7, displayGeneration := 1 })) {}
  exact Reachable.start .init _ hstart

theorem session_law_registered : ∃ served a, (registered.session.next fourSlots 16).Finishes
        (entered registered.session.registration) {} served a ∧
      served.1.status = .ready ∧ served.1.metadata.sequence = 4 ∧ a.held = [] := by
  obtain ⟨-, -, hnext⟩ := session_law registered_reachable
  have hrun := Program.finishes_run (entered_answered registered.session.registration)
    (registered.session.next fourSlots 16) {}
  obtain ⟨hheld, -⟩ := (hnext _ rfl 16).finished _ _ hrun
  exact ⟨_, _, hrun, by decide, by decide, hheld⟩

end Vibeshine.Capture.FrameRing
