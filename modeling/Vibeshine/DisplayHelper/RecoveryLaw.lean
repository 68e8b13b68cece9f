import Vibeshine.DisplayHelper.RecoveryRun

/-! # What a recovery does to the tiers

The ledger keeps, along a run, what the storage and the confirmations rest on: the baseline that
was loaded last, what the display was read as, the last comparison, and the last confirmation. A run is lawful if every request
that changes a tier is permitted where it is made.
-/

namespace Vibeshine.DisplayHelper.Recovery

open Library

structure Comparison where
  current : Snapshot
  requested : Snapshot
  /-- The token was looked at just before, and was not cancelled. -/
  live : Bool

inductive Stage where
  | idle
  | loaded (tier : SnapshotTier) (stored : ParsedSnapshot)
  | enumerated (tier : SnapshotTier) (stored : ParsedSnapshot) (devices : List EnumeratedDevice)

structure Ledger where
  /-- The last request was a look at the token, which was not cancelled. -/
  live : Bool := false
  stage : Stage := .idle
  /-- What the display was read as, the last read first. -/
  reads : List Snapshot := []
  /-- The tier that was loaded last, as filtered. -/
  baseline : Option (SnapshotTier × ParsedSnapshot) := none
  comparison : Option Comparison := none
  /-- The baseline that was confirmed, until the next load or comparison. -/
  confirmed : Option (SnapshotTier × ParsedSnapshot) := none
  /-- The last request has stored the current baseline as the previous one. -/
  saved : Bool := false
  /-- The last request has removed the current tier. -/
  removedCurrent : Bool := false
  /-- The baseline of some tier was confirmed in the run. -/
  everConfirmed : Bool := false
  /-- A tier was written or removed in the run. -/
  changed : Bool := false
  lawful : Prop := True

namespace Ledger

variable (equal : EqualDisplayModes) (l : Ledger)

/-- The last read has settled: it is like the one before it, and not of an empty display. -/
def Stable (current : Snapshot) : Prop :=
  ∃ last earlier, l.reads = current :: last :: earlier ∧
    (current.topology.isEmpty && current.modes.isEmpty) = false ∧
    equalSnapshot equal current last = true

def Matched (requested : Snapshot) : Prop :=
  ∃ current, l.comparison = some ⟨current, requested, true⟩ ∧
    recoverySnapshotMatches equal current requested = true

def Holds (tier : SnapshotTier) : Prop := ∃ loaded, l.confirmed = some (tier, loaded)

def Permits : Request → Prop
  | .compared current _ => l.live = true ∧ l.Stable equal current
  | .confirmed tier loaded =>
    l.baseline = some (tier, loaded) ∧ l.Matched equal loaded.snapshot
  | .preserved _ live => l.Matched equal live
  | .save tier snapshot rotations =>
    tier = .previous ∧ l.Holds .current ∧ ∃ stored, l.stage = .loaded .current stored ∧
      snapshot = stored.snapshot ∧ rotations = stored.layoutRotations
  | .remove .current => l.Holds .golden ∨ l.Holds .current ∧ l.saved = true
  | .remove .previous => l.Holds .golden ∧ l.removedCurrent = true
  | .remove .golden => False
  | _ => True

def pass (request : Request) : Ledger :=
  { l with
    live := false
    stage := .idle
    saved := false
    removedCurrent := false
    lawful := l.lawful ∧ l.Permits equal request }

def note : (request : Request) → request.Reply → Ledger
  | .isCancelled, cancelled =>
    { l.pass equal .isCancelled with live := !cancelled }
  | .captureSnapshot, current =>
    { l.pass equal .captureSnapshot with reads := current :: l.reads }
  | .loadWithMetadata tier, stored =>
    { l.pass equal (.loadWithMetadata tier) with
      stage := match stored with
        | none => .idle
        | some stored => .loaded tier stored }
  | .enumerate, devices =>
    { l.pass equal .enumerate with
      stage := match l.stage with
        | .loaded tier stored => .enumerated tier stored devices
        | _ => .idle }
  | .exclusions, exclusions =>
    match l.stage with
    | .enumerated tier stored devices =>
      { l.pass equal .exclusions with
        baseline := (filterLoadedSnapshot stored devices exclusions).map fun loaded =>
          (tier, loaded)
        confirmed := none }
    | _ => l.pass equal .exclusions
  | .compared current requested, _ =>
    { l.pass equal (.compared current requested) with
      comparison := some ⟨current, requested, l.live⟩
      confirmed := none }
  | .confirmed tier loaded, _ =>
    { l.pass equal (.confirmed tier loaded) with
      confirmed := some (tier, loaded)
      everConfirmed := true }
  | .save tier snapshot rotations, saved =>
    { l.pass equal (.save tier snapshot rotations) with
      saved := saved
      changed := true }
  | .remove tier, _ =>
    { l.pass equal (.remove tier) with
      removedCurrent := decide (tier = .current)
      changed := true }
  | request, _ => l.pass equal request

def keeps (request : Request) (reply : request.Reply) (next : Ledger) : Prop :=
  next = l.note equal request reply

/-- Lawful so far, and not in the middle of a filtered load. -/
structure Steady (l : Ledger) : Prop where
  lawful : l.lawful
  stage : l.stage = .idle

/-- What the ledger rests on has not changed. -/
structure Same (l next : Ledger) : Prop extends next.Steady where
  baseline : next.baseline = l.baseline
  comparison : next.comparison = l.comparison
  confirmed : next.confirmed = l.confirmed

end Ledger

def Request.Plain : Request → Prop
  | .loadWithMetadata _ | .save .. | .remove _ | .compared .. | .confirmed .. | .preserved .. =>
    False
  | _ => True

section

variable {equal : EqualDisplayModes} {l next : Ledger} {α : Type}
  {post : α → Ledger → Prop}

lemma Ledger.Steady.same (h : l.Steady) : l.Same l := ⟨h, rfl, rfl, rfl⟩

lemma Ledger.Same.note {request : Request} (h : l.Same next) (hplain : request.Plain)
    (reply : request.Reply) : l.Same (next.note equal request reply) := by
  obtain ⟨⟨hlawful, hstage⟩, hbaseline, hcmp, hconf⟩ := h
  cases request <;> first
    | exact hplain.elim
    | exact ⟨⟨⟨hlawful, trivial⟩, rfl⟩, hbaseline, hcmp, hconf⟩
    | skip
  all_goals
    simp only [Ledger.note, hstage]
    exact ⟨⟨⟨hlawful, trivial⟩, rfl⟩, hbaseline, hcmp, hconf⟩

lemma ensures_plain {program : Operation α} (hplain : program.Asks Request.Plain)
    (hl : l.Steady) (hpost : ∀ result next, l.Same next → post result next) :
    program.Ensures (Ledger.keeps equal) l Ledger.lawful post :=
  hplain.ensures hl.same
    (fun _ _ reply _ hrequest hsame hkeeps => hkeeps ▸ hsame.note hrequest reply)
    (fun _ hsame => hsame.lawful) hpost

lemma ensures_note {request : Request} {rest : request.Reply → Operation α}
    (hplain : request.Plain) (hl : l.Steady) (h : ∀ reply, l.Same (l.note equal request reply) →
      (rest reply).Ensures (Ledger.keeps equal) (l.note equal request reply) Ledger.lawful post) :
    (ask request >>= rest).Ensures (Ledger.keeps equal) l Ledger.lawful post := by
  refine .ask hl.lawful fun reply next hkeeps => ?_
  obtain rfl := hkeeps
  exact h reply (hl.same.note hplain reply)

lemma ensures_isCancelled {rest : Bool → Operation α} (hl : l.Steady)
    (h : ∀ cancelled next, l.Same next → next.live = !cancelled →
      (rest cancelled).Ensures (Ledger.keeps equal) next Ledger.lawful post) :
    (ask .isCancelled >>= rest).Ensures (Ledger.keeps equal) l Ledger.lawful post :=
  ensures_note (by trivial) hl fun cancelled hsame => h cancelled _ hsame rfl

/-- A look at the token reads no display. -/
lemma ensures_isCancelled_stable {read : Option Snapshot} {rest : Bool → Operation α}
    (hl : l.Steady) (hstable : ∀ current ∈ read, l.Stable equal current)
    (h : ∀ cancelled next, l.Same next → next.live = !cancelled →
      (∀ current ∈ read, next.Stable equal current) →
      (rest cancelled).Ensures (Ledger.keeps equal) next Ledger.lawful post) :
    (ask .isCancelled >>= rest).Ensures (Ledger.keeps equal) l Ledger.lawful post :=
  ensures_note (by trivial) hl fun cancelled hsame => h cancelled _ hsame rfl hstable

lemma ensures_ask {request : Request} {rest : request.Reply → Operation α}
    (hplain : request.Plain) (hl : l.Steady) (h : ∀ reply next, l.Same next →
      (rest reply).Ensures (Ledger.keeps equal) next Ledger.lawful post) :
    (ask request >>= rest).Ensures (Ledger.keeps equal) l Ledger.lawful post :=
  ensures_note hplain hl fun reply hsame => h reply _ hsame

lemma ensures_pure {result : α} (hl : l.Steady) (hpost : post result l) :
    (pure result : Operation α).Ensures (Ledger.keeps equal) l Ledger.lawful post :=
  .done hl.lawful hpost

end

/-! ## The programs that touch no tier -/

section

variable (equal : EqualDisplayModes)

lemma asks_plain {α : Type} {request : Request} {rest : request.Reply → Operation α}
    (hplain : request.Plain) (h : ∀ reply, (rest reply).Asks Request.Plain) :
    (ask request >>= rest).Asks Request.Plain :=
  ⟨hplain, h⟩

lemma readStableLoop_plain (start deadline interval : Int) (turns : Nat) (last : Option Snapshot) :
    (readStableLoop equal start deadline interval turns last).Asks Request.Plain := by
  induction turns generalizing last with
  | zero => exact .done none
  | succ turns ih =>
    apply asks_plain (by trivial)
    intro now
    split
    · exact .done none
    · apply asks_plain (by trivial)
      intro cancelled
      split
      · exact .done none
      · apply asks_plain (by trivial)
        intro current
        dsimp only
        split
        · exact .done (some current)
        · apply asks_plain (by trivial)
          intro cancelled
          split
          · exact .done none
          · exact asks_plain (by trivial) fun _ => ih (some current)

lemma readStableSnapshot_plain (turns : Nat) (deadline interval : Int) :
    (readStableSnapshot equal turns deadline interval).Asks Request.Plain :=
  asks_plain (by trivial) fun start =>
    readStableLoop_plain equal start deadline interval turns none

lemma quietLoop_plain (stableTurns : Nat) (base : Snapshot) (start duration interval : Int)
    (turns : Nat) : (quietLoop equal stableTurns base start duration interval turns).Asks
      Request.Plain := by
  induction turns with
  | zero => exact .done false
  | succ turns ih =>
    apply asks_plain (by trivial)
    intro now
    split
    · exact .done true
    · apply asks_plain (by trivial)
      intro cancelled
      split
      · exact .done false
      · apply (readStableSnapshot_plain equal stableTurns 2000 150).bind
        intro read
        cases read with
        | none => exact .done false
        | some current =>
          dsimp only
          split
          · exact .done false
          · apply asks_plain (by trivial)
            intro cancelled
            split
            · exact .done false
            · exact asks_plain (by trivial) fun _ => ih

lemma quietPeriod_plain (turns : Nat) (duration interval : Int) :
    (quietPeriod equal turns duration interval).Asks Request.Plain := by
  apply (readStableSnapshot_plain equal turns 2000 150).bind
  intro read
  cases read with
  | none => exact .done false
  | some base =>
    exact asks_plain (by trivial) fun start =>
      quietLoop_plain equal turns base start duration interval turns

lemma waitWithCancel_plain (slices : Nat) : (waitWithCancel slices).Asks Request.Plain := by
  induction slices with
  | zero => exact asks_plain (by trivial) fun cancelled => .done (!cancelled)
  | succ slices ih =>
    apply asks_plain (by trivial)
    intro cancelled
    split
    · exact .done false
    · exact asks_plain (by trivial) fun _ => ih

lemma applyHdrStates_plain (base : Snapshot) : (applyHdrStates base).Asks Request.Plain := by
  apply asks_plain (by trivial)
  intro cancelled
  split
  · exact .done false
  · exact .request trivial

variable (loaded : ParsedSnapshot)

lemma applyRotations_plain : (applyRotations loaded).Asks Request.Plain := by
  unfold applyRotations
  split
  · exact .done true
  · apply asks_plain (by trivial)
    intro cancelled
    split
    · exact .done false
    · exact .request trivial

lemma applyOnce_plain : (applyOnce loaded).Asks Request.Plain := by
  apply asks_plain (by trivial)
  intro status
  split
  · exact .done false
  · apply asks_plain (by trivial)
    intro cancelled
    split
    · exact .done false
    · apply asks_plain (by trivial)
      intro applied
      split
      · exact .done false
      · apply asks_plain (by trivial)
        intro cancelled
        split
        · exact .done false
        · apply (applyRotations_plain loaded).bind
          intro rotated
          split
          · exact .done false
          · exact applyHdrStates_plain loaded.snapshot

lemma layoutMatches_plain : (layoutMatches loaded).Asks Request.Plain := by
  unfold layoutMatches
  split
  · exact .done true
  · exact .request trivial

lemma knownPresentDevices_plain : knownPresentDevices.Asks Request.Plain :=
  asks_plain (by trivial) fun _ => asks_plain (by trivial) fun _ => .done _

lemma shouldSkipGolden_plain (golden : Snapshot) :
    (shouldSkipGolden golden).Asks Request.Plain := by
  refine asks_plain (by trivial) fun now => asks_plain (by trivial) fun lastOk =>
    asks_plain (by trivial) fun goldenFirst => ?_
  split
  · exact .done true
  · split
    · exact .done true
    · exact knownPresentDevices_plain.bind fun present => .done _

lemma liveDesktopToPreserve_plain (baseline : Snapshot) :
    (liveDesktopToPreserve baseline).Asks Request.Plain := by
  apply asks_plain (by trivial)
  intro preserves
  split
  · exact .done none
  · apply asks_plain (by trivial)
    intro golden
    split
    · exact .done none
    · apply asks_plain (by trivial)
      intro live
      cases (normalizeDeviceId live.primaryDevice).isEmpty with
      | true => exact .done none
      | false =>
        apply asks_plain (by trivial)
        intro valid
        split
        · exact .done none
        · apply asks_plain (by trivial)
          intro exclusions
          split
          · exact .done none
          · apply asks_plain (by trivial)
            intro devices
            split
            · exact .done none
            · split
              · exact .done (some live)
              · exact .done none

end

/-! ## Confirmations -/

section

variable {equal : EqualDisplayModes} {l : Ledger} {α : Type}

lemma Ledger.Same.trans {middle next : Ledger} (h : l.Same middle) (hnext : middle.Same next) :
    l.Same next :=
  ⟨hnext.toSteady, hnext.baseline.trans h.baseline, hnext.comparison.trans h.comparison,
    hnext.confirmed.trans h.confirmed⟩

lemma readStableLoop_ensures {start deadline interval : Int} (turns : Nat) {last : Option Snapshot}
    {post : Option Snapshot → Ledger → Prop} (hl : l.Steady)
    (hlast : ∀ snapshot ∈ last, ∃ earlier, l.reads = snapshot :: earlier)
    (hpost : ∀ read next, l.Same next → (∀ current ∈ read, next.Stable equal current) →
      post read next) :
    (readStableLoop equal start deadline interval turns last).Ensures (Ledger.keeps equal) l
      Ledger.lawful post := by
  have hgives : ∀ {next : Ledger}, l.Same next →
      (pure none : Operation (Option Snapshot)).Ensures (Ledger.keeps equal) next Ledger.lawful post :=
    fun hsame => ensures_pure hsame.toSteady (hpost none _ hsame nofun)
  induction turns generalizing l last with
  | zero => exact hgives hl.same
  | succ turns ih =>
    apply ensures_note (by trivial) hl
    intro now hfirst
    split
    · exact hgives hfirst
    · apply ensures_note (by trivial) hfirst.toSteady
      intro cancelled hsecond
      split
      · exact hgives (hfirst.trans hsecond)
      · apply ensures_note (by trivial) hsecond.toSteady
        intro current hthird
        have hsame := (hfirst.trans hsecond).trans hthird
        dsimp only
        split
        next hsettled =>
          -- The read before it is the one that the loop compares it with.
          obtain ⟨before, hbefore, hequal⟩ := Option.any_eq_true _ _ |>.mp hsettled
          obtain ⟨earlier, hearlier⟩ := hlast before hbefore
          simp only [Bool.and_eq_true, Bool.not_eq_true'] at hequal
          refine ensures_pure hsame.toSteady (hpost _ _ hsame fun read hread => ?_)
          obtain rfl := Option.mem_some_iff.mp hread
          exact ⟨before, earlier, congrArg (current :: ·) hearlier, hequal.1, hequal.2⟩
        next =>
          apply ensures_note (by trivial) hthird.toSteady
          intro cancelled hfourth
          split
          · exact hgives (hsame.trans hfourth)
          · apply ensures_note (by trivial) hfourth.toSteady
            intro _ hfifth
            have hsame := (hsame.trans hfourth).trans hfifth
            refine ih hsame.toSteady (fun snapshot hsnapshot => ?_)
              (fun read next hnext => hpost read next (hsame.trans hnext))
              (fun hnext => hgives (hsame.trans hnext))
            obtain rfl := Option.mem_some_iff.mp hsnapshot
            exact ⟨l.reads, rfl⟩

lemma readStableSnapshot_ensures {deadline interval : Int} (turns : Nat)
    {post : Option Snapshot → Ledger → Prop} (hl : l.Steady)
    (hpost : ∀ read next, l.Same next → (∀ current ∈ read, next.Stable equal current) →
      post read next) :
    (readStableSnapshot equal turns deadline interval).Ensures (Ledger.keeps equal) l
      Ledger.lawful post :=
  ensures_ask (by trivial) hl fun _ _ hsame => readStableLoop_ensures turns hsame.toSteady nofun
    fun read next hnext => hpost read next (hsame.trans hnext)

/-- What is left of the ledger while a baseline is being confirmed. -/
structure Ledger.Trying (l next : Ledger) : Prop extends next.Steady where
  baseline : next.baseline = l.baseline

lemma Ledger.Same.trying {next : Ledger} (h : l.Same next) : l.Trying next :=
  ⟨h.toSteady, h.baseline⟩

lemma Ledger.Trying.trans {middle next : Ledger} (h : l.Trying middle)
    (hnext : middle.Trying next) : l.Trying next :=
  ⟨hnext.toSteady, hnext.baseline.trans h.baseline⟩

lemma Ledger.Matched.same {next : Ledger} {requested : Snapshot}
    (h : l.Matched equal requested) (hsame : l.Same next) : next.Matched equal requested := by
  obtain ⟨current, hcmp, hmatches⟩ := h
  exact ⟨current, hsame.comparison.trans hcmp, hmatches⟩

variable (equal) in
def Confirms (program : Operation Bool) (requested : Snapshot) : Prop :=
  ∀ (l : Ledger) (post : Bool → Ledger → Prop), l.Steady →
    (∀ ok next, l.Trying next → (ok = true → next.Matched equal requested) → post ok next) →
    program.Ensures (Ledger.keeps equal) l Ledger.lawful post

variable {requested : Snapshot}

lemma Confirms.refuse : Confirms equal (pure false) requested :=
  fun _ _ hl hpost => ensures_pure hl (hpost false _ hl.same.trying nofun)

lemma Confirms.after {program : Operation α} {rest : α → Operation Bool}
    (hplain : program.Asks Request.Plain) (h : ∀ value, Confirms equal (rest value) requested) :
    Confirms equal (program >>= rest) requested := by
  intro l post hl hpost
  refine .bind (ensures_plain hplain hl fun value next hsame => ?_)
  exact h value next post hsame.toSteady fun ok last htrying hmatched =>
    hpost ok last (hsame.trying.trans htrying) hmatched

lemma Confirms.ite {condition : Prop} [Decidable condition] {first second : Operation Bool}
    (hfirst : Confirms equal first requested) (hsecond : Confirms equal second requested) :
    Confirms equal (if condition then first else second) requested := by
  split
  · exact hfirst
  · exact hsecond

lemma Confirms.plain_ask {request : Request} {rest : request.Reply → Operation Bool}
    (hplain : request.Plain) (h : ∀ reply, Confirms equal (rest reply) requested) :
    Confirms equal (ask request >>= rest) requested :=
  .after (.request hplain) h

lemma Confirms.orElse {first second : Operation Bool} (hfirst : Confirms equal first requested)
    (hsecond : Confirms equal second requested) : Confirms equal
      (first >>= fun ok => if ok = true then pure true else second) requested := by
  intro l post hl hpost
  refine .bind (hfirst l _ hl fun ok next htrying hmatched => ?_)
  cases ok with
  | true => exact ensures_pure htrying.toSteady (hpost true next htrying fun _ => hmatched rfl)
  | false =>
    exact hsecond next post htrying.toSteady fun ok last hlast hmatched =>
      hpost ok last (htrying.trans hlast) hmatched

lemma compare_ensures {current : Snapshot} {post : Bool → Ledger → Prop} (hl : l.Steady)
    (hlive : l.live = true) (hstable : l.Stable equal current)
    (hpost : ∀ ok next, l.Trying next → (ok = true → next.Matched equal requested) → post ok next) :
    (compare equal current requested).Ensures (Ledger.keeps equal) l Ledger.lawful post := by
  refine .ask hl.lawful fun reply next hkeeps => ?_
  obtain rfl := hkeeps
  have hsteady : (l.note equal (.compared current requested) reply).Steady :=
    ⟨⟨hl.lawful, hlive, hstable⟩, rfl⟩
  refine ensures_pure hsteady (hpost _ _ ⟨hsteady, rfl⟩ fun hmatches => ⟨current, ?_, hmatches⟩)
  simp only [Ledger.note, hlive]

lemma settles_ensures {turns : Nat} {current : Option Snapshot} {post : Bool → Ledger → Prop}
    (hl : l.Steady) (hlive : l.live = true) (hstable : ∀ read ∈ current, l.Stable equal read)
    (hpost : ∀ ok next, l.Trying next → post ok next) :
    (settles equal turns requested current).Ensures (Ledger.keeps equal) l Ledger.lawful post := by
  cases current with
  | none => exact ensures_pure hl (hpost false l hl.same.trying)
  | some current =>
    refine .bind (compare_ensures hl hlive (hstable current rfl) fun ok next htrying _ => ?_)
    split
    · exact ensures_plain (quietPeriod_plain equal turns 750 150) htrying.toSteady
        fun quiet last hsame => hpost quiet last (htrying.trans hsame.trying)
    · exact ensures_pure htrying.toSteady (hpost false next htrying)

lemma rereads_confirms (turns : Nat) :
    Confirms equal (rereads equal turns requested) requested := by
  intro l post hl hpost
  refine .bind (readStableSnapshot_ensures turns hl fun read first hfirst hstable => ?_)
  cases read with
  | none => exact ensures_pure hfirst.toSteady (hpost false first hfirst.trying nofun)
  | some current =>
    apply ensures_isCancelled_stable hfirst.toSteady hstable
    intro cancelled next hnext hlive hstable
    have hsame := hfirst.trans hnext
    cases cancelled with
    | true => exact ensures_pure hsame.toSteady (hpost false next hsame.trying nofun)
    | false =>
      exact compare_ensures hsame.toSteady hlive (hstable current rfl) fun ok last htrying hmatched =>
        hpost ok last (hsame.trying.trans htrying) hmatched

lemma readAgain_confirms (turns : Nat) (quiet : Bool) :
    Confirms equal (readAgain equal turns requested quiet) requested :=
  .ite (.plain_ask trivial fun _ => .ite .refuse (rereads_confirms turns)) .refuse

variable {loaded : ParsedSnapshot}

lemma confirmMatches_confirms (turns : Nat) :
    Confirms equal (confirmMatches equal turns loaded) loaded.snapshot := by
  intro l post hl hpost
  refine .bind (readStableSnapshot_ensures turns hl fun current read hread hstable => ?_)
  apply ensures_isCancelled_stable hread.toSteady hstable
  intro cancelled first hlook hlive hstable
  have hfirst := hread.trans hlook
  cases cancelled with
  | true => exact ensures_pure hfirst.toSteady (hpost false first hfirst.trying nofun)
  | false =>
    refine .bind (settles_ensures hfirst.toSteady hlive hstable fun quiet second hsecond => ?_)
    refine .bind (readAgain_confirms turns quiet second _ hsecond.toSteady
      fun stateOk third hthird hmatched => ?_)
    have htrying := hfirst.trying.trans (hsecond.trans hthird)
    apply ensures_isCancelled hthird.toSteady
    intro cancelled fourth hfourth _
    cases cancelled with
    | true =>
      exact ensures_pure hfourth.toSteady
        (hpost false fourth (htrying.trans hfourth.trying) nofun)
    | false =>
      refine .bind (ensures_plain (layoutMatches_plain loaded) hfourth.toSteady
        fun layoutOk fifth hfifth => ?_)
      apply ensures_isCancelled hfifth.toSteady
      intro cancelled last hlast _
      refine ensures_pure hlast.toSteady (hpost _ last
        (htrying.trans (hfourth.trying.trans (hfifth.trying.trans hlast.trying))) fun hok => ?_)
      simp only [Bool.and_eq_true] at hok
      exact (((hmatched hok.1.2).same hfourth).same hfifth).same hlast

lemma reassertRotations_ensures {turns : Nat} {post : Bool → Ledger → Prop} (hl : l.Steady)
    (hmatched : l.Matched equal loaded.snapshot) (hpost : ∀ ok next, l.Trying next →
      (ok = true → next.Matched equal loaded.snapshot) → post ok next) :
    (reassertRotationsAfterMatch equal turns loaded).Ensures
      (Ledger.keeps equal) l Ledger.lawful post := by
  have hkept : ∀ {first : Ledger}, l.Same first →
      notCancelled.Ensures (Ledger.keeps equal) first Ledger.lawful post := by
    intro first hfirst
    apply ensures_isCancelled hfirst.toSteady
    intro cancelled next hnext _
    exact ensures_pure hnext.toSteady (hpost _ next (hfirst.trying.trans hnext.trying)
      fun _ => (hmatched.same hfirst).same hnext)
  unfold reassertRotationsAfterMatch
  split
  · exact hkept hl.same
  · apply ensures_isCancelled hl
    intro cancelled first hfirst _
    split
    · exact hkept hfirst
    · split
      · exact ensures_pure hfirst.toSteady
          (hpost true first hfirst.trying fun _ => hmatched.same hfirst)
      · have hrefresh : Confirms equal
            (ask (.display (.reassertLayoutRotations loaded.layoutRotations)) >>= fun _ =>
              applyHdrStates loaded.snapshot >>= fun applied =>
                if applied = true then verifyOnce equal turns loaded
                else pure false) loaded.snapshot :=
          .plain_ask trivial fun _ => .after (applyHdrStates_plain loaded.snapshot) fun _ =>
            .ite (confirmMatches_confirms turns) .refuse
        exact hrefresh first post hfirst.toSteady fun ok next htrying hmatched =>
          hpost ok next (hfirst.trying.trans htrying) hmatched

lemma confirmInPlace_confirms (turns : Nat) :
    Confirms equal (confirmInPlace equal turns loaded) loaded.snapshot := by
  intro l post hl hpost
  refine .bind (confirmMatches_confirms turns l _ hl fun ok next htrying hmatched => ?_)
  cases ok with
  | true =>
    exact reassertRotations_ensures htrying.toSteady (hmatched rfl) fun ok last hlast hagain =>
      hpost ok last (htrying.trans hlast) hagain
  | false => exact ensures_pure htrying.toSteady (hpost false next htrying nofun)

lemma applyAndVerify_confirms (turns : Nat) :
    Confirms equal (applyAndVerify equal turns loaded) loaded.snapshot :=
  .after (applyOnce_plain loaded) fun _ => .ite (confirmMatches_confirms turns) .refuse

lemma secondAttempt_confirms (turns : Nat) :
    Confirms equal (secondAttempt equal turns loaded) loaded.snapshot := by
  refine .plain_ask trivial fun _ => .ite .refuse (.after (waitWithCancel_plain 14) fun _ => ?_)
  exact .ite .refuse (.orElse (confirmInPlace_confirms turns) (applyAndVerify_confirms turns))

lemma applyAndConfirm_confirms (turns : Nat) :
    Confirms equal (applyAndConfirm equal turns loaded) loaded.snapshot := by
  refine .ite .refuse (.plain_ask trivial fun _ => .plain_ask trivial fun _ => .ite .refuse ?_)
  refine .orElse (confirmInPlace_confirms turns) (.plain_ask trivial fun _ => .ite .refuse ?_)
  exact .orElse (applyAndVerify_confirms turns) (secondAttempt_confirms turns)

end

/-! ## The tiers -/

section

variable {equal : EqualDisplayModes} {l : Ledger} {next : Ledger}

lemma Ledger.Holds.same {tier : SnapshotTier} (h : l.Holds tier)
    (hsame : l.Same next) : next.Holds tier := by
  obtain ⟨loaded, hconf⟩ := h
  exact ⟨loaded, hsame.confirmed.trans hconf⟩

lemma loadFiltered_ensures {tier : SnapshotTier} {post : Option ParsedSnapshot → Ledger → Prop}
    (hl : l.Steady) (hpost : ∀ result next, next.Steady →
      (∀ loaded, result = some loaded → next.baseline = some (tier, loaded)) → post result next) :
    (loadFiltered tier).Ensures (Ledger.keeps equal) l Ledger.lawful post := by
  refine .ask hl.lawful fun stored first hfirst => ?_
  obtain rfl := hfirst
  cases stored with
  | none =>
    exact ensures_pure ⟨⟨hl.lawful, trivial⟩, rfl⟩
      (hpost none _ ⟨⟨hl.lawful, trivial⟩, rfl⟩ nofun)
  | some stored =>
    refine .ask ⟨hl.lawful, trivial⟩ fun devices second hsecond => ?_
    obtain rfl := hsecond
    refine .ask ⟨⟨hl.lawful, trivial⟩, trivial⟩ fun exclusions third hthird => ?_
    obtain rfl := hthird
    refine ensures_pure ⟨⟨⟨⟨hl.lawful, trivial⟩, trivial⟩, trivial⟩, rfl⟩
      (hpost _ _ ⟨⟨⟨⟨hl.lawful, trivial⟩, trivial⟩, trivial⟩, rfl⟩ fun loaded hloaded => ?_)
    simp [Ledger.note, hloaded]

variable {post : Bool → Ledger → Prop}

lemma goldenRestoreIsPending_ensures (hl : l.Steady)
    (hpost : ∀ pending next, next.Steady → next.comparison = l.comparison → post pending next) :
    goldenRestoreIsPending.Ensures (Ledger.keeps equal) l Ledger.lawful post := by
  refine .ask hl.lawful fun stored first hfirst => ?_
  obtain rfl := hfirst
  cases stored with
  | none =>
    exact ensures_pure ⟨⟨hl.lawful, trivial⟩, rfl⟩
      (hpost false _ ⟨⟨hl.lawful, trivial⟩, rfl⟩ rfl)
  | some stored =>
    refine .ask ⟨hl.lawful, trivial⟩ fun devices second hsecond => ?_
    obtain rfl := hsecond
    refine .ask ⟨⟨hl.lawful, trivial⟩, trivial⟩ fun exclusions third hthird => ?_
    have hsteady : third.Steady := by
      rw [hthird]
      exact ⟨⟨⟨⟨hl.lawful, trivial⟩, trivial⟩, trivial⟩, rfl⟩
    have hcmp : third.comparison = l.comparison := by
      rw [hthird]
      rfl
    dsimp only [Program.bind]
    split
    · exact ensures_pure hsteady (hpost true third hsteady hcmp)
    · refine .bind (ensures_plain knownPresentDevices_plain hsteady fun available next hnext => ?_)
      apply ensures_ask (by trivial) hnext.toSteady
      intro exclusions last hlast
      exact ensures_pure hlast.toSteady
        (hpost _ last hlast.toSteady
          (hlast.comparison.trans (hnext.comparison.trans hcmp)))

lemma clearSessionSnapshotsAfterGolden_ensures {post : Unit → Ledger → Prop} (hl : l.Steady)
    (hgolden : l.Holds .golden)
    (hpost : ∀ next, next.Steady → next.comparison = l.comparison → post () next) :
    clearSessionSnapshotsAfterGolden.Ensures (Ledger.keeps equal) l Ledger.lawful post := by
  refine .ask hl.lawful fun removed first hfirst => ?_
  obtain rfl := hfirst
  refine .ask ⟨hl.lawful, .inl hgolden⟩ fun removed second hsecond => ?_
  obtain rfl := hsecond
  exact ensures_pure ⟨⟨⟨hl.lawful, .inl hgolden⟩, hgolden, rfl⟩, rfl⟩
    (hpost _ ⟨⟨⟨hl.lawful, .inl hgolden⟩, hgolden, rfl⟩, rfl⟩ rfl)

lemma promoteCurrentToPrevious_ensures (hl : l.Steady) (hcur : l.Holds .current)
    (hpost : ∀ promoted next, next.Steady → next.comparison = l.comparison → post promoted next) :
    promoteCurrentToPrevious.Ensures (Ledger.keeps equal) l Ledger.lawful post := by
  refine .ask hl.lawful fun stored first hfirst => ?_
  obtain rfl := hfirst
  cases stored with
  | none =>
    exact ensures_pure ⟨⟨hl.lawful, trivial⟩, rfl⟩
      (hpost false _ ⟨⟨hl.lawful, trivial⟩, rfl⟩ rfl)
  | some current =>
    refine .ask ⟨hl.lawful, trivial⟩ fun saved second hsecond => ?_
    obtain rfl := hsecond
    have hsaves : (l.lawful ∧ True) ∧ (SnapshotTier.previous = .previous ∧ l.Holds .current ∧
        ∃ stored, Stage.loaded .current current = .loaded .current stored ∧
          current.snapshot = stored.snapshot ∧
          current.layoutRotations = stored.layoutRotations) :=
      ⟨⟨hl.lawful, trivial⟩, rfl, hcur, current, rfl, rfl, rfl⟩
    cases saved with
    | false => exact ensures_pure ⟨hsaves, rfl⟩ (hpost false _ ⟨hsaves, rfl⟩ rfl)
    | true =>
      refine .ask hsaves fun removed third hthird => ?_
      obtain rfl := hthird
      exact ensures_pure ⟨⟨hsaves, .inr ⟨hcur, rfl⟩⟩, rfl⟩
        (hpost true _ ⟨⟨hsaves, .inr ⟨hcur, rfl⟩⟩, rfl⟩ rfl)

/-! ## The run -/

variable (equal) in
/-- A strategy has ended; what it has restored was confirmed last. -/
structure Ledger.Ends (outcome : RecoveryOutcome) (restored : Option Snapshot) (l : Ledger) :
    Prop extends l.Steady where
  pending : outcome.success = false
  matched : ∀ snapshot, restored = some snapshot → l.Matched equal snapshot

lemma Ledger.Steady.ends (h : l.Steady) {outcome : RecoveryOutcome}
    (hpend : outcome.success = false) : l.Ends equal outcome none :=
  ⟨h, hpend, nofun⟩

lemma Ledger.Matched.compared {requested : Snapshot}
    (h : l.Matched equal requested) (hcmp : next.comparison = l.comparison) :
    next.Matched equal requested := by
  obtain ⟨current, hcur, hmatches⟩ := h
  exact ⟨current, hcmp.trans hcur, hmatches⟩

lemma Ledger.Same.ends {next : Ledger} {outcome : RecoveryOutcome}
    (h : l.Same next) (hpend : outcome.success = false) : next.Ends equal outcome none :=
  h.toSteady.ends hpend

lemma Ledger.Ends.compared {next : Ledger} {outcome : RecoveryOutcome}
    {restored : Option Snapshot} (h : l.Ends equal outcome restored)
    (hnext : next.Steady) (hcmp : next.comparison = l.comparison) :
    next.Ends equal outcome restored :=
  ⟨hnext, h.pending, fun snapshot hrestored => (h.matched snapshot hrestored).compared hcmp⟩

variable {outcome : RecoveryOutcome}

lemma resetStagedState_ensures
    {post : RecoveryOutcome → Ledger → Prop} (hl : l.Steady) (hpend : outcome.success = false)
    (hpost : ∀ result next, l.Same next → result.success = false → post result next) :
    (resetStagedState outcome).Ensures (Ledger.keeps equal) l Ledger.lawful post := by
  apply ensures_ask (by trivial) hl
  intro succeeded next hnext
  exact ensures_pure hnext.toSteady (hpost _ next hnext hpend)

lemma goldenConfirmed_ensures {golden : ParsedSnapshot} {outcome : RecoveryOutcome}
    {post : RecoveryOutcome × Option Snapshot → Ledger → Prop} (hl : l.Steady)
    (hpend : outcome.success = false) (hbaseline : l.baseline = some (.golden, golden))
    (hmatched : l.Matched equal golden.snapshot)
    (hpost : ∀ outcome restored next, next.Ends equal outcome restored →
      post (outcome, restored) next) :
    (goldenConfirmed golden outcome).Ensures (Ledger.keeps equal) l Ledger.lawful post := by
  refine .ask hl.lawful fun _ first hfirst => ?_
  have hsteady : first.Steady := by
    rw [hfirst]
    exact ⟨⟨hl.lawful, hbaseline, hmatched⟩, rfl⟩
  have hgolden : first.Holds .golden := ⟨golden, by rw [hfirst]; rfl⟩
  have hfirstMatched : first.Matched equal golden.snapshot :=
    hmatched.compared (by rw [hfirst]; rfl)
  apply ensures_isCancelled hsteady
  intro cancelled second hsecond _
  split
  · exact ensures_pure hsecond.toSteady (hpost _ _ second (hsecond.ends hpend))
  · refine .bind (resetStagedState_ensures hsecond.toSteady hpend
      fun outcome third hthird hpend => ?_)
    apply ensures_isCancelled hthird.toSteady
    intro cancelled fourth hfourth _
    split
    · exact ensures_pure hfourth.toSteady (hpost _ _ fourth (hfourth.ends hpend))
    · refine .bind (clearSessionSnapshotsAfterGolden_ensures hfourth.toSteady
        (((hgolden.same hsecond).same hthird).same hfourth) fun fifth hfifth hcmp => ?_)
      apply ensures_ask (by trivial) hfifth
      intro _ last hlast
      refine ensures_pure hlast.toSteady (hpost _ _ last ⟨hlast.toSteady, hpend, ?_⟩)
      rintro snapshot ⟨⟩
      exact ((((hfirstMatched.same hsecond).same hthird).same hfourth).compared hcmp).same
        hlast

variable {turns : Nat}

lemma tryGolden_ensures {outcome : RecoveryOutcome}
    {post : RecoveryOutcome × Option Snapshot → Ledger → Prop} (hl : l.Steady)
    (hpend : outcome.success = false)
    (hpost : ∀ outcome restored next, next.Ends equal outcome restored →
      post (outcome, restored) next) :
    (tryGolden equal turns outcome).Ensures (Ledger.keeps equal) l Ledger.lawful post := by
  have hgives : ∀ {next : Ledger}, next.Steady →
      (pure (outcome, none) : Operation (RecoveryOutcome × Option Snapshot)).Ensures
        (Ledger.keeps equal) next Ledger.lawful post :=
    fun hnext => ensures_pure hnext (hpost _ _ _ (hnext.ends hpend))
  apply ensures_isCancelled hl
  intro cancelled first hfirst _
  split
  · exact hgives hfirst.toSteady
  · refine .bind (loadFiltered_ensures hfirst.toSteady fun result second hsecond hloaded => ?_)
    cases result with
    | none => exact hgives hsecond
    | some golden =>
      have hbaseline := hloaded golden rfl
      refine .bind (ensures_plain (shouldSkipGolden_plain golden.snapshot) hsecond
        fun skip third hthird => ?_)
      split
      · exact hgives hthird.toSteady
      · apply ensures_ask (by trivial) hthird.toSteady
        intro valid fourth hfourth
        split
        · exact ensures_ask (by trivial) hfourth.toSteady fun _ next hnext =>
            hgives hnext.toSteady
        · refine .bind (applyAndConfirm_confirms turns fourth _ hfourth.toSteady
            fun confirmed fifth hfifth hmatched => ?_)
          split
          · refine goldenConfirmed_ensures hfifth.toSteady hpend ?_ (hmatched ‹_›) hpost
            rw [hfifth.baseline, hfourth.baseline, hthird.baseline, hbaseline]
          · apply ensures_isCancelled hfifth.toSteady
            intro cancelled sixth hsixth _
            split
            · exact hgives hsixth.toSteady
            · exact ensures_ask (by trivial) hsixth.toSteady fun _ next hnext =>
                hgives hnext.toSteady

variable (equal) in
/-- A session tier has been tried; what it has restored is its baseline, or the live desktop. -/
structure Ledger.Tried (tier : SnapshotTier) (outcome : RecoveryOutcome) (attempt : Attempt)
    (l : Ledger) : Prop extends l.Ends equal outcome attempt.restored where
  holds : attempt.restored.isSome → attempt.preservedLiveDesktop = false → l.Holds tier

lemma Ledger.Steady.tried (h : l.Steady) {tier : SnapshotTier} {outcome : RecoveryOutcome}
    (hpend : outcome.success = false) (attempted : Bool) :
    l.Tried equal tier outcome { attempted } :=
  ⟨h.ends hpend, nofun⟩

lemma sessionConfirmed_ensures {tier : SnapshotTier} {preserveLive : Bool}
    {loaded : ParsedSnapshot} {outcome : RecoveryOutcome}
    {post : RecoveryOutcome × Attempt → Ledger → Prop} (hl : l.Steady)
    (hpend : outcome.success = false) (hmatched : l.Matched equal loaded.snapshot)
    (hholds : preserveLive = false → l.Holds tier)
    (hpost : ∀ outcome attempt next, next.Tried equal tier outcome attempt →
      post (outcome, attempt) next) :
    (sessionConfirmed preserveLive loaded outcome).Ensures (Ledger.keeps equal) l
      Ledger.lawful post := by
  apply ensures_isCancelled hl
  intro cancelled first hfirst _
  split
  · exact ensures_pure hfirst.toSteady (hpost _ _ first (hfirst.toSteady.tried hpend true))
  · refine .bind (resetStagedState_ensures hfirst.toSteady hpend
      fun outcome second hsecond hpend => ?_)
    apply ensures_ask (by trivial) hsecond.toSteady
    intro now third hthird
    apply ensures_ask (by trivial) hthird.toSteady
    intro _ last hlast
    refine ensures_pure hlast.toSteady (hpost _ _ last ⟨⟨hlast.toSteady, hpend, ?_⟩, ?_⟩)
    · rintro snapshot ⟨⟩
      exact (((hmatched.same hfirst).same hsecond).same hthird).same hlast
    · exact fun _ hkept => ((((hholds hkept).same hfirst).same hsecond).same hthird).same hlast

lemma trySession_ensures {tier : SnapshotTier} {outcome : RecoveryOutcome}
    {post : RecoveryOutcome × Attempt → Ledger → Prop} (hl : l.Steady)
    (hpend : outcome.success = false)
    (hpost : ∀ outcome attempt next, next.Tried equal tier outcome attempt →
      post (outcome, attempt) next) :
    (trySession equal turns tier outcome).Ensures (Ledger.keeps equal) l Ledger.lawful post := by
  have hgives : ∀ {next : Ledger} (attempted : Bool), next.Steady →
      (pure (outcome, { attempted }) : Operation (RecoveryOutcome × Attempt)).Ensures
        (Ledger.keeps equal) next Ledger.lawful post :=
    fun attempted hnext => ensures_pure hnext (hpost _ _ _ (hnext.tried hpend attempted))
  refine .bind (loadFiltered_ensures hl fun result first hfirst hloaded => ?_)
  cases result with
  | none => exact hgives false hfirst
  | some loaded =>
    have hbaseline := hloaded loaded rfl
    apply ensures_ask (by trivial) hfirst
    intro valid second hsecond
    split
    · exact hgives true hsecond.toSteady
    · refine .bind (ensures_plain (liveDesktopToPreserve_plain loaded.snapshot) hsecond.toSteady
        fun live third hthird => ?_)
      cases live with
      | some live =>
        refine .bind (confirmMatches_confirms turns third _ hthird.toSteady
          fun confirmed fourth hfourth hmatched => ?_)
        split
        · have hlive := hmatched ‹_›
          refine .ask hfourth.lawful fun _ fifth hfifth => ?_
          have hsteady : fifth.Steady := by
            rw [hfifth]
            exact ⟨⟨hfourth.lawful, hlive⟩, rfl⟩
          exact sessionConfirmed_ensures hsteady hpend
            (hlive.compared (by rw [hfifth]; rfl)) nofun hpost
        · exact hgives true hfourth.toSteady
      | none =>
        refine .bind (applyAndConfirm_confirms turns third _ hthird.toSteady
          fun confirmed fourth hfourth hmatched => ?_)
        split
        · have hloaded := hmatched ‹_›
          have hkept : fourth.baseline = some (tier, loaded) := by
            rw [hfourth.baseline, hthird.baseline, hsecond.baseline, hbaseline]
          refine .ask hfourth.lawful fun _ fifth hfifth => ?_
          have hsteady : fifth.Steady := by
            rw [hfifth]
            exact ⟨⟨hfourth.lawful, hkept, hloaded⟩, rfl⟩
          have hholds : fifth.Holds tier := ⟨loaded, by rw [hfifth]; rfl⟩
          exact sessionConfirmed_ensures hsteady hpend
            (hloaded.compared (by rw [hfifth]; rfl)) (fun _ => hholds) hpost
        · exact hgives true hfourth.toSteady

lemma promoteConfirmed_ensures {attempt : Attempt} {post : Unit → Ledger → Prop}
    (hl : l.Tried equal .current outcome attempt) (hsome : attempt.restored.isSome)
    (hpost : ∀ next, next.Ends equal outcome attempt.restored → post () next) :
    (promoteConfirmed attempt).Ensures (Ledger.keeps equal) l Ledger.lawful post := by
  unfold promoteConfirmed
  split
  · exact ensures_pure hl.toSteady (hpost l hl.toEnds)
  · apply ensures_isCancelled hl.toSteady
    intro cancelled first hfirst _
    split
    · exact ensures_pure hfirst.toSteady
        (hpost first (hl.toEnds.compared hfirst.toSteady hfirst.comparison))
    · have hholds := (hl.holds hsome (by simpa using ‹¬attempt.preservedLiveDesktop = true›)).same
        hfirst
      refine .bind (promoteCurrentToPrevious_ensures hfirst.toSteady hholds
        fun promoted last hlast hcmp => ?_)
      exact ensures_pure hlast
        (hpost last (hl.toEnds.compared hlast (hcmp.trans hfirst.comparison)))

lemma tryPrevious_ensures {triedGolden attemptedCurrent : Bool}
    {outcome : RecoveryOutcome} {post : SessionResult → Ledger → Prop} (hl : l.Steady)
    (hpend : outcome.success = false)
    (hpost : ∀ result next, next.Ends equal result.outcome result.restored → post result next) :
    (tryPrevious equal turns triedGolden attemptedCurrent outcome).Ensures
      (Ledger.keeps equal) l Ledger.lawful post := by
  refine .bind (trySession_ensures hl hpend fun outcome attempt next hnext => ?_)
  dsimp only
  split
  · apply ensures_isCancelled hnext.toSteady
    intro cancelled last hlast _
    exact ensures_pure hlast.toSteady
      (hpost _ last (hnext.toEnds.compared hlast.toSteady hlast.comparison))
  · exact ensures_pure hnext.toSteady (hpost _ next hnext.toEnds)

lemma prefersGolden_plain (attempted : Bool) : (prefersGolden attempted).Asks Request.Plain := by
  apply asks_plain (by trivial)
  intro preferred
  split
  · exact .done false
  · apply asks_plain (by trivial)
    intro stored
    split
    · exact .done false
    · exact .request trivial

lemma trySessionSnapshots_ensures {outcome : RecoveryOutcome}
    {post : SessionResult → Ledger → Prop} (hl : l.Steady) (hpend : outcome.success = false)
    (hpost : ∀ result next, next.Ends equal result.outcome result.restored → post result next) :
    (trySessionSnapshots equal turns outcome).Ensures (Ledger.keeps equal)
      l Ledger.lawful post := by
  refine .bind (trySession_ensures hl hpend fun outcome attempt first hfirst => ?_)
  dsimp only
  split
  · refine .bind (promoteConfirmed_ensures hfirst ‹_› fun next hnext => ?_)
    exact ensures_pure hnext.toSteady (hpost _ next hnext)
  · refine .bind (ensures_plain (prefersGolden_plain attempt.attempted) hfirst.toSteady
      fun preferred second hsecond => ?_)
    split
    · refine .bind (tryGolden_ensures hsecond.toSteady hfirst.pending
        fun outcome restored third hthird => ?_)
      dsimp only
      split
      · exact ensures_pure hthird.toSteady (hpost _ third hthird)
      · exact tryPrevious_ensures hthird.toSteady hthird.pending hpost
    · exact tryPrevious_ensures hsecond.toSteady hfirst.pending hpost

variable (equal) in
def Ledger.Returned (outcome : RecoveryOutcome) (l : Ledger) : Prop :=
  outcome.success = true → ∃ snapshot, outcome.snapshot = some snapshot ∧ l.Matched equal snapshot

lemma Ledger.Ends.returned {outcome : RecoveryOutcome}
    {restored : Option Snapshot} (h : l.Ends equal outcome restored)
    (hsome : restored.isSome) (hcmp : next.comparison = l.comparison) :
    next.Returned equal (succeed outcome restored) := by
  obtain ⟨snapshot, rfl⟩ := Option.isSome_iff_exists.mp hsome
  exact fun _ => ⟨snapshot, rfl, (h.matched snapshot rfl).compared hcmp⟩

lemma Ledger.Ends.refused {outcome : RecoveryOutcome}
    {restored : Option Snapshot} (h : l.Ends equal outcome restored) :
    next.Returned equal outcome :=
  fun hsuccess => nomatch hsuccess.symm.trans h.pending

lemma noted_ensures {note : Note} {outcome : RecoveryOutcome} (hl : l.Steady)
    (hreturned : ∀ next, l.Same next → next.Returned equal outcome) :
    (ask (.note note) >>= fun _ => pure outcome).Ensures (Ledger.keeps equal) l
      Ledger.lawful fun outcome next => next.Returned equal outcome :=
  ensures_ask (by trivial) hl fun _ next hnext => ensures_pure hnext.toSteady (hreturned next hnext)

lemma runGoldenFirst_ensures {outcome : RecoveryOutcome} (hl : l.Steady)
    (hpend : outcome.success = false) :
    (runGoldenFirst equal turns outcome).Ensures (Ledger.keeps equal) l
      Ledger.lawful fun outcome next => next.Returned equal outcome := by
  refine .bind (tryGolden_ensures hl hpend fun outcome restored first hfirst => ?_)
  dsimp only
  split
  · exact noted_ensures hfirst.toSteady fun next hnext => hfirst.returned ‹_› hnext.comparison
  · refine .bind (trySessionSnapshots_ensures hfirst.toSteady hfirst.pending
      fun session second hsecond => ?_)
    split
    · exact noted_ensures hsecond.toSteady fun _ _ => hsecond.refused
    · refine .bind (goldenRestoreIsPending_ensures hsecond.toSteady
        fun pending third hthird hcmp => ?_)
      split
      · exact noted_ensures hthird fun _ _ => hsecond.refused
      · apply ensures_ask (by trivial) hthird
        intro _ fourth hfourth
        exact noted_ensures hfourth.toSteady fun next hnext => hsecond.returned
          (by simpa [Option.isSome_iff_ne_none] using ‹¬(!session.restored.isSome) = true›)
          (hnext.comparison.trans (hfourth.comparison.trans hcmp))

lemma runSessionFirst_ensures {outcome : RecoveryOutcome} (hl : l.Steady)
    (hpend : outcome.success = false) :
    (runSessionFirst equal turns outcome).Ensures (Ledger.keeps equal) l
      Ledger.lawful fun outcome next => next.Returned equal outcome := by
  refine .bind (trySessionSnapshots_ensures hl hpend fun session first hfirst => ?_)
  split
  · split
    · apply ensures_ask (by trivial) hfirst.toSteady
      intro _ second hsecond
      exact noted_ensures hsecond.toSteady fun next hnext =>
        hfirst.returned ‹_› (hnext.comparison.trans hsecond.comparison)
    · exact noted_ensures hfirst.toSteady fun next hnext => hfirst.returned ‹_› hnext.comparison
  · split
    · exact noted_ensures hfirst.toSteady fun _ _ => hfirst.refused
    · refine .bind (tryGolden_ensures hfirst.toSteady hfirst.pending
        fun outcome restored second hsecond => ?_)
      apply noted_ensures hsecond.toSteady
      intro next hnext
      cases restored with
      | none => exact nofun
      | some snapshot => exact hsecond.returned rfl hnext.comparison

lemma run_ensures (hl : l.Steady) : (run equal turns).Ensures (Ledger.keeps equal) l Ledger.lawful
      fun outcome next => next.Returned equal outcome := by
  apply ensures_isCancelled hl
  intro cancelled first hfirst _
  split
  · exact ensures_pure hfirst.toSteady nofun
  · apply ensures_ask (by trivial) hfirst.toSteady
    intro _ second hsecond
    apply ensures_ask (by trivial) hsecond.toSteady
    intro golden third hthird
    split
    · exact runGoldenFirst_ensures hthird.toSteady rfl
    · exact ensures_ask (by trivial) hthird.toSteady fun _ last hlast =>
        runSessionFirst_ensures hlast.toSteady rfl

/-- The tiers are as they were unless the baseline of one was confirmed. -/
structure Ledger.Accounted (l : Ledger) : Prop where
  confirmed : l.confirmed.isSome → l.everConfirmed = true
  changed : l.changed = true → l.everConfirmed = true

lemma Ledger.Holds.everConfirmed {tier : SnapshotTier} (h : l.Holds tier)
    (haccounted : l.Accounted) : l.everConfirmed = true := by
  obtain ⟨loaded, hconf⟩ := h
  exact haccounted.confirmed (by rw [hconf]; rfl)

lemma Ledger.Accounted.note {request : Request} (h : l.Accounted) (reply : request.Reply)
    (hlawful : (l.note equal request reply).lawful) : (l.note equal request reply).Accounted := by
  cases request with
  | confirmed tier loaded => exact ⟨fun _ => rfl, fun _ => rfl⟩
  | compared current requested => exact ⟨nofun, h.changed⟩
  | exclusions =>
    simp only [Ledger.note]
    split
    · exact ⟨nofun, h.changed⟩
    · exact ⟨h.confirmed, h.changed⟩
  | save tier snapshot rotations =>
    obtain ⟨-, -, hholds, -⟩ := hlawful
    exact ⟨h.confirmed, fun _ => hholds.everConfirmed h⟩
  | remove tier =>
    refine ⟨h.confirmed, fun _ => ?_⟩
    cases tier with
    | current =>
      obtain hgolden | ⟨hcur, -⟩ := hlawful.2
      · exact hgolden.everConfirmed h
      · exact hcur.everConfirmed h
    | previous => exact hlawful.2.1.everConfirmed h
    | golden => exact hlawful.2.elim
  | _ => exact ⟨h.confirmed, h.changed⟩

/-- Every run of a recovery is lawful, wherever it is interrupted: no tier changes before the
baseline of one was confirmed, and a success returns the snapshot that was confirmed last. -/
theorem run_lawful (equal : EqualDisplayModes) (turns : Nat) :
    (run equal turns).Ensures (Ledger.keeps equal) {}
      (fun l => l.lawful ∧ (l.changed = true → l.everConfirmed = true))
      fun outcome l => outcome.success = true →
        ∃ snapshot, outcome.snapshot = some snapshot ∧ l.Matched equal snapshot := by
  have hstart : ({} : Ledger).Steady := ⟨trivial, rfl⟩
  have haccounted : ({} : Ledger).Accounted := ⟨nofun, nofun⟩
  have hlawful : (run equal turns).Ensures (Ledger.keeps equal) {}
      Ledger.lawful fun outcome next => next.Returned equal outcome :=
    run_ensures hstart
  have hrun := hlawful.invariant haccounted fun l request reply next hl hnext hkeeps => by
    obtain rfl := hkeeps
    exact hl.note reply hnext
  exact hrun.mono (fun l h => ⟨h.1, h.2.changed⟩) fun outcome l _ hreturned => hreturned

end

end Vibeshine.DisplayHelper.Recovery
