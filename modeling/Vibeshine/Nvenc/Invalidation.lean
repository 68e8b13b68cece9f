import Vibeshine.Nvenc.References

/-! # Frames after an invalidation

Runs of encoded frames and invalidation requests. After a request that succeeds, no new
frame depends on a frame of the request, not even through other frames.
-/

namespace Vibeshine.Nvenc

open Library List

/-! ## Runs -/

structure Picture where
  index : Nat
  idr : Bool
  references : List Nat
  afterRefFrameInvalidation : Bool
  deriving DecidableEq

structure Request where
  firstFrame : Nat
  lastFrame : Nat
  entered : Bool
  /-- The range of the request lay within the range of the last one. -/
  alreadyDone : Bool
  result : Bool
  deriving DecidableEq

inductive Entry where
  | encoded (picture : Picture)
  | requested (request : Request)
  deriving DecidableEq

def Entry.picture? : Entry → Option Picture
  | .encoded picture => some picture
  | .requested _ => none

structure Session where
  encoder : EncoderState := {}
  /-- What happened, the latest first. -/
  log : List Entry := []
  /-- The frames for which the driver took the invalidation. -/
  invalidated : List Nat := []
  /-- A request failed since the last picture. -/
  idrDue : Bool := false
  deriving DecidableEq

def Session.pictures (s : Session) : List Picture := s.log.filterMap Entry.picture?

def sinceIdr : List Picture → List Picture
  | [] => []
  | picture :: older => if picture.idr then [picture] else picture :: sinceIdr older

/-- What the driver makes of a frame. -/
structure Coded where
  idr : Bool
  references : List Nat
  deriving DecidableEq

inductive Event where
  /-- `encode_frame`, without a coded frame where it fails before the driver has the frame.
  After a failure the callers end the session. -/
  | encode (frameIndex : Nat) (forceIdr : Bool) (coded : Option Coded)
  | invalidate (firstFrame lastFrame : Nat) (entered : Bool) (accepts : Nat → Bool)

/-- The driver codes a forced IDR as an IDR. An IDR refers to nothing, another picture to
pictures since the last IDR that are not invalidated. -/
structure Drives (s : Session) (forceIdr : Bool) (coded : Coded) : Prop where
  forced : forceIdr = true → coded.idr = true
  alone : coded.idr = true → coded.references = []
  refers : ∀ reference ∈ coded.references,
    (∃ picture ∈ sinceIdr s.pictures, picture.index = reference) ∧ reference ∉ s.invalidated

instance (s : Session) (forceIdr : Bool) (coded : Coded) : Decidable (Drives s forceIdr coded) :=
  decidable_of_iff
    ((forceIdr = true → coded.idr = true) ∧ (coded.idr = true → coded.references = []) ∧
      ∀ reference ∈ coded.references,
        (∃ picture ∈ sinceIdr s.pictures, picture.index = reference) ∧ reference ∉ s.invalidated)
    ⟨fun h => ⟨h.1, h.2.1, h.2.2⟩, fun h => ⟨h.forced, h.alone, h.refers⟩⟩

namespace Session

/-- Frame indices grow, and the last one has a successor in 64 bits. After a request that
failed the next frame is forced to be an IDR. -/
def Admits (s : Session) : Event → Prop
  | .encode frameIndex forceIdr coded =>
    s.encoder.lastEncodedFrameIndex < frameIndex ∧ frameIndex < 2 ^ 64 - 1 ∧
      (s.idrDue = true → forceIdr = true) ∧ ∀ picture ∈ coded, Drives s forceIdr picture
  | .invalidate firstFrame lastFrame _ _ => firstFrame < 2 ^ 64 ∧ lastFrame < 2 ^ 64

instance (s : Session) : ∀ event, Decidable (s.Admits event)
  | .encode _ _ _ => inferInstanceAs (Decidable (_ ∧ _ ∧ _ ∧ _))
  | .invalidate _ _ _ _ => inferInstanceAs (Decidable (_ ∧ _))

def encode (s : Session) (frameIndex : Nat) (coded : Coded) : Session :=
  { s with
    encoder := s.encoder.encoded frameIndex
    log := .encoded
      { index := frameIndex
        idr := coded.idr
        references := coded.references
        afterRefFrameInvalidation := s.encoder.rfiNeedsConfirmation } :: s.log
    idrDue := false }

def answer (s : Session) (firstFrame lastFrame : Nat) (entered : Bool) (accepts : Nat → Bool)
    (reply : Reply) : Session :=
  { encoder := reply.encoder
    log := .requested
      { firstFrame, lastFrame, entered
        alreadyDone := s.encoder.alreadyDone firstFrame lastFrame
        result := reply.result } :: s.log
    invalidated := reply.passed.filter accepts ++ s.invalidated
    idrDue := s.idrDue || !reply.result }

def step (params : Params) (s : Session) : Event → Session
  | .encode _ _ none => s
  | .encode frameIndex _ (some coded) => s.encode frameIndex coded
  | .invalidate firstFrame lastFrame entered accepts =>
    match invalidateRefFrames params accepts entered params.refFramesInDpb firstFrame lastFrame
        s.encoder with
    | none => s
    | some reply => s.answer firstFrame lastFrame entered accepts reply

end Session

def sessions (params : Params) : System Session Event where
  init := {}
  admits := Session.Admits
  step := Session.step params

instance (params : Params) (s : Session) (event : Event) :
    Decidable ((sessions params).admits s event) :=
  inferInstanceAs (Decidable (s.Admits event))

def awaiting (params : Params) : List Entry → Bool
  | [] => false
  | .encoded _ :: _ => false
  | .requested request :: older =>
    params.rfi && request.entered && !request.alreadyDone || awaiting params older

lemma awaiting_iff {params : Params} {log : List Entry} :
    awaiting params log = true ↔ params.rfi = true ∧ ∃ recent request older,
      log = recent ++ .requested request :: older ∧ recent.filterMap Entry.picture? = [] ∧
        request.entered = true ∧ request.alreadyDone = false := by
  induction log with
  | nil => simp [awaiting]
  | cons entry log ih =>
    cases entry with
    | encoded picture =>
      refine ⟨nofun, fun ⟨_, recent, request, older, hlog, hrecent, _⟩ => ?_⟩
      cases recent with
      | nil => cases hlog
      | cons first rest =>
        cases hlog
        cases filterMap_eq_nil_iff.mp hrecent _ mem_cons_self
    | requested request =>
      have hskip : ∀ recent, (Entry.requested request :: recent).filterMap Entry.picture? =
          recent.filterMap Entry.picture? := fun recent => filterMap_cons_none rfl
      rw [awaiting, Bool.or_eq_true, ih]
      constructor
      · rintro (hthis | ⟨hrfi, recent, later, older, hlog, hrecent, hlater⟩)
        · simp only [Bool.and_eq_true, Bool.not_eq_true'] at hthis
          exact ⟨hthis.1.1, [], request, log, rfl, rfl, hthis.1.2, hthis.2⟩
        · exact ⟨hrfi, .requested request :: recent, later, older, by rw [hlog]; rfl,
            (hskip recent).trans hrecent, hlater⟩
      · rintro ⟨hrfi, recent, later, older, hlog, hrecent, hentered, hdone⟩
        cases recent with
        | nil =>
          cases hlog
          exact .inl (by simp [hrfi, hentered, hdone])
        | cons first rest =>
          cases hlog
          exact .inr ⟨hrfi, rest, later, older, rfl, (hskip rest).symm.trans hrecent, hentered,
            hdone⟩

def Refers (pictures : List Picture) (frame reference : Nat) : Prop :=
  ∃ picture ∈ pictures, picture.index = frame ∧ reference ∈ picture.references

def Depends (pictures : List Picture) : Nat → Nat → Prop := Relation.TransGen (Refers pictures)

def Clean (pictures : List Picture) (bad : Nat → Prop) (frame : Nat) : Prop :=
  ¬ bad frame ∧ ∀ other, Depends pictures frame other → ¬ bad other

def Ordered (pictures : List Picture) : Prop :=
  ∀ picture ∈ pictures, ∀ reference ∈ picture.references,
    reference < picture.index ∧ reference ∈ pictures.map (·.index)

section

variable {pictures : List Picture} {picture : Picture} {bad : Nat → Prop} {frame other : Nat}

lemma Ordered.depends_lt (h : Ordered pictures) (hdepends : Depends pictures frame other) :
    other < frame := by
  induction hdepends with
  | single hrefers =>
    obtain ⟨picture, hmem, rfl, href⟩ := hrefers
    exact (h picture hmem _ href).1
  | tail _ hrefers ih =>
    obtain ⟨picture, hmem, rfl, href⟩ := hrefers
    exact lt_trans (h picture hmem _ href).1 ih

lemma Refers.of_cons (hnew : picture.index ∉ pictures.map (·.index))
    (hframe : frame ∈ pictures.map (·.index)) (h : Refers (picture :: pictures) frame other) :
    Refers pictures frame other := by
  obtain ⟨source, hmem, rfl, href⟩ := h
  obtain rfl | hmem := mem_cons.mp hmem
  · exact absurd hframe hnew
  · exact ⟨source, hmem, rfl, href⟩

lemma Depends.of_cons (hordered : Ordered pictures)
    (hnew : picture.index ∉ pictures.map (·.index)) (hframe : frame ∈ pictures.map (·.index))
    (h : Depends (picture :: pictures) frame other) : Depends pictures frame other := by
  induction h using Relation.TransGen.head_induction_on with
  | single hrefers => exact .single (hrefers.of_cons hnew hframe)
  | head hrefers _ ih =>
    have hold := hrefers.of_cons hnew hframe
    obtain ⟨source, hmem, -, href⟩ := id hold
    exact .head hold (ih (hordered source hmem _ href).2)

lemma Clean.cons (h : Clean pictures bad frame) (hordered : Ordered pictures)
    (hnew : picture.index ∉ pictures.map (·.index)) (hframe : frame ∈ pictures.map (·.index)) :
    Clean (picture :: pictures) bad frame :=
  ⟨h.1, fun other hdepends => h.2 other (hdepends.of_cons hordered hnew hframe)⟩

lemma Clean.new (hordered : Ordered pictures) (hnew : picture.index ∉ pictures.map (·.index))
    (hbad : ¬ bad picture.index)
    (hreferences : ∀ reference ∈ picture.references,
      reference ∈ pictures.map (·.index) ∧ Clean pictures bad reference) :
    Clean (picture :: pictures) bad picture.index := by
  have hsource : ∀ {reference}, Refers (picture :: pictures) picture.index reference →
      reference ∈ picture.references := by
    rintro reference ⟨source, hmem, hindex, href⟩
    obtain rfl | hmem := mem_cons.mp hmem
    · exact href
    · exact absurd (mem_map.mpr ⟨source, hmem, hindex⟩) hnew
  refine ⟨hbad, fun other hdepends => ?_⟩
  obtain ⟨reference, hrefers, hrest⟩ := Relation.TransGen.head'_iff.mp hdepends
  obtain ⟨hmem, hclean⟩ := hreferences reference (hsource hrefers)
  obtain rfl | hrest := Relation.reflTransGen_iff_eq_or_transGen.mp hrest
  · exact hclean.1
  · exact hclean.2 other (Depends.of_cons hordered hnew hmem hrest)

end

/-! ## What holds in every state -/

def Protected (s : Session) (bad : Nat → Prop) : Prop :=
  s.idrDue = true ∨ ∀ picture ∈ sinceIdr s.pictures, picture.index ∉ s.invalidated →
    Clean s.pictures bad picture.index

def Session.Lost (s : Session) (firstFrame lastFrame frame : Nat) : Prop :=
  firstFrame ≤ frame ∧ frame ≤ lastFrame ∧ frame ∈ s.pictures.map (·.index)

structure Sound (params : Params) (s : Session) : Prop where
  last : s.encoder.lastEncodedFrameIndex < 2 ^ 64 - 1
  encoded : ∀ frame ∈ s.pictures.map (·.index), 1 ≤ frame ∧ frame ≤ s.encoder.lastEncodedFrameIndex
  ordered : Ordered s.pictures
  range : s.encoder.lastRfiRange.2 ≤ s.encoder.lastEncodedFrameIndex
  covered : Protected s fun frame =>
    s.encoder.lastRfiRange.1 ≤ frame ∧ frame ≤ s.encoder.lastRfiRange.2
  confirmation : s.encoder.rfiNeedsConfirmation = awaiting params s.log
  flagged : ∀ newer picture older, s.log = newer ++ .encoded picture :: older →
    picture.afterRefFrameInvalidation = awaiting params older

section

variable {params : Params} {s : Session} {bad : Nat → Prop} {frameIndex : Nat} {forceIdr : Bool}
  {coded : Coded} {firstFrame lastFrame : Nat} {entered : Bool} {accepts : Nat → Bool}
  {reply : Reply}

lemma mem_sinceIdr {pictures : List Picture} {picture : Picture}
    (h : picture ∈ sinceIdr pictures) : picture ∈ pictures := by
  induction pictures with
  | nil => cases h
  | cons first older ih =>
    unfold sinceIdr at h
    split at h
    · rw [mem_singleton.mp h]
      exact mem_cons_self
    · obtain rfl | h := mem_cons.mp h
      · exact mem_cons_self
      · exact mem_cons_of_mem _ (ih h)

lemma sound_init (params : Params) : Sound params (sessions params).init where
  last := show 0 < 2 ^ 64 - 1 by decide
  encoded := nofun
  ordered := nofun
  range := le_rfl
  covered := .inr nofun
  confirmation := rfl
  flagged newer picture older h := by cases newer <;> cases h

lemma Protected.mono (h : Protected s bad) {fewer : Nat → Prop}
    (hfewer : ∀ frame, fewer frame → bad frame) : Protected s fewer := by
  obtain hdue | hclean := h
  · exact .inl hdue
  · refine .inr fun picture hmem hvalid => ?_
    obtain ⟨hself, hother⟩ := hclean picture hmem hvalid
    exact ⟨fun hbad => hself (hfewer _ hbad),
      fun other hdepends hbad => hother other hdepends (hfewer _ hbad)⟩

/-! ### Requests -/

lemma Protected.answer (h : Protected s bad) :
    Protected (s.answer firstFrame lastFrame entered accepts reply) bad := by
  obtain hdue | hclean := h
  · exact .inl (Bool.or_eq_true_iff.mpr (.inl hdue))
  · refine .inr fun picture hmem hvalid => hclean picture hmem fun hinvalid => hvalid ?_
    exact mem_append_right _ hinvalid

section

variable (h : Sound params s)

include h

lemma Sound.protected_of_invalidated
    (hall : reply.result = true → ∀ i, firstFrame ≤ i → i ≤ s.encoder.lastEncodedFrameIndex →
      i ∈ reply.passed ∧ accepts i = true) :
    Protected (s.answer firstFrame lastFrame entered accepts reply) fun frame =>
      firstFrame ≤ frame ∧ frame ≤ s.encoder.lastEncodedFrameIndex := by
  cases hresult : reply.result with
  | false => exact .inl (Bool.or_eq_true_iff.mpr (.inr (by rw [hresult]; rfl)))
  | true =>
    refine .inr fun picture hmem hvalid => ?_
    have hbefore : picture.index < firstFrame := by
      by_contra hnot
      have hindex : picture.index ∈ s.pictures.map (·.index) :=
        mem_map.mpr ⟨picture, mem_sinceIdr hmem, rfl⟩
      obtain ⟨hpassed, hacc⟩ :=
        hall hresult picture.index (Nat.le_of_not_lt hnot) (h.encoded _ hindex).2
      exact hvalid (mem_append_left _ (mem_filter.mpr ⟨hpassed, hacc⟩))
    refine ⟨fun hbad => not_lt.mpr hbad.1 hbefore, fun other hdepends hbad => ?_⟩
    have := h.ordered.depends_lt hdepends
    omega

lemma Sound.answered
    (hanswers : Answers params accepts entered firstFrame lastFrame s.encoder reply)
    (hresult : reply.result = true) :
    Protected (s.answer firstFrame lastFrame entered accepts reply)
      (s.Lost firstFrame lastFrame) := by
  obtain ⟨-, hdone⟩ | ⟨-, hall⟩ := hanswers.range
  · have hinside := hdone hresult
    simp only [EncoderState.alreadyDone, Bool.and_eq_true, decide_eq_true_eq] at hinside
    exact h.covered.answer.mono fun frame hframe =>
      ⟨le_trans hinside.1 hframe.1, le_trans hframe.2.1 hinside.2⟩
  · exact (h.protected_of_invalidated hall).mono fun frame hframe =>
      ⟨hframe.1, (h.encoded frame hframe.2.2).2⟩

lemma Sound.answer
    (hanswers : Answers params accepts entered firstFrame lastFrame s.encoder reply) :
    Sound params (s.answer firstFrame lastFrame entered accepts reply) where
  last := by
    show reply.encoder.lastEncodedFrameIndex < _
    rw [hanswers.encoded]
    exact h.last
  encoded := by
    show ∀ frame ∈ s.pictures.map (·.index), 1 ≤ frame ∧ frame ≤ reply.encoder.lastEncodedFrameIndex
    rw [hanswers.encoded]
    exact h.encoded
  ordered := h.ordered
  range := by
    show reply.encoder.lastRfiRange.2 ≤ reply.encoder.lastEncodedFrameIndex
    rw [hanswers.encoded]
    obtain ⟨hrange, -⟩ | ⟨hrange, -⟩ := hanswers.range
    · rw [hrange]
      exact h.range
    · exact le_of_eq (congrArg Prod.snd hrange)
  covered := by
    show Protected _ fun frame => reply.encoder.lastRfiRange.1 ≤ frame ∧
      frame ≤ reply.encoder.lastRfiRange.2
    obtain ⟨hrange, -⟩ | ⟨hrange, hall⟩ := hanswers.range
    · rw [hrange]
      exact h.covered.answer
    · rw [hrange]
      exact h.protected_of_invalidated hall
  confirmation := by
    show reply.encoder.rfiNeedsConfirmation = awaiting params (.requested _ :: s.log)
    rw [hanswers.confirmation, h.confirmation, awaiting, Bool.or_comm]
  flagged newer picture older hlog := by
    cases newer with
    | nil => cases hlog
    | cons first rest =>
      exact h.flagged rest picture older (List.cons.inj hlog).2

end

/-! ### Frames -/

lemma pictures_encode : (s.encode frameIndex coded).pictures =
    { index := frameIndex
      idr := coded.idr
      references := coded.references
      afterRefFrameInvalidation := s.encoder.rfiNeedsConfirmation } :: s.pictures := rfl

lemma Sound.fresh (h : Sound params s) (hlater : s.encoder.lastEncodedFrameIndex < frameIndex) :
    frameIndex ∉ s.pictures.map (·.index) := by
  intro hmem
  exact not_lt.mpr (h.encoded frameIndex hmem).2 hlater

lemma Drives.mem_pictures (h : Drives s forceIdr coded) {reference : Nat}
    (hmem : reference ∈ coded.references) : reference ∈ s.pictures.map (·.index) := by
  obtain ⟨⟨picture, hpicture, rfl⟩, -⟩ := h.refers reference hmem
  exact mem_map.mpr ⟨picture, mem_sinceIdr hpicture, rfl⟩

lemma Protected.clean_encode (h : Protected s bad) (hsound : Sound params s)
    (hlater : s.encoder.lastEncodedFrameIndex < frameIndex)
    (hbad : ∀ frame, bad frame → frame ≤ s.encoder.lastEncodedFrameIndex)
    (hdue : s.idrDue = true → forceIdr = true) (hdrives : Drives s forceIdr coded) :
    Clean (s.encode frameIndex coded).pictures bad frameIndex := by
  rw [pictures_encode]
  refine Clean.new hsound.ordered (hsound.fresh hlater)
    (fun hnew => not_lt.mpr (hbad _ hnew) hlater) fun reference hmem =>
      ⟨hdrives.mem_pictures hmem, ?_⟩
  obtain hidr | hclean := h
  · have halone := hdrives.alone (hdrives.forced (hdue hidr))
    rw [halone] at hmem
    cases hmem
  · obtain ⟨⟨picture, hpicture, rfl⟩, hvalid⟩ := hdrives.refers reference hmem
    exact hclean picture hpicture hvalid

lemma Protected.encode (h : Protected s bad) (hsound : Sound params s)
    (hlater : s.encoder.lastEncodedFrameIndex < frameIndex)
    (hbad : ∀ frame, bad frame → frame ≤ s.encoder.lastEncodedFrameIndex)
    (hdue : s.idrDue = true → forceIdr = true) (hdrives : Drives s forceIdr coded) :
    Protected (s.encode frameIndex coded) bad := by
  have hnew := h.clean_encode hsound hlater hbad hdue hdrives
  refine .inr fun picture hmem hvalid => ?_
  rw [pictures_encode, sinceIdr] at hmem
  split at hmem
  · rw [mem_singleton.mp hmem]
    exact hnew
  · next hidr =>
    obtain rfl | hmem := mem_cons.mp hmem
    · exact hnew
    · obtain hdued | hclean := h
      · exact absurd (hdrives.forced (hdue hdued)) hidr
      · exact (hclean picture hmem hvalid).cons hsound.ordered (hsound.fresh hlater)
          (mem_map.mpr ⟨picture, mem_sinceIdr hmem, rfl⟩)

lemma Sound.encode (h : Sound params s) (hlater : s.encoder.lastEncodedFrameIndex < frameIndex)
    (hlast : frameIndex < 2 ^ 64 - 1) (hdue : s.idrDue = true → forceIdr = true)
    (hdrives : Drives s forceIdr coded) : Sound params (s.encode frameIndex coded) where
  last := hlast
  encoded frame hmem := by
    show 1 ≤ frame ∧ frame ≤ frameIndex
    obtain rfl | hmem := mem_cons.mp hmem
    · exact ⟨Nat.one_le_of_lt hlater, le_rfl⟩
    · have := h.encoded frame hmem
      omega
  ordered picture hmem reference href := by
    rw [pictures_encode, map_cons]
    obtain rfl | hmem := mem_cons.mp hmem
    · have hold := hdrives.mem_pictures href
      exact ⟨lt_of_le_of_lt (h.encoded reference hold).2 hlater, mem_cons_of_mem _ hold⟩
    · obtain ⟨hlt, hold⟩ := h.ordered picture hmem reference href
      exact ⟨hlt, mem_cons_of_mem _ hold⟩
  range := le_trans h.range (le_of_lt hlater)
  covered := h.covered.encode h hlater (fun frame hframe => le_trans hframe.2 h.range) hdue hdrives
  confirmation := rfl
  flagged newer picture older hlog := by
    cases newer with
    | nil =>
      cases hlog
      exact h.confirmation
    | cons first rest =>
      exact h.flagged rest picture older (List.cons.inj hlog).2

/-! ### Steps -/

lemma step_invalidate
    (hanswers : Answers params accepts entered firstFrame lastFrame s.encoder reply) :
    s.step params (.invalidate firstFrame lastFrame entered accepts) =
      s.answer firstFrame lastFrame entered accepts reply := by
  rw [Session.step, hanswers.ends _ le_rfl]

lemma Sound.step (h : Sound params s) (event : Event) (hadmits : s.Admits event) :
    Sound params (s.step params event) := by
  cases event with
  | encode frameIndex forceIdr coded =>
    obtain ⟨hlater, hlast, hdue, hdrives⟩ := hadmits
    cases coded with
    | none => exact h
    | some coded => exact h.encode hlater hlast hdue (hdrives coded rfl)
  | invalidate firstFrame lastFrame entered accepts =>
    obtain ⟨reply, hanswers⟩ :=
      exists_answers params accepts entered lastFrame hadmits.1 h.last
    rw [step_invalidate hanswers]
    exact h.answer hanswers

lemma sound_of_reachable (h : (sessions params).Reachable s) : Sound params s :=
  h.invariant (sound_init params) fun _ event hsound hadmits => hsound.step event hadmits

/-! ### Runs after a request -/

/-- The pictures since the given state are clean, and later ones will be. -/
structure Shielded (params : Params) (bad : Nat → Prop) (pictures : List Picture) (s : Session) :
    Prop where
  sound : Sound params s
  bounded : ∀ frame, bad frame → frame ≤ s.encoder.lastEncodedFrameIndex
  covered : Protected s bad
  clean : ∃ newer, s.pictures = newer ++ pictures ∧
    ∀ picture ∈ newer, Clean s.pictures bad picture.index

lemma Shielded.step {pictures : List Picture} (h : Shielded params bad pictures s)
    (event : Event) (hadmits : s.Admits event) :
    Shielded params bad pictures (s.step params event) := by
  have hsound := h.sound.step event hadmits
  cases event with
  | encode frameIndex forceIdr coded =>
    obtain ⟨hlater, hlast, hdue, hdrives⟩ := hadmits
    cases coded with
    | none => exact h
    | some coded =>
      have hdriven := hdrives coded rfl
      refine ⟨hsound, fun frame hbad => le_trans (h.bounded frame hbad) (le_of_lt hlater),
        h.covered.encode h.sound hlater h.bounded hdue hdriven, ?_⟩
      obtain ⟨newer, hpictures, hclean⟩ := h.clean
      refine ⟨_ :: newer, congrArg (_ :: ·) hpictures, fun picture hmem => ?_⟩
      obtain rfl | hmem := mem_cons.mp hmem
      · exact h.covered.clean_encode h.sound hlater h.bounded hdue hdriven
      · apply (hclean picture hmem).cons h.sound.ordered (h.sound.fresh hlater)
        rw [hpictures]
        exact mem_map.mpr ⟨picture, mem_append_left _ hmem, rfl⟩
  | invalidate firstFrame lastFrame entered accepts =>
    obtain ⟨reply, hanswers⟩ :=
      exists_answers params accepts entered lastFrame hadmits.1 h.sound.last
    have hstep := step_invalidate hanswers
    rw [hstep] at hsound
    show Shielded params bad pictures (s.step params _)
    rw [hstep]
    refine ⟨hsound, fun frame hbad => ?_, h.covered.answer, h.clean⟩
    show frame ≤ reply.encoder.lastEncodedFrameIndex
    rw [hanswers.encoded]
    exact h.bounded frame hbad

end

/-- In every run whose frame indices have successors in 64 bits: the loop of a request ends,
runs less often than there are references and only over frames from its first to the last
encoded one. After a request that succeeds, no new frame depends on a frame of the request.
The frames flagged as following an invalidation are the first ones after a request that was
not already done, of an encoder with invalidation whose context was entered. -/
theorem invalidation_law (params : Params) :
    (∀ s, (sessions params).Reachable s → ∀ firstFrame lastFrame entered accepts,
      firstFrame < 2 ^ 64 → lastFrame < 2 ^ 64 → ∃ reply, (∀ fuel, params.refFramesInDpb ≤ fuel →
          invalidateRefFrames params accepts entered fuel firstFrame lastFrame s.encoder =
            some reply) ∧
        (reply.passed = [] ∨ reply.passed.length < params.refFramesInDpb) ∧
        (∀ i ∈ reply.passed, firstFrame ≤ i ∧ i ≤ s.encoder.lastEncodedFrameIndex) ∧
        (reply.result = true → ∀ later, (sessions params).Segment (fun _ _ => True)
          ((sessions params).step s (.invalidate firstFrame lastFrame entered accepts)) later →
          ∃ newer, later.pictures = newer ++ s.pictures ∧ ∀ picture ∈ newer, ∀ lost ∈ s.pictures,
            firstFrame ≤ lost.index → lost.index ≤ lastFrame →
              ¬ Depends later.pictures picture.index lost.index)) ∧
    ∀ s, (sessions params).Reachable s → ∀ newer picture older,
      s.log = newer ++ .encoded picture :: older →
      (picture.afterRefFrameInvalidation = true ↔ params.rfi = true ∧ ∃ recent request before,
          older = recent ++ .requested request :: before ∧ recent.filterMap Entry.picture? = [] ∧
            request.entered = true ∧ request.alreadyDone = false) := by
  refine ⟨fun s hreachable firstFrame lastFrame entered accepts hfirst hlast => ?_,
    fun s hreachable newer picture older hlog => ?_⟩
  · have hsound := sound_of_reachable hreachable
    obtain ⟨reply, hanswers⟩ := exists_answers params accepts entered lastFrame hfirst hsound.last
    refine ⟨reply, hanswers.ends, hanswers.few, hanswers.inside, fun hresult later hrun => ?_⟩
    have hstep : (sessions params).step s (.invalidate firstFrame lastFrame entered accepts) =
        s.answer firstFrame lastFrame entered accepts reply := step_invalidate hanswers
    have hshielded : Shielded params (s.Lost firstFrame lastFrame) s.pictures
        (s.answer firstFrame lastFrame entered accepts reply) := by
      refine ⟨hsound.answer hanswers, fun frame hbad => ?_, hsound.answered hanswers hresult,
        [], rfl, nofun⟩
      show frame ≤ reply.encoder.lastEncodedFrameIndex
      rw [hanswers.encoded]
      exact (hsound.encoded frame hbad.2.2).2
    have hend : Shielded params (s.Lost firstFrame lastFrame) s.pictures later := by
      induction hrun with
      | refl =>
        rw [hstep]
        exact hshielded
      | snoc _ hadmits _ ih => exact ih.step _ hadmits
    obtain ⟨fresh, hpictures, hclean⟩ := hend.clean
    refine ⟨fresh, hpictures, fun picture hmem lost hlost hfrom hto hdepends => ?_⟩
    exact (hclean picture hmem).2 _ hdepends ⟨hfrom, hto, mem_map.mpr ⟨lost, hlost, rfl⟩⟩
  · rw [(sound_of_reachable hreachable).flagged newer picture older hlog]
    exact awaiting_iff

def fiveFrames : Params := { rfi := true, refFramesInDpb := 5 }

def lossOfTwo : List Event :=
  [.encode 1 true (some ⟨true, []⟩), .encode 2 false (some ⟨false, [1]⟩),
    .encode 3 false (some ⟨false, [2]⟩), .invalidate 2 3 true fun _ => true,
    .encode 4 false (some ⟨false, [1]⟩)]

def beforeLoss : Session := (sessions fiveFrames).run {} (lossOfTwo.take 3)

def afterLoss : Session := (sessions fiveFrames).run beforeLoss (lossOfTwo.drop 3)

theorem invalidation_law_two :
    afterLoss.pictures.map (·.index) = [4, 3, 2, 1] ∧ ¬ Depends afterLoss.pictures 4 2 := by
  have hbefore : (sessions fiveFrames).Reachable beforeLoss :=
    System.Segment.of_follows .refl (by decide)
  have hafter : (sessions fiveFrames).Segment (fun _ _ => True)
      ((sessions fiveFrames).step beforeLoss (.invalidate 2 3 true fun _ => true)) afterLoss :=
    .snoc .refl (show (sessions fiveFrames).admits _ (.encode 4 false (some ⟨false, [1]⟩)) by decide)
      trivial
  obtain ⟨reply, hends, -, -, hclean⟩ := (invalidation_law fiveFrames).1 beforeLoss hbefore 2 3 true
    (fun _ => true) (by decide) (by decide)
  have hresult : reply.result = true := by
    have hdone : (invalidateRefFrames fiveFrames (fun _ => true) true 5 2 3
        beforeLoss.encoder).map (·.result) = some true := by decide
    rw [hends 5 (Nat.le_refl 5)] at hdone
    exact Option.some.inj hdone
  obtain ⟨newer, hpictures, hfree⟩ := hclean hresult afterLoss hafter
  have hnewer : newer = [⟨4, false, [1], true⟩] :=
    (append_left_inj beforeLoss.pictures).mp (hpictures.symm.trans (by decide))
  refine ⟨by decide, hfree ⟨4, false, [1], true⟩ ?_ ⟨2, false, [1], false⟩ (by decide) (by decide)
    (by decide)⟩
  rw [hnewer]
  exact mem_singleton.mpr rfl

/-- Without support for invalidation no frame is flagged, and at the last frame index of 64
bits the loop does not end. -/
theorem invalidation_limits :
    (∃ s picture request older, (sessions { rfi := false, refFramesInDpb := 5 }).Reachable s ∧
      s.log = .encoded picture :: .requested request :: older ∧ request.entered = true ∧
        request.alreadyDone = false ∧ picture.afterRefFrameInvalidation = false) ∧
    ∀ fuel, invalidateRefFrames fiveFrames (fun _ => true) true fuel (2 ^ 64 - 1) (2 ^ 64 - 1)
      (({} : EncoderState).encoded (2 ^ 64 - 1)) = none := by
  refine ⟨?_, fun fuel => ?_⟩
  · have hfollows : (sessions { rfi := false, refFramesInDpb := 5 }).Follows (fun _ _ => True) {}
        [.encode 1 true (some ⟨true, []⟩), .invalidate 1 1 true fun _ => true,
          .encode 2 true (some ⟨true, []⟩)] := by decide
    exact ⟨_, ⟨2, true, [], false⟩, ⟨1, 1, true, false, false⟩, [.encoded ⟨1, true, [], false⟩],
      System.Segment.of_follows .refl hfollows, by decide, rfl, rfl, rfl⟩
  · have hloop := invalidateLoop_endless fuel (2 ^ 64 - 1) (by decide)
    have hunfold : invalidateRefFrames fiveFrames (fun _ => true) true fuel (2 ^ 64 - 1)
        (2 ^ 64 - 1) (({} : EncoderState).encoded (2 ^ 64 - 1)) =
        (invalidateLoop (fun _ => true) (2 ^ 64 - 1) fuel (2 ^ 64 - 1)).map fun outcome =>
          ⟨⟨2 ^ 64 - 1, true, (2 ^ 64 - 1, 2 ^ 64 - 1)⟩, outcome.1, outcome.2⟩ := by
      rfl
    rw [hunfold, hloop]
    rfl

end Vibeshine.Nvenc
