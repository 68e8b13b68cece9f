import Vibeshine.Input.Controllers

/-! # Who has which controller id

Each id of the host belongs to one slot, or to one pending free of a destroyed slot, or
to nobody; the calls of the platform follow these changes of hands.
-/

namespace Vibeshine.Input.Controllers

open Library Function

def isAllocated (id : Int) : List Call → Bool
  | [] => false
  | .alloc other failed :: earlier =>
    if other = id ∧ failed = false then true else isAllocated id earlier
  | .free other :: earlier => if other = id then false else isAllocated id earlier
  | .update _ _ :: earlier | .attributes _ _ :: earlier => isAllocated id earlier

/-- What a call requires of the calls before it: a free id to allocate, an allocated one
to free or to send to; and attributes go to a slot whose arrival announced them. -/
def Permitted (steam : SteamCodes) (earlier : List Call) : Call → Prop
  | .alloc id _ => 0 ≤ id ∧ isAllocated id earlier = false
  | .free id => 0 ≤ id ∧ isAllocated id earlier = true
  | .update id _ => 0 ≤ id ∧ isAllocated id earlier = true
  | .attributes attributes announced =>
    0 ≤ attributes.globalIndex ∧ isAllocated attributes.globalIndex earlier = true ∧
      ∃ capabilities, announced = some (steam.ctype, capabilities) ∧
        capabilities.testBit steam.attributesBit = true

def Orderly (steam : SteamCodes) : List Call → Prop
  | [] => True
  | call :: earlier => Permitted steam earlier call ∧ Orderly steam earlier

/-! ## The ids -/

variable {σ : Type} {steam : SteamCodes} {ids : σ → Int} {mask : Int → Bool} {queued : List Int}
  {calls : List Call}

/-- The bits of the mask are the ids of the slots and those of the pending frees, each of
which has one holder, and the platform has allocated just these. -/
structure Accounts (steam : SteamCodes) (ids : σ → Int) (mask : Int → Bool) (queued : List Int)
    (calls : List Call) : Prop where
  held : ∀ slot, 0 ≤ ids slot → mask (ids slot) = true
  distinct : ∀ slot other, 0 ≤ ids slot → ids slot = ids other → slot = other
  pending : ∀ id ∈ queued, 0 ≤ id ∧ mask id = true
  apart : ∀ slot, 0 ≤ ids slot → ids slot ∉ queued
  once : queued.Nodup
  covered : ∀ id, mask id = true → (0 ≤ id ∧ ∃ slot, ids slot = id) ∨ id ∈ queued
  allocated : ∀ id, isAllocated id calls = mask id
  orderly : Orderly steam calls

namespace Accounts

lemma initial (steam : SteamCodes) : Accounts steam (fun _ : σ => -1) (fun _ => false) [] [] := by
  constructor <;> simp [isAllocated, Orderly]

section

variable (h : Accounts steam ids mask queued calls)

include h

lemma refuse {id : Int} (hid : 0 ≤ id)
    (hfree : mask id = false) : Accounts steam ids mask queued (.alloc id true :: calls) :=
  { h with
    allocated := fun other => by simpa [isAllocated] using h.allocated other
    orderly := ⟨⟨hid, (h.allocated id).trans hfree⟩, h.orderly⟩ }

lemma send {slot : σ} (hslot : 0 ≤ ids slot)
    (state : GamepadState) : Accounts steam ids mask queued (.update (ids slot) state :: calls) :=
  { h with
    allocated := h.allocated
    orderly := ⟨⟨hslot, (h.allocated _).trans (h.held slot hslot)⟩, h.orderly⟩ }

lemma forward (slot : σ) (hslot : 0 ≤ ids slot)
    {attributes : SteamAttributes} (hindex : attributes.globalIndex = ids slot)
    {announced : Option (Nat × Nat)}
    (hannounced : ∃ capabilities, announced = some (steam.ctype, capabilities) ∧
      capabilities.testBit steam.attributesBit = true) :
    Accounts steam ids mask queued (.attributes attributes announced :: calls) :=
  { h with
    allocated := h.allocated
    orderly := by
      refine ⟨⟨?_, ?_, hannounced⟩, h.orderly⟩
      · rwa [hindex]
      · rw [hindex]
        exact (h.allocated _).trans (h.held slot hslot) }

end

variable [DecidableEq σ]

section

variable (h : Accounts steam ids mask queued calls)

include h

lemma claim {slot : σ} (hslot : ids slot < 0) {id : Int} (hid : 0 ≤ id) (hfree : mask id = false) :
    Accounts steam (Function.update ids slot id) (Function.update mask id true) queued
      (.alloc id false :: calls) := by
  have hunheld : ∀ other, ids other ≠ id := fun other heq => by
    have := h.held other (heq ▸ hid)
    simp [heq, hfree] at this
  have hunqueued : id ∉ queued := fun hmem => by simp [(h.pending id hmem).2] at hfree
  refine ⟨?_, ?_, ?_, ?_, h.once, ?_, ?_, ⟨⟨hid, (h.allocated id).trans hfree⟩, h.orderly⟩⟩
  · intro other hother
    by_cases hsame : other = slot
    · simp [hsame]
    · rw [update_of_ne hsame] at hother ⊢
      rw [update_of_ne (hunheld other)]
      exact h.held other hother
  · intro first second hfirst heq
    by_cases hsame : first = slot <;> by_cases hsame' : second = slot
    · rw [hsame, hsame']
    · subst hsame
      rw [update_self, update_of_ne hsame'] at heq
      exact absurd heq.symm (hunheld second)
    · subst hsame'
      rw [update_self, update_of_ne hsame] at heq
      exact absurd heq (hunheld first)
    · rw [update_of_ne hsame] at hfirst heq
      rw [update_of_ne hsame'] at heq
      exact h.distinct first second hfirst heq
  · intro other hother
    obtain ⟨hpos, hmask⟩ := h.pending other hother
    refine ⟨hpos, ?_⟩
    by_cases hsame : other = id <;> simp [hsame, hmask]
  · intro other hother
    by_cases hsame : other = slot
    · simpa [hsame] using hunqueued
    · rw [update_of_ne hsame] at hother ⊢
      exact h.apart other hother
  · intro other hother
    by_cases hsame : other = id
    · exact .inl ⟨hsame ▸ hid, slot, by simp [hsame]⟩
    · rw [update_of_ne hsame] at hother
      refine (h.covered other hother).imp_left fun ⟨hpos, holder, hholder⟩ => ⟨hpos, holder, ?_⟩
      have hne : holder ≠ slot := fun heq => by
        rw [heq] at hholder
        omega
      rwa [update_of_ne hne]
  · intro other
    by_cases hsame : id = other
    · simp [isAllocated, hsame]
    · simp [isAllocated, hsame, Ne.symm hsame, h.allocated]

omit [DecidableEq σ] in
lemma release {id : Int} (hid : 0 ≤ id)
    (hmask : mask id = true) {ids' : σ → Int} {queued' : List Int}
    (hslots : ∀ slot, 0 ≤ ids' slot → ids' slot = ids slot)
    (hgone : ∀ slot, 0 ≤ ids' slot → ids' slot ≠ id)
    (hqueued : queued'.Sublist queued) (hgone' : id ∉ queued')
    (hkept : ∀ slot, 0 ≤ ids slot → ids slot ≠ id → ids' slot = ids slot)
    (hkept' : ∀ other ∈ queued, other ≠ id → other ∈ queued') :
    Accounts steam ids' (Function.update mask id false) queued'
      (.free id :: .update id {} :: calls) := by
  have hallocated : isAllocated id calls = true := (h.allocated id).trans hmask
  refine ⟨?_, ?_, ?_, ?_, h.once.sublist hqueued, ?_, ?_,
    ⟨⟨hid, hallocated⟩, ⟨hid, hallocated⟩, h.orderly⟩⟩
  · intro slot hslot
    rw [update_of_ne (hgone slot hslot), hslots slot hslot]
    exact h.held slot (hslots slot hslot ▸ hslot)
  · intro slot other hslot heq
    have hother : 0 ≤ ids' other := heq ▸ hslot
    refine h.distinct slot other (hslots slot hslot ▸ hslot) ?_
    rw [← hslots slot hslot, ← hslots other hother, heq]
  · intro other hother
    obtain ⟨hpos, hbit⟩ := h.pending other (hqueued.subset hother)
    have hne : other ≠ id := fun heq => hgone' (heq ▸ hother)
    exact ⟨hpos, by rwa [update_of_ne hne]⟩
  · intro slot hslot hmem
    refine h.apart slot (hslots slot hslot ▸ hslot) ?_
    rw [← hslots slot hslot]
    exact hqueued.subset hmem
  · intro other hother
    by_cases hsame : other = id
    · simp [hsame] at hother
    · rw [update_of_ne hsame] at hother
      rcases h.covered other hother with ⟨hpos, slot, hslot⟩ | hmem
      · refine .inl ⟨hpos, slot, ?_⟩
        rw [hkept slot (hslot ▸ hpos) (hslot ▸ hsame), hslot]
      · exact .inr (hkept' other hmem hsame)
  · intro other
    by_cases hsame : id = other
    · simp [isAllocated, hsame]
    · simp [isAllocated, hsame, Ne.symm hsame, h.allocated]

lemma retire {slot : σ} (hslot : 0 ≤ ids slot) :
    Accounts steam (Function.update ids slot (-1)) (Function.update mask (ids slot) false) queued
      (.free (ids slot) :: .update (ids slot) {} :: calls) := by
  have hother : ∀ other, 0 ≤ Function.update ids slot (-1) other → other ≠ slot :=
    fun other hother heq => by simp [heq] at hother
  refine h.release hslot (h.held slot hslot) ?_ ?_ (.refl _) (h.apart slot hslot) ?_
    fun _ hmem _ => hmem
  · intro other hpos
    rw [update_of_ne (hother other hpos)]
  · intro other hpos heq
    have hne := hother other hpos
    rw [update_of_ne hne] at heq
    exact hne (h.distinct slot other hslot heq.symm).symm
  · intro other _ hne
    rw [update_of_ne fun heq => hne (congrArg ids heq)]

lemma abandon {slot : σ} (hslot : 0 ≤ ids slot) :
    Accounts steam (Function.update ids slot (-1)) mask (queued ++ [ids slot]) calls := by
  have hother : ∀ other, 0 ≤ Function.update ids slot (-1) other →
      other ≠ slot ∧ Function.update ids slot (-1) other = ids other := by
    intro other hpos
    have hne : other ≠ slot := fun heq => by simp [heq] at hpos
    exact ⟨hne, update_of_ne hne _ _⟩
  refine ⟨?_, ?_, ?_, ?_, ?_, ?_, h.allocated, h.orderly⟩
  · intro other hpos
    obtain ⟨-, heq⟩ := hother other hpos
    rw [heq] at hpos ⊢
    exact h.held other hpos
  · intro first second hpos heq
    obtain ⟨-, hfirst⟩ := hother first hpos
    obtain ⟨-, hsecond⟩ := hother second (heq ▸ hpos)
    rw [hfirst, hsecond] at heq
    exact h.distinct first second (hfirst ▸ hpos) heq
  · intro id hid
    rcases List.mem_append.mp hid with hid | hid
    · exact h.pending id hid
    · obtain rfl : id = ids slot := by simpa using hid
      exact ⟨hslot, h.held slot hslot⟩
  · intro other hpos hmem
    obtain ⟨hne, heq⟩ := hother other hpos
    rw [heq] at hmem
    have hpos : 0 ≤ ids other := heq ▸ hpos
    rcases List.mem_append.mp hmem with hmem | hmem
    · exact h.apart other hpos hmem
    · exact hne (h.distinct other slot hpos (by simpa using hmem))
  · rw [List.nodup_append]
    refine ⟨h.once, by simp, fun first hfirst second hsecond heq => ?_⟩
    obtain rfl : second = ids slot := by simpa using hsecond
    exact h.apart slot hslot (heq ▸ hfirst)
  · intro id hid
    rcases h.covered id hid with ⟨hpos, other, rfl⟩ | hmem
    · by_cases hsame : other = slot
      · exact .inr (by simp [hsame])
      · exact .inl ⟨hpos, other, update_of_ne hsame _ _⟩
    · exact .inr (List.mem_append_left _ hmem)

omit [DecidableEq σ] in
lemma drain {id : Int} (hid : id ∈ queued) :
    Accounts steam ids (Function.update mask id false) (queued.erase id)
      (.free id :: .update id {} :: calls) := by
  obtain ⟨hpos, hmask⟩ := h.pending id hid
  refine h.release hpos hmask (fun _ _ => rfl) ?_ List.erase_sublist ?_ (fun _ _ _ => rfl) ?_
  · intro slot hslot heq
    exact h.apart slot hslot (heq ▸ hid)
  · exact fun hmem => (h.once.mem_erase_iff.mp hmem).1 rfl
  · exact fun other hmem hne => h.once.mem_erase_iff.mpr ⟨hne, hmem⟩

end

end Accounts

end Vibeshine.Input.Controllers
