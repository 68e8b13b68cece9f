import Vibeshine.Pairing.Spans

/-! # The scanner and the grammar

On a text of the grammar the scanner stops exactly where a value ends. A scan inside of
containers passes over every value in it, which carries the induction over the grammar; the
loops are followed by what is left of the text at their offsets.
-/

namespace Vibeshine.Pairing

open Library Library.JsonText List
open Library.Json (isBlank Delimited)
open StateFile (byteOrderMark)

lemma isBlank_not_special {c : Char} (h : isBlank c) :
    c ≠ '"' ∧ c ≠ '[' ∧ c ≠ '{' ∧ c ≠ ']' ∧ c ≠ '}' ∧ c ≠ ',' ∧ c ≠ ':' := by
  simp only [isBlank, Bool.or_eq_true, decide_eq_true_eq] at h
  obtain ((rfl | rfl) | rfl) | rfl := h <;> decide

lemma isToken_not_special {c : Char} (h : isToken c) :
    c ≠ '"' ∧ c ≠ '[' ∧ c ≠ '{' ∧ c ≠ ']' ∧ c ≠ '}' ∧ c ≠ ',' ∧ isBlank c = false := by
  refine ⟨?_, ?_, ?_, ?_, ?_, ?_, ?_⟩
  all_goals first | (rintro rfl; revert h; decide) | skip
  by_contra hblank
  rw [Bool.not_eq_false] at hblank
  simp only [isBlank, Bool.or_eq_true, decide_eq_true_eq] at hblank
  obtain ((rfl | rfl) | rfl) | rfl := hblank <;> revert h <;> decide

/-! ## One step of the scan -/

section

variable {nesting : Nat} {text : List Char} {c : Char}

lemma valueLength_unquoted : valueLength false nesting (c :: text) =
    if c = '"' then 1 + valueLength true nesting text
    else if c = '[' ∨ c = '{' then 1 + valueLength false (nesting + 1) text
    else if c = ']' ∨ c = '}' then
      if nesting = 0 then 0 else if nesting - 1 = 0 then 1
      else 1 + valueLength false (nesting - 1) text
    else if nesting = 0 ∧ (c = ',' ∨ isBlank c) then 0 else 1 + valueLength false nesting text := by
  simp only [valueLength]

lemma valueLength_quote : valueLength false nesting ('"' :: text) = 1 + valueLength true nesting text := by
  rw [valueLength_unquoted, if_pos rfl]

lemma valueLength_open (hc : c = '[' ∨ c = '{') :
    valueLength false nesting (c :: text) = 1 + valueLength false (nesting + 1) text := by
  obtain rfl | rfl := hc <;> simp [valueLength_unquoted]

lemma valueLength_close (hc : c = ']' ∨ c = '}') :
    valueLength false (nesting + 2) (c :: text) = 1 + valueLength false (nesting + 1) text := by
  obtain rfl | rfl := hc <;> simp [valueLength_unquoted]

lemma valueLength_last (hc : c = ']' ∨ c = '}') : valueLength false 1 (c :: text) = 1 := by
  obtain rfl | rfl := hc <;> simp [valueLength_unquoted]

lemma valueLength_plain (hc : c ≠ '"' ∧ c ≠ '[' ∧ c ≠ '{' ∧ c ≠ ']' ∧ c ≠ '}') :
    valueLength false (nesting + 1) (c :: text) = 1 + valueLength false (nesting + 1) text := by
  obtain ⟨hquote, harray, hobject, hcloseArray, hcloseObject⟩ := hc
  simp [valueLength_unquoted, hquote, harray, hobject, hcloseArray, hcloseObject]

lemma valueLength_token (hc : isToken c) :
    valueLength false nesting (c :: text) = 1 + valueLength false nesting text := by
  obtain ⟨hquote, harray, hobject, hcloseArray, hcloseObject, hcomma, hblank⟩ := isToken_not_special hc
  simp [valueLength_unquoted, hquote, harray, hobject, hcloseArray, hcloseObject, hcomma, hblank]

lemma valueLength_delimited (htext : Delimited text) : valueLength false 0 text = 0 := by
  cases text with
  | nil => rfl
  | cons c text =>
    have hc := htext c rfl
    have hspecial : c ≠ '"' ∧ c ≠ '[' ∧ c ≠ '{' := by
      obtain hblank | rfl | rfl | rfl := hc
      · obtain ⟨hquote, harray, hobject, _⟩ := isBlank_not_special hblank
        exact ⟨hquote, harray, hobject⟩
      all_goals decide
    obtain ⟨hquote, harray, hobject⟩ := hspecial
    obtain hblank | rfl | rfl | rfl := hc
    · obtain ⟨_, _, _, hcloseArray, hcloseObject, _, _⟩ := isBlank_not_special hblank
      simp [valueLength_unquoted, hquote, harray, hobject, hcloseArray, hcloseObject, hblank]
    all_goals simp [valueLength_unquoted]

lemma quote_append (body rest : List Char) : quote body ++ rest = '"' :: (body ++ '"' :: rest) := by
  simp [quote]

lemma valueLength_body {body : List Char} (hbody : closed body) (nesting : Nat) (text : List Char) :
    valueLength true nesting (body ++ '"' :: text) =
      body.length + (if nesting = 0 then 1 else 1 + valueLength false nesting text) := by
  induction body using closed.induct with
  | case1 => simp [valueLength]
  | case2 => simp [closed] at hbody
  | case3 c body ih =>
    rw [closed] at hbody
    rw [cons_append, cons_append, valueLength, ih hbody]
    simp only [length_cons]
    omega
  | case4 c body hlone hescape ih =>
    have hne : c ≠ '\\' := by
      rintro rfl
      cases body with
      | nil => exact hlone rfl rfl
      | cons next body => exact hescape next body rfl rfl
    rw [closed] at hbody
    · simp only [Bool.and_eq_true, decide_eq_true_eq] at hbody
      rw [cons_append, valueLength, if_neg hbody.1, ih hbody.2]
      · simp only [length_cons]
        omega
      · exact fun h => absurd h hne
      · exact fun _ _ h => absurd h hne
    · exact hlone
    · exact hescape

lemma passes_token {token : List Char} (htoken : ∀ c ∈ token, isToken c) (nesting : Nat)
    (text : List Char) :
    valueLength false nesting (token ++ text) = token.length + valueLength false nesting text := by
  induction token with
  | nil => simp
  | cons c token ih =>
    rw [cons_append, valueLength_token (htoken c mem_cons_self),
      ih fun c hc => htoken c (mem_cons_of_mem _ hc), length_cons]
    omega

end

/-! ## Values -/

def Passes (text : List Char) : Prop :=
  ∀ nesting rest, valueLength false (nesting + 1) (text ++ rest) =
    text.length + valueLength false (nesting + 1) rest

namespace Passes

variable {text text' blank : List Char} {c : Char}

lemma nil : Passes [] := fun _ _ => by simp

lemma append (h : Passes text) (h' : Passes text') : Passes (text ++ text') := by
  intro nesting rest
  rw [append_assoc, h, h', length_append, add_assoc]

lemma cons (hc : c ≠ '"' ∧ c ≠ '[' ∧ c ≠ '{' ∧ c ≠ ']' ∧ c ≠ '}') (h : Passes text) :
    Passes (c :: text) := by
  intro nesting rest
  rw [cons_append, valueLength_plain hc, h, length_cons]
  omega

lemma of_blank (hblank : ∀ c ∈ blank, isBlank c) : Passes blank := by
  induction blank with
  | nil => exact nil
  | cons c blank ih =>
    obtain ⟨hquote, harray, hobject, hcloseArray, hcloseObject, _, _⟩ :=
      isBlank_not_special (hblank c mem_cons_self)
    exact cons ⟨hquote, harray, hobject, hcloseArray, hcloseObject⟩
      (ih fun c hc => hblank c (mem_cons_of_mem _ hc))

lemma quoted (htext : closed text) : Passes (quote text) := by
  intro nesting rest
  have hlength : (quote text).length = text.length + 2 := by simp [quote]
  rw [quote_append, valueLength_quote, valueLength_body htext, if_neg (Nat.succ_ne_zero _), hlength]
  omega

lemma container {opening closing : Char} (hopening : opening = '[' ∨ opening = '{')
    (hclosing : closing = ']' ∨ closing = '}') (h : Passes text) :
    Passes (opening :: (text ++ [closing])) := by
  intro nesting rest
  rw [cons_append, valueLength_open hopening, append_assoc, h, singleton_append,
    valueLength_close hclosing]
  simp only [length_cons, length_append, length_nil]
  omega

lemma inside {α : Type} {pieces : List (Piece α)} (hblank : ∀ c ∈ blank, isBlank c)
    (hpadded : ∀ piece ∈ pieces, piece.Padded) (hpieces : ∀ piece ∈ pieces, Passes piece.text) :
    Passes (JsonText.inside blank pieces) := by
  have hspelled : ∀ piece ∈ pieces, Passes piece.spelled := by
    intro piece hpiece
    exact (Passes.of_blank (hpadded piece hpiece).before).append
      ((hpieces piece hpiece).append (Passes.of_blank (hpadded piece hpiece).after))
  clear hpadded hpieces
  cases pieces with
  | nil => exact Passes.of_blank hblank
  | cons first pieces =>
    rw [inside_cons]
    refine (hspelled first mem_cons_self).append ?_
    have hrest := fun piece hpiece => hspelled piece (mem_cons_of_mem _ hpiece)
    clear hspelled
    induction pieces with
    | nil => exact nil
    | cons next pieces ih =>
      rw [trailing_cons]
      exact cons (by decide) ((hrest next mem_cons_self).append
        (ih fun piece hpiece => hrest piece (mem_cons_of_mem _ hpiece)))

end Passes

section

variable {σ : Type} {lex : Lexicon σ} {text : List Char} {tree : JsonTree σ}

lemma member_passes {member : Member σ} (hpadded : member.Padded)
    (hkey : lex.string member.key = some member.name) (hvalue : Passes member.text) :
    Passes member.piece.text := by
  refine (Passes.quoted (lex.string_closed hkey)).append ((Passes.of_blank hpadded.gap).append ?_)
  exact Passes.cons (by decide) ((Passes.of_blank hpadded.lead).append hvalue)

lemma passes_members {blank : List Char} {members : List (Member σ)}
    (hblank : ∀ c ∈ blank, isBlank c) (hpadded : ∀ member ∈ members, member.Padded)
    (hkeys : ∀ member ∈ members, lex.string member.key = some member.name)
    (hvalues : ∀ member ∈ members, Passes member.text) :
    Passes (inside blank (members.map Member.piece)) := by
  apply Passes.inside hblank
  · intro piece hpiece
    obtain ⟨member, hmember, rfl⟩ := mem_map.1 hpiece
    exact (hpadded member hmember).piece
  · intro piece hpiece
    obtain ⟨member, hmember, rfl⟩ := mem_map.1 hpiece
    exact member_passes (hpadded member hmember) (hkeys member hmember) (hvalues member hmember)

lemma spells_passes (h : Spells lex text tree) : Passes text := by
  induction h with
  | scalar htoken =>
    intro nesting rest
    exact passes_token (lex.scalar_token htoken).2 _ _
  | string hbody => exact Passes.quoted (lex.string_closed hbody)
  | array hblank hpadded _ ih =>
    exact Passes.container (.inl rfl) (.inl rfl) (Passes.inside hblank hpadded ih)
  | object hblank hpadded hkeys _ ih =>
    exact Passes.container (.inr rfl) (.inr rfl) (passes_members hblank hpadded hkeys ih)

lemma valueLength_quoted {body : List Char} (hbody : closed body) (rest : List Char) :
    valueLength false 0 (quote body ++ rest) = (quote body).length := by
  rw [quote_append, valueLength_quote, valueLength_body hbody, if_pos rfl]
  simp only [quote, length_cons, length_append, length_nil]
  omega

lemma valueLength_container {opening closing : Char} (hopening : opening = '[' ∨ opening = '{')
    (hclosing : closing = ']' ∨ closing = '}') (h : Passes text) (rest : List Char) :
    valueLength false 0 (opening :: (text ++ [closing]) ++ rest) =
      (opening :: (text ++ [closing])).length := by
  rw [cons_append, valueLength_open hopening, append_assoc, h, singleton_append,
    valueLength_last hclosing]
  simp only [length_cons, length_append, length_nil]
  omega

lemma valueLength_spells (h : Spells lex text tree) {rest : List Char} (hrest : Delimited rest) :
    valueLength false 0 (text ++ rest) = text.length := by
  have hpasses := spells_passes h
  cases h with
  | scalar htoken =>
    rw [passes_token (lex.scalar_token htoken).2, valueLength_delimited hrest, add_zero]
  | string hbody => exact valueLength_quoted (lex.string_closed hbody) rest
  | array hblank hpadded hpieces =>
    exact valueLength_container (.inl rfl) (.inl rfl)
      (Passes.inside hblank hpadded fun piece hpiece => spells_passes (hpieces piece hpiece)) rest
  | object hblank hpadded hkeys hmembers =>
    exact valueLength_container (.inr rfl) (.inr rfl)
      (passes_members hblank hpadded hkeys fun member hmember =>
        spells_passes (hmembers member hmember)) rest

lemma spells_head (h : Spells lex text tree) :
    ∃ c rest, text = c :: rest ∧ isBlank c = false ∧ c ≠ ']' ∧ c ≠ '}' := by
  cases h with
  | scalar htoken =>
    obtain ⟨hne, htoken⟩ := lex.scalar_token htoken
    obtain ⟨c, rest, rfl⟩ := exists_cons_of_ne_nil hne
    obtain ⟨_, _, _, harray, hobject, _, hblank⟩ := isToken_not_special (htoken c mem_cons_self)
    exact ⟨c, rest, rfl, hblank, harray, hobject⟩
  | string _ | array _ _ _ | object _ _ _ _ => exact ⟨_, _, rfl, by decide, by decide, by decide⟩

end

section

variable {bytes text blank rest : List Char} {offset : Nat} {c : Char}

lemma drop_add (h : bytes.drop offset = text ++ rest) : bytes.drop (offset + text.length) = rest := by
  rw [← drop_drop, h, drop_left]

lemma drop_of_append (h : bytes = text ++ rest) : bytes.drop text.length = rest :=
  (congrArg (List.drop _) h).trans drop_left

lemma drop_succ (h : bytes.drop offset = c :: rest) : bytes.drop (offset + 1) = rest := by
  rw [← drop_drop, h, drop_one, tail_cons]

lemma getElem?_of_drop (h : bytes.drop offset = c :: rest) : bytes[offset]? = some c := by
  rw [← add_zero offset, ← getElem?_drop, h, getElem?_cons_zero]

lemma slice_of_drop (h : bytes.drop offset = text ++ rest) :
    slice bytes { start := offset, stop := offset + text.length } = text := by
  simp [slice, h]

lemma skipSpace_eq (hdrop : bytes.drop offset = blank ++ c :: rest)
    (hblank : ∀ c ∈ blank, isBlank c) (hc : isBlank c = false) :
    skipSpace bytes offset = .ok (offset + blank.length) := by
  have hindex : (blank ++ c :: rest).findIdx? (fun c => !isBlank c) = some blank.length := by
    rw [findIdx?_eq_some_iff_getElem]
    refine ⟨by simp, by simpa using hc, fun i hi => ?_⟩
    rw [getElem_append_left hi]
    simpa using hblank _ (getElem_mem hi)
  rw [skipSpace, hdrop, hindex]

lemma valueSpan_of_length (hdrop : bytes.drop offset = blank ++ (text ++ rest))
    (hblank : ∀ c ∈ blank, isBlank c) (hhead : ∃ c tail, text = c :: tail ∧ isBlank c = false)
    (hlength : valueLength false 0 (text ++ rest) = text.length) : valueSpan bytes offset =
      .ok { start := offset + blank.length, stop := offset + blank.length + text.length } := by
  obtain ⟨c, tail, rfl, hc⟩ := hhead
  have hskip := skipSpace_eq (by simpa using hdrop) hblank hc
  have hvalue := drop_add hdrop
  simp only [valueSpan, hskip]
  change Except.ok _ = _
  rw [hvalue, hlength]

lemma valueSpan_eq {σ : Type} {lex : Lexicon σ} {tree : JsonTree σ}
    (hdrop : bytes.drop offset = blank ++ (text ++ rest)) (hblank : ∀ c ∈ blank, isBlank c)
    (htext : Spells lex text tree) (hrest : Delimited rest) : valueSpan bytes offset =
      .ok { start := offset + blank.length, stop := offset + blank.length + text.length } := by
  obtain ⟨c, tail, hhead, hc, _⟩ := spells_head htext
  exact valueSpan_of_length hdrop hblank ⟨c, tail, hhead, hc⟩ (valueLength_spells htext hrest)

lemma valueSpan_quoted (hdrop : bytes.drop offset = quote text ++ rest) (htext : closed text) :
    valueSpan bytes offset = .ok { start := offset, stop := offset + (quote text).length } := by
  have hhere : bytes.drop offset = [] ++ (quote text ++ rest) := hdrop
  exact valueSpan_of_length hhere (by simp) ⟨_, _, rfl, by decide⟩ (valueLength_quoted htext rest)

lemma delimited_blank (hblank : ∀ c ∈ blank, isBlank c) (hrest : Delimited rest) :
    Delimited (blank ++ rest) := by
  cases blank with
  | nil => exact hrest
  | cons c blank =>
    intro head hhead
    obtain rfl : c = head := by simpa using hhead
    exact .inl (hblank c mem_cons_self)

end

/-! ## Members -/

lemma ok_bind {α β : Type} (value : α) (next : α → Except RecoveryError β) :
    (Except.ok value >>= next) = next value := rfl

namespace JsonLibrary

variable {σ : Type} {lib : JsonLibrary σ}

lemma Lawful.parse_spells (h : lib.Lawful) {text : List Char} {tree : JsonTree σ}
    (htext : Spells lib.lexicon text tree) : lib.parse text = some tree :=
  h.parse.2 ⟨[], [], text, [], .inl rfl, by simp, by simp, htext, by simp⟩

section

variable {bytes rest : List Char} {offset stop fuel : Nat} {name : String}

lemma memberLoop_step (h : lib.Lawful) {member : Member σ}
    (hmember : member.Spelled lib.lexicon) {c : Char} (hc : c = ',' ∨ c = '}')
    (hdrop : bytes.drop offset = member.piece.spelled ++ c :: rest)
    (hstop : offset + member.piece.spelled.length < stop) :
    lib.memberLoop bytes stop name (fuel + 1) offset = if member.name = name then
        .ok { start := offset + member.opening.length
              stop := offset + member.opening.length + member.text.length }
      else lib.memberLoop bytes stop name fuel
        (if c = ',' then offset + member.piece.spelled.length + 1
          else offset + member.piece.spelled.length) := by
  obtain ⟨hpadded, hkey, hvalue⟩ := hmember
  have hclosed := lib.lexicon.string_closed hkey
  have hcBlank : isBlank c = false := by obtain rfl | rfl := hc <;> decide
  -- the parts of the member, at their offsets
  have hkeyAt : bytes.drop offset = member.before ++ (quote member.key ++
      (member.gap ++ ':' :: (member.lead ++ (member.text ++ (member.after ++ c :: rest))))) := by
    simpa [Member.spelled_piece, Member.opening] using hdrop
  have hbefore : ∀ c ∈ member.before, isBlank c := hpadded.piece.before
  have hskipKey := skipSpace_eq (by simpa [quote] using hkeyAt) hbefore (by decide : isBlank '"' = false)
  have hkeyDrop := drop_add hkeyAt
  have hkeySpan := valueSpan_quoted hkeyDrop hclosed
  have hgapDrop := drop_add hkeyDrop
  have hskipColon := skipSpace_eq hgapDrop hpadded.gap (by decide)
  have hcolonDrop := drop_add hgapDrop
  have hvalueDrop := drop_succ hcolonDrop
  have hafter : Delimited (member.after ++ c :: rest) := by
    apply delimited_blank hpadded.piece.after
    obtain rfl | rfl := hc <;> simp [Delimited]
  have hvalueSpan := valueSpan_eq hvalueDrop hpadded.lead hvalue hafter
  have hafterDrop := drop_add (drop_add hvalueDrop)
  have hskipAfter := skipSpace_eq hafterDrop hpadded.piece.after hcBlank
  have hquote : bytes[offset + member.before.length]? = some '"' :=
    getElem?_of_drop (by simpa [quote] using hkeyDrop)
  have hparse := (congrArg lib.parse (slice_of_drop hkeyDrop)).trans (h.parse_spells (.string hkey))
  have hspelled : member.piece.spelled.length =
      member.opening.length + member.text.length + member.after.length := by
    simp [Member.spelled_piece, add_assoc]
  have hopening : offset + member.before.length + (quote member.key).length + member.gap.length + 1 +
      member.lead.length = offset + member.opening.length := by
    simp [Member.opening]
    omega
  have hbound : offset + member.before.length < stop := by omega
  rw [memberLoop, hskipKey, ok_bind, if_pos ⟨hbound, by simp [hquote]⟩, hkeySpan, ok_bind, hskipColon, ok_bind,
    getElem?_of_drop hcolonDrop, require, if_pos (by decide), ok_bind]
  rw [hvalueSpan, ok_bind, hparse]
  dsimp only
  rw [hopening] at hskipAfter hafterDrop ⊢
  split
  · rfl
  · rw [hskipAfter, ok_bind, getElem?_of_drop (drop_add hafterDrop)]
    have hnext : offset + member.opening.length + member.text.length + member.after.length =
        offset + member.piece.spelled.length := by omega
    rw [hnext]
    simp only [Option.some.injEq]

lemma memberLoop_eq (h : lib.Lawful) {before after : List (Member σ)} {member : Member σ}
    (hmembers : ∀ other ∈ before ++ member :: after, other.Spelled lib.lexicon)
    (hnames : ∀ other ∈ before, other.name ≠ member.name)
    (hdrop : bytes.drop offset = leading (before.map Member.piece) ++
      (member.piece.spelled ++ (trailing (after.map Member.piece) ++ '}' :: rest)))
    (hstop : offset + (leading (before.map Member.piece)).length + member.piece.spelled.length < stop)
    (hfuel : before.length < fuel) : lib.memberLoop bytes stop member.name fuel offset =
      .ok { start := offset + (leading (before.map Member.piece)).length + member.opening.length
            stop := offset + (leading (before.map Member.piece)).length + member.opening.length +
              member.text.length } := by
  induction before generalizing offset fuel with
  | nil =>
    obtain ⟨fuel, rfl⟩ := Nat.exists_eq_succ_of_ne_zero hfuel.ne'
    have hrest : ∃ c tail, (c = ',' ∨ c = '}') ∧
        trailing (after.map Member.piece) ++ '}' :: rest = c :: tail := by
      cases after with
      | nil => exact ⟨'}', rest, .inr rfl, rfl⟩
      | cons next after => exact ⟨',', _, .inl rfl, by simp; rfl⟩
    obtain ⟨c, tail, hc, htail⟩ := hrest
    rw [map_nil, leading_nil, nil_append, htail] at hdrop
    simp only [map_nil, leading_nil, length_nil, add_zero] at hstop ⊢
    rw [memberLoop_step h (hmembers member (by simp)) hc hdrop hstop, if_pos rfl]
  | cons first before ih =>
    obtain ⟨fuel, rfl⟩ := Nat.exists_eq_succ_of_ne_zero (Nat.ne_of_gt (Nat.zero_lt_of_lt hfuel))
    simp only [map_cons, leading_cons, append_assoc, cons_append, length_append,
      length_cons] at hdrop hstop hfuel ⊢
    rw [memberLoop_step h (hmembers first (by simp)) (.inl rfl) hdrop (by omega),
      if_neg (hnames first mem_cons_self), if_pos rfl]
    have hnext : bytes.drop (offset + first.piece.spelled.length + 1) = _ :=
      drop_succ (drop_add hdrop)
    rw [ih (fun other hother => hmembers other (mem_cons_of_mem _ hother))
      (fun other hother => hnames other (mem_cons_of_mem _ hother)) hnext (by omega) (by omega)]
    congr 2 <;> omega

lemma memberSpan_eq (h : lib.Lawful) {blank : List Char} {before after : List (Member σ)}
    {member : Member σ} {object : Span}
    (hmembers : ∀ other ∈ before ++ member :: after, other.Spelled lib.lexicon)
    (hnames : ∀ other ∈ before, other.name ≠ member.name) (hdrop : bytes.drop object.start =
      '{' :: (inside blank ((before ++ member :: after).map Member.piece) ++ '}' :: rest))
    (hstop : object.stop = object.start +
      (inside blank ((before ++ member :: after).map Member.piece)).length + 2) :
    lib.memberSpan bytes object member.name =
      .ok { start := object.start + 1 + (leading (before.map Member.piece)).length +
              member.opening.length
            stop := object.start + 1 + (leading (before.map Member.piece)).length +
              member.opening.length + member.text.length } := by
  rw [map_append, map_cons, inside_append] at hdrop hstop
  have hinner : bytes.drop (object.start + 1) = _ := drop_succ hdrop
  have hbytes := congrArg List.length hdrop
  have hmany := length_le_leading (before.map Member.piece)
  simp only [length_drop, length_cons, length_append, length_map] at hbytes hstop hmany
  exact memberLoop_eq h hmembers hnames (by simpa using hinner) (by omega) (by omega)

end

end JsonLibrary

/-! ## Records -/

def elementSpans {α : Type} (offset : Nat) : List (Piece α) → List Span
  | [] => []
  | piece :: pieces =>
    { start := offset + piece.before.length
      stop := offset + piece.before.length + piece.text.length } ::
      elementSpans (offset + piece.spelled.length + 1) pieces

section

variable {σ : Type} {lex : Lexicon σ} {bytes rest : List Char} {offset stop fuel : Nat}

lemma recordLoop_step {piece : Piece (JsonTree σ)} (hpadded : piece.Padded)
    (hpiece : Spells lex piece.text piece.value) {c : Char} (hc : c = ',' ∨ c = ']')
    (hdrop : bytes.drop offset = piece.spelled ++ c :: rest)
    (hstop : offset + piece.spelled.length < stop) : recordLoop bytes stop (fuel + 1) offset =
      (recordLoop bytes stop fuel (if c = ',' then offset + piece.spelled.length + 1
        else offset + piece.spelled.length)) >>= fun spans =>
          pure ({ start := offset + piece.before.length
                  stop := offset + piece.before.length + piece.text.length } :: spans) := by
  have hcBlank : isBlank c = false := by obtain rfl | rfl := hc <;> decide
  obtain ⟨head, tail, htext, hhead, harray, _⟩ := spells_head hpiece
  have hpieceAt : bytes.drop offset = piece.before ++ (piece.text ++ (piece.after ++ c :: rest)) := by
    simpa [Piece.spelled] using hdrop
  have hskip := skipSpace_eq (by simpa [htext] using hpieceAt) hpadded.before hhead
  have htextDrop := drop_add hpieceAt
  have hfirst : bytes[offset + piece.before.length]? = some head :=
    getElem?_of_drop (by simpa [htext] using htextDrop)
  have hafter : Delimited (piece.after ++ c :: rest) := by
    apply delimited_blank hpadded.after
    obtain rfl | rfl := hc <;> simp [Delimited]
  have hhere : bytes.drop (offset + piece.before.length) = [] ++ (piece.text ++ _) := htextDrop
  have hspan := valueSpan_eq hhere (by simp) hpiece hafter
  have hafterDrop := drop_add htextDrop
  have hskipAfter := skipSpace_eq hafterDrop hpadded.after hcBlank
  have hspelled : piece.spelled.length = piece.before.length + piece.text.length + piece.after.length := by
    simp [Piece.spelled, add_assoc]
  have hnext : offset + piece.before.length + piece.text.length + piece.after.length =
      offset + piece.spelled.length := by omega
  have hbound : offset + piece.before.length < stop := by omega
  rw [length_nil, add_zero] at hspan
  rw [recordLoop, hskip, ok_bind, if_pos ⟨hbound, by simpa [hfirst] using harray⟩, hspan, ok_bind,
    hskipAfter, ok_bind, getElem?_of_drop (drop_add hafterDrop), hnext]
  simp only [Option.some.injEq]

lemma recordLoop_close {blank : List Char} (hblank : ∀ c ∈ blank, isBlank c)
    (hdrop : bytes.drop offset = blank ++ ']' :: rest) :
    recordLoop bytes stop (fuel + 1) offset = .ok [] := by
  rw [recordLoop, skipSpace_eq hdrop hblank (by decide), ok_bind, getElem?_of_drop (drop_add hdrop),
    if_neg (by simp)]
  rfl

lemma recordLoop_eq {blank : List Char} {pieces : List (Piece (JsonTree σ))}
    (hblank : ∀ c ∈ blank, isBlank c) (hpadded : ∀ piece ∈ pieces, piece.Padded)
    (hpieces : ∀ piece ∈ pieces, Spells lex piece.text piece.value)
    (hdrop : bytes.drop offset = inside blank pieces ++ ']' :: rest)
    (hstop : offset + (inside blank pieces).length < stop) (hfuel : pieces.length < fuel) :
    recordLoop bytes stop fuel offset = .ok (elementSpans offset pieces) := by
  induction pieces generalizing offset fuel with
  | nil =>
    obtain ⟨fuel, rfl⟩ := Nat.exists_eq_succ_of_ne_zero (Nat.ne_of_gt (Nat.zero_lt_of_lt hfuel))
    exact recordLoop_close hblank hdrop
  | cons piece pieces ih =>
    obtain ⟨fuel, rfl⟩ := Nat.exists_eq_succ_of_ne_zero (Nat.ne_of_gt (Nat.zero_lt_of_lt hfuel))
    have hpaddedFirst := hpadded piece mem_cons_self
    have hfirst := hpieces piece mem_cons_self
    rw [length_cons] at hfuel
    cases pieces with
    | nil =>
      obtain ⟨fuel, rfl⟩ := Nat.exists_eq_succ_of_ne_zero (Nat.ne_of_gt (by omega : 0 < fuel))
      have hclose : bytes.drop (offset + piece.spelled.length) = [] ++ ']' :: rest := drop_add hdrop
      rw [recordLoop_step hpaddedFirst hfirst (.inr rfl) hdrop hstop, if_neg (by decide : ¬ ']' = ','),
        recordLoop_close (by simp) hclose]
      rfl
    | cons next pieces =>
      have hsplit : inside blank (piece :: next :: pieces) =
          piece.spelled ++ ',' :: inside blank (next :: pieces) := by
        rw [inside_cons, inside_cons, trailing_cons]
      rw [hsplit, append_assoc, cons_append] at hdrop
      rw [hsplit, length_append, length_cons] at hstop
      have hrest : bytes.drop (offset + piece.spelled.length + 1) = _ :=
        drop_succ (drop_add hdrop)
      rw [recordLoop_step hpaddedFirst hfirst (.inl rfl) hdrop (by omega), if_pos rfl,
        ih (fun other hother => hpadded other (mem_cons_of_mem _ hother))
          (fun other hother => hpieces other (mem_cons_of_mem _ hother)) hrest (by omega)
          (by omega)]
      rfl

end

end Vibeshine.Pairing
