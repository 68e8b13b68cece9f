import Vibeshine.Pairing.Boundaries

/-! # The grammar is unambiguous

Where a value ends is found without its tree, so that a text spells at most one tree. The
assumption on the parser can therefore be met.
-/

namespace Vibeshine.Pairing

open Library Library.JsonText List
open Library.Json (isBlank Delimited)
open StateFile (byteOrderMark)

/-! ## Blanks -/

section

variable {blank blank' text text' : List Char}

def Solid (text : List Char) : Prop := ∀ c ∈ text.head?, isBlank c = false

lemma blank_unique (hblank : ∀ c ∈ blank, isBlank c) (hblank' : ∀ c ∈ blank', isBlank c)
    (htext : Solid text) (htext' : Solid text') (h : blank ++ text = blank' ++ text') :
    blank = blank' ∧ text = text' := by
  induction blank generalizing blank' with
  | nil =>
    cases blank' with
    | nil => exact ⟨rfl, h⟩
    | cons c blank' =>
      have hc := htext c (by simp only [nil_append] at h; simp [h])
      rw [hblank' c mem_cons_self] at hc
      cases hc
  | cons c blank ih =>
    cases blank' with
    | nil =>
      have hc := htext' c (by simp only [nil_append] at h; simp [← h])
      rw [hblank c mem_cons_self] at hc
      cases hc
    | cons c' blank' =>
      rw [cons_append, cons_append, List.cons.injEq] at h
      obtain ⟨rfl, hrest⟩ := ih (fun c hc => hblank c (mem_cons_of_mem _ hc))
        (fun c hc => hblank' c (mem_cons_of_mem _ hc)) h.2
      exact ⟨by rw [h.1], hrest⟩

end

section

variable {α : Type} {pieces pieces' : List (Piece α)} {blank blank' : List Char}

/-- Pieces whose texts can be told from what follows them. -/
structure Separable (pieces pieces' : List (Piece α)) : Prop where
  padded : ∀ piece ∈ pieces, piece.Padded
  padded' : ∀ piece ∈ pieces', piece.Padded
  solid : ∀ piece ∈ pieces, piece.text ≠ [] ∧ Solid piece.text
  solid' : ∀ piece ∈ pieces', piece.text ≠ [] ∧ Solid piece.text
  unique : ∀ piece ∈ pieces, ∀ piece' ∈ pieces', ∀ rest rest', Delimited rest → Delimited rest' →
    piece.text ++ rest = piece'.text ++ rest' → piece.value = piece'.value ∧ rest = rest'

lemma solid_append {text : List Char} (htext : text ≠ [] ∧ Solid text) (rest : List Char) :
    Solid (text ++ rest) := by
  obtain ⟨c, tail, rfl⟩ := exists_cons_of_ne_nil htext.1
  exact fun c hc => htext.2 c hc

lemma solid_trailing (pieces : List (Piece α)) : Solid (trailing pieces) ∧ Delimited (trailing pieces) := by
  cases pieces with
  | nil => simp [Solid, Delimited]
  | cons piece pieces => simp [Solid, Delimited, isBlank]

lemma Separable.spelled {piece piece' : Piece α} (h : Separable (piece :: pieces) (piece' :: pieces'))
    (hsame : piece.spelled ++ trailing pieces = piece'.spelled ++ trailing pieces') :
    piece.value = piece'.value ∧ trailing pieces = trailing pieces' := by
  have hpadded := h.padded piece mem_cons_self
  have hpadded' := h.padded' piece' mem_cons_self
  simp only [Piece.spelled, append_assoc] at hsame
  obtain ⟨-, htext⟩ := blank_unique hpadded.before hpadded'.before
    (solid_append (h.solid piece mem_cons_self) _)
    (solid_append (h.solid' piece' mem_cons_self) _) hsame
  obtain ⟨hvalue, hrest⟩ := h.unique piece mem_cons_self piece' mem_cons_self _ _
    (delimited_blank hpadded.after (solid_trailing pieces).2)
    (delimited_blank hpadded'.after (solid_trailing pieces').2) htext
  exact ⟨hvalue, (blank_unique hpadded.after hpadded'.after (solid_trailing pieces).1
    (solid_trailing pieces').1 hrest).2⟩

lemma Separable.tail {piece piece' : Piece α} (h : Separable (piece :: pieces) (piece' :: pieces')) :
    Separable pieces pieces' where
  padded other hother := h.padded other (mem_cons_of_mem _ hother)
  padded' other hother := h.padded' other (mem_cons_of_mem _ hother)
  solid other hother := h.solid other (mem_cons_of_mem _ hother)
  solid' other hother := h.solid' other (mem_cons_of_mem _ hother)
  unique other hother other' hother' :=
    h.unique other (mem_cons_of_mem _ hother) other' (mem_cons_of_mem _ hother')

lemma Separable.trailing (h : Separable pieces pieces')
    (hsame : JsonText.trailing pieces = JsonText.trailing pieces') :
    pieces.map (·.value) = pieces'.map (·.value) := by
  induction pieces generalizing pieces' with
  | nil =>
    cases pieces' with
    | nil => rfl
    | cons piece' pieces' => simp at hsame
  | cons piece pieces ih =>
    cases pieces' with
    | nil => simp at hsame
    | cons piece' pieces' =>
      rw [trailing_cons, trailing_cons, List.cons.injEq] at hsame
      obtain ⟨hvalue, hrest⟩ := h.spelled hsame.2
      rw [map_cons, map_cons, hvalue, ih h.tail hrest]

lemma blank_ne_inside {piece : Piece α} (hblank : ∀ c ∈ blank, isBlank c)
    (hpiece : piece.text ≠ [] ∧ Solid piece.text) : blank ≠ JsonText.inside blank' (piece :: pieces) := by
  obtain ⟨c, tail, htext⟩ := exists_cons_of_ne_nil hpiece.1
  have hc : isBlank c = false := hpiece.2 c (by simp [htext])
  intro heq
  have hmem : c ∈ blank := by
    rw [heq, inside_cons, Piece.spelled, htext]
    simp
  rw [hblank c hmem] at hc
  cases hc

lemma Separable.inside (h : Separable pieces pieces') (hblank : ∀ c ∈ blank, isBlank c)
    (hblank' : ∀ c ∈ blank', isBlank c)
    (hsame : JsonText.inside blank pieces = JsonText.inside blank' pieces') :
    pieces.map (·.value) = pieces'.map (·.value) := by
  cases pieces with
  | nil =>
    cases pieces' with
    | nil => rfl
    | cons piece' pieces' => exact absurd hsame (blank_ne_inside hblank (h.solid' piece' (by simp)))
  | cons piece pieces =>
    cases pieces' with
    | nil => exact absurd hsame.symm (blank_ne_inside hblank' (h.solid piece (by simp)))
    | cons piece' pieces' =>
      rw [inside_cons, inside_cons] at hsame
      obtain ⟨hvalue, hrest⟩ := h.spelled hsame
      rw [map_cons, map_cons, hvalue, h.tail.trailing hrest]

end

/-! ## Values -/

section

variable {σ : Type} {lex : Lexicon σ} {text text' rest rest' : List Char} {tree tree' : JsonTree σ}

lemma solid_of_spells (h : Spells lex text tree) : text ≠ [] ∧ Solid text := by
  obtain ⟨c, tail, rfl, hc, _⟩ := spells_head h
  refine ⟨cons_ne_nil _ _, fun head hhead => ?_⟩
  obtain rfl : c = head := by simpa using hhead
  exact hc

lemma text_unique (h : Spells lex text tree) (h' : Spells lex text' tree') (hrest : Delimited rest)
    (hrest' : Delimited rest') (hsame : text ++ rest = text' ++ rest') : text = text' ∧ rest = rest' := by
  apply append_inj hsame
  rw [← valueLength_spells h hrest, hsame, valueLength_spells h' hrest']

lemma quote_unique {body body' : List Char} (hbody : closed body) (hbody' : closed body')
    (hsame : quote body ++ rest = quote body' ++ rest') : body = body' ∧ rest = rest' := by
  have hlength : (quote body).length = (quote body').length := by
    rw [← valueLength_quoted hbody rest, hsame, valueLength_quoted hbody' rest']
  obtain ⟨hquote, hrest⟩ := append_inj hsame hlength
  simp only [quote, List.cons.injEq, true_and] at hquote
  exact ⟨append_cancel_right hquote, hrest⟩

lemma elements_separable {pieces pieces' : List (Piece (JsonTree σ))}
    (hpadded : ∀ piece ∈ pieces, piece.Padded) (hpadded' : ∀ piece ∈ pieces', piece.Padded)
    (hpieces : ∀ piece ∈ pieces, Spells lex piece.text piece.value)
    (hpieces' : ∀ piece ∈ pieces', Spells lex piece.text piece.value)
    (hvalues : ∀ piece ∈ pieces, ∀ tree', Spells lex piece.text tree' → piece.value = tree') :
    Separable pieces pieces' where
  padded := hpadded
  padded' := hpadded'
  solid piece hpiece := solid_of_spells (hpieces piece hpiece)
  solid' piece hpiece := solid_of_spells (hpieces' piece hpiece)
  unique piece hpiece piece' hpiece' rest rest' hrest hrest' hsame := by
    have hspelled' := hpieces' piece' hpiece'
    obtain ⟨htext, hrests⟩ := text_unique (hpieces piece hpiece) hspelled' hrest hrest' hsame
    exact ⟨hvalues piece hpiece _ (htext ▸ hspelled'), hrests⟩

lemma member_solid {member : Member σ} : member.piece.text ≠ [] ∧ Solid member.piece.text := by
  refine ⟨cons_ne_nil _ _, fun head hhead => ?_⟩
  obtain rfl : '"' = head := by simpa [Member.piece, quote] using hhead
  rfl

lemma members_separable {members members' : List (Member σ)}
    (hmembers : ∀ member ∈ members, member.Spelled lex)
    (hmembers' : ∀ member ∈ members', member.Spelled lex)
    (hvalues : ∀ member ∈ members, ∀ tree', Spells lex member.text tree' → member.value = tree') :
    Separable (members.map Member.piece) (members'.map Member.piece) where
  padded piece hpiece := by
    obtain ⟨member, hmember, rfl⟩ := mem_map.1 hpiece
    exact (hmembers member hmember).padded.piece
  padded' piece hpiece := by
    obtain ⟨member, hmember, rfl⟩ := mem_map.1 hpiece
    exact (hmembers' member hmember).padded.piece
  solid piece hpiece := by
    obtain ⟨member, _, rfl⟩ := mem_map.1 hpiece
    exact member_solid
  solid' piece hpiece := by
    obtain ⟨member, _, rfl⟩ := mem_map.1 hpiece
    exact member_solid
  unique piece hpiece piece' hpiece' rest rest' hrest hrest' hsame := by
    obtain ⟨member, hmember, rfl⟩ := mem_map.1 hpiece
    obtain ⟨member', hmember', rfl⟩ := mem_map.1 hpiece'
    obtain ⟨hpadded, hkey, hvalue⟩ := hmembers member hmember
    obtain ⟨hpadded', hkey', hvalue'⟩ := hmembers' member' hmember'
    simp only [Member.piece, append_assoc, cons_append] at hsame
    obtain ⟨hkeys, hgap⟩ := quote_unique (lex.string_closed hkey) (lex.string_closed hkey') hsame
    have hcolon : ∀ text, Solid (':' :: text) := fun text c hc => by
      obtain rfl : ':' = c := by simpa using hc
      rfl
    obtain ⟨-, hlead⟩ := blank_unique hpadded.gap hpadded'.gap (hcolon _) (hcolon _) hgap
    obtain ⟨-, hvalues'⟩ := blank_unique hpadded.lead hpadded'.lead
      (solid_append (solid_of_spells hvalue) _) (solid_append (solid_of_spells hvalue') _)
      (List.cons.inj hlead).2
    obtain ⟨htext, hrests⟩ := text_unique hvalue hvalue' hrest hrest' hvalues'
    have hname : member.name = member'.name :=
      Option.some.inj (hkey.symm.trans ((congrArg lex.string hkeys).trans hkey'))
    have htree : member.value = member'.value := hvalues member hmember _ (htext ▸ hvalue')
    exact ⟨by simp only [Member.piece, hname, htree], hrests⟩

lemma token_ne {token : List Char} {value : σ} (htoken : lex.scalar token = some value)
    {c : Char} (hc : isToken c = false) (tail : List Char) : token ≠ c :: tail := by
  rintro rfl
  have hfirst := (lex.scalar_token htoken).2 c mem_cons_self
  rw [hc] at hfirst
  cases hfirst

lemma spells_unique (h : Spells lex text tree) (h' : Spells lex text' tree') (hsame : text = text') :
    tree = tree' := by
  induction h generalizing text' tree' with
  | scalar htoken =>
    cases h' with
    | scalar htoken' => rw [Option.some.inj (htoken.symm.trans (hsame ▸ htoken'))]
    | string _ => exact absurd hsame (token_ne htoken (by decide) _)
    | array _ _ _ => exact absurd hsame (token_ne htoken (by decide) _)
    | object _ _ _ _ => exact absurd hsame (token_ne htoken (by decide) _)
  | string hbody =>
    cases h' with
    | scalar htoken' => exact absurd hsame.symm (token_ne htoken' (by decide) _)
    | string hbody' =>
      have hquoted := congrArg (· ++ []) hsame
      obtain ⟨rfl, -⟩ := quote_unique (lex.string_closed hbody) (lex.string_closed hbody') hquoted
      rw [Option.some.inj (hbody.symm.trans hbody')]
    | array _ _ _ => simp [quote] at hsame
    | object _ _ _ _ => simp [quote] at hsame
  | array hblank hpadded hpieces ih =>
    cases h' with
    | scalar htoken' => exact absurd hsame.symm (token_ne htoken' (by decide) _)
    | string _ => simp [quote] at hsame
    | array hblank' hpadded' hpieces' =>
      have hinside := append_cancel_right (List.cons.inj hsame).2
      have hseparable := elements_separable hpadded hpadded' hpieces hpieces'
        fun piece hpiece tree' htree' => ih piece hpiece htree' rfl
      rw [hseparable.inside hblank hblank' hinside]
    | object _ _ _ _ => simp at hsame
  | object hblank hpadded hkeys hmembers ih =>
    cases h' with
    | scalar htoken' => exact absurd hsame.symm (token_ne htoken' (by decide) _)
    | string _ => simp [quote] at hsame
    | array _ _ _ => simp at hsame
    | object hblank' hpadded' hkeys' hmembers' =>
      have hinside := append_cancel_right (List.cons.inj hsame).2
      have hseparable := members_separable
        (fun member hmember => ⟨hpadded member hmember, hkeys member hmember, hmembers member hmember⟩)
        (fun member hmember => ⟨hpadded' member hmember, hkeys' member hmember, hmembers' member hmember⟩)
        fun member hmember tree' htree' => ih member hmember htree' rfl
      have hvalues := hseparable.inside hblank hblank' hinside
      simpa [Function.comp_def, Member.piece] using hvalues

lemma mark_not_solid (h : Spells lex text tree) {before : List Char}
    (hbefore : ∀ c ∈ before, isBlank c) : before ++ (text ++ rest) ≠ byteOrderMark ++ rest' := by
  intro hsame
  cases before with
  | cons c before =>
    rw [cons_append, byteOrderMark, cons_append, List.cons.injEq] at hsame
    have hblank := hbefore c mem_cons_self
    rw [hsame.1] at hblank
    exact absurd hblank (by decide)
  | nil =>
    rw [nil_append] at hsame
    cases h with
    | scalar htoken =>
      obtain ⟨hne, htoken⟩ := lex.scalar_token htoken
      obtain ⟨c, tail, rfl⟩ := exists_cons_of_ne_nil hne
      rw [cons_append, byteOrderMark, cons_append, List.cons.injEq] at hsame
      have hfirst := htoken c mem_cons_self
      rw [hsame.1] at hfirst
      exact absurd hfirst (by decide)
    | string _ => simp [quote, byteOrderMark] at hsame
    | array _ _ _ => simp [byteOrderMark] at hsame
    | object _ _ _ _ => simp [byteOrderMark] at hsame

lemma reads_unique (h : Reads lex byteOrderMark text tree) (h' : Reads lex byteOrderMark text tree') :
    tree = tree' := by
  obtain ⟨mark, before, core, after, hmark, hbefore, hafter, hcore, rfl⟩ := h
  obtain ⟨mark', before', core', after', hmark', hbefore', hafter', hcore', hsame⟩ := h'
  have hbody : before ++ (core ++ after) = before' ++ (core' ++ after') := by
    obtain rfl | rfl := hmark <;> obtain rfl | rfl := hmark'
    · exact hsame
    · exact absurd hsame (mark_not_solid hcore hbefore)
    · exact absurd hsame.symm (mark_not_solid hcore' hbefore')
    · exact append_cancel_left hsame
  have hdelimited : ∀ {after : List Char}, (∀ c ∈ after, isBlank c) → Delimited after := by
    intro after hafter
    have hend : Delimited [] := by simp [Delimited]
    exact append_nil after ▸ delimited_blank hafter hend
  obtain ⟨-, hcores⟩ := blank_unique hbefore hbefore' (solid_append (solid_of_spells hcore) _)
    (solid_append (solid_of_spells hcore') _) hbody
  obtain ⟨htext, -⟩ := text_unique hcore hcore' (hdelimited hafter) (hdelimited hafter') hcores
  exact spells_unique hcore hcore' htext

end

/-! ## A parser -/

open Classical in
/-- The library that reads the texts of the grammar, and no others. -/
noncomputable def grammarLibrary {σ : Type} (lexicon : Lexicon σ) : JsonLibrary σ where
  lexicon
  parse text :=
    if h : ∃ tree, Reads lexicon byteOrderMark text tree then some h.choose else none
  same document other := document = other

lemma grammarLibrary_lawful {σ : Type} (lexicon : Lexicon σ) : (grammarLibrary lexicon).Lawful where
  parse := by
    intro text tree
    simp only [grammarLibrary]
    constructor
    · intro hparse
      split at hparse
      · rename_i hreads
        exact Option.some.inj hparse ▸ hreads.choose_spec
      · cases hparse
    · intro hreads
      have hexists : ∃ tree, Reads lexicon byteOrderMark text tree := ⟨tree, hreads⟩
      rw [dif_pos hexists, reads_unique hexists.choose_spec hreads]
  same document := by simp [grammarLibrary]

/-! ## Compact texts

A part of JSON whose texts are written out by a function: the constants, and strings that
stand for themselves.
-/

def isPlain (c : Char) : Bool := c.isAlphanum || c = '-' || c = '_' || c = ' '

lemma closed_plain {body : List Char} (hbody : ∀ c ∈ body, isPlain c) : closed body := by
  induction body with
  | nil => rfl
  | cons c body ih =>
    have hc := hbody c mem_cons_self
    have hrest := ih fun c hc => hbody c (mem_cons_of_mem _ hc)
    have hquote : c ≠ '"' := by
      rintro rfl
      exact absurd hc (by decide)
    have hescape : c ≠ '\\' := by
      rintro rfl
      exact absurd hc (by decide)
    rw [closed]
    · simp [hquote, hrest]
    · exact fun h => absurd h hescape
    · exact fun _ _ h => absurd h hescape

def plainLexicon : Lexicon Bool where
  scalar token :=
    if token = ['t', 'r', 'u', 'e'] then some true
    else if token = ['f', 'a', 'l', 's', 'e'] then some false
    else none
  string body := if body.all isPlain then some (String.ofList body) else none
  scalar_token := by
    intro token value h
    split_ifs at h with htrue hfalse
    · subst htrue
      exact ⟨cons_ne_nil _ _, all_eq_true.mp rfl⟩
    · subst hfalse
      exact ⟨cons_ne_nil _ _, all_eq_true.mp rfl⟩
  string_closed := by
    intro body text h
    split_ifs at h with hplain
    exact closed_plain (by simpa using hplain)

lemma plainLexicon_string {text : String} (h : text.toList.all isPlain) :
    plainLexicon.string text.toList = some text := by
  simpa [plainLexicon] using h

mutual

def compact : JsonTree Bool → List Char
  | .scalar true => ['t', 'r', 'u', 'e']
  | .scalar false => ['f', 'a', 'l', 's', 'e']
  | .string text => quote text.toList
  | .array elements => '[' :: (inside [] (compactElements elements) ++ [']'])
  | .object members => '{' :: (inside [] ((compactMembers members).map Member.piece) ++ ['}'])

def compactElements : List (JsonTree Bool) → List (Piece (JsonTree Bool))
  | [] => []
  | element :: elements =>
    { before := [], text := compact element, after := [], value := element } ::
      compactElements elements

def compactMembers : List (String × JsonTree Bool) → List (Member Bool)
  | [] => []
  | (name, value) :: members =>
    { before := [], key := name.toList, gap := [], lead := [], text := compact value, after := []
      name, value } :: compactMembers members

end

mutual

def plainTree : JsonTree Bool → Bool
  | .scalar _ => true
  | .string text => text.toList.all isPlain
  | .array elements => plainElements elements
  | .object members => plainMembers members

def plainElements : List (JsonTree Bool) → Bool
  | [] => true
  | element :: elements => plainTree element && plainElements elements

def plainMembers : List (String × JsonTree Bool) → Bool
  | [] => true
  | (name, value) :: members => name.toList.all isPlain && plainTree value && plainMembers members

end

mutual

lemma compact_spells : ∀ {tree : JsonTree Bool}, plainTree tree →
    Spells plainLexicon (compact tree) tree
  | .scalar true, _ => .scalar rfl
  | .scalar false, _ => .scalar rfl
  | .string _, h => .string (plainLexicon_string h)
  | .array elements, h => by
      have hplain : plainElements elements := h
      obtain ⟨hvalues, hpieces⟩ := compactElements_spells hplain
      have hspells : Spells plainLexicon (compact (.array elements))
          (.array ((compactElements elements).map (·.value))) :=
        .array (by simp) (fun piece hpiece => (hpieces piece hpiece).1)
          fun piece hpiece => (hpieces piece hpiece).2
      rwa [hvalues] at hspells
  | .object members, h => by
      have hplain : plainMembers members := h
      obtain ⟨hvalues, hmembers⟩ := compactMembers_spells hplain
      have hspells : Spells plainLexicon (compact (.object members))
          (.object ((compactMembers members).map fun member => (member.name, member.value))) :=
        .object (by simp) (fun member hmember => (hmembers member hmember).padded)
          (fun member hmember => (hmembers member hmember).key)
          fun member hmember => (hmembers member hmember).value
      rwa [hvalues] at hspells

lemma compactElements_spells : ∀ {elements : List (JsonTree Bool)}, plainElements elements →
    (compactElements elements).map (·.value) = elements ∧
      ∀ piece ∈ compactElements elements, piece.Padded ∧ Spells plainLexicon piece.text piece.value
  | [], _ => ⟨rfl, by simp [compactElements]⟩
  | element :: elements, h => by
      rw [plainElements, Bool.and_eq_true] at h
      obtain ⟨hvalues, hpieces⟩ := compactElements_spells h.2
      refine ⟨by rw [compactElements, map_cons, hvalues], fun piece hpiece => ?_⟩
      rw [compactElements, mem_cons] at hpiece
      obtain rfl | hpiece := hpiece
      · exact ⟨⟨by simp, by simp⟩, compact_spells h.1⟩
      · exact hpieces piece hpiece

lemma compactMembers_spells : ∀ {members : List (String × JsonTree Bool)}, plainMembers members →
    ((compactMembers members).map fun member => (member.name, member.value)) = members ∧
      ∀ member ∈ compactMembers members, member.Spelled plainLexicon
  | [], _ => ⟨rfl, by simp [compactMembers]⟩
  | (name, value) :: members, h => by
      rw [plainMembers, Bool.and_eq_true, Bool.and_eq_true] at h
      obtain ⟨hvalues, hmembers⟩ := compactMembers_spells h.2
      refine ⟨by rw [compactMembers, map_cons, hvalues], fun member hmember => ?_⟩
      rw [compactMembers, mem_cons] at hmember
      obtain rfl | hmember := hmember
      · exact ⟨⟨⟨by simp [Member.piece], by simp [Member.piece]⟩, by simp, by simp⟩,
          plainLexicon_string h.1.1, compact_spells h.1.2⟩
      · exact hmembers member hmember

end

lemma parseSnapshot_compact {tree : JsonTree Bool} (hplain : plainTree tree) (hdepth : tree.depth ≤ 32)
    (hdistinct : tree.Distinct) :
    (grammarLibrary plainLexicon).parseSnapshot (compact tree) = .ok tree.document := by
  have hparse := (grammarLibrary_lawful plainLexicon).parse_spells (compact_spells hplain)
  rw [JsonLibrary.parseSnapshot, hparse]
  exact if_pos ⟨hdepth, hdistinct⟩

end Vibeshine.Pairing
