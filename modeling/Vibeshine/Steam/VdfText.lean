import Mathlib.Data.List.Basic

/-! # The text format of Steam's files

`parse_vdf`: quoted keys with quoted values or nested nodes in braces, and comments between
them. A position of the lexer is what remains of the text from there on.
-/

namespace Vibeshine.Steam

open List

abbrev Bytes := List UInt8

def quote : UInt8 := 34

def slash : UInt8 := 47

def backslash : UInt8 := 92

def openBrace : UInt8 := 123

def closeBrace : UInt8 := 125

def newline : UInt8 := 10

variable (c : UInt8)

/-- `std::isspace` in the C locale. -/
def isSpace : Bool := c = 32 || (9 ≤ c && c ≤ 13)

inductive VdfNode where
  | node (value : Bytes) (children : List (Bytes × VdfNode))

/-- The text behind blanks and comments; the flag says whether the position is in a comment,
which the end of the line closes. -/
def skipBlank : Bool → Bytes → Bytes
  | _, [] => []
  | true, c :: rest => if c = newline then skipBlank false rest else skipBlank true rest
  | false, c :: rest =>
    if isSpace c then skipBlank false rest
    else if c = slash ∧ rest.head? = some slash then skipBlank true rest
    else c :: rest

variable (s : Bytes)

def whitespace : Bytes := skipBlank false s

def unescape : UInt8 :=
  if c = 110 then 10 else if c = 116 then 9 else if c = 114 then 13 else c

def quotedFrom : Bool → Bytes → Bytes × Bytes
  | _, [] => ([], [])
  | true, c :: rest =>
    let (out, rest) := quotedFrom false rest
    (unescape c :: out, rest)
  | false, c :: rest =>
    if c = quote then ([], rest)
    else if c = backslash ∧ rest ≠ [] then quotedFrom true rest
    else
      let (out, rest) := quotedFrom false rest
      (c :: out, rest)

def quoted : Bytes × Bytes := quotedFrom false s

def isBrace : Bool := c = openBrace || c = closeBrace

def isPlain : Bool := !isSpace c && !isBrace c

def token : Option Bytes × Bytes :=
  match whitespace s with
  | [] => (none, [])
  | c :: rest =>
    if isBrace c then (none, c :: rest)
    else if c = quote then
      let (out, rest) := quoted rest
      (some out, rest)
    else (some ((c :: rest).takeWhile isPlain), (c :: rest).dropWhile isPlain)

/-- What one pass of the loop of `parse_body` does. -/
inductive Pass where
  | finished (rest : Bytes)
  | stray (rest : Bytes)
  | opened (key rest : Bytes)
  | pair (key value rest : Bytes)

variable (stopAtBrace : Bool)

def pass (s : Bytes) : Pass :=
  match whitespace s with
  | [] => .finished []
  | c :: rest =>
    if stopAtBrace && c = closeBrace then .finished rest
    else
      match token (c :: rest) with
      | (none, rest) =>
        -- A stray brace cannot form a valid pair: it is consumed.
        match rest with
        | [] => .stray []
        | c :: rest => if isBrace c then .stray rest else .stray (c :: rest)
      | (some key, rest) =>
        match whitespace rest with
        | [] => .pair key [] []
        | c :: rest =>
          if c = openBrace then .opened key rest
          else
            match token (c :: rest) with
            | (some value, rest) => .pair key value rest
            | (none, rest) => .pair key [] rest

/-- `parse_body`, for at most `fuel` passes: the children and what follows them. -/
def parseBody : Nat → Bool → Bytes → Option (List (Bytes × VdfNode) × Bytes)
  | 0, _, _ => none
  | fuel + 1, stopAtBrace, s =>
    match pass stopAtBrace s with
    | .finished rest => some ([], rest)
    | .stray rest => parseBody fuel stopAtBrace rest
    | .opened key rest => do
        let (children, rest) ← parseBody fuel true rest
        let (more, rest) ← parseBody fuel stopAtBrace rest
        return ((key, .node [] children) :: more, rest)
    | .pair key value rest => do
        let (more, rest) ← parseBody fuel stopAtBrace rest
        return ((key, .node value []) :: more, rest)

def parseVdf (contents : Bytes) : Option VdfNode :=
  (parseBody (contents.length + 1) false contents).map fun (children, _) => .node [] children

/-! ## Progress -/

lemma skipBlank_suffix (comment : Bool) (s : Bytes) : skipBlank comment s <:+ s := by
  induction s generalizing comment with
  | nil => cases comment <;> exact suffix_rfl
  | cons c rest ih =>
    cases comment with
    | true =>
      rw [skipBlank]
      split <;> exact (ih _).trans (suffix_cons _ _)
    | false =>
      rw [skipBlank]
      split
      · exact (ih _).trans (suffix_cons _ _)
      · split
        · exact (ih _).trans (suffix_cons _ _)
        · exact suffix_rfl

lemma whitespace_suffix : whitespace s <:+ s := skipBlank_suffix false s

lemma skipBlank_head {comment : Bool} {s rest : Bytes} {c : UInt8}
    (h : skipBlank comment s = c :: rest) :
    isSpace c = false ∧ ¬(c = slash ∧ rest.head? = some slash) := by
  induction s generalizing comment with
  | nil => cases comment <;> cases h
  | cons first s ih =>
    cases comment with
    | true =>
      rw [skipBlank] at h
      split at h <;> exact ih h
    | false =>
      rw [skipBlank] at h
      split at h
      · exact ih h
      next hspace =>
        split at h
        · exact ih h
        next hcomment =>
          cases h
          exact ⟨Bool.eq_false_iff.mpr hspace, hcomment⟩

lemma whitespace_of_head {c : UInt8} {rest : Bytes} (hspace : isSpace c = false)
    (hcomment : ¬(c = slash ∧ rest.head? = some slash)) : whitespace (c :: rest) = c :: rest := by
  rw [whitespace, skipBlank, if_neg (by rw [hspace]; exact Bool.false_ne_true), if_neg hcomment]

lemma whitespace_idem {s rest : Bytes} {c : UInt8} (h : whitespace s = c :: rest) :
    whitespace (c :: rest) = c :: rest :=
  whitespace_of_head (skipBlank_head h).1 (skipBlank_head h).2

lemma quotedFrom_suffix (escaped : Bool) (s : Bytes) : (quotedFrom escaped s).2 <:+ s := by
  induction s generalizing escaped with
  | nil => cases escaped <;> exact suffix_rfl
  | cons c rest ih =>
    cases escaped with
    | true => exact (ih false).trans (suffix_cons _ _)
    | false =>
      rw [quotedFrom]
      split
      · exact suffix_cons _ _
      · split
        · exact (ih true).trans (suffix_cons _ _)
        · exact (ih false).trans (suffix_cons _ _)

lemma token_cases {c : UInt8} {rest : Bytes} (h : whitespace (c :: rest) = c :: rest)
    (hspace : isSpace c = false) : (isBrace c = true ∧ token (c :: rest) = (none, c :: rest)) ∨
      ∃ key behind, token (c :: rest) = (some key, behind) ∧ behind <:+ rest := by
  unfold token
  rw [h]
  dsimp only
  split
  next hbrace => exact .inl ⟨hbrace, rfl⟩
  next hbrace =>
    refine .inr ?_
    split
    · exact ⟨_, _, rfl, quotedFrom_suffix false rest⟩
    · have hplain : isPlain c = true := by
        rw [isPlain, hspace, Bool.eq_false_iff.mpr hbrace]
        rfl
      refine ⟨_, _, rfl, ?_⟩
      rw [dropWhile_cons_of_pos hplain]
      exact dropWhile_suffix _

def Pass.Advances (s : Bytes) : Pass → Prop
  | .finished rest => rest <:+ s ∧ (stopAtBrace = false → rest = [])
  | .stray rest | .opened _ rest | .pair _ _ rest => rest <:+ s ∧ rest.length < s.length

lemma pass_advances (s : Bytes) : (pass stopAtBrace s).Advances stopAtBrace s := by
  have hsuffix := whitespace_suffix s
  unfold pass
  cases hblank : whitespace s with
  | nil => exact ⟨nil_suffix, fun _ => rfl⟩
  | cons c rest =>
    rw [hblank] at hsuffix
    have hnext : ∀ {behind : Bytes}, behind <:+ rest → behind <:+ s ∧ behind.length < s.length := by
      intro behind hbehind
      have hlength := hsuffix.length_le
      have hless := hbehind.length_le
      rw [length_cons] at hlength
      exact ⟨hbehind.trans ((suffix_cons _ _).trans hsuffix), by omega⟩
    dsimp only
    split
    next hstop =>
      refine ⟨(hnext suffix_rfl).1, fun hfalse => ?_⟩
      rw [hfalse] at hstop
      cases hstop
    · obtain ⟨hbrace, htoken⟩ | ⟨key, behind, htoken, hbehind⟩ :=
        token_cases (whitespace_idem hblank) (skipBlank_head hblank).1
      · rw [htoken]
        dsimp only
        rw [if_pos hbrace]
        exact hnext suffix_rfl
      · rw [htoken]
        dsimp only
        have hafter := (whitespace_suffix behind).trans hbehind
        cases hvalue : whitespace behind with
        | nil => exact hnext nil_suffix
        | cons d after =>
          rw [hvalue] at hafter
          have hdeeper : ∀ {last : Bytes}, last <:+ after → last <:+ rest := fun hlast =>
            hlast.trans ((suffix_cons _ _).trans hafter)
          dsimp only
          split
          · exact hnext (hdeeper suffix_rfl)
          · obtain ⟨-, htoken⟩ | ⟨value, last, htoken, hlast⟩ :=
              token_cases (whitespace_idem hvalue) (skipBlank_head hvalue).1
            · rw [htoken]
              exact hnext hafter
            · rw [htoken]
              exact hnext (hdeeper hlast)

lemma parseBody_finishes {fuel : Nat} {s : Bytes} (stopAtBrace : Bool) (hfuel : s.length < fuel) :
    ∃ children rest, parseBody fuel stopAtBrace s = some (children, rest) ∧ rest <:+ s ∧
      (stopAtBrace = false → rest = []) := by
  induction fuel generalizing s stopAtBrace with
  | zero => exact absurd hfuel (Nat.not_lt_zero _)
  | succ fuel ih =>
    have hadv := pass_advances stopAtBrace s
    rw [parseBody]
    cases hpass : pass stopAtBrace s with
    | finished rest =>
      rw [hpass] at hadv
      exact ⟨[], rest, rfl, hadv⟩
    | stray rest =>
      rw [hpass] at hadv
      obtain ⟨children, last, hparse, hlast, hend⟩ := ih stopAtBrace (s := rest) (by
        have := hadv.2
        omega)
      exact ⟨children, last, hparse, hlast.trans hadv.1, hend⟩
    | opened key rest =>
      rw [hpass] at hadv
      obtain ⟨hsuffix, hless⟩ := hadv
      obtain ⟨children, behind, hparse, hbehind, -⟩ := ih true (s := rest) (by omega)
      obtain ⟨more, last, hmore, hlast, hend⟩ := ih stopAtBrace (s := behind) (by
        have := hbehind.length_le
        omega)
      refine ⟨(key, .node [] children) :: more, last, ?_, hlast.trans (hbehind.trans hsuffix), hend⟩
      simp [hparse, hmore]
    | pair key value rest =>
      rw [hpass] at hadv
      obtain ⟨more, last, hmore, hlast, hend⟩ := ih stopAtBrace (s := rest) (by
        have := hadv.2
        omega)
      refine ⟨(key, .node value []) :: more, last, ?_, hlast.trans hadv.1, hend⟩
      simp [hmore]

lemma parseBody_mono {fuel fuel' : Nat} {stopAtBrace : Bool} {s : Bytes}
    {result : List (Bytes × VdfNode) × Bytes} (h : parseBody fuel stopAtBrace s = some result)
    (hle : fuel ≤ fuel') : parseBody fuel' stopAtBrace s = some result := by
  induction fuel generalizing fuel' stopAtBrace s result with
  | zero => cases h
  | succ fuel ih =>
    obtain ⟨fuel', rfl⟩ : ∃ less, fuel' = less + 1 := ⟨fuel' - 1, by omega⟩
    rw [parseBody] at h ⊢
    cases hpass : pass stopAtBrace s with
    | finished rest =>
      rw [hpass] at h
      exact h
    | stray rest =>
      rw [hpass] at h
      exact ih h (by omega)
    | opened key rest =>
      rw [hpass] at h
      obtain ⟨children, hchildren, h⟩ := Option.bind_eq_some_iff.mp h
      obtain ⟨more, hmore, h⟩ := Option.bind_eq_some_iff.mp h
      have hfirst := ih hchildren (show fuel ≤ fuel' by omega)
      have hsecond := ih hmore (show fuel ≤ fuel' by omega)
      simp [hfirst, hsecond]
      simpa using h
    | pair key value rest =>
      rw [hpass] at h
      obtain ⟨more, hmore, h⟩ := Option.bind_eq_some_iff.mp h
      have hfirst := ih hmore (show fuel ≤ fuel' by omega)
      simp [hfirst]
      simpa using h

/-! ## Printing -/

inductive Blank : Bytes → Prop where
  | nil : Blank []
  | space {c : UInt8} {rest : Bytes} (hspace : isSpace c = true) (hrest : Blank rest) :
      Blank (c :: rest)
  | comment {text rest : Bytes} (htext : newline ∉ text) (hrest : Blank rest) :
      Blank (slash :: slash :: (text ++ newline :: rest))

inductive FinalBlank : Bytes → Prop where
  | blank {blank : Bytes} (h : Blank blank) : FinalBlank blank
  | comment {blank text : Bytes} (h : Blank blank) (htext : newline ∉ text) :
      FinalBlank (blank ++ slash :: slash :: text)

inductive Spelled : Bytes → Bytes → Prop where
  | nil : Spelled [] []
  | raw {c : UInt8} {value text : Bytes} (hquote : c ≠ quote) (hbackslash : c ≠ backslash)
      (hrest : Spelled value text) : Spelled (c :: value) (c :: text)
  | escaped {c : UInt8} {value text : Bytes} (hc : c = quote ∨ c = backslash)
      (hrest : Spelled value text) : Spelled (c :: value) (backslash :: c :: text)
  | letter {c : UInt8} {value text : Bytes} (hc : c = 110 ∨ c = 116 ∨ c = 114)
      (hrest : Spelled value text) : Spelled (unescape c :: value) (backslash :: c :: text)

inductive Prints : List (Bytes × VdfNode) → Bytes → Prop where
  | nil : Prints [] []
  | leaf {before between key keyText value valueText text : Bytes}
      {children : List (Bytes × VdfNode)} (hbefore : Blank before) (hkey : Spelled key keyText)
      (hbetween : Blank between) (hvalue : Spelled value valueText)
      (hrest : Prints children text) :
      Prints ((key, .node value []) :: children) (before ++ quote :: (keyText ++ quote ::
        (between ++ quote :: (valueText ++ quote :: text))))
  | nested {before between key keyText inner last text : Bytes}
      {nodes children : List (Bytes × VdfNode)} (hbefore : Blank before) (hkey : Spelled key keyText)
      (hbetween : Blank between) (hinner : Prints nodes inner) (hlast : Blank last)
      (hrest : Prints children text) :
      Prints ((key, .node [] nodes) :: children) (before ++ quote :: (keyText ++ quote ::
        (between ++ openBrace :: (inner ++ (last ++ closeBrace :: text)))))

lemma skipBlank_comment {text rest : Bytes} (h : newline ∉ text) :
    skipBlank true (text ++ newline :: rest) = skipBlank false rest := by
  induction text with
  | nil => rw [nil_append, skipBlank, if_pos rfl]
  | cons c text ih =>
    obtain ⟨hc, htext⟩ := not_or.mp fun h' => h (mem_cons.mpr h')
    rw [cons_append, skipBlank, if_neg (Ne.symm hc), ih htext]

lemma skipBlank_open {text : Bytes} (h : newline ∉ text) : skipBlank true text = [] := by
  induction text with
  | nil => rfl
  | cons c text ih =>
    obtain ⟨hc, htext⟩ := not_or.mp fun h' => h (mem_cons.mpr h')
    rw [skipBlank, if_neg (Ne.symm hc), ih htext]

lemma whitespace_slashes (rest : Bytes) :
    whitespace (slash :: slash :: rest) = skipBlank true (slash :: rest) := by
  conv_lhs => rw [whitespace, skipBlank, if_neg (by decide), if_pos ⟨rfl, rfl⟩]

lemma Blank.whitespace_append {blank : Bytes} (h : Blank blank) (rest : Bytes) :
    whitespace (blank ++ rest) = whitespace rest := by
  induction h with
  | nil => rfl
  | space hspace _ ih =>
    rw [cons_append, whitespace, skipBlank, if_pos hspace]
    exact ih
  | @comment text blank htext _ ih =>
    rw [cons_append, cons_append, append_assoc, cons_append,
      whitespace_slashes, skipBlank, if_neg (by decide), skipBlank_comment htext]
    exact ih

lemma FinalBlank.whitespace {blank : Bytes} (h : FinalBlank blank) : whitespace blank = [] := by
  cases h with
  | blank h =>
    have hall := h.whitespace_append []
    rw [append_nil] at hall
    exact hall
  | comment h htext =>
    rw [h.whitespace_append, whitespace_slashes, skipBlank, if_neg (by decide),
      skipBlank_open htext]

lemma Spelled.quoted_append {value text : Bytes} (h : Spelled value text) (rest : Bytes) :
    quoted (text ++ quote :: rest) = (value, rest) := by
  unfold quoted
  induction h with
  | nil => rw [nil_append, quotedFrom, if_pos rfl]
  | raw hquote hbackslash _ ih =>
    rw [cons_append, quotedFrom, if_neg hquote, if_neg fun h => hbackslash h.1, ih]
  | escaped hc _ ih =>
    rw [cons_append, cons_append, quotedFrom, if_neg (by decide),
      if_pos ⟨rfl, cons_ne_nil _ _⟩, quotedFrom, ih]
    obtain rfl | rfl := hc <;> rfl
  | letter _ _ ih =>
    rw [cons_append, cons_append, quotedFrom, if_neg (by decide),
      if_pos ⟨rfl, cons_ne_nil _ _⟩, quotedFrom, ih]

/-! ## Reading what is printed -/

lemma whitespace_mark {c : UInt8} (rest : Bytes) (hc : c = quote ∨ c = openBrace ∨ c = closeBrace) :
    whitespace (c :: rest) = c :: rest := by
  obtain rfl | rfl | rfl := hc
  · exact whitespace_of_head rfl fun h => absurd h.1 (by decide)
  · exact whitespace_of_head rfl fun h => absurd h.1 (by decide)
  · exact whitespace_of_head rfl fun h => absurd h.1 (by decide)

lemma token_quoted {value text : Bytes} (h : Spelled value text) (rest : Bytes) :
    token (quote :: (text ++ quote :: rest)) = (some value, rest) := by
  unfold token
  rw [whitespace_mark _ (.inl rfl)]
  dsimp only
  rw [if_neg (by decide), if_pos rfl, h.quoted_append]

section

variable {before between key keyText : Bytes} (hbefore : Blank before) (hkey : Spelled key keyText)
  (hbetween : Blank between)

include hbefore hkey

lemma pass_key (stopAtBrace : Bool) (rest : Bytes) :
    pass stopAtBrace (before ++ quote :: (keyText ++ quote :: rest)) = match whitespace rest with
      | [] => .pair key [] []
      | c :: rest =>
        if c = openBrace then .opened key rest else
          match token (c :: rest) with
          | (some value, rest) => .pair key value rest
          | (none, rest) => .pair key [] rest := by
  unfold pass
  rw [hbefore.whitespace_append, whitespace_mark _ (.inl rfl)]
  dsimp only
  have hstop : ¬(stopAtBrace && decide (quote = closeBrace)) = true := by
    rw [show decide (quote = closeBrace) = false from rfl, Bool.and_false]
    exact Bool.false_ne_true
  rw [if_neg hstop, token_quoted hkey]

include hbetween

lemma pass_opened (stopAtBrace : Bool) (rest : Bytes) :
    pass stopAtBrace (before ++ quote :: (keyText ++ quote :: (between ++ openBrace :: rest))) =
      .opened key rest := by
  rw [pass_key hbefore hkey, hbetween.whitespace_append, whitespace_mark _ (.inr (.inl rfl))]
  exact if_pos rfl

lemma pass_pair {value valueText : Bytes} (hvalue : Spelled value valueText) (stopAtBrace : Bool)
    (rest : Bytes) : pass stopAtBrace (before ++ quote :: (keyText ++ quote ::
      (between ++ quote :: (valueText ++ quote :: rest)))) = .pair key value rest := by
  rw [pass_key hbefore hkey, hbetween.whitespace_append, whitespace_mark _ (.inl rfl)]
  dsimp only
  rw [if_neg (by decide), token_quoted hvalue]

end

lemma pass_closed {last : Bytes} (hlast : Blank last) (rest : Bytes) :
    pass true (last ++ closeBrace :: rest) = .finished rest := by
  unfold pass
  rw [hlast.whitespace_append, whitespace_mark _ (.inr (.inr rfl))]
  exact if_pos rfl

lemma Prints.parseBody {children : List (Bytes × VdfNode)} {text : Bytes}
    (h : Prints children text) {stopAtBrace : Bool} {behind rest : Bytes}
    {more : List (Bytes × VdfNode)}
    (hbehind : ∃ fuel, parseBody fuel stopAtBrace behind = some (more, rest)) :
    ∃ fuel, parseBody fuel stopAtBrace (text ++ behind) = some (children ++ more, rest) := by
  induction h generalizing stopAtBrace behind rest more with
  | nil => exact hbehind
  | leaf hbefore hkey hbetween hvalue _ ih =>
    obtain ⟨fuel, hparse⟩ := ih hbehind
    refine ⟨fuel + 1, ?_⟩
    simp only [append_assoc, cons_append]
    rw [Steam.parseBody, pass_pair hbefore hkey hbetween hvalue]
    simp [hparse]
  | @nested before between key keyText inner last text nodes children hbefore hkey hbetween _ hlast _
      ihInner ihRest =>
      -- The inner children end at the closing brace, and the rest goes on behind it.
      have hclosed : ∃ fuel, Steam.parseBody fuel true (last ++ closeBrace :: (text ++ behind)) =
          some ([], text ++ behind) := by
        refine ⟨1, ?_⟩
        rw [Steam.parseBody, pass_closed hlast]
      obtain ⟨fuel, hinner⟩ := ihInner hclosed
      obtain ⟨fuel', hrest⟩ := ihRest hbehind
      have hinner := parseBody_mono hinner (Nat.le_max_left fuel fuel')
      have hrest := parseBody_mono hrest (Nat.le_max_right fuel fuel')
      refine ⟨max fuel fuel' + 1, ?_⟩
      simp only [append_assoc, cons_append]
      rw [Steam.parseBody, pass_opened hbefore hkey hbetween]
      simp [hinner, hrest]

lemma parseVdf_printed {children : List (Bytes × VdfNode)} {text blank : Bytes}
    (h : Prints children text) (hblank : FinalBlank blank) :
    parseVdf (text ++ blank) = some (.node [] children) := by
  have hend : ∃ fuel, parseBody fuel false blank = some ([], []) := by
    refine ⟨1, ?_⟩
    rw [parseBody, pass, hblank.whitespace]
  obtain ⟨fuel, hparse⟩ := h.parseBody hend
  obtain ⟨result, rest, hresult, -⟩ :=
    parseBody_finishes false (Nat.lt_succ_self (text ++ blank).length)
  have hsame := parseBody_mono hparse (Nat.le_max_left fuel ((text ++ blank).length + 1))
  rw [parseBody_mono hresult (Nat.le_max_right fuel ((text ++ blank).length + 1)),
    append_nil] at hsame
  obtain ⟨rfl, -⟩ := Prod.mk.inj (Option.some.inj hsame)
  rw [parseVdf, hresult]
  rfl

/-- Every pass goes on behind where it was and the passes of a text end with it; and a tree that
is printed is read back. -/
theorem vdf_text_law : (∀ stopAtBrace s, (pass stopAtBrace s).Advances stopAtBrace s) ∧
      (∀ contents, ∃ children, parseVdf contents = some (.node [] children) ∧
        ∀ fuel, contents.length < fuel → parseBody fuel false contents = some (children, [])) ∧
      ∀ children text blank, Prints children text → FinalBlank blank →
        parseVdf (text ++ blank) = some (.node [] children) := by
  refine ⟨pass_advances, fun contents => ?_, fun _ _ _ => parseVdf_printed⟩
  obtain ⟨children, rest, hparse, -, hend⟩ :=
    parseBody_finishes false (Nat.lt_succ_self contents.length)
  obtain rfl := hend rfl
  refine ⟨children, ?_, fun fuel hfuel => parseBody_mono hparse hfuel⟩
  rw [parseVdf, hparse]
  rfl

end Vibeshine.Steam
