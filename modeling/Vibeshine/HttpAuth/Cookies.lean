import Mathlib.Data.List.Infix
import Mathlib.Data.List.TakeWhile
import Mathlib.Tactic.Common

/-! # The value of a cookie

`extract_cookie` searches the header for the text of the name and an equals sign. It finds the
first pair of that name if no earlier pair contains the text.
-/

namespace Vibeshine.HttpAuth

open List

def behind (part : List Char) : List Char → Option (List Char)
  | [] => if part = [] then some [] else none
  | c :: text =>
    if part <+: c :: text then some ((c :: text).drop part.length) else behind part text

/-- `RequestAuthPolicy::extract_cookie`; names of headers are compared without case. -/
def extractCookie (cookieUnescape : List Char → List Char) (headers : List (List Char × List Char))
    (name : List Char) : List Char :=
  match headers.find? fun header => header.1.map Char.toLower = ['c', 'o', 'o', 'k', 'i', 'e'] with
  | none => []
  | some header =>
    match behind (name ++ ['=']) header.2 with
    | none => []
    | some text => cookieUnescape (text.takeWhile (· ≠ ';'))

def isToken (c : Char) : Prop := c ≠ '=' ∧ c ≠ ';' ∧ c ≠ ' '

structure CookiePair where
  /-- The spaces before the pair. -/
  blanks : Nat
  name : List Char
  value : List Char
  token : ∀ c ∈ name, isToken c
  plain : ';' ∉ value

namespace CookiePair

def text (pair : CookiePair) : List Char := pair.name ++ '=' :: pair.value

def segment (pair : CookiePair) : List Char := List.replicate pair.blanks ' ' ++ pair.text

lemma semicolon_not_mem_text (pair : CookiePair) : ';' ∉ pair.text := by
  simp only [text, mem_append, mem_cons, not_or]
  exact ⟨fun h => (pair.token _ h).2.1 rfl, by decide, pair.plain⟩

end CookiePair

def cookieText : List CookiePair → List Char
  | [] => []
  | [pair] => pair.segment
  | pair :: next :: pairs => pair.segment ++ ';' :: cookieText (next :: pairs)

def namedCookie (cookieUnescape : List Char → List Char) (pairs : List CookiePair)
    (name : List Char) : List Char :=
  match pairs.find? fun pair => pair.name = name with
  | some pair => cookieUnescape pair.value
  | none => []

/-- What stands behind `name=` in the first pair that contains it, of those before the pair of the
name. -/
def shadow (name : List Char) (pairs : List CookiePair) : Option (List Char) :=
  (pairs.takeWhile fun pair => pair.name ≠ name).findSome? fun pair => behind (name ++ ['=']) pair.text

/-! ## Where the text of a name is found -/

section

variable {part text rest : List Char}

lemma behind_append (hne : part ≠ []) (hpart : ';' ∉ part) : behind part (text ++ ';' :: rest) =
      ((behind part text).map fun found => found ++ ';' :: rest).or (behind part rest) := by
  induction text with
  | nil =>
    have hhead : ¬part <+: ';' :: rest := by
      intro h
      cases part with
      | nil => exact hne rfl
      | cons c part => exact hpart ((cons_prefix_cons.mp h).1 ▸ mem_cons_self)
    simp [behind, hhead, hne]
  | cons c text ih =>
    have hstarts : part <+: c :: (text ++ ';' :: rest) ↔ part <+: c :: text := by
      refine ⟨fun h => ?_, fun h => h.trans (prefix_append (c :: text) _)⟩
      have hcut : (c :: text) ++ [';'] <+: c :: (text ++ ';' :: rest) := ⟨rest, by simp⟩
      rcases prefix_or_prefix_of_prefix h hcut with hshort | hlong
      · rcases prefix_concat_iff.mp hshort with rfl | hshort
        · exact absurd (by simp) hpart
        · exact hshort
      · exact absurd (hlong.subset (by simp)) hpart
    rw [cons_append, behind, behind]
    by_cases h : part <+: c :: text
    · rw [if_pos h, if_pos (hstarts.mpr h), ← cons_append, drop_append_of_le_length h.length_le]
      rfl
    · rw [if_neg h, if_neg (mt hstarts.mp h), ih]

lemma behind_blanks {c : Char} {part : List Char} (hc : c ≠ ' ') (blanks : Nat) :
    behind (c :: part) (List.replicate blanks ' ' ++ text) = behind (c :: part) text := by
  induction blanks with
  | zero => rfl
  | succ blanks ih =>
    rw [replicate_succ, cons_append, behind, if_neg, ih]
    exact fun h => hc (cons_prefix_cons.mp h).1

lemma behind_suffix {found : List Char} (h : behind part text = some found) : found <:+ text := by
  induction text with
  | nil =>
    unfold behind at h
    split at h <;> cases h
    exact suffix_refl _
  | cons c text ih =>
    unfold behind at h
    split at h
    · cases h
      exact drop_suffix _ _
    · exact (ih h).trans (suffix_cons _ _)

end

section

variable {name : List Char}

lemma behind_text {pair : CookiePair} (h : pair.name = name) :
    behind (name ++ ['=']) pair.text = some pair.value := by
  have hstarts : name ++ ['='] <+: pair.text := ⟨pair.value, by simp [CookiePair.text, h]⟩
  obtain ⟨c, tail, htext⟩ := exists_cons_of_ne_nil
    (show pair.text ≠ [] by simp [CookiePair.text])
  rw [htext, behind, if_pos (htext ▸ hstarts), ← htext, CookiePair.text, h]
  simp

lemma takeWhile_behind {pair : CookiePair} {found : List Char} (rest : List Char)
    (h : behind (name ++ ['=']) pair.text = some found) :
    found.takeWhile (· ≠ ';') = found ∧ (found ++ ';' :: rest).takeWhile (· ≠ ';') = found := by
  have hplain : ∀ c ∈ found, decide (c ≠ ';') = true := by
    intro c hc
    rw [decide_eq_true_eq]
    rintro rfl
    exact pair.semicolon_not_mem_text ((behind_suffix h).subset hc)
  refine ⟨takeWhile_eq_self_iff.mpr hplain, ?_⟩
  rw [takeWhile_append_of_pos hplain]
  simp

lemma shadow_cons (pair : CookiePair) (pairs : List CookiePair) : (shadow name (pair :: pairs)).or
        (((pair :: pairs).find? fun pair => pair.name = name).map CookiePair.value) =
      (behind (name ++ ['=']) pair.text).or
        ((shadow name pairs).or ((pairs.find? fun pair => pair.name = name).map CookiePair.value)) := by
  by_cases h : pair.name = name
  · simp [shadow, h, behind_text h]
  · cases hfound : behind (name ++ ['=']) pair.text <;> simp [shadow, h, hfound]

/-- The search finds the earlier pair that contains `name=`, and else the pair of the name. -/
lemma behind_cookieText (hne : name ≠ []) (hname : ∀ c ∈ name, isToken c)
    (pairs : List CookiePair) :
    (behind (name ++ ['=']) (cookieText pairs)).map (fun text => text.takeWhile (· ≠ ';')) =
      (shadow name pairs).or ((pairs.find? fun pair => pair.name = name).map CookiePair.value) := by
  have hpart : ';' ∉ name ++ ['='] := by
    simp only [mem_append, mem_singleton, not_or]
    exact ⟨fun h => (hname _ h).2.1 rfl, by decide⟩
  have hsegment (pair : CookiePair) :
      behind (name ++ ['=']) pair.segment = behind (name ++ ['=']) pair.text := by
    obtain ⟨c, tail, rfl⟩ := exists_cons_of_ne_nil hne
    exact behind_blanks (hname c mem_cons_self).2.2 _
  induction pairs using cookieText.induct with
  | case1 => simp [cookieText, behind, shadow]
  | case2 pair =>
    rw [cookieText, hsegment, shadow_cons]
    cases hfound : behind (name ++ ['=']) pair.text with
    | none => rfl
    | some found => exact congrArg some (takeWhile_behind [] hfound).1
  | case3 pair next pairs ih =>
    rw [cookieText, behind_append (by simp) hpart, hsegment, shadow_cons, ← ih]
    cases hfound : behind (name ++ ['=']) pair.text with
    | none => rfl
    | some found => exact congrArg some (takeWhile_behind _ hfound).2

end

/-- The claimed value is returned if and only if no earlier pair contains the text of the name and an
equals sign, or what stands behind it there is unescaped to the same value. -/
theorem cookie_found_iff (cookieUnescape : List Char → List Char) (name : List Char)
    (pairs : List CookiePair) (headers : List (List Char × List Char)) {header : List Char}
    (hne : name ≠ []) (hname : ∀ c ∈ name, isToken c) (hheader : headers.find? (fun header => header.1.map Char.toLower = ['c', 'o', 'o', 'k', 'i', 'e']) =
      some (header, cookieText pairs)) :
    extractCookie cookieUnescape headers name = namedCookie cookieUnescape pairs name ↔
      ∀ text, shadow name pairs = some text →
        cookieUnescape text = namedCookie cookieUnescape pairs name := by
  have hsearch := behind_cookieText hne hname pairs
  have hextract : extractCookie cookieUnescape headers name =
      (((behind (name ++ ['=']) (cookieText pairs)).map fun text => text.takeWhile (· ≠ ';')).map
        cookieUnescape).getD [] := by
    rw [extractCookie, hheader]
    dsimp only
    cases behind (name ++ ['=']) (cookieText pairs) <;> rfl
  rw [hextract, hsearch]
  cases shadow name pairs with
  | none =>
    unfold namedCookie
    cases pairs.find? fun pair => pair.name = name <;> simp
  | some text => simp

theorem cookie_found_second : extractCookie id
    [(['C', 'o', 'o', 'k', 'i', 'e'], ['a', 'b', '=', '1', ';', ' ', 'b', 'b', '=', '2'])] ['b', 'b'] =
      ['2'] := by
  have hiff := cookie_found_iff id ['b', 'b']
    [⟨0, ['a', 'b'], ['1'], by simp [isToken], by simp⟩, ⟨1, ['b', 'b'], ['2'], by simp [isToken], by simp⟩]
    [(['C', 'o', 'o', 'k', 'i', 'e'], ['a', 'b', '=', '1', ';', ' ', 'b', 'b', '=', '2'])]
    (by simp) (by simp [isToken]) rfl
  exact hiff.mpr fun text h => by cases h

/-- The pair that ends in the name comes first. -/
theorem cookie_shadowed :
    ∃ pairs : List CookiePair, cookieText pairs = ['x', 'a', '=', '1', ';', ' ', 'a', '=', '2'] ∧
      extractCookie id [(['C', 'o', 'o', 'k', 'i', 'e'], cookieText pairs)] ['a'] = ['1'] ∧
      namedCookie id pairs ['a'] = ['2'] :=
  ⟨[⟨0, ['x', 'a'], ['1'], by simp [isToken], by simp⟩, ⟨1, ['a'], ['2'], by simp [isToken], by simp⟩],
    rfl, rfl, rfl⟩

end Vibeshine.HttpAuth
