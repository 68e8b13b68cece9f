import Vibeshine.Library.Json

/-! # The grammar of JSON

A text spells a tree. The tokens are left to a lexicon; brackets, separators and the blanks
around them are described here. A tree has the members of an object in the order of the
text, and a document is a tree whose members are in key order.
-/

namespace Vibeshine.Library

open List

open Json (isBlank Delimited)

/-! ## Trees -/

inductive JsonTree (σ : Type) where
  | scalar (value : σ)
  | string (text : String)
  | array (elements : List (JsonTree σ))
  | object (members : List (String × JsonTree σ))

namespace JsonTree

variable {σ : Type}

mutual

def depth : JsonTree σ → Nat
  | .scalar _ | .string _ => 0
  | .array elements => depthElements elements
  | .object members => depthMembers members

def depthElements : List (JsonTree σ) → Nat
  | [] => 0
  | element :: elements => max (depth element + 1) (depthElements elements)

def depthMembers : List (String × JsonTree σ) → Nat
  | [] => 0
  | (_, value) :: members => max (depth value + 1) (depthMembers members)

end

mutual

def Distinct : JsonTree σ → Prop
  | .scalar _ | .string _ => True
  | .array elements => DistinctElements elements
  | .object members => (members.map (·.1)).Nodup ∧ DistinctMembers members

def DistinctElements : List (JsonTree σ) → Prop
  | [] => True
  | element :: elements => Distinct element ∧ DistinctElements elements

def DistinctMembers : List (String × JsonTree σ) → Prop
  | [] => True
  | (_, value) :: members => Distinct value ∧ DistinctMembers members

end

mutual

def document : JsonTree σ → JsonTree σ
  | .scalar value => .scalar value
  | .string text => .string text
  | .array elements => .array (documentElements elements)
  | .object members => .object (KeyMap.assignAll (documentMembers members))

def documentElements : List (JsonTree σ) → List (JsonTree σ)
  | [] => []
  | element :: elements => document element :: documentElements elements

def documentMembers : List (String × JsonTree σ) → List (String × JsonTree σ)
  | [] => []
  | (key, value) :: members => (key, document value) :: documentMembers members

end

mutual

def decidableDistinct : (tree : JsonTree σ) → Decidable tree.Distinct
  | .scalar _ | .string _ => .isTrue trivial
  | .array elements => decidableDistinctElements elements
  | .object members =>
    have := decidableDistinctMembers members
    inferInstanceAs (Decidable (_ ∧ _))

def decidableDistinctElements : (elements : List (JsonTree σ)) → Decidable (DistinctElements elements)
  | [] => .isTrue trivial
  | element :: elements =>
    have := decidableDistinct element
    have := decidableDistinctElements elements
    inferInstanceAs (Decidable (_ ∧ _))

def decidableDistinctMembers :
    (members : List (String × JsonTree σ)) → Decidable (DistinctMembers members)
  | [] => .isTrue trivial
  | (_, value) :: members =>
    have := decidableDistinct value
    have := decidableDistinctMembers members
    inferInstanceAs (Decidable (_ ∧ _))

end

instance (tree : JsonTree σ) : Decidable tree.Distinct := decidableDistinct tree

def member? (tree : JsonTree σ) (key : String) : Option (JsonTree σ) :=
  match tree with
  | .object members => KeyMap.get? key members
  | .scalar _ | .string _ | .array _ => none

def set (tree : JsonTree σ) (key : String) (value : JsonTree σ) : JsonTree σ :=
  match tree with
  | .object members => .object (KeyMap.assign key value members)
  | .scalar _ | .string _ | .array _ => tree

/-! ### Elements and members -/

lemma documentElements_eq (elements : List (JsonTree σ)) :
    documentElements elements = elements.map document := by
  induction elements with
  | nil => rfl
  | cons element elements ih => rw [documentElements, ih, map_cons]

lemma documentMembers_eq (members : List (String × JsonTree σ)) :
    documentMembers members = members.map fun member => (member.1, member.2.document) := by
  induction members with
  | nil => rfl
  | cons member members ih =>
    obtain ⟨key, value⟩ := member
    rw [documentMembers, ih, map_cons]

lemma depthElements_le {elements : List (JsonTree σ)} {limit : Nat} :
    depthElements elements ≤ limit ↔ ∀ element ∈ elements, element.depth + 1 ≤ limit := by
  induction elements with
  | nil => simp [depthElements]
  | cons element elements ih => simp only [depthElements, max_le_iff, ih, forall_mem_cons]

lemma depthMembers_le {members : List (String × JsonTree σ)} {limit : Nat} :
    depthMembers members ≤ limit ↔ ∀ member ∈ members, member.2.depth + 1 ≤ limit := by
  induction members with
  | nil => simp [depthMembers]
  | cons member members ih =>
    obtain ⟨key, value⟩ := member
    simp only [depthMembers, max_le_iff, ih, forall_mem_cons]

lemma distinctElements_iff {elements : List (JsonTree σ)} :
    DistinctElements elements ↔ ∀ element ∈ elements, element.Distinct := by
  induction elements with
  | nil => simp [DistinctElements]
  | cons element elements ih => simp only [DistinctElements, ih, forall_mem_cons]

lemma distinctMembers_iff {members : List (String × JsonTree σ)} :
    DistinctMembers members ↔ ∀ member ∈ members, member.2.Distinct := by
  induction members with
  | nil => simp [DistinctMembers]
  | cons member members ih =>
    obtain ⟨key, value⟩ := member
    simp only [DistinctMembers, ih, forall_mem_cons]

lemma member?_document {members : List (String × JsonTree σ)}
    (hkeys : (members.map (·.1)).Nodup) (key : String) :
    (document (.object members)).member? key = (KeyMap.get? key members).map document := by
  rw [document, member?, documentMembers_eq, KeyMap.get?_assignAll (by simpa [Function.comp_def] using hkeys)]
  clear hkeys
  induction members with
  | nil => rfl
  | cons member members ih =>
    rw [map_cons, KeyMap.get?_cons, KeyMap.get?_cons, ih]
    split <;> rfl

section

variable {before after : List (String × JsonTree σ)} {key : String} {value value' : JsonTree σ}

/-! ### Another value for a member -/

lemma document_replace (hkeys : ((before ++ (key, value) :: after).map (·.1)).Nodup) :
    document (.object (before ++ (key, value') :: after)) =
      (document (.object (before ++ (key, value) :: after))).set key value'.document := by
  simp only [document, set, documentMembers_eq, map_append, map_cons]
  rw [← KeyMap.assignAll_replace]
  simpa [Function.comp_def] using hkeys

lemma depth_replace (hvalue : value'.depth ≤ value.depth) :
    (object (before ++ (key, value') :: after)).depth ≤
      (object (before ++ (key, value) :: after)).depth := by
  change depthMembers _ ≤ depthMembers _
  rw [depthMembers_le]
  have hold : ∀ member ∈ before ++ (key, value) :: after,
      member.2.depth + 1 ≤ (object (before ++ (key, value) :: after)).depth := depthMembers_le.1 le_rfl
  intro member hmember
  rw [mem_append, mem_cons] at hmember
  obtain hbefore | rfl | hafter := hmember
  · exact hold member (by simp [hbefore])
  · exact (Nat.succ_le_succ hvalue).trans (hold (key, value) (by simp))
  · exact hold member (by simp [hafter])

lemma distinct_replace (h : (object (before ++ (key, value) :: after)).Distinct)
    (hvalue : value'.Distinct) : (object (before ++ (key, value') :: after)).Distinct := by
  obtain ⟨hkeys, hvalues⟩ := h
  refine ⟨by simpa using hkeys, distinctMembers_iff.2 fun member hmember => ?_⟩
  have hvalues := distinctMembers_iff.1 hvalues
  rw [mem_append, mem_cons] at hmember
  obtain hbefore | rfl | hafter := hmember
  · exact hvalues member (by simp [hbefore])
  · exact hvalue
  · exact hvalues member (by simp [hafter])

end

end JsonTree

/-! ## Texts -/

namespace JsonText

def isToken (c : Char) : Bool :=
  c.isAlphanum || c = '-' || c = '+' || c = '.'

def closed : List Char → Bool
  | [] => true
  | ['\\'] => false
  | '\\' :: _ :: text => closed text
  | c :: text => c ≠ '"' && closed text

/-- The tokens: what number or constant a text is, and what a text between quotes stands for. -/
structure Lexicon (σ : Type) where
  scalar : List Char → Option σ
  string : List Char → Option String
  scalar_token : ∀ {token value}, scalar token = some value → token ≠ [] ∧ ∀ c ∈ token, isToken c
  string_closed : ∀ {body text}, string body = some text → closed body

def quote (body : List Char) : List Char := '"' :: (body ++ ['"'])

/-- A part of a container, with the blanks around it. -/
structure Piece (α : Type) where
  before : List Char
  text : List Char
  after : List Char
  value : α

namespace Piece

variable {α : Type}

def spelled (piece : Piece α) : List Char := piece.before ++ (piece.text ++ piece.after)

structure Padded (piece : Piece α) : Prop where
  before : ∀ c ∈ piece.before, isBlank c
  after : ∀ c ∈ piece.after, isBlank c

end Piece

def inside {α : Type} (blank : List Char) : List (Piece α) → List Char
  | [] => blank
  | [piece] => piece.spelled
  | piece :: next :: pieces => piece.spelled ++ ',' :: inside blank (next :: pieces)

section

variable {α : Type} {piece : Piece α} {pieces before after : List (Piece α)} {blank : List Char}

def leading (pieces : List (Piece α)) : List Char :=
  pieces.flatMap fun piece => piece.spelled ++ [',']

def trailing (pieces : List (Piece α)) : List Char :=
  pieces.flatMap fun piece => ',' :: piece.spelled

@[simp] lemma leading_cons : leading (piece :: pieces) = piece.spelled ++ ',' :: leading pieces := by
  simp [leading]

@[simp] lemma leading_nil : leading ([] : List (Piece α)) = [] := rfl

@[simp] lemma trailing_nil : trailing ([] : List (Piece α)) = [] := rfl

@[simp] lemma trailing_cons : trailing (piece :: pieces) = ',' :: (piece.spelled ++ trailing pieces) := by
  simp [trailing]

lemma inside_cons : inside blank (piece :: pieces) = piece.spelled ++ trailing pieces := by
  induction pieces generalizing piece with
  | nil => simp [inside, trailing]
  | cons next pieces ih => rw [inside, ih, trailing_cons]

lemma inside_append :
    inside blank (before ++ piece :: after) = leading before ++ (piece.spelled ++ trailing after) := by
  induction before with
  | nil => exact inside_cons
  | cons first before ih =>
    have htrailing : trailing (before ++ piece :: after) = ',' :: inside blank (before ++ piece :: after) := by
      cases before with
      | nil => rw [nil_append, trailing_cons, inside_cons]
      | cons next before => rw [cons_append, trailing_cons, inside_cons]
    rw [cons_append, inside_cons, htrailing, ih, leading_cons, append_assoc, cons_append]

lemma length_le_leading (pieces : List (Piece α)) : pieces.length ≤ (leading pieces).length := by
  induction pieces with
  | nil => exact le_rfl
  | cons piece pieces ih =>
    simp only [leading_cons, length_append, length_cons]
    omega

lemma length_le_trailing (pieces : List (Piece α)) : pieces.length ≤ (trailing pieces).length := by
  induction pieces with
  | nil => exact le_rfl
  | cons piece pieces ih =>
    simp only [trailing_cons, length_cons, length_append]
    omega

lemma length_le_inside (blank : List Char) (pieces : List (Piece α)) :
    pieces.length ≤ (inside blank pieces).length + 1 := by
  cases pieces with
  | nil => exact zero_le
  | cons piece pieces =>
    have := length_le_trailing pieces
    simp only [inside_cons, length_cons, length_append]
    omega

end

/-- A member of an object: a key, a colon and a value, with blanks between them. -/
structure Member (σ : Type) where
  before : List Char
  key : List Char
  gap : List Char
  lead : List Char
  text : List Char
  after : List Char
  name : String
  value : JsonTree σ

namespace Member

variable {σ : Type}

def piece (member : Member σ) : Piece (String × JsonTree σ) where
  before := member.before
  text := quote member.key ++ (member.gap ++ ':' :: (member.lead ++ member.text))
  after := member.after
  value := (member.name, member.value)

structure Padded (member : Member σ) : Prop where
  piece : member.piece.Padded
  gap : ∀ c ∈ member.gap, isBlank c
  lead : ∀ c ∈ member.lead, isBlank c

def opening (member : Member σ) : List Char :=
  member.before ++ (quote member.key ++ (member.gap ++ ':' :: member.lead))

lemma spelled_piece (member : Member σ) :
    member.piece.spelled = member.opening ++ (member.text ++ member.after) := by
  simp [Piece.spelled, piece, opening]

end Member

variable {σ : Type}

inductive Spells (lex : Lexicon σ) : List Char → JsonTree σ → Prop where
  | scalar {token : List Char} {value : σ} (htoken : lex.scalar token = some value) :
      Spells lex token (.scalar value)
  | string {body : List Char} {text : String} (hbody : lex.string body = some text) :
      Spells lex (quote body) (.string text)
  | array {blank : List Char} {pieces : List (Piece (JsonTree σ))}
      (hblank : ∀ c ∈ blank, isBlank c) (hpadded : ∀ piece ∈ pieces, piece.Padded)
      (hpieces : ∀ piece ∈ pieces, Spells lex piece.text piece.value) :
      Spells lex ('[' :: (inside blank pieces ++ [']'])) (.array (pieces.map (·.value)))
  | object {blank : List Char} {members : List (Member σ)}
      (hblank : ∀ c ∈ blank, isBlank c) (hpadded : ∀ member ∈ members, member.Padded)
      (hkeys : ∀ member ∈ members, lex.string member.key = some member.name)
      (hmembers : ∀ member ∈ members, Spells lex member.text member.value) :
      Spells lex ('{' :: (inside blank (members.map Member.piece) ++ ['}']))
        (.object (members.map fun member => (member.name, member.value)))

/-- A member whose key and value are spelled out. -/
structure Member.Spelled (lex : Lexicon σ) (member : Member σ) : Prop where
  padded : member.Padded
  key : lex.string member.key = some member.name
  value : Spells lex member.text member.value

def Reads (lex : Lexicon σ) (mark text : List Char) (tree : JsonTree σ) : Prop :=
  ∃ lead before core after, (lead = [] ∨ lead = mark) ∧ (∀ c ∈ before, isBlank c) ∧
    (∀ c ∈ after, isBlank c) ∧ Spells lex core tree ∧ text = lead ++ (before ++ (core ++ after))

/-! ## Objects around a value -/

/-- An object around the value of one of its members. The text and the value of that member
are not looked at. -/
structure Frame (σ : Type) where
  blank : List Char
  before : List (Member σ)
  member : Member σ
  after : List (Member σ)

namespace Frame

def fill (frame : Frame σ) (text : List Char) (value : JsonTree σ) : List (Member σ) :=
  frame.before ++ { frame.member with text, value } :: frame.after

def opening (frame : Frame σ) : List Char :=
  '{' :: (leading (frame.before.map Member.piece) ++ frame.member.opening)

def closing (frame : Frame σ) : List Char :=
  frame.member.after ++ (trailing (frame.after.map Member.piece) ++ ['}'])

def tree (frame : Frame σ) (value : JsonTree σ) : JsonTree σ :=
  .object ((frame.before.map fun member => (member.name, member.value)) ++
    (frame.member.name, value) :: frame.after.map fun member => (member.name, member.value))

structure Valid (lex : Lexicon σ) (frame : Frame σ) : Prop where
  blank : ∀ c ∈ frame.blank, isBlank c
  padded : frame.member.Padded
  key : lex.string frame.member.key = some frame.member.name
  others : ∀ other ∈ frame.before ++ frame.after, other.Spelled lex
  names : ∀ other ∈ frame.before, other.name ≠ frame.member.name

variable {lex : Lexicon σ} {frame : Frame σ} {text : List Char} {value value' : JsonTree σ}

lemma inside_fill (frame : Frame σ) (text : List Char) (value : JsonTree σ) :
    '{' :: (inside frame.blank ((frame.fill text value).map Member.piece) ++ ['}']) =
    frame.opening ++ (text ++ frame.closing) := by
  rw [fill, map_append, map_cons, inside_append, Member.spelled_piece]
  simp [opening, closing, Member.opening]

lemma Valid.fill (h : frame.Valid lex) (htext : Spells lex text value) :
    ∀ member ∈ frame.fill text value, member.Spelled lex := by
  intro member hmember
  rw [Frame.fill, mem_append, mem_cons] at hmember
  obtain hbefore | rfl | hafter := hmember
  · exact h.others member (mem_append_left _ hbefore)
  · exact ⟨⟨⟨h.padded.piece.before, h.padded.piece.after⟩, h.padded.gap, h.padded.lead⟩, h.key, htext⟩
  · exact h.others member (mem_append_right _ hafter)

lemma Valid.spells (h : frame.Valid lex) (htext : Spells lex text value) :
    Spells lex (frame.opening ++ (text ++ frame.closing)) (frame.tree value) := by
  have hmembers := h.fill htext
  have htree : frame.tree value =
      .object ((frame.fill text value).map fun member => (member.name, member.value)) := by
    simp [tree, Frame.fill]
  rw [← inside_fill frame text value, htree]
  exact .object h.blank (fun member hmember => (hmembers member hmember).padded)
    (fun member hmember => (hmembers member hmember).key)
    fun member hmember => (hmembers member hmember).value

lemma exists_member {members : List (Member σ)} {key : String}
    (hget : KeyMap.get? key (members.map fun member => (member.name, member.value)) = some value) :
    ∃ before member after, members = before ++ member :: after ∧ member.name = key ∧
      member.value = value ∧ ∀ other ∈ before, other.name ≠ key := by
  induction members with
  | nil => simp at hget
  | cons first members ih =>
    rw [map_cons, KeyMap.get?_cons] at hget
    split at hget
    · rename_i hname
      exact ⟨[], first, members, rfl, hname, Option.some.inj hget, by simp⟩
    · rename_i hname
      obtain ⟨before, member, after, rfl, hkey, hvalue, hbefore⟩ := ih hget
      refine ⟨first :: before, member, after, rfl, hkey, hvalue, fun other hother => ?_⟩
      obtain rfl | hother := mem_cons.1 hother
      · exact hname
      · exact hbefore other hother

lemma of_member {members : List (String × JsonTree σ)} {key : String}
    (h : Spells lex text (.object members)) (hget : KeyMap.get? key members = some value) :
    ∃ (frame : Frame σ) (inner : List Char), frame.Valid lex ∧ frame.member.name = key ∧
      Spells lex inner value ∧ text = frame.opening ++ (inner ++ frame.closing) ∧
      .object members = frame.tree value := by
  cases h with
  | @object blank members hblank hpadded hkeys hmembers =>
    obtain ⟨before, member, after, rfl, hname, rfl, hbefore⟩ := exists_member hget
    have hmember : member ∈ before ++ member :: after := by simp
    refine ⟨⟨blank, before, member, after⟩, member.text, ⟨hblank, hpadded member hmember,
      hkeys member hmember, fun other hother => ?_, hname ▸ hbefore⟩, hname, hmembers member hmember,
      inside_fill ⟨blank, before, member, after⟩ member.text member.value, by simp [tree]⟩
    have hin : other ∈ before ++ member :: after := by
      rw [mem_append] at hother
      simp only [mem_append, mem_cons]
      exact hother.imp_right .inr
    exact ⟨hpadded other hin, hkeys other hin, hmembers other hin⟩

lemma Valid.member?_document (h : frame.Valid lex) (hdistinct : (frame.tree value).Distinct) :
    (frame.tree value).document.member? frame.member.name = some value.document := by
  have hbefore : KeyMap.get? frame.member.name
      (frame.before.map fun member => (member.name, member.value)) = none := by
    rw [KeyMap.get?_eq_none, map_map]
    intro hmem
    obtain ⟨other, hother, hname⟩ := mem_map.1 hmem
    exact h.names other hother hname
  rw [tree, JsonTree.member?_document hdistinct.1, KeyMap.get?_append, hbefore, Option.none_or,
    KeyMap.get?_cons, if_pos rfl]
  rfl

/-! ### Another value in place -/

lemma document_tree (h : (frame.tree value).Distinct) :
    (frame.tree value').document = (frame.tree value).document.set frame.member.name value'.document :=
  JsonTree.document_replace h.1

lemma depth_tree (h : value'.depth ≤ value.depth) :
    (frame.tree value').depth ≤ (frame.tree value).depth :=
  JsonTree.depth_replace h

lemma distinct_value (h : (frame.tree value).Distinct) : value.Distinct :=
  JsonTree.distinctMembers_iff.1 h.2 (frame.member.name, value)
    (mem_append_right _ mem_cons_self)

lemma distinct_tree (h : (frame.tree value).Distinct) (hvalue : value'.Distinct) :
    (frame.tree value').Distinct :=
  JsonTree.distinct_replace h hvalue

end Frame

end JsonText

end Vibeshine.Library
