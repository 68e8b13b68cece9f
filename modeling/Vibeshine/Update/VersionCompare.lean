import Mathlib

/-! # Versions and their order

A version is read into its core and its prerelease identifiers, and two versions are compared by
what was read. The comparison is that of a key in a linear order.
-/

namespace Vibeshine.Update

abbrev Text := List Char

/-! ## Reading a version -/

/-- `prerelease_identifier_t`. -/
inductive Identifier where
  | number (value : Int)
  | text (value : Text)
deriving DecidableEq

structure Semver where
  major : Int := 0
  minor : Int := 0
  patch : Int := 0
  prerelease : List Identifier := []
deriving DecidableEq

/-- `std::from_chars` of an `int`, where the whole text is read. -/
def fromChars (value : Text) : Option Int :=
  let digits := if value.head? = some '-' then value.tail else value
  let magnitude : Int := digits.foldl (fun n c => 10 * n + (c.toNat - 48)) 0
  let result := if value.head? = some '-' then -magnitude else magnitude
  if digits ≠ [] ∧ digits.all Char.isDigit ∧ -2 ^ 31 ≤ result ∧ result < 2 ^ 31 then some result
  else none

def parseNonnegativeInteger (value : Text) : Option Int := (fromChars value).filter (0 ≤ ·)

/-- The texts that `std::getline` reads up to each dot. -/
def getlines (text : Text) : List Text :=
  let pieces := text.splitOn '.'
  if pieces.getLast? = some [] then pieces.dropLast else pieces

def parseIdentifier (identifier : Text) : Identifier :=
  if identifier.all Char.isDigit then
    match parseNonnegativeInteger identifier with
    | some value => .number value
    | none => .text identifier
  else .text identifier

def parseSemver (version : Text) : Semver :=
  let value := if version.head? = some 'v' ∨ version.head? = some 'V' then version.tail else version
  let value := value.takeWhile (· ≠ '+')
  let core := getlines (value.takeWhile (· ≠ '-'))
  let identifiers := (getlines ((value.dropWhile (· ≠ '-')).drop 1)).filter (· ≠ [])
  -- A part that is missing is zero, one that is no number voids the version.
  match (core.take 3).mapM parseNonnegativeInteger with
  | some parts =>
    { major := parts.getD 0 0
      minor := parts.getD 1 0
      patch := parts.getD 2 0
      prerelease := identifiers.map parseIdentifier }
  | none => {}

def isStableChannel (version : Semver) : Bool :=
  match version.prerelease with
  | .text channel :: _ => channel.map Char.toLower = ['s', 't', 'a', 'b', 'l', 'e']
  | _ => false

def compareIdentifierLists : List Identifier → List Identifier → Int
  | [], [] => 0
  | [], _ :: _ => -1
  | _ :: _, [] => 1
  | .number left :: lhs, .number right :: rhs =>
    if left ≠ right then if left < right then -1 else 1 else compareIdentifierLists lhs rhs
  | .number _ :: _, .text _ :: _ => -1
  | .text _ :: _, .number _ :: _ => 1
  | .text left :: lhs, .text right :: rhs =>
    if left ≠ right then if left < right then -1 else 1 else compareIdentifierLists lhs rhs

/-- `compare_semver`, from the parsed versions. -/
def compareParsed (left right : Semver) : Int :=
  if left.major ≠ right.major then if left.major < right.major then -1 else 1
  else if left.minor ≠ right.minor then if left.minor < right.minor then -1 else 1
  else if left.patch ≠ right.patch then if left.patch < right.patch then -1 else 1
  else if isStableChannel left ∧ isStableChannel right then
    compareIdentifierLists (left.prerelease.drop 1) (right.prerelease.drop 1)
  else if isStableChannel left ≠ isStableChannel right then if isStableChannel left then 1 else -1
  else if left.prerelease = [] ∧ right.prerelease = [] then 0
  else if left.prerelease = [] then 1
  else if right.prerelease = [] then -1
  else compareIdentifierLists left.prerelease right.prerelease

def compareSemver (lhs rhs : Text) : Int := compareParsed (parseSemver lhs) (parseSemver rhs)

example : compareSemver ['v', '1', '-', 'r', 'c', '+'] ['1'] = -1 := by decide

/-! ## The order of the keys -/

section

variable {α β : Type} [LinearOrder α] [LinearOrder β]

def signum (a b : α) : Int := if a ≠ b then if a < b then -1 else 1 else 0

lemma signum_swap (a b : α) : signum b a = -signum a b := by
  unfold signum
  rcases lt_trichotomy a b with h | h | h
  · simp [h.ne, h.ne', h, h.not_gt]
  · simp [h]
  · simp [h.ne, h.ne', h, h.not_gt]

lemma signum_le {a b : α} : signum a b ≤ 0 ↔ a ≤ b := by
  unfold signum
  rcases lt_trichotomy a b with h | h | h
  · simp [h.ne, h, h.le]
  · simp [h]
  · simp [h.ne', h.not_gt, h]

lemma signum_eq_zero {a b : α} : signum a b = 0 ↔ a = b := by
  unfold signum
  by_cases h : a = b
  · simp [h]
  · by_cases hlt : a < b <;> simp [h, hlt]

lemma signum_lex (a b : α) (x y : β) : signum (toLex (a, x)) (toLex (b, y)) =
    if a ≠ b then if a < b then -1 else 1 else signum x y := by
  unfold signum
  by_cases h : a = b
  · subst h
    simp only [Prod.Lex.toLex_lt_toLex]
    simp
  · simp [Prod.Lex.toLex_lt_toLex, h]

lemma signum_cons (a b : α) (l r : List α) : signum (a :: l) (b :: r) =
    if a ≠ b then if a < b then -1 else 1 else signum l r := by
  unfold signum
  by_cases h : a = b
  · subst h
    simp only [ne_eq, not_true_eq_false, if_false, List.cons.injEq, true_and,
      List.cons_lt_cons_iff, lt_irrefl, false_or]
    congr
  · simp [List.cons_lt_cons_iff, h]

end

namespace Identifier

def key : Identifier → Int ⊕ₗ Text
  | number value => Sum.inlₗ value
  | text value => Sum.inrₗ value

lemma key_injective : Function.Injective key := by
  intro a b h
  cases a <;> cases b <;> simp_all [key]

end Identifier

lemma compareIdentifierLists_eq (lhs rhs : List Identifier) :
    compareIdentifierLists lhs rhs = signum (lhs.map Identifier.key) (rhs.map Identifier.key) := by
  fun_induction compareIdentifierLists lhs rhs with
  | case1 => rfl
  | case2 | case3 => simp [signum]
  | case4 _ _ _ _ h hlt | case5 _ _ _ _ h hlt => simp [signum_cons, Identifier.key, h, hlt]
  | case6 left lhs right rhs h ih => simp_all [signum_cons, Identifier.key]
  | case7 | case8 => simp [signum_cons, Identifier.key]
  | case9 _ _ _ _ h hlt | case10 _ _ _ _ h hlt => simp [signum_cons, Identifier.key, h, hlt]
  | case11 left lhs right rhs h ih => simp_all [signum_cons, Identifier.key]

namespace Semver

def channel (version : Semver) : Nat × List Identifier :=
  if isStableChannel version then (2, version.prerelease.drop 1)
  else if version.prerelease = [] then (1, [])
  else (0, version.prerelease)

def key (version : Semver) : ℤ ×ₗ ℤ ×ₗ ℤ ×ₗ ℕ ×ₗ List (Int ⊕ₗ Text) :=
  toLex (version.major, toLex (version.minor, toLex (version.patch,
    toLex (version.channel.1, version.channel.2.map Identifier.key))))

end Semver

lemma compareParsed_eq (left right : Semver) :
    compareParsed left right = signum left.key right.key := by
  unfold compareParsed Semver.key Semver.channel
  simp only [signum_lex, compareIdentifierLists_eq]
  congr 1
  congr 1
  congr 1
  by_cases hleft : isStableChannel left <;> by_cases hright : isStableChannel right <;>
    by_cases hempty : left.prerelease = [] <;> by_cases hempty' : right.prerelease = [] <;>
    simp [hleft, hright, hempty, hempty', signum]
  congr

/-- What the parsed versions have in common when they compare equal. -/
structure SameRelease (left right : Semver) : Prop where
  core : left.major = right.major ∧ left.minor = right.minor ∧ left.patch = right.patch
  prerelease : left.prerelease = right.prerelease ∨ isStableChannel left ∧ isStableChannel right ∧
    left.prerelease.drop 1 = right.prerelease.drop 1

lemma SameRelease.of_key {left right : Semver} (h : left.key = right.key) :
    SameRelease left right := by
  simp only [Semver.key, toLex_inj, Prod.mk.injEq, List.map_inj_right Identifier.key_injective] at h
  obtain ⟨hmajor, hminor, hpatch, hchannel, hlist⟩ := h
  refine ⟨⟨hmajor, hminor, hpatch⟩, ?_⟩
  unfold Semver.channel at hchannel hlist
  by_cases hleft : isStableChannel left <;> by_cases hright : isStableChannel right <;>
    by_cases hempty : left.prerelease = [] <;> by_cases hempty' : right.prerelease = [] <;>
    simp_all

/-- `compare_semver` is a total preorder of all texts. -/
theorem semver_preorder : (∀ a b, compareSemver b a = -compareSemver a b) ∧
      (∀ a b c, compareSemver a b ≤ 0 → compareSemver b c ≤ 0 → compareSemver a c ≤ 0) ∧
      ∀ a b, compareSemver a b = 0 → SameRelease (parseSemver a) (parseSemver b) := by
  unfold compareSemver
  simp only [compareParsed_eq]
  refine ⟨fun a b => signum_swap _ _, fun a b c => ?_, fun a b h => ?_⟩
  · simp only [signum_le]
    exact le_trans
  · exact SameRelease.of_key (signum_eq_zero.mp h)

lemma parseSemver_takeWhile (text : Text) :
    parseSemver (text.takeWhile (· ≠ '+')) = parseSemver text := by
  cases text with
  | nil => rfl
  | cons first rest =>
    by_cases hplus : first = '+'
    · subst hplus
      rfl
    · by_cases hprefix : first = 'v' ∨ first = 'V' <;>
        simp [parseSemver, hplus, hprefix, List.takeWhile_takeWhile]

/-- Versions are ordered by their keys, in which build metadata has no part. -/
theorem version_order (a b : Text) :
    compareSemver a b = signum (parseSemver a).key (parseSemver b).key ∧
      compareSemver (a.takeWhile (· ≠ '+')) b = compareSemver a b := by
  refine ⟨compareParsed_eq _ _, ?_⟩
  rw [compareSemver, parseSemver_takeWhile, compareSemver]

end Vibeshine.Update
