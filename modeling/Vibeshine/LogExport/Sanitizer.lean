import Vibeshine.Library.Intervals
import Vibeshine.LogExport.Archive
import Std.Data.String.ToNat

/-! # Sanitizing the support logs

`export_log_sanitizer_t` replaces what its patterns find by placeholders. The regular
expressions are those of a library; each captures at least one byte.
-/

namespace Vibeshine.LogExport

open Library List

inductive Kind where
  | user
  | ip
  | mac
  | email
  deriving DecidableEq

def Kind.text : Kind → String
  | .user => "USER"
  | .ip => "IP"
  | .mac => "MAC"
  | .email => "EMAIL"

inductive PatternName where
  | userHomeWindows
  | userHomePosix
  | userFieldQuoted
  | userFieldBare
  | ipv4Pattern
  | ipv6Candidate
  | macPattern
  | emailPattern
  deriving DecidableEq

structure Pattern where
  name : PatternName
  priority : Nat
  kind : Kind
  validateIpv6 : Bool := false
  preserveServiceIdentity : Bool := false

/-- The calls of `add_matches`, in order. -/
def patterns : List Pattern :=
  [{ name := .userHomeWindows, priority := 10, kind := .user },
    { name := .userHomePosix, priority := 10, kind := .user },
    { name := .userFieldQuoted, priority := 0, kind := .user, preserveServiceIdentity := true },
    { name := .userFieldBare, priority := 0, kind := .user, preserveServiceIdentity := true },
    { name := .ipv4Pattern, priority := 20, kind := .ip },
    { name := .ipv6Candidate, priority := 20, kind := .ip, validateIpv6 := true },
    { name := .macPattern, priority := 30, kind := .mac },
    { name := .emailPattern, priority := 40, kind := .email }]

/-- The regular expressions, as where in a text their next capture from a position on begins and
ends, and the parser of addresses. -/
structure Engine where
  search : PatternName → Bytes → Nat → Option (Nat × Nat)
  makeAddressV6 : Bytes → Bool
  captures : ∀ name input position first last, search name input position = some (first, last) →
    position ≤ first ∧ first < last ∧ last ≤ input.length

def slice (input : Bytes) (first last : Nat) : Bytes := (input.take last).drop first

/-- `std::tolower` of a byte. -/
def toLower (ch : UInt8) : UInt8 := if 65 ≤ ch ∧ ch ≤ 90 then ch + 32 else ch

def isSpace (ch : UInt8) : Bool := ch = 32 || (9 ≤ ch && ch ≤ 13)

def bytesOf (text : String) : Bytes := text.toList.map fun ch => ch.toNat.toUInt8

variable (value : Bytes)

def isServiceIdentity : Bool :=
  let normalized := (value.filter fun ch => !isSpace ch).map toLower
  ["system", "localsystem", "root", "daemon", "unknown", "nobody", "networkservice", "localservice",
    "www-data"].any fun identity => normalized == bytesOf identity

/-- The value has a `::`. -/
def hasGap : Bytes → Bool
  | first :: second :: rest => (first = 58 && second = 58) || hasGap (second :: rest)
  | _ => false

def Engine.isIpv6 (engine : Engine) (value : Bytes) : Bool :=
  if value.count 58 < 6 && !hasGap value then false else engine.makeAddressV6 value

/-- A match that is recorded. -/
structure Found where
  first : Nat
  last : Nat
  priority : Nat
  kind : Kind
  value : Bytes
  deriving DecidableEq

/-- The loop of `add_matches`: what is recorded from a position on. -/
def addMatches (engine : Engine) (input : Bytes) (pattern : Pattern) (searchStart : Nat) :
    List Found :=
  match _hsearch : engine.search pattern.name input searchStart with
  | none => []
  | some (first, last) =>
    let value := slice input first last
    let following := addMatches engine input pattern (first + max (last - first) 1)
    if pattern.validateIpv6 && !engine.isIpv6 value then following
    else if pattern.preserveServiceIdentity && pattern.kind = .user && isServiceIdentity value then
      following
    else ⟨first, last, pattern.priority, pattern.kind, value⟩ :: following
  termination_by input.length - searchStart
  decreasing_by
    have := engine.captures _ _ _ _ _ _hsearch
    omega

def found (engine : Engine) (input : Bytes) : List Found :=
  patterns.flatMap fun pattern => addMatches engine input pattern 0

variable (kind : Kind)

def keyFor (value : Bytes) : Bytes :=
  let key := bytesOf kind.text ++ 58 :: value
  if kind = .ip ∨ kind = .mac ∨ kind = .email then key.map toLower else key

structure Sanitizer where
  placeholders : List (Bytes × String) := []
  nextId : Nat := 1

def Sanitizer.placeholder (s : Sanitizer) (kind : Kind) (value : Bytes) : String × Sanitizer :=
  let key := keyFor kind value
  match s.placeholders.lookup key with
  | some text => (text, s)
  | none =>
    let result := "<" ++ kind.text ++ "_" ++ toString s.nextId ++ ">"
    (result, { placeholders := (key, result) :: s.placeholders, nextId := s.nextId + 1 })

structure Replacement where
  first : Nat
  last : Nat
  priority : Nat
  value : String
  deriving DecidableEq

def Sanitizer.replacements (s : Sanitizer) : List Found → List Replacement × Sanitizer
  | [] => ([], s)
  | entry :: rest =>
    let (value, s) := s.placeholder entry.kind entry.value
    let (replacements, s) := s.replacements rest
    (⟨entry.first, entry.last, entry.priority, value⟩ :: replacements, s)

def Replacement.before (a b : Replacement) : Bool :=
  if a.first ≠ b.first then a.first < b.first
  else if a.last ≠ b.last then b.last < a.last
  else a.priority < b.priority

/-- The loop over the sorted replacements. -/
def write (input : Bytes) (cursor : Nat) : List Replacement → Bytes
  | [] => input.drop cursor
  | replacement :: rest =>
    if replacement.first < cursor || input.length < replacement.last then write input cursor rest
    else slice input cursor replacement.first ++ bytesOf replacement.value ++
      write input replacement.last rest

/-- A part of the output: bytes of the input, or what stands for a match. -/
inductive Piece where
  | kept (first last : Nat)
  | replaced (replacement : Replacement)
  deriving DecidableEq

/-- The parts that `write` puts together. -/
def pieces (length cursor : Nat) : List Replacement → List Piece
  | [] => [.kept cursor length]
  | replacement :: rest =>
    if replacement.first < cursor || length < replacement.last then pieces length cursor rest
    else
      .kept cursor replacement.first :: .replaced replacement ::
        pieces length replacement.last rest

def Piece.bytes (input : Bytes) : Piece → Bytes
  | .kept first last => slice input first last
  | .replaced replacement => bytesOf replacement.value

/-- What a text becomes, with the matches and parts that it was made of. -/
structure Sanitized where
  found : List Found
  replacements : List Replacement
  pieces : List Piece
  output : Bytes

def Sanitizer.sanitize (s : Sanitizer) (engine : Engine) (input : Bytes) : Sanitized × Sanitizer :=
  let found := found engine input
  let (replacements, s) := s.replacements found
  let sorted := replacements.mergeSort fun a b => !b.before a
  (⟨found, replacements, pieces input.length 0 sorted, write input 0 sorted⟩, s)

def Sanitizer.sanitizeAll (s : Sanitizer) (engine : Engine) : List Bytes → List Sanitized
  | [] => []
  | input :: texts =>
    let (sanitized, s) := s.sanitize engine input
    sanitized :: s.sanitizeAll engine texts

def spans (found : List Found) : List (Nat × Nat) := found.map fun entry => (entry.first, entry.last)

def InSpan (found : List Found) (position : Nat) : Prop :=
  ∃ span ∈ spans found, Intervals.Covers Prod.fst Prod.snd span position

instance (found : List Found) (position : Nat) : Decidable (InSpan found position) :=
  inferInstanceAs (Decidable (∃ span ∈ spans found, _))

def Piece.positions : Piece → List Nat
  | .kept first last => List.range' first (last - first)
  | .replaced replacement => List.range' replacement.first (replacement.last - replacement.first)

def Piece.keptPositions : Piece → List Nat
  | .kept first last => List.range' first (last - first)
  | .replaced _ => []

/-- Every byte is kept or replaced, once and in order; those of a recorded match are replaced,
by what stands for a match. -/
structure Clean (input : Bytes) (sanitized : Sanitized) : Prop where
  written : sanitized.output = sanitized.pieces.flatMap (Piece.bytes input)
  tiles : sanitized.pieces.flatMap Piece.positions = List.range input.length
  kept : sanitized.pieces.flatMap Piece.keptPositions =
    (List.range input.length).filter fun position => ¬InSpan sanitized.found position
  replaced : ∀ replacement, .replaced replacement ∈ sanitized.pieces →
    replacement ∈ sanitized.replacements

def SameValue (value other : Bytes) : Prop :=
  if kind = .user then value = other else value.map toLower = other.map toLower

/-- The placeholders of a kind. -/
def label (id : Nat) : String := "<" ++ kind.text ++ "_" ++ toString id ++ ">"

/-- The texts of an export are clean, and their matches stand where they were found, under
placeholders of their kinds. -/
structure SanitizeLaw (engine : Engine) (texts : List Bytes) (results : List Sanitized) : Prop where
  clean : List.Forall₂ Clean texts results
  found : results.map Sanitized.found = texts.map (found engine)
  placed : ∀ sanitized ∈ results,
    sanitized.replacements.map (fun r => (r.first, r.last)) = spans sanitized.found
  labelled : ∀ sanitized ∈ results, ∀ pair ∈ sanitized.found.zip sanitized.replacements,
    ∃ id, pair.2.value = label pair.1.kind id
  /-- Two matches have one placeholder exactly if they are of the same kind and value. -/
  placeholders : ∀ first ∈ results, ∀ second ∈ results,
    ∀ pair ∈ first.found.zip first.replacements, ∀ other ∈ second.found.zip second.replacements,
      pair.2.value = other.2.value ↔
        pair.1.kind = other.1.kind ∧ SameValue pair.1.kind pair.1.value other.1.value
  loops : ∀ input ∈ texts, ∀ pattern ∈ patterns,
    (addMatches engine input pattern 0).length ≤ input.length

section

variable {engine : Engine} {input : Bytes}

lemma addMatches_bounds (pattern : Pattern) (searchStart : Nat) :
    (∀ entry ∈ addMatches engine input pattern searchStart,
        entry.first < entry.last ∧ entry.last ≤ input.length) ∧
      (addMatches engine input pattern searchStart).length ≤ input.length - searchStart := by
  induction hleft : input.length - searchStart using Nat.strong_induction_on
    generalizing searchStart with
  | _ left ih =>
    rw [addMatches]
    split
    · exact ⟨fun _ h => absurd h not_mem_nil, zero_le⟩
    next first last hsearch =>
      obtain ⟨hfrom, hproper, hto⟩ := engine.captures _ _ _ _ _ hsearch
      obtain ⟨hrest, hlength⟩ := ih _ (by omega) (first + max (last - first) 1) rfl
      dsimp only
      split
      · exact ⟨hrest, by omega⟩
      · split
        · exact ⟨hrest, by omega⟩
        · refine ⟨forall_mem_cons.mpr ⟨⟨hproper, hto⟩, hrest⟩, ?_⟩
          rw [length_cons]
          omega

lemma spans_bounds : ∀ span ∈ spans (found engine input),
    span.1 < span.2 ∧ span.2 ≤ input.length := by
  intro span hspan
  obtain ⟨entry, hentry, rfl⟩ := mem_map.mp hspan
  obtain ⟨pattern, -, hmatch⟩ := mem_flatMap.mp hentry
  exact (addMatches_bounds pattern 0).1 entry hmatch

end

/-! ## Placeholders -/

lemma keyFor_user : keyFor .user value = [85, 83, 69, 82, 58] ++ value := rfl

lemma keyFor_ip : keyFor .ip value = [105, 112, 58] ++ value.map toLower := rfl

lemma keyFor_mac : keyFor .mac value = [109, 97, 99, 58] ++ value.map toLower := rfl

lemma keyFor_email : keyFor .email value = [101, 109, 97, 105, 108, 58] ++ value.map toLower := rfl

lemma keyFor_inj {kind other : Kind} {value value' : Bytes} :
    keyFor kind value = keyFor other value' ↔ kind = other ∧ SameValue kind value value' := by
  cases kind <;> cases other <;>
    simp [keyFor_user, keyFor_ip, keyFor_mac, keyFor_email, SameValue]

lemma label_injective {kind other : Kind} {id id' : Nat} (h : label kind id = label other id') :
    id = id' := by
  have hlist := congrArg String.toList h
  simp only [label, String.toList_append] at hlist
  have hdigits : Nat.toDigits 10 id = Nat.toDigits 10 id' := by
    cases kind <;> cases other <;> simp [Kind.text] at hlist <;> exact hlist
  calc
    id = Nat.ofDigitChars 10 (Nat.toDigits 10 id) 0 := Nat.ofDigitChars_ten_toDigits.symm
    _ = Nat.ofDigitChars 10 (Nat.toDigits 10 id') 0 := by rw [hdigits]
    _ = id' := Nat.ofDigitChars_ten_toDigits

namespace Sanitizer

variable {s later : Sanitizer} {engine : Engine}

/-- The placeholders given so far, each with a number of its own. -/
structure Inv (s : Sanitizer) : Prop where
  labelled : ∀ key text, s.placeholders.lookup key = some text →
    ∃ kind value id, key = keyFor kind value ∧ text = label kind id ∧ id < s.nextId
  injective : ∀ key key' text, s.placeholders.lookup key = some text →
    s.placeholders.lookup key' = some text → key = key'

def Extends (s later : Sanitizer) : Prop :=
  ∀ key text, s.placeholders.lookup key = some text → later.placeholders.lookup key = some text

lemma placeholder_spec (h : s.Inv) (kind : Kind) (value : Bytes) :
    (s.placeholder kind value).2.Inv ∧ s.Extends (s.placeholder kind value).2 ∧
      (s.placeholder kind value).2.placeholders.lookup (keyFor kind value) =
        some (s.placeholder kind value).1 := by
  unfold placeholder
  dsimp only
  generalize hkeyFor : keyFor kind value = key
  split
  next text hfound => exact ⟨h, fun _ _ h => h, hfound⟩
  next hnew =>
    have hlookup : ∀ other, ((key, label kind s.nextId) :: s.placeholders).lookup other =
        if other = key then some (label kind s.nextId) else s.placeholders.lookup other := by
      intro other
      rw [lookup_cons]
      by_cases hsame : other = key
      · rw [if_pos hsame, beq_iff_eq.mpr hsame]
      · rw [if_neg hsame, beq_eq_false_iff_ne.mpr hsame]
    have hfresh : ∀ other, s.placeholders.lookup other ≠ some (label kind s.nextId) := by
      intro other hother
      obtain ⟨kind', -, id, -, hlabel, hid⟩ := h.labelled other _ hother
      exact absurd (label_injective hlabel) (by omega)
    refine ⟨⟨fun other text hother => ?_, fun other other' text hother hother' => ?_⟩,
      fun other text hother => ?_, ?_⟩
    · change ((key, label kind s.nextId) :: s.placeholders).lookup other = some text at hother
      rw [hlookup] at hother
      split at hother
      next hsame =>
        cases hother
        exact ⟨kind, value, s.nextId, hsame.trans hkeyFor.symm, rfl, Nat.lt_succ_self _⟩
      · obtain ⟨kind', value', id, hkey, hlabel, hid⟩ := h.labelled other text hother
        exact ⟨kind', value', id, hkey, hlabel, Nat.lt_succ_of_lt hid⟩
    · change ((key, label kind s.nextId) :: s.placeholders).lookup other = some text at hother
      change ((key, label kind s.nextId) :: s.placeholders).lookup other' = some text at hother'
      rw [hlookup] at hother hother'
      split at hother
      next hkey =>
        split at hother'
        next hkey' => exact hkey.trans hkey'.symm
        · cases hother
          exact absurd hother' (hfresh other')
      · split at hother'
        · cases hother'
          exact absurd hother (hfresh other)
        · exact h.injective other other' text hother hother'
    · change ((key, label kind s.nextId) :: s.placeholders).lookup other = some text
      rw [hlookup]
      split
      next hkey =>
        rw [hkey, hnew] at hother
        cases hother
      · exact hother
    · change ((key, label kind s.nextId) :: s.placeholders).lookup key = some (label kind s.nextId)
      rw [hlookup, if_pos rfl]

/-- The replacements of matches are where these are, under the placeholders of their keys. -/
structure Placed (s : Sanitizer) (found : List Found) (replacements : List Replacement) : Prop where
  spans : replacements.map (fun r => (r.first, r.last)) = LogExport.spans found
  values : ∀ pair ∈ found.zip replacements,
    s.placeholders.lookup (keyFor pair.1.kind pair.1.value) = some pair.2.value

lemma Placed.mono {found : List Found} {replacements : List Replacement}
    (h : s.Placed found replacements) (hextends : s.Extends later) :
    later.Placed found replacements :=
  ⟨h.spans, fun pair hpair => hextends _ _ (h.values pair hpair)⟩

/-- Each recorded match gets the placeholder of its value. -/
lemma replacements_spec (h : s.Inv) (found : List Found) :
    (s.replacements found).2.Inv ∧ s.Extends (s.replacements found).2 ∧
      (s.replacements found).2.Placed found (s.replacements found).1 := by
  induction found generalizing s with
  | nil => exact ⟨h, fun _ _ h => h, rfl, fun _ h => absurd h not_mem_nil⟩
  | cons entry found ih =>
    obtain ⟨hone, hextends, hvalue⟩ := s.placeholder_spec h entry.kind entry.value
    obtain ⟨hinv, hlater, hplaced⟩ := ih hone
    refine ⟨hinv, fun key text hkey => hlater key text (hextends key text hkey), ?_, ?_⟩
    · exact congrArg ((entry.first, entry.last) :: ·) hplaced.spans
    · exact forall_mem_cons.mpr ⟨hlater _ _ hvalue, hplaced.values⟩

/-- A text as it was sanitized, under the placeholders known in the end. -/
structure Made (final : Sanitizer) (engine : Engine) (input : Bytes) (sanitized : Sanitized) :
    Prop where
  found : sanitized.found = LogExport.found engine input
  placed : final.Placed sanitized.found sanitized.replacements
  pieces : sanitized.pieces = LogExport.pieces input.length 0
    (sanitized.replacements.mergeSort fun a b => !b.before a)
  output : sanitized.output = write input 0
    (sanitized.replacements.mergeSort fun a b => !b.before a)

lemma sanitizeAll_spec (h : s.Inv) (texts : List Bytes) :
    ∃ final : Sanitizer, final.Inv ∧ s.Extends final ∧
      List.Forall₂ (final.Made engine) texts (s.sanitizeAll engine texts) := by
  induction texts generalizing s with
  | nil => exact ⟨s, h, fun _ _ h => h, .nil⟩
  | cons input texts ih =>
    obtain ⟨hone, hextends, hplaced⟩ := s.replacements_spec h (found engine input)
    obtain ⟨final, hfinal, hlater, hrest⟩ := ih hone
    refine ⟨final, hfinal, fun key text hkey => hlater key text (hextends key text hkey), ?_⟩
    exact .cons ⟨rfl, hplaced.mono hlater, rfl, rfl⟩ hrest

lemma inv_init : Inv {} where
  labelled := nofun
  injective := nofun

end Sanitizer

/-! ## Pieces -/

section

variable {length cursor : Nat} {replacements : List Replacement}

def Replacement.span (r : Replacement) : Nat × Nat := (r.first, r.last)

lemma write_eq (input : Bytes) : write input cursor replacements =
      (pieces input.length cursor replacements).flatMap (Piece.bytes input) := by
  induction replacements generalizing cursor with
  | nil => simp [write, pieces, Piece.bytes, slice]
  | cons r rest ih =>
    rw [write, pieces]
    split
    · exact ih
    · simp [Piece.bytes, ih]

lemma replaced_mem {r : Replacement} (h : .replaced r ∈ pieces length cursor replacements) :
    r ∈ replacements := by
  induction replacements generalizing cursor with
  | nil => simp [pieces] at h
  | cons other rest ih =>
    rw [pieces] at h
    split at h
    · exact mem_cons_of_mem _ (ih h)
    · obtain rfl | hrest : r = other ∨ .replaced r ∈ pieces length other.last rest := by simpa using h
      · exact mem_cons_self
      · exact mem_cons_of_mem _ (ih hrest)

/-- Over arranged spans the pieces cover the text once, in order. -/
lemma pieces_spec (hcursor : cursor ≤ length)
    (harranged : Intervals.Arranged Prod.fst Prod.snd (replacements.map Replacement.span))
    (hbounds : ∀ r ∈ replacements, r.last ≤ length) :
    (pieces length cursor replacements).flatMap Piece.positions =
        List.range' cursor (length - cursor) ∧
      (pieces length cursor replacements).flatMap Piece.keptPositions =
        (List.range' cursor (length - cursor)).filter fun position =>
          ¬∃ span ∈ Intervals.choose Prod.fst Prod.snd cursor (replacements.map Replacement.span),
            Intervals.Covers Prod.fst Prod.snd span position := by
  induction replacements generalizing cursor with
  | nil => simp [pieces, Piece.positions, Piece.keptPositions, Intervals.choose]
  | cons r rest ih =>
    obtain ⟨hlast, hbounds⟩ := forall_mem_cons.mp hbounds
    have hproper : r.first < r.last := harranged.proper r.span mem_cons_self
    rw [pieces, map_cons, Intervals.choose]
    by_cases hskip : r.first < cursor
    · rw [if_pos (by simp [hskip]), if_pos (show r.span.1 < cursor from hskip)]
      exact ih hcursor harranged.tail hbounds
    · have htake : ¬(decide (r.first < cursor) || decide (length < r.last)) = true := by
        simp only [Bool.or_eq_true, decide_eq_true_eq]
        omega
      obtain ⟨htiles, hkept⟩ := ih hlast harranged.tail hbounds
      rw [if_neg htake, if_neg (show ¬r.span.1 < cursor from hskip)]
      simp only [flatMap_cons]
      rw [htiles, hkept]
      have hsplit : List.range' cursor (length - cursor) =
          List.range' cursor (r.first - cursor) ++ (List.range' r.first (r.last - r.first) ++
            List.range' r.last (length - r.last)) := by
        have hbehind := @range'_append_1 r.first (r.last - r.first) (length - r.last)
        have hall := @range'_append_1 cursor (r.first - cursor) (length - r.first)
        rw [show r.first + (r.last - r.first) = r.last by omega,
          show r.last - r.first + (length - r.last) = length - r.first by omega] at hbehind
        rw [show cursor + (r.first - cursor) = r.first by omega,
          show r.first - cursor + (length - r.first) = length - cursor by omega] at hall
        rw [hbehind, hall]
      refine ⟨hsplit.symm, ?_⟩
      have hchosen := @Intervals.cursor_le _ _ _ _ r.last harranged.tail
      rw [hsplit, filter_append, filter_append]
      congr 1
      · refine (filter_eq_self.mpr fun position hposition => ?_).symm
        have hrange := mem_range'_1.mp hposition
        refine decide_eq_true ?_
        rintro ⟨span, hspan, hfrom, hto⟩
        obtain rfl | hspan := mem_cons.mp hspan
        · have : r.first ≤ position := hfrom
          omega
        · have := hchosen span hspan
          omega
      · have hnone : (List.range' r.first (r.last - r.first)).filter (fun position =>
            decide ¬∃ span ∈ r.span :: Intervals.choose Prod.fst Prod.snd r.span.2
                (rest.map Replacement.span), Intervals.Covers Prod.fst Prod.snd span position) =
            [] := by
          refine filter_eq_nil_iff.mpr fun position hposition => ?_
          have hrange := mem_range'_1.mp hposition
          rw [decide_eq_true_eq, not_not]
          exact ⟨r.span, mem_cons_self, hrange.1, show position < r.last by omega⟩
        rw [hnone, nil_append]
        refine filter_congr fun position hposition => ?_
        have hrange := mem_range'_1.mp hposition
        refine decide_eq_decide.mpr (not_congr ⟨?_, ?_⟩)
        · rintro ⟨span, hspan, hcovers⟩
          exact ⟨span, mem_cons_of_mem _ hspan, hcovers⟩
        · rintro ⟨span, hspan, hcovers⟩
          obtain rfl | hspan := mem_cons.mp hspan
          · have : position < r.last := hcovers.2
            omega
          · exact ⟨span, hspan, hcovers⟩

end

lemma not_before_iff {a b : Replacement} :
    (!b.before a) = true ↔ a.first < b.first ∨ (a.first = b.first ∧
      (b.last < a.last ∨ (a.last = b.last ∧ a.priority ≤ b.priority))) := by
  rw [Bool.not_eq_true', Replacement.before]
  split
  · rw [decide_eq_false_iff_not]
    omega
  · split
    · rw [decide_eq_false_iff_not]
      omega
    · rw [decide_eq_false_iff_not]
      omega

lemma sorted_spans (replacements : List Replacement) :
    ((replacements.mergeSort fun a b => !b.before a).map Replacement.span).Pairwise
      fun first second => first.1 ≤ second.1 ∧ (first.1 = second.1 → second.2 ≤ first.2) := by
  have hsorted := @pairwise_mergeSort _ (fun a b : Replacement => !b.before a)
    (fun a b c hab hbc => by
      rw [not_before_iff] at *
      omega)
    (fun a b => by
      rw [Bool.or_eq_true, not_before_iff, not_before_iff]
      omega)
    replacements
  refine pairwise_map.mpr (hsorted.imp fun {a b} hle => ?_)
  rw [not_before_iff] at hle
  change a.first ≤ b.first ∧ (a.first = b.first → b.last ≤ a.last)
  omega

/-- A text is clean exactly where its recorded spans tile. -/
lemma clean_iff_tiled {final : Sanitizer} {engine : Engine} {input : Bytes} {sanitized : Sanitized}
    (h : final.Made engine input sanitized) :
    Clean input sanitized ↔ Intervals.Tiled Prod.fst Prod.snd (spans (found engine input)) := by
  have hspans : sanitized.replacements.map Replacement.span = spans (found engine input) :=
    h.found ▸ h.placed.spans
  have hperm := mergeSort_perm sanitized.replacements fun a b => !b.before a
  have hsorted := sorted_spans sanitized.replacements
  have hpieces := h.pieces
  have hwritten : sanitized.output = sanitized.pieces.flatMap (Piece.bytes input) := by
    rw [h.output, h.pieces, write_eq]
  generalize sanitized.replacements.mergeSort (fun a b => !b.before a) = sorted at *
  have hmem : ∀ span, span ∈ sorted.map Replacement.span ↔ span ∈ spans (found engine input) :=
    fun span => by rw [(hperm.map _).mem_iff, hspans]
  have hbounds := @spans_bounds engine input
  have harranged : Intervals.Arranged Prod.fst Prod.snd (sorted.map Replacement.span) :=
    ⟨fun span hspan => (hbounds span ((hmem span).mp hspan)).1, hsorted⟩
  obtain ⟨htiles, hkept⟩ := pieces_spec (Nat.zero_le input.length) harranged fun r hr =>
    (hbounds r.span ((hmem r.span).mp (mem_map_of_mem hr))).2
  rw [← Intervals.tiled_congr hmem, ← Intervals.covered_iff_tiled harranged]
  rw [Nat.sub_zero, ← range_eq_range', ← hpieces] at htiles hkept
  have hchoose : Intervals.choose Prod.fst Prod.snd 0 (sorted.map Replacement.span) ⊆
      sorted.map Replacement.span := Intervals.choose_subset 0 _
  constructor
  · intro hclean span hspan position hcovers
    have hin : InSpan sanitized.found position :=
      ⟨span, by rw [h.found]; exact (hmem span).mp hspan, hcovers⟩
    have hposition : position ∈ List.range input.length :=
      mem_range.mpr (lt_of_lt_of_le hcovers.2 (hbounds span ((hmem span).mp hspan)).2)
    have hout : position ∉ sanitized.pieces.flatMap Piece.keptPositions := by
      rw [hclean.kept, mem_filter]
      exact fun hkeep => of_decide_eq_true hkeep.2 hin
    rw [hkept, mem_filter] at hout
    by_contra hnone
    exact hout ⟨hposition, decide_eq_true hnone⟩
  · intro hcovered
    refine ⟨hwritten, htiles, hkept.trans (filter_congr fun position _ => ?_),
      fun r hr => hperm.mem_iff.mp (replaced_mem (hpieces ▸ hr))⟩
    refine decide_eq_decide.mpr (not_congr ⟨?_, ?_⟩)
    · rintro ⟨span, hspan, hcovers⟩
      exact ⟨span, by rw [h.found]; exact (hmem span).mp (hchoose hspan), hcovers⟩
    · rintro ⟨span, hspan, hcovers⟩
      rw [h.found] at hspan
      exact hcovered span ((hmem span).mpr hspan) position hcovers

/-! ## The export -/

lemma sanitized_placeholders {final : Sanitizer} (hfinal : final.Inv) {results : List Sanitized}
    (hplaced : ∀ sanitized ∈ results, final.Placed sanitized.found sanitized.replacements) :
    ∀ first ∈ results, ∀ second ∈ results,
      ∀ pair ∈ first.found.zip first.replacements, ∀ other ∈ second.found.zip second.replacements,
        pair.2.value = other.2.value ↔
          pair.1.kind = other.1.kind ∧ SameValue pair.1.kind pair.1.value other.1.value := by
  intro first hfirst second hsecond pair hpair other hother
  have hone := (hplaced first hfirst).values pair hpair
  have htwo := (hplaced second hsecond).values other hother
  rw [← keyFor_inj]
  constructor
  · intro hsame
    rw [← hsame] at htwo
    exact hfinal.injective _ _ _ hone htwo
  · intro hsame
    rw [hsame] at hone
    exact Option.some.inj (hone.symm.trans htwo)

/-- The texts of an export are sanitized exactly if in each of them another match begins where
one reaches over the end of a leading one. -/
theorem sanitize_law_iff (engine : Engine) (texts : List Bytes) :
    SanitizeLaw engine texts (Sanitizer.sanitizeAll {} engine texts) ↔
      ∀ input ∈ texts, Intervals.Tiled Prod.fst Prod.snd (spans (found engine input)) := by
  obtain ⟨final, hfinal, -, hmade⟩ :=
    @Sanitizer.sanitizeAll_spec _ engine Sanitizer.inv_init texts
  have hclean : List.Forall₂ Clean texts (Sanitizer.sanitizeAll {} engine texts) ↔
      ∀ input ∈ texts, Intervals.Tiled Prod.fst Prod.snd (spans (found engine input)) := by
    generalize Sanitizer.sanitizeAll {} engine texts = results at hmade
    induction hmade with
    | nil => simp
    | cons hone _ ih => rw [forall₂_cons, forall_mem_cons, ih, clean_iff_tiled hone]
  have hfound : (Sanitizer.sanitizeAll {} engine texts).map Sanitized.found =
      texts.map (found engine) := by
    clear hclean
    generalize Sanitizer.sanitizeAll {} engine texts = results at hmade
    induction hmade with
    | nil => rfl
    | cons hone _ ih => rw [map_cons, map_cons, hone.found, ih]
  have hplaced : ∀ sanitized ∈ Sanitizer.sanitizeAll {} engine texts,
      final.Placed sanitized.found sanitized.replacements := by
    clear hclean hfound
    generalize Sanitizer.sanitizeAll {} engine texts = results at hmade
    induction hmade with
    | nil => exact fun _ h => absurd h not_mem_nil
    | cons hone _ ih => exact forall_mem_cons.mpr ⟨hone.placed, ih⟩
  rw [← hclean]
  refine ⟨SanitizeLaw.clean, fun hclean => ⟨hclean, hfound, fun _ hmem => (hplaced _ hmem).spans, ?_,
    sanitized_placeholders hfinal hplaced,
    fun input _ pattern _ => (addMatches_bounds pattern 0).2⟩⟩
  intro sanitized hmem pair hpair
  obtain ⟨kind, value, id, hkey, hlabel, -⟩ :=
    hfinal.labelled _ _ ((hplaced sanitized hmem).values pair hpair)
  exact ⟨id, by rw [hlabel, (keyFor_inj.mp hkey).1]⟩

def homePath : Bytes := bytesOf "C:\\Users\\john doe/a@example.com"

def homeEngine : Engine where
  search name input position :=
    if input = homePath ∧ position = 0 then
      match name with
      | .userHomeWindows => some (9, 17)
      | .ipv6Candidate => some (0, 2)
      | .emailPattern => some (14, 31)
      | _ => none
    else none
  makeAddressV6 _ := false
  captures name input position first last h := by
    split at h
    next hat =>
      obtain ⟨rfl, rfl⟩ := hat
      cases name <;> cases h <;> decide
    · cases h

lemma addMatches_none {engine : Engine} {input : Bytes} {pattern : Pattern} {searchStart : Nat}
    (h : engine.search pattern.name input searchStart = none) :
    addMatches engine input pattern searchStart = [] := by
  rw [addMatches]
  split
  · rfl
  next hsome => cases h.symm.trans hsome

lemma addMatches_some {engine : Engine} {input : Bytes} {pattern : Pattern}
    {searchStart first last : Nat}
    (h : engine.search pattern.name input searchStart = some (first, last)) :
    addMatches engine input pattern searchStart = let value := slice input first last
      let following := addMatches engine input pattern (first + max (last - first) 1)
      if pattern.validateIpv6 && !engine.isIpv6 value then following
      else if pattern.preserveServiceIdentity && pattern.kind = .user && isServiceIdentity value then
        following
      else ⟨first, last, pattern.priority, pattern.kind, value⟩ :: following := by
  rw [addMatches]
  split
  next hnone => cases h.symm.trans hnone
  next hsome =>
    cases h.symm.trans hsome
    rfl

lemma home_search (name : PatternName) : homeEngine.search name homePath 0 = match name with
    | .userHomeWindows => some (9, 17)
    | .ipv6Candidate => some (0, 2)
    | .emailPattern => some (14, 31)
    | _ => none := by
  have hat : homePath = homePath ∧ (0 : Nat) = 0 := ⟨rfl, rfl⟩
  unfold homeEngine
  dsimp only
  rw [if_pos hat]

lemma home_search_behind (name : PatternName) {position : Nat} (h : position ≠ 0) :
    homeEngine.search name homePath position = none := by
  unfold homeEngine
  dsimp only
  rw [if_neg fun hat => h hat.2]

lemma home_found : found homeEngine homePath =
    [⟨9, 17, 10, .user, bytesOf "john doe"⟩, ⟨14, 31, 40, .email, bytesOf "doe/a@example.com"⟩] := by
  have hbehind : ∀ (pattern : Pattern) (position : Nat), position ≠ 0 →
      addMatches homeEngine homePath pattern position = [] := fun pattern position h =>
    addMatches_none (home_search_behind pattern.name h)
  unfold found patterns
  simp only [flatMap_cons, flatMap_nil]
  rw [@addMatches_some _ _ { name := .userHomeWindows, priority := 10, kind := .user } 0 9 17
      (home_search .userHomeWindows), addMatches_none (home_search .userHomePosix),
    addMatches_none (home_search .userFieldQuoted), addMatches_none (home_search .userFieldBare),
    addMatches_none (home_search .ipv4Pattern), @addMatches_some _ _
      { name := .ipv6Candidate, priority := 20, kind := .ip, validateIpv6 := true } 0 0 2
      (home_search .ipv6Candidate),
    addMatches_none (home_search .macPattern),
    @addMatches_some _ _ { name := .emailPattern, priority := 40, kind := .email } 0 14 31
      (home_search .emailPattern)]
  simp only [hbehind _ _ (show 0 + max (2 - 0) 1 ≠ 0 by decide),
    hbehind _ _ (show 14 + max (31 - 14) 1 ≠ 0 by decide)]
  decide +kernel

lemma home_sanitized : Sanitizer.sanitizeAll {} homeEngine [homePath] =
    [{ found := found homeEngine homePath
       replacements := [⟨9, 17, 10, "<USER_1>"⟩, ⟨14, 31, 40, "<EMAIL_2>"⟩]
       pieces := [.kept 0 9, .replaced ⟨9, 17, 10, "<USER_1>"⟩, .kept 17 31]
       output := bytesOf "C:\\Users\\<USER_1>/a@example.com" }] := by
  have hreplacements : (Sanitizer.replacements {} (found homeEngine homePath)).1 =
      [⟨9, 17, 10, "<USER_1>"⟩, ⟨14, 31, 40, "<EMAIL_2>"⟩] := by
    rw [home_found]
    decide +kernel
  have hsorted : List.mergeSort [(⟨9, 17, 10, "<USER_1>"⟩ : Replacement), ⟨14, 31, 40, "<EMAIL_2>"⟩]
      (fun a b => !b.before a) = [⟨9, 17, 10, "<USER_1>"⟩, ⟨14, 31, 40, "<EMAIL_2>"⟩] :=
    mergeSort_of_pairwise (by decide)
  have hpieces : pieces homePath.length 0
      [(⟨9, 17, 10, "<USER_1>"⟩ : Replacement), ⟨14, 31, 40, "<EMAIL_2>"⟩] =
      [.kept 0 9, .replaced ⟨9, 17, 10, "<USER_1>"⟩, .kept 17 31] := by
    decide +kernel
  have hwritten : write homePath 0
      [(⟨9, 17, 10, "<USER_1>"⟩ : Replacement), ⟨14, 31, 40, "<EMAIL_2>"⟩] =
      bytesOf "C:\\Users\\<USER_1>/a@example.com" := by
    decide +kernel
  simp only [Sanitizer.sanitizeAll, Sanitizer.sanitize, hreplacements, hsorted, hpieces, hwritten]

/-- The match of the address begins in that of the name, so that its end is kept. -/
theorem address_kept :
    (Sanitizer.sanitizeAll {} homeEngine [homePath]).map Sanitized.output = [bytesOf "C:\\Users\\<USER_1>/a@example.com"] ∧
      ¬SanitizeLaw homeEngine [homePath] (Sanitizer.sanitizeAll {} homeEngine [homePath]) := by
  rw [home_sanitized]
  constructor
  · rfl
  · intro hlaw
    obtain _ | ⟨hclean, -⟩ := hlaw.clean
    have hkept := hclean.kept
    rw [home_found] at hkept
    exact absurd hkept (by decide +kernel)

end Vibeshine.LogExport
