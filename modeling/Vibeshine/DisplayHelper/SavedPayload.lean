import Vibeshine.DisplayHelper.SnapshotCodec

/-! # What a saved baseline restores

A baseline that the save filter returns is written as text, and the text is asked for a restore
payload. Both ask for modes, but the filter looks at the captured ones only. The text of a baseline
is scanned section by section, the topology and the modes.
-/

namespace Vibeshine.DisplayHelper

open Library Library.Scan List

/-! ## Sections -/

variable {key : String}

lemma findText_quotedText {before : Text} (hskips : Skips (quotedText key) before) (rest : Text) :
    findText (quotedText key) (before ++ (quotedText key ++ rest)) =
      some (quotedText key ++ rest) := by
  rw [hskips, findText_append_self (by simp [quotedText, quoted])]

lemma seek_colon (hkey : ':' ∉ key.toList) (rest : Text) :
    seek (· = ':') (quotedText key ++ ':' :: rest) = ':' :: rest := by
  rw [seek_append ?_, seek_cons (by simp)]
  intro c hc
  have hquote : c = '"' ∨ c ∈ key.toList := by simpa [quotedText, quoted, or_comm] using hc
  rcases hquote with rfl | hmem
  · decide
  · simpa using fun h : c = ':' => hkey (h ▸ hmem)

lemma Skips.member {key name : String} {body : Text} (hkey : '"' ∉ key.toList)
    (hname : '"' ∉ name.toList) (hne : name ≠ key) (hcolon : ':' ∉ key.toList)
    (hbody : Skips (quotedText key) body) : Skips (quotedText key) (Json.member name body) := by
  have hopened : Skips (quotedText key) (quotedText name ++ [':']) :=
    .quoted hkey hname (fun h => hne (String.toList_inj.mp h)) (by decide) hcolon
  have hsplit : Json.member name body = quotedText name ++ [':'] ++ body := by
    simp [Json.member, quotedText]
  rw [hsplit]
  exact hopened.append hbody

/-- The text of a baseline up to its modes. -/
lemma serializeSnapshot_eq (snap : Snapshot) (rotations : LayoutRotationMap) :
    ∃ rest, serializeSnapshot snap rotations =
      ('{' :: "\n  \"snapshot_version\": 2,\n ".toList) ++ ' ' :: (quotedText "topology" ++
        (':' :: ' ' :: (topologyText snap.topology ++ (",\n ".toList ++ ' ' :: (quotedText "modes" ++
          (':' :: ' ' :: (deviceSection (snap.modes.map fun kv => (kv.1, modeText kv.2)) ++
            rest))))))) :=
  ⟨_, by simp [serializeSnapshot, objectText, intercalate_cons_cons, Json.member, quotedText,
    numberText, kSnapshotLayoutVersionLatest]; rfl⟩

variable {topology : ActiveTopology}

lemma findText_topologyText (key : String) (hkey : ']' ∉ quotedText key) (rest : Text) :
    findText (quotedText key) (topologyText topology ++ rest) =
      ((findText (quotedText key) (topologyText topology)).map (· ++ rest)).or
        (findText (quotedText key) rest) := by
  have hne : quotedText key ≠ [] := cons_ne_nil _ _
  obtain ⟨opened, hopened⟩ : ∃ opened, topologyText topology = opened ++ [']'] :=
    ⟨'[' :: _, rfl⟩
  rw [hopened, append_assoc, singleton_append, findText_append_cons hne hkey opened rest,
    findText_append_cons hne hkey opened []]
  cases findText (quotedText key) opened <;> simp [findText, quotedText, quoted]

lemma seek_append_ite {p : Char → Bool} (text rest : Text) :
    seek p (text ++ rest) = if seek p text = [] then seek p rest else seek p text ++ rest := by
  simp only [seek, dropWhile_append, List.isEmpty_iff]
  rfl

/-- The modes are searched for in the text of the topology first; what is read then goes on to
the modes themselves. -/
lemma findStrSection_modes (snap : Snapshot) (rotations : LayoutRotationMap) :
    ∃ rest passed, '{' ∉ passed ∧ findStrSection (serializeSnapshot snap rotations) "modes" =
      findStrSection (topologyText snap.topology) "modes" ++ (passed ++
        ' ' :: (deviceSection (snap.modes.map fun kv => (kv.1, modeText kv.2)) ++ rest)) := by
  obtain ⟨rest, hrest⟩ := serializeSnapshot_eq snap rotations
  refine ⟨rest, ?_⟩
  generalize ' ' :: (deviceSection (snap.modes.map fun kv => (kv.1, modeText kv.2)) ++ rest) = modes
    at hrest ⊢
  have hopening : findText (quotedText "modes") ('{' :: "\n  \"snapshot_version\": 2,\n ".toList) =
      none := by decide
  have htitle : findText (quotedText "modes") (quotedText "topology" ++ [':']) = none := by decide
  have hbetween : findText (quotedText "modes") ",\n ".toList = none := by decide
  have hne : quotedText "modes" ≠ [] := cons_ne_nil _ _
  have hmodes := findText_append_cons hne (show ' ' ∉ quotedText "modes" by decide)
    ",\n ".toList (quotedText "modes" ++ ':' :: modes)
  rw [hbetween, findText_append_self hne] at hmodes
  have htopology := findText_append_cons hne (show ' ' ∉ quotedText "modes" by decide)
    (quotedText "topology" ++ [':']) (topologyText snap.topology ++
      (",\n ".toList ++ ' ' :: (quotedText "modes" ++ ':' :: modes)))
  rw [htitle, findText_topologyText "modes" (by decide), hmodes, append_assoc,
    singleton_append] at htopology
  have hdata := findText_append_cons hne (show ' ' ∉ quotedText "modes" by decide)
    ('{' :: "\n  \"snapshot_version\": 2,\n ".toList) (quotedText "topology" ++
      ':' :: ' ' :: (topologyText snap.topology ++
        (",\n ".toList ++ ' ' :: (quotedText "modes" ++ ':' :: modes))))
  rw [hopening, htopology, ← hrest] at hdata
  simp only [Option.map_none, Option.none_or] at hdata
  have hcolon := seek_colon (show ':' ∉ "modes".toList by decide) modes
  simp only [findStrSection, hdata]
  cases hfound : findText (quotedText "modes") (topologyText snap.topology) with
  | none => exact ⟨[], by simp, by simp [hcolon]⟩
  | some found =>
    have hpassed : ':' ∉ ",\n ".toList ++ [' '] := by decide
    have hlast : seek (· = ':') ((",\n ".toList ++ [' ']) ++ (quotedText "modes" ++ ':' :: modes)) =
        ':' :: modes := by
      rw [seek_append fun c hc => by simpa using fun h : c = ':' => hpassed (h ▸ hc), hcolon]
    rw [append_assoc, singleton_append] at hlast
    simp only [Option.map_some, Option.some_or]
    rw [seek_append_ite, hlast]
    split
    next hnone => exact ⟨[], by simp, by simp [hnone]⟩
    next hsome =>
      obtain ⟨c, text, htext⟩ := exists_cons_of_ne_nil hsome
      refine ⟨",\n ".toList ++ ' ' :: (quotedText "modes" ++ [':']), by decide, ?_⟩
      simp [htext]

lemma findStrSection_topology (snap : Snapshot) (rotations : LayoutRotationMap) :
    ∃ rest, findStrSection (serializeSnapshot snap rotations) "topology" =
      ' ' :: (topologyText snap.topology ++ rest) := by
  obtain ⟨rest, hrest⟩ := serializeSnapshot_eq snap rotations
  have hopening : findText (quotedText "topology")
      ('{' :: "\n  \"snapshot_version\": 2,\n ".toList) = none := by decide
  have hne : quotedText "topology" ≠ [] := cons_ne_nil _ _
  rw [findStrSection, hrest, findText_append_cons hne (by decide), hopening,
    findText_append_self hne]
  simp only [Option.map_none, Option.none_or, seek_colon (show ':' ∉ "topology".toList by decide)]
  exact ⟨_, rfl⟩

lemma parseTopologyField_ne_nil (hne : topology ≠ []) (rest : Text) :
    parseTopologyField (' ' :: (topologyText topology ++ rest)) ≠ [] := by
  obtain ⟨group, groups, rfl⟩ := exists_cons_of_ne_nil hne
  have hopened : ∃ opened, topologyText (group :: groups) ++ rest = '[' :: '[' :: opened := by
    cases groups with
    | nil => exact ⟨_, by simp [topologyText]; rfl⟩
    | cons next groups => exact ⟨_, by simp [topologyText, intercalate_cons_cons]; rfl⟩
  obtain ⟨opened, hopened⟩ := hopened
  have hseek : seek (· = '[') (' ' :: '[' :: '[' :: opened) = '[' :: '[' :: opened := by
    rw [seek_cons_of_neg (by decide), seek_cons (by decide)]
  have hgroups : seek (delimiter '[' ']') ('[' :: opened) = '[' :: opened :=
    seek_cons (by decide) opened
  rw [hopened, parseTopologyField, hseek]
  dsimp only
  rw [readGroups]
  split
  · rename_i hnil
    simp [hgroups] at hnil
  · rename_i c text hcons
    rw [hgroups] at hcons
    obtain ⟨rfl, rfl⟩ := List.cons.inj hcons
    simp

/-! ## The modes -/

def fieldText (key : String) (value : Nat) : Text :=
  Json.member key (' ' :: numberText value)

variable (mode : DisplayMode)

lemma modeText_eq :
    modeText mode = '{' :: ' ' :: (fieldText "w" mode.resolution.width ++ ',' :: ' ' ::
      (fieldText "h" mode.resolution.height ++ ',' :: ' ' ::
      (fieldText "num" mode.refreshRate.numerator ++ ',' :: ' ' ::
      (fieldText "den" mode.refreshRate.denominator ++ [' ', '}'])))) := by
  simp [modeText, objectText, fieldText, intercalate_cons_cons]

lemma numberText_eq (value : Nat) : numberText value = Nat.toDigits 10 value := by
  rw [numberText, Json.toList_toString, if_pos (by omega), Int.toNat_natCast]

variable {value : Nat}

lemma isDigit_of_mem_numberText {c : Char} (hc : c ∈ numberText value) : c.isDigit := by
  rw [numberText_eq] at hc
  exact Nat.isDigit_of_mem_toDigits (by omega) (by omega) hc

lemma not_mem_numberText {c : Char} (hc : c.isDigit = false) : c ∉ numberText value := by
  intro hmem
  rw [isDigit_of_mem_numberText hmem] at hc
  cases hc

lemma stoul_numberText (hvalue : value < 2 ^ 32) {c : Char} (hc : c.isDigit = false) (rest : Text) :
    stoul (' ' :: (numberText value ++ c :: rest)) = .ok value := by
  have hdigits : ∀ c ∈ numberText value, c.isDigit := fun c => isDigit_of_mem_numberText
  obtain ⟨first, others, hfirst⟩ := exists_cons_of_ne_nil
    (show numberText value ≠ [] by rw [numberText_eq]; exact Nat.toDigits_ne_nil)
  have hfirstDigit : first.isDigit := hdigits first (by rw [hfirst]; exact mem_cons_self)
  have hspace : isSpace first = false := by
    simp only [isSpace, Char.isDigit] at hfirstDigit ⊢
    simp only [Bool.or_eq_false_iff, decide_eq_false_iff_not, Bool.and_eq_false_iff,
      Bool.and_eq_true, decide_eq_true_eq] at hfirstDigit ⊢
    refine ⟨fun h => ?_, .inr fun h => ?_⟩
    · subst h
      exact absurd hfirstDigit.1 (by decide)
    · exact absurd (le_trans hfirstDigit.1 h) (by decide)
  have hsign : first ≠ '-' ∧ first ≠ '+' := by
    constructor <;> rintro rfl <;> simp at hfirstDigit
  have hstart : (' ' :: (numberText value ++ c :: rest)).dropWhile isSpace =
      numberText value ++ c :: rest := by
    rw [dropWhile_cons_of_pos (by decide), hfirst, cons_append,
      dropWhile_cons_of_neg (by simp [hspace])]
  have hhead : (numberText value ++ c :: rest).head? = some first := by rw [hfirst]; rfl
  have htake : (numberText value ++ c :: rest).takeWhile Char.isDigit = numberText value := by
    rw [takeWhile_append_of_pos hdigits, takeWhile_cons_of_neg (by simp [hc]), append_nil]
  have hread : leadingNumber (' ' :: (numberText value ++ c :: rest)) = some (false, value) := by
    simp only [leadingNumber, hstart, hhead, Option.some.injEq, hsign.1, hsign.2, decide_false,
      Bool.or_self, Bool.false_eq_true, if_false, htake]
    rw [if_neg (by simp [hfirst]), numberText_eq, Nat.ofDigitChars_ten_toDigits]
  simp only [stoul, hread, if_neg (not_le.2 hvalue), Bool.false_eq_true, if_false]

lemma fieldText_skips {key name : String} {value : Nat} {c : Char} (hkey : '"' ∉ key.toList)
    (hname : '"' ∉ name.toList) (hne : name ≠ key) (hcolon : ':' ∉ key.toList) (hc : c ≠ '"') :
    Skips (quotedText key) (fieldText name value ++ [c, ' ']) := by
  refine (Skips.member hkey hname hne hcolon (.of_not_mem ?_)).append (.of_not_mem ?_)
  · simpa using not_mem_numberText (by decide)
  · simpa using hc.symm

lemma parseNumField_eq (hcolon : ':' ∉ key.toList) {before : Text}
    (hskips : Skips (quotedText key) before) {value : Nat} (hvalue : value < 2 ^ 32) {c : Char}
    (hc : c.isDigit = false) (rest : Text) :
    parseNumField (before ++ (fieldText key value ++ c :: rest)) key = .ok value := by
  have hfield : fieldText key value ++ c :: rest =
      quotedText key ++ (':' :: ' ' :: (numberText value ++ c :: rest)) := by
    simp [fieldText, Json.member, quotedText]
  have hfound : findText (quotedText key) (before ++ (fieldText key value ++ c :: rest)) =
      some (quotedText key ++ (':' :: ' ' :: (numberText value ++ c :: rest))) := by
    rw [hfield, findText_quotedText hskips]
  simp only [parseNumField, fieldNumber, hfound, seek_colon hcolon, stoul_numberText hvalue hc]

structure Fits (mode : DisplayMode) : Prop where
  width : mode.resolution.width < 2 ^ 32
  height : mode.resolution.height < 2 ^ 32
  numerator : mode.refreshRate.numerator < 2 ^ 32
  denominator : mode.refreshRate.denominator < 2 ^ 32

def modeBody : Text :=
  '{' :: ' ' :: (fieldText "w" mode.resolution.width ++ ',' :: ' ' ::
    (fieldText "h" mode.resolution.height ++ ',' :: ' ' ::
    (fieldText "num" mode.refreshRate.numerator ++ ',' :: ' ' ::
    (fieldText "den" mode.refreshRate.denominator ++ [' ']))))

lemma modeText_body : modeText mode = modeBody mode ++ ['}'] := by
  rw [modeText_eq, modeBody]
  simp

lemma parseMode_modeBody {mode : DisplayMode} (h : Fits mode) :
    parseMode (modeBody mode) = .ok mode := by
  have hopen : ∀ key : String, Skips (quotedText key) ['{', ' '] :=
    fun key => .of_not_mem (by decide)
  have hpassed : ∀ {key name : String} {before : Text} (value : Nat), '"' ∉ key.toList →
      '"' ∉ name.toList → name ≠ key → ':' ∉ key.toList → Skips (quotedText key) before →
      Skips (quotedText key) (before ++ (fieldText name value ++ [',', ' '])) :=
    fun value hkey hname hne hcolon hbefore =>
      hbefore.append (fieldText_skips hkey hname hne hcolon (by decide))
  have hwidth : parseNumField (modeBody mode) "w" = .ok mode.resolution.width := by
    have hread := parseNumField_eq (by decide) (hopen "w") h.width (c := ',') (by decide)
      (' ' :: (fieldText "h" mode.resolution.height ++ ',' :: ' ' ::
        (fieldText "num" mode.refreshRate.numerator ++ ',' :: ' ' ::
        (fieldText "den" mode.refreshRate.denominator ++ [' ']))))
    simpa [modeBody] using hread
  have hheight : parseNumField (modeBody mode) "h" = .ok mode.resolution.height := by
    have hskips := hpassed mode.resolution.width (by decide) (show '"' ∉ "w".toList by decide)
      (by decide) (by decide) (hopen "h")
    have hread := parseNumField_eq (by decide) hskips h.height (c := ',') (by decide)
      (' ' :: (fieldText "num" mode.refreshRate.numerator ++ ',' :: ' ' ::
        (fieldText "den" mode.refreshRate.denominator ++ [' '])))
    simpa [modeBody] using hread
  have hnumerator : parseNumField (modeBody mode) "num" = .ok mode.refreshRate.numerator := by
    have hskips := hpassed mode.resolution.height (by decide) (show '"' ∉ "h".toList by decide)
      (by decide) (by decide) (hpassed mode.resolution.width (by decide)
        (show '"' ∉ "w".toList by decide) (by decide) (by decide) (hopen "num"))
    have hread := parseNumField_eq (by decide) hskips h.numerator (c := ',') (by decide)
      (' ' :: (fieldText "den" mode.refreshRate.denominator ++ [' ']))
    simpa [modeBody] using hread
  have hdenominator : parseNumField (modeBody mode) "den" = .ok mode.refreshRate.denominator := by
    have hskips := hpassed mode.refreshRate.numerator (by decide)
      (show '"' ∉ "num".toList by decide) (by decide) (by decide)
      (hpassed mode.resolution.height (by decide) (show '"' ∉ "h".toList by decide) (by decide)
        (by decide) (hpassed mode.resolution.width (by decide) (show '"' ∉ "w".toList by decide)
          (by decide) (by decide) (hopen "den")))
    have hread := parseNumField_eq (by decide) hskips h.denominator (c := ' ') (by decide) []
    simpa [modeBody] using hread
  simp only [parseMode, hwidth, hheight, hnumerator, hdenominator]
  rfl

lemma not_mem_modeBody {mode : DisplayMode} : '}' ∉ modeBody mode := by
  have hnumber : ∀ value : Nat, '}' ∉ numberText value :=
    fun value => not_mem_numberText (by decide)
  simp [modeBody, fieldText, Json.member, quoted, hnumber]

lemma objectReader_modeText (text : Text) :
    objectReader.read (':' :: ' ' :: modeText mode ++ text) = some (modeBody mode, text) := by
  have hbody : ∃ inner, modeBody mode = '{' :: inner := ⟨_, rfl⟩
  obtain ⟨inner, hinner⟩ := hbody
  have hseek : seek (· = '{') (':' :: ' ' :: modeText mode ++ text) =
      modeBody mode ++ '}' :: text := by
    rw [modeText_body, hinner]
    simp only [cons_append, append_assoc, nil_append]
    rw [seek_cons_of_neg (by decide), seek_cons_of_neg (by decide), seek_cons (by decide)]
  have hcut : cut (· = '}') (modeBody mode ++ '}' :: text) = some (modeBody mode, text) :=
    cut_append (fun c hc => by simpa using fun h : c = '}' => not_mem_modeBody (h ▸ hc))
      (by decide) text
  simp only [objectReader, hseek, hcut]

variable {modes : List (String × DisplayMode)}

lemma objectReader_append {before : Text} (hbefore : '{' ∉ before) (text : Text) :
    objectReader.read (before ++ text) = objectReader.read text := by
  have hseek : seek (· = '{') (before ++ text) = seek (· = '{') text :=
    seek_append fun c hc => by simpa using fun h : c = '{' => hbefore (h ▸ hc)
  simp only [objectReader, hseek]

/-- A quote of an id ends the key that is read, and no brace behind it is taken for a mode. -/
def Readable (id : String) : Prop :=
  ∀ key rest, id.toList = key ++ '"' :: rest → '{' ∉ rest

def keyRead (id : String) : Text := id.toList.takeWhile (· ≠ '"')

/-- What is left of an id behind the key that is read, and the mode. -/
lemma quoted_readable {id : String} (h : Readable id) (text : Text) :
    ∃ behind, '{' ∉ behind ∧ '"' ∉ keyRead id ∧
      quoted '"' id.toList ++ text = quoted '"' (keyRead id) ++ (behind ++ text) := by
  have hkey : '"' ∉ keyRead id := fun hmem => by simpa using mem_takeWhile_imp hmem
  have hsplit : id.toList = keyRead id ++ id.toList.dropWhile (· ≠ '"') :=
    takeWhile_append_dropWhile.symm
  cases hrest : id.toList.dropWhile (· ≠ '"') with
  | nil =>
    refine ⟨[], not_mem_nil, hkey, ?_⟩
    rw [hrest, append_nil] at hsplit
    rw [nil_append, ← hsplit]
  | cons c rest =>
    obtain rfl : c = '"' := by
      have hhead := head?_dropWhile_not (· ≠ '"') id.toList
      rw [hrest] at hhead
      simpa using hhead
    rw [hrest] at hsplit
    refine ⟨rest ++ ['"'], ?_, hkey, ?_⟩
    · simpa using h _ rest hsplit
    · rw [hsplit]
      simp [quoted]

lemma scanEntries_modes (hread : ∀ entry ∈ modes, Readable entry.1) (rest : Text) :
    scanEntries '"' '}' objectReader
        ([','].intercalate ((modes.map fun kv => (kv.1, modeText kv.2)).map fun m =>
          "\n    ".toList ++ Json.member m.1 (' ' :: m.2)) ++ ("\n  ".toList ++ '}' :: rest)) =
      modes.map fun kv => (keyRead kv.1, modeBody kv.2) := by
  have hbehind : ∀ entry : String × DisplayMode, ∃ behind : Text, entry ∈ modes →
      '{' ∉ behind ∧ '"' ∉ keyRead entry.1 ∧
        quoted '"' entry.1.toList ++ ':' :: ' ' :: modeText entry.2 =
          quoted '"' (keyRead entry.1) ++ (behind ++ ':' :: ' ' :: modeText entry.2) := by
    intro entry
    by_cases hentry : entry ∈ modes
    · obtain ⟨behind, hspec⟩ := quoted_readable (hread entry hentry) (':' :: ' ' :: modeText entry.2)
      exact ⟨behind, fun _ => hspec⟩
    · exact ⟨[], fun h => absurd h hentry⟩
  choose behind hbehind using hbehind
  have hscan : scanEntries '"' '}' objectReader
      ([','].intercalate (modes.map fun kv => "\n    ".toList ++
        (quoted '"' (keyRead kv.1) ++ (behind kv ++ ':' :: ' ' :: modeText kv.2))) ++
        ("\n  ".toList ++ '}' :: rest)) =
      modes.map fun kv => (keyRead kv.1, modeBody kv.2) :=
    scanEntries_intercalate (by decide) (by decide) (by decide) (by decide)
      (fun entry hentry => (hbehind entry hentry).2.1)
      (fun entry hentry text _ => ⟨text, by
        rw [append_assoc, objectReader_append (hbehind entry hentry).1]
        exact objectReader_modeText entry.2 text, rfl⟩) rest
  rw [← hscan, map_map]
  congr 3
  refine map_congr_left fun entry hentry => ?_
  rw [Function.comp_apply, ← (hbehind entry hentry).2.2]
  rfl

lemma mapM_ok {α β ε : Type} {f : α → Except ε β} {g : α → β} {l : List α}
    (h : ∀ a ∈ l, f a = .ok (g a)) : l.mapM f = .ok (l.map g) := by
  induction l with
  | nil => rfl
  | cons a l ih =>
    rw [mapM_cons, h a mem_cons_self, ih fun b hb => h b (mem_cons_of_mem _ hb)]
    rfl

lemma parseModesField_modes
    (hread : ∀ entry ∈ modes, Readable entry.1) (hfits : ∀ entry ∈ modes, Fits entry.2)
    (rest : Text) : parseModesField
        (' ' :: (deviceSection (modes.map fun kv => (kv.1, modeText kv.2)) ++ rest)) =
      .ok (KeyMap.emplaceAll (modes.map fun kv => (String.ofList (keyRead kv.1), kv.2))) := by
  have hseek : seek (· = '{')
      (' ' :: (deviceSection (modes.map fun kv => (kv.1, modeText kv.2)) ++ rest)) =
      '{' :: ([','].intercalate ((modes.map fun kv => (kv.1, modeText kv.2)).map fun m =>
        "\n    ".toList ++ Json.member m.1 (' ' :: m.2)) ++ ("\n  ".toList ++ '}' :: rest)) := by
    rw [seek_cons_of_neg (by decide), deviceSection, objectText, cons_append, seek_cons (by decide)]
    simp
  have hentries : (modes.map fun kv => (keyRead kv.1, modeBody kv.2)).mapM
      (fun entry => do return (String.ofList entry.1, ← parseMode entry.2)) =
      (.ok (modes.map fun kv => (String.ofList (keyRead kv.1), kv.2)) :
        Except ConversionError (List (String × DisplayMode))) := by
    rw [mapM_map]
    refine mapM_ok fun entry hentry => ?_
    simp [parseMode_modeBody (hfits entry hentry)]
  simp only [parseModesField, parseEntries, hseek, scanEntries_modes hread, hentries]
  rfl

lemma emplaceAll_ne_nil (hmodes : modes ≠ []) : KeyMap.emplaceAll modes ≠ [] := by
  obtain ⟨first, last, rfl⟩ := eq_nil_or_concat modes |>.resolve_left hmodes
  have hassign : ∀ map : List (String × DisplayMode), KeyMap.assign last.1 last.2 map ≠ [] := by
    intro map
    cases map with
    | nil => simp [KeyMap.assign]
    | cons entry rest =>
      rw [KeyMap.assign]
      split
      · exact cons_ne_nil _ _
      · split <;> exact cons_ne_nil _ _
  rw [KeyMap.emplaceAll, concat_eq_append, foldl_append, foldl_cons, foldl_nil, KeyMap.emplace]
  split
  · intro hnil
    simp [hnil] at *
  · exact hassign _

lemma parseModesField_append {before : Text} (hbefore : '{' ∉ before) (text : Text) :
    parseModesField (before ++ text) = parseModesField text := by
  have hseek : seek (· = '{') (before ++ text) = seek (· = '{') text :=
    seek_append fun c hc => by simpa using fun h : c = '{' => hbefore (h ▸ hc)
  simp only [parseModesField, parseEntries, hseek]

/-- A brace that the topology opens behind the word `modes` is closed before the next quote. -/
def Hides (behind : Text) : Prop :=
  ∃ before inside after, behind = before ++ '{' :: (inside ++ '}' :: after) ∧ '{' ∉ before ∧
    '"' ∉ inside ∧ '}' ∉ inside

lemma parseModesField_hides {behind : Text} (h : Hides behind) (text : Text) :
    parseModesField (behind ++ text) = .ok [] := by
  obtain ⟨before, inside, after, rfl, hbefore, hquote, hclose⟩ := h
  have hseek : seek (· = '{') ('{' :: (inside ++ '}' :: (after ++ text))) =
      '{' :: (inside ++ '}' :: (after ++ text)) := seek_cons (by decide) _
  have hentries : scanEntries '"' '}' objectReader (inside ++ '}' :: (after ++ text)) = [] :=
    scanEntries_close hquote hclose _
  rw [append_assoc, parseModesField_append hbefore, cons_append, append_assoc, cons_append]
  simp only [parseModesField, parseEntries, hseek, hentries]
  rfl

variable {snap : Snapshot}

lemma serializeSnapshot_hides (rotations : LayoutRotationMap)
    (hhides : Hides (findStrSection (topologyText snap.topology) "modes")) :
    snapshotTextHasRestorePayload (serializeSnapshot snap rotations) = false := by
  obtain ⟨rest, passed, -, hsection⟩ := findStrSection_modes snap rotations
  rw [snapshotTextHasRestorePayload, hsection, parseModesField_hides hhides]
  simp

lemma serializeSnapshot_payload (rotations : LayoutRotationMap) (htopology : snap.topology ≠ [])
    (hmodes : snap.modes ≠ []) (hfits : ∀ entry ∈ snap.modes, Fits entry.2)
    (hmodesRead : ∀ entry ∈ snap.modes, Readable entry.1)
    (hbrace : '{' ∉ findStrSection (topologyText snap.topology) "modes") :
    snapshotTextHasRestorePayload (serializeSnapshot snap rotations) = true := by
  obtain ⟨topologyRest, htopologySection⟩ := findStrSection_topology snap rotations
  obtain ⟨rest, passed, hpassed, hsection⟩ := findStrSection_modes snap rotations
  have hread : parseModesField (findStrSection (serializeSnapshot snap rotations) "modes") =
      .ok (KeyMap.emplaceAll (snap.modes.map fun kv => (String.ofList (keyRead kv.1), kv.2))) := by
    rw [hsection, parseModesField_append hbrace, parseModesField_append hpassed]
    exact parseModesField_modes hmodesRead hfits rest
  have htopologyRead : parseTopologyField
      (findStrSection (serializeSnapshot snap rotations) "topology") ≠ [] := by
    rw [htopologySection]
    exact parseTopologyField_ne_nil htopology topologyRest
  simp [snapshotTextHasRestorePayload, hread, htopologyRead, emplaceAll_ne_nil, hmodes]

/-! ## The save filter -/

def Snapshot.Mentions (snap : Snapshot) (id : String) : Prop :=
  id ∈ snap.topology.flatten ∨ (∃ entry ∈ snap.modes, entry.1 = id) ∨
    (∃ entry ∈ snap.hdrStates, entry.1 = id) ∨ (snap.primaryDevice = id ∧ id ≠ "") ∨
    ∃ entry ∈ snap.origins, entry.1 = id

variable {keep : String → Bool}

lemma mem_flatten_filterTopology {topology : ActiveTopology} {id : String} :
    id ∈ (filterTopology keep topology).flatten ↔ keep id = true ∧ id ∈ topology.flatten := by
  constructor
  · intro hid
    obtain ⟨group, hgroup, hmem⟩ := mem_flatten.1 hid
    exact ⟨(mem_filterTopology hgroup).2 id hmem, subset_filterTopology hgroup hmem⟩
  · rintro ⟨hkeep, hid⟩
    obtain ⟨group, hgroup, hmem⟩ := mem_flatten.1 hid
    have hleft : id ∈ group.filter keep := mem_filter.2 ⟨hmem, hkeep⟩
    refine mem_flatten.2 ⟨group.filter keep, mem_filter.2 ⟨?_, ?_⟩, hleft⟩
    · exact mem_map.2 ⟨group, hgroup, rfl⟩
    · simpa using ne_nil_of_mem hleft

lemma Snapshot.mentions_restrict {snap : Snapshot} {id : String} :
    (snap.restrict keep).Mentions id ↔ keep id = true ∧ snap.Mentions id := by
  have hentries : ∀ {β : Type} (entries : List (String × β)),
      (∃ entry ∈ entries.filter fun entry => keep entry.1, entry.1 = id) ↔
        keep id = true ∧ ∃ entry ∈ entries, entry.1 = id := by
    intro β entries
    constructor
    · rintro ⟨entry, hentry, rfl⟩
      exact ⟨(mem_filter.1 hentry).2, entry, (mem_filter.1 hentry).1, rfl⟩
    · rintro ⟨hkeep, entry, hentry, rfl⟩
      exact ⟨entry, mem_filter.2 ⟨hentry, hkeep⟩, rfl⟩
  have hprim : ((if keep snap.primaryDevice then snap.primaryDevice else "") = id ∧ id ≠ "") ↔
      keep id = true ∧ snap.primaryDevice = id ∧ id ≠ "" := by
    split
    · rename_i hkeep
      exact ⟨fun h => ⟨h.1 ▸ hkeep, h⟩, fun h => h.2⟩
    · rename_i hdropped
      exact ⟨fun h => absurd h.1.symm h.2, fun h => absurd (h.2.1 ▸ h.1) hdropped⟩
  simp only [Mentions, restrict, mem_flatten_filterTopology, hentries, hprim, ← and_or_left]

variable (devices : List EnumeratedDevice) (exclusions : List String)

def restorableIds : List String :=
  (validDeviceIds devices).filter fun id => !isExcluded exclusions id

lemma restorable_of_save {captured saved : Snapshot} {devices : List EnumeratedDevice}
    {exclusions : List String}
    (hsave : filterSnapshotForSave captured devices exclusions = .ok saved) {id : String}
    (hid : id ∈ captured.topology.flatten) (hexcluded : isExcluded exclusions id = false)
    (hphysical : id ∉ virtualDeviceIds devices) : id ∈ restorableIds devices exclusions := by
  simp only [filterSnapshotForSave] at hsave
  split at hsave
  · cases hsave
  split at hsave
  · cases hsave
  split at hsave
  · cases hsave
  rename_i hlost
  have hkept := List.find?_eq_none.1 hlost id hid
  simpa [hexcluded, hphysical, restorableIds] using hkept

/-- What a baseline is saved for. Without modes `apply_and_confirm` refuses it. -/
structure Restorable (captured : Snapshot) (devices : List EnumeratedDevice)
    (exclusions : List String) (rotations : LayoutRotationMap) (saved : Snapshot) : Prop where
  topology : saved.topology ≠ []
  modes : saved.modes ≠ []
  physical : ∀ id, saved.Mentions id → id ∉ virtualDeviceIds devices
  included : ∀ id, saved.Mentions id → isExcluded exclusions id = false
  kept : ∀ id ∈ captured.topology.flatten, isExcluded exclusions id = false →
    id ∉ virtualDeviceIds devices → id ∈ saved.topology.flatten
  payload : snapshotTextHasRestorePayload (serializeSnapshot saved rotations) = true

/-- What `serialize_snapshot` leaves behind the word `modes` and a colon in the text of the
captured devices that are restorable; nothing unless one of them is named so. -/
def behindModes (captured : Snapshot) (devices : List EnumeratedDevice)
    (exclusions : List String) : Text :=
  findStrSection (topologyText
    (filterTopology (restorableIds devices exclusions).contains captured.topology)) "modes"

/-- Some captured mode survives the filter, no device that does is enumerated as a virtual
display besides, and none hides the modes. -/
structure Spared (captured : Snapshot) (devices : List EnumeratedDevice)
    (exclusions : List String) : Prop where
  mode : ∃ entry ∈ captured.modes, entry.1 ∈ restorableIds devices exclusions
  physical : ∀ id ∈ restorableIds devices exclusions, captured.Mentions id →
    id ∉ virtualDeviceIds devices
  shown : ¬ Hides (behindModes captured devices exclusions)

/-- The ids read as they are written: no brace is opened behind a quote in the id of a mode, nor in
the topology behind the word `modes` and a colon. -/
structure Legible (captured : Snapshot) (devices : List EnumeratedDevice)
    (exclusions : List String) : Prop where
  modes : ∀ entry ∈ captured.modes, entry.1 ∈ restorableIds devices exclusions → Readable entry.1
  topology : '{' ∉ behindModes captured devices exclusions

/-- The filter looks at the modes before it filters them, and at the virtual displays only for
devices that it does not keep; the text escapes nothing. -/
theorem restorable_spared {captured saved : Snapshot} {devices : List EnumeratedDevice}
    {exclusions : List String} (rotations : LayoutRotationMap)
    (hfits : ∀ entry ∈ captured.modes, Fits entry.2)
    (hsave : filterSnapshotForSave captured devices exclusions = .ok saved) :
    (Restorable captured devices exclusions rotations saved → Spared captured devices exclusions) ∧
      (Spared captured devices exclusions → Legible captured devices exclusions →
        Restorable captured devices exclusions rotations saved) := by
  obtain ⟨valid, hvalid, hrestrict, htopology⟩ := filterSnapshotForSave_ok hsave
  have hmem : ∀ id, valid.contains id = true ↔ id ∈ restorableIds devices exclusions := by
    intro id
    rw [hvalid, contains_iff_mem]
    rfl
  have hmentions : ∀ id, saved.Mentions id ↔
      id ∈ restorableIds devices exclusions ∧ captured.Mentions id := by
    intro id
    rw [hrestrict, Snapshot.mentions_restrict, hmem]
  have hvalidIds : valid = restorableIds devices exclusions := hvalid
  have hbehind : findStrSection (topologyText saved.topology) "modes" =
      behindModes captured devices exclusions := by
    rw [behindModes, ← hvalidIds, hrestrict]
    rfl
  constructor
  · intro h
    have hshown : ¬ Hides (behindModes captured devices exclusions) := fun hhides =>
      Bool.false_ne_true
        ((serializeSnapshot_hides rotations (hbehind ▸ hhides)).symm.trans h.payload)
    refine ⟨?_, fun id hid hcaptured => h.physical id ((hmentions id).2 ⟨hid, hcaptured⟩), hshown⟩
    obtain ⟨entry, hentry⟩ := exists_mem_of_ne_nil _ h.modes
    rw [hrestrict] at hentry
    obtain ⟨hcaptured, hkeep⟩ := mem_filter.1 hentry
    exact ⟨entry, hcaptured, (hmem entry.1).1 hkeep⟩
  · intro h hlegible
    obtain ⟨entry, hentry, hid⟩ := h.mode
    have hmodes : saved.modes ≠ [] := by
      rw [hrestrict]
      exact ne_nil_of_mem (mem_filter.2 ⟨hentry, (hmem entry.1).2 hid⟩)
    have hkept : ∀ entry ∈ saved.modes, entry ∈ captured.modes ∧
        entry.1 ∈ restorableIds devices exclusions := by
      rw [hrestrict]
      intro entry hentry
      obtain ⟨hcaptured, hkeep⟩ := mem_filter.1 hentry
      exact ⟨hcaptured, (hmem entry.1).1 hkeep⟩
    refine ⟨htopology, hmodes, fun id hmention => ?_, fun id hmention => ?_, ?_, ?_⟩
    · exact h.physical id ((hmentions id).1 hmention).1 ((hmentions id).1 hmention).2
    · obtain ⟨-, -, -, -, -, hincluded⟩ := exists_device_of_valid ((hmentions id).1 hmention).1
      exact hincluded
    · intro id hid hincluded hphysical
      rw [hrestrict]
      exact mem_flatten_filterTopology.2
        ⟨(hmem id).2 (restorable_of_save hsave hid hincluded hphysical), hid⟩
    · refine serializeSnapshot_payload rotations htopology hmodes
        (fun entry hentry => hfits entry (hkept entry hentry).1)
        (fun entry hentry => hlegible.modes entry (hkept entry hentry).1 (hkept entry hentry).2) ?_
      rw [hbehind]
      exact hlegible.topology

def virtualModeCapture : Snapshot where
  topology := [["A"], ["V"]]
  modes := [("V", ⟨⟨1280, 720⟩, ⟨60, 1⟩⟩)]
  primaryDevice := "V"

/-- The capture above is saved without a mode. -/
theorem saved_without_modes : filterSnapshotForSave virtualModeCapture threeOutputs [] =
        .ok { topology := [["A"]] } ∧
      ¬ Restorable virtualModeCapture threeOutputs [] [] { topology := [["A"]] } :=
  ⟨by rfl, fun h => h.modes rfl⟩

/-- A capture of the monitor with its mode is restorable. -/
theorem restorable_threeOutputs :
    Restorable threeOutputsCapture threeOutputs ["p "] [("A", 90)] threeOutputsSaved := by
  have hsave : filterSnapshotForSave threeOutputsCapture threeOutputs ["p "] =
      .ok threeOutputsSaved := by rfl
  have hfits : ∀ entry ∈ threeOutputsCapture.modes, Fits entry.2 := by
    intro entry hentry
    have hcases : entry = ("A", ⟨⟨1920, 1080⟩, ⟨60, 1⟩⟩) ∨
        entry = ("V", ⟨⟨1280, 720⟩, ⟨60, 1⟩⟩) := by
      simpa [threeOutputsCapture] using hentry
    rcases hcases with rfl | rfl <;> exact ⟨by decide, by decide, by decide, by decide⟩
  have hkept : restorableIds threeOutputs ["p "] = ["A"] := by rfl
  have hvirtual : virtualDeviceIds threeOutputs = ["V"] := by rfl
  have hbehind : behindModes threeOutputsCapture threeOutputs ["p "] = [] := by rfl
  refine (restorable_spared [("A", 90)] hfits hsave).2 ⟨by rw [hkept]; decide, ?_, ?_⟩ ⟨?_, ?_⟩
  · intro id hid _
    rw [hkept, mem_singleton] at hid
    rw [hvirtual, hid]
    decide
  · rintro ⟨before, inside, after, h, -⟩
    rw [hbehind] at h
    exact absurd h.symm (append_ne_nil_of_right_ne_nil _ (cons_ne_nil _ _))
  · intro entry _ hid key rest hquote
    rw [hkept, mem_singleton] at hid
    have hmem : '"' ∈ "A".toList := by
      rw [← hid, hquote]
      exact mem_append_right _ mem_cons_self
    exact absurd hmem (by decide)
  · rw [hbehind]
    exact not_mem_nil

end Vibeshine.DisplayHelper
