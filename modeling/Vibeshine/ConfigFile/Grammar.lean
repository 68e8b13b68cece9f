import Vibeshine.ConfigFile.Preservation

/-! # The lines of a configuration file

A file is written in lines, each ended by one of two line ends, the last possibly by none. A
line is silent, names an option and leaves it empty, or gives one its value; a list may run over
several lines of the text. What a file promises is the value of each option's first good line.
-/

namespace Vibeshine.ConfigFile

open Library List

/-! ## The parts of a line -/

inductive LineEnd where
  | lf
  | crlf
deriving DecidableEq

def LineEnd.text : LineEnd → Text
  | .lf => ['\n']
  | .crlf => ['\r', '\n']

abbrev Blanks := {text : Text // ∀ ch ∈ text, spaceTab ch = true}

abbrev OneLine := {text : Text // ∀ ch ∈ text, endline ch = false}

/-- A comment, by the text behind its `#`. -/
def commentText : Option OneLine → Text
  | none => []
  | some comment => '#' :: comment.1

def shown (text : Text) : Text := (text.dropWhile spaceTab).takeWhile (· ≠ '#')

def Silent (text : Text) : Prop := '=' ∉ shown text ∨ ∃ rest, shown text = '=' :: rest

instance (text : Text) : Decidable (Silent text) :=
  decidable_of_iff ('=' ∉ shown text ∨ (shown text).head? = some '=') <| by
    apply or_congr_right
    exact head?_eq_some_iff

inductive Value where
  | plain (ch : Char) (rest : Text) (first : whitespace ch = false ∧ ch ≠ '[' ∧ ch ≠ '#')
      (rest_plain : ∀ c ∈ rest, c ≠ '#' ∧ endline c = false)
      (closed : (ch :: rest).rdropWhile spaceTab = ch :: rest)
  | list (body : Text) (balanced : closing 1 body = some [])

namespace Value

def text : Value → Text
  | plain ch rest .. => ch :: rest
  | list body _ => '[' :: body

def content (value : Value) : Text := toText value.text

def isList : Value → Bool
  | plain .. => false
  | list .. => true

end Value

inductive Line where
  | silent (text : OneLine) (quiet : Silent text.1)
  | hollow (head : Head) (blanks : Blanks) (comment : Option OneLine)
  | option (head : Head) (blanks : Blanks) (value : Value) (trail : Blanks)
      (comment : Option OneLine)

namespace Line

def text : Line → Text
  | silent text _ => text.1
  | hollow head blanks comment => head.text ++ (blanks.1 ++ commentText comment)
  | option head blanks value trail comment =>
    head.text ++ (blanks.1 ++ (value.text ++ (trail.1 ++ commentText comment)))

def promised : Line → Option (Text × Text)
  | silent .. => none
  | hollow .. => none
  | option head _ value .. => some (head.name, value.content)

def given : Line → Option (Text × Text)
  | silent .. => none
  | hollow head blanks comment =>
    if blanks.1 = [] ∧ comment = none then none else some (head.name, blanks.1)
  | option head _ value trail _ =>
    some (head.name, if value.isList then value.content else value.text ++ trail.1)

def gives (key : Text) : Line → Bool
  | silent .. => false
  | hollow head blanks comment =>
    !(blanks.1 = [] ∧ comment = none) && normalizeConfigKey head.name = key
  | option head .. => normalizeConfigKey head.name = key

def Exact : Line → Prop
  | silent .. => False
  | hollow .. => False
  | option _ _ value trail _ => value.isList = true ∨ trail.1 = []

def Clear : Line → Prop
  | silent .. => True
  | hollow .. => True
  | option _ _ value trail comment =>
    value.isList = true → trail.1 = [] → ∀ text, comment = some text → Silent text.1

end Line

/-- A file: its lines with their ends, and what follows the last line end. -/
structure File where
  lines : List (Line × LineEnd)
  last : Option Line

namespace File

def text (file : File) : Text :=
  file.lines.flatMap (fun line => line.1.text ++ line.2.text) ++ (file.last.map Line.text).getD []

def allLines (file : File) : List Line := file.lines.map (·.1) ++ file.last.toList

end File

def named : Option (Text × Text) → List (Text × Text)
  | none => []
  | some (name, value) =>
    if normalizeConfigKey name = [] then [] else [(normalizeConfigKey name, value)]

namespace File

def promised (file : File) (key : Text) : Option Text :=
  KeyMap.get? key (file.allLines.flatMap fun line => named line.promised)

/-- The reader stays in the file, comes to its end, and finds what the file promises. -/
structure Read (file : File) : Prop where
  inside : ∀ text, text <:+ file.text → (parseOption text).1 <:+ file.text
  ends : ∀ text, text <:+ file.text → text ≠ [] →
    (skipEnd (parseOption text).1).length < text.length
  reads : ∀ key, (parseConfig file.text).find? key = file.promised key

end File

/-! ## Reading one line -/

lemma addOption_eq (var : Option (Text × Text)) (following : List (Text × Text)) :
    addOption var following = named var ++ following := by
  cases var with
  | none => rfl
  | some var =>
    unfold addOption named
    dsimp only
    split <;> rfl

def Stops (tail : Text) : Prop := tail = [] ∨ ∃ (ending : LineEnd) (rest : Text), tail = ending.text ++ rest

namespace Stops

variable {tail : Text}

lemma head (h : Stops tail) : ∀ c rest, tail = c :: rest → endline c = true := by
  rintro c rest rfl
  obtain hnil | ⟨ending, rest', heq⟩ := h
  · cases hnil
  · cases ending <;> exact (List.cons.inj heq).1 ▸ by decide

lemma cut (h : Stops tail) {line : Text} (hline : ∀ ch ∈ line, endline ch = false) :
    (line ++ tail).takeWhile (fun c => !endline c) = line ∧
      (line ++ tail).dropWhile (fun c => !endline c) = tail := by
  have hplain : ∀ c ∈ line, (!endline c) = true := fun c hc => by simp [hline c hc]
  rw [takeWhile_append_of_pos hplain, dropWhile_append_of_pos hplain]
  cases tail with
  | nil => exact ⟨append_nil _, rfl⟩
  | cons c rest =>
    have hend := h.head c rest rfl
    rw [takeWhile_cons_of_neg (by simp [hend]), dropWhile_cons_of_neg (by simp [hend])]
    exact ⟨append_nil _, rfl⟩

lemma options_skipEnd (h : Stops tail) : options (skipEnd tail) = options tail := by
  obtain rfl | ⟨ending, rest, rfl⟩ := h
  · rfl
  · have hblank : ∀ ch ∈ ending.text, whitespace ch = true := by
      cases ending <;> simp [LineEnd.text, whitespace, endline]
    rw [options_blank hblank]
    cases ending <;> rfl

end Stops

lemma commentText_oneLine (comment : Option OneLine) :
    ∀ ch ∈ commentText comment, endline ch = false := by
  cases comment with
  | none => exact nofun
  | some comment =>
    intro ch hch
    obtain rfl | hch := mem_cons.mp hch
    · decide
    · exact comment.2 ch hch

lemma toText_comment (comment : Option OneLine) : toText (commentText comment) = [] := by
  cases comment with
  | none => rfl
  | some comment => exact stripComments_line comment.2

lemma blanks_oneLine (blanks : Blanks) : ∀ ch ∈ blanks.1, endline ch = false :=
  fun ch hch => endline_of_spaceTab (blanks.2 ch hch)

lemma append_oneLine {first second : Text} (hfirst : ∀ ch ∈ first, endline ch = false)
    (hsecond : ∀ ch ∈ second, endline ch = false) : ∀ ch ∈ first ++ second, endline ch = false :=
  fun ch hch => (mem_append.mp hch).elim (hfirst ch) (hsecond ch)

section

variable {tail : Text} (htail : Stops tail)
include htail

lemma options_silent {line : Text} (hline : ∀ ch ∈ line, endline ch = false)
    (hsilent : Silent line) : options (line ++ tail) = options (skipEnd tail) := by
  rw [htail.options_skipEnd]
  have hlead : ∀ ch ∈ line.takeWhile spaceTab, whitespace ch = true := fun ch hch =>
    whitespace_of_spaceTab (mem_takeWhile_imp hch)
  rw [← takeWhile_append_dropWhile (p := spaceTab) (l := line), append_assoc, options_blank hlead]
  cases hrest : line.dropWhile spaceTab with
  | nil => rfl
  | cons ch rest =>
    have hmem : ∀ c ∈ ch :: rest, endline c = false := fun c hc =>
      hline c ((dropWhile_suffix _).subset (hrest ▸ hc))
    have hspace : spaceTab ch = false := by
      have hhead := head_dropWhile_not spaceTab (show line.dropWhile spaceTab ≠ [] by simp [hrest])
      simpa [hrest] using hhead
    have hwhite : whitespace ch = false := by
      simp [whitespace, hspace, hmem ch mem_cons_self]
    obtain ⟨hcut, hend⟩ := htail.cut hmem
    -- the equals sign is missing or comes first, so the parser turns to the line end
    have hparse : parseOption (ch :: rest ++ tail) = (tail, none) := by
      unfold parseOption
      dsimp only
      rw [cons_append, dropWhile_cons_of_neg (by simp [hwhite]), ← cons_append, hcut, hend]
      apply if_pos
      unfold Silent shown at hsilent
      rw [hrest] at hsilent
      obtain hnone | ⟨rest', hfirst⟩ := hsilent
      · left
        apply takeWhile_eq_self_iff.mpr
        intro c hc
        apply decide_eq_true
        rintro rfl
        exact hnone ((List.rdropWhile_prefix _ _).subset hc)
      · right
        rw [hfirst, rdropWhile_cons (by decide)]
        exact takeWhile_cons_of_neg (by decide)
    rw [options_of_ne (by simp), hparse, htail.options_skipEnd]
    rfl

lemma options_blank_line {line : Text} (hline : ∀ ch ∈ line, spaceTab ch = true)
    (comment : Option OneLine) :
    options (line ++ (commentText comment ++ tail)) = options (skipEnd tail) := by
  have hshown : shown (line ++ commentText comment) = [] := by
    unfold shown
    rw [dropWhile_append_of_pos hline]
    cases comment <;> rfl
  rw [← append_assoc]
  apply options_silent htail
  · exact append_oneLine (fun ch hch => endline_of_spaceTab (hline ch hch))
      (commentText_oneLine comment)
  · left
    rw [hshown]
    exact not_mem_nil

lemma afterHeading_none (name : Text) : afterHeading name tail = (tail, none) := by
  obtain ⟨hline, hend⟩ := @Stops.cut _ htail [] (by simp)
  rw [nil_append] at hline hend
  unfold afterHeading
  dsimp only
  rw [hline, hend, drop_nil, if_pos rfl]

omit htail in
lemma options_head (head : Head) {text endl : Text} {var : Option (Text × Text)}
    (h : afterHeading head.name text = (endl, var)) :
    options (head.text ++ text) = named var ++ options (skipEnd endl) := by
  have hne : head.text ++ text ≠ [] := by simp [Head.text]
  rw [options_of_ne hne, head.parse, h, addOption_eq]

lemma options_hollow (head : Head) (blanks : Blanks) (comment : Option OneLine) :
    options (head.text ++ (blanks.1 ++ (commentText comment ++ tail))) =
      named (Line.hollow head blanks comment).given ++ options (skipEnd tail) := by
  apply options_head
  unfold Line.given
  dsimp only
  split
  next hempty =>
    obtain ⟨hblanks, rfl⟩ := hempty
    rw [hblanks]
    exact afterHeading_none htail head.name
  next hsome =>
    have hne : blanks.1 ≠ [] ∨ ∃ text, commentText comment ++ tail = '#' :: text := by
      cases comment with
      | none => exact .inl fun hnil => hsome ⟨hnil, rfl⟩
      | some comment => exact .inr ⟨_, rfl⟩
    have hstop : ∀ c rest, commentText comment ++ tail = c :: rest → c = '#' ∨ endline c = true := by
      intro c rest heq
      cases comment with
      | none => exact .inr (htail.head c rest heq)
      | some comment => exact .inl (List.cons.inj heq).1.symm
    rw [afterHeading_blank blanks.2 head.name hne hstop, (htail.cut (commentText_oneLine comment)).2]

lemma options_plain (head : Head) (blanks trail : Blanks) {ch : Char} {rest : Text}
    (first : whitespace ch = false ∧ ch ≠ '[' ∧ ch ≠ '#')
    (hrest : ∀ c ∈ rest, c ≠ '#' ∧ endline c = false) (comment : Option OneLine) :
    options (head.text ++ (blanks.1 ++ (ch :: rest ++ (trail.1 ++ (commentText comment ++ tail))))) =
      named (some (head.name, ch :: rest ++ trail.1)) ++ options (skipEnd tail) := by
  have hline : ∀ c ∈ (rest ++ trail.1) ++ commentText comment, endline c = false :=
    append_oneLine (append_oneLine (fun c hc => (hrest c hc).2) (blanks_oneLine trail))
      (commentText_oneLine comment)
  have hhash : '#' ∉ ch :: rest ++ trail.1 := by
    rw [cons_append, mem_cons, mem_append]
    rintro (hch | hmem | hmem)
    · exact first.2.2 hch.symm
    · exact (hrest _ hmem).1 rfl
    · exact ne_hash_of_spaceTab (trail.2 _ hmem) rfl
  apply options_head
  obtain ⟨hcut, hend⟩ := htail.cut hline
  rw [cons_append, afterHeading_shown blanks.2 head.name _ first.1 first.2.2 first.2.1,
    ← append_assoc, ← append_assoc, hcut, hend, ← cons_append, ← cons_append,
    toText_append hhash, toText_comment, append_nil]

lemma options_list (head : Head) (blanks trail : Blanks) {body : Text}
    (balanced : closing 1 body = some []) (comment : Option OneLine)
    (hclear : trail.1 = [] → ∀ text, comment = some text → Silent text.1) :
    options (head.text ++ (blanks.1 ++ ('[' :: body ++ (trail.1 ++ (commentText comment ++ tail))))) =
      named (some (head.name, toText ('[' :: body))) ++ options (skipEnd tail) := by
  have hskip := skipList_of_closing balanced (trail.1 ++ (commentText comment ++ tail))
  rw [nil_append] at hskip
  have hbody : body ++ (trail.1 ++ (commentText comment ++ tail)) ≠ [] := by
    intro hnil
    rw [(append_eq_nil_iff.mp hnil).1] at balanced
    cases balanced
  have hread := afterHeading_list blanks.2 head.name hbody
  rw [hskip, take_length_sub rfl] at hread
  rw [cons_append, options_head head hread]
  congr 1
  obtain ⟨trail, htrail⟩ := trail
  -- the step over a line end goes over whatever stands behind the list
  cases trail with
  | nil =>
    cases comment with
    | none => rfl
    | some comment => exact options_silent htail comment.2 (hclear rfl comment rfl)
  | cons ch trail =>
    obtain ⟨hch, htrail⟩ := forall_mem_cons.mp htrail
    have hstep : skipEnd (ch :: trail ++ (commentText comment ++ tail)) =
        trail ++ (commentText comment ++ tail) := by
      rw [cons_append, skipEnd, if_neg]
      rintro rfl
      exact absurd hch (by decide)
    rw [hstep, options_blank_line htail htrail]

lemma options_line (line : Line) (hclear : line.Clear) :
    options (line.text ++ tail) = named line.given ++ options (skipEnd tail) := by
  cases line with
  | silent text quiet => exact options_silent htail text.2 quiet
  | hollow head blanks comment =>
    rw [Line.text, append_assoc, append_assoc]
    exact options_hollow htail head blanks comment
  | option head blanks value trail comment =>
    rw [Line.text, append_assoc, append_assoc, append_assoc, append_assoc]
    cases value with
    | plain ch rest first rest_plain closed =>
      exact options_plain htail head blanks trail first rest_plain comment
    | list body balanced => exact options_list htail head blanks trail balanced comment (hclear rfl)

end

lemma options_file (file : File) (hclear : ∀ line ∈ file.allLines, line.Clear) :
    options file.text = file.allLines.flatMap fun line => named line.given := by
  obtain ⟨lines, last⟩ := file
  unfold File.text File.allLines at *
  induction lines with
  | nil =>
    cases last with
    | none => rfl
    | some line =>
      have hread := options_line (.inl rfl) line (hclear line (by simp))
      have hend : options (skipEnd []) = [] := rfl
      simpa [hend] using hread
  | cons line lines ih =>
    obtain ⟨line, ending⟩ := line
    rw [map_cons, cons_append, forall_mem_cons] at hclear
    have hstep : ∀ rest, skipEnd (ending.text ++ rest) = rest := by
      intro rest
      cases ending <;> rfl
    have hread : ∀ rest, options (line.text ++ (ending.text ++ rest)) =
        named line.given ++ options rest := by
      intro rest
      rw [options_line (.inr ⟨ending, rest, rfl⟩) line hclear.1, hstep]
    rw [flatMap_cons, append_assoc, append_assoc, hread, ih hclear.2, map_cons,
      cons_append, flatMap_cons]

/-! ## What is read and what is promised -/

section

variable {key : Text} (hkey : key ≠ [])
include hkey

lemma get?_named (name value : Text) : KeyMap.get? key (named (some (name, value))) =
    if normalizeConfigKey name = key then some value else none := by
  unfold named
  dsimp only
  split
  next hempty => rw [hempty, if_neg (Ne.symm hkey), KeyMap.get?_nil]
  next =>
    rw [KeyMap.get?_cons, KeyMap.get?_nil]
    by_cases hname : normalizeConfigKey name = key
    · rw [if_pos hname, if_pos hname]
    · rw [if_neg hname, if_neg hname]

omit hkey in
lemma promised_solid {line : Line} {name value : Text} (h : line.promised = some (name, value)) :
    ∃ ch rest, value = ch :: rest ∧ spaceTab ch = false := by
  cases line with
  | silent | hollow => cases h
  | option head blanks value' trail comment =>
    obtain ⟨-, rfl⟩ := Prod.mk.inj (Option.some.inj h)
    cases value' with
    | plain ch rest first =>
      refine ⟨ch, toText rest, ?_, (Bool.or_eq_false_iff.mp first.1).1⟩
      exact @toText_append [ch] rest (by simpa using Ne.symm first.2.2)
    | list body => exact ⟨'[', toText body, @toText_append ['['] body (by decide), by decide⟩

omit hkey in
lemma get?_promised_solid {lines : List Line} {value : Text}
    (h : KeyMap.get? key (lines.flatMap fun line => named line.promised) = some value) :
    ∃ ch rest, value = ch :: rest ∧ spaceTab ch = false := by
  obtain ⟨line, -, hmem⟩ := mem_flatMap.mp (KeyMap.mem_of_get? h)
  cases hpromised : line.promised with
  | none => simp [hpromised, named] at hmem
  | some var =>
    rw [hpromised] at hmem
    unfold named at hmem
    dsimp only at hmem
    split at hmem
    · cases hmem
    · obtain ⟨-, rfl⟩ := Prod.mk.inj (mem_singleton.mp hmem)
      exact promised_solid hpromised

lemma not_gives {line : Line} (h : line.gives key = false) :
    KeyMap.get? key (named line.given) = none ∧ KeyMap.get? key (named line.promised) = none := by
  cases line with
  | silent => exact ⟨rfl, rfl⟩
  | hollow head blanks comment =>
    refine ⟨?_, rfl⟩
    unfold Line.given
    dsimp only
    split
    · rfl
    next hsome =>
      rw [get?_named hkey, if_neg]
      intro hname
      simp [Line.gives, hname] at h
      exact hsome h
  | option head =>
    have hname : normalizeConfigKey head.name ≠ key := by simpa [Line.gives] using h
    exact ⟨(get?_named hkey _ _).trans (if_neg hname), (get?_named hkey _ _).trans (if_neg hname)⟩

lemma gives_iff {line : Line} (h : line.gives key = true) (lines : List Line) :
    KeyMap.get? key (named line.given ++ lines.flatMap fun line => named line.given) =
        KeyMap.get? key (named line.promised ++ lines.flatMap fun line => named line.promised) ↔
      line.Exact := by
  cases line with
  | silent => cases h
  | hollow head blanks comment =>
    simp only [Line.gives, Bool.and_eq_true, Bool.not_eq_true', decide_eq_false_iff_not,
      decide_eq_true_eq] at h
    have hgiven : (Line.hollow head blanks comment).given = some (head.name, blanks.1) :=
      if_neg h.1
    rw [hgiven, KeyMap.get?_append, get?_named hkey, if_pos h.2, Option.some_or]
    refine iff_of_false (fun hsame => ?_) id
    -- a promised value is not blank
    obtain ⟨ch, rest, hvalue, hch⟩ := get?_promised_solid hsame.symm
    exact absurd (blanks.2 ch (by simp [hvalue])) (by simp [hch])
  | option head blanks value trail comment =>
    have hname : normalizeConfigKey head.name = key := by simpa [Line.gives] using h
    unfold Line.given Line.promised Line.Exact
    dsimp only
    rw [KeyMap.get?_append, KeyMap.get?_append, get?_named hkey, get?_named hkey, if_pos hname,
      if_pos hname, Option.some_or, Option.some_or, Option.some_inj]
    cases value with
    | list => simp [Value.isList]
    | plain ch rest first rest_plain =>
      have hhash : '#' ∉ ch :: rest := by
        rw [mem_cons]
        rintro (hch | hmem)
        · exact first.2.2 hch.symm
        · exact (rest_plain _ hmem).1 rfl
      have hcontent : toText (ch :: rest) = ch :: rest := toText_of_not_mem hhash
      simp [Value.isList, Value.content, Value.text, hcontent]

lemma get?_iff (lines : List Line) : KeyMap.get? key (lines.flatMap fun line => named line.given) =
        KeyMap.get? key (lines.flatMap fun line => named line.promised) ↔
      ∀ line, lines.find? (·.gives key) = some line → line.Exact := by
  induction lines with
  | nil => simp
  | cons line lines ih =>
    rw [flatMap_cons, flatMap_cons, find?_cons]
    cases hgives : line.gives key with
    | true => simpa using gives_iff hkey hgives lines
    | false =>
      obtain ⟨hgiven, hpromised⟩ := not_gives hkey hgives
      rw [KeyMap.get?_append, KeyMap.get?_append, hgiven, hpromised, Option.none_or, Option.none_or]
      exact ih

end

lemma key_ne_nil {var : Option (Text × Text)} {entry : Text × Text} (h : entry ∈ named var) :
    entry.1 ≠ [] := by
  cases var with
  | none => cases h
  | some var =>
    unfold named at h
    dsimp only at h
    split at h
    · cases h
    next hne =>
      rw [mem_singleton.mp h]
      exact hne

lemma get?_nil_key (lines : List Line) (var : Line → Option (Text × Text)) :
    KeyMap.get? [] (lines.flatMap fun line => named (var line)) = none := by
  cases hfound : KeyMap.get? [] (lines.flatMap fun line => named (var line)) with
  | none => rfl
  | some value =>
    obtain ⟨line, -, hmem⟩ := mem_flatMap.mp (KeyMap.mem_of_get? hfound)
    exact absurd rfl (key_ne_nil hmem)

/-- A file is read as it promises exactly if, for each option, the first line that has anything
behind the equals sign is well formed, and its value is a list or has no blank behind it. -/
theorem file_read_iff (file : File) (hclear : ∀ line ∈ file.allLines, line.Clear) :
    file.Read ↔ ∀ key, key ≠ [] → ∀ line, file.allLines.find? (·.gives key) = some line →
      line.Exact := by
  have hreads : ∀ key, (parseConfig file.text).find? key = file.promised key ↔
      KeyMap.get? key (file.allLines.flatMap fun line => named line.given) =
        KeyMap.get? key (file.allLines.flatMap fun line => named line.promised) := by
    intro key
    rw [find?_parseConfig, options_file file hclear, File.promised]
  constructor
  · intro hread key hkey
    exact (get?_iff hkey _).mp ((hreads key).mp (hread.reads key))
  · intro hexact
    refine ⟨fun text htext => (parseOption_suffix text).trans htext, fun text _ => length_next,
      fun key => (hreads key).mpr ?_⟩
    by_cases hkey : key = []
    · rw [hkey, get?_nil_key, get?_nil_key]
    · exact (get?_iff hkey _).mpr (hexact key hkey)

/-! ### Files of one option -/

lemma spaceTab_nil : ∀ ch ∈ ([] : Text), spaceTab ch = true := by simp

lemma spaceTab_space : ∀ ch ∈ [' '], spaceTab ch = true := by simp [spaceTab]

def oneHead : Head where
  lead := []
  name := ['a']
  gap := [' ']
  lead_blank := spaceTab_nil
  starts := ⟨'a', [], rfl, by decide⟩
  plain := by simp [endline]
  closed := by decide
  gap_blank := spaceTab_space

def space : Blanks := ⟨[' '], spaceTab_space⟩

def oneValue : Value := .plain 'b' [] (by decide) nofun (by decide)

/-- The line `a = b`, with these blanks and this comment behind it. -/
def oneOption (trail : Blanks) (comment : Option OneLine) : Line :=
  .option oneHead space oneValue trail comment

theorem one_option_read :
    (∀ line ∈ (File.mk [(oneOption ⟨[], nofun⟩ none, .crlf)] none).allLines, line.Clear) ∧
      (File.mk [(oneOption ⟨[], nofun⟩ none, .crlf)] none).Read := by
  have hclear : ∀ line ∈ (File.mk [(oneOption ⟨[], nofun⟩ none, .crlf)] none).allLines,
      line.Clear := by
    intro line hline
    rw [mem_singleton.mp hline]
    exact nofun
  refine ⟨hclear, (file_read_iff _ hclear).mpr ?_⟩
  intro key _ line hline
  rw [mem_singleton.mp (mem_of_find?_eq_some hline)]
  exact .inr rfl

/-- The blank before a comment is read as part of the value; and of `a = #` and `a = b` in two
lines, the first gives the option. -/
theorem blanks_read_as_values : ¬ (File.mk [(oneOption space (some ⟨[], nofun⟩), .lf)] none).Read ∧
      ¬ (File.mk [(.hollow oneHead space (some ⟨[], nofun⟩), .lf),
        (oneOption ⟨[], nofun⟩ none, .lf)] none).Read :=
  ⟨fun h => absurd (h.reads ['a']) (by decide), fun h => absurd (h.reads ['a']) (by decide)⟩

end Vibeshine.ConfigFile
