import Vibeshine.ConfigFile.Options

/-! # What the reader makes of a line

The value of an option starts behind the blanks after the equals sign. What follows is read
off the line, or for a list off the brackets.
-/

namespace Vibeshine.ConfigFile

open Library List Bool

lemma stripComments_comment (ch : Char) (text : Text) : stripComments true (ch :: text) =
    if endline ch then ch :: stripComments false text else stripComments true text := rfl

lemma stripComments_text (ch : Char) (text : Text) : stripComments false (ch :: text) =
    if ch = '#' then stripComments true text else ch :: stripComments false text := rfl

lemma hash_not_mem_stripComments (inside : Bool) (text : Text) :
    '#' ∉ stripComments inside text := by
  induction text generalizing inside with
  | nil => cases inside <;> exact not_mem_nil
  | cons ch text ih =>
    cases inside with
    | true =>
      rw [stripComments_comment]
      split
      next hend =>
        refine not_mem_cons_of_ne_of_not_mem ?_ (ih false)
        rintro rfl
        exact absurd hend (by decide)
      next => exact ih true
    | false =>
      rw [stripComments_text]
      split
      next => exact ih true
      next hne => exact not_mem_cons_of_ne_of_not_mem (Ne.symm hne) (ih false)

lemma hash_not_mem_toText (text : Text) : '#' ∉ toText text := hash_not_mem_stripComments _ _

lemma toText_of_not_mem {text : Text} (h : '#' ∉ text) : toText text = text := by
  induction text with
  | nil => rfl
  | cons ch text ih =>
    obtain ⟨hch, htext⟩ := not_or.mp fun h' => h (mem_cons.mpr h')
    rw [toText, stripComments_text, if_neg (Ne.symm hch)]
    exact congrArg (ch :: ·) (ih htext)

lemma toText_append {before text : Text} (h : '#' ∉ before) :
    toText (before ++ text) = before ++ toText text := by
  induction before with
  | nil => rfl
  | cons ch before ih =>
    obtain ⟨hch, hbefore⟩ := not_or.mp fun h' => h (mem_cons.mpr h')
    rw [cons_append, toText, stripComments_text, if_neg (Ne.symm hch)]
    exact congrArg (ch :: ·) (ih hbefore)

lemma stripComments_line {text : Text} (h : ∀ ch ∈ text, endline ch = false) :
    stripComments true text = [] := by
  induction text with
  | nil => rfl
  | cons ch text ih =>
    rw [stripComments_comment, if_neg (by simp [h ch mem_cons_self])]
    exact ih fun c hc => h c (mem_cons_of_mem _ hc)

lemma rdropWhile_append_cons {p : Char → Bool} {ch : Char} (hch : p ch = false)
    (before after : Text) :
    (before ++ ch :: after).rdropWhile p = before ++ (ch :: after).rdropWhile p := by
  induction after using List.reverseRecOn with
  | nil =>
    have hneg : ¬ p ch = true := by simp [hch]
    rw [rdropWhile_concat_neg _ _ _ hneg, rdropWhile_singleton, if_neg hneg]
  | append_singleton after last ih =>
    have hsplit : before ++ ch :: (after ++ [last]) = (before ++ ch :: after) ++ [last] := by simp
    rw [hsplit, ← cons_append, rdropWhile_concat, rdropWhile_concat]
    split
    · exact ih
    · rw [append_assoc]

lemma rdropWhile_cons {p : Char → Bool} {ch : Char} (hch : p ch = false) (after : Text) :
    (ch :: after).rdropWhile p = ch :: after.rdropWhile p := by
  induction after using List.reverseRecOn with
  | nil => rw [rdropWhile_singleton, if_neg (by simp [hch]), rdropWhile_nil]
  | append_singleton after last ih =>
    rw [← cons_append, rdropWhile_concat, rdropWhile_concat]
    split
    · exact ih
    · rfl

lemma whitespace_of_spaceTab {ch : Char} (h : spaceTab ch = true) : whitespace ch = true := by
  simp [whitespace, h]

lemma endline_of_spaceTab {ch : Char} (h : spaceTab ch = true) : endline ch = false := by
  simp only [spaceTab, or_eq_true, decide_eq_true_eq] at h
  obtain rfl | rfl := h <;> decide

lemma ne_hash_of_spaceTab {ch : Char} (h : spaceTab ch = true) : ch ≠ '#' := by
  rintro rfl
  exact absurd h (by decide)

lemma rdropWhile_blank {blanks : Text} (h : ∀ ch ∈ blanks, spaceTab ch = true)
    (text : Text) : (text ++ blanks).rdropWhile spaceTab = text.rdropWhile spaceTab := by
  induction blanks using List.reverseRecOn with
  | nil => rw [append_nil]
  | append_singleton blanks last ih =>
    rw [← append_assoc, rdropWhile_concat_pos _ _ _ (h last (by simp))]
    exact ih fun ch hch => h ch (mem_append_left _ hch)

/-- Names that are read as they are written. -/
structure GoodKey (key : Text) : Prop where
  starts : ∃ first rest, key = first :: rest ∧ asciiWord first = true
  plain : ∀ ch ∈ key, ch ≠ '=' ∧ ch ≠ '#' ∧ endline ch = false
  closed : key.rdropWhile spaceTab = key

namespace GoodKey

variable {key : Text}

lemma asciiWord_not_whitespace {ch : Char} (h : asciiWord ch = true) : whitespace ch = false := by
  rw [eq_false_iff]
  intro hblank
  simp only [whitespace, spaceTab, endline, or_eq_true, decide_eq_true_eq] at hblank
  obtain (rfl | rfl) | (rfl | rfl) := hblank <;> exact absurd h (by decide)

lemma ne_nil (h : GoodKey key) : key ≠ [] := by
  obtain ⟨first, rest, rfl, -⟩ := h.starts
  exact nofun

lemma normalize (h : GoodKey key) : normalizeConfigKey key = key := by
  obtain ⟨first, rest, rfl, hfirst⟩ := h.starts
  rw [normalizeConfigKey, dropWhile_cons, hfirst]
  rfl

end GoodKey

/-! ## One option -/

section

variable {key blanks tail : Text} {ch : Char}

/-- What stands before the value of an option: its name, between blanks, and the equals sign. -/
structure Head where
  lead : Text
  name : Text
  gap : Text
  lead_blank : ∀ ch ∈ lead, spaceTab ch = true
  starts : ∃ first rest, name = first :: rest ∧ whitespace first = false
  plain : ∀ ch ∈ name, ch ≠ '=' ∧ ch ≠ '#' ∧ endline ch = false
  closed : name.rdropWhile spaceTab = name
  gap_blank : ∀ ch ∈ gap, spaceTab ch = true

namespace Head

variable (head : Head)

def before : Text := head.name ++ head.gap

def text : Text := head.lead ++ (head.before ++ ['='])

lemma before_plain : ∀ ch ∈ head.before, ch ≠ '=' ∧ ch ≠ '#' ∧ endline ch = false := by
  intro ch hch
  obtain hname | hgap := mem_append.mp hch
  · exact head.plain ch hname
  · have hspace := head.gap_blank ch hgap
    refine ⟨?_, ne_hash_of_spaceTab hspace, endline_of_spaceTab hspace⟩
    rintro rfl
    exact absurd hspace (by decide)

lemma before_ne_nil : head.before ≠ [] := by
  obtain ⟨first, rest, hname, -⟩ := head.starts
  rw [before, hname]
  exact nofun

lemma rdropWhile_before : head.before.rdropWhile spaceTab = head.name := by
  rw [before, rdropWhile_blank head.gap_blank, head.closed]

lemma hash_not_mem : '#' ∉ head.name := fun hmem => (head.plain _ hmem).2.1 rfl

lemma takeWhile_before (text : Text) :
    (head.before ++ '=' :: text).takeWhile (fun c => decide (c ≠ '=')) = head.before := by
  have hplain : ∀ c ∈ head.before, decide (c ≠ '=') = true := fun c hc =>
    decide_eq_true (head.before_plain c hc).1
  rw [takeWhile_append_of_pos hplain, takeWhile_cons_of_neg (by decide), append_nil]

lemma drop_before (text : Text) :
    (head.before ++ '=' :: text).drop (head.before.length + 1) = text := by
  rw [← drop_drop, drop_left]
  rfl

end Head

def afterHeading (name text : Text) : Text × Option (Text × Text) :=
  let line := text.takeWhile fun c => !endline c
  let endl := text.dropWhile fun c => !endline c
  let skipped := (((line.takeWhile (· ≠ '#')).rdropWhile whitespace).takeWhile spaceTab).length
  if line.drop skipped = [] then (endl, none)
  else
    match text.drop skipped with
    | '[' :: list =>
      if list = [] then ([], none)
      else
        (skipList 1 list,
          some (name, toText ('[' :: list.take (list.length - (skipList 1 list).length))))
    | _ => (endl, some (name, toText (line.drop skipped)))

lemma Head.parse (head : Head) (text : Text) :
    parseOption (head.text ++ text) = afterHeading head.name text := by
  have hstart : (head.text ++ text).dropWhile whitespace = head.before ++ '=' :: text := by
    obtain ⟨first, rest, hname, hfirst⟩ := head.starts
    have hlead : ∀ ch ∈ head.lead, whitespace ch = true := fun ch hch =>
      whitespace_of_spaceTab (head.lead_blank ch hch)
    rw [Head.text, append_assoc, dropWhile_append_of_pos hlead, Head.before, hname,
      cons_append, cons_append, cons_append,
      dropWhile_cons_of_neg (by simp [hfirst])]
    simp
  have hsplit : ∀ rest : Text, head.before ++ '=' :: rest = (head.before ++ ['=']) ++ rest := by
    simp
  have hlines : ∀ c ∈ head.before ++ ['='], (!endline c) = true := by
    intro c hc
    obtain hc | hc := mem_append.mp hc
    · simp [(head.before_plain c hc).2.2]
    · rw [mem_singleton.mp hc]
      decide
  have hhash : ∀ c ∈ head.before ++ ['='], decide (c ≠ '#') = true := by
    intro c hc
    obtain hc | hc := mem_append.mp hc
    · exact decide_eq_true (head.before_plain c hc).2.1
    · rw [mem_singleton.mp hc]
      decide
  have hcontent : ∀ rest : Text, ((head.before ++ ['=']) ++ rest).rdropWhile whitespace =
      head.before ++ '=' :: rest.rdropWhile whitespace := by
    intro rest
    rw [← hsplit, rdropWhile_append_cons (by decide), rdropWhile_cons (by decide)]
  have hdrop : ∀ (rest : Text) (skipped : Nat),
      (head.before ++ '=' :: rest).drop (head.before.length + 1 + skipped) = rest.drop skipped := by
    intro rest skipped
    rw [← drop_drop, head.drop_before]
  have hnamed : ∀ rest : Text, ¬ (head.before = head.before ++ '=' :: rest ∨ head.before = []) := by
    rintro rest (hall | hnone)
    · have hlength := congrArg List.length hall
      simp at hlength
    · exact head.before_ne_nil hnone
  unfold parseOption
  dsimp only
  rw [hstart, hsplit text, takeWhile_append_of_pos hlines, dropWhile_append_of_pos hlines,
    takeWhile_append_of_pos hhash, hcontent, head.takeWhile_before, head.drop_before, ← hsplit,
    ← hsplit, hdrop, hdrop, head.rdropWhile_before, toText_of_not_mem head.hash_not_mem]
  exact if_neg (hnamed _)

def heading (key : Text) : Text := key ++ [' ', '=']

def GoodKey.head (hkey : GoodKey key) : Head where
  lead := []
  name := key
  gap := [' ']
  lead_blank := nofun
  starts := by
    obtain ⟨first, rest, hname, hfirst⟩ := hkey.starts
    exact ⟨first, rest, hname, GoodKey.asciiWord_not_whitespace hfirst⟩
  plain := hkey.plain
  closed := hkey.closed
  gap_blank := by simp [spaceTab]

lemma GoodKey.head_text (hkey : GoodKey key) : hkey.head.text = heading key := by
  simp [Head.text, Head.before, GoodKey.head, heading]

lemma parse_heading (hkey : GoodKey key) (text : Text) :
    parseOption (heading key ++ text) = afterHeading key text := by
  rw [← hkey.head_text]
  exact hkey.head.parse text

section

variable (hblanks : ∀ c ∈ blanks, spaceTab c = true)
include hblanks

lemma afterHeading_shown (name tail : Text) (hch : whitespace ch = false) (hhash : ch ≠ '#')
    (hlist : ch ≠ '[') : afterHeading name (blanks ++ ch :: tail) =
      (tail.dropWhile fun c => !endline c,
        some (name, toText (ch :: tail.takeWhile fun c => !endline c))) := by
  obtain ⟨hspace, hend⟩ := (or_eq_false_iff).mp hch
  have hline : ∀ c ∈ blanks, (!endline c) = true := fun c hc => by
    simp [endline_of_spaceTab (hblanks c hc)]
  have hplain : ∀ c ∈ blanks, decide (c ≠ '#') = true := fun c hc =>
    decide_eq_true (ne_hash_of_spaceTab (hblanks c hc))
  unfold afterHeading
  dsimp only
  rw [takeWhile_append_of_pos hline, dropWhile_append_of_pos hline,
    takeWhile_cons_of_pos (by simp [hend]), dropWhile_cons_of_pos (by simp [hend]),
    takeWhile_append_of_pos hplain, takeWhile_cons_of_pos (by simpa using hhash),
    rdropWhile_append_cons hch, rdropWhile_cons hch, takeWhile_append_of_pos hblanks,
    takeWhile_cons_of_neg (by simp [hspace]), append_nil, drop_left, drop_left,
    if_neg (cons_ne_nil _ _)]
  split
  next heq => exact absurd (List.cons.inj heq).1 hlist
  next => rfl

lemma afterHeading_list (name : Text) {tail : Text} (htail : tail ≠ []) :
    afterHeading name (blanks ++ '[' :: tail) = (skipList 1 tail,
        some (name, toText ('[' :: tail.take (tail.length - (skipList 1 tail).length)))) := by
  have hline : ∀ c ∈ blanks, (!endline c) = true := fun c hc => by
    simp [endline_of_spaceTab (hblanks c hc)]
  have hplain : ∀ c ∈ blanks, decide (c ≠ '#') = true := fun c hc =>
    decide_eq_true (ne_hash_of_spaceTab (hblanks c hc))
  unfold afterHeading
  dsimp only
  rw [takeWhile_append_of_pos hline, takeWhile_cons_of_pos (by decide),
    takeWhile_append_of_pos hplain, takeWhile_cons_of_pos (by decide),
    rdropWhile_append_cons (by decide), rdropWhile_cons (by decide),
    takeWhile_append_of_pos hblanks, takeWhile_cons_of_neg (by decide), append_nil,
    drop_left, drop_left, if_neg (cons_ne_nil _ _)]
  exact if_neg htail

lemma afterHeading_blank (name : Text) {tail : Text}
    (hne : blanks ≠ [] ∨ ∃ comment, tail = '#' :: comment)
    (hstop : ∀ c rest, tail = c :: rest → c = '#' ∨ endline c = true) :
    afterHeading name (blanks ++ tail) = (tail.dropWhile fun c => !endline c, some (name, blanks)) := by
  have hline : ∀ c ∈ blanks, (!endline c) = true := fun c hc => by
    simp [endline_of_spaceTab (hblanks c hc)]
  have hplain : ∀ c ∈ blanks, decide (c ≠ '#') = true := fun c hc =>
    decide_eq_true (ne_hash_of_spaceTab (hblanks c hc))
  have hcut : (tail.takeWhile fun c => !endline c).takeWhile (fun c => decide (c ≠ '#')) = [] ∧
      toText (tail.takeWhile fun c => !endline c) = [] := by
    cases tail with
    | nil => exact ⟨rfl, rfl⟩
    | cons c rest =>
      obtain rfl | hend := hstop c rest rfl
      · rw [takeWhile_cons_of_pos (by decide)]
        refine ⟨takeWhile_cons_of_neg (by decide), ?_⟩
        refine stripComments_line fun c hc => ?_
        simpa using mem_takeWhile_imp hc
      · rw [takeWhile_cons_of_neg (by simp [hend])]
        exact ⟨rfl, rfl⟩
  have hhash : '#' ∉ blanks := fun h => ne_hash_of_spaceTab (hblanks _ h) rfl
  have hdrop : blanks.rdropWhile whitespace = [] :=
    rdropWhile_eq_nil_iff.mpr fun c hc => whitespace_of_spaceTab (hblanks c hc)
  have hsome : blanks ++ (tail.takeWhile fun c => !endline c) ≠ [] := by
    intro hnil
    obtain ⟨hblanksNil, htail⟩ := append_eq_nil_iff.mp hnil
    obtain hne | ⟨comment, rfl⟩ := hne
    · exact hne hblanksNil
    · rw [takeWhile_cons_of_pos (by decide)] at htail
      cases htail
  unfold afterHeading
  dsimp only
  rw [takeWhile_append_of_pos hline, dropWhile_append_of_pos hline,
    takeWhile_append_of_pos hplain, hcut.1, append_nil, hdrop, takeWhile_nil,
    length_nil, drop_zero, drop_zero, if_neg hsome, toText_append hhash, hcut.2,
    append_nil]
  split
  next list heq =>
    cases blanks with
    | nil =>
      obtain hhashEq | hend := hstop '[' list (by simpa using heq)
      · exact absurd hhashEq (by decide)
      · exact absurd hend (by decide)
    | cons c rest =>
      obtain rfl := (List.cons.inj heq).1
      exact absurd (hblanks '[' mem_cons_self) (by decide)
  next => rfl

end

variable (hkey : GoodKey key) (hblanks : ∀ c ∈ blanks, spaceTab c = true)
include hkey hblanks

lemma parse_shown (tail : Text) (hch : whitespace ch = false) (hhash : ch ≠ '#') (hlist : ch ≠ '[') :
    parseOption (heading key ++ (blanks ++ ch :: tail)) = (tail.dropWhile fun c => !endline c,
        some (key, toText (ch :: tail.takeWhile fun c => !endline c))) := by
  rw [parse_heading hkey]
  exact afterHeading_shown hblanks key tail hch hhash hlist

lemma parse_list {tail : Text} (htail : tail ≠ []) :
    parseOption (heading key ++ (blanks ++ '[' :: tail)) = (skipList 1 tail,
        some (key, toText ('[' :: tail.take (tail.length - (skipList 1 tail).length)))) := by
  rw [parse_heading hkey]
  exact afterHeading_list hblanks key htail

lemma parse_blank (tail : Text) (hne : blanks ≠ [])
    (hstop : ∀ c rest, tail = c :: rest → c = '#' ∨ endline c = true) :
    parseOption (heading key ++ (blanks ++ tail)) =
      (tail.dropWhile fun c => !endline c, some (key, blanks)) := by
  rw [parse_heading hkey]
  exact afterHeading_blank hblanks key (.inl hne) hstop

end

end Vibeshine.ConfigFile
