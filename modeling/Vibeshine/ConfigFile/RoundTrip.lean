import Vibeshine.ConfigFile.Patch

/-! # The written file read back

Written options are read one after the other as long as their values survive; the first value
that does not is read as something else, whatever follows it.
-/

namespace Vibeshine.ConfigFile

open Library List Bool

/-! ## One written option -/

section

variable {key value rest blanks tail : Text} {ch : Char} {exact : Bool}

lemma writeOption_ne_nil (entry : Text × Text) (rest : Text) : writeOption entry ++ rest ≠ [] := by
  simp [writeOption, heading]

lemma options_written (hkey : GoodKey key) {endl result : Text}
    (h : parseOption (writeOption (key, value) ++ rest) = (endl, some (key, result))) :
    options (writeOption (key, value) ++ rest) = (key, result) :: options (skipEnd endl) := by
  rw [options_of_ne (writeOption_ne_nil _ _), h]
  unfold addOption
  dsimp only
  rw [hkey.normalize, if_neg hkey.ne_nil]

lemma writeOption_append (key before tail rest : Text) : writeOption (key, before ++ tail) ++ rest =
      heading key ++ ((' ' :: before) ++ (tail ++ '\n' :: rest)) := by
  simp [writeOption]

lemma blank_cons (hblanks : ∀ c ∈ blanks, spaceTab c = true) :
    ∀ c ∈ ' ' :: blanks, spaceTab c = true := by
  intro c hc
  obtain rfl | hc := mem_cons.mp hc
  · decide
  · exact hblanks c hc

lemma takeWhile_line (hline : ∀ c ∈ tail, endline c = false) :
    (tail ++ '\n' :: rest).takeWhile (fun c => !endline c) = tail ∧
      (tail ++ '\n' :: rest).dropWhile (fun c => !endline c) = '\n' :: rest := by
  have hplain : ∀ c ∈ tail, (!endline c) = true := fun c hc => by simp [hline c hc]
  rw [takeWhile_append_of_pos hplain, dropWhile_append_of_pos hplain,
    takeWhile_cons_of_neg (by decide), dropWhile_cons_of_neg (by decide)]
  exact ⟨append_nil _, rfl⟩

lemma skipEnd_line (rest : Text) : skipEnd ('\n' :: rest) = rest := rfl

section

variable (hkey : GoodKey key)

include hkey

section

variable (hblanks : ∀ c ∈ blanks, spaceTab c = true)

include hblanks

lemma options_blank_value (rest : Text) :
    options (writeOption (key, blanks) ++ rest) = (key, ' ' :: blanks) :: options rest := by
  have hparse := parse_blank hkey (blank_cons hblanks) ('\n' :: rest)
    (cons_ne_nil _ _) fun c rest' h => .inr ((List.cons.inj h).1 ▸ by decide)
  have hwritten := writeOption_append key blanks [] rest
  rw [append_nil, nil_append] at hwritten
  rw [dropWhile_cons_of_neg (by decide)] at hparse
  rw [options_written hkey (hwritten ▸ hparse), skipEnd_line]

lemma options_shown_value (hch : whitespace ch = false) (hhash : ch ≠ '#') (hlist : ch ≠ '[')
    (hline : ∀ c ∈ tail, endline c = false) (rest : Text) :
    options (writeOption (key, blanks ++ ch :: tail) ++ rest) =
      (key, toText (ch :: tail)) :: options rest := by
  have hparse := parse_shown hkey (blank_cons hblanks) (tail ++ '\n' :: rest) hch hhash hlist
  rw [(takeWhile_line hline).1, (takeWhile_line hline).2] at hparse
  have hsplit : writeOption (key, blanks ++ ch :: tail) ++ rest =
      heading key ++ ((' ' :: blanks) ++ ch :: (tail ++ '\n' :: rest)) :=
    writeOption_append key blanks (ch :: tail) rest
  rw [← hsplit] at hparse
  rw [options_written hkey hparse, skipEnd_line]

lemma options_list_value
    (tail rest : Text) : options (writeOption (key, blanks ++ '[' :: tail) ++ rest) =
      (key, toText ('[' :: (tail ++ '\n' :: rest).take
        ((tail ++ '\n' :: rest).length - (skipList 1 (tail ++ '\n' :: rest)).length))) ::
        options (skipEnd (skipList 1 (tail ++ '\n' :: rest))) := by
  have hne : tail ++ '\n' :: rest ≠ [] := by simp
  have hparse := parse_list hkey (blank_cons hblanks) hne
  exact options_written hkey ((congrArg parseOption (writeOption_append key blanks _ rest)).trans hparse)

lemma options_hash_value
    (tail rest : Text) : ∃ following, options (writeOption (key, blanks ++ '#' :: tail) ++ rest) =
      (key, ' ' :: blanks) :: following := by
  have hparse := parse_blank hkey (blank_cons hblanks) ('#' :: tail ++ '\n' :: rest)
    (cons_ne_nil _ _) fun c rest' h => .inl (List.cons.inj h).1.symm
  exact ⟨_, options_written hkey ((congrArg parseOption (writeOption_append key blanks _ rest)).trans hparse)⟩

end

end

/-! ## Values that survive -/

lemma value_split (value : Text) :
    ∃ blanks, (∀ c ∈ blanks, spaceTab c = true) ∧ value = blanks ++ value.dropWhile spaceTab :=
  ⟨value.takeWhile spaceTab, fun _ => mem_takeWhile_imp, takeWhile_append_dropWhile.symm⟩

lemma spaceTab_head (h : value.dropWhile spaceTab = ch :: tail) : spaceTab ch = false := by
  have hne : value.dropWhile spaceTab ≠ [] := by simp [h]
  have hhead := head_dropWhile_not spaceTab hne
  simpa [h] using hhead

lemma FileValue.dropWhile_eq (h : FileValue value) :
    (∀ c ∈ value, spaceTab c = true) ∨ value.dropWhile spaceTab = value := by
  obtain ⟨list, rfl⟩ | ⟨-, hblank | ⟨ch, text, rfl, hch⟩⟩ := h.shape
  · exact .inr (dropWhile_cons_of_neg (by decide))
  · exact .inl hblank
  · obtain ⟨hspace, -⟩ := or_eq_false_iff.mp hch
    exact .inr (dropWhile_cons_of_neg (by simp [hspace]))

lemma dropWhile_eq_nil_of_blank (h : ∀ c ∈ value, spaceTab c = true) :
    value.dropWhile spaceTab = [] := by
  simpa using h

lemma Formed.oneLine (h : Formed exact value) (hshown : value.dropWhile spaceTab = ch :: tail)
    (hlist : ch ≠ '[') : ∀ c ∈ ch :: tail, endline c = false := by
  have hsub : ∀ c ∈ ch :: tail, c ∈ value := by
    intro c hc
    rw [← hshown] at hc
    exact (dropWhile_sublist _).subset hc
  cases exact with
  | false => exact fun c hc => h c (hsub c hc)
  | true =>
    have hfile : FileValue value := h
    obtain ⟨list, rfl⟩ | ⟨hline, -⟩ := hfile.shape
    · rw [dropWhile_cons_of_neg (by decide)] at hshown
      exact absurd (List.cons.inj hshown).1.symm hlist
    · exact fun c hc => hline c (hsub c hc)

lemma trim_append (value : Text) (hblanks : ∀ c ∈ blanks, spaceTab c = true)
    (htail : ∀ c ∈ tail, spaceTab c = true) : trim (blanks ++ value ++ tail) = trim (value ++ tail) ∧
      (value ≠ [] → spaceTab (value.headI) = false → trim (value ++ tail) = trim value) := by
  constructor
  · rw [trim, append_assoc, dropWhile_blank hblanks, trim]
  · intro hne hhead
    cases value with
    | nil => exact absurd rfl hne
    | cons ch text =>
      have hneg : ¬ spaceTab ch = true := by simpa using hhead
      rw [trim, cons_append, dropWhile_cons_of_neg hneg, ← cons_append,
        rdropWhile_blank htail, trim, dropWhile_cons_of_neg hneg]

lemma stored_exact (hvalue : FileValue value) (h : Survives true value) : stored value = value := by
  obtain hblank | hshown := hvalue.dropWhile_eq
  · unfold Survives at h
    rw [dropWhile_eq_nil_of_blank hblank] at h
    exact absurd h nofun
  · unfold Survives at h
    unfold stored
    rw [hshown] at h ⊢
    split at h
    · exact absurd h nofun
    next list =>
      obtain ⟨-, behind, hclosing, -, hnil⟩ := h
      rw [hclosing]
      dsimp only
      rw [hnil rfl, length_nil, Nat.sub_zero, take_length]
    next => rfl

lemma take_length_sub {text front behind : Text} (h : text = front ++ behind) :
    text.take (text.length - behind.length) = front := by
  rw [h, length_append, Nat.add_sub_cancel, take_left]

lemma trim_stored (h : Survives exact value) : trim (stored value) = trim value := by
  obtain ⟨blanks, hblanks, hvalue⟩ := value_split value
  unfold Survives at h
  unfold stored
  split at h
  next hnil =>
    have hall : ∀ c ∈ value, spaceTab c = true := by
      rw [hvalue, hnil, append_nil]
      exact hblanks
    rw [trim, dropWhile_eq_nil_of_blank (blank_cons hall), trim, dropWhile_eq_nil_of_blank hall]
  next list hlist =>
    obtain ⟨-, behind, hclosing, hbehind, -⟩ := h
    obtain ⟨inside, rfl⟩ := closing_suffix hclosing
    rw [hlist] at hvalue
    rw [hclosing]
    have htake : (inside ++ behind).take ((inside ++ behind).length - behind.length) = inside :=
      take_length_sub rfl
    have hpad := trim_append ('[' :: inside) hblanks hbehind
    dsimp only
    rw [htake, hvalue, ← hpad.2 (cons_ne_nil _ _) rfl, ← hpad.1]
    simp
  next hne hnotList =>
    have hsame : trim value = trim (value.dropWhile spaceTab) := by
      conv_lhs => rw [hvalue]
      have hnone : ∀ c ∈ ([] : Text), spaceTab c = true := by simp
      have hpad := (trim_append (value.dropWhile spaceTab) hblanks hnone).1
      rwa [append_nil, append_nil] at hpad
    rw [hsame]

section

variable (hkey : GoodKey key)

include hkey

lemma options_survives (hformed : Formed exact value) (h : Survives exact value) (rest : Text) :
    options (writeOption (key, value) ++ rest) = (key, stored value) :: options rest := by
  obtain ⟨blanks, hblanks, hvalue⟩ := value_split value
  unfold Survives at h
  unfold stored
  split at h
  next hnil =>
    have hall : ∀ c ∈ value, spaceTab c = true := by
      rw [hvalue, hnil, append_nil]
      exact hblanks
    exact options_blank_value hkey hall rest
  next list hlist =>
    obtain ⟨hhash, behind, hclosing, hbehind, -⟩ := h
    rw [hlist] at hvalue
    rw [hclosing]
    have hskip := skipList_of_closing hclosing ('\n' :: rest)
    obtain ⟨inside, rfl⟩ := closing_suffix hclosing
    have hinside : '#' ∉ '[' :: inside := by
      intro hmem
      refine hhash (hvalue ▸ mem_append_right _ ?_)
      obtain hmem | hmem := mem_cons.mp hmem
      · exact absurd hmem (by decide)
      · exact mem_cons_of_mem _ (mem_append_left _ hmem)
    have hfollowing : options (skipEnd (behind ++ '\n' :: rest)) = options rest := by
      cases behind with
      | nil => rfl
      | cons c behind =>
        have hblank : ∀ c ∈ behind ++ ['\n'], whitespace c = true := by
          intro c hc
          obtain hc | hc := mem_append.mp hc
          · exact whitespace_of_spaceTab (hbehind c (mem_cons_of_mem _ hc))
          · rw [mem_singleton.mp hc]
            decide
        have hne : c ≠ '\r' := by
          rintro rfl
          exact absurd (hbehind '\r' mem_cons_self) (by decide)
        change options (if c = '\r' then (behind ++ '\n' :: rest).drop 1
          else behind ++ '\n' :: rest) = options rest
        rw [if_neg hne, ← singleton_append, ← append_assoc]
        exact options_blank hblank rest
    have htake : (inside ++ behind).take ((inside ++ behind).length - behind.length) = inside :=
      take_length_sub rfl
    have hconsumed : (inside ++ behind ++ '\n' :: rest).take
        ((inside ++ behind ++ '\n' :: rest).length - (behind ++ '\n' :: rest).length) = inside :=
      take_length_sub (append_assoc _ _ _)
    rw [hvalue, options_list_value hkey hblanks _ rest, hskip, hconsumed, hfollowing,
      toText_of_not_mem hinside]
    dsimp only
    rw [htake]
  next hne hnotList =>
    cases hshown : value.dropWhile spaceTab with
    | nil => exact absurd hshown hne
    | cons ch tail =>
      have hlist : ch ≠ '[' := fun heq => hnotList tail (heq ▸ hshown)
      have hline := hformed.oneLine hshown hlist
      have hmem : ∀ c ∈ ch :: tail, c ∈ value := by
        intro c hc
        rw [hvalue, hshown]
        exact mem_append_right _ hc
      have hhash : '#' ∉ ch :: tail := fun hc => h (hmem _ hc)
      have hch : whitespace ch = false :=
        or_eq_false_iff.mpr ⟨spaceTab_head hshown, hline ch mem_cons_self⟩
      have hread := options_shown_value hkey hblanks hch
        (fun heq => hhash (heq ▸ mem_cons_self)) hlist
        (fun c hc => hline c (mem_cons_of_mem _ hc)) rest
      rw [hshown] at hvalue
      rw [hvalue, hread, toText_of_not_mem hhash]

/-! ## Values that do not -/

lemma options_unclosed (hformed : Formed exact value)
    (hlist : value.dropWhile spaceTab = '[' :: tail) (hhash : '#' ∉ value)
    (h : ¬ ∃ behind, closing 1 tail = some behind ∧ (∀ ch ∈ behind, spaceTab ch = true) ∧
      (exact = true → behind = [])) (rest : Text) :
    ∃ result following, options (writeOption (key, value) ++ rest) = (key, result) :: following ∧
      ¬ Agrees exact value result := by
  obtain ⟨blanks, hblanks, hvalue⟩ := value_split value
  rw [hlist] at hvalue
  have hread := options_list_value hkey hblanks tail rest
  rw [← hvalue] at hread
  refine ⟨_, _, hread, ?_⟩
  have htail : '#' ∉ '[' :: tail := fun hmem => hhash (hvalue ▸ mem_append_right _ hmem)
  -- an exact value starts with its bracket
  have hexact : exact = true → value = '[' :: tail := by
    rintro rfl
    have hfile : FileValue value := hformed
    obtain hblank | hshown := hfile.dropWhile_eq
    · rw [dropWhile_eq_nil_of_blank hblank] at hlist
      exact absurd hlist nofun
    · exact hshown.symm.trans hlist
  cases hclosing : closing 1 tail with
  | none =>
    obtain ⟨consumed, hconsumed⟩ := skipList_of_open hclosing rest
    generalize hleft : skipList 1 (tail ++ '\n' :: rest) = left at hconsumed ⊢
    have htake : (tail ++ '\n' :: rest).take ((tail ++ '\n' :: rest).length - left.length) =
        tail ++ '\n' :: consumed := by
      apply take_length_sub
      rw [← hconsumed]
      simp
    rw [htake, ← cons_append, toText_append htail]
    have hnewline : '\n' ∈ ('[' :: tail) ++ toText ('\n' :: consumed) :=
      mem_append_right _ mem_cons_self
    intro hagrees
    cases hkind : exact with
    | false =>
      rw [hkind] at hagrees hformed
      have hsame : trim _ = trim value := hagrees
      have hmem := mem_of_mem_trim (hsame ▸ mem_trim hnewline (by decide))
      exact absurd (hformed _ hmem) (by decide)
    | true =>
      rw [hkind] at hagrees
      have hsame : _ = value := hagrees
      rw [hexact hkind] at hsame
      have hlength := congrArg List.length hsame
      have hpos : 0 < (toText ('\n' :: consumed)).length := Nat.succ_pos _
      rw [length_append] at hlength
      omega
  | some behind =>
    have hskip := skipList_of_closing hclosing ('\n' :: rest)
    obtain ⟨inside, rfl⟩ := closing_suffix hclosing
    have hconsumed : (inside ++ behind ++ '\n' :: rest).take
        ((inside ++ behind ++ '\n' :: rest).length - (behind ++ '\n' :: rest).length) = inside :=
      take_length_sub (append_assoc _ _ _)
    have hinside : '#' ∉ '[' :: inside := by
      intro hmem
      exact htail ((prefix_append ('[' :: inside) behind).subset hmem)
    rw [hskip, hconsumed, toText_of_not_mem hinside]
    intro hagrees
    cases hkind : exact with
    | false =>
      rw [hkind] at hagrees
      have hsame : trim ('[' :: inside) = trim value := hagrees
      refine h ⟨behind, hclosing, fun c hc => ?_, by simp [hkind]⟩
      by_contra hshown
      obtain ⟨before, after, rfl⟩ := append_of_mem hc
      have hnone : ∀ c ∈ ([] : Text), spaceTab c = true := by simp
      have hpad := (trim_append ('[' :: (inside ++ (before ++ c :: after))) hblanks hnone).1
      rw [append_nil, append_nil, ← hvalue] at hpad
      rw [hpad, trim, trim, dropWhile_cons_of_neg (by decide),
        dropWhile_cons_of_neg (by decide)] at hsame
      have hsplit : '[' :: (inside ++ (before ++ c :: after)) =
          ('[' :: inside ++ before) ++ c :: after := by simp
      have hcut : spaceTab c = false := by simpa using hshown
      rw [hsplit, rdropWhile_append_cons hcut, rdropWhile_cons hcut] at hsame
      have hlength := congrArg List.length hsame
      have hle := (List.rdropWhile_prefix spaceTab ('[' :: inside)).length_le
      simp only [length_append, length_cons] at hlength hle
      omega
    | true =>
      rw [hkind] at hagrees
      have hsame : '[' :: inside = value := hagrees
      rw [hexact hkind] at hsame
      have hnil : behind = [] := by
        have hlength := congrArg List.length hsame
        simp only [length_append, length_cons] at hlength
        exact length_eq_zero_iff.mp (by omega)
      exact h ⟨behind, hclosing, by simp [hnil], fun _ => hnil⟩

lemma options_commented (hformed : Formed false value) (hhash : '#' ∈ value) (rest : Text) :
    ∃ result following, options (writeOption (key, value) ++ rest) = (key, result) :: following ∧
      '#' ∉ result := by
  obtain ⟨blanks, hblanks, hvalue⟩ := value_split value
  have hclean : '#' ∉ ' ' :: blanks := fun hmem => ne_hash_of_spaceTab (blank_cons hblanks _ hmem) rfl
  cases hshown : value.dropWhile spaceTab with
  | nil =>
    rw [hshown, append_nil] at hvalue
    rw [hvalue] at hhash
    exact absurd (mem_cons_of_mem _ hhash) hclean
  | cons ch tail =>
    have hoff := hshown
    rw [hshown] at hvalue
    by_cases hlist : ch = '['
    · rw [hlist] at hvalue
      have hread := options_list_value hkey hblanks tail rest
      rw [← hvalue] at hread
      exact ⟨_, _, hread, hash_not_mem_toText _⟩
    by_cases hsign : ch = '#'
    · obtain ⟨following, hread⟩ := options_hash_value hkey hblanks tail rest
      rw [hsign] at hvalue
      exact ⟨_, following, by rw [hvalue, hread], hclean⟩
    · have hline := hformed.oneLine hoff hlist
      have hch : whitespace ch = false :=
        or_eq_false_iff.mpr ⟨spaceTab_head hoff, hline ch mem_cons_self⟩
      have hread := options_shown_value hkey hblanks hch hsign hlist
        (fun c hc => hline c (mem_cons_of_mem _ hc)) rest
      rw [← hvalue] at hread
      exact ⟨_, _, hread, hash_not_mem_toText _⟩

lemma options_not_survives (hformed : Formed exact value)
    (h : ¬ Survives exact value) (rest : Text) :
    ∃ result following, options (writeOption (key, value) ++ rest) = (key, result) :: following ∧
      ¬ Agrees exact value result := by
  by_cases hhash : '#' ∈ value
  · cases exact with
    | true => exact absurd hhash (FileValue.plain hformed)
    | false =>
      obtain ⟨result, following, hread, hclean⟩ := options_commented hkey hformed hhash rest
      refine ⟨result, following, hread, fun hagrees => ?_⟩
      have hsame : trim result = trim value := hagrees
      exact hclean (mem_of_mem_trim (hsame ▸ mem_trim hhash (by decide)))
  · unfold Survives at h
    split at h
    next hnil =>
      obtain ⟨blanks, hblanks, hvalue⟩ := value_split value
      rw [hnil, append_nil] at hvalue
      rw [← hvalue] at hblanks
      refine ⟨_, _, options_blank_value hkey hblanks rest, fun hagrees => ?_⟩
      have hkind : exact = true := not_eq_false _ ▸ h
      rw [hkind] at hagrees
      have hsame : ' ' :: value = value := hagrees
      exact absurd (congrArg List.length hsame) (by simp)
    next list hlist =>
      exact options_unclosed hkey hformed hlist hhash (fun hclosed => h ⟨hhash, hclosed⟩) rest
    next => exact absurd hhash h

end

end

end Vibeshine.ConfigFile
