import Vibeshine.ConfigFile.RoundTrip

/-! # What a patch preserves

The options that the reader gives have names that are read as they are written, and values
without comments. So the file that a patch writes is read back as it was meant if and only if
its values survive, whatever order they are written in.
-/

namespace Vibeshine.ConfigFile

open Library List KeyedMap Option KeyMap

/-! ## The options of a file -/

section

variable {line text : Text}

lemma drop_takeWhile (p : Char → Bool) (text : Text) :
    text.drop (text.takeWhile p).length = text.dropWhile p := by
  induction text with
  | nil => rfl
  | cons c text ih =>
    by_cases hc : p c = true
    · rw [takeWhile_cons_of_pos hc, dropWhile_cons_of_pos hc]
      exact ih
    · rw [takeWhile_cons_of_neg hc, dropWhile_cons_of_neg hc]
      rfl

section

variable (hline : ∀ c ∈ line, endline c = false)

include hline

lemma content_plain :
    ∀ c ∈ line.takeWhile (fun c => decide (c ≠ '#')), c ≠ '#' ∧ endline c = false := by
  intro c hc
  have hne := mem_takeWhile_imp hc
  exact ⟨by simpa using hne, hline c ((takeWhile_sublist _).subset hc)⟩

lemma goodKey_of_line
    (hne : normalizeConfigKey (toText ((((line.takeWhile (fun c => decide (c ≠ '#'))).rdropWhile
      whitespace).takeWhile (fun c => decide (c ≠ '='))).rdropWhile spaceTab)) ≠ []) :
    GoodKey (normalizeConfigKey (toText ((((line.takeWhile (fun c => decide (c ≠ '#'))).rdropWhile
      whitespace).takeWhile (fun c => decide (c ≠ '='))).rdropWhile spaceTab))) := by
  have hplain := content_plain hline
  generalize hcontent : (line.takeWhile (fun c => decide (c ≠ '#'))).rdropWhile whitespace =
    content at hne ⊢
  have hcontentPlain : ∀ c ∈ content, c ≠ '#' ∧ endline c = false := by
    intro c hc
    rw [← hcontent] at hc
    exact hplain c ((List.rdropWhile_prefix _ _).subset hc)
  generalize hbefore : content.takeWhile (fun c => decide (c ≠ '=')) = before at hne ⊢
  have hbeforePlain : ∀ c ∈ before, c ≠ '=' ∧ c ≠ '#' ∧ endline c = false := by
    intro c hc
    rw [← hbefore] at hc
    have hne := mem_takeWhile_imp hc
    exact ⟨by simpa using hne, hcontentPlain c ((takeWhile_sublist _).subset hc)⟩
  have hnamePlain : ∀ c ∈ before.rdropWhile spaceTab, c ≠ '=' ∧ c ≠ '#' ∧ endline c = false :=
    fun c hc => hbeforePlain c ((List.rdropWhile_prefix _ _).subset hc)
  have hclosed : (before.rdropWhile spaceTab).rdropWhile spaceTab = before.rdropWhile spaceTab :=
    rdropWhile_idempotent _ _
  generalize before.rdropWhile spaceTab = name at hne hnamePlain hclosed ⊢
  rw [toText_of_not_mem fun hmem => (hnamePlain _ hmem).2.1 rfl] at hne ⊢
  unfold normalizeConfigKey at hne ⊢
  have hsuffix : name.dropWhile (fun c => !asciiWord c) <:+ name := dropWhile_suffix _
  refine ⟨?_, fun c hc => hnamePlain c (hsuffix.subset hc), ?_⟩
  · cases hkey : name.dropWhile fun c => !asciiWord c with
    | nil => exact absurd hkey hne
    | cons first rest =>
      refine ⟨first, rest, rfl, ?_⟩
      have hhead := head_dropWhile_not (fun c => !asciiWord c) hne
      simpa [hkey] using hhead
  · obtain ⟨dropped, hsplit⟩ := hsuffix
    generalize name.dropWhile (fun c => !asciiWord c) = key at hne hsplit ⊢
    rw [rdropWhile_eq_self_iff] at hclosed ⊢
    intro hkey
    have hname : name ≠ [] := by
      rw [← hsplit]
      simp [hkey]
    have hlast := hclosed hname
    simp only [← hsplit] at hlast
    rwa [getLast_append_of_ne_nil _ hkey] at hlast

lemma fileValue_of_line {start : Nat}
    (hfrom : start ≤ ((line.takeWhile (fun c => decide (c ≠ '#'))).rdropWhile whitespace).length) :
    FileValue (toText (line.drop (start + ((((line.takeWhile (fun c => decide (c ≠ '#'))).rdropWhile
      whitespace).drop start).takeWhile spaceTab).length))) := by
  have hplain := content_plain hline
  have hsplit : line.takeWhile (fun c => decide (c ≠ '#')) ++
      line.dropWhile (fun c => decide (c ≠ '#')) = line := takeWhile_append_dropWhile
  have hcomment : toText (line.dropWhile (fun c => decide (c ≠ '#'))) = [] := by
    cases hrest : line.dropWhile (fun c => decide (c ≠ '#')) with
    | nil => rfl
    | cons c rest =>
      have hne : line.dropWhile (fun c => decide (c ≠ '#')) ≠ [] := by
        rw [hrest]
        exact cons_ne_nil _ _
      have hhead := head_dropWhile_not (fun c => decide (c ≠ '#')) hne
      simp only [hrest, head_cons, decide_eq_false_iff_not, not_not] at hhead
      rw [hhead]
      refine stripComments_line fun c hc => hline c ?_
      have hmem : c ∈ line.dropWhile (fun c => decide (c ≠ '#')) :=
        hrest ▸ mem_cons_of_mem _ hc
      exact (dropWhile_sublist _).subset hmem
  generalize line.dropWhile (fun c => decide (c ≠ '#')) = comment at hsplit hcomment
  generalize line.takeWhile (fun c => decide (c ≠ '#')) = before at *
  have hpad : before.rdropWhile whitespace ++ before.rtakeWhile whitespace = before :=
    rdropWhile_append_rtakeWhile
  have hblank : ∀ c ∈ before.rtakeWhile whitespace, whitespace c = true :=
    fun c hc => mem_rtakeWhile_imp hc
  generalize before.rdropWhile whitespace = content at hpad hfrom ⊢
  generalize before.rtakeWhile whitespace = pad at hpad hblank
  have hshown : content.drop (start + ((content.drop start).takeWhile spaceTab).length) =
      (content.drop start).dropWhile spaceTab := by
    rw [← drop_drop, drop_takeWhile]
  have hle : start + ((content.drop start).takeWhile spaceTab).length ≤ content.length := by
    have hlength := (takeWhile_sublist (l := content.drop start) spaceTab).length_le
    rw [length_drop] at hlength
    omega
  have hvalue : toText (line.drop (start + ((content.drop start).takeWhile spaceTab).length)) =
      (content.drop start).dropWhile spaceTab ++ pad := by
    have hhash : '#' ∉ (content.drop start).dropWhile spaceTab ++ pad := by
      rw [← hshown, ← drop_append_of_le_length hle, hpad]
      exact fun hmem => (hplain _ ((drop_sublist _ _).subset hmem)).1 rfl
    rw [← hsplit, ← hpad, append_assoc, drop_append_of_le_length hle, hshown,
      ← append_assoc, toText_append hhash, hcomment, append_nil]
  rw [hvalue]
  have hmem : ∀ c ∈ (content.drop start).dropWhile spaceTab ++ pad, c ∈ before := by
    intro c hc
    rw [← hpad]
    obtain hc | hc := mem_append.mp hc
    · exact mem_append_left _
        ((drop_sublist _ _).subset ((dropWhile_sublist _).subset hc))
    · exact mem_append_right _ hc
  refine ⟨fun hhash => (hplain _ (hmem _ hhash)).1 rfl, .inr ⟨fun c hc => (hplain c (hmem c hc)).2, ?_⟩⟩
  cases hfirst : (content.drop start).dropWhile spaceTab with
  | nil =>
    refine .inl fun c hc => ?_
    have hpadMem : c ∈ pad := hc
    have hspace := hblank c hpadMem
    have hline := (hplain c (hpad ▸ mem_append_right _ hpadMem)).2
    simpa [whitespace, hline] using hspace
  | cons c rest =>
    refine .inr ⟨c, rest ++ pad, rfl, Bool.or_eq_false_iff.mpr ⟨spaceTab_head hfirst, ?_⟩⟩
    exact (hplain c (hmem c (by rw [hfirst]; exact mem_cons_self))).2

end

lemma parseOption_formed {name value : Text} (h : (parseOption text).2 = some (name, value)) :
    (normalizeConfigKey name ≠ [] → GoodKey (normalizeConfigKey name)) ∧ FileValue value := by
  unfold parseOption at h
  dsimp only at h
  have hline : ∀ c ∈ (text.dropWhile whitespace).takeWhile (fun c => !endline c),
      endline c = false := fun c hc => by simpa using mem_takeWhile_imp hc
  generalize (text.dropWhile whitespace).takeWhile (fun c => !endline c) = line at h hline
  split at h
  next => exact absurd h nofun
  next hname =>
    obtain ⟨hcontent, -⟩ := not_or.mp hname
    have hfrom : (((line.takeWhile (fun c => decide (c ≠ '#'))).rdropWhile whitespace).takeWhile
        (fun c => decide (c ≠ '='))).length + 1 ≤
        ((line.takeWhile (fun c => decide (c ≠ '#'))).rdropWhile whitespace).length := by
      refine Nat.lt_of_le_of_ne (takeWhile_sublist _).length_le fun hlength => hcontent ?_
      exact (takeWhile_sublist _).eq_of_length hlength
    split at h
    next => exact absurd h nofun
    next =>
      split at h
      next list _ =>
        split at h
        next => exact absurd h nofun
        next =>
          obtain ⟨rfl, rfl⟩ := Prod.mk.inj (Option.some.inj h)
          exact ⟨goodKey_of_line hline, hash_not_mem_toText _, .inl ⟨_, rfl⟩⟩
      next =>
        obtain ⟨rfl, rfl⟩ := Prod.mk.inj (Option.some.inj h)
        exact ⟨goodKey_of_line hline, fileValue_of_line hline hfrom⟩

lemma mem_options {var : Text × Text} (h : var ∈ options text) :
    GoodKey var.1 ∧ FileValue var.2 := by
  induction hlength : text.length using Nat.strong_induction_on generalizing text with
  | _ length ih =>
    by_cases hne : text = []
    · rw [hne] at h
      exact absurd h not_mem_nil
    rw [options_of_ne hne] at h
    have hrest : var ∈ options (skipEnd (parseOption text).1) → GoodKey var.1 ∧ FileValue var.2 :=
      fun hmem => ih _ (hlength ▸ length_next hne) hmem rfl
    unfold addOption at h
    split at h
    next => exact hrest h
    next name value hparse =>
      dsimp only at h
      split at h
      next => exact hrest h
      next hkey =>
        obtain rfl | hmem := mem_cons.mp h
        · obtain ⟨hgood, hvalue⟩ := parseOption_formed hparse
          exact ⟨hgood hkey, hvalue⟩
        · exact hrest hmem

lemma find?_parseConfig (key : Text) :
    (parseConfig text).find? key = KeyMap.get? key (options text) := by
  unfold parseConfig
  rw [find?_foldl_emplace, find?_empty, none_or]

lemma parseConfig_formed {key value : Text} (h : (parseConfig text).find? key = some value) :
    GoodKey key ∧ FileValue value := by
  rw [find?_parseConfig] at h
  exact mem_options (mem_of_get? h)

end

/-! ## The merged options -/

section

variable {file key value : Text} {patch : Patch}

lemma find?_mergeEntries {entries : List (Text × PatchValue)}
    (hnodup : (entries.map (·.1)).Nodup) {current : KeyedMap Text Text} :
    (entries.foldl (fun current entry =>
      match entry.2.written with
      | none => current.erase entry.1
      | some text => current.assign entry.1 text) current).find? key =
      match KeyMap.get? key entries with
      | none => current.find? key
      | some value => value.written := by
  induction entries generalizing current with
  | nil => rfl
  | cons entry entries ih =>
    obtain ⟨hentry, hrest⟩ := nodup_cons.mp hnodup
    rw [foldl_cons, ih hrest, get?_cons]
    by_cases hkey : entry.1 = key
    · have hmissing : KeyMap.get? key entries = none := by
        rw [get?_eq_none, ← hkey]
        exact hentry
      rw [if_pos hkey, hmissing]
      dsimp only
      cases hwritten : entry.2.written with
      | none => exact find?_erase.trans (if_pos hkey.symm)
      | some text => exact find?_assign.trans (if_pos hkey.symm)
    · rw [if_neg hkey]
      cases KeyMap.get? key entries with
      | some value => rfl
      | none =>
        dsimp only
        cases hwritten : entry.2.written with
        | none => exact find?_erase.trans (if_neg (Ne.symm hkey))
        | some text => exact find?_assign.trans (if_neg (Ne.symm hkey))

lemma find?_merge (current : KeyedMap Text Text) : (merge current patch).find? key =
      match patch.values.find? key with
      | none => current.find? key
      | some value => value.written :=
  find?_mergeEntries patch.values.nodup_keys

def Patch.untouched (patch : Patch) (key : Text) : Bool := (patch.values.find? key).isNone

lemma goodKey_of_word (hne : key ≠ []) (hword : ∀ ch ∈ key, asciiWord ch = true) : GoodKey key := by
  refine ⟨?_, fun c hc => ⟨?_, ?_, ?_⟩, rdropWhile_eq_self_iff.mpr fun hkey => ?_⟩
  · obtain ⟨first, rest, rfl⟩ := exists_cons_of_ne_nil hne
    exact ⟨first, rest, rfl, hword first mem_cons_self⟩
  · rintro rfl
    exact absurd (hword '=' hc) (by decide)
  · rintro rfl
    exact absurd (hword '#' hc) (by decide)
  · exact (Bool.or_eq_false_iff.mp (GoodKey.asciiWord_not_whitespace (hword c hc))).2
  · have hlast := GoodKey.asciiWord_not_whitespace (hword _ (getLast_mem hkey))
    simp [(Bool.or_eq_false_iff.mp hlast).1]

lemma merge_formed (h : (merge (parseConfig file) patch).find? key = some value) :
    GoodKey key ∧ Formed (patch.untouched key) value := by
  rw [find?_merge] at h
  unfold Patch.untouched
  cases hpatch : patch.values.find? key with
  | none =>
    rw [hpatch] at h
    exact parseConfig_formed h
  | some patched =>
    rw [hpatch] at h
    have hmem := mem_entries.mpr hpatch
    obtain ⟨hne, hword⟩ := patch.words _ hmem
    exact ⟨goodKey_of_word hne hword, patch.oneLine _ hmem value h⟩

end

/-! ## The written file -/

section

variable {file key : Text} {patch : Patch} {order : List (Text × Text)} {exact : Text → Bool}

lemma render_cons (entry : Text × Text) (entries : List (Text × Text)) :
    render (entry :: entries) = writeOption entry ++ render entries := rfl

variable (entries : List (Text × Text))

lemma options_render
    (hformed : ∀ entry ∈ entries, GoodKey entry.1 ∧ Formed (exact entry.1) entry.2) :
    (∀ entry ∈ entries, Survives (exact entry.1) entry.2) ∧
        options (render entries) = entries.map (fun entry => (entry.1, stored entry.2)) ∨
      ∃ before bad after result following, entries = before ++ bad :: after ∧
        options (render entries) =
          before.map (fun entry => (entry.1, stored entry.2)) ++ (bad.1, result) :: following ∧
        ¬ Survives (exact bad.1) bad.2 ∧ ¬ Agrees (exact bad.1) bad.2 result := by
  induction entries with
  | nil => exact .inl ⟨nofun, rfl⟩
  | cons entry entries ih =>
    obtain ⟨hkey, hvalue⟩ := hformed entry mem_cons_self
    rw [render_cons]
    by_cases hsurvives : Survives (exact entry.1) entry.2
    · have hread := options_survives hkey hvalue hsurvives (render entries)
      rw [hread]
      obtain ⟨hall, hmap⟩ | ⟨before, bad, after, result, following, rfl, hmap, hbad⟩ :=
        ih fun e he => hformed e (mem_cons_of_mem _ he)
      · refine .inl ⟨fun e he => ?_, by rw [hmap]; rfl⟩
        obtain rfl | he := mem_cons.mp he
        · exact hsurvives
        · exact hall e he
      · exact .inr ⟨entry :: before, bad, after, result, following, rfl, by rw [hmap]; rfl, hbad⟩
    · obtain ⟨result, following, hread, hbad⟩ :=
        options_not_survives hkey hvalue hsurvives (render entries)
      exact .inr ⟨[], entry, entries, result, following, rfl, hread, hsurvives, hbad⟩

lemma get?_map_stored : KeyMap.get? key (entries.map fun entry => (entry.1, stored entry.2)) =
      (KeyMap.get? key entries).map stored := by
  induction entries with
  | nil => rfl
  | cons entry entries ih =>
    rw [map_cons, get?_cons, get?_cons, ih]
    split <;> rfl

/-- What it takes for a patch to be read back as it was meant. -/
structure Safe (file : Text) (patch : Patch) : Prop where
  untouched : ∀ key value, (parseConfig file).find? key = some value →
    patch.values.find? key = none → Survives true value
  updated : ∀ key value text, patch.values.find? key = some value → value.written = some text →
    Survives false text

/-- The options of the file are those of before with the patch applied, now and when it is
applied again. -/
structure Keeps (file : Text) (patch : Patch) (order : List (Text × Text)) : Prop where
  untouched : ∀ key, patch.values.find? key = none →
    (parseConfig (render order)).find? key = (parseConfig file).find? key
  removed : ∀ key value, patch.values.find? key = some value → value.written = none →
    (parseConfig (render order)).find? key = none
  updated : ∀ key value text, patch.values.find? key = some value → value.written = some text →
    ∃ result, (parseConfig (render order)).find? key = some result ∧ trim result = trim text
  again : ∀ order', order'.Perm (merge (parseConfig (render order)) patch).entries →
    parseConfig (render order') = parseConfig (render order)

lemma formed_of_perm (horder : order.Perm (merge (parseConfig file) patch).entries) :
    ∀ entry ∈ order, GoodKey entry.1 ∧ Formed (patch.untouched entry.1) entry.2 :=
  fun _ hentry => merge_formed (mem_entries.mp (horder.mem_iff.mp hentry))

section

variable (h : Safe file patch)

include h

lemma Safe.survives (horder : order.Perm (merge (parseConfig file) patch).entries) :
    ∀ entry ∈ order, Survives (patch.untouched entry.1) entry.2 := by
  intro entry hentry
  have hfound := mem_entries.mp (horder.mem_iff.mp hentry)
  rw [find?_merge] at hfound
  unfold Patch.untouched
  cases hpatch : patch.values.find? entry.1 with
  | none =>
    rw [hpatch] at hfound
    exact h.untouched _ _ hfound hpatch
  | some value =>
    rw [hpatch] at hfound
    exact h.updated _ value _ hpatch hfound

lemma Safe.find?_render
    (horder : order.Perm (merge (parseConfig file) patch).entries) (key : Text) :
    (parseConfig (render order)).find? key =
      ((merge (parseConfig file) patch).find? key).map stored := by
  have hsurvives := h.survives horder
  obtain ⟨-, hread⟩ | ⟨before, bad, after, result, following, rfl, -, hbad, -⟩ :=
    options_render order (formed_of_perm horder)
  · rw [find?_parseConfig, hread, get?_map_stored, get?_of_perm horder]
  · exact absurd (hsurvives bad (by simp)) hbad

lemma Safe.stored_untouched {value : Text}
    (hfound : (parseConfig file).find? key = some value) (hpatch : patch.values.find? key = none) :
    stored value = value :=
  stored_exact (parseConfig_formed hfound).2 (h.untouched key value hfound hpatch)

lemma Safe.again
    (horder : order.Perm (merge (parseConfig file) patch).entries) : Safe (render order) patch where
  untouched key value hfound hpatch := by
    rw [h.find?_render horder, find?_merge, hpatch] at hfound
    obtain ⟨old, hold, rfl⟩ := map_eq_some_iff.mp hfound
    rw [h.stored_untouched hold hpatch]
    exact h.untouched key old hold hpatch
  updated := h.updated

lemma Safe.keeps
    (horder : order.Perm (merge (parseConfig file) patch).entries) : Keeps file patch order where
  untouched key hpatch := by
    rw [h.find?_render horder, find?_merge, hpatch]
    dsimp only
    cases hfound : (parseConfig file).find? key with
    | none => rfl
    | some value => exact congrArg some (h.stored_untouched hfound hpatch)
  removed key value hpatch hwritten := by
    rw [h.find?_render horder, find?_merge, hpatch]
    dsimp only
    rw [hwritten]
    rfl
  updated key value text hpatch hwritten := by
    rw [h.find?_render horder, find?_merge, hpatch]
    dsimp only
    rw [hwritten]
    exact ⟨stored text, rfl, trim_stored (h.updated key value text hpatch hwritten)⟩
  again order' horder' := by
    have hagain := h.again horder
    refine KeyedMap.ext fun key => ?_
    rw [hagain.find?_render horder', find?_merge]
    cases hpatch : patch.values.find? key with
    | none =>
      dsimp only
      cases hfound : (parseConfig (render order)).find? key with
      | none => rfl
      | some value => exact congrArg some (hagain.stored_untouched hfound hpatch)
    | some value =>
      rw [h.find?_render horder, find?_merge, hpatch]

end

lemma Keeps.safe (h : Keeps file patch order)
    (horder : order.Perm (merge (parseConfig file) patch).entries) : Safe file patch := by
  obtain ⟨hall, -⟩ | ⟨before, bad, after, result, following, rfl, hread, -, hbad⟩ :=
    options_render order (formed_of_perm horder)
  · have hsurvives : ∀ key value, (merge (parseConfig file) patch).find? key = some value →
        Survives (patch.untouched key) value := fun key value hfound =>
      hall (key, value) (horder.mem_iff.mpr (mem_entries.mpr hfound))
    constructor
    · intro key value hfound hpatch
      have hkept := hsurvives key value (by rw [find?_merge, hpatch]; exact hfound)
      rwa [Patch.untouched, hpatch] at hkept
    · intro key value text hpatch hwritten
      have hkept := hsurvives key text (by rw [find?_merge, hpatch]; exact hwritten)
      rwa [Patch.untouched, hpatch] at hkept
  · refine absurd ?_ hbad
    -- the misread value is the one that the reader finds under its key
    have hfirst : KeyMap.get? bad.1 (before.map fun entry => (entry.1, stored entry.2)) = none := by
      rw [get?_map_stored, map_eq_none_iff, get?_eq_none]
      have hnodup := (horder.map (·.1)).nodup_iff.mpr nodup_keys
      rw [map_append, nodup_append] at hnodup
      exact fun hmem => hnodup.2.2 _ hmem _ mem_cons_self rfl
    have hresult : (parseConfig (render (before ++ bad :: after))).find? bad.1 = some result := by
      rw [find?_parseConfig, hread, get?_append, hfirst, none_or, get?_cons, if_pos rfl]
    have hfound : (merge (parseConfig file) patch).find? bad.1 = some bad.2 :=
      mem_entries.mp (horder.mem_iff.mp (by simp))
    rw [find?_merge] at hfound
    unfold Patch.untouched
    cases hpatch : patch.values.find? bad.1 with
    | none =>
      rw [hpatch] at hfound
      exact Option.some.inj (hresult.symm.trans ((h.untouched _ hpatch).trans hfound))
    | some value =>
      rw [hpatch] at hfound
      obtain ⟨result', hresult', hsame⟩ := h.updated _ value _ hpatch hfound
      rw [Option.some.inj (hresult.symm.trans hresult')]
      exact hsame

lemma savedOptions_perm (patch : Patch) :
    (savedOptions patch).Perm (merge (parseConfig []) patch).entries := by
  have hordered : KeyMap.Ordered (savedOptions patch) := by
    refine List.Pairwise.filterMap _ ?_ patch.values.ordered
    intro entry later hlt saved hsaved savedLater hsavedLater
    obtain ⟨text, -, rfl⟩ := map_eq_some_iff.mp hsaved
    obtain ⟨textLater, -, rfl⟩ := map_eq_some_iff.mp hsavedLater
    exact hlt
  have hsame : (⟨savedOptions patch, hordered⟩ : KeyedMap Text Text) =
      merge (parseConfig []) patch := by
    refine KeyedMap.ext fun key => Option.ext fun text => ?_
    rw [← mem_entries, find?_merge]
    have hmem : (key, text) ∈ savedOptions patch ↔
        ∃ value, patch.values.find? key = some value ∧ value.written = some text := by
      unfold savedOptions
      rw [mem_filterMap]
      constructor
      · rintro ⟨⟨key', value⟩, hentry, hsaved⟩
        obtain ⟨text', hwritten, heq⟩ := map_eq_some_iff.mp hsaved
        obtain ⟨rfl, rfl⟩ := Prod.mk.inj heq
        exact ⟨value, mem_entries.mp hentry, hwritten⟩
      · rintro ⟨value, hfound, hwritten⟩
        exact ⟨(key, value), mem_entries.mpr hfound, by rw [hwritten]; rfl⟩
    rw [hmem]
    cases patch.values.find? key with
    | none => exact ⟨nofun, nofun⟩
    | some value => simp
  rw [← hsame]

end

/-- The file that a patch writes is read back as it was meant, in whatever order the options are
written, if and only if the values of the patch and those that it leaves survive. -/
theorem patch_keeps_iff_safe (file : Text) (patch : Patch) :
    (∀ order, order.Perm (merge (parseConfig file) patch).entries →
      (Keeps file patch order ↔ Safe file patch)) ∧
    (Keeps [] patch (savedOptions patch) ↔ Safe [] patch) := by
  have hiff : ∀ (file : Text) (order : List (Text × Text)),
      order.Perm (merge (parseConfig file) patch).entries →
        (Keeps file patch order ↔ Safe file patch) :=
    fun _ _ horder => ⟨fun h => h.safe horder, fun h => h.keeps horder⟩
  exact ⟨hiff file, hiff [] _ (savedOptions_perm patch)⟩

def portFile : Text := "port = 48000\n".toList

lemma onOneLine {text : Text} (h : text.all (!endline ·) = true) :
    ∀ ch ∈ text, endline ch = false := by
  intro ch hch
  simpa using all_eq_true.mp h ch hch

def listPatch : Patch where
  values := ⟨[("apps".toList, .json "[1,2]".toList)], pairwise_singleton _ _⟩
  words := by simp; decide
  oneLine := by
    intro entry hentry text htext
    obtain rfl := mem_singleton.mp hentry
    obtain rfl := Option.some.inj htext
    exact onOneLine (by decide)

theorem list_beside_port : Keeps portFile listPatch
      [("port".toList, "48000".toList), ("apps".toList, "[1,2]".toList)] := by
  refine ((patch_keeps_iff_safe portFile listPatch).1 _ ?_).mpr ⟨?_, ?_⟩
  · have horder : (merge (parseConfig portFile) listPatch).entries =
        [("apps".toList, "[1,2]".toList), ("port".toList, "48000".toList)] := by decide +kernel
    rw [horder]
    exact .swap _ _ []
  · intro key value hfound _
    have hentries : (parseConfig portFile).entries = [("port".toList, "48000".toList)] := by
      decide +kernel
    have hmem := mem_entries.mpr hfound
    rw [hentries] at hmem
    obtain ⟨-, rfl⟩ := Prod.mk.inj (mem_singleton.mp hmem)
    exact (by decide : '#' ∉ "48000".toList)
  · intro key value text hfound hwritten
    have hmem := mem_entries.mpr hfound
    obtain ⟨-, rfl⟩ := Prod.mk.inj (mem_singleton.mp hmem)
    obtain rfl := Option.some.inj hwritten
    exact ⟨by decide, [], by decide, by simp, fun _ => rfl⟩

def bracketPatch : Patch where
  values := ⟨[("name".toList, .text "[x".toList)], pairwise_singleton _ _⟩
  words := by simp; decide
  oneLine := by
    intro entry hentry text htext
    obtain rfl := mem_singleton.mp hentry
    obtain rfl := Option.some.inj htext
    exact onOneLine (by decide)

theorem bracket_swallows_port :
    ¬ ∀ file patch order, order.Perm (merge (parseConfig file) patch).entries →
      Keeps file patch order := by
  intro hclaim
  have horder : (merge (parseConfig portFile) bracketPatch).entries =
      [("name".toList, "[x".toList), ("port".toList, "48000".toList)] := by decide +kernel
  have hkeeps := hclaim portFile bracketPatch _ (.of_eq horder.symm)
  have hport := hkeeps.untouched "port".toList (by decide +kernel)
  exact absurd hport (by decide +kernel)

end Vibeshine.ConfigFile
