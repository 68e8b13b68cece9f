import Vibeshine.RemoteDisplay.Operations

/-! # Capture handles

Taking and dropping a handle keeps the tallies of the entries. Every live handle is
tied to the entry whose reservation it was taken from, and no operation but a
shutdown that leaves the displays in place parts the two.
-/

namespace Vibeshine.RemoteDisplay

lemma retainReference_tally (token count : Nat) :
    retainReference token (tally token count) = tally token (count + 1) := by
  cases count <;> simp [retainReference, tally]

lemma dropReference_tally (token count : Nat) :
    dropReference token (tally token count) = tally token (count - 1) := by
  match count with
  | 0 => rfl
  | 1 => simp [dropReference, tally]
  | count + 2 => simp [dropReference, tally]

lemma dropReference_tally_of_ne {token other : Nat} (h : other ≠ token) (count : Nat) :
    dropReference token (tally other count) = tally other count := by
  cases count <;> simp [dropReference, tally, h]

lemma tally_ne_nil {token count : Nat} (h : 0 < count) : tally token count ≠ [] := by
  obtain ⟨rest, rfl⟩ := Nat.exists_eq_succ_of_ne_zero (Nat.pos_iff_ne_zero.mp h)
  simp [tally]

/-! ## Handles and their entries -/

def recountEntry (uuid : String) (count : List (Nat × Nat) → List (Nat × Nat))
    (entries : Clients) : Clients :=
  modifyClient uuid (fun client =>
    { client with normalCaptureReferences := count client.normalCaptureReferences }) entries

lemma records_recountEntry {uuid : String} {count : List (Nat × Nat) → List (Nat × Nat)}
    {entries : Clients} :
    records (recountEntry uuid count entries) = recountEntry uuid count (records entries) :=
  records_modifyClient fun _ => rfl

section

variable {handles : List (String × Nat)} {nextToken token : Nat} {entries : Clients} {uuid : String}

lemma Represents.recount (h : Represents handles nextToken entries)
    {later : List (String × Nat)} {count : List (Nat × Nat) → List (Nat × Nat)}
    (hhandles : ∀ handle ∈ later, handle.2 ≠ 0 ∧ handle.2 ≤ nextToken)
    (hother : ∀ other key, other ≠ uuid → later.count (other, key) = handles.count (other, key))
    (hown : ∀ client, (uuid, client) ∈ entries → count client.normalCaptureReferences =
      tally client.normalGameToken (later.count (uuid, client.normalGameToken))) :
    Represents later nextToken (recountEntry uuid count entries) where
  keys := by
    rw [recountEntry, modifyClient_keys]
    exact h.keys
  sound := fun other client hmem => by
    rcases mem_modifyClient.mp hmem with ⟨hmem, hne⟩ | ⟨source, hsource, heq⟩
    · have hsound := h.sound other client hmem
      exact { hsound with references := by rw [hother other _ hne]; exact hsound.references }
    · cases heq
      have hsound := h.sound uuid source hsource
      exact ⟨hsound.owned, hsound.token, hsound.requested, hsound.pending, hsound.ready,
        hown source hsource, hsound.minted⟩
  distinct := fun first client second peer hfirst hsecond hne hnormal hpeer => by
    have hsource : ∀ key kept, (key, kept) ∈ recountEntry uuid count entries →
        ∃ former, (key, former) ∈ entries ∧ former.normalGame = kept.normalGame ∧
          former.normalGameToken = kept.normalGameToken := by
      intro key kept hkept
      rcases mem_modifyClient.mp hkept with ⟨hold, -⟩ | ⟨former, hformer, heq⟩
      · exact ⟨kept, hold, rfl, rfl⟩
      · cases heq
        exact ⟨former, hformer, rfl, rfl⟩
    obtain ⟨former, hformer, hgame, htoken⟩ := hsource first client hfirst
    obtain ⟨rival, hrival, hgame', htoken'⟩ := hsource second peer hsecond
    rw [← htoken, ← htoken']
    exact h.distinct first former second rival hformer hrival hne (hgame.trans hnormal)
      (hgame'.trans hpeer)
  handles := hhandles

def Tied (handles : List (String × Nat)) (entries : Clients) : Prop :=
  ∀ uuid token, (uuid, token) ∈ handles →
    ∃ client, (uuid, client) ∈ entries ∧ client.normalGameToken = token

lemma Tied.live (htied : Tied handles entries) (h : Represents handles nextToken entries)
    (hmem : (uuid, token) ∈ handles) :
    ∃ client, (uuid, client) ∈ entries ∧ client.normalGameToken = token ∧
      client.normalCaptureReferences ≠ [] := by
  obtain ⟨client, hclient, rfl⟩ := htied uuid token hmem
  refine ⟨client, hclient, rfl, ?_⟩
  rw [(h.sound uuid client hclient).references]
  exact tally_ne_nil (List.count_pos_iff.mpr hmem)

lemma Tied.held (htied : Tied handles entries) (h : Represents handles nextToken entries) :
    Held handles entries := by
  intro uuid token hmem
  obtain ⟨client, hclient, -, hlive⟩ := htied.live h hmem
  exact ⟨client, hclient, hlive⟩

lemma Tied.recount {later : List (String × Nat)} {count : List (Nat × Nat) → List (Nat × Nat)}
    (hlater : Tied later entries) : Tied later (recountEntry uuid count entries) := by
  intro other key hmem
  obtain ⟨client, hclient, htoken⟩ := hlater other key hmem
  by_cases hother : other = uuid
  · subst hother
    exact ⟨_, mem_modifyClient.mpr (.inr ⟨client, hclient, rfl⟩), htoken⟩
  · exact ⟨client, mem_modifyClient.mpr (.inl ⟨hclient, hother⟩), htoken⟩

end

variable {c later : Coordinator} {watched : List (String × Nat)} {room : Nat} {givesUp : Prop}

lemma Performs.tied (h : Performs watched room givesUp c later)
    (hs : Standing watched c) (htied : Tied c.handles (records c.clients)) :
    Tied later.handles (records later.clients) := by
  intro uuid token hmem
  rw [h.handles] at hmem
  obtain ⟨client, hclient, htoken, hlive⟩ := htied.live hs.represents hmem
  obtain ⟨kept, hkept, hsame, -⟩ := h.retains uuid client hclient hlive
  exact ⟨kept, hkept, hsame.trans htoken⟩

lemma retain_cases (c : Coordinator) (uuid : String) (token : Nat) :
    c.retainNormalGameCapture uuid token = c ∨
      (token ≠ 0 ∧ (∃ client, c.find uuid = some client ∧ client.normalGameToken = token) ∧
        c.retainNormalGameCapture uuid token =
          { c with handles := (uuid, token) :: c.handles }.modify uuid fun client =>
            { client with normalCaptureReferences :=
                retainReference token client.normalCaptureReferences }) := by
  unfold Coordinator.retainNormalGameCapture
  cases hfind : c.find uuid with
  | none => exact .inl rfl
  | some client =>
    dsimp only
    split
    · exact .inl rfl
    · next hcur =>
      simp only [Bool.or_eq_true, not_or, beq_iff_eq, bne_iff_ne, ne_eq, not_not] at hcur
      exact .inr ⟨hcur.1.1.2, ⟨client, rfl, hcur.1.2⟩, rfl⟩

lemma retain_standing (hs : Standing [] c) (uuid : String) (token : Nat) :
    Standing [] (c.retainNormalGameCapture uuid token) := by
  rcases retain_cases c uuid token with hsame | ⟨hnonzero, ⟨client, hfind, htoken⟩, heq⟩
  · rw [hsame]
    exact hs
  · rw [heq]
    refine ⟨?_, fun _ _ hmem => by cases hmem⟩
    have hrecord := Standing.record_mem hfind
    have hminted := (hs.represents.sound uuid _ hrecord).minted
    show Represents ((uuid, token) :: c.handles) c.nextNormalGameToken
      (records (recountEntry uuid (retainReference token) c.clients))
    rw [records_recountEntry]
    refine hs.represents.recount (fun handle hmem => ?_) (fun other key hne => ?_)
      fun owner howner => ?_
    · rcases List.mem_cons.mp hmem with rfl | hmem
      · exact ⟨hnonzero, htoken ▸ hminted⟩
      · exact hs.represents.handles handle hmem
    · exact List.count_cons_of_ne fun heq => hne (congrArg Prod.fst heq).symm
    · have hsound := hs.represents.sound uuid owner howner
      have hown : owner.normalGameToken = token := by
        rw [hs.mem hfind howner]
        exact htoken
      rw [hsound.references, hown, retainReference_tally, List.count_cons_self]

lemma drop_standing (hs : Standing [] c) (uuid : String) (token : Nat) :
    Standing [] (c.dropCapture uuid token) := by
  refine ⟨?_, fun _ _ hmem => by cases hmem⟩
  show Represents (c.handles.erase (uuid, token)) c.nextNormalGameToken
    (records (recountEntry uuid (dropReference token) c.clients))
  rw [records_recountEntry]
  refine hs.represents.recount (fun handle hmem => ?_) (fun other key hne => ?_)
    fun owner howner => ?_
  · exact hs.represents.handles handle (List.mem_of_mem_erase hmem)
  · exact List.count_erase_of_ne fun heq => hne (congrArg Prod.fst heq)
  · rw [(hs.represents.sound uuid owner howner).references]
    by_cases hown : owner.normalGameToken = token
    · rw [hown, dropReference_tally, List.count_erase_self]
    · rw [dropReference_tally_of_ne hown, List.count_erase_of_ne fun heq =>
        hown (congrArg Prod.snd heq)]

lemma retain_tied (htied : Tied c.handles (records c.clients)) (uuid : String) (token : Nat) :
    Tied (c.retainNormalGameCapture uuid token).handles
      (records (c.retainNormalGameCapture uuid token).clients) := by
  rcases retain_cases c uuid token with hsame | ⟨-, ⟨client, hfind, htoken⟩, heq⟩
  · rw [hsame]
    exact htied
  · rw [heq]
    show Tied ((uuid, token) :: c.handles)
      (records (recountEntry uuid (retainReference token) c.clients))
    rw [records_recountEntry]
    refine Tied.recount fun other key hmem => ?_
    rcases List.mem_cons.mp hmem with hnew | hold
    · cases hnew
      exact ⟨client.record, Standing.record_mem hfind, htoken⟩
    · exact htied other key hold

lemma drop_tied (htied : Tied c.handles (records c.clients)) (uuid : String) (token : Nat) :
    Tied (c.dropCapture uuid token).handles (records (c.dropCapture uuid token).clients) := by
  show Tied (c.handles.erase (uuid, token))
    (records (recountEntry uuid (dropReference token) c.clients))
  rw [records_recountEntry]
  exact Tied.recount fun other key hmem => htied other key (List.mem_of_mem_erase hmem)

end Vibeshine.RemoteDisplay
