import Vibeshine.Input.KeyOwners

/-! # Runs of the keyboard

Each task of the input worker keeps the table of host keys in step with the entries of
the clients, and the repeat tasks with their handles.
-/

namespace Vibeshine.Input.Keyboard

open Library List State

variable {ι : Type} {state : State ι}

/-! ## The table and the clients -/

/-- Two states whose clients and delayed tasks are the same. -/
structure SameClients (old new : State ι) : Prop where
  clients : new.clients = old.clients
  timers : new.timers = old.timers
  pushes : new.pushes = old.pushes

lemma SameClients.trans {first second third : State ι} (h : SameClients first second)
    (h' : SameClients second third) : SameClients first third :=
  ⟨h'.clients.trans h.clients, h'.timers.trans h.timers, h'.pushes.trans h.pushes⟩

lemma SameClients.send (state : State ι) (key : HeldKey) (shortcutFlags : Nat) :
    SameClients state (state.sendKeyAndModifiers key shortcutFlags) := by
  obtain ⟨injected, -, hsend⟩ := state.sendKeyAndModifiers_eq key shortcutFlags
  rw [hsend]
  exact ⟨rfl, rfl, rfl⟩

lemma SameClients.releaseKey (state : State ι) (key : HeldKey) :
    SameClients state (state.releaseKey key) := by
  unfold State.releaseKey
  dsimp only
  split
  · exact ⟨rfl, rfl, rfl⟩
  · split_ifs <;> exact ⟨rfl, rfl, rfl⟩

lemma SameClients.pressKey (state : State ι) (held : HeldKey) (shortcutFlags : Nat) :
    SameClients state (state.pressKey held shortcutFlags) := by
  unfold State.pressKey
  dsimp only
  split
  · have hsend := SameClients.send (state.setHostKey (hostKeycode held.hostKey)
      (some { owners := 1, key := held.hostKey, flags := held.flags })) held shortcutFlags
    exact ⟨hsend.clients, hsend.timers, hsend.pushes⟩
  · exact ⟨rfl, rfl, rfl⟩

lemma SameClients.releaseKeys (order : List (Nat × HeldKey)) (state : State ι) :
    SameClients state (order.foldl (fun state entry => state.releaseKey entry.2) state) := by
  induction order generalizing state with
  | nil => exact ⟨rfl, rfl, rfl⟩
  | cons entry order ih => exact (SameClients.releaseKey state entry.2).trans (ih _)

lemma Tracks.pressKey {holders : Nat → Nat} (h : Tracks state holders) (held : HeldKey)
    (shortcutFlags : Nat) : Tracks (state.pressKey held shortcutFlags)
      fun code => holders code + one (hostKeycode held.hostKey) code := by
  have hkey := h.tracked (hostKeycode held.hostKey)
  unfold State.pressKey
  dsimp only
  cases hhost : state.hostKeys (hostKeycode held.hostKey) with
  | none =>
    rw [hhost] at hkey
    dsimp only
    refine Tracks.send _ held shortcutFlags ?_ h ?_
    · rfl
    intro code
    by_cases hsame : code = hostKeycode held.hostKey
    · subst hsame
      simpa [setHostKey, one] using hkey.press rfl held.flags
    · simpa [setHostKey, one, hsame, Ne.symm hsame] using h.tracked code
  | some host =>
    rw [hhost] at hkey
    dsimp only
    refine ⟨fun code => ?_, h.balanced, h.unshadowed⟩
    by_cases hsame : code = hostKeycode held.hostKey
    · subst hsame
      simpa [setHostKey, one] using hkey.share
    · simpa [setHostKey, one, hsame] using h.tracked code

lemma Tracks.repeat {holders : Nat → Nat} (h : Tracks state holders) {code : Nat}
    {host : HostKey} (hhost : state.hostKeys code = some host) (held : HeldKey)
    (shortcutFlags : Nat) :
    Tracks (state.sendKeyAndModifiers { held with hostKey := host.key, flags := host.flags }
      shortcutFlags) holders := by
  have hkey := h.tracked code
  rw [hhost] at hkey
  have hcode := hkey.code host rfl
  refine Tracks.send state _ shortcutFlags rfl h fun other => ?_
  by_cases hsame : other = code
  · subst hsame
    simpa [hcode, hhost] using hkey.repeat
  · simpa [hcode, Ne.symm hsame] using h.tracked other

variable [DecidableEq ι]

def Timed (state : State ι) : Prop :=
  Handles (fun timer : ι × Nat => timer.1) state.timers state.pushes
    fun client => (state.clients client).keyPressRepeatId

omit [DecidableEq ι] in
lemma Timed.congr {next : State ι} (h : Timed state) (htimers : next.timers = state.timers)
    (hpushes : next.pushes = state.pushes)
    (hclients : ∀ client, (next.clients client).keyPressRepeatId =
      (state.clients client).keyPressRepeatId) : Timed next := by
  unfold Timed
  rw [htimers, hpushes]
  exact Handles.congr h hclients

lemma Timed.cancelRepeat (h : Timed state) (client : ι) : Timed (state.cancelRepeat client) := by
  refine (Handles.cancel h client).congr fun other => ?_
  by_cases hsame : other = client <;> simp [State.cancelRepeat, State.setClient, hsame]

lemma Timed.pushRepeat (h : Timed state) {client : ι}
    (hnone : (state.clients client).keyPressRepeatId = none) (code : Nat) :
    Timed (state.pushRepeat client code) := by
  refine (Handles.push h (client, code) hnone).congr fun other => ?_
  by_cases hsame : other = client <;> simp [State.pushRepeat, State.setClient, hsame]

@[simp] lemma State.setClient_clients (state : State ι) (client other : ι) (input : Client) :
    (state.setClient client input).clients other =
      if other = client then input else state.clients other := by
  simp [setClient, Function.update_apply]

@[simp] lemma State.cancelRepeat_clients (state : State ι) (client other : ι) :
    (state.cancelRepeat client).clients other =
      if other = client then { state.clients client with keyPressRepeatId := none }
      else state.clients other := by
  simp [cancelRepeat, setClient, Function.update_apply]

@[simp] lemma State.pushRepeat_clients (state : State ι) (client other : ι) (code : Nat) :
    (state.pushRepeat client code).clients other =
      if other = client then { state.clients client with keyPressRepeatId := some state.pushes }
      else state.clients other := by
  simp [pushRepeat, setClient, Function.update_apply]

/-! ## The tasks -/

variable [Fintype ι]

lemma Invariant.advance (h : Invariant state) {next : State ι} (client : ι)
    (htracks : Tracks next fun code =>
      state.besides client code + (next.clients client).holders code)
    (hothers : ∀ other ≠ client, next.clients other = state.clients other)
    (hunique : ((next.clients client).keys.map Prod.fst).Nodup) (htimed : Timed next)
    (hgone : (next.clients client).closed = true →
      (next.clients client).keys = [] ∧ (next.clients client).keyPressRepeatId = none) :
    Invariant next where
  tracks := by
    have hholders : next.holders = fun code =>
        state.besides client code + (next.clients client).holders code := by
      funext code
      have hbesides : next.besides client code = state.besides client code :=
        besides_congr (fun other hne => by rw [hothers other hne]) code
      rw [next.holders_eq client, hbesides]
    rw [hholders]
    exact htracks
  unique := by
    intro other
    by_cases hsame : other = client
    · exact hsame ▸ hunique
    · rw [hothers other hsame]
      exact h.unique other
  timed := htimed
  gone := by
    intro other
    by_cases hsame : other = client
    · exact hsame ▸ hgone
    · rw [hothers other hsame]
      exact h.gone other

lemma Invariant.tracks_client (h : Invariant state) (client : ι) :
    Tracks state fun code => state.besides client code + (state.clients client).holders code := by
  have hholders : state.holders = fun code =>
      state.besides client code + (state.clients client).holders code :=
    funext (state.holders_eq client)
  exact hholders ▸ h.tracks

lemma holdersOf_erase {entries : List (Nat × HeldKey)} (hunique : (entries.map Prod.fst).Nodup)
    {code : Nat} {held : HeldKey} (hmem : (code, held) ∈ entries) (other : Nat) :
    holdersOf entries other = holdersOf (entries.filter fun entry => entry.1 ≠ code) other +
        one (hostKeycode held.hostKey) other := by
  induction entries with
  | nil => simp at hmem
  | cons entry entries ih =>
    obtain ⟨hfresh, hunique⟩ := nodup_cons.mp hunique
    rcases mem_cons.mp hmem with rfl | hmem
    · have hothers : ∀ entry ∈ entries, entry.1 ≠ code := fun entry hentry heq =>
        hfresh (mem_map.mpr ⟨entry, hentry, heq⟩)
      rw [holdersOf_cons, filter_cons_of_neg (by simp),
        filter_eq_self.mpr fun entry hentry => by simpa using hothers entry hentry]
    · have hne : entry.1 ≠ code := fun heq =>
        hfresh (mem_map.mpr ⟨(code, held), hmem, heq.symm⟩)
      rw [filter_cons_of_pos (by simpa using hne), holdersOf_cons, holdersOf_cons, ih hunique hmem]
      omega

lemma Client.mem_of_find? {client : Client} {code : Nat} {held : HeldKey}
    (h : client.find? code = some held) : (code, held) ∈ client.keys := by
  simp only [Client.find?, Option.map_eq_some_iff] at h
  obtain ⟨⟨key, value⟩, hfind, rfl⟩ := h
  have hkey : key = code := by simpa using find?_some hfind
  exact hkey ▸ mem_of_find?_eq_some hfind

lemma Client.find?_eq_none {client : Client} {code : Nat} (h : client.find? code = none) :
    code ∉ client.keys.map Prod.fst := by
  simp only [Client.find?, Option.map_eq_none_iff, List.find?_eq_none, decide_eq_true_eq] at h
  intro hmem
  obtain ⟨entry, hentry, hcode⟩ := mem_map.mp hmem
  exact h entry hentry hcode

section

variable (h : Invariant state)

include h

lemma Invariant.keyUp {client : ι} (hopen : (state.clients client).closed = false) (code : Nat) :
    Invariant (state.keyUp client code) := by
  unfold State.keyUp
  cases hheld : (state.clients client).find? code with
  | none => exact h
  | some held =>
    dsimp only
    -- The repeat of the key is cancelled first, which leaves the table as it is.
    have hcancel : ∃ cancelled, (if (state.clients client).repeatingKey = code then
          state.cancelRepeat client else state) = cancelled ∧
        cancelled.hostKeys = state.hostKeys ∧ cancelled.hostEvents = state.hostEvents ∧
        Timed cancelled ∧ (∀ other ≠ client, cancelled.clients other = state.clients other) ∧
        (cancelled.clients client).keys = (state.clients client).keys ∧
        (cancelled.clients client).closed = false := by
      split_ifs
      · refine ⟨_, rfl, rfl, rfl, Timed.cancelRepeat h.timed client, ?_, ?_, ?_⟩
        · intro other hne
          simp [hne]
        · simp
        · simpa using hopen
      · exact ⟨_, rfl, rfl, rfl, h.timed, fun _ _ => rfl, rfl, hopen⟩
    obtain ⟨cancelled, heq, hkeys, hevents, htimed, hothers, hentries, hclosed⟩ := hcancel
    rw [heq]
    have hsame := SameClients.releaseKey cancelled held
    have hmem := Client.mem_of_find? hheld
    have htracks : Tracks (cancelled.releaseKey held) fun code' =>
        state.besides client code' +
          holdersOf ((state.clients client).keys.filter fun entry => entry.1 ≠ code) code' := by
      refine Tracks.releaseKey held ?_
      have hbefore := (h.tracks_client client).congr hkeys hevents
      simp only [Client.holders, holdersOf_erase (h.unique client) hmem] at hbefore
      simpa only [Nat.add_assoc] using hbefore
    refine h.advance client ?_ ?_ ?_ ?_ ?_
    · refine Tracks.congr (?_ : Tracks (cancelled.releaseKey held) _) rfl rfl
      simpa [Client.refreshShortcutFlags, Client.holders, hsame.clients, hentries] using htracks
    · intro other hne
      simp [hne, hsame.clients, hothers]
    · simp only [setClient_clients, if_true, Client.refreshShortcutFlags, hsame.clients, hentries]
      exact (h.unique client).sublist (filter_sublist.map _)
    · refine htimed.congr hsame.timers hsame.pushes fun other => ?_
      by_cases hne : other = client <;> simp [hne, Client.refreshShortcutFlags, hsame.clients]
    · simp [Client.refreshShortcutFlags, hsame.clients, hclosed]

lemma Invariant.keyDown (guideButtonKey : Int) {client : ι}
    (hopen : (state.clients client).closed = false) {code : Nat}
    (hfresh : (state.clients client).find? code = none) (packet : State.Packet)
    (nativeRepeat : Bool) :
    Invariant (state.keyDown guideButtonKey client code packet nativeRepeat) := by
  unfold State.keyDown
  extract_lets input consumed held kept pressed refreshed cancelled marked
  have hsame : SameClients kept pressed := .pressKey kept held input.shortcutFlags
  have hkept : Tracks kept fun other =>
      state.besides client other + (state.clients client).holders other :=
    (h.tracks_client client).congr rfl rfl
  have hpressed := hkept.pressKey held input.shortcutFlags
  have htimed : Timed pressed := Timed.congr h.timed hsame.timers hsame.pushes fun other => by
    by_cases hne : other = client <;> simp [hsame.clients, kept, hne, input, Client.emplace]
  have hrefreshed : Timed refreshed := htimed.congr rfl rfl fun other => by
    by_cases hne : other = client <;> simp [refreshed, hne, Client.refreshShortcutFlags]
  have hmarked : Timed marked := (hrefreshed.cancelRepeat client).congr rfl rfl fun other => by
    by_cases hne : other = client <;> simp [marked, cancelled, hne, Client.setRepeating]
  have hkeys : (marked.clients client).keys = input.keys ++ [(code, held)] := by
    simp [marked, cancelled, refreshed, hsame.clients, kept, Client.refreshShortcutFlags,
      Client.emplace, Client.setRepeating]
  have hnone : (marked.clients client).keyPressRepeatId = none := by
    simp [marked, cancelled, Client.setRepeating]
  have hclosed : (marked.clients client).closed = false := by
    simpa [marked, cancelled, refreshed, hsame.clients, kept, Client.refreshShortcutFlags,
      Client.emplace, Client.setRepeating]
      using hopen
  have hothers : ∀ other ≠ client, marked.clients other = state.clients other := fun other hne => by
    simp [marked, cancelled, refreshed, hsame.clients, kept, hne]
  have hunique : ((input.keys ++ [(code, held)]).map Prod.fst).Nodup := by
    rw [map_append, nodup_append]
    refine ⟨h.unique client, by simp, fun first hfirst second hsecond heq => ?_⟩
    obtain rfl : second = code := by simpa using hsecond
    exact Client.find?_eq_none hfresh (heq ▸ hfirst)
  have htracks : Tracks marked fun other =>
      state.besides client other + (marked.clients client).holders other := by
    refine Tracks.congr (?_ : Tracks pressed _) rfl rfl
    have hholders : ∀ other, (marked.clients client).holders other =
        (state.clients client).holders other + one (hostKeycode held.hostKey) other := fun other => by
      simp [Client.holders, hkeys, holdersOf, one, input, countP_cons, eq_comm]
    simpa only [hholders, Nat.add_assoc] using hpressed
  have hinvariant : Invariant marked := by
    refine h.advance client htracks hothers (hkeys ▸ hunique) hmarked fun hgone => ?_
    simp [hclosed] at hgone
  split_ifs
  · refine h.advance client ?_ ?_ ?_ (hmarked.pushRepeat hnone code) ?_
    · refine Tracks.congr (?_ : Tracks marked _) rfl rfl
      simpa [Client.holders] using htracks
    · intro other hne
      simpa [hne] using hothers other hne
    · simpa [hkeys] using hunique
    · simp [hclosed]
  · exact hinvariant

lemma Invariant.setClient (client : ι) {input : Client}
    (hkeys : input.keys = (state.clients client).keys)
    (hid : input.keyPressRepeatId = (state.clients client).keyPressRepeatId)
    (hclosed : input.closed = (state.clients client).closed) :
    Invariant (state.setClient client input) := by
  refine h.advance client ?_ ?_ ?_ ?_ ?_
  · refine Tracks.congr (?_ : Tracks state _) rfl rfl
    simpa [Client.holders, hkeys] using h.tracks_client client
  · intro other hne
    simp [hne]
  · simpa [hkeys] using h.unique client
  · refine Timed.congr h.timed rfl rfl fun other => ?_
    by_cases hne : other = client <;> simp [hne, hid]
  · simpa [hkeys, hid, hclosed] using h.gone client

lemma Invariant.passthroughKey (guideButtonKey : Int) {client : ι}
    (hopen : (state.clients client).closed = false) (packet : State.Packet) (nativeRepeat : Bool) :
    Invariant (state.passthroughKey guideButtonKey client packet nativeRepeat) := by
  unfold State.passthroughKey State.passthroughGuideKey
  dsimp only
  by_cases hguide : guideButtonKey = 0 ∨ ↑(packet.keyCode % 256).toNat ≠ guideButtonKey
  · rw [if_pos hguide]
    dsimp only
    split_ifs with hrelease hoff hshortcut
    · exact h.keyUp hopen _
    · exact h
    · exact h
    · push Not at hoff
      refine h.keyDown guideButtonKey hopen ?_ packet nativeRepeat
      simpa using hoff.2
  · rw [if_neg hguide]
    exact h.setClient client rfl rfl rfl

lemma Invariant.repeatKey {task : Nat} {client : ι} {code : Nat}
    (htimer : (task, client, code) ∈ state.timers) (nativeRepeat : Bool) :
    ∃ next, repeatKey { state with timers := state.timers.erase (task, client, code) }
      client code nativeRepeat = some next ∧ Invariant next := by
  have hfired := Handles.fire h.timed htimer
  have hopen : (state.clients client).closed = false := by
    cases hclosed : (state.clients client).closed with
    | false => rfl
    | true =>
      have hpend := h.timed.pending _ htimer
      simp [(h.gone client hclosed).2] at hpend
  obtain ⟨rest, hrest⟩ : ∃ rest, rest = state.timers.erase (task, client, code) := ⟨_, rfl⟩
  rw [← hrest] at hfired ⊢
  unfold State.repeatKey
  dsimp only
  cases hheld : (state.clients client).find? code with
  | none =>
    refine ⟨_, rfl, h.advance client ?_ ?_ ?_ ?_ ?_⟩
    · refine Tracks.congr (?_ : Tracks state _) rfl rfl
      simpa [Client.holders] using h.tracks_client client
    · intro other hne
      simp [hne]
    · simpa using h.unique client
    · refine hfired.congr fun other => ?_
      by_cases hne : other = client <;> simp [hne]
    · simp [hopen]
  | some held =>
    obtain ⟨host, hhost⟩ := h.lookup hheld
    dsimp only
    rw [hhost]
    dsimp only
    let held' : HeldKey := { held with hostKey := host.key, flags := host.flags }
    have hsent : ∃ sent, (if nativeRepeat then { state with timers := rest } else
          sendKeyAndModifiers { state with timers := rest } held'
            (state.clients client).shortcutFlags) = sent ∧
        SameClients { state with timers := rest } sent ∧ Tracks sent state.holders := by
      have hrest : Tracks { state with timers := rest } state.holders := h.tracks.congr rfl rfl
      split_ifs
      · exact ⟨_, rfl, ⟨rfl, rfl, rfl⟩, hrest⟩
      · exact ⟨_, rfl, .send _ held' _, hrest.repeat hhost held _⟩
    obtain ⟨sent, heq, hsame, htracks⟩ := hsent
    rw [heq]
    have hholders : state.holders = fun code =>
        state.besides client code + (state.clients client).holders code :=
      funext (state.holders_eq client)
    refine ⟨_, rfl, h.advance client ?_ ?_ ?_ ?_ ?_⟩
    · refine Tracks.congr (?_ : Tracks sent _) rfl rfl
      simpa [Client.holders, hsame.clients, hholders] using htracks
    · intro other hne
      simp [hne, hsame.clients]
    · simpa [hsame.clients] using h.unique client
    · unfold Timed pushRepeat
      rw [hsame.timers, hsame.pushes]
      refine (hfired.push (client, code) (by simp)).congr fun other => ?_
      by_cases hne : other = client <;> simp [hne, hsame.clients]
    · simp [hsame.clients, hopen]

lemma Invariant.reset {client : ι} {order : List (Nat × HeldKey)}
    (horder : order.Perm (state.clients client).keys) : Invariant (state.reset client order) := by
  unfold State.reset
  dsimp only
  have hsame := SameClients.releaseKeys order (state.cancelRepeat client)
  have hbefore : Tracks (state.cancelRepeat client) fun code =>
      state.besides client code + holdersOf order code := by
    refine Tracks.congr (?_ : Tracks state _) rfl rfl
    have hcount : ∀ code, holdersOf order code = (state.clients client).holders code :=
      fun code => horder.countP_eq _
    simpa only [hcount] using h.tracks_client client
  have hafter := hbefore.releaseKeys
  refine h.advance client ?_ ?_ ?_ ?_ ?_
  · refine Tracks.congr (?_ : Tracks (order.foldl _ (state.cancelRepeat client)) _) rfl rfl
    simpa [Client.holders, holdersOf] using hafter
  · intro other hne
    simp [hne, hsame.clients]
  · simp
  · refine (Timed.cancelRepeat h.timed client).congr hsame.timers hsame.pushes fun other => ?_
    by_cases hne : other = client <;> simp [hne, hsame.clients]
  · simp [hsame.clients]

lemma Invariant.step (guideButtonKey : ι → Int) {task : Task ι}
    (hadmits : admits state task) : Invariant (step guideButtonKey state task) := by
  cases task with
  | key client packet nativeRepeat => exact h.passthroughKey _ hadmits packet nativeRepeat
  | «repeat» task client code nativeRepeat =>
    obtain ⟨next, hnext, hinv⟩ := h.repeatKey hadmits nativeRepeat
    simpa only [Keyboard.step, hnext, Option.getD_some] using hinv
  | configure config => exact ⟨h.tracks.congr rfl rfl, h.unique, h.timed, h.gone⟩
  | reset client order => exact h.reset hadmits.2

end

lemma Invariant.of_reachable {guideButtonKey : ι → Int}
    (h : (worker guideButtonKey).Reachable state) : Invariant state :=
  h.invariant Invariant.initial fun _ _ hinv hadmits => hinv.step guideButtonKey hadmits

/-! ## Ownership -/

/-- In every run of any number of clients: the table of host keys counts the entries that
are mapped to each key, and has no other entry; the host last saw a key go down iff it is
in the table, and each release ends a press of the same code and flags; injected modifiers
stay within their call and are not held on the host meanwhile; the lookup of a repeat task
succeeds; and nothing is left of a client after its reset, so that with no key held the
table is empty and every key is up. -/
theorem keyboard_ownership {guideButtonKey : ι → Int}
    (h : (worker guideButtonKey).Reachable state) :
    (∀ code, ((state.hostKeys code).elim 0 HostKey.owners = state.holders code) ∧
        (state.hostKeys code = none ↔ state.holders code = 0)) ∧
      (∀ code, (∃ key, (eventsOf code state.hostEvents).head? = some (false, key)) ↔
        state.hostKeys code ≠ none) ∧ (∀ code, Matched (eventsOf code state.hostEvents)) ∧
      Balanced state.hostEvents ∧
      (∀ event ∈ state.hostEvents, event.synthetic = true → event.shadowed = false) ∧
      (∀ task client code nativeRepeat, (task, client, code) ∈ state.timers →
        repeatKey { state with timers := state.timers.erase (task, client, code) }
          client code nativeRepeat ≠ none) ∧
      (∀ client, (state.clients client).closed = true → (state.clients client).keys = [] ∧
        (state.clients client).keyPressRepeatId = none ∧
          ∀ timer ∈ state.timers, timer.2.1 ≠ client) ∧
      ((∀ client, (state.clients client).keys = []) → ∀ code, state.hostKeys code = none ∧
        ∀ last ∈ (eventsOf code state.hostEvents).head?, last.1 = true) := by
  have hinv := Invariant.of_reachable h
  have habsent : ∀ code, state.hostKeys code = none ↔ state.holders code = 0 := by
    intro code
    have htracked := hinv.tracks.tracked code
    cases hhost : state.hostKeys code with
    | none => simpa [hhost, eq_comm] using htracked.owners
    | some host =>
      rw [hhost] at htracked
      have hpos := htracked.positive host rfl
      have howners : host.owners = state.holders code := htracked.owners
      simp only [reduceCtorEq, false_iff]
      omega
  refine ⟨fun code => ⟨(hinv.tracks.tracked code).owners, habsent code⟩, ?_,
    fun code => (hinv.tracks.tracked code).matched, hinv.tracks.balanced,
    fun event hevent _ => hinv.tracks.unshadowed event hevent, ?_, ?_, ?_⟩
  · intro code
    have htracked := hinv.tracks.tracked code
    cases hhost : state.hostKeys code with
    | none =>
      simp only [ne_eq, not_true_eq_false, iff_false, not_exists]
      intro key hkey
      simpa using htracked.up hhost _ hkey
    | some host => simpa using ⟨_, _, htracked.down host hhost⟩
  · intro task client code nativeRepeat htimer
    obtain ⟨next, hnext, -⟩ := hinv.repeatKey htimer nativeRepeat
    simp [hnext]
  · intro client hclosed
    obtain ⟨hkeys, hid⟩ := hinv.gone client hclosed
    refine ⟨hkeys, hid, fun timer htimer heq => ?_⟩
    have hpend := hinv.timed.pending timer htimer
    simp [heq, hid] at hpend
  · intro hkeys code
    have hzero : state.holders code = 0 := by
      simp [holders, Client.holders, hkeys, holdersOf]
    have hnone := (habsent code).mpr hzero
    exact ⟨hnone, (hinv.tracks.tracked code).up hnone⟩

def sharedShift : List (Task (Fin 2)) :=
  [.key 0 { release := false, keyCode := 0x10 } false,
    .key 1 { release := false, keyCode := 0xA0 } false, .repeat 0 0 0x10 false,
    .key 0 { release := true, keyCode := 0x10 } false]

theorem keyboard_ownership_sharedShift :
    (((worker fun _ : Fin 2 => 0).run {} sharedShift).hostKeys 0xA0).elim 0 HostKey.owners =
      ((worker fun _ : Fin 2 => 0).run {} sharedShift).holders 0xA0 := by
  have hfollows : (worker fun _ : Fin 2 => 0).Follows (fun _ _ => True) {} sharedShift := by decide
  exact ((keyboard_ownership (System.Segment.of_follows .refl hfollows)).1 0xA0).1

end Vibeshine.Input.Keyboard
