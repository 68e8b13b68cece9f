import Vibeshine.HttpAuth.Sessions

/-! # The life of a session

Issuing opens a chain of sessions, each refresh continues it and retires the pair of tokens
it was given, a revocation retires a pair without a successor. A run remembers all pairs
that were handed out, with the end of the refresh token of their chain's first pair. The
memory only ever holds sessions of pairs that are not retired, and so does the file as soon
as it is written.
-/

namespace Vibeshine.HttpAuth

open Library StateFile List KeyMap Option

/-! ## Sound memories -/

/-- A property of stored sessions that saving and loading keep. -/
structure Living (live : String → SessionToken → Prop) : Prop where
  hash : ∀ {hash token}, live hash token → hash ≠ ""
  linked : ∀ {hash token}, live hash token → token.refreshTokenHash ≠ ""
  unique : ∀ {hash token hash' token'}, live hash token → live hash' token' →
    token.refreshTokenHash = token'.refreshTokenHash → hash = hash'
  fits : ∀ {hash token}, live hash token →
    -2 ^ 63 ≤ seconds token.refreshExpiresAt ∧ seconds token.refreshExpiresAt < 2 ^ 63
  /-- Times are cut to full seconds. -/
  reloads : ∀ {hash token}, live hash token → ∀ token' : SessionToken,
    token'.refreshTokenHash = token.refreshTokenHash →
    token'.refreshExpiresAt = seconds token.refreshExpiresAt * nanosecondsPerSecond →
    token'.expiresAt ≤ token'.refreshExpiresAt → live hash token'
  /-- `last_seen` does not matter. -/
  seen : ∀ {hash token}, live hash token → ∀ now, live hash { token with lastSeen := now }

/-- The index leads to the sessions of the memory, and these have the property. -/
structure SoundMemory (live : String → SessionToken → Prop) (memory : SessionMemory) : Prop where
  ordered : KeyMap.Ordered memory.sessionTokens
  index : KeyMap.Indexes memory.refreshIndex SessionToken.refreshTokenHash memory.sessionTokens
  live : ∀ hash token, get? hash memory.sessionTokens = some token → live hash token

namespace SoundMemory

variable {live live' : String → SessionToken → Prop} {memory : SessionMemory}
  {hash : String} {token : SessionToken}

lemma empty : SoundMemory live {} where
  ordered := List.Pairwise.nil
  index := .nil
  live _ _ h := by simp at h

lemma mono (h : SoundMemory live memory) (himp : ∀ hash token, live hash token → live' hash token) :
    SoundMemory live' memory :=
  ⟨h.ordered, h.index, fun _ _ hget => himp _ _ (h.live _ _ hget)⟩

lemma dirty (h : SoundMemory live memory) (dirty : Bool) : SoundMemory live { memory with dirty } :=
  ⟨h.ordered, h.index, h.live⟩

section

variable (hliving : Living live)

include hliving

section

variable (h : SoundMemory live memory)

include h

lemma drop (hget : get? hash memory.sessionTokens = some token) :
    SoundMemory (fun hash' token' => live hash' token' ∧ hash' ≠ hash ∧
      token'.refreshTokenHash ≠ token.refreshTokenHash) (memory.drop hash token) where
  ordered := h.ordered.filter _
  index := by
    rw [SessionMemory.drop, if_pos (hliving.linked (h.live _ _ hget))]
    exact h.index.erase hget
  live hash' token' hget' := by
    rw [SessionMemory.drop, get?_erase] at hget'
    split at hget'
    · cases hget'
    · rename_i hne
      exact ⟨h.live _ _ hget', hne, fun hsame => hne (h.index.unique hget' hget hsame)⟩

lemma drop_live (hget : get? hash memory.sessionTokens = some token) :
    SoundMemory live (memory.drop hash token) :=
  (h.drop hliving hget).mono fun _ _ hlive => hlive.1

lemma cleanup (now : Int) : SoundMemory live (memory.cleanup now) := by
  have step : ∀ entries : SessionTokenMap, KeyMap.Ordered entries → ∀ memory : SessionMemory,
      SoundMemory live memory →
      (∀ entry ∈ entries, get? entry.1 memory.sessionTokens = some entry.2) →
      SoundMemory live (entries.foldl (fun memory entry => memory.drop entry.1 entry.2) memory) := by
    intro entries
    induction entries with
    | nil => exact fun _ _ hsound _ => hsound
    | cons entry rest ih =>
      intro hordered memory hsound hthere
      obtain ⟨hfirst, hrest⟩ := pairwise_cons.1 hordered
      refine ih hrest _ (hsound.drop_live hliving (hthere _ mem_cons_self)) ?_
      intro later hlater
      rw [SessionMemory.drop_sessionTokens, get?_erase, if_neg (hfirst later hlater).ne']
      exact hthere later (mem_cons_of_mem _ hlater)
  exact step _ (h.ordered.filter _) _ h fun entry hentry =>
    get?_of_mem h.ordered (mem_of_mem_filter hentry)

end

end

lemma add (h : SoundMemory live memory) (hlive : live hash token)
    (hnew : get? hash memory.sessionTokens = none)
    (hlink : get? token.refreshTokenHash memory.refreshIndex = none) {dirty : Bool} :
    SoundMemory live
      { sessionTokens := emplace hash token memory.sessionTokens
        refreshIndex := assign token.refreshTokenHash hash memory.refreshIndex
        dirty } := by
  have hmap : ∀ other, get? other (emplace hash token memory.sessionTokens) =
      if other = hash then some token else get? other memory.sessionTokens := by
    intro other
    rw [get?_emplace, hnew, none_or]
  refine ⟨emplace_ordered h.ordered,
    h.index.insert hnew hlink hmap fun _ => get?_assign, fun other found hfound => ?_⟩
  dsimp only at hfound
  rw [hmap] at hfound
  split at hfound
  · rename_i hother
    obtain rfl := Option.some.inj hfound
    exact hother ▸ hlive
  · exact h.live _ _ hfound

lemma insert (h : SoundMemory live memory) (hlive : live hash token)
    (hnew : get? hash memory.sessionTokens = none)
    (hlink : get? token.refreshTokenHash memory.refreshIndex = none) :
    SoundMemory live (memory.insert hash token) := by
  have herase : erase hash memory.sessionTokens = memory.sessionTokens := by
    refine filter_eq_self.2 fun entry hentry => ?_
    have hget := get?_of_mem h.ordered hentry
    rw [decide_eq_true_iff]
    rintro rfl
    rw [hnew] at hget
    cases hget
  rw [SessionMemory.insert, herase]
  exact h.add hlive hnew hlink

lemma touch (hliving : Living live) (h : SoundMemory live memory) (now : Int) :
    SoundMemory live (memory.touch hash now).1 := by
  unfold SessionMemory.touch
  split
  · exact h
  rename_i token hget
  split
  · exact h.drop_live hliving hget
  split
  · exact h
  split
  · refine ⟨assign_ordered h.ordered, fun link other => ?_, fun other found hfound => ?_⟩
    · dsimp only
      rw [h.index link other, get?_assign]
      split
      · rename_i hother
        simp [hother, hget]
      · exact Iff.rfl
    · dsimp only at hfound
      rw [get?_assign] at hfound
      split at hfound
      · rename_i hother
        obtain rfl := Option.some.inj hfound
        exact hother ▸ hliving.seen (h.live _ _ hget) now
      · exact h.live _ _ hfound
  · exact h

end SoundMemory

def Stored (live : String → SessionToken → Prop) (file : Option PTree) : Prop :=
  ∀ root ∈ file, ∀ sessions, (rootOf root).child? "session_tokens" = some sessions →
    ∃ tokens : SessionTokenMap, sessions = sessionsTree tokens ∧
      ∀ entry ∈ tokens, live entry.1 entry.2

/-- The memory is sound, and the file unless the last save has failed. -/
structure SoundState (live : String → SessionToken → Prop) (s : SessionState) : Prop where
  memory : SoundMemory live s.memory
  stored : s.unwritten = false → Stored live s.file

section

variable {live live' : String → SessionToken → Prop} {s : SessionState}

lemma Stored.mono {file : Option PTree} (h : Stored live file)
    (himp : ∀ hash token, live hash token → live' hash token) : Stored live' file := by
  intro root hroot sessions hsess
  obtain ⟨tokens, htree, hlive⟩ := h root hroot sessions hsess
  exact ⟨tokens, htree, fun entry hentry => himp _ _ (hlive entry hentry)⟩

lemma stored_savedSessions {memory : SessionMemory} (h : SoundMemory live memory) (root : PTree) :
    Stored live (some (savedSessions memory.sessionTokens root)) := by
  intro saved hsaved sessions hsess
  obtain rfl := Option.some.inj (mem_def.1 hsaved)
  refine ⟨memory.sessionTokens, ?_, fun entry hentry => ?_⟩
  · simpa [savedSessions, eq_comm] using hsess
  · exact h.live _ _ (get?_of_mem h.ordered hentry)

lemma SoundState.save (hmemory : SoundMemory live s.memory)
    (hstored : s.memory.dirty = false → s.unwritten = false → Stored live s.file) (works : Bool) :
    SoundState live (s.save works) := by
  unfold SessionState.save
  split
  · rename_i hclean
    exact ⟨hmemory, hstored (by simpa using hclean)⟩
  split
  · exact ⟨hmemory.dirty false, fun _ => stored_savedSessions hmemory _⟩
  · exact ⟨hmemory, by simp⟩

lemma SoundState.save_dirty {memory : SessionMemory} (hmemory : SoundMemory live memory)
    (hdirty : memory.dirty = true) (works : Bool) :
    SoundState live (({ s with memory }).save works) :=
  .save hmemory (by simp [hdirty]) works

end

/-! ## What the calls do to the memory -/

namespace SessionDependencies

variable {deps : SessionDependencies} {live : String → SessionToken → Prop}
  {memory : SessionMemory}

lemma renew_cases (deps : SessionDependencies) (hliving : Living live) (h : SoundMemory live memory)
    (refreshToken : String) (client : Client) (draw : Draw) (now : Int) :
    deps.renew memory refreshToken client draw now = (memory, none, false) ∨
    ∃ hash entry, get? hash memory.sessionTokens = some entry ∧
      entry.refreshTokenHash = deps.hash refreshToken ∧
      (entry.refreshExpiresAt < now ∧
          deps.renew memory refreshToken client draw now = (memory.drop hash entry, none, true) ∨
        now ≤ entry.refreshExpiresAt ∧ ∃ updated bundle,
          (updated, bundle) = deps.newSession entry.username now deps.sessionTokenTtl
            entry.refreshExpiresAt client entry.rememberMe draw ∧
          deps.renew memory refreshToken client draw now =
            ({ sessionTokens :=
                emplace (deps.hash draw.session) updated (memory.drop hash entry).sessionTokens
               refreshIndex := assign updated.refreshTokenHash (deps.hash draw.session)
                (memory.drop hash entry).refreshIndex
               dirty := true }, some bundle, true)) := by
  cases hindex : get? (deps.hash refreshToken) memory.refreshIndex with
  | none => exact .inl (by simp only [renew, hindex])
  | some hash =>
    obtain ⟨entry, hentry, hlink⟩ := (h.index _ _).1 hindex
    have hdrop : memory.drop hash entry =
        { sessionTokens := erase hash memory.sessionTokens
          refreshIndex := erase (deps.hash refreshToken) memory.refreshIndex
          dirty := true } := by
      rw [SessionMemory.drop, if_pos (hliving.linked (h.live _ _ hentry)), hlink]
    refine .inr ⟨hash, entry, hentry, hlink, ?_⟩
    simp only [renew, hindex, hentry]
    by_cases hexpired : entry.refreshExpiresAt < now
    · exact .inl ⟨hexpired, by rw [if_pos hexpired, hdrop]⟩
    · exact .inr ⟨not_lt.1 hexpired, _, _, rfl, by rw [if_neg hexpired, hdrop]; rfl⟩

/-! ### Loading -/

section

variable (hlib : ReadsIntegers deps.lib)

include hlib

lemma loadSession_sessionTree (hliving : Living live)
    {entry : String × SessionToken} (hlive : live entry.1 entry.2) :
    ∃ token resave, deps.loadSession (sessionTree entry) = some (entry.1, token, resave) ∧
      token.refreshTokenHash = entry.2.refreshTokenHash ∧ live entry.1 token := by
  obtain ⟨hash, stored⟩ := entry
  have hhash : textOf (sessionTree (hash, stored)) "hash" = hash := by
    simp [textOf, sessionTree, PTree.child?]
  have hlink : textOf (sessionTree (hash, stored)) "refresh_token_hash" = stored.refreshTokenHash := by
    simp [textOf, sessionTree, PTree.child?, optionalLeaf, hliving.linked hlive]
  have hrefresh : ∀ missing, deps.integerOf (sessionTree (hash, stored)) "refresh_expires_at" missing =
      seconds stored.refreshExpiresAt := by
    intro missing
    obtain ⟨hlow, hhigh⟩ := hliving.fits hlive
    have hread : deps.lib.int64 (seconds stored.refreshExpiresAt).repr =
        some (seconds stored.refreshExpiresAt) := hlib.reads _ hlow hhigh
    simp [integerOf, sessionTree, PTree.child?, hread]
  unfold loadSession
  rw [hhash, if_neg (hliving.hash hlive), hlink]
  refine ⟨_, _, rfl, rfl, ?_⟩
  refine hliving.reloads hlive _ rfl ?_ (min_le_right _ _)
  dsimp only
  rw [if_neg (hliving.linked hlive), hrefresh]

lemma loadNext_sound (hliving : Living live)
    (h : SoundMemory live memory) {entry : String × SessionToken} (hlive : live entry.1 entry.2)
    (now : Int) : SoundMemory live (deps.loadNext now memory (sessionTree entry)) := by
  obtain ⟨token, resave, hload, _, htoken⟩ := loadSession_sessionTree hlib hliving hlive
  unfold loadNext
  rw [hload]
  dsimp only
  split
  · exact h.dirty _
  split
  · exact h.dirty _
  · rename_i hmissing
    have hnew : get? entry.1 memory.sessionTokens = none :=
      not_isSome_iff_eq_none.1 hmissing
    have hlink : get? token.refreshTokenHash memory.refreshIndex = none := by
      refine eq_none_iff_forall_ne_some.2 fun other hother => ?_
      obtain ⟨found, hfound, hsame⟩ := (h.index _ _).1 hother
      rw [hliving.unique (h.live _ _ hfound) htoken hsame, hnew] at hfound
      cases hfound
    rw [if_pos (hliving.linked htoken)]
    exact h.add htoken hnew hlink

lemma loaded_sound (hliving : Living live) {root : PTree}
    (hstored : Stored live (some root)) (now : Int) : SoundMemory live (deps.loaded root now) := by
  unfold loaded
  split
  · exact .empty
  rename_i sessions hsess
  obtain ⟨tokens, rfl, hlive⟩ := hstored root rfl sessions hsess
  have step : ∀ memory, SoundMemory live memory → SoundMemory live
      ((tokens.map sessionTree).foldl (deps.loadNext now) memory) := by
    clear hsess hstored
    induction tokens with
    | nil => exact fun _ h => h
    | cons entry rest ih =>
      intro memory h
      exact ih (fun other hother => hlive other (mem_cons_of_mem _ hother)) _
        (loadNext_sound hlib hliving h (hlive entry mem_cons_self) now)
  simpa [sessionsTree, Function.comp_def] using step {} .empty

end

end SessionDependencies

/-! ## Runs -/

/-- A pair of tokens that was handed out. -/
structure Grant where
  session : String
  refresh : String
  /-- the end of the refresh token of the first pair of its chain -/
  deadline : Int
  deriving DecidableEq

structure SessionRun where
  state : SessionState
  clock : Int := 0
  grants : List Grant := []
  /-- refreshed or revoked -/
  retired : List Grant := []
  /-- the refresh tokens that have given new tokens -/
  refreshed : List String := []
  deriving DecidableEq

inductive SessionCall where
  | issue (request : IssueRequest) (draw : Draw) (now later : Int) (works : Bool)
  | refresh (refreshToken : String) (client : Client) (draw : Draw) (now : Int) (works : Bool)
  | validate (token : String) (now : Int) (works : Bool)
  | getUsername (token : String) (now : Int) (works : Bool)
  | revokeToken (token : String) (works : Bool)
  | revokeHash (hash : String) (works : Bool)
  | revokeRefresh (refreshToken : String) (works : Bool)
  | cleanup (now : Int)
  | save (works : Bool)
  | load (readable : Bool) (now : Int) (works : Bool)

def SessionRun.revoke (run : SessionRun) (outcome : SessionState × Bool) (named : Grant → Bool) :
    SessionRun :=
  { run with
    state := outcome.1
    retired := run.retired ++ if outcome.2 then run.grants.filter named else [] }

def SessionRun.Fresh (run : SessionRun) (draw : Draw) : Prop :=
  ∀ grant ∈ run.grants, grant.session ≠ draw.session ∧ grant.refresh ≠ draw.refresh

instance (run : SessionRun) (draw : Draw) : Decidable (run.Fresh draw) :=
  inferInstanceAs (Decidable (∀ grant ∈ run.grants, _))

namespace SessionDependencies

variable (deps : SessionDependencies)

/-- The clock does not go back, the drawn tokens are new, the end of a refresh token is a
time point of 64 bits, and a file that is loaded is the one that the last save has written. -/
def Admits (run : SessionRun) : SessionCall → Prop
  | .issue request draw now later _ =>
    (run.clock ≤ now ∧ now ≤ later) ∧ run.Fresh draw ∧
      (deps.issued request draw now).1.refreshExpiresAt < 2 ^ 63
  | .refresh _ _ draw now _ => run.clock ≤ now ∧ run.Fresh draw
  | .validate _ now _ | .getUsername _ now _ | .cleanup now => run.clock ≤ now
  | .revokeToken _ _ | .revokeHash _ _ | .revokeRefresh _ _ | .save _ => True
  | .load readable now _ => run.clock ≤ now ∧ (readable = true → run.state.unwritten = false)

instance (run : SessionRun) : ∀ call, Decidable (deps.Admits run call)
  | .issue .. => inferInstanceAs (Decidable ((_ ∧ _) ∧ _ ∧ _))
  | .refresh .. => inferInstanceAs (Decidable (_ ∧ _))
  | .validate .. | .getUsername .. | .cleanup .. => inferInstanceAs (Decidable (_ ≤ _))
  | .revokeToken .. | .revokeHash .. | .revokeRefresh .. | .save .. => .isTrue trivial
  | .load .. => inferInstanceAs (Decidable (_ ∧ (_ → _)))

def issueStep (run : SessionRun) (request : IssueRequest) (draw : Draw) (now later : Int)
    (works : Bool) : SessionRun :=
  let (state, bundle) := deps.issueSessionTokens run.state request draw now later works
  let deadline := (deps.issued request draw now).1.refreshExpiresAt
  { run with
    state
    clock := later
    grants := run.grants ++
      [{ session := bundle.sessionToken, refresh := bundle.refreshToken, deadline }] }

def refreshStep (run : SessionRun) (refreshToken : String) (client : Client) (draw : Draw)
    (now : Int) (works : Bool) : SessionRun :=
  let (state, result) := deps.refreshSessionTokens run.state refreshToken client draw now works
  match result with
  | none => { run with state, clock := now }
  | some bundle =>
    let given := run.grants.filter (·.refresh = refreshToken)
    { state
      clock := now
      grants := run.grants ++ given.map fun grant =>
        { session := bundle.sessionToken, refresh := bundle.refreshToken,
          deadline := grant.deadline }
      retired := run.retired ++ given
      refreshed := refreshToken :: run.refreshed }

def sessionStep (run : SessionRun) : SessionCall → SessionRun
  | .issue request draw now later works => deps.issueStep run request draw now later works
  | .refresh refreshToken client draw now works =>
    deps.refreshStep run refreshToken client draw now works
  | .validate token now works =>
    { run with state := (deps.validateSessionToken run.state token now works).1, clock := now }
  | .getUsername token now works =>
    { run with state := (deps.getUsernameForToken run.state token now works).1, clock := now }
  | .revokeToken token works =>
    run.revoke (deps.revokeSessionToken run.state token works) (·.session = token)
  | .revokeHash hash works =>
    run.revoke (run.state.revokeSessionByHash hash works) (deps.hash ·.session = hash)
  | .revokeRefresh refreshToken works =>
    run.revoke (deps.revokeRefreshToken run.state refreshToken works) (·.refresh = refreshToken)
  | .cleanup now =>
    { run with state := run.state.cleanupExpiredSessionTokens now, clock := now }
  | .save works => { run with state := run.state.save works }
  | .load readable now works =>
    { run with state := deps.loadSessionTokens run.state readable now works, clock := now }

def sessionSystem (file : Option PTree) : System SessionRun SessionCall where
  init := { state := { file } }
  admits := deps.Admits
  step := deps.sessionStep

instance (file : Option PTree) (run : SessionRun) (call : SessionCall) :
    Decidable ((deps.sessionSystem file).admits run call) :=
  inferInstanceAs (Decidable (deps.Admits run call))

def Accepts (s : SessionState) (token : String) (now : Int) : Prop :=
  ∃ works, (deps.validateSessionToken s token now works).2 = true ∨
    (deps.getUsernameForToken s token now works).2.isSome ∨ (deps.getHashForToken s token now).isSome

def Live (run : SessionRun) (hash : String) (token : SessionToken) : Prop :=
  ∃ grant ∈ run.grants, grant ∉ run.retired ∧ hash = deps.hash grant.session ∧
    token.refreshTokenHash = deps.hash grant.refresh ∧
    token.expiresAt ≤ token.refreshExpiresAt ∧ token.refreshExpiresAt ≤ grant.deadline ∧
    0 ≤ token.refreshExpiresAt ∧ token.refreshExpiresAt < 2 ^ 63

def Apart (grants : List Grant) : Prop :=
  grants.Pairwise fun grant other => grant.session ≠ other.session ∧ grant.refresh ≠ other.refresh

lemma Apart.eq {grants : List Grant} (h : Apart grants) {grant other : Grant}
    (hgrant : grant ∈ grants) (hother : other ∈ grants)
    (hsame : grant.session = other.session ∨ grant.refresh = other.refresh) : grant = other := by
  by_contra hne
  have hsymm : Std.Symm fun grant other : Grant =>
      grant.session ≠ other.session ∧ grant.refresh ≠ other.refresh :=
    ⟨fun _ _ h => ⟨h.1.symm, h.2.symm⟩⟩
  obtain ⟨hsession, hrefresh⟩ := List.Pairwise.forall h hgrant hother hne
  exact hsame.elim hsession hrefresh

lemma Apart.filter_refresh {grants : List Grant} (h : Apart grants) {grant : Grant}
    (hgrant : grant ∈ grants) : grants.filter (·.refresh = grant.refresh) = [grant] := by
  induction grants with
  | nil => simp at hgrant
  | cons first rest ih =>
    obtain ⟨hfirst, hrest⟩ := pairwise_cons.1 h
    obtain rfl | hlater := mem_cons.1 hgrant
    · rw [filter_cons_of_pos (by simp), filter_eq_nil_iff.2]
      intro other hother
      simpa using (hfirst other hother).2.symm
    · rw [filter_cons_of_neg (by simpa using (hfirst grant hlater).2), ih hrest hlater]

structure Lawful (run : SessionRun) : Prop where
  apart : Apart run.grants
  granted : ∀ grant ∈ run.retired, grant ∈ run.grants
  spent : ∀ token ∈ run.refreshed, ∃ grant ∈ run.retired, grant.refresh = token
  once : run.refreshed.Nodup
  sound : SoundState (deps.Live run) run.state
  clock : 0 ≤ run.clock

variable {deps} {run : SessionRun}

lemma seconds_mul_le {time : Int} (h : 0 ≤ time) :
    0 ≤ seconds time * nanosecondsPerSecond ∧ seconds time * nanosecondsPerSecond ≤ time := by
  simp only [seconds, nanosecondsPerSecond]
  rw [Int.tdiv_eq_ediv_of_nonneg h]
  omega

lemma Lawful.living (hhash : Function.Injective deps.hash) (hfilled : ∀ text, deps.hash text ≠ "")
    (happart : Apart run.grants) : Living (deps.Live run) where
  hash := by
    rintro _ token ⟨grant, _, _, rfl, _⟩
    exact hfilled _
  linked := by
    rintro _ token ⟨grant, _, _, _, hlink, _⟩
    exact hlink ▸ hfilled _
  unique := by
    rintro _ token _ token' ⟨grant, hgrant, _, rfl, hlink, _⟩ ⟨other, hother, _, rfl, hlink', _⟩ hsame
    rw [hlink, hlink'] at hsame
    rw [happart.eq hgrant hother (.inr (hhash hsame))]
  fits := by
    rintro _ token ⟨_, _, _, _, _, _, _, hlow, hhigh⟩
    exact seconds_fits ⟨by omega, hhigh⟩
  reloads := by
    rintro _ token ⟨grant, hgrant, hretired, rfl, hlink, _, hdeadline, hlow, hhigh⟩ token' hsame
      hrefresh hexpires
    obtain ⟨hnonneg, hle⟩ := seconds_mul_le hlow
    refine ⟨grant, hgrant, hretired, rfl, hsame.trans hlink, hexpires, ?_, ?_, ?_⟩ <;> omega
  seen := by
    rintro _ token hlive now
    exact hlive

/-! ### One step -/

lemma Lawful.state (h : deps.Lawful run) {state : SessionState}
    (hsound : SoundState (deps.Live run) state) {now : Int} (hnow : run.clock ≤ now) :
    deps.Lawful { run with state, clock := now } where
  apart := h.apart
  granted := h.granted
  spent := h.spent
  once := h.once
  sound := hsound
  clock := h.clock.trans hnow

lemma fresh_hash (hhash : Function.Injective deps.hash) {draw : Draw} (hfresh : run.Fresh draw)
    {memory : SessionMemory} (hsound : SoundMemory (deps.Live run) memory) :
    get? (deps.hash draw.session) memory.sessionTokens = none ∧
      get? (deps.hash draw.refresh) memory.refreshIndex = none := by
  refine ⟨eq_none_iff_forall_ne_some.2 fun token hget => ?_,
    eq_none_iff_forall_ne_some.2 fun hash hget => ?_⟩
  · obtain ⟨grant, hgrant, _, hsession, _⟩ := hsound.live _ _ hget
    exact (hfresh grant hgrant).1 (hhash hsession).symm
  · obtain ⟨token, htoken, hlink⟩ := (hsound.index _ _).1 hget
    obtain ⟨grant, hgrant, _, _, hrefresh, _⟩ := hsound.live _ _ htoken
    exact (hfresh grant hgrant).2 (hhash (hrefresh.symm.trans hlink))

lemma Lawful.apart_append (h : deps.Lawful run) {draw : Draw} (hfresh : run.Fresh draw)
    (deadline : Int) :
    Apart (run.grants ++ [{ session := draw.session, refresh := draw.refresh, deadline }]) := by
  refine pairwise_append.2 ⟨h.apart, pairwise_singleton _ _, fun grant hgrant other hother => ?_⟩
  obtain rfl := mem_singleton.1 hother
  exact hfresh grant hgrant

lemma lifetimes_pos (sessionTtl refreshTtl : Int) (rememberMe : Bool) :
    0 < (deps.lifetimes sessionTtl refreshTtl rememberMe).2 := by
  simp only [lifetimes, rememberMeTokenTtl, defaultRememberMeTokenTtl, defaultRefreshTokenTtl]
  split_ifs <;> omega

lemma Lawful.issue (hhash : Function.Injective deps.hash) (hfilled : ∀ text, deps.hash text ≠ "")
    (h : deps.Lawful run) {request : IssueRequest} {draw : Draw} {now later : Int}
    (hclock : run.clock ≤ now ∧ now ≤ later) (hfresh : run.Fresh draw)
    (hfits : (deps.issued request draw now).1.refreshExpiresAt < 2 ^ 63) (works : Bool) :
    deps.Lawful (deps.issueStep run request draw now later works) := by
  have happart := h.apart_append hfresh (deps.issued request draw now).1.refreshExpiresAt
  have hliving : Living (deps.Live (deps.issueStep run request draw now later works)) :=
    Lawful.living hhash hfilled happart
  have hmono : ∀ hash token, deps.Live run hash token →
      deps.Live (deps.issueStep run request draw now later works) hash token := by
    rintro hash token ⟨grant, hgrant, hlive⟩
    exact ⟨grant, mem_append_left _ hgrant, hlive⟩
  have hnew : deps.Live (deps.issueStep run request draw now later works) (deps.hash draw.session)
      (deps.issued request draw now).1 := by
    refine ⟨_, mem_append_right _ mem_cons_self, fun hretired => ?_, rfl, rfl,
      min_le_right _ _, le_rfl, ?_, hfits⟩
    · exact (hfresh _ (h.granted _ hretired)).1 rfl
    · have hpos := deps.lifetimes_pos request.sessionTtl request.refreshTtl request.rememberMe
      have hnow := h.clock
      simp only [issued, newSession, nanosecondsPerSecond]
      omega
  obtain ⟨hsession, hrefresh⟩ := fresh_hash hhash hfresh h.sound.memory
  have hmemory := ((h.sound.memory.mono hmono).insert hnew hsession hrefresh).cleanup hliving later
  exact
    { apart := happart
      granted := fun grant hgrant => mem_append_left _ (h.granted grant hgrant)
      spent := h.spent
      once := h.once
      sound := SoundState.save (s := ⟨_, run.state.file, run.state.unwritten⟩) hmemory
        (fun _ hwritten => (h.sound.stored hwritten).mono hmono) works
      clock := h.clock.trans (hclock.1.trans hclock.2) }

lemma Live.retire {hash : String} {token : SessionToken} (hlive : deps.Live run hash token)
    {dropped : String} {old : SessionToken} (hhash : hash ≠ dropped)
    (hlink : token.refreshTokenHash ≠ old.refreshTokenHash) {next : SessionRun}
    (hgrants : ∀ grant ∈ run.grants, grant ∈ next.grants)
    (hretired : ∀ grant ∈ run.grants, grant ∈ next.retired → grant ∈ run.retired ∨
      deps.hash grant.session = dropped ∨ deps.hash grant.refresh = old.refreshTokenHash) :
    deps.Live next hash token := by
  obtain ⟨grant, hgrant, hkept, rfl, hsame, htimes⟩ := hlive
  refine ⟨grant, hgrants grant hgrant, fun hnext => ?_, rfl, hsame, htimes⟩
  obtain hold | hsession | hrefresh := hretired grant hgrant hnext
  · exact hkept hold
  · exact hhash hsession
  · exact hlink (hsame.trans hrefresh)

section

variable (hhash : Function.Injective deps.hash)

include hhash

section

variable (hfilled : ∀ text, deps.hash text ≠ "")

include hfilled

lemma Lawful.refresh
    (h : deps.Lawful run) (refreshToken : String) (client : Client) {draw : Draw} {now : Int}
    (hclock : run.clock ≤ now) (hfresh : run.Fresh draw) (works : Bool) :
    deps.Lawful (deps.refreshStep run refreshToken client draw now works) := by
  have hliving := Lawful.living hhash hfilled h.apart
  by_cases hempty : refreshToken = ""
  · simp only [refreshStep, refreshSessionTokens, if_pos hempty]
    exact h.state h.sound hclock
  simp only [refreshStep, refreshSessionTokens, if_neg hempty]
  obtain hnone | ⟨hash, entry, hget, hlink, hcases⟩ :=
    deps.renew_cases hliving h.sound.memory refreshToken client draw now
  · rw [hnone]
    exact h.state h.sound hclock
  have hdropped := h.sound.memory.drop hliving hget
  obtain ⟨_, hexpired⟩ | ⟨_, updated, bundle, hnew, hrenewed⟩ := hcases
  · rw [hexpired]
    have hsaved : SoundState (deps.Live run)
        (({ run.state with memory := run.state.memory.drop hash entry }).save works) :=
      .save_dirty (hdropped.mono fun _ _ hlive => hlive.1) rfl works
    exact h.state hsaved hclock
  rw [hrenewed]
  -- the pair that is given is the one of the session
  obtain ⟨given, hgiven, hkept, rfl, hsame, _, hdeadline, hlow, hhigh⟩ := h.sound.memory.live _ _ hget
  obtain rfl : given.refresh = refreshToken := hhash (hsame.symm.trans hlink)
  rw [h.apart.filter_refresh hgiven]
  obtain ⟨rfl, rfl⟩ := Prod.mk.inj hnew
  set next : SessionRun := _
  show deps.Lawful next
  have happart : Apart next.grants := h.apart_append hfresh given.deadline
  have hold : SoundMemory (deps.Live next) (run.state.memory.drop (deps.hash given.session) entry) := by
    refine hdropped.mono fun other token ⟨hlive, hother, hrefresh⟩ =>
      hlive.retire hother hrefresh (fun _ => mem_append_left _) fun grant _ hretired => ?_
    obtain hretired | hgiven := mem_append.1 hretired
    · exact .inl hretired
    · exact .inr (.inl (by rw [mem_singleton.1 hgiven]))
  have hlive : deps.Live next (deps.hash draw.session) (deps.newSession entry.username now
      deps.sessionTokenTtl entry.refreshExpiresAt client entry.rememberMe draw).1 := by
    refine ⟨_, mem_append_right _ mem_cons_self, fun hretired => ?_, rfl, rfl,
      min_le_right _ _, hdeadline, hlow, hhigh⟩
    obtain hretired | hgiven' := mem_append.1 hretired
    · exact (hfresh _ (h.granted _ hretired)).1 rfl
    · rw [← mem_singleton.1 hgiven'] at hgiven
      exact (hfresh _ hgiven).1 rfl
  obtain ⟨hsession, hrefresh⟩ := fresh_hash hhash hfresh
    (hdropped.mono fun _ _ hlive => hlive.1)
  exact
    { apart := happart
      granted := fun grant hretired => by
        obtain hretired | hgiven' := mem_append.1 hretired
        · exact mem_append_left _ (h.granted grant hretired)
        · exact mem_append_left _ (mem_singleton.1 hgiven' ▸ hgiven)
      spent := by
        intro token htoken
        obtain rfl | htoken := mem_cons.1 htoken
        · exact ⟨given, mem_append_right _ mem_cons_self, rfl⟩
        · obtain ⟨grant, hgrant, hspent⟩ := h.spent token htoken
          exact ⟨grant, mem_append_left _ hgrant, hspent⟩
      once := by
        refine nodup_cons.2 ⟨fun hspent => ?_, h.once⟩
        obtain ⟨grant, hgrant, hsame⟩ := h.spent _ hspent
        exact hkept (h.apart.eq (h.granted _ hgrant) hgiven (.inr hsame) ▸ hgrant)
      sound := .save_dirty (hold.add hlive hsession hrefresh) rfl works
      clock := h.clock.trans hclock }

lemma Lawful.revoke (h : deps.Lawful run) (hash : String) (works : Bool) {named : Grant → Bool}
    (hnamed : ∀ token, get? hash run.state.memory.sessionTokens = some token →
      ∀ grant, named grant → deps.hash grant.session = hash ∨
        deps.hash grant.refresh = token.refreshTokenHash) :
    deps.Lawful (run.revoke (run.state.revokeSessionByHash hash works) named) := by
  have hliving := Lawful.living hhash hfilled h.apart
  unfold SessionRun.revoke SessionState.revokeSessionByHash SessionMemory.revoke
  cases hget : get? hash run.state.memory.sessionTokens with
  | none =>
    simp only [Bool.false_eq_true, if_false, append_nil]
    exact h
  | some token =>
    simp only [if_true]
    set next : SessionRun := _
    show deps.Lawful next
    have hmemory : SoundMemory (deps.Live next) (run.state.memory.drop hash token) := by
      refine (h.sound.memory.drop hliving hget).mono fun other found ⟨hlive, hother, hrefresh⟩ =>
        hlive.retire hother hrefresh (fun _ => id) fun grant _ hretired => ?_
      obtain hretired | hfound := mem_append.1 hretired
      · exact .inl hretired
      · exact .inr (hnamed token hget grant (mem_filter.1 hfound).2)
    exact
      { apart := h.apart
        granted := fun grant hretired => (mem_append.1 hretired).elim (h.granted grant)
          mem_of_mem_filter
        spent := fun spent hspent => by
          obtain ⟨grant, hgrant, hsame⟩ := h.spent spent hspent
          exact ⟨grant, mem_append_left _ hgrant, hsame⟩
        once := h.once
        sound := .save_dirty hmemory rfl works
        clock := h.clock }

lemma Lawful.revokeRefresh (h : deps.Lawful run) (refreshToken : String) (works : Bool) :
    deps.Lawful (run.revoke (deps.revokeRefreshToken run.state refreshToken works)
      (·.refresh = refreshToken)) := by
  have hnothing : deps.Lawful (run.revoke (run.state, false) (·.refresh = refreshToken)) := by
    simpa [SessionRun.revoke] using h
  unfold revokeRefreshToken
  split
  · exact hnothing
  split
  · exact hnothing
  rename_i hash hindex
  obtain ⟨entry, hentry, hlink⟩ := (h.sound.memory.index _ _).1 hindex
  refine h.revoke hhash hfilled hash works fun token htoken grant hnamed => .inr ?_
  rw [decide_eq_true_iff] at hnamed
  rw [hentry, Option.some.injEq] at htoken
  rw [hnamed, ← hlink, htoken]

end

end

lemma load_sound (hlib : ReadsIntegers deps.lib)
    {live : String → SessionToken → Prop} (hliving : Living live) {s : SessionState}
    (h : SoundState live s) {readable : Bool} (hwritten : readable = true → s.unwritten = false)
    (now : Int) (works : Bool) : SoundState live (deps.loadSessionTokens s readable now works) := by
  unfold loadSessionTokens
  split
  · exact ⟨.empty, h.stored⟩
  rename_i root hfile
  split
  · exact ⟨.empty, h.stored⟩
  rename_i hreadable
  have hstored : Stored live (some root) := hfile ▸ h.stored (hwritten (by simpa using hreadable))
  have hmemory := loaded_sound hlib hliving hstored now
  dsimp only
  split
  · rename_i hdirty
    exact .save_dirty hmemory hdirty works
  · exact ⟨hmemory, h.stored⟩

lemma Lawful.step (hlib : ReadsIntegers deps.lib) (hhash : Function.Injective deps.hash)
    (hfilled : ∀ text, deps.hash text ≠ "") (h : deps.Lawful run) {call : SessionCall}
    (hadmits : deps.Admits run call) : deps.Lawful (deps.sessionStep run call) := by
  have hliving := Lawful.living hhash hfilled h.apart
  -- looking at a session
  have touched : ∀ token now works, run.clock ≤ now → deps.Lawful
      { run with state := (deps.touchSession run.state token now works).1, clock := now } := by
    intro token now works hnow
    refine h.state ?_ hnow
    have hmemory : SoundMemory (deps.Live run) (run.state.memory.touch (deps.hash token) now).1 :=
      h.sound.memory.touch hliving now
    unfold touchSession
    dsimp only
    split
    · exact SoundState.save (s := ⟨_, run.state.file, run.state.unwritten⟩) hmemory
        (fun _ => h.sound.stored) works
    · exact ⟨hmemory, h.sound.stored⟩
  cases call with
  | issue request draw now later works =>
    obtain ⟨hclock, hfresh, hfits⟩ := hadmits
    exact h.issue hhash hfilled hclock hfresh hfits works
  | refresh refreshToken client draw now works =>
    exact h.refresh hhash hfilled refreshToken client hadmits.1 hadmits.2 works
  | validate token now works | getUsername token now works => exact touched token now works hadmits
  | revokeToken token works =>
    exact h.revoke hhash hfilled _ works fun _ _ grant hnamed => .inl (by
      rw [decide_eq_true_iff] at hnamed
      rw [hnamed])
  | revokeHash hash works =>
    exact h.revoke hhash hfilled _ works fun _ _ grant hnamed => .inl (by simpa using hnamed)
  | revokeRefresh refreshToken works => exact h.revokeRefresh hhash hfilled refreshToken works
  | cleanup now =>
    have hsound : SoundState (deps.Live run) (run.state.cleanupExpiredSessionTokens now) :=
      ⟨h.sound.memory.cleanup hliving now, h.sound.stored⟩
    exact h.state hsound hadmits
  | save works =>
    exact h.state (.save h.sound.memory (fun _ => h.sound.stored) works) le_rfl
  | load readable now works =>
    exact h.state (load_sound hlib hliving h.sound hadmits.2 now works) hadmits.1

/-! ### What is accepted -/

lemma Lawful.accepts (hhash : Function.Injective deps.hash) (h : deps.Lawful run) {token : String}
    {now : Int} (haccepts : deps.Accepts run.state token now) :
    ∃ grant ∈ run.grants, grant ∉ run.retired ∧ grant.session = token ∧ now ≤ grant.deadline := by
  have hfound : ∃ entry, get? (deps.hash token) run.state.memory.sessionTokens = some entry ∧
      now ≤ entry.refreshExpiresAt := by
    obtain ⟨works, haccepts⟩ := haccepts
    simp only [validateSessionToken, getUsernameForToken, touchSession, SessionMemory.touch,
      getHashForToken, isSome_map] at haccepts
    cases hget : get? (deps.hash token) run.state.memory.sessionTokens with
    | none => simp [hget] at haccepts
    | some entry =>
      refine ⟨entry, rfl, not_lt.1 fun hexpired => ?_⟩
      simp [hget, hexpired] at haccepts
  obtain ⟨entry, hget, hnow⟩ := hfound
  obtain ⟨grant, hgrant, hkept, hsession, _, _, hdeadline, _⟩ := h.sound.memory.live _ _ hget
  exact ⟨grant, hgrant, hkept, (hhash hsession).symm, hnow.trans hdeadline⟩

lemma lawful (deps : SessionDependencies) (hlib : ReadsIntegers deps.lib)
    (hhash : Function.Injective deps.hash) (hfilled : ∀ text, deps.hash text ≠ "")
    {file : Option PTree} (hfile : ∀ root ∈ file, (rootOf root).child? "session_tokens" = none)
    {run : SessionRun} (hrun : (deps.sessionSystem file).Reachable run) : deps.Lawful run := by
  refine hrun.invariant ?_ fun _ _ h hadmits => h.step hlib hhash hfilled hadmits
  refine ⟨List.Pairwise.nil, by simp [sessionSystem], by simp [sessionSystem], nodup_nil,
    ⟨.empty, fun _ root hroot sessions hsess => ?_⟩, le_rfl⟩
  rw [hfile root hroot] at hsess
  cases hsess

def plainDependencies : SessionDependencies where
  lib := ApiDependencies.integerDependencies.lib
  hash text := "#" ++ text
  sessionTokenTtl := 7200
  rememberMeRefreshTokenTtl := 604800

def chain : List SessionCall :=
  let client : Client :=
    { userAgent := "Mozilla/5.0 (X11; Linux x86_64) Firefox/130.0"
      remoteAddress := "192.168.1.20" }
  let start := 1700000000123456789
  [.issue { username := "admin", sessionTtl := 0, refreshTtl := 0, client, rememberMe := true }
      { session := "s1", refresh := "r1", rotation := "x1" } start start true,
    .refresh "r1" client { session := "s2", refresh := "r2", rotation := "x2" } start true,
    .load true start true, .validate "s2" start true, .revokeToken "s2" true]

end SessionDependencies

end Vibeshine.HttpAuth
