import Vibeshine.HttpAuth.SessionLifecycle
import Vibeshine.Library.Snapshots

/-! # Saving from several threads

Both managers change their tokens under a lock of their own, copy them under the same lock,
and write the copy under the lock of the state file. A step is a critical section; the
accesses to the file succeed. The snapshots of either kind are numbered as they are taken,
which no call reads.
-/

namespace Vibeshine.HttpAuth

open Library StateFile

def apiTokensTree (tokens : ApiTokenMap) : PTree :=
  .node "" (tokens.map fun entry => ("", tokenTree { entry.2 with hash := entry.1 }))

inductive Task where
  | idle
  /-- of an issued session -/
  | cleanUp
  /-- the session that a refresh token led to -/
  | revoke (hash : String)
  | saveSessions
  | writeSessions (number : Nat) (snapshot : SessionTokenMap)
  | saveApi
  | writeApi (number : Nat) (snapshot : ApiTokenMap)

namespace Task

def isIdle : Task → Bool
  | .idle => true
  | _ => false

def sessions : Task → Option (Nat × PTree)
  | .writeSessions number snapshot => some (number, sessionsTree snapshot)
  | _ => none

def api : Task → Option (Nat × PTree)
  | .writeApi number snapshot => some (number, apiTokensTree snapshot)
  | _ => none

lemma nothing_of_isIdle {task : Task} (h : task.isIdle) :
    task.sessions = none ∧ task.api = none ∧ task ≠ .saveApi := by
  cases task with
  | idle => exact ⟨rfl, rfl, by simp⟩
  | _ => cases h

end Task

inductive AuthCall where
  | issue (request : IssueRequest) (draw : Draw) (now : Int)
  | refresh (refreshToken : String) (client : Client) (draw : Draw) (now : Int)
  | revokeToken (token : String)
  | revokeHash (hash : String)
  | revokeRefresh (refreshToken : String)
  | createApiToken (scopes : Json) (username token : String) (now : Int)
  | revokeApiToken (hash : String)

inductive AuthStep (τ : Type) where
  | call (thread : τ) (call : AuthCall)
  /-- the next critical section of a thread, with the time when it reads the clock -/
  | advance (thread : τ) (now : Int)

/-- What the managers start from. -/
structure AuthStart where
  memory : SessionMemory := {}
  apiTokens : ApiTokenMap := []
  file : Option PTree := none

structure AuthState (τ : Type) extends AuthStart where
  tasks : τ → Task
  sessions : Ledger PTree
  api : Ledger PTree

/-- What a file holds under `root.session_tokens` or `root.api_tokens`. -/
def stored (file : Option PTree) (key : String) : PTree :=
  (file.bind fun root => (rootOf root).child? key).getD .empty

def AuthStart.Persisted (s : AuthStart) : Prop :=
  stored s.file "session_tokens" = sessionsTree s.memory.sessionTokens ∧
    stored s.file "api_tokens" = apiTokensTree s.apiTokens

instance (s : AuthStart) : Decidable s.Persisted := inferInstanceAs (Decidable (_ ∧ _))

namespace AuthState

variable {τ : Type} [DecidableEq τ]

def goto (s : AuthState τ) (thread : τ) (task : Task) : AuthState τ :=
  { s with tasks := Function.update s.tasks thread task }

@[simp] lemma goto_tasks (s : AuthState τ) (thread : τ) (task : Task) :
    (s.goto thread task).tasks = Function.update s.tasks thread task := rfl

def revokeSessionByHash (s : AuthState τ) (thread : τ) (hash : String) : AuthState τ :=
  let (memory, removed) := s.memory.revoke hash
  { s with memory }.goto thread (if removed then .saveSessions else .idle)

def advance (s : AuthState τ) (thread : τ) (now : Int) : AuthState τ :=
  match s.tasks thread with
  | .idle => s
  | .cleanUp => { s with memory := s.memory.cleanup now }.goto thread .saveSessions
  | .revoke hash => s.revokeSessionByHash thread hash
  | .saveSessions =>
    if !s.memory.dirty then s.goto thread .idle
    else
      { s with
        memory := { s.memory with dirty := false }
        sessions := s.sessions.take (sessionsTree s.memory.sessionTokens) }.goto thread
          (.writeSessions (s.sessions.taken + 1) s.memory.sessionTokens)
  | .writeSessions number snapshot =>
    { s with
      file := some (savedSessions snapshot (s.file.getD .empty))
      sessions := s.sessions.write number }.goto thread .idle
  | .saveApi =>
    { s with api := s.api.take (apiTokensTree s.apiTokens) }.goto thread
      (.writeApi (s.api.taken + 1) s.apiTokens)
  | .writeApi number snapshot =>
    { s with
      file := some (savedTree snapshot (s.file.getD .empty))
      api := s.api.write number }.goto thread .idle

end AuthState

/-- The functions that the two managers are given. -/
structure AuthDependencies where
  sessions : SessionDependencies
  api : ApiDependencies

namespace AuthDependencies

variable {τ : Type} [DecidableEq τ] (deps : AuthDependencies)

def call (s : AuthState τ) (thread : τ) : AuthCall → AuthState τ
  | .issue request draw now =>
    let (token, _) := deps.sessions.issued request draw now
    { s with memory := s.memory.insert (deps.sessions.hash draw.session) token }.goto thread .cleanUp
  | .refresh refreshToken client draw now =>
    if refreshToken = "" then s
    else
      let (memory, _, needsPersist) := deps.sessions.renew s.memory refreshToken client draw now
      { s with memory }.goto thread (if needsPersist then .saveSessions else .idle)
  | .revokeToken token => s.revokeSessionByHash thread (deps.sessions.hash token)
  | .revokeHash hash => s.revokeSessionByHash thread hash
  | .revokeRefresh refreshToken =>
    if refreshToken = "" then s
    else
      match KeyMap.get? (deps.sessions.hash refreshToken) s.memory.refreshIndex with
      | none => s
      | some hash => s.goto thread (.revoke hash)
  | .createApiToken scopes username token now =>
    match parseJsonScopes scopes with
    | .error _ => s
    | .ok pathMethods =>
      let info := { hash := deps.api.hash token, pathMethods, username, createdAt := now }
      { s with apiTokens := KeyMap.assign (deps.api.hash token) info s.apiTokens }.goto thread
        .saveApi
  | .revokeApiToken hash =>
    if hash = "" then s
    else if s.apiTokens.any (·.1 = hash) then
      { s with apiTokens := s.apiTokens.filter (·.1 ≠ hash) }.goto thread .saveApi
    else s

def authSystem (start : AuthStart) : System (AuthState τ) (AuthStep τ) where
  init :=
    { start with
      tasks := fun _ => .idle
      sessions := { last := stored start.file "session_tokens" }
      api := { last := stored start.file "api_tokens" } }
  admits s
    | .call thread _ => (s.tasks thread).isIdle
    | .advance _ _ => True
  step s
    | .call thread call => deps.call s thread call
    | .advance thread now => s.advance thread now

instance (start : AuthStart) (s : AuthState τ) :
    ∀ step, Decidable ((deps.authSystem start).admits s step)
  | .call thread _ => inferInstanceAs (Decidable ((s.tasks thread).isIdle = true))
  | .advance _ _ => .isTrue trivial

end AuthDependencies

def AuthState.inOrder {τ : Type} (s : AuthState τ) : AuthStep τ → Bool
  | .call _ _ => true
  | .advance thread _ =>
    match s.tasks thread with
    | .writeSessions number _ => s.sessions.written < number
    | .writeApi number _ => s.api.written < number
    | _ => true

lemma stored_of_saved {tree : PTree} {file : Option PTree} {key : String} :
    stored (some ((file.getD .empty).putChild "root"
      ((rootOf (file.getD .empty)).putChild key tree))) key = tree := by
  simp [stored]

lemma stored_of_other {tree : PTree} {file : Option PTree} {key other : String}
    (hne : other ≠ key) : stored (some ((file.getD .empty).putChild "root"
      ((rootOf (file.getD .empty)).putChild key tree))) other = stored file other := by
  cases file with
  | none => simp [stored, PTree.child?_putChild hne, rootOf]
  | some root => simp [stored, PTree.child?_putChild hne]

lemma stored_session {tokens : SessionTokenMap} {entry : String × PTree}
    (hentry : entry ∈ (sessionsTree tokens).children) :
    (KeyMap.get? (textOf entry.2 "hash") tokens).isSome := by
  obtain ⟨token, htoken, rfl⟩ := List.mem_map.1 hentry
  have hhash : textOf (sessionTree token) "hash" = token.1 := by
    simp [textOf, sessionTree, PTree.child?]
  rw [← KeyMap.any_key, List.any_eq_true]
  exact ⟨token, htoken, by simp [hhash]⟩

lemma stored_api_token {tokens : ApiTokenMap} {entry : String × PTree}
    (hentry : entry ∈ (apiTokensTree tokens).children) :
    (KeyMap.get? (textOf entry.2 "hash") tokens).isSome := by
  obtain ⟨token, htoken, rfl⟩ := List.mem_map.1 hentry
  rw [← KeyMap.any_key, List.any_eq_true]
  exact ⟨token, htoken, by simp [textOf, tokenTree, PTree.child?]⟩

namespace SessionMemory

def Noted (memory next : SessionMemory) : Prop := next = memory ∨ next.dirty = true

variable (memory : SessionMemory)

lemma noted_cleanup (now : Int) : memory.Noted (memory.cleanup now) := by
  have hdirty : ∀ (entries : SessionTokenMap) (memory : SessionMemory), memory.dirty = true →
      (entries.foldl (fun memory entry => memory.drop entry.1 entry.2) memory).dirty = true := by
    intro entries
    induction entries with
    | nil => exact fun _ h => h
    | cons entry rest ih => exact fun _ _ => ih _ rfl
  unfold cleanup
  cases memory.sessionTokens.filter (·.2.refreshExpiresAt < now) with
  | nil => exact .inl rfl
  | cons entry rest => exact .inr (hdirty rest _ rfl)

lemma noted_revoke (hash : String) : memory.Noted (memory.revoke hash).1 := by
  unfold revoke
  split
  · exact .inl rfl
  · exact .inr rfl

lemma noted_renew (deps : SessionDependencies) (memory : SessionMemory) (refreshToken : String)
    (client : Client) (draw : Draw) (now : Int) :
    memory.Noted (deps.renew memory refreshToken client draw now).1 := by
  unfold SessionDependencies.renew
  dsimp only
  split
  · exact .inl rfl
  split
  · exact .inr rfl
  split
  · exact .inr rfl
  · exact .inr rfl

end SessionMemory

/-! ## Runs in order -/

namespace AuthState

variable {τ : Type} [DecidableEq τ] {s : AuthState τ}

/-- The ledgers track the file, a memory that is not dirty is the last snapshot, and so are
the API tokens unless a thread is about to copy them. -/
structure Coherent (s : AuthState τ) : Prop where
  sessions : s.sessions.Tracks (fun thread => (s.tasks thread).sessions) (stored s.file "session_tokens")
  api : s.api.Tracks (fun thread => (s.tasks thread).api) (stored s.file "api_tokens")
  clean : s.memory.dirty = false → sessionsTree s.memory.sessionTokens = s.sessions.last
  copied : (∀ thread, s.tasks thread ≠ .saveApi) → apiTokensTree s.apiTokens = s.api.last

lemma held_update {α : Type} (held : Task → α) (tasks : τ → Task) (thread : τ) (task : Task) :
    (fun other => held (Function.update tasks thread task other)) =
      Function.update (fun other => held (tasks other)) thread (held task) :=
  Function.comp_update held tasks thread task

lemma not_copying {thread : τ} {task : Task} (hbefore : s.tasks thread ≠ .saveApi)
    (hnone : ∀ other, (s.goto thread task).tasks other ≠ .saveApi) :
    ∀ other, s.tasks other ≠ .saveApi := by
  intro other
  by_cases hother : other = thread
  · exact hother ▸ hbefore
  · have hnone := hnone other
    rwa [goto_tasks, Function.update_of_ne hother] at hnone

section

variable (h : s.Coherent)

include h

lemma Coherent.manage {thread : τ} {memory : SessionMemory} {task : Task}
    (hmemory : s.memory.Noted memory)
    (hbefore : (s.tasks thread).sessions = none ∧ (s.tasks thread).api = none ∧
      s.tasks thread ≠ .saveApi) (hafter : task.sessions = none ∧ task.api = none) :
    ({ s with memory }.goto thread task).Coherent where
  sessions := by
    rw [goto, held_update, hafter.1]
    exact h.sessions.pass hbefore.1
  api := by
    rw [goto, held_update, hafter.2]
    exact h.api.pass hbefore.2.1
  clean hclean := by
    obtain hsame | hdirty := hmemory
    · rw [show memory = s.memory from hsame] at hclean ⊢
      exact h.clean hclean
    · exact absurd (hdirty.symm.trans hclean) (by simp)
  copied hnone := h.copied (not_copying hbefore.2.2 hnone)

lemma Coherent.change {thread : τ} {apiTokens : ApiTokenMap}
    (hbefore : (s.tasks thread).sessions = none ∧ (s.tasks thread).api = none) :
    ({ s with apiTokens }.goto thread .saveApi).Coherent where
  sessions := by
    rw [goto, held_update]
    exact h.sessions.pass hbefore.1
  api := by
    rw [goto, held_update]
    exact h.api.pass hbefore.2
  clean := h.clean
  copied hnone := absurd (Function.update_self ..) (hnone thread)

lemma Coherent.revoke {thread : τ}
    (hbefore : (s.tasks thread).sessions = none ∧ (s.tasks thread).api = none ∧
      s.tasks thread ≠ .saveApi) (hash : String) : (s.revokeSessionByHash thread hash).Coherent := by
  refine h.manage (s.memory.noted_revoke hash) hbefore ?_
  split
  · exact ⟨rfl, rfl⟩
  · exact ⟨rfl, rfl⟩

lemma Coherent.advance {thread : τ} {now : Int}
    (horder : s.inOrder (.advance thread now)) : (s.advance thread now).Coherent := by
  have hsess := held_update Task.sessions s.tasks thread
  have hapi := held_update Task.api s.tasks thread
  unfold AuthState.advance
  simp only [inOrder] at horder
  split
  case h_1 => exact h
  case h_2 htask =>
    exact h.manage (s.memory.noted_cleanup now) (by simp [htask, Task.sessions, Task.api]) ⟨rfl, rfl⟩
  case h_3 hash htask => exact h.revoke (by simp [htask, Task.sessions, Task.api]) hash
  case h_4 htask =>
    split
    · exact h.manage (.inl rfl) (by simp [htask, Task.sessions, Task.api]) ⟨rfl, rfl⟩
    · exact
        { sessions := by
            rw [goto, hsess]
            exact h.sessions.take _
          api := by
            rw [goto, hapi]
            exact h.api.pass (by simp [htask, Task.api])
          clean := fun _ => rfl
          copied := fun hnone => h.copied (not_copying (by simp [htask]) hnone) }
  case h_5 number snapshot htask =>
    rw [htask] at horder
    have hheld : (s.tasks thread).sessions = some (number, sessionsTree snapshot) := by
      simp [htask, Task.sessions]
    exact
      { sessions := by
          rw [goto, hsess]
          dsimp only
          rw [savedSessions, stored_of_saved]
          exact h.sessions.write hheld (of_decide_eq_true horder)
        api := by
          rw [goto, hapi]
          dsimp only
          rw [savedSessions, stored_of_other (by decide)]
          exact h.api.pass (by simp [htask, Task.api])
        clean := h.clean
        copied := fun hnone => h.copied (not_copying (by simp [htask]) hnone) }
  case h_6 htask =>
    exact
      { sessions := by
          rw [goto, hsess]
          exact h.sessions.pass (by simp [htask, Task.sessions])
        api := by
          rw [goto, hapi]
          exact h.api.take _
        clean := h.clean
        copied := fun _ => rfl }
  case h_7 number snapshot htask =>
    rw [htask] at horder
    have hheld : (s.tasks thread).api = some (number, apiTokensTree snapshot) := by
      simp [htask, Task.api]
    exact
      { sessions := by
          rw [goto, hsess]
          dsimp only
          rw [savedTree, stored_of_other (by decide)]
          exact h.sessions.pass (by simp [htask, Task.sessions])
        api := by
          rw [goto, hapi]
          dsimp only
          rw [savedTree, stored_of_saved]
          exact h.api.write hheld (of_decide_eq_true horder)
        clean := h.clean
        copied := fun hnone => h.copied (not_copying (by simp [htask]) hnone) }

end

lemma Coherent.call (deps : AuthDependencies) (h : s.Coherent) {thread : τ}
    (hidle : (s.tasks thread).isIdle) (call : AuthCall) : (deps.call s thread call).Coherent := by
  have hbefore : (s.tasks thread).sessions = none ∧ (s.tasks thread).api = none ∧
      s.tasks thread ≠ .saveApi := Task.nothing_of_isIdle hidle
  unfold AuthDependencies.call
  cases call with
  | issue request draw now => exact h.manage (.inr rfl) hbefore ⟨rfl, rfl⟩
  | refresh refreshToken client draw now =>
    dsimp only
    split
    · exact h
    · refine h.manage (s.memory.noted_renew deps.sessions refreshToken client draw now) hbefore ?_
      split
      · exact ⟨rfl, rfl⟩
      · exact ⟨rfl, rfl⟩
  | revokeToken token => exact h.revoke hbefore _
  | revokeHash hash => exact h.revoke hbefore hash
  | revokeRefresh refreshToken =>
    dsimp only
    split
    · exact h
    split
    · exact h
    · exact h.manage (.inl rfl) hbefore ⟨rfl, rfl⟩
  | createApiToken scopes username token now =>
    dsimp only
    split
    · exact h
    · exact h.change ⟨hbefore.1, hbefore.2.1⟩
  | revokeApiToken hash =>
    dsimp only
    split
    · exact h
    split
    · exact h.change ⟨hbefore.1, hbefore.2.1⟩
    · exact h

end AuthState

namespace AuthDependencies

/-- In every run in which the snapshots of either kind reach the file in the order in which
they were taken, the file holds the tokens that are in memory whenever all calls have
returned and the session manager is not dirty. No other session or API token is in it. -/
theorem revocations_persist {τ : Type} [DecidableEq τ] (deps : AuthDependencies)
    (start : AuthStart) (hstart : start.Persisted) (s : AuthState τ)
    (hrun : (deps.authSystem start).ReachableUnder (fun s step => s.inOrder step) s)
    (hidle : ∀ thread, (s.tasks thread).isIdle) (hclean : s.memory.dirty = false) : s.Persisted ∧
      (∀ entry ∈ (stored s.file "session_tokens").children,
        (KeyMap.get? (textOf entry.2 "hash") s.memory.sessionTokens).isSome) ∧
      ∀ entry ∈ (stored s.file "api_tokens").children,
        (KeyMap.get? (textOf entry.2 "hash") s.apiTokens).isSome := by
  have hcoherent : s.Coherent := by
    refine hrun.invariant ⟨.start _, .start _, fun _ => hstart.1.symm, fun _ => hstart.2.symm⟩ ?_
    intro state step hinv hadmits horder
    cases step with
    | call thread call => exact hinv.call deps hadmits call
    | advance thread now => exact hinv.advance horder
  have hnothing := fun thread => Task.nothing_of_isIdle (hidle thread)
  have hpersisted : s.Persisted := by
    constructor
    · rw [hcoherent.sessions.idle fun thread => (hnothing thread).1, hcoherent.clean hclean]
    · rw [hcoherent.api.idle fun thread => (hnothing thread).2.1,
        hcoherent.copied fun thread => (hnothing thread).2.2]
  refine ⟨hpersisted, fun entry hentry => ?_, fun entry hentry => ?_⟩
  · rw [hpersisted.1] at hentry
    exact stored_session hentry
  · rw [hpersisted.2] at hentry
    exact stored_api_token hentry

/-! ### A snapshot that is overtaken -/

def plainAuth : AuthDependencies where
  sessions := SessionDependencies.plainDependencies
  api := { ApiDependencies.integerDependencies with hash := fun text => "#" ++ text }

def openSession : List (AuthStep Bool) :=
  [.call false (.issue
      { username := "admin", sessionTtl := 0, refreshTtl := 0,
        client := { userAgent := "", remoteAddress := "192.168.1.20" }, rememberMe := false }
      { session := "s1", refresh := "r1", rotation := "x1" } 1700000000000000000),
    .advance false 1700000000000000000, .advance false 0]

def createToken : List (AuthStep Bool) :=
  [.call false (.createApiToken (.array
      [.object [("methods", .array [.string "GET"]), ("path", .string "/api")]]) "admin" "t1"
      1700000000000000000),
    .advance false 0]

def revokeBoth : List (AuthStep Bool) × List (AuthStep Bool) :=
  ([.call true (.revokeToken "s1"), .advance true 0, .advance true 0],
    [.call true (.revokeApiToken "#t1"), .advance true 0, .advance true 0])

/-- When the first thread writes only now, the revoked tokens are in the file. -/
theorem revocation_overtaken : let system := plainAuth.authSystem (τ := Bool) {}
    ∃ steps, system.Follows (fun _ _ => True) system.init steps ∧
      let s := system.run system.init steps
      (∀ thread, (s.tasks thread).isIdle) ∧ s.memory.dirty = false ∧
        s.memory.sessionTokens = [] ∧ s.apiTokens.isEmpty ∧
        (stored s.file "session_tokens").children.map (fun entry => textOf entry.2 "hash") = ["#s1"] ∧
        (stored s.file "api_tokens").children.map (fun entry => textOf entry.2 "hash") = ["#t1"] ∧
        ¬ s.Persisted := by
  refine ⟨openSession ++ revokeBoth.1 ++ [.advance false 0] ++ createToken ++ revokeBoth.2 ++
    [.advance false 0], ?_⟩
  decide +kernel

theorem revocations_persist_in_order : let system := plainAuth.authSystem (τ := Bool) {}
    let s := system.run system.init (openSession ++ [.advance false 0] ++ revokeBoth.1 ++
      createToken ++ [.advance false 0] ++ revokeBoth.2)
    s.Persisted ∧ (∀ entry ∈ (stored s.file "session_tokens").children,
        (KeyMap.get? (textOf entry.2 "hash") s.memory.sessionTokens).isSome) ∧
      ∀ entry ∈ (stored s.file "api_tokens").children,
        (KeyMap.get? (textOf entry.2 "hash") s.apiTokens).isSome :=
  revocations_persist plainAuth {} (by constructor <;> rfl) _
    (.of_follows .refl (by decide +kernel)) (by decide +kernel) (by decide +kernel)

end AuthDependencies

end Vibeshine.HttpAuth
