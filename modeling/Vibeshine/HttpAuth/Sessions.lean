import Vibeshine.HttpAuth.ApiTokens
import Vibeshine.Library.KeyIndex

/-! # Session tokens

`SessionTokenManager` keeps the sessions under the hashes of their tokens, and an index from
the hashes of the refresh tokens to them. Every call works on this memory first and then
saves all of it when something has changed. A time is a number of nanoseconds, an unordered
map is a map in key order.
-/

namespace Vibeshine.HttpAuth

open Library StateFile

/-- `icontains` for a text and a part in lower case. -/
def icontains (text part : String) : Bool := part.toList <:+: text.toList

def detectOs (userAgent : String) : String :=
  if icontains userAgent "windows nt 10" then "Windows 10/11"
  else if icontains userAgent "windows nt 6.3" then "Windows 8.1"
  else if icontains userAgent "windows nt 6.2" then "Windows 8"
  else if icontains userAgent "windows nt 6.1" then "Windows 7"
  else if icontains userAgent "mac os x" then "macOS"
  else if icontains userAgent "iphone" || icontains userAgent "ipad" then "iOS"
  else if icontains userAgent "android" then "Android"
  else if icontains userAgent "linux" then "Linux"
  else ""

def detectBrowser (userAgent : String) : String :=
  if icontains userAgent "edg/" then "Microsoft Edge"
  else if icontains userAgent "opr/" then "Opera"
  else if icontains userAgent "chrome/" && !icontains userAgent "edg/" &&
      !icontains userAgent "opr/" then "Google Chrome"
  else if icontains userAgent "firefox" then "Mozilla Firefox"
  else if icontains userAgent "safari" && !icontains userAgent "chrome" then "Safari"
  else if icontains userAgent "brave" then "Brave"
  else ""

def maxLabelLength : Nat := 80

def truncateLabel (value : String) : String :=
  if value.length ≤ maxLabelLength then value
  else String.ofList (value.toList.take (maxLabelLength - 1)) ++ "\u00e2\u0080\u00a6"

def deriveDeviceLabel (userAgent remoteAddress : String) : String :=
  if userAgent = "" then
    if remoteAddress ≠ "" then remoteAddress else "Unknown device"
  else
    let lower := userAgent.map Char.toLower
    let os := detectOs lower
    let browser := detectBrowser lower
    let label :=
      if browser ≠ "" ∧ os ≠ "" then browser ++ " on " ++ os
      else if browser ≠ "" then browser
      else os
    if label = "" then truncateLabel userAgent else label

/-! ## The memory -/

structure SessionToken where
  username : String
  createdAt : Int
  expiresAt : Int
  refreshExpiresAt : Int
  userAgent : String
  remoteAddress : String
  lastSeen : Int
  rememberMe : Bool
  deviceLabel : String
  refreshTokenHash : String
  rotationId : String
  deriving DecidableEq

abbrev SessionTokenMap := List (String × SessionToken)

structure SessionMemory where
  sessionTokens : SessionTokenMap := []
  refreshIndex : List (String × String) := []
  dirty : Bool := false
  deriving DecidableEq

/-- The tokens that are handed out, with their lifetimes in seconds. -/
structure SessionTokenBundle where
  sessionToken : String
  refreshToken : String
  sessionTtl : Int
  refreshTtl : Int
  rememberMe : Bool
  deriving DecidableEq

/-- What `rand_alphabet` returns in one call. -/
structure Draw where
  session : String
  refresh : String
  rotation : String
  deriving DecidableEq

namespace SessionMemory

variable (memory : SessionMemory) (hash : String) (token : SessionToken)

def drop : SessionMemory where
  sessionTokens := KeyMap.erase hash memory.sessionTokens
  refreshIndex :=
    if token.refreshTokenHash ≠ "" then KeyMap.erase token.refreshTokenHash memory.refreshIndex
    else memory.refreshIndex
  dirty := true

@[simp] lemma drop_sessionTokens :
    (memory.drop hash token).sessionTokens = KeyMap.erase hash memory.sessionTokens := rfl

@[simp] lemma drop_dirty : (memory.drop hash token).dirty = true := rfl

/-- The critical section of `cleanup_expired_session_tokens`. -/
def cleanup (now : Int) : SessionMemory :=
  (memory.sessionTokens.filter (·.2.refreshExpiresAt < now)).foldl
    (fun memory entry => memory.drop entry.1 entry.2) memory

/-- The critical section of `issue_session_tokens`. -/
def insert : SessionMemory where
  sessionTokens := KeyMap.emplace hash token (KeyMap.erase hash memory.sessionTokens)
  refreshIndex := KeyMap.assign token.refreshTokenHash hash memory.refreshIndex
  dirty := true

/-- `revoke_session_by_hash` without saving. -/
def revoke : SessionMemory × Bool :=
  match KeyMap.get? hash memory.sessionTokens with
  | none => (memory, false)
  | some token => (memory.drop hash token, true)

/-- How long a session stays without a new `last_seen`: five minutes. -/
def seenInterval : Int := 300 * nanosecondsPerSecond

/-- What `validate_session_token` and `get_username_for_token` do for the hash of a token:
the session when it is accepted, and whether it is saved. An expired session is erased, and
the call returns before it saves. -/
def touch (now : Int) : SessionMemory × Option SessionToken × Bool :=
  match KeyMap.get? hash memory.sessionTokens with
  | none => (memory, none, false)
  | some token =>
    if token.refreshExpiresAt < now then (memory.drop hash token, none, false)
    else if token.expiresAt < now then (memory, none, false)
    else if seenInterval ≤ now - token.lastSeen then
      ({ memory with
          sessionTokens := KeyMap.assign hash { token with lastSeen := now } memory.sessionTokens
          dirty := true }, some token, true)
    else (memory, some token, false)

end SessionMemory

def optionalLeaf (key text : String) : List (String × PTree) :=
  if text ≠ "" then [(key, .leaf text)] else []

def sessionTree (entry : String × SessionToken) : PTree :=
  .node "" ([("hash", .leaf entry.1), ("username", .leaf entry.2.username),
    ("created_at", .leaf (toString (seconds entry.2.createdAt))),
    ("expires_at", .leaf (toString (seconds entry.2.expiresAt))),
    ("refresh_expires_at", .leaf (toString (seconds entry.2.refreshExpiresAt))),
    ("last_seen", .leaf (toString (seconds entry.2.lastSeen))),
    ("remember_me", .leaf (toString entry.2.rememberMe))] ++
    optionalLeaf "refresh_token_hash" entry.2.refreshTokenHash ++
    optionalLeaf "rotation_id" entry.2.rotationId ++
    optionalLeaf "user_agent" entry.2.userAgent ++
    optionalLeaf "remote_address" entry.2.remoteAddress ++
    optionalLeaf "device_label" entry.2.deviceLabel)

variable (tokens : SessionTokenMap)

def sessionsTree : PTree :=
  .node "" (tokens.map fun entry => ("", sessionTree entry))

/-- The tree that `save_session_tokens` builds from the one it has read. -/
def savedSessions (root : PTree) : PTree :=
  root.putChild "root" ((rootOf root).putChild "session_tokens" (sessionsTree tokens))

/-! ## The manager -/

structure Client where
  userAgent : String
  remoteAddress : String
  deriving DecidableEq

/-- What a client asks for, with the lifetimes in seconds. -/
structure IssueRequest where
  username : String
  sessionTtl : Int
  refreshTtl : Int
  client : Client
  rememberMe : Bool
  deriving DecidableEq

structure SessionState where
  memory : SessionMemory := {}
  file : Option PTree
  /-- The last save that had something to write has failed. No call reads this. -/
  unwritten : Bool := false
  deriving DecidableEq

/-- `save_session_tokens`. When the file cannot be read or written the memory is dirty again. -/
def SessionState.save (s : SessionState) (works : Bool) : SessionState :=
  if !s.memory.dirty then s
  else if works then
    { memory := { s.memory with dirty := false }
      file := some (savedSessions s.memory.sessionTokens (s.file.getD .empty))
      unwritten := false }
  else { s with unwritten := true }

def SessionState.revokeSessionByHash (s : SessionState) (hash : String) (works : Bool) :
    SessionState × Bool :=
  let (memory, removed) := s.memory.revoke hash
  (if removed then ({ s with memory }).save works else s, removed)

def SessionState.cleanupExpiredSessionTokens (s : SessionState) (now : Int) : SessionState :=
  { s with memory := s.memory.cleanup now }

/-- The functions the manager is given, and the configured lifetimes in seconds. -/
structure SessionDependencies where
  lib : TreeLibrary
  hash : String → String
  sessionTokenTtl : Int
  rememberMeRefreshTokenTtl : Int

def defaultRememberMeTokenTtl : Int := 7 * 24 * 3600

def defaultRefreshTokenTtl : Int := 24 * 3600

namespace SessionDependencies

variable (deps : SessionDependencies)

def rememberMeTokenTtl : Int :=
  if deps.rememberMeRefreshTokenTtl ≤ 0 then defaultRememberMeTokenTtl
  else deps.rememberMeRefreshTokenTtl

def lifetimes (sessionTtl refreshTtl : Int) (rememberMe : Bool) : Int × Int :=
  let sessionTtl := if sessionTtl ≤ 0 then deps.sessionTokenTtl else sessionTtl
  let refreshTtl :=
    if refreshTtl ≤ 0 then
      if rememberMe then deps.rememberMeTokenTtl else defaultRefreshTokenTtl
    else refreshTtl
  (sessionTtl, if refreshTtl < sessionTtl then sessionTtl else refreshTtl)

def newSession (username : String) (now sessionTtl refreshExpiresAt : Int) (client : Client)
    (rememberMe : Bool) (draw : Draw) : SessionToken × SessionTokenBundle :=
  let sessionExpiresAt := min (now + sessionTtl * nanosecondsPerSecond) refreshExpiresAt
  ({ username
     createdAt := now
     expiresAt := sessionExpiresAt
     refreshExpiresAt
     userAgent := client.userAgent
     remoteAddress := client.remoteAddress
     lastSeen := now
     rememberMe
     deviceLabel := deriveDeviceLabel client.userAgent client.remoteAddress
     refreshTokenHash := deps.hash draw.refresh
     rotationId := draw.rotation },
   { sessionToken := draw.session
     refreshToken := draw.refresh
     sessionTtl := seconds (sessionExpiresAt - now)
     refreshTtl := seconds (refreshExpiresAt - now)
     rememberMe })

def issued (request : IssueRequest) (draw : Draw) (now : Int) : SessionToken × SessionTokenBundle :=
  let (sessionTtl, refreshTtl) := deps.lifetimes request.sessionTtl request.refreshTtl request.rememberMe
  deps.newSession request.username now sessionTtl (now + refreshTtl * nanosecondsPerSecond)
    request.client request.rememberMe draw

variable (s : SessionState)

def issueSessionTokens (request : IssueRequest) (draw : Draw)
    (now later : Int) (works : Bool) : SessionState × SessionTokenBundle :=
  let (token, bundle) := deps.issued request draw now
  let memory := (s.memory.insert (deps.hash draw.session) token).cleanup later
  (({ s with memory }).save works, bundle)

/-- The critical section of `refresh_session_tokens`, and whether it is saved. -/
def renew (memory : SessionMemory) (refreshToken : String) (client : Client) (draw : Draw)
    (now : Int) : SessionMemory × Option SessionTokenBundle × Bool :=
  let refreshHash := deps.hash refreshToken
  match KeyMap.get? refreshHash memory.refreshIndex with
  | none => (memory, none, false)
  | some sessionHash =>
    let refreshIndex := KeyMap.erase refreshHash memory.refreshIndex
    match KeyMap.get? sessionHash memory.sessionTokens with
    | none => ({ memory with refreshIndex, dirty := true }, none, true)
    | some entry =>
      let sessionTokens := KeyMap.erase sessionHash memory.sessionTokens
      if entry.refreshExpiresAt < now then ({ sessionTokens, refreshIndex, dirty := true }, none, true)
      else
        -- the deadline of the session stays
        let (updated, bundle) := deps.newSession entry.username now deps.sessionTokenTtl
          entry.refreshExpiresAt client entry.rememberMe draw
        ({ sessionTokens := KeyMap.emplace (deps.hash draw.session) updated sessionTokens
           refreshIndex :=
             KeyMap.assign (deps.hash draw.refresh) (deps.hash draw.session) refreshIndex
           dirty := true }, some bundle, true)

def refreshSessionTokens (refreshToken : String) (client : Client)
    (draw : Draw) (now : Int) (works : Bool) : SessionState × Option SessionTokenBundle :=
  if refreshToken = "" then (s, none)
  else
    let (memory, result, needsPersist) := deps.renew s.memory refreshToken client draw now
    (if needsPersist then ({ s with memory }).save works else s, result)

variable (token : String) (now : Int) (works : Bool)

def touchSession : SessionState × Option SessionToken :=
  let (memory, found, shouldPersist) := s.memory.touch (deps.hash token) now
  (if shouldPersist then ({ s with memory }).save works else { s with memory }, found)

def validateSessionToken : SessionState × Bool :=
  let (s, found) := deps.touchSession s token now works
  (s, found.isSome)

def getUsernameForToken : SessionState × Option String :=
  let (s, found) := deps.touchSession s token now works
  (s, found.map (·.username))

def getHashForToken : Option String :=
  match KeyMap.get? (deps.hash token) s.memory.sessionTokens with
  | none => none
  | some entry =>
    if entry.refreshExpiresAt < now ∨ entry.expiresAt < now then none else some (deps.hash token)

def revokeSessionToken : SessionState × Bool :=
  s.revokeSessionByHash (deps.hash token) works

def revokeRefreshToken (refreshToken : String) (works : Bool) : SessionState × Bool :=
  if refreshToken = "" then (s, false)
  else match KeyMap.get? (deps.hash refreshToken) s.memory.refreshIndex with
    | none => (s, false)
    | some hash => s.revokeSessionByHash hash works

/-! ### Loading -/

/-- `get<std::int64_t>`. -/
def integerOf (tree : PTree) (key : String) (missing : Int) : Int :=
  ((tree.child? key).bind (deps.lib.int64 ·.data)).getD missing

def loadSession (node : PTree) : Option (String × SessionToken × Bool) :=
  let hash := textOf node "hash"
  if hash = "" then none
  else
    let created := deps.integerOf node "created_at" 0
    let expires := deps.integerOf node "expires_at" 0
    let refreshExpires := deps.integerOf node "refresh_expires_at" expires
    let lastSeen := deps.integerOf node "last_seen" created
    let userAgent := textOf node "user_agent"
    let remoteAddress := textOf node "remote_address"
    let storedLabel := textOf node "device_label"
    let refreshTokenHash := textOf node "refresh_token_hash"
    let expiresAt := expires * nanosecondsPerSecond
    -- a session without a refresh token expires with the session token
    let refreshExpiresAt :=
      if refreshTokenHash = "" then expiresAt else refreshExpires * nanosecondsPerSecond
    some (hash,
      { username := textOf node "username"
        createdAt := created * nanosecondsPerSecond
        expiresAt := min expiresAt refreshExpiresAt
        refreshExpiresAt
        userAgent
        remoteAddress
        lastSeen := lastSeen * nanosecondsPerSecond
        rememberMe := ((node.child? "remember_me").bind (deps.lib.bool ·.data)).getD false
        deviceLabel :=
          if storedLabel = "" then deriveDeviceLabel userAgent remoteAddress else storedLabel
        refreshTokenHash
        rotationId := textOf node "rotation_id" },
      storedLabel = "" || refreshExpiresAt < expiresAt)

def loadNext (memory : SessionMemory) (node : PTree) : SessionMemory :=
  match deps.loadSession node with
  | none => memory
  | some (hash, token, resave) =>
    let memory := { memory with dirty := memory.dirty || resave }
    if token.refreshExpiresAt < now then memory
    else if (KeyMap.get? hash memory.sessionTokens).isSome then memory
    else
      { memory with
        sessionTokens := KeyMap.emplace hash token memory.sessionTokens
        refreshIndex :=
          if token.refreshTokenHash ≠ "" then
            KeyMap.assign token.refreshTokenHash hash memory.refreshIndex
          else memory.refreshIndex }

def loaded (root : PTree) (now : Int) : SessionMemory :=
  match (rootOf root).child? "session_tokens" with
  | none => {}
  | some sessions => (sessions.children.map (·.2)).foldl (deps.loadNext now) {}

/-- `load_session_tokens`, which may find the file unreadable. -/
def loadSessionTokens (readable : Bool) (now : Int) (works : Bool) : SessionState :=
  match s.file with
  | none => { s with memory := {} }
  | some root =>
    if !readable then { s with memory := {} }
    else
      let memory := deps.loaded root now
      if memory.dirty then ({ s with memory }).save works else { s with memory }

end SessionDependencies

end Vibeshine.HttpAuth
