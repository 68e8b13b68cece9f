import Vibeshine.Library.Json
import Vibeshine.Library.System
import Vibeshine.StateFile.Tree

/-! # API tokens

`ApiTokenManager` keeps its tokens in memory and saves all of them with every change. What
a request may grant is decided by `parse_json_scopes`, what the state file may hold by the
validation of the auxiliary state. On working storage the file holds the last tree written.
-/

namespace Vibeshine.HttpAuth

open Library StateFile List

/-- `boost::to_upper_copy` in the classic locale. -/
def toUpperCopy (text : String) : String := text.map Char.toUpper

abbrev ScopeMap := List (String × Finset String)

structure ApiTokenInfo where
  hash : String
  pathMethods : ScopeMap
  username : String
  /-- nanoseconds since the epoch -/
  createdAt : Int

abbrev ApiTokenMap := List (String × ApiTokenInfo)

def nanosecondsPerSecond : Int := 1000000000

/-- The count of a `duration_cast` to seconds. -/
def seconds (time : Int) : Int := time.tdiv nanosecondsPerSecond

/-- `InvalidScopeException`, which is caught, and the type errors of the JSON library, which
are not. -/
inductive ScopeError where
  | invalidScope | typeError
  deriving DecidableEq

/-- `get<std::string>`. -/
def jsonString : Json → Except ScopeError String
  | .string value => .ok value
  | _ => .error .typeError

/-- The member of an object, when `contains` finds it. -/
def member? (key : String) : Json → Option Json
  | .object members => (members.find? (·.1 = key)).map (·.2)
  | _ => none

def elements : Json → List Json
  | .array elements => elements
  | .object members => members.map (·.2)
  | .null => []
  | other => [other]

def parseJsonScope (scope : Json) : Except ScopeError (String × Finset String) :=
  match member? "path" scope, member? "methods" scope with
  | some path, some (.array methods) => do
      let path ← jsonString path
      let methods ← methods.mapM jsonString
      pure (path, (methods.map toUpperCopy).toFinset)
  | _, _ => .error .invalidScope

def parseJsonScopes (scopes : Json) : Except ScopeError ScopeMap := do
  let parsed ← (elements scopes).mapM parseJsonScope
  pure (KeyMap.assignAll parsed)

lemma le_isTrans : IsTrans String LE.le := inferInstance

lemma le_antisymm_string : @Std.Antisymm String LE.le := inferInstance

def methodsTree (methods : Finset String) : PTree :=
  .node "" ((@Finset.sort _ methods LE.le _ le_isTrans le_antisymm_string _).map
    fun method => ("", .leaf method))

def scopeTree (scope : String × Finset String) : PTree :=
  .node "" [("path", .leaf scope.1), ("methods", methodsTree scope.2)]

def tokenTree (info : ApiTokenInfo) : PTree :=
  .node "" [("hash", .leaf info.hash), ("username", .leaf info.username),
    ("created_at", .leaf (toString (seconds info.createdAt))),
    ("scopes", .node "" (info.pathMethods.map fun scope => ("", scopeTree scope)))]

/-- The tree that `save_api_tokens` builds from the one it has read. -/
def savedTree (tokens : ApiTokenMap) (root : PTree) : PTree :=
  root.putChild "root" ((rootOf root).putChild "api_tokens"
    (.node "" (tokens.map fun entry => ("", tokenTree { entry.2 with hash := entry.1 }))))

/-- `get<std::string>` with an empty default. -/
def textOf (tree : PTree) (key : String) : String := ((tree.child? key).map (·.data)).getD ""

def parseScope (scope : PTree) : Option (String × Finset String) :=
  let path := textOf scope "path"
  let methods : Finset String :=
    match scope.child? "methods" with
    | none => ∅
    | some methods => (methods.children.map (·.2.data)).toFinset
  if path = "" ∨ methods = ∅ then none else some (path, methods)

def buildScopeMap (scopes : PTree) : ScopeMap :=
  KeyMap.emplaceAll (scopes.children.filterMap fun entry => parseScope entry.2)

section

variable (lib : TreeLibrary)

def loadToken (token : PTree) : Option (String × ApiTokenInfo) :=
  let hash := textOf token "hash"
  if hash = "" then none
  else
    some (hash,
      { hash
        username := textOf token "username"
        createdAt := (((token.child? "created_at").bind (lib.int64 ·.data)).getD 0) *
          nanosecondsPerSecond
        pathMethods := ((token.child? "scopes").map buildScopeMap).getD [] })

/-- `load_api_tokens` from a file that is missing or holds a tree. -/
def loadApiTokens : Option PTree → ApiTokenMap
  | none => []
  | some tree =>
    if !lib.validVibeshineTree tree then []
    else match (rootOf tree).child? "api_tokens" with
      | none => []
      | some tokens =>
        KeyMap.emplaceAll (tokens.children.filterMap fun entry => loadToken lib entry.2)

end

/-! ## The manager -/

inductive Reply where
  | token (text : String)
  | rejected
  | typeError
  | revoked (erased : Bool)
  | writeRefused
  deriving DecidableEq

structure ApiState where
  tokens : ApiTokenMap
  file : Option PTree
  /-- the latest first -/
  replies : List Reply := []

inductive ApiCall where
  /-- with the random text and the time the call draws -/
  | create (scopes : Json) (username token : String) (now : Int)
  | generate (body : String) (username token : String) (now : Int)
  | revoke (hash : String)

def ApiCall.clocked : ApiCall → Prop
  | .create _ _ _ now | .generate _ _ _ now => -2 ^ 63 ≤ now ∧ now < 2 ^ 63
  | .revoke _ => True

/-- The functions the manager is given, and the parser of request bodies. -/
structure ApiDependencies where
  lib : TreeLibrary
  hash : String → String
  parse : String → Option Json

namespace ApiDependencies

variable (deps : ApiDependencies)

/-- `save_api_tokens`, and what the call returns that saves. A file that cannot be loaded is
left alone. -/
def saveApiTokens (s : ApiState) (reply : Reply) : ApiState :=
  match s.file with
  | some tree =>
    if deps.lib.validVibeshineTree tree then write tree
    else { s with replies := reply :: s.replies }
  | none => write .empty
where
  write (root : PTree) : ApiState :=
    let saved := savedTree s.tokens root
    if deps.lib.validVibeshineTree saved then
      { s with file := some saved, replies := reply :: s.replies }
    else
      { s with replies := .writeRefused :: s.replies }

def createApiToken (s : ApiState) (scopes : Json) (username token : String) (now : Int) :
    ApiState :=
  match parseJsonScopes scopes with
  | .error .invalidScope => { s with replies := .rejected :: s.replies }
  | .error .typeError => { s with replies := .typeError :: s.replies }
  | .ok pathMethods =>
    let info := { hash := deps.hash token, pathMethods, username, createdAt := now }
    deps.saveApiTokens { s with tokens := KeyMap.assign (deps.hash token) info s.tokens }
      (.token token)

def requestedScopes (body : String) : Option Json :=
  match (deps.parse body).bind (member? "scopes") with
  | some (.array scopes) => some (.array scopes)
  | _ => none

def generateApiToken (s : ApiState) (body username token : String) (now : Int) : ApiState :=
  match deps.requestedScopes body with
  | none => { s with replies := .rejected :: s.replies }
  | some scopes => deps.createApiToken s scopes username token now

def revokeApiTokenByHash (s : ApiState) (hash : String) : ApiState :=
  if hash = "" then { s with replies := .revoked false :: s.replies }
  else if s.tokens.any (·.1 = hash) then
    deps.saveApiTokens { s with tokens := s.tokens.filter (·.1 ≠ hash) } (.revoked true)
  else { s with replies := .revoked false :: s.replies }

def apiSystem (file : Option PTree) : System ApiState ApiCall where
  init := { tokens := loadApiTokens deps.lib file, file }
  admits _ call := call.clocked
  step s
    | .create scopes username token now => deps.createApiToken s scopes username token now
    | .generate body username token now => deps.generateApiToken s body username token now
    | .revoke hash => deps.revokeApiTokenByHash s hash

end ApiDependencies

/-! ## What can be written and read back -/

def UsableScope (scope : String × Finset String) : Prop :=
  scope.1 ≠ "" ∧ scope.2.Nonempty ∧ "" ∉ scope.2

/-- A token that the file may hold and that is read back. -/
structure ApiTokenInfo.Writable (info : ApiTokenInfo) : Prop where
  hash : info.hash ≠ ""
  ordered : KeyMap.Ordered info.pathMethods
  scopes : ∀ scope ∈ info.pathMethods, UsableScope scope
  created : -2 ^ 63 ≤ seconds info.createdAt ∧ seconds info.createdAt < 2 ^ 63

def ApiTokenInfo.reloaded (info : ApiTokenInfo) : ApiTokenInfo :=
  { info with createdAt := seconds info.createdAt * nanosecondsPerSecond }

/-- The 64-bit integers are the ones that the library reads, and it reads their texts. -/
structure ReadsIntegers (lib : TreeLibrary) : Prop where
  reads : ∀ n : Int, -2 ^ 63 ≤ n → n < 2 ^ 63 → lib.int64 (toString n) = some n
  fits : ∀ text n, lib.int64 text = some n → -2 ^ 63 ≤ n ∧ n < 2 ^ 63

lemma seconds_mul (n : Int) : seconds (n * nanosecondsPerSecond) = n :=
  Int.mul_tdiv_cancel n (by decide)

lemma seconds_fits {time : Int} (h : -2 ^ 63 ≤ time ∧ time < 2 ^ 63) :
    -2 ^ 63 ≤ seconds time ∧ seconds time < 2 ^ 63 := by
  simp only [seconds, nanosecondsPerSecond]
  obtain hpos | hnegative := Int.le_total 0 time
  · rw [Int.tdiv_eq_ediv_of_nonneg hpos]
    omega
  · rw [← Int.neg_neg time, Int.neg_tdiv, Int.tdiv_eq_ediv_of_nonneg (by omega)]
    omega

section

variable {lib : TreeLibrary} {info : ApiTokenInfo} {scope : String × Finset String}

lemma filterMap_read {α β : Type} {list : List α} (write : α → PTree)
    (read : PTree → Option β) (back : α → β)
    (h : ∀ value ∈ list, read (write value) = some (back value)) :
    (list.map fun value => ("", write value)).filterMap (fun entry => read entry.2) =
      list.map back := by
  rw [filterMap_map, ← filterMap_eq_map]
  exact filterMap_congr h

@[simp] lemma leaf_data (text : String) : (PTree.leaf text).data = text := rfl

@[simp] lemma leaf_children (text : String) : (PTree.leaf text).children = [] := rfl

lemma filled_leaf {text : String} (h : text ≠ "") : (PTree.leaf text).filled := by
  simp [PTree.filled, PTree.childless, h]

lemma methodsTree_valid {methods : Finset String} (h : "" ∉ methods) :
    ((methodsTree methods).data = "" && (methodsTree methods).children.all fun entry =>
      entry.1 = "" && entry.2.filled) = true := by
  simp only [methodsTree, PTree.data_node, PTree.children_node, decide_true, Bool.true_and,
    all_map, all_eq_true]
  intro method hmethod
  have hne : method ≠ "" := fun hempty => h (hempty ▸ (Finset.mem_sort _).1 hmethod)
  simpa using filled_leaf hne

lemma scopeTree_valid (h : UsableScope scope) : TreeLibrary.validScope (scopeTree scope) := by
  obtain ⟨hpath, _, hmethods⟩ := h
  have hobject : (scopeTree scope).object := by
    simp [scopeTree, PTree.object, PTree.count]
  simp only [TreeLibrary.validScope, hobject, Bool.true_and, Bool.and_eq_true]
  constructor
  · simpa [scopeTree, PTree.required, PTree.child?] using filled_leaf hpath
  · simpa [scopeTree, PTree.required, PTree.child?] using methodsTree_valid hmethods

lemma parseScope_scopeTree (h : UsableScope scope) : parseScope (scopeTree scope) = some scope := by
  obtain ⟨hpath, hnonempty, _⟩ := h
  have hmethods : ((methodsTree scope.2).children.map (·.2.data)).toFinset = scope.2 := by
    simp [methodsTree, Function.comp_def]
  simp [parseScope, textOf, scopeTree, PTree.child?, hmethods, hpath, hnonempty.ne_empty]

lemma tokenTree_valid (hlib : ReadsIntegers lib) (h : info.Writable) :
    lib.validToken (tokenTree info) := by
  have hobject : (tokenTree info).object := by
    simp [tokenTree, PTree.object, PTree.count]
  have hcreated : lib.int64 (seconds info.createdAt).repr = some (seconds info.createdAt) :=
    hlib.reads _ h.created.1 h.created.2
  have hscopes : (info.pathMethods.map fun scope => ("", scopeTree scope)).all
      fun entry => entry.1 = "" && TreeLibrary.validScope entry.2 := by
    simp only [all_map, all_eq_true]
    intro scope hscope
    simpa using scopeTree_valid (h.scopes scope hscope)
  have hhash := filled_leaf h.hash
  simp only [TreeLibrary.validToken, hobject, Bool.true_and, Bool.and_eq_true]
  simp [tokenTree, PTree.required, PTree.optional, PTree.child?, PTree.childless, hcreated, hhash]
  simpa using hscopes

lemma loadToken_tokenTree (hlib : ReadsIntegers lib) (h : info.Writable) :
    loadToken lib (tokenTree info) = some (info.hash, info.reloaded) := by
  have hcreated : lib.int64 (seconds info.createdAt).repr = some (seconds info.createdAt) :=
    hlib.reads _ h.created.1 h.created.2
  have hscopes : buildScopeMap (.node "" (info.pathMethods.map fun scope => ("", scopeTree scope))) =
      info.pathMethods := by
    have hread := filterMap_read scopeTree parseScope id fun scope hscope =>
      parseScope_scopeTree (h.scopes scope hscope)
    rw [buildScopeMap, PTree.children_node, hread, map_id, KeyMap.emplaceAll_ordered h.ordered]
  simp [loadToken, textOf, tokenTree, PTree.child?, h.hash, hcreated, hscopes, ApiTokenInfo.reloaded]

lemma savedTree_rootOf (tokens : ApiTokenMap) (root : PTree) :
    (rootOf (savedTree tokens root)).child? "api_tokens" =
      some (.node "" (tokens.map fun entry => ("", tokenTree { entry.2 with hash := entry.1 }))) := by
  simp [savedTree]

/-- The tokens of a manager: every one under its hash, and fit for the file. -/
structure Kept (tokens : ApiTokenMap) : Prop where
  ordered : KeyMap.Ordered tokens
  hashes : ∀ entry ∈ tokens, entry.2.hash = entry.1
  writable : ∀ entry ∈ tokens, entry.2.Writable

def reloadedTokens (tokens : ApiTokenMap) : ApiTokenMap :=
  tokens.map fun entry => (entry.1, entry.2.reloaded)

lemma Kept.entry {tokens : ApiTokenMap} (h : Kept tokens) {entry : String × ApiTokenInfo}
    (hentry : entry ∈ tokens) : { entry.2 with hash := entry.1 } = entry.2 := by
  rw [← h.hashes entry hentry]

lemma savedTree_valid (hlib : ReadsIntegers lib) {tokens : ApiTokenMap} (h : Kept tokens)
    {root : PTree} (hroot : root = .empty ∨ lib.validVibeshineTree root) :
    lib.validVibeshineTree (savedTree tokens root) := by
  refine lib.validVibeshineTree_putTokens hroot (by decide) ?_
  simp only [TreeLibrary.validTokens, PTree.data_node, PTree.children_node, decide_true,
    Bool.true_and, all_map, all_eq_true]
  intro entry hentry
  have hvalid := tokenTree_valid hlib (h.writable entry hentry)
  simpa [h.entry hentry] using hvalid

lemma loadApiTokens_savedTree (hlib : ReadsIntegers lib) {tokens : ApiTokenMap}
    (h : Kept tokens) {root : PTree} (hroot : root = .empty ∨ lib.validVibeshineTree root) :
    loadApiTokens lib (some (savedTree tokens root)) = reloadedTokens tokens := by
  have hread : ∀ entry ∈ tokens, loadToken lib (tokenTree { entry.2 with hash := entry.1 }) =
      some (entry.1, entry.2.reloaded) := by
    intro entry hentry
    rw [h.entry hentry, loadToken_tokenTree hlib (h.writable entry hentry), h.hashes entry hentry]
  have hordered : KeyMap.Ordered (reloadedTokens tokens) :=
    pairwise_map.2 h.ordered
  simp only [loadApiTokens, savedTree_valid hlib h hroot, savedTree_rootOf, Bool.not_true,
    Bool.false_eq_true, if_false, PTree.children_node]
  rw [filterMap_read _ (loadToken lib) _ hread]
  exact KeyMap.emplaceAll_ordered hordered

/-! ## What a file gives -/

lemma parseScope_usable {tree : PTree} (hvalid : TreeLibrary.validScope tree)
    (hparse : parseScope tree = some scope) : UsableScope scope := by
  unfold parseScope at hparse
  obtain ⟨hdropped, rfl⟩ := Option.ite_none_left_eq_some.1 hparse |>.imp id Option.some.inj
  push Not at hdropped
  refine ⟨hdropped.1, hdropped.2, ?_⟩
  simp only [TreeLibrary.validScope, PTree.required, Bool.and_eq_true] at hvalid
  obtain ⟨_, hmethods⟩ := hvalid
  cases hchild : tree.child? "methods" with
  | none => simp
  | some methods =>
    rw [hchild, Option.any_some, Bool.and_eq_true, all_eq_true] at hmethods
    simp only [mem_toFinset, mem_map, not_exists, not_and]
    intro entry hentry hdata
    have hfilled := hmethods.2 entry hentry
    simp [PTree.filled, hdata] at hfilled

lemma buildScopeMap_usable {scopes : PTree}
    (hvalid : scopes.children.all fun entry => entry.1 = "" && TreeLibrary.validScope entry.2) :
    ∀ scope ∈ buildScopeMap scopes, UsableScope scope := by
  intro scope hscope
  obtain ⟨entry, hentry, hparse⟩ := mem_filterMap.1 (KeyMap.mem_emplaceAll scope hscope)
  have hentryValid := all_eq_true.1 hvalid entry hentry
  simp only [Bool.and_eq_true] at hentryValid
  exact parseScope_usable hentryValid.2 hparse

lemma loadToken_writable (hlib : ReadsIntegers lib) {tree : PTree}
    (hvalid : lib.validToken tree) {entry : String × ApiTokenInfo}
    (hload : loadToken lib tree = some entry) :
    entry.2.hash = entry.1 ∧ entry.2.Writable ∧ entry.2.reloaded = entry.2 := by
  unfold loadToken at hload
  obtain ⟨hhash, rfl⟩ := Option.ite_none_left_eq_some.1 hload |>.imp id Option.some.inj
  have hcreated : ∀ n, n = (((tree.child? "created_at").bind (lib.int64 ·.data)).getD 0) →
      -2 ^ 63 ≤ n ∧ n < 2 ^ 63 := by
    rintro n rfl
    cases hread : (tree.child? "created_at").bind (lib.int64 ·.data) with
    | none => decide
    | some value =>
      obtain ⟨child, _, hvalue⟩ := Option.bind_eq_some_iff.1 hread
      exact hlib.fits _ _ hvalue
  refine ⟨rfl, ⟨hhash, ?_, ?_, ?_⟩, ?_⟩
  · cases tree.child? "scopes" with
    | none => exact List.Pairwise.nil
    | some scopes => exact KeyMap.ordered_emplaceAll _
  · cases hscopes : tree.child? "scopes" with
    | none => simp
    | some scopes =>
      simp only [TreeLibrary.validToken, PTree.optional, hscopes, Option.all_some,
        Bool.and_eq_true] at hvalid
      exact buildScopeMap_usable hvalid.2.2
  · dsimp only
    rw [seconds_mul]
    exact hcreated _ rfl
  · simp [ApiTokenInfo.reloaded, seconds_mul]

lemma loadApiTokens_entry (hlib : ReadsIntegers lib) {file : Option PTree}
    {entry : String × ApiTokenInfo} (hentry : entry ∈ loadApiTokens lib file) :
    entry.2.hash = entry.1 ∧ entry.2.Writable ∧ entry.2.reloaded = entry.2 := by
  cases file with
  | none => simp [loadApiTokens] at hentry
  | some tree =>
    by_cases hvalid : lib.validVibeshineTree tree
    case neg => simp [loadApiTokens, hvalid] at hentry
    obtain ⟨_, _, _, htokens⟩ := lib.validVibeshineTree_iff.1 hvalid
    have htokens := htokens "api_tokens" (by decide)
    cases hchild : (rootOf tree).child? "api_tokens" with
    | none => simp [loadApiTokens, hvalid, hchild] at hentry
    | some tokens =>
      simp only [loadApiTokens, hvalid, hchild, Bool.not_true, Bool.false_eq_true,
        if_false] at hentry
      obtain ⟨token, htoken, hload⟩ := mem_filterMap.1 (KeyMap.mem_emplaceAll _ hentry)
      simp only [PTree.optional, hchild, Option.all_some, TreeLibrary.validTokens,
        Bool.and_eq_true, all_eq_true] at htokens
      exact loadToken_writable hlib (htokens.2 token htoken).2 hload

lemma loadApiTokens_ordered (file : Option PTree) : KeyMap.Ordered (loadApiTokens lib file) := by
  unfold loadApiTokens
  cases file with
  | none => exact List.Pairwise.nil
  | some tree =>
    dsimp only
    split
    · exact List.Pairwise.nil
    · split
      · exact List.Pairwise.nil
      · exact KeyMap.ordered_emplaceAll _

lemma loadApiTokens_kept (hlib : ReadsIntegers lib) (file : Option PTree) :
    Kept (loadApiTokens lib file) where
  ordered := loadApiTokens_ordered file
  hashes _ hentry := (loadApiTokens_entry hlib hentry).1
  writable _ hentry := (loadApiTokens_entry hlib hentry).2.1

lemma loadApiTokens_reloaded (hlib : ReadsIntegers lib) (file : Option PTree) :
    reloadedTokens (loadApiTokens lib file) = loadApiTokens lib file := by
  refine (map_congr_left fun entry hentry => ?_).trans (map_id _)
  rw [(loadApiTokens_entry hlib hentry).2.2]
  rfl

end

/-! ## What a request grants -/

/-- Every scope of an accepted request that no later one with the same path replaces names a
path and at least one method, and no method is an empty text. -/
def UsableScopes (scopes : Json) : Prop :=
  (∃ map, parseJsonScopes scopes = .ok map) →
    ∀ before scope after path methods, elements scopes = before ++ scope :: after →
      member? "path" scope = some (.string path) →
      member? "methods" scope = some (.array methods) →
      (∀ later ∈ after, member? "path" later ≠ some (.string path)) →
      path ≠ "" ∧ methods ≠ [] ∧ .string "" ∉ methods

lemma mapM_forall₂ {α β ε : Type} {f : α → Except ε β} {list : List α} {results : List β}
    (h : list.mapM f = .ok results) :
    List.Forall₂ (fun value result => f value = .ok result) list results := by
  induction list generalizing results with
  | nil =>
    obtain rfl : [] = results := by simpa [pure, Except.pure] using h
    exact .nil
  | cons value rest ih =>
    rw [mapM_cons] at h
    cases hvalue : f value with
    | error what => simp [hvalue, bind, Except.bind] at h
    | ok result =>
      cases hrest : rest.mapM f with
      | error what => simp [hvalue, hrest, bind, Except.bind] at h
      | ok others =>
        obtain rfl : result :: others = results := by
          simpa [hvalue, hrest, bind, Except.bind, pure, Except.pure] using h
        exact .cons hvalue (ih hrest)

lemma forall₂_exists {α β : Type} {related : α → β → Prop} {list : List α} {others : List β}
    (h : List.Forall₂ related list others) {value : α} (hvalue : value ∈ list) :
    ∃ other ∈ others, related value other := by
  induction h with
  | nil => simp at hvalue
  | cons hhead _ ih =>
    obtain rfl | hrest := mem_cons.1 hvalue
    · exact ⟨_, mem_cons_self, hhead⟩
    · obtain ⟨other, hother, hrelated⟩ := ih hrest
      exact ⟨other, mem_cons_of_mem _ hother, hrelated⟩

lemma jsonString_ok {value : Json} {text : String} (h : jsonString value = .ok text) :
    value = .string text := by
  unfold jsonString at h
  split at h
  · injection h with h
    rw [h]
  · cases h

lemma parseJsonScope_ok {scope : Json} {parsed : String × Finset String}
    (h : parseJsonScope scope = .ok parsed) :
    ∃ methods names, member? "path" scope = some (.string parsed.1) ∧
      member? "methods" scope = some (.array methods) ∧
      List.Forall₂ (fun method name => method = .string name) methods names ∧
      parsed.2 = (names.map toUpperCopy).toFinset := by
  unfold parseJsonScope at h
  split at h
  case h_2 => cases h
  rename_i path methods hpath hmethods
  cases hstring : jsonString path with
  | error what => simp [hstring, bind, Except.bind] at h
  | ok text =>
    cases hnames : methods.mapM jsonString with
    | error what => simp [hstring, hnames, bind, Except.bind] at h
    | ok names =>
      obtain rfl : (text, (names.map toUpperCopy).toFinset) = parsed := by
        simpa [hstring, hnames, bind, Except.bind, pure, Except.pure] using h
      refine ⟨methods, names, ?_, hmethods, ?_, rfl⟩
      · rw [hpath, jsonString_ok hstring]
      · exact (mapM_forall₂ hnames).imp fun _ _ => jsonString_ok

lemma parseJsonScopes_usable {scopes : Json} {map : ScopeMap} (husable : UsableScopes scopes)
    (h : parseJsonScopes scopes = .ok map) :
    KeyMap.Ordered map ∧ ∀ scope ∈ map, UsableScope scope := by
  have husable := husable ⟨map, h⟩
  unfold parseJsonScopes at h
  cases hparsed : (elements scopes).mapM parseJsonScope with
  | error what => simp [hparsed, bind, Except.bind] at h
  | ok parsed =>
    obtain rfl : KeyMap.assignAll parsed = map := by
      simpa [hparsed, bind, Except.bind, pure, Except.pure] using h
    refine ⟨KeyMap.ordered_assignAll _, fun scope hscope => ?_⟩
    -- the scope is the last one parsed for its path
    obtain ⟨before, after, rfl, hafter⟩ := KeyMap.mem_assignAll hscope
    have hread := mapM_forall₂ hparsed
    obtain ⟨element, rest, helement, hrest, hdrop⟩ :=
      forall₂_cons_right_iff.1 (forall₂_drop_append _ _ _ hread)
    have hsplit : elements scopes = (elements scopes).take before.length ++ element :: rest := by
      rw [← hdrop, take_append_drop]
    obtain ⟨methods, names, hpath, hmethods, hnames, hset⟩ := parseJsonScope_ok helement
    have hlater : ∀ later ∈ rest, member? "path" later ≠ some (.string scope.1) := by
      intro later hmem hsame
      obtain ⟨other, hother, hparse⟩ := forall₂_exists hrest hmem
      obtain ⟨_, _, hotherPath, _⟩ := parseJsonScope_ok hparse
      rw [hsame, Option.some.injEq, Json.string.injEq] at hotherPath
      exact hafter other hother hotherPath.symm
    obtain ⟨hpathNe, hmethodsNe, hempty⟩ :=
      husable _ element rest scope.1 methods hsplit hpath hmethods hlater
    refine ⟨hpathNe, ?_, ?_⟩
    · rw [hset, toFinset_nonempty_iff]
      intro hnone
      rw [map_eq_nil_iff] at hnone
      rw [hnone] at hnames
      exact hmethodsNe (forall₂_nil_right_iff.1 hnames)
    · rw [hset, mem_toFinset, mem_map]
      rintro ⟨name, hname, hupper⟩
      obtain ⟨method, hmethod, hequal⟩ := forall₂_exists hnames.flip hname
      rw [String.map_eq_empty.1 hupper] at hequal
      exact hempty (hequal ▸ hmethod)

/-! ## Every run -/

namespace ApiDependencies

variable (deps : ApiDependencies)

def UsableCall : ApiCall → Prop
  | .create scopes _ _ _ => UsableScopes scopes
  | .generate body _ _ _ => ∀ scopes, deps.requestedScopes body = some scopes → UsableScopes scopes
  | .revoke _ => True

/-- What saving needs and leaves behind. -/
structure Persisted (s : ApiState) : Prop where
  file : ∀ tree ∈ s.file, deps.lib.validVibeshineTree tree
  kept : Kept s.tokens
  stored : loadApiTokens deps.lib s.file = reloadedTokens s.tokens
  written : .writeRefused ∉ s.replies

variable {deps}

lemma Persisted.save (hlib : ReadsIntegers deps.lib) {s : ApiState} {tokens : ApiTokenMap}
    (h : deps.Persisted s) (hkept : Kept tokens) {reply : Reply} (hreply : reply ≠ .writeRefused) :
    deps.Persisted (deps.saveApiTokens { s with tokens := tokens } reply) := by
  have written : ∀ root, (root = .empty ∨ deps.lib.validVibeshineTree root) →
      deps.Persisted (saveApiTokens.write deps { s with tokens := tokens } reply root) := by
    intro root hroot
    have hvalid := savedTree_valid hlib hkept hroot
    rw [saveApiTokens.write]
    simp only [hvalid, if_true]
    exact ⟨by simpa using hvalid, hkept, loadApiTokens_savedTree hlib hkept hroot,
      by simpa [hreply.symm] using h.written⟩
  obtain ⟨kept, file, replies⟩ := s
  unfold saveApiTokens
  cases file with
  | none => exact written .empty (.inl rfl)
  | some tree =>
    have hvalid := h.file tree rfl
    simp only [hvalid, if_true]
    exact written tree (.inr hvalid)

lemma Persisted.reply {s : ApiState} (h : deps.Persisted s) {reply : Reply}
    (hreply : reply ≠ .writeRefused) :
    deps.Persisted { s with replies := reply :: s.replies } :=
  ⟨h.file, h.kept, h.stored, by simpa [hreply.symm] using h.written⟩

lemma Persisted.create (hlib : ReadsIntegers deps.lib) (hhash : ∀ token, deps.hash token ≠ "")
    {s : ApiState} (h : deps.Persisted s) {scopes : Json} (husable : UsableScopes scopes)
    {username token : String} {now : Int} (hnow : -2 ^ 63 ≤ now ∧ now < 2 ^ 63) :
    deps.Persisted (deps.createApiToken s scopes username token now) := by
  unfold createApiToken
  split
  · exact h.reply (by simp)
  · exact h.reply (by simp)
  rename_i map hparse
  obtain ⟨hordered, hscopes⟩ := parseJsonScopes_usable husable hparse
  have hwritable : ({ hash := deps.hash token, pathMethods := map, username, createdAt := now } :
      ApiTokenInfo).Writable := ⟨hhash token, hordered, hscopes, seconds_fits hnow⟩
  refine h.save hlib ⟨KeyMap.assign_ordered h.kept.ordered, fun entry hentry => ?_,
    fun entry hentry => ?_⟩ (by simp)
  · obtain rfl | hentry := KeyMap.mem_assign hentry
    · rfl
    · exact h.kept.hashes entry hentry
  · obtain rfl | hentry := KeyMap.mem_assign hentry
    · exact hwritable
    · exact h.kept.writable entry hentry

lemma Persisted.step (hlib : ReadsIntegers deps.lib) (hhash : ∀ token, deps.hash token ≠ "")
    {file : Option PTree} {s : ApiState} (h : deps.Persisted s) {call : ApiCall}
    (hclock : call.clocked) (husable : deps.UsableCall call) :
    deps.Persisted ((deps.apiSystem file).step s call) := by
  cases call with
  | create scopes username token now => exact h.create hlib hhash husable hclock
  | generate body username token now =>
    change deps.Persisted (deps.generateApiToken s body username token now)
    unfold generateApiToken
    split
    · exact h.reply (by simp)
    · rename_i scopes hscopes
      exact h.create hlib hhash (husable scopes hscopes) hclock
  | revoke hash =>
    change deps.Persisted (deps.revokeApiTokenByHash s hash)
    unfold revokeApiTokenByHash
    split
    · exact h.reply (by simp)
    split
    · refine h.save hlib ⟨h.kept.ordered.filter _, ?_, ?_⟩ (by simp)
      · exact fun entry hentry => h.kept.hashes entry (mem_of_mem_filter hentry)
      · exact fun entry hentry => h.kept.writable entry (mem_of_mem_filter hentry)
    · exact h.reply (by simp)

/-- As long as all calls ask for usable scopes, the tree that saving would build is valid,
every creation and every revocation is written, and loading the file gives back the tokens
with their scopes, created at full seconds. -/
theorem api_tokens_persist (deps : ApiDependencies) (hlib : ReadsIntegers deps.lib)
    (hhash : ∀ token, deps.hash token ≠ "") (file : Option PTree)
    (hfile : ∀ tree ∈ file, deps.lib.validVibeshineTree tree) (s : ApiState)
    (hrun : (deps.apiSystem file).ReachableUnder (fun _ call => deps.UsableCall call) s) :
    deps.lib.validVibeshineTree (savedTree s.tokens (s.file.getD .empty)) ∧
      .writeRefused ∉ s.replies ∧
      loadApiTokens deps.lib s.file = reloadedTokens s.tokens := by
  have hpersisted : deps.Persisted s := by
    refine hrun.invariant ?_ fun _ _ hinv hclock husable => hinv.step hlib hhash hclock husable
    exact ⟨hfile, loadApiTokens_kept hlib file, (loadApiTokens_reloaded hlib file).symm, by
      simp [apiSystem]⟩
  refine ⟨savedTree_valid hlib hpersisted.kept ?_, hpersisted.written, hpersisted.stored⟩
  cases hstate : s.file with
  | none => exact .inl rfl
  | some tree => exact .inr (hpersisted.file tree hstate)

/-! ## A request that blocks saving -/

def integerDependencies : ApiDependencies where
  lib :=
    { readJson := fun _ => none
      writeJson := fun _ => none
      int64 := fun text =>
        match Json.readJson text.toList with
        | some (.integer n) => if n < 2 ^ 63 ∧ -2 ^ 63 ≤ n then some n else none
        | _ => none
      bool := fun _ => none }
  hash _ := "53811D4CA5162D7356BE91517F5364870F1F0C854070EDDE49194C595180A422"
  parse _ := none

lemma integerDependencies_reads : ReadsIntegers integerDependencies.lib where
  reads n hlow hhigh := by
    have hread : Json.readJson (toString n).toList = some (.integer n) :=
      (Json.Spells.integer hlow (by omega)).readJson
    simp only [integerDependencies, hread, if_pos (And.intro hhigh hlow)]
  fits text n h := by
    simp only [integerDependencies] at h
    split at h
    · obtain ⟨hfits, rfl⟩ := Option.ite_none_right_eq_some.1 h |>.imp id Option.some.inj
      exact hfits.symm
    · cases h

def requestScope (path method : String) : ApiCall :=
  .create (.array [.object [("methods", .array [.string method]), ("path", .string path)]])
    "admin" "AAAAAAAAAAAAAAAAAAAAAAAAAAAAAAAA" 1700000000000000000

/-- A scope with an empty path is accepted, and the tree with it is refused. -/
theorem api_tokens_wedge :
    let s := (integerDependencies.apiSystem none).run
      (integerDependencies.apiSystem none).init [requestScope "" "GET"]
    s.tokens.length = 1 ∧ .writeRefused ∈ s.replies ∧
      ¬ integerDependencies.lib.validVibeshineTree (savedTree s.tokens .empty) := by
  decide +kernel

theorem api_tokens_persist_one :
    let s := (integerDependencies.apiSystem none).run
      (integerDependencies.apiSystem none).init [requestScope "/api" "get"]
    integerDependencies.lib.validVibeshineTree (savedTree s.tokens (s.file.getD .empty)) ∧
      .writeRefused ∉ s.replies ∧
      loadApiTokens integerDependencies.lib s.file = reloadedTokens s.tokens := by
  have husable : UsableScopes (.array
      [.object [("methods", .array [.string "get"]), ("path", .string "/api")]]) := by
    rintro - before scope after path methods hsplit hpath hmethods -
    obtain ⟨rfl, hscope⟩ : before = [] ∧ scope =
        .object [("methods", .array [.string "get"]), ("path", .string "/api")] := by
      cases before with
      | nil => exact ⟨rfl, (List.cons.inj hsplit).1.symm⟩
      | cons _ rest => simp [elements] at hsplit
    subst hscope
    obtain rfl : "/api" = path := by simpa [member?] using hpath
    obtain rfl : [Json.string "get"] = methods := by simpa [member?] using hmethods
    simp
  exact api_tokens_persist integerDependencies integerDependencies_reads
    (fun _ => by simp [integerDependencies]) none (by simp) _
    (.of_follows .refl ⟨(⟨by decide, by decide⟩ : _ ∧ _), husable, trivial⟩)

end ApiDependencies

end Vibeshine.HttpAuth
