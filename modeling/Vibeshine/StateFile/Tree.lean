import Mathlib.Tactic.Common

/-! # State trees

A state file holds a property tree as JSON. A property tree node has data and children with
keys; arrays are children with empty keys, and empty arrays and objects are nodes with
neither data nor children. A byte string is a string of the characters of its bytes.
-/

namespace Vibeshine.StateFile

open List

inductive PTree where
  | node (data : String) (children : List (String × PTree))

namespace PTree

mutual

def decEq : (tree other : PTree) → Decidable (tree = other)
  | .node data children, .node data' children' =>
    if hdata : data = data' then
      match decEqChildren children children' with
      | .isTrue hchildren => .isTrue (by rw [hdata, hchildren])
      | .isFalse hchildren => .isFalse fun h => hchildren (by injection h)
    else .isFalse fun h => hdata (by injection h)

def decEqChildren : (children others : List (String × PTree)) → Decidable (children = others)
  | [], [] => .isTrue rfl
  | [], _ :: _ => .isFalse fun h => by cases h
  | _ :: _, [] => .isFalse fun h => by cases h
  | (key, tree) :: children, (key', tree') :: children' =>
    if hkey : key = key' then
      match decEq tree tree', decEqChildren children children' with
      | .isTrue htree, .isTrue hchildren => .isTrue (by rw [hkey, htree, hchildren])
      | .isFalse htree, _ => .isFalse fun h => htree (by injection h with h _; injection h)
      | _, .isFalse hchildren => .isFalse fun h => hchildren (by injection h)
    else .isFalse fun h => hkey (by injection h with h _; injection h)

end

instance : DecidableEq PTree := decEq

def data : PTree → String
  | .node data _ => data

def children : PTree → List (String × PTree)
  | .node _ children => children

/-- The tree of a default-constructed `pt::ptree`. -/
def empty : PTree := .node "" []

def leaf (data : String) : PTree := .node data []

/-- `empty()`: no children. -/
def childless (tree : PTree) : Bool := tree.children.isEmpty

/-- `count`: the children with a key. -/
def count (tree : PTree) (key : String) : Nat := tree.children.countP (·.1 = key)

/-- `find`, and `get_child_optional` for a path of one key: the first child with the key. -/
def child? (tree : PTree) (key : String) : Option PTree :=
  (tree.children.find? (·.1 = key)).map (·.2)

def object (tree : PTree) : Bool :=
  tree.data = "" && tree.children.all fun (key, _) => key ≠ "" && tree.count key = 1

def optional (tree : PTree) (key : String) (test : PTree → Bool) : Bool :=
  (tree.child? key).all test

def required (tree : PTree) (key : String) (test : PTree → Bool) : Bool :=
  (tree.child? key).any test

def filled (tree : PTree) : Bool := tree.childless && tree.data ≠ ""

/-! ### Edits -/

/-- `push_back`. -/
def push (tree : PTree) (key : String) (child : PTree) : PTree :=
  .node tree.data (tree.children ++ [(key, child)])

def replaceFirst (key : String) (child : PTree) : List (String × PTree) → List (String × PTree)
  | [] => []
  | entry :: rest =>
    if entry.1 = key then (key, child) :: rest else entry :: replaceFirst key child rest

/-- `put_child` for a path of one key. -/
def putChild (tree : PTree) (key : String) (child : PTree) : PTree :=
  if (tree.child? key).isSome then .node tree.data (replaceFirst key child tree.children)
  else tree.push key child

variable {tree child : PTree} {key other : String}

@[simp] lemma children_node {data : String} {children : List (String × PTree)} :
    (PTree.node data children).children = children := rfl

@[simp] lemma data_node {data : String} {children : List (String × PTree)} :
    (PTree.node data children).data = data := rfl

@[simp] lemma push_data : (tree.push key child).data = tree.data := rfl

@[simp] lemma putChild_data : (tree.putChild key child).data = tree.data := by
  unfold putChild
  split <;> rfl

@[simp] lemma child?_empty : empty.child? key = none := rfl

lemma child?_eq_none : tree.child? key = none ↔ ∀ entry ∈ tree.children, entry.1 ≠ key := by
  simp [child?, List.find?_eq_none]

lemma child?_push : (tree.push key child).child? other =
      (tree.child? other).or (if key = other then some child else none) := by
  simp only [push, child?, children_node, find?_append, find?_singleton]
  cases tree.children.find? (·.1 = other) <;> by_cases key = other <;> simp_all

variable {children : List (String × PTree)}

lemma find?_replaceFirst (h : (children.find? (·.1 = key)).isSome) :
    (replaceFirst key child children).find? (·.1 = key) = some (key, child) := by
  induction children with
  | nil => simp at h
  | cons entry rest ih =>
    by_cases hkey : entry.1 = key
    · simp [replaceFirst, hkey]
    · rw [find?_cons_of_neg (by simpa using hkey)] at h
      rw [replaceFirst, if_neg hkey, find?_cons_of_neg (by simpa using hkey), ih h]

lemma find?_replaceFirst_of_ne (hne : other ≠ key) :
    (replaceFirst key child children).find? (·.1 = other) = children.find? (·.1 = other) := by
  induction children with
  | nil => rfl
  | cons entry rest ih =>
    unfold replaceFirst
    split
    · rename_i hkey
      rw [find?_cons_of_neg (by simpa using hne.symm),
        find?_cons_of_neg (by simpa [hkey] using hne.symm)]
    · rw [find?_cons, find?_cons, ih]

lemma child?_putChild (hne : other ≠ key) :
    (tree.putChild key child).child? other = tree.child? other := by
  unfold putChild
  split
  · rw [child?, children_node, find?_replaceFirst_of_ne hne, child?]
  · rw [child?_push, if_neg hne.symm, Option.or_none]

@[simp] lemma child?_putChild_same : (tree.putChild key child).child? key = some child := by
  unfold putChild
  split
  · rename_i h
    rw [child?, Option.isSome_map] at h
    rw [child?, children_node, find?_replaceFirst h]
    rfl
  · rename_i h
    rw [child?_push, Option.not_isSome_iff_eq_none.1 h]
    simp

lemma count_push :
    (tree.push key child).count other = tree.count other + if key = other then 1 else 0 := by
  simp [push, count, countP_append, countP_singleton]

lemma count_eq_zero : tree.count key = 0 ↔ tree.child? key = none := by
  simp [count, countP_eq_zero, child?_eq_none]

lemma object_iff :
    tree.object ↔ tree.data = "" ∧ ∀ entry ∈ tree.children, entry.1 ≠ "" ∧ tree.count entry.1 = 1 := by
  simp [object]

lemma object_push (h : tree.object) (hkey : key ≠ "") (hnew : tree.child? key = none) :
    (tree.push key child).object := by
  rw [object_iff] at h ⊢
  refine ⟨h.1, fun entry hentry => ?_⟩
  rw [count_push]
  obtain hentry | hentry : entry ∈ tree.children ∨ entry = (key, child) := by
    simpa [push] using hentry
  · have hne : entry.1 ≠ key := child?_eq_none.1 hnew entry hentry
    simpa [hne.symm] using h.2 entry hentry
  · subst hentry
    simpa [count_eq_zero.2 hnew] using hkey

lemma replaceFirst_keys (children : List (String × PTree)) :
    (replaceFirst key child children).map Prod.fst = children.map Prod.fst := by
  induction children with
  | nil => rfl
  | cons entry rest ih =>
    unfold replaceFirst
    split
    · simp [*]
    · simp [ih]

lemma object_congr (tree other : PTree) (hdata : tree.data = other.data)
    (hkeys : tree.children.map Prod.fst = other.children.map Prod.fst) :
    tree.object = other.object := by
  have hcount : ∀ key, tree.count key = other.count key := by
    intro key
    have := congrArg (List.countP (· = key)) hkeys
    simpa [countP_map, Function.comp_def, count] using this
  have hall : ∀ test : String → Bool, tree.children.all (fun entry => test entry.1) =
      other.children.all (fun entry => test entry.1) := by
    intro test
    have := congrArg (List.all · test) hkeys
    simpa [all_map, Function.comp_def] using this
  simp only [object, hdata, hcount]
  rw [hall fun key => key ≠ "" && other.count key = 1]

lemma object_putChild (h : tree.object) (hkey : key ≠ "") : (tree.putChild key child).object := by
  unfold putChild
  split
  · exact (object_congr (.node _ _) tree rfl (replaceFirst_keys _)).trans h
  · rename_i hnone
    exact object_push h hkey (Option.not_isSome_iff_eq_none.1 hnone)

end PTree

/-- `ensure_root`, without what is put into the tree. -/
def rootOf (tree : PTree) : PTree := (tree.child? "root").getD .empty

@[simp] lemma rootOf_putChild {tree root : PTree} : rootOf (tree.putChild "root" root) = root := by
  simp [rootOf]

lemma rootOf_of_root {tree root : PTree} (h : tree.child? "root" = some root) :
    rootOf tree = root := by
  simp [rootOf, h]

/-- What is used of the JSON functions and the conversions of property trees. -/
structure TreeLibrary where
  /-- `read_json`, nothing when it throws -/
  readJson : String → Option PTree
  /-- `write_json`, nothing when it throws -/
  writeJson : PTree → Option String
  /-- `get_value_optional<std::int64_t>` -/
  int64 : String → Option Int
  /-- `get_value_optional<bool>` -/
  bool : String → Option Bool

namespace TreeLibrary

open PTree

variable (lib : TreeLibrary)

/-! ## The auxiliary state -/

def validScope (scope : PTree) : Bool :=
  scope.object && scope.required "path" filled &&
    scope.required "methods" fun methods =>
      methods.data = "" && methods.children.all fun (key, method) => key = "" && method.filled

def validToken (token : PTree) : Bool :=
  token.object && token.required "hash" filled &&
    ["username", "refresh_token_hash", "rotation_id", "user_agent", "remote_address",
      "device_label"].all (token.optional · childless) &&
    ["created_at", "expires_at", "refresh_expires_at", "last_seen"].all
      (token.optional · fun value => value.childless && (lib.int64 value.data).isSome) &&
    token.optional "remember_me" (fun value => value.childless && (lib.bool value.data).isSome) &&
    token.optional "scopes" fun scopes =>
      scopes.data = "" && scopes.children.all fun (key, scope) => key = "" && validScope scope

def validTokens (tokens : PTree) : Bool :=
  tokens.data = "" && tokens.children.all fun (key, token) => key = "" && lib.validToken token

def validVibeshineTree (tree : PTree) : Bool :=
  tree.object && tree.required "root" fun root =>
    root.object && ["api_tokens", "session_tokens"].all (root.optional · lib.validTokens)

def tokenKeys : List String := ["api_tokens", "session_tokens"]

lemma validVibeshineTree_iff (lib : TreeLibrary) {tree : PTree} :
    lib.validVibeshineTree tree ↔ tree.object ∧ (tree.child? "root").isSome ∧
      (rootOf tree).object ∧ ∀ key ∈ tokenKeys, (rootOf tree).optional key lib.validTokens := by
  cases hroot : tree.child? "root" <;>
    simp [validVibeshineTree, PTree.required, rootOf, hroot, tokenKeys]

lemma validVibeshineTree_parts (lib : TreeLibrary) {tree : PTree}
    (h : tree = .empty ∨ lib.validVibeshineTree tree) : tree.object ∧ (rootOf tree).object ∧
      ∀ key ∈ tokenKeys, (rootOf tree).optional key lib.validTokens := by
  obtain rfl | hvalid := h
  · exact ⟨by decide, by decide, by simp [tokenKeys, rootOf, PTree.optional]⟩
  · obtain ⟨hobject, _, hroot, htokens⟩ := lib.validVibeshineTree_iff.1 hvalid
    exact ⟨hobject, hroot, htokens⟩

lemma validVibeshineTree_putTokens (lib : TreeLibrary) {tree tokens : PTree} {key : String}
    (htree : tree = .empty ∨ lib.validVibeshineTree tree) (hkey : key ∈ tokenKeys)
    (htokens : lib.validTokens tokens) :
    lib.validVibeshineTree (tree.putChild "root" ((rootOf tree).putChild key tokens)) := by
  obtain ⟨hobject, hroot, hold⟩ := lib.validVibeshineTree_parts htree
  have hkeyNe : key ≠ "" := by
    rintro rfl
    exact absurd hkey (by decide)
  refine lib.validVibeshineTree_iff.2 ⟨PTree.object_putChild hobject (by decide), by simp, ?_, ?_⟩
  · rw [rootOf_putChild]
    exact PTree.object_putChild hroot hkeyNe
  · intro other hother
    rw [rootOf_putChild]
    by_cases hsame : other = key
    · subst hsame
      simpa [PTree.optional] using htokens
    · rw [PTree.optional, PTree.child?_putChild hsame]
      exact hold other hother

end TreeLibrary

end Vibeshine.StateFile
