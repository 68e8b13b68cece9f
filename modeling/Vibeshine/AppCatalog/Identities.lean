import Vibeshine.Library.KeyedMap

/-! # The identities of the applications

Every application has a numeric id, and an application with a uuid keeps its former ids as aliases.
A refresh of the catalog assigns the ids one after the other and filters the aliases of all
applications at the end. The checksum and the ids of the controls are parameters; the search for a
free id ends after `fuel` candidates, or not at all.
-/

namespace Vibeshine.AppCatalog

open Library

structure AppIdentity where
  name : String
  uuid : String
  legacyImageIdentity : String
  artVersion : String
  id : String := ""
  aliases : List String := []
  deriving DecidableEq

structure AliasState where
  currentId : String
  coverFingerprint : String
  aliases : Finset String
  deriving DecidableEq

/-- The CRC-32 of a text as a signed number, and the ids that are no control. -/
structure Numbering where
  checksum : String → Int
  configuredAppId : Nat → Bool

section

variable (num : Numbering)

def numericId (parts : List String) (index : Option Int) : String :=
  toString (num.checksum (String.join parts ++ (index.map toString).getD "")).natAbs

def usableConfiguredId (id : String) : Bool :=
  let value := Nat.ofDigitChars 10 id.toList 0
  decide (0 < value ∧ value < 2 ^ 31) && id.toList == Nat.toDigits 10 value &&
    num.configuredAppId value

def unavailableId (id : String) (occupied : Finset String) : Bool :=
  !usableConfiguredId num id || decide (id ∈ occupied)

variable (app : AppIdentity) (index : Int)

def collisionId (attempt : Nat) : String :=
  numericId num [app.name, "\n", app.uuid, "\n", app.legacyImageIdentity, "\n", app.artVersion,
    "\ncollision\n", toString index, "\n", toString (attempt % 2 ^ 64)] none

/-- The loop of `available_id`. -/
def searchId (app : AppIdentity) (index : Int) (occupied : Finset String) :
    Nat → Nat → String → Option String
  | 0, _, _ => none
  | fuel + 1, attempt, preferred =>
    if unavailableId num preferred occupied then
      searchId app index occupied fuel (attempt + 1) (collisionId num app index attempt)
    else some preferred

variable (fuel : Nat)

def availableId (preferred : String) (app : AppIdentity) (index : Int)
    (occupied : Finset String) : Option String :=
  searchId num app index occupied fuel 0 preferred

def calculateIds : String × String :=
  let parts :=
    if app.uuid ≠ "" then [app.uuid]
    else if app.legacyImageIdentity ≠ "" then [app.name, app.legacyImageIdentity]
    else [app.name]
  (numericId num parts none, numericId num parts (some index))

def calculateVersionedIds : String × String :=
  let parts := [app.uuid, "\n", app.artVersion]
  (numericId num parts none, numericId num parts (some index))

def preferredId (occupied : Finset String) (first second : String) : String :=
  if unavailableId num first occupied then second else first

def AliasState.remember (state : AliasState) (formerId : String) : AliasState :=
  if usableConfiguredId num formerId ∧ formerId ≠ state.currentId then
    { state with aliases := insert formerId state.aliases }
  else state

/-! ## Assigning the ids -/

/-- What an assignment leaves for the next one. -/
structure Pass where
  occupied : Finset String := ∅
  persisted : KeyedMap String AliasState
  active : Finset String := ∅
  changed : Bool := false
  deriving DecidableEq

def restoredState (legacy : String) (persisted : Option AliasState) : AliasState × Bool :=
  let state := persisted.getD ⟨legacy, app.artVersion, ∅⟩
  let changed := persisted.isNone || state.currentId.isEmpty || state.coverFingerprint.isEmpty
  ({ state with
      currentId := if state.currentId.isEmpty then legacy else state.currentId
      coverFingerprint :=
        if state.coverFingerprint.isEmpty then app.artVersion else state.coverFingerprint },
    changed)

def versionedState (app : AppIdentity) (index : Int) (occupied : Finset String)
    (state : AliasState) : Option (AliasState × Bool) :=
  let legacy := (calculateIds num app index).1
  if state.coverFingerprint ≠ app.artVersion ∨
      (app.artVersion ≠ "" ∧ state.currentId = legacy) then do
    let versioned := calculateVersionedIds num app index
    let id ← availableId num fuel (preferredId num occupied versioned.1 versioned.2) app index
      occupied
    let next := { state with currentId := id, coverFingerprint := app.artVersion }
    some ((next.remember num state.currentId).remember num legacy, true)
  else some (state, false)

def releasedState (app : AppIdentity) (index : Int) (occupied : Finset String)
    (state : AliasState) : Option (AliasState × Bool) :=
  if unavailableId num state.currentId occupied then do
    let state := state.remember num state.currentId
    let versioned := calculateVersionedIds num app index
    let id ← availableId num fuel
      (preferredId num occupied versioned.2 (calculateIds num app index).2) app index occupied
    some ({ state with currentId := id }, true)
  else some (state, false)

def assignCompatibleId (app : AppIdentity) (index : Int) (pass : Pass) :
    Option (AppIdentity × Pass) :=
  let legacy := calculateIds num app index
  if app.uuid = "" then do
    let id ← availableId num fuel (preferredId num pass.occupied legacy.1 legacy.2) app index
      pass.occupied
    some ({ app with id }, { pass with occupied := insert id pass.occupied })
  else do
    let (state, filled) := restoredState app legacy.1 (pass.persisted.find? app.uuid)
    let (state, versioned) ← versionedState num fuel app index pass.occupied state
    let (state, released) ← releasedState num fuel app index pass.occupied state
    some ({ app with id := state.currentId, aliases := state.aliases.sort },
      { occupied := insert state.currentId pass.occupied
        persisted := pass.persisted.assign app.uuid state
        active := insert app.uuid pass.active
        changed := pass.changed || filled || versioned || released })

def AppIdentity.recorded (aliases : String → Finset String) (app : AppIdentity) : AppIdentity :=
  if app.uuid = "" then app else { app with aliases := (aliases app.uuid).sort }

def assignAll (fuel : Nat) : Int → List AppIdentity → Pass → Option (List AppIdentity × Pass)
  | _, [], pass => some ([], pass)
  | index, app :: apps, pass => do
      let (app, pass) ← assignCompatibleId num fuel app index pass
      let (apps, pass) ← assignAll fuel (index + 1) apps pass
      some (app :: apps, pass)

def filterAliases (id : String) (currentIds : List String) (count : String → Nat) :
    (seen : List String) → List String → List String × Bool
  | _, [] => ([], false)
  | seen, formerId :: rest =>
    if !usableConfiguredId num formerId || formerId == id then
      ((filterAliases id currentIds count seen rest).1, true)
    else if seen.contains formerId then
      ((filterAliases id currentIds count seen rest).1, true)
    else if currentIds.contains formerId || decide (1 < count formerId) then
      ((filterAliases id currentIds count (formerId :: seen) rest).1, true)
    else
      let kept := filterAliases id currentIds count (formerId :: seen) rest
      (formerId :: kept.1, kept.2)

variable (apps : List AppIdentity)

def keptAliases (app : AppIdentity) : List String × Bool :=
  filterAliases num app.id (apps.map (·.id))
    (fun formerId => (apps.flatMap (·.aliases)).count formerId) [] app.aliases

def filteredApp (app : AppIdentity) : AppIdentity :=
  if app.uuid = "" then app else { app with aliases := (keptAliases num apps app).1 }

def AppIdentity.state : AliasState :=
  ⟨app.id, app.artVersion, app.aliases.toFinset⟩

def recordApp (persisted : KeyedMap String AliasState) (app : AppIdentity) :
    KeyedMap String AliasState :=
  if app.uuid = "" then persisted else persisted.assign app.uuid app.state

def pruneAndFilterAliases (pass : Pass) : List AppIdentity × KeyedMap String AliasState × Bool :=
  let filtered := apps.map (filteredApp num apps)
  let pruned := pass.persisted.filter fun entry => decide (entry.1 ∈ pass.active)
  let changed := pass.changed ||
    pass.persisted.entries.any (fun entry => decide (entry.1 ∉ pass.active)) ||
    apps.any fun app => app.uuid ≠ "" && (keptAliases num apps app).2
  (filtered, filtered.foldl recordApp pruned, changed)

def refresh (apps : List AppIdentity) (persisted : KeyedMap String AliasState) :
    Option (List AppIdentity × KeyedMap String AliasState × Bool) := do
  let (apps, pass) ← assignAll num fuel 0 apps { persisted }
  some (pruneAndFilterAliases num apps pass)

end

/-! ## Resolving an id -/

def isSpace (ch : Char) : Bool := ch = ' ' || ('\t' ≤ ch && ch ≤ '\r')

def trim (text : String) : String :=
  String.ofList (((text.toList.dropWhile isSpace).reverse.dropWhile isSpace).reverse)

def aliasMatch (id : String) : Nat → Option Nat → List AppIdentity → Option Nat
  | _, found, [] => found
  | i, found, app :: apps =>
    if app.aliases.contains id then
      if found.isSome then none else aliasMatch id (i + 1) (some i) apps
    else aliasMatch id (i + 1) found apps

def resolveApp (apps : List AppIdentity) (appId appUuid : String) : Option Nat :=
  let byUuid := if appUuid = "" then none else apps.findIdx? (·.uuid = appUuid)
  if byUuid.isSome then byUuid
  else
    let id := trim appId
    if id = "" ∨ id = "0" then none
    else (apps.findIdx? (·.id = id)).or (aliasMatch id 0 none apps)

end Vibeshine.AppCatalog
