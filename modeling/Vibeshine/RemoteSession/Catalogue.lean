import Std.Data.String.ToInt
import Mathlib

/-! # The catalogue of a remote session

The fixed controls, the contextual identity of the running game, and the catalogue that a
caller is shown.
-/

namespace Vibeshine.RemoteSession

open List

inductive Control where
  | none | resume | disconnectMonitor | disconnectInput | terminate | monitor | input | runningGame
  deriving DecidableEq

inductive Role where
  | none | input | monitor | game
  deriving DecidableEq

structure App where
  id : Int := 0
  uuid : String := ""
  title : String := ""
  synthetic : Bool := false
  monitorProfile : Bool := false
  idAliases : List String := []
  catalogueVisible : Bool := true
  deriving DecidableEq

structure Game where
  running : Bool := false
  ownerUuid : String := ""
  app : App := {}

structure Caller where
  uuid : String
  paired : Bool

structure Projection where
  free : Bool := true
  currentGame : Int := 0
  catalogue : List App := []
  deriving DecidableEq

def resumeId : Int := 2147483501
def disconnectMonitorId : Int := 2147483502
def disconnectInputId : Int := 2147483503
def terminateId : Int := 2147483504
def monitorId : Int := 2147483505
def inputId : Int := 2147483506
def runningGameId : Int := 2147483507
def secondaryResumeId : Int := 2147483511
def secondaryTerminateId : Int := 2147483514
def secondaryMonitorId : Int := 2147483515
def secondaryInputId : Int := 2147483516

structure ControlIdentity where
  control : Control
  primary : Int
  secondary : Int
  legacy : Int
  uuid : String

def controlIdentities : List ControlIdentity :=
  [⟨.resume, resumeId, secondaryResumeId, 2147483601, "9a1c5a25-58fe-40e0-b9aa-7d3f00000001"⟩,
    ⟨.disconnectMonitor, disconnectMonitorId, 0, 2147483602,
      "9a1c5a25-58fe-40e0-b9aa-7d3f00000002"⟩,
    ⟨.disconnectInput, disconnectInputId, 0, 2147483603, "9a1c5a25-58fe-40e0-b9aa-7d3f00000003"⟩,
    ⟨.terminate, terminateId, secondaryTerminateId, 2147483604,
      "9a1c5a25-58fe-40e0-b9aa-7d3f00000004"⟩,
    ⟨.monitor, monitorId, secondaryMonitorId, 2147483605, "9a1c5a25-58fe-40e0-b9aa-7d3f00000005"⟩,
    ⟨.input, inputId, secondaryInputId, 2147483606, "9a1c5a25-58fe-40e0-b9aa-7d3f00000006"⟩,
    ⟨.runningGame, runningGameId, 0, 0, "9a1c5a25-58fe-40e0-b9aa-7d3f00000007"⟩]

def ControlIdentity.numbers (identity : ControlIdentity) : List Int :=
  [identity.primary, identity.secondary, identity.legacy]

/-- `identify` without a context. -/
def identifyFixed (id : Int) (uuid : String) : Control :=
  match controlIdentities.find? fun identity => 0 < id && identity.numbers.contains id with
  | some identity => identity.control
  | none =>
    match controlIdentities.find? (uuid == ·.uuid) with
    | some identity => identity.control
    | none => .none

def configuredAppId (id : Int) : Bool := 0 < id && identifyFixed id "" == .none

def configuredIdentity (id : Int) (configured : List App) : Bool :=
  configured.any fun app => app.id == id || app.idAliases.contains (toString id)

def positiveIdMask : Nat := 0x7fffffff

def identitySalt : Nat := 0x40000000

def occupied (source : Nat) (configured : List App) (candidate : Nat) : Bool :=
  candidate == source || !configuredAppId candidate || configuredIdentity candidate configured

def probe (source : Nat) (configured : List App) : Nat → Nat → Option Nat
  | 0, _ => none
  | fuel + 1, candidate =>
    if occupied source configured candidate then
      probe source configured fuel (if candidate = positiveIdMask then 1 else candidate + 1)
    else some candidate

variable (fuel : Nat)

def syntheticRunningGameId (appId : Int) (configured : List App) : Option Int :=
  let source := (appId % 2 ^ 32).toNat &&& positiveIdMask
  let candidate := (source ^^^ identitySalt) &&& positiveIdMask
  (probe source configured fuel candidate).map fun candidate => (candidate : Int)

/-- `identify` within the configured applications. -/
def identify (id : Int) (uuid : String) (runningAppId : Int)
    (configured : List App) : Option Control :=
  let control := identifyFixed id uuid
  if control ≠ .none then some control
  else if !uuid.isEmpty || configuredIdentity id configured then some .none
  else if 0 < runningAppId then
    (syntheticRunningGameId fuel runningAppId configured).map fun runningId =>
      if id = runningId then .runningGame else .none
  else some .none

def syntheticUuid : Control → String
  | .none => ""
  | .resume => "9a1c5a25-58fe-40e0-b9aa-7d3f00000001"
  | .disconnectMonitor => "9a1c5a25-58fe-40e0-b9aa-7d3f00000002"
  | .disconnectInput => "9a1c5a25-58fe-40e0-b9aa-7d3f00000003"
  | .terminate => "9a1c5a25-58fe-40e0-b9aa-7d3f00000004"
  | .monitor => "9a1c5a25-58fe-40e0-b9aa-7d3f00000005"
  | .input => "9a1c5a25-58fe-40e0-b9aa-7d3f00000006"
  | .runningGame => "9a1c5a25-58fe-40e0-b9aa-7d3f00000007"

def control (control : Control) (id : Int) (title : String) : App :=
  { id, uuid := syntheticUuid control, title, synthetic := true }

def synthetic : Control → App
  | .resume => control .resume resumeId "Resume"
  | .disconnectMonitor => control .disconnectMonitor disconnectMonitorId "Disconnect Monitor"
  | .disconnectInput => control .disconnectInput disconnectInputId "Disconnect Input"
  | .terminate => control .terminate terminateId "Terminate"
  | .monitor => control .monitor monitorId "Remote Monitor"
  | .input => control .input inputId "Remote Input"
  | _ => {}

def prioritizedSecondaryControl (control : Control) : App :=
  let app := synthetic control
  match control with
  | .monitor => { app with id := secondaryMonitorId, title := "    " ++ app.title }
  | .input => { app with id := secondaryInputId, title := "   " ++ app.title }
  | .resume => { app with id := secondaryResumeId, title := "  " ++ app.title }
  | .terminate => { app with id := secondaryTerminateId, title := " " ++ app.title }
  | _ => app

def syntheticRunningGame (game : App) (configured : List App) : Option App :=
  (syntheticRunningGameId fuel game.id configured).map fun id =>
    control .runningGame id ("     " ++ game.title)

/-! ## Visible applications -/

def equalFolded (left right : List Char) : Bool := left.map Char.toLower == right.map Char.toLower

def reservedName (name : String) : Bool :=
  let visibleName := name.toList.dropWhile fun char =>
    char == ' ' || char == '\t' || char == '\r' || char == '\n'
  ["Remote Input", "Remote Monitor", "Terminate"].any fun reserved =>
    equalFolded visibleName reserved.toList

def hexValue (value : Char) : Option Nat :=
  if '0' ≤ value ∧ value ≤ '9' then some (value.toNat - '0'.toNat)
  else if 'a' ≤ value ∧ value ≤ 'f' then some (value.toNat - 'a'.toNat + 10)
  else if 'A' ≤ value ∧ value ≤ 'F' then some (value.toNat - 'A'.toNat + 10)
  else none

/-- The loop of `parse_raw` over pairs of digits. -/
def rawBytes : List Char → Option (List Nat)
  | [] => some []
  | [value] => if value = '-' then some [] else none
  | high :: low :: rest =>
    if high = '-' then rawBytes (low :: rest)
    else do
      let first ← hexValue high
      let second ← hexValue low
      let bytes ← rawBytes rest
      some ((first * 16 + second) :: bytes)

/-- `uuid_t::parse_raw`, without a result where it throws. -/
def parseRaw (uuid : String) : Option (List Nat) :=
  let chars := uuid.toList
  if chars.length ≠ 36 ∨ [8, 13, 18, 23].any (fun index => chars[index]? ≠ some '-') then none
  else (rawBytes chars).bind fun bytes => if bytes.length = 16 then some bytes else none

def monitorProfileUuidError (uuid : String) (configuredUuids : List String) : String :=
  match parseRaw uuid with
  | none => "Remote Monitor profile requires a valid literal UUID."
  | some bytes =>
    if bytes.all (· == 0) then "Remote Monitor profile requires a non-nil UUID."
    else if controlIdentities.any fun identity => equalFolded uuid.toList identity.uuid.toList then
      "Remote Monitor profile UUID is reserved for a builtin control."
    else if 1 < configuredUuids.countP fun other => equalFolded uuid.toList other.toList then
      "Remote Monitor profile UUID conflicts with another configured application."
    else ""

/-- Whether `project` lists a configured application. -/
def visible (configured : List App) (app : App) : Bool :=
  if app.monitorProfile && !(monitorProfileUuidError app.uuid (configured.map (·.uuid))).isEmpty then
    false
  else
    let control := identifyFixed 0 app.uuid
    app.catalogueVisible && control != .input && control != .monitor &&
      (app.monitorProfile || !reservedName app.title)

def ownsGame (caller : Caller) (game : Game) : Bool :=
  game.running && caller.paired && caller.uuid == game.ownerUuid

/-- `project`, for the role of the owner. -/
def project (caller : Caller) (game : Game) (role : Role) (configured : List App)
    (remoteSessionsActive : Bool) : Option Projection :=
  let visibleConfigured := configured.filter (visible configured)
  if role = .monitor then
    some { catalogue := [synthetic .resume, synthetic .disconnectMonitor] }
  else if !game.running && !remoteSessionsActive && role = .none then
    some { catalogue := visibleConfigured ++ [synthetic .input, synthetic .monitor] }
  else if ownsGame caller game then
    some
      { free := false
        currentGame := game.app.id
        catalogue := visibleConfigured ++ [synthetic .input, synthetic .monitor] }
  else if game.running then
    (syntheticRunningGame fuel game.app configured).map fun running =>
      { catalogue :=
          [running, prioritizedSecondaryControl .resume, prioritizedSecondaryControl .terminate] ++
            visibleConfigured ++
            [prioritizedSecondaryControl .input, prioritizedSecondaryControl .monitor] }
  else some { catalogue := visibleConfigured ++ [synthetic .input, synthetic .monitor] }

/-! ## The probe ends -/

section

variable {configured : List App} {source : Nat}

def controlNumbers : List Int := controlIdentities.flatMap ControlIdentity.numbers

lemma configuredAppId_iff {id : Int} :
    configuredAppId id = true ↔ 0 < id ∧ id ∉ controlNumbers := by
  have huuid : controlIdentities.find? ("" == ·.uuid) = none := by decide
  unfold configuredAppId identifyFixed
  rw [huuid, Bool.and_eq_true, decide_eq_true_eq]
  apply and_congr_right
  intro hpos
  cases hfound : controlIdentities.find? fun identity =>
      0 < id && identity.numbers.contains id with
  | none =>
    refine ⟨fun _ hmem => ?_, fun _ => rfl⟩
    obtain ⟨identity, hidentity, hnumber⟩ := mem_flatMap.mp hmem
    have := List.find?_eq_none.mp hfound identity hidentity
    simp only [Bool.and_eq_true, decide_eq_true_eq, contains_iff_mem, not_and] at this
    exact this hpos hnumber
  | some identity =>
    have hmem := mem_of_find?_eq_some hfound
    have hnumber := find?_some hfound
    simp only [Bool.and_eq_true, decide_eq_true_eq, contains_iff_mem] at hnumber
    have hcontrol : ∀ identity ∈ controlIdentities, (identity.control == .none) = false := by
      decide
    refine ⟨fun hnone => ?_, fun hfree => ?_⟩
    · rw [hcontrol identity hmem] at hnone
      cases hnone
    · exact absurd (mem_flatMap.mpr ⟨identity, hmem, hnumber.2⟩) hfree

lemma configuredIdentity_iff {id : Int} : configuredIdentity id configured = true ↔
      ∃ app ∈ configured, app.id = id ∨ toString id ∈ app.idAliases := by
  simp [configuredIdentity, any_eq_true]

lemma occupied_eq_false {candidate : Nat} : occupied source configured candidate = false ↔
    candidate ≠ source ∧ configuredAppId candidate = true ∧
      configuredIdentity candidate configured = false := by
  simp [occupied, and_assoc]

def occupiedSpellings (source : Nat) (configured : List App) : List String :=
  toString (source : Int) :: (controlNumbers.filter (· ≠ 0)).map toString ++
    configured.map (fun app => toString app.id) ++ configured.flatMap (·.idAliases)

lemma mem_occupiedSpellings {candidate : Nat} (hpos : 0 < candidate)
    (h : occupied source configured candidate = true) :
    toString (candidate : Int) ∈ occupiedSpellings source configured := by
  unfold occupiedSpellings
  simp only [mem_append, mem_cons]
  by_cases hsource : candidate = source
  · rw [hsource]
    exact .inl (.inl (.inl rfl))
  by_cases hcontrol : configuredAppId candidate = true
  · have hconfigured : configuredIdentity candidate configured = true := by
      by_contra hfree
      rw [Bool.not_eq_true] at hfree
      rw [occupied_eq_false.mpr ⟨hsource, hcontrol, hfree⟩] at h
      cases h
    obtain ⟨app, hmem, hid | halias⟩ := configuredIdentity_iff.mp hconfigured
    · exact .inl (.inr (mem_map.mpr ⟨app, hmem, by rw [hid]⟩))
    · exact .inr (mem_flatMap.mpr ⟨app, hmem, halias⟩)
  · rw [configuredAppId_iff, not_and, not_not] at hcontrol
    refine .inl (.inl (.inr (mem_map.mpr ⟨candidate, mem_filter.mpr
      ⟨hcontrol (by omega), ?_⟩, rfl⟩)))
    simp
    omega

lemma length_occupiedSpellings : (occupiedSpellings source configured).length =
    configured.length + (configured.flatMap (·.idAliases)).length + 18 := by
  have hcontrols : (controlNumbers.filter (· ≠ 0)).length = 17 := by decide
  unfold occupiedSpellings
  simp only [cons_append, length_cons, length_append, length_map, hcontrols]
  omega

lemma exists_free
    (hroom : configured.length + (configured.flatMap (·.idAliases)).length + 18 < positiveIdMask) :
    ∃ free, 1 ≤ free ∧ free ≤ positiveIdMask ∧ occupied source configured free = false := by
  by_contra hnone
  have hsubset : (List.range' 1 positiveIdMask).map (fun (candidate : Nat) => toString (candidate : Int)) ⊆
      occupiedSpellings source configured := by
    intro spelling hspelling
    obtain ⟨candidate, hcandidate, rfl⟩ := mem_map.mp hspelling
    rw [mem_range'_1] at hcandidate
    apply mem_occupiedSpellings hcandidate.1
    by_contra hfree
    rw [Bool.not_eq_true] at hfree
    exact hnone ⟨candidate, hcandidate.1, by omega, hfree⟩
  have hnodup :
      ((List.range' 1 positiveIdMask).map (fun (candidate : Nat) => toString (candidate : Int))).Nodup := by
    refine List.Nodup.map (fun first second heq => ?_) (nodup_range' ..)
    exact Int.ofNat_inj.mp (Int.repr_injective heq)
  have hlength := (subperm_of_subset hnodup hsubset).length_le
  rw [length_map, length_range', length_occupiedSpellings] at hlength
  omega

lemma probe_free {candidate fuel : Nat} (h : occupied source configured candidate = false)
    (hfuel : 0 < fuel) : probe source configured fuel candidate = some candidate := by
  cases fuel with
  | zero => cases hfuel
  | succ fuel =>
    unfold probe
    rw [h]
    rfl

lemma probe_ends {candidate free : Nat} (hcandidate : candidate ≤ positiveIdMask)
    (hpos : 1 ≤ free) (hfree : free ≤ positiveIdMask)
    (hunoccupied : occupied source configured free = false) :
    ∃ found, occupied source configured found = false ∧ found ≤ positiveIdMask ∧
      ∀ fuel, positiveIdMask < fuel → probe source configured fuel candidate = some found := by
  -- The distance to the free number, around the end.
  suffices hends : ∀ distance candidate, candidate ≤ positiveIdMask →
      (if candidate ≤ free then free - candidate else positiveIdMask - candidate + free) = distance →
      ∃ found, occupied source configured found = false ∧ found ≤ positiveIdMask ∧
        ∀ fuel, distance < fuel → probe source configured fuel candidate = some found by
    obtain ⟨found, hfound, hle, hprobe⟩ := hends _ candidate hcandidate rfl
    refine ⟨found, hfound, hle, fun fuel hfuel => hprobe fuel ?_⟩
    split <;> omega
  intro distance
  induction distance with
  | zero =>
    intro candidate hle hdistance
    have heq : candidate = free := by
      split at hdistance <;> omega
    subst heq
    exact ⟨candidate, hunoccupied, hle, fun fuel hfuel => probe_free hunoccupied hfuel⟩
  | succ distance ih =>
    intro candidate hle hdistance
    cases hoccupied : occupied source configured candidate with
    | false =>
      exact ⟨candidate, hoccupied, hle, fun fuel hfuel =>
        probe_free hoccupied (Nat.zero_lt_of_lt hfuel)⟩
    | true =>
      -- The successor is one step closer, also where it starts over at one.
      have hnext : (if candidate = positiveIdMask then 1 else candidate + 1) ≤ positiveIdMask ∧
          (if (if candidate = positiveIdMask then 1 else candidate + 1) ≤ free then
            free - (if candidate = positiveIdMask then 1 else candidate + 1)
          else positiveIdMask - (if candidate = positiveIdMask then 1 else candidate + 1) +
            free) = distance := by
        by_cases hend : candidate = positiveIdMask
        · rw [if_pos hend, if_pos hpos]
          split at hdistance <;> omega
        · rw [if_neg hend]
          refine ⟨by omega, ?_⟩
          split at hdistance <;> split <;> omega
      obtain ⟨found, hfound, hbound, hprobe⟩ := ih _ hnext.1 hnext.2
      refine ⟨found, hfound, hbound, fun fuel hfuel => ?_⟩
      cases fuel with
      | zero => cases hfuel
      | succ fuel =>
        unfold probe
        rw [hoccupied, if_pos rfl]
        exact hprobe fuel (by omega)

end

end Vibeshine.RemoteSession
