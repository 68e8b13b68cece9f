import Mathlib.Data.List.Basic

/-! # Pairing policy

The data-only decisions of the pairing protocol. A byte string of the protocol
text is the list of its bytes, each written as the character of that code, so
its length is the length of the list; decoded fields are bytes.
-/

namespace Vibeshine.PairingProtocol

abbrev Text := List Char

abbrev Bytes := List UInt8

def maxPendingSessions : Nat := 1

def maxUniqueIdLength : Nat := 128

def maxPairedClients : Nat := 256

def maxPairedClientNameLength : Nat := 1024

def maxPairedCertificateLength : Nat := 65536

def maxPairingHexFieldLength : Nat := 65536

def saltHexLength : Nat := 32

def pairingSecretLength : Nat := 16

variable (c : Char)

/-- `std::isspace` in the C locale. -/
def isSpace : Bool := c = ' ' || ('\t' ≤ c && c ≤ '\r')

/-- `std::isxdigit` in the C locale. -/
def isHexDigit : Bool :=
  c.isDigit || ('a' ≤ c && c ≤ 'f') || ('A' ≤ c && c ≤ 'F')

variable (value : Text)

def trim : Text :=
  ((value.dropWhile isSpace).reverse.dropWhile isSpace).reverse

def equalsIgnoreCase (left right : Text) : Bool := left.map Char.toLower = right.map Char.toLower

def isPlaceholderClientName (name : Text) : Bool := equalsIgnoreCase (trim name) "self".toList

def displayClientName (pairedName deviceName hostName : Text) : Text :=
  (([pairedName, deviceName, hostName].map trim).find? fun name =>
    !name.isEmpty && !isPlaceholderClientName name).getD "Sunshine".toList

def validUniqueId : Bool :=
  !value.isEmpty && value.length ≤ maxUniqueIdLength &&
    value.all fun c => c.isAlphanum || c = '-' || c = '_' || c = '.'

def validHexField (minimum : Nat) (maximum : Nat) : Bool :=
  minimum ≤ value.length && value.length ≤ maximum && value.length % 2 = 0 && value.all isHexDigit

/-- What the hex decoders read; letters beyond `f` count too. -/
def isConvertable : Bool :=
  c.isDigit || ('a' ≤ c && c ≤ 'z') || ('A' ≤ c && c ≤ 'Z')

def nibble : UInt8 :=
  if '0' ≤ c ∧ c ≤ '9' then c.toUInt8 - 48 else (c.toUInt8 ||| 32) - 97 + 10

def pairNibbles : Text → Bytes
  | left :: right :: rest => ((nibble left <<< 4) ||| nibble right) :: pairNibbles rest
  | _ => []

/-- `util::from_hex_vec(hex, true)`: pairs are read from the end of the text. -/
def fromHexVec (hex : Text) : Bytes :=
  let digits := hex.filter isConvertable
  pairNibbles (digits.drop (digits.length % 2))

def hexDigit (value : UInt8) : Char := "0123456789ABCDEF".toList.getD value.toNat '0'

/-- `util::hex_vec(bytes, true)`. -/
def hexVec (bytes : Bytes) : Text :=
  bytes.flatMap fun byte => [hexDigit (byte / 16), hexDigit (byte % 16)]

/-! ## Phases -/

inductive Phase where
  | none
  | getServerCert
  | clientChallenge
  | serverChallengeResponse
  | clientPairingSecret
  deriving DecidableEq

structure SessionState where
  phase : Phase
  hasCipherKey : Bool
  hasServerSecret : Bool

structure Decision where
  accepted : Bool
  nextPhase : Phase
  failureMessage : String

def accepted (nextPhase : Phase) : Decision :=
  { accepted := true, nextPhase := nextPhase, failureMessage := "" }

def rejected (nextPhase : Phase) (failureMessage : String) : Decision :=
  { accepted := false, nextPhase := nextPhase, failureMessage := failureMessage }

def admitPendingSession (uniqueId clientCertificateHex saltHex : Text) (pendingSessions : Nat)
    (replacingExisting sameIdentity : Bool) : Option String :=
  if !validUniqueId uniqueId then some "Invalid uniqueid"
  else if !validHexField clientCertificateHex 2 maxPairingHexFieldLength then
    some "Invalid client certificate"
  else if !validHexField saltHex saltHexLength 128 then some "Invalid pairing salt"
  else if maxPendingSessions ≤ pendingSessions && !(replacingExisting && sameIdentity) then
    some "Too many pending pairing sessions"
  else none

def beginGetServerCertificate (state : SessionState) (saltSize : Nat) : Decision :=
  if state.phase ≠ .none then rejected state.phase "Out of order call to getservercert"
  else if saltSize < saltHexLength then rejected .getServerCert "Salt too short"
  else accepted .getServerCert

def beginClientChallenge (state : SessionState) : Decision :=
  if state.phase ≠ .getServerCert then rejected state.phase "Out of order call to clientchallenge"
  else if !state.hasCipherKey then rejected .clientChallenge "Cipher key not set"
  else accepted .clientChallenge

def beginServerChallengeResponse (state : SessionState) : Decision :=
  if state.phase ≠ .clientChallenge then
    rejected state.phase "Out of order call to serverchallengeresp"
  else if !state.hasCipherKey || !state.hasServerSecret then
    rejected .serverChallengeResponse "Cipher key or serversecret not set"
  else accepted .serverChallengeResponse

def beginClientPairingSecret (state : SessionState) (payloadSize : Nat) : Decision :=
  if state.phase ≠ .serverChallengeResponse then
    rejected state.phase "Out of order call to clientpairingsecret"
  else if payloadSize ≤ pairingSecretLength then
    rejected .clientPairingSecret "Client pairing secret too short"
  else accepted .clientPairingSecret

def decideClientPairingSecret (state : SessionState)
    (certificateValid hashMatches signatureValid : Bool) : Decision :=
  if state.phase ≠ .clientPairingSecret then
    rejected state.phase "Out of order call to clientpairingsecret"
  else if !certificateValid then rejected .clientPairingSecret "Invalid client certificate"
  else if !hashMatches || !signatureValid then rejected .clientPairingSecret ""
  else accepted .clientPairingSecret

section Decisions

variable {state : SessionState}

lemma beginGetServerCertificate_accepted {saltSize : Nat}
    (h : (beginGetServerCertificate state saltSize).accepted = true) :
    state.phase = .none ∧ (beginGetServerCertificate state saltSize).nextPhase = .getServerCert := by
  unfold beginGetServerCertificate at h ⊢
  split_ifs at h ⊢ with hphase hsalt
  · cases h
  · cases h
  · exact ⟨not_not.mp hphase, rfl⟩

lemma beginClientChallenge_accepted (h : (beginClientChallenge state).accepted = true) :
    state.phase = .getServerCert ∧ (beginClientChallenge state).nextPhase = .clientChallenge := by
  unfold beginClientChallenge at h ⊢
  split_ifs at h ⊢ with hphase hkey
  · cases h
  · cases h
  · exact ⟨not_not.mp hphase, rfl⟩

lemma beginServerChallengeResponse_accepted
    (h : (beginServerChallengeResponse state).accepted = true) : state.phase = .clientChallenge ∧
      (beginServerChallengeResponse state).nextPhase = .serverChallengeResponse := by
  unfold beginServerChallengeResponse at h ⊢
  split_ifs at h ⊢ with hphase hkey
  · cases h
  · cases h
  · exact ⟨not_not.mp hphase, rfl⟩

lemma beginClientPairingSecret_accepted {payloadSize : Nat}
    (h : (beginClientPairingSecret state payloadSize).accepted = true) :
    state.phase = .serverChallengeResponse ∧
      (beginClientPairingSecret state payloadSize).nextPhase = .clientPairingSecret := by
  unfold beginClientPairingSecret at h ⊢
  split_ifs at h ⊢ with hphase hsize
  · cases h
  · cases h
  · exact ⟨not_not.mp hphase, rfl⟩

lemma decideClientPairingSecret_accepted {certificateValid hashMatches signatureValid : Bool}
    (h : (decideClientPairingSecret state certificateValid hashMatches signatureValid).accepted =
      true) : certificateValid = true ∧ hashMatches = true ∧ signatureValid = true := by
  unfold decideClientPairingSecret at h
  split_ifs at h with hphase hcertificate hchecks
  · cases h
  · cases h
  · cases h
  · simpa using And.intro (by simpa using hcertificate) (by simpa using hchecks)

end Decisions

lemma admitPendingSession_none {uniqueId certificate salt : Text} {pending : Nat}
    {replacing same : Bool}
    (h : admitPendingSession uniqueId certificate salt pending replacing same = none) :
    validUniqueId uniqueId = true ∧ validHexField certificate 2 maxPairingHexFieldLength = true ∧
      validHexField salt saltHexLength 128 = true ∧
      (pending < maxPendingSessions ∨ (replacing = true ∧ same = true)) := by
  unfold admitPendingSession at h
  split_ifs at h with hid hcertificate hsalt hpend
  refine ⟨by simpa using hid, by simpa using hcertificate, by simpa using hsalt, ?_⟩
  by_cases hless : pending < maxPendingSessions
  · exact .inl hless
  · exact .inr (by simpa [Nat.not_lt.mp hless] using hpend)

/-! ## Paired clients -/

structure PairedClientRecord where
  uuid : Text
  certificateIdentity : Bytes
  enabled : Bool

def validPairedClientUuid : Bool :=
  value.length = 36 && value.zipIdx.all fun (c, index) =>
    if index ∈ [8, 13, 18, 23] then c = '-' else isHexDigit c

variable (clients : List PairedClientRecord)

def pairedClientStateValid : Bool :=
  clients.length ≤ maxPairedClients &&
    (clients.all fun client =>
      validPairedClientUuid client.uuid && !client.certificateIdentity.isEmpty &&
        client.certificateIdentity.length ≤ maxPairedCertificateLength) &&
    (clients.map (·.uuid)).Nodup && (clients.map (·.certificateIdentity)).Nodup

inductive PairedClientAdmission where
  | append
  | reauthorize (index : Nat)
  | reject
  deriving DecidableEq

def admitPairedClient (presented : Bytes) : PairedClientAdmission :=
  if !pairedClientStateValid clients || presented.isEmpty ||
      maxPairedCertificateLength < presented.length then .reject
  else
    match clients.findIdx? fun client => client.certificateIdentity = presented with
    | some index => .reauthorize index
    | none => if maxPairedClients ≤ clients.length then .reject else .append

end Vibeshine.PairingProtocol
