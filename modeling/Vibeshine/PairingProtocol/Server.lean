import Vibeshine.Library.System
import Vibeshine.PairingProtocol.Policy

/-! # The pairing endpoints

The pending sessions, the paired clients and the handlers of `pair`, `unpair`
and `pin`. Every session carries a serial number and every accepted protocol
step is written to a log; the code has neither, and no handler reads them.
Cryptography is a parameter.
-/

namespace Vibeshine.PairingProtocol

open Library

structure Host (X509 : Type) where
  /-- The `PIN_STDIN` flag. -/
  pinStdin : Bool
  /-- The `FRESH_STATE` flag. -/
  freshState : Bool
  servercert : Bytes
  /-- `crypto::signature(crypto::x509(conf_intern.servercert))` -/
  serverSignature : Bytes
  genAesKey : (salt : Bytes) → (pin : Text) → Bytes
  encrypt : (key plaintext : Bytes) → Bytes
  decrypt : (key cipher : Bytes) → Bytes
  hash : Bytes → Bytes
  /-- `crypto::sign256` under `conf_intern.pkey` -/
  sign256 : Bytes → Bytes
  x509 : Bytes → Option X509
  signature : X509 → Bytes
  verify256 : X509 → (data signature : Bytes) → Bool
  /-- The DER form of a certificate. -/
  encoded : X509 → Option Bytes

structure Session where
  createdAt : Int
  uniqueId : Text
  cert : Bytes
  name : Text := []
  cipherKey : Option Bytes := none
  clienthash : Bytes := []
  serversecret : Bytes := []
  serverchallenge : Bytes := []
  /-- The connection whose `getservercert` is still unanswered. -/
  response : Option Nat := none
  salt : Text := []
  lastPhase : Phase := .none
  serial : Nat
  deriving DecidableEq

def Session.state (session : Session) : SessionState where
  phase := session.lastPhase
  hasCipherKey := session.cipherKey.isSome
  hasServerSecret := !session.serversecret.isEmpty

structure Device where
  name : Text
  cert : Bytes
  uuid : Text
  enabled : Bool
  deriving DecidableEq

/-- The response tree under `root`. -/
structure Reply where
  paired : Option Nat := none
  unpaired : Option Nat := none
  plaincert : Option Text := none
  challengeresponse : Option Text := none
  pairingsecret : Option Text := none
  statusCode : Option Nat := none
  statusMessage : Option String := none
  deriving DecidableEq

def Reply.status (reply : Reply) (code : Nat) (message : String) : Reply :=
  { reply with statusCode := some code, statusMessage := some message }

/-- Where the PIN of a session comes from: the web UI, or the console of a host
started with `PIN_STDIN`. -/
inductive Approval where
  | web (pin : Text)
  | console (pin : Text)
  deriving DecidableEq

def Approval.pin : Approval → Text
  | .web pin => pin
  | .console pin => pin

inductive Entry where
  | created (serial : Nat) (cert : Bytes)
  | approved (serial : Nat) (approval : Approval) (pending : Nat) (phase : Phase)
  | challenged (serial : Nat) (serverchallenge : Bytes)
  | hashFixed (serial : Nat) (clienthash : Bytes)
  | disclosed (serial : Nat) (pairingsecret : Text)
  | proved (serial : Nat) (secret sign : Bytes)
  | granted (serial : Nat) (device : Device)
  deriving DecidableEq

def Entry.serial : Entry → Nat
  | .created serial _ | .approved serial _ _ _ | .challenged serial _ | .hashFixed serial _
  | .disclosed serial _ | .proved serial _ _ | .granted serial _ => serial

structure State where
  sessions : List (Text × Session) := []
  devices : List Device := []
  sent : List (Nat × Reply) := []
  nextSerial : Nat := 0
  log : List Entry := []
  deriving DecidableEq

/-- The parameters found in the query of a request. -/
structure Args where
  uniqueid : Option Text := none
  phrase : Option Text := none
  clientcert : Option Text := none
  salt : Option Text := none
  clientchallenge : Option Text := none
  serverchallengeresp : Option Text := none
  clientpairingsecret : Option Text := none
  deriving DecidableEq

/-- What a request reads of its surroundings: two clock readings in
nanoseconds, the line typed at the console, the random draws, and whether the
state file is loaded and takes the write. -/
structure Surroundings where
  now : Int := 0
  createdAt : Int := 0
  typedPin : Text := []
  serversecret : Bytes := []
  serverchallenge : Bytes := []
  uuid : Text := []
  ready : Bool := true
  saved : Bool := true
  deriving DecidableEq

def pairingSessionExpiry : Int := 10 * 60 * 1000000000

namespace State

variable (s : State)

def find (uniqueId : Text) : Option Session := s.sessions.lookup uniqueId

def update (uniqueId : Text) (session : Session) : State :=
  { s with sessions := s.sessions.map fun entry =>
      if entry.1 = uniqueId then (uniqueId, session) else entry }

variable (session : Session)

def removeSession : State :=
  { s with sessions := s.sessions.filter fun entry => entry.1 ≠ session.uniqueId }

def answer (connection : Nat) (reply : Reply) : State :=
  { s with sent := s.sent ++ [(connection, reply)] }

def note (entries : List Entry) : State := { s with log := s.log ++ entries }

def closePendingPairingResponse (statusCode : Nat) (statusMessage : String) : State :=
  match session.response with
  | some connection =>
    s.answer connection (Reply.status { paired := some 0 } statusCode statusMessage)
  | none => s

def expired (now : Int) (session : Session) : Bool := pairingSessionExpiry < now - session.createdAt

def expirePairingSessions (now : Int) : State :=
  (s.sessions.filter fun entry => expired now entry.2).foldl
    (fun s entry => s.closePendingPairingResponse entry.2 408 "Pairing request expired")
    { s with sessions := s.sessions.filter fun entry => !expired now entry.2 }

def failPair (reply : Reply) (message : String) : State × Reply :=
  (s.removeSession session, Reply.status { reply with paired := some 0 } 400 message)

end State

namespace Host

variable {X509 : Type} (host : Host X509)

def exactCertificateIdentity (cert : Bytes) : Option Bytes :=
  ((host.x509 cert).bind host.encoded).filter fun identity =>
    !identity.isEmpty && identity.length ≤ maxPairedCertificateLength

def pairedClientRecord (device : Device) : Option PairedClientRecord :=
  if maxPairedClientNameLength < device.name.length || device.cert.isEmpty ||
      maxPairedCertificateLength < device.cert.length then none
  else (host.exactCertificateIdentity device.cert).map fun identity =>
    { uuid := device.uuid, certificateIdentity := identity, enabled := device.enabled }

variable (devices : List Device)

def buildPairedClientRecords : Option (List PairedClientRecord) :=
  if maxPairedClients < devices.length then none
  else (devices.mapM host.pairedClientRecord).filter pairedClientStateValid

/-- What `add_authorized_client` leaves and returns, and the record it enabled. -/
structure Addition where
  devices : List Device
  accepted : Bool
  granted : Option Device := none

variable (around : Surroundings)

def reauthorize (index : Nat) : Addition :=
  match devices[index]? with
  | none => { devices := devices, accepted := false }
  | some existing =>
    if existing.enabled then { devices := devices, accepted := true }
    else if !host.freshState && !around.saved then { devices := devices, accepted := false }
    else
      let enabled := { existing with enabled := true }
      { devices := devices.set index enabled, accepted := true, granted := some enabled }

def append (device : Device) : Addition :=
  if (host.buildPairedClientRecords (devices ++ [device])).isNone then
    { devices := devices, accepted := false }
  else if !host.freshState && !around.saved then { devices := devices, accepted := false }
  else { devices := devices ++ [device], accepted := true, granted := some device }

def addAuthorizedClient (name : Text) (cert : Bytes) : Addition :=
  match host.exactCertificateIdentity cert with
  | none => { devices := devices, accepted := false }
  | some candidate =>
    if !host.freshState && !around.ready then { devices := devices, accepted := false }
    else
      match host.buildPairedClientRecords devices with
      | none => { devices := devices, accepted := false }
      | some records =>
        match admitPairedClient records candidate with
        | .reject => { devices := devices, accepted := false }
        | .reauthorize index => host.reauthorize devices around index
        | .append =>
          host.append devices around
            { name := displayClientName name [] "Moonlight Client".toList
              cert := cert, uuid := around.uuid, enabled := true }

/-! ## Phases -/

variable (s : State) (uniqueId : Text)

def getservercert (session : Session) (approval : Approval) (reply : Reply) : State × Reply :=
  let decision := beginGetServerCertificate session.state session.salt.length
  let begun := { session with lastPhase := decision.nextPhase }
  if !decision.accepted then s.failPair begun reply decision.failureMessage
  else
    let salt := fromHexVec (session.salt.take 32)
    ((s.update uniqueId { begun with cipherKey := some (host.genAesKey salt approval.pin) }).note
        [.approved session.serial approval s.sessions.length session.lastPhase],
      { reply with
        paired := some 1, plaincert := some (hexVec host.servercert), statusCode := some 200 })

def clientchallenge (session : Session) (around : Surroundings)
    (challenge : Bytes) (reply : Reply) : State × Reply :=
  let decision := beginClientChallenge session.state
  let begun := { session with lastPhase := decision.nextPhase }
  if !decision.accepted then s.failPair begun reply decision.failureMessage
  else
    let key := session.cipherKey.getD []
    let decrypted := host.decrypt key challenge
    let hash := host.hash (decrypted ++ host.serverSignature ++ around.serversecret)
    let encrypted := host.encrypt key (hash ++ around.serverchallenge)
    ((s.update uniqueId
        { begun with
          serversecret := around.serversecret, serverchallenge := around.serverchallenge }).note
        [.challenged session.serial around.serverchallenge],
      { reply with
        paired := some 1, challengeresponse := some (hexVec encrypted), statusCode := some 200 })

/-- The `pairingsecret` of a server secret. -/
def pairingSecret (serversecret : Bytes) : Text :=
  hexVec (serversecret ++ host.sign256 serversecret)

def serverchallengeresp (session : Session)
    (encryptedResponse : Bytes) (reply : Reply) : State × Reply :=
  let decision := beginServerChallengeResponse session.state
  let begun := { session with lastPhase := decision.nextPhase }
  if !decision.accepted then s.failPair begun reply decision.failureMessage
  else
    let decrypted := host.decrypt (session.cipherKey.getD []) encryptedResponse
    let secret := host.pairingSecret session.serversecret
    ((s.update uniqueId { begun with clienthash := decrypted }).note
        [.hashFixed session.serial decrypted, .disclosed session.serial secret],
      { reply with paired := some 1, pairingsecret := some secret, statusCode := some 200 })

variable (session : Session)

/-- The two checks of the last phase: the hash of the server challenge, the
certificate's signature and the secret, and the signature over the secret. -/
def checks (certificate : Option X509) (secret sign : Bytes) : Bool × Bool :=
  match certificate with
  | none => (false, false)
  | some certificate =>
    (host.hash (session.serverchallenge ++ host.signature certificate ++ secret) =
        session.clienthash,
      host.verify256 certificate secret sign)

def admitClient (around : Surroundings) (secret sign : Bytes) (reply : Reply) : State × Reply :=
  let addition := host.addAuthorizedClient s.devices around session.name session.cert
  let s := { s with
    devices := addition.devices
    log := s.log ++ Entry.proved session.serial secret sign ::
      addition.granted.toList.map (Entry.granted session.serial) }
  if !addition.accepted then
    s.failPair session reply "Pairing database cannot accept this client"
  else (s.removeSession session, { reply with paired := some 1, statusCode := some 200 })

def clientpairingsecret (around : Surroundings)
    (clientPairingSecret : Bytes) (reply : Reply) : State × Reply :=
  let beginDecision := beginClientPairingSecret session.state clientPairingSecret.length
  let begun := { session with lastPhase := beginDecision.nextPhase }
  if !beginDecision.accepted then s.failPair begun reply beginDecision.failureMessage
  else
    let secret := clientPairingSecret.take 16
    let sign := clientPairingSecret.drop 16
    let certificate := host.x509 session.cert
    let (sameHash, verified) := host.checks session certificate secret sign
    let decision := decideClientPairingSecret begun.state certificate.isSome sameHash verified
    let decided := { begun with lastPhase := decision.nextPhase }
    if decision.accepted then host.admitClient s decided around secret sign reply
    else if decision.failureMessage ≠ "" then
      s.failPair decided reply decision.failureMessage
    else (s.removeSession decided, { reply with paired := some 0, statusCode := some 200 })

/-! ## Endpoints -/

def phaseParameters (session : Session) (args : Args)
    (around : Surroundings) (reply : Reply) : State × Reply :=
  match args.clientchallenge with
  | some text =>
    if !validHexField text 2 maxPairingHexFieldLength then
      (s, reply.status 400 "Invalid client challenge")
    else host.clientchallenge s uniqueId session around (fromHexVec text) reply
  | none =>
    match args.serverchallengeresp with
    | some text =>
      if !validHexField text 2 maxPairingHexFieldLength then
        (s, reply.status 400 "Invalid server challenge response")
      else host.serverchallengeresp s uniqueId session (fromHexVec text) reply
    | none =>
      match args.clientpairingsecret with
      | some text =>
        if !validHexField text 34 maxPairingHexFieldLength then
          (s, reply.status 400 "Invalid client pairing secret")
        else host.clientpairingsecret s session around (fromHexVec text) reply
      | none => (s, reply.status 404 "Invalid pairing request")

def lookupSession (args : Args) (around : Surroundings) (reply : Reply) : State × Reply :=
  match s.find uniqueId with
  | none => (s, reply.status 400 "Invalid uniqueid")
  | some session => host.phaseParameters s uniqueId session args around reply

def sameIdentity (existing : Option Session) (clientCertificate : Text) : Bool :=
  match existing with
  | some session =>
    validHexField clientCertificate 2 maxPairingHexFieldLength &&
      session.cert = fromHexVec clientCertificate
  | none => false

def newSession (uniqueId clientCertificate salt : Text) (around : Surroundings) : Session where
  createdAt := around.createdAt
  uniqueId := uniqueId
  cert := fromHexVec clientCertificate
  salt := salt
  serial := s.nextSerial

variable (connection : Nat)

/-- The admitted session joins the map, to wait for its PIN; with `PIN_STDIN`
the PIN is read at once. -/
def openSession (uniqueId clientCertificate salt : Text)
    (args : Args) (around : Surroundings) : State :=
  let session := newSession s uniqueId clientCertificate salt around
  let s := { s with
    nextSerial := s.nextSerial + 1
    log := s.log ++ [Entry.created s.nextSerial session.cert] }
  if host.pinStdin then
    let s := { s with sessions := s.sessions ++ [(uniqueId, session)] }
    let result := host.getservercert s uniqueId session (.console around.typedPin) {}
    -- the id has been moved out of its variable, so the lookup is of the empty id
    let result := host.lookupSession result.1 [] args around result.2
    result.1.answer connection result.2
  else
    { s with
      sessions := s.sessions ++ [(uniqueId, { session with response := some connection })] }

/-- The `getservercert` phrase: a new pending session, which may replace one of
the same identity. -/
def beginPairing (uniqueId : Text) (args : Args) (around : Surroundings) : State :=
  let clientCertificate := args.clientcert.getD []
  let salt := args.salt.getD []
  let existing := s.find uniqueId
  match admitPendingSession uniqueId clientCertificate salt s.sessions.length existing.isSome
      (sameIdentity existing clientCertificate) with
  | some message =>
    s.answer connection (Reply.status {}
      (if message = "Too many pending pairing sessions" then 429 else 400) message)
  | none =>
    match existing with
    | some session =>
      let closed := s.closePendingPairingResponse session 409
        "Pairing request replaced by a newer request from the same client"
      let erased :=
        { closed with sessions := closed.sessions.filter fun entry => entry.1 ≠ uniqueId }
      host.openSession erased connection uniqueId clientCertificate salt args around
    | none => host.openSession s connection uniqueId clientCertificate salt args around

def pair (args : Args) (around : Surroundings) : State :=
  match args.uniqueid with
  | none => s.answer connection (Reply.status {} 400 "Missing uniqueid parameter")
  | some uniqueId =>
    if !validUniqueId uniqueId then s.answer connection (Reply.status {} 400 "Invalid uniqueid")
    else
      let s := s.expirePairingSessions around.now
      if args.phrase = some "getservercert".toList then
        host.beginPairing s connection uniqueId args around
      else if args.phrase = some "pairchallenge".toList then
        s.answer connection { paired := some 1, statusCode := some 200 }
      else
        let (s, reply) := host.lookupSession s uniqueId args around {}
        s.answer connection reply

/-- An HTTPS request of the paired client `uuid` removes that client; a request
over HTTP has none. -/
def unpair (uuid : Option Text) (around : Surroundings) : State :=
  match uuid with
  | some uuid =>
    if host.freshState || around.ready then
      let removed := s.devices.any fun device => device.uuid = uuid
      { s with devices := s.devices.filter fun device => device.uuid ≠ uuid }.answer connection
        { unpaired := some (if removed then 1 else 0), statusCode := some 200 }
    else s.answer connection { unpaired := some 0, statusCode := some 200 }
  | none => s.answer connection { unpaired := some 0, statusCode := some 200 }

def pinTarget : Option (Text × Session) :=
  match s.sessions with
  | [(uniqueId, session)] => if session.lastPhase = .none then some (uniqueId, session) else none
  | _ => none

def submitPin (session : Session) (pin name : Text) : State × Bool :=
  if session.salt.length < 32 then (s.removeSession session, false)
  else
    let (s, reply) := host.getservercert s uniqueId session (.web pin) {}
    match s.find uniqueId with
    | none => (s, false)
    | some session =>
      if !name.isEmpty && isPlaceholderClientName name then (s.removeSession session, false)
      else
        let named := { session with name := if name.isEmpty then session.name else name }
        match session.response with
        | some connection =>
          ((s.update uniqueId { named with response := none }).answer connection reply, true)
        | none => (s.removeSession named, false)

def validPin (pin : Text) : Bool := pin.length = 4 && pin.all Char.isDigit

def pin (s : State) (pin name : Text) (now : Int) : State × Bool :=
  let s := s.expirePairingSessions now
  if s.sessions.isEmpty then (s, false)
  else if !validPin pin then (s, false)
  else
    match pinTarget s with
    | none => (s, false)
    | some (uniqueId, session) => host.submitPin s uniqueId session pin name

/-! ## Runs -/

inductive Input where
  | pair (connection : Nat) (args : Args) (around : Surroundings)
  | unpair (connection : Nat) (uuid : Option Text) (around : Surroundings)
  | pin (pin name : Text) (now : Int)
  /-- Any other change of the paired clients. -/
  | administer (devices : List Device)
  deriving DecidableEq

def step : Input → State
  | .pair connection args around => host.pair s connection args around
  | .unpair connection uuid around => host.unpair s connection uuid around
  | .pin pin name now => (host.pin s pin name now).1
  | .administer devices => { s with devices := devices }

def server : System State Input where
  init := {}
  admits := fun _ _ => True
  step := host.step

end Host

end Vibeshine.PairingProtocol
