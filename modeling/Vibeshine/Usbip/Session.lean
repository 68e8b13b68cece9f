import Vibeshine.Usbip.Control
import Vibeshine.Library.Reassembly
import Vibeshine.Library.System

/-! # Sessions

The stream of one connection: the records that `feed` takes from it, the requests that wait
for `poll`, and what is written back. Times are in nanoseconds. What was consumed, answered
and unlinked is recorded beside the state.
-/

namespace Vibeshine.Usbip

open Library

inductive Call where
  | hidOutput (report : List UInt8)
  | hapticsPcm (samples : List UInt8)
  | speakerPcm (samples : List UInt8) (incarnation : Nat)
  deriving DecidableEq

/-- A consumed `CMD_UNLINK`, with the request it removed. -/
structure Unlinked where
  sequence : Nat
  victim : Nat
  removed : Option Urb
  deriving DecidableEq

/-- A session without its receive buffer. -/
structure Core where
  imported : Bool := false
  failed : Bool := false
  finished : Bool := false
  registers : Registers := {}
  transmit : List UInt8 := []
  pending : List Urb := []
  input : List UInt8 := []
  /-- The callbacks that were made. -/
  calls : List Call := []
  /-- The answers that were written, and the bytes that were taken away. -/
  answers : List Answer := []
  taken : List UInt8 := []
  /-- What was written before the first answer. -/
  greeting : List UInt8 := []
  /-- The sequence numbers of the submits that were consumed. -/
  submitted : List Nat := []
  unlinked : List Unlinked := []
  /-- A handler has read behind the data of its request. -/
  overread : Bool := false

variable (request : Urb)

def Urb.outputReport : Option (List UInt8) :=
  if request.data = [] then none else some request.data

variable (device : Device) (core : Core)

namespace Core

/-- What remains after `fail`. -/
def fail : Core := { core with failed := true, finished := true, pending := [] }

def answer (core : Core) (answer : Answer) : Core :=
  { core with
    transmit := core.transmit ++ answer.encode
    answers := core.answers ++ [answer] }

def reply (request : Urb) (status : Int) (data : List UInt8) (outLength : Nat) : Core :=
  core.answer (.submit { request := request, status := status, data := data, outLength := outLength })

def reject (request : Urb) : Core := core.reply request stall [] 0

def call (core : Core) (call : Call) : Core := { core with calls := core.calls ++ [call] }

def reads (request : Urb) (ends : List Nat) : Core :=
  { core with overread := core.overread || ends.any fun last => request.data.length < last }

/-- The queued requests that meet `cancels` are answered and dropped. -/
def cancel (cancels : Urb → Bool) : Core :=
  let answered := (core.pending.filter cancels).foldl
    (fun core request => core.reply request canceled [] 0) core
  { answered with pending := core.pending.filter fun request => !cancels request }

def hidOutput (core : Core) (device : Device) (report : Option (List UInt8)) : Core :=
  match report with
  | some report => if device.hidOutput then core.call (.hidOutput report) else core
  | none => core

/-- `control`, carried out. -/
def controlRequest (device : Device) (request : Urb) : Core :=
  let outcome := control device core.registers core.input request
  let core := ((({ core with registers := outcome.registers }.reads request [outcome.reads]).hidOutput
    device outcome.hidOutput).cancel outcome.cancels)
  match outcome.response with
  | .send data => core.reply request 0 (data.take (wLength request)) 0
  | .accept => core.reply request 0 [] request.length
  | .reject => core.reject request

def enqueue (request : Urb) : Core :=
  if 64 ≤ core.pending.length then core.reply request noMemory [] 0
  else { core with pending := core.pending ++ [request] }

/-- The clock of an isochronous lane after a request of `count` packets. -/
def advanceClock (cursor now : Int) (count : Nat) : Int :=
  (if cursor = 0 ∨ cursor < now - 50000000 then now else cursor) + count * 1000000

def startFrame (cursor : Int) : Nat :=
  (Int.tdiv (cursor - device.epoch) 1000000 % 2 ^ 32).toNat

def laneOf (outward : Bool) : Nat := if outward then 1 else 2

def audible (outward : Bool) (packet : IsoPacket) : Bool :=
  packet.length ≤ (if outward then 392 else 196) ∧ packet.length % (if outward then 8 else 4) = 0

def schedule (device : Device) (now : Int) (outward : Bool) (request : Urb) : Core :=
  let cursor := advanceClock
    (if outward then core.registers.nextAudio else core.registers.nextMic) now request.packetCount
  let registers := { core.registers with
    alternate := Function.update core.registers.alternate (laneOf outward) 1
    nextAudio := if outward then cursor else core.registers.nextAudio
    nextMic := if outward then core.registers.nextMic else cursor }
  { core with
    registers := registers
    pending := core.pending ++
      [{ request with due := cursor, startFrame := startFrame device cursor }] }

def submit (device : Device) (now : Int) (request : Urb) : Core :=
  let iso := request.isIso
  let outward : Bool := request.endpoint = 1 ∧ request.direction = 0
  let inward : Bool := request.endpoint = 2 ∧ request.direction = 1
  let lane := laneOf outward
  if request.endpoint = 0 ∧ !iso then core.controlRequest device request
  else if core.registers.configuration = 0 then core.reject request
  else if request.endpoint = 3 ∧ request.direction = 0 ∧ !iso ∧ request.length ≤ 64 then
    (core.hidOutput device request.outputReport).reply request 0 [] request.length
  else if request.endpoint = 4 ∧ request.direction = 1 ∧ !iso then
    if request.length = 0 then core.reply request 0 [] 0 else core.enqueue request
  else if (!outward ∧ !inward) ∨ !iso ∨
      (core.registers.alternateExplicit lane ∧ core.registers.alternate lane = 0) then
    core.reject request
  else if !request.packets.all (audible outward) then core.reject request
  else if 64 ≤ core.pending.length then core.reply request noMemory [] 0
  else core.schedule device now outward request

def frames (packet : IsoPacket) : List Nat :=
  (List.range ((packet.length + 7) / 8)).map fun frame => packet.offset + 8 * frame

def samples (channel : Nat) : List UInt8 :=
  request.packets.flatMap fun packet =>
    (frames packet).flatMap fun frame => (request.data.drop (frame + channel)).take 4

def samplesEnds : List Nat :=
  request.packets.flatMap fun packet => (frames packet).map (· + 8)

def completeSpeaker (device : Device) (request : Urb) : Core :=
  let haptics := samples request 4
  let speaker := samples request 0
  let core := core.reads request (samplesEnds request)
  let core := if device.hapticsPcm ∧ haptics ≠ [] then core.call (.hapticsPcm haptics) else core
  let core :=
    if device.speakerPcm ∧ speaker ≠ [] then
      core.call (.speakerPcm speaker request.speakerIncarnation)
    else core
  core.reply request 0 [] request.length

def completeMicrophone (request : Urb) : Core :=
  core.reply request 0 (zeros ((request.packets.map fun packet => min packet.length 192).sum)) 0

def completeHid (now : Int) (request : Urb) : Core :=
  let core := core.reply request 0 (core.input.take request.length) 0
  { core with registers := { core.registers with nextHid := now + 4000000 } }

def waits (now : Int) (request : Urb) : Bool :=
  if request.endpoint = 4 then now < core.registers.nextHid else now < request.due

def complete (device : Device) (now : Int) (request : Urb) : Core :=
  if request.endpoint = 4 then core.completeHid now request
  else if request.direction = 1 then core.completeMicrophone request
  else core.completeSpeaker device request

/-- The loop of `poll`, with the requests it has passed over. -/
def pollFrom (device : Device) (now : Int) : List Urb → List Urb → Core → Core
  | _, [], core => core
  | kept, request :: rest, core =>
    if core.waits now request then pollFrom device now (kept ++ [request]) rest core
    else
      let core := { core with pending := kept ++ rest }.complete device now request
      if maxBuffer < core.transmit.length then core.fail
      else pollFrom device now kept rest core

def poll (device : Device) (now : Int) : Core :=
  if core.failed ∨ core.finished then core else pollFrom device now [] core.pending core

def setInputReport (report : List UInt8) : Core :=
  if report.length = 64 ∧ byteAt report 0 = 1 then { core with input := report } else core

def takeOutput : Core :=
  { core with transmit := [], taken := core.taken ++ core.transmit }

end Core

/-! ## Records -/

variable (slot : Nat)

def busId : List UInt8 := ascii ("1-" ++ toString (slot + 1))

def opHeader (operation status : Nat) : List UInt8 :=
  write16 0x0111 ++ write16 operation ++ write32 status

def deviceRecord : List UInt8 :=
  fixedString (ascii ("/vibeshine/dualsense/" ++ toString slot)) 256 ++
    fixedString (busId slot) 32 ++ write32 1 ++ write32 (slot + 1) ++ write32 3 ++
    write16 0x054c ++ write16 0x0ce6 ++ write16 0x0100 ++ [0, 0, 0, 1, 1, 4]

/-- What `parse_one` finds at the head of the buffer. -/
inductive Record where
  | incomplete | malformed
  /-- A request for the list of devices. -/
  | list
  /-- An import of another device, and of this one. -/
  | refuse | import_
  | unlink (sequence victim : Nat)
  | submit (request : Urb) (size : Nat)
  deriving DecidableEq

def readPackets (length : Nat) : Nat → Nat → List UInt8 → Option (List IsoPacket)
  | 0, _, _ => some []
  | count + 1, done, bytes =>
    let packet : IsoPacket := { offset := read32 bytes 0, length := read32 bytes 4 }
    if packet.offset < done ∨ length < packet.offset ∨ length - packet.offset < packet.length then
      none
    else (readPackets length count (packet.offset + packet.length) (bytes.drop 16)).map (packet :: ·)

variable (wire : List UInt8)

def readHeader : Urb :=
  { sequence := read32 wire 4
    direction := read32 wire 12
    endpoint := read32 wire 16
    length := read32 wire 24
    startFrame := read32 wire 28
    packetCount := read32 wire 32
    setup := (wire.drop 40).take 8
    packets := []
    data := [] }

def Urb.dataSize : Nat := if request.direction = 0 then request.length else 0

def Urb.messageSize : Nat :=
  headerSize + request.dataSize + Urb.tableSize request.packetCount * 16

def Urb.headerValid : Bool :=
  request.direction ≤ 1 ∧ request.endpoint ≤ 15 ∧ request.length ≤ maxTransfer ∧
    (request.packetCount = nonIso ∨ request.packetCount ≤ 1024)

def scanSubmit : Record :=
  let request := readHeader wire
  if !request.headerValid then .malformed
  else if wire.length < request.messageSize then .incomplete
  else
    let body := (wire.drop headerSize).take (request.messageSize - headerSize)
    match readPackets request.length (Urb.tableSize request.packetCount) 0
      (body.drop request.dataSize) with
    | none => .malformed
    | some packets =>
      .submit { request with packets := packets, data := body.take request.dataSize }
        request.messageSize

def scanCommand : Record :=
  if wire.length < headerSize then .incomplete
  else if read32 wire 0 = 2 then .unlink (read32 wire 4) (read32 wire 20)
  else if read32 wire 0 ≠ 1 ∨ read32 wire 8 ≠ 2 ^ 16 + (slot + 1) then .malformed
  else scanSubmit wire

def opVersion : Nat := 0x0111

def opReqDevlist : Nat := 0x8005

def opReqImport : Nat := 0x8003

def importRecord (slot version operation status : Nat) (whole : Bool) (field : List UInt8) : Record :=
  if version ≠ opVersion ∨ status ≠ 0 then .malformed
  else if operation = opReqDevlist then .list
  else if operation ≠ opReqImport then .malformed
  else if !whole then .incomplete
  else
    let bus := field.takeWhile (· ≠ 0)
    if bus.length = 32 ∨ bus ≠ busId slot then .refuse else .import_

def scanImport : Record :=
  if wire.length < 8 then .incomplete
  else
    importRecord slot (read16 wire 0) (read16 wire 2) (read32 wire 4) (40 ≤ wire.length)
      ((wire.drop 8).take 32)

def scan (imported : Bool) (wire : List UInt8) : Record :=
  if imported then scanCommand device.slot wire else scanImport device.slot wire

namespace Core

def write (bytes : List UInt8) : Core :=
  { core with transmit := core.transmit ++ bytes, greeting := core.greeting ++ bytes }

def unlink (core : Core) (sequence victim : Nat) : Core :=
  let removed := core.pending.find? fun request => request.sequence = victim
  let core : Core := { core with
    pending := core.pending.eraseP fun request => request.sequence = victim
    unlinked := core.unlinked ++ [{ sequence := sequence, victim := victim, removed := removed }] }
  core.answer (.unlink
    { sequence := sequence, status := if removed.isSome then canceled else 0 })

/-- The check of `feed` after each record. -/
def bound (size : Nat) (core : Core) : Library.Verdict Core :=
  if maxBuffer < core.transmit.length then .stop core.fail else .consume size core

def register (request : Urb) : Core :=
  { core with submitted := core.submitted ++ [request.sequence] }

/-- `parse_one`, with the check after it. -/
def parse (now : Int) (core : Core) (incarnation : Nat) (wire : List UInt8) :
    Library.Verdict Core :=
  match scan device core.imported wire with
  | .incomplete => .incomplete
  | .malformed => .stop core.fail
  | .list =>
    .stop { core.write (opHeader 5 0 ++ write32 1 ++ deviceRecord device.slot ++
      [1, 1, 0, 0, 1, 2, 0, 0, 1, 2, 0, 0, 3, 0, 0, 0]) with finished := true }
  | .refuse => .stop { core.write (opHeader 3 4) with finished := true }
  | .import_ =>
    bound 40 { core.write (opHeader 3 0 ++ deviceRecord device.slot) with
      imported := true
      registers := { core.registers with configuration := 1 } }
  | .unlink sequence victim => bound headerSize (core.unlink sequence victim)
  | .submit request size =>
    if core.pending.any fun pending => pending.sequence = request.sequence then .stop core.fail
    else
      bound size ((core.register request).submit device now
        { request with
          speakerIncarnation := incarnation
          serial := core.submitted.length })

/-- The loop of `feed` stops. -/
def halted : Bool := core.failed || core.finished

end Core

/-! ## Sessions -/

structure Session where
  core : Core := {}
  receive : List UInt8 := []
  receiveIncarnation : Nat := 0
  feedIncarnation : Nat := 0
  receiveTime : Int := 0

namespace Session

def fail (session : Session) : Session :=
  { session with core := session.core.fail, receive := [], receiveIncarnation := 0 }

def create : Session :=
  let input := [1, 0x80, 0x80, 0x80, 0x80, 0, 0, 0, 8] ++ zeros 16 ++ [0x20] ++ zeros 7 ++ [0x80] ++
    zeros 3 ++ [0x80] ++ zeros 15 ++ [0x2a] ++ zeros 10
  let session : Session := { core := { input := input } }
  if 16 ≤ device.slot then session.fail else session

end Session

end Vibeshine.Usbip
