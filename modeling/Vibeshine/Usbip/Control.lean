import Vibeshine.Usbip.Protocol

/-! # Control requests

`session::control`: what a request on endpoint 0 does to the registers of the device, which
queued requests it cancels, and how it is answered.
-/

namespace Vibeshine.Usbip

/-- What a session is made with. The report descriptor and the feature reports are those of
`lvg::ds5_usb`. -/
structure Device where
  slot : Nat
  reportDescriptor : List UInt8
  /-- The bytes of a feature report, none for an unknown one. -/
  getFeature : UInt8 → List UInt8
  /-- The callbacks that are set. -/
  hidOutput : Bool := true
  hapticsPcm : Bool := true
  speakerPcm : Bool := true
  epoch : Int := 0

def deviceDescriptor : List UInt8 :=
  [18, 1, 0, 2, 0, 0, 0, 64, 0x4c, 0x05, 0xe6, 0x0c, 0, 1, 1, 2, 3, 1]

def configurationDescriptor (device : Device) : List UInt8 := [
  9, 2, 227, 0, 4, 1, 0, 192, 250, 9, 4, 0, 0, 0, 1, 1, 0, 0, 10, 36, 1, 0, 1, 73, 0, 2, 1, 2,
  12, 36, 2, 1, 1, 1, 6, 4, 51, 0, 0, 0, 12, 36, 6, 2, 1, 1, 3, 0, 0, 0, 0, 0, 9, 36, 3, 3, 1,
  3, 4, 2, 0, 12, 36, 2, 4, 2, 4, 3, 2, 3, 0, 0, 0, 9, 36, 6, 5, 4, 1, 3, 0, 0, 9, 36, 3, 6, 1,
  1, 1, 5, 0, 9, 4, 1, 0, 0, 1, 2, 0, 0, 9, 4, 1, 1, 1, 1, 2, 0, 0, 7, 36, 1, 1, 1, 1, 0, 11,
  36, 2, 1, 4, 2, 16, 1, 128, 187, 0, 9, 5, 1, 9, 136, 1, 4, 0, 0, 7, 37, 1, 0, 0, 0, 0, 9, 4,
  2, 0, 0, 1, 2, 0, 0, 9, 4, 2, 1, 1, 1, 2, 0, 0, 7, 36, 1, 6, 1, 1, 0, 11, 36, 2, 1, 2, 2, 16,
  1, 128, 187, 0, 9, 5, 130, 5, 196, 0, 4, 0, 0, 7, 37, 1, 0, 0, 0, 0, 9, 4, 3, 0, 2, 3, 0, 0,
  0, 9, 33, 17, 1, 0, 1, 34,
  .ofNat device.reportDescriptor.length, .ofNat (device.reportDescriptor.length / 2 ^ 8),
  7, 5, 132, 3, 64, 0, 6, 7, 5, 3, 3, 64, 0, 6]

def hidDescriptorOffset : Nat := 204

/-- The loop of `OTHER_SPEED_CONFIGURATION`: full-speed intervals. -/
def fullSpeedIntervals : Nat → Nat → List UInt8 → List UInt8
  | 0, _, other => other
  | fuel + 1, offset, other =>
    if offset < other.length then
      let other :=
        if byteAt other (offset + 1) = 5 then
          other.set (offset + 6) (if byteAt other (offset + 3) &&& 3 = 1 then 1 else 4)
        else other
      fullSpeedIntervals fuel (offset + byteAt other offset) other
    else other

def usbString (text : String) : List UInt8 :=
  .ofNat (text.length * 2 + 2) :: 3 :: (ascii text).flatMap fun c => [c, 0]

/-- The state of the device behind the endpoints. -/
structure Registers where
  configuration : Nat := 0
  alternate : Nat → Nat := fun _ => 0
  alternateExplicit : Nat → Bool := fun _ => false
  idle : Nat → Nat := fun _ => 0
  protocol : Nat → Nat := fun _ => 1
  mute : Nat → Nat := fun _ => 0
  volume : Nat → Nat → Int := fun _ _ => 0
  nextHid : Int := 0
  nextMic : Int := 0
  nextAudio : Int := 0

inductive Response where
  /-- At most as many bytes as the setup asks for. -/
  | send (data : List UInt8)
  | accept | reject
  deriving DecidableEq

/-- What one control request does. -/
structure Outcome where
  registers : Registers
  response : Response
  /-- The queued requests that are canceled before the answer. -/
  cancels : Urb → Bool := fun _ => false
  hidOutput : Option (List UInt8) := none
  /-- How many bytes of the data stage were read. -/
  reads : Nat := 0

namespace Registers

def answers (registers : Registers) (response : Response) : Outcome :=
  { registers := registers, response := response }

def answersReading (registers : Registers) (reads : Nat) (response : Response) : Outcome :=
  { registers := registers, response := response, reads := reads }

end Registers

def amountBytes (amount : Int) : List UInt8 :=
  let bits := (amount % 2 ^ 16).toNat
  [.ofNat bits, .ofNat (bits / 2 ^ 8)]

def signed16 (value : Nat) : Int := if value < 2 ^ 15 then value else (value : Int) - 2 ^ 16

section

variable (device : Device) (registers : Registers) (input : List UInt8) (request : Urb)

def getDescriptor (value index : Nat) : Response :=
  match value / 2 ^ 8 with
  | 1 => .send deviceDescriptor
  | 2 => .send (configurationDescriptor device)
  | 3 =>
    match value % 2 ^ 8 with
    | 0 => .send [4, 3, 9, 4]
    | 1 => .send (usbString "Sony Interactive Entertainment")
    | 2 => .send (usbString "DualSense Wireless Controller")
    | 3 => .send (usbString ("VSDS5" ++ toString device.slot))
    | _ => .reject
  | 6 => .send [10, 6, 0, 2, 0, 0, 0, 64, 1, 0]
  | 7 =>
    let other := (configurationDescriptor device).set 1 7
    .send (fullSpeedIntervals other.length 0 other)
  | 0x21 =>
    if index % 2 ^ 8 = 3 then
      .send (((configurationDescriptor device).drop hidDescriptorOffset).take 9)
    else .reject
  | 0x22 => if index % 2 ^ 8 = 3 then .send device.reportDescriptor else .reject
  | _ => .reject

def standardRequest (type code value index : Nat) (inward : Bool) : Outcome :=
  if code = 6 ∧ inward then registers.answers (getDescriptor device value index)
  else if code = 0 ∧ inward then
    registers.answers (.send [if type &&& 0x1f = 0 then 1 else 0, 0])
  else if (code = 1 ∨ code = 3 ∨ code = 5) ∧ !inward then registers.answers .accept
  else if code = 9 ∧ type = 0 ∧ value ≤ 1 then
    { registers := { registers with
        configuration := value
        alternate := fun _ => 0
        alternateExplicit := fun _ => false
        nextAudio := 0
        nextMic := 0 }
      cancels := fun _ => true
      response := .accept }
  else if code = 8 ∧ type = 0x80 then
    registers.answers (.send [.ofNat registers.configuration])
  else if code = 11 ∧ type = 1 ∧ index < 4 ∧ value ≤ (if index = 1 ∨ index = 2 then 1 else 0) then
    let registers := { registers with
      alternate := Function.update registers.alternate index value
      alternateExplicit := Function.update registers.alternateExplicit index true }
    if value = 0 ∧ (index = 1 ∨ index = 2) then
      { registers :=
          if index = 1 then { registers with nextAudio := 0 } else { registers with nextMic := 0 }
        cancels := fun pending => pending.endpoint = index
        response := .accept }
    else registers.answers .accept
  else if code = 10 ∧ type = 0x81 ∧ index < 4 then
    registers.answers (.send [.ofNat (registers.alternate index)])
  else registers.answers .reject

def setReport (id reportType : Nat) : Outcome :=
  if reportType = 2 ∧ id = 2 ∧ request.data.length = 47 then
    -- Some callers put the report id only in wValue.
    { registers.answersReading request.data.length .accept with
      hidOutput := some (.ofNat id :: request.data) }
  else if request.data = [] then registers.answers .reject
  else if byteAt request.data 0 ≠ id ∨ 64 < request.length then registers.answersReading 1 .reject
  else
    { registers.answersReading request.data.length .accept with
      hidOutput := Option.guard (fun _ => reportType = 2) request.data }

def hidRequest (code value : Nat) (inward : Bool) : Outcome :=
  let id := value % 2 ^ 8
  let reportType := value / 2 ^ 8
  if code = 1 ∧ inward ∧ reportType = 1 ∧ id = 1 then registers.answers (.send input)
  else if code = 1 ∧ inward ∧ reportType = 3 then
    let feature := device.getFeature (.ofNat id)
    if feature ≠ [] then registers.answers (.send feature)
    else if id = 0x85 then registers.answers (.send [.ofNat id, 0, 0])
    else registers.answers .reject
  else if code = 9 ∧ !inward ∧ (reportType = 2 ∨ reportType = 3) then
    setReport registers request id reportType
  else if code = 10 ∧ !inward then
    { registers with idle := Function.update registers.idle 3 (value / 2 ^ 8) }.answers .accept
  else if code = 2 ∧ inward then registers.answers (.send [.ofNat (registers.idle 3)])
  else if code = 11 ∧ !inward ∧ value ≤ 1 then
    { registers with protocol := Function.update registers.protocol 3 value }.answers .accept
  else if code = 3 ∧ inward then registers.answers (.send [.ofNat (registers.protocol 3)])
  else registers.answers .reject

def frequencyRequest (code length : Nat) (inward : Bool) : Outcome :=
  let rate : List UInt8 := [0x80, 0xbb, 0x00]
  if inward ∧ 0x81 ≤ code ∧ code ≤ 0x84 then registers.answers (.send rate)
  else if !inward ∧ code = 1 ∧ length = 3 then
    registers.answersReading 3 (if request.data.take 3 = rate then .accept else .reject)
  else registers.answers .reject

def lastChannel (unit : Nat) : Nat := if unit = 2 then 4 else 2

def controlIndex (unit : Nat) : Nat := if unit = 2 then 0 else 1

def volumeAmount (code unit channel : Nat) : Int :=
  match code with
  | 0x81 => registers.volume (controlIndex unit) channel
  | 0x82 => if unit = 2 then -25600 else 0
  | 0x83 => if unit = 2 then 0 else 12288
  | _ => if unit = 2 then 256 else 122

def featureRequest (type code value index length : Nat) (inward : Bool) : Outcome :=
  let unit := index / 2 ^ 8
  let channel := value % 2 ^ 8
  let selector := value / 2 ^ 8
  if type &&& 0x1f ≠ 1 ∨ index % 2 ^ 8 ≠ 0 ∨ (unit ≠ 2 ∧ unit ≠ 5) ∨
      lastChannel unit < channel then registers.answers .reject
  else if selector = 1 ∧ channel = 0 ∧ inward ∧ code = 0x81 then
    registers.answers (.send [.ofNat (registers.mute (controlIndex unit))])
  else if selector = 1 ∧ channel = 0 ∧ !inward ∧ code = 1 ∧ length = 1 then
    { registers with
      mute := Function.update registers.mute (controlIndex unit)
        (if byteAt request.data 0 ≠ 0 then 1 else 0) }.answersReading 1 .accept
  else if selector = 2 ∧ inward ∧ 0x81 ≤ code ∧ code ≤ 0x84 then
    registers.answers (.send (amountBytes (volumeAmount registers code unit channel)))
  else if selector = 2 ∧ !inward ∧ code = 1 ∧ length = 2 then
    { registers with
      volume := Function.update registers.volume (controlIndex unit)
        (Function.update (registers.volume (controlIndex unit)) channel
          (signed16 (usb16 request.data 0))) }.answersReading 2 .accept
  else registers.answers .reject

def wLength : Nat := usb16 request.setup 6

def control : Outcome :=
  let type := byteAt request.setup 0
  let code := byteAt request.setup 1
  let value := usb16 request.setup 2
  let index := usb16 request.setup 4
  let length := wLength request
  let inward : Bool := type &&& 0x80 ≠ 0
  if inward ≠ (decide (request.direction ≠ 0)) ∨ request.length < length then
    registers.answers .reject
  else if type = 0x23 ∧ code = 3 ∧ value = 4 ∧ !inward then
    -- A synthetic PORT_RESET. The composite stays selected.
    { registers := { registers with
        configuration := 1
        alternate := fun _ => 0
        alternateExplicit := fun _ => false
        nextHid := 0
        nextAudio := 0
        nextMic := 0 }
      cancels := fun _ => true
      response := .accept }
  else if type &&& 0x60 = 0 then standardRequest device registers type code value index inward
  else if type &&& 0x60 ≠ 0x20 then registers.answers .reject
  else if type &&& 0x1f = 1 ∧ index = 3 then
    hidRequest device registers input request code value inward
  else if type &&& 0x1f = 2 ∧ (index = 1 ∨ index = 0x82) ∧ value = 0x0100 then
    frequencyRequest registers request code length inward
  else featureRequest registers request type code value index length inward

end

end Vibeshine.Usbip
