import Mathlib

/-! # USB/IP records

The numbers on the wire, the requests that a session holds, and the two kinds of answers
it writes.
-/

namespace Vibeshine.Usbip

def headerSize : Nat := 48

def maxTransfer : Nat := 256 * 1024

def maxBuffer : Nat := 2 * 1024 * 1024

def nonIso : Nat := 0xffffffff

def stall : Int := -32

def noMemory : Int := -12

def canceled : Int := -104

variable (bytes : List UInt8) (offset : Nat)

def byteAt : Nat := (bytes.getD offset 0).toNat

def read32 : Nat :=
  byteAt bytes offset * 2 ^ 24 + byteAt bytes (offset + 1) * 2 ^ 16 + byteAt bytes (offset + 2) * 2 ^ 8 +
    byteAt bytes (offset + 3)

def read16 : Nat := byteAt bytes offset * 2 ^ 8 + byteAt bytes (offset + 1)

def usb16 : Nat := byteAt bytes offset + byteAt bytes (offset + 1) * 2 ^ 8

def write32 (value : Nat) : List UInt8 :=
  [.ofNat (value / 2 ^ 24), .ofNat (value / 2 ^ 16), .ofNat (value / 2 ^ 8), .ofNat value]

def write16 (value : Nat) : List UInt8 := [.ofNat (value / 2 ^ 8), .ofNat value]

def statusBits (status : Int) : Nat := (status % 2 ^ 32).toNat

def zeros (count : Nat) : List UInt8 := List.replicate count 0

def ascii (text : String) : List UInt8 := text.toList.map fun c => .ofNat c.toNat

def fixedString (text : List UInt8) (capacity : Nat) : List UInt8 :=
  let copied := text.take (capacity - 1)
  copied ++ zeros (capacity - copied.length)

lemma byteAt_append {bytes : List UInt8} {offset : Nat} (h : offset < bytes.length)
    (more : List UInt8) : byteAt (bytes ++ more) offset = byteAt bytes offset := by
  rw [byteAt, byteAt, List.getD_append _ _ _ _ h]

lemma read32_append {bytes : List UInt8} {offset : Nat} (h : offset + 4 ≤ bytes.length)
    (more : List UInt8) : read32 (bytes ++ more) offset = read32 bytes offset := by
  simp only [read32]
  rw [byteAt_append (by omega), byteAt_append (by omega), byteAt_append (by omega),
    byteAt_append (by omega)]

lemma read16_append {bytes : List UInt8} {offset : Nat} (h : offset + 2 ≤ bytes.length)
    (more : List UInt8) : read16 (bytes ++ more) offset = read16 bytes offset := by
  simp only [read16]
  rw [byteAt_append (by omega), byteAt_append (by omega)]

structure IsoPacket where
  offset : Nat
  length : Nat
  deriving DecidableEq

/-- `urb`, with the count of the submits before it. -/
structure Urb where
  sequence : Nat
  direction : Nat
  endpoint : Nat
  length : Nat
  startFrame : Nat
  packetCount : Nat
  setup : List UInt8
  packets : List IsoPacket
  data : List UInt8
  due : Int := 0
  speakerIncarnation : Nat := 0
  serial : Nat := 0
  deriving DecidableEq

namespace Urb

def isIso (request : Urb) : Bool := request.packetCount ≠ nonIso ∧ request.packetCount ≠ 0

def tableSize (packetCount : Nat) : Nat := if packetCount = nonIso then 0 else packetCount

def Within (length : Nat) (packet : IsoPacket) : Prop := packet.offset + packet.length ≤ length

/-- What `parse_one` has checked of a request that it hands on. -/
structure WellFormed (request : Urb) : Prop where
  direction : request.direction ≤ 1
  data : request.data.length = if request.direction = 0 then request.length else 0
  count : request.packets.length = tableSize request.packetCount
  within : ∀ packet ∈ request.packets, Within request.length packet

end Urb

/-! ## Answers -/

/-- The arguments of `reply`. -/
structure RetSubmit where
  request : Urb
  status : Int
  data : List UInt8 := []
  outLength : Nat := 0
  deriving DecidableEq

namespace RetSubmit

variable (ret : RetSubmit)

def actualLength : Nat :=
  if ret.status ≠ 0 then 0
  else if ret.request.direction ≠ 0 then ret.data.length
  else ret.outLength

def payload : List UInt8 :=
  if ret.request.direction ≠ 0 ∧ ret.status = 0 then ret.data else []

def packetActual (packet : IsoPacket) : Nat :=
  if ret.status ≠ 0 then 0
  else if ret.request.direction ≠ 0 then min packet.length 192
  else packet.length

/-- What `reply` writes. -/
def encode : List UInt8 :=
  let request := ret.request
  write32 3 ++ write32 request.sequence ++ zeros 12 ++ write32 (statusBits ret.status) ++
    write32 ret.actualLength ++
    write32 (if request.packets = [] then 0 else request.startFrame) ++
    write32 (if request.packets = [] then nonIso else request.packetCount) ++
    write32 (if ret.status ≠ 0 then request.packets.length else 0) ++ zeros 8 ++ ret.payload ++
    request.packets.flatMap fun packet =>
      write32 packet.offset ++ write32 packet.length ++ write32 (ret.packetActual packet) ++
        write32 (statusBits ret.status)

end RetSubmit

/-- The answer to a `CMD_UNLINK`. -/
structure RetUnlink where
  sequence : Nat
  status : Int
  deriving DecidableEq

def RetUnlink.encode (ret : RetUnlink) : List UInt8 :=
  write32 4 ++ write32 ret.sequence ++ zeros 12 ++ write32 (statusBits ret.status) ++ zeros 24

inductive Answer where
  | submit (ret : RetSubmit)
  | unlink (ret : RetUnlink)
  deriving DecidableEq

def Answer.encode : Answer → List UInt8
  | .submit ret => ret.encode
  | .unlink ret => ret.encode

end Vibeshine.Usbip
