import ProtoTime.ByteReader

/-!
The packets of a lockstep session and their wire form: 164 bytes of fields and
the digest of those bytes.
-/
namespace ProtoTime.Netplay

open ByteCodec

abbrev Byte := BitVec 8

abbrev InputButtonMask := Byte

structure Digest where
  bytes : List Byte
  size : bytes.length = 32
  deriving DecidableEq

structure Core where
  value : Byte
  deriving DecidableEq

namespace Core

def gameBoy : Core := ⟨1⟩

def gameGear : Core := ⟨2⟩

end Core

/-- What both peers agreed on; each owns a part of the one controller mask. -/
structure Binding where
  core : Core
  session : Digest
  rom : Digest
  configuration : Digest
  generation : BitVec 64
  ownership : InputButtonMask × InputButtonMask
  deriving DecidableEq

structure Packet where
  binding : Binding
  frame : BitVec 64
  before : Digest
  input : InputButtonMask
  peer : Byte
  deriving DecidableEq

def nonzero (d : Digest) : Bool := d.bytes.any (· ≠ 0)

def valid (b : Binding) : Bool :=
  (b.core = Core.gameBoy || b.core = Core.gameGear) && b.generation ≠ 0 && nonzero b.session &&
    nonzero b.rom && nonzero b.configuration && (b.ownership.1 &&& b.ownership.2) = 0 &&
    (b.ownership.1 ||| b.ownership.2) = 0xFF

/-- The mask of a peer; there are two. -/
def Binding.owned (b : Binding) (peer : Byte) : InputButtonMask :=
  if peer = 0 then b.ownership.1 else b.ownership.2

/-- No button outside the peer's own mask is pressed. -/
def Packet.withinOwnership (p : Packet) : Bool := (p.input &&& ~~~ p.binding.owned p.peer) = 0

def kMagic : List Byte := [0x54, 0x4E, 0x50, 0x31]

def kSignedSize : ℕ := 164

def kWireSize : ℕ := 196

/-- The fields in the order of their offsets, and the zero bytes after them. -/
def wireFields (p : Packet) : List (List Byte) :=
  [kMagic, bigEndian 2 1, [p.binding.core.value], [p.peer], bigEndian 8 p.binding.generation.toNat,
    bigEndian 8 p.frame.toNat, p.binding.session.bytes, p.binding.rom.bytes,
    p.binding.configuration.bytes, p.before.bytes, [p.input], [p.binding.ownership.1],
    [p.binding.ownership.2], List.replicate 9 0]

def encode (sha256 : List Byte → Digest) (p : Packet) : Except String (List Byte) :=
  if ¬ valid p.binding ∨ p.peer > 1 ∨ ¬ p.withinOwnership then .error "invalid netplay packet"
  else
    let bytes := (wireFields p).flatten
    .ok (bytes ++ (sha256 bytes).bytes)

def get (bytes : List Byte) (offset : ℕ) : Digest where
  bytes := List.ofFn fun i : Fin 32 => bytes.getD (offset + i) 0
  size := List.length_ofFn

def integer (bytes : List Byte) (offset size : ℕ) : ℕ := ofBigEndian (slice bytes offset size)

/-- The packet whose fields lie at the offsets. -/
def readFields (bytes : List Byte) : Packet where
  binding := {
    core := ⟨bytes.getD 6 0⟩
    session := get bytes 24
    rom := get bytes 56
    configuration := get bytes 88
    generation := BitVec.ofNat 64 (integer bytes 8 8)
    ownership := (bytes.getD 153 0, bytes.getD 154 0) }
  frame := BitVec.ofNat 64 (integer bytes 16 8)
  before := get bytes 120
  input := bytes.getD 152 0
  peer := bytes.getD 7 0

def decode (sha256 : List Byte → Digest) (bytes : List Byte) : Option Packet :=
  if bytes.length ≠ kWireSize ∨ slice bytes 0 4 ≠ kMagic ∨ integer bytes 4 2 ≠ 1 ∨
      bytes.getD 7 0 > 1 then none
  else if (slice bytes 155 9).any (· ≠ 0) then none
  else if (sha256 (bytes.take kSignedSize)).bytes ≠ slice bytes kSignedSize 32 then none
  else
    let p := readFields bytes
    if ¬ valid p.binding ∨ ¬ p.withinOwnership then none else some p

end ProtoTime.Netplay
