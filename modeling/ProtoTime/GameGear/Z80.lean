import ProtoTime.GameBoy.Bytes

/-!
The registers, flags and arithmetic of the Z80 interpreter, over an arbitrary bus. Every bus
access may change the devices behind it.
-/
namespace ProtoTime.GameGear
open GameBoy (Byte Addr hi lo word)

/-- The callbacks installed in the interpreter. The interrupt provider takes the request back
when it answers with a vector. A fetch is a read that the callback can tell apart by the
`fetching_` flag; a bus that does not look at the flag answers it as any read. -/
class Z80Bus (σ : Type) where
  memRead : Addr → σ → Byte × σ
  memFetch : Addr → σ → Byte × σ := memRead
  memWrite : Addr → Byte → σ → σ
  readIo : Addr → σ → Byte × σ
  writeIo : Addr → Byte → σ → σ
  interruptRequest : σ → Option Byte × σ

structure Z80Interpreter (σ : Type) where
  af : Addr := 0
  bc : Addr := 0
  de : Addr := 0
  hl : Addr := 0
  ix : Addr := 0
  iy : Addr := 0
  sp : Addr := 0
  pc : Addr := 0
  af_ : Addr := 0
  bc_ : Addr := 0
  de_ : Addr := 0
  hl_ : Addr := 0
  i : Byte := 0
  r : Byte := 0
  iff1 : Bool := false
  iff2 : Bool := false
  ime : Bool := false
  imeEnableDelay : ℕ := 0
  halted : Bool := false
  interruptMode : ℕ := 1
  bus : σ

abbrev Z80M (σ : Type) := StateM (Z80Interpreter σ)

namespace Z80Interpreter

def kFlagS : Byte := 0x80#8
def kFlagZ : Byte := 0x40#8
def kFlag5 : Byte := 0x20#8
def kFlagH : Byte := 0x10#8
def kFlag3 : Byte := 0x08#8
def kFlagPV : Byte := 0x04#8
def kFlagN : Byte := 0x02#8
def kFlagC : Byte := 0x01#8

/-- The given bit where the condition holds. -/
def flagIf (condition : Bool) (flag : Byte) : Byte := if condition then flag else 0

def sz35 (value : Byte) : Byte :=
  (value &&& (kFlagS ||| kFlag5 ||| kFlag3)) ||| flagIf (value == 0) kFlagZ

def displacement (value : Byte) : Addr := value.signExtend 16

def parityEven (value : Byte) : Bool :=
  let value := value ^^^ (value >>> 4)
  let value := value ^^^ (value >>> 2)
  let value := value ^^^ (value >>> 1)
  value &&& 1#8 == 0

variable {σ : Type}

variable (c : Z80Interpreter σ)

def regA : Byte := hi c.af

def regF : Byte := lo c.af

def setRegA (value : Byte) (c : Z80Interpreter σ) : Z80Interpreter σ :=
  { c with af := word c.regF value }

def setRegF (value : Byte) (c : Z80Interpreter σ) : Z80Interpreter σ :=
  { c with af := (c.af &&& 0xFF00#16) ||| value.setWidth 16 }

def zeroFlag : Bool := c.regF &&& kFlagZ != 0

def carryFlag : Bool := c.regF &&& kFlagC != 0

/-- The carry flag as the number added by the carrying operations. -/
def carryIn : Byte := if c.carryFlag then 1 else 0

def computeIncFlags (before result : Byte) : Byte :=
  (c.regF &&& kFlagC) ||| (result &&& (kFlagS ||| kFlag5 ||| kFlag3)) |||
    flagIf (result == 0) kFlagZ |||
    flagIf (decide ((before &&& 0x0F#8).toNat + 1 > 0x0F)) kFlagH |||
    flagIf (before == 0x7F#8) kFlagPV

def computeDecFlags (before result : Byte) : Byte :=
  (c.regF &&& kFlagC) ||| kFlagN ||| (result &&& (kFlagS ||| kFlag5 ||| kFlag3)) |||
    flagIf (result == 0) kFlagZ |||
    flagIf (before &&& 0x0F#8 == 0) kFlagH |||
    flagIf (before == 0x80#8) kFlagPV

def computeAddFlags (lhs rhs carryIn result : Byte) : Byte :=
  (result &&& (kFlagS ||| kFlag5 ||| kFlag3)) |||
    flagIf (result == 0) kFlagZ |||
    flagIf (decide ((lhs &&& 0x0F#8).toNat + (rhs &&& 0x0F#8).toNat + carryIn.toNat > 0x0F))
      kFlagH |||
    flagIf (~~~(lhs ^^^ rhs) &&& (lhs ^^^ result) &&& 0x80#8 != 0) kFlagPV |||
    flagIf (decide (lhs.toNat + rhs.toNat + carryIn.toNat > 0xFF)) kFlagC

def computeSubFlags (lhs rhs carryIn result : Byte) : Byte :=
  kFlagN ||| (result &&& (kFlagS ||| kFlag5 ||| kFlag3)) |||
    flagIf (result == 0) kFlagZ |||
    flagIf (decide ((lhs &&& 0x0F#8).toNat < (rhs &&& 0x0F#8).toNat + carryIn.toNat)) kFlagH |||
    flagIf ((lhs ^^^ rhs) &&& (lhs ^^^ result) &&& 0x80#8 != 0) kFlagPV |||
    flagIf (decide (lhs.toNat < rhs.toNat + carryIn.toNat)) kFlagC

def setLogicFlags (result : Byte) (halfCarry : Bool) (c : Z80Interpreter σ) : Z80Interpreter σ :=
  c.setRegF (sz35 result ||| flagIf halfCarry kFlagH ||| flagIf (parityEven result) kFlagPV)

/-- The eight accumulator operations. Only the comparison leaves the accumulator alone. -/
def alu (group : ℕ) (value : Byte) (c : Z80Interpreter σ) : Z80Interpreter σ :=
  let a := c.regA
  match group % 8 with
  | 0 =>
    let result := a + value
    (c.setRegA result).setRegF (computeAddFlags a value 0 result)
  | 1 =>
    let result := a + value + c.carryIn
    (c.setRegA result).setRegF (computeAddFlags a value c.carryIn result)
  | 2 =>
    let result := a - value
    (c.setRegA result).setRegF (computeSubFlags a value 0 result)
  | 3 =>
    let result := a - value - c.carryIn
    (c.setRegA result).setRegF (computeSubFlags a value c.carryIn result)
  | 4 => (c.setRegA (a &&& value)).setLogicFlags (a &&& value) true
  | 5 => (c.setRegA (a ^^^ value)).setLogicFlags (a ^^^ value) false
  | 6 => (c.setRegA (a ||| value)).setLogicFlags (a ||| value) false
  | _ => c.setRegF (computeSubFlags a value 0 (a - value))

/-- The eight rotations and shifts: the result with the bit that leaves the byte. -/
def rotated (group : ℕ) (value : Byte) (carry : Bool) : Byte × Byte :=
  match group % 8 with
  | 0 => ((value <<< 1) ||| ((value >>> 7) &&& 1#8), (value >>> 7) &&& 1#8)
  | 1 => ((value >>> 1) ||| ((value &&& 1#8) <<< 7), value &&& 1#8)
  | 2 => ((value <<< 1) ||| (if carry then 1#8 else 0), (value >>> 7) &&& 1#8)
  | 3 => ((value >>> 1) ||| (if carry then 0x80#8 else 0), value &&& 1#8)
  | 4 => (value <<< 1, (value >>> 7) &&& 1#8)
  | 5 => ((value >>> 1) ||| (value &&& 0x80#8), value &&& 1#8)
  | 6 => ((value <<< 1) ||| 1#8, (value >>> 7) &&& 1#8)
  | _ => (value >>> 1, value &&& 1#8)

def rotateShift (group : ℕ) (value : Byte) (c : Z80Interpreter σ) : Byte × Z80Interpreter σ :=
  let (result, carry) := rotated group value c.carryFlag
  (result, c.setRegF
    (sz35 result ||| flagIf (parityEven result) kFlagPV ||| flagIf (carry != 0) kFlagC))

def getReg16ByPair (pair : ℕ) (afForPair3 : Bool) (c : Z80Interpreter σ) : Addr :=
  match pair % 4 with
  | 0 => c.bc
  | 1 => c.de
  | 2 => c.hl
  | _ => if afForPair3 then c.af else c.sp

def setReg16ByPair (pair : ℕ) (value : Addr) (afForPair3 : Bool) (c : Z80Interpreter σ) :
    Z80Interpreter σ :=
  match pair % 4 with
  | 0 => { c with bc := value }
  | 1 => { c with de := value }
  | 2 => { c with hl := value }
  | _ => if afForPair3 then { c with af := value } else { c with sp := value }

/-- The sum of a 16-bit addition with the flags it leaves. -/
def add16 (lhs rhs : Addr) (c : Z80Interpreter σ) : Addr × Byte :=
  let result := lhs + rhs
  (result,
    (c.regF &&& (kFlagS ||| kFlagZ ||| kFlagPV)) |||
      flagIf (decide ((lhs &&& 0x0FFF#16).toNat + (rhs &&& 0x0FFF#16).toNat > 0x0FFF)) kFlagH |||
      flagIf (decide (lhs.toNat + rhs.toNat > 0xFFFF)) kFlagC |||
      (hi result &&& (kFlag5 ||| kFlag3)))

/-- The condition codes NZ, Z, NC, C, PO, PE, P and M. -/
def conditionMet (cc : ℕ) (c : Z80Interpreter σ) : Bool :=
  match cc % 8 with
  | 0 => !c.zeroFlag
  | 1 => c.zeroFlag
  | 2 => !c.carryFlag
  | 3 => c.carryFlag
  | 4 => c.regF &&& kFlagPV == 0
  | 5 => c.regF &&& kFlagPV != 0
  | 6 => c.regF &&& kFlagS == 0
  | _ => c.regF &&& kFlagS != 0

def incRefresh : Z80Interpreter σ :=
  { c with r := (c.r &&& 0x80#8) ||| ((c.r + 1) &&& 0x7F#8) }

def reset : Z80Interpreter σ :=
  { af := 0x01B0, sp := 0xDFF0, bus := c.bus }

end Z80Interpreter

end ProtoTime.GameGear
