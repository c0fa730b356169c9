import ProtoTime.GameGear.Z80
import Mathlib.Control.Monad.Basic

/-!
Execution of the Z80 opcodes: the unprefixed table and the CB and ED tables.
-/
namespace ProtoTime.GameGear
open GameBoy (Byte Addr hi lo word)

namespace Z80Interpreter

variable {σ : Type} [Z80Bus σ]

def memRead (address : Addr) : Z80M σ Byte :=
  modifyGet fun c =>
    let (value, bus) := Z80Bus.memRead address c.bus
    (value, { c with bus := bus })

def memWrite (address : Addr) (value : Byte) : Z80M σ PUnit :=
  modify fun c => { c with bus := Z80Bus.memWrite address value c.bus }

def readIo (port : Addr) : Z80M σ Byte :=
  modifyGet fun c =>
    let (value, bus) := Z80Bus.readIo port c.bus
    (value, { c with bus := bus })

def writeIo (port : Addr) (value : Byte) : Z80M σ PUnit :=
  modify fun c => { c with bus := Z80Bus.writeIo port value c.bus }

def memFetch (address : Addr) : Z80M σ Byte :=
  modifyGet fun c =>
    let (value, bus) := Z80Bus.memFetch address c.bus
    (value, { c with bus := bus })

def fetch8 : Z80M σ Byte := do
  let c ← get
  let value ← memFetch c.pc
  modify fun c => { c with pc := c.pc + 1 }
  return value

def fetchOpcode : Z80M σ Byte := do
  modify incRefresh
  fetch8

def fetch16 : Z80M σ Addr := do
  let low ← fetch8
  let high ← fetch8
  return word low high

def read16 (address : Addr) : Z80M σ Addr := do
  let low ← memRead address
  let high ← memRead (address + 1)
  return word low high

def write16 (address value : Addr) : Z80M σ PUnit := do
  memWrite address (lo value)
  memWrite (address + 1) (hi value)

def push16 (value : Addr) : Z80M σ PUnit := do
  modify fun c => { c with sp := c.sp - 1 }
  memWrite (← get).sp (hi value)
  modify fun c => { c with sp := c.sp - 1 }
  memWrite (← get).sp (lo value)

def pop16 : Z80M σ Addr := do
  let c ← get
  let value ← read16 c.sp
  modify fun c => { c with sp := c.sp + 2 }
  return value

def readReg8 (idx : ℕ) : Z80M σ Byte := do
  let c ← get
  match idx % 8 with
  | 0 => return hi c.bc
  | 1 => return lo c.bc
  | 2 => return hi c.de
  | 3 => return lo c.de
  | 4 => return hi c.hl
  | 5 => return lo c.hl
  | 6 => memRead c.hl
  | _ => return c.regA

def writeReg8 (idx : ℕ) (value : Byte) : Z80M σ PUnit := do
  match idx % 8 with
  | 0 => modify fun c => { c with bc := word (lo c.bc) value }
  | 1 => modify fun c => { c with bc := word value (hi c.bc) }
  | 2 => modify fun c => { c with de := word (lo c.de) value }
  | 3 => modify fun c => { c with de := word value (hi c.de) }
  | 4 => modify fun c => { c with hl := word (lo c.hl) value }
  | 5 => modify fun c => { c with hl := word value (hi c.hl) }
  | 6 => memWrite (← get).hl value
  | _ => modify (setRegA value)

/-- The octal digits of an opcode. -/
def opcodeX (opcode : Byte) : ℕ := opcode.toNat / 64

def opcodeY (opcode : Byte) : ℕ := opcode.toNat / 8 % 8

def opcodeZ (opcode : Byte) : ℕ := opcode.toNat % 8

def cbCycles (indexed : Bool) (z : ℕ) (indexedCycles memoryCycles : ℕ) : ℕ :=
  if indexed then indexedCycles else if z = 6 then memoryCycles else 8

/-- The CB table; the second component is the byte an indexed operation stores. -/
def executeCbOpcode (opcode : Byte) (indexed : Bool) (indexedAddress : Addr) :
    Z80M σ (ℕ × Byte) := do
  let y := opcodeY opcode
  let z := opcodeZ opcode
  let value ← (if indexed then memRead indexedAddress else readReg8 z)
  if opcodeX opcode = 1 then
    let zero := value &&& (1#8 <<< y) == 0
    let sourceFor35 := if indexed then hi indexedAddress else value
    modify fun c => c.setRegF ((c.regF &&& kFlagC) ||| kFlagH ||| flagIf zero (kFlagZ ||| kFlagPV)
      ||| flagIf (y == 7 && !zero) kFlagS ||| (sourceFor35 &&& (kFlag5 ||| kFlag3)))
    return (cbCycles indexed z 20 12, 0)
  else
    let result ← (
      if opcodeX opcode = 0 then modifyGet (rotateShift y value)
      else if opcodeX opcode = 2 then pure (value &&& ~~~(1#8 <<< y))
      else pure (value ||| (1#8 <<< y)))
    (if indexed then memWrite indexedAddress result else writeReg8 z result)
    return (cbCycles indexed z 23 15, result)

/-- SBC HL,ss and ADC HL,ss. -/
def carry16 (subtract : Bool) (rhs : Addr) (c : Z80Interpreter σ) : Z80Interpreter σ :=
  let lhs := c.hl
  let carry := c.carryIn.toNat
  let result := if subtract then lhs - rhs - c.carryIn.setWidth 16
    else lhs + rhs + c.carryIn.setWidth 16
  let lowLhs := (lhs &&& 0x0FFF#16).toNat
  let lowRhs := (rhs &&& 0x0FFF#16).toNat
  let flags := (hi result &&& (kFlagS ||| kFlag5 ||| kFlag3)) ||| flagIf (result == 0) kFlagZ
  let flags :=
    if subtract then
      flags ||| kFlagN ||| flagIf (decide (lowLhs < lowRhs + carry)) kFlagH |||
        flagIf ((lhs ^^^ rhs) &&& (lhs ^^^ result) &&& 0x8000#16 != 0) kFlagPV |||
        flagIf (decide (lhs.toNat < rhs.toNat + carry)) kFlagC
    else
      flags ||| flagIf (decide (lowLhs + lowRhs + carry > 0x0FFF)) kFlagH |||
        flagIf (~~~(lhs ^^^ rhs) &&& (lhs ^^^ result) &&& 0x8000#16 != 0) kFlagPV |||
        flagIf (decide (lhs.toNat + rhs.toNat + carry > 0xFFFF)) kFlagC
  { c with hl := result }.setRegF flags

/-- LD A,I and LD A,R. -/
def loadSpecial (value : Byte) (c : Z80Interpreter σ) : Z80Interpreter σ :=
  (c.setRegA value).setRegF
    ((c.regF &&& kFlagC) ||| sz35 value ||| flagIf c.iff2 kFlagPV)

/-- RRD and RLD store one half of the shuffled nibbles and load the other. -/
def rotateDigits (stored loaded : Byte → Byte → Byte) : Z80M σ ℕ := do
  let c ← get
  let mem ← memRead c.hl
  memWrite c.hl (stored c.regA mem)
  modify fun c =>
    let carry := c.regF &&& kFlagC
    let c := c.setRegA (loaded c.regA mem)
    let c := c.setLogicFlags c.regA false
    c.setRegF (c.regF ||| carry)
  return 18

/-- The repeating block instructions step back over themselves. -/
def repeatBlock (again : Bool) : Z80M σ ℕ :=
  if again then do
    modify fun c => { c with pc := c.pc - 2 }
    return 21
  else return 16

def blockTransfer (direction : Addr) (repeats : Bool) : Z80M σ ℕ := do
  let c ← get
  memWrite c.de (← memRead c.hl)
  modify fun c => { c with hl := c.hl + direction, de := c.de + direction, bc := c.bc - 1 }
  modify fun c => c.setRegF
    ((c.regF &&& (kFlagS ||| kFlagZ ||| kFlagC)) ||| flagIf (c.bc != 0) kFlagPV)
  let c ← get
  repeatBlock (repeats && c.bc != 0)

def blockCompare (direction : Addr) (repeats : Bool) : Z80M σ ℕ := do
  let c ← get
  let value ← memRead c.hl
  let result := c.regA - value
  modify fun c => { c with hl := c.hl + direction, bc := c.bc - 1 }
  modify fun c => c.setRegF
    ((((computeSubFlags c.regA value 0 result &&& ~~~kFlagC) ||| (c.regF &&& kFlagC)) &&& ~~~kFlagPV)
      ||| flagIf (c.bc != 0 && result != 0) kFlagPV)
  let c ← get
  repeatBlock (repeats && c.bc != 0 && result != 0)

def blockIn (direction : Addr) (repeats : Bool) : Z80M σ ℕ := do
  let c ← get
  memWrite c.hl (← readIo c.bc)
  modify fun c => { c with hl := c.hl + direction, bc := word (lo c.bc) (hi c.bc - 1) }
  modify fun c => c.setRegF (sz35 (hi c.bc) ||| kFlagN)
  let c ← get
  repeatBlock (repeats && hi c.bc != 0)

def blockOut (direction : Addr) (repeats : Bool) : Z80M σ ℕ := do
  let c ← get
  let value ← memRead c.hl
  modify fun c => { c with hl := c.hl + direction, bc := word (lo c.bc) (hi c.bc - 1) }
  writeIo (← get).bc value
  modify fun c => c.setRegF (sz35 (hi c.bc) ||| kFlagN)
  let c ← get
  repeatBlock (repeats && hi c.bc != 0)

/-- The transfers with I and R and the digit rotations. -/
def executeEdSpecial (y : ℕ) : Z80M σ ℕ := do
  let c ← get
  match y with
  | 0 =>
    modify fun c => { c with i := c.regA }
    return 9
  | 1 =>
    modify fun c => { c with r := c.regA }
    return 9
  | 2 =>
    modify (loadSpecial c.i)
    return 9
  | 3 =>
    modify (loadSpecial c.r)
    return 9
  | 4 =>
    rotateDigits (fun a mem => (a <<< 4) ||| (mem >>> 4))
      (fun a mem => (a &&& 0xF0#8) ||| (mem &&& 0x0F#8))
  | 5 =>
    rotateDigits (fun a mem => (mem <<< 4) ||| (a &&& 0x0F#8))
      (fun a mem => (a &&& 0xF0#8) ||| (mem >>> 4))
  | _ => return 8

/-- The ED opcodes from 0x40 to 0x7F. -/
def executeEdRegular (y z : ℕ) : Z80M σ ℕ := do
  let p := y / 2 % 4
  let q := y % 2
  let c ← get
  match z with
  | 0 =>
    let value ← readIo c.bc
    modify fun c => c.setRegF
      ((c.regF &&& kFlagC) ||| sz35 value ||| flagIf (parityEven value) kFlagPV)
    (if y ≠ 6 then writeReg8 y value else pure ())
    return 12
  | 1 =>
    let value ← (if y = 6 then pure 0 else readReg8 y)
    writeIo c.bc value
    return 12
  | 2 =>
    modify (carry16 (q == 0) (c.getReg16ByPair p false))
    return 15
  | 3 =>
    let address ← fetch16
    (if q = 0 then write16 address (c.getReg16ByPair p false)
      else do
        let value ← read16 address
        modify (setReg16ByPair p value false))
    return 20
  | 4 =>
    modify fun c =>
      let a := c.regA
      (c.setRegA (0 - a)).setRegF (computeSubFlags 0 a 0 (0 - a))
    return 8
  | 5 =>
    let address ← pop16
    modify fun c => { c with pc := address }
    modify fun c => { c with iff1 := c.iff2, ime := c.iff2 }
    return 14
  | 6 =>
    modify fun c => { c with
      interruptMode := if y = 0 ∨ y = 4 then 0 else if y = 2 ∨ y = 6 then 1 else 2 }
    return 8
  | _ => executeEdSpecial y

/-- The four block operations by the low digit of their opcode. -/
def executeBlock (operation : ℕ) (direction : Addr) (repeats : Bool) : Z80M σ ℕ :=
  match operation with
  | 0 => blockTransfer direction repeats
  | 1 => blockCompare direction repeats
  | 2 => blockIn direction repeats
  | _ => blockOut direction repeats

def executeEdOpcode (opcode : Byte) : Z80M σ ℕ :=
  let y := opcodeY opcode
  let z := opcodeZ opcode
  if opcodeX opcode = 1 then executeEdRegular y z
  else if opcodeX opcode = 2 ∧ 4 ≤ y ∧ z ≤ 3 then
    executeBlock z (if y = 4 ∨ y = 6 then 1 else -1) (decide (6 ≤ y))
  else return 8

/-- Increments and decrements of a byte register or of the byte at HL. -/
def stepReg8 (idx : ℕ) (increment : Bool) : Z80M σ PUnit := do
  let before ← readReg8 idx
  let result := if increment then before + 1 else before - 1
  writeReg8 idx result
  modify fun c => c.setRegF
    (if increment then c.computeIncFlags before result else c.computeDecFlags before result)

/-- The accumulator rotations change only H, N, C and the copied bits. -/
def rotateA (group : ℕ) (c : Z80Interpreter σ) : Z80Interpreter σ :=
  let (result, carry) := rotated group c.regA c.carryFlag
  let c := c.setRegA result
  c.setRegF ((c.regF &&& (kFlagS ||| kFlagZ ||| kFlagPV)) |||
    (result &&& (kFlag5 ||| kFlag3)) ||| carry)

def daa (c : Z80Interpreter σ) : Z80Interpreter σ :=
  let a := c.regA
  let low := c.regF &&& kFlagH != 0 || decide (a &&& 0x0F#8 > 9#8)
  let high := c.carryFlag || decide (a > 0x99#8)
  let correction := flagIf low 0x06#8 ||| flagIf high 0x60#8
  let result := if c.regF &&& kFlagN != 0 then a - correction else a + correction
  let c := c.setRegA result
  c.setRegF ((c.regF &&& kFlagN) ||| flagIf high kFlagC ||| sz35 result |||
    flagIf (parityEven result) kFlagPV)

def complementA (c : Z80Interpreter σ) : Z80Interpreter σ :=
  let c := c.setRegA (~~~c.regA)
  c.setRegF ((c.regF &&& (kFlagS ||| kFlagZ ||| kFlagPV ||| kFlagC)) ||| kFlagH ||| kFlagN |||
    (c.regA &&& (kFlag5 ||| kFlag3)))

/-- SCF sets the carry flag; CCF moves it to H and inverts it. -/
def setCarry (complement : Bool) (c : Z80Interpreter σ) : Z80Interpreter σ :=
  let oldCarry := c.carryFlag
  c.setRegF ((c.regF &&& (kFlagS ||| kFlagZ ||| kFlagPV)) |||
    flagIf (complement && oldCarry) kFlagH ||| flagIf (!(complement && oldCarry)) kFlagC |||
    (c.regA &&& (kFlag5 ||| kFlag3)))

def jumpRelative (taken : Bool) (takenCycles otherCycles : ℕ) : Z80M σ ℕ := do
  let d ← fetch8
  if taken then do
    modify fun c => { c with pc := c.pc + displacement d }
    return takenCycles
  else return otherCycles

def returnFrom (taken : Bool) (takenCycles otherCycles : ℕ) : Z80M σ ℕ :=
  if taken then do
    let address ← pop16
    modify fun c => { c with pc := address }
    return takenCycles
  else return otherCycles

def jumpAbsolute (taken : Bool) : Z80M σ ℕ := do
  let address ← fetch16
  (if taken then modify fun c => { c with pc := address } else pure ())
  return 10

def callAbsolute (taken : Bool) : Z80M σ ℕ := do
  let address ← fetch16
  if taken then do
    push16 (← get).pc
    modify fun c => { c with pc := address }
    return 17
  else return 10

/-- The unprefixed opcodes but for the index prefixes themselves. -/
def executeUnprefixed (opcode : Byte) : Z80M σ ℕ := do
  let y := opcodeY opcode
  let z := opcodeZ opcode
  let pair := opcode.toNat / 16 % 4
  let c ← get
  if opcode &&& 0xC0#8 = 0x40#8 then
    if opcode = 0x76#8 then
      modify fun c => { c with halted := true }
      return 4
    else
      writeReg8 y (← readReg8 z)
      return if y = 6 ∨ z = 6 then 7 else 4
  else if opcode &&& 0xC0#8 = 0x80#8 then
    modify (alu y (← readReg8 z))
    return if z = 6 then 7 else 4
  else if opcode &&& 0xC7#8 = 0x06#8 then
    writeReg8 y (← fetch8)
    return if y = 6 then 10 else 7
  else if opcode &&& 0xC7#8 = 0x04#8 then
    stepReg8 y true
    return if y = 6 then 11 else 4
  else if opcode &&& 0xC7#8 = 0x05#8 then
    stepReg8 y false
    return if y = 6 then 11 else 4
  else if opcode = 0x00#8 then return 4
  else if opcode ∈ [0x01#8, 0x11#8, 0x21#8, 0x31#8] then
    modify (setReg16ByPair pair (← fetch16) false)
    return 10
  else if opcode = 0x02#8 then
    memWrite c.bc c.regA
    return 7
  else if opcode ∈ [0x03#8, 0x13#8, 0x23#8, 0x33#8] then
    modify (setReg16ByPair pair (c.getReg16ByPair pair false + 1) false)
    return 6
  else if opcode = 0x07#8 then
    modify (rotateA 0)
    return 4
  else if opcode = 0x08#8 then
    modify fun c => { c with af := c.af_, af_ := c.af }
    return 4
  else if opcode ∈ [0x09#8, 0x19#8, 0x29#8, 0x39#8] then
    let (result, flags) := c.add16 c.hl (c.getReg16ByPair pair false)
    modify fun c => { c with hl := result }.setRegF flags
    return 11
  else if opcode = 0x0A#8 then
    modify (setRegA (← memRead c.bc))
    return 7
  else if opcode ∈ [0x0B#8, 0x1B#8, 0x2B#8, 0x3B#8] then
    modify (setReg16ByPair pair (c.getReg16ByPair pair false - 1) false)
    return 6
  else if opcode = 0x0F#8 then
    modify (rotateA 1)
    return 4
  else if opcode = 0x10#8 then
    let d ← fetch8
    let b := hi c.bc - 1
    modify fun c => { c with bc := word (lo c.bc) b }
    if b ≠ 0 then
      modify fun c => { c with pc := c.pc + displacement d }
      return 13
    else return 8
  else if opcode = 0x12#8 then
    memWrite c.de c.regA
    return 7
  else if opcode = 0x17#8 then
    modify (rotateA 2)
    return 4
  else if opcode = 0x18#8 then jumpRelative true 12 12
  else if opcode = 0x1A#8 then
    modify (setRegA (← memRead c.de))
    return 7
  else if opcode = 0x1F#8 then
    modify (rotateA 3)
    return 4
  else if opcode ∈ [0x20#8, 0x28#8, 0x30#8, 0x38#8] then jumpRelative (c.conditionMet (y - 4)) 12 7
  else if opcode = 0x22#8 then
    write16 (← fetch16) c.hl
    return 16
  else if opcode = 0x27#8 then
    modify daa
    return 4
  else if opcode = 0x2A#8 then
    let value ← read16 (← fetch16)
    modify fun c => { c with hl := value }
    return 16
  else if opcode = 0x2F#8 then
    modify complementA
    return 4
  else if opcode = 0x32#8 then
    memWrite (← fetch16) c.regA
    return 13
  else if opcode = 0x37#8 then
    modify (setCarry false)
    return 4
  else if opcode = 0x3A#8 then
    modify (setRegA (← memRead (← fetch16)))
    return 13
  else if opcode = 0x3F#8 then
    modify (setCarry true)
    return 4
  else if opcode &&& 0xC7#8 = 0xC0#8 then returnFrom (c.conditionMet y) 11 5
  else if opcode ∈ [0xC1#8, 0xD1#8, 0xE1#8, 0xF1#8] then
    modify (setReg16ByPair pair (← pop16) true)
    return 10
  else if opcode &&& 0xC7#8 = 0xC2#8 then jumpAbsolute (c.conditionMet y)
  else if opcode = 0xC3#8 then jumpAbsolute true
  else if opcode &&& 0xC7#8 = 0xC4#8 then callAbsolute (c.conditionMet y)
  else if opcode ∈ [0xC5#8, 0xD5#8, 0xE5#8, 0xF5#8] then
    push16 (c.getReg16ByPair pair true)
    return 11
  else if opcode &&& 0xC7#8 = 0xC6#8 then
    modify (alu y (← fetch8))
    return 7
  else if opcode &&& 0xC7#8 = 0xC7#8 then
    push16 c.pc
    modify fun c => { c with pc := (opcode &&& 0x38#8).setWidth 16 }
    return 11
  else if opcode = 0xC9#8 then returnFrom true 10 10
  else if opcode = 0xCB#8 then
    let (cycles, _) ← executeCbOpcode (← fetchOpcode) false 0
    return cycles
  else if opcode = 0xCD#8 then callAbsolute true
  else if opcode = 0xD3#8 then
    let port ← fetch8
    writeIo (word port c.regA) c.regA
    return 11
  else if opcode = 0xD9#8 then
    modify fun c => { c with
      bc := c.bc_, bc_ := c.bc, de := c.de_, de_ := c.de, hl := c.hl_, hl_ := c.hl }
    return 4
  else if opcode = 0xDB#8 then
    let port ← fetch8
    modify (setRegA (← readIo (word port c.regA)))
    return 11
  else if opcode = 0xE3#8 then
    let temp ← read16 c.sp
    write16 c.sp c.hl
    modify fun c => { c with hl := temp }
    return 19
  else if opcode = 0xE9#8 then
    modify fun c => { c with pc := c.hl }
    return 4
  else if opcode = 0xEB#8 then
    modify fun c => { c with de := c.hl, hl := c.de }
    return 4
  else if opcode = 0xED#8 then executeEdOpcode (← fetchOpcode)
  else if opcode = 0xF3#8 then
    modify fun c => { c with iff1 := false, iff2 := false, ime := false, imeEnableDelay := 0 }
    return 4
  else if opcode = 0xF9#8 then
    modify fun c => { c with sp := c.hl }
    return 6
  else if opcode = 0xFB#8 then
    modify fun c => { c with iff1 := true, iff2 := true, imeEnableDelay := 2 }
    return 4
  else return 4

end Z80Interpreter

end ProtoTime.GameGear
