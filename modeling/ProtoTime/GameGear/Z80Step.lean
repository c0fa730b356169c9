import ProtoTime.GameGear.Z80Opcodes

/-!
The index-prefixed opcodes, chains of index prefixes, interrupt acceptance and the step of the
Z80 interpreter.
-/
namespace ProtoTime.GameGear
open GameBoy (Byte Addr hi lo word)

namespace Z80Interpreter

variable {σ : Type} [Z80Bus σ]

def kMaxIndexPrefixesPerStep : ℕ := 0x10000

/-- The prefix DD selects IX, the prefix FD selects IY. -/
def index (indexPrefix : Byte) (c : Z80Interpreter σ) : Addr :=
  if indexPrefix = 0xDD#8 then c.ix else c.iy

def setIndex (indexPrefix : Byte) (value : Addr) (c : Z80Interpreter σ) : Z80Interpreter σ :=
  if indexPrefix = 0xDD#8 then { c with ix := value } else { c with iy := value }

def indexedAddress (indexPrefix : Byte) : Z80M σ Addr := do
  let d ← fetch8
  let c ← get
  return c.index indexPrefix + displacement d

def addIndex (indexPrefix : Byte) (rhs : Addr) (c : Z80Interpreter σ) : Z80Interpreter σ :=
  let (result, flags) := c.add16 (c.index indexPrefix) rhs
  (c.setIndex indexPrefix result).setRegF flags

def stepIndexHalf (indexPrefix : Byte) (high increment : Bool) (c : Z80Interpreter σ) :
    Z80Interpreter σ :=
  let value := c.index indexPrefix
  let before := if high then hi value else lo value
  let result := if increment then before + 1 else before - 1
  let c := c.setIndex indexPrefix (if high then word (lo value) result else word result (hi value))
  c.setRegF (if increment then c.computeIncFlags before result else c.computeDecFlags before result)

/-- The opcode behind an index prefix. Those that do not use the index register are executed
as without it, four cycles later. -/
def executeIndexedOpcode (indexPrefix opcode : Byte) : Z80M σ ℕ := do
  let y := opcodeY opcode
  let z := opcodeZ opcode
  let c ← get
  let index := c.index indexPrefix
  if opcode = 0xCB#8 then
    let address ← indexedAddress indexPrefix
    let cb ← fetchOpcode
    let (cycles, destination) ← executeCbOpcode cb true address
    (if cb &&& 0xC0#8 ≠ 0x40#8 ∧ cb &&& 7#8 ≠ 6#8 then writeReg8 (opcodeZ cb) destination
      else pure ())
    return cycles
  else if opcode = 0x09#8 then
    modify (addIndex indexPrefix c.bc)
    return 15
  else if opcode = 0x19#8 then
    modify (addIndex indexPrefix c.de)
    return 15
  else if opcode = 0x21#8 then
    modify (setIndex indexPrefix (← fetch16))
    return 14
  else if opcode = 0x22#8 then
    write16 (← fetch16) index
    return 20
  else if opcode = 0x23#8 then
    modify (setIndex indexPrefix (index + 1))
    return 10
  else if opcode = 0x24#8 then
    modify (stepIndexHalf indexPrefix true true)
    return 8
  else if opcode = 0x25#8 then
    modify (stepIndexHalf indexPrefix true false)
    return 8
  else if opcode = 0x26#8 then
    modify (setIndex indexPrefix (word (lo index) (← fetch8)))
    return 11
  else if opcode = 0x29#8 then
    modify (addIndex indexPrefix index)
    return 15
  else if opcode = 0x2A#8 then
    modify (setIndex indexPrefix (← read16 (← fetch16)))
    return 20
  else if opcode = 0x2B#8 then
    modify (setIndex indexPrefix (index - 1))
    return 10
  else if opcode = 0x2C#8 then
    modify (stepIndexHalf indexPrefix false true)
    return 8
  else if opcode = 0x2D#8 then
    modify (stepIndexHalf indexPrefix false false)
    return 8
  else if opcode = 0x2E#8 then
    modify (setIndex indexPrefix (word (← fetch8) (hi index)))
    return 11
  else if opcode = 0x34#8 then
    let address ← indexedAddress indexPrefix
    let before ← memRead address
    memWrite address (before + 1)
    modify fun c => c.setRegF (c.computeIncFlags before (before + 1))
    return 23
  else if opcode = 0x35#8 then
    let address ← indexedAddress indexPrefix
    let before ← memRead address
    memWrite address (before - 1)
    modify fun c => c.setRegF (c.computeDecFlags before (before - 1))
    return 23
  else if opcode = 0x36#8 then
    let address ← indexedAddress indexPrefix
    memWrite address (← fetch8)
    return 19
  else if opcode = 0x39#8 then
    modify (addIndex indexPrefix c.sp)
    return 15
  else if opcode = 0xE1#8 then
    modify (setIndex indexPrefix (← pop16))
    return 14
  else if opcode = 0xE3#8 then
    let temp ← read16 c.sp
    write16 c.sp index
    modify (setIndex indexPrefix temp)
    return 23
  else if opcode = 0xE5#8 then
    push16 index
    return 15
  else if opcode = 0xE9#8 then
    modify fun c => { c with pc := index }
    return 8
  else if opcode = 0xF9#8 then
    modify fun c => { c with sp := index }
    return 10
  else if opcode &&& 0xC7#8 = 0x06#8 then
    writeReg8 y (← fetch8)
    return 11
  else if opcode &&& 0xC0#8 = 0x40#8 ∧ opcode ≠ 0x76#8 then
    if z = 6 then
      let address ← indexedAddress indexPrefix
      writeReg8 y (← memRead address)
      return 19
    else if y = 6 then
      let address ← indexedAddress indexPrefix
      memWrite address (← readReg8 z)
      return 19
    else
      writeReg8 y (← readReg8 z)
      return 8
  else if opcode &&& 0xC0#8 = 0x80#8 then
    let value ← (
      if z = 6 then do
        let address ← indexedAddress indexPrefix
        memRead address
      else readReg8 z)
    modify (alu y value)
    return if z = 6 then 19 else 8
  else if opcode = 0x76#8 then
    modify fun c => { c with halted := true }
    return 8
  else
    let cycles ← executeUnprefixed opcode
    return 4 + cycles

/-- The last index prefix of a chain and the opcode behind it, if one comes before the limit,
with the cycles of the prefixes before the last. -/
def fetchPrefixed : ℕ → Byte → ℕ → Z80M σ (Option (Byte × Byte) × ℕ)
  | 0, _, cycles => return (none, cycles + 4)
  | n + 1, lastPrefix, cycles => do
    let nextOpcode ← fetchOpcode
    if nextOpcode = 0xDD#8 ∨ nextOpcode = 0xFD#8 then
      fetchPrefixed n nextOpcode (cycles + 4)
    else return (some (lastPrefix, nextOpcode), cycles)

/-- A chain that reaches the limit ends without an opcode. -/
def executeFound (found : Option (Byte × Byte)) (strayPrefixCycles : ℕ) : Z80M σ ℕ :=
  match found with
  | none => return strayPrefixCycles
  | some (lastPrefix, nextOpcode) => do
    let cycles ← executeIndexedOpcode lastPrefix nextOpcode
    return strayPrefixCycles + cycles

def executeOpcode (opcode : Byte) : Z80M σ ℕ :=
  if opcode = 0xDD#8 ∨ opcode = 0xFD#8 then do
    let found ← fetchPrefixed (kMaxIndexPrefixesPerStep - 1) opcode 0
    executeFound found.1 found.2
  else executeUnprefixed opcode

def interruptRequest : Z80M σ (Option Byte) :=
  modifyGet fun c =>
    let (vector, bus) := Z80Bus.interruptRequest c.bus
    (vector, { c with bus := bus })

def jumpToHandler (vector : Byte) : Z80M σ ℕ := do
  let c ← get
  push16 c.pc
  if c.interruptMode = 2 then
    let address ← read16 (word vector c.i)
    modify fun c => { c with pc := address }
    return 19
  else if c.interruptMode = 0 ∧ vector &&& 0xC7#8 = 0xC7#8 then
    modify fun c => { c with pc := (vector &&& 0x38#8).setWidth 16 }
    return 11
  else
    modify fun c => { c with pc := 0x0038 }
    return 11

def acceptInterrupt (vector : Byte) : Z80M σ ℕ := do
  modify fun c => { c with
    halted := false, iff1 := false, iff2 := false, ime := false, imeEnableDelay := 0 }
  jumpToHandler vector

def handleInterrupts : Z80M σ ℕ := do
  let c ← get
  if c.ime = false ∨ c.iff1 = false then return 0
  else
    let vector ← interruptRequest
    match vector with
    | none => return 0
    | some vector => acceptInterrupt vector

/-- The delay armed by EI runs down with every executed instruction. -/
def countDelay (c : Z80Interpreter σ) : Z80Interpreter σ :=
  if c.imeEnableDelay > 0 then
    if c.imeEnableDelay - 1 = 0 then { c with imeEnableDelay := 0, ime := c.iff1 }
    else { c with imeEnableDelay := c.imeEnableDelay - 1 }
  else c

def executeInstruction : Z80M σ ℕ := do
  let opcode ← fetchOpcode
  let cycles ← executeOpcode opcode
  modify countDelay
  return cycles

def step : Z80M σ ℕ := do
  let interruptCycles ← handleInterrupts
  if interruptCycles ≠ 0 then return interruptCycles
  else
    let c ← get
    if c.halted then return 4
    else executeInstruction

end Z80Interpreter

end ProtoTime.GameGear
