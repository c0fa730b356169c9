import ProtoTime.InstCycle.ThreadedBlockCache

/-!
The opt-in research lowerings: register pairs, conditional jumps, absolute
accesses, the high page and the stack, for both cores that share the encoding.
Bus accesses stay byte-wide and ordered.
-/
namespace ProtoTime.IR.Research

def reg (number : ℕ) (type : ValueType) (id : ℕ) : Operation :=
  { opcode := .readRegister
    result := some id
    resultType := type
    operands := [.guestRegister number type] }

def constant (payload : BitVec 64) (type : ValueType) (id : ℕ) : Operation :=
  { opcode := .constant
    result := some id
    resultType := type
    operands := [.immediate payload type] }

def write (number value : ℕ) (type : ValueType) : Operation :=
  { opcode := .writeRegister
    operands := [.guestRegister number type, .value value type] }

def add (value : ℕ) (n : BitVec 64) (sub : Bool) (id : ℕ) : List Operation :=
  [constant n .i16 id,
    { opcode := if sub then .subtract else .add
      result := some (id + 1)
      resultType := .i16
      operands := [.value value .i16, .value id .i16] }]

def load (address id : ℕ) : Operation :=
  { opcode := .loadMemory
    result := some id
    resultType := .i8
    operands := [.value address .i16] }

def store (address value : ℕ) : Operation :=
  { opcode := .storeMemory
    operands := [.value address .i16, .value value .i8] }

def setProgramCounter (address : BitVec 16) : Operation :=
  { opcode := .setProgramCounter
    operands := [.immediate (address.setWidth 64) .i16] }

def branch (target : BitVec 64) : Operation :=
  { opcode := .branch
    operands := [.blockTarget target] }

/-- The second core starts an instruction with a call that counts the refresh register. -/
def begin (gb : Bool) : List Operation :=
  if gb then []
  else
    [{ opcode := .callHelper
       operands := [.helper 0] }]

/-- An instruction with one cycle count, closed by its retirement. -/
def extendedInstruction (gb : Bool) (instruction : TranslatedInstruction) (cycles : ℕ)
    (operations : List Operation) (controlFlow : Bool := false) : GuestInstruction :=
  { address := instruction.address.toNat
    length := instruction.bytes.length
    cyclesNotTaken := cycles
    cyclesTaken := cycles
    controlFlow := controlFlow
    operations := begin gb ++ operations ++ [{ opcode := .retireInstruction }] }

/-- A conditional relative jump: the program counter moves on, and again when the value that
selects the cycles is set. -/
def conditionalJump (gb : Bool) (instruction : TranslatedInstruction) (mask : BitVec 64)
    (whenClear : Bool) (next target : BitVec 16) : GuestInstruction :=
  { address := instruction.address.toNat
    length := instruction.bytes.length
    cyclesNotTaken := if gb then 8 else 7
    cyclesTaken := 12
    takenCondition := some 3
    controlFlow := true
    operations := begin gb ++
      [reg 1 .i8 1,
        { opcode := .bitAnd
          result := some 2
          resultType := .i8
          operands := [.value 1 .i8, .immediate mask .i8] },
        { opcode := if whenClear then .compareEqual else .compareNotEqual
          result := some 3
          resultType := .bool
          operands := [.value 2 .i8, .immediate 0 .i8] },
        setProgramCounter next,
        { opcode := .branchIf
          operands := [.value 3 .bool, .blockTarget (target.setWidth 64)] },
        { opcode := .retireInstruction }] }

/-- The high byte goes to the address below the stack pointer, the low byte below it. -/
def pushOperations (high low : Operation) : List Operation :=
  [reg 12 .i16 1, high, low] ++ add 1 1 true 4 ++ [store 5 2] ++ add 1 2 true 6 ++ [store 7 3] ++
    add 1 2 true 8 ++ [write 12 9 .i16]

def popOperations (highId : ℕ) : List Operation :=
  [reg 12 .i16 1, load 1 2] ++ add 1 1 false 3 ++
    [load 4 5, write (highId + 1) 2 .i8, write highId 5 .i8] ++ add 1 2 false 6 ++ [write 12 7 .i16]

/-- The address of a high-page access through register `C`, as value 3. -/
def highPageOperations : List Operation :=
  [reg 9 .i16 1,
    { opcode := .bitAnd
      result := some 2
      resultType := .i16
      operands := [.value 1 .i16, .immediate 255 .i16] },
    { opcode := .add
      result := some 3
      resultType := .i16
      operands := [.value 2 .i16, .immediate 0xFF00 .i16] }]

def accumulatorAccess (isStore : Bool) (address id : ℕ) : List Operation :=
  if isStore then [reg 0 .i8 id, store address id] else [load address id, write 0 id .i8]

def lowerExtended (gb : Bool) (instruction : TranslatedInstruction) : Option GuestInstruction :=
  let op := instruction.bytes.getD 0 0
  let length := instruction.bytes.length
  let imm8 := instruction.bytes.getD 1 0
  let imm16 : BitVec 64 := imm8.setWidth 64 ||| (instruction.bytes.getD 2 0).setWidth 64 <<< 8
  let next : BitVec 16 := instruction.address + BitVec.ofNat 16 length
  let pair := ((op >>> 4) &&& 0x03#8).toNat
  let finish (cycles : ℕ) (operations : List Operation) : Option GuestInstruction :=
    some (extendedInstruction gb instruction cycles (operations ++ [setProgramCounter next]))
  if op &&& 0xCF#8 = 0x01#8 ∧ length = 3 then
    finish (if gb then 12 else 10) [constant imm16 .i16 1, write (9 + pair) 1 .i16]
  else if op &&& 0xCF#8 = 0x03#8 ∨ op &&& 0xCF#8 = 0x0B#8 then
    finish (if gb then 8 else 6)
      (reg (9 + pair) .i16 1 :: add 1 1 (op &&& 0xCF#8 == 0x0B#8) 2 ++ [write (9 + pair) 3 .i16])
  else if (op = 0x20#8 ∨ op = 0x28#8 ∨ op = 0x30#8 ∨ op = 0x38#8) ∧ length = 2 then
    let mask := if op < 0x30#8 then (if gb then 0x80 else 0x40) else (if gb then 0x10 else 1)
    some (conditionalJump gb instruction mask (op == 0x20#8 || op == 0x30#8) next
      (next + imm8.signExtend 16))
  else if op = 0xC3#8 ∧ length = 3 then
    some (extendedInstruction gb instruction (if gb then 16 else 10) [branch imm16] true)
  else if ((gb ∧ (op = 0xEA#8 ∨ op = 0xFA#8)) ∨ (¬ gb ∧ (op = 0x32#8 ∨ op = 0x3A#8))) ∧
      length = 3 then
    finish (if gb then 16 else 13)
      (constant imm16 .i16 1 ::
        accumulatorAccess (op == if gb then 0xEA#8 else 0x32#8) 1 2)
  else if gb ∧ (op = 0xE0#8 ∨ op = 0xF0#8 ∨ op = 0xE2#8 ∨ op = 0xF2#8) then
    if op = 0xE0#8 ∨ op = 0xF0#8 then
      if length ≠ 2 then none
      else
        finish 12 (constant (0xFF00 + imm8.setWidth 64) .i16 1 ::
          accumulatorAccess (op == 0xE0#8) 1 2)
    else finish 8 (highPageOperations ++ accumulatorAccess (op == 0xE2#8) 3 4)
  else
    let highId := if pair = 3 then 0 else 2 + 2 * pair
    if op = 0xCD#8 then
      if length ≠ 3 then none
      else
        some (extendedInstruction gb instruction (if gb then 24 else 17)
          (pushOperations (constant ((next >>> 8).setWidth 64) .i8 2)
            (constant ((next &&& 255#16).setWidth 64) .i8 3) ++ [branch imm16]) true)
    else if op &&& 0xCF#8 = 0xC5#8 then
      finish (if gb then 16 else 11) (pushOperations (reg highId .i8 2) (reg (highId + 1) .i8 3))
    else if op &&& 0xCF#8 = 0xC1#8 then finish (if gb then 12 else 10) (popOperations highId)
    else none

end ProtoTime.IR.Research
