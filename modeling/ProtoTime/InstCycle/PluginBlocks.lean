import ProtoTime.InstCycle.Validation
import Mathlib.Algebra.GroupWithZero.Nat

/-!
Blocks as a plugin hands them over: every enumeration is a byte that may name no
enumerator, and identifiers and payloads have the widths of the host interface.
The checks are the ones of `IR::validate`, on all such blocks.
-/
namespace ProtoTime.IR.Plugin

open Results

/-- A byte of an enumeration: one of its enumerators, or a code that names none. -/
inductive Enumerator (α : Type) where
  | known (a : α)
  | unknown (code : BitVec 8)
  deriving DecidableEq

inductive OperandKind where
  | value | immediate | guestRegister | guestAddress | blockTarget | helper
  deriving DecidableEq

abbrev ValueId := BitVec 32

abbrev TypeCode := Enumerator ValueType

abbrev MemoryCode := Enumerator MemoryClass

structure Operand where
  kind : Enumerator OperandKind
  type : TypeCode
  payload : BitVec 64
  deriving DecidableEq

variable (operand : Operand)

/-- The payload as the number of a value, a register or a helper. -/
def Operand.id : ValueId := operand.payload.setWidth 32

structure Operation where
  opcode : Enumerator Opcode
  result : Option ValueId := none
  resultType : TypeCode := .known .void
  operands : List Operand := []
  memoryClass : MemoryCode := .known .generic
  deriving DecidableEq

structure Guard where
  kind : Enumerator GuardKind
  subject : BitVec 64 := 0
  expected : BitVec 64 := 0
  mask : BitVec 64 := BitVec.allOnes 64
  bytes : List (BitVec 8) := []
  deriving DecidableEq

structure GuestInstruction where
  address : BitVec 64
  length : BitVec 8
  cyclesNotTaken : BitVec 32
  cyclesTaken : BitVec 32
  takenCondition : Option ValueId := none
  controlFlow : Bool := false
  interruptSensitive : Bool := false
  operations : List Operation := []
  deriving DecidableEq

structure Block where
  guestStart : BitVec 64
  guestEnd : BitVec 64
  mappingGeneration : BitVec 64
  guards : List Guard
  instructions : List GuestInstruction
  exit : Enumerator BlockExit
  deriving DecidableEq

def requiresResult : Enumerator Opcode → Bool
  | .known opcode => IR.requiresResult opcode
  | .unknown _ => false

def forbidsResult (opcode : Enumerator Opcode) : Bool :=
  opcode != .known .callHelper && !requiresResult opcode

def validOperandCount : Enumerator Opcode → ℕ → Bool
  | .known opcode, count => IR.validOperandCount opcode count
  | .unknown _, _ => false

def isInteger : TypeCode → Bool
  | .known type => IR.isInteger type
  | .unknown _ => false

def operandIsValueLike : Bool :=
  operand.kind == .known .value || operand.kind == .known .immediate

def operandIsAddress : Bool :=
  operand.kind == .known .guestAddress || operand.kind == .known .value

def semanticTypesValid (o : Operation) : Bool :=
  match o.opcode, o.operands with
  | .known .constant, [value] => value.kind == .known .immediate && value.type == o.resultType
  | .known .readRegister, [register] =>
    register.kind == .known .guestRegister && register.type == o.resultType
  | .known .writeRegister, [register, value] =>
    register.kind == .known .guestRegister && operandIsValueLike value
      && register.type == value.type
  | .known .loadMemory, [address] =>
    operandIsAddress address && isInteger address.type && isInteger o.resultType
  | .known .storeMemory, [address, value] =>
    operandIsAddress address && isInteger address.type && operandIsValueLike value
      && isInteger value.type
  | .known .add, [lhs, rhs] | .known .subtract, [lhs, rhs] | .known .multiply, [lhs, rhs]
  | .known .bitAnd, [lhs, rhs] | .known .bitOr, [lhs, rhs] | .known .bitXor, [lhs, rhs]
  | .known .shiftLeft, [lhs, rhs] | .known .shiftRightLogical, [lhs, rhs]
  | .known .shiftRightArithmetic, [lhs, rhs] =>
    isInteger o.resultType && operandIsValueLike lhs && operandIsValueLike rhs
      && lhs.type == o.resultType && rhs.type == o.resultType
  | .known .bitNot, [operand] =>
    isInteger o.resultType && operandIsValueLike operand && operand.type == o.resultType
  | .known .compareEqual, [lhs, rhs] | .known .compareNotEqual, [lhs, rhs]
  | .known .compareUnsignedLess, [lhs, rhs] | .known .compareSignedLess, [lhs, rhs] =>
    o.resultType == .known .bool && operandIsValueLike lhs && operandIsValueLike rhs
      && isInteger lhs.type && lhs.type == rhs.type
  | .known .select, [condition, whenTrue, whenFalse] =>
    condition.kind == .known .value && condition.type == .known .bool
      && operandIsValueLike whenTrue && operandIsValueLike whenFalse
      && whenTrue.type == o.resultType && whenFalse.type == o.resultType
  | .known .setProgramCounter, [address] => operandIsValueLike address && isInteger address.type
  | .known .branch, [target] => target.kind == .known .blockTarget
  | .known .branchIf, [condition, target] =>
    condition.kind == .known .value && condition.type == .known .bool
      && target.kind == .known .blockTarget
  | .known .callHelper, helper :: _ => helper.kind == .known .helper
  | .known .exit, _ | .known .retireInstruction, _ | .unknown _, _ => true
  | _, _ => false

/-- The values an instruction computed so far, with their types. -/
abbrev ValueTypes := List (ValueId × TypeCode)

def declareResult (values : ValueTypes) (o : Operation) (invalid : String → Invalid) :
    Except Invalid ValueTypes :=
  match o.result with
  | some id =>
    if id = 0 ∨ o.resultType = .known .void ∨ (values.lookup id).isSome then
      .error (invalid "IR operation has an invalid or duplicate result")
    else .ok ((id, o.resultType) :: values)
  | none =>
    if o.resultType ≠ .known .void then
      .error (invalid "result-less IR operation has a non-void type")
    else .ok values

/-- Whether the payload of an operand is a number of the host interface. -/
def operandIsId : Bool :=
  operand.kind == .known .value || operand.kind == .known .guestRegister
    || operand.kind == .known .helper

/-- Identifiers fit the host interface, and a value has the type it was computed with. -/
def validateOperand (values : ValueTypes) (invalid : String → Invalid) (operand : Operand) :
    Except Invalid Unit := do
  require (!operandIsId operand || operand.payload ≤ 0xFFFFFFFF#64)
    (invalid "IR operand ID exceeds the host ABI width")
  require (operand.kind != .known .value || values.lookup operand.id == some operand.type)
    (invalid "IR operation uses an undefined or mistyped value")

def validateOperation (size : ℕ) (invalid : String → Invalid) (j : ℕ) (values : ValueTypes)
    (o : Operation) : Except Invalid ValueTypes := do
  require (validOperandCount o.opcode o.operands.length)
    (invalid "IR operation has invalid operand count")
  require (!requiresResult o.opcode || o.result.isSome) (invalid "IR operation requires a result")
  require (!forbidsResult o.opcode || o.result.isNone) (invalid "IR operation forbids a result")
  let values ← declareResult values o invalid
  o.operands.forM (validateOperand values invalid)
  require (semanticTypesValid o) (invalid "IR operation has invalid operand kinds or types")
  require (o.opcode == .known .loadMemory || o.opcode == .known .storeMemory
      || o.memoryClass == .known .generic)
    (invalid "non-memory IR operation has a memory class")
  require (o.opcode != .known .retireInstruction || j + 1 == size)
    (invalid "retirement must be the final IR operation")
  require (o.opcode != .known .exit || j + 2 == size)
    (invalid "exit must immediately precede retirement")
  return values

def validateOperations (size i : ℕ) : ℕ → ValueTypes → List Operation → Except Invalid ValueTypes
  | _, values, [] => .ok values
  | j, values, o :: operations => do
    let values ← validateOperation size (fun message => ⟨message, i, j⟩) j values o
    validateOperations size i (j + 1) values operations

/-- The choice between the two cycle counts has a boolean to go by. -/
def validateSelector (values : ValueTypes) (invalid : String → Invalid)
    (instruction : GuestInstruction) : Except Invalid Unit :=
  match instruction.takenCondition with
  | some condition =>
    require (values.lookup condition == some (.known .bool))
      (invalid "cycle selector must name a boolean value")
  | none =>
    require (instruction.cyclesNotTaken == instruction.cyclesTaken)
      (invalid "variable-cycle instruction requires a cycle selector")

def validateInstruction (count i : ℕ) (expectedAddress : BitVec 64)
    (instruction : GuestInstruction) : Except Invalid Unit := do
  let invalid (message : String) : Invalid := ⟨message, i, 0⟩
  require (instruction.address == expectedAddress) (invalid "IR guest instructions are not contiguous")
  require (instruction.length != 0) (invalid "IR guest instruction has zero length")
  require (instruction.cyclesNotTaken != 0 && instruction.cyclesTaken != 0)
    (invalid "IR guest instruction has zero retirement cycles")
  require (!instruction.controlFlow || i + 1 == count)
    (invalid "control-flow instruction must end an IR block")
  require (instruction.operations.getLast?.map (·.opcode) == some (.known .retireInstruction))
    (invalid "IR guest instruction must end with retirement")
  let values ← validateOperations instruction.operations.length i 0 [] instruction.operations
  require (instruction.operations.countP (·.opcode == .known .retireInstruction) == 1)
    (invalid "IR guest instruction must retire exactly once")
  require (instruction.operations.countP (·.opcode == .known .exit) ≤ 1)
    (invalid "IR guest instruction may exit at most once")
  validateSelector values invalid instruction
  require (instruction.length.setWidth 64 ≤ BitVec.allOnes 64 - expectedAddress)
    (invalid "IR guest instruction address overflows")

/-- The instructions from the `i`th on; the result is the address after the last one. -/
def validateInstructions (count : ℕ) :
    ℕ → BitVec 64 → List GuestInstruction → Except Invalid (BitVec 64)
  | _, expectedAddress, [] => .ok expectedAddress
  | i, expectedAddress, instruction :: instructions => do
    validateInstruction count i expectedAddress instruction
    validateInstructions count (i + 1) (expectedAddress + instruction.length.setWidth 64)
      instructions

def guardKindIsKnown (guard : Guard) : Bool :=
  match guard.kind with
  | .known _ => true
  | .unknown _ => false

/-- The guards in order, each against the ones before it. -/
def validateGuards : List Guard → List Guard → Except Invalid Unit
  | _, [] => .ok ()
  | prior, guard :: guards => do
    require (guardKindIsKnown guard) { message := "IR guard has an unknown kind" }
    require (guard.kind != .known .codeBytes || !guard.bytes.isEmpty)
      { message := "code-byte guard has no expected bytes" }
    require (guard.kind == .known .codeBytes || guard.bytes.isEmpty)
      { message := "non-code IR guard carries code bytes" }
    require (guard.kind != .known .codeBytes
        || guard.bytes.length - 1 ≤ (BitVec.allOnes 64 - guard.subject).toNat)
      { message := "code-byte guard address range overflows" }
    require (guard ∉ prior) { message := "IR block contains a duplicate guard" }
    validateGuards (prior ++ [guard]) guards

def validate (block : Block) : Except Invalid Unit := do
  require (!block.instructions.isEmpty) { message := "IR block has no guest instructions" }
  require (block.instructions.head?.map (·.address) == some block.guestStart)
    { message := "IR block start does not match its first instruction" }
  let expectedAddress ← validateInstructions block.instructions.length 0 block.guestStart
    block.instructions
  require (block.guestEnd == expectedAddress - 1)
    { message := "IR block end does not match its final instruction" }
  validateGuards [] block.guards

/-! ## Limits of the execution service -/

def kMaxInstructions : ℕ := 16
def kMaxGuestBytes : ℕ := 48
def kMaxGuards : ℕ := 16
def kMaxOpsPerInstruction : ℕ := 64
def kMaxOperandsPerOp : ℕ := 8
def kMaxValues : ℕ := 64
def kMaxCyclesPerInstruction : ℕ := 1000000

def namedValues (o : Operation) : List ValueId :=
  o.result.toList
    ++ (o.operands.filter fun operand => operand.kind == .known .value).map Operand.id

def instructionWithinLimits (instruction : GuestInstruction) : Bool :=
  instruction.cyclesNotTaken.toNat ≤ kMaxCyclesPerInstruction
    && instruction.cyclesTaken.toNat ≤ kMaxCyclesPerInstruction
    && instruction.operations.length ≤ kMaxOpsPerInstruction
    && instruction.operations.all (fun o => o.operands.length ≤ kMaxOperandsPerOp)
    && instruction.operations.all fun o => (namedValues o).all fun id => id.toNat ≤ kMaxValues

def checkLimits (block : Block) : Bool :=
  !block.instructions.isEmpty && block.guards.length ≤ kMaxGuards
    && block.instructions.length ≤ kMaxInstructions
    && (block.guards.map fun guard => guard.bytes.length).sum ≤ kMaxGuestBytes
    && (block.instructions.map fun instruction => instruction.length.toNat).sum ≤ kMaxGuestBytes
    && block.instructions.all instructionWithinLimits

end ProtoTime.IR.Plugin
