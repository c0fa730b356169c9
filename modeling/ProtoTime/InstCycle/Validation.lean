import ProtoTime.Results
import ProtoTime.InstCycle.Interpreter

/-!
The checks a finished block passes before a backend sees it: contiguous
instructions, one retirement each, operands of the right number, kind and type,
and well-formed guards.
-/
namespace ProtoTime.IR

open Results Interpreter

inductive BlockExit where
  | sequential | controlFlow | interruptBoundary | unsupported
  deriving DecidableEq

structure FinishedBlock extends Block where
  guestEnd : ℕ
  exit : BlockExit
  deriving DecidableEq

structure Invalid where
  message : String
  instructionIndex : ℕ := 0
  operationIndex : ℕ := 0
  deriving DecidableEq

def kMaxUint32 : ℕ := 0xFFFFFFFF

def kMaxUint64 : ℕ := 0xFFFFFFFFFFFFFFFF

def requiresResult : Opcode → Bool
  | .constant | .readRegister | .loadMemory | .add | .subtract | .multiply | .bitAnd | .bitOr
  | .bitXor | .shiftLeft | .shiftRightLogical | .shiftRightArithmetic | .bitNot | .compareEqual
  | .compareNotEqual | .compareUnsignedLess | .compareSignedLess | .select => true
  | _ => false

def forbidsResult (opcode : Opcode) : Bool := opcode != .callHelper && !requiresResult opcode

def validOperandCount (opcode : Opcode) (count : ℕ) : Bool :=
  match opcode with
  | .constant | .readRegister | .loadMemory | .bitNot | .setProgramCounter | .branch => count == 1
  | .writeRegister | .storeMemory | .add | .subtract | .multiply | .bitAnd | .bitOr | .bitXor
  | .shiftLeft | .shiftRightLogical | .shiftRightArithmetic | .compareEqual | .compareNotEqual
  | .compareUnsignedLess | .compareSignedLess | .branchIf => count == 2
  | .select => count == 3
  | .callHelper => 1 ≤ count
  | .exit | .retireInstruction => count == 0

def isInteger (type : ValueType) : Bool :=
  type == .i8 || type == .i16 || type == .i32 || type == .i64

def operandIsValueLike : Operand → Bool
  | .value .. | .immediate .. => true
  | _ => false

def operandIsAddress : Operand → Bool
  | .value .. | .guestAddress .. => true
  | _ => false

def semanticTypesValid (o : Operation) : Bool :=
  match o.opcode, o.operands with
  | .constant, [.immediate _ type] | .readRegister, [.guestRegister _ type] => type == o.resultType
  | .writeRegister, [.guestRegister _ type, value] =>
    operandIsValueLike value && type == operandType value
  | .loadMemory, [address] =>
    operandIsAddress address && isInteger (operandType address) && isInteger o.resultType
  | .storeMemory, [address, value] =>
    operandIsAddress address && isInteger (operandType address) && operandIsValueLike value &&
      isInteger (operandType value)
  | .add, [lhs, rhs] | .subtract, [lhs, rhs] | .multiply, [lhs, rhs] | .bitAnd, [lhs, rhs]
  | .bitOr, [lhs, rhs] | .bitXor, [lhs, rhs] | .shiftLeft, [lhs, rhs]
  | .shiftRightLogical, [lhs, rhs] | .shiftRightArithmetic, [lhs, rhs] =>
    isInteger o.resultType && operandIsValueLike lhs && operandIsValueLike rhs &&
      operandType lhs == o.resultType && operandType rhs == o.resultType
  | .bitNot, [operand] =>
    isInteger o.resultType && operandIsValueLike operand && operandType operand == o.resultType
  | .compareEqual, [lhs, rhs] | .compareNotEqual, [lhs, rhs] | .compareUnsignedLess, [lhs, rhs]
  | .compareSignedLess, [lhs, rhs] =>
    o.resultType == .bool && operandIsValueLike lhs && operandIsValueLike rhs &&
      isInteger (operandType lhs) && operandType lhs == operandType rhs
  | .select, [.value _ type, whenTrue, whenFalse] =>
    type == .bool && operandIsValueLike whenTrue && operandIsValueLike whenFalse &&
      operandType whenTrue == o.resultType && operandType whenFalse == o.resultType
  | .setProgramCounter, [address] =>
    operandIsValueLike address && isInteger (operandType address)
  | .branch, [.blockTarget _ _] => true
  | .branchIf, [.value _ type, .blockTarget _ _] => type == .bool
  | .callHelper, .helper _ _ :: _ => true
  | .exit, _ | .retireInstruction, _ => true
  | _, _ => false

/-- The values an instruction computed so far, with their types. -/
abbrev ValueTypes := List (ℕ × ValueType)

def declareResult (values : ValueTypes) (o : Operation) (invalid : String → Invalid) :
    Except Invalid ValueTypes :=
  match o.result with
  | some id =>
    if id = 0 ∨ o.resultType = .void ∨ (values.lookup id).isSome then
      .error (invalid "IR operation has an invalid or duplicate result")
    else .ok ((id, o.resultType) :: values)
  | none =>
    if o.resultType ≠ .void then .error (invalid "result-less IR operation has a non-void type")
    else .ok values

/-- Identifiers fit the host interface, and a value has the type it was computed with. -/
def validateOperand (values : ValueTypes) (invalid : String → Invalid) :
    Operand → Except Invalid Unit
  | .value id type => do
    require (id ≤ kMaxUint32) (invalid "IR operand ID exceeds the host ABI width")
    require (values.lookup id == some type)
      (invalid "IR operation uses an undefined or mistyped value")
  | .guestRegister id _ | .helper id _ =>
    require (id ≤ kMaxUint32) (invalid "IR operand ID exceeds the host ABI width")
  | _ => .ok ()

def validateOperation (size : ℕ) (invalid : String → Invalid) (j : ℕ) (values : ValueTypes)
    (o : Operation) : Except Invalid ValueTypes := do
  require (validOperandCount o.opcode o.operands.length)
    (invalid "IR operation has invalid operand count")
  require (!requiresResult o.opcode || o.result.isSome) (invalid "IR operation requires a result")
  require (!forbidsResult o.opcode || o.result.isNone) (invalid "IR operation forbids a result")
  let values ← declareResult values o invalid
  o.operands.forM (validateOperand values invalid)
  require (semanticTypesValid o) (invalid "IR operation has invalid operand kinds or types")
  require (o.opcode == .loadMemory || o.opcode == .storeMemory || o.memoryClass == .generic)
    (invalid "non-memory IR operation has a memory class")
  require (o.opcode != .retireInstruction || j + 1 == size)
    (invalid "retirement must be the final IR operation")
  require (o.opcode != .exit || j + 2 == size) (invalid "exit must immediately precede retirement")
  return values

def validateOperations (size i : ℕ) : ℕ → ValueTypes → List Operation → Except Invalid ValueTypes
  | _, values, [] => .ok values
  | j, values, o :: operations => do
    let values ← validateOperation size (fun message => ⟨message, i, j⟩) j values o
    validateOperations size i (j + 1) values operations

def validateInstruction (count i expectedAddress : ℕ) (instruction : GuestInstruction) :
    Except Invalid Unit := do
  let invalid (message : String) : Invalid := ⟨message, i, 0⟩
  require (instruction.address == expectedAddress) (invalid "IR guest instructions are not contiguous")
  require (instruction.length != 0) (invalid "IR guest instruction has zero length")
  require (instruction.cyclesNotTaken != 0 && instruction.cyclesTaken != 0)
    (invalid "IR guest instruction has zero retirement cycles")
  require (!instruction.controlFlow || i + 1 == count)
    (invalid "control-flow instruction must end an IR block")
  require ((instruction.operations.getLast?.map (·.opcode)) == some .retireInstruction)
    (invalid "IR guest instruction must end with retirement")
  let values ← validateOperations instruction.operations.length i 0 [] instruction.operations
  require (instruction.operations.countP (·.opcode == .retireInstruction) == 1)
    (invalid "IR guest instruction must retire exactly once")
  require (instruction.operations.countP (·.opcode == .exit) ≤ 1)
    (invalid "IR guest instruction may exit at most once")
  match instruction.takenCondition with
  | some condition =>
    require (values.lookup condition == some .bool) (invalid "cycle selector must name a boolean value")
  | none =>
    require (instruction.cyclesNotTaken == instruction.cyclesTaken)
      (invalid "variable-cycle instruction requires a cycle selector")
  require (instruction.length ≤ kMaxUint64 - expectedAddress)
    (invalid "IR guest instruction address overflows")

/-- The instructions from the `i`th on; the result is the address after the last one. -/
def validateInstructions (count : ℕ) : ℕ → ℕ → List GuestInstruction → Except Invalid ℕ
  | _, expectedAddress, [] => .ok expectedAddress
  | i, expectedAddress, instruction :: instructions => do
    validateInstruction count i expectedAddress instruction
    validateInstructions count (i + 1) (expectedAddress + instruction.length) instructions

/-- The guards in order, each against the ones before it. -/
def validateGuards : List Guard → List Guard → Except Invalid Unit
  | _, [] => .ok ()
  | prior, guard :: guards => do
    require (guard.kind != .codeBytes || !guard.bytes.isEmpty)
      { message := "code-byte guard has no expected bytes" }
    require (guard.kind == .codeBytes || guard.bytes.isEmpty)
      { message := "non-code IR guard carries code bytes" }
    require (guard.kind != .codeBytes || guard.bytes.length - 1 ≤ kMaxUint64 - guard.subject)
      { message := "code-byte guard address range overflows" }
    require (guard ∉ prior) { message := "IR block contains a duplicate guard" }
    validateGuards (prior ++ [guard]) guards

def validate (block : FinishedBlock) : Except Invalid Unit := do
  require (!block.instructions.isEmpty) { message := "IR block has no guest instructions" }
  require ((block.instructions.head?.map (·.address)) == some block.guestStart)
    { message := "IR block start does not match its first instruction" }
  let expectedAddress ← validateInstructions block.instructions.length 0 block.guestStart
    block.instructions
  require (block.guestEnd == expectedAddress - 1)
    { message := "IR block end does not match its final instruction" }
  validateGuards [] block.guards

end ProtoTime.IR
