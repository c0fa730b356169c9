import ProtoTime.InstCycle.Validation

/-!
The interpreter as a program of host calls. Every call carries all its
arguments, and the host is any handler in any monad, so that two programs are
equal only if they make the same calls in the same order.
-/
namespace ProtoTime.IR

inductive HostCall where
  | readRegister (id : ℕ) (type : ValueType)
  | writeRegister (id : ℕ) (type : ValueType) (value : BitVec 64)
  | loadMemory (address : BitVec 64) (type : ValueType) (memoryClass : MemoryClass)
  | storeMemory (address : BitVec 64) (type : ValueType) (memoryClass : MemoryClass)
      (value : BitVec 64)
  | callHelper (id : ℕ) (resultType : ValueType) (arguments : List (BitVec 64))
  | setProgramCounter (address : BitVec 64)
  deriving DecidableEq

namespace Interpreter

section Programs

universe u

variable {M : Type → Type u} [Monad M] [MonadExcept String M]

/-- A refusal of the interpreter itself. -/
def raise {α : Type} : Except String α → M α
  | .ok a => pure a
  | .error message => throw message

def operationCalls (host : HostCall → M (BitVec 64)) (operation : Operation)
    (values : List (BitVec 64)) (result : InterpreterResult) :
    M (BitVec 64 × InterpreterResult) := do
  let arguments ← raise (operandValues values operation.operands)
  match operation.opcode, operation.operands, arguments with
  | .readRegister, [.guestRegister id _], _ =>
    let value ← host (.readRegister id operation.resultType)
    pure (value, result)
  | .writeRegister, [.guestRegister id type, _], [_, value] =>
    let _ ← host (.writeRegister id type value)
    pure (0, result)
  | .loadMemory, _, [address] =>
    let value ← host (.loadMemory address operation.resultType operation.memoryClass)
    pure (value, result)
  | .storeMemory, [_, stored], [address, value] =>
    let _ ← host (.storeMemory address (operandType stored) operation.memoryClass value)
    pure (0, result)
  | .setProgramCounter, _, [address] =>
    let _ ← host (.setProgramCounter address)
    pure (0, result)
  | .branch, [target], _ =>
    let _ ← host (.setProgramCounter (payload target))
    pure (0, { result with branchTaken := true })
  | .branchIf, [_, target], [condition, _] =>
    if condition ≠ 0 then
      let _ ← host (.setProgramCounter (payload target))
      pure (0, { result with branchTaken := true })
    else pure (0, result)
  | .callHelper, .helper id _ :: _, _ :: rest =>
    let value ← host (.callHelper id operation.resultType rest)
    pure (value, result)
  | .exit, _, _ => pure (0, { result with exitRequested := true })
  | .retireInstruction, _, _ => pure (0, { result with retirementReached := true })
  | opcode, operands, _ =>
    match compute opcode operation.resultType operands arguments with
    | some value => pure (value, result)
    | none => throw "unknown portable IR opcode"

/-- The values after an operation. -/
def assignResult (operation : Operation) (value : BitVec 64) (values : List (BitVec 64)) :
    List (BitVec 64) :=
  match operation.result with
  | some id => values.set id (truncate value operation.resultType)
  | none => values

def operationsCalls (host : HostCall → M (BitVec 64)) : List Operation → List (BitVec 64) →
    InterpreterResult → M (List (BitVec 64) × InterpreterResult)
  | [], values, result => pure (values, result)
  | operation :: operations, values, result =>
    if result.exitRequested ∧ operation.opcode ≠ .retireInstruction then
      operationsCalls host operations values result
    else do
      let (value, result) ← operationCalls host operation values result
      let values := assignResult operation value values
      if result.retirementReached then pure (values, result)
      else operationsCalls host operations values result

/-- The number of values an instruction needs. -/
def valueCount (operations : List Operation) : ℕ :=
  (operations.filterMap (·.result)).foldl max 0 + 1

def executeCalls (host : HostCall → M (BitVec 64)) (instruction : GuestInstruction) :
    M InterpreterResult := do
  let (values, result) ← operationsCalls host instruction.operations
    (List.replicate (valueCount instruction.operations) 0) {}
  match instruction.takenCondition with
  | none => pure result
  | some condition =>
    let value ← raise (operandValue values (.value condition .bool))
    pure { result with cycleCondition := value != 0 }

def operationValue (host : HostCall → M (BitVec 64)) (operation : Operation)
    (arguments : List (BitVec 64)) : M (BitVec 64) :=
  match operation.opcode, operation.operands, arguments with
  | .readRegister, [.guestRegister id _], _ => host (.readRegister id operation.resultType)
  | .writeRegister, [.guestRegister id type, _], [_, value] => do
    let _ ← host (.writeRegister id type value)
    pure 0
  | .loadMemory, _, [address] =>
    host (.loadMemory address operation.resultType operation.memoryClass)
  | .storeMemory, [_, stored], [address, value] => do
    let _ ← host (.storeMemory address (operandType stored) operation.memoryClass value)
    pure 0
  | .setProgramCounter, _, [address] => do
    let _ ← host (.setProgramCounter address)
    pure 0
  | .branch, [target], _ => do
    let _ ← host (.setProgramCounter (payload target))
    pure 0
  | .branchIf, [_, target], [condition, _] =>
    if condition ≠ 0 then do
      let _ ← host (.setProgramCounter (payload target))
      pure 0
    else pure 0
  | .callHelper, .helper id _ :: _, _ :: rest =>
    host (.callHelper id operation.resultType rest)
  | .exit, _, _ | .retireInstruction, _, _ => pure 0
  | opcode, operands, _ =>
    match compute opcode operation.resultType operands arguments with
    | some value => pure value
    | none => throw "unknown portable IR opcode"

/-- What an operation reports; no host call decides it. -/
def resultAfter (operation : Operation) (arguments : List (BitVec 64))
    (result : InterpreterResult) : InterpreterResult :=
  match operation.opcode, operation.operands, arguments with
  | .branch, [_], _ => { result with branchTaken := true }
  | .branchIf, [_, _], [condition, _] =>
    if condition ≠ 0 then { result with branchTaken := true } else result
  | .exit, _, _ => { result with exitRequested := true }
  | .retireInstruction, _, _ => { result with retirementReached := true }
  | _, _, _ => result

end Programs

end Interpreter

namespace InterpreterHost

variable {η : Type}

/-- The callbacks of a host that sees neither the types of registers nor memory classes. -/
def answer (host : InterpreterHost η) : HostCall → StateT η (Except String) (BitVec 64)
  | .readRegister id _ => fun h => .ok (host.readRegister id h, h)
  | .writeRegister id _ value => fun h => .ok (0, host.writeRegister id value h)
  | .loadMemory address type _ => fun h =>
    (host.loadMemory address type h).map fun value => (value, h)
  | .storeMemory address type _ value => fun h =>
    (host.storeMemory address type value h).map fun h => (0, h)
  | .callHelper id _ arguments => fun h => host.callHelper id arguments h
  | .setProgramCounter address => fun h => .ok (0, host.setProgramCounter address h)

end InterpreterHost

namespace Interpreter

variable {η : Type} (host : InterpreterHost η)

end Interpreter

end ProtoTime.IR
