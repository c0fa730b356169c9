import ProtoTime.InstCycle.WholeBlock
import Mathlib.Algebra.GroupWithZero.Nat

/-!
The emitter of whole blocks. Its output is kept as the statements it prints: one
scope for each instruction, in which every value is declared once and an effect
is guarded by the pending exit. The last section gives the statements their
meaning in unsigned 64-bit arithmetic.
-/
namespace ProtoTime.IR.Research

open Results Interpreter

universe u

inductive BinaryOperator where
  | plus | minus | times | bitAnd | bitOr | bitXor | equal | notEqual | less
  deriving DecidableEq

/-- An expression without host calls; every printed operator stands alone in its parentheses. -/
inductive Expr where
  | value (id : ℕ)
  | number (n : BitVec 64)
  | binary (operator : BinaryOperator) (lhs rhs : Expr)
  | bitNot (operand : Expr)
  | conditional (condition whenTrue whenFalse : Expr)
  deriving DecidableEq

/-- The name of a helper's argument array. -/
abbrev ArrayName := ℕ × ℕ

inductive Initializer where
  | expr (e : Expr)
  | readRegister (id : BitVec 64) (type : ValueType)
  | loadMemory (address : Expr) (type : ValueType) (memoryClass : MemoryClass)
  | callHelper (id : BitVec 64) (type : ValueType) (arguments : ArrayName)
  deriving DecidableEq

inductive Effect where
  | writeRegister (id : BitVec 64) (type : ValueType) (value : Expr)
  | storeMemory (address : Expr) (type : ValueType) (memoryClass : MemoryClass) (value : Expr)
  | setProgramCounter (address : Expr)
  | branch (target : BitVec 64)
  | branchIf (condition : Expr) (target : BitVec 64)
  | callHelper (id : BitVec 64) (type : ValueType) (arguments : ArrayName)
  | exitRequested
  | retirementReached
  deriving DecidableEq

inductive Statement where
  | arguments (name : ArrayName) (values : List Expr)
  | declare (id : ℕ) (initializer : Initializer) (mask : BitVec 64)
  | effect (retirement : Bool) (effect : Effect)
  deriving DecidableEq

structure EmittedInstruction where
  statements : List Statement
  cycleCondition : Option ℕ
  deriving DecidableEq

/-- The entry, with the block and the architecture its metadata rebuilds. -/
structure EmittedBlock where
  identifier : List Char
  instructions : List EmittedInstruction
  block : FinishedBlock
  architecture : ℕ
  deriving DecidableEq

def kMaxInstructions : ℕ := 16

def kMaxGuestBytes : ℕ := 48

def kIdentifierPrefix : List Char := ['e', 'm', 'i', 't', 't', 'e', 'd']

def operand : Operand → Expr
  | .value id _ => .value id
  | op => .number (payload op &&& mask (operandType op))

/-- What an operation prints after its operands: an initializer or an effect. -/
inductive Emitted where
  | value (initializer : Initializer)
  | statement (effect : Effect)
  deriving DecidableEq

/-- The printed form of an operation; `name` is the argument array of a helper call. -/
def emitExpression (name : ArrayName) (o : Operation) : Except String Emitted :=
  let binary operator lhs rhs : Except String Emitted :=
    .ok (.value (.expr (.binary operator (operand lhs) (operand rhs))))
  match o.opcode, o.operands with
  | .constant, [value] => .ok (.value (.expr (operand value)))
  | .readRegister, [register] => .ok (.value (.readRegister (payload register) o.resultType))
  | .writeRegister, [register, value] =>
    .ok (.statement (.writeRegister (payload register) (operandType register) (operand value)))
  | .loadMemory, [address] =>
    .ok (.value (.loadMemory (operand address) o.resultType o.memoryClass))
  | .storeMemory, [address, value] =>
    .ok (.statement (.storeMemory (operand address) (operandType value) o.memoryClass
      (operand value)))
  | .add, [lhs, rhs] => binary .plus lhs rhs
  | .subtract, [lhs, rhs] => binary .minus lhs rhs
  | .multiply, [lhs, rhs] => binary .times lhs rhs
  | .bitAnd, [lhs, rhs] => binary .bitAnd lhs rhs
  | .bitOr, [lhs, rhs] => binary .bitOr lhs rhs
  | .bitXor, [lhs, rhs] => binary .bitXor lhs rhs
  | .bitNot, [value] => .ok (.value (.expr (.bitNot (operand value))))
  | .compareEqual, [lhs, rhs] => binary .equal lhs rhs
  | .compareNotEqual, [lhs, rhs] => binary .notEqual lhs rhs
  | .compareUnsignedLess, [lhs, rhs] => binary .less lhs rhs
  | .select, [condition, whenTrue, whenFalse] =>
    .ok (.value (.expr (.conditional (operand condition) (operand whenTrue) (operand whenFalse))))
  | .setProgramCounter, [address] => .ok (.statement (.setProgramCounter (operand address)))
  | .branch, [target] => .ok (.statement (.branch (payload target)))
  | .branchIf, [condition, target] =>
    .ok (.statement (.branchIf (operand condition) (payload target)))
  | .callHelper, helper :: _ =>
    if o.result.isNone then .ok (.statement (.callHelper (payload helper) o.resultType name))
    else .ok (.value (.callHelper (payload helper) o.resultType name))
  | .exit, _ => .ok (.statement .exitRequested)
  | .retireInstruction, _ => .ok (.statement .retirementReached)
  | _, _ => .error "opcode outside whole-block pilot"

def emitArguments (name : ArrayName) (o : Operation) : List Statement :=
  if o.opcode = .callHelper then [.arguments name (o.operands.tail.map operand)] else []

def emitOperation (name : ArrayName) (o : Operation) : Except String (List Statement) := do
  require (o.operands.length ≤ 8 && o.result.all (· < 64)) "emission value budget exceeded"
  match ← emitExpression name o with
  | .statement effect =>
    return emitArguments name o ++ [.effect (o.opcode = .retireInstruction) effect]
  | .value initializer =>
    match o.result with
    | none => throw "missing emitted result"
    | some id =>
      return emitArguments name o ++ [.declare id initializer (mask o.resultType)]

def emitOperations (index : ℕ) : ℕ → List Operation → Except String (List Statement)
  | _, [] => .ok []
  | position, o :: operations => do
    let statements ← emitOperation (index, position) o
    return statements ++ (← emitOperations index (position + 1) operations)

def emitInstruction (index : ℕ) (i : GuestInstruction) : Except String EmittedInstruction := do
  require (i.operations.length ≤ 64) "emission operation budget exceeded"
  return { statements := ← emitOperations index 0 i.operations, cycleCondition := i.takenCondition }

def emitInstructions : ℕ → List GuestInstruction → Except String (List EmittedInstruction)
  | _, [] => .ok []
  | index, i :: instructions => do
    let emitted ← emitInstruction index i
    return emitted :: (← emitInstructions (index + 1) instructions)

def validIdentifier (id : List Char) : Bool :=
  id.length ≤ 96 && kIdentifierPrefix.isPrefixOf id && id.all fun c => c.isAlphanum || c == '_'

def emitWholeBlock (block : FinishedBlock) (id : List Char) (architecture : ℕ) :
    Except String EmittedBlock := do
  require (validIdentifier id) "invalid emitted identifier"
  match validate block with
  | .error invalid => throw ("invalid IR: " ++ invalid.message)
  | .ok () => pure ()
  require (block.instructions.length ≤ kMaxInstructions && block.guards.length ≤ 16)
    "emission budget exceeded"
  require ((block.instructions.map (·.length)).sum ≤ kMaxGuestBytes)
    "emission byte budget exceeded"
  require (block.guards.all fun guard => guard.bytes.length ≤ kMaxGuestBytes)
    "emission guard budget exceeded"
  return {
    identifier := id
    instructions := ← emitInstructions 0 block.instructions
    block := block
    architecture := architecture }

/-- The names declared in the scope of an instruction, and its result. -/
structure Locals where
  values : List (ℕ × BitVec 64) := []
  arrays : List (ArrayName × List (BitVec 64)) := []
  result : InterpreterResult := {}

def BinaryOperator.apply (operator : BinaryOperator) (lhs rhs : BitVec 64) : BitVec 64 :=
  match operator with
  | .plus => lhs + rhs
  | .minus => lhs - rhs
  | .times => lhs * rhs
  | .bitAnd => lhs &&& rhs
  | .bitOr => lhs ||| rhs
  | .bitXor => lhs ^^^ rhs
  | .equal => if lhs = rhs then 1 else 0
  | .notEqual => if lhs ≠ rhs then 1 else 0
  | .less => if lhs < rhs then 1 else 0

/-- A name that was not declared has no value. -/
def Expr.eval (l : Locals) : Expr → Except String (BitVec 64)
  | .value id => (l.values.lookup id).elim (.error "undeclared value") .ok
  | .number n => .ok n
  | .binary operator lhs rhs => do return operator.apply (← lhs.eval l) (← rhs.eval l)
  | .bitNot operand => do return ~~~ (← operand.eval l)
  | .conditional condition whenTrue whenFalse => do
    if (← condition.eval l) ≠ 0 then whenTrue.eval l else whenFalse.eval l

/-- What an entry runs against: the host, and the registers of a direct entry. -/
structure Context (M : Type → Type u) where
  host : HostCall → M (BitVec 64)
  registers : Option (DirectRegisters M) := none

namespace Context

variable {M : Type → Type u} [Monad M] [MonadExcept String M] (c : Context M)

def readRegister (id : ℕ) (type : ValueType) : M (BitVec 64) :=
  match c.registers with
  | some r => r.read id
  | none => c.host (.readRegister id type)

def writeRegister (id : ℕ) (type : ValueType) (value : BitVec 64) : M Unit :=
  match c.registers with
  | some r => r.write id value
  | none => do
    let _ ← c.host (.writeRegister id type value)

/-- Number 13 is the program counter of a direct entry. -/
def setProgramCounter (address : BitVec 64) : M Unit :=
  match c.registers with
  | some r => r.write 13 address
  | none => do
    let _ ← c.host (.setProgramCounter address)

/-- A literal passed as a 32-bit identifier. -/
def identifierOf (n : BitVec 64) : ℕ := (n.setWidth 32).toNat

def callHelper (l : Locals) (id : BitVec 64) (type : ValueType) (name : ArrayName) :
    M (BitVec 64) :=
  match l.arrays.lookup name with
  | some arguments => c.host (.callHelper (identifierOf id) type arguments)
  | none => throw "undeclared array"

def initialValue (l : Locals) : Initializer → M (BitVec 64)
  | .expr e => raise (e.eval l)
  | .readRegister id type => c.readRegister (identifierOf id) type
  | .loadMemory address type memoryClass => do
    let address ← raise (address.eval l)
    c.host (.loadMemory address type memoryClass)
  | .callHelper id type name => c.callHelper l id type name

def perform (l : Locals) : Effect → M Locals
  | .writeRegister id type value => do
    let value ← raise (value.eval l)
    c.writeRegister (identifierOf id) type value
    pure l
  | .storeMemory address type memoryClass value => do
    let address ← raise (address.eval l)
    let value ← raise (value.eval l)
    let _ ← c.host (.storeMemory address type memoryClass value)
    pure l
  | .setProgramCounter address => do
    let address ← raise (address.eval l)
    c.setProgramCounter address
    pure l
  | .branch target => do
    c.setProgramCounter target
    pure { l with result := { l.result with branchTaken := true } }
  | .branchIf condition target => do
    let condition ← raise (condition.eval l)
    if condition ≠ 0 then
      c.setProgramCounter target
      pure { l with result := { l.result with branchTaken := true } }
    else pure l
  | .callHelper id type name => do
    let _ ← c.callHelper l id type name
    pure l
  | .exitRequested => pure { l with result := { l.result with exitRequested := true } }
  | .retirementReached => pure { l with result := { l.result with retirementReached := true } }

/-- After an exit a declared value is zero and only the retirement still acts. -/
def runStatement (l : Locals) : Statement → M Locals
  | .arguments name values => do
    let values ← raise (values.mapM (Expr.eval l))
    pure { l with arrays := (name, values) :: l.arrays }
  | .declare id initializer mask =>
    if l.result.exitRequested then pure { l with values := (id, 0) :: l.values }
    else do
      let value ← c.initialValue l initializer
      pure { l with values := (id, value &&& mask) :: l.values }
  | .effect retirement effect =>
    if ¬ l.result.exitRequested ∨ retirement then c.perform l effect else pure l

def runStatements : List Statement → Locals → M Locals
  | [], l => pure l
  | statement :: statements, l => do
    let l ← c.runStatement l statement
    runStatements statements l

def runInstruction (i : EmittedInstruction) : M InterpreterResult := do
  let l ← c.runStatements i.statements {}
  match i.cycleCondition with
  | none => pure l.result
  | some condition => do
    let value ← raise (Expr.eval l (.value condition))
    pure { l.result with cycleCondition := value != 0 }

end Context

/-- The printed entry, run under the invocation. -/
def EmittedBlock.execute {M : Type → Type u} [Monad M] [MonadExcept String M]
    (emitted : EmittedBlock) (c : Context M) (hooks : Hooks M) (instructions cycles : ℕ) :
    M Progress :=
  Invocation.execute hooks emitted.block (emitted.instructions.map c.runInstruction) instructions
    cycles

end ProtoTime.IR.Research
