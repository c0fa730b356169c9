import ProtoTime.InstCycle.PluginBlocks

/-!
The portable interpreter on plugin blocks. The host answers every callback and
may change its own state with it; what the code would throw, or an index outside
the table of values, is an error here.
-/
namespace ProtoTime.IR.Plugin

inductive HostCall where
  | readRegister (id : BitVec 32) (type : TypeCode)
  | writeRegister (id : BitVec 32) (type : TypeCode) (value : BitVec 64)
  | loadMemory (address : BitVec 64) (type : TypeCode) (memoryClass : MemoryCode)
  | storeMemory (address : BitVec 64) (type : TypeCode) (memoryClass : MemoryCode)
      (value : BitVec 64)
  | callHelper (id : BitVec 32) (resultType : TypeCode) (arguments : List (BitVec 64))
  | setProgramCounter (address : BitVec 64)
  deriving DecidableEq

/-- A host whose callbacks all return. -/
abbrev InterpreterHost (η : Type) := HostCall → η → BitVec 64 × η

namespace Interpreter

/-- A type without an enumerator has no bits, as `void`. -/
def named : TypeCode → ValueType
  | .known type => type
  | .unknown _ => .void

def mask (type : TypeCode) : BitVec 64 := IR.Interpreter.mask (named type)

def truncate (value : BitVec 64) (type : TypeCode) : BitVec 64 := value &&& mask type

def bitWidth (type : TypeCode) : ℕ := IR.Interpreter.bitWidth (named type)

def shiftLeft (value amount : BitVec 64) (type : TypeCode) : BitVec 64 :=
  IR.Interpreter.shiftLeft value amount (named type)

def shiftRightLogical (value amount : BitVec 64) (type : TypeCode) : BitVec 64 :=
  IR.Interpreter.shiftRightLogical value amount (named type)

def shiftRightArithmetic (value amount : BitVec 64) (type : TypeCode) : BitVec 64 :=
  IR.Interpreter.shiftRightArithmetic value amount (named type)

def signedLess (lhs rhs : BitVec 64) (type : TypeCode) : Bool :=
  IR.Interpreter.signedLess lhs rhs (named type)

variable {η : Type}

/-- The value at an index of the table, where it has one. -/
def valueAt (values : List (BitVec 64)) (id : ValueId) : Except String (BitVec 64) :=
  (values[id.toNat]?).elim (.error "value out of range") .ok

def operandValue (values : List (BitVec 64)) (operand : Operand) : Except String (BitVec 64) :=
  if operand.kind = .known .value then valueAt values operand.id
  else .ok (truncate operand.payload operand.type)

/-- The table, what the instruction reported, and the host. -/
abbrev State := IR.Interpreter.State

variable (host : InterpreterHost η)

/-- One callback. -/
def call (s : State η) (request : HostCall) : BitVec 64 × State η :=
  ((host request s.host).1, { s with host := (host request s.host).2 })

/-- A value computed from one operand. -/
def unary (s : State η) (f : BitVec 64 → BitVec 64) (operand : Operand) :
    Except String (BitVec 64 × State η) := do
  let value ← operandValue s.values operand
  return (f value, s)

/-- A value computed from two operands. -/
def binary (s : State η) (f : BitVec 64 → BitVec 64 → BitVec 64) (lhs rhs : Operand) :
    Except String (BitVec 64 × State η) := do
  let first ← operandValue s.values lhs
  let second ← operandValue s.values rhs
  return (f first second, s)

def branchTo (s : State η) (target : Operand) : State η :=
  let jumped := (call host s (.setProgramCounter target.payload)).2
  { jumped with result := { jumped.result with branchTaken := true } }

def ofBool (condition : Bool) : BitVec 64 := if condition then 1 else 0

/-- The value of an operation and the state after its effect. -/
def executeOperation (o : Operation) (s : State η) : Except String (BitVec 64 × State η) :=
  match o.opcode, o.operands with
  | .known .constant, [operand] => unary s id operand
  | .known .readRegister, [register] =>
    .ok (call host s (.readRegister register.id o.resultType))
  | .known .writeRegister, [register, operand] => do
    let value ← operandValue s.values operand
    return (0, (call host s (.writeRegister register.id register.type value)).2)
  | .known .loadMemory, [operand] => do
    let address ← operandValue s.values operand
    return call host s (.loadMemory address o.resultType o.memoryClass)
  | .known .storeMemory, [first, second] => do
    let address ← operandValue s.values first
    let value ← operandValue s.values second
    return (0, (call host s (.storeMemory address second.type o.memoryClass value)).2)
  | .known .add, [lhs, rhs] => binary s (· + ·) lhs rhs
  | .known .subtract, [lhs, rhs] => binary s (· - ·) lhs rhs
  | .known .multiply, [lhs, rhs] => binary s (· * ·) lhs rhs
  | .known .bitAnd, [lhs, rhs] => binary s (· &&& ·) lhs rhs
  | .known .bitOr, [lhs, rhs] => binary s (· ||| ·) lhs rhs
  | .known .bitXor, [lhs, rhs] => binary s (· ^^^ ·) lhs rhs
  | .known .shiftLeft, [lhs, rhs] =>
    binary s (fun value amount => shiftLeft value amount o.resultType) lhs rhs
  | .known .shiftRightLogical, [lhs, rhs] =>
    binary s (fun value amount => shiftRightLogical value amount o.resultType) lhs rhs
  | .known .shiftRightArithmetic, [lhs, rhs] =>
    binary s (fun value amount => shiftRightArithmetic value amount o.resultType) lhs rhs
  | .known .bitNot, [operand] => unary s (~~~ ·) operand
  | .known .compareEqual, [lhs, rhs] => binary s (fun x y => ofBool (x == y)) lhs rhs
  | .known .compareNotEqual, [lhs, rhs] => binary s (fun x y => ofBool (x != y)) lhs rhs
  | .known .compareUnsignedLess, [lhs, rhs] =>
    binary s (fun x y => ofBool (decide (x < y))) lhs rhs
  | .known .compareSignedLess, [lhs, rhs] =>
    binary s (fun x y => ofBool (signedLess x y lhs.type)) lhs rhs
  | .known .select, [condition, whenTrue, whenFalse] => do
    let chosen ← operandValue s.values condition
    unary s id (if chosen ≠ 0 then whenTrue else whenFalse)
  | .known .setProgramCounter, [operand] => do
    let address ← operandValue s.values operand
    return (0, (call host s (.setProgramCounter address)).2)
  | .known .branch, [target] => .ok (0, branchTo host s target)
  | .known .branchIf, [operand, target] => do
    let condition ← operandValue s.values operand
    return (0, if condition ≠ 0 then branchTo host s target else s)
  | .known .callHelper, helper :: operands => do
    let arguments ← operands.mapM (operandValue s.values)
    return call host s (.callHelper helper.id o.resultType arguments)
  | .known .exit, _ => .ok (0, { s with result := { s.result with exitRequested := true } })
  | .known .retireInstruction, _ =>
    .ok (0, { s with result := { s.result with retirementReached := true } })
  | _, _ => .error "unknown portable IR opcode"

/-- The result of an operation put into its place of the table. -/
def assignResult (o : Operation) (value : BitVec 64) (s : State η) : Except String (State η) :=
  match o.result with
  | none => .ok s
  | some id =>
    if id.toNat < s.values.length then
      .ok { s with values := s.values.set id.toNat (truncate value o.resultType) }
    else .error "value out of range"

/-- The operations in order. After an exit only the retirement runs, and nothing runs after it. -/
def executeOperations (host : InterpreterHost η) :
    List Operation → State η → Except String (State η)
  | [], s => .ok s
  | o :: operations, s =>
    if s.result.exitRequested ∧ o.opcode ≠ .known .retireInstruction then
      executeOperations host operations s
    else do
      let (value, executed) ← executeOperation host o s
      let assigned ← assignResult o value executed
      if assigned.result.retirementReached then return assigned
      executeOperations host operations assigned

/-- The highest number of a result. -/
def maxValue (operations : List Operation) : ℕ :=
  (operations.filterMap fun o => o.result.map BitVec.toNat).foldl max 0

/-- Before the first operation every value is zero. -/
def start (instruction : GuestInstruction) (h : η) : State η :=
  ⟨List.replicate (maxValue instruction.operations + 1) 0, {}, h⟩

/-- The choice of the cycle count. -/
def selectCycles (instruction : GuestInstruction) (s : State η) : Except String (State η) :=
  match instruction.takenCondition with
  | none => .ok s
  | some condition => do
    let value ← valueAt s.values condition
    return { s with result := { s.result with cycleCondition := value != 0 } }

def execute (instruction : GuestInstruction) (h : η) :
    Except String (State η) := do
  let s ← executeOperations host instruction.operations (start instruction h)
  selectCycles instruction s

end Interpreter

end ProtoTime.IR.Plugin
