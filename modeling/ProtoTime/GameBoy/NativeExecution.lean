import ProtoTime.InstCycle.PluginInterpreter

/-!
Native execution of Game Boy blocks: an accepted instruction becomes a plan of
fixed size, and a thunk runs the plan against the table of callbacks. The host
of the portable interpreter that forwards to the same table stands beside it.
-/
namespace ProtoTime.GameBoy

open IR IR.Plugin Results

namespace IRExecution

/-- The table of callbacks, with the fields by which it is recognised; every callback returns and
may change what it works on. -/
structure ExecutionAbi (η : Type) where
  structSize : BitVec 32
  version : BitVec 32
  /-- Whether the pointer to the processor state is not null. -/
  hasContext : Bool
  readRegister : BitVec 32 → η → BitVec 64 × η
  writeRegister : BitVec 32 → BitVec 64 → η → η
  readMemory8 : BitVec 16 → η → BitVec 8 × η
  writeMemory8 : BitVec 16 → BitVec 8 → η → η
  callHelper : BitVec 32 → List (BitVec 64) → η → BitVec 64 × η

def kExecutionAbiSize : BitVec 32 := 72

def kExecutionAbiVersion : BitVec 32 := 1

def kProgramCounter : BitVec 32 := 13

variable {η : Type}

def ExecutionAbi.valid (abi : ExecutionAbi η) : Bool :=
  abi.structSize == kExecutionAbiSize && abi.version == kExecutionAbiVersion && abi.hasContext

/-- The host that forwards every callback to the table. -/
def abiHost (abi : ExecutionAbi η) : Plugin.InterpreterHost η
  | .readRegister id _, h => abi.readRegister id h
  | .writeRegister id _ value, h => (0, abi.writeRegister id value h)
  | .loadMemory address _ _, h =>
    let (value, h) := abi.readMemory8 (address.setWidth 16) h
    (value.setWidth 64, h)
  | .storeMemory address _ _ value, h =>
    (0, abi.writeMemory8 (address.setWidth 16) (value.setWidth 8) h)
  | .callHelper id _ arguments, h => abi.callHelper id arguments h
  | .setProgramCounter address, h => (0, abi.writeRegister kProgramCounter address h)

end IRExecution

namespace NativeExecution

open IRExecution Interpreter

def kMaxOperations : ℕ := 64
def kMaxOperands : ℕ := 8
def kMaxValues : ℕ := 64

structure PlannedOperation where
  opcode : Enumerator Opcode
  resultType : TypeCode
  memoryClass : MemoryCode
  result : Option ValueId
  operands : List Plugin.Operand

structure InstructionPlan where
  operations : List PlannedOperation
  takenCondition : Option ValueId

/-! ## Plans -/

/-- Memory operations of other widths have no callback. -/
def supportsMemoryWidth (source : Plugin.Operation) : Bool :=
  match source.opcode with
  | .known .loadMemory => source.resultType == .known .i8
  | .known .storeMemory => (source.operands[1]?.map (·.type)) == some (.known .i8)
  | _ => true

def planOperation (source : Plugin.Operation) : Except String PlannedOperation := do
  require (source.operands.length ≤ kMaxOperands) "native operation exceeds operand limit"
  require (supportsMemoryWidth source) "native Game Boy ABI supports only 8-bit memory operations"
  require (source.result.all fun id => id.toNat < kMaxValues) "native instruction exceeds value limit"
  require (source.operands.all fun operand =>
      operand.kind != .known .value || operand.payload.toNat < kMaxValues)
    "native operand exceeds value limit"
  return { opcode := source.opcode
           resultType := source.resultType
           memoryClass := source.memoryClass
           result := source.result
           operands := source.operands }

def buildPlan (instruction : Plugin.GuestInstruction) : Except String InstructionPlan := do
  require (instruction.operations.length ≤ kMaxOperations) "native instruction exceeds operation limit"
  let operations ← instruction.operations.mapM planOperation
  require (instruction.takenCondition.all fun id => id.toNat < kMaxValues)
    "native taken condition exceeds value limit"
  return { operations := operations, takenCondition := instruction.takenCondition }

/-- The plans of a block, one for each entry of the artifact. -/
def compile (block : Plugin.Block) : Except String (List InstructionPlan) := do
  match validate block with
  | .error invalid => throw ("native backend requires validated IR: " ++ invalid.message)
  | .ok () => pure ()
  require (!block.instructions.isEmpty && block.instructions.length ≤ 16)
    "native block instruction count is outside bounded limits"
  block.instructions.mapM buildPlan

/-! ## Execution of a plan -/

variable {η : Type}

/-- The fixed table, what the plan reported, and what the callbacks work on. -/
abbrev PlanState := IR.Interpreter.State

/-- An operand that is not in the plan is the default one. -/
def operandAt (o : PlannedOperation) (i : ℕ) : Plugin.Operand :=
  o.operands.getD i ⟨.known .immediate, .known .i64, 0⟩

def planOperandValue (values : List (BitVec 64)) (operand : Plugin.Operand) : BitVec 64 :=
  if operand.kind = .known .value then values.getD operand.payload.toNat 0
  else truncate operand.payload operand.type

def planShiftLeft (value amount : BitVec 64) (type : TypeCode) : BitVec 64 :=
  let width := bitWidth type
  let shift := (amount &&& 63#64).toNat
  if width = 0 ∨ width ≤ shift then 0 else truncate (value <<< shift) type

def planShiftRightLogical (value amount : BitVec 64) (type : TypeCode) : BitVec 64 :=
  let width := bitWidth type
  let shift := (amount &&& 63#64).toNat
  if width = 0 ∨ width ≤ shift then 0 else truncate value type >>> shift

def planShiftRightArithmetic (value amount : BitVec 64) (type : TypeCode) : BitVec 64 :=
  let width := bitWidth type
  let shift := (amount &&& 63#64).toNat
  let source := truncate value type
  if width = 0 then 0
  else
    let negative := source &&& (1#64 <<< (width - 1)) != 0
    if width ≤ shift then if negative then mask type else 0
    else if shift = 0 then source
    else
      let shifted := source >>> shift
      if negative then shifted ||| (mask type ^^^ ((1#64 <<< (width - shift)) - 1)) else shifted

def planSignedLess (lhs rhs : BitVec 64) (type : TypeCode) : Bool :=
  let width := bitWidth type
  let sign := if width = 0 then 0 else 1#64 <<< (width - 1)
  width != 0 && decide (truncate lhs type ^^^ sign < truncate rhs type ^^^ sign)

def planBranch (abi : ExecutionAbi η) (s : PlanState η) (target : BitVec 64) : PlanState η :=
  { s with
    host := abi.writeRegister kProgramCounter target s.host
    result := { s.result with branchTaken := true } }

def executePlanned (abi : ExecutionAbi η) (o : PlannedOperation) (s : PlanState η) :
    BitVec 64 × PlanState η :=
  let operand (i : ℕ) := planOperandValue s.values (operandAt o i)
  let lhs := operand 0
  let rhs := operand 1
  match o.opcode with
  | .known .constant => (lhs, s)
  | .known .readRegister =>
    let (value, h) := abi.readRegister (operandAt o 0).id s.host
    (value, { s with host := h })
  | .known .writeRegister => (0, { s with host := abi.writeRegister (operandAt o 0).id rhs s.host })
  | .known .loadMemory =>
    let (value, h) := abi.readMemory8 (lhs.setWidth 16) s.host
    (value.setWidth 64, { s with host := h })
  | .known .storeMemory =>
    (0, { s with host := abi.writeMemory8 (lhs.setWidth 16) (rhs.setWidth 8) s.host })
  | .known .add => (lhs + rhs, s)
  | .known .subtract => (lhs - rhs, s)
  | .known .multiply => (lhs * rhs, s)
  | .known .bitAnd => (lhs &&& rhs, s)
  | .known .bitOr => (lhs ||| rhs, s)
  | .known .bitXor => (lhs ^^^ rhs, s)
  | .known .shiftLeft => (planShiftLeft lhs rhs o.resultType, s)
  | .known .shiftRightLogical => (planShiftRightLogical lhs rhs o.resultType, s)
  | .known .shiftRightArithmetic => (planShiftRightArithmetic lhs rhs o.resultType, s)
  | .known .bitNot => (~~~lhs, s)
  | .known .compareEqual => (ofBool (lhs == rhs), s)
  | .known .compareNotEqual => (ofBool (lhs != rhs), s)
  | .known .compareUnsignedLess => (ofBool (decide (lhs < rhs)), s)
  | .known .compareSignedLess => (ofBool (planSignedLess lhs rhs (operandAt o 0).type), s)
  | .known .select => (if lhs ≠ 0 then operand 1 else operand 2, s)
  | .known .setProgramCounter =>
    (0, { s with host := abi.writeRegister kProgramCounter lhs s.host })
  | .known .branch => (0, planBranch abi s (operandAt o 0).payload)
  | .known .branchIf => (0, if lhs ≠ 0 then planBranch abi s (operandAt o 1).payload else s)
  | .known .callHelper =>
    let arguments := o.operands.tail.map (planOperandValue s.values)
    let (value, h) := abi.callHelper (operandAt o 0).id arguments s.host
    (value, { s with host := h })
  | .known .exit => (0, { s with result := { s.result with exitRequested := true } })
  | .known .retireInstruction =>
    (0, { s with result := { s.result with retirementReached := true } })
  | .unknown _ => (0, s)

/-- The value of an operation put into the table. -/
def storePlanned (o : PlannedOperation) (value : BitVec 64) (s : PlanState η) : PlanState η :=
  match o.result with
  | none => s
  | some id => { s with values := s.values.set id.toNat (truncate value o.resultType) }

/-- The loop over the operations, up to the retirement. -/
def runPlanned (abi : ExecutionAbi η) : List PlannedOperation → PlanState η → PlanState η
  | [], s => s
  | o :: operations, s =>
    if s.result.retirementReached then s
    else if s.result.exitRequested ∧ o.opcode ≠ .known .retireInstruction then
      runPlanned abi operations s
    else
      let (value, executed) := executePlanned abi o s
      runPlanned abi operations (storePlanned o value executed)

def flag (condition : Bool) (bit : BitVec 32) : BitVec 32 := if condition then bit else 0

def packFlags (result : InterpreterResult) : BitVec 32 :=
  flag result.branchTaken 1 ||| flag result.exitRequested 2 ||| flag result.cycleCondition 4
    ||| flag result.retirementReached 8

def unpackFlags (flags : BitVec 32) : InterpreterResult :=
  { branchTaken := flags &&& 1 != 0
    exitRequested := flags &&& 2 != 0
    cycleCondition := flags &&& 4 != 0
    retirementReached := flags &&& 8 != 0 }

def planCycleCondition (plan : InstructionPlan) (values : List (BitVec 64)) : Bool :=
  plan.takenCondition.any fun id => id.toNat < kMaxValues && values.getD id.toNat 0 != 0

/-- What the thunk of an instruction calls; a table that is not recognised is not used. -/
def executePlan (plan : InstructionPlan) (abi : ExecutionAbi η) (h : η) : BitVec 32 × η :=
  if abi.valid then
    let s := runPlanned abi plan.operations ⟨List.replicate kMaxValues 0, {}, h⟩
    (packFlags { s.result with cycleCondition := planCycleCondition plan s.values }, s.host)
  else (0, h)

/-- One entry of an artifact run against a table; an entry that does not exist reports nothing. -/
def execute (plans : List InstructionPlan) (index : ℕ) (abi : ExecutionAbi η) (h : η) :
    InterpreterResult × η :=
  match plans[index]? with
  | none => ({}, h)
  | some plan =>
    let (flags, h) := executePlan plan abi h
    (unpackFlags flags, h)

end NativeExecution

end ProtoTime.GameBoy
