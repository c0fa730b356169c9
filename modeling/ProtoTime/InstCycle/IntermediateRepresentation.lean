import Mathlib.Tactic.Common
import Mathlib.Data.Nat.Notation

/-!
The architecture-neutral block representation: typed operations on numbered
values, one group for each guest instruction, behind entry guards.
-/
namespace ProtoTime.IR

inductive ValueType where
  | void | bool | i8 | i16 | i32 | i64
  deriving DecidableEq

/-- An operand: a computed value, a constant, or the identifier of a guest register, a guest
address, a branch target or a helper. -/
inductive Operand where
  | value (id : ℕ) (type : ValueType)
  | immediate (payload : BitVec 64) (type : ValueType)
  | guestRegister (id : ℕ) (type : ValueType)
  | guestAddress (address : BitVec 64) (type : ValueType)
  | blockTarget (address : BitVec 64) (type : ValueType := .i64)
  | helper (id : ℕ) (type : ValueType := .i32)
  deriving DecidableEq

inductive Opcode where
  | constant | readRegister | writeRegister | loadMemory | storeMemory
  | add | subtract | multiply | bitAnd | bitOr | bitXor
  | shiftLeft | shiftRightLogical | shiftRightArithmetic | bitNot
  | compareEqual | compareNotEqual | compareUnsignedLess | compareSignedLess
  | select | setProgramCounter | branch | branchIf | callHelper | exit | retireInstruction
  deriving DecidableEq

inductive MemoryClass where
  | generic | directRam | readOnly | mmio | cartridge
  deriving DecidableEq

structure Operation where
  opcode : Opcode
  result : Option ℕ := none
  resultType : ValueType := .void
  operands : List Operand := []
  memoryClass : MemoryClass := .generic
  deriving DecidableEq

inductive GuardKind where
  | mappingGeneration | codeBytes | executionState | helperAbi
  deriving DecidableEq

structure Guard where
  kind : GuardKind
  subject : ℕ := 0
  expected : ℕ := 0
  mask : ℕ := 0xFFFFFFFFFFFFFFFF
  bytes : List (BitVec 8) := []
  deriving DecidableEq

structure GuestInstruction where
  address : ℕ
  length : ℕ
  cyclesNotTaken : ℕ
  cyclesTaken : ℕ
  takenCondition : Option ℕ := none
  controlFlow : Bool := false
  interruptSensitive : Bool := false
  operations : List Operation := []
  deriving DecidableEq

structure Block where
  guestStart : ℕ
  mappingGeneration : ℕ
  guards : List Guard
  instructions : List GuestInstruction
  deriving DecidableEq

end ProtoTime.IR
