import ProtoTime.InstCycle.ByteValues
import ProtoTime.InstCycle.ExtendedLowering
import ProtoTime.InstCycle.HostCalls
import ProtoTime.GameGear.Z80Step

/-!
The Z80 as the host of the portable interpreter: its registers by number, byte-wide
memory through the bus, and the helpers that update the refresh register and the
flags.
-/
namespace ProtoTime.GameGear
open GameBoy (Byte Addr hi lo word)
open IR IR.Interpreter

namespace IrExecution

inductive Register where
  | a | f | b | c | d | e | h | l | af | bc | de | hl | sp | pc
  deriving DecidableEq

def Register.ofId : ℕ → Option Register
  | 0 => some .a | 1 => some .f | 2 => some .b | 3 => some .c | 4 => some .d | 5 => some .e
  | 6 => some .h | 7 => some .l | 8 => some .af | 9 => some .bc | 10 => some .de | 11 => some .hl
  | 12 => some .sp | 13 => some .pc
  | _ => none

inductive Helper where
  | incrementRefresh | updateIncrementFlags | updateDecrementFlags | executeAlu8
  deriving DecidableEq

def Helper.ofId : ℕ → Option Helper
  | 0 => some .incrementRefresh | 1 => some .updateIncrementFlags
  | 2 => some .updateDecrementFlags | 3 => some .executeAlu8
  | _ => none

variable {σ : Type}

def readRegister (reg : Register) (c : Z80Interpreter σ) : BitVec 64 :=
  match reg with
  | .a => c.regA.setWidth 64
  | .f => c.regF.setWidth 64
  | .b => (hi c.bc).setWidth 64
  | .c => (lo c.bc).setWidth 64
  | .d => (hi c.de).setWidth 64
  | .e => (lo c.de).setWidth 64
  | .h => (hi c.hl).setWidth 64
  | .l => (lo c.hl).setWidth 64
  | .af => c.af.setWidth 64
  | .bc => c.bc.setWidth 64
  | .de => c.de.setWidth 64
  | .hl => c.hl.setWidth 64
  | .sp => c.sp.setWidth 64
  | .pc => c.pc.setWidth 64

def writeRegister (reg : Register) (value : BitVec 64) (c : Z80Interpreter σ) : Z80Interpreter σ :=
  let byte : Byte := value.setWidth 8
  let address : Addr := value.setWidth 16
  match reg with
  | .a => c.setRegA byte
  | .f => c.setRegF byte
  | .b => { c with bc := word (lo c.bc) byte }
  | .c => { c with bc := word byte (hi c.bc) }
  | .d => { c with de := word (lo c.de) byte }
  | .e => { c with de := word byte (hi c.de) }
  | .h => { c with hl := word (lo c.hl) byte }
  | .l => { c with hl := word byte (hi c.hl) }
  | .af => { c with af := address }
  | .bc => { c with bc := address }
  | .de => { c with de := address }
  | .hl => { c with hl := address }
  | .sp => { c with sp := address }
  | .pc => { c with pc := address }

/-- The accumulator operation and the value it returns; only the comparison keeps its result out
of the accumulator. -/
def executeAluForIr (operation : ℕ) (value : Byte) (c : Z80Interpreter σ) :
    Byte × Z80Interpreter σ :=
  (if operation % 8 = 7 then c.regA - value else (c.alu operation value).regA,
    c.alu operation value)

def callHelper (id : ℕ) (arguments : List (BitVec 64)) (c : Z80Interpreter σ) :
    Except String (BitVec 64 × Z80Interpreter σ) :=
  match Helper.ofId id, arguments with
  | some .incrementRefresh, _ => .ok (0, c.incRefresh)
  | some .updateIncrementFlags, [before, result] =>
    .ok (0, c.setRegF (c.computeIncFlags (before.setWidth 8) (result.setWidth 8)))
  | some .updateDecrementFlags, [before, result] =>
    .ok (0, c.setRegF (c.computeDecFlags (before.setWidth 8) (result.setWidth 8)))
  | some .executeAlu8, [operation, lhs, rhs] =>
    if lhs.setWidth 8 ≠ c.regA then
      .error "Game Gear IR accumulator operand does not match CPU AF state"
    else
      let (result, c) := executeAluForIr (operation.setWidth 8).toNat (rhs.setWidth 8) c
      .ok (result.setWidth 64, c)
  | _, _ => .error "invalid Game Gear IR helper call"

/-- The callbacks of the interpreter. The types of registers and the memory classes are not
looked at; memory is accessed a byte at a time. -/
def gameGearIrHost [Z80Bus σ] : HostCall → StateT (Z80Interpreter σ) (Except String) (BitVec 64)
  | .readRegister id _ => fun c =>
    match Register.ofId id with
    | some reg => .ok (readRegister reg c, c)
    | none => .error "unknown Game Gear IR register"
  | .writeRegister id _ value => fun c =>
    match Register.ofId id with
    | some reg => .ok (0, writeRegister reg value c)
    | none => .error "unknown Game Gear IR register"
  | .loadMemory address type _ => fun c =>
    if type ≠ .i8 then .error "Game Gear IR memory load is not I8"
    else
      let (value, c) := Z80Interpreter.memRead (address.setWidth 16) c
      .ok (value.setWidth 64, c)
  | .storeMemory address type _ value => fun c =>
    if type ≠ .i8 then .error "Game Gear IR memory store is not I8"
    else
      let (_, c) := Z80Interpreter.memWrite (address.setWidth 16) (value.setWidth 8) c
      .ok (0, c)
  | .callHelper id _ arguments => callHelper id arguments
  | .setProgramCounter address => fun c => .ok (0, { c with pc := address.setWidth 16 })

section Callbacks

variable [Z80Bus σ] (c : Z80Interpreter σ)

theorem host_incrementRefresh (type : ValueType) (arguments : List (BitVec 64)) :
    gameGearIrHost (.callHelper 0 type arguments) c = .ok (0, c.incRefresh) := by
  cases arguments <;> rfl

theorem host_setProgramCounter (address : Addr) :
    gameGearIrHost (.setProgramCounter (address.setWidth 64)) c =
      .ok (0, { c with pc := address }) := by
  simp [gameGearIrHost]

theorem host_setNext (next : Addr) :
    gameGearIrHost (.setProgramCounter (truncate (next.setWidth 64) .i16)) c =
      .ok (0, { c with pc := next }) := by
  rw [truncate_address, host_setProgramCounter]

theorem host_loadMemory (address : Addr) (memoryClass : MemoryClass) :
    gameGearIrHost (.loadMemory (address.setWidth 64) .i8 memoryClass) c =
      .ok ((Z80Interpreter.memRead address c).1.setWidth 64,
        (Z80Interpreter.memRead address c).2) := by
  simp only [gameGearIrHost, setWidth_address, ne_eq, not_true_eq_false, if_false]
  rfl

theorem host_storeMemory (address : Addr) (memoryClass : MemoryClass) (value : Byte) :
    gameGearIrHost (.storeMemory (address.setWidth 64) .i8 memoryClass (value.setWidth 64)) c =
      .ok (0, (Z80Interpreter.memWrite address value c).2) := by
  simp only [gameGearIrHost, setWidth_address, setWidth_byte, ne_eq, not_true_eq_false, if_false]
  rfl

theorem host_readRegister {id : ℕ} {reg : Register} (h : Register.ofId id = some reg)
    (type : ValueType) :
    gameGearIrHost (.readRegister id type) c = .ok (readRegister reg c, c) := by
  simp [gameGearIrHost, h]

theorem host_writeRegister {id : ℕ} {reg : Register} (h : Register.ofId id = some reg)
    (type : ValueType) (value : BitVec 64) :
    gameGearIrHost (.writeRegister id type value) c = .ok (0, writeRegister reg value c) := by
  simp [gameGearIrHost, h]

end Callbacks

end IrExecution

end ProtoTime.GameGear
