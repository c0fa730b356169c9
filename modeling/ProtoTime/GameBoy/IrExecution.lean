import ProtoTime.InstCycle.Interpreter
import ProtoTime.InstCycle.ThreadedBlockCache
import ProtoTime.GameBoy.FastPath

/-!
Lowering of recorded instructions to the portable representation, the guards of
a lowered block, and the execution of one lowered instruction on the processor.
-/
namespace ProtoTime.GameBoy

open IR

namespace IRExecution

def kAbiVersion : ℕ := 1

inductive Register where
  | a | f | b | c | d | e | h | l | af | bc | de | hl | sp | pc
  deriving DecidableEq

def Register.id : Register → ℕ
  | .a => 0 | .f => 1 | .b => 2 | .c => 3 | .d => 4 | .e => 5 | .h => 6 | .l => 7
  | .af => 8 | .bc => 9 | .de => 10 | .hl => 11 | .sp => 12 | .pc => 13

def Register.ofId : ℕ → Option Register
  | 0 => some .a | 1 => some .f | 2 => some .b | 3 => some .c | 4 => some .d | 5 => some .e
  | 6 => some .h | 7 => some .l | 8 => some .af | 9 => some .bc | 10 => some .de | 11 => some .hl
  | 12 => some .sp | 13 => some .pc
  | _ => none

def kUpdateIncrementFlags : ℕ := 0

def kUpdateDecrementFlags : ℕ := 1

def kExecuteAlu8 : ℕ := 2

def kStop : ℕ := 1

def kHalt : ℕ := 2

def kDmaRestricted : ℕ := 4

def kInterruptPending : ℕ := 8

def kHaltBugPending : ℕ := 16

def kPendingCycleCharge : ℕ := 32

def kAllExecutionStateBits : ℕ := 63

def registerForCode (code : Byte) : Option Register :=
  match (code &&& 0x07#8).toNat with
  | 0 => some .b
  | 1 => some .c
  | 2 => some .d
  | 3 => some .e
  | 4 => some .h
  | 5 => some .l
  | 6 => none
  | _ => some .a

def readRegisterOperation (reg : Register) (type : ValueType) (id : ℕ) : Operation :=
  { opcode := .readRegister, result := some id, resultType := type,
    operands := [.guestRegister reg.id type] }

def constantOperation (payload : BitVec 64) (type : ValueType) (id : ℕ) : Operation :=
  { opcode := .constant, result := some id, resultType := type,
    operands := [.immediate payload type] }

/-- The operations that read an operand register or `(HL)`, numbered from `id` on, with the number
of the value read. -/
def emitReadR8 (code : Byte) (id : ℕ) : List Operation × ℕ :=
  match registerForCode code with
  | some reg => ([readRegisterOperation reg .i8 id], id)
  | none =>
    ([readRegisterOperation .hl .i16 id,
      { opcode := .loadMemory, result := some (id + 1), resultType := .i8,
        operands := [.value id .i16] }], id + 1)

/-- The operations that store `value`; `id` is the next free number. -/
def emitWriteR8 (code : Byte) (value id : ℕ) : List Operation :=
  match registerForCode code with
  | some reg =>
    [{ opcode := .writeRegister, operands := [.guestRegister reg.id .i8, .value value .i8] }]
  | none =>
    [readRegisterOperation .hl .i16 id,
      { opcode := .storeMemory, operands := [.value id .i16, .value value .i8] }]

def emitNextPc (address : Addr) : Operation :=
  { opcode := .setProgramCounter, operands := [.immediate (address.setWidth 64) .i16] }

/-- One lowered instruction: its operations, closed by the retirement. -/
def guestInstruction (instruction : TranslatedInstruction) (cycles : ℕ)
    (operations : List Operation) (controlFlow : Bool := false) : GuestInstruction :=
  { address := instruction.address.toNat
    length := instruction.bytes.length
    cyclesNotTaken := cycles
    cyclesTaken := cycles
    controlFlow := controlFlow
    operations := operations ++ [{ opcode := .retireInstruction }] }

def lowerInstruction (instruction : TranslatedInstruction) : Option GuestInstruction :=
  let opcode := instruction.bytes.getD 0 0
  let immediate := instruction.bytes.getD 1 0
  let length := instruction.bytes.length
  let next : Addr := instruction.address + BitVec.ofNat 16 length
  let destination := (opcode >>> 3) &&& 0x07#8
  if length = 0 then none
  else if opcode = 0x00#8 then some (guestInstruction instruction 4 [emitNextPc next])
  else if 0x40#8 ≤ opcode ∧ opcode ≤ 0x7F#8 ∧ opcode ≠ 0x76#8 then
    let source := opcode &&& 0x07#8
    let value := emitReadR8 source 1
    some (guestInstruction instruction (if source = 6 ∨ destination = 6 then 8 else 4)
      (value.1 ++ emitWriteR8 destination value.2 (value.2 + 1) ++ [emitNextPc next]))
  else if opcode &&& 0xC7#8 = 0x06#8 ∧ length ≥ 2 then
    some (guestInstruction instruction (if destination = 6 then 12 else 8)
      (constantOperation (immediate.setWidth 64) .i8 1 :: emitWriteR8 destination 1 2 ++
        [emitNextPc next]))
  else if opcode &&& 0xC7#8 = 0x04#8 ∨ opcode &&& 0xC7#8 = 0x05#8 then
    let decrement := opcode &&& 0xC7#8 == 0x05#8
    let old := emitReadR8 destination 1
    let one := old.2 + 1
    let new := old.2 + 2
    some (guestInstruction instruction (if destination = 6 then 12 else 4)
      (old.1 ++
        [constantOperation 1 .i8 one,
          { opcode := if decrement then .subtract else .add, result := some new,
            resultType := .i8, operands := [.value old.2 .i8, .value one .i8] },
          { opcode := .callHelper,
            operands := [.helper (if decrement then kUpdateDecrementFlags
              else kUpdateIncrementFlags), .value old.2 .i8, .value new .i8] }] ++
        emitWriteR8 destination new (new + 1) ++ [emitNextPc next]))
  else if 0x80#8 ≤ opcode ∧ opcode ≤ 0xBF#8 then
    let source := opcode &&& 0x07#8
    let rhs := emitReadR8 source 2
    let value := rhs.2 + 1
    some (guestInstruction instruction (if source = 6 then 8 else 4)
      (readRegisterOperation .a .i8 1 :: rhs.1 ++
        [{ opcode := .callHelper, result := some value, resultType := .i8,
           operands := [.helper kExecuteAlu8, .immediate (destination.setWidth 64) .i8,
             .value 1 .i8, .value rhs.2 .i8] }] ++
        (if destination = 7 then []
          else [{ opcode := .writeRegister,
                  operands := [.guestRegister Register.a.id .i8, .value value .i8] }]) ++
        [emitNextPc next]))
  else if opcode = 0x18#8 ∧ length ≥ 2 then
    let target := next + immediate.signExtend 16
    some (guestInstruction instruction 12
      [{ opcode := .branch, operands := [.blockTarget (target.setWidth 64)] }] true)
  else none

/-- The copied instructions a block is lowered from, with the mapping generation and the execution
state of the moment. -/
structure LoweringRequest where
  instructions : List TranslatedInstruction
  mappingGeneration : ℕ
  executionState : ℕ

/-- The prefix that can be lowered, up to and including a relative jump. -/
def lowerPrefix : List TranslatedInstruction → List (TranslatedInstruction × GuestInstruction)
  | [] => []
  | instruction :: instructions =>
    match lowerInstruction instruction with
    | none => []
    | some lowered =>
      if instruction.bytes.getD 0 0 = 0x18#8 then [(instruction, lowered)]
      else (instruction, lowered) :: lowerPrefix instructions

def lower (request : LoweringRequest) : Option Block :=
  match lowerPrefix request.instructions with
  | [] => none
  | first :: rest =>
    let lowered := first :: rest
    some
      { guestStart := first.1.address.toNat
        mappingGeneration := request.mappingGeneration
        guards :=
          [{ kind := .mappingGeneration, expected := request.mappingGeneration },
            { kind := .helperAbi, expected := kAbiVersion },
            { kind := .executionState, expected := request.executionState,
              mask := kAllExecutionStateBits },
            { kind := .codeBytes, subject := first.1.address.toNat,
              bytes := lowered.flatMap (·.1.bytes) }]
        instructions := lowered.map (·.2) }

inductive GuardFailure where
  | none | mappingGeneration | helperAbi | executionState | codeBytes | ineligibleCode
  deriving DecidableEq

structure GuardContext where
  mappingGeneration : ℕ
  executionState : ℕ
  peekCodeByte : Addr → Option Byte

/-- The recorded bytes against the executable bytes from `subject` on. -/
def validateCodeBytes (peekCodeByte : Addr → Option Byte) : ℕ → List Byte → GuardFailure
  | _, [] => .none
  | address, byte :: bytes =>
    if address > 0xFFFF then .ineligibleCode
    else match peekCodeByte (BitVec.ofNat 16 address) with
      | none => .ineligibleCode
      | some current =>
        if current ≠ byte then .codeBytes else validateCodeBytes peekCodeByte (address + 1) bytes

def validateGuard (blockGeneration : ℕ) (context : GuardContext) (guard : Guard) : GuardFailure :=
  match guard.kind with
  | .mappingGeneration =>
    if guard.expected ≠ context.mappingGeneration ∨ blockGeneration ≠ context.mappingGeneration then
      .mappingGeneration
    else .none
  | .helperAbi => if guard.expected ≠ kAbiVersion then .helperAbi else .none
  | .executionState =>
    if context.executionState &&& guard.mask ≠ guard.expected &&& guard.mask then .executionState
    else .none
  | .codeBytes => validateCodeBytes context.peekCodeByte guard.subject guard.bytes

/-- The first failure in guard order. -/
def validateGuardList (blockGeneration : ℕ) (context : GuardContext) : List Guard → GuardFailure
  | [] => .none
  | guard :: guards =>
    match validateGuard blockGeneration context guard with
    | .none => validateGuardList blockGeneration context guards
    | failure => failure

def validateGuards (block : Block) (context : GuardContext) : GuardFailure :=
  validateGuardList block.mappingGeneration context block.guards

/-- Entry validation established the bytes, so a continuation leaves them unchecked. -/
def validateContinuationGuards (block : Block) (mappingGeneration executionState : ℕ) :
    GuardFailure :=
  validateGuardList block.mappingGeneration
    ⟨mappingGeneration, executionState, fun _ => none⟩
    (block.guards.filter fun guard => guard.kind ≠ .codeBytes)

end IRExecution

namespace Core

open IRExecution

variable {σ : Type} [CpuBus σ]

def abiReadRegister (id : ℕ) (c : Core σ) : BitVec 64 :=
  match Register.ofId id with
  | some .a => (c.cachedReadR8 7).setWidth 64
  | some .f => c.cachedFlags.setWidth 64
  | some .b => (c.cachedReadR8 0).setWidth 64
  | some .c => (c.cachedReadR8 1).setWidth 64
  | some .d => (c.cachedReadR8 2).setWidth 64
  | some .e => (c.cachedReadR8 3).setWidth 64
  | some .h => (c.cachedReadR8 4).setWidth 64
  | some .l => (c.cachedReadR8 5).setWidth 64
  | some .af => c.af.setWidth 64
  | some .bc => c.bc.setWidth 64
  | some .de => c.de.setWidth 64
  | some .hl => c.hl.setWidth 64
  | some .sp => c.sp.setWidth 64
  | some .pc => c.pc.setWidth 64
  | none => 0

def abiWriteRegister (id : ℕ) (value : BitVec 64) (c : Core σ) : Core σ :=
  match Register.ofId id with
  | some .a => c.cachedWriteR8 7 (value.setWidth 8)
  | some .f => c.assignCachedFlags ((value &&& 0xF0#64).setWidth 8)
  | some .b => c.cachedWriteR8 0 (value.setWidth 8)
  | some .c => c.cachedWriteR8 1 (value.setWidth 8)
  | some .d => c.cachedWriteR8 2 (value.setWidth 8)
  | some .e => c.cachedWriteR8 3 (value.setWidth 8)
  | some .h => c.cachedWriteR8 4 (value.setWidth 8)
  | some .l => c.cachedWriteR8 5 (value.setWidth 8)
  | some .af => { c with af := (value &&& 0xFFF0#64).setWidth 16 }
  | some .bc => { c with bc := value.setWidth 16 }
  | some .de => { c with de := value.setWidth 16 }
  | some .hl => { c with hl := value.setWidth 16 }
  | some .sp => { c with sp := value.setWidth 16 }
  | some .pc => { c with pc := value.setWidth 16 }
  | none => c

/-- The eight accumulator operations: result, zero test aside, and the flags they set. -/
def executeAlu8 (operation : ℕ) (lhs rhs : Byte) (c : Core σ) : Byte × Core σ :=
  let carryIn : ℕ := if c.cachedFlags &&& kFlagC ≠ 0 then 1 else 0
  let half (b : Byte) : ℕ := (b &&& 0x0F#8).toNat
  let finish (result : Byte) (n h cy : Bool) : Byte × Core σ :=
    (result, c.cachedSetFlags (result == 0) n h cy)
  match operation with
  | 0 => finish (lhs + rhs) false (half lhs + half rhs > 0x0F) (lhs.toNat + rhs.toNat > 0xFF)
  | 1 =>
    let sum := lhs.toNat + rhs.toNat + carryIn
    finish (BitVec.ofNat 8 sum) false (half lhs + half rhs + carryIn > 0x0F) (sum > 0xFF)
  | 2 => finish (lhs - rhs) true (half lhs < half rhs) (lhs < rhs)
  | 3 =>
    let subtrahend := rhs.toNat + carryIn
    finish (lhs - BitVec.ofNat 8 subtrahend) true (half lhs < half rhs + carryIn)
      (lhs.toNat < subtrahend)
  | 4 => finish (lhs &&& rhs) false true false
  | 5 => finish (lhs ^^^ rhs) false false false
  | 6 => finish (lhs ||| rhs) false false false
  | 7 => (lhs, c.cachedSetFlags (lhs == rhs) true (half lhs < half rhs) (lhs < rhs))
  | _ => finish lhs false false false

def abiCallHelper (id : ℕ) (arguments : List (BitVec 64)) (c : Core σ) :
    Except String (BitVec 64 × Core σ) :=
  if id = kUpdateIncrementFlags ∨ id = kUpdateDecrementFlags then
    match arguments with
    | [old, new] =>
      let oldValue : Byte := old.setWidth 8
      let newValue : Byte := new.setWidth 8
      let carry := c.cachedFlags &&& kFlagC != 0
      let c :=
        if id = kUpdateIncrementFlags then
          c.cachedSetFlags (newValue == 0) false ((oldValue &&& 0x0F#8).toNat + 1 > 0x0F) carry
        else c.cachedSetFlags (newValue == 0) true (oldValue &&& 0x0F#8 == 0) carry
      .ok (newValue.setWidth 64, c)
    | _ => .error "invalid increment/decrement helper arguments"
  else
    match id, arguments with
    | 2, [operation, lhs, rhs] =>
      let result := c.executeAlu8 (operation &&& 0xFF#64).toNat (lhs.setWidth 8) (rhs.setWidth 8)
      .ok (result.1.setWidth 64, result.2)
    | _, _ => .error "invalid portable IR helper invocation"

/-- The processor as the host of the interpreter; memory accesses are one byte wide. -/
def irExecutionAbi : InterpreterHost (Core σ) where
  readRegister := abiReadRegister
  writeRegister := abiWriteRegister
  loadMemory address type c :=
    if type = .i8 then .ok ((c.read8 (address.setWidth 16)).setWidth 64)
    else .error "Game Boy Phase 11A supports only 8-bit IR memory loads"
  storeMemory address type value c :=
    if type = .i8 then .ok (c.write8 (address.setWidth 16) (value.setWidth 8))
    else .error "Game Boy Phase 11A supports only 8-bit IR memory stores"
  callHelper := abiCallHelper
  setProgramCounter := abiWriteRegister Register.pc.id

def executePortableIrInstruction (c : Core σ) (block : Block) (pcAddress : Addr)
    (instructionIndex : ℕ) : Except String (Option (Core σ)) :=
  match block.instructions[instructionIndex]? with
  | none => .ok none
  | some instruction =>
    if instruction.address ≠ pcAddress.toNat then .ok none
    else
      match Interpreter.execute irExecutionAbi instruction c with
      | .error message => .error ("IR backend threw after execution began: " ++ message)
      | .ok (result, c) =>
        if ¬ result.retirementReached then
          .error "IR backend returned without instruction retirement"
        else
          let retiredCycles :=
            if result.cycleCondition then instruction.cyclesTaken else instruction.cyclesNotTaken
          let c := c.retireInstruction retiredCycles
          .ok (some { c with feedback :=
            { segmentBoundaryHint :=
                instruction.controlFlow || instruction.interruptSensitive || result.exitRequested
              isControlFlow := instruction.controlFlow || result.branchTaken
              pcBefore := pcAddress.toNat
              pcAfter := c.pc.toNat
              retiredCycles := retiredCycles
              executionPath := .portableIr } })

end Core

end ProtoTime.GameBoy
