import ProtoTime.InstCycle.ExtendedLowering
import ProtoTime.GameBoy.LoweredExecution

/-!
The research lowerings interpreted over the processor: what each one leaves in
the registers and on the bus, and the cycles it selects.
-/
namespace ProtoTime.GameBoy

open IR IR.Interpreter IRExecution

theorem highPage_eq (imm8 : Byte) :
    0xFF00 + imm8.setWidth 64 = (0xFF00#16 + imm8.setWidth 16).setWidth 64 := by
  apply BitVec.eq_of_toNat_eq
  have hpage : BitVec.toNat (65280 : BitVec 64) = 65280 := rfl
  simp only [BitVec.toNat_setWidth, BitVec.toNat_add, BitVec.toNat_ofNat, hpage]
  omega

namespace Core

section Abi

variable {σ : Type} [CpuBus σ] (c : Core σ)

@[simp] theorem irExecutionAbi_loadMemory (a : Addr) :
    irExecutionAbi.loadMemory (a.setWidth 64) .i8 c = .ok ((c.read8 a).setWidth 64) := by
  simp [irExecutionAbi]

@[simp] theorem irExecutionAbi_storeMemory (a : Addr) (v : Byte) :
    irExecutionAbi.storeMemory (a.setWidth 64) .i8 (v.setWidth 64) c = .ok (c.write8 a v) := by
  simp [irExecutionAbi]

@[simp] theorem irExecutionAbi_setProgramCounter (a : Addr) :
    irExecutionAbi.setProgramCounter (a.setWidth 64) c = { c with pc := a } := by
  simp [irExecutionAbi, abiWriteRegister, Register.id, Register.ofId]

@[simp] theorem irExecutionAbi_writeAccumulator (v : Byte) :
    irExecutionAbi.writeRegister 0 (v.setWidth 64) c = c.assignAccumulator v := by
  simp only [irExecutionAbi, abiWriteRegister, Register.ofId, setWidth_byte]
  rfl

@[simp] theorem irExecutionAbi_readAccumulator :
    irExecutionAbi.readRegister 0 c = c.accumulator.setWidth 64 := rfl

@[simp] theorem irExecutionAbi_readFlags :
    irExecutionAbi.readRegister 1 c = c.flags.setWidth 64 := rfl

@[simp] theorem irExecutionAbi_readBc : irExecutionAbi.readRegister 9 c = c.bc.setWidth 64 := rfl

@[simp] theorem irExecutionAbi_readSp : irExecutionAbi.readRegister 12 c = c.sp.setWidth 64 := rfl

@[simp] theorem irExecutionAbi_writeSp (v : Addr) :
    irExecutionAbi.writeRegister 12 (v.setWidth 64) c = { c with sp := v } := by
  simp [irExecutionAbi, abiWriteRegister, Register.ofId]

variable (op : Byte)

omit [CpuBus σ] in
theorem pairCode_lt : ((op >>> 4) &&& 0x03#8).toNat < 4 := by
  exact lt_of_le_of_lt Nat.and_le_right (by decide)

theorem irExecutionAbi_readPair :
    irExecutionAbi.readRegister (9 + ((op >>> 4) &&& 0x03#8).toNat) c =
      (c.accessR16 (decodeR16 op)).setWidth 64 := by
  have hlt := pairCode_lt op
  unfold decodeR16
  generalize ((op >>> 4) &&& 0x03#8).toNat = n at hlt ⊢
  match n with
  | 0 | 1 | 2 | 3 => rfl

theorem irExecutionAbi_writePair (v : Addr) :
    irExecutionAbi.writeRegister (9 + ((op >>> 4) &&& 0x03#8).toNat) (v.setWidth 64) c =
      c.assignR16 (decodeR16 op) v := by
  have hlt := pairCode_lt op
  have hv := setWidth_address v
  unfold decodeR16
  generalize ((op >>> 4) &&& 0x03#8).toNat = n at hlt ⊢
  match n with
  | 0 | 1 | 2 | 3 =>
    simp only [irExecutionAbi, abiWriteRegister, Register.ofId, hv]
    rfl

/-- The number of the high register of a stack pair; the low one follows it. -/
def highId (op : Byte) : ℕ :=
  if ((op >>> 4) &&& 0x03#8).toNat = 3 then 0 else 2 + 2 * ((op >>> 4) &&& 0x03#8).toNat

theorem irExecutionAbi_readStackPair :
    irExecutionAbi.readRegister (highId op) c =
        (hi (c.accessStackR16 (decodeR16Stack op))).setWidth 64 ∧
      irExecutionAbi.readRegister (highId op + 1) c =
        (lo (c.accessStackR16 (decodeR16Stack op))).setWidth 64 := by
  have hlt := pairCode_lt op
  unfold highId decodeR16Stack
  generalize ((op >>> 4) &&& 0x03#8).toNat = n at hlt ⊢
  match n with
  | 0 | 1 | 2 | 3 => exact ⟨rfl, rfl⟩

theorem irExecutionAbi_writeStackPair (low high : Byte) :
    irExecutionAbi.writeRegister (highId op) (high.setWidth 64)
        (irExecutionAbi.writeRegister (highId op + 1) (low.setWidth 64) c) =
      c.assignStackR16 (decodeR16Stack op) (if decodeR16Stack op = .af then
        word low high &&& 0xFFF0#16 else word low high) := by
  have hlt := pairCode_lt op
  have hhalves (pair : Addr) : setHi (setLo pair low) high = word low high := by
    ext i hi
    interval_cases i <;> simp [setHi, setLo, word]
  have hflags (pair : Addr) : setHi (setLo pair (low &&& 0xF0#8)) high =
      word low high &&& 0xFFF0#16 := by
    ext i hi
    interval_cases i <;> simp [setHi, setLo, word]
  have hmasked : (low.setWidth 64 &&& 0xF0#64).setWidth 8 = low &&& 0xF0#8 := by
    ext i hi
    interval_cases i <;> simp
  have hlow := setWidth_byte low
  have hhigh := setWidth_byte high
  unfold highId decodeR16Stack
  generalize ((op >>> 4) &&& 0x03#8).toNat = n at hlt ⊢
  rcases Nat.lt_or_ge n 3 with hthree | hthree
  · interval_cases n
    all_goals
      simp only [irExecutionAbi, abiWriteRegister, Register.ofId, hlow, hhigh]
      simp [cachedWriteR8, assignStackR16, hhalves]
  · obtain rfl : n = 3 := by omega
    simp only [irExecutionAbi, abiWriteRegister, Register.ofId, hmasked, hhigh, if_pos]
    simp [cachedWriteR8, assignStackR16, assignCachedFlags, assignCachedAccumulator, hflags]

end Abi

section Families

attribute [local simp] Interpreter.execute executeOperations executeOperation operandValues
  operandValue compute

variable {σ : Type} [CpuBus σ]

/-- The interpreted instruction ends, retired and without an exit, with the core `c'`, after a
branch or none and with the selector of the cycles set or clear. -/
def InterpretsAs (lowered : GuestInstruction) (branchTaken selected : Bool) (c c' : Core σ) : Prop :=
  Interpreter.execute irExecutionAbi lowered c =
    .ok ({ branchTaken := branchTaken, cycleCondition := selected, retirementReached := true }, c')

variable (instruction : TranslatedInstruction) (cycles : ℕ) (next : Addr) (c : Core σ)

theorem interpretsAs_loadPair {number : ℕ} {reg : R16} {v : Addr}
    (hwrite : irExecutionAbi.writeRegister number (v.setWidth 64) c = c.assignR16 reg v) :
    InterpretsAs (Research.extendedInstruction true instruction cycles
      ([Research.constant (v.setWidth 64) .i16 1, Research.write number 1 .i16] ++
        [Research.setProgramCounter next])) false false c
      { c.assignR16 reg v with pc := next } := by
  simp [InterpretsAs, Research.extendedInstruction, Research.begin, Research.constant,
    Research.write, Research.setProgramCounter, pure, bind, Except.pure, Except.bind,
    List.replicate, hwrite]

/-- The sum or the difference of a pair and one. -/
def steppedPair (sub : Bool) (v : Addr) : Addr := if sub then v - 1 else v + 1

theorem interpretsAs_stepPair {number : ℕ} {reg : R16} (sub : Bool)
    (hread : irExecutionAbi.readRegister number c = (c.accessR16 reg).setWidth 64)
    (hwrite : ∀ v : Addr,
      irExecutionAbi.writeRegister number (v.setWidth 64) c = c.assignR16 reg v) :
    InterpretsAs (Research.extendedInstruction true instruction cycles
      (Research.reg number .i16 1 :: Research.add 1 1 sub 2 ++ [Research.write number 3 .i16] ++
        [Research.setProgramCounter next])) false false c
      { c.assignR16 reg (steppedPair sub (c.accessR16 reg)) with pc := next } := by
  cases sub <;>
    simp [InterpretsAs, Research.extendedInstruction, Research.begin, Research.constant,
      Research.reg, Research.add, Research.write, Research.setProgramCounter, pure, bind,
      Except.pure, Except.bind, List.replicate, hread, hwrite, steppedPair]

def testedFlag (mask : Byte) (whenClear : Bool) (c : Core σ) : Bool :=
  if whenClear then c.flags &&& mask == 0 else c.flags &&& mask != 0

theorem interpretsAs_conditionalJump (mask : Byte) (whenClear : Bool) (target : Addr) :
    InterpretsAs (Research.conditionalJump true instruction (mask.setWidth 64) whenClear next
      target) (c.testedFlag mask whenClear) (c.testedFlag mask whenClear) c
      { c with pc := if c.testedFlag mask whenClear then target else next } := by
  have hand : truncate (c.flags.setWidth 64 &&& mask.setWidth 64) .i8 =
      c.flags.setWidth 64 &&& mask.setWidth 64 := by
    rw [← BitVec.setWidth_and, truncate_byte]
  have hwide : (c.flags.setWidth 64 &&& mask.setWidth 64 = 0#64) ↔ c.flags &&& mask = 0#8 := by
    rw [← BitVec.setWidth_and]
    constructor
    · intro h
      rw [← setWidth_byte (c.flags &&& mask), h]
      rfl
    · intro h
      rw [h]
      rfl
  have hzero : truncate 0#64 .i8 = 0#64 := by decide
  have hclear : truncate 0#64 .bool = 0#64 := by decide
  have hset : truncate 1#64 .bool = 1#64 := by decide
  cases whenClear <;> by_cases h : c.flags &&& mask = 0#8 <;>
    simp [InterpretsAs, Research.conditionalJump, Research.begin, Research.reg,
      Research.setProgramCounter, pure, bind, Except.pure, Except.bind, List.replicate, payload,
      testedFlag, hand, hwide, hzero, hclear, hset, h]

theorem interpretsAs_jump (target : Addr) :
    InterpretsAs (Research.extendedInstruction true instruction cycles
      [Research.branch (target.setWidth 64)] true) true false c { c with pc := target } := by
  simp [InterpretsAs, Research.extendedInstruction, Research.begin, Research.branch, pure, bind,
    Except.pure, Except.bind, List.replicate, payload]

def accessAccumulator (isStore : Bool) (address : Addr) (c : Core σ) : Core σ :=
  if isStore then c.write8 address c.accumulator else c.assignAccumulator (c.read8 address)

theorem interpretsAs_absolute (isStore : Bool) (address : Addr) :
    InterpretsAs (Research.extendedInstruction true instruction cycles
      (Research.constant (address.setWidth 64) .i16 1 :: Research.accumulatorAccess isStore 1 2 ++
        [Research.setProgramCounter next])) false false c
      { c.accessAccumulator isStore address with pc := next } := by
  cases isStore <;>
    simp [InterpretsAs, Research.extendedInstruction, Research.begin, Research.constant,
      Research.reg, Research.write, Research.load, Research.store, Research.accumulatorAccess,
      Research.setProgramCounter, operandType, pure, bind, Except.pure, Except.bind, List.replicate,
      accessAccumulator]

theorem interpretsAs_highPage (isStore : Bool) :
    InterpretsAs (Research.extendedInstruction true instruction cycles
      (Research.highPageOperations ++ Research.accumulatorAccess isStore 3 4 ++
        [Research.setProgramCounter next])) false false c
      { c.accessAccumulator isStore (0xFF00#16 + (lo c.bc).setWidth 16) with pc := next } := by
  have hlow : truncate (c.bc.setWidth 64 &&& truncate 255#64 .i16) .i16 =
      (lo c.bc).setWidth 64 := by
    have hmask : truncate 255#64 .i16 = (255#16).setWidth 64 := by decide
    rw [hmask, ← BitVec.setWidth_and, truncate_address]
    apply BitVec.eq_of_toNat_eq
    have hand : c.bc.toNat &&& (255#16).toNat = c.bc.toNat % 2 ^ 8 :=
      Nat.and_two_pow_sub_one_eq_mod c.bc.toNat 8
    simp only [lo, BitVec.toNat_setWidth, BitVec.toNat_and, hand]
  have hsum : truncate ((lo c.bc).setWidth 64 + truncate 65280#64 .i16) .i16 =
      (0xFF00#16 + (lo c.bc).setWidth 16).setWidth 64 := by
    have hpage : truncate 65280#64 .i16 = 65280#64 := by decide
    rw [hpage, truncate_i16]
    apply BitVec.eq_of_toNat_eq
    simp only [BitVec.toNat_setWidth, BitVec.toNat_add, BitVec.toNat_ofNat]
    omega
  cases isStore <;>
    simp [InterpretsAs, Research.extendedInstruction, Research.begin, Research.reg, Research.write,
      Research.load, Research.store, Research.accumulatorAccess, Research.setProgramCounter,
      Research.highPageOperations, operandType, pure, bind, Except.pure, Except.bind,
      List.replicate, accessAccumulator, hlow, hsum]

/-- The high byte is written before the low byte. -/
def pushHighFirst (h l : Byte) (c : Core σ) : Core σ :=
  { (c.write8 (c.sp - 1) h).write8 (c.sp - 2) l with sp := c.sp - 2 }

theorem interpretsAs_push {high low : ℕ} {h l : Byte}
    (hhigh : irExecutionAbi.readRegister high c = h.setWidth 64)
    (hlow : irExecutionAbi.readRegister low c = l.setWidth 64) :
    InterpretsAs (Research.extendedInstruction true instruction cycles
      (Research.pushOperations (Research.reg high .i8 2) (Research.reg low .i8 3) ++
        [Research.setProgramCounter next])) false false c
      { c.pushHighFirst h l with pc := next } := by
  simp [InterpretsAs, Research.extendedInstruction, Research.begin, Research.constant, Research.reg,
    Research.add, Research.write, Research.setProgramCounter, Research.pushOperations,
    Research.store, operandType, pure, bind, Except.pure, Except.bind, List.replicate, hhigh, hlow,
    pushHighFirst]

theorem interpretsAs_call (h l : Byte) (target : Addr) :
    InterpretsAs (Research.extendedInstruction true instruction cycles
      (Research.pushOperations (Research.constant (h.setWidth 64) .i8 2)
        (Research.constant (l.setWidth 64) .i8 3) ++ [Research.branch (target.setWidth 64)]) true)
      true false c { c.pushHighFirst h l with pc := target } := by
  simp [InterpretsAs, Research.extendedInstruction, Research.begin, Research.constant, Research.reg,
    Research.add, Research.write, Research.branch, Research.pushOperations, Research.store,
    operandType, pure, bind, Except.pure, Except.bind, List.replicate, payload, pushHighFirst]

theorem interpretsAs_pop {highId : ℕ} {popped : Core σ}
    (hwrite : irExecutionAbi.writeRegister highId ((c.read8 (c.sp + 1#16)).setWidth 64)
      (irExecutionAbi.writeRegister (highId + 1) ((c.read8 c.sp).setWidth 64) c) = popped) :
    InterpretsAs (Research.extendedInstruction true instruction cycles
      (Research.popOperations highId ++ [Research.setProgramCounter next])) false false c
      { popped with sp := c.sp + 2, pc := next } := by
  simp [InterpretsAs, Research.extendedInstruction, Research.begin, Research.constant, Research.reg,
    Research.add, Research.write, Research.setProgramCounter, Research.popOperations, Research.load,
    pure, bind, Except.pure, Except.bind, List.replicate, hwrite]

end Families

end Core

def isJumpRelativeConditional (opcode : Byte) : Bool :=
  opcode ∈ [0x20#8, 0x28#8, 0x30#8, 0x38#8]

/-- `CALL` and the four `PUSH`. -/
def pushesWord (opcode : Byte) : Bool := opcode == 0xCD#8 || opcode &&& 0xCF#8 == 0xC5#8

namespace Core

variable {σ : Type} [CpuBus σ]

/-- The value that selects the cycles of a lowered instruction. -/
def cycleSelector (c : Core σ) (opcode : Byte) : Bool :=
  isJumpRelativeConditional opcode && c.conditionHolds (decodeCondition opcode)

def pushedWord (c : Core σ) (opcode : Byte) : Addr :=
  if opcode = 0xCD#8 then c.pc + 3 else c.accessStackR16 (decodeR16Stack opcode)

def extendedStep (c : Core σ) (family : OpcodeFamily) (bytes : List Byte) : Core σ :=
  if pushesWord (bytes.getD 0 0) then
    { c.pushHighFirst (hi (c.pushedWord (bytes.getD 0 0))) (lo (c.pushedWord (bytes.getD 0 0))) with
      pc := (family.instructionStep bytes c).pc }
  else family.instructionStep bytes c

end Core

/-- The lowered instruction keeps the address and the cycles of its opcode and interprets as the
opcode's step, up to the order of pushed bytes. -/
structure LowersExtended (instruction : TranslatedInstruction) (family : OpcodeFamily)
    (lowered : GuestInstruction) : Prop where
  address : lowered.address = instruction.address.toNat
  cyclesNotTaken : lowered.cyclesNotTaken = (opcodeCyclesFor (instruction.bytes.getD 0 0)).notTaken
  cyclesTaken : lowered.cyclesTaken = (opcodeCyclesFor (instruction.bytes.getD 0 0)).taken
  cycles_eq : isJumpRelativeConditional (instruction.bytes.getD 0 0) = false →
    lowered.cyclesTaken = lowered.cyclesNotTaken
  controlFlow : lowered.controlFlow = isControlFlowOpcode (instruction.bytes.getD 0 0)
  interruptSensitive : lowered.interruptSensitive = false
  fast : family.isFast = true
  interprets : ∀ {σ : Type} [CpuBus σ] (c : Core σ), c.pc = instruction.address →
    ∃ branchTaken : Bool, (branchTaken = true → lowered.controlFlow = true) ∧
      c.InterpretsAs lowered branchTaken (c.cycleSelector (instruction.bytes.getD 0 0))
        (c.extendedStep family instruction.bytes)

abbrev IsSequential (opcode : Byte) (family : OpcodeFamily) (cycles : ℕ) : Prop :=
  opcodeTable opcode = some family ∧ opcodeCyclesFor opcode = ⟨cycles, cycles⟩ ∧
    isControlFlowOpcode opcode = false ∧ isJumpRelativeConditional opcode = false ∧
    pushesWord opcode = false ∧ family.isFast = true

variable {family : OpcodeFamily} {opcode : Byte} {instruction : TranslatedInstruction}

/-- A sequential body whose opcode is neither a conditional jump nor a push. -/
theorem lowersExtended_sequential {cycles : ℕ} {operations : List Operation}
    (hopcode : instruction.bytes.getD 0 0 = opcode) (h : IsSequential opcode family cycles)
    (hbody : ∀ {σ : Type} [CpuBus σ] (c : Core σ), c.InterpretsAs
      (Research.extendedInstruction true instruction cycles operations) false false
      { family.step opcode (fetchImm8 instruction.bytes 0) (fetchImm16 instruction.bytes 0) c with
        pc := instruction.address + BitVec.ofNat 16 instruction.bytes.length })
    (hpc : ∀ {σ : Type} [CpuBus σ] (c : Core σ),
      (family.step opcode (fetchImm8 instruction.bytes 0)
        (fetchImm16 instruction.bytes 0) c).pc = c.pc) :
    LowersExtended instruction family
      (Research.extendedInstruction true instruction cycles operations) := by
  obtain ⟨-, hcycles, hflow, hjump, hpush, hfast⟩ := h
  refine ⟨rfl, ?_, ?_, fun _ => rfl, ?_, rfl, hfast, ?_⟩
  · rw [hopcode, hcycles]
    rfl
  · rw [hopcode, hcycles]
    rfl
  · rw [hopcode]
    exact hflow.symm
  · intro σ _ c haddress
    refine ⟨false, by simp, ?_⟩
    have hinterprets := hbody c
    rw [hopcode, Core.cycleSelector, hjump, Bool.false_and, Core.extendedStep, hopcode, hpush]
    rw [Core.pastInstruction_eq (hpc c) (by rw [haddress])] at hinterprets
    rw [OpcodeFamily.instructionStep, hopcode]
    exact hinterprets

theorem Core.assignR16_pc {σ : Type} (c : Core σ) (reg : R16) (v : Addr) :
    (c.assignR16 reg v).pc = c.pc := by
  cases reg <;> rfl

theorem opcodeTable_pair (opcode : Byte) :
    (opcode &&& 0xCF#8 = 0x01#8 → IsSequential opcode .ldR16Imm 12) ∧
    (opcode &&& 0xCF#8 = 0x03#8 ∨ opcode &&& 0xCF#8 = 0x0B#8 →
      IsSequential opcode (if opcode &&& 0xCF#8 == 0x0B#8 then .decR16 else .incR16) 8) ∧
    (opcode &&& 0xCF#8 = 0xC1#8 → IsSequential opcode .popR16 12) ∧
    (opcode &&& 0xCF#8 = 0xC5#8 →
      opcodeTable opcode = some .pushR16 ∧ opcodeCyclesFor opcode = ⟨16, 16⟩ ∧
        isControlFlowOpcode opcode = false ∧ isJumpRelativeConditional opcode = false ∧
        pushesWord opcode = true ∧ opcode ≠ 0xCD#8) := by
  revert opcode
  decide

/-- The two-byte conditional jumps test one flag each. -/
theorem lowersExtended_conditionalJump (hopcode : instruction.bytes.getD 0 0 = opcode)
    (h : opcode = 0x20#8 ∨ opcode = 0x28#8 ∨ opcode = 0x30#8 ∨ opcode = 0x38#8)
    (hlength : instruction.bytes.length = 2) :
    LowersExtended instruction .jrCond (Research.conditionalJump true instruction
      (if opcode < 0x30#8 then 0x80 else 0x10) (opcode == 0x20#8 || opcode == 0x30#8)
      (instruction.address + BitVec.ofNat 16 instruction.bytes.length)
      (instruction.address + BitVec.ofNat 16 instruction.bytes.length +
        (instruction.bytes.getD 1 0).signExtend 16)) := by
  have hcycles : opcodeCyclesFor opcode = ⟨8, 12⟩ ∧ isControlFlowOpcode opcode = true ∧
      isJumpRelativeConditional opcode = true ∧ pushesWord opcode = false := by
    rcases h with rfl | rfl | rfl | rfl <;> decide
  obtain ⟨hcycles, hflow, hjump, hpush⟩ := hcycles
  refine ⟨rfl, ?_, ?_, ?_, ?_, rfl, rfl, ?_⟩
  · rw [hopcode, hcycles]
    rfl
  · rw [hopcode, hcycles]
    rfl
  · rw [hopcode, hjump]
    intro hfalse
    cases hfalse
  · rw [hopcode]
    exact hflow.symm
  · intro σ _ c haddress
    refine ⟨c.cycleSelector opcode, fun _ => rfl, ?_⟩
    have hmask : (if opcode < 0x30#8 then 0x80 else 0x10 : BitVec 64) =
        (if opcode < 0x30#8 then kFlagZ else kFlagC).setWidth 64 := by
      split <;> rfl
    have htested : c.testedFlag (if opcode < 0x30#8 then kFlagZ else kFlagC)
        (opcode == 0x20#8 || opcode == 0x30#8) = c.cycleSelector opcode := by
      rcases h with rfl | rfl | rfl | rfl <;> rfl
    have hinterprets := Core.interpretsAs_conditionalJump instruction
      (instruction.address + BitVec.ofNat 16 instruction.bytes.length) c
      (if opcode < 0x30#8 then kFlagZ else kFlagC) (opcode == 0x20#8 || opcode == 0x30#8)
      (instruction.address + BitVec.ofNat 16 instruction.bytes.length +
        (instruction.bytes.getD 1 0).signExtend 16)
    rw [htested] at hinterprets
    rw [hmask, hopcode]
    have hstep : c.extendedStep .jrCond instruction.bytes = { c with
        pc := if c.cycleSelector opcode then
            instruction.address + BitVec.ofNat 16 instruction.bytes.length +
              (instruction.bytes.getD 1 0).signExtend 16
          else instruction.address + BitVec.ofNat 16 instruction.bytes.length } := by
      have htarget (a d : Addr) : a + 2 + d - 2 + 2 = a + 2 + d := by bv_omega
      have htwo : BitVec.ofNat 16 2 = (2 : Addr) := rfl
      rw [Core.extendedStep, hopcode, hpush, OpcodeFamily.instructionStep, hopcode,
        OpcodeFamily.step, Core.cycleSelector, hjump, hlength, htwo, ← haddress]
      cases c.conditionHolds (decodeCondition opcode)
      · rfl
      · simp only [Bool.true_and, if_true, Core.updateControlFlowPc, Core.pastInstruction, htwo,
          htarget, fetchImm8]
        rfl
    rw [hstep]
    exact hinterprets

/-- `JP` and `CALL` end in a branch to their operand. -/
theorem lowersExtended_branch {cycles : ℕ} {operations : List Operation}
    (hopcode : instruction.bytes.getD 0 0 = opcode)
    (hcycles : opcodeCyclesFor opcode = ⟨cycles, cycles⟩)
    (hflow : isControlFlowOpcode opcode = true)
    (hjump : isJumpRelativeConditional opcode = false) (hfast : family.isFast = true)
    (hbody : ∀ {σ : Type} [CpuBus σ] (c : Core σ), c.pc = instruction.address → c.InterpretsAs
      (Research.extendedInstruction true instruction cycles operations true) true false
      (c.extendedStep family instruction.bytes)) :
    LowersExtended instruction family
      (Research.extendedInstruction true instruction cycles operations true) := by
  refine ⟨rfl, ?_, ?_, fun _ => rfl, ?_, rfl, hfast, ?_⟩
  · rw [hopcode, hcycles]
    rfl
  · rw [hopcode, hcycles]
    rfl
  · rw [hopcode]
    exact hflow.symm
  · intro σ _ c haddress
    refine ⟨true, fun _ => rfl, ?_⟩
    rw [hopcode, Core.cycleSelector, hjump]
    exact hbody c haddress

theorem jumped_eq {σ : Type} (c : Core σ) (target : Addr) :
    (c.updateControlFlowPc target 3).pastInstruction 3 = { c with pc := target } := by
  have hthree : target - 3 + BitVec.ofNat 16 3 = target := by bv_omega
  unfold Core.updateControlFlowPc Core.pastInstruction
  rw [hthree]

open Core in
/-- Every instruction the research lowering accepts does what its opcode does in the opcode table,
up to the order of pushed bytes. -/
theorem lowerExtended_lowersExtended
    (hwhole : IsWholeInstruction instruction family) {lowered : GuestInstruction}
    (h : Research.lowerExtended true instruction = some lowered) :
    LowersExtended instruction family lowered := by
  obtain ⟨htable, hlength⟩ := hwhole
  unfold Research.lowerExtended at h
  dsimp only at h
  rw [imm16_eq] at h
  simp only [true_and, not_true_eq_false, false_and, or_false, if_true] at h
  generalize hopcode : instruction.bytes.getD 0 0 = opcode at h htable
  by_cases hload : opcode &&& 0xCF#8 = 0x01#8 ∧ instruction.bytes.length = 3
  · rw [if_pos hload] at h
    cases h
    have hsequential := (opcodeTable_pair opcode).1 hload.1
    cases htable.symm.trans hsequential.1
    refine lowersExtended_sequential hopcode hsequential ?_ fun c => assignR16_pc c _ _
    intro σ _ c
    exact interpretsAs_loadPair _ _ _ c (irExecutionAbi_writePair c opcode _)
  rw [if_neg hload] at h
  by_cases hstep : opcode &&& 0xCF#8 = 0x03#8 ∨ opcode &&& 0xCF#8 = 0x0B#8
  · rw [if_pos hstep] at h
    cases h
    have hsequential := (opcodeTable_pair opcode).2.1 hstep
    have hbody {σ : Type} [CpuBus σ] (c : Core σ) := interpretsAs_stepPair instruction 8
      (instruction.address + BitVec.ofNat 16 instruction.bytes.length) c
      (opcode &&& 0xCF#8 == 0x0B#8) (irExecutionAbi_readPair c opcode)
      (irExecutionAbi_writePair c opcode)
    generalize (opcode &&& 0xCF#8 == 0x0B#8) = sub at hsequential hbody ⊢
    cases sub <;> cases htable.symm.trans hsequential.1
    · exact lowersExtended_sequential hopcode hsequential hbody fun c => assignR16_pc c _ _
    · exact lowersExtended_sequential hopcode hsequential hbody fun c => assignR16_pc c _ _
  rw [if_neg hstep] at h
  by_cases hrelative : (opcode = 0x20#8 ∨ opcode = 0x28#8 ∨ opcode = 0x30#8 ∨ opcode = 0x38#8) ∧
      instruction.bytes.length = 2
  · rw [if_pos hrelative] at h
    cases h
    have hfamily : opcodeTable opcode = some .jrCond := by
      rcases hrelative.1 with rfl | rfl | rfl | rfl <;> rfl
    cases htable.symm.trans hfamily
    exact lowersExtended_conditionalJump hopcode hrelative.1 hrelative.2
  rw [if_neg hrelative] at h
  by_cases hjump : opcode = 0xC3#8 ∧ instruction.bytes.length = 3
  · rw [if_pos hjump] at h
    cases h
    obtain ⟨rfl, hthree⟩ := hjump
    cases htable
    refine lowersExtended_branch hopcode rfl rfl rfl rfl ?_
    intro σ _ c _
    rw [extendedStep, hopcode, OpcodeFamily.instructionStep, hopcode, OpcodeFamily.step, hthree,
      jumped_eq]
    exact interpretsAs_jump _ _ c _
  rw [if_neg hjump] at h
  by_cases habsolute : (opcode = 0xEA#8 ∨ opcode = 0xFA#8) ∧ instruction.bytes.length = 3
  · rw [if_pos habsolute] at h
    cases h
    rcases habsolute.1 with rfl | rfl <;> cases htable
    · exact lowersExtended_sequential hopcode (by decide)
        (fun c => interpretsAs_absolute _ _ _ c true _) fun c => rfl
    · exact lowersExtended_sequential hopcode (by decide)
        (fun c => interpretsAs_absolute _ _ _ c false _) fun c => rfl
  rw [if_neg habsolute] at h
  by_cases hhigh : opcode = 0xE0#8 ∨ opcode = 0xF0#8 ∨ opcode = 0xE2#8 ∨ opcode = 0xF2#8
  · rw [if_pos hhigh] at h
    rcases hhigh with rfl | rfl | rfl | rfl <;> cases htable
    · rw [if_pos (Or.inl rfl), if_neg (by rw [hlength]; decide), highPage_eq] at h
      cases h
      exact lowersExtended_sequential hopcode (by decide)
        (fun c => interpretsAs_absolute _ _ _ c true _) fun c => rfl
    · rw [if_pos (Or.inr rfl), if_neg (by rw [hlength]; decide), highPage_eq] at h
      cases h
      exact lowersExtended_sequential hopcode (by decide)
        (fun c => interpretsAs_absolute _ _ _ c false _) fun c => rfl
    · cases h
      exact lowersExtended_sequential hopcode (by decide)
        (fun c => interpretsAs_highPage _ _ _ c true) fun c => rfl
    · cases h
      exact lowersExtended_sequential hopcode (by decide)
        (fun c => interpretsAs_highPage _ _ _ c false) fun c => rfl
  rw [if_neg hhigh] at h
  by_cases hcall : opcode = 0xCD#8
  · rw [if_pos hcall] at h
    subst hcall
    cases htable
    rw [if_neg (by rw [hlength]; decide), setWidth_hi, setWidth_lo] at h
    cases h
    refine lowersExtended_branch hopcode rfl rfl rfl rfl ?_
    intro σ _ c haddress
    have hthree : instruction.bytes.length = 3 := hlength
    have hword : c.pushedWord 0xCD#8 = instruction.address +
        BitVec.ofNat 16 instruction.bytes.length := by
      rw [pushedWord, if_pos rfl, haddress, hthree]
      rfl
    have hpc : (OpcodeFamily.call.instructionStep instruction.bytes c).pc =
        fetchImm16 instruction.bytes 0 := by
      rw [OpcodeFamily.instructionStep, hthree, OpcodeFamily.step, jumped_eq]
    rw [extendedStep, hopcode, if_pos (by decide), hword, hpc]
    exact interpretsAs_call instruction 24 c _ _ _
  rw [if_neg hcall] at h
  by_cases hpush : opcode &&& 0xCF#8 = 0xC5#8
  · rw [if_pos hpush] at h
    cases h
    obtain ⟨hfamily, hcycles, hflow, hjump, hpushes, hne⟩ := (opcodeTable_pair opcode).2.2.2 hpush
    cases htable.symm.trans hfamily
    refine ⟨rfl, ?_, ?_, fun _ => rfl, ?_, rfl, rfl, ?_⟩
    · rw [hopcode, hcycles]
      rfl
    · rw [hopcode, hcycles]
      rfl
    · rw [hopcode]
      exact hflow.symm
    · intro σ _ c haddress
      refine ⟨false, by simp, ?_⟩
      obtain ⟨hhi, hlo⟩ := irExecutionAbi_readStackPair c opcode
      have hpc : (OpcodeFamily.pushR16.instructionStep instruction.bytes c).pc =
          instruction.address + BitVec.ofNat 16 instruction.bytes.length := by
        rw [← haddress]
        rfl
      rw [hopcode, cycleSelector, hjump, extendedStep, hopcode, if_pos hpushes, pushedWord,
        if_neg hne, hpc]
      exact interpretsAs_push instruction 16 _ c hhi hlo
  rw [if_neg hpush] at h
  by_cases hpop : opcode &&& 0xCF#8 = 0xC1#8
  · rw [if_pos hpop] at h
    cases h
    have hsequential := (opcodeTable_pair opcode).2.2.1 hpop
    cases htable.symm.trans hsequential.1
    refine lowersExtended_sequential hopcode hsequential ?_ ?_
    · intro σ _ c
      have hinterprets := interpretsAs_pop instruction 12
        (instruction.address + BitVec.ofNat 16 instruction.bytes.length) c
        (irExecutionAbi_writeStackPair c opcode (c.read8 c.sp) (c.read8 (c.sp + 1#16)))
      have hpopped : (OpcodeFamily.popR16.step opcode (fetchImm8 instruction.bytes 0)
          (fetchImm16 instruction.bytes 0) c) =
          { c.assignStackR16 (decodeR16Stack opcode) (if decodeR16Stack opcode = .af then
              word (c.read8 c.sp) (c.read8 (c.sp + 1#16)) &&& 0xFFF0#16
              else word (c.read8 c.sp) (c.read8 (c.sp + 1#16))) with sp := c.sp + 2 } := by
        rw [OpcodeFamily.step]
        cases decodeR16Stack opcode <;> rfl
      rw [hpopped]
      exact hinterprets
    · intro σ _ c
      rw [OpcodeFamily.step]
      cases decodeR16Stack opcode <;> rfl
  · rw [if_neg hpop] at h
    cases h

end ProtoTime.GameBoy
