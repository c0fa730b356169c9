import ProtoTime.GameBoy.FastPathRefinement
import ProtoTime.GameBoy.Fetch
import ProtoTime.GameBoy.IrExecution

/-!
What one instruction does to the bus, whichever path executes it: a number of
accesses, then one retirement of the cycles it reports.
-/
namespace ProtoTime.GameBoy

open IR

/-- `b'` is reached from `b` by accesses without a retirement. -/
inductive Accessed {σ : Type} [CpuBus σ] (b : σ) : σ → Prop where
  | refl : Accessed b b
  | write {b' : σ} (address : Addr) (value : Byte) :
      Accessed b b' → Accessed b (CpuBus.write b' address value)
  | beginStep {b' : σ} (cycles : ℕ) : Accessed b b' → Accessed b (CpuBus.beginStep cycles b')
  | endStep {b' : σ} : Accessed b b' → Accessed b (CpuBus.endStep b')
  | setInterruptFlags {b' : σ} (flags : Byte) :
      Accessed b b' → Accessed b (CpuBus.setInterruptFlags flags b')

namespace Accessed

variable {σ : Type} [CpuBus σ] {b b' b'' : σ}

theorem trans (h : Accessed b b') (h' : Accessed b' b'') : Accessed b b'' := by
  induction h' with
  | refl => exact h
  | write address value _ ih => exact ih.write address value
  | beginStep cycles _ ih => exact ih.beginStep cycles
  | endStep _ ih => exact ih.endStep
  | setInterruptFlags flags _ ih => exact ih.setInterruptFlags flags

structure Kept (P : σ → Prop) : Prop where
  write : ∀ b address value, P b → P (CpuBus.write b address value)
  beginStep : ∀ b cycles, P b → P (CpuBus.beginStep cycles b)
  endStep : ∀ b, P b → P (CpuBus.endStep b)
  setInterruptFlags : ∀ b flags, P b → P (CpuBus.setInterruptFlags flags b)

theorem invariant {P : σ → Prop} (hP : Kept P) (h : Accessed b b') (hb : P b) : P b' := by
  induction h with
  | refl => exact hb
  | write address value _ ih => exact hP.write _ address value ih
  | beginStep cycles _ ih => exact hP.beginStep _ cycles ih
  | endStep _ ih => exact hP.endStep _ ih
  | setInterruptFlags flags _ ih => exact hP.setInterruptFlags _ flags ih

/-- A property that the end of an instruction's body restores and the other accesses keep. -/
structure Calm (P : σ → Prop) : Prop where
  write : ∀ b address value, P b → P (CpuBus.write b address value)
  endStep : ∀ b, P (CpuBus.endStep b)
  setInterruptFlags : ∀ b flags, P b → P (CpuBus.setInterruptFlags flags b)

end Accessed

structure Settled {σ : Type} [CpuBus σ] (b b' : σ) : Prop where
  accessed : Accessed b b'
  calm : ∀ P, Accessed.Calm P → P b → P b'

namespace Settled

variable {σ : Type} [CpuBus σ] {b b' b'' : σ}

theorem refl : Settled b b := ⟨.refl, fun _ _ h => h⟩

theorem trans (h : Settled b b') (h' : Settled b' b'') : Settled b b'' :=
  ⟨h.accessed.trans h'.accessed, fun P hP hb => h'.calm P hP (h.calm P hP hb)⟩

theorem write (h : Settled b b') (address : Addr) (value : Byte) :
    Settled b (CpuBus.write b' address value) :=
  ⟨h.accessed.write address value, fun P hP hb => hP.write _ _ _ (h.calm P hP hb)⟩

theorem setInterruptFlags (h : Settled b b') (flags : Byte) :
    Settled b (CpuBus.setInterruptFlags flags b') :=
  ⟨h.accessed.setInterruptFlags flags,
    fun P hP hb => hP.setInterruptFlags _ _ (h.calm P hP hb)⟩

theorem endStep (h : Accessed b b') : Settled b (CpuBus.endStep b') :=
  ⟨h.endStep, fun _ hP _ => hP.endStep _⟩

end Settled

namespace Core

variable {σ : Type}

section Registers

variable (s : Core σ)

@[simp] theorem assignR16_bus (reg : R16) (value : Addr) : (s.assignR16 reg value).bus = s.bus := by
  cases reg <;> rfl

@[simp] theorem assignStackR16_bus (reg : R16Stack) (value : Addr) :
    (s.assignStackR16 reg value).bus = s.bus := by
  cases reg <;> rfl

@[simp] theorem mathOp_bus (code rhs : Byte) : (s.mathOp code rhs).bus = s.bus := by
  unfold mathOp
  generalize ((code >>> 3) &&& 0x07#8).toNat = n
  rcases n with _ | _ | _ | _ | _ | _ | _ | n <;> rfl

@[simp] theorem rotateA_bus (code : Byte) : (s.rotateA code).bus = s.bus := by
  unfold rotateA
  generalize ((code >>> 3) &&& 0x03#8).toNat = n
  rcases n with _ | _ | _ | n <;> rfl

end Registers

variable [CpuBus σ] (s : Core σ)

@[simp] theorem pop16_bus : s.pop16.2.bus = s.bus := rfl

theorem write8_accessed (address : Addr) (value : Byte) :
    Accessed s.bus (s.write8 address value).bus :=
  .write address value .refl

theorem write16_accessed (address value : Addr) :
    Accessed s.bus (s.write16 address value).bus :=
  .write _ _ (.write _ _ .refl)

theorem push16_accessed (value : Addr) : Accessed s.bus (s.push16 value).bus :=
  write16_accessed { s with sp := s.sp - 2 } _ value

theorem writeR8_accessed (reg : R8) (value : Byte) : Accessed s.bus (s.writeR8 reg value).bus := by
  cases reg with
  | hlIndirect => exact s.write8_accessed s.hl value
  | _ => exact .refl

theorem ldIndirectA_accessed (code : Byte) : Accessed s.bus (s.ldIndirectA code).bus := by
  unfold ldIndirectA
  split_ifs <;> first | exact .refl | exact s.write8_accessed _ _

theorem executeCbOpcode_accessed (opcode : Byte) :
    Accessed s.bus (s.executeCbOpcode opcode).bus := by
  unfold executeCbOpcode
  generalize (opcode >>> 6).toNat = group
  rcases group with _ | _ | _ | group
  · exact writeR8_accessed (s.setFlags _ _ _ _) _ _
  · exact .refl
  · exact s.writeR8_accessed _ _
  · exact s.writeR8_accessed _ _

/-- The body of an instruction only accesses the bus. -/
theorem step_accessed (family : OpcodeFamily) (code imm8 : Byte) (imm16 : Addr) :
    Accessed s.bus (family.step code imm8 imm16 s).bus := by
  cases family with
  | ldAbsSp => exact s.write16_accessed _ _
  | incR8 | decR8 | ldR8Imm | ldR8R8 => exact s.writeR8_accessed _ _
  | ldIndirectA => exact s.ldIndirectA_accessed code
  | pushR16 | call | rst => exact s.push16_accessed _
  | callCond =>
    simp only [OpcodeFamily.step]
    split
    · exact s.push16_accessed _
    · exact .refl
  | jrCond | retCond | jpCond =>
    simp only [OpcodeFamily.step]
    split <;> exact .refl
  | prefixCb => exact s.executeCbOpcode_accessed imm8
  | ldhStoreImm | ldhStoreC | ldAbsStore => exact s.write8_accessed _ _
  | ccf =>
    simp only [OpcodeFamily.step]
    split <;> exact .refl
  | ldR16Imm | incR16 | decR16 | popR16 | mathR8 | mathImm | rotateA =>
    simp only [OpcodeFamily.step, assignR16_bus, assignStackR16_bus, pop16_bus, mathOp_bus,
      rotateA_bus]
    exact .refl
  | _ => exact .refl

/-- An instruction ends by retiring the cycles it reports. -/
structure RetiredFrom (b : σ) (c : Core σ) : Prop where
  positive : 0 < c.feedback.retiredCycles
  effect : ∃ b', Settled b b' ∧ c.bus = CpuBus.retire c.feedback.retiredCycles b'

theorem RetiredFrom.of_settled {b b' : σ} {c : Core σ} (hb : Settled b b')
    (h : RetiredFrom b' c) : RetiredFrom b c := by
  obtain ⟨hpos, b'', hb'', hbus⟩ := h
  exact ⟨hpos, b'', hb.trans hb'', hbus⟩

theorem retireInstruction_bus {cycles : ℕ} (h : 0 < cycles) :
    (s.retireInstruction cycles).bus = CpuBus.retire cycles s.bus := by
  unfold retireInstruction
  rw [if_neg (Nat.pos_iff_ne_zero.mp h)]
  dsimp only
  split_ifs <;> rfl

theorem retireInstruction_retiredFrom {b : σ} (hb : Settled b s.bus)
    (h : 0 < s.feedback.retiredCycles) :
    RetiredFrom b (s.retireInstruction s.feedback.retiredCycles) := by
  refine ⟨by simpa using h, s.bus, hb, ?_⟩
  rw [retireInstruction_feedback]
  exact s.retireInstruction_bus h

end Core

theorem opcodeCyclesFor_pos (opcode : Byte) :
    0 < (opcodeCyclesFor opcode).notTaken ∧ 0 < (opcodeCyclesFor opcode).taken := by
  revert opcode
  decide +kernel

theorem cbOpcodeCyclesFor_pos (opcode : Byte) :
    0 < (cbOpcodeCyclesFor opcode).notTaken ∧ 0 < (cbOpcodeCyclesFor opcode).taken := by
  unfold cbOpcodeCyclesFor
  split_ifs <;> decide

theorem OpcodeFamily.cycles_pos (family : OpcodeFamily) (data : List Byte) (i : ℕ) :
    0 < (family.cycles data i).notTaken ∧ 0 < (family.cycles data i).taken := by
  cases family <;> first | exact cbOpcodeCyclesFor_pos _ | exact opcodeCyclesFor_pos _

namespace Core

variable {σ : Type} [CpuBus σ] (s : Core σ)

theorem runSteps_settled (family : OpcodeFamily) (data : List Byte) :
    Settled s.bus (s.runSteps (singleStep family data).steps).bus := by
  have hbody := step_accessed
    { s with bus := CpuBus.beginStep (family.cycles data 0).notTaken s.bus } family
    (data.getD 0 0) (fetchImm8 data 0) (fetchImm16 data 0)
  exact .endStep ((Accessed.beginStep _ .refl).trans hbody)

theorem execute_retiredFrom (family : OpcodeFamily) (base : Addr) (opcode : Byte)
    (rest : List Byte) :
    RetiredFrom s.bus (s.execute (singleStep family (opcode :: rest)) ⟨base, opcode :: rest⟩) := by
  obtain ⟨hnot, htaken⟩ := family.cycles_pos (opcode :: rest) 0
  unfold execute
  refine retireInstruction_retiredFrom _ (s.runSteps_settled family _) ?_
  dsimp only
  simp only [List.length_cons, Nat.succ_ne_zero, false_and, if_false]
  split_ifs with hpending
  · exact Nat.pos_of_ne_zero hpending
  · exact htaken
  · exact hnot

/-- An instruction through the fast path. -/
theorem tryFastExecuteBytes_retiredFrom {opcode : Byte} {rest : List Byte} {c : Core σ}
    (h : s.tryFastExecuteBytes (opcode :: rest) = some c) : RetiredFrom s.bus c := by
  have hsupported : supportsFastOpcode opcode = true := by
    by_contra hne
    simp [tryFastExecuteBytes, hne] at h
  obtain ⟨family, hf⟩ := Option.isSome_iff_exists.mp (opcodeTable_isSome opcode)
  rw [s.tryFastExecuteBytes_eq hsupported hf, Option.some_inj] at h
  obtain ⟨hnot, htaken⟩ := opcodeCyclesFor_pos opcode
  subst h
  unfold finalizeFast
  refine retireInstruction_retiredFrom _ ?_ ?_
  · have hbody := step_accessed
      { s with bus := CpuBus.beginStep (opcodeCyclesFor opcode).notTaken s.bus } family opcode
      (fetchImm8 (opcode :: rest) 0) (fetchImm16 (opcode :: rest) 0)
    exact .endStep ((Accessed.beginStep _ .refl).trans hbody)
  · split_ifs with hpending
    · exact Nat.pos_of_ne_zero hpending
    · exact htaken
    · exact hnot

theorem enterInterrupt_settled : Settled s.bus s.enterInterrupt.bus :=
  ((Settled.refl.setInterruptFlags _).write _ _).write _ _

end Core

namespace IRExecution

open Core

variable {σ : Type}

@[simp] theorem executeAlu8_bus (operation : ℕ) (lhs rhs : Byte) (c : Core σ) :
    (c.executeAlu8 operation lhs rhs).2.bus = c.bus := by
  unfold executeAlu8
  dsimp only
  split <;> rfl

theorem abiCallHelper_bus {id : ℕ} {arguments : List (BitVec 64)} {c c' : Core σ}
    {value : BitVec 64} (h : c.abiCallHelper id arguments = .ok (value, c')) : c'.bus = c.bus := by
  unfold abiCallHelper at h
  split at h
  · split at h
    · split at h <;> cases h <;> rfl
    · cases h
  · split at h
    · cases h
      simp
    · cases h

variable [CpuBus σ]

theorem abiWriteRegister_bus (id : ℕ) (value : BitVec 64) (c : Core σ) :
    (c.abiWriteRegister id value).bus = c.bus := by
  unfold abiWriteRegister
  split <;> rfl

theorem irExecutionAbi_respects :
    Interpreter.Respects irExecutionAbi fun c c' : Core σ => Settled c.bus c'.bus where
  refl _ := .refl
  trans h h' := h.trans h'
  writeRegister id value c := by
    change Settled c.bus (c.abiWriteRegister id value).bus
    rw [abiWriteRegister_bus]
    exact .refl
  storeMemory h := by
    simp only [irExecutionAbi] at h
    split at h <;> cases h
    exact .write .refl _ _
  callHelper h := by
    rw [abiCallHelper_bus h]
    exact .refl
  setProgramCounter value c := by
    change Settled c.bus (c.abiWriteRegister Register.pc.id value).bus
    exact .refl

end IRExecution

namespace Core

open IRExecution

variable {σ : Type} [CpuBus σ]

/-- A lowered instruction with positive cycle counts. -/
theorem executePortableIrInstruction_retiredFrom {c c' : Core σ} {block : Block}
    {pcAddress : Addr} {index : ℕ}
    (hpos : ∀ i ∈ block.instructions, 0 < i.cyclesNotTaken ∧ 0 < i.cyclesTaken)
    (h : c.executePortableIrInstruction block pcAddress index = .ok (some c')) :
    RetiredFrom c.bus c' := by
  unfold executePortableIrInstruction at h
  split at h
  · cases h
  · rename_i instruction hget
    obtain ⟨hnot, htaken⟩ := hpos instruction (List.mem_of_getElem? hget)
    split at h
    · cases h
    · split at h
      · cases h
      · rename_i result c₁ hexec
        have hsettled := Interpreter.execute_respects irExecutionAbi_respects hexec
        have hcycles : 0 < if result.cycleCondition then instruction.cyclesTaken
            else instruction.cyclesNotTaken := by
          split <;> assumption
        split at h
        · cases h
        · cases h
          exact ⟨hcycles, c₁.bus, hsettled, c₁.retireInstruction_bus hcycles⟩

end Core

end ProtoTime.GameBoy
