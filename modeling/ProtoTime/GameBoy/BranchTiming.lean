import Mathlib.Tactic.SplitIfs
import ProtoTime.GameBoy.FastPathRefinement
import ProtoTime.GameBoy.Machine

/-!
Where a branch leaves the program counter and what it charges. Both executors write
the target less the length of the instruction, add the length back, and take the
branch for taken when the result is not the next address; a pending HALT-bug
adjustment is applied to taken branches too.
-/
namespace ProtoTime.GameBoy

def OpcodeFamily.isBranch (family : OpcodeFamily) : Bool :=
  family ∈ [.jr, .jrCond, .jp, .jpCond, .jpHl, .call, .callCond, .ret, .retCond, .reti, .rst]

def OpcodeFamily.isConditional (family : OpcodeFamily) : Bool :=
  family ∈ [.jrCond, .jpCond, .callCond, .retCond]

theorem controlFlow_facts (opcode : Byte) (h : isControlFlowOpcode opcode = true) :
    supportsFastOpcode opcode = true ∧
    (opcodeTable opcode).all OpcodeFamily.isBranch = true ∧
    (opcodeTable opcode).all (fun family =>
      decide ((opcodeCyclesFor opcode).taken = (opcodeCyclesFor opcode).notTaken) ==
        !family.isConditional) = true := by
  revert opcode
  decide +kernel

variable {opcode : Byte}

theorem supportsFastOpcode_controlFlow (h : isControlFlowOpcode opcode = true) :
    supportsFastOpcode opcode = true :=
  (controlFlow_facts opcode h).1

theorem isBranch_of_controlFlow {family : OpcodeFamily}
    (h : isControlFlowOpcode opcode = true) (hf : opcodeTable opcode = some family) :
    family.isBranch = true := by
  simpa [hf] using (controlFlow_facts opcode h).2.1

theorem cycles_eq_iff {family : OpcodeFamily}
    (h : isControlFlowOpcode opcode = true) (hf : opcodeTable opcode = some family) :
    (opcodeCyclesFor opcode).taken = (opcodeCyclesFor opcode).notTaken ↔
      family.isConditional = false := by
  have hone := (controlFlow_facts opcode h).2.2
  rw [hf, Option.all_some, beq_iff_eq] at hone
  cases hconditional : family.isConditional with
  | true => simpa [hconditional] using hone
  | false => simpa [hconditional] using hone

namespace Core

variable {σ : Type} [CpuBus σ]

def branchTaken (s : Core σ) (family : OpcodeFamily) (opcode : Byte) : Bool :=
  !family.isConditional || s.conditionHolds (decodeCondition opcode)

def branchTarget (s : Core σ) (family : OpcodeFamily) (opcode imm8 : Byte) (imm16 : Addr) : Addr :=
  match family with
  | .jr | .jrCond => s.pc + 2 + imm8.signExtend 16
  | .ret | .retCond | .reti => s.read16 s.sp
  | .jpHl => s.hl
  | .rst => (opcode &&& 0x38#8).setWidth 16
  | _ => imm16

/-- A branch body writes the target less its length, and only when it is taken. -/
structure Branched (s after : Core σ) (taken : Bool) (target : Addr) (length : ℕ) : Prop where
  pc : after.pc = if taken then target - BitVec.ofNat 16 length else s.pc
  haltBug : after.haltBugPcAdjustPending = s.haltBugPcAdjustPending
  charge : after.pendingCycleCharge = s.pendingCycleCharge

variable {family : OpcodeFamily}

theorem step_branched (s : Core σ) (h : family.isBranch = true)
    (opcode imm8 : Byte) (imm16 : Addr) :
    Branched s (family.step opcode imm8 imm16 s) (s.branchTaken family opcode)
      (s.branchTarget family opcode imm8 imm16) family.length := by
  cases family with
  | jr | jp | jpHl | call | ret | reti | rst => exact ⟨rfl, rfl, rfl⟩
  | jrCond | jpCond | retCond | callCond =>
    simp only [branchTaken, OpcodeFamily.step]
    cases s.conditionHolds (decodeCondition opcode) with
    | true => exact ⟨rfl, rfl, rfl⟩
    | false => exact ⟨rfl, rfl, rfl⟩
  | _ => exact absurd h (by decide)

theorem finalizeFast_pc (s : Core σ) (pcBefore : Addr) (opcode : Byte) (count : ℕ) :
    (s.finalizeFast pcBefore opcode count).pc = (s.advancePc count).pc := by
  unfold finalizeFast
  rw [retireInstruction_pc]

theorem finalizeFast_retiredCycles (s : Core σ) (pcBefore : Addr) (opcode : Byte) (count : ℕ) :
    (s.finalizeFast pcBefore opcode count).feedback.retiredCycles =
      if s.pendingCycleCharge ≠ 0 then s.pendingCycleCharge
      else if (s.advancePc count).pc ≠ pcBefore + BitVec.ofNat 16 count then
        (opcodeCyclesFor opcode).taken
      else (opcodeCyclesFor opcode).notTaken := by
  unfold finalizeFast
  rw [retireInstruction_feedback]
  rfl

/-- A branch leaves the program counter at its target when it is taken, and charges the taken
cycles just then. -/
structure BranchesRight (s : Core σ) (family : OpcodeFamily) (opcode imm8 : Byte) (imm16 : Addr)
    (after : Core σ) : Prop where
  pc : s.branchTaken family opcode = true → after.pc = s.branchTarget family opcode imm8 imm16
  cycles : after.feedback.retiredCycles =
    if s.branchTaken family opcode then (opcodeCyclesFor opcode).taken
    else (opcodeCyclesFor opcode).notTaken

/-- The states from which a branch is executed right: no HALT-bug adjustment is pending, and a
conditional branch that is taken leads somewhere else than the next instruction. A charge that is
still pending replaces the count of the branch. -/
structure Unambiguous (s : Core σ) (family : OpcodeFamily) (opcode imm8 : Byte) (imm16 : Addr) :
    Prop where
  haltBug : s.haltBugPcAdjustPending = true →
    s.branchTaken family opcode = false ∧ s.pendingCycleCharge ≠ 0
  target : s.pendingCycleCharge = 0 → family.isConditional = true →
    s.branchTaken family opcode = true →
      s.branchTarget family opcode imm8 imm16 ≠ s.pc + BitVec.ofNat 16 family.length
  charge : s.pendingCycleCharge ≠ 0 → s.pendingCycleCharge =
    if s.branchTaken family opcode then (opcodeCyclesFor opcode).taken
    else (opcodeCyclesFor opcode).notTaken

omit [CpuBus σ] in
/-- The program counter after a branch body and the finalizer. -/
theorem Branched.advancePc {s after : Core σ} {taken : Bool} {target : Addr} {length : ℕ}
    (h : Branched s after taken target length) (hpos : 0 < length) (hle : length ≤ 3) :
    (after.advancePc length).pc =
      (if taken then target else s.pc + BitVec.ofNat 16 length) -
        if s.haltBugPcAdjustPending then 1 else 0 := by
  unfold Core.advancePc
  rw [h.pc, h.haltBug]
  cases taken with
  | true =>
    cases s.haltBugPcAdjustPending with
    | true =>
      simp only [true_and, gt_iff_lt, if_pos hpos, if_true]
      bv_omega
    | false =>
      simp only [Bool.false_eq_true, false_and, if_false, if_true]
      bv_omega
  | false =>
    cases s.haltBugPcAdjustPending with
    | true =>
      simp only [true_and, gt_iff_lt, if_pos hpos, if_true, Bool.false_eq_true, if_false]
      bv_omega
    | false =>
      simp only [Bool.false_eq_true, false_and, if_false]
      bv_omega

/-- A finalized branch is right exactly from the unambiguous states. -/
theorem branchesRight_iff {s : Core σ} (h : isControlFlowOpcode opcode = true)
    (hf : opcodeTable opcode = some family) (imm8 : Byte) (imm16 : Addr) :
    s.BranchesRight family opcode imm8 imm16
        ((family.step opcode imm8 imm16 s).finalizeFast s.pc opcode family.length) ↔
      s.Unambiguous family opcode imm8 imm16 := by
  have hbranched := step_branched s (isBranch_of_controlFlow h hf) opcode imm8 imm16
  have hpc := hbranched.advancePc family.length_pos family.length_le
  have hcycles := cycles_eq_iff h hf
  have hafter : ((family.step opcode imm8 imm16 s).finalizeFast s.pc opcode family.length).pc =
      (if s.branchTaken family opcode then s.branchTarget family opcode imm8 imm16
        else s.pc + BitVec.ofNat 16 family.length) -
          if s.haltBugPcAdjustPending then 1 else 0 := by
    rw [finalizeFast_pc, hpc]
  have hcharge := finalizeFast_retiredCycles (family.step opcode imm8 imm16 s) s.pc opcode
    family.length
  rw [hbranched.charge, hpc] at hcharge
  generalize (family.step opcode imm8 imm16 s).finalizeFast s.pc opcode family.length = after
    at hafter hcharge ⊢
  have hconditional : s.branchTaken family opcode = false → family.isConditional = true := by
    intro hnot
    simp only [branchTaken, Bool.or_eq_false_iff, Bool.not_eq_false'] at hnot
    exact hnot.1
  constructor
  · rintro ⟨hright, hcount⟩
    rw [hcharge] at hcount
    have hnotTaken : s.haltBugPcAdjustPending = true → s.branchTaken family opcode = false := by
      intro hbug
      by_contra htaken
      rw [Bool.not_eq_false] at htaken
      have htarget := hright htaken
      rw [hafter, htaken, hbug, if_pos rfl, if_pos rfl] at htarget
      bv_omega
    refine ⟨?_, ?_, ?_⟩
    · intro hbug
      have hnot := hnotTaken hbug
      refine ⟨hnot, ?_⟩
      intro hpending
      have hmoved : ¬ s.pc + BitVec.ofNat 16 family.length - 1 =
          s.pc + BitVec.ofNat 16 family.length := by bv_omega
      rw [hnot, hbug, hpending] at hcount
      simp only [ne_eq, not_true_eq_false, Bool.false_eq_true, if_false, if_true] at hcount
      rw [if_pos hmoved] at hcount
      rw [hcycles.mp hcount] at hconditional
      exact absurd (hconditional hnot) (by decide)
    · intro hpending hcond htaken htarget
      have hbug : s.haltBugPcAdjustPending = false := by
        by_contra hbug
        rw [Bool.not_eq_false] at hbug
        rw [hnotTaken hbug] at htaken
        cases htaken
      rw [htaken, hbug, hpending, htarget] at hcount
      simp only [ne_eq, not_true_eq_false, Bool.false_eq_true, if_false, if_true,
        BitVec.ofNat_eq_ofNat, BitVec.sub_zero] at hcount
      rw [hcycles.mp hcount.symm] at hcond
      cases hcond
    · intro hpending
      rwa [if_pos hpending] at hcount
  · rintro ⟨hbug, htarget, hpending⟩
    refine ⟨?_, ?_⟩
    · intro htaken
      have hnone : s.haltBugPcAdjustPending = false := by
        by_contra h
        rw [Bool.not_eq_false] at h
        rw [(hbug h).1] at htaken
        cases htaken
      simp [hafter, htaken, hnone]
    · rw [hcharge]
      by_cases hzero : s.pendingCycleCharge = 0
      · have hnone : s.haltBugPcAdjustPending = false := by
          by_contra h
          rw [Bool.not_eq_false] at h
          exact (hbug h).2 hzero
        cases htaken : s.branchTaken family opcode with
        | false => simp [hzero, hnone]
        | true =>
          cases hcond : family.isConditional with
          | true => simp [hzero, hnone, htarget hzero hcond htaken]
          | false => simp [hzero, hcycles.mpr hcond]
      · rw [if_pos hzero]
        exact hpending hzero

variable (s : Core Board)

theorem branchTarget_beginStep (n : ℕ) (family : OpcodeFamily)
    (opcode imm8 : Byte) (imm16 : Addr) :
    { s with bus := CpuBus.beginStep n s.bus }.branchTarget family opcode imm8 imm16 =
      s.branchTarget family opcode imm8 imm16 := by
  cases family <;> rfl

/-- The state of a processor that has started a step and run the body and the finalizer. -/
def branched (family : OpcodeFamily) (opcode : Byte) (data : List Byte) : Core Board :=
  (family.step opcode (fetchImm8 data 0) (fetchImm16 data 0)
    { s with bus := CpuBus.beginStep (opcodeCyclesFor opcode).notTaken s.bus }).finalizeFast
      s.pc opcode family.length

theorem branched_right_iff (h : isControlFlowOpcode opcode = true)
    (hf : opcodeTable opcode = some family) (data : List Byte) :
    s.BranchesRight family opcode (fetchImm8 data 0) (fetchImm16 data 0)
        (s.branched family opcode data) ↔
      s.Unambiguous family opcode (fetchImm8 data 0) (fetchImm16 data 0) := by
  have hiff := branchesRight_iff
    (s := { s with bus := CpuBus.beginStep (opcodeCyclesFor opcode).notTaken s.bus }) h hf
    (fetchImm8 data 0) (fetchImm16 data 0)
  have htarget := branchTarget_beginStep s (opcodeCyclesFor opcode).notTaken family opcode
    (fetchImm8 data 0) (fetchImm16 data 0)
  constructor
  · rintro ⟨hpc, hcycles⟩
    obtain ⟨hbug, hdiffers, hcharge⟩ := hiff.mp ⟨fun htaken => (hpc htaken).trans htarget.symm, hcycles⟩
    exact ⟨hbug, hdiffers, hcharge⟩
  · rintro ⟨hbug, hdiffers, hcharge⟩
    obtain ⟨hpc, hcycles⟩ := hiff.mpr ⟨hbug, by rw [htarget]; exact hdiffers, hcharge⟩
    exact ⟨hpc, hcycles⟩

theorem branch_executed (h : isControlFlowOpcode opcode = true)
    (hf : opcodeTable opcode = some family) (operand1 operand2 : Byte) :
    ∃ block fb, decodeInto ⟨s.pc, instructionBytes opcode operand1 operand2⟩ = .ok (block, fb) ∧
      s.execute block fb =
        (s.branched family opcode (instructionBytes opcode operand1 operand2)).withExecutionPath
          .canonicalFetchDecodeExecute ∧
      s.tryFastExecuteBytes (instructionBytes opcode operand1 operand2) =
        some (s.branched family opcode (instructionBytes opcode operand1 operand2)) := by
  have hsupported := supportsFastOpcode_controlFlow h
  have hfast := opcodeTable_isFast opcode family hsupported hf
  obtain ⟨rest, hrest⟩ := instructionBytes_cons hf operand1 operand2
  have hlen : (opcode :: rest).length = family.length := by
    rw [← hrest, instructionBytes_length hf]
  rw [hrest]
  exact ⟨_, _, decodeInto_single s.pc hf hlen, execute_singleStep s hfast hlen,
    tryFastExecuteBytes_eq s hsupported hf⟩

/-- For every branch, operand and processor state: the canonical interpreter and the fast path
leave the program counter at the target of a taken branch and charge its taken cycles exactly
when it is taken, just from the unambiguous states. -/
theorem executors_branch_right_iff (s : Core Board) (opcode operand1 operand2 : Byte)
    (h : isControlFlowOpcode opcode = true) :
    ∃ family block fb fast,
      opcodeTable opcode = some family ∧
      decodeInto ⟨s.pc, instructionBytes opcode operand1 operand2⟩ = .ok (block, fb) ∧
      s.tryFastExecuteBytes (instructionBytes opcode operand1 operand2) = some fast ∧
      (s.BranchesRight family opcode (fetchImm8 (instructionBytes opcode operand1 operand2) 0)
          (fetchImm16 (instructionBytes opcode operand1 operand2) 0) (s.execute block fb) ↔
        s.Unambiguous family opcode (fetchImm8 (instructionBytes opcode operand1 operand2) 0)
          (fetchImm16 (instructionBytes opcode operand1 operand2) 0)) ∧
      (s.BranchesRight family opcode (fetchImm8 (instructionBytes opcode operand1 operand2) 0)
          (fetchImm16 (instructionBytes opcode operand1 operand2) 0) fast ↔
        s.Unambiguous family opcode (fetchImm8 (instructionBytes opcode operand1 operand2) 0)
          (fetchImm16 (instructionBytes opcode operand1 operand2) 0)) := by
  obtain ⟨family, hf⟩ := Option.isSome_iff_exists.mp (opcodeTable_isSome opcode)
  obtain ⟨block, fb, hdecode, hexecute, hfast⟩ := s.branch_executed h hf operand1 operand2
  have hiff := s.branched_right_iff h hf (instructionBytes opcode operand1 operand2)
  refine ⟨family, block, fb, _, hf, hdecode, hfast, ?_, hiff⟩
  rw [hexecute]
  exact ⟨fun ⟨hpc, hcycles⟩ => hiff.mp ⟨hpc, hcycles⟩, fun hright =>
    let ⟨hpc, hcycles⟩ := hiff.mpr hright
    ⟨hpc, hcycles⟩⟩

/-- A processor in work RAM with its zero flag clear. -/
def beforeJump : Core Board := { GameBoyMachine.powerOn.cpu.core with pc := 0xC000 }

/-- `JR NZ` over nothing. -/
theorem executors_branch_right_iff_jr :
    ∃ family block fb fast,
      opcodeTable 0x20#8 = some family ∧
      decodeInto ⟨beforeJump.pc, instructionBytes 0x20#8 0 0⟩ = .ok (block, fb) ∧
      beforeJump.tryFastExecuteBytes (instructionBytes 0x20#8 0 0) = some fast ∧
      (beforeJump.BranchesRight family 0x20#8 (fetchImm8 (instructionBytes 0x20#8 0 0) 0)
          (fetchImm16 (instructionBytes 0x20#8 0 0) 0) (beforeJump.execute block fb) ↔
        beforeJump.Unambiguous family 0x20#8 (fetchImm8 (instructionBytes 0x20#8 0 0) 0)
          (fetchImm16 (instructionBytes 0x20#8 0 0) 0)) ∧
      (beforeJump.BranchesRight family 0x20#8 (fetchImm8 (instructionBytes 0x20#8 0 0) 0)
          (fetchImm16 (instructionBytes 0x20#8 0 0) 0) fast ↔
        beforeJump.Unambiguous family 0x20#8 (fetchImm8 (instructionBytes 0x20#8 0 0) 0)
          (fetchImm16 (instructionBytes 0x20#8 0 0) 0)) :=
  executors_branch_right_iff beforeJump 0x20#8 0 0 (by decide)

/-- A taken `JR NZ` to the next instruction is charged as one that is not taken. -/
theorem jr_to_next_charged_short :
    ∃ fast, beforeJump.tryFastExecuteBytes (instructionBytes 0x20#8 0 0) = some fast ∧
      ¬ beforeJump.BranchesRight .jrCond 0x20#8 (fetchImm8 (instructionBytes 0x20#8 0 0) 0)
        (fetchImm16 (instructionBytes 0x20#8 0 0) 0) fast := by
  have hf : opcodeTable 0x20#8 = some .jrCond := by decide
  obtain ⟨_, _, -, -, hfast⟩ := beforeJump.branch_executed (by decide) hf 0 0
  refine ⟨_, hfast, ?_⟩
  rw [branched_right_iff beforeJump (by decide) hf]
  rintro ⟨-, htarget, -⟩
  exact htarget rfl (by decide) (by decide) (by decide)

end Core

end ProtoTime.GameBoy
