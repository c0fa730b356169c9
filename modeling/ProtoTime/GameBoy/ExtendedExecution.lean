import ProtoTime.GameBoy.ExtendedLoweringCorrect

/-!
Dispatch of a research lowering against the canonical execution of the same
bytes, over a bus that keeps the order of its writes.
-/
namespace ProtoTime.GameBoy

open IR IRExecution

structure Traced (σ : Type) where
  bus : σ
  writes : List (Addr × Byte)

namespace Traced

variable {σ : Type} [CpuBus σ]

instance : CpuBus (Traced σ) where
  read t address := CpuBus.read t.bus address
  write t address value := ⟨CpuBus.write t.bus address value, t.writes ++ [(address, value)]⟩
  beginStep n t := { t with bus := CpuBus.beginStep n t.bus }
  endStep t := { t with bus := CpuBus.endStep t.bus }
  retire n t := { t with bus := CpuBus.retire n t.bus }
  interruptFlags t := CpuBus.interruptFlags t.bus
  interruptEnable t := CpuBus.interruptEnable t.bus
  setInterruptFlags flags t := { t with bus := CpuBus.setInterruptFlags flags t.bus }
  dmaActive t := CpuBus.dmaActive t.bus

structure Same (R : σ → σ → Prop) (t t' : Traced σ) : Prop where
  bus : R t.bus t'.bus
  writes : t'.writes = t.writes

theorem same_bracketBlind {R : σ → σ → Prop} (hR : BracketBlind R) : BracketBlind (Same R) where
  read a h := hR.read a h.bus
  write a v h := by
    refine ⟨hR.write a v h.bus, ?_⟩
    change _ ++ _ = _ ++ _
    rw [h.writes]
  retire n h := ⟨hR.retire n h.bus, h.writes⟩
  dmaActive h := hR.dmaActive h.bus
  beginStep t n := ⟨hR.beginStep t.bus n, rfl⟩
  endStep h := ⟨hR.endStep h.bus, h.writes⟩

end Traced

namespace Core

variable {lowered : GuestInstruction} {family : OpcodeFamily}

section Dispatch

variable {σ : Type} [CpuBus σ]

/-- Dispatch of an instruction that is interpreted to its end. -/
theorem executePortableIrInstruction_eq {c c' : Core σ} {block : Block} {index : ℕ}
    (hget : block.instructions[index]? = some lowered)
    (haddress : lowered.address = c.pc.toNat) {opcode : Byte}
    (hflow : lowered.controlFlow = isControlFlowOpcode opcode)
    (hsensitive : lowered.interruptSensitive = false) {branchTaken selected : Bool}
    (hbranch : branchTaken = true → lowered.controlFlow = true)
    (hinterprets : c.InterpretsAs lowered branchTaken selected c') {n : ℕ}
    (hn : n = if selected then lowered.cyclesTaken else lowered.cyclesNotTaken) :
    c.executePortableIrInstruction block c.pc index =
      .ok (some ((c'.retireInstruction n).withFeedback
        { canonicalFeedback opcode c.pc c'.pc n with executionPath := .portableIr })) := by
  have htaken : (lowered.controlFlow || branchTaken) = lowered.controlFlow := by
    cases branchTaken with
    | false => exact Bool.or_false _
    | true => rw [hbranch rfl, Bool.or_self]
  unfold executePortableIrInstruction
  rw [hget]
  dsimp only
  rw [haddress, if_neg (by simp), hinterprets]
  dsimp only
  rw [htaken, hflow, hsensitive, ← hn, ← retireInstruction_pc c' n]
  simp only [Bool.or_false, not_true, if_false]
  rfl

theorem retireInstruction_writes (c : Core (Traced σ)) (n : ℕ) :
    (c.retireInstruction n).bus.writes = c.bus.writes := by
  unfold retireInstruction
  dsimp only
  split_ifs <;> rfl

theorem pushHighFirst_writes_ne (c : Core (Traced σ)) (v : Addr) :
    (c.pushHighFirst (hi v) (lo v)).bus.writes ≠ (c.push16 v).bus.writes := by
  intro h
  have hwrites : c.bus.writes ++ [(c.sp - 1, hi v)] ++ [(c.sp - 2, lo v)] =
      c.bus.writes ++ [(c.sp - 2, lo v)] ++ [(c.sp - 2 + 1, hi v)] := h
  rw [List.append_assoc, List.append_assoc, List.append_cancel_left_eq] at hwrites
  have haddress : c.sp - 1 = c.sp - 2 := congrArg Prod.fst (List.cons.inj hwrites).1
  bv_omega

theorem opcodeTable_pushesWord (opcode : Byte) :
    (pushesWord opcode = true →
      opcodeTable opcode = some (if opcode = 0xCD#8 then .call else .pushR16)) ∧
    (isJumpRelativeConditional opcode = true →
      opcodeTable opcode = some .jrCond ∧ opcodeCyclesFor opcode = ⟨8, 12⟩) := by
  revert opcode
  decide

theorem instructionStep_push (bytes : List Byte) (c : Core (Traced σ))
    (htable : opcodeTable (bytes.getD 0 0) = some family)
    (hpush : pushesWord (bytes.getD 0 0) = true) :
    (family.instructionStep bytes c).bus.writes =
      (c.push16 (c.pushedWord (bytes.getD 0 0))).bus.writes := by
  have hfamily := htable.symm.trans ((opcodeTable_pushesWord _).1 hpush)
  rw [Option.some.injEq] at hfamily
  subst hfamily
  unfold pushedWord OpcodeFamily.instructionStep
  by_cases hcall : bytes.getD 0 0 = 0xCD#8
  · rw [if_pos hcall, if_pos hcall]
    rfl
  · rw [if_neg hcall, if_neg hcall]
    rfl

def JumpsToSuccessor (c : Core σ) (bytes : List Byte) : Prop :=
  isJumpRelativeConditional (bytes.getD 0 0) = true ∧
    c.conditionHolds (decodeCondition (bytes.getD 0 0)) = true ∧ bytes.getD 1 0 = 0

omit [CpuBus σ] in
theorem signExtend_eq_zero (imm8 : Byte) : imm8.signExtend 16 = 0#16 ↔ imm8 = 0 := by
  rw [← BitVec.toInt_inj, BitVec.toInt_signExtend_of_le (by decide), ← BitVec.toInt_inj]
  rfl

/-- The cycles a lowered instruction selects are the charged ones, unless it is a taken jump to its
own successor. -/
theorem selectedCycles_eq_iff {instruction : TranslatedInstruction}
    (hwhole : IsWholeInstruction instruction family)
    (h : LowersExtended instruction family lowered) (c : Core σ) :
    (if c.cycleSelector (instruction.bytes.getD 0 0) then lowered.cyclesTaken
        else lowered.cyclesNotTaken) =
      chargedCycles (instruction.bytes.getD 0 0) (c.pc + BitVec.ofNat 16 instruction.bytes.length)
        (family.instructionStep instruction.bytes c).pc ↔
      ¬ c.JumpsToSuccessor instruction.bytes := by
  have htaken := h.cyclesTaken
  have hnotTaken := h.cyclesNotTaken
  generalize hopcode : instruction.bytes.getD 0 0 = opcode at *
  unfold JumpsToSuccessor cycleSelector chargedCycles
  rw [hopcode, htaken, hnotTaken]
  cases hjump : isJumpRelativeConditional opcode with
  | false =>
    have heq := h.cycles_eq (by rw [hopcode]; exact hjump)
    rw [htaken, hnotTaken] at heq
    simp [heq]
  | true =>
    obtain ⟨hfamily, hcycles⟩ := (opcodeTable_pushesWord opcode).2 hjump
    have htable := hwhole.table
    rw [hopcode, hfamily] at htable
    cases htable
    have hlength : instruction.bytes.length = 2 := hwhole.length
    have hpc : (OpcodeFamily.jrCond.instructionStep instruction.bytes c).pc =
        if c.conditionHolds (decodeCondition opcode) then
          c.pc + 2 + (instruction.bytes.getD 1 0).signExtend 16
        else c.pc + 2 := by
      have htarget (a d : Addr) : a + 2 + d - 2 + 2 = a + 2 + d := by bv_omega
      rw [OpcodeFamily.instructionStep, hopcode, OpcodeFamily.step, hlength]
      cases c.conditionHolds (decodeCondition opcode)
      · rfl
      · exact htarget c.pc _
    have hself : c.pc + 2 + (instruction.bytes.getD 1 0).signExtend 16 = c.pc + 2 ↔
        instruction.bytes.getD 1 0 = 0 := by
      rw [← signExtend_eq_zero]
      constructor
      · intro h
        bv_omega
      · intro h
        rw [h]
        exact BitVec.add_zero _
    have htwo : BitVec.ofNat 16 2 = (2 : Addr) := rfl
    rw [hcycles, hpc, hlength, htwo]
    generalize instruction.bytes.getD 1 0 = operand at hself ⊢
    cases c.conditionHolds (decodeCondition opcode)
    · simp
    · by_cases hzero : operand = 0
      · simp [hzero]
      · simp only [if_true, ne_eq, mt hself.mp hzero]
        simpa using hzero

end Dispatch

/-- For every whole instruction the research lowering accepts, every state of the processor and
its board that satisfies the guards on the execution state, and every place in a block:
interpreting the lowered instruction and executing its bytes end with the same registers, the same
program counter, the same writes in the same order, the same board and the same charged cycles,
exactly when the opcode is neither `CALL` nor a `PUSH` and is not a taken conditional jump to its
own successor. -/
theorem lowerExtended_refines_iff (c : Core (Traced Board)) {instruction : TranslatedInstruction}
    {family : OpcodeFamily} (hwhole : IsWholeInstruction instruction family)
    {lowered : GuestInstruction} (h : Research.lowerExtended true instruction = some lowered)
    {block : Block} {index : ℕ} (hget : block.instructions[index]? = some lowered)
    (hstate : c.irExecutionState &&& (kHaltBugPending ||| kPendingCycleCharge) = 0)
    (hpc : c.pc = instruction.address) :
    (∃ interpreted canonical,
      c.executePortableIrInstruction block c.pc index = .ok (some interpreted) ∧
      c.decodeAndExecute ⟨c.pc, instruction.bytes⟩ = .ok canonical ∧
      Alike (Traced.Same Board.SameUnmarked) interpreted
        (canonical.withExecutionPath .portableIr)) ↔
      pushesWord (instruction.bytes.getD 0 0) = false ∧
        ¬ c.JumpsToSuccessor instruction.bytes := by
  have hlowers := lowerExtended_lowersExtended hwhole h
  obtain ⟨branchTaken, hbranch, hinterprets⟩ := hlowers.interprets c hpc
  have haddress : lowered.address = c.pc.toNat := by rw [hlowers.address, hpc]
  have hdispatch := executePortableIrInstruction_eq hget haddress hlowers.controlFlow
    hlowers.interruptSensitive hbranch hinterprets rfl
  have hcycles := selectedCycles_eq_iff hwhole hlowers c
  obtain ⟨hbug, hcharge⟩ := c.executionState_clear hstate
  cases hbytes : instruction.bytes with
  | nil =>
    have hpos := family.length_pos
    rw [← hwhole.length, hbytes] at hpos
    exact absurd hpos (by decide)
  | cons opcode rest =>
    have hhead : (opcode :: rest).getD 0 0 = opcode := rfl
    rw [hbytes] at hdispatch hcycles
    rw [hhead] at hdispatch hcycles ⊢
    have htable : opcodeTable opcode = some family := by
      have h := hwhole.table
      rwa [hbytes] at h
    have hlength : (opcode :: rest).length = family.length := by
      rw [← hbytes]
      exact hwhole.length
    have hcanonical : c.decodeAndExecute ⟨c.pc, opcode :: rest⟩ =
        .ok (c.execute (singleStep family (opcode :: rest)) ⟨c.pc, opcode :: rest⟩) := by
      rw [decodeAndExecute, decodeInto_single c.pc htable hlength]
    have halike := execute_alike (Traced.same_bracketBlind Board.sameUnmarked_bracketBlind) c
      hlowers.fast hlength hbug hcharge rfl rfl
    rw [hlength] at hcycles
    generalize hcharged : chargedCycles opcode (c.pc + BitVec.ofNat 16 family.length)
      (family.instructionStep (opcode :: rest) c).pc = charged at hcycles halike
    generalize hselected : (if c.cycleSelector opcode then lowered.cyclesTaken
      else lowered.cyclesNotTaken) = selected at hcycles hdispatch
    have hexecuted : ∀ d, c.decodeAndExecute ⟨c.pc, opcode :: rest⟩ = .ok d →
        d = ((family.instructionStep (opcode :: rest) c).retireInstruction charged
          |>.withFeedback (canonicalFeedback opcode c.pc
            (family.instructionStep (opcode :: rest) c).pc charged)).withBus d.bus ∧
        d.bus.writes = (family.instructionStep (opcode :: rest) c).bus.writes := by
      intro d hd
      rw [hcanonical] at hd
      cases hd
      refine ⟨halike.core, halike.bus.writes.trans ?_⟩
      exact retireInstruction_writes _ _
    constructor
    · rintro ⟨interpreted, canonical, hinterpreted, hd, hsame⟩
      obtain ⟨hcore, hwrites⟩ := hexecuted canonical hd
      rw [hdispatch] at hinterpreted
      cases hinterpreted
      have hcanonicalCycles : canonical.feedback.retiredCycles = charged :=
        congrArg (fun d => d.feedback.retiredCycles) hcore
      have hloweredCycles : canonical.feedback.retiredCycles = selected :=
        congrArg (fun d => d.feedback.retiredCycles) hsame.core
      have hloweredWrites : canonical.bus.writes =
          (c.extendedStep family (opcode :: rest)).bus.writes :=
        hsame.bus.writes.trans (retireInstruction_writes _ _)
      refine ⟨?_, hcycles.mp (hloweredCycles.symm.trans hcanonicalCycles)⟩
      by_contra hpush
      rw [Bool.not_eq_false] at hpush
      refine c.pushHighFirst_writes_ne (c.pushedWord opcode) ?_
      have hpushed := instructionStep_push (opcode :: rest) c htable hpush
      rw [extendedStep, hhead, if_pos hpush] at hloweredWrites
      exact hloweredWrites.symm.trans (hwrites.trans hpushed)
    · rintro ⟨hpush, hjump⟩
      have heq : selected = charged := hcycles.mpr hjump
      refine ⟨_, _, hdispatch, hcanonical, ?_⟩
      have hplain : c.extendedStep family (opcode :: rest) =
          family.instructionStep (opcode :: rest) c := by
        rw [extendedStep, hhead, hpush]
        rfl
      rw [hplain, heq]
      exact halike.map (·.withExecutionPath .portableIr) (fun _ _ => rfl) fun _ => rfl

/-- The power-on processor at the start of work RAM, with no write recorded. -/
def tracedPowerOn : Core (Traced Board) :=
  { af := 0x0100#16
    bc := 0x1234#16
    de := 0
    hl := 0
    sp := 0xC100#16
    pc := 0xC000#16
    flagset := 0
    cip := 0
    feedback := {}
    ime := false
    imeEnablePending := false
    imeEnableDelay := 0
    stopFlag := false
    haltFlag := false
    illegalOpcodeLockup := false
    haltBugActive := false
    haltBugPcAdjustPending := false
    pendingCycleCharge := 0
    bus := ⟨GameBoyMachine.powerOn.board, []⟩ }

def singleBlock (lowered : GuestInstruction) : Block :=
  { guestStart := lowered.address
    mappingGeneration := 0
    guards := []
    instructions := [lowered] }

/-- `INC BC`. -/
theorem lowerExtended_refines_iff_incBc : ∃ lowered interpreted canonical,
    Research.lowerExtended true ⟨0xC000#16, [0x03#8]⟩ = some lowered ∧
    tracedPowerOn.executePortableIrInstruction (singleBlock lowered) tracedPowerOn.pc 0 =
      .ok (some interpreted) ∧
    tracedPowerOn.decodeAndExecute ⟨tracedPowerOn.pc, [0x03#8]⟩ = .ok canonical ∧
    Alike (Traced.Same Board.SameUnmarked) interpreted
      (canonical.withExecutionPath .portableIr) := by
  obtain ⟨lowered, hlowered⟩ := Option.isSome_iff_exists.mp
    (show (Research.lowerExtended true ⟨0xC000#16, [0x03#8]⟩).isSome by decide)
  have hwhole : IsWholeInstruction ⟨0xC000#16, [0x03#8]⟩ .incR16 := ⟨by decide, by decide⟩
  have hget : (singleBlock lowered).instructions[0]? = some lowered := rfl
  obtain ⟨interpreted, canonical, h⟩ := (lowerExtended_refines_iff tracedPowerOn hwhole hlowered
    hget (by decide) rfl).mpr ⟨by decide, fun hjump => absurd hjump.1 (by decide)⟩
  exact ⟨lowered, interpreted, canonical, hlowered, h⟩

/-- `PUSH BC` writes its two bytes the other way round, and a taken `JR NZ` to its own successor is
charged twelve cycles in place of eight. -/
theorem pushBc_jumpToSuccessor_diverge :
    (∃ lowered, Research.lowerExtended true ⟨0xC000#16, [0xC5#8]⟩ = some lowered ∧
      ¬ ∃ interpreted canonical,
        tracedPowerOn.executePortableIrInstruction (singleBlock lowered) tracedPowerOn.pc 0 =
          .ok (some interpreted) ∧
        tracedPowerOn.decodeAndExecute ⟨tracedPowerOn.pc, [0xC5#8]⟩ = .ok canonical ∧
        canonical.bus.writes = interpreted.bus.writes) ∧
    ∃ lowered, Research.lowerExtended true ⟨0xC000#16, [0x20#8, 0x00#8]⟩ = some lowered ∧
      ¬ ∃ interpreted canonical,
        tracedPowerOn.executePortableIrInstruction (singleBlock lowered) tracedPowerOn.pc 0 =
          .ok (some interpreted) ∧
        tracedPowerOn.decodeAndExecute ⟨tracedPowerOn.pc, [0x20#8, 0x00#8]⟩ = .ok canonical ∧
        canonical.feedback.retiredCycles = interpreted.feedback.retiredCycles := by
  constructor
  · refine ⟨_, rfl, ?_⟩
    rintro ⟨interpreted, canonical, hinterpreted, hcanonical, hwrites⟩
    let writes (c : Core (Traced Board)) := c.bus.writes
    have hhighFirst : Except.ok (some [(0xC0FF#16, 0x12#8), (0xC0FE#16, 0x34#8)]) =
        Except.ok (some interpreted.bus.writes) :=
      congrArg (Except.map (Option.map writes)) hinterpreted
    have hlowFirst : Except.ok [(0xC0FE#16, 0x34#8), (0xC0FF#16, 0x12#8)] =
        Except.ok canonical.bus.writes := congrArg (Except.map writes) hcanonical
    rw [hwrites, ← Option.some.inj (Except.ok.inj hhighFirst)] at hlowFirst
    exact absurd (Except.ok.inj hlowFirst) (by decide)
  · refine ⟨_, rfl, ?_⟩
    rintro ⟨interpreted, canonical, hinterpreted, hcanonical, hcycles⟩
    let cycles (c : Core (Traced Board)) := c.feedback.retiredCycles
    have htaken : Except.ok (some 12) = Except.ok (some interpreted.feedback.retiredCycles) :=
      congrArg (Except.map (Option.map cycles)) hinterpreted
    have hnotTaken : Except.ok 8 = Except.ok canonical.feedback.retiredCycles :=
      congrArg (Except.map cycles) hcanonical
    rw [hcycles, ← Option.some.inj (Except.ok.inj htaken)] at hnotTaken
    exact absurd (Except.ok.inj hnotTaken) (by decide)

end Core

end ProtoTime.GameBoy
