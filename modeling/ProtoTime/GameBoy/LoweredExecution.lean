import ProtoTime.GameBoy.LoweringCorrect
import ProtoTime.GameBoy.MachineStep

/-!
Dispatch of a lowered instruction against the canonical execution of the same
bytes, up to the path hint and the mark of a running instruction.
-/
namespace ProtoTime.GameBoy

open IR IRExecution

namespace Core

section Canonical

variable {σ : Type} [CpuBus σ]

/-- The fields that change how the bytes of an instruction are retired are the same. -/
structure SameHold (c c' : Core σ) : Prop where
  haltBug : c'.haltBugPcAdjustPending = c.haltBugPcAdjustPending
  charge : c'.pendingCycleCharge = c.pendingCycleCharge

variable (c : Core σ)

omit [CpuBus σ] in
theorem assignR16_sameHold (reg : R16) (value : Addr) : SameHold c (c.assignR16 reg value) := by
  cases reg <;> exact ⟨rfl, rfl⟩

theorem writeR8_sameHold (reg : R8) (value : Byte) : SameHold c (c.writeR8 reg value) := by
  cases reg <;> exact ⟨rfl, rfl⟩

omit [CpuBus σ] in
theorem mathOp_sameHold (code rhs : Byte) : SameHold c (c.mathOp code rhs) := by
  unfold mathOp
  generalize ((code >>> 3) &&& 0x07#8).toNat = n
  rcases n with _ | _ | _ | _ | _ | _ | _ | n <;> exact ⟨rfl, rfl⟩

theorem step_sameHold (family : OpcodeFamily) (code imm8 : Byte) (imm16 : Addr) :
    SameHold c (family.step code imm8 imm16 c) := by
  cases family with
  | ldR16Imm | incR16 | decR16 => exact c.assignR16_sameHold _ _
  | incR8 | decR8 => exact ⟨(c.writeR8_sameHold _ _).haltBug, (c.writeR8_sameHold _ _).charge⟩
  | ldR8Imm | ldR8R8 => exact c.writeR8_sameHold _ _
  | rotateA =>
    unfold OpcodeFamily.step rotateA
    dsimp only
    split <;> exact ⟨rfl, rfl⟩
  | ccf =>
    unfold OpcodeFamily.step
    dsimp only
    split <;> exact ⟨rfl, rfl⟩
  | jrCond | jpCond | callCond | retCond =>
    unfold OpcodeFamily.step
    dsimp only
    split <;> exact ⟨rfl, rfl⟩
  | ldIndirectA =>
    unfold OpcodeFamily.step ldIndirectA
    split_ifs <;> exact ⟨rfl, rfl⟩
  | mathR8 | mathImm => exact c.mathOp_sameHold _ _
  | popR16 =>
    unfold OpcodeFamily.step
    dsimp only
    cases decodeR16Stack code <;> exact ⟨rfl, rfl⟩
  | prefixCb =>
    unfold OpcodeFamily.step executeCbOpcode
    dsimp only
    split
    · exact ⟨(writeR8_sameHold _ _ _).haltBug, (writeR8_sameHold _ _ _).charge⟩
    · exact ⟨rfl, rfl⟩
    · exact c.writeR8_sameHold _ _
    · exact c.writeR8_sameHold _ _
  | _ => exact ⟨rfl, rfl⟩

/-- What the canonical path reports for an ordinary instruction. -/
def canonicalFeedback (opcode : Byte) (pcBefore pcAfter : Addr) (cycles : ℕ) : CpuFeedback :=
  { segmentBoundaryHint := isControlFlowOpcode opcode
    isControlFlow := isControlFlowOpcode opcode
    pcBefore := pcBefore.toNat
    pcAfter := pcAfter.toNat
    retiredCycles := cycles
    executionPath := .canonicalFetchDecodeExecute }

/-- The cycles of an instruction by whether it left the sequential address. -/
def chargedCycles (opcode : Byte) (sequentialPc pcAfter : Addr) : ℕ :=
  if pcAfter ≠ sequentialPc then (opcodeCyclesFor opcode).taken
  else (opcodeCyclesFor opcode).notTaken

def withFeedback (feedback : CpuFeedback) : Core σ := { c with feedback := feedback }

theorem retireInstruction_withFeedback (n : ℕ) (feedback : CpuFeedback) :
    (c.withFeedback feedback).retireInstruction n =
      (c.retireInstruction n).withFeedback feedback := by
  unfold retireInstruction withFeedback
  dsimp only
  split_ifs <;> rfl

theorem finalizeFast_eq (s : Core σ) (pcBefore : Addr) (opcode : Byte) (length : ℕ)
    (hbug : s.haltBugPcAdjustPending = false) (hcharge : s.pendingCycleCharge = 0) {next : Addr}
    (hnext : s.pc + BitVec.ofNat 16 length = next) {n : ℕ}
    (hn : n = chargedCycles opcode (pcBefore + BitVec.ofNat 16 length) next) :
    (s.finalizeFast pcBefore opcode length).withExecutionPath .canonicalFetchDecodeExecute =
      ((((s.pastInstruction length).withBus (CpuBus.endStep s.bus)).withFeedback
        (canonicalFeedback opcode pcBefore next n)).retireInstruction n) := by
  subst hnext
  obtain ⟨⟩ := s
  subst hbug
  subst hcharge
  subst hn
  rw [finalizeFast, ← retireInstruction_withExecutionPath]
  rfl

/-- Without a HALT-bug fetch and a pending charge, the canonical execution of one instruction is
its step in the opcode table, the program counter past it, and the retirement of its cycles. -/
theorem execute_alike {R : σ → σ → Prop} (hR : BracketBlind R) (c : Core σ) {opcode : Byte}
    {rest : List Byte} {family : OpcodeFamily} (hfast : family.isFast = true)
    (hlength : (opcode :: rest).length = family.length)
    (hbug : c.haltBugPcAdjustPending = false) (hcharge : c.pendingCycleCharge = 0) {next : Addr}
    (hnext : (family.instructionStep (opcode :: rest) c).pc = next) {n : ℕ}
    (hn : n = chargedCycles opcode (c.pc + BitVec.ofNat 16 family.length) next) :
    Alike R (((family.instructionStep (opcode :: rest) c).retireInstruction n).withFeedback
        (canonicalFeedback opcode c.pc next n))
      (c.execute (singleStep family (opcode :: rest)) ⟨c.pc, opcode :: rest⟩) := by
  have hbegun : Alike R c { c with bus := CpuBus.beginStep (opcodeCyclesFor opcode).notTaken c.bus } :=
    ⟨rfl, hR.beginStep _ _⟩
  have hstep := hbegun.step hR.toBusRelation family opcode (fetchImm8 (opcode :: rest) 0)
    (fetchImm16 (opcode :: rest) 0)
  have hhold := c.step_sameHold family opcode (fetchImm8 (opcode :: rest) 0)
    (fetchImm16 (opcode :: rest) 0)
  rw [execute_singleStep c hfast hlength, ← retireInstruction_withFeedback,
    OpcodeFamily.instructionStep]
  rw [OpcodeFamily.instructionStep] at hnext
  simp only [List.getD_cons_zero, hlength] at hnext ⊢
  generalize family.step opcode (fetchImm8 (opcode :: rest) 0) (fetchImm16 (opcode :: rest) 0) c =
    s at hstep hhold hnext ⊢
  obtain ⟨b, hb, hrel⟩ := hstep.exists_withBus
  rw [hb]
  have hbug' : s.haltBugPcAdjustPending = false := hhold.haltBug.trans hbug
  have hcharge' : s.pendingCycleCharge = 0 := hhold.charge.trans hcharge
  have hpast : s.pc + BitVec.ofNat 16 family.length = next := hnext
  rw [finalizeFast_eq (s.withBus b) c.pc opcode family.length hbug' hcharge' hpast hn]
  refine Alike.retireInstruction hR.toBusRelation ⟨rfl, ?_⟩ n
  exact hR.endStep hrel

end Canonical

end Core

/-- The pairs of a lowered prefix are the instructions in order with their lowered forms. -/
theorem lowerPrefix_getElem {instructions : List TranslatedInstruction} {index : ℕ}
    {pair : TranslatedInstruction × GuestInstruction}
    (h : (lowerPrefix instructions)[index]? = some pair) :
    instructions[index]? = some pair.1 ∧ lowerInstruction pair.1 = some pair.2 := by
  induction instructions generalizing index with
  | nil => simp [lowerPrefix] at h
  | cons instruction instructions ih =>
    cases hlowered : lowerInstruction instruction with
    | none =>
      rw [lowerPrefix, hlowered] at h
      simp at h
    | some lowered =>
      have hhead : some (instruction, lowered) = some pair →
          some instruction = some pair.1 ∧ lowerInstruction pair.1 = some pair.2 := by
        intro h
        cases h
        exact ⟨rfl, hlowered⟩
      rw [lowerPrefix, hlowered] at h
      dsimp only at h
      split at h
      · cases index with
        | zero => exact hhead h
        | succ index => simp at h
      · cases index with
        | zero => exact hhead h
        | succ index => exact ih h

variable {request : LoweringRequest}

theorem lower_getElem {block : Block}
    (h : lower request = some block) {index : ℕ} {lowered : GuestInstruction}
    (hlowered : block.instructions[index]? = some lowered) :
    ∃ instruction, request.instructions[index]? = some instruction ∧
      lowerInstruction instruction = some lowered := by
  have hinstructions : block.instructions = (lowerPrefix request.instructions).map (·.2) := by
    unfold lower at h
    cases hpairs : lowerPrefix request.instructions with
    | nil =>
      rw [hpairs] at h
      cases h
    | cons first rest =>
      rw [hpairs] at h
      cases h
      rfl
  rw [hinstructions, List.getElem?_map, Option.map_eq_some_iff] at hlowered
  obtain ⟨pair, hpair, rfl⟩ := hlowered
  exact ⟨pair.1, lowerPrefix_getElem hpair⟩

/-- Every opcode that can be lowered is one the fast path supports. -/
theorem supportsFastOpcode_of_lowerInstruction {instruction : TranslatedInstruction}
    {lowered : GuestInstruction} (h : lowerInstruction instruction = some lowered) :
    supportsFastOpcode (instruction.bytes.getD 0 0) = true := by
  have hload : ∀ opcode : Byte, (0x40#8 ≤ opcode ∧ opcode ≤ 0x7F#8 ∧ opcode ≠ 0x76#8 ∨
      opcode &&& 0xC7#8 = 0x06#8 ∨ (opcode &&& 0xC7#8 = 0x04#8 ∨ opcode &&& 0xC7#8 = 0x05#8) ∨
      0x80#8 ≤ opcode ∧ opcode ≤ 0xBF#8) → supportsFastOpcode opcode = true := by
    decide
  unfold lowerInstruction at h
  generalize instruction.bytes.getD 0 0 = opcode at h ⊢
  by_cases hzero : instruction.bytes.length = 0
  · rw [if_pos hzero] at h
    cases h
  rw [if_neg hzero] at h
  by_cases hnop : opcode = 0x00#8
  · rw [hnop]
    decide
  rw [if_neg hnop] at h
  by_cases h₁ : 0x40#8 ≤ opcode ∧ opcode ≤ 0x7F#8 ∧ opcode ≠ 0x76#8
  · exact hload opcode (Or.inl h₁)
  rw [if_neg h₁] at h
  by_cases h₂ : opcode &&& 0xC7#8 = 0x06#8 ∧ instruction.bytes.length ≥ 2
  · exact hload opcode (Or.inr (Or.inl h₂.1))
  rw [if_neg h₂] at h
  by_cases h₃ : opcode &&& 0xC7#8 = 0x04#8 ∨ opcode &&& 0xC7#8 = 0x05#8
  · exact hload opcode (Or.inr (Or.inr (Or.inl h₃)))
  rw [if_neg h₃] at h
  by_cases h₄ : 0x80#8 ≤ opcode ∧ opcode ≤ 0xBF#8
  · exact hload opcode (Or.inr (Or.inr (Or.inr h₄)))
  rw [if_neg h₄] at h
  by_cases h₅ : opcode = 0x18#8 ∧ instruction.bytes.length ≥ 2
  · rw [h₅.1]
    decide
  · rw [if_neg h₅] at h
    cases h

theorem validateGuardList_mem {generation : ℕ} {context : GuardContext} {guards : List Guard}
    (h : validateGuardList generation context guards = .none) {guard : Guard}
    (hmem : guard ∈ guards) : validateGuard generation context guard = .none := by
  induction guards with
  | nil => cases hmem
  | cons first guards ih =>
    rw [validateGuardList] at h
    cases hfirst : validateGuard generation context first with
    | none =>
      rw [hfirst] at h
      rcases List.mem_cons.mp hmem with rfl | hmem
      · exact hfirst
      · exact ih h hmem
    | _ =>
      rw [hfirst] at h
      cases h

/-- The guards of a block compare the whole execution state with the one of its request. -/
theorem executionState_of_guards {block : Block}
    (h : lower request = some block) {context : GuardContext}
    (hguards : validateGuards block context = .none) :
    context.executionState &&& kAllExecutionStateBits =
      request.executionState &&& kAllExecutionStateBits := by
  let guard : Guard :=
    { kind := .executionState
      expected := request.executionState
      mask := kAllExecutionStateBits }
  have hmem : guard ∈ block.guards := by
    unfold lower at h
    cases hpairs : lowerPrefix request.instructions with
    | nil =>
      rw [hpairs] at h
      cases h
    | cons first rest =>
      rw [hpairs] at h
      cases h
      simp [guard]
  have hguard := validateGuardList_mem hguards hmem
  by_contra hne
  rw [validateGuard, if_pos hne] at hguard
  cases hguard

namespace Core

theorem executionState_clear {σ : Type} [CpuBus σ] (c : Core σ)
    (h : c.irExecutionState &&& (kHaltBugPending ||| kPendingCycleCharge) = 0) :
    c.haltBugPcAdjustPending = false ∧ c.pendingCycleCharge = 0 := by
  have hbits : ∀ stop halt dma interrupt bug charge : Bool,
      ((if stop then kStop else 0) ||| (if halt then kHalt else 0) |||
        (if dma then kDmaRestricted else 0) ||| (if interrupt then kInterruptPending else 0) |||
        (if bug then kHaltBugPending else 0) ||| (if charge then kPendingCycleCharge else 0)) &&&
        (kHaltBugPending ||| kPendingCycleCharge) = 0 → bug = false ∧ charge = false := by
    decide
  have hclear := hbits (c.stopFlag ∨ c.illegalOpcodeLockup) c.haltFlag c.dmaRestricted
    (c.ime ∧ c.pendingInterrupts ≠ 0) c.haltBugPcAdjustPending (c.pendingCycleCharge ≠ 0)
    (by simpa [irExecutionState] using h)
  exact ⟨hclear.1, by simpa using hclear.2⟩

/-- For every block that was lowered from whole instructions while neither a HALT-bug fetch nor a
charge was pending, every instruction of it and every machine state that satisfies the guards of
the block: interpreting the lowered instruction ends as the canonical execution of its bytes does,
in the registers, the flags, the program counter, the bus and the charged cycles. The two differ
in the path hint and in the mark of a running instruction. -/
theorem executePortableIrInstruction_refines_decodeAndExecute (c : Core Board)
    {request : LoweringRequest} {block : Block} (hblock : lower request = some block)
    (hwhole : ∀ instruction ∈ request.instructions, ∃ family, IsWholeInstruction instruction family)
    (hstate : request.executionState &&& (kHaltBugPending ||| kPendingCycleCharge) = 0)
    (hguards : c.irGuardFailure block = .none) {index : ℕ}
    (hindex : index < block.instructions.length) {instruction : TranslatedInstruction}
    (hinstruction : request.instructions[index]? = some instruction)
    (hpc : c.pc = instruction.address) :
    ∃ lowered canonical,
      c.executePortableIrInstruction block c.pc index = .ok (some lowered) ∧
      c.decodeAndExecute ⟨c.pc, instruction.bytes⟩ = .ok canonical ∧
      Alike Board.SameUnmarked lowered (canonical.withExecutionPath .portableIr) := by
  obtain ⟨instruction', hinstruction', hlowered⟩ := lower_getElem hblock
    (List.getElem?_eq_getElem hindex)
  generalize hat : block.instructions[index] = lowered at hlowered
  cases hinstruction.symm.trans hinstruction'
  obtain ⟨family, hfamily⟩ := hwhole instruction (List.mem_of_getElem? hinstruction)
  have hlowers := lowerInstruction_lowersTo hfamily hlowered
  have hfast := opcodeTable_isFast _ family (supportsFastOpcode_of_lowerInstruction hlowered)
    hfamily.table
  have hmask : ∀ n : ℕ, n &&& (kHaltBugPending ||| kPendingCycleCharge) =
      (n &&& kAllExecutionStateBits) &&& (kHaltBugPending ||| kPendingCycleCharge) := by
    intro n
    rw [Nat.and_assoc]
    rfl
  have hcurrent := executionState_of_guards hblock hguards
  obtain ⟨hbug, hcharge⟩ := c.executionState_clear (by rw [hmask, hcurrent, ← hmask, hstate])
  have hinterprets := hlowers.interprets c hpc
  cases hbytes : instruction.bytes with
  | nil =>
    have hpos := family.length_pos
    rw [← hfamily.length, hbytes] at hpos
    exact absurd hpos (by decide)
  | cons opcode rest =>
    rw [hbytes] at hinterprets
    have htable : opcodeTable opcode = some family := by
      have h := hfamily.table
      rwa [hbytes] at h
    have hlength : (opcode :: rest).length = family.length := by
      rw [← hbytes]
      exact hfamily.length
    have hopcode : instruction.bytes.getD 0 0 = opcode := by
      rw [hbytes]
      rfl
    have hcycles : ∀ sequential next : Addr,
        lowered.cyclesNotTaken = chargedCycles opcode sequential next := by
      intro sequential next
      have htaken := hlowers.cycles_eq.symm.trans hlowers.cyclesTaken
      rw [hopcode] at htaken
      rw [chargedCycles, ← htaken, ← hopcode, ← hlowers.cyclesNotTaken, ite_self]
    have halike := execute_alike Board.sameUnmarked_bracketBlind c hfast hlength hbug hcharge rfl
      (hcycles _ _)
    generalize OpcodeFamily.instructionStep family (opcode :: rest) c = stepped
      at hinterprets halike
    refine ⟨(stepped.retireInstruction lowered.cyclesNotTaken).withFeedback
      { canonicalFeedback opcode c.pc stepped.pc lowered.cyclesNotTaken with
        executionPath := .portableIr },
      c.execute (singleStep family (opcode :: rest)) ⟨c.pc, opcode :: rest⟩, ?_, ?_, ?_⟩
    · unfold executePortableIrInstruction
      rw [List.getElem?_eq_getElem hindex, hat]
      dsimp only
      rw [hlowers.address, hpc, if_neg (by simp), hinterprets]
      dsimp only
      rw [hlowers.controlFlow, hlowers.interruptSensitive, hopcode]
      simp only [Bool.or_false, Bool.or_self, not_true, if_false, Bool.false_eq_true]
      rw [← retireInstruction_pc stepped lowered.cyclesNotTaken]
      rfl
    · rw [decodeAndExecute, decodeInto_single c.pc htable hlength]
    · exact halike.map (·.withExecutionPath .portableIr) (fun _ _ => rfl) fun _ => rfl

/-- `INC (HL)` in work RAM, with `HL` on the instruction itself. -/
def selfIncrement : Core Board :=
  { GameBoyMachine.powerOn.cpu.core with
    hl := 0xC000#16
    pc := 0xC000#16
    bus := GameBoyMachine.powerOn.board.write 0xC000#16 0x34#8 }

def selfIncrementRequest : LoweringRequest := ⟨[⟨0xC000#16, [0x34#8]⟩], 0, 0⟩

theorem executePortableIrInstruction_refines_decodeAndExecute_incHl :
    ∃ block lowered canonical,
      lower selfIncrementRequest = some block ∧
      selfIncrement.executePortableIrInstruction block selfIncrement.pc 0 = .ok (some lowered) ∧
      selfIncrement.decodeAndExecute ⟨selfIncrement.pc, [0x34#8]⟩ = .ok canonical ∧
      Alike Board.SameUnmarked lowered (canonical.withExecutionPath .portableIr) := by
  obtain ⟨block, hblock⟩ := Option.isSome_iff_exists.mp
    (show (lower selfIncrementRequest).isSome by decide)
  have hguards : ∀ block, lower selfIncrementRequest = some block →
      selfIncrement.irGuardFailure block = .none ∧ 0 < block.instructions.length := by
    intro block h
    have hsome : (lower selfIncrementRequest).all (fun block =>
        selfIncrement.irGuardFailure block = .none ∧ 0 < block.instructions.length) = true := by
      decide
    simpa [h] using hsome
  obtain ⟨lowered, canonical, hlowered, hcanonical, halike⟩ :=
    executePortableIrInstruction_refines_decodeAndExecute selfIncrement hblock
      (by
        intro instruction hmem
        rw [List.mem_singleton.mp hmem]
        exact ⟨.incR8, by decide, by decide⟩)
      (by decide) (hguards block hblock).1 (hguards block hblock).2 rfl rfl
  exact ⟨block, lowered, canonical, hblock, hlowered, hcanonical, halike⟩

end Core

end ProtoTime.GameBoy
