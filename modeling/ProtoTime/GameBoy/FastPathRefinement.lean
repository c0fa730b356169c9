import ProtoTime.GameBoy.FastPath

/-!
The fast path refines the canonical interpreter: dispatch agrees with the opcode
table, each body agrees with the step of its family, and so the two executions
of a fetched instruction end in the same state up to the recorded path hint.
-/
namespace ProtoTime.GameBoy

/-- The families the byte path has a case for. -/
def OpcodeFamily.isFast (family : OpcodeFamily) : Bool :=
  family ≠ .prefixCb ∧ family ≠ .undefined

theorem opcode_facts (opcode : Byte) :
    (opcodeTable opcode).isSome ∧
    (supportsFastOpcode opcode = true → fastDispatch opcode = opcodeTable opcode ∧
      (opcodeTable opcode).all OpcodeFamily.isFast = true) ∧
    ((opcode >>> 4) &&& 0x03#8 = 3#8 ↔ decodeR16Stack opcode = .af) := by
  revert opcode
  decide +kernel

theorem opcodeTable_isSome (opcode : Byte) : (opcodeTable opcode).isSome :=
  (opcode_facts opcode).1

theorem fastDispatch_eq_opcodeTable (opcode : Byte) (h : supportsFastOpcode opcode = true) :
    fastDispatch opcode = opcodeTable opcode :=
  ((opcode_facts opcode).2.1 h).1

theorem opcodeTable_isFast (opcode : Byte) (family : OpcodeFamily)
    (h : supportsFastOpcode opcode = true) (hf : opcodeTable opcode = some family) :
    family.isFast = true := by
  simpa [hf] using ((opcode_facts opcode).2.1 h).2

theorem decodeR16Stack_eq_af (opcode : Byte) :
    (opcode >>> 4) &&& 0x03#8 = 3#8 ↔ decodeR16Stack opcode = .af :=
  (opcode_facts opcode).2.2

theorem flagByte_noHalf (z n c : Bool) :
    (if z then kFlagZ else 0) ||| (if n then kFlagN else 0) ||| (if c then kFlagC else 0) =
      flagByte z n false c := by
  revert z n c
  decide

namespace Core

section Registers

variable {σ : Type} (s : Core σ)

theorem cachedR16_eq (opcode : Byte) :
    s.cachedR16 ((opcode >>> 4) &&& 0x03#8) = s.accessR16 (decodeR16 opcode) := by
  unfold cachedR16 decodeR16
  rw [and_mask_twice]
  generalize ((opcode >>> 4) &&& 0x03#8).toNat = n
  rcases n with _ | _ | _ | n <;> rfl

theorem assignCachedR16_eq (opcode : Byte) (value : Addr) :
    s.assignCachedR16 ((opcode >>> 4) &&& 0x03#8) value =
      s.assignR16 (decodeR16 opcode) value := by
  unfold assignCachedR16 decodeR16
  rw [and_mask_twice]
  generalize ((opcode >>> 4) &&& 0x03#8).toNat = n
  rcases n with _ | _ | _ | n <;> rfl

theorem cachedStackR16_eq (opcode : Byte) :
    s.cachedStackR16 ((opcode >>> 4) &&& 0x03#8) = s.accessStackR16 (decodeR16Stack opcode) := by
  unfold cachedStackR16 decodeR16Stack
  rw [and_mask_twice]
  generalize ((opcode >>> 4) &&& 0x03#8).toNat = n
  rcases n with _ | _ | _ | n <;> rfl

theorem assignCachedStackR16_eq (opcode : Byte) (value : Addr) :
    s.assignCachedStackR16 ((opcode >>> 4) &&& 0x03#8) value =
      s.assignStackR16 (decodeR16Stack opcode) value := by
  unfold assignCachedStackR16 decodeR16Stack
  rw [and_mask_twice]
  generalize ((opcode >>> 4) &&& 0x03#8).toNat = n
  rcases n with _ | _ | _ | n <;> rfl

theorem cachedConditionHolds_eq (opcode : Byte) :
    s.cachedConditionHolds ((opcode >>> 3) &&& 0x03#8) =
      s.conditionHolds (decodeCondition opcode) := by
  unfold cachedConditionHolds decodeCondition
  rw [and_mask_twice]
  generalize ((opcode >>> 3) &&& 0x03#8).toNat = n
  rcases n with _ | _ | _ | n <;> rfl

theorem executeMathOp_eq (code rhs : Byte) : s.executeMathOp code rhs = s.mathOp code rhs := by
  generalize ((code >>> 3) &&& 0x07#8).toNat = n
  rcases n with _ | _ | _ | _ | _ | _ | _ | n <;> rfl

theorem rotateCachedA_eq (opcode : Byte) : s.rotateCachedA opcode = s.rotateA opcode := by
  generalize ((opcode >>> 3) &&& 0x03#8).toNat = n
  rcases n with _ | _ | _ | n <;> rfl

theorem cachedDaa_eq : s.cachedDaa = s.daa := by
  unfold cachedDaa daa
  simp only [flagByte_noHalf]
  rfl

end Registers

variable {σ : Type} [CpuBus σ] (s : Core σ)

theorem cachedReadR8_eq (regCode : Byte) :
    s.cachedReadR8 regCode = s.readR8 (decodeR8 regCode) := by
  unfold cachedReadR8 decodeR8
  generalize (regCode &&& 0x07#8).toNat = n
  rcases n with _ | _ | _ | _ | _ | _ | _ | n <;> rfl

theorem cachedWriteR8_eq (regCode value : Byte) :
    s.cachedWriteR8 regCode value = s.writeR8 (decodeR8 regCode) value := by
  unfold cachedWriteR8 decodeR8
  generalize (regCode &&& 0x07#8).toNat = n
  rcases n with _ | _ | _ | _ | _ | _ | _ | n <;> rfl

theorem cachedReadR8_src (opcode : Byte) :
    s.cachedReadR8 (opcode &&& 0x07#8) = s.readR8 (decodeR8Src opcode) := by
  rw [cachedReadR8_eq, decodeR8Src, decodeR8, decodeR8, and_mask_twice]

/-- Both copies of every instruction body agree, and the byte path finalizes with the
length of the table entry. -/
theorem fastBody_eq_step (family : OpcodeFamily) (opcode imm8 : Byte) (imm16 : Addr)
    (h : family.isFast = true) :
    s.fastBody family opcode imm8 imm16 =
      some (family.step opcode imm8 imm16 s, family.length) := by
  cases family with
  | ldR8R8 =>
    simp only [fastBody, OpcodeFamily.step, OpcodeFamily.length, cachedWriteR8_eq,
      cachedReadR8_src, decodeR8Dest]
  | mathR8 =>
    simp only [fastBody, OpcodeFamily.step, OpcodeFamily.length, executeMathOp_eq,
      cachedReadR8_src]
  | mathImm => simp only [fastBody, OpcodeFamily.step, OpcodeFamily.length, executeMathOp_eq]
  | ldR16Imm => simp only [fastBody, OpcodeFamily.step, OpcodeFamily.length, assignCachedR16_eq]
  | incR16 | decR16 =>
    simp only [fastBody, OpcodeFamily.step, OpcodeFamily.length, assignCachedR16_eq,
      cachedR16_eq]
  | addHlR16 =>
    simp only [fastBody, OpcodeFamily.step, OpcodeFamily.length, cachedR16_eq]
    rfl
  | jrCond | jpCond | retCond | callCond =>
    simp only [fastBody, OpcodeFamily.step, OpcodeFamily.length, cachedConditionHolds_eq]
    split <;> rfl
  | popR16 =>
    simp only [fastBody, OpcodeFamily.step, OpcodeFamily.length, assignCachedStackR16_eq,
      decodeR16Stack_eq_af]
    rfl
  | pushR16 =>
    simp only [fastBody, OpcodeFamily.step, OpcodeFamily.length, cachedStackR16_eq]
    rfl
  | incR8 | decR8 =>
    simp only [fastBody, OpcodeFamily.step, OpcodeFamily.length, cachedReadR8_eq,
      cachedWriteR8_eq, decodeR8Dest]
    rfl
  | ldR8Imm =>
    simp only [fastBody, OpcodeFamily.step, OpcodeFamily.length, cachedWriteR8_eq, decodeR8Dest]
  | rotateA => simp only [fastBody, OpcodeFamily.step, OpcodeFamily.length, rotateCachedA_eq]
  | daa => simp only [fastBody, OpcodeFamily.step, OpcodeFamily.length, cachedDaa_eq]
  | scf =>
    simp only [fastBody, OpcodeFamily.step, OpcodeFamily.length, assignCachedFlags, cachedFlags,
      assignFlags, flags, setLo_setLo, lo_setLo]
  | prefixCb | undefined => exact absurd h (by decide)
  | _ => rfl

end Core

/-- The bytes a fetch delivers for an opcode and the two bytes after it. -/
def opcodeLength (opcode : Byte) : ℕ := ((opcodeTable opcode).map OpcodeFamily.length).getD 0

def instructionBytes (opcode operand1 operand2 : Byte) : List Byte :=
  [opcode, operand1, operand2].take (opcodeLength opcode)

theorem OpcodeFamily.length_pos (family : OpcodeFamily) : 0 < family.length := by
  cases family <;> decide

theorem OpcodeFamily.length_le (family : OpcodeFamily) : family.length ≤ 3 := by
  cases family <;> decide

variable {opcode : Byte} {family : OpcodeFamily}

theorem opcodeLength_eq
    (hf : opcodeTable opcode = some family) : opcodeLength opcode = family.length := by
  simp [opcodeLength, hf]

theorem instructionBytes_length (hf : opcodeTable opcode = some family) (operand1 operand2 : Byte) :
    (instructionBytes opcode operand1 operand2).length = family.length := by
  have hle := family.length_le
  rw [instructionBytes, opcodeLength_eq hf, List.length_take]
  simpa using hle

theorem instructionBytes_cons (hf : opcodeTable opcode = some family) (operand1 operand2 : Byte) :
    ∃ rest, instructionBytes opcode operand1 operand2 = opcode :: rest := by
  obtain ⟨n, hn⟩ := Nat.exists_eq_succ_of_ne_zero family.length_pos.ne'
  exact ⟨[operand1, operand2].take n, by rw [instructionBytes, opcodeLength_eq hf, hn]; rfl⟩

/-- The execution block of one instruction. -/
def singleStep {σ : Type} [CpuBus σ] (family : OpcodeFamily) (data : List Byte) :
    ExecutionBlock σ :=
  { steps := [((family.cycles data 0).notTaken,
      family.step (data.getD 0 0) (fetchImm8 data 0) (fetchImm16 data 0))]
    cyclesIfNotTaken := (family.cycles data 0).notTaken
    cyclesIfTaken := (family.cycles data 0).taken }

variable {rest : List Byte}

theorem decodeInto_single {σ : Type} [CpuBus σ] (base : Addr)
    (hf : opcodeTable opcode = some family) (hlen : (opcode :: rest).length = family.length) :
    decodeInto (σ := σ) ⟨base, opcode :: rest⟩ =
      .ok (singleStep family (opcode :: rest), ⟨base, opcode :: rest⟩) := by
  have hend (rounds : ℕ) (block : ExecutionBlock σ) :
      decodeLoop base (opcode :: rest) rounds (opcode :: rest).length block =
        .ok (block, (opcode :: rest).length) := by
    cases rounds with
    | zero => rfl
    | succ rounds => simp [decodeLoop]
  have hloop : decodeLoop (σ := σ) base (opcode :: rest) (opcode :: rest).length 0 {} =
      .ok (singleStep family (opcode :: rest), (opcode :: rest).length) := by
    rw [List.length_cons, decodeLoop]
    simp only [List.length_cons] at hlen hend
    simp only [List.length_cons, Nat.le_zero_eq, Nat.succ_ne_zero, if_false, List.getD_cons_zero,
      hf, Nat.zero_add, ← hlen, gt_iff_lt, lt_irrefl, List.nil_append, hend, ite_self]
    rfl
  simp only [decodeInto, hloop, List.take_length]

theorem opcodeTable_cycles (hfast : family.isFast = true) (rest : List Byte) :
    family.cycles (opcode :: rest) 0 = opcodeCyclesFor opcode := by
  cases family <;> first | rfl | exact absurd hfast (by decide)

namespace Core

/-- The low nibble of the flag register is zero. -/
def FlagsWellFormed {σ : Type} (s : Core σ) : Prop := s.flags &&& 0x0F#8 = 0

theorem flagByte_lowNibble (z n h c : Bool) : flagByte z n h c &&& 0x0F#8 = 0 := by
  revert z n h c
  decide

variable {σ : Type}

theorem setFlags_wellFormed (s : Core σ) (z n h c : Bool) :
    (s.setFlags z n h c).FlagsWellFormed := by
  simpa [FlagsWellFormed, setFlags, assignFlags, flags] using flagByte_lowNibble z n h c

variable {s : Core σ}

theorem assignAccumulator_wellFormed (hs : s.FlagsWellFormed) (value : Byte) :
    (s.assignAccumulator value).FlagsWellFormed := by
  simpa [FlagsWellFormed, assignAccumulator, flags] using hs

theorem mathOp_wellFormed (s : Core σ) (code rhs : Byte) :
    (s.mathOp code rhs).FlagsWellFormed := by
  unfold mathOp
  generalize ((code >>> 3) &&& 0x07#8).toNat = n
  rcases n with _ | _ | _ | _ | _ | _ | _ | n <;> exact setFlags_wellFormed ..

theorem rotateA_wellFormed (s : Core σ) (code : Byte) : (s.rotateA code).FlagsWellFormed := by
  unfold rotateA
  generalize ((code >>> 3) &&& 0x03#8).toNat = n
  rcases n with _ | _ | _ | n <;> exact setFlags_wellFormed ..

theorem daa_wellFormed (s : Core σ) : s.daa.FlagsWellFormed := by
  simpa [FlagsWellFormed, daa, assignFlags, flags] using flagByte_lowNibble _ _ _ _

@[simp] theorem flags_assignFlags (s : Core σ) (value : Byte) :
    (s.assignFlags value).flags = value := lo_setLo _ _

theorem assignFlags_wellFormed (s : Core σ) {value : Byte} (h : value &&& 0x0F#8 = 0) :
    (s.assignFlags value).FlagsWellFormed := by
  simpa [FlagsWellFormed, assignFlags, flags] using h

theorem lowNibble_flagBits (value mask set : Byte) (hm : mask &&& 0x0F#8 = 0)
    (hs : set &&& 0x0F#8 = 0) : ((value &&& mask) ||| set) &&& 0x0F#8 = 0 := by
  rw [BitVec.and_or_distrib_right, hs, BitVec.and_assoc, hm]
  simp

theorem assignR16_wellFormed (hs : s.FlagsWellFormed) (reg : R16) (value : Addr) :
    (s.assignR16 reg value).FlagsWellFormed := by
  cases reg <;> exact hs

theorem assignStackR16_wellFormed (hs : s.FlagsWellFormed) (reg : R16Stack) (value : Addr) :
    (s.assignStackR16 reg (if reg = .af then value &&& 0xFFF0#16 else value)).FlagsWellFormed := by
  cases reg with
  | af =>
    simp only [FlagsWellFormed, flags, assignStackR16, if_true]
    ext i hi
    interval_cases i <;> simp [lo]
  | _ => exact hs

variable [CpuBus σ]

theorem writeR8_wellFormed (hs : s.FlagsWellFormed) (reg : R8) (value : Byte) :
    (s.writeR8 reg value).FlagsWellFormed := by
  cases reg with
  | a => exact assignAccumulator_wellFormed hs value
  | _ => exact hs

theorem ldIndirectA_wellFormed (hs : s.FlagsWellFormed) (code : Byte) :
    (s.ldIndirectA code).FlagsWellFormed := by
  unfold ldIndirectA
  split_ifs <;> first | exact hs | exact assignAccumulator_wellFormed hs _

/-- Every instruction body keeps the low nibble of the flag register zero. -/
theorem step_wellFormed (hs : s.FlagsWellFormed) (family : OpcodeFamily)
    (opcode imm8 : Byte) (imm16 : Addr) (h : family.isFast = true) :
    (family.step opcode imm8 imm16 s).FlagsWellFormed := by
  cases family with
  | ldR16Imm | incR16 | decR16 => exact assignR16_wellFormed hs ..
  | ldR8Imm | ldR8R8 => exact writeR8_wellFormed hs ..
  | incR8 | decR8 => exact setFlags_wellFormed ..
  | addHlR16 | addSp | ldHlSp => exact setFlags_wellFormed s ..
  | rotateA => exact rotateA_wellFormed ..
  | daa => exact daa_wellFormed s
  | cpl =>
    simp only [OpcodeFamily.step, BitVec.or_assoc]
    exact assignFlags_wellFormed _
      (lowNibble_flagBits _ (kFlagZ ||| kFlagC) (kFlagN ||| kFlagH) (by decide) (by decide))
  | scf =>
    simp only [OpcodeFamily.step, flags_assignFlags]
    exact assignFlags_wellFormed _ (lowNibble_flagBits _ kFlagZ kFlagC (by decide) (by decide))
  | ccf =>
    simp only [OpcodeFamily.step]
    split
    · simp only [flags_assignFlags]
      exact assignFlags_wellFormed _ (lowNibble_flagBits _ kFlagZ kFlagC (by decide) (by decide))
    · exact assignFlags_wellFormed s
        (by simpa using lowNibble_flagBits s.flags kFlagZ 0 (by decide) (by decide))
  | jrCond | jpCond | retCond | callCond =>
    simp only [OpcodeFamily.step]
    split <;> exact hs
  | ldIndirectA => exact ldIndirectA_wellFormed hs _
  | mathR8 | mathImm => exact mathOp_wellFormed ..
  | popR16 => exact assignStackR16_wellFormed (s := s.pop16.2) hs ..
  | ldhLoadImm | ldhLoadC | ldAbsLoad => exact assignAccumulator_wellFormed hs _
  | prefixCb | undefined => exact absurd h (by decide)
  | _ => exact hs

theorem retireInstruction_af (s : Core σ) (cycles : ℕ) : (s.retireInstruction cycles).af = s.af := by
  unfold retireInstruction
  dsimp only
  split_ifs <;> rfl

theorem retireInstruction_pc (s : Core σ) (cycles : ℕ) : (s.retireInstruction cycles).pc = s.pc := by
  unfold retireInstruction
  dsimp only
  split_ifs <;> rfl

@[simp] theorem retireInstruction_feedback (s : Core σ) (cycles : ℕ) :
    (s.retireInstruction cycles).feedback = s.feedback := by
  unfold retireInstruction
  dsimp only
  split_ifs <;> rfl

/-- The state with the path hint of its last instruction replaced. -/
def withExecutionPath (s : Core σ) (path : ExecutionPathHint) : Core σ :=
  { s with feedback := { s.feedback with executionPath := path } }

theorem retireInstruction_withExecutionPath (s : Core σ) (cycles : ℕ) (path : ExecutionPathHint) :
    (s.withExecutionPath path).retireInstruction cycles =
      (s.retireInstruction cycles).withExecutionPath path := by
  unfold retireInstruction withExecutionPath
  dsimp only
  split_ifs <;> rfl

theorem tryFastExecuteBytes_eq (s : Core σ) {opcode : Byte}
    {family : OpcodeFamily} (h : supportsFastOpcode opcode = true)
    (hf : opcodeTable opcode = some family) :
    s.tryFastExecuteBytes (opcode :: rest) =
      some ((family.step opcode (fetchImm8 (opcode :: rest) 0) (fetchImm16 (opcode :: rest) 0)
        { s with bus := CpuBus.beginStep (opcodeCyclesFor opcode).notTaken s.bus }).finalizeFast
          s.pc opcode family.length) := by
  have hdispatch : fastDispatch opcode = some family :=
    (fastDispatch_eq_opcodeTable opcode h).trans hf
  have hfast := opcodeTable_isFast opcode family h hf
  simp only [tryFastExecuteBytes, h, not_true, if_false, hdispatch, Option.bind_some,
    fastBody_eq_step _ family _ _ _ hfast]
  rfl

theorem execute_singleStep (s : Core σ) {opcode : Byte}
    {family : OpcodeFamily} (hfast : family.isFast = true)
    (hlen : (opcode :: rest).length = family.length) :
    s.execute (singleStep family (opcode :: rest)) ⟨s.pc, opcode :: rest⟩ =
      ((family.step opcode (fetchImm8 (opcode :: rest) 0) (fetchImm16 (opcode :: rest) 0)
        { s with bus := CpuBus.beginStep (opcodeCyclesFor opcode).notTaken s.bus }).finalizeFast
          s.pc opcode family.length).withExecutionPath .canonicalFetchDecodeExecute := by
  have hne : family.length ≠ 0 := family.length_pos.ne'
  unfold execute finalizeFast
  rw [← retireInstruction_withExecutionPath]
  simp only [hlen, hne, false_and, if_false, singleStep, opcodeTable_cycles hfast]
  rfl

/-- For every supported opcode and every pair of bytes after it, from any processor state over
any bus, the fast path and the canonical decode and execute path end in the same state: registers,
bus, interrupt flags and charged cycles. They differ in the recorded path hint only, and both
keep the low nibble of the flag register zero. -/
theorem tryFastExecuteBytes_refines_execute (s : Core σ) (opcode operand1 operand2 : Byte)
    (h : supportsFastOpcode opcode = true) :
    ∃ block fb fast,
      decodeInto ⟨s.pc, instructionBytes opcode operand1 operand2⟩ = .ok (block, fb) ∧
      s.tryFastExecuteBytes (instructionBytes opcode operand1 operand2) = some fast ∧
      s.execute block fb = fast.withExecutionPath .canonicalFetchDecodeExecute ∧
      (s.FlagsWellFormed → fast.FlagsWellFormed) := by
  obtain ⟨family, hf⟩ := Option.isSome_iff_exists.mp (opcodeTable_isSome opcode)
  have hfast := opcodeTable_isFast opcode family h hf
  obtain ⟨rest, hrest⟩ := instructionBytes_cons hf operand1 operand2
  have hlen : (opcode :: rest).length = family.length := by
    rw [← hrest, instructionBytes_length hf]
  rw [hrest]
  refine ⟨_, _, _, decodeInto_single s.pc hf hlen, tryFastExecuteBytes_eq s h hf,
    execute_singleStep s hfast hlen, ?_⟩
  intro hs
  have hstep := step_wellFormed
    (s := { s with bus := CpuBus.beginStep (opcodeCyclesFor opcode).notTaken s.bus }) hs family
    opcode (fetchImm8 (opcode :: rest) 0) (fetchImm16 (opcode :: rest) 0) hfast
  unfold finalizeFast
  simp only [FlagsWellFormed, flags, retireInstruction_af]
  exact hstep

structure RecordingBus where
  memory : Addr → Byte
  writes : List (Addr × Byte)
  cycles : ℕ

instance : CpuBus RecordingBus where
  read b address := b.memory address
  write b address value :=
    { b with
      memory := fun a => if a = address then value else b.memory a
      writes := b.writes ++ [(address, value)] }
  beginStep _ b := b
  endStep b := b
  retire cycles b := { b with cycles := b.cycles + cycles }
  interruptFlags b := b.memory 0xFF0F#16
  interruptEnable b := b.memory 0xFFFF#16
  setInterruptFlags flags b :=
    { b with memory := fun a => if a = 0xFF0F#16 then flags else b.memory a }
  dmaActive _ := false

/-- The registers left by power-on, over a zeroed recording bus. -/
def powerOn : Core RecordingBus :=
  { af := 0x01B0#16, bc := 0x0013#16, de := 0x00D8#16, hl := 0xC000#16, sp := 0xFFFE#16,
    pc := 0x0100#16, flagset := 0#16, cip := 0#8, feedback := {}, ime := false,
    imeEnablePending := true, imeEnableDelay := 0, stopFlag := false, haltFlag := false,
    illegalOpcodeLockup := false, haltBugActive := false, haltBugPcAdjustPending := true,
    pendingCycleCharge := 0, bus := ⟨fun _ => 0#8, [], 0⟩ }

/-- `INC (HL)` under a pending enable and a pending program-counter adjustment. -/
theorem tryFastExecuteBytes_refines_execute_incHl :
    ∃ block fb fast,
      decodeInto ⟨powerOn.pc, instructionBytes 0x34#8 0#8 0#8⟩ = .ok (block, fb) ∧
      powerOn.tryFastExecuteBytes (instructionBytes 0x34#8 0#8 0#8) = some fast ∧
      powerOn.execute block fb = fast.withExecutionPath .canonicalFetchDecodeExecute ∧
      (powerOn.FlagsWellFormed → fast.FlagsWellFormed) :=
  tryFastExecuteBytes_refines_execute powerOn 0x34#8 0#8 0#8 (by decide)

end Core

end ProtoTime.GameBoy
