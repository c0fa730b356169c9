import ProtoTime.GameGear.ExtendedLoweringCorrect

/-!
A research lowering of the second core against the execution of the bytes it was
made from, over a bus that keeps the order of the accesses.
-/
namespace ProtoTime.GameGear
open GameBoy (Byte Addr hi lo word)
open IR IR.Interpreter IrExecution

/-- The length of the opcodes that the research lowering accepts. -/
def extendedLength (opcode : Byte) : ℕ :=
  if opcode &&& 0xCF#8 = 0x01#8 ∨ opcode ∈ [0xC3#8, 0xCD#8, 0x32#8, 0x3A#8] then 3
  else if opcode ∈ [0x20#8, 0x28#8, 0x30#8, 0x38#8] then 2
  else 1

theorem extendedLength_eq_one {opcode : Byte}
    (h : opcode &&& 0xCF#8 ∈ [0x03#8, 0x0B#8, 0xC5#8, 0xC1#8]) : extendedLength opcode = 1 := by
  revert opcode
  decide

inductive BusAccess where
  | memRead (address : Addr) (value : Byte)
  | memWrite (address : Addr) (value : Byte)
  | readIo (port : Addr) (value : Byte)
  | writeIo (port : Addr) (value : Byte)
  deriving DecidableEq

structure Traced (σ : Type) where
  bus : σ
  accesses : List BusAccess

instance {σ : Type} [Z80Bus σ] : Z80Bus (Traced σ) where
  memRead address t :=
    let (value, bus) := Z80Bus.memRead address t.bus
    (value, ⟨bus, t.accesses ++ [.memRead address value]⟩)
  memWrite address value t :=
    ⟨Z80Bus.memWrite address value t.bus, t.accesses ++ [.memWrite address value]⟩
  readIo port t :=
    let (value, bus) := Z80Bus.readIo port t.bus
    (value, ⟨bus, t.accesses ++ [.readIo port value]⟩)
  writeIo port value t :=
    ⟨Z80Bus.writeIo port value t.bus, t.accesses ++ [.writeIo port value]⟩
  interruptRequest t :=
    let (vector, bus) := Z80Bus.interruptRequest t.bus
    (vector, ⟨bus, t.accesses⟩)

namespace Z80Interpreter

section Refinement

variable {σ : Type} [Z80Bus σ]

/-- From behind the fetch, the lowered instruction retires with the state and the cycles of the
executed bytes. -/
def Refines (lowered : GuestInstruction) (c : Z80Interpreter σ) (bus : σ) : Prop :=
  ∃ result c', executeCalls gameGearIrHost lowered { c with bus := bus } = .ok (result, c') ∧
    result.retirementReached = true ∧
    executeFetched c =
      (if result.cycleCondition then lowered.cyclesTaken else lowered.cyclesNotTaken, c')

theorem InterpretsAs.refines {lowered : GuestInstruction} {branchTaken selected : Bool}
    {c c' : Z80Interpreter σ} {bus : σ}
    (h : InterpretsAs lowered branchTaken selected { c with bus := bus } c')
    (he : executeFetched c =
      (if selected then lowered.cyclesTaken else lowered.cyclesNotTaken, c')) :
    Refines lowered c bus :=
  ⟨_, c', h, rfl, he⟩

variable {instruction : TranslatedInstruction} {lowered : GuestInstruction}
  {c fetched : Z80Interpreter σ}

theorem bytes_one (h : instruction.bytes.length = 1) :
    instruction.bytes = [instruction.bytes.getD 0 0] := by
  match hb : instruction.bytes, h with
  | [_], _ => rfl

theorem bytes_two (h : instruction.bytes.length = 2) :
    instruction.bytes = [instruction.bytes.getD 0 0, instruction.bytes.getD 1 0] := by
  match hb : instruction.bytes, h with
  | [_, _], _ => rfl

theorem bytes_three (h : instruction.bytes.length = 3) :
    instruction.bytes = [instruction.bytes.getD 0 0, instruction.bytes.getD 1 0,
      instruction.bytes.getD 2 0] := by
  match hb : instruction.bytes, h with
  | [_, _, _], _ => rfl

/-- For every bus: the lowered instruction goes on from the fetch of the bytes as the execution of
the bytes does. -/
theorem lowerExtended_refines_fetched (hpc : c.pc = instruction.address)
    (hlength : instruction.bytes.length = extendedLength (instruction.bytes.getD 0 0))
    (hfetch : fetchBytes instruction.bytes.length c = (instruction.bytes, fetched))
    (h : Research.lowerExtended false instruction = some lowered) :
    Refines lowered c fetched.bus := by
  unfold Research.lowerExtended at h
  simp only [Bool.false_eq_true, if_false, false_and, not_false_eq_true, true_and, false_or] at h
  have hpair := pairOf_lt (instruction.bytes.getD 0 0)
  have hcode : ((instruction.bytes.getD 0 0 >>> 4) &&& 0x03#8).toNat =
    pairOf (instruction.bytes.getD 0 0) := rfl
  rw [imm16_eq, hcode] at h
  generalize hop : instruction.bytes.getD 0 0 = opcode at *
  by_cases hload : opcode &&& 0xCF#8 = 0x01#8 ∧ instruction.bytes.length = 3
  · rw [if_pos hload] at h
    cases h
    have hbytes := bytes_three hload.2
    rw [hload.2, hbytes, hop] at hfetch
    have hexecuted := executeFetched_three (executeOpcode_loadPair hload.1) hfetch
    refine (interpretsAs_loadPair instruction 10 _ _ hpair _).refines (hexecuted.trans ?_)
    rw [setReg16ByPair_pc, ← hpc, hload.2]
    rfl
  rw [if_neg hload] at h
  by_cases hstep : opcode &&& 0xCF#8 = 0x03#8 ∨ opcode &&& 0xCF#8 = 0x0B#8
  · rw [if_pos hstep] at h
    cases h
    have hone : instruction.bytes.length = 1 :=
      hlength.trans (extendedLength_eq_one (by simpa using hstep.imp_right Or.inl))
    have hbytes := bytes_one hone
    rw [hone, hbytes, hop] at hfetch
    have hexecuted := executeFetched_one (executeOpcode_stepPair hstep) hfetch
    refine (interpretsAs_stepPair instruction 6 _ _ hpair _).refines (hexecuted.trans ?_)
    rw [setReg16ByPair_pc, ← hpc, hone]
    rfl
  rw [if_neg hstep] at h
  by_cases hjump : (opcode = 0x20#8 ∨ opcode = 0x28#8 ∨ opcode = 0x30#8 ∨ opcode = 0x38#8) ∧
      instruction.bytes.length = 2
  · rw [if_pos hjump] at h
    have hmask : (if opcode < 0x30#8 then 0x40 else 1 : BitVec 64) =
        (jumpMask opcode).setWidth 64 := by
      unfold jumpMask
      split <;> rfl
    rw [hmask] at h
    cases h
    have hbytes := bytes_two hjump.2
    rw [hjump.2, hbytes, hop] at hfetch
    have hexecuted := executeFetched_two (executeOpcode_jumpRelative hjump.1) hfetch
    refine (interpretsAs_conditionalJump instruction _ _ _ _ _).refines (hexecuted.trans ?_)
    rw [← hpc, hjump.2]
    have htested : (c.behind 2 fetched.bus).testedFlag (jumpMask opcode)
        (opcode == 0x20#8 || opcode == 0x30#8) =
      ({ c with bus := fetched.bus } : Z80Interpreter σ).testedFlag (jumpMask opcode)
        (opcode == 0x20#8 || opcode == 0x30#8) := rfl
    generalize htaken : ({ c with bus := fetched.bus } : Z80Interpreter σ).testedFlag
      (jumpMask opcode) (opcode == 0x20#8 || opcode == 0x30#8) = taken at htested ⊢
    change (if (c.behind 2 fetched.bus).testedFlag (jumpMask opcode)
      (opcode == 0x20#8 || opcode == 0x30#8) then _ else _ : Z80M σ ℕ) _ = _
    rw [htested]
    cases taken <;> rfl
  rw [if_neg hjump] at h
  by_cases habsolute : opcode = 0xC3#8 ∧ instruction.bytes.length = 3
  · rw [if_pos habsolute] at h
    cases h
    have hbytes := bytes_three habsolute.2
    rw [habsolute.2, hbytes, hop, habsolute.1] at hfetch
    have hexecuted := executeFetched_three executeOpcode_jump hfetch
    exact (interpretsAs_jump instruction 10 _ _).refines hexecuted
  rw [if_neg habsolute] at h
  by_cases haccess : (opcode = 0x32#8 ∨ opcode = 0x3A#8) ∧ instruction.bytes.length = 3
  · rw [if_pos haccess] at h
    cases h
    have hbytes := bytes_three haccess.2
    rw [haccess.2, hbytes, hop] at hfetch
    have hexecuted := executeFetched_three (executeOpcode_access haccess.1) hfetch
    refine (interpretsAs_absolute instruction 13 _ _ _ _).refines (hexecuted.trans ?_)
    rw [accessAccumulator_pc, ← hpc, haccess.2]
    rfl
  rw [if_neg haccess] at h
  by_cases hcall : opcode = 0xCD#8
  · rw [if_pos hcall] at h
    by_cases hthree : instruction.bytes.length = 3
    · rw [if_neg (not_not.mpr hthree), setWidth_hi, setWidth_lo] at h
      cases h
      have hbytes := bytes_three hthree
      rw [hthree, hbytes, hop, hcall] at hfetch
      have hexecuted := executeFetched_three executeOpcode_call hfetch
      refine (interpretsAs_call instruction 17 _ _ _).refines (hexecuted.trans ?_)
      rw [← hpc, hthree]
      rfl
    · rw [if_pos hthree] at h
      cases h
  rw [if_neg hcall] at h
  by_cases hpush : opcode &&& 0xCF#8 = 0xC5#8
  · rw [if_pos hpush] at h
    cases h
    have hone : instruction.bytes.length = 1 :=
      hlength.trans (extendedLength_eq_one (by simp [hpush]))
    have hbytes := bytes_one hone
    rw [hone, hbytes, hop] at hfetch
    have hexecuted := executeFetched_one (executeOpcode_push hpush) hfetch
    refine (interpretsAs_push instruction 11 _ _ hpair).refines (hexecuted.trans ?_)
    rw [← hpc, hone]
    rfl
  rw [if_neg hpush] at h
  by_cases hpop : opcode &&& 0xCF#8 = 0xC1#8
  · rw [if_pos hpop] at h
    cases h
    have hone : instruction.bytes.length = 1 :=
      hlength.trans (extendedLength_eq_one (by simp [hpop]))
    have hbytes := bytes_one hone
    rw [hone, hbytes, hop] at hfetch
    have hexecuted := executeFetched_one (executeOpcode_pop hpop) hfetch
    refine (interpretsAs_pop instruction 10 _ _ hpair).refines (hexecuted.trans ?_)
    rw [setReg16ByPair_pc, ← hpc, hone]
    rfl
  · rw [if_neg hpop] at h
    cases h

end Refinement

/-- For every instruction the research lowering accepts for the second core, every bus and every
state of the processor that stands at the instruction: interpreting the lowered instruction behind
the fetch of its bytes, and fetching and executing the bytes, end in the same processor with the
same accesses of the bus in the same order, and in the cycles the lowered instruction selects. -/
theorem lowerExtended_refines {σ : Type} [Z80Bus σ] {c fetched : Z80Interpreter (Traced σ)}
    {instruction : TranslatedInstruction} {lowered : GuestInstruction}
    (hpc : c.pc = instruction.address)
    (hlength : instruction.bytes.length = extendedLength (instruction.bytes.getD 0 0))
    (hfetch : fetchBytes instruction.bytes.length c = (instruction.bytes, fetched))
    (h : Research.lowerExtended false instruction = some lowered) :
    ∃ result interpreted executed cycles,
      executeCalls gameGearIrHost lowered { c with bus := fetched.bus } =
        .ok (result, interpreted) ∧
      executeFetched c = (cycles, executed) ∧
      result.retirementReached = true ∧
      interpreted = executed ∧
      interpreted.bus.accesses = executed.bus.accesses ∧
      (if result.cycleCondition then lowered.cyclesTaken else lowered.cyclesNotTaken) = cycles := by
  obtain ⟨result, c', hinterpreted, hretired, hexecuted⟩ :=
    lowerExtended_refines_fetched hpc hlength hfetch h
  exact ⟨result, c', c', _, hinterpreted, hexecuted, hretired, rfl, rfl, rfl⟩

structure FlatRam where
  bytes : Addr → Byte

instance : Z80Bus FlatRam where
  memRead address m := (m.bytes address, m)
  memWrite address value m := ⟨fun a => if a = address then value else m.bytes a⟩
  readIo _ m := (0xFF, m)
  writeIo _ _ m := m
  interruptRequest m := (none, m)

/-- `CALL 1234` at the start of work RAM. -/
def callInstruction : TranslatedInstruction := ⟨0xC000#16, [0xCD#8, 0x34#8, 0x12#8]⟩

/-- The stack pointer is behind the call: the pushed word overwrites the operand. -/
def selfCall : Z80Interpreter (Traced FlatRam) :=
  { pc := 0xC000
    sp := 0xC003
    bus := ⟨⟨fun a => callInstruction.bytes.getD (a.toNat - 0xC000) 0⟩, []⟩ }

theorem lowerExtended_refines_selfCall : ∃ lowered result interpreted executed cycles,
    Research.lowerExtended false callInstruction = some lowered ∧
    executeCalls gameGearIrHost lowered { selfCall with bus := (fetchBytes 3 selfCall).2.bus } =
      .ok (result, interpreted) ∧
    executeFetched selfCall = (cycles, executed) ∧
    result.retirementReached = true ∧
    interpreted = executed ∧
    interpreted.bus.accesses = executed.bus.accesses ∧
    (if result.cycleCondition then lowered.cyclesTaken else lowered.cyclesNotTaken) = cycles := by
  obtain ⟨lowered, hlowered⟩ := Option.isSome_iff_exists.mp
    (show (Research.lowerExtended false callInstruction).isSome by decide)
  have hbytes : (fetchBytes callInstruction.bytes.length selfCall).1 = callInstruction.bytes := by
    decide
  obtain ⟨result, interpreted, executed, cycles, hrun⟩ :=
    lowerExtended_refines (show selfCall.pc = callInstruction.address from rfl) (by decide)
      (Prod.ext hbytes rfl) hlowered
  exact ⟨lowered, result, interpreted, executed, cycles, hlowered, hrun⟩

end Z80Interpreter

end ProtoTime.GameGear
