import ProtoTime.InstCycle.HostCallRules
import ProtoTime.GameGear.IrExecution

/-!
The research lowerings interpreted over the Z80, against the opcodes they come
from: the same registers and refresh counter, the same accesses of the bus in the
same order, the same program counter and the same cycles.
-/
namespace ProtoTime.GameGear
open GameBoy (Byte Addr hi lo word)
open IR IR.Interpreter IrExecution

namespace Z80Interpreter

variable {σ : Type} {pair : ℕ}

section Pairs

/-- The register of the interface that a pair code names. -/
def pairRegister : ℕ → Register
  | 0 => .bc
  | 1 => .de
  | 2 => .hl
  | _ => .sp

theorem ofId_pairRegister (h : pair < 4) :
    Register.ofId (9 + pair) = some (pairRegister pair) := by
  match pair with
  | 0 | 1 | 2 | 3 => rfl

theorem readRegister_pairRegister (h : pair < 4) (c : Z80Interpreter σ) :
    readRegister (pairRegister pair) c = (c.getReg16ByPair pair false).setWidth 64 := by
  match pair with
  | 0 | 1 | 2 | 3 => rfl

theorem writeRegister_pairRegister (h : pair < 4) (v : Addr) (c : Z80Interpreter σ) :
    writeRegister (pairRegister pair) (v.setWidth 64) c = c.setReg16ByPair pair v false := by
  unfold writeRegister
  rw [setWidth_address]
  match pair with
  | 0 | 1 | 2 | 3 => rfl

/-- The high and the low register of a stack pair. -/
def stackRegisters : ℕ → Register × Register
  | 0 => (.b, .c)
  | 1 => (.d, .e)
  | 2 => (.h, .l)
  | _ => (.a, .f)

/-- The number of the high register of a stack pair; the low one follows it. -/
def highId (pair : ℕ) : ℕ := if pair = 3 then 0 else 2 + 2 * pair

theorem ofId_stackRegisters (h : pair < 4) :
    Register.ofId (highId pair) = some (stackRegisters pair).1 ∧
      Register.ofId (highId pair + 1) = some (stackRegisters pair).2 := by
  match pair with
  | 0 | 1 | 2 | 3 => exact ⟨rfl, rfl⟩

theorem readRegister_stackRegisters (h : pair < 4) (c : Z80Interpreter σ) :
    readRegister (stackRegisters pair).1 c = (hi (c.getReg16ByPair pair true)).setWidth 64 ∧
      readRegister (stackRegisters pair).2 c = (lo (c.getReg16ByPair pair true)).setWidth 64 := by
  match pair with
  | 0 | 1 | 2 | 3 => exact ⟨rfl, rfl⟩

theorem writeRegister_stackRegisters (h : pair < 4) (low high : Byte) (c : Z80Interpreter σ) :
    writeRegister (stackRegisters pair).1 (high.setWidth 64)
        (writeRegister (stackRegisters pair).2 (low.setWidth 64) c) =
      c.setReg16ByPair pair (word low high) true := by
  have hlow (pair : Addr) : lo (word low (hi pair)) = low := by
    ext i hi
    interval_cases i <;> simp [lo, word]
  have hflags (pair : Addr) : lo ((pair &&& 0xFF00#16) ||| low.setWidth 16) = low := by
    ext i hi
    interval_cases i <;> simp [lo]
  unfold writeRegister
  rcases Nat.lt_or_ge pair 3 with hthree | hthree
  · interval_cases pair <;> simp [stackRegisters, setReg16ByPair, hlow]
  · obtain rfl : pair = 3 := by omega
    simp [stackRegisters, setReg16ByPair, setRegA, setRegF, regF, hflags]

theorem setReg16ByPair_pc (pair : ℕ) (v : Addr) (afForPair3 : Bool) (p : Addr)
    (c : Z80Interpreter σ) :
    { c.setReg16ByPair pair v afForPair3 with pc := p } =
      setReg16ByPair pair v afForPair3 { c with pc := p } := by
  unfold setReg16ByPair
  split <;> try rfl
  cases afForPair3 <;> rfl

theorem setReg16ByPair_sp (pair : ℕ) (v s : Addr) (c : Z80Interpreter σ) :
    { c.setReg16ByPair pair v true with sp := s } =
      setReg16ByPair pair v true { c with sp := s } := by
  unfold setReg16ByPair
  split <;> rfl

end Pairs

variable [Z80Bus σ]

def pairOf (opcode : Byte) : ℕ := ((opcode >>> 4) &&& 0x03#8).toNat

theorem pairOf_lt (opcode : Byte) : pairOf opcode < 4 := by
  exact lt_of_le_of_lt Nat.and_le_right (by decide)

def accessAccumulator (isStore : Bool) (address : Addr) : Z80M σ PUnit := do
  let c ← get
  if isStore then memWrite address c.regA else modify (setRegA (← memRead address))

theorem accessAccumulator_pc (isStore : Bool) (address p : Addr) (c : Z80Interpreter σ) :
    { (accessAccumulator isStore address c).2 with pc := p } =
      (accessAccumulator isStore address { c with pc := p }).2 := by
  cases isStore <;> rfl

section Opcodes

variable {opcode : Byte}

theorem opcode_of_pair (opcode : Byte) :
    opcode = opcode &&& 0xCF#8 ∨ opcode = opcode &&& 0xCF#8 ||| 0x10#8 ∨
      opcode = opcode &&& 0xCF#8 ||| 0x20#8 ∨ opcode = opcode &&& 0xCF#8 ||| 0x30#8 := by
  revert opcode
  decide

theorem executeOpcode_loadPair (h : opcode &&& 0xCF#8 = 0x01#8) :
    (executeOpcode opcode : Z80M σ ℕ) = do
      let value ← fetch16
      modify (setReg16ByPair (pairOf opcode) value false)
      return 10 := by
  have hfour : opcode = 0x01#8 ∨ opcode = 0x11#8 ∨ opcode = 0x21#8 ∨ opcode = 0x31#8 := by
    have hpair := opcode_of_pair opcode
    rwa [h] at hpair
  rcases hfour with rfl | rfl | rfl | rfl <;> rfl

/-- The sum or the difference of a pair and one. -/
def steppedPair (sub : Bool) (v : Addr) : Addr := if sub then v - 1 else v + 1

theorem executeOpcode_stepPair (h : opcode &&& 0xCF#8 = 0x03#8 ∨ opcode &&& 0xCF#8 = 0x0B#8) :
    (executeOpcode opcode : Z80M σ ℕ) = do
      let c ← get
      modify (setReg16ByPair (pairOf opcode)
        (steppedPair (opcode &&& 0xCF#8 == 0x0B#8) (c.getReg16ByPair (pairOf opcode) false)) false)
      return 6 := by
  have height : opcode = 0x03#8 ∨ opcode = 0x13#8 ∨ opcode = 0x23#8 ∨ opcode = 0x33#8 ∨
      opcode = 0x0B#8 ∨ opcode = 0x1B#8 ∨ opcode = 0x2B#8 ∨ opcode = 0x3B#8 := by
    have hfour := opcode_of_pair opcode
    rcases h with h | h <;> rw [h] at hfour <;> rcases hfour with h | h | h | h <;> simp [h]
  rcases height with rfl | rfl | rfl | rfl | rfl | rfl | rfl | rfl <;> rfl

def testedFlag (mask : Byte) (whenClear : Bool) (c : Z80Interpreter σ) : Bool :=
  if whenClear then c.regF &&& mask == 0 else c.regF &&& mask != 0

/-- The flag a conditional relative jump looks at. -/
def jumpMask (opcode : Byte) : Byte := if opcode < 0x30#8 then 0x40#8 else 1#8

theorem executeOpcode_jumpRelative
    (h : opcode = 0x20#8 ∨ opcode = 0x28#8 ∨ opcode = 0x30#8 ∨ opcode = 0x38#8) :
    (executeOpcode opcode : Z80M σ ℕ) = do
      let d ← fetch8
      let c ← get
      if c.testedFlag (jumpMask opcode) (opcode == 0x20#8 || opcode == 0x30#8) then
        modify fun c => { c with pc := c.pc + displacement d }
        return 12
      else return 7 := by
  have hnot (x : Byte) : (!(x != 0)) = (x == 0) := Bool.not_not _
  rcases h with rfl | rfl | rfl | rfl
  · funext c
    change (if (!(c.regF &&& 0x40#8 != 0)) = true then _ else _ : Z80M σ ℕ) (fetch8 c).2 = _
    rw [hnot]
    rfl
  · rfl
  · funext c
    change (if (!(c.regF &&& 1#8 != 0)) = true then _ else _ : Z80M σ ℕ) (fetch8 c).2 = _
    rw [hnot]
    rfl
  · rfl

theorem executeOpcode_jump : (executeOpcode 0xC3#8 : Z80M σ ℕ) = do
    let address ← fetch16
    modify fun c => { c with pc := address }
    return 10 :=
  rfl

theorem executeOpcode_access (h : opcode = 0x32#8 ∨ opcode = 0x3A#8) :
    (executeOpcode opcode : Z80M σ ℕ) = do
      let address ← fetch16
      accessAccumulator (opcode == 0x32#8) address
      return 13 := by
  rcases h with rfl | rfl <;> rfl

theorem executeOpcode_call : (executeOpcode 0xCD#8 : Z80M σ ℕ) = do
    let address ← fetch16
    push16 (← get).pc
    modify fun c => { c with pc := address }
    return 17 :=
  rfl

theorem executeOpcode_push (h : opcode &&& 0xCF#8 = 0xC5#8) :
    (executeOpcode opcode : Z80M σ ℕ) = do
      let c ← get
      push16 (c.getReg16ByPair (pairOf opcode) true)
      return 11 := by
  have hfour : opcode = 0xC5#8 ∨ opcode = 0xD5#8 ∨ opcode = 0xE5#8 ∨ opcode = 0xF5#8 := by
    have hpair := opcode_of_pair opcode
    rwa [h] at hpair
  rcases hfour with rfl | rfl | rfl | rfl <;> rfl

theorem executeOpcode_pop (h : opcode &&& 0xCF#8 = 0xC1#8) :
    (executeOpcode opcode : Z80M σ ℕ) = do
      let value ← pop16
      modify (setReg16ByPair (pairOf opcode) value true)
      return 10 := by
  have hfour : opcode = 0xC1#8 ∨ opcode = 0xD1#8 ∨ opcode = 0xE1#8 ∨ opcode = 0xF1#8 := by
    have hpair := opcode_of_pair opcode
    rwa [h] at hpair
  rcases hfour with rfl | rfl | rfl | rfl <;> rfl

end Opcodes

section Fetch

def fetchBytes : ℕ → Z80M σ (List Byte)
  | 0 => return []
  | n + 1 => do
    let byte ← fetch8
    let bytes ← fetchBytes n
    return byte :: bytes

def executeFetched : Z80M σ ℕ := do
  let opcode ← fetchOpcode
  executeOpcode opcode

variable {c fetched : Z80Interpreter σ} {opcode : Byte}

/-- The processor behind the bytes of an instruction, with the refresh counted. -/
def behind (c : Z80Interpreter σ) (length : Addr) (bus : σ) : Z80Interpreter σ :=
  { c.incRefresh with pc := c.pc + length, bus := bus }

theorem executeFetched_one {body : Z80M σ ℕ} (hop : executeOpcode opcode = body)
    (h : fetchBytes 1 c = ([opcode], fetched)) :
    executeFetched c = body (c.behind 1 fetched.bus) := by
  have hparts : ([(fetch8 c).1], (fetch8 c).2) = ([opcode], fetched) := h
  obtain ⟨hbytes, rfl⟩ := Prod.mk.inj hparts
  obtain ⟨hopcode, -⟩ := List.cons.inj hbytes
  change executeOpcode (fetch8 c).1 _ = _
  rw [hopcode, hop]
  rfl

theorem executeFetched_two {body : Byte → Z80M σ ℕ} {byte : Byte}
    (hop : executeOpcode opcode = do body (← fetch8))
    (h : fetchBytes 2 c = ([opcode, byte], fetched)) :
    executeFetched c = body byte (c.behind 2 fetched.bus) := by
  have hparts : ([(fetch8 c).1, (fetch8 (fetch8 c).2).1], (fetch8 (fetch8 c).2).2) =
      ([opcode, byte], fetched) := h
  obtain ⟨hbytes, rfl⟩ := Prod.mk.inj hparts
  obtain ⟨hopcode, hrest⟩ := List.cons.inj hbytes
  obtain ⟨hbyte, -⟩ := List.cons.inj hrest
  have hpc : c.pc + 2 = c.pc + 1 + 1 := by bv_omega
  change executeOpcode (fetch8 c).1 _ = _
  rw [hopcode, hop, behind, hpc, ← hbyte]
  rfl

theorem executeFetched_three {body : Addr → Z80M σ ℕ} {low high : Byte}
    (hop : executeOpcode opcode = do body (← fetch16))
    (h : fetchBytes 3 c = ([opcode, low, high], fetched)) :
    executeFetched c = body (word low high) (c.behind 3 fetched.bus) := by
  have hparts : ([(fetch8 c).1, (fetch8 (fetch8 c).2).1, (fetch8 (fetch8 (fetch8 c).2).2).1],
      (fetch8 (fetch8 (fetch8 c).2).2).2) = ([opcode, low, high], fetched) := h
  obtain ⟨hbytes, rfl⟩ := Prod.mk.inj hparts
  obtain ⟨hopcode, hrest⟩ := List.cons.inj hbytes
  obtain ⟨hlow, hrest⟩ := List.cons.inj hrest
  obtain ⟨hhigh, -⟩ := List.cons.inj hrest
  have hpc : c.pc + 3 = c.pc + 1 + 1 + 1 := by bv_omega
  change executeOpcode (fetch8 c).1 _ = _
  rw [hopcode, hop, behind, hpc, ← hlow, ← hhigh]
  rfl

end Fetch

theorem truncate_tested (flags mask : Byte) :
    truncate (flags.setWidth 64 &&& mask.setWidth 64) .i8 =
      flags.setWidth 64 &&& mask.setWidth 64 := by
  rw [← BitVec.setWidth_and, truncate_byte]

theorem tested_eq_zero (flags mask : Byte) :
    flags.setWidth 64 &&& mask.setWidth 64 = 0#64 ↔ flags &&& mask = 0#8 := by
  rw [← BitVec.setWidth_and]
  constructor
  · intro h
    rw [← setWidth_byte (flags &&& mask), h]
    rfl
  · intro h
    rw [h]
    rfl

theorem tested_eq_testedFlag (flags mask : Byte) (whenClear : Bool) :
    (decide (flags.setWidth 64 &&& mask.setWidth 64 = truncate 0 .i8) == whenClear) =
      if whenClear then flags &&& mask == 0 else flags &&& mask != 0 := by
  have hzero : truncate 0 .i8 = 0#64 := by decide
  simp only [hzero, tested_eq_zero]
  cases whenClear <;> by_cases h : flags &&& mask = 0#8 <;> simp [h]

section Families

/-- The interpreted instruction ends, retired and without an exit, with the processor `c'`, after
a branch or none and with the selector of the cycles set or clear. -/
def InterpretsAs (lowered : GuestInstruction) (branchTaken selected : Bool)
    (c c' : Z80Interpreter σ) : Prop :=
  executeCalls gameGearIrHost lowered c =
    .ok ({ branchTaken := branchTaken, cycleCondition := selected, retirementReached := true }, c')

variable (instruction : TranslatedInstruction) (cycles : ℕ) (next : Addr) (c : Z80Interpreter σ)

theorem interpretsAs_loadPair (hpair : pair < 4) (v : Addr) :
    InterpretsAs (Research.extendedInstruction false instruction cycles
      ([Research.constant (v.setWidth 64) .i16 1, Research.write (9 + pair) 1 .i16] ++
        [Research.setProgramCounter next])) false false c
      { setReg16ByPair pair v false c.incRefresh with pc := next } := by
  have hwrite := host_writeRegister c.incRefresh (ofId_pairRegister hpair) .i16 (v.setWidth 64)
  rw [writeRegister_pairRegister hpair] at hwrite
  apply executeCalls_eq rfl
  refine Eq.trans (resume_begin (host_incrementRefresh c _ _)) ?_
  refine Eq.trans (resume_constant _) ?_
  rw [truncate_address, truncate_address]
  refine Eq.trans (resume_write rfl hwrite) ?_
  exact Eq.trans (resume_setProgramCounter (host_setNext _ next)) resume_retire

theorem truncate_stepped (sub : Bool) (v : Addr) (n : BitVec 64) :
    truncate (if sub then v.setWidth 64 - truncate (truncate n .i16) .i16
        else v.setWidth 64 + truncate (truncate n .i16) .i16) .i16 =
      (if sub then v - n.setWidth 16 else v + n.setWidth 16).setWidth 64 := by
  cases sub with
  | true => exact truncate_sub v n
  | false => exact truncate_add v n

theorem interpretsAs_stepPair (hpair : pair < 4) (sub : Bool) :
    InterpretsAs (Research.extendedInstruction false instruction cycles
      (Research.reg (9 + pair) .i16 1 :: Research.add 1 1 sub 2 ++
        [Research.write (9 + pair) 3 .i16] ++ [Research.setProgramCounter next])) false false c
      { setReg16ByPair pair (steppedPair sub (c.incRefresh.getReg16ByPair pair false)) false
          c.incRefresh with pc := next } := by
  have hid := ofId_pairRegister hpair
  have hread := host_readRegister c.incRefresh hid .i16
  rw [readRegister_pairRegister hpair] at hread
  generalize c.incRefresh.getReg16ByPair pair false = v at hread ⊢
  have hwrite := host_writeRegister c.incRefresh hid .i16 ((steppedPair sub v).setWidth 64)
  rw [writeRegister_pairRegister hpair] at hwrite
  apply executeCalls_eq rfl
  refine Eq.trans (resume_begin (host_incrementRefresh c _ _)) ?_
  refine Eq.trans (resume_reg hread) ?_
  rw [truncate_address]
  refine Eq.trans (resume_add rfl (by decide) (show 2 < 4 by decide)) ?_
  rw [truncate_stepped]
  refine Eq.trans (resume_write rfl hwrite) ?_
  exact Eq.trans (resume_setProgramCounter (host_setNext _ next)) resume_retire

theorem interpretsAs_conditionalJump (mask : Byte) (whenClear : Bool) (target : Addr) :
    InterpretsAs (Research.conditionalJump false instruction (mask.setWidth 64) whenClear next
      target) (c.testedFlag mask whenClear) (c.testedFlag mask whenClear) c
      { c.incRefresh with pc := if c.testedFlag mask whenClear then target else next } := by
  have hread : gameGearIrHost (.readRegister 1 .i8) c.incRefresh =
      .ok (c.regF.setWidth 64, c.incRefresh) := rfl
  have hmask : truncate (mask.setWidth 64) .i8 = mask.setWidth 64 := truncate_byte mask
  have htested := tested_eq_testedFlag c.regF mask whenClear
  change _ = c.testedFlag mask whenClear at htested
  generalize c.testedFlag mask whenClear = taken at htested ⊢
  have hselecting : InterpretsAs (Research.conditionalJump false instruction (mask.setWidth 64)
      whenClear next target) (taken || false) ((if taken then 1 else 0 : BitVec 64) != 0) c
      (if taken then { c.incRefresh with pc := target } else { c.incRefresh with pc := next }) := by
    apply executeCalls_selecting rfl
    rotate_left
    · refine Eq.trans (resume_begin (host_incrementRefresh c _ _)) ?_
      refine Eq.trans (resume_reg hread) ?_
      rw [truncate_byte]
      refine Eq.trans (resume_binary (by simp) rfl rfl) ?_
      rw [hmask, truncate_tested]
      refine Eq.trans (resume_compare rfl) ?_
      rw [htested]
      refine Eq.trans (resume_setProgramCounter (host_setNext _ next)) ?_
      exact Eq.trans (resume_branchIf rfl (host_setProgramCounter _ target)) resume_retire
    · rfl
  cases taken with
  | true => exact hselecting
  | false => exact hselecting

theorem interpretsAs_jump (target : Addr) :
    InterpretsAs (Research.extendedInstruction false instruction cycles
      [Research.branch (target.setWidth 64)] true) true false c
      { c.incRefresh with pc := target } := by
  apply executeCalls_eq rfl
  refine Eq.trans (resume_begin (host_incrementRefresh c _ _)) ?_
  exact Eq.trans (resume_branch (host_setProgramCounter _ target)) resume_retire

theorem interpretsAs_absolute (isStore : Bool) (address : Addr) :
    InterpretsAs (Research.extendedInstruction false instruction cycles
      (Research.constant (address.setWidth 64) .i16 1 :: Research.accumulatorAccess isStore 1 2 ++
        [Research.setProgramCounter next])) false false c
      { (accessAccumulator isStore address c.incRefresh).2 with pc := next } := by
  have hread : gameGearIrHost (.readRegister 0 .i8) c.incRefresh =
      .ok (c.incRefresh.regA.setWidth 64, c.incRefresh) := rfl
  have hwrite (v : Byte) (d : Z80Interpreter σ) :
      gameGearIrHost (.writeRegister 0 .i8 (v.setWidth 64)) d = .ok (0, d.setRegA v) := by
    rw [host_writeRegister d (show Register.ofId 0 = some .a from rfl), writeRegister,
      setWidth_byte]
  cases isStore with
  | true =>
    apply executeCalls_eq rfl
    refine Eq.trans (resume_begin (host_incrementRefresh c _ _)) ?_
    refine Eq.trans (resume_constant _) ?_
    rw [truncate_address, truncate_address]
    refine Eq.trans (resume_reg hread) ?_
    rw [truncate_byte]
    refine Eq.trans (resume_store rfl rfl (host_storeMemory _ address _ _)) ?_
    exact Eq.trans (resume_setProgramCounter (host_setNext _ next)) resume_retire
  | false =>
    apply executeCalls_eq rfl
    refine Eq.trans (resume_begin (host_incrementRefresh c _ _)) ?_
    refine Eq.trans (resume_constant _) ?_
    rw [truncate_address, truncate_address]
    refine Eq.trans (resume_load rfl (host_loadMemory _ address _)) ?_
    rw [truncate_byte]
    refine Eq.trans (resume_write rfl (hwrite _ _)) ?_
    exact Eq.trans (resume_setProgramCounter (host_setNext _ next)) resume_retire

theorem push16_eq (v : Addr) (d : Z80Interpreter σ) :
    (push16 v d).2 =
      { (memWrite (d.sp - 2) (lo v) (memWrite (d.sp - 1) (hi v) d).2).2 with sp := d.sp - 2 } := by
  have htwo : d.sp - 2 = d.sp - 1 - 1 := by bv_omega
  rw [htwo]
  rfl

/-- The operations that push a word held in the values 2 and 3. -/
theorem resume_push (v : Addr) (d : Z80Interpreter σ) {operations : List Operation} {branched : Bool} :
    resume gameGearIrHost (Research.add 1 1 true 4 ++ [Research.store 5 2] ++
        Research.add 1 2 true 6 ++ [Research.store 7 3] ++ Research.add 1 2 true 8 ++
        [Research.write 12 9 .i16] ++ operations)
      [0, d.sp.setWidth 64, (hi v).setWidth 64, (lo v).setWidth 64, 0, 0, 0, 0, 0, 0] branched d =
    resume gameGearIrHost operations
      [0, d.sp.setWidth 64, (hi v).setWidth 64, (lo v).setWidth 64, 1, (d.sp - 1).setWidth 64, 2,
        (d.sp - 2).setWidth 64, 2, (d.sp - 2).setWidth 64] branched (push16 v d).2 := by
  have hsp := ofId_pairRegister (show 3 < 4 by decide)
  rw [push16_eq]
  refine Eq.trans (resume_add rfl (by decide) (show 4 < 10 by decide)) ?_
  rw [truncate_stepped]
  refine Eq.trans (resume_store rfl rfl (host_storeMemory _ (d.sp - 1) _ _)) ?_
  refine Eq.trans (resume_add rfl (by decide) (show 6 < 10 by decide)) ?_
  rw [truncate_stepped]
  refine Eq.trans (resume_store rfl rfl (host_storeMemory _ (d.sp - 2) _ _)) ?_
  refine Eq.trans (resume_add rfl (by decide) (show 8 < 10 by decide)) ?_
  rw [truncate_stepped]
  refine Eq.trans (resume_write rfl (host_writeRegister _ hsp _ ((d.sp - 2).setWidth 64))) ?_
  rw [writeRegister_pairRegister (by decide)]
  rfl

theorem interpretsAs_push (hpair : pair < 4) :
    InterpretsAs (Research.extendedInstruction false instruction cycles
      (Research.pushOperations (Research.reg (highId pair) .i8 2)
        (Research.reg (highId pair + 1) .i8 3) ++ [Research.setProgramCounter next])) false false c
      { (push16 (c.incRefresh.getReg16ByPair pair true) c.incRefresh).2 with pc := next } := by
  obtain ⟨hhighId, hlowId⟩ := ofId_stackRegisters hpair
  obtain ⟨hhigh, hlow⟩ := readRegister_stackRegisters hpair c.incRefresh
  have hreadHigh := host_readRegister c.incRefresh hhighId .i8
  have hreadLow := host_readRegister c.incRefresh hlowId .i8
  rw [hhigh] at hreadHigh
  rw [hlow] at hreadLow
  have hreadSp : gameGearIrHost (.readRegister 12 .i16) c.incRefresh =
      .ok (c.incRefresh.sp.setWidth 64, c.incRefresh) := rfl
  apply executeCalls_eq rfl
  refine Eq.trans (resume_begin (host_incrementRefresh c _ _)) ?_
  refine Eq.trans (resume_reg hreadSp) ?_
  refine Eq.trans (resume_reg hreadHigh) ?_
  refine Eq.trans (resume_reg hreadLow) ?_
  rw [truncate_byte, truncate_byte, truncate_address]
  refine Eq.trans (resume_push _ _) ?_
  exact Eq.trans (resume_setProgramCounter (host_setNext _ next)) resume_retire

theorem interpretsAs_call (v target : Addr) :
    InterpretsAs (Research.extendedInstruction false instruction cycles
      (Research.pushOperations (Research.constant ((hi v).setWidth 64) .i8 2)
        (Research.constant ((lo v).setWidth 64) .i8 3) ++ [Research.branch (target.setWidth 64)])
        true) true false c { (push16 v c.incRefresh).2 with pc := target } := by
  have hreadSp : gameGearIrHost (.readRegister 12 .i16) c.incRefresh =
      .ok (c.incRefresh.sp.setWidth 64, c.incRefresh) := rfl
  apply executeCalls_eq rfl
  refine Eq.trans (resume_begin (host_incrementRefresh c _ _)) ?_
  refine Eq.trans (resume_reg hreadSp) ?_
  refine Eq.trans (resume_constant _) ?_
  refine Eq.trans (resume_constant _) ?_
  rw [truncate_byte, truncate_byte, truncate_byte, truncate_byte, truncate_address]
  refine Eq.trans (resume_push v _) ?_
  exact Eq.trans (resume_branch (host_setProgramCounter _ target)) resume_retire

theorem pop16_eq (d : Z80Interpreter σ) :
    pop16 d =
      (word (memRead d.sp d).1 (memRead (d.sp + 1) (memRead d.sp d).2).1,
        { (memRead (d.sp + 1) (memRead d.sp d).2).2 with sp := d.sp + 2 }) :=
  rfl

/-- The operations that load a word and assign its bytes to a stack pair. -/
theorem resume_pop (hpair : pair < 4) (d : Z80Interpreter σ)
    {operations : List Operation} {branched : Bool} :
    resume gameGearIrHost ([Research.load 1 2] ++ Research.add 1 1 false 3 ++
        [Research.load 4 5, Research.write (highId pair + 1) 2 .i8,
          Research.write (highId pair) 5 .i8] ++ operations)
      [0, d.sp.setWidth 64, 0, 0, 0, 0, 0, 0] branched d =
    resume gameGearIrHost operations
      [0, d.sp.setWidth 64, (memRead d.sp d).1.setWidth 64, 1, (d.sp + 1).setWidth 64,
        (memRead (d.sp + 1) (memRead d.sp d).2).1.setWidth 64, 0, 0] branched
      (setReg16ByPair pair (word (memRead d.sp d).1 (memRead (d.sp + 1) (memRead d.sp d).2).1) true
        (memRead (d.sp + 1) (memRead d.sp d).2).2) := by
  obtain ⟨hhighId, hlowId⟩ := ofId_stackRegisters hpair
  refine Eq.trans (resume_load rfl (host_loadMemory d d.sp _)) ?_
  rw [truncate_byte]
  refine Eq.trans (resume_add rfl (by decide) (show 3 < 8 by decide)) ?_
  rw [truncate_stepped]
  refine Eq.trans (resume_load rfl (host_loadMemory _ (d.sp + 1) _)) ?_
  rw [truncate_byte]
  generalize memRead (d.sp + 1) (memRead d.sp d).2 = high
  generalize (memRead d.sp d).1 = low
  refine Eq.trans (resume_write rfl (host_writeRegister _ hlowId _ (low.setWidth 64))) ?_
  refine Eq.trans (resume_write rfl (host_writeRegister _ hhighId _ (high.1.setWidth 64))) ?_
  rw [writeRegister_stackRegisters hpair]
  rfl

theorem interpretsAs_pop (hpair : pair < 4) :
    InterpretsAs (Research.extendedInstruction false instruction cycles
      (Research.popOperations (highId pair) ++ [Research.setProgramCounter next])) false false c
      { setReg16ByPair pair (pop16 c.incRefresh).1 true (pop16 c.incRefresh).2 with
        pc := next } := by
  have hreadSp : gameGearIrHost (.readRegister 12 .i16) c.incRefresh =
      .ok (c.incRefresh.sp.setWidth 64, c.incRefresh) := rfl
  have hwriteSp (d e : Z80Interpreter σ) : gameGearIrHost (.writeRegister 12 .i16
      ((d.sp + (2#64).setWidth 16).setWidth 64)) e = .ok (0, { e with sp := d.sp + 2 }) := by
    rw [host_writeRegister e (ofId_pairRegister (show 3 < 4 by decide)),
      writeRegister_pairRegister (by decide)]
    rfl
  rw [pop16_eq]
  dsimp only
  rw [← setReg16ByPair_sp]
  apply executeCalls_eq rfl
  refine Eq.trans (resume_begin (host_incrementRefresh c _ _)) ?_
  refine Eq.trans (resume_reg hreadSp) ?_
  rw [truncate_address]
  refine Eq.trans (resume_pop hpair _) ?_
  refine Eq.trans (resume_add rfl (by decide) (show 6 < 8 by decide)) ?_
  rw [truncate_stepped]
  refine Eq.trans (resume_write rfl (hwriteSp _ _)) ?_
  exact Eq.trans (resume_setProgramCounter (host_setNext _ next)) resume_retire

end Families

end Z80Interpreter

end ProtoTime.GameGear
