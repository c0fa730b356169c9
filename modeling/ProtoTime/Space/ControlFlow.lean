import ProtoTime.GameBoy.BranchTiming
import ProtoTime.GameBoy.LoweredExecution
import ProtoTime.Space.InstructionLength

/-!
The decoded flow of control against the interpreters: where an instruction that falls through
goes on, and the target and the outcome of a direct transfer.
-/
namespace ProtoTime.Space
open GameBoy (Byte Addr hi lo word)

/-- What the decoding says about the next address is so: `transfer` tells whether the interpreter
transfers control, `length` is that of the encoding. -/
structure FlowAgrees (info : OperandInfo) (pc after : Addr) (length : ℕ) (transfer : Bool) :
    Prop where
  fallthrough : info.flow = .fallthrough → after = pc + BitVec.ofNat 16 length
  target : info.direct = true → transfer = true → after = info.target
  taken : info.direct = true → info.taken = transfer
  otherwise : info.direct = true → transfer = false → after = pc + BitVec.ofNat 16 length

/-- The runtime's scan of an encoding reports the same direct targets as the decoding. -/
def SameTarget (scanned : DirectTarget) (info : OperandInfo) : Prop :=
  scanned.direct = info.direct ∧ (info.direct = true → scanned.address = info.target)

variable {info : OperandInfo} {length : ℕ} {pc after : Addr}

theorem FlowAgrees.of_falls
    (hdirect : info.direct = false) (hafter : after = pc + BitVec.ofNat 16 length)
    (transfer : Bool) : FlowAgrees info pc after length transfer where
  fallthrough _ := hafter
  target h := absurd (hdirect.symm.trans h) Bool.false_ne_true
  taken h := absurd (hdirect.symm.trans h) Bool.false_ne_true
  otherwise h := absurd (hdirect.symm.trans h) Bool.false_ne_true

theorem FlowAgrees.of_indirect (hflow : info.flow ≠ .fallthrough)
    (hdirect : info.direct = false) (pc after : Addr) (length : ℕ) (transfer : Bool) :
    FlowAgrees info pc after length transfer where
  fallthrough h := absurd h hflow
  target h := absurd (hdirect.symm.trans h) Bool.false_ne_true
  taken h := absurd (hdirect.symm.trans h) Bool.false_ne_true
  otherwise h := absurd (hdirect.symm.trans h) Bool.false_ne_true

theorem FlowAgrees.of_direct {transfer : Bool}
    (hflow : info.flow ≠ .fallthrough) (htaken : info.taken = transfer)
    (hafter : after = if transfer then info.target else pc + BitVec.ofNat 16 length) :
    FlowAgrees info pc after length transfer where
  fallthrough h := absurd h hflow
  target _ h := by rw [hafter, if_pos h]
  taken _ := htaken
  otherwise _ h := by rw [hafter, h, if_neg Bool.false_ne_true]

namespace OperandInfo

variable (d : OperandInfo) (mask : BitVec 32) (condition : Bool)

@[simp] theorem direct_rdIf : (d.rdIf condition mask).direct = d.direct := by
  cases condition <;> rfl

@[simp] theorem direct_wrIf : (d.wrIf condition mask).direct = d.direct := by
  cases condition <;> rfl

@[simp] theorem direct_rd : (d.rd mask).direct = d.direct := rfl

@[simp] theorem direct_wr : (d.wr mask).direct = d.direct := rfl

@[simp] theorem direct_named (text : String) : (d.named text).direct = d.direct := rfl

@[simp] theorem direct_always (flow : Flow) : (d.always flow).direct = d.direct := rfl

end OperandInfo

variable {rest : List Byte}

section Z80

open GameGear GameGear.Z80Interpreter

theorem direct_decodeZ80Cb (index : ℕ) (operands : List Byte) (d : OperandInfo) :
    (decodeZ80Cb index operands d).direct = d.direct := by
  simp [decodeZ80Cb]

variable {op : Byte}

theorem direct_of_not_transfer (h : isTransfer op = false) (index : ℕ)
    (operands : List Byte) (pc next after : Addr) (flags : Byte) (d : OperandInfo) :
    (decodeZ80Opcode index op operands pc next after flags d).direct = d.direct := by
  obtain ⟨⟨hdjnz, hjr, hjrs, hjp, hret, hcall, hjphl, hed⟩, hrets, hjps, hcalls, hrst⟩ :=
    not_isTransfer h
  simp only [List.mem_cons, List.not_mem_nil, or_false] at hjrs
  have hrest (d : OperandInfo) :
      (decodeZ80Rest index op operands next after flags d).direct = d.direct := by
    simp only [decodeZ80Rest, hdjnz, hjr, hjrs, hjp, hret, hcall, hjphl, if_false,
      apply_ite OperandInfo.direct, OperandInfo.direct_rd, OperandInfo.direct_wr,
      OperandInfo.direct_named, OperandInfo.direct_always, ite_self]
  simp only [decodeZ80Opcode, hed, hrets, hjps, hcalls, hrst, if_false, or_self,
    apply_ite OperandInfo.direct, hrest, direct_decodeZ80Cb, OperandInfo.direct_rd,
    OperandInfo.direct_wr, OperandInfo.direct_rdIf, OperandInfo.direct_wrIf,
    OperandInfo.direct_named, ite_self]

theorem scanned_of_not_transfer (h : isTransfer op = false) (operands : List Byte)
    (pc next : Addr) : z80DirectOpcode op operands pc next = {} := by
  obtain ⟨⟨hdjnz, hjr, hjrs, hjp, hret, hcall, hjphl, hed⟩, hrets, hjps, hcalls, hrst⟩ :=
    not_isTransfer h
  simp only [List.mem_cons, List.not_mem_nil, or_false] at hjrs
  simp only [z80DirectOpcode, List.mem_cons, List.not_mem_nil, or_false, hdjnz, hjr, hjrs, hjp,
    hcall, hed, hjps, hcalls, hrst, or_self, false_and, if_false]

theorem z80Condition_eq {σ : Type} (c : Z80Interpreter σ) {n : ℕ} (hn : n < 8) :
    z80Condition (lo c.af) n = c.conditionMet n := by
  have hf : lo c.af = c.regF := rfl
  interval_cases n
  all_goals
    simp [z80Condition, conditionMet, zeroFlag, carryFlag, hf, kFlagZ, kFlagC, kFlagPV, kFlagS, bne]

variable {σ : Type} [Z80Bus σ]

/-- The instructions that are decoded wrong, from the state that has fetched them: a DJNZ that
jumps to the next address, and behind index prefixes a repeating block instruction that goes on,
or any one that the prefixes lead around the whole address space. -/
def Misdecoded (prefixes : ℕ) (op : Byte) (rest : List Byte) (c : Z80Interpreter σ) : Prop :=
  (op = 0x10#8 ∧ rest.headD 0 = 0#8 ∧ hi c.bc - 1 ≠ 0) ∨
    (op = 0xED#8 ∧ rest.headD 0 &&& 0xF4#8 = 0xB0#8 ∧ prefixes ≠ 0 ∧
      (blockAgain (opcodeZ (rest.headD 0)) c = true ∨ prefixes = 65534))

def OpcodeAgrees (index : ℕ) (op : Byte) (rest : List Byte) (pc after : Addr) (length : ℕ)
    (d : OperandInfo) (c : Z80Interpreter σ) : Prop :=
  FlowAgrees (decodeZ80Opcode index op rest pc c.pc after (lo c.af) d) pc after length
      (c.transfers op rest) ∧
    SameTarget (z80DirectOpcode op rest pc c.pc)
      (decodeZ80Opcode index op rest pc c.pc after (lo c.af) d)

variable {c : Z80Interpreter σ} {d : OperandInfo}

theorem opcodeAgrees_of_not_transfer (h : isTransfer op = false) (index : ℕ)
    (indexPrefix : Option Byte) (rest : List Byte) (hpc : c.pc = pc + BitVec.ofNat 16 length)
    (hd : d.direct = false) :
    OpcodeAgrees index op rest pc (nextPc indexPrefix op rest c) length d c := by
  have hnext : nextPc indexPrefix op rest c = c.pc := by
    unfold nextPc
    rw [transfers_of_not h, if_neg Bool.false_ne_true]
  have hdirect (after : Addr) : (decodeZ80Opcode index op rest pc c.pc after (lo c.af) d).direct =
      false := (direct_of_not_transfer h index rest pc c.pc after (lo c.af) d).trans hd
  rw [hnext]
  refine ⟨.of_falls (hdirect _) hpc _, ?_, ?_⟩
  · rw [scanned_of_not_transfer h, hdirect]
  · intro htrue
    rw [hdirect] at htrue
    cases htrue

theorem length_of_transfer {indexed : Bool}
    (complete : Complete indexed op rest) (h : isTransfer op = true) (hed : op ≠ 0xED#8) :
    rest.length + 1 = suffixLength false op := by
  unfold Complete at complete
  rw [if_neg hed, suffixLength_of_transfer h] at complete
  exact complete

theorem OpcodeAgrees.of_direct {index : ℕ} (target : Addr)
    (hflow : (decodeZ80Opcode index op rest pc c.pc after (lo c.af) d).flow ≠ .fallthrough)
    (htarget : (decodeZ80Opcode index op rest pc c.pc after (lo c.af) d).target = target)
    (htaken : (decodeZ80Opcode index op rest pc c.pc after (lo c.af) d).taken =
      c.transfers op rest)
    (hscanned : z80DirectOpcode op rest pc c.pc = ⟨true, target⟩)
    (hdirect : (decodeZ80Opcode index op rest pc c.pc after (lo c.af) d).direct = true)
    (hafter : after = if c.transfers op rest then target else c.pc)
    (hpc : c.pc = pc + BitVec.ofNat 16 length) :
    OpcodeAgrees index op rest pc after length d c := by
  refine ⟨.of_direct hflow htaken ?_, ?_, ?_⟩
  · rw [htarget, ← hpc]
    exact hafter
  · rw [hscanned, hdirect]
  · intro _
    rw [hscanned, htarget]

theorem one_operand (h : rest.length + 1 = 2) : ∃ byte, rest = [byte] :=
  List.length_eq_one_iff.mp (Nat.succ.inj h)

theorem two_operands (h : rest.length + 1 = 3) :
    ∃ low high, rest = [low, high] := by
  rcases rest with _ | ⟨low, _ | ⟨high, _ | _⟩⟩
  · cases h
  · cases h
  · exact ⟨low, high, rfl⟩
  · simp at h

theorem OperandInfo.stack_same (p : Prop) [Decidable p] (d : OperandInfo) :
    (if p then (d.rd maskSP).wr maskSP else d).flow = d.flow ∧
      (if p then (d.rd maskSP).wr maskSP else d).target = d.target ∧
      (if p then (d.rd maskSP).wr maskSP else d).taken = d.taken ∧
      (if p then (d.rd maskSP).wr maskSP else d).direct = d.direct := by
  split <;> exact ⟨rfl, rfl, rfl, rfl⟩

theorem displacement_eq_zero {byte : Byte} : displacement byte = 0 ↔ byte = 0#8 := by
  rw [← BitVec.toInt_inj, ← BitVec.toInt_inj, displacement,
    BitVec.toInt_signExtend_of_le (by decide)]
  exact Iff.rfl

section Transfers

variable (index : ℕ) (indexPrefix : Option Byte) {indexed : Bool} {rest : List Byte} {pc : Addr}
  {length : ℕ} {c : Z80Interpreter σ} (hpc : c.pc = pc + BitVec.ofNat 16 length) (d : OperandInfo)

include hpc

theorem opcodeAgrees_relative (h : op ∈ [0x20#8, 0x28#8, 0x30#8, 0x38#8])
    (complete : Complete indexed op rest) :
    OpcodeAgrees index op rest pc (nextPc indexPrefix op rest c) length d c := by
  simp only [List.mem_cons, List.not_mem_nil, or_false] at h
  rcases h with rfl | rfl | rfl | rfl
  all_goals
    obtain ⟨byte, rfl⟩ := one_operand (length_of_transfer complete rfl (by decide))
    refine .of_direct (c.pc + displacement byte) (show Flow.branch ≠ .fallthrough by decide) rfl ?_
      rfl rfl rfl hpc
    exact z80Condition_eq c (by decide)

theorem opcodeAgrees_jump (h : op &&& 0xC7#8 = 0xC2#8) (complete : Complete indexed op rest) :
    OpcodeAgrees index op rest pc (nextPc indexPrefix op rest c) length d c := by
  rcases (masked_cases op).2.1 h with rfl | rfl | rfl | rfl | rfl | rfl | rfl | rfl
  all_goals
    obtain ⟨low, high, rfl⟩ := two_operands (length_of_transfer complete rfl (by decide))
    refine .of_direct (word low high) (show Flow.branch ≠ .fallthrough by decide) rfl ?_ rfl rfl rfl
      hpc
    exact z80Condition_eq c (by decide)

theorem opcodeAgrees_call (h : op &&& 0xC7#8 = 0xC4#8) (complete : Complete indexed op rest) :
    OpcodeAgrees index op rest pc (nextPc indexPrefix op rest c) length d c := by
  rcases (masked_cases op).2.2.1 h with rfl | rfl | rfl | rfl | rfl | rfl | rfl | rfl
  all_goals
    obtain ⟨low, high, rfl⟩ := two_operands (length_of_transfer complete rfl (by decide))
    refine .of_direct (word low high) (fun h => ?_) ((OperandInfo.stack_same _ _).2.1.trans rfl)
      ((OperandInfo.stack_same _ _).2.2.1.trans ?_) rfl
      ((OperandInfo.stack_same _ _).2.2.2.trans rfl) rfl hpc
    · exact absurd ((OperandInfo.stack_same _ _).1.symm.trans h)
        (show ¬ Flow.call = .fallthrough by decide)
    · exact z80Condition_eq c (by decide)

theorem opcodeAgrees_restart (h : op &&& 0xC7#8 = 0xC7#8) :
    OpcodeAgrees index op rest pc (nextPc indexPrefix op rest c) length d c := by
  rcases (masked_cases op).2.2.2 h with rfl | rfl | rfl | rfl | rfl | rfl | rfl | rfl
  all_goals
    exact .of_direct _ (show Flow.call ≠ .fallthrough by decide) rfl rfl rfl rfl rfl hpc

omit hpc in
theorem opcodeAgrees_of_indirect
    (hflow : (decodeZ80Opcode index op rest pc c.pc after (lo c.af) d).flow ≠ .fallthrough)
    (hdirect : (decodeZ80Opcode index op rest pc c.pc after (lo c.af) d).direct = false)
    (hscanned : (z80DirectOpcode op rest pc c.pc).direct = false) :
    OpcodeAgrees index op rest pc after length d c := by
  refine ⟨.of_indirect hflow hdirect _ _ _ _, hscanned.trans hdirect.symm, ?_⟩
  intro htrue
  rw [hdirect] at htrue
  cases htrue

omit hpc in
theorem opcodeAgrees_return (h : op &&& 0xC7#8 = 0xC0#8) (after : Addr) (hd : d.direct = false) :
    OpcodeAgrees index op rest pc after length d c := by
  rcases (masked_cases op).1 h with rfl | rfl | rfl | rfl | rfl | rfl | rfl | rfl
  all_goals
    refine opcodeAgrees_of_indirect index d (fun h => ?_)
      ((OperandInfo.stack_same _ _).2.2.2.trans hd) rfl
    exact absurd ((OperandInfo.stack_same _ _).1.symm.trans h)
      (show ¬ Flow.ret = .fallthrough by decide)

theorem opcodeAgrees_always (h : op ∈ [0x18#8, 0xC3#8, 0xC9#8, 0xCD#8])
    (complete : Complete indexed op rest) (hd : d.direct = false) :
    OpcodeAgrees index op rest pc (nextPc indexPrefix op rest c) length d c := by
  simp only [List.mem_cons, List.not_mem_nil, or_false] at h
  rcases h with rfl | rfl | rfl | rfl
  · obtain ⟨byte, rfl⟩ := one_operand (length_of_transfer complete rfl (by decide))
    exact .of_direct (c.pc + displacement byte) (show Flow.branch ≠ .fallthrough by decide) rfl rfl
      rfl rfl rfl hpc
  · obtain ⟨low, high, rfl⟩ := two_operands (length_of_transfer complete rfl (by decide))
    exact .of_direct (word low high) (show Flow.branch ≠ .fallthrough by decide) rfl rfl rfl rfl rfl
      hpc
  · exact opcodeAgrees_of_indirect index d (show Flow.ret ≠ .fallthrough by decide) hd rfl
  · obtain ⟨low, high, rfl⟩ := two_operands (length_of_transfer complete rfl (by decide))
    exact .of_direct (word low high) (show Flow.call ≠ .fallthrough by decide) rfl rfl rfl rfl rfl
      hpc

omit hpc in
theorem opcodeAgrees_register (after : Addr) (hd : d.direct = false) :
    OpcodeAgrees index 0xE9#8 rest pc after length d c :=
  opcodeAgrees_of_indirect index d (show Flow.indirect ≠ .fallthrough by decide) hd rfl

/-- DJNZ is decoded by the address it leaves: wrong where a jump leads to the next one. -/
theorem opcodeAgrees_djnz_iff {byte : Byte} :
    OpcodeAgrees index 0x10#8 [byte] pc (nextPc indexPrefix 0x10#8 [byte] c) length d c ↔
      ¬ (byte = 0#8 ∧ hi c.bc - 1 ≠ 0) := by
  have htransfers : c.transfers 0x10#8 [byte] = (hi c.bc - 1 != 0) := rfl
  have hnext : nextPc indexPrefix 0x10#8 [byte] c =
      if hi c.bc - 1 != 0 then c.pc + displacement byte else c.pc := rfl
  have hmoved : c.pc + displacement byte ≠ c.pc ↔ byte ≠ 0#8 := by
    rw [ne_eq, ne_eq, ← displacement_eq_zero]
    constructor
    · intro h h0
      exact h (by rw [h0, BitVec.ofNat_eq_ofNat, BitVec.add_zero])
    · intro h h0
      exact h (by bv_omega)
  have hfields (after : Addr) :
      (decodeZ80Opcode index 0x10#8 [byte] pc c.pc after (lo c.af) d).taken = (after != c.pc) := rfl
  constructor
  · rintro ⟨hflow, -⟩ ⟨hbyte, hcount⟩
    have htaken := hflow.taken rfl
    rw [hfields, htransfers, hnext, if_pos (bne_iff_ne.mpr hcount), bne_iff_ne.mpr hcount,
      bne_iff_ne, hmoved] at htaken
    exact htaken hbyte
  · intro hgood
    refine .of_direct (c.pc + displacement byte) (show Flow.branch ≠ .fallthrough by decide) rfl ?_
      rfl rfl rfl hpc
    rw [hfields, htransfers, hnext]
    by_cases hcount : hi c.bc - 1 = 0
    · have hno : (hi c.bc - 1 != 0) = false := by
        rw [hcount]
        rfl
      rw [hno, if_neg Bool.false_ne_true]
      exact bne_self_eq_false c.pc
    · rw [if_pos (bne_iff_ne.mpr hcount), bne_iff_ne.mpr hcount, bne_iff_ne, hmoved]
      exact fun h => hgood ⟨h, hcount⟩

omit hpc in
theorem ed_masks (ed : Byte) :
    (ed &&& 0xF4#8 ≠ 0xB0#8 → ed &&& 0xE4#8 = 0xA0#8 → ed &&& 0x10#8 = 0#8) ∧
      (ed &&& 0xF4#8 = 0xB0#8 → ed &&& 0xC7#8 ≠ 0x45#8 ∧ ed &&& 0xC7#8 ≠ 0x43#8 ∧
        ed ∈ [0xB0#8, 0xB1#8, 0xB2#8, 0xB3#8, 0xB8#8, 0xB9#8, 0xBA#8, 0xBB#8]) ∧
      (ed &&& 0xC7#8 = 0x45#8 →
        ed ∈ [0x45#8, 0x4D#8, 0x55#8, 0x5D#8, 0x65#8, 0x6D#8, 0x75#8, 0x7D#8]) := by
  revert ed
  decide +kernel

omit hpc in
theorem direct_decodeZ80Ed {ed : Byte} (h : ed &&& 0xF4#8 ≠ 0xB0#8) (after : Addr) :
    (decodeZ80Ed ed pc after d).direct = d.direct := by
  have hrepeats := (ed_masks ed).1 h
  by_cases hblock : ed &&& 0xE4#8 = 0xA0#8
  · simp only [decodeZ80Ed, hblock, hrepeats hblock, ne_eq, not_true_eq_false, if_false, if_true,
      apply_ite OperandInfo.direct, OperandInfo.direct_rd, OperandInfo.direct_wr,
      OperandInfo.direct_rdIf, OperandInfo.direct_wrIf, OperandInfo.direct_named,
      OperandInfo.direct_always, ite_self]
  · simp only [decodeZ80Ed, hblock, if_false, apply_ite OperandInfo.direct, OperandInfo.direct_rd,
      OperandInfo.direct_wr, OperandInfo.direct_rdIf, OperandInfo.direct_wrIf,
      OperandInfo.direct_named, OperandInfo.direct_always, ite_self]

omit hpc in
theorem scanned_ed {ed : Byte} (h : ed &&& 0xF4#8 ≠ 0xB0#8) (tail : List Byte) (next : Addr) :
    (z80DirectOpcode 0xED#8 (ed :: tail) pc next).direct = false := by
  show (if 0xED#8 = 0xED#8 ∧ ed :: tail ≠ [] ∧ ed &&& 0xE4#8 = 0xA0#8 ∧ ed &&& 0x10#8 ≠ 0#8 then
    (⟨true, pc⟩ : DirectTarget) else {}).direct = false
  rw [if_neg fun hblock => hblock.2.2.2 ((ed_masks ed).1 h hblock.2.2.1)]

omit hpc in
theorem flow_ed_return {ed : Byte} (h : ed &&& 0xC7#8 = 0x45#8) (after : Addr) :
    (decodeZ80Ed ed pc after d).flow = .ret := by
  have hmem := (ed_masks ed).2.2 h
  simp only [List.mem_cons, List.not_mem_nil, or_false] at hmem
  rcases hmem with rfl | rfl | rfl | rfl | rfl | rfl | rfl | rfl
  all_goals rfl

theorem opcodeAgrees_ed {ed : Byte} {tail : List Byte} (h : ed &&& 0xF4#8 ≠ 0xB0#8)
    (hd : d.direct = false) :
    OpcodeAgrees index 0xED#8 (ed :: tail) pc (nextPc indexPrefix 0xED#8 (ed :: tail) c) length d
      c := by
  have hdirect (after : Addr) :
      (decodeZ80Opcode index 0xED#8 (ed :: tail) pc c.pc after (lo c.af) d).direct = false :=
    (direct_decodeZ80Ed (d.named ("Z80 " ++ hex 2 (0xED#8 : Byte).toNat)) h after).trans hd
  by_cases hreturn : ed &&& 0xC7#8 = 0x45#8
  · refine opcodeAgrees_of_indirect index d (fun hflow => ?_) (hdirect _) (scanned_ed h tail _)
    have hret : (decodeZ80Ed ed pc (nextPc indexPrefix 0xED#8 (ed :: tail) c)
        (d.named ("Z80 " ++ hex 2 (0xED#8 : Byte).toNat))).flow = .ret :=
      flow_ed_return _ hreturn _
    exact absurd (hret.symm.trans hflow) (show ¬ Flow.ret = .fallthrough by decide)
  · have hnext : nextPc indexPrefix 0xED#8 (ed :: tail) c = c.pc := by
      rw [nextPc_ed, if_neg hreturn, if_neg fun hblock => h hblock.1]
    rw [hnext]
    refine ⟨.of_falls (hdirect _) hpc _, (scanned_ed h tail _).trans (hdirect _).symm, ?_⟩
    intro htrue
    rw [hdirect] at htrue
    cases htrue

end Transfers

variable {ed : Byte}

theorem decoded_block (h : ed &&& 0xF4#8 = 0xB0#8) (index : ℕ) (pc next after : Addr)
    (flags : Byte) (d : OperandInfo) :
    (decodeZ80Opcode index 0xED#8 [ed] pc next after flags d).flow = .branch ∧
      (decodeZ80Opcode index 0xED#8 [ed] pc next after flags d).target = pc ∧
      (decodeZ80Opcode index 0xED#8 [ed] pc next after flags d).taken = (after == pc) ∧
      (decodeZ80Opcode index 0xED#8 [ed] pc next after flags d).direct = true ∧
      z80DirectOpcode 0xED#8 [ed] pc next = ⟨true, pc⟩ := by
  have hmem := ((ed_masks ed).2.1 h).2.2
  simp only [List.mem_cons, List.not_mem_nil, or_false] at hmem
  rcases hmem with rfl | rfl | rfl | rfl | rfl | rfl | rfl | rfl
  all_goals exact ⟨rfl, rfl, rfl, rfl, rfl⟩

/-- A repeating block instruction is decoded by its own first address, although it steps back
over its last two bytes only. -/
theorem opcodeAgrees_block_iff (index : ℕ) (indexPrefix : Option Byte) {prefixes : ℕ}
    (hprefixes : prefixes < 65536) (h : ed &&& 0xF4#8 = 0xB0#8)
    (hpc : c.pc = pc + BitVec.ofNat 16 (prefixes + 2)) (d : OperandInfo) :
    OpcodeAgrees index 0xED#8 [ed] pc (nextPc indexPrefix 0xED#8 [ed] c) (prefixes + 2) d c ↔
      ¬ (prefixes ≠ 0 ∧ (blockAgain (opcodeZ ed) c = true ∨ prefixes = 65534)) := by
  have hreturn := ((ed_masks ed).2.1 h).1
  have hnext : nextPc indexPrefix 0xED#8 [ed] c =
      if blockAgain (opcodeZ ed) c then c.pc - 2 else c.pc := by
    rw [nextPc_ed, if_neg hreturn]
    simp only [h, true_and]
  have htransfers : c.transfers 0xED#8 [ed] = blockAgain (opcodeZ ed) c := by
    show (ed &&& 0xC7#8 == 0x45#8 || (ed &&& 0xF4#8 == 0xB0#8 && blockAgain (opcodeZ ed) c)) = _
    simp [h, hreturn]
  obtain ⟨hflow, htarget, htaken, hdirect, hscanned⟩ := decoded_block h index pc c.pc
    (nextPc indexPrefix 0xED#8 [ed] c) (lo c.af) d
  have hback : c.pc - 2 = pc ↔ prefixes = 0 := by
    rw [hpc]
    constructor
    · intro heq
      bv_omega
    · rintro rfl
      bv_omega
  have hround : c.pc ≠ pc ↔ prefixes ≠ 65534 := by
    rw [hpc]
    constructor
    · rintro hne rfl
      exact hne (by bv_omega)
    · intro hne heq
      exact hne (by bv_omega)
  have hiff : OpcodeAgrees index 0xED#8 [ed] pc (nextPc indexPrefix 0xED#8 [ed] c) (prefixes + 2)
      d c ↔ if blockAgain (opcodeZ ed) c then c.pc - 2 = pc else c.pc ≠ pc := by
    cases hagain : blockAgain (opcodeZ ed) c with
    | true =>
      rw [hagain] at hnext htransfers
      rw [if_pos rfl] at hnext ⊢
      constructor
      · rintro ⟨hagrees, -⟩
        have hgoes := hagrees.target hdirect htransfers
        rwa [htarget, hnext] at hgoes
      · intro hgoes
        refine .of_direct pc (by rw [hflow]; decide) htarget ?_ hscanned hdirect ?_ hpc
        · rw [htaken, htransfers, hnext, hgoes]
          exact beq_self_eq_true pc
        · rw [htransfers, if_pos rfl, hnext, hgoes]
    | false =>
      rw [hagain] at hnext htransfers
      rw [if_neg Bool.false_ne_true] at hnext ⊢
      constructor
      · rintro ⟨hagrees, -⟩
        have hstays := hagrees.taken hdirect
        rw [htaken, htransfers, hnext] at hstays
        exact beq_eq_false_iff_ne.mp hstays
      · intro hstays
        refine .of_direct pc (by rw [hflow]; decide) htarget ?_ hscanned hdirect ?_ hpc
        · rw [htaken, htransfers, hnext]
          exact beq_eq_false_iff_ne.mpr hstays
        · rw [htransfers, if_neg Bool.false_ne_true, hnext]
  rw [hiff, hback, hround]
  cases blockAgain (opcodeZ ed) c with
  | true => simp
  | false =>
    simp only [Bool.false_eq_true, if_false, false_or]
    constructor
    · exact fun hne h => hne h.2
    · rintro hne rfl
      exact hne ⟨by decide, rfl⟩

/-- An opcode with a complete encoding is decoded right just when it is not one of the wrong ones. -/
theorem opcodeAgrees_iff (index : ℕ) (indexPrefix : Option Byte) {prefixes : ℕ}
    (hprefixes : prefixes < 65536) {indexed : Bool} (complete : Complete indexed op rest)
    (hpc : c.pc = pc + BitVec.ofNat 16 (prefixes + 1 + rest.length)) (hd : d.direct = false) :
    OpcodeAgrees index op rest pc (nextPc indexPrefix op rest c) (prefixes + 1 + rest.length) d c ↔
      ¬ Misdecoded prefixes op rest c := by
  have hright (hdjnz : op ≠ 0x10#8) (hed : op ≠ 0xED#8)
      (h : OpcodeAgrees index op rest pc (nextPc indexPrefix op rest c) (prefixes + 1 + rest.length)
        d c) :
      OpcodeAgrees index op rest pc (nextPc indexPrefix op rest c) (prefixes + 1 + rest.length) d c ↔
        ¬ Misdecoded prefixes op rest c := by
    refine ⟨fun _ hwrong => ?_, fun _ => h⟩
    rcases hwrong with hwrong | hwrong
    · exact hdjnz hwrong.1
    · exact hed hwrong.1
  cases htransfer : isTransfer op with
  | false =>
    refine hright ?_ ?_ (opcodeAgrees_of_not_transfer htransfer index indexPrefix rest hpc hd)
    · rintro rfl
      cases htransfer
    · rintro rfl
      cases htransfer
  | true =>
    have hmasked (mask value : Byte) (hne : 0x10#8 &&& mask ≠ value ∧ 0xED#8 &&& mask ≠ value)
        (h : op &&& mask = value) : op ≠ 0x10#8 ∧ op ≠ 0xED#8 := by
      constructor
      · rintro rfl
        exact hne.1 h
      · rintro rfl
        exact hne.2 h
    have hlisted (ops : List Byte) (hne : 0x10#8 ∉ ops ∧ 0xED#8 ∉ ops) (h : op ∈ ops) :
        op ≠ 0x10#8 ∧ op ≠ 0xED#8 := by
      constructor
      · rintro rfl
        exact hne.1 h
      · rintro rfl
        exact hne.2 h
    rcases isTransfer_cases htransfer with h | h | rfl | rfl | rfl | h | h | h | h
    · obtain ⟨hdjnz, hed⟩ := hlisted _ (by decide) h
      exact hright hdjnz hed (opcodeAgrees_relative index indexPrefix hpc d h complete)
    · obtain ⟨hdjnz, hed⟩ := hlisted _ (by decide) h
      exact hright hdjnz hed (opcodeAgrees_always index indexPrefix hpc d h complete hd)
    · obtain ⟨byte, rfl⟩ := one_operand (length_of_transfer complete rfl (by decide))
      rw [opcodeAgrees_djnz_iff index indexPrefix hpc d]
      simp [Misdecoded]
    · exact hright (by decide) (by decide) (opcodeAgrees_register index d _ hd)
    · obtain ⟨ed, tail, rfl, htail⟩ := complete
      by_cases hblock : ed &&& 0xF4#8 = 0xB0#8
      · have hempty : tail = [] := by
          exact List.eq_nil_of_length_eq_zero (htail.trans (if_neg ((ed_masks _).2.1 hblock).2.1))
        subst hempty
        rw [List.length_singleton, Nat.add_assoc] at hpc ⊢
        rw [opcodeAgrees_block_iff index indexPrefix hprefixes hblock hpc d]
        simp [Misdecoded, hblock]
      · refine ⟨fun _ hwrong => ?_, fun _ => opcodeAgrees_ed index indexPrefix hpc d hblock hd⟩
        rcases hwrong with hwrong | hwrong
        · exact absurd hwrong.1 (by decide)
        · exact hblock hwrong.2.1
    · obtain ⟨hdjnz, hed⟩ := hmasked _ _ (by decide) h
      exact hright hdjnz hed (opcodeAgrees_return index d h _ hd)
    · obtain ⟨hdjnz, hed⟩ := hmasked _ _ (by decide) h
      exact hright hdjnz hed (opcodeAgrees_jump index indexPrefix hpc d h complete)
    · obtain ⟨hdjnz, hed⟩ := hmasked _ _ (by decide) h
      exact hright hdjnz hed (opcodeAgrees_call index indexPrefix hpc d h complete)
    · obtain ⟨hdjnz, hed⟩ := hmasked _ _ (by decide) h
      exact hright hdjnz hed (opcodeAgrees_restart index indexPrefix hpc d h)

/-- The state of a step that is about to execute the fetched bytes. -/
def readyToExecute (bytes : List Byte) (c : Z80Interpreter σ) : Z80Interpreter σ :=
  afterFetches bytes.length (handleInterrupts c).2

/-- Whether the instruction with these bytes transfers control. -/
def z80Transfers (bytes : List Byte) (c : Z80Interpreter σ) : Bool :=
  match bytes.dropWhile isIndexPrefix with
  | [] => false
  | op :: rest => (readyToExecute bytes c).transfers op rest

/-- Whether the instruction with these bytes is one that is decoded wrong. -/
def z80Misdecoded (bytes : List Byte) (c : Z80Interpreter σ) : Prop :=
  match bytes.dropWhile isIndexPrefix with
  | [] => False
  | op :: rest =>
    Misdecoded (bytes.takeWhile isIndexPrefix).length op rest (readyToExecute bytes c)

def Z80FlowAgrees (bytes : List Byte) (c : Z80Interpreter σ) : Prop :=
  FlowAgrees (decodeZ80 bytes c.pc (step c).2.pc (lo c.af)) c.pc (step c).2.pc bytes.length
      (z80Transfers bytes c) ∧
    SameTarget (z80DirectTarget bytes c.pc) (decodeZ80 bytes c.pc (step c).2.pc (lo c.af))

omit [Z80Bus σ] in
theorem isEmpty_append_cons {α : Type} (front : List α) (a : α) (back : List α) :
    (front ++ a :: back).isEmpty = false := by
  cases front <;> rfl

/-- For every bus and every state in which the interpreter executes an instruction: it is decoded
right just when it is not one of the wrong ones. -/
theorem z80FlowAgrees_iff {c : Z80Interpreter (FetchTrace σ)} (haccepts : c.accepts = false)
    (hhalted : c.halted = false) :
    ∃ bytes, (step c).2.bus.fetched = c.bus.fetched ++ bytes ∧
      (Z80FlowAgrees bytes c ↔ ¬ z80Misdecoded bytes c) := by
  obtain ⟨bytes, pc, hexecuted, hfetched, hpc⟩ := step_run haccepts hhalted
  obtain ⟨bus, -, hpolled⟩ := polled_of_not haccepts
  refine ⟨bytes, hfetched, ?_⟩
  have hready : (readyToExecute bytes c).pc = c.pc + BitVec.ofNat 16 bytes.length := by
    rw [readyToExecute, afterFetches_pc, hpolled]
  have hflags : (readyToExecute bytes c).af = c.af := by
    rw [readyToExecute, afterFetches_eq, hpolled]
  unfold Z80FlowAgrees z80Misdecoded z80Transfers decodeZ80 z80DirectTarget
  rw [hpc]
  cases hexecuted with
  | chain prefixes all length =>
    have hdrop : bytes.dropWhile isIndexPrefix = [] := List.dropWhile_eq_nil_iff.mpr all
    have hne : bytes.isEmpty = false := by
      rw [List.isEmpty_eq_false_iff]
      rintro rfl
      cases length
    have hafter : (afterFetches 65536 (handleInterrupts c).2).pc =
        c.pc + BitVec.ofNat 16 bytes.length := by
      rw [length, afterFetches_pc, hpolled]
    rw [hdrop, hne, hafter]
    exact ⟨fun _ h => h, fun _ => ⟨.of_falls rfl rfl _, rfl, nofun⟩⟩
  | opcode prefixes op rest all length other complete =>
    have hother : ¬ isIndexPrefix op = true := Bool.eq_false_iff.mp other
    have hdrop : (prefixes ++ op :: rest).dropWhile isIndexPrefix = op :: rest := by
      rw [List.dropWhile_append_of_pos all, List.dropWhile_cons_of_neg hother]
    have htake : (prefixes ++ op :: rest).takeWhile isIndexPrefix = prefixes := by
      rw [List.takeWhile_append_of_pos all, List.takeWhile_cons_of_neg hother, List.append_nil]
    have hlength : (prefixes ++ op :: rest).length = prefixes.length + 1 + rest.length := by
      rw [List.length_append, List.length_cons]
      omega
    have hstate : afterFetches (prefixes.length + 1 + rest.length) (handleInterrupts c).2 =
        readyToExecute (prefixes ++ op :: rest) c := by
      rw [readyToExecute, hlength]
    rw [hdrop, htake, isEmpty_append_cons, hstate]
    rw [hlength] at hready ⊢
    rw [← hflags, ← hready]
    exact opcodeAgrees_iff _ _ length complete hready rfl

end Z80

section GameBoy

/-- Where an instruction goes, apart from the registers and the text. -/
def OperandInfo.control (d : OperandInfo) : Flow × Addr × Bool × Bool :=
  (d.flow, d.target, d.taken, d.direct)

namespace OperandInfo

variable (d : OperandInfo) (mask : BitVec 32) (condition : Bool)

@[simp] theorem control_rd : (d.rd mask).control = d.control := rfl

@[simp] theorem control_wr : (d.wr mask).control = d.control := rfl

@[simp] theorem control_named (text : String) : (d.named text).control = d.control := rfl

@[simp] theorem control_rdIf : (d.rdIf condition mask).control = d.control := by
  cases condition <;> rfl

end OperandInfo

def gbIsTransfer (op : Byte) : Bool :=
  gbIsJr op || gbIsJp op || gbIsCall op || gbIsRet op || gbIsRst op || op == 0xE9#8

def gbConditional (op : Byte) : Bool :=
  (gbIsJr op && op != 0x18#8) || (gbIsJp op && op != 0xC3#8) || (gbIsCall op && op != 0xCD#8) ||
    (gbIsRet op && op != 0xC9#8 && op != 0xD9#8)

/-- The condition of an opcode, read from the flags. -/
def gbCondition (op flags : Byte) : Bool :=
  (flags &&& (if op.toNat / 8 % 4 < 2 then 0x80#8 else 0x10#8) != 0#8) == (op.toNat / 8 % 4 % 2 == 1)

variable {op : Byte}

theorem control_decodeGbFlow (h : gbIsTransfer op = true) (imm next : Addr)
    (flags : Byte) (d : OperandInfo) :
    (decodeGbFlow op imm next flags d).control =
      (if gbIsCall op || gbIsRst op then .call else if gbIsRet op then .ret
          else if op = 0xE9#8 then .indirect else .branch,
        if gbIsJr op then next + (lo imm).signExtend 16
          else if gbIsRst op then (op &&& 0x38#8).setWidth 16 else imm,
        !gbConditional op || gbCondition op flags,
        gbIsJr op || gbIsJp op || gbIsCall op || gbIsRst op) := by
  unfold gbIsTransfer at h
  unfold decodeGbFlow
  rw [if_pos h]
  simp only [apply_ite OperandInfo.control, OperandInfo.control_named, OperandInfo.control_rd,
    OperandInfo.control_wr, OperandInfo.control_rdIf, ite_self]
  rfl

theorem gbIsTransfer_facts (h : gbIsTransfer op = true) :
    op ≠ 0xCB#8 ∧ ¬ (0x40#8 ≤ op ∧ op < 0x80#8 ∧ op ≠ 0x76#8) ∧ ¬ (0x80#8 ≤ op ∧ op < 0xC0#8) ∧
      ¬ (op < 0x40#8 ∧ op &&& 7#8 = 6#8) ∧
      ¬ (op < 0x40#8 ∧ (op &&& 7#8 = 4#8 ∨ op &&& 7#8 = 5#8)) ∧
      ¬ (op < 0x40#8 ∧ op &&& 15#8 = 1#8) ∧
      ¬ (op < 0x40#8 ∧ (op &&& 15#8 = 3#8 ∨ op &&& 15#8 = 11#8)) ∧
      ¬ (op < 0x40#8 ∧ op &&& 15#8 = 9#8) := by
  revert op
  decide +kernel

theorem control_decode (h : gbIsTransfer op = true) (operands : List Byte) (pc : Addr)
    (flags : Byte) :
    (decode (op :: operands) pc flags).control =
      (decodeGbFlow op (word (operands.getD 0 0) (operands.getD 1 0))
        (pc + BitVec.ofNat 16 (op :: operands).length) flags {}).control := by
  obtain ⟨hcb, hld, halu, himm, hinc, hpair, hincPair, hadd⟩ := gbIsTransfer_facts h
  unfold decode
  dsimp only
  rw [if_neg fun hboth => hcb hboth.1, if_neg hld, if_neg halu, if_neg himm, if_neg hinc,
    if_neg hpair, if_neg hincPair, if_neg hadd, control_decodeGbFlow h, control_decodeGbFlow h]

theorem direct_decodeGbSwitch (op : Byte) (imm : Addr) (d : OperandInfo) :
    (decodeGbSwitch op imm d).direct = d.direct := by
  simp only [decodeGbSwitch, apply_ite OperandInfo.direct, OperandInfo.direct_rd,
    OperandInfo.direct_wr, OperandInfo.direct_rdIf, OperandInfo.direct_named, ite_self]

theorem direct_decodeGbCb (cb : Byte) (d : OperandInfo) : (decodeGbCb cb d).direct = d.direct := by
  simp only [decodeGbCb, apply_ite OperandInfo.direct, OperandInfo.direct_rd,
    OperandInfo.direct_wr, OperandInfo.direct_rdIf, OperandInfo.direct_wrIf,
    OperandInfo.direct_named, ite_self]

theorem direct_decode (h : gbIsTransfer op = false) (operands : List Byte) (pc : Addr)
    (flags : Byte) : (decode (op :: operands) pc flags).direct = false := by
  have hflow (imm next : Addr) (d : OperandInfo) :
      (decodeGbFlow op imm next flags d).direct = d.direct := by
    unfold gbIsTransfer at h
    unfold decodeGbFlow
    rw [h, if_neg Bool.false_ne_true]
  simp only [decode, hflow, apply_ite OperandInfo.direct, direct_decodeGbCb,
    direct_decodeGbSwitch, OperandInfo.direct_rd, OperandInfo.direct_wr, OperandInfo.direct_rdIf,
    OperandInfo.direct_wrIf, OperandInfo.direct_named, ite_self]

open GameBoy

theorem gbIsTransfer_table (op : Byte) : (opcodeTable op).all (fun family =>
    family.isBranch == gbIsTransfer op && family.isConditional == gbConditional op &&
      (decide (family ∈ [.jr, .jrCond]) == gbIsJr op) && (decide (family = .rst) == gbIsRst op) &&
      (decide (family ∈ [.jr, .jrCond, .jp, .jpCond, .call, .callCond, .rst]) ==
        (gbIsJr op || gbIsJp op || gbIsCall op || gbIsRst op))) = true ∧
    ((op >>> 3) &&& 0x03#8).toNat = op.toNat / 8 % 4 := by
  revert op
  decide +kernel

variable {τ : Type} [CpuBus τ] (s : Core τ)

omit [CpuBus τ] in
theorem conditionHolds_eq (op : Byte) :
    s.conditionHolds (decodeCondition op) = gbCondition op (lo s.af) := by
  have hn := (gbIsTransfer_table op).2
  have hlt : op.toNat / 8 % 4 < 4 := Nat.mod_lt _ (by decide)
  have hf : s.flags = lo s.af := rfl
  unfold decodeCondition gbCondition
  rw [hn]
  generalize op.toNat / 8 % 4 = n at hlt
  interval_cases n
  all_goals simp [Core.conditionHolds, hf, kFlagZ, kFlagC, bne]

variable {family : OpcodeFamily}

/-- Only a branch changes the program counter. -/
theorem step_pc (h : family.isBranch = false)
    (op imm8 : Byte) (imm16 : Addr) : (family.step op imm8 imm16 s).pc = s.pc := by
  have hassign (s : Core τ) (reg : R16) (value : Addr) : (s.assignR16 reg value).pc = s.pc := by
    cases reg <;> rfl
  have hwrite (s : Core τ) (reg : R8) (value : Byte) : (s.writeR8 reg value).pc = s.pc := by
    cases reg <;> rfl
  have hmath (code rhs : Byte) : (s.mathOp code rhs).pc = s.pc := by
    unfold Core.mathOp
    generalize ((code >>> 3) &&& 0x07#8).toNat = n
    rcases n with _ | _ | _ | _ | _ | _ | _ | n <;> rfl
  cases family with
  | ldR16Imm | incR16 | decR16 => exact hassign _ _ _
  | incR8 | decR8 | ldR8Imm | ldR8R8 => exact hwrite _ _ _
  | rotateA =>
    unfold OpcodeFamily.step Core.rotateA
    dsimp only
    split <;> rfl
  | ccf =>
    unfold OpcodeFamily.step
    dsimp only
    split <;> rfl
  | jrCond | jpCond | callCond | retCond | jr | jp | jpHl | call | ret | reti | rst => cases h
  | ldIndirectA =>
    unfold OpcodeFamily.step Core.ldIndirectA
    split_ifs <;> rfl
  | mathR8 | mathImm => exact hmath _ _
  | popR16 =>
    unfold OpcodeFamily.step
    dsimp only
    cases decodeR16Stack op <;> rfl
  | prefixCb =>
    unfold OpcodeFamily.step Core.executeCbOpcode
    dsimp only
    split
    · exact hwrite _ _ _
    · rfl
    · exact hwrite _ _ _
    · exact hwrite _ _ _
  | _ => rfl

/-- What a branch reads of the processor, but for the stack and `HL`. -/
structure SameFront (s s' : Core τ) : Prop where
  pc : s'.pc = s.pc
  af : s'.af = s.af
  haltBug : s'.haltBugPcAdjustPending = s.haltBugPcAdjustPending

/-- Both executors leave the program counter that the step of the opcode and the advance over its
bytes give. -/
theorem stepFetched_pc (fastExecutionAllowed : Bool)
    (hf : opcodeTable op = some family) (hlength : (op :: rest).length = family.length) :
    ∃ after s' : Core τ, s.stepFetched fastExecutionAllowed ⟨s.pc, op :: rest⟩ = .ok after ∧
      SameFront s s' ∧
      after.pc = ((family.step op (fetchImm8 (op :: rest) 0) (fetchImm16 (op :: rest) 0)
        s').advancePc family.length).pc := by
  have hcanonical : ∃ after s' : Core τ, s.decodeAndExecute ⟨s.pc, op :: rest⟩ = .ok after ∧
      SameFront s s' ∧
      after.pc = ((family.step op (fetchImm8 (op :: rest) 0) (fetchImm16 (op :: rest) 0)
        s').advancePc family.length).pc := by
    unfold Core.decodeAndExecute
    rw [decodeInto_single s.pc hf hlength]
    refine ⟨_, { s with bus := CpuBus.beginStep (family.cycles (op :: rest) 0).notTaken s.bus }, rfl,
      ⟨rfl, rfl, rfl⟩, ?_⟩
    unfold Core.execute
    rw [Core.retireInstruction_pc, ← hlength]
    rfl
  unfold Core.stepFetched
  cases fastExecutionAllowed with
  | false => exact hcanonical
  | true =>
    cases hsupported : supportsFastOpcode op with
    | true =>
      rw [Core.tryFastExecuteBytes_eq s hsupported hf]
      exact ⟨_, { s with bus := CpuBus.beginStep (opcodeCyclesFor op).notTaken s.bus }, rfl,
        ⟨rfl, rfl, rfl⟩, Core.finalizeFast_pc _ _ _ _⟩
    | false =>
      have hnone : s.tryFastExecuteBytes (op :: rest) = none := by
        simp [Core.tryFastExecuteBytes, hsupported]
      rw [hnone]
      exact hcanonical

/-- Whether the instruction with these bytes transfers control. -/
def gbTransfers (bytes : List Byte) (s : Core τ) : Bool :=
  match opcodeTable (bytes.headD 0) with
  | some family => family.isBranch && s.branchTaken family (bytes.headD 0)
  | none => false

/-- A complete encoding, executed by either executor with no HALT-bug adjustment pending, is
decoded right. -/
theorem gbFlowAgrees (fastExecutionAllowed : Bool) (hf : opcodeTable op = some family)
    (hlength : (op :: rest).length = family.length) (hbug : s.haltBugPcAdjustPending = false) :
    ∃ after, s.stepFetched fastExecutionAllowed ⟨s.pc, op :: rest⟩ = .ok after ∧
      FlowAgrees (decode (op :: rest) s.pc (lo s.af)) s.pc after.pc (op :: rest).length
        (gbTransfers (op :: rest) s) := by
  obtain ⟨after, s', hafter, hfront, hpc⟩ := stepFetched_pc s fastExecutionAllowed hf hlength
  refine ⟨after, hafter, ?_⟩
  have htable := (gbIsTransfer_table op).1
  rw [hf] at htable
  simp only [Option.all_some, Bool.and_eq_true, beq_iff_eq] at htable
  obtain ⟨⟨⟨⟨hbranch, hconditional⟩, hjr⟩, hrst⟩, hdirect⟩ := htable
  have htransfers : gbTransfers (op :: rest) s =
      (family.isBranch && s.branchTaken family op) := by
    rw [gbTransfers, List.headD_cons, hf]
  rw [← hfront.haltBug] at hbug
  cases h : gbIsTransfer op with
  | false =>
    rw [h] at hbranch
    refine .of_falls (direct_decode h rest s.pc _) ?_ _
    have hheld := (s'.step_sameHold family op (fetchImm8 (op :: rest) 0)
      (fetchImm16 (op :: rest) 0)).haltBug
    have hstays := step_pc s' hbranch op (fetchImm8 (op :: rest) 0) (fetchImm16 (op :: rest) 0)
    rw [hpc, hlength, Core.advancePc, hheld, hbug, hstays, hfront.pc]
    simp
  | true =>
    rw [h] at hbranch
    rw [hbranch, Bool.true_and] at htransfers
    have hbranched := (s'.step_branched hbranch op (fetchImm8 (op :: rest) 0)
      (fetchImm16 (op :: rest) 0)).advancePc family.length_pos family.length_le
    have hsame : s'.branchTaken family op = s.branchTaken family op := by
      rw [Core.branchTaken, Core.branchTaken, conditionHolds_eq, conditionHolds_eq, hfront.af]
    rw [← hpc, hbug, if_neg Bool.false_ne_true, hsame, ← htransfers, hfront.pc,
      BitVec.ofNat_eq_ofNat, BitVec.sub_zero, ← hlength] at hbranched
    have hcontrol := (control_decode h rest s.pc (lo s.af)).trans (control_decodeGbFlow h _ _ _ _)
    simp only [OperandInfo.control, Prod.mk.injEq] at hcontrol
    obtain ⟨hflow, htarget, htaken, hdirected⟩ := hcontrol
    have hleaves : (decode (op :: rest) s.pc (lo s.af)).flow ≠ .fallthrough := by
      rw [hflow]
      split_ifs <;> decide
    rw [← hdirect] at hdirected
    by_cases hmem : family ∈ [.jr, .jrCond, .jp, .jpCond, .call, .callCond, .rst]
    · refine .of_direct hleaves ?_ ?_
      · rw [htaken, htransfers, Core.branchTaken, hconditional, conditionHolds_eq]
      · rw [hbranched, htarget, ← hjr, ← hrst, hlength]
        simp only [List.mem_cons, List.not_mem_nil, or_false] at hmem
        rcases hmem with rfl | rfl | rfl | rfl | rfl | rfl | rfl
        all_goals
          simp [Core.branchTarget, OpcodeFamily.length, fetchImm8, fetchImm16, lo_word, hfront.pc]
    · exact .of_indirect hleaves (hdirected.trans (decide_eq_false hmem)) _ _ _ _

/-- The decoding of the bytes that a fetch returns agrees with where the executor goes. -/
def GbFlowAgrees (fastExecutionAllowed : Bool) (c : Core τ) : Prop :=
  ∃ after, c.fetchInstruction.1.stepFetched fastExecutionAllowed c.fetchInstruction.2 = .ok after ∧
    FlowAgrees (decode c.fetchInstruction.2.data c.pc (lo c.af)) c.pc after.pc
      c.fetchInstruction.2.data.length (gbTransfers c.fetchInstruction.2.data c)

theorem gbFlowAgrees_of_no_haltBug {c : Core τ} (h : c.haltBugActive = false)
    (fastExecutionAllowed : Bool) : GbFlowAgrees fastExecutionAllowed c := by
  obtain ⟨family, hf⟩ := Option.isSome_iff_exists.mp (opcodeTable_isSome (c.read8 c.pc))
  obtain ⟨rest, hdata⟩ : ∃ rest, c.fetchBytes c.haltBugActive = c.read8 c.pc :: rest := ⟨_, rfl⟩
  have hlength : (c.read8 c.pc :: rest).length = family.length := by
    rw [← hdata, Core.fetchBytes, hf, List.length_cons, List.length_map, List.length_range,
      Nat.sub_add_cancel family.length_pos]
  unfold GbFlowAgrees Core.fetchInstruction
  dsimp only
  rw [hdata]
  exact gbFlowAgrees { c with haltBugActive := false, haltBugPcAdjustPending := c.haltBugActive }
    fastExecutionAllowed hf hlength h

end GameBoy

/-- The decoded flow is that of the execution: on the Z80 just for the instructions that are not
decoded wrong, on the Game Boy for every instruction without a HALT bug. -/
theorem control_flow_decoded_iff {σ τ : Type} [GameGear.Z80Bus σ] [GameBoy.CpuBus τ] :
    (∀ c : GameGear.Z80Interpreter (GameGear.FetchTrace σ), c.accepts = false → c.halted = false →
      ∃ bytes, (GameGear.Z80Interpreter.step c).2.bus.fetched = c.bus.fetched ++ bytes ∧
        (Z80FlowAgrees bytes c ↔ ¬ z80Misdecoded bytes c)) ∧
    ∀ (c : GameBoy.Core τ) (fastExecutionAllowed : Bool), c.haltBugActive = false →
      GbFlowAgrees fastExecutionAllowed c :=
  ⟨fun _ haccepts hhalted => z80FlowAgrees_iff haccepts hhalted,
    fun _ fastExecutionAllowed h => gbFlowAgrees_of_no_haltBug h fastExecutionAllowed⟩

/-- `JR -2` on the one, `JR NZ` over nothing on the other. -/
theorem control_flow_decoded_iff_jr :
    (∃ bytes, (GameGear.Z80Interpreter.step (running [0x18#8, 0xFE#8])).2.bus.fetched =
        [] ++ bytes ∧
      (Z80FlowAgrees bytes (running [0x18#8, 0xFE#8]) ↔
        ¬ z80Misdecoded bytes (running [0x18#8, 0xFE#8]))) ∧
    GbFlowAgrees true GameBoy.Core.beforeJump :=
  ⟨control_flow_decoded_iff (τ := GameBoy.Board).1 (running [0x18#8, 0xFE#8]) rfl rfl,
    (control_flow_decoded_iff (σ := ProgramMemory)).2 GameBoy.Core.beforeJump true rfl⟩

def jumpingDjnz : GameGear.Z80Interpreter (GameGear.FetchTrace ProgramMemory) :=
  { running [0x10#8, 0x00#8] with bc := 0x0200 }

def repeatingLdir : GameGear.Z80Interpreter (GameGear.FetchTrace ProgramMemory) :=
  { running [0xDD#8, 0xED#8, 0xB0#8] with bc := 2 }

/-- A DJNZ to the next address that jumps is decoded as one that does not, and an LDIR behind an
index prefix that repeats as one that goes back to the prefix. -/
theorem djnz_and_ldir_misdecoded :
    ((GameGear.Z80Interpreter.step jumpingDjnz).2.bus.fetched = [0x10#8, 0x00#8] ∧
      z80Transfers [0x10#8, 0x00#8] jumpingDjnz = true ∧
      (decodeZ80 [0x10#8, 0x00#8] jumpingDjnz.pc (GameGear.Z80Interpreter.step jumpingDjnz).2.pc
        (lo jumpingDjnz.af)).taken = false ∧
      ¬ Z80FlowAgrees [0x10#8, 0x00#8] jumpingDjnz) ∧
    (GameGear.Z80Interpreter.step repeatingLdir).2.bus.fetched = [0xDD#8, 0xED#8, 0xB0#8] ∧
      z80Transfers [0xDD#8, 0xED#8, 0xB0#8] repeatingLdir = true ∧
      (GameGear.Z80Interpreter.step repeatingLdir).2.pc = repeatingLdir.pc + 1 ∧
      z80DirectTarget [0xDD#8, 0xED#8, 0xB0#8] repeatingLdir.pc = ⟨true, repeatingLdir.pc⟩ ∧
      ¬ Z80FlowAgrees [0xDD#8, 0xED#8, 0xB0#8] repeatingLdir := by
  refine ⟨⟨by decide +kernel, by decide +kernel, by decide +kernel, fun h => ?_⟩,
    by decide +kernel, by decide +kernel, by decide +kernel, by decide +kernel, fun h => ?_⟩
  · exact absurd (h.1.taken (by decide +kernel)) (by decide +kernel)
  · exact absurd (h.1.target (by decide +kernel) (by decide +kernel)) (by decide +kernel)

end ProtoTime.Space
