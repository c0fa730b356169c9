import ProtoTime.GameGear.Z80Fetches

/-!
Where an instruction of the Z80 leaves the program counter: behind its bytes, or at the
destination of a transfer.
-/
namespace ProtoTime.GameGear
open GameBoy (Byte Addr hi lo word)
open Space (suffixLength isIndexPrefix)
open Stateful

namespace Z80Interpreter

section

variable {σ : Type} [Z80Bus σ]

/-- The state once the next `n` bytes have been fetched. -/
def afterFetches : ℕ → Z80Interpreter σ → Z80Interpreter σ
  | 0, c => c
  | n + 1, c => (fetch8 (afterFetches n c)).2

theorem afterFetches_pc (n : ℕ) (c : Z80Interpreter σ) :
    (afterFetches n c).pc = c.pc + BitVec.ofNat 16 n := by
  induction n with
  | zero => exact (BitVec.add_zero c.pc).symm
  | succ n ih =>
    rw [BitVec.ofNat_add, ← BitVec.add_assoc, ← ih]
    rfl

theorem afterFetches_eq (n : ℕ) (c : Z80Interpreter σ) :
    afterFetches n c =
      { c with pc := (afterFetches n c).pc, bus := (afterFetches n c).bus } := by
  induction n with
  | zero => rfl
  | succ n ih =>
    have hfetch (c : Z80Interpreter σ) :
        (fetch8 c).2 = { c with pc := (fetch8 c).2.pc, bus := (fetch8 c).2.bus } := rfl
    show (fetch8 (afterFetches n c)).2 = _
    conv_lhs => rw [ih]
    rfl

theorem afterFetches_add (n m : ℕ) (c : Z80Interpreter σ) :
    afterFetches (n + m) c = afterFetches m (afterFetches n c) := by
  induction m with
  | zero => rfl
  | succ m ih => exact congrArg (fun c => (fetch8 c).2) ih

theorem afterFetches_refresh (n : ℕ) (c : Z80Interpreter σ) (r : Byte) :
    afterFetches n { c with r := r } = { afterFetches n c with r := r } := by
  induction n with
  | zero => rfl
  | succ n ih =>
    show (fetch8 (afterFetches n { c with r := r })).2 = _
    rw [ih]
    rfl

/-- Whether a repeating block instruction goes on, in the state before its transfer. -/
def blockAgain (operation : ℕ) (c : Z80Interpreter σ) : Bool :=
  match operation with
  | 0 => c.bc - 1 != 0
  | 1 => c.bc - 1 != 0 && c.regA - (Z80Bus.memRead c.hl c.bus).1 != 0
  | _ => hi c.bc - 1 != 0

/-- Whether an instruction sets the program counter, in the state that has fetched it. -/
def transfers (op : Byte) (rest : List Byte) (c : Z80Interpreter σ) : Bool :=
  if op = 0x10#8 then hi c.bc - 1 != 0
  else if op ∈ [0x20#8, 0x28#8, 0x30#8, 0x38#8] then c.conditionMet (opcodeY op - 4)
  else if op &&& 0xC7#8 ∈ [0xC0#8, 0xC2#8, 0xC4#8] then c.conditionMet (opcodeY op)
  else if op = 0xED#8 then
    rest.headD 0 &&& 0xC7#8 == 0x45#8 ||
      (rest.headD 0 &&& 0xF4#8 == 0xB0#8 && blockAgain (opcodeZ (rest.headD 0)) c)
  else decide (op ∈ [0x18#8, 0xC3#8, 0xC9#8, 0xCD#8, 0xE9#8]) || op &&& 0xC7#8 == 0xC7#8

/-- Where a transfer leads. A repeating block instruction steps back over two bytes. -/
def destination (indexPrefix : Option Byte) (op : Byte) (rest : List Byte)
    (c : Z80Interpreter σ) : Addr :=
  if op ∈ [0x10#8, 0x18#8, 0x20#8, 0x28#8, 0x30#8, 0x38#8] then c.pc + displacement (rest.headD 0)
  else if op &&& 0xC7#8 = 0xC0#8 ∨ op = 0xC9#8 then (read16 c.sp c).1
  else if op = 0xED#8 then
    if rest.headD 0 &&& 0xC7#8 = 0x45#8 then (read16 c.sp c).1 else c.pc - 2
  else if op &&& 0xC7#8 = 0xC7#8 then (op &&& 0x38#8).setWidth 16
  else if op = 0xE9#8 then
    match indexPrefix with
    | none => c.hl
    | some indexPrefix => c.index indexPrefix
  else word (rest.getD 0 0) (rest.getD 1 0)

def nextPc (indexPrefix : Option Byte) (op : Byte) (rest : List Byte) (c : Z80Interpreter σ) :
    Addr :=
  if c.transfers op rest then c.destination indexPrefix op rest else c.pc

theorem executeBlock_pc (operation : ℕ) (direction : Addr) (repeats : Bool) (c : Z80Interpreter σ) :
    (executeBlock operation direction repeats c).2.pc =
      if repeats && blockAgain operation c then c.pc - 2 else c.pc := by
  have hrepeat (again : Bool) (c : Z80Interpreter σ) :
      (repeatBlock again c).2.pc = if again then c.pc - 2 else c.pc := by
    cases again with
    | true => rfl
    | false => rfl
  unfold executeBlock blockAgain
  split
  · exact hrepeat _ _
  · refine (hrepeat _ _).trans ?_
    rw [Bool.and_assoc]
    rfl
  · refine (hrepeat _ _).trans ?_
    show (if repeats && hi (word (lo c.bc) (hi c.bc - 1)) != 0 then c.pc - 2 else c.pc) = _
    rw [GameBoy.hi_word]
    rfl
  · next h0 h1 _ =>
    refine (hrepeat _ _).trans ?_
    show (if repeats && hi (word (lo c.bc) (hi c.bc - 1)) != 0 then c.pc - 2 else c.pc) = _
    rw [GameBoy.hi_word]
    rcases operation with _ | _ | operation
    · exact absurd rfl h0
    · exact absurd rfl h1
    · rfl

end

section

variable {σ : Type} [Z80Bus σ] {α : Type}

theorem executeBlock_fetched (operation : ℕ) (direction : Addr) (repeats : Bool)
    (c : Z80Interpreter (FetchTrace σ)) :
    (executeBlock operation direction repeats c).2.bus.fetched = c.bus.fetched := by
  have hrepeat (again : Bool) (c : Z80Interpreter (FetchTrace σ)) :
      (repeatBlock again c).2.bus.fetched = c.bus.fetched := by
    cases again with
    | true => rfl
    | false => rfl
  unfold executeBlock
  split
  · exact hrepeat _ _
  · exact hrepeat _ _
  · exact hrepeat _ _
  · exact hrepeat _ _

/-- The bytes behind an opcode that make its encoding complete. -/
def Complete (indexed : Bool) (op : Byte) (rest : List Byte) : Prop :=
  if op = 0xED#8 then
    ∃ ed tail, rest = ed :: tail ∧ tail.length = if ed &&& 0xC7#8 = 0x43#8 then 2 else 0
  else rest.length + 1 = suffixLength indexed op

/-- The computation fetches what makes the encoding of the opcode complete and leaves the program
counter where the instruction leads. -/
structure Ends (indexPrefix : Option Byte) (op : Byte) (m : Z80M (FetchTrace σ) α) : Prop where
  run : ∀ c, ∃ rest, Complete indexPrefix.isSome op rest ∧
    (m c).2.bus.fetched = c.bus.fetched ++ rest ∧
    (m c).2.pc = nextPc indexPrefix op rest (afterFetches rest.length c)

theorem suffixLength_pos (indexed : Bool) (op : Byte) : 0 < suffixLength indexed op := by
  unfold suffixLength
  repeat' split
  all_goals decide

variable {op : Byte}

theorem transfers_of_not (h : isTransfer op = false) (rest : List Byte)
    (c : Z80Interpreter σ) : transfers op rest c = false := by
  obtain ⟨⟨hdjnz, hjr, hjrs, hjp, hret, hcall, hjphl, hed⟩, hrets, hjps, hcalls, hrst⟩ :=
    not_isTransfer h
  unfold transfers
  rw [if_neg hdjnz, if_neg hjrs, if_neg, if_neg hed]
  · simp [hjr, hjp, hret, hcall, hjphl, hrst]
  · simp [hrets, hjps, hcalls]

theorem Ends.of_falls {indexPrefix : Option Byte} {m : Z80M (FetchTrace σ) α}
    (h : isTransfer op = false) (hm : Falls (suffixLength indexPrefix.isSome op - 1) m) :
    Ends indexPrefix op m := by
  constructor
  intro c
  obtain ⟨rest, hlength, hfetched, hpc⟩ := hm.run c
  refine ⟨rest, ?_, hfetched, ?_⟩
  · unfold Complete
    rw [if_neg (not_isTransfer h).1.2.2.2.2.2.2.2, hlength]
    exact Nat.sub_add_cancel (suffixLength_pos _ _)
  · unfold nextPc
    rw [transfers_of_not h, if_neg Bool.false_ne_true, afterFetches_pc, hlength]
    exact hpc

theorem suffixLength_of_transfer (h : isTransfer op = true) (indexed : Bool) :
    suffixLength indexed op = suffixLength false op := by
  revert indexed op
  decide +kernel

theorem Ends.of_run {indexPrefix : Option Byte} {m : Z80M (FetchTrace σ) α}
    (h : isTransfer op = true) (hed : op ≠ 0xED#8)
    (fetched : Z80Interpreter (FetchTrace σ) → List Byte)
    (hlength : ∀ c, (fetched c).length + 1 = suffixLength false op)
    (hrun : ∀ c, (m c).2.bus.fetched = c.bus.fetched ++ fetched c ∧
      (m c).2.pc = nextPc indexPrefix op (fetched c) (afterFetches (fetched c).length c)) :
    Ends indexPrefix op m := by
  constructor
  intro c
  refine ⟨fetched c, ?_, (hrun c).1, (hrun c).2⟩
  unfold Complete
  rw [if_neg hed, suffixLength_of_transfer h]
  exact hlength c

theorem jumpRelative_run (taken : Bool) (takenCycles otherCycles : ℕ)
    (c : Z80Interpreter (FetchTrace σ)) :
    (jumpRelative taken takenCycles otherCycles c).2.bus.fetched =
        c.bus.fetched ++ [(fetch8 c).1] ∧
      (jumpRelative taken takenCycles otherCycles c).2.pc =
        if taken then (fetch8 c).2.pc + displacement (fetch8 c).1 else (fetch8 c).2.pc := by
  cases taken with
  | true => exact ⟨rfl, rfl⟩
  | false => exact ⟨rfl, rfl⟩

theorem returnFrom_run (taken : Bool) (takenCycles otherCycles : ℕ)
    (c : Z80Interpreter (FetchTrace σ)) :
    (returnFrom taken takenCycles otherCycles c).2.bus.fetched = c.bus.fetched ++ [] ∧
      (returnFrom taken takenCycles otherCycles c).2.pc =
        if taken then (read16 c.sp c).1 else c.pc := by
  rw [List.append_nil]
  cases taken with
  | true => exact ⟨rfl, rfl⟩
  | false => exact ⟨rfl, rfl⟩

variable (c : Z80Interpreter (FetchTrace σ))

def addressBytes : List Byte :=
  [(fetch8 c).1, (fetch8 (fetch8 c).2).1]

theorem fetch16_fetched : (fetch16 c).2.bus.fetched = c.bus.fetched ++ addressBytes c :=
  List.append_assoc _ _ _

theorem absolute_run {m : Bool → Z80M (FetchTrace σ) ℕ} (hm : m = jumpAbsolute ∨ m = callAbsolute)
    (taken : Bool) (c : Z80Interpreter (FetchTrace σ)) :
    (m taken c).2.bus.fetched = c.bus.fetched ++ addressBytes c ∧
      (m taken c).2.pc =
        if taken then word (fetch8 c).1 (fetch8 (fetch8 c).2).1 else (afterFetches 2 c).pc := by
  rw [← fetch16_fetched]
  rcases hm with rfl | rfl <;> cases taken <;> exact ⟨rfl, rfl⟩

theorem masked_cases (op : Byte) :
    (op &&& 0xC7#8 = 0xC0#8 → op = 0xC0#8 ∨ op = 0xC8#8 ∨ op = 0xD0#8 ∨ op = 0xD8#8 ∨
        op = 0xE0#8 ∨ op = 0xE8#8 ∨ op = 0xF0#8 ∨ op = 0xF8#8) ∧
      (op &&& 0xC7#8 = 0xC2#8 → op = 0xC2#8 ∨ op = 0xCA#8 ∨ op = 0xD2#8 ∨ op = 0xDA#8 ∨
        op = 0xE2#8 ∨ op = 0xEA#8 ∨ op = 0xF2#8 ∨ op = 0xFA#8) ∧
      (op &&& 0xC7#8 = 0xC4#8 → op = 0xC4#8 ∨ op = 0xCC#8 ∨ op = 0xD4#8 ∨ op = 0xDC#8 ∨
        op = 0xE4#8 ∨ op = 0xEC#8 ∨ op = 0xF4#8 ∨ op = 0xFC#8) ∧
      (op &&& 0xC7#8 = 0xC7#8 → op = 0xC7#8 ∨ op = 0xCF#8 ∨ op = 0xD7#8 ∨ op = 0xDF#8 ∨
        op = 0xE7#8 ∨ op = 0xEF#8 ∨ op = 0xF7#8 ∨ op = 0xFF#8) := by
  refine ⟨?_, ?_, ?_, ?_⟩ <;> revert op <;> decide +kernel

variable (indexPrefix : Option Byte)

theorem ends_relative (h : op ∈ [0x20#8, 0x28#8, 0x30#8, 0x38#8]) :
    Ends indexPrefix op (executeUnprefixed op : Z80M (FetchTrace σ) ℕ) := by
  simp only [List.mem_cons, List.not_mem_nil, or_false] at h
  rcases h with rfl | rfl | rfl | rfl
  all_goals
    refine .of_run rfl (by decide) (fun c => [(fetch8 c).1]) (fun _ => rfl) fun c => ?_
    exact jumpRelative_run (c.conditionMet _) 12 7 c

theorem ends_return (h : op &&& 0xC7#8 = 0xC0#8) :
    Ends indexPrefix op (executeUnprefixed op : Z80M (FetchTrace σ) ℕ) := by
  rcases (masked_cases op).1 h with rfl | rfl | rfl | rfl | rfl | rfl | rfl | rfl
  all_goals
    refine .of_run rfl (by decide) (fun _ => []) (fun _ => rfl) fun c => ?_
    exact returnFrom_run (c.conditionMet _) 11 5 c

theorem ends_jump (h : op &&& 0xC7#8 = 0xC2#8) :
    Ends indexPrefix op (executeUnprefixed op : Z80M (FetchTrace σ) ℕ) := by
  rcases (masked_cases op).2.1 h with rfl | rfl | rfl | rfl | rfl | rfl | rfl | rfl
  all_goals
    refine .of_run rfl (by decide) addressBytes (fun _ => rfl) fun c => ?_
    exact absolute_run (.inl rfl) (c.conditionMet _) c

theorem ends_call (h : op &&& 0xC7#8 = 0xC4#8) :
    Ends indexPrefix op (executeUnprefixed op : Z80M (FetchTrace σ) ℕ) := by
  rcases (masked_cases op).2.2.1 h with rfl | rfl | rfl | rfl | rfl | rfl | rfl | rfl
  all_goals
    refine .of_run rfl (by decide) addressBytes (fun _ => rfl) fun c => ?_
    exact absolute_run (.inr rfl) (c.conditionMet _) c

theorem ends_restart (h : op &&& 0xC7#8 = 0xC7#8) :
    Ends indexPrefix op (executeUnprefixed op : Z80M (FetchTrace σ) ℕ) := by
  rcases (masked_cases op).2.2.2 h with rfl | rfl | rfl | rfl | rfl | rfl | rfl | rfl
  all_goals
    refine .of_run rfl (by decide) (fun _ => []) (fun _ => rfl) fun c => ⟨?_, rfl⟩
    exact (List.append_nil _).symm

theorem djnz_run :
    (executeUnprefixed 0x10#8 c).2.bus.fetched = c.bus.fetched ++ [(fetch8 c).1] ∧
      (executeUnprefixed 0x10#8 c).2.pc =
        if hi c.bc - 1 != 0 then (fetch8 c).2.pc + displacement (fetch8 c).1
        else (fetch8 c).2.pc := by
  have happly : executeUnprefixed 0x10#8 c =
      (if hi c.bc - 1 ≠ 0 then (13, { (fetch8 c).2 with
            bc := word (lo c.bc) (hi c.bc - 1)
            pc := (fetch8 c).2.pc + displacement (fetch8 c).1 })
        else (8, { (fetch8 c).2 with bc := word (lo c.bc) (hi c.bc - 1) })) := by
    show (if hi c.bc - 1 ≠ 0 then _ else _ : Z80M (FetchTrace σ) ℕ) _ = _
    split <;> rfl
  rw [happly]
  by_cases hb : hi c.bc - 1 = 0
  · rw [if_neg (not_not.mpr hb), hb]
    exact ⟨rfl, rfl⟩
  · rw [if_pos hb, if_pos (bne_iff_ne.mpr hb)]
    exact ⟨rfl, rfl⟩

theorem ends_djnz :
    Ends indexPrefix 0x10#8 (executeUnprefixed 0x10#8 : Z80M (FetchTrace σ) ℕ) :=
  .of_run rfl (by decide) (fun c => [(fetch8 c).1]) (fun _ => rfl) djnz_run

theorem ends_always (h : op ∈ [0x18#8, 0xC3#8, 0xC9#8, 0xCD#8]) :
    Ends indexPrefix op (executeUnprefixed op : Z80M (FetchTrace σ) ℕ) := by
  simp only [List.mem_cons, List.not_mem_nil, or_false] at h
  rcases h with rfl | rfl | rfl | rfl
  · refine .of_run rfl (by decide) (fun c => [(fetch8 c).1]) (fun _ => rfl) fun c => ⟨?_, ?_⟩
    · exact (jumpRelative_run true 12 12 c).1
    · exact (jumpRelative_run true 12 12 c).2.trans rfl
  · refine .of_run rfl (by decide) addressBytes (fun _ => rfl) fun c => ⟨?_, ?_⟩
    · exact (absolute_run (.inl rfl) true c).1
    · exact (absolute_run (.inl rfl) true c).2.trans rfl
  · refine .of_run rfl (by decide) (fun _ => []) (fun _ => rfl) fun c => ⟨?_, ?_⟩
    · exact (returnFrom_run true 10 10 c).1
    · exact (returnFrom_run true 10 10 c).2.trans rfl
  · refine .of_run rfl (by decide) addressBytes (fun _ => rfl) fun c => ⟨?_, ?_⟩
    · exact (absolute_run (.inr rfl) true c).1
    · exact (absolute_run (.inr rfl) true c).2.trans rfl

theorem ends_register :
    Ends none 0xE9#8 (executeUnprefixed 0xE9#8 : Z80M (FetchTrace σ) ℕ) :=
  .of_run rfl (by decide) (fun _ => []) (fun _ => rfl) fun _ => ⟨(List.append_nil _).symm, rfl⟩

theorem ed_groups (ed : Byte) :
    (ed &&& 0xC7#8 = 0x43#8 ↔ opcodeX ed = 1 ∧ opcodeZ ed = 3) ∧
      (ed &&& 0xC7#8 = 0x45#8 ↔ opcodeX ed = 1 ∧ opcodeZ ed = 5) ∧
      (ed &&& 0xF4#8 = 0xB0#8 ↔ (opcodeX ed = 2 ∧ 4 ≤ opcodeY ed ∧ opcodeZ ed ≤ 3) ∧
        6 ≤ opcodeY ed) := by
  revert ed
  decide +kernel

theorem nextPc_refresh (op : Byte) (rest : List Byte) (c : Z80Interpreter σ) (r : Byte) :
    nextPc indexPrefix op rest { c with r := r } = nextPc indexPrefix op rest c := rfl

theorem nextPc_ed (ed : Byte) (tail : List Byte) (c : Z80Interpreter σ) :
    nextPc indexPrefix 0xED#8 (ed :: tail) c =
      if ed &&& 0xC7#8 = 0x45#8 then (read16 c.sp c).1
      else if ed &&& 0xF4#8 = 0xB0#8 ∧ blockAgain (opcodeZ ed) c = true then c.pc - 2
      else c.pc := by
  have htransfers : transfers 0xED#8 (ed :: tail) c =
      (ed &&& 0xC7#8 == 0x45#8 || (ed &&& 0xF4#8 == 0xB0#8 && blockAgain (opcodeZ ed) c)) := rfl
  have hdestination : destination indexPrefix 0xED#8 (ed :: tail) c =
      if ed &&& 0xC7#8 = 0x45#8 then (read16 c.sp c).1 else c.pc - 2 := rfl
  unfold nextPc
  rw [htransfers, hdestination]
  by_cases hreturn : ed &&& 0xC7#8 = 0x45#8
  · simp [hreturn]
  · simp [hreturn]

/-- What the ED table fetches behind its opcode, and where it leaves the program counter. -/
theorem executeEdOpcode_run (ed : Byte) (c : Z80Interpreter (FetchTrace σ)) :
    ∃ tail, tail.length = (if ed &&& 0xC7#8 = 0x43#8 then 2 else 0) ∧
      (executeEdOpcode ed c).2.bus.fetched = c.bus.fetched ++ tail ∧
      (executeEdOpcode ed c).2.pc =
        nextPc indexPrefix 0xED#8 (ed :: tail) (afterFetches tail.length c) := by
  obtain ⟨haddress, hreturn, hrepeats⟩ := ed_groups ed
  -- A fall through the table.
  have hfalls {n : ℕ} (hn : n = if ed &&& 0xC7#8 = 0x43#8 then 2 else 0)
      (h45 : ed &&& 0xC7#8 ≠ 0x45#8) (hB0 : ed &&& 0xF4#8 ≠ 0xB0#8)
      (hfalls : Falls n (executeEdOpcode ed : Z80M (FetchTrace σ) ℕ)) :
      ∃ tail, tail.length = (if ed &&& 0xC7#8 = 0x43#8 then 2 else 0) ∧
        (executeEdOpcode ed c).2.bus.fetched = c.bus.fetched ++ tail ∧
        (executeEdOpcode ed c).2.pc =
          nextPc indexPrefix 0xED#8 (ed :: tail) (afterFetches tail.length c) := by
    obtain ⟨tail, hlength, hfetched, hpc⟩ := hfalls.run c
    refine ⟨tail, hlength.trans hn, hfetched, ?_⟩
    rw [nextPc_ed, if_neg h45, if_neg fun h => hB0 h.1, afterFetches_pc, hlength]
    exact hpc
  unfold executeEdOpcode at hfalls ⊢
  dsimp only at hfalls ⊢
  by_cases hX : opcodeX ed = 1
  · rw [if_pos hX] at hfalls ⊢
    have hB0 : ed &&& 0xF4#8 ≠ 0xB0#8 := by
      intro h
      have htwo := (hrepeats.mp h).1.1
      omega
    by_cases hthree : opcodeZ ed = 3
    · refine hfalls (if_pos (haddress.mpr ⟨hX, hthree⟩)).symm ?_ hB0 ?_
      · intro h
        have hfive := (hreturn.mp h).2
        omega
      · rw [hthree]
        exact .get_bind fun c => falls_fetch16.bind_quiet fun address =>
          quietFrame.bind (stays_executeEdAddress quietFrame _ _ c address) fun _ =>
            quietFrame.pure _
    · have h43 : ed &&& 0xC7#8 ≠ 0x43#8 := fun h => hthree (haddress.mp h).2
      by_cases hfive : opcodeZ ed = 5
      · refine ⟨[], (if_neg h43).symm, ?_, ?_⟩
        · rw [hfive, List.append_nil]
          rfl
        · rw [nextPc_ed, if_pos (hreturn.mpr ⟨hX, hfive⟩), hfive]
          rfl
      · exact hfalls (if_neg h43).symm (fun h => hfive (hreturn.mp h).2) hB0
          (.quiet (stays_executeEdData quietFrame _ hthree hfive))
  · rw [if_neg hX] at hfalls ⊢
    have h43 : ed &&& 0xC7#8 ≠ 0x43#8 := fun h => hX (haddress.mp h).1
    have h45 : ed &&& 0xC7#8 ≠ 0x45#8 := fun h => hX (hreturn.mp h).1
    by_cases hblock : opcodeX ed = 2 ∧ 4 ≤ opcodeY ed ∧ opcodeZ ed ≤ 3
    · rw [if_pos hblock]
      refine ⟨[], (if_neg h43).symm, ?_, ?_⟩
      · rw [executeBlock_fetched, List.append_nil]
      · rw [executeBlock_pc, nextPc_ed, if_neg h45]
        by_cases hsix : 6 ≤ opcodeY ed
        · simp [hsix, hrepeats.mpr ⟨hblock, hsix⟩, afterFetches]
        · have hB0 : ed &&& 0xF4#8 ≠ 0xB0#8 := fun h => hsix (hrepeats.mp h).2
          simp [hsix, hB0, afterFetches]
    · rw [if_neg hblock] at hfalls ⊢
      exact hfalls (if_neg h43).symm h45 (fun h => hblock (hrepeats.mp h).1)
        (.quiet (quietFrame.pure _))

theorem ends_ed :
    Ends indexPrefix 0xED#8 (executeUnprefixed 0xED#8 : Z80M (FetchTrace σ) ℕ) := by
  constructor
  intro c
  obtain ⟨tail, hlength, hfetched, hpc⟩ :=
    executeEdOpcode_run indexPrefix (fetchOpcode c).1 (fetchOpcode c).2
  refine ⟨(fetch8 c).1 :: tail, ?_, ?_, ?_⟩
  · exact ⟨(fetch8 c).1, tail, rfl, hlength⟩
  · refine hfetched.trans ?_
    exact List.append_assoc c.bus.fetched [(fetch8 c).1] tail
  · refine hpc.trans ?_
    have hstate : (fetchOpcode c).2 =
        { afterFetches 1 c with r := c.incRefresh.r } := rfl
    rw [hstate, afterFetches_refresh, nextPc_refresh, ← afterFetches_add, Nat.add_comm]
    rfl

theorem isTransfer_cases (h : isTransfer op = true) :
    op ∈ [0x20#8, 0x28#8, 0x30#8, 0x38#8] ∨ op ∈ [0x18#8, 0xC3#8, 0xC9#8, 0xCD#8] ∨ op = 0x10#8 ∨
      op = 0xE9#8 ∨ op = 0xED#8 ∨ op &&& 0xC7#8 = 0xC0#8 ∨ op &&& 0xC7#8 = 0xC2#8 ∨
      op &&& 0xC7#8 = 0xC4#8 ∨ op &&& 0xC7#8 = 0xC7#8 := by
  simp only [isTransfer, List.mem_cons, List.not_mem_nil, or_false, Bool.or_eq_true,
    decide_eq_true_eq] at h ⊢
  tauto

theorem ends_transfer (h : isTransfer op = true) (hregister : op ≠ 0xE9#8) :
    Ends indexPrefix op (executeUnprefixed op : Z80M (FetchTrace σ) ℕ) := by
  rcases isTransfer_cases h with h | h | rfl | h | rfl | h | h | h | h
  · exact ends_relative indexPrefix h
  · exact ends_always indexPrefix h
  · exact ends_djnz indexPrefix
  · exact absurd h hregister
  · exact ends_ed indexPrefix
  · exact ends_return indexPrefix h
  · exact ends_jump indexPrefix h
  · exact ends_call indexPrefix h
  · exact ends_restart indexPrefix h

theorem ends_executeUnprefixed (op : Byte) :
    Ends none op (executeUnprefixed op : Z80M (FetchTrace σ) ℕ) := by
  cases h : isTransfer op with
  | false => exact .of_falls h (falls_executeUnprefixed h)
  | true =>
    by_cases hregister : op = 0xE9#8
    · rw [hregister]
      exact ends_register
    · exact ends_transfer none h hregister

theorem not_indexed_of_transfer (h : isTransfer op = true) (hregister : op ≠ 0xE9#8) :
    op ∉ [0xCB#8, 0x09#8, 0x19#8, 0x21#8, 0x22#8, 0x23#8, 0x24#8, 0x25#8, 0x26#8, 0x29#8, 0x2A#8,
      0x2B#8, 0x2C#8, 0x2D#8, 0x2E#8, 0x34#8, 0x35#8, 0x36#8, 0x39#8, 0xE1#8, 0xE3#8, 0xE5#8,
      0xE9#8, 0xF9#8, 0x76#8] ∧
      op &&& 0xC7#8 ≠ 0x06#8 ∧ op &&& 0xC0#8 ≠ 0x40#8 ∧ op &&& 0xC0#8 ≠ 0x80#8 := by
  revert op
  decide +kernel

theorem executeIndexedOpcode_of_transfer (indexPrefix : Byte)
    (h : isTransfer op = true) (hregister : op ≠ 0xE9#8) (c : Z80Interpreter (FetchTrace σ)) :
    (executeIndexedOpcode indexPrefix op c).2 = (executeUnprefixed op c).2 := by
  obtain ⟨hlist, h06, h40, h80⟩ := not_indexed_of_transfer h hregister
  simp only [List.mem_cons, List.not_mem_nil, or_false, not_or] at hlist
  have happly : executeIndexedOpcode indexPrefix op =
      (get >>= fun _ => do
        let cycles ← executeUnprefixed op
        return 4 + cycles : Z80M (FetchTrace σ) ℕ) := by
    unfold executeIndexedOpcode
    simp only [hlist, h06, h40, h80, false_and, if_false]
  rw [happly]
  rfl

theorem ends_executeIndexedOpcode (indexPrefix op : Byte) :
    Ends (some indexPrefix) op (executeIndexedOpcode indexPrefix op : Z80M (FetchTrace σ) ℕ) := by
  cases h : isTransfer op with
  | false => exact .of_falls h (falls_executeIndexedOpcode indexPrefix h)
  | true =>
    by_cases hregister : op = 0xE9#8
    · subst hregister
      exact .of_run rfl (by decide) (fun _ => []) (fun _ => rfl) fun _ =>
        ⟨(List.append_nil _).symm, rfl⟩
    · constructor
      intro c
      rw [executeIndexedOpcode_of_transfer indexPrefix h hregister]
      exact (ends_transfer (some indexPrefix) h hregister).run c

/-- The second state has fetched `n` bytes more; the refresh register counts the opcodes. -/
def Fetched (n : ℕ) (c c' : Z80Interpreter (FetchTrace σ)) : Prop :=
  ∃ r, c' = { afterFetches n c with r := r }

theorem Fetched.trans {n m : ℕ} {c c' c'' : Z80Interpreter (FetchTrace σ)} (h : Fetched n c c')
    (h' : Fetched m c' c'') : Fetched (n + m) c c'' := by
  obtain ⟨r, rfl⟩ := h
  obtain ⟨r', rfl⟩ := h'
  refine ⟨r', ?_⟩
  rw [afterFetches_refresh, afterFetches_add]

theorem fetched_fetchOpcode : Fetched 1 c (fetchOpcode c).2 :=
  ⟨c.incRefresh.r, rfl⟩

theorem fetchOpcode_fetched :
    (fetchOpcode c).2.bus.fetched = c.bus.fetched ++ [(fetchOpcode c).1] := rfl

theorem Fetched.nextPc {n : ℕ} {c c' : Z80Interpreter (FetchTrace σ)} (h : Fetched n c c')
    (indexPrefix : Option Byte) (op : Byte) (rest : List Byte) (m : ℕ) :
    nextPc indexPrefix op rest (afterFetches m c') =
      nextPc indexPrefix op rest (afterFetches (n + m) c) := by
  obtain ⟨r, rfl⟩ := h
  rw [afterFetches_refresh, nextPc_refresh, afterFetches_add]

theorem isIndexPrefix_iff (byte : Byte) :
    isIndexPrefix byte = true ↔ byte = 0xDD#8 ∨ byte = 0xFD#8 := by
  simp [isIndexPrefix]

/-- A chain of index prefixes ends at the limit or with the first other byte. -/
theorem fetchPrefixed_run (n : ℕ) (lastPrefix : Byte) (cycles : ℕ)
    (c : Z80Interpreter (FetchTrace σ)) :
    ∃ prefixes : List Byte, (∀ byte ∈ prefixes, isIndexPrefix byte = true) ∧
      ((prefixes.length = n ∧ (fetchPrefixed n lastPrefix cycles c).1.1 = none ∧
          (fetchPrefixed n lastPrefix cycles c).2.bus.fetched = c.bus.fetched ++ prefixes ∧
          Fetched n c (fetchPrefixed n lastPrefix cycles c).2) ∨
        ∃ op, prefixes.length < n ∧ isIndexPrefix op = false ∧
          (fetchPrefixed n lastPrefix cycles c).1.1 =
            some ((lastPrefix :: prefixes).getLast (List.cons_ne_nil _ _), op) ∧
          (fetchPrefixed n lastPrefix cycles c).2.bus.fetched =
            c.bus.fetched ++ (prefixes ++ [op]) ∧
          Fetched (prefixes.length + 1) c (fetchPrefixed n lastPrefix cycles c).2) := by
  induction n generalizing lastPrefix cycles c with
  | zero => exact ⟨[], nofun, .inl ⟨rfl, rfl, (List.append_nil _).symm, c.r, rfl⟩⟩
  | succ n ih =>
    have happly : fetchPrefixed (n + 1) lastPrefix cycles c =
        if (fetchOpcode c).1 = 0xDD#8 ∨ (fetchOpcode c).1 = 0xFD#8 then
          fetchPrefixed n (fetchOpcode c).1 (cycles + 4) (fetchOpcode c).2
        else ((some (lastPrefix, (fetchOpcode c).1), cycles), (fetchOpcode c).2) := by
      show (if (fetchOpcode c).1 = 0xDD#8 ∨ (fetchOpcode c).1 = 0xFD#8 then _ else _ :
        Z80M (FetchTrace σ) (Option (Byte × Byte) × ℕ)) (fetchOpcode c).2 = _
      split <;> rfl
    rw [happly]
    have hone := fetched_fetchOpcode c
    have hbytes := fetchOpcode_fetched c
    generalize fetchOpcode c = fetched at hone hbytes ⊢
    obtain ⟨byte, c'⟩ := fetched
    by_cases hprefix : byte = 0xDD#8 ∨ byte = 0xFD#8
    · rw [if_pos hprefix]
      have hfirst := (isIndexPrefix_iff byte).mpr hprefix
      obtain ⟨prefixes, hall, hends⟩ := ih byte (cycles + 4) c'
      refine ⟨byte :: prefixes, List.forall_mem_cons.mpr ⟨hfirst, hall⟩, ?_⟩
      rcases hends with ⟨hlength, hnone, hfetched, hstate⟩ |
        ⟨op, hlength, hop, hsome, hfetched, hstate⟩
      · left
        refine ⟨congrArg (· + 1) hlength, hnone, ?_, ?_⟩
        · rw [hfetched, hbytes, List.append_assoc]
          rfl
        · rw [Nat.add_comm]
          exact hone.trans hstate
      · right
        refine ⟨op, Nat.succ_lt_succ hlength, hop, hsome, ?_, ?_⟩
        · rw [hfetched, hbytes, List.append_assoc]
          rfl
        · have hboth := hone.trans hstate
          rwa [Nat.add_comm] at hboth
    · rw [if_neg hprefix]
      refine ⟨[], nofun, .inr ⟨byte, Nat.succ_pos n, ?_, rfl, hbytes, hone⟩⟩
      rw [← Bool.not_eq_true, isIndexPrefix_iff]
      exact hprefix

omit [Z80Bus σ] in
theorem countDelay_same : c.countDelay.bus = c.bus ∧ c.countDelay.pc = c.pc := by
  unfold countDelay
  split
  · split <;> exact ⟨rfl, rfl⟩
  · exact ⟨rfl, rfl⟩

/-- What the bytes of an instruction are, and where it leaves the program counter: index prefixes
through the whole address space, or prefixes, an opcode and what makes its encoding complete. -/
inductive Executed (c : Z80Interpreter (FetchTrace σ)) : List Byte → Addr → Prop
  | chain (prefixes : List Byte) (all : ∀ byte ∈ prefixes, isIndexPrefix byte = true)
      (length : prefixes.length = 65536) : Executed c prefixes (afterFetches 65536 c).pc
  | opcode (prefixes : List Byte) (op : Byte) (rest : List Byte)
      (all : ∀ byte ∈ prefixes, isIndexPrefix byte = true) (length : prefixes.length < 65536)
      (other : isIndexPrefix op = false) (complete : Complete (!prefixes.isEmpty) op rest) :
      Executed c (prefixes ++ op :: rest)
        (nextPc prefixes.getLast? op rest (afterFetches (prefixes.length + 1 + rest.length) c))

theorem executeOpcode_run :
    ∃ bytes pc, Executed c bytes pc ∧
      (executeOpcode (fetchOpcode c).1 (fetchOpcode c).2).2.bus.fetched = c.bus.fetched ++ bytes ∧
      (executeOpcode (fetchOpcode c).1 (fetchOpcode c).2).2.pc = pc := by
  have hone := fetched_fetchOpcode c
  have hbytes := fetchOpcode_fetched c
  generalize fetchOpcode c = fetched at hone hbytes ⊢
  obtain ⟨byte, c'⟩ := fetched
  dsimp only at hone hbytes ⊢
  have hlimit : kMaxIndexPrefixesPerStep - 1 = 65535 := rfl
  unfold executeOpcode
  generalize kMaxIndexPrefixesPerStep - 1 = limit at hlimit ⊢
  by_cases hprefix : byte = 0xDD#8 ∨ byte = 0xFD#8
  · rw [if_pos hprefix]
    have hfirst := (isIndexPrefix_iff byte).mpr hprefix
    obtain ⟨prefixes, hall, hends⟩ := fetchPrefixed_run limit byte 0 c'
    have happly : (fetchPrefixed limit byte 0 >>= fun found => executeFound found.1 found.2) c' =
        executeFound (fetchPrefixed limit byte 0 c').1.1 (fetchPrefixed limit byte 0 c').1.2
          (fetchPrefixed limit byte 0 c').2 := rfl
    rw [happly]
    generalize fetchPrefixed limit byte 0 c' = found at hends ⊢
    obtain ⟨⟨found, cycles⟩, c''⟩ := found
    dsimp only at hends ⊢
    have hchain : ∀ b ∈ byte :: prefixes, isIndexPrefix b = true :=
      List.forall_mem_cons.mpr ⟨hfirst, hall⟩
    rcases hends with ⟨hlength, rfl, hfetched, hstate⟩ |
      ⟨op, hlength, hop, rfl, hfetched, hstate⟩
    · have hcount : 1 + limit = 65536 := by omega
      refine ⟨byte :: prefixes, _, .chain _ hchain ?_, ?_, ?_⟩
      · rw [List.length_cons, hlength, Nat.add_comm, hcount]
      · show c''.bus.fetched = _
        rw [hfetched, hbytes, List.append_assoc]
        rfl
      · show c''.pc = _
        obtain ⟨r, hr⟩ := hone.trans hstate
        rw [hr, hcount]
    · have hsecond : executeFound (some ((byte :: prefixes).getLast (List.cons_ne_nil _ _), op))
          cycles c'' = (cycles + (executeIndexedOpcode ((byte :: prefixes).getLast
            (List.cons_ne_nil _ _)) op c'').1, (executeIndexedOpcode ((byte :: prefixes).getLast
            (List.cons_ne_nil _ _)) op c'').2) := rfl
      rw [hsecond]
      have hends := ends_executeIndexedOpcode (σ := σ)
        ((byte :: prefixes).getLast (List.cons_ne_nil _ _)) op
      obtain ⟨rest, hcomplete, hrest, hpc⟩ := hends.run c''
      refine ⟨(byte :: prefixes) ++ op :: rest, _,
        .opcode (byte :: prefixes) op rest hchain ?_ hop hcomplete, ?_, ?_⟩
      · rw [List.length_cons]
        omega
      · rw [hrest, hfetched, hbytes]
        simp
      · have hcount : 1 + (prefixes.length + 1) + rest.length =
            (byte :: prefixes).length + 1 + rest.length := by
          rw [List.length_cons]
          omega
        rw [hpc, (hone.trans hstate).nextPc, hcount,
          List.getLast?_eq_some_getLast (List.cons_ne_nil _ _)]
  · rw [if_neg hprefix]
    obtain ⟨rest, hcomplete, hrest, hpc⟩ := (ends_executeUnprefixed (σ := σ) byte).run c'
    refine ⟨[] ++ byte :: rest, _, .opcode [] byte rest nofun (by decide) ?_ hcomplete, ?_, ?_⟩
    · rw [← Bool.not_eq_true, isIndexPrefix_iff]
      exact hprefix
    · rw [hrest, hbytes, List.append_assoc]
      rfl
    · rw [hpc, hone.nextPc]
      rfl

theorem polled_of_not {c : Z80Interpreter (FetchTrace σ)} (h : c.accepts = false) :
    ∃ bus, bus.fetched = c.bus.fetched ∧ (handleInterrupts c).2 = { c with bus := bus } := by
  rw [handleInterrupts_apply]
  by_cases hoff : c.ime = false ∨ c.iff1 = false
  · rw [if_pos hoff]
    exact ⟨c.bus, rfl, rfl⟩
  · rw [if_neg hoff]
    simp only [not_or, Bool.not_eq_false] at hoff
    simp only [accepts, hoff.1, hoff.2, Bool.and_self, Bool.true_and] at h
    have hbus : (Z80Bus.interruptRequest c.bus).2.fetched = c.bus.fetched := rfl
    rcases hanswer : Z80Bus.interruptRequest c.bus with ⟨_ | vector, bus⟩
    · rw [hanswer] at hbus
      exact ⟨bus, hbus, rfl⟩
    · rw [hanswer] at h
      cases h

theorem step_run {c : Z80Interpreter (FetchTrace σ)} (haccepts : c.accepts = false)
    (hhalted : c.halted = false) :
    ∃ bytes pc, Executed (handleInterrupts c).2 bytes pc ∧
      (step c).2.bus.fetched = c.bus.fetched ++ bytes ∧ (step c).2.pc = pc := by
  obtain ⟨bus, hbus, hpolled⟩ := polled_of_not haccepts
  have hrunning : ¬ (handleInterrupts c).2.halted = true := by
    rw [hpolled]
    exact Bool.eq_false_iff.mp hhalted
  rw [step_apply, if_neg (not_not.mpr (handleInterrupts_of_not haccepts).1), if_neg hrunning,
    ← hbus, show bus = (handleInterrupts c).2.bus by rw [hpolled]]
  generalize (handleInterrupts c).2 = polled
  obtain ⟨bytes, pc, hexecuted, hfetched, hpc⟩ := executeOpcode_run polled
  have happly : (executeInstruction polled).2 =
      (executeOpcode (fetchOpcode polled).1 (fetchOpcode polled).2).2.countDelay := rfl
  rw [happly, (countDelay_same _).1, (countDelay_same _).2]
  exact ⟨bytes, pc, hexecuted, hfetched, hpc⟩

end

end Z80Interpreter

end ProtoTime.GameGear
