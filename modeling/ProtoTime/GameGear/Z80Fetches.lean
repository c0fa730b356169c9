import ProtoTime.GameGear.Z80EnableDelay
import ProtoTime.Space.Decoding

/-!
What the Z80 fetches for an instruction and where the instruction leaves the program counter.
A bus that keeps the fetched bytes makes the fetches of a step visible.
-/
namespace ProtoTime.GameGear
open GameBoy (Byte Addr hi lo word)
open Space (suffixLength)
open Stateful

/-- A bus with the bytes fetched through it, the oldest first. -/
structure FetchTrace (σ : Type) where
  bus : σ
  fetched : List Byte

instance fetchTraceBus {σ : Type} [Z80Bus σ] : Z80Bus (FetchTrace σ) where
  memRead address t :=
    let (value, bus) := Z80Bus.memRead address t.bus
    (value, { t with bus := bus })
  memFetch address t :=
    let (value, bus) := Z80Bus.memFetch address t.bus
    (value, ⟨bus, t.fetched ++ [value]⟩)
  memWrite address value t := { t with bus := Z80Bus.memWrite address value t.bus }
  readIo port t :=
    let (value, bus) := Z80Bus.readIo port t.bus
    (value, { t with bus := bus })
  writeIo port value t := { t with bus := Z80Bus.writeIo port value t.bus }
  interruptRequest t :=
    let (vector, bus) := Z80Bus.interruptRequest t.bus
    (vector, { t with bus := bus })

namespace Z80Interpreter

variable {σ : Type} {α β : Type}

/-- Neither a fetch nor a change of the program counter. -/
def Quiet (c c' : Z80Interpreter (FetchTrace σ)) : Prop :=
  c'.bus.fetched = c.bus.fetched ∧ c'.pc = c.pc

theorem SameControl.quiet {c c' : Z80Interpreter (FetchTrace σ)} (h : c.SameControl c') :
    c.Quiet c' :=
  ⟨congrArg FetchTrace.fetched h.1.1, h.2⟩

theorem quietFrame [Z80Bus σ] : DataFrame (Quiet : Z80Interpreter (FetchTrace σ) → _ → Prop) where
  refl _ := ⟨rfl, rfl⟩
  trans _ _ _ h h' := ⟨h'.1.trans h.1, h'.2.trans h.2⟩
  data _ _ h := h.quiet
  memRead _ _ := ⟨rfl, rfl⟩
  memWrite _ _ _ := ⟨rfl, rfl⟩
  readIo _ _ := ⟨rfl, rfl⟩
  writeIo _ _ _ := ⟨rfl, rfl⟩

/-- The computation fetches `n` bytes and leaves the program counter behind them. -/
structure Falls (n : ℕ) (m : Z80M (FetchTrace σ) α) : Prop where
  run : ∀ c, ∃ bytes, bytes.length = n ∧ (m c).2.bus.fetched = c.bus.fetched ++ bytes ∧
    (m c).2.pc = c.pc + BitVec.ofNat 16 n

variable {m : Z80M (FetchTrace σ) α}

theorem Falls.quiet (h : Stays Quiet m) : Falls 0 m := by
  refine ⟨fun c => ⟨[], rfl, ?_, ?_⟩⟩
  · rw [(h c).1, List.append_nil]
  · rw [(h c).2, BitVec.add_zero]

variable {f : α → Z80M (FetchTrace σ) β} {n : ℕ}

theorem Falls.bind {k : ℕ}
    (hm : Falls k m) (hf : ∀ a, Falls n (f a)) : Falls (n + k) (m >>= f) := by
  constructor
  intro c
  obtain ⟨first, hfirst, hfetched, hpc⟩ := hm.run c
  obtain ⟨rest, hrest, hfetched', hpc'⟩ := (hf (m c).1).run (m c).2
  refine ⟨first ++ rest, ?_, ?_, ?_⟩
  · rw [List.length_append, hfirst, hrest, Nat.add_comm]
  · rw [← List.append_assoc, ← hfetched]
    exact hfetched'
  · rw [Nat.add_comm, BitVec.ofNat_add, ← BitVec.add_assoc, ← hpc]
    exact hpc'

theorem Falls.quiet_bind (hm : Stays Quiet m) (hf : ∀ a, Falls n (f a)) : Falls n (m >>= f) :=
  (Falls.quiet hm).bind hf

theorem Falls.bind_quiet (hm : Falls n m) (hf : ∀ a, Stays Quiet (f a)) : Falls n (m >>= f) := by
  have hbind := hm.bind fun a => Falls.quiet (hf a)
  rwa [Nat.zero_add] at hbind

theorem Falls.get_bind {f : Z80Interpreter (FetchTrace σ) → Z80M (FetchTrace σ) β}
    (hf : ∀ c, Falls n (f c)) : Falls n (get >>= f) := ⟨fun c => (hf c).run c⟩

theorem Falls.ite {p : Prop} [Decidable p] {m' : Z80M (FetchTrace σ) α}
    (hm : p → Falls n m) (hm' : ¬ p → Falls n m') : Falls n (if p then m else m') := by
  split
  · next hp => exact hm hp
  · next hp => exact hm' hp

variable [Z80Bus σ]

theorem fetch8_fetched (c : Z80Interpreter (FetchTrace σ)) :
    (fetch8 c).2.bus.fetched = c.bus.fetched ++ [(fetch8 c).1] ∧ (fetch8 c).2.pc = c.pc + 1 :=
  ⟨rfl, rfl⟩

theorem falls_fetch8 : Falls 1 (fetch8 : Z80M (FetchTrace σ) Byte) :=
  ⟨fun c => ⟨[(fetch8 c).1], rfl, (fetch8_fetched c).1, (fetch8_fetched c).2⟩⟩

theorem falls_fetchOpcode : Falls 1 (fetchOpcode : Z80M (FetchTrace σ) Byte) :=
  ⟨fun c => falls_fetch8.run c.incRefresh⟩

theorem falls_fetch16 : Falls 2 (fetch16 : Z80M (FetchTrace σ) Addr) :=
  falls_fetch8.bind fun _ => falls_fetch8.bind fun _ => .quiet (quietFrame.pure _)

theorem falls_indexedAddress (indexPrefix : Byte) :
    Falls 1 (indexedAddress indexPrefix : Z80M (FetchTrace σ) Addr) :=
  falls_fetch8.bind fun _ => .quiet (quietFrame.get_bind fun _ => quietFrame.pure _)

/-- The opcodes that may set the program counter, and the ED table. -/
def isTransfer (opcode : Byte) : Bool :=
  opcode ∈ [0x10#8, 0x18#8, 0x20#8, 0x28#8, 0x30#8, 0x38#8, 0xC3#8, 0xC9#8, 0xCD#8, 0xE9#8,
    0xED#8] || opcode &&& 0xC7#8 ∈ [0xC0#8, 0xC2#8, 0xC4#8, 0xC7#8]

variable {opcode : Byte}

theorem not_isTransfer (h : isTransfer opcode = false) :
    (opcode ≠ 0x10#8 ∧ opcode ≠ 0x18#8 ∧ opcode ∉ [0x20#8, 0x28#8, 0x30#8, 0x38#8] ∧
      opcode ≠ 0xC3#8 ∧ opcode ≠ 0xC9#8 ∧ opcode ≠ 0xCD#8 ∧ opcode ≠ 0xE9#8 ∧ opcode ≠ 0xED#8) ∧
      opcode &&& 0xC7#8 ≠ 0xC0#8 ∧ opcode &&& 0xC7#8 ≠ 0xC2#8 ∧ opcode &&& 0xC7#8 ≠ 0xC4#8 ∧
      opcode &&& 0xC7#8 ≠ 0xC7#8 := by
  revert opcode
  decide +kernel

theorem suffixLength_groups (opcode : Byte) :
    (opcode &&& 0xC0#8 = 0x40#8 → suffixLength false opcode - 1 = 0) ∧
      (opcode &&& 0xC0#8 = 0x80#8 → suffixLength false opcode - 1 = 0) ∧
      (opcode &&& 0xC7#8 = 0x04#8 → suffixLength false opcode - 1 = 0) ∧
      (opcode &&& 0xC7#8 = 0x05#8 → suffixLength false opcode - 1 = 0) ∧
      (opcode &&& 0xC7#8 = 0x06#8 → suffixLength false opcode - 1 = 1) ∧
      (opcode &&& 0xC7#8 = 0xC6#8 → suffixLength false opcode - 1 = 1) ∧
      (opcode ∈ [0x01#8, 0x11#8, 0x21#8, 0x31#8] → suffixLength false opcode - 1 = 2) ∧
      (opcode ∈ [0x03#8, 0x13#8, 0x23#8, 0x33#8] → suffixLength false opcode - 1 = 0) ∧
      (opcode ∈ [0x09#8, 0x19#8, 0x29#8, 0x39#8] → suffixLength false opcode - 1 = 0) ∧
      (opcode ∈ [0x0B#8, 0x1B#8, 0x2B#8, 0x3B#8] → suffixLength false opcode - 1 = 0) ∧
      (opcode ∈ [0xC1#8, 0xD1#8, 0xE1#8, 0xF1#8] → suffixLength false opcode - 1 = 0) ∧
      (opcode ∈ [0xC5#8, 0xD5#8, 0xE5#8, 0xF5#8] → suffixLength false opcode - 1 = 0) := by
  revert opcode
  decide +kernel

theorem suffixLength_cases (opcode : Byte) :
    suffixLength false opcode - 1 = 0 ∨ opcode &&& 0xC7#8 = 0x06#8 ∨ opcode &&& 0xC7#8 = 0xC6#8 ∨
      opcode ∈ [0x01#8, 0x11#8, 0x21#8, 0x31#8] ∨ opcode = 0x22#8 ∨ opcode = 0x2A#8 ∨
      opcode = 0x32#8 ∨ opcode = 0x3A#8 ∨ opcode = 0xCB#8 ∨ opcode = 0xD3#8 ∨ opcode = 0xDB#8 ∨
      isTransfer opcode ≠ false := by
  revert opcode
  decide +kernel

theorem falls_executeCbOpcode (opcode : Byte) (indexed : Bool) (address : Addr) :
    Falls 0 (executeCbOpcode opcode indexed address : Z80M (FetchTrace σ) (ℕ × Byte)) :=
  .quiet (stays_executeCbOpcode quietFrame _ _ _)

/-- Every unprefixed opcode but a transfer fetches the bytes behind it and goes on. -/
theorem falls_executeUnprefixed (h : isTransfer opcode = false) :
    Falls (suffixLength false opcode - 1) (executeUnprefixed opcode : Z80M (FetchTrace σ) ℕ) := by
  obtain ⟨⟨hdjnz, hjr, hjrs, hjp, hret, hcall, hjphl, hed⟩, hrets, hjps, hcalls, hrst⟩ :=
    not_isTransfer h
  obtain ⟨h40, h80, h04, h05, h06, hC6, h01, h03, h09, h0B, hC1, hC5⟩ := suffixLength_groups opcode
  refine Falls.get_bind fun c => ?_
  repeat' with_reducible refine Falls.ite (fun hop => ?_) fun _ => ?_
  -- The branches of the transfers, those of the groups, those of one opcode and the last.
  all_goals first
    | contradiction
    | rw [h40 hop] | rw [h80 hop] | rw [h04 hop] | rw [h05 hop] | rw [h06 hop] | rw [hC6 hop]
    | rw [h01 hop] | rw [h03 hop] | rw [h09 hop] | rw [h0B hop] | rw [hC1 hop] | rw [hC5 hop]
    | (subst hop; first | change Falls 0 _ | change Falls 1 _ | change Falls 2 _)
    | rw [(suffixLength_cases opcode).resolve_right
        (by rintro (h' | h' | h' | h' | h' | h' | h' | h' | h' | h' | h') <;> contradiction)]
  repeat' first
    | with_reducible first
      | refine falls_fetch8.bind fun _ => ?_
      | refine falls_fetchOpcode.bind fun _ => ?_
      | refine falls_fetch16.bind fun _ => ?_
      | refine (falls_executeCbOpcode _ _ _).bind fun _ => ?_
      | refine Falls.quiet_bind ?_ fun _ => ?_
      | exact .quiet (quietFrame.pure _)
      | exact quietFrame.pure _
      | exact stays_memRead quietFrame _
      | exact stays_memWrite quietFrame _ _
      | exact stays_readIo quietFrame _
      | exact stays_writeIo quietFrame _ _
      | exact stays_read16 quietFrame _
      | exact stays_write16 quietFrame _ _
      | exact stays_push16 quietFrame _
      | exact stays_pop16 quietFrame
      | exact stays_readReg8 quietFrame _
      | exact stays_writeReg8 quietFrame _ _
      | exact stays_stepReg8 quietFrame _ _
      | refine Stays.modify ?_
      | exact fun c => (sameControl_alu _ _ c).quiet
      | exact fun c => (sameControl_setReg16ByPair _ _ _ c).quiet
    | exact fun _ => ⟨rfl, rfl⟩

theorem suffixLength_indexed_groups (opcode : Byte) :
    (opcode &&& 0xC7#8 = 0x06#8 → opcode ≠ 0x36#8 → suffixLength true opcode - 1 = 1) ∧
      (opcode &&& 0xC0#8 = 0x40#8 ∧ opcode ≠ 0x76#8 →
        suffixLength true opcode - 1 =
          if opcodeZ opcode = 6 ∨ opcodeY opcode = 6 then 1 else 0) ∧
      (opcode &&& 0xC0#8 = 0x80#8 →
        suffixLength true opcode - 1 = if opcodeZ opcode = 6 then 1 else 0) ∧
      (opcode ∉ [0xCB#8, 0x34#8, 0x35#8, 0x36#8] → ¬ (opcode &&& 0xC0#8 = 0x40#8 ∧ opcode ≠ 0x76#8) →
        opcode &&& 0xC0#8 ≠ 0x80#8 →
        suffixLength true opcode - 1 = suffixLength false opcode - 1) := by
  revert opcode
  decide +kernel

theorem falls_operand (indexPrefix : Byte) (z : ℕ) :
    Falls (if z = 6 then 1 else 0)
      (if z = 6 then do
        let address ← indexedAddress indexPrefix
        memRead address
      else readReg8 z : Z80M (FetchTrace σ) Byte) := by
  by_cases hz : z = 6
  · rw [if_pos hz, if_pos hz]
    exact (falls_indexedAddress _).bind_quiet fun _ => stays_memRead quietFrame _
  · rw [if_neg hz, if_neg hz]
    exact .quiet (stays_readReg8 quietFrame _)

theorem falls_executeIndexedOpcode (indexPrefix : Byte) (h : isTransfer opcode = false) :
    Falls (suffixLength true opcode - 1)
      (executeIndexedOpcode indexPrefix opcode : Z80M (FetchTrace σ) ℕ) := by
  have hjphl := (not_isTransfer h).1.2.2.2.2.2.2.1
  obtain ⟨h06, h40, h80, hrest⟩ := suffixLength_indexed_groups opcode
  refine Falls.get_bind fun c => ?_
  repeat' with_reducible refine Falls.ite (fun hop => ?_) fun _ => ?_
  all_goals first
    | contradiction
    | rw [h06 hop ‹_›]
    | rw [h40 ‹_›, if_pos (.inl ‹_›)]
    | rw [h40 ‹_›, if_pos (.inr ‹_›)]
    | rw [h40 ‹_›, if_neg (not_or.mpr ⟨‹_›, ‹_›⟩)]
    | (rw [h80 hop]; refine (falls_operand _ _).bind_quiet fun _ => ?_)
    | (subst hop; first | change Falls 0 _ | change Falls 1 _ | change Falls 2 _)
    | (rw [hrest (by simp only [List.mem_cons, List.not_mem_nil, or_false, not_or]; trivial)
        ‹_› ‹_›]
       exact (falls_executeUnprefixed h).bind_quiet fun _ => quietFrame.pure _)
  repeat' first
    | with_reducible first
      | refine (falls_indexedAddress _).bind fun _ => ?_
      | refine falls_fetch8.bind fun _ => ?_
      | refine falls_fetchOpcode.bind fun _ => ?_
      | refine falls_fetch16.bind fun _ => ?_
      | refine (falls_executeCbOpcode _ _ _).bind fun _ => ?_
      | refine Falls.quiet_bind ?_ fun _ => ?_
      | exact .quiet (quietFrame.pure _)
      | refine quietFrame.bind ?_ fun _ => ?_
      | exact quietFrame.pure _
      | refine Stays.ite (fun _ => ?_) fun _ => ?_
      | exact stays_memRead quietFrame _
      | exact stays_memWrite quietFrame _ _
      | exact stays_read16 quietFrame _
      | exact stays_write16 quietFrame _ _
      | exact stays_push16 quietFrame _
      | exact stays_pop16 quietFrame
      | exact stays_readReg8 quietFrame _
      | exact stays_writeReg8 quietFrame _ _
      | refine Stays.modify ?_
      | exact fun c => (sameControl_alu _ _ c).quiet
      | exact fun c => (sameControl_addIndex _ _ c).quiet
      | exact fun c => (sameControl_setIndex _ _ c).quiet
      | exact fun c => (sameControl_stepIndexHalf _ _ _ c).quiet
    | exact fun _ => ⟨rfl, rfl⟩

end Z80Interpreter

end ProtoTime.GameGear
