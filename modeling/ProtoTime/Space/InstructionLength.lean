import ProtoTime.GameGear.Z80Transfers

/-!
The offline length of a Z80 instruction against the bytes that the interpreter fetches.
-/
namespace ProtoTime.Space
open GameBoy (Byte Addr)
open GameGear GameGear.Z80Interpreter

/-- The length calculation delimits the bytes: on them and on everything longer it returns their
number, and from a part of them it asks for more. -/
structure Delimited (bytes : List Byte) : Prop where
  exact : z80InstructionLength bytes = bytes.length
  longer : ∀ more, z80InstructionLength (bytes ++ more) = bytes.length
  shorter : ∀ part, part <+: bytes → part ≠ bytes →
    z80InstructionLength part = 0 ∨ part.length < z80InstructionLength part

variable {prefixes : List Byte}

section

variable (all : ∀ byte ∈ prefixes, isIndexPrefix byte = true)

include all

theorem z80InstructionLength_prefixes (length : prefixes.length < 65536) :
    z80InstructionLength prefixes = 0 := by
  have htake : prefixes.takeWhile isIndexPrefix = prefixes := List.takeWhile_eq_self_iff.mpr all
  unfold z80InstructionLength
  rw [htake, if_neg (Nat.not_le.mpr length), List.getElem?_eq_none (Nat.le_refl _)]

theorem z80InstructionLength_chain (length : prefixes.length = 65536)
    (more : List Byte) : z80InstructionLength (prefixes ++ more) = 65536 := by
  unfold z80InstructionLength
  rw [List.takeWhile_append_of_pos all, if_pos]
  rw [List.length_append, length]
  exact Nat.le_add_right _ _

/-- Behind fewer prefixes the opcode decides, and behind ED the byte after it. -/
theorem z80InstructionLength_opcode (length : prefixes.length < 65536)
    {op : Byte} (other : isIndexPrefix op = false) (tail : List Byte) :
    z80InstructionLength (prefixes ++ op :: tail) =
      if op = 0xED#8 then
        match tail with
        | [] => 0
        | ed :: _ => prefixes.length + if ed &&& 0xC7#8 = 0x43#8 then 4 else 2
      else prefixes.length + suffixLength (!prefixes.isEmpty) op := by
  have htake : (prefixes ++ op :: tail).takeWhile isIndexPrefix = prefixes := by
    rw [List.takeWhile_append_of_pos all, List.takeWhile_cons_of_neg (by simp [other]),
      List.append_nil]
  have hop : (prefixes ++ op :: tail)[prefixes.length]? = some op := by
    rw [List.getElem?_append_right (Nat.le_refl _), Nat.sub_self]
    rfl
  have hsecond : (prefixes ++ op :: tail)[prefixes.length + 1]? = tail.head? := by
    rw [List.getElem?_append_right (Nat.le_add_right _ 1), Nat.add_sub_cancel_left]
    cases tail <;> rfl
  have hindexed : decide (prefixes.length ≠ 0) = !prefixes.isEmpty := by
    cases prefixes <;> rfl
  unfold z80InstructionLength
  rw [htake, if_neg (Nat.not_le.mpr length), hop, hsecond, hindexed]
  cases tail <;> rfl

theorem delimited_chain (length : prefixes.length = 65536) :
    Delimited prefixes where
  exact := by
    have hexact := z80InstructionLength_chain all length []
    rw [List.append_nil] at hexact
    rw [hexact, length]
  longer more := by rw [z80InstructionLength_chain all length, length]
  shorter part hpart hne := by
    left
    refine z80InstructionLength_prefixes (fun byte hbyte => all byte (hpart.subset hbyte)) ?_
    rw [← length]
    exact lt_of_le_of_ne hpart.length_le fun h => hne (hpart.eq_of_length h)

/-- The length of a complete encoding is decided by its opcode, and behind ED by one byte more. -/
theorem delimited_opcode (length : prefixes.length < 65536)
    {op : Byte} (other : isIndexPrefix op = false) {rest : List Byte}
    (complete : Complete (!prefixes.isEmpty) op rest) :
    Delimited (prefixes ++ op :: rest) := by
  have hlonger (more : List Byte) : z80InstructionLength (prefixes ++ op :: rest ++ more) =
      (prefixes ++ op :: rest).length := by
    rw [List.append_assoc, List.cons_append, z80InstructionLength_opcode all length other,
      List.length_append, List.length_cons]
    unfold Complete at complete
    by_cases hed : op = 0xED#8
    · rw [if_pos hed] at complete ⊢
      obtain ⟨ed, tail, rfl, htail⟩ := complete
      rw [List.length_cons, htail]
      dsimp only [List.cons_append]
      split <;> rfl
    · rw [if_neg hed] at complete ⊢
      rw [complete]
  constructor
  · have hexact := hlonger []
    rwa [List.append_nil] at hexact
  · exact hlonger
  · intro part hpart hne
    rcases List.prefix_or_prefix_of_prefix hpart (List.prefix_append prefixes (op :: rest)) with
      hshort | ⟨tail, rfl⟩
    · left
      exact z80InstructionLength_prefixes (fun byte hbyte => all byte (hshort.subset hbyte))
        (lt_of_le_of_lt hshort.length_le length)
    · rw [List.prefix_append_right_inj] at hpart
      cases tail with
      | nil =>
        left
        rw [List.append_nil]
        exact z80InstructionLength_prefixes all length
      | cons byte tail =>
        obtain ⟨rfl, htail⟩ := List.cons_prefix_cons.mp hpart
        have hlt : tail.length < rest.length := by
          refine lt_of_le_of_ne htail.length_le fun h => hne ?_
          rw [htail.eq_of_length h]
        rw [z80InstructionLength_opcode all length other, List.length_append, List.length_cons]
        unfold Complete at complete
        by_cases hed : byte = 0xED#8
        · rw [if_pos hed] at complete ⊢
          obtain ⟨ed, operand, rfl, hoperand⟩ := complete
          cases tail with
          | nil => exact .inl rfl
          | cons second tail =>
            obtain ⟨rfl, -⟩ := List.cons_prefix_cons.mp htail
            right
            rw [List.length_cons, List.length_cons, hoperand] at hlt
            rw [List.length_cons]
            dsimp only
            split at hlt
            · next h43 =>
              rw [if_pos h43]
              omega
            · exact absurd hlt (by omega)
        · rw [if_neg hed] at complete ⊢
          right
          omega

end

/-- For every bus, whatever its reads answer and change, and every state in which the interpreter
executes an instruction: the bytes it fetches are an encoding that the offline length delimits. -/
theorem fetched_bytes_delimited {σ : Type} [Z80Bus σ] {c : Z80Interpreter (FetchTrace σ)}
    (haccepts : c.accepts = false) (hhalted : c.halted = false) :
    ∃ bytes, (step c).2.bus.fetched = c.bus.fetched ++ bytes ∧ Delimited bytes := by
  obtain ⟨bytes, pc, hexecuted, hfetched, -⟩ := step_run haccepts hhalted
  refine ⟨bytes, hfetched, ?_⟩
  cases hexecuted with
  | chain prefixes all length => exact delimited_chain all length
  | opcode prefixes op rest all length other complete =>
    exact delimited_opcode all length other complete

structure ProgramMemory where
  bytes : List Byte

instance programMemoryBus : Z80Bus ProgramMemory where
  memRead address memory := (memory.bytes.getD address.toNat 0, memory)
  memWrite _ _ memory := memory
  readIo _ memory := (0xFF, memory)
  writeIo _ _ memory := memory
  interruptRequest memory := (none, memory)

def running (bytes : List Byte) : Z80Interpreter (FetchTrace ProgramMemory) :=
  { bus := ⟨⟨bytes⟩, []⟩ }

/-- `SET 0, (IX+5)` behind a prefix that the second one replaces. -/
theorem fetched_bytes_delimited_set :
    ∃ bytes, (step (running [0xFD#8, 0xDD#8, 0xCB#8, 0x05#8, 0xC6#8])).2.bus.fetched =
        [] ++ bytes ∧ Delimited bytes :=
  fetched_bytes_delimited (c := running [0xFD#8, 0xDD#8, 0xCB#8, 0x05#8, 0xC6#8]) rfl rfl

end ProtoTime.Space
