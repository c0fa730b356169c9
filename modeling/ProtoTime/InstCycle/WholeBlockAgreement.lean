import ProtoTime.InstCycle.WholeBlockCorrect

/-!
The two kinds of entry: through the host's register calls, and over register
words held directly. Each agrees with the interpreter on its own host.
-/
namespace ProtoTime.IR.Research

open Interpreter

universe u

variable {M : Type → Type u} [Monad M] [LawfulMonad M] [MonadExcept String M]

theorem answers_host (host : HostCall → M (BitVec 64)) :
    Answers { host := host } host where
  readRegister _ _ := rfl
  writeRegister _ _ _ := rfl
  setProgramCounter _ := rfl
  loadMemory _ _ _ := rfl
  storeMemory _ _ _ _ := rfl
  callHelper _ _ _ := rfl

namespace RegisterFile

variable (word : BitVec 16)

theorem pair_high_low : pair (high word) (low word) = word := by
  ext i hi
  interval_cases i <;> simp [pair, high, low]

theorem shifted_high :
    ((word >>> 8) &&& 255#16).setWidth 64 = (high word).setWidth 64 := by
  ext i hi
  interval_cases i <;> simp [high]

theorem masked_low :
    ((word >>> 0) &&& 255#16).setWidth 64 = (low word).setWidth 64 := by
  ext i hi
  interval_cases i <;> simp [low]

theorem replace_low (byte : BitVec 8) :
    (word &&& 0xFF00#16) ||| byte.setWidth 16 = pair (high word) byte := by
  ext i hi
  interval_cases i <;> simp [pair, high]

theorem replace_high (byte : BitVec 8) :
    (word &&& 255#16) ||| (byte.setWidth 16 <<< 8) = pair byte (low word) := by
  ext i hi
  interval_cases i <;> simp [pair, low]

theorem masked_word (value : BitVec 64) (flagsMask : BitVec 8) :
    (value &&& (0xFF00#64 ||| flagsMask.setWidth 64)).setWidth 16 =
      pair (high (value.setWidth 16)) (low (value.setWidth 16) &&& flagsMask) := by
  ext i hi
  interval_cases i <;> simp [pair, high, low]

/-- Reading a numbered register of the words reads the register of that name. -/
theorem readWord_eq (w : Words) (id : ℕ) : DirectRegisters.readWord w id = (ofWords w).read id := by
  have hhigh (word : BitVec 16) : Except.ok (ε := String) (((word >>> 8) &&& 255#16).setWidth 64) =
      .ok ((high word).setWidth 64) := congrArg Except.ok (shifted_high word)
  have hlow (word : BitVec 16) : Except.ok (ε := String) (((word >>> 0) &&& 255#16).setWidth 64) =
      .ok ((low word).setWidth 64) := congrArg Except.ok (masked_low word)
  have hpair (word : BitVec 16) : Except.ok (ε := String) (word.setWidth 64) =
      .ok ((pair (high word) (low word)).setWidth 64) := by rw [pair_high_low]
  match id with
  | 0 => exact hhigh w.af
  | 1 => exact hlow w.af
  | 2 => exact hhigh w.bc
  | 3 => exact hlow w.bc
  | 4 => exact hhigh w.de
  | 5 => exact hlow w.de
  | 6 => exact hhigh w.hl
  | 7 => exact hlow w.hl
  | 8 => exact hpair w.af
  | 9 => exact hpair w.bc
  | 10 => exact hpair w.de
  | 11 => exact hpair w.hl
  | 12 => rfl
  | 13 => rfl
  | id + 14 =>
    rfl

theorem writeWord_eq (flagsMask : BitVec 8) (w : Words) (id : ℕ) (value : BitVec 64) :
    DirectRegisters.writeWord flagsMask w id value =
      ((ofWords w).write flagsMask id value).map words := by
  by_cases hid : id < 14
  · interval_cases id <;>
      simp [DirectRegisters.writeWord, write, ofWords, words, Words.get, Words.set, pair_high_low,
        Except.map, replace_low, replace_high, masked_word, -BitVec.setWidth_and]
  · unfold DirectRegisters.writeWord write
    rw [if_neg (by omega), if_neg hid]
    split <;> first
      | omega
      | rfl

end RegisterFile

theorem answers_direct (r : DirectRegisters M) (host : HostCall → M (BitVec 64)) :
    Answers { host := host, registers := some r } (maskingHost r host) where
  readRegister id _ := by
    show r.read id = _
    unfold DirectRegisters.read
    simp only [RegisterFile.readWord_eq]
    rfl
  writeRegister id _ value := by
    show r.write id value = _
    unfold DirectRegisters.write
    simp only [RegisterFile.writeWord_eq, maskingHost, bind_assoc, pure_bind, bind_pure_unit]
  setProgramCounter address := by
    show r.write 13 address = _
    unfold DirectRegisters.write
    simp only [RegisterFile.writeWord_eq, maskingHost, bind_assoc, pure_bind, bind_pure_unit]
    simp [RegisterFile.write, Except.map, raise]
  loadMemory _ _ _ := rfl
  storeMemory _ _ _ _ := rfl
  callHelper _ _ _ := rfl

/-- The emitted entry is the interpreter's run of the block: through the host's register calls it
makes the same calls in the same order, and over direct registers it acts as a host that masks
`F`, whatever the hooks and the budgets are. -/
theorem emitWholeBlock_agrees {block : FinishedBlock} {id : List Char} {architecture : ℕ}
    {emitted : EmittedBlock} (hemit : emitWholeBlock block id architecture = .ok emitted)
    (hdefined : DefinedEarlier block) {M : Type → Type u} [Monad M] [LawfulMonad M]
    [MonadExcept String M] (host : HostCall → M (BitVec 64)) (hooks : Hooks M)
    (instructions cycles : ℕ) :
    emitted.execute { host := host } hooks instructions cycles =
        interpretBlock block host hooks instructions cycles ∧
      ∀ r : DirectRegisters M,
        emitted.execute { host := host, registers := some r } hooks instructions cycles =
          interpretBlock block (maskingHost r host) hooks instructions cycles := by
  constructor
  · exact execute_correct (answers_host host) hemit hdefined hooks instructions cycles
  · intro r
    exact execute_correct (answers_direct r host) hemit hdefined hooks instructions cycles

namespace Sample

/-- `LD A,5` at `0100`, which writes the value it names. -/
def instruction : GuestInstruction where
  address := 0x0100
  length := 2
  cyclesNotTaken := 8
  cyclesTaken := 8
  operations := [
    { opcode := .constant, result := some 1, resultType := .i8, operands := [.immediate 5 .i8] },
    { opcode := .writeRegister, operands := [.guestRegister 0 .i8, .value 1 .i8] },
    { opcode := .retireInstruction }]

def block : FinishedBlock where
  guestStart := 0x0100
  mappingGeneration := 1
  guards := [{ kind := .mappingGeneration, expected := 1 }]
  instructions := [instruction]
  guestEnd := 0x0101
  exit := .sequential

def identifier : List Char := kIdentifierPrefix ++ ['_', 'l', 'd']

theorem block_definedEarlier : DefinedEarlier block := by
  intro i hi before o after heq id type hmem
  obtain rfl : i = instruction := List.mem_singleton.mp hi
  rcases before with _ | ⟨o₁, _ | ⟨o₂, _ | ⟨o₃, before⟩⟩⟩
  all_goals
    simp [instruction] at heq
  · obtain ⟨rfl, -⟩ := heq
    simp at hmem
  · obtain ⟨rfl, rfl, -⟩ := heq
    simp only [List.mem_cons, Operand.value.injEq, List.not_mem_nil, reduceCtorEq, false_or,
      or_false] at hmem
    exact ⟨_, List.mem_singleton_self _, congrArg some hmem.1.symm⟩
  · obtain ⟨-, -, rfl, -⟩ := heq
    simp at hmem

/-- The words and the calls made so far. -/
abbrev Run := ExceptT String (StateM (Words × List HostCall))

def host (call : HostCall) : Run (BitVec 64) := do
  modify fun s => (s.1, s.2 ++ [call])
  return 0

def registers : DirectRegisters Run where
  words := return (← get).1
  publish w := modify fun s => (w, s.2)
  flagsMask := 0xF0

def hooks : Hooks Run where
  before _ _ := pure true
  retire _ _ _ := pure true

end Sample

theorem emitWholeBlock_agrees_sample :
    ∃ emitted, emitWholeBlock Sample.block Sample.identifier 1 = .ok emitted ∧
      DefinedEarlier Sample.block ∧
      emitted.execute { host := Sample.host } Sample.hooks 16 100 =
        interpretBlock Sample.block Sample.host Sample.hooks 16 100 ∧
      emitted.execute { host := Sample.host, registers := some Sample.registers } Sample.hooks
          16 100 =
        interpretBlock Sample.block (maskingHost Sample.registers Sample.host) Sample.hooks
          16 100 := by
  obtain ⟨emitted, hemit⟩ : ∃ emitted,
      emitWholeBlock Sample.block Sample.identifier 1 = .ok emitted := ⟨_, rfl⟩
  have hagrees := emitWholeBlock_agrees hemit Sample.block_definedEarlier Sample.host Sample.hooks
    16 100
  exact ⟨emitted, hemit, Sample.block_definedEarlier, hagrees.1, hagrees.2 Sample.registers⟩

end ProtoTime.IR.Research
