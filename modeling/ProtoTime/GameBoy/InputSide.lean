import ProtoTime.GameBoy.MachineRuns
import ProtoTime.Host.InputGeneration

/-!
The Game Boy machine's ROM load, restore and input service, as an input session sees them.
-/
namespace ProtoTime.GameBoy
open Input Results

namespace Board

variable (b : Board)

theorem invalidateBlockCacheForWrite_input (address : Addr) :
    (b.invalidateBlockCacheForWrite address).input = b.input := by
  unfold invalidateBlockCacheForWrite
  dsimp only
  split_ifs <;> rfl

/-- No write on the bus touches the buttons; only the select bits follow `JOYP`. -/
theorem write_logicalButtons (address : Addr) (value : Byte) :
    (b.write address value).input.logicalButtons = b.input.logicalButtons := by
  simp only [write, observeWrite]
  split_ifs <;>
    simp [invalidateBlockCacheForWrite_input, observeAudio, observeJoypad,
      syncCachedIoRegisterWrite, writeCached, setIoRegisterRaw, GameBoyInput.writeRegister]

theorem seedRegister_logicalButtons (register : Addr × Byte) :
    (b.seedRegister register).input.logicalButtons = b.input.logicalButtons := by
  simp only [seedRegister]
  split
  · exact write_logicalButtons _ _ _
  · exact write_logicalButtons _ _ _

theorem startRom_logicalButtons : b.startRom.input.logicalButtons = 0 := by
  have hseeds (registers : List (Addr × Byte)) (c : Board) :
      (registers.foldl seedRegister c).input.logicalButtons = c.input.logicalButtons := by
    induction registers generalizing c with
    | nil => rfl
    | cons register registers ih => exact (ih _).trans (seedRegister_logicalButtons c register)
  have hseeded (c : Board) : c.seedRegisters.input.logicalButtons = c.input.logicalButtons := by
    simp only [seedRegisters, resetAudio, setIoRegisterRaw, hseeds, write_logicalButtons]
  exact hseeded _

theorem syncCachedIoRegisterWrite_input (address : Addr) (value : Byte) :
    (b.syncCachedIoRegisterWrite address value).input = b.input := rfl

theorem restored_logicalButtons (memoryMap : GameBoyMemoryMap) (apu : GameBoyAPU)
    (input : GameBoyInput) (bootEntryPending : Bool) :
    (b.restored memoryMap apu input bootEntryPending).input.logicalButtons =
      input.logicalButtons := by
  have hcells (offsets : List ℕ) (b : Board) :
      (offsets.foldl (fun b i =>
        let address : Addr := 0xFF00#16 + BitVec.ofNat 16 i
        b.syncCachedIoRegisterWrite address (b.peek address)) b).input = b.input := by
    induction offsets generalizing b with
    | nil => rfl
    | cons offset offsets ih => exact (ih _).trans (syncCachedIoRegisterWrite_input _ _ _)
  unfold restored
  rfl

end Board

def SaveStateFile.inputState (file : SaveStateFile) (input : GameBoyInput) : InputState where
  inputGeneration := BitVec.ofNat 64 file.inputGeneration
  lastDigitalInputMask := file.lastDigitalInputMask.map (BitVec.ofNat 32)
  logicalButtons := input.logicalButtons

namespace GameBoyMachine

variable {m m' : GameBoyMachine}

def inputSide (m : GameBoyMachine) : MachineInput where
  romLoaded := m.romLoaded
  inputGeneration := BitVec.ofNat 64 m.inputGeneration
  lastDigitalInputMask := m.lastDigitalInputMask.map (·.setWidth 32)
  logicalButtons := m.board.input.logicalButtons

theorem loadRom_inputSide {bytes : List Byte} {save : Option CartridgeSaveData}
    (h : m.loadRom bytes save = .ok m') (engine : InputEngine) :
    m'.inputSide = (InputSession.loadRom ⟨m.inputSide, engine⟩).machine := by
  unfold loadRom at h
  split at h
  · cases h
  · split at h
    · cases h
    · split at h
      · cases h
      · cases h
        simp only [inputSide, InputSession.loadRom, MachineInput.mk.injEq]
        refine ⟨trivial, BitVec.ofNat_add _ _, rfl, Board.startRom_logicalButtons _⟩

/-- The mask kept by a restore is the file's when it fits a byte, which a 32-bit field says. -/
theorem loadState_inputSide {file : SaveStateFile} (h : m.loadState file = .ok m')
    (hmask : ∀ mask ∈ file.lastDigitalInputMask, mask < 2 ^ 32) (engine : InputEngine) :
    ∃ input, GameBoyInput.importState file.input = .ok input ∧
      m'.inputSide = (InputSession.loadState .gameBoy ⟨m.inputSide, engine⟩
        (file.inputState input)).machine := by
  unfold loadState at h
  split at h
  · cases h
  · rename_i hrom
    have hloaded : m.romLoaded = true := by simpa using hrom
    obtain ⟨_, -, h⟩ := bind_eq_ok h
    obtain ⟨cartridge, -, h⟩ := bind_eq_ok h
    obtain ⟨mapper, -, h⟩ := bind_eq_ok h
    obtain ⟨apu, -, h⟩ := bind_eq_ok h
    obtain ⟨ppu, -, h⟩ := bind_eq_ok h
    obtain ⟨input, hinput, h⟩ := bind_eq_ok h
    obtain ⟨_, -, h⟩ := bind_eq_ok h
    obtain ⟨memoryMap, -, h⟩ := bind_eq_ok h
    cases h
    refine ⟨input, hinput, ?_⟩
    simp only [InputSession.loadState, inputSide, hloaded, ↓reduceIte, MachineInput.mk.injEq]
    refine ⟨hloaded, rfl, ?_, Board.restored_logicalButtons _ _ _ _ _⟩
    cases hfile : file.lastDigitalInputMask with
    | none => simp [SaveStateFile.inputState, MachineCore.restoredMask, hfile]
    | some mask =>
      have hlt : mask < 2 ^ 32 := hmask mask hfile
      simp only [SaveStateFile.inputState, MachineCore.restoredMask, hfile, Option.map_some,
        Option.bind_some]
      have hle : BitVec.ofNat 32 mask ≤ 0xFF ↔ mask ≤ 0xFF := by
        rw [BitVec.le_def, BitVec.toNat_ofNat, Nat.mod_eq_of_lt hlt]
        exact Iff.rfl
      by_cases hbyte : mask ≤ 0xFF
      · rw [if_pos hbyte, if_pos (hle.mpr hbyte)]
        simp only [Option.map_some, Option.some.injEq]
        apply BitVec.eq_of_toNat_eq
        rw [BitVec.toNat_setWidth, BitVec.toNat_ofNat, BitVec.toNat_ofNat]
        omega
      · rw [if_neg hbyte, if_neg (fun h => hbyte (hle.mp h))]
        rfl

theorem serviceInput_inputSide (m : GameBoyMachine) (mask : Byte) :
    (m.serviceInput mask).inputSide = InputSession.setButtons m.inputSide mask := rfl

end GameBoyMachine

end ProtoTime.GameBoy
