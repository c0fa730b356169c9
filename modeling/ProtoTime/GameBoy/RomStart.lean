import ProtoTime.GameBoy.RegisterSync

/-!
What a ROM load forgets. Two boards that got the same image go through the same
updates; the cells that differ at first, because the hardware wrote a changed
register through, are all written again before the program starts. The counters
and transfers of the timed hardware are not.
-/
namespace ProtoTime.GameBoy

open Core

namespace Hardware

structure Leftover where
  dmaActive : Bool
  dmaSourceBase : Addr
  dmaCycleProgress : ℕ
  serialTransferActive : Bool
  serialCycleProgress : ℕ
  joypSelect : Byte
  ppuDotCounter : ℕ
  lcdEnabledLastTick : Bool
  statInterruptLatched : Bool
  deriving DecidableEq

variable (h : Hardware)

def leftover : Leftover :=
  ⟨h.dmaActive, h.dmaSourceBase, h.dmaCycleProgress, h.serialTransferActive,
    h.serialCycleProgress, h.joypSelect, h.ppuDotCounter, h.lcdEnabledLastTick,
    h.statInterruptLatched⟩

structure Unregistered where
  leftover : Leftover
  dividerCounter : BitVec 16
  joypadPressedMask : Byte
  instructionExecutionActive : Bool

def unregistered : Unregistered :=
  ⟨h.leftover, h.dividerCounter, h.joypadPressedMask, h.instructionExecutionActive⟩

theorem syncCachedIoRegisterWrite_unregistered (address : Addr) (value : Byte) (h : Hardware) :
    (h.syncCachedIoRegisterWrite address value).unregistered = h.unregistered := by
  unfold syncCachedIoRegisterWrite
  split <;> rfl

theorem setJoypadState_unregistered (pressedMask : Byte) (h : Hardware) :
    (h.setJoypadState pressedMask).unregistered =
      { h.unregistered with joypadPressedMask := pressedMask } := by
  unfold setJoypadState joypadLinesChanged
  split <;> rfl

theorem timerEdge_unregistered : h.timerEdge.unregistered = h.unregistered := by
  unfold timerEdge
  split <;> rfl

theorem resetDivider_unregistered {h : Hardware} (hidle : h.instructionExecutionActive = false) :
    h.resetDivider.unregistered = { h.unregistered with dividerCounter := 0 } := by
  unfold resetDivider
  rw [if_neg fun hand => by simp [hidle] at hand]
  have happly : (h.applyDividerReset ⟨0, h.tac⟩).unregistered =
      { h.unregistered with dividerCounter := 0 } := by
    unfold applyDividerReset
    split
    · rw [timerEdge_unregistered]
      rfl
    · rfl
  exact happly

theorem syncCachedIoRegisterWrite_slots (address : Addr) (value : Byte) (h : Hardware) :
    ∀ slot ∈ cachedRegisters, slot.2 (h.syncCachedIoRegisterWrite address value) = slot.2 h ∨
      (address = slot.1 ∧ slot.2 (h.syncCachedIoRegisterWrite address value) = value) := by
  intro slot hslot
  unfold syncCachedIoRegisterWrite
  simp only [cachedRegisters, List.mem_cons, List.not_mem_nil, or_false] at hslot
  split <;> rcases hslot with rfl | rfl | rfl | rfl | rfl | rfl | rfl | rfl | rfl | rfl | rfl |
    rfl | rfl | rfl <;> first
    | exact .inl rfl
    | exact .inr ⟨by bv_omega, rfl⟩

theorem timerEdge_slots : ∀ slot ∈ cachedRegisters,
    slot.1 ∉ [0xFF05#16, 0xFF0F#16] → slot.2 h.timerEdge = slot.2 h := by
  intro slot hslot hne
  unfold timerEdge
  simp only [cachedRegisters, List.mem_cons, List.not_mem_nil, or_false] at hslot
  split <;> rcases hslot with rfl | rfl | rfl | rfl | rfl | rfl | rfl | rfl | rfl | rfl | rfl |
    rfl | rfl | rfl <;> first
    | rfl
    | exact absurd (by decide) hne

/-- The registers a divider reset can change. -/
theorem resetDivider_slots : ∀ slot ∈ cachedRegisters,
    slot.1 ∉ [0xFF04#16, 0xFF05#16, 0xFF0F#16] → slot.2 h.resetDivider = slot.2 h := by
  intro slot hslot hne
  have hedge : ∀ g : Hardware, slot.2 g.timerEdge = slot.2 g := fun g =>
    timerEdge_slots g slot hslot fun hmem => hne (List.mem_cons_of_mem _ hmem)
  have hset : ∀ (g : Hardware) (counter : BitVec 16),
      slot.2 { g with dividerCounter := counter } = slot.2 g := by
    intro g counter
    simp only [cachedRegisters, List.mem_cons, List.not_mem_nil, or_false] at hslot
    rcases hslot with rfl | rfl | rfl | rfl | rfl | rfl | rfl | rfl | rfl | rfl | rfl |
      rfl | rfl | rfl <;> rfl
  have hdiv : ∀ (g : Hardware) (events : List DividerResetEvent),
      slot.2 { g with dividerResetEvents := events, div := 0 } = slot.2 g := by
    intro g events
    simp only [cachedRegisters, List.mem_cons, List.not_mem_nil, or_false] at hslot
    rcases hslot with rfl | rfl | rfl | rfl | rfl | rfl | rfl | rfl | rfl | rfl | rfl |
      rfl | rfl | rfl <;> first
      | rfl
      | exact absurd (by decide) hne
  unfold resetDivider
  split
  · exact hdiv h _
  · refine (hdiv _ (h.applyDividerReset ⟨0, h.tac⟩).dividerResetEvents).trans ?_
    unfold applyDividerReset
    split
    · exact (hedge _).trans (hset h 0)
    · exact hset h 0

theorem setJoypadState_slots (pressedMask : Byte) (h : Hardware) : ∀ slot ∈ cachedRegisters,
    slot.1 ∉ [0xFF00#16, 0xFF0F#16] → slot.2 (h.setJoypadState pressedMask) = slot.2 h := by
  intro slot hslot hne
  unfold setJoypadState joypadLinesChanged
  simp only [cachedRegisters, List.mem_cons, List.not_mem_nil, or_false] at hslot
  split <;> rcases hslot with rfl | rfl | rfl | rfl | rfl | rfl | rfl | rfl | rfl | rfl | rfl |
    rfl | rfl | rfl <;> first
    | rfl
    | exact absurd (by decide) hne

end Hardware

namespace Board

section Startup

variable {α : Type} {p : Hardware → α}
  (hsync : ∀ address value h, p (Hardware.syncCachedIoRegisterWrite address value h) = p h)
include hsync

theorem write_through (b : Board) (address : Addr) (value : Byte) :
    p (b.write address value).hardware = p b.hardware := by
  unfold Board.write
  rw [observeWrite_hardware]
  exact hsync _ _ _

theorem seedRegister_through (b : Board) (register : Addr × Byte) :
    p (b.seedRegister register).hardware = p b.hardware := by
  unfold seedRegister
  dsimp only
  split
  · refine (hsync _ _ _).trans ?_
    exact (write_through hsync _ _ _).trans (hsync _ _ _)
  · exact (write_through hsync _ _ _).trans (hsync _ _ _)

/-- Seen through what no register write reaches, a ROM load resets the divider and the joypad
lines twice and does nothing else to the hardware. -/
theorem startRom_through (hapu : ∀ (h : Hardware) (apu : CoreApu), p { h with apu := apu } = p h)
    (b : Board) :
    p b.startRom.hardware = p (((b.hardware.resetDivider.setJoypadState 0x00#8).resetDivider
      ).setJoypadState 0x00#8) := by
  have hseeds (registers : List (Addr × Byte)) (b : Board) :
      p (registers.foldl seedRegister b).hardware = p b.hardware := by
    induction registers generalizing b with
    | nil => rfl
    | cons register registers ih => exact (ih _).trans (seedRegister_through hsync b register)
  have haudio (b : Board) : p b.resetAudio.hardware = p b.hardware := hapu _ _
  have hraw (b : Board) (address : Addr) (value : Byte) :
      (b.setIoRegisterRaw address value).hardware = b.hardware := rfl
  have hdivider (b : Board) : b.resetDivider.hardware = b.hardware.resetDivider := rfl
  have hjoypad (b : Board) :
      (b.setJoypadState 0x00#8).hardware = b.hardware.setJoypadState 0x00#8 := rfl
  have hwindows : b.resetSubsystems.installWindows.invalidateAllBlockCache.hardware =
      b.resetSubsystems.hardware := rfl
  have hsubsystems : b.resetSubsystems.hardware =
      b.hardware.resetDivider.setJoypadState 0x00#8 := by
    unfold resetSubsystems
    rw [hjoypad, hdivider]
  unfold startRom seedRegisters
  rw [haudio, hseeds, hraw, write_through hsync, hjoypad, hraw, hdivider, hwindows, hsubsystems]

theorem restored_through (b : Board) (memoryMap : GameBoyMemoryMap) (apu : GameBoyAPU)
    (input : GameBoyInput) (bootEntryPending : Bool) :
    p (b.restored memoryMap apu input bootEntryPending).hardware = p b.hardware := by
  have hsynced (b : Board) (address : Addr) (value : Byte) :
      p (b.syncCachedIoRegisterWrite address value).hardware = p b.hardware := hsync _ _ _
  have hcells (offsets : List ℕ) (b : Board) :
      p (offsets.foldl (fun b i =>
        let address : Addr := 0xFF00#16 + BitVec.ofNat 16 i
        b.syncCachedIoRegisterWrite address (b.peek address)) b).hardware = p b.hardware := by
    induction offsets generalizing b with
    | nil => rfl
    | cons offset offsets ih => exact (ih _).trans (hsynced _ _ _)
  unfold Board.restored
  rw [hsynced, hcells]
  rfl

end Startup

end Board

end ProtoTime.GameBoy
