import ProtoTime.GameBoy.Translation

/-!
The checkpoint file of a running machine: one image for each component, with the
checks that the importing component makes.
-/
namespace ProtoTime.GameBoy

namespace LR3592

structure SaveState where
  af : Addr
  bc : Addr
  de : Addr
  hl : Addr
  sp : Addr
  pc : Addr
  flagset : BitVec 16
  feedback : CpuFeedback
  cip : Byte
  ime : Bool
  imeEnablePending : Bool
  imeEnableDelay : ℕ
  stopFlag : Bool
  haltFlag : Bool
  illegalOpcodeLockup : Bool
  haltBugActive : Bool
  haltBugPcAdjustPending : Bool
  dividerCounter : BitVec 16
  dmaActive : Bool
  dmaSourceBase : Addr
  dmaCycleProgress : ℕ
  pendingCycleCharge : ℕ
  serialTransferActive : Bool
  serialCycleProgress : ℕ
  joypSelect : Byte
  joypadPressedMask : Byte
  ppuDotCounter : ℕ
  lcdEnabledLastTick : Bool
  statInterruptLatched : Bool
  currentVramBank : ℕ
  spriteContext : ℕ
  bankSwitchingEnabled : Bool
  deriving DecidableEq

def kBankB : ℕ := 1

def exportState (p : LR3592) : SaveState :=
  let c := p.core
  let h := c.bus.hardware
  { af := c.af
    bc := c.bc
    de := c.de
    hl := c.hl
    sp := c.sp
    pc := c.pc
    flagset := c.flagset
    feedback := c.feedback
    cip := c.cip
    ime := c.ime
    imeEnablePending := c.imeEnablePending
    imeEnableDelay := c.imeEnableDelay
    stopFlag := c.stopFlag
    haltFlag := c.haltFlag
    illegalOpcodeLockup := c.illegalOpcodeLockup
    haltBugActive := c.haltBugActive
    haltBugPcAdjustPending := c.haltBugPcAdjustPending
    dividerCounter := h.dividerCounter
    dmaActive := h.dmaActive
    dmaSourceBase := h.dmaSourceBase
    dmaCycleProgress := h.dmaCycleProgress
    pendingCycleCharge := c.pendingCycleCharge
    serialTransferActive := h.serialTransferActive
    serialCycleProgress := h.serialCycleProgress
    joypSelect := h.joypSelect
    joypadPressedMask := h.joypadPressedMask
    ppuDotCounter := h.ppuDotCounter
    lcdEnabledLastTick := h.lcdEnabledLastTick
    statInterruptLatched := h.statInterruptLatched
    currentVramBank := p.currentVramBank
    spriteContext := p.spriteContext
    bankSwitchingEnabled := p.bankSwitchingEnabled }

/-- The message of a rejected image. -/
def validateState (state : SaveState) : Option String :=
  if state.currentVramBank > kBankB then some "LR3592 save state has invalid VRAM bank"
  else if state.spriteContext > 1 then some "LR3592 save state has invalid sprite context"
  else none

/-- The import of a valid image. The registers behind memory, the audio counters and the queue of
divider resets are not part of it. -/
def importState (p : LR3592) (state : SaveState) : LR3592 :=
  let hardware := { p.core.bus.hardware with
    dividerCounter := state.dividerCounter
    dmaActive := state.dmaActive
    dmaSourceBase := state.dmaSourceBase
    dmaCycleProgress := state.dmaCycleProgress
    serialTransferActive := state.serialTransferActive
    serialCycleProgress := state.serialCycleProgress
    joypSelect := state.joypSelect
    joypadPressedMask := state.joypadPressedMask
    ppuDotCounter := state.ppuDotCounter
    lcdEnabledLastTick := state.lcdEnabledLastTick
    statInterruptLatched := state.statInterruptLatched }
  { p with
    core :=
      { af := state.af
        bc := state.bc
        de := state.de
        hl := state.hl
        sp := state.sp
        pc := state.pc
        flagset := state.flagset
        feedback := state.feedback
        cip := state.cip
        ime := state.ime
        imeEnablePending := state.imeEnablePending
        imeEnableDelay := state.imeEnableDelay
        stopFlag := state.stopFlag
        haltFlag := state.haltFlag
        illegalOpcodeLockup := state.illegalOpcodeLockup
        haltBugActive := state.haltBugActive
        haltBugPcAdjustPending := state.haltBugPcAdjustPending
        pendingCycleCharge := state.pendingCycleCharge
        bus := { p.core.bus with hardware := hardware }.invalidateAllBlockCache }
    currentVramBank := state.currentVramBank
    spriteContext := state.spriteContext
    bankSwitchingEnabled := state.bankSwitchingEnabled }

end LR3592

/-- The sound unit takes over every field of an image whose counters are in range. -/
def GameBoyAPU.importState (state : GameBoyAPU) : Except String GameBoyAPU :=
  if state.frameSequencerStep > 7 ∨ state.recentWriteCursor ≥ kHistorySamples ∨
      state.recentSampleCount > kHistorySamples ∨ state.pendingReadCursor ≥ kHistorySamples ∨
      state.pendingSampleCount > kHistorySamples ∨ state.pulse1.sweepShift > 7 ∨
      state.noise.clockShift > 15 then
    .error "APU state contains invalid fields"
  else .ok state

def kCoreIdGameBoy : ℕ := 0x01

/-- A file with its chunks decoded. The memory, pixel and joypad chunks are kept as bytes. -/
structure SaveStateFile where
  coreId : ℕ
  romHash : BitVec 32
  stepCounter : ℕ
  lastAudioFrameCounter : ℕ
  bootEntryPending : Bool
  lastDigitalInputMask : Option ℕ
  inputGeneration : ℕ
  cpu : LR3592.SaveState
  memory : List Byte
  ppu : List Byte
  apu : GameBoyAPU
  input : List Byte
  mapper : GameBoyMapper.SaveState
  cartridge : GameBoyCartridge.State

/-- The message of a file for another machine or another ROM; a zero hash names no ROM. -/
def SaveStateFile.rejectedForCore (file : SaveStateFile) (romBytes : List Byte) : Option String :=
  if file.coreId ≠ kCoreIdGameBoy then some "save state is not compatible with this machine"
  else if file.romHash ≠ 0 ∧ crc32 romBytes ≠ file.romHash then
    some "save state ROM identity does not match the loaded ROM"
  else none

end ProtoTime.GameBoy
