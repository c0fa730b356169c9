import ProtoTime.GameBoy.SaveFile
import ProtoTime.GameBoy.Ppu
import Mathlib.Tactic.SplitIfs

/-!
The machine: the processor on its board, the pixel unit and the bookkeeping
around them. One retired instruction, execution slices, ROM loading, the host's
inputs and checkpoints; `perform` collects what a host can ask of it.
-/
namespace ProtoTime.GameBoy

structure GameBoyMachine where
  cpu : LR3592
  ppu : GameBoyPPU
  allowFastPath : Bool
  romLoaded : Bool
  stepCounter : ℕ
  lastAudioFrameCounter : ℕ
  inputGeneration : ℕ
  lastDigitalInputMask : Option Byte

inductive ExecutionBackend where
  | baseline | cachedBlock | portableIr
  deriving DecidableEq

inductive ExecutionSliceExitReason where
  | instructionBudget | cycleBudget | segmentBoundary | retirementRequested | machineBoundary
  deriving DecidableEq

structure ExecutionBudget where
  maxInstructions : ℕ := 1
  maxCycles : ℕ := 2 ^ 64 - 1
  stopOnSegmentBoundary : Bool := true

structure ExecutionSliceResult where
  retiredInstructions : ℕ := 0
  retiredCycles : ℕ := 0
  lastFeedback : CpuFeedback := {}
  exitReason : ExecutionSliceExitReason := .instructionBudget
  deriving DecidableEq

/-- The cycle total stays at its largest value. -/
def ExecutionSliceResult.retired (r : ExecutionSliceResult) (feedback : CpuFeedback) :
    ExecutionSliceResult :=
  { r with
    lastFeedback := feedback
    retiredInstructions := r.retiredInstructions + 1
    retiredCycles := min (2 ^ 64 - 1) (r.retiredCycles + feedback.retiredCycles) }

def kMaxRomSize : ℕ := 1024 * 1024

/-- The I/O registers after the boot ROM, in the order in which they are seeded. -/
def kPostBootIoDefaults : List (Addr × Byte) :=
  [(0xFF01#16, 0x00#8), (0xFF02#16, 0x7E#8), (0xFF05#16, 0x00#8), (0xFF06#16, 0x00#8),
    (0xFF07#16, 0xF8#8), (0xFF0F#16, 0xE1#8), (0xFF10#16, 0x80#8), (0xFF11#16, 0xBF#8),
    (0xFF12#16, 0xF3#8), (0xFF14#16, 0xBF#8), (0xFF16#16, 0x3F#8), (0xFF17#16, 0x00#8),
    (0xFF19#16, 0xBF#8), (0xFF1A#16, 0x7F#8), (0xFF1B#16, 0xFF#8), (0xFF1C#16, 0x9F#8),
    (0xFF1E#16, 0xBF#8), (0xFF20#16, 0xFF#8), (0xFF21#16, 0x00#8), (0xFF22#16, 0x00#8),
    (0xFF23#16, 0xBF#8), (0xFF24#16, 0x77#8), (0xFF25#16, 0xF3#8), (0xFF26#16, 0xF1#8),
    (0xFF40#16, 0x91#8), (0xFF41#16, 0x85#8), (0xFF42#16, 0x00#8), (0xFF43#16, 0x00#8),
    (0xFF44#16, 0x00#8), (0xFF45#16, 0x00#8), (0xFF46#16, 0xFF#8), (0xFF47#16, 0xFC#8),
    (0xFF48#16, 0xFF#8), (0xFF49#16, 0xFF#8), (0xFF4A#16, 0x00#8), (0xFF4B#16, 0x00#8),
    (0xFFFF#16, 0x00#8)]

def isTriggerRegister (address : Addr) : Bool :=
  address ∈ [0xFF14#16, 0xFF19#16, 0xFF1E#16, 0xFF23#16]

namespace Board

def resetDivider (b : Board) : Board := b.writeCached Hardware.resetDivider

def setJoypadState (b : Board) (pressedMask : Byte) : Board :=
  b.writeCached (Hardware.setJoypadState pressedMask)

variable (b : Board)

/-- One startup register image. A channel is configured without being triggered. -/
def seedRegister (register : Addr × Byte) : Board :=
  let (address, value) := register
  let b := { b with hardware := b.hardware.syncCachedIoRegisterWrite address value }
  if isTriggerRegister address then
    ((b.write address (value &&& 0x7F#8)).setIoRegisterRaw address value).syncCachedIoRegisterWrite
      address value
  else b.write address value

/-- `NR52` shows the idle channels, and the core's audio counters start over. -/
def resetAudio : Board :=
  let b := b.setIoRegisterRaw 0xFF26#16 (b.apu.readRegister 0xFF26#16)
  { b with hardware := { b.hardware with apu :=
    { masterEnabled := true
      frameSequencerCounter := 0
      frameSequencerStep := 0
      sampleAccumulator := 0
      sampleCounter := 0
      frameCounter := 0 } } }

/-- The registers a ROM starts with. -/
def seedRegisters : Board :=
  let b := (b.write 0xFF00#16 0xCF#8).setIoRegisterRaw 0xFF50#16 0x01#8
  (kPostBootIoDefaults.foldl seedRegister b).resetAudio

/-- The subsystems on the board before the windows of a new ROM are installed. -/
def resetSubsystems : Board :=
  (({ b with
    memoryMap := b.memoryMap.reset
    apu := .reset
    input := .reset
    bootEntryPending := false }).resetDivider).setJoypadState 0x00#8

/-- Both windows show the banks the mapper selects. -/
def installWindows : Board :=
  let m := b.memoryMap
  let m := m.installRomWindow0x0000 (m.mapper.copyRomBankWindow m.mapper.currentFixedRomBank)
  { b with memoryMap :=
    m.installRomWindow0x4000 (m.mapper.copyRomBankWindow m.mapper.currentRomBank) }

/-- Everything `loadRom` does on the board once the cartridge and the mapper hold the image. -/
def startRom : Board :=
  let b := (b.resetSubsystems.installWindows).invalidateAllBlockCache
  ((b.resetDivider.setIoRegisterRaw 0xFF04#16 0x00#8).setJoypadState 0x00#8).seedRegisters

/-- The image replaces the one in the cartridge and in the mapper. -/
def insertCartridge (cartridge : GameBoyCartridge) (bytes : List Byte) : Board :=
  { b with memoryMap := { b.memoryMap with
    cartridge := cartridge, mapper := b.memoryMap.mapper.load bytes } }

/-- The board after a checkpoint's components replaced its own. -/
def restored (memoryMap : GameBoyMemoryMap) (apu : GameBoyAPU) (input : GameBoyInput)
    (bootEntryPending : Bool) : Board :=
  let input := input.writeRegister (memoryMap.peek 0xFF00#16)
  let b := { b with
    memoryMap := memoryMap
    apu := apu
    input := input
    bootEntryPending := bootEntryPending }.setIoRegisterRaw 0xFF00#16 input.readRegister
  let b := (List.range 0x80).foldl (fun b i =>
    let address : Addr := 0xFF00#16 + BitVec.ofNat 16 i
    b.syncCachedIoRegisterWrite address (b.peek address)) b
  b.syncCachedIoRegisterWrite 0xFFFF#16 (b.peek 0xFFFF#16)

end Board

namespace GameBoyMachine

variable (m : GameBoyMachine)

def board : Board := m.cpu.core.bus

def withCpu (cpu : LR3592) : GameBoyMachine := { m with cpu := cpu }

def withCore (m : GameBoyMachine) (core : Core Board) : GameBoyMachine :=
  m.withCpu (m.cpu.withCore core)

def withBoard (board : Board) : GameBoyMachine :=
  m.withCore { m.cpu.core with bus := board }

/-- A machine before any ROM. Its cached registers are zero, except the joypad's. -/
def powerOn : GameBoyMachine :=
  { cpu :=
      { core :=
          { af := 0
            bc := 0
            de := 0
            hl := 0
            sp := 0
            pc := 0
            flagset := 0
            cip := 0
            feedback := {}
            ime := false
            imeEnablePending := false
            imeEnableDelay := 0
            stopFlag := false
            haltFlag := false
            illegalOpcodeLockup := false
            haltBugActive := false
            haltBugPcAdjustPending := false
            pendingCycleCharge := 0
            bus :=
              { memoryMap :=
                  { cells := fun a => if a < 0xFE00#16 then 0x00#8 else 0xFF#8
                    bootRom := []
                    bootRomActive := false
                    romWindow0x0000 := ⟨[], false⟩
                    romWindow0x4000 := ⟨[], false⟩
                    mapper := .initial
                    cartridge := .initial }
                hardware :=
                  { joyp := 0xFF#8
                    sb := 0
                    sc := 0
                    div := 0
                    tima := 0
                    tma := 0
                    tac := 0
                    interruptFlags := 0
                    lcdc := 0
                    stat := 0
                    ly := 0
                    lyc := 0
                    dma := 0
                    ie := 0
                    instructionExecutionActive := false
                    instructionCycleEndOffset := 0
                    dividerResetEvents := []
                    dividerCounter := 0
                    dmaActive := false
                    dmaSourceBase := 0
                    dmaCycleProgress := 0
                    serialTransferActive := false
                    serialCycleProgress := 0
                    joypSelect := 0x30#8
                    joypadPressedMask := 0
                    ppuDotCounter := 0
                    lcdEnabledLastTick := false
                    statInterruptLatched := false
                    apu := ⟨false, 0, 0, 0, 0, 0⟩ }
                input := .reset
                apu := .reset
                blockCache := .empty
                blockCacheEnabled := true
                bootEntryPending := false } }
        portableIrEnabled := false
        portableIrExecutionSliceActive := false
        portableIrBlockSession := none
        currentVramBank := 0
        spriteContext := 0
        bankSwitchingEnabled := true }
    ppu := .reset
    allowFastPath := false
    romLoaded := false
    stepCounter := 0
    lastAudioFrameCounter := 0
    inputGeneration := 0
    lastDigitalInputMask := none }

/-- The devices outside the core follow the retired cycles; `LY`, the mode bits of `STAT` and
`NR52` show their state. -/
def advanceDevices (cycles : ℕ) : GameBoyMachine :=
  let ppu := m.ppu.step (m.board.peek 0xFF40#16) cycles
  let b := m.board.setIoRegisterRaw 0xFF44#16 ppu.ly
  let b := b.setIoRegisterRaw 0xFF41#16
    ((b.peek 0xFF41#16 &&& 0xF8#8) ||| (ppu.ppuMode &&& 0x03#8))
  let apu := b.apu.step cycles
  let b := { b with apu := apu }.setIoRegisterRaw 0xFF26#16 (apu.readRegister 0xFF26#16)
  { m.withBoard b with ppu := ppu }

/-- Events are taken from the pixel unit and an audio frame is noticed. -/
def takeEvents : GameBoyMachine :=
  { m with
    ppu := m.ppu.takeScanlineReady.1.takeVBlankEntered.1
    lastAudioFrameCounter := m.board.apu.frameCounter }

/-- What memory shows as requested and enabled. -/
def visibleInterrupts : Byte :=
  m.board.peek 0xFF0F#16 &&& m.board.peek 0xFFFF#16 &&& 0x1F#8

def onInstructionRetired (feedback : CpuFeedback) :
    GameBoyMachine × Option ExecutionSliceExitReason :=
  let m := ({ m with stepCounter := m.stepCounter + 1 }.advanceDevices
    feedback.retiredCycles).takeEvents
  (m, if m.visibleInterrupts ≠ 0 then some .machineBoundary else none)

def contextStep : Except String GameBoyMachine :=
  if ¬ m.romLoaded then .error "ROM is not loaded"
  else (m.cpu.step m.allowFastPath).map m.withCpu

def stepWithinExecutionSlice : Except String GameBoyMachine :=
  if m.allowFastPath then
    match m.cpu.tryExecutePortableIrBlockInstruction with
    | .error message => .error message
    | .ok (cpu, true) => .ok (m.withCpu cpu)
    | .ok (cpu, false) => (m.withCpu cpu).contextStep
  else m.contextStep

def beginExecutionSlice : GameBoyMachine :=
  m.withCpu m.cpu.beginPortableIrExecutionSlice

def endExecutionSlice : GameBoyMachine :=
  m.withCpu m.cpu.endPortableIrExecutionSlice

/-- One processor step with its retirement. -/
def retireStep : Except String (GameBoyMachine × Option ExecutionSliceExitReason) :=
  m.stepWithinExecutionSlice.map fun m => m.onInstructionRetired m.cpu.core.feedback

/-- The exits after an instruction that the machine lets continue. -/
def budgetExit (budget : ExecutionBudget) (r : ExecutionSliceResult) :
    Option ExecutionSliceExitReason :=
  if budget.stopOnSegmentBoundary ∧ r.lastFeedback.segmentBoundaryHint then some .segmentBoundary
  else if r.retiredCycles ≥ budget.maxCycles then some .cycleBudget
  else none

def sliceLoop (budget : ExecutionBudget) :
    ℕ → GameBoyMachine → ExecutionSliceResult → Except String (GameBoyMachine × ExecutionSliceResult)
  | 0, m, r => .ok (m, { r with exitReason := .instructionBudget })
  | instructions + 1, m, r =>
    match m.retireStep with
    | .error message => .error message
    | .ok (m', exit) =>
      let r := r.retired m'.cpu.core.feedback
      match exit.or (budgetExit budget r) with
      | some reason => .ok (m', { r with exitReason := reason })
      | none => sliceLoop budget instructions m' r

def runContextSlice (budget : ExecutionBudget) :
    Except String (GameBoyMachine × ExecutionSliceResult) :=
  if budget.maxInstructions = 0 then .ok (m, { exitReason := .instructionBudget })
  else if budget.maxCycles = 0 then .ok (m, { exitReason := .cycleBudget })
  else
    (sliceLoop budget budget.maxInstructions m.beginExecutionSlice {}).map fun (m, r) =>
      (m.endExecutionSlice, r)

/-- Leaving the boot ROM restarts the processor at the cartridge's entry point. -/
def enterCartridge : GameBoyMachine :=
  m.withCore { m.cpu.core with
    pc := 0x0100#16, bus := { m.board with bootEntryPending := false } }

def runSlice (budget : ExecutionBudget) : Except String (GameBoyMachine × ExecutionSliceResult) :=
  if m.board.bootEntryPending then .ok (m.enterCartridge, { exitReason := .machineBoundary })
  else m.runContextSlice budget

/-- The processor's part of a ROM load; the other fields keep what the last program left. -/
def startCore (core : Core Board) (board : Board) : Core Board :=
  { (({ core with bus := board }.setIme false).setStopFlag false).setHaltFlag false with
    af := 0x01B0#16
    bc := 0x0013#16
    de := 0x00D8#16
    hl := 0x014D#16
    sp := 0xFFFE#16
    pc := 0x0100#16 }

/-- `save` is the battery save found beside the ROM. -/
def loadRom (bytes : List Byte) (save : Option CartridgeSaveData) : Except String GameBoyMachine :=
  if bytes.isEmpty then .error "Cannot load empty ROM"
  else if bytes.length > kMaxRomSize then .error "ROM too large"
  else
    match GameBoyCartridge.load bytes with
    | .error message => .error message
    | .ok cartridge =>
      let cartridge := save.elim cartridge cartridge.importSaveData
      let board := (m.board.insertCartridge cartridge bytes).startRom
      .ok
        { m.withCore (startCore m.cpu.core board) with
          ppu := .reset
          romLoaded := true
          inputGeneration := m.inputGeneration + 1
          lastDigitalInputMask := none
          stepCounter := 0
          lastAudioFrameCounter := board.hardware.apu.frameCounter }

def loadExternalBootRom (bytes : List Byte) : Except String GameBoyMachine :=
  if bytes.length ≠ 0x100 then .error "Game Boy boot ROM must be exactly 256 bytes"
  else
    let b := { m.board with memoryMap := m.board.memoryMap.mapBootRom bytes }
    let b := (b.setIoRegisterRaw 0xFF50#16 0x00#8).invalidateAllBlockCache
    .ok (m.withCore { m.cpu.core with pc := 0x0000#16, bus := b })

/-- The sample reaches `JOYP` without an interrupt. -/
def serviceInput (pressedMask : Byte) : GameBoyMachine :=
  let input := m.board.input.setLogicalButtons pressedMask
  let b := { m.board with input := input }.syncCachedIoRegisterWrite 0xFF00#16 input.readRegister
  { m.withBoard (b.setIoRegisterRaw 0xFF00#16 input.readRegister) with
    lastDigitalInputMask := some pressedMask }

/-- A newly pressed button also ends `STOP`. -/
def setJoypadState (m : GameBoyMachine) (pressedMask : Byte) : GameBoyMachine :=
  let newlyPressed := pressedMask &&& ~~~m.board.hardware.joypadPressedMask
  let b := m.board.setJoypadState pressedMask
  let input := b.input.setLogicalButtons pressedMask
  let b := { b with input := input }.write 0xFF00#16 input.readRegister
  { m.withCore { m.cpu.core with
      stopFlag := m.cpu.core.stopFlag && newlyPressed == 0
      bus := b } with
    lastDigitalInputMask := some pressedMask }

def debugCommitByte (m : GameBoyMachine) (address : Addr) (value : Byte) : GameBoyMachine :=
  m.withBoard (m.board.debugCommitByte address value)

def attachExecutorPolicy (backend : ExecutionBackend) : GameBoyMachine :=
  { m.withCpu ((m.cpu.setBlockCacheEnabled (backend ≠ .baseline)).setPortableIrEnabled
      (backend = .portableIr)) with
    allowFastPath := backend ≠ .baseline }

def restoredMemoryMap (memoryMap : GameBoyMemoryMap) (mapper : GameBoyMapper)
    (cartridge : GameBoyCartridge) : GameBoyMemoryMap :=
  { memoryMap with mapper := mapper, cartridge := cartridge }.installRomWindow0x0000
    (mapper.copyRomBankWindow mapper.currentFixedRomBank)

def rejectWith (message : Option String) : Except String Unit :=
  message.elim (.ok ()) .error

/-- Every component is imported into a copy before any is replaced. -/
def loadState (file : SaveStateFile) : Except String GameBoyMachine := do
  if ¬ m.romLoaded then throw "Load ROM before loading Game Boy save state"
  let current := m.board.memoryMap
  rejectWith (file.rejectedForCore current.mapper.romData)
  let cartridge ← current.cartridge.importState file.cartridge
  let mapper ← (current.mapper.load current.mapper.romData).importState file.mapper
  let apu ← GameBoyAPU.importState file.apu
  let ppu ← m.ppu.importState (m.board.peek 0xFF40#16) file.ppu
  let input ← GameBoyInput.importState file.input
  rejectWith (LR3592.validateState file.cpu)
  let memoryMap ← powerOn.board.memoryMap.importState file.memory
  let memoryMap := restoredMemoryMap memoryMap mapper cartridge
  let cpu := m.cpu.importState file.cpu
  let board := cpu.core.bus.restored memoryMap apu input file.bootEntryPending
  return { m.withCpu (cpu.withCore { cpu.core with bus := board }) with
    ppu := ppu
    stepCounter := file.stepCounter
    lastAudioFrameCounter := file.lastAudioFrameCounter
    lastDigitalInputMask := file.lastDigitalInputMask.bind fun mask =>
      if mask ≤ 0xFF then some (BitVec.ofNat 8 mask) else none
    inputGeneration := file.inputGeneration }

/-- What a host can ask of the machine. Execution is cut at instruction boundaries: a slice is
`beginSlice`, some `retireStep` and `endSlice`. -/
inductive Action where
  | loadRom (bytes : List Byte) (save : Option CartridgeSaveData)
  | loadExternalBootRom (bytes : List Byte)
  | attachExecutorPolicy (backend : ExecutionBackend)
  | enterCartridge
  | beginSlice
  | retireStep
  | endSlice
  | serviceInput (pressedMask : Byte)
  | setJoypadState (pressedMask : Byte)
  | write8 (address : Addr) (value : Byte)
  | debugCommitByte (address : Addr) (value : Byte)
  | loadState (file : SaveStateFile)

def perform : Action → Except String GameBoyMachine
  | .loadRom bytes save => m.loadRom bytes save
  | .loadExternalBootRom bytes => m.loadExternalBootRom bytes
  | .attachExecutorPolicy backend => .ok (m.attachExecutorPolicy backend)
  | .enterCartridge => .ok m.enterCartridge
  | .beginSlice => .ok m.beginExecutionSlice
  | .retireStep => m.retireStep.map (·.1)
  | .endSlice => .ok m.endExecutionSlice
  | .serviceInput pressedMask => .ok (m.serviceInput pressedMask)
  | .setJoypadState pressedMask => .ok (m.setJoypadState pressedMask)
  | .write8 address value => .ok (m.withBoard (m.board.write address value))
  | .debugCommitByte address value => .ok (m.debugCommitByte address value)
  | .loadState file => m.loadState file

/-- A refused request leaves the machine as it was. -/
def act (a : Action) : GameBoyMachine :=
  match m.perform a with
  | .ok m' => m'
  | .error _ => m

/-! ## Slices -/

variable {budget : ExecutionBudget} {m : GameBoyMachine} {r : ExecutionSliceResult}

end GameBoyMachine

end ProtoTime.GameBoy
