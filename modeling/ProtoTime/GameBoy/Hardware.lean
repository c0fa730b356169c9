import ProtoTime.GameBoy.MemoryMap
import ProtoTime.GameBoy.Core

/-!
The timed hardware inside the processor core: the cached I/O registers, the
divider and timer, the serial port, OAM DMA, the joypad lines, the LCD timing
that raises interrupts, and the part of the core's audio unit that counts samples.

The core keeps a copy of each register it times and writes the copy through to
memory when it changes. Updates are functions on the copies; `publish` is the
write-through.
-/
namespace ProtoTime.GameBoy

def kCpuClockHz : ℕ := 4194304

def kApuSampleRate : ℕ := 48000

def kApuFrameChunkSamples : ℕ := 256

/-- The counters of the core's audio unit; its channels drive no register or counter. -/
structure CoreApu where
  masterEnabled : Bool
  frameSequencerCounter : ℕ
  frameSequencerStep : ℕ
  sampleAccumulator : ℕ
  sampleCounter : ℕ
  frameCounter : ℕ
  deriving DecidableEq

namespace CoreApu

def stepApuFrameSequencer (a : CoreApu) : CoreApu :=
  { a with frameSequencerStep := (a.frameSequencerStep + 1) &&& 0x07 }

def pushApuSample (a : CoreApu) : CoreApu :=
  let sampleCounter := a.sampleCounter + 1
  { a with
    sampleCounter := sampleCounter
    frameCounter :=
      if sampleCounter % kApuFrameChunkSamples = 0 then a.frameCounter + 1 else a.frameCounter }

def stepApuOneCycle (a : CoreApu) : CoreApu :=
  let a := if a.masterEnabled then
      let counter := a.frameSequencerCounter + 1
      if counter ≥ 8192 then { a with frameSequencerCounter := 0 }.stepApuFrameSequencer
      else { a with frameSequencerCounter := counter }
    else a
  let accumulator := a.sampleAccumulator + kApuSampleRate
  pushApuSample^[accumulator / kCpuClockHz]
    { a with sampleAccumulator := accumulator % kCpuClockHz }

end CoreApu

structure DividerResetEvent where
  cycleOffset : ℕ
  tac : Byte
  deriving DecidableEq

structure Hardware where
  joyp : Byte
  sb : Byte
  sc : Byte
  div : Byte
  tima : Byte
  tma : Byte
  tac : Byte
  interruptFlags : Byte
  lcdc : Byte
  stat : Byte
  ly : Byte
  lyc : Byte
  dma : Byte
  ie : Byte
  instructionExecutionActive : Bool
  instructionCycleEndOffset : ℕ
  dividerResetEvents : List DividerResetEvent
  dividerCounter : BitVec 16
  dmaActive : Bool
  dmaSourceBase : Addr
  dmaCycleProgress : ℕ
  serialTransferActive : Bool
  serialCycleProgress : ℕ
  joypSelect : Byte
  joypadPressedMask : Byte
  ppuDotCounter : ℕ
  lcdEnabledLastTick : Bool
  statInterruptLatched : Bool
  apu : CoreApu
  deriving DecidableEq

def timerBitMaskForTac (tac : Byte) : BitVec 16 :=
  match (tac &&& 0x03#8).toNat with
  | 0x00 => 1#16 <<< 9
  | 0x01 => 1#16 <<< 3
  | 0x02 => 1#16 <<< 5
  | 0x03 => 1#16 <<< 7
  | _ => 1#16 <<< 9

/-- The timer input: a divider bit, gated by the enable bit. -/
def timerSignal (tac : Byte) (dividerCounter : BitVec 16) : Bool :=
  tac &&& 0x04#8 != 0 && dividerCounter &&& timerBitMaskForTac tac != 0

def kDotsPerLine : ℕ := 456

def kDotsPerFrame : ℕ := 154 * 456

def kDmaCycles : ℕ := 0xA0 * 4

def kSerialCycles : ℕ := 4096

def kMaxDividerResetEvents : ℕ := 64

namespace Hardware

variable (h : Hardware)

def requestInterrupt (mask : Byte) : Hardware :=
  { h with interruptFlags := (h.interruptFlags ||| mask) &&& kInterruptMask }

def timerEdge : Hardware :=
  if h.tima = 0xFF#8 then { h with tima := h.tma }.requestInterrupt kInterruptTimer
  else { h with tima := h.tima + 1 }

/-- The bytes of the transfer go to storage that the memory map never reads. -/
def dmaCycle : Hardware :=
  if h.dmaActive then
    let progress := (h.dmaCycleProgress + 1) % 0x10000
    if progress ≥ kDmaCycles then { h with dmaActive := false, dmaCycleProgress := 0 }
    else { h with dmaCycleProgress := progress }
  else h

def serialCycle : Hardware :=
  if h.serialTransferActive then
    let progress := (h.serialCycleProgress + 1) % 0x10000
    if progress ≥ kSerialCycles then
      { h with
        serialTransferActive := false
        serialCycleProgress := 0
        sb := 0xFF#8
        sc := h.sc &&& 0x7F#8 }.requestInterrupt kInterruptSerial
    else { h with serialCycleProgress := progress }
  else h

def timerCycle : Hardware :=
  let h' := { h with dividerCounter := h.dividerCounter + 1 }
  if timerSignal h.tac h.dividerCounter && !timerSignal h.tac h'.dividerCounter then h'.timerEdge
  else h'

/-- One queued reset takes effect, with the timer control of the moment it was queued. -/
def applyDividerReset (event : DividerResetEvent) : Hardware :=
  let h' := { h with dividerCounter := 0 }
  if timerSignal event.tac h.dividerCounter then h'.timerEdge else h'

/-- The resets queued up to the end of cycle `i` of the instruction. -/
def dividerResetsThrough (i : ℕ) : List DividerResetEvent → Hardware → Hardware
  | [], h => { h with dividerResetEvents := [] }
  | event :: events, h =>
    if event.cycleOffset ≤ i + 1 then dividerResetsThrough i events (h.applyDividerReset event)
    else { h with dividerResetEvents := event :: events }

def lcdOffCycle : Hardware :=
  { h with
    ppuDotCounter := 0
    lcdEnabledLastTick := false
    statInterruptLatched := false
    ly := 0
    stat := if h.lyc = 0 then (h.stat &&& 0xF8#8) ||| 0x04#8 else (h.stat &&& 0xF8#8) &&& ~~~0x04#8 }

def modeAt (ly : Byte) (lineDot : ℕ) : Byte :=
  if 144#8 ≤ ly then 1
  else if lineDot < 80 then 2
  else if lineDot < 252 then 3
  else 0

def statInterruptRequested (stat mode : Byte) (coincidence : Bool) : Bool :=
  (coincidence && stat &&& 0x40#8 != 0) || (mode == 0 && stat &&& 0x08#8 != 0) ||
    (mode == 1 && stat &&& 0x10#8 != 0) || (mode == 2 && stat &&& 0x20#8 != 0)

/-- The first cycle with the display on starts a frame. -/
def lcdStart : Hardware :=
  if h.lcdEnabledLastTick then h
  else
    { h with
      ppuDotCounter := 0
      ly := 0
      lcdEnabledLastTick := true
      statInterruptLatched := false }

def lcdOnCycle : Hardware :=
  let h := h.lcdStart
  let previousLy : Byte := BitVec.ofNat 8 (h.ppuDotCounter / kDotsPerLine)
  let dot := (h.ppuDotCounter + 1) % 2 ^ 32 % kDotsPerFrame
  let ly : Byte := BitVec.ofNat 8 (dot / kDotsPerLine)
  let mode := modeAt ly (dot % kDotsPerLine)
  let stat := (h.stat &&& 0xF8#8) ||| mode
  let coincidence := ly == h.lyc
  let stat := if coincidence then stat ||| 0x04#8 else stat &&& ~~~0x04#8
  let requested := statInterruptRequested stat mode coincidence
  let raised := requested && !h.statInterruptLatched
  let h := { h with ppuDotCounter := dot, ly := ly, stat := stat, statInterruptLatched := requested }
  let h := if raised then h.requestInterrupt kInterruptLcdStat else h
  if previousLy ≠ 144#8 ∧ ly = 144#8 then h.requestInterrupt kInterruptVBlank else h

def lcdEnabled : Bool := h.lcdc &&& 0x80#8 != 0

def lcdCycle : Hardware := if h.lcdEnabled then h.lcdOnCycle else h.lcdOffCycle

def apuCycle : Hardware := { h with apu := h.apu.stepApuOneCycle }

def retireCycle (i : ℕ) (h : Hardware) : Hardware :=
  let h := h.dmaCycle.serialCycle.timerCycle
  (dividerResetsThrough i h.dividerResetEvents h).apuCycle.lcdCycle

def retireCycles (i : ℕ) : ℕ → Hardware → Hardware
  | 0, h => h
  | n + 1, h => retireCycles (i + 1) n (retireCycle i h)

/-- `DIV` is refreshed once, after the last cycle; later resets move closer by what was retired. -/
def retire (cycles : ℕ) (h : Hardware) : Hardware :=
  if cycles = 0 then h
  else
    let h := retireCycles 0 cycles h
    { h with
      div := (h.dividerCounter >>> 8).setWidth 8
      dividerResetEvents :=
        h.dividerResetEvents.map fun event =>
          { event with cycleOffset := event.cycleOffset - min event.cycleOffset cycles } }

def resetDivider : Hardware :=
  let h := if h.instructionExecutionActive ∧
      h.dividerResetEvents.length < kMaxDividerResetEvents then
      { h with
        dividerResetEvents :=
          h.dividerResetEvents ++ [⟨h.instructionCycleEndOffset, h.tac⟩] }
    else h.applyDividerReset ⟨0, h.tac⟩
  { h with div := 0 }

def joypadLowNibble : Byte :=
  let low := if h.joypSelect &&& 0x10#8 = 0 then
      0x0F#8 &&& ~~~(h.joypadPressedMask &&& 0x0F#8) else 0x0F#8
  let low := if h.joypSelect &&& 0x20#8 = 0 then
      low &&& ~~~((h.joypadPressedMask >>> 4) &&& 0x0F#8) else low
  low &&& 0x0F#8

def joypadLinesChanged (oldLow : Byte) (h : Hardware) : Hardware :=
  let h' := { h with joyp := 0xC0#8 ||| h.joypSelect ||| h.joypadLowNibble }
  if oldLow &&& ~~~h.joypadLowNibble ≠ 0 then h'.requestInterrupt kInterruptJoypad else h'

def setJoypadState (pressedMask : Byte) (h : Hardware) : Hardware :=
  joypadLinesChanged h.joypadLowNibble { h with joypadPressedMask := pressedMask }

def syncCachedIoRegisterWrite (address : Addr) (value : Byte) (h : Hardware) : Hardware :=
  match address.toNat with
  | 0xFF01 => { h with sb := value }
  | 0xFF02 => { h with sc := value }
  | 0xFF04 => { h with div := value }
  | 0xFF05 => { h with tima := value }
  | 0xFF06 => { h with tma := value }
  | 0xFF07 => { h with tac := value }
  | 0xFF0F => { h with interruptFlags := value }
  | 0xFF40 => { h with lcdc := value }
  | 0xFF41 => { h with stat := value }
  | 0xFF44 => { h with ly := value }
  | 0xFF45 => { h with lyc := value }
  | 0xFF46 => { h with dma := value }
  | 0xFFFF => { h with ie := value }
  | _ => h

/-- A one-byte store through the core's own interceptors, for the registers it gives a side
effect. -/
def handleMemoryWrite (address : Addr) (value : Byte) (h : Hardware) : Hardware :=
  match (resolveEchoAddress address).toNat with
  | 0xFF00 => joypadLinesChanged h.joypadLowNibble { h with joypSelect := value &&& 0x30#8 }
  | 0xFF02 =>
    { h with
      sc := value
      serialTransferActive := value &&& 0x80#8 != 0
      serialCycleProgress := 0 }
  | 0xFF04 => h.resetDivider
  | 0xFF41 => { h with stat := 0x80#8 ||| (value &&& 0x78#8) ||| (h.stat &&& 0x07#8) }
  | 0xFF44 =>
    let stat := (h.stat &&& 0x78#8) ||| (if h.lcdEnabled then 0x02#8 else 0x00#8) ||| 0x80#8
    { h with
      ppuDotCounter := 0
      ly := 0
      stat := if h.lyc = 0 then stat ||| 0x04#8 else stat &&& ~~~0x04#8
      statInterruptLatched := false }
  | 0xFF46 =>
    { h with
      dma := value
      dmaActive := true
      dmaSourceBase := value.setWidth 16 <<< 8
      dmaCycleProgress := 0 }
  | _ => h.syncCachedIoRegisterWrite address value

def cachedRegisters : List (Addr × (Hardware → Byte)) :=
  [(0xFF00#16, joyp), (0xFF01#16, sb), (0xFF02#16, sc), (0xFF04#16, div), (0xFF05#16, tima),
    (0xFF06#16, tma), (0xFF07#16, tac), (0xFF0F#16, interruptFlags), (0xFF40#16, lcdc),
    (0xFF41#16, stat), (0xFF44#16, ly), (0xFF45#16, lyc), (0xFF46#16, dma), (0xFFFF#16, ie)]

/-- A cached register whose value changed is written to memory. -/
def publish (before after : Hardware) (memoryMap : GameBoyMemoryMap) : GameBoyMemoryMap :=
  cachedRegisters.foldl
    (fun m slot =>
      if slot.2 before = slot.2 after then m else m.setIoRegisterRaw slot.1 (slot.2 after))
    memoryMap

end Hardware

end ProtoTime.GameBoy
