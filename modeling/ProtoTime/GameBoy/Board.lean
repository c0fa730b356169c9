import ProtoTime.InstCycle.ThreadedBlockCache
import ProtoTime.GameBoy.Apu
import ProtoTime.GameBoy.Hardware

/-!
What the processor of the machine reaches through its memory accesses: the
memory map with the mapper and the cartridge, the timed hardware, the joypad
device, the sound unit and the translated-block cache that writes invalidate.
-/
namespace ProtoTime.GameBoy

/-- The joypad device behind `JOYP`: logical buttons and the two select bits. -/
structure GameBoyInput where
  logicalButtons : Byte
  joypRegister : Byte
  deriving DecidableEq

namespace GameBoyInput

/-- Neither group selected, no button pressed. -/
def reset : GameBoyInput := ⟨0x00#8, 0xCF#8⟩

variable (i : GameBoyInput)

def setLogicalButtons (mask : Byte) : GameBoyInput :=
  { i with logicalButtons := mask }

/-- The low nibble is active low: a pressed button of a selected group reads as zero. -/
def readRegister : Byte :=
  let result := 0xC0#8 ||| (i.joypRegister &&& 0x30#8) ||| 0x0F#8
  let dirSelected := i.joypRegister &&& 0x10#8 == 0
  let btnSelected := i.joypRegister &&& 0x20#8 == 0
  let result := if dirSelected then result &&& ~~~(i.logicalButtons &&& 0x0F#8) else result
  if btnSelected then result &&& ~~~((i.logicalButtons >>> 4) &&& 0x0F#8) else result

def writeRegister (value : Byte) : GameBoyInput :=
  { i with joypRegister := (i.joypRegister &&& 0xCF#8) ||| (value &&& 0x30#8) }

def exportState : List Byte := [i.logicalButtons, i.joypRegister]

def importState (state : List Byte) : Except String GameBoyInput :=
  match state with
  | [buttons, joyp] => .ok ⟨buttons, 0xC0#8 ||| (joyp &&& 0x30#8) ||| 0x0F#8⟩
  | _ => .error "Input state must be exactly 2 bytes"

end GameBoyInput

structure Board where
  memoryMap : GameBoyMemoryMap
  hardware : Hardware
  input : GameBoyInput
  apu : GameBoyAPU
  blockCache : ThreadedBlockCache
  blockCacheEnabled : Bool
  bootEntryPending : Bool

namespace Board

variable (b : Board)

/-- An update of the timed hardware with its write-through to memory. -/
def writeCached (f : Hardware → Hardware) : Board :=
  let hardware := f b.hardware
  { b with hardware := hardware, memoryMap := Hardware.publish b.hardware hardware b.memoryMap }

def peek (b : Board) (address : Addr) : Byte := b.memoryMap.peek address

def setIoRegisterRaw (b : Board) (address : Addr) (value : Byte) : Board :=
  { b with memoryMap := b.memoryMap.setIoRegisterRaw address value }

def invalidateAllBlockCache : Board :=
  { b with blockCache := b.blockCache.invalidateAll }

/-- A write that can change the mapping drops every block, even while the cache is disabled. -/
def invalidateBlockCacheForWrite (address : Addr) : Board :=
  let address := resolveEchoAddress address
  if address < 0x8000#16 ∨ address = 0xFF50#16 then b.invalidateAllBlockCache
  else if ¬ b.blockCacheEnabled then b
  else { b with blockCache := b.blockCache.invalidateRange address address }

def syncCachedIoRegisterWrite (b : Board) (address : Addr) (value : Byte) : Board :=
  b.writeCached (Hardware.syncCachedIoRegisterWrite (resolveEchoAddress address) value)

/-- `JOYP` keeps what the joypad device answers. -/
def observeJoypad (value : Byte) : Board :=
  let input := b.input.writeRegister value
  let b := { b with input := input }.setIoRegisterRaw 0xFF00#16 input.readRegister
  b.syncCachedIoRegisterWrite 0xFF00#16 input.readRegister

/-- `NR52` shows the channel states of the sound unit. -/
def observeAudio (address : Addr) (value : Byte) : Board :=
  let apu := b.apu.writeRegister address value
  { b with apu := apu }.setIoRegisterRaw 0xFF26#16 (apu.readRegister 0xFF26#16)

def isAudioRegister (address : Addr) : Bool :=
  (decide (0xFF10#16 ≤ address) && decide (address ≤ 0xFF26#16)) ||
    (decide (0xFF30#16 ≤ address) && decide (address ≤ 0xFF3F#16))

/-- The write observer of the memory map; the address has its echo resolved. -/
def observeWrite (address : Addr) (value : Byte) : Board :=
  let observedValue :=
    if (0xFF00#16 ≤ address ∧ address < 0xFF80#16) ∨ address = 0xFFFF#16 then b.peek address
    else value
  let b := b.invalidateBlockCacheForWrite address
  let b := b.syncCachedIoRegisterWrite address observedValue
  let b := if address = 0xFF00#16 then b.observeJoypad value else b
  let b := if isAudioRegister address then b.observeAudio address value else b
  let b := if address = 0xFF50#16 ∧ value ≠ 0 then { b with bootEntryPending := true } else b
  if address < 0x8000#16 ∨ (0xA000#16 ≤ address ∧ address < 0xC000#16) then
    { b with memoryMap := { b.memoryMap with
      cartridge := (b.memoryMap.cartridge.write address value).1 } }
  else b

def write (b : Board) (address : Addr) (value : Byte) : Board :=
  { b with memoryMap := b.memoryMap.write address value }.observeWrite
    (resolveEchoAddress address) value

instance : CpuBus Board where
  read b address := b.memoryMap.read address
  write := write
  beginStep n b :=
    { b with hardware := { b.hardware with
      instructionExecutionActive := true, instructionCycleEndOffset := n } }
  endStep b := { b with hardware := { b.hardware with instructionExecutionActive := false } }
  retire n b := b.writeCached (Hardware.retire n)
  interruptFlags b := b.hardware.interruptFlags
  interruptEnable b := b.hardware.ie
  setInterruptFlags flags b := b.writeCached fun h => { h with interruptFlags := flags }
  dmaActive b := b.hardware.dmaActive

/-- The debugger's edit of work RAM or high RAM. -/
def debugCommitByte (address : Addr) (value : Byte) : Board :=
  { b with memoryMap := b.memoryMap.debugCommitRam address value }.invalidateBlockCacheForWrite
    (resolveEchoAddress address)

end Board

end ProtoTime.GameBoy
