import ProtoTime.GameGear.VdpSprites
import ProtoTime.ByteReader

/-!
The whole VDP: the ports, the registers, the palette, the line counters and interrupts, and its
state chunk. The sprite evaluation is that of the sprite modules.
-/
namespace ProtoTime.GameGear
open Function ByteReader
open GameBoy (Byte Addr hi lo word)

inductive AccessMode where
  | vramRead | vramWrite | registerWrite | cramWrite
  deriving DecidableEq

namespace AccessMode

/-- The mode of a two-bit command. -/
def ofCommand (command : ℕ) : AccessMode :=
  match command % 4 with
  | 0 => .vramRead
  | 1 => .vramWrite
  | 2 => .registerWrite
  | _ => .cramWrite

def toByte : AccessMode → Byte
  | .vramRead => 0
  | .vramWrite => 1
  | .registerWrite => 2
  | .cramWrite => 3

end AccessMode

structure VdpDevice extends GameGearVDP where
  oam : Fin 0xA0 → Byte := fun _ => 0
  cram : Fin 0x40 → Byte := fun _ => 0
  decodedCram : Fin 32 → BitVec 32 := fun _ => 0
  pendingCycles : ℕ := 0
  scanline : ℕ := 0
  lastReadyScanline : Byte := 0
  hCounter : Byte := 0
  latchedHCounter : Byte := 0
  hCounterLatched : Bool := false
  scanlineReadyPending : Bool := false
  vblankPending : Bool := false
  frameInterruptPending : Bool := false
  lineInterruptPending : Bool := false
  irqAsserted : Bool := false
  dataAddress : Addr := 0
  commandLow : Byte := 0
  readBuffer : Byte := 0
  lineCounter : Byte := 0
  verticalScrollLatch : Byte := 0
  accessMode : AccessMode := .vramRead
  commandLatchPending : Bool := false

namespace VdpDevice

def kCyclesPerScanline : ℕ := 228
def kTotalScanlines : ℕ := 262

def construct : VdpDevice where
  vram := fun _ => 0
  registers := fun _ => 0
  smsMode := false

def colorOfChannels (red green blue : Byte) : BitVec 32 :=
  0xFF000000#32 ||| (red.setWidth 32 <<< 16) ||| (green.setWidth 32 <<< 8) ||| blue.setWidth 32

def colorFromCramWord (cramWord : BitVec 16) : BitVec 32 :=
  colorOfChannels ((cramWord &&& 0x000F#16).setWidth 8 * 17)
    (((cramWord >>> 4) &&& 0x000F#16).setWidth 8 * 17)
    (((cramWord >>> 8) &&& 0x000F#16).setWidth 8 * 17)

variable (v : VdpDevice)

def cramAt (index : ℕ) : Byte := v.cram (Fin.ofNat 0x40 index)

/-- The color of one palette entry: one byte of two-bit channels in Master System mode, two
bytes of four-bit channels otherwise. -/
def decodedCramColor (index : Fin 32) : BitVec 32 :=
  if v.smsMode then
    let smsColor := v.cramAt index
    colorOfChannels ((smsColor &&& 0x03#8) * 85) (((smsColor >>> 2) &&& 0x03#8) * 85)
      (((smsColor >>> 4) &&& 0x03#8) * 85)
  else
    let even := v.cramAt (index * 2)
    let odd := v.cramAt (index * 2 + 1)
    colorFromCramWord (even.setWidth 16 ||| ((odd &&& 0x0F#8).setWidth 16 <<< 8))

def updateDecodedCramEntry (colorIndex : ℕ) : VdpDevice :=
  let index := Fin.ofNat 32 colorIndex
  { v with decodedCram := update v.decodedCram index (v.decodedCramColor index) }

def recomputeDecodedCramCache : VdpDevice :=
  { v with decodedCram := v.decodedCramColor }

def recomputeIrqAsserted : VdpDevice :=
  let vblankEnabled := v.registers 1 &&& 0x20#8 != 0
  let lineEnabled := v.registers 0 &&& 0x10#8 != 0
  { v with irqAsserted :=
      (v.frameInterruptPending && vblankEnabled) || (v.lineInterruptPending && lineEnabled) }

/-- A palette entry as two bytes of four-bit channels. -/
def setWord (cram : Fin 0x40 → Byte) (entry : ℕ × Byte × Byte × Byte) : Fin 0x40 → Byte :=
  let (colorIndex, red, green, blue) := entry
  update
    (update cram (Fin.ofNat 0x40 (colorIndex * 2)) (((green &&& 0x0F#8) <<< 4) ||| (red &&& 0x0F#8)))
    (Fin.ofNat 0x40 (colorIndex * 2 + 1)) (blue &&& 0x0F#8)

def kDefaultColors : List (ℕ × Byte × Byte × Byte) :=
  [(0, 14, 15, 13), (1, 8, 12, 7), (2, 3, 6, 5), (3, 0, 1, 2), (16, 14, 15, 13), (17, 15, 0, 0),
    (18, 0, 15, 0), (19, 0, 0, 15), (20, 15, 15, 15)]

def seedDefaultCram : VdpDevice :=
  let black := (List.range 32).map fun colorIndex => (colorIndex, 0, 0, 0)
  { v with cram := (black ++ kDefaultColors).foldl setWord v.cram }

/-- The sprite entries start out off the screen. -/
def hideSprites : VdpDevice :=
  let satBase := v.spriteAttributeTableBase
  if satBase + 64 ≤ GameGearVDP.kVramSize then
    { v with vram := fun i => if satBase ≤ i ∧ i < satBase + 64 then 0xE0 else v.vram i }
  else v

/-- The Master System mode is not among what a reset sets. -/
def reset : VdpDevice :=
  let v : VdpDevice :=
    { vram := fun _ => 0
      registers := fun i => if i = 2 ∨ i = 5 ∨ i = 6 then 0xFF else 0
      smsMode := v.smsMode
      decodedCram := v.decodedCram }
  v.seedDefaultCram.recomputeDecodedCramCache.hideSprites

def setSmsMode (enabled : Bool) : VdpDevice :=
  { v with smsMode := enabled }.recomputeDecodedCramCache

def vCounterValue : Byte :=
  if v.activeDisplayLines = 224 then
    BitVec.ofNat 8 (if v.scanline ≤ 0xEA then v.scanline else v.scanline - 6)
  else if v.activeDisplayLines = 240 then BitVec.ofNat 8 v.scanline
  else BitVec.ofNat 8 (if v.scanline ≤ 0xDA then v.scanline else v.scanline - 6)

def evaluateScanlineStatus (v : VdpDevice) (scanline : Byte) : VdpDevice :=
  { v with toGameGearVDP := v.toGameGearVDP.evaluateScanlineStatus scanline.toNat }

def finishLine (displayOn : Bool) : VdpDevice :=
  if displayOn ∧ v.scanline < v.activeDisplayLines then
    let currentV := v.vCounterValue
    { v.evaluateScanlineStatus currentV with
      lastReadyScanline := currentV
      scanlineReadyPending := true }
  else v

/-- The line counter runs down on the displayed lines and is reloaded on the others. -/
def countLine : VdpDevice :=
  if v.scanline ≤ v.activeDisplayLines then
    if v.lineCounter = 0 then
      { v with lineCounter := v.registers 0x0A, lineInterruptPending := true }.recomputeIrqAsserted
    else { v with lineCounter := v.lineCounter - 1 }
  else { v with lineCounter := v.registers 0x0A, verticalScrollLatch := v.registers 9 }

def enterVBlank : VdpDevice :=
  if v.scanline = v.activeDisplayLines + 1 then
    { v with vblankPending := true, frameInterruptPending := true }.recomputeIrqAsserted
  else v

/-- One pass of the line loop. -/
def advanceLine (displayOn : Bool) (v : VdpDevice) : VdpDevice :=
  let v := v.finishLine displayOn
  let next := v.scanline + 1
  { v with scanline := if next ≥ kTotalScanlines then 0 else next }.countLine.enterVBlank

/-- The loop takes one line's cycles off for each line it passes. -/
def step (cpuCycles : ℕ) : VdpDevice :=
  let pending := (v.pendingCycles + cpuCycles) % 2 ^ 32
  let left := pending % kCyclesPerScanline
  let v := (advanceLine v.displayEnabled)^[pending / kCyclesPerScanline]
    { v with pendingCycles := left }
  { v with hCounter := BitVec.ofNat 8 (left * 256 / kCyclesPerScanline) }

def setVram (index : ℕ) (value : Byte) : VdpDevice :=
  { v with vram := update v.vram (Fin.ofNat 0x4000 index) value }

def readVram (address : Addr) : Byte :=
  if 0x8000#16 ≤ address ∧ address < 0xC000#16 then v.vramAt (address - 0x8000#16).toNat else 0xFF

def writeVram (address : Addr) (value : Byte) : VdpDevice :=
  if 0x8000#16 ≤ address ∧ address < 0xC000#16 then v.setVram (address - 0x8000#16).toNat value
  else v

/-- The byte of the attribute table that a field of a sprite entry stands for. -/
def oamVramIndex (index : ℕ) : Option ℕ :=
  let spriteIndex := index / 4
  let satBase := v.spriteAttributeTableBase
  match index % 4 with
  | 0 => some (satBase + spriteIndex)
  | 1 => some (satBase + 0x80 + spriteIndex * 2)
  | 2 => some (satBase + 0x80 + spriteIndex * 2 + 1)
  | _ => none

def readOam (address : Addr) : Byte :=
  if 0xFE00#16 ≤ address ∧ address < 0xFEA0#16 then
    let index := (address - 0xFE00#16).toNat
    match v.oamVramIndex index with
    | some target => v.vramAt target
    | none => v.oam (Fin.ofNat 0xA0 index)
  else 0xFF

def writeOam (address : Addr) (value : Byte) : VdpDevice :=
  if 0xFE00#16 ≤ address ∧ address < 0xFEA0#16 then
    let index := (address - 0xFE00#16).toNat
    let v := { v with oam := update v.oam (Fin.ofNat 0xA0 index) value }
    match v.oamVramIndex index with
    | some target => v.setVram target value
    | none => v
  else v

def readCompatRegister (index : ℕ) : Byte :=
  if h : index < 0x0B then v.registers ⟨index, h⟩ else 0xFF

def writeCompatRegister (index : ℕ) (value : Byte) : VdpDevice :=
  if h : index < 0x0B then
    let v := { v with registers := update v.registers ⟨index, h⟩ value }
    let v := if index = 9 ∧ v.scanline > v.activeDisplayLines then
      { v with verticalScrollLatch := value } else v
    let v := if index = 0x0A ∧ v.scanline = 0 then { v with lineCounter := value } else v
    v.recomputeIrqAsserted
  else v

def readRegister (address : Addr) : Byte :=
  if 0xFF40#16 ≤ address ∧ address ≤ 0xFF4B#16 then
    v.readCompatRegister (address - 0xFF40#16).toNat
  else 0xFF

def writeRegister (address : Addr) (value : Byte) : VdpDevice :=
  if address < 0xFF40#16 ∨ address > 0xFF4B#16 then v
  else v.writeCompatRegister (address - 0xFF40#16).toNat value

/-- The address after an access; it wraps at 14 bits. -/
def nextAddress : Addr := (v.dataAddress + 1) &&& 0x3FFF#16

def vramAtData : Byte := v.vramAt (v.dataAddress &&& 0x3FFF#16).toNat

def readDataPort : Byte × VdpDevice :=
  (v.readBuffer,
    { v with
      commandLatchPending := false
      readBuffer := v.vramAtData
      dataAddress := v.nextAddress })

def readControlPort : Byte × VdpDevice :=
  let line := v.vCounterValue
  let v := { v with commandLatchPending := false }
  let v := if line.toNat < v.activeDisplayLines ∧
      (v.statusScanlineConsumed = false ∨ line.toNat ≠ v.lastStatusScanline) then
    v.evaluateScanlineStatus line else v
  let status : Byte := (if v.frameInterruptPending then 0x80 else 0) |||
    (if v.spriteOverflowPending then 0x40 else 0) |||
    (if v.spriteCollisionPending then 0x20 else 0)
  let v := { v with
    frameInterruptPending := false
    lineInterruptPending := false
    spriteOverflowPending := false
    spriteCollisionPending := false }
  let v := v.recomputeIrqAsserted
  (status, { v with lastStatusScanline := line.toNat, statusScanlineConsumed := true })

/-- In palette mode the byte goes to the palette, otherwise to video memory. -/
def writeDataPort (value : Byte) : VdpDevice :=
  let v := { v with commandLatchPending := false, readBuffer := value }
  if v.accessMode = .cramWrite then
    if v.smsMode then
      let cramIndex := v.dataAddress.toNat % 0x20
      let v := { v with cram := update v.cram (Fin.ofNat 0x40 cramIndex) (value &&& 0x3F#8) }
      let v := v.updateDecodedCramEntry cramIndex
      { v with dataAddress := v.nextAddress }
    else
      let cramIndex := v.dataAddress.toNat % 0x40
      let v := { v with cram := update v.cram (Fin.ofNat 0x40 cramIndex) value }
      let v := v.updateDecodedCramEntry (cramIndex / 2)
      { v with dataAddress := v.nextAddress }
  else
    let v := v.setVram (v.dataAddress &&& 0x3FFF#16).toNat value
    { v with dataAddress := v.nextAddress }

/-- The second byte of a command: it sets the address and the access mode, and writes a
register or fills the read buffer. -/
def executeCommand (value : Byte) : VdpDevice :=
  let command := ((value >>> 6) &&& 0x03#8).toNat
  let v := { v with
    commandLatchPending := false
    dataAddress := word v.commandLow (value &&& 0x3F#8) &&& 0x3FFF#16
    accessMode := AccessMode.ofCommand command }
  if command = 2 then v.writeCompatRegister (value &&& 0x0F#8).toNat v.commandLow
  else if v.accessMode = .vramRead then
    { v with readBuffer := v.vramAtData, dataAddress := v.nextAddress }
  else v

def writeControlPort (value : Byte) : VdpDevice :=
  if v.commandLatchPending then v.executeCommand value
  else
    { v with
      commandLow := value
      dataAddress := (v.dataAddress &&& 0x3F00#16) ||| value.setWidth 16
      commandLatchPending := true }

def takeScanlineReady : Bool × VdpDevice :=
  (v.scanlineReadyPending, { v with scanlineReadyPending := false })

def takeVBlankEntered : Bool × VdpDevice :=
  (v.vblankPending, { v with vblankPending := false })

def readVCounter : Byte := v.vCounterValue

def readHCounter : Byte :=
  if v.hCounterLatched then v.latchedHCounter else v.hCounter

def latchHCounter : VdpDevice :=
  { v with latchedHCounter := v.hCounter, hCounterLatched := true }

def cyclesUntilNextScanline : ℕ :=
  if v.pendingCycles < kCyclesPerScanline then kCyclesPerScanline - v.pendingCycles else 0

def hasPendingRetirementEvent : Bool :=
  v.scanlineReadyPending || v.vblankPending || v.irqAsserted

/-- An array with its length before it. -/
def arrayBytes {n : ℕ} (array : Fin n → Byte) : List Byte :=
  ofU32 (BitVec.ofNat 32 n) ++ ofArray array

def exportState : List Byte :=
  arrayBytes v.vram ++ arrayBytes v.oam ++ arrayBytes v.registers ++ arrayBytes v.cram ++
    ofU32 (BitVec.ofNat 32 v.pendingCycles) ++ ofU16 (BitVec.ofNat 16 v.scanline) ++
    [v.lastReadyScanline, v.hCounter, v.latchedHCounter] ++ ofFlag v.hCounterLatched ++
    ofFlag v.scanlineReadyPending ++ ofFlag v.vblankPending ++ ofFlag v.frameInterruptPending ++
    ofFlag v.lineInterruptPending ++ ofFlag v.irqAsserted ++ ofFlag v.spriteOverflowPending ++
    ofFlag v.spriteCollisionPending ++ [BitVec.ofNat 8 v.lastStatusScanline] ++
    ofFlag v.statusScanlineConsumed ++ ofU16 v.dataAddress ++
    [v.commandLow, v.readBuffer, v.lineCounter, v.verticalScrollLatch, v.accessMode.toByte] ++
    ofFlag v.commandLatchPending ++ ofFlag v.smsMode

def kTruncated : String := "Game Gear VDP state truncated"
def kBooleanInvalid : String := "Game Gear VDP state boolean invalid"

def readArray (n : ℕ) : Reader String (Fin n → Byte) := do
  let count ← u32 kTruncated
  check (count.toNat == n) "Game Gear VDP state array size mismatch"
  let bytes ← take kTruncated n
  return toArray n bytes

/-- The chunk, field by field; the line numbers, the mode and the end are checked last. -/
def readState : Reader String VdpDevice := do
  let vram ← readArray 0x4000
  let oam ← readArray 0xA0
  let registers ← readArray 0x0B
  let cram ← readArray 0x40
  let pendingCycles ← u32 kTruncated
  let scanline ← u16 kTruncated
  let lastReadyScanline ← u8 kTruncated
  let hCounter ← u8 kTruncated
  let latchedHCounter ← u8 kTruncated
  let hCounterLatched ← flag kTruncated kBooleanInvalid
  let scanlineReadyPending ← flag kTruncated kBooleanInvalid
  let vblankPending ← flag kTruncated kBooleanInvalid
  let frameInterruptPending ← flag kTruncated kBooleanInvalid
  let lineInterruptPending ← flag kTruncated kBooleanInvalid
  let irqAsserted ← flag kTruncated kBooleanInvalid
  let spriteOverflowPending ← flag kTruncated kBooleanInvalid
  let spriteCollisionPending ← flag kTruncated kBooleanInvalid
  let lastStatusScanline ← u8 kTruncated
  let statusScanlineConsumed ← flag kTruncated kBooleanInvalid
  let dataAddress ← u16 kTruncated
  let commandLow ← u8 kTruncated
  let readBuffer ← u8 kTruncated
  let lineCounter ← u8 kTruncated
  let verticalScrollLatch ← u8 kTruncated
  let accessMode ← u8 kTruncated
  let commandLatchPending ← flag kTruncated kBooleanInvalid
  let smsMode ← flag kTruncated kBooleanInvalid
  let unread ← left
  check (decide (scanline.toNat < kTotalScanlines) &&
      decide (lastReadyScanline.toNat < kTotalScanlines) &&
      decide (accessMode ≤ AccessMode.cramWrite.toByte) && unread == 0)
    "Game Gear VDP state invalid"
  return {
    v with
    vram := vram
    oam := oam
    registers := registers
    cram := cram
    pendingCycles := pendingCycles.toNat
    scanline := scanline.toNat
    lastReadyScanline := lastReadyScanline
    hCounter := hCounter
    latchedHCounter := latchedHCounter
    hCounterLatched := hCounterLatched
    scanlineReadyPending := scanlineReadyPending
    vblankPending := vblankPending
    frameInterruptPending := frameInterruptPending
    lineInterruptPending := lineInterruptPending
    irqAsserted := irqAsserted
    spriteOverflowPending := spriteOverflowPending
    spriteCollisionPending := spriteCollisionPending
    lastStatusScanline := lastStatusScanline.toNat
    statusScanlineConsumed := statusScanlineConsumed
    dataAddress := dataAddress
    commandLow := commandLow
    readBuffer := readBuffer
    lineCounter := lineCounter
    verticalScrollLatch := verticalScrollLatch
    accessMode := AccessMode.ofCommand accessMode.toNat
    commandLatchPending := commandLatchPending
    smsMode := smsMode }

/-- The derived palette and interrupt line are computed again. -/
def importState (v : VdpDevice) (state : List Byte) : Except String VdpDevice :=
  (run v.readState state).map fun v => v.recomputeDecodedCramCache.recomputeIrqAsserted

end VdpDevice

end ProtoTime.GameGear
