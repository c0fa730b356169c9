import ProtoTime.GameBoy.MemoryMap
import ProtoTime.GameGear.Devices
import ProtoTime.GameGear.MapperFactory
import ProtoTime.GameGear.Z80Step
import ProtoTime.Transition

/-!
The Game Gear machine: construction, loading of images and boot ROMs, the retirement of an
instruction, and saving and loading its state.
-/
namespace ProtoTime.GameGear
open ByteReader
open GameBoy (Byte Addr crc32)

namespace Z80Interpreter

variable {σ : Type}

def kTruncated : String := "Z80 state truncated"
def kBooleanInvalid : String := "Z80 state boolean invalid"

def exportState (c : Z80Interpreter σ) : List Byte :=
  [c.af, c.bc, c.de, c.hl, c.ix, c.iy, c.sp, c.pc, c.af_, c.bc_, c.de_, c.hl_].flatMap ofU16 ++
    [c.i, c.r] ++ ofFlag c.iff1 ++ ofFlag c.iff2 ++ ofFlag c.ime ++
    [BitVec.ofNat 8 c.imeEnableDelay] ++ ofFlag c.halted ++ [BitVec.ofNat 8 c.interruptMode]

def readState (c : Z80Interpreter σ) : Reader String (Z80Interpreter σ) := do
  let af ← u16 kTruncated
  let bc ← u16 kTruncated
  let de ← u16 kTruncated
  let hl ← u16 kTruncated
  let ix ← u16 kTruncated
  let iy ← u16 kTruncated
  let sp ← u16 kTruncated
  let pc ← u16 kTruncated
  let af_ ← u16 kTruncated
  let bc_ ← u16 kTruncated
  let de_ ← u16 kTruncated
  let hl_ ← u16 kTruncated
  let i ← u8 kTruncated
  let r ← u8 kTruncated
  let iff1 ← flag kTruncated kBooleanInvalid
  let iff2 ← flag kTruncated kBooleanInvalid
  let ime ← flag kTruncated kBooleanInvalid
  let imeEnableDelay ← u8 kTruncated
  let halted ← flag kTruncated kBooleanInvalid
  let interruptMode ← u8 kTruncated
  let unread ← left
  check (decide (interruptMode ≤ 2) && unread == 0) "Z80 state invalid"
  return {
    af, bc, de, hl, ix, iy, sp, pc, af_, bc_, de_, hl_, i, r, iff1, iff2, ime, halted
    imeEnableDelay := imeEnableDelay.toNat
    interruptMode := interruptMode.toNat
    bus := c.bus }

def importState (c : Z80Interpreter σ) (state : List Byte) : Except String (Z80Interpreter σ) :=
  run c.readState state

end Z80Interpreter

def RomPath.savePath (path : RomPath) : RomPath :=
  { path with
    filename := path.filename.take (path.filename.length - path.extension.length) ++ ascii ".sav" }

structure GameGearMachine (C : Type) where
  cpu : Z80Interpreter (GameGearDevices C)
  romLoaded : Bool := false
  savePath : Option RomPath := none
  inputGeneration : ℕ := 0
  stepCounter : ℕ := 0
  lastAudioFrameCounter : ℕ := 0
  lastDigitalInputMask : Option (BitVec 32) := none

/-- The chunks of a state file, with the sound generator's decoded. -/
structure GameGearStateFile (C : Type) where
  romHash : BitVec 32
  machine : List Byte
  cpu : List Byte
  memory : List Byte
  vdp : List Byte
  psg : PsgState C
  input : List Byte
  mapper : List Byte

structure MachineMeta where
  stepCounter : BitVec 64
  lastAudioFrameCounter : BitVec 64
  interruptRequested : Bool
  lastDigitalInputMask : Option (BitVec 32)
  inputGeneration : BitVec 64

namespace MachineMeta

def serialize (m : MachineMeta) : List Byte :=
  ofU64 m.stepCounter ++ ofU64 m.lastAudioFrameCounter ++ ofFlag m.interruptRequested ++
    (match m.lastDigitalInputMask with
    | some mask => ofFlag true ++ ofU32 mask
    | none => ofFlag false) ++ ofU64 m.inputGeneration

def kTruncated : String := "Game Gear machine metadata truncated"

def reader : Reader String MachineMeta := do
  let stepCounter ← u64 kTruncated
  let lastAudioFrameCounter ← u64 kTruncated
  let interrupt ← u8 kTruncated
  let hasInput ← u8 kTruncated
  check (decide (interrupt ≤ 1) && decide (hasInput ≤ 1))
    "Game Gear machine metadata boolean invalid"
  let mask ← (
    if hasInput ≠ 0 then some <$> u32 "Game Gear machine metadata input truncated"
    else pure none)
  let inputGeneration ← u64 kTruncated
  let unread ← left
  check (unread == 0) "Game Gear machine metadata has trailing data"
  return ⟨stepCounter, lastAudioFrameCounter, interrupt != 0, mask, inputGeneration⟩

end MachineMeta

namespace GameGearMachine

def kMaxRomSize : ℕ := 1024 * 1024

variable {C : Type} [osc : Oscillator C]

variable (m : GameGearMachine C)

def devices : GameGearDevices C := m.cpu.bus

def withDevices (d : GameGearDevices C) : GameGearMachine C :=
  { m with cpu := { m.cpu with bus := d } }

/-- The machine as constructed, with the boot ROM of its provider. Until an image is loaded the
memory map uses an empty cartridge. -/
def construct (providerBootRom : List Byte) : GameGearMachine C :=
  let mem : GameGearMemoryMap := {}
  let d : GameGearDevices C :=
    { mem := if providerBootRom.isEmpty then mem else mem.mapBios providerBootRom
      cart := { kind := .cartridge }
      vdp := VdpDevice.construct.reset
      psg := GameGearPSG.construct osc
      input := ({} : GameGearInput).reset }
  { cpu := Z80Interpreter.reset { bus := d } }

/-- The cartridge after the save manager has looked for a save file. -/
def loadSave (cart : GameGearMapper) (saveFile : Option (List Byte)) : GameGearMapper :=
  if cart.supportsSaveData then
    match saveFile with
    | some saved => cart.importSaveData saved
    | none => cart.markSaveClean
  else cart.markSaveClean

/-- The devices after an image is loaded: the cartridge is new, the others are reset. -/
def resetDevices (d : GameGearDevices C) (cart : GameGearMapper) : GameGearDevices C where
  mem := d.mem.mappingChanged.reset
  cart := cart.reset
  vdp := d.vdp.reset
  psg := d.psg.reset osc
  input := d.input.reset
  interruptRequested := false

/-- The machine with a new cartridge in it, and everything else reset. -/
def powerCycle (cart : GameGearMapper) (savePath : Option RomPath) :
    GameGearMachine C where
  cpu := ({ m.cpu with bus := resetDevices m.devices cart }).reset
  romLoaded := true
  savePath := savePath
  inputGeneration := m.inputGeneration + 1
  stepCounter := 0
  lastAudioFrameCounter := 0
  lastDigitalInputMask := none

/-- The cartridge of an image, with its save file where one may be bound. -/
def insertedMapper (table : List MappingEntry) (bytes : List Byte) (path : Option RomPath)
    (saveFile : Option (List Byte)) : GameGearMapper :=
  let cart := MapperFactory.createMapperFromRom table bytes path
  if RomPath.allowsSaveBinding path then loadSave cart saveFile else cart

def loadRom (table : List MappingEntry) (m : GameGearMachine C) (bytes : List Byte)
    (path : Option RomPath) (saveFile : Option (List Byte)) : Except String (GameGearMachine C) :=
  if bytes.isEmpty then .error "Cannot load empty ROM"
  else if bytes.length > kMaxRomSize then .error "ROM too large"
  else
    .ok (m.powerCycle (insertedMapper table bytes path saveFile)
      (if RomPath.allowsSaveBinding path then path.map RomPath.savePath else none))

def loadExternalBootRom (bytes : List Byte) : GameGearMachine C :=
  m.withDevices { m.devices with mem := m.devices.mem.mapBios bytes }

/-- Without a background service a due flush writes the save file at once. -/
def flushCartridgeSaveOnSchedule : GameGearMachine C :=
  let cart := m.devices.cart
  if m.savePath.isSome ∧ cart.supportsSaveData ∧ cart.hasDirtySaveData then
    m.withDevices { m.devices with cart := cart.markSaveClean }
  else m

def onInstructionRetired (retiredCycles : ℕ) : GameGearMachine C :=
  let d := m.devices
  let vdp := (d.vdp.step retiredCycles).takeScanlineReady.2
  let (entered, vdp) := vdp.takeVBlankEntered
  let psg := d.psg.step osc (BitVec.ofNat 32 retiredCycles)
  let m := { m with stepCounter := m.stepCounter + 1 }.withDevices { d with vdp := vdp, psg := psg }
  let m := if entered then m.flushCartridgeSaveOnSchedule else m
  let d := m.devices
  { m with lastAudioFrameCounter := d.psg.frameCounter }.withDevices
    { d with interruptRequested := d.interruptRequested || d.vdp.irqAsserted }

/-- One instruction, interrupt acceptance or idle poll. -/
def step (m : GameGearMachine C) : GameGearMachine C :=
  if m.romLoaded then
    let (retiredCycles, cpu) := Z80Interpreter.step m.cpu
    { m with cpu := cpu }.onInstructionRetired retiredCycles
  else m

def write8 (address : Addr) (value : Byte) : GameGearMachine C :=
  m.withDevices (m.devices.writeCanonical address value)

omit osc in
/-- The input service hands a committed mask to the input. -/
def commitInput (pressedMask : BitVec 32) : GameGearMachine C :=
  { m with lastDigitalInputMask := some pressedMask }.withDevices
    { m.devices with input := { m.devices.input with
      logicalButtons := pressedMask.setWidth 8 } }

omit osc in
def saveState : Except String (GameGearStateFile C) :=
  if m.romLoaded then
    let d := m.devices
    .ok {
      romHash := crc32 d.cart.rom
      machine := MachineMeta.serialize {
        stepCounter := BitVec.ofNat 64 m.stepCounter
        lastAudioFrameCounter := BitVec.ofNat 64 m.lastAudioFrameCounter
        interruptRequested := d.interruptRequested
        lastDigitalInputMask := m.lastDigitalInputMask
        inputGeneration := BitVec.ofNat 64 m.inputGeneration }
      cpu := m.cpu.exportState
      memory := d.mem.exportState
      vdp := d.vdp.exportState
      psg := d.psg.exportState
      input := d.input.exportState
      mapper := d.cart.exportState }
  else .error "Cannot save Game Gear state before ROM is loaded"

omit osc in
/-- The imported parts replace the machine's own. -/
def publish (info : MachineMeta) (d : GameGearDevices C)
    (cpu : Z80Interpreter (GameGearDevices C)) : GameGearMachine C where
  cpu := { cpu with bus :=
    { d with mem := d.mem.mappingChanged, interruptRequested := info.interruptRequested } }
  romLoaded := m.romLoaded
  savePath := m.savePath
  inputGeneration := info.inputGeneration.toNat
  stepCounter := info.stepCounter.toNat
  lastAudioFrameCounter := info.lastAudioFrameCounter.toNat
  lastDigitalInputMask := info.lastDigitalInputMask

/-- The chunks are imported into copies, the mapper's into one made anew from the image alone;
only when all are accepted does the machine change. -/
def loadState (table : List MappingEntry) (m : GameGearMachine C) (file : GameGearStateFile C) :
    Except String (GameGearMachine C) :=
  let d := m.devices
  if m.romLoaded = false then .error "Load ROM before loading Game Gear save state"
  else if file.romHash ≠ 0 ∧ file.romHash ≠ crc32 d.cart.rom then
    .error "save state ROM identity does not match the loaded ROM"
  else do
    let info ← run MachineMeta.reader file.machine
    let cart ← (MapperFactory.createMapperFromRom table d.cart.rom none).importState file.mapper
    let mem ← d.mem.importState file.memory
    let vdp ← d.vdp.importState file.vdp
    let psg ← d.psg.importState osc file.psg
    let input ← GameGearInput.importState file.input
    let cpu ← m.cpu.importState file.cpu
    return m.publish info { mem, cart, vdp, psg, input } cpu

end GameGearMachine

end ProtoTime.GameGear
