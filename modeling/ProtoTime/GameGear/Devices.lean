import ProtoTime.GameGear.Mapper
import ProtoTime.GameGear.Psg
import ProtoTime.GameGear.Vdp
import ProtoTime.GameGear.Z80

/-!
The Game Gear memory map and ports over the cartridge, the VDP, the sound generator and the
input, as the bus of the Z80.
-/
namespace ProtoTime.GameGear
open Function ByteReader
open GameBoy (Byte Addr hi lo word)

structure GameGearInput where
  logicalButtons : Byte := 0
  extData : Byte := 0
  extDirectionNmi : Byte := 0xFF
  serialTxData : Byte := 0
  serialRxData : Byte := 0
  serialControl : Byte := 0
  audioStereoControl : Byte := 0xFF
  deriving DecidableEq

namespace GameGearInput

def reset (_ : GameGearInput) : GameGearInput where
  logicalButtons := 0
  extData := 0x7F
  extDirectionNmi := 0xFF
  serialTxData := 0
  serialRxData := 0xFF
  serialControl := 0
  audioStereoControl := 0xFF

/-- The bits of the port that the buttons pull low. -/
def kPortBits : List (Byte × Byte) :=
  [(0x04, 0x01), (0x08, 0x02), (0x02, 0x04), (0x01, 0x08), (0x10, 0x10), (0x20, 0x20),
    (0x40, 0x80)]

variable (i : GameGearInput)

def readInputs : Byte :=
  kPortBits.foldl
    (fun state (button, bit) => if i.logicalButtons &&& button ≠ 0 then state &&& ~~~bit else state)
    0xFF

def readSystemPort0 : Byte :=
  if i.logicalButtons &&& 0x80#8 = 0 then 0xC0 else 0x40

def readSystemPort (port : Byte) : Byte :=
  match port.toNat with
  | 0 => i.readSystemPort0
  | 1 => i.extData
  | 2 => i.extDirectionNmi
  | 3 => i.serialTxData
  | 4 => i.serialRxData
  | 5 => i.serialControl
  | _ => 0xFF

def writeSystemPort (port value : Byte) : GameGearInput :=
  match port.toNat with
  | 1 => { i with extData := value }
  | 2 => { i with extDirectionNmi := value }
  | 3 => { i with serialTxData := value }
  | 5 => { i with serialControl := value }
  | 6 => { i with audioStereoControl := value }
  | _ => i

/-- The button mask takes four bytes in the chunk. -/
def exportState : List Byte :=
  [i.logicalButtons, 0, 0, 0, i.extData, i.extDirectionNmi, i.serialTxData, i.serialRxData,
    i.serialControl, i.audioStereoControl]

def importState (state : List Byte) : Except String GameGearInput :=
  match state with
  | [buttons, _, _, _, extData, extDirectionNmi, serialTx, serialRx, serialControl, stereo] =>
    .ok ⟨buttons, extData, extDirectionNmi, serialTx, serialRx, serialControl, stereo⟩
  | _ => .error "Game Gear input state must be exactly 10 bytes"

end GameGearInput

structure GameGearMemoryMap where
  memoryControl : Byte := 0xFF
  ioControl : Byte := 0xFF
  ram : Fin 0x2000 → Byte := fun _ => 0
  bios : List Byte := []
  codeMappingGeneration : ℕ := 1

namespace GameGearMemoryMap

def kMemoryControlBiosDisabled : Byte := 0x08#8

variable (m : GameGearMemoryMap)

/-- The boot ROM lies over the first kilobyte while its bit in the memory control is clear. -/
def biosMapped (addr : Addr) : Bool :=
  decide (addr < 0x0400#16) && !m.bios.isEmpty &&
    (m.memoryControl &&& kMemoryControlBiosDisabled == 0)

def ramAt (index : ℕ) : Byte := m.ram (Fin.ofNat 0x2000 index)

def setRam (index : ℕ) (value : Byte) : GameGearMemoryMap :=
  { m with ram := update m.ram (Fin.ofNat 0x2000 index) value }

def mappingChanged : GameGearMemoryMap :=
  { m with codeMappingGeneration := m.codeMappingGeneration + 1 }

/-- The boot ROM stays, and decides whether it is mapped. -/
def reset : GameGearMemoryMap :=
  { m with
    ram := fun _ => 0
    memoryControl := if m.bios.isEmpty then 0xFF else 0xFF &&& ~~~kMemoryControlBiosDisabled
    ioControl := 0xFF }.mappingChanged

def mapBios (data : List Byte) : GameGearMemoryMap :=
  { m with bios := data }.mappingChanged

def exportState : List Byte :=
  [m.memoryControl, m.ioControl] ++ ofU32 (BitVec.ofNat 32 0x2000) ++ ofArray m.ram ++
    ofU32 (BitVec.ofNat 32 m.bios.length) ++ m.bios

def kTruncated : String := "Game Gear memory state truncated"

/-- The chunk brings its own boot ROM. -/
def readState : Reader String GameGearMemoryMap := do
  let size ← left
  check (decide (10 ≤ size)) "Game Gear memory state too short"
  let memoryControl ← u8 kTruncated
  let ioControl ← u8 kTruncated
  let ramSize ← u32 kTruncated
  let unread ← left
  check (ramSize.toNat == 0x2000 && decide (0x2000 + 4 ≤ unread))
    "Game Gear memory state RAM size mismatch"
  let ram ← take kTruncated 0x2000
  let biosSize ← u32 kTruncated
  let unread ← left
  check (decide (biosSize.toNat ≤ 0x4000) && unread == biosSize.toNat)
    "Game Gear memory state BIOS size invalid"
  let bios ← rest
  return { m with
    memoryControl := memoryControl
    ioControl := ioControl
    ram := toArray 0x2000 ram
    bios := bios }.mappingChanged

def importState (m : GameGearMemoryMap) (state : List Byte) : Except String GameGearMemoryMap :=
  run m.readState state

end GameGearMemoryMap

/-- The devices behind the bus, and the interrupt request kept for the processor. -/
structure GameGearDevices (C : Type) where
  mem : GameGearMemoryMap
  cart : GameGearMapper
  vdp : VdpDevice
  psg : GameGearPSG C
  input : GameGearInput
  interruptRequested : Bool := false

attribute [class] Oscillator

namespace GameGearDevices

variable {C : Type}

/-- The addresses of the devices that stay visible above the cartridge space. -/
def readHigh (d : GameGearDevices C) (addr : Addr) : Byte :=
  if 0xFE00#16 ≤ addr ∧ addr < 0xFEA0#16 then d.vdp.readOam addr
  else if 0xFF40#16 ≤ addr ∧ addr ≤ 0xFF4B#16 then d.vdp.readRegister addr
  else if 0xFF10#16 ≤ addr ∧ addr ≤ 0xFF26#16 then d.psg.readCompatRegister addr
  else if 0xFF30#16 ≤ addr ∧ addr ≤ 0xFF3F#16 then d.psg.readWaveRam addr
  else if addr = 0xFF00#16 then d.input.readInputs
  else if 0xC000#16 ≤ addr ∧ addr < 0xE000#16 then d.mem.ramAt (addr.toNat - 0xC000)
  else if 0xE000#16 ≤ addr then d.mem.ramAt (addr.toNat - 0xE000)
  else 0xFF

def readCanonical (d : GameGearDevices C) (addr : Addr) : Byte :=
  if d.mem.biosMapped addr then d.mem.bios.getD (addr.toNat % d.mem.bios.length) 0xFF
  else if addr = 0x00DC#16 ∨ addr = 0x00DD#16 then d.input.readInputs
  else if addr < 0xC000#16 ∧ d.cart.loaded then d.cart.read addr
  else if 0x8000#16 ≤ addr ∧ addr < 0xA000#16 then d.vdp.readVram addr
  else d.readHigh addr

def writeRam (d : GameGearDevices C) (index : ℕ) (value : Byte) : GameGearDevices C :=
  { d with mem := d.mem.setRam index value }

/-- A mapper register; those at the top of memory are mirrored in RAM. -/
def writeControl (d : GameGearDevices C) (addr : Addr) (value : Byte) : GameGearDevices C :=
  let d := { d with cart := d.cart.write addr value, mem := d.mem.mappingChanged }
  if addr ≥ 0xFFFC#16 then d.writeRam (0x1FFC + (addr &&& 0x3#16).toNat) value else d

variable [osc : Oscillator C]

variable (d : GameGearDevices C)

def writeCanonical (addr : Addr) (value : Byte) : GameGearDevices C :=
  if d.cart.handlesControlWrite addr then d.writeControl addr value
  else if d.cart.handlesMappedWrite addr then { d with cart := d.cart.write addr value }
  else if 0x8000#16 ≤ addr ∧ addr < 0xA000#16 then { d with vdp := d.vdp.writeVram addr value }
  else if 0xFE00#16 ≤ addr ∧ addr < 0xFEA0#16 then { d with vdp := d.vdp.writeOam addr value }
  else if 0xFF40#16 ≤ addr ∧ addr ≤ 0xFF4B#16 then { d with vdp := d.vdp.writeRegister addr value }
  else if 0xFF10#16 ≤ addr ∧ addr ≤ 0xFF26#16 then
    { d with psg := d.psg.writeCompatRegister osc addr value }
  else if 0xFF30#16 ≤ addr ∧ addr ≤ 0xFF3F#16 then { d with psg := d.psg.writeWaveRam addr value }
  else if 0xC000#16 ≤ addr ∧ addr < 0xE000#16 then d.writeRam (addr.toNat - 0xC000) value
  else if 0xE000#16 ≤ addr then d.writeRam (addr.toNat - 0xE000) value
  else d

omit osc in
/-- Only the low byte of the port is decoded. -/
def readIoCanonical (port : Byte) : Byte × GameGearDevices C :=
  if port ≤ 0x05#8 then (d.input.readSystemPort port, d)
  else if port &&& 0xC1#8 = 0x80#8 then
    let (value, vdp) := d.vdp.readDataPort
    (value, { d with vdp := vdp })
  else if port &&& 0xC1#8 = 0x81#8 then
    let (value, vdp) := d.vdp.readControlPort
    (value, { d with vdp := vdp })
  else if port &&& 0xC1#8 = 0x40#8 then (d.vdp.readVCounter, d)
  else if port &&& 0xC1#8 = 0x41#8 then (d.vdp.readHCounter, d)
  else if port &&& 0xFE#8 = 0xC0#8 ∨ port &&& 0xFE#8 = 0xDC#8 then (d.input.readInputs, d)
  else (0xFF, d)

omit osc in
/-- The memory control maps the boot ROM; the levels of two lines of the other latch the
horizontal counter when they change. -/
def writeControlPorts (port value : Byte) : GameGearDevices C :=
  if port &&& 0x01#8 = 0 then
    let mem := if d.mem.memoryControl ≠ value then d.mem.mappingChanged else d.mem
    { d with mem := { mem with memoryControl := value } }
  else
    let vdp := if (d.mem.ioControl ^^^ value) &&& 0xA0#8 ≠ 0 then d.vdp.latchHCounter else d.vdp
    { d with vdp := vdp, mem := { d.mem with ioControl := value } }

def writeIoCanonical (port value : Byte) : GameGearDevices C :=
  if (0x01#8 ≤ port ∧ port ≤ 0x03#8) ∨ port = 0x05#8 ∨ port = 0x06#8 then
    let d := { d with input := d.input.writeSystemPort port value }
    if port = 0x06#8 then { d with psg := d.psg.writeStereoControl value } else d
  else if 0x07#8 ≤ port ∧ port ≤ 0x3F#8 then d.writeControlPorts port value
  else if port &&& 0xC1#8 = 0x80#8 then { d with vdp := d.vdp.writeDataPort value }
  else if port &&& 0xC1#8 = 0x81#8 then { d with vdp := d.vdp.writeControlPort value }
  else if port &&& 0xC0#8 = 0x40#8 then { d with psg := d.psg.writeData osc value }
  else d

omit osc in
/-- The request is taken back however it is answered. -/
def takeInterrupt : Option Byte × GameGearDevices C :=
  (if d.vdp.irqAsserted then some 0 else none, { d with interruptRequested := false })

instance : Z80Bus (GameGearDevices C) where
  memRead addr d := (d.readCanonical addr, d)
  memWrite addr value d := d.writeCanonical addr value
  readIo port d := d.readIoCanonical (lo port)
  writeIo port value d := d.writeIoCanonical (lo port) value
  interruptRequest d := d.takeInterrupt

end GameGearDevices

end ProtoTime.GameGear
