import ProtoTime.GameBoy.MemoryMap
import ProtoTime.GameGear.Devices
import ProtoTime.Space.Ingest

/-!
The locations behind the addresses of the two cores and the records of their accesses, as the
memory maps, the ports and the VDP push them into a capture.
-/
namespace ProtoTime.Space
open GameBoy (Byte Addr lo resolveEchoAddress GameBoyMemoryMap GameBoyCartridge)
open GameGear (GameGearMapper GameGearDevices)

def location (space bank offset : Addr) : Location :=
  (space.setWidth 64 <<< 32) ||| (bank.setWidth 64 <<< 16) ||| offset.setWidth 64

def offset (l : Location) : Addr := l.setWidth 16

@[simp] theorem space_location (s bank o : Addr) :
    Space.space (location s bank o) = s.setWidth 64 := by
  unfold Space.space location
  ext i hi
  grind

@[simp] theorem offset_location (s bank o : Addr) : offset (location s bank o) = o := by
  unfold offset location
  ext i hi
  grind

end ProtoTime.Space

namespace ProtoTime.GameBoy
open Space (Location Record Kind AccessOrigin location)

namespace GameBoyCartridge

def analysisRamOffset (c : GameBoyCartridge) (address : Addr) : Option ℕ :=
  if address < 0xA000#16 ∨ 0xC000#16 ≤ address ∨ c.metadata.mapper = .none ∨ ¬ c.ramEnabled ∨
      c.rtcRegisterSelected ∨ c.externalRam.isEmpty then none
  else
    let size := c.ramBankSize
    let offset := c.selectedRamBankIndex * size + (address.toNat - 0xA000) % size
    if offset < c.externalRam.length then some offset else none

end GameBoyCartridge

namespace GameBoyMemoryMap

variable (m : GameBoyMemoryMap)

def ramLocation (addr : Addr) : Location :=
  match m.cartridge.analysisRamOffset addr with
  | none => location 0 0 addr
  | some offset =>
    let bankSize := if m.cartridge.metadata.mapper = .mbc2 then 0x200 else 0x2000
    location 3 (BitVec.ofNat 16 (offset / bankSize)) (BitVec.ofNat 16 (offset % bankSize))

def analysisLocation (address : Addr) : Location :=
  let addr := resolveEchoAddress address
  if m.bootRomActive ∧ addr.toNat < m.bootRom.length then location 2 0 addr
  else if addr < 0x8000#16 then
    let bank := if addr < 0x4000#16 then m.mapper.currentFixedRomBank else m.mapper.currentRomBank
    location 1 (BitVec.ofNat 16 bank) (addr &&& 0x3FFF#16)
  else if 0xA000#16 ≤ addr ∧ addr < 0xC000#16 then m.ramLocation addr
  else if (0x8000#16 ≤ addr ∧ addr < 0xA000#16) ∨ (0xFE00#16 ≤ addr ∧ addr < 0xFEA0#16) then
    location 4 0 addr
  else if addr = 0xFF00#16 then location 6 0 addr
  else if (0xFF00#16 ≤ addr ∧ addr < 0xFF80#16) ∨ addr = 0xFFFF#16 then location 5 0 addr
  else if 0xFEA0#16 ≤ addr ∧ addr < 0xFF00#16 then location 0 0 addr
  else location 3 0 addr

/-- A read takes the phase of the capture for its kind; the core refuses reads of memory that a
device holds. -/
def readRecord (phase : Kind) (address : Addr) (value : Byte)
    (accepted : Bool) : Record where
  kind := phase
  address := address
  location := m.analysisLocation address
  value := value
  accepted := accepted

/-- A write, with what the cell holds behind it. -/
def writeRecord (address : Addr) (stored : Byte) : Record where
  kind := if resolveEchoAddress address < 0x8000#16 then .mapping else .write
  address := address
  location := m.analysisLocation (resolveEchoAddress address)
  value := stored
  accepted := if resolveEchoAddress address < 0x8000#16 then
      decide (m.cartridge.metadata.mapper ≠ .none)
    else Space.space (m.analysisLocation (resolveEchoAddress address)) != 0
  isWrite := true

/-- A write that the core does not pass on. -/
def rejectedWriteRecord (address : Addr) (value : Byte) : Record where
  kind := .write
  address := address
  location := m.analysisLocation address
  value := value
  accepted := false
  isWrite := true

/-- What `setIoRegisterRaw` pushes. -/
def ioRecord (address : Addr) (value : Byte) : Record where
  kind := .device
  address := address
  location := m.analysisLocation address
  value := value
  isWrite := true

/-- One byte of a transfer into OAM, read or written. -/
def dmaRecord (address : Addr) (value : Byte) (write : Bool) : Record where
  kind := .dma
  address := address
  location := m.analysisLocation address
  value := value
  isWrite := write

end GameBoyMemoryMap

end ProtoTime.GameBoy

namespace ProtoTime.GameGear
open GameBoy (Byte Addr)
open Space (Location Record Kind AccessOrigin location)

namespace GameGearMapper

/-- The offset of an address in the RAM of the board, the save RAM first. -/
def mappedRamOffset (m : GameGearMapper) (addr : Addr) : Option ℕ :=
  if m.extraWindow addr then
    if addr.toNat - 0xA000 < m.extraRam.length then some (0x8000 + (addr.toNat - 0xA000)) else none
  else if !m.loaded || !m.handlesMappedWrite addr || !m.sramEnabled ||
      decide (addr < 0x8000#16) || decide (addr ≥ 0xC000#16) then none
  else if m.sramOffset addr < m.sram.length then some (m.sramOffset addr)
  else none

end GameGearMapper

namespace GameGearDevices

variable {C : Type} (d : GameGearDevices C)

/-- The location of an address behind the input, the boot ROM and the RAM of the board. -/
def busLocation (a : Addr) (write : Bool) : Location :=
  let gap := if !write && d.cart.loaded then
      location 0 (BitVec.ofNat 16 d.mem.codeMappingGeneration) a
    else location 0 0 a
  let rom := (d.cart.romBankForAddress a).map fun bank =>
    location 1 (BitVec.ofNat 16 bank) (a &&& 0x3FFF#16)
  if write = false ∧ a < 0xC000#16 ∧ d.cart.loaded then rom.getD gap
  else if (0x8000#16 ≤ a ∧ a < 0xA000#16) ∨ (0xFE00#16 ≤ a ∧ a < 0xFEA0#16) ∨
      (0xFF40#16 ≤ a ∧ a ≤ 0xFF4B#16) then location 4 0 a
  else if (0xFF10#16 ≤ a ∧ a ≤ 0xFF26#16) ∨ (0xFF30#16 ≤ a ∧ a ≤ 0xFF3F#16) then location 5 0 a
  else if 0xC000#16 ≤ a then location 3 0 (0xC000#16 + (a &&& 0x1FFF#16))
  else rom.getD gap

def analysisLocation (a : Addr) (write : Bool) : Location :=
  if write ∧ d.cart.handlesControlWrite a then location 1 0 a
  else if write = false ∧ d.mem.biosMapped a then location 2 0 a
  else if write = false ∧ (a = 0x00DC#16 ∨ a = 0x00DD#16 ∨ a = 0xFF00#16) then location 6 0 a
  else if a < 0xC000#16 then
    match d.cart.mappedRamOffset a with
    | some offset =>
      location 3 (BitVec.ofNat 16 (1 + offset / 0x4000)) (BitVec.ofNat 16 (offset &&& 0x3FFF))
    | none => d.busLocation a write
  else d.busLocation a write

def readRecord (a : Addr) (value : Byte) : Record where
  kind := .read
  address := a
  location := d.analysisLocation a false
  value := value

def writeRecord (a : Addr) (value : Byte) : Record where
  kind := if Space.space (d.analysisLocation a true) = 1 then .mapping else .write
  address := a
  location := d.analysisLocation a true
  value := value
  isWrite := true

/-- The mapper registers at the top of memory are written into RAM, too. -/
def mirrorRecord (a : Addr) (value : Byte) : Record where
  kind := .write
  address := a
  location := location 3 0 (a - 0x2000#16)
  value := value
  isWrite := true

end GameGearDevices

/-- Only the low byte of a port is decoded, its record keeps all of it. -/
def portRecord (port : Addr) (value : Byte) (write : Bool) : Record where
  kind := if write then .write else .read
  address := port
  location := location 7 0 ((GameBoy.lo port).setWidth 16)
  value := value
  isWrite := write

/-- A byte of the VDP, in one of the spaces 8 to 11; the processor's while it executes. -/
def vdpRecord (phase : Kind) (space offset : Addr) (value : Byte) (write : Bool) : Record where
  kind := if write then .write else .read
  origin := if phase = .read then .cpu else .device
  address := offset
  location := location space 0 offset
  value := value
  isWrite := write

end ProtoTime.GameGear
