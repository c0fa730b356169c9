import ProtoTime.GameBoy.Mapper

/-!
The machine's memory map: the banked ROM windows, the boot ROM overlay, the
regions behind the 16-bit address space and the memory-map chunk of a save file.

The five byte arrays of the map occupy disjoint address ranges, so they are one
function from addresses to bytes; a cell outside those ranges is never read. The
map reaches the mapper and the cartridge of the machine through pointers, so
both are fields here.
-/
namespace ProtoTime.GameBoy

structure RomWindow where
  data : List Byte
  active : Bool
  deriving DecidableEq

structure GameBoyMemoryMap where
  cells : Addr → Byte
  bootRom : List Byte
  bootRomActive : Bool
  romWindow0x0000 : RomWindow
  romWindow0x4000 : RomWindow
  mapper : GameBoyMapper
  cartridge : GameBoyCartridge

/-- The checksum of a save-file section, bit by bit over the reflected polynomial. -/
def crc32 (data : List Byte) : BitVec 32 :=
  let step (crc : BitVec 32) (byte : Byte) : BitVec 32 :=
    (fun crc : BitVec 32 =>
      if crc &&& 1#32 ≠ 0 then (crc >>> 1) ^^^ 0xEDB88320#32 else crc >>> 1)^[8]
      (crc ^^^ byte.setWidth 32)
  data.foldl step 0xFFFFFFFF#32 ^^^ 0xFFFFFFFF#32

/-- The four little-endian bytes of a 32-bit word. -/
def u32Bytes (value : BitVec 32) : List Byte :=
  [value.setWidth 8, (value >>> 8).setWidth 8, (value >>> 16).setWidth 8,
    (value >>> 24).setWidth 8]

def u32OfBytes (bytes : List Byte) : ℕ :=
  (bytes.getD 0 0).toNat ||| (bytes.getD 1 0).toNat <<< 8 ||| (bytes.getD 2 0).toNat <<< 16 |||
    (bytes.getD 3 0).toNat <<< 24

theorem u32OfBytes_u32Bytes (word : BitVec 32) (rest : List Byte) :
    u32OfBytes (u32Bytes word ++ rest) = word.toNat := by
  apply Nat.eq_of_testBit_eq
  intro i
  change ((word.setWidth 8).toNat ||| ((word >>> 8).setWidth 8).toNat <<< 8 |||
    ((word >>> 16).setWidth 8).toNat <<< 16 |||
    ((word >>> 24).setWidth 8).toNat <<< 24).testBit i = _
  simp only [Nat.testBit_or, Nat.testBit_shiftLeft, BitVec.testBit_toNat, BitVec.getLsbD_setWidth,
    BitVec.getLsbD_ushiftRight]
  have hbyte : i < 8 ∨ (8 ≤ i ∧ i < 16) ∨ (16 ≤ i ∧ i < 24) ∨ (24 ≤ i ∧ i < 32) ∨ 32 ≤ i := by
    omega
  rcases hbyte with h | h | h | h | h
  · grind
  · grind
  · grind
  · grind
  · grind

def resolveEchoAddress (address : Addr) : Addr :=
  if 0xE000#16 ≤ address ∧ address ≤ 0xFDFF#16 then address - 0x2000#16 else address

namespace GameBoyMemoryMap

variable (m : GameBoyMemoryMap)

def setCell (address : Addr) (value : Byte) : GameBoyMemoryMap :=
  { m with cells := fun a => if a = address then value else m.cells a }

def clearBootRom : GameBoyMemoryMap :=
  { m with bootRom := [], bootRomActive := false }

/-- VRAM is zeroed; work RAM, OAM, the I/O registers and high RAM are filled with `0xFF`. -/
def reset : GameBoyMemoryMap :=
  { m with
    cells := fun a => if 0x8000#16 ≤ a ∧ a < 0xA000#16 then 0x00#8 else 0xFF#8
    bootRom := []
    bootRomActive := false
    romWindow0x0000 := ⟨[], false⟩
    romWindow0x4000 := ⟨[], false⟩ }

def mapBootRom (data : List Byte) : GameBoyMemoryMap :=
  { m with bootRom := data.take 0x100, bootRomActive := true }

def installRomWindow0x0000 (data : List Byte) : GameBoyMemoryMap :=
  { m with romWindow0x0000 := ⟨data, true⟩ }

def installRomWindow0x4000 (data : List Byte) : GameBoyMemoryMap :=
  { m with romWindow0x4000 := ⟨data, true⟩ }

def setIoRegisterRaw (address : Addr) (value : Byte) : GameBoyMemoryMap :=
  if 0xFF00#16 ≤ address ∧ address < 0xFF80#16 then m.setCell address value
  else if address = 0xFFFF#16 then m.setCell 0xFFFF#16 value
  else m

def readRaw (address : Addr) : Byte :=
  if m.bootRomActive ∧ address.toNat < m.bootRom.length then m.bootRom.getD address.toNat 0xFF#8
  else if address < 0x4000#16 ∧ m.romWindow0x0000.active then
    m.romWindow0x0000.data.getD address.toNat 0xFF#8
  else if 0x4000#16 ≤ address ∧ address < 0x8000#16 ∧ m.romWindow0x4000.active then
    m.romWindow0x4000.data.getD (address.toNat - 0x4000) 0xFF#8
  else if 0x8000#16 ≤ address ∧ address < 0xA000#16 then m.cells address
  else if 0xA000#16 ≤ address ∧ address < 0xC000#16 then m.cartridge.read address
  else if 0xC000#16 ≤ address ∧ address < 0xE000#16 then m.cells address
  else if 0xE000#16 ≤ address ∧ address ≤ 0xFDFF#16 then m.cells (address - 0x2000#16)
  else if 0xFE00#16 ≤ address ∧ address < 0xFEA0#16 then m.cells address
  else if 0xFEA0#16 ≤ address ∧ address < 0xFF00#16 then 0xFF#8
  else if 0xFF00#16 ≤ address then m.cells address
  else 0xFF#8

def peek (address : Addr) : Byte := m.readRaw (resolveEchoAddress address)

def read (address : Addr) : Byte := m.peek address

/-- The copy into OAM, byte after byte. -/
def performOamDma (sourceHighByte : Byte) : GameBoyMemoryMap :=
  let sourceBase : Addr := sourceHighByte.setWidth 16 <<< 8
  (List.range 0xA0).foldl
    (fun m i => m.setCell (0xFE00#16 + BitVec.ofNat 16 i)
      (m.readRaw (sourceBase + BitVec.ofNat 16 i))) m

def writeRaw (address : Addr) (value : Byte) : GameBoyMemoryMap :=
  if address = 0xFF50#16 then m
  else if address < 0x4000#16 ∧ m.romWindow0x0000.active then m
  else if 0x4000#16 ≤ address ∧ address < 0x8000#16 ∧ m.romWindow0x4000.active then m
  else if 0x8000#16 ≤ address ∧ address < 0xA000#16 then m.setCell address value
  else if 0xA000#16 ≤ address ∧ address < 0xC000#16 then m
  else if 0xC000#16 ≤ address ∧ address < 0xE000#16 then m.setCell address value
  else if 0xE000#16 ≤ address ∧ address ≤ 0xFDFF#16 then m.setCell (address - 0x2000#16) value
  else if 0xFE00#16 ≤ address ∧ address < 0xFEA0#16 then m.setCell address value
  else if 0xFEA0#16 ≤ address ∧ address < 0xFF00#16 then m
  else if address = 0xFFFF#16 then m.setCell address value
  else if 0xFF00#16 ≤ address ∧ address < 0xFF80#16 then
    if address = 0xFF46#16 ∧ value ≠ 0xFF#8 then (m.setCell address value).performOamDma value
    else if address = 0xFF41#16 then
      m.setCell address ((m.cells address &&& 0x07#8) ||| (value &&& 0x78#8))
    else if address = 0xFF44#16 then m.setCell address 0x00#8
    else m.setCell address value
  else if 0xFF80#16 ≤ address then m.setCell address value
  else m

/-- Bank-control writes refresh the windows the mapper reports as changed. -/
def handleSpecialWrite (address : Addr) (value : Byte) : GameBoyMemoryMap × Bool :=
  if address < 0x8000#16 then
    let (mapper, result) := m.mapper.write address value
    let m := { m with mapper := mapper }
    let m := if result.romBankChanged then
      m.installRomWindow0x4000 (mapper.copyRomBankWindow mapper.currentRomBank) else m
    let m := if result.fixedRomBankChanged then
      m.installRomWindow0x0000 (mapper.copyRomBankWindow mapper.currentFixedRomBank) else m
    (m, result.handled)
  else if address = 0xFF50#16 ∧ value ≠ 0 then
    ({ m with bootRomActive := false }.setIoRegisterRaw 0xFF50#16 value, true)
  else if 0xA000#16 ≤ address ∧ address < 0xC000#16 then
    ({ m with cartridge := (m.cartridge.write address value).1 }, true)
  else (m, false)

/-- The map's part of a guest write; the machine's observer runs after it. -/
def write (address : Addr) (value : Byte) : GameBoyMemoryMap :=
  let resolved := resolveEchoAddress address
  let (m', handled) := m.handleSpecialWrite resolved value
  if handled then m' else m'.writeRaw resolved value

def debugCommitRam (address : Addr) (value : Byte) : GameBoyMemoryMap :=
  let address := resolveEchoAddress address
  if 0xC000#16 ≤ address ∧ address < 0xE000#16 then m.setCell address value
  else if 0xFF80#16 ≤ address ∧ address < 0xFFFF#16 then m.setCell address value
  else m

/-- The byte of a region whose reads have no side effect. -/
def peekExecutableByte (address : Addr) : Option Byte :=
  if address < 0x8000#16 ∨ (0xC000#16 ≤ address ∧ address < 0xE000#16) ∨
      (0xFF80#16 ≤ address ∧ address < 0xFFFF#16) then some (m.readRaw address)
  else none

/-- The bytes of a region, in address order. -/
def region (base size : ℕ) : List Byte :=
  (List.range size).map fun i => m.cells (BitVec.ofNat 16 (base + i))

def sectionBytes (flag : Bool) (data : List Byte) : List Byte :=
  (if flag then 1#8 else 0#8) :: u32Bytes (BitVec.ofNat 32 data.length) ++ data

def exportState : List Byte :=
  let payload :=
    sectionBytes m.bootRomActive m.bootRom ++
      sectionBytes m.romWindow0x0000.active m.romWindow0x0000.data ++
      sectionBytes m.romWindow0x4000.active m.romWindow0x4000.data ++
      m.region 0x8000 0x2000 ++ m.region 0xC000 0x2000 ++ m.region 0xFE00 0xA0 ++
      m.region 0xFF00 0x80 ++ m.region 0xFF80 0x80
  payload ++ u32Bytes (crc32 payload)

def readSection (maxSize : ℕ) (state : List Byte) : Except String (Bool × List Byte × List Byte) :=
  match state with
  | [] => .error "Memory map state is truncated"
  | flag :: rest =>
    if flag > 1#8 then .error "Memory map state contains invalid flag"
    else if rest.length < 4 then .error "Memory map state is truncated"
    else
      let length := u32OfBytes rest
      let rest := rest.drop 4
      if length > maxSize then .error "Memory map state section is too large"
      else if rest.length < length then .error "Memory map state is truncated"
      else .ok (flag != 0, rest.take length, rest.drop length)

/-- The bytes of the five arrays, in export order. -/
def fixedPayloadSize : ℕ := 0x2000 + 0x2000 + 0xA0 + 0x80 + 0x80

/-- The cells whose bytes the payload lists, region after region. -/
def cellsOf (payload : List Byte) (a : Addr) : Byte :=
  let n := a.toNat
  if 0x8000 ≤ n ∧ n < 0xA000 then payload.getD (n - 0x8000) 0xFF#8
  else if 0xC000 ≤ n ∧ n < 0xE000 then payload.getD (0x2000 + (n - 0xC000)) 0xFF#8
  else if 0xFE00 ≤ n ∧ n < 0xFEA0 then payload.getD (0x4000 + (n - 0xFE00)) 0xFF#8
  else if 0xFF00 ≤ n ∧ n < 0xFF80 then payload.getD (0x40A0 + (n - 0xFF00)) 0xFF#8
  else if 0xFF80 ≤ n then payload.getD (0x4120 + (n - 0xFF80)) 0xFF#8
  else 0xFF#8

/-- The window of a section whose flag is clear is emptied. -/
def importedWindow (active : Bool) (data : List Byte) : RomWindow :=
  ⟨if active then data else [], active⟩

def importState (m : GameBoyMemoryMap) (state : List Byte) : Except String GameBoyMemoryMap :=
  if state.length < 4 + 15 + fixedPayloadSize then .error "Memory map state too short"
  else
    let payload := state.take (state.length - 4)
    if u32OfBytes (state.drop (state.length - 4)) ≠ (crc32 payload).toNat then
      .error "Memory map state checksum mismatch"
    else
      match readSection 0x100 payload with
      | .error message => .error message
      | .ok (bootActive, bootRom, rest) =>
        if bootActive ∧ bootRom.isEmpty then .error "Active boot ROM state has no boot ROM data"
        else match readSection 0x4000 rest with
        | .error message => .error message
        | .ok (win0Active, win0, rest) =>
          match readSection 0x4000 rest with
          | .error message => .error message
          | .ok (win4Active, win4, rest) =>
            if (win0Active ∧ win0.length ≠ 0x4000) ∨ (win4Active ∧ win4.length ≠ 0x4000) then
              .error "Active ROM window state has wrong size"
            else if rest.length < fixedPayloadSize then .error "Memory map state is truncated"
            else if rest.length ≠ fixedPayloadSize then
              .error "Memory map state contains trailing payload data"
            else .ok
              { m with
                cells := cellsOf rest
                bootRom := bootRom
                bootRomActive := bootActive
                romWindow0x0000 := importedWindow win0Active win0
                romWindow0x4000 := importedWindow win4Active win4 }

end GameBoyMemoryMap

end ProtoTime.GameBoy
