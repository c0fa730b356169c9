import ProtoTime.GameBoy.Bytes

/-!
The cartridge object of the Game Boy core: header parsing, bank-control
registers, external RAM, the RTC registers and the save-state image.

Bank numbers and sizes are natural numbers; every mask of the source is kept.
-/
namespace ProtoTime.GameBoy

inductive CartridgeMapper where
  | none
  | mbc1
  | mbc2
  | mbc3
  | mbc5
  deriving DecidableEq, Repr

structure CartridgeMetadata where
  mapper : CartridgeMapper
  cartridgeType : Byte
  ramSizeCode : Byte
  romBankCount : ℕ
  externalRamSize : ℕ
  hasBattery : Bool
  hasRtc : Bool
  deriving DecidableEq

def ramSizeForHeader (ramSizeCode : Byte) (mapper : CartridgeMapper) : ℕ :=
  if mapper = .mbc2 then 0x0200
  else match ramSizeCode.toNat with
    | 0x00 => 0
    | 0x01 => 0x0800
    | 0x02 => 0x2000
    | 0x03 => 0x8000
    | 0x04 => 0x20000
    | 0x05 => 0x10000
    | _ => 0

def mapperForType (type : Byte) : CartridgeMapper :=
  match type.toNat with
  | 0x00 => .none
  | 0x01 | 0x02 | 0x03 => .mbc1
  | 0x05 | 0x06 => .mbc2
  | 0x0F | 0x10 | 0x11 | 0x12 | 0x13 => .mbc3
  | 0x19 | 0x1A | 0x1B | 0x1C | 0x1D | 0x1E => .mbc5
  | _ => .none

def typeHasBattery (type : Byte) : Bool :=
  type.toNat ∈ [0x03, 0x06, 0x09, 0x0F, 0x10, 0x13, 0x1B, 0x1E]

def typeHasRtc (type : Byte) : Bool := type == 0x0F#8 || type == 0x10#8

/-- Header fields are zero when the image ends before them. -/
def parseCartridgeMetadata (bytes : List Byte) : CartridgeMetadata :=
  let cartridgeType := bytes.getD 0x147 0x00#8
  let ramSizeCode := bytes.getD 0x149 0x00#8
  let mapper := mapperForType cartridgeType
  { mapper := mapper
    cartridgeType := cartridgeType
    ramSizeCode := ramSizeCode
    romBankCount := (bytes.length + 0x3FFF) / 0x4000
    externalRamSize := ramSizeForHeader ramSizeCode mapper
    hasBattery := typeHasBattery cartridgeType
    hasRtc := typeHasRtc cartridgeType }

structure RtcSaveData where
  registers : Vector Byte 5
  latched : Bool
  deriving DecidableEq

structure CartridgeSaveData where
  externalRam : List Byte
  rtc : Option RtcSaveData
  deriving DecidableEq

structure CartridgeWriteResult where
  handled : Bool := false
  romBankChanged : Bool := false
  deriving DecidableEq

structure GameBoyCartridge where
  metadata : CartridgeMetadata
  rom : List Byte
  externalRam : List Byte
  currentRomBank : ℕ
  currentRamBank : ℕ
  ramEnabled : Bool
  selectedRtcRegister : Byte
  rtcLatched : Bool
  rtcRegisters : Vector Byte 5
  mbc1LowBankBits : Byte
  mbc1UpperBankBits : Byte
  mbc1BankingModeSelect : Bool
  saveDirty : Bool
  deriving DecidableEq

namespace GameBoyCartridge

/-- A cartridge no image was loaded into. -/
def initial : GameBoyCartridge :=
  { metadata :=
      { mapper := .none
        cartridgeType := 0x00#8
        ramSizeCode := 0x00#8
        romBankCount := 0
        externalRamSize := 0
        hasBattery := false
        hasRtc := false }
    rom := []
    externalRam := []
    currentRomBank := 1
    currentRamBank := 0
    ramEnabled := false
    selectedRtcRegister := 0xFF#8
    rtcLatched := false
    rtcRegisters := Vector.replicate 5 0x00#8
    mbc1LowBankBits := 1#8
    mbc1UpperBankBits := 0#8
    mbc1BankingModeSelect := false
    saveDirty := false }

/-- An image above 32 KiB whose type byte is set but not recognised is run as MBC1. -/
def forcedMetadata (bytes : List Byte) : CartridgeMetadata :=
  let metadata := parseCartridgeMetadata bytes
  if metadata.mapper = .none ∧ bytes.length > 0x8000 ∧
      bytes.length > 0x147 ∧ bytes.getD 0x147 0x00#8 ≠ 0x00#8 then
    { metadata with mapper := .mbc1, romBankCount := (bytes.length + 0x3FFF) / 0x4000 }
  else metadata

def load (bytes : List Byte) : Except String GameBoyCartridge :=
  if bytes.isEmpty then .error "ROM must not be empty"
  else
    let metadata := forcedMetadata bytes
    let metadata :=
      if metadata.romBankCount = 0 then { metadata with romBankCount := 1 } else metadata
    .ok
      { metadata := metadata
        rom := bytes
        externalRam := List.replicate metadata.externalRamSize 0x00#8
        currentRomBank := if metadata.romBankCount > 1 then 1 else 0
        currentRamBank := 0
        ramEnabled := false
        selectedRtcRegister := 0xFF#8
        rtcLatched := false
        rtcRegisters := Vector.replicate 5 0x00#8
        mbc1LowBankBits := 1#8
        mbc1UpperBankBits := 0#8
        mbc1BankingModeSelect := false
        saveDirty := false }

variable (c : GameBoyCartridge)

def supportsBatterySave : Bool := c.metadata.hasBattery

def supportsRtc : Bool := c.metadata.hasRtc

def fixedBankIndex : ℕ :=
  if c.metadata.mapper = .mbc1 ∧ c.mbc1BankingModeSelect then
    (c.mbc1UpperBankBits.toNat <<< 5) % c.metadata.romBankCount
  else 0

def switchableBankIndex : ℕ :=
  if c.metadata.romBankCount ≤ 1 then 0
  else match c.metadata.mapper with
    | .none => if c.metadata.romBankCount > 1 then 1 else 0
    | .mbc1 =>
      let bank := (c.mbc1UpperBankBits.toNat <<< 5) ||| (c.mbc1LowBankBits &&& 0x1F#8).toNat
      let bank := (bank &&& 0x7F) % c.metadata.romBankCount
      let bank := if bank &&& 0x1F = 0 then (bank + 1) % c.metadata.romBankCount else bank
      if bank = 0 then 1 % c.metadata.romBankCount else bank
    | .mbc2 => c.currentRomBank % c.metadata.romBankCount
    | .mbc3 =>
      if c.currentRomBank % c.metadata.romBankCount = 0 then 1 % c.metadata.romBankCount
      else c.currentRomBank % c.metadata.romBankCount
    | .mbc5 => c.currentRomBank % c.metadata.romBankCount

def ramBankSize : ℕ :=
  if c.metadata.mapper = .mbc2 then 0x0200 else 0x2000

def selectedRamBankIndex : ℕ :=
  if c.ramBankSize = 0 ∨ c.externalRam.isEmpty then 0
  else
    let bankCount := max 1 (c.externalRam.length / c.ramBankSize)
    match c.metadata.mapper with
    | .mbc1 => if c.mbc1BankingModeSelect then c.mbc1UpperBankBits.toNat % bankCount else 0
    | .mbc3 | .mbc5 => c.currentRamBank % bankCount
    | .mbc2 | .none => 0

def rtcRegisterSelected : Bool :=
  c.supportsRtc && decide (0x08#8 ≤ c.selectedRtcRegister) &&
    decide (c.selectedRtcRegister ≤ 0x0C#8)

/-- The index is below five whenever `rtcRegisterSelected` holds. -/
def rtcIndex : Fin 5 :=
  Fin.ofNat 5 (c.selectedRtcRegister.toNat - 0x08)

def markDirtyIfPersistent : GameBoyCartridge :=
  if c.supportsBatterySave then { c with saveDirty := true } else c

/-- The external-area offset of a one-byte access, inside the selected bank. -/
def ramIndex (address : Addr) : ℕ :=
  let baseOffset := address.toNat - 0xA000
  let localOffset :=
    if c.metadata.mapper = .mbc2 then baseOffset &&& 0x01FF else baseOffset % c.ramBankSize
  c.selectedRamBankIndex * c.ramBankSize + localOffset

def readExternalArea (address : Addr) : Option Byte :=
  if address < 0xA000#16 ∨ 0xC000#16 ≤ address ∨ c.metadata.mapper = .none then none
  else if ¬ c.ramEnabled then some 0xFF#8
  else if c.rtcRegisterSelected then some (c.rtcRegisters.get c.rtcIndex)
  else if c.externalRam.isEmpty then some 0xFF#8
  else if c.externalRam.length ≤ c.ramIndex address then some 0xFF#8
  else if c.metadata.mapper = .mbc2 then
    some (0xF0#8 ||| (c.externalRam.getD (c.ramIndex address) 0xFF#8 &&& 0x0F#8))
  else some (c.externalRam.getD (c.ramIndex address) 0xFF#8)

def read (address : Addr) : Byte :=
  (c.readExternalArea address).getD 0xFF#8

/-- Writes are stored without wrapping inside a bank, unlike reads. -/
def ramWriteIndex (address : Addr) : ℕ :=
  let baseOffset := address.toNat - 0xA000
  let localOffset := if c.metadata.mapper = .mbc2 then baseOffset &&& 0x01FF else baseOffset
  c.selectedRamBankIndex * c.ramBankSize + localOffset

def writeExternalArea (address : Addr) (value : Byte) : GameBoyCartridge × Bool :=
  if address < 0xA000#16 ∨ 0xC000#16 ≤ address ∨ c.metadata.mapper = .none then (c, false)
  else if ¬ c.ramEnabled then (c, true)
  else if c.rtcRegisterSelected then
    if c.rtcRegisters.get c.rtcIndex ≠ value then
      ({ c with rtcRegisters := c.rtcRegisters.set c.rtcIndex value }.markDirtyIfPersistent, true)
    else (c, true)
  else if c.externalRam.isEmpty then (c, true)
  else if c.externalRam.length ≤ c.ramWriteIndex address then (c, true)
  else
    let storedValue := if c.metadata.mapper = .mbc2 then value &&& 0x0F#8 else value
    if c.externalRam.getD (c.ramWriteIndex address) 0xFF#8 ≠ storedValue then
      ({ c with
          externalRam := c.externalRam.set (c.ramWriteIndex address) storedValue
        }.markDirtyIfPersistent, true)
    else (c, true)

def writeControl (address : Addr) (data : Byte) : GameBoyCartridge × CartridgeWriteResult :=
  if 0x8000#16 ≤ address then (c, {})
  else match c.metadata.mapper with
    | .none => (c, {})
    | .mbc1 =>
      if address < 0x2000#16 then
        ({ c with ramEnabled := data &&& 0x0F#8 == 0x0A#8 }, ⟨true, false⟩)
      else if address < 0x4000#16 then
        let low := data &&& 0x1F#8
        ({ c with mbc1LowBankBits := if low = 0 then 1#8 else low }, ⟨true, true⟩)
      else if address < 0x6000#16 then
        ({ c with mbc1UpperBankBits := data &&& 0x03#8 }, ⟨true, true⟩)
      else ({ c with mbc1BankingModeSelect := data &&& 0x01#8 != 0 }, ⟨true, true⟩)
    | .mbc2 =>
      if address < 0x4000#16 then
        if address &&& 0x0100#16 = 0 then
          ({ c with ramEnabled := data &&& 0x0F#8 == 0x0A#8 }, ⟨true, false⟩)
        else
          let bank := (data &&& 0x0F#8).toNat
          ({ c with currentRomBank := if bank = 0 then 1 else bank }, ⟨true, true⟩)
      else (c, ⟨true, false⟩)
    | .mbc3 =>
      if address < 0x2000#16 then
        ({ c with ramEnabled := data &&& 0x0F#8 == 0x0A#8 }, ⟨true, false⟩)
      else if address < 0x4000#16 then
        let bank := (data &&& 0x7F#8).toNat
        ({ c with currentRomBank := if bank = 0 then 1 else bank }, ⟨true, true⟩)
      else if address < 0x6000#16 then
        if data ≤ 0x03#8 then
          ({ c with
              currentRamBank := (data &&& 0x03#8).toNat
              selectedRtcRegister := 0xFF#8 }, ⟨true, false⟩)
        else if c.supportsRtc ∧ 0x08#8 ≤ data ∧ data ≤ 0x0C#8 then
          ({ c with selectedRtcRegister := data }, ⟨true, false⟩)
        else (c, ⟨true, false⟩)
      else
        let latch := data &&& 0x01#8 != 0
        if c.rtcLatched ≠ latch then
          let c := { c with rtcLatched := latch }
          (if c.supportsRtc then c.markDirtyIfPersistent else c, ⟨true, false⟩)
        else (c, ⟨true, false⟩)
    | .mbc5 =>
      if address < 0x2000#16 then
        ({ c with ramEnabled := data &&& 0x0F#8 == 0x0A#8 }, ⟨true, false⟩)
      else if address < 0x3000#16 then
        ({ c with currentRomBank := (c.currentRomBank &&& 0x100) ||| data.toNat }, ⟨true, true⟩)
      else if address < 0x4000#16 then
        ({ c with
            currentRomBank :=
              ((data &&& 0x01#8).toNat <<< 8) ||| (c.currentRomBank &&& 0xFF) }, ⟨true, true⟩)
      else if address < 0x6000#16 then
        ({ c with currentRamBank := (data &&& 0x0F#8).toNat }, ⟨true, false⟩)
      else (c, ⟨true, false⟩)

def write (address : Addr) (data : Byte) : GameBoyCartridge × CartridgeWriteResult :=
  if 0xA000#16 ≤ address ∧ address < 0xC000#16 then
    let (c, handled) := c.writeExternalArea address data
    (c, ⟨handled, false⟩)
  else if address < 0x8000#16 then c.writeControl address data
  else (c, {})

structure State where
  romSize : ℕ
  romBankCount : ℕ
  currentRomBank : ℕ
  currentRamBank : ℕ
  ramEnabled : Bool
  selectedRtcRegister : Byte
  rtc : Option RtcSaveData
  mbc1BankingModeSelect : Bool
  mbc1UpperBankBits : ℕ
  mbc1LowBankBits : ℕ
  dirty : Bool
  externalRam : List Byte
  deriving DecidableEq

def exportState : State :=
  { romSize := c.rom.length
    romBankCount := c.metadata.romBankCount
    currentRomBank := c.currentRomBank
    currentRamBank := c.currentRamBank
    ramEnabled := c.ramEnabled
    selectedRtcRegister := c.selectedRtcRegister
    rtc := if c.metadata.hasRtc then some ⟨c.rtcRegisters, c.rtcLatched⟩ else none
    mbc1BankingModeSelect := c.mbc1BankingModeSelect
    mbc1UpperBankBits := c.mbc1UpperBankBits.toNat
    mbc1LowBankBits := (c.mbc1LowBankBits &&& 0x1F#8).toNat
    dirty := c.saveDirty
    externalRam := c.externalRam }

def romBankInRange (metadata : CartridgeMetadata) (bank : ℕ) : Bool :=
  if metadata.romBankCount = 1 then bank == 0
  else match metadata.mapper with
    | .mbc3 => decide (1 ≤ bank) && decide (bank ≤ 0x7F)
    | .mbc5 => decide (bank ≤ 0x1FF)
    | .mbc2 => decide (1 ≤ bank) && decide (bank ≤ 0x0F)
    | .mbc1 | .none => decide (1 ≤ bank) && decide (bank < 0x80)

def ramBankInRange (metadata : CartridgeMetadata) (bank : ℕ) : Bool :=
  match metadata.mapper with
  | .mbc3 => decide (bank < 4)
  | .mbc5 => decide (bank < 0x10)
  | .mbc1 | .mbc2 | .none => bank == 0

def rtcSelectorValid (metadata : CartridgeMetadata) (selector : Byte) : Bool :=
  selector == 0xFF#8 ||
    (metadata.hasRtc && decide (0x08#8 ≤ selector) && decide (selector ≤ 0x0C#8))

def importState (c : GameBoyCartridge) (state : State) : Except String GameBoyCartridge :=
  if state.romSize ≠ c.rom.length ∨ state.romBankCount ≠ c.metadata.romBankCount then
    .error "cartridge save state does not match loaded ROM"
  else if state.externalRam.length ≠ c.externalRam.length then
    .error "cartridge save state external RAM size mismatch"
  else if ¬ romBankInRange c.metadata state.currentRomBank then
    .error "cartridge save state ROM bank out of range"
  else if ¬ ramBankInRange c.metadata state.currentRamBank then
    .error "cartridge save state RAM bank out of range"
  else if ¬ rtcSelectorValid c.metadata state.selectedRtcRegister then
    .error "cartridge save state RTC selector invalid"
  else if state.rtc.isSome ≠ c.metadata.hasRtc then
    .error "cartridge save state RTC presence mismatch"
  else
    let low := BitVec.ofNat 8 (state.mbc1LowBankBits &&& 0x1F)
    let rtc := state.rtc.getD ⟨c.rtcRegisters, c.rtcLatched⟩
    .ok
      { c with
        currentRomBank := state.currentRomBank
        currentRamBank := state.currentRamBank
        ramEnabled := state.ramEnabled
        selectedRtcRegister := state.selectedRtcRegister
        mbc1BankingModeSelect := state.mbc1BankingModeSelect
        mbc1UpperBankBits := BitVec.ofNat 8 state.mbc1UpperBankBits
        mbc1LowBankBits := if low = 0 then 1#8 else low
        saveDirty := state.dirty
        externalRam := state.externalRam
        rtcRegisters := rtc.registers
        rtcLatched := rtc.latched }

def importSaveData (save : CartridgeSaveData) : GameBoyCartridge :=
  let ram := save.externalRam.take c.externalRam.length
  let c := { c with
    externalRam := ram ++ List.replicate (c.externalRam.length - ram.length) 0x00#8 }
  let c := match c.supportsRtc, save.rtc with
    | true, some rtc => { c with rtcRegisters := rtc.registers, rtcLatched := rtc.latched }
    | _, _ => c
  { c with saveDirty := false }

end GameBoyCartridge

end ProtoTime.GameBoy
