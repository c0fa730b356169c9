import ProtoTime.GameBoy.Cartridge

/-!
The memory bank controller that serves the two ROM windows. It counts banks,
resolves bank requests and exports its registers on its own, beside the
cartridge object that serves external RAM.
-/
namespace ProtoTime.GameBoy

structure MapperWriteResult where
  handled : Bool := false
  romBankChanged : Bool := false
  fixedRomBankChanged : Bool := false
  deriving DecidableEq

structure GameBoyMapper where
  mapperType : CartridgeMapper
  romData : List Byte
  romSize : ℕ
  romBankCount : ℕ
  externalRamSize : ℕ
  externalRam : List Byte
  romBankLow : ℕ
  effectiveRomBank : ℕ
  ramBankSelect : Byte
  ramBankMode : Byte
  ramEnabled : Bool
  dirty : Bool
  hasBattery : Bool
  deriving DecidableEq

namespace GameBoyMapper

/-- A mapper no image was loaded into. -/
def initial : GameBoyMapper :=
  { mapperType := .none
    romData := []
    romSize := 0
    romBankCount := 0
    externalRamSize := 0
    externalRam := []
    romBankLow := 1
    effectiveRomBank := 1
    ramBankSelect := 0#8
    ramBankMode := 0#8
    ramEnabled := false
    dirty := false
    hasBattery := false }

variable (m : GameBoyMapper)

/-- External RAM is only reassigned when the new header declares some. -/
def load (romData : List Byte) : GameBoyMapper :=
  let metadata := parseCartridgeMetadata romData
  let romBankCount := romData.length / 0x4000
  { mapperType := metadata.mapper
    romData := romData
    romSize := romData.length
    romBankCount := if romBankCount < 2 then 2 else romBankCount
    externalRamSize := metadata.externalRamSize
    externalRam :=
      if metadata.externalRamSize > 0 then List.replicate metadata.externalRamSize 0xFF#8
      else m.externalRam
    romBankLow := 1
    effectiveRomBank := 1
    ramBankSelect := 0#8
    ramBankMode := 0#8
    ramEnabled := false
    dirty := false
    hasBattery := metadata.hasBattery }

def currentRomBank : ℕ := m.effectiveRomBank

def currentFixedRomBank : ℕ :=
  if m.mapperType ≠ .mbc1 ∨ m.ramBankMode = 0 ∨ m.romBankCount = 0 then 0
  else ((m.ramBankSelect &&& 0x03#8).toNat <<< 5) % m.romBankCount

def updateMbc1Banking : GameBoyMapper :=
  let bank := ((m.ramBankSelect &&& 0x03#8).toNat <<< 5) ||| (m.romBankLow &&& 0x1F)
  let bank := (bank &&& 0x7F) % m.romBankCount
  let bank := if bank &&& 0x1F = 0 then (bank + 1) % m.romBankCount else bank
  { m with effectiveRomBank := if bank = 0 then 1 % m.romBankCount else bank }

def updateMbc5Banking : GameBoyMapper :=
  let bank := m.romBankLow &&& 0x01FF
  { m with effectiveRomBank := if bank ≥ m.romBankCount then m.romBankCount - 1 else bank }

def write (address : Addr) (value : Byte) : GameBoyMapper × MapperWriteResult :=
  match m.mapperType with
  | .none =>
    if 0xA000#16 ≤ address ∧ address < 0xC000#16 then (m, ⟨true, false, false⟩) else (m, {})
  | .mbc1 =>
    if address < 0x2000#16 then
      ({ m with ramEnabled := value &&& 0x0F#8 == 0x0A#8 }, ⟨true, false, false⟩)
    else if address < 0x4000#16 then
      let low := (value &&& 0x1F#8).toNat
      ({ m with romBankLow := if low = 0 then 1 else low }.updateMbc1Banking, ⟨true, true, false⟩)
    else if address < 0x6000#16 then
      let m' := { m with ramBankSelect := value &&& 0x03#8 }.updateMbc1Banking
      (m', ⟨true, true, m'.currentFixedRomBank != m.currentFixedRomBank⟩)
    else if address < 0x8000#16 then
      let m' := { m with ramBankMode := value &&& 0x01#8 }.updateMbc1Banking
      (m', ⟨true, true, m'.currentFixedRomBank != m.currentFixedRomBank⟩)
    else (m, {})
  | .mbc2 =>
    if address < 0x4000#16 then
      if address &&& 0x0100#16 ≠ 0 then
        let low := (value &&& 0x0F#8).toNat
        let low := if low = 0 then 1 else low
        ({ m with romBankLow := low, effectiveRomBank := low % m.romBankCount },
          ⟨true, true, false⟩)
      else ({ m with ramEnabled := value &&& 0x0F#8 == 0x0A#8 }, ⟨true, false, false⟩)
    else (m, {})
  | .mbc3 =>
    if address < 0x2000#16 then
      ({ m with ramEnabled := value &&& 0x0F#8 == 0x0A#8 }, ⟨true, false, false⟩)
    else if address < 0x4000#16 then
      let low := (value &&& 0x7F#8).toNat
      let low := if low = 0 then 1 else low
      ({ m with
          romBankLow := low
          effectiveRomBank := if low ≥ m.romBankCount then m.romBankCount - 1 else low },
        ⟨true, true, false⟩)
    else if address < 0x6000#16 then ({ m with ramBankSelect := value }, ⟨true, false, false⟩)
    else if address < 0x8000#16 then (m, ⟨true, false, false⟩)
    else (m, {})
  | .mbc5 =>
    if address < 0x2000#16 then
      ({ m with ramEnabled := value &&& 0x0F#8 == 0x0A#8 }, ⟨true, false, false⟩)
    else if address < 0x3000#16 then
      ({ m with romBankLow := (m.romBankLow &&& 0x0100) ||| value.toNat }.updateMbc5Banking,
        ⟨true, true, false⟩)
    else if address < 0x4000#16 then
      ({ m with
          romBankLow := (m.romBankLow &&& 0x00FF) ||| ((value &&& 0x01#8).toNat <<< 8)
        }.updateMbc5Banking, ⟨true, true, false⟩)
    else if address < 0x6000#16 then
      ({ m with ramBankSelect := value &&& 0x0F#8 }, ⟨true, false, false⟩)
    else if address < 0x8000#16 then (m, ⟨true, false, false⟩)
    else (m, {})

/-- The bytes of one 16 KiB bank, padded with `0xFF`. -/
def copyRomBankWindow (bankIndex : ℕ) : List Byte :=
  if bankIndex ≥ m.romBankCount then List.replicate 0x4000 0xFF#8
  else if bankIndex * 0x4000 ≥ m.romData.length then List.replicate 0x4000 0xFF#8
  else
    let bytes := (m.romData.drop (bankIndex * 0x4000)).take 0x4000
    bytes ++ List.replicate (0x4000 - bytes.length) 0xFF#8

structure SaveState where
  romSize : ℕ
  romBankCount : ℕ
  romBankLow : ℕ
  effectiveRomBank : ℕ
  ramBankSelect : Byte
  ramBankMode : Byte
  ramEnabled : Bool
  dirty : Bool
  hasBattery : Bool
  externalRamValid : Bool
  externalRam : List Byte
  deriving DecidableEq

def exportState : SaveState :=
  { romSize := m.romSize
    romBankCount := m.romBankCount
    romBankLow := m.romBankLow
    effectiveRomBank := m.effectiveRomBank
    ramBankSelect := m.ramBankSelect
    ramBankMode := m.ramBankMode
    ramEnabled := m.ramEnabled
    dirty := m.dirty
    hasBattery := m.hasBattery
    externalRamValid := m.dirty && !m.externalRam.isEmpty
    externalRam := m.externalRam }

def importState (m : GameBoyMapper) (state : SaveState) : Except String GameBoyMapper :=
  if state.romSize ≠ m.romSize ∨ state.romBankCount ≠ m.romBankCount then
    .error "mapper save state does not match loaded ROM"
  else if state.effectiveRomBank ≥ m.romBankCount then
    .error "mapper save state ROM bank out of range"
  else if state.ramBankMode > 1#8 then .error "mapper save state banking mode invalid"
  else if ¬ m.externalRam.isEmpty ∧ state.externalRam.length ≠ m.externalRam.length then
    .error "mapper save state external RAM size mismatch"
  else if m.externalRam.isEmpty ∧ ¬ state.externalRam.isEmpty then
    .error "mapper save state unexpectedly contains external RAM"
  else
    .ok
      { m with
        romBankLow := if state.romBankLow = 0 then 1 else state.romBankLow
        effectiveRomBank := state.effectiveRomBank
        ramBankSelect := state.ramBankSelect
        ramBankMode := state.ramBankMode
        ramEnabled := state.ramEnabled
        dirty := state.dirty
        hasBattery := state.hasBattery
        externalRam :=
          if state.externalRam.isEmpty then m.externalRam else state.externalRam }

end GameBoyMapper

end ProtoTime.GameBoy
