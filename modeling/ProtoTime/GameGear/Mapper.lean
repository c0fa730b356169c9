import ProtoTime.GameBoy.Bytes
import ProtoTime.ByteReader
import Mathlib.Tactic.SplitIfs
import Mathlib.Logic.Function.Basic

/-!
The Game Gear cartridge and its mappers: banking, save RAM, the extra RAM of the Codemasters
boards, save data and state chunks.
-/
namespace ProtoTime.GameGear
open Function ByteReader
open GameBoy (Byte Addr)

/-- The cartridge class itself and the four mapper classes derived from it. -/
inductive MapperKind where
  | cartridge | sega3155208 | sega3155235 | sega3155365 | codemasters
  deriving DecidableEq

structure GameGearMapper where
  kind : MapperKind
  rom : List Byte := []
  sram : List Byte := []
  bankRegisters : Fin 3 → Byte := fun _ => 0
  controlRegister : Byte := 0
  saveDirty : Bool := false
  extraRam : List Byte := []
  extraRamMapped : Bool := false
  extraRamDirty : Bool := false

namespace GameGearMapper

def kPageSize : ℕ := 0x4000
def kSramWindowSize : ℕ := 0x4000
def kSramSize : ℕ := kSramWindowSize * 2
def kExtraRamSize : ℕ := 0x2000

variable (m : GameGearMapper)

def loaded : Bool := !m.rom.isEmpty

def numBanks : ℕ :=
  if m.rom.isEmpty then 1 else (m.rom.length + (kPageSize - 1)) / kPageSize

def sramEnabled : Bool := m.controlRegister &&& 0x08#8 != 0

def sramOffset (addr : Addr) : ℕ :=
  (if m.controlRegister &&& 0x04#8 ≠ 0 then kSramWindowSize else 0) + (addr.toNat - 0x8000)

def pageBank (pageIndex : ℕ) : ℕ :=
  if h : pageIndex < 3 then
    ((m.bankRegisters ⟨pageIndex, h⟩).toNat + (m.controlRegister &&& 0x03#8).toNat * 8) % m.numBanks
  else 0

/-- The reset of the base class. -/
def resetBanks : GameGearMapper :=
  { m with
    bankRegisters := fun i => BitVec.ofNat 8 (i.val % m.numBanks)
    controlRegister := 0
    saveDirty := false }

/-- The write of the base class: the control register and the three bank registers at the top
of the address space, and the save RAM window. -/
def writeBase (addr : Addr) (value : Byte) : GameGearMapper :=
  if addr ≥ 0xFFFC#16 then
    if addr = 0xFFFC#16 then { m with controlRegister := value }
    else
      { m with
        bankRegisters := update m.bankRegisters (Fin.ofNat 3 (addr.toNat - 0xFFFD)) value }
  else if addr ≥ 0x8000#16 ∧ addr < 0xC000#16 ∧ m.sramEnabled then
    let offset := m.sramOffset addr
    if offset < m.sram.length ∧ m.sram.getD offset 0 ≠ value then
      { m with sram := m.sram.set offset value, saveDirty := true }
    else m
  else m

def readBase (addr : Addr) : Byte :=
  if !m.loaded || decide (addr ≥ 0xC000#16) then 0xFF
  else if addr ≥ 0x8000#16 ∧ m.sramEnabled then m.sram.getD (m.sramOffset addr) 0xFF
  else if addr < 0x0400#16 then m.rom.getD (addr.toNat % m.rom.length) 0xFF
  else m.rom.getD (m.pageBank (addr.toNat / kPageSize) * kPageSize + addr.toNat % kPageSize) 0xFF

/-- The 315-5235 writes its power-up registers, the Codemasters boards theirs, and these drop
the extra RAM. -/
def reset : GameGearMapper :=
  match m.kind with
  | .sega3155235 =>
    (((m.resetBanks.writeBase 0xFFFC 0x00).writeBase 0xFFFD 0x00).writeBase 0xFFFE 0x01).writeBase
      0xFFFF 0x02
  | .codemasters =>
    { ((m.resetBanks.writeBase 0xFFFD 0).writeBase 0xFFFE 1).writeBase 0xFFFF 0 with
      extraRamMapped := false
      extraRam := []
      extraRamDirty := false }
  | _ => m.resetBanks

def load (data : List Byte) : GameGearMapper :=
  if data.isEmpty then { m with rom := [], sram := [] }.reset
  else { m with rom := data, sram := List.replicate kSramSize 0 }.reset

def extraWindow (addr : Addr) : Bool :=
  decide (m.kind = .codemasters) && m.extraRamMapped && decide (addr ≥ 0xA000#16) &&
    decide (addr < 0xC000#16)

def handlesControlWrite (addr : Addr) : Bool :=
  if m.kind = .codemasters then
    decide (addr < 0xC000#16) && !(m.extraRamMapped && decide (addr ≥ 0xA000#16))
  else decide (addr ≥ 0xFFFC#16)

def handlesMappedWrite (addr : Addr) : Bool :=
  m.extraWindow addr || (decide (addr ≥ 0x8000#16) && decide (addr < 0xC000#16) && m.sramEnabled)

def read (addr : Addr) : Byte :=
  if m.extraWindow addr then m.extraRam.getD (addr.toNat - 0xA000) 0xFF else m.readBase addr

/-- A write into a slot selects its bank; the top bit written to the second slot maps the extra
RAM, which appears when it is first mapped. -/
def writeSlot (addr : Addr) (value : Byte) : GameGearMapper :=
  let slot := addr.toNat / 0x4000
  let m := m.writeBase (0xFFFD#16 + BitVec.ofNat 16 slot) (value &&& 0x7F#8)
  if slot = 1 then
    if value &&& 0x80#8 ≠ 0 then
      { m with
        extraRam := if m.extraRam.isEmpty then List.replicate kExtraRamSize 0 else m.extraRam
        extraRamMapped := true }
    else { m with extraRamMapped := false }
  else m

def write (addr : Addr) (value : Byte) : GameGearMapper :=
  if m.kind = .codemasters then
    if m.handlesControlWrite addr then m.writeSlot addr value
    else if m.extraWindow addr then
      if addr.toNat - 0xA000 < m.extraRam.length then
        { m with extraRam := m.extraRam.set (addr.toNat - 0xA000) value, extraRamDirty := true }
      else m
    else m.writeBase addr value
  else m.writeBase addr value

/-- The bank the program sees at an address, if it sees one. -/
def romBankForAddress (addr : Addr) : Option ℕ :=
  if m.extraWindow addr then none
  else if !m.loaded || decide (addr ≥ 0xC000#16) ||
      (decide (addr ≥ 0x8000#16) && m.sramEnabled) then none
  else if addr < 0x0400#16 then some 0
  else some (m.pageBank (addr.toNat / kPageSize))

def supportsSaveData : Bool :=
  match m.kind with
  | .sega3155365 => false
  | .codemasters => !m.extraRam.isEmpty || !m.sram.isEmpty
  | _ => !m.sram.isEmpty

def hasDirtySaveData : Bool :=
  (decide (m.kind = .codemasters) && m.extraRamDirty) || m.saveDirty

def markSaveClean : GameGearMapper :=
  if m.kind = .codemasters then { m with extraRamDirty := false, saveDirty := false }
  else { m with saveDirty := false }

def exportSaveData : List Byte :=
  if m.kind = .codemasters ∧ m.extraRam ≠ [] then m.extraRam else m.sram

def importSram (saveData : List Byte) : GameGearMapper :=
  if m.sram.isEmpty then { m with saveDirty := false }
  else
    { m with
      sram := saveData.take m.sram.length ++ List.replicate (m.sram.length - saveData.length) 0
      saveDirty := false }

def importSaveData (saveData : List Byte) : GameGearMapper :=
  if m.kind = .codemasters ∧ saveData.length = kExtraRamSize then
    { m with extraRam := saveData, extraRamDirty := false }
  else m.importSram saveData

def exportBase : List Byte :=
  ofU32 (BitVec.ofNat 32 m.rom.length) ++ ofU32 (BitVec.ofNat 32 m.numBanks) ++
    [m.controlRegister, m.bankRegisters 0, m.bankRegisters 1, m.bankRegisters 2] ++
    ofFlag m.saveDirty ++ ofU32 (BitVec.ofNat 32 m.sram.length) ++ m.sram

def exportState : List Byte :=
  if m.kind = .codemasters then
    m.exportBase ++ ofU32 (BitVec.ofNat 32 m.extraRam.length) ++ m.extraRam ++
      ofFlag m.extraRamMapped ++ ofFlag m.extraRamDirty
  else m.exportBase

def kTruncated : String := "Game Gear cartridge state truncated"

def readBaseState : Reader String GameGearMapper := do
  let romSize ← u32 kTruncated
  let bankCount ← u32 kTruncated
  check (romSize.toNat == m.rom.length && bankCount.toNat == m.numBanks)
    "Game Gear cartridge state does not match loaded ROM"
  let control ← u8 kTruncated
  let bank0 ← u8 kTruncated
  let bank1 ← u8 kTruncated
  let bank2 ← u8 kTruncated
  let dirty ← flag kTruncated "Game Gear cartridge state dirty flag invalid"
  let size ← u32 kTruncated
  check (decide (size.toNat ≤ kSramSize)) "Game Gear cartridge state vector invalid"
  let nextSram ← take "Game Gear cartridge state vector invalid" size.toNat
  let unread ← left
  check (nextSram.length == m.sram.length && unread == 0)
    "Game Gear cartridge state SRAM size mismatch"
  return { m with
    controlRegister := control
    bankRegisters := fun i => if i = 0 then bank0 else if i = 1 then bank1 else bank2
    saveDirty := dirty
    sram := nextSram }

/-- What follows the base chunk on a Codemasters board. -/
def readExtraState : Reader String (List Byte × Bool × Bool) := do
  let size ← u32 "Codemasters mapper state truncated"
  let unread ← left
  check (decide (size.toNat ≤ kExtraRamSize) && unread == size.toNat + 2)
    "Codemasters mapper state extra RAM invalid"
  let extraRam ← take "Codemasters mapper state extra RAM invalid" size.toNat
  let mapped ← u8 "Codemasters mapper state truncated"
  let dirty ← u8 "Codemasters mapper state truncated"
  check (decide (mapped ≤ 1) && decide (dirty ≤ 1)) "Codemasters mapper state flag invalid"
  return (extraRam, mapped != 0, dirty != 0)

/-- The Codemasters chunk is split at the size of the mapper's own base chunk. -/
def importState (m : GameGearMapper) (state : List Byte) : Except String GameGearMapper :=
  if m.kind = .codemasters then do
    let baseSize := m.exportBase.length
    (if state.length < baseSize + 6 then .error "Codemasters mapper state truncated" else .ok ())
    let (extraRam, mapped, dirty) ← run readExtraState (state.drop baseSize)
    let m ← run m.readBaseState (state.take baseSize)
    return { m with extraRam := extraRam, extraRamMapped := mapped, extraRamDirty := dirty }
  else run m.readBaseState state

/-- A mapper of the same kind with the same image and save RAM. -/
structure SameMemory (m m' : GameGearMapper) : Prop where
  kind : m'.kind = m.kind
  rom : m'.rom = m.rom
  sram : m'.sram = m.sram

theorem writeBase_sameMemory {addr : Addr} (h : addr ≥ 0xFFFC#16)
    (value : Byte) : m.SameMemory (m.writeBase addr value) := by
  unfold writeBase
  rw [if_pos h]
  split <;> exact ⟨rfl, rfl, rfl⟩

theorem SameMemory.trans {m m' m'' : GameGearMapper} (h : m.SameMemory m')
    (h' : m'.SameMemory m'') : m.SameMemory m'' :=
  ⟨h'.kind.trans h.kind, h'.rom.trans h.rom, h'.sram.trans h.sram⟩

theorem reset_sameMemory : m.SameMemory m.reset := by
  have hbanks : m.SameMemory m.resetBanks := ⟨rfl, rfl, rfl⟩
  have hwrite {m' : GameGearMapper} (h : m.SameMemory m') (i : ℕ) (hi : i < 4) (value : Byte) :
      m.SameMemory (m'.writeBase (0xFFFC#16 + BitVec.ofNat 16 i) value) := by
    refine h.trans (writeBase_sameMemory m' ?_ value)
    interval_cases i <;> decide
  unfold reset
  split
  · exact hwrite (hwrite (hwrite (hwrite hbanks 0 (by decide) _) 1 (by decide) _) 2 (by decide) _)
      3 (by decide) _
  · have h := hwrite (hwrite (hwrite hbanks 1 (by decide) 0) 2 (by decide) 1) 3 (by decide) 0
    exact ⟨h.kind, h.rom, h.sram⟩
  · exact hbanks

theorem load_kind (data : List Byte) : (m.load data).kind = m.kind := by
  unfold load
  split
  · exact (reset_sameMemory _).kind
  · exact (reset_sameMemory _).kind

theorem load_rom (data : List Byte) : (m.load data).rom = data := by
  unfold load
  split
  · next h => exact (reset_sameMemory _).rom.trans (List.isEmpty_iff.mp h).symm
  · exact (reset_sameMemory _).rom

theorem length_load_sram {data : List Byte} (h : data ≠ []) :
    (m.load data).sram.length = kSramSize := by
  unfold load
  rw [if_neg (by simpa using h), (reset_sameMemory _).sram, List.length_replicate]

structure SameExtraRam (m m' : GameGearMapper) : Prop where
  ram : m'.extraRam = m.extraRam
  mapped : m'.extraRamMapped = m.extraRamMapped
  dirty : m'.extraRamDirty = m.extraRamDirty

theorem writeBase_sameExtraRam (addr : Addr) (value : Byte) :
    m.SameExtraRam (m.writeBase addr value) := by
  unfold writeBase
  dsimp only
  split_ifs <;> exact ⟨rfl, rfl, rfl⟩

theorem reset_sameExtraRam {m : GameGearMapper} (h : m.kind ≠ .codemasters) :
    m.SameExtraRam m.reset := by
  have hwrite {m' : GameGearMapper} (hm : m.SameExtraRam m') (addr : Addr) (value : Byte) :
      m.SameExtraRam (m'.writeBase addr value) := by
    have hstep := m'.writeBase_sameExtraRam addr value
    exact ⟨hstep.ram.trans hm.ram, hstep.mapped.trans hm.mapped, hstep.dirty.trans hm.dirty⟩
  have hbanks : m.SameExtraRam m.resetBanks := ⟨rfl, rfl, rfl⟩
  unfold reset
  split
  · exact hwrite (hwrite (hwrite (hwrite hbanks _ _) _ _) _ _) _ _
  · next hkind => exact absurd hkind h
  · exact hbanks

end GameGearMapper

end ProtoTime.GameGear
