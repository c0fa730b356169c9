import ProtoTime.GameBoy.BankingAgreement

/-!
Saving the mapper and the cartridge and restoring them into freshly loaded
objects: when the import is accepted, and when the restored pair serves every
later access as the saved one would have.
-/
namespace ProtoTime.GameBoy

open Transition

/-- The two chunks of a save file that carry the banking state. -/
structure BankingImage where
  mapper : GameBoyMapper.SaveState
  cartridge : GameBoyCartridge.State

namespace Banking

def exportState (b : Banking) : BankingImage := ⟨b.mapper.exportState, b.cartridge.exportState⟩

/-- Both chunks are imported into objects that never held another image. -/
def restore (rom : List Byte) (image : BankingImage) : Except String Banking :=
  match load .initial rom with
  | .error message => .error message
  | .ok b =>
    match b.mapper.importState image.mapper, b.cartridge.importState image.cartridge with
    | .ok mapper, .ok cartridge => .ok ⟨mapper, cartridge⟩
    | .error message, _ => .error message
    | _, .error message => .error message

def withSave (b : Banking) (save : Option CartridgeSaveData) : Banking :=
  match save with
  | none => b
  | some save => { b with cartridge := b.cartridge.importSaveData save }

/-- Loading a save file: both chunks are staged into copies and published together. -/
def loadState (b : Banking) (image : BankingImage) : Banking :=
  match (b.mapper.load b.mapper.romData).importState image.mapper,
    b.cartridge.importState image.cartridge with
  | .ok mapper, .ok cartridge => ⟨mapper, cartridge⟩
  | _, _ => b

inductive Action where
  | guestWrite (w : GuestWrite)
  | loadState (image : BankingImage)

def act (b : Banking) : Action → Banking
  | .guestWrite w => b.write w
  | .loadState image => b.loadState image

/-- The states of a run over one image: loaded over any earlier mapper, with or without battery
data, then written by the guest and restored from save files any number of times. -/
def Reached (rom : List Byte) (b : Banking) : Prop :=
  ∃ previous loaded save actions,
    load previous rom = .ok loaded ∧ b = run act (loaded.withSave save) actions

/-- What the machine serves from the pair: banks, external area, RAM and clock bytes. -/
structure SameService (b b' : Banking) : Prop where
  romBank : b'.mapper.currentRomBank = b.mapper.currentRomBank
  fixedRomBank : b'.mapper.currentFixedRomBank = b.mapper.currentFixedRomBank
  cartridgeBank : b'.cartridge.switchableBankIndex = b.cartridge.switchableBankIndex
  cartridgeFixedBank : b'.cartridge.fixedBankIndex = b.cartridge.fixedBankIndex
  read : ∀ address, b'.cartridge.read address = b.cartridge.read address
  mapperRam : b'.mapper.externalRam = b.mapper.externalRam
  ram : b'.cartridge.externalRam = b.cartridge.externalRam
  rtc : b'.cartridge.rtcRegisters = b.cartridge.rtcRegisters

/-- The exported state is accepted by fresh objects, and every further sequence of writes is
served from the restored pair as from the saved one. -/
def Faithful (rom : List Byte) (b : Banking) : Prop :=
  ∃ b', restore rom b.exportState = .ok b' ∧
    ∀ writes, SameService (run Banking.write b writes) (run Banking.write b' writes)

/-- The image declares RAM or no earlier image left any in the mapper; the bank register of a
one-bank image is zero; the nine-bit MBC5 register is not zero. -/
structure Restorable (rom : List Byte) (b : Banking) : Prop where
  ram : 0 < (parseCartridgeMetadata rom).externalRamSize ∨ b.mapper.externalRam = []
  bank : b.cartridge.metadata.romBankCount = 1 → b.cartridge.currentRomBank = 0
  low : b.mapper.mapperType = .mbc5 → b.mapper.romBankLow ≠ 0

end Banking

variable {rom : List Byte}

namespace GameBoyMapper

/-- The fields a loaded image fixes, and the ranges of the registers. -/
structure Holds (rom : List Byte) (m : GameBoyMapper) : Prop where
  type_eq : m.mapperType = (parseCartridgeMetadata rom).mapper
  data_eq : m.romData = rom
  size_eq : m.romSize = rom.length
  count_eq : m.romBankCount = fullBanks rom.length
  ramSize_eq : m.externalRamSize = (parseCartridgeMetadata rom).externalRamSize
  ram_length : 0 < (parseCartridgeMetadata rom).externalRamSize →
    m.externalRam.length = (parseCartridgeMetadata rom).externalRamSize
  bank_lt : m.effectiveRomBank < m.romBankCount
  mode_le : m.ramBankMode ≤ 1#8
  low_ne : m.mapperType ≠ .mbc5 → m.romBankLow ≠ 0

theorem two_le_fullBanks (size : ℕ) : 2 ≤ fullBanks size := by
  unfold fullBanks
  omega

theorem load_holds (previous : GameBoyMapper) (rom : List Byte) :
    (previous.load rom).Holds rom := by
  have hcount : (previous.load rom).romBankCount = fullBanks rom.length := by
    simp only [load, fullBanks]
    split_ifs <;> omega
  refine ⟨rfl, rfl, rfl, hcount, rfl, ?_, ?_, (by decide : 0#8 ≤ 1#8), ?_⟩
  · intro h
    simp [load, h]
  · have h := two_le_fullBanks rom.length
    rw [hcount]
    exact lt_of_lt_of_le Nat.one_lt_two h
  · intro _
    exact Nat.one_ne_zero

theorem mbc1Bank_lt {count : ℕ} (h : 0 < count) (request : ℕ) : mbc1Bank count request < count := by
  unfold mbc1Bank
  dsimp only
  split_ifs <;> exact Nat.mod_lt _ h

theorem clampBank_lt {count : ℕ} (h : 0 < count) (bank : ℕ) :
    (if bank ≥ count then count - 1 else bank) < count := by
  split_ifs <;> omega

variable {m : GameBoyMapper}

theorem updateMbc5Banking_lt (h : 0 < m.romBankCount) :
    m.updateMbc5Banking.effectiveRomBank < m.romBankCount := clampBank_lt h _

/-- The registers stay in range under one guest write. -/
theorem write_registers (hcount : 2 ≤ m.romBankCount)
    (hbank : m.effectiveRomBank < m.romBankCount) (hmode : m.ramBankMode ≤ 1#8)
    (hlow : m.mapperType ≠ .mbc5 → m.romBankLow ≠ 0) (address : Addr) (value : Byte) :
    (m.write address value).1.effectiveRomBank < m.romBankCount ∧
      (m.write address value).1.ramBankMode ≤ 1#8 ∧
      (m.mapperType ≠ .mbc5 → (m.write address value).1.romBankLow ≠ 0) := by
  have hmask : value &&& 0x01#8 ≤ 1#8 := by
    exact Nat.and_le_right
  have hpos (bank : ℕ) : nonzeroBank bank ≠ 0 := by
    have := BankRegisters.nonzeroBank_pos bank
    omega
  obtain ⟨type, romData, romSize, count, ramSize, ram, low, effective, select, mode, enabled,
    dirty, battery⟩ := m
  dsimp only at hcount hbank hmode hlow ⊢
  have hcount' : 0 < count := by omega
  unfold write
  cases type with
  | none =>
    dsimp only
    split_ifs <;> exact ⟨hbank, hmode, hlow⟩
  | mbc1 =>
    simp only [ite_eq_nonzeroBank]
    split_ifs
    · exact ⟨hbank, hmode, hlow⟩
    · exact ⟨mbc1Bank_lt hcount' _, hmode, fun _ => hpos _⟩
    · exact ⟨mbc1Bank_lt hcount' _, hmode, hlow⟩
    · exact ⟨mbc1Bank_lt hcount' _, hmask, hlow⟩
    · exact ⟨hbank, hmode, hlow⟩
  | mbc2 =>
    simp only [ite_eq_nonzeroBank]
    split_ifs
    · exact ⟨Nat.mod_lt _ hcount', hmode, fun _ => hpos _⟩
    · exact ⟨hbank, hmode, hlow⟩
    · exact ⟨hbank, hmode, hlow⟩
  | mbc3 =>
    by_cases h2 : address < 0x2000#16
    · simp only [if_pos h2]
      exact ⟨hbank, hmode, hlow⟩
    by_cases h4 : address < 0x4000#16
    · simp only [if_neg h2, if_pos h4]
      exact ⟨clampBank_lt hcount' _, hmode, fun _ => hpos _⟩
    simp only [if_neg h2, if_neg h4]
    split_ifs <;> exact ⟨hbank, hmode, hlow⟩
  | mbc5 =>
    dsimp only
    split_ifs
    · exact ⟨hbank, hmode, hlow⟩
    · exact ⟨updateMbc5Banking_lt hcount', hmode, fun h => absurd rfl h⟩
    · exact ⟨updateMbc5Banking_lt hcount', hmode, fun h => absurd rfl h⟩
    · exact ⟨hbank, hmode, hlow⟩
    · exact ⟨hbank, hmode, hlow⟩
    · exact ⟨hbank, hmode, hlow⟩

theorem write_holds (h : m.Holds rom) (w : GuestWrite) :
    (m.write w.address w.value).1.Holds rom := by
  have hcount : 2 ≤ m.romBankCount := by
    rw [h.count_eq]
    exact two_le_fullBanks _
  obtain ⟨hbank, hmode, hlow⟩ :=
    write_registers hcount h.bank_lt h.mode_le h.low_ne w.address w.value
  obtain ⟨low, effective, select, mode, enabled, hframe⟩ := m.write_frame w.address w.value
  rw [hframe] at hbank hmode hlow ⊢
  exact ⟨h.type_eq, h.data_eq, h.size_eq, h.count_eq, h.ramSize_eq, h.ram_length, hbank, hmode,
    hlow⟩

structure Accepts (m : GameBoyMapper) (state : SaveState) : Prop where
  size_eq : state.romSize = m.romSize
  count_eq : state.romBankCount = m.romBankCount
  bank_lt : state.effectiveRomBank < m.romBankCount
  mode_le : state.ramBankMode ≤ 1#8
  ram_length : m.externalRam ≠ [] → state.externalRam.length = m.externalRam.length
  ram_empty : m.externalRam = [] → state.externalRam = []

/-- The mapper after an accepted import. -/
def restored (m : GameBoyMapper) (state : SaveState) : GameBoyMapper :=
  { m with
    romBankLow := nonzeroBank state.romBankLow
    effectiveRomBank := state.effectiveRomBank
    ramBankSelect := state.ramBankSelect
    ramBankMode := state.ramBankMode
    ramEnabled := state.ramEnabled
    dirty := state.dirty
    hasBattery := state.hasBattery
    externalRam := if state.externalRam.isEmpty then m.externalRam else state.externalRam }

theorem importState_eq_ok {m' : GameBoyMapper} {state : SaveState} :
    m.importState state = .ok m' ↔ m.Accepts state ∧ m' = m.restored state := by
  unfold importState
  change (if _ then _ else if _ then _ else if _ then _ else if _ then _ else if _ then _ else
    Except.ok (m.restored state)) = _ ↔ _
  split_ifs with hrom hbank hmode hlength hempty
  · refine ⟨nofun, ?_⟩
    rintro ⟨h, -⟩
    rcases hrom with hrom | hrom
    · exact absurd h.size_eq hrom
    · exact absurd h.count_eq hrom
  · refine ⟨nofun, ?_⟩
    rintro ⟨h, -⟩
    have := h.bank_lt
    omega
  · refine ⟨nofun, ?_⟩
    rintro ⟨h, -⟩
    exact absurd hmode (by simpa using h.mode_le)
  · refine ⟨nofun, ?_⟩
    rintro ⟨h, -⟩
    exact absurd (h.ram_length (by simpa using hlength.1)) hlength.2
  · refine ⟨nofun, ?_⟩
    rintro ⟨h, -⟩
    have hnil := h.ram_empty (by simpa using hempty.1)
    exact absurd hempty.2 (by simp [hnil])
  · have haccepts : m.Accepts state := by
      simp only [not_or, not_not] at hrom
      refine ⟨hrom.1, hrom.2, by omega, by simpa using hmode, ?_, ?_⟩
      · intro hne
        by_contra hlen
        exact hlength ⟨by simpa using hne, hlen⟩
      · intro hnil
        by_contra hne
        exact hempty ⟨by simpa using hnil, by simpa using hne⟩
    constructor
    · intro h
      exact ⟨haccepts, (Except.ok.inj h).symm⟩
    · rintro ⟨-, rfl⟩
      rfl

theorem restored_holds {state : SaveState}
    (h : m.Holds rom) (ha : m.Accepts state) : (m.restored state).Holds rom := by
  refine ⟨h.type_eq, h.data_eq, h.size_eq, h.count_eq, h.ramSize_eq, ?_, ha.bank_lt, ha.mode_le, ?_⟩
  · intro hsize
    have hlength := h.ram_length hsize
    have hne : m.externalRam ≠ [] := by
      intro hnil
      rw [hnil] at hlength
      exact absurd hlength.symm hsize.ne'
    have hstate := ha.ram_length hne
    have hempty : ¬ state.externalRam.isEmpty = true := by
      intro hnil
      rw [List.isEmpty_iff.mp hnil] at hstate
      exact hne (List.length_eq_zero_iff.mp hstate.symm)
    simp only [restored, if_neg hempty]
    exact hstate.trans hlength
  · intro _
    have := BankRegisters.nonzeroBank_pos state.romBankLow
    simp only [restored]
    omega

end GameBoyMapper

namespace GameBoyCartridge

/-- The fields a loaded image fixes, and the ranges of the registers. The bank register of a
one-bank image is unconstrained. -/
structure Holds (rom : List Byte) (c : GameBoyCartridge) : Prop where
  metadata_eq : c.metadata = forcedMetadata rom
  rom_eq : c.rom = rom
  ram_length : c.externalRam.length = (forcedMetadata rom).externalRamSize
  bank_inRange : c.metadata.romBankCount ≠ 1 → romBankInRange c.metadata c.currentRomBank = true
  ramBank_inRange : ramBankInRange c.metadata c.currentRamBank = true
  selector_valid : rtcSelectorValid c.metadata c.selectedRtcRegister = true
  low_mask : c.mbc1LowBankBits &&& 0x1F#8 = c.mbc1LowBankBits
  low_ne : c.mbc1LowBankBits ≠ 0
  rtc_unused : c.metadata.hasRtc = false → c.rtcRegisters = Vector.replicate 5 0x00#8

variable {rom : List Byte}

theorem fresh_holds (h : rom ≠ []) : (fresh rom).Holds rom := by
  have hlength : 0 < rom.length := List.length_pos_iff.mpr h
  have hcount := forcedMetadata_romBankCount rom
  refine ⟨rfl, rfl, List.length_replicate, ?_, ?_, rfl, (by decide : 1#8 &&& 0x1F#8 = 1#8),
    (by decide : 1#8 ≠ 0), fun _ => rfl⟩
  · intro hne
    have hmetadata : (fresh rom).metadata = forcedMetadata rom := rfl
    have hbank : (fresh rom).currentRomBank = 1 := if_pos (by rw [hmetadata] at hne; omega)
    rw [romBankInRange, if_neg hne, hbank]
    cases (fresh rom).metadata.mapper <;> rfl
  · unfold ramBankInRange
    cases (fresh rom).metadata.mapper <;> rfl

variable {c : GameBoyCartridge}

theorem importSaveData_holds (h : c.Holds rom)
    (save : CartridgeSaveData) : (c.importSaveData save).Holds rom := by
  have hlength : (save.externalRam.take c.externalRam.length ++ List.replicate
      (c.externalRam.length - (save.externalRam.take c.externalRam.length).length)
        0x00#8).length = c.externalRam.length := by
    simp only [List.length_append, List.length_take, List.length_replicate]
    omega
  unfold importSaveData
  dsimp only
  split
  · rename_i hrtc _
    refine ⟨h.metadata_eq, h.rom_eq, hlength.trans h.ram_length, h.bank_inRange,
      h.ramBank_inRange, h.selector_valid, h.low_mask, h.low_ne, ?_⟩
    intro (hnone : c.metadata.hasRtc = false)
    exact absurd (hnone.symm.trans hrtc) (by decide)
  · exact ⟨h.metadata_eq, h.rom_eq, hlength.trans h.ram_length, h.bank_inRange,
      h.ramBank_inRange, h.selector_valid, h.low_mask, h.low_ne, h.rtc_unused⟩

theorem lowBits_normal (value : Byte) :
    (if value &&& 0x1F#8 = 0 then 1#8 else value &&& 0x1F#8) &&& 0x1F#8 =
        (if value &&& 0x1F#8 = 0 then 1#8 else value &&& 0x1F#8) ∧
      (if value &&& 0x1F#8 = 0 then 1#8 else value &&& 0x1F#8) ≠ 0 := by
  revert value
  decide

theorem nonzeroBank_inRange (value mask : Byte) (h : 1 ≤ mask.toNat) :
    (decide (1 ≤ nonzeroBank (value &&& mask).toNat) &&
      decide (nonzeroBank (value &&& mask).toNat ≤ mask.toNat)) = true := by
  rw [Bool.and_eq_true, decide_eq_true_eq, decide_eq_true_eq]
  exact ⟨BankRegisters.nonzeroBank_pos _, BankRegisters.nonzeroBank_mask_le value mask h⟩

theorem write_holds (h : c.Holds rom) (w : GuestWrite) :
    (c.write w.address w.value).1.Holds rom := by
  obtain ⟨hmetadata, hrom, hlength, hbank, hram, hselector, hmask, hne, hrtc⟩ := h
  unfold write
  split_ifs with hexternal hcontrol
  · obtain ⟨ram, rtc, dirty, hframe, hsame, hunused⟩ :=
      c.writeExternalArea_frame w.address w.value
    simp only [hframe]
    refine ⟨hmetadata, hrom, hsame.trans hlength, hbank, hram, hselector, hmask, hne, ?_⟩
    intro (hnone : c.metadata.hasRtc = false)
    exact (hunused hnone).trans (hrtc hnone)
  · have harea : ¬ 0x8000#16 ≤ w.address := by simpa using hcontrol
    simp only [writeControl, if_neg harea, markDirtyIfPersistent_eq]
    cases hm : c.metadata.mapper with
    | none => exact ⟨hmetadata, hrom, hlength, hbank, hram, hselector, hmask, hne, hrtc⟩
    | mbc1 =>
      obtain ⟨hmask', hne'⟩ := lowBits_normal w.value
      by_cases h2 : w.address < 0x2000#16
      · simp only [if_pos h2]
        exact ⟨hmetadata, hrom, hlength, hbank, hram, hselector, hmask, hne, hrtc⟩
      by_cases h4 : w.address < 0x4000#16
      · simp only [if_neg h2, if_pos h4]
        exact ⟨hmetadata, hrom, hlength, hbank, hram, hselector, hmask', hne', hrtc⟩
      simp only [if_neg h2, if_neg h4]
      split_ifs
      · exact ⟨hmetadata, hrom, hlength, hbank, hram, hselector, hmask, hne, hrtc⟩
      · exact ⟨hmetadata, hrom, hlength, hbank, hram, hselector, hmask, hne, hrtc⟩
    | mbc2 =>
      have hrange (hone : c.metadata.romBankCount ≠ 1) :
          romBankInRange c.metadata (nonzeroBank (w.value &&& 0x0F#8).toNat) = true := by
        rw [romBankInRange, if_neg hone, hm]
        exact nonzeroBank_inRange w.value 0x0F#8 (by decide)
      simp only [ite_eq_nonzeroBank]
      split_ifs
      · exact ⟨hmetadata, hrom, hlength, hbank, hram, hselector, hmask, hne, hrtc⟩
      · exact ⟨hmetadata, hrom, hlength, hrange, hram, hselector, hmask, hne, hrtc⟩
      · exact ⟨hmetadata, hrom, hlength, hbank, hram, hselector, hmask, hne, hrtc⟩
    | mbc3 =>
      have hrange (hone : c.metadata.romBankCount ≠ 1) :
          romBankInRange c.metadata (nonzeroBank (w.value &&& 0x7F#8).toNat) = true := by
        rw [romBankInRange, if_neg hone, hm]
        exact nonzeroBank_inRange w.value 0x7F#8 (by decide)
      have hramRange : ramBankInRange c.metadata (w.value &&& 0x03#8).toNat = true := by
        rw [ramBankInRange, hm, decide_eq_true_eq, BitVec.toNat_and]
        exact Nat.lt_succ_of_le Nat.and_le_right
      simp only [ite_eq_nonzeroBank]
      split_ifs with h2 h4 h6 hdata hselect
      · exact ⟨hmetadata, hrom, hlength, hbank, hram, hselector, hmask, hne, hrtc⟩
      · exact ⟨hmetadata, hrom, hlength, hrange, hram, hselector, hmask, hne, hrtc⟩
      · exact ⟨hmetadata, hrom, hlength, hbank, hramRange, rfl, hmask, hne, hrtc⟩
      · refine ⟨hmetadata, hrom, hlength, hbank, hram, ?_, hmask, hne, hrtc⟩
        obtain ⟨hsupports, hge, hle⟩ := hselect
        have hhas : c.metadata.hasRtc = true := hsupports
        simp [rtcSelectorValid, hhas, hge, hle]
      all_goals exact ⟨hmetadata, hrom, hlength, hbank, hram, hselector, hmask, hne, hrtc⟩
    | mbc5 =>
      have hrange {bank : ℕ} (hle : bank ≤ 0x1FF) (hone : c.metadata.romBankCount ≠ 1) :
          romBankInRange c.metadata bank = true := by
        rw [romBankInRange, if_neg hone, hm]
        exact decide_eq_true hle
      have hramRange : ramBankInRange c.metadata (w.value &&& 0x0F#8).toNat = true := by
        rw [ramBankInRange, hm, decide_eq_true_eq, BitVec.toNat_and]
        exact Nat.lt_succ_of_le Nat.and_le_right
      obtain ⟨hlow, hhigh⟩ := BankRegisters.low_or_high_le c.currentRomBank w.value
      dsimp only
      split_ifs
      · exact ⟨hmetadata, hrom, hlength, hbank, hram, hselector, hmask, hne, hrtc⟩
      · exact ⟨hmetadata, hrom, hlength, hrange hlow, hram, hselector, hmask, hne, hrtc⟩
      · exact ⟨hmetadata, hrom, hlength, hrange hhigh, hram, hselector, hmask, hne, hrtc⟩
      · exact ⟨hmetadata, hrom, hlength, hbank, hramRange, hselector, hmask, hne, hrtc⟩
      · exact ⟨hmetadata, hrom, hlength, hbank, hram, hselector, hmask, hne, hrtc⟩
  · exact ⟨hmetadata, hrom, hlength, hbank, hram, hselector, hmask, hne, hrtc⟩

structure Accepts (c : GameBoyCartridge) (state : State) : Prop where
  size_eq : state.romSize = c.rom.length
  count_eq : state.romBankCount = c.metadata.romBankCount
  ram_length : state.externalRam.length = c.externalRam.length
  bank_inRange : romBankInRange c.metadata state.currentRomBank = true
  ramBank_inRange : ramBankInRange c.metadata state.currentRamBank = true
  selector_valid : rtcSelectorValid c.metadata state.selectedRtcRegister = true
  rtc_isSome : state.rtc.isSome = c.metadata.hasRtc

/-- The five low bits of an imported register, never zero. -/
def importedLowBits (bits : ℕ) : Byte :=
  let low := BitVec.ofNat 8 (bits &&& 0x1F)
  if low = 0 then 1#8 else low

/-- The cartridge after an accepted import. -/
def restored (c : GameBoyCartridge) (state : State) : GameBoyCartridge :=
  { c with
    currentRomBank := state.currentRomBank
    currentRamBank := state.currentRamBank
    ramEnabled := state.ramEnabled
    selectedRtcRegister := state.selectedRtcRegister
    mbc1BankingModeSelect := state.mbc1BankingModeSelect
    mbc1UpperBankBits := BitVec.ofNat 8 state.mbc1UpperBankBits
    mbc1LowBankBits := importedLowBits state.mbc1LowBankBits
    saveDirty := state.dirty
    externalRam := state.externalRam
    rtcRegisters := (state.rtc.getD ⟨c.rtcRegisters, c.rtcLatched⟩).registers
    rtcLatched := (state.rtc.getD ⟨c.rtcRegisters, c.rtcLatched⟩).latched }

theorem importState_eq_ok {c' : GameBoyCartridge} {state : State} :
    c.importState state = .ok c' ↔ c.Accepts state ∧ c' = c.restored state := by
  unfold importState
  change (if _ then _ else if _ then _ else if _ then _ else if _ then _ else if _ then _ else
    if _ then _ else Except.ok (c.restored state)) = _ ↔ _
  split_ifs with hrom hlength hbank hram hselector hrtc
  · refine ⟨nofun, ?_⟩
    rintro ⟨h, -⟩
    rcases hrom with hrom | hrom
    · exact absurd h.size_eq hrom
    · exact absurd h.count_eq hrom
  · exact ⟨nofun, fun h => absurd h.1.ram_length hlength⟩
  · exact ⟨nofun, fun h => absurd h.1.rtc_isSome hrtc⟩
  · simp only [not_or, not_not] at hrom hlength hrtc
    have haccepts : c.Accepts state :=
      ⟨hrom.1, hrom.2, hlength, hbank, hram, hselector, hrtc⟩
    constructor
    · intro h
      exact ⟨haccepts, (Except.ok.inj h).symm⟩
    · rintro ⟨-, rfl⟩
      rfl
  · exact ⟨nofun, fun h => absurd h.1.selector_valid hselector⟩
  · exact ⟨nofun, fun h => absurd h.1.ramBank_inRange hram⟩
  · exact ⟨nofun, fun h => absurd h.1.bank_inRange hbank⟩

theorem importedLowBits_toNat {low : Byte} (hmask : low &&& 0x1F#8 = low) (hne : low ≠ 0) :
    importedLowBits (low &&& 0x1F#8).toNat = low := by
  have hnat : low.toNat &&& 0x1F = low.toNat := by
    have h := congrArg BitVec.toNat hmask
    rwa [BitVec.toNat_and] at h
  simp only [importedLowBits, hmask, hnat, BitVec.ofNat_toNat, BitVec.setWidth_eq]
  exact if_neg hne

theorem importedLowBits_normal (bits : ℕ) :
    importedLowBits bits &&& 0x1F#8 = importedLowBits bits ∧ importedLowBits bits ≠ 0 := by
  have hmask : BitVec.ofNat 8 (bits &&& 0x1F) &&& 0x1F#8 = BitVec.ofNat 8 (bits &&& 0x1F) := by
    apply BitVec.eq_of_toNat_eq
    have hlt : bits &&& 0x1F < 256 := lt_of_le_of_lt Nat.and_le_right (by decide)
    rw [BitVec.toNat_and, BitVec.toNat_ofNat, Nat.mod_eq_of_lt hlt]
    exact (Nat.and_assoc bits 0x1F 0x1F).trans (by rw [Nat.and_self])
  have h := lowBits_normal (BitVec.ofNat 8 (bits &&& 0x1F))
  rw [hmask] at h
  exact h

theorem restored_holds {state : State}
    (h : c.Holds rom) (ha : c.Accepts state) : (c.restored state).Holds rom := by
  obtain ⟨hmask, hne⟩ := importedLowBits_normal state.mbc1LowBankBits
  refine ⟨h.metadata_eq, h.rom_eq, ha.ram_length.trans h.ram_length, fun _ => ha.bank_inRange,
    ha.ramBank_inRange, ha.selector_valid, hmask, hne, ?_⟩
  intro (hnone : c.metadata.hasRtc = false)
  have hrtc : state.rtc = none := by
    have hsome := ha.rtc_isSome
    rw [hnone] at hsome
    simpa using hsome
  simp only [restored, hrtc, Option.getD_none]
  exact h.rtc_unused hnone

/-- The latch of a cartridge without a clock is the one register the image leaves out. -/
def withoutUnusedLatch (c : GameBoyCartridge) : GameBoyCartridge :=
  { c with rtcLatched := c.metadata.hasRtc && c.rtcLatched }

theorem exportState_accepted (h : c.Holds rom) : (fresh rom).Accepts c.exportState ↔
      (c.metadata.romBankCount = 1 → c.currentRomBank = 0) := by
  have hmetadata : (fresh rom).metadata = c.metadata := h.metadata_eq.symm
  constructor
  · intro ha hone
    have hbank := ha.bank_inRange
    rw [hmetadata, romBankInRange, if_pos hone] at hbank
    simpa [exportState] using hbank
  · intro hbank
    refine ⟨congrArg List.length h.rom_eq,
      congrArg CartridgeMetadata.romBankCount hmetadata.symm, ?_, ?_, ?_, ?_, ?_⟩
    · exact h.ram_length.trans List.length_replicate.symm
    · rw [hmetadata]
      by_cases hone : c.metadata.romBankCount = 1
      · rw [romBankInRange, if_pos hone]
        simpa [exportState] using hbank hone
      · exact h.bank_inRange hone
    · rw [hmetadata]
      exact h.ramBank_inRange
    · rw [hmetadata]
      exact h.selector_valid
    · rw [hmetadata]
      simp only [exportState]
      cases c.metadata.hasRtc <;> rfl

theorem restored_exportState (h : c.Holds rom) :
    (fresh rom).restored c.exportState = c.withoutUnusedLatch := by
  have hlow := importedLowBits_toNat h.low_mask h.low_ne
  have hrtc := h.rtc_unused
  have hmetadata := h.metadata_eq
  have hrom := h.rom_eq
  obtain ⟨metadata, rom', ram, bank, ramBank, enabled, selector, latched, rtc, low, upper, mode,
    dirty⟩ := c
  dsimp only at hlow hrtc hmetadata hrom
  subst hmetadata hrom
  simp only [restored, exportState, withoutUnusedLatch, fresh, hlow, BitVec.ofNat_toNat,
    BitVec.setWidth_eq]
  cases hhas : (forcedMetadata rom').hasRtc with
  | false => simp [hrtc hhas]
  | true => simp

theorem withoutUnusedLatch_of_hasRtc (h : c.metadata.hasRtc = true) : c.withoutUnusedLatch = c := by
  simp [withoutUnusedLatch, h]

theorem writeExternalArea_latch (c : GameBoyCartridge) (latched : Bool) (address : Addr)
    (value : Byte) :
    ({ c with rtcLatched := latched }.writeExternalArea address value).1 =
      { (c.writeExternalArea address value).1 with rtcLatched := latched } := by
  have hselected :
      { c with rtcLatched := latched }.rtcRegisterSelected = c.rtcRegisterSelected := rfl
  have hindex : { c with rtcLatched := latched }.ramWriteIndex address = c.ramWriteIndex address :=
    rfl
  have hrtc : { c with rtcLatched := latched }.rtcIndex = c.rtcIndex := rfl
  simp only [writeExternalArea, markDirtyIfPersistent_eq, hselected, hindex, hrtc]
  split_ifs <;> rfl

/-- The unused latch never reaches another field. -/
theorem write_withoutUnusedLatch (c : GameBoyCartridge) (address : Addr) (value : Byte) :
    (c.withoutUnusedLatch.write address value).1.withoutUnusedLatch =
      (c.write address value).1.withoutUnusedLatch := by
  cases hrtc : c.metadata.hasRtc with
  | true => rw [withoutUnusedLatch_of_hasRtc hrtc]
  | false =>
    by_cases hexternal : 0xA000#16 ≤ address ∧ address < 0xC000#16
    · simp only [write, if_pos hexternal, withoutUnusedLatch, writeExternalArea_latch, hrtc,
        Bool.false_and]
      obtain ⟨ram, rtc, dirty, hframe, -, -⟩ := c.writeExternalArea_frame address value
      simp only [hframe, hrtc, Bool.false_and]
    obtain ⟨metadata, rom', ram, bank, ramBank, enabled, selector, latched, rtc, low, upper, mode,
      dirty⟩ := c
    obtain ⟨mapper, type, ramCode, count, ramSize, battery, hasRtc⟩ := metadata
    subst hrtc
    simp only [withoutUnusedLatch, Bool.false_and]
    by_cases hcontrol : address < 0x8000#16
    · have harea : ¬ 0x8000#16 ≤ address := by simpa using hcontrol
      simp only [write, if_neg hexternal, if_pos hcontrol, writeControl, if_neg harea,
        markDirtyIfPersistent_eq, supportsRtc, Bool.false_eq_true, false_and, if_false]
      cases mapper with
      | none => rfl
      | _ =>
        dsimp only
        split_ifs <;> rfl
    · simp only [write, if_neg hexternal, if_neg hcontrol]
      rfl

end GameBoyCartridge

variable {m : GameBoyMapper}

namespace GameBoyMapper

theorem exportState_accepted (h : m.Holds rom) :
    (initial.load rom).Accepts m.exportState ↔
      (0 < (parseCartridgeMetadata rom).externalRamSize ∨ m.externalRam = []) := by
  have hfresh := load_holds initial rom
  constructor
  · intro ha
    by_cases hsize : 0 < (parseCartridgeMetadata rom).externalRamSize
    · exact Or.inl hsize
    · have hnil : (initial.load rom).externalRam = [] := by
        simp [load, hsize, initial]
      exact Or.inr (ha.ram_empty hnil)
  · intro hram
    refine ⟨h.size_eq.trans hfresh.size_eq.symm, h.count_eq.trans hfresh.count_eq.symm, ?_,
      h.mode_le, ?_, ?_⟩
    · rw [hfresh.count_eq, ← h.count_eq]
      exact h.bank_lt
    · intro hne
      have hsize : 0 < (parseCartridgeMetadata rom).externalRamSize := by
        by_contra hsize
        exact hne (by simp [load, hsize, initial])
      exact (h.ram_length hsize).trans (hfresh.ram_length hsize).symm
    · intro hnil
      rcases hram with hsize | hram
      · have hlength := hfresh.ram_length hsize
        rw [hnil] at hlength
        exact absurd hlength.symm hsize.ne'
      · exact hram

theorem restored_exportState (h : m.Holds rom) (ha : (initial.load rom).Accepts m.exportState) :
    (initial.load rom).restored m.exportState =
      { m with romBankLow := nonzeroBank m.romBankLow } := by
  have hfresh := load_holds initial rom
  have hram : ((initial.load rom).restored m.exportState).externalRam = m.externalRam := by
    change (if m.externalRam.isEmpty then (initial.load rom).externalRam
      else m.externalRam) = m.externalRam
    split_ifs with hempty
    · have hnil := List.isEmpty_iff.mp hempty
      by_contra hne
      have hlength := ha.ram_length (fun hfr => hne (hfr.trans hnil.symm))
      simp only [exportState, hnil, List.length_nil] at hlength
      exact hne ((List.length_eq_zero_iff.mp hlength.symm).trans hnil.symm)
    · rfl
  have htype := hfresh.type_eq.trans h.type_eq.symm
  have hdata := hfresh.data_eq.trans h.data_eq.symm
  have hsize := hfresh.size_eq.trans h.size_eq.symm
  have hcount := hfresh.count_eq.trans h.count_eq.symm
  have hramSize := hfresh.ramSize_eq.trans h.ramSize_eq.symm
  calc (initial.load rom).restored m.exportState
      = { m with
          mapperType := (initial.load rom).mapperType
          romData := (initial.load rom).romData
          romSize := (initial.load rom).romSize
          romBankCount := (initial.load rom).romBankCount
          externalRamSize := (initial.load rom).externalRamSize
          externalRam := ((initial.load rom).restored m.exportState).externalRam
          romBankLow := nonzeroBank m.romBankLow } := rfl
    _ = { m with romBankLow := nonzeroBank m.romBankLow } := by
      rw [hram, htype, hdata, hsize, hcount, hramSize]

end GameBoyMapper

namespace Banking

structure Holds (rom : List Byte) (b : Banking) : Prop where
  mapper : b.mapper.Holds rom
  cartridge : b.cartridge.Holds rom

variable {rom : List Byte} {b : Banking}

theorem act_holds (h : b.Holds rom) (a : Action) : (b.act a).Holds rom := by
  cases a with
  | guestWrite w =>
    exact ⟨GameBoyMapper.write_holds h.mapper w, GameBoyCartridge.write_holds h.cartridge w⟩
  | loadState image =>
    simp only [act, loadState]
    cases hm : (b.mapper.load b.mapper.romData).importState image.mapper with
    | error message => exact h
    | ok mapper =>
      cases hc : b.cartridge.importState image.cartridge with
      | error message => exact h
      | ok cartridge =>
        obtain ⟨hma, rfl⟩ := GameBoyMapper.importState_eq_ok.mp hm
        obtain ⟨hca, rfl⟩ := GameBoyCartridge.importState_eq_ok.mp hc
        rw [h.mapper.data_eq] at hma ⊢
        exact ⟨GameBoyMapper.restored_holds (GameBoyMapper.load_holds _ rom) hma,
          GameBoyCartridge.restored_holds h.cartridge hca⟩

theorem Reached.holds (h : Reached rom b) : rom ≠ [] ∧ b.Holds rom := by
  obtain ⟨previous, loaded, save, actions, hload, rfl⟩ := h
  obtain ⟨hne, rfl⟩ := load_eq_ok hload
  refine ⟨hne, run_invariant (P := Holds rom) (fun _ a hb => act_holds hb a) ?_ actions⟩
  have hfresh := GameBoyCartridge.fresh_holds hne
  cases save with
  | none => exact ⟨GameBoyMapper.load_holds previous rom, hfresh⟩
  | some save =>
    exact ⟨GameBoyMapper.load_holds previous rom,
      GameBoyCartridge.importSaveData_holds hfresh save⟩

/-- Which exports are accepted, and what the restored pair holds. -/
theorem restore_exportState_eq_ok {b' : Banking} (hne : rom ≠ []) (h : b.Holds rom) :
    restore rom b.exportState = .ok b' ↔
      ((0 < (parseCartridgeMetadata rom).externalRamSize ∨ b.mapper.externalRam = []) ∧
        (b.cartridge.metadata.romBankCount = 1 → b.cartridge.currentRomBank = 0)) ∧
      b' = ⟨{ b.mapper with romBankLow := nonzeroBank b.mapper.romBankLow },
        b.cartridge.withoutUnusedLatch⟩ := by
  have hm := GameBoyMapper.exportState_accepted h.mapper
  have hc := GameBoyCartridge.exportState_accepted h.cartridge
  rw [← hm, ← hc]
  constructor
  · intro hrestore
    simp only [restore, load_eq .initial hne, exportState] at hrestore
    cases him : (GameBoyMapper.initial.load rom).importState b.mapper.exportState with
    | error message =>
      rw [him] at hrestore
      simp at hrestore
    | ok mapper =>
      cases hic : (GameBoyCartridge.fresh rom).importState b.cartridge.exportState with
      | error message => simp [him, hic] at hrestore
      | ok cartridge =>
        obtain ⟨hma, rfl⟩ := GameBoyMapper.importState_eq_ok.mp him
        obtain ⟨hca, rfl⟩ := GameBoyCartridge.importState_eq_ok.mp hic
        rw [him, hic] at hrestore
        refine ⟨⟨hma, hca⟩, ?_⟩
        rw [← Except.ok.inj hrestore, GameBoyMapper.restored_exportState h.mapper hma,
          GameBoyCartridge.restored_exportState h.cartridge]
  · rintro ⟨⟨hma, hca⟩, rfl⟩
    simp only [restore, load_eq .initial hne, exportState,
      GameBoyMapper.importState_eq_ok.mpr ⟨hma, rfl⟩,
      GameBoyCartridge.importState_eq_ok.mpr ⟨hca, rfl⟩,
      GameBoyMapper.restored_exportState h.mapper hma,
      GameBoyCartridge.restored_exportState h.cartridge]

/-- The same mapper, and the same cartridge up to the latch of an absent clock. -/
def Alike (b b' : Banking) : Prop :=
  b'.mapper = b.mapper ∧ b'.cartridge.withoutUnusedLatch = b.cartridge.withoutUnusedLatch

theorem write_alike (b b' : Banking) (w : GuestWrite) (h : Alike b b') :
    Alike (b.write w) (b'.write w) := by
  obtain ⟨hmapper, hcartridge⟩ := h
  constructor
  · simp only [write, hmapper]
  · simp only [write]
    rw [← GameBoyCartridge.write_withoutUnusedLatch b'.cartridge, hcartridge,
      GameBoyCartridge.write_withoutUnusedLatch]

theorem Alike.sameService {b' : Banking} (h : Alike b b') : SameService b b' := by
  obtain ⟨hmapper, hcartridge⟩ := h
  refine ⟨by rw [hmapper], by rw [hmapper], ?_, ?_, ?_, by rw [hmapper], ?_, ?_⟩
  · have h := congrArg GameBoyCartridge.switchableBankIndex hcartridge
    exact h
  · have h := congrArg GameBoyCartridge.fixedBankIndex hcartridge
    exact h
  · intro address
    have h := congrArg (GameBoyCartridge.read · address) hcartridge
    exact h
  · have h := congrArg GameBoyCartridge.externalRam hcartridge
    exact h
  · have h := congrArg GameBoyCartridge.rtcRegisters hcartridge
    exact h

theorem highWrite_bank (htype : m.mapperType = .mbc5) :
    (m.write 0x3000#16 0x00#8).1.currentRomBank =
      if m.romBankLow &&& 0x00FF &&& 0x01FF ≥ m.romBankCount then m.romBankCount - 1
      else m.romBankLow &&& 0x00FF &&& 0x01FF := by
  simp only [GameBoyMapper.write, htype]
  simp [GameBoyMapper.updateMbc5Banking, GameBoyMapper.currentRomBank]

theorem highWrite_distinguishes (h : m.Holds rom)
    (htype : m.mapperType = .mbc5) (hlow : m.romBankLow = 0) :
    (m.write 0x3000#16 0x00#8).1.currentRomBank ≠
      ({ m with romBankLow := nonzeroBank m.romBankLow }.write 0x3000#16
        0x00#8).1.currentRomBank := by
  have hcount : 2 ≤ m.romBankCount := by
    rw [h.count_eq]
    exact GameBoyMapper.two_le_fullBanks _
  have hzero : ¬ 0 ≥ m.romBankCount := by omega
  have hone : ¬ 1 ≥ m.romBankCount := by omega
  rw [highWrite_bank htype,
    highWrite_bank (m := { m with romBankLow := nonzeroBank m.romBankLow }) htype, hlow]
  have hlow0 : 0 &&& 0x00FF &&& 0x01FF = 0 := by decide
  have hlow1 : nonzeroBank 0 &&& 0x00FF &&& 0x01FF = 1 := by decide
  rw [hlow0, hlow1, if_neg hzero, if_neg hone]
  exact Nat.zero_ne_one

theorem Faithful.restorable (hf : Faithful rom b) (h : Reached rom b) : Restorable rom b := by
  obtain ⟨hne, hholds⟩ := h.holds
  obtain ⟨b', hrestore, hservice⟩ := hf
  obtain ⟨⟨hram, hbank⟩, rfl⟩ := (restore_exportState_eq_ok hne hholds).mp hrestore
  refine ⟨hram, hbank, ?_⟩
  intro htype hlow
  exact highWrite_distinguishes hholds.mapper htype hlow
    (hservice [⟨0x3000#16, 0x00#8⟩]).romBank.symm

theorem Restorable.faithful (hr : Restorable rom b) (h : Reached rom b) : Faithful rom b := by
  obtain ⟨hne, hholds⟩ := h.holds
  obtain ⟨hram, hbank, hlow⟩ := hr
  refine ⟨_, (restore_exportState_eq_ok hne hholds).mpr ⟨⟨hram, hbank⟩, rfl⟩, ?_⟩
  intro writes
  have hlow' : nonzeroBank b.mapper.romBankLow = b.mapper.romBankLow := by
    apply if_neg
    by_cases htype : b.mapper.mapperType = .mbc5
    · exact hlow htype
    · exact hholds.mapper.low_ne htype
  have hself : Alike b ⟨{ b.mapper with romBankLow := nonzeroBank b.mapper.romBankLow },
      b.cartridge.withoutUnusedLatch⟩ := by
    refine ⟨by rw [hlow'], ?_⟩
    simp only [GameBoyCartridge.withoutUnusedLatch]
    cases b.cartridge.metadata.hasRtc <;> simp
  exact (run_relation write_alike hself writes).sameService

/-- An export from any reached state is restored faithfully exactly when the mapper has no RAM
left from an earlier image that the header does not declare, the bank register of a one-bank image
is zero, and the nine-bit MBC5 register is not zero. -/
theorem faithful_iff_restorable (rom : List Byte) (b : Banking) (h : Reached rom b) :
    Faithful rom b ↔ Restorable rom b :=
  ⟨fun hf => hf.restorable h, fun hr => hr.faithful h⟩

theorem faithful_iff_restorable_mbc5 :
    Faithful (mbc5Image 0x8000)
        ⟨GameBoyMapper.initial.load (mbc5Image 0x8000),
          GameBoyCartridge.fresh (mbc5Image 0x8000)⟩ ↔
      Restorable (mbc5Image 0x8000)
        ⟨GameBoyMapper.initial.load (mbc5Image 0x8000),
          GameBoyCartridge.fresh (mbc5Image 0x8000)⟩ :=
  faithful_iff_restorable _ _
    ⟨.initial, _, none, [], load_eq .initial (mbc5Image_ne_nil (by decide)), rfl⟩

/-- After a zero is written to the low MBC5 register the restored mapper holds a one. -/
theorem mbc5_zeroBank_unfaithful :
    ¬ ∀ (rom : List Byte) (b : Banking), rom.length ≤ 0x100000 → Reached rom b →
      Faithful rom b := by
  intro h
  have hmapper := (mbc5Image_mapper (show 0x147 < 0x8000 by decide)).1
  have hload := load_eq .initial (mbc5Image_ne_nil (show 0 < 0x8000 by decide))
  have hreached : Reached (mbc5Image 0x8000) _ :=
    ⟨.initial, _, none, [.guestWrite ⟨0x2000#16, 0x00#8⟩], hload, rfl⟩
  have hf := h _ _ (by rw [mbc5Image_length]; decide) hreached
  have htracks := write_mapperTracks ⟨0x2000#16, 0x00#8⟩ (load_mapperTracks hload)
  have hlow := htracks.shows.low
  rw [hmapper] at hlow
  exact (hf.restorable hreached).low (htracks.type_eq.trans hmapper) (hlow.trans (by decide))

end Banking

end ProtoTime.GameBoy
