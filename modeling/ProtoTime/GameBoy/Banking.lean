import ProtoTime.Transition
import ProtoTime.GameBoy.Mapper

/-!
The mapper and the cartridge side by side, as the machine keeps them: one image
is loaded into both and both see every guest write to the cartridge area.
-/
namespace ProtoTime.GameBoy

open Transition

structure Banking where
  mapper : GameBoyMapper
  cartridge : GameBoyCartridge

structure GuestWrite where
  address : Addr
  value : Byte

namespace Banking

/-- Loading an image over a mapper that may have served an earlier one. -/
def load (previous : GameBoyMapper) (rom : List Byte) : Except String Banking :=
  match GameBoyCartridge.load rom with
  | .ok cartridge => .ok ⟨previous.load rom, cartridge⟩
  | .error message => .error message

def write (b : Banking) (w : GuestWrite) : Banking :=
  ⟨(b.mapper.write w.address w.value).1, (b.cartridge.write w.address w.value).1⟩

end Banking

/-- The MBC1 rule for a seven-bit request over `count` banks. -/
def mbc1Bank (count request : ℕ) : ℕ :=
  let bank := (request &&& 0x7F) % count
  let bank := if bank &&& 0x1F = 0 then (bank + 1) % count else bank
  if bank = 0 then 1 % count else bank

def mapperBank (type : CartridgeMapper) (count request : ℕ) : ℕ :=
  match type with
  | .none => 1
  | .mbc1 => mbc1Bank count request
  | .mbc2 => request % count
  | .mbc3 | .mbc5 => if request ≥ count then count - 1 else request

def cartridgeBank (type : CartridgeMapper) (count request : ℕ) : ℕ :=
  match type with
  | .none => 1
  | .mbc1 => mbc1Bank count request
  | .mbc3 => if request % count = 0 then 1 % count else request % count
  | .mbc2 | .mbc5 => request % count

/-- A bank controller as its registers alone: what guest writes request, apart from how a
request is fitted to an image. -/
structure BankRegisters where
  ramEnabled : Bool
  low : ℕ
  upper : ℕ
  mode : Bool
  deriving DecidableEq

/-- Bank number zero is not selectable through a masked register. -/
def nonzeroBank (bank : ℕ) : ℕ := if bank = 0 then 1 else bank

theorem ite_eq_nonzeroBank (bank : ℕ) : (if bank = 0 then 1 else bank) = nonzeroBank bank := rfl

theorem nonzeroBank_toNat (value : Byte) :
    nonzeroBank value.toNat = (if value = 0 then 1#8 else value).toNat := by
  unfold nonzeroBank
  by_cases h : value = 0
  · simp [h]
  · have hne : value.toNat ≠ 0 := fun h0 => h (BitVec.eq_of_toNat_eq h0)
    rw [if_neg h, if_neg hne]

namespace BankRegisters

def reset : BankRegisters := ⟨false, 1, 0, false⟩

def setRamEnabled (r : BankRegisters) (value : Byte) : BankRegisters :=
  { r with ramEnabled := value &&& 0x0F#8 == 0x0A#8 }

/-- The register a write to the control area selects, by controller. -/
def decode (r : BankRegisters) (type : CartridgeMapper) (w : GuestWrite) : BankRegisters :=
  match type with
  | .none => r
  | .mbc1 =>
    if w.address < 0x2000#16 then r.setRamEnabled w.value
    else if w.address < 0x4000#16 then { r with low := nonzeroBank (w.value &&& 0x1F#8).toNat }
    else if w.address < 0x6000#16 then { r with upper := (w.value &&& 0x03#8).toNat }
    else { r with mode := w.value &&& 0x01#8 != 0 }
  | .mbc2 =>
    if w.address < 0x4000#16 then
      if w.address &&& 0x0100#16 = 0 then r.setRamEnabled w.value
      else { r with low := nonzeroBank (w.value &&& 0x0F#8).toNat }
    else r
  | .mbc3 =>
    if w.address < 0x2000#16 then r.setRamEnabled w.value
    else if w.address < 0x4000#16 then { r with low := nonzeroBank (w.value &&& 0x7F#8).toNat }
    else r
  | .mbc5 =>
    if w.address < 0x2000#16 then r.setRamEnabled w.value
    else if w.address < 0x3000#16 then { r with low := (r.low &&& 0x100) ||| w.value.toNat }
    else if w.address < 0x4000#16 then
      { r with low := ((w.value &&& 0x01#8).toNat <<< 8) ||| (r.low &&& 0xFF) }
    else r

def write (type : CartridgeMapper) (r : BankRegisters) (w : GuestWrite) : BankRegisters :=
  if 0x8000#16 ≤ w.address then r else r.decode type w

/-- The bank number the registers ask for in the switchable window. -/
def request (type : CartridgeMapper) (r : BankRegisters) : ℕ :=
  match type with
  | .mbc1 => (r.upper <<< 5) ||| r.low
  | _ => r.low

/-- The bank of the fixed window, the same rule on both sides. -/
def fixedBank (type : CartridgeMapper) (count : ℕ) (r : BankRegisters) : ℕ :=
  if type = .mbc1 ∧ r.mode = true then (r.upper <<< 5) % count else 0

/-- The values the masks of each controller leave. -/
def InRange (type : CartridgeMapper) (r : BankRegisters) : Prop :=
  match type with
  | .none => r.low = 1
  | .mbc1 => 1 ≤ r.low ∧ r.low < 0x20 ∧ r.upper < 4
  | .mbc2 => 1 ≤ r.low ∧ r.low ≤ 0x0F
  | .mbc3 => 1 ≤ r.low ∧ r.low ≤ 0x7F
  | .mbc5 => r.low ≤ 0x1FF

theorem reset_inRange (type : CartridgeMapper) : reset.InRange type := by
  cases type <;> simp [InRange, reset]

theorem nonzeroBank_pos (bank : ℕ) : 1 ≤ nonzeroBank bank := by
  unfold nonzeroBank
  split_ifs <;> omega

theorem nonzeroBank_mask_le (value mask : Byte) (h : 1 ≤ mask.toNat) :
    nonzeroBank (value &&& mask).toNat ≤ mask.toNat := by
  have hle : (value &&& mask).toNat ≤ mask.toNat := by
    exact Nat.and_le_right
  unfold nonzeroBank
  split_ifs <;> omega

theorem low_or_high_le (low : ℕ) (value : Byte) :
    (low &&& 0x100) ||| value.toNat ≤ 0x1FF ∧
      ((value &&& 0x01#8).toNat <<< 8) ||| (low &&& 0xFF) ≤ 0x1FF := by
  have hvalue : value.toNat < 2 ^ 9 := by have := value.isLt; omega
  have hhigh : (value &&& 0x01#8).toNat <<< 8 < 2 ^ 9 := by
    have h : (value &&& 0x01#8).toNat ≤ 1 := by
      exact Nat.and_le_right
    omega
  have hlow : low &&& 0x100 < 2 ^ 9 :=
    lt_of_le_of_lt (Nat.and_le_right (n := low) (m := 0x100)) (by norm_num)
  have hlow' : low &&& 0xFF < 2 ^ 9 :=
    lt_of_le_of_lt (Nat.and_le_right (n := low) (m := 0xFF)) (by norm_num)
  have h1 := Nat.or_lt_two_pow hlow hvalue
  have h2 := Nat.or_lt_two_pow hhigh hlow'
  constructor <;> omega

theorem write_inRange {type : CartridgeMapper} {r : BankRegisters} (h : r.InRange type)
    (w : GuestWrite) : (write type r w).InRange type := by
  have hpos := nonzeroBank_pos
  by_cases harea : 0x8000#16 ≤ w.address
  · rw [write, if_pos harea]
    exact h
  rw [write, if_neg harea]
  unfold decode
  cases type with
  | none => exact h
  | mbc1 =>
    have hupper : (w.value &&& 0x03#8).toNat < 4 := by
      have hle : (w.value &&& 0x03#8).toNat ≤ 3 := by
        exact Nat.and_le_right
      omega
    have hlow := nonzeroBank_mask_le w.value 0x1F#8 (by decide)
    dsimp only
    split_ifs
    · exact h
    · exact ⟨hpos _, by simpa using Nat.lt_succ_of_le hlow, h.2.2⟩
    · exact ⟨h.1, h.2.1, hupper⟩
    · exact h
  | mbc2 =>
    dsimp only
    split_ifs
    · exact h
    · exact ⟨hpos _, nonzeroBank_mask_le w.value 0x0F#8 (by decide)⟩
    · exact h
  | mbc3 =>
    dsimp only
    split_ifs
    · exact h
    · exact ⟨hpos _, nonzeroBank_mask_le w.value 0x7F#8 (by decide)⟩
    · exact h
  | mbc5 =>
    have hle := low_or_high_le r.low w.value
    dsimp only
    split_ifs
    · exact h
    · exact hle.1
    · exact hle.2
    · exact h

end BankRegisters

namespace GameBoyCartridge

theorem forcedMetadata_romBankCount (bytes : List Byte) :
    (forcedMetadata bytes).romBankCount = (bytes.length + 0x3FFF) / 0x4000 := by
  unfold forcedMetadata
  dsimp only
  split_ifs <;> rfl

/-- The cartridge a non-empty image is loaded into. -/
def fresh (bytes : List Byte) : GameBoyCartridge :=
  { metadata := forcedMetadata bytes
    rom := bytes
    externalRam := List.replicate (forcedMetadata bytes).externalRamSize 0x00#8
    currentRomBank := if (forcedMetadata bytes).romBankCount > 1 then 1 else 0
    currentRamBank := 0
    ramEnabled := false
    selectedRtcRegister := 0xFF#8
    rtcLatched := false
    rtcRegisters := Vector.replicate 5 0x00#8
    mbc1LowBankBits := 1#8
    mbc1UpperBankBits := 0#8
    mbc1BankingModeSelect := false
    saveDirty := false }

theorem load_eq (bytes : List Byte) (h : bytes ≠ []) : load bytes = .ok (fresh bytes) := by
  have hlength : 0 < bytes.length := List.length_pos_iff.mpr h
  have hcount : (forcedMetadata bytes).romBankCount ≠ 0 := by
    rw [forcedMetadata_romBankCount]
    omega
  simp [load, h, hcount, fresh]

variable {c : GameBoyCartridge}

theorem load_eq_ok {bytes : List Byte} (h : load bytes = .ok c) : bytes ≠ [] ∧ c = fresh bytes := by
  have hne : bytes ≠ [] := by
    rintro rfl
    simp [load] at h
  rw [load_eq bytes hne] at h
  exact ⟨hne, (Except.ok.inj h).symm⟩

/-- The bank number held in the banking registers. -/
def bankRequest (c : GameBoyCartridge) : ℕ :=
  match c.metadata.mapper with
  | .mbc1 => (c.mbc1UpperBankBits.toNat <<< 5) ||| (c.mbc1LowBankBits &&& 0x1F#8).toNat
  | _ => c.currentRomBank

theorem switchableBankIndex_eq (c : GameBoyCartridge) (h : 1 < c.metadata.romBankCount) :
    c.switchableBankIndex =
      cartridgeBank c.metadata.mapper c.metadata.romBankCount c.bankRequest := by
  have h' : ¬ c.metadata.romBankCount ≤ 1 := by omega
  unfold switchableBankIndex bankRequest
  rw [if_neg h']
  cases hm : c.metadata.mapper with
  | none => exact if_pos h
  | _ => rfl

theorem markDirtyIfPersistent_eq (c : GameBoyCartridge) :
    c.markDirtyIfPersistent = { c with saveDirty := c.supportsBatterySave || c.saveDirty } := by
  unfold markDirtyIfPersistent
  cases c.supportsBatterySave <;> rfl

/-- A write to the external area only reaches RAM, the RTC registers and the dirty flag. -/
theorem writeExternalArea_frame (c : GameBoyCartridge) (address : Addr) (value : Byte) :
    ∃ ram rtc dirty, (c.writeExternalArea address value).1 =
      { c with externalRam := ram, rtcRegisters := rtc, saveDirty := dirty } ∧
      ram.length = c.externalRam.length ∧ (c.supportsRtc = false → rtc = c.rtcRegisters) := by
  have hself : ∃ ram rtc dirty, c =
      { c with externalRam := ram, rtcRegisters := rtc, saveDirty := dirty } ∧
      ram.length = c.externalRam.length ∧ (c.supportsRtc = false → rtc = c.rtcRegisters) :=
    ⟨c.externalRam, c.rtcRegisters, c.saveDirty, rfl, rfl, fun _ => rfl⟩
  unfold writeExternalArea
  simp only [markDirtyIfPersistent_eq]
  by_cases hrtc : c.rtcRegisterSelected = true
  · have hsupports : c.supportsRtc = true := by
      simp only [rtcRegisterSelected, Bool.and_eq_true] at hrtc
      exact hrtc.1.1
    simp only [hrtc, if_true]
    split_ifs <;> first
      | exact hself
      | exact ⟨_, _, _, rfl, rfl, fun h => absurd hsupports (by simp [h])⟩
  · split_ifs <;> first
      | exact hself
      | exact ⟨_, _, _, rfl, List.length_set, fun _ => rfl⟩

theorem write_frame (c : GameBoyCartridge) (address : Addr) (value : Byte) :
    (c.write address value).1.metadata = c.metadata ∧ (c.write address value).1.rom = c.rom ∧
      (c.write address value).1.externalRam.length = c.externalRam.length := by
  unfold write
  split_ifs with hexternal hcontrol
  · obtain ⟨ram, rtc, dirty, hframe, hlength, -⟩ := c.writeExternalArea_frame address value
    simp only [hframe]
    exact ⟨trivial, trivial, hlength⟩
  · have harea : ¬ 0x8000#16 ≤ address := by simpa using hcontrol
    simp only [writeControl, if_neg harea, markDirtyIfPersistent_eq]
    cases hm : c.metadata.mapper with
    | none => exact ⟨rfl, rfl, rfl⟩
    | _ =>
      dsimp only
      split_ifs <;> exact ⟨rfl, rfl, rfl⟩
  · exact ⟨rfl, rfl, rfl⟩

/-- The cartridge holds the controller registers; its ROM register is reset differently when the
image has a single bank. -/
structure Shows (c : GameBoyCartridge) (r : BankRegisters) : Prop where
  ramEnabled : c.ramEnabled = r.ramEnabled
  upper : c.mbc1UpperBankBits.toNat = r.upper
  mode : c.mbc1BankingModeSelect = r.mode
  low : c.metadata.mapper = .mbc1 → c.mbc1LowBankBits.toNat = r.low
  bank : c.metadata.mapper ≠ .mbc1 → c.currentRomBank = r.low

variable {r : BankRegisters}

theorem Shows.bankRequest (h : c.Shows r)
    (hr : r.InRange c.metadata.mapper) : c.bankRequest = r.request c.metadata.mapper := by
  unfold GameBoyCartridge.bankRequest BankRegisters.request
  cases hm : c.metadata.mapper with
  | mbc1 =>
    rw [hm] at hr
    have hlow := h.low hm
    have hmask : (c.mbc1LowBankBits &&& 0x1F#8).toNat = r.low := by
      rw [BitVec.toNat_and, hlow]
      exact (Nat.and_two_pow_sub_one_eq_mod r.low 5).trans (Nat.mod_eq_of_lt hr.2.1)
    simp only [h.upper, hmask]
  | _ => exact h.bank (by rw [hm]; decide)

theorem Shows.fixedBankIndex (h : c.Shows r) :
    c.fixedBankIndex = BankRegisters.fixedBank c.metadata.mapper c.metadata.romBankCount r := by
  unfold GameBoyCartridge.fixedBankIndex BankRegisters.fixedBank
  rw [h.mode, h.upper]

theorem write_shows (h : c.Shows r) (w : GuestWrite) :
    (c.write w.address w.value).1.Shows (BankRegisters.write c.metadata.mapper r w) := by
  obtain ⟨hram, hupper, hmode, hlow, hbank⟩ := h
  by_cases harea : 0x8000#16 ≤ w.address
  · rw [BankRegisters.write, if_pos harea, GameBoyCartridge.write]
    split_ifs with hexternal hcontrol
    · obtain ⟨ram, rtc, dirty, hframe, -, -⟩ := c.writeExternalArea_frame w.address w.value
      simp only [hframe]
      exact ⟨hram, hupper, hmode, hlow, hbank⟩
    · exact absurd harea (by simpa using hcontrol)
    · exact ⟨hram, hupper, hmode, hlow, hbank⟩
  have hcontrol : w.address < 0x8000#16 := by simpa using harea
  have hexternal : ¬ (0xA000#16 ≤ w.address ∧ w.address < 0xC000#16) := by
    intro hx
    bv_omega
  rw [BankRegisters.write, if_neg harea, GameBoyCartridge.write, if_neg hexternal,
    if_pos hcontrol, writeControl, if_neg harea]
  unfold BankRegisters.decode
  cases hm : c.metadata.mapper with
  | none => exact ⟨hram, hupper, hmode, hlow, hbank⟩
  | mbc1 =>
    by_cases h1 : w.address < 0x2000#16
    · simp only [if_pos h1]
      exact ⟨rfl, hupper, hmode, hlow, hbank⟩
    by_cases h2 : w.address < 0x4000#16
    · simp only [if_neg h1, if_pos h2]
      exact ⟨hram, hupper, hmode, fun _ => (nonzeroBank_toNat _).symm, fun hne => absurd hm hne⟩
    simp only [if_neg h1, if_neg h2]
    split_ifs
    · exact ⟨hram, rfl, hmode, hlow, hbank⟩
    · exact ⟨hram, hupper, rfl, hlow, hbank⟩
  | mbc2 =>
    simp only [ite_eq_nonzeroBank]
    split_ifs
    · exact ⟨rfl, hupper, hmode, hlow, hbank⟩
    · exact ⟨hram, hupper, hmode, fun heq => absurd (hm.symm.trans heq) (by decide), fun _ => rfl⟩
    · exact ⟨hram, hupper, hmode, hlow, hbank⟩
  | mbc3 =>
    simp only [ite_eq_nonzeroBank, markDirtyIfPersistent_eq]
    split_ifs <;> first
      | exact ⟨rfl, hupper, hmode, hlow, hbank⟩
      | exact ⟨hram, hupper, hmode, hlow, hbank⟩
      | exact ⟨hram, hupper, hmode, fun heq => absurd (hm.symm.trans heq) (by decide), fun _ => rfl⟩
  | mbc5 =>
    have hbank' := hbank (by rw [hm]; decide)
    dsimp only
    split_ifs
    · exact ⟨rfl, hupper, hmode, hlow, hbank⟩
    · refine ⟨hram, hupper, hmode, fun heq => absurd (hm.symm.trans heq) (by decide), fun _ => ?_⟩
      rw [hbank']
    · refine ⟨hram, hupper, hmode, fun heq => absurd (hm.symm.trans heq) (by decide), fun _ => ?_⟩
      rw [hbank']
    · exact ⟨hram, hupper, hmode, hlow, hbank⟩
    · exact ⟨hram, hupper, hmode, hlow, hbank⟩

end GameBoyCartridge

namespace GameBoyMapper

theorem write_frame (m : GameBoyMapper) (address : Addr) (value : Byte) :
    ∃ low effective select mode enabled, (m.write address value).1 =
      { m with
        romBankLow := low, effectiveRomBank := effective, ramBankSelect := select,
        ramBankMode := mode, ramEnabled := enabled } := by
  obtain ⟨type, romData, romSize, count, ramSize, ram, low, effective, select, mode, enabled,
    dirty, battery⟩ := m
  unfold write
  cases type <;> dsimp only <;> split_ifs <;> exact ⟨_, _, _, _, _, rfl⟩

/-- The mapper holds the controller registers and serves the bank their request resolves to. -/
structure Shows (m : GameBoyMapper) (r : BankRegisters) : Prop where
  ramEnabled : m.ramEnabled = r.ramEnabled
  low : m.romBankLow = r.low
  upper : m.mapperType = .mbc1 → (m.ramBankSelect &&& 0x03#8).toNat = r.upper
  mode : (m.ramBankMode != 0) = r.mode
  bank : m.effectiveRomBank = mapperBank m.mapperType m.romBankCount (r.request m.mapperType)

variable {m : GameBoyMapper} {r : BankRegisters}

theorem Shows.currentFixedRomBank (h : m.Shows r) (hcount : m.romBankCount ≠ 0) :
    m.currentFixedRomBank = BankRegisters.fixedBank m.mapperType m.romBankCount r := by
  unfold GameBoyMapper.currentFixedRomBank BankRegisters.fixedBank
  rw [← h.mode]
  by_cases htype : m.mapperType = .mbc1
  · by_cases hmode : m.ramBankMode = 0
    · simp [hmode]
    · simp [htype, hcount, ← h.upper htype]
  · simp [htype]

theorem updateMbc1Banking_bank (hr : r.InRange .mbc1) (hlow : m.romBankLow = r.low)
    (hupper : (m.ramBankSelect &&& 0x03#8).toNat = r.upper) :
    m.updateMbc1Banking.effectiveRomBank = mbc1Bank m.romBankCount (r.request .mbc1) := by
  have hmask : r.low &&& 0x1F = r.low :=
    (Nat.and_two_pow_sub_one_eq_mod r.low 5).trans (Nat.mod_eq_of_lt hr.2.1)
  simp only [updateMbc1Banking, hlow, hupper, hmask]
  rfl

theorem updateMbc5Banking_bank (hr : r.InRange .mbc5) (hlow : m.romBankLow = r.low) :
    m.updateMbc5Banking.effectiveRomBank =
      mapperBank .mbc5 m.romBankCount (r.request .mbc5) := by
  have hmask : r.low &&& 0x01FF = r.low :=
    (Nat.and_two_pow_sub_one_eq_mod r.low 9).trans
      (Nat.mod_eq_of_lt (Nat.lt_succ_of_le hr))
  simp only [updateMbc5Banking, hlow, hmask]
  rfl

theorem write_of_external (m : GameBoyMapper) {address : Addr} (h : 0x8000#16 ≤ address)
    (value : Byte) : (m.write address value).1 = m := by
  have h2 : ¬ address < 0x2000#16 := by bv_omega
  have h3 : ¬ address < 0x3000#16 := by bv_omega
  have h4 : ¬ address < 0x4000#16 := by bv_omega
  have h6 : ¬ address < 0x6000#16 := by bv_omega
  have h8 : ¬ address < 0x8000#16 := by bv_omega
  unfold write
  cases m.mapperType with
  | none =>
    split_ifs <;> rfl
  | _ => simp only [if_neg h2, if_neg h3, if_neg h4, if_neg h6, if_neg h8]

theorem write_shows (h : m.Shows r) (hr : r.InRange m.mapperType) (w : GuestWrite) :
    (m.write w.address w.value).1.Shows (BankRegisters.write m.mapperType r w) := by
  by_cases harea : 0x8000#16 ≤ w.address
  · rw [BankRegisters.write, if_pos harea, m.write_of_external harea]
    exact h
  have hcontrol : w.address < 0x8000#16 := by simpa using harea
  have hr' := BankRegisters.write_inRange hr w
  rw [BankRegisters.write, if_neg harea] at hr' ⊢
  obtain ⟨type, romData, romSize, count, ramSize, ram, low, effective, select, mode, enabled,
    dirty, battery⟩ := m
  obtain ⟨hram, hlow, hupper, hmode, hbank⟩ := h
  unfold BankRegisters.decode at hr' ⊢
  cases type with
  | none =>
    unfold write
    dsimp only
    split_ifs <;> exact ⟨hram, hlow, hupper, hmode, hbank⟩
  | mbc1 =>
    have hupper' := hupper rfl
    simp only [write, ite_eq_nonzeroBank, if_pos hcontrol] at hr' ⊢
    split_ifs at hr' ⊢ with h2 h4 h6
    · exact ⟨rfl, hlow, hupper, hmode, hbank⟩
    · exact ⟨hram, rfl, hupper, hmode, updateMbc1Banking_bank hr' rfl hupper'⟩
    · have hmask : (w.value &&& 0x03#8 &&& 0x03#8).toNat = (w.value &&& 0x03#8).toNat := by
        rw [and_mask_twice]
      exact ⟨hram, hlow, fun _ => hmask, hmode, updateMbc1Banking_bank hr' hlow hmask⟩
    · exact ⟨hram, hlow, hupper, rfl, updateMbc1Banking_bank hr' hlow hupper'⟩
  | mbc2 =>
    simp only [write, ite_eq_nonzeroBank, ne_eq, ite_not]
    split_ifs
    · exact ⟨rfl, hlow, hupper, hmode, hbank⟩
    · exact ⟨hram, rfl, hupper, hmode, rfl⟩
    · exact ⟨hram, hlow, hupper, hmode, hbank⟩
  | mbc3 =>
    have hselect {v : Byte} :
        CartridgeMapper.mbc3 = .mbc1 → (v &&& 0x03#8).toNat = r.upper := nofun
    simp only [write, ite_eq_nonzeroBank, if_pos hcontrol]
    by_cases h2 : w.address < 0x2000#16
    · simp only [if_pos h2]
      exact ⟨rfl, hlow, hupper, hmode, hbank⟩
    by_cases h4 : w.address < 0x4000#16
    · simp only [if_neg h2, if_pos h4]
      exact ⟨hram, rfl, hupper, hmode, rfl⟩
    simp only [if_neg h2, if_neg h4]
    split_ifs
    · exact ⟨hram, hlow, hselect, hmode, hbank⟩
    · exact ⟨hram, hlow, hupper, hmode, hbank⟩
  | mbc5 =>
    have hselect {v : Byte} :
        CartridgeMapper.mbc5 = .mbc1 → (v &&& 0x03#8).toNat = r.upper := nofun
    simp only [write, if_pos hcontrol] at hr' ⊢
    split_ifs at hr' ⊢ with h2 h3 h4 h6
    · exact ⟨rfl, hlow, hupper, hmode, hbank⟩
    · have hnew : (low &&& 0x0100) ||| w.value.toNat = (r.low &&& 0x100) ||| w.value.toNat := by
        rw [← hlow]
      exact ⟨hram, hnew, hupper, hmode, updateMbc5Banking_bank hr' hnew⟩
    · have hnew : (low &&& 0x00FF) ||| ((w.value &&& 0x01#8).toNat <<< 8) =
          ((w.value &&& 0x01#8).toNat <<< 8) ||| (r.low &&& 0xFF) := by
        rw [← hlow, Nat.or_comm]
      exact ⟨hram, hnew, hupper, hmode, updateMbc5Banking_bank hr' hnew⟩
    · exact ⟨hram, hlow, hselect, hmode, hbank⟩
    · exact ⟨hram, hlow, hupper, hmode, hbank⟩

end GameBoyMapper

theorem Banking.load_eq_ok {previous : GameBoyMapper} {rom : List Byte} {b : Banking}
    (h : load previous rom = .ok b) :
    rom ≠ [] ∧ b = ⟨previous.load rom, GameBoyCartridge.fresh rom⟩ := by
  unfold load at h
  cases hc : GameBoyCartridge.load rom with
  | error message => simp [hc] at h
  | ok cartridge =>
    obtain ⟨hne, rfl⟩ := GameBoyCartridge.load_eq_ok hc
    rw [hc] at h
    exact ⟨hne, (Except.ok.inj h).symm⟩

theorem Banking.load_eq (previous : GameBoyMapper) {rom : List Byte} (h : rom ≠ []) :
    load previous rom = .ok ⟨previous.load rom, GameBoyCartridge.fresh rom⟩ := by
  rw [load, GameBoyCartridge.load_eq rom h]

end ProtoTime.GameBoy
