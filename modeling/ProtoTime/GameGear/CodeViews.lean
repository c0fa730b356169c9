import ProtoTime.GameBoy.CodeViews
import ProtoTime.GameGear.Devices

/-!
Peeks and contiguous views of the code of the Game Gear. Neither reaches a device, and both
show the bytes that the processor reads.
-/
namespace ProtoTime.GameGear
open GameBoy (Byte Addr)
open GameBoy.GameBoyMemoryMap (getElem?_drop_take)

namespace GameGearDevices

variable {C : Type} {d : GameGearDevices C} {addr : Addr} {size i : ℕ}

def peekCodeByte (d : GameGearDevices C) (addr : Addr) : Option Byte :=
  if addr = 0x00DC#16 ∨ addr = 0x00DD#16 ∨ addr ≥ 0xFE00#16 then none
  else if d.mem.biosMapped addr then
    some (d.mem.bios.getD (addr.toNat % d.mem.bios.length) 0xFF)
  else if addr < 0xC000#16 then
    if d.cart.loaded then some (d.cart.read addr) else none
  else if addr < 0xE000#16 then some (d.mem.ramAt (addr.toNat - 0xC000))
  else some (d.mem.ramAt (addr.toNat - 0xE000))

/-- The bytes of a part of the ROM bank at the address. The derived mappers are left to peeks. -/
def romCodeView (d : GameGearDevices C) (addr : Addr) (size : ℕ) : List Byte :=
  if d.cart.kind ≠ .cartridge ∨ ¬ d.cart.loaded then []
  else
    match d.cart.romBankForAddress addr with
    | none => []
    | some bank =>
      let start := addr.toNat
      let offset :=
        if start < 0x400 then start % d.cart.rom.length else bank * 0x4000 + start % 0x4000
      let boundary := if start < 0x400 then 0x400 else (start / 0x4000 + 1) * 0x4000
      if start + size > boundary ∨ offset > d.cart.rom.length ∨
          size > d.cart.rom.length - offset then []
      else (d.cart.rom.drop offset).take size

/-- The bytes of a part of the RAM or of its mirror. -/
def ramCodeView (d : GameGearDevices C) (addr : Addr) (size : ℕ) : List Byte :=
  let base := if addr.toNat < 0xE000 then 0xC000 else 0xE000
  if addr.toNat + size > if base = 0xC000 then 0xE000 else 0xFE00 then []
  else (List.range size).map fun k => d.mem.ramAt (addr.toNat - base + k)

def checkedCodeView (d : GameGearDevices C) (addr : Addr) (size : ℕ) : List Byte :=
  let start := addr.toNat
  let limit := start + size
  if size = 0 ∨ size > 0x10000 - start then []
  else if limit > 0xFE00 ∨ (start ≤ 0xDD ∧ limit > 0xDC) then []
  else if d.mem.biosMapped addr then
    let offset := start % d.mem.bios.length
    if limit > 0x400 ∨ size > d.mem.bios.length - offset then []
    else (d.mem.bios.drop offset).take size
  else if start < 0xC000 then d.romCodeView addr size
  else d.ramCodeView addr size

theorem peekCodeByte_readCanonical {value : Byte} (h : d.peekCodeByte addr = some value) :
    value = d.readCanonical addr := by
  unfold peekCodeByte at h
  unfold readCanonical
  split_ifs at h with hdevice hbios hlow hloaded hram
  · rw [if_pos hbios]
    exact (Option.some.inj h).symm
  · rw [if_neg hbios, if_neg (by tauto), if_pos ⟨hlow, hloaded⟩]
    exact (Option.some.inj h).symm
  · rw [if_neg hbios, if_neg (by tauto), if_neg (fun hc => hlow hc.1), if_neg (by bv_omega),
      readHigh, if_neg (by bv_omega), if_neg (by bv_omega), if_neg (by bv_omega),
      if_neg (by bv_omega), if_neg (by bv_omega), if_pos ⟨by bv_omega, hram⟩]
    exact (Option.some.inj h).symm
  · rw [if_neg hbios, if_neg (by tauto), if_neg (fun hc => hlow hc.1), if_neg (by bv_omega),
      readHigh, if_neg (by bv_omega), if_neg (by bv_omega), if_neg (by bv_omega),
      if_neg (by bv_omega), if_neg (by bv_omega), if_neg (fun hc => hram hc.2),
      if_pos (by bv_omega)]
    exact (Option.some.inj h).symm

theorem toNat_add_offset (h : addr.toNat + i < 0x10000) :
    (addr + BitVec.ofNat 16 i).toNat = addr.toNat + i := by
  rw [BitVec.toNat_add, BitVec.toNat_ofNat]
  omega

theorem biosMapped_add (hlimit : addr.toNat + i < 0x10000)
    (hlow : d.mem.biosMapped addr = true → addr.toNat + i < 0x400) :
    d.mem.biosMapped (addr + BitVec.ofNat 16 i) = d.mem.biosMapped addr := by
  unfold GameGearMemoryMap.biosMapped at *
  cases hon : !d.mem.bios.isEmpty && (d.mem.memoryControl &&&
      GameGearMemoryMap.kMemoryControlBiosDisabled == 0) with
  | false => simp only [Bool.and_assoc, hon, Bool.and_false]
  | true =>
    simp only [Bool.and_assoc, hon, Bool.and_true, decide_eq_true_eq, decide_eq_decide] at hlow ⊢
    bv_omega

theorem peekCodeByte_low (hlow : addr.toNat < 0xC000)
    (hhole : addr.toNat < 0xDC ∨ 0xDD < addr.toNat) :
    d.peekCodeByte addr = if d.mem.biosMapped addr then
      some (d.mem.bios.getD (addr.toNat % d.mem.bios.length) 0xFF)
    else if d.cart.loaded then some (d.cart.read addr) else none := by
  rw [peekCodeByte, if_neg (by bv_omega)]
  split
  · rfl
  · rw [if_pos (by bv_omega)]

theorem peekCodeByte_ram (hlow : 0xC000 ≤ addr.toNat) (hhigh : addr.toNat < 0xFE00) :
    d.peekCodeByte addr =
      some (d.mem.ramAt (addr.toNat - if addr.toNat < 0xE000 then 0xC000 else 0xE000)) := by
  have hbios : ¬ d.mem.biosMapped addr = true := by
    simp only [GameGearMemoryMap.biosMapped, Bool.and_eq_true, decide_eq_true_eq]
    bv_omega
  rw [peekCodeByte, if_neg (by bv_omega), if_neg hbios, if_neg (by bv_omega)]
  by_cases hram : addr.toNat < 0xE000
  · rw [if_pos (by bv_omega), if_pos hram]
  · rw [if_neg (by bv_omega), if_neg hram]

theorem add_mod_of_lt {start length : ℕ} (h : start % length + i < length) :
    (start + i) % length = start % length + i := by
  rw [← Nat.mod_add_mod, Nat.mod_eq_of_lt h]

theorem of_romBankForAddress {m : GameGearMapper} {bank : ℕ}
    (h : m.romBankForAddress addr = some bank) :
    m.loaded = true ∧ addr.toNat < 0xC000 ∧ (0x8000 ≤ addr.toNat → m.sramEnabled = false) ∧
      (0x400 ≤ addr.toNat → bank = m.pageBank (addr.toNat / 0x4000)) := by
  unfold GameGearMapper.romBankForAddress at h
  split_ifs at h with hextra hhidden hlow
  · simp only [Bool.or_eq_true, Bool.and_eq_true, Bool.not_eq_true', decide_eq_true_eq,
      not_or, not_and, Bool.not_eq_true, Bool.not_eq_false] at hhidden
    exact ⟨hhidden.1.1, by bv_omega, fun hhigh => hhidden.2 (by bv_omega), by bv_omega⟩
  · simp only [Bool.or_eq_true, Bool.and_eq_true, Bool.not_eq_true', decide_eq_true_eq,
      not_or, not_and, Bool.not_eq_true, Bool.not_eq_false] at hhidden
    exact ⟨hhidden.1.1, by bv_omega, fun hhigh => hhidden.2 (by bv_omega),
      fun _ => (Option.some.inj h).symm⟩

/-- Within the bank at the address the cartridge serves consecutive bytes of the ROM. -/
theorem read_of_bank {m : GameGearMapper} {bank offset : ℕ}
    (hbank : m.romBankForAddress addr = some bank) (hplain : m.kind = .cartridge)
    (hoffset : (if addr.toNat < 0x400 then addr.toNat % m.rom.length
      else bank * 0x4000 + addr.toNat % 0x4000) = offset)
    (hboundary : addr.toNat + i < if addr.toNat < 0x400 then 0x400
      else (addr.toNat / 0x4000 + 1) * 0x4000)
    (hlength : offset + i < m.rom.length) :
    m.read (addr + BitVec.ofNat 16 i) = m.rom.getD (offset + i) 0xFF := by
  obtain ⟨hloaded, hcart, hsram, hpage⟩ := of_romBankForAddress hbank
  have hnat : (addr + BitVec.ofNat 16 i).toNat = addr.toNat + i :=
    toNat_add_offset (by split at hboundary <;> omega)
  have hextra : m.extraWindow (addr + BitVec.ofNat 16 i) = false := by
    simp [GameGearMapper.extraWindow, hplain]
  have hhidden : ¬(0x8000#16 ≤ addr + BitVec.ofNat 16 i ∧ m.sramEnabled = true) := by
    rintro ⟨hhigh, hsram'⟩
    rw [hsram (by split at hboundary <;> bv_omega)] at hsram'
    cases hsram'
  have hvisible : ¬((!m.loaded || decide (addr + BitVec.ofNat 16 i ≥ 0xC000#16)) = true) := by
    rw [hloaded, Bool.not_true, Bool.false_or, decide_eq_true_eq]
    split at hboundary <;> bv_omega
  rw [GameGearMapper.read, hextra, if_neg Bool.false_ne_true, GameGearMapper.readBase,
    if_neg hvisible, if_neg hhidden]
  by_cases hlow : addr.toNat < 0x400
  · rw [if_pos hlow] at hoffset hboundary
    subst hoffset
    rw [if_pos (by bv_omega), hnat, add_mod_of_lt hlength]
  · rw [if_neg hlow] at hoffset hboundary
    rw [if_neg (by bv_omega), hnat, GameGearMapper.kPageSize,
      show (addr.toNat + i) / 0x4000 = addr.toNat / 0x4000 by omega, ← hpage (by omega)]
    congr 1
    omega

theorem romCodeView_bytes (hview : d.romCodeView addr size ≠ []) :
    (d.romCodeView addr size).length = size ∧ addr.toNat + size ≤ 0xC000 ∧
      d.cart.loaded = true ∧ ∀ k < size, (d.romCodeView addr size)[k]? =
        some (d.cart.read (addr + BitVec.ofNat 16 k)) := by
  unfold romCodeView at *
  split_ifs at hview ⊢ with hplain
  · exact absurd rfl hview
  · simp only [not_or, not_not] at hplain
    cases hbank : d.cart.romBankForAddress addr with
    | none =>
      rw [hbank] at hview
      exact absurd rfl hview
    | some bank =>
      rw [hbank] at hview
      dsimp only at hview ⊢
      generalize hoffset : (if addr.toNat < 0x400 then addr.toNat % d.cart.rom.length
        else bank * 0x4000 + addr.toNat % 0x4000) = offset at hview ⊢
      generalize hbound : (if addr.toNat < 0x400 then 0x400
        else (addr.toNat / 0x4000 + 1) * 0x4000) = boundary at hview ⊢
      split_ifs at hview ⊢ with hlimit
      · exact absurd rfl hview
      · rw [not_or, not_or, not_lt, not_lt, not_lt] at hlimit
        have hcart := (of_romBankForAddress hbank).2.1
        refine ⟨by simp; omega, by split at hbound <;> omega, hplain.2, ?_⟩
        intro k hk
        rw [getElem?_drop_take hk (by omega),
          read_of_bank hbank hplain.1 hoffset (by omega) (by omega)]
        rfl

theorem ramCodeView_bytes (hram : 0xC000 ≤ addr.toNat) (htop : addr.toNat + size ≤ 0xFE00)
    (hview : d.ramCodeView addr size ≠ []) :
    (d.ramCodeView addr size).length = size ∧ ∀ k < size,
      d.peekCodeByte (addr + BitVec.ofNat 16 k) = (d.ramCodeView addr size)[k]? := by
  unfold ramCodeView at *
  dsimp only at hview ⊢
  generalize hbase : (if addr.toNat < 0xE000 then 0xC000 else 0xE000) = base at hview ⊢
  generalize htoplimit : (if base = 0xC000 then 0xE000 else 0xFE00) = limit at hview ⊢
  split at hview
  · exact absurd rfl hview
  · next hlimit =>
    rw [if_neg hlimit]
    refine ⟨by simp, fun k hk => ?_⟩
    have hnat := toNat_add_offset (show addr.toNat + k < 0x10000 by omega)
    rw [peekCodeByte_ram (by omega) (by omega), hnat]
    simp only [List.getElem?_map, List.getElem?_range hk, Option.map_some]
    congr 2
    split at hbase <;> split at htoplimit <;> split <;> omega

/-- A view holds the bytes that are peeked one at a time. -/
theorem checkedCodeView_bytes (hview : d.checkedCodeView addr size ≠ []) :
    (d.checkedCodeView addr size).length = size ∧ ∀ k < size,
      d.peekCodeByte (addr + BitVec.ofNat 16 k) = (d.checkedCodeView addr size)[k]? := by
  unfold checkedCodeView at *
  dsimp only at hview ⊢
  split_ifs at hview ⊢ with hsize hdevice hbios hlimit hcart
  · exact absurd rfl hview
  · exact absurd rfl hview
  · exact absurd rfl hview
  · refine ⟨by simp; omega, fun k hk => ?_⟩
    have hnat := toNat_add_offset (show addr.toNat + k < 0x10000 by omega)
    have hmapped := biosMapped_add (d := d) (show addr.toNat + k < 0x10000 by omega) (by omega)
    rw [peekCodeByte_low (by omega) (by omega), if_pos (hmapped.trans hbios), hnat,
      add_mod_of_lt (by omega), getElem?_drop_take hk (by omega)]
    rfl
  · obtain ⟨hlength, htop, hloaded, hbytes⟩ := romCodeView_bytes hview
    refine ⟨hlength, fun k hk => ?_⟩
    have hnat := toNat_add_offset (show addr.toNat + k < 0x10000 by omega)
    have hmapped := biosMapped_add (d := d) (show addr.toNat + k < 0x10000 by omega)
      (fun h => absurd h hbios)
    rw [peekCodeByte_low (by omega) (by omega), if_neg (by rwa [hmapped]), if_pos hloaded,
      hbytes k hk]
  · exact ramCodeView_bytes (by omega) (by omega) hview

theorem codeViews_agree (d : GameGearDevices C) :
    (∀ addr value, d.peekCodeByte addr = some value → d.readCanonical addr = value) ∧
      ∀ addr size, d.checkedCodeView addr size ≠ [] →
        (d.checkedCodeView addr size).length = size ∧
        ∀ k < size, ∃ value, d.peekCodeByte (addr + BitVec.ofNat 16 k) = some value ∧
          (d.checkedCodeView addr size)[k]? = some value := by
  refine ⟨fun addr value h => (peekCodeByte_readCanonical h).symm, fun addr size hview => ?_⟩
  obtain ⟨hlength, hbytes⟩ := checkedCodeView_bytes hview
  refine ⟨hlength, fun k hk => ?_⟩
  have hvalue := List.getElem?_eq_getElem (l := d.checkedCodeView addr size) (by omega : k < _)
  exact ⟨_, (hbytes k hk).trans hvalue, hvalue⟩

end GameGearDevices

end ProtoTime.GameGear
