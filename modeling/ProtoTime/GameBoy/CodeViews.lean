import Mathlib.Data.List.Basic
import Mathlib.Data.List.GetD
import Mathlib.Tactic.SplitIfs
import ProtoTime.InstCycle.MachineBlockLaws
import ProtoTime.GameBoy.Board

/-!
Contiguous views of executable memory. A view is given for a range inside the boot
ROM, one ROM window, work RAM or high RAM, and holds the bytes that are peeked there
one address at a time, so that both guard checks of a bound block agree on the
memory map, and a match means that the processor reads the guarded bytes.
-/
namespace ProtoTime.GameBoy

open IR.Plugin

namespace GameBoyMemoryMap

/-- The bytes of a range that one region backs without gaps, or none. -/
def checkedCodeView (m : GameBoyMemoryMap) (address : Addr) (size : ℕ) : List Byte :=
  let start := address.toNat
  let limit := start + size
  if size = 0 ∨ size > 0x10000 - start then []
  else if m.bootRomActive ∧ start < m.bootRom.length then
    if limit > m.bootRom.length ∨ limit > 0x4000 then [] else (m.bootRom.drop start).take size
  else if start < 0x8000 then
    let base := if start < 0x4000 then 0 else 0x4000
    let window := if base = 0 then m.romWindow0x0000 else m.romWindow0x4000
    let offset := start - base
    if limit > base + 0x4000 ∨ ¬ window.active ∨ offset > window.data.length
        ∨ size > window.data.length - offset then []
    else (window.data.drop offset).take size
  else if 0xC000 ≤ start ∧ limit ≤ 0xE000 then m.region start size
  else if 0xFF80 ≤ start ∧ limit ≤ 0xFFFF then m.region start size
  else []

theorem getElem?_drop_take {bytes : List Byte} {start size n : ℕ} (hn : n < size)
    (hlength : start + size ≤ bytes.length) :
    ((bytes.drop start).take size)[n]? = some (bytes.getD (start + n) 0xFF#8) := by
  rw [List.getElem?_take, if_pos hn, List.getElem?_drop, List.getD_eq_getElem?_getD,
    List.getElem?_eq_getElem (by omega), Option.getD_some]

theorem getElem?_region (m : GameBoyMemoryMap) {address : Addr} {size n : ℕ} (hn : n < size) :
    (m.region address.toNat size)[n]? = some (m.cells (address + BitVec.ofNat 16 n)) := by
  have haddress : BitVec.ofNat 16 (address.toNat + n) = address + BitVec.ofNat 16 n := by
    rw [BitVec.ofNat_add, BitVec.ofNat_toNat, BitVec.setWidth_eq]
  simp [region, hn, haddress]

section Views

variable {m : GameBoyMemoryMap} {address : Addr}

theorem peek_bootRom (hactive : m.bootRomActive = true) (hlength : address.toNat < m.bootRom.length)
    (hlow : address.toNat < 0x8000) :
    m.peekExecutableByte address = some (m.bootRom.getD address.toNat 0xFF#8) := by
  rw [peekExecutableByte, if_pos (.inl (by bv_omega)), readRaw, if_pos ⟨hactive, hlength⟩]

section

variable (hboot : ¬(m.bootRomActive = true ∧ address.toNat < m.bootRom.length))

include hboot

theorem peek_romWindow0x0000
    (hactive : m.romWindow0x0000.active = true) (hlow : address.toNat < 0x4000) :
    m.peekExecutableByte address = some (m.romWindow0x0000.data.getD address.toNat 0xFF#8) := by
  rw [peekExecutableByte, if_pos (.inl (by bv_omega)), readRaw, if_neg hboot,
    if_pos ⟨by bv_omega, hactive⟩]

theorem peek_romWindow0x4000
    (hactive : m.romWindow0x4000.active = true) (hhigh : 0x4000 ≤ address.toNat)
    (hlow : address.toNat < 0x8000) :
    m.peekExecutableByte address =
      some (m.romWindow0x4000.data.getD (address.toNat - 0x4000) 0xFF#8) := by
  rw [peekExecutableByte, if_pos (.inl (by bv_omega)), readRaw, if_neg hboot,
    if_neg (fun h => absurd h.1 (by bv_omega)), if_pos ⟨by bv_omega, by bv_omega, hactive⟩]

theorem peek_wram (hhigh : 0xC000 ≤ address.toNat) (hlow : address.toNat < 0xE000) :
    m.peekExecutableByte address = some (m.cells address) := by
  rw [peekExecutableByte, if_pos (.inr (.inl ⟨by bv_omega, by bv_omega⟩)), readRaw, if_neg hboot,
    if_neg (fun h => absurd h.1 (by bv_omega)), if_neg (fun h => absurd h.2.1 (by bv_omega)),
    if_neg (fun h => absurd h.2 (by bv_omega)), if_neg (fun h => absurd h.2 (by bv_omega)),
    if_pos ⟨by bv_omega, by bv_omega⟩]

theorem peek_hram (hhigh : 0xFF80 ≤ address.toNat) (hlow : address.toNat < 0xFFFF) :
    m.peekExecutableByte address = some (m.cells address) := by
  rw [peekExecutableByte, if_pos (.inr (.inr ⟨by bv_omega, by bv_omega⟩)), readRaw, if_neg hboot,
    if_neg (fun h => absurd h.1 (by bv_omega)), if_neg (fun h => absurd h.2.1 (by bv_omega)),
    if_neg (fun h => absurd h.2 (by bv_omega)), if_neg (fun h => absurd h.2 (by bv_omega)),
    if_neg (fun h => absurd h.2 (by bv_omega)), if_neg (fun h => absurd h.2 (by bv_omega)),
    if_neg (fun h => absurd h.2 (by bv_omega)), if_neg (fun h => absurd h.2 (by bv_omega)),
    if_pos (by bv_omega)]

end

end Views

/-- A view holds the peeked bytes: a range never leaves the region it starts in. -/
theorem views_checkedCodeView (m : GameBoyMemoryMap) :
    BoundBlock.Views m.peekExecutableByte m.checkedCodeView := by
  intro address size hpositive hrange hlength n hn
  have htarget : (address + BitVec.ofNat 16 n).toNat = address.toNat + n := by
    rw [BitVec.toNat_add, BitVec.toNat_ofNat]
    omega
  have hnone : ([] : List Byte).length ≠ size := by
    rw [List.length_nil]
    omega
  unfold checkedCodeView at hlength ⊢
  dsimp only at hlength ⊢
  rw [if_neg (by omega)] at hlength ⊢
  by_cases hboot : m.bootRomActive = true ∧ address.toNat < m.bootRom.length
  · rw [if_pos hboot] at hlength ⊢
    by_cases hbounds :
        address.toNat + size > m.bootRom.length ∨ address.toNat + size > 0x4000
    · rw [if_pos hbounds] at hlength
      exact absurd hlength hnone
    · rw [if_neg hbounds, getElem?_drop_take hn (by omega),
        peek_bootRom hboot.1 (by omega) (by omega), htarget]
  · have hboot' : ¬(m.bootRomActive = true ∧
        (address + BitVec.ofNat 16 n).toNat < m.bootRom.length) :=
      fun h => hboot ⟨h.1, by omega⟩
    rw [if_neg hboot] at hlength ⊢
    by_cases hlow : address.toNat < 0x8000
    · rw [if_pos hlow] at hlength ⊢
      by_cases hhalf : address.toNat < 0x4000
      · simp only [if_pos hhalf, if_true, Nat.zero_add, Nat.sub_zero] at hlength ⊢
        by_cases hbounds : address.toNat + size > 0x4000 ∨ ¬ m.romWindow0x0000.active = true ∨
            address.toNat > m.romWindow0x0000.data.length ∨
            size > m.romWindow0x0000.data.length - address.toNat
        · rw [if_pos hbounds] at hlength
          exact absurd hlength hnone
        · simp only [not_or, not_not, not_lt] at hbounds
          obtain ⟨hend, hactive, hoffset, hsize⟩ := hbounds
          rw [if_neg (by simp [hactive]; omega), getElem?_drop_take hn (by omega),
            peek_romWindow0x0000 hboot' hactive (by omega), htarget]
      · simp only [if_neg hhalf, Nat.reduceEqDiff, if_false] at hlength ⊢
        by_cases hbounds : address.toNat + size > 0x4000 + 0x4000 ∨
            ¬ m.romWindow0x4000.active = true ∨
            address.toNat - 0x4000 > m.romWindow0x4000.data.length ∨
            size > m.romWindow0x4000.data.length - (address.toNat - 0x4000)
        · rw [if_pos hbounds] at hlength
          exact absurd hlength hnone
        · simp only [not_or, not_not, not_lt] at hbounds
          obtain ⟨hend, hactive, hoffset, hsize⟩ := hbounds
          rw [if_neg (by simp [hactive]; omega), getElem?_drop_take hn (by omega),
            peek_romWindow0x4000 hboot' hactive (by omega) (by omega), htarget,
            Nat.sub_add_comm (by omega)]
    · rw [if_neg hlow] at hlength ⊢
      by_cases hwram : 0xC000 ≤ address.toNat ∧ address.toNat + size ≤ 0xE000
      · rw [if_pos hwram, getElem?_region m hn, peek_wram hboot' (by omega) (by omega)]
      · rw [if_neg hwram] at hlength ⊢
        by_cases hhram : 0xFF80 ≤ address.toNat ∧ address.toNat + size ≤ 0xFFFF
        · rw [if_pos hhram, getElem?_region m hn, peek_hram hboot' (by omega) (by omega)]
        · rw [if_neg hhram] at hlength
          exact absurd hlength hnone

theorem read_of_peekExecutableByte {m : GameBoyMemoryMap} {address : Addr} {byte : Byte}
    (h : m.peekExecutableByte address = some byte) : m.read address = byte := by
  unfold peekExecutableByte at h
  split at h
  · rename_i hregion
    have hecho : resolveEchoAddress address = address := by
      rw [resolveEchoAddress, if_neg]
      rintro ⟨hfrom, hto⟩
      rcases hregion with hregion | hregion | hregion
      · bv_omega
      · bv_omega
      · bv_omega
    rw [read, peek, hecho]
    exact Option.some.inj h
  · cases h

end GameBoyMemoryMap

/-! ### Bound blocks on the memory map -/

/-- Both guard checks give one answer, both ways to move a binding give bindings that answer
alike, and behind a match the processor reads every guarded byte. -/
theorem guards_agree {b : BoundBlock} (h : b.Reachable) (m : GameBoyMemoryMap) :
    (∀ mapping state helperAbi checkBytes,
      b.guardsMatch mapping state helperAbi m.peekExecutableByte checkBytes =
        b.guardsMatchView mapping state helperAbi m.peekExecutableByte m.checkedCodeView
          checkBytes) ∧
    (∀ owner generation mapping,
      BoundBlock.SameRemap (b.remap owner generation mapping)
        (b.remapCopied owner generation mapping)) ∧
    ∀ mapping state helperAbi,
      b.guardsMatch mapping state helperAbi m.peekExecutableByte = true →
        ∀ guard ∈ b.code.block.guards, guard.kind = .known .codeBytes →
          ∀ (n : ℕ) byte, guard.bytes[n]? = some byte → ∀ c : Core Board, c.bus.memoryMap = m →
            c.read8 ((guard.subject + BitVec.ofNat 64 n).setWidth 16) = byte := by
  have hderived := h.derived
  refine ⟨?_, ?_, ?_⟩
  · intro mapping state helperAbi checkBytes
    exact hderived.guardsMatch_eq_guardsMatchView m.views_checkedCodeView mapping state helperAbi
      checkBytes
  · intro owner generation mapping
    exact hderived.remap_remapCopied owner generation mapping
  · intro mapping state helperAbi hmatch guard hguard hkind n byte hbyte c hc
    have hpeek := hderived.peek_of_guardsMatch hmatch hguard hkind hbyte
    have hread := GameBoyMemoryMap.read_of_peekExecutableByte hpeek
    rw [← hc] at hread
    exact hread

/-- What the Game Boy core lowers a `NOP` in work RAM to. -/
def nopBlock : Block where
  guestStart := 0xC000
  guestEnd := 0xC000
  mappingGeneration := 5
  guards :=
    [{ kind := .known .mappingGeneration, expected := 5 },
      { kind := .known .helperAbi, expected := 1 },
      { kind := .known .executionState, expected := 0, mask := 63 },
      { kind := .known .codeBytes, subject := 0xC000, bytes := [0x00] }]
  instructions :=
    [{ address := 0xC000
       length := 1
       cyclesNotTaken := 4
       cyclesTaken := 4
       operations :=
         [{ opcode := .known .setProgramCounter,
            operands := [⟨.known .immediate, .known .i16, 0xC001⟩] },
          { opcode := .known .retireInstruction }] }]
  exit := .known .sequential

theorem validate_nopBlock : validate nopBlock = .ok () := by decide

/-- The core's side of binding, on the one request that the block gives rise to. -/
def nopAdapter : IrCoreAdapter where
  architectureId := 0x47420001
  validateLoweredBlock _ block := validate block
  lower request :=
    if request = ⟨[⟨0xC000, [0x00, 0x00, 0x00, 0x00], 1⟩], 5, 0⟩ then (some nopBlock, "")
    else (none, "Game Boy adapter could not lower any instructions")

def nopCode : CompiledBlock := ⟨nopBlock, 0x47420001, validate_nopBlock⟩

def nopBinding : BoundBlock :=
  { BoundBlock.make nopCode (some 0) 1 with mapping := 7, canonical := true }

/-- A machine without a cartridge, its work RAM zero. -/
def clearedMap : GameBoyMemoryMap :=
  ⟨fun _ => 0, [], false, ⟨[], false⟩, ⟨[], false⟩, .initial, .initial⟩

theorem guards_agree_nop :
    nopBinding.guardsMatch 7 0 1 clearedMap.peekExecutableByte = true ∧
      nopBinding.guardsMatchView 7 0 1 clearedMap.peekExecutableByte
        clearedMap.checkedCodeView = true := by
  have hbind : bindMachineBlock nopCode nopAdapter (some 0) 1 7 = .ok nopBinding := rfl
  have hmatch : nopBinding.guardsMatch 7 0 1 clearedMap.peekExecutableByte = true := by
    decide
  exact ⟨hmatch, (guards_agree (.bind hbind) clearedMap).1 7 0 1 true ▸ hmatch⟩

end ProtoTime.GameBoy
