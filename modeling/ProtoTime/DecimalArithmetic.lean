import ProtoTime.PackedDecimal
import ProtoTime.GameBoy.Canonical
import ProtoTime.GameGear.Z80Opcodes

/-!
Packed-decimal addition and subtraction on both processors: the operations `ADD`, `ADC`, `SUB`
and `SBC` with `DAA` behind them.
-/
namespace ProtoTime
open GameBoy (Byte Core)
open GameGear (Z80Interpreter)
open PackedDecimal PackedDecimal.DecimalUnit

theorem and_fifteen (n : ℕ) : n &&& 15 = n % 16 := Nat.and_two_pow_sub_one_eq_mod n 4

theorem low_gt_iff (b : Byte) : b &&& 0x0F#8 > 9#8 ↔ b.toNat % 16 > 9 := by
  exact iff_of_eq (congrArg (9 < ·) (and_fifteen _))

theorem toNat_eq_ite (b : Bool) : b.toNat = if b then 1 else 0 := Bool.cond_eq_ite b 1 0

theorem byte_gt_iff (b : Byte) : b > 0x99#8 ↔ b.toNat > 0x99 := BitVec.lt_def

namespace GameBoy.Core

variable {σ : Type}

def decimalUnit (σ : Type) : DecimalUnit (Core σ) where
  accumulator := accumulator
  carry s := s.flags &&& kFlagC != 0
  zero s := s.flags &&& kFlagZ != 0
  add y s := s.mathOp 0x80#8 y
  addCarry y s := s.mathOp 0x88#8 y
  subtract y s := s.mathOp 0x90#8 y
  subtractCarry y s := s.mathOp 0x98#8 y
  adjust := daa

theorem flagByte_bits (z n h c : Bool) :
    (flagByte z n h c &&& kFlagZ != 0) = z ∧ (flagByte z n h c &&& kFlagN != 0) = n ∧
      (flagByte z n h c &&& kFlagH != 0) = h ∧ (flagByte z n h c &&& kFlagC != 0) = c := by
  revert z n h c
  decide

theorem daa_of_sum (s : Core σ) (a : Byte) (z h c : Bool) :
    (decimalUnit σ).Shows ((s.assignAccumulator a).setFlags z false h c).daa
      (a + correction (h || decide (a &&& 0x0F#8 > 9#8)) (c || decide (a > 0x99#8)))
      (c || decide (a > 0x99#8)) := by
  obtain ⟨-, hn, hh, hc⟩ := flagByte_bits z false h c
  unfold daa DecimalUnit.Shows decimalUnit setFlags assignFlags assignAccumulator flags accumulator
  simp only [lo_setLo, hi_setLo, hi_setHi, hn, hh, hc, flagByte_bits]
  cases h <;> cases c <;> by_cases hlow : a &&& 0x0F#8 > 9#8 <;> by_cases hhigh : a > 0x99#8 <;>
    simp [hlow, hhigh, correction]

theorem daa_of_difference (s : Core σ) (a : Byte) (z h c : Bool) :
    (decimalUnit σ).Shows ((s.assignAccumulator a).setFlags z true h c).daa
      (a - correction h c) c := by
  obtain ⟨-, hn, hh, hc⟩ := flagByte_bits z true h c
  unfold daa DecimalUnit.Shows decimalUnit setFlags assignFlags assignAccumulator flags accumulator
  simp only [lo_setLo, hi_setLo, hi_setHi, hn, hh, hc, flagByte_bits]
  cases h <;> cases c <;> simp [correction]

theorem exact_add : (decimalUnit σ).Exact 1 (decimalUnit σ).add fun _ => false := by
  refine exact_of_sums fun s y => ⟨_, _, _, ?_, ?_, ?_, daa_of_sum s _ _ _ _⟩
  · simp [decimalUnit]
  · simp [decimalUnit, and_fifteen, low_gt_iff]
  · simp [decimalUnit, byte_gt_iff]

theorem exact_addCarry :
    (decimalUnit σ).Exact 1 (decimalUnit σ).addCarry (decimalUnit σ).carry := by
  refine exact_of_sums fun s y => ⟨_, _, _, ?_, ?_, ?_, daa_of_sum s _ _ _ _⟩
  · simp [decimalUnit, toNat_eq_ite]
  · simp [decimalUnit, toNat_eq_ite, and_fifteen, low_gt_iff]
  · simp [decimalUnit, toNat_eq_ite]

theorem exact_subtract : (decimalUnit σ).Exact (-1) (decimalUnit σ).subtract fun _ => false := by
  refine exact_of_differences fun s y _ _ => ⟨_, _, _, ?_, ?_, ?_, daa_of_difference s _ _ _ _⟩
  · simp only [decimalUnit, BitVec.toNat_sub, Bool.toNat_false]
    omega
  · simp [decimalUnit, and_fifteen]
  · simp [decimalUnit, BitVec.lt_def]

theorem exact_subtractCarry :
    (decimalUnit σ).Exact (-1) (decimalUnit σ).subtractCarry (decimalUnit σ).carry := by
  refine exact_of_differences fun s y _ _ => ⟨_, _, _, ?_, ?_, ?_, daa_of_difference s _ _ _ _⟩
  · have hy := y.isLt
    simp only [decimalUnit, toNat_eq_ite, BitVec.toNat_sub, BitVec.toNat_ofNat]
    split <;> omega
  · simp [decimalUnit, toNat_eq_ite, and_fifteen]
  · simp [decimalUnit, toNat_eq_ite]

end GameBoy.Core

namespace GameGear.Z80Interpreter

variable {σ : Type}

def decimalUnit (σ : Type) : DecimalUnit (Z80Interpreter σ) where
  accumulator := regA
  carry := carryFlag
  zero := zeroFlag
  add := alu 0
  addCarry := alu 1
  subtract := alu 2
  subtractCarry := alu 3
  adjust := daa

variable (value : Byte)

@[simp] theorem regA_setRegA (c : Z80Interpreter σ) :
    (c.setRegA value).regA = value := GameBoy.hi_word _ _

@[simp] theorem regF_setRegA (c : Z80Interpreter σ) :
    (c.setRegA value).regF = c.regF := GameBoy.lo_word _ _

@[simp] theorem regA_setRegF (c : Z80Interpreter σ) :
    (c.setRegF value).regA = c.regA := GameBoy.hi_setLo _ _

@[simp] theorem regF_setRegF (c : Z80Interpreter σ) :
    (c.setRegF value).regF = value := GameBoy.lo_setLo _ _

theorem copied_and (r : Byte) {mask : Byte} (h : (kFlagS ||| kFlag5 ||| kFlag3) &&& mask = 0) :
    r &&& (kFlagS ||| kFlag5 ||| kFlag3) &&& mask = 0 := by
  rw [BitVec.and_assoc, h]
  exact BitVec.and_zero

theorem arithmetic_bits (r : Byte) (n z h v c : Bool) (f : Byte)
    (hf : f = flagIf n kFlagN ||| (r &&& (kFlagS ||| kFlag5 ||| kFlag3)) ||| flagIf z kFlagZ |||
      flagIf h kFlagH ||| flagIf v kFlagPV ||| flagIf c kFlagC) :
    (f &&& kFlagN != 0) = n ∧ (f &&& kFlagH != 0) = h ∧ (f &&& kFlagC != 0) = c := by
  subst hf
  simp only [BitVec.and_or_distrib_right]
  rw [copied_and r (by decide : _ &&& kFlagN = 0), copied_and r (by decide : _ &&& kFlagH = 0),
    copied_and r (by decide : _ &&& kFlagC = 0)]
  revert n z h v c
  decide

theorem adjusted_bits (r : Byte) (n z v c : Bool) (f : Byte)
    (hf : f = flagIf n kFlagN ||| flagIf c kFlagC |||
      ((r &&& (kFlagS ||| kFlag5 ||| kFlag3)) ||| flagIf z kFlagZ) ||| flagIf v kFlagPV) :
    (f &&& kFlagZ != 0) = z ∧ (f &&& kFlagC != 0) = c := by
  subst hf
  simp only [BitVec.and_or_distrib_right]
  rw [copied_and r (by decide : _ &&& kFlagZ = 0), copied_and r (by decide : _ &&& kFlagC = 0)]
  revert n z v c
  decide

theorem and_kFlagN (f : Byte) : f &&& kFlagN = flagIf (f &&& kFlagN != 0) kFlagN := by
  revert f
  decide +kernel

theorem daa_shows (t : Z80Interpreter σ) {a : Byte} {n h c low high : Bool} (ha : t.regA = a)
    (hbits : (t.regF &&& kFlagN != 0) = n ∧ (t.regF &&& kFlagH != 0) = h ∧
      (t.regF &&& kFlagC != 0) = c)
    (hlow : (h || decide (a &&& 0x0F#8 > 9#8)) = low)
    (hhigh : (c || decide (a > 0x99#8)) = high) :
    (decimalUnit σ).Shows t.daa (if n then a - correction low high else a + correction low high)
      high := by
  obtain ⟨hn, hh, hc⟩ := hbits
  unfold daa DecimalUnit.Shows decimalUnit carryFlag zeroFlag
  have hcorrection : flagIf low 0x06#8 ||| flagIf high 0x60#8 = correction low high := rfl
  simp only [regA_setRegF, regF_setRegF, regA_setRegA, regF_setRegA, ha, hh, hc, hn, hlow, hhigh,
    hcorrection]
  generalize (if n = true then a - correction low high else a + correction low high) = v
  refine ⟨trivial, And.comm.mp (adjusted_bits v n (v == 0) (parityEven v) high _ ?_)⟩
  rw [← hn, ← and_kFlagN]
  rfl

theorem shows_sum (s : Z80Interpreter σ) (y carryIn result : Byte) :
    (decimalUnit σ).Shows
      ((s.setRegA result).setRegF (computeAddFlags s.regA y carryIn result)).daa
      (result + correction
        (decide ((s.regA &&& 0x0F#8).toNat + (y &&& 0x0F#8).toNat + carryIn.toNat > 0x0F) ||
          decide (result &&& 0x0F#8 > 9#8))
        (decide (s.regA.toNat + y.toNat + carryIn.toNat > 0xFF) || decide (result > 0x99#8)))
      (decide (s.regA.toNat + y.toNat + carryIn.toNat > 0xFF) || decide (result > 0x99#8)) := by
  refine daa_shows _ (by simp) (n := false) ?_ rfl rfl
  rw [regF_setRegF]
  exact arithmetic_bits result false (result == 0) _
    (~~~(s.regA ^^^ y) &&& (s.regA ^^^ result) &&& 0x80#8 != 0) _ _
    (congrArg (· ||| _ ||| _ ||| _ ||| _) BitVec.zero_or.symm)

theorem shows_difference (s : Z80Interpreter σ) {y carryIn result : Byte} {c : Bool}
    (hx : Packed s.regA) (hy : Packed y) (hc : carryIn.toNat = c.toNat)
    (hresult : result.toNat = (s.regA.toNat + 512 - y.toNat - c.toNat) % 256) :
    (decimalUnit σ).Shows
      ((s.setRegA result).setRegF (computeSubFlags s.regA y carryIn result)).daa
      (result - correction (decide (s.regA.toNat % 16 < y.toNat % 16 + c.toNat))
        (decide (s.regA.toNat < y.toNat + c.toNat)))
      (decide (s.regA.toNat < y.toNat + c.toNat)) := by
  obtain ⟨hlow, hhigh⟩ := difference_digits hx hy hresult
  refine daa_shows _ (by simp) (n := true)
    (h := decide (s.regA.toNat % 16 < y.toNat % 16 + c.toNat))
    (c := decide (s.regA.toNat < y.toNat + c.toNat)) ?_ ?_ ?_
  · refine arithmetic_bits result true (result == 0) _
      ((s.regA ^^^ y) &&& (s.regA ^^^ result) &&& 0x80#8 != 0) _ _ ?_
    simp [computeSubFlags, flagIf, hc, and_fifteen]
  · simpa [low_gt_iff] using hlow
  · simpa [byte_gt_iff] using hhigh

theorem toNat_carryIn (s : Z80Interpreter σ) : s.carryIn.toNat = s.carryFlag.toNat := by
  unfold carryIn
  cases s.carryFlag <;> rfl

theorem exact_add : (decimalUnit σ).Exact 1 (decimalUnit σ).add fun _ => false := by
  refine exact_of_sums fun s y => ⟨_, _, _, ?_, ?_, ?_, shows_sum s y 0 _⟩
  · simp [decimalUnit]
  · simp [decimalUnit, and_fifteen, low_gt_iff]
  · simp [decimalUnit, byte_gt_iff]

theorem exact_addCarry :
    (decimalUnit σ).Exact 1 (decimalUnit σ).addCarry (decimalUnit σ).carry := by
  refine exact_of_sums fun s y => ⟨_, _, _, ?_, ?_, ?_, shows_sum s y s.carryIn _⟩
  · simp [decimalUnit, toNat_carryIn]
  · simp [decimalUnit, toNat_carryIn, and_fifteen, low_gt_iff]
  · simp [decimalUnit, toNat_carryIn, byte_gt_iff]

theorem exact_subtract : (decimalUnit σ).Exact (-1) (decimalUnit σ).subtract fun _ => false := by
  refine exact_of_differences fun s y hx hy =>
    ⟨_, _, _, ?_, ?_, ?_, shows_difference s hx hy (c := false) rfl ?_⟩
  case refine_1 | refine_4 =>
    have hlt := y.isLt
    simp only [decimalUnit, BitVec.toNat_sub, Bool.toNat_false]
    omega
  · simp [decimalUnit]
  · simp [decimalUnit]

theorem exact_subtractCarry :
    (decimalUnit σ).Exact (-1) (decimalUnit σ).subtractCarry (decimalUnit σ).carry := by
  refine exact_of_differences fun s y hx hy =>
    ⟨_, _, _, ?_, ?_, ?_, shows_difference s hx hy (toNat_carryIn s) ?_⟩
  case refine_1 | refine_4 =>
    have hcarry := Bool.toNat_le s.carryFlag
    simp only [decimalUnit, BitVec.toNat_sub, toNat_carryIn]
    omega
  · simp [decimalUnit]
  · simp [decimalUnit]

end GameGear.Z80Interpreter

theorem decimal_arithmetic_exact (σ τ : Type) :
    ((Core.decimalUnit σ).AddsNumbers ∧ (Core.decimalUnit σ).SubtractsNumbers) ∧
      (Z80Interpreter.decimalUnit τ).AddsNumbers ∧
      (Z80Interpreter.decimalUnit τ).SubtractsNumbers :=
  ⟨⟨addsNumbers Core.exact_add Core.exact_addCarry,
      subtractsNumbers Core.exact_subtract Core.exact_subtractCarry⟩,
    addsNumbers Z80Interpreter.exact_add Z80Interpreter.exact_addCarry,
    subtractsNumbers Z80Interpreter.exact_subtract Z80Interpreter.exact_subtractCarry⟩

end ProtoTime
