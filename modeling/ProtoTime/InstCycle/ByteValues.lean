import ProtoTime.GameBoy.Bytes
import ProtoTime.InstCycle.Interpreter

/-!
Bytes and addresses in the words of the interpreter: a value that fits its type is
not changed by truncation, and sums and differences wrap at the type's width.
-/
namespace ProtoTime.IR.Interpreter

open GameBoy (Byte Addr hi lo word)

theorem truncate_i8 (x : BitVec 64) : truncate x .i8 = (x.setWidth 8).setWidth 64 := by
  apply BitVec.eq_of_toNat_eq
  have hand : x.toNat &&& (0xFF#64).toNat = x.toNat % 2 ^ 8 :=
    Nat.and_two_pow_sub_one_eq_mod x.toNat 8
  rw [truncate, mask, BitVec.toNat_and, hand, BitVec.toNat_setWidth, BitVec.toNat_setWidth]
  omega

theorem truncate_i16 (x : BitVec 64) : truncate x .i16 = (x.setWidth 16).setWidth 64 := by
  apply BitVec.eq_of_toNat_eq
  have hand : x.toNat &&& (0xFFFF#64).toNat = x.toNat % 2 ^ 16 :=
    Nat.and_two_pow_sub_one_eq_mod x.toNat 16
  rw [truncate, mask, BitVec.toNat_and, hand, BitVec.toNat_setWidth, BitVec.toNat_setWidth]
  omega

@[simp] theorem truncate_byte (b : Byte) : truncate (b.setWidth 64) .i8 = b.setWidth 64 := by
  rw [truncate_i8]
  simp

variable (a : Addr)

@[simp] theorem truncate_address : truncate (a.setWidth 64) .i16 = a.setWidth 64 := by
  rw [truncate_i16]
  simp

@[simp] theorem setWidth_byte (b : Byte) : (b.setWidth 64).setWidth 8 = b := by simp

@[simp] theorem setWidth_address : (a.setWidth 64).setWidth 16 = a := by simp

@[simp] theorem truncate_sub (n : BitVec 64) :
    truncate (a.setWidth 64 - truncate (truncate n .i16) .i16) .i16 =
      (a - n.setWidth 16).setWidth 64 := by
  simp only [truncate_i16]
  apply BitVec.eq_of_toNat_eq
  simp only [BitVec.toNat_setWidth, BitVec.toNat_sub]
  omega

@[simp] theorem truncate_add (n : BitVec 64) :
    truncate (a.setWidth 64 + truncate (truncate n .i16) .i16) .i16 =
      (a + n.setWidth 16).setWidth 64 := by
  simp only [truncate_i16]
  apply BitVec.eq_of_toNat_eq
  simp only [BitVec.toNat_setWidth, BitVec.toNat_add]
  omega

theorem imm16_eq (low high : Byte) :
    low.setWidth 64 ||| high.setWidth 64 <<< 8 = (word low high).setWidth 64 := by
  apply BitVec.eq_of_toNat_eq
  have hshift : high.toNat <<< 8 < 2 ^ 16 := by
    omega
  have hor : low.toNat ||| high.toNat <<< 8 < 2 ^ 16 := Nat.or_lt_two_pow (by omega) hshift
  simp only [word, BitVec.toNat_or, BitVec.toNat_setWidth, BitVec.toNat_shiftLeft]
  rw [Nat.mod_eq_of_lt (a := low.toNat) (by omega), Nat.mod_eq_of_lt (a := high.toNat) (by omega),
    Nat.mod_eq_of_lt (a := high.toNat) (by omega), Nat.mod_eq_of_lt (a := low.toNat) (by omega),
    Nat.mod_eq_of_lt (a := high.toNat <<< 8) (by omega),
    Nat.mod_eq_of_lt (a := high.toNat <<< 8) (by omega), Nat.mod_eq_of_lt (by omega)]

theorem setWidth_hi : (a >>> 8).setWidth 64 = (hi a).setWidth 64 := by
  apply BitVec.eq_of_toNat_eq
  simp only [hi, BitVec.toNat_setWidth, BitVec.toNat_ushiftRight, Nat.shiftRight_eq_div_pow]
  omega

theorem setWidth_lo : (a &&& 255#16).setWidth 64 = (lo a).setWidth 64 := by
  apply BitVec.eq_of_toNat_eq
  have hand : a.toNat &&& (255#16).toNat = a.toNat % 2 ^ 8 :=
    Nat.and_two_pow_sub_one_eq_mod a.toNat 8
  simp only [lo, BitVec.toNat_setWidth, BitVec.toNat_and, hand]

end ProtoTime.IR.Interpreter
