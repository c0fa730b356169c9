import Mathlib.Tactic.Common
import Mathlib.Data.Nat.Notation
import Mathlib.Tactic.IntervalCases
import ProtoTime.FixedSizes

/-!
Bytes, addresses and the high and low halves of a register pair.
-/
namespace ProtoTime.GameBoy

abbrev Byte := BitVec 8

abbrev Addr := BitVec 16

def hi (pair : Addr) : Byte := (pair >>> 8).setWidth 8

def lo (pair : Addr) : Byte := pair.setWidth 8

def setHi (pair : Addr) (value : Byte) : Addr :=
  (pair &&& 0x00FF#16) ||| (value.setWidth 16 <<< 8)

def setLo (pair : Addr) (value : Byte) : Addr :=
  (pair &&& 0xFF00#16) ||| value.setWidth 16

/-- The little-endian word made of two bytes. -/
def word (low high : Byte) : Addr := low.setWidth 16 ||| (high.setWidth 16 <<< 8)

variable (pair : Addr)

@[simp] theorem lo_setLo (value : Byte) : lo (setLo pair value) = value := by
  ext i hi
  interval_cases i <;> simp [lo, setLo]

@[simp] theorem hi_setHi (value : Byte) : hi (setHi pair value) = value := by
  ext i hi
  interval_cases i <;> simp [GameBoy.hi, setHi]

@[simp] theorem lo_setHi (value : Byte) : lo (setHi pair value) = lo pair := by
  ext i hi
  interval_cases i <;> simp [lo, setHi]

@[simp] theorem hi_setLo (value : Byte) : hi (setLo pair value) = hi pair := by
  ext i hi
  interval_cases i <;> simp [GameBoy.hi, setLo]

@[simp] theorem setLo_setLo (a b : Byte) :
    setLo (setLo pair a) b = setLo pair b := by
  ext i hi
  interval_cases i <;> simp [setLo]

theorem setHi_setLo (low high : Byte) :
    setHi (setLo pair low) high = setLo (setHi pair high) low := by
  ext i hi
  interval_cases i <;> simp [setLo, setHi]

theorem hi_word (low high : Byte) : hi (word low high) = high := by
  ext i hi
  interval_cases i <;> simp [GameBoy.hi, word]

theorem lo_word (low high : Byte) : lo (word low high) = low := by
  ext i hi
  interval_cases i <;> simp [lo, word]

theorem and_mask_twice {w : ℕ} (x m : BitVec w) : x &&& m &&& m = x &&& m := by
  rw [BitVec.and_assoc, BitVec.and_self]

end ProtoTime.GameBoy
