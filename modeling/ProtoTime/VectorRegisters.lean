import ProtoTime.BlockMemory

/-!
Vector registers of the x86 and NEON instruction sets as bytes, the lowest first, and the
instructions on them. Each instruction is described by the 32-bit lanes of its result.
-/
namespace ProtoTime.VectorRegisters
open BlockMemory

abbrev Register (n : ℕ) := Fin n → BitVec 8

namespace Register

variable {n : ℕ}

def byte (r : Register n) (k : ℕ) : BitVec 8 := if h : k < n then r ⟨k, h⟩ else 0

def lane (r : Register n) (l : ℕ) : BitVec 32 :=
  r.byte (4 * l + 3) ++ r.byte (4 * l + 2) ++ r.byte (4 * l + 1) ++ r.byte (4 * l)

def ofLanes (f : ℕ → BitVec 32) : Register n := fun k => byteOf (f (k.val / 4)) (k.val % 4)

theorem byte_of_lt {r : Register n} {k : ℕ} (h : k < n) : r.byte k = r ⟨k, h⟩ := dif_pos h

theorem lane_ofLanes {f : ℕ → BitVec 32} {l : ℕ} (h : 4 * l + 4 ≤ n) :
    (ofLanes f : Register n).lane l = f l := by
  have hbyte : ∀ j < 4, (ofLanes f : Register n).byte (4 * l + j) = byteOf (f l) j := by
    intro j hj
    rw [byte_of_lt (by omega), ofLanes]
    simp only [Nat.mul_add_div (by decide : 4 > 0), Nat.div_eq_of_lt hj, Nat.mul_add_mod,
      Nat.mod_eq_of_lt hj, Nat.add_zero]
  have hlow := hbyte 0 (by decide)
  rw [Nat.add_zero] at hlow
  rw [lane, hbyte 3 (by decide), hbyte 2 (by decide), hbyte 1 (by decide), hlow, bytes_of_32]

theorem byteOf_lane (r : Register n) (l : ℕ) {j : ℕ} (hj : j < 4) :
    byteOf (r.lane l) j = r.byte (4 * l + j) := by
  obtain ⟨h0, h1, h2, h3⟩ := byteOf_joined (r.byte (4 * l + 3)) (r.byte (4 * l + 2))
    (r.byte (4 * l + 1)) (r.byte (4 * l))
  rcases (by omega : j = 0 ∨ j = 1 ∨ j = 2 ∨ j = 3) with rfl | rfl | rfl | rfl
  · exact h0
  · exact h1
  · exact h2
  · exact h3

end Register

open Register

section Bytes

variable (a b c d a' b' c' d' : BitVec 8)

theorem and_bytes : (a ++ b ++ c ++ d) &&& (a' ++ b' ++ c' ++ d') =
    (a &&& a') ++ (b &&& b') ++ (c &&& c') ++ (d &&& d') := by
  simp only [BitVec.and_append]

theorem or_bytes : (a ++ b ++ c ++ d) ||| (a' ++ b' ++ c' ++ d') =
    (a ||| a') ++ (b ||| b') ++ (c ||| c') ++ (d ||| d') := by
  simp only [BitVec.or_append]

theorem not_bytes : ~~~ (a ++ b ++ c ++ d) = ~~~ a ++ ~~~ b ++ ~~~ c ++ ~~~ d := by
  simp only [BitVec.not_append]

end Bytes

section Lanes

variable {n : ℕ}

/-- `_mm_loadu_si128`, `_mm256_loadu_si256` and `vld1q_u32`. -/
def loaduSi (n : ℕ) (m : Memory) (start : ℕ) : Register n := fun k => m (start + k.val)

/-- `_mm_storeu_si128`, `_mm256_storeu_si256`, `vst1q_u32` and `vst1_u16`: all bytes. -/
def storeuSi (m : Memory) (start : ℕ) (r : Register n) : Memory := fun a =>
  if start ≤ a ∧ a < start + n then r.byte (a - start) else m a

def set1Epi32 (value : BitVec 32) : Register n := ofLanes fun _ => value

def setzeroSi : Register n := fun _ => 0

def andSi (r s : Register n) : Register n := fun k => r k &&& s k

def orSi (r s : Register n) : Register n := fun k => r k ||| s k

/-- The first operand is the one negated. -/
def andnotSi (r s : Register n) : Register n := fun k => ~~~ r k &&& s k

def srliEpi32 (r : Register n) (count : ℕ) : Register n := ofLanes fun l => r.lane l >>> count

def slliEpi32 (r : Register n) (count : ℕ) : Register n := ofLanes fun l => r.lane l <<< count

def cmpeqEpi32 (r s : Register n) : Register n :=
  ofLanes fun l => if r.lane l = s.lane l then BitVec.allOnes 32 else 0

/-- The sign bits of the lanes, that of the lowest lane in bit 0. -/
def movemaskPs (r : Register n) : BitVec 32 :=
  (BitVec.ofBoolListLE ((List.range (n / 4)).map fun l => (r.lane l).msb)).setWidth 32

variable {r s : Register n} {l : ℕ}

theorem lane_loaduSi {m : Memory} {start : ℕ} (h : 4 * l + 4 ≤ n) :
    (loaduSi n m start).lane l = load32 m (start + 4 * l) := by
  have hbyte : ∀ j < 4, (loaduSi n m start).byte (4 * l + j) = m (start + 4 * l + j) := by
    intro j hj
    rw [byte_of_lt (by omega), loaduSi, Nat.add_assoc]
  have hlow := hbyte 0 (by decide)
  simp only [Nat.add_zero] at hlow
  rw [lane, load32, hbyte 3 (by decide), hbyte 2 (by decide), hbyte 1 (by decide), hlow]

theorem lane_set1Epi32 {value : BitVec 32} (h : 4 * l + 4 ≤ n) :
    (set1Epi32 value : Register n).lane l = value := lane_ofLanes h

theorem lane_setzeroSi : (setzeroSi : Register n).lane l = 0 := by
  have hbyte : ∀ k, (setzeroSi : Register n).byte k = 0 := by
    intro k
    unfold Register.byte setzeroSi
    split <;> rfl
  simp only [lane, hbyte]
  rfl

theorem lane_andSi : (andSi r s).lane l = r.lane l &&& s.lane l := by
  have hbyte : ∀ k, (andSi r s).byte k = r.byte k &&& s.byte k := by
    intro k
    unfold Register.byte andSi
    split <;> simp
  simp only [lane, hbyte]
  exact (and_bytes ..).symm

theorem lane_orSi : (orSi r s).lane l = r.lane l ||| s.lane l := by
  have hbyte : ∀ k, (orSi r s).byte k = r.byte k ||| s.byte k := by
    intro k
    unfold Register.byte orSi
    split <;> simp
  simp only [lane, hbyte]
  exact (or_bytes ..).symm

theorem lane_andnotSi : (andnotSi r s).lane l = ~~~ r.lane l &&& s.lane l := by
  have hbyte : ∀ k, (andnotSi r s).byte k = ~~~ r.byte k &&& s.byte k := by
    intro k
    unfold Register.byte andnotSi
    split <;> simp
  simp only [lane, hbyte]
  exact (and_bytes ..).symm.trans (congrArg (· &&& _) (not_bytes ..).symm)

theorem lane_srliEpi32 {count : ℕ} (h : 4 * l + 4 ≤ n) :
    (srliEpi32 r count).lane l = r.lane l >>> count := lane_ofLanes h

theorem lane_slliEpi32 {count : ℕ} (h : 4 * l + 4 ≤ n) :
    (slliEpi32 r count).lane l = r.lane l <<< count := lane_ofLanes h

theorem lane_cmpeqEpi32 (h : 4 * l + 4 ≤ n) : (cmpeqEpi32 r s).lane l =
    if r.lane l = s.lane l then BitVec.allOnes 32 else 0 := lane_ofLanes h

theorem lane_select {pix repl : Register n} (h : 4 * l + 4 ≤ n) :
    (orSi (andSi (cmpeqEpi32 r s) pix) (andnotSi (cmpeqEpi32 r s) repl)).lane l =
      if r.lane l = s.lane l then pix.lane l else repl.lane l := by
  rw [lane_orSi, lane_andSi, lane_andnotSi, lane_cmpeqEpi32 h]
  split
  · rw [BitVec.allOnes_and, BitVec.not_allOnes, BitVec.zero_and, BitVec.or_zero]
  · have hnot : ~~~ (0 : BitVec 32) = BitVec.allOnes 32 := rfl
    rw [hnot, BitVec.allOnes_and, BitVec.ofNat_eq_ofNat, BitVec.zero_and, BitVec.zero_or]

theorem movemaskPs_bit (hn : n ≤ 128) :
    (movemaskPs r).getLsbD l = (decide (l < n / 4) && (r.lane l).msb) := by
  unfold movemaskPs
  rw [BitVec.getLsbD_setWidth, BitVec.getLsbD_ofBoolListLE]
  by_cases hl : l < n / 4
  · have hbelow : l < 32 := by omega
    simp [hl, hbelow]
  · simp [hl]

theorem storeuSi_eq {c : ℕ} (hn : n = 4 * c) (m : Memory) (start : ℕ) :
    storeuSi m start r = writeElements 4 m start c r.lane := by
  subst hn
  funext a
  unfold storeuSi writeElements
  split
  · rw [byteOf_lane r _ (Nat.mod_lt _ (by decide)), Nat.div_add_mod]
  · rfl

end Lanes

/-- `_mm_setr_epi8`, the lowest byte first. -/
def setrEpi8 (bytes : List (BitVec 8)) : Register 16 := fun k => bytes.getD k.val 0

/-- `_mm_loadu_si32` -/
def loaduSi32 (m : Memory) (start : ℕ) : Register 16 := fun k =>
  if k.val < 4 then m (start + k.val) else 0

/-- `_mm_loadl_epi64` -/
def loadlEpi64 (m : Memory) (start : ℕ) : Register 16 := fun k =>
  if k.val < 8 then m (start + k.val) else 0

/-- `_mm_storel_epi64` -/
def storelEpi64 (m : Memory) (start : ℕ) (r : Register 16) : Memory := fun a =>
  if start ≤ a ∧ a < start + 8 then r.byte (a - start) else m a

/-- `_mm_shuffle_epi8` -/
def shuffleEpi8 (r control : Register 16) : Register 16 := fun k =>
  if (control k).msb then 0 else r.byte ((control k).toNat % 16)

/-- `_mm_srli_si128` -/
def srliSi128 (r : Register 16) (bytes : ℕ) : Register 16 := fun k => r.byte (k.val + bytes)

/-- `_mm256_castsi128_si256`; the upper half has no defined value. -/
def castsi128Si256 (r : Register 16) : Register 32 := fun k => r.byte k.val

/-- `_mm256_inserti128_si256` -/
def inserti128Si256 (r : Register 32) (s : Register 16) (half : ℕ) : Register 32 := fun k =>
  if k.val / 16 = half then s.byte (k.val % 16) else r k

/-- A signed 32-bit value in the range of 16 unsigned bits. -/
def saturateU16 (value : BitVec 32) : BitVec 16 :=
  if value.toInt < 0 then 0 else if value.toInt > 0xFFFF then 0xFFFF else value.setWidth 16

/-- `_mm_packus_epi32` -/
def packusEpi32 (r s : Register 16) : Register 16 := fun k =>
  byteOf (saturateU16 (if k.val / 2 < 4 then r.lane (k.val / 2) else s.lane (k.val / 2 - 4)))
    (k.val % 2)

def vbslqU32 (select r s : Register 16) : Register 16 :=
  orSi (andSi select r) (andnotSi select s)

/-- `vmovn_u32` -/
def vmovnU32 (r : Register 16) : Register 8 := fun k =>
  byteOf ((r.lane (k.val / 2)).setWidth 16) (k.val % 2)

section Words

variable {l : ℕ}

theorem copies_eq_zero_iff (b : BitVec 8) : b ++ b ++ b ++ b = (0 : BitVec 32) ↔ b = 0 := by
  revert b
  decide

theorem saturateU16_of_lt {value : BitVec 32} (h : value.toNat < 2 ^ 16) :
    saturateU16 value = value.setWidth 16 := by
  have hint : value.toInt = value.toNat := BitVec.toInt_eq_toNat_of_lt (by omega)
  rw [saturateU16, if_neg (by omega), if_neg (by omega)]

theorem lane_vbslqU32 {select r s : Register 16} :
    (vbslqU32 select r s).lane l =
      select.lane l &&& r.lane l ||| ~~~ select.lane l &&& s.lane l := by
  rw [vbslqU32, lane_orSi, lane_andSi, lane_andnotSi]

theorem storeuSi_vmovnU32 (m : Memory) (start : ℕ) (r : Register 16) :
    storeuSi m start (vmovnU32 r) =
      writeElements 2 m start 4 (fun l => (r.lane l).setWidth 16) := by
  funext a
  unfold storeuSi writeElements
  split
  · rename_i ha
    rw [byte_of_lt (by omega), vmovnU32]
  · rfl

theorem storelEpi64_packusEpi32 (m : Memory) (start : ℕ) {r s : Register 16}
    (h : ∀ l < 4, (r.lane l).toNat < 2 ^ 16) :
    storelEpi64 m start (packusEpi32 r s) =
      writeElements 2 m start 4 (fun l => (r.lane l).setWidth 16) := by
  funext a
  unfold storelEpi64 writeElements
  split
  · rename_i ha
    have hl : (a - start) / 2 < 4 := by omega
    rw [byte_of_lt (by omega), packusEpi32]
    simp only [hl, ↓reduceIte]
    rw [saturateU16_of_lt (h _ hl)]
  · rfl

/-- The control vector that gives every lane four copies of its byte. -/
def shuffleMask : Register 16 := setrEpi8 [0, 0, 0, 0, 1, 1, 1, 1, 2, 2, 2, 2, 3, 3, 3, 3]

variable {r : Register 16}

theorem shuffleEpi8_shuffleMask {k : ℕ} (hk : k < 16) :
    (shuffleEpi8 r shuffleMask).byte k = r.byte (k / 4) := by
  have hcontrol : ∀ k : Fin 16, shuffleMask k = BitVec.ofNat 8 (k.val / 4) := by decide
  rw [byte_of_lt hk, shuffleEpi8, hcontrol]
  have hsign : (BitVec.ofNat 8 (k / 4)).msb = false := by
    rw [BitVec.msb_eq_false_iff_two_mul_lt, BitVec.toNat_ofNat]
    omega
  have hvalue : (BitVec.ofNat 8 (k / 4)).toNat % 16 = k / 4 := by
    rw [BitVec.toNat_ofNat]
    omega
  simp only [hsign, hvalue, Bool.false_eq_true, ↓reduceIte]

theorem lane_shuffleMask (hl : l < 4) :
    (shuffleEpi8 r shuffleMask).lane l = r.byte l ++ r.byte l ++ r.byte l ++ r.byte l := by
  have hbyte : ∀ j < 4, (shuffleEpi8 r shuffleMask).byte (4 * l + j) = r.byte l := by
    intro j hj
    rw [shuffleEpi8_shuffleMask (by omega), Nat.mul_add_div (by decide), Nat.div_eq_of_lt hj,
      Nat.add_zero]
  have hlow := hbyte 0 (by decide)
  rw [Nat.add_zero] at hlow
  rw [lane, hbyte 3 (by decide), hbyte 2 (by decide), hbyte 1 (by decide), hlow]

theorem byte_loaduSi32 {m : Memory} {start : ℕ} (hl : l < 4) :
    (loaduSi32 m start).byte l = m (start + l) := by
  rw [byte_of_lt (by omega), loaduSi32]
  exact if_pos hl

theorem byte_loadlEpi64 {m : Memory} {start : ℕ} (hl : l < 8) :
    (loadlEpi64 m start).byte l = m (start + l) := by
  rw [byte_of_lt (by omega), loadlEpi64]
  exact if_pos hl

theorem byte_srliSi128 {bytes : ℕ} (h : l + bytes < 16) :
    (srliSi128 r bytes).byte l = r.byte (l + bytes) := by
  rw [byte_of_lt (by omega), srliSi128]

/-- Two halves put together. -/
theorem lane_inserti128Si256 {s : Register 16} (hl : l < 8) :
    (inserti128Si256 (castsi128Si256 r) s 1).lane l =
      if l < 4 then r.lane l else s.lane (l - 4) := by
  have hbyte : ∀ k < 32, (inserti128Si256 (castsi128Si256 r) s 1).byte k =
      if k < 16 then r.byte k else s.byte (k - 16) := by
    intro k hk
    rw [byte_of_lt hk, inserti128Si256]
    by_cases hlow : k < 16
    · have hhalf : ¬ k / 16 = 1 := by omega
      simp only [hhalf, hlow, ↓reduceIte, castsi128Si256]
    · have hhalf : k / 16 = 1 := by omega
      have hrest : k % 16 = k - 16 := by omega
      simp only [hhalf, hlow, ↓reduceIte, hrest]
  rw [lane, hbyte _ (by omega), hbyte _ (by omega), hbyte _ (by omega), hbyte _ (by omega)]
  by_cases hlow : l < 4
  · rw [if_pos (by omega), if_pos (by omega), if_pos (by omega), if_pos (by omega), if_pos hlow]
    rfl
  · have h0 : 4 * l - 16 = 4 * (l - 4) := by omega
    have h1 : 4 * l + 1 - 16 = 4 * (l - 4) + 1 := by omega
    have h2 : 4 * l + 2 - 16 = 4 * (l - 4) + 2 := by omega
    have h3 : 4 * l + 3 - 16 = 4 * (l - 4) + 3 := by omega
    rw [if_neg (by omega), if_neg (by omega), if_neg (by omega), if_neg (by omega), if_neg hlow,
      h0, h1, h2, h3]
    rfl

end Words

end ProtoTime.VectorRegisters
