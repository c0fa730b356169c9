import ProtoTime.Host.SimdPixelOps

/-!
Every version of a pixel kernel writes the same elements: what one pass writes is computed for
the scalar loop and for each vector width, and the loops over such passes agree.
-/
namespace ProtoTime.SimdPixelOps
open BlockMemory VectorRegisters Register

section Colors

theorem packed_eq_single (p : BitVec 32) :
    (((p >>> 19 &&& 0x1F) <<< 11) ||| ((p >>> 10 &&& 0x3F) <<< 5) ||| (p >>> 3 &&& 0x1F)).setWidth
      16 = argb8888ToRgb565Single p := by
  have hred : (p >>> 16 &&& 0xFF#32) >>> 3 = p >>> 19 &&& 0x1F#32 := by
    rw [BitVec.ushiftRight_and_distrib, ← BitVec.shiftRight_add]
    rfl
  have hgreen : (p >>> 8 &&& 0xFF#32) >>> 2 = p >>> 10 &&& 0x3F#32 := by
    rw [BitVec.ushiftRight_and_distrib, ← BitVec.shiftRight_add]
    rfl
  have hblue : (p &&& 0xFF#32) >>> 3 = p >>> 3 &&& 0x1F#32 := by
    rw [BitVec.ushiftRight_and_distrib]
    rfl
  unfold argb8888ToRgb565Single
  simp only [BitVec.ofNat_eq_ofNat, hred, hgreen, hblue]

theorem packed_lt (p : BitVec 32) :
    (((p >>> 19 &&& 0x1F) <<< 11) ||| ((p >>> 10 &&& 0x3F) <<< 5) ||| (p >>> 3 &&& 0x1F)).toNat <
      2 ^ 16 := by
  have hfive : ∀ q : BitVec 32, (q &&& 0x1F).toNat ≤ 31 := fun q => by
    exact Nat.and_le_right
  have hsix : ∀ q : BitVec 32, (q &&& 0x3F).toNat ≤ 63 := fun q => by
    rw [BitVec.toNat_and]
    exact Nat.and_le_right
  have hred := hfive (p >>> 19)
  have hgreen := hsix (p >>> 10)
  have hblue := hfive (p >>> 3)
  rw [BitVec.toNat_or, BitVec.toNat_or, BitVec.toNat_shiftLeft, BitVec.toNat_shiftLeft]
  apply Nat.or_lt_two_pow
  · apply Nat.or_lt_two_pow <;> omega
  · omega

variable {n : ℕ} {pix : Register n} {l : ℕ}

theorem lane_packRgb565 (h : 4 * l + 4 ≤ n) :
    (packRgb565 pix).lane l = ((pix.lane l >>> 19 &&& 0x1F) <<< 11) |||
      ((pix.lane l >>> 10 &&& 0x3F) <<< 5) ||| (pix.lane l >>> 3 &&& 0x1F) := by
  simp only [packRgb565, lane_orSi, lane_slliEpi32 h, lane_andSi, lane_srliEpi32 h,
    lane_set1Epi32 h]

theorem rgb565_lane {m : Memory} {src : ℕ} (h : 4 * l + 4 ≤ n) :
    ((packRgb565 (loaduSi n m src)).lane l).setWidth 16 =
      argb8888ToRgb565Single (load32 m (src + 4 * l)) := by
  rw [lane_packRgb565 h, packed_eq_single, lane_loaduSi h]

end Colors

variable {l : ℕ} (build : Build)

section Convert

variable {src dst n : ℕ} {m : Memory}

def convertValue (src : ℕ) (m : Memory) (j : ℕ) : BitVec 16 :=
  argb8888ToRgb565Single (load32 m (src + 4 * j))

theorem convert_steady (h : ReadsAhead 2 dst 4 src n) :
    Steady 2 m dst n (convertValue src) := by
  intro f i j hij hj
  rw [convertValue, load32_ahead h hij hj, convertValue]

theorem convertScalar_eq (h : ReadsAhead 2 dst 4 src n) :
    convertArgb8888ToRgb565Scalar src dst n m = writeElements 2 m dst n (convertValue src m) :=
  elements_only (convert_steady h) fun _ _ => rfl

theorem packed_value {r : ℕ} (m : Memory) (src i : ℕ) (hl : 4 * l + 4 ≤ r) :
    ((packRgb565 (loaduSi r m (src + 4 * i))).lane l).setWidth 16 = convertValue src m (i + l) := by
  rw [rgb565_lane hl, convertValue, Nat.mul_add, Nat.add_assoc]

theorem convertSse2_eq (h : ReadsAhead 2 dst 4 src n) :
    convertArgb8888ToRgb565Sse2 src dst n m = writeElements 2 m dst n (convertValue src m) := by
  apply blocks_then_elements (convert_steady h) _ fun _ _ => rfl
  intro i m'
  calc _ = forRange 0 4 (fun l t => store 2 t (dst + 2 * (i * 4 + l))
          (((packRgb565 (loaduSi 16 m' (src + 4 * (i * 4)))).lane l).setWidth 16)) m' := rfl
    _ = _ := by
      rw [forRange_stores]
      exact writeElements_congr fun l hl => packed_value m' src _ (by omega)

theorem convertSse41_eq (h : ReadsAhead 2 dst 4 src n) :
    convertArgb8888ToRgb565Sse41 src dst n m = writeElements 2 m dst n (convertValue src m) := by
  apply blocks_then_elements (convert_steady h) _ fun _ _ => rfl
  intro i m'
  rw [storelEpi64_packusEpi32]
  · exact writeElements_congr fun l hl => packed_value m' src _ (by omega)
  · intro l hl
    rw [lane_packRgb565 (by omega)]
    exact packed_lt _

theorem convertAvx2_eq (h : ReadsAhead 2 dst 4 src n) :
    convertArgb8888ToRgb565Avx2 src dst n m = writeElements 2 m dst n (convertValue src m) := by
  apply blocks_then_elements (convert_steady h) _ fun _ _ => rfl
  intro i m'
  rw [forRange_stores]
  exact writeElements_congr fun l hl => packed_value m' src _ (by omega)

theorem convertScalar_shift {i : ℕ} (hi : i ≤ n) :
    convertArgb8888ToRgb565Scalar (src + 4 * i) (dst + 2 * i) (n - i) m =
      forRange i n (convertPixel src dst) m := by
  rw [← forRange_shift hi]
  apply forRange_congr (Nat.zero_le _)
  intro j t _ _
  simp only [convertPixel, Nat.mul_add, Nat.add_assoc]

theorem convertNeon_eq (h : ReadsAhead 2 dst 4 src n) :
    convertArgb8888ToRgb565Neon src dst n m = writeElements 2 m dst n (convertValue src m) := by
  dsimp only [convertArgb8888ToRgb565Neon]
  rw [whileFits_eq (by decide)]
  rw [convertScalar_shift (Nat.div_mul_le_self n 4)]
  apply blocks_then_elements (convert_steady h) _ fun _ _ => rfl
  intro i m'
  rw [storeuSi_vmovnU32]
  exact writeElements_congr fun l hl => packed_value m' src _ (by omega)

theorem convert_eq (backend : Backend) (h : ReadsAhead 2 dst 4 src n) :
    convertArgb8888ToRgb565 build backend src dst n m =
      writeElements 2 m dst n (convertValue src m) := by
  unfold convertArgb8888ToRgb565
  split
  · rename_i hzero
    rw [hzero, writeElements_zero]
  · split
    · exact convertAvx2_eq h
    · exact convertSse41_eq h
    · exact convertSse2_eq h
    · exact convertNeon_eq h
    · exact convertScalar_eq h

end Convert

section Replace

variable {src mask dst n : ℕ} {m : Memory} {repl : Memory → ℕ → BitVec 32}

/-- A pixel or, where its mask byte is set, its replacement. -/
def mergeValue (src mask : ℕ) (repl : Memory → ℕ → BitVec 32) (m : Memory) (j : ℕ) : BitVec 32 :=
  if m (mask + j) ≠ 0 then repl m j else load32 m (src + 4 * j)

theorem merge_steady (hsrc : ReadsAhead 4 dst 4 src n) (hmask : ReadsAhead 4 dst 1 mask n)
    (hrepl : Steady 4 m dst n repl) : Steady 4 m dst n (mergeValue src mask repl) := by
  intro f i j hij hj
  rw [mergeValue, byte_ahead hmask hij hj, load32_ahead hsrc hij hj, hrepl f i j hij hj, mergeValue]

theorem lane_mergeLanes {r : ℕ} {expanded pix replacement : Register r} (h : 4 * l + 4 ≤ r)
    {b : BitVec 8} (hexpanded : expanded.lane l = b ++ b ++ b ++ b) :
    (mergeLanes expanded pix replacement).lane l =
      if b ≠ 0 then replacement.lane l else pix.lane l := by
  unfold mergeLanes
  rw [lane_select h, hexpanded, lane_setzeroSi]
  by_cases hb : b = 0
  · rw [if_pos ((copies_eq_zero_iff b).mpr hb), if_neg (not_not_intro hb)]
  · rw [if_neg (mt (copies_eq_zero_iff b).mp hb), if_pos hb]

theorem lane_expandMask (hl : l < 8) :
    (expandMask (loadlEpi64 m mask)).lane l =
      m (mask + l) ++ m (mask + l) ++ m (mask + l) ++ m (mask + l) := by
  unfold expandMask
  rw [lane_inserti128Si256 hl]
  split
  · rename_i hlow
    rw [lane_shuffleMask hlow, byte_loadlEpi64 hl]
  · rename_i hhigh
    rw [lane_shuffleMask (by omega), byte_srliSi128 (by omega), byte_loadlEpi64 (by omega)]
    have hplace : l - 4 + 4 = l := by omega
    rw [hplace]

theorem lane_vbsl {b : BitVec 8} {select r s : Register 16}
    (hselect : select.lane l = if b ≠ 0 then ~~~ 0 else 0) :
    (vbslqU32 select r s).lane l = if b ≠ 0 then r.lane l else s.lane l := by
  rw [lane_vbslqU32, hselect]
  split
  · have hones : ~~~ (0 : BitVec 32) = BitVec.allOnes 32 := rfl
    rw [hones, BitVec.allOnes_and, BitVec.not_allOnes, BitVec.zero_and, BitVec.or_zero]
  · have hones : ~~~ (0 : BitVec 32) = BitVec.allOnes 32 := rfl
    rw [hones, BitVec.allOnes_and, BitVec.ofNat_eq_ofNat, BitVec.zero_and, BitVec.zero_or]

theorem block_ssse3 (m : Memory) (src mask dst i : ℕ) {replacement : Register 16}
    (h : ∀ l < 4, replacement.lane l = repl m (i + l)) :
    storeuSi m dst (mergeLanes (shuffleEpi8 (loaduSi32 m (mask + i)) shuffleMask)
        (loaduSi 16 m (src + 4 * i)) replacement) =
      writeElements 4 m dst 4 (fun l => mergeValue src mask repl m (i + l)) := by
  rw [storeuSi_eq (by decide : 16 = 4 * 4)]
  apply writeElements_congr
  intro l hl
  have hexpanded : (shuffleEpi8 (loaduSi32 m (mask + i)) shuffleMask).lane l =
      m (mask + (i + l)) ++ m (mask + (i + l)) ++ m (mask + (i + l)) ++ m (mask + (i + l)) := by
    rw [lane_shuffleMask hl, byte_loaduSi32 hl, Nat.add_assoc mask]
  rw [lane_mergeLanes (by omega) hexpanded, h l hl, lane_loaduSi (by omega), mergeValue,
    Nat.mul_add, Nat.add_assoc]

theorem block_avx2 (m : Memory) (src mask dst i : ℕ) {replacement : Register 32}
    (h : ∀ l < 8, replacement.lane l = repl m (i + l)) :
    storeuSi m dst (mergeLanes (expandMask (loadlEpi64 m (mask + i)))
        (loaduSi 32 m (src + 4 * i)) replacement) =
      writeElements 4 m dst 8 (fun l => mergeValue src mask repl m (i + l)) := by
  rw [storeuSi_eq (by decide : 32 = 4 * 8)]
  apply writeElements_congr
  intro l hl
  have hexpanded : (expandMask (loadlEpi64 m (mask + i))).lane l =
      m (mask + (i + l)) ++ m (mask + (i + l)) ++ m (mask + (i + l)) ++ m (mask + (i + l)) := by
    rw [lane_expandMask hl, Nat.add_assoc mask]
  rw [lane_mergeLanes (by omega) hexpanded, h l hl, lane_loaduSi (by omega), mergeValue,
    Nat.mul_add, Nat.add_assoc]

theorem block_neon (m : Memory) (src mask dst i : ℕ) {replacement : Register 16}
    (h : ∀ l < 4, replacement.lane l = repl m (i + l)) :
    storeuSi m dst (vbslqU32 (maskLanes m mask i) replacement (loaduSi 16 m (src + 4 * i))) =
      writeElements 4 m dst 4 (fun l => mergeValue src mask repl m (i + l)) := by
  rw [storeuSi_eq (by decide : 16 = 4 * 4)]
  apply writeElements_congr
  intro l hl
  have hselect : (maskLanes m mask i).lane l = if m (mask + (i + l)) ≠ 0 then ~~~ 0 else 0 :=
    lane_ofLanes (by omega)
  rw [lane_vbsl hselect, h l hl, lane_loaduSi (by omega), mergeValue, Nat.mul_add, Nat.add_assoc]

/-- Where the color of every masked pixel is the same. -/
abbrev colorValue (src mask : ℕ) (color : BitVec 32) : Memory → ℕ → BitVec 32 :=
  mergeValue src mask fun _ _ => color

abbrev maskValue (src mask replacements : ℕ) : Memory → ℕ → BitVec 32 :=
  mergeValue src mask fun m j => load32 m (replacements + 4 * j)

variable {color : BitVec 32} {replacements : ℕ}

section Color

theorem color_steady (hsrc : ReadsAhead 4 dst 4 src n) (hmask : ReadsAhead 4 dst 1 mask n) :
    Steady 4 m dst n (colorValue src mask color) :=
  merge_steady hsrc hmask fun _ _ _ _ _ => rfl

variable (hsrc : ReadsAhead 4 dst 4 src n) (hmask : ReadsAhead 4 dst 1 mask n)
include hsrc hmask

theorem replaceScalar_eq : replacePixelsScalar src mask dst color n m =
    writeElements 4 m dst n (colorValue src mask color m) := by
  apply elements_only (color_steady hsrc hmask)
  intro i m'
  unfold colorValue mergeValue
  split <;> rfl

theorem replaceSsse3_eq : replacePixelsSsse3 src mask dst color n m =
    writeElements 4 m dst n (colorValue src mask color m) := by
  apply blocks_then_elements (color_steady hsrc hmask) _ fun _ _ => rfl
  intro i m'
  exact block_ssse3 m' src mask _ _ fun l hl => lane_set1Epi32 (by omega)

theorem replaceAvx2_eq : replacePixelsAvx2 src mask dst color n m =
    writeElements 4 m dst n (colorValue src mask color m) := by
  apply blocks_then_elements (color_steady hsrc hmask) _ fun _ _ => rfl
  intro i m'
  exact block_avx2 m' src mask _ _ fun l hl => lane_set1Epi32 (by omega)

omit hsrc hmask in
theorem replaceScalar_shift {i : ℕ} (hi : i ≤ n) :
    replacePixelsScalar (src + 4 * i) (mask + i) (dst + 4 * i) color (n - i) m =
      forRange i n (replacePixel src mask dst color) m := by
  rw [← forRange_shift hi]
  apply forRange_congr (Nat.zero_le _)
  intro j t _ _
  simp only [replacePixel, Nat.mul_add, Nat.add_assoc]
  split <;> rfl

theorem replaceNeon_eq : replacePixelsNeon src mask dst color n m =
    writeElements 4 m dst n (colorValue src mask color m) := by
  dsimp only [replacePixelsNeon]
  rw [whileFits_eq (by decide)]
  rw [replaceScalar_shift (Nat.div_mul_le_self n 4)]
  apply blocks_then_elements (color_steady hsrc hmask) _ fun _ _ => rfl
  intro i m'
  exact block_neon m' src mask _ _ fun l hl => lane_set1Epi32 (by omega)

theorem replace_eq (backend : Backend) :
    replacePixelsWithColor build backend src mask dst color n m =
      writeElements 4 m dst n (colorValue src mask color m) := by
  unfold replacePixelsWithColor
  split
  · rename_i hzero
    rw [hzero, writeElements_zero]
  · split
    · exact replaceAvx2_eq hsrc hmask
    · exact replaceSsse3_eq hsrc hmask
    · exact replaceNeon_eq hsrc hmask
    · exact replaceScalar_eq hsrc hmask

end Color

section Masked

theorem mask_steady (hsrc : ReadsAhead 4 dst 4 src n) (hmask : ReadsAhead 4 dst 1 mask n)
    (hrepl : ReadsAhead 4 dst 4 replacements n) :
    Steady 4 m dst n (maskValue src mask replacements) :=
  merge_steady hsrc hmask fun _ _ _ hij hj => load32_ahead hrepl hij hj

theorem replacement_lane {r : ℕ} (m : Memory) (i : ℕ) (hl : 4 * l + 4 ≤ r) :
    (loaduSi r m (replacements + 4 * i)).lane l = load32 m (replacements + 4 * (i + l)) := by
  rw [lane_loaduSi hl, Nat.mul_add, Nat.add_assoc]

variable (hsrc : ReadsAhead 4 dst 4 src n) (hmask : ReadsAhead 4 dst 1 mask n)
  (hrepl : ReadsAhead 4 dst 4 replacements n)
include hsrc hmask hrepl

theorem maskScalar_eq : replacePixelsMaskScalar src mask replacements dst n m =
    writeElements 4 m dst n (maskValue src mask replacements m) :=
  elements_only (mask_steady hsrc hmask hrepl) fun _ _ => rfl

theorem maskSsse3_eq : replacePixelsMaskSsse3 src mask replacements dst n m =
    writeElements 4 m dst n (maskValue src mask replacements m) := by
  apply blocks_then_elements (mask_steady hsrc hmask hrepl) _ fun _ _ => rfl
  intro i m'
  exact block_ssse3 m' src mask _ _ fun l hl => replacement_lane m' _ (by omega)

theorem maskAvx2_eq : replacePixelsMaskAvx2 src mask replacements dst n m =
    writeElements 4 m dst n (maskValue src mask replacements m) := by
  apply blocks_then_elements (mask_steady hsrc hmask hrepl) _ fun _ _ => rfl
  intro i m'
  exact block_avx2 m' src mask _ _ fun l hl => replacement_lane m' _ (by omega)

omit hsrc hmask hrepl in
theorem maskScalar_shift {i : ℕ} (hi : i ≤ n) :
    replacePixelsMaskScalar (src + 4 * i) (mask + i) (replacements + 4 * i) (dst + 4 * i) (n - i)
        m = forRange i n (replaceMaskPixel src mask replacements dst) m := by
  rw [← forRange_shift hi]
  apply forRange_congr (Nat.zero_le _)
  intro j t _ _
  simp only [replaceMaskPixel, Nat.mul_add, Nat.add_assoc]

theorem maskNeon_eq : replacePixelsMaskNeon src mask replacements dst n m =
    writeElements 4 m dst n (maskValue src mask replacements m) := by
  dsimp only [replacePixelsMaskNeon]
  rw [whileFits_eq (by decide)]
  rw [maskScalar_shift (Nat.div_mul_le_self n 4)]
  apply blocks_then_elements (mask_steady hsrc hmask hrepl) _ fun _ _ => rfl
  intro i m'
  exact block_neon m' src mask _ _ fun l hl => replacement_lane m' _ (by omega)

theorem mask_eq (backend : Backend) :
    replacePixelsWithMask build backend src mask replacements dst n m =
      writeElements 4 m dst n (maskValue src mask replacements m) := by
  unfold replacePixelsWithMask
  split
  · rename_i hzero
    rw [hzero, writeElements_zero]
  · split
    · exact maskAvx2_eq hsrc hmask hrepl
    · exact maskSsse3_eq hsrc hmask hrepl
    · exact maskNeon_eq hsrc hmask hrepl
    · exact maskScalar_eq hsrc hmask hrepl

end Masked

end Replace

section Fill

variable {dst n : ℕ} {color : BitVec 32} {m : Memory}

theorem fill_steady : Steady 4 m dst n (fun _ _ => color) := fun _ _ _ _ _ => rfl

theorem fillScalar_eq :
    fillPixelsScalar dst color n m = writeElements 4 m dst n (fun _ => color) :=
  elements_only fill_steady fun _ _ => rfl

theorem block_fill {r c : ℕ} (hr : r = 4 * c) (m : Memory) (dst : ℕ) :
    storeuSi m dst (set1Epi32 color : Register r) = writeElements 4 m dst c (fun _ => color) := by
  rw [storeuSi_eq hr]
  exact writeElements_congr fun l hl => lane_set1Epi32 (by omega)

theorem fillSse2_eq :
    fillPixelsSse2 dst color n m = writeElements 4 m dst n (fun _ => color) := by
  apply blocks_then_elements fill_steady _ fun _ _ => rfl
  intro i m'
  exact block_fill (by decide : 16 = 4 * 4) m' _

theorem fillAvx2_eq :
    fillPixelsAvx2 dst color n m = writeElements 4 m dst n (fun _ => color) := by
  apply blocks_then_elements fill_steady _ fun _ _ => rfl
  intro i m'
  exact block_fill (by decide : 32 = 4 * 8) m' _

theorem fillScalar_shift {i : ℕ} (hi : i ≤ n) :
    fillPixelsScalar (dst + 4 * i) color (n - i) m = forRange i n (fillPixel dst color) m := by
  rw [← forRange_shift hi]
  apply forRange_congr (Nat.zero_le _)
  intro j t _ _
  simp only [fillPixel, Nat.mul_add, Nat.add_assoc]

theorem fillNeon_eq :
    fillPixelsNeon dst color n m = writeElements 4 m dst n (fun _ => color) := by
  dsimp only [fillPixelsNeon]
  rw [whileFits_eq (by decide)]
  rw [fillScalar_shift (Nat.div_mul_le_self n 4)]
  apply blocks_then_elements fill_steady _ fun _ _ => rfl
  intro i m'
  exact block_fill (by decide : 16 = 4 * 4) m' _

theorem fill_eq (backend : Backend) :
    fillPixels build backend dst color n m = writeElements 4 m dst n (fun _ => color) := by
  unfold fillPixels
  split
  · rename_i hzero
    rw [hzero, writeElements_zero]
  · split
    · exact fillAvx2_eq
    · exact fillSse2_eq
    · exact fillSse2_eq
    · exact fillNeon_eq
    · exact fillScalar_eq

end Fill

section Count

variable {m : Memory} {a b n : ℕ}

theorem equal_bit {r : ℕ} {va vb : Register r} {lanes : BitVec 32} (hr : r ≤ 128)
    (hl : 4 * l + 4 ≤ r) (hlane : lanes.getLsbD l = true) :
    ((movemaskPs (cmpeqEpi32 va vb) &&& lanes) >>> l) &&& 1#32 =
      if va.lane l = vb.lane l then 1 else 0 := by
  have hbelow : l < r / 4 := by omega
  rw [BitVec.and_one_eq_setWidth_ofBool_getLsbD, BitVec.getLsbD_ushiftRight,
    Nat.add_zero, BitVec.getLsbD_and, movemaskPs_bit hr, hlane, lane_cmpeqEpi32 hl]
  by_cases heq : va.lane l = vb.lane l
  · simp only [heq, ↓reduceIte, hbelow]
    rfl
  · simp only [heq, ↓reduceIte, hbelow]
    rfl

def equalPixel (m : Memory) (a b i : ℕ) : ℕ :=
  if load32 m (a + 4 * i) = load32 m (b + 4 * i) then 1 else 0

theorem count_block (k w d : ℕ) :
    d + (w - forRange 0 w (fun l c => c + equalPixel m a b (k + l)) 0) =
      forRange k (k + w) (countPixel m a b) d := by
  have hrun : forRange 0 w (fun l c => c + equalPixel m a b (k + l)) 0 ≤ w ∧
      d + (w - forRange 0 w (fun l c => c + equalPixel m a b (k + l)) 0) =
        forRange k (k + w) (countPixel m a b) d := by
    apply forRange_run (P := fun l c => c ≤ l ∧
      d + (l - c) = forRange k (k + l) (countPixel m a b) d) (Nat.zero_le w)
    · simp
    · rintro l c _ _ ⟨hle, hcount⟩
      rw [← Nat.add_assoc, forRange_succ (Nat.le_add_right k l), ← hcount]
      unfold equalPixel countPixel
      split
      · rename_i heq
        rw [if_neg (not_not_intro heq)]
        omega
      · omega
  exact hrun.2

theorem countScalar_eq : countDifferentPixelsScalar m a b n 0 =
    (List.range n).countP fun i => load32 m (a + 4 * i) ≠ load32 m (b + 4 * i) := by
  apply forRange_run (P := fun i d => d =
    (List.range i).countP fun i => load32 m (a + 4 * i) ≠ load32 m (b + 4 * i)) (Nat.zero_le n)
  · rfl
  · rintro i d _ _ rfl
    rw [List.range_succ, List.countP_append, List.countP_singleton]
    unfold countPixel
    simp only [decide_eq_true_eq]
    split <;> rfl

theorem equal_lane {r : ℕ} (hr : r ≤ 128) (hl : 4 * l + 4 ≤ r) {lanes : BitVec 32}
    (hlane : lanes.getLsbD l = true) (k : ℕ) :
    (((movemaskPs (cmpeqEpi32 (loaduSi r m (a + 4 * k)) (loaduSi r m (b + 4 * k))) &&& lanes) >>> l)
      &&& 1#32) = BitVec.ofNat 32 (equalPixel m a b (k + l)) := by
  rw [equal_bit hr hl hlane, lane_loaduSi hl, lane_loaduSi hl, equalPixel, Nat.mul_add,
    ← Nat.add_assoc, ← Nat.add_assoc]
  split <;> rfl

theorem equalPixel_le (i : ℕ) : equalPixel m a b i ≤ 1 := by
  unfold equalPixel
  split <;> decide

theorem countSse2_eq (d : ℕ) :
    countDifferentPixelsSse2 m a b n d = countDifferentPixelsScalar m a b n d := by
  unfold countDifferentPixelsSse2 countDifferentPixelsScalar
  dsimp only
  rw [← forRange_append (Nat.zero_le _) (Nat.div_mul_le_self n 4)]
  congr 1
  apply forRange_blocks
  intro i d
  rw [Nat.succ_mul i, ← count_block]
  have hbit := fun l (hl : l < 4) (hlane : (0x0F : BitVec 32).getLsbD l = true) =>
    equal_lane (m := m) (a := a) (b := b) (by decide : 16 ≤ 128) (by omega : 4 * l + 4 ≤ 16) hlane
      (i * 4)
  have hfirst := hbit 0 (by decide) (by decide)
  rw [BitVec.ushiftRight_zero] at hfirst
  rw [hfirst, hbit 1 (by decide) (by decide), hbit 2 (by decide) (by decide),
    hbit 3 (by decide) (by decide)]
  have h0 := equalPixel_le (m := m) (a := a) (b := b) (i * 4 + 0)
  have h1 := equalPixel_le (m := m) (a := a) (b := b) (i * 4 + 1)
  have h2 := equalPixel_le (m := m) (a := a) (b := b) (i * 4 + 2)
  have h3 := equalPixel_le (m := m) (a := a) (b := b) (i * 4 + 3)
  have hsum : forRange 0 4 (fun l c => c + equalPixel m a b (i * 4 + l)) 0 =
      0 + equalPixel m a b (i * 4 + 0) + equalPixel m a b (i * 4 + 1) +
        equalPixel m a b (i * 4 + 2) + equalPixel m a b (i * 4 + 3) := rfl
  rw [hsum]
  simp only [BitVec.toNat_add, BitVec.toNat_ofNat]
  omega

theorem countAvx2_eq (d : ℕ) :
    countDifferentPixelsAvx2 m a b n d = countDifferentPixelsScalar m a b n d := by
  unfold countDifferentPixelsAvx2 countDifferentPixelsScalar
  dsimp only
  rw [← forRange_append (Nat.zero_le _) (Nat.div_mul_le_self n 8)]
  congr 1
  apply forRange_blocks
  intro i d
  rw [Nat.succ_mul i, ← count_block]
  congr 2
  apply forRange_congr (Nat.zero_le 8)
  intro l c _ hl
  have hlane : (0xFF : BitVec 32).getLsbD l = true := by
    revert hl l
    decide
  rw [equal_lane (by decide) (by omega) hlane, BitVec.toNat_ofNat]
  have hle := equalPixel_le (m := m) (a := a) (b := b) (i * 8 + l)
  omega

theorem count_eq (backend : Backend) :
    countDifferentPixels build backend a b n m = countDifferentPixelsScalar m a b n 0 := by
  unfold countDifferentPixels
  split
  · rename_i hzero
    rw [hzero]
    rfl
  · split
    · exact countAvx2_eq 0
    · exact countSse2_eq 0
    · exact countSse2_eq 0
    · rfl

end Count

end ProtoTime.SimdPixelOps
