import Mathlib.Data.Nat.Notation
import Mathlib.Data.List.Range
import Mathlib.Tactic.Common
import Mathlib.Algebra.Group.Nat.Defs

/-!
Counting loops over a byte-addressed memory. Elements of a fixed number of bytes are written one
after the other, several of them in a pass; as long as no pass overwrites what a later one
reads, the number of elements in a pass makes no difference.
-/
namespace ProtoTime.BlockMemory

section Loops

variable {σ : Type}

/-- The passes `first`, …, `stop - 1` in their order. -/
def forRange (first stop : ℕ) (body : ℕ → σ → σ) (s : σ) : σ :=
  (List.range' first (stop - first)).foldl (fun s i => body i s) s

variable {body : ℕ → σ → σ} {first stop : ℕ}

@[simp] theorem forRange_self (n : ℕ) (s : σ) : forRange n n body s = s := by
  simp [forRange]

theorem forRange_succ (h : first ≤ stop) (s : σ) :
    forRange first (stop + 1) body s = body stop (forRange first stop body s) := by
  have hlength : stop + 1 - first = stop - first + 1 := by omega
  have hlast : first + (stop - first) = stop := by omega
  simp only [forRange, hlength, List.range'_1_concat, List.foldl_append, List.foldl_cons,
    List.foldl_nil, hlast]

theorem forRange_run {P : ℕ → σ → Prop} (hle : first ≤ stop) {s : σ} (start : P first s)
    (step : ∀ i s, first ≤ i → i < stop → P i s → P (i + 1) (body i s)) :
    P stop (forRange first stop body s) := by
  induction stop, hle using Nat.le_induction with
  | base => simpa using start
  | succ stop hle ih =>
    rw [forRange_succ hle]
    apply step _ _ hle (Nat.lt_succ_self stop)
    exact ih fun i s hfirst hstop => step i s hfirst (Nat.lt_succ_of_lt hstop)

theorem forRange_congr {other : ℕ → σ → σ} (hle : first ≤ stop)
    (h : ∀ i s, first ≤ i → i < stop → body i s = other i s) (s : σ) :
    forRange first stop body s = forRange first stop other s := by
  induction stop, hle using Nat.le_induction with
  | base => simp
  | succ stop hle ih =>
    rw [forRange_succ hle, forRange_succ hle, h _ _ hle (Nat.lt_succ_self stop),
      ih fun i s hfirst hstop => h i s hfirst (Nat.lt_succ_of_lt hstop)]

theorem forRange_append {middle : ℕ} (hfirst : first ≤ middle) (hstop : middle ≤ stop) (s : σ) :
    forRange middle stop body (forRange first middle body s) = forRange first stop body s := by
  induction stop, hstop using Nat.le_induction with
  | base => simp
  | succ stop hstop ih =>
    rw [forRange_succ hstop, forRange_succ (Nat.le_trans hfirst hstop), ih]

theorem forRange_first (h : first < stop) (s : σ) :
    forRange first stop body s = forRange (first + 1) stop body (body first s) := by
  rw [← forRange_append (Nat.le_succ first) h, forRange_succ (Nat.le_refl first), forRange_self]

theorem forRange_shift {k : ℕ} (h : k ≤ stop) (s : σ) :
    forRange 0 (stop - k) (fun i => body (k + i)) s = forRange k stop body s := by
  induction stop, h using Nat.le_induction with
  | base => simp
  | succ stop h ih =>
    have hlength : stop + 1 - k = stop - k + 1 := by omega
    have hlast : k + (stop - k) = stop := by omega
    rw [hlength, forRange_succ (Nat.zero_le _), forRange_succ h, ih, hlast]

theorem forRange_blocks {w n : ℕ} {block : ℕ → σ → σ}
    (h : ∀ i s, block i s = forRange (i * w) ((i + 1) * w) body s) (s : σ) :
    forRange 0 n block s = forRange 0 (n * w) body s := by
  apply forRange_run (P := fun i t => t = forRange 0 (i * w) body s) (Nat.zero_le n)
  · simp
  · rintro i t _ hi rfl
    rw [h i, forRange_append (Nat.zero_le _) (Nat.mul_le_mul_right w (Nat.le_succ i))]

/-- The passes `i`, `i + w`, … as long as `w` more fit below `n`, and where they stop. -/
def whileFits (w n : ℕ) (body : ℕ → σ → σ) (i : ℕ) (s : σ) : ℕ × σ :=
  if 0 < w ∧ i + w ≤ n then whileFits w n body (i + w) (body i s) else (i, s)
termination_by n - i

theorem whileFits_from {w n : ℕ} (hw : 0 < w) (s : σ) {k : ℕ} (hk : k ≤ n / w) :
    whileFits w n body (k * w) s =
      (n / w * w, forRange k (n / w) (fun i => body (i * w)) s) := by
  have hbelow : n / w * w ≤ n := Nat.div_mul_le_self n w
  have hnext : n < n / w * w + w := Nat.lt_div_mul_add hw
  induction hd : n / w - k generalizing k s with
  | zero =>
    have hlast : k = n / w := by omega
    subst hlast
    rw [whileFits, if_neg (by omega), forRange_self]
  | succ d ih =>
    have hlt : k < n / w := by omega
    have hfits : (k + 1) * w ≤ n := Nat.le_trans (Nat.mul_le_mul_right w hlt) hbelow
    rw [whileFits, if_pos ⟨hw, by rwa [← Nat.succ_mul]⟩, ← Nat.succ_mul,
      ih _ hlt (by omega), forRange_first hlt]

theorem whileFits_eq {w : ℕ} (hw : 0 < w) (n : ℕ) (s : σ) :
    whileFits w n body 0 s =
      (n / w * w, forRange 0 (n / w) (fun i => body (i * w)) s) := by
  simpa only [Nat.zero_mul] using whileFits_from hw s (Nat.zero_le (n / w))

end Loops

abbrev Memory := ℕ → BitVec 8

/-- The little-endian bytes of a value. -/
def byteOf {w : ℕ} (value : BitVec w) (k : ℕ) : BitVec 8 := value.extractLsb' (8 * k) 8

def load16 (m : Memory) (start : ℕ) : BitVec 16 := m (start + 1) ++ m start

def load32 (m : Memory) (start : ℕ) : BitVec 32 :=
  m (start + 3) ++ m (start + 2) ++ m (start + 1) ++ m start

/-- The `e` low bytes of a value at their place. -/
def store {w : ℕ} (e : ℕ) (m : Memory) (start : ℕ) (value : BitVec w) : Memory := fun a =>
  if start ≤ a ∧ a < start + e then byteOf value (a - start) else m a

def writeElements {w : ℕ} (e : ℕ) (m : Memory) (start count : ℕ) (f : ℕ → BitVec w) : Memory :=
  fun a => if start ≤ a ∧ a < start + e * count
    then byteOf (f ((a - start) / e)) ((a - start) % e) else m a

section Elements

variable {w e : ℕ} {m : Memory} {start count : ℕ} {f g : ℕ → BitVec w}

@[simp] theorem writeElements_zero : writeElements e m start 0 f = m := by
  funext a
  rw [writeElements, if_neg (by omega)]

theorem writeElements_outside {a : ℕ} (h : a < start ∨ start + e * count ≤ a) :
    writeElements e m start count f a = m a := by
  rw [writeElements, if_neg (by omega)]

theorem writeElements_congr (h : ∀ k < count, f k = g k) :
    writeElements e m start count f = writeElements e m start count g := by
  funext a
  unfold writeElements
  split
  · rename_i ha
    rw [h _ (Nat.div_lt_of_lt_mul (by omega))]
  · rfl

theorem writeElements_element {k j : ℕ} (hk : k < count) (hj : j < e) :
    writeElements e m start count f (start + e * k + j) = byteOf (f k) j := by
  have hbelow : e * k + e ≤ e * count := by
    exact Nat.mul_le_mul_left e hk
  have hplace : start + e * k + j - start = e * k + j := by omega
  rw [writeElements, if_pos (by omega), hplace, Nat.mul_add_div (by omega), Nat.div_eq_of_lt hj,
    Nat.mul_add_mod, Nat.mod_eq_of_lt hj, Nat.add_zero]

/-- Elements written after those before them. -/
theorem writeElements_append (i j : ℕ) :
    writeElements e (writeElements e m start i f) (start + e * i) j (fun k => f (i + k)) =
      writeElements e m start (i + j) f := by
  funext a
  by_cases hbefore : a < start + e * i
  · rw [writeElements_outside (Or.inl hbefore)]
    have hsum : e * (i + j) = e * i + e * j := Nat.mul_add e i j
    unfold writeElements
    by_cases hstart : start ≤ a
    · rw [if_pos ⟨hstart, hbefore⟩, if_pos ⟨hstart, by omega⟩]
    · rw [if_neg (by omega), if_neg (by omega)]
  · have hsum : e * (i + j) = e * i + e * j := Nat.mul_add e i j
    by_cases hinside : a < start + e * (i + j)
    · have hpos : 0 < e := by
        rcases Nat.eq_zero_or_pos e with rfl | h
        · omega
        · exact h
      obtain ⟨d, rfl⟩ : ∃ d, a = start + e * i + d := ⟨a - (start + e * i), by omega⟩
      have hinner : start + e * i + d - (start + e * i) = d := by omega
      have houter : start + e * i + d - start = e * i + d := by omega
      rw [writeElements, if_pos (by omega), writeElements, if_pos (by omega), hinner, houter,
        Nat.mul_add_div hpos, Nat.mul_add_mod]
    · rw [writeElements_outside (by omega), writeElements_outside (by omega),
        writeElements_outside (by omega)]

theorem store_eq (m : Memory) (start : ℕ) (value : BitVec w) :
    store e m start value = writeElements e m start 1 (fun _ => value) := by
  funext a
  unfold store writeElements
  rw [Nat.mul_one]
  split
  · rename_i ha
    rw [Nat.mod_eq_of_lt (by omega)]
  · rfl

theorem store_writeElements (i : ℕ) :
    store e (writeElements e m start i f) (start + e * i) (f i) =
      writeElements e m start (i + 1) f := by
  rw [store_eq, ← writeElements_append i 1]
  apply writeElements_congr
  intro k hk
  rw [Nat.lt_one_iff.mp hk, Nat.add_zero]

theorem forRange_stores (m : Memory) (start k count : ℕ) (f : ℕ → BitVec w) :
    forRange 0 count (fun l m => store e m (start + e * (k + l)) (f l)) m =
      writeElements e m (start + e * k) count f := by
  apply forRange_run (P := fun l m' => m' = writeElements e m (start + e * k) l f)
    (Nat.zero_le count)
  · exact writeElements_zero.symm
  · rintro l m' _ _ rfl
    rw [Nat.mul_add, ← Nat.add_assoc, store_writeElements]

/-- Elements written before pass `j` leave what it computes as it was. -/
def Steady (e : ℕ) (m : Memory) (start count : ℕ) (value : Memory → ℕ → BitVec w) : Prop :=
  ∀ f i j, i ≤ j → j < count → value (writeElements e m start i (f : ℕ → BitVec w)) j = value m j

variable {value : Memory → ℕ → BitVec w} {width first stop : ℕ} {body : ℕ → Memory → Memory}

theorem forRange_elements (steady : Steady e m start count value) (hle : first ≤ stop)
    (hfit : stop * width ≤ count)
    (hbody : ∀ i m', body i m' = writeElements e m' (start + e * (i * width)) width
      (fun l => value m' (i * width + l))) :
    forRange first stop body (writeElements e m start (first * width) (value m)) =
      writeElements e m start (stop * width) (value m) := by
  apply forRange_run (P := fun i m' => m' = writeElements e m start (i * width) (value m)) hle
  · rfl
  · rintro i m' _ hi rfl
    have hblock : i * width + width ≤ stop * width := by
      rw [← Nat.succ_mul]
      exact Nat.mul_le_mul_right width hi
    have hvalues : ∀ l < width,
        value (writeElements e m start (i * width) (value m)) (i * width + l) =
          value m (i * width + l) :=
      fun l hl => steady _ _ _ (by omega) (by omega)
    rw [hbody, writeElements_congr hvalues, writeElements_append, Nat.succ_mul]

variable {single : ℕ → Memory → Memory}

theorem forRange_singles (steady : Steady e m start count value) (hle : first ≤ count)
    (hsingle : ∀ i m', single i m' = store e m' (start + e * i) (value m' i)) :
    forRange first count single (writeElements e m start first (value m)) =
      writeElements e m start count (value m) := by
  have hone : ∀ i m', single i m' = writeElements e m' (start + e * (i * 1)) 1
      (fun l => value m' (i * 1 + l)) := by
    intro i m'
    rw [hsingle, store_eq, Nat.mul_one]
    apply writeElements_congr
    intro k hk
    rw [Nat.lt_one_iff.mp hk, Nat.add_zero]
  simpa only [Nat.mul_one] using forRange_elements steady hle (Nat.mul_one count).le hone

theorem elements_only (steady : Steady e m start count value)
    (hsingle : ∀ i m', single i m' = store e m' (start + e * i) (value m' i)) :
    forRange 0 count single m = writeElements e m start count (value m) := by
  have hrun := forRange_singles steady (Nat.zero_le count) hsingle
  rwa [writeElements_zero] at hrun

theorem blocks_then_elements (steady : Steady e m start count value)
    (hbody : ∀ i m', body i m' = writeElements e m' (start + e * (i * width)) width
      (fun l => value m' (i * width + l)))
    (hsingle : ∀ i m', single i m' = store e m' (start + e * i) (value m' i)) :
    forRange (count / width * width) count single (forRange 0 (count / width) body m) =
      writeElements e m start count (value m) := by
  have hbelow : count / width * width ≤ count := Nat.div_mul_le_self count width
  have hblocks := forRange_elements steady (Nat.zero_le _) hbelow hbody
  rw [Nat.zero_mul, writeElements_zero] at hblocks
  rw [hblocks]
  exact forRange_singles steady hbelow hsingle

end Elements

theorem bytes_of_16 (value : BitVec 16) : byteOf value 1 ++ byteOf value 0 = value := by
  apply BitVec.eq_of_toNat_eq
  simp only [byteOf, BitVec.toNat_append, BitVec.extractLsb'_toNat]
  rw [← Nat.shiftLeft_add_eq_or_of_lt (Nat.mod_lt _ (by decide)), Nat.shiftLeft_eq]
  omega

theorem bytes_of_32 (value : BitVec 32) :
    byteOf value 3 ++ byteOf value 2 ++ byteOf value 1 ++ byteOf value 0 = value := by
  apply BitVec.eq_of_toNat_eq
  simp only [byteOf, BitVec.toNat_append, BitVec.extractLsb'_toNat]
  repeat rw [← Nat.shiftLeft_add_eq_or_of_lt (Nat.mod_lt _ (by decide)), Nat.shiftLeft_eq]
  omega

theorem byteOf_joined (a b c d : BitVec 8) :
    byteOf (a ++ b ++ c ++ d) 0 = d ∧ byteOf (a ++ b ++ c ++ d) 1 = c ∧
      byteOf (a ++ b ++ c ++ d) 2 = b ∧ byteOf (a ++ b ++ c ++ d) 3 = a := by
  have hb := b.isLt
  have hc := c.isLt
  have hd := d.isLt
  have hwhole : (a ++ b ++ c ++ d).toNat =
      ((a.toNat * 256 + b.toNat) * 256 + c.toNat) * 256 + d.toNat := by
    simp only [BitVec.toNat_append]
    rw [← Nat.shiftLeft_add_eq_or_of_lt hd, ← Nat.shiftLeft_add_eq_or_of_lt hc,
      ← Nat.shiftLeft_add_eq_or_of_lt hb]
    simp only [Nat.shiftLeft_eq]
  simp only [← BitVec.toNat_inj, byteOf, BitVec.extractLsb'_toNat, hwhole,
    Nat.shiftRight_eq_div_pow]
  omega

variable {m : Memory}

theorem load16_writeElements {start count k : ℕ} {f : ℕ → BitVec 16}
    (hk : k < count) : load16 (writeElements 2 m start count f) (start + 2 * k) = f k := by
  have hbyte : ∀ j < 2, writeElements 2 m start count f (start + 2 * k + j) = byteOf (f k) j :=
    fun j hj => writeElements_element hk hj
  have hlow := hbyte 0 (by decide)
  rw [Nat.add_zero] at hlow
  rw [load16, hbyte 1 (by decide), hlow, bytes_of_16]

theorem load32_writeElements {start count k : ℕ} {f : ℕ → BitVec 32}
    (hk : k < count) : load32 (writeElements 4 m start count f) (start + 4 * k) = f k := by
  have hbyte : ∀ j < 4, writeElements 4 m start count f (start + 4 * k + j) = byteOf (f k) j :=
    fun j hj => writeElements_element hk hj
  have hlow := hbyte 0 (by decide)
  rw [Nat.add_zero] at hlow
  rw [load32, hbyte 3 (by decide), hbyte 2 (by decide), hbyte 1 (by decide), hlow, bytes_of_32]

theorem load16_store (m : Memory) (start : ℕ) (value : BitVec 16) :
    load16 (store 2 m start value) start = value := by
  have hwrite : load16 (writeElements 2 m start 1 fun _ => value) (start + 2 * 0) = value :=
    load16_writeElements Nat.one_pos
  rwa [Nat.mul_zero, Nat.add_zero, ← store_eq] at hwrite

theorem store_outside {w e a start : ℕ} {value : BitVec w}
    (h : a < start ∨ start + e ≤ a) : store e m start value a = m a := by
  rw [store, if_neg (by omega)]

theorem load16_store_outside {w e a start : ℕ} {value : BitVec w}
    (h : a + 2 ≤ start ∨ start + e ≤ a) : load16 (store e m start value) a = load16 m a := by
  rw [load16, load16, store_outside (by omega), store_outside (by omega)]

/-- Two ranges of bytes without a common one. -/
def Apart (a length b length' : ℕ) : Prop := a + length ≤ b ∨ b + length' ≤ a

section Operands

variable {w e size start source count : ℕ} {m : Memory} {f : ℕ → BitVec w}

/-- The elements of an operand from the `i`-th on are outside the first `i` elements of the
destination. -/
def ReadsAhead (e start size source count : ℕ) : Prop :=
  ∀ i a, source + size * i ≤ a → a < source + size * count → a < start ∨ start + e * i ≤ a

theorem readsAhead_same (h : e ≤ size) : ReadsAhead e start size start count := by
  intro i a hfrom hbelow
  have hgrow : e * i ≤ size * i := Nat.mul_le_mul_right i h
  omega

theorem readsAhead_apart (h : Apart start (e * count) source (size * count)) :
    ReadsAhead e start size source count := by
  intro i a hfrom hbelow
  rcases h with hbefore | hafter
  · have hi : i ≤ count := by
      by_contra hgt
      have hgrow : size * count ≤ size * i := Nat.mul_le_mul_left size (by omega)
      omega
    have hgrow : e * i ≤ e * count := Nat.mul_le_mul_left e hi
    omega
  · omega

theorem byte_ahead (h : ReadsAhead e start 1 source count) {i j : ℕ} (hij : i ≤ j)
    (hj : j < count) : writeElements e m start i f (source + j) = m (source + j) :=
  writeElements_outside (h i _ (by omega) (by omega))

theorem load32_ahead (h : ReadsAhead e start 4 source count) {i j : ℕ} (hij : i ≤ j)
    (hj : j < count) :
    load32 (writeElements e m start i f) (source + 4 * j) = load32 m (source + 4 * j) := by
  have hbyte : ∀ k < 4, writeElements e m start i f (source + 4 * j + k) =
      m (source + 4 * j + k) :=
    fun k hk => writeElements_outside (h i _ (by omega) (by omega))
  have hlow := hbyte 0 (by decide)
  rw [Nat.add_zero] at hlow
  rw [load32, load32, hbyte 3 (by decide), hbyte 2 (by decide), hbyte 1 (by decide), hlow]

end Operands

end ProtoTime.BlockMemory
