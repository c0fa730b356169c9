import Mathlib.Tactic.Common
import Mathlib.Data.Nat.Notation
import Mathlib.Data.List.Induction
import Mathlib.Data.Nat.Bitwise
import Mathlib.Algebra.Order.Group.Nat

/-!
Fixed-width big-endian integers and fields at fixed offsets: reading is the
inverse of writing on values that fit, and writing of reading on every list of
the right length.
-/
namespace ProtoTime.ByteCodec

variable {α : Type}

/-- The bytes of an integer, most significant first. -/
def bigEndian (size value : ℕ) : List (BitVec 8) :=
  (List.range size).map fun i => BitVec.ofNat 8 (value >>> (8 * (size - 1 - i)))

/-- The integer of a list of bytes, most significant first. -/
def ofBigEndian (bytes : List (BitVec 8)) : ℕ :=
  bytes.foldl (fun value byte => value <<< 8 ||| byte.toNat) 0

@[simp] theorem length_bigEndian (size value : ℕ) : (bigEndian size value).length = size := by
  simp [bigEndian]

theorem bigEndian_succ (size value : ℕ) :
    bigEndian (size + 1) value = bigEndian size (value >>> 8) ++ [BitVec.ofNat 8 value] := by
  unfold bigEndian
  rw [List.range_succ, List.map_append]
  congr 1
  · apply List.map_congr_left
    intro i hi
    have hlt := List.mem_range.mp hi
    rw [← Nat.shiftRight_add]
    congr 2
    omega
  · simp

theorem ofBigEndian_append (bytes : List (BitVec 8)) (byte : BitVec 8) :
    ofBigEndian (bytes ++ [byte]) = ofBigEndian bytes * 256 + byte.toNat := by
  have hlt : byte.toNat < 2 ^ 8 := byte.isLt
  unfold ofBigEndian
  rw [List.foldl_append, List.foldl_cons, List.foldl_nil, ← Nat.shiftLeft_add_eq_or_of_lt hlt,
    Nat.shiftLeft_eq]

theorem ofBigEndian_bigEndian (size value : ℕ) :
    ofBigEndian (bigEndian size value) = value % 256 ^ size := by
  induction size generalizing value with
  | zero => simp [bigEndian, ofBigEndian, Nat.mod_one]
  | succ size ih =>
    have hsplit : value % 256 ^ (size + 1) =
        value % 2 ^ 8 + 256 * (value / 2 ^ 8 % 256 ^ size) := by
      rw [Nat.pow_succ', Nat.mod_mul]
      rfl
    rw [bigEndian_succ, ofBigEndian_append, ih, Nat.shiftRight_eq_div_pow, BitVec.toNat_ofNat,
      hsplit]
    omega

theorem bigEndian_ofBigEndian (bytes : List (BitVec 8)) :
    bigEndian bytes.length (ofBigEndian bytes) = bytes := by
  induction bytes using List.reverseRec with
  | nil => rfl
  | append_singleton bytes byte ih =>
    have hshift : (ofBigEndian bytes * 256 + byte.toNat) >>> 8 = ofBigEndian bytes := by
      omega
    have hbyte : BitVec.ofNat 8 (ofBigEndian bytes * 256 + byte.toNat) = byte := by
      apply BitVec.eq_of_toNat_eq
      rw [BitVec.toNat_ofNat]
      omega
    rw [List.length_append, List.length_singleton, bigEndian_succ, ofBigEndian_append, hshift, ih,
      hbyte]

theorem ofBigEndian_lt (bytes : List (BitVec 8)) : ofBigEndian bytes < 256 ^ bytes.length := by
  have h := ofBigEndian_bigEndian bytes.length (ofBigEndian bytes)
  rw [bigEndian_ofBigEndian] at h
  rw [h]
  exact Nat.mod_lt _ (Nat.pow_pos (by decide))

/-- The `size` elements from offset `at`. -/
def slice (xs : List α) (offset size : ℕ) : List α := (xs.drop offset).take size

theorem length_slice {xs : List α} {offset size : ℕ} (h : offset + size ≤ xs.length) :
    (slice xs offset size).length = size := by
  unfold slice
  rw [List.length_take, List.length_drop]
  omega

theorem slice_join (xs : List α) (offset size rest : ℕ) :
    slice xs offset size ++ slice xs (offset + size) rest = slice xs offset (size + rest) := by
  unfold slice
  rw [List.take_add, List.drop_drop]

end ProtoTime.ByteCodec

/-!
A cursor over a list of bytes: little-endian words, flags and runs of bytes, each read with the
refusals its caller names, and the bytes that are read back.
-/
namespace ProtoTime.ByteReader

variable {ε α β : Type}

/-- A reader takes bytes from the front or refuses. -/
abbrev Reader (ε α : Type) := StateT (List (BitVec 8)) (Except ε) α

def refuse (refusal : ε) : Reader ε α := fun _ => .error refusal

def check (condition : Bool) (refusal : ε) : Reader ε Unit :=
  if condition then pure () else refuse refusal

def u8 (truncated : ε) : Reader ε (BitVec 8)
  | [] => .error truncated
  | byte :: rest => .ok (byte, rest)

def u16 (truncated : ε) : Reader ε (BitVec 16) := do
  let low ← u8 truncated
  let high ← u8 truncated
  return high ++ low

def u32 (truncated : ε) : Reader ε (BitVec 32) := do
  let low ← u16 truncated
  let high ← u16 truncated
  return high ++ low

def u64 (truncated : ε) : Reader ε (BitVec 64) := do
  let low ← u32 truncated
  let high ← u32 truncated
  return high ++ low

/-- A byte that may only be 0 or 1. -/
def flag (truncated invalid : ε) : Reader ε Bool := do
  let byte ← u8 truncated
  check (byte ≤ 1) invalid
  return byte != 0

def take (truncated : ε) (size : ℕ) : Reader ε (List (BitVec 8)) := fun bytes =>
  if size ≤ bytes.length then .ok (bytes.take size, bytes.drop size) else .error truncated

/-- What was decided without reading. -/
def accept (result : Except ε α) : Reader ε α := fun bytes => result.map fun a => (a, bytes)

def word (truncated : ε) (size : ℕ) : Reader ε (BitVec (8 * size)) := do
  let bytes ← take truncated size
  return BitVec.ofNat _ (ByteCodec.ofBigEndian bytes.reverse)

/-- The same reader several times. -/
def many (reader : Reader ε α) : ℕ → Reader ε (List α)
  | 0 => pure []
  | count + 1 => do
    let a ← reader
    let others ← many reader count
    return a :: others

/-- What is left after the cursor. -/
def rest : Reader ε (List (BitVec 8)) := fun bytes => .ok (bytes, [])

def left : Reader ε ℕ := fun bytes => .ok (bytes.length, bytes)

def run (reader : Reader ε α) (bytes : List (BitVec 8)) : Except ε α :=
  match reader bytes with
  | .ok (a, _) => .ok a
  | .error refusal => .error refusal

def ofU16 (value : BitVec 16) : List (BitVec 8) :=
  [value.setWidth 8, (value >>> 8).setWidth 8]

def ofU32 (value : BitVec 32) : List (BitVec 8) :=
  ofU16 (value.setWidth 16) ++ ofU16 ((value >>> 16).setWidth 16)

def ofU64 (value : BitVec 64) : List (BitVec 8) :=
  ofU32 (value.setWidth 32) ++ ofU32 ((value >>> 32).setWidth 32)

def ofWord {size : ℕ} (value : BitVec (8 * size)) : List (BitVec 8) :=
  (ByteCodec.bigEndian size value.toNat).reverse

def ofFlag (value : Bool) : List (BitVec 8) := [if value then 1 else 0]

/-- The bytes of a fixed array, and an array filled from bytes. -/
def ofArray {n : ℕ} (array : Fin n → BitVec 8) : List (BitVec 8) := List.ofFn array

def toArray (n : ℕ) (bytes : List (BitVec 8)) : Fin n → BitVec 8 := fun i => bytes.getD i.val 0

/-- The reader takes exactly these bytes, whatever follows, and yields the value. -/
def Reads (reader : Reader ε α) (bytes : List (BitVec 8)) (a : α) : Prop :=
  ∀ after, reader (bytes ++ after) = .ok (a, after)

/-- The reader takes these bytes and nothing may follow. -/
def ReadsAll (reader : Reader ε α) (bytes : List (BitVec 8)) (a : α) : Prop :=
  reader bytes = .ok (a, [])

variable {x : Reader ε α} {f : α → Reader ε β} {bytes : List (BitVec 8)} {a : α}

theorem bind_ok {after : List (BitVec 8)}
    (h : x bytes = .ok (a, after)) : (x >>= f) bytes = f a after := by
  show (x bytes >>= fun p => f p.1 p.2) = f a after
  rw [h]
  rfl

variable {b : β}

theorem Reads.bind {front back : List (BitVec 8)} (hx : Reads x front a) (hf : Reads (f a) back b) :
    Reads (x >>= f) (front ++ back) b := by
  intro after
  rw [List.append_assoc, bind_ok (hx _)]
  exact hf after

theorem Reads.bind_all {front back : List (BitVec 8)}
    (hx : Reads x front a) (hf : ReadsAll (f a) back b) :
    ReadsAll (x >>= f) (front ++ back) b :=
  (bind_ok (hx back)).trans hf

theorem Reads.bind_end
    (hx : Reads x bytes a) (hf : ReadsAll (f a) [] b) : ReadsAll (x >>= f) bytes b := by
  have h := hx.bind_all hf
  rwa [List.append_nil] at h

theorem Reads.pure (a : α) : Reads (pure a : Reader ε α) [] a := fun _ => rfl

theorem ReadsAll.pure (a : α) : ReadsAll (Pure.pure a : Reader ε α) [] a := rfl

theorem Reads.map {f : α → β} (hx : Reads x bytes a) : Reads (f <$> x) bytes (f a) := by
  intro after
  show (x (bytes ++ after) >>= fun p => Pure.pure (f p.1, p.2)) = _
  rw [hx after]
  rfl

theorem run_eq_ok {reader : Reader ε α}
    (h : ReadsAll reader bytes a) : run reader bytes = .ok a := by
  unfold run
  rw [h]

variable {condition : Bool} {refusal : ε} {reader : Unit → Reader ε β}

theorem check_bind_all (h : condition = true) (hf : ReadsAll (reader ()) bytes b) :
    ReadsAll (check condition refusal >>= reader) bytes b := by
  unfold check
  rw [if_pos h]
  exact hf

theorem check_bind (h : condition = true) (hf : Reads (reader ()) bytes b) :
    Reads (check condition refusal >>= reader) bytes b := by
  unfold check
  rw [if_pos h]
  exact hf

theorem left_bind_all {f : ℕ → Reader ε β}
    (hf : ReadsAll (f bytes.length) bytes b) : ReadsAll (left >>= f) bytes b := hf

variable {result : Except ε α}

theorem accept_bind {reader : α → Reader ε β} (h : result = .ok a) (hf : Reads (reader a) bytes b) :
    Reads (accept result >>= reader) bytes b := by
  rw [h]
  exact hf

theorem accept_bind_all {reader : α → Reader ε β}
    (h : result = .ok a) (hf : ReadsAll (reader a) bytes b) :
    ReadsAll (accept result >>= reader) bytes b := by
  rw [h]
  exact hf

theorem reads_u8 (truncated : ε) (byte : BitVec 8) : Reads (u8 truncated) [byte] byte :=
  fun _ => rfl

/-- A word of two halves is put together again from them. -/
theorem append_halves {n : ℕ} (value : BitVec (n + n)) :
    (value >>> n).setWidth n ++ value.setWidth n = value := by
  apply BitVec.eq_of_toNat_eq
  have hlt : value.toNat / 2 ^ n < 2 ^ n :=
    Nat.div_lt_of_lt_mul (by rw [← Nat.pow_add]; exact value.isLt)
  rw [BitVec.toNat_append, ← Nat.shiftLeft_add_eq_or_of_lt (BitVec.isLt _), BitVec.toNat_setWidth,
    BitVec.toNat_ushiftRight, BitVec.toNat_setWidth, Nat.shiftLeft_eq, Nat.shiftRight_eq_div_pow,
    Nat.mod_eq_of_lt hlt, Nat.div_add_mod']

theorem high_append {n : ℕ} (high low : BitVec n) :
    ((high ++ low) >>> n).setWidth n = high := by
  apply BitVec.eq_of_toNat_eq
  rw [BitVec.toNat_setWidth, BitVec.toNat_ushiftRight, BitVec.toNat_append,
    ← Nat.shiftLeft_add_eq_or_of_lt (BitVec.isLt _), Nat.shiftLeft_eq, Nat.shiftRight_eq_div_pow,
    Nat.add_comm, Nat.add_mul_div_right _ _ (Nat.two_pow_pos n),
    Nat.div_eq_of_lt (BitVec.isLt _), Nat.zero_add, Nat.mod_eq_of_lt (BitVec.isLt _)]

theorem reads_u16 (truncated : ε) (value : BitVec 16) :
    Reads (u16 truncated) (ofU16 value) value := by
  intro after
  have hvalue : (value >>> 8).setWidth 8 ++ value.setWidth 8 = value := append_halves (n := 8) value
  show Except.ok ((value >>> 8).setWidth 8 ++ value.setWidth 8, after) = Except.ok (value, after)
  rw [hvalue]

/-- A word is read as its low half and its high half. -/
theorem reads_halves {n : ℕ} {reader : Reader ε (BitVec n)} {bytesOf : BitVec n → List (BitVec 8)}
    (hreader : ∀ half, Reads reader (bytesOf half) half) (value : BitVec (n + n)) :
    Reads (do
        let low ← reader
        let high ← reader
        return high ++ low)
      (bytesOf (value.setWidth n) ++ bytesOf ((value >>> n).setWidth n)) value := by
  have h := (hreader (value.setWidth n)).bind (f := fun low => do
      let high ← reader
      return high ++ low)
    ((hreader ((value >>> n).setWidth n)).bind (Reads.pure _))
  rwa [append_halves, List.append_nil] at h

theorem reads_u32 (truncated : ε) (value : BitVec 32) :
    Reads (u32 truncated) (ofU32 value) value :=
  reads_halves (n := 16) (reads_u16 truncated) value

theorem reads_u64 (truncated : ε) (value : BitVec 64) :
    Reads (u64 truncated) (ofU64 value) value :=
  reads_halves (n := 32) (reads_u32 truncated) value

theorem reads_flag (truncated invalid : ε) (value : Bool) :
    Reads (flag truncated invalid) (ofFlag value) value := by
  intro after
  cases value <;> rfl

theorem reads_take (truncated : ε) (bytes : List (BitVec 8)) :
    Reads (take truncated bytes.length) bytes bytes := by
  intro after
  unfold take
  rw [if_pos (by rw [List.length_append]; omega), List.take_left, List.drop_left]

variable {size : ℕ}

@[simp] theorem length_ofWord (value : BitVec (8 * size)) :
    (ofWord value).length = size := by
  simp [ofWord]

theorem reads_word (truncated : ε) (value : BitVec (8 * size)) :
    Reads (word truncated size) (ofWord value) value := by
  have hvalue : BitVec.ofNat (8 * size) (ByteCodec.ofBigEndian (ofWord value).reverse) = value := by
    have hlt : value.toNat < 256 ^ size := by
      have h := value.isLt
      rwa [Nat.pow_mul] at h
    unfold ofWord
    rw [List.reverse_reverse, ByteCodec.ofBigEndian_bigEndian, Nat.mod_eq_of_lt hlt,
      BitVec.ofNat_toNat, BitVec.setWidth_eq]
  have htake := reads_take truncated (ofWord value)
  rw [length_ofWord] at htake
  have h := htake.bind (f := fun bytes => Pure.pure
    (BitVec.ofNat (8 * size) (ByteCodec.ofBigEndian bytes.reverse))) (Reads.pure _)
  rw [hvalue, List.append_nil] at h
  exact h

theorem reads_many {r : Reader ε α} {f : β → List (BitVec 8)} {g : β → α}
    (xs : List β) (h : ∀ x ∈ xs, Reads r (f x) (g x)) :
    Reads (many r xs.length) (xs.flatMap f) (xs.map g) := by
  induction xs with
  | nil => exact Reads.pure _
  | cons x xs ih =>
    have hrest := ih fun y hy => h y (List.mem_cons_of_mem x hy)
    have hcons : Reads (many r xs.length >>= fun others => Pure.pure (g x :: others))
        (xs.flatMap f ++ []) (g x :: xs.map g) := hrest.bind (Reads.pure _)
    rw [List.append_nil] at hcons
    exact (h x List.mem_cons_self).bind (f := fun a => many r xs.length >>= fun others =>
      Pure.pure (a :: others)) hcons

theorem toArray_ofArray {n : ℕ} (array : Fin n → BitVec 8) :
    toArray n (ofArray array) = array := by
  funext i
  unfold toArray ofArray
  rw [List.getD_eq_getElem?_getD, List.getElem?_ofFn, dif_pos i.isLt]
  rfl

/-- Bytes behind those the reader took do not change what it reads. -/
def Extends (reader : Reader ε α) : Prop :=
  ∀ bytes after a left, reader bytes = .ok (a, left) →
    reader (bytes ++ after) = .ok (a, left ++ after)

variable {left : List (BitVec 8)}

theorem bind_eq_ok (h : (x >>= f) bytes = .ok (b, left)) :
    ∃ a middle, x bytes = .ok (a, middle) ∧ f a middle = .ok (b, left) := by
  change (x bytes >>= fun p => f p.1 p.2) = .ok (b, left) at h
  cases hx : x bytes with
  | error refusal =>
    rw [hx] at h
    cases h
  | ok p =>
    rw [hx] at h
    exact ⟨p.1, p.2, rfl, h⟩

theorem Extends.bind (hx : Extends x) (hf : ∀ a, Extends (f a)) : Extends (x >>= f) := by
  intro bytes after b left h
  obtain ⟨a, middle, hxa, hfa⟩ := bind_eq_ok h
  rw [bind_ok (hx _ after _ _ hxa)]
  exact hf a _ after _ _ hfa

theorem Extends.pure (a : α) : Extends (Pure.pure a : Reader ε α) := by
  intro bytes after b left h
  cases h
  rfl

theorem Extends.refuse (refusal : ε) : Extends (refuse refusal : Reader ε α) := by
  intro bytes after a left h
  cases h

theorem Extends.check (condition : Bool) (refusal : ε) :
    Extends (check condition refusal : Reader ε Unit) := by
  unfold ByteReader.check
  split
  · exact Extends.pure ()
  · exact Extends.refuse refusal

theorem check_bind_eq_ok
    (h : (ByteReader.check condition refusal >>= reader) bytes = .ok (b, left)) :
    condition = true ∧ reader () bytes = .ok (b, left) := by
  cases hcondition : condition with
  | false =>
    rw [hcondition] at h
    cases h
  | true =>
    rw [hcondition] at h
    exact ⟨rfl, h⟩

theorem accept_bind_eq_ok {reader : α → Reader ε β}
    (h : (accept result >>= reader) bytes = .ok (b, left)) :
    ∃ a, result = .ok a ∧ reader a bytes = .ok (b, left) := by
  cases result with
  | error refusal => cases h
  | ok a => exact ⟨a, rfl, h⟩

theorem Extends.accept (result : Except ε α) : Extends (accept result) := by
  intro bytes after a left h
  cases result with
  | error refusal => cases h
  | ok b =>
    cases h
    rfl

theorem Extends.u8 (truncated : ε) : Extends (u8 truncated) := by
  intro bytes after a left h
  cases bytes with
  | nil => cases h
  | cons byte bytes =>
    cases h
    rfl

theorem Extends.u16 (truncated : ε) : Extends (u16 truncated) :=
  (Extends.u8 truncated).bind fun _ => (Extends.u8 truncated).bind fun _ => Extends.pure _

theorem Extends.u32 (truncated : ε) : Extends (u32 truncated) :=
  (Extends.u16 truncated).bind fun _ => (Extends.u16 truncated).bind fun _ => Extends.pure _

theorem Extends.u64 (truncated : ε) : Extends (u64 truncated) :=
  (Extends.u32 truncated).bind fun _ => (Extends.u32 truncated).bind fun _ => Extends.pure _

theorem Extends.take (truncated : ε) (size : ℕ) : Extends (take truncated size) := by
  intro bytes after a left h
  unfold ByteReader.take at *
  by_cases hsize : size ≤ bytes.length
  · rw [if_pos hsize] at h
    cases h
    rw [if_pos (by rw [List.length_append]; omega), List.take_append_of_le_length hsize,
      List.drop_append_of_le_length hsize]
  · rw [if_neg hsize] at h
    cases h

theorem Extends.word (truncated : ε) (size : ℕ) : Extends (word truncated size) :=
  (Extends.take truncated size).bind fun _ => Extends.pure _

theorem Extends.many {reader : Reader ε α} (h : Extends reader) (count : ℕ) :
    Extends (many reader count) := by
  induction count with
  | zero => exact Extends.pure []
  | succ count ih => exact h.bind fun _ => ih.bind fun _ => Extends.pure _

theorem many_eq_ok {reader : Reader ε α} {count : ℕ} {xs : List α}
    (h : many reader count bytes = .ok (xs, left)) :
    xs.length = count ∧ ∀ x ∈ xs, ∃ front back, reader front = .ok (x, back) := by
  induction count generalizing bytes xs left with
  | zero =>
    cases h
    exact ⟨rfl, fun x hx => absurd hx List.not_mem_nil⟩
  | succ count ih =>
    obtain ⟨x, middle, hx, h⟩ := bind_eq_ok h
    obtain ⟨others, _, hothers, h⟩ := bind_eq_ok h
    cases h
    obtain ⟨hlength, hall⟩ := ih hothers
    refine ⟨congrArg Nat.succ hlength, fun y hy => ?_⟩
    rcases List.mem_cons.mp hy with rfl | hmem
    · exact ⟨_, _, hx⟩
    · exact hall y hmem

variable {truncated : ε}

theorem length_of_take {taken : List (BitVec 8)} (h : take truncated size bytes = .ok (taken, left)) :
    taken.length = size := by
  unfold take at h
  split at h
  · next hle =>
    cases h
    exact List.length_take_of_le hle
  · cases h

/-! ## What was read is what was there -/

theorem u8_eq_ok {byte : BitVec 8}
    (h : u8 truncated bytes = .ok (byte, left)) : bytes = byte :: left := by
  cases bytes with
  | nil => cases h
  | cons b bytes =>
    cases h
    rfl

theorem u16_eq_ok {value : BitVec 16}
    (h : u16 truncated bytes = .ok (value, left)) : bytes = ofU16 value ++ left := by
  obtain ⟨low, middle, hlow, h⟩ := bind_eq_ok h
  obtain ⟨high, last, hhigh, h⟩ := bind_eq_ok h
  cases h
  rw [u8_eq_ok hlow, u8_eq_ok hhigh]
  have hfirst : (high ++ low : BitVec 16).setWidth 8 = low := BitVec.setWidth_append_eq_right
  have hsecond : ((high ++ low : BitVec 16) >>> 8).setWidth 8 = high := high_append high low
  unfold ofU16
  rw [hfirst, hsecond]
  rfl

theorem u32_eq_ok {value : BitVec 32}
    (h : u32 truncated bytes = .ok (value, left)) : bytes = ofU32 value ++ left := by
  obtain ⟨low, middle, hlow, h⟩ := bind_eq_ok h
  obtain ⟨high, last, hhigh, h⟩ := bind_eq_ok h
  cases h
  rw [u16_eq_ok hlow, u16_eq_ok hhigh]
  have hfirst : (high ++ low : BitVec 32).setWidth 16 = low := BitVec.setWidth_append_eq_right
  have hsecond : ((high ++ low : BitVec 32) >>> 16).setWidth 16 = high := high_append high low
  unfold ofU32
  rw [hfirst, hsecond, List.append_assoc]

theorem take_eq_ok {taken : List (BitVec 8)} (h : take truncated size bytes = .ok (taken, left)) :
    bytes = taken ++ left ∧ taken.length = size := by
  refine ⟨?_, length_of_take h⟩
  unfold take at h
  split at h
  · cases h
    exact (List.take_append_drop size bytes).symm
  · cases h

@[simp] theorem length_ofU32 (value : BitVec 32) : (ofU32 value).length = 4 := rfl

end ProtoTime.ByteReader
