import Mathlib.Data.Nat.Digits.Lemmas
import Mathlib.Tactic.Common
import Mathlib.Tactic.SplitIfs

/-!
JSON values, the accesses a reader makes to them, and their compact text. Two
values of one text are the same value.
-/
namespace ProtoTime

/-- The bytes of a text. -/
def utf8 (s : String) : List UInt8 := s.toByteArray.data.toList

theorem utf8_injective {s t : String} (h : utf8 s = utf8 t) : s = t :=
  String.toByteArray_inj.mp (ByteArray.ext (Array.toList_inj.mp h))

/-- The byte of a character below 128. -/
def byte (c : Char) : UInt8 := c.val.toUInt8

def isDigitByte (b : UInt8) : Bool := decide (48 ≤ b) && decide (b ≤ 57)

/-- The bytes a number is written with. -/
def isNumeric (b : UInt8) : Bool :=
  isDigitByte b || b == byte '-' || b == byte '+' || b == byte '.' || b == byte 'e'

/-- The text of a number that is not an integer: it has a fraction or an exponent. -/
structure FloatText where
  text : List UInt8
  numeric : text.all isNumeric = true
  fractional : text.any (fun b => b == byte '.' || b == byte 'e') = true
deriving DecidableEq

/-- A JSON value; the fields of an object stand in the order of their keys. -/
inductive Json where
  | null
  | bool (value : Bool)
  | int (value : Int)
  | float (value : FloatText)
  | str (value : String)
  | arr (items : List Json)
  | obj (fields : List (String × Json))

variable {value : Json}

namespace Json

instance : Inhabited Json := ⟨null⟩

def typeName : Json → String
  | null => "null"
  | bool _ => "boolean"
  | int _ => "number"
  | float _ => "number"
  | str _ => "string"
  | arr _ => "array"
  | obj _ => "object"

/-- The value of a key, where there is one. -/
def find? (key : String) : Json → Option Json
  | obj fields => fields.lookup key
  | _ => none

def contains (key : String) (j : Json) : Bool := (j.find? key).isSome

def field (key : String) : Json → Except String Json
  | obj fields =>
    match fields.lookup key with
    | some value => .ok value
    | none => .error ("[json.exception.out_of_range.403] key '" ++ key ++ "' not found")
  | j => .error ("[json.exception.type_error.304] cannot use at() with " ++ j.typeName)

variable {j : Json} {key : String}

theorem find?_of_field {v : Json} (h : j.field key = .ok v) : j.find? key = some v := by
  cases j with
  | obj fields =>
    unfold field at h
    change fields.lookup key = some v
    cases hv : fields.lookup key with
    | none =>
      simp only [hv] at h
      cases h
    | some w =>
      simp only [hv] at h
      rw [Except.ok.inj h]
  | null => cases h
  | bool b => cases h
  | int a => cases h
  | float f => cases h
  | str s => cases h
  | arr xs => cases h

theorem field_of_find? {v : Json} (h : j.find? key = some v) : j.field key = .ok v := by
  cases j with
  | obj fields =>
    have hfound : fields.lookup key = some v := h
    unfold field
    simp only [hfound]
  | null => cases h
  | bool b => cases h
  | int a => cases h
  | float f => cases h
  | str s => cases h
  | arr xs => cases h

def typeError (wanted : String) (j : Json) : String :=
  "[json.exception.type_error.302] type must be " ++ wanted ++ ", but is " ++ j.typeName

def asString : Json → Except String String
  | str value => .ok value
  | j => .error (typeError "string" j)

def asBool : Json → Except String Bool
  | bool value => .ok value
  | j => .error (typeError "boolean" j)

def isArray : Json → Bool
  | arr _ => true
  | _ => false

def isObject : Json → Bool
  | obj _ => true
  | _ => false

def isEmpty : Json → Bool
  | null => true
  | arr items => items.isEmpty
  | obj fields => fields.isEmpty
  | _ => false

/-- The entries a loop over the keys visits. -/
def entries : Json → List (String × Json)
  | obj fields => fields
  | _ => []

def size : Json → Nat
  | null => 0
  | arr items => items.length
  | obj fields => fields.length
  | _ => 1

/-- What a loop over the value visits. -/
def elements : Json → List Json
  | null => []
  | arr items => items
  | obj fields => fields.map Prod.snd
  | j => [j]

def isText (text : String) : Json → Bool
  | str value => value == text
  | _ => false

/-- An object without one of its keys. -/
def erase (key : String) : Json → Except String Json
  | obj fields => .ok (obj (fields.filter fun entry => entry.1 != key))
  | j => .error ("[json.exception.type_error.307] cannot use erase() with " ++ j.typeName)

def replaceField (key : String) (value : Json) : List (String × Json) → List (String × Json)
  | [] => []
  | (k, v) :: fields =>
    if key = k then (key, value) :: fields else (k, v) :: replaceField key value fields

def insertField (key : String) (value : Json) : List (String × Json) → List (String × Json)
  | [] => [(key, value)]
  | (k, v) :: fields =>
    if key < k then (key, value) :: (k, v) :: fields else (k, v) :: insertField key value fields

def setField (key : String) (value : Json) (fields : List (String × Json)) :
    List (String × Json) :=
  if (fields.lookup key).isSome then replaceField key value fields
  else insertField key value fields

def set (j : Json) (key : String) (value : Json) : Except String Json :=
  match j with
  | null => .ok (obj [(key, value)])
  | obj fields => .ok (obj (setField key value fields))
  | j => .error ("[json.exception.type_error.305] cannot use operator[] with a string argument with "
      ++ j.typeName)

variable {fields : List (String × Json)}

theorem lookup_replaceField_self (value : Json) (h : (fields.lookup key).isSome = true) :
    (replaceField key value fields).lookup key = some value := by
  induction fields with
  | nil => cases h
  | cons entry fields ih =>
    obtain ⟨k, v⟩ := entry
    unfold replaceField
    split_ifs with hsame
    · simp
    · have hne : (key == k) = false := beq_eq_false_iff_ne.mpr hsame
      rw [List.lookup_cons, hne] at h ⊢
      exact ih h

theorem lookup_insertField_self (value : Json) (h : (fields.lookup key).isSome = false) :
    (insertField key value fields).lookup key = some value := by
  induction fields with
  | nil => simp [insertField]
  | cons entry fields ih =>
    obtain ⟨k, v⟩ := entry
    unfold insertField
    split_ifs with hless
    · simp
    · cases hk : key == k with
      | true =>
        rw [List.lookup_cons, hk] at h
        cases h
      | false =>
        rw [List.lookup_cons, hk] at h ⊢
        exact ih h

variable {other : String}

theorem lookup_replaceField_of_ne (h : other ≠ key) (value : Json) (fields : List (String × Json)) :
    (replaceField key value fields).lookup other = fields.lookup other := by
  have hother : (other == key) = false := beq_eq_false_iff_ne.mpr h
  induction fields with
  | nil => rfl
  | cons entry fields ih =>
    obtain ⟨k, v⟩ := entry
    unfold replaceField
    split_ifs with hsame
    · subst hsame
      simp only [List.lookup_cons, hother]
    · rw [List.lookup_cons, List.lookup_cons, ih]

theorem lookup_insertField_of_ne (h : other ≠ key) (value : Json) (fields : List (String × Json)) :
    (insertField key value fields).lookup other = fields.lookup other := by
  have hother : (other == key) = false := beq_eq_false_iff_ne.mpr h
  induction fields with
  | nil => simp [insertField, h]
  | cons entry fields ih =>
    obtain ⟨k, v⟩ := entry
    unfold insertField
    split_ifs with hless
    · simp only [List.lookup_cons, hother]
    · rw [List.lookup_cons, List.lookup_cons, ih]

theorem lookup_setField_self (key : String) (value : Json) (fields : List (String × Json)) :
    (setField key value fields).lookup key = some value := by
  unfold setField
  split_ifs with h
  · exact lookup_replaceField_self value h
  · exact lookup_insertField_self value (Bool.eq_false_iff.mpr h)

theorem lookup_setField_of_ne (h : other ≠ key) (value : Json) (fields : List (String × Json)) :
    (setField key value fields).lookup other = fields.lookup other := by
  unfold setField
  split_ifs
  · exact lookup_replaceField_of_ne h value fields
  · exact lookup_insertField_of_ne h value fields

theorem setField_of_lookup
    (h : fields.lookup key = some value) : setField key value fields = fields := by
  unfold setField
  rw [if_pos (by rw [h]; rfl)]
  induction fields with
  | nil => rfl
  | cons entry fields ih =>
    obtain ⟨k, v⟩ := entry
    unfold replaceField
    split_ifs with hsame
    · subst hsame
      simp only [List.lookup_cons_self, Option.some.injEq] at h
      rw [h]
    · have hne : (key == k) = false := beq_eq_false_iff_ne.mpr hsame
      rw [List.lookup_cons, hne] at h
      rw [ih h]

theorem filter_replaceField (key : String) (value : Json) (fields : List (String × Json)) :
    (replaceField key value fields).filter (fun entry => entry.1 != key)
      = fields.filter fun entry => entry.1 != key := by
  induction fields with
  | nil => rfl
  | cons entry fields ih =>
    obtain ⟨k, v⟩ := entry
    unfold replaceField
    split_ifs with hsame
    · subst hsame
      simp
    · simp only [List.filter_cons, ih]

theorem filter_insertField (key : String) (value : Json) (fields : List (String × Json)) :
    (insertField key value fields).filter (fun entry => entry.1 != key)
      = fields.filter fun entry => entry.1 != key := by
  induction fields with
  | nil => simp [insertField]
  | cons entry fields ih =>
    obtain ⟨k, v⟩ := entry
    unfold insertField
    split_ifs with hless
    · simp
    · simp only [List.filter_cons, ih]

variable {k : Json}

theorem erase_of_set {left : Json} (hleft : j.erase key = .ok left) (h : j.set key value = .ok k) :
    k.erase key = .ok left := by
  cases j with
  | obj fields =>
    cases h
    rw [← hleft]
    change Except.ok (obj _) = Except.ok (obj _)
    unfold setField
    split_ifs
    · rw [filter_replaceField]
    · rw [filter_insertField]
  | null => cases hleft
  | bool b => cases h
  | int a => cases h
  | float f => cases h
  | str s => cases h
  | arr xs => cases h

theorem find?_of_erase_of_ne (h : j.erase key = .ok k)
    (hne : other ≠ key) : k.find? other = j.find? other := by
  cases j with
  | obj fields =>
    cases h
    change (fields.filter fun entry => entry.1 != key).lookup other = fields.lookup other
    induction fields with
    | nil => rfl
    | cons entry fields ih =>
      obtain ⟨k, v⟩ := entry
      by_cases hk : k = key
      · subst hk
        have hother : (other == k) = false := beq_eq_false_iff_ne.mpr hne
        simp only [List.filter_cons, bne_self_eq_false, Bool.false_eq_true, if_false,
          List.lookup_cons, hother]
        exact ih
      · have hkeep : (k != key) = true := bne_iff_ne.mpr hk
        simp only [List.filter_cons, hkeep, if_true, List.lookup_cons]
        rw [ih]
  | null => cases h
  | bool b => cases h
  | int a => cases h
  | float f => cases h
  | str s => cases h
  | arr xs => cases h

theorem find?_of_set (h : j.set key value = .ok k) : k.find? key = some value := by
  cases j with
  | null =>
    cases h
    simp [find?]
  | obj fields =>
    cases h
    exact lookup_setField_self key value fields
  | bool b => cases h
  | int a => cases h
  | float f => cases h
  | str s => cases h
  | arr xs => cases h

theorem find?_of_set_of_ne (h : j.set key value = .ok k)
    (hne : other ≠ key) : k.find? other = j.find? other := by
  cases j with
  | null =>
    cases h
    simp [find?, hne]
  | obj fields =>
    cases h
    exact lookup_setField_of_ne hne value fields
  | bool b => cases h
  | int a => cases h
  | float f => cases h
  | str s => cases h
  | arr xs => cases h

mutual

/-- In every object the keys ascend. -/
def wellFormed : Json → Bool
  | arr items => wellFormedItems items
  | obj fields => decide ((fields.map Prod.fst).Pairwise (· < ·)) && wellFormedFields fields
  | _ => true

def wellFormedItems : List Json → Bool
  | [] => true
  | item :: items => wellFormed item && wellFormedItems items

def wellFormedFields : List (String × Json) → Bool
  | [] => true
  | (_, value) :: fields => wellFormed value && wellFormedFields fields

end

theorem wellFormed_of_lookup
    (h : wellFormedFields fields = true) (hv : fields.lookup key = some value) :
    wellFormed value = true := by
  induction fields with
  | nil => cases hv
  | cons entry fields ih =>
    obtain ⟨k, v⟩ := entry
    simp only [wellFormedFields, Bool.and_eq_true] at h
    cases hk : key == k with
    | true =>
      rw [List.lookup_cons, hk] at hv
      cases hv
      exact h.1
    | false =>
      rw [List.lookup_cons, hk] at hv
      exact ih h.2 hv

theorem wellFormed_find? (h : j.wellFormed = true)
    (hv : j.find? key = some value) : value.wellFormed = true := by
  cases j with
  | obj fields =>
    simp only [wellFormed, Bool.and_eq_true] at h
    exact wellFormed_of_lookup h.2 hv
  | null => cases hv
  | bool b => cases hv
  | int a => cases hv
  | float f => cases hv
  | str s => cases hv
  | arr xs => cases hv

theorem nodup_entries (h : j.wellFormed = true) : (j.entries.map Prod.fst).Nodup := by
  cases j with
  | obj fields =>
    simp only [wellFormed, Bool.and_eq_true, decide_eq_true_eq] at h
    have hne : (fields.map Prod.fst).Pairwise (· ≠ ·) := h.1.imp fun hlt heq => by
      subst heq
      exact String.lt_irrefl _ hlt
    exact hne
  | null => exact List.nodup_nil
  | bool b => exact List.nodup_nil
  | int a => exact List.nodup_nil
  | float f => exact List.nodup_nil
  | str s => exact List.nodup_nil
  | arr xs => exact List.nodup_nil

/-! ## The text of a value -/

def hexDigit (n : Nat) : UInt8 := UInt8.ofNat (if n < 10 then 48 + n else 87 + n)

/-- One byte between the quotes. -/
def escapeByte (b : UInt8) : List UInt8 :=
  if b = byte '"' then [byte '\\', byte '"']
  else if b = byte '\\' then [byte '\\', byte '\\']
  else if b = 8 then [byte '\\', byte 'b']
  else if b = 12 then [byte '\\', byte 'f']
  else if b = byte '\n' then [byte '\\', byte 'n']
  else if b = byte '\r' then [byte '\\', byte 'r']
  else if b = byte '\t' then [byte '\\', byte 't']
  else if b < 32 then
    [byte '\\', byte 'u', byte '0', byte '0', hexDigit (b.toNat / 16), hexDigit (b.toNat % 16)]
  else [b]

def dumpString (s : String) : List UInt8 :=
  byte '"' :: ((utf8 s).flatMap escapeByte ++ [byte '"'])

/-- The decimal digits of a number, the highest first. -/
def decimalDigits (n : Nat) : List Nat := if n = 0 then [0] else (Nat.digits 10 n).reverse

def dumpNat (n : Nat) : List UInt8 := (decimalDigits n).map fun d => UInt8.ofNat (48 + d)

def dumpInt : Int → List UInt8
  | .ofNat n => dumpNat n
  | .negSucc n => byte '-' :: dumpNat (n + 1)

mutual

def dump : Json → List UInt8
  | null => [byte 'n', byte 'u', byte 'l', byte 'l']
  | bool true => [byte 't', byte 'r', byte 'u', byte 'e']
  | bool false => [byte 'f', byte 'a', byte 'l', byte 's', byte 'e']
  | int value => dumpInt value
  | float value => value.text
  | str value => dumpString value
  | arr items => byte '[' :: dumpItems items
  | obj fields => byte '\x7b' :: dumpFields fields

def dumpItems : List Json → List UInt8
  | [] => [byte ']']
  | item :: items => dump item ++ dumpMoreItems items

def dumpMoreItems : List Json → List UInt8
  | [] => [byte ']']
  | item :: items => byte ',' :: (dump item ++ dumpMoreItems items)

def dumpFields : List (String × Json) → List UInt8
  | [] => [byte '\x7d']
  | (key, value) :: fields =>
    dumpString key ++ byte ':' :: (dump value ++ dumpMoreFields fields)

def dumpMoreFields : List (String × Json) → List UInt8
  | [] => [byte '\x7d']
  | (key, value) :: fields =>
    byte ',' :: (dumpString key ++ byte ':' :: (dump value ++ dumpMoreFields fields))

end

example : (obj [("a", arr [int (-12), str "x\"\n"]), ("b", null)]).dump
    = utf8 "\x7b\"a\":[-12,\"x\\\"\\n\"],\"b\":null\x7d" := by decide

/-! ## One text, one value -/

/-- What follows a value does not continue a number. -/
def Closed (rest : List UInt8) : Prop := ∀ b ∈ rest.head?, isNumeric b = false

theorem closed_nil : Closed [] := by
  intro b hb
  cases hb

theorem closed_cons {b : UInt8} (h : isNumeric b = false) (rest : List UInt8) :
    Closed (b :: rest) := by
  intro d hd
  cases hd
  exact h

variable {r s xs : List UInt8}

/-- A number ends where the characters of a number end. -/
theorem numeric_append_inj {ys : List UInt8} (hx : xs.all isNumeric = true)
    (hy : ys.all isNumeric = true) (hr : Closed r) (hs : Closed s) (h : xs ++ r = ys ++ s) :
    xs = ys ∧ r = s := by
  induction xs generalizing ys with
  | nil =>
    cases ys with
    | nil => exact ⟨rfl, h⟩
    | cons y ys =>
      rw [List.nil_append] at h
      subst h
      have hnot : isNumeric y = false := hr y rfl
      simp [hnot] at hy
  | cons x xs ih =>
    cases ys with
    | nil =>
      subst h
      have hnot : isNumeric x = false := hs x rfl
      simp [hnot] at hx
    | cons y ys =>
      simp only [List.all_cons, Bool.and_eq_true] at hx hy
      simp only [List.cons_append, List.cons.injEq] at h
      obtain ⟨rfl, hrest⟩ := ih hx.2 hy.2 h.2
      exact ⟨by rw [h.1], hrest⟩

theorem digitOf_injective : ∀ a < 10, ∀ b < 10,
    UInt8.ofNat (48 + a) = UInt8.ofNat (48 + b) → a = b := by decide

theorem digitOf_isDigitByte : ∀ a < 10, isDigitByte (UInt8.ofNat (48 + a)) = true := by decide

theorem map_digitOf_injective {xs ys : List Nat} (hx : ∀ x ∈ xs, x < 10) (hy : ∀ y ∈ ys, y < 10)
    (h : xs.map (fun d => UInt8.ofNat (48 + d)) = ys.map fun d => UInt8.ofNat (48 + d)) :
    xs = ys := by
  induction xs generalizing ys with
  | nil => simpa using h.symm
  | cons x xs ih =>
    cases ys with
    | nil => cases h
    | cons y ys =>
      simp only [List.map_cons, List.cons.injEq] at h
      have hhead := digitOf_injective x (hx x (by simp)) y (hy y (by simp)) h.1
      have htail := ih (fun d hd => hx d (by simp [hd])) (fun d hd => hy d (by simp [hd])) h.2
      rw [hhead, htail]

variable (n : Nat)

theorem digits_lt_ten : ∀ d ∈ decimalDigits n, d < 10 := by
  intro d hd
  unfold decimalDigits at hd
  split at hd
  · simp at hd
    omega
  · exact Nat.digits_lt_base (by omega) (List.mem_reverse.mp hd)

theorem foldl_decimalDigits : (decimalDigits n).foldl (fun v d => v * 10 + d) 0 = n := by
  unfold decimalDigits
  split
  · simp [*]
  · rw [List.foldl_reverse]
    calc (Nat.digits 10 n).foldr (fun d v => v * 10 + d) 0
        = Nat.ofDigits 10 (Nat.digits 10 n) := by
          rw [Nat.ofDigits_eq_foldr]
          congr 1
          funext d v
          simp only [Nat.cast_id]
          omega
      _ = n := Nat.ofDigits_digits 10 n

theorem dumpNat_injective {m n : Nat} (h : dumpNat m = dumpNat n) : m = n := by
  have hdigits := map_digitOf_injective (digits_lt_ten m) (digits_lt_ten n) h
  rw [← foldl_decimalDigits m, hdigits, foldl_decimalDigits]

theorem dumpNat_isDigitByte : ∀ b ∈ dumpNat n, isDigitByte b = true := by
  intro b hb
  obtain ⟨d, hd, rfl⟩ := List.mem_map.mp hb
  exact digitOf_isDigitByte d (digits_lt_ten n d hd)

theorem decimalDigits_ne_nil : decimalDigits n ≠ [] := by
  unfold decimalDigits
  split
  · simp
  · simpa [Nat.digits_eq_nil_iff_eq_zero] using ‹n ≠ 0›

theorem dumpNat_ne_nil : dumpNat n ≠ [] := by
  simpa [dumpNat] using decimalDigits_ne_nil n

theorem minus_not_mem_dumpNat : byte '-' ∉ dumpNat n := by
  intro h
  exact absurd (dumpNat_isDigitByte n _ h) (by decide)

theorem dumpInt_injective {a b : Int} (h : dumpInt a = dumpInt b) : a = b := by
  cases a with
  | ofNat m =>
    cases b with
    | ofNat n => rw [dumpNat_injective h]
    | negSucc n =>
      have hmem : byte '-' ∈ dumpNat m := by
        rw [show dumpNat m = dumpInt (.negSucc n) from h]
        exact List.mem_cons_self
      exact absurd hmem (minus_not_mem_dumpNat m)
  | negSucc m =>
    cases b with
    | ofNat n =>
      have hmem : byte '-' ∈ dumpNat n := by
        rw [show dumpNat n = dumpInt (.negSucc m) from h.symm]
        exact List.mem_cons_self
      exact absurd hmem (minus_not_mem_dumpNat n)
    | negSucc n =>
      have hrest := dumpNat_injective (List.cons.inj h).2
      rw [Nat.succ.inj hrest]

theorem dumpInt_numeric (a : Int) : (dumpInt a).all isNumeric = true := by
  have hdigits (n : Nat) : (dumpNat n).all isNumeric = true := by
    apply List.all_eq_true.mpr
    intro c hc
    simp [isNumeric, dumpNat_isDigitByte n c hc]
  cases a with
  | ofNat n => exact hdigits n
  | negSucc n => simpa [dumpInt, isNumeric] using hdigits (n + 1)

theorem dumpInt_integral (a : Int) :
    (dumpInt a).any (fun c => c == byte '.' || c == byte 'e') = false := by
  have hdigits (n : Nat) : (dumpNat n).any (fun c => c == byte '.' || c == byte 'e') = false := by
    apply List.any_eq_false.mpr
    intro c hc hmark
    have hdigit := dumpNat_isDigitByte n c hc
    rcases Bool.or_eq_true_iff.mp hmark with h | h
    · rw [beq_iff_eq.mp h] at hdigit
      exact absurd hdigit (by decide)
    · rw [beq_iff_eq.mp h] at hdigit
      exact absurd hdigit (by decide)
  cases a with
  | ofNat n => exact hdigits n
  | negSucc n =>
    have hsign : (byte '-' == byte '.' || byte '-' == byte 'e') = false := by decide
    rw [dumpInt, List.any_cons, hsign, hdigits (n + 1)]
    rfl

theorem hexDigit_injective : ∀ a < 16, ∀ b < 16, hexDigit a = hexDigit b → a = b := by decide

def shortEscapes : List (UInt8 × UInt8) :=
  [(byte '"', byte '"'), (byte '\\', byte '\\'), (8, byte 'b'), (12, byte 'f'),
    (byte '\n', byte 'n'), (byte '\r', byte 'r'), (byte '\t', byte 't')]

theorem shortEscapes_letter : ∀ p ∈ shortEscapes, p.2 ≠ byte 'u' := by
  have hall : shortEscapes.all (fun p => p.2 != byte 'u') = true := by decide
  intro p hp
  exact bne_iff_ne.mp (List.all_eq_true.mp hall p hp)

theorem shortEscapes_injective :
    ∀ p ∈ shortEscapes, ∀ q ∈ shortEscapes, p.2 = q.2 → p.1 = q.1 := by
  have hall : shortEscapes.all (fun p =>
      shortEscapes.all fun q => p.2 != q.2 || p.1 == q.1) = true := by decide
  intro p hp q hq hletter
  have hpair := List.all_eq_true.mp (List.all_eq_true.mp hall p hp) q hq
  simpa [hletter] using hpair

theorem escapeByte_cases (b : UInt8) :
    (∃ letter, (b, letter) ∈ shortEscapes ∧ escapeByte b = [byte '\\', letter])
      ∨ (b < 32 ∧ escapeByte b = [byte '\\', byte 'u', byte '0', byte '0',
          hexDigit (b.toNat / 16), hexDigit (b.toNat % 16)])
      ∨ (b ≠ byte '"' ∧ b ≠ byte '\\' ∧ escapeByte b = [b]) := by
  unfold escapeByte
  split_ifs with h1 h2 h3 h4 h5 h6 h7 h8
  · exact .inl ⟨byte '"', by subst b; decide, rfl⟩
  · exact .inl ⟨byte '\\', by subst b; decide, rfl⟩
  · exact .inl ⟨byte 'b', by subst b; decide, rfl⟩
  · exact .inl ⟨byte 'f', by subst b; decide, rfl⟩
  · exact .inl ⟨byte 'n', by subst b; decide, rfl⟩
  · exact .inl ⟨byte 'r', by subst b; decide, rfl⟩
  · exact .inl ⟨byte 't', by subst b; decide, rfl⟩
  · exact .inr (.inl ⟨h8, rfl⟩)
  · exact .inr (.inr ⟨h1, h2, rfl⟩)

theorem escapeByte_head (b : UInt8) : ∃ d rest, escapeByte b = d :: rest ∧ d ≠ byte '"' := by
  rcases escapeByte_cases b with ⟨letter, _, h⟩ | ⟨_, h⟩ | ⟨hquote, _, h⟩
  · exact ⟨_, _, h, by decide⟩
  · exact ⟨_, _, h, by decide⟩
  · exact ⟨_, _, h, hquote⟩

/-- The text between the quotes is read one byte at a time. -/
theorem escapeByte_append_inj {c d : UInt8}
    (h : escapeByte c ++ r = escapeByte d ++ s) : c = d ∧ r = s := by
  rcases escapeByte_cases c with ⟨e, he, hc⟩ | ⟨hsmall, hc⟩ | ⟨_, hslash, hc⟩
  · rcases escapeByte_cases d with ⟨e', he', hd⟩ | ⟨_, hd⟩ | ⟨_, hslash', hd⟩
    · simp only [hc, hd, List.cons_append, List.nil_append, List.cons.injEq, true_and] at h
      exact ⟨shortEscapes_injective _ he _ he' h.1, h.2⟩
    · simp only [hc, hd, List.cons_append, List.nil_append, List.cons.injEq, true_and] at h
      exact absurd h.1 (shortEscapes_letter _ he)
    · simp only [hc, hd, List.cons_append, List.cons.injEq] at h
      exact absurd h.1.symm hslash'
  · rcases escapeByte_cases d with ⟨e', he', hd⟩ | ⟨hsmall', hd⟩ | ⟨_, hslash', hd⟩
    · simp only [hc, hd, List.cons_append, List.nil_append, List.cons.injEq, true_and] at h
      exact absurd h.1.symm (shortEscapes_letter _ he')
    · simp only [hc, hd, List.cons_append, List.nil_append, List.cons.injEq, true_and] at h
      have hc32 : c.toNat < 32 := UInt8.lt_iff_toNat_lt.mp hsmall
      have hd32 : d.toNat < 32 := UInt8.lt_iff_toNat_lt.mp hsmall'
      have hhigh := hexDigit_injective _ (by omega) _ (by omega) h.1
      have hlow := hexDigit_injective _ (by omega) _ (by omega) h.2.1
      exact ⟨UInt8.toNat_inj.mp (by omega), h.2.2⟩
    · simp only [hc, hd, List.cons_append, List.cons.injEq] at h
      exact absurd h.1.symm hslash'
  · rcases escapeByte_cases d with ⟨e', he', hd⟩ | ⟨_, hd⟩ | ⟨_, _, hd⟩
    · simp only [hc, hd, List.cons_append, List.cons.injEq] at h
      exact absurd h.1 hslash
    · simp only [hc, hd, List.cons_append, List.cons.injEq] at h
      exact absurd h.1 hslash
    · simpa only [hc, hd, List.cons_append, List.nil_append, List.cons.injEq] using h

theorem escaped_inj {ys : List UInt8}
    (h : xs.flatMap escapeByte ++ byte '"' :: r = ys.flatMap escapeByte ++ byte '"' :: s) :
    xs = ys ∧ r = s := by
  induction xs generalizing ys with
  | nil =>
    cases ys with
    | nil => exact ⟨rfl, (List.cons.inj h).2⟩
    | cons y ys =>
      obtain ⟨d, rest, hd, hne⟩ := escapeByte_head y
      rw [List.flatMap_cons, hd] at h
      exact absurd (List.cons.inj h).1.symm hne
  | cons x xs ih =>
    cases ys with
    | nil =>
      obtain ⟨d, rest, hd, hne⟩ := escapeByte_head x
      rw [List.flatMap_cons, hd] at h
      exact absurd (List.cons.inj h).1 hne
    | cons y ys =>
      simp only [List.flatMap_cons, List.append_assoc] at h
      obtain ⟨rfl, hrest⟩ := escapeByte_append_inj h
      obtain ⟨rfl, rfl⟩ := ih hrest
      exact ⟨rfl, rfl⟩

theorem dumpString_append_inj {a b : String}
    (h : dumpString a ++ r = dumpString b ++ s) : a = b ∧ r = s := by
  simp only [dumpString, List.cons_append, List.append_assoc] at h
  obtain ⟨htext, hrest⟩ := escaped_inj (List.cons.inj h).2
  exact ⟨utf8_injective htext, hrest⟩

/-! The first byte of a text says what kind of value it is. -/

inductive Kind where
  | null
  | true
  | false
  | number
  | str
  | arr
  | obj
deriving DecidableEq

def kind : Json → Kind
  | null => .null
  | bool Bool.true => .true
  | bool Bool.false => .false
  | int _ => .number
  | float _ => .number
  | str _ => .str
  | arr _ => .arr
  | obj _ => .obj

def kindOfHead (b : UInt8) : Option Kind :=
  if isNumeric b then some .number
  else if b = byte 'n' then some .null
  else if b = byte 't' then some .true
  else if b = byte 'f' then some .false
  else if b = byte '"' then some .str
  else if b = byte '[' then some .arr
  else if b = byte '\x7b' then some .obj
  else none

theorem numeric_head (hne : xs ≠ []) (h : xs.all isNumeric = true) :
    ∃ c rest, xs = c :: rest ∧ kindOfHead c = some .number := by
  cases xs with
  | nil => exact absurd rfl hne
  | cons c rest =>
    simp only [List.all_cons, Bool.and_eq_true] at h
    exact ⟨c, rest, rfl, if_pos h.1⟩

theorem dumpInt_ne_nil (a : Int) : dumpInt a ≠ [] := by
  cases a with
  | ofNat n => exact dumpNat_ne_nil n
  | negSucc n => simp [dumpInt]

theorem floatText_ne_nil (f : FloatText) : f.text ≠ [] := by
  intro h
  have hmark := f.fractional
  rw [h] at hmark
  cases hmark

theorem dump_head (j : Json) : ∃ c rest, dump j = c :: rest ∧ kindOfHead c = some j.kind := by
  cases j with
  | null => exact ⟨_, _, rfl, by decide⟩
  | bool b => cases b <;> exact ⟨_, _, rfl, by decide⟩
  | int a => exact numeric_head (dumpInt_ne_nil a) (dumpInt_numeric a)
  | float f => exact numeric_head (floatText_ne_nil f) f.numeric
  | str s => exact ⟨_, _, rfl, rfl⟩
  | arr xs => exact ⟨_, _, rfl, rfl⟩
  | obj fs => exact ⟨_, _, rfl, rfl⟩

theorem kind_eq_of_dump_append (h : dump j ++ r = dump k ++ s) : j.kind = k.kind := by
  obtain ⟨c, rest, hj, hc⟩ := dump_head j
  obtain ⟨d, rest', hk, hd⟩ := dump_head k
  rw [hj, hk] at h
  rw [(List.cons.inj h).1, hd] at hc
  exact Option.some.inj hc.symm

theorem number_append_inj (hj : j.kind = .number)
    (hk : k.kind = .number) (hr : Closed r) (hs : Closed s) (h : dump j ++ r = dump k ++ s) :
    j = k ∧ r = s := by
  have hnumeric {l : Json} (hl : l.kind = .number) : (dump l).all isNumeric = true := by
    cases l with
    | int a => exact dumpInt_numeric a
    | float f => exact f.numeric
    | bool b => cases b <;> cases hl
    | null => cases hl
    | str t => cases hl
    | arr xs => cases hl
    | obj fs => cases hl
  obtain ⟨htext, hrest⟩ := numeric_append_inj (hnumeric hj) (hnumeric hk) hr hs h
  refine ⟨?_, hrest⟩
  cases j with
  | int a =>
    cases k with
    | int b => rw [dumpInt_injective htext]
    | float f =>
      have hmark := dumpInt_integral a
      rw [show dumpInt a = f.text from htext, f.fractional] at hmark
      cases hmark
    | bool b => cases b <;> cases hk
    | null => cases hk
    | str t => cases hk
    | arr xs => cases hk
    | obj fs => cases hk
  | float f =>
    cases k with
    | int b =>
      have hmark := dumpInt_integral b
      rw [show dumpInt b = f.text from htext.symm, f.fractional] at hmark
      cases hmark
    | float g =>
      obtain ⟨text, _, _⟩ := f
      obtain ⟨text', _, _⟩ := g
      obtain rfl : text = text' := htext
      rfl
    | bool b => cases b <;> cases hk
    | null => cases hk
    | str t => cases hk
    | arr xs => cases hk
    | obj fs => cases hk
  | bool b => cases b <;> cases hj
  | null => cases hj
  | str t => cases hj
  | arr xs => cases hj
  | obj fs => cases hj

theorem closed_dumpMoreItems (items : List Json) (rest : List UInt8) :
    Closed (dumpMoreItems items ++ rest) := by
  cases items with
  | nil => exact closed_cons (by decide) _
  | cons item items => exact closed_cons (by decide) _

theorem closed_dumpMoreFields (fields : List (String × Json)) (rest : List UInt8) :
    Closed (dumpMoreFields fields ++ rest) := by
  cases fields with
  | nil => exact closed_cons (by decide) _
  | cons entry fields => exact closed_cons (by decide) _

theorem dump_append_ne_close (j : Json) (r s : List UInt8) : dump j ++ r ≠ byte ']' :: s := by
  intro h
  obtain ⟨c, rest, hj, hc⟩ := dump_head j
  rw [hj] at h
  rw [(List.cons.inj h).1] at hc
  cases (show kindOfHead (byte ']') = none by decide).symm.trans hc

mutual

/-- A value is read from its text, whatever closed text follows it. -/
theorem dump_append_inj (j k : Json) {r s : List UInt8} (hr : Closed r) (hs : Closed s)
    (h : dump j ++ r = dump k ++ s) : j = k ∧ r = s := by
  have hkind := kind_eq_of_dump_append h
  cases j with
  | null =>
    cases k with
    | null => exact ⟨rfl, List.append_cancel_left h⟩
    | bool b => cases b <;> cases hkind
    | _ => cases hkind
  | bool a =>
    cases k with
    | bool b =>
      cases a <;> cases b
      · exact ⟨rfl, List.append_cancel_left h⟩
      · cases hkind
      · cases hkind
      · exact ⟨rfl, List.append_cancel_left h⟩
    | _ => cases a <;> cases hkind
  | int a => exact number_append_inj rfl hkind.symm hr hs h
  | float f => exact number_append_inj rfl hkind.symm hr hs h
  | str a =>
    cases k with
    | str b =>
      obtain ⟨rfl, hrest⟩ := dumpString_append_inj h
      exact ⟨rfl, hrest⟩
    | bool b => cases b <;> cases hkind
    | _ => cases hkind
  | arr xs =>
    cases k with
    | arr ys =>
      obtain ⟨rfl, hrest⟩ := dumpItems_append_inj xs ys (List.cons.inj h).2
      exact ⟨rfl, hrest⟩
    | bool b => cases b <;> cases hkind
    | _ => cases hkind
  | obj xs =>
    cases k with
    | obj ys =>
      obtain ⟨rfl, hrest⟩ := dumpFields_append_inj xs ys (List.cons.inj h).2
      exact ⟨rfl, hrest⟩
    | bool b => cases b <;> cases hkind
    | _ => cases hkind
termination_by structural j

theorem dumpItems_append_inj (xs ys : List Json) {r s : List UInt8}
    (h : dumpItems xs ++ r = dumpItems ys ++ s) : xs = ys ∧ r = s := by
  cases xs with
  | nil =>
    cases ys with
    | nil => exact ⟨rfl, (List.cons.inj h).2⟩
    | cons y ys =>
      simp only [dumpItems, List.append_assoc] at h
      exact absurd h (dump_append_ne_close y _ r).symm
  | cons x xs =>
    cases ys with
    | nil =>
      simp only [dumpItems, List.append_assoc] at h
      exact absurd h (dump_append_ne_close x _ s)
    | cons y ys =>
      simp only [dumpItems, List.append_assoc] at h
      obtain ⟨rfl, hrest⟩ := dump_append_inj x y (closed_dumpMoreItems xs r)
        (closed_dumpMoreItems ys s) h
      obtain ⟨rfl, hend⟩ := dumpMoreItems_append_inj xs ys hrest
      exact ⟨rfl, hend⟩
termination_by structural xs

theorem dumpMoreItems_append_inj (xs ys : List Json) {r s : List UInt8}
    (h : dumpMoreItems xs ++ r = dumpMoreItems ys ++ s) : xs = ys ∧ r = s := by
  cases xs with
  | nil =>
    cases ys with
    | nil => exact ⟨rfl, (List.cons.inj h).2⟩
    | cons y ys => exact absurd (List.cons.inj h).1 (by decide)
  | cons x xs =>
    cases ys with
    | nil => exact absurd (List.cons.inj h).1 (by decide)
    | cons y ys =>
      simp only [dumpMoreItems, List.cons_append, List.append_assoc, List.cons.injEq,
        true_and] at h
      obtain ⟨rfl, hrest⟩ := dump_append_inj x y (closed_dumpMoreItems xs r)
        (closed_dumpMoreItems ys s) h
      obtain ⟨rfl, hend⟩ := dumpMoreItems_append_inj xs ys hrest
      exact ⟨rfl, hend⟩
termination_by structural xs

theorem dumpFields_append_inj (xs ys : List (String × Json)) {r s : List UInt8}
    (h : dumpFields xs ++ r = dumpFields ys ++ s) : xs = ys ∧ r = s := by
  cases xs with
  | nil =>
    cases ys with
    | nil => exact ⟨rfl, (List.cons.inj h).2⟩
    | cons y ys => exact absurd (List.cons.inj h).1 (by decide)
  | cons x xs =>
    obtain ⟨key, value⟩ := x
    cases ys with
    | nil => exact absurd (List.cons.inj h).1 (by decide)
    | cons y ys =>
      obtain ⟨key', value'⟩ := y
      simp only [dumpFields, List.append_assoc, List.cons_append] at h
      obtain ⟨rfl, hvalue⟩ := dumpString_append_inj h
      obtain ⟨rfl, hrest⟩ := dump_append_inj value value' (closed_dumpMoreFields xs r)
        (closed_dumpMoreFields ys s) (List.cons.inj hvalue).2
      obtain ⟨rfl, hend⟩ := dumpMoreFields_append_inj xs ys hrest
      exact ⟨rfl, hend⟩
termination_by structural xs

theorem dumpMoreFields_append_inj (xs ys : List (String × Json)) {r s : List UInt8}
    (h : dumpMoreFields xs ++ r = dumpMoreFields ys ++ s) : xs = ys ∧ r = s := by
  cases xs with
  | nil =>
    cases ys with
    | nil => exact ⟨rfl, (List.cons.inj h).2⟩
    | cons y ys => exact absurd (List.cons.inj h).1 (by decide)
  | cons x xs =>
    obtain ⟨key, value⟩ := x
    cases ys with
    | nil => exact absurd (List.cons.inj h).1 (by decide)
    | cons y ys =>
      obtain ⟨key', value'⟩ := y
      simp only [dumpMoreFields, List.append_assoc, List.cons_append, List.cons.injEq,
        true_and] at h
      obtain ⟨rfl, hvalue⟩ := dumpString_append_inj h
      obtain ⟨rfl, hrest⟩ := dump_append_inj value value' (closed_dumpMoreFields xs r)
        (closed_dumpMoreFields ys s) (List.cons.inj hvalue).2
      obtain ⟨rfl, hend⟩ := dumpMoreFields_append_inj xs ys hrest
      exact ⟨rfl, hend⟩
termination_by structural xs

end

theorem dump_injective (h : dump j = dump k) : j = k := by
  have hfollowed : dump j ++ [] = dump k ++ [] := by rw [h]
  exact (dump_append_inj j k closed_nil closed_nil hfollowed).1

/-! ## The comparison of values

Numbers are compared by value, so that an integer may equal a number with a
fraction; how the values of two such texts compare is a parameter.
-/

structure NumberComparison where
  floats : FloatText → FloatText → Bool
  intFloat : Int → FloatText → Bool
  floats_self : ∀ f, floats f f = true

mutual

def same (numbers : NumberComparison) : Json → Json → Bool
  | null, null => true
  | bool a, bool b => a == b
  | int a, int b => a == b
  | int a, float f => numbers.intFloat a f
  | float f, int a => numbers.intFloat a f
  | float f, float g => numbers.floats f g
  | str a, str b => a == b
  | arr xs, arr ys => sameItems numbers xs ys
  | obj xs, obj ys => sameFields numbers xs ys
  | _, _ => false

def sameItems (numbers : NumberComparison) : List Json → List Json → Bool
  | [], [] => true
  | x :: xs, y :: ys => same numbers x y && sameItems numbers xs ys
  | _, _ => false

def sameFields (numbers : NumberComparison) : List (String × Json) → List (String × Json) → Bool
  | [], [] => true
  | (k, x) :: xs, (k', y) :: ys => k == k' && same numbers x y && sameFields numbers xs ys
  | _, _ => false

end

mutual

theorem same_self (numbers : NumberComparison) (j : Json) : same numbers j j = true := by
  cases j with
  | null => rfl
  | bool b => simp [same]
  | int a => simp [same]
  | float f => simpa [same] using numbers.floats_self f
  | str s => simp [same]
  | arr xs => simpa [same] using sameItems_self numbers xs
  | obj xs => simpa [same] using sameFields_self numbers xs
termination_by structural j

theorem sameItems_self (numbers : NumberComparison) (xs : List Json) :
    sameItems numbers xs xs = true := by
  cases xs with
  | nil => rfl
  | cons x xs => simp [sameItems, same_self numbers x, sameItems_self numbers xs]
termination_by structural xs

theorem sameFields_self (numbers : NumberComparison) (xs : List (String × Json)) :
    sameFields numbers xs xs = true := by
  cases xs with
  | nil => rfl
  | cons x xs =>
    obtain ⟨key, value⟩ := x
    simp [sameFields, same_self numbers value, sameFields_self numbers xs]
termination_by structural xs

end

instance : DecidableEq Json := fun j k =>
  decidable_of_iff (dump j = dump k) ⟨dump_injective, fun h => congrArg dump h⟩

end Json
end ProtoTime
