import Mathlib.Data.Int.Log
import Mathlib.Data.Rat.Floor
import Mathlib.Algebra.Order.Floor.Ring
import Mathlib.Tactic.NormNum
import ProtoTime.Json

/-!
Numbers as text: the numeral of a number in a base, the unsigned integer at the head of a
text, and the double nearest to the number a text spells. A numeral that is written is
read back, and a double holds every integer below two to the 53rd.
-/
namespace ProtoTime.Numerals

open Json

/-- The bytes `isspace` accepts. -/
def isSpace (b : UInt8) : Bool := b == 32 || (decide (9 ≤ b) && decide (b ≤ 13))

def skipSpaces (text : List UInt8) : List UInt8 := text.dropWhile isSpace

/-! ## Numerals -/

/-- The digits of a number in a base, the highest first. -/
def numeral (base n : ℕ) : List ℕ := if n = 0 then [0] else (Nat.digits base n).reverse

/-- The number some digits spell, the highest first. -/
def numeralValue (base : ℕ) (digits : List ℕ) : ℕ := digits.foldl (fun v d => v * base + d) 0

/-- The value of a hexadecimal digit, sixteen for any other byte. -/
def digitNumber (b : UInt8) : ℕ :=
  let n := b.toNat
  if 48 ≤ n ∧ n ≤ 57 then n - 48
  else if 97 ≤ n ∧ n ≤ 102 then n - 87
  else if 65 ≤ n ∧ n ≤ 70 then n - 55
  else 16

/-- The value of a digit of a base up to sixteen. -/
def digit? (base : ℕ) (b : UInt8) : Option ℕ :=
  if digitNumber b < base then some (digitNumber b) else none

/-- The digits a text begins with, and what follows them. -/
def spanDigits (base : ℕ) : List UInt8 → List ℕ × List UInt8
  | [] => ([], [])
  | b :: text =>
    match digit? base b with
    | some d => (d :: (spanDigits base text).1, (spanDigits base text).2)
    | none => ([], b :: text)

variable {base : ℕ}

theorem numeral_lt (hbase : 1 < base) (n : ℕ) : ∀ d ∈ numeral base n, d < base := by
  intro d hd
  unfold numeral at hd
  split_ifs at hd
  · rw [List.mem_singleton.mp hd]
    omega
  · exact Nat.digits_lt_base hbase (List.mem_reverse.mp hd)

theorem numeral_ne_nil (n : ℕ) : numeral base n ≠ [] := by
  unfold numeral
  split_ifs with h
  · simp
  · simpa [Nat.digits_eq_nil_iff_eq_zero] using h

theorem numeralValue_numeral (base n : ℕ) : numeralValue base (numeral base n) = n := by
  unfold numeralValue numeral
  split_ifs with h
  · simp [h]
  · rw [List.foldl_reverse]
    calc (Nat.digits base n).foldr (fun d v => v * base + d) 0
        = Nat.ofDigits base (Nat.digits base n) := by
          rw [Nat.ofDigits_eq_foldr]
          congr 1
          funext d v
          rw [Nat.cast_id, Nat.mul_comm, Nat.add_comm]
      _ = n := Nat.ofDigits_digits base n

theorem numeralValue_zeros (base k : ℕ) (digits : List ℕ) :
    numeralValue base (List.replicate k 0 ++ digits) = numeralValue base digits := by
  induction k with
  | zero => rfl
  | succ k ih =>
    rw [← ih, List.replicate_succ, List.cons_append]
    simp [numeralValue]

/-- The digits of a number, with zeros in front up to a width. -/
def paddedNumeral (base width n : ℕ) : List ℕ :=
  List.replicate (width - (numeral base n).length) 0 ++ numeral base n

theorem paddedNumeral_lt (hbase : 1 < base) (width n : ℕ) :
    ∀ d ∈ paddedNumeral base width n, d < base := by
  intro d hd
  rcases List.mem_append.mp hd with hzero | hdigit
  · rw [(List.mem_replicate.mp hzero).2]
    omega
  · exact numeral_lt hbase n d hdigit

theorem paddedNumeral_ne_nil (width n : ℕ) : paddedNumeral base width n ≠ [] :=
  List.append_ne_nil_of_right_ne_nil _ (numeral_ne_nil n)

theorem numeralValue_paddedNumeral (base width n : ℕ) :
    numeralValue base (paddedNumeral base width n) = n := by
  unfold paddedNumeral
  rw [numeralValue_zeros, numeralValue_numeral]

variable {n : ℕ}

theorem length_paddedNumeral {width : ℕ} (hbase : 1 < base) (hwidth : 0 < width)
    (h : n < base ^ width) : (paddedNumeral base width n).length = width := by
  have hlen : (numeral base n).length ≤ width := by
    unfold numeral
    split_ifs with hn
    · simpa only [List.length_singleton] using Nat.succ_le_of_lt hwidth
    · rw [List.length_reverse]
      exact (Nat.digits_length_le_iff hbase n).mpr h
  unfold paddedNumeral
  rw [List.length_append, List.length_replicate]
  omega

theorem digit?_hexDigit {d : ℕ} (hbase : base ≤ 16) (h : d < base) :
    digit? base (hexDigit d) = some d := by
  have hvalue : ∀ d < 16, digitNumber (hexDigit d) = d := by decide
  have hd := hvalue d (by omega)
  unfold digit?
  rw [hd, if_pos h]

/-- What follows does not begin with a digit. -/
def NoDigit (base : ℕ) (rest : List UInt8) : Prop := ∀ b ∈ rest.head?, digit? base b = none

theorem noDigit_nil (base : ℕ) : NoDigit base [] := by
  intro b hb
  cases hb

theorem spanDigits_map {letter : ℕ → UInt8} (hletter : ∀ d < base, digit? base (letter d) = some d)
    {digits : List ℕ} {rest : List UInt8} (hdigits : ∀ d ∈ digits, d < base)
    (hrest : NoDigit base rest) :
    spanDigits base (digits.map letter ++ rest) = (digits, rest) := by
  induction digits with
  | nil =>
    cases rest with
    | nil => rfl
    | cons b rest =>
      have hb := hrest b rfl
      simp only [List.map_nil, List.nil_append, spanDigits, hb]
  | cons d digits ih =>
    have hd := hletter d (hdigits d (by simp))
    have htail := ih fun e he => hdigits e (by simp [he])
    simp only [List.map_cons, List.cons_append, spanDigits, hd, htail]

theorem spanDigits_append {digits : List ℕ} {rest : List UInt8} (hbase : base ≤ 16)
    (hdigits : ∀ d ∈ digits, d < base) (hrest : NoDigit base rest) :
    spanDigits base (digits.map hexDigit ++ rest) = (digits, rest) :=
  spanDigits_map (fun _ hd => digit?_hexDigit hbase hd) hdigits hrest

/-- The sign at the head of a text, and what follows it. -/
def spanSign : List UInt8 → Bool × List UInt8
  | [] => (false, [])
  | b :: text =>
    if b = byte '-' then (true, text) else if b = byte '+' then (false, text) else (false, b :: text)

def hexPrefixed (text : List UInt8) : Bool :=
  match text with
  | a :: b :: _ => a == byte '0' && (b == byte 'x' || b == byte 'X')
  | _ => false

/-- The unsigned integer `>>` reads at the head of a text in base ten or sixteen, and what is
left: a negative number wraps round, a number too large or without digits is refused. -/
def extractUnsigned (base : ℕ) (text : List UInt8) : Option (UInt64 × List UInt8) :=
  let (negative, text) := spanSign (skipSpaces text)
  let text := if base = 16 ∧ hexPrefixed text = true then text.drop 2 else text
  let (digits, rest) := spanDigits base text
  if digits = [] ∨ 2 ^ 64 ≤ numeralValue base digits then none
  else
    let value := UInt64.ofNat (numeralValue base digits)
    some (if negative then -value else value, rest)

/-! ## Doubles -/

/-- The integer nearest to a number, the even one of two. -/
def roundHalfEven (q : ℚ) : ℤ :=
  if q - ⌊q⌋ < 1 / 2 then ⌊q⌋
  else if 1 / 2 < q - ⌊q⌋ then ⌊q⌋ + 1
  else if ⌊q⌋ % 2 = 0 then ⌊q⌋ else ⌊q⌋ + 1

/-- The double nearest to a number; none where the result is out of range. -/
def nearestDouble (q : ℚ) : Option ℚ :=
  let exponent := max (Int.log 2 |q| - 52) (-1074)
  let value := roundHalfEven (q / (2 : ℚ) ^ exponent) * (2 : ℚ) ^ exponent
  if (2 : ℚ) ^ 1024 ≤ |value| ∨ (value ≠ q ∧ |value| < 1 / (2 : ℚ) ^ 1022) then none
  else some value

/-- The number at the head of a text in a base, its exponent in another, and what is left. -/
def spanReal (base exponentBase : ℕ) (marks : List UInt8) (text : List UInt8) :
    Option (ℚ × List UInt8) :=
  let (whole, text) := spanDigits base text
  let (fraction, text) :=
    match text with
    | b :: after => if b = byte '.' then spanDigits base after else ([], b :: after)
    | [] => ([], [])
  if whole ++ fraction = [] then none
  else
    let mantissa : ℚ := numeralValue base (whole ++ fraction) / (base : ℚ) ^ fraction.length
    match text with
    | b :: after =>
      let (negative, digits) := spanSign after
      let (power, rest) := spanDigits 10 digits
      if marks.contains b ∧ power ≠ [] then
        let scale := (exponentBase : ℚ) ^ numeralValue 10 power
        some (if negative then mantissa / scale else mantissa * scale, rest)
      else some (mantissa, b :: after)
    | [] => some (mantissa, [])

/-- The double a text begins with, and how many bytes spell it. The texts of infinities and of
values that are no number count as no number. -/
def stod (text : List UInt8) : Option (ℚ × ℕ) := do
  let (negative, body) := spanSign (skipSpaces text)
  let hex := if hexPrefixed body then spanReal 16 2 [byte 'p', byte 'P'] (body.drop 2) else none
  let (magnitude, rest) ← hex <|> spanReal 10 10 [byte 'e', byte 'E'] body
  let value ← nearestDouble magnitude
  some (if negative then -value else value, text.length - rest.length)

theorem roundHalfEven_intCast (n : ℤ) : roundHalfEven n = n := by
  simp [roundHalfEven]

/-- A double holds an integer below two to the 53rd. -/
theorem nearestDouble_natCast (h : n < 2 ^ 53) : nearestDouble n = some (n : ℚ) := by
  have hlog : Nat.log 2 n ≤ 52 := by
    have := Nat.log_lt_of_lt_pow' (by decide : 53 ≠ 0) h
    omega
  obtain ⟨k, hk⟩ : ∃ k : ℕ, max (Int.log 2 |(n : ℚ)| - 52) (-1074) = -(k : ℤ) := by
    rw [abs_of_nonneg (Nat.cast_nonneg n), Int.log_natCast]
    exact ⟨(-(max ((Nat.log 2 n : ℤ) - 52) (-1074))).toNat, by omega⟩
  have hscaled : (n : ℚ) / 2 ^ (-(k : ℤ)) = ((n * 2 ^ k : ℕ) : ℤ) := by
    rw [zpow_neg, zpow_natCast, div_inv_eq_mul]
    push_cast
    rfl
  have hvalue : (roundHalfEven ((n : ℚ) / 2 ^ (-(k : ℤ))) : ℚ) * 2 ^ (-(k : ℤ)) = n := by
    rw [hscaled, roundHalfEven_intCast, ← hscaled]
    exact div_mul_cancel₀ _ (zpow_ne_zero _ two_ne_zero)
  have hsmall : ¬ (2 : ℚ) ^ 1024 ≤ |(n : ℚ)| := by
    rw [abs_of_nonneg (Nat.cast_nonneg n)]
    intro hge
    have hlt : (n : ℚ) < 2 ^ 53 := by exact_mod_cast h
    have hpow : (2 : ℚ) ^ 53 ≤ 2 ^ 1024 := pow_le_pow_right₀ (by norm_num) (by decide)
    exact absurd (hpow.trans hge) (not_le.mpr hlt)
  unfold nearestDouble
  dsimp only
  rw [hk, hvalue, if_neg]
  intro hor
  rcases hor with hbig | ⟨hne, _⟩
  · exact hsmall hbig
  · exact hne rfl

theorem dumpNat_eq_map (n : ℕ) : dumpNat n = (numeral 10 n).map hexDigit := by
  apply List.map_congr_left
  intro d hd
  have hlt := digits_lt_ten n d hd
  unfold hexDigit
  rw [if_pos hlt]

theorem dumpNat_cons (n : ℕ) : ∃ b text, dumpNat n = b :: text ∧ isDigitByte b = true
    ∧ ∀ c ∈ text, isDigitByte c = true := by
  have hdigits := dumpNat_isDigitByte n
  cases h : dumpNat n with
  | nil => exact absurd h (dumpNat_ne_nil n)
  | cons b text =>
    rw [h] at hdigits
    exact ⟨b, text, rfl, hdigits b (by simp), fun c hc => hdigits c (by simp [hc])⟩

variable {b : UInt8}

theorem isDigitByte_range (h : isDigitByte b = true) : 48 ≤ b ∧ b ≤ 57 := by
  simpa [isDigitByte] using h

theorem ne_of_isDigitByte {c : UInt8} (h : isDigitByte b = true) (hc : isDigitByte c = false) :
    b ≠ c := by
  intro heq
  rw [heq, hc] at h
  cases h

theorem isSpace_of_isDigitByte (h : isDigitByte b = true) : isSpace b = false := by
  have hrange := isDigitByte_range h
  have hlow : 48 ≤ b.toNat := UInt8.le_iff_toNat_le.mp hrange.1
  unfold isSpace
  have h32 : b ≠ 32 := ne_of_isDigitByte h (by decide)
  have h13 : ¬ b ≤ 13 := by
    intro hle
    have : b.toNat ≤ 13 := UInt8.le_iff_toNat_le.mp hle
    omega
  simp [h32, h13]

theorem hexPrefixed_of_digits {text : List UInt8} (h : ∀ b ∈ text, isDigitByte b = true) :
    hexPrefixed text = false := by
  match text, h with
  | [], _ => rfl
  | [_], _ => rfl
  | a :: b :: rest, h =>
    have hx := ne_of_isDigitByte (h b (by simp)) (by decide : isDigitByte (byte 'x') = false)
    have hX := ne_of_isDigitByte (h b (by simp)) (by decide : isDigitByte (byte 'X') = false)
    simp [hexPrefixed, hx, hX]

theorem stod_dumpNat (h : n < 2 ^ 53) : ∃ used, stod (dumpNat n) = some ((n : ℚ), used) := by
  obtain ⟨b, text, hcons, hb, _⟩ := dumpNat_cons n
  have hskip : skipSpaces (dumpNat n) = dumpNat n := by
    rw [hcons, skipSpaces, List.dropWhile_cons, isSpace_of_isDigitByte hb]
    rfl
  have hsign : spanSign (dumpNat n) = (false, dumpNat n) := by
    rw [hcons, spanSign, if_neg (ne_of_isDigitByte hb (by decide)),
      if_neg (ne_of_isDigitByte hb (by decide))]
  have hhex := hexPrefixed_of_digits (dumpNat_isDigitByte n)
  have hspan : spanDigits 10 (dumpNat n) = (numeral 10 n, []) := by
    have happend := spanDigits_append (by decide) (numeral_lt (by decide) n) (noDigit_nil 10)
    rwa [List.append_nil, ← dumpNat_eq_map] at happend
  have hreal : spanReal 10 10 [byte 'e', byte 'E'] (dumpNat n) = some ((n : ℚ), []) := by
    unfold spanReal
    simp only [hspan, List.append_nil, numeral_ne_nil, if_false, numeralValue_numeral,
      List.length_nil, pow_zero, div_one]
  refine ⟨(dumpNat n).length, ?_⟩
  unfold stod
  simp [hskip, hsign, hhex, hreal, nearestDouble_natCast h]

end ProtoTime.Numerals
