import Mathlib.Algebra.Group.Nat.Defs
import Mathlib.Tactic.Linarith
import Mathlib.Tactic.Ring
import Mathlib.Tactic.Zify

/-!
Packed decimal numbers, two digits to a byte, and loops that add or subtract them byte by byte
on a unit that corrects every binary result.
-/
namespace ProtoTime.PackedDecimal

/-- Both halves of the byte are decimal digits. -/
def Packed (b : BitVec 8) : Prop := b.toNat % 16 ≤ 9 ∧ b.toNat / 16 ≤ 9

def digits (b : BitVec 8) : ℕ := 10 * (b.toNat / 16) + b.toNat % 16

/-- The number with these bytes, the least significant first. -/
def value : List (BitVec 8) → ℕ
  | [] => 0
  | b :: bs => digits b + 100 * value bs

/-- What the corrected low and high digits are off by. -/
def correction (low high : Bool) : BitVec 8 :=
  (if low then 0x06#8 else 0) ||| (if high then 0x60#8 else 0)

theorem toNat_correction (low high : Bool) :
    (correction low high).toNat = 6 * low.toNat + 96 * high.toNat := by
  cases low <;> cases high <;> rfl

variable {a x y : BitVec 8} {c : Bool}

theorem sum_corrected {low high : Bool} (hx : Packed x) (hy : Packed y)
    (ha : a.toNat = (x.toNat + y.toNat + c.toNat) % 256)
    (hlow : low = true ↔ x.toNat % 16 + y.toNat % 16 + c.toNat > 15 ∨ a.toNat % 16 > 9)
    (hhigh : high = true ↔ x.toNat + y.toNat + c.toNat > 255 ∨ a.toNat > 0x99) :
    Packed (a + correction low high) ∧
      digits (a + correction low high) + 100 * high.toNat = digits x + digits y + c.toNat := by
  have hc : c.toNat ≤ 1 := Bool.toNat_le c
  unfold Packed digits at *
  rw [BitVec.toNat_add, toNat_correction]
  cases low <;> cases high <;> simp only [Bool.toNat_true, Bool.toNat_false, true_iff,
    Bool.false_eq_true, false_iff, not_or] at * <;> omega

theorem difference_corrected {low high : Bool} (hx : Packed x)
    (hy : Packed y) (ha : a.toNat = (x.toNat + 512 - y.toNat - c.toNat) % 256)
    (hlow : low = true ↔ x.toNat % 16 < y.toNat % 16 + c.toNat)
    (hhigh : high = true ↔ x.toNat < y.toNat + c.toNat) :
    Packed (a - correction low high) ∧
      digits (a - correction low high) + digits y + c.toNat = digits x + 100 * high.toNat := by
  have hc : c.toNat ≤ 1 := Bool.toNat_le c
  unfold Packed digits at *
  rw [BitVec.toNat_sub, toNat_correction]
  cases low <;> cases high <;> simp only [Bool.toNat_true, Bool.toNat_false, true_iff,
    Bool.false_eq_true, false_iff, not_lt] at * <;> omega

theorem difference_digits (hx : Packed x) (hy : Packed y)
    (ha : a.toNat = (x.toNat + 512 - y.toNat - c.toNat) % 256) :
    (a.toNat % 16 > 9 → x.toNat % 16 < y.toNat % 16 + c.toNat) ∧
      (a.toNat > 0x99 → x.toNat < y.toNat + c.toNat) := by
  unfold Packed at *
  omega

/-! ## Loops -/

structure DecimalUnit (S : Type) where
  accumulator : S → BitVec 8
  carry : S → Bool
  zero : S → Bool
  add : BitVec 8 → S → S
  addCarry : BitVec 8 → S → S
  subtract : BitVec 8 → S → S
  subtractCarry : BitVec 8 → S → S
  adjust : S → S

namespace DecimalUnit

variable {S : Type} {u : DecimalUnit S} {first op : BitVec 8 → S → S} {e : ℤ} {s s' : S}
  {operands : List (BitVec 8 × BitVec 8)} {results : List (BitVec 8 × Bool)}

/-- The rounds of a loop that come after `s`: each applies `op` to an accumulator loaded with the
next byte, then the adjustment. Loading, storing and counting keep the carry flag. A result is
the adjusted byte with the zero flag. -/
inductive Rounds (u : DecimalUnit S) (op : BitVec 8 → S → S) :
    S → List (BitVec 8 × BitVec 8) → List (BitVec 8 × Bool) → S → Prop
  | done (s : S) : Rounds u op s [] [] s
  | round {s loaded s' : S} {y : BitVec 8} {operands : List (BitVec 8 × BitVec 8)}
      {results : List (BitVec 8 × Bool)} (hcarry : u.carry loaded = u.carry s)
      (hrest : Rounds u op (u.adjust (op y loaded)) operands results s') :
      Rounds u op s ((u.accumulator loaded, y) :: operands)
        ((u.accumulator (u.adjust (op y loaded)), u.zero (u.adjust (op y loaded))) :: results) s'

inductive Loop (u : DecimalUnit S) (first op : BitVec 8 → S → S) :
    S → List (BitVec 8 × BitVec 8) → List (BitVec 8 × Bool) → S → Prop
  | start {s s' : S} {y : BitVec 8} {operands : List (BitVec 8 × BitVec 8)}
      {results : List (BitVec 8 × Bool)}
      (hrest : Rounds u op (u.adjust (first y s)) operands results s') :
      Loop u first op s ((u.accumulator s, y) :: operands)
        ((u.accumulator (u.adjust (first y s)), u.zero (u.adjust (first y s))) :: results) s'

/-- A result byte is packed, and the zero flag with it tells whether it is zero. -/
def Proper (q : BitVec 8 × Bool) : Prop := Packed q.1 ∧ (q.2 = true ↔ q.1 = 0)

/-- One operation with its adjustment, exact to the sign `e` of the second operand; `c` is the
carry it takes. -/
def Exact (u : DecimalUnit S) (e : ℤ) (op : BitVec 8 → S → S) (c : S → Bool) : Prop :=
  ∀ s y, Packed (u.accumulator s) → Packed y →
    Proper (u.accumulator (u.adjust (op y s)), u.zero (u.adjust (op y s))) ∧
    (digits (u.accumulator (u.adjust (op y s))) : ℤ) = digits (u.accumulator s) +
      e * (digits y + (c s).toNat - 100 * (u.carry (u.adjust (op y s))).toNat)

/-- The unit shows a result byte with its carry. -/
def Shows (u : DecimalUnit S) (s : S) (v : BitVec 8) (c : Bool) : Prop :=
  u.accumulator s = v ∧ u.carry s = c ∧ u.zero s = (v == 0)

theorem exact_of_sums {c : S → Bool} (h : ∀ s y, ∃ a low high,
      a.toNat = ((u.accumulator s).toNat + y.toNat + (c s).toNat) % 256 ∧
      (low = true ↔ (u.accumulator s).toNat % 16 + y.toNat % 16 + (c s).toNat > 15 ∨
        a.toNat % 16 > 9) ∧
      (high = true ↔ (u.accumulator s).toNat + y.toNat + (c s).toNat > 255 ∨ a.toNat > 0x99) ∧
      u.Shows (u.adjust (op y s)) (a + correction low high) high) : u.Exact 1 op c := by
  intro s y hx hy
  obtain ⟨a, low, high, ha, hlow, hhigh, hv, hc, hz⟩ := h s y
  obtain ⟨hpacked, hdigits⟩ := sum_corrected hx hy ha hlow hhigh
  rw [hv, hc, hz]
  refine ⟨⟨hpacked, beq_iff_eq⟩, ?_⟩
  zify at hdigits
  linarith

theorem exact_of_differences {c : S → Bool}
    (h : ∀ s y, Packed (u.accumulator s) → Packed y → ∃ a low high,
      a.toNat = ((u.accumulator s).toNat + 512 - y.toNat - (c s).toNat) % 256 ∧
      (low = true ↔ (u.accumulator s).toNat % 16 < y.toNat % 16 + (c s).toNat) ∧
      (high = true ↔ (u.accumulator s).toNat < y.toNat + (c s).toNat) ∧
      u.Shows (u.adjust (op y s)) (a - correction low high) high) : u.Exact (-1) op c := by
  intro s y hx hy
  obtain ⟨a, low, high, ha, hlow, hhigh, hv, hc, hz⟩ := h s y hx hy
  obtain ⟨hpacked, hdigits⟩ := difference_corrected hx hy ha hlow hhigh
  rw [hv, hc, hz]
  refine ⟨⟨hpacked, beq_iff_eq⟩, ?_⟩
  zify at hdigits
  linarith

theorem Rounds.exact (hop : u.Exact e op u.carry) (h : Rounds u op s operands results s')
    (hpacked : ∀ p ∈ operands, Packed p.1 ∧ Packed p.2) :
    (∀ q ∈ results, Proper q) ∧
      (value (results.map Prod.fst) : ℤ) = value (operands.map Prod.fst) +
        e * (value (operands.map Prod.snd) + (u.carry s).toNat -
          100 ^ operands.length * (u.carry s').toNat) := by
  induction h with
  | done s => simp [value]
  | @round s loaded s' y operands results hcarry hrest ih =>
    rw [List.forall_mem_cons] at hpacked
    obtain ⟨hproper, hdigits⟩ := hop loaded y hpacked.1.1 hpacked.1.2
    obtain ⟨hrests, hvalue⟩ := ih hpacked.2
    refine ⟨List.forall_mem_cons.mpr ⟨hproper, hrests⟩, ?_⟩
    simp only [List.map_cons, value, List.length_cons, Nat.cast_add, Nat.cast_mul, hdigits, hvalue,
      hcarry]
    push_cast
    ring

theorem Loop.exact (hfirst : u.Exact e first fun _ => false) (hop : u.Exact e op u.carry)
    (h : Loop u first op s operands results s')
    (hpacked : ∀ p ∈ operands, Packed p.1 ∧ Packed p.2) :
    (∀ q ∈ results, Proper q) ∧
      (value (results.map Prod.fst) : ℤ) = value (operands.map Prod.fst) +
        e * (value (operands.map Prod.snd) - 100 ^ operands.length * (u.carry s').toNat) := by
  cases h with
  | @start _ y operands results hrest =>
    rw [List.forall_mem_cons] at hpacked
    obtain ⟨hproper, hdigits⟩ := hfirst s y hpacked.1.1 hpacked.1.2
    rw [Bool.toNat_false, Nat.cast_zero, add_zero] at hdigits
    obtain ⟨hrests, hvalue⟩ := hrest.exact hop hpacked.2
    refine ⟨List.forall_mem_cons.mpr ⟨hproper, hrests⟩, ?_⟩
    simp only [List.map_cons, value, List.length_cons, Nat.cast_add, Nat.cast_mul, hdigits, hvalue]
    push_cast
    ring

/-- The loop leaves the digits of the sum, with the carry flag as the next digit. -/
def AddsNumbers (u : DecimalUnit S) : Prop :=
  ∀ s s' operands results, Loop u u.add u.addCarry s operands results s' →
    (∀ p ∈ operands, Packed p.1 ∧ Packed p.2) →
    (∀ q ∈ results, Proper q) ∧
      value (results.map Prod.fst) + 100 ^ operands.length * (u.carry s').toNat =
        value (operands.map Prod.fst) + value (operands.map Prod.snd)

/-- The loop leaves the ten's-complement digits of the difference, with the carry flag as the
borrow. -/
def SubtractsNumbers (u : DecimalUnit S) : Prop :=
  ∀ s s' operands results, Loop u u.subtract u.subtractCarry s operands results s' →
    (∀ p ∈ operands, Packed p.1 ∧ Packed p.2) →
    (∀ q ∈ results, Proper q) ∧
      value (results.map Prod.fst) + value (operands.map Prod.snd) =
        value (operands.map Prod.fst) + 100 ^ operands.length * (u.carry s').toNat

theorem addsNumbers (hadd : u.Exact 1 u.add fun _ => false)
    (haddCarry : u.Exact 1 u.addCarry u.carry) : u.AddsNumbers := by
  intro s s' operands results h hpacked
  obtain ⟨hproper, hvalue⟩ := h.exact hadd haddCarry hpacked
  refine ⟨hproper, ?_⟩
  zify
  rw [hvalue]
  ring

theorem subtractsNumbers (hsub : u.Exact (-1) u.subtract fun _ => false)
    (hsubCarry : u.Exact (-1) u.subtractCarry u.carry) : u.SubtractsNumbers := by
  intro s s' operands results h hpacked
  obtain ⟨hproper, hvalue⟩ := h.exact hsub hsubCarry hpacked
  refine ⟨hproper, ?_⟩
  zify
  rw [hvalue]
  ring

end DecimalUnit

end ProtoTime.PackedDecimal
