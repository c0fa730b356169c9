import Mathlib.Algebra.Order.Group.Nat
import Mathlib.Data.List.Count
import Mathlib.Data.List.Flatten
import Mathlib.Data.Nat.Notation
import Mathlib.Tactic.Common

/-!
Intervals laid end to end: each begins where the one before it ended, and each
point between the outer ends belongs to exactly one of them.
-/
namespace ProtoTime.Tiling

/-- A nonempty interval: its start and the first point past it. -/
abbrev Span := Nat × Nat

def covers (x : Nat) (s : Span) : Bool := decide (s.1 ≤ x) && decide (x < s.2)

inductive Tiles : Nat → List Span → Nat → Prop where
  | nil (a : Nat) : Tiles a [] a
  | cons {a b c : Nat} {spans : List Span} (hlt : a < b) (hrest : Tiles b spans c) :
      Tiles a ((a, b) :: spans) c

variable {a c : Nat} {spans : List Span}

theorem Tiles.countP_before {x : Nat} (h : Tiles a spans c)
    (hx : x < a) : spans.countP (covers x) = 0 := by
  induction h with
  | nil a => rfl
  | @cons a b c spans hlt hrest ih =>
    rw [List.countP_cons, ih (by omega)]
    have hnot : covers x (a, b) = false := by
      simp only [covers, Bool.and_eq_false_iff, decide_eq_false_iff_not]
      exact .inl (by omega)
    rw [hnot]
    rfl

theorem Tiles.countP_covers {x : Nat} (h : Tiles a spans c)
    (hlow : a ≤ x) (hhigh : x < c) : spans.countP (covers x) = 1 := by
  induction h with
  | nil a => omega
  | @cons a b c spans hlt hrest ih =>
    rw [List.countP_cons]
    by_cases hx : x < b
    · have hin : covers x (a, b) = true := by
        simp only [covers, Bool.and_eq_true, decide_eq_true_eq]
        exact ⟨hlow, hx⟩
      rw [hrest.countP_before hx, hin]
      rfl
    · have hout : covers x (a, b) = false := by
        simp only [covers, Bool.and_eq_false_iff, decide_eq_false_iff_not]
        exact .inr hx
      rw [ih (by omega) hhigh, hout]
      rfl

end ProtoTime.Tiling

/-!
Lists that are cut into frames of one size.
-/
namespace ProtoTime.Frames

variable {α : Type} {frames : List (List α)}

theorem length_flatten {channels : ℕ} (h : ∀ frame ∈ frames, frame.length = channels) :
    frames.flatten.length = frames.length * channels := by
  induction frames with
  | nil => exact (Nat.zero_mul channels).symm
  | cons frame frames ih =>
    rw [List.flatten_cons, List.length_append, h frame List.mem_cons_self,
      ih fun other hmem => h other (List.mem_cons_of_mem frame hmem), List.length_cons,
      Nat.succ_mul, Nat.add_comm]

theorem drop_flatten {channels : ℕ} (h : ∀ frame ∈ frames, frame.length = channels) (count : ℕ) :
    frames.flatten.drop (count * channels) = (frames.drop count).flatten := by
  induction frames generalizing count with
  | nil => simp
  | cons frame frames ih =>
    cases count with
    | zero => simp
    | succ count =>
      have hframe := h frame List.mem_cons_self
      rw [List.flatten_cons, Nat.succ_mul, Nat.add_comm, ← List.drop_drop,
        List.drop_left' hframe, List.drop_succ_cons]
      exact ih (fun other hmem => h other (List.mem_cons_of_mem frame hmem)) count

theorem take_flatten {channels : ℕ} (h : ∀ frame ∈ frames, frame.length = channels) (count : ℕ) :
    frames.flatten.take (count * channels) = (frames.take count).flatten := by
  induction frames generalizing count with
  | nil => simp
  | cons frame frames ih =>
    cases count with
    | zero => simp
    | succ count =>
      have hframe := h frame List.mem_cons_self
      rw [List.flatten_cons, Nat.succ_mul, Nat.add_comm, ← hframe, List.take_length_add_append,
        hframe, List.take_succ_cons, List.flatten_cons,
        ih (fun other hmem => h other (List.mem_cons_of_mem frame hmem)) count]

theorem drop_min_flatten {channels room : ℕ}
    (h : ∀ frame ∈ frames, frame.length = channels) (hroom : channels ∣ room) :
    ∃ count, frames.flatten.drop (frames.flatten.length - min frames.flatten.length room) =
      (frames.drop count).flatten := by
  obtain ⟨slots, rfl⟩ := hroom
  refine ⟨frames.length - min frames.length slots, ?_⟩
  rw [← drop_flatten h, length_flatten h, Nat.mul_comm channels slots, Nat.mul_min_mul_right,
    Nat.sub_mul]

end ProtoTime.Frames
