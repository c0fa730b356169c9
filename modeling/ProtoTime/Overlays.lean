import Mathlib.Data.List.Basic
import Mathlib.Tactic.Common

/-!
Runs of values written over a list, each where the list holds the run it
expects. Runs that keep apart leave one another alone: each finds what the first
list held and is there at the end.
-/
namespace ProtoTime.Overlays

variable {α : Type}

/-- A run of values for one place of a list, and the run expected there. -/
structure Overlay (α : Type) where
  start : ℕ
  expected : List α
  replacement : List α

/-- The list holds these values from this place on. -/
def HoldsAt (xs : List α) (start : ℕ) (vs : List α) : Prop :=
  ∀ k < vs.length, xs[start + k]? = vs[k]?

def overwrite (xs : List α) (start : ℕ) (vs : List α) : List α :=
  xs.take start ++ vs ++ xs.drop (start + vs.length)

namespace Overlay

/-- The places the run is written to. -/
def Covers (p : Overlay α) (i : ℕ) : Prop := p.start ≤ i ∧ i < p.start + p.replacement.length

def Apart (p q : Overlay α) : Prop := ∀ i, ¬ (p.Covers i ∧ q.Covers i)

/-- The run is as long as the one it replaces, which stands in the list. -/
structure Fits (xs : List α) (p : Overlay α) : Prop where
  sized : p.replacement.length = p.expected.length
  inside : p.start + p.expected.length ≤ xs.length
  found : HoldsAt xs p.start p.expected

end Overlay

open Overlay

/-- The list after the runs in their order, each of which fits what it finds. -/
inductive Applied : List α → List (Overlay α) → List α → Prop
  | nil (xs : List α) : Applied xs [] xs
  | cons {xs ys : List α} {p : Overlay α} {ps : List (Overlay α)} (fits : p.Fits xs)
      (rest : Applied (overwrite xs p.start p.replacement) ps ys) : Applied xs (p :: ps) ys

structure Composes (xs : List α) (ps : List (Overlay α)) (ys : List α) : Prop where
  length : ys.length = xs.length
  apart : ps.Pairwise Apart
  written : ∀ p ∈ ps, HoldsAt ys p.start p.replacement
  original : ∀ p ∈ ps, HoldsAt xs p.start p.expected
  elsewhere : ∀ i, (∀ p ∈ ps, ¬ p.Covers i) → ys[i]? = xs[i]?

variable {vs xs : List α}

theorem length_overwrite {start : ℕ} (h : start + vs.length ≤ xs.length) :
    (overwrite xs start vs).length = xs.length := by
  unfold overwrite
  simp only [List.length_append, List.length_take, List.length_drop]
  omega

theorem overwrite_inside {start k : ℕ} (h : start + vs.length ≤ xs.length)
    (hk : k < vs.length) : (overwrite xs start vs)[start + k]? = vs[k]? := by
  have htake : (xs.take start).length = start := by
    rw [List.length_take]
    omega
  unfold overwrite
  rw [List.append_assoc, List.getElem?_append_right (by omega), htake,
    List.getElem?_append_left (by omega), Nat.add_sub_cancel_left]

theorem overwrite_outside {start i : ℕ} (h : start + vs.length ≤ xs.length)
    (hi : ¬ (start ≤ i ∧ i < start + vs.length)) : (overwrite xs start vs)[i]? = xs[i]? := by
  have htake : (xs.take start).length = start := by
    rw [List.length_take]
    omega
  unfold overwrite
  rw [List.append_assoc]
  by_cases hbefore : i < start
  · rw [List.getElem?_append_left (by omega), List.getElem?_take_of_lt hbefore]
  · rw [List.getElem?_append_right (by omega), htake, List.getElem?_append_right (by omega),
      List.getElem?_drop]
    congr 1
    omega

variable {ys : List α}

theorem HoldsAt.congr {start : ℕ}
    (h : ∀ k < vs.length, ys[start + k]? = xs[start + k]?) (hx : HoldsAt xs start vs) :
    HoldsAt ys start vs := by
  intro k hk
  rw [h k hk]
  exact hx k hk

theorem holdsAt_of_window {start : ℕ} (h : (xs.drop start).take vs.length = vs) :
    HoldsAt xs start vs := by
  intro k hk
  have hget : ((xs.drop start).take vs.length)[k]? = vs[k]? := by rw [h]
  rw [List.getElem?_take_of_lt hk, List.getElem?_drop] at hget
  exact hget

theorem Overlay.Fits.range {p : Overlay α} (h : p.Fits xs) :
    p.start + p.replacement.length ≤ xs.length := by
  rw [h.sized]
  exact h.inside

variable {ps : List (Overlay α)}

section

variable (h : Applied xs ps ys)

include h

theorem Applied.append {zs : List α} {qs : List (Overlay α)}
    (hrest : Applied ys qs zs) : Applied xs (ps ++ qs) zs := by
  induction h with
  | nil xs => exact hrest
  | cons fits _ ih => exact .cons fits (ih hrest)

theorem Applied.length : ys.length = xs.length := by
  induction h with
  | nil xs => rfl
  | cons fits _ ih => rw [ih, length_overwrite fits.range]

theorem Applied.sized :
    ∀ p ∈ ps, p.replacement.length = p.expected.length := by
  induction h with
  | nil xs => exact fun p hp => absurd hp List.not_mem_nil
  | cons fits _ ih =>
    intro q hq
    rcases List.mem_cons.mp hq with rfl | hlater
    · exact fits.sized
    · exact ih q hlater

theorem Applied.elsewhere {i : ℕ} (hi : ∀ p ∈ ps, ¬ p.Covers i) : ys[i]? = xs[i]? := by
  induction h with
  | nil xs => rfl
  | @cons xs ys p ps fits _ ih =>
    rw [ih (fun q hq => hi q (List.mem_cons_of_mem p hq)),
      overwrite_outside fits.range (hi p List.mem_cons_self)]

theorem Applied.written
    (hapart : ps.Pairwise Apart) : ∀ p ∈ ps, HoldsAt ys p.start p.replacement := by
  induction h with
  | nil xs => exact fun p hp => absurd hp List.not_mem_nil
  | @cons xs ys p ps fits rest ih =>
    rw [List.pairwise_cons] at hapart
    intro q hq
    rcases List.mem_cons.mp hq with rfl | hlater
    · intro k hk
      have huncovered : ∀ r ∈ ps, ¬ r.Covers (q.start + k) := by
        intro r hr hcovers
        exact hapart.1 r hr (q.start + k) ⟨⟨by omega, by omega⟩, hcovers⟩
      rw [rest.elsewhere huncovered, overwrite_inside fits.range hk]
    · exact ih hapart.2 q hlater

theorem Applied.original
    (hapart : ps.Pairwise Apart) : ∀ p ∈ ps, HoldsAt xs p.start p.expected := by
  induction h with
  | nil xs => exact fun p hp => absurd hp List.not_mem_nil
  | @cons xs ys p ps fits rest ih =>
    rw [List.pairwise_cons] at hapart
    intro q hq
    rcases List.mem_cons.mp hq with rfl | hlater
    · exact fits.found
    · have hsized : q.replacement.length = q.expected.length := rest.sized q hlater
      refine HoldsAt.congr ?_ (ih hapart.2 q hlater)
      intro k hk
      have houtside : ¬ p.Covers (q.start + k) := by
        intro hp
        exact hapart.1 q hlater (q.start + k) ⟨hp, ⟨by omega, by omega⟩⟩
      exact (overwrite_outside fits.range houtside).symm

theorem Applied.composes_iff : Composes xs ps ys ↔ ps.Pairwise Apart := by
  constructor
  · exact fun hcomposes => hcomposes.apart
  · intro hapart
    exact ⟨h.length, hapart, h.written hapart, h.original hapart, fun i hi => h.elsewhere hi⟩

end

end ProtoTime.Overlays
