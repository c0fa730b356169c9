import Mathlib.Algebra.Order.BigOperators.Group.Finset

/-!
Sums over a family of cells of which one changes, and counters filed under an index.
-/
namespace ProtoTime.Tally
open Function

universe u v w

variable {ι : Type u} {α : Type v} {M : Type w} [DecidableEq ι] [AddCommMonoid M]

/-- A measure summed over all cells. -/
def total [Fintype ι] (measure : α → M) (cells : ι → α) : M := ∑ i, measure (cells i)

theorem total_update [Fintype ι] (measure : α → M) (cells : ι → α) (i : ι) (value : α) :
    total measure (update cells i value) + measure (cells i) =
      total measure cells + measure value := by
  have hrest : ∑ j ∈ Finset.univ.erase i, measure (update cells i value j) =
      ∑ j ∈ Finset.univ.erase i, measure (cells j) := by
    apply Finset.sum_congr rfl
    intro j hj
    rw [update_of_ne (Finset.ne_of_mem_erase hj)]
  have hnew := Finset.add_sum_erase Finset.univ (fun j => measure (update cells i value j))
    (Finset.mem_univ i)
  have hold := Finset.add_sum_erase Finset.univ (fun j => measure (cells j)) (Finset.mem_univ i)
  simp only [update_self] at hnew
  rw [total, total, ← hnew, ← hold, hrest]
  ac_rfl

omit [DecidableEq ι] in
theorem total_congr [Fintype ι] {measure : α → M} {cells cells' : ι → α}
    (h : ∀ i, measure (cells' i) = measure (cells i)) :
    total measure cells' = total measure cells := by
  apply Finset.sum_congr rfl
  intro i _
  exact h i

omit [DecidableEq ι] in
theorem total_eq_zero [Fintype ι] {measure : α → M} {cells : ι → α}
    (h : ∀ i, measure (cells i) = 0) : total measure cells = 0 := by
  apply Finset.sum_eq_zero
  intro i _
  exact h i

omit [DecidableEq ι] in
theorem total_le_total [Fintype ι] {measure measure' : α → ℕ} (cells : ι → α)
    (h : ∀ value, measure value ≤ measure' value) : total measure cells ≤ total measure' cells := by
  apply Finset.sum_le_sum
  intro i _
  exact h (cells i)

/-- One more counted under an index. -/
def increment (counts : ι → ℕ) (i : ι) : ι → ℕ := update counts i (counts i + 1)

theorem sum_increment (counts : ι → ℕ) {i : ι} {s : Finset ι} (hi : i ∈ s) :
    ∑ j ∈ s, increment counts i j = ∑ j ∈ s, counts j + 1 := by
  have hrest : ∑ j ∈ s.erase i, increment counts i j = ∑ j ∈ s.erase i, counts j := by
    apply Finset.sum_congr rfl
    intro j hj
    exact update_of_ne (Finset.ne_of_mem_erase hj) _ _
  rw [← Finset.add_sum_erase s _ hi, ← Finset.add_sum_erase s counts hi, hrest]
  simp only [increment, update_self]
  omega

theorem sum_foldl_increment {β : Type v} (index : β → ι) {s : Finset ι} (items : List β)
    (hindex : ∀ item ∈ items, index item ∈ s) (counts : ι → ℕ) :
    ∑ j ∈ s, items.foldl (fun counts item => increment counts (index item)) counts j =
      ∑ j ∈ s, counts j + items.length := by
  induction items generalizing counts with
  | nil => rfl
  | cons item items ih =>
    rw [List.foldl_cons, ih fun other hother => hindex other (List.mem_cons_of_mem _ hother),
      sum_increment _ (hindex item List.mem_cons_self), List.length_cons]
    omega

end ProtoTime.Tally
