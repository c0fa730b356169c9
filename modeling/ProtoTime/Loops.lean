import Mathlib.Tactic.Common
import Mathlib.Data.Nat.Notation
import Mathlib.Data.List.Range

/-!
Counting loops in which one pass at most touches a given view of the state, and the first
elements of filtered lists.
-/
namespace ProtoTime.Loops

variable {σ κ α : Type}

theorem foldl_range_once {w : σ → κ} {f : σ → ℕ → σ} {g : κ → κ} {k n : ℕ}
    (hother : ∀ s, ∀ i < n, i ≠ k → w (f s i) = w s)
    (hk : k < n → ∀ s, w (f s k) = g (w s)) (s : σ) :
    w ((List.range n).foldl f s) = if k < n then g (w s) else w s := by
  induction n with
  | zero => rfl
  | succ n ih =>
    have hbefore := ih (fun s i hi => hother s i (Nat.lt_succ_of_lt hi))
      (fun hlt => hk (Nat.lt_succ_of_lt hlt))
    rw [List.range_succ, List.foldl_append, List.foldl_cons, List.foldl_nil]
    by_cases hlast : k = n
    · subst hlast
      rw [if_neg (Nat.lt_irrefl k)] at hbefore
      rw [if_pos (Nat.lt_succ_self k), hk (Nat.lt_succ_self k), hbefore]
    · rw [hother _ n (Nat.lt_succ_self n) (Ne.symm hlast), hbefore]
      by_cases hlt : k < n
      · rw [if_pos hlt, if_pos (Nat.lt_succ_of_lt hlt)]
      · rw [if_neg hlt, if_neg (by omega)]

theorem take_eq_filter_mem [DecidableEq α] {l : List α} (h : l.Nodup) (n : ℕ) :
    l.take n = l.filter fun a => decide (a ∈ l.take n) := by
  have hsplit : (l.take n ++ l.drop n).Nodup := by rwa [List.take_append_drop]
  have hdisjoint := (List.nodup_append.mp hsplit).2.2
  calc l.take n
      = (l.take n).filter (fun a => decide (a ∈ l.take n)) := by
        rw [List.filter_eq_self.mpr]
        intro a ha
        exact decide_eq_true ha
    _ = (l.take n).filter (fun a => decide (a ∈ l.take n)) ++
          (l.drop n).filter (fun a => decide (a ∈ l.take n)) := by
        have hnone : (l.drop n).filter (fun a => decide (a ∈ l.take n)) = [] := by
          rw [List.filter_eq_nil_iff]
          intro a ha htaken
          exact hdisjoint a (of_decide_eq_true htaken) a ha rfl
        rw [hnone, List.append_nil]
    _ = l.filter fun a => decide (a ∈ l.take n) := by
        rw [← List.filter_append, List.take_append_drop]

/-- Dropping some elements first changes which are the first `n` unless the dropped ones are
outside the first `n`, or nothing kept follows those. -/
theorem take_filter_eq_filter_take_iff {keep wanted : α → Bool} (l : List α) (n : ℕ)
    (hsub : ∀ a, keep a = true → wanted a = true) :
    (l.filter keep).take n = (l.take n).filter wanted ↔
      (∀ a ∈ l.take n, wanted a = true → keep a = true) ∧
      ((∀ a ∈ l.take n, wanted a = true) ∨ ∀ a ∈ l.drop n, keep a = false) := by
  have hsplit : l.filter keep = (l.take n).filter keep ++ (l.drop n).filter keep := by
    rw [← List.filter_append, List.take_append_drop]
  have hshort : ((l.take n).filter keep).length ≤ n :=
    Nat.le_trans (List.length_filter_le _ _) (List.length_take_le _ _)
  have hsame (h : ∀ a ∈ l.take n, wanted a = true → keep a = true) :
      (l.take n).filter keep = (l.take n).filter wanted := by
    apply List.filter_congr
    intro a ha
    cases hw : wanted a with
    | true => exact h a ha hw
    | false =>
      cases hk : keep a with
      | false => rfl
      | true => exact absurd (hsub a hk) (by simp [hw])
  rw [hsplit, List.take_append, List.take_of_length_le hshort]
  constructor
  · intro heq
    have hkept : ∀ a ∈ l.take n, wanted a = true → keep a = true := by
      intro a ha hw
      have hmem : a ∈ (l.take n).filter wanted := List.mem_filter.mpr ⟨ha, hw⟩
      rw [← heq] at hmem
      rcases List.mem_append.mp hmem with hfirst | hrest
      · exact (List.mem_filter.mp hfirst).2
      · exact (List.mem_filter.mp (List.mem_of_mem_take hrest)).2
    refine ⟨hkept, ?_⟩
    rw [hsame hkept, List.append_right_eq_self, List.take_eq_nil_iff] at heq
    rcases heq with hfull | hnone
    · left
      intro a ha
      have hall : ((l.take n).filter wanted).length = (l.take n).length := by
        have := List.length_filter_le wanted (l.take n)
        have := List.length_take_le n l
        omega
      exact List.length_filter_eq_length_iff.mp hall a ha
    · right
      intro a ha
      simpa using List.filter_eq_nil_iff.mp hnone a ha
  · rintro ⟨hkept, hrest⟩
    rw [hsame hkept, List.append_right_eq_self, List.take_eq_nil_iff]
    rcases hrest with hall | hnone
    · by_cases hlong : l.length ≤ n
      · right
        rw [List.drop_of_length_le hlong]
        rfl
      · left
        rw [List.filter_eq_self.mpr hall, List.length_take]
        omega
    · right
      rw [List.filter_eq_nil_iff]
      intro a ha
      simp [hnone a ha]

end ProtoTime.Loops
