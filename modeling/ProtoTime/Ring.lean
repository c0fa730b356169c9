import Mathlib.Data.Fin.Basic
import Mathlib.Data.List.Basic
import Mathlib.Data.List.DropRight
import Mathlib.Data.Nat.ModEq
import Mathlib.Logic.Function.Basic
import Mathlib.Tactic.Common

/-!
Rings of slots that keep the newest entries: the window of consecutive slots
behind a write cursor, and the bounded queue it shows.
-/
namespace ProtoTime.Ring

variable {α β : Type} {N : ℕ} [NeZero N]

/-- The entries of `count` consecutive slots from `start` on. -/
def window (slots : Fin N → α) (start count : ℕ) : List α :=
  (List.range count).map fun i => slots (Fin.ofNat N (start + i))

/-- A full queue drops its oldest entry for a new one. -/
def pushBounded (N : ℕ) (queue : List α) (x : α) : List α :=
  if queue.length < N then queue ++ [x] else queue.tail ++ [x]

@[simp] theorem window_zero (slots : Fin N → α) (start : ℕ) : window slots start 0 = [] := rfl

@[simp] theorem window_length (slots : Fin N → α) (start count : ℕ) :
    (window slots start count).length = count := by
  simp [window]

theorem window_succ (slots : Fin N → α) (start count : ℕ) :
    window slots start (count + 1) =
      window slots start count ++ [slots (Fin.ofNat N (start + count))] := by
  simp [window, List.range_succ]

theorem window_eq_cons (slots : Fin N → α) (start count : ℕ) :
    window slots start (count + 1) =
      slots (Fin.ofNat N start) :: window slots (start + 1) count := by
  simp [window, List.range_succ_eq_map, Function.comp_def, Nat.add_assoc, Nat.add_comm 1]

theorem ofNat_add_mod (start i : ℕ) : Fin.ofNat N (start % N + i) = Fin.ofNat N (start + i) := by
  apply Fin.ext
  simp [Fin.ofNat, Nat.mod_add_mod]

@[simp] theorem window_mod (slots : Fin N → α) (start count : ℕ) :
    window slots (start % N) count = window slots start count := by
  unfold window
  apply List.map_congr_left
  intro i _
  rw [ofNat_add_mod]

theorem window_map (f : α → β) (slots : Fin N → α) (start count : ℕ) :
    window (fun i => f (slots i)) start count = (window slots start count).map f := by
  simp [window, Function.comp_def]

theorem window_update_of_lt (slots : Fin N → α) {start count cursor : ℕ} (x : α)
    (hcursor : cursor % N = (start + count) % N) (h : count < N) :
    window (Function.update slots (Fin.ofNat N cursor) x) start count =
      window slots start count := by
  unfold window
  apply List.map_congr_left
  intro i hi
  have hlt := List.mem_range.mp hi
  refine Function.update_of_ne ?_ x slots
  intro heq
  have hmod : (start + i) % N = (start + count) % N := by
    rw [← hcursor]
    exact congrArg Fin.val heq
  have hoffset : (count - i) % N = 0 := by
    have h := Nat.sub_mod_eq_zero_of_mod_eq hmod.symm
    rwa [Nat.add_sub_add_left] at h
  rw [Nat.mod_eq_of_lt (by omega)] at hoffset
  omega

/-- A push behind the newest entry of a window shows as a push on the bounded queue. -/
theorem window_push (slots : Fin N → α) {start count cursor : ℕ} (x : α)
    (hcursor : cursor % N = (start + count) % N) (h : count ≤ N) :
    window (Function.update slots (Fin.ofNat N cursor) x)
        (if count < N then start else start + 1) (if count < N then count + 1 else count) =
      pushBounded N (window slots start count) x := by
  have hslot : Function.update slots (Fin.ofNat N cursor) x (Fin.ofNat N (start + count)) = x := by
    have heq : Fin.ofNat N (start + count) = Fin.ofNat N cursor := Fin.ext hcursor.symm
    rw [heq, Function.update_self]
  unfold pushBounded
  rw [window_length]
  by_cases hlt : count < N
  · rw [if_pos hlt, if_pos hlt, if_pos hlt, window_succ, hslot, window_update_of_lt slots x hcursor hlt]
  · have hfull : count = N := by omega
    rw [if_neg hlt, if_neg hlt, if_neg hlt]
    have hpos : 0 < N := Nat.pos_of_ne_zero (NeZero.ne N)
    obtain ⟨n, hn⟩ : ∃ n, count = n + 1 := ⟨count - 1, by omega⟩
    have hcursor' : cursor % N = (start + 1 + n) % N := by
      rw [hcursor]
      congr 1
      omega
    have hnext : start + 1 + n = start + count := by omega
    rw [hn, window_eq_cons slots, List.tail_cons, window_succ, hnext, hslot,
      window_update_of_lt slots x hcursor' (by omega)]

theorem pushBounded_rtake (xs : List α) (x : α) :
    pushBounded N (xs.rtake N) x = (xs ++ [x]).rtake N := by
  have hpos : 0 < N := Nat.pos_of_ne_zero (NeZero.ne N)
  unfold pushBounded
  simp only [List.rtake, List.length_drop, List.length_append, List.length_singleton,
    List.tail_drop]
  by_cases hlt : xs.length < N
  · have hall : xs.length - N = 0 := by omega
    have hnext : xs.length + 1 - N = 0 := by omega
    rw [if_pos (by omega), hall, hnext, List.drop_zero, List.drop_zero]
  · rw [if_neg (by omega), List.drop_append_of_le_length (by omega)]
    congr 2
    omega

omit [NeZero N] in
@[simp] theorem rtake_length (xs : List α) : (xs.rtake N).length = min xs.length N := by
  simp only [List.rtake, List.length_drop]
  omega

/-- The ring shows its reader the newest `N` of the unread entries. -/
structure Shows (slots : Fin N → α) (write read count : ℕ) (unread : List α) : Prop where
  counted : count = min unread.length N
  cursor : write ≡ read + count [MOD N]
  shown : window slots read count = unread.rtake N

namespace Shows

variable {slots : Fin N → α} {write read count : ℕ} {unread : List α}

theorem nil (slots : Fin N → α) (h : write ≡ read [MOD N]) : Shows slots write read 0 [] where
  counted := (Nat.zero_min N).symm
  cursor := h
  shown := by simp

theorem count_le (h : Shows slots write read count unread) : count ≤ N :=
  h.counted ▸ Nat.min_le_right _ _

/-- A new entry goes behind the newest one, and the reader of a full ring loses the oldest. -/
theorem push (h : Shows slots write read count unread) (x : α) :
    Shows (Function.update slots (Fin.ofNat N write) x) ((write + 1) % N)
      (if count < N then read else (read + 1) % N) (if count < N then count + 1 else count)
      (unread ++ [x]) := by
  have hcount := h.counted
  have hle := h.count_le
  have hnext : write + 1 ≡ read + count + 1 [MOD N] := h.cursor.add_right 1
  have hwrite : (write + 1) % N ≡ read + count + 1 [MOD N] := (Nat.mod_modEq _ N).trans hnext
  have hwindow := window_push slots x h.cursor hle
  rw [h.shown, pushBounded_rtake] at hwindow
  by_cases hlt : count < N
  · rw [if_pos hlt, if_pos hlt] at hwindow
    rw [if_pos hlt, if_pos hlt]
    refine ⟨?_, hwrite, hwindow⟩
    rw [List.length_append, List.length_singleton]
    omega
  · rw [if_neg hlt, if_neg hlt] at hwindow
    rw [if_neg hlt, if_neg hlt]
    refine ⟨?_, ?_, (window_mod _ _ _).trans hwindow⟩
    · rw [List.length_append, List.length_singleton]
      omega
    · have hread : (read + 1) % N + count ≡ read + 1 + count [MOD N] :=
        (Nat.mod_modEq _ N).add_right count
      rw [Nat.add_right_comm] at hread
      exact hwrite.trans hread.symm

end Shows

end ProtoTime.Ring
