import Mathlib.Data.List.Forall2
import Mathlib.Tactic.Common

/-!
What an accepted result says about its parts: the rules for sequences of checks
that stop at the first refusal.
-/
namespace ProtoTime.Results

variable {ε α β : Type}

variable {x : Except ε α} {f : α → Except ε β} {b : β}

theorem bind_eq_ok (h : (x >>= f) = .ok b) : ∃ a, x = .ok a ∧ f a = .ok b := by
  cases x with
  | error e => cases h
  | ok a => exact ⟨a, rfl, h⟩

theorem ok_bind {a : α} (h : x = .ok a) (f : α → Except ε β) : (x >>= f) = f a := by
  rw [h]
  rfl

theorem map_eq_ok {f : α → β} (h : x.map f = .ok b) : ∃ a, x = .ok a ∧ f a = b := by
  cases x with
  | error e => cases h
  | ok a => exact ⟨a, rfl, Except.ok.inj h⟩

/-- A check with the refusal it makes. -/
def require (condition : Bool) (refusal : ε) : Except ε Unit :=
  if condition then .ok () else .error refusal

variable {condition : Bool}

theorem require_eq_ok {refusal : ε} {u : Unit}
    (h : require condition refusal = .ok u) : condition = true := by
  unfold require at h
  split at h
  · assumption
  · cases h

theorem require_true (refusal : ε) (h : condition = true) : require condition refusal = .ok () := by
  unfold require
  rw [if_pos h]

theorem require_false (refusal : ε) (h : condition = false) :
    require condition refusal = .error refusal := by
  unfold require
  rw [if_neg (by simp [h])]

variable {xs : List α} {ys : List β}

theorem mapM_eq_ok (h : xs.mapM f = .ok ys) : List.Forall₂ (fun x y => f x = .ok y) xs ys := by
  induction xs generalizing ys with
  | nil =>
    cases h
    exact .nil
  | cons x xs ih =>
    rw [List.mapM_cons] at h
    obtain ⟨y, hy, h⟩ := bind_eq_ok h
    obtain ⟨rest, hrest, h⟩ := bind_eq_ok h
    cases h
    exact .cons hy (ih hrest)

theorem mapM_map_of_ok {text : β → α} (h : ∀ y ∈ ys, f (text y) = .ok y) :
    (ys.map text).mapM f = .ok ys := by
  induction ys with
  | nil => rfl
  | cons y ys ih =>
    obtain ⟨hy, hys⟩ := List.forall_mem_cons.mp h
    rw [List.map_cons, List.mapM_cons, ok_bind hy, ok_bind (ih hys)]
    rfl

theorem mapM_mono {g : α → Except ε β}
    (hmono : ∀ x y, f x = .ok y → g x = .ok y) (h : xs.mapM f = .ok ys) : xs.mapM g = .ok ys := by
  induction xs generalizing ys with
  | nil => exact h
  | cons x xs ih =>
    rw [List.mapM_cons] at h ⊢
    obtain ⟨y, hy, h⟩ := bind_eq_ok h
    obtain ⟨rest, hrest, h⟩ := bind_eq_ok h
    rw [ok_bind (hmono x y hy), ok_bind (ih hrest)]
    exact h

theorem forall₂_left {R : α → β → Prop} (h : List.Forall₂ R xs ys)
    {x : α} (hx : x ∈ xs) : ∃ y ∈ ys, R x y := by
  induction h with
  | nil => exact absurd hx List.not_mem_nil
  | @cons a b xs ys hab _ ih =>
    rcases List.mem_cons.mp hx with rfl | hmem
    · exact ⟨b, List.mem_cons_self, hab⟩
    · obtain ⟨y, hy, hxy⟩ := ih hmem
      exact ⟨y, List.mem_cons_of_mem _ hy, hxy⟩

theorem forall₂_right {R : α → β → Prop} (h : List.Forall₂ R xs ys)
    {y : β} (hy : y ∈ ys) : ∃ x ∈ xs, R x y := forall₂_left h.flip hy

theorem mapM_ok_iff : (∃ ys, xs.mapM f = .ok ys) ↔ ∀ x ∈ xs, ∃ y, f x = .ok y := by
  constructor
  · rintro ⟨ys, h⟩ x hx
    obtain ⟨y, -, hy⟩ := forall₂_left (mapM_eq_ok h) hx
    exact ⟨y, hy⟩
  · intro h
    induction xs with
    | nil => exact ⟨[], rfl⟩
    | cons x xs ih =>
      obtain ⟨⟨y, hy⟩, hxs⟩ := List.forall_mem_cons.mp h
      obtain ⟨ys, hys⟩ := ih hxs
      exact ⟨y :: ys, by rw [List.mapM_cons, ok_bind hy, ok_bind hys]; rfl⟩

theorem forM_eq_ok {f : α → Except ε Unit} {u : Unit} (h : xs.forM f = .ok u) :
    ∀ x ∈ xs, f x = .ok () := by
  induction xs with
  | nil => exact fun x hx => absurd hx List.not_mem_nil
  | cons x xs ih =>
    obtain ⟨_, hx, h⟩ := bind_eq_ok h
    intro y hy
    rcases List.mem_cons.mp hy with rfl | hmem
    · exact hx
    · exact ih h y hmem

theorem forM_of_ok {f : α → Except ε Unit} (h : ∀ x ∈ xs, f x = .ok ()) : xs.forM f = .ok () := by
  induction xs with
  | nil => rfl
  | cons x xs ih =>
    change (f x >>= fun _ => xs.forM f) = .ok ()
    rw [ok_bind (h x List.mem_cons_self)]
    exact ih (fun y hy => h y (List.mem_cons_of_mem x hy))

theorem foldlM_invariant {f : β → α → Except ε β} {P : β → Prop} {c : β}
    (hstep : ∀ x ∈ xs, ∀ s t, P s → f s x = .ok t → P t) (hb : P b)
    (h : xs.foldlM f b = .ok c) : P c := by
  induction xs generalizing b with
  | nil =>
    cases h
    exact hb
  | cons x xs ih =>
    obtain ⟨s, hs, h⟩ := bind_eq_ok h
    have hkept : P s := hstep x (by simp) b s hb hs
    exact ih (fun y hy => hstep y (by simp [hy])) hkept h

theorem foldlM_forall {f : β → α → Except ε β} {Q : α → Prop} {c : β}
    (hstep : ∀ x ∈ xs, ∀ s t, f s x = .ok t → Q x) (h : xs.foldlM f b = .ok c) :
    ∀ x ∈ xs, Q x := by
  induction xs generalizing b with
  | nil => exact fun x hx => absurd hx List.not_mem_nil
  | cons x xs ih =>
    obtain ⟨s, hs, h⟩ := bind_eq_ok h
    intro y hy
    rcases List.mem_cons.mp hy with rfl | hmem
    · exact hstep y (by simp) b s hs
    · exact ih (fun z hz => hstep z (by simp [hz])) h y hmem

end ProtoTime.Results
