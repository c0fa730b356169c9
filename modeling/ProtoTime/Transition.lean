import Mathlib.Tactic.Common
import Mathlib.Data.Nat.Notation

/-!
Runs of a deterministic transition system, with the induction rules for
invariants, for guarded runs and for two systems run side by side.
-/
namespace ProtoTime.Transition

universe u v w

variable {σ : Type u} {τ : Type v} {α : Type w}

/-- The state after a list of actions. -/
def run (step : σ → α → σ) (s : σ) (actions : List α) : σ := actions.foldl step s

@[simp] theorem run_nil (step : σ → α → σ) (s : σ) : run step s [] = s := rfl

@[simp] theorem run_cons (step : σ → α → σ) (s : σ) (a : α) (actions : List α) :
    run step s (a :: actions) = run step (step s a) actions := rfl

/-- Every action of the run meets the guard in the state it is taken from. -/
def Guarded (step : σ → α → σ) (guard : σ → α → Prop) : σ → List α → Prop
  | _, [] => True
  | s, a :: actions => guard s a ∧ Guarded step guard (step s a) actions

variable {P : σ → Prop} {s : σ} {step : σ → α → σ}

theorem run_invariant (hstep : ∀ s a, P s → P (step s a)) (hs : P s) (actions : List α) :
    P (run step s actions) := by
  induction actions generalizing s with
  | nil => exact hs
  | cons a actions ih => exact ih (hstep s a hs)

variable {guard : σ → α → Prop}

theorem run_invariant_of_guarded
    (hstep : ∀ s a, guard s a → P s → P (step s a)) (hs : P s) {actions : List α}
    (hg : Guarded step guard s actions) : P (run step s actions) := by
  induction actions generalizing s with
  | nil => exact hs
  | cons a actions ih => exact ih (hstep s a hg.1 hs) hg.2

theorem run_append (step : σ → α → σ) (s : σ) (before after : List α) :
    run step s (before ++ after) = run step (run step s before) after :=
  List.foldl_append

theorem guarded_append {before after : List α} : Guarded step guard s (before ++ after) ↔
      Guarded step guard s before ∧ Guarded step guard (run step s before) after := by
  induction before generalizing s with
  | nil => exact ⟨fun h => ⟨trivial, h⟩, fun h => h.2⟩
  | cons a before ih =>
    constructor
    · rintro ⟨hguard, hrest⟩
      obtain ⟨hbefore, hafter⟩ := ih.mp hrest
      exact ⟨⟨hguard, hbefore⟩, hafter⟩
    · rintro ⟨⟨hguard, hbefore⟩, hafter⟩
      exact ⟨hguard, ih.mpr ⟨hbefore, hafter⟩⟩

/-- When the guard says exactly which actions keep a property, a run meets the guard
throughout just when the property holds in every state it passes. -/
theorem guarded_iff_forall_states
    (hstep : ∀ s a, P s → (P (step s a) ↔ guard s a)) (hs : P s) (actions : List α) :
    Guarded step guard s actions ↔
      ∀ before after, actions = before ++ after → P (run step s before) := by
  induction actions generalizing s with
  | nil =>
    constructor
    · intro _ before after h
      rw [(List.append_eq_nil_iff.mp h.symm).1]
      exact hs
    · exact fun _ => trivial
  | cons a actions ih =>
    constructor
    · rintro ⟨hguard, hrest⟩ before after h
      have hnext := (hstep s a hs).mpr hguard
      cases before with
      | nil => exact hs
      | cons b before =>
        obtain ⟨rfl, hrest'⟩ := List.cons.inj h
        exact (ih hnext).mp hrest before after hrest'
    · intro hall
      have hnext : P (step s a) := hall [a] actions rfl
      refine ⟨(hstep s a hs).mp hnext, (ih hnext).mpr ?_⟩
      intro before after h
      exact hall (a :: before) after (congrArg (a :: ·) h)

theorem run_relation {stepS : σ → α → σ} {stepT : τ → α → τ} {R : σ → τ → Prop}
    (hstep : ∀ s t a, R s t → R (stepS s a) (stepT t a)) {t : τ} (hst : R s t)
    (actions : List α) : R (run stepS s actions) (run stepT t actions) := by
  induction actions generalizing s t with
  | nil => exact hst
  | cons a actions ih => exact ih (hstep s t a hst)

end ProtoTime.Transition

/-!
Stateful computations that move their state within a reflexive and transitive relation, with
the rules that follow how a computation is put together.
-/
namespace ProtoTime.Stateful

universe u

variable {σ : Type u} {α β : Type u} {R : σ → σ → Prop}

/-- The computation ends in a state related to the one it started in. -/
def Stays (R : σ → σ → Prop) (m : StateM σ α) : Prop := ∀ s, R s (m s).2

theorem Stays.pure (hrefl : ∀ s, R s s) (a : α) : Stays R (pure a : StateM σ α) := hrefl

theorem Stays.get (hrefl : ∀ s, R s s) : Stays R (get : StateM σ σ) := hrefl

theorem Stays.modify {f : σ → σ} (h : ∀ s, R s (f s)) :
    Stays R (modify f : StateM σ PUnit) := h

theorem Stays.modifyGet {f : σ → α × σ} (h : ∀ s, R s (f s).2) :
    Stays R (modifyGet f : StateM σ α) := h

theorem Stays.bind (htrans : ∀ s t u, R s t → R t u → R s u) {m : StateM σ α} {f : α → StateM σ β}
    (hm : Stays R m) (hf : ∀ a, Stays R (f a)) : Stays R (m >>= f) := by
  intro s
  exact htrans s (m s).2 _ (hm s) (hf (m s).1 (m s).2)

theorem Stays.ite {p : Prop} [Decidable p] {m n : StateM σ α} (hm : p → Stays R m)
    (hn : ¬ p → Stays R n) : Stays R (if p then m else n) := by
  split
  · next hp => exact hm hp
  · next hp => exact hn hp

end ProtoTime.Stateful
