import Mathlib.Tactic.Common

/-!
Computations on a state that can fail part way, and the rules by which one is seen to be all or
nothing: whatever can fail comes before whatever writes.
-/
namespace ProtoTime.Transaction

variable {σ ε α β : Type}

/-- A computation that fails in the state it has reached. -/
abbrev Action (σ ε : Type) := ExceptT ε (StateM σ)

def exec (x : Action σ ε α) (s : σ) : Except ε α × σ := x.run s

def fromExcept : Except ε α → Action σ ε α
  | .ok a => pure a
  | .error e => throw e

/-- Go on where a condition holds. -/
def require (condition : Bool) (e : ε) : Action σ ε Unit :=
  fromExcept (if condition then .ok () else .error e)

theorem exec_bind (x : Action σ ε α) (f : α → Action σ ε β) (s : σ) :
    exec (x >>= f) s = match exec x s with
      | (.ok a, t) => exec (f a) t
      | (.error e, t) => (.error e, t) := by
  change (ExceptT.bindCont f (exec x s).1) (exec x s).2 = _
  cases exec x s with
  | mk result t => cases result <;> rfl

theorem exec_get (s : σ) : exec (get : Action σ ε σ) s = (.ok s, s) := rfl

theorem exec_modify (f : σ → σ) (s : σ) : exec (modify f : Action σ ε PUnit) s = (.ok (), f s) := rfl

theorem exec_fromExcept (r : Except ε α) (s : σ) : exec (fromExcept r : Action σ ε α) s = (r, s) := by
  cases r <;> rfl

variable {x : Action σ ε α} {f : α → Action σ ε β} {s : σ}

theorem exec_bind_ok {t : σ} {a : α}
    (h : exec x s = (.ok a, t)) : exec (x >>= f) s = exec (f a) t := by
  rw [exec_bind, h]

variable {e : ε}

theorem exec_bind_error {t : σ}
    (h : exec x s = (.error e, t)) : exec (x >>= f) s = (.error e, t) := by
  rw [exec_bind, h]

theorem exec_require_bind {condition : Bool} {f : Unit → Action σ ε β}
    (h : condition = true) : exec (require condition e >>= f) s = exec (f ()) s := by
  apply exec_bind_ok
  unfold require
  rw [if_pos h]
  rfl

variable {u : σ} {b : β}

theorem exec_bind_eq_ok (h : exec (x >>= f) s = (.ok b, u)) :
    ∃ a t, exec x s = (.ok a, t) ∧ exec (f a) t = (.ok b, u) := by
  rw [exec_bind] at h
  cases hx : exec x s with
  | mk result t =>
    rw [hx] at h
    cases result with
    | ok a => exact ⟨a, t, rfl, h⟩
    | error e => cases h

theorem exec_fromExcept_bind_eq_ok {r : Except ε α}
    (h : exec (fromExcept r >>= f) s = (.ok b, u)) : ∃ a, r = .ok a ∧ exec (f a) s = (.ok b, u) := by
  cases r with
  | ok a => exact ⟨a, rfl, h⟩
  | error e => cases h

theorem exec_require_bind_eq_ok {condition : Bool} {f : Unit → Action σ ε β}
    (h : exec (require condition e >>= f) s = (.ok b, u)) :
    condition = true ∧ exec (f ()) s = (.ok b, u) := by
  cases hcondition : condition with
  | false =>
    rw [hcondition] at h
    cases h
  | true =>
    rw [hcondition] at h
    exact ⟨rfl, h⟩

/-! ## What a computation does to the state -/

/-- The state is as it was, whether the computation succeeds or fails. -/
def Keeps (x : Action σ ε α) (s : σ) : Prop := (exec x s).2 = s

/-- A failure leaves the state as it was. -/
def Atomic (x : Action σ ε α) (s : σ) : Prop :=
  ∀ e, (exec x s).1 = .error e → (exec x s).2 = s

theorem keeps_pure (a : α) (s : σ) : Keeps (pure a : Action σ ε α) s := rfl

theorem keeps_get (s : σ) : Keeps (get : Action σ ε σ) s := rfl

theorem keeps_fromExcept (r : Except ε α) (s : σ) : Keeps (fromExcept r : Action σ ε α) s := by
  unfold Keeps
  rw [exec_fromExcept]

theorem keeps_require (condition : Bool) (e : ε) (s : σ) :
    Keeps (require condition e : Action σ ε Unit) s :=
  keeps_fromExcept _ s

theorem Keeps.bind (hx : Keeps x s)
    (hf : ∀ a, exec x s = (.ok a, s) → Keeps (f a) s) : Keeps (x >>= f) s := by
  unfold Keeps at *
  rw [exec_bind]
  cases h : exec x s with
  | mk result t =>
    rw [h] at hx hf
    obtain rfl : t = s := hx
    cases result with
    | ok a => exact hf a rfl
    | error e => rfl

theorem atomic_set (t s : σ) : Atomic (set t : Action σ ε PUnit) s := by
  intro e he
  cases he

theorem Keeps.bind_atomic (hx : Keeps x s)
    (hf : ∀ a, exec x s = (.ok a, s) → Atomic (f a) s) : Atomic (x >>= f) s := by
  intro e he
  unfold Keeps at hx
  rw [exec_bind] at he ⊢
  cases h : exec x s with
  | mk result t =>
    rw [h] at hx hf he
    obtain rfl : t = s := hx
    cases result with
    | ok a => exact hf a rfl e he
    | error e' => rfl

/-! ## Invariants -/

/-- What held of the state still holds of it, whether the computation succeeds or fails. -/
def Preserves (P : σ → Prop) (x : Action σ ε α) : Prop := ∀ s, P s → P (exec x s).2

theorem preserves_pure (P : σ → Prop) (a : α) : Preserves P (pure a : Action σ ε α) := fun _ h => h

theorem preserves_fromExcept (P : σ → Prop) (r : Except ε α) :
    Preserves P (fromExcept r : Action σ ε α) := by
  intro s h
  rw [exec_fromExcept]
  exact h

theorem preserves_require (P : σ → Prop) (condition : Bool) (e : ε) :
    Preserves P (require condition e : Action σ ε Unit) := preserves_fromExcept P _

variable {P : σ → Prop}

theorem preserves_modify {f : σ → σ} (h : ∀ s, P s → P (f s)) :
    Preserves P (modify f : Action σ ε PUnit) := h

theorem Preserves.bind
    (hx : Preserves P x) (hf : ∀ a, Preserves P (f a)) : Preserves P (x >>= f) := by
  intro s h
  have hnext := hx s h
  rw [exec_bind]
  cases hexec : exec x s with
  | mk result t =>
    rw [hexec] at hnext
    cases result with
    | ok a => exact hf a t hnext
    | error e => exact hnext

theorem preserves_get_bind {f : σ → Action σ ε β}
    (hf : ∀ s, P s → P (exec (f s) s).2) : Preserves P (get >>= f) := by
  intro s h
  exact hf s h

end ProtoTime.Transaction
