import ProtoTime.Json
import ProtoTime.Results

/-!
Merging an object field by field: each step computes a field anew from what the
field holds, or leaves it as it is.
-/
namespace ProtoTime.FieldMerge

open Results

/-- A field and what is made of its value; nothing means that it is left alone. -/
abbrev Step := String × (Option Json → Except String (Option Json))

def mergeField (next : Json) (step : Step) : Except String Json := do
  match ← step.2 (next.find? step.1) with
  | none => return next
  | some value => next.set step.1 value

def mergeFields (steps : List Step) (j : Json) : Except String Json := steps.foldlM mergeField j

variable {j : Json}

theorem mergeField_eq_ok {next : Json} {step : Step} (h : mergeField j step = .ok next) :
    (∃ r, step.2 (j.find? step.1) = .ok r ∧ next.find? step.1 = r.or (j.find? step.1))
      ∧ ∀ key, key ≠ step.1 → next.find? key = j.find? key := by
  obtain ⟨r, hr, h⟩ := bind_eq_ok h
  cases r with
  | none =>
    cases h
    exact ⟨⟨none, hr, rfl⟩, fun key _ => rfl⟩
  | some value =>
    exact ⟨⟨some value, hr, Json.find?_of_set h⟩, fun key hne => Json.find?_of_set_of_ne h hne⟩

variable {steps : List Step}

/-- Each field holds what its step made of it, and any other field is as it was. -/
theorem mergeFields_eq_ok {next : Json} (hnodup : (steps.map Prod.fst).Nodup)
    (h : mergeFields steps j = .ok next) :
    (∀ s ∈ steps, ∃ r, s.2 (j.find? s.1) = .ok r ∧ next.find? s.1 = r.or (j.find? s.1))
      ∧ ∀ key, key ∉ steps.map Prod.fst → next.find? key = j.find? key := by
  induction steps generalizing j with
  | nil =>
    cases h
    exact ⟨fun s hs => absurd hs List.not_mem_nil, fun key _ => rfl⟩
  | cons step steps ih =>
    obtain ⟨middle, hmiddle, h⟩ := bind_eq_ok h
    obtain ⟨hfirst, hothers⟩ := mergeField_eq_ok hmiddle
    rw [List.map_cons, List.nodup_cons] at hnodup
    obtain ⟨hrest, hkept⟩ := ih hnodup.2 h
    constructor
    · intro s hs
      rcases List.mem_cons.mp hs with rfl | hmem
      · rw [hkept s.1 hnodup.1]
        exact hfirst
      · have hne : s.1 ≠ step.1 := by
          intro heq
          exact hnodup.1 (heq ▸ List.mem_map_of_mem hmem)
        rw [← hothers s.1 hne]
        exact hrest s hmem
    · intro key hkey
      rw [List.map_cons, List.mem_cons, not_or] at hkey
      rw [hkept key hkey.2, hothers key hkey.1]

theorem set_find? {value : Json} {key : String} (h : j.find? key = some value) :
    j.set key value = .ok j := by
  cases j with
  | obj fields =>
    change Except.ok (Json.obj (Json.setField key value fields)) = _
    rw [Json.setField_of_lookup h]
  | null => cases h
  | bool b => cases h
  | int a => cases h
  | float f => cases h
  | str s => cases h
  | arr xs => cases h

/-- What the step made of the field is what it makes of that again. -/
def StableAt (f : Option Json → Except String (Option Json)) (x : Option Json) : Prop :=
  ∀ r, f x = .ok r → f (r.or x) = .ok none ∨ f (r.or x) = .ok (r.or x)

theorem mergeField_of_fixed {step : Step}
    (h : step.2 (j.find? step.1) = .ok none ∨ step.2 (j.find? step.1) = .ok (j.find? step.1)) :
    mergeField j step = .ok j := by
  unfold mergeField
  rcases h with h | h
  · rw [h]
    rfl
  · rw [h]
    cases hfound : j.find? step.1 with
    | none => rfl
    | some value => exact set_find? hfound

theorem mergeFields_of_fixed
    (h : ∀ s ∈ steps, s.2 (j.find? s.1) = .ok none ∨ s.2 (j.find? s.1) = .ok (j.find? s.1)) :
    mergeFields steps j = .ok j := by
  unfold mergeFields
  induction steps with
  | nil => rfl
  | cons step steps ih =>
    rw [List.foldlM_cons, mergeField_of_fixed (h step List.mem_cons_self)]
    exact ih (fun s hs => h s (List.mem_cons_of_mem step hs))

theorem fixed_of_merged {next k : Json}
    (hnodup : (steps.map Prod.fst).Nodup) (hstable : ∀ s ∈ steps, StableAt s.2 (j.find? s.1))
    (h : mergeFields steps j = .ok next) (hk : ∀ s ∈ steps, k.find? s.1 = next.find? s.1) :
    mergeFields steps k = .ok k := by
  obtain ⟨hsteps, -⟩ := mergeFields_eq_ok hnodup h
  apply mergeFields_of_fixed
  intro s hs
  obtain ⟨r, hr, hnext⟩ := hsteps s hs
  rw [hk s hs, hnext]
  exact hstable s hs r hr

theorem mergeFields_again {next : Json}
    (hnodup : (steps.map Prod.fst).Nodup) (hstable : ∀ s ∈ steps, StableAt s.2 (j.find? s.1))
    (h : mergeFields steps j = .ok next) : mergeFields steps next = .ok next :=
  fixed_of_merged hnodup hstable h fun _ _ => rfl

end ProtoTime.FieldMerge
