import Mathlib.Data.List.Forall2
import Mathlib.Data.List.Induction
import ProtoTime.Results

/-!
Merging a list into another. Records without a key of their own are added when
nothing like them is there; records with a key are joined: one that is there
already is refined in place, and any other is appended.
-/
namespace ProtoTime.ListMerge

open Results

variable {ε α κ : Type}

/-! ## Adding what is new -/

section
variable (R : α → α → Bool)

def addNew (xs incoming : List α) : List α :=
  incoming.foldl (fun xs v => if xs.any (fun x => R x v) then xs else xs ++ [v]) xs

/-- The list kept what it had and was given some of the incoming ones, each of them like
nothing before it; everything incoming is there. -/
def Added (old incoming new : List α) : Prop :=
  ∃ fresh, new = old ++ fresh ∧ (∀ v ∈ fresh, v ∈ incoming)
    ∧ (∀ before v after, fresh = before ++ v :: after → ∀ x ∈ old ++ before, R x v = false)
    ∧ ∀ v ∈ incoming, ∃ w ∈ new, R w v = true

variable {R}

theorem Added.refl (old : List α) : Added R old [] old := by
  refine ⟨[], by simp, by simp, ?_, by simp⟩
  intro before v after h
  cases before with
  | nil => cases h
  | cons b before => cases h

variable {v : α}

theorem added_known {old incoming new : List α} (h : Added R old incoming new)
    (hv : new.any (fun x => R x v) = true) : Added R old (incoming ++ [v]) new := by
  obtain ⟨fresh, rfl, hfrom, hnew, hall⟩ := h
  refine ⟨fresh, rfl, fun w hw => List.mem_append_left _ (hfrom w hw), hnew, ?_⟩
  intro w hw
  rcases List.mem_append.mp hw with hold | hlast
  · exact hall w hold
  · obtain rfl := List.mem_singleton.mp hlast
    obtain ⟨x, hx, hxw⟩ := List.any_eq_true.mp hv
    exact ⟨x, hx, hxw⟩

theorem append_singleton_split {before after xs : List α} {u : α}
    (h : xs ++ [v] = before ++ u :: after) :
    (∃ rest, xs = before ++ u :: rest) ∨ (before = xs ∧ u = v) := by
  rcases List.eq_nil_or_concat after with rfl | ⟨rest, last, rfl⟩
  · obtain ⟨rfl, hlast⟩ := List.append_inj' h rfl
    exact .inr ⟨rfl, (List.cons.inj hlast).1.symm⟩
  · rw [List.concat_eq_append, ← List.cons_append, ← List.append_assoc] at h
    exact .inl ⟨rest, (List.append_inj' h rfl).1⟩

theorem added_new {old incoming new : List α} (hself : R v v = true)
    (h : Added R old incoming new) (hv : new.any (fun x => R x v) = false) :
    Added R old (incoming ++ [v]) (new ++ [v]) := by
  obtain ⟨fresh, rfl, hfrom, hnew, hall⟩ := h
  refine ⟨fresh ++ [v], by rw [List.append_assoc], ?_, ?_, ?_⟩
  · intro w hw
    rcases List.mem_append.mp hw with hold | hlast
    · exact List.mem_append_left _ (hfrom w hold)
    · exact List.mem_append_right _ hlast
  · intro before u after hsplit x hx
    rcases append_singleton_split hsplit with ⟨rest, hrest⟩ | ⟨rfl, rfl⟩
    · exact hnew before u rest hrest x hx
    · exact Bool.eq_false_iff.mpr (fun hxu =>
        absurd (List.any_eq_true.mpr ⟨x, hx, hxu⟩) (Bool.eq_false_iff.mp hv))
  · intro w hw
    rcases List.mem_append.mp hw with hold | hlast
    · obtain ⟨x, hx, hxw⟩ := hall w hold
      exact ⟨x, List.mem_append_left _ hx, hxw⟩
    · obtain rfl := List.mem_singleton.mp hlast
      exact ⟨w, by simp, hself⟩

theorem addNew_added (hself : ∀ v, R v v = true) (old incoming : List α) :
    Added R old incoming (addNew R old incoming) := by
  induction incoming using List.reverseRecOn with
  | nil => exact .refl old
  | append_singleton incoming v ih =>
    unfold addNew
    rw [List.foldl_append, List.foldl_cons, List.foldl_nil]
    cases hv : (addNew R old incoming).any (fun x => R x v) with
    | true =>
      rw [show incoming.foldl _ old = addNew R old incoming from rfl, hv]
      exact added_known ih hv
    | false =>
      rw [show incoming.foldl _ old = addNew R old incoming from rfl, hv]
      exact added_new (hself v) ih hv

theorem addNew_of_known {xs incoming : List α} (h : ∀ v ∈ incoming, ∃ w ∈ xs, R w v = true) :
    addNew R xs incoming = xs := by
  induction incoming with
  | nil => rfl
  | cons v incoming ih =>
    have hknown : xs.any (fun x => R x v) = true :=
      List.any_eq_true.mpr (h v List.mem_cons_self)
    unfold addNew
    rw [List.foldl_cons, if_pos hknown]
    exact ih (fun w hw => h w (List.mem_cons_of_mem v hw))

theorem addNew_addNew (hself : ∀ v, R v v = true) (old incoming : List α) :
    addNew R (addNew R old incoming) incoming = addNew R old incoming := by
  obtain ⟨_, _, _, _, hall⟩ := addNew_added hself old incoming
  exact addNew_of_known hall

end

/-! ## Joining by key -/

section
variable [DecidableEq κ] (key : α → κ) (refine' : α → α → Except ε α)

/-- The last record that passes a test, worked on in place. -/
def updateLast (p : α → Bool) (f : α → Except ε α) : List α → Option (Except ε (List α))
  | [] => none
  | x :: xs =>
    match updateLast p f xs with
    | some r => some (r.map (x :: ·))
    | none => if p x then some ((f x).map (· :: xs)) else none

def joinOne (xs : List α) (v : α) : Except ε (List α) :=
  match updateLast (fun x => decide (key x = key v)) (fun x => refine' x v) xs with
  | some r => r
  | none => .ok (xs ++ [v])

def joinAll (xs incoming : List α) : Except ε (List α) := incoming.foldlM (joinOne key refine') xs

end

variable {p : α → Bool} {f : α → Except ε α} {xs : List α}

theorem updateLast_eq_none (h : updateLast p f xs = none) : ∀ x ∈ xs, p x = false := by
  induction xs with
  | nil => exact fun x hx => absurd hx List.not_mem_nil
  | cons x xs ih =>
    unfold updateLast at h
    cases hrest : updateLast p f xs with
    | some r =>
      rw [hrest] at h
      cases h
    | none =>
      rw [hrest] at h
      cases hx : p x with
      | true =>
        simp [hx] at h
      | false =>
        intro y hy
        rcases List.mem_cons.mp hy with rfl | hmem
        · exact hx
        · exact ih hrest y hmem

theorem updateLast_of_none (h : ∀ x ∈ xs, p x = false) : updateLast p f xs = none := by
  induction xs with
  | nil => rfl
  | cons x xs ih =>
    unfold updateLast
    rw [ih (fun y hy => h y (List.mem_cons_of_mem x hy))]
    simp [h x List.mem_cons_self]

/-- An accepted update changed the last record that passes the test, and nothing else. -/
theorem updateLast_eq_ok {ys : List α} (h : updateLast p f xs = some (.ok ys)) :
    ∃ before x after y, xs = before ++ x :: after ∧ p x = true ∧ (∀ z ∈ after, p z = false)
      ∧ f x = .ok y ∧ ys = before ++ y :: after := by
  induction xs generalizing ys with
  | nil => cases h
  | cons x xs ih =>
    unfold updateLast at h
    cases hrest : updateLast p f xs with
    | some r =>
      rw [hrest] at h
      obtain ⟨zs, hzs, hys⟩ := map_eq_ok (Option.some.inj h)
      obtain ⟨before, w, after, y, hxs, hw, hafter, hy, hzs'⟩ := ih (hrest.trans (by rw [hzs]))
      subst hys
      exact ⟨x :: before, w, after, y, by rw [hxs]; rfl, hw, hafter, hy, by rw [hzs']; rfl⟩
    | none =>
      rw [hrest] at h
      cases hx : p x with
      | false => simp [hx] at h
      | true =>
        simp only [hx, if_true, Option.some.injEq] at h
        obtain ⟨y, hy, hys⟩ := map_eq_ok h
        exact ⟨[], x, xs, y, rfl, hx, updateLast_eq_none hrest, hy, hys.symm⟩

theorem updateLast_append {before after : List α} {x y : α}
    (hx : p x = true) (hafter : ∀ z ∈ after, p z = false) (hy : f x = .ok y) :
    updateLast p f (before ++ x :: after) = some (.ok (before ++ y :: after)) := by
  induction before with
  | nil =>
    simp only [List.nil_append]
    unfold updateLast
    rw [updateLast_of_none hafter]
    simp [hx, hy, Except.map]
  | cons b before ih =>
    rw [List.cons_append]
    unfold updateLast
    rw [ih]
    rfl

section
variable {key : α → κ} {refine' : α → α → Except ε α}

/-- The last record of the key of `v` is `v` itself, or what an old record became with it. -/
def Settled (key : α → κ) (refine' : α → α → Except ε α) (old new : List α) (v : α) : Prop :=
  ∃ before w after, new = before ++ w :: after ∧ key w = key v
    ∧ (∀ z ∈ after, key z ≠ key v) ∧ (w = v ∨ ∃ x ∈ old, key x = key v ∧ refine' x v = .ok w)

/-- The list kept its records, some of them refined by an incoming record of their key, and
was given the incoming records of other keys, once each; each incoming record is settled. -/
structure Joined (key : α → κ) (refine' : α → α → Except ε α) (old incoming new : List α) :
    Prop where
  split : ∃ kept fresh, new = kept ++ fresh
    ∧ List.Forall₂ (fun x y => y = x ∨ ∃ v ∈ incoming, key v = key x ∧ refine' x v = .ok y) old kept
    ∧ (∀ v ∈ fresh, v ∈ incoming ∧ key v ∉ old.map key) ∧ (fresh.map key).Nodup
  settled : ∀ v ∈ incoming, Settled key refine' old new v

/-- While joining: records of keys not met yet are as they were. -/
structure Joining (key : α → κ) (refine' : α → α → Except ε α) (old incoming new : List α) :
    Prop where
  joined : Joined key refine' old incoming new
  keys : ∀ w ∈ new, key w ∉ incoming.map key → w ∈ old
  covers : ∀ x ∈ old, key x ∈ new.map key

variable {old : List α} {v : α}

theorem Settled.mono_append {new : List α} {u : α} (hne : key u ≠ key v)
    (h : Settled key refine' old new v) : Settled key refine' old (new ++ [u]) v := by
  obtain ⟨before, w, after, rfl, hw, hafter, hfrom⟩ := h
  refine ⟨before, w, after ++ [u], by simp, hw, ?_, hfrom⟩
  intro z hz
  rcases List.mem_append.mp hz with hold | hlast
  · exact hafter z hold
  · obtain rfl := List.mem_singleton.mp hlast
    exact hne

variable {y : α}

/-- Changing a record of another key leaves a record settled. -/
theorem Settled.mono_update {before after : List α} {x : α} (hx : key x ≠ key v)
    (hy : key y = key x) (h : Settled key refine' old (before ++ x :: after) v) :
    Settled key refine' old (before ++ y :: after) v := by
  obtain ⟨b, w, a, hsplit, hw, ha, hfrom⟩ := h
  rcases List.append_eq_append_iff.mp hsplit with ⟨mid, hb, hrest⟩ | ⟨mid, hb, hrest⟩
  · cases mid with
    | nil =>
      obtain ⟨rfl, -⟩ := List.cons.inj hrest
      exact absurd hw hx
    | cons m mid =>
      obtain ⟨rfl, rfl⟩ := List.cons.inj hrest
      exact ⟨before ++ y :: mid, w, a, by simp, hw, ha, hfrom⟩
  · cases mid with
    | nil =>
      obtain ⟨rfl, -⟩ := List.cons.inj hrest
      exact absurd hw hx
    | cons m mid =>
      obtain ⟨rfl, rfl⟩ := List.cons.inj hrest
      subst hb
      refine ⟨b, w, mid ++ y :: after, by simp, hw, ?_, hfrom⟩
      intro z hz
      rcases List.mem_append.mp hz with hmid | hrest
      · exact ha z (List.mem_append_left _ hmid)
      · rcases List.mem_cons.mp hrest with rfl | hafter
        · rw [hy]
          exact hx
        · exact ha z (List.mem_append_right _ (List.mem_cons_of_mem _ hafter))

theorem Settled.incoming {new : List α} (h : Settled key refine' old new v) :
    key v ∈ new.map key := by
  obtain ⟨before, w, after, rfl, hw, _, _⟩ := h
  exact List.mem_map.mpr ⟨w, by simp, hw⟩

theorem joining_nil (old : List α) : Joining key refine' old [] old := by
  refine ⟨⟨⟨old, [], by simp, ?_, by simp, by simp⟩, by simp⟩, fun w hw _ => hw, ?_⟩
  · exact List.forall₂_same.mpr fun x _ => .inl rfl
  · exact fun x hx => List.mem_map_of_mem hx

theorem kept_mono {kept incoming : List α} (v : α)
    (h : List.Forall₂ (fun x y => y = x ∨ ∃ u ∈ incoming, key u = key x ∧ refine' x u = .ok y)
      old kept) :
    List.Forall₂ (fun x y => y = x ∨ ∃ u ∈ incoming ++ [v], key u = key x ∧ refine' x u = .ok y)
      old kept := by
  refine h.imp ?_
  rintro x y (rfl | ⟨u, hu, hux⟩)
  · exact .inl rfl
  · exact .inr ⟨u, List.mem_append_left _ hu, hux⟩

/-- A record of a key met nowhere is appended. -/
theorem joining_append {incoming new : List α} (h : Joining key refine' old incoming new)
    (hv : ∀ x ∈ new, key x ≠ key v) : Joining key refine' old (incoming ++ [v]) (new ++ [v]) := by
  have hold : key v ∉ old.map key := by
    intro hmem
    obtain ⟨x, hx, hxv⟩ := List.mem_map.mp hmem
    obtain ⟨y, hy, hyx⟩ := List.mem_map.mp (h.covers x hx)
    exact hv y hy (hyx.trans hxv)
  obtain ⟨⟨kept, fresh, rfl, hkept, hfresh, hnodup⟩, hsettled⟩ := h.joined
  refine ⟨⟨⟨kept, fresh ++ [v], by simp, kept_mono v hkept, ?_, ?_⟩, ?_⟩, ?_, ?_⟩
  · intro w hw
    rcases List.mem_append.mp hw with hmem | hlast
    · exact ⟨List.mem_append_left _ (hfresh w hmem).1, (hfresh w hmem).2⟩
    · obtain rfl := List.mem_singleton.mp hlast
      exact ⟨by simp, hold⟩
  · rw [List.map_append, List.nodup_append]
    refine ⟨hnodup, by simp, ?_⟩
    intro k hk l hl
    obtain ⟨w, hw, rfl⟩ := List.mem_map.mp hk
    obtain rfl : l = key v := by simpa using hl
    exact hv w (List.mem_append_right _ hw)
  · intro u hu
    rcases List.mem_append.mp hu with hmem | hlast
    · have hne : key v ≠ key u := by
        obtain ⟨w, hw, hwu⟩ := List.mem_map.mp (hsettled u hmem).incoming
        intro hvu
        exact hv w hw (hwu.trans hvu.symm)
      exact (hsettled u hmem).mono_append hne
    · obtain rfl := List.mem_singleton.mp hlast
      exact ⟨kept ++ fresh, u, [], by simp, rfl, by simp, .inl rfl⟩
  · intro w hw hkey
    rw [List.map_append, List.mem_append, not_or] at hkey
    rcases List.mem_append.mp hw with hmem | hlast
    · exact h.keys w hmem hkey.1
    · obtain rfl := List.mem_singleton.mp hlast
      exact absurd (List.mem_map_of_mem (List.mem_singleton.mpr rfl)) hkey.2
  · intro x hx
    rw [List.map_append]
    exact List.mem_append_left _ (h.covers x hx)

theorem forall₂_split {R : α → α → Prop} {ys zs : List α} (h : List.Forall₂ R xs (ys ++ y :: zs)) :
    ∃ before x after, xs = before ++ x :: after ∧ List.Forall₂ R before ys ∧ R x y
      ∧ List.Forall₂ R after zs := by
  induction ys generalizing xs with
  | nil =>
    obtain ⟨x, after, hx, hafter, rfl⟩ := List.forall₂_cons_right_iff.mp h
    exact ⟨[], x, after, rfl, .nil, hx, hafter⟩
  | cons z ys ih =>
    obtain ⟨w, rest, hw, hrest, rfl⟩ := List.forall₂_cons_right_iff.mp h
    obtain ⟨before, x, after, rfl, hbefore, hx, hafter⟩ := ih hrest
    exact ⟨w :: before, x, after, rfl, .cons hw hbefore, hx, hafter⟩

/-- A record of the key of an old record refines the last of them. -/
theorem joining_update (hkey : ∀ x u y, refine' x u = .ok y → key y = key x)
    {incoming before after : List α} {x : α}
    (h : Joining key refine' old incoming (before ++ x :: after))
    (hnew : key v ∉ incoming.map key) (hx : key x = key v) (hafter : ∀ z ∈ after, key z ≠ key v)
    (hy : refine' x v = .ok y) : Joining key refine' old (incoming ++ [v]) (before ++ y :: after) := by
  have hxnew : key x ∉ incoming.map key := by rw [hx]; exact hnew
  have hyx : key y = key x := hkey x v y hy
  have hxold : x ∈ old := h.keys x (by simp) hxnew
  obtain ⟨⟨kept, fresh, hsplit, hkept, hfresh, hnodup⟩, hsettled⟩ := h.joined
  have hxfresh : x ∉ fresh := fun hmem => hxnew (List.mem_map_of_mem (hfresh x hmem).1)
  obtain ⟨mid, rfl, rfl⟩ : ∃ mid, kept = before ++ x :: mid ∧ after = mid ++ fresh := by
    rcases List.append_eq_append_iff.mp hsplit with ⟨mid, hk, hf⟩ | ⟨mid, hk, hf⟩
    · cases mid with
      | nil => exact absurd (by rw [show fresh = x :: after by simpa using hf.symm]; simp) hxfresh
      | cons m mid =>
        obtain ⟨rfl, hrest⟩ := List.cons.inj hf
        exact ⟨mid, hk, hrest⟩
    · exact absurd (by rw [hf]; simp) hxfresh
  obtain ⟨b, x', a, rfl, hb, hx', ha⟩ := forall₂_split hkept
  obtain rfl : x = x' := by
    rcases hx' with h' | ⟨u, hu, hux, hrefined⟩
    · exact h'
    · exact absurd (List.mem_map.mpr ⟨u, hu, hux.trans (hkey x' u x hrefined).symm⟩) hxnew
  refine ⟨⟨⟨before ++ y :: mid, fresh, by simp, ?_, ?_, hnodup⟩, ?_⟩, ?_, ?_⟩
  · exact List.rel_append (kept_mono v hb)
      (.cons (.inr ⟨v, by simp, hx.symm, hy⟩) (kept_mono v ha))
  · exact fun w hw => ⟨List.mem_append_left _ (hfresh w hw).1, (hfresh w hw).2⟩
  · intro u hu
    rcases List.mem_append.mp hu with hmem | hlast
    · have hne : key x ≠ key u := by
        intro hxu
        exact hxnew (List.mem_map.mpr ⟨u, hmem, hxu.symm⟩)
      exact (hsettled u hmem).mono_update hne hyx
    · obtain rfl := List.mem_singleton.mp hlast
      exact ⟨before, y, mid ++ fresh, rfl, hyx.trans hx, hafter, .inr ⟨x, hxold, hx, hy⟩⟩
  · intro w hw hwkey
    rw [List.map_append, List.mem_append, not_or] at hwkey
    apply h.keys w _ hwkey.1
    rcases List.mem_append.mp hw with hmem | hrest
    · exact List.mem_append_left _ hmem
    · rcases List.mem_cons.mp hrest with rfl | hmem
      · exact absurd (by simp [hyx, hx]) hwkey.2
      · exact List.mem_append_right _ (List.mem_cons_of_mem _ hmem)
  · intro w hw
    have hcovered := h.covers w hw
    rw [List.map_append, List.map_cons] at hcovered ⊢
    rw [hyx]
    exact hcovered

end

section
variable [DecidableEq κ] {key : α → κ} {refine' : α → α → Except ε α}

variable {old : List α}

theorem joinOne_joining (hkey : ∀ x u y, refine' x u = .ok y → key y = key x)
    {incoming new next : List α} {v : α} (h : Joining key refine' old incoming new)
    (hnew : key v ∉ incoming.map key) (hnext : joinOne key refine' new v = .ok next) :
    Joining key refine' old (incoming ++ [v]) next := by
  unfold joinOne at hnext
  cases hupdate : updateLast (fun x => decide (key x = key v)) (fun x => refine' x v) new with
  | none =>
    rw [hupdate] at hnext
    cases hnext
    have hnone := updateLast_eq_none hupdate
    exact joining_append h fun x hx => of_decide_eq_false (hnone x hx)
  | some r =>
    rw [hupdate] at hnext
    obtain rfl : r = .ok next := hnext
    obtain ⟨before, x, after, y, rfl, hx, hafter, hy, rfl⟩ := updateLast_eq_ok hupdate
    exact joining_update hkey h hnew (of_decide_eq_true hx)
      (fun z hz => of_decide_eq_false (hafter z hz)) hy

theorem joinAll_joined (hkey : ∀ x u y, refine' x u = .ok y → key y = key x)
    {incoming new : List α} (hnodup : (incoming.map key).Nodup)
    (h : joinAll key refine' old incoming = .ok new) : Joined key refine' old incoming new := by
  suffices hall : Joining key refine' old incoming new from hall.joined
  induction incoming using List.reverseRecOn generalizing new with
  | nil =>
    cases h
    exact joining_nil old
  | append_singleton incoming v ih =>
    unfold joinAll at h
    rw [List.foldlM_append] at h
    obtain ⟨next, hnext, h⟩ := bind_eq_ok h
    obtain ⟨last, hlast, h⟩ := bind_eq_ok h
    cases h
    rw [List.map_append, List.nodup_append] at hnodup
    have hnew : key v ∉ incoming.map key := fun hmem =>
      hnodup.2.2 (key v) hmem (key v) (by simp) rfl
    exact joinOne_joining hkey (ih hnodup.1 hnext) hnew hlast

theorem joinOne_settled {new : List α} {v : α}
    (hself : refine' v v = .ok v) (hagain : ∀ x w, refine' x v = .ok w → refine' w v = .ok w)
    (h : Settled key refine' old new v) : joinOne key refine' new v = .ok new := by
  obtain ⟨before, w, after, rfl, hw, hafter, hfrom⟩ := h
  have hrefined : refine' w v = .ok w := by
    rcases hfrom with rfl | ⟨x, _, _, hx⟩
    · exact hself
    · exact hagain x w hx
  have hupdate : updateLast (fun x => decide (key x = key v)) (fun x => refine' x v)
      (before ++ w :: after) = some (.ok (before ++ w :: after)) :=
    updateLast_append (by simpa using hw) (fun z hz => by simpa using hafter z hz) hrefined
  unfold joinOne
  rw [hupdate]

theorem joinAll_of_settled {new incoming : List α} (hself : ∀ v ∈ incoming, refine' v v = .ok v)
    (hagain : ∀ x v w, refine' x v = .ok w → refine' w v = .ok w)
    (hsettled : ∀ v ∈ incoming, Settled key refine' old new v) :
    joinAll key refine' new incoming = .ok new := by
  unfold joinAll
  induction incoming with
  | nil => rfl
  | cons v incoming ih =>
    rw [List.foldlM_cons, joinOne_settled (hself v List.mem_cons_self) (fun x w => hagain x v w)
      (hsettled v List.mem_cons_self)]
    exact ih (fun u hu => hself u (List.mem_cons_of_mem v hu))
      (fun u hu => hsettled u (List.mem_cons_of_mem v hu))

theorem joinAll_again {incoming new : List α} (hself : ∀ v ∈ incoming, refine' v v = .ok v)
    (hagain : ∀ x v w, refine' x v = .ok w → refine' w v = .ok w)
    (h : Joined key refine' old incoming new) : joinAll key refine' new incoming = .ok new :=
  joinAll_of_settled hself hagain h.settled

theorem joinAll_self (hnodup : (xs.map key).Nodup) (hself : ∀ v ∈ xs, refine' v v = .ok v)
    (hagain : ∀ x v w, refine' x v = .ok w → refine' w v = .ok w) :
    joinAll key refine' xs xs = .ok xs := by
  refine @joinAll_of_settled _ _ _ _ _ _ [] xs xs hself hagain ?_
  intro v hv
  obtain ⟨before, after, rfl⟩ := List.append_of_mem hv
  refine ⟨before, v, after, rfl, rfl, ?_, .inl rfl⟩
  intro z hz hzv
  rw [List.map_append, List.map_cons, List.nodup_append] at hnodup
  exact (List.nodup_cons.mp hnodup.2.1).1 (List.mem_map.mpr ⟨z, hz, hzv⟩)

end

end ProtoTime.ListMerge
