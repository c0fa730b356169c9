import ProtoTime.Modding.NativeCohort

/-!
A prepared cohort holds the modules it was made from in other states: what is committed is the same
modules over regions of the same layout.
-/
namespace ProtoTime.Modding

open Transaction
open Results
open ByteReader hiding bind_eq_ok

variable {I : Type}

/-! ## Layouts -/

variable {bytes : List Byte}

theorem length_overwrite {data : List Byte} {offset : ℕ} (hoffset : offset ≤ bytes.length)
    (hdata : data.length ≤ bytes.length - offset) :
    (overwrite bytes offset data).length = bytes.length := by
  unfold overwrite
  rw [List.length_append, List.length_append, List.length_take, List.length_drop]
  omega

theorem layout_set {h : ModHost} {i : ℕ} {r : Region}
    (hr : h.regions[i]? = some r) (hbytes : bytes.length = r.bytes.length) :
    (ModHost.mk (h.regions.set i (r.withBytes bytes))).layout = h.layout := by
  show (h.regions.set i (r.withBytes bytes)).map Region.layout = h.regions.map Region.layout
  rw [List.map_set, layout_withBytes hbytes]
  obtain ⟨hlt, rfl⟩ := List.getElem?_eq_some_iff.mp hr
  apply List.ext_getElem
  · simp
  · intro j hj hj'
    rw [List.getElem_set]
    split
    · next hij =>
      subst hij
      rw [List.getElem_map]
    · rfl

theorem layout_transfer (metadata : LoadedMod) (h : ModHost) (w : Write) :
    (transfer metadata h w).layout = h.layout := by
  unfold transfer
  cases hregion : h.regionInfo w.id with
  | none => rfl
  | some r =>
    dsimp only
    split
    · next hallowed =>
      simp only [Bool.and_eq_true, decide_eq_true_eq] at hallowed
      unfold ModHost.regionInfo at hregion
      split at hregion
      · cases hregion
      · exact layout_set hregion (length_overwrite hallowed.1.2 hallowed.2)
    · rfl

theorem layout_transfers (metadata : LoadedMod) (h : ModHost) (ws : List Write) :
    (transfers metadata h ws).layout = h.layout := by
  induction ws generalizing h with
  | nil => rfl
  | cons w ws ih => exact (ih _).trans (layout_transfer metadata h w)

theorem layout_commitState {h h' : ModHost} {p : PreparedState} (hp : h.commitState p = .ok h') :
    h'.layout = h.layout := by
  obtain ⟨hfits, rfl⟩ := commitState_eq_ok hp
  exact zipWith_layout (fits_iff.mp hfits).1

theorem layout_reset (h : ModHost) : h.reset.layout = h.layout := by
  unfold ModHost.reset ModHost.layout
  rw [List.map_map]
  apply List.map_congr_left
  intro r _
  exact layout_withBytes List.length_replicate

/-! ## Replacements -/

variable (s : Impl I)

/-- All of an implementation but its instance. -/
def Impl.code : TimeModApi I × LoadedMod × Digest × Text :=
  (s.api, s.metadata, s.image, s.executionBinding)

variable {nexts : List (Impl I)}

theorem fixed_zipWith_swap {ms : List (NativeMod I)}
    (h : nexts.map Impl.code = ms.map fun m => m.impl.code) :
    (ms.zipWith swap nexts).map NativeMod.fixed = ms.map NativeMod.fixed := by
  induction ms generalizing nexts with
  | nil => rfl
  | cons m ms ih =>
    cases nexts with
    | nil => cases h
    | cons next nexts =>
      obtain ⟨hcode, hrest⟩ := List.cons.inj h
      simp only [Impl.code, Prod.mk.injEq] at hcode
      obtain ⟨hapi, hmetadata, himage, hbinding⟩ := hcode
      rw [List.zipWith_cons_cons, List.map_cons, List.map_cons, ih hrest]
      unfold swap NativeMod.fixed
      rw [hapi, hmetadata, himage, hbinding]

theorem reset_code (staged : ModHost) :
    (s.reset staged).2.1.code = s.code ∧ (s.reset staged).2.2.layout = staged.layout :=
  ⟨rfl, layout_transfers _ _ _⟩

variable {staged reached : ModHost}

theorem resetAll_code {ss : List (Impl I)}
    (h : resetAll ss staged = .ok (nexts, reached)) : nexts.map Impl.code = ss.map Impl.code := by
  induction ss generalizing nexts staged reached with
  | nil =>
    cases h
    rfl
  | cons s ss ih =>
    obtain ⟨_, -, h⟩ := bind_eq_ok h
    obtain ⟨others, hothers, h⟩ := bind_eq_ok h
    cases h
    rw [List.map_cons, List.map_cons, ih hothers, (reset_code s staged).1]

theorem save_code (h : ModHost) : (s.save h).2.code = s.code := by
  unfold Impl.save
  split
  · rfl
  · rfl

theorem restore_code (staged : ModHost) (schema : BitVec 32) (bytes : List Byte) :
    (s.restore staged schema bytes).2.1.code = s.code
      ∧ (s.restore staged schema bytes).2.2.layout = staged.layout := by
  unfold Impl.restore
  split
  · exact ⟨rfl, layout_transfers _ _ _⟩
  · exact ⟨rfl, rfl⟩

theorem reproduced_eq_ok {r : Bool × Impl I × ModHost} {next : Impl I}
    (h : reproduced bytes r = .ok (next, reached)) : next.code = r.2.1.code ∧ reached = r.2.2 := by
  have hcode := save_code r.2.1 r.2.2
  unfold reproduced at h
  split at h
  · split at h
    · cases h
    · next saved last hsave =>
      rw [hsave] at hcode
      split at h
      · cases h
        exact ⟨hcode, rfl⟩
      · cases h
  · cases h

variable {F : Files} {library : Library I}

theorem replace_code {s next : Impl I} (hattached : Attached F library staged s)
    (h : replace F library s bytes staged = .ok (next, reached)) :
    next.code = s.code ∧ reached.layout = staged.layout := by
  obtain ⟨loaded, hloaded, h⟩ := bind_eq_ok h
  obtain ⟨opened, hopened, hloaded⟩ := bind_eq_ok hloaded
  obtain rfl : (s.image, s.api) = opened := Except.ok.inj (hattached.symm.trans hopened)
  unfold instantiate at hloaded
  split at hloaded
  · cases hloaded
  · cases hloaded
    obtain ⟨hcode, rfl⟩ := reproduced_eq_ok h
    obtain ⟨hrestored, hlayout⟩ := restore_code _ _ s.api.stateVersion bytes
    exact ⟨hcode.trans hrestored, hlayout.trans (layout_transfers _ _ _)⟩

theorem replaceAll_code {ms : List (NativeMod I)} {states : List (List Byte)}
    (hcount : states.length = ms.length) (hattached : ∀ m ∈ ms, Attached F library staged m.impl)
    (h : replaceAll F library ms states staged = .ok (nexts, reached)) :
    nexts.map Impl.code = ms.map fun m => m.impl.code := by
  induction ms generalizing states nexts staged reached with
  | nil =>
    cases h
    rfl
  | cons m ms ih =>
    cases states with
    | nil => cases hcount
    | cons bytes states =>
      obtain ⟨first, hfirst, h⟩ := bind_eq_ok h
      obtain ⟨others, hothers, h⟩ := bind_eq_ok h
      cases h
      obtain ⟨hcode, hlayout⟩ := replace_code (hattached m List.mem_cons_self) hfirst
      have hrest := ih (Nat.succ.inj hcount) (fun n hn => by
        unfold Attached
        rw [openModule_congr F library n.impl.metadata hlayout]
        exact hattached n (List.mem_cons_of_mem m hn)) hothers
      rw [List.map_cons, List.map_cons, hrest, hcode]

/-! ## What is committed -/

/-- A preparation that holds the modules of a world. -/
def Holds (w : World I) (p : PreparedCohort I) : Prop :=
  p.replacements.map Impl.code = w.cohort.map fun m => m.impl.code

variable {p : PreparedCohort I} {w w' : World I}

section

variable (hquiet : ∀ m ∈ w.cohort, QuietSave m.impl.api)

include hquiet

theorem holds_prepareCohort {modules regions : Option (List Byte)}
    (hattached : ∀ m ∈ w.cohort, Attached F library w.host m.impl)
    (h : exec (prepareCohort F library modules regions) w = (.ok p, w')) : Holds w p := by
  unfold prepareCohort at h
  obtain ⟨checked, t, hchecked, hrest⟩ := exec_bind_eq_ok h
  obtain ⟨rfl, -, -, -, hparse⟩ := checkCohort_eq_ok hquiet hchecked
  obtain ⟨now, u, hnow, hbuilt⟩ := exec_bind_eq_ok hrest
  cases hnow
  obtain ⟨built, hbuild, hresult⟩ := exec_fromExcept_bind_eq_ok hbuilt
  cases hresult
  obtain ⟨bytes, -, hbuild⟩ := bind_eq_ok hbuild
  obtain ⟨staged, hstaged, hbuild⟩ := bind_eq_ok hbuild
  obtain ⟨expected, -, hbuild⟩ := bind_eq_ok hbuild
  obtain ⟨replaced, hreplaced, hbuild⟩ := bind_eq_ok hbuild
  obtain ⟨reached, -, hbuild⟩ := bind_eq_ok hbuild
  obtain ⟨_, -, hbuild⟩ := bind_eq_ok hbuild
  cases hbuild
  have hsizes := congrArg List.length (parseCohort_eq_ok hparse).1
  rw [List.length_map, List.length_map] at hsizes
  refine replaceAll_code hsizes ?_ hreplaced
  intro m hm
  unfold Attached
  rw [openModule_congr F library m.impl.metadata (layout_commitState hstaged)]
  exact hattached m hm

theorem holds_prepareReset (hattached : ∀ m ∈ w.cohort, Attached F library w.host m.impl)
    (h : exec (prepareReset F library) w = (.ok p, w')) : Holds w p := by
  obtain ⟨modules, t, hmodules, hrest⟩ := exec_bind_eq_ok h
  have hsaved := exec_of_keeps (keeps_saveCohort F hquiet) (congrArg Prod.fst hmodules)
  obtain rfl : t = w := congrArg Prod.snd (hmodules.symm.trans hsaved)
  obtain ⟨now, u, hnow, hexport⟩ := exec_bind_eq_ok hrest
  cases hnow
  obtain ⟨regions, -, hprepare⟩ := exec_fromExcept_bind_eq_ok hexport
  obtain ⟨prepared, v, hprepared, hreset⟩ := exec_bind_eq_ok hprepare
  have hholds := holds_prepareCohort hquiet hattached hprepared
  obtain ⟨done, hdone, hafter⟩ := exec_fromExcept_bind_eq_ok hreset
  obtain ⟨reached, -, hreached⟩ := exec_fromExcept_bind_eq_ok hafter
  obtain ⟨bytes, -, hresult⟩ := exec_fromExcept_bind_eq_ok hreached
  cases hresult
  exact (resetAll_code hdone).trans hholds

theorem sameModules_commit (hp : Holds w p)
    (h : exec (commit F p) w = (.ok PUnit.unit, w')) : SameModules w w' := by
  obtain ⟨-, -, -, next, hnext, rfl⟩ := commit_eq_ok hquiet h
  exact ⟨layout_commitState hnext, fixed_zipWith_swap hp⟩

/-! ## Modules that keep their contract -/

end

/-- Native modules whose files are as they were, and which are saved and restored as they are. -/
structure Obedient (F : Files) (library : Library I) (w : World I) : Prop where
  quiet : ∀ m ∈ w.cohort, QuietSave m.impl.api
  attached : ∀ m ∈ w.cohort, Attached F library w.host m.impl
  restores : ∀ m ∈ w.cohort, Restores w.host m.impl

theorem SameModules.trans {u v : World I} (huv : SameModules u v) (hvw : SameModules v w) :
    SameModules u w :=
  ⟨hvw.layout.trans huv.layout, hvw.cohort.trans huv.cohort⟩

/-- The contract is about the code of the modules and the layout of the regions. -/
theorem Obedient.of_sameModules {v : World I}
    (h : Obedient F library w) (hsame : SameModules w v) : Obedient F library v where
  quiet := quiet_of_fixed hsame.cohort h.quiet
  attached m hm := by
    obtain ⟨n, hn, hfixed⟩ := exists_fixed hsame.cohort hm
    have hattached := h.attached n hn
    simp only [NativeMod.fixed, Fixed.mk.injEq] at hfixed
    unfold Attached at hattached ⊢
    rw [openModule_congr F library m.impl.metadata hsame.layout, ← hfixed.2.1, ← hfixed.2.2.1,
      ← hfixed.2.2.2.1]
    exact hattached
  restores m hm := by
    obtain ⟨n, hn, hfixed⟩ := exists_fixed hsame.cohort hm
    have hrestores := h.restores n hn
    simp only [NativeMod.fixed, Fixed.mk.injEq] at hfixed
    obtain ⟨-, hapi, hmetadata, -, -⟩ := hfixed
    intro regions saved hlayout hsaved
    obtain ⟨fresh, writes, restored, changes, hcreate, hrestore, hregions, hbytes⟩ :=
      hrestores regions saved (hlayout.trans hsame.layout) (hsaved.trans hapi.symm)
    rw [hapi, hmetadata] at hrestore
    rw [hapi] at hcreate
    rw [hmetadata] at hregions
    refine ⟨fresh, writes, restored, changes, hcreate, hrestore, hregions, ?_⟩
    unfold savedBytes at hbytes ⊢
    rw [hapi] at hbytes
    exact hbytes

end ProtoTime.Modding
