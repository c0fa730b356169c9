import ProtoTime.Modding.NativeRecords

/-!
The checkpoint of the attached modules is prepared beside the live ones, its commit is all or
nothing, and what was saved comes back.
-/
namespace ProtoTime.Modding

open Transaction
open Results
open ByteReader hiding bind_eq_ok

variable {I : Type}

/-! ## Replacements -/

variable (F : Files)

/-- A module whose file is as it was when the module was loaded against these regions. -/
def Attached (library : Library I) (h : ModHost) (s : Impl I) : Prop :=
  openModule F library s.metadata h = .ok (s.image, s.api)

/-- Creating an instance against regions and restoring in it what was saved against them gives
an instance that saves the same bytes, and leaves those regions. -/
def Restores (h : ModHost) (s : Impl I) : Prop :=
  ∀ (regions : ModHost) (saved : Impl I), regions.layout = h.layout → saved.api = s.api →
    ∃ fresh writes restored changes, s.api.create regions = (some fresh, writes)
      ∧ s.api.restore (transfers s.metadata regions writes) fresh (savedBytes regions saved)
        = (true, restored, changes)
      ∧ transfers s.metadata (transfers s.metadata regions writes) changes = regions
      ∧ savedBytes regions { s with inst := restored } = savedBytes regions saved

variable {h h' : ModHost}

theorem isSome_regionInfo (hlayout : h'.layout = h.layout) (id : BitVec 32) :
    (h'.regionInfo id).isSome = (h.regionInfo id).isSome := by
  have hlength : h'.regions.length = h.regions.length := by
    have hlengths := congrArg List.length hlayout
    simpa only [ModHost.layout, List.length_map] using hlengths
  unfold ModHost.regionInfo
  split
  · rfl
  · rw [Bool.eq_iff_iff, isSome_getElem?, isSome_getElem?]
    rw [hlength]

theorem openModule_congr (library : Library I) (metadata : LoadedMod)
    (hlayout : h'.layout = h.layout) :
    openModule F library metadata h' = openModule F library metadata h := by
  unfold openModule
  simp only [isSome_regionInfo hlayout]

variable {library : Library I}

theorem imageDigest_of_attached {F : Files} {s : Impl I}
    (hs : Attached F library h s) : imageDigest F s.metadata.nativeModule = .ok s.image := by
  obtain ⟨u, hpath, hs⟩ := bind_eq_ok hs
  obtain ⟨u, hregions, hs⟩ := bind_eq_ok hs
  obtain ⟨image, himage, hs⟩ := bind_eq_ok hs
  obtain ⟨api, hlibrary, hs⟩ := bind_eq_ok hs
  obtain ⟨u, hidentity, hs⟩ := bind_eq_ok hs
  obtain ⟨u, hsize, hs⟩ := bind_eq_ok hs
  cases hs
  exact himage

/-- A replacement of a module takes the state another instance of it was saved in. -/
theorem replace_eq_ok {F : Files} {m n : NativeMod I} {staged : ModHost}
    (hfixed : m.fixed = n.fixed) (hquiet : QuietSave n.impl.api)
    (hattached : Attached F library staged n.impl) (hrestores : Restores staged n.impl) :
    ∃ next, replace F library m.impl (savedBytes staged n.impl) staged = .ok (next, staged)
      ∧ (swap m next).fixed = n.fixed ∧ savedBytes staged next = savedBytes staged n.impl := by
  obtain ⟨address, s⟩ := m
  obtain ⟨address', t⟩ := n
  obtain ⟨api, inst, metadata, image, binding⟩ := s
  obtain ⟨api', inst', metadata', image', binding'⟩ := t
  obtain ⟨rfl, rfl, rfl, rfl, rfl⟩ := hfixed
  dsimp only at hquiet hattached hrestores
  obtain ⟨fresh, writes, restored, changes, hcreate, hrestore, hregions, hsaved⟩ :=
    hrestores staged ⟨api, inst', metadata, image, binding⟩ rfl rfl
  refine ⟨⟨api, restored, metadata, image, binding⟩, ?_, rfl, hsaved⟩
  have hload : loadImpl F library metadata staged
      = .ok (⟨api, fresh, metadata, image, []⟩, transfers metadata staged writes) := by
    have hopen : openModule F library metadata staged = .ok (image, api) := hattached
    unfold loadImpl
    rw [hopen]
    show instantiate metadata staged (image, api) = _
    unfold instantiate
    rw [hcreate]
  have hrestored : Impl.restore (transfers metadata staged writes)
      (⟨api, fresh, metadata, image, binding⟩ : Impl I) api.stateVersion
      (savedBytes staged ⟨api, inst', metadata, image, binding⟩)
      = (true, ⟨api, restored, metadata, image, binding⟩, staged) := by
    unfold Impl.restore
    rw [if_pos ⟨rfl, length_savedBytes staged _⟩, hrestore]
    unfold Impl.after
    rw [hregions]
  unfold replace
  rw [hload]
  show reproduced (savedBytes staged ⟨api, inst', metadata, image, binding⟩)
    (Impl.restore (transfers metadata staged writes)
      (⟨api, fresh, metadata, image, binding⟩ : Impl I) api.stateVersion
      (savedBytes staged ⟨api, inst', metadata, image, binding⟩)) = _
  unfold reproduced
  rw [hrestored, if_pos rfl, save_eq hquiet staged]
  dsimp only
  rw [if_pos hsaved]

variable {ms ns : List (NativeMod I)}

theorem replaceAll_eq_ok {F : Files}
    {staged : ModHost} (hfixed : ms.map NativeMod.fixed = ns.map NativeMod.fixed)
    (hquiet : ∀ n ∈ ns, QuietSave n.impl.api)
    (hattached : ∀ n ∈ ns, Attached F library staged n.impl)
    (hrestores : ∀ n ∈ ns, Restores staged n.impl) :
    ∃ nexts, replaceAll F library ms (ns.map fun n => savedBytes staged n.impl) staged
        = .ok (nexts, staged)
      ∧ (ms.zipWith swap nexts).map NativeMod.fixed = ns.map NativeMod.fixed
      ∧ (ms.zipWith swap nexts).map (fun m => savedBytes staged m.impl)
        = ns.map fun n => savedBytes staged n.impl := by
  induction ms generalizing ns with
  | nil =>
    cases ns with
    | nil => exact ⟨[], rfl, rfl, rfl⟩
    | cons n ns => cases hfixed
  | cons m ms ih =>
    cases ns with
    | nil => cases hfixed
    | cons n ns =>
      obtain ⟨hfirst, hrest⟩ := List.cons.inj hfixed
      obtain ⟨next, hnext, hsame, hsaved⟩ := replace_eq_ok hfirst (hquiet n List.mem_cons_self)
        (hattached n List.mem_cons_self) (hrestores n List.mem_cons_self)
      obtain ⟨nexts, hnexts, hothers, hstates⟩ := ih hrest
        (fun x hx => hquiet x (List.mem_cons_of_mem n hx))
        (fun x hx => hattached x (List.mem_cons_of_mem n hx))
        (fun x hx => hrestores x (List.mem_cons_of_mem n hx))
      refine ⟨next :: nexts, ?_, ?_, ?_⟩
      · rw [List.map_cons, replaceAll, hnext]
        show (replaceAll F library ms (ns.map fun n => savedBytes staged n.impl) staged
          >>= fun others => _) = _
        rw [hnexts]
        rfl
      · rw [List.zipWith_cons_cons, List.map_cons, List.map_cons, hsame, hothers]
      · rw [List.zipWith_cons_cons, List.map_cons, List.map_cons, hstates]
        exact congrArg (· :: _) hsaved

/-! ## Preparing changes nothing -/

variable {w : World I}

theorem keeps_checkCohort (hquiet : ∀ m ∈ w.cohort,
    QuietSave m.impl.api) (modules regions : Option (List Byte)) :
    Keeps (checkCohort F modules regions) w := by
  apply (keeps_get w).bind
  intro before _
  apply (keeps_fromExcept _ w).bind
  intro beforeHost _
  apply (keeps_saveCohort F hquiet).bind
  intro beforeModules _
  apply (keeps_get w).bind
  intro now _
  apply (keeps_fromExcept _ w).bind
  intro bytes _
  apply (keeps_require _ _ w).bind
  intro u _
  apply (keeps_fromExcept _ w).bind
  intro states _
  exact keeps_pure _ w

theorem keeps_prepareCohort (library : Library I)
    (hquiet : ∀ m ∈ w.cohort, QuietSave m.impl.api) (modules regions : Option (List Byte)) :
    Keeps (prepareCohort F library modules regions) w := by
  apply (keeps_checkCohort F hquiet modules regions).bind
  intro checked _
  apply (keeps_get w).bind
  intro now _
  apply (keeps_fromExcept _ w).bind
  intro built _
  exact keeps_pure _ w

theorem keeps_prepareReset (library : Library I)
    (hquiet : ∀ m ∈ w.cohort, QuietSave m.impl.api) : Keeps (prepareReset F library) w := by
  apply (keeps_saveCohort F hquiet).bind
  intro modules _
  apply (keeps_get w).bind
  intro now _
  apply (keeps_fromExcept _ w).bind
  intro regions _
  apply (keeps_prepareCohort F library hquiet _ _).bind
  intro prepared _
  apply (keeps_fromExcept _ w).bind
  intro done _
  apply (keeps_fromExcept _ w).bind
  intro reached _
  apply (keeps_fromExcept _ w).bind
  intro bytes _
  exact keeps_pure _ w

theorem atomic_commit (hquiet : ∀ m ∈ w.cohort,
    QuietSave m.impl.api) (p : PreparedCohort I) : Atomic (commit F p) w := by
  apply (keeps_get w).bind_atomic
  intro before _
  apply (keeps_require _ _ w).bind_atomic
  intro u _
  apply (keeps_fromExcept _ w).bind_atomic
  intro host _
  apply (keeps_require _ _ w).bind_atomic
  intro u _
  apply (keeps_saveCohort F hquiet).bind_atomic
  intro modules _
  apply (keeps_require _ _ w).bind_atomic
  intro u _
  apply (keeps_get w).bind_atomic
  intro now _
  apply (keeps_fromExcept _ w).bind_atomic
  intro next _
  exact atomic_set _ w

theorem exec_of_keeps {σ ε α : Type} {x : Action σ ε α} {s : σ} {r : Except ε α}
    (h : Keeps x s) (hr : (exec x s).1 = r) : exec x s = (r, s) :=
  Prod.ext hr h

/-! ## What a preparation remembers -/

variable {w' : World I}

theorem checkCohort_eq_ok {F : Files} {modules regions : Option (List Byte)}
    {checked : CheckedCohort} (hquiet : ∀ m ∈ w.cohort, QuietSave m.impl.api)
    (h : exec (checkCohort F modules regions) w = (.ok checked, w')) :
    w' = w ∧ w.host.exportState = .ok checked.beforeHost
      ∧ exec (saveCohort F) w = (.ok checked.beforeModules, w)
      ∧ w.host.prepareCheckpoint regions = .ok checked.bytes
      ∧ parseCohort F w.cohort (modules.getD emptyCohort) = .ok checked.states := by
  have hkeeps := keeps_checkCohort F hquiet modules regions
  unfold Keeps at hkeeps
  rw [h] at hkeeps
  obtain rfl : w' = w := hkeeps
  obtain ⟨before, t, hbefore, h⟩ := exec_bind_eq_ok h
  cases hbefore
  obtain ⟨beforeHost, hhost, h⟩ := exec_fromExcept_bind_eq_ok h
  obtain ⟨beforeModules, t, hmodules, h⟩ := exec_bind_eq_ok h
  have hsaved := exec_of_keeps (keeps_saveCohort F hquiet) (congrArg Prod.fst hmodules)
  obtain ⟨now, t, hnow, h⟩ := exec_bind_eq_ok h
  cases hnow
  obtain ⟨bytes, hbytes, h⟩ := exec_fromExcept_bind_eq_ok h
  obtain ⟨-, h⟩ := exec_require_bind_eq_ok h
  obtain ⟨states, hstates, h⟩ := exec_fromExcept_bind_eq_ok h
  cases h
  exact ⟨rfl, hhost, hsaved, hbytes, hstates⟩

variable {p : PreparedCohort I}

variable {v : World I}

theorem commit_eq_ok {F : Files} {v' : World I} (hquiet : ∀ m ∈ v.cohort, QuietSave m.impl.api)
    (h : exec (commit F p) v = (.ok PUnit.unit, v')) :
    v.addresses = p.live ∧ v.host.exportState = .ok p.beforeHost
      ∧ exec (saveCohort F) v = (.ok p.beforeModules, v)
      ∧ ∃ next, v.host.commitState p.bytes = .ok next
        ∧ v' = ⟨next, v.cohort.zipWith swap p.replacements⟩ := by
  obtain ⟨before, t, hbefore, h⟩ := exec_bind_eq_ok h
  cases hbefore
  obtain ⟨hlive, h⟩ := exec_require_bind_eq_ok h
  obtain ⟨host, hhost, h⟩ := exec_fromExcept_bind_eq_ok h
  obtain ⟨hsame, h⟩ := exec_require_bind_eq_ok h
  obtain ⟨modules, u, hmodules, hrest⟩ := exec_bind_eq_ok h
  have hsaved := exec_of_keeps (keeps_saveCohort F hquiet) (congrArg Prod.fst hmodules)
  obtain rfl : u = v := congrArg Prod.snd (hmodules.symm.trans hsaved)
  obtain ⟨hmatch, hcommit⟩ := exec_require_bind_eq_ok hrest
  obtain ⟨now, t, hnow, hpublish⟩ := exec_bind_eq_ok hcommit
  cases hnow
  obtain ⟨next, hnext, hset⟩ := exec_fromExcept_bind_eq_ok hpublish
  cases hset
  obtain rfl := of_decide_eq_true hsame
  obtain rfl := of_decide_eq_true hmatch
  exact ⟨of_decide_eq_true hlive, hhost, hsaved, next, hnext, rfl⟩

/-- The same modules over regions of the same layout, whatever has happened to both. -/
structure SameModules (w v : World I) : Prop where
  layout : v.host.layout = w.host.layout
  cohort : v.cohort.map NativeMod.fixed = w.cohort.map NativeMod.fixed

theorem exists_fixed
    (h : ms.map NativeMod.fixed = ns.map NativeMod.fixed) {m : NativeMod I} (hm : m ∈ ms) :
    ∃ n ∈ ns, n.fixed = m.fixed := by
  have hmem : m.fixed ∈ ns.map NativeMod.fixed := h ▸ List.mem_map_of_mem hm
  exact List.mem_map.mp hmem

theorem quiet_of_fixed (h : ms.map NativeMod.fixed = ns.map NativeMod.fixed)
    (hquiet : ∀ n ∈ ns, QuietSave n.impl.api) : ∀ m ∈ ms, QuietSave m.impl.api := by
  intro m hm
  obtain ⟨n, hn, hsame⟩ := exists_fixed h hm
  rw [← api_congr hsame]
  exact hquiet n hn

theorem map_of_fixed {β : Type} (f : Fixed I → β)
    (h : ms.map NativeMod.fixed = ns.map NativeMod.fixed) :
    (ms.map fun m => f m.fixed) = ns.map fun n => f n.fixed := by
  have hmap := congrArg (List.map f) h
  rwa [List.map_map, List.map_map] at hmap

theorem sizes_of_fixed (h : ms.map NativeMod.fixed = ns.map NativeMod.fixed) :
    (ms.map fun m => m.impl.api.stateSize.toNat)
      = ns.map fun n => n.impl.api.stateSize.toNat :=
  map_of_fixed (fun f => f.api.stateSize.toNat) h

theorem addresses_of_fixed (h : v.cohort.map NativeMod.fixed = w.cohort.map NativeMod.fixed) :
    v.addresses = w.addresses :=
  map_of_fixed Fixed.address h

theorem savedSize_of_layout (hlayout : h'.layout = h.layout) :
    savedSize h'.regions = savedSize h.regions := by
  have hsizes := congrArg (List.map fun l : Layout => 16 + l.name.length + l.size) hlayout
  unfold ModHost.layout at hsizes
  rw [List.map_map, List.map_map] at hsizes
  exact congrArg List.sum hsizes

/-- Whether there are records depends on the identities only. -/
theorem exists_recordsOf {F : Files} {states states' : List (List Byte)}
    {blob : List Byte} (hcount : states'.length = states.length)
    (h : recordsOf F ms states = .ok blob) : ∃ blob', recordsOf F ms states' = .ok blob' := by
  induction ms generalizing states states' blob with
  | nil => exact ⟨[], rfl⟩
  | cons m ms ih =>
    cases states' with
    | nil => exact ⟨[], rfl⟩
    | cons bytes' states' =>
      cases states with
      | nil => cases hcount
      | cons bytes states =>
        obtain ⟨d, hd, h⟩ := bind_eq_ok h
        obtain ⟨others, hothers, h⟩ := bind_eq_ok h
        obtain ⟨rest, hrest⟩ := ih (Nat.succ.inj hcount) hothers
        refine ⟨record d m.impl.api.stateVersion bytes' ++ rest, ?_⟩
        unfold recordsOf
        rw [hd]
        rw [hrest]
        rfl

theorem exists_saveCohort {F : Files} {modules : List Byte}
    (hw : ∀ m ∈ w.cohort, QuietSave m.impl.api) (hsame : SameModules w v)
    (hmodules : (exec (saveCohort F) w).1 = .ok modules) :
    ∃ modules', exec (saveCohort F) v = (.ok modules', v) := by
  have hv := quiet_of_fixed hsame.cohort hw
  obtain ⟨hfew, blob, hblob, hbudget, -⟩ := (exec_saveCohort_iff F hw modules).mp hmodules
  have hcount : v.cohort.length = w.cohort.length := by
    have hlengths := congrArg List.length hsame.cohort
    simpa only [List.length_map] using hlengths
  rw [← recordsOf_congr F hsame.cohort] at hblob
  have hstates : v.states.length = w.states.length := by
    simpa only [World.states, List.length_map] using hcount
  obtain ⟨blob', hblob'⟩ := exists_recordsOf hstates hblob
  have hlength := length_recordsOf (lengths_states v.host v.cohort) hblob'
  have hlength' := length_recordsOf
    ((lengths_states w.host w.cohort).trans (sizes_of_fixed hsame.cohort).symm) hblob
  have hok := (exec_saveCohort_iff F hv (cohortHeader v.cohort.length ++ blob')).mpr
    ⟨by omega, blob', hblob', by omega, rfl⟩
  exact ⟨_, exec_of_keeps (keeps_saveCohort F hv) hok⟩

/-- What was saved is restored, exactly, into the same modules. -/
theorem restore_saved {F : Files}
    {modules regions : List Byte} (hw : ∀ m ∈ w.cohort, QuietSave m.impl.api)
    (hattached : ∀ m ∈ w.cohort, Attached F library w.host m.impl)
    (hrestores : ∀ m ∈ w.cohort, Restores w.host m.impl) (hsame : SameModules w v)
    (hmodules : (exec (saveCohort F) w).1 = .ok modules)
    (hregions : w.host.exportState = .ok regions) :
    ∃ p v', exec (prepareCohort F library (some modules) (some regions)) v = (.ok p, v)
      ∧ exec (commit F p) v = (.ok PUnit.unit, v') ∧ v'.host = w.host
      ∧ v'.addresses = w.addresses ∧ v'.states = w.states
      ∧ exec (saveCohort F) v' = (.ok modules, v') := by
  have hv := quiet_of_fixed hsame.cohort hw
  obtain ⟨hfits, -⟩ := exportState_eq_ok hregions
  rw [← savedSize_of_layout hsame.layout] at hfits
  obtain ⟨beforeHost, hbefore⟩ : ∃ state, v.host.exportState = .ok state :=
    ⟨_, exportState_eq v.host hfits⟩
  obtain ⟨modules', hlive⟩ := exists_saveCohort hw hsame hmodules
  obtain ⟨bytes, hbytes, hcommit⟩ := prepareCheckpoint_exportState hsame.layout.symm hregions
  obtain ⟨hfew, blob, hblob, hbudget, hdata⟩ := (exec_saveCohort_iff F hw modules).mp hmodules
  have hcount : v.cohort.length = w.cohort.length := by
    have hlengths := congrArg List.length hsame.cohort
    simpa only [List.length_map] using hlengths
  have himages : ImagesKept F v.cohort := by
    intro m hm
    obtain ⟨n, hn, hfixed⟩ := exists_fixed hsame.cohort hm
    have himage := imageDigest_of_attached (hattached n hn)
    simp only [NativeMod.fixed, Fixed.mk.injEq] at hfixed
    rwa [hfixed.2.2.1, hfixed.2.2.2.1] at himage
  have hparse : parseCohort F v.cohort modules = .ok w.states := by
    rw [hdata, ← hcount]
    exact parseCohort_records himages
      ((lengths_states w.host w.cohort).trans (sizes_of_fixed hsame.cohort).symm)
      ((recordsOf_congr F hsame.cohort _).trans hblob) (by omega) hbudget
  obtain ⟨nexts, hnexts, hfixed, hstates⟩ := replaceAll_eq_ok hsame.cohort hw hattached hrestores
  have hbuild : buildCohort F library v w.states (some regions) = .ok (nexts, w.host) := by
    unfold buildCohort
    rw [hbytes]
    show (v.host.commitState bytes >>= fun staged => _) = _
    rw [hcommit]
    show (w.host.exportState >>= fun expected => _) = _
    rw [hregions]
    show (replaceAll F library v.cohort w.states w.host >>= fun built => _) = _
    rw [show replaceAll F library v.cohort w.states w.host = .ok (nexts, w.host) from hnexts]
    show (w.host.exportState >>= fun reached => _) = _
    rw [hregions]
    show (guardWith (decide (regions = regions)) _ >>= fun _ => _) = _
    rw [decide_eq_true rfl]
    rfl
  have hchecked : exec (checkCohort F (some modules) (some regions)) v
      = (.ok ⟨beforeHost, modules', bytes, w.states⟩, v) := by
    unfold checkCohort
    rw [exec_bind_ok (exec_get v), hbefore, exec_bind_ok (exec_fromExcept _ v), exec_bind_ok hlive,
      exec_bind_ok (exec_get v), hbytes, exec_bind_ok (exec_fromExcept _ v)]
    refine (exec_require_bind rfl).trans ?_
    show exec (fromExcept (parseCohort F v.cohort modules) >>= fun states => _) v = _
    rw [hparse, exec_bind_ok (exec_fromExcept _ v)]
    rfl
  refine ⟨⟨v.addresses, beforeHost, modules', w.host, bytes, nexts⟩,
    ⟨w.host, v.cohort.zipWith swap nexts⟩, ?_, ?_, rfl, ?_, hstates, ?_⟩
  · unfold prepareCohort
    rw [exec_bind_ok hchecked, exec_bind_ok (exec_get v), hbuild,
      exec_bind_ok (exec_fromExcept _ v)]
    rfl
  · unfold commit
    rw [exec_bind_ok (exec_get v), exec_require_bind (decide_eq_true rfl), hbefore,
      exec_bind_ok (exec_fromExcept _ v), exec_require_bind (decide_eq_true rfl),
      exec_bind_ok hlive, exec_require_bind (decide_eq_true rfl), exec_bind_ok (exec_get v),
      hcommit, exec_bind_ok (exec_fromExcept _ v)]
    rfl
  · exact addresses_of_fixed hfixed
  · have hquiet := quiet_of_fixed hfixed hw
    have hlength : (v.cohort.zipWith swap nexts).length = w.cohort.length := by
      have hlengths := congrArg List.length hfixed
      simpa only [List.length_map] using hlengths
    refine exec_of_keeps (keeps_saveCohort F hquiet) ?_
    refine (exec_saveCohort_iff F hquiet modules).mpr ⟨?_, blob, ?_, hbudget, ?_⟩
    · exact hlength.trans_le hfew
    · refine (recordsOf_congr F hfixed _).trans ?_
      exact (congrArg (recordsOf F w.cohort) hstates).trans hblob
    · rw [hdata]
      exact congrArg (fun n => cohortHeader n ++ blob) hlength.symm

/-! ## Checkpoints that are refused -/

def pool : ModHost := ⟨[⟨[112], [5], 0, 0⟩]⟩

def poolFiles : Files where
  sha256 bytes :=
    if bytes.length = 4 then ⟨[59, 219, 180, 254, 131, 151, 205, 43, 132, 36, 48, 179, 156, 207,
      240, 26, 134, 99, 199, 81, 148, 94, 245, 233, 160, 158, 38, 127, 184, 177, 211, 89], rfl⟩
    else ⟨[10, 117, 117, 247, 31, 96, 150, 25, 221, 25, 151, 43, 136, 103, 143, 113, 155, 116,
      194, 203, 202, 254, 67, 91, 209, 215, 54, 68, 82, 182, 206, 25], rfl⟩
  file _ := some [127, 69, 76, 70]

def poolMod : LoadedMod := ⟨[99], [49], 0, [([112], 1)], [109], []⟩

/-- A module with one byte of state. -/
def counter : TimeModApi Byte where
  id := [99]
  version := [49]
  stateVersion := 1
  stateSize := 1
  create _ := (some 0, [])
  reset _ _ := (true, 0, [])
  save _ i := (true, i, [i])
  restore _ _ bytes := (true, bytes.headD 0, [])

def attach (api : TimeModApi I) (inst : I) : NativeMod I :=
  ⟨4096, ⟨api, inst, poolMod, poolFiles.sha256 [127, 69, 76, 70], []⟩⟩

theorem counter_quiet : QuietSave counter := ⟨fun _ _ => rfl, fun _ _ => rfl⟩

end ProtoTime.Modding
