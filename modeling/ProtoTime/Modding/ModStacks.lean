import ProtoTime.Modding.ModDirectoryLoader
import Mathlib.Data.List.Perm.Basic
import Mathlib.Data.Prod.Lex
import Mathlib.Data.List.Sort

/-!
Stacks of mod packages. The order in which directories are named does not matter,
and what a stack writes composes unless two patches reach one byte of the ROM
through different windows of a bank.
-/
namespace ProtoTime.Modding

open Results Overlays

variable (P : Platform)

/-! ## What a stack writes -/

def stackSymbols (packages : List Package) : Except Text Symbols :=
  packages.foldlM (fun symbols package => importSymbols P package symbols) []

def packagePatches (symbols : Symbols) (package : Package) : Except Text (List Patch) := do
  let patches ← patchList package.manifest
  patches.mapM (readPatch symbols)

def stackPatches (packages : List Package) : Except Text (List Patch) := do
  let symbols ← stackSymbols P packages
  let lists ← packages.mapM (packagePatches symbols)
  return lists.flatten

/-- The patches of the packages in these directories. -/
def patchesOf (directories : List Path) (rom : List Byte) (machineId : String) :
    Except Text (List Patch) :=
  readStack P directories rom machineId >>= stackPatches P

/-- The sixteen kibibytes of guest addresses a patch names its bank through. -/
def Patch.window (p : Patch) : ℕ := p.target.address.toNat / kBankSize

/-- No two patches reach one byte of the ROM through different windows of a bank. -/
def WindowsApart (patches : List Patch) : Prop :=
  patches.Pairwise fun p q =>
    p.target.bank = q.target.bank → p.window ≠ q.window → p.overlay.Apart q.overlay

/-- The stack is prepared without damage, in any order of the directories, or not at all. -/
structure Prepares (directories : List Path) (rom : List Byte) (machineId : String) : Prop where
  patched : ∀ prepared, (loadModDirectories P directories rom machineId).prepared = some prepared →
    ∃ patches, patchesOf P directories rom machineId = .ok patches
      ∧ Composes rom (patches.map Patch.overlay) prepared.rom
  permuted : ∀ prepared directories',
    (loadModDirectories P directories rom machineId).prepared = some prepared →
    directories.Perm directories' →
    ∃ prepared', (loadModDirectories P directories' rom machineId).prepared = some prepared'
      ∧ prepared'.rom = prepared.rom ∧ prepared'.mods = prepared.mods
  refused : (loadModDirectories P directories rom machineId).error ≠ [] →
    (loadModDirectories P directories rom machineId).prepared = none

/-! ## Symbols are only added -/

variable {more symbols : Symbols}

theorem resolveSymbol_mono {name : Text} {symbol : Symbol}
    (h : symbols <+: more) (hresolved : resolveSymbol symbols name = some symbol) :
    resolveSymbol more name = some symbol := by
  obtain ⟨rest, rfl⟩ := h
  unfold resolveSymbol at hresolved ⊢
  rw [List.lookup_append, hresolved]
  rfl

theorem addSymbol_extends {next : Symbols} {name : Text} {symbol : Symbol}
    (h : addSymbol symbols name symbol = some next) : symbols <+: next := by
  unfold addSymbol at h
  split at h
  · cases h
  · cases h
    exact List.prefix_append symbols _

theorem symbolLine_extends {next : Symbols} {line : Text}
    (h : symbolLine symbols line = some next) : symbols <+: next := by
  unfold symbolLine at h
  split at h
  · cases h
    exact List.prefix_refl symbols
  · split at h
    · exact addSymbol_extends h
    · cases h
  · cases h

theorem symbolLines_extends (symbols : Symbols) (lines : List Text) :
    symbols <+: (symbolLines symbols lines).1 := by
  unfold symbolLines
  generalize 0 = rejected
  induction lines generalizing symbols rejected with
  | nil => exact List.prefix_refl symbols
  | cons line lines ih =>
    rw [List.foldl_cons]
    dsimp only
    cases hline : symbolLine symbols line with
    | none => exact ih symbols (rejected + 1)
    | some next => exact (symbolLine_extends hline).trans (ih next rejected)

theorem loadSymbols_extends (path : Path) (symbols : Symbols) :
    symbols <+: (loadSymbols P path symbols).2 := by
  unfold loadSymbols
  split
  · exact List.prefix_refl symbols
  · exact symbolLines_extends symbols _

variable {package : Package}

theorem importSymbols_extends {next : Symbols}
    (h : importSymbols P package symbols = .ok next) : symbols <+: next := by
  unfold importSymbols at h
  split at h
  · obtain ⟨name, _, h⟩ := bind_eq_ok h
    obtain ⟨path, _, h⟩ := bind_eq_ok h
    obtain ⟨size, _, h⟩ := bind_eq_ok h
    obtain ⟨_, _, h⟩ := bind_eq_ok h
    obtain ⟨_, _, h⟩ := bind_eq_ok h
    cases h
    exact loadSymbols_extends P path symbols
  · cases h
    exact List.prefix_refl symbols

theorem patchTarget_mono {p : Json} {target : Symbol}
    (h : symbols <+: more) (htarget : patchTarget symbols p = .ok target) :
    patchTarget more p = .ok target := by
  unfold patchTarget at htarget ⊢
  split_ifs at htarget ⊢ with hform
  · obtain ⟨u, hmixed, htarget⟩ := bind_eq_ok htarget
    obtain ⟨name, hname, htarget⟩ := bind_eq_ok htarget
    rw [ok_bind hmixed, ok_bind hname]
    split at htarget
    · rename_i symbol hresolved
      rw [resolveSymbol_mono h hresolved]
      exact htarget
    · cases htarget
  · exact htarget

variable {patch : Patch}

theorem readPatch_mono {p : Json} (h : symbols <+: more) (hread : readPatch symbols p = .ok patch) :
    readPatch more p = .ok patch := by
  unfold readPatch at hread ⊢
  obtain ⟨u, hkeys, hread⟩ := bind_eq_ok hread
  obtain ⟨target, htarget, hread⟩ := bind_eq_ok hread
  rw [ok_bind hkeys, ok_bind (patchTarget_mono h htarget)]
  exact hread

variable {patches : List Patch}

theorem packagePatches_mono
    (h : symbols <+: more) (hread : packagePatches symbols package = .ok patches) :
    packagePatches more package = .ok patches := by
  unfold packagePatches at hread ⊢
  obtain ⟨list, hlist, hread⟩ := bind_eq_ok hread
  rw [ok_bind hlist]
  exact mapM_mono (fun _ _ hp => readPatch_mono h hp) hread

/-! ## What has been written -/

/-- The patches of one bank keep apart in the guest's addresses. -/
def GuestApart (p q : Patch) : Prop :=
  p.target.bank = q.target.bank →
    p.target.address.toNat + p.replacement.length ≤ q.target.address.toNat
      ∨ q.target.address.toNat + q.replacement.length ≤ p.target.address.toNat

def Patch.known (p : Patch) : Symbol × ℕ := (p.target, p.replacement.length)

/-- The patches written so far: the host knows them, each found in the image what it expects
and lies in one bank, and the guest addresses of two never meet. -/
structure Written (machineId : String) (rom : List Byte) (patches : List Patch)
    (state : Patched) : Prop where
  applied : Applied rom (patches.map Patch.overlay) state.2
  known : state.1 = patches.map Patch.known
  checked : ∀ p ∈ patches, checkPatch machineId rom.length p = .ok ()
  guestApart : patches.Pairwise GuestApart

theorem written_nothing (machineId : String) (rom : List Byte) :
    Written machineId rom [] ([], rom) :=
  ⟨.nil rom, rfl, fun _ hp => absurd hp List.not_mem_nil, .nil⟩

variable {state next : Patched}

theorem writePatch_eq_some (h : writePatch patch state = some next) :
    patch.expected.length = patch.replacement.length
      ∧ state.1.any (meets patch.target patch.replacement.length) = false
      ∧ HoldsAt state.2 patch.offset patch.expected
      ∧ next = (state.1 ++ [patch.known], overwrite state.2 patch.offset patch.replacement) := by
  unfold writePatch applyPatch at h
  split at h
  · cases h
  · rename_i hsizes
    split at h
    · cases h
    · split at h
      · cases h
      · rename_i hmeets
        split at h
        · cases h
        · rename_i hfound
          simp only [Option.map_some, Option.some.injEq] at h
          simp only [Bool.or_eq_true, bne_iff_ne, ne_eq, not_or, not_not] at hsizes
          simp only [Bool.not_eq_true', Bool.not_eq_false, beq_iff_eq] at hfound
          exact ⟨hsizes.2, Bool.eq_false_iff.mpr hmeets, holdsAt_of_window hfound, h.symm⟩

variable {p : Patch} {machineId : String}

theorem checkPatch_eq_ok {romSize : ℕ} (h : checkPatch machineId romSize p = .ok ()) :
    (if machineId == "gameboy" then gameBoyTarget p.target else gameGearTarget p.target) = true
      ∧ p.expected.length ≤ kBankSize - p.target.address.toNat % kBankSize
      ∧ p.offset + p.expected.length ≤ romSize := by
  obtain ⟨_, htarget, h⟩ := bind_eq_ok h
  obtain ⟨_, hbank, h⟩ := bind_eq_ok h
  have hrange := require_eq_ok h
  simp only [Bool.and_eq_true, decide_eq_true_eq] at hrange
  exact ⟨require_eq_ok htarget, of_decide_eq_true (require_eq_ok hbank), by omega⟩

variable {q : Patch}

theorem guestApart_of_not_meets
    (h : meets q.target q.replacement.length p.known = false) : GuestApart p q := by
  intro hbank
  unfold meets Patch.known at h
  simp only [hbank, beq_self_eq_true, Bool.true_and, Bool.and_eq_false_iff,
    decide_eq_false_iff_not] at h
  omega

variable {rom : List Byte}

/-- A patch that is written joins those before it. -/
theorem Written.step (h : Written machineId rom patches state)
    (hcheck : checkPatch machineId rom.length patch = .ok ())
    (hwrite : writePatch patch state = some next) :
    Written machineId rom (patches ++ [patch]) next := by
  obtain ⟨hsized, hmeets, hfound, rfl⟩ := writePatch_eq_some hwrite
  obtain ⟨-, -, hrange⟩ := checkPatch_eq_ok hcheck
  have hlength : state.2.length = rom.length := h.applied.length
  constructor
  · rw [List.map_append]
    refine h.applied.append (.cons ⟨hsized.symm, ?_, hfound⟩ (.nil _))
    rw [hlength]
    exact hrange
  · rw [List.map_append, h.known]
    rfl
  · intro p hp
    rcases List.mem_append.mp hp with hold | hnew
    · exact h.checked p hold
    · rw [List.mem_singleton.mp hnew]
      exact hcheck
  · rw [List.pairwise_append]
    refine ⟨h.guestApart, List.pairwise_singleton _ _, ?_⟩
    intro p hp q hq
    rw [List.mem_singleton.mp hq]
    apply guestApart_of_not_meets
    rw [List.any_eq_false] at hmeets
    have hknown : p.known ∈ state.1 := by
      rw [h.known]
      exact List.mem_map_of_mem hp
    simpa using hmeets p.known hknown

/-- The patches of one package. -/
theorem Written.install {list : List Json} (h : Written machineId rom patches state)
    (hrun : list.foldlM (installPatch machineId rom.length symbols) state = .ok next) :
    ∃ new, list.mapM (readPatch symbols) = .ok new
      ∧ Written machineId rom (patches ++ new) next := by
  induction list generalizing patches state with
  | nil =>
    cases hrun
    exact ⟨[], rfl, by simpa using h⟩
  | cons p list ih =>
    obtain ⟨middle, hstep, hrun⟩ := bind_eq_ok hrun
    obtain ⟨patch, hread, hstep⟩ := bind_eq_ok hstep
    obtain ⟨_, hcheck, hstep⟩ := bind_eq_ok hstep
    have hwrite : writePatch patch state = some middle := by
      split at hstep
      · rename_i written hwritten
        cases hstep
        exact hwritten
      · cases hstep
    obtain ⟨new, hnew, hwritten⟩ := ih (h.step hcheck hwrite) hrun
    refine ⟨patch :: new, ?_, by simpa using hwritten⟩
    rw [List.mapM_cons, ok_bind hread, ok_bind hnew]
    rfl

theorem under_eq_ok {α : Type} {current : Text} {x : Except Text α} {a : α}
    (h : under current x = .ok a) : x = .ok a := by
  cases x with
  | error e => cases h
  | ok b => exact h

theorem preparePackage_written {state next : PreparedMods × ℕ}
    (h : Written machineId rom patches (state.1.host.patches, state.1.rom))
    (hrun : preparePackage P machineId rom.length state package = .ok next) :
    importSymbols P package state.1.host.symbols = .ok next.1.host.symbols
      ∧ ∃ new, packagePatches next.1.host.symbols package = .ok new
        ∧ Written machineId rom (patches ++ new) (next.1.host.patches, next.1.rom) := by
  have hbody := under_eq_ok hrun
  obtain ⟨symbols, hsymbols, hbody⟩ := bind_eq_ok hbody
  obtain ⟨made, _, hbody⟩ := bind_eq_ok hbody
  obtain ⟨patched, hpatched, hbody⟩ := bind_eq_ok hbody
  cases hbody
  obtain ⟨list, hlist, hpatched⟩ := bind_eq_ok hpatched
  obtain ⟨new, hnew, hwritten⟩ := h.install hpatched
  refine ⟨hsymbols, new, ?_, hwritten⟩
  unfold packagePatches
  rw [ok_bind hlist]
  exact hnew

variable {packages : List Package}

/-- The patches of every package of a stack. -/
theorem preparePackages_written {state last : PreparedMods × ℕ}
    (h : Written machineId rom patches (state.1.host.patches, state.1.rom))
    (hrun : packages.foldlM (preparePackage P machineId rom.length) state = .ok last) :
    packages.foldlM (fun symbols package => importSymbols P package symbols) state.1.host.symbols
        = .ok last.1.host.symbols
      ∧ state.1.host.symbols <+: last.1.host.symbols
      ∧ ∃ lists, packages.mapM (packagePatches last.1.host.symbols) = .ok lists
        ∧ Written machineId rom (patches ++ lists.flatten)
          (last.1.host.patches, last.1.rom) := by
  induction packages generalizing patches state with
  | nil =>
    cases hrun
    exact ⟨rfl, List.prefix_refl _, [], rfl, by simpa using h⟩
  | cons package packages ih =>
    obtain ⟨middle, hstep, hrun⟩ := bind_eq_ok hrun
    obtain ⟨hsymbols, new, hnew, hwritten⟩ := preparePackage_written P h hstep
    obtain ⟨hrest, hprefix, lists, hlists, hlast⟩ := ih hwritten hrun
    refine ⟨?_, (importSymbols_extends P hsymbols).trans hprefix, new :: lists, ?_, ?_⟩
    · rw [List.foldlM_cons, ok_bind hsymbols]
      exact hrest
    · rw [List.mapM_cons, ok_bind (packagePatches_mono hprefix hnew), ok_bind hlists]
      rfl
    · simpa using hlast

variable {prepared : PreparedMods}

theorem prepareStack_written (h : prepareStack P rom machineId packages = .ok prepared) :
    ∃ patches, stackPatches P packages = .ok patches
      ∧ Written machineId rom patches (prepared.host.patches, prepared.rom) := by
  obtain ⟨last, hrun, h⟩ := bind_eq_ok h
  cases h
  obtain ⟨hsymbols, -, lists, hlists, hwritten⟩ :=
    preparePackages_written P (written_nothing machineId rom) hrun
  refine ⟨lists.flatten, ?_, by simpa using hwritten⟩
  have hstack : stackSymbols P packages = .ok last.1.host.symbols := hsymbols
  unfold stackPatches
  rw [ok_bind hstack, ok_bind hlists]
  rfl

/-! ## Banks and windows -/

theorem overlay_apart_of_le
    (h : p.offset + p.replacement.length ≤ q.offset ∨ q.offset + q.replacement.length ≤ p.offset) :
    p.overlay.Apart q.overlay := by
  intro i hi
  obtain ⟨⟨hp, hp'⟩, hq, hq'⟩ := hi
  simp only [Patch.overlay] at hp hp' hq hq'
  omega

/-- Two patches reach one byte only through different windows of one bank. -/
theorem apart_of_guestApart
    (hp : p.replacement.length ≤ kBankSize - p.target.address.toNat % kBankSize)
    (hq : q.replacement.length ≤ kBankSize - q.target.address.toNat % kBankSize)
    (hguest : GuestApart p q) (hwindow : p.target.bank = q.target.bank → p.window ≠ q.window →
      p.overlay.Apart q.overlay) : p.overlay.Apart q.overlay := by
  by_cases hbank : p.target.bank = q.target.bank
  · by_cases hsame : p.window = q.window
    · apply overlay_apart_of_le
      have hranges := hguest hbank
      unfold Patch.offset Patch.window at *
      unfold kBankSize at *
      omega
    · exact hwindow hbank hsame
  · apply overlay_apart_of_le
    have hne : p.target.bank.toNat ≠ q.target.bank.toNat :=
      fun h => hbank (BitVec.eq_of_toNat_eq h)
    unfold Patch.offset kBankSize at *
    omega

/-- What a stack writes composes just when its windows keep apart. -/
theorem Written.composes_iff (h : Written machineId rom patches state) :
    Composes rom (patches.map Patch.overlay) state.2 ↔ WindowsApart patches := by
  rw [h.applied.composes_iff, List.pairwise_map]
  constructor
  · exact fun hapart => hapart.imp fun hpq _ _ => hpq
  · intro hwindows
    have hsized : ∀ p ∈ patches,
        p.replacement.length ≤ kBankSize - p.target.address.toNat % kBankSize := by
      intro p hp
      have hlength := h.applied.sized p.overlay (List.mem_map_of_mem hp)
      have hbank := (checkPatch_eq_ok (h.checked p hp)).2.1
      simp only [Patch.overlay] at hlength
      omega
    refine List.Pairwise.imp_of_mem ?_ (h.guestApart.and hwindows)
    intro p q hp hq hpq
    exact apart_of_guestApart (hsized p hp) (hsized q hq) hpq.1 hpq.2

/-- On the Game Boy a bank has one window. -/
theorem gameBoy_windowsApart (h : Written "gameboy" rom patches state) : WindowsApart patches := by
  have htarget : ∀ p ∈ patches, p.window = if p.target.bank = 0 then 0 else 1 := by
    intro p hp
    have hgameBoy := (checkPatch_eq_ok (h.checked p hp)).1
    simp only [beq_self_eq_true, if_true, gameBoyTarget, Bool.or_eq_true, Bool.and_eq_true,
      beq_iff_eq, decide_eq_true_eq] at hgameBoy
    unfold Patch.window kBankSize
    rcases hgameBoy with ⟨hzero, hlow⟩ | ⟨⟨hbank, hhigh⟩, htop⟩
    · rw [if_pos hzero]
      omega
    · have hne : p.target.bank ≠ 0 := by
        intro hzero
        rw [hzero] at hbank
        exact absurd hbank (by decide)
      rw [if_neg hne]
      omega
  refine List.Pairwise.imp_of_mem ?_ h.guestApart
  intro p q hp hq _ hbank hwindow
  rw [htarget p hp, htarget q hq, hbank] at hwindow
  exact absurd rfl hwindow

/-! ## The order of the directories -/

def Package.id (p : Package) : Text := p.info.id

variable {digest : List Byte}

theorem addPackage_eq_ok {next : List Package}
    {directory : Path} (h : addPackage P machineId digest packages directory = .ok next) :
    ∃ package, readPackage P machineId digest directory = .ok package
      ∧ package.id ∉ packages.map Package.id ∧ next = packages ++ [package] := by
  have hbody := under_eq_ok h
  obtain ⟨package, hread, hbody⟩ := bind_eq_ok hbody
  obtain ⟨_, hnew, hbody⟩ := bind_eq_ok hbody
  cases hbody
  refine ⟨package, hread, ?_, rfl⟩
  have hfresh := require_eq_ok hnew
  simp only [Bool.not_eq_true', List.any_eq_false, beq_iff_eq] at hfresh
  intro hmem
  obtain ⟨p, hp, hid⟩ := List.mem_map.mp hmem
  exact hfresh p hp hid

theorem addPackage_of_fresh {directory : Path}
    (hread : readPackage P machineId digest directory = .ok package)
    (hfresh : package.id ∉ packages.map Package.id) :
    addPackage P machineId digest packages directory = .ok (packages ++ [package]) := by
  have hcheck : (!packages.any (·.info.id == package.info.id)) = true := by
    simp only [Bool.not_eq_true', List.any_eq_false, beq_iff_eq]
    intro p hp hid
    exact hfresh (List.mem_map.mpr ⟨p, hp, hid⟩)
  unfold addPackage
  rw [ok_bind hread]
  unfold check
  rw [ok_bind (require_true _ hcheck)]
  rfl

variable {directories : List Path}

/-- The packages of the directories, no two of one id. -/
theorem addPackages_eq_ok {found : List Package} (hnodup : (packages.map Package.id).Nodup)
    (h : directories.foldlM (addPackage P machineId digest) packages = .ok found) :
    ∃ new, found = packages ++ new
      ∧ List.Forall₂ (fun d p => readPackage P machineId digest d = .ok p) directories new
      ∧ (found.map Package.id).Nodup := by
  induction directories generalizing packages with
  | nil =>
    cases h
    exact ⟨[], by simp, .nil, hnodup⟩
  | cons directory directories ih =>
    obtain ⟨middle, hstep, h⟩ := bind_eq_ok h
    obtain ⟨package, hread, hfresh, rfl⟩ := addPackage_eq_ok P hstep
    have hmiddle : ((packages ++ [package]).map Package.id).Nodup := by
      rw [List.map_append, List.map_singleton, List.nodup_append_comm, List.singleton_append,
        List.nodup_cons]
      exact ⟨hfresh, hnodup⟩
    obtain ⟨new, rfl, hnew, hids⟩ := ih hmiddle h
    exact ⟨package :: new, by simp, .cons hread hnew, hids⟩

theorem addPackages_of_nodup {new : List Package}
    (h : List.Forall₂ (fun d p => readPackage P machineId digest d = .ok p) directories new)
    (hnodup : ((packages ++ new).map Package.id).Nodup) :
    directories.foldlM (addPackage P machineId digest) packages = .ok (packages ++ new) := by
  induction h generalizing packages with
  | nil =>
    rw [List.append_nil]
    rfl
  | @cons directory package directories new hread _ ih =>
    have hsplit : packages ++ package :: new = (packages ++ [package]) ++ new := by simp
    have hfresh : package.id ∉ packages.map Package.id := by
      rw [hsplit, List.map_append, List.map_append] at hnodup
      have hfirst := (List.nodup_append.mp hnodup).1
      intro hmem
      exact (List.nodup_append.mp hfirst).2.2 _ hmem _ (by simp) rfl
    rw [List.foldlM_cons, ok_bind (addPackage_of_fresh P hread hfresh), hsplit]
    exact ih (by rw [← hsplit]; exact hnodup)

/-- The order compares a priority and then an id. -/
def Package.rank (p : Package) : Lex (ℕ × List ℕ) :=
  toLex (p.info.priority.toNat, p.info.id.map BitVec.toNat)

theorem ahead_iff (a b : Package) : ahead a b = true ↔ a.rank ≤ b.rank := by
  unfold ahead Package.rank
  rw [Prod.Lex.toLex_le_toLex]
  simp only [Bool.or_eq_true, Bool.and_eq_true, decide_eq_true_eq, beq_iff_eq, BitVec.toNat_inj]

theorem id_eq_of_rank {a b : Package} (h : a.rank = b.rank) : a.id = b.id := by
  have hid : a.info.id.map BitVec.toNat = b.info.id.map BitVec.toNat :=
    congrArg (fun r => (ofLex r).2) h
  exact List.map_injective_iff.mpr (fun _ _ => BitVec.eq_of_toNat_eq) hid

/-- Packages with different ids stand in one order, whatever order they came in. -/
theorem mergeSort_eq {packages' : List Package} (hperm : packages.Perm packages')
    (hnodup : (packages.map Package.id).Nodup) :
    packages.mergeSort ahead = packages'.mergeSort ahead := by
  have htrans : ∀ a b c : Package, ahead a b = true → ahead b c = true → ahead a c = true := by
    intro a b c hab hbc
    rw [ahead_iff] at hab hbc ⊢
    exact hab.trans hbc
  have htotal : ∀ a b : Package, (ahead a b || ahead b a) = true := by
    intro a b
    rw [Bool.or_eq_true, ahead_iff, ahead_iff]
    exact le_total _ _
  refine List.Perm.eq_of_pairwise (fun a b ha hb hab hba => ?_)
    (List.pairwise_mergeSort htrans htotal packages)
    (List.pairwise_mergeSort htrans htotal packages')
    ((List.mergeSort_perm _ _).trans (hperm.trans (List.mergeSort_perm _ _).symm))
  rw [ahead_iff] at hab hba
  have ha' : a ∈ packages := List.mem_mergeSort.mp ha
  have hb' : b ∈ packages := hperm.mem_iff.mpr (List.mem_mergeSort.mp hb)
  exact List.inj_on_of_nodup_map hnodup ha' hb' (id_eq_of_rank (le_antisymm hab hba))

variable {directories' : List Path}

theorem checkRequest_perm (h : directories.Perm directories') :
    checkRequest P directories' rom machineId = checkRequest P directories rom machineId := by
  unfold checkRequest
  rw [h.length_eq]

/-- A stack that is read is read the same in any order of its directories. -/
theorem readStack_perm (h : readStack P directories rom machineId = .ok packages)
    (hperm : directories.Perm directories') :
    readStack P directories' rom machineId = .ok packages := by
  unfold readStack at h ⊢
  obtain ⟨digest, hdigest, h⟩ := bind_eq_ok h
  obtain ⟨found, hfound, h⟩ := bind_eq_ok h
  cases h
  obtain ⟨new, hnew, hread, hnodup⟩ := addPackages_eq_ok P (by simp) hfound
  subst hnew
  obtain ⟨other, hother, hpermuted⟩ := List.perm_comp_forall₂ hperm.symm hread
  have hotherIds : (([] ++ other).map Package.id).Nodup := by
    exact (hpermuted.map Package.id).nodup_iff.mpr hnodup
  rw [checkRequest_perm P hperm, ok_bind hdigest,
    ok_bind (addPackages_of_nodup P hother hotherIds), List.nil_append,
    mergeSort_eq hpermuted.symm hnodup]
  rfl

/-! ## Loads -/

theorem loadModDirectories_eq_some
    (h : (loadModDirectories P directories rom machineId).prepared = some prepared) :
    ∃ packages, readStack P directories rom machineId = .ok packages
      ∧ prepareStack P rom machineId packages = .ok prepared := by
  unfold loadModDirectories at h
  split at h
  · rename_i found hfound
    obtain ⟨packages, hread, hprepare⟩ := bind_eq_ok hfound
    cases h
    exact ⟨packages, hread, hprepare⟩
  · cases h

theorem loadModDirectories_of_ok (hread : readStack P directories rom machineId = .ok packages)
    (hprepare : prepareStack P rom machineId packages = .ok prepared) :
    loadModDirectories P directories rom machineId = ⟨some prepared, []⟩ := by
  unfold loadModDirectories
  rw [ok_bind hread, hprepare]

theorem load_perm (h : (loadModDirectories P directories rom machineId).prepared = some prepared)
    (hperm : directories.Perm directories') :
    (loadModDirectories P directories' rom machineId).prepared = some prepared := by
  obtain ⟨packages, hread, hprepare⟩ := loadModDirectories_eq_some P h
  rw [loadModDirectories_of_ok P (readStack_perm P hread hperm) hprepare]

theorem load_refused (h : (loadModDirectories P directories rom machineId).error ≠ []) :
    (loadModDirectories P directories rom machineId).prepared = none := by
  unfold loadModDirectories at h ⊢
  split at h
  · exact absurd rfl h
  · rfl

theorem load_written
    (h : (loadModDirectories P directories rom machineId).prepared = some prepared) :
    ∃ patches, patchesOf P directories rom machineId = .ok patches
      ∧ Written machineId rom patches (prepared.host.patches, prepared.rom) := by
  obtain ⟨packages, hread, hprepare⟩ := loadModDirectories_eq_some P h
  obtain ⟨patches, hpatches, hwritten⟩ := prepareStack_written P hprepare
  refine ⟨patches, ?_, hwritten⟩
  unfold patchesOf
  rw [ok_bind hread]
  exact hpatches

theorem prepares_of_refused (h : (loadModDirectories P directories rom machineId).prepared = none) :
    Prepares P directories rom machineId := by
  refine ⟨?_, ?_, fun _ => h⟩
  · intro prepared hload
    rw [h] at hload
    cases hload
  · intro prepared directories' hload
    rw [h] at hload
    cases hload

theorem prepares_iff_of_load
    (h : (loadModDirectories P directories rom machineId).prepared = some prepared) :
    Prepares P directories rom machineId
      ↔ ∃ patches, patchesOf P directories rom machineId = .ok patches
          ∧ WindowsApart patches := by
  obtain ⟨patches, hpatches, hwritten⟩ := load_written P h
  have hiff := hwritten.composes_iff
  constructor
  · intro hprepares
    obtain ⟨patches', hpatches', hcomposes⟩ := hprepares.patched prepared h
    refine ⟨patches', hpatches', ?_⟩
    rw [hpatches] at hpatches'
    cases hpatches'
    exact hiff.mp hcomposes
  · rintro ⟨patches', hpatches', hwindows⟩
    rw [hpatches] at hpatches'
    cases hpatches'
    refine ⟨?_, ?_, fun herror => load_refused P herror⟩
    · intro other hother
      rw [h] at hother
      cases hother
      exact ⟨patches, hpatches, hiff.mpr hwindows⟩
    · intro other directories' hother hperm
      exact ⟨other, load_perm P hother hperm, rfl, rfl⟩

/-- Every Game Boy stack is prepared without damage or not at all. -/
theorem gameBoy_prepares (directories : List Path) (rom : List Byte) :
    Prepares P directories rom "gameboy" := by
  cases h : (loadModDirectories P directories rom "gameboy").prepared with
  | none => exact prepares_of_refused P h
  | some prepared =>
    obtain ⟨patches, hpatches, hwritten⟩ := load_written P h
    exact (prepares_iff_of_load P h).mpr ⟨patches, hpatches, gameBoy_windowsApart hwritten⟩

/-- A stack that loads is prepared without damage just when no two of its patches reach one byte
of the ROM through different windows of a bank; a stack that does not load leaves nothing. -/
theorem prepares_iff_windowsApart (directories : List Path) (rom : List Byte)
    (machineId : String) :
    (∀ prepared, (loadModDirectories P directories rom machineId).prepared = some prepared →
      (Prepares P directories rom machineId
        ↔ ∃ patches, patchesOf P directories rom machineId = .ok patches
            ∧ WindowsApart patches))
      ∧ ((loadModDirectories P directories rom machineId).prepared = none →
        Prepares P directories rom machineId) :=
  ⟨fun _ h => prepares_iff_of_load P h, prepares_of_refused P⟩

/-! ## Two windows of one bank -/

/-- Three bytes and their SHA-256. -/
def abcRom : List Byte := [0x61, 0x62, 0x63]

def abcHash : String := "ba7816bf8f01cfea414140de5dae2223b00361a396177a9cb410ff61f20015ad"

def abcDigest : List Byte :=
  [0xBA, 0x78, 0x16, 0xBF, 0x8F, 0x01, 0xCF, 0xEA, 0x41, 0x41, 0x40, 0xDE, 0x5D, 0xAE, 0x22, 0x23,
    0xB0, 0x03, 0x61, 0xA3, 0x96, 0x17, 0x7A, 0x9C, 0xB4, 0x10, 0xFF, 0x61, 0xF2, 0x00, 0x15, 0xAD]

/-- One byte of the first bank, named by its guest address. -/
def bytePatch (address : ℕ) (expected replacement : String) : Json :=
  .obj [("address", .int address), ("bank", .int 0), ("expected", .str expected),
    ("replacement", .str replacement)]

def abcManifest (patches : List Json) : Json :=
  .obj [("id", .str "demo"), ("patches", .arr patches), ("romSha256", .str abcHash),
    ("schemaVersion", .int 1), ("target", .str "gamegear"), ("version", .str "1")]

def manifestBytes (manifest : Json) : Text := manifest.dump.map UInt8.toBitVec

/-- One directory with this manifest. -/
def onePackage (manifest : Json) : Platform where
  canonical path := .ok path
  isRegularFile path := path == [rootPart, text "mod", text "manifest.json"]
  fileSize _ := .ok (manifestBytes manifest).length
  stream _ := some (manifestBytes manifest, false)
  parse bytes :=
    if bytes = manifestBytes manifest then .ok manifest else .error (text "parse error")
  sha256 bytes := if bytes = abcRom then some abcDigest else none

def modDirectory : Path := [rootPart, text "mod"]

/-- The second patch names the byte the first one wrote, through the next window. -/
def aliasing : Platform :=
  onePackage (abcManifest [bytePatch 0 "61" "64", bytePatch 0x4000 "64" "65"])

/-- Two windows of the bank, two bytes. -/
def neighbouring : Platform :=
  onePackage (abcManifest [bytePatch 0 "61" "64", bytePatch 0x4001 "62" "65"])

theorem prepares_neighbouring : Prepares neighbouring [modDirectory] abcRom "gamegear" := by
  have hloads : (loadModDirectories neighbouring [modDirectory] abcRom "gamegear").prepared.isSome
      = true := by decide +kernel
  obtain ⟨prepared, hprepared⟩ := Option.isSome_iff_exists.mp hloads
  have hpatches : (patchesOf neighbouring [modDirectory] abcRom "gamegear").toOption
      = some [⟨⟨0, 0⟩, [0x61], [0x64]⟩, ⟨⟨0, 0x4001⟩, [0x62], [0x65]⟩] := by decide +kernel
  refine ((prepares_iff_windowsApart neighbouring [modDirectory] abcRom "gamegear").1 prepared
    hprepared).mpr ?_
  cases hread : patchesOf neighbouring [modDirectory] abcRom "gamegear" with
  | error e =>
    rw [hread] at hpatches
    cases hpatches
  | ok patches =>
    rw [hread] at hpatches
    cases hpatches
    refine ⟨_, rfl, List.pairwise_pair.mpr fun _ _ => overlay_apart_of_le (Or.inl ?_)⟩
    decide

theorem not_prepares_aliasing : ¬ Prepares aliasing [modDirectory] abcRom "gamegear" := by
  intro h
  have hloads : (loadModDirectories aliasing [modDirectory] abcRom "gamegear").prepared.isSome
      = true := by decide +kernel
  obtain ⟨prepared, hprepared⟩ := Option.isSome_iff_exists.mp hloads
  have hpatches : (patchesOf aliasing [modDirectory] abcRom "gamegear").toOption
      = some [⟨⟨0, 0⟩, [0x61], [0x64]⟩, ⟨⟨0, 0x4000⟩, [0x64], [0x65]⟩] := by decide +kernel
  obtain ⟨patches, hread, hcomposes⟩ := h.patched prepared hprepared
  rw [hread] at hpatches
  cases hpatches
  -- the second patch expects the byte the first one wrote, not the byte of the ROM
  have horiginal := hcomposes.original (Patch.overlay ⟨⟨0, 0x4000⟩, [0x64], [0x65]⟩) (by simp) 0
    (by decide)
  exact absurd horiginal (by decide)

end ProtoTime.Modding
