import Mathlib.Data.List.Induction
import ProtoTime.InstCycle.MachineBlock

/-!
Laws of bound blocks. The derived metadata of a binding is that of its block, apart
from the live mapping, whichever way the binding was made; a binding whose scalar
guards are valid has one code guard, which the pointer and the search both find.
-/
namespace ProtoTime.IR.Plugin

open Results

/-! ### The scan of the guards -/

/-- A guard that leaves the scan valid is the first of its kind. -/
structure Noted (guard : Guard) (scan scan' : GuardScan) (kind : GuardKind) : Prop where
  valid : scan.scalarValid = true
  known : guard.kind = .known kind
  fresh : scan.seen kind = false
  seen : scan'.seen = Function.update scan.seen kind true
  code : kind = .codeBytes → scan'.codeGuard = some guard ∧ codeRangeFits guard = true
  other : kind ≠ .codeBytes → scan'.codeGuard = scan.codeGuard

theorem noteGuard_noted {mappingGeneration : BitVec 64} {scan : GuardScan} {guard : Guard}
    (h : (noteGuard mappingGeneration scan guard).scalarValid = true) :
    ∃ kind, Noted guard scan (noteGuard mappingGeneration scan guard) kind := by
  unfold noteGuard at h ⊢
  cases hkind : guard.kind with
  | unknown code => simp [hkind] at h
  | known kind =>
    refine ⟨kind, ?_⟩
    by_cases hseen : scan.seen kind = true
    · simp [hkind, hseen] at h
    · cases kind with
      | mappingGeneration =>
        simp only [hkind, hseen, Bool.false_eq_true, if_false, Bool.and_eq_true] at h ⊢
        exact ⟨h.1, hkind, by simpa using hseen, rfl, nofun, fun _ => rfl⟩
      | helperAbi =>
        simp only [hkind, hseen, Bool.false_eq_true, if_false] at h ⊢
        exact ⟨h, hkind, by simpa using hseen, rfl, nofun, fun _ => rfl⟩
      | executionState =>
        simp only [hkind, hseen, Bool.false_eq_true, if_false] at h ⊢
        exact ⟨h, hkind, by simpa using hseen, rfl, nofun, fun _ => rfl⟩
      | codeBytes =>
        simp only [hkind, hseen, Bool.false_eq_true, if_false, Bool.and_eq_true] at h ⊢
        exact ⟨h.1, hkind, by simpa using hseen, rfl, fun _ => ⟨rfl, h.2⟩, fun hne => absurd rfl hne⟩

def isCodeGuard (guard : Guard) : Bool := guard.kind == .known .codeBytes

/-- What a valid scan knows about the guards it has passed. -/
structure Scanned (done : List Guard) (scan : GuardScan) : Prop where
  code : done.filter isCodeGuard = scan.codeGuard.toList
  seen : scan.seen .codeBytes = scan.codeGuard.isSome
  fits : ∀ guard, scan.codeGuard = some guard → codeRangeFits guard = true
  known : ∀ guard ∈ done, ∃ kind, guard.kind = .known kind ∧ scan.seen kind = true
  distinct : done.Pairwise fun guard guard' => guard.kind ≠ guard'.kind

theorem Scanned.noted {done : List Guard} {scan scan' : GuardScan} {guard : Guard}
    {kind : GuardKind} (h : Scanned done scan) (hnoted : Noted guard scan scan' kind) :
    Scanned (done ++ [guard]) scan' := by
  have hknown : ∀ old ∈ done, old.kind ≠ guard.kind := by
    intro old hold heq
    obtain ⟨oldKind, holdKind, hseen⟩ := h.known old hold
    rw [hnoted.known, holdKind] at heq
    cases heq
    rw [hnoted.fresh] at hseen
    cases hseen
  have hkept : ∀ old ∈ done, ∃ oldKind, old.kind = .known oldKind ∧ scan'.seen oldKind = true := by
    intro old hold
    obtain ⟨oldKind, holdKind, hseen⟩ := h.known old hold
    refine ⟨oldKind, holdKind, ?_⟩
    rw [hnoted.seen, Function.update_apply, hseen, ite_self]
  have hmembers : ∀ g ∈ done ++ [guard], ∃ k, g.kind = .known k ∧ scan'.seen k = true := by
    intro g hg
    rcases List.mem_append.mp hg with hold | hnew
    · exact hkept g hold
    · rw [List.mem_singleton] at hnew
      subst hnew
      exact ⟨kind, hnoted.known, by rw [hnoted.seen, Function.update_self]⟩
  have hdistinct : (done ++ [guard]).Pairwise fun g g' => g.kind ≠ g'.kind := by
    rw [List.pairwise_append]
    refine ⟨h.distinct, List.pairwise_singleton _ _, ?_⟩
    intro g hg g' hg'
    rw [List.mem_singleton] at hg'
    exact hg' ▸ hknown g hg
  by_cases hcode : kind = .codeBytes
  · obtain ⟨hguard, hfits⟩ := hnoted.code hcode
    subst hcode
    have hnone : scan.codeGuard = none := by
      rw [← Option.isNone_iff_eq_none, ← Option.not_isSome, ← h.seen, hnoted.fresh]
      rfl
    refine ⟨?_, ?_, ?_, hmembers, hdistinct⟩
    · simp [List.filter_append, h.code, hnone, hguard, isCodeGuard, hnoted.known]
    · rw [hnoted.seen, hguard, Function.update_self, Option.isSome_some]
    · intro g hg
      rw [hguard] at hg
      cases hg
      exact hfits
  · have hguard := hnoted.other hcode
    refine ⟨?_, ?_, ?_, hmembers, hdistinct⟩
    · simp [List.filter_append, h.code, hguard, isCodeGuard, hnoted.known, hcode]
    · rw [hnoted.seen, hguard, Function.update_of_ne (Ne.symm hcode), h.seen]
    · intro g hg
      rw [hguard] at hg
      exact h.fits g hg

theorem scanned_foldl (mappingGeneration : BitVec 64) (guards : List Guard)
    (h : (guards.foldl (noteGuard mappingGeneration) {}).scalarValid = true) :
    Scanned guards (guards.foldl (noteGuard mappingGeneration) {}) := by
  induction guards using List.reverseRecOn with
  | nil => exact ⟨rfl, rfl, nofun, nofun, .nil⟩
  | append_singleton guards guard ih =>
    rw [List.foldl_append, List.foldl_cons, List.foldl_nil] at h ⊢
    obtain ⟨kind, hnoted⟩ := noteGuard_noted h
    exact (ih hnoted.valid).noted hnoted

variable {block : Block}

theorem guardMetadata_code (h : (guardMetadata block).scalarValid = true) :
    ∃ guard, (guardMetadata block).codeGuard = some guard ∧
      block.guards.filter isCodeGuard = [guard] ∧ codeRangeFits guard = true := by
  simp only [guardMetadata, GuardScan.complete, Bool.and_eq_true] at h
  obtain ⟨hvalid, ⟨⟨-, hseen⟩, -⟩, -⟩ := h
  have hscanned := scanned_foldl block.mappingGeneration block.guards hvalid
  rw [scanGuards, hscanned.seen] at hseen
  obtain ⟨guard, hguard⟩ := Option.isSome_iff_exists.mp hseen
  refine ⟨guard, hguard, ?_, hscanned.fits guard hguard⟩
  rw [hscanned.code, hguard, Option.toList_some]

/-! ### Guards moved to another mapping -/

variable (mapping : BitVec 64)

@[simp] theorem Guard.remapped_kind (guard : Guard) :
    (guard.remapped mapping).kind = guard.kind := by
  unfold Guard.remapped
  split <;> rfl

@[simp] theorem Guard.remapped_subject (guard : Guard) :
    (guard.remapped mapping).subject = guard.subject := by
  unfold Guard.remapped
  split <;> rfl

@[simp] theorem Guard.remapped_bytes (guard : Guard) :
    (guard.remapped mapping).bytes = guard.bytes := by
  unfold Guard.remapped
  split <;> rfl

structure Moved (mapping : BitVec 64) (scan scan' : GuardScan) : Prop where
  codeGuard : scan'.codeGuard = scan.codeGuard
  lowRomCode : scan'.lowRomCode = scan.lowRomCode
  helperAbi : scan'.helperAbi = scan.helperAbi
  stateMask : scan'.stateMask = scan.stateMask
  stateExpected : scan'.stateExpected = scan.stateExpected
  seen : scan'.seen = scan.seen
  valid : scan.scalarValid = true → scan'.scalarValid = true
  mapping : scan'.seen .mappingGeneration = true → scan'.mapping = mapping

theorem Moved.noteGuard {mapping mappingGeneration : BitVec 64} {scan scan' : GuardScan}
    (h : Moved mapping scan scan') (guard : Guard) :
    Moved mapping (noteGuard mappingGeneration scan guard)
      (noteGuard mapping scan' (guard.remapped mapping)) := by
  obtain ⟨hcode, hlow, habi, hmask, hexpected, hseen, hvalid, hmapping⟩ := h
  unfold ProtoTime.IR.Plugin.noteGuard
  rw [Guard.remapped_kind]
  cases hkind : guard.kind with
  | unknown code => exact ⟨hcode, hlow, habi, hmask, hexpected, hseen, nofun, hmapping⟩
  | known kind =>
    dsimp only
    by_cases hmet : scan.seen kind = true
    · rw [if_pos hmet, if_pos (hseen ▸ hmet)]
      exact ⟨hcode, hlow, habi, hmask, hexpected, hseen, nofun, hmapping⟩
    · rw [if_neg hmet, if_neg (hseen ▸ hmet)]
      have hupdate : Function.update scan'.seen kind true = Function.update scan.seen kind true := by
        rw [hseen]
      cases kind with
      | mappingGeneration =>
        refine ⟨hcode, hlow, habi, hmask, hexpected, hupdate, ?_, ?_⟩
        · intro h
          simp only [Bool.and_eq_true] at h
          simp [hvalid h.1, Guard.remapped, hkind]
        · simp [Guard.remapped, hkind]
      | helperAbi =>
        refine ⟨hcode, hlow, ?_, hmask, hexpected, hupdate, hvalid, ?_⟩
        · simp [Guard.remapped, hkind]
        · simpa using hmapping
      | executionState =>
        refine ⟨hcode, hlow, habi, ?_, ?_, hupdate, hvalid, ?_⟩
        · simp [Guard.remapped, hkind]
        · simp [Guard.remapped, hkind]
        · simpa using hmapping
      | codeBytes =>
        have hsame : guard.remapped mapping = guard := by simp [Guard.remapped, hkind]
        rw [hsame]
        refine ⟨rfl, rfl, habi, hmask, hexpected, hupdate, ?_, ?_⟩
        · intro h
          simp only [Bool.and_eq_true] at h ⊢
          exact ⟨hvalid h.1, h.2⟩
        · simpa using hmapping

theorem moved_scanGuards (block : Block) :
    Moved mapping (scanGuards block) (scanGuards (block.remapped mapping)) := by
  have hfold : ∀ (guards : List Guard) (scan scan' : GuardScan), Moved mapping scan scan' →
      Moved mapping (guards.foldl (noteGuard block.mappingGeneration) scan)
        ((guards.map (Guard.remapped mapping)).foldl (noteGuard mapping) scan') := by
    intro guards
    induction guards with
    | nil => exact fun _ _ h => h
    | cons guard guards ih => exact fun _ _ h => ih _ _ (h.noteGuard guard)
  exact hfold block.guards {} {} ⟨rfl, rfl, rfl, rfl, rfl, rfl, id, nofun⟩

theorem guardMetadata_remapped (h : (guardMetadata block).scalarValid = true) :
    guardMetadata (block.remapped mapping) = { guardMetadata block with mapping := mapping } := by
  obtain ⟨hcode, hlow, habi, hmask, hexpected, hseen, hvalid, hmapping⟩ :=
    moved_scanGuards mapping block
  simp only [guardMetadata, Bool.and_eq_true] at h
  have hcomplete : (scanGuards (block.remapped mapping)).complete = true := by
    rw [GuardScan.complete, hseen]
    exact h.2
  have hmet : (scanGuards (block.remapped mapping)).seen .mappingGeneration = true := by
    simp only [GuardScan.complete, Bool.and_eq_true] at hcomplete
    exact hcomplete.1.1.1
  simp only [guardMetadata, GuardMetadata.mk.injEq]
  exact ⟨hcode, hlow, by rw [hvalid h.1, hcomplete, h.1, h.2], hmapping hmet, habi, hmask,
    hexpected⟩

/-- Guards of distinct kinds stay well formed when they are moved. -/
theorem validateGuards_remapped {prior guards : List Guard}
    (hdistinct : (prior ++ guards).Pairwise fun guard guard' => guard.kind ≠ guard'.kind)
    (h : validateGuards prior guards = .ok ()) :
    validateGuards (prior.map (Guard.remapped mapping)) (guards.map (Guard.remapped mapping)) =
      .ok () := by
  induction guards generalizing prior with
  | nil => rfl
  | cons guard guards ih =>
    rw [List.map_cons]
    unfold validateGuards at h ⊢
    obtain ⟨_, hknown, h⟩ := bind_eq_ok h
    obtain ⟨_, hbytes, h⟩ := bind_eq_ok h
    obtain ⟨_, hempty, h⟩ := bind_eq_ok h
    obtain ⟨_, hrange, h⟩ := bind_eq_ok h
    obtain ⟨_, -, h⟩ := bind_eq_ok h
    have hnew : guard.remapped mapping ∉ prior.map (Guard.remapped mapping) := by
      intro hmem
      obtain ⟨old, hold, heq⟩ := List.mem_map.mp hmem
      have hkind : old.kind = guard.kind := by
        rw [← Guard.remapped_kind mapping old, heq, Guard.remapped_kind]
      exact (List.pairwise_append.mp hdistinct).2.2 old hold guard List.mem_cons_self hkind
    have hrest : (prior ++ [guard] ++ guards).Pairwise fun g g' => g.kind ≠ g'.kind := by
      simpa using hdistinct
    have hguards := ih hrest h
    rw [List.map_append, List.map_singleton] at hguards
    simp only [guardKindIsKnown, Guard.remapped_kind, Guard.remapped_bytes,
      Guard.remapped_subject] at hknown ⊢
    rw [ok_bind hknown, ok_bind hbytes, ok_bind hempty, ok_bind hrange,
      ok_bind (require_true _ (decide_eq_true hnew)), hguards]

theorem guardMetadata_distinct (h : (guardMetadata block).scalarValid = true) :
    block.guards.Pairwise fun guard guard' => guard.kind ≠ guard'.kind := by
  simp only [guardMetadata, Bool.and_eq_true] at h
  exact (scanned_foldl block.mappingGeneration block.guards h.1).distinct

theorem validate_remapped
    (hmetadata : (guardMetadata block).scalarValid = true) (h : validate block = .ok ()) :
    validate (block.remapped mapping) = .ok () := by
  unfold validate at h ⊢
  obtain ⟨_, hsome, h⟩ := bind_eq_ok h
  obtain ⟨_, hstart, h⟩ := bind_eq_ok h
  obtain ⟨expectedAddress, hinstructions, h⟩ := bind_eq_ok h
  obtain ⟨_, hend, h⟩ := bind_eq_ok h
  have hguards : validateGuards [] (block.guards.map (Guard.remapped mapping)) = .ok () :=
    validateGuards_remapped mapping (by simpa using guardMetadata_distinct hmetadata) h
  simp only [Block.remapped] at hsome hstart hinstructions hend hguards ⊢
  rw [ok_bind hsome, ok_bind hstart, ok_bind hinstructions, ok_bind hend]
  exact hguards

/-! ### Bindings -/

namespace BoundBlock

variable {b b' : BoundBlock}

/-- The metadata of a binding is that of its block, with the live mapping. -/
def Derived (b : BoundBlock) : Prop :=
  b.toGuardMetadata = { guardMetadata b.code.block with mapping := b.mapping }

variable {generation mapping : BitVec 64}

theorem bindMachineBlock_eq_ok {code : CompiledBlock} {adapter : IrCoreAdapter} {owner : Owner}
    (h : bindMachineBlock code adapter owner generation mapping = .ok b) :
    b = { make code owner generation with mapping := mapping, canonical := true } := by
  obtain ⟨_, -, h⟩ := bind_eq_ok h
  obtain ⟨_, -, h⟩ := bind_eq_ok h
  obtain ⟨source, -, h⟩ := bind_eq_ok h
  obtain ⟨_, -, h⟩ := bind_eq_ok h
  obtain ⟨_, -, h⟩ := bind_eq_ok h
  cases h
  rfl

theorem remap_eq_ok {owner : Owner}
    (h : b.remap owner generation mapping = .ok b') : b' = { b with mapping := mapping } := by
  unfold remap at h
  split at h
  · cases h
  · cases h
    rfl

theorem make_eq_ok {architectureId : BitVec 32} (h : validate block = .ok ()) :
    CompiledBlock.make block architectureId = .ok ⟨block, architectureId, h⟩ := by
  unfold CompiledBlock.make
  split
  · rfl
  · rename_i hinvalid
    rw [h] at hinvalid
    cases hinvalid

theorem remapCopied_eq_ok {owner : Owner}
    (h : b.remapCopied owner generation mapping = .ok b') : b'.Derived := by
  unfold remapCopied at h
  split at h
  · cases h
  · obtain ⟨code, -, h⟩ := bind_eq_ok h
    cases h
    rfl

theorem Reachable.derived (h : b.Reachable) : b.Derived := by
  induction h with
  | bind h =>
    rw [bindMachineBlock_eq_ok h]
    rfl
  | remap _ h ih =>
    rw [remap_eq_ok h]
    simp only [Derived] at ih ⊢
    rw [ih]
  | remapCopied _ h _ => exact remapCopied_eq_ok h
  | fault _ ih => exact ih

theorem Derived.scalarValid (h : b.Derived) :
    b.scalarValid = (guardMetadata b.code.block).scalarValid := by
  have heq := congrArg GuardMetadata.scalarValid h
  exact heq

theorem Derived.codeGuard (h : b.Derived) :
    b.codeGuard = (guardMetadata b.code.block).codeGuard := by
  have heq := congrArg GuardMetadata.codeGuard h
  exact heq

theorem Derived.onlyCodeGuard (h : b.Derived) (hvalid : b.scalarValid = true) :
    ∃ guard, b.codeGuard = some guard ∧ b.code.block.guards.filter isCodeGuard = [guard] ∧
      codeRangeFits guard = true := by
  rw [h.codeGuard]
  exact guardMetadata_code (h.scalarValid ▸ hvalid)

theorem scalarGuardsMatch_valid {state helperAbi : BitVec 64}
    (h : b.scalarGuardsMatch mapping state helperAbi = true) : b.scalarValid = true := by
  simp only [scalarGuardsMatch, Bool.and_eq_true] at h
  exact h.1.1.1

variable {guard : Guard} {peek : BitVec 16 → Option (BitVec 8)}

theorem peekMatches_iff :
    peekMatches peek guard = true ↔ ∀ n byte, guard.bytes[n]? = some byte →
      peek ((guard.subject + BitVec.ofNat 64 n).setWidth 16) = some byte := by
  simp only [peekMatches, List.all_eq_true, beq_iff_eq]
  constructor
  · intro h n byte hbyte
    exact h (byte, n) (List.mem_zipIdx_iff_getElem?.mpr hbyte)
  · intro h i hi
    exact h i.2 i.1 (List.mem_zipIdx_iff_getElem?.mp hi)

/-- A view that is there holds the bytes that are read one at a time. -/
def Views (peek : BitVec 16 → Option (BitVec 8)) (view : BitVec 16 → ℕ → List (BitVec 8)) :
    Prop :=
  ∀ address size, 0 < size → address.toNat + size ≤ 0x10000 →
    (view address size).length = size → ∀ n < size,
      peek (address + BitVec.ofNat 16 n) = (view address size)[n]?

theorem viewMatches_eq_peekMatches
    {view : BitVec 16 → ℕ → List (BitVec 8)} (hview : Views peek view)
    (hfits : codeRangeFits guard = true) :
    viewMatches peek view guard = peekMatches peek guard := by
  simp only [codeRangeFits, Bool.and_eq_true, Bool.not_eq_true', List.isEmpty_eq_false_iff,
    decide_eq_true_eq] at hfits
  obtain ⟨⟨hempty, hsubject⟩, hlength⟩ := hfits
  have hpositive : 0 < guard.bytes.length := List.length_pos_iff.mpr hempty
  have hwidth : (guard.subject.setWidth 16).toNat = guard.subject.toNat := by
    exact Nat.mod_eq_of_lt (by bv_omega)
  unfold viewMatches
  dsimp only
  split
  · rename_i hsize
    have hbytes := hview (guard.subject.setWidth 16) guard.bytes.length hpositive
      (by rw [hwidth]; bv_omega) hsize
    have haddress : ∀ n : ℕ, (guard.subject + BitVec.ofNat 64 n).setWidth 16 =
        guard.subject.setWidth 16 + BitVec.ofNat 16 n := by
      intro n
      rw [BitVec.setWidth_add _ _ (by decide), BitVec.setWidth_ofNat_of_le (by decide)]
    rw [Bool.eq_iff_iff, beq_iff_eq, peekMatches_iff]
    constructor
    · intro heq n byte hbyte
      rw [haddress, hbytes n (List.getElem?_eq_some_iff.mp hbyte).1, heq, hbyte]
    · intro h
      apply List.ext_getElem hsize
      intro n hn hn'
      have hpeek := h n _ (List.getElem?_eq_getElem hn')
      rw [haddress, hbytes n hn', List.getElem?_eq_getElem hn] at hpeek
      exact Option.some.inj hpeek
  · rfl

theorem all_of_filter {guards : List Guard}
    (h : guards.filter isCodeGuard = [guard]) (test : Guard → Bool) :
    guards.all (fun g => g.kind != .known .codeBytes || test g) = test guard := by
  have hfilter : guards.all (fun g => g.kind != .known .codeBytes || test g) =
      (guards.filter isCodeGuard).all test := by
    rw [List.all_filter]
    congr 1
  rw [hfilter, h]
  simp

theorem Derived.guardsMatch_eq_guardsMatchView (h : b.Derived)
    {view : BitVec 16 → ℕ → List (BitVec 8)}
    (hview : Views peek view) (mapping state helperAbi : BitVec 64) (checkBytes : Bool) :
    b.guardsMatch mapping state helperAbi peek checkBytes =
      b.guardsMatchView mapping state helperAbi peek view checkBytes := by
  unfold guardsMatch guardsMatchView
  by_cases hscalar : b.scalarGuardsMatch mapping state helperAbi = true
  · obtain ⟨guard, hguard, hfilter, hfits⟩ := h.onlyCodeGuard (scalarGuardsMatch_valid hscalar)
    rw [hguard, all_of_filter hfilter, viewMatches_eq_peekMatches hview hfits]
    rfl
  · simp [hscalar]

theorem Derived.peek_of_guardsMatch (h : b.Derived) {state helperAbi : BitVec 64}
    (hmatch : b.guardsMatch mapping state helperAbi peek = true)
    (hguard : guard ∈ b.code.block.guards) (hkind : guard.kind = .known .codeBytes) {n : ℕ}
    {byte : BitVec 8} (hbyte : guard.bytes[n]? = some byte) :
    peek ((guard.subject + BitVec.ofNat 64 n).setWidth 16) = some byte := by
  unfold guardsMatch at hmatch
  by_cases hscalar : b.scalarGuardsMatch mapping state helperAbi = true
  · obtain ⟨only, honly, hfilter, -⟩ := h.onlyCodeGuard (scalarGuardsMatch_valid hscalar)
    have hmem : guard ∈ b.code.block.guards.filter isCodeGuard :=
      List.mem_filter.mpr ⟨hguard, by simp [isCodeGuard, hkind]⟩
    rw [hfilter, List.mem_singleton] at hmem
    subst hmem
    simp only [hscalar, honly, not_true_eq_false, if_false, Option.all_some] at hmatch
    exact peekMatches_iff.mp hmatch n byte hbyte
  · simp [hscalar] at hmatch

structure SameAnswers (b b' : BoundBlock) : Prop where
  guardsMatch : ∀ mapping state helperAbi peek checkBytes,
    b.guardsMatch mapping state helperAbi peek checkBytes =
      b'.guardsMatch mapping state helperAbi peek checkBytes
  guardsMatchView : ∀ mapping state helperAbi peek view checkBytes,
    b.guardsMatchView mapping state helperAbi peek view checkBytes =
      b'.guardsMatchView mapping state helperAbi peek view checkBytes

/-- Both ways to move a binding refuse it with one message, or answer alike afterwards. -/
inductive SameRemap : Except String BoundBlock → Except String BoundBlock → Prop
  | error (message : String) : SameRemap (.error message) (.error message)
  | ok {b b' : BoundBlock} : SameAnswers b b' → SameRemap (.ok b) (.ok b')

theorem viewMatches_remapped (peek : BitVec 16 → Option (BitVec 8))
    (view : BitVec 16 → ℕ → List (BitVec 8)) (mapping : BitVec 64) (guard : Guard) :
    viewMatches peek view (guard.remapped mapping) = viewMatches peek view guard := by
  simp [viewMatches, peekMatches]

theorem Derived.remap_remapCopied (h : b.Derived) (owner : Owner) (generation mapping : BitVec 64) :
    SameRemap (b.remap owner generation mapping) (b.remapCopied owner generation mapping) := by
  unfold remap remapCopied
  by_cases hreusable : b.reusable owner generation = true
  · rw [if_neg (not_not.mpr hreusable), if_neg (not_not.mpr hreusable)]
    simp only [reusable, Bool.and_eq_true] at hreusable
    have hvalid : (guardMetadata b.code.block).scalarValid = true :=
      h.scalarValid ▸ hreusable.1.1.2
    have hcopy := validate_remapped mapping hvalid b.code.valid
    rw [ok_bind (make_eq_ok hcopy)]
    have hmetadata : guardMetadata (b.code.block.remapped mapping) =
        { b.toGuardMetadata with mapping := mapping } := by
      rw [guardMetadata_remapped mapping hvalid, h]
    have hguards : (b.code.block.remapped mapping).guards =
        b.code.block.guards.map (Guard.remapped mapping) := rfl
    refine .ok ⟨?_, ?_⟩
    · intro mapping' state helperAbi peek checkBytes
      simp [guardsMatch, scalarGuardsMatch, make, hmetadata]
    · intro mapping' state helperAbi peek view checkBytes
      simp [guardsMatchView, scalarGuardsMatch, make, hmetadata, hguards, List.all_map,
        Function.comp_def, viewMatches_remapped]
  · rw [if_pos hreusable, if_pos hreusable]
    exact .error _

end BoundBlock

end ProtoTime.IR.Plugin
