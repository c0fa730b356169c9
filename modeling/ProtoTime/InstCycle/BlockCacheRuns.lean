import Mathlib.Data.List.Induction
import Mathlib.Logic.Function.Basic
import ProtoTime.InstCycle.BlockCacheLaws

/-!
Runs of calls on the block cache. In every state reached each occupied slot names
an instruction of a stored block, and the page counters count at least the valid
blocks. The counters follow a block around the end of the address space; the scan
of `invalidateRange` compares plain intervals, so that it is exact for the blocks
that do not wrap around.
-/
namespace ProtoTime

variable {entry : TranslatedBlockEntry}

namespace TranslatedBlockEntry

/-- The addresses of a block; one that ends below its start goes on at address zero. -/
def Covers (entry : TranslatedBlockEntry) (address : BitVec 16) : Prop :=
  if entry.start ≤ entry.last then entry.start ≤ address ∧ address ≤ entry.last
  else entry.start ≤ address ∨ address ≤ entry.last

def Meets (entry : TranslatedBlockEntry) (rangeStart rangeEnd : BitVec 16) : Prop :=
  ∃ address, rangeStart ≤ address ∧ address ≤ rangeEnd ∧ entry.Covers address

instance (entry : TranslatedBlockEntry) (address : BitVec 16) :
    Decidable (entry.Covers address) := by
  unfold Covers
  infer_instance

/-- What the scan of `invalidateRange` makes of a block. -/
def scanned (rangeStart rangeEnd : BitVec 16) (entry : TranslatedBlockEntry) :
    TranslatedBlockEntry :=
  if entry.valid ∧ entry.start ≤ rangeEnd ∧ rangeStart ≤ entry.last then
    { entry with valid := false }
  else entry

theorem scanned_scanned (rangeStart rangeEnd : BitVec 16) (entry : TranslatedBlockEntry) :
    scanned rangeStart rangeEnd (scanned rangeStart rangeEnd entry) =
      scanned rangeStart rangeEnd entry := by
  by_cases h : entry.valid ∧ entry.start ≤ rangeEnd ∧ rangeStart ≤ entry.last
  · simp [scanned, h]
  · simp only [scanned, if_neg h]

theorem meets_iff (hentry : entry.start ≤ entry.last)
    {rangeStart rangeEnd : BitVec 16} (hrange : rangeStart ≤ rangeEnd) :
    entry.Meets rangeStart rangeEnd ↔ entry.start ≤ rangeEnd ∧ rangeStart ≤ entry.last := by
  simp only [Meets, Covers, if_pos hentry]
  constructor
  · rintro ⟨address, hs, he, hfrom, hto⟩
    exact ⟨BitVec.le_trans hfrom he, BitVec.le_trans hs hto⟩
  · intro ⟨hstart, hlast⟩
    by_cases h : rangeStart ≤ entry.start
    · exact ⟨entry.start, h, hstart, BitVec.le_refl _, hentry⟩
    · exact ⟨rangeStart, BitVec.le_refl _, hrange, by bv_omega, hlast⟩

theorem coversPage_of_covers (hentry : entry.start ≤ entry.last)
    {address : BitVec 16} (h : entry.Covers address) :
    ThreadedBlockCache.coversPage entry (address.toNat / 256) = true := by
  simp only [Covers, if_pos hentry] at h
  have hfrom : entry.start.toNat / 256 ≤ address.toNat / 256 := Nat.div_le_div_right h.1
  have hto : address.toNat / 256 ≤ entry.last.toNat / 256 := Nat.div_le_div_right h.2
  simp [ThreadedBlockCache.coversPage, hfrom, hto, Nat.le_trans hfrom hto]

end TranslatedBlockEntry

namespace ThreadedBlockCache

variable {c : ThreadedBlockCache}

/-! ### Slots -/

/-- After a run of assignments a key holds what it held, or the value of one assigned to it. -/
theorem foldl_update_cases {ι α β : Type*} [DecidableEq α] (key : ι → α) (value : ι → β)
    (assigned : List ι) (m : α → β) (a : α) :
    (assigned.foldl (fun m i => Function.update m (key i) (value i)) m a = m a ∧
      ∀ i ∈ assigned, key i ≠ a) ∨
    ∃ i ∈ assigned, key i = a ∧
      assigned.foldl (fun m i => Function.update m (key i) (value i)) m a = value i := by
  induction assigned generalizing m with
  | nil => simp
  | cons first rest ih =>
    rw [List.foldl_cons]
    rcases ih (Function.update m (key first) (value first)) with
      ⟨hkept, hrest⟩ | ⟨i, hi, hkey, hvalue⟩
    · by_cases h : key first = a
      · right
        refine ⟨first, List.mem_cons_self, h, ?_⟩
        rw [hkept, ← h, Function.update_self]
      · left
        constructor
        · rw [hkept, Function.update_of_ne (Ne.symm h)]
        · intro i hi
          rcases List.mem_cons.mp hi with rfl | hi
          · exact h
          · exact hrest i hi
    · exact .inr ⟨i, List.mem_cons_of_mem _ hi, hkey, hvalue⟩

theorem fillSlots_cases (block : ℕ) (instructions : List TranslatedInstruction)
    (slots : BitVec 16 → Option BlockSlot) (address : BitVec 16) :
    (fillSlots block instructions slots address = slots address ∧
      ∀ i ∈ instructions, i.address ≠ address) ∨
    ∃ index i, instructions[index]? = some i ∧ i.address = address ∧
      fillSlots block instructions slots address = some ⟨block, index⟩ := by
  rcases foldl_update_cases (fun i : TranslatedInstruction × ℕ => i.1.address)
      (fun i => some (BlockSlot.mk block i.2)) instructions.zipIdx slots address with
    ⟨hkept, hnone⟩ | ⟨i, hi, haddress, hfilled⟩
  · left
    refine ⟨hkept, ?_⟩
    intro i hi
    obtain ⟨index, hindex⟩ := List.getElem?_of_mem hi
    exact hnone (i, index) (List.mem_zipIdx_iff_getElem?.mpr hindex)
  · exact .inr ⟨i.2, i.1, List.mem_zipIdx_iff_getElem?.mp hi, haddress, hfilled⟩

variable {address : BitVec 16} {slot : BlockSlot}

theorem slots_of_invalidateBlock {block : ℕ}
    (h : (c.invalidateBlock block).slots address = some slot) : c.slots address = some slot := by
  unfold invalidateBlock at h
  split at h
  · exact h
  · dsimp only [releaseSlots] at h
    split at h
    · cases h
    · rename_i heq
      split at h
      · cases h
      · cases h
        exact heq

theorem invalidateBlock_slots_of_ne {block : ℕ}
    (h : c.slots address = some slot) (hne : slot.block ≠ block) :
    (c.invalidateBlock block).slots address = some slot := by
  unfold invalidateBlock
  split
  · exact h
  · simp [releaseSlots, h, hne]

/-! ### Consistency -/

/-- Occupied slots name instructions of stored blocks, and every page counts at least
the valid blocks that touch it, but never more blocks than are stored. -/
structure Consistent (c : ThreadedBlockCache) : Prop where
  slots : ∀ address slot, c.slots address = some slot →
    ∃ entry i, c.blocks[slot.block]? = some entry ∧
      entry.instructions[slot.instructionIndex]? = some i ∧ i.address = address
  pages : ∀ page,
    c.blocks.countP (fun entry => entry.valid && coversPage entry page) ≤
      c.activeBlocksByPage page
  counted : ∀ page, c.activeBlocksByPage page ≤ c.blocks.length

theorem consistent_empty : empty.Consistent :=
  ⟨nofun, fun _ => Nat.le_refl 0, fun _ => Nat.le_refl 0⟩

theorem consistent_clearEntries (c : ThreadedBlockCache) : c.clearEntries.Consistent :=
  ⟨nofun, fun _ => Nat.le_refl 0, fun _ => Nat.le_refl 0⟩

theorem consistent_clear (c : ThreadedBlockCache) : c.clear.Consistent :=
  ⟨nofun, fun _ => Nat.le_refl 0, fun _ => Nat.le_refl 0⟩

section

variable (h : c.Consistent)

include h

/-- A block that survives keeps its instructions, so that slots to it stay good. -/
theorem Consistent.slots_of_invalidated {c' : ThreadedBlockCache} (hinvalidated : Invalidated c c')
    (hslots : ∀ address slot, c'.slots address = some slot → c.slots address = some slot) :
    ∀ address slot, c'.slots address = some slot →
      ∃ entry i, c'.blocks[slot.block]? = some entry ∧
        entry.instructions[slot.instructionIndex]? = some i ∧ i.address = address := by
  intro address slot hslot
  obtain ⟨entry, i, hentry, hi, haddress⟩ := h.slots address slot (hslots address slot hslot)
  have hlt : slot.block < c'.blocks.length := by
    rw [hinvalidated.length]
    exact (List.getElem?_eq_some_iff.mp hentry).1
  obtain ⟨old, hold, hsurvives⟩ :=
    hinvalidated.blocks slot.block _ (List.getElem?_eq_getElem hlt)
  rw [hentry] at hold
  cases hold
  refine ⟨_, i, List.getElem?_eq_getElem hlt, ?_, haddress⟩
  rcases hsurvives with hsame | hdropped
  · rw [hsame]
    exact hi
  · rw [hdropped]
    exact hi

theorem Consistent.invalidateBlock {block : ℕ}
    (hentry : c.blocks[block]? = some entry) (hvalid : entry.valid = true) :
    (c.invalidateBlock block).Consistent := by
  obtain ⟨hlt, hget⟩ := List.getElem?_eq_some_iff.mp hentry
  refine ⟨h.slots_of_invalidated (c.invalidateBlock_invalidated block)
    fun _ _ => slots_of_invalidateBlock, ?_, ?_⟩
  · intro page
    have hpages := h.pages page
    simp only [ThreadedBlockCache.invalidateBlock, hentry, adjustActivePages,
      List.countP_set hlt, hget, hvalid, Bool.true_and, Bool.false_and]
    split <;> simp <;> omega
  · intro page
    have hcounted := h.counted page
    simp only [ThreadedBlockCache.invalidateBlock, hentry, adjustActivePages, List.length_set]
    split
    · omega
    · exact hcounted

theorem Consistent.invalidateIfOverlaps (rangeStart rangeEnd : BitVec 16) (block : ℕ) :
    (ThreadedBlockCache.invalidateIfOverlaps rangeStart rangeEnd c block).Consistent := by
  unfold ThreadedBlockCache.invalidateIfOverlaps
  split
  · exact h
  · rename_i entry hentry
    split
    · rename_i hoverlaps
      exact h.invalidateBlock hentry hoverlaps.1
    · exact h

theorem Consistent.scan (rangeStart rangeEnd : BitVec 16) (blocks : List ℕ) :
    (blocks.foldl (ThreadedBlockCache.invalidateIfOverlaps rangeStart rangeEnd) c).Consistent := by
  induction blocks generalizing c with
  | nil => exact h
  | cons block blocks ih => exact ih (h.invalidateIfOverlaps rangeStart rangeEnd block)

theorem Consistent.invalidateRange (rangeStart rangeEnd : BitVec 16) :
    (c.invalidateRange rangeStart rangeEnd).Consistent := by
  unfold ThreadedBlockCache.invalidateRange
  split
  · exact h
  · exact h.scan rangeStart rangeEnd _

theorem Consistent.invalidate (address : BitVec 16) :
    (c.invalidate address).Consistent := by
  unfold ThreadedBlockCache.invalidate
  split
  · exact h
  · split
    · exact h
    · rename_i entry hentry
      split
      · rename_i hvalid
        exact h.invalidateBlock hentry hvalid
      · exact h

theorem Consistent.invalidateAll : c.invalidateAll.Consistent := by
  unfold ThreadedBlockCache.invalidateAll
  dsimp only
  split
  · exact ⟨h.slots, h.pages, h.counted⟩
  · refine ⟨nofun, ?_, fun _ => Nat.zero_le _⟩
    intro page
    simp [List.countP_map, Function.comp_def]

theorem Consistent.insert (entry : TranslatedBlockEntry) (maxBlocks : ℕ) :
    (c.insert entry maxBlocks).Consistent := by
  unfold ThreadedBlockCache.insert
  split
  · exact h
  · have hbase : (if c.blocks.length ≥ maxBlocks then c.clearEntries else c).Consistent := by
      split
      · exact c.consistent_clearEntries
      · exact h
    generalize (if c.blocks.length ≥ maxBlocks then c.clearEntries else c) = base at hbase ⊢
    refine ⟨?_, ?_, ?_⟩
    · intro address slot hslot
      dsimp only at hslot ⊢
      rcases fillSlots_cases base.blocks.length entry.instructions base.slots address with
        ⟨hkept, -⟩ | ⟨index, i, hi, haddress, hfilled⟩
      · rw [hkept] at hslot
        obtain ⟨old, i, hold, hi, haddress⟩ := hbase.slots address slot hslot
        refine ⟨old, i, ?_, hi, haddress⟩
        rw [List.getElem?_append_left (List.getElem?_eq_some_iff.mp hold).1]
        exact hold
      · rw [hfilled] at hslot
        cases hslot
        exact ⟨_, i, List.getElem?_concat_length, hi, haddress⟩
    · intro page
      have hpages := hbase.pages page
      simp only [adjustActivePages, List.countP_append, List.countP_singleton]
      have hpage : coversPage { entry with mappingGeneration := base.mappingGeneration } page =
        coversPage entry page := rfl
      rw [hpage]
      cases coversPage entry page <;> cases entry.valid <;> simp <;> omega
    · intro page
      have hcounted := hbase.counted page
      simp only [adjustActivePages, List.length_append, List.length_singleton]
      split <;> omega

/-! ### The scan -/

end

theorem blocks_invalidateIfOverlaps (rangeStart rangeEnd : BitVec 16) (c : ThreadedBlockCache)
    (block i : ℕ) :
    (invalidateIfOverlaps rangeStart rangeEnd c block).blocks[i]? =
      if i = block then c.blocks[i]?.map (.scanned rangeStart rangeEnd) else c.blocks[i]? := by
  unfold invalidateIfOverlaps invalidateBlock
  cases hentry : c.blocks[block]? with
  | none =>
    by_cases h : i = block
    · simp [h, hentry]
    · simp [h]
  | some entry =>
    have hlt := (List.getElem?_eq_some_iff.mp hentry).1
    by_cases hoverlaps : entry.valid ∧ entry.start ≤ rangeEnd ∧ rangeStart ≤ entry.last
    · simp only [if_pos hoverlaps, List.getElem?_set]
      by_cases h : i = block
      · subst h
        rw [hentry, Option.map_some, TranslatedBlockEntry.scanned, if_pos hoverlaps]
        simp [hlt]
      · simp [h, Ne.symm h]
    · simp only [if_neg hoverlaps]
      by_cases h : i = block
      · subst h
        simp only [hentry, Option.map_some, TranslatedBlockEntry.scanned, if_neg hoverlaps, if_true]
      · simp [h]

theorem blocks_scan (rangeStart rangeEnd : BitVec 16) (blocks : List ℕ) (c : ThreadedBlockCache)
    (i : ℕ) :
    (blocks.foldl (invalidateIfOverlaps rangeStart rangeEnd) c).blocks[i]? =
      if i ∈ blocks then c.blocks[i]?.map (.scanned rangeStart rangeEnd) else c.blocks[i]? := by
  induction blocks generalizing c with
  | nil => simp
  | cons block blocks ih =>
    rw [List.foldl_cons, ih, blocks_invalidateIfOverlaps]
    by_cases h : i = block
    · subst h
      by_cases hrest : i ∈ blocks
      · simp [hrest, Function.comp_def, TranslatedBlockEntry.scanned_scanned]
      · simp [hrest]
    · simp [h]

variable {rangeEnd rangeStart : BitVec 16}

/-- A slot to a block that the scan leaves alone is kept. -/
theorem slots_scan (hscanned : entry.scanned rangeStart rangeEnd = entry)
    (blocks : List ℕ) (hslot : c.slots address = some slot)
    (hentry : c.blocks[slot.block]? = some entry) :
    (blocks.foldl (invalidateIfOverlaps rangeStart rangeEnd) c).slots address = some slot := by
  induction blocks generalizing c with
  | nil => exact hslot
  | cons block blocks ih =>
    apply ih
    · by_cases h : slot.block = block
      · subst h
        unfold invalidateIfOverlaps
        simp only [hentry]
        split
        · rename_i hoverlaps
          simp only [TranslatedBlockEntry.scanned, if_pos hoverlaps] at hscanned
          have hvalid := congrArg TranslatedBlockEntry.valid hscanned
          rw [hoverlaps.1] at hvalid
          cases hvalid
        · exact hslot
      · unfold invalidateIfOverlaps
        split
        · exact hslot
        · split
          · exact invalidateBlock_slots_of_ne hslot h
          · exact hslot
    · rw [blocks_invalidateIfOverlaps, hentry, Option.map_some, hscanned, ite_self]

theorem Consistent.rangeHasActivePage (h : c.Consistent)
    (hentry : entry ∈ c.blocks) (hvalid : entry.valid = true)
    (hforward : entry.start ≤ entry.last) (hmeets : entry.Meets rangeStart rangeEnd) :
    c.rangeHasActivePage rangeStart.toNat rangeEnd.toNat = true := by
  obtain ⟨address, hs, he, hcovers⟩ := hmeets
  have hpage := TranslatedBlockEntry.coversPage_of_covers hforward hcovers
  have hfirst : rangeStart.toNat / 256 ≤ address.toNat / 256 := Nat.div_le_div_right hs
  have hlast : address.toNat / 256 ≤ rangeEnd.toNat / 256 := Nat.div_le_div_right he
  have hpositive : 0 < c.activeBlocksByPage (address.toNat / 256) := by
    refine Nat.lt_of_lt_of_le ?_ (h.pages _)
    rw [List.countP_pos_iff]
    exact ⟨entry, hentry, by simp [hvalid, hpage]⟩
  unfold ThreadedBlockCache.rangeHasActivePage
  rw [List.any_eq_true]
  refine ⟨address.toNat / 256 - rangeStart.toNat / 256, by rw [List.mem_range]; omega, ?_⟩
  rw [Nat.add_sub_cancel' hfirst]
  simpa using Nat.pos_iff_ne_zero.mp hpositive

/-- The valid blocks do not wrap around the end of the address space. -/
def Forward (entry : TranslatedBlockEntry) : Prop :=
  entry.valid = true → entry.start ≤ entry.last

/-- Whether the range is scanned or skipped, every stored block is what the scan makes of it. -/
theorem Consistent.blocks_invalidateRange (h : c.Consistent) (hforward : c.AllBlocks Forward)
    (hrange : rangeStart ≤ rangeEnd) (i : ℕ) :
    (c.invalidateRange rangeStart rangeEnd).blocks[i]? =
      c.blocks[i]?.map (.scanned rangeStart rangeEnd) := by
  unfold ThreadedBlockCache.invalidateRange
  split
  · rename_i hskipped
    cases hentry : c.blocks[i]? with
    | none => rfl
    | some entry =>
      have hmem := List.mem_of_getElem? hentry
      have hleft : ¬(entry.valid ∧ entry.start ≤ rangeEnd ∧ rangeStart ≤ entry.last) := by
        rintro ⟨hvalid, hoverlaps⟩
        have hstart := hforward entry hmem hvalid
        exact hskipped (h.rangeHasActivePage hmem hvalid hstart
          ((TranslatedBlockEntry.meets_iff hstart hrange).mpr hoverlaps))
      rw [Option.map_some, TranslatedBlockEntry.scanned, if_neg hleft]
  · rw [blocks_scan]
    by_cases hlt : i < c.blocks.length
    · rw [if_pos (List.mem_range.mpr hlt)]
    · rw [List.getElem?_eq_none (Nat.le_of_not_lt hlt), Option.map_none, ite_self]

/-! ### Runs -/

inductive CacheCall where
  | lookup (address : BitVec 16)
  | insert (entry : TranslatedBlockEntry)
  | invalidate (address : BitVec 16)
  | invalidateRange (rangeStart rangeEnd : BitVec 16)
  | invalidateAll
  | clear

/-- One call on a cache of the given capacity; a lookup only counts its hits and misses. -/
def perform (maxBlocks : ℕ) (c : ThreadedBlockCache) : CacheCall → ThreadedBlockCache
  | .lookup _ => c
  | .insert entry => c.insert entry maxBlocks
  | .invalidate address => c.invalidate address
  | .invalidateRange rangeStart rangeEnd => c.invalidateRange rangeStart rangeEnd
  | .invalidateAll => c.invalidateAll
  | .clear => c.clear

/-- A new cache after some calls; the constructor raises a capacity of zero to one. -/
def run (maxBlocks : ℕ) (calls : List CacheCall) : ThreadedBlockCache :=
  calls.foldl (perform (max maxBlocks 1)) empty

theorem run_append (maxBlocks : ℕ) (calls : List CacheCall) (call : CacheCall) :
    run maxBlocks (calls ++ [call]) = perform (max maxBlocks 1) (run maxBlocks calls) call := by
  simp [run]

theorem Consistent.perform (h : c.Consistent) (maxBlocks : ℕ) (call : CacheCall) :
    (c.perform maxBlocks call).Consistent := by
  cases call with
  | lookup address => exact h
  | insert entry => exact h.insert entry maxBlocks
  | invalidate address => exact h.invalidate address
  | invalidateRange rangeStart rangeEnd => exact h.invalidateRange rangeStart rangeEnd
  | invalidateAll => exact h.invalidateAll
  | clear => exact c.consistent_clear

theorem consistent_run (maxBlocks : ℕ) (calls : List CacheCall) :
    (run maxBlocks calls).Consistent := by
  induction calls using List.reverseRecOn with
  | nil => exact consistent_empty
  | append_singleton calls call ih =>
    rw [run_append]
    exact ih.perform _ call

theorem AllBlocks.perform {Q : TranslatedBlockEntry → Prop}
    (hvalid : ∀ e, Q e → Q { e with valid := false })
    (hgeneration : ∀ e generation, Q e → Q { e with mappingGeneration := generation })
    (h : c.AllBlocks Q) (maxBlocks : ℕ) (call : CacheCall)
    (hcall : ∀ entry, call = .insert entry → entry.instructions ≠ [] → Q entry) :
    (c.perform maxBlocks call).AllBlocks Q := by
  cases call with
  | lookup address => exact h
  | insert entry =>
    by_cases hempty : entry.instructions = []
    · simpa [ThreadedBlockCache.perform, ThreadedBlockCache.insert, hempty] using h
    · exact .insert hgeneration (hcall entry rfl hempty) h
  | invalidate address => exact .invalidated hvalid (c.invalidate_invalidated address) h
  | invalidateRange rangeStart rangeEnd =>
    exact .invalidated hvalid (c.invalidateRange_invalidated rangeStart rangeEnd) h
  | invalidateAll => exact .invalidated hvalid c.invalidateAll_invalidated h
  | clear => exact .clearEntries c

/-! ### Lookups after an invalidation -/

theorem lookup_eq_some {found : BlockLookup} : c.lookup address = some found ↔
      c.slots address = some found.slot ∧ c.blocks[found.slot.block]? = some found.entry ∧
        found.entry.valid = true ∧ found.entry.mappingGeneration = c.mappingGeneration := by
  obtain ⟨slot, entry⟩ := found
  unfold lookup
  constructor
  · intro h
    split at h
    · cases h
    · rename_i hslot
      split at h
      · cases h
      · rename_i hentry
        split at h
        · cases h
        · rename_i hlive
          cases h
          simp only [not_or, not_not] at hlive
          exact ⟨hslot, hentry, hlive⟩
  · rintro ⟨hslot, hentry, hvalid, hgeneration⟩
    simp only at hslot hentry hvalid hgeneration
    simp [hslot, hentry, hvalid, hgeneration]

theorem mappingGeneration_invalidateIfOverlaps (rangeStart rangeEnd : BitVec 16)
    (c : ThreadedBlockCache) (block : ℕ) :
    (invalidateIfOverlaps rangeStart rangeEnd c block).mappingGeneration = c.mappingGeneration := by
  unfold invalidateIfOverlaps invalidateBlock
  cases c.blocks[block]? with
  | none => rfl
  | some entry =>
    dsimp only
    split <;> rfl

theorem mappingGeneration_scan (rangeStart rangeEnd : BitVec 16) (blocks : List ℕ)
    (c : ThreadedBlockCache) :
    (blocks.foldl (invalidateIfOverlaps rangeStart rangeEnd) c).mappingGeneration =
      c.mappingGeneration := by
  induction blocks generalizing c with
  | nil => rfl
  | cons block blocks ih =>
    rw [List.foldl_cons, ih, mappingGeneration_invalidateIfOverlaps]

theorem lookup_invalidateRange {found : BlockLookup} (h : c.lookup address = some found)
    (hscanned : found.entry.scanned rangeStart rangeEnd = found.entry) :
    (c.invalidateRange rangeStart rangeEnd).lookup address = some found := by
  unfold invalidateRange
  split
  · exact h
  · obtain ⟨hslot, hentry, hvalid, hgeneration⟩ := lookup_eq_some.mp h
    refine lookup_eq_some.mpr ⟨slots_scan hscanned _ hslot hentry, ?_, hvalid, ?_⟩
    · rw [blocks_scan, hentry, Option.map_some, hscanned, ite_self]
    · rw [mappingGeneration_scan]
      exact hgeneration

theorem lookup_insert {i : TranslatedInstruction}
    (hi : i ∈ entry.instructions) (hvalid : entry.valid = true) (maxBlocks : ℕ) :
    ∃ found, (c.insert entry maxBlocks).lookup i.address = some found ∧
      found.entry.start = entry.start ∧ found.entry.last = entry.last := by
  unfold insert
  rw [if_neg (by simpa using List.ne_nil_of_mem hi)]
  generalize (if c.blocks.length ≥ maxBlocks then c.clearEntries else c) = base
  rcases fillSlots_cases base.blocks.length entry.instructions base.slots i.address with
    ⟨-, hnone⟩ | ⟨index, j, -, -, hfilled⟩
  · exact absurd rfl (hnone i hi)
  · let stored := { entry with mappingGeneration := base.mappingGeneration }
    exact ⟨⟨⟨base.blocks.length, index⟩, stored⟩,
      lookup_eq_some.mpr ⟨hfilled, List.getElem?_concat_length, hvalid, rfl⟩, rfl, rfl⟩

/-! ### Exact invalidation -/

/-- Invalidating a range loses exactly the blocks that meet it, a skipped scan has nothing
to find, and the occupied slots name instructions of stored blocks. -/
structure Exact (c : ThreadedBlockCache) : Prop where
  complete : ∀ rangeStart rangeEnd, rangeStart ≤ rangeEnd → ∀ address found,
    (c.invalidateRange rangeStart rangeEnd).lookup address = some found →
      ¬ found.entry.Meets rangeStart rangeEnd
  keeps : ∀ rangeStart rangeEnd, rangeStart ≤ rangeEnd → ∀ (i : ℕ) entry,
    c.blocks[i]? = some entry → entry.valid = true → ¬ entry.Meets rangeStart rangeEnd →
      (c.invalidateRange rangeStart rangeEnd).blocks[i]? = some entry
  skips : ∀ rangeStart rangeEnd, rangeStart ≤ rangeEnd → ∀ entry ∈ c.blocks,
    entry.valid = true → entry.Meets rangeStart rangeEnd →
      c.rangeHasActivePage rangeStart.toNat rangeEnd.toNat = true
  slots : ∀ address slot, c.slots address = some slot →
    ∃ entry i, c.blocks[slot.block]? = some entry ∧
      entry.instructions[slot.instructionIndex]? = some i ∧ i.address = address

theorem Consistent.exact (h : c.Consistent) (hforward : c.AllBlocks Forward) : c.Exact := by
  refine ⟨?_, ?_, ?_, h.slots⟩
  · intro rangeStart rangeEnd hrange address found hfound hmeets
    obtain ⟨-, hentry, hvalid, -⟩ := lookup_eq_some.mp hfound
    rw [h.blocks_invalidateRange hforward hrange] at hentry
    obtain ⟨old, hold, hscanned⟩ := Option.map_eq_some_iff.mp hentry
    by_cases hoverlaps : old.valid ∧ old.start ≤ rangeEnd ∧ rangeStart ≤ old.last
    · rw [TranslatedBlockEntry.scanned, if_pos hoverlaps] at hscanned
      rw [← hscanned] at hvalid
      cases hvalid
    · rw [TranslatedBlockEntry.scanned, if_neg hoverlaps] at hscanned
      subst hscanned
      have hstart := hforward _ (List.mem_of_getElem? hold) hvalid
      exact hoverlaps ⟨hvalid, (TranslatedBlockEntry.meets_iff hstart hrange).mp hmeets⟩
  · intro rangeStart rangeEnd hrange i entry hentry hvalid hmeets
    have hstart := hforward entry (List.mem_of_getElem? hentry) hvalid
    rw [TranslatedBlockEntry.meets_iff hstart hrange] at hmeets
    rw [h.blocks_invalidateRange hforward hrange, hentry, Option.map_some,
      TranslatedBlockEntry.scanned, if_neg fun hoverlaps => hmeets hoverlaps.2]
  · intro rangeStart rangeEnd _ entry hentry hvalid hmeets
    exact h.rangeHasActivePage hentry hvalid (hforward entry hentry hvalid) hmeets

theorem Exact.forward_of_insert {maxBlocks : ℕ}
    (h : (c.insert entry maxBlocks).Exact) (hinstructions : entry.instructions ≠ [])
    (hvalid : entry.valid = true) : entry.start ≤ entry.last := by
  by_contra hwraps
  obtain ⟨i, hi⟩ := List.exists_mem_of_ne_nil _ hinstructions
  obtain ⟨found, hfound, hstart, hlast⟩ :=
    lookup_insert (c := c) hi hvalid maxBlocks
  have hscanned : found.entry.scanned entry.start entry.start = found.entry := by
    rw [TranslatedBlockEntry.scanned, if_neg]
    rintro ⟨-, -, hle⟩
    rw [hlast] at hle
    exact hwraps hle
  have hkept := lookup_invalidateRange hfound hscanned
  refine h.complete entry.start entry.start (BitVec.le_refl _) i.address found hkept
    ⟨entry.start, BitVec.le_refl _, BitVec.le_refl _, ?_⟩
  rw [TranslatedBlockEntry.Covers, hstart, hlast, if_neg hwraps]
  exact .inl (BitVec.le_refl _)

/-- Invalidation is exact in every state of a run just when no valid block that the run
inserts ends below its start. -/
theorem exact_run_iff (maxBlocks : ℕ) (calls : List CacheCall) :
    (∀ done, done <+: calls → (run maxBlocks done).Exact) ↔
      ∀ entry, CacheCall.insert entry ∈ calls → entry.instructions ≠ [] →
        entry.valid = true → entry.start ≤ entry.last := by
  constructor
  · intro h entry hentry hinstructions hvalid
    obtain ⟨done, rest, rfl⟩ := List.append_of_mem hentry
    have hexact := h (done ++ [.insert entry]) ⟨rest, by simp⟩
    rw [run_append] at hexact
    exact hexact.forward_of_insert hinstructions hvalid
  · intro h done hdone
    refine (consistent_run maxBlocks done).exact ?_
    have hinserted : ∀ entry, CacheCall.insert entry ∈ done → entry.instructions ≠ [] →
        Forward entry := fun entry hentry => h entry (hdone.subset hentry)
    clear h hdone
    induction done using List.reverseRecOn with
    | nil => exact fun _ hentry => absurd hentry List.not_mem_nil
    | append_singleton done call ih =>
      rw [run_append]
      refine AllBlocks.perform (fun _ _ => nofun) (fun _ _ hforward => hforward)
        (ih fun entry hentry => hinserted entry (List.mem_append_left _ hentry)) _ call ?_
      intro entry hcall
      exact hinserted entry (by simp [hcall])

/-- Three bytes of code from 0xFFFE; the last one is the byte at address zero. -/
def wrappingBlock : TranslatedBlockEntry where
  start := 0xFFFE
  last := 0x0000
  instructions := [⟨0xFFFE, [0x01, 0x34, 0x12]⟩]

theorem not_exact_wrappingBlock : ¬ (run kMaxBlocks [.insert wrappingBlock]).Exact := by
  intro h
  have hinsert : (empty.insert wrappingBlock (max kMaxBlocks 1)).Exact := h
  have hstart : wrappingBlock.start ≤ wrappingBlock.last :=
    hinsert.forward_of_insert (List.cons_ne_nil _ _) rfl
  exact absurd hstart (by decide)

end ThreadedBlockCache

end ProtoTime
