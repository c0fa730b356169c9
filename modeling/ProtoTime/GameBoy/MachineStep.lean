import ProtoTime.InstCycle.BlockCacheLaws
import ProtoTime.GameBoy.Accesses
import ProtoTime.GameBoy.BoardFrame
import ProtoTime.GameBoy.Machine

/-!
One step of the machine's processor, whichever of its paths takes it: accesses to
the board, one retirement of a positive number of cycles, and changes of the
block cache that the rest of the board does not see.
-/
namespace ProtoTime.GameBoy

open IR IRExecution ThreadedBlockCache

namespace Board

def withBlockCache (b : Board) (cache : ThreadedBlockCache) : Board := { b with blockCache := cache }

section Fields

variable (b : Board)

theorem write_blockCache (address : Addr) (value : Byte) :
    (b.write address value).blockCache =
      (b.invalidateBlockCacheForWrite (resolveEchoAddress address)).blockCache := by
  unfold write observeWrite invalidateBlockCacheForWrite
  dsimp only
  split_ifs <;> rfl

theorem invalidateBlockCacheForWrite_invalidated (address : Addr) :
    Invalidated b.blockCache (b.invalidateBlockCacheForWrite address).blockCache := by
  unfold invalidateBlockCacheForWrite
  dsimp only
  split_ifs
  · exact invalidateAll_invalidated _
  · exact invalidateRange_invalidated _ _ _
  · exact .refl _

theorem write_invalidated (address : Addr) (value : Byte) :
    Invalidated b.blockCache (b.write address value).blockCache := by
  rw [write_blockCache]
  exact b.invalidateBlockCacheForWrite_invalidated _

end Fields

end Board

/-- The lowered form of a block, where it has one, came out of `lower`. -/
def IsLowered (entry : TranslatedBlockEntry) : Prop :=
  ∀ block, entry.intermediateRepresentation = some block → ∃ request, lower request = some block

def Board.HoldsLowered (b : Board) : Prop := b.blockCache.AllBlocks IsLowered

theorem isLowered_withValid {entry : TranslatedBlockEntry} (h : IsLowered entry) :
    IsLowered { entry with valid := false } := h

theorem holdsLowered_kept : Accessed.Kept Board.HoldsLowered where
  write b address value h := .invalidated (fun _ => isLowered_withValid)
    (b.write_invalidated address value) h
  beginStep _ _ h := h
  endStep _ h := h
  setInterruptFlags _ _ h := h

theorem lowerInstruction_cycles_pos {instruction : TranslatedInstruction}
    {lowered : GuestInstruction} (h : lowerInstruction instruction = some lowered) :
    0 < lowered.cyclesNotTaken ∧ 0 < lowered.cyclesTaken := by
  have hcycles (n : ℕ) (operations : List Operation) (controlFlow : Bool) (hn : 0 < n) :
      0 < (guestInstruction instruction n operations controlFlow).cyclesNotTaken ∧
        0 < (guestInstruction instruction n operations controlFlow).cyclesTaken := ⟨hn, hn⟩
  unfold lowerInstruction at h
  dsimp only at h
  split_ifs at h <;> cases h <;> apply hcycles <;> decide

theorem lowerPrefix_lowered {instructions : List TranslatedInstruction}
    {p : TranslatedInstruction × GuestInstruction} (h : p ∈ lowerPrefix instructions) :
    lowerInstruction p.1 = some p.2 := by
  induction instructions with
  | nil => cases h
  | cons instruction instructions ih =>
    unfold lowerPrefix at h
    cases hl : lowerInstruction instruction with
    | none => simp [hl] at h
    | some lowered =>
      simp only [hl] at h
      split at h
      · rw [List.mem_singleton] at h
        rw [h]
        exact hl
      · rcases List.mem_cons.mp h with rfl | hmem
        · exact hl
        · exact ih hmem

theorem lower_cycles_pos {request : LoweringRequest} {block : Block}
    (h : lower request = some block) :
    ∀ i ∈ block.instructions, 0 < i.cyclesNotTaken ∧ 0 < i.cyclesTaken := by
  unfold lower at h
  cases hp : lowerPrefix request.instructions with
  | nil => simp [hp] at h
  | cons first rest =>
    simp only [hp, Option.some.injEq] at h
    intro i hi
    rw [← h] at hi
    obtain ⟨p, hmem, rfl⟩ := List.mem_map.mp hi
    exact lowerInstruction_cycles_pos (lowerPrefix_lowered (hp ▸ hmem))

variable {allowed : Bool} {c : Core Board}

namespace Core

section Fetch

variable {σ : Type} [CpuBus σ] (c : Core σ)

theorem serviceInterruptIfPending_settled :
    Settled c.bus c.serviceInterruptIfPending.1.bus := by
  unfold serviceInterruptIfPending
  split_ifs
  · exact .refl
  · exact enterInterrupt_settled { c with haltFlag := false }
  · exact .refl

theorem fetchInto_settled : Settled c.bus c.fetchInto.1.bus := by
  unfold fetchInto
  dsimp only
  split_ifs <;> first
    | exact .refl
    | exact serviceInterruptIfPending_settled { c with haltFlag := false, haltBugActive := true }
    | exact serviceInterruptIfPending_settled c

/-- The fetch delivered nothing because the processor is held, or because it entered an
interrupt. -/
structure Idle (c : Core σ) (f : FetchBlock) : Prop where
  empty : f.data = []
  reason : c.pendingCycleCharge ≠ 0 ∨ c.haltFlag ∨ c.stopFlag ∨ c.illegalOpcodeLockup ∨
    CpuBus.dmaActive c.bus

/-- The fetch delivered one whole instruction. -/
def Fetched (f : FetchBlock) : Prop :=
  ∃ opcode rest family, f.data = opcode :: rest ∧ opcodeTable opcode = some family ∧
    (opcode :: rest).length = family.length

theorem fetchBytes_fetched (haltBug : Bool) : ∃ opcode rest family,
    c.fetchBytes haltBug = opcode :: rest ∧ opcodeTable opcode = some family ∧
      (opcode :: rest).length = family.length := by
  obtain ⟨family, hf⟩ := Option.isSome_iff_exists.mp (opcodeTable_isSome (c.read8 c.pc))
  refine ⟨_, _, family, rfl, hf, ?_⟩
  have hpos := family.length_pos
  simp only [hf, List.length_cons, List.length_map, List.length_range]
  omega

theorem serviceInterruptIfPending_charge (h : c.serviceInterruptIfPending.2 = true) :
    c.serviceInterruptIfPending.1.pendingCycleCharge ≠ 0 := by
  unfold serviceInterruptIfPending at h ⊢
  split_ifs at h ⊢
  exact Nat.succ_ne_zero 19

theorem fetchInto_cases : Idle c.fetchInto.1 c.fetchInto.2 ∨ Fetched c.fetchInto.2 := by
  unfold fetchInto
  dsimp only
  split_ifs with hstop hdma hhalt hbug hserviced hserviced
  · refine .inl ⟨rfl, ?_⟩
    rcases hstop with h | h
    · exact .inr (.inr (.inl h))
    · exact .inr (.inr (.inr (.inl h)))
  · have hactive : CpuBus.dmaActive c.bus = true := by
      exact (Bool.and_eq_true_iff.mp hdma).1
    exact .inl ⟨rfl, .inr (.inr (.inr (.inr hactive)))⟩
  · exact .inl ⟨rfl, .inr (.inl hhalt.1)⟩
  · exact .inl ⟨rfl, .inl (serviceInterruptIfPending_charge _ hserviced)⟩
  · exact .inr (fetchBytes_fetched _ _)
  · exact .inl ⟨rfl, .inl (serviceInterruptIfPending_charge _ hserviced)⟩
  · exact .inr (fetchBytes_fetched _ _)

end Fetch

variable {f : FetchBlock}

theorem decodeInto_nil {σ : Type} [CpuBus σ] (h : f.data = []) :
    decodeInto (σ := σ) f = .ok ({}, f) := by
  obtain ⟨base, data⟩ := f
  subst h
  rfl

theorem execute_idle_retiredFrom (h : Idle c f) :
    RetiredFrom c.bus (c.execute {} f) := by
  obtain ⟨base, data⟩ := f
  obtain ⟨rfl, hreason⟩ := h
  unfold execute
  refine retireInstruction_retiredFrom _ (.endStep .refl) ?_
  dsimp only
  split_ifs with hpending hheld
  · exact Nat.pos_of_ne_zero hpending
  · decide
  all_goals exact absurd (hreason.resolve_left hpending) fun hr => hheld ⟨rfl, hr⟩

variable {c' : Core Board}

theorem execute_fetched_retiredFrom (h : Fetched f)
    (hs : c.stepFetched allowed f = .ok c') : RetiredFrom c.bus c' := by
  obtain ⟨base, data⟩ := f
  obtain ⟨opcode, rest, family, rfl, hf, hlen⟩ := h
  have hcanonical (hd : c.decodeAndExecute ⟨base, opcode :: rest⟩ = .ok c') :
      RetiredFrom c.bus c' := by
    unfold decodeAndExecute at hd
    rw [decodeInto_single base hf hlen] at hd
    cases hd
    exact c.execute_retiredFrom family base opcode rest
  unfold stepFetched at hs
  split at hs
  · split at hs
    · cases hs
      exact c.tryFastExecuteBytes_retiredFrom ‹_›
    · exact hcanonical hs
  · exact hcanonical hs

theorem stepFetched_retiredFrom
    (hs : c.fetchInto.1.stepFetched allowed c.fetchInto.2 = .ok c') : RetiredFrom c.bus c' := by
  refine RetiredFrom.of_settled c.fetchInto_settled ?_
  rcases c.fetchInto_cases with hidle | hfetched
  · have hd : c.fetchInto.1.decodeAndExecute c.fetchInto.2 =
        .ok (c.fetchInto.1.execute {} c.fetchInto.2) := by
      unfold decodeAndExecute
      rw [decodeInto_nil hidle.empty]
    have hexec : c' = c.fetchInto.1.execute {} c.fetchInto.2 := by
      unfold stepFetched at hs
      rw [hidle.empty] at hs
      rw [hd] at hs
      split at hs <;> cases hs <;> rfl
    rw [hexec]
    exact execute_idle_retiredFrom hidle
  · exact execute_fetched_retiredFrom hfetched hs

theorem recordedBlock_isLowered (c : Core Board) (portableIrEnabled : Bool) (f : FetchBlock) :
    IsLowered (c.recordedBlock portableIrEnabled f) := by
  intro block hblock
  simp only [recordedBlock] at hblock
  split at hblock
  · exact ⟨_, hblock⟩
  · cases hblock

structure CacheChanged (c c' : Core Board) : Prop where
  core : ∃ cache, c' = { c with bus := c.bus.withBlockCache cache }
  lowered : c.bus.HoldsLowered → c'.bus.HoldsLowered

theorem CacheChanged.refl (c : Core Board) : CacheChanged c c := ⟨⟨c.bus.blockCache, rfl⟩, id⟩

variable {c'' : Core Board}

theorem CacheChanged.trans (h : CacheChanged c c')
    (h' : CacheChanged c' c'') : CacheChanged c c'' := by
  obtain ⟨⟨cache, rfl⟩, hl⟩ := h
  obtain ⟨⟨cache', rfl⟩, hl'⟩ := h'
  exact ⟨⟨cache', rfl⟩, fun hc => hl' (hl hc)⟩

theorem invalidate_cacheChanged (c : Core Board) (address : Addr) :
    CacheChanged c (c.withBlockCache (·.invalidate address)) :=
  ⟨⟨_, rfl⟩, fun h => .invalidated (fun _ => isLowered_withValid) (invalidate_invalidated _ _) h⟩

theorem populateBlockCache_cacheChanged (c : Core Board) (portableIrEnabled : Bool)
    (f : FetchBlock) : CacheChanged c (c.populateBlockCache portableIrEnabled f) := by
  unfold populateBlockCache
  split
  · exact .refl c
  · exact ⟨⟨_, rfl⟩, fun h => .insert (fun _ _ h => h) (c.recordedBlock_isLowered _ f) h⟩

/-- One instruction of the machine's core: cache changes, accesses, the retirement of a positive
number of cycles, cache changes. -/
structure Retired (c c' : Core Board) : Prop where
  positive : 0 < c'.feedback.retiredCycles
  effect : ∃ cache b cache', Settled (c.bus.withBlockCache cache) b ∧
    c'.bus = (CpuBus.retire c'.feedback.retiredCycles b).withBlockCache cache'
  lowered : c'.bus.HoldsLowered

theorem RetiredFrom.retired (h : RetiredFrom c.bus c')
    (hl : c.bus.HoldsLowered) : Retired c c' := by
  obtain ⟨hpos, b, hb, hbus⟩ := h
  refine ⟨hpos, ⟨c.bus.blockCache, b, b.blockCache, hb, hbus⟩, ?_⟩
  rw [hbus]
  change b.HoldsLowered
  exact hb.accessed.invariant holdsLowered_kept hl

theorem Retired.of_cacheChanged (h : CacheChanged c c') (h' : Retired c' c'') : Retired c c'' := by
  obtain ⟨⟨cache, rfl⟩, -⟩ := h
  obtain ⟨hpos, ⟨cache', b, cache'', hb, hbus⟩, hl⟩ := h'
  exact ⟨hpos, ⟨cache', b, cache'', hb, hbus⟩, hl⟩

theorem Retired.cacheChanged (h : Retired c c') (h' : CacheChanged c' c'') : Retired c c'' := by
  obtain ⟨hpos, ⟨cache', b, cache'', hb, hbus⟩, hl⟩ := h
  have hlow := h'.lowered hl
  obtain ⟨⟨cache, rfl⟩, -⟩ := h'
  refine ⟨hpos, ⟨cache', b, cache, hb, ?_⟩, hlow⟩
  rw [hbus]
  rfl

end Core

namespace LR3592

open Core

variable {p p' : LR3592}

/-- The outcome of an attempt to use the cache: an instruction, or a changed cache. -/
def Attempted (p : LR3592) : LR3592 × Bool → Prop
  | (p', true) => Retired p.core p'.core
  | (p', false) => CacheChanged p.core p'.core

theorem executeRecorded_attempted (p : LR3592) (hl : p.core.bus.HoldsLowered) (l : BlockLookup) :
    Attempted p (p.withCore (p.core.executeRecorded l).1, (p.core.executeRecorded l).2) := by
  unfold executeRecorded
  dsimp only
  cases hf : p.core.tryFastExecuteBytes
      (l.entry.instructions.getD l.slot.instructionIndex ⟨0, []⟩).bytes with
  | none => exact invalidate_cacheChanged p.core p.core.pc
  | some c =>
    generalize (l.entry.instructions.getD l.slot.instructionIndex ⟨0, []⟩).bytes = data at hf
    cases data with
    | nil => cases hf
    | cons opcode rest => exact (p.core.tryFastExecuteBytes_retiredFrom hf).retired hl

variable {address : Addr}

theorem lookup_mem {c : ThreadedBlockCache} {l : BlockLookup}
    (h : c.lookup address = some l) : c.blocks[l.slot.block]? = some l.entry := by
  unfold ThreadedBlockCache.lookup at h
  split at h
  · cases h
  · split at h
    · cases h
    · split at h <;> cases h
      assumption

theorem lookup_isLowered (hl : c.bus.HoldsLowered)
    {l : BlockLookup} (h : c.bus.blockCache.lookup address = some l) : IsLowered l.entry :=
  hl _ (List.mem_of_getElem? (lookup_mem h))

variable {result : LR3592 × Bool}

theorem Attempted.of_cacheChanged
    (h : CacheChanged p.core p'.core) (h' : Attempted p' result) : Attempted p result := by
  obtain ⟨p'', executed⟩ := result
  cases executed with
  | true => exact Retired.of_cacheChanged h h'
  | false => exact h.trans h'

section

variable (hl : p.core.bus.HoldsLowered)
include hl

theorem stepFetching_retired (h : p.stepFetching allowed = .ok p') : Retired p.core p'.core := by
  unfold stepFetching at h
  dsimp only at h
  split at h
  · cases h
  · rename_i c hc
    have hret := (stepFetched_retiredFrom hc).retired hl
    split at h
    · cases h
      exact hret.cacheChanged (c.populateBlockCache_cacheChanged _ _)
    · cases h
      exact hret

theorem tryExecutePortableIr_attempted {block : Block} (hb : ∃ request, lower request = some block)
    {index : ℕ} {core : Core Board} {executed : Bool}
    (h : p.core.tryExecutePortableIr block address index = .ok (core, executed)) :
    Attempted p (p.withCore core, executed) := by
  obtain ⟨request, hrequest⟩ := hb
  unfold tryExecutePortableIr at h
  split at h
  · cases h
    exact invalidate_cacheChanged p.core address
  · split at h <;> cases h
    · exact .refl p.core
    · exact (executePortableIrInstruction_retiredFrom (lower_cycles_pos hrequest) ‹_›).retired hl

theorem tryExecuteTranslatedBlock_attempted (h : p.tryExecuteTranslatedBlock = .ok result) :
    Attempted p result := by
  unfold tryExecuteTranslatedBlock at h
  split at h
  · cases h
    exact .refl p.core
  · split at h
    · cases h
      exact .refl p.core
    · rename_i l hlookup
      split at h
      · cases h
        exact p.executeRecorded_attempted hl l
      · rename_i block hblock
        split at h
        · cases h
          exact p.executeRecorded_attempted hl l
        · split at h
          · cases h
          · cases h
            exact tryExecutePortableIr_attempted hl (lookup_isLowered hl hlookup block hblock) ‹_›
          · rename_i core hcore
            have hchanged : CacheChanged p.core core :=
              tryExecutePortableIr_attempted hl (lookup_isLowered hl hlookup block hblock) hcore
            split at h
            · cases h
              exact hchanged
            · cases h
              have hattempted : CacheChanged p.core (p.withCore core).core := hchanged
              refine Attempted.of_cacheChanged hattempted ?_
              exact executeRecorded_attempted (p.withCore core) (hchanged.lowered hl) l

theorem step_retired (h : p.step allowed = .ok p') : Retired p.core p'.core := by
  unfold step at h
  split at h
  · split at h
    · cases h
    · cases h
      exact tryExecuteTranslatedBlock_attempted hl ‹_›
    · rename_i p₁ hp₁
      have hchanged : CacheChanged p.core p₁.core := tryExecuteTranslatedBlock_attempted hl hp₁
      exact Retired.of_cacheChanged hchanged (stepFetching_retired (hchanged.lowered hl) h)
  · exact stepFetching_retired hl h

theorem executeSession_attempted {session : PortableIrBlockSession} {block : Block}
    (hb : ∃ request, lower request = some block) (h : p.executeSession session block = .ok result) :
    Attempted p result := by
  obtain ⟨request, hrequest⟩ := hb
  unfold executeSession at h
  split at h <;> cases h
  · exact .refl p.core
  · exact (executePortableIrInstruction_retiredFrom (lower_cycles_pos hrequest) ‹_›).retired hl

theorem tryExecutePortableIrBlockInstruction_attempted
    (h : p.tryExecutePortableIrBlockInstruction = .ok result) : Attempted p result := by
  unfold tryExecutePortableIrBlockInstruction at h
  split at h
  · cases h
    exact .refl p.core
  · split at h
    · unfold enterBlock at h
      split at h
      · cases h
        exact .refl p.core
      · rename_i l hlookup
        split at h
        · cases h
          exact .refl p.core
        · rename_i block hblock
          split at h
          · cases h
            exact .refl p.core
          · split at h
            · cases h
              exact .refl p.core
            · exact executeSession_attempted hl (lookup_isLowered hl hlookup block hblock) h
          · cases h
            exact invalidate_cacheChanged p.core p.core.pc
    · rename_i session hsession
      split at h
      · cases h
        exact .refl p.core
      · rename_i block hblock
        refine executeSession_attempted hl ?_ h
        unfold continuedBlock at hblock
        split at hblock
        · cases hblock
        · rename_i entry hentry
          split at hblock
          · cases hblock
          · split at hblock <;> cases hblock
            exact hl entry (List.mem_of_getElem? hentry) _ ‹_›

end

end LR3592

namespace GameBoyMachine

open Core LR3592

variable {m m' : GameBoyMachine}

theorem contextStep_retired (hl : m.board.HoldsLowered)
    (h : m.contextStep = .ok m') : ∃ cpu, m' = m.withCpu cpu ∧ Retired m.cpu.core cpu.core := by
  unfold contextStep at h
  split at h
  · cases h
  · cases hs : m.cpu.step m.allowFastPath with
    | error message => simp [hs, Except.map] at h
    | ok cpu =>
      simp only [hs, Except.map, Except.ok.injEq] at h
      exact ⟨cpu, h.symm, step_retired hl hs⟩

theorem stepWithinExecutionSlice_retired (hl : m.board.HoldsLowered)
    (h : m.stepWithinExecutionSlice = .ok m') :
    ∃ cpu, m' = m.withCpu cpu ∧ Retired m.cpu.core cpu.core := by
  unfold stepWithinExecutionSlice at h
  split at h
  · split at h
    · cases h
    · rename_i cpu hcpu
      cases h
      have hret : Retired m.cpu.core cpu.core :=
        tryExecutePortableIrBlockInstruction_attempted hl hcpu
      exact ⟨cpu, rfl, hret⟩
    · rename_i cpu hcpu
      have hchanged : CacheChanged m.cpu.core cpu.core :=
        tryExecutePortableIrBlockInstruction_attempted hl hcpu
      obtain ⟨cpu', rfl, hret⟩ := contextStep_retired (m := m.withCpu cpu) (hchanged.lowered hl) h
      exact ⟨cpu', rfl, .of_cacheChanged hchanged hret⟩
  · exact contextStep_retired hl h

theorem retireStep_retired {exit : Option ExecutionSliceExitReason}
    (hl : m.board.HoldsLowered) (h : m.retireStep = .ok (m', exit)) :
    ∃ cpu, Retired m.cpu.core cpu.core ∧
      (m', exit) = (m.withCpu cpu).onInstructionRetired cpu.core.feedback := by
  unfold retireStep at h
  cases hs : m.stepWithinExecutionSlice with
  | error message => simp [hs, Except.map] at h
  | ok m₁ =>
    simp only [hs, Except.map, Except.ok.injEq] at h
    obtain ⟨cpu, rfl, hret⟩ := stepWithinExecutionSlice_retired hl hs
    exact ⟨cpu, hret, h.symm⟩

end GameBoyMachine

end ProtoTime.GameBoy
