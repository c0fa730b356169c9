import ProtoTime.InstCycle.IntermediateRepresentation

/-!
The translated-block cache: one slot for each guest address, the stored blocks,
and a counter of valid blocks for each 256-byte page that lets a write skip the
scan. A slot refers to a block by its position in the list of stored blocks.
-/
namespace ProtoTime

structure TranslatedInstruction where
  address : BitVec 16
  bytes : List (BitVec 8)
  deriving DecidableEq

structure TranslatedBlockEntry where
  start : BitVec 16
  last : BitVec 16
  mappingGeneration : ℕ := 0
  instructions : List TranslatedInstruction
  intermediateRepresentation : Option IR.Block := none
  valid : Bool := true
  deriving DecidableEq

structure BlockSlot where
  block : ℕ
  instructionIndex : ℕ
  deriving DecidableEq

structure ThreadedBlockCache where
  slots : BitVec 16 → Option BlockSlot
  activeBlocksByPage : ℕ → ℕ
  blocks : List TranslatedBlockEntry
  mappingGeneration : ℕ

structure BlockLookup where
  slot : BlockSlot
  entry : TranslatedBlockEntry

namespace ThreadedBlockCache

/-- The capacity of a cache that is built without one. -/
def kMaxBlocks : ℕ := 4096

def kPageCount : ℕ := 256

def empty : ThreadedBlockCache := ⟨fun _ => none, fun _ => 0, [], 0⟩

variable (c : ThreadedBlockCache)

def lookup (address : BitVec 16) : Option BlockLookup :=
  match c.slots address with
  | none => none
  | some slot =>
    match c.blocks[slot.block]? with
    | none => none
    | some entry =>
      if ¬ entry.valid ∨ entry.mappingGeneration ≠ c.mappingGeneration then none
      else some ⟨slot, entry⟩

def clearEntries : ThreadedBlockCache :=
  { c with slots := fun _ => none, activeBlocksByPage := fun _ => 0, blocks := [] }

def clear : ThreadedBlockCache :=
  { c.clearEntries with mappingGeneration := c.mappingGeneration + 1 }

/-- The pages of a block; one that ends below its start wraps around the address space. -/
def coversPage (entry : TranslatedBlockEntry) (page : ℕ) : Bool :=
  let first := entry.start.toNat / 256
  let last := entry.last.toNat / 256
  if first ≤ last then decide (first ≤ page) && decide (page ≤ last)
  else (decide (first ≤ page) && decide (page < kPageCount)) || decide (page ≤ last)

def adjustActivePages (entry : TranslatedBlockEntry) (adjust : ℕ → ℕ) (pages : ℕ → ℕ) : ℕ → ℕ :=
  fun page => if coversPage entry page then adjust (pages page) else pages page

def fillSlots (block : ℕ) (instructions : List TranslatedInstruction)
    (slots : BitVec 16 → Option BlockSlot) : BitVec 16 → Option BlockSlot :=
  instructions.zipIdx.foldl
    (fun slots i => Function.update slots i.1.address (some ⟨block, i.2⟩)) slots

/-- A cache that has reached its capacity forgets every block before it takes one more. -/
def insert (entry : TranslatedBlockEntry) (maxBlocks : ℕ := kMaxBlocks) : ThreadedBlockCache :=
  if entry.instructions.isEmpty then c
  else
    let c := if c.blocks.length ≥ maxBlocks then c.clearEntries else c
    let entry := { entry with mappingGeneration := c.mappingGeneration }
    { c with
      slots := fillSlots c.blocks.length entry.instructions c.slots
      activeBlocksByPage := adjustActivePages entry (· + 1) c.activeBlocksByPage
      blocks := c.blocks ++ [entry] }

/-- A block gives up the slots it still holds. -/
def releaseSlots (block : ℕ) (instructions : List TranslatedInstruction)
    (slots : BitVec 16 → Option BlockSlot) : BitVec 16 → Option BlockSlot :=
  fun address =>
    match slots address with
    | none => none
    | some slot =>
      if slot.block = block ∧ ∃ i ∈ instructions, i.address = address then none else some slot

def invalidateBlock (block : ℕ) : ThreadedBlockCache :=
  match c.blocks[block]? with
  | none => c
  | some entry =>
    { c with
      slots := releaseSlots block entry.instructions c.slots
      activeBlocksByPage := adjustActivePages entry (· - 1) c.activeBlocksByPage
      blocks := c.blocks.set block { entry with valid := false } }

def rangeHasActivePage (first last : ℕ) : Bool :=
  (List.range (last / 256 + 1 - first / 256)).any fun i =>
    c.activeBlocksByPage (first / 256 + i) != 0

/-- One block of the scan. -/
def invalidateIfOverlaps (rangeStart rangeEnd : BitVec 16) (c : ThreadedBlockCache)
    (block : ℕ) : ThreadedBlockCache :=
  match c.blocks[block]? with
  | none => c
  | some entry =>
    if entry.valid ∧ entry.start ≤ rangeEnd ∧ rangeStart ≤ entry.last then c.invalidateBlock block
    else c

def invalidateRange (rangeStart rangeEnd : BitVec 16) : ThreadedBlockCache :=
  if ¬ c.rangeHasActivePage rangeStart.toNat rangeEnd.toNat then c
  else (List.range c.blocks.length).foldl (invalidateIfOverlaps rangeStart rangeEnd) c

def invalidate (address : BitVec 16) : ThreadedBlockCache :=
  match c.slots address with
  | none => c
  | some slot =>
    match c.blocks[slot.block]? with
    | none => c
    | some entry => if entry.valid then c.invalidateBlock slot.block else c

def invalidateAll : ThreadedBlockCache :=
  let c := { c with mappingGeneration := c.mappingGeneration + 1 }
  if c.blocks.isEmpty then c
  else
    { c with
      slots := fun _ => none
      activeBlocksByPage := fun _ => 0
      blocks := c.blocks.map fun entry => { entry with valid := false } }

end ThreadedBlockCache

end ProtoTime
