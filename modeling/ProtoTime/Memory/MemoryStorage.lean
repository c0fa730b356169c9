import Mathlib.Tactic.Common
import Mathlib.Data.Nat.Notation
import Mathlib.Algebra.Group.Nat.Defs

/-!
The memory map with its backing data: blocks of an address range and its access rights, whose
data lie one after the other.
-/
namespace ProtoTime.Memory

/-- The sizes in bytes of the address, data and register types. -/
structure WordSizes where
  address : ℕ
  data : ℕ
  reg : ℕ
  data_pos : 0 < data

inductive MemAccess where
  | unmapped | read | write | readWrite
  deriving DecidableEq, Repr

namespace MemAccess

def toByte : MemAccess → BitVec 8
  | unmapped => 0
  | read => 1
  | write => 2
  | readWrite => 3

def hasAccess (value flag : MemAccess) : Bool := value.toByte &&& flag.toByte != 0

/-- The rights a saved byte stands for, unless a block may not have them. -/
def ofRehydrateByte (byte : BitVec 8) : Option MemAccess :=
  if byte = 1 then some read else if byte = 2 then some write
  else if byte = 3 then some readWrite else none

theorem ofRehydrateByte_toByte (value : MemAccess) :
    ofRehydrateByte value.toByte = if value = unmapped then none else some value := by
  cases value <;> rfl

end MemAccess

variable {w : WordSizes}

abbrev WordSizes.Address (w : WordSizes) := BitVec (8 * w.address)
abbrev WordSizes.Data (w : WordSizes) := BitVec (8 * w.data)
abbrev WordSizes.RegType (w : WordSizes) := BitVec (8 * w.reg)

/-- The number of addresses. -/
def WordSizes.space (w : WordSizes) : ℕ := 2 ^ (8 * w.address)

structure MemBlock (w : WordSizes) where
  base : w.Address
  length : w.Address
  access : MemAccess
  deriving DecidableEq

structure MemoryStorage (w : WordSizes) where
  map : List (MemBlock w) := []
  mem : List w.Data := []
  deriving DecidableEq

def hexText (value : ℕ) : String := "0x" ++ String.ofList (Nat.toDigits 16 value)

def MemBlock.mappedOffset (block : MemBlock w) (address : w.Address) : Option ℕ :=
  if address < block.base then none
  else if block.length = 0 then none
  else if block.length ≤ address - block.base then none
  else some (address - block.base).toNat

variable {address : w.Address}

theorem MemBlock.mappedOffset_eq_some_iff {block : MemBlock w} {i : ℕ} :
    block.mappedOffset address = some i ↔
      address.toNat = block.base.toNat + i ∧ i < block.length.toNat := by
  unfold mappedOffset
  by_cases hlow : address < block.base
  · rw [if_pos hlow]
    have hlt : address.toNat < block.base.toNat := hlow
    constructor
    · intro h
      cases h
    · intro h
      omega
  · have hge : block.base.toNat ≤ address.toNat := Nat.le_of_not_lt hlow
    have hsub : (address - block.base).toNat = address.toNat - block.base.toNat :=
      BitVec.toNat_sub_of_le hge
    rw [if_neg hlow]
    by_cases hzero : block.length = 0
    · rw [if_pos hzero, hzero]
      constructor
      · intro h
        cases h
      · intro h
        exact absurd h.2 (Nat.not_lt_zero _)
    · rw [if_neg hzero]
      by_cases hend : block.length ≤ address - block.base
      · rw [if_pos hend]
        have hle : block.length.toNat ≤ (address - block.base).toNat := hend
        constructor
        · intro h
          cases h
        · intro h
          omega
      · rw [if_neg hend, Option.some_inj, hsub]
        have hlt : (address - block.base).toNat < block.length.toNat := Nat.lt_of_not_le hend
        omega

theorem MemBlock.isSome_mappedOffset (block : MemBlock w) (address : w.Address) :
    (block.mappedOffset address).isSome =
      (block.base ≤ address && address - block.base < block.length) := by
  unfold mappedOffset
  by_cases hlow : address < block.base
  · rw [if_pos hlow, decide_eq_false (BitVec.not_le.mpr hlow)]
    rfl
  · rw [if_neg hlow, decide_eq_true (BitVec.not_lt.mp hlow), Bool.true_and]
    by_cases hzero : block.length = 0
    · rw [if_pos hzero, hzero]
      exact (decide_eq_false BitVec.not_lt_zero).symm
    · rw [if_neg hzero]
      by_cases hend : block.length ≤ address - block.base
      · rw [if_pos hend, decide_eq_false (BitVec.not_lt.mpr hend)]
        rfl
      · rw [if_neg hend, decide_eq_true (BitVec.not_le.mp hend)]
        rfl

/-- The number of elements the blocks of a map hold. -/
def extent : List (MemBlock w) → ℕ
  | [] => 0
  | block :: rest => block.length.toNat + extent rest

theorem extent_append (front back : List (MemBlock w)) :
    extent (front ++ back) = extent front + extent back := by
  induction front with
  | nil => exact (Nat.zero_add _).symm
  | cons block front ih =>
    show block.length.toNat + extent (front ++ back) = _
    rw [ih, ← Nat.add_assoc]
    rfl

namespace MemoryStorage

variable (s : MemoryStorage w)

def addMemBlock (memBlock : MemBlock w) : MemoryStorage w where
  map := s.map ++ [memBlock]
  mem := s.mem ++ List.replicate memBlock.length.toNat 0

/-- The search for the block of an address, the data of the blocks passed so far at the front. -/
def readableSpanFrom (mem : List w.Data) (address : w.Address) (count : ℕ) :
    List (MemBlock w) → ℕ → Except String (List w.Data)
  | [], _ => .error "address is not mapped"
  | block :: rest, offset =>
    match block.mappedOffset address with
    | some localOffset =>
      if !block.access.hasAccess .read then .error "address is not readable"
      else if block.length.toNat - localOffset < count then
        .error s!"read extends past mapped range at {hexText address.toNat} count={hexText count}"
      else .ok ((mem.drop (offset + localOffset)).take count)
    | none => readableSpanFrom mem address count rest (offset + block.length.toNat)

def readableSpan (address : w.Address) (count : ℕ) : Except String (List w.Data) :=
  if count = 0 then .ok [] else readableSpanFrom s.mem address count s.map 0

/-- A read into a stream of `count` elements. -/
def read (count : ℕ) (address : w.Address) : Except String (List w.Data) :=
  if count = 0 then .ok [] else s.readableSpan address count

def accessAt (address : w.Address) : MemAccess :=
  match s.map.find? fun block => block.base ≤ address && address - block.base < block.length with
  | some block => block.access
  | none => .unmapped

/-- The checks of a new map, with the size mapped so far. -/
def checkMap : List (MemBlock w) → ℕ → Except String ℕ
  | [], mappedSize => .ok mappedSize
  | block :: rest, mappedSize =>
    if block.length = 0 then .error "rehydrate received an invalid memory block"
    else if 2 ^ 64 - 1 - block.length.toNat < mappedSize then
      .error "rehydrate mapped size overflow"
    else if w.space - 1 - block.base.toNat < block.length.toNat - 1 then
      .error "rehydrate memory block overflows address space"
    else checkMap rest (mappedSize + block.length.toNat)

def rehydrate (newMem : List w.Data) (newMap : List (MemBlock w)) :
    Except String (MemoryStorage w) := do
  let mappedSize ← checkMap newMap 0
  if mappedSize ≠ newMem.length then
    .error "rehydrate memory data does not match memory map"
  else .ok ⟨newMap, newMem⟩

/-- A readable span lies in one block. -/
theorem length_of_readableSpanFrom {mem : List w.Data} {count : ℕ}
    {blocks : List (MemBlock w)} {offset : ℕ} {data : List w.Data}
    (hsize : offset + extent blocks ≤ mem.length)
    (h : readableSpanFrom mem address count blocks offset = .ok data) : data.length = count := by
  induction blocks generalizing offset with
  | nil => cases h
  | cons block rest ih =>
    have hextent : extent (block :: rest) = block.length.toNat + extent rest := rfl
    rw [readableSpanFrom] at h
    cases hlocal : block.mappedOffset address with
    | none =>
      rw [hlocal] at h
      exact ih (by omega) h
    | some localOffset =>
      rw [hlocal] at h
      dsimp only at h
      split at h
      · cases h
      · split at h
        · cases h
        · next hfits =>
          cases h
          rw [List.length_take, List.length_drop]
          omega

end MemoryStorage

structure FilledStorage (w : WordSizes) extends MemoryStorage w where
  sized : mem.length = extent map

namespace FilledStorage

def empty : FilledStorage w where
  map := []
  mem := []
  sized := rfl

def addMemBlock (s : FilledStorage w) (memBlock : MemBlock w) : FilledStorage w where
  toMemoryStorage := s.toMemoryStorage.addMemBlock memBlock
  sized := by
    show (s.mem ++ List.replicate memBlock.length.toNat 0).length = extent (s.map ++ [memBlock])
    rw [List.length_append, List.length_replicate, extent_append, s.sized]
    rfl

theorem length_of_read (s : FilledStorage w) {count : ℕ}
    {data : List w.Data} (h : s.read count address = .ok data) : data.length = count := by
  unfold MemoryStorage.read MemoryStorage.readableSpan at h
  by_cases hcount : count = 0
  · rw [if_pos hcount] at h
    cases h
    exact hcount.symm
  · rw [if_neg hcount, if_neg hcount] at h
    apply MemoryStorage.length_of_readableSpanFrom _ h
    exact Nat.le_of_eq (by rw [Nat.zero_add, s.sized])

end FilledStorage

end ProtoTime.Memory
