import ProtoTime.ByteReader
import ProtoTime.Memory.SnapshotStorage

/-!
Debug snapshot files: registers, runs and packed data of a memory snapshot, written with one
access flag for each run, and the store that is rebuilt from them.
-/
namespace ProtoTime.Memory
open ByteReader

variable {w : WordSizes}

inductive RegisterWidth where
  | byte8 | word16
  deriving DecidableEq

inductive RegisterStorage where
  | registerFile | addressMapped
  deriving DecidableEq

structure RegisterEntry (w : WordSizes) where
  name : List (BitVec 8)
  width : RegisterWidth
  storage : RegisterStorage
  isPair : Bool
  value : w.RegType

structure RegisterSnapshot (w : WordSizes) where
  name : List (BitVec 8)
  width : BitVec 8
  storage : BitVec 8
  isPair : BitVec 8
  value : w.RegType
  deriving DecidableEq

structure LoadedSnapshot (w : WordSizes) where
  storage : MemoryStorage w
  registers : List (RegisterSnapshot w)
  coreId : BitVec 32

structure PoolSnapshot (w : WordSizes) where
  start : w.Address
  offset : ℕ
  access : MemAccess
  deriving DecidableEq

namespace DebugSnapshotManager

def snapshotVersion : BitVec 32 := 1
def maxSnapshotMemoryBytes : ℕ := 64 * 1024 * 1024

def RegisterWidth.toByte : RegisterWidth → BitVec 8
  | .byte8 => 0
  | .word16 => 1

def RegisterStorage.toByte : RegisterStorage → BitVec 8
  | .registerFile => 0
  | .addressMapped => 1

/-- What the file says about a register. -/
def saved (entry : RegisterEntry w) : RegisterSnapshot w where
  name := entry.name
  width := RegisterWidth.toByte entry.width
  storage := RegisterStorage.toByte entry.storage
  isPair := if entry.isPair then 1 else 0
  value := entry.value

def registerBytes (entry : RegisterEntry w) : List (BitVec 8) :=
  let nameLen := BitVec.ofNat 32 entry.name.length
  ofU32 nameLen ++ (entry.name.take nameLen.toNat ++ ([RegisterWidth.toByte entry.width] ++
    ([RegisterStorage.toByte entry.storage] ++ ([if entry.isPair then 1 else 0] ++
      ofWord entry.value))))

def poolBytes (store : MemoryStorage w) (pool : w.Address × ℕ) : List (BitVec 8) :=
  ofWord pool.1 ++ (ofU64 (BitVec.ofNat 64 pool.2) ++ [(store.accessAt pool.1).toByte])

/-- The bytes of "SNAP". -/
def magic : List (BitVec 8) := [0x53, 0x4E, 0x41, 0x50]

def fileBytes (registers : List (RegisterEntry w)) (s : SnapshotStorage w) (coreId : BitVec 32) :
    List (BitVec 8) :=
  magic ++ (ofU32 snapshotVersion ++ (ofU32 coreId ++
    (ofU64 (BitVec.ofNat 64 registers.length) ++ (registers.flatMap registerBytes ++
      (ofU64 (BitVec.ofNat 64 s.pool.length) ++ (s.pool.flatMap (poolBytes s.store) ++
        (ofU64 (BitVec.ofNat 64 (s.mem.length * w.data)) ++ s.mem.flatMap ofWord)))))))

/-- The bytes of a written file; the payload is limited. -/
def saveToDisk (registers : List (RegisterEntry w)) (s : SnapshotStorage w)
    (coreId : BitVec 32) : Except String (List (BitVec 8)) :=
  let memSize := s.mem.length * w.data
  if (2 ^ 64 - 1) / w.data < s.mem.length then .error "Snapshot memory payload is too large."
  else if maxSnapshotMemoryBytes < memSize ∨ 2 ^ 63 - 1 < memSize then
    .error "Snapshot memory payload is too large."
  else .ok (fileBytes registers s coreId)

def truncated (path : String) : String := "Failed to read snapshot: " ++ path

def readRegister (path : String) : Reader String (RegisterSnapshot w) := do
  let nameLen ← u32 (truncated path)
  check (nameLen ≤ 256) "Snapshot register name is too long."
  let name ← take (truncated path) nameLen.toNat
  let width ← u8 (truncated path)
  let storage ← u8 (truncated path)
  let isPair ← u8 (truncated path)
  check (isPair ≤ 1) "Snapshot register pair flag is invalid."
  let value ← word (truncated path) w.reg
  return { name, width, storage, isPair, value }

/-- The runs of the file, each at or behind the offset of the one before. -/
def readPools (path : String) : ℕ → ℕ → Reader String (List (PoolSnapshot w))
  | 0, _ => pure []
  | count + 1, previous => do
    let start ← word (truncated path) w.address
    let offset ← u64 (truncated path)
    let byte ← u8 (truncated path)
    check (previous ≤ offset.toNat) "Snapshot pool offsets are not monotonic."
    let access ← accept (match MemAccess.ofRehydrateByte byte with
      | some access => .ok access
      | none => .error "Snapshot pool access is invalid.")
    let others ← readPools path count offset.toNat
    return ⟨start, offset.toNat, access⟩ :: others

/-- The offset behind a run. -/
def followingOffset (size : ℕ) : List (PoolSnapshot w) → ℕ
  | [] => size
  | following :: _ => following.offset

/-- The blocks of the rebuilt store. -/
def segments (size : ℕ) : List (PoolSnapshot w) → Except String (List (MemBlock w))
  | [] => .ok []
  | pool :: rest =>
    let nextOffset := followingOffset size rest
    if nextOffset ≤ pool.offset ∨ size < nextOffset then
      .error "Invalid snapshot pool offsets."
    else if w.space - 1 < nextOffset - pool.offset then
      .error "Snapshot pool length exceeds address width."
    else do
      let blocks ← segments size rest
      return ⟨pool.start, BitVec.ofNat _ (nextOffset - pool.offset), pool.access⟩ :: blocks

def readSnapshot (path : String) (expectedCoreId : BitVec 32) :
    Reader String (LoadedSnapshot w) := do
  let tag ← take (truncated path) 4
  check (tag == magic) "Invalid snapshot format."
  let version ← u32 (truncated path)
  check (version == snapshotVersion) "Unsupported snapshot version."
  let coreId ← u32 (truncated path)
  check (coreId == expectedCoreId) "Snapshot core does not match expected core."
  let regCount ← u64 (truncated path)
  check (regCount ≤ 1024) "Snapshot register count is too large."
  let registers ← many (readRegister path) regCount.toNat
  let poolCount ← u64 (truncated path)
  check (poolCount ≤ 65536) "Snapshot pool count is too large."
  let pools ← readPools path poolCount.toNat 0
  let memSize ← u64 (truncated path)
  check (memSize.toNat % w.data == 0) "Invalid snapshot memory size."
  check (memSize.toNat ≤ maxSnapshotMemoryBytes && memSize.toNat ≤ 2 ^ 63 - 1)
    "Snapshot memory payload is too large."
  let newMem ← many (word (truncated path) w.data) (memSize.toNat / w.data)
  check (!(pools.isEmpty && !newMem.isEmpty)) "Snapshot memory data has no pool map."
  let newMap ← accept (segments newMem.length pools)
  let storage ← accept (MemoryStorage.rehydrate newMem newMap)
  return { storage, registers, coreId }

def loadSnapshot (path : String) (file : List (BitVec 8)) (expectedCoreId : BitVec 32) :
    Except String (LoadedSnapshot w) :=
  match readSnapshot path expectedCoreId file with
  | .error refusal => .error refusal
  | .ok (loaded, []) => .ok loaded
  | .ok (_, _ :: _) => .error "Snapshot contains trailing data."

end DebugSnapshotManager

end ProtoTime.Memory
