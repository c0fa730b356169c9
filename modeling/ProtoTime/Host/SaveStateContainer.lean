import ProtoTime.Results
import ProtoTime.GameBoy.MemoryMap

/-!
The container of a save state: a header, named chunks and, in one of two modes,
a checksum over both.
-/
namespace ProtoTime.SaveState

open Results
open GameBoy (Byte crc32 u32Bytes u32OfBytes)

inductive SaveStateChecksum where
  | none | crc32
  deriving DecidableEq

namespace SaveStateChecksum

def toU32 : SaveStateChecksum → BitVec 32
  | .none => 0
  | .crc32 => 1

/-- The mode of a stored number; there are two. -/
def ofU32 (mode : BitVec 32) : Except String SaveStateChecksum :=
  if mode = 0 then .ok .none
  else if mode = 1 then .ok .crc32
  else .error "Unsupported save state checksum mode"

end SaveStateChecksum

structure SaveStateHeader where
  magic : List Byte
  version : BitVec 32
  coreId : BitVec 32
  romHash : BitVec 32
  checksum : SaveStateChecksum
  chunkCount : BitVec 32
  deriving DecidableEq

structure SaveStateChunk where
  name : List Byte
  size : BitVec 32
  data : List Byte
  deriving DecidableEq

structure SaveStateFile where
  header : SaveStateHeader
  chunks : List SaveStateChunk
  checksum : BitVec 32
  deriving DecidableEq

/-- The letters of `PTIME`. -/
def kSaveStateMagic : List Byte := [0x50, 0x54, 0x49, 0x4D, 0x45]

def kSaveStateVersion : BitVec 32 := 1

def kChunkNameSize : ℕ := 32

def kMaxChunkSize : ℕ := 64 * 1024 * 1024

def kSerializedHeaderSize : ℕ := 5 + 5 * 4

def kSerializedChunkHeaderSize : ℕ := 4 + kChunkNameSize

def kMaxChunkCount : ℕ := 4096

def writeHeaderBytes (header : SaveStateHeader) : List Byte :=
  header.magic ++ u32Bytes header.version ++ u32Bytes header.coreId ++ u32Bytes header.romHash ++
    u32Bytes header.checksum.toU32 ++ u32Bytes header.chunkCount

/-- A name fills its field up with zeros. -/
def encodedName (name : List Byte) : List Byte :=
  name ++ List.replicate (kChunkNameSize - name.length) 0

def writeChunkBytes (chunk : SaveStateChunk) : Except String (List Byte) := do
  require (chunk.size.toNat == chunk.data.length) "Chunk size does not match payload length"
  require (chunk.name.length ≤ kChunkNameSize) "Chunk name exceeds 32 bytes"
  return u32Bytes chunk.size ++ encodedName chunk.name ++ chunk.data

def writeChunks : List SaveStateChunk → Except String (List Byte)
  | [] => .ok []
  | chunk :: chunks => do
    let bytes ← writeChunkBytes chunk
    return bytes ++ (← writeChunks chunks)

/-- The bytes after the chunks. -/
def trailer (checksum : SaveStateChecksum) (payload : List Byte) : List Byte :=
  match checksum with
  | .none => []
  | .crc32 => u32Bytes (crc32 payload)

def writtenHeader (state : SaveStateFile) : SaveStateHeader :=
  { state.header with
    magic := kSaveStateMagic
    version := kSaveStateVersion
    chunkCount := BitVec.ofNat 32 state.chunks.length }

/-- The contents of the written file. -/
def write (state : SaveStateFile) : Except String (List Byte) := do
  require (state.chunks.length ≤ 0xFFFFFFFF) "Too many save state chunks"
  let chunks ← writeChunks state.chunks
  let payload := writeHeaderBytes (writtenHeader state) ++ chunks
  return payload ++ trailer state.header.checksum payload

/-- The next bytes of the stream, and the stream after them. -/
def readExact (stream : List Byte) (size : ℕ) (fieldName : String) :
    Except String (List Byte × List Byte) :=
  if size ≤ stream.length then .ok (stream.take size, stream.drop size)
  else .error ("Failed to read save state " ++ fieldName)

def readU32 (stream : List Byte) (fieldName : String) :
    Except String (BitVec 32 × List Byte) := do
  let (bytes, stream) ← readExact stream 4 fieldName
  return (BitVec.ofNat 32 (u32OfBytes bytes), stream)

def readHeader (stream : List Byte) : Except String (SaveStateHeader × List Byte) := do
  let (magic, stream) ← readExact stream 5 "magic"
  require (magic == kSaveStateMagic) "Invalid save state magic"
  let (version, stream) ← readU32 stream "version"
  let (coreId, stream) ← readU32 stream "core id"
  let (romHash, stream) ← readU32 stream "ROM hash"
  let (mode, stream) ← readU32 stream "checksum mode"
  let (chunkCount, stream) ← readU32 stream "chunk count"
  require (version == kSaveStateVersion)
    ("Unsupported save state version: " ++ toString version.toNat)
  let checksum ← SaveStateChecksum.ofU32 mode
  require (chunkCount.toNat ≤ kMaxChunkCount) "Save state chunk count is too large"
  return (⟨magic, version, coreId, romHash, checksum, chunkCount⟩, stream)

def trailerSize : SaveStateChecksum → ℕ
  | .none => 0
  | .crc32 => 4

/-- As many chunks as the header names fit into a file of this size. -/
def checkFileSize (fileSize : ℕ) (header : SaveStateHeader) : Except String Unit := do
  let fixed := kSerializedHeaderSize + trailerSize header.checksum
  require (fixed ≤ fileSize) "Save state file is too short"
  require (header.chunkCount.toNat ≤ (fileSize - fixed) / kSerializedChunkHeaderSize)
    "Save state chunk count exceeds file size"

/-- A stored name ends at its first zero. -/
def readChunk (stream : List Byte) : Except String (SaveStateChunk × List Byte) := do
  let (size, stream) ← readU32 stream "chunk size"
  require (size.toNat ≤ kMaxChunkSize) "Save state chunk is too large"
  let (name, stream) ← readExact stream kChunkNameSize "chunk name"
  let (data, stream) ← readExact stream size.toNat "chunk data"
  return (⟨name.takeWhile (· ≠ 0), size, data⟩, stream)

/-- The chunks, and the bytes they are checked with, which are written anew. -/
def readChunks : ℕ → List Byte → Except String (List SaveStateChunk × List Byte × List Byte)
  | 0, stream => .ok ([], [], stream)
  | count + 1, stream => do
    let (chunk, stream) ← readChunk stream
    let bytes ← writeChunkBytes chunk
    let (chunks, payload, stream) ← readChunks count stream
    return (chunk :: chunks, bytes ++ payload, stream)

def readChecksum (checksum : SaveStateChecksum) (payload stream : List Byte) :
    Except String (BitVec 32 × List Byte) :=
  match checksum with
  | .none => .ok (0, stream)
  | .crc32 => do
    let (stored, stream) ← readU32 stream "checksum"
    require (crc32 payload == stored) "Save state checksum mismatch"
    return (stored, stream)

/-- Everything up to the end of the file, which has this size. -/
def readFile (fileSize : ℕ) (stream : List Byte) :
    Except String (SaveStateFile × List Byte) := do
  let (header, stream) ← readHeader stream
  checkFileSize fileSize header
  let (chunks, payload, stream) ← readChunks header.chunkCount.toNat stream
  let (checksum, stream) ← readChecksum header.checksum (writeHeaderBytes header ++ payload) stream
  return (⟨header, chunks, checksum⟩, stream)

def read (bytes : List Byte) : Except String SaveStateFile := do
  let (file, stream) ← readFile bytes.length bytes
  require stream.isEmpty "Save state contains trailing data"
  return file

end ProtoTime.SaveState
