import ProtoTime.ByteReader
import ProtoTime.Results
import Mathlib.Tactic.SplitIfs

/-!
The memory regions a mod host keeps beside the machine's own memory, and the
bytes they are saved as.
-/
namespace ProtoTime.Modding

open Results
open ByteReader hiding bind_eq_ok

abbrev Byte := BitVec 8

structure Region where
  name : List Byte
  bytes : List Byte
  guestBase : BitVec 16
  bank : BitVec 8
  deriving DecidableEq

/-- What a region is bound by: everything but its contents. -/
structure Layout where
  name : List Byte
  size : ℕ
  guestBase : BitVec 16
  bank : BitVec 8
  deriving DecidableEq

def Region.layout (r : Region) : Layout := ⟨r.name, r.bytes.length, r.guestBase, r.bank⟩

def Region.withBytes (r : Region) (bytes : List Byte) : Region := { r with bytes := bytes }

structure ModHost where
  regions : List Region
  deriving DecidableEq

structure Binding where
  name : List Byte
  base : BitVec 16
  bank : BitVec 8
  deriving DecidableEq

def Region.binding (r : Region) : Binding := ⟨r.name, r.guestBase, r.bank⟩

structure PreparedState where
  bindings : List Binding
  bytes : List (List Byte)
  deriving DecidableEq

def kStateBudget : ℕ := 64 * 1024 * 1024

namespace ModHost

def layout (h : ModHost) : List Layout := h.regions.map Region.layout

/-- The size of the saved regions, while it stays within the budget. -/
def checkedSize (size : ℕ) : List Region → Except String ℕ
  | [] => .ok size
  | r :: rs =>
    if kStateBudget < r.name.length ∨ kStateBudget < r.bytes.length ∨ kStateBudget - 16 < size
        ∨ kStateBudget - size - 16 < r.name.length
        ∨ kStateBudget - size - 16 - r.name.length < r.bytes.length then
      .error "host-region state budget exhausted"
    else checkedSize (size + (16 + r.name.length + r.bytes.length)) rs

def exportRegion (r : Region) : List Byte :=
  ofU32 (BitVec.ofNat 32 r.name.length) ++ r.name ++ ofU32 (r.guestBase.setWidth 32)
    ++ ofU32 (r.bank.setWidth 32) ++ ofU32 (BitVec.ofNat 32 r.bytes.length) ++ r.bytes

variable (h : ModHost)

def exportState : Except String (List Byte) := do
  let _ ← checkedSize 8 h.regions
  return ofU32 2 ++ ofU32 (BitVec.ofNat 32 h.regions.length) ++ h.regions.flatMap exportRegion

def kTruncated : String := "truncated host-region state"

/-- The name and the mapping of a region, which the second version of the format names. -/
def readIdentity (r : Region) : Reader String Unit := do
  let length ← u32 kTruncated
  check (length.toNat == r.name.length) "host-region identity mismatch"
  let name ← take "host-region identity mismatch" r.name.length
  check (name == r.name) "host-region identity mismatch"
  let base ← u32 kTruncated
  check (base == r.guestBase.setWidth 32) "host-region mapping mismatch"
  let bank ← u32 kTruncated
  check (bank == r.bank.setWidth 32) "host-region mapping mismatch"

def readContents (r : Region) : Reader String (List Byte) := do
  let size ← u32 kTruncated
  check (size.toNat == r.bytes.length) "host-region size mismatch"
  take "host-region size mismatch" r.bytes.length

def readRegion (version : BitVec 32) (r : Region) : Reader String (List Byte) :=
  if version = 2 then readIdentity r >>= fun _ => readContents r else readContents r

def readRegions (version : BitVec 32) : List Region → Reader String (List (List Byte))
  | [] => pure []
  | r :: rs => do
    let bytes ← readRegion version r
    let others ← readRegions version rs
    return bytes :: others

def reader : Reader String PreparedState := do
  let version ← u32 kTruncated
  check (version == 1 || version == 2) "incompatible host-region state"
  let count ← u32 kTruncated
  check (count.toNat == h.regions.length) "incompatible host-region state"
  let bytes ← readRegions version h.regions
  let unread ← left
  check (unread == 0) "trailing host-region data"
  return ⟨h.regions.map Region.binding, bytes⟩

def prepareState (state : List Byte) : Except String PreparedState :=
  if kStateBudget < state.length then .error "host-region state budget exhausted"
  else run h.reader state

/-- A checkpoint of the whole machine has to name its regions. -/
def prepareCheckpoint : Option (List Byte) → Except String PreparedState
  | none =>
    if h.regions = [] then .ok ⟨[], []⟩
    else .error "checkpoint lacks required host-region state"
  | some state =>
    if state.take 4 = [2, 0, 0, 0] then h.prepareState state
    else .error "checkpoint host-region schema is incompatible"

/-- Whether a preparation was made for these regions. -/
def fits (p : PreparedState) (h : ModHost) : Bool :=
  decide (p.bytes.map List.length = h.regions.map (·.bytes.length))
    && decide (p.bindings = h.regions.map Region.binding)

/-- A preparation for another layout is refused before any byte is written. -/
def commitState (p : PreparedState) : Except String ModHost :=
  if fits p h then .ok ⟨h.regions.zipWith Region.withBytes p.bytes⟩
  else .error "stale host-region preparation"

/-- The outcome, and the regions after it. -/
def importState (h : ModHost) (state : List Byte) : Bool × ModHost :=
  match (do h.commitState (← h.prepareState state)) with
  | .ok h' => (true, h')
  | .error _ => (false, h)

end ModHost

end ProtoTime.Modding
