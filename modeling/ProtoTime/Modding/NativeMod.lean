import ProtoTime.Modding.ModHost
import ProtoTime.Transaction

/-!
Native modules attached to a host, the checkpoint of all of them together, and its restoration
through replacements that are built beside the live modules.
-/
namespace ProtoTime.Modding

open Transaction
open ByteReader hiding bind_eq_ok

abbrev Text := List Byte

abbrev Digest := { bytes : List Byte // bytes.length = 32 }

/-- A package: its regions in the order of their names, its trampolines as declared. -/
structure LoadedMod where
  id : Text
  version : Text
  priority : BitVec 32
  regions : List (Text × BitVec 32)
  nativeModule : Text
  trampolines : List (Text × BitVec 32)
  deriving DecidableEq

structure Write where
  id : BitVec 32
  offset : BitVec 64
  data : List Byte

/-- The callbacks of a module. What one reads of the regions decides what it writes, in order;
`save` is given no write access. -/
structure TimeModApi (I : Type) where
  id : Text
  version : Text
  stateVersion : BitVec 32
  stateSize : BitVec 32
  create : ModHost → Option I × List Write
  reset : ModHost → I → Bool × I × List Write
  save : ModHost → I → Bool × I × List Byte
  restore : ModHost → I → List Byte → Bool × I × List Write

structure Files where
  sha256 : List Byte → Digest
  file : Text → Option (List Byte)

/-- The callbacks in the library at a path, or why it cannot be loaded. -/
abbrev Library (I : Type) := Text → Except String (TimeModApi I)

structure Impl (I : Type) where
  api : TimeModApi I
  inst : I
  metadata : LoadedMod
  image : Digest
  executionBinding : Text

/-- A module keeps its address when its implementation is exchanged. -/
structure NativeMod (I : Type) where
  address : ℕ
  impl : Impl I

structure World (I : Type) where
  host : ModHost
  cohort : List (NativeMod I)

variable {I : Type}

/-! ## The regions as a module sees them -/

def ModHost.regionInfo (h : ModHost) (id : BitVec 32) : Option Region :=
  if id = 0 then none else h.regions[id.toNat - 1]?

variable (metadata : LoadedMod)

def owns (id : BitVec 32) : Bool := metadata.regions.any (·.2 == id)

def overwrite (bytes : List Byte) (offset : ℕ) (data : List Byte) : List Byte :=
  bytes.take offset ++ data ++ bytes.drop (offset + data.length)

/-- One write of a module: refused unless it owns the region and stays inside it. -/
def transfer (h : ModHost) (w : Write) : ModHost :=
  match h.regionInfo w.id with
  | none => h
  | some r =>
    if owns metadata w.id && decide (w.offset.toNat ≤ r.bytes.length)
        && decide (w.data.length ≤ r.bytes.length - w.offset.toNat) then
      ⟨h.regions.set (w.id.toNat - 1)
        (r.withBytes (overwrite r.bytes w.offset.toNat w.data))⟩
    else h

def transfers (h : ModHost) (ws : List Write) : ModHost :=
  ws.foldl (transfer metadata) h

def ModHost.reset (h : ModHost) : ModHost :=
  ⟨h.regions.map fun r => r.withBytes (List.replicate r.bytes.length 0)⟩

/-! ## The identity of a module -/

def appendText (value : Text) : Except String (List Byte) :=
  if 65536 < value.length then .error "native identity budget exhausted"
  else .ok (ofU32 (BitVec.ofNat 32 value.length) ++ value)

def appendNumbered : List (Text × BitVec 32) → Except String (List Byte)
  | [] => .ok []
  | (name, id) :: others => do
    let text ← appendText name
    let rest ← appendNumbered others
    return text ++ ofU32 id ++ rest

def identityBytes (s : Impl I) : Except String (List Byte) := do
  let id ← appendText s.metadata.id
  let version ← appendText s.metadata.version
  let regions ← appendNumbered s.metadata.regions
  let trampolines ← appendNumbered s.metadata.trampolines
  let binding ← appendText s.executionBinding
  return s.image.val ++ id ++ version ++ ofU32 s.metadata.priority
    ++ ofU32 (BitVec.ofNat 32 s.metadata.regions.length) ++ regions
    ++ ofU32 (BitVec.ofNat 32 s.metadata.trampolines.length) ++ trampolines ++ binding

variable (F : Files)

def identity (s : Impl I) : Except String Digest :=
  (identityBytes s).map F.sha256

def imageDigest (path : Text) : Except String Digest :=
  match F.file path with
  | none => .error "cannot bind native module image"
  | some bytes =>
    if 128 * 1024 * 1024 < bytes.length then .error "native image budget exhausted"
    else .ok (F.sha256 bytes)

/-! ## Loading, saving and restoring one module -/

def guardWith (condition : Bool) (e : String) : Except String Unit :=
  if condition then .ok () else .error e

/-- What is checked of a module before its first callback runs. -/
def openModule (library : Library I) (metadata : LoadedMod) (h : ModHost) :
    Except String (Digest × TimeModApi I) := do
  guardWith (metadata.nativeModule != []) "missing native module or host"
  guardWith (metadata.regions.all fun r => r.1 != [] && (h.regionInfo r.2).isSome)
    "invalid module region binding"
  let image ← imageDigest F metadata.nativeModule
  let api ← library metadata.nativeModule
  guardWith (metadata.id == api.id && metadata.version == api.version)
    "native mod identity mismatch"
  guardWith (decide (api.stateSize.toNat ≤ 16 * 1024 * 1024))
    "invalid native mod callbacks/state size"
  return (image, api)

/-- The first callback: a new instance, and the host after it was created. -/
def instantiate (h : ModHost) (opened : Digest × TimeModApi I) : Except String (Impl I × ModHost) :=
  match opened.2.create h with
  | (none, _) => .error "native mod create failed"
  | (some inst, ws) => .ok (⟨opened.2, inst, metadata, opened.1, []⟩, transfers metadata h ws)

def loadImpl (library : Library I) (metadata : LoadedMod) (h : ModHost) :
    Except String (Impl I × ModHost) := do
  instantiate metadata h (← openModule F library metadata h)

/-- The buffer a module has written: of the size it declares, zero where it wrote nothing. -/
def fill (size : ℕ) (out : List Byte) : List Byte :=
  out.take size ++ List.replicate (size - out.length) 0

def Impl.save (h : ModHost) (s : Impl I) : Except String (List Byte) × Impl I :=
  match s.api.save h s.inst with
  | (true, inst, out) => (.ok (fill s.api.stateSize.toNat out), { s with inst := inst })
  | (false, inst, _) => (.error "native mod save failed", { s with inst := inst })

/-- What a callback has done to its instance and, by its writes, to the host. -/
def Impl.after (h : ModHost) (s : Impl I) (r : Bool × I × List Write) : Bool × Impl I × ModHost :=
  (r.1, { s with inst := r.2.1 }, transfers s.metadata h r.2.2)

def Impl.restore (h : ModHost) (s : Impl I) (schema : BitVec 32) (bytes : List Byte) :
    Bool × Impl I × ModHost :=
  if schema = s.api.stateVersion ∧ bytes.length = s.api.stateSize.toNat then
    s.after h (s.api.restore h s.inst bytes)
  else (false, s, h)

def Impl.reset (h : ModHost) (s : Impl I) : Bool × Impl I × ModHost :=
  s.after h (s.api.reset h s.inst)

/-! ## Saving the cohort -/

def kCohortBudget : ℕ := 64 * 1024 * 1024

def record (d : Digest) (schema : BitVec 32) (bytes : List Byte) : List Byte :=
  d.val ++ ofU32 schema ++ ofU32 (BitVec.ofNat 32 bytes.length) ++ bytes

/-- The records of the modules behind `size` bytes, and the modules after their callbacks. -/
def saveMembers (F : Files) (h : ModHost) (size : ℕ) :
    List (NativeMod I) → Except String (List Byte) × List (NativeMod I)
  | [] => (.ok [], [])
  | m :: ms =>
    match m.impl.save h with
    | (.error e, s) => (.error e, { m with impl := s } :: ms)
    | (.ok bytes, s) =>
      if kCohortBudget - 40 < size + bytes.length then
        (.error "native cohort state budget exhausted", { m with impl := s } :: ms)
      else
        match identity F s with
        | .error e => (.error e, { m with impl := s } :: ms)
        | .ok d =>
          match saveMembers F h (size + (40 + bytes.length)) ms with
          | (result, others) =>
            (result.map (record d s.api.stateVersion bytes ++ ·), { m with impl := s } :: others)

def cohortHeader (count : ℕ) : List Byte := ofU32 1 ++ ofU32 (BitVec.ofNat 32 count)

def saveCohort : Action (World I) String (List Byte) := fun w =>
  if 256 < w.cohort.length then (.error "native cohort budget exhausted", w)
  else
    match saveMembers F w.host 8 w.cohort with
    | (result, members) =>
      (result.map (cohortHeader w.cohort.length ++ ·), { w with cohort := members })

/-! ## Preparing a checkpoint -/

def kTruncatedCohort : String := "truncated native cohort"

/-- The record of one module: its identity, its schema and its size have to be those of the live
module, and its image that of the file. -/
def readMember (s : Impl I) : Reader String (List Byte) := do
  let d ← accept (identity F s)
  let named ← take "native checkpoint identity mismatch" 32
  check (named == d.val) "native checkpoint identity mismatch"
  let schema ← u32 kTruncatedCohort
  let size ← u32 kTruncatedCohort
  check (schema == s.api.stateVersion && size == s.api.stateSize)
    "native checkpoint schema mismatch"
  let bytes ← take "native checkpoint schema mismatch" size.toNat
  let image ← accept (imageDigest F s.metadata.nativeModule)
  check (image == s.image) "native module image changed since loading"
  return bytes

def readMembers (F : Files) : List (NativeMod I) → Reader String (List (List Byte))
  | [] => pure []
  | m :: ms => do
    let bytes ← readMember F m.impl
    let others ← readMembers F ms
    return bytes :: others

def readCohort (ms : List (NativeMod I)) : Reader String (List (List Byte)) := do
  let version ← u32 kTruncatedCohort
  check (version == 1) "native cohort mismatch"
  let count ← u32 kTruncatedCohort
  check (count.toNat == ms.length) "native cohort mismatch"
  let states ← readMembers F ms
  let unread ← left
  check (unread == 0) "trailing native cohort data"
  return states

def parseCohort (ms : List (NativeMod I)) (data : List Byte) : Except String (List (List Byte)) :=
  if kCohortBudget < data.length then .error "native cohort budget exhausted"
  else run (readCohort F ms) data

def reproduced (bytes : List Byte) (r : Bool × Impl I × ModHost) :
    Except String (Impl I × ModHost) :=
  if r.1 then
    match r.2.1.save r.2.2 with
    | (.error e, _) => .error e
    | (.ok saved, last) =>
      if saved = bytes then .ok (last, r.2.2) else .error "native checkpoint restore rejected"
  else .error "native checkpoint restore rejected"

/-- A replacement of one module against the staged regions. -/
def replace (library : Library I) (s : Impl I) (bytes : List Byte)
    (staged : ModHost) : Except String (Impl I × ModHost) := do
  let loaded ← loadImpl F library s.metadata staged
  reproduced bytes ({ loaded.1 with executionBinding := s.executionBinding }.restore loaded.2
    s.api.stateVersion bytes)

def replaceAll (F : Files) (library : Library I) : List (NativeMod I) → List (List Byte) → ModHost →
    Except String (List (Impl I) × ModHost)
  | m :: ms, bytes :: states, staged => do
    let first ← replace F library m.impl bytes staged
    let others ← replaceAll F library ms states first.2
    return (first.1 :: others.1, others.2)
  | _, _, staged => .ok ([], staged)

structure PreparedCohort (I : Type) where
  live : List ℕ
  beforeHost : List Byte
  beforeModules : List Byte
  staged : ModHost
  bytes : PreparedState
  replacements : List (Impl I)

def World.addresses (w : World I) : List ℕ := w.cohort.map NativeMod.address

def emptyCohort : List Byte := [1, 0, 0, 0, 0, 0, 0, 0]

/-- What is known before the first replacement is loaded. -/
structure CheckedCohort where
  beforeHost : List Byte
  beforeModules : List Byte
  bytes : PreparedState
  states : List (List Byte)

/-- Every identity and payload is validated before any callback of a replacement runs. -/
def checkCohort (modules regions : Option (List Byte)) :
    Action (World I) String CheckedCohort := do
  let before ← get
  let beforeHost ← fromExcept before.host.exportState
  let beforeModules ← saveCohort F
  let w ← get
  let bytes ← fromExcept (w.host.prepareCheckpoint regions)
  require (modules.isSome || w.cohort.isEmpty) "checkpoint lacks native cohort"
  let states ← fromExcept (parseCohort F w.cohort (modules.getD emptyCohort))
  return ⟨beforeHost, beforeModules, bytes, states⟩

/-- The replacements, built against a copy of the host that has the saved regions. -/
def buildCohort (library : Library I) (w : World I) (states : List (List Byte))
    (regions : Option (List Byte)) : Except String (List (Impl I) × ModHost) := do
  let bytes ← w.host.prepareCheckpoint regions
  let staged ← w.host.commitState bytes
  let expected ← staged.exportState
  let built ← replaceAll F library w.cohort states staged
  let reached ← built.2.exportState
  guardWith (decide (reached = expected)) "native restore disagrees with saved host-region state"
  return built

def prepareCohort (library : Library I) (modules regions : Option (List Byte)) :
    Action (World I) String (PreparedCohort I) := do
  let checked ← checkCohort F modules regions
  let w ← get
  let built ← fromExcept (buildCohort F library w checked.states regions)
  return ⟨w.addresses, checked.beforeHost, checked.beforeModules, built.2, checked.bytes, built.1⟩

/-- The implementations change places; the modules stay where they are. -/
def swap (m : NativeMod I) (next : Impl I) : NativeMod I := { m with impl := next }

def kStaleCohort : String := "stale native cohort preparation"

def commit (p : PreparedCohort I) : Action (World I) String PUnit := do
  let before ← get
  require (decide (before.addresses = p.live)) kStaleCohort
  let host ← fromExcept before.host.exportState
  require (decide (host = p.beforeHost)) kStaleCohort
  let modules ← saveCohort F
  require (decide (modules = p.beforeModules)) kStaleCohort
  let w ← get
  let next ← fromExcept (w.host.commitState p.bytes)
  set (World.mk next (w.cohort.zipWith swap p.replacements))

/-! ## Resetting the cohort -/

def resetAll : List (Impl I) → ModHost → Except String (List (Impl I) × ModHost)
  | [], staged => .ok ([], staged)
  | s :: ss, staged => do
    guardWith (s.reset staged).1 "native reset rejected"
    let others ← resetAll ss (s.reset staged).2.2
    return ((s.reset staged).2.1 :: others.1, others.2)

def prepareReset (library : Library I) : Action (World I) String (PreparedCohort I) := do
  let modules ← saveCohort F
  let w ← get
  let regions ← fromExcept w.host.exportState
  let prepared ← prepareCohort F library (some modules) (some regions)
  let done ← fromExcept (resetAll prepared.replacements prepared.staged.reset)
  let reached ← fromExcept done.2.exportState
  let bytes ← fromExcept (w.host.prepareCheckpoint (some reached))
  return { prepared with staged := done.2, bytes := bytes, replacements := done.1 }

end ProtoTime.Modding
