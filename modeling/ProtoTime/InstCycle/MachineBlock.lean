import Mathlib.Logic.Function.Basic
import ProtoTime.InstCycle.PluginBlocks

/-!
Compiled blocks bound to a machine. A binding derives the scalar parts of its guards
once, from the block it owns, and carries the live mapping generation itself; it can
be moved to another mapping with or without a copy of the block.
-/
namespace ProtoTime.IR.Plugin

open Results

/-- Up to four bytes of guest code; the rest of the array is zero. -/
structure SourceInstruction where
  address : BitVec 64
  bytes : List (BitVec 8)
  length : BitVec 8
  deriving DecidableEq

structure LoweringRequest where
  instructions : List SourceInstruction
  mappingGeneration : BitVec 64
  executionState : BitVec 64
  deriving DecidableEq

/-- What binding asks of a core: its number, its validator and its own lowering. The text
is the error that the lowering leaves behind. -/
structure IrCoreAdapter where
  architectureId : BitVec 32
  validateLoweredBlock : LoweringRequest → Block → Except Invalid Unit
  lower : LoweringRequest → Option Block × String

/-- An emitted block; its entry points play no part in binding. -/
structure CompiledBlock where
  block : Block
  architectureId : BitVec 32
  valid : validate block = .ok ()

variable (block : Block)

def CompiledBlock.make (architectureId : BitVec 32) : Except String CompiledBlock :=
  match h : validate block with
  | .ok () => .ok ⟨block, architectureId, h⟩
  | .error _ => .error "invalid emitted block"

/-- The identity behind a shared pointer, or the null pointer. -/
abbrev Owner := Option ℕ

/-! ### Guard metadata -/

structure GuardMetadata where
  codeGuard : Option Guard := none
  lowRomCode : Bool := false
  scalarValid : Bool := true
  mapping : BitVec 64 := 0
  helperAbi : BitVec 64 := 0
  stateMask : BitVec 64 := 0
  stateExpected : BitVec 64 := 0

/-- The metadata so far, with the guard kinds that were met. -/
structure GuardScan extends GuardMetadata where
  seen : GuardKind → Bool := fun _ => false

/-- The guarded bytes lie in the address space of the guest. -/
def codeRangeFits (guard : Guard) : Bool :=
  !guard.bytes.isEmpty && guard.subject ≤ 0xFFFF#64 &&
    guard.bytes.length ≤ 0x10000 - guard.subject.toNat

/-- The guarded bytes lie where both cores map only ROM or BIOS. -/
def codeRangeIsLowRom (guard : Guard) : Bool :=
  !guard.bytes.isEmpty && guard.subject < 0x8000#64 &&
    guard.bytes.length ≤ 0x8000 - guard.subject.toNat

/-- One guard of a block of the given mapping generation; only the first of a kind counts. -/
def noteGuard (mappingGeneration : BitVec 64) (scan : GuardScan) (guard : Guard) : GuardScan :=
  match guard.kind with
  | .unknown _ => { scan with scalarValid := false }
  | .known kind =>
    if scan.seen kind then { scan with scalarValid := false }
    else
      let scan := { scan with seen := Function.update scan.seen kind true }
      match kind with
      | .mappingGeneration =>
        { scan with
          mapping := guard.expected
          scalarValid := scan.scalarValid && guard.expected == mappingGeneration }
      | .helperAbi => { scan with helperAbi := guard.expected }
      | .executionState =>
        { scan with stateMask := guard.mask, stateExpected := guard.expected &&& guard.mask }
      | .codeBytes =>
        { scan with
          codeGuard := some guard
          lowRomCode := codeRangeIsLowRom guard
          scalarValid := scan.scalarValid && codeRangeFits guard }

def scanGuards : GuardScan :=
  block.guards.foldl (noteGuard block.mappingGeneration) {}

def GuardScan.complete (scan : GuardScan) : Bool :=
  scan.seen .mappingGeneration && scan.seen .codeBytes && scan.seen .executionState &&
    scan.seen .helperAbi

def guardMetadata : GuardMetadata :=
  let scan := scanGuards block
  { scan.toGuardMetadata with scalarValid := scan.scalarValid && scan.complete }

/-! ### Bindings -/

structure BoundBlock extends GuardMetadata where
  code : CompiledBlock
  owner : Owner
  generation : BitVec 64
  canonical : Bool := false
  faulted : Bool := false

namespace BoundBlock

def make (code : CompiledBlock) (owner : Owner) (generation : BitVec 64) : BoundBlock :=
  { guardMetadata code.block with code := code, owner := owner, generation := generation }

variable (b : BoundBlock)

def hasLowRomCode : Bool := b.lowRomCode

def scalarGuardsMatch (mapping state helperAbi : BitVec 64) : Bool :=
  b.scalarValid && mapping == b.mapping && helperAbi == b.helperAbi &&
    state &&& b.stateMask == b.stateExpected

/-- The guarded bytes, one read at a time. -/
def peekMatches (peek : BitVec 16 → Option (BitVec 8)) (guard : Guard) : Bool :=
  guard.bytes.zipIdx.all fun i =>
    peek ((guard.subject + BitVec.ofNat 64 i.2).setWidth 16) == some i.1

/-- The code guard is the one the binding points to. -/
def guardsMatch (mapping state helperAbi : BitVec 64)
    (peek : BitVec 16 → Option (BitVec 8)) (checkBytes : Bool := true) : Bool :=
  if ¬ b.scalarGuardsMatch mapping state helperAbi then false
  else if ¬ checkBytes then true
  else b.codeGuard.all (peekMatches peek)

/-- The guarded bytes against a view of the whole range, or one at a time without one. -/
def viewMatches (peek : BitVec 16 → Option (BitVec 8)) (view : BitVec 16 → ℕ → List (BitVec 8))
    (guard : Guard) : Bool :=
  let bytes := view (guard.subject.setWidth 16) guard.bytes.length
  if bytes.length = guard.bytes.length then bytes == guard.bytes else peekMatches peek guard

def guardsMatchView (mapping state helperAbi : BitVec 64)
    (peek : BitVec 16 → Option (BitVec 8)) (view : BitVec 16 → ℕ → List (BitVec 8))
    (checkBytes : Bool := true) : Bool :=
  if ¬ b.scalarGuardsMatch mapping state helperAbi then false
  else if ¬ checkBytes then true
  else b.code.block.guards.all fun guard =>
    guard.kind != .known .codeBytes || viewMatches peek view guard

def matchesOwner (owner : Owner) (generation : BitVec 64) : Bool :=
  !b.faulted && b.owner == owner && b.generation == generation

def fault : BoundBlock := { b with faulted := true }

/-- Whether canonical validation may be reused. -/
def reusable (owner : Owner) (generation : BitVec 64) : Bool :=
  b.canonical && b.scalarValid && b.matchesOwner owner generation && b.hasLowRomCode

/-- The block is shared; only the live mapping of the binding changes. -/
def remap (owner : Owner) (generation mapping : BitVec 64) : Except String BoundBlock :=
  if ¬ b.reusable owner generation then .error "binding cannot reuse canonical validation"
  else .ok { b with mapping := mapping }

end BoundBlock

def Guard.remapped (mapping : BitVec 64) (guard : Guard) : Guard :=
  if guard.kind = .known .mappingGeneration then { guard with expected := mapping } else guard

def Block.remapped (mapping : BitVec 64) (block : Block) : Block :=
  { block with
    mappingGeneration := mapping
    guards := block.guards.map (Guard.remapped mapping) }

def BoundBlock.remapCopied (b : BoundBlock) (owner : Owner) (generation mapping : BitVec 64) :
    Except String BoundBlock :=
  if ¬ b.reusable owner generation then .error "binding cannot reuse canonical validation"
  else do
    let code ← CompiledBlock.make (b.code.block.remapped mapping) b.code.architectureId
    return { BoundBlock.make code owner generation with canonical := true }

/-! ### Binding -/

/-- The byte that the first code guard over an address expects there. -/
def guardedByte (guards : List Guard) (address : BitVec 64) : Option (BitVec 8) :=
  guards.findSome? fun guard =>
    if guard.kind = .known .codeBytes ∧ guard.subject ≤ address then
      guard.bytes[(address - guard.subject).toNat]?
    else none

def sourceInstruction (guards : List Guard) (i : GuestInstruction) :
    Except String SourceInstruction := do
  require (i.length != 0 && i.length ≤ 4#8) "whole-block source length invalid"
  let bytes ← (List.range i.length.toNat).mapM fun n =>
    match guardedByte guards (i.address + BitVec.ofNat 64 n) with
    | some byte => .ok byte
    | none => .error "whole-block source bytes missing"
  return ⟨i.address, bytes ++ List.replicate (4 - bytes.length) 0, i.length⟩

/-- The lowering of the core must give the instructions of the block again. -/
def requireCanonical (lowered : Option Block × String) : Except String Unit :=
  match lowered with
  | (none, error) => .error ("whole-block canonical lowering failed: " ++ error)
  | (some canonical, error) => do
    require (canonical.instructions.length == block.instructions.length
        && canonical.exit == block.exit)
      ("whole-block canonical lowering failed: " ++ error)
    require (block.instructions == canonical.instructions)
      "whole-block differs from canonical CPU lowering"

def requireValidated : Except Invalid Unit → Except String Unit
  | .ok () => .ok ()
  | .error invalid => .error ("whole-block validation failed: " ++ invalid.message)

def bindMachineBlock (code : CompiledBlock) (adapter : IrCoreAdapter) (owner : Owner)
    (generation mapping : BitVec 64) : Except String BoundBlock := do
  require (owner.isSome && code.architectureId == adapter.architectureId)
    "whole-block architecture mismatch"
  require (code.block.instructions.length ≤ kMaxInstructions)
    "whole-block instruction budget exceeded"
  let source ← code.block.instructions.mapM (sourceInstruction code.block.guards)
  let request : LoweringRequest := ⟨source, code.block.mappingGeneration, 0⟩
  requireValidated (adapter.validateLoweredBlock request code.block)
  requireCanonical code.block (adapter.lower request)
  return { BoundBlock.make code owner generation with mapping := mapping, canonical := true }

/-- The bindings a machine can hold: bound by a core, moved to another mapping, or faulted. -/
inductive BoundBlock.Reachable : BoundBlock → Prop
  | bind {code adapter owner generation mapping b} :
      bindMachineBlock code adapter owner generation mapping = .ok b → Reachable b
  | remap {b owner generation mapping b'} :
      Reachable b → b.remap owner generation mapping = .ok b' → Reachable b'
  | remapCopied {b owner generation mapping b'} :
      Reachable b → b.remapCopied owner generation mapping = .ok b' → Reachable b'
  | fault {b} : Reachable b → Reachable b.fault

end ProtoTime.IR.Plugin
