import ProtoTime.GameBoy.Board
import ProtoTime.GameBoy.Fetch
import ProtoTime.GameBoy.IrExecution

/-!
The processor with its translated blocks: recording a block after a fast
instruction, dispatching recorded bytes or lowered instructions, and the session
that runs a lowered block across the steps of one slice.
-/
namespace ProtoTime.GameBoy

open IR IRExecution

/-- The lowered block a slice is in, and the instruction it runs next. -/
structure PortableIrBlockSession where
  block : ℕ
  nextInstructionIndex : ℕ
  mappingGeneration : ℕ
  deriving DecidableEq

/-- The bank and sprite fields are saved and restored only. -/
structure LR3592 where
  core : Core Board
  portableIrEnabled : Bool
  portableIrExecutionSliceActive : Bool
  portableIrBlockSession : Option PortableIrBlockSession
  currentVramBank : ℕ
  spriteContext : ℕ
  bankSwitchingEnabled : Bool

def kMaxInstructions : ℕ := 16

def kMaxBytes : ℕ := 48

namespace Core

/-- What keeps the processor from an ordinary instruction, as bits. -/
def irExecutionState {σ : Type} [CpuBus σ] (c : Core σ) : ℕ :=
  (if c.stopFlag ∨ c.illegalOpcodeLockup then kStop else 0) |||
    (if c.haltFlag then kHalt else 0) |||
    (if c.dmaRestricted then kDmaRestricted else 0) |||
    (if c.ime ∧ c.pendingInterrupts ≠ 0 then kInterruptPending else 0) |||
    (if c.haltBugPcAdjustPending then kHaltBugPending else 0) |||
    (if c.pendingCycleCharge ≠ 0 then kPendingCycleCharge else 0)

/-- An instruction after the first of a block, read from memory; it may not wrap. -/
def recordNext {σ : Type} [CpuBus σ] (c : Core σ) (address : Addr) : Option TranslatedInstruction :=
  match opcodeTable (c.read8 address) with
  | none => none
  | some family =>
    if address.toNat + family.length - 1 > 0xFFFF then none
    else some ⟨address, (List.range family.length).map fun i => c.read8 (address + BitVec.ofNat 16 i)⟩

/-- Control flow, `STOP`, `HALT`, `DI` and `EI` end a block. -/
def endsBlock (opcode : Byte) : Bool :=
  isControlFlowOpcode opcode || opcode ∈ [0x10#8, 0x76#8, 0xF3#8, 0xFB#8]

/-- The instructions recorded from `instruction` on, inside the page of the block's start. -/
def recordBlock {σ : Type} [CpuBus σ] (c : Core σ) (start : Addr) :
    ℕ → ℕ → TranslatedInstruction → List TranslatedInstruction
  | 0, _, _ => []
  | fuel + 1, byteCount, instruction =>
    let opcode := instruction.bytes.getD 0 0
    let length := instruction.bytes.length
    if byteCount ≥ kMaxBytes ∨ length = 0 ∨ ¬ supportsFastOpcode opcode then []
    else
      let next := instruction.address.toNat + length
      if endsBlock opcode ∨ next > 0xFFFF ∨ next / 256 ≠ start.toNat / 256 then [instruction]
      else
        match c.recordNext (BitVec.ofNat 16 next) with
        | none => [instruction]
        | some following =>
          instruction :: recordBlock c start fuel (byteCount + length) following

def addressesOf (instruction : TranslatedInstruction) : List Addr :=
  (List.range instruction.bytes.length).map fun i => instruction.address + BitVec.ofNat 16 i

variable (c : Core Board)

def irBlockEligible (instructions : List TranslatedInstruction) : Bool :=
  !instructions.isEmpty && (instructions.flatMap addressesOf).all fun address =>
    (c.bus.memoryMap.peekExecutableByte address).isSome

def lastAddress (instructions : List TranslatedInstruction) : Addr :=
  match instructions.getLast? with
  | none => 0
  | some instruction => instruction.address + BitVec.ofNat 16 instruction.bytes.length - 1

def withBlockCache (f : ThreadedBlockCache → ThreadedBlockCache) : Core Board :=
  { c with bus := { c.bus with blockCache := f c.bus.blockCache } }

/-- The block recorded from a fetched instruction, lowered where its bytes are executable ones. -/
def recordedBlock (portableIrEnabled : Bool) (f : FetchBlock) : TranslatedBlockEntry :=
  let instructions := c.recordBlock f.baseAddress kMaxInstructions 0 ⟨f.baseAddress, f.data.take 3⟩
  { start := f.baseAddress
    last := lastAddress instructions
    instructions := instructions
    intermediateRepresentation :=
      if portableIrEnabled && c.irBlockEligible instructions then
        lower ⟨instructions, c.bus.blockCache.mappingGeneration, c.irExecutionState⟩
      else none }

def populateBlockCache (portableIrEnabled : Bool) (f : FetchBlock) : Core Board :=
  if ¬ c.bus.blockCacheEnabled ∨ f.data.isEmpty then c
  else c.withBlockCache (·.insert (c.recordedBlock portableIrEnabled f))

def irGuardFailure (block : Block) : GuardFailure :=
  validateGuards block
    { mappingGeneration := c.bus.blockCache.mappingGeneration
      executionState := c.irExecutionState
      peekCodeByte := c.bus.memoryMap.peekExecutableByte }

/-- A lowered instruction outside a slice; a failed guard drops the block. -/
def tryExecutePortableIr (block : Block) (pcAddress : Addr)
    (instructionIndex : ℕ) : Except String (Core Board × Bool) :=
  if c.irGuardFailure block ≠ .none then
    .ok (c.withBlockCache (·.invalidate pcAddress), false)
  else
    match c.executePortableIrInstruction block pcAddress instructionIndex with
    | .error message => .error message
    | .ok none => .ok (c, false)
    | .ok (some c) => .ok (c, true)

def executeRecorded (lookup : BlockLookup) : Core Board × Bool :=
  let instruction := lookup.entry.instructions.getD lookup.slot.instructionIndex ⟨0, []⟩
  match c.tryFastExecuteBytes instruction.bytes with
  | some c => (c, true)
  | none => (c.withBlockCache (·.invalidate c.pc), false)

/-- Interrupt entry, HALT and the HALT bug are left to the fetch. -/
def dispatchBlocked : Bool :=
  c.stopFlag || c.illegalOpcodeLockup || c.haltBugPcAdjustPending || c.pendingCycleCharge != 0 ||
    c.dmaRestricted || c.haltFlag || (c.ime && c.pendingInterrupts != 0)

def isValidBlock (block : ℕ) : Bool :=
  ((c.bus.blockCache.blocks[block]?).map (·.valid)).getD false

end Core

namespace LR3592

open Core

variable (p : LR3592)

def withCore (core : Core Board) : LR3592 := { p with core := core }

def tryExecuteTranslatedBlock : Except String (LR3592 × Bool) :=
  if ¬ p.core.bus.blockCacheEnabled ∨ p.core.dispatchBlocked then .ok (p, false)
  else
    match p.core.bus.blockCache.lookup p.core.pc with
    | none => .ok (p, false)
    | some lookup =>
      match lookup.entry.intermediateRepresentation with
      | none => .ok (p.withCore (p.core.executeRecorded lookup).1, (p.core.executeRecorded lookup).2)
      | some block =>
        if ¬ p.portableIrEnabled ∨ p.portableIrExecutionSliceActive then
          .ok (p.withCore (p.core.executeRecorded lookup).1, (p.core.executeRecorded lookup).2)
        else
          match p.core.tryExecutePortableIr block p.core.pc lookup.slot.instructionIndex with
          | .error message => .error message
          | .ok (core, true) => .ok (p.withCore core, true)
          | .ok (core, false) =>
            if ¬ core.isValidBlock lookup.slot.block then .ok (p.withCore core, false)
            else .ok (p.withCore (core.executeRecorded lookup).1, (core.executeRecorded lookup).2)

def resetPortableIrBlockSession : LR3592 := { p with portableIrBlockSession := none }

def beginPortableIrExecutionSlice : LR3592 :=
  { p.resetPortableIrBlockSession with portableIrExecutionSliceActive := true }

def endPortableIrExecutionSlice : LR3592 :=
  { p.resetPortableIrBlockSession with portableIrExecutionSliceActive := false }

def continuedBlock (session : PortableIrBlockSession) : Option Block :=
  match p.core.bus.blockCache.blocks[session.block]? with
  | none => none
  | some entry =>
    match entry.intermediateRepresentation with
    | none => none
    | some block =>
      if entry.valid ∧ session.mappingGeneration = p.core.bus.blockCache.mappingGeneration ∧
          entry.mappingGeneration = session.mappingGeneration ∧
          validateContinuationGuards block p.core.bus.blockCache.mappingGeneration
            p.core.irExecutionState = .none ∧
          ((block.instructions[session.nextInstructionIndex]?).map (·.address)) =
            some p.core.pc.toNat then
        some block
      else none

/-- Runs the session's instruction and moves or ends the session. -/
def executeSession (session : PortableIrBlockSession) (block : Block) :
    Except String (LR3592 × Bool) :=
  match p.core.executePortableIrInstruction block p.core.pc session.nextInstructionIndex with
  | .error message => .error message
  | .ok none => .ok (p.resetPortableIrBlockSession, false)
  | .ok (some core) =>
    let nextIndex := session.nextInstructionIndex + 1
    let next :=
      if core.feedback.segmentBoundaryHint ∨ nextIndex ≥ block.instructions.length then none
      else some { session with nextInstructionIndex := nextIndex }
    .ok ({ p with core := core, portableIrBlockSession := next }, true)

/-- Entering a block checks every guard. A guard on the execution state leaves the block alone. -/
def enterBlock : Except String (LR3592 × Bool) :=
  match p.core.bus.blockCache.lookup p.core.pc with
  | none => .ok (p, false)
  | some lookup =>
    match lookup.entry.intermediateRepresentation with
    | none => .ok (p, false)
    | some block =>
      match p.core.irGuardFailure block with
      | .executionState => .ok (p, false)
      | .none =>
        if ((block.instructions[lookup.slot.instructionIndex]?).map (·.address)) ≠
            some p.core.pc.toNat then .ok (p, false)
        else
          p.executeSession
            { block := lookup.slot.block
              nextInstructionIndex := lookup.slot.instructionIndex
              mappingGeneration := p.core.bus.blockCache.mappingGeneration } block
      | _ => .ok (p.withCore (p.core.withBlockCache (·.invalidate p.core.pc)), false)

def tryExecutePortableIrBlockInstruction : Except String (LR3592 × Bool) :=
  if ¬ p.portableIrEnabled ∨ ¬ p.core.bus.blockCacheEnabled then
    .ok (p.resetPortableIrBlockSession, false)
  else
    match p.portableIrBlockSession with
    | none => p.enterBlock
    | some session =>
      match p.continuedBlock session with
      | none => .ok (p.resetPortableIrBlockSession, false)
      | some block => p.executeSession session block

/-- Fetch, execution and, after a fast instruction, recording. -/
def stepFetching (fastExecutionAllowed : Bool) (p : LR3592) : Except String LR3592 :=
  let fetched := p.core.fetchInto
  match fetched.1.stepFetched fastExecutionAllowed fetched.2 with
  | .error message => .error message
  | .ok core =>
    if fastExecutionAllowed ∧ core.feedback.executionPath = .cpuOptimizedFastPath then
      .ok (p.withCore (core.populateBlockCache p.portableIrEnabled fetched.2))
    else .ok (p.withCore core)

/-- One step of the runtime context. -/
def step (fastExecutionAllowed : Bool) (p : LR3592) : Except String LR3592 :=
  if fastExecutionAllowed then
    match p.tryExecuteTranslatedBlock with
    | .error message => .error message
    | .ok (p, true) => .ok p
    | .ok (p, false) => p.stepFetching fastExecutionAllowed
  else p.stepFetching fastExecutionAllowed

def setBlockCacheEnabled (enabled : Bool) : LR3592 :=
  if p.core.bus.blockCacheEnabled = enabled then p
  else
    let bus := { p.core.bus with
      blockCacheEnabled := enabled
      blockCache := if enabled then p.core.bus.blockCache else p.core.bus.blockCache.clear }
    p.resetPortableIrBlockSession.withCore { p.core with bus := bus }

def setPortableIrEnabled (enabled : Bool) : LR3592 :=
  if p.portableIrEnabled = enabled then p
  else
    { p.resetPortableIrBlockSession with
      portableIrEnabled := enabled
      core := p.core.withBlockCache (·.invalidateAll) }

end LR3592

end ProtoTime.GameBoy
