import ProtoTime.Modding.NativeMod
import ProtoTime.Host.MachineLifecycleCoordinator
import ProtoTime.Host.InputEngine
import ProtoTime.Host.SaveStateContainer

/-!
A machine whose processor and devices live in a module behind a table of callbacks. What changes
the whole of it is prepared by the module and by the native mods, and committed together with the
fields of the host inside a lifecycle transition.
-/
namespace ProtoTime.Emulator

open Host Input Modding Transaction

/-! ## The callbacks of the module -/

inductive Answer
  | threw
  | returned (value : BitVec 32)
  deriving DecidableEq

def Answer.accepted : Answer := .returned 1

inductive PrepareOperation
  | rom
  | bios
  | state
  deriving DecidableEq

structure TimeMachineRetirement where
  structSize : BitVec 32
  pcBefore : BitVec 32
  pcAfter : BitVec 32
  cycles : BitVec 32
  segmentBoundary : BitVec 32
  controlFlow : BitVec 32
  executionPath : BitVec 32
  machineBoundary : BitVec 32
  deriving DecidableEq

structure TimeMachineEvent where
  structSize : BitVec 32
  type : BitVec 32
  category : BitVec 32
  hasFeedback : BitVec 32
  step : BitVec 64
  address : BitVec 16
  value : BitVec 8
  feedback : TimeMachineRetirement
  message : List Byte
  deriving DecidableEq

/-- A transaction asked for: the token is the one left in the output, accepted or not. -/
structure PrepareReply (M T : Type) where
  answer : Answer
  token : Option T
  state : M

/-- An instruction: what it reports and the events it hands to the sink, a null pointer too. -/
structure StepReply (M : Type) where
  answer : Answer
  retired : TimeMachineRetirement
  events : List (Option TimeMachineEvent)
  state : M

structure CheckpointReply (M : Type) where
  answer : Answer
  bytes : List Byte
  size : BitVec 32
  state : M

/-- The table of a module with state `M` and transactions `T`. `commit` may be handed a null token;
the truth value of `commit` and `discard` says whether they returned. -/
structure TimeMachineRuntime (M T : Type) where
  prepare : M → PrepareOperation → List Byte → PrepareReply M T
  commit : M → Option T → Bool × M
  discard : M → T → Bool × M
  step : M → StepReply M
  input : M → BitVec 32 → Answer × M
  checkpoint : M → ℕ → CheckpointReply M

/-! ## The machine -/

structure MachineDescriptor where
  id : Text
  familyId : Text

structure CpuFeedback where
  segmentBoundaryHint : Bool := false
  isControlFlow : Bool := false
  pcBefore : BitVec 32 := 0
  pcAfter : BitVec 32 := 0
  retiredCycles : BitVec 32 := 0
  executionPath : BitVec 32 := 0
  deriving DecidableEq

inductive TokenEvent (T : Type)
  | prepared (token : T)
  | committed (token : Option T)
  | discarded (token : T)

/-- The host's side of the machine with the state of its module. `pending` is the token held by the
preparation under way; `ledger`, which the source does not have, lists the calls about
transactions, newest first. -/
structure ForeignMachine (I M T : Type) where
  descriptor : MachineDescriptor
  runtime : M
  world : World I
  lifecycle : MachineLifecycleCoordinator
  inputEngine : InputEngine
  observationGeneration : BitVec 64
  rom : List Byte
  binding : Text
  feedback : CpuFeedback
  fault : Bool
  events : List TimeMachineEvent
  eventFault : Bool
  machineBoundary : Bool
  inputMask : BitVec 32
  pending : Option T
  ledger : List (TokenEvent T)

def stateBudget : ℕ := 32 * 1024 * 1024

variable {I M T α : Type}

namespace ForeignMachine

def create (descriptor : MachineDescriptor) (runtime : M) (world : World I)
    (lifecycle : MachineLifecycleCoordinator) (inputEngine : InputEngine) :
    ForeignMachine I M T where
  descriptor := descriptor
  runtime := runtime
  world := world
  lifecycle := lifecycle
  inputEngine := inputEngine
  observationGeneration := 0
  rom := []
  binding := []
  feedback := {}
  fault := false
  events := []
  eventFault := false
  machineBoundary := false
  inputMask := 0
  pending := none
  ledger := []

/-- A callback, which is not made once the machine is faulted. -/
def call (f : ForeignMachine I M T → Answer × α × ForeignMachine I M T) :
    Action (ForeignMachine I M T) String α := fun m =>
  if m.fault then (.error "foreign machine is faulted", m)
  else
    (match (f m).1 with
      | .threw => .error "foreign callback threw across C ABI"
      | .returned value =>
        if value = 1 then .ok (f m).2.1 else .error "foreign callback rejected operation",
      (f m).2.2)

/-! ## Retirement -/

/-- The sizes of the structures of the table. -/
def sizeofRetirement : BitVec 32 := 32

def sizeofEvent : BitVec 32 := 160

def eventCapacity : ℕ := 256

def validFeedback (f : TimeMachineRetirement) : Bool :=
  f.structSize == sizeofRetirement && f.pcBefore ≤ 65535 && f.pcAfter ≤ 65535
    && f.segmentBoundary ≤ 1 && f.controlFlow ≤ 1 && f.executionPath ≤ 5

def validEvent (e : TimeMachineEvent) : Bool :=
  e.structSize == sizeofEvent && e.type ≤ 19 && e.category ≤ 7 && e.hasFeedback ≤ 1
    && (e.message.take 96).contains 0 && (e.hasFeedback == 0 || validFeedback e.feedback)

variable (m : ForeignMachine I M T)

/-- The sink of the events of one retirement. -/
def recordEvent : Option TimeMachineEvent → ForeignMachine I M T
  | none => { m with eventFault := true }
  | some e =>
    if validEvent e && m.events.length != eventCapacity then { m with events := m.events ++ [e] }
    else { m with eventFault := true }

def validRetirement (r : TimeMachineRetirement) : Bool :=
  r.structSize == sizeofRetirement && r.cycles != 0 && r.pcBefore ≤ 65535 && r.pcAfter ≤ 65535
    && r.segmentBoundary ≤ 1 && r.controlFlow ≤ 1 && r.executionPath ≤ 5
    && r.machineBoundary ≤ 1

variable (api : TimeMachineRuntime M T)

/-- The callback for one instruction, with the events it hands over. -/
def stepCallback (m : ForeignMachine I M T) :
    Answer × TimeMachineRetirement × ForeignMachine I M T :=
  let reply := api.step m.runtime
  (reply.answer, reply.retired,
    reply.events.foldl recordEvent { m with runtime := reply.state })

def feedbackOf (r : TimeMachineRetirement) : CpuFeedback where
  segmentBoundaryHint := r.segmentBoundary != 0
  isControlFlow := r.controlFlow != 0
  pcBefore := r.pcBefore
  pcAfter := r.pcAfter
  retiredCycles := r.cycles
  executionPath := r.executionPath

/-- One instruction. A machine on which it fails is faulted from then on. -/
def retire : Action (ForeignMachine I M T) String CpuFeedback :=
  fun m =>
    match exec (call (stepCallback api)) { m with events := [], eventFault := false } with
    | (.error e, m) => (.error e, { m with fault := true })
    | (.ok retired, m) =>
      if m.eventFault || !validRetirement retired then
        (.error "invalid foreign retirement or exhausted event handoff", { m with fault := true })
      else
        (.ok (feedbackOf retired),
          { m with
            feedback := feedbackOf retired
            machineBoundary := retired.machineBoundary != 0 })

/-! ## Slices -/

structure ExecutionBudget where
  maxInstructions : ℕ := 1
  maxCycles : ℕ := 2 ^ 64 - 1
  stopOnSegmentBoundary : Bool := true

inductive ExecutionSliceExitReason
  | instructionBudget
  | cycleBudget
  | segmentBoundary
  | retirementRequested
  | machineBoundary
  deriving DecidableEq

structure ExecutionSliceResult where
  retiredInstructions : ℕ := 0
  retiredCycles : ℕ := 0
  lastFeedback : CpuFeedback := {}
  exitReason : ExecutionSliceExitReason := .instructionBudget

/-- An observer of the retired instructions; it gives a reason where it ends the slice. -/
abbrev InstructionRetirementSink :=
  CpuFeedback → ℕ → ℕ → Option ExecutionSliceExitReason

/-- The machine's own decision comes before the observer's. -/
def retirementDecision (observer : InstructionRetirementSink)
    (r : ExecutionSliceResult) : Option ExecutionSliceExitReason :=
  if m.machineBoundary then some .machineBoundary
  else observer r.lastFeedback r.retiredInstructions r.retiredCycles

def sliceLoop (api : TimeMachineRuntime M T) (budget : ExecutionBudget)
    (observer : InstructionRetirementSink) (r : ExecutionSliceResult) :
    ℕ → Action (ForeignMachine I M T) String ExecutionSliceResult
  | 0 => pure { r with exitReason := .instructionBudget }
  | remaining + 1 => fun m =>
    match exec (retire api) m with
    | (.error e, m) => (.error e, m)
    | (.ok feedback, m) =>
      let r := { r with
        lastFeedback := feedback
        retiredInstructions := r.retiredInstructions + 1
        retiredCycles := min (r.retiredCycles + feedback.retiredCycles.toNat) (2 ^ 64 - 1) }
      match m.retirementDecision observer r with
      | some reason => (.ok { r with exitReason := reason }, m)
      | none =>
        if budget.stopOnSegmentBoundary && feedback.segmentBoundaryHint then
          (.ok { r with exitReason := .segmentBoundary }, m)
        else if budget.maxCycles ≤ r.retiredCycles then
          (.ok { r with exitReason := .cycleBudget }, m)
        else sliceLoop api budget observer r remaining m

def inputCallback (mask : BitVec 32) (m : ForeignMachine I M T) :
    Answer × Unit × ForeignMachine I M T :=
  let reply := api.input m.runtime mask
  (reply.1, (), { m with runtime := reply.2 })

/-- The committed mask, one byte wide, or else the last one that was used. -/
def nextMask : BitVec 32 :=
  match m.inputEngine.committedDigitalMask with
  | some mask => mask.setWidth 32
  | none => m.inputMask

/-- The module is given the mask before the host takes it over. -/
def passInput : Action (ForeignMachine I M T) String Unit := do
  let m ← get
  call (inputCallback api m.nextMask)
  modify fun after => { after with inputMask := m.nextMask }

def serviceInput (sample : AdapterSample) :
    Action (ForeignMachine I M T) String Unit := do
  modify fun m =>
    { m with inputEngine := (m.inputEngine.pollActiveAdapter m.observationGeneration sample).1 }
  passInput api

def runSlice (budget : ExecutionBudget)
    (observer : InstructionRetirementSink) :
    Action (ForeignMachine I M T) String ExecutionSliceResult :=
  if budget.maxInstructions = 0 then pure { exitReason := .instructionBudget }
  else if budget.maxCycles = 0 then pure { exitReason := .cycleBudget }
  else do
    passInput api
    sliceLoop api budget observer {} budget.maxInstructions

/-! ## Transactions of the module -/

/-- The end of a preparation: a token that is still held is discarded. -/
def cleanup (m : ForeignMachine I M T) : ForeignMachine I M T :=
  match m.pending with
  | none => m
  | some token =>
    let reply := api.discard m.runtime token
    { m with
      runtime := reply.2
      fault := m.fault || !reply.1
      pending := none
      ledger := .discarded token :: m.ledger }

def prepareCallback (operation : PrepareOperation)
    (bytes : List Byte) (m : ForeignMachine I M T) : Answer × Unit × ForeignMachine I M T :=
  let reply := api.prepare m.runtime operation bytes
  (reply.answer, (),
    { m with
      runtime := reply.state
      pending := reply.token
      ledger := (reply.token.map TokenEvent.prepared).toList ++ m.ledger })

/-- A token left behind by a preparation that was not accepted is discarded too. -/
def prepare (operation : PrepareOperation) (bytes : List Byte) :
    Action (ForeignMachine I M T) String Unit := fun m =>
  if bytes.isEmpty || stateBudget < bytes.length then
    (.error "foreign transition byte budget", m)
  else
    match exec (call (prepareCallback api operation bytes)) m with
    | (.error e, m) => (.error e, cleanup api m)
    | (.ok (), m) =>
      if m.pending.isNone then (.error "foreign transition returned no transaction", m)
      else (.ok (), m)

/-- The token is given up before it is committed. -/
def commitPending : Action (ForeignMachine I M T) String Unit :=
  fun m =>
    let reply := api.commit m.runtime m.pending
    let after := { m with
      runtime := reply.2
      pending := none
      ledger := .committed m.pending :: m.ledger }
    if reply.1 then (.ok (), after)
    else (.error "foreign commit violated nonthrowing contract", { after with fault := true })

/-- What is done while a preparation is held. -/
def withPrepared (operation : PrepareOperation)
    (bytes : List Byte) (body : Action (ForeignMachine I M T) String α) :
    Action (ForeignMachine I M T) String α := fun m =>
  match exec (prepare api operation bytes) m with
  | (.error e, m) => (.error e, m)
  | (.ok (), m) => ((exec body m).1, cleanup api (exec body m).2)

/-! ## Lifecycle transitions -/

def afterCalls
    (mutation : Action (ForeignMachine I M T) String MachineTransitionMutationResult)
    (m : ForeignMachine I M T) (calls : ℕ) : ForeignMachine I M T :=
  (fun m => (exec mutation m).2)^[calls] m

/-- A mutation of the machine as the coordinator sees it: it leaves the lanes alone. -/
def laneMutation
    (mutation : Action (ForeignMachine I M T) String MachineTransitionMutationResult)
    (m : ForeignMachine I M T) : TransitionMutation where
  call attempt s := ⟨s, [], (exec mutation (afterCalls mutation m attempt)).1.toOption⟩
  scopesKept _ _ := rfl

/-- The mutation is called as often as the coordinator decides; what it throws is thrown on. -/
def runTransition (reason : MachineTransitionReason)
    (mutation : Action (ForeignMachine I M T) String MachineTransitionMutationResult) :
    Action (ForeignMachine I M T) String Bool := fun m =>
  let ended := m.lifecycle.runTransition reason (some (laneMutation mutation m))
  let after := { afterCalls mutation m ended.calls with lifecycle := ended.coordinator }
  match ended.returned with
  | some done => (.ok done, after)
  | none =>
    ((exec mutation (afterCalls mutation m (ended.calls - 1))).1.map
      MachineTransitionMutationResult.success, after)

def onWorld (x : Action (World I) String α) : Action (ForeignMachine I M T) String α := fun m =>
  ((exec x m.world).1, { m with world := (exec x m.world).2 })

/-! ## Loading -/

def loadExternalBootRom (bytes : List Byte) :
    Action (ForeignMachine I M T) String Unit := do
  let m ← get
  require (m.rom.isEmpty && decide (bytes.length ≤ 32768)) "foreign BIOS is construction-only"
  withPrepared api .bios bytes (commitPending api)

def name (text : String) : List Byte := text.toList.map fun c => BitVec.ofNat 8 c.toNat

/-- A digit of the hexadecimal digest. -/
def hexDigit (nibble : ℕ) : Byte := (name "0123456789abcdef").getD nibble 0

def romDigest (F : Files) (bytes : List Byte) : Text :=
  (F.sha256 bytes).val.flatMap fun b => [hexDigit (b.toNat / 16), hexDigit (b.toNat % 16)]

/-- What a checkpoint is bound to: the provider and the ROM. -/
def bindingOf (F : Files) (descriptor : MachineDescriptor) (bytes : List Byte) : Text :=
  descriptor.id ++ name "\n" ++ descriptor.familyId ++ name "\n2\n" ++ romDigest F bytes

/-- The fields of the host after a change of the whole machine: a new generation of input, which
starts with the given mask. -/
def published (mask : BitVec 8) : ForeignMachine I M T :=
  { m with
    observationGeneration := m.observationGeneration + 1
    inputEngine := (m.inputEngine.advanceGeneration (m.observationGeneration + 1)
      ).publishDigitalSnapshot mask (m.observationGeneration + 1)
    inputMask := mask.setWidth 32
    feedback := {}
    events := [] }

/-- The mutation of a transition: the native mods, then the module, then the host. -/
def publication (F : Files) (native : PreparedCohort I)
    (host : ForeignMachine I M T → ForeignMachine I M T) :
    Action (ForeignMachine I M T) String MachineTransitionMutationResult := do
  onWorld (commit F native)
  commitPending api
  modify host
  return {}

def romPublished (bytes : List Byte) (binding : Text) (m : ForeignMachine I M T) :
    ForeignMachine I M T :=
  { m with
    world := { m.world with host := m.world.host.reset }
    rom := bytes
    binding := binding }.published 0

def loadRom (F : Files) (library : Library I) (bytes : List Byte) :
    Action (ForeignMachine I M T) String Unit := do
  require (!bytes.isEmpty && decide (bytes.length ≤ stateBudget)) "foreign ROM budget"
  let m ← get
  let native ← onWorld (prepareReset F library)
  withPrepared api .rom bytes do
    let done ← runTransition .romLoad
      (publication api F native (romPublished bytes (bindingOf F m.descriptor bytes)))
    require done "foreign ROM lifecycle transition failed"

/-! ## Saving and restoring -/

def kCoreIdGameBoy : BitVec 32 := 1

def kCoreIdGameGear : BitVec 32 := 2

def coreId (d : MachineDescriptor) : BitVec 32 :=
  if d.familyId = name "gameboy" then kCoreIdGameBoy else kCoreIdGameGear

def checkpointCallback (capacity : ℕ) (m : ForeignMachine I M T) :
    Answer × (List Byte × BitVec 32) × ForeignMachine I M T :=
  let reply := api.checkpoint m.runtime capacity
  (reply.answer, (fill capacity reply.bytes, reply.size), { m with runtime := reply.state })

def chunkOf (label : String) (data : List Byte) : SaveState.SaveStateChunk :=
  ⟨name label, BitVec.ofNat 32 data.length, data⟩

/-- The five chunks; of the input mask one byte is written. -/
def savedFile (state regions modules : List Byte) :
    SaveState.SaveStateFile where
  header :=
    { magic := SaveState.kSaveStateMagic
      version := SaveState.kSaveStateVersion
      coreId := coreId m.descriptor
      romHash := GameBoy.crc32 m.rom
      checksum := .crc32
      chunkCount := 5 }
  chunks :=
    [chunkOf "foreign.binding" m.binding, chunkOf "foreign.state" state,
      chunkOf "foreign.input" [m.inputMask.setWidth 8], chunkOf "time.host-regions" regions,
      chunkOf "time.native-mods" modules]
  checksum := 0

/-- The contents of the file that is written. -/
def saveState (F : Files) :
    Action (ForeignMachine I M T) String (List Byte) := do
  let m ← get
  require (!m.rom.isEmpty) "foreign save before ROM"
  let queried ← call (checkpointCallback api 0)
  require (queried.2 != 0 && decide (queried.2.toNat ≤ stateBudget)) "foreign checkpoint budget"
  let copied ← call (checkpointCallback api queried.2.toNat)
  require (copied.2 == queried.2) "unstable foreign checkpoint copy"
  let regions ← fromExcept m.world.host.exportState
  let modules ← onWorld (saveCohort F)
  fromExcept (SaveState.write (m.savedFile copied.1 regions modules))

def readForCore (file : List Byte) (expectedCoreId : BitVec 32) (expectedRomBytes : List Byte) :
    Except String SaveState.SaveStateFile := do
  guardWith (expectedCoreId != 0) "expected core id must be set"
  let state ← SaveState.read file
  guardWith (state.header.coreId == expectedCoreId)
    "save state is not compatible with this machine"
  guardWith (state.header.romHash == 0 || GameBoy.crc32 expectedRomBytes == state.header.romHash)
    "save state ROM identity does not match the loaded ROM"
  return state

def chunk (file : SaveState.SaveStateFile) (label : String) : Except String (List Byte) :=
  match file.chunks.filter (·.name == name label) with
  | [] => .error "missing foreign chunk"
  | [found] => .ok found.data
  | _ => .error "duplicate foreign chunk"

def loadState (F : Files) (library : Library I)
    (file : List Byte) : Action (ForeignMachine I M T) String Unit := do
  let m ← get
  require (!m.rom.isEmpty && decide (file.length ≤ 2 * stateBudget))
    "foreign restore budget or unloaded ROM"
  let state ← fromExcept (readForCore file (coreId m.descriptor) m.rom)
  require (state.chunks.length == 5) "foreign checkpoint chunk count"
  let binding ← fromExcept (chunk state "foreign.binding")
  require (binding == m.binding) "foreign checkpoint provider/ROM mismatch"
  let input ← fromExcept (chunk state "foreign.input")
  require (input.length == 1) "foreign checkpoint input state"
  let modules ← fromExcept (chunk state "time.native-mods")
  let regions ← fromExcept (chunk state "time.host-regions")
  let native ← onWorld (prepareCohort F library (some modules) (some regions))
  let saved ← fromExcept (chunk state "foreign.state")
  withPrepared api .state saved do
    let done ← runTransition .configReconfigure
      (publication api F native fun m => m.published (input.headD 0))
    require done "foreign restore lifecycle failed"

end ForeignMachine

end ProtoTime.Emulator
