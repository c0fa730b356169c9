import Mathlib.Data.List.OfFn
import ProtoTime.Debug.DebugEngine
import ProtoTime.Results

/-!
The debugger service of a machine: its commands, its execution loop, and the two lanes that
share its request and reply queues.
-/
namespace ProtoTime.Debug

open Results

inductive State
  | detached
  | paused
  | running
  | faulted
  deriving DecidableEq

inductive Reason
  | entry
  | pause
  | step
  | breakpoint
  | watchpoint
  | generation
  | fault
  deriving DecidableEq

inductive Operation
  | inspect
  | continue
  | pause
  | step
  | rules
  | edit
  | disconnect
  deriving DecidableEq

inductive Error
  | none
  | detached
  | running
  | stale
  | invalid
  | unsupported
  | fault
  deriving DecidableEq

structure ByteEdit where
  address : Address
  value : Byte
  deriving DecidableEq

structure Command where
  id : BitVec 32
  operation : Operation
  generation : BitVec 64
  pauseId : BitVec 64
  steps : BitVec 64
  address : Address
  length : BitVec 16
  breaks : Fin 64 → Breakpoint
  watches : Fin 64 → Watchpoint
  breakCount : BitVec 16
  watchCount : BitVec 16
  editRegisters : Bool
  registers : Registers
  bytes : Fin 64 → ByteEdit
  byteCount : BitVec 16

def Command.edits (c : Command) : List ByteEdit := (List.ofFn c.bytes).take c.byteCount.toNat

def Command.breakList (c : Command) : List Breakpoint :=
  (List.ofFn c.breaks).take c.breakCount.toNat

def Command.watchList (c : Command) : List Watchpoint :=
  (List.ofFn c.watches).take c.watchCount.toNat

structure Reply where
  id : BitVec 32
  error : Error
  state : State
  reason : Reason
  generation : BitVec 64
  pauseId : BitVec 64
  lost : ℕ
  codeBacking : BitVec 64
  rejectedActions : ℕ
  requestOverflow : ℕ
  registers : Registers
  memory : List Byte

def kQueueCapacity : ℕ := 32

structure DebugService (M : Type) where
  machine : M
  engine : DebugEngine
  scriptHooks : ScriptHookEngine
  requests : List Command
  replies : List Reply
  pendingReply : Option Reply
  state : State
  reason : Reason
  generation : BitVec 64
  pauseId : BitVec 64
  remainingSteps : BitVec 64
  skipBreakpoint : Bool
  connected : Bool
  rejectedActions : ℕ
  requestOverflow : ℕ

variable {M : Type}

namespace DebugService

variable (D : DebugMachine M)

def create (machine : M) (recording : Bool) : DebugService M where
  machine := machine
  engine := (DebugEngine.mk [] [] 0 false recording 0 0).boundary (D.observationGeneration machine)
  scriptHooks := ⟨[], 0, 0, 0, 0⟩
  requests := []
  replies := []
  pendingReply := none
  state := .paused
  reason := .entry
  generation := D.observationGeneration machine
  pauseId := 1
  remainingSteps := 0
  skipBreakpoint := false
  connected := true
  rejectedActions := 0
  requestOverflow := 0

variable (s : DebugService M)

def stop (reason : Reason) : DebugService M :=
  { s with state := .paused, reason := reason, pauseId := s.pauseId + 1, remainingSteps := 0 }

/-- A new generation of the machine pauses, whatever the state was. -/
def synchronize (s : DebugService M) : DebugService M :=
  if s.generation = D.observationGeneration s.machine then s
  else
    { ({ s with
        generation := D.observationGeneration s.machine
        engine := s.engine.boundary (D.observationGeneration s.machine)
        scriptHooks := s.scriptHooks.invalidate (D.observationGeneration s.machine) }.stop
          .generation) with skipBreakpoint := false }

def snapshot (s : DebugService M) (id : BitVec 32) : Reply where
  id := id
  error := .none
  state := s.state
  reason := s.reason
  generation := s.generation
  pauseId := s.pauseId
  lost := s.engine.lost
  codeBacking := D.debugBacking s.machine (D.debugRegisters s.machine 5)
  rejectedActions := s.rejectedActions
  requestOverflow := s.requestOverflow
  registers := D.debugRegisters s.machine
  memory := []

/-! ## Commands -/

def resume (c : Command) : Except Error (DebugService M) := do
  require (s.state == .paused) .running
  require (c.operation != .step || (c.steps != 0 && decide (c.steps.toNat ≤ 10000000))) .invalid
  return { s with
    remainingSteps := if c.operation = .step then c.steps else 0
    skipBreakpoint := s.reason == .breakpoint
    state := .running }

def isPort : Access → Bool
  | .portRead | .portWrite => true
  | .read | .write => false

def setRules (s : DebugService M) (c : Command) :
    Except Error (DebugService M) := do
  require (s.state == .paused) .running
  require (decide (c.breakCount.toNat ≤ 64) && decide (c.watchCount.toNat ≤ 64)) .invalid
  require (c.watchList.all fun w => decide (w.first ≤ w.last)) .invalid
  require (c.watchList.all fun w => D.debugPortBus || !isPort w.access) .unsupported
  return { s with engine := s.engine.rules c.breakList c.watchList }

def commitEdit (machine : M) (c : Command) : M :=
  let written := c.edits.foldl (fun m e => D.debugCommitByte m e.address e.value) machine
  if c.editRegisters then D.debugCommitRegisters written c.registers else written

/-- All validation precedes the first write. -/
def edit (s : DebugService M) (c : Command) :
    Except Error (DebugService M) := do
  require (s.state == .paused) .running
  require (decide (c.byteCount.toNat ≤ 64)
    && (!c.editRegisters || D.debugValidateRegisters c.registers)) .invalid
  require (c.edits.all fun e => D.debugWritable s.machine e.address) .unsupported
  return if c.byteCount ≠ 0 ∨ c.editRegisters = true then
      synchronize D { s with machine := D.debugEdited (commitEdit D s.machine c) }
    else s

def inspect (s : DebugService M) (c : Command) : Except Error (List Byte) := do
  require (s.state == .paused) .running
  require (decide (c.length.toNat ≤ 256) && decide (c.address.toNat + c.length.toNat ≤ 65536))
    .invalid
  match (List.range c.length.toNat).mapM fun i =>
      D.debugPeek s.machine (c.address + BitVec.ofNat 16 i) with
  | some memory => return memory
  | none => .error .unsupported

def disconnect : DebugService M :=
  { s with scriptHooks := s.scriptHooks.clear, connected := false, state := .detached }

def checkCommand (c : Command) : Except Error Unit := do
  require (s.state != .detached) .detached
  require (s.state != .faulted || c.operation == .disconnect) .fault
  require (c.generation == s.generation) .stale
  require (c.operation == .pause || c.operation == .disconnect || c.pauseId == s.pauseId) .stale

/-- The bytes a command reads, and the service after it. -/
def operate (s : DebugService M) (c : Command) : Except Error (List Byte × DebugService M) :=
  match c.operation with
  | .continue | .step => (resume s c).map fun s' => ([], s')
  | .pause => .ok ([], s.stop .pause)
  | .rules => (setRules D s c).map fun s' => ([], s')
  | .edit => (edit D s c).map fun s' => ([], s')
  | .inspect => (inspect D s c).map fun memory => (memory, s)
  | .disconnect => .ok ([], s.disconnect)

def perform (s : DebugService M) (c : Command) :
    Except Error (List Byte × DebugService M) := do
  checkCommand s c
  operate D s c

def apply (s : DebugService M) (c : Command) : Reply × DebugService M :=
  match perform D s c with
  | .ok (memory, s') => ({ snapshot D s' c.id with memory := memory }, s')
  | .error e =>
    let s' := { s with rejectedActions := s.rejectedActions + 1 }
    ({ snapshot D s' c.id with error := e }, s')

/-! ## Execution -/

/-- What the accesses of a slice leave in the engine: nothing once it is disconnected. -/
def observe (accesses : List (Access × Address)) : DebugEngine :=
  if s.connected then accesses.foldl DebugEngine.access s.engine.begin else s.engine.begin

/-- Where a retired instruction leaves the service. -/
def retire (s : DebugService M) : DebugService M :=
  let watch := s.engine.hit
  let hooks := s.scriptHooks.retire s.generation
  let s := { s with engine := s.engine.retire, scriptHooks := hooks.2 }
  if watch then s.stop .watchpoint
  else if hooks.1 then s.stop .pause
  else if s.remainingSteps = 0 then s
  else if s.remainingSteps = 1 then s.stop .step
  else { s with remainingSteps := s.remainingSteps - 1 }

/-- The service after one round of the loop up to its pump, whether the loop goes on to it, and
the instructions the round retired. -/
structure Round (M : Type) where
  service : DebugService M
  goesOn : Bool
  retired : ℕ

/-- The slice of one instruction, and the service after it. -/
def slice (s : DebugService M) : Slice × DebugService M :=
  let ran := D.runSlice s.machine
  (ran.1, { s with
    skipBreakpoint := false, machine := ran.2, engine := s.observe ran.1.accesses })

/-- One instruction. -/
def execute (s : DebugService M) : Round M :=
  let pc := D.debugRegisters s.machine 5
  if s.skipBreakpoint = false ∧ s.engine.breakpoint pc (D.debugBacking s.machine pc) = true then
    ⟨s.stop .breakpoint, false, 0⟩
  else
    let ran := s.slice D
    if ran.1.threw then ⟨{ ran.2 with state := .faulted, reason := .fault }, false, 0⟩
    else if ran.1.retiredInstructions = 0 then ⟨ran.2.stop .pause, false, 0⟩
    else ⟨ran.2.retire, true, ran.1.retiredInstructions⟩

def round (s : DebugService M) : Round M :=
  let s := s.synchronize D
  if s.state = .running then s.execute D else ⟨s, false, 0⟩

end DebugService

end ProtoTime.Debug
