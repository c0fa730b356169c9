import ProtoTime.InstCycle.HostCalls

/-!
The contract of a compiled block: the invocation that brackets each instruction
with its guard and its retirement, and the view of the register words that a
direct entry uses in place of the host's register calls.
-/
namespace ProtoTime.IR.Research

open Interpreter

universe u

inductive Exit where
  | completed | guard | instructionBudget | cycleBudget | observer | controlFlow
  deriving DecidableEq

structure Progress where
  instructions : ℕ := 0
  cycles : ℕ := 0
  exit : Exit := .completed
  deriving DecidableEq

/-- The owner's callbacks around each instruction; a refusal ends the invocation. -/
structure Hooks (M : Type → Type u) where
  before : FinishedBlock → ℕ → M Bool
  retire : GuestInstruction → InterpreterResult → Progress → M Bool

/-- The words of a direct entry, in the order of their numbers. -/
structure Words where
  af : BitVec 16
  bc : BitVec 16
  de : BitVec 16
  hl : BitVec 16
  sp : BitVec 16
  pc : BitVec 16
  deriving DecidableEq

namespace Words

def get (w : Words) (i : ℕ) : BitVec 16 :=
  match i with
  | 0 => w.af
  | 1 => w.bc
  | 2 => w.de
  | 3 => w.hl
  | 4 => w.sp
  | _ => w.pc

def set (w : Words) (i : ℕ) (word : BitVec 16) : Words :=
  match i with
  | 0 => { w with af := word }
  | 1 => { w with bc := word }
  | 2 => { w with de := word }
  | 3 => { w with hl := word }
  | 4 => { w with sp := word }
  | _ => { w with pc := word }

end Words

/-- The registers of a direct entry; every write is published at once. -/
structure DirectRegisters (M : Type → Type u) where
  words : M Words
  publish : Words → M Unit
  flagsMask : BitVec 8

namespace DirectRegisters

/-- The numbers below eight are the halves of the first four words, high half first. -/
def readWord (w : Words) (id : ℕ) : Except String (BitVec 64) :=
  if id < 8 then
    .ok (((w.get (id / 2) >>> if id % 2 = 1 then 0 else 8) &&& 255#16).setWidth 64)
  else if id < 14 then .ok ((w.get (id - 8)).setWidth 64)
  else .error "unknown direct register"

def writeWord (flagsMask : BitVec 8) (w : Words) (id : ℕ) (value : BitVec 64) :
    Except String Words :=
  if id < 8 then
    let byte : BitVec 8 := value.setWidth 8
    let byte := if id = 1 then byte &&& flagsMask else byte
    let word := w.get (id / 2)
    .ok (w.set (id / 2)
      (if id % 2 = 1 then (word &&& 0xFF00#16) ||| byte.setWidth 16
        else (word &&& 255#16) ||| (byte.setWidth 16 <<< 8)))
  else if id < 14 then
    let value := if id = 8 then value &&& (0xFF00#64 ||| flagsMask.setWidth 64) else value
    .ok (w.set (id - 8) (value.setWidth 16))
  else .error "unknown direct register"

variable {M : Type → Type u} [Monad M] [MonadExcept String M] (r : DirectRegisters M)

def read (id : ℕ) : M (BitVec 64) := do
  let w ← r.words
  raise (readWord w id)

def write (id : ℕ) (value : BitVec 64) : M Unit := do
  let w ← r.words
  let w ← raise (writeWord r.flagsMask w id value)
  r.publish w

end DirectRegisters

structure RegisterFile where
  a : BitVec 8
  f : BitVec 8
  b : BitVec 8
  c : BitVec 8
  d : BitVec 8
  e : BitVec 8
  h : BitVec 8
  l : BitVec 8
  sp : BitVec 16
  pc : BitVec 16

namespace RegisterFile

def high (word : BitVec 16) : BitVec 8 := (word >>> 8).setWidth 8

def low (word : BitVec 16) : BitVec 8 := word.setWidth 8

def pair (high low : BitVec 8) : BitVec 16 := (high.setWidth 16 <<< 8) ||| low.setWidth 16

def ofWords (w : Words) : RegisterFile :=
  { a := high w.af
    f := low w.af
    b := high w.bc
    c := low w.bc
    d := high w.de
    e := low w.de
    h := high w.hl
    l := low w.hl
    sp := w.sp
    pc := w.pc }

def words (r : RegisterFile) : Words :=
  ⟨pair r.a r.f, pair r.b r.c, pair r.d r.e, pair r.h r.l, r.sp, r.pc⟩

def read (r : RegisterFile) (id : ℕ) : Except String (BitVec 64) :=
  match id with
  | 0 => .ok (r.a.setWidth 64)
  | 1 => .ok (r.f.setWidth 64)
  | 2 => .ok (r.b.setWidth 64)
  | 3 => .ok (r.c.setWidth 64)
  | 4 => .ok (r.d.setWidth 64)
  | 5 => .ok (r.e.setWidth 64)
  | 6 => .ok (r.h.setWidth 64)
  | 7 => .ok (r.l.setWidth 64)
  | 8 => .ok ((pair r.a r.f).setWidth 64)
  | 9 => .ok ((pair r.b r.c).setWidth 64)
  | 10 => .ok ((pair r.d r.e).setWidth 64)
  | 11 => .ok ((pair r.h r.l).setWidth 64)
  | 12 => .ok (r.sp.setWidth 64)
  | 13 => .ok (r.pc.setWidth 64)
  | _ => .error "unknown direct register"

/-- Whatever is written to `F`, alone or with `A`, is masked. -/
def write (flagsMask : BitVec 8) (r : RegisterFile) (id : ℕ) (value : BitVec 64) :
    Except String RegisterFile :=
  let byte : BitVec 8 := value.setWidth 8
  let word : BitVec 16 := value.setWidth 16
  match id with
  | 0 => .ok { r with a := byte }
  | 1 => .ok { r with f := byte &&& flagsMask }
  | 2 => .ok { r with b := byte }
  | 3 => .ok { r with c := byte }
  | 4 => .ok { r with d := byte }
  | 5 => .ok { r with e := byte }
  | 6 => .ok { r with h := byte }
  | 7 => .ok { r with l := byte }
  | 8 => .ok { r with a := high word, f := low word &&& flagsMask }
  | 9 => .ok { r with b := high word, c := low word }
  | 10 => .ok { r with d := high word, e := low word }
  | 11 => .ok { r with h := high word, l := low word }
  | 12 => .ok { r with sp := word }
  | 13 => .ok { r with pc := word }
  | _ => .error "unknown direct register"

end RegisterFile

/-- A host that serves the register calls from its own registers, with `F` masked, and leaves the
other calls to `host`. -/
def maskingHost {M : Type → Type u} [Monad M] [MonadExcept String M] (r : DirectRegisters M)
    (host : HostCall → M (BitVec 64)) : HostCall → M (BitVec 64)
  | .readRegister id _ => do
    let w ← r.words
    raise ((RegisterFile.ofWords w).read id)
  | .writeRegister id _ value => do
    let w ← r.words
    let w ← raise (((RegisterFile.ofWords w).write r.flagsMask id value).map RegisterFile.words)
    r.publish w
    pure 0
  | .setProgramCounter address => do
    let w ← r.words
    r.publish { RegisterFile.ofWords w with pc := address.setWidth 16 }.words
    pure 0
  | call => host call

/-- One run over a block. An instruction is begun, executed and retired before the next. -/
structure Invocation where
  block : FinishedBlock
  maxInstructions : ℕ
  maxCycles : ℕ
  progress : Progress := {}
  begun : Bool := false
  stopped : Bool := false

namespace Invocation

variable {M : Type → Type u} [Monad M] [MonadExcept String M] (hooks : Hooks M)

variable (c : Invocation)

def stop (exit : Exit) : Invocation :=
  { c with progress := { c.progress with exit := exit }, stopped := true }

def begin (index : ℕ) : M (Bool × Invocation) :=
  if c.stopped ∨ c.begun ∨ index ≠ c.progress.instructions ∨
      index ≥ c.block.instructions.length then
    throw "whole-block instruction order violated"
  else if c.progress.instructions ≥ c.maxInstructions then pure (false, c.stop .instructionBudget)
  else if c.progress.cycles ≥ c.maxCycles then pure (false, c.stop .cycleBudget)
  else do
    if ← hooks.before c.block index then pure (true, { c with begun := true })
    else pure (false, c.stop .guard)

/-- The cycles stay at their largest value. -/
def retired (instruction : GuestInstruction) (result : InterpreterResult) : Invocation :=
  let cycles := if result.cycleCondition then instruction.cyclesTaken else instruction.cyclesNotTaken
  { c with
    begun := false
    progress := { c.progress with
      instructions := c.progress.instructions + 1
      cycles := min kMaxUint64 (c.progress.cycles + cycles) } }

def retire (c : Invocation) (index : ℕ) (result : InterpreterResult) : M (Bool × Invocation) :=
  if c.stopped ∨ ¬ c.begun ∨ index ≠ c.progress.instructions ∨ ¬ result.retirementReached then
    throw "whole-block retirement violated"
  else
    match c.block.instructions[index]? with
    | none => throw "whole-block retirement violated"
    | some instruction => do
      let c := c.retired instruction result
      if ¬ (← hooks.retire instruction result c.progress) then pure (false, c.stop .observer)
      else if result.exitRequested ∨ result.branchTaken ∨ instruction.controlFlow ∨
          instruction.interruptSensitive then pure (false, c.stop .controlFlow)
      else if c.progress.cycles ≥ c.maxCycles then pure (false, c.stop .cycleBudget)
      else if c.progress.instructions ≥ c.maxInstructions then
        pure (false, c.stop .instructionBudget)
      else pure (true, c)

/-- The instructions from `index` on, each given by what it executes between its brackets. -/
def runBodies : ℕ → List (M InterpreterResult) → Invocation → M Invocation
  | _, [], c => pure c
  | index, body :: bodies, c => do
    let (begun, c) ← c.begin hooks index
    if ¬ begun then pure c
    else
      let result ← body
      let (continues, c) ← c.retire hooks index result
      if ¬ continues then pure c else runBodies (index + 1) bodies c

/-- An entry leaves no instruction open and skips none. -/
def verifyCompleted : M Progress :=
  if c.begun then throw "emitted entry omitted retirement"
  else if c.progress.exit = .completed ∧
      c.progress.instructions ≠ c.block.instructions.length then
    throw "emitted entry returned without completing block"
  else pure c.progress

def execute (block : FinishedBlock) (bodies : List (M InterpreterResult))
    (instructions cycles : ℕ) : M Progress := do
  let c ← runBodies hooks 0 bodies
    { block := block, maxInstructions := instructions, maxCycles := cycles }
  c.verifyCompleted

end Invocation

def interpretBlock {M : Type → Type u} [Monad M] [MonadExcept String M] (block : FinishedBlock)
    (host : HostCall → M (BitVec 64)) (hooks : Hooks M) (instructions cycles : ℕ) : M Progress :=
  Invocation.execute hooks block (block.instructions.map (executeCalls host)) instructions cycles

end ProtoTime.IR.Research
