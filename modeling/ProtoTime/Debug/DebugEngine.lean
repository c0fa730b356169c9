import Mathlib.Tactic.Common
import Mathlib.Data.Nat.Notation
import ProtoTime.FixedSizes

/-!
The debugger's rules and trace ring, the counters of prepared script hooks, and what a machine
lets a debugger do.
-/
namespace ProtoTime.Debug

abbrev Byte := BitVec 8

abbrev Address := BitVec 16

abbrev Registers := Fin 20 → BitVec 16

inductive Access
  | read
  | write
  | portRead
  | portWrite
  deriving DecidableEq

structure Breakpoint where
  address : Address
  backing : BitVec 64
  bankSpecific : Bool
  deriving DecidableEq

structure Watchpoint where
  first : Address
  last : Address
  access : Access
  deriving DecidableEq

/-- The trace ring is known by the number of its unread records. -/
structure DebugEngine where
  breaks : List Breakpoint
  watches : List Watchpoint
  generation : BitVec 64
  hit : Bool
  recording : Bool
  records : ℕ
  lost : ℕ
  deriving DecidableEq

namespace DebugEngine

variable (e : DebugEngine)

def publish : DebugEngine :=
  if e.recording then
    if e.records < 1024 then { e with records := e.records + 1 } else { e with lost := e.lost + 1 }
  else e

def boundary (generation : BitVec 64) : DebugEngine :=
  { e with generation := generation, hit := false }.publish

def breakpoint (pc : Address) (backing : BitVec 64) : Bool :=
  e.breaks.any fun b => b.address == pc && (!b.bankSpecific || b.backing == backing)

def begin : DebugEngine := { e with hit := false }

def access (e : DebugEngine) (a : Access × Address) : DebugEngine :=
  let published := e.publish
  { published with hit := published.hit || e.watches.any fun w =>
      w.access == a.1 && decide (w.first ≤ a.2) && decide (a.2 ≤ w.last) }

def retire : DebugEngine := e.publish

def rules (breaks : List Breakpoint) (watches : List Watchpoint) : DebugEngine :=
  { e with breaks := breaks, watches := watches }

def consume : DebugEngine := { e with records := e.records - 1 }

end DebugEngine

structure HookAction where
  first : ℕ
  period : ℕ
  pause : Bool
  deriving DecidableEq

structure HookCapabilities where
  deterministic : Bool
  snapshotAware : Bool
  liveCallbackSafe : Bool
  boundedExecution : Bool
  deriving DecidableEq

/-- The only live script actions are counters that may ask for a pause. -/
structure ScriptHookEngine where
  actions : List HookAction
  generation : BitVec 64
  retired : ℕ
  rejected : ℕ
  invalidations : ℕ
  deriving DecidableEq

namespace ScriptHookEngine

variable (h : ScriptHookEngine)

def install (actions : List HookAction) (caps : HookCapabilities)
    (generation : BitVec 64) (paused : Bool) : ScriptHookEngine :=
  if paused && caps.deterministic && caps.snapshotAware && caps.liveCallbackSafe
      && caps.boundedExecution && decide (actions.length ≤ 8)
      && actions.all fun a => decide (a.first ≠ 0) && decide (a.period ≠ 0) then
    { h with actions := actions, generation := generation, retired := 0 }
  else { h with rejected := h.rejected + 1 }

def invalidate (generation : BitVec 64) : ScriptHookEngine :=
  if h.generation = generation then h
  else
    { h with
      invalidations := if h.actions = [] then h.invalidations else h.invalidations + 1
      actions := []
      generation := generation
      retired := 0 }

/-- Whether one of the hooks asks for a pause, and the hooks afterwards. -/
def retire (generation : BitVec 64) : Bool × ScriptHookEngine :=
  let current := h.invalidate generation
  let retired := current.retired + 1
  (current.actions.any fun a =>
      a.pause && decide (a.first ≤ retired) && decide ((retired - a.first) % a.period = 0),
    { current with retired := retired })

def clear : ScriptHookEngine := { h with actions := [] }

end ScriptHookEngine

structure Slice where
  threw : Bool
  retiredInstructions : ℕ
  accesses : List (Access × Address)
  deriving DecidableEq

structure DebugMachine (M : Type) where
  observationGeneration : M → BitVec 64
  debugPortBus : Bool
  debugRegisters : M → Registers
  debugValidateRegisters : Registers → Bool
  debugCommitRegisters : M → Registers → M
  debugPeek : M → Address → Option Byte
  debugWritable : M → Address → Bool
  debugCommitByte : M → Address → Byte → M
  debugBacking : M → Address → BitVec 64
  debugEdited : M → M
  runSlice : M → Slice × M

end ProtoTime.Debug
