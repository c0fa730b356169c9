import ProtoTime.Debug.DebugService
import ProtoTime.Json
import ProtoTime.Transaction
import Mathlib.Logic.Function.Basic

/-!
The script engine: what an invocation lets a runtime read and stage on an owned snapshot, the
actions of the file language, and the recipe a successful evaluation returns. The runtimes, the
reading of JSON and the clock are parameters.
-/
namespace ProtoTime.Script

open Debug (Address Byte Registers Command Reply ByteEdit)
open Transaction

abbrev Text := List UInt8

inductive Language
  | file
  | lua
  | python
  | javaScript
  deriving DecidableEq

structure Permissions where
  registers : Bool
  ram : Bool
  reports : Bool
  deriving DecidableEq

structure Limits where
  sourceBytes : ℕ
  heapBytes : ℕ
  instructions : ℕ
  timeout : ℕ
  deriving DecidableEq

structure Snapshot where
  core : String
  state : Reply
  memoryBase : Address

structure Result where
  success : Bool
  permissionDenied : Bool
  runtimeUnavailable : Bool
  staged : Command
  report : Text
  error : String

/-! ## Registers -/

def pairNames (core : String) : List String :=
  if core = "gameboy" then ["AF", "BC", "DE", "HL", "SP", "PC"]
  else ["AF", "BC", "DE", "HL", "SP", "PC", "IX", "IY", "AF'", "BC'", "DE'", "HL'", "I", "R",
    "IFF1", "IFF2", "IME", "IM", "HALT", "EI_DELAY"]

def registerMaximum (core : String) (pair : Fin 20) : ℕ :=
  if core ≠ "gamegear" ∨ pair.val < 12 then 65535
  else if pair = 12 ∨ pair = 13 then 255
  else if pair = 17 ∨ pair = 19 then 2
  else 1

def pairIndex (core : String) (name : Text) : Option (Fin 20) :=
  (List.finRange 20).find? fun i => ((pairNames core)[i.val]?).map utf8 == some name

def supported (core : String) : Bool := core == "gameboy" || core == "gamegear"

/-! ## Invocations -/

/-- A command as it is before anything is asked of it. -/
def blankCommand : Command where
  id := 0
  operation := .inspect
  generation := 0
  pauseId := 0
  steps := 1
  address := 0
  length := 0
  breaks _ := ⟨0, 0, false⟩
  watches _ := ⟨0, 0, .read⟩
  breakCount := 0
  watchCount := 0
  editRegisters := false
  registers _ := 0
  bytes _ := ⟨0, 0⟩
  byteCount := 0

structure Invocation where
  snapshot : Snapshot
  permissions : Permissions
  limits : Limits
  staged : Command
  report : Text
  work : ℕ
  failed : Bool
  accepting : Bool
  permissionDenied : Bool

namespace Invocation

def create (view : Snapshot) (allowed : Permissions) (budget : Limits) : Invocation where
  snapshot := view
  permissions := allowed
  limits := budget
  staged := { blankCommand with
    operation := .edit
    generation := view.state.generation
    pauseId := view.state.pauseId
    registers := view.state.registers }
  report := []
  work := 0
  failed := false
  accepting := true
  permissionDenied := false

variable (inv : Invocation)

def refuse : Bool × Invocation := (false, { inv with failed := true })

/-- A refusal that says whether a permission was missing. -/
def deny (permitted : Bool) : Bool × Invocation :=
  { inv with permissionDenied := inv.permissionDenied || !permitted }.refuse

/-- Work charged while the deadline has passed or not. -/
def budget (count : ℕ) (late : Bool) : Bool × Invocation :=
  if inv.limits.instructions - inv.work < count then inv.refuse
  else
    let charged := { inv with work := inv.work + count }
    if late then charged.refuse else (!charged.failed, charged)

def getRegister (name : Text) : Option (BitVec 16) :=
  (pairIndex inv.snapshot.core name).map inv.staged.registers

/-- The value is within the register, and leaves the unused bits of the flags clear. -/
def fitsRegister (core : String) (pair : Fin 20) (value : BitVec 16) : Bool :=
  decide (value.toNat ≤ registerMaximum core pair)
    && !(core == "gameboy" && pair == 0 && value &&& 15 != 0)

def stageRegister (pair : Fin 20) (value : BitVec 16) : Invocation :=
  { inv with staged := { inv.staged with
    registers := Function.update inv.staged.registers pair value
    editRegisters := true } }

def setRegister (name : Text) (value : BitVec 16) : Bool × Invocation :=
  if !inv.accepting || !inv.permissions.registers then inv.deny inv.permissions.registers
  else
    match pairIndex inv.snapshot.core name with
    | none => inv.refuse
    | some pair =>
      if fitsRegister inv.snapshot.core pair value then (true, inv.stageRegister pair value)
      else inv.refuse

def getByte (address : Address) : Option Byte :=
  match inv.staged.edits.reverse.find? (·.address == address) with
  | some e => some e.value
  | none =>
    if address < inv.snapshot.memoryBase then none
    else inv.snapshot.state.memory[(address - inv.snapshot.memoryBase).toNat]?

def stageByte (address : Address) (value : Byte) : Invocation :=
  { inv with staged := { inv.staged with
    bytes := Function.update inv.staged.bytes (Fin.ofNat 64 inv.staged.byteCount.toNat)
      ⟨address, value⟩
    byteCount := inv.staged.byteCount + 1 } }

def setByte (address : Address) (value : Byte) : Bool × Invocation :=
  if !inv.accepting || !inv.permissions.ram || inv.staged.byteCount == 64 then
    inv.deny inv.permissions.ram
  else (true, inv.stageByte address value)

def output (text : Text) : Bool × Invocation :=
  if !inv.accepting || !inv.permissions.reports
      || decide (65536 - inv.report.length < text.length) then
    inv.deny inv.permissions.reports
  else (true, { inv with report := inv.report ++ text })

end Invocation

/-- What a runtime may do with an invocation. An adapter that refuses a script's arguments marks
the invocation failed, and closes it before the runtime is torn down. -/
inductive Call
  | budget (count : ℕ) (late : Bool)
  | getRegister (name : Text)
  | setRegister (name : Text) (value : BitVec 16)
  | getByte (address : Address)
  | setByte (address : Address) (value : Byte)
  | output (text : Text)
  | reject
  | close
  deriving DecidableEq

def Invocation.step (inv : Invocation) : Call → Invocation
  | .budget count late => (inv.budget count late).2
  | .getRegister _ => inv
  | .setRegister name value => (inv.setRegister name value).2
  | .getByte _ => inv
  | .setByte address value => (inv.setByte address value).2
  | .output text => (inv.output text).2
  | .reject => { inv with failed := true }
  | .close => { inv with accepting := false }

def Invocation.run (inv : Invocation) (calls : List Call) : Invocation := calls.foldl step inv

/-! ## Runtimes -/

/-- What a runtime did with an invocation, in order, and how it ended. What a script chooses after
an answer is in the calls that follow. -/
structure Interpretation where
  calls : List Call
  success : Bool
  permissionDenied : Bool
  runtimeUnavailable : Bool
  error : String

structure Host where
  available : Language → Bool
  parse : Text → Except String Json
  floatIsOne : FloatText → Bool
  /-- Whether the deadline has passed when the budget is asked for the n-th time. -/
  late : ℕ → Bool
  interpret : Language → Text → Invocation → Interpretation

variable (H : Host)

mutual

/-- The deepest event of reading a value. -/
def eventDepth : Json → ℕ
  | .arr items => eventDepthItems items
  | .obj fields => eventDepthFields fields
  | _ => 0

def eventDepthItems : List Json → ℕ
  | [] => 0
  | item :: items => max (eventDepth item + 1) (eventDepthItems items)

def eventDepthFields : List (String × Json) → ℕ
  | [] => 0
  | (_, value) :: fields => max (eventDepth value + 1) (eventDepthFields fields)

end

def isOne : Json → Bool
  | .int n => n == 1
  | .float f => H.floatIsOne f
  | _ => false

def kMismatch : String := "file automation core/schema/action budget mismatch"

def fileActions (core : String) (data : Json) : Except String (List Json) := do
  let schema ← data.field "schemaVersion"
  Results.require (isOne H schema) kMismatch
  let name ← data.field "core"
  Results.require (name.isText core) kMismatch
  let actions ← data.field "actions"
  Results.require (actions.isArray && decide (actions.size ≤ 128)) kMismatch
  return actions.elements

/-- An integer of at most this value. -/
def boundedInt (maximum : ℕ) (refusal : String) : Json → Except String ℕ
  | .int n => if 0 ≤ n ∧ n ≤ maximum then .ok n.toNat else .error refusal
  | _ => .error refusal

def kRegisterRefusal : String := "register mutation denied or invalid"
def kWriteRefusal : String := "RAM mutation denied or invalid"
def kReportRefusal : String := "report permission/budget rejected"

def registerAction (action : Json) : Except String Call := do
  let value ← boundedInt 65535 kRegisterRefusal (← action.field "value")
  let name ← (← action.field "name").asString
  return .setRegister (utf8 name) (BitVec.ofNat 16 value)

def writeAction (action : Json) : Except String Call := do
  let address ← boundedInt 65535 kWriteRefusal (← action.field "address")
  let value ← boundedInt 255 kWriteRefusal (← action.field "value")
  return .setByte (BitVec.ofNat 16 address) (BitVec.ofNat 8 value)

def reportAction (action : Json) : Except String Call := do
  let text ← (← action.field "text").asString
  return .output (utf8 text)

def readAction (action : Json) : Except String (Call × String) := do
  let operation ← (← action.field "operation").asString
  if operation = "register" then return (← registerAction action, kRegisterRefusal)
  else if operation = "write" then return (← writeAction action, kWriteRefusal)
  else if operation = "report" then return (← reportAction action, kReportRefusal)
  else .error "unsupported file automation operation"

/-- Whether a call is answered with success. -/
def Invocation.accepts (inv : Invocation) : Call → Bool
  | .budget count late => (inv.budget count late).1
  | .getRegister name => (inv.getRegister name).isSome
  | .setRegister name value => (inv.setRegister name value).1
  | .getByte address => (inv.getByte address).isSome
  | .setByte address value => (inv.setByte address value).1
  | .output text => (inv.output text).1
  | .reject => false
  | .close => true

/-- A call that has to be answered with success. -/
def attempt (call : Call) (refusal : String) : Action Invocation String Unit := do
  let inv ← get
  set (inv.step call)
  require (inv.accepts call) refusal

def kBudgetRefusal : String := "script budget exhausted"

def runAction (n : ℕ) (action : Json) : Action Invocation String Unit := do
  attempt (.budget 1 (H.late n)) kBudgetRefusal
  let read ← fromExcept (readAction action)
  attempt read.1 read.2

def runActions (n : ℕ) : List Json → Action Invocation String Unit
  | [] => pure ()
  | action :: actions => do
    runAction H n action
    runActions (n + 1) actions

def runFile (source : Text) : Action Invocation String Unit := do
  let inv ← get
  require (decide (source.length ≤ inv.limits.heapBytes / 32))
    "file automation heap/source budget rejected"
  let data ← fromExcept (H.parse source)
  require (decide (eventDepth data ≤ 32)) "file automation nesting budget exhausted"
  let actions ← fromExcept (fileActions H inv.snapshot.core data)
  runActions H 0 actions

/-! ## Evaluation -/

def refused (permissionDenied : Bool) (error : String) : Result :=
  ⟨false, permissionDenied, false, blankCommand, [], error⟩

/-- A snapshot and limits an engine works with. -/
def checkRequest (source : Text) (snapshot : Snapshot) (limits : Limits) :
    Except String Unit := do
  Results.require (supported snapshot.core) "unsupported S.P.A.C.E. core"
  Results.require (decide (snapshot.state.memory.length ≤ 256)
    && decide (snapshot.memoryBase.toNat + snapshot.state.memory.length ≤ 65536))
    "invalid owned memory snapshot"
  Results.require (snapshot.state.state == .paused) "scripting requires a paused owned snapshot"
  Results.require (limits.sourceBytes != 0 && decide (limits.sourceBytes ≤ 1024 * 1024)
    && decide (source.length ≤ limits.sourceBytes) && !source.contains 0
    && decide (65536 ≤ limits.heapBytes) && decide (limits.heapBytes ≤ 64 * 1024 * 1024)
    && limits.instructions != 0 && decide (limits.instructions ≤ 100000000)
    && decide (1 ≤ limits.timeout) && decide (limits.timeout ≤ 30000))
    "script resource limits rejected"

/-- The result of a runtime that reports success, once the budget has been asked a last time. -/
def finish (inv : Invocation) (late : Bool) (permissionDenied : Bool) : Result :=
  if (inv.budget 0 late).1 then
    ⟨true, permissionDenied || inv.permissionDenied, false, inv.staged, inv.report, ""⟩
  else refused inv.permissionDenied kBudgetRefusal

def evaluateFile (source : Text) (inv : Invocation) : Result :=
  match exec (runFile H source) inv with
  | (.ok (), last) => finish last (H.late 128) false
  | (.error e, last) => refused last.permissionDenied e

def evaluateRuntime (language : Language) (source : Text) (inv : Invocation) : Result :=
  let done := H.interpret language source inv
  let last := inv.run done.calls
  if done.success then finish last (H.late 0) done.permissionDenied
  else ⟨false, done.permissionDenied || last.permissionDenied, done.runtimeUnavailable,
    blankCommand, [], done.error⟩

def evaluate (language : Language) (source : Text) (snapshot : Snapshot)
    (permissions : Permissions) (limits : Limits) : Result :=
  match checkRequest source snapshot limits with
  | .error e => refused false e
  | .ok () =>
    if H.available language then
      match language with
      | .file => evaluateFile H source (.create snapshot permissions limits)
      | _ => evaluateRuntime H language source (.create snapshot permissions limits)
    else ⟨false, false, true, blankCommand, [], "script runtime unavailable"⟩

end ProtoTime.Script
