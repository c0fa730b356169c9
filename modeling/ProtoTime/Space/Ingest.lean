import ProtoTime.Space.Decoding
import ProtoTime.Space.Project

/-!
The records that a capture delivers and the project they are ingested into: the instructions with
their edges and transfers, and one dependency for each register lane and each access.
-/
namespace ProtoTime.Space
open GameBoy (Byte Addr hi lo)

/-- The address space in the upper half, a bank and an offset below it. -/
abbrev Location := BitVec 64

def space (location : Location) : Location := location >>> 32

inductive Kind where
  | begin | fetch | read | write | device | dma | mapping | ending | inspection | gap | input
  deriving DecidableEq

inductive AccessOrigin where
  | unknown | cpu | device | dma | boundary | inspection
  deriving DecidableEq

def AccessOrigin.name : AccessOrigin → String
  | .unknown => "unknown"
  | .cpu => "cpu"
  | .device => "device"
  | .dma => "dma"
  | .boundary => "boundary"
  | .inspection => "inspection"

/-- Which write of which execution block a value comes from. -/
structure Stamp where
  sequence : ℕ := 0
  block : ℕ := 0
  epoch : ℕ := 0
  deriving DecidableEq

/-- A record of a capture. The fetched bytes come in chunks, of which `fetchLength` bytes count. -/
structure Record where
  kind : Kind := .begin
  origin : AccessOrigin := .unknown
  address : Addr := 0
  value : Byte := 0
  accepted : Bool := true
  isWrite : Bool := false
  location : Location := 0
  cycles : ℕ := 0
  targetLocation : Location := 0
  fallthroughLocation : Location := 0
  registers : Vector Addr 20 := Vector.replicate 20 0
  bytes : Vector Byte 3 := Vector.replicate 3 0
  length : ℕ := 0
  fetchBytes : Vector Byte 64 := Vector.replicate 64 0
  fetchLength : ℕ := 0
  executionSource : ℕ := 0
  supplier : Stamp := {}
  registerSuppliers : ℕ → Stamp := fun _ => {}

namespace Record

def pc (r : Record) : Addr := r.registers[5]

def chunk (r : Record) : List Byte := r.fetchBytes.toList.take r.fetchLength

/-- An accepted access other than a fetch; an inspection is the debugger's. -/
def isEvidence (r : Record) : Bool :=
  r.accepted && decide (r.kind ≠ .fetch) && decide (r.kind ≠ .inspection)

end Record

structure RegisterLane where
  name : String
  pair : ℕ
  high : Bool := false
  byte : Bool := false

def byteLanes (highName lowName : String) (pair : ℕ) : List RegisterLane :=
  [⟨highName, pair, true, true⟩, ⟨lowName, pair, false, true⟩]

def gbLanes : List RegisterLane :=
  byteLanes "A" "F" 0 ++ byteLanes "B" "C" 1 ++ byteLanes "D" "E" 2 ++ byteLanes "H" "L" 3 ++
    [⟨"SP", 4, false, false⟩, ⟨"PC", 5, false, false⟩]

def ggLanes : List RegisterLane :=
  gbLanes ++ [⟨"IX", 6, false, false⟩, ⟨"IY", 7, false, false⟩] ++ byteLanes "A'" "F'" 8 ++
    byteLanes "B'" "C'" 9 ++ byteLanes "D'" "E'" 10 ++ byteLanes "H'" "L'" 11 ++
    [⟨"I", 12, false, true⟩, ⟨"R", 13, false, true⟩, ⟨"IFF1", 14, false, true⟩,
      ⟨"IFF2", 15, false, true⟩, ⟨"IME", 16, false, true⟩, ⟨"IM", 17, false, true⟩,
      ⟨"HALT", 18, false, true⟩, ⟨"EI_DELAY", 19, false, true⟩]

inductive CapturedCore where
  | gameboy | gamegear
  deriving DecidableEq

namespace CapturedCore

def id : CapturedCore → String
  | .gameboy => "gameboy"
  | .gamegear => "gamegear"

def lanes : CapturedCore → List RegisterLane
  | .gameboy => gbLanes
  | .gamegear => ggLanes

def pairs : CapturedCore → ℕ
  | .gameboy => 6
  | .gamegear => 20

end CapturedCore

def RegisterLane.read (d : RegisterLane) (r : Record) : Addr :=
  let value := r.registers.toList.getD d.pair 0
  if d.byte then (if d.high then hi value else lo value).setWidth 16 else value

def decodeCore (core : CapturedCore) (bytes : List Byte) (pc after : Addr) (flags : Byte) :
    OperandInfo :=
  match core with
  | .gameboy => decode bytes pc flags
  | .gamegear => decodeZ80 bytes pc after flags

/-- What a dependency is about, the texts `m:` and a location or `r:` and a lane. -/
inductive StateKey where
  | memory (location : Location)
  | register (lane : String)
  deriving DecidableEq

def StateKey.isMemory : StateKey → Bool
  | .memory _ => true
  | .register _ => false

structure Supplier where
  branch : String
  sequence : ℕ
  instruction : String
  kind : String
  deriving DecidableEq

inductive Access where
  | read | write
  deriving DecidableEq

structure Dependency where
  id : String
  instruction : String
  branch : String
  sequence : ℕ
  location : StateKey
  value : Addr
  access : Access
  accepted : Bool
  supplier : Supplier
  kind : String
  origin : String
  effectivePort : Option Addr := none
  executionSource : Option String := none
  executionSupplier : Option Stamp := none

structure CapturedValue where
  value : Addr
  sequence : ℕ
  branch : String

/-- Fetched bytes that lie one behind the other in their backing. -/
structure FetchBacking where
  offset : ℕ
  location : Location
  length : ℕ
  deriving DecidableEq

structure Instruction where
  id : String
  location : Location
  address : Addr
  bytes : List Byte
  length : ℕ
  text : String
  flow : Flow
  conditional : Bool
  captures : StateKey → Option CapturedValue := fun _ => none
  registers : String → Option Addr := fun _ => none
  hardware : List String := []
  fetchBackings : Option (List FetchBacking) := none
  lastVisit : String × ℕ := ("", 0)
  lastCycles : ℕ := 0
  lastOutcome : Option String := none

/-- An edge by its source and the location it leads to, and by the instruction there where that was
observed. -/
structure Edge where
  source : String
  targetLocation : Location
  kind : String
  toInstruction : Option String := none
  deriving DecidableEq

structure Transfer where
  id : String
  instruction : String
  branch : String
  sequence : ℕ
  flow : String
  taken : Bool
  root : Bool
  targetLocation : Location
  fallthroughLocation : Location
  nextInstruction : Option String := none

structure Boundary where
  branch : String
  sequence : ℕ
  cycles : ℕ
  kind : String
  before : List Addr
  after : List Addr

structure Gap where
  branch : String
  sequence : ℕ
  reason : String

structure CapturedInput where
  branch : String
  sequence : ℕ
  position : ℕ
  mask : Byte

def hardwareLabel (location : Location) : Option String :=
  if space location = 4 then some "video"
  else if space location = 5 then some "device"
  else if space location = 6 then some "input"
  else none

def Instruction.capture (key : StateKey) (value : CapturedValue) (shown : Bool) (n : Instruction) :
    Instruction :=
  let n := if shown then
      { n with captures := fun k => if k = key then some value else n.captures k }
    else n
  match key with
  | .register _ => n
  | .memory location =>
    match hardwareLabel location with
    | none => n
    | some label => if label ∈ n.hardware then n else { n with hardware := n.hardware ++ [label] }

def bytesHex (bytes : List Byte) : String :=
  String.ofList (bytes.flatMap fun b => [Nat.digitChar (b.toNat / 16), Nat.digitChar (b.toNat % 16)])

def FetchBacking.json (b : FetchBacking) : Json :=
  .obj [("length", .int b.length), ("location", .str (decimal b.location.toNat)),
    ("offset", .int b.offset)]

/-- The change of the first element that satisfies a test. -/
def setFirst {α : Type} (test : α → Bool) (f : α → α) : List α → List α
  | [] => []
  | a :: rest => if test a then f a :: rest else a :: setFirst test f rest

structure CapturedProject where
  core : CapturedCore
  instanceId : String
  budget : ℕ
  instructions : List Instruction := []
  edges : List Edge := []
  dependencies : List Dependency := []
  gaps : List Gap := []
  transfers : List Transfer := []
  inputs : List CapturedInput := []
  boundaries : List Boundary := []
  writers : StateKey → Option Supplier := fun _ => none
  values : StateKey → Option Addr := fun _ => none
  begun : Record := {}
  accesses : List Record := []
  fetchedBytes : List Byte := []
  fetchedBackings : List FetchBacking := []
  branch : String := instanceId ++ ":0"
  previous : String := ""
  previousTransfer : String := ""
  visit : ℕ := 0
  revision : ℕ := 0
  branchCounter : ℕ := 0
  inputPosition : ℕ := 0
  used : ℕ := 0
  sharedBudget : Option StateBudget := none
  active : Bool := false
  exhausted : Bool := false

namespace CapturedProject

/-- The charge against both budgets; `none` when one of them is exceeded. -/
def reserve (charge : ℕ) (p : CapturedProject) : Option CapturedProject :=
  if p.budget - min p.budget p.used < charge then none
  else
    match p.sharedBudget with
    | none => some { p with used := p.used + charge }
    | some shared =>
      (shared.reserve charge).map fun shared =>
        { p with used := p.used + charge, sharedBudget := some shared }

def gap (reason : String) (p : CapturedProject) : CapturedProject :=
  { p with
    gaps := if p.gaps.length < 1024 then p.gaps ++ [⟨p.branch, p.visit, reason⟩] else p.gaps
    active := false
    previous := ""
    previousTransfer := ""
    revision := p.revision + 1 }

/-- A gap that ends the capture. -/
def stopAt (reason : String) (p : CapturedProject) : CapturedProject :=
  { p.gap reason with exhausted := true }

def token (p : CapturedProject) : String := p.instanceId ++ ":" ++ decimal (p.branchCounter + 1)

def modifyInstruction (id : String) (f : Instruction → Instruction) (p : CapturedProject) :
    CapturedProject :=
  { p with instructions := p.instructions.map fun n => if n.id = id then f n else n }

/-- Instructions are kept in the order of their identities. -/
def upsertInstruction (fresh : Instruction) (f : Instruction → Instruction) (p : CapturedProject) :
    CapturedProject :=
  if p.instructions.any fun n => n.id == fresh.id then p.modifyInstruction fresh.id f
  else
    { p with instructions := p.instructions.orderedInsert (fun m n => m.id ≤ n.id) (f fresh) }

def addEdge (e : Edge) (p : CapturedProject) : CapturedProject :=
  if e ∈ p.edges then p else { p with edges := p.edges ++ [e] }

/-- The last writer supplies a value, unless a read finds another one. -/
def supplierOf (key : StateKey) (value : Addr) (access : Access) (kind : String)
    (p : CapturedProject) : Supplier :=
  let writer := (p.writers key).getD
    ⟨p.branch, 0, "", if kind = "device" then "device" else "initialization"⟩
  if (match p.values key with
    | none => false
    | some old => old != value) = true ∧ access = .read then ⟨p.branch, p.visit, "", "unresolved"⟩
  else writer

def dependencyOf (id : String) (key : StateKey) (value : Addr) (access : Access) (accepted : Bool)
    (kind : String) (p : CapturedProject) : Dependency where
  id := p.token
  instruction := id
  branch := p.branch
  sequence := p.visit
  location := key
  value := value
  access := access
  accepted := accepted
  supplier := p.supplierOf key value access kind
  kind := kind
  origin := if kind = "cpu" then "cpu" else if kind = "boundary" then "boundary" else "unknown"

def noteWriter (id : String) (key : StateKey) (value : Addr) (kind : String) (p : CapturedProject) :
    CapturedProject :=
  { p with
    writers := fun k => if k = key then some ⟨p.branch, p.visit, id, kind⟩ else p.writers k
    values := fun k => if k = key then some value else p.values k }

/-- A dependency of the visit. `amend` is what the caller sets in it afterwards. -/
def dep (id : String) (key : StateKey) (value : Addr) (access : Access) (accepted : Bool)
    (kind : String) (amend : Dependency → Dependency) (p : CapturedProject) : CapturedProject :=
  let pushed := { p with
    dependencies := p.dependencies ++ [amend (p.dependencyOf id key value access accepted kind)]
    branchCounter := p.branchCounter + 1 }
  let noted := if access = .write ∧ accepted = true ∧ kind ≠ "mapping" then
      pushed.noteWriter id key value kind
    else pushed
  if id ≠ "" then
    noted.modifyInstruction id
      (Instruction.capture key ⟨value, p.visit, p.branch⟩ (access = .read || accepted))
  else noted

variable (e : Record)

/-- The supplier of a register read by translated code. -/
def amendRegister (lane : ℕ) (d : Dependency) : Dependency :=
  if e.executionSource ≠ 0 then
    { d with
      executionSource := some "snapshot"
      executionSupplier := some (e.registerSuppliers lane) }
  else d

def laneDependency (id : String) (info : OperandInfo) (e : Record) (p : CapturedProject)
    (lane : RegisterLane × ℕ) : CapturedProject :=
  let key := StateKey.register lane.1.name
  let before := lane.1.read p.begun
  let after := lane.1.read e
  let p := if info.reads.getLsbD lane.2 then
      p.dep id key before .read true "cpu" (amendRegister e lane.2)
    else p
  let p := if info.writes.getLsbD lane.2 || before != after then
      p.dep id key after .write true "cpu" fun d => d
    else p
  p.modifyInstruction id fun n =>
    { n with registers := fun k => if k = lane.1.name then some after else n.registers k }

def accessKind (a e : Record) : String :=
  if a.origin = .device ∨ a.kind = .device ∨ space a.location = 5 ∨ space a.location = 6 then
    "device"
  else if a.kind = .dma then "dma"
  else if a.kind = .mapping then "mapping"
  else if e.length ≠ 0 then "cpu"
  else "boundary"

def amendAccess (a : Record) (d : Dependency) : Dependency :=
  let d := { d with origin := a.origin.name }
  let d := if space a.location = 7 then { d with effectivePort := some a.address } else d
  if a.kind = .read then
    let d := { d with
      executionSource := some (if a.executionSource = 1 then "snapshot"
        else if a.executionSource = 2 then "initialization" else "bus") }
    if a.executionSource ≠ 0 then { d with executionSupplier := some a.supplier } else d
  else d

def accessDependency (id : String) (e : Record) (p : CapturedProject) (a : Record) : CapturedProject :=
  if a.kind = .fetch ∨ a.kind = .inspection then p
  else
    p.dep id (.memory a.location) (a.value.setWidth 16) (if a.isWrite then .write else .read)
      a.accepted (accessKind a e) (amendAccess a)

def boundaryDependency (p : CapturedProject) (lane : RegisterLane) : CapturedProject :=
  if lane.read p.begun ≠ lane.read e then
    p.dep "" (.register lane.name) (lane.read e) .write true "boundary" fun d => d
  else p

def addBoundary (p : CapturedProject) : CapturedProject :=
  { p with
    boundaries := p.boundaries ++
      [{ branch := p.branch, sequence := p.visit, cycles := e.cycles
         kind := if e.cycles = 0 then "device-update"
           else if p.begun.registers = e.registers then "stall" else "interrupt"
         before := p.begun.registers.toList.take p.core.pairs
         after := e.registers.toList.take p.core.pairs }] }

def instructionBytes (p : CapturedProject) : List Byte :=
  match p.core with
  | .gamegear => p.fetchedBytes
  | .gameboy => e.bytes.toList.take (min 3 e.length)

def fullFetch (p : CapturedProject) : Bool :=
  match p.core with
  | .gamegear => true
  | .gameboy => !p.fetchedBytes.isEmpty && p.fetchedBytes.length == e.length

/-- The text whose digest identifies an instruction. -/
def identityText (p : CapturedProject) : List UInt8 :=
  utf8 (decimal p.begun.location.toNat ++ ":" ++ bytesHex (p.instructionBytes e)) ++
    if p.fullFetch e then utf8 ":" ++ (Json.arr (p.fetchedBackings.map FetchBacking.json)).dump
    else []

/-- Where control goes on when a transfer is not taken. -/
def fallthroughTarget (p : CapturedProject) : Location :=
  let fall := p.begun.pc + BitVec.ofNat 16 e.length
  let base := if p.core = .gameboy ∧ fall < 0x4000 ∧ space p.begun.location = 1 then
      1#64 <<< 32
    else p.begun.location &&& ~~~65535
  if e.fallthroughLocation ≠ 0 then e.fallthroughLocation
  else base ||| (if fall < 0x8000 then fall &&& 0x3FFF else fall).setWidth 64

def directTarget (target : Addr) (e : Record) (p : CapturedProject) : Location :=
  let base := if p.core = .gameboy ∧ target < 0x4000 then 1#64 <<< 32
    else p.begun.location &&& ~~~65535
  if e.targetLocation ≠ 0 then e.targetLocation else base ||| (target &&& 0x3FFF).setWidth 64

/-- The edges of a visit: from the instruction before it, and where it leads itself. -/
def addEdges (id : String) (info : OperandInfo) (e : Record) (p : CapturedProject) : CapturedProject :=
  let p := if p.previous ≠ "" then
      p.addEdge ⟨p.previous, p.begun.location, "observed", some id⟩
    else p
  if info.flow = .fallthrough then p.addEdge ⟨id, e.location, "fallthrough", none⟩
  else if info.flow = .branch ∨ info.flow = .call ∨ info.flow = .ret ∨ info.flow = .indirect then
    let p := p.addEdge ⟨id, e.location, info.flow.name, none⟩
    let p := if info.conditional ∨ info.flow = .call then
        p.addEdge ⟨id, p.fallthroughTarget e, "fallthrough", none⟩
      else p
    if info.direct then p.addEdge ⟨id, p.directTarget info.target e, "target", none⟩ else p
  else p

/-- The transfer before learns where it led; it is searched from the end. -/
def linkTransfer (id : String) (p : CapturedProject) : CapturedProject :=
  if p.previousTransfer = "" then p
  else
    { p with
      transfers := (setFirst (fun t => t.id == p.previousTransfer)
        (fun t => { t with nextInstruction := some id }) p.transfers.reverse).reverse }

def addTransfer (t : String → Transfer) (p : CapturedProject) : CapturedProject :=
  { p with
    previousTransfer := p.token
    transfers := p.transfers ++ [t p.token]
    branchCounter := p.branchCounter + 1 }

def freshInstruction (id : String) (info : OperandInfo) (e : Record) (p : CapturedProject) :
    Instruction where
  id := id
  location := p.begun.location
  address := p.begun.pc
  bytes := p.instructionBytes e
  length := e.length
  text := info.text
  flow := info.flow
  conditional := info.conditional

def visitInstruction (info : OperandInfo) (e : Record) (p : CapturedProject) (n : Instruction) :
    Instruction :=
  { n with
    fetchBackings := if p.fullFetch e then some p.fetchedBackings else n.fetchBackings
    lastVisit := (p.branch, p.visit)
    lastCycles := e.cycles
    lastOutcome := if info.conditional then some (if info.taken then "taken" else "not taken")
      else n.lastOutcome }

def recordInstruction (id : String) (info : OperandInfo) (e : Record) (p : CapturedProject) :
    CapturedProject :=
  let p := p.upsertInstruction (p.freshInstruction id info e) (p.visitInstruction info e)
  let p := (p.addEdges id info e).linkTransfer id
  let p := p.addTransfer fun token =>
    { id := token, instruction := id, branch := p.branch, sequence := p.visit, flow := info.flow.name
      taken := !info.conditional || info.taken, root := p.previous == ""
      targetLocation := e.location, fallthroughLocation := e.fallthroughLocation }
  { p with previous := id }

/-- An end without an instruction breaks the chain of visits; an interrupt is a transfer. -/
def recordInterrupt (p : CapturedProject) : CapturedProject :=
  let p := { p with previous := "", previousTransfer := "" }
  if p.begun.registers ≠ e.registers ∧ e.cycles ≠ 0 then
    p.addTransfer fun token =>
      { id := token, instruction := "", branch := p.branch, sequence := p.visit, flow := "interrupt"
        taken := true, root := false, targetLocation := e.location, fallthroughLocation := 0 }
  else p

def visitOfInstruction (id : String) (info : OperandInfo) (e : Record) (p : CapturedProject) :
    CapturedProject :=
  p.accesses.foldl (accessDependency id e)
    (p.core.lanes.zipIdx.foldl (laneDependency id info e) (p.recordInstruction id info e))

def visitOfBoundary (p : CapturedProject) : CapturedProject :=
  p.core.lanes.foldl (boundaryDependency e)
    ((p.accesses.foldl (accessDependency "" e) (p.recordInterrupt e)).addBoundary e)

section

variable (digest : List UInt8 → String)

/-- What an end records once it is paid for. -/
def recordVisit (e : Record) (p : CapturedProject) : CapturedProject :=
  let p := { p with visit := p.visit + 1, revision := p.revision + 1 }
  if e.length ≠ 0 then
    p.visitOfInstruction (digest (p.identityText e))
      (decodeCore p.core (p.instructionBytes e) p.begun.pc e.pc (lo p.begun.registers[0])) e
  else p.visitOfBoundary e

/-- A conservative charge includes the overhead of the containers. -/
def visitCharge (e : Record) (p : CapturedProject) : ℕ :=
  3072 + p.accesses.length * 768 + (p.instructionBytes e).length * 4

def finish (e : Record) (p : CapturedProject) : CapturedProject :=
  if p.core = .gamegear ∧ p.fetchedBytes.length ≠ e.length then
    p.stopAt "incomplete instruction fetch evidence; capture stopped"
  else
    match p.reserve (p.visitCharge e) with
    | none => p.stopAt "analysis budget exhausted; capture stopped"
    | some p => p.recordVisit digest e

variable (r : Record)

def ingestInput (p : CapturedProject) : CapturedProject :=
  match p.reserve 512 with
  | none => p.stopAt "analysis budget exhausted; capture stopped"
  | some p =>
    { p with
      inputs := p.inputs ++ [⟨p.branch, p.visit, p.inputPosition + 1, r.value⟩]
      inputPosition := p.inputPosition + 1
      revision := p.revision + 1 }

def ingestBegin (p : CapturedProject) : CapturedProject :=
  let p := if p.active then p.gap "incomplete instruction capture" else p
  { p with begun := r, accesses := [], fetchedBytes := [], fetchedBackings := [], active := true }

/-- A chunk continues the last backing or starts another. -/
def addChunk (p : CapturedProject) : CapturedProject :=
  let fresh := p.fetchedBackings ++ [⟨p.fetchedBytes.length, r.location, r.fetchLength⟩]
  { p with
    fetchedBackings := match p.fetchedBackings.getLast? with
      | none => fresh
      | some last =>
        if last.location + BitVec.ofNat 64 last.length = r.location then
          p.fetchedBackings.dropLast ++ [{ last with length := last.length + r.fetchLength }]
        else fresh
    fetchedBytes := p.fetchedBytes ++ r.chunk }

def addAccess (p : CapturedProject) : CapturedProject :=
  if 2048 ≤ p.accesses.length then p.stopAt "instruction access limit; capture stopped"
  else { p with accesses := p.accesses ++ [r] }

/-- A record inside of an instruction. -/
def ingestActive (p : CapturedProject) : CapturedProject :=
  if r.kind = .fetch ∧ r.fetchLength ≠ 0 then
    if 64 < r.fetchLength ∨
        maximumInstructionLength p.core.id < p.fetchedBytes.length + r.fetchLength then
      p.gap "instruction fetch limit"
    else (p.addChunk r).addAccess r
  else p.addAccess r

def ingest (p : CapturedProject) (r : Record) : CapturedProject :=
  if p.exhausted then p
  else if r.kind = .input then p.ingestInput r
  else if r.kind = .begin then p.ingestBegin r
  else if r.kind = .ending then
    { if p.active then p.finish digest r else p with active := false }
  else if p.active then p.ingestActive r
  else if r.kind = .device ∨ r.kind = .dma ∨ r.kind = .write ∨ r.kind = .mapping then
    { p with begun := {}, accesses := [r] }.finish digest { kind := .ending }
  else p

end

/-! ## The evidence of an access -/

/-- The dependencies on accepted accesses. -/
def evidence (p : CapturedProject) : ℕ :=
  p.dependencies.countP fun d => d.accepted && d.location.isMemory

structure Stores (n : ℕ) (p p' : CapturedProject) : Prop where
  core : p'.core = p.core
  budget : p'.budget = p.budget
  used : p'.used = p.used
  shared : p'.sharedBudget = p.sharedBudget
  fetched : p'.fetchedBytes = p.fetchedBytes
  gaps : p'.gaps = p.gaps
  exhausted : p'.exhausted = p.exhausted
  active : p'.active = p.active
  evidence : p'.evidence = p.evidence + n

theorem Stores.refl (p : CapturedProject) : Stores 0 p p := ⟨rfl, rfl, rfl, rfl, rfl, rfl, rfl, rfl, rfl⟩

variable {p q : CapturedProject}

theorem Stores.trans {n m : ℕ} {r : CapturedProject} (h : Stores n p q) (h' : Stores m q r) :
    Stores (n + m) p r where
  core := h'.core.trans h.core
  budget := h'.budget.trans h.budget
  used := h'.used.trans h.used
  shared := h'.shared.trans h.shared
  fetched := h'.fetched.trans h.fetched
  gaps := h'.gaps.trans h.gaps
  exhausted := h'.exhausted.trans h.exhausted
  active := h'.active.trans h.active
  evidence := by rw [h'.evidence, h.evidence, Nat.add_assoc]

theorem Stores.foldl {α : Type} {f : CapturedProject → α → CapturedProject} {test : α → Bool}
    (h : ∀ p a, Stores (if test a then 1 else 0) p (f p a)) (l : List α) (p : CapturedProject) :
    Stores (l.countP test) p (l.foldl f p) := by
  induction l generalizing p with
  | nil => exact .refl p
  | cons a l ih =>
    have hboth := (h p a).trans (ih (f p a))
    rwa [Nat.add_comm, ← List.countP_cons] at hboth

theorem Stores.foldl_none {α : Type} {f : CapturedProject → α → CapturedProject}
    (h : ∀ p a, Stores 0 p (f p a)) (l : List α) (p : CapturedProject) :
    Stores 0 p (l.foldl f p) := by
  induction l generalizing p with
  | nil => exact .refl p
  | cons a l ih => exact (h p a).trans (ih (f p a))

theorem stores_modifyInstruction (id : String) (f : Instruction → Instruction)
    (p : CapturedProject) : Stores 0 p (p.modifyInstruction id f) :=
  ⟨rfl, rfl, rfl, rfl, rfl, rfl, rfl, rfl, rfl⟩

theorem Stores.ite {condition : Prop} [Decidable condition]
    {f : CapturedProject} (h : Stores 0 p f) : Stores 0 p (if condition then f else p) := by
  split
  · exact h
  · exact .refl p

theorem stores_dep (id : String) (key : StateKey) (value : Addr) (access : Access)
    (accepted : Bool) (kind : String) {amend : Dependency → Dependency}
    (hamend : ∀ d, (amend d).accepted = d.accepted ∧ (amend d).location = d.location)
    (p : CapturedProject) :
    Stores (if accepted && key.isMemory then 1 else 0) p
      (p.dep id key value access accepted kind amend) := by
  have hpushed : Stores (if accepted && key.isMemory then 1 else 0) p { p with
      dependencies := p.dependencies ++ [amend (p.dependencyOf id key value access accepted kind)]
      branchCounter := p.branchCounter + 1 } := by
    refine ⟨rfl, rfl, rfl, rfl, rfl, rfl, rfl, rfl, ?_⟩
    unfold evidence
    rw [List.countP_append, List.countP_singleton, (hamend _).1, (hamend _).2]
    rfl
  have hnoted (q : CapturedProject) : Stores 0 q (q.noteWriter id key value kind) :=
    ⟨rfl, rfl, rfl, rfl, rfl, rfl, rfl, rfl, rfl⟩
  exact (hpushed.trans (hnoted _).ite).trans (stores_modifyInstruction id _ _).ite

theorem amendRegister_keeps (lane : ℕ) (d : Dependency) :
    (amendRegister e lane d).accepted = d.accepted ∧
      (amendRegister e lane d).location = d.location := by
  unfold amendRegister
  split <;> exact ⟨rfl, rfl⟩

theorem amendAccess_keeps (a : Record) (d : Dependency) :
    (amendAccess a d).accepted = d.accepted ∧ (amendAccess a d).location = d.location := by
  unfold amendAccess
  split_ifs <;> exact ⟨rfl, rfl⟩

theorem stores_register (id name : String) (value : Addr) (access : Access) (kind : String)
    {amend : Dependency → Dependency}
    (hamend : ∀ d, (amend d).accepted = d.accepted ∧ (amend d).location = d.location)
    (p : CapturedProject) :
    Stores 0 p (p.dep id (.register name) value access true kind amend) :=
  stores_dep id (.register name) value access true kind hamend p

theorem stores_laneDependency (id : String) (info : OperandInfo) (e : Record)
    (p : CapturedProject) (lane : RegisterLane × ℕ) :
    Stores 0 p (laneDependency id info e p lane) := by
  have hread : Stores 0 p (if info.reads.getLsbD lane.2 then
      p.dep id (.register lane.1.name) (lane.1.read p.begun) .read true "cpu"
        (amendRegister e lane.2) else p) := by
    split
    · exact stores_register _ _ _ _ _ (amendRegister_keeps e lane.2) p
    · exact .refl p
  have hwrite (p : CapturedProject) (written : Bool) : Stores 0 p (if written then
      p.dep id (.register lane.1.name) (lane.1.read e) .write true "cpu" (fun d => d) else p) := by
    split
    · exact stores_register _ _ _ _ _ (fun _ => ⟨rfl, rfl⟩) p
    · exact .refl p
  exact (hread.trans (hwrite _ _)).trans (stores_modifyInstruction _ _ _)

theorem stores_accessDependency (id : String) (e : Record) (p : CapturedProject) (a : Record) :
    Stores (if a.isEvidence then 1 else 0) p (accessDependency id e p a) := by
  unfold accessDependency
  by_cases h : a.kind = .fetch ∨ a.kind = .inspection
  · have hnone : a.isEvidence = false := by
      rcases h with h | h
      · simp [Record.isEvidence, h]
      · simp [Record.isEvidence, h]
    rw [if_pos h, hnone]
    exact .refl p
  · have hcount : a.isEvidence = (a.accepted && (StateKey.memory a.location).isMemory) := by
      rw [not_or] at h
      simp [Record.isEvidence, StateKey.isMemory, h.1, h.2]
    rw [if_neg h, hcount]
    exact stores_dep _ _ _ _ _ _ (amendAccess_keeps a) p

theorem stores_boundaryDependency (p : CapturedProject) (lane : RegisterLane) :
    Stores 0 p (boundaryDependency e p lane) := by
  unfold boundaryDependency
  split
  · exact stores_register _ _ _ _ _ (fun _ => ⟨rfl, rfl⟩) p
  · exact .refl p

theorem stores_addEdge (e : Edge) (p : CapturedProject) : Stores 0 p (p.addEdge e) := by
  unfold addEdge
  split <;> exact ⟨rfl, rfl, rfl, rfl, rfl, rfl, rfl, rfl, rfl⟩

theorem stores_addEdges (id : String) (info : OperandInfo) (e : Record) (p : CapturedProject) :
    Stores 0 p (p.addEdges id info e) := by
  have hprevious : Stores 0 p (if p.previous ≠ "" then
      p.addEdge ⟨p.previous, p.begun.location, "observed", some id⟩ else p) :=
    (stores_addEdge _ p).ite
  unfold addEdges
  generalize (if p.previous ≠ "" then
    p.addEdge ⟨p.previous, p.begun.location, "observed", some id⟩ else p) = q at hprevious ⊢
  split
  · exact hprevious.trans (stores_addEdge _ q)
  · refine hprevious.trans (.ite ?_)
    have hfall (q : CapturedProject) : Stores 0 q (if info.conditional ∨ info.flow = .call then
        q.addEdge ⟨id, q.fallthroughTarget e, "fallthrough", none⟩ else q) :=
      (stores_addEdge _ q).ite
    exact ((stores_addEdge _ q).trans (hfall _)).trans (stores_addEdge _ _).ite

theorem stores_recordInstruction (id : String) (info : OperandInfo) (e : Record)
    (p : CapturedProject) : Stores 0 p (p.recordInstruction id info e) := by
  have hupsert (fresh : Instruction) (f : Instruction → Instruction) :
      Stores 0 p (p.upsertInstruction fresh f) := by
    unfold upsertInstruction
    split
    · exact stores_modifyInstruction _ _ p
    · exact ⟨rfl, rfl, rfl, rfl, rfl, rfl, rfl, rfl, rfl⟩
  have hlink (q : CapturedProject) : Stores 0 q (q.linkTransfer id) := by
    unfold linkTransfer
    split
    · exact .refl q
    · exact ⟨rfl, rfl, rfl, rfl, rfl, rfl, rfl, rfl, rfl⟩
  have hedges := (hupsert (p.freshInstruction id info e) (p.visitInstruction info e)).trans
    (stores_addEdges id info e _)
  have hlast (q : CapturedProject) (t : String → Transfer) :
      Stores 0 q { q.addTransfer t with previous := id } :=
    ⟨rfl, rfl, rfl, rfl, rfl, rfl, rfl, rfl, rfl⟩
  exact (hedges.trans (hlink _)).trans (hlast _ _)

theorem stores_recordInterrupt (p : CapturedProject) : Stores 0 p (p.recordInterrupt e) := by
  unfold recordInterrupt
  dsimp only
  split <;> exact ⟨rfl, rfl, rfl, rfl, rfl, rfl, rfl, rfl, rfl⟩

theorem stores_visitOfInstruction (id : String) (info : OperandInfo) (e : Record)
    (p : CapturedProject) :
    Stores (p.accesses.countP Record.isEvidence) p (p.visitOfInstruction id info e) := by
  have hrecorded := stores_recordInstruction id info e p
  have hlanes := Stores.foldl_none (stores_laneDependency id info e) p.core.lanes.zipIdx
    (p.recordInstruction id info e)
  have haccesses := Stores.foldl (stores_accessDependency id e) p.accesses
    (p.core.lanes.zipIdx.foldl (laneDependency id info e) (p.recordInstruction id info e))
  have hall := (hrecorded.trans hlanes).trans haccesses
  rwa [Nat.zero_add] at hall

theorem stores_visitOfBoundary (p : CapturedProject) :
    Stores (p.accesses.countP Record.isEvidence) p (p.visitOfBoundary e) := by
  have haccesses := (stores_recordInterrupt e p).trans
    (.foldl (stores_accessDependency "" e) p.accesses (p.recordInterrupt e))
  have hboundary (q : CapturedProject) : Stores 0 q (q.addBoundary e) :=
    ⟨rfl, rfl, rfl, rfl, rfl, rfl, rfl, rfl, rfl⟩
  have hlanes := Stores.foldl_none (stores_boundaryDependency e) p.core.lanes
    ((p.accesses.foldl (accessDependency "" e) (p.recordInterrupt e)).addBoundary e)
  have hall := (haccesses.trans (hboundary _)).trans hlanes
  rwa [Nat.zero_add, Nat.add_zero] at hall

variable (digest : List UInt8 → String)

theorem stores_recordVisit (e : Record) (p : CapturedProject) :
    Stores (p.accesses.countP Record.isEvidence) p (p.recordVisit digest e) := by
  have hvisit : Stores 0 p { p with visit := p.visit + 1, revision := p.revision + 1 } :=
    ⟨rfl, rfl, rfl, rfl, rfl, rfl, rfl, rfl, rfl⟩
  unfold recordVisit
  split
  · have hall (id : String) (info : OperandInfo) :=
      hvisit.trans (stores_visitOfInstruction id info e _)
    simp only [Nat.zero_add] at hall
    exact hall _ _
  · have hall := hvisit.trans (stores_visitOfBoundary e _)
    rwa [Nat.zero_add] at hall

structure Affords (charge : ℕ) (p : CapturedProject) : Prop where
  own : p.used + charge ≤ p.budget
  shared : ∀ shared, p.sharedBudget = some shared → shared.used + charge ≤ shared.maximum

/-- A charge that is afforded changes the budgets only. -/
theorem reserve_of_affords {charge rest : ℕ} (h : Affords (charge + rest) p) :
    ∃ used shared, p.reserve charge = some { p with used := used, sharedBudget := shared } ∧
      Affords rest { p with used := used, sharedBudget := shared } := by
  obtain ⟨hown, hshared⟩ := h
  unfold reserve
  rw [if_neg (by omega)]
  cases hp : p.sharedBudget with
  | none => exact ⟨_, none, rfl, by dsimp only; omega, nofun⟩
  | some budget =>
    have hbudget := hshared budget hp
    have hreserve : budget.reserve charge = some { budget with used := budget.used + charge } := by
      unfold StateBudget.reserve
      rw [if_pos (by omega)]
    refine ⟨p.used + charge, some { budget with used := budget.used + charge }, ?_, ?_, ?_⟩
    · dsimp only
      rw [hreserve]
      rfl
    · dsimp only
      omega
    · intro shared heq
      obtain rfl := Option.some.inj heq
      dsimp only
      omega

structure Idle (p : CapturedProject) : Prop where
  active : p.active = false
  exhausted : p.exhausted = false

/-- One piece of a capture: an instruction with the records inside of it, a boundary record, or an
input. -/
inductive StreamItem where
  | instruction (begin : Record) (body : List Record) (ending : Record)
  | boundary (r : Record)
  | input (r : Record)

namespace StreamItem

def records : StreamItem → List Record
  | .instruction begin body ending => begin :: body ++ [ending]
  | .boundary r => [r]
  | .input r => [r]

/-- The accepted accesses of a piece. -/
def evidence : StreamItem → ℕ
  | .instruction _ body _ => body.countP Record.isEvidence
  | .boundary r => [r].countP Record.isEvidence
  | .input _ => 0

/-- The bytes that the chunks of an instruction deliver. -/
def fetched (body : List Record) : List Byte :=
  body.flatMap fun r => if r.kind = .fetch then r.chunk else []

/-- The pieces that a core delivers, within the limits of an instruction. -/
def WellFormed (core : CapturedCore) : StreamItem → Prop
  | .instruction begin body ending => begin.kind = .begin ∧ ending.kind = .ending ∧
      (∀ r ∈ body, r.kind ∉ [.begin, .ending, .input]) ∧ body.length ≤ 2048 ∧
      (∀ r ∈ body, r.kind = .fetch → r.fetchLength ≤ 64) ∧
      (fetched body).length = ending.length ∧ ending.length ≤ maximumInstructionLength core.id
  | .boundary r => r.kind ∈ [.device, .dma, .write, .mapping]
  | .input r => r.kind = .input

instance decidableWellFormed (core : CapturedCore) :
    (item : StreamItem) → Decidable (item.WellFormed core)
  | .instruction begin body ending =>
    inferInstanceAs (Decidable (begin.kind = .begin ∧ ending.kind = .ending ∧
      (∀ r ∈ body, r.kind ∉ [.begin, .ending, .input]) ∧ body.length ≤ 2048 ∧
      (∀ r ∈ body, r.kind = .fetch → r.fetchLength ≤ 64) ∧
      (fetched body).length = ending.length ∧ ending.length ≤ maximumInstructionLength core.id))
  | .boundary r => inferInstanceAs (Decidable (r.kind ∈ [.device, .dma, .write, .mapping]))
  | .input r => inferInstanceAs (Decidable (r.kind = .input))

def charge : StreamItem → ℕ
  | .instruction _ body ending => 3072 + body.length * 768 + ending.length * 4
  | .boundary _ => 3840
  | .input _ => 512

end StreamItem

def streamCharge (items : List StreamItem) : ℕ := items.foldr (fun item n => item.charge + n) 0

def streamEvidence (items : List StreamItem) : ℕ := items.foldr (fun item n => item.evidence + n) 0

def ingestStream (items : List StreamItem) (p : CapturedProject) : CapturedProject :=
  (items.flatMap StreamItem.records).foldl (ingest digest) p

/-- Nothing of a stream is lost: no gap, no end of the capture, and one dependency for each
accepted access. -/
structure Captured (items : List StreamItem) (p p' : CapturedProject) : Prop where
  gaps : p'.gaps = p.gaps
  exhausted : p'.exhausted = false
  evidence : p'.evidence = p.evidence + streamEvidence items

/-- No boundary record comes after an instruction with bytes, `length` those of the last one. -/
def NoStaleBoundary (length : ℕ) : List StreamItem → Prop
  | [] => True
  | .instruction _ _ ending :: items => NoStaleBoundary ending.length items
  | .boundary _ :: items => length = 0 ∧ NoStaleBoundary length items
  | .input _ :: items => NoStaleBoundary length items

/-- The records inside of an instruction are collected. -/
theorem ingest_body {core : CapturedCore} (body : List Record)
    (hkinds : ∀ r ∈ body, r.kind ∉ [.begin, .ending, .input])
    (hchunks : ∀ r ∈ body, r.kind = .fetch → r.fetchLength ≤ 64) (p : CapturedProject)
    (hcore : p.core = core) (hactive : p.active = true) (hexhausted : p.exhausted = false)
    (haccesses : p.accesses.length + body.length ≤ 2048)
    (hlength : p.fetchedBytes.length + (StreamItem.fetched body).length ≤
      maximumInstructionLength core.id) :
    ∃ backings, body.foldl (ingest digest) p = { p with
      accesses := p.accesses ++ body
      fetchedBytes := p.fetchedBytes ++ StreamItem.fetched body
      fetchedBackings := backings } := by
  induction body generalizing p with
  | nil =>
    refine ⟨p.fetchedBackings, ?_⟩
    simp [StreamItem.fetched]
  | cons r body ih =>
    have hkind := hkinds r List.mem_cons_self
    simp only [List.mem_cons, List.not_mem_nil, or_false, not_or] at hkind
    have hrest : (StreamItem.fetched (r :: body)) =
        (if r.kind = .fetch then r.chunk else []) ++ StreamItem.fetched body := rfl
    rw [List.length_cons] at haccesses
    rw [hrest, List.length_append] at hlength
    have hone : ∃ backings, ingest digest p r = { p with
        accesses := p.accesses ++ [r]
        fetchedBytes := p.fetchedBytes ++ if r.kind = .fetch then r.chunk else []
        fetchedBackings := backings } := by
      have hadd (q : CapturedProject) (hq : q.accesses = p.accesses) :
          q.addAccess r = { q with accesses := q.accesses ++ [r] } := by
        unfold addAccess
        rw [if_neg (by rw [hq]; omega)]
      unfold ingest
      rw [if_neg (by rw [hexhausted]; decide), if_neg hkind.2.2, if_neg hkind.1, if_neg hkind.2.1,
        if_pos hactive]
      unfold ingestActive
      by_cases hfetch : r.kind = .fetch
      · have hle := hchunks r List.mem_cons_self hfetch
        rw [if_pos hfetch] at hlength ⊢
        have hchunk : r.chunk.length = r.fetchLength := by
          simp [Record.chunk, hle]
        by_cases hempty : r.fetchLength = 0
        · have hnil : r.chunk = [] := List.eq_nil_of_length_eq_zero (hchunk.trans hempty)
          rw [if_neg fun h => h.2 hempty, hadd p rfl, hnil, List.append_nil]
          exact ⟨p.fetchedBackings, rfl⟩
        · have hwithin : ¬ (64 < r.fetchLength ∨
              maximumInstructionLength p.core.id < p.fetchedBytes.length + r.fetchLength) := by
            rw [hcore]
            omega
          rw [if_pos ⟨hfetch, hempty⟩, if_neg hwithin, hadd (p.addChunk r) rfl]
          exact ⟨(p.addChunk r).fetchedBackings, rfl⟩
      · rw [if_neg fun h => hfetch h.1, if_neg hfetch, hadd p rfl, List.append_nil]
        exact ⟨p.fetchedBackings, rfl⟩
    obtain ⟨backings, hone⟩ := hone
    obtain ⟨last, hlast⟩ := ih (fun a ha => hkinds a (List.mem_cons_of_mem r ha))
      (fun a ha => hchunks a (List.mem_cons_of_mem r ha)) (ingest digest p r)
      (by rw [hone]; exact hcore) (by rw [hone]; exact hactive) (by rw [hone]; exact hexhausted)
      (by rw [hone, List.length_append, List.length_singleton]; omega)
      (by rw [hone, List.length_append]; omega)
    refine ⟨last, ?_⟩
    rw [List.foldl_cons, hlast, hone, hrest]
    simp only [List.append_assoc, List.singleton_append]

theorem Affords.mono {charge charge' : ℕ} (h : Affords charge p)
    (hle : charge' ≤ charge) : Affords charge' p where
  own := (Nat.add_le_add_left hle _).trans h.own
  shared shared heq := (Nat.add_le_add_left hle _).trans (h.shared shared heq)

/-- Between two instructions again, with `n` accesses stored, room for `rest`, and the bytes of the
last instruction still there. -/
structure Follows (n rest length : ℕ) (p q : CapturedProject) : Prop where
  idle : Idle q
  core : q.core = p.core
  affords : Affords rest q
  fetched : q.fetchedBytes.length = length
  gaps : q.gaps = p.gaps
  evidence : q.evidence = p.evidence + n

variable {rest : ℕ}

theorem finish_stores {e : Record} (hlength : p.core = .gamegear → p.fetchedBytes.length = e.length)
    (hafford : Affords (p.visitCharge e + rest) p) :
    ∃ used shared, Affords rest { p with used := used, sharedBudget := shared } ∧
      Stores (p.accesses.countP Record.isEvidence)
        { p with used := used, sharedBudget := shared } (p.finish digest e) := by
  obtain ⟨used, shared, hreserve, hrest⟩ := reserve_of_affords hafford
  refine ⟨used, shared, hrest, ?_⟩
  unfold finish
  rw [if_neg fun h => h.2 (hlength h.1), hreserve]
  exact stores_recordVisit digest e { p with used := used, sharedBudget := shared }

theorem Stores.affords {n : ℕ} (h : Stores n p q) (hafford : Affords rest p) : Affords rest q where
  own := by
    rw [h.used, h.budget]
    exact hafford.own
  shared := by
    rw [h.shared]
    exact hafford.shared

theorem ingest_instruction (hidle : Idle p) {begin ending : Record}
    {body : List Record} (hwell : (StreamItem.instruction begin body ending).WellFormed p.core)
    (hafford : Affords ((StreamItem.instruction begin body ending).charge + rest) p) :
    Follows (body.countP Record.isEvidence) rest ending.length p
      ((begin :: body ++ [ending]).foldl (ingest digest) p) := by
  obtain ⟨hbegin, hending, hkinds, haccesses, hchunks, hfetched, hmaximum⟩ := hwell
  have hfirst : ingest digest p begin = { p with
      begun := begin, accesses := [], fetchedBytes := [], fetchedBackings := [], active := true } := by
    unfold ingest
    rw [if_neg (by rw [hidle.exhausted]; decide), if_neg (by rw [hbegin]; decide), if_pos hbegin,
      ingestBegin, if_neg (by rw [hidle.active]; decide)]
  obtain ⟨backings, hbody⟩ := ingest_body digest body hkinds hchunks (ingest digest p begin)
    (by rw [hfirst]) (by rw [hfirst]) (by rw [hfirst]; exact hidle.exhausted)
    (by rw [hfirst]; simpa using haccesses)
    (by rw [hfirst]; simpa [hfetched] using hmaximum)
  rw [List.cons_append, List.foldl_cons, List.foldl_append, hbody, hfirst]
  simp only [List.nil_append, List.foldl_cons, List.foldl_nil]
  generalize hq : ({ p with
    begun := begin, accesses := body, fetchedBytes := StreamItem.fetched body
    fetchedBackings := backings, active := true } : CapturedProject) = q
  have hcharge : q.visitCharge ending ≤ (StreamItem.instruction begin body ending).charge := by
    have hbytes : (q.instructionBytes ending).length ≤ ending.length := by
      unfold instructionBytes
      split
      · rw [← hq]
        exact hfetched.le
      · rw [List.length_take]
        omega
    unfold visitCharge StreamItem.charge
    rw [← hq] at hbytes ⊢
    dsimp only at hbytes ⊢
    omega
  have hroom : Affords (q.visitCharge ending + rest) q := by
    have hsame : Affords ((StreamItem.instruction begin body ending).charge + rest) q := by
      rw [← hq]
      exact ⟨hafford.own, hafford.shared⟩
    exact hsame.mono (by omega)
  have hmatches : q.core = .gamegear → q.fetchedBytes.length = ending.length := by
    intro _
    rw [← hq]
    exact hfetched
  obtain ⟨used, shared, hrest, hstores⟩ := finish_stores digest hmatches hroom
  have hlast : ingest digest q ending = { q.finish digest ending with active := false } := by
    unfold ingest
    rw [if_neg (by rw [← hq]; simp [hidle.exhausted]), if_neg (by rw [hending]; decide),
      if_neg (by rw [hending]; decide), if_pos hending, if_pos (by rw [← hq])]
  rw [hlast]
  have hroom' := hstores.affords hrest
  constructor
  · exact ⟨rfl, hstores.exhausted.trans (by rw [← hq]; exact hidle.exhausted)⟩
  · exact hstores.core.trans (by rw [← hq])
  · exact ⟨hroom'.own, hroom'.shared⟩
  · refine (congrArg List.length hstores.fetched).trans ?_
    rw [← hq]
    exact hfetched
  · exact hstores.gaps.trans (by rw [← hq])
  · refine hstores.evidence.trans ?_
    rw [← hq]
    rfl

variable {r : Record}

theorem ingest_boundary_eq (hidle : Idle p) (hwell : (StreamItem.boundary r).WellFormed p.core) :
    ingest digest p r =
      { p with begun := {}, accesses := [r] }.finish digest { kind := .ending } := by
  have hkind : r.kind = .device ∨ r.kind = .dma ∨ r.kind = .write ∨ r.kind = .mapping := by
    simpa [StreamItem.WellFormed] using hwell
  have hother : r.kind ≠ .input ∧ r.kind ≠ .begin ∧ r.kind ≠ .ending := by
    rcases hkind with h | h | h | h
    all_goals
      rw [h]
      decide
  unfold ingest
  rw [if_neg (by rw [hidle.exhausted]; decide), if_neg hother.1, if_neg hother.2.1,
    if_neg hother.2.2, if_neg (by rw [hidle.active]; decide), if_pos hkind]

theorem ingest_boundary (hidle : Idle p) (hwell : (StreamItem.boundary r).WellFormed p.core)
    (hfresh : p.core = .gamegear → p.fetchedBytes.length = 0)
    (hafford : Affords ((StreamItem.boundary r).charge + rest) p) :
    Follows ([r].countP Record.isEvidence) rest p.fetchedBytes.length p (ingest digest p r) := by
  rw [ingest_boundary_eq digest hidle hwell]
  generalize hq : ({ p with begun := {}, accesses := [r] } : CapturedProject) = q
  have hcharge : q.visitCharge { kind := .ending } = 3840 := by
    have hbytes : (q.instructionBytes { kind := .ending }).length = 0 := by
      unfold instructionBytes
      split
      · next hcore =>
        rw [← hq] at hcore ⊢
        exact hfresh hcore
      · rfl
    have haccesses : q.accesses.length = 1 := by rw [← hq, List.length_singleton]
    unfold visitCharge
    rw [hbytes, haccesses]
  have hroom : Affords (q.visitCharge { kind := .ending } + rest) q := by
    rw [hcharge, ← hq]
    exact ⟨hafford.own, hafford.shared⟩
  have hmatches : q.core = .gamegear → q.fetchedBytes.length = 0 := by
    rw [← hq]
    exact hfresh
  obtain ⟨used, shared, hrest, hstores⟩ := finish_stores digest hmatches hroom
  constructor
  · constructor
    · exact hstores.active.trans (by rw [← hq]; exact hidle.active)
    · exact hstores.exhausted.trans (by rw [← hq]; exact hidle.exhausted)
  · exact hstores.core.trans (by rw [← hq])
  · exact hstores.affords hrest
  · refine (congrArg List.length hstores.fetched).trans ?_
    rw [← hq]
  · exact hstores.gaps.trans (by rw [← hq])
  · refine hstores.evidence.trans ?_
    rw [← hq]
    rfl

theorem ingest_input (hidle : Idle p) (hwell : (StreamItem.input r).WellFormed p.core)
    (hafford : Affords ((StreamItem.input r).charge + rest) p) :
    Follows 0 rest p.fetchedBytes.length p (ingest digest p r) := by
  have hkind : r.kind = .input := hwell
  obtain ⟨used, shared, hreserve, hrest⟩ := reserve_of_affords hafford
  have hcharge : (StreamItem.input r).charge = 512 := rfl
  rw [hcharge] at hreserve
  unfold ingest
  rw [if_neg (by rw [hidle.exhausted]; decide), if_pos hkind, ingestInput, hreserve]
  constructor
  · exact ⟨hidle.active, hidle.exhausted⟩
  · rfl
  · exact ⟨hrest.own, hrest.shared⟩
  · rfl
  · rfl
  · rfl

theorem ingest_stale_boundary (hidle : Idle p)
    (hwell : (StreamItem.boundary r).WellFormed p.core) (hcore : p.core = .gamegear)
    (hstale : p.fetchedBytes.length ≠ 0) : (ingest digest p r).exhausted = true := by
  have hstop : ({ p with begun := {}, accesses := [r] } : CapturedProject).core = .gamegear ∧
      ({ p with begun := {}, accesses := [r] } : CapturedProject).fetchedBytes.length ≠
        ({ kind := .ending } : Record).length := ⟨hcore, hstale⟩
  rw [ingest_boundary_eq digest hidle hwell, finish, if_pos hstop]
  rfl

theorem ingest_exhausted (h : p.exhausted = true) (records : List Record) :
    records.foldl (ingest digest) p = p := by
  induction records with
  | nil => rfl
  | cons r records ih =>
    rw [List.foldl_cons, ingest, if_pos h]
    exact ih

theorem ingestStream_cons (item : StreamItem) (items : List StreamItem) (p : CapturedProject) :
    ingestStream digest (item :: items) p =
      ingestStream digest items (item.records.foldl (ingest digest) p) := by
  unfold ingestStream
  rw [List.flatMap_cons, List.foldl_append]

theorem captured_cons_iff {item : StreamItem} {length : ℕ}
    (h : Follows item.evidence rest length p q) (items : List StreamItem) (r : CapturedProject) :
    Captured (item :: items) p r ↔ Captured items q r := by
  have hcount : p.evidence + streamEvidence (item :: items) =
      q.evidence + streamEvidence items := by
    rw [h.evidence, Nat.add_assoc]
    rfl
  constructor
  · rintro ⟨hgaps, hexhausted, hevidence⟩
    exact ⟨hgaps.trans h.gaps.symm, hexhausted, hevidence.trans hcount⟩
  · rintro ⟨hgaps, hexhausted, hevidence⟩
    exact ⟨hgaps.trans h.gaps, hexhausted, hevidence.trans hcount.symm⟩

/-- For every well-formed stream within the limits, from every project between two instructions:
nothing is lost just when the core is the Game Boy or no boundary record comes after an instruction
with bytes. -/
theorem ingestStream_captured_iff (items : List StreamItem) (p : CapturedProject) (hidle : Idle p)
    (hwell : ∀ item ∈ items, item.WellFormed p.core) (hafford : Affords (streamCharge items) p) :
    Captured items p (ingestStream digest items p) ↔
      p.core = .gameboy ∨ NoStaleBoundary p.fetchedBytes.length items := by
  induction items generalizing p with
  | nil => exact ⟨fun _ => .inr trivial, fun _ => ⟨rfl, hidle.exhausted, rfl⟩⟩
  | cons item items ih =>
    obtain ⟨hitem, hwell⟩ := List.forall_mem_cons.mp hwell
    have hstep {length : ℕ} {q : CapturedProject}
        (h : Follows item.evidence (streamCharge items) length p q)
        (hq : item.records.foldl (ingest digest) p = q) :
        Captured (item :: items) p (ingestStream digest (item :: items) p) ↔
          p.core = .gameboy ∨ NoStaleBoundary length items := by
      rw [ingestStream_cons, hq, captured_cons_iff h, ← h.core, ← h.fetched]
      rw [← h.core] at hwell
      exact ih q h.idle hwell h.affords
    cases item with
    | instruction begin body ending =>
      exact hstep (ingest_instruction digest hidle hitem hafford) rfl
    | input r => exact hstep (ingest_input digest hidle hitem hafford) rfl
    | boundary r =>
      by_cases hfresh : p.core = .gamegear → p.fetchedBytes.length = 0
      · rw [hstep (ingest_boundary digest hidle hitem hfresh hafford) rfl]
        refine or_congr_right' fun hcore => ?_
        have hgear : p.core = .gamegear := by
          cases h : p.core with
          | gameboy => exact absurd h hcore
          | gamegear => rfl
        exact ⟨fun h => ⟨hfresh hgear, h⟩, fun h => h.2⟩
      · obtain ⟨hcore, hstale⟩ := Classical.not_imp.mp hfresh
        have hstopped := ingest_stale_boundary digest hidle hitem hcore hstale
        have hrun : ingestStream digest (.boundary r :: items) p = ingest digest p r := by
          rw [ingestStream_cons]
          exact ingest_exhausted digest hstopped _
        rw [hrun]
        constructor
        · intro hcaptured
          exact absurd (hstopped.symm.trans hcaptured.exhausted) (by decide)
        · rintro (hboy | ⟨hempty, -⟩)
          · exact absurd (hboy.symm.trans hcore) (by decide)
          · exact absurd hempty hstale

def oneByte : StreamItem :=
  .instruction { kind := .begin }
    [{ kind := .fetch, fetchLength := 1 }, { kind := .read, origin := .cpu }]
    { kind := .ending, length := 1 }

def freshProject (core : CapturedCore) : CapturedProject :=
  { core := core, instanceId := "", budget := defaultBudget }

theorem ingestStream_captured_iff_oneByte :
    Captured [.input { kind := .input }, .boundary { kind := .device }, oneByte]
        (freshProject .gamegear)
        (ingestStream (fun _ => "") [.input { kind := .input }, .boundary { kind := .device }, oneByte]
          (freshProject .gamegear)) ↔
      CapturedCore.gamegear = .gameboy ∨
        NoStaleBoundary 0 [.input { kind := .input }, .boundary { kind := .device }, oneByte] :=
  ingestStream_captured_iff (fun _ => "") _ (freshProject .gamegear) ⟨rfl, rfl⟩
    (by decide +kernel) ⟨by decide +kernel, nofun⟩

/-- A device record behind an instruction ends a capture that lost nothing. -/
theorem device_after_instruction_stops :
    (∀ item ∈ [oneByte, .boundary { kind := .device }], item.WellFormed .gamegear) ∧
      ¬ Captured [oneByte, .boundary { kind := .device }] (freshProject .gamegear)
        (ingestStream (fun _ => "") [oneByte, .boundary { kind := .device }]
          (freshProject .gamegear)) := by
  refine ⟨by decide +kernel, fun h => ?_⟩
  have hexhausted := h.exhausted
  revert hexhausted
  decide +kernel

end CapturedProject

end ProtoTime.Space
