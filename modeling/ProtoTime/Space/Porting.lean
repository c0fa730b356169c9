import Mathlib.Data.List.Sort
import ProtoTime.Json
import ProtoTime.Results
import ProtoTime.Tiling

/-!
The port ledger of a project: what makes a ledger well formed, and what the
accounting over an accepted one reports. The digest of some bytes is the parameter
`digest`; a set of texts or numbers is the list of its members.
-/
namespace ProtoTime.Space

open Results Tiling

def need (condition : Bool) (reason : String) : Except String Unit := require condition reason

def decimal (v : Nat) : String :=
  String.ofList ((Json.decimalDigits v).map fun d => Char.ofNat (48 + d))

def digitValue (base : Nat) (c : Char) : Option Nat :=
  let n := c.toNat
  let value :=
    if '0' ≤ c ∧ c ≤ '9' then n - 48
    else if 'a' ≤ c ∧ c ≤ 'z' then n - 87
    else if 'A' ≤ c ∧ c ≤ 'Z' then n - 55
    else base
  if value < base then some value else none

/-- The number a whole text spells, when it fits the type it is read into. -/
def fromChars (base limit : Nat) (text : List Char) : Option Nat := do
  let digits ← text.mapM (digitValue base)
  if digits.isEmpty then none
  else
    let value := digits.foldl (fun v d => v * base + d) 0
    if value < limit then some value else none

def counter : Json → Except String Nat
  | .str s =>
    match fromChars 10 (2 ^ 64) s.toList with
    | some v => .ok v
    | none => .error "invalid counter"
  | _ => .error "counter must be a decimal string"

/-- Every byte of the text is one of the characters `0` to `9` and `a` to `f`. -/
def isHex (s : String) : Bool :=
  (utf8 s).all fun b => isDigitByte b || (decide (97 ≤ b) && decide (b ≤ 102))

def hash (v : Json) : Except String Unit := do
  let s ← v.asString
  need (s.utf8ByteSize == 64 && isHex s) "invalid port digest"

def natural (value : Json) (maximum : Nat) : Except String Nat :=
  match value with
  | .int n =>
    if 0 ≤ n ∧ n ≤ maximum then .ok n.toNat else .error "invalid port numeric range"
  | _ => .error "invalid port numeric range"

def range (r : Json) (size : Nat) : Except String Span := do
  let a ← counter (← r.field "offset")
  let n ← counter (← r.field "length")
  need (decide (0 < n) && decide (a < size) && decide (n ≤ size - a)) "invalid port byte range"
  return (a, a + n)

def ids (a : Json) : Except String (List String) := do
  need a.isArray "port collection must be an array"
  a.elements.foldlM (fun seen r => do
    let id ← (← r.field "id").asString
    need (id != "" && decide (id.utf8ByteSize ≤ 256) && !seen.contains id)
      "duplicate/invalid port ID"
    return id :: seen) []

def refs (a : Json) (known : List String) : Except String Unit := do
  need a.isArray "port references must be an array"
  let _ ← a.elements.foldlM (fun (seen : List String) v => do
    let s ← v.asString
    need (known.contains s && !seen.contains s) "unknown/duplicate port reference"
    return s :: seen) []

def reviewed (v : Json) : Except String Bool := do
  if ← (← v.field "reviewed").asBool then return !(← v.field "evidence").isEmpty
  else return false

section
variable (digest : List UInt8 → String)

/-- What a verification record is bound to: the ledger less its revision and its records. -/
def content (p : Json) : Except String Json := do
  let b ← p.erase "revision"
  b.erase "verification"

def portBinding (p : Json) : Except String String := do
  let b ← content p
  return digest b.dump

/-! ## The checks of a ledger, in their order -/

/-- The comparison with a small number. -/
def isNumber (n : Nat) : Json → Bool
  | .int m => m == n
  | .float f => f.text == utf8 (decimal n ++ ".0")
  | _ => false

structure Sides where
  core : String
  size : Nat
  targetCore : String
  targetSize : Nat

def portedCores (source target : Json) : Except String Bool := do
  let core ← source.field "core"
  if core.isText "gameboy" then return (← target.field "core").isText "gamegear"
  else if core.isText "gamegear" then return (← target.field "core").isText "gameboy"
  else return false

def sidesMatch (j source target : Json) : Except String Bool := do
  if (← source.field "sha256") = (← j.field "romSha256") then
    if (← source.field "core") = (← j.field "core") then portedCores source target
    else return false
  else return false

def isPortSize (size : Nat) : Bool := decide (0 < size) && decide (size ≤ 64 * 1024 * 1024)

def validateSides (j p : Json) : Except String Sides := do
  need (isNumber 1 (← p.field "version")) "unsupported porting version"
  let _ ← counter (← p.field "revision")
  hash (← p.field "buildSha256")
  hash (← p.field "sourceSha256")
  hash (← p.field "assetSha256")
  let source ← p.field "source"
  let target ← p.field "target"
  hash (← source.field "sha256")
  hash (← target.field "sha256")
  need (← sidesMatch j source target) "port ROM/core mismatch"
  let size ← counter (← source.field "size")
  let targetSize ← counter (← target.field "size")
  need (isPortSize size && isPortSize targetSize) "invalid port ROM size"
  let core ← (← source.field "core").asString
  let targetCore ← (← target.field "core").asString
  return { core, size, targetCore, targetSize }

structure Names where
  inventory : List String
  contracts : List String
  scenarios : List String

def scenarioNames (a : Json) : Except String (List String) := do
  need (a.isArray && !a.isEmpty) "missing required verification scenarios"
  a.elements.foldlM (fun seen s => do
    let name ← s.asString
    need (name != "" && !seen.contains name) "duplicate/invalid scenario"
    return name :: seen) []

def validateNames (p : Json) : Except String Names := do
  let inventory ← ids (← p.field "inventory")
  let contracts ← ids (← p.field "contracts")
  let scenarios ← scenarioNames (← p.field "requiredScenarios")
  let _ ← ids (← p.field "mappings")
  let _ ← ids (← p.field "hardware")
  let _ ← ids (← p.field "controlFlow")
  let _ ← ids (← p.field "verification")
  return { inventory, contracts, scenarios }

/-- The keys are read up to the first that holds no array. -/
def areArrays (j : Json) : List String → Except String Bool
  | [] => .ok true
  | key :: keys => do
    if (← j.field key).isArray then areArrays j keys else return false

def validateEvidence (p : Json) : Except String Unit := do
  need (← areArrays p ["supplementalEvidence", "assumptions"])
    "invalid port evidence/assumptions"
  let supplemental ← p.field "supplementalEvidence"
  let source ← p.field "source"
  supplemental.elements.forM fun e => do
    hash (← e.field "sha256")
    let _ ← (← e.field "kind").asString
    let _ ← (← e.field "path").asString
    need (decide ((← e.field "romSha256") = (← source.field "sha256")))
      "unmatched supplemental evidence"

def validateContract (c : Json) : Except String Unit := do
  let text ← (← c.field "text").asString
  hash (← c.field "sha256")
  need ((← c.field "sha256").isText (digest (utf8 text))) "contract digest mismatch"

def validateModel (model : Json) (size : Nat) : Except String (List Nat) := do
  need (← areArrays model ["banks", "entryPoints", "evidence"])
    "invalid bounded control-flow model"
  let _ ← (← model.field "reviewed").asBool
  let _ ← (← model.field "ramExecution").asBool
  let _ ← natural (← model.field "stackBytes") 8192
  (← model.field "banks").elements.foldlM (fun banks bank => do
    let b ← natural bank 4095
    need (decide (b * 16384 < size) && !banks.contains b) "invalid legal bank"
    return b :: banks) []

structure Inventory where
  ranges : List Span
  staticInstructions : List String
  entryLocations : List Nat

def maximumInstructionLength (core : String) : Nat :=
  if core == "gamegear" then 65539 else 3

def romLocation (x : Nat) : Nat := 1 <<< 32 ||| (x / 16384) <<< 16 ||| x % 16384

/-- The text a ROM instruction is identified by. -/
def instructionIdentity (core : String) (location length : Nat) (hex : String) : List UInt8 :=
  let identity := utf8 (decimal location ++ ":" ++ hex)
  if core == "gamegear" then
    identity ++ byte ':' :: (Json.arr [.obj [("length", .int length),
      ("location", .str (decimal location)), ("offset", .int 0)]]).dump
  else identity

/-- A captured instruction of the same identity has the same bytes and location. -/
def validateCaptured (j : Json) (id hex : String) (location : Nat) : Except String Unit := do
  match (← j.field "instructions").find? id with
  | none => return ()
  | some captured =>
    if (← captured.field "bytes").isText hex then
      need ((← counter (← captured.field "location")) == location)
        "captured/static instruction mismatch"
    else throw "captured/static instruction mismatch"

def inventoryInstruction (j : Json) (sides : Sides) (kind : String) (b : Nat)
    (s : Nat × Inventory) (i : Json) : Except String (Nat × Inventory) := do
  need (kind == "code") "non-code instruction inventory"
  let (x, y) ← range i sides.size
  need (x == s.1 && decide (y ≤ b) && decide (y - x ≤ maximumInstructionLength sides.core))
    "invalid inventory instruction boundary"
  let id ← (← i.field "id").asString
  hash (← i.field "id")
  need (!s.2.staticInstructions.contains id) "duplicate static instruction"
  let hex ← (← i.field "bytes").asString
  need (hex.utf8ByteSize == (y - x) * 2 && isHex hex) "invalid inventory instruction bytes"
  let location ← counter (← i.field "location")
  need (location == romLocation x) "invalid inventory instruction location"
  need (id == digest (instructionIdentity sides.core location (y - x) hex))
    "invalid stable port instruction identity"
  validateCaptured j id hex location
  return (y, { s.2 with
    staticInstructions := id :: s.2.staticInstructions
    entryLocations := location :: s.2.entryLocations })

def isRegionKind (kind : String) : Bool :=
  ["code", "data", "header", "padding", "unknown", "ambiguous"].contains kind

/-- The CPU address a ROM offset of a bank may be given. -/
def mapsTo (core : String) (bank address a : Nat) : Bool :=
  if core == "gameboy" then address == (if bank = 0 then 0 else 16384) + a % 16384
  else decide (address < 49152) && address % 16384 == a % 16384

def inventoryRegion (j : Json) (sides : Sides) (s : Inventory) (r : Json) :
    Except String Inventory := do
  let (a, b) ← range r sides.size
  hash (← r.field "sha256")
  let kind ← (← r.field "kind").asString
  need (isRegionKind kind) "invalid inventory classification"
  let _ ← (← r.field "reviewed").asBool
  need (← r.field "evidence").isArray "inventory evidence must be an array"
  let bank ← natural (← r.field "bank") 4095
  let address ← natural (← r.field "address") 65535
  need (a / 16384 == bank && (b - 1) / 16384 == bank && mapsTo sides.core bank address a)
    "invalid physical bank/address mapping"
  need (← r.field "instructions").isArray "invalid instruction inventory"
  let (cursor, s) ← (← r.field "instructions").elements.foldlM
    (inventoryInstruction digest j sides kind b) (a, { s with ranges := s.ranges ++ [(a, b)] })
  need (kind != "code" || cursor == b) "code inventory needs all instruction boundaries"
  return s

def spanLe (r s : Span) : Bool := decide (r.1 < s.1) || (r.1 == s.1 && decide (r.2 ≤ s.2))

/-- The ranges, sorted, have to follow each other without a gap. -/
def partition (ranges : List Span) (size : Nat) : Except String Unit := do
  let last ← (ranges.insertionSort fun r s => spanLe r s = true).foldlM (fun last r => do
    need (r.1 == last) "inventory must partition every source ROM byte without overlap"
    return r.2) 0
  need (last == size) "incomplete physical inventory"

def isEntryAddress (core : String) (bank address : Nat) : Bool :=
  if core == "gameboy" then
    decide (address < 32768) &&
      if bank = 0 then decide (address < 16384) else decide (16384 ≤ address)
  else decide (address < 49152)

def modelEntry (core : String) (banks locations entries : List Nat) (e : Json) :
    Except String (List Nat) := do
  let text ← e.asString
  need (text.toList.contains ':') "invalid model entry"
  let low := text.toList.takeWhile (· != ':')
  let high := text.toList.drop (low.length + 1)
  match fromChars 10 (2 ^ 32) low, fromChars 16 (2 ^ 32) high with
  | some bank, some address =>
    need (banks.contains bank && isEntryAddress core bank address) "invalid model bank/entry"
    let location := 1 <<< 32 ||| bank <<< 16 ||| address &&& 16383
    need (locations.contains location && !entries.contains location)
      "unknown/duplicate model instruction entry"
    return location :: entries
  | _, _ => throw "invalid model bank/entry"

/-- The identities of the instructions of the regions a mapping names. -/
def ownedInstructions (p m : Json) : Except String (List String) := do
  let regions := (← m.field "sourceRegions").elements
  (← p.field "inventory").elements.foldlM (fun owned r => do
    if regions.contains (← r.field "id") then
      let names ← (← r.field "instructions").elements.mapM fun i => do (← i.field "id").asString
      return owned ++ names
    else return owned) []

def targetMaps (core : String) (r : Json) (a : Nat) : Except String Bool := do
  if core == "gameboy" then
    return (← natural (← r.field "address") 65535) ==
      (if a / 16384 = 0 then 0 else 16384) + a % 16384
  else
    let address ← natural (← r.field "address") 65535
    return decide (address < 49152) && address % 16384 == a % 16384

def validateTarget (sides : Sides) (r : Json) : Except String Unit := do
  let (a, b) ← range r sides.targetSize
  let bank ← natural (← r.field "bank") 4095
  if bank == a / 16384 && (b - 1) / 16384 == a / 16384 then
    need (← targetMaps sides.targetCore r a) "invalid target bank/address mapping"
  else throw "invalid target bank/address mapping"
  hash (← r.field "sha256")

def validateMapping (sides : Sides) (names : Names) (staticInstructions : List String)
    (p m : Json) : Except String Unit := do
  let kind ← (← m.field "kind").asString
  need (kind == "translation" || kind == "replacement") "invalid conversion record kind"
  refs (← m.field "sourceRegions") names.inventory
  need (!(← m.field "sourceRegions").isEmpty) "mapping needs source region"
  refs (← m.field "instructions") staticInstructions
  refs (← m.field "instructions") (← ownedInstructions p m)
  refs (← m.field "contracts") names.contracts
  need (!(← m.field "targets").isEmpty) "mapping needs target bytes"
  let _ ← (← m.field "implemented").asBool
  let _ ← (← m.field "reviewed").asBool
  need (← m.field "evidence").isArray "invalid conversion evidence"
  (← m.field "targets").elements.forM (validateTarget sides)
  need (kind != "replacement" || !(← m.field "contracts").isEmpty) "replacement needs a contract"

def validateObligation (names : Names) (o : Json) : Except String Unit := do
  refs (← o.field "contracts") names.contracts
  need (!(← o.field "contracts").isEmpty) "obligation needs contracts"
  let _ ← (← o.field "implemented").asBool
  let _ ← (← o.field "reviewed").asBool
  need (← o.field "evidence").isArray "invalid obligation evidence"

def isVerificationType (type : String) : Bool :=
  ["behavioral", "independent", "live", "viewer"].contains type

def isVerificationStatus (status : String) : Bool :=
  ["passed", "failed", "not run"].contains status

/-- What two records of one outcome agree on; the keys stand in their order. -/
def verificationScope (v : Json) : Except String (List UInt8) := do
  let fields ← ["artifacts", "binding", "contracts", "scenarios", "tools", "type"].mapM
    fun key => do return (key, ← v.field key)
  return (Json.obj fields).dump

def validateVerification (names : Names) (results : List (List UInt8 × String)) (v : Json) :
    Except String (List (List UInt8 × String)) := do
  hash (← v.field "binding")
  refs (← v.field "contracts") names.contracts
  let type ← (← v.field "type").asString
  let status ← (← v.field "status").asString
  need (isVerificationType type) "invalid verification type"
  need (isVerificationStatus status) "invalid verification status"
  let scenarios ← v.field "scenarios"
  need (scenarios.isArray && !scenarios.isEmpty) "verification needs scenarios/artifacts"
  let artifacts ← v.field "artifacts"
  need (artifacts.isArray && !artifacts.isEmpty) "verification needs scenarios/artifacts"
  refs scenarios names.scenarios
  artifacts.elements.forM fun a => do
    hash (← a.field "sha256")
    let _ ← (← a.field "path").asString
  let tools ← v.field "tools"
  need (tools.isArray && !tools.isEmpty) "verification needs tool identities"
  tools.elements.forM fun t => do
    let _ ← (← t.field "name").asString
    let _ ← (← t.field "version").asString
    hash (← t.field "sha256")
  let evidence ← v.field "evidence"
  need (evidence.isArray && !evidence.isEmpty) "verification needs evidence"
  let key ← verificationScope v
  match results.lookup key with
  | some known => need (known == status) "conflicting verification outcomes"
  | none => pure ()
  return (key, status) :: results

/-- The loop over the regions, from which the rest of the ledger is checked. -/
def inventoryOf (j : Json) (sides : Sides) (p : Json) : Except String Inventory := do
  (← p.field "inventory").elements.foldlM (inventoryRegion digest j sides) ⟨[], [], []⟩

def validateLedger (j p : Json) : Except String Unit := do
  let sides ← validateSides j p
  let names ← validateNames p
  validateEvidence p
  (← p.field "contracts").elements.forM (validateContract digest)
  let model ← p.field "model"
  let banks ← validateModel model sides.size
  let inventory ← inventoryOf digest j sides p
  partition inventory.ranges sides.size
  let _ ← (← model.field "entryPoints").elements.foldlM
    (modelEntry sides.core banks inventory.entryLocations) []
  (← p.field "mappings").elements.forM (validateMapping sides names inventory.staticInstructions p)
  (← p.field "hardware").elements.forM (validateObligation names)
  (← p.field "controlFlow").elements.forM (validateObligation names)
  let _ ← (← p.field "verification").elements.foldlM (validateVerification names) []

def validatePorting (j : Json) : Except String Unit :=
  match j.find? "porting" with
  | none => .ok ()
  | some p => validateLedger digest j p

/-! ## The accounting -/

structure Coverage where
  regions : List String
  instructions : List String

def strings (j : Json) : Except String (List String) := j.elements.mapM Json.asString

def addCoverage (s : Coverage) (m : Json) : Except String Coverage := do
  if ← (← m.field "implemented").asBool then
    if ← reviewed m then
      return {
        regions := s.regions ++ (← strings (← m.field "sourceRegions"))
        instructions := s.instructions ++ (← strings (← m.field "instructions")) }
    else return s
  else return s

def coverageOf (p : Json) : Except String Coverage := do
  (← p.field "mappings").elements.foldlM addCoverage ⟨[], []⟩

def isConverted (kind : String) : Bool := ["code", "data", "header"].contains kind

def instructionProblem (s : Coverage) (i : Json) : Except String (List String) := do
  let id ← (← i.field "id").asString
  return if s.instructions.contains id then [] else ["unconverted instruction: " ++ id]

def regionProblems (s : Coverage) (r : Json) : Except String (List String) := do
  let kind ← (← r.field "kind").asString
  let id ← (← r.field "id").asString
  let open' := !(← reviewed r) || kind == "unknown" || kind == "ambiguous"
  let instructions ← (← r.field "instructions").elements.mapM (instructionProblem s)
  return (if open' then ["unreviewed/unknown region: " ++ id] else [])
    ++ (if isConverted kind && !s.regions.contains id then ["unconverted region: " ++ id] else [])
    ++ instructions.flatten

def obligationProblem (key : String) (o : Json) : Except String (List String) := do
  let closed ← if ← (← o.field "implemented").asBool then reviewed o else pure false
  if closed then return []
  else return ["open " ++ key ++ ": " ++ (← (← o.field "id").asString)]

def obligationProblems (p : Json) (key : String) : Except String (List String) := do
  let obligations ← p.field key
  let problems ← obligations.elements.mapM (obligationProblem key)
  return (if obligations.isEmpty then ["missing " ++ key ++ " obligations"] else [])
    ++ problems.flatten

def modelProblem (p : Json) : Except String (List String) := do
  let model ← p.field "model"
  let closed := (← reviewed model) && !(← (← model.field "ramExecution").asBool)
    && !(← model.field "banks").isEmpty && !(← model.field "entryPoints").isEmpty
    && (← natural (← model.field "stackBytes") 8192) != 0
  return if closed then [] else ["bounded control-flow model is not closed"]

/-- A record names every required scenario and every contract. -/
def isScoped (p v : Json) : Except String Bool := do
  let scenarios := (← v.field "scenarios").elements
  let contracts := (← v.field "contracts").elements
  let known ← (← p.field "contracts").elements.mapM (Json.field "id")
  return (← p.field "requiredScenarios").elements.all scenarios.contains
    && known.all contracts.contains

/-- A record counts when it is bound to the present content, passed and complete in scope. -/
def counts (binding : String) (p v : Json) : Except String Bool := do
  if (← v.field "binding").isText binding then
    if (← v.field "status").isText "passed" then isScoped p v else return false
  else return false

def reportedRecord (binding : String) (v : Json) : Except String Json := do
  if (← v.field "binding").isText binding then return v
  else v.set "status" (.str "stale")

def passedTypes (binding : String) (p : Json) : Except String (List String) := do
  (← p.field "verification").elements.foldlM (fun passed v => do
    if ← counts binding p v then return (← (← v.field "type").asString) :: passed
    else return passed) []

def portProblems (p : Json) : Except String (List String) := do
  let coverage ← coverageOf p
  let regions ← (← p.field "inventory").elements.mapM (regionProblems coverage)
  let hardware ← obligationProblems p "hardware"
  let controlFlow ← obligationProblems p "controlFlow"
  return regions.flatten ++ hardware ++ controlFlow ++ (← modelProblem p)

def isGate (complete : Bool) (passed : List String) : Bool :=
  complete && ["behavioral", "independent", "live"].all passed.contains

def checkPorting (j : Json) : Except String Json := do
  validatePorting digest j
  match j.find? "porting" with
  | none => throw "project has no port ledger"
  | some p =>
    let problems ← portProblems p
    let binding ← portBinding digest p
    let passed ← passedTypes binding p
    let verification ← (← p.field "verification").elements.mapM (reportedRecord binding)
    let complete := problems.isEmpty
    return .obj [
      ("assumptions", ← p.field "assumptions"),
      ("binding", .str binding),
      ("complete", .bool complete),
      ("liveAcceptance", .str (if passed.contains "live" then "passed" else "not run")),
      ("problems", .arr (problems.map .str)),
      ("revision", ← p.field "revision"),
      ("stage5Gate", .bool (isGate complete passed)),
      ("verification", .arr verification)]

end

/-! ## Changes of the ledger

The validation of a whole project is a parameter here: the changes only ask
whether it accepts.
-/

section
variable (digest : List UInt8 → String) (numbers : Json.NumberComparison)
  (validate : Json → Except String Unit)

/-- The project with the next revision, unless nothing changed. -/
def revised (j next : Json) : Except String Json := do
  if Json.same numbers next j then return next
  else next.set "revision" (.str (decimal ((← counter (← j.field "revision")) + 1)))

def attachPorting (j p : Json) : Except String Json := do
  let next ← j.set "porting" p
  validate next
  revised numbers j next

def recordVerification (j v : Json) : Except String Json := do
  match j.find? "porting" with
  | none => throw "project has no port ledger"
  | some p =>
    need ((← v.field "binding").isText (← portBinding digest p))
      "verification artifact/contract binding mismatch"
    let id ← v.field "id"
    let records := (← p.field "verification").elements
    let ids ← records.mapM (Json.field "id")
    match (ids.zip records).find? fun old => Json.same numbers old.1 id with
    | some (_, old) =>
      need (Json.same numbers old v) "conflicting verification record"
      return j
    | none =>
      let p ← p.set "verification" (.arr (records ++ [v]))
      let p ← p.set "revision" (.str (decimal ((← counter (← p.field "revision")) + 1)))
      let next ← j.set "porting" p
      validate next
      revised numbers j next

end

end ProtoTime.Space
