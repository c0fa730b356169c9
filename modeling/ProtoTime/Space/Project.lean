import ProtoTime.Space.Porting

/-!
The documents of captured projects: what the validation of a document checks, in
its order. The check of an archived analysis is the parameter `validateAnalysis`.
-/
namespace ProtoTime.Space

open Results

/-! ## The budget -/

structure StateBudget where
  used : Nat
  maximum : Nat

/-- The charge is taken when it still fits. -/
def StateBudget.reserve (b : StateBudget) (charge : Nat) : Option StateBudget :=
  if charge ≤ b.maximum - min b.maximum b.used then some { b with used := b.used + charge }
  else none

/-! ## The cores -/

/-- A core as documents name it: its register lanes with the largest value of each. -/
structure CoreModel where
  id : String
  pairs : Nat
  lanes : List (String × Nat)

def gameboyModel : CoreModel where
  id := "gameboy"
  pairs := 6
  lanes := [("A", 255), ("F", 255), ("B", 255), ("C", 255), ("D", 255), ("E", 255), ("H", 255),
    ("L", 255), ("SP", 65535), ("PC", 65535)]

def gamegearModel : CoreModel where
  id := "gamegear"
  pairs := 20
  lanes := [("A", 255), ("F", 255), ("B", 255), ("C", 255), ("D", 255), ("E", 255), ("H", 255),
    ("L", 255), ("SP", 65535), ("PC", 65535), ("IX", 65535), ("IY", 65535), ("A'", 255),
    ("F'", 255), ("B'", 255), ("C'", 255), ("D'", 255), ("E'", 255), ("H'", 255), ("L'", 255),
    ("I", 255), ("R", 255), ("IFF1", 1), ("IFF2", 1), ("IME", 1), ("IM", 2), ("HALT", 1),
    ("EI_DELAY", 2)]

def coreModel (id : String) : Except String CoreModel :=
  if id = "gameboy" then .ok gameboyModel
  else if id = "gamegear" then .ok gamegearModel
  else .error "unsupported S.P.A.C.E. core"

namespace CoreModel

/-- The largest address space a location of the core may name. -/
def maximumSpace (model : CoreModel) : Nat := if model.id == "gamegear" then 11 else 6

def laneMaximum (model : CoreModel) (name : String) : Nat := (model.lanes.lookup name).getD 65535

end CoreModel

def stripPrefix (start text : String) : Option String :=
  if start.toList.isPrefixOf text.toList then
    some (String.ofList (text.toList.drop start.length))
  else none

def bounded (value : Json) (maximum : Nat) : Except String Nat :=
  match value with
  | .int n => if 0 ≤ n ∧ n ≤ maximum then .ok n.toNat else .error "invalid numeric range"
  | _ => .error "invalid numeric range"

/-- The keys are read up to the first whose value has another shape. -/
def haveShapes (j : Json) : List (String × (Json → Bool)) → Except String Bool
  | [] => .ok true
  | (key, shape) :: shapes => do
    if shape (← j.field key) then haveShapes j shapes else return false

/-- A check of a part that may be left out. -/
def ifPresent (j : Json) (key : String) (check : Json → Except String Unit) :
    Except String Unit :=
  match j.find? key with
  | none => .ok ()
  | some v => check v

def checkCounter (v : Json) : Except String Unit := do let _ ← counter v

def isMemoryKey (key : String) : Bool := (stripPrefix "m:" key).isSome

/-! ## The checks of a document -/

section
variable (model : CoreModel)

def checkKey (key : String) : Except String Unit := do
  match stripPrefix "m:" key with
  | some address =>
    need (decide ((← counter (.str address)) >>> 32 ≤ model.maximumSpace)) "invalid address space"
  | none =>
    match stripPrefix "r:" key with
    | some lane => need (model.lanes.any fun known => known.1 == lane) "invalid register"
    | none => throw "invalid state location"

def checkCaptures (captures : Json) : Except String Unit := do
  need captures.isObject "invalid captures"
  captures.entries.forM fun entry => do
    checkKey model entry.1
    let _ ← counter (← entry.2.field "sequence")
    let _ ← (← entry.2.field "branch").asString
    let _ ← bounded (← entry.2.field "value") (if isMemoryKey entry.1 then 255 else 65535)

def checkRegisters (registers : Json) : Except String Unit := do
  need registers.isObject "invalid registers"
  registers.entries.forM fun entry => do
    checkKey model ("r:" ++ entry.1)
    let _ ← bounded entry.2 (model.laneMaximum entry.1)

/-- An instruction reference that may be empty. -/
def checkInstruction (instructions v : Json) (reason : String) : Except String Unit := do
  let id ← v.asString
  need (id == "" || instructions.contains id) reason

def validateHistory (instructions h : Json) : Except String Unit := do
  let _ ← counter (← h.field "visit")
  let _ ← (← h.field "branch").asString
  ifPresent h "inputPosition" checkCounter
  need (← haveShapes h [("writers", Json.isObject), ("values", Json.isObject),
    ("views", Json.isObject)]) "invalid history maps"
  let writers ← h.field "writers"
  let values ← h.field "values"
  let views ← h.field "views"
  need (writers.size == values.size) "invalid history maps"
  writers.entries.forM fun entry => do
    checkKey model entry.1
    match values.find? entry.1 with
    | none => throw "missing writer value"
    | some value =>
      let _ ← bounded value (if isMemoryKey entry.1 then 255 else 65535)
      let _ ← counter (← entry.2.field "sequence")
      checkInstruction instructions (← entry.2.field "instruction") "unknown history supplier"
  views.entries.forM fun entry => do
    need (instructions.contains entry.1) "invalid history view"
    checkCaptures model (← entry.2.field "captures")
    checkRegisters model (← entry.2.field "registers")
    let lastVisit ← entry.2.field "lastVisit"
    let _ ← counter (← lastVisit.field "sequence")
    let _ ← (← lastVisit.field "branch").asString

def validateAnnotation (a : Json) : Except String Unit := do
  let _ ← (← a.field "text").asString
  let kind ← (← a.field "kind").asString
  need (["inference", "confirmed", "correction"].contains kind) "invalid annotation kind"
  ifPresent a "finding" fun finding => do
    let finding ← finding.asString
    let analysis ← (← a.field "analysisId").asString
    [finding, analysis].forM fun id =>
      need (id.utf8ByteSize == 64 && isHex id) "invalid archived finding link"

def validateAnnotations (instructions annotations : Json) : Except String Unit :=
  annotations.entries.forM fun entry => do
    need (instructions.contains entry.1 && entry.2.isArray) "invalid annotation target"
    entry.2.elements.forM validateAnnotation

structure FetchRuns where
  next : Nat
  previousEnd : Nat

def fetchRun (n : Json) (len : Nat) (s : FetchRuns) (run : Json) : Except String FetchRuns := do
  let offset ← bounded (← run.field "offset") len
  let length ← bounded (← run.field "length") len
  let backing ← counter (← run.field "location")
  need (offset == s.next && length != 0 && decide (length ≤ len - s.next)
    && decide (backing >>> 32 ≤ model.maximumSpace)) "invalid fetch backing extent"
  need (s.next == 0 || backing != s.previousEnd) "noncanonical fetch backing runs"
  if s.next = 0 then
    need (decide ((← run.field "location") = (← n.field "location")))
      "fetch backing origin mismatch"
  return ⟨s.next + length, (backing + length) % 2 ^ 64⟩

end

section
variable (digest : List UInt8 → String)

def checkFetchBackings (model : CoreModel) (id hex : String) (len : Nat) (n : Json) :
    Except String Unit := do
  if model.id == "gamegear" || n.contains "fetchBackings" then
    let backings ← n.field "fetchBackings"
    need (backings.isArray && !backings.isEmpty && decide (backings.size ≤ len))
      "invalid fetch backing runs"
    let runs ← backings.elements.foldlM (fetchRun model n len) ⟨0, 0⟩
    let location ← (← n.field "location").asString
    need (runs.next == len && id == digest (utf8 (location ++ ":" ++ hex ++ ":") ++ backings.dump))
      "instruction identity mismatch"

def validateInstruction (model : CoreModel) (entry : String × Json) : Except String Unit := do
  let n := entry.2
  let hex ← (← n.field "bytes").asString
  let len ← bounded (← n.field "length") (maximumInstructionLength model.id)
  let _ ← bounded (← n.field "address") 65535
  if decide (1 ≤ len) && hex.utf8ByteSize == 2 * len && isHex hex then
    need ((← n.field "id").isText entry.1) "invalid instruction"
  else throw "invalid instruction"
  checkFetchBackings digest model entry.1 hex len n
  let flow ← (← n.field "flow").asString
  need (flow != "") "invalid instruction metadata"
  need (← haveShapes n [("registers", Json.isObject), ("hardware", Json.isArray)])
    "invalid instruction metadata"
  let _ ← (← n.field "text").asString
  let _ ← (← n.field "conditional").asBool
  let _ ← counter (← n.field "location")
  checkCaptures model (← n.field "captures")
  checkRegisters model (← n.field "registers")

def validateEdge (instructions e : Json) : Except String Unit := do
  need (instructions.contains (← (← e.field "from").asString)) "unknown edge source"
  let _ ← counter (← e.field "targetLocation")
  ifPresent e "toInstruction" fun target => do
    need (instructions.contains (← target.asString)) "unknown observed target"

/-- A text of a record that may be left out, but is one of some known texts when it is there. -/
def checkChoice (d : Json) (key : String) (choices : List String) (reason : String) :
    Except String Unit :=
  ifPresent d key fun v => do need (choices.contains (← v.asString)) reason

def validateDependency (model : CoreModel) (instructions : Json) (ids : List String) (d : Json) :
    Except String (List String) := do
  let id ← (← d.field "id").asString
  need (!ids.contains id) "duplicate dependency ID"
  checkInstruction instructions (← d.field "instruction") "unknown dependency instruction"
  let supplier ← d.field "supplier"
  checkInstruction instructions (← supplier.field "instruction") "unknown supplier"
  let _ ← counter (← d.field "sequence")
  let _ ← counter (← supplier.field "sequence")
  let _ ← (← d.field "accepted").asBool
  let _ ← bounded (← d.field "value") 65535
  checkChoice d "origin" ["unknown", "cpu", "device", "dma", "boundary", "inspection"]
    "invalid access origin"
  checkChoice d "executionSource" ["snapshot", "initialization", "bus"] "invalid execution source"
  ifPresent d "executionSupplier" fun s =>
    ["epoch", "block", "sequence"].forM fun key => do checkCounter (← s.field key)
  checkKey model (← (← d.field "location").asString)
  return id :: ids

def validateInput (input : Json) : Except String Unit := do
  let _ ← bounded (← input.field "mask") 255
  let _ ← counter (← input.field "sequence")
  ifPresent input "position" checkCounter
  let _ ← (← input.field "branch").asString

def validateGap (gap : Json) : Except String Unit := do
  let _ ← counter (← gap.field "sequence")
  let _ ← (← gap.field "branch").asString
  let _ ← (← gap.field "reason").asString

def validateBoundary (model : CoreModel) (boundary : Json) : Except String Unit := do
  let _ ← counter (← boundary.field "sequence")
  let _ ← counter (← boundary.field "cycles")
  let _ ← (← boundary.field "branch").asString
  let kind ← (← boundary.field "kind").asString
  need (["stall", "interrupt", "device-update"].contains kind) "invalid boundary kind"
  ["before", "after"].forM fun key => do
    let registers ← boundary.field key
    need (registers.isArray && registers.size == model.pairs) "invalid boundary registers"
    registers.elements.forM fun value => do let _ ← bounded value 65535

/-- The pools of a snapshot start where its bytes start and ascend. -/
def snapshotPool (model : CoreModel) (rawBytes : Nat) (previous : Option Nat) (pool : Json) :
    Except String (Option Nat) := do
  match pool with
  | .arr [location, offset] =>
    checkKey model ("m:" ++ (← location.asString))
    let offset ← counter offset
    let inOrder := match previous with
      | some p => decide (p < offset)
      | none => offset == 0
    need (decide (offset < rawBytes) && inOrder) "invalid snapshot range"
    return some offset
  | _ => throw "invalid snapshot pool"

def validateBlock (model : CoreModel) (instructions : Json) (blocks : List String) (block : Json) :
    Except String (List String) := do
  let id ← (← block.field "id").asString
  need (!blocks.contains id && instructions.contains id) "invalid block ID"
  let members ← block.field "instructions"
  need (members.isArray && !members.isEmpty) "invalid block instructions"
  members.elements.forM fun instruction => do
    need (instructions.contains (← instruction.asString)) "invalid block reference"
  need (decide (some (← block.field "terminal") = members.elements.getLast?))
    "invalid terminal instruction"
  checkCaptures model (← block.field "snapshot")
  checkRegisters model (← block.field "registers")
  let rawBytes ← block.field "rawBytes"
  let pools ← block.field "pools"
  need (rawBytes.isArray && pools.isArray) "invalid raw snapshot"
  rawBytes.elements.forM fun value => do let _ ← bounded value 255
  let _ ← pools.elements.foldlM (snapshotPool model rawBytes.size) none
  need (pools.isEmpty == rawBytes.isEmpty) "missing snapshot pool"
  return id :: blocks

def validateGraphEdge (blocks : List String) (edge : Json) : Except String Unit := do
  let source ← (← edge.field "from").asString
  let target ← (← edge.field "to").asString
  need (blocks.contains source
    && (blocks.contains target || (stripPrefix "unresolved:" target).isSome)) "invalid graph edge"

def validateBlocks (model : CoreModel) (instructions j : Json) : Except String Unit :=
  ifPresent j "blocks" fun blocks => do
    need blocks.isArray "invalid graph collections"
    need (← j.field "graphEdges").isArray "invalid graph collections"
    let ids ← blocks.elements.foldlM (validateBlock model instructions) []
    (← j.field "graphEdges").elements.forM (validateGraphEdge ids)

def transferFlows : List String :=
  ["fallthrough", "branch", "call", "return", "indirect", "halt", "stop", "interrupt"]

def validateTransfer (model : CoreModel) (instructions : Json) (ids : List String) (t : Json) :
    Except String (List String) := do
  let id ← (← t.field "id").asString
  need (!ids.contains id) "duplicate transfer"
  checkInstruction instructions (← t.field "instruction") "invalid transfer instruction"
  ifPresent t "nextInstruction" fun next => do
    need (instructions.contains (← next.asString)) "invalid next instruction"
  let _ ← (← t.field "branch").asString
  let _ ← counter (← t.field "sequence")
  let _ ← (← t.field "taken").asBool
  let _ ← (← t.field "root").asBool
  ["targetLocation", "fallthroughLocation"].forM fun key => do
    need (decide ((← counter (← t.field key)) >>> 32 ≤ model.maximumSpace))
      "invalid transfer location"
  need (transferFlows.contains (← (← t.field "flow").asString)) "invalid transfer flow"
  return id :: ids

def validateWindow (sessions : List Json) (windows : List String) (w : Json) :
    Except String (List String) := do
  let id ← (← w.field "id").asString
  need (id != "" && !windows.contains id && sessions.contains (.str id))
    "duplicate/unknown capture window"
  let _ ← counter (← w.field "startStep")
  let _ ← counter (← w.field "waitSteps")
  let count ← bounded (← w.field "count") 128
  need (count != 0) "empty capture window"
  return id :: windows

def validateCaptureWindows (j : Json) : Except String Unit :=
  ifPresent j "captureWindows" fun c => do
    need (isNumber 1 (← c.field "version")) "invalid capture window metadata"
    need (← areArrays c ["windows", "intentionalOmissions"]) "invalid capture window metadata"
    let sessions := (← j.field "sessions").elements
    let windows ← (← c.field "windows").elements.foldlM (validateWindow sessions) []
    (← c.field "intentionalOmissions").elements.forM fun o => do
      need (decide ((← counter (← o.field "fromStep")) < (← counter (← o.field "toStep"))))
        "invalid intentional omission"
      let _ ← (← o.field "reason").asString
      need (windows.contains (← (← o.field "captureId").asString))
        "unknown omission capture identity"

/-! ## Symbol imports and purpose claims -/

def checkText (value : Json) (maximum : Nat) : Except String String :=
  match value with
  | .str s =>
    if s ≠ "" ∧ s.utf8ByteSize ≤ maximum then .ok s
    else .error "invalid symbol/source/claim text"
  | _ => .error "invalid symbol/source/claim text"

def checkMeaningHash (value : Json) : Except String Unit := do
  let s ← checkText value 64
  need (s.utf8ByteSize == 64 && isHex s) "invalid meaning digest"

def importSource (lines : List (String × Nat)) (source : Json) :
    Except String (List (String × Nat)) := do
  let path ← checkText (← source.field "path") 4096
  let content ← checkText (← source.field "content") (1024 * 1024)
  checkMeaningHash (← source.field "sha256")
  need ((lines.lookup path).isNone && (← source.field "sha256").isText (digest (utf8 content)))
    "duplicate or corrupt source"
  return (path, 1 + content.toList.count '\n') :: lines

def importSymbol (lines : List (String × Nat)) (size : Nat) (identities : List String)
    (symbol : Json) : Except String (List String) := do
  let name ← checkText (← symbol.field "name") 256
  let location ← symbol.field "location"
  let loc ← counter location
  let bank := loc >>> 16 % 65536
  let offset := loc % 65536
  need (loc >>> 32 == 1 && decide (offset < 0x4000) && decide (bank * 0x4000 + offset < size))
    "symbol outside cartridge backing"
  let identity := name ++ ":" ++ (← location.asString)
  need (!identities.contains identity) "duplicate symbol"
  ifPresent symbol "source" fun source => do
    let path ← checkText source 4096
    match ← symbol.field "line", lines.lookup path with
    | .int line, some last =>
      need (decide (1 ≤ line) && decide (line ≤ last)) "invalid source line binding"
    | _, _ => throw "invalid source line binding"
  return identity :: identities

def validateImport (project data : Json) : Except String Unit := do
  need (isNumber 1 (← data.field "schemaVersion")) "symbol core/ROM/schema mismatch"
  ["core", "romSha256"].forM fun key => do
    need (decide ((← data.field key) = (← project.field key))) "symbol core/ROM/schema mismatch"
  let size ← counter (← data.field "romBytes")
  need (isPortSize size) "invalid symbol ROM extent"
  let sources ← data.field "sources"
  let symbols ← data.field "symbols"
  need (sources.isArray && decide (sources.size ≤ 256) && symbols.isArray
    && decide (symbols.size ≤ 65536) && decide (data.dump.length ≤ 4 * 1024 * 1024))
    "symbol import budget exceeded"
  let lines ← sources.elements.foldlM (importSource digest) []
  let _ ← symbols.elements.foldlM (importSymbol lines size) []

def validateClaim (project claim : Json) : Except String Unit := do
  let _ ← checkText (← claim.field "purpose") 65536
  let status ← (← claim.field "status").asString
  need (["inferred", "reviewed", "unresolved"].contains status) "invalid purpose status"
  need ((← project.field "instructions").contains (← (← claim.field "instruction").asString))
    "unknown purpose instruction"
  let evidence ← claim.field "dependencies"
  need (evidence.isArray && decide (evidence.size ≤ 4096)
    && (status == "unresolved" || !evidence.isEmpty)) "purpose requires bounded evidence"
  let known ← (← project.field "dependencies").elements.mapM fun d => do (← d.field "id").asString
  let _ ← evidence.elements.foldlM (fun (seen : List String) ref => do
    match ref with
    | .str id =>
      need (known.contains id && !seen.contains id) "invalid purpose evidence link"
      return id :: seen
    | _ => throw "invalid purpose evidence link") []
  if status == "reviewed" then
    let _ ← checkText (← claim.field "reviewer") 256
    let _ ← checkText (← claim.field "rationale") 65536

def validateMeaning (project : Json) : Except String Unit := do
  ifPresent project "symbolImports" fun imports => do
    need (imports.isObject && decide (imports.size ≤ 16)) "invalid symbol import collection"
    imports.entries.forM fun entry => do
      validateImport digest project entry.2
      need (entry.1 == digest entry.2.dump) "symbol import identity mismatch"
  ifPresent project "purposeClaims" fun claims => do
    need (claims.isObject && decide (claims.size ≤ 4096)) "invalid purpose collection"
    claims.entries.forM fun entry => do
      validateClaim project entry.2
      let core ← (← project.field "core").asString
      let rom ← (← project.field "romSha256").asString
      need (entry.1 == digest (utf8 (core ++ ":" ++ rom ++ ":") ++ entry.2.dump))
        "purpose identity mismatch"

/-! ## The document -/

def defaultBudget : Nat := 64 * 1024 * 1024

def validateCollections (j : Json) : Except String Unit := do
  need (← haveShapes j [("instructions", Json.isObject), ("edges", Json.isArray),
    ("dependencies", Json.isArray), ("annotations", Json.isObject), ("gaps", Json.isArray)])
    "invalid project collections"
  let _ ← counter (← j.field "revision")
  need (← haveShapes j [("inputs", Json.isArray), ("sessions", Json.isArray),
    ("history", Json.isObject)]) "invalid project history collections"

def validateBoundaries (model : CoreModel) (j : Json) : Except String Unit :=
  ifPresent j "boundaries" fun boundaries => do
    need boundaries.isArray "invalid boundaries"
    boundaries.elements.forM (validateBoundary model)

def validateTransfers (model : CoreModel) (instructions j : Json) : Except String Unit :=
  ifPresent j "transfers" fun transfers => do
    need transfers.isArray "invalid transfers"
    let _ ← transfers.elements.foldlM (validateTransfer model instructions) []

def validateSize (j : Json) : Except String Unit := do
  need (!(j.contains "porting" && decide (defaultBudget / 2 < j.dump.length)))
    "port accounting exceeds analysis state budget"
  need (decide (j.dump.length ≤ defaultBudget * 2)) "project budget exceeded"

def validate (validateAnalysis : Json → Except String Unit) (j : Json) : Except String Unit := do
  let version ← j.field "schemaVersion"
  need (isNumber 1 version || isNumber 2 version) "unsupported project schema/core"
  let core ← j.field "core"
  need (!isNumber 1 version || core.isText "gameboy") "unsupported project schema/core"
  let model ← coreModel (← core.asString)
  let rom ← (← j.field "romSha256").asString
  need (rom.utf8ByteSize == 64 && isHex rom) "invalid ROM digest"
  validateCollections j
  let instructions ← j.field "instructions"
  validateHistory model instructions (← j.field "history")
  validateAnnotations instructions (← j.field "annotations")
  instructions.entries.forM (validateInstruction digest model)
  (← j.field "edges").elements.forM (validateEdge instructions)
  let _ ← (← j.field "dependencies").elements.foldlM (validateDependency model instructions) []
  (← j.field "inputs").elements.forM validateInput
  (← j.field "gaps").elements.forM validateGap
  validateBoundaries model j
  validateBlocks model instructions j
  validateTransfers model instructions j
  validateCaptureWindows j
  ifPresent j "analysis" fun _ => validateAnalysis j
  validatePorting digest j
  validateMeaning digest j
  validateSize j

end

end ProtoTime.Space
