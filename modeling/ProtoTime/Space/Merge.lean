import ProtoTime.FieldMerge
import ProtoTime.ListMerge
import ProtoTime.Space.Project

/-!
Merging a document into a project. Every collection is merged on a copy by its own
rule; the copy replaces the state once it is validated and its growth is reserved.
-/
namespace ProtoTime.Space

open Results FieldMerge ListMerge

/-! ## Collections -/

/-- The list a field holds; a field that is not there holds none. -/
def listOf : Option Json → Except String (List Json)
  | none => .ok []
  | some .null => .ok []
  | some (.arr xs) => .ok xs
  | some j => .error ("[json.exception.type_error.308] cannot use push_back() with " ++ j.typeName)

def mergeSet (R : Json → Json → Bool) (incoming : List Json) (x : Option Json) :
    Except String (Option Json) := do
  return some (.arr (addNew R (← listOf x) incoming))

def recordId (r : Json) : Option String :=
  match r.find? "id" with
  | some (.str id) => some id
  | _ => none

def readIds (rs : List Json) : Except String Unit :=
  rs.forM fun r => do let _ ← (← r.field "id").asString

def mergeRecords (refine' : Json → Json → Except String Json) (incoming : List Json)
    (x : Option Json) : Except String (Option Json) := do
  let xs ← listOf x
  readIds xs
  readIds incoming
  return some (.arr (← joinAll recordId refine' xs incoming))

def mergeEntries (f : Json → Option Json → Except String (Option Json))
    (incoming : List (String × Json)) (x : Option Json) : Except String (Option Json) := do
  if incoming.isEmpty then return none
  else return some (← mergeFields (incoming.map fun entry => (entry.1, f entry.2)) (x.getD .null))

def sameText (x v : Json) : Bool := decide (x = v)

/-- A step for a part of the document that may be left out. -/
def optional (part : Option Json) (f : Json → Option Json → Except String (Option Json))
    (x : Option Json) : Except String (Option Json) :=
  match part with
  | none => .ok none
  | some v => f v x

section
variable (digest : List UInt8 → String) (numbers : Json.NumberComparison)

/-! ## The rules -/

def mergeMeaning (v : Json) : Option Json → Except String (Option Json)
  | none => .ok (some v)
  | some old =>
    if Json.same numbers old v then .ok (some v) else .error "conflicting meaning metadata"

/-- The records differ at most in whether the next instruction is known. -/
def sameTransfer (old v : Json) : Except String Bool := do
  let left ← old.erase "nextInstruction"
  let right ← v.erase "nextInstruction"
  let sameNext := match old.find? "nextInstruction", v.find? "nextInstruction" with
    | some a, some b => Json.same numbers a b
    | _, _ => true
  return Json.same numbers left right && sameNext

def refineTransfer (old v : Json) : Except String Json := do
  if Json.same numbers old v then return old
  else if ← sameTransfer numbers old v then
    match v.find? "nextInstruction" with
    | some next => old.set "nextInstruction" next
    | none => return old
  else throw "conflicting transfer evidence"

/-- A record of a known identity has to be the known record. -/
def refineEqual (reason : String) (old v : Json) : Except String Json :=
  if Json.same numbers old v then .ok old else .error reason

def mergeInstruction (v : Json) : Option Json → Except String (Option Json)
  | none => .ok (some v)
  | some _ => .ok none

def mergeAnnotations (v : Json) : Option Json → Except String (Option Json) :=
  mergeSet (Json.same numbers) v.elements

def mergeCaptureWindows (c : Json) : Option Json → Except String (Option Json)
  | none => .ok (some c)
  | some existing => do
    let steps := ["windows", "intentionalOmissions"].map fun key =>
      (key, mergeSet (Json.same numbers) ((c.find? key).getD .null).elements)
    return some (← mergeFields steps existing)

def isLedger (p : Json) : Bool := p.isObject && p.contains "verification" && p.contains "revision"

def mergePorting (a b : Json) : Except String Json := do
  need (isLedger a && isLedger b) "invalid port ledger for merge"
  let known ← a.field "verification"
  let incoming ← b.field "verification"
  let _ ← ids known
  let _ ← ids incoming
  let revision := max (← counter (← a.field "revision")) (← counter (← b.field "revision"))
  need (Json.same numbers (← content a) (← content b))
    "conflicting port ledger; explicitly initialize a revised ledger"
  let records ← joinAll recordId (refineEqual numbers "conflicting verification record")
    known.elements incoming.elements
  (← a.set "verification" (.arr records)).set "revision" (.str (decimal revision))

def mergeLedger (q : Json) : Option Json → Except String (Option Json)
  | none => .ok (some q)
  | some p => do return some (← mergePorting numbers p q)

def mergeSteps (j : Json) : List Step :=
  let entriesAt := fun key => ((j.find? key).getD .null).entries
  let elementsAt := fun key => ((j.find? key).getD .null).elements
  [("symbolImports", mergeEntries (mergeMeaning numbers) (entriesAt "symbolImports")),
    ("purposeClaims", mergeEntries (mergeMeaning numbers) (entriesAt "purposeClaims")),
    ("transfers", mergeRecords (refineTransfer numbers) (elementsAt "transfers")),
    ("boundaries", mergeSet (Json.same numbers) (elementsAt "boundaries")),
    ("instructions", mergeEntries mergeInstruction (entriesAt "instructions")),
    ("dependencies", mergeRecords (refineEqual numbers "conflicting dependency evidence")
      (elementsAt "dependencies")),
    ("edges", mergeSet sameText (elementsAt "edges")),
    ("gaps", mergeSet sameText (elementsAt "gaps")),
    ("inputs", mergeSet sameText (elementsAt "inputs")),
    ("sessions", mergeSet sameText (elementsAt "sessions")),
    ("annotations", mergeEntries (mergeAnnotations numbers) (entriesAt "annotations")),
    ("captureWindows", optional (j.find? "captureWindows") (mergeCaptureWindows numbers)),
    ("porting", optional (j.find? "porting") (mergeLedger numbers))]

/-! ## The project -/

def evidenceKeys : List String :=
  ["boundaries", "core", "dependencies", "edges", "gaps", "instructions", "purposeClaims",
    "romSha256", "symbolImports", "transfers"]

/-- The digest of what an archived analysis was made from. -/
def evidenceDigest (p : Json) : String :=
  digest (Json.obj (evidenceKeys.filterMap fun key => (p.find? key).map fun v => (key, v))).dump

structure Project where
  state : Json
  history : Json
  revision : Nat
  budget : Nat
  used : Nat
  shared : Option StateBudget

variable (validateAnalysis : Json → Except String Unit) (graph : Project → Json × Json)

variable (p : Project)

def Project.document : Except String Json := do
  let out ← p.state.set "revision" (.str (decimal p.revision))
  let out ← out.set "history" p.history
  let out ← out.set "blocks" (graph p).1
  out.set "graphEdges" (graph p).2

def mergedState (j : Json) (p : Project) : Except String Json := do
  validate digest validateAnalysis j
  need (Json.same numbers (← j.field "core") (← p.state.field "core")) "project ROM mismatch"
  need (Json.same numbers (← j.field "romSha256") (← p.state.field "romSha256"))
    "project ROM mismatch"
  mergeFields (mergeSteps numbers j) p.state

/-- What is validated before a changed state is taken over. -/
def validation (next : Json) : Except String Json := do
  let v ← next.set "revision" (.str (decimal p.revision))
  let v ← v.set "history" p.history
  if v.contains "analysis" then
    let v ← v.set "blocks" (graph p).1
    v.set "graphEdges" (graph p).2
  else return v

/-- A changed state loses an analysis of other evidence. -/
def dropStaleAnalysis (next : Json) : Except String Json :=
  if evidenceDigest digest next = evidenceDigest digest p.state then .ok next
  else next.erase "analysis"

/-- A changed state has to be valid. -/
def acceptedState (next : Json) : Except String Json := do
  let next ← dropStaleAnalysis digest p next
  validate digest validateAnalysis (← validation graph p next)
  return next

def Project.reserve (p : Project) (growth : Nat) : Option Project :=
  match p.shared with
  | none => some p
  | some b => (b.reserve growth).map fun b => { p with shared := some b }

/-- Takes the changed state over, within the budgets. -/
def Project.commit (next : Json) : Except String Unit × Project :=
  let charge := next.dump.length * 2
  if p.budget < charge then (.error "merge exceeds analysis budget", p)
  else
    match p.reserve (charge - p.used) with
    | none => (.error "merge exceeds shared analysis budget", p)
    | some p =>
      (.ok (), { p with
        state := next
        used := max p.used charge
        revision := (p.revision + 1) % 2 ^ 64 })

def Project.merge (j : Json) : Except String Unit × Project :=
  match mergedState digest numbers validateAnalysis j p with
  | .error reason => (.error reason, p)
  | .ok next =>
    if Json.same numbers next p.state then (.ok (), p)
    else
      match acceptedState digest validateAnalysis graph p next with
      | .error reason => (.error reason, p)
      | .ok next => p.commit next

end

end ProtoTime.Space
