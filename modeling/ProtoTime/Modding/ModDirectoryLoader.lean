import ProtoTime.Json
import ProtoTime.Modding.NativeMod
import ProtoTime.Overlays
import Mathlib.Data.List.Lex

/-!
The preparation of mod packages: the manifests of the named directories and the
symbols, regions and patches they bring to a host and a ROM. The file system, the
reading of JSON and SHA-256 are parameters.
-/
namespace ProtoTime.Modding

open Results

def maxManifest : ℕ := 1024 * 1024
def maxData : ℕ := 64 * 1024 * 1024
def maxNumber : ℕ := 4294967295

def text (s : String) : Text := (utf8 s).map UInt8.toBitVec

def check (condition : Bool) (message : String) : Except Text Unit :=
  require condition (text message)

/-! ## Files -/

/-- A path by its components; an absolute path starts with the root. -/
abbrev Path := List Text

def rootPart : Text := text "/"

def pathString : Path → Text
  | [] => []
  | [part] => part
  | part :: rest =>
    if part = rootPart then part ++ pathString rest else part ++ rootPart ++ pathString rest

def pathOf (name : Text) : Path :=
  let parts := name.splitOn 0x2F
  let components := parts.dropLast.filter (· ≠ []) ++ parts.getLast?.toList
  if name = [] then []
  else if name.head? = some 0x2F then rootPart :: components
  else components

structure Platform where
  canonical : Path → Except Text Path
  isRegularFile : Path → Bool
  fileSize : Path → Except Text ℕ
  /-- The bytes a file gives until its end or until reading it fails. -/
  stream : Path → Option (Text × Bool)
  /-- The value of a JSON text, with repeated keys kept. -/
  parse : List Byte → Except Text Json
  sha256 : List Byte → Option (List Byte)

variable (P : Platform)

def asset (root : Path) (name : Text) : Except Text Path := do
  let relative := pathOf name
  check (!relative.isEmpty && relative.head? != some rootPart) "asset path must be relative"
  check (relative.all (· != text "..")) "asset path traversal"
  let path ← P.canonical (root ++ relative)
  check (root.isPrefixOf path) "asset escapes package directory"
  check (P.isRegularFile path) "asset is not a regular file"
  return path

/-- The bytes of an opened file that has kept its size. -/
def streamBytes (path : Path) (size : ℕ) : Option (Text × Bool) → Except Text (List Byte)
  | none => .error (text "cannot read asset: " ++ pathString path)
  | some (bytes, _) =>
    if bytes.length = size then .ok bytes
    else .error (text "asset changed or read failed: " ++ pathString path)

def readFile (path : Path) (limit : ℕ) : Except Text (List Byte) := do
  let size ← P.fileSize path
  require (decide (size ≤ limit)) (text "asset exceeds size limit: " ++ pathString path)
  streamBytes path size (P.stream path)

/-! ## Manifests -/

mutual

/-- The nesting of a document and the keys of its objects, in the order of its text. -/
def checkEvents (depth : ℕ) : Json → Except Text Unit
  | .obj fields => do
    check (decide (depth < 32)) "manifest nesting limit"
    checkFields (depth + 1) [] fields
  | .arr items => do
    check (decide (depth < 32)) "manifest nesting limit"
    checkItems (depth + 1) items
  | _ => check (decide (depth < 32)) "manifest nesting limit"

def checkItems (depth : ℕ) : List Json → Except Text Unit
  | [] => .ok ()
  | item :: items => do
    checkEvents depth item
    checkItems depth items

def checkFields (depth : ℕ) (seen : List String) : List (String × Json) → Except Text Unit
  | [] => .ok ()
  | (key, value) :: fields => do
    check (decide (depth < 32)) "manifest nesting limit"
    check (!seen.contains key) "duplicate JSON key"
    checkEvents depth value
    checkFields depth (key :: seen) fields

end

def keys (value : Json) (allowed : List String) : Except Text Unit := do
  check value.isObject "expected object"
  value.entries.forM fun entry =>
    check (allowed.contains entry.1) ("unsupported field: " ++ entry.1)

def stringField (value : Json) (key : String) : Except Text Text :=
  match value.find? key with
  | some (.str s) => do
    check (!(text s).isEmpty && decide ((text s).length ≤ 4096) && !(text s).contains 0)
      ("invalid string: " ++ key)
    return text s
  | _ => .error (text ("missing/string field: " ++ key))

def number (value : Json) (key : String) (maximum : ℕ) : Except Text ℕ :=
  match value.find? key with
  | some (.int n) => do
    check (decide (0 ≤ n)) ("unsigned field: " ++ key)
    check (decide (n ≤ maximum)) ("out of range: " ++ key)
    return n.toNat
  | _ => .error (text ("unsigned field: " ++ key))

def numberOr (value : Json) (key : String) (maximum : ℕ) : Except Text ℕ :=
  if value.contains key then number value key maximum else .ok 0

def digit (c : Byte) : Except Text Byte :=
  if 0x30 ≤ c ∧ c ≤ 0x39 then .ok (c - 0x30)
  else if 0x61 ≤ c ∧ c ≤ 0x66 then .ok (c - 0x61 + 10)
  else if 0x41 ≤ c ∧ c ≤ 0x46 then .ok (c - 0x41 + 10)
  else .error (text "invalid hex digit")

def hexPairs : Text → Except Text (List Byte)
  | high :: low :: rest => do
    let h ← digit high
    let l ← digit low
    let bytes ← hexPairs rest
    return (h <<< 4 ||| l) :: bytes
  | _ => .ok []

def hex (t : Text) : Except Text (List Byte) := do
  check (!t.isEmpty && t.length % 2 == 0) "expected nonempty even-length hex"
  hexPairs t

structure Package where
  root : Path
  manifest : Json
  info : LoadedMod

def manifestKeys : List String :=
  ["schemaVersion", "id", "version", "priority", "target", "romSha256", "symbols", "regions",
    "patches", "nativeModule", "trampolines"]

def nativeModule (root : Path) (manifest : Json) : Except Text Text :=
  if manifest.contains "nativeModule" then do
    let path ← asset P root (← stringField manifest "nativeModule")
    return pathString path
  else .ok []

def trampoline (t : Json) : Except Text (Text × BitVec 32) := do
  keys t ["symbol", "hookId"]
  let symbol ← stringField t "symbol"
  let hookId ← number t "hookId" maxNumber
  check (hookId != 0) "trampoline hookId must be nonzero"
  return (symbol, BitVec.ofNat 32 hookId)

def trampolines (manifest : Json) : Except Text (List (Text × BitVec 32)) :=
  match manifest.find? "trampolines" with
  | none => .ok []
  | some array => do
    check (array.isArray && decide (array.size ≤ 256)) "invalid trampolines array"
    array.elements.mapM trampoline

def readPackage (machineId : String) (digest : List Byte) (directory : Path) :
    Except Text Package := do
  let root ← P.canonical directory
  let bytes ← readFile P (← asset P root (text "manifest.json")) maxManifest
  let manifest ← P.parse bytes
  checkEvents 0 manifest
  keys manifest manifestKeys
  let schema ← number manifest "schemaVersion" 1
  check (schema == 1) "unsupported schemaVersion"
  let target ← stringField manifest "target"
  check (target == text machineId) "wrong machine target"
  let hash ← hex (← stringField manifest "romSha256")
  check (hash == digest) "ROM SHA-256 mismatch"
  let id ← stringField manifest "id"
  let version ← stringField manifest "version"
  let priority ← numberOr manifest "priority" maxNumber
  let module' ← nativeModule P root manifest
  let declared ← trampolines manifest
  check (declared.isEmpty || !module'.isEmpty) "trampolines require nativeModule"
  return ⟨root, manifest, ⟨id, version, BitVec.ofNat 32 priority, [], module', declared⟩⟩

/-- A refusal under the directory it is about. -/
def under {α : Type} (current : Text) (x : Except Text α) : Except Text α :=
  x.mapError fun what => current ++ text ": " ++ what

def addPackage (machineId : String) (digest : List Byte) (packages : List Package)
    (directory : Path) : Except Text (List Package) :=
  under (pathString directory) do
    let package ← readPackage P machineId digest directory
    check (!packages.any (·.info.id == package.info.id)) "duplicate mod ID"
    return packages ++ [package]

def ahead (a b : Package) : Bool :=
  decide (a.info.priority.toNat < b.info.priority.toNat)
    || (a.info.priority == b.info.priority
      && decide (a.info.id.map BitVec.toNat ≤ b.info.id.map BitVec.toNat))

def supported (machineId : String) : Bool := machineId == "gameboy" || machineId == "gamegear"

def checkRequest (directories : List Path) (rom : List Byte) (machineId : String) :
    Except Text (List Byte) :=
  under [] do
    check (decide (directories.length ≤ 128)) "too many packages"
    check (decide (rom.length ≤ maxData)) "ROM exceeds size limit"
    check (supported machineId) "unsupported mod ROM adapter"
    match P.sha256 rom with
    | some digest => return digest
    | none => .error (text "SHA-256 failed")

/-- The packages of a stack in the order they are prepared in. -/
def readStack (directories : List Path) (rom : List Byte) (machineId : String) :
    Except Text (List Package) := do
  let digest ← checkRequest P directories rom machineId
  let packages ← directories.foldlM (addPackage P machineId digest) []
  return packages.mergeSort ahead

/-! ## Symbols -/

structure Symbol where
  bank : BitVec 8
  address : BitVec 16
  deriving DecidableEq

abbrev Symbols := List (Text × Symbol)

def resolveSymbol (symbols : Symbols) (name : Text) : Option Symbol := symbols.lookup name

/-- A name keeps its first symbol. -/
def addSymbol (symbols : Symbols) (name : Text) (symbol : Symbol) : Option Symbols :=
  if name.isEmpty || (resolveSymbol symbols name).isSome then none
  else some (symbols ++ [(name, symbol)])

def isBlank (c : Byte) : Bool := c == 0x20 || (decide (0x09 ≤ c) && decide (c ≤ 0x0D))

/-- What a formatted read takes from a line, word after word. -/
def words (line : Text) : List Text := (line.splitOnP isBlank).filter (· ≠ [])

def fromChars (t : Text) : Option ℕ :=
  t.foldlM (fun value c => (digit c).toOption.map fun d => value * 16 + d.toNat) 0

def location (t : Text) : Option Symbol :=
  if t.length = 7 ∧ t.idxOf? 0x3A = some 2 then do
    let bank ← fromChars (t.take 2)
    let address ← fromChars (t.drop 3)
    return ⟨BitVec.ofNat 8 bank, BitVec.ofNat 16 address⟩
  else none

/-- One line of a symbol file: the table after it, or nothing where it is rejected. -/
def symbolLine (symbols : Symbols) (line : Text) : Option Symbols :=
  match words (line.takeWhile (· != 0x3B)) with
  | [] => some symbols
  | [place, name] =>
    match location place with
    | some symbol => addSymbol symbols name symbol
    | none => none
  | _ => none

def symbolLines (symbols : Symbols) (lines : List Text) : Symbols × ℕ :=
  lines.foldl
    (fun (table, rejected) line =>
      match symbolLine table line with
      | some next => (next, rejected)
      | none => (table, rejected + 1))
    (symbols, 0)

structure SymbolLoadResult where
  rejected : ℕ
  error : Text

def loadSymbols (path : Path) (symbols : Symbols) : SymbolLoadResult × Symbols :=
  match P.stream path with
  | none => (⟨0, text "unable to open symbol file"⟩, symbols)
  | some (bytes, bad) =>
    let (table, rejected) := symbolLines symbols (bytes.splitOn 0x0A)
    (⟨rejected, if bad then text "symbol file read failed" else []⟩, table)

variable (package : Package)

/-- The symbols of a host with those of a package. -/
def importSymbols (symbols : Symbols) : Except Text Symbols :=
  if package.manifest.contains "symbols" then do
    let path ← asset P package.root (← stringField package.manifest "symbols")
    let size ← P.fileSize path
    check (decide (size ≤ maxManifest * 16)) "symbol file too large"
    let (result, table) := loadSymbols P path symbols
    require (result.error.isEmpty && result.rejected == 0)
      (text "invalid or conflicting symbols: " ++ result.error)
    return table
  else .ok symbols

/-! ## Regions -/

/-- A mod host with the symbols and the patches it has been given; a patch is known by its
target and its size. -/
structure PreparedHost extends ModHost where
  symbols : Symbols
  patches : List (Symbol × ℕ)

def createRegion (regions : List Region) (name : Text) (bytes : List Byte) (base : BitVec 16)
    (bank : BitVec 8) : List Region × BitVec 32 :=
  if name = [] ∨ bytes = [] then (regions, 0)
  else (regions ++ [⟨name, bytes, base, bank⟩], BitVec.ofNat 32 (regions.length + 1))

/-- The regions made so far, their handles by name and the bytes they take. -/
structure Regions where
  regions : List Region
  handles : List (Text × BitVec 32)
  allocated : ℕ

def initialBytes (r : Json) (size : ℕ) : Except Text (List Byte) :=
  if r.contains "file" then do
    let path ← asset P package.root (← stringField r "file")
    readFile P path size
  else .ok []

def addRegion (made : Regions) (r : Json) : Except Text Regions := do
  keys r ["name", "size", "file", "guestBase", "bank"]
  let name ← stringField r "name"
  let size ← number r "size" maxData
  check (decide (0 < size) && decide (size ≤ maxData - made.allocated)) "region allocation limit"
  check (!made.handles.any (·.1 == name)) "duplicate region name"
  let data ← initialBytes P package r size
  let base ← numberOr r "guestBase" 65535
  let bank ← numberOr r "bank" 255
  let (regions, id) := createRegion made.regions (package.info.id ++ text ":" ++ name)
    (data ++ List.replicate (size - data.length) 0) (BitVec.ofNat 16 base) (BitVec.ofNat 8 bank)
  check (id != 0) "region allocation failed"
  return ⟨regions, made.handles ++ [(name, id)], made.allocated + size⟩

def createRegions (regions : List Region) (allocated : ℕ) : Except Text Regions :=
  match package.manifest.find? "regions" with
  | none => .ok ⟨regions, [], allocated⟩
  | some array => do
    check (array.isArray && decide (array.size ≤ 1024)) "invalid regions array"
    array.elements.foldlM (addRegion P package) ⟨regions, [], allocated⟩

/-! ## Patches -/

def kBankSize : ℕ := 0x4000

structure Patch where
  target : Symbol
  expected : List Byte
  replacement : List Byte
  deriving DecidableEq

/-- Where a patch writes in the ROM. -/
def Patch.offset (p : Patch) : ℕ :=
  p.target.bank.toNat * kBankSize + p.target.address.toNat % kBankSize

def Patch.overlay (p : Patch) : Overlays.Overlay Byte := ⟨p.offset, p.expected, p.replacement⟩

def patchTarget (symbols : Symbols) (p : Json) : Except Text Symbol :=
  if p.contains "symbol" then do
    check (!p.contains "bank" && !p.contains "address") "mixed patch target forms"
    let name ← stringField p "symbol"
    match resolveSymbol symbols name with
    | some symbol => return symbol
    | none => .error (text "unknown patch symbol")
  else do
    let bank ← number p "bank" 255
    let address ← number p "address" 65535
    return ⟨BitVec.ofNat 8 bank, BitVec.ofNat 16 address⟩

def readPatch (symbols : Symbols) (p : Json) : Except Text Patch := do
  keys p ["symbol", "bank", "address", "expected", "replacement"]
  let target ← patchTarget symbols p
  let expected ← hex (← stringField p "expected")
  let replacement ← hex (← stringField p "replacement")
  return ⟨target, expected, replacement⟩

def gameBoyTarget (t : Symbol) : Bool :=
  (t.bank == 0 && decide (t.address.toNat < 0x4000))
    || (decide (0 < t.bank.toNat) && decide (0x4000 ≤ t.address.toNat)
      && decide (t.address.toNat < 0x8000))

def gameGearTarget (t : Symbol) : Bool := decide (t.address.toNat < 0xC000)

def checkPatch (machineId : String) (romSize : ℕ) (p : Patch) : Except Text Unit := do
  check (if machineId == "gameboy" then gameBoyTarget p.target else gameGearTarget p.target)
    "patch target is not ROM"
  check (decide (p.expected.length ≤ kBankSize - p.target.address.toNat % kBankSize))
    "patch crosses ROM bank"
  check (decide (p.offset ≤ romSize) && decide (p.expected.length ≤ romSize - p.offset))
    "patch outside ROM"

/-- The guest addresses of a patch meet those of one of the same bank. -/
def meets (target : Symbol) (size : ℕ) (existing : Symbol × ℕ) : Bool :=
  existing.1.bank == target.bank
    && decide (target.address.toNat < existing.1.address.toNat + existing.2)
    && decide (existing.1.address.toNat < target.address.toNat + size)

/-- A patch as the host takes it: the verifier compares the bytes that are there, the writer
replaces them in the image the two share. -/
def applyPatch {σ : Type} (patches : List (Symbol × ℕ)) (target : Symbol)
    (expected replacement : List Byte) (verifier : Symbol → List Byte → σ → Bool)
    (writer : Symbol → List Byte → σ → Option σ) (image : σ) :
    Option (List (Symbol × ℕ) × σ) :=
  if expected.isEmpty || expected.length != replacement.length then none
  else if 0x10000 < target.address.toNat + replacement.length then none
  else if patches.any (meets target replacement.length) then none
  else if !verifier target expected image then none
  else (writer target replacement image).map fun written =>
    (patches ++ [(target, replacement.length)], written)

abbrev Patched := List (Symbol × ℕ) × List Byte

/-- A patch through the host onto the image prepared so far. -/
def writePatch (patch : Patch) (state : Patched) : Option Patched :=
  applyPatch state.1 patch.target patch.expected patch.replacement
    (fun _ bytes rom => (rom.drop patch.offset).take bytes.length == bytes)
    (fun _ bytes rom => some (Overlays.overwrite rom patch.offset bytes)) state.2

def installPatch (machineId : String) (romSize : ℕ) (symbols : Symbols) (state : Patched)
    (p : Json) : Except Text Patched := do
  let patch ← readPatch symbols p
  checkPatch machineId romSize patch
  match writePatch patch state with
  | some next => return next
  | none => .error (text "patch mismatch, size mismatch, or overlap")

def patchList (manifest : Json) : Except Text (List Json) :=
  match manifest.find? "patches" with
  | none => .ok []
  | some array => do
    check (array.isArray && decide (array.size ≤ 4096)) "invalid patches array"
    return array.elements

def installPatches (machineId : String) (romSize : ℕ) (package : Package) (symbols : Symbols)
    (state : Patched) : Except Text Patched := do
  let patches ← patchList package.manifest
  patches.foldlM (installPatch machineId romSize symbols) state

/-! ## Stacks -/

structure PreparedMods where
  host : PreparedHost
  rom : List Byte
  mods : List LoadedMod

structure ModDirectoryLoadResult where
  prepared : Option PreparedMods
  error : Text

/-- One package prepared after those before it, with the bytes its regions take. -/
def preparePackage (machineId : String) (romSize : ℕ) (state : PreparedMods × ℕ)
    (package : Package) : Except Text (PreparedMods × ℕ) :=
  under (pathString package.root) do
    let host := state.1.host
    let symbols ← importSymbols P package host.symbols
    let made ← createRegions P package host.regions state.2
    let patched ← installPatches machineId romSize package symbols (host.patches, state.1.rom)
    let regions := made.handles.mergeSort fun a b =>
      decide (a.1.map BitVec.toNat ≤ b.1.map BitVec.toNat)
    let mods := state.1.mods ++ [{ package.info with regions := regions }]
    return (⟨⟨⟨made.regions⟩, symbols, patched.1⟩, patched.2, mods⟩, made.allocated)

def unprepared (rom : List Byte) : PreparedMods := ⟨⟨⟨[]⟩, [], []⟩, rom, []⟩

def prepareStack (rom : List Byte) (machineId : String) (packages : List Package) :
    Except Text PreparedMods := do
  let state ← packages.foldlM (preparePackage P machineId rom.length) (unprepared rom, 0)
  return state.1

def loadModDirectories (directories : List Path) (rom : List Byte) (machineId : String) :
    ModDirectoryLoadResult :=
  match readStack P directories rom machineId >>= prepareStack P rom machineId with
  | .ok prepared => ⟨some prepared, []⟩
  | .error e => ⟨none, e⟩

end ProtoTime.Modding
