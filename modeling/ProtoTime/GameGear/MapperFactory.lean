import ProtoTime.GameGear.Mapper
import Mathlib.Data.Int.Notation
import Mathlib.Data.List.Infix

/-!
The choice of a mapper for an image: the table kept beside the program, then titles in the file
name, titles in the image, and the size. The parsed table is an input.
-/
namespace ProtoTime.GameGear
open GameBoy (Byte Addr)

/-- The directory and the last component of a path, as bytes. -/
structure RomPath where
  directory : List Byte
  filename : List Byte
  deriving DecidableEq

def ascii (text : String) : List Byte := text.toList.map fun c => BitVec.ofNat 8 c.toNat

def toLowerByte (byte : Byte) : Byte :=
  if 0x41#8 ≤ byte ∧ byte ≤ 0x5A#8 then byte + 0x20 else byte

def toLower (bytes : List Byte) : List Byte := bytes.map toLowerByte

namespace RomPath

/-- From the last dot on; a leading dot does not start an extension. -/
def extension (path : RomPath) : List Byte :=
  let suffix := path.filename.reverse.takeWhile (· != 0x2E)
  if suffix.length + 1 < path.filename.length ∧ path.filename ≠ ascii ".." then
    0x2E :: suffix.reverse
  else []

/-- Where a save file may be kept beside the image: not for Master System images. -/
def allowsSaveBinding (path : Option RomPath) : Bool :=
  match path with
  | none => false
  | some path => !path.filename.isEmpty && toLower path.extension != ascii ".sms"

end RomPath

inductive MappingKind where
  | filenameContains | filenameExact | headerContains
  deriving DecidableEq

structure MappingEntry where
  kind : MappingKind
  patternLower : List Byte
  mapperId : ℤ
  priority : ℤ

/-- The search in the image ignores case and does not find an empty title. -/
def containsAsciiSubstring (data needleLower : List Byte) : Bool :=
  !needleLower.isEmpty && decide (needleLower <:+: toLower data)

namespace MapperFactory

def intMin : ℤ := -2 ^ 31

def makeMapperById (id : ℤ) : GameGearMapper :=
  if id = 5235 then { kind := .sega3155235 }
  else if id = 5365 then { kind := .sega3155365 }
  else if id = 999 then { kind := .codemasters }
  else { kind := .sega3155208 }

def entryMatches (data filenameLower : List Byte) (entry : MappingEntry) : Bool :=
  match entry.kind with
  | .filenameExact => !filenameLower.isEmpty && filenameLower == entry.patternLower
  | .filenameContains => !filenameLower.isEmpty && decide (entry.patternLower <:+: filenameLower)
  | .headerContains => containsAsciiSubstring (data.take 0x800) entry.patternLower

/-- One table line against the best priority and mapper so far. -/
def considerEntry (data filenameLower : List Byte) (best : ℤ × ℤ) (entry : MappingEntry) : ℤ × ℤ :=
  if entryMatches data filenameLower entry then
    if entry.priority > best.1 ∨ best.1 = intMin then (entry.priority, entry.mapperId) else best
  else best

structure Hint where
  patterns : List String
  mapperId : ℤ
  priority : ℤ

def mapperHints : List Hint :=
  [⟨["phantasy", "golden axe", "after burner", "galaxy force", "mercs", "phantasy star", "r-type",
      "penguin land", "monopoly"], 5235, 100⟩,
    ⟨["bubble", "bubble bobble", "chase hq", "operation wolf", "wonder boy iii", "wonder boy 3"],
      5365, 90⟩,
    ⟨["alex kidd", "astro", "gangster", "ghostbusters", "the ninja", "world grand prix",
      "hang-on"], 5208, 80⟩]

/-- One group of titles against the best so far: some title is found and the group's priority
is higher. -/
def considerHint (found : List Byte → Bool) (best : ℤ × ℤ) (hint : Hint) : ℤ × ℤ :=
  if hint.patterns.any (fun pattern => found (toLower (ascii pattern))) ∧
      hint.priority > best.1 then (hint.priority, hint.mapperId)
  else best

def considerHints (found : List Byte → Bool) (best : ℤ × ℤ) : ℤ × ℤ :=
  mapperHints.foldl (considerHint found) best

def hintedMapperId (data filenameLower : List Byte) : ℤ :=
  let best : ℤ × ℤ := (-1, -1)
  let best := if filenameLower.isEmpty then best
    else considerHints (fun title => decide (title <:+: filenameLower)) best
  let best := if best.1 < 0 then considerHints (containsAsciiSubstring (data.take 0x20000)) best
    else best
  best.2

def sizedMapperId (size : ℕ) : ℤ :=
  if size ≤ 131072 then 5208 else if size ≤ 524288 then 5235 else 5365

/-- A mapper with the image in it. Loading never fails, so the plain cartridge is only used
where there is no image. -/
def createMapperFromRom (table : List MappingEntry) (data : List Byte) (romPath : Option RomPath) :
    GameGearMapper :=
  if data.isEmpty then ({ kind := .cartridge } : GameGearMapper).load []
  else
    let filenameLower := match romPath with
      | some path => toLower path.filename
      | none => []
    let listed := (table.foldl (considerEntry data filenameLower) (intMin, -1)).2
    if listed ≠ -1 then (makeMapperById listed).load data
    else
      let hinted := hintedMapperId data filenameLower
      if hinted ≠ -1 then (makeMapperById hinted).load data
      else (makeMapperById (sizedMapperId data.length)).load data

end MapperFactory

end ProtoTime.GameGear
