import ProtoTime.Visual.PngDecode

/-!
What a capture session writes: the picture of a resource as a PNG file, and the manifests
that list the captured resources.
-/
namespace ProtoTime.Visual

open Json

/-! ## Manifests -/

def jsonEscaped (value : Text) : Text := value.flatMap escapeByte

def fixedHex (value : UInt32) (width : ℕ) : Text := prefixedHex width value.toNat

structure VisualCaptureEntry where
  descriptor : VisualResourceDescriptor
  imagePath : Text

def indent (depth : ℕ) : Text := List.replicate depth (byte ' ')

def keyText (depth : ℕ) (key : Text) : Text :=
  indent depth ++ byte '"' :: key ++ [byte '"', byte ':', byte ' ']

def textLine (depth : ℕ) (key value ending : Text) : Text :=
  keyText depth key ++ byte '"' :: value ++ byte '"' :: ending ++ [byte '\n']

def numberLine (depth : ℕ) (key : Text) (value : UInt32) (ending : Text) : Text :=
  keyText depth key ++ dumpNat value.toNat ++ ending ++ [byte '\n']

/-- A line that opens an object or an array under a key. -/
def openLine (depth : ℕ) (key : Text) (bracket : UInt8) : Text :=
  keyText depth key ++ [bracket, byte '\n']

def bracketLine (depth : ℕ) (bracket : UInt8) (ending : Text) : Text :=
  indent depth ++ bracket :: ending ++ [byte '\n']

def comma : Text := [byte ',']

def labelLine (depth : ℕ) (entry : VisualCaptureEntry) : Text :=
  if entry.descriptor.source.label = [] then []
  else textLine depth (utf8 "semanticLabel") (jsonEscaped entry.descriptor.source.label) comma

/-- The lines of where a resource came from, and what ends the last of them. -/
def sourceLines (depth : ℕ) (entry : VisualCaptureEntry) (ending : Text) : Text :=
  let source := entry.descriptor.source
  numberLine depth (utf8 "sourceBank") source.bank comma
    ++ textLine depth (utf8 "sourceAddress") (fixedHex source.address 4) comma
    ++ numberLine depth (utf8 "tileIndex") source.index comma
    ++ textLine depth (utf8 "paletteRegister") (jsonEscaped source.paletteRegister) comma
    ++ textLine depth (utf8 "paletteValue") (fixedHex source.paletteValue 2) ending

variable (entry : VisualCaptureEntry)

def matchLines : Text :=
  let descriptor := entry.descriptor
  openLine 6 (utf8 "match") (byte '\x7b')
    ++ textLine 8 (utf8 "kind") (visualResourceKindName descriptor.kind) comma
    ++ labelLine 8 entry
    ++ textLine 8 (utf8 "sourceHash") (toHexVisualHash descriptor.sourceHash) comma
    ++ sourceLines 8 entry comma
    ++ textLine 8 (utf8 "decodedHash") (toHexVisualHash descriptor.contentHash) comma
    ++ textLine 8 (utf8 "paletteHash") (toHexVisualHash descriptor.paletteHash) comma
    ++ textLine 8 (utf8 "paletteAwareHash") (toHexVisualHash descriptor.paletteAwareHash) comma
    ++ numberLine 8 (utf8 "width") descriptor.width comma
    ++ numberLine 8 (utf8 "height") descriptor.height []
    ++ bracketLine 6 (byte '\x7d') comma

def metadataLines : Text :=
  openLine 6 (utf8 "metadata") (byte '\x7b')
    ++ textLine 8 (utf8 "resourceKind") (visualResourceKindName entry.descriptor.kind) comma
    ++ labelLine 8 entry
    ++ sourceLines 8 entry []
    ++ bracketLine 6 (byte '\x7d') comma

def replaceLines : Text :=
  openLine 6 (utf8 "replace") (byte '\x7b')
    ++ textLine 8 (utf8 "image") (jsonEscaped entry.imagePath) []
    ++ bracketLine 6 (byte '\x7d') []

/-- The lines of the entries of a list, each ended by a comma but the last. -/
def entryLines (lines : VisualCaptureEntry → Text) : List VisualCaptureEntry → Text
  | [] => []
  | entry :: entries =>
    bracketLine 4 (byte '\x7b') [] ++ lines entry
      ++ bracketLine 4 (byte '\x7d') (if entries = [] then [] else comma) ++ entryLines lines entries

def ruleLines (includeMetadata : Bool) (entry : VisualCaptureEntry) : Text :=
  matchLines entry ++ (if includeMetadata then metadataLines entry else []) ++ replaceLines entry

/-- The manifest of the captured resources, as the text of a file. -/
def rulesText (machineId : Text) (entries : List VisualCaptureEntry) (includeMetadata : Bool) :
    Text :=
  bracketLine 0 (byte '\x7b') []
    ++ numberLine 2 (utf8 "schemaVersion") 1 comma
    ++ textLine 2 (utf8 "id") (utf8 "capture." ++ jsonEscaped machineId) comma
    ++ textLine 2 (utf8 "name")
      (utf8 "Captured " ++ jsonEscaped machineId ++ utf8 " visual resources") comma
    ++ (keyText 2 (utf8 "targets") ++ byte '[' :: byte '"' :: jsonEscaped machineId
      ++ [byte '"', byte ']', byte ',', byte '\n'])
    ++ openLine 2 (utf8 "rules") (byte '[')
    ++ entryLines (ruleLines includeMetadata) entries
    ++ bracketLine 2 (byte ']') []
    ++ bracketLine 0 (byte '\x7d') []

def metadataEntryLines : Text :=
  let descriptor := entry.descriptor
  textLine 6 (utf8 "image") (jsonEscaped entry.imagePath) comma
    ++ textLine 6 (utf8 "resourceKind") (visualResourceKindName descriptor.kind) comma
    ++ labelLine 6 entry
    ++ textLine 6 (utf8 "sourceHash") (toHexVisualHash descriptor.sourceHash) comma
    ++ textLine 6 (utf8 "decodedHash") (toHexVisualHash descriptor.contentHash) comma
    ++ textLine 6 (utf8 "paletteHash") (toHexVisualHash descriptor.paletteHash) comma
    ++ textLine 6 (utf8 "paletteAwareHash") (toHexVisualHash descriptor.paletteAwareHash) comma
    ++ sourceLines 6 entry []

/-- The summary of the captured resources, as the text of a file. -/
def metadataText (machineId : Text) (entries : List VisualCaptureEntry) : Text :=
  bracketLine 0 (byte '\x7b') []
    ++ numberLine 2 (utf8 "schemaVersion") 1 comma
    ++ textLine 2 (utf8 "machine") (jsonEscaped machineId) comma
    ++ openLine 2 (utf8 "entries") (byte '[')
    ++ entryLines metadataEntryLines entries
    ++ bracketLine 2 (byte ']') []
    ++ bracketLine 0 (byte '\x7d') []

def Files.write (files : Files) (path : Path) (content : Text) : Files :=
  fun other => if other = path then some content else files other

def Path.child (path : Path) (name : Text) : Path := path.join { names := [name] }

def writeManifests (files : Files) (captureDirectory : Path) (machineId : Text)
    (entries : List VisualCaptureEntry) : Files :=
  ((files.write (captureDirectory.child (utf8 "pack.json"))
        (rulesText machineId entries false)).write
      (captureDirectory.child (utf8 "manifest.stub.json")) (rulesText machineId entries true)).write
    (captureDirectory.child (utf8 "capture_metadata.json")) (metadataText machineId entries)

/-! ## Pictures -/

def kIndexedArgbAlpha : List UInt8 := [0xFF, 0xFF, 0xFF, 0xFF]
def kIndexedArgbRed : List UInt8 := [0xE0, 0x88, 0x34, 0x08]
def kIndexedArgbGreen : List UInt8 := [0xF8, 0xC0, 0x68, 0x18]
def kIndexedArgbBlue : List UInt8 := [0xD0, 0x70, 0x56, 0x20]

/-- The colour of a pixel, zero outside the pixels the resource has. -/
def pixelColor (resource : DecodedVisualResource) (y x : ℕ) : ℕ :=
  match resource.pixels[y * resource.stride.toNat + x]? with
  | some pixel => pixel.toNat % 4
  | none => 0

def colorBytes (color : ℕ) : Text :=
  [kIndexedArgbRed.getD color 0, kIndexedArgbGreen.getD color 0, kIndexedArgbBlue.getD color 0,
    kIndexedArgbAlpha.getD color 0]

def rowColors (resource : DecodedVisualResource) (y : ℕ) : List ℕ :=
  (List.range resource.descriptor.width.toNat).map (pixelColor resource y)

/-- The rows of a picture before compression: the filter of a row and its bytes. -/
def rawPicture (resource : DecodedVisualResource) : Text :=
  (List.range resource.descriptor.height.toNat).flatMap fun y =>
    0 :: (rowColors resource y).flatMap colorBytes

def bigEndian32 (value : UInt32) : Text :=
  [(value >>> 24).toUInt8, (value >>> 16).toUInt8, (value >>> 8).toUInt8, value.toUInt8]

def pngChunk (zlib : Zlib) (type data : Text) : Text :=
  bigEndian32 (UInt32.ofNat data.length) ++ type ++ data
    ++ bigEndian32 (UInt32.ofNat (zlib.crc32 ((type ++ data).take ((4 + data.length) % 2 ^ 32))))

def pngHeader (width height : UInt32) : Text :=
  bigEndian32 width ++ bigEndian32 height ++ [8, 6, 0, 0, 0]

def pngFile (zlib : Zlib) (width height : UInt32) (compressed : Text) : Text :=
  kPngSignature ++ pngChunk zlib (utf8 "IHDR") (pngHeader width height)
    ++ pngChunk zlib (utf8 "IDAT") compressed ++ pngChunk zlib (utf8 "IEND") []

def decodedResourcePng (zlib : Zlib) (resource : DecodedVisualResource) : Except Text Text :=
  let width := resource.descriptor.width
  let height := resource.descriptor.height
  if width = 0 ∨ height = 0 ∨ resource.stride = 0 then
    .error (utf8 "invalid resource dimensions or stride: width=" ++ dumpNat width.toNat
      ++ utf8 " height=" ++ dumpNat height.toNat ++ utf8 " stride=" ++ dumpNat resource.stride.toNat)
  else
    match zlib.compress2 (rawPicture resource) with
    | none => .error (utf8 "unable to compress visual capture PNG")
    | some compressed => .ok (pngFile zlib width height compressed)

end ProtoTime.Visual
