import ProtoTime.Results
import ProtoTime.Visual.VisualPackManifest

/-!
The decoder of replacement pictures: the chunks of a PNG file, the filters of its rows and
the colours of its pixels. Compression is the library's, a parameter with the two facts the
program relies on.
-/
namespace ProtoTime.Visual

open Json VisualPackLimits

/-- The compression library: what it packs is not empty and unpacks to what it was. -/
structure Zlib where
  /-- The packed bytes, none where the call fails. -/
  compress2 : Text → Option Text
  /-- At most so many bytes unpacked from some data, none where the call fails. -/
  uncompress : ℕ → Text → Option Text
  crc32 : Text → ℕ
  compress2_ne_nil : ∀ {raw packed : Text}, compress2 raw = some packed → packed ≠ []
  uncompress_compress2 : ∀ {raw packed : Text}, compress2 raw = some packed →
    uncompress raw.length packed = some raw

def kPngSignature : Text := [0x89, 0x50, 0x4E, 0x47, 0x0D, 0x0A, 0x1A, 0x0A]

def readBigEndian32 (bytes : Text) (offset : ℕ) : UInt32 :=
  (bytes.getD offset 0).toUInt32 <<< 24 ||| (bytes.getD (offset + 1) 0).toUInt32 <<< 16
    ||| (bytes.getD (offset + 2) 0).toUInt32 <<< 8 ||| (bytes.getD (offset + 3) 0).toUInt32

def paethPredictor (left up upLeft : UInt8) : UInt8 :=
  let p : ℤ := (left.toNat : ℤ) + up.toNat - upLeft.toNat
  let pa := |p - left.toNat|
  let pb := |p - up.toNat|
  let pc := |p - upLeft.toNat|
  if pa ≤ pb ∧ pa ≤ pc then left else if pb ≤ pc then up else upLeft

structure PngChunks where
  width : UInt32 := 0
  height : UInt32 := 0
  bitDepth : UInt8 := 0
  colorType : UInt8 := 0
  idat : Text := []
deriving DecidableEq

/-- The header chunk, with the checks of its fields. -/
def readHeader (chunks : PngChunks) (payload : Text) : Except Text PngChunks :=
  if payload.length ≠ 13 then .error (utf8 "Invalid IHDR length")
  else
    let width := readBigEndian32 payload 0
    let height := readBigEndian32 payload 4
    let bitDepth := payload.getD 8 0
    let colorType := payload.getD 9 0
    let compression := payload.getD 10 0
    let filter := payload.getD 11 0
    let interlace := payload.getD 12 0
    if width = 0 ∨ height = 0 then .error (utf8 "PNG has zero dimensions")
    else if kMaxReplacementImageDimension < width.toNat
        ∨ kMaxReplacementImageDimension < height.toNat then
      .error (utf8 "PNG dimensions exceed configured limits")
    else if bitDepth ≠ 8 ∨ (colorType ≠ 2 ∧ colorType ≠ 6) ∨ compression ≠ 0 ∨ filter ≠ 0
        ∨ interlace ≠ 0 then
      .error (utf8 "PNG format not supported (expected non-interlaced 8-bit RGB/RGBA)")
    else
      .ok { chunks with width := width, height := height, bitDepth := bitDepth,
                        colorType := colorType }

/-- The type and the payload of the chunk a text of at least twelve bytes begins with, and what
follows its checksum; none where the chunk is longer than the text. -/
def splitChunk (data : Text) : Option (Text × Text × Text) :=
  let length := (readBigEndian32 data 0).toNat
  if data.length < 12 + length then none
  else some ((data.drop 4).take 4, (data.drop 8).take length, data.drop (12 + length))

/-- The loop over the chunks of a text no longer than the fuel. -/
def readChunks : ℕ → PngChunks → Text → Except Text PngChunks
  | 0, chunks, _ => .ok chunks
  | fuel + 1, chunks, data =>
    if data.length < 12 then .ok chunks
    else
      match splitChunk data with
      | none => .error (utf8 "PNG chunk extends beyond file")
      | some (type, payload, rest) =>
        if type = utf8 "IHDR" then
          match readHeader chunks payload with
          | .error error => .error error
          | .ok chunks => readChunks fuel chunks rest
        else if type = utf8 "IDAT" then
          readChunks fuel { chunks with idat := chunks.idat ++ payload } rest
        else if type = utf8 "IEND" then .ok chunks
        else readChunks fuel chunks rest

/-- What a filter adds to a byte, from the bytes to its left, above and above to the left. -/
def filterPredictor (filterType left up upLeft : UInt8) : Option UInt8 :=
  if filterType = 0 then some 0
  else if filterType = 1 then some left
  else if filterType = 2 then some up
  else if filterType = 3 then some (UInt8.ofNat ((left.toNat + up.toNat) / 2))
  else if filterType = 4 then some (paethPredictor left up upLeft)
  else none

/-- One more byte of a row. -/
def unfilterByte (channels : ℕ) (filterType : UInt8) (previous : Option Text) (output : Text)
    (source : UInt8) : Option Text :=
  let x := output.length
  let above := fun column => (previous.getD []).getD column 0
  let left := if channels ≤ x then output.getD (x - channels) 0 else 0
  let upLeft := if channels ≤ x then above (x - channels) else 0
  (filterPredictor filterType left (above x) upLeft).map fun predictor =>
    output ++ [source + predictor]

def unfilterRow (channels : ℕ) (filterType : UInt8) (previous : Option Text) (source : Text) :
    Option Text :=
  source.foldlM (unfilterByte channels filterType previous) []

/-- The rows of a picture, each a filter and its bytes. -/
def unfilterRows (channels stride : ℕ) : ℕ → Option Text → Text → Option (List Text)
  | 0, _, _ => some []
  | height + 1, previous, inflated => do
    let source := (inflated.drop 1).take stride
    let row ← unfilterRow channels (inflated.headD 0) previous source
    let rows ← unfilterRows channels stride height (some row) (inflated.drop (stride + 1))
    some (row :: rows)

def argbPixel (r g b a : UInt8) : UInt32 :=
  a.toUInt32 <<< 24 ||| r.toUInt32 <<< 16 ||| g.toUInt32 <<< 8 ||| b.toUInt32

structure DecodedImage where
  width : UInt32
  height : UInt32
  hasPalette : Bool
  hasAlpha : Bool
  argbPixels : List UInt32
deriving DecidableEq

/-- The picture of some unfiltered bytes. -/
def assembleImage (chunks : PngChunks) (channels : ℕ) (decoded : Text) : DecodedImage :=
  { width := chunks.width
    height := chunks.height
    hasPalette := false
    hasAlpha := channels == 4
    argbPixels := (List.range (chunks.width.toNat * chunks.height.toNat)).map fun i =>
      argbPixel (decoded.getD (i * channels) 0) (decoded.getD (i * channels + 1) 0)
        (decoded.getD (i * channels + 2) 0)
        (if channels = 4 then decoded.getD (i * channels + 3) 0 else 0xFF) }

/-- The picture of the chunks of a whole file. -/
def inflateImage (zlib : Zlib) (chunks : PngChunks) : Except Text DecodedImage :=
  if chunks.width = 0 ∨ chunks.height = 0 then .error (utf8 "PNG missing IHDR")
  else if chunks.idat = [] then .error (utf8 "PNG missing IDAT data")
  else
    let channels := if chunks.colorType = 6 then 4 else 3
    let stride := chunks.width.toNat * channels
    let inflatedSize := (stride + 1) * chunks.height.toNat
    if kMaxReplacementInflatedBytes < inflatedSize then
      .error (utf8 "PNG inflated payload exceeds configured limits")
    else
      match zlib.uncompress inflatedSize chunks.idat with
      | none => .error (utf8 "PNG inflate failed")
      | some inflated =>
        if inflated.length ≠ inflatedSize then .error (utf8 "PNG inflate failed")
        else
          match unfilterRows channels stride chunks.height.toNat none inflated with
          | none => .error (utf8 "PNG row uses unsupported filter type")
          | some rows => .ok (assembleImage chunks channels rows.flatten)

def decodePngToRgba (zlib : Zlib) (pngData : Text) : Except Text DecodedImage :=
  if pngData.take 8 ≠ kPngSignature then .error (utf8 "Invalid PNG signature")
  else (readChunks pngData.length {} (pngData.drop 8)).bind (inflateImage zlib)

end ProtoTime.Visual
