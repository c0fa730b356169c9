import Mathlib.Data.List.GetD
import ProtoTime.Visual.VisualCaptureWriter

/-!
The picture of a captured resource survives its file: the decoder reads back the colours the
writer gave the pixels, as far as its limits allow a picture of that size.
-/
namespace ProtoTime.Visual

open Json VisualPackLimits

/-! ## Rows -/

theorem unfilterRow_none (channels : ℕ) (previous : Option Text) (source : Text) :
    unfilterRow channels 0 previous source = some source := by
  have hfold (output : Text) :
      source.foldlM (unfilterByte channels 0 previous) output = some (output ++ source) := by
    induction source generalizing output with
    | nil => simp
    | cons b source ih =>
      have hbyte : unfilterByte channels 0 previous output b = some (output ++ [b]) := by
        simp [unfilterByte, filterPredictor]
      rw [List.foldlM_cons, hbyte]
      change source.foldlM (unfilterByte channels 0 previous) (output ++ [b]) = _
      rw [ih, List.append_assoc, List.singleton_append]
  exact hfold []

theorem unfilterRows_none {channels stride : ℕ} {rows : List Text} (previous : Option Text)
    (h : ∀ row ∈ rows, row.length = stride) :
    unfilterRows channels stride rows.length previous (rows.flatMap fun row => 0 :: row)
      = some rows := by
  induction rows generalizing previous with
  | nil => rfl
  | cons row rows ih =>
    have hrow := h row (by simp)
    have htake : (row ++ rows.flatMap fun row => 0 :: row).take stride = row := by
      rw [← hrow, List.take_left]
    have hdrop : (row ++ rows.flatMap fun row => 0 :: row).drop stride
        = rows.flatMap fun row => 0 :: row := by
      rw [← hrow, List.drop_left]
    have hmore := ih (some row) fun other hother => h other (by simp [hother])
    simp only [List.length_cons, List.flatMap_cons, List.cons_append, unfilterRows,
      List.drop_succ_cons, List.drop_zero, List.headD_cons, htake, hdrop, unfilterRow_none,
      Option.bind_eq_bind, Option.bind_some, hmore]

/-! ## Pixels -/

theorem getD_flatMap_chunk {α : Type} {f : α → Text} {size : ℕ} (hf : ∀ a, (f a).length = size)
    (items : List α) {i k : ℕ} (hi : i < items.length) (hk : k < size) :
    (items.flatMap f).getD (i * size + k) 0 = (f items[i]).getD k 0 := by
  induction items generalizing i with
  | nil => exact absurd hi (by simp)
  | cons a items ih =>
    have hlen := hf a
    rw [List.flatMap_cons]
    cases i with
    | zero =>
      rw [Nat.zero_mul, Nat.zero_add, List.getD_append _ _ _ _ (by omega)]
      rfl
    | succ i =>
      have hindex : (i + 1) * size + k = (f a).length + (i * size + k) := by
        rw [hlen, Nat.succ_mul]
        omega
      rw [hindex, List.getD_append_right _ _ _ _ (by omega), Nat.add_sub_cancel_left,
        ih (by simpa using hi)]
      rfl

theorem length_flatMap_chunk {α β : Type} {f : α → List β} {items : List α} {size : ℕ}
    (hf : ∀ a ∈ items, (f a).length = size) : (items.flatMap f).length = items.length * size := by
  induction items with
  | nil => simp
  | cons a items ih =>
    rw [List.flatMap_cons, List.length_append, hf a (by simp),
      ih fun b hb => hf b (by simp [hb]), List.length_cons, Nat.succ_mul]
    omega

def argbColor (color : ℕ) : UInt32 :=
  argbPixel (kIndexedArgbRed.getD color 0) (kIndexedArgbGreen.getD color 0)
    (kIndexedArgbBlue.getD color 0) (kIndexedArgbAlpha.getD color 0)

theorem length_colorBytes (color : ℕ) : (colorBytes color).length = 4 := rfl

theorem map_argbPixel_colorBytes (colors : List ℕ) {n : ℕ} (hn : colors.length = n) :
    ((List.range n).map fun i =>
        argbPixel ((colors.flatMap colorBytes).getD (i * 4) 0)
          ((colors.flatMap colorBytes).getD (i * 4 + 1) 0)
          ((colors.flatMap colorBytes).getD (i * 4 + 2) 0)
          ((colors.flatMap colorBytes).getD (i * 4 + 3) 0))
      = colors.map argbColor := by
  subst hn
  apply List.ext_getElem
  · simp
  · intro i hleft hright
    have hi : i < colors.length := by simpa using hright
    have hread (k : ℕ) (hk : k < 4) :=
      getD_flatMap_chunk length_colorBytes colors hi hk
    have hfirst := hread 0 (by omega)
    rw [Nat.add_zero] at hfirst
    rw [List.getElem_map, List.getElem_map, List.getElem_range, hfirst, hread 1 (by omega),
      hread 2 (by omega), hread 3 (by omega)]
    rfl

variable (resource : DecodedVisualResource)

/-- The colours of a resource, row after row. -/
def resourceColors : List ℕ :=
  (List.range resource.descriptor.height.toNat).flatMap (rowColors resource)

def capturedPicture : VisualReplacementImage :=
  { width := resource.descriptor.width
    height := resource.descriptor.height
    argbPixels := (resourceColors resource).map argbColor }

theorem length_resourceColors :
    (resourceColors resource).length
      = resource.descriptor.width.toNat * resource.descriptor.height.toNat := by
  have hrow (y : ℕ) (_ : y ∈ List.range resource.descriptor.height.toNat) :
      (rowColors resource y).length = resource.descriptor.width.toNat := by
    simp [rowColors]
  rw [resourceColors, length_flatMap_chunk hrow, List.length_range, Nat.mul_comm]

def pictureRows : List Text :=
  (List.range resource.descriptor.height.toNat).map fun y =>
    (rowColors resource y).flatMap colorBytes

theorem length_of_mem_pictureRows {resource : DecodedVisualResource} {row : Text}
    (h : row ∈ pictureRows resource) : row.length = resource.descriptor.width.toNat * 4 := by
  obtain ⟨y, _, rfl⟩ := List.mem_map.mp h
  rw [length_flatMap_chunk fun color _ => length_colorBytes color]
  simp [rowColors]

theorem length_pictureRows : (pictureRows resource).length = resource.descriptor.height.toNat := by
  simp [pictureRows]

theorem rawPicture_eq :
    rawPicture resource = (pictureRows resource).flatMap fun row => 0 :: row := by
  unfold rawPicture pictureRows
  rw [List.flatMap_map]

theorem flatten_pictureRows :
    (pictureRows resource).flatten = (resourceColors resource).flatMap colorBytes := by
  unfold pictureRows resourceColors
  rw [List.flatMap_assoc, ← List.flatMap_def]

/-- The bytes of a picture before compression. -/
def inflatedBytes (width height : UInt32) : ℕ := (width.toNat * 4 + 1) * height.toNat

theorem length_rawPicture :
    (rawPicture resource).length
      = inflatedBytes resource.descriptor.width resource.descriptor.height := by
  have hrow (row : Text) (h : row ∈ pictureRows resource) :
      (0 :: row).length = resource.descriptor.width.toNat * 4 + 1 := by
    rw [List.length_cons, length_of_mem_pictureRows h]
  rw [rawPicture_eq, length_flatMap_chunk hrow, length_pictureRows]
  exact Nat.mul_comm _ _

/-! ## Files -/

theorem readBigEndian32_bigEndian32 (value : UInt32) (bytes : Text) :
    readBigEndian32 (bigEndian32 value ++ bytes) 0 = value := by
  have hlt := value.toNat_lt
  have h24 : ((value >>> 24).toUInt8.toUInt32 <<< 24).toNat
      = (value.toNat / 2 ^ 24 % 256) <<< 24 := by
    simp [UInt32.toNat_shiftLeft, UInt32.toNat_shiftRight, Nat.shiftRight_eq_div_pow,
      Nat.shiftLeft_eq]
    omega
  have h16 : ((value >>> 16).toUInt8.toUInt32 <<< 16).toNat
      = (value.toNat / 2 ^ 16 % 256) <<< 16 := by
    simp [UInt32.toNat_shiftLeft, UInt32.toNat_shiftRight, Nat.shiftRight_eq_div_pow,
      Nat.shiftLeft_eq]
    omega
  have h8 : ((value >>> 8).toUInt8.toUInt32 <<< 8).toNat
      = (value.toNat / 2 ^ 8 % 256) <<< 8 := by
    simp [UInt32.toNat_shiftLeft, UInt32.toNat_shiftRight, Nat.shiftRight_eq_div_pow,
      Nat.shiftLeft_eq]
    omega
  have h0 : value.toUInt8.toUInt32.toNat = value.toNat % 256 := by simp
  apply UInt32.toNat_inj.mp
  change ((value >>> 24).toUInt8.toUInt32 <<< 24 ||| (value >>> 16).toUInt8.toUInt32 <<< 16
    ||| (value >>> 8).toUInt8.toUInt32 <<< 8 ||| value.toUInt8.toUInt32).toNat = _
  rw [UInt32.toNat_or, UInt32.toNat_or, UInt32.toNat_or, h24, h16, h8, h0]
  have hlow : value.toNat % 256 < 2 ^ 8 := by omega
  have hmiddle : (value.toNat / 2 ^ 8 % 256) <<< 8 + value.toNat % 256 < 2 ^ 16 := by
    omega
  have hhigh : (value.toNat / 2 ^ 16 % 256) <<< 16
      + ((value.toNat / 2 ^ 8 % 256) <<< 8 + value.toNat % 256) < 2 ^ 24 := by
    rw [Nat.shiftLeft_eq, Nat.shiftLeft_eq]
    omega
  rw [Nat.or_assoc, Nat.or_assoc, ← Nat.shiftLeft_add_eq_or_of_lt hlow,
    ← Nat.shiftLeft_add_eq_or_of_lt hmiddle, ← Nat.shiftLeft_add_eq_or_of_lt hhigh]
  omega

theorem readBigEndian32_append {front : Text} (h : front.length = 4) (bytes : Text) :
    readBigEndian32 (front ++ bytes) 4 = readBigEndian32 bytes 0 := by
  unfold readBigEndian32
  rw [List.getD_append_right _ _ _ _ (by omega), List.getD_append_right _ _ _ _ (by omega),
    List.getD_append_right _ _ _ _ (by omega), List.getD_append_right _ _ _ _ (by omega), h]

theorem length_bigEndian32 (value : UInt32) : (bigEndian32 value).length = 4 := rfl

/-- A chunk is split off again. -/
theorem splitChunk_pngChunk (zlib : Zlib) {type data : Text} (htype : type.length = 4)
    (hdata : data.length < 2 ^ 32) (rest : Text) :
    splitChunk (pngChunk zlib type data ++ rest) = some (type, data, rest) := by
  have hlength : (readBigEndian32 (pngChunk zlib type data ++ rest) 0).toNat = data.length := by
    unfold pngChunk
    rw [List.append_assoc, List.append_assoc, List.append_assoc, readBigEndian32_bigEndian32]
    exact UInt32.toNat_ofNat_of_lt' hdata
  generalize hcrc : bigEndian32
    (UInt32.ofNat (zlib.crc32 ((type ++ data).take ((4 + data.length) % 2 ^ 32)))) = checksum
  have hchecksum : checksum.length = 4 := by rw [← hcrc]; rfl
  have hchunk : pngChunk zlib type data ++ rest
      = bigEndian32 (UInt32.ofNat data.length) ++ (type ++ (data ++ (checksum ++ rest))) := by
    unfold pngChunk
    rw [hcrc]
    simp only [List.append_assoc]
  have hsize := length_bigEndian32 (UInt32.ofNat data.length)
  unfold splitChunk
  dsimp only
  rw [hlength, hchunk, if_neg (by simp only [List.length_append]; omega)]
  have htypePart : ((bigEndian32 (UInt32.ofNat data.length)
      ++ (type ++ (data ++ (checksum ++ rest)))).drop 4).take 4 = type := by
    rw [← hsize, List.drop_left, hsize, ← htype, List.take_left]
  have hdataPart : ((bigEndian32 (UInt32.ofNat data.length)
      ++ (type ++ (data ++ (checksum ++ rest)))).drop 8).take data.length = data := by
    have hindex : 8 = (bigEndian32 (UInt32.ofNat data.length) ++ type).length := by
      rw [List.length_append]
      omega
    rw [← List.append_assoc, hindex, List.drop_left, List.take_left]
  have hrestPart : (bigEndian32 (UInt32.ofNat data.length)
      ++ (type ++ (data ++ (checksum ++ rest)))).drop (12 + data.length) = rest := by
    have hindex : 12 + data.length
        = (bigEndian32 (UInt32.ofNat data.length) ++ (type ++ (data ++ checksum))).length := by
      simp only [List.length_append]
      omega
    have hassoc : bigEndian32 (UInt32.ofNat data.length) ++ (type ++ (data ++ (checksum ++ rest)))
        = (bigEndian32 (UInt32.ofNat data.length) ++ (type ++ (data ++ checksum))) ++ rest := by
      simp only [List.append_assoc]
    rw [hassoc, hindex, List.drop_left]
  rw [htypePart, hdataPart, hrestPart]

theorem length_pngChunk (zlib : Zlib) {type data : Text} (htype : type.length = 4) :
    (pngChunk zlib type data).length = 12 + data.length := by
  unfold pngChunk
  simp only [List.length_append, length_bigEndian32]
  omega

theorem length_chunkTypes : (utf8 "IHDR").length = 4 ∧ (utf8 "IDAT").length = 4
    ∧ (utf8 "IEND").length = 4 := by decide

theorem chunkTypes_ne : utf8 "IDAT" ≠ utf8 "IHDR" ∧ utf8 "IEND" ≠ utf8 "IHDR"
    ∧ utf8 "IEND" ≠ utf8 "IDAT" := by decide

/-- The size of a picture that the decoder accepts. -/
def WithinLimits (width height : UInt32) : Prop :=
  width.toNat ≤ kMaxReplacementImageDimension ∧ height.toNat ≤ kMaxReplacementImageDimension
    ∧ inflatedBytes width height ≤ kMaxReplacementInflatedBytes

instance (width height : UInt32) : Decidable (WithinLimits width height) :=
  inferInstanceAs (Decidable (_ ∧ _ ∧ _))

def writtenChunks (width height : UInt32) (compressed : Text) : PngChunks :=
  { width := width, height := height, bitDepth := 8, colorType := 6, idat := compressed }

theorem readHeader_pngHeader {width height : UInt32} (hwidth : width ≠ 0) (hheight : height ≠ 0) :
    readHeader {} (pngHeader width height)
      = if kMaxReplacementImageDimension < width.toNat
          ∨ kMaxReplacementImageDimension < height.toNat then
        .error (utf8 "PNG dimensions exceed configured limits")
      else .ok (writtenChunks width height []) := by
  have hw : readBigEndian32 (pngHeader width height) 0 = width := by
    unfold pngHeader
    rw [List.append_assoc, readBigEndian32_bigEndian32]
  have hh : readBigEndian32 (pngHeader width height) 4 = height := by
    unfold pngHeader
    rw [List.append_assoc, readBigEndian32_append (length_bigEndian32 width),
      readBigEndian32_bigEndian32]
  have hfields : (pngHeader width height).getD 8 0 = 8 ∧ (pngHeader width height).getD 9 0 = 6
      ∧ (pngHeader width height).getD 10 0 = 0 ∧ (pngHeader width height).getD 11 0 = 0
      ∧ (pngHeader width height).getD 12 0 = 0 := by
    simp [pngHeader, bigEndian32]
  obtain ⟨h8, h9, h10, h11, h12⟩ := hfields
  have hlength : ¬ (pngHeader width height).length ≠ 13 := by
    unfold pngHeader
    simp [length_bigEndian32]
  unfold readHeader
  simp only [hw, hh, h8, h9, h10, h11, h12]
  rw [if_neg hlength, if_neg (by simp [hwidth, hheight])]
  simp [writtenChunks]

/-- The chunks of a written file are read back, when the size of the picture allows it. -/
theorem readChunks_pngFile (zlib : Zlib) {width height : UInt32} {compressed : Text}
    (hwidth : width ≠ 0) (hheight : height ≠ 0) (hsize : compressed.length < 2 ^ 32) {fuel : ℕ}
    (hfuel : 3 ≤ fuel) :
    readChunks fuel {} ((pngFile zlib width height compressed).drop 8)
      = if kMaxReplacementImageDimension < width.toNat
          ∨ kMaxReplacementImageDimension < height.toNat then
        .error (utf8 "PNG dimensions exceed configured limits")
      else .ok (writtenChunks width height compressed) := by
  obtain ⟨n, rfl⟩ : ∃ n, fuel = n + 1 + 1 + 1 := ⟨fuel - 3, by omega⟩
  obtain ⟨hihdr, hidat, hiend⟩ := length_chunkTypes
  obtain ⟨hdata, hend, hend'⟩ := chunkTypes_ne
  have hdrop : (pngFile zlib width height compressed).drop 8
      = pngChunk zlib (utf8 "IHDR") (pngHeader width height)
        ++ (pngChunk zlib (utf8 "IDAT") compressed ++ (pngChunk zlib (utf8 "IEND") [] ++ [])) := by
    unfold pngFile
    rw [List.append_assoc, List.append_assoc, show 8 = kPngSignature.length from rfl,
      List.drop_left, List.append_nil]
  have hheader : (pngHeader width height).length < 2 ^ 32 := by
    unfold pngHeader
    simp [length_bigEndian32]
  have hempty : ([] : Text).length < 2 ^ 32 := by decide
  have hlong (type data rest : Text) (htype : type.length = 4) :
      ¬ (pngChunk zlib type data ++ rest).length < 12 := by
    rw [List.length_append, length_pngChunk zlib htype]
    omega
  rw [hdrop, readChunks, if_neg (hlong _ _ _ hihdr), splitChunk_pngChunk zlib hihdr hheader]
  dsimp only
  rw [if_pos rfl, readHeader_pngHeader hwidth hheight]
  split_ifs with hlarge
  · rfl
  · dsimp only
    rw [readChunks, if_neg (hlong _ _ _ hidat), splitChunk_pngChunk zlib hidat hsize]
    dsimp only
    rw [if_neg hdata, if_pos rfl, readChunks, if_neg (hlong _ _ _ hiend),
      splitChunk_pngChunk zlib hiend hempty]
    dsimp only
    rfl

/-- The image that the decoder makes of a resource's file. -/
def decodedPicture : DecodedImage :=
  { width := resource.descriptor.width
    height := resource.descriptor.height
    hasPalette := false
    hasAlpha := true
    argbPixels := (capturedPicture resource).argbPixels }

theorem inflateImage_writtenChunks {zlib : Zlib} {resource : DecodedVisualResource}
    {compressed : Text} (hcompress : zlib.compress2 (rawPicture resource) = some compressed)
    (hwidth : resource.descriptor.width ≠ 0) (hheight : resource.descriptor.height ≠ 0) :
    inflateImage zlib
        (writtenChunks resource.descriptor.width resource.descriptor.height compressed)
      = if kMaxReplacementInflatedBytes
          < inflatedBytes resource.descriptor.width resource.descriptor.height then
        .error (utf8 "PNG inflated payload exceeds configured limits")
      else .ok (decodedPicture resource) := by
  have hlength := length_rawPicture resource
  have huncompress := zlib.uncompress_compress2 hcompress
  rw [hlength] at huncompress
  have hrows : unfilterRows 4 (resource.descriptor.width.toNat * 4)
      resource.descriptor.height.toNat none (rawPicture resource) = some (pictureRows resource) := by
    rw [rawPicture_eq, ← length_pictureRows]
    exact unfilterRows_none none fun row hrow => length_of_mem_pictureRows hrow
  have hpixels := map_argbPixel_colorBytes (resourceColors resource)
    (length_resourceColors resource)
  unfold inflateImage writtenChunks
  dsimp only
  rw [if_neg (by simp [hwidth, hheight]), if_neg (zlib.compress2_ne_nil hcompress)]
  simp only [if_true]
  change (if kMaxReplacementInflatedBytes
    < inflatedBytes resource.descriptor.width resource.descriptor.height then _ else _) = _
  split_ifs with hlarge
  · rfl
  · have hexact : ¬ (rawPicture resource).length
        ≠ (resource.descriptor.width.toNat * 4 + 1) * resource.descriptor.height.toNat := by
      rw [hlength]
      exact fun hne => hne rfl
    rw [show zlib.uncompress ((resource.descriptor.width.toNat * 4 + 1)
      * resource.descriptor.height.toNat) compressed = some (rawPicture resource) from huncompress]
    dsimp only
    rw [if_neg hexact, hrows]
    dsimp only
    rw [flatten_pictureRows]
    simp only [assembleImage, if_true, hpixels]
    rfl

/-- The decoder's answer to the file of a resource: its picture, within the limits. -/
theorem decodePngToRgba_decodedResourcePng {zlib : Zlib} {resource : DecodedVisualResource}
    {file : Text} (h : decodedResourcePng zlib resource = .ok file)
    (hsize : file.length < 2 ^ 32) :
    (WithinLimits resource.descriptor.width resource.descriptor.height →
        decodePngToRgba zlib file = .ok (decodedPicture resource))
      ∧ (¬ WithinLimits resource.descriptor.width resource.descriptor.height →
        ∃ error, decodePngToRgba zlib file = .error error) := by
  unfold decodedResourcePng at h
  dsimp only at h
  split_ifs at h with hzero
  obtain ⟨hwidth, hheight, _⟩ : resource.descriptor.width ≠ 0 ∧ resource.descriptor.height ≠ 0
      ∧ resource.stride ≠ 0 := by simpa [not_or] using hzero
  cases hcompress : zlib.compress2 (rawPicture resource) with
  | none =>
    rw [hcompress] at h
    cases h
  | some compressed =>
    rw [hcompress] at h
    cases h
    have hlength : (pngChunk zlib (utf8 "IDAT") compressed).length = 12 + compressed.length :=
      length_pngChunk zlib length_chunkTypes.2.1
    have hfile : 12 + compressed.length ≤ (pngFile zlib resource.descriptor.width
        resource.descriptor.height compressed).length := by
      unfold pngFile
      simp only [List.length_append]
      omega
    have hsignature : ¬ (pngFile zlib resource.descriptor.width resource.descriptor.height
        compressed).take 8 ≠ kPngSignature := by
      unfold pngFile
      exact fun hne => hne rfl
    have hchunks := readChunks_pngFile zlib hwidth hheight (by omega : compressed.length < 2 ^ 32)
      (by omega : 3 ≤ (pngFile zlib resource.descriptor.width resource.descriptor.height
        compressed).length)
    unfold decodePngToRgba
    rw [if_neg hsignature, hchunks]
    constructor
    · intro hlimits
      obtain ⟨hw, hh, hinflated⟩ := hlimits
      rw [if_neg (by omega)]
      change inflateImage zlib _ = _
      rw [inflateImage_writtenChunks hcompress hwidth hheight, if_neg (by omega)]
    · intro hlimits
      split_ifs with hlarge
      · exact ⟨_, rfl⟩
      · change ∃ error, inflateImage zlib _ = _
        rw [inflateImage_writtenChunks hcompress hwidth hheight, if_pos]
        · exact ⟨_, rfl⟩
        · by_contra hsmall
          exact hlimits ⟨by omega, by omega, by omega⟩

end ProtoTime.Visual
