import ProtoTime.VectorRegisters

/-!
The pixel kernels in their scalar and vector versions and the choice between them. Pointers are
byte addresses: element `i` of an array of 32-bit pixels is at its address plus `4 * i`.
-/
namespace ProtoTime.SimdPixelOps
open BlockMemory VectorRegisters

inductive Backend
  | scalar
  | sse2
  | sse41
  | avx2
  | neon
  deriving DecidableEq

structure Build where
  x86 : Bool
  avx2 : Bool
  neon : Bool

section Scalar

def argb8888ToRgb565Single (argb : BitVec 32) : BitVec 16 :=
  let r := (argb >>> 16) &&& 0xFF
  let g := (argb >>> 8) &&& 0xFF
  let b := argb &&& 0xFF
  (((r >>> 3) <<< 11) ||| ((g >>> 2) <<< 5) ||| (b >>> 3)).setWidth 16

/-- Pixel `i` of the conversion, as in the scalar loop and in the tails. -/
def convertPixel (src dst i : ℕ) (m : Memory) : Memory :=
  store 2 m (dst + 2 * i) (argb8888ToRgb565Single (load32 m (src + 4 * i)))

def convertArgb8888ToRgb565Scalar (src dst pixelCount : ℕ) (m : Memory) : Memory :=
  forRange 0 pixelCount (convertPixel src dst) m

def replacePixelsScalar (src mask dst : ℕ) (replacementColor : BitVec 32) (pixelCount : ℕ)
    (m : Memory) : Memory :=
  forRange 0 pixelCount (fun i m =>
    if m (mask + i) ≠ 0 then store 4 m (dst + 4 * i) replacementColor
    else store 4 m (dst + 4 * i) (load32 m (src + 4 * i))) m

def replacePixel (src mask dst : ℕ) (replacementColor : BitVec 32) (i : ℕ) (m : Memory) : Memory :=
  store 4 m (dst + 4 * i)
    (if m (mask + i) ≠ 0 then replacementColor else load32 m (src + 4 * i))

def replaceMaskPixel (src mask replacements dst i : ℕ) (m : Memory) : Memory :=
  store 4 m (dst + 4 * i)
    (if m (mask + i) ≠ 0 then load32 m (replacements + 4 * i) else load32 m (src + 4 * i))

def replacePixelsMaskScalar (src mask replacements dst pixelCount : ℕ) (m : Memory) : Memory :=
  forRange 0 pixelCount (replaceMaskPixel src mask replacements dst) m

def fillPixel (dst : ℕ) (color : BitVec 32) (i : ℕ) (m : Memory) : Memory :=
  store 4 m (dst + 4 * i) color

def fillPixelsScalar (dst : ℕ) (color : BitVec 32) (pixelCount : ℕ) (m : Memory) : Memory :=
  forRange 0 pixelCount (fillPixel dst color) m

def countPixel (m : Memory) (a b i diff : ℕ) : ℕ :=
  if load32 m (a + 4 * i) ≠ load32 m (b + 4 * i) then diff + 1 else diff

def countDifferentPixelsScalar (m : Memory) (a b pixelCount diff : ℕ) : ℕ :=
  forRange 0 pixelCount (countPixel m a b) diff

end Scalar

section Vector

variable {n : ℕ}

/-- The three colors of each lane shifted to their places. -/
def packRgb565 (pix : Register n) : Register n :=
  let r := andSi (srliEpi32 pix 19) (set1Epi32 0x1F)
  let g := andSi (srliEpi32 pix 10) (set1Epi32 0x3F)
  let b := andSi (srliEpi32 pix 3) (set1Epi32 0x1F)
  orSi (orSi (slliEpi32 r 11) (slliEpi32 g 5)) b

/-- The lanes of `pix` whose selector is zero and those of `repl` elsewhere. -/
def mergeLanes (expanded pix repl : Register n) : Register n :=
  let keepSrc := cmpeqEpi32 expanded setzeroSi
  let maskedSrc := andSi keepSrc pix
  let maskedRepl := andnotSi keepSrc repl
  orSi maskedSrc maskedRepl

/-- Eight mask bytes as eight selectors. -/
def expandMask (maskVec : Register 16) : Register 32 :=
  let expLo := shuffleEpi8 maskVec shuffleMask
  let expHi := shuffleEpi8 (srliSi128 maskVec 4) shuffleMask
  inserti128Si256 (castsi128Si256 expLo) expHi 1

end Vector

section Sse

def convertArgb8888ToRgb565Sse2 (src dst pixelCount : ℕ) (m : Memory) : Memory :=
  let vecCount := pixelCount / 4
  let m := forRange 0 vecCount (fun i m =>
    let tmp := packRgb565 (loaduSi 16 m (src + 4 * (i * 4)))
    let m := store 2 m (dst + 2 * (i * 4 + 0)) ((tmp.lane 0).setWidth 16)
    let m := store 2 m (dst + 2 * (i * 4 + 1)) ((tmp.lane 1).setWidth 16)
    let m := store 2 m (dst + 2 * (i * 4 + 2)) ((tmp.lane 2).setWidth 16)
    store 2 m (dst + 2 * (i * 4 + 3)) ((tmp.lane 3).setWidth 16)) m
  forRange (vecCount * 4) pixelCount (convertPixel src dst) m

def convertArgb8888ToRgb565Sse41 (src dst pixelCount : ℕ) (m : Memory) : Memory :=
  let vecCount := pixelCount / 4
  let m := forRange 0 vecCount (fun i m =>
    let packed32 := packRgb565 (loaduSi 16 m (src + 4 * (i * 4)))
    let packed16 := packusEpi32 packed32 setzeroSi
    storelEpi64 m (dst + 2 * (i * 4)) packed16) m
  forRange (vecCount * 4) pixelCount (convertPixel src dst) m

def replacePixelsSsse3 (src mask dst : ℕ) (replacementColor : BitVec 32) (pixelCount : ℕ)
    (m : Memory) : Memory :=
  let vecCount := pixelCount / 4
  let replVec : Register 16 := set1Epi32 replacementColor
  let m := forRange 0 vecCount (fun i m =>
    let pix := loaduSi 16 m (src + 4 * (i * 4))
    let maskVec := loaduSi32 m (mask + i * 4)
    let expanded := shuffleEpi8 maskVec shuffleMask
    storeuSi m (dst + 4 * (i * 4)) (mergeLanes expanded pix replVec)) m
  forRange (vecCount * 4) pixelCount (replacePixel src mask dst replacementColor) m

def replacePixelsMaskSsse3 (src mask replacements dst pixelCount : ℕ) (m : Memory) : Memory :=
  let vecCount := pixelCount / 4
  let m := forRange 0 vecCount (fun i m =>
    let pix := loaduSi 16 m (src + 4 * (i * 4))
    let repl := loaduSi 16 m (replacements + 4 * (i * 4))
    let maskVec := loaduSi32 m (mask + i * 4)
    let expanded := shuffleEpi8 maskVec shuffleMask
    storeuSi m (dst + 4 * (i * 4)) (mergeLanes expanded pix repl)) m
  forRange (vecCount * 4) pixelCount (replaceMaskPixel src mask replacements dst) m

def fillPixelsSse2 (dst : ℕ) (color : BitVec 32) (pixelCount : ℕ) (m : Memory) : Memory :=
  let vec : Register 16 := set1Epi32 color
  let vecCount := pixelCount / 4
  let m := forRange 0 vecCount (fun i m => storeuSi m (dst + 4 * (i * 4)) vec) m
  forRange (vecCount * 4) pixelCount (fillPixel dst color) m

def countDifferentPixelsSse2 (m : Memory) (a b pixelCount diff : ℕ) : ℕ :=
  let vecCount := pixelCount / 4
  let diff := forRange 0 vecCount (fun i diff =>
    let va := loaduSi 16 m (a + 4 * (i * 4))
    let vb := loaduSi 16 m (b + 4 * (i * 4))
    let equalMask := movemaskPs (cmpeqEpi32 va vb) &&& 0x0F
    diff + (4 - ((equalMask &&& 1#32) + ((equalMask >>> 1) &&& 1#32) +
      ((equalMask >>> 2) &&& 1#32) + ((equalMask >>> 3) &&& 1#32)).toNat)) diff
  forRange (vecCount * 4) pixelCount (countPixel m a b) diff

end Sse

section Avx2

def convertArgb8888ToRgb565Avx2 (src dst pixelCount : ℕ) (m : Memory) : Memory :=
  let vecCount := pixelCount / 8
  let m := forRange 0 vecCount (fun i m =>
    let tmp := packRgb565 (loaduSi 32 m (src + 4 * (i * 8)))
    forRange 0 8 (fun lane m =>
      store 2 m (dst + 2 * (i * 8 + lane)) ((tmp.lane lane).setWidth 16)) m) m
  forRange (vecCount * 8) pixelCount (convertPixel src dst) m

def replacePixelsAvx2 (src mask dst : ℕ) (replacementColor : BitVec 32) (pixelCount : ℕ)
    (m : Memory) : Memory :=
  let vecCount := pixelCount / 8
  let replVec : Register 32 := set1Epi32 replacementColor
  let m := forRange 0 vecCount (fun i m =>
    let pix := loaduSi 32 m (src + 4 * (i * 8))
    let expanded := expandMask (loadlEpi64 m (mask + i * 8))
    storeuSi m (dst + 4 * (i * 8)) (mergeLanes expanded pix replVec)) m
  forRange (vecCount * 8) pixelCount (replacePixel src mask dst replacementColor) m

def replacePixelsMaskAvx2 (src mask replacements dst pixelCount : ℕ) (m : Memory) : Memory :=
  let vecCount := pixelCount / 8
  let m := forRange 0 vecCount (fun i m =>
    let pix := loaduSi 32 m (src + 4 * (i * 8))
    let repl := loaduSi 32 m (replacements + 4 * (i * 8))
    let expanded := expandMask (loadlEpi64 m (mask + i * 8))
    storeuSi m (dst + 4 * (i * 8)) (mergeLanes expanded pix repl)) m
  forRange (vecCount * 8) pixelCount (replaceMaskPixel src mask replacements dst) m

def fillPixelsAvx2 (dst : ℕ) (color : BitVec 32) (pixelCount : ℕ) (m : Memory) : Memory :=
  let vec : Register 32 := set1Epi32 color
  let vecCount := pixelCount / 8
  let m := forRange 0 vecCount (fun i m => storeuSi m (dst + 4 * (i * 8)) vec) m
  forRange (vecCount * 8) pixelCount (fillPixel dst color) m

def countDifferentPixelsAvx2 (m : Memory) (a b pixelCount diff : ℕ) : ℕ :=
  let vecCount := pixelCount / 8
  let diff := forRange 0 vecCount (fun i diff =>
    let va := loaduSi 32 m (a + 4 * (i * 8))
    let vb := loaduSi 32 m (b + 4 * (i * 8))
    let equalMask := movemaskPs (cmpeqEpi32 va vb) &&& 0xFF
    let equalCount := forRange 0 8 (fun lane equalCount =>
      equalCount + ((equalMask >>> lane) &&& 1#32).toNat) 0
    diff + (8 - equalCount)) diff
  forRange (vecCount * 8) pixelCount (countPixel m a b) diff

end Avx2

section Neon

def convertArgb8888ToRgb565Neon (src dst pixelCount : ℕ) (m : Memory) : Memory :=
  let (i, m) := whileFits 4 pixelCount (fun i m =>
    let packed := packRgb565 (loaduSi 16 m (src + 4 * i))
    storeuSi m (dst + 2 * i) (vmovnU32 packed)) 0 m
  convertArgb8888ToRgb565Scalar (src + 4 * i) (dst + 2 * i) (pixelCount - i) m

/-- The selectors of four mask bytes. -/
def maskLanes (m : Memory) (mask i : ℕ) : Register 16 :=
  Register.ofLanes fun l => if m (mask + (i + l)) ≠ 0 then ~~~ 0 else 0

def replacePixelsMaskNeon (src mask replacements dst pixelCount : ℕ) (m : Memory) : Memory :=
  let (i, m) := whileFits 4 pixelCount (fun i m =>
    let select := maskLanes m mask i
    storeuSi m (dst + 4 * i) (vbslqU32 select (loaduSi 16 m (replacements + 4 * i))
      (loaduSi 16 m (src + 4 * i)))) 0 m
  replacePixelsMaskScalar (src + 4 * i) (mask + i) (replacements + 4 * i) (dst + 4 * i)
    (pixelCount - i) m

def replacePixelsNeon (src mask dst : ℕ) (replacementColor : BitVec 32) (pixelCount : ℕ)
    (m : Memory) : Memory :=
  let replacement : Register 16 := set1Epi32 replacementColor
  let (i, m) := whileFits 4 pixelCount (fun i m =>
    storeuSi m (dst + 4 * i) (vbslqU32 (maskLanes m mask i) replacement
      (loaduSi 16 m (src + 4 * i)))) 0 m
  replacePixelsScalar (src + 4 * i) (mask + i) (dst + 4 * i) replacementColor (pixelCount - i) m

def fillPixelsNeon (dst : ℕ) (color : BitVec 32) (pixelCount : ℕ) (m : Memory) : Memory :=
  let pixels : Register 16 := set1Epi32 color
  let (i, m) := whileFits 4 pixelCount (fun i m => storeuSi m (dst + 4 * i) pixels) 0 m
  fillPixelsScalar (dst + 4 * i) color (pixelCount - i) m

end Neon

section Dispatch

variable (build : Build) (selectedBackend : Backend)

def convertArgb8888ToRgb565 (src dst pixelCount : ℕ) (m : Memory) : Memory :=
  if pixelCount = 0 then m
  else match selectedBackend, build with
    | .avx2, ⟨_, true, _⟩ => convertArgb8888ToRgb565Avx2 src dst pixelCount m
    | .sse41, ⟨true, _, _⟩ => convertArgb8888ToRgb565Sse41 src dst pixelCount m
    | .sse2, ⟨true, _, _⟩ => convertArgb8888ToRgb565Sse2 src dst pixelCount m
    | .neon, ⟨_, _, true⟩ => convertArgb8888ToRgb565Neon src dst pixelCount m
    | _, _ => convertArgb8888ToRgb565Scalar src dst pixelCount m

def replacePixelsWithColor (src mask dst : ℕ) (replacementColor : BitVec 32) (pixelCount : ℕ)
    (m : Memory) : Memory :=
  if pixelCount = 0 then m
  else match selectedBackend, build with
    | .avx2, ⟨_, true, _⟩ => replacePixelsAvx2 src mask dst replacementColor pixelCount m
    | .sse41, ⟨true, _, _⟩ => replacePixelsSsse3 src mask dst replacementColor pixelCount m
    | .neon, ⟨_, _, true⟩ => replacePixelsNeon src mask dst replacementColor pixelCount m
    | _, _ => replacePixelsScalar src mask dst replacementColor pixelCount m

def replacePixelsWithMask (src mask replacements dst pixelCount : ℕ) (m : Memory) : Memory :=
  if pixelCount = 0 then m
  else match selectedBackend, build with
    | .avx2, ⟨_, true, _⟩ => replacePixelsMaskAvx2 src mask replacements dst pixelCount m
    | .sse41, ⟨true, _, _⟩ => replacePixelsMaskSsse3 src mask replacements dst pixelCount m
    | .neon, ⟨_, _, true⟩ => replacePixelsMaskNeon src mask replacements dst pixelCount m
    | _, _ => replacePixelsMaskScalar src mask replacements dst pixelCount m

def fillPixels (dst : ℕ) (color : BitVec 32) (pixelCount : ℕ) (m : Memory) : Memory :=
  if pixelCount = 0 then m
  else match selectedBackend, build with
    | .avx2, ⟨_, true, _⟩ => fillPixelsAvx2 dst color pixelCount m
    | .sse41, ⟨true, _, _⟩ => fillPixelsSse2 dst color pixelCount m
    | .sse2, ⟨true, _, _⟩ => fillPixelsSse2 dst color pixelCount m
    | .neon, ⟨_, _, true⟩ => fillPixelsNeon dst color pixelCount m
    | _, _ => fillPixelsScalar dst color pixelCount m

def countDifferentPixels (a b pixelCount : ℕ) (m : Memory) : ℕ :=
  if pixelCount = 0 then 0
  else match selectedBackend, build with
    | .avx2, ⟨_, true, _⟩ => countDifferentPixelsAvx2 m a b pixelCount 0
    | .sse41, ⟨true, _, _⟩ => countDifferentPixelsSse2 m a b pixelCount 0
    | .sse2, ⟨true, _, _⟩ => countDifferentPixelsSse2 m a b pixelCount 0
    | _, _ => countDifferentPixelsScalar m a b pixelCount 0

end Dispatch

end ProtoTime.SimdPixelOps
