import ProtoTime.Host.SimdAgreement
import ProtoTime.Host.VideoEngine
import Mathlib.Data.List.GetD

/-!
Packed indexed surfaces: the loops that decode one to ARGB pixels and that write it to a texture
as RGB565 read the same indices in the same order and stop at the same pixel.
-/
namespace ProtoTime.SimdPixelOps
open BlockMemory Host
open RealtimeVideo (RealtimeVideoSurface RealtimeVideoEncoding)

def packedIndex (surface : RealtimeVideoSurface) (sourceRow bitOffset : ℕ) : ℕ :=
  let bits := surface.encoding.bits
  let mask : BitVec 16 := 1#16 <<< bits - 1#16
  let byteOffset := sourceRow + bitOffset / 8
  let shift := bitOffset % 8
  let low : BitVec 16 := (surface.indexedBytes.getD byteOffset 0).setWidth 16
  let encoded := if shift + bits > 8
    then low ||| (surface.indexedBytes.getD (byteOffset + 1) 0).setWidth 16 <<< 8 else low
  (encoded >>> shift &&& mask).toNat

section Loops

variable {σ : Type} (surface : RealtimeVideoSurface) (width height : ℕ)
  (put : ℕ → ℕ → ℕ → σ → σ)

/-- Pixel `x` of row `y`: an index outside the palette ends both loops. -/
def expandPixel (y x : ℕ) (s : σ × ℕ) : Except σ (σ × ℕ) :=
  let index := packedIndex surface (y * surface.strideBytes.toNat) s.2
  if index ≥ surface.paletteArgb.length then .error s.1
  else .ok (put y x index s.1, s.2 + surface.encoding.bits)

def expandRow (y : ℕ) (s : σ) : Except σ σ :=
  (forRange 0 width (fun x r => r >>= expandPixel surface put y x) (.ok (s, 0))).map Prod.fst

/-- The two loops of a decoder; `put` receives the row, the column and the index of a pixel. -/
def expandSurface (s : σ) : Except σ σ :=
  forRange 0 height (fun y r => r >>= expandRow surface width put y) (.ok s)

end Loops

/-- The decoder into a vector, which it empties when it fails. -/
def decodeVideoSurfaceInto (surface : RealtimeVideoSurface) (width height : ℤ)
    (destination : List (BitVec 32)) : Bool × List (BitVec 32) :=
  if !surface.validForDimensions width height then (false, [])
  else if surface.encoding = .argb8888 then (true, surface.argbPixels)
  else
    let size := width.toNat * height.toNat
    let resized := destination.take size ++ List.replicate (size - destination.length) 0
    match expandSurface surface width.toNat height.toNat
      (fun y x index d => d.set (y * width.toNat + x) (surface.paletteArgb.getD index 0))
      resized with
    | .ok decoded => (true, decoded)
    | .error _ => (false, [])

/-- Where the vector of colors and the local array of converted ones are. -/
def paletteData : ℕ := 0

def paletteArray : ℕ := 1024

variable (build : Build) (backend : Backend)

def convertedPalette (paletteArgb : List (BitVec 32)) : Memory :=
  convertArgb8888ToRgb565 build backend paletteData paletteArray paletteArgb.length
    (writeElements 4 (fun _ => 0) paletteData paletteArgb.length (fun k => paletteArgb.getD k 0))

/-- The place of element `x` in row `y` of a texture. -/
def texel (dst stride y x : ℕ) : ℕ := dst + 2 * (y * stride) + 2 * x

/-- A null pointer is the address zero. -/
def convertIndexedToRgb565 (surface : RealtimeVideoSurface) (width height : ℤ)
    (dst destinationStridePixels : ℕ) (m : Memory) : Bool × Memory :=
  if dst = 0 ∨ !surface.validForDimensions width height ∨ destinationStridePixels < width.toNat ∨
      surface.encoding = .argb8888 then (false, m)
  else
    let palette := convertedPalette build backend surface.paletteArgb
    match expandSurface surface width.toNat height.toNat
      (fun y x index m => store 2 m (texel dst destinationStridePixels y x)
        (load16 palette (paletteArray + 2 * index))) m with
    | .ok m => (true, m)
    | .error m => (false, m)

variable {width height : ℤ}

section Indices

variable {surface : RealtimeVideoSurface}

theorem packedIndex_eq (h : surface.encoding ≠ .argb8888) (y x : ℕ) :
    packedIndex surface (y * surface.strideBytes.toNat) (x * surface.encoding.bits) =
      paletteIndex surface x y := by
  have hmask : ∀ encoding : RealtimeVideoEncoding, encoding ≠ .argb8888 →
      (1#16 <<< encoding.bits - 1#16).toNat = 2 ^ encoding.bits - 1 := by
    intro encoding hencoding
    cases encoding with
    | argb8888 => exact absurd rfl hencoding
    | indexed2 | indexed4 | indexed5 | indexed8 => rfl
  have hlow : ∀ b : BitVec 8, (b.setWidth 16).toNat = b.toNat := fun b => by
    rw [BitVec.toNat_setWidth_of_le (by decide)]
  have hhigh : ∀ b : BitVec 8, (b.setWidth 16 <<< 8).toNat = b.toNat <<< 8 := fun b => by
    rw [BitVec.toNat_shiftLeft, hlow, Nat.shiftLeft_eq, Nat.mod_eq_of_lt (by omega)]
  unfold packedIndex paletteIndex
  dsimp only
  rw [BitVec.toNat_and, hmask _ h, Nat.and_two_pow_sub_one_eq_mod, BitVec.toNat_ushiftRight]
  split
  · rw [BitVec.toNat_or, hlow, hhigh]
  · rw [hlow]

theorem valid_palette (hvalid : surface.validForDimensions width height)
    (hindexed : surface.encoding ≠ .argb8888) :
    surface.paletteArgb.length ≤ 2 ^ surface.encoding.bits ∧
      width.toNat * surface.encoding.bits ≤ 8 * surface.strideBytes.toNat ∧
      surface.indexedBytes.length = surface.strideBytes.toNat * height.toNat := by
  unfold RealtimeVideoSurface.validForDimensions at hvalid
  split at hvalid
  · cases hvalid
  · split at hvalid
    · cases hvalid
    · rename_i hpalette
      simp only [Bool.and_eq_true, decide_eq_true_eq] at hvalid
      exact ⟨by omega, by omega, hvalid.1.2⟩

/-- The bytes of every pixel are there. -/
theorem reads_in_range (hvalid : surface.validForDimensions width height)
    (hindexed : surface.encoding ≠ .argb8888) {y x : ℕ} (hy : y < height.toNat)
    (hx : x < width.toNat) :
    y * surface.strideBytes.toNat + x * surface.encoding.bits / 8 < surface.indexedBytes.length ∧
      (x * surface.encoding.bits % 8 + surface.encoding.bits > 8 →
        y * surface.strideBytes.toNat + x * surface.encoding.bits / 8 + 1 <
          surface.indexedBytes.length) := by
  obtain ⟨_, hstride, hlength⟩ := valid_palette hvalid hindexed
  have hbits : 0 < surface.encoding.bits := by
    cases surface.encoding <;> decide
  have hpixel : x * surface.encoding.bits + surface.encoding.bits ≤
      width.toNat * surface.encoding.bits := by
    rw [← Nat.succ_mul]
    exact Nat.mul_le_mul_right _ hx
  have hrow : y * surface.strideBytes.toNat + surface.strideBytes.toNat ≤
      surface.strideBytes.toNat * height.toNat := by
    rw [← Nat.succ_mul, Nat.mul_comm]
    exact Nat.mul_le_mul_left _ hy
  omega

def twoRows : RealtimeVideoSurface := ⟨.indexed5, 2#16, [0], [0, 0, 0, 0], []⟩

theorem reads_in_range_last : 1 * 2 + 1 * 5 / 8 < twoRows.indexedBytes.length ∧
    (1 * 5 % 8 + 5 > 8 → 1 * 2 + 1 * 5 / 8 + 1 < twoRows.indexedBytes.length) :=
  reads_in_range (show twoRows.validForDimensions 2 2 from by decide) (by decide) (y := 1) (x := 1)
    (by decide) (by decide)

end Indices

/-- The palette has the index of a pixel. -/
def Fits (surface : RealtimeVideoSurface) (y x : ℕ) : Prop :=
  paletteIndex surface x y < surface.paletteArgb.length

section Runs

variable {σ : Type} (surface : RealtimeVideoSurface) (width height : ℕ)
  (put : ℕ → ℕ → ℕ → σ → σ) (P : ℕ → ℕ → σ → Prop)

/-- Before pixel `x` of row `y`: all indices of the row have been in the palette and `P` holds, or
the loop has stopped at one that is not. -/
def RowProgress (y x : ℕ) : Except σ (σ × ℕ) → Prop
  | .ok s => s.2 = x * surface.encoding.bits ∧ P y x s.1 ∧ ∀ x' < x, Fits surface y x'
  | .error _ => ∃ x' < x, ¬ Fits surface y x'

/-- Before row `y`. -/
def SurfaceProgress (y : ℕ) : Except σ σ → Prop
  | .ok s => P y 0 s ∧ ∀ y' < y, ∀ x < width, Fits surface y' x
  | .error _ => ∃ y' < y, ∃ x < width, ¬ Fits surface y' x

structure Carried : Prop where
  pixel : ∀ y x s, y < height → x < width → Fits surface y x → P y x s →
    P y (x + 1) (put y x (paletteIndex surface x y) s)
  row : ∀ y s, y < height → P y width s → P (y + 1) 0 s

variable {surface width height put P}
  (hindexed : surface.encoding ≠ .argb8888)
  (carried : Carried surface width height put P)
include hindexed carried

theorem expandPixel_progress {y x : ℕ} (hy : y < height) (hx : x < width) {r : Except σ (σ × ℕ)}
    (h : RowProgress surface P y x r) :
    RowProgress surface P y (x + 1) (r >>= expandPixel surface put y x) := by
  cases r with
  | error s =>
    obtain ⟨x', hx', hbad⟩ := h
    exact ⟨x', Nat.lt_succ_of_lt hx', hbad⟩
  | ok s =>
    obtain ⟨hoffset, hp, hfits⟩ := h
    have hpixel : (Except.ok s : Except σ (σ × ℕ)) >>= expandPixel surface put y x =
        if paletteIndex surface x y ≥ surface.paletteArgb.length then .error s.1
        else .ok (put y x (paletteIndex surface x y) s.1, s.2 + surface.encoding.bits) := by
      rw [← packedIndex_eq hindexed, ← hoffset]
      rfl
    rw [hpixel]
    by_cases hin : Fits surface y x
    · rw [if_neg (Nat.not_le.mpr hin)]
      refine ⟨by rw [hoffset, ← Nat.succ_mul], carried.pixel y x s.1 hy hx hin hp, ?_⟩
      intro x' hx'
      rcases Nat.lt_succ_iff_lt_or_eq.mp hx' with hlt | rfl
      · exact hfits x' hlt
      · exact hin
    · rw [if_pos (Nat.not_lt.mp hin)]
      exact ⟨x, Nat.lt_succ_self x, hin⟩

theorem expandRow_progress {y : ℕ} (hy : y < height) {r : Except σ σ}
    (h : SurfaceProgress surface width P y r) :
    SurfaceProgress surface width P (y + 1) (r >>= expandRow surface width put y) := by
  cases r with
  | error s =>
    obtain ⟨y', hy', hbad⟩ := h
    exact ⟨y', Nat.lt_succ_of_lt hy', hbad⟩
  | ok s =>
    obtain ⟨hp, hfits⟩ := h
    have hrow : RowProgress surface P y width
        (forRange 0 width (fun x r => r >>= expandPixel surface put y x) (.ok (s, 0))) :=
      forRange_run (Nat.zero_le width) ⟨(Nat.zero_mul _).symm, hp, nofun⟩
        fun x r _ hx hr => expandPixel_progress hindexed carried hy hx hr
    have hbind : (Except.ok s : Except σ σ) >>= expandRow surface width put y =
        (forRange 0 width (fun x r => r >>= expandPixel surface put y x) (.ok (s, 0))).map
          Prod.fst := rfl
    rw [hbind]
    generalize forRange 0 width (fun x r => r >>= expandPixel surface put y x) (.ok (s, 0)) = r
      at hrow ⊢
    cases r with
    | error t =>
      obtain ⟨x, hx, hbad⟩ := hrow
      exact ⟨y, Nat.lt_succ_self y, x, hx, hbad⟩
    | ok t =>
      obtain ⟨_, hp, hall⟩ := hrow
      refine ⟨carried.row y t.1 hy hp, ?_⟩
      intro y' hy'
      rcases Nat.lt_succ_iff_lt_or_eq.mp hy' with hlt | rfl
      · exact hfits y' hlt
      · exact hall

/-- Either every pixel was put and what the loops carry holds at the end, or they stopped at an
index outside the palette. -/
theorem expandSurface_progress {s : σ} (start : P 0 0 s) :
    SurfaceProgress surface width P height (expandSurface surface width height put s) :=
  forRange_run (Nat.zero_le height) ⟨start, nofun⟩
    fun _ _ _ hy hr => expandRow_progress hindexed carried hy hr

end Runs

section Texture

variable {build : Build} {backend : Backend} {surface : RealtimeVideoSurface}

/-- The entries of the converted palette. -/
theorem convertedPalette_entry {colors : List (BitVec 32)} (hlength : colors.length ≤ 256) {k : ℕ}
    (hk : k < colors.length) :
    load16 (convertedPalette build backend colors) (paletteArray + 2 * k) =
      argb8888ToRgb565Single (colors.getD k 0) := by
  have hahead : ReadsAhead 2 paletteArray 4 paletteData colors.length := by
    apply readsAhead_apart
    unfold Apart paletteArray paletteData
    omega
  rw [convertedPalette, convert_eq build backend hahead, load16_writeElements hk, convertValue,
    load32_writeElements hk]

def surfaceColor (surface : RealtimeVideoSurface) (y x : ℕ) : BitVec 32 :=
  surface.paletteArgb.getD (paletteIndex surface x y) 0

/-- The elements before pixel `x` of row `y` have their colors, and only elements of the texture
have changed. -/
structure Painted (surface : RealtimeVideoSurface) (width height dst stride : ℕ) (m₀ : Memory)
    (y x : ℕ) (m : Memory) : Prop where
  painted : ∀ y' x', x' < width → (y' < y ∨ y' = y ∧ x' < x) →
    load16 m (texel dst stride y' x') = argb8888ToRgb565Single (surfaceColor surface y' x')
  elsewhere : ∀ a, (∀ y' < height, ∀ x' < width,
    a < texel dst stride y' x' ∨ texel dst stride y' x' + 2 ≤ a) → m a = m₀ a

theorem texel_apart {width dst stride y x y' x' : ℕ} (hwidth : width ≤ stride)
    (hx' : x' < width) (hbefore : y' < y ∨ y' = y ∧ x' < x) :
    texel dst stride y' x' + 2 ≤ texel dst stride y x := by
  unfold texel
  rcases hbefore with hrow | ⟨rfl, hcolumn⟩
  · have hrows : y' * stride + stride ≤ y * stride := by
      rw [← Nat.succ_mul]
      exact Nat.mul_le_mul_right stride hrow
    omega
  · omega

theorem painted_carried {width height dst stride : ℕ} {m₀ : Memory} (hwidth : width ≤ stride)
    (hpalette : surface.paletteArgb.length ≤ 256) :
    Carried surface width height
      (fun y x index m => store 2 m (texel dst stride y x)
        (load16 (convertedPalette build backend surface.paletteArgb) (paletteArray + 2 * index)))
      (Painted surface width height dst stride m₀) where
  pixel y x m hy hx hfit h := by
    rw [convertedPalette_entry hpalette hfit]
    constructor
    · intro y' x' hx' hbefore
      by_cases hsame : y' = y ∧ x' = x
      · obtain ⟨rfl, rfl⟩ := hsame
        exact load16_store _ _ _
      · have hdone : y' < y ∨ y' = y ∧ x' < x := by omega
        have happart : texel dst stride y' x' + 2 ≤ texel dst stride y x :=
          texel_apart hwidth hx' hdone
        rw [load16_store_outside (Or.inl happart)]
        exact h.painted y' x' hx' hdone
    · intro a ha
      rw [store_outside (ha y hy x hx)]
      exact h.elsewhere a ha
  row y m hy h := by
    constructor
    · intro y' x' hx' hbefore
      exact h.painted y' x' hx' (by omega)
    · exact h.elsewhere

end Texture

section Decoder

variable {surface : RealtimeVideoSurface}

structure Decoded (surface : RealtimeVideoSurface) (width height y x : ℕ)
    (d : List (BitVec 32)) : Prop where
  length : d.length = width * height
  decoded : ∀ y' x', x' < width → (y' < y ∨ y' = y ∧ x' < x) →
    d.getD (y' * width + x') 0 = surfaceColor surface y' x'

theorem decoded_carried {width height : ℕ} :
    Carried surface width height
      (fun y x index d => d.set (y * width + x) (surface.paletteArgb.getD index 0))
      (Decoded surface width height) where
  pixel y x d hy hx hfit h := by
    have hplace : y * width + x < d.length := by
      rw [h.length, Nat.mul_comm width]
      have hrows : y * width + width ≤ height * width := by
        rw [← Nat.succ_mul]
        exact Nat.mul_le_mul_right width hy
      omega
    constructor
    · rw [List.length_set, h.length]
    · intro y' x' hx' hbefore
      rw [List.getD_eq_getElem?_getD, List.getElem?_set]
      by_cases hsame : y' = y ∧ x' = x
      · obtain ⟨rfl, rfl⟩ := hsame
        rw [if_pos rfl, if_pos hplace]
        rfl
      · have hdone : y' < y ∨ y' = y ∧ x' < x := by omega
        have hother : y * width + x ≠ y' * width + x' := by
          rcases hdone with hrow | ⟨rfl, hcolumn⟩
          · have hrows : y' * width + width ≤ y * width := by
              rw [← Nat.succ_mul]
              exact Nat.mul_le_mul_right width hrow
            omega
          · omega
        rw [if_neg hother, ← List.getD_eq_getElem?_getD]
        exact h.decoded y' x' hx' hdone
  row y d hy h := ⟨h.length, fun y' x' hx' hbefore => h.decoded y' x' hx' (by omega)⟩

theorem resized_length (destination : List (BitVec 32)) (size : ℕ) :
    (destination.take size ++ List.replicate (size - destination.length) 0).length = size := by
  rw [List.length_append, List.length_take, List.length_replicate]
  omega

/-- Decoding fills the picture or, at an index outside the palette, empties it. -/
theorem decodeInto_cases (hvalid : surface.validForDimensions width height)
    (hindexed : surface.encoding ≠ .argb8888) (destination : List (BitVec 32)) :
    (∃ picture, decodeVideoSurfaceInto surface width height destination = (true, picture) ∧
        picture.length = width.toNat * height.toNat ∧
        (∀ y < height.toNat, ∀ x < width.toNat, Fits surface y x) ∧
        ∀ y < height.toNat, ∀ x < width.toNat,
          picture.getD (y * width.toNat + x) 0 = surfaceColor surface y x) ∨
      decodeVideoSurfaceInto surface width height destination = (false, []) ∧
        ∃ y < height.toNat, ∃ x < width.toNat, ¬ Fits surface y x := by
  have hrun : SurfaceProgress surface width.toNat (Decoded surface width.toNat height.toNat)
      height.toNat (expandSurface surface width.toNat height.toNat
        (fun y x index d => d.set (y * width.toNat + x) (surface.paletteArgb.getD index 0))
        (destination.take (width.toNat * height.toNat) ++
          List.replicate (width.toNat * height.toNat - destination.length) 0)) :=
    expandSurface_progress hindexed decoded_carried ⟨resized_length _ _, by omega⟩
  unfold decodeVideoSurfaceInto
  rw [if_neg (by simp [hvalid]), if_neg hindexed]
  dsimp only
  cases hresult : expandSurface surface width.toNat height.toNat
      (fun y x index d => d.set (y * width.toNat + x) (surface.paletteArgb.getD index 0))
      (destination.take (width.toNat * height.toNat) ++
        List.replicate (width.toNat * height.toNat - destination.length) 0) with
  | ok picture =>
    rw [hresult] at hrun
    left
    exact ⟨picture, rfl, hrun.1.length, hrun.2,
      fun y hy x hx => hrun.1.decoded y x hx (Or.inl hy)⟩
  | error d =>
    rw [hresult] at hrun
    right
    exact ⟨rfl, hrun⟩

theorem mapM_some_of_forall {α β : Type} {f : α → Option β} {g : α → β} {xs : List α}
    (h : ∀ a ∈ xs, f a = some (g a)) : xs.mapM f = some (xs.map g) := by
  induction xs with
  | nil => rfl
  | cons a xs ih =>
    rw [List.mapM_cons, h a List.mem_cons_self, ih fun b hb => h b (List.mem_cons_of_mem a hb)]
    rfl

theorem mapM_none_of_mem {α β : Type} {f : α → Option β} {a : α} {xs : List α} (ha : a ∈ xs)
    (h : f a = none) : xs.mapM f = none := by
  induction xs with
  | nil => cases ha
  | cons b xs ih =>
    rw [List.mapM_cons]
    rcases List.mem_cons.mp ha with rfl | hrest
    · rw [h]
      rfl
    · rw [ih hrest]
      cases f b <;> rfl

/-- The loops decode what the surface is said to hold pixel by pixel. -/
theorem decodeInto_eq (surface : RealtimeVideoSurface) (width height : ℤ)
    (destination : List (BitVec 32)) :
    decodeVideoSurfaceInto surface width height destination =
      match decodeVideoSurface surface width height with
      | some picture => (true, picture)
      | none => (false, []) := by
  unfold decodeVideoSurface
  by_cases hvalid : surface.validForDimensions width height
  · by_cases hindexed : surface.encoding = .argb8888
    · simp only [decodeVideoSurfaceInto, hvalid, hindexed, Bool.not_true, Bool.false_eq_true,
        ↓reduceIte]
    · have hcolor : ∀ i, Fits surface (i / width.toNat) (i % width.toNat) →
          surface.paletteArgb[paletteIndex surface (i % width.toNat) (i / width.toNat)]? =
            some (surfaceColor surface (i / width.toNat) (i % width.toNat)) := by
        intro i hfit
        rw [surfaceColor, List.getD_eq_getElem _ _ hfit]
        exact List.getElem?_eq_getElem hfit
      rw [if_neg (by simp [hvalid]), if_neg hindexed]
      rcases decodeInto_cases hvalid hindexed destination with
        ⟨picture, heq, hlength, hfits, hcolors⟩ | ⟨heq, y, hy, x, hx, hbad⟩
      · have hplace : ∀ i < width.toNat * height.toNat,
            i / width.toNat < height.toNat ∧ i % width.toNat < width.toNat := by
          intro i hi
          have hpos : 0 < width.toNat := Nat.pos_of_mul_pos_right (Nat.zero_lt_of_lt hi)
          exact ⟨Nat.div_lt_of_lt_mul hi, Nat.mod_lt i hpos⟩
        rw [heq, mapM_some_of_forall (g := fun i =>
          surfaceColor surface (i / width.toNat) (i % width.toNat))]
        · have hpicture : picture = (List.range (width.toNat * height.toNat)).map fun i =>
              surfaceColor surface (i / width.toNat) (i % width.toNat) := by
            apply List.ext_getElem
            · rw [hlength, List.length_map, List.length_range]
            · intro i hi _
              have hat := hplace i (hlength ▸ hi)
              have hpixel := hcolors _ hat.1 _ hat.2
              rw [Nat.div_add_mod', List.getD_eq_getElem _ _ hi] at hpixel
              rw [hpixel, List.getElem_map, List.getElem_range]
          rw [hpicture]
        · intro i hi
          have hat := hplace i (List.mem_range.mp hi)
          exact hcolor i (hfits _ hat.1 _ hat.2)
      · have hmember : y * width.toNat + x ∈ List.range (width.toNat * height.toNat) := by
          have hrows : y * width.toNat + width.toNat ≤ width.toNat * height.toNat := by
            rw [← Nat.succ_mul, Nat.mul_comm]
            exact Nat.mul_le_mul_left _ hy
          exact List.mem_range.mpr (by omega)
        rw [heq, mapM_none_of_mem hmember]
        rw [Nat.mul_comm y, Nat.mul_add_mod, Nat.mod_eq_of_lt hx, Nat.mul_add_div (by omega),
          Nat.div_eq_of_lt hx, Nat.add_zero]
        exact List.getElem?_eq_none (Nat.not_lt.mp hbad)
  · simp only [decodeVideoSurfaceInto, hvalid, Bool.not_false, ↓reduceIte]

end Decoder

section Conversion

variable {build : Build} {backend : Backend} {surface : RealtimeVideoSurface} {width height : ℤ}
  {dst stride : ℕ} {m : Memory}

variable (build backend) in
/-- The conversion paints the texture or stops at an index outside the palette. -/
theorem convertIndexed_cases (hvalid : surface.validForDimensions width height)
    (hindexed : surface.encoding ≠ .argb8888) (hdst : dst ≠ 0) (hstride : width.toNat ≤ stride) :
    ((convertIndexedToRgb565 build backend surface width height dst stride m).1 = true ∧
        (∀ y < height.toNat, ∀ x < width.toNat, Fits surface y x) ∧
        Painted surface width.toNat height.toNat dst stride m height.toNat 0
          (convertIndexedToRgb565 build backend surface width height dst stride m).2) ∨
      (convertIndexedToRgb565 build backend surface width height dst stride m).1 = false ∧
        ∃ y < height.toNat, ∃ x < width.toNat, ¬ Fits surface y x := by
  have hpalette : surface.paletteArgb.length ≤ 256 := by
    have hlength := (valid_palette hvalid hindexed).1
    have hbits : 2 ^ surface.encoding.bits ≤ 256 := by
      cases hencoding : surface.encoding with
      | argb8888 => exact absurd hencoding hindexed
      | indexed2 | indexed4 | indexed5 | indexed8 => decide
    omega
  have hrun : SurfaceProgress surface width.toNat
      (Painted surface width.toNat height.toNat dst stride m) height.toNat
      (expandSurface surface width.toNat height.toNat (fun y x index m =>
        store 2 m (texel dst stride y x) (load16 (convertedPalette build backend
          surface.paletteArgb) (paletteArray + 2 * index))) m) :=
    expandSurface_progress hindexed (painted_carried hstride hpalette)
      ⟨by omega, fun _ _ => rfl⟩
  have hguard : ¬ (dst = 0 ∨ !surface.validForDimensions width height ∨ stride < width.toNat ∨
      surface.encoding = .argb8888) := by
    rintro (hnull | hinvalid | hnarrow | hargb)
    · exact hdst hnull
    · simp [hvalid] at hinvalid
    · omega
    · exact hindexed hargb
  unfold convertIndexedToRgb565
  rw [if_neg hguard]
  dsimp only
  generalize expandSurface surface width.toNat height.toNat (fun y x index m =>
    store 2 m (texel dst stride y x) (load16 (convertedPalette build backend surface.paletteArgb)
      (paletteArray + 2 * index))) m = result at hrun ⊢
  cases result with
  | ok painted => exact Or.inl ⟨rfl, hrun.2, hrun.1⟩
  | error painted => exact Or.inr ⟨rfl, hrun⟩

theorem convertIndexed_invalid (hvalid : ¬ surface.validForDimensions width height) :
    convertIndexedToRgb565 build backend surface width height dst stride m = (false, m) := by
  exact if_pos (Or.inr (Or.inl (by simpa using hvalid)))

theorem decodeInto_invalid (hvalid : ¬ surface.validForDimensions width height)
    (destination : List (BitVec 32)) :
    decodeVideoSurfaceInto surface width height destination = (false, []) := by
  exact if_pos (by simpa using hvalid)

/-- The texture holds the decoded picture converted pixel by pixel. -/
theorem convertIndexed_agrees (destination : List (BitVec 32))
    (hindexed : surface.encoding ≠ .argb8888) (hdst : dst ≠ 0) (hstride : width.toNat ≤ stride) :
    (convertIndexedToRgb565 build backend surface width height dst stride m).1 =
        (decodeVideoSurfaceInto surface width height destination).1 ∧
      ((decodeVideoSurfaceInto surface width height destination).1 = true →
        (decodeVideoSurfaceInto surface width height destination).2.length =
            width.toNat * height.toNat ∧
          (∀ y < height.toNat, ∀ x < width.toNat,
            load16 (convertIndexedToRgb565 build backend surface width height dst stride m).2
                (texel dst stride y x) =
              argb8888ToRgb565Single ((decodeVideoSurfaceInto surface width height
                destination).2.getD (y * width.toNat + x) 0)) ∧
          ∀ a, (∀ y < height.toNat, ∀ x < width.toNat,
              a < texel dst stride y x ∨ texel dst stride y x + 2 ≤ a) →
            (convertIndexedToRgb565 build backend surface width height dst stride m).2 a =
              m a) := by
  by_cases hvalid : surface.validForDimensions width height
  · have hconvert := convertIndexed_cases build backend (m := m) hvalid hindexed hdst hstride
    rcases decodeInto_cases hvalid hindexed destination with
      ⟨picture, heq, hlength, hfits, hcolors⟩ | ⟨heq, y, hy, x, hx, hbad⟩
    · rcases hconvert with ⟨htrue, _, hpainted⟩ | ⟨_, y, hy, x, hx, hbad⟩
      · rw [htrue, heq]
        refine ⟨rfl, fun _ => ⟨hlength, ?_, hpainted.elsewhere⟩⟩
        intro y hy x hx
        rw [hpainted.painted y x hx (Or.inl hy), hcolors y hy x hx]
      · exact absurd (hfits y hy x hx) hbad
    · rcases hconvert with ⟨_, hfits, _⟩ | ⟨hfalse, _⟩
      · exact absurd (hfits y hy x hx) hbad
      · rw [hfalse, heq]
        exact ⟨rfl, nofun⟩
  · rw [convertIndexed_invalid hvalid, decodeInto_invalid hvalid]
    exact ⟨rfl, nofun⟩

end Conversion

/-- The destination of a kernel is its source or has no byte in common with it. -/
def SameOrApart (dst length src length' : ℕ) : Prop := dst = src ∨ Apart dst length src length'

theorem SameOrApart.readsAhead {e size dst src count : ℕ} (hsize : e ≤ size)
    (h : SameOrApart dst (e * count) src (size * count)) : ReadsAhead e dst size src count := by
  rcases h with rfl | h
  · exact readsAhead_same hsize
  · exact readsAhead_apart h

/-- Exactly `count` elements at the destination have changed, to these values. -/
structure Wrote {w : ℕ} (load : Memory → ℕ → BitVec w) (e : ℕ) (m m' : Memory) (dst count : ℕ)
    (f : ℕ → BitVec w) : Prop where
  values : ∀ i < count, load m' (dst + e * i) = f i
  elsewhere : ∀ a, a < dst ∨ dst + e * count ≤ a → m' a = m a

theorem wrote16 {m : Memory} {dst count : ℕ} {f : ℕ → BitVec 16} :
    Wrote load16 2 m (writeElements 2 m dst count f) dst count f :=
  ⟨fun _ hi => load16_writeElements hi, fun _ ha => writeElements_outside ha⟩

theorem wrote32 {m : Memory} {dst count : ℕ} {f : ℕ → BitVec 32} :
    Wrote load32 4 m (writeElements 4 m dst count f) dst count f :=
  ⟨fun _ hi => load32_writeElements hi, fun _ ha => writeElements_outside ha⟩

theorem vector_kernels_agree (build : Build) (backend : Backend) (m : Memory) (pixelCount : ℕ) :
    (∀ src dst, SameOrApart dst (2 * pixelCount) src (4 * pixelCount) →
      convertArgb8888ToRgb565 build backend src dst pixelCount m =
          convertArgb8888ToRgb565Scalar src dst pixelCount m ∧
        Wrote load16 2 m (convertArgb8888ToRgb565 build backend src dst pixelCount m) dst pixelCount
          fun i => argb8888ToRgb565Single (load32 m (src + 4 * i))) ∧
    (∀ src mask dst color, SameOrApart dst (4 * pixelCount) src (4 * pixelCount) →
      Apart dst (4 * pixelCount) mask pixelCount →
      replacePixelsWithColor build backend src mask dst color pixelCount m =
          replacePixelsScalar src mask dst color pixelCount m ∧
        Wrote load32 4 m (replacePixelsWithColor build backend src mask dst color pixelCount m) dst
          pixelCount fun i => if m (mask + i) ≠ 0 then color else load32 m (src + 4 * i)) ∧
    (∀ src mask replacements dst, SameOrApart dst (4 * pixelCount) src (4 * pixelCount) →
      Apart dst (4 * pixelCount) mask pixelCount →
      SameOrApart dst (4 * pixelCount) replacements (4 * pixelCount) →
      replacePixelsWithMask build backend src mask replacements dst pixelCount m =
          replacePixelsMaskScalar src mask replacements dst pixelCount m ∧
        Wrote load32 4 m
          (replacePixelsWithMask build backend src mask replacements dst pixelCount m) dst
          pixelCount fun i => if m (mask + i) ≠ 0 then load32 m (replacements + 4 * i)
            else load32 m (src + 4 * i)) ∧
    (∀ dst color, fillPixels build backend dst color pixelCount m =
          fillPixelsScalar dst color pixelCount m ∧
        Wrote load32 4 m (fillPixels build backend dst color pixelCount m) dst pixelCount
          fun _ => color) ∧
    (∀ a b, countDifferentPixels build backend a b pixelCount m =
          countDifferentPixelsScalar m a b pixelCount 0 ∧
        countDifferentPixels build backend a b pixelCount m =
          (List.range pixelCount).countP fun i =>
            load32 m (a + 4 * i) ≠ load32 m (b + 4 * i)) ∧
    ∀ (surface : RealtimeVideoSurface) (width height : ℤ) (dst stride : ℕ)
      (destination : List (BitVec 32)), surface.encoding ≠ .argb8888 → dst ≠ 0 →
      width.toNat ≤ stride →
      (convertIndexedToRgb565 build backend surface width height dst stride m).1 =
          (decodeVideoSurfaceInto surface width height destination).1 ∧
        ((decodeVideoSurfaceInto surface width height destination).1 = true →
          (decodeVideoSurfaceInto surface width height destination).2.length =
              width.toNat * height.toNat ∧
            (∀ y < height.toNat, ∀ x < width.toNat,
              load16 (convertIndexedToRgb565 build backend surface width height dst stride m).2
                  (texel dst stride y x) =
                argb8888ToRgb565Single ((decodeVideoSurfaceInto surface width height
                  destination).2.getD (y * width.toNat + x) 0)) ∧
            ∀ a, (∀ y < height.toNat, ∀ x < width.toNat,
                a < texel dst stride y x ∨ texel dst stride y x + 2 ≤ a) →
              (convertIndexedToRgb565 build backend surface width height dst stride m).2 a =
                m a) := by
  refine ⟨?_, ?_, ?_, ?_, ?_, ?_⟩
  · intro src dst hsrc
    have hahead := hsrc.readsAhead (by decide)
    rw [convert_eq build backend hahead, convertScalar_eq hahead]
    exact ⟨rfl, wrote16⟩
  · intro src mask dst color hsrc hmask
    have hahead := hsrc.readsAhead (Nat.le_refl 4)
    have hmasks : ReadsAhead 4 dst 1 mask pixelCount := readsAhead_apart (by rwa [Nat.one_mul])
    rw [replace_eq build hahead hmasks backend, replaceScalar_eq hahead hmasks]
    exact ⟨rfl, wrote32⟩
  · intro src mask replacements dst hsrc hmask hrepl
    have hahead := hsrc.readsAhead (Nat.le_refl 4)
    have hmasks : ReadsAhead 4 dst 1 mask pixelCount := readsAhead_apart (by rwa [Nat.one_mul])
    have hrepls := hrepl.readsAhead (Nat.le_refl 4)
    rw [mask_eq build hahead hmasks hrepls backend, maskScalar_eq hahead hmasks hrepls]
    exact ⟨rfl, wrote32⟩
  · intro dst color
    rw [fill_eq build backend, fillScalar_eq]
    exact ⟨rfl, wrote32⟩
  · intro a b
    exact ⟨count_eq build backend, count_eq build backend |>.trans (countScalar_eq)⟩
  · intro surface width height dst stride destination hindexed hdst hstride
    exact convertIndexed_agrees destination hindexed hdst hstride

/-- Nine pixels converted in place, five replaced in place, and a row of two four-bit indices. -/
theorem vector_kernels_agree_avx2 :
    (∀ m, convertArgb8888ToRgb565 ⟨true, true, false⟩ .avx2 64 64 9 m =
      convertArgb8888ToRgb565Scalar 64 64 9 m) ∧
    (∀ m, replacePixelsWithMask ⟨true, true, false⟩ .avx2 64 32 128 64 5 m =
      replacePixelsMaskScalar 64 32 128 64 5 m) ∧
    ∀ m, load16 (convertIndexedToRgb565 ⟨true, true, false⟩ .avx2
      ⟨.indexed4, 1, [0xFF000000, 0xFFF8FCF8], [0x10], []⟩ 2 1 64 2 m).2 66 = 0xFFFF := by
  refine ⟨fun m => ?_, fun m => ?_, fun m => ?_⟩
  · exact ((vector_kernels_agree ⟨true, true, false⟩ .avx2 m 9).1 64 64 (Or.inl rfl)).1
  · exact ((vector_kernels_agree ⟨true, true, false⟩ .avx2 m 5).2.2.1 64 32 128 64 (Or.inl rfl)
      (Or.inr (by decide)) (Or.inr (Or.inl (by decide)))).1
  · have hindexed := (vector_kernels_agree ⟨true, true, false⟩ .avx2 m 0).2.2.2.2.2
      ⟨.indexed4, 1, [0xFF000000, 0xFFF8FCF8], [0x10], []⟩ 2 1 64 2 [] (by decide) (by decide)
      (by decide)
    exact (hindexed.2 (by decide)).2.1 0 (by decide) 1 (by decide)

end ProtoTime.SimdPixelOps
