import ProtoTime.Numerals

/-!
The resources a machine decodes for display, the rules of a visual pack that replace
them, and the names and numbers by which a pack speaks of them.
-/
namespace ProtoTime.Visual

open Json Numerals

/-- A text of the program, as its bytes. -/
abbrev Text := List UInt8

inductive VisualResourceKind where
  | unknown
  | tile
  | sprite
  | backgroundTile
deriving DecidableEq

inductive VisualPixelFormat where
  | unknown
  | indexed2
  | indexed4
  | rgba8888
deriving DecidableEq

structure VisualSourceMetadata where
  bank : UInt32 := 0
  index : UInt32 := 0
  address : UInt32 := 0
  paletteValue : UInt32 := 0
  paletteRegister : Text := []
  label : Text := []
deriving DecidableEq

structure VisualResourceDescriptor where
  machineId : Text := []
  kind : VisualResourceKind := .unknown
  width : UInt32 := 0
  height : UInt32 := 0
  decodedFormat : VisualPixelFormat := .unknown
  sourceHash : UInt64 := 0
  contentHash : UInt64 := 0
  paletteHash : UInt64 := 0
  paletteAwareHash : UInt64 := 0
  source : VisualSourceMetadata := {}
deriving DecidableEq

structure DecodedVisualResource where
  descriptor : VisualResourceDescriptor := {}
  pixels : List UInt8 := []
  stride : UInt32 := 0
deriving DecidableEq

structure VisualReplacementImage where
  width : UInt32 := 0
  height : UInt32 := 0
  argbPixels : List UInt32 := []
deriving DecidableEq

def VisualReplacementImage.empty (image : VisualReplacementImage) : Bool :=
  image.argbPixels.isEmpty || image.width == 0 || image.height == 0

structure VisualSliceRect where
  x : UInt32 := 0
  y : UInt32 := 0
  width : UInt32 := 0
  height : UInt32 := 0
deriving DecidableEq

structure VisualTransform where
  flipX : Bool := false
  flipY : Bool := false
  rotateDegrees : UInt32 := 0
deriving DecidableEq

abbrev VisualReplacementPalette := Vector UInt32 4

structure VisualAnimationGroup where
  frames : List VisualReplacementImage
  frameDuration : UInt32
deriving DecidableEq

inductive VisualPostEffectKind where
  | invert
  | grayscale
  | multiply
  | alphaScale
deriving DecidableEq

structure VisualPostEffect where
  kind : VisualPostEffectKind := .invert
  argb : UInt32 := 0xFFFFFFFF
  amount : UInt8 := 255
deriving DecidableEq

inductive VisualOverrideMode where
  | none
  | replaceImage
  | replacePalette
  | compositeLayers
  | animationGroup
deriving DecidableEq

inductive ResolvedVisualPayload where
  | none
  | image (image : VisualReplacementImage)
  | layers (layers : List VisualReplacementImage)
  | animation (group : VisualAnimationGroup)
  | palette (palette : VisualReplacementPalette)
deriving DecidableEq

def visualResourceKindName : VisualResourceKind → Text
  | .tile => utf8 "Tile"
  | .sprite => utf8 "Sprite"
  | .backgroundTile => utf8 "BackgroundTile"
  | .unknown => utf8 "Unknown"

def visualResourceKindFromString (value : Text) : VisualResourceKind :=
  if value = utf8 "Tile" ∨ value = utf8 "tile" then .tile
  else if value = utf8 "Sprite" ∨ value = utf8 "sprite" then .sprite
  else if value = utf8 "BackgroundTile" ∨ value = utf8 "background_tile" then .backgroundTile
  else .unknown

def visualPixelFormatName : VisualPixelFormat → Text
  | .indexed2 => utf8 "Indexed2"
  | .indexed4 => utf8 "Indexed4"
  | .rgba8888 => utf8 "Rgba8888"
  | .unknown => utf8 "Unknown"

def visualPixelFormatFromString (value : Text) : VisualPixelFormat :=
  if value = utf8 "Indexed2" ∨ value = utf8 "indexed2" then .indexed2
  else if value = utf8 "Indexed4" ∨ value = utf8 "indexed4" then .indexed4
  else if value = utf8 "Rgba8888" ∨ value = utf8 "RGBA8888" ∨ value = utf8 "rgba8888" then .rgba8888
  else .unknown

/-- `0x` and the hexadecimal digits of a number, at least as many as the width. -/
def prefixedHex (width n : ℕ) : Text :=
  byte '0' :: byte 'x' :: (paddedNumeral 16 width n).map hexDigit

def toHexVisualHash (hash : UInt64) : Text := prefixedHex 16 hash.toNat

theorem visualResourceKindFromString_name (kind : VisualResourceKind) :
    visualResourceKindFromString (visualResourceKindName kind) = kind := by
  cases kind <;> decide

theorem length_toHexVisualHash (hash : UInt64) : (toHexVisualHash hash).length = 18 := by
  have h := length_paddedNumeral (by decide : 1 < 16) (by decide : 0 < 16)
    (show hash.toNat < 16 ^ 16 from hash.toNat_lt)
  simp [toHexVisualHash, prefixedHex, h]

theorem map_hexDigit_injective {xs ys : List ℕ} (hx : ∀ x ∈ xs, x < 16) (hy : ∀ y ∈ ys, y < 16)
    (h : xs.map hexDigit = ys.map hexDigit) : xs = ys := by
  have hxs := spanDigits_append le_rfl hx (noDigit_nil 16)
  have hys := spanDigits_append le_rfl hy (noDigit_nil 16)
  rw [h, hys] at hxs
  exact (Prod.mk.inj hxs).1.symm

theorem prefixedHex_injective {width m n : ℕ} (h : prefixedHex width m = prefixedHex width n) :
    m = n := by
  have hbase : (1 : ℕ) < 16 := by decide
  have hdigits := map_hexDigit_injective (paddedNumeral_lt hbase width m)
    (paddedNumeral_lt hbase width n) (List.cons.inj (List.cons.inj h).2).2
  rw [← numeralValue_paddedNumeral 16 width m, hdigits, numeralValue_paddedNumeral]

theorem toHexVisualHash_injective {a b : UInt64} (h : toHexVisualHash a = toHexVisualHash b) :
    a = b :=
  UInt64.toNat_inj.mp (prefixedHex_injective h)

/-! ## Rules -/

/-- A rule of a pack; an empty text, a zero or an absent number matches anything. -/
structure VisualOverrideRule where
  machineId : Text := []
  semanticLabel : Text := []
  kind : VisualResourceKind := .unknown
  decodedFormat : VisualPixelFormat := .unknown
  sourceHash : UInt64 := 0
  decodedHash : UInt64 := 0
  paletteHash : UInt64 := 0
  paletteAwareHash : UInt64 := 0
  width : UInt32 := 0
  height : UInt32 := 0
  sourceBank : Option UInt32 := none
  sourceAddress : Option UInt32 := none
  sourceIndex : Option UInt32 := none
  paletteValue : Option UInt32 := none
  paletteRegister : Text := []
  image : Text := []
  layers : List Text := []
  animationFrames : List Text := []
  animationFrameDuration : Option UInt32 := none
  effects : List VisualPostEffect := []
  palette : Option VisualReplacementPalette := none
  slicing : Option VisualSliceRect := none
  transform : Option VisualTransform := none
  scalePolicy : Text := []
  filterPolicy : Text := []
  anchor : Text := []
  order : ℕ := 0
  specificity : ℕ := 0
deriving DecidableEq

/-! ## Paths -/

/-- A path, as the names between its separators; the last name is empty where the path ends with
a separator. -/
structure Path where
  absolute : Bool := false
  names : List Text := []
deriving DecidableEq

namespace Path

def separator : UInt8 := byte '/'

def split (text : Text) : List Text :=
  let parts := text.splitOn separator
  let names := parts.filter fun name => !name.isEmpty
  if parts.getLast? = some [] ∧ names ≠ [] then names ++ [[]] else names

def ofText (text : Text) : Path :=
  { absolute := text.head? == some separator, names := split text }

variable (path : Path)

def string : Text :=
  (if path.absolute then [separator] else []) ++ [separator].intercalate path.names

def isEmpty (path : Path) : Bool := !path.absolute && path.names.isEmpty

/-- The names of a directory, without the mark of a trailing separator. -/
def plainNames : List Text := path.names.filter fun name => !name.isEmpty

/-- `path / other` -/
def join (path other : Path) : Path :=
  if other.absolute then other
  else { absolute := path.absolute, names := path.plainNames ++ other.names }

def parent : Path := { path with names := path.names.dropLast }

/-- One more name after the names of a path without detours. -/
def normalStep (absolute : Bool) (names : List Text) (name : Text) : List Text :=
  if name = utf8 "." then names
  else if name = utf8 ".." then
    match names.getLast? with
    | none => if absolute then names else names ++ [name]
    | some last => if last = utf8 ".." then names ++ [name] else names.dropLast
  else names ++ [name]

/-- Whether a path ends with a separator once a last dot or dot-dot is taken away. -/
def endsOpen : Bool :=
  path.names.getLast? == some [] || path.names.getLast? == some (utf8 ".")
    || path.names.getLast? == some (utf8 "..")

def lexicallyNormal : Path :=
  let names := path.plainNames.foldl (normalStep path.absolute) []
  if names = [] then { path with names := if path.absolute then [] else [utf8 "."] }
  else if path.endsOpen ∧ names.getLast? ≠ some (utf8 "..") then { path with names := names ++ [[]] }
  else { path with names := names }

end Path

end ProtoTime.Visual
