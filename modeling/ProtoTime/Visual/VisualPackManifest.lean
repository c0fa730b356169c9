import ProtoTime.Visual.ManifestJson

/-!
The loader of visual packs: from the text of a manifest to its rules, with the checks of the
source in their order. A rule that fails a check is skipped and counted; a manifest that
fails one is refused with its reason.
-/
namespace ProtoTime.Visual

open Json Numerals

namespace VisualPackLimits

def kMaxManifestBytes : ℕ := 1024 * 1024
def kMaxManifestRules : ℕ := 1024
def kMaxManifestLayers : ℕ := 256
def kMaxManifestAnimationFrames : ℕ := 256
def kMaxPngBytes : ℕ := 8 * 1024 * 1024
def kMaxAnimationFrameDuration : UInt32 := 60000
def kMaxReplacementImageDimension : ℕ := 2048
def kMaxReplacementInflatedBytes : ℕ := 16 * 1024 * 1024
def kMaxReplacementCacheBytes : ℕ := 64 * 1024 * 1024

end VisualPackLimits

open VisualPackLimits

abbrev Files := Path → Option Text

abbrev JsonObject := List (Text × JsonValue)

def kSupportedVisualPackSchemaVersion : ℕ := 1

/-- The whole hash a text spells, in hexadecimal after `0x`. -/
def parseVisualHashString (value : Text) : Option UInt64 :=
  match extractUnsigned (if hexPrefixed value then 16 else 10) value with
  | none => none
  | some (parsed, rest) => if skipSpaces rest = [] then some parsed else none

/-- A double cut to 32 bits; one that does not fit keeps its low bits here. -/
def truncateUInt32 (value : ℚ) : UInt32 := UInt32.ofNat ⌊value⌋.toNat

def jsonUInt32 (object : JsonObject) (key : Text) : Option UInt32 := do
  let value ← (findMember object key).bind JsonValue.number?
  if value < 0 then none else some (truncateUInt32 value)

def uint32Max : ℕ := 2 ^ 32 - 1

/-- A number of 32 bits, or a text that spells one. -/
def jsonFlexibleColor : JsonValue → Option UInt32
  | .number value => if 0 ≤ value ∧ value ≤ uint32Max then some (truncateUInt32 value) else none
  | .string text =>
    match parseVisualHashString text with
    | some parsed => if parsed.toNat ≤ uint32Max then some parsed.toUInt32 else none
    | none => none
  | _ => none

def jsonFlexibleUInt32 (object : JsonObject) (key : Text) : Option UInt32 :=
  (findMember object key).bind jsonFlexibleColor

def jsonPalette (object : JsonObject) (key : Text) : Option VisualReplacementPalette := do
  let entries ← (findMember object key).bind JsonValue.array?
  let colors ← entries.mapM jsonFlexibleColor
  if h : colors.length = 4 then some ⟨colors.toArray, by simpa using h⟩ else none

def imagePathOf (entry : JsonValue) : Option Text := do
  let path ← entry.string?
  if path = [] then none else some path

def jsonImageLayers (object : JsonObject) (key : Text) : Option (List Text) := do
  let entries ← (findMember object key).bind JsonValue.array?
  if entries = [] then none else entries.mapM imagePathOf

def jsonAnimation (object : JsonObject) (key : Text) : Option (List Text × UInt32) := do
  let animation ← (findMember object key).bind JsonValue.object?
  let frames ← jsonImageLayers animation (utf8 "frames")
  let duration ← jsonUInt32 animation (utf8 "frameDuration")
  if duration = 0 ∨ kMaxAnimationFrameDuration < duration then none else some (frames, duration)

/-- A factor between zero and one as a byte. -/
def alphaAmount (factor : ℚ) : UInt8 :=
  UInt8.ofNat ⌊(nearestDouble (factor * 255)).getD 0 + 1 / 2⌋.toNat

def structuredEffect (object : JsonObject) : Option VisualPostEffect :=
  let kind := (jsonString object (utf8 "kind")).getD []
  if kind = utf8 "invert" then some { kind := .invert }
  else if kind = utf8 "grayscale" then some { kind := .grayscale }
  else if kind = utf8 "multiply" then do
    let argb ← (findMember object (utf8 "argb")).bind jsonFlexibleColor
    some { kind := .multiply, argb := argb }
  else if kind = utf8 "alphaScale" then do
    let value ← (findMember object (utf8 "value")).bind JsonValue.number?
    if value < 0 ∨ 1 < value then none
    else some { kind := .alphaScale, amount := alphaAmount value }
  else none

def trim (value : Text) : Text := ((value.dropWhile isSpace).reverse.dropWhile isSpace).reverse

def scriptedEffect (text : Text) : Option VisualPostEffect :=
  let command := trim text
  if command = utf8 "invert" then some { kind := .invert }
  else if command = utf8 "grayscale" then some { kind := .grayscale }
  else if (utf8 "multiply ").isPrefixOf command then do
    let parsed ← parseVisualHashString (trim (command.drop 9))
    if parsed.toNat ≤ uint32Max then some { kind := .multiply, argb := parsed.toUInt32 } else none
  else if (utf8 "alpha-scale ").isPrefixOf command then do
    let operand := trim (command.drop 12)
    let (value, parsedChars) ← stod operand
    if parsedChars ≠ operand.length ∨ value < 0 ∨ 1 < value then none
    else some { kind := .alphaScale, amount := alphaAmount value }
  else none

def effectList (read : JsonValue → Option VisualPostEffect) (object : JsonObject) (key : Text)
    (effects : List VisualPostEffect) : Option (List VisualPostEffect) :=
  match findMember object key with
  | none => some effects
  | some value => do
    let entries ← value.array?
    let more ← entries.mapM read
    some (effects ++ more)

def jsonEffects : JsonObject → Text → List VisualPostEffect → Option (List VisualPostEffect) :=
  effectList fun entry => entry.object?.bind structuredEffect

def jsonScript : JsonObject → Text → List VisualPostEffect → Option (List VisualPostEffect) :=
  effectList fun entry => entry.string?.bind scriptedEffect

def jsonSlicing (object : JsonObject) (key : Text) : Option VisualSliceRect := do
  let slicing ← (findMember object key).bind JsonValue.object?
  let slice : VisualSliceRect :=
    { x := (jsonUInt32 slicing (utf8 "x")).getD 0
      y := (jsonUInt32 slicing (utf8 "y")).getD 0
      width := (jsonUInt32 slicing (utf8 "width")).getD 0
      height := (jsonUInt32 slicing (utf8 "height")).getD 0 }
  if slice.width = 0 ∨ slice.height = 0 then none else some slice

def jsonFlag (object : JsonObject) (key : Text) : Bool :=
  ((findMember object key).bind JsonValue.bool?).getD false

def jsonTransform (object : JsonObject) (key : Text) : Option VisualTransform := do
  let transform ← (findMember object key).bind JsonValue.object?
  let rotate := (jsonUInt32 transform (utf8 "rotate")).getD 0
  if rotate = 0 ∨ rotate = 90 ∨ rotate = 180 ∨ rotate = 270 then
    some { flipX := jsonFlag transform (utf8 "flipX")
           flipY := jsonFlag transform (utf8 "flipY")
           rotateDegrees := rotate }
  else none

def jsonUInt32Equals (object : JsonObject) (key : Text) (expected : ℕ) : Bool :=
  decide ((findMember object key).bind JsonValue.number? = some (expected : ℚ))

/-! ## Rules -/

def jsonHash (object : JsonObject) (key : Text) : UInt64 :=
  ((jsonString object key).bind parseVisualHashString).getD 0

/-- The rule that the match part of an entry describes, with nothing to replace yet. -/
def matchedRule (order : ℕ) (object : JsonObject) : VisualOverrideRule :=
  let machineId := (jsonString object (utf8 "machineId")).getD []
  { order := order
    machineId :=
      if machineId = [] then (jsonString object (utf8 "machine")).getD [] else machineId
    semanticLabel := (jsonString object (utf8 "semanticLabel")).getD []
    kind := visualResourceKindFromString ((jsonString object (utf8 "kind")).getD [])
    decodedFormat := visualPixelFormatFromString ((jsonString object (utf8 "decodedFormat")).getD [])
    sourceHash := jsonHash object (utf8 "sourceHash")
    decodedHash := jsonHash object (utf8 "decodedHash")
    paletteHash := jsonHash object (utf8 "paletteHash")
    paletteAwareHash := jsonHash object (utf8 "paletteAwareHash")
    width := (jsonUInt32 object (utf8 "width")).getD 0
    height := (jsonUInt32 object (utf8 "height")).getD 0
    sourceBank := jsonFlexibleUInt32 object (utf8 "sourceBank")
    sourceAddress := jsonFlexibleUInt32 object (utf8 "sourceAddress")
    sourceIndex :=
      (jsonFlexibleUInt32 object (utf8 "tileIndex")).or
        (jsonFlexibleUInt32 object (utf8 "sourceIndex"))
    paletteRegister := (jsonString object (utf8 "paletteRegister")).getD []
    paletteValue := jsonFlexibleUInt32 object (utf8 "paletteValue") }

/-- The checks of a rule once it is read. -/
def ruleInvalid (object : JsonObject) (rule : VisualOverrideRule) : Bool :=
  let hasLayerList := (findMember object (utf8 "layers")).isSome
  let hasAnimation := (findMember object (utf8 "animation")).isSome
  let hasImage := !rule.image.isEmpty
  let hasFrames := !rule.animationFrames.isEmpty
  (rule.kind == .unknown)
    || (rule.sourceHash == 0 && rule.decodedHash == 0 && rule.paletteAwareHash == 0)
    || (!hasImage && !rule.palette.isSome && rule.layers.isEmpty && !hasFrames)
    || (hasLayerList && (hasImage || rule.palette.isSome || hasFrames))
    || (hasAnimation && (hasImage || !rule.layers.isEmpty || rule.palette.isSome))
    || (hasLayerList && rule.layers.isEmpty)
    || ((findMember object (utf8 "slicing")).isSome && !rule.slicing.isSome)
    || ((findMember object (utf8 "transform")).isSome && !rule.transform.isSome)
    || decide (kMaxManifestLayers < rule.layers.length)
    || decide (kMaxManifestAnimationFrames < rule.animationFrames.length)

def weight (condition : Bool) (points : ℕ) : ℕ := if condition then points else 0

def ruleSpecificity (rule : VisualOverrideRule) : ℕ :=
  1 + weight (!rule.machineId.isEmpty) 4 + weight (rule.decodedFormat != .unknown) 2
    + weight (rule.sourceHash != 0) 2 + weight (rule.decodedHash != 0) 2
    + weight (rule.paletteHash != 0) 3 + weight (rule.paletteAwareHash != 0) 4
    + weight (!rule.semanticLabel.isEmpty) 3 + weight (rule.width != 0) 1
    + weight (rule.height != 0) 1 + weight rule.sourceBank.isSome 1
    + weight rule.sourceAddress.isSome 2 + weight rule.sourceIndex.isSome 2
    + weight (!rule.paletteRegister.isEmpty) 2 + weight rule.paletteValue.isSome 2

/-- The frames and the duration of a rule's animation; none where it has a broken one. -/
def ruleAnimation (object : JsonObject) : Option (List Text × Option UInt32) :=
  if (findMember object (utf8 "animation")).isSome then
    (jsonAnimation object (utf8 "animation")).map fun read => (read.1, some read.2)
  else some ([], none)

/-- The rule of an entry, from the objects of its match and of its replacement; none where it is
skipped. -/
def readRule (order : ℕ) (matchObject replaceObject : JsonObject) : Option VisualOverrideRule := do
  let (frames, duration) ← ruleAnimation replaceObject
  let structured ← jsonEffects replaceObject (utf8 "effects") []
  let effects ← jsonScript replaceObject (utf8 "script") structured
  let rule : VisualOverrideRule :=
    { matchedRule order matchObject with
      image := (jsonString replaceObject (utf8 "image")).getD []
      layers := (jsonImageLayers replaceObject (utf8 "layers")).getD []
      animationFrames := frames
      animationFrameDuration := duration
      effects := effects
      palette := jsonPalette replaceObject (utf8 "palette")
      slicing := jsonSlicing replaceObject (utf8 "slicing")
      transform := jsonTransform replaceObject (utf8 "transform")
      scalePolicy := (jsonString replaceObject (utf8 "scalePolicy")).getD []
      filterPolicy := (jsonString replaceObject (utf8 "filterPolicy")).getD []
      anchor := (jsonString replaceObject (utf8 "anchor")).getD [] }
  if ruleInvalid replaceObject rule then none
  else some { rule with specificity := ruleSpecificity rule }

/-- The state of the loop over the entries of a manifest. -/
structure RuleLoop where
  order : ℕ := 0
  rules : List VisualOverrideRule := []
  invalidRulesSkipped : ℕ := 0

/-- The objects of an entry's match and of its replacement. -/
def ruleParts (ruleValue : JsonValue) : Option (JsonObject × JsonObject) := do
  let object ← ruleValue.object?
  let matchObject ← (findMember object (utf8 "match")).bind JsonValue.object?
  let replaceObject ← (findMember object (utf8 "replace")).bind JsonValue.object?
  some (matchObject, replaceObject)

def loadRule (loop : RuleLoop) (ruleValue : JsonValue) : RuleLoop :=
  match ruleParts ruleValue with
  | none => { loop with invalidRulesSkipped := loop.invalidRulesSkipped + 1 }
  | some (matchObject, replaceObject) =>
    match readRule loop.order matchObject replaceObject with
    | none =>
      { loop with order := loop.order + 1, invalidRulesSkipped := loop.invalidRulesSkipped + 1 }
    | some rule => { loop with order := loop.order + 1, rules := loop.rules ++ [rule] }

/-! ## Manifests -/

structure VisualPackManifest where
  id : Text := []
  name : Text := []
  target : Text := []
  targets : List Text := []
  priority : UInt32 := 0
  root : Path := {}
  rules : List VisualOverrideRule := []

structure VisualPackManifestLoadResult where
  manifest : Option VisualPackManifest := none
  invalidRulesSkipped : ℕ := 0
  error : Text := []

def targetTexts (values : List JsonValue) : List Text := values.filterMap imagePathOf

def manifestTargets (root : JsonObject) : List Text :=
  let single := (jsonString root (utf8 "target")).getD []
  (if single = [] then [] else [single])
    ++ targetTexts (((findMember root (utf8 "targets")).bind JsonValue.array?).getD [])

def manifestRuleValues (root : JsonObject) : List JsonValue :=
  ((findMember root (utf8 "rules")).bind JsonValue.array?).getD []

/-- The manifest of a parsed text that lies in a directory. -/
def readManifest (directory : Path) (root : JsonObject) : VisualPackManifestLoadResult :=
  if !jsonUInt32Equals root (utf8 "schemaVersion") kSupportedVisualPackSchemaVersion then
    { error := utf8 "unsupported visual pack schemaVersion: expected="
        ++ dumpNat kSupportedVisualPackSchemaVersion }
  else
    let values := manifestRuleValues root
    if kMaxManifestRules < values.length then
      { error := utf8 "too many visual pack rules: count=" ++ dumpNat values.length
          ++ utf8 " max=" ++ dumpNat kMaxManifestRules }
    else
      let loop := values.foldl loadRule {}
      let targets := manifestTargets root
      let pack : VisualPackManifest :=
        { id := (jsonString root (utf8 "id")).getD []
          name := (jsonString root (utf8 "name")).getD []
          target := targets.headD []
          targets := targets
          priority := (jsonUInt32 root (utf8 "priority")).getD 0
          root := directory
          rules := loop.rules }
      if pack.id = [] ∨ pack.targets = [] then
        { invalidRulesSkipped := loop.invalidRulesSkipped
          error := utf8 "visual pack manifest missing id or target" }
      else { manifest := some pack, invalidRulesSkipped := loop.invalidRulesSkipped }

def loadVisualPackManifest (files : Files) (manifestPath : Path) : VisualPackManifestLoadResult :=
  match files manifestPath with
  | none => { error := utf8 "unable to open visual pack manifest" }
  | some text =>
    if kMaxManifestBytes < text.length then
      { error := utf8 "visual pack manifest too large: bytes=" ++ dumpNat text.length
          ++ utf8 " max=" ++ dumpNat kMaxManifestBytes }
    else
      match (JsonParser.parse text).bind JsonValue.object? with
      | none => { error := utf8 "invalid visual pack JSON" }
      | some root => readManifest manifestPath.parent root

end ProtoTime.Visual
