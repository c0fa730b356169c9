import ProtoTime.Visual.VisualCaptureWriter

/-!
The visual override service: a capture session that writes the pictures of the resources it
observes, in the caller or on a background lane, and the resolution of a descriptor against the
loaded packs, with its caches of resolved rules and of decoded pictures.
-/
namespace ProtoTime.Visual

open Json VisualPackLimits

variable (descriptor : VisualResourceDescriptor)

def makeDescriptorKey : Text :=
  let bar := [byte '|']
  descriptor.machineId ++ bar ++ visualResourceKindName descriptor.kind ++ bar
    ++ dumpNat descriptor.width.toNat ++ [byte 'x'] ++ dumpNat descriptor.height.toNat ++ bar
    ++ visualPixelFormatName descriptor.decodedFormat ++ bar
    ++ descriptor.source.label ++ bar
    ++ dumpNat descriptor.source.bank.toNat ++ bar
    ++ dumpNat descriptor.source.address.toNat ++ bar
    ++ dumpNat descriptor.source.index.toNat ++ bar
    ++ descriptor.source.paletteRegister ++ bar
    ++ dumpNat descriptor.source.paletteValue.toNat ++ bar
    ++ toHexVisualHash descriptor.sourceHash ++ bar
    ++ toHexVisualHash descriptor.contentHash ++ bar
    ++ toHexVisualHash descriptor.paletteHash ++ bar
    ++ toHexVisualHash descriptor.paletteAwareHash

/-! ## Capture -/

def captureFileName : Text :=
  visualResourceKindName descriptor.kind ++ [byte '_'] ++ toHexVisualHash descriptor.contentHash
    ++ [byte '_'] ++ dumpNat descriptor.width.toNat ++ [byte 'x'] ++ dumpNat descriptor.height.toNat
    ++ utf8 ".png"

def captureRelativePath : Text :=
  visualResourceKindName descriptor.kind ++ byte '/' :: captureFileName descriptor

def captureFilePath (directory : Path) (descriptor : VisualResourceDescriptor) : Path :=
  (directory.child (visualResourceKindName descriptor.kind)).child (captureFileName descriptor)

structure CaptureJob where
  resource : DecodedVisualResource
  key : Text
deriving DecidableEq

structure CaptureCompletion where
  descriptor : VisualResourceDescriptor
  key : Text
  relativePath : Text
  error : Text
  success : Bool

/-- The fields of the service that a capture session uses, the files, and the resources whose
pictures were written, in the order of the writes. -/
structure CaptureSession where
  background : Bool := false
  captureEnabled : Bool := false
  captureMachineId : Text := []
  captureDirectory : Path := {}
  captureSeen : List Text := []
  captureEntries : List VisualCaptureEntry := []
  captureManifestDirty : Bool := false
  pendingWrites : List CaptureJob := []
  completed : List CaptureCompletion := []
  lastError : Text := []
  files : Files := fun _ => none
  written : List DecodedVisualResource := []

namespace CaptureSession

variable (session : CaptureSession)

def writeCaptureManifest : CaptureSession :=
  { session with
    files := writeManifests session.files session.captureDirectory session.captureMachineId
      session.captureEntries
    captureManifestDirty := false }

def beginCapture (background : Bool) (files : Files) (directory : Path) (machineId : Text) :
    CaptureSession :=
  writeCaptureManifest
    { background := background, captureEnabled := true, captureMachineId := machineId,
      captureDirectory := directory, files := files }

def putPicture (resource : DecodedVisualResource) (file : Text) : CaptureSession :=
  { session with
    files := session.files.write (captureFilePath session.captureDirectory resource.descriptor) file
    written := session.written ++ [resource] }

def addEntry (descriptor : VisualResourceDescriptor) (relativePath : Text) : CaptureSession :=
  { session with
    captureEntries := session.captureEntries ++ [⟨descriptor, relativePath⟩]
    captureManifestDirty := true }

/-- A write in the caller; a failed one leaves its key among the seen ones. -/
def writeNow (zlib : Zlib) (session : CaptureSession) (resource : DecodedVisualResource) :
    Bool × CaptureSession :=
  match decodedResourcePng zlib resource with
  | .error error => (false, { session with lastError := error })
  | .ok file =>
    (true, (session.putPicture resource file).addEntry resource.descriptor
      (captureRelativePath resource.descriptor))

/-- One resource observed. `queued` is the answer of the background lane to a new job. -/
def observe (zlib : Zlib) (session : CaptureSession) (resource : DecodedVisualResource)
    (queued : Bool) : Bool × CaptureSession :=
  if !session.captureEnabled || resource.descriptor.contentHash == 0 || resource.pixels.isEmpty then
    (false, session)
  else
    let key := makeDescriptorKey resource.descriptor
    if key ∈ session.captureSeen then (false, session)
    else
      let seen := { session with captureSeen := key :: session.captureSeen }
      if session.background then
        if queued then
          (true, { seen with pendingWrites := session.pendingWrites ++ [⟨resource, key⟩] })
        else (false, session)
      else writeNow zlib seen resource

def work (zlib : Zlib) (session : CaptureSession) (index : ℕ) : CaptureSession :=
  match session.pendingWrites[index]? with
  | none => session
  | some job =>
    let rest := { session with pendingWrites := session.pendingWrites.eraseIdx index }
    let completion : CaptureCompletion :=
      { descriptor := job.resource.descriptor, key := job.key,
        relativePath := captureRelativePath job.resource.descriptor, error := [], success := true }
    match decodedResourcePng zlib job.resource with
    | .error error =>
      { rest with completed := rest.completed ++ [{ completion with error := error, success := false }] }
    | .ok file =>
      let written := rest.putPicture job.resource file
      { written with completed := written.completed ++ [completion] }

def takeCompletion (completion : CaptureCompletion) : CaptureSession :=
  if completion.success then session.addEntry completion.descriptor completion.relativePath
  else
    { session with
      captureSeen := session.captureSeen.filter (· != completion.key)
      lastError := completion.error }

def pollBackgroundWork : CaptureSession :=
  session.completed.foldl takeCompletion { session with completed := [] }

/-- The manifest is brought up to date when the statistics are read in the caller's lane. -/
def captureStats : CaptureSession :=
  if !session.background && session.captureManifestDirty then session.writeCaptureManifest
  else session

/-- The end of a session, once the wait for the background lane is over. -/
def endCapture : CaptureSession :=
  let polled := if session.background then session.pollBackgroundWork else session
  let flushed := if polled.captureManifestDirty then polled.writeCaptureManifest else polled
  { flushed with captureEnabled := false }

end CaptureSession

/-- What can happen to a session between its begin and its end. -/
inductive CaptureStep where
  | observe (resource : DecodedVisualResource) (queued : Bool)
  | work (index : ℕ)
  | poll
  | stats

def CaptureSession.step (zlib : Zlib) (session : CaptureSession) : CaptureStep → CaptureSession
  | .observe resource queued => (session.observe zlib resource queued).2
  | .work index => session.work zlib index
  | .poll => session.pollBackgroundWork
  | .stats => session.captureStats

def captureSession (zlib : Zlib) (background : Bool) (files : Files) (directory : Path)
    (machineId : Text) (steps : List CaptureStep) : CaptureSession :=
  (steps.foldl (CaptureSession.step zlib)
    (CaptureSession.beginCapture background files directory machineId)).endCapture

/-! ## Resolution -/

structure ResolvedPath where
  packId : Text := []
  path : Path := {}
  layerPaths : List Path := []
  animationFramePaths : List Path := []
  animationFrameDuration : Option UInt32 := none
  effects : List VisualPostEffect := []
  palette : Option VisualReplacementPalette := none
  slicing : Option VisualSliceRect := none
  transform : Option VisualTransform := none
  scalePolicy : Text := []
  filterPolicy : Text := []
  anchor : Text := []

structure ResolvedVisualOverride where
  mode : VisualOverrideMode := .none
  packId : Text := []
  assetPath : Text := []
  scalePolicy : Text := []
  filterPolicy : Text := []
  anchor : Text := []
  payload : ResolvedVisualPayload := .none
  effects : List VisualPostEffect := []
  slice : VisualSliceRect := {}
  transform : VisualTransform := {}
deriving DecidableEq

structure CachedReplacementImage where
  image : VisualReplacementImage
  bytes : ℕ
  lastUseSerial : ℕ
deriving DecidableEq

/-- A decode on the background lane: the file, the generation it was asked in, and its result once
it has finished. -/
structure PendingImageDecode where
  path : Path
  generation : ℕ
  result : Option (Except Text DecodedImage)

structure VisualOverrideService where
  enabled : Bool := true
  generation : ℕ := 0
  packs : List VisualPackManifest := []
  resolvedCache : List (Text × ResolvedPath) := []
  imageCache : List (Path × CachedReplacementImage) := []
  imageCacheBytes : ℕ := 0
  imageCacheUseSerial : ℕ := 0
  /-- Whether a background decoder is wired. -/
  imageDecoder : Bool := false
  pendingImageDecodes : List (Path × PendingImageDecode) := []
  lastError : Text := []

def targetsMachine (pack : VisualPackManifest) (machineId : Text) : Bool :=
  if pack.targets.isEmpty then pack.target.isEmpty || pack.target == machineId
  else pack.targets.contains machineId

/-- A text of a rule, empty for any. -/
def matchesText (wanted actual : Text) : Bool := wanted.isEmpty || wanted == actual

/-- A number of a rule, absent for any. -/
def matchesOption (wanted : Option UInt32) (actual : UInt32) : Bool :=
  match wanted with
  | none => true
  | some value => value == actual

/-- A hash of a rule, zero for any. -/
def matchesHash (wanted actual : UInt64) : Bool := wanted == 0 || wanted == actual

def matchesSize (wanted actual : UInt32) : Bool := wanted == 0 || wanted == actual

def ruleMatches (rule : VisualOverrideRule) (descriptor : VisualResourceDescriptor) : Bool :=
  rule.kind == descriptor.kind
    && matchesText rule.machineId descriptor.machineId
    && (rule.decodedFormat == .unknown || rule.decodedFormat == descriptor.decodedFormat)
    && matchesText rule.semanticLabel descriptor.source.label
    && matchesOption rule.sourceBank descriptor.source.bank
    && matchesOption rule.sourceAddress descriptor.source.address
    && matchesOption rule.sourceIndex descriptor.source.index
    && matchesText rule.paletteRegister descriptor.source.paletteRegister
    && matchesOption rule.paletteValue descriptor.source.paletteValue
    && matchesHash rule.sourceHash descriptor.sourceHash
    && matchesHash rule.paletteAwareHash descriptor.paletteAwareHash
    && matchesHash rule.paletteHash descriptor.paletteHash
    && matchesHash rule.decodedHash descriptor.contentHash
    && !(rule.sourceHash == 0 && rule.paletteAwareHash == 0 && rule.decodedHash == 0)
    && matchesSize rule.width descriptor.width
    && matchesSize rule.height descriptor.height

abbrev BestRule := Option (VisualOverrideRule × VisualPackManifest)

/-- Whether a rule of a pack takes the place of the best one so far. -/
def replacesBest (best : BestRule) (rule : VisualOverrideRule) (pack : VisualPackManifest) : Bool :=
  match best with
  | none => true
  | some (bestRule, bestPack) =>
    decide (bestRule.specificity < rule.specificity)
      || (rule.specificity == bestRule.specificity && decide (bestPack.priority < pack.priority))
      || (rule.specificity == bestRule.specificity && pack.priority == bestPack.priority
        && decide (rule.order < bestRule.order))

def considerRule (pack : VisualPackManifest)
    (best : BestRule) (rule : VisualOverrideRule) : BestRule :=
  if ruleMatches rule descriptor && replacesBest best rule pack then some (rule, pack) else best

def considerPack (best : BestRule) (pack : VisualPackManifest) : BestRule :=
  if targetsMachine pack descriptor.machineId then
    pack.rules.foldl (considerRule descriptor pack) best
  else best

/-- The rule that the loop over the packs and their rules ends with. -/
def bestRule (packs : List VisualPackManifest) (descriptor : VisualResourceDescriptor) : BestRule :=
  packs.foldl (considerPack descriptor) none

def resolvedPathOf (rule : VisualOverrideRule) (pack : VisualPackManifest) : ResolvedPath :=
  { packId := pack.id
    path := if rule.image.isEmpty then {} else pack.root.join (Path.ofText rule.image)
    layerPaths := rule.layers.map fun layer => pack.root.join (Path.ofText layer)
    animationFramePaths := rule.animationFrames.map fun frame => pack.root.join (Path.ofText frame)
    animationFrameDuration := rule.animationFrameDuration
    effects := rule.effects
    palette := rule.palette
    slicing := rule.slicing
    transform := rule.transform
    scalePolicy := rule.scalePolicy
    filterPolicy := rule.filterPolicy
    anchor := rule.anchor }

/-- The entry that was used least recently. -/
def oldestEntry : List (Path × CachedReplacementImage) → Option (Path × CachedReplacementImage)
  | [] => none
  | entry :: entries =>
    match oldestEntry entries with
    | none => some entry
    | some other => if other.2.lastUseSerial < entry.2.lastUseSerial then some other else some entry

def replacementImage (image : DecodedImage) : VisualReplacementImage :=
  { width := image.width, height := image.height, argbPixels := image.argbPixels }

namespace VisualOverrideService

def evictLoop (bytesNeeded : ℕ) : ℕ → VisualOverrideService → Bool × VisualOverrideService
  | fuel, service =>
    if service.imageCacheBytes ≤ kMaxReplacementCacheBytes - bytesNeeded then (true, service)
    else
      match fuel, oldestEntry service.imageCache with
      | fuel + 1, some victim =>
        evictLoop bytesNeeded fuel
          { service with
            imageCache := service.imageCache.erase victim
            imageCacheBytes := service.imageCacheBytes - victim.2.bytes }
      | _, _ => (false, service)

/-- Room for a picture, at the cost of the least recently used ones. -/
def evictImageCacheFor (service : VisualOverrideService) (bytesNeeded : ℕ) :
    Bool × VisualOverrideService :=
  if kMaxReplacementCacheBytes < bytesNeeded then (false, service)
  else evictLoop bytesNeeded service.imageCache.length service

def cacheImage (service : VisualOverrideService) (key : Path) (image : VisualReplacementImage)
    (imageBytes : ℕ) : VisualOverrideService :=
  { service with
    imageCache := service.imageCache
      ++ [(key, ⟨image, imageBytes, service.imageCacheUseSerial + 1⟩)]
    imageCacheUseSerial := service.imageCacheUseSerial + 1
    imageCacheBytes := service.imageCacheBytes + imageBytes }

/-- A cached picture used once more. -/
def touchImage (service : VisualOverrideService) (key : Path) : VisualOverrideService :=
  { service with
    imageCache := service.imageCache.map fun entry =>
      if entry.1 = key then
        (entry.1, { entry.2 with lastUseSerial := service.imageCacheUseSerial + 1 })
      else entry
    imageCacheUseSerial := service.imageCacheUseSerial + 1 }

/-- A picture decoded in the caller. -/
def loadPngNow (zlib : Zlib) (files : Files) (service : VisualOverrideService) (path : Path) :
    Option VisualReplacementImage × VisualOverrideService :=
  match files path with
  | none => (none, service)
  | some bytes =>
    if kMaxPngBytes < bytes.length then
      (none, { service with
        lastError := utf8 "replacement PNG too large: bytes=" ++ dumpNat bytes.length
          ++ utf8 " max=" ++ dumpNat kMaxPngBytes })
    else
      match decodePngToRgba zlib bytes with
      | .error error => (none, { service with lastError := error })
      | .ok decoded =>
        let imageBytes := decoded.width.toNat * decoded.height.toNat * 4
        let (room, evicted) := service.evictImageCacheFor imageBytes
        if room then
          (some (replacementImage decoded),
            evicted.cacheImage path.lexicallyNormal (replacementImage decoded) imageBytes)
        else
          (none, { evicted with
            lastError := utf8 "replacement image cache budget exceeded: requested="
              ++ dumpNat imageBytes ++ utf8 " current=" ++ dumpNat evicted.imageCacheBytes
              ++ utf8 " max=" ++ dumpNat kMaxReplacementCacheBytes })

end VisualOverrideService

inductive Submission where
  | queued
  | queueFull
  | unavailable
deriving DecidableEq

/-- What the result of a decode is set to when it is asked for. -/
def submittedResult : Submission → Option (Except Text DecodedImage)
  | .queued => none
  | .queueFull => some (.error (utf8 "background decode queue full"))
  | .unavailable => some (.error (utf8 "background decoder unavailable"))

/-- What a worker makes of a file. -/
def decodeFile (zlib : Zlib) (files : Files) (path : Path) : Except Text DecodedImage :=
  match files path with
  | none => .error (utf8 "unable to read PNG: " ++ path.string)
  | some bytes =>
    if kMaxPngBytes < bytes.length then
      .error (utf8 "replacement PNG too large: " ++ path.string)
    else decodePngToRgba zlib bytes

namespace VisualOverrideService

/-- A picture decoded on the background lane: asked for, waited for, or taken. -/
def loadPngAsync (service : VisualOverrideService) (path : Path) (submission : Submission) :
    Option VisualReplacementImage × VisualOverrideService :=
  let key := path.lexicallyNormal
  match service.pendingImageDecodes.lookup key with
  | none =>
    (none, { service with
      pendingImageDecodes := service.pendingImageDecodes
        ++ [(key, ⟨path, service.generation, submittedResult submission⟩)] })
  | some pending =>
    match pending.result with
    | none => (none, service)
    | some result =>
      let taken := { service with
        pendingImageDecodes := service.pendingImageDecodes.filter fun entry => entry.1 != key }
      if pending.generation ≠ service.generation then (none, taken)
      else
        match result with
        | .error error => (none, { taken with lastError := error })
        | .ok decoded =>
          let imageBytes := decoded.argbPixels.length * 4
          let (room, evicted) := taken.evictImageCacheFor imageBytes
          if room then
            (some (replacementImage decoded),
              evicted.cacheImage key (replacementImage decoded) imageBytes)
          else
            (none, { evicted with lastError := utf8 "replacement image cache budget exceeded" })

variable (zlib : Zlib)

def loadPng (files : Files) (submission : Submission)
    (service : VisualOverrideService) (path : Path) :
    Option VisualReplacementImage × VisualOverrideService :=
  match service.imageCache.lookup path.lexicallyNormal with
  | some cached => (some cached.image, service.touchImage path.lexicallyNormal)
  | none =>
    if service.imageDecoder then service.loadPngAsync path submission
    else service.loadPngNow zlib files path

/-- The pictures of some paths, none where one is missing or empty. -/
def loadImages (zlib : Zlib) (files : Files) (submission : Submission) :
    List Path → VisualOverrideService → Option (List VisualReplacementImage) × VisualOverrideService
  | [], service => (some [], service)
  | path :: paths, service =>
    match service.loadPng zlib files submission path with
    | (none, service) => (none, service)
    | (some image, service) =>
      if image.empty then (none, service)
      else
        let (images, service) := loadImages zlib files submission paths service
        (images.map (image :: ·), service)

/-- What a resolved rule replaces with, under its mode. -/
def overrideOf (resolved : ResolvedPath) (mode : VisualOverrideMode) (assetPath : Text)
    (payload : ResolvedVisualPayload) : ResolvedVisualOverride :=
  { mode := mode
    packId := resolved.packId
    assetPath := assetPath
    scalePolicy := resolved.scalePolicy
    filterPolicy := resolved.filterPolicy
    anchor := resolved.anchor
    payload := payload
    effects := resolved.effects
    slice := resolved.slicing.getD {}
    transform := resolved.transform.getD {} }

def loadResolved (files : Files) (submission : Submission)
    (service : VisualOverrideService) (resolved : ResolvedPath) :
    Option ResolvedVisualOverride × VisualOverrideService :=
  if !resolved.path.isEmpty then
    match service.loadPng zlib files submission resolved.path with
    | (none, service) => (none, service)
    | (some image, service) =>
      if image.empty then (none, service)
      else (some (overrideOf resolved .replaceImage resolved.path.string (.image image)), service)
  else if !resolved.layerPaths.isEmpty then
    let (layers, service) := loadImages zlib files submission resolved.layerPaths service
    (layers.map fun layers => overrideOf resolved .compositeLayers [] (.layers layers), service)
  else if !resolved.animationFramePaths.isEmpty then
    let (frames, service) := loadImages zlib files submission resolved.animationFramePaths service
    (frames.map fun frames =>
      overrideOf resolved .animationGroup []
        (.animation ⟨frames, resolved.animationFrameDuration.getD 0⟩), service)
  else
    (resolved.palette.map fun palette =>
      overrideOf resolved .replacePalette [] (.palette palette), service)

def resolve (files : Files) (submission : Submission)
    (service : VisualOverrideService) (descriptor : VisualResourceDescriptor) :
    Option ResolvedVisualOverride × VisualOverrideService :=
  if !service.enabled || descriptor.contentHash == 0 then (none, service)
  else
    let key := makeDescriptorKey descriptor
    match service.resolvedCache.lookup key with
    | some resolved => service.loadResolved zlib files submission resolved
    | none =>
      match bestRule service.packs descriptor with
      | none => (none, service)
      | some (rule, pack) =>
        let resolved := resolvedPathOf rule pack
        { service with resolvedCache := service.resolvedCache ++ [(key, resolved)] }.loadResolved
          zlib files submission resolved

def finishDecode (files : Files) (service : VisualOverrideService) (key : Path) :
    VisualOverrideService :=
  { service with
    pendingImageDecodes := service.pendingImageDecodes.map fun entry =>
      if entry.1 = key ∧ entry.2.result.isNone = true then
        (entry.1, { entry.2 with result := some (decodeFile zlib files entry.2.path) })
      else entry }

def clearResolutionCaches (service : VisualOverrideService) : VisualOverrideService :=
  { service with resolvedCache := [], imageCache := [], imageCacheBytes := 0 }

def loadPackManifest (files : Files) (service : VisualOverrideService) (manifestPath : Path) :
    Bool × VisualOverrideService :=
  let result := loadVisualPackManifest files manifestPath
  match result.manifest with
  | none => (false, { service with lastError := result.error })
  | some manifest =>
    (true, { clearResolutionCaches { service with packs := service.packs ++ [manifest] } with
      generation := service.generation + 1, lastError := [] })

end VisualOverrideService

end ProtoTime.Visual
