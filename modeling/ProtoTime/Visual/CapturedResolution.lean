import ProtoTime.Visual.CapturedPacks

/-!
Resolutions against a captured pack, over whole runs: a service that holds only the pack of a
session keeps its caches and its pending decodes true to the captured files, whatever is asked
of it, and so answers for a captured resource with the picture of its file.
-/
namespace ProtoTime.Visual

open Json VisualPackLimits

section
variable {zlib : Zlib} {directory : Path} {machineId : Text}
  {written : List DecodedVisualResource} {files : Files}

/-! ## Decodes -/

/-- A decode of a captured file gives its picture, or fails where that is not loadable. -/
theorem decodeFile_captured (h : CaptureResult zlib directory machineId written files)
    {descriptor : VisualResourceDescriptor} {last : DecodedVisualResource}
    (hlast : lastPicture written descriptor = some last) :
    (Loadable zlib last →
        decodeFile zlib files (captureFilePath directory descriptor) = .ok (decodedPicture last))
      ∧ (¬ Loadable zlib last →
        ∃ error, decodeFile zlib files (captureFilePath directory descriptor) = .error error) := by
  obtain ⟨file, hpng, hfile⟩ := h.pictures descriptor last hlast
  unfold decodeFile
  rw [hfile]
  dsimp only
  by_cases hlarge : kMaxPngBytes < file.length
  · rw [if_pos hlarge]
    constructor
    · intro hload
      exact absurd (hload.2 file hpng) (by omega)
    · intro _
      exact ⟨_, rfl⟩
  · rw [if_neg hlarge]
    have hsize : file.length < 2 ^ 32 := by
      unfold kMaxPngBytes at hlarge
      omega
    obtain ⟨hok, herror⟩ := decodePngToRgba_decodedResourcePng hpng hsize
    constructor
    · exact fun hload => hok hload.1
    · intro hnot
      apply herror
      intro hlimits
      apply hnot
      refine ⟨hlimits, fun other hother => ?_⟩
      rw [hpng] at hother
      cases hother
      omega

theorem replacementImage_decodedPicture (resource : DecodedVisualResource) :
    replacementImage (decodedPicture resource) = capturedPicture resource := rfl

theorem length_decodedPicture (resource : DecodedVisualResource) :
    (decodedPicture resource).argbPixels.length * 4 = imageBytes resource := by
  have hlength := length_resourceColors resource
  simp [decodedPicture, capturedPicture, imageBytes, hlength]

/-! ## States -/

def pictureKey (directory : Path) (descriptor : VisualResourceDescriptor) : Path :=
  (captureFilePath directory descriptor).lexicallyNormal

def TrueImage (zlib : Zlib) (directory : Path) (written : List DecodedVisualResource)
    (entry : Path × CachedReplacementImage) : Prop :=
  ∃ descriptor last, lastPicture written descriptor = some last ∧ Loadable zlib last
    ∧ entry.1 = pictureKey directory descriptor ∧ entry.2.image = capturedPicture last

def TrueDecode (zlib : Zlib) (directory : Path) (written : List DecodedVisualResource)
    (generation : ℕ) (entry : Path × PendingImageDecode) : Prop :=
  ∃ descriptor last, lastPicture written descriptor = some last
    ∧ entry.1 = pictureKey directory descriptor
    ∧ entry.2.path = captureFilePath directory descriptor ∧ entry.2.generation = generation
    ∧ ∀ decoded, entry.2.result = some (.ok decoded) →
      Loadable zlib last ∧ decoded = decodedPicture last

/-- A cached resolution leads to the captured file of a descriptor under its key. -/
def TrueResolution (directory : Path) (machineId : Text) (written : List DecodedVisualResource)
    (entry : Text × ResolvedPath) : Prop :=
  ∃ descriptor, makeDescriptorKey descriptor = entry.1 ∧ descriptor.machineId = machineId
    ∧ (lastPicture written descriptor).isSome = true
    ∧ entry.2 = capturedResolved machineId directory descriptor

structure PackInUse (zlib : Zlib) (directory : Path) (machineId : Text)
    (written : List DecodedVisualResource) (service : VisualOverrideService) : Prop where
  enabled : service.enabled = true
  packs : service.packs = [sessionPack directory machineId written]
  resolved : ∀ entry ∈ service.resolvedCache, TrueResolution directory machineId written entry
  images : ∀ entry ∈ service.imageCache, TrueImage zlib directory written entry
  bytes : service.imageCacheBytes = cachedBytes service.imageCache
  decodes : ∀ entry ∈ service.pendingImageDecodes,
    TrueDecode zlib directory written service.generation entry

theorem lastPicture_of_pictureKey {a b : VisualResourceDescriptor}
    (h : pictureKey directory a = pictureKey directory b) :
    lastPicture written a = lastPicture written b :=
  lastPicture_congr (lexicallyNormal_captureFilePath_inj h)

/-- A picture that needs no decode: it is cached, or its decode has finished. -/
def AtHand (service : VisualOverrideService) (key : Path) : Prop :=
  (service.imageCache.lookup key).isSome = true
    ∨ ∃ pending decoded, service.pendingImageDecodes.lookup key = some pending
      ∧ pending.result = some (.ok decoded)

/-- What a load of a captured file does: it keeps the service true, and answers the picture of the
file or nothing. -/
structure LoadsPicture (zlib : Zlib) (directory : Path) (machineId : Text)
    (written : List DecodedVisualResource) (last : DecodedVisualResource)
    (service : VisualOverrideService)
    (result : Option VisualReplacementImage × VisualOverrideService) : Prop where
  state : PackInUse zlib directory machineId written result.2
  lane : result.2.imageDecoder = service.imageDecoder
  answer : result.1 = none ∨ Loadable zlib last ∧ result.1 = some (capturedPicture last)

variable {service : VisualOverrideService} {descriptor : VisualResourceDescriptor}
  {last : DecodedVisualResource}

section

variable (h : PackInUse zlib directory machineId written service)

include h

theorem evict_cacheImage
    (hlast : lastPicture written descriptor = some last) (hload : Loadable zlib last) :
    ∃ evicted, service.evictImageCacheFor (imageBytes last) = (true, evicted)
      ∧ LoadsPicture zlib directory machineId written last service
        (some (capturedPicture last),
          evicted.cacheImage (pictureKey directory descriptor) (capturedPicture last)
            (imageBytes last)) := by
  obtain ⟨cache, hevict, hsubset⟩ := evictImageCacheFor_spec h.bytes (imageBytes_le hload)
  refine ⟨_, hevict, ⟨h.enabled, h.packs, h.resolved, ?_, ?_, h.decodes⟩, rfl, .inr ⟨hload, rfl⟩⟩
  · intro entry hentry
    rcases List.mem_append.mp hentry with hold | hnew
    · exact h.images entry (hsubset entry hold)
    · cases List.mem_singleton.mp hnew
      exact ⟨descriptor, last, hlast, hload, rfl, rfl⟩
  · simp [VisualOverrideService.cacheImage, cachedBytes]

theorem packInUse_touchImage (key : Path) :
    PackInUse zlib directory machineId written (service.touchImage key) := by
  refine ⟨h.enabled, h.packs, h.resolved, ?_, ?_, h.decodes⟩
  · intro entry hentry
    obtain ⟨old, hold, rfl⟩ := List.mem_map.mp hentry
    have htrue := h.images old hold
    split_ifs
    · exact htrue
    · exact htrue
  · have hbytes := h.bytes
    unfold cachedBytes at hbytes
    unfold VisualOverrideService.touchImage cachedBytes
    rw [hbytes, List.map_map]
    congr 1
    apply List.map_congr_left
    intro entry _
    dsimp only [Function.comp_apply]
    split_ifs
    · rfl
    · rfl

theorem packInUse_lastError (error : Text) :
    PackInUse zlib directory machineId written { service with lastError := error } :=
  ⟨h.enabled, h.packs, h.resolved, h.images, h.bytes, h.decodes⟩

/-! ## Loads -/

end

theorem loadPngNow_error {path : Path} {error : Text}
    (h : decodeFile zlib files path = .error error) :
    ∃ message, service.loadPngNow zlib files path
      = (none, { service with lastError := message }) := by
  unfold decodeFile at h
  unfold VisualOverrideService.loadPngNow
  cases hfile : files path with
  | none => exact ⟨service.lastError, rfl⟩
  | some bytes =>
    rw [hfile] at h
    dsimp only at h ⊢
    split_ifs at h ⊢
    · exact ⟨_, rfl⟩
    · rw [h]
      exact ⟨error, rfl⟩

theorem loadPngNow_ok {path : Path} {decoded : DecodedImage}
    {evicted : VisualOverrideService} (h : decodeFile zlib files path = .ok decoded)
    (hevict : service.evictImageCacheFor (decoded.width.toNat * decoded.height.toNat * 4)
      = (true, evicted)) :
    service.loadPngNow zlib files path
      = (some (replacementImage decoded),
          evicted.cacheImage path.lexicallyNormal (replacementImage decoded)
            (decoded.width.toNat * decoded.height.toNat * 4)) := by
  unfold decodeFile at h
  unfold VisualOverrideService.loadPngNow
  cases hfile : files path with
  | none =>
    rw [hfile] at h
    cases h
  | some bytes =>
    rw [hfile] at h
    dsimp only at h ⊢
    split_ifs at h ⊢
    rw [h]
    dsimp only
    rw [hevict]
    rfl

/-- A load in the caller. -/
theorem loadPngNow_captured (h : CaptureResult zlib directory machineId written files)
    (huse : PackInUse zlib directory machineId written service)
    (hlast : lastPicture written descriptor = some last) :
    LoadsPicture zlib directory machineId written last service
        (service.loadPngNow zlib files (captureFilePath directory descriptor))
      ∧ (Loadable zlib last →
        (service.loadPngNow zlib files (captureFilePath directory descriptor)).1
          = some (capturedPicture last)) := by
  obtain ⟨hok, herror⟩ := decodeFile_captured h hlast
  by_cases hload : Loadable zlib last
  · obtain ⟨evicted, hevict, hloads⟩ := evict_cacheImage huse hlast hload
    have hnow := loadPngNow_ok (hok hload) hevict
    rw [hnow]
    exact ⟨hloads, fun _ => rfl⟩
  · obtain ⟨error, hfailed⟩ := herror hload
    obtain ⟨message, hnow⟩ : ∃ message,
        service.loadPngNow zlib files (captureFilePath directory descriptor)
          = (none, { service with lastError := message }) := loadPngNow_error hfailed
    rw [hnow]
    exact ⟨⟨packInUse_lastError huse message, rfl, .inl rfl⟩, fun hgood => absurd hgood hload⟩

theorem packInUse_decodes (h : PackInUse zlib directory machineId written service)
    {decodes : List (Path × PendingImageDecode)}
    (hdecodes : ∀ entry ∈ decodes, TrueDecode zlib directory written service.generation entry) :
    PackInUse zlib directory machineId written { service with pendingImageDecodes := decodes } :=
  ⟨h.enabled, h.packs, h.resolved, h.images, h.bytes, hdecodes⟩

theorem submittedResult_ne_ok (submission : Submission) (decoded : DecodedImage) :
    submittedResult submission ≠ some (.ok decoded) := by
  cases submission with
  | queued => exact nofun
  | queueFull => exact nofun
  | unavailable => exact nofun

/-- A load on the background lane. -/
theorem loadPngAsync_captured (huse : PackInUse zlib directory machineId written service)
    (hlast : lastPicture written descriptor = some last) (submission : Submission) :
    LoadsPicture zlib directory machineId written last service
        (service.loadPngAsync (captureFilePath directory descriptor) submission)
      ∧ (∀ pending decoded,
        service.pendingImageDecodes.lookup (pictureKey directory descriptor) = some pending →
        pending.result = some (.ok decoded) →
        (service.loadPngAsync (captureFilePath directory descriptor) submission).1
          = some (capturedPicture last)) := by
  unfold VisualOverrideService.loadPngAsync
  dsimp only
  rw [show (captureFilePath directory descriptor).lexicallyNormal
    = pictureKey directory descriptor from rfl]
  cases hlookup : service.pendingImageDecodes.lookup (pictureKey directory descriptor) with
  | none =>
    refine ⟨⟨packInUse_decodes huse ?_, rfl, .inl rfl⟩, nofun⟩
    intro entry hentry
    rcases List.mem_append.mp hentry with hold | hnew
    · exact huse.decodes entry hold
    · cases List.mem_singleton.mp hnew
      refine ⟨descriptor, last, hlast, rfl, rfl, rfl, fun decoded hresult => ?_⟩
      exact absurd hresult (submittedResult_ne_ok submission decoded)
  | some pending =>
    dsimp only
    obtain ⟨owner, other, hother, hkey, hpath, hgeneration, htrue⟩ :=
      huse.decodes _ (mem_of_lookup hlookup)
    rw [← lastPicture_of_pictureKey hkey, hlast] at hother
    cases hother
    cases hresult : pending.result with
    | none =>
      refine ⟨⟨huse, rfl, .inl rfl⟩, fun found decoded hfound hdecoded => ?_⟩
      cases hfound
      rw [hresult] at hdecoded
      cases hdecoded
    | some result =>
      dsimp only
      rw [if_neg (not_not.mpr hgeneration)]
      have htaken : PackInUse zlib directory machineId written
          { service with
            pendingImageDecodes := service.pendingImageDecodes.filter fun entry =>
              entry.1 != pictureKey directory descriptor } :=
        packInUse_decodes huse fun entry hentry => huse.decodes entry (List.mem_filter.mp hentry).1
      cases result with
      | error error =>
        refine ⟨⟨packInUse_lastError htaken error, rfl, .inl rfl⟩,
          fun found decoded hfound hdecoded => ?_⟩
        cases hfound
        rw [hresult] at hdecoded
        cases hdecoded
      | ok decoded =>
        obtain ⟨hload, rfl⟩ := htrue decoded hresult
        obtain ⟨evicted, hevict, hloads⟩ := evict_cacheImage htaken hlast hload
        dsimp only
        rw [length_decodedPicture, hevict, replacementImage_decodedPicture]
        exact ⟨⟨hloads.state, hloads.lane, hloads.answer⟩, fun _ _ _ _ => rfl⟩

/-- A load of a captured file, by the lane of the service. -/
theorem loadPng_captured (h : CaptureResult zlib directory machineId written files)
    (huse : PackInUse zlib directory machineId written service)
    (hlast : lastPicture written descriptor = some last) (submission : Submission) :
    LoadsPicture zlib directory machineId written last service
        (service.loadPng zlib files submission (captureFilePath directory descriptor))
      ∧ (Loadable zlib last →
        service.imageDecoder = false ∨ AtHand service (pictureKey directory descriptor) →
        (service.loadPng zlib files submission (captureFilePath directory descriptor)).1
          = some (capturedPicture last)) := by
  unfold VisualOverrideService.loadPng
  rw [show (captureFilePath directory descriptor).lexicallyNormal
    = pictureKey directory descriptor from rfl]
  cases hlookup : service.imageCache.lookup (pictureKey directory descriptor) with
  | some cached =>
    obtain ⟨owner, other, hother, hload, hkey, himage⟩ := huse.images _ (mem_of_lookup hlookup)
    rw [← lastPicture_of_pictureKey hkey, hlast] at hother
    cases hother
    dsimp only
    rw [himage]
    exact ⟨⟨packInUse_touchImage huse _, rfl, .inr ⟨hload, rfl⟩⟩, fun _ _ => rfl⟩
  | none =>
    cases hlane : service.imageDecoder with
    | false =>
      obtain ⟨hloads, hpicture⟩ := loadPngNow_captured h huse hlast
      exact ⟨hloads, fun hload _ => hpicture hload⟩
    | true =>
      obtain ⟨hloads, hpicture⟩ := loadPngAsync_captured huse hlast submission
      refine ⟨hloads, fun _ hhand => ?_⟩
      rcases hhand with hsync | hcached | ⟨pending, decoded, hpending, hdecoded⟩
      · cases hsync
      · rw [hlookup] at hcached
        cases hcached
      · exact hpicture pending decoded hpending hdecoded

end

end ProtoTime.Visual
