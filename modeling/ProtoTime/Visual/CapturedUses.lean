import ProtoTime.Visual.CapturedResolution

/-!
A captured pack under any use: descriptors resolved and decodes finished in any order. Loading
the pack starts a service that is true to the captured files, every use keeps it so, and the
answer for a captured resource follows.
-/
namespace ProtoTime.Visual

open Json VisualPackLimits

section
variable {zlib : Zlib} {directory : Path} {machineId : Text}
  {written : List DecodedVisualResource} {files : Files}
  {service : VisualOverrideService}

/-! ## One resolution -/

theorem captureFilePath_not_empty (directory : Path) (descriptor : VisualResourceDescriptor) :
    (captureFilePath directory descriptor).isEmpty = false := by
  have hnames := names_captureFilePath directory descriptor
  unfold Path.isEmpty
  rw [hnames]
  simp

structure ResolvesPicture (zlib : Zlib) (directory : Path) (machineId : Text)
    (written : List DecodedVisualResource) (descriptor : VisualResourceDescriptor)
    (last : DecodedVisualResource) (service : VisualOverrideService)
    (result : Option ResolvedVisualOverride × VisualOverrideService) : Prop where
  state : PackInUse zlib directory machineId written result.2
  lane : result.2.imageDecoder = service.imageDecoder
  answer : result.1 = none ∨ Loadable zlib last
    ∧ result.1 = some (VisualOverrideService.overrideOf
        (capturedResolved machineId directory descriptor) .replaceImage
        (captureFilePath directory descriptor).string (.image (capturedPicture last)))

variable {descriptor : VisualResourceDescriptor} {last : DecodedVisualResource}

theorem packInUse_resolved (huse : PackInUse zlib directory machineId written service)
    {entry : Text × ResolvedPath} (hentry : TrueResolution directory machineId written entry) :
    PackInUse zlib directory machineId written
      { service with resolvedCache := service.resolvedCache ++ [entry] } := by
  refine ⟨huse.enabled, huse.packs, ?_, huse.images, huse.bytes, huse.decodes⟩
  intro other hother
  rcases List.mem_append.mp hother with hold | hnew
  · exact huse.resolved other hold
  · cases List.mem_singleton.mp hnew
    exact hentry

variable {resource : DecodedVisualResource}

theorem lastPicture_isSome_of_sameFile (hresource : resource ∈ written)
    (hsame : SameFile resource.descriptor descriptor) :
    (lastPicture written descriptor).isSome = true := by
  obtain ⟨last, hlast⟩ := lastPicture_of_mem hresource
  rw [← lastPicture_congr hsame, hlast]
  rfl

/-- Whether a captured resource resolves to its own picture: it is of the session's machine and of
a known kind, the picture written last under the name of its file is its own, and that one can be
loaded. -/
def Resolvable (zlib : Zlib) (machineId : Text) (written : List DecodedVisualResource)
    (resource : DecodedVisualResource) : Prop :=
  resource.descriptor.machineId = machineId ∧ resource.descriptor.kind ≠ .unknown
    ∧ ∃ last, lastPicture written resource.descriptor = some last
      ∧ capturedPicture last = capturedPicture resource ∧ Loadable zlib last

theorem overrideOf_eq_capturedOverride
    {target : VisualResourceDescriptor} (hsame : SameFile target resource.descriptor) :
    VisualOverrideService.overrideOf (capturedResolved machineId directory target) .replaceImage
        (captureFilePath directory target).string (.image (capturedPicture last))
      = { capturedOverride machineId directory resource with
          payload := .image (capturedPicture last) } := by
  rw [captureFilePath_congr hsame]
  rfl

section

variable (h : CaptureResult zlib directory machineId written files)
  (huse : PackInUse zlib directory machineId written service)
include h huse

theorem loadResolved_captured (hlast : lastPicture written descriptor = some last)
    (submission : Submission) :
    ResolvesPicture zlib directory machineId written descriptor last service
        (service.loadResolved zlib files submission
          (capturedResolved machineId directory descriptor))
      ∧ (Loadable zlib last →
        service.imageDecoder = false ∨ AtHand service (pictureKey directory descriptor) →
        (service.loadResolved zlib files submission
          (capturedResolved machineId directory descriptor)).1 ≠ none) := by
  obtain ⟨file, hpng⟩ := (h.hashes last (mem_of_lastPicture hlast).1).2
  obtain ⟨hwidth, hheight⟩ := decodedResourcePng_sizes hpng
  have hfull := capturedPicture_not_empty hwidth hheight
  obtain ⟨hloads, hpicture⟩ := loadPng_captured h huse hlast submission
  unfold VisualOverrideService.loadResolved
  have hpath : (capturedResolved machineId directory descriptor).path
    = captureFilePath directory descriptor := rfl
  rw [hpath, captureFilePath_not_empty, Bool.not_false, if_pos rfl]
  obtain ⟨hstate, hlane, hanswer⟩ := hloads
  cases hload : service.loadPng zlib files submission (captureFilePath directory descriptor) with
  | mk answer next =>
    rw [hload] at hstate hlane hanswer hpicture
    dsimp only at hstate hlane hanswer hpicture
    rcases hanswer with rfl | ⟨hgood, rfl⟩
    · refine ⟨⟨hstate, hlane, .inl rfl⟩, fun hgood hhand => ?_⟩
      exact absurd (hpicture hgood hhand) nofun
    · dsimp only
      rw [hfull, if_neg Bool.false_ne_true]
      exact ⟨⟨hstate, hlane, .inr ⟨hgood, rfl⟩⟩, fun _ _ => nofun⟩

/-- Where a resolution leads: to no answer, or to the file of a captured descriptor, the asked one
itself where it is of the session's machine. -/
theorem resolve_cases
    (descriptor : VisualResourceDescriptor) (submission : Submission) :
    (service.resolve zlib files submission descriptor = (none, service)
        ∧ (descriptor.contentHash = 0
          ∨ bestRule [sessionPack directory machineId written] descriptor = none))
      ∨ ∃ (target : VisualResourceDescriptor) (last : DecodedVisualResource)
          (cache : List (Text × ResolvedPath)),
        lastPicture written target = some last
        ∧ PackInUse zlib directory machineId written { service with resolvedCache := cache }
        ∧ (descriptor.machineId = machineId → SameFile target descriptor)
        ∧ (service.resolvedCache = [] →
          descriptor.machineId = machineId ∧ descriptor.kind ≠ .unknown)
        ∧ service.resolve zlib files submission descriptor
          = { service with resolvedCache := cache }.loadResolved zlib files submission
              (capturedResolved machineId directory target) := by
  unfold VisualOverrideService.resolve
  split_ifs with hoff
  · refine .inl ⟨rfl, .inl ?_⟩
    simpa [huse.enabled] using hoff
  · dsimp only
    cases hlookup : service.resolvedCache.lookup (makeDescriptorKey descriptor) with
    | some resolved =>
      have hmem := mem_of_lookup hlookup
      obtain ⟨target, hkey, hmachine, hsome, hresolved⟩ := huse.resolved _ hmem
      obtain ⟨last, hlast⟩ := Option.isSome_iff_exists.mp hsome
      dsimp only at hkey hresolved
      rw [hresolved]
      refine .inr ⟨target, last, service.resolvedCache, hlast, huse, fun hown => ?_,
        fun hnil => ?_, rfl⟩
      · exact sameFile_of_makeDescriptorKey (hmachine.trans hown.symm) hkey
      · rw [hnil] at hmem
        exact absurd hmem List.not_mem_nil
    | none =>
      have hpacks : bestRule service.packs descriptor
          = bestRule [sessionPack directory machineId written] descriptor := by
        rw [huse.packs]
      dsimp only
      rw [hpacks]
      cases hbest : bestRule [sessionPack directory machineId written] descriptor with
      | none => exact .inl ⟨rfl, .inr rfl⟩
      | some found =>
        obtain ⟨hmachine, hkind, ⟨resource, hresource, hsame⟩, hresolved⟩ :=
          bestRule_sessionPack h hbest
        have hsome := lastPicture_isSome_of_sameFile hresource hsame
        obtain ⟨last, hlast⟩ := Option.isSome_iff_exists.mp hsome
        have hentry : TrueResolution directory machineId written
            (makeDescriptorKey descriptor, capturedResolved machineId directory descriptor) :=
          ⟨descriptor, Eq.refl _, hmachine, hsome, Eq.refl _⟩
        dsimp only
        rw [hresolved]
        refine .inr ⟨descriptor, last, _, hlast, packInUse_resolved huse hentry,
          fun _ => ⟨rfl, rfl, rfl, rfl⟩, fun _ => ⟨hmachine, hkind⟩, rfl⟩

theorem packInUse_resolve (descriptor : VisualResourceDescriptor) (submission : Submission) :
    PackInUse zlib directory machineId written
        (service.resolve zlib files submission descriptor).2
      ∧ (service.resolve zlib files submission descriptor).2.imageDecoder
        = service.imageDecoder := by
  rcases resolve_cases h huse descriptor submission with
    ⟨hnone, _⟩ | ⟨target, last, cache, hlast, hcache, _, _, hresolve⟩
  · rw [hnone]
    exact ⟨huse, rfl⟩
  · rw [hresolve]
    obtain ⟨hloads, _⟩ := loadResolved_captured h hcache hlast submission
    exact ⟨hloads.state, hloads.lane⟩

/-! ## The answer for a captured resource -/

/-- A resolvable resource resolves to its own picture, once that needs no decode. -/
theorem resolve_resolvable (hresource : resource ∈ written)
    (hresolvable : Resolvable zlib machineId written resource) (submission : Submission) :
    ((service.resolve zlib files submission resource.descriptor).1 = none
        ∨ (service.resolve zlib files submission resource.descriptor).1
          = some (capturedOverride machineId directory resource))
      ∧ (service.imageDecoder = false
          ∨ AtHand service (pictureKey directory resource.descriptor) →
        (service.resolve zlib files submission resource.descriptor).1
          = some (capturedOverride machineId directory resource)) := by
  obtain ⟨hmachine, hkind, last, hlast, hpicture, hload⟩ := hresolvable
  rcases resolve_cases h huse resource.descriptor submission with
    ⟨_, hempty⟩ | ⟨target, other, cache, hother, hcache, hsame, _, hresolve⟩
  · exfalso
    rcases hempty with hzero | hrule
    · exact (h.hashes resource hresource).1 hzero
    · have hbest := bestRule_isSome h hresource hmachine hkind
      rw [hrule] at hbest
      cases hbest
  · have hfile := hsame hmachine
    have htarget := hother
    rw [lastPicture_congr hfile, hlast] at htarget
    cases htarget
    obtain ⟨⟨_, _, hanswer⟩, hsome⟩ := loadResolved_captured h hcache hother submission
    rw [← hresolve, overrideOf_eq_capturedOverride hfile, hpicture] at hanswer
    rw [← hresolve] at hsome
    have hcaptured : (service.resolve zlib files submission resource.descriptor).1 = none
        ∨ (service.resolve zlib files submission resource.descriptor).1
          = some (capturedOverride machineId directory resource) := by
      rcases hanswer with hnone | ⟨_, hgiven⟩
      · exact .inl hnone
      · exact .inr hgiven
    refine ⟨hcaptured, fun hhand => ?_⟩
    have hkey : pictureKey directory target = pictureKey directory resource.descriptor := by
      unfold pictureKey
      rw [captureFilePath_congr hfile]
    rw [← hkey] at hhand
    exact hcaptured.resolve_left (hsome hload hhand)

/-- In a service that has resolved nothing yet, only a resolvable resource resolves to its own
picture. -/
theorem resolvable_of_resolve (hfresh : service.resolvedCache = []) (submission : Submission)
    (hanswer : (service.resolve zlib files submission resource.descriptor).1
      = some (capturedOverride machineId directory resource)) :
    Resolvable zlib machineId written resource := by
  rcases resolve_cases h huse resource.descriptor submission with
    ⟨hnone, _⟩ | ⟨target, last, cache, hlast, hcache, hsame, hknown, hresolve⟩
  · rw [hnone] at hanswer
    cases hanswer
  · obtain ⟨hmachine, hkind⟩ := hknown hfresh
    have hfile := hsame hmachine
    obtain ⟨⟨_, _, hloaded⟩, _⟩ := loadResolved_captured h hcache hlast submission
    rw [← hresolve, hanswer, overrideOf_eq_capturedOverride hfile] at hloaded
    rcases hloaded with hnone | ⟨hload, hequal⟩
    · cases hnone
    · have hpayload := congrArg ResolvedVisualOverride.payload (Option.some.inj hequal)
      have hpicture : capturedPicture resource = capturedPicture last := by
        injection hpayload
      refine ⟨hmachine, hkind, last, ?_, hpicture.symm, hload⟩
      rw [← lastPicture_congr hfile, hlast]

/-! ## Uses of a service -/

/-- What can be asked of a service between two changes of its packs. -/
inductive ServiceUse where
  | resolve (descriptor : VisualResourceDescriptor) (submission : Submission)
  | finishDecode (key : Path)

def VisualOverrideService.use (zlib : Zlib) (files : Files) (service : VisualOverrideService) :
    ServiceUse → VisualOverrideService
  | .resolve descriptor submission => (service.resolve zlib files submission descriptor).2
  | .finishDecode key => service.finishDecode zlib files key

theorem packInUse_finishDecode (key : Path) :
    PackInUse zlib directory machineId written (service.finishDecode zlib files key) := by
  apply packInUse_decodes huse
  intro entry hentry
  obtain ⟨old, hold, rfl⟩ := List.mem_map.mp hentry
  obtain ⟨descriptor, last, hlast, hkey, hpath, hgeneration, htrue⟩ := huse.decodes old hold
  split_ifs with hchosen
  · refine ⟨descriptor, last, hlast, hkey, hpath, hgeneration, fun decoded hdecoded => ?_⟩
    have hfile := Option.some.inj hdecoded
    rw [hpath] at hfile
    obtain ⟨hok, herror⟩ := decodeFile_captured h hlast
    by_cases hload : Loadable zlib last
    · rw [hok hload] at hfile
      exact ⟨hload, (Except.ok.inj hfile).symm⟩
    · obtain ⟨error, hfailed⟩ := herror hload
      rw [hfailed] at hfile
      cases hfile
  · exact ⟨descriptor, last, hlast, hkey, hpath, hgeneration, htrue⟩

theorem packInUse_use (action : ServiceUse) :
    PackInUse zlib directory machineId written (service.use zlib files action)
      ∧ (service.use zlib files action).imageDecoder = service.imageDecoder := by
  cases action with
  | resolve descriptor submission => exact packInUse_resolve h huse descriptor submission
  | finishDecode key => exact ⟨packInUse_finishDecode h huse key, rfl⟩

theorem packInUse_uses (uses : List ServiceUse) :
    PackInUse zlib directory machineId written
        (uses.foldl (VisualOverrideService.use zlib files) service)
      ∧ (uses.foldl (VisualOverrideService.use zlib files) service).imageDecoder
        = service.imageDecoder := by
  induction uses generalizing service with
  | nil => exact ⟨huse, rfl⟩
  | cons action uses ih =>
    obtain ⟨hstep, hlane⟩ := packInUse_use h huse action
    obtain ⟨hrun, hrest⟩ := ih hstep
    exact ⟨hrun, hrest.trans hlane⟩

/-- A decode under way puts the picture of a loadable file at hand when it finishes. -/
theorem atHand_finishDecode
    (hlast : lastPicture written descriptor = some last) (hload : Loadable zlib last)
    {pending : PendingImageDecode}
    (hpending : service.pendingImageDecodes.lookup (pictureKey directory descriptor) = some pending)
    (hrunning : pending.result = none) :
    AtHand (service.finishDecode zlib files (pictureKey directory descriptor))
      (pictureKey directory descriptor) := by
  obtain ⟨owner, other, hother, hkey, hpath, _, _⟩ := huse.decodes _ (mem_of_lookup hpending)
  have hsame := lexicallyNormal_captureFilePath_inj hkey
  have hdecoded := (decodeFile_captured h hlast).1 hload
  apply Or.inr
  refine ⟨{ pending with result := some (.ok (decodedPicture last)) }, decodedPicture last, ?_, rfl⟩
  obtain ⟨front, back, heq, hfront⟩ := List.lookup_eq_some_iff.mp hpending
  unfold VisualOverrideService.finishDecode
  apply List.lookup_eq_some_iff.mpr
  rw [heq, List.map_append, List.map_cons,
    if_pos ⟨rfl, show pending.result.isNone = true by rw [hrunning]; rfl⟩]
  dsimp only
  rw [hpath, ← captureFilePath_congr hsame, hdecoded]
  refine ⟨_, _, rfl, fun entry hentry => ?_⟩
  obtain ⟨old, hold, rfl⟩ := List.mem_map.mp hentry
  have hne := hfront old hold
  split_ifs
  · exact hne
  · exact hne

end

end

/-! ## The pack of a session -/

def loadCapture (session : CaptureSession) (directory : Path) (imageDecoder : Bool) :
    Bool × VisualOverrideService :=
  ({ imageDecoder := imageDecoder } : VisualOverrideService).loadPackManifest session.files
    (packPath directory)

/-- Whether the manifest of a session keeps to what the loader accepts: its size, a named machine
and the number of its rules. -/
def Acceptable (machineId : Text) (written : List DecodedVisualResource) : Prop :=
  (rulesText machineId (written.map captureEntry) false).length ≤ kMaxManifestBytes
    ∧ machineId ≠ [] ∧ written.length ≤ kMaxManifestRules

/-- The load of a session's pack: accepted within the limits, and then all that the service holds. -/
theorem loadCapture_cases {zlib : Zlib} {directory : Path} {machineId : Text}
    {session : CaptureSession}
    (h : CaptureResult zlib directory machineId session.written session.files)
    (imageDecoder : Bool) :
    ((loadCapture session directory imageDecoder).1 = true
        ↔ Acceptable machineId session.written)
      ∧ ((loadCapture session directory imageDecoder).1 = true →
        PackInUse zlib directory machineId session.written
            (loadCapture session directory imageDecoder).2
          ∧ (loadCapture session directory imageDecoder).2.imageDecoder = imageDecoder
          ∧ (loadCapture session directory imageDecoder).2.resolvedCache = []) := by
  have hmanifest := loadVisualPackManifest_written h.manifest (captured_entries h)
  rw [List.length_map] at hmanifest
  unfold loadCapture VisualOverrideService.loadPackManifest
  dsimp only
  rw [hmanifest]
  by_cases haccept : Acceptable machineId session.written
  · have hlimits := haccept
    unfold Acceptable at hlimits
    rw [if_pos hlimits]
    refine ⟨iff_of_true rfl haccept, fun _ => ⟨⟨rfl, rfl, ?_, ?_, rfl, ?_⟩, rfl, rfl⟩⟩
    · exact fun entry hentry => absurd hentry List.not_mem_nil
    · exact fun entry hentry => absurd hentry List.not_mem_nil
    · exact fun entry hentry => absurd hentry List.not_mem_nil
  · have hlimits := haccept
    unfold Acceptable at hlimits
    rw [if_neg hlimits]
    exact ⟨iff_of_false Bool.false_ne_true haccept, fun haccepted => absurd haccepted nofun⟩

def resolvedPicture (zlib : Zlib) (session : CaptureSession) (submission : Submission)
    (service : VisualOverrideService) (resource : DecodedVisualResource) :
    Option ResolvedVisualOverride :=
  (service.resolve zlib session.files submission resource.descriptor).1

def afterUses (zlib : Zlib) (session : CaptureSession) (service : VisualOverrideService)
    (uses : List ServiceUse) : VisualOverrideService :=
  uses.foldl (VisualOverrideService.use zlib session.files) service

/-- The promise for one captured resource, in a service that has loaded the pack: with decodes in
the caller exactly the resolvable ones answer with their picture at once; whatever was asked
before, a resolvable one answers with its picture or, while that is still to be decoded in the
background, not at all. -/
def AnswersCapture (zlib : Zlib) (session : CaptureSession) (directory : Path) (machineId : Text)
    (imageDecoder : Bool) (loaded : VisualOverrideService) (resource : DecodedVisualResource) :
    Prop :=
  (∀ submission, imageDecoder = false →
      (resolvedPicture zlib session submission loaded resource
          = some (capturedOverride machineId directory resource)
        ↔ Resolvable zlib machineId session.written resource))
    ∧ (Resolvable zlib machineId session.written resource →
      ∀ uses submission,
        (resolvedPicture zlib session submission (afterUses zlib session loaded uses) resource
            = some (capturedOverride machineId directory resource)
          ∨ imageDecoder = true
            ∧ ¬ AtHand (afterUses zlib session loaded uses)
                (pictureKey directory resource.descriptor)
            ∧ resolvedPicture zlib session submission (afterUses zlib session loaded uses) resource
                = none)
        ∧ ∀ pending,
          (afterUses zlib session loaded uses).pendingImageDecodes.lookup
              (pictureKey directory resource.descriptor) = some pending →
          pending.result = none →
          resolvedPicture zlib session submission
              (afterUses zlib session loaded
                (uses ++ [.finishDecode (pictureKey directory resource.descriptor)])) resource
            = some (capturedOverride machineId directory resource))

theorem answersCapture {zlib : Zlib} {directory : Path} {machineId : Text}
    {session : CaptureSession}
    (h : CaptureResult zlib directory machineId session.written session.files)
    {loaded : VisualOverrideService}
    (huse : PackInUse zlib directory machineId session.written loaded) {imageDecoder : Bool}
    (hdecoder : loaded.imageDecoder = imageDecoder)
    (hfresh : loaded.resolvedCache = []) {resource : DecodedVisualResource}
    (hresource : resource ∈ session.written) :
    AnswersCapture zlib session directory machineId imageDecoder loaded resource := by
  subst hdecoder
  refine ⟨fun submission hlane => ⟨?_, ?_⟩, ?_⟩
  · exact resolvable_of_resolve h huse hfresh submission
  · intro hresolvable
    exact (resolve_resolvable h huse hresource hresolvable submission).2 (.inl hlane)
  · intro hresolvable uses submission
    obtain ⟨hstate, hlane⟩ := packInUse_uses h huse uses
    obtain ⟨hanswer, hhand⟩ := resolve_resolvable h hstate hresource hresolvable submission
    constructor
    · rcases hanswer with hnone | hpicture
      · refine .inr ⟨?_, ?_, hnone⟩
        · by_contra hsync
          rw [← hlane, Bool.not_eq_true] at hsync
          exact absurd (hnone.symm.trans (hhand (.inl hsync))) nofun
        · intro hready
          exact absurd (hnone.symm.trans (hhand (.inr hready))) nofun
      · exact .inl hpicture
    · intro pending hpending hrunning
      obtain ⟨_, _, last, hlast, _, hload⟩ := id hresolvable
      have hready := atHand_finishDecode h hstate hlast hload hpending hrunning
      have hfinished := packInUse_finishDecode h hstate (pictureKey directory resource.descriptor)
      unfold resolvedPicture afterUses
      rw [List.foldl_append]
      exact (resolve_resolvable h hfinished hresource hresolvable submission).2 (.inr hready)

/-- The pack of every session is accepted within the loader's limits, and a service that holds it
answers for the captured resources as promised. -/
theorem captured_pack_resolves (zlib : Zlib) (background : Bool) (files : Files) (directory : Path)
    (machineId : Text) (steps : List CaptureStep) (imageDecoder : Bool) :
    ((loadCapture (captureSession zlib background files directory machineId steps) directory
          imageDecoder).1 = true
        ↔ Acceptable machineId
            (captureSession zlib background files directory machineId steps).written)
      ∧ ∀ resource ∈ (captureSession zlib background files directory machineId steps).written,
        Acceptable machineId
            (captureSession zlib background files directory machineId steps).written →
        AnswersCapture zlib (captureSession zlib background files directory machineId steps)
          directory machineId imageDecoder
          (loadCapture (captureSession zlib background files directory machineId steps) directory
            imageDecoder).2 resource := by
  have h := captureResult_captureSession zlib background files directory machineId steps
  obtain ⟨haccepted, hloaded⟩ := loadCapture_cases h imageDecoder
  refine ⟨haccepted, fun resource hresource haccept => ?_⟩
  obtain ⟨huse, hdecoder, hfresh⟩ := hloaded (haccepted.mpr haccept)
  exact answersCapture h huse hdecoder hfresh hresource

/-! ## One pixel -/

def whitePixel : Text := [0, 0xE0, 0xF8, 0xD0, 0xFF]

def packedWhitePixel : Text := [0x78, 0x01, 0x63, 0x78, 0xF0, 0xE3, 0xC2, 0x7F, 0x00, 0x09, 0x0C, 0x03, 0xA8]

/-- The compression library as it is on the picture of one white pixel. -/
def onePixelZlib : Zlib where
  compress2 raw := if raw = whitePixel then some packedWhitePixel else none
  uncompress room packed :=
    if packed = packedWhitePixel ∧ whitePixel.length ≤ room then some whitePixel else none
  crc32 data :=
    if data.length = 4 then 0xAE426082
    else if data.length = 17 then 0x1F15C489 else 0xA8608670
  compress2_ne_nil := by
    intro raw packed h
    split_ifs at h
    cases h
    exact List.cons_ne_nil _ _
  uncompress_compress2 := by
    intro raw packed h
    split_ifs at h with hraw
    cases h
    rw [hraw, if_pos ⟨rfl, le_rfl⟩]

/-- One white pixel of a machine, of some kind. -/
def onePixel (machineId : Text) (kind : VisualResourceKind) : DecodedVisualResource :=
  { descriptor :=
      { machineId := machineId, kind := kind, width := 1, height := 1, decodedFormat := .indexed2,
        contentHash := 0x4F1B }
    pixels := [0]
    stride := 1 }

def onePixelSession (machineId : Text) (kind : VisualResourceKind) : CaptureSession :=
  captureSession onePixelZlib false (fun _ => none) {} machineId
    [.observe (onePixel machineId kind) false]

theorem written_onePixelSession (machineId : Text) (kind : VisualResourceKind) :
    (onePixelSession machineId kind).written = [onePixel machineId kind] := rfl

theorem mem_onePixelSession (machineId : Text) (kind : VisualResourceKind) :
    onePixel machineId kind ∈ (onePixelSession machineId kind).written :=
  List.mem_singleton_self _

theorem acceptable_onePixelSession (kind : VisualResourceKind) :
    Acceptable (utf8 "gb") (onePixelSession (utf8 "gb") kind).written := by
  refine ⟨?_, ?_, ?_⟩
  · cases kind <;> decide +kernel
  · decide +kernel
  · exact Nat.le_of_ble_eq_true rfl

theorem loadable_onePixel (machineId : Text) (kind : VisualResourceKind) :
    Loadable onePixelZlib (onePixel machineId kind) := by
  refine ⟨show WithinLimits 1 1 by decide, fun file hfile => ?_⟩
  have hpng : decodedResourcePng onePixelZlib (onePixel machineId kind)
      = .ok (pngFile onePixelZlib 1 1 packedWhitePixel) := rfl
  rw [hpng] at hfile
  rw [← Except.ok.inj hfile]
  decide +kernel

/-- A capture of one tile is accepted, and the tile resolves to its picture at once. -/
theorem captured_pack_resolves_onePixel :
    (loadCapture (onePixelSession (utf8 "gb") .tile) {} false).1 = true
      ∧ resolvedPicture onePixelZlib (onePixelSession (utf8 "gb") .tile) .queued
          (loadCapture (onePixelSession (utf8 "gb") .tile) {} false).2 (onePixel (utf8 "gb") .tile)
        = some (capturedOverride (utf8 "gb") {} (onePixel (utf8 "gb") .tile)) := by
  have hresolvable : Resolvable onePixelZlib (utf8 "gb") (onePixelSession (utf8 "gb") .tile).written
      (onePixel (utf8 "gb") .tile) := by
    rw [written_onePixelSession]
    exact ⟨rfl, nofun, onePixel (utf8 "gb") .tile, rfl, rfl, loadable_onePixel (utf8 "gb") .tile⟩
  obtain ⟨haccepted, hanswers⟩ := captured_pack_resolves onePixelZlib false (fun _ => none) {}
    (utf8 "gb") [.observe (onePixel (utf8 "gb") .tile) false] false
  obtain ⟨hexact, _⟩ := hanswers (onePixel (utf8 "gb") .tile) (mem_onePixelSession _ _)
    (acceptable_onePixelSession .tile)
  exact ⟨haccepted.mpr (acceptable_onePixelSession .tile), (hexact .queued rfl).mpr hresolvable⟩

/-- A capture under an empty machine name is refused, and a captured resource of no known kind is
not resolved. -/
theorem captured_pack_not_resolved :
    (loadCapture (onePixelSession [] .tile) {} false).1 = false
      ∧ resolvedPicture onePixelZlib (onePixelSession (utf8 "gb") .unknown) .queued
          (loadCapture (onePixelSession (utf8 "gb") .unknown) {} false).2
          (onePixel (utf8 "gb") .unknown)
        ≠ some (capturedOverride (utf8 "gb") {} (onePixel (utf8 "gb") .unknown)) := by
  constructor
  · have h := captureResult_captureSession onePixelZlib false (fun _ => none) {} []
      [.observe (onePixel [] .tile) false]
    rw [← Bool.not_eq_true]
    intro haccepted
    exact ((loadCapture_cases h false).1.mp haccepted).2.1 rfl
  · have h := captureResult_captureSession onePixelZlib false (fun _ => none) {} (utf8 "gb")
      [.observe (onePixel (utf8 "gb") .unknown) false]
    obtain ⟨haccepted, hloaded⟩ := loadCapture_cases h false
    obtain ⟨huse, _, hfresh⟩ := hloaded (haccepted.mpr (acceptable_onePixelSession .unknown))
    intro hanswer
    exact (resolvable_of_resolve h huse hfresh .queued hanswer).2.1 rfl

end ProtoTime.Visual
