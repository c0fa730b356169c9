import ProtoTime.Visual.CapturedManifests
import ProtoTime.Visual.VisualOverrideService

/-!
Whole capture sessions: whatever is observed, written in the caller or by workers in any order,
and polled, at the end the entries are the resources whose pictures were written, the manifest
lists the entries, and every picture file holds the picture last written under its name.
-/
namespace ProtoTime.Visual

open Json

/-! ## Names of files -/

/-- Whether two resources share the file of their picture. -/
def SameFile (a b : VisualResourceDescriptor) : Prop :=
  a.kind = b.kind ∧ a.contentHash = b.contentHash ∧ a.width = b.width ∧ a.height = b.height

instance (a b : VisualResourceDescriptor) : Decidable (SameFile a b) :=
  inferInstanceAs (Decidable (_ ∧ _ ∧ _ ∧ _))

theorem visualResourceKindName_injective {a b : VisualResourceKind}
    (h : visualResourceKindName a = visualResourceKindName b) : a = b := by
  rw [← visualResourceKindFromString_name a, h, visualResourceKindFromString_name]

theorem visualResourceKindName_ne_nil (kind : VisualResourceKind) :
    visualResourceKindName kind ≠ [] := by
  cases kind <;> decide

theorem all_isNumeric_dumpNat (n : ℕ) : (dumpNat n).all isNumeric = true :=
  dumpInt_numeric (.ofNat n)

theorem dumpNat_append_inj {m n : ℕ} {b : UInt8} (hb : isNumeric b = false) {r s : Text}
    (h : dumpNat m ++ b :: r = dumpNat n ++ b :: s) : m = n ∧ r = s := by
  obtain ⟨hnumber, hrest⟩ := numeric_append_inj (all_isNumeric_dumpNat m) (all_isNumeric_dumpNat n)
    (Json.closed_cons hb r) (Json.closed_cons hb s) h
  exact ⟨dumpNat_injective hnumber, (List.cons.inj hrest).2⟩

theorem captureFileName_injective {a b : VisualResourceDescriptor} (hkind : a.kind = b.kind)
    (h : captureFileName a = captureFileName b) : SameFile a b := by
  unfold captureFileName at h
  rw [hkind] at h
  simp only [List.append_assoc] at h
  have hafter := List.append_cancel_left (List.append_cancel_left h)
  have hlength : (toHexVisualHash a.contentHash).length = (toHexVisualHash b.contentHash).length := by
    rw [length_toHexVisualHash, length_toHexVisualHash]
  obtain ⟨hhash, hsize⟩ := List.append_inj hafter hlength
  obtain ⟨hwidth, hrest⟩ := dumpNat_append_inj (by decide) (List.cons.inj hsize).2
  have hheight := dumpNat_injective (List.append_cancel_right hrest)
  exact ⟨hkind, toHexVisualHash_injective hhash, UInt32.toNat_inj.mp hwidth,
    UInt32.toNat_inj.mp hheight⟩

variable (directory : Path)

theorem names_captureFilePath (descriptor : VisualResourceDescriptor) :
    (captureFilePath directory descriptor).names
      = directory.plainNames
        ++ [visualResourceKindName descriptor.kind, captureFileName descriptor] := by
  have hkind := visualResourceKindName_ne_nil descriptor.kind
  have hplain : directory.plainNames.filter (fun name => !name.isEmpty) = directory.plainNames := by
    unfold Path.plainNames
    simp
  change (directory.plainNames ++ [visualResourceKindName descriptor.kind]).filter
      (fun name => !name.isEmpty) ++ _ = _
  rw [List.filter_append, hplain]
  simp [hkind]

theorem captureFilePath_eq_iff {directory : Path} {a b : VisualResourceDescriptor} :
    captureFilePath directory a = captureFilePath directory b ↔ SameFile a b := by
  constructor
  · intro h
    have hnames := congrArg Path.names h
    rw [names_captureFilePath, names_captureFilePath] at hnames
    have hlast := List.append_cancel_left hnames
    simp only [List.cons.injEq, and_true] at hlast
    exact captureFileName_injective (visualResourceKindName_injective hlast.1) hlast.2
  · rintro ⟨hkind, hhash, hwidth, hheight⟩
    unfold captureFilePath captureFileName
    rw [hkind, hhash, hwidth, hheight]

theorem captureFilePath_ne_child (descriptor : VisualResourceDescriptor)
    (name : Text) : captureFilePath directory descriptor ≠ directory.child name := by
  intro h
  have hlength := congrArg (fun path => path.names.length) h
  simp [names_captureFilePath, Path.child, Path.join] at hlength

theorem child_injective {directory : Path} {a b : Text} (h : directory.child a = directory.child b) :
    a = b := by
  have hnames := congrArg Path.names h
  simpa using List.append_cancel_left hnames

variable (files : Files)

theorem write_same (path : Path) (content : Text) :
    files.write path content path = some content := by
  unfold Files.write
  rw [if_pos rfl]

theorem write_other {path other : Path} (h : other ≠ path) (content : Text) :
    files.write path content other = files other := by
  unfold Files.write
  rw [if_neg h]

theorem writeManifests_picture (machineId : Text)
    (entries : List VisualCaptureEntry) (descriptor : VisualResourceDescriptor) :
    writeManifests files directory machineId entries (captureFilePath directory descriptor)
      = files (captureFilePath directory descriptor) := by
  unfold writeManifests
  rw [write_other _ (captureFilePath_ne_child _ _ _), write_other _ (captureFilePath_ne_child _ _ _),
    write_other _ (captureFilePath_ne_child _ _ _)]

def packPath (directory : Path) : Path := directory.child (utf8 "pack.json")

theorem writeManifests_pack (machineId : Text) (entries : List VisualCaptureEntry) :
    writeManifests files directory machineId entries (packPath directory)
      = some (rulesText machineId entries false) := by
  have hmetadata : packPath directory ≠ directory.child (utf8 "capture_metadata.json") :=
    fun h => absurd (child_injective h) (by decide)
  have hstub : packPath directory ≠ directory.child (utf8 "manifest.stub.json") :=
    fun h => absurd (child_injective h) (by decide)
  unfold writeManifests
  rw [write_other _ hmetadata, write_other _ hstub]
  exact write_same _ _ _

/-! ## What a session has written -/

def captureEntry (resource : DecodedVisualResource) : VisualCaptureEntry :=
  ⟨resource.descriptor, captureRelativePath resource.descriptor⟩

def lastPicture (written : List DecodedVisualResource) (descriptor : VisualResourceDescriptor) :
    Option DecodedVisualResource :=
  (written.filter fun resource => SameFile resource.descriptor descriptor).getLast?

theorem lastPicture_append (written : List DecodedVisualResource) (resource : DecodedVisualResource)
    (descriptor : VisualResourceDescriptor) :
    lastPicture (written ++ [resource]) descriptor
      = if SameFile resource.descriptor descriptor then some resource
        else lastPicture written descriptor := by
  unfold lastPicture
  by_cases h : SameFile resource.descriptor descriptor
  · simp [h]
  · simp [h]

theorem mem_of_lastPicture {written : List DecodedVisualResource}
    {descriptor : VisualResourceDescriptor} {resource : DecodedVisualResource}
    (h : lastPicture written descriptor = some resource) :
    resource ∈ written ∧ SameFile resource.descriptor descriptor := by
  have hmem := List.mem_of_getLast? h
  simpa using hmem

theorem lastPicture_of_mem {written : List DecodedVisualResource} {resource : DecodedVisualResource}
    (h : resource ∈ written) : ∃ last, lastPicture written resource.descriptor = some last := by
  have hmem : resource ∈ written.filter
      fun other => SameFile other.descriptor resource.descriptor := by
    apply List.mem_filter.mpr
    refine ⟨h, ?_⟩
    simp [SameFile]
  cases hlast : lastPicture written resource.descriptor with
  | some last => exact ⟨last, rfl⟩
  | none =>
    rw [lastPicture, List.getLast?_eq_none_iff] at hlast
    rw [hlast] at hmem
    exact absurd hmem List.not_mem_nil

def completedEntries (completed : List CaptureCompletion) : List VisualCaptureEntry :=
  (completed.filter (·.success)).map fun completion =>
    ⟨completion.descriptor, completion.relativePath⟩

def WrittenResource (zlib : Zlib) (resource : DecodedVisualResource) : Prop :=
  resource.descriptor.contentHash ≠ 0 ∧ ∃ file, decodedResourcePng zlib resource = .ok file

/-- What holds of a session at any time: the entries and what waits to become one are the written
resources in order, each written resource has a hash and a file, every picture file holds the
last picture of its name, and a manifest that is not dirty lists the entries. -/
structure CaptureInvariant (zlib : Zlib) (directory : Path) (machineId : Text)
    (session : CaptureSession) : Prop where
  sameDirectory : session.captureDirectory = directory
  sameMachine : session.captureMachineId = machineId
  entries : session.captureEntries ++ completedEntries session.completed
    = session.written.map captureEntry
  hashes : ∀ resource ∈ session.written, WrittenResource zlib resource
  jobs : ∀ job ∈ session.pendingWrites, job.resource.descriptor.contentHash ≠ 0
  pictures : ∀ descriptor resource, lastPicture session.written descriptor = some resource →
    ∃ file, decodedResourcePng zlib resource = .ok file
      ∧ session.files (captureFilePath directory descriptor) = some file
  manifest : session.captureManifestDirty = false →
    session.files (packPath directory) = some (rulesText machineId session.captureEntries false)
  foreground : session.background = false →
    session.completed = [] ∧ session.pendingWrites = []

section
variable {zlib : Zlib} {directory : Path} {machineId : Text} {session : CaptureSession}

theorem captureInvariant_beginCapture (zlib : Zlib) (background : Bool) (files : Files)
    (directory : Path) (machineId : Text) :
    CaptureInvariant zlib directory machineId
      (CaptureSession.beginCapture background files directory machineId) where
  sameDirectory := rfl
  sameMachine := rfl
  entries := rfl
  hashes _ h := absurd h List.not_mem_nil
  jobs _ h := absurd h List.not_mem_nil
  pictures descriptor resource h := by cases h
  manifest _ := writeManifests_pack _ _ _ _
  foreground _ := ⟨rfl, rfl⟩

theorem pictures_putPicture (h : CaptureInvariant zlib directory machineId session)
    {resource : DecodedVisualResource} {file : Text}
    (hfile : decodedResourcePng zlib resource = .ok file) (descriptor : VisualResourceDescriptor)
    (last : DecodedVisualResource)
    (hlast : lastPicture (session.written ++ [resource]) descriptor = some last) :
    ∃ content, decodedResourcePng zlib last = .ok content
      ∧ session.files.write (captureFilePath directory resource.descriptor) file
          (captureFilePath directory descriptor) = some content := by
  rw [lastPicture_append] at hlast
  split_ifs at hlast with hsame
  · cases hlast
    refine ⟨file, hfile, ?_⟩
    rw [captureFilePath_eq_iff.mpr hsame]
    exact write_same _ _ _
  · obtain ⟨content, hcontent, hstored⟩ := h.pictures descriptor last hlast
    refine ⟨content, hcontent, ?_⟩
    rw [write_other]
    · exact hstored
    · intro heq
      exact hsame (captureFilePath_eq_iff.mp heq.symm)

theorem write_picture_pack (directory : Path) (descriptor : VisualResourceDescriptor)
    (file : Text) :
    files.write (captureFilePath directory descriptor) file (packPath directory)
      = files (packPath directory) :=
  write_other _ (Ne.symm (captureFilePath_ne_child _ _ _)) _

section

variable (h : CaptureInvariant zlib directory machineId session)

include h

theorem hashes_append
    {resource : DecodedVisualResource} {file : Text} (hhash : resource.descriptor.contentHash ≠ 0)
    (hfile : decodedResourcePng zlib resource = .ok file) :
    ∀ other ∈ session.written ++ [resource], WrittenResource zlib other := by
  intro other hother
  rcases List.mem_append.mp hother with hold | hnew
  · exact h.hashes other hold
  · rw [List.mem_singleton.mp hnew]
    exact ⟨hhash, file, hfile⟩

theorem captureInvariant_writeNow
    (hsync : session.background = false) {resource : DecodedVisualResource}
    (hhash : resource.descriptor.contentHash ≠ 0) :
    CaptureInvariant zlib directory machineId (session.writeNow zlib resource).2 := by
  obtain ⟨hdirectory, hmachine, hentries, hhashes, hjobs, hpictures, hmanifest, hforeground⟩ := h
  unfold CaptureSession.writeNow
  cases hfile : decodedResourcePng zlib resource with
  | error error =>
    exact ⟨hdirectory, hmachine, hentries, hhashes, hjobs, hpictures, hmanifest, hforeground⟩
  | ok file =>
    have hinvariant : CaptureInvariant zlib directory machineId session :=
      ⟨hdirectory, hmachine, hentries, hhashes, hjobs, hpictures, hmanifest, hforeground⟩
    have hcompleted := (hforeground hsync).1
    refine ⟨hdirectory, hmachine, ?_, hashes_append hinvariant hhash hfile, hjobs, ?_, ?_, hforeground⟩
    · rw [hcompleted] at hentries
      simp only [completedEntries, List.filter_nil, List.map_nil, List.append_nil] at hentries
      simp [CaptureSession.addEntry, CaptureSession.putPicture, completedEntries, hcompleted,
        hentries, captureEntry]
    · intro descriptor last hlast
      change ∃ content, _ ∧ session.files.write
        (captureFilePath session.captureDirectory resource.descriptor) file _ = _
      rw [hdirectory]
      exact pictures_putPicture hinvariant hfile descriptor last hlast
    · intro hclean
      cases hclean

theorem captureInvariant_observe (resource : DecodedVisualResource) (queued : Bool) :
    CaptureInvariant zlib directory machineId (session.observe zlib resource queued).2 := by
  unfold CaptureSession.observe
  dsimp only
  split_ifs with hignored hseen hbackground hqueued
  · exact h
  · exact h
  · have hhash : resource.descriptor.contentHash ≠ 0 := by
      intro hzero
      simp [hzero] at hignored
    obtain ⟨hdirectory, hmachine, hentries, hhashes, hjobs, hpictures, hmanifest, hforeground⟩ := h
    refine ⟨hdirectory, hmachine, hentries, hhashes, ?_, hpictures, hmanifest, ?_⟩
    · intro job hjob
      rcases List.mem_append.mp hjob with hold | hnew
      · exact hjobs job hold
      · rw [List.mem_singleton.mp hnew]
        exact hhash
    · intro hfalse
      rw [show session.background = true from hbackground] at hfalse
      cases hfalse
  · exact h
  · have hhash : resource.descriptor.contentHash ≠ 0 := by
      intro hzero
      simp [hzero] at hignored
    have hseen : CaptureInvariant zlib directory machineId
        { session with
          captureSeen := makeDescriptorKey resource.descriptor :: session.captureSeen } :=
      ⟨h.sameDirectory, h.sameMachine, h.entries, h.hashes, h.jobs, h.pictures, h.manifest,
        h.foreground⟩
    exact captureInvariant_writeNow hseen (Bool.eq_false_iff.mpr hbackground) hhash

end

theorem completedEntries_append (completed : List CaptureCompletion)
    (completion : CaptureCompletion) :
    completedEntries (completed ++ [completion]) = completedEntries completed
      ++ if completion.success then [⟨completion.descriptor, completion.relativePath⟩] else [] := by
  unfold completedEntries
  cases hsuccess : completion.success <;> simp [hsuccess]

theorem captureInvariant_work (h : CaptureInvariant zlib directory machineId session) (index : ℕ) :
    CaptureInvariant zlib directory machineId (session.work zlib index) := by
  unfold CaptureSession.work
  cases hjob : session.pendingWrites[index]? with
  | none => exact h
  | some job =>
    have hbackground : ¬ session.background = false := by
      intro hfalse
      rw [(h.foreground hfalse).2] at hjob
      cases hjob
    have hhash := h.jobs job (List.mem_of_getElem? hjob)
    have hjobs : ∀ other ∈ session.pendingWrites.eraseIdx index,
        other.resource.descriptor.contentHash ≠ 0 :=
      fun other hother => h.jobs other (List.mem_of_mem_eraseIdx hother)
    dsimp only
    cases hfile : decodedResourcePng zlib job.resource with
    | error error =>
      refine ⟨h.sameDirectory, h.sameMachine, ?_, h.hashes, hjobs, h.pictures, h.manifest,
        fun hfalse => absurd hfalse hbackground⟩
      rw [completedEntries_append]
      simpa using h.entries
    | ok file =>
      refine ⟨h.sameDirectory, h.sameMachine, ?_, hashes_append h hhash hfile, hjobs, ?_, ?_,
        fun hfalse => absurd hfalse hbackground⟩
      · have hentries := h.entries
        simp only [CaptureSession.putPicture, completedEntries_append, if_true, List.map_append,
          List.map_cons, List.map_nil, ← List.append_assoc, hentries, captureEntry]
      · intro descriptor last hlast
        rw [h.sameDirectory]
        exact pictures_putPicture h hfile descriptor last hlast
      · intro hclean
        change session.files.write
          (captureFilePath session.captureDirectory job.resource.descriptor) file _ = _
        rw [h.sameDirectory, write_picture_pack]
        exact h.manifest hclean

theorem foldl_takeCompletion (completed : List CaptureCompletion) (session : CaptureSession) :
    ∃ seen error, completed.foldl CaptureSession.takeCompletion session
      = { session with
          captureSeen := seen
          lastError := error
          captureEntries := session.captureEntries ++ completedEntries completed
          captureManifestDirty :=
            session.captureManifestDirty || !(completedEntries completed).isEmpty } := by
  induction completed generalizing session with
  | nil => exact ⟨session.captureSeen, session.lastError, by simp [completedEntries]⟩
  | cons completion completed ih =>
    obtain ⟨seen, error, hfold⟩ := ih (session.takeCompletion completion)
    refine ⟨seen, error, ?_⟩
    rw [List.foldl_cons, hfold]
    cases hsuccess : completion.success <;>
      simp [CaptureSession.takeCompletion, CaptureSession.addEntry, completedEntries, hsuccess]

section

variable (h : CaptureInvariant zlib directory machineId session)

include h

theorem captureInvariant_poll :
    CaptureInvariant zlib directory machineId session.pollBackgroundWork
      ∧ session.pollBackgroundWork.completed = [] := by
  obtain ⟨seen, error, hfold⟩ :=
    foldl_takeCompletion session.completed { session with completed := [] }
  unfold CaptureSession.pollBackgroundWork
  rw [hfold]
  refine ⟨⟨h.sameDirectory, h.sameMachine, ?_, h.hashes, h.jobs, h.pictures, ?_, ?_⟩, rfl⟩
  · simpa [completedEntries] using h.entries
  · intro hclean
    simp only [Bool.or_eq_false_iff, Bool.not_eq_false', List.isEmpty_iff] at hclean
    rw [hclean.2, List.append_nil]
    exact h.manifest hclean.1
  · intro hfalse
    exact ⟨rfl, (h.foreground hfalse).2⟩

theorem captureInvariant_writeCaptureManifest :
    CaptureInvariant zlib directory machineId session.writeCaptureManifest := by
  refine ⟨h.sameDirectory, h.sameMachine, h.entries, h.hashes, h.jobs, ?_, ?_, h.foreground⟩
  · intro descriptor last hlast
    obtain ⟨file, hfile, hstored⟩ := h.pictures descriptor last hlast
    refine ⟨file, hfile, ?_⟩
    change writeManifests session.files session.captureDirectory _ _ _ = _
    rw [h.sameDirectory, writeManifests_picture]
    exact hstored
  · intro _
    change writeManifests session.files session.captureDirectory session.captureMachineId _ _ = _
    rw [h.sameDirectory, h.sameMachine, writeManifests_pack]
    rfl

theorem captureInvariant_step
    (step : CaptureStep) : CaptureInvariant zlib directory machineId (session.step zlib step) := by
  cases step with
  | observe resource queued => exact captureInvariant_observe h resource queued
  | work index => exact captureInvariant_work h index
  | poll => exact (captureInvariant_poll h).1
  | stats =>
    change CaptureInvariant zlib directory machineId session.captureStats
    unfold CaptureSession.captureStats
    split_ifs
    · exact captureInvariant_writeCaptureManifest h
    · exact h

theorem captureInvariant_steps (steps : List CaptureStep) :
    CaptureInvariant zlib directory machineId
      (steps.foldl (CaptureSession.step zlib) session) := by
  induction steps generalizing session with
  | nil => exact h
  | cons step steps ih => exact ih (captureInvariant_step h step)

theorem captureInvariant_endCapture :
    CaptureInvariant zlib directory machineId session.endCapture
      ∧ session.endCapture.completed = [] ∧ session.endCapture.captureManifestDirty = false := by
  have hpolled : CaptureInvariant zlib directory machineId
      (if session.background then session.pollBackgroundWork else session)
        ∧ (if session.background then session.pollBackgroundWork else session).completed = [] := by
    split_ifs with hbackground
    · exact captureInvariant_poll h
    · exact ⟨h, (h.foreground (Bool.eq_false_iff.mpr hbackground)).1⟩
  unfold CaptureSession.endCapture
  dsimp only
  generalize (if session.background then session.pollBackgroundWork else session) = polled
    at hpolled
  obtain ⟨hpolled, hcompleted⟩ := hpolled
  cases hdirty : polled.captureManifestDirty with
  | true =>
    have hflushed := captureInvariant_writeCaptureManifest hpolled
    exact ⟨⟨hflushed.sameDirectory, hflushed.sameMachine, hflushed.entries, hflushed.hashes,
      hflushed.jobs, hflushed.pictures, hflushed.manifest, hflushed.foreground⟩, hcompleted, rfl⟩
  | false =>
    exact ⟨⟨hpolled.sameDirectory, hpolled.sameMachine, hpolled.entries, hpolled.hashes,
      hpolled.jobs, hpolled.pictures, hpolled.manifest, hpolled.foreground⟩, hcompleted, hdirty⟩

end

end

/-- What a whole session leaves behind: an entry for every written resource, the manifest of the
entries, and under every name the picture written last. -/
structure CaptureResult (zlib : Zlib) (directory : Path) (machineId : Text)
    (written : List DecodedVisualResource) (files : Files) : Prop where
  hashes : ∀ resource ∈ written, WrittenResource zlib resource
  pictures : ∀ descriptor resource, lastPicture written descriptor = some resource →
    ∃ file, decodedResourcePng zlib resource = .ok file
      ∧ files (captureFilePath directory descriptor) = some file
  manifest : files (packPath directory)
    = some (rulesText machineId (written.map captureEntry) false)

theorem captureResult_captureSession (zlib : Zlib) (background : Bool) (files : Files)
    (directory : Path) (machineId : Text) (steps : List CaptureStep) :
    CaptureResult zlib directory machineId
      (captureSession zlib background files directory machineId steps).written
      (captureSession zlib background files directory machineId steps).files := by
  obtain ⟨h, hcompleted, hclean⟩ := captureInvariant_endCapture
    (captureInvariant_steps
      (captureInvariant_beginCapture zlib background files directory machineId) steps)
  have hentries := h.entries
  rw [hcompleted] at hentries
  simp only [completedEntries, List.filter_nil, List.map_nil, List.append_nil] at hentries
  refine ⟨h.hashes, h.pictures, ?_⟩
  have hmanifest := h.manifest hclean
  rwa [hentries] at hmanifest

end ProtoTime.Visual
