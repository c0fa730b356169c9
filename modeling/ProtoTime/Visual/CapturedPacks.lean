import Mathlib.Algebra.BigOperators.Group.List.Basic
import ProtoTime.Visual.CapturedRules
import ProtoTime.Visual.CapturePaths

/-!
A captured pack in use: what a service that holds only the pack of a capture session answers
for a captured resource, in every state that resolutions and finished decodes lead to.
-/
namespace ProtoTime.Visual

open Json VisualPackLimits

/-! ## Rules -/

theorem ruleMatches_capturedRule (order : ℕ) (entry : VisualCaptureEntry)
    (hhash : entry.descriptor.contentHash ≠ 0) :
    ruleMatches (capturedRule order entry) entry.descriptor = true := by
  simp [ruleMatches, capturedRule, capturedMatch, matchesText, matchesOption, matchesHash,
    matchesSize, hhash]

variable {descriptor : VisualResourceDescriptor}

theorem sameFile_of_ruleMatches {order : ℕ} {entry : VisualCaptureEntry}
    (hhash : entry.descriptor.contentHash ≠ 0)
    (hwidth : entry.descriptor.width ≠ 0) (hheight : entry.descriptor.height ≠ 0)
    (h : ruleMatches (capturedRule order entry) descriptor = true) :
    SameFile entry.descriptor descriptor := by
  simp only [ruleMatches, capturedRule, capturedMatch, matchesHash, matchesSize,
    Bool.and_eq_true, beq_iff_eq, Bool.or_eq_true, hhash, hwidth, hheight, false_or] at h
  exact ⟨by tauto, by tauto, by tauto, by tauto⟩

variable {pack : VisualPackManifest} {best : BestRule}

theorem considerRule_some
    {rule : VisualOverrideRule} {found : VisualOverrideRule × VisualPackManifest}
    (h : considerRule descriptor pack best rule = some found) :
    best = some found ∨ (found = (rule, pack) ∧ ruleMatches rule descriptor = true) := by
  unfold considerRule at h
  split_ifs at h with hbetter
  · simp only [Bool.and_eq_true] at hbetter
    exact .inr ⟨(Option.some.inj h).symm, hbetter.1⟩
  · exact .inl h

theorem foldl_considerRule_some
    {rules : List VisualOverrideRule}
    {found : VisualOverrideRule × VisualPackManifest}
    (h : rules.foldl (considerRule descriptor pack) best = some found) :
    best = some found ∨ (found.2 = pack ∧ found.1 ∈ rules ∧ ruleMatches found.1 descriptor = true) := by
  induction rules generalizing best with
  | nil => exact .inl h
  | cons rule rules ih =>
    rcases ih h with hbest | ⟨hpack, hmem, hmatches⟩
    · rcases considerRule_some hbest with hold | ⟨rfl, hmatches⟩
      · exact .inl hold
      · exact .inr ⟨rfl, List.mem_cons_self, hmatches⟩
    · exact .inr ⟨hpack, List.mem_cons_of_mem _ hmem, hmatches⟩

/-- There is a best rule where a rule matches. -/
theorem foldl_considerRule_isSome {rules : List VisualOverrideRule}
    (h : best.isSome = true ∨ ∃ rule ∈ rules, ruleMatches rule descriptor = true) :
    (rules.foldl (considerRule descriptor pack) best).isSome = true := by
  induction rules generalizing best with
  | nil =>
    rcases h with hbest | ⟨rule, hmem, _⟩
    · exact hbest
    · exact absurd hmem List.not_mem_nil
  | cons rule rules ih =>
    apply ih
    by_cases hmatches : ruleMatches rule descriptor = true
    · apply Or.inl
      unfold considerRule
      cases best with
      | none => simp [hmatches, replacesBest]
      | some found =>
        split_ifs
        · rfl
        · rfl
    · rcases h with hbest | ⟨other, hmem, hother⟩
      · apply Or.inl
        unfold considerRule
        simp [hmatches, hbest]
      · rcases List.mem_cons.mp hmem with rfl | hmem
        · exact absurd hother hmatches
        · exact .inr ⟨other, hmem, hother⟩

/-! ## The answer for a captured resource -/

def capturedResolved (machineId : Text) (directory : Path) (descriptor : VisualResourceDescriptor) :
    ResolvedPath :=
  { packId := utf8 "capture." ++ machineId, path := captureFilePath directory descriptor }

/-- The replacement of a captured resource by its own picture. -/
def capturedOverride (machineId : Text) (directory : Path) (resource : DecodedVisualResource) :
    ResolvedVisualOverride :=
  { mode := .replaceImage
    packId := utf8 "capture." ++ machineId
    assetPath := (captureFilePath directory resource.descriptor).string
    payload := .image (capturedPicture resource) }

variable {a b : VisualResourceDescriptor}

theorem captureFilePath_congr {directory : Path}
    (h : SameFile a b) : captureFilePath directory a = captureFilePath directory b :=
  captureFilePath_eq_iff.mpr h

variable {resource : DecodedVisualResource}

theorem decodedResourcePng_sizes {zlib : Zlib} {file : Text}
    (h : decodedResourcePng zlib resource = .ok file) :
    resource.descriptor.width ≠ 0 ∧ resource.descriptor.height ≠ 0 := by
  unfold decodedResourcePng at h
  dsimp only at h
  split_ifs at h with hzero
  simp only [not_or] at hzero
  exact ⟨hzero.1, hzero.2.1⟩

section
variable {zlib : Zlib} {directory : Path} {machineId : Text}
  {written : List DecodedVisualResource} {files : Files}

theorem captured_entries (h : CaptureResult zlib directory machineId written files) :
    ∀ entry ∈ written.map captureEntry, Captured entry := by
  intro entry hentry
  obtain ⟨resource, hresource, rfl⟩ := List.mem_map.mp hentry
  refine ⟨(h.hashes resource hresource).1, ?_⟩
  simp [captureEntry, captureRelativePath]

def sessionPack (directory : Path) (machineId : Text) (written : List DecodedVisualResource) :
    VisualPackManifest :=
  capturedPack (packPath directory).parent machineId (written.map captureEntry)

theorem resolvedPathOf_capturedRule (directory : Path) (machineId : Text)
    (entries : List VisualCaptureEntry) (order : ℕ) (resource : DecodedVisualResource) :
    resolvedPathOf (capturedRule order (captureEntry resource))
        (capturedPack (packPath directory).parent machineId entries)
      = capturedResolved machineId directory resource.descriptor := by
  have hpath := join_captureRelativePath directory resource.descriptor
  have himage : (captureRelativePath resource.descriptor).isEmpty = false := by
    simp [captureRelativePath]
  simp [resolvedPathOf, capturedRule, capturedMatch, captureEntry, capturedPack, capturedResolved,
    himage, hpath]

/-- What the best rule for a descriptor resolves to: nothing for another machine, else the file of
a captured resource that shares its name with the descriptor. -/
theorem bestRule_sessionPack (h : CaptureResult zlib directory machineId written files)
    {rule : VisualOverrideRule}
    (hbest : bestRule [sessionPack directory machineId written] descriptor = some (rule, pack)) :
    descriptor.machineId = machineId ∧ descriptor.kind ≠ .unknown
      ∧ (∃ resource ∈ written, SameFile resource.descriptor descriptor)
      ∧ resolvedPathOf rule pack = capturedResolved machineId directory descriptor := by
  change considerPack descriptor none (sessionPack directory machineId written) = _ at hbest
  unfold considerPack at hbest
  split_ifs at hbest with htarget
  have hmachine : descriptor.machineId = machineId := by
    simpa [targetsMachine, sessionPack, capturedPack] using htarget
  rcases foldl_considerRule_some hbest with hnone | ⟨hpack, hmem, hmatches⟩
  · cases hnone
  · obtain ⟨i, hi, hkind, hrule⟩ := mem_capturedRules.mp hmem
    have hlt : i < written.length := by simpa using hi
    rw [List.getElem_map] at hkind hrule
    have hresource : written[i] ∈ written := List.getElem_mem hlt
    obtain ⟨hhash, file, hfile⟩ := h.hashes written[i] hresource
    obtain ⟨hwidth, hheight⟩ := decodedResourcePng_sizes hfile
    dsimp only at hpack hrule
    rw [hrule] at hmatches
    have hsame : SameFile written[i].descriptor descriptor :=
      sameFile_of_ruleMatches hhash hwidth hheight hmatches
    refine ⟨hmachine, ?_, ⟨written[i], hresource, hsame⟩, ?_⟩
    · rw [← hsame.1]
      exact hkind
    · rw [hpack, hrule]
      unfold sessionPack
      rw [resolvedPathOf_capturedRule]
      unfold capturedResolved
      rw [captureFilePath_congr hsame]

/-- A captured resource of the session's machine and of a known kind has a best rule. -/
theorem bestRule_isSome (h : CaptureResult zlib directory machineId written files)
    (hresource : resource ∈ written) (hmachine : resource.descriptor.machineId = machineId)
    (hkind : resource.descriptor.kind ≠ .unknown) :
    (bestRule [sessionPack directory machineId written] resource.descriptor).isSome = true := by
  have htarget : targetsMachine (sessionPack directory machineId written)
      resource.descriptor.machineId = true := by
    simp [targetsMachine, sessionPack, capturedPack, hmachine]
  obtain ⟨i, hi, hget⟩ := List.mem_iff_getElem.mp hresource
  change (considerPack resource.descriptor none (sessionPack directory machineId written)).isSome = _
  unfold considerPack
  rw [if_pos htarget]
  apply foldl_considerRule_isSome
  apply Or.inr
  refine ⟨capturedRule i (captureEntry resource), ?_, ?_⟩
  · apply mem_capturedRules.mpr
    refine ⟨i, by simpa using hi, ?_, ?_⟩
    · rw [List.getElem_map, hget]
      exact hkind
    · rw [List.getElem_map, hget, Nat.zero_add]
  · exact ruleMatches_capturedRule i (captureEntry resource) (h.hashes resource hresource).1

end

/-! ## Pictures -/

theorem mem_of_lookup {α β : Type} [BEq α] [LawfulBEq α] {entries : List (α × β)} {key : α} {value : β}
    (h : entries.lookup key = some value) : (key, value) ∈ entries := by
  obtain ⟨front, back, heq, _⟩ := List.lookup_eq_some_iff.mp h
  rw [heq]
  simp

theorem sameFile_symm (h : SameFile a b) : SameFile b a :=
  ⟨h.1.symm, h.2.1.symm, h.2.2.1.symm, h.2.2.2.symm⟩

theorem sameFile_trans {c : VisualResourceDescriptor} (h : SameFile a b) (k : SameFile b c) :
    SameFile a c :=
  ⟨h.1.trans k.1, h.2.1.trans k.2.1, h.2.2.1.trans k.2.2.1, h.2.2.2.trans k.2.2.2⟩

theorem lastPicture_congr {written : List DecodedVisualResource}
    (h : SameFile a b) : lastPicture written a = lastPicture written b := by
  unfold lastPicture
  congr 1
  apply List.filter_congr
  intro resource _
  apply decide_eq_decide.mpr
  constructor
  · exact fun hsame => sameFile_trans hsame h
  · exact fun hsame => sameFile_trans hsame (sameFile_symm h)

/-- A picture that loading accepts: its size and the size of its file are within the limits. -/
def Loadable (zlib : Zlib) (resource : DecodedVisualResource) : Prop :=
  WithinLimits resource.descriptor.width resource.descriptor.height
    ∧ ∀ file, decodedResourcePng zlib resource = .ok file → file.length ≤ kMaxPngBytes

theorem capturedPicture_not_empty
    (hwidth : resource.descriptor.width ≠ 0) (hheight : resource.descriptor.height ≠ 0) :
    (capturedPicture resource).empty = false := by
  have hlength := length_resourceColors resource
  have hw : 0 < resource.descriptor.width.toNat :=
    Nat.pos_of_ne_zero fun hzero => hwidth (UInt32.toNat_inj.mp hzero)
  have hh : 0 < resource.descriptor.height.toNat :=
    Nat.pos_of_ne_zero fun hzero => hheight (UInt32.toNat_inj.mp hzero)
  have hcolors : resourceColors resource ≠ [] := by
    intro hnil
    rw [hnil] at hlength
    have := Nat.mul_pos hw hh
    simp only [List.length_nil] at hlength
    omega
  simp [VisualReplacementImage.empty, capturedPicture, hcolors, hwidth, hheight]

def imageBytes (resource : DecodedVisualResource) : ℕ :=
  resource.descriptor.width.toNat * resource.descriptor.height.toNat * 4

theorem imageBytes_le {zlib : Zlib}
    (h : Loadable zlib resource) : imageBytes resource ≤ kMaxReplacementCacheBytes := by
  obtain ⟨hw, hh, _⟩ := h.1
  have hmul := Nat.mul_le_mul hw hh
  unfold imageBytes
  unfold kMaxReplacementImageDimension at hmul
  unfold kMaxReplacementCacheBytes
  omega

def cachedBytes (cache : List (Path × CachedReplacementImage)) : ℕ :=
  (cache.map fun entry => entry.2.bytes).sum

theorem oldestEntry_mem {cache : List (Path × CachedReplacementImage)}
    {entry : Path × CachedReplacementImage} (h : oldestEntry cache = some entry) :
    entry ∈ cache := by
  induction cache with
  | nil => cases h
  | cons first cache ih =>
    unfold oldestEntry at h
    cases hrest : oldestEntry cache with
    | none =>
      rw [hrest] at h
      cases h
      exact List.mem_cons_self
    | some other =>
      rw [hrest] at h
      dsimp only at h
      split_ifs at h
      · cases h
        exact List.mem_cons_of_mem _ (ih hrest)
      · cases h
        exact List.mem_cons_self

theorem oldestEntry_isSome {cache : List (Path × CachedReplacementImage)} (h : cache ≠ []) :
    ∃ entry, oldestEntry cache = some entry := by
  cases cache with
  | nil => exact absurd rfl h
  | cons first cache =>
    unfold oldestEntry
    cases oldestEntry cache with
    | none => exact ⟨_, rfl⟩
    | some other =>
      dsimp only
      split_ifs
      · exact ⟨_, rfl⟩
      · exact ⟨_, rfl⟩

/-- Eviction makes room, and what stays in the cache was in it. -/
theorem evictLoop_spec (bytesNeeded : ℕ) (fuel : ℕ) (service : VisualOverrideService)
    (hbytes : service.imageCacheBytes = cachedBytes service.imageCache)
    (hfuel : service.imageCache.length ≤ fuel) :
    ∃ cache, VisualOverrideService.evictLoop bytesNeeded fuel service
        = (true, { service with imageCache := cache, imageCacheBytes := cachedBytes cache })
      ∧ ∀ entry ∈ cache, entry ∈ service.imageCache := by
  induction fuel generalizing service with
  | zero =>
    have hempty := List.eq_nil_of_length_eq_zero (Nat.le_zero.mp hfuel)
    rw [hempty] at hbytes
    refine ⟨service.imageCache, ?_, fun entry hentry => hentry⟩
    unfold VisualOverrideService.evictLoop
    rw [if_pos (by rw [hbytes]; simp [cachedBytes]), hempty]
    cases service
    simp_all
  | succ fuel ih =>
    unfold VisualOverrideService.evictLoop
    split_ifs with hroom
    · refine ⟨service.imageCache, ?_, fun entry hentry => hentry⟩
      rw [← hbytes]
    · have hne : service.imageCache ≠ [] := by
        intro hnil
        rw [hnil] at hbytes
        apply hroom
        rw [hbytes]
        simp [cachedBytes]
      obtain ⟨victim, hvictim⟩ := oldestEntry_isSome hne
      have hmem := oldestEntry_mem hvictim
      have hsum : victim.2.bytes + cachedBytes (service.imageCache.erase victim)
          = cachedBytes service.imageCache := by
        have hperm := (List.perm_cons_erase hmem).map fun entry => entry.2.bytes
        exact hperm.sum_eq.symm
      have hlength := List.length_erase_of_mem hmem
      obtain ⟨cache, hloop, hsubset⟩ := ih
        { service with
          imageCache := service.imageCache.erase victim
          imageCacheBytes := service.imageCacheBytes - victim.2.bytes }
        (by
          change service.imageCacheBytes - victim.2.bytes = cachedBytes (service.imageCache.erase victim)
          omega)
        (by
          change (service.imageCache.erase victim).length ≤ fuel
          omega)
      rw [hvictim]
      refine ⟨cache, hloop, fun entry hentry => ?_⟩
      exact List.mem_of_mem_erase (hsubset entry hentry)

theorem evictImageCacheFor_spec {bytesNeeded : ℕ} {service : VisualOverrideService}
    (hbytes : service.imageCacheBytes = cachedBytes service.imageCache)
    (hneeded : bytesNeeded ≤ kMaxReplacementCacheBytes) :
    ∃ cache, service.evictImageCacheFor bytesNeeded
        = (true, { service with imageCache := cache, imageCacheBytes := cachedBytes cache })
      ∧ ∀ entry ∈ cache, entry ∈ service.imageCache := by
  unfold VisualOverrideService.evictImageCacheFor
  rw [if_neg (by omega)]
  exact evictLoop_spec bytesNeeded _ service hbytes le_rfl

end ProtoTime.Visual
