import ProtoTime.Visual.CapturedManifests

/-!
What the loader makes of a written manifest: one rule for every captured resource of a known
kind, with the fields of its descriptor, and the limits under which the pack is accepted.
-/
namespace ProtoTime.Visual

open Json Numerals Layout VisualPackLimits

/-! ## Members -/

/-- The object that laid out members spell. -/
def objectOf (members : List (Text × Layout)) : JsonObject :=
  members.map fun member => (member.1, member.2.value)

variable {members : List (Text × Layout)}

theorem obj_value {gaps : Gaps}
    (h : (members.map Prod.fst).Nodup) : (Layout.obj gaps members).value = .object (objectOf members) := by
  rw [Layout.value, memberValues_eq_append (by simpa using h)]
  rfl

variable {key : Text}

theorem findMember_of_mem {value : Layout}
    (hkeys : (members.map Prod.fst).Nodup) (h : (key, value) ∈ members) :
    findMember (objectOf members) key = some value.value := by
  unfold findMember objectOf
  induction members with
  | nil => exact absurd h List.not_mem_nil
  | cons member members ih =>
    obtain ⟨first, layout⟩ := member
    rw [List.map_cons, List.nodup_cons] at hkeys
    rw [List.map_cons, List.lookup_cons]
    rcases List.mem_cons.mp h with heq | hmem
    · obtain ⟨rfl, rfl⟩ := Prod.mk.inj heq
      rw [beq_self_eq_true]
    · have hne : key ≠ first := by
        intro heq
        have hfirst := List.mem_map_of_mem (f := Prod.fst) hmem
        rw [← heq] at hkeys
        exact hkeys.1 hfirst
      rw [beq_eq_false_iff_ne.mpr hne]
      exact ih hkeys.2 hmem

theorem findMember_of_not_mem
    (h : key ∉ members.map Prod.fst) : findMember (objectOf members) key = none := by
  apply List.lookup_eq_none_iff.mpr
  intro entry hentry
  obtain ⟨member, hmember, rfl⟩ := List.mem_map.mp hentry
  have hne : key ≠ member.1 := by
    intro heq
    rw [heq] at h
    exact h (List.mem_map_of_mem hmember)
  simpa using hne

/-- A hash that was written is read. -/
theorem parseVisualHashString_prefixedHex {width n : ℕ} (h : n < 2 ^ 64) :
    parseVisualHashString (prefixedHex width n) = some (UInt64.ofNat n) := by
  have hdigits := paddedNumeral_lt (by decide : 1 < 16) width n
  have hprefixed : hexPrefixed (prefixedHex width n) = true := by
    unfold prefixedHex hexPrefixed
    simp
  have hskip : skipSpaces (prefixedHex width n) = prefixedHex width n :=
    skipSpaces_of_not_space (by decide) _
  have hsign : spanSign (prefixedHex width n) = (false, prefixedHex width n) := by
    unfold prefixedHex spanSign
    dsimp only
    rw [if_neg (by decide), if_neg (by decide)]
  have hspan : spanDigits 16 ((prefixedHex width n).drop 2)
      = (paddedNumeral 16 width n, []) := by
    have happend := spanDigits_append le_rfl hdigits (noDigit_nil 16)
    rwa [List.append_nil] at happend
  have hread : extractUnsigned 16 (prefixedHex width n) = some (UInt64.ofNat n, []) := by
    unfold extractUnsigned
    have hsmall : ¬ 2 ^ 64 ≤ n := by omega
    simp only [hskip, hsign, hprefixed, and_self, if_true, hspan, paddedNumeral_ne_nil,
      numeralValue_paddedNumeral, false_or, if_neg hsmall, Bool.false_eq_true, if_false]
  have hend : skipSpaces [] = [] := rfl
  unfold parseVisualHashString
  rw [if_pos hprefixed, hread]
  dsimp only
  rw [if_pos hend]

theorem truncateUInt32_natCast (value : UInt32) : truncateUInt32 (value.toNat : ℚ) = value := by
  unfold truncateUInt32
  rw [Int.floor_natCast, Int.toNat_natCast, UInt32.ofNat_toNat]

theorem jsonString_of_mem {value : Text}
    (hkeys : (members.map Prod.fst).Nodup) (h : (key, Layout.str value) ∈ members) :
    jsonString (objectOf members) key = some value := by
  unfold jsonString
  rw [findMember_of_mem hkeys h]
  rfl

theorem jsonString_of_not_mem
    (h : key ∉ members.map Prod.fst) : jsonString (objectOf members) key = none := by
  unfold jsonString
  rw [findMember_of_not_mem h]
  rfl

section

variable (hkeys : (members.map Prod.fst).Nodup)

include hkeys

theorem jsonHash_of_mem {hash : UInt64} (h : (key, Layout.str (toHexVisualHash hash)) ∈ members) :
    jsonHash (objectOf members) key = hash := by
  unfold jsonHash
  rw [jsonString_of_mem hkeys h, Option.bind_some, toHexVisualHash,
    parseVisualHashString_prefixedHex hash.toNat_lt, Option.getD_some, UInt64.ofNat_toNat]

theorem jsonUInt32_of_mem {value : UInt32} (h : (key, Layout.num value) ∈ members) :
    jsonUInt32 (objectOf members) key = some value := by
  have hnonneg : ¬ (value.toNat : ℚ) < 0 := not_lt.mpr (Nat.cast_nonneg _)
  unfold jsonUInt32
  rw [findMember_of_mem hkeys h]
  simp only [Layout.value, Option.bind_some, JsonValue.number?, Option.bind_eq_bind, if_neg hnonneg,
    truncateUInt32_natCast]

theorem jsonFlexibleUInt32_of_num {value : UInt32} (h : (key, Layout.num value) ∈ members) :
    jsonFlexibleUInt32 (objectOf members) key = some value := by
  have hrange : (0 : ℚ) ≤ value.toNat ∧ (value.toNat : ℚ) ≤ uint32Max := by
    have hle : value.toNat ≤ uint32Max := Nat.le_sub_one_of_lt value.toNat_lt
    exact ⟨Nat.cast_nonneg _, by exact_mod_cast hle⟩
  unfold jsonFlexibleUInt32
  rw [findMember_of_mem hkeys h, Option.bind_some, Layout.value, jsonFlexibleColor, if_pos hrange,
    truncateUInt32_natCast]

theorem jsonFlexibleUInt32_of_hex {value : UInt32} {width : ℕ}
    (h : (key, Layout.str (fixedHex value width)) ∈ members) :
    jsonFlexibleUInt32 (objectOf members) key = some value := by
  have hlt := value.toNat_lt
  have hsize : value.toNat < 2 ^ 64 := by omega
  have hnat : (UInt64.ofNat value.toNat).toNat = value.toNat := UInt64.toNat_ofNat_of_lt' hsize
  have hle : (UInt64.ofNat value.toNat).toNat ≤ uint32Max := by
    rw [hnat]
    exact Nat.le_sub_one_of_lt hlt
  have hback : (UInt64.ofNat value.toNat).toUInt32 = value := by
    apply UInt32.toNat_inj.mp
    rw [UInt64.toNat_toUInt32, hnat]
    exact Nat.mod_eq_of_lt hlt
  unfold jsonFlexibleUInt32
  rw [findMember_of_mem hkeys h, Option.bind_some, Layout.value, jsonFlexibleColor, fixedHex,
    parseVisualHashString_prefixedHex hsize]
  dsimp only
  rw [if_pos hle, hback]

/-! ## Rules -/

end

def matchKeys : List Text :=
  [utf8 "kind", utf8 "semanticLabel", utf8 "sourceHash", utf8 "sourceBank", utf8 "sourceAddress",
    utf8 "tileIndex", utf8 "paletteRegister", utf8 "paletteValue", utf8 "decodedHash",
    utf8 "paletteHash", utf8 "paletteAwareHash", utf8 "width", utf8 "height"]

theorem matchKeys_distinct : matchKeys.Nodup ∧ utf8 "semanticLabel" ∉ matchKeys.eraseIdx 1 ∧
    (∀ key ∈ [utf8 "machineId", utf8 "machine", utf8 "decodedFormat"], key ∉ matchKeys) ∧
    (∀ key ∈ [utf8 "layers", utf8 "animation", utf8 "effects", utf8 "script", utf8 "palette",
      utf8 "slicing", utf8 "transform", utf8 "scalePolicy", utf8 "filterPolicy", utf8 "anchor"],
      key ≠ utf8 "image") ∧
    [utf8 "match", utf8 "replace"].Nodup ∧
    [utf8 "schemaVersion", utf8 "id", utf8 "name", utf8 "targets", utf8 "rules"].Nodup ∧
    (∀ key ∈ [utf8 "target", utf8 "priority"],
      key ∉ [utf8 "schemaVersion", utf8 "id", utf8 "name", utf8 "targets", utf8 "rules"]) ∧
    utf8 "capture." ≠ [] ∧ visualPixelFormatFromString [] = .unknown := by
  decide

variable (entry : VisualCaptureEntry)

theorem nodup_matchMembers : ((matchMembers entry).map Prod.fst).Nodup := by
  unfold matchMembers labelMember
  split_ifs
  · change (matchKeys.eraseIdx 1).Nodup
    exact matchKeys_distinct.1.sublist (List.eraseIdx_sublist _ _)
  · exact matchKeys_distinct.1

theorem mem_matchKeys {entry : VisualCaptureEntry}
    (h : key ∈ (matchMembers entry).map Prod.fst) : key ∈ matchKeys := by
  unfold matchMembers labelMember hashMembers at h
  unfold matchKeys
  split_ifs at h
  · simp only [List.nil_append, List.map_cons, List.map_nil, List.mem_cons] at h ⊢
    tauto
  · simpa using h

def matchObject : JsonObject := objectOf (matchMembers entry)

theorem absent_match (h : key ∉ matchKeys) (entry : VisualCaptureEntry) :
    findMember (matchObject entry) key = none :=
  findMember_of_not_mem fun hmem => h (mem_matchKeys hmem)

theorem jsonString_absent_match (h : key ∉ matchKeys) (entry : VisualCaptureEntry) :
    jsonString (matchObject entry) key = none := by
  unfold jsonString
  rw [absent_match h entry]
  rfl

theorem mem_matchMembers_of_hash {entry : VisualCaptureEntry} {member : Text × Layout}
    (h : member ∈ hashMembers entry) : member ∈ matchMembers entry := by
  apply List.mem_cons_of_mem
  exact List.mem_append_right _ h

theorem semanticLabel_matchObject :
    (jsonString (matchObject entry) (utf8 "semanticLabel")).getD [] = entry.descriptor.source.label := by
  by_cases hempty : entry.descriptor.source.label = []
  · have habsent : utf8 "semanticLabel" ∉ (matchMembers entry).map Prod.fst := by
      unfold matchMembers labelMember
      rw [if_pos hempty]
      exact matchKeys_distinct.2.1
    rw [matchObject, jsonString_of_not_mem habsent, hempty]
    rfl
  · have hmem : (utf8 "semanticLabel", Layout.str entry.descriptor.source.label)
        ∈ matchMembers entry := by
      unfold matchMembers labelMember
      rw [if_neg hempty]
      simp
    rw [matchObject, jsonString_of_mem (nodup_matchMembers entry) hmem]
    rfl

/-- The rule of a captured resource, but for what it replaces. -/
def capturedMatch (order : ℕ) (descriptor : VisualResourceDescriptor) : VisualOverrideRule :=
  { order := order
    semanticLabel := descriptor.source.label
    kind := descriptor.kind
    sourceHash := descriptor.sourceHash
    decodedHash := descriptor.contentHash
    paletteHash := descriptor.paletteHash
    paletteAwareHash := descriptor.paletteAwareHash
    width := descriptor.width
    height := descriptor.height
    sourceBank := some descriptor.source.bank
    sourceAddress := some descriptor.source.address
    sourceIndex := some descriptor.source.index
    paletteRegister := descriptor.source.paletteRegister
    paletteValue := some descriptor.source.paletteValue }

theorem matchedRule_matchObject (order : ℕ) (entry : VisualCaptureEntry) :
    matchedRule order (matchObject entry) = capturedMatch order entry.descriptor := by
  have hkeys := nodup_matchMembers entry
  obtain ⟨_, _, habsent, _, _, _, _, _, hunknown⟩ := matchKeys_distinct
  have hmachineId := habsent (utf8 "machineId") (by simp)
  have hmachine := habsent (utf8 "machine") (by simp)
  have hformat := habsent (utf8 "decodedFormat") (by simp)
  have hkind : (utf8 "kind", Layout.str (visualResourceKindName entry.descriptor.kind))
      ∈ matchMembers entry := List.mem_cons_self
  have hmember {key : Text} {value : Layout} (h : (key, value) ∈ hashMembers entry) :
      (key, value) ∈ matchMembers entry := mem_matchMembers_of_hash h
  have hsourceHash : jsonHash (matchObject entry) (utf8 "sourceHash")
      = entry.descriptor.sourceHash := jsonHash_of_mem hkeys (hmember (by simp [hashMembers]))
  have hdecodedHash : jsonHash (matchObject entry) (utf8 "decodedHash")
      = entry.descriptor.contentHash := jsonHash_of_mem hkeys (hmember (by simp [hashMembers]))
  have hpaletteHash : jsonHash (matchObject entry) (utf8 "paletteHash")
      = entry.descriptor.paletteHash := jsonHash_of_mem hkeys (hmember (by simp [hashMembers]))
  have hawareHash : jsonHash (matchObject entry) (utf8 "paletteAwareHash")
      = entry.descriptor.paletteAwareHash := jsonHash_of_mem hkeys (hmember (by simp [hashMembers]))
  have hwidth : jsonUInt32 (matchObject entry) (utf8 "width") = some entry.descriptor.width :=
    jsonUInt32_of_mem hkeys (hmember (by simp [hashMembers]))
  have hheight : jsonUInt32 (matchObject entry) (utf8 "height") = some entry.descriptor.height :=
    jsonUInt32_of_mem hkeys (hmember (by simp [hashMembers]))
  have hbank : jsonFlexibleUInt32 (matchObject entry) (utf8 "sourceBank")
      = some entry.descriptor.source.bank :=
    jsonFlexibleUInt32_of_num hkeys (hmember (by simp [hashMembers]))
  have hindex : jsonFlexibleUInt32 (matchObject entry) (utf8 "tileIndex")
      = some entry.descriptor.source.index :=
    jsonFlexibleUInt32_of_num hkeys (hmember (by simp [hashMembers]))
  have haddress : jsonFlexibleUInt32 (matchObject entry) (utf8 "sourceAddress")
      = some entry.descriptor.source.address :=
    jsonFlexibleUInt32_of_hex hkeys
      (hmember (show (_, Layout.str (fixedHex entry.descriptor.source.address 4)) ∈ _ by
        simp [hashMembers]))
  have hvalue : jsonFlexibleUInt32 (matchObject entry) (utf8 "paletteValue")
      = some entry.descriptor.source.paletteValue :=
    jsonFlexibleUInt32_of_hex hkeys
      (hmember (show (_, Layout.str (fixedHex entry.descriptor.source.paletteValue 2)) ∈ _ by
        simp [hashMembers]))
  have hregister : jsonString (matchObject entry) (utf8 "paletteRegister")
      = some entry.descriptor.source.paletteRegister :=
    jsonString_of_mem hkeys (hmember (by simp [hashMembers]))
  have hkindText : jsonString (matchObject entry) (utf8 "kind")
      = some (visualResourceKindName entry.descriptor.kind) := jsonString_of_mem hkeys hkind
  unfold matchedRule capturedMatch
  simp only [jsonString_absent_match hmachineId, jsonString_absent_match hmachine,
    jsonString_absent_match hformat, semanticLabel_matchObject, hsourceHash, hdecodedHash,
    hpaletteHash, hawareHash, hwidth, hheight, hbank, hindex, haddress, hvalue, hregister, hkindText,
    Option.getD_none, Option.getD_some, Option.some_or, if_true, hunknown,
    visualResourceKindFromString_name]

def capturedRule (order : ℕ) (entry : VisualCaptureEntry) : VisualOverrideRule :=
  let rule := { capturedMatch order entry.descriptor with image := entry.imagePath }
  { rule with specificity := ruleSpecificity rule }

def replaceObject : JsonObject :=
  objectOf [(utf8 "image", .str entry.imagePath)]

theorem absent_replace (h : key ≠ utf8 "image") (entry : VisualCaptureEntry) :
    findMember (replaceObject entry) key = none :=
  findMember_of_not_mem (by simpa using h)

theorem jsonString_absent_replace (h : key ≠ utf8 "image")
    (entry : VisualCaptureEntry) : jsonString (replaceObject entry) key = none := by
  unfold jsonString
  rw [absent_replace h entry]
  rfl

/-- A captured resource with a hash and a picture becomes a rule, unless its kind is unknown. -/
theorem readRule_written (order : ℕ) {entry : VisualCaptureEntry}
    (hhash : entry.descriptor.contentHash ≠ 0) (himage : entry.imagePath ≠ []) :
    readRule order (matchObject entry) (replaceObject entry)
      = if entry.descriptor.kind = .unknown then none else some (capturedRule order entry) := by
  have hother := matchKeys_distinct.2.2.2.1
  have hlayers := absent_replace (hother (utf8 "layers") (by simp)) entry
  have hanimation := absent_replace (hother (utf8 "animation") (by simp)) entry
  have heffects := absent_replace (hother (utf8 "effects") (by simp)) entry
  have hscript := absent_replace (hother (utf8 "script") (by simp)) entry
  have hpalette := absent_replace (hother (utf8 "palette") (by simp)) entry
  have hslicing := absent_replace (hother (utf8 "slicing") (by simp)) entry
  have htransform := absent_replace (hother (utf8 "transform") (by simp)) entry
  have hscale := jsonString_absent_replace (hother (utf8 "scalePolicy") (by simp)) entry
  have hfilter := jsonString_absent_replace (hother (utf8 "filterPolicy") (by simp)) entry
  have hanchor := jsonString_absent_replace (hother (utf8 "anchor") (by simp)) entry
  have himageText : jsonString (replaceObject entry) (utf8 "image") = some entry.imagePath :=
    jsonString_of_mem (by simp) (by simp)
  have hempty : entry.imagePath.isEmpty = false := by simpa using himage
  unfold readRule
  simp only [ruleAnimation, jsonEffects, jsonScript, effectList, jsonImageLayers, jsonPalette,
    jsonSlicing, jsonTransform, hlayers, hanimation, heffects, hscript, hpalette, hslicing,
    htransform, hscale, hfilter, hanchor, himageText, matchedRule_matchObject, Option.isSome_none,
    Bool.false_eq_true, if_false, Option.bind_eq_bind, Option.bind_some, Option.bind_none,
    Option.getD_none, Option.getD_some]
  by_cases hkind : entry.descriptor.kind = .unknown
  · rw [if_pos hkind, if_pos]
    simp [ruleInvalid, capturedMatch, hkind]
  · rw [if_neg hkind, if_neg]
    · rfl
    · simp [ruleInvalid, capturedMatch, hkind, hhash, hempty, hlayers, hanimation, hslicing,
        htransform]

theorem ruleParts_written :
    ruleParts (ruleLayout entry).value = some (matchObject entry, replaceObject entry) := by
  have hkeys : (List.map Prod.fst [(utf8 "match", matchLayout entry),
      (utf8 "replace", replaceLayout entry)]).Nodup := by
    exact matchKeys_distinct.2.2.2.2.1
  have hmatch := findMember_of_mem hkeys
    (show (utf8 "match", matchLayout entry) ∈ _ from List.mem_cons_self)
  have hreplace := findMember_of_mem hkeys
    (show (utf8 "replace", replaceLayout entry) ∈ _ from
      List.mem_cons_of_mem _ List.mem_cons_self)
  have hmatchValue : (matchLayout entry).value = .object (matchObject entry) :=
    obj_value (nodup_matchMembers entry)
  have hreplaceValue : (replaceLayout entry).value = .object (replaceObject entry) :=
    obj_value (by simp)
  unfold ruleParts ruleLayout
  rw [obj_value hkeys]
  simp only [JsonValue.object?, Option.bind_eq_bind, Option.bind_some, hmatch, hreplace,
    hmatchValue, hreplaceValue]

def capturedRules (order : ℕ) : List VisualCaptureEntry → List VisualOverrideRule
  | [] => []
  | entry :: entries =>
    (if entry.descriptor.kind = .unknown then [] else [capturedRule order entry])
      ++ capturedRules (order + 1) entries

variable {entries : List VisualCaptureEntry}

theorem mem_capturedRules {order : ℕ} {rule : VisualOverrideRule} :
    rule ∈ capturedRules order entries ↔
      ∃ i, ∃ h : i < entries.length, entries[i].descriptor.kind ≠ .unknown
        ∧ rule = capturedRule (order + i) entries[i] := by
  induction entries generalizing order with
  | nil => simp [capturedRules]
  | cons entry entries ih =>
    rw [capturedRules, List.mem_append, ih]
    constructor
    · rintro (hfirst | ⟨i, hi, hkind, rfl⟩)
      · split_ifs at hfirst with hkind
        · exact absurd hfirst List.not_mem_nil
        · exact ⟨0, by simp, hkind, List.mem_singleton.mp hfirst⟩
      · refine ⟨i + 1, by simpa using hi, hkind, ?_⟩
        rw [Nat.add_assoc, Nat.add_comm 1]
        rfl
    · rintro ⟨i, hi, hkind, rfl⟩
      cases i with
      | zero =>
        have hfirst : entry.descriptor.kind ≠ .unknown := hkind
        apply Or.inl
        rw [if_neg hfirst]
        exact List.mem_singleton_self _
      | succ i =>
        refine Or.inr ⟨i, by simpa using hi, hkind, ?_⟩
        rw [Nat.add_assoc, Nat.add_comm 1]
        rfl

/-- What a session may have captured: a hash and the path of a picture. -/
def Captured : Prop :=
  entry.descriptor.contentHash ≠ 0 ∧ entry.imagePath ≠ []

theorem foldl_loadRule_written (loop : RuleLoop) (h : ∀ entry ∈ entries, Captured entry) :
    ∃ skipped, (entries.map fun entry => (ruleLayout entry).value).foldl loadRule loop
      = { order := loop.order + entries.length
          rules := loop.rules ++ capturedRules loop.order entries
          invalidRulesSkipped := skipped } := by
  induction entries generalizing loop with
  | nil => exact ⟨loop.invalidRulesSkipped, by simp [capturedRules]⟩
  | cons entry entries ih =>
    obtain ⟨hhash, himage⟩ := h entry (by simp)
    have hread := readRule_written loop.order hhash himage
    have hlength : loop.order + 1 + entries.length = loop.order + (entries.length + 1) := by omega
    rw [List.map_cons, List.foldl_cons, loadRule, ruleParts_written]
    dsimp only
    rw [hread]
    by_cases hkind : entry.descriptor.kind = .unknown
    · rw [if_pos hkind]
      obtain ⟨skipped, hfold⟩ := ih
        { loop with order := loop.order + 1, invalidRulesSkipped := loop.invalidRulesSkipped + 1 }
        fun other hother => h other (by simp [hother])
      refine ⟨skipped, ?_⟩
      rw [hfold, capturedRules, if_pos hkind, List.nil_append, List.length_cons, hlength]
    · rw [if_neg hkind]
      obtain ⟨skipped, hfold⟩ := ih
        { loop with order := loop.order + 1, rules := loop.rules ++ [capturedRule loop.order entry] }
        fun other hother => h other (by simp [hother])
      refine ⟨skipped, ?_⟩
      dsimp only at hfold ⊢
      rw [hfold, capturedRules, if_neg hkind, List.append_assoc, List.length_cons, hlength]

/-! ## Packs -/

def capturedPack (directory : Path) (machineId : Text) (entries : List VisualCaptureEntry) :
    VisualPackManifest :=
  { id := utf8 "capture." ++ machineId
    name := utf8 "Captured " ++ machineId ++ utf8 " visual resources"
    target := machineId
    targets := [machineId]
    priority := 0
    root := directory
    rules := capturedRules 0 entries }

theorem nodup_packMembers (machineId : Text) (entries : List VisualCaptureEntry) :
    ((packMembers machineId entries).map Prod.fst).Nodup := by
  exact matchKeys_distinct.2.2.2.2.2.1

/-- The manifest of a session is accepted with a machine to target and no more rules than the
limit, and its pack is the session's. -/
theorem readManifest_written (directory : Path) (machineId : Text)
    (h : ∀ entry ∈ entries, Captured entry) :
    (readManifest directory (objectOf (packMembers machineId entries))).manifest
      = if machineId ≠ [] ∧ entries.length ≤ kMaxManifestRules then
        some (capturedPack directory machineId entries)
      else none := by
  have hkeys := nodup_packMembers machineId entries
  have habsent {key : Text} (hkey : key ∉ [utf8 "schemaVersion", utf8 "id", utf8 "name",
      utf8 "targets", utf8 "rules"]) :
      findMember (objectOf (packMembers machineId entries)) key = none :=
    findMember_of_not_mem hkey
  obtain ⟨_, _, _, _, _, _, hother, hcapture, _⟩ := matchKeys_distinct
  have htarget := habsent (hother (utf8 "target") (by simp))
  have hpriority := habsent (hother (utf8 "priority") (by simp))
  have hschema := findMember_of_mem hkeys
    (show (utf8 "schemaVersion", Layout.num 1) ∈ _ by simp [packMembers])
  have hid := jsonString_of_mem hkeys
    (show (utf8 "id", Layout.str (utf8 "capture." ++ machineId)) ∈ _ by simp [packMembers])
  have hname := jsonString_of_mem hkeys
    (show (utf8 "name", Layout.str (utf8 "Captured " ++ machineId ++ utf8 " visual resources")) ∈ _
      by simp [packMembers])
  have htargets := findMember_of_mem hkeys
    (show (utf8 "targets", Layout.arr noGaps [.str machineId]) ∈ _ by simp [packMembers])
  have hrules := findMember_of_mem hkeys
    (show (utf8 "rules", Layout.arr (lineGaps 4 2) (entries.map ruleLayout)) ∈ _ by
      simp [packMembers])
  have hversion : jsonUInt32Equals (objectOf (packMembers machineId entries))
      (utf8 "schemaVersion") kSupportedVisualPackSchemaVersion = true := by
    unfold jsonUInt32Equals
    rw [hschema]
    simp [Layout.value, JsonValue.number?, kSupportedVisualPackSchemaVersion]
  have hvalues : manifestRuleValues (objectOf (packMembers machineId entries))
      = entries.map fun entry => (ruleLayout entry).value := by
    unfold manifestRuleValues
    rw [hrules]
    simp [Layout.value, JsonValue.array?, itemValues_eq_map]
  have htargetTexts : manifestTargets (objectOf (packMembers machineId entries))
      = if machineId = [] then [] else [machineId] := by
    unfold manifestTargets jsonString
    rw [htarget, htargets]
    by_cases hempty : machineId = [] <;>
      simp [Layout.value, itemValues, JsonValue.array?, targetTexts, imagePathOf,
        JsonValue.string?, hempty]
  obtain ⟨skipped, hfold⟩ := foldl_loadRule_written {} h
  have hidNonempty : utf8 "capture." ++ machineId ≠ [] := by
    exact List.append_ne_nil_of_left_ne_nil hcapture _
  unfold readManifest jsonUInt32
  dsimp only
  rw [hversion, hvalues, hfold, htargetTexts, hid, hname, hpriority]
  simp only [Bool.not_true, Bool.false_eq_true, if_false, List.length_map, Option.getD_some,
    Option.bind_none, Option.bind_eq_bind, Option.getD_none, List.nil_append, hidNonempty, false_or]
  by_cases hcount : kMaxManifestRules < entries.length
  · rw [if_pos hcount, if_neg (by omega)]
  · rw [if_neg hcount]
    by_cases hempty : machineId = []
    · simp [hempty]
    · have hle : entries.length ≤ kMaxManifestRules := by omega
      simp [hempty, hle, capturedPack]

/-- A session's manifest on disk is accepted within the limits of the loader, and only there. -/
theorem loadVisualPackManifest_written {files : Files} {manifestPath : Path} {machineId : Text}
    (hfile : files manifestPath = some (rulesText machineId entries false))
    (h : ∀ entry ∈ entries, Captured entry) :
    (loadVisualPackManifest files manifestPath).manifest
      = if (rulesText machineId entries false).length ≤ kMaxManifestBytes ∧ machineId ≠ []
          ∧ entries.length ≤ kMaxManifestRules then
        some (capturedPack manifestPath.parent machineId entries)
      else none := by
  have hparse := parse_text (packLayout machineId entries)
    (by decide : [byte '\n'].all isSpace = true)
  rw [← rulesText_eq, packLayout, obj_value (nodup_packMembers machineId entries)] at hparse
  unfold loadVisualPackManifest
  rw [hfile]
  dsimp only
  by_cases hlarge : kMaxManifestBytes < (rulesText machineId entries false).length
  · rw [if_pos hlarge, if_neg (by omega)]
  · have hsmall : (rulesText machineId entries false).length ≤ kMaxManifestBytes := by omega
    rw [if_neg hlarge, hparse]
    simp only [Option.bind_some, JsonValue.object?, hsmall, true_and]
    exact readManifest_written manifestPath.parent machineId h

end ProtoTime.Visual
