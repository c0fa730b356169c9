import ProtoTime.Space.LedgerMerge

/-!
What a merge makes of a project: it fails and leaves the project as it is, or every
record of both sides is there, and the same document merged again changes nothing.
-/
namespace ProtoTime.Space

open Results FieldMerge ListMerge

/-! ## What a merge combines -/

def EntriesCombined (rule : Json → Option Json → Option Json → Prop)
    (incoming : List (String × Json)) (x y : Option Json) : Prop :=
  (∀ e ∈ incoming, rule e.2 (entry x e.1) (entry y e.1))
    ∧ ∀ key, key ∉ incoming.map Prod.fst → entry y key = entry x key

def ListsCombined (R : Json → Json → Bool) (incoming : List Json) (x y : Option Json) : Prop :=
  ∃ old new, listOf x = .ok old ∧ y = some (.arr new) ∧ Added R old incoming new

def RecordsCombined (refine' : Json → Json → Except String Json) (incoming : List Json)
    (x y : Option Json) : Prop :=
  ∃ old new, listOf x = .ok old ∧ y = some (.arr new) ∧ Joined recordId refine' old incoming new

section
variable (numbers : Json.NumberComparison)

/-- The incoming entry is there, and agrees with the one that was. -/
def MeaningCombined (v : Json) (x y : Option Json) : Prop :=
  y = some v ∧ ∀ old, x = some old → Json.same numbers old v = true

def InstructionCombined (v : Json) (x y : Option Json) : Prop := y = some (x.getD v)

def AnnotationsCombined (v : Json) : Option Json → Option Json → Prop :=
  ListsCombined (Json.same numbers) v.elements

def WindowsCombined (c : Json) (x y : Option Json) : Prop :=
  match x with
  | none => y = some c
  | some existing => ∃ out, y = some out
      ∧ (∀ key ∈ ["windows", "intentionalOmissions"],
        ListsCombined (Json.same numbers) (elementsAt key c) (existing.find? key) (out.find? key))
      ∧ ∀ key, key ∉ ["windows", "intentionalOmissions"] → out.find? key = existing.find? key

def LedgerCombined (q : Json) (x y : Option Json) : Prop :=
  match x with
  | none => y = some q
  | some p => ∃ out known incoming records, y = some out
      ∧ LedgerMerge numbers p q out known incoming records

/-- A part that the document may leave out, and then leaves alone. -/
def PartCombined (rule : Json → Option Json → Option Json → Prop) (part x y : Option Json) : Prop :=
  match part with
  | none => y = x
  | some v => rule v x y

/-- Every record of both sides is there, once for its identity, and no two of them conflict. -/
structure Combined (old j next : Json) : Prop where
  metadata : ∀ key ∈ ["symbolImports", "purposeClaims"],
    EntriesCombined (MeaningCombined numbers) (entriesAt key j) (old.find? key) (next.find? key)
  transfers : RecordsCombined (refineTransfer numbers) (elementsAt "transfers" j)
    (old.find? "transfers") (next.find? "transfers")
  boundaries : ListsCombined (Json.same numbers) (elementsAt "boundaries" j)
    (old.find? "boundaries") (next.find? "boundaries")
  instructions : EntriesCombined InstructionCombined (entriesAt "instructions" j)
    (old.find? "instructions") (next.find? "instructions")
  dependencies : RecordsCombined (refineEqual numbers "conflicting dependency evidence")
    (elementsAt "dependencies" j) (old.find? "dependencies") (next.find? "dependencies")
  evidence : ∀ key ∈ ["edges", "gaps", "inputs", "sessions"],
    ListsCombined sameText (elementsAt key j) (old.find? key) (next.find? key)
  annotations : EntriesCombined (AnnotationsCombined numbers) (entriesAt "annotations" j)
    (old.find? "annotations") (next.find? "annotations")
  captureWindows : PartCombined (WindowsCombined numbers) (j.find? "captureWindows")
    (old.find? "captureWindows") (next.find? "captureWindows")
  porting : PartCombined (LedgerCombined numbers) (j.find? "porting")
    (old.find? "porting") (next.find? "porting")
  others : ∀ key, key ∉ (mergeSteps numbers j).map Prod.fst → next.find? key = old.find? key

end

section
variable {numbers : Json.NumberComparison}

/-! ## Each rule combines -/

variable {r x : Option Json}

theorem mergeSet_combined {R : Json → Json → Bool} (hself : ∀ v, R v v = true)
    {incoming : List Json} (h : mergeSet R incoming x = .ok r) :
    ListsCombined R incoming x (r.or x) := by
  obtain ⟨xs, hxs, rfl⟩ := mergeSet_eq_ok h
  exact ⟨xs, addNew R xs incoming, hxs, rfl, addNew_added hself xs incoming⟩

theorem mergeRecords_combined {refine' : Json → Json → Except String Json} {incoming : List Json}
    (hkey : ∀ x v y, refine' x v = .ok y → recordId y = recordId x)
    (hnodup : (incoming.map recordId).Nodup) (h : mergeRecords refine' incoming x = .ok r) :
    RecordsCombined refine' incoming x (r.or x) := by
  obtain ⟨xs, ys, hxs, hys, rfl, _, _⟩ := mergeRecords_eq_ok h
  exact ⟨xs, ys, hxs, rfl, joinAll_joined hkey hnodup hys⟩

variable {f : Json → Option Json → Except String (Option Json)}

theorem mergeEntries_combined {rule : Json → Option Json → Option Json → Prop}
    (hrule : ∀ v x r, f v x = .ok r → rule v x (r.or x)) {incoming : List (String × Json)}
    (hnodup : (incoming.map Prod.fst).Nodup)
    (h : mergeEntries f incoming x = .ok r) : EntriesCombined rule incoming x (r.or x) := by
  obtain ⟨hentries, hothers⟩ := mergeEntries_eq_ok hnodup h
  refine ⟨?_, hothers⟩
  intro e he
  obtain ⟨q, hq, hentry⟩ := hentries e he
  rw [hentry]
  exact hrule e.2 (entry x e.1) q hq

theorem mergeMeaning_combined (v : Json) (x r : Option Json)
    (h : mergeMeaning numbers v x = .ok r) : MeaningCombined numbers v x (r.or x) := by
  obtain ⟨rfl, hsame⟩ := mergeMeaning_eq_ok h
  exact ⟨rfl, hsame⟩

theorem mergeInstruction_combined (v : Json) (x r : Option Json) (h : mergeInstruction v x = .ok r) :
    InstructionCombined v x (r.or x) := by
  cases x with
  | none =>
    cases h
    rfl
  | some old =>
    cases h
    rfl

theorem mergeAnnotations_combined (v : Json) (x r : Option Json)
    (h : mergeAnnotations numbers v x = .ok r) : AnnotationsCombined numbers v x (r.or x) :=
  mergeSet_combined (Json.same_self numbers) h

theorem mergeCaptureWindows_combined (c : Json) (x r : Option Json)
    (h : mergeCaptureWindows numbers c x = .ok r) : WindowsCombined numbers c x (r.or x) := by
  cases x with
  | none =>
    cases h
    rfl
  | some existing =>
    obtain ⟨out, hout, h⟩ := bind_eq_ok h
    cases h
    obtain ⟨hsteps, hothers⟩ := mergeFields_eq_ok (windowSteps_nodup c) hout
    refine ⟨out, rfl, ?_, ?_⟩
    · intro key hkey
      obtain ⟨q, hq, hnext⟩ := hsteps _ (List.mem_map_of_mem hkey)
      rw [hnext]
      exact mergeSet_combined (Json.same_self numbers) hq
    · intro key hkey
      apply hothers
      simpa using hkey

theorem mergeLedger_combined (q : Json) (x r : Option Json) (h : mergeLedger numbers q x = .ok r) :
    LedgerCombined numbers q x (r.or x) := by
  cases x with
  | none =>
    cases h
    rfl
  | some p =>
    obtain ⟨out, hout, h⟩ := bind_eq_ok h
    cases h
    obtain ⟨known, incoming, records, hmerge⟩ := mergePorting_eq_ok hout
    exact ⟨out, known, incoming, records, rfl, hmerge⟩

theorem optional_combined {rule : Json → Option Json → Option Json → Prop}
    (hrule : ∀ v x r, f v x = .ok r → rule v x (r.or x)) {part : Option Json}
    (h : optional part f x = .ok r) : PartCombined rule part x (r.or x) := by
  cases part with
  | none =>
    cases h
    rfl
  | some v => exact hrule v x r h

/-! ## The whole merge -/

theorem mergeSteps_nodup (j : Json) : ((mergeSteps numbers j).map Prod.fst).Nodup := by
  simp [mergeSteps]

variable {j : Json}

theorem entriesAt_nodup (h : j.wellFormed = true) (key : String) :
    ((entriesAt key j).map Prod.fst).Nodup := by
  unfold entriesAt
  cases hv : j.find? key with
  | none => exact List.nodup_nil
  | some v => exact Json.nodup_entries (Json.wellFormed_find? h hv)

theorem combined_of_merged {old next : Json} (hj : j.wellFormed = true) (hshape : DocumentShape j)
    (h : mergeFields (mergeSteps numbers j) old = .ok next) : Combined numbers old j next := by
  obtain ⟨hsteps, hothers⟩ := mergeFields_eq_ok (mergeSteps_nodup j) h
  have hnodup := entriesAt_nodup hj
  constructor
  · intro key hkey
    simp only [List.mem_cons, List.not_mem_nil, or_false] at hkey
    rcases hkey with rfl | rfl
    · obtain ⟨r, hr, hnext⟩ := hsteps ("symbolImports",
        mergeEntries (mergeMeaning numbers) (entriesAt "symbolImports" j))
        (by simp [mergeSteps, entriesAt])
      rw [hnext]
      exact mergeEntries_combined mergeMeaning_combined (hnodup _) hr
    · obtain ⟨r, hr, hnext⟩ := hsteps ("purposeClaims",
        mergeEntries (mergeMeaning numbers) (entriesAt "purposeClaims" j))
        (by simp [mergeSteps, entriesAt])
      rw [hnext]
      exact mergeEntries_combined mergeMeaning_combined (hnodup _) hr
  · obtain ⟨r, hr, hnext⟩ := hsteps ("transfers",
      mergeRecords (refineTransfer numbers) (elementsAt "transfers" j))
      (by simp [mergeSteps, elementsAt])
    rw [hnext]
    exact mergeRecords_combined refineTransfer_recordId hshape.transfers hr
  · obtain ⟨r, hr, hnext⟩ := hsteps ("boundaries",
      mergeSet (Json.same numbers) (elementsAt "boundaries" j))
      (by simp [mergeSteps, elementsAt])
    rw [hnext]
    exact mergeSet_combined (Json.same_self numbers) hr
  · obtain ⟨r, hr, hnext⟩ := hsteps ("instructions",
      mergeEntries mergeInstruction (entriesAt "instructions" j))
      (by simp [mergeSteps, entriesAt])
    rw [hnext]
    exact mergeEntries_combined mergeInstruction_combined (hnodup _) hr
  · obtain ⟨r, hr, hnext⟩ := hsteps ("dependencies",
      mergeRecords (refineEqual numbers "conflicting dependency evidence")
        (elementsAt "dependencies" j))
        (by simp [mergeSteps, elementsAt])
    rw [hnext]
    exact mergeRecords_combined refineEqual_recordId hshape.dependencies hr
  · intro key hkey
    obtain ⟨r, hr, hnext⟩ := hsteps (key, mergeSet sameText (elementsAt key j)) (by
      simp only [List.mem_cons, List.not_mem_nil, or_false] at hkey
      rcases hkey with rfl | rfl | rfl | rfl <;> simp [mergeSteps, elementsAt])
    rw [hnext]
    exact mergeSet_combined sameText_self hr
  · obtain ⟨r, hr, hnext⟩ := hsteps ("annotations",
      mergeEntries (mergeAnnotations numbers) (entriesAt "annotations" j))
      (by simp [mergeSteps, entriesAt])
    rw [hnext]
    exact mergeEntries_combined mergeAnnotations_combined (hnodup _) hr
  · obtain ⟨r, hr, hnext⟩ := hsteps ("captureWindows",
      optional (j.find? "captureWindows") (mergeCaptureWindows numbers))
      (by simp [mergeSteps])
    rw [hnext]
    exact optional_combined mergeCaptureWindows_combined hr
  · obtain ⟨r, hr, hnext⟩ := hsteps ("porting",
      optional (j.find? "porting") (mergeLedger numbers))
      (by simp [mergeSteps])
    rw [hnext]
    exact optional_combined mergeLedger_combined hr
  · exact hothers

/-! ## Merging again -/

/-- A ledger the project does not have yet comes with its revision as the code writes it. -/
def LedgerReady (old j : Json) : Prop :=
  old.contains "porting" = true ∨ ∀ q, j.find? "porting" = some q → CanonicalRevision q

theorem mergeLedger_stableAt {q : Json} (hshape : LedgerShape q)
    (hready : x.isSome = true ∨ CanonicalRevision q) : StableAt (mergeLedger numbers q) x := by
  intro r hr
  right
  cases x with
  | none =>
    cases hr
    have hcanonical : CanonicalRevision q := hready.resolve_left (by simp)
    change (do return some (← mergePorting numbers q q)) = _
    rw [ok_bind (mergePorting_self hshape hcanonical)]
    rfl
  | some p =>
    obtain ⟨out, hout, hr⟩ := bind_eq_ok hr
    cases hr
    change (do return some (← mergePorting numbers out q)) = _
    rw [ok_bind (mergePorting_again hout)]
    rfl

theorem optional_stableAt {part : Option Json} (h : ∀ v, part = some v → StableAt (f v) x) :
    StableAt (optional part f) x := by
  cases part with
  | none =>
    intro r hr
    exact .inl rfl
  | some v => exact h v rfl

theorem mergeSteps_stable {old : Json} (hj : j.wellFormed = true) (hshape : DocumentShape j)
    (hready : LedgerReady old j) :
    ∀ s ∈ mergeSteps numbers j, StableAt s.2 (old.find? s.1) := by
  have hnodup := entriesAt_nodup hj
  intro s hs
  simp only [mergeSteps, List.mem_cons, List.not_mem_nil, or_false] at hs
  rcases hs with rfl | rfl | rfl | rfl | rfl | rfl | rfl | rfl | rfl | rfl | rfl | rfl | rfl
  · exact mergeEntries_stableAt (hnodup _) mergeMeaning_stableAt _
  · exact mergeEntries_stableAt (hnodup _) mergeMeaning_stableAt _
  · exact mergeRecords_stableAt refineTransfer_recordId (fun v _ => refineTransfer_self v)
      refineTransfer_again hshape.transfers _
  · exact mergeSet_stableAt (Json.same_self numbers) _ _
  · exact mergeEntries_stableAt (hnodup _) mergeInstruction_stableAt _
  · exact mergeRecords_stableAt refineEqual_recordId (fun v _ => refineEqual_self _ v)
      refineEqual_again hshape.dependencies _
  · exact mergeSet_stableAt sameText_self _ _
  · exact mergeSet_stableAt sameText_self _ _
  · exact mergeSet_stableAt sameText_self _ _
  · exact mergeSet_stableAt sameText_self _ _
  · exact mergeEntries_stableAt (hnodup _)
      (fun v x => mergeSet_stableAt (Json.same_self numbers) v.elements x) _
  · apply optional_stableAt
    intro c hc
    obtain ⟨windows, omissions, hwindows, homissions⟩ := hshape.windows c hc
    exact mergeCaptureWindows_stableAt hwindows homissions _
  · apply optional_stableAt
    intro q hq
    apply mergeLedger_stableAt (hshape.porting q hq)
    rcases hready with hthere | hcanonical
    · exact .inl hthere
    · exact .inr (hcanonical q hq)

end

/-! ## The project -/

section
variable {digest : List UInt8 → String} {numbers : Json.NumberComparison}
  {validateAnalysis : Json → Except String Unit} {graph : Project → Json × Json}

/-- The merge before it is taken over: the document is valid and of the same game. -/
structure Merging (digest : List UInt8 → String) (numbers : Json.NumberComparison)
    (validateAnalysis : Json → Except String Unit) (j state next : Json) : Prop where
  valid : validate digest validateAnalysis j = .ok ()
  sameGame : ∀ key ∈ ["core", "romSha256"], ∃ a b, j.field key = .ok a ∧ state.field key = .ok b
    ∧ Json.same numbers a b = true
  merged : mergeFields (mergeSteps numbers j) state = .ok next

variable {j : Json} {p : Project}

theorem mergedState_iff {next : Json} : mergedState digest numbers validateAnalysis j p = .ok next
      ↔ Merging digest numbers validateAnalysis j p.state next := by
  constructor
  · intro h
    obtain ⟨_, hvalid, h⟩ := bind_eq_ok h
    obtain ⟨core, hcore, h⟩ := bind_eq_ok h
    obtain ⟨ownCore, hownCore, h⟩ := bind_eq_ok h
    obtain ⟨_, hsameCore, h⟩ := bind_eq_ok h
    obtain ⟨rom, hrom, h⟩ := bind_eq_ok h
    obtain ⟨ownRom, hownRom, h⟩ := bind_eq_ok h
    obtain ⟨_, hsameRom, h⟩ := bind_eq_ok h
    refine ⟨hvalid, ?_, h⟩
    intro key hkey
    simp only [List.mem_cons, List.not_mem_nil, or_false] at hkey
    rcases hkey with rfl | rfl
    · exact ⟨core, ownCore, hcore, hownCore, need_eq_ok hsameCore⟩
    · exact ⟨rom, ownRom, hrom, hownRom, need_eq_ok hsameRom⟩
  · rintro ⟨hvalid, hgame, hmerged⟩
    obtain ⟨core, ownCore, hcore, hownCore, hsameCore⟩ := hgame "core" (by simp)
    obtain ⟨rom, ownRom, hrom, hownRom, hsameRom⟩ := hgame "romSha256" (by simp)
    unfold mergedState
    rw [ok_bind hvalid, ok_bind hcore, ok_bind hownCore, need, require_true _ hsameCore,
      ok_bind rfl, ok_bind hrom, ok_bind hownRom, need, require_true _ hsameRom]
    exact hmerged

theorem merging_again {state next k : Json} (hj : j.wellFormed = true)
    (h : Merging digest numbers validateAnalysis j state next) (hready : LedgerReady state j)
    (hk : ∀ key, key ≠ "analysis" → k.find? key = next.find? key) :
    Merging digest numbers validateAnalysis j k k := by
  have hshape := validate_shape h.valid
  obtain ⟨_, hothers⟩ := mergeFields_eq_ok (mergeSteps_nodup j) h.merged
  refine ⟨h.valid, ?_, ?_⟩
  · intro key hkey
    obtain ⟨a, b, ha, hb, hsame⟩ := h.sameGame key hkey
    refine ⟨a, b, ha, ?_, hsame⟩
    have hfound := Json.find?_of_field hb
    simp only [List.mem_cons, List.not_mem_nil, or_false] at hkey
    apply Json.field_of_find?
    rcases hkey with rfl | rfl
    · rw [hk "core" (by decide), hothers "core" (by simp [mergeSteps]), hfound]
    · rw [hk "romSha256" (by decide), hothers "romSha256" (by simp [mergeSteps]), hfound]
  · apply fixed_of_merged (mergeSteps_nodup j) (mergeSteps_stable hj hshape hready) h.merged
    intro s hs
    apply hk
    intro hanalysis
    have hmem := List.mem_map_of_mem (f := Prod.fst) hs
    rw [hanalysis] at hmem
    simp [mergeSteps] at hmem

/-! ### Taking the merge over -/

theorem document_find? {doc : Json} (h : p.document graph = .ok doc) {key : String}
    (hkey : key ∉ ["revision", "history", "blocks", "graphEdges"]) :
    doc.find? key = p.state.find? key := by
  obtain ⟨a, ha, h⟩ := bind_eq_ok h
  obtain ⟨b, hb, h⟩ := bind_eq_ok h
  obtain ⟨c, hc, h⟩ := bind_eq_ok h
  simp only [List.mem_cons, List.not_mem_nil, or_false, not_or] at hkey
  rw [Json.find?_of_set_of_ne h hkey.2.2.2, Json.find?_of_set_of_ne hc hkey.2.2.1,
    Json.find?_of_set_of_ne hb hkey.2.1, Json.find?_of_set_of_ne ha hkey.1]

theorem validation_find? {next v : Json} (h : validation graph p next = .ok v)
    {key : String} (hkey : key ∉ ["revision", "history", "blocks", "graphEdges"]) :
    v.find? key = next.find? key := by
  obtain ⟨a, ha, h⟩ := bind_eq_ok h
  obtain ⟨b, hb, h⟩ := bind_eq_ok h
  simp only [List.mem_cons, List.not_mem_nil, or_false, not_or] at hkey
  have hcommon : b.find? key = next.find? key := by
    rw [Json.find?_of_set_of_ne hb hkey.2.1, Json.find?_of_set_of_ne ha hkey.1]
  split at h
  · obtain ⟨c, hc, h⟩ := bind_eq_ok h
    rw [Json.find?_of_set_of_ne h hkey.2.2.2, Json.find?_of_set_of_ne hc hkey.2.2.1, hcommon]
  · cases h
    exact hcommon

/-- The state after a merge that changed something: the merged records, and an analysis only
while the evidence is the one it was made from. -/
structure Taken (digest : List UInt8 → String) (p : Project) (next : Json) (p' : Project) :
    Prop where
  fields : ∀ key, key ≠ "analysis" → p'.state.find? key = next.find? key
  analysis : p'.state = next ∨ (evidenceDigest digest next ≠ evidenceDigest digest p.state
    ∧ next.erase "analysis" = .ok p'.state)
  transfers : ((elementsAt "transfers" p'.state).map recordId).Nodup
  dependencies : ((elementsAt "dependencies" p'.state).map recordId).Nodup
  history : p'.history = p.history
  revision : p'.revision = (p.revision + 1) % 2 ^ 64

theorem acceptedState_eq_ok {next taken : Json}
    (h : acceptedState digest validateAnalysis graph p next = .ok taken) :
    (∀ key, key ≠ "analysis" → taken.find? key = next.find? key)
      ∧ (taken = next ∨ (evidenceDigest digest next ≠ evidenceDigest digest p.state
        ∧ next.erase "analysis" = .ok taken))
      ∧ ((elementsAt "transfers" taken).map recordId).Nodup
      ∧ ((elementsAt "dependencies" taken).map recordId).Nodup := by
  obtain ⟨kept, hkept, h⟩ := bind_eq_ok h
  obtain ⟨v, hv, h⟩ := bind_eq_ok h
  obtain ⟨_, hvalid, h⟩ := bind_eq_ok h
  cases h
  have hshape := validate_shape hvalid
  have hfields (key : String) (hkey : key ∉ ["revision", "history", "blocks", "graphEdges"]) :
      elementsAt key v = elementsAt key taken := by
    unfold elementsAt
    rw [validation_find? hv hkey]
  unfold dropStaleAnalysis at hkept
  refine ⟨?_, ?_, ?_, ?_⟩
  · intro key hkey
    split at hkept
    · cases hkept
      rfl
    · exact Json.find?_of_erase_of_ne hkept hkey
  · split at hkept
    · cases hkept
      exact .inl rfl
    · exact .inr ⟨‹_›, hkept⟩
  · rw [← hfields "transfers" (by simp)]
    exact hshape.transfers
  · rw [← hfields "dependencies" (by simp)]
    exact hshape.dependencies

theorem reserve_eq_some {p' : Project} {growth : Nat} (h : p.reserve growth = some p') :
    p'.history = p.history ∧ p'.revision = p.revision := by
  unfold Project.reserve at h
  split at h
  · cases h
    exact ⟨rfl, rfl⟩
  · obtain ⟨b, _, rfl⟩ := Option.map_eq_some_iff.mp h
    exact ⟨rfl, rfl⟩

theorem commit_cases (p : Project) (next : Json) :
    (∃ reason, p.commit next = (.error reason, p))
      ∨ ∃ p', p.commit next = (.ok (), p') ∧ p'.state = next ∧ p'.history = p.history
        ∧ p'.revision = (p.revision + 1) % 2 ^ 64 := by
  unfold Project.commit
  dsimp only
  split
  · exact .inl ⟨_, rfl⟩
  · cases hreserved : p.reserve (next.dump.length * 2 - p.used) with
    | none => exact .inl ⟨_, rfl⟩
    | some q =>
      obtain ⟨hhistory, hrevision⟩ := reserve_eq_some hreserved
      refine .inr ⟨_, rfl, rfl, hhistory, ?_⟩
      rw [hrevision]

theorem merge_of_merging (h : Merging digest numbers validateAnalysis j p.state p.state) :
    p.merge digest numbers validateAnalysis graph j = (.ok (), p) := by
  unfold Project.merge
  simp only [mergedState_iff.mpr h, Json.same_self, if_true]

/-- A merge fails and leaves the project, or changes nothing, or takes the merged state over. -/
theorem merge_cases (p : Project) (j : Json) :
    (∃ reason, p.merge digest numbers validateAnalysis graph j = (.error reason, p))
      ∨ ∃ next p', p.merge digest numbers validateAnalysis graph j = (.ok (), p')
        ∧ Merging digest numbers validateAnalysis j p.state next
        ∧ ((p' = p ∧ Json.same numbers next p.state = true) ∨ Taken digest p next p') := by
  unfold Project.merge
  cases hmerged : mergedState digest numbers validateAnalysis j p with
  | error reason => exact .inl ⟨reason, rfl⟩
  | ok next =>
    have hmerging := mergedState_iff.mp hmerged
    dsimp only
    split
    · exact .inr ⟨next, p, rfl, hmerging, .inl ⟨rfl, ‹_›⟩⟩
    · cases haccepted : acceptedState digest validateAnalysis graph p next with
      | error reason => exact .inl ⟨reason, rfl⟩
      | ok taken =>
        obtain ⟨hfields, hanalysis, htransfers, hdependencies⟩ := acceptedState_eq_ok haccepted
        rcases commit_cases p taken with
          ⟨reason, hcommit⟩ | ⟨p', hcommit, rfl, hhistory, hrevision⟩
        · exact .inl ⟨reason, hcommit⟩
        · exact .inr ⟨next, p', hcommit, hmerging,
            .inr ⟨hfields, hanalysis, htransfers, hdependencies, hhistory, hrevision⟩⟩

/-- A merge is all or nothing, loses no record and doubles none, and is idempotent. -/
theorem merge_atomic (p : Project) (j : Json) (hj : j.wellFormed = true) :
    (∃ reason, p.merge digest numbers validateAnalysis graph j = (.error reason, p))
      ∨ ∃ next p', p.merge digest numbers validateAnalysis graph j = (.ok (), p')
        ∧ Combined numbers p.state j next
        ∧ ((p' = p ∧ Json.same numbers next p.state = true) ∨ Taken digest p next p')
        ∧ (∀ doc, p'.document graph = .ok doc →
          ∀ key, key ∉ ["revision", "history", "blocks", "graphEdges"] →
            doc.find? key = p'.state.find? key)
        ∧ (LedgerReady p.state j →
          p'.merge digest numbers validateAnalysis graph j = (.ok (), p')) := by
  rcases @merge_cases digest numbers validateAnalysis graph p j with
    herror | ⟨next, p', hmerge, hmerging, houtcome⟩
  · exact .inl herror
  · right
    have hcombined := combined_of_merged hj (validate_shape hmerging.valid) hmerging.merged
    refine ⟨next, p', hmerge, hcombined, houtcome, fun doc hdoc key => document_find? hdoc, ?_⟩
    intro hready
    rcases houtcome with ⟨rfl, _⟩ | htaken
    · exact hmerge
    · exact merge_of_merging (merging_again hj hmerging hready htaken.fields)

end

/-! ## A small capture -/

def stallBoundary : Json :=
  .obj [("after", .arr (List.replicate 6 (.int 0))), ("before", .arr (List.replicate 6 (.int 0))),
    ("branch", .str "0"), ("cycles", .str "4"), ("kind", .str "stall"), ("sequence", .str "1")]

def emptyHistory : Json :=
  .obj [("branch", .str "0"), ("values", .obj []), ("views", .obj []), ("visit", .str "0"),
    ("writers", .obj [])]

def stallDocument (boundaries : List Json) : Json :=
  .obj [("annotations", .obj []), ("boundaries", .arr boundaries), ("core", .str "gameboy"),
    ("dependencies", .arr []), ("edges", .arr []), ("gaps", .arr []), ("history", emptyHistory),
    ("inputs", .arr []), ("instructions", .obj []), ("revision", .str "0"),
    ("romSha256", .str "87afe6086fe4571e37657e76281301f189c75ebae1d2eaafb56d578067a1d95e"),
    ("schemaVersion", .int 2), ("sessions", .arr []), ("transfers", .arr [])]

/-- The project a saved document is loaded as. -/
def stallProject (boundaries : List Json) : Project where
  state := stallDocument boundaries
  history := emptyHistory
  revision := 0
  budget := defaultBudget
  used := (stallDocument boundaries).dump.length
  shared := none

/-- The SHA-256 values of the evidence without the stall and with it. -/
def stallDigest (text : List UInt8) : String :=
  if text.length < 200 then "6af5a6e9cf11452f94e9077805245a8c79854964983956642c354cd22188d918"
  else "18a89d1caedd0cde3c6797f803635ef466c1cb3ac03709abe546a48274b33011"

/-- The texts of numbers are the shortest ones, and no integer is written as one of them. -/
def textNumbers : Json.NumberComparison where
  floats f g := decide (f = g)
  intFloat _ _ := false
  floats_self _ := decide_eq_true rfl

/-- No blocks without instructions. -/
def noGraph (_ : Project) : Json × Json := (.arr [], .arr [])

def mergeStall (boundaries : List Json) : Except String Unit × Project :=
  (stallProject boundaries).merge stallDigest textNumbers (fun _ => .ok ()) noGraph
    (stallDocument [stallBoundary])

theorem mergeStall_facts : (mergeStall []).1 = .ok () ∧
    (stallDocument [stallBoundary]).wellFormed = true ∧
    mergedState stallDigest textNumbers (fun _ => .ok ()) (stallDocument [stallBoundary])
        (stallProject [stallBoundary, stallBoundary])
      = .ok (stallDocument [stallBoundary, stallBoundary]) := by
  decide +kernel

theorem mergeStall_twice : mergeStall [stallBoundary, stallBoundary]
    = (.ok (), stallProject [stallBoundary, stallBoundary]) := by
  have hsame := mergeStall_facts.2.2
  unfold mergeStall Project.merge
  simp only [hsame]
  exact if_pos (Json.same_self _ _)

theorem merge_atomic_stall : ∃ next p', mergeStall [] = (.ok (), p')
    ∧ Combined textNumbers (stallDocument []) (stallDocument [stallBoundary]) next
    ∧ p'.merge stallDigest textNumbers (fun _ => .ok ()) noGraph (stallDocument [stallBoundary])
      = (.ok (), p') := by
  rcases @merge_atomic stallDigest textNumbers (fun _ => .ok ()) noGraph (stallProject [])
    (stallDocument [stallBoundary]) mergeStall_facts.2.1 with
    ⟨reason, herror⟩ | ⟨next, p', hmerge, hcombined, _, _, hagain⟩
  · have hok := mergeStall_facts.1
    unfold mergeStall at hok
    rw [herror] at hok
    cases hok
  · refine ⟨next, p', hmerge, hcombined, hagain (.inr ?_)⟩
    intro q hq
    cases hq

/-- A boundary a loaded project has twice is there twice after a merge. -/
theorem known_boundaries_stay_double :
    ¬ ∀ (p p' : Project) (j doc : Json), p.document noGraph = .ok doc →
      validate stallDigest (fun _ => .ok ()) doc = .ok () →
      p.merge stallDigest textNumbers (fun _ => .ok ()) noGraph j = (.ok (), p') →
      (elementsAt "boundaries" p'.state).Nodup := by
  intro h
  have hnodup := h _ _ (stallDocument [stallBoundary])
    (Json.obj (Json.setField "blocks" (.arr []) (Json.setField "graphEdges" (.arr [])
      (stallDocument [stallBoundary, stallBoundary]).entries)))
    (by decide +kernel) (by decide +kernel) mergeStall_twice
  revert hnodup
  decide +kernel

end ProtoTime.Space
