import ProtoTime.Space.Merge
import ProtoTime.Space.PortAcceptance

/-!
What a merge does to the collections of a project, and that the same document
merged again finds nothing to do.
-/
namespace ProtoTime.Space

open Results FieldMerge ListMerge

/-! ## Counters -/

theorem digitValue_digit : ∀ d < 10, digitValue 10 (Char.ofNat (48 + d)) = some d := by decide

theorem mapM_digits {ds : List Nat} (h : ∀ d ∈ ds, d < 10) :
    (ds.map fun d => Char.ofNat (48 + d)).mapM (digitValue 10) = some ds := by
  induction ds with
  | nil => rfl
  | cons d ds ih =>
    rw [List.map_cons, List.mapM_cons, digitValue_digit d (h d List.mem_cons_self),
      ih (fun e he => h e (List.mem_cons_of_mem d he))]
    rfl

theorem counter_decimal {n : Nat} (h : n < 2 ^ 64) : counter (.str (decimal n)) = .ok n := by
  have hchars : fromChars 10 (2 ^ 64) (decimal n).toList = some n := by
    unfold fromChars decimal
    rw [String.toList_ofList, mapM_digits (Json.digits_lt_ten n)]
    simpa [Json.decimalDigits_ne_nil, Json.foldl_decimalDigits] using h
  unfold counter
  simp only [hchars]

theorem fromChars_lt {base limit v : Nat} {text : List Char}
    (h : fromChars base limit text = some v) : v < limit := by
  obtain ⟨digits, _, h⟩ := Option.bind_eq_some_iff.mp h
  split at h
  · cases h
  · dsimp only at h
    split at h
    · cases h
      assumption
    · cases h

variable {j : Json}

theorem counter_lt {v : Nat} (h : counter j = .ok v) : v < 2 ^ 64 := by
  unfold counter at h
  cases j with
  | str s =>
    cases hchars : fromChars 10 (2 ^ 64) s.toList with
    | none =>
      simp only [hchars] at h
      cases h
    | some w =>
      simp only [hchars] at h
      cases h
      exact fromChars_lt hchars
  | null => cases h
  | bool b => cases h
  | int a => cases h
  | float f => cases h
  | arr xs => cases h
  | obj fs => cases h

/-! ## Identities -/

theorem recordId_of_field {r : Json} {id : String} (h : r.field "id" = .ok (.str id)) :
    recordId r = some id := by
  unfold recordId
  rw [Json.find?_of_field h]

theorem readId_eq_ok {r v : Json} {id : String} (hv : r.field "id" = .ok v)
    (hid : v.asString = .ok id) : recordId r = some id := by
  rw [asString_eq_ok hid] at hv
  exact recordId_of_field hv

variable {rs : List Json} {out : List String}

/-- A loop that refuses an identity it has met leaves the identities distinct. -/
theorem distinct_of_fold {f : List String → Json → Except String (List String)}
    (hstep : ∀ seen r seen', f seen r = .ok seen' →
      ∃ id, recordId r = some id ∧ id ∉ seen ∧ seen' = id :: seen)
    {seen : List String} (h : rs.foldlM f seen = .ok out) :
    (rs.map recordId).Nodup ∧ ∀ r ∈ rs, ∃ id, recordId r = some id ∧ id ∉ seen := by
  induction rs generalizing seen with
  | nil => exact ⟨List.nodup_nil, fun r hr => absurd hr List.not_mem_nil⟩
  | cons r rs ih =>
    obtain ⟨next, hnext, h⟩ := bind_eq_ok h
    obtain ⟨id, hid, hnew, rfl⟩ := hstep seen r next hnext
    obtain ⟨hnodup, hall⟩ := ih h
    constructor
    · rw [List.map_cons, List.nodup_cons]
      refine ⟨?_, hnodup⟩
      intro hmem
      obtain ⟨r', hr', hsame⟩ := List.mem_map.mp hmem
      obtain ⟨id', hid', hfresh⟩ := hall r' hr'
      rw [hid', hid] at hsame
      exact hfresh (by rw [Option.some.inj hsame]; exact List.mem_cons_self)
    · intro r' hr'
      rcases List.mem_cons.mp hr' with rfl | hmem
      · exact ⟨id, hid, hnew⟩
      · obtain ⟨id', hid', hfresh⟩ := hall r' hmem
        exact ⟨id', hid', fun hin => hfresh (List.mem_cons_of_mem id hin)⟩

variable {u : Unit}

theorem need_not_contains {α : Type} [BEq α] [LawfulBEq α] {seen : List α} {a : α}
    {reason : String} (h : need (!seen.contains a) reason = .ok u) : a ∉ seen := by
  have hnot := need_eq_ok h
  simpa using hnot

theorem distinct_of_ids {a : Json} {names : List String} (h : ids a = .ok names) :
    (a.elements.map recordId).Nodup := by
  obtain ⟨_, _, h⟩ := bind_eq_ok h
  refine (distinct_of_fold ?_ h).1
  intro seen r seen' hr
  obtain ⟨v, hv, hr⟩ := bind_eq_ok hr
  obtain ⟨id, hid, hr⟩ := bind_eq_ok hr
  obtain ⟨_, hneed, hr⟩ := bind_eq_ok hr
  cases hr
  have hnew := need_eq_ok hneed
  simp only [Bool.and_eq_true, Bool.not_eq_true'] at hnew
  exact ⟨id, readId_eq_ok hv hid, by simpa using hnew.2, rfl⟩

theorem transfers_distinct {model : CoreModel} {instructions : Json}
    (h : rs.foldlM (validateTransfer model instructions) [] = .ok out) :
    (rs.map recordId).Nodup := by
  refine (distinct_of_fold ?_ h).1
  intro seen r seen' hr
  obtain ⟨v, hv, hr⟩ := bind_eq_ok hr
  obtain ⟨id, hid, hr⟩ := bind_eq_ok hr
  obtain ⟨_, hneed, hr⟩ := bind_eq_ok hr
  refine ⟨id, readId_eq_ok hv hid, need_not_contains hneed, ?_⟩
  iterate 15 obtain ⟨_, _, hr⟩ := bind_eq_ok hr
  cases hr
  rfl

theorem dependencies_distinct {model : CoreModel} {instructions : Json}
    (h : rs.foldlM (validateDependency model instructions) [] = .ok out) :
    (rs.map recordId).Nodup := by
  refine (distinct_of_fold ?_ h).1
  intro seen r seen' hr
  obtain ⟨v, hv, hr⟩ := bind_eq_ok hr
  obtain ⟨id, hid, hr⟩ := bind_eq_ok hr
  obtain ⟨_, hneed, hr⟩ := bind_eq_ok hr
  refine ⟨id, readId_eq_ok hv hid, need_not_contains hneed, ?_⟩
  iterate 19 obtain ⟨_, _, hr⟩ := bind_eq_ok hr
  cases hr
  rfl

/-! ## What the validation of a document guarantees the merge -/

theorem ifPresent_eq_ok {v : Json} {key : String} {check : Json → Except String Unit}
    (h : ifPresent j key check = .ok u) (hv : j.find? key = some v) : check v = .ok () := by
  unfold ifPresent at h
  rw [hv] at h
  exact h

def elementsAt (key : String) (j : Json) : List Json := ((j.find? key).getD .null).elements

def entriesAt (key : String) (j : Json) : List (String × Json) :=
  ((j.find? key).getD .null).entries

structure LedgerShape (q : Json) : Prop where
  object : q.isObject = true
  records : ∃ records names, q.field "verification" = .ok (.arr records)
    ∧ ids (.arr records) = .ok names
  revision : ∃ v n, q.field "revision" = .ok v ∧ counter v = .ok n

structure DocumentShape (j : Json) : Prop where
  transfers : ((elementsAt "transfers" j).map recordId).Nodup
  dependencies : ((elementsAt "dependencies" j).map recordId).Nodup
  windows : ∀ c, j.find? "captureWindows" = some c → ∃ windows omissions,
    c.find? "windows" = some (.arr windows) ∧ c.find? "intentionalOmissions" = some (.arr omissions)
  porting : ∀ q, j.find? "porting" = some q → LedgerShape q

theorem areArrays_eq_ok {keys : List String} (h : areArrays j keys = .ok true) :
    ∀ key ∈ keys, ∃ items, j.find? key = some (.arr items) := by
  induction keys with
  | nil => exact fun key hkey => absurd hkey List.not_mem_nil
  | cons key keys ih =>
    obtain ⟨v, hv, h⟩ := bind_eq_ok h
    cases hv' : v.isArray with
    | false =>
      rw [hv'] at h
      cases h
    | true =>
      rw [hv', if_pos rfl] at h
      intro key' hkey'
      rcases List.mem_cons.mp hkey' with rfl | hmem
      · exact ⟨v.elements, by rw [Json.find?_of_field hv, ← isArray_eq hv']⟩
      · exact ih h key' hmem

theorem captureWindows_shape {c : Json} (h : validateCaptureWindows j = .ok u)
    (hc : j.find? "captureWindows" = some c) : ∃ windows omissions,
      c.find? "windows" = some (.arr windows)
      ∧ c.find? "intentionalOmissions" = some (.arr omissions) := by
  have hcheck := ifPresent_eq_ok h hc
  obtain ⟨_, _, hcheck⟩ := bind_eq_ok hcheck
  obtain ⟨_, _, hcheck⟩ := bind_eq_ok hcheck
  obtain ⟨b, hb, hcheck⟩ := bind_eq_ok hcheck
  obtain ⟨_, hneed, hcheck⟩ := bind_eq_ok hcheck
  rw [need_eq_ok hneed] at hb
  have hall := areArrays_eq_ok hb
  obtain ⟨windows, hwindows⟩ := hall "windows" (by simp)
  obtain ⟨omissions, homissions⟩ := hall "intentionalOmissions" (by simp)
  exact ⟨windows, omissions, hwindows, homissions⟩

section
variable {digest : List UInt8 → String}

theorem validateSides_shape {q : Json} {sides : Sides} (h : validateSides j q = .ok sides) :
    q.isObject = true ∧ ∃ v n, q.field "revision" = .ok v ∧ counter v = .ok n := by
  obtain ⟨version, hversion, h⟩ := bind_eq_ok h
  obtain ⟨_, _, h⟩ := bind_eq_ok h
  obtain ⟨v, hv, h⟩ := bind_eq_ok h
  obtain ⟨n, hn, h⟩ := bind_eq_ok h
  refine ⟨?_, v, n, hv, hn⟩
  cases q with
  | obj fields => rfl
  | null => cases hversion
  | bool b => cases hversion
  | int a => cases hversion
  | float f => cases hversion
  | str s => cases hversion
  | arr xs => cases hversion

theorem validateNames_records {p : Json} {names : Names} (h : validateNames p = .ok names) :
    ∃ records known, p.field "verification" = .ok (.arr records)
      ∧ ids (.arr records) = .ok known := by
  iterate 12 obtain ⟨_, _, h⟩ := bind_eq_ok h
  obtain ⟨v, hv, h⟩ := bind_eq_ok h
  obtain ⟨known, hknown, h⟩ := bind_eq_ok h
  have harray := (ids_eq_ok hknown).1
  rw [harray] at hv hknown
  exact ⟨v.elements, known, hv, hknown⟩

theorem porting_shape {q : Json} (h : validatePorting digest j = .ok u)
    (hq : j.find? "porting" = some q) : LedgerShape q := by
  unfold validatePorting at h
  rw [hq] at h
  obtain ⟨sides, hsides, h⟩ := bind_eq_ok h
  obtain ⟨names, hnames, h⟩ := bind_eq_ok h
  obtain ⟨hobject, hrevision⟩ := validateSides_shape hsides
  exact ⟨hobject, validateNames_records hnames, hrevision⟩

theorem validate_shape {validateAnalysis : Json → Except String Unit}
    (h : validate digest validateAnalysis j = .ok u) : DocumentShape j := by
  iterate 5 obtain ⟨_, _, h⟩ := bind_eq_ok h
  obtain ⟨model, _, h⟩ := bind_eq_ok h
  iterate 4 obtain ⟨_, _, h⟩ := bind_eq_ok h
  obtain ⟨instructions, _, h⟩ := bind_eq_ok h
  iterate 7 obtain ⟨_, _, h⟩ := bind_eq_ok h
  obtain ⟨dependencies, hdependencies, h⟩ := bind_eq_ok h
  obtain ⟨_, hdependencyIds, h⟩ := bind_eq_ok h
  iterate 6 obtain ⟨_, _, h⟩ := bind_eq_ok h
  obtain ⟨_, htransfers, h⟩ := bind_eq_ok h
  obtain ⟨_, hwindows, h⟩ := bind_eq_ok h
  obtain ⟨_, _, h⟩ := bind_eq_ok h
  obtain ⟨_, hporting, h⟩ := bind_eq_ok h
  refine ⟨?_, ?_, fun c hc => captureWindows_shape hwindows hc, fun q hq => porting_shape hporting hq⟩
  · unfold elementsAt
    cases hts : j.find? "transfers" with
    | none => exact List.nodup_nil
    | some ts =>
      have hcheck := ifPresent_eq_ok htransfers hts
      obtain ⟨_, _, hcheck⟩ := bind_eq_ok hcheck
      obtain ⟨_, hids, _⟩ := bind_eq_ok hcheck
      exact transfers_distinct hids
  · unfold elementsAt
    rw [Json.find?_of_field hdependencies]
    exact dependencies_distinct hdependencyIds

end

/-! ## One collection at a time -/

variable {r x : Option Json} {incoming : List Json}

theorem mergeSet_eq_ok {R : Json → Json → Bool} (h : mergeSet R incoming x = .ok r) :
    ∃ xs, listOf x = .ok xs ∧ r = some (.arr (addNew R xs incoming)) := by
  obtain ⟨xs, hxs, h⟩ := bind_eq_ok h
  cases h
  exact ⟨xs, hxs, rfl⟩

theorem mergeSet_stableAt {R : Json → Json → Bool} (hself : ∀ v, R v v = true)
    (incoming : List Json) (x : Option Json) : StableAt (mergeSet R incoming) x := by
  intro r hr
  obtain ⟨xs, _, rfl⟩ := mergeSet_eq_ok hr
  right
  change Except.ok (some (Json.arr (addNew R (addNew R xs incoming) incoming))) = _
  rw [addNew_addNew hself]
  rfl

theorem sameText_self (v : Json) : sameText v v = true := decide_eq_true rfl

theorem readIds_iff : readIds rs = .ok () ↔ ∀ r ∈ rs, (recordId r).isSome = true := by
  constructor
  · intro h r hr
    have hread := forM_eq_ok h r hr
    obtain ⟨v, hv, hread⟩ := bind_eq_ok hread
    obtain ⟨id, hid, _⟩ := bind_eq_ok hread
    rw [readId_eq_ok hv hid]
    rfl
  · intro h
    apply forM_of_ok
    intro r hr
    have hsome := h r hr
    unfold recordId at hsome
    cases hv : r.find? "id" with
    | none =>
      rw [hv] at hsome
      cases hsome
    | some v =>
      rw [hv] at hsome
      cases v with
      | str id =>
        rw [ok_bind (Json.field_of_find? hv)]
        rfl
      | null => cases hsome
      | bool b => cases hsome
      | int a => cases hsome
      | float f => cases hsome
      | arr xs => cases hsome
      | obj fs => cases hsome

variable {refine' : Json → Json → Except String Json}

theorem mergeRecords_eq_ok (h : mergeRecords refine' incoming x = .ok r) :
    ∃ xs ys, listOf x = .ok xs ∧ joinAll recordId refine' xs incoming = .ok ys
      ∧ r = some (.arr ys) ∧ readIds xs = .ok () ∧ readIds incoming = .ok () := by
  obtain ⟨xs, hxs, h⟩ := bind_eq_ok h
  obtain ⟨_, hread, h⟩ := bind_eq_ok h
  obtain ⟨_, hincoming, h⟩ := bind_eq_ok h
  obtain ⟨ys, hys, h⟩ := bind_eq_ok h
  cases h
  exact ⟨xs, ys, hxs, hys, rfl, hread, hincoming⟩

theorem readIds_joined {xs ys : List Json}
    (hkey : ∀ x v y, refine' x v = .ok y → recordId y = recordId x)
    (h : Joined recordId refine' xs incoming ys) (hxs : readIds xs = .ok ())
    (hincoming : readIds incoming = .ok ()) : readIds ys = .ok () := by
  obtain ⟨kept, fresh, rfl, hkept, hfresh, _⟩ := h.split
  apply readIds_iff.mpr
  intro r hr
  rcases List.mem_append.mp hr with hmem | hmem
  · obtain ⟨x, hx, hxr⟩ := forall₂_right hkept hmem
    have hsome := readIds_iff.mp hxs x hx
    rcases hxr with rfl | ⟨v, _, _, hrefined⟩
    · exact hsome
    · rw [hkey x v r hrefined]
      exact hsome
  · exact readIds_iff.mp hincoming r (hfresh r hmem).1

theorem mergeRecords_stableAt (hkey : ∀ x v y, refine' x v = .ok y → recordId y = recordId x)
    (hself : ∀ v ∈ incoming, refine' v v = .ok v)
    (hagain : ∀ x v w, refine' x v = .ok w → refine' w v = .ok w)
    (hnodup : (incoming.map recordId).Nodup) (x : Option Json) :
    StableAt (mergeRecords refine' incoming) x := by
  intro r hr
  obtain ⟨xs, ys, _, hys, rfl, hread, hincoming⟩ := mergeRecords_eq_ok hr
  have hjoined := joinAll_joined hkey hnodup hys
  right
  change (do
    readIds ys
    readIds incoming
    return some (Json.arr (← joinAll recordId refine' ys incoming))) = _
  rw [ok_bind (readIds_joined hkey hjoined hread hincoming), ok_bind hincoming,
    ok_bind (joinAll_again hself hagain hjoined)]
  rfl

/-- What an object that may be missing holds under a key. -/
def entry (x : Option Json) (key : String) : Option Json := x.bind (Json.find? key)

theorem find?_getD (x : Option Json) (key : String) :
    (x.getD .null).find? key = entry x key := by
  cases x with
  | none => rfl
  | some v => rfl

theorem map_fst_steps (f : Json → Option Json → Except String (Option Json))
    (incoming : List (String × Json)) :
    (incoming.map fun entry => (entry.1, f entry.2)).map Prod.fst = incoming.map Prod.fst := by
  rw [List.map_map]
  rfl

/-- Each incoming entry was merged into the entry of its key; the others are as they were. -/
theorem mergeEntries_eq_ok {f : Json → Option Json → Except String (Option Json)}
    {incoming : List (String × Json)} (hnodup : (incoming.map Prod.fst).Nodup)
    (h : mergeEntries f incoming x = .ok r) :
    (∀ e ∈ incoming, ∃ q, f e.2 (entry x e.1) = .ok q
      ∧ entry (r.or x) e.1 = q.or (entry x e.1))
    ∧ ∀ key, key ∉ incoming.map Prod.fst → entry (r.or x) key = entry x key := by
  unfold mergeEntries at h
  split at h
  · cases h
    have hnil : incoming = [] := List.isEmpty_iff.mp ‹_›
    subst hnil
    exact ⟨fun e he => absurd he List.not_mem_nil, fun key _ => rfl⟩
  · obtain ⟨merged, hmerged, h⟩ := bind_eq_ok h
    cases h
    rw [← map_fst_steps f] at hnodup
    obtain ⟨hsteps, hothers⟩ := mergeFields_eq_ok hnodup hmerged
    constructor
    · intro e he
      obtain ⟨q, hq, hnext⟩ := hsteps (e.1, f e.2) (List.mem_map.mpr ⟨e, he, rfl⟩)
      rw [find?_getD] at hq hnext
      exact ⟨q, hq, hnext⟩
    · intro key hkey
      have hkept := hothers key (by rw [map_fst_steps]; exact hkey)
      rw [find?_getD] at hkept
      exact hkept

theorem mergeEntries_stableAt {f : Json → Option Json → Except String (Option Json)}
    {incoming : List (String × Json)} (hnodup : (incoming.map Prod.fst).Nodup)
    (hstable : ∀ v x, StableAt (f v) x) (x : Option Json) :
    StableAt (mergeEntries f incoming) x := by
  intro r hr
  unfold mergeEntries at hr ⊢
  split at hr
  · left
    rw [if_pos ‹_›]
    rfl
  · obtain ⟨merged, hmerged, hr⟩ := bind_eq_ok hr
    cases hr
    right
    rw [if_neg ‹_›]
    rw [← map_fst_steps f] at hnodup
    have hagain := mergeFields_again hnodup (fun s hs => by
      obtain ⟨e, _, rfl⟩ := List.mem_map.mp hs
      exact hstable e.2 _) hmerged
    change (do return some (← mergeFields _ merged)) = _
    rw [ok_bind hagain]
    rfl

/-! ## The rules, one by one -/

section
variable {numbers : Json.NumberComparison} {v : Json}

theorem mergeMeaning_eq_ok (h : mergeMeaning numbers v x = .ok r) :
    r = some v ∧ ∀ old, x = some old → Json.same numbers old v = true := by
  cases x with
  | none =>
    cases h
    exact ⟨rfl, by simp⟩
  | some old =>
    unfold mergeMeaning at h
    dsimp only at h
    split at h
    · cases h
      refine ⟨rfl, ?_⟩
      intro old' hold
      cases hold
      assumption
    · cases h

theorem mergeMeaning_stableAt (v : Json) (x : Option Json) :
    StableAt (mergeMeaning numbers v) x := by
  intro r hr
  obtain ⟨rfl, _⟩ := mergeMeaning_eq_ok hr
  right
  change (if Json.same numbers v v then _ else _) = _
  rw [if_pos (Json.same_self numbers v)]
  rfl

theorem mergeInstruction_stableAt (v : Json) (x : Option Json) :
    StableAt (mergeInstruction v) x := by
  intro r hr
  left
  cases x with
  | none =>
    cases hr
    rfl
  | some old =>
    cases hr
    rfl

variable {reason : String} {w : Json}

theorem refineEqual_eq_ok {old : Json}
    (h : refineEqual numbers reason old v = .ok w) : w = old ∧ Json.same numbers old v = true := by
  unfold refineEqual at h
  split at h
  · cases h
    exact ⟨rfl, ‹_›⟩
  · cases h

theorem refineEqual_self (reason : String) (v : Json) : refineEqual numbers reason v v = .ok v := by
  unfold refineEqual
  rw [if_pos (Json.same_self numbers v)]

theorem refineEqual_again (x v w : Json)
    (h : refineEqual numbers reason x v = .ok w) : refineEqual numbers reason w v = .ok w := by
  obtain ⟨rfl, _⟩ := refineEqual_eq_ok h
  exact h

theorem refineEqual_recordId (x v y : Json)
    (h : refineEqual numbers reason x v = .ok y) : recordId y = recordId x := by
  rw [(refineEqual_eq_ok h).1]

/-- An accepted transfer is the known one, or the known one with its next instruction set. -/
theorem refineTransfer_eq_ok {old : Json} (h : refineTransfer numbers old v = .ok w) :
    (w = old ∧ Json.same numbers old v = true)
      ∨ (sameTransfer numbers old v = .ok true
        ∧ ((w = old ∧ v.find? "nextInstruction" = none)
          ∨ ∃ next, v.find? "nextInstruction" = some next
            ∧ old.set "nextInstruction" next = .ok w)) := by
  unfold refineTransfer at h
  split at h
  · cases h
    exact .inl ⟨rfl, ‹_›⟩
  · obtain ⟨b, hb, h⟩ := bind_eq_ok h
    cases b with
    | false => cases h
    | true =>
      right
      refine ⟨hb, ?_⟩
      cases hv : v.find? "nextInstruction" with
      | none =>
        simp only [hv] at h
        cases h
        exact .inl ⟨rfl, rfl⟩
      | some next =>
        simp only [hv] at h
        exact .inr ⟨next, rfl, h⟩

theorem refineTransfer_self (v : Json) : refineTransfer numbers v v = .ok v := by
  unfold refineTransfer
  rw [if_pos (Json.same_self numbers v)]
  rfl

theorem refineTransfer_recordId (x v y : Json) (h : refineTransfer numbers x v = .ok y) :
    recordId y = recordId x := by
  rcases refineTransfer_eq_ok h with ⟨rfl, _⟩ | ⟨_, ⟨rfl, _⟩ | ⟨next, _, hset⟩⟩
  · rfl
  · rfl
  · unfold recordId
    rw [Json.find?_of_set_of_ne hset (by decide)]

theorem sameTransfer_set {x next : Json} (h : sameTransfer numbers x v = .ok true)
    (hv : v.find? "nextInstruction" = some next) (hset : x.set "nextInstruction" next = .ok w) :
    sameTransfer numbers w v = .ok true := by
  unfold sameTransfer at h ⊢
  obtain ⟨left, hleft, h⟩ := bind_eq_ok h
  obtain ⟨right', hright, h⟩ := bind_eq_ok h
  have hboth := Except.ok.inj h
  rw [Bool.and_eq_true] at hboth
  rw [ok_bind (Json.erase_of_set hleft hset), ok_bind hright]
  simp only [Json.find?_of_set hset, hv, hboth.1, Json.same_self, Bool.and_self]
  rfl

theorem refineTransfer_again (x v w : Json) (h : refineTransfer numbers x v = .ok w) :
    refineTransfer numbers w v = .ok w := by
  rcases refineTransfer_eq_ok h with ⟨rfl, _⟩ | ⟨hsame, ⟨rfl, _⟩ | ⟨next, hv, hset⟩⟩
  · exact h
  · exact h
  · unfold refineTransfer
    split
    · rfl
    · rw [ok_bind (sameTransfer_set hsame hv hset), if_pos rfl]
      simp only [hv]
      exact set_find? (Json.find?_of_set hset)

theorem windowSteps_nodup (c : Json) :
    ((["windows", "intentionalOmissions"].map fun key =>
      (key, mergeSet (Json.same numbers) ((c.find? key).getD .null).elements)).map
        Prod.fst).Nodup := by
  simp

theorem mergeCaptureWindows_stableAt {c : Json} {windows omissions : List Json}
    (hwindows : c.find? "windows" = some (.arr windows))
    (homissions : c.find? "intentionalOmissions" = some (.arr omissions)) (x : Option Json) :
    StableAt (mergeCaptureWindows numbers c) x := by
  intro r hr
  right
  cases x with
  | none =>
    cases hr
    change (do return some (← mergeFields _ c)) = _
    have hfixed : mergeFields (["windows", "intentionalOmissions"].map fun key =>
        (key, mergeSet (Json.same numbers) ((c.find? key).getD .null).elements)) c = .ok c := by
      have hknown (xs : List Json) : addNew (Json.same numbers) xs xs = xs :=
        addNew_of_known fun v hv => ⟨v, hv, Json.same_self numbers v⟩
      apply mergeFields_of_fixed
      intro s hs
      right
      simp only [List.map_cons, List.map_nil, List.mem_cons, List.not_mem_nil, or_false] at hs
      rcases hs with rfl | rfl
      · rw [hwindows]
        change Except.ok (some (Json.arr (addNew _ windows windows))) = _
        rw [hknown]
      · rw [homissions]
        change Except.ok (some (Json.arr (addNew _ omissions omissions))) = _
        rw [hknown]
    rw [ok_bind hfixed]
    rfl
  | some existing =>
    obtain ⟨merged, hmerged, hr⟩ := bind_eq_ok hr
    cases hr
    have hagain := mergeFields_again (windowSteps_nodup c) (fun s hs => by
      obtain ⟨key, _, rfl⟩ := List.mem_map.mp hs
      exact mergeSet_stableAt (Json.same_self numbers) _ _) hmerged
    change (do return some (← mergeFields _ merged)) = _
    rw [ok_bind hagain]
    rfl

end

end ProtoTime.Space
