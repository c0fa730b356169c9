import ProtoTime.Space.MergeLaws

/-!
Merging one port ledger into another: the contents have to agree, the records are
joined, and the later revision is kept.
-/
namespace ProtoTime.Space

open Results FieldMerge ListMerge

section
variable {numbers : Json.NumberComparison}

/-! ## Content and records -/

theorem content_of_fields (fields : List (String × Json)) :
    content (.obj fields) = .ok (.obj ((fields.filter fun entry => entry.1 != "revision").filter
      fun entry => entry.1 != "verification")) := rfl

variable {p q : Json}

/-- Neither the revision nor the records belong to the content. -/
theorem content_of_set {value : Json} {key : String}
    (hkey : key = "revision" ∨ key = "verification") (hp : p.isObject = true)
    (h : p.set key value = .ok q) : content q = content p := by
  cases p with
  | obj fields =>
    cases h
    rw [content_of_fields, content_of_fields]
    have hfilter (fs : List (String × Json)) :
        (Json.setField key value fs).filter (fun entry => entry.1 != key)
          = fs.filter fun entry => entry.1 != key := by
      unfold Json.setField
      split
      · exact Json.filter_replaceField key value fs
      · exact Json.filter_insertField key value fs
    rcases hkey with rfl | rfl
    · rw [hfilter]
    · rw [List.filter_comm, hfilter, List.filter_comm]
  | null => cases hp
  | bool b => cases hp
  | int a => cases hp
  | float f => cases hp
  | str s => cases hp
  | arr xs => cases hp

/-- A record of a ledger has a name of a legal length. -/
def HasLegalId (r : Json) : Prop :=
  ∃ id, recordId r = some id ∧ (id != "" && decide (id.utf8ByteSize ≤ 256)) = true

variable {a : Json}

theorem legal_of_ids {names : List String} (h : ids a = .ok names) :
    ∀ r ∈ a.elements, HasLegalId r := by
  obtain ⟨_, _, h⟩ := bind_eq_ok h
  refine foldlM_forall ?_ h
  intro r _ seen seen' hr
  obtain ⟨v, hv, hr⟩ := bind_eq_ok hr
  obtain ⟨id, hid, hr⟩ := bind_eq_ok hr
  obtain ⟨_, hneed, hr⟩ := bind_eq_ok hr
  have hlegal := need_eq_ok hneed
  rw [Bool.and_eq_true] at hlegal
  exact ⟨id, readId_eq_ok hv hid, hlegal.1⟩

theorem read_of_recordId {r : Json} {id : String} (h : recordId r = some id) :
    r.field "id" = .ok (.str id) := by
  unfold recordId at h
  cases hv : r.find? "id" with
  | none =>
    rw [hv] at h
    cases h
  | some v =>
    rw [hv] at h
    cases v with
    | str s =>
      cases h
      exact Json.field_of_find? hv
    | null => cases h
    | bool b => cases h
    | int a => cases h
    | float f => cases h
    | arr xs => cases h
    | obj fs => cases h

theorem ids_of_legal {rs : List Json} (hlegal : ∀ r ∈ rs, HasLegalId r)
    (hnodup : (rs.map recordId).Nodup) : ∃ names, ids (.arr rs) = .ok names := by
  suffices hall : ∀ seen : List String, (∀ r ∈ rs, ∀ id, recordId r = some id → id ∉ seen) →
      ∃ names, rs.foldlM (fun seen r => do
        let id ← (← r.field "id").asString
        need (id != "" && decide (id.utf8ByteSize ≤ 256) && !seen.contains id)
          "duplicate/invalid port ID"
        return id :: seen) seen = (.ok names : Except String (List String)) from
    hall [] (fun r _ id _ => List.not_mem_nil)
  induction rs with
  | nil => exact fun seen _ => ⟨seen, rfl⟩
  | cons r rs ih =>
    intro seen hseen
    obtain ⟨id, hid, hgood⟩ := hlegal r List.mem_cons_self
    rw [List.map_cons, List.nodup_cons] at hnodup
    have hnew : seen.contains id = false := by
      simpa using hseen r List.mem_cons_self id hid
    have hcheck : (id != "" && decide (id.utf8ByteSize ≤ 256) && !seen.contains id) = true := by
      rw [hgood, hnew]
      rfl
    obtain ⟨names, hnames⟩ := ih (fun r' hr' => hlegal r' (List.mem_cons_of_mem r hr')) hnodup.2
      (id :: seen) (by
        intro r' hr' id' hid' hmem
        rcases List.mem_cons.mp hmem with rfl | hold
        · exact hnodup.1 (List.mem_map.mpr ⟨r', hr', hid'.trans hid.symm⟩)
        · exact hseen r' (List.mem_cons_of_mem r hr') id' hid' hold)
    refine ⟨names, ?_⟩
    rw [List.foldlM_cons, ok_bind (read_of_recordId hid)]
    change (do need _ _; return id :: seen) >>= _ = _
    rw [need, require_true _ hcheck]
    exact hnames

/-! ## Ledgers -/

/-- A value read as a port ledger: its records, its revision and its content. -/
structure Ledger (p : Json) (records : List Json) (revision : Nat) (c : Json) : Prop where
  object : p.isObject = true
  verification : p.find? "verification" = some (.arr records)
  legal : ∀ r ∈ records, HasLegalId r
  distinct : (records.map recordId).Nodup
  numbered : ∃ v, p.find? "revision" = some v ∧ counter v = .ok revision
  stripped : content p = .ok c

variable {c : Json} {m : Nat}

theorem Ledger.isLedger {records : List Json} (h : Ledger p records m c) : isLedger p = true := by
  obtain ⟨v, hv, _⟩ := h.numbered
  simp [Space.isLedger, Json.contains, h.object, h.verification, hv]

theorem ledger_of_fields {v w : Json} {names : List String}
    (hobject : p.isObject = true) (hv : p.field "verification" = .ok v) (hids : ids v = .ok names)
    (hw : p.field "revision" = .ok w) (hm : counter w = .ok m) (hc : content p = .ok c) :
    Ledger p v.elements m c := by
  refine ⟨hobject, ?_, legal_of_ids hids, distinct_of_ids hids, ⟨w, Json.find?_of_field hw, hm⟩, hc⟩
  rw [← (ids_eq_ok hids).1]
  exact Json.find?_of_field hv

theorem Ledger.ids_eq {records : List Json} (h : Ledger p records m c) :
    ∃ names, ids (.arr records) = .ok names :=
  ids_of_legal h.legal h.distinct

theorem LedgerShape.ledger (h : LedgerShape q) : ∃ records m c, Ledger q records m c := by
  obtain ⟨hobject, ⟨records, names, hv, hids⟩, ⟨w, m, hw, hm⟩⟩ := h
  cases q with
  | obj fields => exact ⟨_, m, _, ledger_of_fields hobject hv hids hw hm (content_of_fields fields)⟩
  | null => cases hobject
  | bool b => cases hobject
  | int a => cases hobject
  | float f => cases hobject
  | str s => cases hobject
  | arr xs => cases hobject

/-! ## The merge -/

abbrev refineRecord (numbers : Json.NumberComparison) : Json → Json → Except String Json :=
  refineEqual numbers "conflicting verification record"

/-- An accepted merge of two ledgers: their contents agree, their records are joined, and the
later revision is kept; the other fields are those of the first. -/
structure LedgerMerge (numbers : Json.NumberComparison) (a b out : Json)
    (known incoming records : List Json) : Prop where
  joined : Joined recordId (refineRecord numbers) known incoming records
  ledgers : ∃ m n c d, Ledger a known m c ∧ Ledger b incoming n d ∧ Json.same numbers c d = true
    ∧ Ledger out records (max m n) c ∧ out.find? "revision" = some (.str (decimal (max m n)))
  kept : ∀ key, key ≠ "verification" → key ≠ "revision" → out.find? key = a.find? key

theorem isObject_of_set {j k value : Json} {key : String} (h : j.set key value = .ok k) :
    k.isObject = true := by
  cases j with
  | null =>
    cases h
    rfl
  | obj fields =>
    cases h
    rfl
  | bool b => cases h
  | int a => cases h
  | float f => cases h
  | str s => cases h
  | arr xs => cases h

/-- The records joined to those of a ledger are those of a ledger. -/
theorem legal_of_joined {known incoming records : List Json}
    (h : Joined recordId (refineRecord numbers) known incoming records)
    (hknown : ∀ r ∈ known, HasLegalId r) (hincoming : ∀ r ∈ incoming, HasLegalId r)
    (hdistinct : (known.map recordId).Nodup) :
    (∀ r ∈ records, HasLegalId r) ∧ (records.map recordId).Nodup := by
  obtain ⟨kept, fresh, rfl, hkept, hfresh, hnodup⟩ := h.split
  have hsame : kept = known := by
    have hall : List.Forall₂ (fun x y => x = y) known kept := by
      refine hkept.imp ?_
      rintro x y (rfl | ⟨v, _, _, hrefined⟩)
      · rfl
      · exact (refineEqual_eq_ok hrefined).1.symm
    exact (List.forall₂_eq_eq_eq ▸ hall : known = kept).symm
  subst hsame
  constructor
  · intro r hr
    rcases List.mem_append.mp hr with hmem | hmem
    · exact hknown r hmem
    · exact hincoming r (hfresh r hmem).1
  · rw [List.map_append, List.nodup_append]
    refine ⟨hdistinct, hnodup, ?_⟩
    rintro id hid id' hid' rfl
    obtain ⟨r, hr, rfl⟩ := List.mem_map.mp hid'
    exact (hfresh r hr).2 hid

variable {b : Json}

theorem mergePorting_eq_ok {out : Json} (h : mergePorting numbers a b = .ok out) :
    ∃ known incoming records, LedgerMerge numbers a b out known incoming records := by
  unfold mergePorting at h
  obtain ⟨_, hledgers, h⟩ := bind_eq_ok h
  obtain ⟨known, hknown, h⟩ := bind_eq_ok h
  obtain ⟨incoming, hincoming, h⟩ := bind_eq_ok h
  obtain ⟨names, hnames, h⟩ := bind_eq_ok h
  obtain ⟨names', hnames', h⟩ := bind_eq_ok h
  obtain ⟨v, hv, h⟩ := bind_eq_ok h
  obtain ⟨m, hm, h⟩ := bind_eq_ok h
  obtain ⟨w, hw, h⟩ := bind_eq_ok h
  obtain ⟨n, hn, h⟩ := bind_eq_ok h
  obtain ⟨c, hc, h⟩ := bind_eq_ok h
  obtain ⟨d, hd, h⟩ := bind_eq_ok h
  obtain ⟨_, hsame, h⟩ := bind_eq_ok h
  obtain ⟨records, hrecords, h⟩ := bind_eq_ok h
  obtain ⟨staged, hstaged, h⟩ := bind_eq_ok h
  have hboth := need_eq_ok hledgers
  simp only [isLedger, Bool.and_eq_true] at hboth
  have ha : Ledger a known.elements m c := ledger_of_fields hboth.1.1.1 hknown hnames hv hm hc
  have hb : Ledger b incoming.elements n d :=
    ledger_of_fields hboth.2.1.1 hincoming hnames' hw hn hd
  have hjoined := joinAll_joined refineEqual_recordId hb.distinct hrecords
  obtain ⟨hlegal, hdistinct⟩ := legal_of_joined hjoined ha.legal hb.legal ha.distinct
  have hmax : max m n < 2 ^ 64 := Nat.max_lt.mpr ⟨counter_lt hm, counter_lt hn⟩
  have hcontent : content out = .ok c := by
    rw [content_of_set (.inl rfl) (isObject_of_set hstaged) h,
      content_of_set (.inr rfl) ha.object hstaged]
    exact hc
  have hout : Ledger out records (max m n) c := by
    refine ⟨isObject_of_set h, ?_, hlegal, hdistinct,
      ⟨_, Json.find?_of_set h, counter_decimal hmax⟩, hcontent⟩
    rw [Json.find?_of_set_of_ne h (by decide), Json.find?_of_set hstaged]
  refine ⟨_, _, records, hjoined, ⟨m, n, c, d, ha, hb, need_eq_ok hsame, hout,
    Json.find?_of_set h⟩, ?_⟩
  intro key hkey hkey'
  rw [Json.find?_of_set_of_ne h hkey', Json.find?_of_set_of_ne hstaged hkey]

theorem mergePorting_of_ledgers {d : Json} {known incoming records : List Json} {n : Nat}
    (ha : Ledger a known m c) (hb : Ledger b incoming n d) (hsame : Json.same numbers c d = true)
    (hjoined : joinAll recordId (refineRecord numbers) known incoming = .ok records) :
    mergePorting numbers a b = (do
      (← a.set "verification" (.arr records)).set "revision" (.str (decimal (max m n)))) := by
  obtain ⟨names, hnames⟩ := ha.ids_eq
  obtain ⟨names', hnames'⟩ := hb.ids_eq
  obtain ⟨v, hv, hm⟩ := ha.numbered
  obtain ⟨w, hw, hn⟩ := hb.numbered
  unfold mergePorting
  rw [need, require_true _ (by rw [ha.isLedger, hb.isLedger]; rfl),
    ok_bind rfl, ok_bind (Json.field_of_find? ha.verification), ok_bind (Json.field_of_find? hb.verification),
    ok_bind hnames, ok_bind hnames', ok_bind (Json.field_of_find? hv), ok_bind hm,
    ok_bind (Json.field_of_find? hw), ok_bind hn, ok_bind ha.stripped, ok_bind hb.stripped, need,
    require_true _ hsame, ok_bind rfl]
  exact ok_bind hjoined _

theorem mergePorting_of_fixed {d : Json} {known incoming : List Json} {n : Nat}
    (ha : Ledger a known m c) (hb : Ledger b incoming n d) (hsame : Json.same numbers c d = true)
    (hjoined : joinAll recordId (refineRecord numbers) known incoming = .ok known)
    (hrevision : a.find? "revision" = some (.str (decimal (max m n)))) :
    mergePorting numbers a b = .ok a := by
  rw [mergePorting_of_ledgers ha hb hsame hjoined, ok_bind (set_find? ha.verification)]
  exact set_find? hrevision

theorem mergePorting_again {out : Json} (h : mergePorting numbers a b = .ok out) :
    mergePorting numbers out b = .ok out := by
  obtain ⟨known, incoming, records, hjoined, ⟨m, n, c, d, _, hb, hsame, hout, hrevision⟩, _⟩ :=
    mergePorting_eq_ok h
  have hagain : joinAll recordId (refineRecord numbers) records incoming = .ok records :=
    joinAll_again (fun v _ => refineEqual_self _ v) refineEqual_again hjoined
  apply mergePorting_of_fixed hout hb hsame hagain
  rw [hrevision, Nat.max_assoc, Nat.max_self]

/-- The revision is written without leading zeros. -/
def CanonicalRevision (q : Json) : Prop :=
  ∃ m, m < 2 ^ 64 ∧ q.find? "revision" = some (.str (decimal m))

theorem mergePorting_self (h : LedgerShape q) (hcanonical : CanonicalRevision q) :
    mergePorting numbers q q = .ok q := by
  obtain ⟨records, n, c, hq⟩ := h.ledger
  obtain ⟨m, hlt, hrevision⟩ := hcanonical
  obtain ⟨v, hv, hn⟩ := hq.numbered
  have hm : m = n := by
    rw [hrevision] at hv
    rw [← Option.some.inj hv, counter_decimal hlt] at hn
    exact Except.ok.inj hn
  subst hm
  have hself : joinAll recordId (refineRecord numbers) records records = .ok records :=
    joinAll_self hq.distinct (fun v _ => refineEqual_self _ v) refineEqual_again
  apply mergePorting_of_fixed hq hq (Json.same_self numbers c) hself
  rw [hrevision, Nat.max_self]

end

end ProtoTime.Space
