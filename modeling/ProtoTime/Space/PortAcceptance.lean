import Mathlib.Data.List.Forall2
import ProtoTime.Space.Porting

/-!
What an accepted port ledger guarantees: an accounting that reports completeness
has every source byte in one reviewed region and every region converted, and the
acceptance gate rests on records bound to the present content.
-/
namespace ProtoTime.Space

open Results Tiling

/-! ## What the parts of a ledger say -/

def Implemented (m : Json) : Prop :=
  m.field "implemented" = .ok (.bool true) ∧ reviewed m = .ok true

/-- The list under a key of a record holds a name. -/
def Lists (m : Json) (key name : String) : Prop :=
  ∃ names, m.field key = .ok names ∧ .str name ∈ names.elements

/-- Some implemented, reviewed mapping names it. -/
def Converted (mappings : List Json) (key name : String) : Prop :=
  ∃ m ∈ mappings, Implemented m ∧ Lists m key name

/-- The region covers the byte. -/
def holds (size x : Nat) (r : Json) : Bool :=
  match range r size with
  | .ok s => covers x s
  | .error _ => false

/-- The kinds a region may have when its contents are known. -/
def isClassified (kind : String) : Bool := ["code", "data", "header", "padding"].contains kind

structure Accounted (p : Json) (size : Nat) (inventory mappings : List Json) : Prop where
  sized : ∃ source length, p.field "source" = .ok source ∧ source.field "size" = .ok length
    ∧ counter length = .ok size
  listed : p.field "inventory" = .ok (.arr inventory)
  mapped : p.field "mappings" = .ok (.arr mappings)
  partitioned : ∀ x < size, ∃ r kind, inventory.filter (holds size x) = [r]
    ∧ reviewed r = .ok true ∧ r.field "kind" = .ok (.str kind) ∧ isClassified kind = true
  tiled : ∀ r ∈ inventory, r.field "kind" = .ok (.str "code") →
    ∃ a b instructions spans, range r size = .ok (a, b)
      ∧ r.field "instructions" = .ok (.arr instructions)
      ∧ List.Forall₂ (fun i s => range i size = .ok s) instructions spans ∧ Tiles a spans b
  regionsConverted : ∀ r ∈ inventory, ∃ kind id, r.field "kind" = .ok (.str kind)
    ∧ r.field "id" = .ok (.str id)
    ∧ (isConverted kind = true → Converted mappings "sourceRegions" id)
  instructionsConverted : ∀ r ∈ inventory, ∃ instructions,
    r.field "instructions" = .ok (.arr instructions) ∧ ∀ i ∈ instructions, ∃ id,
      i.field "id" = .ok (.str id) ∧ Converted mappings "instructions" id

def Verified (digest : List UInt8 → String) (p : Json) (type : String) : Prop :=
  ∃ binding records contracts scenarios, portBinding digest p = .ok binding
    ∧ p.field "verification" = .ok records ∧ p.field "contracts" = .ok contracts
    ∧ p.field "requiredScenarios" = .ok scenarios
    ∧ ∃ v ∈ records.elements, v.field "type" = .ok (.str type)
      ∧ v.field "status" = .ok (.str "passed") ∧ v.field "binding" = .ok (.str binding)
      ∧ (∃ named, v.field "contracts" = .ok named ∧ ∀ c ∈ contracts.elements,
          ∃ id, c.field "id" = .ok id ∧ id ∈ named.elements)
      ∧ ∃ named, v.field "scenarios" = .ok named ∧ ∀ s ∈ scenarios.elements, s ∈ named.elements

/-! ## The checks, one by one -/

theorem need_eq_ok {condition : Bool} {reason : String} {u : Unit}
    (h : need condition reason = .ok u) : condition = true := require_eq_ok h

variable {j : Json}

theorem asString_eq_ok {s : String} (h : j.asString = .ok s) : j = .str s := by
  cases j with
  | str t =>
    cases h
    rfl
  | null => cases h
  | bool b => cases h
  | int a => cases h
  | float f => cases h
  | arr xs => cases h
  | obj fs => cases h

theorem asBool_eq_ok {b : Bool} (h : j.asBool = .ok b) : j = .bool b := by
  cases j with
  | bool c =>
    cases h
    rfl
  | null => cases h
  | str t => cases h
  | int a => cases h
  | float f => cases h
  | arr xs => cases h
  | obj fs => cases h

theorem isArray_eq (h : j.isArray = true) : j = .arr j.elements := by
  cases j with
  | arr xs => rfl
  | null => cases h
  | bool b => cases h
  | str t => cases h
  | int a => cases h
  | float f => cases h
  | obj fs => cases h

theorem isText_eq {text : String} (h : j.isText text = true) : j = .str text := by
  cases j with
  | str t => rw [show t = text from beq_iff_eq.mp h]
  | arr xs => cases h
  | null => cases h
  | bool b => cases h
  | int a => cases h
  | float f => cases h
  | obj fs => cases h

theorem range_eq_ok {r : Json} {size a b : Nat} (h : range r size = .ok (a, b)) :
    a < b ∧ b ≤ size := by
  obtain ⟨_, _, h⟩ := bind_eq_ok h
  obtain ⟨offset, _, h⟩ := bind_eq_ok h
  obtain ⟨_, _, h⟩ := bind_eq_ok h
  obtain ⟨length, _, h⟩ := bind_eq_ok h
  obtain ⟨_, hneed, h⟩ := bind_eq_ok h
  have hbounds := need_eq_ok hneed
  simp only [Bool.and_eq_true, decide_eq_true_eq] at hbounds
  cases h
  omega

variable {names : List String}

theorem ids_eq_ok {a : Json} (h : ids a = .ok names) :
    a = .arr a.elements ∧ ∀ r ∈ a.elements, ∃ id, r.field "id" = .ok (.str id) := by
  obtain ⟨_, hneed, h⟩ := bind_eq_ok h
  refine ⟨isArray_eq (need_eq_ok hneed), foldlM_forall ?_ h⟩
  intro r _ seen seen' hr
  obtain ⟨v, hv, hr⟩ := bind_eq_ok hr
  obtain ⟨id, hid, _⟩ := bind_eq_ok hr
  rw [asString_eq_ok hid] at hv
  exact ⟨id, hv⟩

section
variable {digest : List UInt8 → String}

/-! ## The inventory -/

variable {sides : Sides}

theorem inventoryInstruction_eq_ok {i : Json} {kind : String} {b : Nat} {s t : Nat × Inventory}
    (h : inventoryInstruction digest j sides kind b s i = .ok t) :
    kind = "code" ∧ range i sides.size = .ok (s.1, t.1) ∧ t.2.ranges = s.2.ranges := by
  obtain ⟨_, hkind, h⟩ := bind_eq_ok h
  obtain ⟨⟨x, y⟩, hrange, h⟩ := bind_eq_ok h
  obtain ⟨_, hboundary, h⟩ := bind_eq_ok h
  obtain ⟨_, _, h⟩ := bind_eq_ok h
  obtain ⟨id, _, h⟩ := bind_eq_ok h
  iterate 4 obtain ⟨_, _, h⟩ := bind_eq_ok h
  obtain ⟨hex, _, h⟩ := bind_eq_ok h
  obtain ⟨_, _, h⟩ := bind_eq_ok h
  obtain ⟨_, _, h⟩ := bind_eq_ok h
  obtain ⟨location, _, h⟩ := bind_eq_ok h
  iterate 3 obtain ⟨_, _, h⟩ := bind_eq_ok h
  cases h
  have hbounds := need_eq_ok hboundary
  simp only [Bool.and_eq_true, beq_iff_eq] at hbounds
  rw [← hbounds.1.1]
  exact ⟨beq_iff_eq.mp (need_eq_ok hkind), hrange, rfl⟩

theorem instructions_tiled {kind : String} {b : Nat} {instructions : List Json}
    {s t : Nat × Inventory}
    (h : instructions.foldlM (inventoryInstruction digest j sides kind b) s = .ok t) :
    ∃ spans, List.Forall₂ (fun i r => range i sides.size = .ok r) instructions spans
      ∧ Tiles s.1 spans t.1 ∧ t.2.ranges = s.2.ranges := by
  induction instructions generalizing s with
  | nil =>
    cases h
    exact ⟨[], .nil, .nil _, rfl⟩
  | cons i instructions ih =>
    obtain ⟨u, hu, h⟩ := bind_eq_ok h
    obtain ⟨_, hrange, hranges⟩ := inventoryInstruction_eq_ok hu
    obtain ⟨spans, hspans, htiles, hrest⟩ := ih h
    refine ⟨(s.1, u.1) :: spans, .cons hrange hspans, ?_, hrest.trans hranges⟩
    exact .cons (range_eq_ok hrange).1 htiles

structure RegionChecked (size : Nat) (r : Json) (s : Span) : Prop where
  spanned : range r size = .ok s
  kinded : ∃ kind, r.field "kind" = .ok (.str kind) ∧ isRegionKind kind = true
  tiled : ∃ instructions spans c, r.field "instructions" = .ok (.arr instructions)
    ∧ List.Forall₂ (fun i t => range i size = .ok t) instructions spans ∧ Tiles s.1 spans c
    ∧ (r.field "kind" = .ok (.str "code") → c = s.2)

theorem inventoryRegion_eq_ok {r : Json} {s t : Inventory}
    (h : inventoryRegion digest j sides s r = .ok t) :
    ∃ span, RegionChecked sides.size r span ∧ t.ranges = s.ranges ++ [span] := by
  unfold inventoryRegion at h
  obtain ⟨⟨a, b⟩, hrange, h⟩ := bind_eq_ok h
  obtain ⟨_, _, h⟩ := bind_eq_ok h
  obtain ⟨_, _, h⟩ := bind_eq_ok h
  obtain ⟨v, hkind, h⟩ := bind_eq_ok h
  obtain ⟨kind, hv, h⟩ := bind_eq_ok h
  rw [asString_eq_ok hv] at hkind
  obtain ⟨_, hregion, h⟩ := bind_eq_ok h
  iterate 5 obtain ⟨_, _, h⟩ := bind_eq_ok h
  obtain ⟨bank, _, h⟩ := bind_eq_ok h
  obtain ⟨_, _, h⟩ := bind_eq_ok h
  obtain ⟨address, _, h⟩ := bind_eq_ok h
  obtain ⟨_, _, h⟩ := bind_eq_ok h
  obtain ⟨instructions, hinstructions, h⟩ := bind_eq_ok h
  obtain ⟨_, harray, h⟩ := bind_eq_ok h
  obtain ⟨instructions', hagain, h⟩ := bind_eq_ok h
  obtain ⟨⟨c, t'⟩, hloop, h⟩ := bind_eq_ok h
  obtain ⟨_, hend, h⟩ := bind_eq_ok h
  cases h
  obtain rfl : instructions = instructions' := Except.ok.inj (hinstructions.symm.trans hagain)
  obtain ⟨spans, hspans, htiles, hranges⟩ := instructions_tiled hloop
  refine ⟨(a, b), ⟨hrange, ⟨kind, hkind, need_eq_ok hregion⟩, ?_⟩, hranges⟩
  rw [isArray_eq (need_eq_ok harray)] at hinstructions
  refine ⟨_, spans, c, hinstructions, hspans, htiles, ?_⟩
  intro hcode
  obtain rfl : kind = "code" := Json.str.inj (Except.ok.inj (hkind.symm.trans hcode))
  have hcursor := need_eq_ok hend
  simpa using hcursor

theorem regions_checked {regions : List Json} {s t : Inventory}
    (h : regions.foldlM (inventoryRegion digest j sides) s = .ok t) :
    ∃ spans, List.Forall₂ (RegionChecked sides.size) regions spans
      ∧ t.ranges = s.ranges ++ spans := by
  induction regions generalizing s with
  | nil =>
    cases h
    exact ⟨[], .nil, by simp⟩
  | cons r regions ih =>
    obtain ⟨u, hu, h⟩ := bind_eq_ok h
    obtain ⟨span, hspan, hranges⟩ := inventoryRegion_eq_ok hu
    obtain ⟨spans, hspans, hrest⟩ := ih h
    refine ⟨span :: spans, .cons hspan hspans, ?_⟩
    rw [hrest, hranges]
    simp

end

theorem sorted_tiles {ranges : List Span} {a c : Nat} (hpos : ∀ s ∈ ranges, s.1 < s.2)
    (h : ranges.foldlM (fun last r => do
      need (r.1 == last) "inventory must partition every source ROM byte without overlap"
      return r.2) a = (.ok c : Except String Nat)) : Tiles a ranges c := by
  induction ranges generalizing a with
  | nil =>
    cases h
    exact .nil _
  | cons s ranges ih =>
    obtain ⟨last, hlast, h⟩ := bind_eq_ok h
    obtain ⟨_, hneed, hnext⟩ := bind_eq_ok hlast
    obtain rfl := beq_iff_eq.mp (need_eq_ok hneed)
    cases hnext
    have hrest := ih (fun t ht => hpos t (by simp [ht])) h
    exact .cons (hpos s (by simp)) hrest

theorem partition_countP {ranges : List Span} {size x : Nat} {u : Unit}
    (hpos : ∀ s ∈ ranges, s.1 < s.2) (h : partition ranges size = .ok u) (hx : x < size) :
    ranges.countP (covers x) = 1 := by
  obtain ⟨last, hloop, h⟩ := bind_eq_ok h
  obtain rfl := beq_iff_eq.mp (need_eq_ok h)
  have hperm := List.perm_insertionSort (fun r s => spanLe r s = true) ranges
  have htiles := sorted_tiles (fun s hs => hpos s (hperm.mem_iff.mp hs)) hloop
  rw [← hperm.countP_eq]
  exact htiles.countP_covers (Nat.zero_le x) hx

theorem countP_holds {size x : Nat} {regions : List Json} {spans : List Span}
    (h : List.Forall₂ (RegionChecked size) regions spans) :
    regions.countP (holds size x) = spans.countP (covers x) := by
  induction h with
  | nil => rfl
  | @cons r s regions spans hr _ ih =>
    have hsame : holds size x r = covers x s := by
      unfold holds
      rw [hr.spanned]
    rw [List.countP_cons, List.countP_cons, ih, hsame]

section
variable {digest : List UInt8 → String}

/-! ## The ledger -/

variable {p : Json}

theorem validateSides_eq_ok {sides : Sides} (h : validateSides j p = .ok sides) :
    ∃ source length, p.field "source" = .ok source ∧ source.field "size" = .ok length
      ∧ counter length = .ok sides.size := by
  iterate 10 obtain ⟨_, _, h⟩ := bind_eq_ok h
  obtain ⟨source, hsource, h⟩ := bind_eq_ok h
  obtain ⟨target, _, h⟩ := bind_eq_ok h
  iterate 6 obtain ⟨_, _, h⟩ := bind_eq_ok h
  obtain ⟨length, hlength, h⟩ := bind_eq_ok h
  obtain ⟨size, hsize, h⟩ := bind_eq_ok h
  iterate 7 obtain ⟨_, _, h⟩ := bind_eq_ok h
  cases h
  exact ⟨source, length, hsource, hlength, hsize⟩

def Named (p : Json) (key : String) : Prop :=
  ∃ records, p.field key = .ok (.arr records)
    ∧ ∀ r ∈ records, ∃ id, r.field "id" = .ok (.str id)

variable {v : Json}

theorem named_of_ids {key : String}
    (hv : p.field key = .ok v) (h : ids v = .ok names) : Named p key := by
  obtain ⟨harray, hall⟩ := ids_eq_ok h
  rw [harray] at hv
  exact ⟨v.elements, hv, hall⟩

theorem validateNames_eq_ok {names : Names} (h : validateNames p = .ok names) :
    Named p "inventory" ∧ Named p "contracts" ∧ Named p "mappings" ∧ Named p "verification"
      ∧ ∃ scenarios, p.field "requiredScenarios" = .ok scenarios := by
  obtain ⟨_, hinventory, h⟩ := bind_eq_ok h
  obtain ⟨_, hinventoryIds, h⟩ := bind_eq_ok h
  obtain ⟨_, hcontracts, h⟩ := bind_eq_ok h
  obtain ⟨_, hcontractsIds, h⟩ := bind_eq_ok h
  obtain ⟨scenarios, hscenarios, h⟩ := bind_eq_ok h
  obtain ⟨_, _, h⟩ := bind_eq_ok h
  obtain ⟨_, hmappings, h⟩ := bind_eq_ok h
  obtain ⟨_, hmappingsIds, h⟩ := bind_eq_ok h
  iterate 4 obtain ⟨_, _, h⟩ := bind_eq_ok h
  obtain ⟨_, hrecords, h⟩ := bind_eq_ok h
  obtain ⟨_, hrecordsIds, h⟩ := bind_eq_ok h
  exact ⟨named_of_ids hinventory hinventoryIds, named_of_ids hcontracts hcontractsIds,
    named_of_ids hmappings hmappingsIds, named_of_ids hrecords hrecordsIds, scenarios, hscenarios⟩

/-- What the acceptance of a ledger gives the accounting. -/
structure LedgerChecked (p : Json) (size : Nat) (inventory : List Json) : Prop where
  sized : ∃ source length, p.field "source" = .ok source ∧ source.field "size" = .ok length
    ∧ counter length = .ok size
  listed : p.field "inventory" = .ok (.arr inventory)
  named : Named p "inventory"
  mapped : Named p "mappings"
  contracted : Named p "contracts"
  recorded : Named p "verification"
  checked : ∃ spans, List.Forall₂ (RegionChecked size) inventory spans
    ∧ ∀ x < size, spans.countP (covers x) = 1

theorem validateLedger_eq_ok {u : Unit} (h : validateLedger digest j p = .ok u) :
    ∃ size inventory, LedgerChecked p size inventory := by
  obtain ⟨sides, hsides, h⟩ := bind_eq_ok h
  obtain ⟨names, hnames, h⟩ := bind_eq_ok h
  iterate 5 obtain ⟨_, _, h⟩ := bind_eq_ok h
  obtain ⟨inventory, hinventory, h⟩ := bind_eq_ok h
  obtain ⟨_, hpartition, h⟩ := bind_eq_ok h
  obtain ⟨v, hv, hloop⟩ := bind_eq_ok hinventory
  obtain ⟨hregions, hcontracts, hmappings, hrecords, _⟩ := validateNames_eq_ok hnames
  obtain ⟨regions, hlisted, hall⟩ := hregions
  obtain rfl : v = .arr regions := Except.ok.inj (hv.symm.trans hlisted)
  obtain ⟨spans, hspans, hranges⟩ := regions_checked hloop
  rw [hranges] at hpartition
  have hpos : ∀ s ∈ spans, s.1 < s.2 := by
    intro s hs
    obtain ⟨r, _, hr⟩ := forall₂_right hspans hs
    exact (range_eq_ok hr.spanned).1
  exact ⟨sides.size, regions, validateSides_eq_ok hsides, hlisted, ⟨regions, hlisted, hall⟩,
    hmappings, hcontracts, hrecords, spans, hspans,
    fun x hx => partition_countP hpos hpartition hx⟩

/-! ## The accounting -/

theorem mem_of_strings {name : String} (h : strings j = .ok names) (hmem : name ∈ names) :
    .str name ∈ j.elements := by
  obtain ⟨item, hitem, hname⟩ := forall₂_right (mapM_eq_ok h) hmem
  rw [asString_eq_ok hname] at hitem
  exact hitem

/-- Everything the coverage names is named by an implemented, reviewed mapping. -/
def Covered (mappings : List Json) (s : Coverage) : Prop :=
  (∀ id ∈ s.regions, Converted mappings "sourceRegions" id)
    ∧ ∀ id ∈ s.instructions, Converted mappings "instructions" id

variable {s : Coverage}

theorem addCoverage_covered {mappings : List Json} {m : Json} (hm : m ∈ mappings)
    {t : Coverage} (hs : Covered mappings s) (h : addCoverage s m = .ok t) :
    Covered mappings t := by
  obtain ⟨v, hv, h⟩ := bind_eq_ok h
  obtain ⟨implemented, himplemented, h⟩ := bind_eq_ok h
  rw [asBool_eq_ok himplemented] at hv
  cases implemented with
  | false =>
    cases h
    exact hs
  | true =>
    obtain ⟨isReviewed, hreviewed, h⟩ := bind_eq_ok h
    cases isReviewed with
    | false =>
      cases h
      exact hs
    | true =>
      obtain ⟨regions, hregions, h⟩ := bind_eq_ok h
      obtain ⟨regionNames, hregionNames, h⟩ := bind_eq_ok h
      obtain ⟨instructions, hinstructions, h⟩ := bind_eq_ok h
      obtain ⟨instructionNames, hinstructionNames, h⟩ := bind_eq_ok h
      cases h
      constructor
      · intro id hid
        rcases List.mem_append.mp hid with hold | hnew
        · exact hs.1 id hold
        · exact ⟨m, hm, ⟨hv, hreviewed⟩, regions, hregions, mem_of_strings hregionNames hnew⟩
      · intro id hid
        rcases List.mem_append.mp hid with hold | hnew
        · exact hs.2 id hold
        · exact ⟨m, hm, ⟨hv, hreviewed⟩, instructions, hinstructions,
            mem_of_strings hinstructionNames hnew⟩

theorem coverageOf_covered {mappings : List Json}
    (hmappings : p.field "mappings" = .ok (.arr mappings)) (h : coverageOf p = .ok s) :
    Covered mappings s := by
  obtain ⟨v, hv, h⟩ := bind_eq_ok h
  obtain rfl : v = .arr mappings := Except.ok.inj (hv.symm.trans hmappings)
  refine foldlM_invariant (fun m hm s t hs ht => addCoverage_covered hm hs ht) ?_ h
  exact ⟨fun id hid => absurd hid List.not_mem_nil, fun id hid => absurd hid List.not_mem_nil⟩

theorem ite_nil {α : Type} {c : Bool} {x : α} (h : (if c then [] else [x]) = []) : c = true := by
  cases c with
  | true => rfl
  | false => cases h

/-- A region without a problem is reviewed, of a known kind, and converted. -/
theorem regionProblems_eq_nil {r : Json} (h : regionProblems s r = .ok []) :
    ∃ kind id, r.field "kind" = .ok (.str kind) ∧ r.field "id" = .ok (.str id)
      ∧ reviewed r = .ok true ∧ kind ≠ "unknown" ∧ kind ≠ "ambiguous"
      ∧ (isConverted kind = true → id ∈ s.regions)
      ∧ ∃ instructions, r.field "instructions" = .ok instructions
        ∧ ∀ i ∈ instructions.elements, ∃ name, i.field "id" = .ok (.str name)
          ∧ name ∈ s.instructions := by
  unfold regionProblems at h
  obtain ⟨v, hkind, h⟩ := bind_eq_ok h
  obtain ⟨kind, hv, h⟩ := bind_eq_ok h
  obtain ⟨w, hid, h⟩ := bind_eq_ok h
  obtain ⟨id, hw, h⟩ := bind_eq_ok h
  obtain ⟨isReviewed, hreviewed, h⟩ := bind_eq_ok h
  obtain ⟨instructions, hinstructions, h⟩ := bind_eq_ok h
  obtain ⟨problems, hproblems, h⟩ := bind_eq_ok h
  rw [asString_eq_ok hv] at hkind
  rw [asString_eq_ok hw] at hid
  have hnil := Except.ok.inj h
  simp only [List.append_eq_nil_iff, List.flatten_eq_nil_iff, ite_eq_right_iff, reduceCtorEq,
    imp_false, Bool.not_eq_true] at hnil
  obtain ⟨⟨hopen, hunconverted⟩, hall⟩ := hnil
  simp only [Bool.or_eq_false_iff, Bool.not_eq_false', beq_eq_false_iff_ne, ne_eq] at hopen
  refine ⟨kind, id, hkind, hid, ?_, hopen.1.2, hopen.2, ?_, instructions, hinstructions, ?_⟩
  · rw [hreviewed, hopen.1.1]
  · intro hconverted
    simpa [hconverted] using hunconverted
  · intro i hi
    obtain ⟨found, hfound, hproblem⟩ := forall₂_left (mapM_eq_ok hproblems) hi
    rw [hall found hfound] at hproblem
    obtain ⟨u, hname, hproblem⟩ := bind_eq_ok hproblem
    obtain ⟨name, hu, hproblem⟩ := bind_eq_ok hproblem
    rw [asString_eq_ok hu] at hname
    have hlisted := ite_nil (Except.ok.inj hproblem)
    exact ⟨name, hname, List.contains_iff_mem.mp hlisted⟩

theorem portProblems_eq_nil {inventory : List Json} (h : portProblems p = .ok [])
    (hlisted : p.field "inventory" = .ok (.arr inventory)) :
    ∃ s, coverageOf p = .ok s ∧ ∀ r ∈ inventory, regionProblems s r = .ok [] := by
  obtain ⟨s, hs, h⟩ := bind_eq_ok h
  obtain ⟨v, hv, h⟩ := bind_eq_ok h
  obtain rfl : v = .arr inventory := Except.ok.inj (hv.symm.trans hlisted)
  obtain ⟨regions, hregions, h⟩ := bind_eq_ok h
  obtain ⟨hardware, _, h⟩ := bind_eq_ok h
  obtain ⟨controlFlow, _, h⟩ := bind_eq_ok h
  obtain ⟨model, _, h⟩ := bind_eq_ok h
  have hnil := Except.ok.inj h
  simp only [List.append_eq_nil_iff, List.flatten_eq_nil_iff] at hnil
  refine ⟨s, hs, ?_⟩
  intro r hr
  obtain ⟨problems, hmem, hproblems⟩ := forall₂_left (mapM_eq_ok hregions) hr
  rw [hproblems, hnil.1.1.1 problems hmem]

theorem isClassified_of_known {kind : String} (h : isRegionKind kind = true)
    (hunknown : kind ≠ "unknown") (hambiguous : kind ≠ "ambiguous") :
    isClassified kind = true := by
  simp only [isRegionKind, List.contains_iff_mem, List.mem_cons, List.not_mem_nil, or_false] at h
  simp only [isClassified, List.contains_iff_mem, List.mem_cons, List.not_mem_nil, or_false]
  rcases h with h | h | h | h | h | h
  · exact .inl h
  · exact .inr (.inl h)
  · exact .inr (.inr (.inl h))
  · exact .inr (.inr (.inr h))
  · exact absurd h hunknown
  · exact absurd h hambiguous

/-- A ledger without problems is accounted for. -/
theorem accounted_of_no_problems {size : Nat} {inventory : List Json}
    (hledger : LedgerChecked p size inventory) (h : portProblems p = .ok []) :
    ∃ mappings, Accounted p size inventory mappings := by
  obtain ⟨mappings, hmapped, _⟩ := hledger.mapped
  obtain ⟨s, hs, hregions⟩ := portProblems_eq_nil h hledger.listed
  have hcovered := coverageOf_covered hmapped hs
  obtain ⟨spans, hspans, hcount⟩ := hledger.checked
  refine ⟨mappings, hledger.sized, hledger.listed, hmapped, ?_, ?_, ?_, ?_⟩
  · intro x hx
    have hone := (countP_holds hspans).trans (hcount x hx)
    rw [List.countP_eq_length_filter] at hone
    obtain ⟨r, hr⟩ := List.length_eq_one_iff.mp hone
    have hmem : r ∈ inventory := List.mem_of_mem_filter (hr ▸ List.mem_singleton.mpr rfl)
    obtain ⟨span, _, hchecked⟩ := forall₂_left hspans hmem
    obtain ⟨kind, hkind, hregion⟩ := hchecked.kinded
    obtain ⟨kind', _, hkind', _, hreviewed, hunknown, hambiguous, _⟩ :=
      regionProblems_eq_nil (hregions r hmem)
    obtain rfl : kind = kind' := Json.str.inj (Except.ok.inj (hkind.symm.trans hkind'))
    exact ⟨r, kind, hr, hreviewed, hkind, isClassified_of_known hregion hunknown hambiguous⟩
  · intro r hr hcode
    obtain ⟨span, _, hchecked⟩ := forall₂_left hspans hr
    obtain ⟨instructions, tiles, c, hinstructions, htiles, htiled, hend⟩ := hchecked.tiled
    obtain rfl := hend hcode
    exact ⟨span.1, span.2, instructions, tiles, hchecked.spanned, hinstructions, htiles, htiled⟩
  · intro r hr
    obtain ⟨kind, id, hkind, hid, _, _, _, hconverted, _⟩ :=
      regionProblems_eq_nil (hregions r hr)
    exact ⟨kind, id, hkind, hid, fun hc => hcovered.1 id (hconverted hc)⟩
  · intro r hr
    obtain ⟨span, _, hchecked⟩ := forall₂_left hspans hr
    obtain ⟨instructions, _, _, hinstructions, _⟩ := hchecked.tiled
    obtain ⟨_, _, _, _, _, _, _, _, listed, hlisted, hall⟩ := regionProblems_eq_nil (hregions r hr)
    obtain rfl : listed = .arr instructions :=
      Except.ok.inj (hlisted.symm.trans hinstructions)
    refine ⟨instructions, hinstructions, ?_⟩
    intro i hi
    obtain ⟨name, hname, hnamed⟩ := hall i hi
    exact ⟨name, hname, hcovered.2 name hnamed⟩

/-! ## The records -/

theorem isScoped_eq_ok (h : isScoped p v = .ok true) :
    ∃ contracts scenarios, p.field "contracts" = .ok contracts
      ∧ p.field "requiredScenarios" = .ok scenarios
      ∧ (∃ named, v.field "contracts" = .ok named ∧ ∀ c ∈ contracts.elements,
          ∃ id, c.field "id" = .ok id ∧ id ∈ named.elements)
      ∧ ∃ named, v.field "scenarios" = .ok named
        ∧ ∀ s ∈ scenarios.elements, s ∈ named.elements := by
  obtain ⟨scenarios, hscenarios, h⟩ := bind_eq_ok h
  obtain ⟨named, hnamed, h⟩ := bind_eq_ok h
  obtain ⟨contracts, hcontracts, h⟩ := bind_eq_ok h
  obtain ⟨known, hknown, h⟩ := bind_eq_ok h
  obtain ⟨required, hrequired, h⟩ := bind_eq_ok h
  have hall := Except.ok.inj h
  simp only [Bool.and_eq_true, List.all_eq_true, List.contains_iff_mem] at hall
  refine ⟨contracts, required, hcontracts, hrequired, ⟨named, hnamed, ?_⟩, scenarios, hscenarios,
    hall.1⟩
  intro c hc
  obtain ⟨id, hmem, hid⟩ := forall₂_left (mapM_eq_ok hknown) hc
  exact ⟨id, hid, hall.2 id hmem⟩

variable {binding : String}

theorem counts_eq_ok (h : counts binding p v = .ok true) :
    v.field "binding" = .ok (.str binding) ∧ v.field "status" = .ok (.str "passed")
      ∧ isScoped p v = .ok true := by
  obtain ⟨bound, hbound, h⟩ := bind_eq_ok h
  cases hb : bound.isText binding with
  | false =>
    rw [hb] at h
    cases h
  | true =>
    rw [hb, if_pos rfl] at h
    obtain ⟨status, hstatus, h⟩ := bind_eq_ok h
    cases hs : status.isText "passed" with
    | false =>
      rw [hs] at h
      cases h
    | true =>
      rw [hs, if_pos rfl] at h
      rw [isText_eq hb] at hbound
      rw [isText_eq hs] at hstatus
      exact ⟨hbound, hstatus, h⟩

/-- A type in the gate comes from a record that counts. -/
theorem mem_passedTypes {records : Json} {passed : List String}
    {type : String} (hrecords : p.field "verification" = .ok records)
    (h : passedTypes binding p = .ok passed) (htype : type ∈ passed) :
    ∃ v ∈ records.elements, counts binding p v = .ok true
      ∧ v.field "type" = .ok (.str type) := by
  obtain ⟨v, hv, h⟩ := bind_eq_ok h
  obtain rfl : v = records := Except.ok.inj (hv.symm.trans hrecords)
  revert type
  refine foldlM_invariant (P := fun passed => ∀ {type : String}, type ∈ passed →
    ∃ r ∈ v.elements, counts binding p r = .ok true ∧ r.field "type" = .ok (.str type)) ?_ ?_ h
  · intro r hr s t hs ht type htype
    obtain ⟨b, hb, ht⟩ := bind_eq_ok ht
    cases b with
    | false =>
      cases ht
      exact hs htype
    | true =>
      obtain ⟨w, hw, ht⟩ := bind_eq_ok ht
      obtain ⟨name, hname, ht⟩ := bind_eq_ok ht
      cases ht
      rw [asString_eq_ok hname] at hw
      rcases List.mem_cons.mp htype with rfl | hold
      · exact ⟨r, hr, hb, hw⟩
      · exact hs hold
  · intro type htype
    exact absurd htype List.not_mem_nil

theorem verified_of_mem {passed : List String} {type : String}
    (hbinding : portBinding digest p = .ok binding) (hrecorded : Named p "verification")
    (h : passedTypes binding p = .ok passed) (htype : type ∈ passed) :
    Verified digest p type := by
  obtain ⟨records, hrecords, _⟩ := hrecorded
  obtain ⟨v, hv, hcounts, hvtype⟩ := mem_passedTypes hrecords h htype
  obtain ⟨hbound, hstatus, hscoped⟩ := counts_eq_ok hcounts
  obtain ⟨contracts, scenarios, hcontracts, hscenarios, hnamed, hnamedScenarios⟩ :=
    isScoped_eq_ok hscoped
  exact ⟨binding, .arr records, contracts, scenarios, hbinding, hrecords, hcontracts, hscenarios,
    v, hv, hvtype, hstatus, hbound, hnamed, hnamedScenarios⟩

/-! ## Changes of the ledger -/

theorem portBinding_eq {c : Json} (h : content p = .ok c) :
    portBinding digest p = .ok (digest c.dump) := by
  unfold portBinding
  rw [h]
  rfl

theorem stale_of_ne {old : String} (hv : v.field "binding" = .ok (.str old)) (hne : old ≠ binding) :
    counts binding p v = .ok false ∧ reportedRecord binding v = v.set "status" (.str "stale") := by
  have hnot : (Json.str old).isText binding = false := beq_eq_false_iff_ne.mpr hne
  constructor
  · unfold counts
    rw [ok_bind hv, hnot]
    rfl
  · unfold reportedRecord
    rw [ok_bind hv, hnot]
    rfl

theorem digest_ne {c c' : Json} (hne : c ≠ c')
    (hinjective : digest c.dump = digest c'.dump → c.dump = c'.dump) :
    digest c.dump ≠ digest c'.dump := by
  intro h
  exact hne (Json.dump_injective (hinjective h))

/-! ## Acceptance -/

theorem checkPorting_eq_ok {report : Json} (hp : j.find? "porting" = some p)
    (h : checkPorting digest j = .ok report) :
    ∃ problems binding passed, validateLedger digest j p = .ok ()
      ∧ portProblems p = .ok problems ∧ portBinding digest p = .ok binding
      ∧ passedTypes binding p = .ok passed
      ∧ report.field "complete" = .ok (.bool problems.isEmpty)
      ∧ report.field "stage5Gate" = .ok (.bool (isGate problems.isEmpty passed)) := by
  obtain ⟨_, hvalid, h⟩ := bind_eq_ok h
  rw [hp] at h
  obtain ⟨problems, hproblems, h⟩ := bind_eq_ok h
  obtain ⟨binding, hbinding, h⟩ := bind_eq_ok h
  obtain ⟨passed, hpassed, h⟩ := bind_eq_ok h
  obtain ⟨records, _, h⟩ := bind_eq_ok h
  obtain ⟨verification, _, h⟩ := bind_eq_ok h
  obtain ⟨assumptions, _, h⟩ := bind_eq_ok h
  obtain ⟨revision, _, h⟩ := bind_eq_ok h
  unfold validatePorting at hvalid
  rw [hp] at hvalid
  cases h
  exact ⟨problems, binding, passed, hvalid, hproblems, hbinding, hpassed, rfl, rfl⟩

/-- A complete accounting covers the whole ROM, the gate rests on records of the present
content, and a record bound to other content does not count. -/
theorem checkPorting_sound {j p report : Json} (hp : j.find? "porting" = some p)
    (hcheck : checkPorting digest j = .ok report) :
    (report.field "complete" = .ok (.bool true) →
      ∃ size inventory mappings, Accounted p size inventory mappings)
    ∧ (report.field "stage5Gate" = .ok (.bool true) →
      ∀ type ∈ ["behavioral", "independent", "live"], Verified digest p type)
    ∧ ∀ c p' c' v : Json, content p = .ok c → content p' = .ok c' → c ≠ c' →
      (digest c.dump = digest c'.dump → c.dump = c'.dump) →
      v.field "binding" = .ok (.str (digest c.dump)) →
      ∃ binding, portBinding digest p' = .ok binding ∧ counts binding p' v = .ok false
        ∧ reportedRecord binding v = v.set "status" (.str "stale") := by
  obtain ⟨problems, binding, passed, hledger, hproblems, hbinding, hpassed, hcomplete, hgate⟩ :=
    checkPorting_eq_ok hp hcheck
  obtain ⟨size, inventory, hchecked⟩ := validateLedger_eq_ok hledger
  refine ⟨?_, ?_, ?_⟩
  · intro h
    have hnone : problems.isEmpty = true :=
      Json.bool.inj (Except.ok.inj (hcomplete.symm.trans h))
    rw [List.isEmpty_iff.mp hnone] at hproblems
    obtain ⟨mappings, haccounted⟩ := accounted_of_no_problems hchecked hproblems
    exact ⟨size, inventory, mappings, haccounted⟩
  · intro h type htype
    have hpasses : isGate problems.isEmpty passed = true :=
      Json.bool.inj (Except.ok.inj (hgate.symm.trans h))
    simp only [isGate, Bool.and_eq_true, List.all_eq_true, List.contains_iff_mem] at hpasses
    exact verified_of_mem hbinding hchecked.recorded hpassed (hpasses.2 type htype)
  · intro c p' c' v _ hc' hne hinjective hv
    exact ⟨digest c'.dump, portBinding_eq hc', stale_of_ne hv (digest_ne hne hinjective)⟩

end

/-! ## A two-byte port -/

def evidenceOf (text : String) : Json := .arr [.str text]

def titleContract : String := "keeps the title screen"

/-- The record of one passed verification, bound to the given content. -/
def passedRecord (binding type : String) : Json :=
  .obj [("artifacts", .arr [.obj [("path", .str "log"), ("sha256", .str
      "836ff184e7b41b1e13cb5fd89fa1de98dbbab99e9d2918913ff43b86a5c7c213")]]),
    ("binding", .str binding), ("contracts", evidenceOf "title"), ("evidence", evidenceOf "log"),
    ("id", .str type), ("scenarios", evidenceOf "boot"), ("status", .str "passed"),
    ("tools", .arr [.obj [("name", .str "runner"), ("sha256", .str
      "527aa9f431539da8e151d5434d1d5e611d973f601d8e970790882624554146b0"), ("version", .str "1")]]),
    ("type", .str type)]

def codeRegion : Json :=
  .obj [("address", .int 0), ("bank", .int 0), ("evidence", evidenceOf "trace"),
    ("id", .str "entry"), ("instructions", .arr [.obj [("bytes", .str "00"), ("id", .str
      "2f4bf421c39b7e38b56e7ade85ec2d271b9d22a4018acad1de910004eb476f90"),
      ("length", .str "1"), ("location", .str "4294967296"), ("offset", .str "0")]]),
    ("kind", .str "code"), ("length", .str "1"), ("offset", .str "0"), ("reviewed", .bool true),
    ("sha256", .str "6e340b9cffb37a989ca544e6bb780a2c78901d3fb33738768511a30617afa01d")]

def dataRegion : Json :=
  .obj [("address", .int 1), ("bank", .int 0), ("evidence", evidenceOf "trace"),
    ("id", .str "title"), ("instructions", .arr []), ("kind", .str "data"), ("length", .str "1"),
    ("offset", .str "1"), ("reviewed", .bool true),
    ("sha256", .str "df7e70e5021544f4834bbee64a9e3789febc4be81470df629cad6ddb03320a5c")]

def wholeMapping : Json :=
  .obj [("contracts", evidenceOf "title"), ("evidence", evidenceOf "review"), ("id", .str "all"),
    ("implemented", .bool true), ("instructions", .arr [.str
      "2f4bf421c39b7e38b56e7ade85ec2d271b9d22a4018acad1de910004eb476f90"]),
    ("kind", .str "translation"), ("reviewed", .bool true),
    ("sourceRegions", .arr [.str "entry", .str "title"]),
    ("targets", .arr [.obj [("address", .int 0), ("bank", .int 0), ("length", .str "2"),
      ("offset", .str "0"), ("sha256", .str
      "87afe6086fe4571e37657e76281301f189c75ebae1d2eaafb56d578067a1d95e")]])]

def metObligation (id : String) : Json :=
  .obj [("contracts", evidenceOf "title"), ("evidence", evidenceOf "review"), ("id", .str id),
    ("implemented", .bool true), ("reviewed", .bool true)]

/-- The ledger less its revision and its records. -/
def ledgerContent (assumptions : List Json) : List (String × Json) :=
  [("assetSha256", .str "d59386e0ae435e292fbe0ebcdb954b75ed5fb3922091277cb19f798fc5d50718"),
    ("assumptions", .arr assumptions),
    ("buildSha256", .str "44575cf5b28512d75644bf54a517dcef304ff809fd511747621b4d64f19aac66"),
    ("contracts", .arr [.obj [("id", .str "title"), ("sha256", .str
      "a6785f9148297eb0ef13fc4689f4cee11ad5ca116ede0a84d64413300ddb8d1f"),
      ("text", .str titleContract)]]),
    ("controlFlow", .arr [metObligation "reset"]), ("hardware", .arr [metObligation "video"]),
    ("inventory", .arr [codeRegion, dataRegion]), ("mappings", .arr [wholeMapping]),
    ("model", .obj [("banks", .arr [.int 0]), ("entryPoints", evidenceOf "0:0"),
      ("evidence", evidenceOf "review"), ("ramExecution", .bool false), ("reviewed", .bool true),
      ("stackBytes", .int 16)]),
    ("requiredScenarios", evidenceOf "boot"),
    ("source", .obj [("core", .str "gameboy"), ("sha256", .str
      "87afe6086fe4571e37657e76281301f189c75ebae1d2eaafb56d578067a1d95e"), ("size", .str "2")]),
    ("sourceSha256", .str "41cf6794ba4200b839c53531555f0f3998df4cbb01a4d5cb0b94e3ca5e23947d"),
    ("supplementalEvidence", .arr []),
    ("target", .obj [("core", .str "gamegear"), ("sha256", .str
      "34a04005bcaf206eec990bd9637d9fdb6725e0a0c0d4aebf003f17f4c956eb5c"), ("size", .str "2")]),
    ("version", .int 1)]

/-- The content the records are bound to, and the same content with one more assumption. -/
def verifiedContent : Json := .obj (ledgerContent [])

def assumedContent : Json := .obj (ledgerContent [.str "no link cable"])

def verifiedBinding : String := "b640658d19a6b7c6ed9355a85302017e985f1c770942200f91f7497ac68c3ede"

def assumedBinding : String := "a015beb7a8f3e6f736837bee6d95c747ffddd8581c6edfb9c09d291896761644"

/-- The SHA-256 values of the texts the two ledgers compare. -/
def sampleDigest (text : List UInt8) : String :=
  if text = utf8 titleContract then
    "a6785f9148297eb0ef13fc4689f4cee11ad5ca116ede0a84d64413300ddb8d1f"
  else if text = utf8 "4294967296:00" then
    "2f4bf421c39b7e38b56e7ade85ec2d271b9d22a4018acad1de910004eb476f90"
  else if text = verifiedContent.dump then verifiedBinding
  else assumedBinding

def passedRecords : Json :=
  .arr (["behavioral", "independent", "live"].map (passedRecord verifiedBinding))

def sampleLedger (assumptions : List Json) : Json :=
  .obj (Json.setField "revision" (.str "0")
    (Json.setField "verification" passedRecords (ledgerContent assumptions)))

def sampleProject (assumptions : List Json) : Json :=
  .obj [("core", .str "gameboy"), ("instructions", .obj []),
    ("porting", sampleLedger assumptions), ("romSha256", .str
      "87afe6086fe4571e37657e76281301f189c75ebae1d2eaafb56d578067a1d95e")]

theorem sampleProject_report :
    ((checkPorting sampleDigest (sampleProject [])).bind fun report => do
      return (← report.field "complete", ← report.field "stage5Gate"))
      = .ok (.bool true, .bool true) := by decide +kernel

theorem sampleDigests : sampleDigest verifiedContent.dump = verifiedBinding ∧
    sampleDigest verifiedContent.dump ≠ sampleDigest assumedContent.dump := by
  decide +kernel

theorem sampleDigest_verified : sampleDigest verifiedContent.dump = verifiedBinding :=
  sampleDigests.1

theorem digests_differ :
    sampleDigest verifiedContent.dump ≠ sampleDigest assumedContent.dump :=
  sampleDigests.2

theorem contents_differ : verifiedContent ≠ assumedContent := by
  intro h
  exact digests_differ (by rw [h])

theorem content_verified : content (sampleLedger []) = .ok verifiedContent := rfl

theorem content_assumed :
    content (sampleLedger [.str "no link cable"]) = .ok assumedContent := rfl

theorem checkPorting_sound_sample :
    (∃ size inventory mappings, Accounted (sampleLedger []) size inventory mappings)
    ∧ (∀ type ∈ ["behavioral", "independent", "live"], Verified sampleDigest (sampleLedger []) type)
    ∧ ∃ binding, portBinding sampleDigest (sampleLedger [.str "no link cable"]) = .ok binding
      ∧ counts binding (sampleLedger [.str "no link cable"]) (passedRecord verifiedBinding "live")
        = .ok false := by
  obtain ⟨report, hreport, hfields⟩ := bind_eq_ok sampleProject_report
  obtain ⟨complete, hcomplete, hfields⟩ := bind_eq_ok hfields
  obtain ⟨gate, hgate, hfields⟩ := bind_eq_ok hfields
  obtain ⟨rfl, rfl⟩ := Prod.mk.inj (Except.ok.inj hfields)
  obtain ⟨haccounted, hverified, hstale⟩ :=
    checkPorting_sound (p := sampleLedger []) rfl hreport
  refine ⟨haccounted hcomplete, hverified hgate, ?_⟩
  have hbound : (passedRecord verifiedBinding "live").field "binding"
      = .ok (.str (sampleDigest verifiedContent.dump)) := by
    rw [sampleDigest_verified]
    rfl
  obtain ⟨binding, hbinding, hcounts, _⟩ := hstale verifiedContent
    (sampleLedger [.str "no link cable"]) assumedContent (passedRecord verifiedBinding "live")
    content_verified content_assumed contents_differ
    (fun h => absurd h digests_differ) hbound
  exact ⟨binding, hbinding, hcounts⟩

/-- A record counts again when the ledger returns to the content it is bound to. -/
theorem earlier_records_count_again :
    ¬ ∀ j j' p p' c c' records v : Json,
      j.find? "porting" = some p → j'.find? "porting" = some p' →
      validatePorting sampleDigest j = .ok () → validatePorting sampleDigest j' = .ok () →
      content p = .ok c → content p' = .ok c' → c ≠ c' →
      sampleDigest c.dump ≠ sampleDigest c'.dump →
      p.field "verification" = .ok records → v ∈ records.elements →
      ∀ binding, portBinding sampleDigest p' = .ok binding → counts binding p' v = .ok false := by
  intro h
  have hcounts := h (sampleProject [.str "no link cable"]) (sampleProject [])
    (sampleLedger [.str "no link cable"]) (sampleLedger []) assumedContent verifiedContent
    passedRecords (passedRecord verifiedBinding "live") rfl rfl (by decide +kernel)
    (by decide +kernel) content_assumed content_verified contents_differ.symm
    digests_differ.symm rfl (by simp [passedRecords, Json.elements]) verifiedBinding
    (by rw [portBinding_eq content_verified, sampleDigest_verified])
  revert hcounts
  decide +kernel

end ProtoTime.Space
