import Mathlib.Data.List.Dedup
import Mathlib.Data.String.Basic
import Mathlib.Tactic.SplitIfs
import ProtoTime.Chains
import ProtoTime.Space.Ingest

/-!
The blocks of a captured project: the chains of instructions that fall through to an instruction
with no other predecessor, and the edges between them.
-/
namespace ProtoTime.Space

open GameBoy (Byte Addr)

structure CodeBlock where
  id : String
  instructions : List String
  deriving DecidableEq

/-- An edge between blocks; one that is not resolved keeps its target. -/
structure GraphEdge where
  source : String
  target : String
  targetLocation : Location
  kind : String
  toInstruction : Option String
  deriving DecidableEq

structure BlockDocument where
  blocks : List CodeBlock
  graphEdges : List GraphEdge

namespace BlockDocument

def owner (d : BlockDocument) (id : String) : Option String :=
  (d.blocks.find? fun block => id ∈ block.instructions).map CodeBlock.id

/-- The second instruction is listed directly behind the first one. -/
def Follows (d : BlockDocument) (a b : String) : Prop :=
  ∃ block ∈ d.blocks, [a, b] <:+: block.instructions

instance decidableFollows (d : BlockDocument) (a b : String) : Decidable (d.Follows a b) :=
  inferInstanceAs (Decidable (∃ block ∈ d.blocks, [a, b] <:+: block.instructions))

end BlockDocument

namespace CapturedProject

def ids (p : CapturedProject) : List String := p.instructions.map Instruction.id

/-- The instruction at a location where no other is. -/
def resolve (p : CapturedProject) (target : Location) : String :=
  match p.instructions.filter fun n => n.location == target with
  | [n] => n.id
  | _ => "unresolved:" ++ decimal target.toNat

def destination (p : CapturedProject) (e : Edge) : String :=
  e.toInstruction.getD (p.resolve e.targetLocation)

def flowOf (p : CapturedProject) (id : String) : Option Flow :=
  (p.instructions.find? fun n => n.id == id).map Instruction.flow

/-- The last fallthrough edge of an instruction that falls through. -/
def successor (p : CapturedProject) (a : String) : Option String :=
  if p.flowOf a = some .fallthrough then
    (p.edges.filter fun e => e.source == a && e.kind == "fallthrough").getLast?.map p.destination
  else none

/-- The number of distinct predecessors. -/
def incoming (p : CapturedProject) (b : String) : ℕ :=
  ((p.edges.filter fun e => p.destination e == b).map Edge.source).dedup.length

/-- The instruction a block goes on with. -/
def next (p : CapturedProject) (a : String) : Option String :=
  (p.successor a).filter fun b => p.incoming b == 1

def blocks (p : CapturedProject) : List CodeBlock :=
  (Chains.chains p.ids p.next).map fun chain => ⟨chain.headD "", chain⟩

def blockEdge (p : CapturedProject) (d : BlockDocument) (e : Edge) : GraphEdge where
  source := (d.owner e.source).getD ""
  target := (d.owner (p.destination e)).getD (p.destination e)
  targetLocation := e.targetLocation
  kind := e.kind
  toInstruction := e.toInstruction

def isGraphEdge (e : GraphEdge) : Bool := e.source != e.target || e.kind != "fallthrough"

def document (p : CapturedProject) : BlockDocument :=
  let d : BlockDocument := { blocks := p.blocks, graphEdges := [] }
  { d with graphEdges := (p.edges.map (p.blockEdge d)).filter isGraphEdge }

/-- What holds of the instructions and the edges of every capture. -/
structure Sound (p : CapturedProject) : Prop where
  sorted : p.ids.Pairwise (· < ·)
  sources : ∀ e ∈ p.edges, e.source ∈ p.ids
  previous : p.previous ≠ "" → p.previous ∈ p.ids

/-- The fallthroughs from an instruction of a block to the one listed behind it. -/
def IsLink (p : CapturedProject) (d : BlockDocument) (e : Edge) : Prop :=
  e.kind = "fallthrough" ∧ d.Follows e.source (p.destination e)

instance decidableIsLink (p : CapturedProject) (d : BlockDocument) (e : Edge) :
    Decidable (p.IsLink d e) :=
  inferInstanceAs (Decidable (e.kind = "fallthrough" ∧ d.Follows e.source (p.destination e)))

/-- The blocks are basic blocks: each instruction is in one block, inside of a block control enters
and leaves only in order, and the other edges are those of the graph. -/
structure BasicBlocks (p : CapturedProject) (d : BlockDocument) : Prop where
  partition : (d.blocks.flatMap CodeBlock.instructions).Perm p.ids
  ids : (d.blocks.map CodeBlock.id).Nodup
  edge : ∀ a b, d.Follows a b → ∃ e ∈ p.edges, e.source = a ∧ p.destination e = b
  predecessor : ∀ a b, d.Follows a b → ∀ e ∈ p.edges, p.destination e = b → e.source = a
  successor : ∀ a b, d.Follows a b → ∀ e ∈ p.edges, e.source = a → p.destination e = b
  graph : d.graphEdges = (p.edges.filter fun e => ¬ p.IsLink d e).map (p.blockEdge d)

/-- A link of a block: the successor of an instruction, with no other predecessor, unless it comes
first in a cycle of links. -/
def Joined (p : CapturedProject) (a b : String) : Prop := Chains.Joined p.ids p.next a b

/-- The links are the only ways on, and no fallthrough leads back into the links it comes from. -/
structure SingleSuccessors (p : CapturedProject) : Prop where
  single : ∀ a b, p.Joined a b → ∀ e ∈ p.edges, e.source = a → p.destination e = b
  forward : ∀ e ∈ p.edges, e.kind = "fallthrough" → ¬ p.Joined e.source (p.destination e) →
    ¬ Relation.ReflTransGen p.Joined (p.destination e) e.source

variable {a b : String} {p : CapturedProject}

theorem successor_edge (h : p.successor a = some b) :
    ∃ e ∈ p.edges, e.source = a ∧ p.destination e = b := by
  unfold successor at h
  split at h
  · obtain ⟨e, he, hb⟩ := Option.map_eq_some_iff.mp h
    obtain ⟨hmem, htest⟩ := List.mem_filter.mp (List.mem_of_getLast? he)
    rw [Bool.and_eq_true, beq_iff_eq] at htest
    exact ⟨e, hmem, htest.1, hb⟩
  · cases h

theorem next_iff :
    p.next a = some b ↔ p.successor a = some b ∧ p.incoming b = 1 := by
  unfold next
  rw [Option.filter_eq_some_iff, beq_iff_eq]

theorem sole_source (h : p.next a = some b) :
    ∀ e ∈ p.edges, p.destination e = b → e.source = a := by
  obtain ⟨hsuccessor, hincoming⟩ := next_iff.mp h
  obtain ⟨edge, hedge, hsource, hdestination⟩ := successor_edge hsuccessor
  obtain ⟨source, hsources⟩ := List.length_eq_one_iff.mp hincoming
  have hmem (e : Edge) (he : e ∈ p.edges) (hb : p.destination e = b) : e.source = source := by
    have hin : e.source ∈ ((p.edges.filter fun e => p.destination e == b).map Edge.source).dedup :=
      List.mem_dedup.mpr (List.mem_map_of_mem (List.mem_filter.mpr ⟨he, beq_iff_eq.mpr hb⟩))
    rw [hsources] at hin
    exact List.mem_singleton.mp hin
  intro e he hb
  rw [hmem e he hb, ← hmem edge hedge hdestination, hsource]

theorem linkedOnce (p : CapturedProject) : Chains.LinkedOnce p.ids p.next := by
  intro a _ a' _ b h h'
  obtain ⟨e, he, hsource, hdestination⟩ := successor_edge (next_iff.mp h).1
  rw [← hsource]
  exact sole_source h' e he hdestination

theorem all_of_length_filter {α : Type} {l : List α} {strong weak : α → Bool}
    (hlength : (l.filter strong).length = (l.filter weak).length)
    (himp : ∀ x ∈ l, strong x = true → weak x = true) :
    ∀ x ∈ l, weak x = true → strong x = true := by
  have hboth : l.filter strong = (l.filter weak).filter strong := by
    rw [List.filter_filter]
    refine List.filter_congr fun x hx => ?_
    cases hstrong : strong x with
    | false => rfl
    | true => exact (himp x hx hstrong).symm
  rw [hboth, List.length_filter_eq_length_iff] at hlength
  exact fun x hx hweak => hlength x (List.mem_filter.mpr ⟨hx, hweak⟩)

theorem graphEdges_eq (p : CapturedProject) :
    p.document.graphEdges =
    (p.edges.filter fun e => isGraphEdge (p.blockEdge p.document e)).map
      (p.blockEdge p.document) := by
  show (p.edges.map (p.blockEdge p.document)).filter isGraphEdge = _
  rw [List.filter_map]
  rfl

section

variable {p : CapturedProject} (h : p.Sound)

include h

theorem complete_blocks : Chains.Complete p.ids p.next (Chains.chains p.ids p.next) ∧
    ∀ a ∈ p.ids, a ∈ (Chains.chains p.ids p.next).flatten :=
  Chains.complete_chains p.linkedOnce h.sorted

theorem follows_iff : p.document.Follows a b ↔ p.Joined a b := by
  obtain ⟨hcomplete, hall⟩ := complete_blocks h
  refine Iff.trans ?_ (hcomplete.infix_iff_joined p.linkedOnce hall)
  constructor
  · rintro ⟨block, hblock, hinfix⟩
    obtain ⟨chain, hchain, rfl⟩ := List.mem_map.mp hblock
    exact ⟨chain, hchain, hinfix⟩
  · rintro ⟨chain, hchain, hinfix⟩
    exact ⟨_, List.mem_map_of_mem hchain, hinfix⟩

theorem owner_eq {chain : List String} (hchain : chain ∈ Chains.chains p.ids p.next)
    (ha : a ∈ chain) : p.document.owner a = chain.head? := by
  obtain ⟨hcomplete, -⟩ := complete_blocks h
  have hfind : (Chains.chains p.ids p.next).find? (fun chain => a ∈ chain) = some chain := by
    cases hfirst : (Chains.chains p.ids p.next).find? (fun chain => a ∈ chain) with
    | none => exact absurd (decide_eq_true ha) (List.find?_eq_none.mp hfirst chain hchain)
    | some other =>
      have hmem : a ∈ other := by simpa using List.find?_some hfirst
      rw [hcomplete.chain_eq (List.mem_of_find?_eq_some hfirst) hchain hmem ha]
  have hdocument : p.document.owner a =
      (p.blocks.find? fun block => a ∈ block.instructions).map CodeBlock.id := rfl
  rw [hdocument, blocks, List.find?_map]
  have hsame : ((fun block : CodeBlock => decide (a ∈ block.instructions)) ∘
      fun chain => (⟨chain.headD "", chain⟩ : CodeBlock)) = fun chain => decide (a ∈ chain) := rfl
  rw [hsame, hfind]
  cases chain with
  | nil => exact absurd rfl (hcomplete.nonempty _ hchain)
  | cons x chain => rfl

variable {e : Edge}

/-- Two instructions have the same owner when they are in the same chain. -/
theorem same_owner_iff (he : e ∈ p.edges) :
    (p.blockEdge p.document e).source = (p.blockEdge p.document e).target ↔
      ∃ chain ∈ Chains.chains p.ids p.next, e.source ∈ chain ∧ p.destination e ∈ chain := by
  obtain ⟨hcomplete, hall⟩ := complete_blocks h
  obtain ⟨chain, hchain, hmem⟩ := List.mem_flatten.mp (hall e.source (h.sources e he))
  obtain ⟨head, hhead⟩ : ∃ head, chain.head? = some head := by
    cases chain with
    | nil => cases hmem
    | cons x chain => exact ⟨x, rfl⟩
  have hsource : (p.blockEdge p.document e).source = head := by
    show (p.document.owner e.source).getD "" = head
    rw [owner_eq h hchain hmem, hhead]
    rfl
  have htarget : (p.blockEdge p.document e).target =
      (p.document.owner (p.destination e)).getD (p.destination e) := rfl
  rw [hsource, htarget]
  by_cases hknown : p.destination e ∈ (Chains.chains p.ids p.next).flatten
  · obtain ⟨other, hother, hdestination⟩ := List.mem_flatten.mp hknown
    rw [owner_eq h hother hdestination]
    constructor
    · intro heq
      cases hfirst : other.head? with
      | none =>
        rw [List.head?_eq_none_iff.mp hfirst] at hdestination
        cases hdestination
      | some x =>
        rw [hfirst] at heq
        obtain rfl : head = x := heq
        refine ⟨chain, hchain, hmem, ?_⟩
        rwa [hcomplete.chain_eq hchain hother (List.mem_of_head? hhead) (List.mem_of_head? hfirst)]
    · rintro ⟨same, hsame, hin, hin'⟩
      rw [← owner_eq h hother hdestination, owner_eq h hsame hin', ← owner_eq h hsame hin,
        owner_eq h hchain hmem, hhead]
      rfl
  · have hnone : p.document.owner (p.destination e) = none := by
      have hdocument : p.document.owner (p.destination e) =
          (p.blocks.find? fun block => p.destination e ∈ block.instructions).map CodeBlock.id := rfl
      rw [hdocument, Option.map_eq_none_iff, List.find?_eq_none]
      intro block hblock
      obtain ⟨other, hother, rfl⟩ := List.mem_map.mp hblock
      rw [decide_eq_true_eq]
      exact fun hin => hknown (List.mem_flatten.mpr ⟨other, hother, hin⟩)
    rw [hnone]
    constructor
    · intro heq
      refine absurd ?_ hknown
      rw [← show head = p.destination e from heq]
      exact List.mem_flatten.mpr ⟨chain, hchain, List.mem_of_head? hhead⟩
    · rintro ⟨other, hother, -, hin⟩
      exact absurd (List.mem_flatten.mpr ⟨other, hother, hin⟩) hknown

theorem partition_blocks : (p.document.blocks.flatMap CodeBlock.instructions).Perm p.ids := by
  obtain ⟨hcomplete, hall⟩ := complete_blocks h
  have hflat : p.document.blocks.flatMap CodeBlock.instructions =
      (Chains.chains p.ids p.next).flatten := by
    show p.blocks.flatMap CodeBlock.instructions = _
    rw [blocks, List.flatMap_map, List.flatMap_id']
  have hids : p.ids.Nodup := h.sorted.imp fun hlt => ne_of_lt hlt
  rw [hflat, List.perm_ext_iff_of_nodup hcomplete.nodup hids]
  exact fun a => ⟨hcomplete.fresh a, hall a⟩

theorem nodup_block_ids : (p.document.blocks.map CodeBlock.id).Nodup := by
  obtain ⟨hcomplete, -⟩ := complete_blocks h
  have hmap : p.document.blocks.map CodeBlock.id =
      (Chains.chains p.ids p.next).map fun chain => chain.headD "" := by
    show p.blocks.map CodeBlock.id = _
    rw [blocks, List.map_map]
    rfl
  rw [hmap, List.Nodup, List.pairwise_map]
  refine List.Pairwise.imp_of_mem ?_ (List.nodup_flatten.mp hcomplete.nodup).2
  intro chain other hchain hother hdisjoint heq
  cases chain with
  | nil => exact hcomplete.nonempty _ hchain rfl
  | cons a chain =>
    cases other with
    | nil => exact hcomplete.nonempty _ hother rfl
    | cons b other =>
      obtain rfl : a = b := heq
      exact hdisjoint List.mem_cons_self List.mem_cons_self

theorem not_isGraphEdge_iff (he : e ∈ p.edges) :
    isGraphEdge (p.blockEdge p.document e) = false ↔ e.kind = "fallthrough" ∧
      ∃ chain ∈ Chains.chains p.ids p.next, e.source ∈ chain ∧ p.destination e ∈ chain := by
  rw [← same_owner_iff h he, isGraphEdge, Bool.or_eq_false_iff, bne_eq_false_iff_eq,
    bne_eq_false_iff_eq, and_comm]
  rfl

theorem same_chain_iff {x y : String} (hx : x ∈ p.ids) :
    (∃ chain ∈ Chains.chains p.ids p.next, x ∈ chain ∧ y ∈ chain) ↔
      Relation.ReflTransGen p.Joined x y ∨ Relation.ReflTransGen p.Joined y x := by
  obtain ⟨hcomplete, hall⟩ := complete_blocks h
  constructor
  · rintro ⟨chain, hchain, hin, hin'⟩
    exact hcomplete.joined_of_mem p.linkedOnce hall hchain hin hin'
  · rintro (hreach | hreach)
    · obtain ⟨chain, hchain, hmem⟩ := List.mem_flatten.mp (hall x hx)
      exact ⟨chain, hchain, hmem, hcomplete.mem_of_joined hchain hmem hreach⟩
    · rcases Relation.ReflTransGen.cases_head hreach with rfl | ⟨z, hjoined, -⟩
      · obtain ⟨chain, hchain, hmem⟩ := List.mem_flatten.mp (hall y hx)
        exact ⟨chain, hchain, hmem, hmem⟩
      · obtain ⟨chain, hchain, hmem⟩ := List.mem_flatten.mp (hall y hjoined.1.1)
        exact ⟨chain, hchain, hcomplete.mem_of_joined hchain hmem hreach, hmem⟩

theorem not_isGraphEdge_of_isLink (he : e ∈ p.edges) (hlink : p.IsLink p.document e) :
    isGraphEdge (p.blockEdge p.document e) = false := by
  rw [not_isGraphEdge_iff h he, same_chain_iff h (h.sources e he)]
  exact ⟨hlink.1, .inl (.single ((follows_iff h).mp hlink.2))⟩

theorem isGraphEdge_iff (hsingle : p.SingleSuccessors) (he : e ∈ p.edges) :
    isGraphEdge (p.blockEdge p.document e) = true ↔ ¬ p.IsLink p.document e := by
  rw [← Bool.not_eq_false, not_iff_not]
  constructor
  · intro hnone
    rw [not_isGraphEdge_iff h he, same_chain_iff h (h.sources e he)] at hnone
    obtain ⟨hkind, hreach⟩ := hnone
    refine ⟨hkind, (follows_iff h).mpr ?_⟩
    by_contra hnot
    have hforward := hsingle.forward e he hkind hnot
    rcases hreach with hreach | hreach
    · rcases Relation.ReflTransGen.cases_head hreach with heq | ⟨c, hjoined, -⟩
      · rw [← heq] at hforward
        exact hforward .refl
      · rw [hsingle.single _ _ hjoined e he rfl] at hnot
        exact hnot hjoined
    · exact hforward hreach
  · exact not_isGraphEdge_of_isLink h he

theorem singleSuccessors_of_basicBlocks (hbasic : BasicBlocks p p.document) :
    p.SingleSuccessors where
  single a b hjoined := hbasic.successor a b ((follows_iff h).mpr hjoined)
  forward e he hkind hnot hreach := by
    have hlength := congrArg List.length ((graphEdges_eq p).symm.trans hbasic.graph)
    rw [List.length_map, List.length_map] at hlength
    have hkept := all_of_length_filter hlength (fun edge hedge hgraph => by
      refine decide_eq_true fun hlink => ?_
      rw [not_isGraphEdge_of_isLink h hedge hlink] at hgraph
      cases hgraph) e he (decide_eq_true fun hlink => hnot ((follows_iff h).mp hlink.2))
    have hchain := (same_chain_iff h (h.sources e he)).mpr (.inr hreach)
    rw [(not_isGraphEdge_iff h he).mpr ⟨hkind, hchain⟩] at hkept
    cases hkept

theorem basicBlocks_iff : BasicBlocks p p.document ↔ p.SingleSuccessors := by
  constructor
  · exact singleSuccessors_of_basicBlocks h
  · intro hsingle
    refine ⟨partition_blocks h, nodup_block_ids h, ?_, ?_, ?_, ?_⟩
    · intro a b hfollows
      exact successor_edge (next_iff.mp ((follows_iff h).mp hfollows).1.2.2).1
    · intro a b hfollows
      exact sole_source ((follows_iff h).mp hfollows).1.2.2
    · intro a b hfollows
      exact hsingle.single a b ((follows_iff h).mp hfollows)
    · rw [graphEdges_eq]
      refine congrArg _ (List.filter_congr fun e he => ?_)
      rw [Bool.eq_iff_iff, isGraphEdge_iff h hsingle he, decide_eq_true_eq]

end

/-! ## Every capture state -/

/-- A step that leaves the instructions and the edges alone. -/
structure SameGraph (p q : CapturedProject) : Prop where
  ids : q.ids = p.ids
  edges : q.edges = p.edges
  previous : q.previous = p.previous ∨ q.previous = ""

theorem SameGraph.refl (p : CapturedProject) : SameGraph p p := ⟨rfl, rfl, .inl rfl⟩

variable {q : CapturedProject}

theorem SameGraph.trans {r : CapturedProject} (h : SameGraph p q) (h' : SameGraph q r) :
    SameGraph p r where
  ids := h'.ids.trans h.ids
  edges := h'.edges.trans h.edges
  previous := by
    rcases h'.previous with heq | hnone
    · rw [heq]
      exact h.previous
    · exact .inr hnone

theorem SameGraph.foldl {α : Type} {f : CapturedProject → α → CapturedProject}
    (h : ∀ p a, SameGraph p (f p a)) (l : List α) (p : CapturedProject) :
    SameGraph p (l.foldl f p) := by
  induction l generalizing p with
  | nil => exact .refl p
  | cons a l ih => exact (h p a).trans (ih (f p a))

theorem SameGraph.ite {condition : Prop} [Decidable condition]
    (h : SameGraph p q) : SameGraph p (if condition then q else p) := by
  split
  · exact h
  · exact .refl p

theorem Sound.sameGraph (h : p.Sound) (hsame : SameGraph p q) : q.Sound where
  sorted := by
    rw [hsame.ids]
    exact h.sorted
  sources := by
    rw [hsame.ids, hsame.edges]
    exact h.sources
  previous hne := by
    rw [hsame.ids]
    rcases hsame.previous with heq | hnone
    · rw [heq] at hne ⊢
      exact h.previous hne
    · exact absurd hnone hne

variable {f : Instruction → Instruction} (id : String)

theorem ids_modifyInstruction
    (hf : ∀ n, (f n).id = n.id) (p : CapturedProject) : (p.modifyInstruction id f).ids = p.ids := by
  unfold modifyInstruction ids
  rw [List.map_map]
  refine List.map_congr_left fun n _ => ?_
  rw [Function.comp_apply]
  split
  · exact hf n
  · rfl

theorem sameGraph_modifyInstruction
    (hf : ∀ n, (f n).id = n.id) (p : CapturedProject) : SameGraph p (p.modifyInstruction id f) :=
  ⟨ids_modifyInstruction id hf p, rfl, .inl rfl⟩

theorem id_capture (key : StateKey) (value : CapturedValue) (shown : Bool) (n : Instruction) :
    (Instruction.capture key value shown n).id = n.id := by
  unfold Instruction.capture
  cases key with
  | register name =>
    dsimp only
    split <;> rfl
  | memory location =>
    dsimp only
    cases hardwareLabel location with
    | none =>
      dsimp only
      split <;> rfl
    | some label =>
      dsimp only
      split_ifs <;> rfl

theorem sameGraph_dep (key : StateKey) (value : Addr) (access : Access)
    (accepted : Bool) (kind : String) (amend : Dependency → Dependency) (p : CapturedProject) :
    SameGraph p (p.dep id key value access accepted kind amend) := by
  have hpushed : SameGraph p { p with
      dependencies := p.dependencies ++ [amend (p.dependencyOf id key value access accepted kind)]
      branchCounter := p.branchCounter + 1 } := ⟨rfl, rfl, .inl rfl⟩
  have hnoted (q : CapturedProject) : SameGraph q (q.noteWriter id key value kind) :=
    ⟨rfl, rfl, .inl rfl⟩
  exact (hpushed.trans (hnoted _).ite).trans
    (sameGraph_modifyInstruction id (id_capture key _ _) _).ite

theorem sameGraph_laneDependency (info : OperandInfo) (e : Record)
    (p : CapturedProject) (lane : RegisterLane × ℕ) :
    SameGraph p (laneDependency id info e p lane) := by
  unfold laneDependency
  refine SameGraph.trans ?_ (sameGraph_modifyInstruction id ?_ _)
  · refine SameGraph.trans ?_ (sameGraph_dep _ _ _ _ _ _ _ _).ite
    exact (sameGraph_dep _ _ _ _ _ _ _ p).ite
  · exact fun n => rfl

theorem sameGraph_accessDependency (e : Record) (p : CapturedProject) (a : Record) :
    SameGraph p (accessDependency id e p a) := by
  unfold accessDependency
  split
  · exact .refl p
  · exact sameGraph_dep _ _ _ _ _ _ _ p

theorem sameGraph_boundaryDependency (e : Record) (p : CapturedProject) (lane : RegisterLane) :
    SameGraph p (boundaryDependency e p lane) := by
  exact (sameGraph_dep _ _ _ _ _ _ _ p).ite

theorem ids_orderedInsert {l : List Instruction} {n : Instruction}
    (h : (l.map Instruction.id).Pairwise (· < ·)) (hnew : n.id ∉ l.map Instruction.id) :
    ((l.orderedInsert (fun m n => m.id ≤ n.id) n).map Instruction.id).Pairwise (· < ·) := by
  induction l with
  | nil => simp
  | cons m l ih =>
    obtain ⟨hless, hsorted⟩ := List.pairwise_cons.mp h
    rw [List.map_cons, List.mem_cons, not_or] at hnew
    obtain ⟨hne, hnot⟩ := hnew
    rw [List.orderedInsert_cons]
    split
    · rename_i hle
      have hlt := lt_of_le_of_ne hle hne
      exact List.pairwise_cons.mpr
        ⟨List.forall_mem_cons.mpr ⟨hlt, fun id hid => hlt.trans (hless id hid)⟩, h⟩
    · rename_i hle
      refine List.pairwise_cons.mpr ⟨fun id hid => ?_, ih hsorted hnot⟩
      obtain ⟨k, hk, rfl⟩ := List.mem_map.mp hid
      rcases (List.mem_orderedInsert _).mp hk with rfl | hk
      · exact not_le.mp hle
      · exact hless k.id (List.mem_map_of_mem hk)

/-- The identity is inserted in order, the others stay. -/
theorem Sound.upsertInstruction (h : p.Sound) (fresh : Instruction) (hf : ∀ n, (f n).id = n.id) :
    (p.upsertInstruction fresh f).Sound ∧ fresh.id ∈ (p.upsertInstruction fresh f).ids := by
  unfold CapturedProject.upsertInstruction
  split
  · rename_i hany
    obtain ⟨n, hn, hid⟩ := List.any_eq_true.mp hany
    refine ⟨h.sameGraph (sameGraph_modifyInstruction fresh.id hf p), ?_⟩
    rw [ids_modifyInstruction fresh.id hf p, ← beq_iff_eq.mp hid]
    exact List.mem_map_of_mem hn
  · rename_i hany
    have hnew : (f fresh).id ∉ p.ids := by
      intro hmem
      obtain ⟨n, hn, hid⟩ := List.mem_map.mp hmem
      exact hany (List.any_eq_true.mpr ⟨n, hn, beq_iff_eq.mpr (hid.trans (hf fresh))⟩)
    have hids (id : String) : id ∈ ({ p with
        instructions := p.instructions.orderedInsert (fun m n => m.id ≤ n.id) (f fresh) } :
          CapturedProject).ids ↔ id = fresh.id ∨ id ∈ p.ids := by
      have hperm := (List.perm_orderedInsert (fun m n : Instruction => m.id ≤ n.id) (f fresh)
        p.instructions).map Instruction.id
      rw [ids, hperm.mem_iff, List.map_cons, List.mem_cons, hf]
      rfl
    refine ⟨⟨ids_orderedInsert h.sorted hnew, ?_, ?_⟩, (hids fresh.id).mpr (.inl rfl)⟩
    · exact fun e he => (hids e.source).mpr (.inr (h.sources e he))
    · exact fun hne => (hids p.previous).mpr (.inr (h.previous hne))

theorem Sound.addEdge (h : p.Sound) {e : Edge} (he : e.source ∈ p.ids) :
    (p.addEdge e).Sound := by
  unfold CapturedProject.addEdge
  split
  · exact h
  · refine ⟨h.sorted, ?_, h.previous⟩
    intro edge hedge
    rcases List.mem_append.mp hedge with hedge | hedge
    · exact h.sources edge hedge
    · rw [List.mem_singleton.mp hedge]
      exact he

theorem ids_addEdge (e : Edge) (p : CapturedProject) : (p.addEdge e).ids = p.ids := by
  unfold CapturedProject.addEdge
  split <;> rfl

/-- What an edge keeps: the instructions and that the project is sound. -/
def Extends (id : String) (p q : CapturedProject) : Prop :=
  p.Sound ∧ id ∈ p.ids → q.Sound ∧ id ∈ q.ids

theorem Extends.ite {id : String} {condition : Prop} [Decidable condition]
    (h : Extends id p q) : Extends id p (if condition then q else p) := by
  split
  · exact h
  · exact fun hp => hp

theorem extends_addEdge (target : Location) (kind : String) (ending : Option String)
    (p : CapturedProject) : Extends id p (p.addEdge ⟨id, target, kind, ending⟩) := by
  rintro ⟨hsound, hmem⟩
  refine ⟨hsound.addEdge hmem, ?_⟩
  rwa [ids_addEdge]

theorem extends_addEdges (info : OperandInfo) (e : Record) (p : CapturedProject) :
    Extends id p (p.addEdges id info e) := by
  intro h
  have hprevious : (if p.previous ≠ "" then
      p.addEdge ⟨p.previous, p.begun.location, "observed", some id⟩ else p).Sound ∧
      id ∈ (if p.previous ≠ "" then
        p.addEdge ⟨p.previous, p.begun.location, "observed", some id⟩ else p).ids := by
    split
    · rename_i hne
      refine ⟨h.1.addEdge (h.1.previous hne), ?_⟩
      rw [ids_addEdge]
      exact h.2
    · exact h
  unfold addEdges
  generalize (if p.previous ≠ "" then
    p.addEdge ⟨p.previous, p.begun.location, "observed", some id⟩ else p) = q at hprevious ⊢
  split
  · exact extends_addEdge id _ _ _ q hprevious
  · refine Extends.ite (fun hq => ?_) hprevious
    refine (extends_addEdge id _ _ _ _).ite ?_
    exact (extends_addEdge id _ _ _ _).ite (extends_addEdge id _ _ _ q hq)

theorem Sound.recordInstruction (h : p.Sound) (id : String)
    (info : OperandInfo) (e : Record) : (p.recordInstruction id info e).Sound := by
  have hupsert := h.upsertInstruction (p.freshInstruction id info e)
    (f := p.visitInstruction info e) fun _ => rfl
  have hedges := extends_addEdges id info e _ hupsert
  unfold CapturedProject.recordInstruction
  dsimp only
  generalize CapturedProject.addEdges id info e
    (p.upsertInstruction (p.freshInstruction id info e) (p.visitInstruction info e)) = q at hedges ⊢
  have hlink : SameGraph q (q.linkTransfer id) := by
    unfold linkTransfer
    split
    · exact .refl q
    · exact ⟨rfl, rfl, .inl rfl⟩
  have hsound := hedges.1.sameGraph hlink
  refine ⟨hsound.sorted, hsound.sources, fun _ => ?_⟩
  show id ∈ (q.linkTransfer id).ids
  rw [hlink.ids]
  exact hedges.2

theorem sameGraph_visitOfBoundary (e : Record) (p : CapturedProject) :
    SameGraph p (p.visitOfBoundary e) := by
  have hinterrupt : SameGraph p (p.recordInterrupt e) := by
    unfold recordInterrupt
    dsimp only
    split <;> exact ⟨rfl, rfl, .inr rfl⟩
  have hboundary (q : CapturedProject) : SameGraph q (q.addBoundary e) := ⟨rfl, rfl, .inl rfl⟩
  exact ((hinterrupt.trans (.foldl (sameGraph_accessDependency "" e) _ _)).trans
    (hboundary _)).trans (.foldl (sameGraph_boundaryDependency e) _ _)

theorem sameGraph_stopAt (reason : String) (p : CapturedProject) : SameGraph p (p.stopAt reason) :=
  ⟨rfl, rfl, .inr rfl⟩

theorem sameGraph_reserve {charge : ℕ} (h : p.reserve charge = some q) :
    SameGraph p q := by
  unfold reserve at h
  split at h
  · cases h
  · split at h
    · obtain rfl := Option.some.inj h
      exact ⟨rfl, rfl, .inl rfl⟩
    · obtain ⟨shared, -, rfl⟩ := Option.map_eq_some_iff.mp h
      exact ⟨rfl, rfl, .inl rfl⟩

theorem Sound.visitOfInstruction (h : p.Sound) (id : String)
    (info : OperandInfo) (e : Record) : (p.visitOfInstruction id info e).Sound := by
  have hlanes := SameGraph.foldl (sameGraph_laneDependency id info e) p.core.lanes.zipIdx
    (p.recordInstruction id info e)
  exact ((h.recordInstruction id info e).sameGraph hlanes).sameGraph
    (.foldl (sameGraph_accessDependency id e) _ _)

section

variable (digest : List UInt8 → String)

theorem Sound.recordVisit (h : p.Sound) (e : Record) :
    (p.recordVisit digest e).Sound := by
  have hvisit : SameGraph p { p with visit := p.visit + 1, revision := p.revision + 1 } :=
    ⟨rfl, rfl, .inl rfl⟩
  have hsound := h.sameGraph hvisit
  unfold CapturedProject.recordVisit
  split
  · exact hsound.visitOfInstruction _ _ e
  · exact hsound.sameGraph (sameGraph_visitOfBoundary e _)

theorem Sound.finish (h : p.Sound) (e : Record) :
    (p.finish digest e).Sound := by
  unfold CapturedProject.finish
  split
  · exact h.sameGraph (sameGraph_stopAt _ p)
  · split
    · exact h.sameGraph (sameGraph_stopAt _ p)
    · rename_i hreserve
      exact (h.sameGraph (sameGraph_reserve hreserve)).recordVisit digest e

theorem sameGraph_ingestInput (r : Record) (p : CapturedProject) :
    SameGraph p (p.ingestInput r) := by
  unfold ingestInput
  split
  · exact sameGraph_stopAt _ p
  · rename_i hreserve
    exact (sameGraph_reserve hreserve).trans ⟨rfl, rfl, .inl rfl⟩

theorem sameGraph_ingestBegin (r : Record) (p : CapturedProject) :
    SameGraph p (p.ingestBegin r) := by
  unfold ingestBegin
  split
  · exact ⟨rfl, rfl, .inr rfl⟩
  · exact ⟨rfl, rfl, .inl rfl⟩

theorem sameGraph_ingestActive (r : Record) (p : CapturedProject) :
    SameGraph p (p.ingestActive r) := by
  have haccess (q : CapturedProject) : SameGraph q (q.addAccess r) := by
    unfold addAccess
    split
    · exact sameGraph_stopAt _ q
    · exact ⟨rfl, rfl, .inl rfl⟩
  have hchunk : SameGraph p (p.addChunk r) := ⟨rfl, rfl, .inl rfl⟩
  unfold ingestActive
  split
  · split
    · exact ⟨rfl, rfl, .inr rfl⟩
    · exact hchunk.trans (haccess _)
  · exact haccess p

theorem Sound.ingest (h : p.Sound) (r : Record) :
    (p.ingest digest r).Sound := by
  have hinactive {q : CapturedProject} (hq : q.Sound) : ({ q with active := false }).Sound :=
    hq.sameGraph ⟨rfl, rfl, .inl rfl⟩
  unfold CapturedProject.ingest
  split
  · exact h
  split
  · exact h.sameGraph (sameGraph_ingestInput r p)
  split
  · exact h.sameGraph (sameGraph_ingestBegin r p)
  split
  · refine hinactive ?_
    split
    · exact h.finish digest r
    · exact h
  split
  · exact h.sameGraph (sameGraph_ingestActive r p)
  split
  · have hbegun : SameGraph p { p with begun := {}, accesses := [r] } := ⟨rfl, rfl, .inl rfl⟩
    exact (h.sameGraph hbegun).finish digest _
  · exact h

theorem Sound.foldl_ingest (h : p.Sound) (records : List Record) :
    (records.foldl (CapturedProject.ingest digest) p).Sound := by
  induction records generalizing p with
  | nil => exact h
  | cons r records ih => exact ih (h.ingest digest r)

theorem sound_freshProject (core : CapturedCore) : (freshProject core).Sound :=
  ⟨.nil, nofun, fun h => absurd rfl h⟩

/-- Whatever a sound capture records, its document has basic blocks just when its links are the
only ways on. -/
theorem document_basicBlocks_iff (records : List Record) (p : CapturedProject) (h : p.Sound) :
    BasicBlocks (records.foldl (CapturedProject.ingest digest) p)
        (records.foldl (CapturedProject.ingest digest) p).document ↔
      SingleSuccessors (records.foldl (CapturedProject.ingest digest) p) :=
  basicBlocks_iff (h.foldl_ingest digest records)

end

theorem five_lt : 5 < 20 := by decide

/-- The records of an instruction of one byte in the first two banks of a cartridge. -/
def visitOf (opcode : Byte) (location : Location) (pc : Addr) (target : Location) (after : Addr) :
    List Record :=
  [{ kind := .begin, location := location, registers := (Vector.replicate 20 0).set 5 pc five_lt },
   { kind := .fetch, location := location, fetchLength := 1,
     fetchBytes := (Vector.replicate 64 0).set 0 opcode },
   { kind := .ending, location := target, length := 1, bytes := (Vector.replicate 3 0).set 0 opcode,
     registers := (Vector.replicate 20 0).set 5 after five_lt }]

/-- `INC A` and `LD (HL),A` select a bank that the code goes on in: first the one with a `RET` back
to `INC A`, then the next one. -/
def switchedBanks : List Record :=
  visitOf 0x3C 0x100003FFE 0x3FFE 0x100003FFF 0x3FFF ++
    visitOf 0x77 0x100003FFF 0x3FFF 0x100010000 0x4000 ++
    visitOf 0xC9 0x100010000 0x4000 0x100003FFE 0x3FFE ++
    visitOf 0x3C 0x100003FFE 0x3FFE 0x100003FFF 0x3FFF ++
    visitOf 0x77 0x100003FFF 0x3FFF 0x100020000 0x4000 ++
    visitOf 0x00 0x100020000 0x4000 0x100020001 0x4001

def textDigest (text : List UInt8) : String := String.ofList (text.map fun b => Char.ofNat b.toNat)

theorem document_basicBlocks_iff_switchedBanks :
    BasicBlocks (switchedBanks.foldl (CapturedProject.ingest textDigest) (freshProject .gameboy))
        (switchedBanks.foldl (CapturedProject.ingest textDigest) (freshProject .gameboy)).document ↔
      SingleSuccessors
        (switchedBanks.foldl (CapturedProject.ingest textDigest) (freshProject .gameboy)) :=
  document_basicBlocks_iff textDigest switchedBanks (freshProject .gameboy) (sound_freshProject _)

/-- The instruction that selects the bank has two ways on, and its block goes on with one. -/
theorem switchedBanks_not_basicBlocks : ¬ BasicBlocks
    (switchedBanks.foldl (CapturedProject.ingest textDigest) (freshProject .gameboy))
    (switchedBanks.foldl (CapturedProject.ingest textDigest) (freshProject .gameboy)).document := by
  generalize hproject :
    switchedBanks.foldl (CapturedProject.ingest textDigest) (freshProject .gameboy) = p
  intro h
  have hfollows : ∃ block ∈ p.document.blocks, ∃ a ∈ p.ids, ∃ b ∈ p.ids,
      [a, b] <:+: block.instructions ∧ ∃ e ∈ p.edges, e.source = a ∧ p.destination e ≠ b := by
    rw [← hproject]
    decide +kernel
  obtain ⟨block, hblock, a, -, b, -, hinfix, e, he, hsource, hne⟩ := hfollows
  exact hne (h.successor a b ⟨block, hblock, hinfix⟩ e he hsource)

end CapturedProject

end ProtoTime.Space
