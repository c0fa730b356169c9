import Mathlib.Data.List.Chain
import Mathlib.Data.List.Infix
import Mathlib.Data.Finite.Defs
import Mathlib.Data.Fintype.EquivFin
import Mathlib.Logic.Relation
import Mathlib.Order.Defs.LinearOrder

/-!
Elements that link to at most one element and are linked from at most one, cut into chains: first
from the elements that nothing links to, then from the first element of each cycle.
-/
namespace ProtoTime.Chains

variable {α : Type} [LinearOrder α] (ids : List α) (next : α → Option α)

/-- The links from an element through the elements that have no owner yet. -/
def follow : ℕ → List α → α → List α
  | 0, _, _ => []
  | n + 1, owned, a =>
    if a ∈ ids ∧ a ∉ owned then
      a :: match next a with
        | none => []
        | some b => follow n (a :: owned) b
    else []

/-- The chains from some elements, each unless it has an owner. -/
def chainsFrom (starts : List α) (chains : List (List α)) : List (List α) :=
  starts.foldl (fun chains a =>
    if a ∈ chains.flatten then chains
    else chains ++ [follow ids next ids.length chains.flatten a]) chains

def isLinked (b : α) : Bool := ids.any fun a => next a == some b

def chains : List (List α) :=
  chainsFrom ids next ids
    (chainsFrom ids next (ids.filter fun b => !isLinked ids next b) [])

/-- A link between two of the elements. -/
def Link (a b : α) : Prop := a ∈ ids ∧ b ∈ ids ∧ next a = some b

def FirstOfCycle (b : α) : Prop :=
  Relation.TransGen (Link ids next) b b ∧ ∀ c, Relation.ReflTransGen (Link ids next) b c → b ≤ c

/-- A link that stays inside of a chain. -/
def Joined (a b : α) : Prop := Link ids next a b ∧ ¬ FirstOfCycle ids next b

variable {ids next}

variable {a : α}

theorem follow_of_not {owned : List α} (h : ¬ (a ∈ ids ∧ a ∉ owned)) (n : ℕ) :
    follow ids next n owned a = [] := by
  cases n with
  | zero => rfl
  | succ n => rw [follow, if_neg h]

structure IsFollowed (ids : List α) (next : α → Option α) (owned : List α) (a : α)
    (chain : List α) : Prop where
  head : chain.head? = some a
  nodup : chain.Nodup
  fresh : ∀ x ∈ chain, x ∈ ids ∧ x ∉ owned
  links : chain.IsChain fun a b => next a = some b
  last : ∀ l ∈ chain.getLast?, ∀ b ∈ ids, next l = some b → b ∈ owned ∨ b ∈ chain

theorem isFollowed_follow (n : ℕ) (owned : List α) (a : α) (ha : a ∈ ids) (hnew : a ∉ owned)
    (hfuel : (ids.filter fun x => x ∉ owned).length ≤ n) :
    IsFollowed ids next owned a (follow ids next n owned a) := by
  induction n generalizing owned a with
  | zero =>
    have hmem : a ∈ ids.filter fun x => x ∉ owned := List.mem_filter.mpr ⟨ha, decide_eq_true hnew⟩
    rw [List.eq_nil_of_length_eq_zero (Nat.le_zero.mp hfuel)] at hmem
    cases hmem
  | succ n ih =>
    rw [follow, if_pos ⟨ha, hnew⟩]
    have hsingle (hlast : ∀ b ∈ ids, next a = some b → b ∈ owned ∨ b = a) :
        IsFollowed ids next owned a [a] := by
      refine ⟨rfl, List.nodup_singleton a, ?_, List.isChain_singleton a, ?_⟩
      · intro x hx
        rw [List.mem_singleton.mp hx]
        exact ⟨ha, hnew⟩
      · intro l hl b hb hnext
        obtain rfl : a = l := Option.some.inj hl
        rw [List.mem_singleton]
        exact hlast b hb hnext
    cases hnext : next a with
    | none => exact hsingle fun b _ h => nomatch hnext.symm.trans h
    | some b =>
      dsimp only
      by_cases hb : b ∈ ids ∧ b ∉ a :: owned
      · have hless : (ids.filter fun x => x ∉ a :: owned).length ≤ n := by
          have hsub : (ids.filter fun x => x ∉ a :: owned).length <
              (ids.filter fun x => x ∉ owned).length := by
            have heq : ids.filter (fun x => x ∉ a :: owned) =
                (ids.filter fun x => x ∉ owned).filter fun x => x ≠ a := by
              rw [List.filter_filter]
              congr 1
              funext x
              simp [not_or]
            rw [heq]
            refine List.length_filter_lt_length_iff_exists.mpr ⟨a, ?_, by simp⟩
            exact List.mem_filter.mpr ⟨ha, decide_eq_true hnew⟩
          omega
        obtain ⟨hhead, hnodup, hfresh, hlinks, hlast⟩ := ih (a :: owned) b hb.1 hb.2 hless
        obtain ⟨rest, hrest⟩ : ∃ rest, follow ids next n (a :: owned) b = b :: rest := by
          cases hfollow : follow ids next n (a :: owned) b with
          | nil =>
            rw [hfollow] at hhead
            cases hhead
          | cons c rest =>
            rw [hfollow] at hhead
            obtain rfl := Option.some.inj hhead
            exact ⟨rest, rfl⟩
        rw [hrest] at hnodup hfresh hlinks hlast ⊢
        refine ⟨rfl, ?_, ?_, List.isChain_cons_cons.mpr ⟨hnext, hlinks⟩, ?_⟩
        · refine List.nodup_cons.mpr ⟨fun h => ?_, hnodup⟩
          exact (hfresh a h).2 List.mem_cons_self
        · intro x hx
          rcases List.mem_cons.mp hx with rfl | hx
          · exact ⟨ha, hnew⟩
          · exact ⟨(hfresh x hx).1, fun h => (hfresh x hx).2 (List.mem_cons_of_mem a h)⟩
        · intro l hl c hc hlc
          rcases hlast l hl c hc hlc with h | h
          · rcases List.mem_cons.mp h with rfl | h
            · exact .inr List.mem_cons_self
            · exact .inl h
          · exact .inr (List.mem_cons_of_mem a h)
      · rw [follow_of_not hb n]
        refine hsingle fun c hc hac => ?_
        obtain rfl : b = c := Option.some.inj (hnext.symm.trans hac)
        simp only [List.mem_cons, not_or, not_and, not_not] at hb
        by_cases hba : b = a
        · exact .inr hba
        · exact .inl (hb hc hba)

/-- Nothing is linked from two elements. -/
def LinkedOnce (ids : List α) (next : α → Option α) : Prop :=
  ∀ a ∈ ids, ∀ a' ∈ ids, ∀ b, next a = some b → next a' = some b → a = a'

/-- Chains that are complete: each starts where nothing links to, or is a cycle from its first
element on. -/
structure Complete (ids : List α) (next : α → Option α) (chains : List (List α)) : Prop where
  nonempty : ∀ chain ∈ chains, chain ≠ []
  nodup : chains.flatten.Nodup
  fresh : ∀ x ∈ chains.flatten, x ∈ ids
  links : ∀ chain ∈ chains, chain.IsChain fun a b => next a = some b
  last : ∀ chain ∈ chains, ∀ l ∈ chain.getLast?, ∀ b ∈ ids, next l = some b → chain.head? = some b
  heads : ∀ chain ∈ chains, ∀ h ∈ chain.head?, (∀ a ∈ ids, next a ≠ some h) ∨
    (∃ l ∈ chain.getLast?, next l = some h) ∧ ∀ c ∈ chain, h ≤ c

theorem complete_nil : Complete ids next [] := ⟨nofun, List.nodup_nil, nofun, nofun, nofun, nofun⟩

variable {chain : List α} {b : α}

section

variable {chains : List (List α)}

section

variable (h : Complete ids next chains)

include h

theorem Complete.next_mem
    (hchain : chain ∈ chains) (ha : a ∈ chain) (hb : b ∈ ids) (hnext : next a = some b) :
    [a, b] <:+: chain ∨ chain.getLast? = some a ∧ chain.head? = some b := by
  obtain ⟨front, back, rfl⟩ := List.append_of_mem ha
  cases back with
  | nil =>
    right
    have hl : (front ++ [a]).getLast? = some a := List.getLast?_concat
    exact ⟨hl, h.last _ hchain a hl b hb hnext⟩
  | cons c back =>
    left
    have hlinks := h.links _ hchain
    rw [List.isChain_append_cons_cons] at hlinks
    obtain rfl : c = b := Option.some.inj (hlinks.2.1.symm.trans hnext)
    exact ⟨front, back, by simp⟩

theorem Complete.next_mem_chain (hchain : chain ∈ chains) (ha : a ∈ chain) (hb : b ∈ ids)
    (hnext : next a = some b) : b ∈ chain := by
  rcases h.next_mem hchain ha hb hnext with hinfix | ⟨-, hhead⟩
  · exact hinfix.subset (by simp)
  · exact List.mem_of_head? hhead

theorem Complete.prev_mem (honce : LinkedOnce ids next) (hchain : chain ∈ chains)
    (ha : a ∈ ids) (hb : b ∈ chain) (hnext : next a = some b) : a ∈ chain := by
  have hids (x : α) (hx : x ∈ chain) : x ∈ ids :=
    h.fresh x (List.mem_flatten.mpr ⟨chain, hchain, hx⟩)
  obtain ⟨front, back, rfl⟩ := List.append_of_mem hb
  rcases List.eq_nil_or_concat front with rfl | ⟨front, c, rfl⟩
  · rcases h.heads _ hchain b rfl with hnone | ⟨⟨l, hl, hlast⟩, -⟩
    · exact absurd hnext (hnone a ha)
    · have hmem : l ∈ [] ++ b :: back := List.mem_of_getLast? hl
      rwa [honce a ha l (hids l hmem) b hnext hlast]
  · have hlinks := h.links _ hchain
    rw [List.concat_eq_append, List.append_assoc, List.singleton_append,
      List.isChain_append_cons_cons] at hlinks
    have hmem : c ∈ front.concat c ++ b :: back := by simp
    rwa [honce a ha c (hids c hmem) b hnext hlinks.2.1]

/-- A followed chain links on to nothing but its head. -/
theorem IsFollowed.last_head (honce : LinkedOnce ids next)
    (hfollowed : IsFollowed ids next chains.flatten a chain) {l : α}
    (hl : chain.getLast? = some l) (hb : b ∈ ids) (hnext : next l = some b) :
    chain.head? = some b := by
  have hlmem : l ∈ chain := List.mem_of_getLast? hl
  rcases hfollowed.last l hl b hb hnext with howned | hmem
  · obtain ⟨other, hother, hbother⟩ := List.mem_flatten.mp howned
    have hlother := h.prev_mem honce hother (hfollowed.fresh l hlmem).1 hbother hnext
    exact absurd (List.mem_flatten.mpr ⟨other, hother, hlother⟩) (hfollowed.fresh l hlmem).2
  · obtain ⟨front, back, rfl⟩ := List.append_of_mem hmem
    rcases List.eq_nil_or_concat front with rfl | ⟨front, c, rfl⟩
    · rfl
    · have hlinks := hfollowed.links
      have hnodup := hfollowed.nodup
      rw [List.concat_eq_append, List.append_assoc, List.singleton_append] at hlinks hnodup hl
      rw [List.isChain_append_cons_cons] at hlinks
      have hcmem : c ∈ front.concat c ++ b :: back := by simp
      obtain rfl : l = c := honce l (hfollowed.fresh l hlmem).1 c (hfollowed.fresh c hcmem).1 b
        hnext hlinks.2.1
      have hlast : l ∈ b :: back := by
        have hlast : (b :: back).getLast? = some l := by
          cases hback : (b :: back).getLast? with
          | none => simp at hback
          | some x => simpa [hback] using hl
        exact List.mem_of_getLast? hlast
      have hdisjoint := (List.nodup_cons.mp (List.nodup_append.mp hnodup).2.1).1
      exact absurd hlast hdisjoint

/-- One more followed chain, when its head is one that chains start with. -/
theorem Complete.add (honce : LinkedOnce ids next)
    (hfollowed : IsFollowed ids next chains.flatten a chain) (hhead : (∀ x ∈ ids, next x ≠ some a) ∨
      (∃ l ∈ chain.getLast?, next l = some a) ∧ ∀ c ∈ chain, a ≤ c) :
    Complete ids next (chains ++ [chain]) := by
  have hcases (other : List α) (hother : other ∈ chains ++ [chain]) :
      other ∈ chains ∨ other = chain := by
    simpa using hother
  refine ⟨?_, ?_, ?_, ?_, ?_, ?_⟩
  · intro other hother
    rcases hcases other hother with hother | rfl
    · exact h.nonempty other hother
    · rintro rfl
      cases hfollowed.head
  · rw [List.flatten_append, List.flatten_singleton]
    refine List.nodup_append.mpr ⟨h.nodup, hfollowed.nodup, ?_⟩
    rintro x hx y hy rfl
    exact (hfollowed.fresh x hy).2 hx
  · intro x hx
    rw [List.flatten_append, List.flatten_singleton, List.mem_append] at hx
    rcases hx with hx | hx
    · exact h.fresh x hx
    · exact (hfollowed.fresh x hx).1
  · intro other hother
    rcases hcases other hother with hother | rfl
    · exact h.links other hother
    · exact hfollowed.links
  · intro other hother l hl b hb hnext
    rcases hcases other hother with hother | rfl
    · exact h.last other hother l hl b hb hnext
    · exact hfollowed.last_head h honce hl hb hnext
  · intro other hother x hx
    rcases hcases other hother with hother | rfl
    · exact h.heads other hother x hx
    · obtain rfl : a = x := Option.some.inj (hfollowed.head.symm.trans hx)
      exact hhead

end

end

theorem chainsFrom_cons (a : α) (starts : List α) (chains : List (List α)) :
    chainsFrom ids next (a :: starts) chains =
      chainsFrom ids next starts (if a ∈ chains.flatten then chains
        else chains ++ [follow ids next ids.length chains.flatten a]) := rfl

theorem isFollowed_fuel (next : α → Option α) (owned : List α) (ha : a ∈ ids) (hnew : a ∉ owned) :
    IsFollowed ids next owned a (follow ids next ids.length owned a) :=
  isFollowed_follow ids.length owned a ha hnew (List.length_filter_le _ _)

variable {x : α}

omit [LinearOrder α] in
theorem mem_flatten_concat {chains : List (List α)} :
    x ∈ (chains ++ [chain]).flatten ↔ x ∈ chains.flatten ∨ x ∈ chain := by
  rw [List.flatten_append, List.flatten_singleton, List.mem_append]

/-- The first chains start where nothing links to; they own their starts. -/
theorem complete_first (honce : LinkedOnce ids next) (starts : List α)
    (hstarts : ∀ a ∈ starts, a ∈ ids ∧ ∀ x ∈ ids, next x ≠ some a) (chains : List (List α))
    (h : Complete ids next chains) :
    Complete ids next (chainsFrom ids next starts chains) ∧
      (∀ x ∈ chains.flatten, x ∈ (chainsFrom ids next starts chains).flatten) ∧
      ∀ a ∈ starts, a ∈ (chainsFrom ids next starts chains).flatten := by
  induction starts generalizing chains with
  | nil => exact ⟨h, fun _ hx => hx, nofun⟩
  | cons a starts ih =>
    obtain ⟨⟨ha, hnone⟩, hstarts⟩ := List.forall_mem_cons.mp hstarts
    rw [chainsFrom_cons]
    by_cases howned : a ∈ chains.flatten
    · rw [if_pos howned]
      obtain ⟨hcomplete, hkept, hall⟩ := ih hstarts chains h
      exact ⟨hcomplete, hkept, List.forall_mem_cons.mpr ⟨hkept a howned, hall⟩⟩
    · rw [if_neg howned]
      have hfollowed := isFollowed_fuel next chains.flatten ha howned
      obtain ⟨hcomplete, hkept, hall⟩ := ih hstarts _ (h.add honce hfollowed (.inl hnone))
      refine ⟨hcomplete, fun x hx => hkept x (mem_flatten_concat.mpr (.inl hx)), ?_⟩
      refine List.forall_mem_cons.mpr ⟨hkept a (mem_flatten_concat.mpr (.inr ?_)), hall⟩
      exact List.mem_of_head? hfollowed.head

/-- Where every element without an owner is linked from one, each links to one. -/
theorem links_back (owned : List α)
    (hlinked : ∀ b ∈ ids, b ∉ owned → ∃ a ∈ ids, a ∉ owned ∧ next a = some b) :
    ∀ a ∈ ids, a ∉ owned → ∃ b ∈ ids, b ∉ owned ∧ next a = some b := by
  have hprev : ∀ b : {x // x ∈ ids.filter fun x => x ∉ owned},
      ∃ a : {x // x ∈ ids.filter fun x => x ∉ owned}, next a.1 = some b.1 := by
    intro b
    obtain ⟨hb, hnew⟩ := List.mem_filter.mp b.2
    obtain ⟨a, ha, hanew, hnext⟩ := hlinked b.1 hb (of_decide_eq_true hnew)
    exact ⟨⟨a, List.mem_filter.mpr ⟨ha, decide_eq_true hanew⟩⟩, hnext⟩
  choose prev hprev using hprev
  have hinjective : Function.Injective prev := by
    intro b b' heq
    have hsame := (hprev b).symm.trans (congrArg (fun a => next a.1) heq) |>.trans (hprev b')
    exact Subtype.ext (Option.some.inj hsame)
  have hsurjective := Finite.surjective_of_injective hinjective
  intro a ha hnew
  obtain ⟨b, hb⟩ := hsurjective ⟨a, List.mem_filter.mpr ⟨ha, decide_eq_true hnew⟩⟩
  obtain ⟨hbids, hbnew⟩ := List.mem_filter.mp b.2
  refine ⟨b.1, hbids, of_decide_eq_true hbnew, ?_⟩
  rw [← hprev b, hb]

/-- The chains after them are cycles, each from its first element on. -/
theorem complete_second (honce : LinkedOnce ids next) (starts : List α)
    (hsorted : starts.Pairwise (· < ·))
    (hstarts : ∀ a ∈ starts, a ∈ ids) (chains : List (List α)) (h : Complete ids next chains)
    (hheads : ∀ a ∈ ids, a ∉ chains.flatten → ∃ x ∈ ids, next x = some a)
    (hrest : ∀ a ∈ ids, a ∉ chains.flatten → a ∈ starts) :
    Complete ids next (chainsFrom ids next starts chains) ∧
      ∀ a ∈ ids, a ∈ (chainsFrom ids next starts chains).flatten := by
  induction starts generalizing chains with
  | nil =>
    refine ⟨h, fun a ha => ?_⟩
    by_contra hnew
    exact List.not_mem_nil (hrest a ha hnew)
  | cons a starts ih =>
    obtain ⟨ha, hstarts⟩ := List.forall_mem_cons.mp hstarts
    obtain ⟨hless, hsorted⟩ := List.pairwise_cons.mp hsorted
    rw [chainsFrom_cons]
    by_cases howned : a ∈ chains.flatten
    · rw [if_pos howned]
      refine ih hsorted hstarts chains h hheads fun x hx hnew => ?_
      rcases List.mem_cons.mp (hrest x hx hnew) with rfl | hmem
      · exact absurd howned hnew
      · exact hmem
    · rw [if_neg howned]
      have hfollowed := isFollowed_fuel next chains.flatten ha howned
      have hlinked : ∀ b ∈ ids, b ∉ chains.flatten →
          ∃ x ∈ ids, x ∉ chains.flatten ∧ next x = some b := by
        intro b hb hnew
        obtain ⟨x, hx, hnext⟩ := hheads b hb hnew
        refine ⟨x, hx, fun hxowned => ?_, hnext⟩
        obtain ⟨chain, hchain, hxmem⟩ := List.mem_flatten.mp hxowned
        exact hnew (List.mem_flatten.mpr ⟨chain, hchain, h.next_mem_chain hchain hxmem hb hnext⟩)
      generalize hchain : follow ids next ids.length chains.flatten a = chain at hfollowed ⊢
      have hcycle : ∃ l ∈ chain.getLast?, next l = some a := by
        cases hl : chain.getLast? with
        | none =>
          rw [List.getLast?_eq_none_iff.mp hl] at hfollowed
          cases hfollowed.head
        | some l =>
          have hmem := hfollowed.fresh l (List.mem_of_getLast? hl)
          obtain ⟨b, hb, -, hnext⟩ := links_back chains.flatten hlinked l hmem.1 hmem.2
          obtain rfl : a = b := Option.some.inj
            (hfollowed.head.symm.trans (hfollowed.last_head h honce hl hb hnext))
          exact ⟨l, rfl, hnext⟩
      have hleast : ∀ c ∈ chain, a ≤ c := by
        intro c hc
        obtain ⟨hids, hnew⟩ := hfollowed.fresh c hc
        rcases List.mem_cons.mp (hrest c hids hnew) with rfl | hmem
        · exact le_rfl
        · exact (hless c hmem).le
      refine ih hsorted hstarts _ (h.add honce hfollowed (.inr ⟨hcycle, hleast⟩)) ?_ ?_
      · exact fun x hx hnew => hheads x hx fun h => hnew (mem_flatten_concat.mpr (.inl h))
      · intro x hx hnew
        rcases List.mem_cons.mp (hrest x hx fun h => hnew (mem_flatten_concat.mpr (.inl h))) with
          rfl | hmem
        · exact absurd (mem_flatten_concat.mpr (.inr (List.mem_of_head? hfollowed.head))) hnew
        · exact hmem

theorem isLinked_iff : isLinked ids next b = true ↔ ∃ a ∈ ids, next a = some b := by
  simp [isLinked]

theorem complete_chains (honce : LinkedOnce ids next) (hsorted : ids.Pairwise (· < ·)) :
    Complete ids next (chains ids next) ∧ ∀ a ∈ ids, a ∈ (chains ids next).flatten := by
  have hstarts : ∀ a ∈ ids.filter fun b => !isLinked ids next b,
      a ∈ ids ∧ ∀ x ∈ ids, next x ≠ some a := by
    intro a ha
    obtain ⟨hmem, hnone⟩ := List.mem_filter.mp ha
    refine ⟨hmem, fun x hx hnext => ?_⟩
    rw [isLinked_iff.mpr ⟨x, hx, hnext⟩] at hnone
    cases hnone
  obtain ⟨hcomplete, -, hall⟩ := complete_first honce _ hstarts [] complete_nil
  refine complete_second honce ids hsorted (fun _ h => h) _ hcomplete ?_ fun a ha _ => ha
  intro a ha hnew
  rw [← isLinked_iff]
  by_contra hnone
  refine hnew (hall a (List.mem_filter.mpr ⟨ha, ?_⟩))
  rw [Bool.eq_false_iff.mpr hnone]
  rfl

open Relation

omit [LinearOrder α] in
theorem reflTransGen_back (honce : LinkedOnce ids next)
    (hcycle : TransGen (Link ids next) b b) (hx : ReflTransGen (Link ids next) x b) :
    ReflTransGen (Link ids next) b x := by
  induction hx using ReflTransGen.head_induction_on with
  | refl => exact .refl
  | head hxy hyb ih =>
    obtain ⟨z, hbz, hzy⟩ := TransGen.tail'_iff.mp (TransGen.trans_left hcycle ih)
    rwa [honce _ hxy.1 _ hzy.1 _ hxy.2.2 hzy.2.2]

variable {chains : List (List α)}

section

variable (h : Complete ids next chains)

include h

theorem Complete.reaches {front back : List α} (hchain : front ++ a :: back ∈ chains) :
    (∀ x ∈ front, ReflTransGen (Link ids next) x a) ∧
      ∀ y ∈ back, ReflTransGen (Link ids next) a y := by
  have hids (x : α) (hx : x ∈ front ++ a :: back) : x ∈ ids :=
    h.fresh x (List.mem_flatten.mpr ⟨_, hchain, hx⟩)
  have hlinks : (front ++ a :: back).IsChain (ReflTransGen (Link ids next)) := by
    refine List.IsChain.imp_of_mem_imp ?_ (h.links _ hchain)
    exact fun x y hx hy hxy => .single ⟨hids x hx, hids y hy, hxy⟩
  have hpairwise := List.isChain_iff_pairwise.mp hlinks
  obtain ⟨-, hback, hfront⟩ := List.pairwise_append.mp hpairwise
  exact ⟨fun x hx => hfront x hx a List.mem_cons_self, (List.pairwise_cons.mp hback).1⟩

theorem Complete.reached_mem (hchain : chain ∈ chains) (ha : a ∈ chain)
    (hreached : ReflTransGen (Link ids next) a b) : b ∈ chain := by
  induction hreached with
  | refl => exact ha
  | tail _ hlink ih => exact h.next_mem_chain hchain ih hlink.2.1 hlink.2.2

/-- The chains are cut just at the first elements of the cycles. -/
theorem Complete.infix_iff_joined
    (honce : LinkedOnce ids next) (hall : ∀ a ∈ ids, a ∈ chains.flatten) :
    (∃ chain ∈ chains, [a, b] <:+: chain) ↔ Joined ids next a b := by
  constructor
  · rintro ⟨chain, hchain, front, back, rfl⟩
    have heq : front ++ [a, b] ++ back = front ++ a :: b :: back := by simp
    rw [heq] at hchain
    have hids (x : α) (hx : x ∈ front ++ a :: b :: back) : x ∈ ids :=
      h.fresh x (List.mem_flatten.mpr ⟨_, hchain, hx⟩)
    have hlinks := h.links _ hchain
    rw [List.isChain_append_cons_cons] at hlinks
    refine ⟨⟨hids a (by simp), hids b (by simp), hlinks.2.1⟩, ?_⟩
    rintro ⟨hcycle, hleast⟩
    have hnodup : (front ++ a :: b :: back).Nodup :=
      (List.nodup_flatten.mp h.nodup).1 _ hchain
    obtain ⟨top, hhead⟩ : ∃ top, (front ++ a :: b :: back).head? = some top := by
      cases front <;> exact ⟨_, rfl⟩
    have htop : top ∈ front ++ [a] := by
      cases front with
      | nil => exact List.mem_singleton.mpr (Option.some.inj hhead).symm
      | cons x front =>
        obtain rfl := Option.some.inj hhead
        exact List.mem_cons_self
    have hne : b ≠ top := by
      rintro rfl
      rw [← List.singleton_append, ← List.append_assoc] at hnodup
      exact List.disjoint_of_nodup_append hnodup htop List.mem_cons_self
    have hsplit : front ++ [a] ++ b :: back ∈ chains := by simpa using hchain
    have hback := reflTransGen_back honce hcycle ((h.reaches hsplit).1 top htop)
    rcases h.heads _ hchain top hhead with hnone | ⟨-, hfirst⟩
    · rcases ReflTransGen.cases_tail hback with heq | ⟨x, -, hlink⟩
      · exact hne heq.symm
      · exact hnone x hlink.1 hlink.2.2
    · exact hne (le_antisymm (hleast top hback) (hfirst b (by simp)))
  · rintro ⟨⟨ha, hb, hnext⟩, hfirst⟩
    obtain ⟨chain, hchain, hmem⟩ := List.mem_flatten.mp (hall a ha)
    rcases h.next_mem hchain hmem hb hnext with hinfix | ⟨hlast, hhead⟩
    · exact ⟨chain, hchain, hinfix⟩
    · refine absurd ⟨?_, ?_⟩ hfirst
      · have hreach : ReflTransGen (Link ids next) b a := by
          cases chain with
          | nil => cases hmem
          | cons x chain =>
            obtain rfl := Option.some.inj hhead
            rcases List.mem_cons.mp hmem with rfl | hmem
            · exact .refl
            · have hsplit : [] ++ x :: chain ∈ chains := hchain
              exact (h.reaches hsplit).2 a hmem
        exact TransGen.tail' hreach ⟨ha, hb, hnext⟩
      · intro c hreached
        have hc := h.reached_mem hchain (List.mem_of_head? hhead) hreached
        rcases h.heads chain hchain b hhead with hnone | ⟨-, hleast⟩
        · exact absurd hnext (hnone a ha)
        · exact hleast c hc

theorem Complete.joined_of_mem (honce : LinkedOnce ids next) (hall : ∀ a ∈ ids, a ∈ chains.flatten)
    (hchain : chain ∈ chains) {y : α} (hx : x ∈ chain) (hy : y ∈ chain) :
    ReflTransGen (Joined ids next) x y ∨ ReflTransGen (Joined ids next) y x := by
  have hlinks : chain.IsChain (ReflTransGen (Joined ids next)) := by
    refine List.IsChain.imp ?_ (List.isChain_isInfix chain)
    exact fun a b hinfix => .single ((h.infix_iff_joined honce hall).mp ⟨chain, hchain, hinfix⟩)
  obtain ⟨front, back, rfl⟩ := List.append_of_mem hx
  have hpairwise := List.isChain_iff_pairwise.mp hlinks
  obtain ⟨-, hback, hfront⟩ := List.pairwise_append.mp hpairwise
  rcases List.mem_append.mp hy with hy | hy
  · exact .inr (hfront y hy x List.mem_cons_self)
  · rcases List.mem_cons.mp hy with rfl | hy
    · exact .inl .refl
    · exact .inl ((List.pairwise_cons.mp hback).1 y hy)

theorem Complete.chain_eq {other : List α} (hchain : chain ∈ chains) (hother : other ∈ chains)
    (hx : x ∈ chain) (hx' : x ∈ other) : chain = other := by
  by_contra hne
  have hdisjoint := (List.nodup_flatten.mp h.nodup).2
  have hsymm : Std.Symm (List.Disjoint (α := α)) := ⟨fun _ _ h => h.symm⟩
  exact hdisjoint.forall hchain hother hne hx hx'

theorem Complete.mem_of_joined (hchain : chain ∈ chains) {y : α} (hx : x ∈ chain)
    (hjoined : ReflTransGen (Joined ids next) x y) : y ∈ chain := by
  induction hjoined with
  | refl => exact hx
  | tail _ hab ih => exact h.next_mem_chain hchain ih hab.1.2.1 hab.1.2.2

end

end ProtoTime.Chains
