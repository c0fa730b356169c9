import ProtoTime.Memory.SnapshotAccesses

/-!
Writes and loads of a memory map. Both copy block by block and look for the block that goes on in
the order of the map; they are exact where the addresses of the span lie in such blocks.
-/
namespace ProtoTime.Memory

variable {w : WordSizes}

/-- What differs between the loops of `write` and `load`: which blocks a span enters and where,
before and behind its start, which of them may be changed, and the refusal at the end of the map. -/
structure CopyRule (w : WordSizes) where
  enters : Bool → MemBlock w → w.Address → Option ℕ
  permits : MemBlock w → Bool
  exhausted : Bool → w.Address → ℕ → String

/-- The elements of a span stored from an index on. -/
def overwrite (mem : List w.Data) (index : ℕ) (chunk : List w.Data) : List w.Data :=
  mem.take index ++ chunk ++ mem.drop (index + chunk.length)

/-- The copies into the blocks of a map, with the data of the blocks passed at the front. -/
def copyFrom (rule : CopyRule w) (count : ℕ) : List (MemBlock w) → ℕ → Bool → w.Address →
    List w.Data → List w.Data → List w.Data × Option String
  | [], _, foundStart, address, _, mem => (mem, some (rule.exhausted foundStart address count))
  | block :: rest, mapOffset, foundStart, address, value, mem =>
    match rule.enters foundStart block address with
    | none => copyFrom rule count rest (mapOffset + block.length.toNat) foundStart address value mem
    | some localOffset =>
      if !rule.permits block then (mem, some "address is not writable")
      else
        let chunkSize := min (block.length.toNat - localOffset) value.length
        let copied := overwrite mem (mapOffset + localOffset) (value.take chunkSize)
        if chunkSize = value.length then (copied, none)
        else copyFrom rule count rest (mapOffset + block.length.toNat) true
          (block.base + block.length) (value.drop chunkSize) copied

def writeRule : CopyRule w where
  enters := fun foundStart block address =>
    if foundStart then if address = block.base then some 0 else none
    else block.mappedOffset address
  permits := fun block => block.access.hasAccess .write
  exhausted := fun foundStart address count =>
    (if foundStart then "write extends past mapped range at "
      else "address is not mapped for write at ") ++
      hexText address.toNat ++ " count=" ++ hexText count

def loadRule : CopyRule w where
  enters := fun foundStart block address =>
    if (block.base ≤ address && address - block.base < block.length) ||
        (foundStart && address == block.base) then
      some (if foundStart then 0 else (address - block.base).toNat)
    else none
  permits := fun _ => true
  exhausted := fun foundStart _ _ =>
    if foundStart then "load extends past mapped range" else "address is not mapped"

namespace MemoryStorage

def copy (rule : CopyRule w) (s : MemoryStorage w) (value : List w.Data) (address : w.Address) :
    MemoryStorage w × Option String :=
  if value.isEmpty then (s, none)
  else
    let result := copyFrom rule value.length s.map 0 false address value s.mem
    (⟨s.map, result.1⟩, result.2)

def write (s : MemoryStorage w) (value : List w.Data) (address : w.Address) :
    MemoryStorage w × Option String :=
  s.copy writeRule value address

def load (s : MemoryStorage w) (value : List w.Data) (address : w.Address) :
    MemoryStorage w × Option String :=
  s.copy loadRule value address

end MemoryStorage

/-- The first block that holds an address, with its index. -/
def seat : List (MemBlock w) → ℕ → w.Address → Option (ℕ × MemBlock w)
  | [], _, _ => none
  | block :: rest, index, address =>
    if (block.mappedOffset address).isSome then some (index, block)
    else seat rest (index + 1) address

/-- Where in the data of a map an address is stored. -/
def place : List (MemBlock w) → ℕ → w.Address → Option ℕ
  | [], _, _ => none
  | block :: rest, offset, address =>
    match block.mappedOffset address with
    | some localOffset => some (offset + localOffset)
    | none => place rest (offset + block.length.toNat) address

def MemoryStorage.stored (s : MemoryStorage w) (address : w.Address) : Option w.Data :=
  (place s.map 0 address).bind fun index => s.mem[index]?

/-- A call that throws changes nothing; one that returns stores the span at its addresses, none
of them behind the last one, and nothing else. -/
def ExactCall (s : MemoryStorage w) (value : List w.Data) (address : w.Address)
    (result : MemoryStorage w × Option String) : Prop :=
  match result.2 with
  | some _ => result.1 = s
  | none =>
    result.1.map = s.map ∧ address.toNat + value.length ≤ w.space ∧
      (∀ i < value.length, result.1.stored (later address i) = value[i]?) ∧
      ∀ other, (∀ i < value.length, other ≠ later address i) →
        result.1.stored other = s.stored other

/-- No empty block that may not be changed lies between two blocks of the map at an address. -/
def Unobstructed (permits : MemBlock w → Bool) (map : List (MemBlock w)) (address : w.Address)
    (first next : ℕ) : Prop :=
  ∀ j block, first < j → j < next → map[j]? = some block → block.base = address →
    permits block = true

/-- Where the block of an address is another one than that of the address before, it follows in
the map and starts there. -/
def Follows (permits : MemBlock w → Bool) (map : List (MemBlock w)) (address : w.Address)
    (count : ℕ) : Prop :=
  ∀ i, i + 1 < count → ∀ k block k' block',
    seat map 0 (later address i) = some (k, block) →
    seat map 0 (later address (i + 1)) = some (k', block') →
    k = k' ∨ k < k' ∧ block'.base = later address (i + 1) ∧
      Unobstructed permits map (later address (i + 1)) k k'

/-- The addresses of a span lie in blocks that may be changed, one block after the other. -/
structure Seamless (permits : MemBlock w → Bool) (map : List (MemBlock w)) (address : w.Address)
    (count : ℕ) : Prop where
  inSpace : address.toNat + count ≤ w.space
  held : ∀ i < count, ∃ k block, seat map 0 (later address i) = some (k, block) ∧
    permits block = true
  follows : Follows permits map address count

/-- The start of a span lies in no block that may be changed. -/
def Refused (permits : MemBlock w → Bool) (map : List (MemBlock w)) (address : w.Address) : Prop :=
  ∀ k block, seat map 0 address = some (k, block) → permits block = false

/-- What the loops of `write` and `load` have in common: a span starts where its address lies in a
block and goes on at the start of a block. -/
structure CopyRule.Sound (rule : CopyRule w) : Prop where
  start : ∀ block address, rule.enters false block address = block.mappedOffset address
  base : ∀ block : MemBlock w, rule.enters true block block.base = some 0
  zero : ∀ block address localOffset, rule.enters true block address = some localOffset →
    localOffset = 0 ∧ (address = block.base ∨ (block.mappedOffset address).isSome = true)

theorem writeRule_sound : (writeRule : CopyRule w).Sound := by
  constructor
  · intro block address
    rfl
  · intro block
    exact if_pos rfl
  · intro block address localOffset h
    have h' : (if address = block.base then some 0 else none) = some localOffset := h
    split at h'
    · next hbase =>
      cases h'
      exact ⟨rfl, Or.inl hbase⟩
    · cases h'

theorem loadRule_sound : (loadRule : CopyRule w).Sound := by
  constructor
  · intro block address
    have hsome := block.isSome_mappedOffset address
    simp only [loadRule, Bool.false_and, Bool.or_false, ← hsome, Bool.false_eq_true, if_false]
    cases hlocal : block.mappedOffset address with
    | none => rfl
    | some localOffset =>
      obtain ⟨heq, _⟩ := MemBlock.mappedOffset_eq_some_iff.mp hlocal
      have hle : block.base ≤ address := by
        rw [BitVec.le_def]
        omega
      have hsub : (address - block.base).toNat = localOffset := by
        rw [BitVec.toNat_sub_of_le hle]
        omega
      rw [Option.isSome_some, if_pos rfl, hsub]
  · intro block
    simp only [loadRule, beq_self_eq_true, Bool.and_self, Bool.or_true, if_true]
  · intro block address localOffset h
    have hsome := block.isSome_mappedOffset address
    simp only [loadRule, ← hsome, Bool.true_and, if_true] at h
    split at h
    · next hentered =>
      cases h
      rw [Bool.or_eq_true, beq_iff_eq] at hentered
      exact ⟨rfl, hentered.symm⟩
    · cases h

/-- Where the elements of a span go, and whether all of them find a place. -/
def plan (rule : CopyRule w) : List (MemBlock w) → ℕ → Bool → w.Address → ℕ → List ℕ × Bool
  | [], _, _, _, _ => ([], false)
  | block :: rest, mapOffset, foundStart, address, count =>
    match rule.enters foundStart block address with
    | none => plan rule rest (mapOffset + block.length.toNat) foundStart address count
    | some localOffset =>
      if !rule.permits block then ([], false)
      else
        let chunkSize := min (block.length.toNat - localOffset) count
        let chunk := List.range' (mapOffset + localOffset) chunkSize
        if chunkSize = count then (chunk, true)
        else
          let others := plan rule rest (mapOffset + block.length.toNat) true
            (block.base + block.length) (count - chunkSize)
          (chunk ++ others.1, others.2)

variable {address : w.Address} {blocks : List (MemBlock w)} {foundStart : Bool}

section Plan

variable {rule : CopyRule w} (sound : rule.Sound)

include sound

theorem enters_le {block : MemBlock w}
    {localOffset : ℕ} (h : rule.enters foundStart block address = some localOffset) :
    localOffset ≤ block.length.toNat := by
  cases foundStart with
  | false =>
    rw [sound.start] at h
    exact Nat.le_of_lt (MemBlock.mappedOffset_eq_some_iff.mp h).2
  | true =>
    rw [(sound.zero _ _ _ h).1]
    exact Nat.zero_le _

theorem plan_bounds {mapOffset count : ℕ} {p : ℕ}
    (hp : p ∈ (plan rule blocks mapOffset foundStart address count).1) :
    mapOffset ≤ p ∧ p < mapOffset + extent blocks := by
  induction blocks generalizing mapOffset foundStart address count with
  | nil => cases hp
  | cons block rest ih =>
    have hextent : extent (block :: rest) = block.length.toNat + extent rest := rfl
    rw [plan] at hp
    cases hentered : rule.enters foundStart block address with
    | none =>
      rw [hentered] at hp
      have h := ih hp
      omega
    | some localOffset =>
      have hle := enters_le sound hentered
      rw [hentered] at hp
      dsimp only at hp
      split at hp
      · cases hp
      · split at hp
        · have h := List.mem_range'_1.mp hp
          omega
        · rcases List.mem_append.mp hp with hchunk | hothers
          · have h := List.mem_range'_1.mp hchunk
            omega
          · have h := ih hothers
            omega

end Plan

variable {rule : CopyRule w}

theorem plan_length {mapOffset count : ℕ} :
    (plan rule blocks mapOffset foundStart address count).1.length ≤ count ∧
      ((plan rule blocks mapOffset foundStart address count).2 = true →
        (plan rule blocks mapOffset foundStart address count).1.length = count) := by
  induction blocks generalizing mapOffset foundStart address count with
  | nil => exact ⟨Nat.zero_le _, nofun⟩
  | cons block rest ih =>
    rw [plan]
    cases rule.enters foundStart block address with
    | none => exact ih
    | some localOffset =>
      dsimp only
      split
      · exact ⟨Nat.zero_le _, nofun⟩
      · split
        · next hall =>
          rw [List.length_range']
          omega
        · obtain ⟨hle, hdone⟩ := @ih (block.base + block.length) true
            (mapOffset + block.length.toNat)
            (count - min (block.length.toNat - localOffset) count)
          rw [List.length_append, List.length_range']
          constructor
          · omega
          · intro h
            have hlength := hdone h
            omega

theorem length_overwrite (mem chunk : List w.Data) {index : ℕ}
    (hindex : index + chunk.length ≤ mem.length) :
    (overwrite mem index chunk).length = mem.length := by
  unfold overwrite
  rw [List.length_append, List.length_append, List.length_take, List.length_drop]
  omega

theorem getElem?_overwrite (mem chunk : List w.Data) {index : ℕ}
    (hindex : index + chunk.length ≤ mem.length) (p : ℕ) :
    (overwrite mem index chunk)[p]? =
      if index ≤ p ∧ p < index + chunk.length then chunk[p - index]? else mem[p]? := by
  have htake : (mem.take index).length = index := by
    rw [List.length_take]
    omega
  unfold overwrite
  rw [List.append_assoc]
  by_cases hbefore : p < index
  · rw [List.getElem?_append_left (by omega), if_neg (by omega), List.getElem?_take_of_lt hbefore]
  · rw [List.getElem?_append_right (by omega), htake]
    by_cases hin : p < index + chunk.length
    · rw [List.getElem?_append_left (by omega), if_pos (by omega)]
    · rw [List.getElem?_append_right (by omega), if_neg (by omega), List.getElem?_drop]
      congr 1
      omega

/-- The copies store each element at its planned place and change nothing else. -/
theorem copyFrom_spec (sound : rule.Sound) (total : ℕ) {mapOffset : ℕ}
    {value mem : List w.Data} (hsize : mapOffset + extent blocks ≤ mem.length) :
    let result := copyFrom rule total blocks mapOffset foundStart address value mem
    let places := plan rule blocks mapOffset foundStart address value.length
    result.1.length = mem.length ∧ (result.2 = none ↔ places.2 = true) ∧
      (∀ (i p : ℕ), places.1[i]? = some p → result.1[p]? = value[i]?) ∧
      ∀ p, p ∉ places.1 → result.1[p]? = mem[p]? := by
  induction blocks generalizing mapOffset foundStart address value mem with
  | nil => exact ⟨rfl, ⟨nofun, nofun⟩, nofun, fun _ _ => rfl⟩
  | cons block rest ih =>
    have hextent : extent (block :: rest) = block.length.toNat + extent rest := rfl
    dsimp only
    rw [copyFrom, plan]
    cases hentered : rule.enters foundStart block address with
    | none => exact ih (by omega)
    | some localOffset =>
      have hle := enters_le sound hentered
      dsimp only
      cases hpermit : rule.permits block with
      | false => exact ⟨rfl, ⟨nofun, nofun⟩, nofun, fun _ _ => rfl⟩
      | true =>
        rw [Bool.not_true, if_neg Bool.false_ne_true, if_neg Bool.false_ne_true]
        generalize hchunk : min (block.length.toNat - localOffset) value.length = c
        have hlength : (value.take c).length = c := by
          rw [List.length_take]
          omega
        have hfits : mapOffset + localOffset + (value.take c).length ≤ mem.length := by omega
        have hcopied := getElem?_overwrite mem (value.take c) hfits
        have hsame := length_overwrite mem (value.take c) hfits
        generalize overwrite mem (mapOffset + localOffset) (value.take c) = copied at *
        rw [hlength] at hcopied
        by_cases hall : c = value.length
        · rw [if_pos hall, if_pos hall]
          refine ⟨hsame, ⟨fun _ => rfl, fun _ => rfl⟩, ?_, ?_⟩
          · intro i p hp
            obtain ⟨hi, rfl⟩ := List.getElem?_eq_some_iff.mp hp
            rw [List.length_range'] at hi
            rw [List.getElem_range', hcopied, if_pos (by omega),
              List.getElem?_take_of_lt (by omega)]
            congr 1
            omega
          · intro p hp
            rw [List.mem_range'_1] at hp
            rw [hcopied, if_neg hp]
        · rw [if_neg hall, if_neg hall]
          have hrest : mapOffset + block.length.toNat + extent rest ≤ copied.length := by omega
          obtain ⟨hlen, hdone, hstored, hkept⟩ :=
            @ih (block.base + block.length) true (mapOffset + block.length.toNat) (value.drop c)
              copied hrest
          rw [List.length_drop] at hdone hstored hkept
          refine ⟨hlen.trans hsame, hdone, ?_, ?_⟩
          · intro i p hp
            by_cases hi : i < c
            · rw [List.getElem?_append_left (by rw [List.length_range']; exact hi)] at hp
              obtain ⟨_, rfl⟩ := List.getElem?_eq_some_iff.mp hp
              rw [List.getElem_range'] at hp ⊢
              rw [hkept, hcopied, if_pos (by omega), List.getElem?_take_of_lt (by omega)]
              · congr 1
                omega
              · intro hmem
                have hbounds := plan_bounds sound hmem
                omega
            · rw [List.getElem?_append_right (by rw [List.length_range']; omega),
                List.length_range'] at hp
              rw [hstored _ _ hp, List.getElem?_drop]
              congr 1
              omega
          · intro p hp
            rw [List.mem_append, not_or, List.mem_range'_1] at hp
            rw [hkept p hp.2, hcopied, if_neg hp.1]

section Seats

variable {map front blocks rest : List (MemBlock w)} {block : MemBlock w}
  {address other : w.Address}

theorem seat_bounds {index k : ℕ} (h : seat blocks index address = some (k, block)) :
    index ≤ k ∧ blocks[k - index]? = some block ∧ (block.mappedOffset address).isSome = true := by
  induction blocks generalizing index with
  | nil => cases h
  | cons first rest ih =>
    rw [seat] at h
    by_cases hfirst : (first.mappedOffset address).isSome = true
    · rw [if_pos hfirst] at h
      cases h
      rw [Nat.sub_self]
      exact ⟨Nat.le_refl _, rfl, hfirst⟩
    · rw [if_neg hfirst] at h
      obtain ⟨hle, hget, hholds⟩ := ih h
      refine ⟨by omega, ?_, hholds⟩
      rw [show k - index = k - (index + 1) + 1 by omega, List.getElem?_cons_succ]
      exact hget

theorem seat_append (front rest : List (MemBlock w)) (index : ℕ) (address : w.Address) :
    seat (front ++ rest) index address =
      (seat front index address).or (seat rest (index + front.length) address) := by
  induction front generalizing index with
  | nil => rfl
  | cons first front ih =>
    rw [List.cons_append, seat, seat]
    split
    · rfl
    · rw [ih, List.length_cons]
      congr 2
      omega

theorem place_append (front rest : List (MemBlock w)) (offset : ℕ) (address : w.Address) :
    place (front ++ rest) offset address =
      (place front offset address).or (place rest (offset + extent front) address) := by
  induction front generalizing offset with
  | nil => rfl
  | cons first front ih =>
    rw [List.cons_append, place, place]
    cases first.mappedOffset address with
    | some localOffset => rfl
    | none =>
      rw [ih, Nat.add_assoc]
      rfl

theorem place_bounds {offset p : ℕ} (h : place blocks offset address = some p) :
    offset ≤ p ∧ p < offset + extent blocks := by
  induction blocks generalizing offset with
  | nil => cases h
  | cons first rest ih =>
    have hextent : extent (first :: rest) = first.length.toNat + extent rest := rfl
    rw [place] at h
    cases hlocal : first.mappedOffset address with
    | some localOffset =>
      rw [hlocal] at h
      cases h
      have hlt := (MemBlock.mappedOffset_eq_some_iff.mp hlocal).2
      omega
    | none =>
      rw [hlocal] at h
      have hrest := ih h
      omega

theorem place_eq_none_iff (offset index : ℕ) :
    place blocks offset address = none ↔ seat blocks index address = none := by
  induction blocks generalizing offset index with
  | nil => exact ⟨fun _ => rfl, fun _ => rfl⟩
  | cons first rest ih =>
    rw [place, seat]
    cases first.mappedOffset address with
    | some localOffset =>
      rw [Option.isSome_some, if_pos rfl]
      simp only [reduceCtorEq]
    | none =>
      exact ih _ _

/-- Two addresses have no place in common. -/
theorem place_injective {offset p : ℕ} (h : place blocks offset address = some p)
    (hother : place blocks offset other = some p) : address = other := by
  induction blocks generalizing offset with
  | nil => cases h
  | cons first rest ih =>
    rw [place] at h hother
    cases hlocal : first.mappedOffset address with
    | some localOffset =>
      obtain ⟨haddress, hlt⟩ := MemBlock.mappedOffset_eq_some_iff.mp hlocal
      rw [hlocal] at h
      cases h
      cases hlocal' : first.mappedOffset other with
      | some localOffset' =>
        obtain ⟨hvalue, _⟩ := MemBlock.mappedOffset_eq_some_iff.mp hlocal'
        rw [hlocal'] at hother
        simp only [Option.some_inj] at hother
        apply BitVec.eq_of_toNat_eq
        omega
      | none =>
        rw [hlocal'] at hother
        have hbounds := place_bounds hother
        omega
    | none =>
      rw [hlocal] at h
      cases hlocal' : first.mappedOffset other with
      | some localOffset' =>
        obtain ⟨_, hlt⟩ := MemBlock.mappedOffset_eq_some_iff.mp hlocal'
        rw [hlocal'] at hother
        cases hother
        have hbounds := place_bounds h
        omega
      | none =>
        rw [hlocal'] at hother
        exact ih h hother

/-- The place of an address in a block, when no block before holds it. -/
theorem place_iff_seat {localOffset : ℕ} (hmap : map = front ++ block :: rest)
    (hlocal : block.mappedOffset address = some localOffset) :
    place map 0 address = some (extent front + localOffset) ↔
      seat map 0 address = some (front.length, block) := by
  have hplace : place (block :: rest) (0 + extent front) address =
      some (0 + extent front + localOffset) := by
    rw [place, hlocal]
  have hseat : seat (block :: rest) (0 + front.length) address =
      some (0 + front.length, block) := by
    rw [seat, hlocal, Option.isSome_some, if_pos rfl]
  rw [Nat.zero_add] at hplace hseat
  rw [hmap, place_append, seat_append, Nat.zero_add, Nat.zero_add, hplace, hseat]
  have hnone := @place_eq_none_iff w front address 0 0
  cases hfront : place front 0 address with
  | none =>
    rw [hnone.mp hfront, Option.none_or, Option.none_or]
    exact ⟨fun _ => rfl, fun _ => rfl⟩
  | some p =>
    have hbounds := place_bounds hfront
    cases hfrontSeat : seat front 0 address with
    | none =>
      rw [hnone.mpr hfrontSeat] at hfront
      cases hfront
    | some found =>
      obtain ⟨_, hget, _⟩ := seat_bounds hfrontSeat
      obtain ⟨hk, _⟩ := List.getElem?_eq_some_iff.mp hget
      rw [Option.some_or, Option.some_or, Option.some_inj, Option.some_inj, Prod.mk.injEq]
      omega

theorem seat_le {k : ℕ} {first : MemBlock w} (hmap : map = front ++ block :: rest)
    (hholds : (block.mappedOffset address).isSome = true)
    (h : seat map 0 address = some (k, first)) :
    k ≤ front.length ∧ (k = front.length → first = block) := by
  rw [hmap, seat_append, Nat.zero_add, seat, if_pos hholds] at h
  cases hfront : seat front 0 address with
  | none =>
    rw [hfront, Option.none_or] at h
    cases h
    exact ⟨Nat.le_refl _, fun _ => rfl⟩
  | some found =>
    rw [hfront, Option.some_or] at h
    cases h
    obtain ⟨_, hget, _⟩ := seat_bounds hfront
    obtain ⟨hk, _⟩ := List.getElem?_eq_some_iff.mp hget
    exact ⟨by omega, by omega⟩

end Seats

/-- A seamless span that goes on behind the block `last` of the map. -/
structure Joined (permits : MemBlock w → Bool) (map : List (MemBlock w)) (last : ℕ)
    (address : w.Address) (count : ℕ) : Prop where
  inSpace : address.toNat + count ≤ w.space
  held : ∀ i < count, ∃ k block, seat map 0 (later address i) = some (k, block) ∧ last < k ∧
    permits block = true
  first : ∀ k block, seat map 0 address = some (k, block) → block.base = address ∧
    Unobstructed permits map address last k
  follows : Follows permits map address count

/-- All elements of a span are planned at the places of their addresses. -/
def Placed (map : List (MemBlock w)) (address : w.Address) (count : ℕ) (planned : List ℕ × Bool) :
    Prop :=
  planned.2 = true ∧ address.toNat + count ≤ w.space ∧
    ∀ i < count, place map 0 (later address i) = planned.1[i]?

section Chains

variable {permits : MemBlock w → Bool} {map front rest : List (MemBlock w)} {block : MemBlock w}
  {address : w.Address} {count last m c : ℕ}

variable {i : ℕ}

theorem seat_mono {P : ℕ → MemBlock w → Prop} (hfollows : Follows permits map address count)
    (hheld : ∀ i < count, ∃ k block, seat map 0 (later address i) = some (k, block) ∧ P k block)
    {j : ℕ} (hij : i ≤ j) (hj : j < count) {k k' : ℕ} {block' : MemBlock w}
    (hi : seat map 0 (later address i) = some (k, block))
    (hk : seat map 0 (later address j) = some (k', block')) : k ≤ k' := by
  induction j, hij using Nat.le_induction generalizing k' block' with
  | base =>
    rw [hi] at hk
    cases hk
    exact Nat.le_refl _
  | succ j hij ih =>
    obtain ⟨middle, found, hmiddle, _⟩ := hheld j (by omega)
    have hle := ih (by omega) hmiddle
    rcases hfollows j hj middle found k' block' hmiddle hk with heq | ⟨hlt, _⟩
    · omega
    · omega

theorem follows_later (h : Follows permits map address count) (hc : c ≤ count) :
    Follows permits map (later address c) (count - c) := by
  intro i hi k block k' block' hk hk'
  rw [later_later] at hk hk' ⊢
  exact h (c + i) (by omega) k block k' block' hk hk'

theorem seat_of_seamless (hseamless : Seamless permits map address count)
    (hmap : map = front ++ block :: rest)
    (hstart : seat map 0 address = some (front.length, block)) (hi : i < count)
    (hholds : (block.mappedOffset (later address i)).isSome = true) :
    seat map 0 (later address i) = some (front.length, block) := by
  obtain ⟨k, found, hk, _⟩ := hseamless.held i hi
  rw [← later_zero address] at hstart
  have hle := seat_mono hseamless.follows hseamless.held (Nat.zero_le i) hi hstart hk
  obtain ⟨hge, hsame⟩ := seat_le hmap hholds hk
  have heq : k = front.length := Nat.le_antisymm hge hle
  rw [hk, heq, hsame heq]

theorem seamless_of_seats (hspace : address.toNat + count ≤ w.space)
    (hpermits : permits block = true)
    (hseats : ∀ i < count, seat map 0 (later address i) = some (m, block)) :
    Seamless permits map address count := by
  refine ⟨hspace, fun i hi => ⟨m, block, hseats i hi, hpermits⟩, ?_⟩
  intro i hi k found k' found' hk hk'
  rw [hseats i (by omega)] at hk
  rw [hseats (i + 1) hi] at hk'
  cases hk
  cases hk'
  exact Or.inl rfl

/-- Behind its first block a span is seamless if it goes on there. -/
theorem seamless_iff_joined (hpos : 0 < c) (hc : c < count)
    (hseats : ∀ i < c, seat map 0 (later address i) = some (m, block))
    (hpermits : permits block = true) (hleft : ∀ i < count, c ≤ i → ∀ found,
      seat map 0 (later address i) ≠ some (m, found)) :
    Seamless permits map address count ↔
      address.toNat + count ≤ w.space ∧ Joined permits map m (later address c) (count - c) := by
  constructor
  · rintro ⟨hspace, hheld, hfollows⟩
    refine ⟨hspace, ?_, ?_, ?_, follows_later hfollows (Nat.le_of_lt hc)⟩
    · rw [toNat_later (by omega)]
      omega
    · intro i hi
      obtain ⟨k, found, hk, hpermit⟩ := hheld (c + i) (by omega)
      rw [later_later]
      refine ⟨k, found, hk, ?_, hpermit⟩
      have hle := seat_mono hfollows hheld (Nat.zero_le (c + i)) (by omega) (hseats 0 hpos) hk
      apply Nat.lt_of_le_of_ne hle
      rintro rfl
      exact hleft (c + i) (by omega) (by omega) found hk
    · intro k found hk
      have hlast := hseats (c - 1) (by omega)
      have hsucc : c - 1 + 1 = c := by omega
      have hnext := hfollows (c - 1) (by omega) m block k found hlast
      rw [hsucc] at hnext
      rcases hnext hk with rfl | ⟨_, hbase, hclear⟩
      · exact absurd hk (hleft c hc (Nat.le_refl c) found)
      · exact ⟨hbase, hclear⟩
  · rintro ⟨hspace, hjoined⟩
    refine ⟨hspace, ?_, ?_⟩
    · intro i hi
      by_cases hlt : i < c
      · exact ⟨m, block, hseats i hlt, hpermits⟩
      · obtain ⟨k, found, hk, _, hpermit⟩ := hjoined.held (i - c) (by omega)
        rw [later_later, show c + (i - c) = i by omega] at hk
        exact ⟨k, found, hk, hpermit⟩
    · intro i hi k found k' found' hk hk'
      rcases Nat.lt_trichotomy (i + 1) c with hlt | heq | hgt
      · rw [hseats i (by omega)] at hk
        rw [hseats (i + 1) hlt] at hk'
        cases hk
        cases hk'
        exact Or.inl rfl
      · rw [hseats i (by omega)] at hk
        cases hk
        rw [heq] at hk' ⊢
        obtain ⟨hbase, hclear⟩ := hjoined.first k' found' hk'
        obtain ⟨k'', found'', hk'', hlast, _⟩ := hjoined.held 0 (by omega)
        rw [later_zero, hk'] at hk''
        cases hk''
        exact Or.inr ⟨hlast, hbase, hclear⟩
      · have h := hjoined.follows (i - c) (by omega) k found k' found'
        rw [later_later, later_later, show c + (i - c) = i by omega,
          show c + (i - c + 1) = i + 1 by omega] at h
        exact h hk hk'

/-- A block that starts at the address of a span comes right behind the block before. -/
theorem joined_iff_seamless
    (hstart : seat map 0 address = some (last + 1, block)) (hbase : block.base = address) :
    Joined permits map last address count ↔ Seamless permits map address count := by
  constructor
  · rintro ⟨hspace, hheld, _, hfollows⟩
    refine ⟨hspace, ?_, hfollows⟩
    intro i hi
    obtain ⟨k, found, hk, _, hpermit⟩ := hheld i hi
    exact ⟨k, found, hk, hpermit⟩
  · rintro ⟨hspace, hheld, hfollows⟩
    refine ⟨hspace, ?_, ?_, hfollows⟩
    · intro i hi
      obtain ⟨k, found, hk, hpermit⟩ := hheld i hi
      refine ⟨k, found, hk, ?_, hpermit⟩
      have hzero := hstart
      rw [← later_zero address] at hzero
      have hle := seat_mono hfollows hheld (Nat.zero_le i) hi hzero hk
      omega
    · intro k found hk
      rw [hstart] at hk
      cases hk
      refine ⟨hbase, ?_⟩
      intro j between hlow hhigh
      omega

/-- A block that does not take the next address of a span may be passed. -/
theorem joined_skip (hcount : 0 < count) (hblock : map[last + 1]? = some block)
    (hskip : block.base = address → permits block = true ∧
      (block.mappedOffset address).isSome = false) :
    Joined permits map last address count ↔ Joined permits map (last + 1) address count := by
  constructor
  · rintro ⟨hspace, hheld, hfirst, hfollows⟩
    obtain ⟨k₀, found₀, hk₀, hlast₀, _⟩ := hheld 0 hcount
    have hpast : last + 1 < k₀ := by
      apply Nat.lt_of_le_of_ne hlast₀
      rintro rfl
      rw [later_zero] at hk₀
      obtain ⟨_, hget, hholds⟩ := seat_bounds hk₀
      rw [Nat.sub_zero, hblock] at hget
      cases hget
      rw [(hskip (hfirst _ _ hk₀).1).2] at hholds
      cases hholds
    refine ⟨hspace, ?_, ?_, hfollows⟩
    · intro i hi
      obtain ⟨k, found, hk, _, hpermit⟩ := hheld i hi
      have hle := seat_mono hfollows hheld (Nat.zero_le i) hi hk₀ hk
      exact ⟨k, found, hk, by omega, hpermit⟩
    · intro k found hk
      obtain ⟨hbase, hclear⟩ := hfirst k found hk
      exact ⟨hbase, fun j between hlow hhigh => hclear j between (by omega) hhigh⟩
  · rintro ⟨hspace, hheld, hfirst, hfollows⟩
    refine ⟨hspace, ?_, ?_, hfollows⟩
    · intro i hi
      obtain ⟨k, found, hk, hlast, hpermit⟩ := hheld i hi
      exact ⟨k, found, hk, by omega, hpermit⟩
    · intro k found hk
      obtain ⟨hbase, hclear⟩ := hfirst k found hk
      refine ⟨hbase, ?_⟩
      intro j between hlow hhigh hget hstart
      by_cases hj : j = last + 1
      · rw [hj, hblock] at hget
        cases hget
        exact (hskip hstart).1
      · exact hclear j between (by omega) hhigh hget hstart

section

variable (hmap : map = front ++ block :: rest)
include hmap

theorem getElem?_middle : map[front.length]? = some block := by
  rw [hmap, List.getElem?_append_right (Nat.le_refl _), Nat.sub_self]
  rfl

theorem seat_of_joined (hlast : front.length = last + 1) (hcount : 0 < count)
    (hholds : (block.mappedOffset address).isSome = true)
    (hjoined : Joined permits map last address count) :
    seat map 0 address = some (last + 1, block) ∧ permits block = true ∧
      block.base = address := by
  obtain ⟨k, found, hk, hlt, hpermit⟩ := hjoined.held 0 hcount
  rw [later_zero] at hk
  obtain ⟨hle, hsame⟩ := seat_le hmap hholds hk
  have heq : k = front.length := by omega
  have hfound := hsame heq
  subst hfound
  rw [heq, hlast] at hk
  exact ⟨hk, hpermit, (hjoined.first _ _ hk).1⟩

end

variable {localOffset : ℕ} (hlocal : block.mappedOffset address = some localOffset)
include hlocal

theorem mappedOffset_later (hspace : address.toNat + i < w.space)
    (hi : localOffset + i < block.length.toNat) :
    block.mappedOffset (later address i) = some (localOffset + i) := by
  obtain ⟨haddress, _⟩ := MemBlock.mappedOffset_eq_some_iff.mp hlocal
  apply MemBlock.mappedOffset_eq_some_iff.mpr
  rw [toNat_later hspace]
  omega

theorem base_add_length (hlt : block.length.toNat - localOffset < count)
    (hspace : address.toNat + count ≤ w.space) :
    block.base + block.length = later address (block.length.toNat - localOffset) := by
  obtain ⟨haddress, hinside⟩ := MemBlock.mappedOffset_eq_some_iff.mp hlocal
  apply BitVec.eq_of_toNat_eq
  have hfits : block.base.toNat + block.length.toNat < w.space := by omega
  rw [toNat_later (by omega), BitVec.toNat_add]
  show (_ + _) % w.space = _
  rw [Nat.mod_eq_of_lt hfits]
  omega

variable (hmap : map = front ++ block :: rest)
include hmap

theorem place_ne_start (hne : localOffset ≠ 0) : place map 0 address ≠ some (extent front) := by
  intro h
  rw [hmap, place_append, place, hlocal] at h
  cases hfront : place front 0 address with
  | none =>
    rw [hfront, Option.none_or, Option.some_inj] at h
    omega
  | some p =>
    have hbounds := place_bounds hfront
    rw [hfront, Option.some_or, Option.some_inj] at h
    omega

theorem seat_ne_behind (hspace : address.toNat + i < w.space)
    (hi : block.length.toNat ≤ localOffset + i) (found : MemBlock w) :
    seat map 0 (later address i) ≠ some (front.length, found) := by
  intro h
  obtain ⟨haddress, _⟩ := MemBlock.mappedOffset_eq_some_iff.mp hlocal
  obtain ⟨_, hget, hholds⟩ := seat_bounds h
  rw [Nat.sub_zero, getElem?_middle hmap] at hget
  cases hget
  obtain ⟨j, hj⟩ := Option.isSome_iff_exists.mp hholds
  obtain ⟨heq, hlt⟩ := MemBlock.mappedOffset_eq_some_iff.mp hj
  rw [toNat_later hspace] at heq
  omega

/-- A span whose next elements go to the block that holds its address. -/
theorem placed_chunk {others : List ℕ × Bool} (hcount : 0 < count) (hpermits : permits block = true)
    (hothers : block.length.toNat - localOffset < count → address.toNat + count ≤ w.space →
      (Placed map (later address (block.length.toNat - localOffset))
          (count - (block.length.toNat - localOffset)) others ↔
        Joined permits map front.length (later address (block.length.toNat - localOffset))
          (count - (block.length.toNat - localOffset)))) :
    Placed map address count
        (if min (block.length.toNat - localOffset) count = count then
          (List.range' (extent front + localOffset) (min (block.length.toNat - localOffset) count),
            true)
        else (List.range' (extent front + localOffset)
          (min (block.length.toNat - localOffset) count) ++ others.1, others.2)) ↔
      seat map 0 address = some (front.length, block) ∧ Seamless permits map address count := by
  have hinside := (MemBlock.mappedOffset_eq_some_iff.mp hlocal).2
  have hseat : ∀ i, i < block.length.toNat - localOffset → address.toNat + i < w.space →
      (place map 0 (later address i) = some (extent front + localOffset + i) ↔
        seat map 0 (later address i) = some (front.length, block)) := by
    intro i hi hspace
    have h := place_iff_seat hmap (mappedOffset_later hlocal hspace (by omega))
    rwa [← Nat.add_assoc] at h
  have hholds : ∀ i, i < block.length.toNat - localOffset → address.toNat + i < w.space →
      (block.mappedOffset (later address i)).isSome = true := by
    intro i hi hspace
    rw [mappedOffset_later hlocal hspace (by omega)]
    rfl
  generalize hc : block.length.toNat - localOffset = c at *
  by_cases hall : count ≤ c
  · rw [Nat.min_eq_right hall, if_pos rfl]
    constructor
    · rintro ⟨_, hspace, hplaced⟩
      have hseats : ∀ i < count, seat map 0 (later address i) = some (front.length, block) := by
        intro i hi
        apply (hseat i (by omega) (by omega)).mp
        rw [hplaced i hi, List.getElem?_range' hi, Nat.one_mul]
      have hzero := hseats 0 hcount
      rw [later_zero] at hzero
      exact ⟨hzero, seamless_of_seats hspace hpermits hseats⟩
    · rintro ⟨hstart, hseamless⟩
      have hspace := hseamless.inSpace
      refine ⟨rfl, hspace, ?_⟩
      intro i hi
      rw [List.getElem?_range' hi, Nat.one_mul]
      apply (hseat i (by omega) (by omega)).mpr
      exact seat_of_seamless hseamless hmap hstart hi (hholds i (by omega) (by omega))
  · have hlt : c < count := Nat.lt_of_not_le hall
    have hleft : address.toNat + count ≤ w.space → ∀ i < count, c ≤ i → ∀ found,
        seat map 0 (later address i) ≠ some (front.length, found) := by
      intro hspace i hi hci
      exact seat_ne_behind hlocal hmap (by omega) (by omega)
    rw [Nat.min_eq_left (Nat.le_of_lt hlt), if_neg (by omega)]
    constructor
    · rintro ⟨hdone, hspace, hplaced⟩
      have hseats : ∀ i < c, seat map 0 (later address i) = some (front.length, block) := by
        intro i hi
        apply (hseat i hi (by omega)).mp
        rw [hplaced i (by omega), List.getElem?_append_left (by rw [List.length_range']; exact hi),
          List.getElem?_range' hi, Nat.one_mul]
      have hzero := hseats 0 (by omega)
      rw [later_zero] at hzero
      refine ⟨hzero, ?_⟩
      apply (seamless_iff_joined (by omega) hlt hseats hpermits (hleft hspace)).mpr
      refine ⟨hspace, (hothers hlt hspace).mp ⟨hdone, ?_, ?_⟩⟩
      · rw [toNat_later (by omega)]
        omega
      · intro i hi
        have h := hplaced (c + i) (by omega)
        rw [List.getElem?_append_right (by rw [List.length_range']; omega), List.length_range',
          Nat.add_sub_cancel_left] at h
        rw [later_later]
        exact h
    · rintro ⟨hstart, hseamless⟩
      have hspace := hseamless.inSpace
      have hseats : ∀ i < c, seat map 0 (later address i) = some (front.length, block) := by
        intro i hi
        exact seat_of_seamless hseamless hmap hstart (by omega) (hholds i hi (by omega))
      have hjoined := ((seamless_iff_joined (by omega) hlt hseats hpermits (hleft hspace)).mp
        hseamless).2
      obtain ⟨hdone, _, hplaced⟩ := (hothers hlt hspace).mpr hjoined
      refine ⟨hdone, hspace, ?_⟩
      intro i hi
      by_cases hic : i < c
      · rw [List.getElem?_append_left (by rw [List.length_range']; exact hic),
          List.getElem?_range' hic, Nat.one_mul]
        exact (hseat i hic (by omega)).mpr (hseats i hic)
      · have h := hplaced (i - c) (by omega)
        rw [later_later, show c + (i - c) = i by omega] at h
        rw [List.getElem?_append_right (by rw [List.length_range']; omega), List.length_range']
        exact h

end Chains

variable {count : ℕ}

/-- Behind the start of a span, its elements find their places exactly if it goes on seamlessly. -/
theorem placed_iff_joined (sound : rule.Sound) {map : List (MemBlock w)}
    (rest front : List (MemBlock w)) {last : ℕ}
    (hmap : map = front ++ rest) (hlast : front.length = last + 1) (hcount : 0 < count) :
    Placed map address count (plan rule rest (extent front) true address count) ↔
      Joined rule.permits map last address count := by
  induction rest generalizing front last address count with
  | nil =>
    constructor
    · rintro ⟨hdone, _⟩
      cases hdone
    · intro hjoined
      obtain ⟨k, block, hk, hlt, _⟩ := hjoined.held 0 hcount
      obtain ⟨_, hget, _⟩ := seat_bounds hk
      obtain ⟨hlength, _⟩ := List.getElem?_eq_some_iff.mp hget
      rw [hmap, List.append_nil] at hlength
      omega
  | cons block rest ih =>
    have hblock : map[last + 1]? = some block := hlast ▸ getElem?_middle hmap
    have hmap' : map = (front ++ [block]) ++ rest := by
      rw [hmap, List.append_assoc]
      rfl
    have hlast' : (front ++ [block]).length = last + 1 + 1 := by
      rw [List.length_append, hlast]
      rfl
    have hextent : extent (front ++ [block]) = extent front + block.length.toNat := by
      rw [extent_append]
      rfl
    rw [plan]
    cases hentered : rule.enters true block address with
    | none =>
      have hbase : block.base ≠ address := by
        rintro rfl
        rw [sound.base] at hentered
        cases hentered
      have h := @ih address _ (front ++ [block]) _ hmap' hlast' hcount
      rw [hextent] at h
      rw [joined_skip hcount hblock (fun heq => absurd heq hbase)]
      exact h
    | some localOffset =>
      obtain ⟨hzero, hwhere⟩ := sound.zero _ _ _ hentered
      subst hzero
      dsimp only
      cases hpermit : rule.permits block with
      | false =>
        constructor
        · rintro ⟨hdone, _⟩
          cases hdone
        · intro hjoined
          cases hholds : (block.mappedOffset address).isSome with
          | true =>
            obtain ⟨_, htrue, _⟩ := seat_of_joined hmap hlast hcount hholds hjoined
            rw [hpermit] at htrue
            cases htrue
          | false =>
            obtain ⟨k, found, hk, hlt, _⟩ := hjoined.held 0 hcount
            rw [later_zero] at hk
            have hbase : block.base = address := by
              rcases hwhere with hbase | hsome
              · exact hbase.symm
              · rw [hholds] at hsome
                cases hsome
            have hne : k ≠ last + 1 := by
              rintro rfl
              obtain ⟨_, hget, hin⟩ := seat_bounds hk
              rw [Nat.sub_zero, hblock] at hget
              cases hget
              rw [hholds] at hin
              cases hin
            have hclear := (hjoined.first k found hk).2 (last + 1) block (Nat.lt_succ_self last)
              (by omega) hblock hbase
            rw [hpermit] at hclear
            cases hclear
      | true =>
        rw [Bool.not_true, if_neg Bool.false_ne_true, Nat.add_zero, Nat.sub_zero]
        by_cases hbase : block.base = address
        · by_cases hempty : block.length.toNat = 0
          · have hnext : block.base + block.length = address := by
              have hlength : block.length = 0 := BitVec.eq_of_toNat_eq hempty
              rw [hlength, hbase]
              exact BitVec.add_zero address
            have hnone : (block.mappedOffset address).isSome = false := by
              cases hlocal : block.mappedOffset address with
              | none => rfl
              | some localOffset =>
                have hlt := (MemBlock.mappedOffset_eq_some_iff.mp hlocal).2
                omega
            have h := @ih address _ (front ++ [block]) _ hmap' hlast' hcount
            rw [hextent] at h
            rw [joined_skip hcount hblock (fun _ => ⟨hpermit, hnone⟩), ← h, hempty, Nat.zero_min,
              if_neg (by omega), hnext]
            rfl
          · have hlocal : block.mappedOffset address = some 0 := by
              apply MemBlock.mappedOffset_eq_some_iff.mpr
              rw [hbase]
              omega
            have hothers : block.length.toNat - 0 < count → address.toNat + count ≤ w.space →
                (Placed map (later address (block.length.toNat - 0))
                    (count - (block.length.toNat - 0))
                    (plan rule rest (extent front + block.length.toNat) true
                      (block.base + block.length) (count - min block.length.toNat count)) ↔
                  Joined rule.permits map front.length (later address (block.length.toNat - 0))
                    (count - (block.length.toNat - 0))) := by
              intro hlt hspace
              rw [base_add_length hlocal hlt hspace]
              rw [Nat.sub_zero] at hlt ⊢
              rw [Nat.min_eq_left (Nat.le_of_lt hlt), ← hextent, hlast]
              exact ih (front ++ [block]) hmap' hlast' (by omega)
            have hchunk := placed_chunk hlocal hmap hcount hpermit hothers
            rw [Nat.add_zero, Nat.sub_zero] at hchunk
            rw [hchunk, hlast]
            constructor
            · rintro ⟨hstart, hseamless⟩
              exact (joined_iff_seamless hstart hbase).mpr hseamless
            · intro hjoined
              have hholds : (block.mappedOffset address).isSome = true := by
                rw [hlocal]
                rfl
              obtain ⟨hstart, _, _⟩ := seat_of_joined hmap hlast hcount hholds hjoined
              exact ⟨hstart, (joined_iff_seamless hstart hbase).mp hjoined⟩
        · have hholds : (block.mappedOffset address).isSome = true :=
            hwhere.resolve_left fun heq => hbase heq.symm
          obtain ⟨localOffset, hlocal⟩ := Option.isSome_iff_exists.mp hholds
          obtain ⟨haddress, hinside⟩ := MemBlock.mappedOffset_eq_some_iff.mp hlocal
          constructor
          · rintro ⟨_, _, hplaced⟩
            have hzero := hplaced 0 hcount
            have hfirst : ∀ n others, 0 < n →
                (List.range' (extent front) n ++ others)[0]? = some (extent front) := by
              intro n others hn
              rw [List.getElem?_append_left (by rw [List.length_range']; exact hn),
                List.getElem?_range' hn, Nat.mul_zero, Nat.add_zero]
            have hne : localOffset ≠ 0 := by
              rintro rfl
              apply hbase
              apply BitVec.eq_of_toNat_eq
              omega
            rw [later_zero] at hzero
            exfalso
            apply place_ne_start hlocal hmap hne
            rw [hzero]
            split
            · rw [← List.append_nil (List.range' _ _)]
              exact hfirst _ [] (by omega)
            · exact hfirst _ _ (by omega)
          · intro hjoined
            exact absurd (seat_of_joined hmap hlast hcount hholds hjoined).2.2 hbase

/-- At the start of a span: nothing is planned, or something is and the span is placed exactly if
it is seamless. -/
theorem plan_start (sound : rule.Sound) {map : List (MemBlock w)} (rest front : List (MemBlock w))
    (hmap : map = front ++ rest) (hfront : seat front 0 address = none) (hcount : 0 < count) :
    (Refused rule.permits map address ∧
      plan rule rest (extent front) false address count = ([], false)) ∨
    ¬ Refused rule.permits map address ∧
      (plan rule rest (extent front) false address count).1 ≠ [] ∧
      (Placed map address count (plan rule rest (extent front) false address count) ↔
        Seamless rule.permits map address count) := by
  induction rest generalizing front with
  | nil =>
    left
    constructor
    · intro k block hk
      rw [hmap, List.append_nil, hfront] at hk
      cases hk
    · rfl
  | cons block rest ih =>
    have hmap' : map = (front ++ [block]) ++ rest := by
      rw [hmap, List.append_assoc]
      rfl
    have hextent : extent (front ++ [block]) = extent front + block.length.toNat := by
      rw [extent_append]
      rfl
    rw [plan, sound.start]
    cases hlocal : block.mappedOffset address with
    | none =>
      have hpassed : seat (front ++ [block]) 0 address = none := by
        rw [seat_append, hfront, Option.none_or, seat, hlocal]
        rfl
      have h := ih (front ++ [block]) hmap' hpassed
      rw [hextent] at h
      exact h
    | some localOffset =>
      have hinside := (MemBlock.mappedOffset_eq_some_iff.mp hlocal).2
      have hstart : seat map 0 address = some (front.length, block) := by
        rw [hmap, seat_append, hfront, Option.none_or, seat, hlocal, Nat.zero_add]
        rfl
      dsimp only
      cases hpermit : rule.permits block with
      | false =>
        left
        refine ⟨?_, rfl⟩
        intro k found hk
        rw [hstart] at hk
        cases hk
        exact hpermit
      | true =>
        right
        rw [Bool.not_true, if_neg Bool.false_ne_true]
        refine ⟨?_, ?_, ?_⟩
        · intro hrefused
          rw [hrefused _ _ hstart] at hpermit
          cases hpermit
        · have hne : List.range' (extent front + localOffset)
              (min (block.length.toNat - localOffset) count) ≠ [] := by
            intro h
            have hlength := congrArg List.length h
            rw [List.length_range'] at hlength
            simp only [List.length_nil] at hlength
            omega
          split
          · exact hne
          · exact List.append_ne_nil_of_left_ne_nil hne _
        · have hothers : block.length.toNat - localOffset < count →
              address.toNat + count ≤ w.space →
              (Placed map (later address (block.length.toNat - localOffset))
                  (count - (block.length.toNat - localOffset))
                  (plan rule rest (extent front + block.length.toNat) true
                    (block.base + block.length)
                    (count - min (block.length.toNat - localOffset) count)) ↔
                Joined rule.permits map front.length
                  (later address (block.length.toNat - localOffset))
                  (count - (block.length.toNat - localOffset))) := by
            intro hlt hspace
            rw [base_add_length hlocal hlt hspace, Nat.min_eq_left (Nat.le_of_lt hlt), ← hextent]
            apply placed_iff_joined sound rest (front ++ [block]) hmap'
            · rw [List.length_append]
              rfl
            · omega
          rw [placed_chunk hlocal hmap hcount hpermit hothers]
          exact ⟨fun h => h.2, fun h => ⟨hstart, h⟩⟩

theorem zero_ne_one (w : WordSizes) : (0 : w.Data) ≠ 1 := by
  intro h
  have hpos := w.data_pos
  have hone : (1 : w.Data).toNat = 1 := by
    apply Nat.mod_eq_of_lt
    exact Nat.one_lt_two_pow (by omega)
  rw [← h] at hone
  cases hone

/-- A call with a span of this length is exact whatever the memory and the span hold. -/
def AlwaysExact (call : MemoryStorage w → List w.Data → w.Address → MemoryStorage w × Option String)
    (map : List (MemBlock w)) (address : w.Address) (count : ℕ) : Prop :=
  ∀ mem : List w.Data, mem.length = extent map → ∀ value : List w.Data, value.length = count →
    ExactCall ⟨map, mem⟩ value address (call ⟨map, mem⟩ value address)

section Exact

variable {rule : CopyRule w} {map : List (MemBlock w)} {address : w.Address}

theorem copy_spec (sound : rule.Sound) {mem value : List w.Data} (hsize : mem.length = extent map)
    (hvalue : 0 < value.length) :
    ∃ (mem' : List w.Data) (outcome : Option String),
      MemoryStorage.copy rule ⟨map, mem⟩ value address = (⟨map, mem'⟩, outcome) ∧
      mem'.length = mem.length ∧
      (outcome = none ↔ (plan rule map 0 false address value.length).2 = true) ∧
      (∀ (i p : ℕ), (plan rule map 0 false address value.length).1[i]? = some p →
        mem'[p]? = value[i]?) ∧
      ∀ p : ℕ, p ∉ (plan rule map 0 false address value.length).1 → mem'[p]? = mem[p]? := by
  have hnonempty : value.isEmpty = false := by
    cases value with
    | nil => cases hvalue
    | cons element rest => rfl
  have hfits : 0 + extent map ≤ mem.length := by omega
  obtain ⟨hlength, hdone, hstored, hkept⟩ :=
    @copyFrom_spec w address map false rule sound value.length 0 value mem hfits
  refine ⟨_, _, ?_, hlength, hdone, hstored, hkept⟩
  unfold MemoryStorage.copy
  rw [hnonempty]
  rfl

theorem plan_le (sound : rule.Sound) (hcount : 0 < count) :
    (Refused rule.permits map address ∧ plan rule map 0 false address count = ([], false)) ∨
    ¬ Refused rule.permits map address ∧ (plan rule map 0 false address count).1 ≠ [] ∧
      (Placed map address count (plan rule map 0 false address count) ↔
        Seamless rule.permits map address count) :=
  plan_start sound map [] rfl rfl hcount

/-- A refused or seamless span is copied exactly. -/
theorem exact_of_seamless (sound : rule.Sound)
    (h : Refused rule.permits map address ∨ Seamless rule.permits map address count) :
    AlwaysExact (MemoryStorage.copy rule) map address count := by
  intro mem hsize value hvalue
  subst hvalue
  by_cases hnil : value = []
  · subst hnil
    exact ⟨rfl, Nat.le_of_lt address.isLt, nofun, fun _ _ => rfl⟩
  have hpos : 0 < value.length := List.length_pos_iff.mpr hnil
  obtain ⟨mem', outcome, hcall, hlength, hdone, hstored, hkept⟩ :=
    @copy_spec w rule map address sound mem value hsize hpos
  rw [hcall]
  rcases plan_le sound hpos with ⟨_, hplan⟩ | ⟨hopen, _, hplaced⟩
  · rw [hplan] at hdone hkept
    cases outcome with
    | none => cases hdone.mp rfl
    | some refusal =>
      have hsame : mem' = mem := by
        apply List.ext_getElem?
        intro p
        exact hkept p List.not_mem_nil
      subst hsame
      rfl
  · obtain ⟨hall, hspace, hplace⟩ := hplaced.mpr (h.resolve_left hopen)
    obtain rfl := hdone.mpr hall
    have hcount := plan_length.2 hall
    refine ⟨rfl, hspace, ?_, ?_⟩
    · intro i hi
      have hget := List.getElem?_eq_getElem (hcount.symm ▸ hi)
      unfold MemoryStorage.stored
      rw [hplace i hi, hget]
      exact hstored i _ hget
    · intro other hother
      unfold MemoryStorage.stored
      cases hp : place map 0 other with
      | none => rfl
      | some p =>
        apply hkept
        intro hmem
        obtain ⟨i, hlt, hget⟩ := List.mem_iff_getElem.mp hmem
        have hi : i < value.length := hcount ▸ hlt
        apply hother i hi
        apply place_injective hp
        rw [hplace i hi, List.getElem?_eq_getElem hlt, hget]

/-- A call that is exact for all contents is refused at once or copies a seamless span. -/
theorem seamless_of_exact (sound : rule.Sound)
    (h : AlwaysExact (MemoryStorage.copy rule) map address count) :
    Refused rule.permits map address ∨ Seamless rule.permits map address count := by
  by_cases hzero : count = 0
  · subst hzero
    right
    exact ⟨Nat.le_of_lt address.isLt, nofun, nofun⟩
  have hpos : 0 < count := Nat.pos_of_ne_zero hzero
  rcases plan_le sound hpos with ⟨hrefused, _⟩ | ⟨_, hsome, hplaced⟩
  · exact Or.inl hrefused
  right
  apply hplaced.mp
  have hblank : (List.replicate (extent map) (0 : w.Data)).length = extent map :=
    List.length_replicate
  have hempty : ∀ p : ℕ, (List.replicate (extent map) (0 : w.Data))[p]? ≠ some 1 := by
    intro p hp
    exact zero_ne_one w (List.eq_of_mem_replicate (List.mem_of_getElem? hp)).symm
  have hrun : ∀ value : List w.Data, value.length = count →
      ∃ (mem' : List w.Data) (outcome : Option String),
        ExactCall ⟨map, List.replicate (extent map) 0⟩ value address (⟨map, mem'⟩, outcome) ∧
        (outcome = none ↔ (plan rule map 0 false address count).2 = true) ∧
        (∀ (i p : ℕ), (plan rule map 0 false address count).1[i]? = some p →
          mem'[p]? = value[i]?) ∧
        ∀ p : ℕ, p ∉ (plan rule map 0 false address count).1 →
          mem'[p]? = (List.replicate (extent map) (0 : w.Data))[p]? := by
    intro value hvalue
    have hexact := h _ hblank value hvalue
    subst hvalue
    obtain ⟨mem', outcome, hcall, _, hdone, hstored, hkept⟩ :=
      @copy_spec w rule map address sound _ value hblank hpos
    rw [hcall] at hexact
    exact ⟨mem', outcome, hexact, hdone, hstored, hkept⟩
  have hdone : (plan rule map 0 false address count).2 = true := by
    obtain ⟨mem', outcome, hexact, hdone, hstored, _⟩ :=
      hrun (List.replicate count 1) List.length_replicate
    cases outcome with
    | none => exact hdone.mp rfl
    | some refusal =>
      exfalso
      have hsame : mem' = List.replicate (extent map) 0 := by
        have heq : (⟨map, mem'⟩ : MemoryStorage w) = ⟨map, List.replicate (extent map) 0⟩ := hexact
        exact congrArg MemoryStorage.mem heq
      obtain ⟨p, others, hcons⟩ := List.exists_cons_of_ne_nil hsome
      have hfirst := hstored 0 p (by rw [hcons]; rfl)
      rw [hsame, List.getElem?_replicate_of_lt hpos] at hfirst
      exact hempty p hfirst
  have hcount := plan_length.2 hdone
  refine ⟨hdone, ?_, ?_⟩
  · obtain ⟨mem', outcome, hexact, hiff, _⟩ :=
      hrun (List.replicate count 1) List.length_replicate
    obtain rfl := hiff.mpr hdone
    obtain ⟨_, hspace, _⟩ := hexact
    rwa [List.length_replicate] at hspace
  · intro i hi
    -- a span that differs from the blank memory only in its element `i`
    have hlength : ((List.range count).map fun j => if j = i then (1 : w.Data) else 0).length =
        count := by
      rw [List.length_map, List.length_range]
    have hvalue : ∀ j, ((List.range count).map fun j =>
        if j = i then (1 : w.Data) else 0)[j]? = some 1 → j = i := by
      intro j hj
      obtain ⟨hlt, hget⟩ := List.getElem?_eq_some_iff.mp hj
      rw [List.getElem_map, List.getElem_range] at hget
      by_contra hne
      rw [if_neg hne] at hget
      exact zero_ne_one w hget
    have hself : ((List.range count).map fun j =>
        if j = i then (1 : w.Data) else 0)[i]? = some 1 := by
      rw [List.getElem?_map, List.getElem?_range hi, Option.map_some, if_pos rfl]
    generalize ((List.range count).map fun j => if j = i then (1 : w.Data) else 0) = value at *
    obtain ⟨mem', outcome, hexact, hiff, hstored, hkept⟩ := hrun value hlength
    obtain rfl := hiff.mpr hdone
    obtain ⟨_, _, hread, _⟩ := hexact
    have hone := hread i (hlength ▸ hi)
    rw [hself] at hone
    obtain ⟨p, hp, hmem⟩ := Option.bind_eq_some_iff.mp hone
    rw [hp]
    by_cases hplanned : p ∈ (plan rule map 0 false address count).1
    · obtain ⟨j, hj, hget⟩ := List.mem_iff_getElem.mp hplanned
      have hjget : (plan rule map 0 false address count).1[j]? = some p := by
        rw [List.getElem?_eq_getElem hj, hget]
      have hcopy := hstored j p hjget
      have hji := hvalue j (hcopy.symm.trans hmem)
      rw [← hji]
      exact hjget.symm
    · exact absurd ((hkept p hplanned).symm.trans hmem) (hempty p)

end Exact

/-- `write` and `load` are exact whatever is stored, exactly for spans that they refuse at once
and for spans whose addresses lie in one block after the other. -/
theorem write_load_exact_iff (map : List (MemBlock w)) (address : w.Address) (count : ℕ) :
    (AlwaysExact MemoryStorage.write map address count ↔
      Refused (fun block => block.access.hasAccess .write) map address ∨
        Seamless (fun block => block.access.hasAccess .write) map address count) ∧
    (AlwaysExact MemoryStorage.load map address count ↔
      Refused (fun _ => true) map address ∨ Seamless (fun _ => true) map address count) :=
  ⟨⟨seamless_of_exact writeRule_sound, exact_of_seamless writeRule_sound⟩,
    ⟨seamless_of_exact loadRule_sound, exact_of_seamless loadRule_sound⟩⟩

/-- Two bytes of a 16-bit space, at its last address and at the first. -/
def wrappingStore : MemoryStorage ⟨2, 1, 2, Nat.one_pos⟩ :=
  ⟨[⟨0xFFFF, 1, .readWrite⟩, ⟨0, 1, .readWrite⟩], [0, 0]⟩

/-- Two bytes of which the second may only be read. -/
def halfReadOnly : MemoryStorage ⟨2, 1, 2, Nat.one_pos⟩ :=
  ⟨[⟨0, 1, .readWrite⟩, ⟨1, 1, .read⟩], [0, 0]⟩

/-- A span over the last address goes on at address zero; one that ends in a block that may not be
written throws with its first element stored. -/
theorem write_not_exact :
    wrappingStore.write [1, 2] 0xFFFF = (⟨wrappingStore.map, [1, 2]⟩, none) ∧
      ¬ ExactCall wrappingStore [1, 2] 0xFFFF (wrappingStore.write [1, 2] 0xFFFF) ∧
      halfReadOnly.write [1, 2] 0 =
        (⟨halfReadOnly.map, [1, 0]⟩, some "address is not writable") ∧
      ¬ ExactCall halfReadOnly [1, 2] 0 (halfReadOnly.write [1, 2] 0) := by
  have hwrap : wrappingStore.write [1, 2] 0xFFFF = (⟨wrappingStore.map, [1, 2]⟩, none) := rfl
  have hhalf : halfReadOnly.write [1, 2] 0 =
      (⟨halfReadOnly.map, [1, 0]⟩, some "address is not writable") := rfl
  refine ⟨hwrap, ?_, hhalf, ?_⟩
  · rw [hwrap]
    rintro ⟨_, hspace, _⟩
    revert hspace
    decide
  · rw [hhalf]
    intro hsame
    have hmem : ([1, 0] : List (BitVec 8)) = [0, 0] := congrArg MemoryStorage.mem hsame
    revert hmem
    decide

end ProtoTime.Memory
