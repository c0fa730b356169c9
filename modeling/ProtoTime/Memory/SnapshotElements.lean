import Mathlib.Algebra.Group.Int.Defs
import ProtoTime.Memory.SnapshotAccesses

/-!
Access to a snapshot by element. An element that is not captured is inserted into the packed data
by rules of its own, next to those of a write; the iterator walks over all addresses up to the
last one accessed.
-/
namespace ProtoTime.Memory

variable {w : WordSizes}

/-- A value of the signed 64-bit index type. -/
def memIndex (value : ℤ) : ℤ := (BitVec.ofInt 64 value).toInt

/-- The comparison of an index with an address: unsigned for addresses as wide as the index. -/
def equalsAddress (index : ℤ) (address : w.Address) : Bool :=
  if w.address = 8 then (BitVec.ofInt 64 index).toNat == address.toNat
  else index == address.toNat

/-- The packed data and the runs, with the last address accessed. -/
structure Elements (w : WordSizes) where
  pool : List (w.Address × ℕ)
  mem : List w.Data
  maxAccessed : w.Address

theorem bmod_wide (value : ℤ) : value.bmod (2 ^ 64) =
    if value % 2 ^ 64 < 2 ^ 63 then value % 2 ^ 64 else value % 2 ^ 64 - 2 ^ 64 :=
  rfl

theorem memIndex_of_lt {value : ℤ} (hlow : -2 ^ 63 ≤ value) (hhigh : value < 2 ^ 63) :
    memIndex value = value := by
  unfold memIndex
  rw [BitVec.toInt_ofInt, bmod_wide]
  split
  · omega
  · omega

theorem memIndex_of_ge {value : ℤ} (hlow : 2 ^ 63 ≤ value) (hhigh : value < 2 ^ 64) :
    memIndex value = value - 2 ^ 64 := by
  unfold memIndex
  rw [BitVec.toInt_ofInt, bmod_wide]
  split
  · omega
  · omega

theorem equalsAddress_ofNat {index : ℕ} (hindex : index < 2 ^ 64) (address : w.Address) :
    equalsAddress index address = true ↔ index = address.toNat := by
  unfold equalsAddress
  split
  · rw [beq_iff_eq, BitVec.toNat_ofInt]
    omega
  · rw [beq_iff_eq]
    omega

theorem equalsAddress_neg {gap : ℕ} (hpos : 0 < gap) (hgap : gap ≤ 2 ^ 63) (address : w.Address) :
    equalsAddress (-(gap : ℤ)) address = true ↔
      w.address = 8 ∧ address.toNat + gap = 2 ^ 64 := by
  unfold equalsAddress
  split
  · next hwide =>
    rw [beq_iff_eq, BitVec.toNat_ofInt]
    constructor
    · intro h
      exact ⟨hwide, by omega⟩
    · rintro ⟨_, h⟩
      omega
  · next hnarrow =>
    rw [beq_iff_eq]
    constructor
    · intro h
      omega
    · rintro ⟨hwide, _⟩
      exact absurd hwide hnarrow

namespace Elements

variable (e : Elements w)

def isAddressInSnapshot (at' : w.Address) : Except String SnapshotAddressData :=
  match e.pool with
  | [] => .ok ⟨false, 0, 0, 0⟩
  | front :: _ =>
    if at' < front.1 then
      let gap := front.1.toNat - at'.toNat
      if 2 ^ 63 < gap then .error "SnapshotStorage address gap exceeds memindextype range."
      else .ok ⟨false, 0, 0, -gap⟩
    else
      let index := SnapshotStorage.closestRun e.pool at'
      .ok (SnapshotStorage.addressData e.mem.length index (e.pool.getD index front)
        (e.pool.drop (index + 1)) at')

/-- A run of one element put before or behind the run found, unless the address adjoins it, with
the index of the run that then holds the address. -/
def insertEntry (pool : List (w.Address × ℕ)) (index : ℕ) (rellength : ℤ)
    (entry : w.Address × ℕ) : ℕ × List (w.Address × ℕ) :=
  if rellength.natAbs ≠ 1 then
    let position := if rellength < 0 then index else index + 1
    (position, pool.take position ++ entry :: pool.drop position)
  else (index, pool)

/-- The runs that follow without the next one, when that starts at a sum of offset and distance. -/
def unjoined (sum : ℤ) : List (w.Address × ℕ) → List (w.Address × ℕ)
  | [] => []
  | next :: rest => if equalsAddress sum next.1 then rest else next :: rest

/-- The next run joined to one; the offsets of the runs that follow move up. -/
def joinNext (poolit : ℕ) (pool : List (w.Address × ℕ)) (sum : ℤ) : List (w.Address × ℕ) :=
  pool.take (poolit + 1) ++ shift (unjoined sum (pool.drop (poolit + 1)))

/-- The place of an element, which is inserted as zero when it is not captured. -/
def at' (idx : w.Address) : Except String (ℕ × Elements w) := do
  let p ← e.isAddressInSnapshot idx
  match e.pool[p.pool]? with
  | none => .error "vector::_M_range_check"
  | some run =>
    let memindex := run.2 + p.relofs.toNat
    if p.isAddressInSnapshot then .ok (memindex, e)
    else
      let inserted := insertEntry e.pool p.pool (memIndex p.rellength) (idx, memindex)
      let pool := joinNext inserted.1 inserted.2 (p.relofs + memIndex p.rellength)
      let mem := e.mem.take memindex ++ 0 :: e.mem.drop memindex
      .ok (memindex, { e with pool := pool, mem := mem })

def assignAt (idx : w.Address) (value : w.Data) : Elements w × Option String :=
  match e.at' idx with
  | .error refusal => (e, some refusal)
  | .ok (index, e) => ({ e with mem := e.mem.set index value }, none)

def access (idx : w.Address) : Elements w :=
  { e with maxAccessed := if e.maxAccessed < idx then idx else e.maxAccessed }

/-- `[idx] = value`: the proxy assigns through `at`, and calls it again for its result. -/
def assign (idx : w.Address) (value : w.Data) : Elements w × Option String :=
  match (e.access idx).assignAt idx value with
  | (e, some refusal) => (e, some refusal)
  | (e, none) =>
    match e.at' idx with
    | .error refusal => (e, some refusal)
    | .ok (_, e) => (e, none)

def writeAt (at' : w.Address) (value : w.Data) : Except String (Elements w) := do
  let below := match e.pool with
    | [] => false
    | front :: _ => at' < front.1
  if below then
    let _ ← e.isAddressInSnapshot at'
  let result := SnapshotStorage.writeElement e.mem e.pool at' value
  return { e with pool := result.2, mem := result.1 }

def writeFrom : List w.Data → w.Address → Elements w → Elements w × Option String
  | [], _, e => (e, none)
  | value :: rest, at', e =>
    match e.writeAt at' value with
    | .error refusal => (e, some refusal)
    | .ok e => writeFrom rest (at' + 1) e

def write (stream : List w.Data) (address : w.Address) : Elements w × Option String :=
  let count := min (w.space - address.toNat) stream.length
  if count = 0 then (e, none)
  else writeFrom (stream.take count) address (e.access (later address (count - 1)))

def read (count : ℕ) (address : w.Address) : Elements w :=
  let count := min (w.space - address.toNat) count
  if count = 0 then e else e.access (later address (count - 1))

/-- The addresses an iteration from `begin` to `end` visits; `end` is one behind the last address
accessed, in the address type. -/
def visited : List w.Address :=
  (List.range (e.maxAccessed + 1).toNat).map fun i => BitVec.ofNat _ i

end Elements

namespace SnapshotStorage

def elements (s : SnapshotStorage w) (maxAccessed : w.Address) : Elements w :=
  ⟨s.pool, s.mem, maxAccessed⟩

theorem elements_isAddressInSnapshot (s : SnapshotStorage w) (maxAccessed at' : w.Address) :
    (s.elements maxAccessed).isAddressInSnapshot at' = s.isAddressInSnapshot at' := rfl

/-- The addresses at which an element access does what a write of one element does. -/
structure Indexable (s : SnapshotStorage w) (at' : w.Address) : Prop where
  nonempty : s.pool ≠ []
  before : ∀ front rest, s.pool = front :: rest → at' < front.1 →
    2 ^ 63 < front.1.toNat - at'.toNat ∨ front.1.toNat - at'.toNat ≠ 1 ∧
      (w.address = 8 → front.1.toNat + (front.1.toNat - at'.toNat) ≠ 2 ^ 64)
  behind : ∀ front entry follower, s.pool = front ++ entry :: follower →
    entry.1.toNat + (nextOffset s.mem.length follower - entry.2) ≤ at'.toNat →
    at'.toNat < nextStart (w.space + 1) follower →
    at'.toNat + 1 - (entry.1.toNat + (nextOffset s.mem.length follower - entry.2)) < 2 ^ 63 ∧
      (at'.toNat + 1 = nextStart (w.space + 1) follower → entry.1 = 0)

/-- The closest run that starts at or below an address, as the search finds it. -/
structure Closest (s : SnapshotStorage w) (at' : w.Address) (front : List (w.Address × ℕ))
    (entry : w.Address × ℕ) (follower : List (w.Address × ℕ)) : Prop where
  pool : s.pool = front ++ entry :: follower
  start_le : entry.1 ≤ at'
  lt_next : at'.toNat < nextStart (w.space + 1) follower
  found : s.isAddressInSnapshot at' =
    .ok (addressData s.mem.length front.length entry follower at')

/-- The search for an address: below the first run, or in or behind the closest one. -/
theorem search_cases (s : SnapshotStorage w) (at' : w.Address) :
    s.pool = [] ∨
    (∃ first rest, s.pool = first :: rest ∧ at' < first.1 ∧ s.isAddressInSnapshot at' =
      if 2 ^ 63 < first.1.toNat - at'.toNat then
        .error "SnapshotStorage address gap exceeds memindextype range."
      else .ok ⟨false, 0, 0, -(first.1.toNat - at'.toNat : ℕ)⟩) ∨
    ∃ front entry follower, s.Closest at' front entry follower := by
  obtain ⟨store, pool, mem, hoffset, hlaid⟩ := s
  cases pool with
  | nil => exact Or.inl rfl
  | cons first pool =>
    right
    by_cases hbelow : at' < first.1
    · left
      exact ⟨first, pool, rfl, hbelow, if_pos hbelow⟩
    · right
      have hle : first.1 ≤ at' := BitVec.not_lt.mp hbelow
      obtain ⟨front, entry, follower, hpool, hindex, hentry, hfollower⟩ :=
        @closestRun_spec w at' pool first hle
      refine ⟨front, entry, follower, hpool, hentry, hfollower, ?_⟩
      have hget : (front ++ entry :: follower).getD front.length first = entry := by simp
      have hdrop : (front ++ entry :: follower).drop (front.length + 1) = follower := by simp
      unfold isAddressInSnapshot
      dsimp only
      rw [if_neg hbelow, ← hindex, hpool, hget, hdrop]

variable {entry : w.Address × ℕ}

theorem start_lt_of_laid {bound size : ℕ} {entries : List (w.Address × ℕ)}
    (hlaid : Laid bound size entries) (hentry : entry ∈ entries) :
    entry.1.toNat < bound := by
  induction entries with
  | nil => cases hentry
  | cons first rest ih =>
    obtain ⟨_, hgap, hrest⟩ := hlaid
    have hle := nextStart_le hrest
    rcases List.mem_cons.mp hentry with rfl | hmem
    · omega
    · exact ih hrest hmem

variable {front follower : List (w.Address × ℕ)}

/-- The runs up to an address and those behind it. -/
theorem split_pool {bound size : ℕ}
    {at' : w.Address} (hlaid : Laid bound size (front ++ entry :: follower))
    (hentry : entry.1 ≤ at') (hfollower : at'.toNat < nextStart (w.space + 1) follower) :
    (front ++ entry :: follower).takeWhile (fun entry => entry.1 ≤ at') = front ++ [entry] ∧
      (front ++ entry :: follower).dropWhile (fun entry => entry.1 ≤ at') = follower := by
  have hfront : ∀ first ∈ front, decide (first.1 ≤ at') = true := by
    intro first hfirst
    have hlt := start_lt_of_laid (laid_append.mp hlaid).1 hfirst
    have hstart : nextStart bound (entry :: follower) = entry.1.toNat := rfl
    have hle : entry.1.toNat ≤ at'.toNat := hentry
    apply decide_eq_true
    show first.1.toNat ≤ at'.toNat
    omega
  rw [List.takeWhile_append_of_pos hfront, List.dropWhile_append_of_pos hfront,
    List.takeWhile_cons_of_pos (by simpa using hentry),
    List.dropWhile_cons_of_pos (by simpa using hentry)]
  cases follower with
  | nil => exact ⟨rfl, rfl⟩
  | cons next rest =>
    have hnext : decide (next.1 ≤ at') = false :=
      decide_eq_false (BitVec.not_le.mpr hfollower)
    rw [List.takeWhile_cons, List.dropWhile_cons, hnext]
    exact ⟨rfl, rfl⟩

theorem set_insert (mem : List w.Data) {index : ℕ} (value : w.Data) (hindex : index ≤ mem.length) :
    (mem.take index ++ 0 :: mem.drop index).set index value =
      mem.take index ++ value :: mem.drop index := by
  have hlength : (mem.take index).length = index := by
    rw [List.length_take]
    omega
  rw [List.set_append, if_neg (by omega), hlength, Nat.sub_self]
  rfl

theorem joinNext_at (front : List (w.Address × ℕ)) (entry : w.Address × ℕ)
    (follower : List (w.Address × ℕ)) (sum : ℤ) :
    Elements.joinNext front.length (front ++ entry :: follower) sum =
      front ++ entry :: shift (Elements.unjoined sum follower) := by
  have htake : (front ++ entry :: follower).take (front.length + 1) = front ++ [entry] := by
    rw [List.take_append, List.take_of_length_le (Nat.le_succ _), Nat.add_sub_cancel_left]
    rfl
  have hdrop : (front ++ entry :: follower).drop (front.length + 1) = follower := by simp
  unfold Elements.joinNext
  rw [htake, hdrop, List.append_assoc]
  rfl

theorem length_shift (entries : List (w.Address × ℕ)) :
    (shift entries).length = entries.length :=
  List.length_map _

theorem write_one (s : SnapshotStorage w) (at' : w.Address) (value : w.Data) :
    s.write [value] at' =
      match s.writeAt at' value with
      | .error refusal => (s, some refusal)
      | .ok next => (next, none) := by
  have hlt : at'.toNat < w.space := at'.isLt
  have htake : [value].take (w.space - at'.toNat) = [value] :=
    List.take_of_length_le (by rw [List.length_singleton]; omega)
  unfold write
  rw [htake, writeFrom]
  cases s.writeAt at' value with
  | error refusal => rfl
  | ok next => rfl

/-- What an element access compares with: a write of one element. -/
def Agrees (s : SnapshotStorage w) (at' : w.Address) (value : w.Data) (m : w.Address) : Prop :=
  (s.elements m).assignAt at' value =
    ((s.write [value] at').1.elements m, (s.write [value] at').2)

section Agreement

variable {s : SnapshotStorage w} {at' : w.Address} {value : w.Data} {m : w.Address}

theorem agrees_of_pools {pool : List (w.Address × ℕ)} {mem : List w.Data}
    (hassign : (s.elements m).assignAt at' value = (⟨pool, mem, m⟩, none))
    (hmem : (writeElement s.mem s.pool at' value).1 = mem)
    (hnear : ¬ Overlay.TooFar s.captured at') :
    s.Agrees at' value m ↔ pool = (writeElement s.mem s.pool at' value).2 := by
  rcases s.writeAt_cases at' value with ⟨hfar, _⟩ | ⟨_, hwritten⟩
  · exact absurd hfar hnear
  unfold Agrees
  rw [hassign, write_one, hwritten]
  subst hmem
  constructor
  · intro h
    exact congrArg (fun result => result.1.pool) h
  · intro h
    rw [h]
    rfl

theorem at_inside (hclosest : s.Closest at' front entry follower)
    (hinside : at'.toNat - entry.1.toNat < nextOffset s.mem.length follower - entry.2) :
    (s.elements m).at' at' = .ok (entry.2 + (at'.toNat - entry.1.toNat), s.elements m) := by
  obtain ⟨hpool, hentry, -, hfound⟩ := hclosest
  have hsub : (at' - entry.1).toNat = at'.toNat - entry.1.toNat := BitVec.toNat_sub_of_le hentry
  have hget : (front ++ entry :: follower)[front.length]? = some entry := by simp
  unfold Elements.at'
  rw [elements_isAddressInSnapshot, hfound, addressData, hsub]
  rw [if_pos hinside]
  show (match s.pool[front.length]? with
    | none => _
    | some run => _) = _
  rw [hpool, hget]
  rfl

/-- In a run, the element is replaced. -/
theorem agrees_inside (hclosest : s.Closest at' front entry follower)
    (hinside : at'.toNat - entry.1.toNat < nextOffset s.mem.length follower - entry.2)
    (hnear : ¬ Overlay.TooFar s.captured at') : s.Agrees at' value m := by
  have hpool := hclosest.pool
  have hsub : (at' - entry.1).toNat = at'.toNat - entry.1.toNat :=
    BitVec.toNat_sub_of_le hclosest.start_le
  obtain ⟨htake, hdrop⟩ := split_pool (hpool ▸ s.laid) hclosest.start_le hclosest.lt_next
  have hwritten : writeElement s.mem s.pool at' value =
      (s.mem.set (entry.2 + (at'.toNat - entry.1.toNat)) value, s.pool) := by
    unfold writeElement
    dsimp only
    rw [hpool, htake, hdrop, List.getLast?_concat]
    dsimp only
    rw [hsub, if_pos hinside]
  have hassign : (s.elements m).assignAt at' value =
      (⟨s.pool, s.mem.set (entry.2 + (at'.toNat - entry.1.toNat)) value, m⟩, none) := by
    unfold Elements.assignAt
    rw [at_inside hclosest hinside]
    rfl
  apply (agrees_of_pools hassign _ hnear).mpr
  · rw [hwritten]
  · rw [hwritten]

theorem pools_ne {left right : List (w.Address × ℕ)} {index : ℕ}
    (h : (left[index]?).map Prod.fst ≠ (right[index]?).map Prod.fst) : left ≠ right := by
  rintro rfl
  exact h rfl

/-- Behind a run, the place and the runs after the access. -/
theorem assignAt_behind (hclosest : s.Closest at' front entry follower)
    (hlt : entry.2 < nextOffset s.mem.length follower)
    (hle : nextOffset s.mem.length follower ≤ s.mem.length)
    (houtside : entry.1.toNat + (nextOffset s.mem.length follower - entry.2) ≤ at'.toNat) :
    let size := nextOffset s.mem.length follower - entry.2
    let distance := at'.toNat + 1 - (entry.1.toNat + size)
    let inserted := Elements.insertEntry s.pool front.length (memIndex distance)
      (at', nextOffset s.mem.length follower)
    (s.elements m).assignAt at' value =
      (⟨Elements.joinNext inserted.1 inserted.2 (size + memIndex distance),
        s.mem.take (nextOffset s.mem.length follower) ++ value ::
          s.mem.drop (nextOffset s.mem.length follower), m⟩, none) := by
  intro size distance inserted
  obtain ⟨hpool, hentry, -, hfound⟩ := hclosest
  have hsub : (at' - entry.1).toNat = at'.toNat - entry.1.toNat := BitVec.toNat_sub_of_le hentry
  have hget : (front ++ entry :: follower)[front.length]? = some entry := by simp
  have hdistance : (at'.toNat : ℤ) - (entry.1.toNat + size - 1 : ℤ) = distance := by omega
  have hplace : entry.2 + size = nextOffset s.mem.length follower := by omega
  unfold Elements.assignAt Elements.at'
  rw [elements_isAddressInSnapshot, hfound, addressData, hsub]
  rw [if_neg (by omega)]
  simp only [bind, Except.bind]
  rw [show (s.elements m).pool = s.pool from rfl, hpool, hget]
  dsimp only
  rw [if_neg Bool.false_ne_true, Int.toNat_natCast, hplace, hdistance, ← hpool]
  dsimp only
  rw [show (s.elements m).mem = s.mem from rfl, set_insert s.mem value hle]
  rfl

theorem writeElement_behind (hclosest : s.Closest at' front entry follower)
    (houtside : entry.1.toNat + (nextOffset s.mem.length follower - entry.2) ≤ at'.toNat) :
    writeElement s.mem s.pool at' value =
      (s.mem.take (nextOffset s.mem.length follower) ++ value ::
          s.mem.drop (nextOffset s.mem.length follower),
        if at'.toNat + 1 - (entry.1.toNat + (nextOffset s.mem.length follower - entry.2)) = 1 then
          front ++ entry :: behind follower (isAdjacentNext follower at')
        else front ++ entry :: (at', nextOffset s.mem.length follower) ::
          behind follower (isAdjacentNext follower at')) := by
  obtain ⟨hpool, hentry, hfollower, -⟩ := hclosest
  have hsub : (at' - entry.1).toNat = at'.toNat - entry.1.toNat := BitVec.toNat_sub_of_le hentry
  obtain ⟨htake, hdrop⟩ := split_pool (hpool ▸ s.laid) hentry hfollower
  unfold writeElement
  dsimp only
  rw [hpool, htake, hdrop, List.getLast?_concat]
  dsimp only
  rw [hsub, if_neg (by omega)]
  by_cases hone : at'.toNat - entry.1.toNat = nextOffset s.mem.length follower - entry.2
  · rw [if_pos hone, if_pos (by omega), List.append_assoc]
    rfl
  · rw [if_neg hone, if_neg (by omega)]
    unfold insertRun
    rw [List.append_assoc]
    rfl

/-- The next run is joined at the right time, unless a run further up adjoins. -/
theorem unjoined_eq_behind_iff {sum : ℕ} {follower : List (w.Address × ℕ)}
    {start : w.Address} (hsum : sum = at'.toNat + 1 - start.toNat)
    (hstart : start.toNat ≤ at'.toNat)
    (hspace : w.space ≤ 2 ^ 64) (hfollower : at'.toNat < nextStart (w.space + 1) follower) :
    shift (Elements.unjoined (sum : ℤ) follower) = behind follower (isAdjacentNext follower at') ↔
      (at'.toNat + 1 = nextStart (w.space + 1) follower → start = 0) := by
  have hadjacent := @isAdjacentNext_iff w at' follower
  cases follower with
  | nil =>
    constructor
    · intro _ h
      have hat : at'.toNat < w.space := at'.isLt
      have hbound : nextStart (w.space + 1) ([] : List (w.Address × ℕ)) = w.space + 1 := rfl
      omega
    · intro _
      rfl
  | cons next rest =>
    have hnext : nextStart (w.space + 1) (next :: rest) = next.1.toNat := rfl
    have hlt : next.1.toNat < w.space := next.1.isLt
    have hjoin := @equalsAddress_ofNat w sum (by omega) next.1
    have hzero : start = 0 ↔ start.toNat = 0 := by
      constructor
      · rintro rfl
        exact BitVec.toNat_zero
      · intro h
        exact BitVec.eq_of_toNat_eq (h.trans BitVec.toNat_zero.symm)
    rw [Elements.unjoined]
    unfold behind
    by_cases hnear : at'.toNat + 1 = next.1.toNat
    · rw [if_pos (hadjacent.mpr hnear), hzero]
      by_cases hfirst : start.toNat = 0
      · rw [if_pos (hjoin.mpr (by omega))]
        exact ⟨fun _ _ => hfirst, fun _ => rfl⟩
      · rw [if_neg (fun h => hfirst (by have hsame := hjoin.mp h; omega))]
        constructor
        · intro h
          have hlength := congrArg List.length h
          rw [List.length_tail, length_shift, List.length_cons] at hlength
          omega
        · intro h
          exact absurd (h hnear) hfirst
    · rw [if_neg (fun h => hnear (hadjacent.mp h)),
        if_neg (fun h => hnear (by have hsame := hjoin.mp h; omega))]
      exact ⟨fun _ h => absurd h hnear, fun _ => rfl⟩

theorem pools_eq_behind {left right : List (w.Address × ℕ)} :
    front ++ entry :: left = front ++ entry :: right ↔ left = right := by
  rw [List.append_cancel_left_eq, List.cons.injEq]
  exact ⟨fun h => h.2, fun h => ⟨rfl, h⟩⟩

/-- Behind a run, an access agrees with a write if the distance fits the index type and no run is
left apart that adjoins. -/
theorem agrees_behind_iff (hspace : w.space ≤ 2 ^ 64)
    (hclosest : s.Closest at' front entry follower)
    (houtside : entry.1.toNat + (nextOffset s.mem.length follower - entry.2) ≤ at'.toNat)
    (hnear : ¬ Overlay.TooFar s.captured at') :
    s.Agrees at' value m ↔
      at'.toNat + 1 - (entry.1.toNat + (nextOffset s.mem.length follower - entry.2)) < 2 ^ 63 ∧
        (at'.toNat + 1 = nextStart (w.space + 1) follower → entry.1 = 0) := by
  have hpool := hclosest.pool
  have hlaid := (laid_append.mp (hpool ▸ s.laid)).2
  have hlt : entry.2 < nextOffset s.mem.length follower := hlaid.1
  have hle := nextOffset_le hlaid.2.2
  have hentryNat : entry.1.toNat ≤ at'.toNat := hclosest.start_le
  have hat : at'.toNat < w.space := at'.isLt
  have hassign := @assignAt_behind w entry front follower s at' value m hclosest hlt hle houtside
  have hwritten := @writeElement_behind w entry front follower s at' value hclosest houtside
  dsimp only at hassign
  generalize hd : at'.toNat + 1 -
    (entry.1.toNat + (nextOffset s.mem.length follower - entry.2)) = distance at *
  rw [agrees_of_pools hassign (by rw [hwritten]) hnear, hwritten]
  dsimp only
  by_cases hfits : distance < 2 ^ 63
  · have hindex : memIndex (distance : ℤ) = distance := memIndex_of_lt (by omega) (by omega)
    have hjoined := @unjoined_eq_behind_iff w at'
      (nextOffset s.mem.length follower - entry.2 + distance) follower entry.1 (by omega) hentryNat
      hspace hclosest.lt_next
    rw [hindex, ← Int.natCast_add]
    unfold Elements.insertEntry
    by_cases hone : distance = 1
    · rw [if_neg (by omega), if_pos hone, hpool, joinNext_at, pools_eq_behind, hjoined]
      exact ⟨fun h => ⟨hfits, h⟩, fun h => h.2⟩
    · have hfront : (front ++ [entry]).length = front.length + 1 := by
        rw [List.length_append]
        rfl
      have htake : (front ++ entry :: follower).take (front.length + 1) = front ++ [entry] := by
        rw [List.take_append, List.take_of_length_le (Nat.le_succ _), Nat.add_sub_cancel_left]
        rfl
      have hdrop : (front ++ entry :: follower).drop (front.length + 1) = follower := by simp
      rw [if_pos (by omega), if_neg (by omega), if_neg hone, hpool]
      dsimp only
      rw [htake, hdrop, ← hfront, joinNext_at, List.append_assoc]
      show front ++ entry :: (at', _) :: _ = _ ↔ _
      rw [pools_eq_behind, List.cons.injEq, hjoined]
      exact ⟨fun h => ⟨hfits, h.2⟩, fun h => ⟨rfl, h.2⟩⟩
  · have hindex : memIndex (distance : ℤ) = distance - 2 ^ 64 :=
      memIndex_of_ge (by omega) (by omega)
    have hne : entry.1 ≠ at' := by
      intro h
      rw [h] at houtside
      omega
    constructor
    · intro h
      exfalso
      revert h
      rw [hindex, if_neg (by omega)]
      unfold Elements.insertEntry
      by_cases hone : distance = 2 ^ 64 - 1
      · rw [if_neg (by omega), hpool, joinNext_at, pools_eq_behind]
        intro h
        have hhead := congrArg (fun entries => entries.head?.map Prod.fst) h
        cases follower with
        | nil => cases hhead
        | cons next rest =>
          have hnext : at'.toNat < next.1.toNat := hclosest.lt_next
          have hlt' := next.1.isLt
          have hlast : next.1.toNat < w.space := hlt'
          omega
      · rw [if_pos (by omega), if_pos (by omega), hpool]
        dsimp only
        have htake : (front ++ entry :: follower).take front.length = front := List.take_left
        have hdrop : (front ++ entry :: follower).drop front.length = entry :: follower :=
          List.drop_left
        rw [htake, hdrop, joinNext_at]
        apply @pools_ne w _ _ front.length
        rw [List.getElem?_append_right (Nat.le_refl _), List.getElem?_append_right (Nat.le_refl _),
          Nat.sub_self]
        intro h
        exact hne (Option.some_inj.mp h).symm
    · rintro ⟨h, _⟩
      exact absurd h hfits

section

variable {first : w.Address × ℕ} {rest : List (w.Address × ℕ)} (hpool : s.pool = first :: rest)
  (hbelow : at' < first.1) (hgap : ¬ 2 ^ 63 < first.1.toNat - at'.toNat)
  (hfound : s.isAddressInSnapshot at' = .ok ⟨false, 0, 0, -(first.1.toNat - at'.toNat : ℕ)⟩)
include hpool hbelow hgap hfound

/-- Below the first run, the runs after the access. -/
theorem assignAt_before :
    (s.elements m).assignAt at' value =
      (⟨if first.1.toNat - at'.toNat = 1 then
          first :: shift (Elements.unjoined (-(1 : ℕ)) rest)
        else (at', 0) :: shift (Elements.unjoined (-(first.1.toNat - at'.toNat : ℕ)) s.pool),
        value :: s.mem, m⟩, none) := by
  have hlt : at'.toNat < first.1.toNat := hbelow
  have hfirst : first.2 = 0 := by
    have hoffset := s.first_offset
    rw [hpool] at hoffset
    exact hoffset
  generalize hdistance : first.1.toNat - at'.toNat = gap at *
  have hindex : memIndex (-(gap : ℤ)) = -(gap : ℤ) := memIndex_of_lt (by omega) (by omega)
  unfold Elements.assignAt Elements.at'
  rw [elements_isAddressInSnapshot, hfound]
  simp only [bind, Except.bind]
  rw [show (s.elements m).pool = s.pool from rfl, hpool]
  rw [List.getElem?_cons_zero]
  dsimp only
  rw [if_neg Bool.false_ne_true, hfirst, hindex]
  unfold Elements.insertEntry
  by_cases hone : gap = 1
  · rw [if_neg (by omega), if_pos hone, hone]
    have hjoin := joinNext_at [] first rest (0 + -(1 : ℕ))
    rw [Int.zero_add] at hjoin ⊢
    dsimp only
    rfl
  · rw [if_pos (by omega), if_pos (by omega), if_neg hone]
    have hjoin := joinNext_at [] (at', 0) (first :: rest) (0 + -(gap : ℤ))
    rw [Int.zero_add] at hjoin ⊢
    dsimp only
    rfl

theorem agrees_before_iff (hnear : ¬ Overlay.TooFar s.captured at') :
    s.Agrees at' value m ↔ first.1.toNat - at'.toNat ≠ 1 ∧
      (w.address = 8 → first.1.toNat + (first.1.toNat - at'.toNat) ≠ 2 ^ 64) := by
  have hlt : at'.toNat < first.1.toNat := hbelow
  have hassign := @assignAt_before w s at' value m first rest hpool hbelow hgap hfound
  have hoffset := s.first_offset
  have hnot : decide (first.1 ≤ at') = false := decide_eq_false (BitVec.not_le.mpr hbelow)
  have hwritten : writeElement s.mem s.pool at' value =
      (value :: s.mem, insertRun [] s.pool (at', 0) (isAdjacentNext s.pool at')) := by
    have htake : s.pool.takeWhile (fun entry => entry.1 ≤ at') = [] := by
      rw [hpool, List.takeWhile_cons, hnot]
      rfl
    have hdrop : s.pool.dropWhile (fun entry => entry.1 ≤ at') = s.pool := by
      rw [hpool, List.dropWhile_cons, hnot]
      rfl
    unfold writeElement
    dsimp only
    rw [htake, hdrop, hoffset, List.getLast?_nil]
    rfl
  have hadjacent := @isAdjacentNext_iff w at' s.pool
  rw [agrees_of_pools hassign (by rw [hwritten]) hnear, hwritten]
  dsimp only
  have hstart : nextStart (w.space + 1) s.pool = first.1.toNat := by
    rw [hpool]
    rfl
  rw [hstart] at hadjacent
  unfold insertRun behind
  by_cases hone : first.1.toNat - at'.toNat = 1
  · rw [if_pos hone]
    constructor
    · intro h
      have hhead := congrArg (fun entries => entries.head?.map Prod.fst) h
      have heq : first.1 = at' := Option.some_inj.mp hhead
      rw [heq] at hlt
      omega
    · rintro ⟨h, _⟩
      exact absurd hone h
  · have hapart : isAdjacentNext s.pool at' ≠ true := by
      intro h
      have hnext := hadjacent.mp h
      omega
    have hjoin := @equalsAddress_neg w (first.1.toNat - at'.toNat) (by omega) (by omega) first.1
    rw [if_neg hone, if_neg hapart, List.nil_append, List.cons.injEq, hpool, Elements.unjoined]
    by_cases hsum : w.address = 8 ∧ first.1.toNat + (first.1.toNat - at'.toNat) = 2 ^ 64
    · rw [if_pos (hjoin.mpr hsum)]
      constructor
      · rintro ⟨_, h⟩
        have hlength := congrArg List.length h
        rw [length_shift, length_shift, List.length_cons] at hlength
        omega
      · rintro ⟨_, h⟩
        exact absurd hsum.2 (h hsum.1)
    · rw [if_neg (fun h => hsum (hjoin.mp h))]
      constructor
      · intro _
        exact ⟨hone, fun hwide heq => hsum ⟨hwide, heq⟩⟩
      · intro _
        exact ⟨rfl, rfl⟩

end

/-- An element access does what a write of one element does exactly at these addresses. -/
theorem agrees_iff (hspace : w.space ≤ 2 ^ 64) : s.Agrees at' value m ↔ s.Indexable at' := by
  rcases s.search_cases at' with hnil | ⟨first, rest, hpool, hbelow, hfound⟩ |
    ⟨front, entry, follower, hclosest⟩
  · constructor
    · intro h
      exfalso
      have hrefused : ((s.elements m).assignAt at' value).2 = some "vector::_M_range_check" := by
        simp only [elements, hnil]
        rfl
      have hnear : ¬ Overlay.TooFar s.captured at' := by
        rw [tooFar_iff, hnil]
        rintro ⟨_, _, h, _⟩
        cases h
      rcases s.writeAt_cases at' value with ⟨hfar, _⟩ | ⟨_, hwritten⟩
      · exact hnear hfar
      · unfold Agrees at h
        rw [h, write_one, hwritten] at hrefused
        cases hrefused
    · intro h
      exact absurd hnil h.nonempty
  · have hlt : at'.toNat < first.1.toNat := hbelow
    have hbehind : ∀ front entry follower, s.pool = front ++ entry :: follower →
        entry.1.toNat + (nextOffset s.mem.length follower - entry.2) ≤ at'.toNat → False := by
      intro front entry follower hsplit hend
      have hlaid := s.laid
      rw [hsplit] at hlaid
      have hle := nextStart_append_le hlaid
      rw [← hsplit, hpool] at hle
      have hstart : first.1.toNat ≤ entry.1.toNat := hle
      omega
    by_cases hgap : 2 ^ 63 < first.1.toNat - at'.toNat
    · rw [if_pos hgap] at hfound
      constructor
      · intro _
        refine ⟨by rw [hpool]; exact List.cons_ne_nil _ _, ?_, ?_⟩
        · intro other others hsame _
          rw [hpool] at hsame
          cases hsame
          exact Or.inl hgap
        · intro front entry follower hsplit hend
          exact (hbehind front entry follower hsplit hend).elim
      · intro _
        have hfar : Overlay.TooFar s.captured at' := by
          rw [tooFar_iff]
          exact ⟨first, rest, hpool, by omega⟩
        have hrefused : (s.elements m).at' at' =
            .error "SnapshotStorage address gap exceeds memindextype range." := by
          unfold Elements.at'
          rw [elements_isAddressInSnapshot, hfound]
          rfl
        rcases s.writeAt_cases at' value with ⟨_, hwritten⟩ | ⟨hnear, _⟩
        · unfold Agrees Elements.assignAt
          rw [hrefused, write_one, hwritten]
        · exact absurd hfar hnear
    · rw [if_neg hgap] at hfound
      have hnear : ¬ Overlay.TooFar s.captured at' := by
        rw [tooFar_iff, hpool]
        rintro ⟨_, _, hsame, hfar⟩
        cases hsame
        omega
      rw [agrees_before_iff hpool hbelow hgap hfound hnear]
      constructor
      · intro h
        refine ⟨by rw [hpool]; exact List.cons_ne_nil _ _, ?_, ?_⟩
        · intro other others hsame _
          rw [hpool] at hsame
          cases hsame
          exact Or.inr h
        · intro front entry follower hsplit hend
          exact (hbehind front entry follower hsplit hend).elim
      · intro h
        exact (h.before first rest hpool hbelow).resolve_left hgap
  · have hpool := hclosest.pool
    have hentry := hclosest.start_le
    have hfollower := hclosest.lt_next
    have hne : s.pool ≠ [] := by
      rw [hpool]
      exact List.append_ne_nil_of_right_ne_nil _ (List.cons_ne_nil _ _)
    have hlaid := s.laid
    rw [hpool] at hlaid
    have hstart : ∀ first rest, s.pool = first :: rest → ¬ at' < first.1 := by
      intro first rest hsame hbelow
      have hle := nextStart_append_le hlaid
      rw [← hpool, hsame] at hle
      have hfirst : first.1.toNat ≤ entry.1.toNat := hle
      have hat : entry.1.toNat ≤ at'.toNat := hentry
      have hlt : at'.toNat < first.1.toNat := hbelow
      omega
    have hnear : ¬ Overlay.TooFar s.captured at' := by
      rw [tooFar_iff]
      rintro ⟨first, rest, hsame, hfar⟩
      apply hstart first rest hsame
      show at'.toNat < first.1.toNat
      omega
    -- the runs around the address are the only ones it lies between
    have hunique : ∀ front' entry' follower', s.pool = front' ++ entry' :: follower' →
        entry'.1 ≤ at' → at'.toNat < nextStart (w.space + 1) follower' →
        entry' = entry ∧ follower' = follower := by
      intro front' entry' follower' hsplit hentry' hfollower'
      have hlaid' := s.laid
      rw [hsplit] at hlaid'
      obtain ⟨htake, hdrop⟩ := split_pool hlaid hentry hfollower
      obtain ⟨htake', hdrop'⟩ := split_pool hlaid' hentry' hfollower'
      rw [← hpool] at htake hdrop
      rw [← hsplit, htake] at htake'
      rw [← hsplit, hdrop] at hdrop'
      have hlast := congrArg List.getLast? htake'
      rw [List.getLast?_concat, List.getLast?_concat] at hlast
      exact ⟨(Option.some_inj.mp hlast).symm, hdrop'.symm⟩
    by_cases hinside : at'.toNat - entry.1.toNat < nextOffset s.mem.length follower - entry.2
    · constructor
      · intro _
        refine ⟨hne, fun first rest hsame hbelow => absurd hbelow (hstart first rest hsame), ?_⟩
        intro front' entry' follower' hsplit hend hfollower'
        have hle' : entry'.1.toNat ≤ at'.toNat := by omega
        obtain ⟨rfl, rfl⟩ := hunique front' entry' follower' hsplit hle' hfollower'
        omega
      · intro _
        exact agrees_inside hclosest hinside hnear
    · have hentryNat : entry.1.toNat ≤ at'.toNat := hentry
      rw [agrees_behind_iff hspace hclosest (by omega) hnear]
      constructor
      · intro h
        refine ⟨hne, fun first rest hsame hbelow => absurd hbelow (hstart first rest hsame), ?_⟩
        intro front' entry' follower' hsplit hend hfollower'
        have hle' : entry'.1.toNat ≤ at'.toNat := by omega
        obtain ⟨rfl, rfl⟩ := hunique front' entry' follower' hsplit hle' hfollower'
        exact h
      · intro h
        exact h.behind front entry follower hpool (by omega) hfollower

/-- At a captured address nothing is inserted. -/
theorem at_of_captured (hcaptured : s.captured at' ≠ none) :
    ∃ index, (s.elements m).at' at' = .ok (index, s.elements m) := by
  rw [Ne, captured_eq_none_iff] at hcaptured
  rcases s.search_cases at' with hnil | ⟨first, rest, hpool, hbelow, _⟩ |
    ⟨front, entry, follower, hclosest⟩
  · rw [hnil] at hcaptured
    exact absurd rfl hcaptured
  · exfalso
    apply hcaptured
    apply lookup_of_lt s.laid
    rw [hpool]
    exact hbelow
  · have hpool := hclosest.pool
    have hlaid := s.laid
    rw [hpool] at hlaid
    have hrest := (laid_append.mp hlaid).2.2.2
    rw [hpool, lookup_append_of_le hlaid hclosest.start_le, lookup_cons,
      lookup_of_lt hrest hclosest.lt_next] at hcaptured
    by_cases hinside : at'.toNat - entry.1.toNat < nextOffset s.mem.length follower - entry.2
    · exact ⟨_, at_inside hclosest hinside⟩
    · rw [if_neg (fun h => hinside h.2)] at hcaptured
      exact absurd rfl hcaptured

theorem access_elements (s : SnapshotStorage w) (m idx : w.Address) :
    ∃ m', (s.elements m).access idx = s.elements m' :=
  ⟨_, rfl⟩

theorem assign_of_agrees (hagrees : ∀ m, s.Agrees at' value m) :
    ∃ m', (s.elements m).assign at' value =
      ((s.write [value] at').1.elements m', (s.write [value] at').2) := by
  obtain ⟨m', haccess⟩ := s.access_elements m at'
  have h : (s.elements m').assignAt at' value =
      ((s.write [value] at').1.elements m', (s.write [value] at').2) := hagrees m'
  refine ⟨m', ?_⟩
  unfold Elements.assign
  rw [haccess, h, write_one]
  rcases s.writeAt_cases at' value with ⟨_, hwritten⟩ | ⟨_, hwritten⟩
  · rw [hwritten]
  · rw [hwritten]
    have hcaptured : (s.written at' value).captured at' ≠ none := by
      rw [captured_written]
      exact captured_of_write
    obtain ⟨index, hat⟩ := @at_of_captured w (s.written at' value) at' m' hcaptured
    dsimp only
    rw [hat]

end Agreement

theorem elements_writeAt (s : SnapshotStorage w) (at' : w.Address) (value : w.Data)
    (m : w.Address) : (s.elements m).writeAt at' value =
      match s.writeAt at' value with
      | .error refusal => .error refusal
      | .ok next => .ok (next.elements m) := by
  have hsame := s.elements_isAddressInSnapshot m at'
  rcases s.isAddressInSnapshot_cases at' with ⟨hfar, hrefused⟩ | ⟨_, p, hfound, _⟩
  · obtain ⟨front, rest, hpool, hgap⟩ := (tooFar_iff s at').mp hfar
    have hbelow : (at' < front.1) = True := eq_true (show at'.toNat < front.1.toNat by omega)
    have hwritten : s.writeAt at' value =
        .error "SnapshotStorage address gap exceeds memindextype range." := by
      rcases s.writeAt_cases at' value with ⟨_, h⟩ | ⟨hnear, _⟩
      · exact h
      · exact absurd hfar hnear
    rw [hwritten]
    unfold Elements.writeAt
    simp only [elements, hpool, hbelow, decide_true, if_true]
    rw [hrefused] at hsame
    simp only [elements, hpool] at hsame
    rw [hsame]
    rfl
  · rw [s.writeAt_of_found at' value hfound]
    rw [hfound] at hsame
    unfold Elements.writeAt
    rw [hsame]
    cases hpool : s.pool with
    | nil =>
      simp only [elements, written, hpool]
      rfl
    | cons front rest =>
      by_cases hbelow : at' < front.1
      · simp only [elements, written, hpool, hbelow, decide_true, if_true]
        rfl
      · simp only [elements, written, hpool, hbelow, decide_false, Bool.false_eq_true, if_false]
        rfl

theorem elements_writeFrom (s : SnapshotStorage w) (stream : List w.Data) (at' m : w.Address) :
    Elements.writeFrom stream at' (s.elements m) =
      ((writeFrom stream at' s).1.elements m, (writeFrom stream at' s).2) := by
  induction stream generalizing s at' with
  | nil => rfl
  | cons value rest ih =>
    rw [Elements.writeFrom, elements_writeAt, writeFrom]
    cases s.writeAt at' value with
    | error refusal => rfl
    | ok next => exact ih next (at' + 1)

theorem elements_write (s : SnapshotStorage w) (stream : List w.Data) (address m : w.Address) :
    ∃ m', (s.elements m).write stream address =
      ((s.write stream address).1.elements m', (s.write stream address).2) := by
  have hlt : address.toNat < w.space := address.isLt
  have htake : stream.take (min (w.space - address.toNat) stream.length) =
      stream.take (w.space - address.toNat) := by
    by_cases h : stream.length ≤ w.space - address.toNat
    · rw [Nat.min_eq_right h, List.take_length, List.take_of_length_le h]
    · rw [Nat.min_eq_left (Nat.le_of_not_le h)]
  unfold Elements.write
  by_cases hzero : min (w.space - address.toNat) stream.length = 0
  · have hnil : stream = [] := List.length_eq_zero_iff.mp (by omega)
    subst hnil
    rw [if_pos hzero]
    refine ⟨m, ?_⟩
    unfold write
    rw [List.take_nil]
    rfl
  · obtain ⟨m', haccess⟩ := s.access_elements m
      (later address (min (w.space - address.toNat) stream.length - 1))
    rw [if_neg hzero, haccess, htake]
    exact ⟨m', s.elements_writeFrom _ address m'⟩

end SnapshotStorage

inductive ElementAccess (w : WordSizes) where
  | write (stream : List w.Data) (address : w.Address)
  | read (count : ℕ) (address : w.Address)
  | assign (idx : w.Address) (value : w.Data)
  | assignAt (idx : w.Address) (value : w.Data)

def Elements.perform (e : Elements w) : ElementAccess w → Elements w
  | .write stream address => (e.write stream address).1
  | .read count address => e.read count address
  | .assign idx value => (e.assign idx value).1
  | .assignAt idx value => (e.assignAt idx value).1

def ElementAccess.asSpan : ElementAccess w → SnapshotAccess w
  | .write stream address => .write stream address
  | .read count address => .read count address
  | .assign idx value => .write [value] idx
  | .assignAt idx value => .write [value] idx

def ElementAccess.element : ElementAccess w → Option w.Address
  | .assign idx _ => some idx
  | .assignAt idx _ => some idx
  | _ => none

namespace SnapshotStorage

/-- Accesses of which each by element is to an address where it may be one. -/
def IndexedRun : SnapshotStorage w → List (ElementAccess w) → Prop
  | _, [] => True
  | s, access :: rest =>
    (∀ idx, access.element = some idx → s.Indexable idx) ∧ IndexedRun (s.perform access.asSpan) rest

theorem elements_perform (hspace : w.space ≤ 2 ^ 64) (s : SnapshotStorage w)
    (access : ElementAccess w) (m : w.Address)
    (hindexed : ∀ idx, access.element = some idx → s.Indexable idx) :
    ∃ m', (s.elements m).perform access = (s.perform access.asSpan).elements m' := by
  cases access with
  | write stream address =>
    obtain ⟨m', h⟩ := s.elements_write stream address m
    exact ⟨m', congrArg Prod.fst h⟩
  | read count address =>
    show ∃ m', (s.elements m).read count address = s.elements m'
    unfold Elements.read
    dsimp only
    split
    · exact ⟨m, rfl⟩
    · exact s.access_elements m _
  | assign idx value =>
    obtain ⟨m', h⟩ := @assign_of_agrees w s idx value m
      (fun m => (agrees_iff hspace).mpr (hindexed idx rfl))
    exact ⟨m', congrArg Prod.fst h⟩
  | assignAt idx value =>
    have h : s.Agrees idx value m := (agrees_iff hspace).mpr (hindexed idx rfl)
    exact ⟨m, congrArg Prod.fst h⟩

theorem elements_run (hspace : w.space ≤ 2 ^ 64) (s : SnapshotStorage w)
    (accesses : List (ElementAccess w)) (m : w.Address) (hindexed : s.IndexedRun accesses) :
    ∃ m', accesses.foldl Elements.perform (s.elements m) =
      ((accesses.map ElementAccess.asSpan).foldl perform s).elements m' := by
  induction accesses generalizing s m with
  | nil => exact ⟨m, rfl⟩
  | cons access rest ih =>
    obtain ⟨hfirst, hrest⟩ := hindexed
    obtain ⟨m', hstep⟩ := s.elements_perform hspace access m hfirst
    rw [List.foldl_cons, List.map_cons, List.foldl_cons, hstep]
    exact ih _ m' hrest

theorem mem_visited (e : Elements w) (at' : w.Address) :
    at' ∈ e.visited ↔ at' ≤ e.maxAccessed ∧ e.maxAccessed.toNat + 1 < w.space := by
  have hmax : e.maxAccessed.toNat < w.space := e.maxAccessed.isLt
  have hat : at'.toNat < w.space := at'.isLt
  have hmem : at' ∈ e.visited ↔ at'.toNat < (e.maxAccessed + 1).toNat := by
    unfold Elements.visited
    rw [List.mem_map]
    constructor
    · rintro ⟨i, hi, rfl⟩
      rw [List.mem_range] at hi
      exact Nat.lt_of_le_of_lt (Nat.mod_le _ _) hi
    · intro h
      refine ⟨at'.toNat, List.mem_range.mpr h, BitVec.eq_of_toNat_eq ?_⟩
      rw [BitVec.toNat_ofNat]
      exact Nat.mod_eq_of_lt hat
  rw [hmem, BitVec.le_def]
  by_cases hlast : e.maxAccessed.toNat + 1 < w.space
  · rw [toNat_succ hlast]
    omega
  · have hwrap : (e.maxAccessed + 1).toNat = 0 := by
      have hone : e.maxAccessed.toNat + 1 = w.space := by omega
      show (e.maxAccessed.toNat + 1 % w.space) % w.space = 0
      rw [Nat.add_mod_mod, hone]
      exact Nat.mod_self _
    rw [hwrap]
    omega

/-- In a run whose element accesses are all to addresses where they may be, each of them does what
a write of one element does, and an iteration visits everything captured unless an address behind
the last one accessed is, or the last of all addresses was accessed. -/
theorem element_runs_agree (hsize : w.address ≤ 8) (store : MemoryStorage w)
    (accesses : List (ElementAccess w)) (hindexed : (new store).IndexedRun accesses) :
    let s := (accesses.map ElementAccess.asSpan).foldl perform (new store)
    ∃ m, accesses.foldl Elements.perform ((new store).elements 0) = s.elements m ∧ s.Packed ∧
      s.captured = ((accesses.map ElementAccess.asSpan).foldl Overlay.perform fun _ => none) ∧
      (∀ at' value, s.Agrees at' value m ↔ s.Indexable at') ∧
      ((∀ at', s.captured at' ≠ none → at' ∈ (s.elements m).visited) ↔
        ∀ at', s.captured at' ≠ none → at' ≤ m ∧ m.toNat + 1 < w.space) := by
  intro s
  have hspace : w.space ≤ 2 ^ 64 := Nat.pow_le_pow_right (by decide) (by omega)
  obtain ⟨m, hrun⟩ := elements_run hspace (new store) accesses 0 hindexed
  refine ⟨m, hrun, s.packed, (perform_run store _).2, fun _ _ => agrees_iff hspace, ?_⟩
  constructor
  · intro h at' hat
    exact (mem_visited _ _).mp (h at' hat)
  · intro h at' hat
    exact (mem_visited _ _).mpr (h at' hat)

/-- Sixteen-bit addresses of bytes. -/
def shortSizes : WordSizes := ⟨2, 1, 2, Nat.one_pos⟩

/-- The first byte captured by a write, the others by element. -/
def shortAccesses : List (ElementAccess shortSizes) :=
  [.write [7] 5, .assign 6 8, .assignAt 5 9, .assign 9 1]

theorem shortAccesses_indexed :
    (new (⟨[], []⟩ : MemoryStorage shortSizes)).IndexedRun shortAccesses := by
  have hspace : shortSizes.space ≤ 2 ^ 64 := by decide
  refine ⟨nofun, ?_, ?_, ?_, trivial⟩
  · intro idx h
    cases h
    exact (@agrees_iff shortSizes _ 6 8 0 hspace).mp rfl
  · intro idx h
    cases h
    exact (@agrees_iff shortSizes _ 5 9 0 hspace).mp rfl
  · intro idx h
    cases h
    exact (@agrees_iff shortSizes _ 9 1 0 hspace).mp rfl

theorem element_runs_agree_short :
    let s := (shortAccesses.map ElementAccess.asSpan).foldl perform
      (new (⟨[], []⟩ : MemoryStorage shortSizes))
    ∃ m, shortAccesses.foldl Elements.perform
        ((new (⟨[], []⟩ : MemoryStorage shortSizes)).elements 0) = s.elements m ∧ s.Packed := by
  intro s
  obtain ⟨m, hrun, hpacked, _⟩ :=
    element_runs_agree (by decide) (⟨[], []⟩ : MemoryStorage shortSizes) shortAccesses
      shortAccesses_indexed
  exact ⟨m, hrun, hpacked⟩

/-- The empty snapshot has no elements to assign; right below the first run the element of that
run is pushed up instead; behind the last address there is nothing to visit. -/
theorem elements_disagree :
    let empty : SnapshotStorage shortSizes := new ⟨[], []⟩
    let s := (empty.write [7] 5).1
    let last := (empty.write [7] 0xFFFF).1
    ((empty.elements 0).assign 5 1).2 = some "vector::_M_range_check" ∧
      (empty.write [1] 5).2 = none ∧
      (s.elements 5).assignAt 4 9 = (⟨[(5, 0)], [9, 7], 5⟩, none) ∧
      (s.write [9] 4).1.elements 5 = ⟨[(4, 0)], [9, 7], 5⟩ ∧
      ((empty.elements 0).write [7] 0xFFFF).1 = last.elements 0xFFFF ∧
      last.captured 0xFFFF = some 7 ∧ (last.elements 0xFFFF).visited = [] := by
  refine ⟨rfl, rfl, rfl, rfl, rfl, rfl, rfl⟩

end SnapshotStorage

end ProtoTime.Memory
