import ProtoTime.Memory.MemoryStorage
import Mathlib.Data.List.TakeWhile
import Mathlib.Tactic.SplitIfs

/-!
Sparse overlays of a memory map: captured data in runs of consecutive addresses, packed one
after the other, with the start address and the packed offset of each run.
-/
namespace ProtoTime.Memory

variable {w : WordSizes}

/-- The offset behind a run, at the head of what follows it. -/
def nextOffset (size : ℕ) : List (w.Address × ℕ) → ℕ
  | [] => size
  | entry :: _ => entry.2

/-- The address a run may not reach, at the head of what follows it. -/
def nextStart (bound : ℕ) : List (w.Address × ℕ) → ℕ
  | [] => bound
  | entry :: _ => entry.1.toNat

/-- Runs in address order, none empty and with a gap between any two, below a bound. -/
def Laid (bound size : ℕ) : List (w.Address × ℕ) → Prop
  | [] => True
  | (start, offset) :: rest =>
    offset < nextOffset size rest ∧
      start.toNat + (nextOffset size rest - offset) < nextStart bound rest ∧ Laid bound size rest

structure Run (w : WordSizes) where
  start : w.Address
  offset : ℕ
  length : ℕ

/-- Whether an address lies in the run. -/
def Run.holds (run : Run w) (at' : w.Address) : Bool :=
  run.start.toNat ≤ at'.toNat && at'.toNat - run.start.toNat < run.length

def runs (size : ℕ) : List (w.Address × ℕ) → List (Run w)
  | [] => []
  | (start, offset) :: rest => ⟨start, offset, nextOffset size rest - offset⟩ :: runs size rest

theorem nextOffset_append (size : ℕ) (front next : List (w.Address × ℕ)) :
    nextOffset size (front ++ next) = nextOffset (nextOffset size next) front := by
  cases front <;> rfl

theorem nextStart_append (bound : ℕ) (front next : List (w.Address × ℕ)) :
    nextStart bound (front ++ next) = nextStart (nextStart bound next) front := by
  cases front <;> rfl

theorem laid_append {bound size : ℕ} {front next : List (w.Address × ℕ)} :
    Laid bound size (front ++ next) ↔
      Laid (nextStart bound next) (nextOffset size next) front ∧ Laid bound size next := by
  induction front with
  | nil => exact (iff_of_eq (true_and _)).symm
  | cons entry front ih =>
    simp only [List.cons_append, Laid, nextOffset_append, nextStart_append, ih]
    tauto

/-- What follows an insertion moves up by one. -/
def shift (entries : List (w.Address × ℕ)) : List (w.Address × ℕ) :=
  entries.map fun entry => (entry.1, entry.2 + 1)

theorem nextOffset_shift (size : ℕ) (entries : List (w.Address × ℕ)) :
    nextOffset (size + 1) (shift entries) = nextOffset size entries + 1 := by
  cases entries <;> rfl

theorem nextStart_shift (bound : ℕ) (entries : List (w.Address × ℕ)) :
    nextStart bound (shift entries) = nextStart bound entries := by
  cases entries <;> rfl

variable {entries : List (w.Address × ℕ)}

theorem laid_shift {bound size : ℕ}
    (h : Laid bound size entries) : Laid bound (size + 1) (shift entries) := by
  induction entries with
  | nil => trivial
  | cons entry rest ih =>
    obtain ⟨hoffset, hgap, hrest⟩ := h
    refine ⟨?_, ?_, ih hrest⟩
    · show _ < nextOffset (size + 1) (shift rest)
      rw [nextOffset_shift]
      omega
    · show _ + (nextOffset (size + 1) (shift rest) - _) < nextStart bound (shift rest)
      rw [nextOffset_shift, nextStart_shift]
      omega

structure SnapshotStorage (w : WordSizes) where
  store : MemoryStorage w
  pool : List (w.Address × ℕ) := []
  mem : List w.Data := []
  first_offset : nextOffset mem.length pool = 0
  laid : Laid (w.space + 1) mem.length pool

/-- Where an address lies: whether it is captured, the run before it and the offset from there,
and the distance to the end of its run. -/
structure SnapshotAddressData where
  isAddressInSnapshot : Bool
  pool : ℕ
  relofs : ℤ
  rellength : ℤ
  deriving DecidableEq

namespace SnapshotStorage

def new (store : MemoryStorage w) : SnapshotStorage w where
  store := store
  pool := []
  mem := []
  first_offset := rfl
  laid := trivial

def runs (s : SnapshotStorage w) : List (Run w) := Memory.runs s.mem.length s.pool

/-- The answer about an address at or behind the start of the run `index`. -/
def addressData (size : ℕ) (index : ℕ) (entry : w.Address × ℕ) (follower : List (w.Address × ℕ))
    (at' : w.Address) : SnapshotAddressData :=
  let entrySize := nextOffset size follower - entry.2
  let distance := (at' - entry.1).toNat
  if distance < entrySize then ⟨true, index, distance, entrySize - distance⟩
  else ⟨false, index, entrySize, (at'.toNat : ℤ) - (entry.1.toNat + entrySize - 1)⟩

/-- The index of the run to look in, for an address at or behind the first run. -/
def closestRun (pool : List (w.Address × ℕ)) (at' : w.Address) : ℕ :=
  match pool.getLast? with
  | none => 0
  | some back =>
    if back.1 ≤ at' then pool.length - 1
    else (pool.tail.dropLast.takeWhile fun entry => !(at' < entry.1)).length

variable (s : SnapshotStorage w)

def isAddressInSnapshot (at' : w.Address) : Except String SnapshotAddressData :=
  match s.pool with
  | [] => .ok ⟨false, 0, 0, 0⟩
  | front :: _ =>
    if at' < front.1 then
      let gap := front.1.toNat - at'.toNat
      if 2 ^ 63 < gap then .error "SnapshotStorage address gap exceeds memindextype range."
      else .ok ⟨false, 0, 0, -gap⟩
    else
      let index := closestRun s.pool at'
      .ok (addressData s.mem.length index (s.pool.getD index front) (s.pool.drop (index + 1)) at')

/-- The reads of a stream in pieces, at most `fuel` of them. -/
def readFrom (s : SnapshotStorage w) : ℕ → ℕ → w.Address → Except String (List w.Data)
  | 0, _, _ => .ok []
  | fuel + 1, count, index =>
    if count = 0 then .ok []
    else do
      let p ← s.isAddressInSnapshot index
      if p.isAddressInSnapshot then
        let entrycap := min p.rellength.toNat count
        let piece := (s.mem.drop ((s.pool.getD p.pool (0, 0)).2 + p.relofs.toNat)).take entrycap
        let others ← s.readFrom fuel (count - entrycap) (index + BitVec.ofNat _ entrycap)
        return piece ++ others
      else
        let next := s.pool.find? fun entry => index < entry.1
        let readcount := match next with
          | some entry => min count (entry.1 - index).toNat
          | none => count
        let piece ← s.store.read readcount index
        let others ← s.readFrom fuel (count - readcount) (index + BitVec.ofNat _ readcount)
        return piece ++ others

/-- A read of a stream, cut where the address space ends. -/
def read (s : SnapshotStorage w) (count : ℕ) (address : w.Address) :
    Except String (List w.Data) :=
  let count := min (w.space - address.toNat) count
  if count = 0 then .ok []
  else if s.pool.isEmpty then s.store.read count address
  else s.readFrom count count address

/-- What follows a new last element of a run, the next run joined where it adjoins. -/
def behind (next : List (w.Address × ℕ)) (adjacentNext : Bool) : List (w.Address × ℕ) :=
  if adjacentNext then (shift next).tail else shift next

/-- The runs with a new one of one element, unless it adjoins the next. -/
def insertRun (front next : List (w.Address × ℕ)) (entry : w.Address × ℕ) (adjacentNext : Bool) :
    List (w.Address × ℕ) :=
  front ++ entry :: behind next adjacentNext

/-- Whether the next run starts right behind the address. -/
def isAdjacentNext (next : List (w.Address × ℕ)) (at' : w.Address) : Bool :=
  match next with
  | [] => false
  | entry :: _ => at'.toNat ≠ w.space - 1 && at' + 1 == entry.1

/-- The packed data and the runs after one element is written. -/
def writeElement (mem : List w.Data) (pool : List (w.Address × ℕ)) (at' : w.Address)
    (value : w.Data) : List w.Data × List (w.Address × ℕ) :=
  let front := pool.takeWhile fun entry => entry.1 ≤ at'
  let next := pool.dropWhile fun entry => entry.1 ≤ at'
  let index := nextOffset mem.length next
  let inserted := mem.take index ++ value :: mem.drop index
  let adjacentNext := isAdjacentNext next at'
  match front.getLast? with
  | none => (inserted, insertRun front next (at', index) adjacentNext)
  | some previous =>
    let distance := (at' - previous.1).toNat
    if distance < index - previous.2 then (mem.set (previous.2 + distance) value, pool)
    else if distance = index - previous.2 then
      (inserted, front ++ behind next adjacentNext)
    else (inserted, insertRun front next (at', index) adjacentNext)

variable {at' : w.Address}

theorem toNat_succ (h : at'.toNat + 1 < w.space) :
    (at' + 1).toNat = at'.toNat + 1 := by
  have hone : (1 : w.Address).toNat = 1 := Nat.mod_eq_of_lt (show 1 < w.space by omega)
  rw [BitVec.toNat_add, hone]
  exact Nat.mod_eq_of_lt h

variable {next : List (w.Address × ℕ)}

theorem isAdjacentNext_iff :
    isAdjacentNext next at' = true ↔ at'.toNat + 1 = nextStart (w.space + 1) next := by
  have hlt : at'.toNat < w.space := at'.isLt
  cases next with
  | nil =>
    simp only [isAdjacentNext, nextStart, Bool.false_eq_true, false_iff]
    omega
  | cons entry rest =>
    have hentry : entry.1.toNat < w.space := entry.1.isLt
    simp only [isAdjacentNext, nextStart, Bool.and_eq_true, decide_eq_true_eq, beq_iff_eq]
    constructor
    · intro h
      rw [← h.2, toNat_succ (by omega)]
    · intro h
      refine ⟨by omega, BitVec.eq_of_toNat_eq ?_⟩
      rw [toNat_succ (by omega), h]

variable {size : ℕ}

theorem behind_facts
    (hnext : Laid (w.space + 1) size next) (hat : at'.toNat < nextStart (w.space + 1) next) :
    let after := behind next (isAdjacentNext next at')
    nextOffset size next + 1 ≤ nextOffset (size + 1) after ∧
      at'.toNat + (nextOffset (size + 1) after - nextOffset size next) <
        nextStart (w.space + 1) after ∧
      Laid (w.space + 1) (size + 1) after := by
  intro after
  have hadjacent := @isAdjacentNext_iff w at' next
  by_cases h : isAdjacentNext next at' = true
  · have hafter : after = (shift next).tail := if_pos h
    have hstart := hadjacent.mp h
    cases next with
    | nil => cases h
    | cons entry rest =>
      obtain ⟨hoffset, hgap, hrest⟩ := hnext
      have htail : after = shift rest := hafter
      rw [htail, nextOffset_shift, nextStart_shift]
      simp only [nextStart] at hstart
      show entry.2 + 1 ≤ _ ∧ _ + (_ - entry.2) < _ ∧ _
      exact ⟨by omega, by omega, laid_shift hrest⟩
  · have hafter : after = shift next := if_neg h
    have hstart : at'.toNat + 1 ≠ nextStart (w.space + 1) next := fun heq => h (hadjacent.mpr heq)
    rw [hafter, nextOffset_shift, nextStart_shift]
    exact ⟨by omega, by omega, laid_shift hnext⟩

theorem lt_nextStart_dropWhile (pool : List (w.Address × ℕ)) (at' : w.Address) :
    at'.toNat < nextStart (w.space + 1) (pool.dropWhile fun entry => entry.1 ≤ at') := by
  induction pool with
  | nil => exact Nat.lt_succ_of_lt at'.isLt
  | cons entry rest ih =>
    rw [List.dropWhile_cons]
    split
    · exact ih
    · next h => exact Nat.lt_of_not_le fun hle => h (decide_eq_true hle)

/-- The runs up to an address and those behind it. -/
theorem split_at (pool : List (w.Address × ℕ)) (at' : w.Address) :
    ∃ front next, pool.takeWhile (fun entry => entry.1 ≤ at') = front ∧
      pool.dropWhile (fun entry => entry.1 ≤ at') = next ∧
      at'.toNat < nextStart (w.space + 1) next ∧ (∀ entry ∈ front, entry.1 ≤ at') ∧
      pool = front ++ next :=
  ⟨_, _, rfl, rfl, lt_nextStart_dropWhile pool at',
    fun entry hentry => by simpa using List.mem_takeWhile_imp hentry,
    List.takeWhile_append_dropWhile.symm⟩

variable {bound : ℕ}

theorem laid_concat {init : List (w.Address × ℕ)} {entry : w.Address × ℕ} :
    Laid bound size (init ++ [entry]) ↔
      Laid entry.1.toNat entry.2 init ∧ entry.2 < size ∧
        entry.1.toNat + (size - entry.2) < bound := by
  rw [laid_append]
  show _ ∧ _ ∧ _ ∧ True ↔ _
  rw [and_true]
  rfl

variable {front : List (w.Address × ℕ)}

theorem laid_insertRun
    (hfront : Laid at'.toNat (nextOffset size next) front) (hnext : Laid (w.space + 1) size next)
    (hat : at'.toNat < nextStart (w.space + 1) next) :
    Laid (w.space + 1) (size + 1)
      (insertRun front next (at', nextOffset size next) (isAdjacentNext next at')) := by
  obtain ⟨hoffset, hgap, hafter⟩ := behind_facts hnext hat
  unfold insertRun
  rw [laid_append]
  exact ⟨hfront, hoffset, hgap, hafter⟩

theorem length_insert (mem : List w.Data) (index : ℕ) (value : w.Data) :
    (mem.take index ++ value :: mem.drop index).length = mem.length + 1 := by
  rw [List.length_append, List.length_cons, List.length_take, List.length_drop]
  omega

/-- A write keeps the runs packed and apart. -/
theorem laid_writeElement {mem : List w.Data} {pool : List (w.Address × ℕ)} (at' : w.Address)
    (value : w.Data) (hfirst : nextOffset mem.length pool = 0)
    (hlaid : Laid (w.space + 1) mem.length pool) :
    let result := writeElement mem pool at' value
    nextOffset result.1.length result.2 = 0 ∧
      Laid (w.space + 1) result.1.length result.2 := by
  obtain ⟨front, next, htake, hdrop, hat, hle, rfl⟩ := split_at pool at'
  unfold writeElement
  dsimp only
  rw [htake, hdrop]
  rw [nextOffset_append] at hfirst
  obtain ⟨hfront, hnext⟩ := laid_append.mp hlaid
  rcases List.eq_nil_or_concat front with rfl | ⟨init, previous, rfl⟩
  · rw [List.getLast?_nil]
    dsimp only
    rw [length_insert]
    exact ⟨hfirst, laid_insertRun trivial hnext hat⟩
  · rw [List.concat_eq_append] at *
    rw [List.getLast?_concat]
    have hprevious : previous.1.toNat ≤ at'.toNat := hle previous (by simp)
    have hdistance : (at' - previous.1).toNat = at'.toNat - previous.1.toNat :=
      BitVec.toNat_sub_of_le hprevious
    obtain ⟨hinit, hoffset, hgap⟩ := laid_concat.mp hfront
    dsimp only
    rw [hdistance]
    split_ifs with hinside hend
    · rw [List.length_set]
      exact ⟨(nextOffset_append _ _ _).trans hfirst, hlaid⟩
    · obtain ⟨hcount, hafter, hrest⟩ := behind_facts hnext hat
      rw [length_insert, List.append_assoc, nextOffset_append, laid_append]
      refine ⟨by rwa [nextOffset_append] at hfirst, hinit, ?_, ?_, hrest⟩
      · show previous.2 < nextOffset _ (behind next _)
        omega
      · show previous.1.toNat + (nextOffset _ (behind next _) - previous.2) <
          nextStart _ (behind next _)
        omega
    · have hfront' : Laid at'.toNat (nextOffset mem.length next) (init ++ [previous]) :=
        laid_concat.mpr ⟨hinit, hoffset, by omega⟩
      rw [length_insert]
      refine ⟨?_, laid_insertRun hfront' hnext hat⟩
      unfold insertRun
      rw [List.append_assoc, nextOffset_append]
      rwa [nextOffset_append] at hfirst

/-- A write of one element; far below the first run it is refused. -/
def writeAt (at' : w.Address) (value : w.Data) :
    Except String (SnapshotStorage w) := do
  let below := match s.pool with
    | [] => false
    | front :: _ => at' < front.1
  if below then
    let _ ← s.isAddressInSnapshot at'
  let result := writeElement s.mem s.pool at' value
  have h := laid_writeElement at' value s.first_offset s.laid
  return { store := s.store, pool := result.2, mem := result.1, first_offset := h.1, laid := h.2 }

/-- The writes of consecutive elements, up to one that is refused. -/
def writeFrom : List w.Data → w.Address → SnapshotStorage w → SnapshotStorage w × Option String
  | [], _, s => (s, none)
  | value :: rest, at', s =>
    match s.writeAt at' value with
    | .error refusal => (s, some refusal)
    | .ok s => writeFrom rest (at' + 1) s

def write (stream : List w.Data) (address : w.Address) : SnapshotStorage w × Option String :=
  writeFrom (stream.take (w.space - address.toNat)) address s

/-- The captured element of an address, as a read of the snapshot finds it. -/
def captured (at' : w.Address) : Option w.Data :=
  match s.isAddressInSnapshot at' with
  | .error _ => none
  | .ok p =>
    if p.isAddressInSnapshot then s.mem[(s.pool.getD p.pool (0, 0)).2 + p.relofs.toNat]? else none

def lookup (size : ℕ) (at' : w.Address) (entries : List (w.Address × ℕ)) : Option (Run w) :=
  (Memory.runs size entries).find? fun run => run.holds at'

theorem lookup_cons (size : ℕ) (at' : w.Address) (entry : w.Address × ℕ)
    (rest : List (w.Address × ℕ)) :
    lookup size at' (entry :: rest) =
      if entry.1.toNat ≤ at'.toNat ∧
          at'.toNat - entry.1.toNat < nextOffset size rest - entry.2 then
        some ⟨entry.1, entry.2, nextOffset size rest - entry.2⟩
      else lookup size at' rest := by
  show List.find? _ (⟨entry.1, entry.2, nextOffset size rest - entry.2⟩ ::
    Memory.runs size rest) = _
  by_cases h : entry.1.toNat ≤ at'.toNat ∧
      at'.toNat - entry.1.toNat < nextOffset size rest - entry.2
  · rw [if_pos h, List.find?_cons_of_pos]
    simp only [Run.holds, h.1, h.2, decide_true, Bool.and_self]
  · rw [if_neg h, List.find?_cons_of_neg]
    · rfl
    · simpa only [Run.holds, Bool.and_eq_true, decide_eq_true_eq] using h

theorem nextOffset_le (h : Laid bound size entries) : nextOffset size entries ≤ size := by
  induction entries with
  | nil => exact Nat.le_refl _
  | cons entry rest ih =>
    have hrest := ih h.2.2
    have hlt := h.1
    show entry.2 ≤ size
    omega

theorem nextStart_le (hlaid : Laid bound size entries) : nextStart bound entries ≤ bound := by
  induction entries with
  | nil => exact Nat.le_refl _
  | cons entry rest ih =>
    have hrest := ih hlaid.2.2
    have hgap := hlaid.2.1
    show entry.1.toNat ≤ bound
    omega

theorem nextStart_append_le (hlaid : Laid bound size (front ++ next)) :
    nextStart bound (front ++ next) ≤ nextStart bound next := by
  induction front with
  | nil => exact Nat.le_refl _
  | cons entry front ih =>
    rw [List.cons_append] at *
    obtain ⟨_, hgap, hrest⟩ := hlaid
    have h := ih hrest
    show entry.1.toNat ≤ _
    omega

theorem lookup_append_of_le
    (hlaid : Laid bound size (front ++ next)) (hat : nextStart bound next ≤ at'.toNat) :
    lookup size at' (front ++ next) = lookup size at' next := by
  induction front with
  | nil => rfl
  | cons entry front ih =>
    rw [List.cons_append] at *
    obtain ⟨_, hgap, hrest⟩ := hlaid
    have hstart := nextStart_append_le hrest
    rw [lookup_cons, if_neg (by omega)]
    exact ih hrest

theorem lookup_of_lt (hlaid : Laid bound size entries) (hat : at'.toNat < nextStart bound entries) :
    lookup size at' entries = none := by
  induction entries with
  | nil => rfl
  | cons entry rest ih =>
    obtain ⟨hoffset, hgap, hrest⟩ := hlaid
    have hlt : at'.toNat < entry.1.toNat := hat
    rw [lookup_cons, if_neg (by omega)]
    exact ih hrest (by omega)

/-- The run to look in starts at or before the address, and the next one behind it. -/
theorem closestRun_spec {pool : List (w.Address × ℕ)} {first : w.Address × ℕ}
    (hfirst : first.1 ≤ at') :
    ∃ front entry follower, first :: pool = front ++ entry :: follower ∧
      front.length = closestRun (first :: pool) at' ∧ entry.1 ≤ at' ∧
      at'.toNat < nextStart (w.space + 1) follower := by
  rcases List.eq_nil_or_concat pool with rfl | ⟨init, back, rfl⟩
  · refine ⟨[], first, [], rfl, ?_, hfirst, Nat.lt_succ_of_lt at'.isLt⟩
    unfold closestRun
    exact (if_pos hfirst).symm
  · rw [List.concat_eq_append]
    have hlast : (first :: (init ++ [back])).getLast? = some back :=
      List.getLast?_concat (l := first :: init)
    by_cases hback : back.1 ≤ at'
    · refine ⟨first :: init, back, [], rfl, ?_, hback, Nat.lt_succ_of_lt at'.isLt⟩
      unfold closestRun
      rw [hlast]
      dsimp only
      rw [if_pos hback]
      simp
    · have hindex : closestRun (first :: (init ++ [back])) at' =
          (init.takeWhile fun entry => !(at' < entry.1)).length := by
        unfold closestRun
        rw [hlast]
        dsimp only
        rw [if_neg hback, List.tail_cons, List.dropLast_concat]
      have hsplit : init.takeWhile (fun entry => !(at' < entry.1)) ++
          init.dropWhile (fun entry => !(at' < entry.1)) = init := List.takeWhile_append_dropWhile
      have hle : ∀ entry ∈ first :: init.takeWhile (fun entry => !(at' < entry.1)),
          entry.1 ≤ at' := by
        intro entry hentry
        rcases List.mem_cons.mp hentry with rfl | hmem
        · exact hfirst
        · have h := List.mem_takeWhile_imp hmem
          simpa using h
      have hfollower : at'.toNat < nextStart (w.space + 1)
          (init.dropWhile (fun entry => !(at' < entry.1)) ++ [back]) := by
        rw [nextStart_append]
        have hbehind : at'.toNat < nextStart (w.space + 1) [back] := Nat.lt_of_not_le hback
        clear hsplit hle hindex hlast
        induction init with
        | nil => exact hbehind
        | cons entry rest ih =>
          rw [List.dropWhile_cons]
          split
          · exact ih
          · next h =>
            have hlt : at' < entry.1 := by simpa using h
            exact hlt
      rw [hindex]
      generalize init.takeWhile (fun entry => !(at' < entry.1)) = later at *
      generalize init.dropWhile (fun entry => !(at' < entry.1)) = behind at *
      subst hsplit
      rcases List.eq_nil_or_concat (first :: later) with hnil | ⟨front, entry, hconcat⟩
      · cases hnil
      · refine ⟨front, entry, behind ++ [back], ?_, ?_, hle entry ?_, hfollower⟩
        · rw [List.append_assoc, ← List.cons_append, hconcat]
          simp
        · have hlength := congrArg List.length hconcat
          simp only [List.length_cons, List.length_concat] at hlength
          omega
        · rw [hconcat]
          simp

theorem captured_eq_lookup (at' : w.Address) :
    s.captured at' = (lookup s.mem.length at' s.pool).bind
      fun run => s.mem[run.offset + (at'.toNat - run.start.toNat)]? := by
  obtain ⟨store, pool, mem, hoffset, hlaid⟩ := s
  unfold captured isAddressInSnapshot
  dsimp only
  cases pool with
  | nil => rfl
  | cons first pool =>
    dsimp only
    by_cases hbelow : at' < first.1
    · rw [if_pos hbelow, lookup_of_lt hlaid hbelow]
      split_ifs <;> rfl
    · rw [if_neg hbelow]
      have hle : first.1 ≤ at' := BitVec.not_lt.mp hbelow
      obtain ⟨front, entry, follower, hpool, hindex, hentry, hfollower⟩ :=
        @closestRun_spec w at' pool first hle
      rw [← hindex, hpool]
      rw [hpool] at hlaid
      rw [lookup_append_of_le hlaid hentry, lookup_cons]
      have hget : (front ++ entry :: follower).getD front.length first = entry := by simp
      have hdrop : (front ++ entry :: follower).drop (front.length + 1) = follower := by simp
      have hsub : (at' - entry.1).toNat = at'.toNat - entry.1.toNat :=
        BitVec.toNat_sub_of_le hentry
      have hrest := (laid_append.mp hlaid).2.2.2
      rw [hget, hdrop, addressData, hsub, lookup_of_lt hrest hfollower]
      dsimp only
      by_cases hinside : at'.toNat - entry.1.toNat < nextOffset mem.length follower - entry.2
      · have hcond : entry.1.toNat ≤ at'.toNat ∧
            at'.toNat - entry.1.toNat < nextOffset mem.length follower - entry.2 :=
          ⟨hentry, hinside⟩
        simp only [hinside, hcond, and_self, if_true]
        simp
      · simp only [hinside, and_false, if_false]
        rfl

variable {run : Run w}

theorem offset_add_length_le
    (hlaid : Laid bound size entries) (hrun : run ∈ Memory.runs size entries) :
    run.offset + run.length ≤ size := by
  induction entries with
  | nil => cases hrun
  | cons entry rest ih =>
    rcases List.mem_cons.mp hrun with rfl | hmem
    · have hle := nextOffset_le hlaid.2.2
      have hlt := hlaid.1
      show entry.2 + (nextOffset size rest - entry.2) ≤ size
      omega
    · exact ih hlaid.2.2 hmem

theorem nextStart_le_start
    (hlaid : Laid bound size entries) (hrun : run ∈ Memory.runs size entries) :
    nextStart bound entries ≤ run.start.toNat := by
  induction entries with
  | nil => cases hrun
  | cons entry rest ih =>
    rcases List.mem_cons.mp hrun with rfl | hmem
    · exact Nat.le_refl _
    · have h := ih hlaid.2.2 hmem
      have hgap := hlaid.2.1
      show entry.1.toNat ≤ _
      omega

theorem lookup_of_holds (hlaid : Laid bound size entries) (hrun : run ∈ Memory.runs size entries)
    (hholds : run.holds at' = true) : lookup size at' entries = some run := by
  induction entries with
  | nil => cases hrun
  | cons entry rest ih =>
    obtain ⟨_, hgap, hrest⟩ := hlaid
    simp only [Run.holds, Bool.and_eq_true, decide_eq_true_eq] at hholds
    rw [lookup_cons]
    rcases List.mem_cons.mp hrun with rfl | hmem
    · exact if_pos hholds
    · have hstart := nextStart_le_start hrest hmem
      rw [if_neg (by omega)]
      exact ih hrest hmem

theorem mem_runs_of_lookup (h : lookup size at' entries = some run) :
    run ∈ Memory.runs size entries ∧ run.holds at' = true :=
  ⟨List.mem_of_find?_eq_some h, List.find?_some (p := fun run : Run w => run.holds at') h⟩

theorem captured_eq_some {s : SnapshotStorage w} {value : w.Data}
    (h : s.captured at' = some value) :
    ∃ run, lookup s.mem.length at' s.pool = some run ∧
      s.mem[run.offset + (at'.toNat - run.start.toNat)]? = some value := by
  rw [captured_eq_lookup] at h
  obtain ⟨run, hrun, hvalue⟩ := Option.bind_eq_some_iff.mp h
  exact ⟨run, hrun, hvalue⟩

theorem captured_of_lookup {s : SnapshotStorage w}
    (h : lookup s.mem.length at' s.pool = some run) : ∃ value, s.captured at' = some value := by
  obtain ⟨hmem, hholds⟩ := mem_runs_of_lookup h
  have hle := offset_add_length_le s.laid hmem
  simp only [Run.holds, Bool.and_eq_true, decide_eq_true_eq] at hholds
  have hlt : run.offset + (at'.toNat - run.start.toNat) < s.mem.length := by omega
  refine ⟨s.mem[run.offset + (at'.toNat - run.start.toNat)], ?_⟩
  rw [captured_eq_lookup, h]
  exact List.getElem?_eq_getElem hlt

end SnapshotStorage

end ProtoTime.Memory
