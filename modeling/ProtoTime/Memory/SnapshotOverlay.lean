import ProtoTime.Memory.SnapshotStorage

/-!
A snapshot as an overlay of its memory map. The captured data are a partial map of addresses;
a write changes it where the stream lies and a read takes everything else from the memory map.
-/
namespace ProtoTime.Memory

variable {w : WordSizes}

/-- Captured data, one element for each captured address. -/
abbrev Overlay (w : WordSizes) := w.Address → Option w.Data

variable (captured : Overlay w)

/-- The elements of a stream that lie at an address behind `address`, up to the last address. -/
def Overlay.write (stream : List w.Data) (address : w.Address) : Overlay w :=
  fun at' =>
    if address ≤ at' ∧ at'.toNat - address.toNat < stream.length then
      stream[at'.toNat - address.toNat]?
    else captured at'

/-- Nothing at or around the address is captured, and what is captured lies too far behind. -/
def Overlay.TooFar (address : w.Address) : Prop :=
  (∃ at', captured at' ≠ none) ∧
    ∀ at', captured at' ≠ none → address.toNat + 2 ^ 63 < at'.toNat

theorem Overlay.write_nil (address : w.Address) : captured.write [] address = captured := by
  funext at'
  exact if_neg fun h => absurd h.2 (Nat.not_lt_zero _)

theorem Overlay.write_cons (value : w.Data) (rest : List w.Data)
    (address : w.Address) (h : address.toNat + 1 < w.space) :
    captured.write (value :: rest) address =
      Overlay.write (captured.write [value] address) rest (address + 1) := by
  have hsucc := SnapshotStorage.toNat_succ h
  funext at'
  simp only [Overlay.write, BitVec.le_def, List.length_cons, List.length_nil, hsucc]
  rcases Nat.lt_trichotomy at'.toNat address.toNat with hlt | heq | hgt
  · rw [if_neg (by omega), if_neg (by omega), if_neg (by omega)]
  · rw [if_pos (by omega), if_neg (by omega), if_pos (by omega), heq, Nat.sub_self]
    rfl
  · have hindex : at'.toNat - address.toNat = at'.toNat - (address.toNat + 1) + 1 := by omega
    by_cases hin : at'.toNat - address.toNat < rest.length + 1
    · rw [if_pos (by omega), if_pos (by omega), hindex]
      rfl
    · rw [if_neg (by omega), if_neg (by omega), if_neg (by omega)]

namespace SnapshotStorage

/-- The element a run holds at an address. -/
def fetch (mem : List w.Data) (pool : List (w.Address × ℕ)) (at' : w.Address) : Option w.Data :=
  (lookup mem.length at' pool).bind fun run => mem[run.offset + (at'.toNat - run.start.toNat)]?

variable (s : SnapshotStorage w)

theorem captured_eq_fetch (at' : w.Address) : s.captured at' = fetch s.mem s.pool at' :=
  captured_eq_lookup s at'

theorem nextOffset_cons (size : ℕ) (entry : w.Address × ℕ) (rest : List (w.Address × ℕ)) :
    nextOffset size (entry :: rest) = entry.2 := rfl

variable {bound : ℕ} {size : ℕ}

theorem nextOffset_le_offset {entries : List (w.Address × ℕ)}
    (hlaid : Laid bound size entries) {run : Run w} (hrun : run ∈ Memory.runs size entries) :
    nextOffset size entries ≤ run.offset := by
  induction entries with
  | nil => cases hrun
  | cons entry rest ih =>
    rcases List.mem_cons.mp hrun with rfl | hmem
    · exact Nat.le_refl _
    · have h := ih hlaid.2.2 hmem
      have hlt := hlaid.1
      show entry.2 ≤ _
      omega

theorem runs_append (size : ℕ) (front next : List (w.Address × ℕ)) :
    Memory.runs size (front ++ next) =
      Memory.runs (nextOffset size next) front ++ Memory.runs size next := by
  induction front with
  | nil => rfl
  | cons entry front ih =>
    rw [List.cons_append, Memory.runs, ih, nextOffset_append]
    rfl

theorem runs_shift (size : ℕ) (entries : List (w.Address × ℕ)) :
    Memory.runs (size + 1) (shift entries) =
      (Memory.runs size entries).map fun run => ⟨run.start, run.offset + 1, run.length⟩ := by
  induction entries with
  | nil => rfl
  | cons entry rest ih =>
    show ⟨entry.1, entry.2 + 1, nextOffset (size + 1) (shift rest) - (entry.2 + 1)⟩ ::
      Memory.runs (size + 1) (shift rest) = _
    rw [ih, nextOffset_shift, Nat.add_sub_add_right]
    rfl

theorem lookup_append (size : ℕ) (at' : w.Address) (front next : List (w.Address × ℕ)) :
    lookup size at' (front ++ next) =
      (lookup (nextOffset size next) at' front).or (lookup size at' next) := by
  unfold lookup
  rw [runs_append, List.find?_append]

theorem lookup_shift (size : ℕ) (at' : w.Address) (entries : List (w.Address × ℕ)) :
    lookup (size + 1) at' (shift entries) =
      (lookup size at' entries).map fun run => ⟨run.start, run.offset + 1, run.length⟩ := by
  unfold lookup
  rw [runs_shift, List.find?_map]
  rfl

theorem lookup_cons_or (size : ℕ) (at' : w.Address) (entry : w.Address × ℕ)
    (rest : List (w.Address × ℕ)) :
    lookup size at' (entry :: rest) =
      (if entry.1.toNat ≤ at'.toNat ∧ at'.toNat - entry.1.toNat < nextOffset size rest - entry.2
        then some ⟨entry.1, entry.2, nextOffset size rest - entry.2⟩ else none).or
        (lookup size at' rest) := by
  rw [lookup_cons]
  split <;> rfl

variable {at' : w.Address}

theorem lookup_of_bound {entries : List (w.Address × ℕ)}
    (hlaid : Laid bound size entries) (hat : bound ≤ at'.toNat + 1) :
    lookup size at' entries = none := by
  rw [← List.append_nil entries] at hlaid ⊢
  by_cases hle : bound ≤ at'.toNat
  · exact lookup_append_of_le hlaid hle
  · induction entries with
    | nil => rfl
    | cons entry rest ih =>
      rw [List.cons_append, List.append_nil] at hlaid ⊢
      obtain ⟨_, hgap, hrest⟩ := hlaid
      rw [lookup_cons]
      have hstart : nextStart bound rest ≤ bound := nextStart_le hrest
      rw [if_neg (by omega)]
      have := ih (by simpa using hrest)
      simpa using this

theorem getElem?_insert (mem : List w.Data) {index : ℕ} (value : w.Data)
    (hindex : index ≤ mem.length) (i : ℕ) :
    (mem.take index ++ value :: mem.drop index)[i]? =
      if i < index then mem[i]? else if i = index then some value else mem[i - 1]? := by
  rcases Nat.lt_trichotomy i index with hlt | heq | hgt
  · rw [if_pos hlt, List.getElem?_append_left (by rw [List.length_take]; omega),
      List.getElem?_take_of_lt hlt]
  · simp [heq, hindex]
  · rw [if_neg (by omega), if_neg (by omega),
      List.getElem?_append_right (by rw [List.length_take]; omega)]
    have hsub : i - (mem.take index).length = (i - 1 - index) + 1 := by
      rw [List.length_take]
      omega
    rw [hsub, List.getElem?_cons_succ, List.getElem?_drop]
    congr 1
    omega

theorem fetch_join (mem : List w.Data) (first second : w.Address × ℕ)
    (rest : List (w.Address × ℕ)) (at' : w.Address) (hoffset : first.2 ≤ second.2)
    (hrest : second.2 ≤ nextOffset mem.length rest)
    (hstart : second.1.toNat = first.1.toNat + (second.2 - first.2)) :
    fetch mem (first :: second :: rest) at' = fetch mem (first :: rest) at' := by
  unfold fetch
  rw [lookup_cons, lookup_cons, lookup_cons, nextOffset_cons]
  by_cases hfirst : first.1.toNat ≤ at'.toNat ∧ at'.toNat - first.1.toNat < second.2 - first.2
  · rw [if_pos hfirst, if_pos (by omega)]
    rfl
  · rw [if_neg hfirst]
    by_cases hsecond : second.1.toNat ≤ at'.toNat ∧
        at'.toNat - second.1.toNat < nextOffset mem.length rest - second.2
    · rw [if_pos hsecond, if_pos (by omega)]
      show mem[second.2 + (at'.toNat - second.1.toNat)]? =
        mem[first.2 + (at'.toNat - first.1.toNat)]?
      congr 1
      omega
    · rw [if_neg hsecond, if_neg (by omega)]

variable {mem : List w.Data}

theorem fetch_append_congr {left right : List (w.Address × ℕ)} (front : List (w.Address × ℕ))
    (hoffset : nextOffset mem.length left = nextOffset mem.length right)
    (h : fetch mem left at' = fetch mem right at') :
    fetch mem (front ++ left) at' = fetch mem (front ++ right) at' := by
  unfold fetch at *
  rw [lookup_append, lookup_append, hoffset]
  cases hfront : lookup (nextOffset mem.length right) at' front with
  | none => simpa only [Option.none_or] using h
  | some run => rfl

/-- The elements after one is inserted between two runs. -/
theorem fetch_insert {front next : List (w.Address × ℕ)} (value : w.Data) (query : w.Address)
    (hfront : Laid bound (nextOffset mem.length next) front) (hbound : bound ≤ at'.toNat + 1)
    (hnext : Laid (w.space + 1) mem.length next) (hat : at'.toNat < nextStart (w.space + 1) next) :
    fetch (mem.take (nextOffset mem.length next) ++ value ::
        mem.drop (nextOffset mem.length next))
        (front ++ (at', nextOffset mem.length next) :: shift next) query =
      if query = at' then some value else fetch mem (front ++ next) query := by
  have hle := nextOffset_le hnext
  unfold fetch
  rw [length_insert, lookup_append, lookup_append, lookup_cons_or, lookup_shift, nextOffset_shift,
    nextOffset_cons]
  dsimp only
  generalize hsize : nextOffset mem.length next = index at *
  have hone : index + 1 - index = 1 := by omega
  rw [hone]
  by_cases hquery : query = at'
  · subst hquery
    rw [if_pos rfl, lookup_of_bound hfront hbound, Option.none_or,
      if_pos ⟨Nat.le_refl _, by omega⟩, Option.some_or, Option.bind_some,
      getElem?_insert mem value hle, if_neg (by simp), if_pos (by simp)]
  · have hne : query.toNat ≠ at'.toNat := fun h => hquery (BitVec.eq_of_toNat_eq h)
    rw [if_neg hquery, if_neg (by omega), Option.none_or]
    cases hrun : lookup index query front with
    | some run =>
      obtain ⟨hmem, hholds⟩ := mem_runs_of_lookup hrun
      have hend := offset_add_length_le hfront hmem
      simp only [Run.holds, Bool.and_eq_true, decide_eq_true_eq] at hholds
      rw [Option.some_or, Option.some_or, Option.bind_some, Option.bind_some,
        getElem?_insert mem value hle, if_pos (by omega)]
    | none =>
      rw [Option.none_or, Option.none_or]
      cases hrun : lookup mem.length query next with
      | none => rfl
      | some run =>
        obtain ⟨hmem, _⟩ := mem_runs_of_lookup hrun
        have hbehind : index ≤ run.offset := hsize ▸ nextOffset_le_offset hnext hmem
        rw [Option.map_some, Option.bind_some, Option.bind_some,
          getElem?_insert mem value hle]
        dsimp only
        rw [if_neg (by omega), if_neg (by omega)]
        congr 1
        omega

/-- What follows a new run, joined to it or not, makes no difference to the elements. -/
theorem fetch_behind {next : List (w.Address × ℕ)}
    (query : w.Address) (hsize : mem.length = size + 1) (hnext : Laid (w.space + 1) size next) :
    fetch mem ((at', nextOffset size next) :: behind next (isAdjacentNext next at')) query =
      fetch mem ((at', nextOffset size next) :: shift next) query := by
  unfold behind
  by_cases h : isAdjacentNext next at' = true
  · rw [if_pos h]
    have hstart := isAdjacentNext_iff.mp h
    cases next with
    | nil => cases h
    | cons entry rest =>
      have hoffset := hnext.1
      have hbehind : entry.2 + 1 ≤ nextOffset mem.length (shift rest) := by
        rw [hsize, nextOffset_shift]
        omega
      symm
      apply fetch_join mem (at', entry.2) (entry.1, entry.2 + 1) (shift rest) query
      · exact Nat.le_succ _
      · exact hbehind
      · rw [Nat.add_sub_cancel_left]
        exact hstart.symm
  · rw [if_neg h]

theorem fetch_insertRun (front : List (w.Address × ℕ))
    {next : List (w.Address × ℕ)} (query : w.Address)
    (hsize : mem.length = size + 1) (hnext : Laid (w.space + 1) size next) :
    fetch mem (insertRun front next (at', nextOffset size next) (isAdjacentNext next at')) query =
      fetch mem (front ++ (at', nextOffset size next) :: shift next) query :=
  fetch_append_congr front rfl (fetch_behind query hsize hnext)

/-- An element is replaced in the run that holds it. -/
theorem fetch_set {init next : List (w.Address × ℕ)}
    {previous : w.Address × ℕ} (value : w.Data) (query : w.Address)
    (hlaid : Laid (w.space + 1) mem.length (init ++ previous :: next))
    (hprevious : previous.1.toNat ≤ at'.toNat)
    (hinside : at'.toNat - previous.1.toNat < nextOffset mem.length next - previous.2) :
    fetch (mem.set (previous.2 + (at'.toNat - previous.1.toNat)) value)
        (init ++ previous :: next) query =
      if query = at' then some value else fetch mem (init ++ previous :: next) query := by
  obtain ⟨hinit, hoffset, hgap, hnext⟩ := laid_append.mp hlaid
  have hnextLe := nextOffset_le hnext
  have hstart : nextStart (w.space + 1) (previous :: next) = previous.1.toNat := rfl
  unfold fetch
  rw [List.length_set, lookup_append, lookup_cons, nextOffset_cons]
  rw [hstart, nextOffset_cons] at hinit
  by_cases hquery : query = at'
  · subst hquery
    rw [if_pos rfl, lookup_of_bound hinit (by omega), Option.none_or,
      if_pos ⟨hprevious, hinside⟩, Option.bind_some]
    dsimp only
    rw [List.getElem?_set_self (by omega)]
  · have hne : query.toNat ≠ at'.toNat := fun h => hquery (BitVec.eq_of_toNat_eq h)
    rw [if_neg hquery]
    cases hrun : lookup previous.2 query init with
    | some run =>
      obtain ⟨hmem, hholds⟩ := mem_runs_of_lookup hrun
      have hend := offset_add_length_le hinit hmem
      simp only [Run.holds, Bool.and_eq_true, decide_eq_true_eq] at hholds
      rw [Option.some_or, Option.bind_some, Option.bind_some,
        List.getElem?_set_ne (by omega)]
    | none =>
      rw [Option.none_or]
      by_cases hin : previous.1.toNat ≤ query.toNat ∧
          query.toNat - previous.1.toNat < nextOffset mem.length next - previous.2
      · rw [if_pos hin, Option.bind_some, Option.bind_some]
        dsimp only
        rw [List.getElem?_set_ne (by omega)]
      · rw [if_neg hin]
        cases hrun : lookup mem.length query next with
        | none => rfl
        | some run =>
          obtain ⟨hmem, _⟩ := mem_runs_of_lookup hrun
          have hbehind := nextOffset_le_offset hnext hmem
          rw [Option.bind_some, Option.bind_some, List.getElem?_set_ne (by omega)]

/-- A write changes the element of its address and no other. -/
theorem fetch_writeElement {pool : List (w.Address × ℕ)} (at' : w.Address)
    (value : w.Data) (hlaid : Laid (w.space + 1) mem.length pool) (query : w.Address) :
    fetch (writeElement mem pool at' value).1 (writeElement mem pool at' value).2 query =
      if query = at' then some value else fetch mem pool query := by
  obtain ⟨front, next, htake, hdrop, hat, hle, rfl⟩ := split_at pool at'
  unfold writeElement
  dsimp only
  rw [htake, hdrop]
  obtain ⟨hfront, hnext⟩ := laid_append.mp hlaid
  have hlength := length_insert mem (nextOffset mem.length next) value
  rcases List.eq_nil_or_concat front with rfl | ⟨init, previous, rfl⟩
  · rw [List.getLast?_nil]
    dsimp only
    rw [fetch_insertRun [] query hlength hnext,
      fetch_insert value query (show Laid 0 _ [] from trivial) (Nat.zero_le _) hnext hat]
  · rw [List.concat_eq_append] at *
    rw [List.getLast?_concat]
    have hprevious : previous.1.toNat ≤ at'.toNat := hle previous (by simp)
    have hdistance : (at' - previous.1).toNat = at'.toNat - previous.1.toNat :=
      BitVec.toNat_sub_of_le hprevious
    obtain ⟨hinit, hoffset, hgap⟩ := laid_concat.mp hfront
    dsimp only
    rw [hdistance]
    by_cases hinside : at'.toNat - previous.1.toNat < nextOffset mem.length next - previous.2
    · rw [List.append_assoc] at hlaid ⊢
      rw [if_pos hinside]
      exact fetch_set value query hlaid hprevious hinside
    rw [if_neg hinside]
    by_cases hend : at'.toNat - previous.1.toNat = nextOffset mem.length next - previous.2
    · have hfront' : Laid (at'.toNat + 1) (nextOffset mem.length next) (init ++ [previous]) :=
        laid_concat.mpr ⟨hinit, hoffset, by omega⟩
      obtain ⟨hcount, _, _⟩ := behind_facts hnext hat
      rw [if_pos hend, ← fetch_insert value query hfront' (Nat.le_refl _) hnext hat,
        ← fetch_insertRun (init ++ [previous]) query hlength hnext]
      have hjoin := fetch_join _ previous (at', nextOffset mem.length next)
        (behind next (isAdjacentNext next at')) query (Nat.le_of_lt hoffset)
        (show nextOffset mem.length next ≤ nextOffset _ _ by
          rw [hlength]
          omega)
        (show at'.toNat = previous.1.toNat + (nextOffset mem.length next - previous.2) by omega)
      unfold insertRun
      rw [List.append_assoc, List.append_assoc]
      exact (fetch_append_congr init (by rfl) hjoin).symm
    · have hfront' : Laid at'.toNat (nextOffset mem.length next) (init ++ [previous]) :=
        laid_concat.mpr ⟨hinit, hoffset, by omega⟩
      rw [if_neg hend, fetch_insertRun (init ++ [previous]) query hlength hnext,
        fetch_insert value query hfront' (Nat.le_succ _) hnext hat]

theorem fetch_of_lookup {pool : List (w.Address × ℕ)}
    {run : Run w} (hlaid : Laid (w.space + 1) mem.length pool)
    (h : lookup mem.length at' pool = some run) :
    fetch mem pool at' = mem[run.offset + (at'.toNat - run.start.toNat)]? ∧
      run.offset + (at'.toNat - run.start.toNat) < mem.length := by
  obtain ⟨hmem, hholds⟩ := mem_runs_of_lookup h
  have hle := offset_add_length_le hlaid hmem
  simp only [Run.holds, Bool.and_eq_true, decide_eq_true_eq] at hholds
  constructor
  · unfold fetch
    rw [h]
    rfl
  · omega

theorem captured_eq_none_iff (at' : w.Address) :
    s.captured at' = none ↔ lookup s.mem.length at' s.pool = none := by
  rw [captured_eq_fetch]
  cases h : lookup s.mem.length at' s.pool with
  | none =>
    simp only [iff_true]
    unfold fetch
    rw [h]
    rfl
  | some run =>
    obtain ⟨hfetch, hlt⟩ := fetch_of_lookup s.laid h
    rw [hfetch, List.getElem?_eq_getElem hlt]
    simp only [reduceCtorEq]

theorem captured_start {entry : w.Address × ℕ} (hentry : entry ∈ s.pool) :
    s.captured entry.1 ≠ none := by
  intro h
  rw [captured_eq_none_iff] at h
  obtain ⟨front, next, hpool⟩ := List.append_of_mem hentry
  have hlaid := s.laid
  rw [hpool] at h hlaid
  have hoffset := (laid_append.mp hlaid).2.1
  rw [lookup_append_of_le hlaid (Nat.le_refl _), lookup_cons,
    if_pos ⟨Nat.le_refl _, by omega⟩] at h
  cases h

/-- Whether all captured elements lie too far behind an address, by the first run alone. -/
theorem tooFar_iff (address : w.Address) :
    Overlay.TooFar s.captured address ↔
      ∃ front rest, s.pool = front :: rest ∧ address.toNat + 2 ^ 63 < front.1.toNat := by
  constructor
  · rintro ⟨⟨at', hat⟩, hfar⟩
    cases hpool : s.pool with
    | nil =>
      rw [Ne, captured_eq_none_iff, hpool] at hat
      exact absurd rfl hat
    | cons front rest =>
      have hstart := s.captured_start (hpool ▸ List.mem_cons_self : front ∈ s.pool)
      exact ⟨front, rest, rfl, hfar front.1 hstart⟩
  · rintro ⟨front, rest, hpool, hfar⟩
    refine ⟨⟨front.1, s.captured_start (hpool ▸ List.mem_cons_self)⟩, ?_⟩
    intro at' hat
    rw [Ne, captured_eq_none_iff] at hat
    apply Nat.lt_of_lt_of_le hfar
    apply Nat.le_of_not_lt
    intro hlt
    apply hat
    apply lookup_of_lt s.laid
    rw [hpool]
    exact hlt

/-- What the search for an address finds: too large a gap, no run, or a run with the place of the
address in the packed data. -/
theorem isAddressInSnapshot_cases (at' : w.Address) :
    (Overlay.TooFar s.captured at' ∧ s.isAddressInSnapshot at' =
      .error "SnapshotStorage address gap exceeds memindextype range.") ∨
    ¬ Overlay.TooFar s.captured at' ∧ ∃ p, s.isAddressInSnapshot at' = .ok p ∧
      ((p.isAddressInSnapshot = false ∧ lookup s.mem.length at' s.pool = none) ∨
        ∃ run, p.isAddressInSnapshot = true ∧ lookup s.mem.length at' s.pool = some run ∧
          (s.pool.getD p.pool (0, 0)).2 + p.relofs.toNat =
            run.offset + (at'.toNat - run.start.toNat) ∧
          p.rellength.toNat = run.length - (at'.toNat - run.start.toNat)) := by
  rw [tooFar_iff]
  obtain ⟨store, pool, mem, hoffset, hlaid⟩ := s
  unfold isAddressInSnapshot
  dsimp only
  cases pool with
  | nil =>
    right
    refine ⟨?_, _, rfl, Or.inl ⟨rfl, rfl⟩⟩
    rintro ⟨front, rest, hpool, _⟩
    cases hpool
  | cons first pool =>
    dsimp only
    have hfirst : (∃ front rest, first :: pool = front :: rest ∧
        at'.toNat + 2 ^ 63 < front.1.toNat) ↔ at'.toNat + 2 ^ 63 < first.1.toNat := by
      constructor
      · rintro ⟨front, rest, hpool, hfar⟩
        cases hpool
        exact hfar
      · intro hfar
        exact ⟨first, pool, rfl, hfar⟩
    rw [hfirst]
    by_cases hbelow : at' < first.1
    · rw [if_pos hbelow]
      by_cases hgap : 2 ^ 63 < first.1.toNat - at'.toNat
      · left
        rw [if_pos hgap]
        exact ⟨by omega, rfl⟩
      · right
        rw [if_neg hgap]
        exact ⟨by omega, _, rfl, Or.inl ⟨rfl, lookup_of_lt hlaid hbelow⟩⟩
    · right
      rw [if_neg hbelow]
      have hle : first.1 ≤ at' := BitVec.not_lt.mp hbelow
      have hleNat : first.1.toNat ≤ at'.toNat := hle
      refine ⟨by omega, _, rfl, ?_⟩
      obtain ⟨front, entry, follower, hpool, hindex, hentry, hfollower⟩ :=
        @closestRun_spec w at' pool first hle
      rw [← hindex, hpool]
      rw [hpool] at hlaid
      rw [lookup_append_of_le hlaid hentry, lookup_cons]
      have hget : (front ++ entry :: follower).getD front.length first = entry := by simp
      have hdrop : (front ++ entry :: follower).drop (front.length + 1) = follower := by simp
      have hsub : (at' - entry.1).toNat = at'.toNat - entry.1.toNat :=
        BitVec.toNat_sub_of_le hentry
      have hrest := (laid_append.mp hlaid).2.2.2
      rw [hget, hdrop, addressData, hsub, lookup_of_lt hrest hfollower]
      by_cases hinside : at'.toNat - entry.1.toNat < nextOffset mem.length follower - entry.2
      · right
        refine ⟨⟨entry.1, entry.2, nextOffset mem.length follower - entry.2⟩, ?_⟩
        rw [if_pos hinside, if_pos ⟨hentry, hinside⟩]
        refine ⟨rfl, rfl, ?_, ?_⟩
        · simp
        · dsimp only
          omega
      · left
        rw [if_neg hinside, if_neg fun h => hinside h.2]
        exact ⟨rfl, rfl⟩

def written (at' : w.Address) (value : w.Data) : SnapshotStorage w where
  store := s.store
  pool := (writeElement s.mem s.pool at' value).2
  mem := (writeElement s.mem s.pool at' value).1
  first_offset := (laid_writeElement at' value s.first_offset s.laid).1
  laid := (laid_writeElement at' value s.first_offset s.laid).2

theorem captured_written (at' : w.Address) (value : w.Data) :
    (s.written at' value).captured = Overlay.write s.captured [value] at' := by
  funext query
  rw [captured_eq_fetch]
  show fetch (writeElement s.mem s.pool at' value).1 (writeElement s.mem s.pool at' value).2 query =
    _
  rw [fetch_writeElement at' value s.laid]
  simp only [Overlay.write, BitVec.le_def, List.length_cons, List.length_nil]
  by_cases hquery : query = at'
  · subst hquery
    rw [if_pos rfl, if_pos (by omega), Nat.sub_self]
    rfl
  · have hne : query.toNat ≠ at'.toNat := fun h => hquery (BitVec.eq_of_toNat_eq h)
    rw [if_neg hquery, if_neg (by omega)]
    exact (captured_eq_fetch s query).symm

theorem writeAt_of_found (at' : w.Address) (value : w.Data) {p : SnapshotAddressData}
    (hfound : s.isAddressInSnapshot at' = .ok p) :
    s.writeAt at' value = .ok (s.written at' value) := by
  obtain ⟨store, pool, mem, hoffset, hlaid⟩ := s
  unfold writeAt
  cases pool with
  | nil => rfl
  | cons front rest =>
    by_cases hbelow : at' < front.1
    · simp only [hbelow, decide_true, if_true, hfound]
      rfl
    · simp only [hbelow, decide_false, Bool.false_eq_true, if_false]
      rfl

theorem writeAt_cases (at' : w.Address) (value : w.Data) :
    (Overlay.TooFar s.captured at' ∧ s.writeAt at' value =
      .error "SnapshotStorage address gap exceeds memindextype range.") ∨
    ¬ Overlay.TooFar s.captured at' ∧ s.writeAt at' value = .ok (s.written at' value) := by
  rcases s.isAddressInSnapshot_cases at' with ⟨hfar, hrefused⟩ | ⟨hnear, p, hfound, _⟩
  · left
    refine ⟨hfar, ?_⟩
    obtain ⟨front, rest, hpool, hgap⟩ := (tooFar_iff s at').mp hfar
    have hbelow : (at' < front.1) = True := eq_true (show at'.toNat < front.1.toNat by omega)
    unfold writeAt
    simp only [hpool, hbelow, decide_true, if_true, hrefused]
    rfl
  · right
    exact ⟨hnear, writeAt_of_found s at' value hfound⟩

end SnapshotStorage

end ProtoTime.Memory
