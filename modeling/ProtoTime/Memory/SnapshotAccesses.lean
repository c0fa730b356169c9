import ProtoTime.Memory.SnapshotOverlay
import Mathlib.Data.List.Induction

/-!
Writes and reads of a snapshot against the overlay. Every run of accesses keeps the runs packed
and apart; what it captured is what the writes left, and a read takes the stretches between
captured elements from the memory map.
-/
namespace ProtoTime.Memory

variable {w : WordSizes}

/-- The address `i` behind another. -/
def later (address : w.Address) (i : ℕ) : w.Address := address + BitVec.ofNat _ i

variable {address : w.Address}

theorem toNat_later {i : ℕ} (h : address.toNat + i < w.space) :
    (later address i).toNat = address.toNat + i := by
  have hi : (BitVec.ofNat (8 * w.address) i).toNat = i := by
    exact Nat.mod_eq_of_lt (show i < w.space by omega)
  unfold later
  rw [BitVec.toNat_add, hi]
  exact Nat.mod_eq_of_lt h

theorem later_later (address : w.Address) (i j : ℕ) :
    later (later address i) j = later address (i + j) := by
  unfold later
  rw [BitVec.add_assoc, ← BitVec.ofNat_add]

@[simp] theorem later_zero (address : w.Address) : later address 0 = address := by
  exact BitVec.add_zero address

namespace Overlay

/-- The longest stretches of a span without captured elements. -/
structure Stretch (captured : Overlay w) (address : w.Address) (count i n : ℕ) : Prop where
  pos : 0 < n
  inside : i + n ≤ count
  missing : ∀ j < n, captured (later address (i + j)) = none
  starts : i = 0 ∨ captured (later address (i - 1)) ≠ none
  ends : i + n = count ∨ captured (later address (i + n)) ≠ none

/-- The elements of a span: captured ones, and around them those of the memory map. -/
structure Shows (captured : Overlay w) (store : MemoryStorage w) (address : w.Address)
    (data : List w.Data) : Prop where
  kept : ∀ i < data.length, ∀ value, captured (later address i) = some value →
    data[i]? = some value
  backing : ∀ i n, captured.Stretch address data.length i n →
    store.read n (later address i) = .ok ((data.drop i).take n)

/-- A stretch of the span that the memory map does not read. -/
def Unreadable (captured : Overlay w) (store : MemoryStorage w) (address : w.Address)
    (count : ℕ) : Prop :=
  ∃ i n refusal, captured.Stretch address count i n ∧
    store.read n (later address i) = .error refusal

variable {captured : Overlay w} {address : w.Address} {count i n : ℕ} {passed : ℕ}

theorem stretch_behind (hpassed : passed ≤ count)
    (hlast : i = 0 → captured (later address (passed - 1)) ≠ none)
    (h : captured.Stretch (later address passed) (count - passed) i n) :
    captured.Stretch address count (passed + i) n := by
  have hinside := h.inside
  refine ⟨h.pos, by omega, ?_, ?_, ?_⟩
  · intro j hj
    rw [Nat.add_assoc, ← later_later]
    exact h.missing j hj
  · right
    by_cases hzero : i = 0
    · rw [hzero]
      exact hlast hzero
    · have hbefore := h.starts.resolve_left hzero
      rwa [later_later, ← Nat.add_sub_assoc (Nat.pos_of_ne_zero hzero)] at hbefore
  · rcases h.ends with hend | hafter
    · left
      omega
    · right
      rwa [later_later, ← Nat.add_assoc] at hafter

theorem stretch_of_le (hi : passed ≤ i) (h : captured.Stretch address count i n) :
    captured.Stretch (later address passed) (count - passed) (i - passed) n := by
  have hinside := h.inside
  refine ⟨h.pos, by omega, ?_, ?_, ?_⟩
  · intro j hj
    rw [later_later, show passed + (i - passed + j) = i + j by omega]
    exact h.missing j hj
  · by_cases hzero : i - passed = 0
    · exact Or.inl hzero
    · right
      rw [later_later, show passed + (i - passed - 1) = i - 1 by omega]
      exact h.starts.resolve_left (by omega)
  · rcases h.ends with hend | hafter
    · left
      omega
    · right
      rw [later_later, show passed + (i - passed + n) = i + n by omega]
      exact hafter

theorem le_of_captured (hfront : ∀ j < passed, captured (later address j) ≠ none)
    (h : captured.Stretch address count i n) : passed ≤ i := by
  apply Nat.le_of_not_lt
  intro hlt
  have hmissing := h.missing 0 h.pos
  exact hfront i hlt hmissing

variable {m : ℕ}

/-- A stretch at the front of a span is the only one there. -/
theorem stretch_front (hfront : captured.Stretch address count 0 m)
    (h : captured.Stretch address count i n) : (i = 0 ∧ n = m) ∨ m < i := by
  have hm := hfront.inside
  have hn := h.inside
  by_cases hi : i ≤ m
  · left
    have hzero : i = 0 := by
      rcases h.starts with hzero | hbefore
      · exact hzero
      · apply Nat.eq_zero_of_not_pos
        intro hpos
        apply hbefore
        have hmissing := hfront.missing (i - 1) (by omega)
        rwa [Nat.zero_add] at hmissing
    subst hzero
    refine ⟨rfl, Nat.le_antisymm ?_ ?_⟩
    · apply Nat.le_of_not_lt
      intro hlt
      rcases hfront.ends with hend | hafter
      · omega
      · exact hafter (h.missing m hlt ▸ by rw [Nat.zero_add])
    · apply Nat.le_of_not_lt
      intro hlt
      rcases h.ends with hend | hafter
      · omega
      · exact hafter (hfront.missing n hlt)
  · exact Or.inr (by omega)

variable {store : MemoryStorage w}

theorem shows_nil (captured : Overlay w) (store : MemoryStorage w) (address : w.Address) :
    captured.Shows store address [] := by
  constructor
  · intro i hi
    cases hi
  · intro i n h
    have hinside := h.inside
    have hpos := h.pos
    rw [List.length_nil] at hinside
    omega

variable {piece : List w.Data}

/-- Captured elements in front of a shown span. -/
theorem shows_of_kept {others : List w.Data}
    (hpiece : ∀ j < piece.length, captured (later address j) = piece[j]?)
    (h : captured.Shows store (later address piece.length) others) :
    captured.Shows store address (piece ++ others) := by
  have hfront : ∀ j < piece.length, captured (later address j) ≠ none := by
    intro j hj hnone
    rw [hpiece j hj, List.getElem?_eq_getElem hj] at hnone
    cases hnone
  constructor
  · intro i hi value hvalue
    by_cases hlt : i < piece.length
    · rw [List.getElem?_append_left hlt, ← hpiece i hlt, hvalue]
    · rw [List.length_append] at hi
      rw [List.getElem?_append_right (by omega)]
      apply h.kept _ (by omega)
      rw [later_later, show piece.length + (i - piece.length) = i by omega, hvalue]
  · intro i n hstretch
    have hle := le_of_captured hfront hstretch
    have hrest := stretch_of_le hle hstretch
    rw [List.length_append, Nat.add_sub_cancel_left] at hrest
    have hread := h.backing _ _ hrest
    rw [later_later, show piece.length + (i - piece.length) = i by omega] at hread
    rw [hread, List.drop_append, List.drop_of_length_le hle, List.nil_append]

/-- A stretch of the memory map in front of a shown span. -/
theorem shows_of_backing {others : List w.Data}
    (hfront : captured.Stretch address (piece.length + others.length) 0 piece.length)
    (hread : store.read piece.length address = .ok piece)
    (h : captured.Shows store (later address piece.length) others) :
    captured.Shows store address (piece ++ others) := by
  constructor
  · intro i hi value hvalue
    by_cases hlt : i < piece.length
    · have hmissing := hfront.missing i hlt
      rw [Nat.zero_add, hvalue] at hmissing
      cases hmissing
    · rw [List.length_append] at hi
      rw [List.getElem?_append_right (by omega)]
      apply h.kept _ (by omega)
      rw [later_later, show piece.length + (i - piece.length) = i by omega, hvalue]
  · intro i n hstretch
    rw [List.length_append] at hstretch
    rcases stretch_front hfront hstretch with ⟨rfl, rfl⟩ | hlt
    · rw [later_zero, List.drop_zero, List.take_left, hread]
    · have hle := Nat.le_of_lt hlt
      have hrest := stretch_of_le hle hstretch
      rw [Nat.add_sub_cancel_left] at hrest
      have hread' := h.backing _ _ hrest
      rw [later_later, show piece.length + (i - piece.length) = i by omega] at hread'
      rw [hread', List.drop_append, List.drop_of_length_le hle, List.nil_append]

theorem unreadable_of_kept (hpos : 0 < passed) (hle : passed ≤ count)
    (hfront : ∀ j < passed, captured (later address j) ≠ none) :
    captured.Unreadable store address count ↔
      captured.Unreadable store (later address passed) (count - passed) := by
  constructor
  · rintro ⟨i, n, refusal, hstretch, hread⟩
    have hi := le_of_captured hfront hstretch
    refine ⟨i - passed, n, refusal, stretch_of_le hi hstretch, ?_⟩
    rw [later_later, show passed + (i - passed) = i by omega]
    exact hread
  · rintro ⟨i, n, refusal, hstretch, hread⟩
    refine ⟨passed + i, n, refusal, stretch_behind hle ?_ hstretch, ?_⟩
    · intro _
      exact hfront (passed - 1) (by omega)
    · rwa [later_later] at hread

theorem unreadable_of_backing (hfront : captured.Stretch address count 0 m) :
    captured.Unreadable store address count ↔
      (∃ refusal, store.read m address = .error refusal) ∨
        captured.Unreadable store (later address m) (count - m) := by
  have hinside := hfront.inside
  constructor
  · rintro ⟨i, n, refusal, hstretch, hread⟩
    rcases stretch_front hfront hstretch with ⟨rfl, rfl⟩ | hlt
    · left
      rw [later_zero] at hread
      exact ⟨refusal, hread⟩
    · right
      refine ⟨i - m, n, refusal, stretch_of_le (Nat.le_of_lt hlt) hstretch, ?_⟩
      rw [later_later, show m + (i - m) = i by omega]
      exact hread
  · rintro (⟨refusal, hread⟩ | ⟨i, n, refusal, hstretch, hread⟩)
    · refine ⟨0, m, refusal, hfront, ?_⟩
      rw [later_zero]
      exact hread
    · refine ⟨m + i, n, refusal, stretch_behind (by omega) ?_ hstretch, ?_⟩
      · intro hzero
        subst hzero
        have hmissing := hstretch.missing 0 hstretch.pos
        have hpos := hstretch.pos
        have hle := hstretch.inside
        rcases hfront.ends with hend | hafter
        · omega
        · rw [later_later, Nat.add_zero] at hmissing
          rw [Nat.zero_add] at hafter
          exact absurd hmissing hafter
      · rwa [later_later] at hread

/-- A read of `count` elements shows the span, unless the memory map refuses a stretch of it. -/
structure Answers (captured : Overlay w) (store : MemoryStorage w) (address : w.Address)
    (count : ℕ) (result : Except String (List w.Data)) : Prop where
  shows : ∀ data, result = .ok data → data.length = count ∧ captured.Shows store address data
  refused : (∃ refusal, result = .error refusal) ↔ captured.Unreadable store address count

/-- One piece of a read and the others behind it. -/
def appended (first second : Except String (List w.Data)) : Except String (List w.Data) := do
  let piece ← first
  let others ← second
  return piece ++ others

theorem appended_eq_ok {first second : Except String (List w.Data)} {data : List w.Data}
    (h : appended first second = .ok data) :
    ∃ piece others, first = .ok piece ∧ second = .ok others ∧ data = piece ++ others := by
  cases first with
  | error refusal => cases h
  | ok piece =>
    cases second with
    | error refusal => cases h
    | ok others =>
      cases h
      exact ⟨piece, others, rfl, rfl, rfl⟩

theorem appended_eq_error (first second : Except String (List w.Data)) :
    (∃ refusal, appended first second = .error refusal) ↔
      (∃ refusal, first = .error refusal) ∨ ∃ refusal, second = .error refusal := by
  cases first with
  | error refusal =>
    constructor
    · intro _
      exact Or.inl ⟨refusal, rfl⟩
    · intro _
      exact ⟨refusal, rfl⟩
  | ok piece =>
    cases second with
    | error refusal =>
      constructor
      · intro _
        exact Or.inr ⟨refusal, rfl⟩
      · intro _
        exact ⟨refusal, rfl⟩
    | ok others =>
      constructor
      · rintro ⟨refusal, h⟩
        cases h
      · rintro (⟨refusal, h⟩ | ⟨refusal, h⟩)
        · cases h
        · cases h

theorem answers_nothing (captured : Overlay w) (store : MemoryStorage w) (address : w.Address) :
    captured.Answers store address 0 (.ok []) := by
  constructor
  · intro data h
    cases h
    exact ⟨rfl, shows_nil captured store address⟩
  · constructor
    · rintro ⟨refusal, h⟩
      cases h
    · rintro ⟨i, n, refusal, hstretch, _⟩
      have hpos := hstretch.pos
      have hinside := hstretch.inside
      omega

theorem answers_of_kept {rest : Except String (List w.Data)}
    (hpos : 0 < piece.length) (hle : piece.length ≤ count)
    (hpiece : ∀ j < piece.length, captured (later address j) = piece[j]?)
    (h : captured.Answers store (later address piece.length) (count - piece.length) rest) :
    captured.Answers store address count (appended (.ok piece) rest) := by
  constructor
  · intro data hdata
    obtain ⟨front, others, hfront, hothers, rfl⟩ := appended_eq_ok hdata
    cases hfront
    obtain ⟨hlength, hshows⟩ := h.shows others hothers
    constructor
    · rw [List.length_append]
      omega
    · exact shows_of_kept hpiece hshows
  · have hfront : ∀ j < piece.length, captured (later address j) ≠ none := by
      intro j hj hnone
      rw [hpiece j hj, List.getElem?_eq_getElem hj] at hnone
      cases hnone
    rw [appended_eq_error, unreadable_of_kept hpos hle hfront, ← h.refused]
    constructor
    · rintro (⟨refusal, hnone⟩ | hrest)
      · cases hnone
      · exact hrest
    · exact Or.inr

theorem answers_of_backing {rest : Except String (List w.Data)}
    (hfront : captured.Stretch address count 0 m)
    (hlength : ∀ piece, store.read m address = .ok piece → piece.length = m)
    (h : captured.Answers store (later address m) (count - m) rest) :
    captured.Answers store address count (appended (store.read m address) rest) := by
  have hinside := hfront.inside
  constructor
  · intro data hdata
    obtain ⟨piece, others, hpiece, hothers, rfl⟩ := appended_eq_ok hdata
    obtain ⟨hcount, hshows⟩ := h.shows others hothers
    have hm := hlength piece hpiece
    subst hm
    have htotal : piece.length + others.length = count := by omega
    constructor
    · rw [List.length_append, htotal]
    · exact shows_of_backing (htotal ▸ hfront) hpiece hshows
  · rw [appended_eq_error, unreadable_of_backing hfront, ← h.refused]

end Overlay

namespace SnapshotStorage

variable (s : SnapshotStorage w)

/-- The elements captured from an address to the end of its run. -/
theorem captured_piece {at' : w.Address} {run : Run w} {n : ℕ}
    (h : lookup s.mem.length at' s.pool = some run)
    (hn : n ≤ run.length - (at'.toNat - run.start.toNat)) (hspace : at'.toNat + n ≤ w.space) :
    ((s.mem.drop (run.offset + (at'.toNat - run.start.toNat))).take n).length = n ∧
      ∀ j < n, s.captured (later at' j) =
        ((s.mem.drop (run.offset + (at'.toNat - run.start.toNat))).take n)[j]? := by
  obtain ⟨hmem, hholds⟩ := mem_runs_of_lookup h
  have hle := offset_add_length_le s.laid hmem
  simp only [Run.holds, Bool.and_eq_true, decide_eq_true_eq] at hholds
  constructor
  · rw [List.length_take, List.length_drop]
    omega
  · intro j hj
    have hlater : (later at' j).toNat = at'.toNat + j := toNat_later (by omega)
    have hfound : lookup s.mem.length (later at' j) s.pool = some run := by
      apply lookup_of_holds s.laid hmem
      simp only [Run.holds, Bool.and_eq_true, decide_eq_true_eq, hlater]
      omega
    rw [captured_eq_fetch, (fetch_of_lookup s.laid hfound).1, hlater,
      List.getElem?_take_of_lt hj, List.getElem?_drop]
    congr 1
    omega

/-- From an address that is not captured, nothing is up to the next run. -/
theorem lookup_up_to_next {bound size : ℕ} {pool : List (w.Address × ℕ)}
    {index at' : w.Address} (hlaid : Laid bound size pool)
    (hindex : lookup size index pool = none) (hle : index.toNat ≤ at'.toNat)
    (hnext : ∀ entry, pool.find? (fun entry => index < entry.1) = some entry →
      at'.toNat < entry.1.toNat) : lookup size at' pool = none := by
  induction pool with
  | nil => rfl
  | cons entry rest ih =>
    have hgap := hlaid.2.1
    rw [lookup_cons] at hindex ⊢
    by_cases hbelow : index < entry.1
    · have hlt := hnext entry (List.find?_cons_of_pos (by simpa using hbelow))
      rw [if_neg (by omega)]
      apply lookup_of_lt hlaid.2.2
      omega
    · have hge : entry.1.toNat ≤ index.toNat := Nat.le_of_not_lt hbelow
      rw [List.find?_cons_of_neg (by simpa using hbelow)] at hnext
      by_cases hin : entry.1.toNat ≤ index.toNat ∧
          index.toNat - entry.1.toNat < nextOffset size rest - entry.2
      · rw [if_pos hin] at hindex
        cases hindex
      · rw [if_neg hin] at hindex
        rw [if_neg (by omega)]
        exact ih hlaid.2.2 hindex hnext

variable {index : w.Address} {count : ℕ}

/-- The stretch a read takes from the memory map at once. -/
theorem stretch_of_lookup (hcount : 0 < count) (hspace : index.toNat + count ≤ w.space)
    (hindex : lookup s.mem.length index s.pool = none) :
    Overlay.Stretch s.captured index count 0
      (match s.pool.find? fun entry => index < entry.1 with
        | some entry => min count (entry.1 - index).toNat
        | none => count) := by
  cases hfind : s.pool.find? fun entry => index < entry.1 with
  | none =>
    dsimp only
    refine ⟨hcount, by omega, ?_, Or.inl rfl, Or.inl (by omega)⟩
    intro j hj
    rw [Nat.zero_add, captured_eq_none_iff]
    apply lookup_up_to_next s.laid hindex
    · rw [toNat_later (by omega)]
      omega
    · rw [hfind]
      intro entry h
      cases h
  | some entry =>
    have hlt' : index < entry.1 := by simpa using List.find?_some hfind
    have hlt : index.toNat < entry.1.toNat := hlt'
    have hsub : (entry.1 - index).toNat = entry.1.toNat - index.toNat :=
      BitVec.toNat_sub_of_le (Nat.le_of_lt hlt)
    dsimp only
    rw [hsub]
    refine ⟨by omega, by omega, ?_, Or.inl rfl, ?_⟩
    · intro j hj
      rw [Nat.zero_add, captured_eq_none_iff]
      apply lookup_up_to_next s.laid hindex
      · rw [toNat_later (by omega)]
        omega
      · rw [hfind, toNat_later (by omega)]
        intro other h
        cases h
        omega
    · by_cases hle : count ≤ entry.1.toNat - index.toNat
      · left
        omega
      · right
        have hlater : later index (0 + min count (entry.1.toNat - index.toNat)) = entry.1 := by
          apply BitVec.eq_of_toNat_eq
          rw [toNat_later (by omega)]
          omega
        rw [hlater]
        exact s.captured_start (List.mem_of_find?_eq_some hfind)

/-- How much a read takes from the memory map at once. -/
def untilNext (index : w.Address) (count : ℕ) : ℕ :=
  match s.pool.find? fun entry => index < entry.1 with
  | some entry => min count (entry.1 - index).toNat
  | none => count

variable {fuel : ℕ}

theorem readFrom_of_missing
    {p : SnapshotAddressData} (hcount : count ≠ 0) (hp : s.isAddressInSnapshot index = .ok p)
    (hflag : p.isAddressInSnapshot = false) :
    s.readFrom (fuel + 1) count index =
      Overlay.appended (s.store.read (s.untilNext index count) index)
        (s.readFrom fuel (count - s.untilNext index count)
          (later index (s.untilNext index count))) := by
  rw [readFrom, if_neg hcount, hp]
  show (if p.isAddressInSnapshot then _ else _) = _
  rw [hflag]
  rfl

theorem readFrom_of_captured
    {p : SnapshotAddressData} (hcount : count ≠ 0) (hp : s.isAddressInSnapshot index = .ok p)
    (hflag : p.isAddressInSnapshot = true) :
    s.readFrom (fuel + 1) count index =
      Overlay.appended
        (.ok ((s.mem.drop ((s.pool.getD p.pool (0, 0)).2 + p.relofs.toNat)).take
          (min p.rellength.toNat count)))
        (s.readFrom fuel (count - min p.rellength.toNat count)
          (later index (min p.rellength.toNat count))) := by
  rw [readFrom, if_neg hcount, hp]
  show (if p.isAddressInSnapshot then _ else _) = _
  rw [hflag]
  rfl

theorem not_tooFar_of_captured {captured : Overlay w} {at' : w.Address}
    (hcaptured : captured at' ≠ none) (hle : at'.toNat ≤ address.toNat + 2 ^ 63) :
    ¬ captured.TooFar address := by
  intro h
  have hfar := h.2 at' hcaptured
  omega

/-- A read in pieces answers for the whole span. -/
theorem readFrom_answers (store : FilledStorage w) (hstore : s.store = store.toMemoryStorage)
    (hfuel : count ≤ fuel) (hspace : index.toNat + count ≤ w.space)
    (hnear : ¬ Overlay.TooFar s.captured index) :
    Overlay.Answers s.captured s.store index count (s.readFrom fuel count index) := by
  induction fuel generalizing count index with
  | zero =>
    have hzero : count = 0 := by omega
    subst hzero
    exact Overlay.answers_nothing s.captured s.store index
  | succ fuel ih =>
    by_cases hzero : count = 0
    · subst hzero
      exact Overlay.answers_nothing s.captured s.store index
    -- behind a piece nothing is left, or an element at its border is captured
    have hrest : ∀ m, 0 < m → m ≤ count →
        (m = count ∨ s.captured (later index m) ≠ none ∨ s.captured (later index (m - 1)) ≠ none) →
        Overlay.Answers s.captured s.store (later index m) (count - m)
          (s.readFrom fuel (count - m) (later index m)) := by
      intro m hpos hle hborder
      by_cases hall : m = count
      · rw [hall, Nat.sub_self]
        cases fuel with
        | zero => exact Overlay.answers_nothing s.captured s.store _
        | succ fuel => exact Overlay.answers_nothing s.captured s.store _
      · have hm : (later index m).toNat = index.toNat + m := toNat_later (by omega)
        apply ih (by omega) (by omega)
        rcases hborder.resolve_left hall with hnext | hlast
        · apply not_tooFar_of_captured hnext
          omega
        · apply not_tooFar_of_captured hlast
          rw [hm, toNat_later (by omega)]
          omega
    rcases s.isAddressInSnapshot_cases index with ⟨hfar, _⟩ | ⟨_, p, hp, hcase⟩
    · exact absurd hfar hnear
    rcases hcase with ⟨hflag, hnone⟩ | ⟨run, hflag, hrun, hplace, hlength⟩
    · have hstretch : Overlay.Stretch s.captured index count 0 (s.untilNext index count) :=
        s.stretch_of_lookup (Nat.pos_of_ne_zero hzero) hspace hnone
      have hinside := hstretch.inside
      rw [s.readFrom_of_missing hzero hp hflag]
      apply Overlay.answers_of_backing hstretch
      · intro piece hpiece
        rw [hstore] at hpiece
        exact store.length_of_read hpiece
      · apply hrest _ hstretch.pos (by omega)
        rcases hstretch.ends with hend | hnext
        · left
          omega
        · right
          left
          rwa [Nat.zero_add] at hnext
    · obtain ⟨_, hholds⟩ := mem_runs_of_lookup hrun
      simp only [Run.holds, Bool.and_eq_true, decide_eq_true_eq] at hholds
      rw [s.readFrom_of_captured hzero hp hflag, hplace, hlength]
      generalize hn : min (run.length - (index.toNat - run.start.toNat)) count = n
      obtain ⟨hpieceLength, hpiece⟩ := s.captured_piece hrun (n := n) (by omega) (by omega)
      generalize (s.mem.drop (run.offset + (index.toNat - run.start.toNat))).take n = piece at *
      subst hpieceLength
      apply Overlay.answers_of_kept (by omega) (by omega) hpiece
      apply hrest _ (by omega) (by omega)
      right
      right
      rw [hpiece _ (by omega), List.getElem?_eq_getElem (by omega)]
      simp only [ne_eq, reduceCtorEq, not_false_eq_true]

/-- A read, cut where the address space ends. -/
theorem read_spec (store : FilledStorage w) (hstore : s.store = store.toMemoryStorage) (count : ℕ)
    (address : w.Address) :
    (0 < count → Overlay.TooFar s.captured address → s.read count address =
      .error "SnapshotStorage address gap exceeds memindextype range.") ∧
    (¬ Overlay.TooFar s.captured address →
      Overlay.Answers s.captured s.store address (min (w.space - address.toNat) count)
        (s.read count address)) := by
  have haddress : address.toNat < w.space := address.isLt
  generalize hn : min (w.space - address.toNat) count = n
  constructor
  · intro hcount hfar
    obtain ⟨front, rest, hpool, _⟩ := (tooFar_iff s address).mp hfar
    have hrefused : s.isAddressInSnapshot address =
        .error "SnapshotStorage address gap exceeds memindextype range." := by
      rcases s.isAddressInSnapshot_cases address with ⟨_, h⟩ | ⟨hnear, _⟩
      · exact h
      · exact absurd hfar hnear
    unfold read
    dsimp only
    rw [hn, if_neg (by omega), hpool, List.isEmpty_cons, if_neg Bool.false_ne_true]
    obtain ⟨k, rfl⟩ : ∃ k, n = k + 1 := ⟨n - 1, by omega⟩
    rw [readFrom, if_neg (by omega), hrefused]
    rfl
  · intro hnear
    unfold read
    dsimp only
    rw [hn]
    by_cases hzero : n = 0
    · rw [if_pos hzero, hzero]
      exact Overlay.answers_nothing s.captured s.store address
    rw [if_neg hzero]
    cases hempty : s.pool.isEmpty with
    | true =>
      rw [if_pos rfl]
      have hpool := List.isEmpty_iff.mp hempty
      have hnone : ∀ at', s.captured at' = none := by
        intro at'
        rw [captured_eq_none_iff, hpool]
        rfl
      have hall : Overlay.Stretch s.captured address n 0 n :=
        ⟨Nat.pos_of_ne_zero hzero, by omega, fun j _ => hnone _, Or.inl rfl, Or.inl (by omega)⟩
      have hnothing : Overlay.Answers s.captured s.store (later address n) (n - n) (.ok []) := by
        rw [Nat.sub_self]
        exact Overlay.answers_nothing s.captured s.store _
      have h := Overlay.answers_of_backing hall
        (fun piece hpiece => store.length_of_read (hstore ▸ hpiece)) hnothing
      cases hread : s.store.read n address with
      | error refusal => rwa [hread] at h
      | ok piece =>
        rw [hread] at h
        have happended : Overlay.appended (.ok piece) (.ok []) = .ok piece :=
          congrArg Except.ok (List.append_nil piece)
        rwa [happended] at h
    | false =>
      exact s.readFrom_answers store hstore (Nat.le_refl n) (by omega) hnear

theorem overlay_write_take (captured : Overlay w) (stream : List w.Data) (address : w.Address) :
    captured.write (stream.take (w.space - address.toNat)) address =
      captured.write stream address := by
  funext at'
  have hat : at'.toNat < w.space := at'.isLt
  simp only [Overlay.write, BitVec.le_def, List.length_take]
  by_cases h : address.toNat ≤ at'.toNat ∧ at'.toNat - address.toNat < stream.length
  · rw [if_pos h, if_pos (by omega), List.getElem?_take_of_lt (by omega)]
  · rw [if_neg h, if_neg (by omega)]

theorem captured_of_write {captured : Overlay w} {value : w.Data} :
    captured.write [value] address address ≠ none := by
  simp only [Overlay.write, BitVec.le_refl, Nat.sub_self, List.length_singleton,
    Nat.lt_one_iff, and_self, if_true, List.getElem?_cons_zero, ne_eq, reduceCtorEq,
    not_false_eq_true]

/-- The elements of a stream written one after the other. -/
theorem writeFrom_spec (stream : List w.Data) (hspace : address.toNat + stream.length ≤ w.space)
    (hnear : stream ≠ [] → ¬ Overlay.TooFar s.captured address) :
    (writeFrom stream address s).2 = none ∧ (writeFrom stream address s).1.store = s.store ∧
      (writeFrom stream address s).1.captured = Overlay.write s.captured stream address := by
  induction stream generalizing s address with
  | nil => exact ⟨rfl, rfl, (Overlay.write_nil _ _).symm⟩
  | cons value rest ih =>
    rw [List.length_cons] at hspace
    rcases s.writeAt_cases address value with ⟨hfar, _⟩ | ⟨_, hwritten⟩
    · exact absurd hfar (hnear (List.cons_ne_nil _ _))
    rw [writeFrom, hwritten]
    by_cases hrest : rest = []
    · subst hrest
      exact ⟨rfl, rfl, captured_written s address value⟩
    · have hlength := List.length_pos_iff.mpr hrest
      have hsucc : (address + 1).toNat = address.toNat + 1 := toNat_succ (by omega)
      have hnear' : rest ≠ [] →
          ¬ Overlay.TooFar (s.written address value).captured (address + 1) := by
        intro _
        rw [captured_written]
        apply not_tooFar_of_captured captured_of_write
        omega
      obtain ⟨hnone, hstore, hcaptured⟩ := ih (s.written address value) (by omega) hnear'
      refine ⟨hnone, hstore, ?_⟩
      rw [hcaptured, captured_written, ← Overlay.write_cons _ _ _ _ (by omega)]

/-- A write of a stream, refused as a whole when everything captured lies too far behind. -/
theorem write_spec (stream : List w.Data) (address : w.Address) :
    (stream ≠ [] ∧ Overlay.TooFar s.captured address ∧ s.write stream address =
      (s, some "SnapshotStorage address gap exceeds memindextype range.")) ∨
    (stream = [] ∨ ¬ Overlay.TooFar s.captured address) ∧ (s.write stream address).2 = none ∧
      (s.write stream address).1.store = s.store ∧
      (s.write stream address).1.captured = Overlay.write s.captured stream address := by
  have haddress : address.toNat < w.space := address.isLt
  by_cases hfar : stream ≠ [] ∧ Overlay.TooFar s.captured address
  · left
    obtain ⟨hstream, hfar⟩ := hfar
    refine ⟨hstream, hfar, ?_⟩
    cases stream with
    | nil => exact absurd rfl hstream
    | cons value rest =>
      obtain ⟨k, hk⟩ : ∃ k, w.space - address.toNat = k + 1 :=
        ⟨_, (Nat.sub_add_cancel (by omega)).symm⟩
      rcases s.writeAt_cases address value with ⟨_, hrefused⟩ | ⟨hnear, _⟩
      · unfold write
        rw [hk, List.take_succ_cons, writeFrom, hrefused]
      · exact absurd hfar hnear
  · right
    have hcases : stream = [] ∨ ¬ Overlay.TooFar s.captured address := by tauto
    have htake : stream.take (w.space - address.toNat) ≠ [] →
        ¬ Overlay.TooFar s.captured address := by
      intro hne
      apply hcases.resolve_left
      rintro rfl
      exact hne List.take_nil
    have hlength : address.toNat + (stream.take (w.space - address.toNat)).length ≤ w.space := by
      rw [List.length_take]
      omega
    obtain ⟨hnone, hstore, hcaptured⟩ := s.writeFrom_spec _ hlength htake
    exact ⟨hcases, hnone, hstore, hcaptured.trans (overlay_write_take _ _ _)⟩

end SnapshotStorage

inductive SnapshotAccess (w : WordSizes) where
  | write (stream : List w.Data) (address : w.Address)
  | read (count : ℕ) (address : w.Address)

def SnapshotStorage.perform (s : SnapshotStorage w) : SnapshotAccess w → SnapshotStorage w
  | .write stream address => (s.write stream address).1
  | .read _ _ => s

open Classical in
/-- A write too far in front of everything captured is refused; reads capture nothing. -/
noncomputable def Overlay.perform (captured : Overlay w) : SnapshotAccess w → Overlay w
  | .write stream address =>
    if captured.TooFar address then captured else captured.write stream address
  | .read _ _ => captured

/-- Runs in address order and apart, whose data partition the packed data in their order. -/
structure SnapshotStorage.Packed (s : SnapshotStorage w) : Prop where
  nonempty : ∀ run ∈ s.runs, 0 < run.length
  inSpace : ∀ run ∈ s.runs, run.start.toNat + run.length ≤ w.space
  apart : s.runs.Pairwise fun run next => run.start.toNat + run.length < next.start.toNat
  partitioned : (s.runs.map fun run => (s.mem.drop run.offset).take run.length).flatten = s.mem

theorem laid_runs {size : ℕ} {entries : List (w.Address × ℕ)}
    (hlaid : Laid (w.space + 1) size entries) :
    (∀ run ∈ runs size entries, 0 < run.length ∧ run.start.toNat + run.length ≤ w.space) ∧
      (runs size entries).Pairwise fun run next =>
        run.start.toNat + run.length < next.start.toNat := by
  induction entries with
  | nil => exact ⟨nofun, List.Pairwise.nil⟩
  | cons entry rest ih =>
    obtain ⟨hoffset, hgap, hrest⟩ := hlaid
    obtain ⟨hall, hapart⟩ := ih hrest
    have hbound := SnapshotStorage.nextStart_le hrest
    constructor
    · intro run hrun
      rcases List.mem_cons.mp hrun with rfl | hmem
      · exact ⟨Nat.sub_pos_of_lt hoffset, by dsimp only; omega⟩
      · exact hall run hmem
    · apply List.Pairwise.cons _ hapart
      intro next hnext
      have hstart := SnapshotStorage.nextStart_le_start hrest hnext
      dsimp only
      omega

theorem flatten_runs (mem : List w.Data) {bound : ℕ} {entries : List (w.Address × ℕ)}
    (hlaid : Laid bound mem.length entries) :
    ((runs mem.length entries).map fun run => (mem.drop run.offset).take run.length).flatten =
      mem.drop (nextOffset mem.length entries) := by
  induction entries with
  | nil => exact (List.drop_length (l := mem)).symm
  | cons entry rest ih =>
    obtain ⟨hoffset, _, hrest⟩ := hlaid
    show (mem.drop entry.2).take (nextOffset mem.length rest - entry.2) ++ _ = mem.drop entry.2
    rw [ih hrest]
    have hsplit := List.take_append_drop (nextOffset mem.length rest - entry.2)
      (mem.drop entry.2)
    rwa [List.drop_drop, Nat.add_sub_of_le (Nat.le_of_lt hoffset)] at hsplit

theorem SnapshotStorage.packed (s : SnapshotStorage w) : s.Packed := by
  obtain ⟨hall, hapart⟩ := laid_runs s.laid
  refine ⟨fun run hrun => (hall run hrun).1, fun run hrun => (hall run hrun).2, hapart, ?_⟩
  have hflatten := flatten_runs s.mem s.laid
  rwa [s.first_offset, List.drop_zero] at hflatten

namespace SnapshotStorage

theorem perform_spec (s : SnapshotStorage w) (access : SnapshotAccess w) :
    (s.perform access).store = s.store ∧
      (s.perform access).captured = Overlay.perform s.captured access := by
  cases access with
  | read count address => exact ⟨rfl, rfl⟩
  | write stream address =>
    rcases s.write_spec stream address with ⟨_, hfar, hrefused⟩ | ⟨hcases, _, hstore, hcaptured⟩
    · simp only [perform, Overlay.perform, hrefused, if_pos hfar, and_self]
    · refine ⟨hstore, ?_⟩
      by_cases hfar : Overlay.TooFar s.captured address
      · have hnil := hcases.resolve_right (not_not_intro hfar)
        subst hnil
        rw [Overlay.write_nil] at hcaptured
        simp only [perform, Overlay.perform, if_pos hfar]
        exact hcaptured
      · simp only [perform, Overlay.perform, if_neg hfar]
        exact hcaptured

theorem captured_new (store : MemoryStorage w) : (new store).captured = fun _ => none := by
  funext at'
  rfl

theorem perform_run (store : MemoryStorage w) (accesses : List (SnapshotAccess w)) :
    (accesses.foldl perform (new store)).store = store ∧
      (accesses.foldl perform (new store)).captured =
        accesses.foldl Overlay.perform fun _ => none := by
  induction accesses using List.reverseRecOn with
  | nil => exact ⟨rfl, captured_new store⟩
  | append_singleton accesses access ih =>
    obtain ⟨hstore, hcaptured⟩ := ih
    obtain ⟨hnext, hstep⟩ := (accesses.foldl perform (new store)).perform_spec access
    rw [List.foldl_append, List.foldl_append]
    exact ⟨hnext.trans hstore, hstep.trans (by rw [hcaptured]; rfl)⟩

/-- After any writes and reads the runs are packed and apart, the captured elements are the last
ones written, and a read shows them in front of the memory map. -/
theorem snapshot_refines_overlay (store : FilledStorage w)
    (accesses : List (SnapshotAccess w)) :
    let s := accesses.foldl perform (new store.toMemoryStorage)
    let captured : Overlay w := accesses.foldl Overlay.perform fun _ => none
    s.Packed ∧ s.captured = captured ∧
      (∀ stream address, (s.write stream address).2 = none ↔
        stream = [] ∨ ¬ captured.TooFar address) ∧
      ∀ count address,
        (0 < count → captured.TooFar address → ∃ refusal, s.read count address = .error refusal) ∧
        (¬ captured.TooFar address →
          captured.Answers store.toMemoryStorage address
            (min (w.space - address.toNat) count) (s.read count address)) := by
  intro s captured
  obtain ⟨hstore, hcaptured⟩ := perform_run store.toMemoryStorage accesses
  have hcaptured' : s.captured = captured := hcaptured
  refine ⟨s.packed, hcaptured', ?_, ?_⟩
  · intro stream address
    rcases s.write_spec stream address with ⟨hstream, hfar, hrefused⟩ | ⟨hcases, hnone, _, _⟩
    · rw [hrefused]
      rw [hcaptured'] at hfar
      constructor
      · intro h
        cases h
      · rintro (hnil | hnear)
        · exact absurd hnil hstream
        · exact absurd hfar hnear
    · rw [hcaptured'] at hcases
      exact ⟨fun _ => hcases, fun _ => hnone⟩
  · intro count address
    obtain ⟨hrefused, hanswers⟩ := s.read_spec store hstore count address
    rw [hcaptured'] at hrefused hanswers
    constructor
    · intro hcount hfar
      exact ⟨_, hrefused hcount hfar⟩
    · intro hnear
      have h := hanswers hnear
      rwa [show s.store = store.toMemoryStorage from hstore] at h

/-- One byte of memory at the first of `2 ^ 64` addresses. -/
def wideSizes : WordSizes := ⟨8, 1, 2, Nat.one_pos⟩

def wideStore : MemoryStorage wideSizes := ⟨[⟨0, 1, .readWrite⟩], [7]⟩

/-- With an element captured behind the middle of the address space, the first address can be
neither written nor read. -/
theorem wideStore_refused :
    let s := ((new wideStore).write [1] 0x8000000000000001).1
    ((new wideStore).write [1] 0x8000000000000001).2 = none ∧
      wideStore.read 1 0 = .ok [7] ∧
      (s.write [2] 0).2 = some "SnapshotStorage address gap exceeds memindextype range." ∧
      s.read 1 0 = .error "SnapshotStorage address gap exceeds memindextype range." := by
  intro s
  refine ⟨rfl, rfl, rfl, rfl⟩

end SnapshotStorage

end ProtoTime.Memory
