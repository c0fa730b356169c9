import ProtoTime.Memory.DebugSnapshotManager
import ProtoTime.Results
import Mathlib.Data.List.Find

/-!
Which memory snapshots come back from their files: those whose counts fit the loader's limits
and whose runs are shorter than the address space and of one access right.
-/
namespace ProtoTime.Memory
open ByteReader

variable {w : WordSizes}

namespace DebugSnapshotManager
open SnapshotStorage (nextOffset_le nextStart_le lookup)

theorem extends_readRegister (path : String) : Extends (readRegister (w := w) path) :=
  (Extends.u32 _).bind fun _ => (Extends.check _ _).bind fun _ => (Extends.take _ _).bind fun _ =>
    (Extends.u8 _).bind fun _ => (Extends.u8 _).bind fun _ => (Extends.u8 _).bind fun _ =>
      (Extends.check _ _).bind fun _ => (Extends.word _ _).bind fun _ => Extends.pure _

theorem extends_readPools (path : String) (count previous : ℕ) :
    Extends (readPools (w := w) path count previous) := by
  induction count generalizing previous with
  | zero => exact Extends.pure []
  | succ count ih =>
    exact (Extends.word _ _).bind fun _ => (Extends.u64 _).bind fun _ => (Extends.u8 _).bind
      fun _ => (Extends.check _ _).bind fun _ => (Extends.accept _).bind fun _ =>
        (ih _).bind fun _ => Extends.pure _

theorem extends_readSnapshot (path : String) (coreId : BitVec 32) :
    Extends (readSnapshot (w := w) path coreId) :=
  (Extends.take _ _).bind fun _ => (Extends.check _ _).bind fun _ => (Extends.u32 _).bind fun _ =>
    (Extends.check _ _).bind fun _ => (Extends.u32 _).bind fun _ => (Extends.check _ _).bind
      fun _ => (Extends.u64 _).bind fun _ => (Extends.check _ _).bind fun _ =>
        ((extends_readRegister path).many _).bind fun _ => (Extends.u64 _).bind fun _ =>
          (Extends.check _ _).bind fun _ => (extends_readPools path _ _).bind fun _ =>
            (Extends.u64 _).bind fun _ => (Extends.check _ _).bind fun _ =>
              (Extends.check _ _).bind fun _ => ((Extends.word _ _).many _).bind fun _ =>
                (Extends.check _ _).bind fun _ => (Extends.accept _).bind fun _ =>
                  (Extends.accept _).bind fun _ => Extends.pure _

variable {path : String} {file : List (BitVec 8)} {coreId : BitVec 32} {loaded : LoadedSnapshot w}

theorem readSnapshot_of_load (h : loadSnapshot path file coreId = .ok loaded) :
    readSnapshot path coreId file = .ok (loaded, []) := by
  unfold loadSnapshot at h
  split at h
  · cases h
  · next hread =>
    cases h
    exact hread
  · cases h

theorem loadSnapshot_front {front back : List (BitVec 8)}
    (h : loadSnapshot path (front ++ back) coreId = .ok loaded) (hback : back ≠ []) :
    ∃ refusal, loadSnapshot (w := w) path front coreId = .error refusal := by
  cases hfront : loadSnapshot (w := w) path front coreId with
  | error refusal => exact ⟨refusal, rfl⟩
  | ok short =>
    have hlonger := extends_readSnapshot path coreId _ back _ _ (readSnapshot_of_load hfront)
    rw [readSnapshot_of_load h] at hlonger
    cases hlonger
    exact absurd rfl hback

theorem loadSnapshot_more {more : List (BitVec 8)} (h : loadSnapshot path file coreId = .ok loaded)
    (hmore : more ≠ []) :
    ∃ refusal, loadSnapshot (w := w) path (file ++ more) coreId = .error refusal := by
  have hlonger := extends_readSnapshot path coreId _ more _ _ (readSnapshot_of_load h)
  cases more with
  | nil => exact absurd rfl hmore
  | cons byte more =>
    refine ⟨"Snapshot contains trailing data.", ?_⟩
    unfold loadSnapshot
    rw [hlonger]
    rfl

theorem reads_register (path : String) {entry : RegisterEntry w} (h : entry.name.length ≤ 256) :
    Reads (readRegister path) (registerBytes entry) (saved entry) := by
  have hlength : (BitVec.ofNat 32 entry.name.length).toNat = entry.name.length :=
    Nat.mod_eq_of_lt (by omega)
  have hcheck : decide (BitVec.ofNat 32 entry.name.length ≤ 256) = true := by
    apply decide_eq_true
    show (BitVec.ofNat 32 entry.name.length).toNat ≤ 256
    rw [hlength]
    exact h
  have hflag : decide ((if entry.isPair then 1 else 0 : BitVec 8) ≤ 1) = true := by
    cases entry.isPair <;> decide
  unfold readRegister registerBytes
  dsimp only
  rw [hlength, List.take_length]
  refine (reads_u32 _ _).bind (check_bind hcheck ?_)
  rw [hlength]
  refine (reads_take _ _).bind ((reads_u8 _ _).bind ((reads_u8 _ _).bind ((reads_u8 _ _).bind
    (check_bind hflag ?_))))
  have hvalue := (reads_word (truncated path) entry.value).bind (f := fun value => Pure.pure
    { name := entry.name, width := RegisterWidth.toByte entry.width,
      storage := RegisterStorage.toByte entry.storage, isPair := if entry.isPair then 1 else 0,
      value := value : RegisterSnapshot w }) (Reads.pure _)
  rw [List.append_nil] at hvalue
  exact hvalue

variable (store : MemoryStorage w)

/-- What the file says about a run. -/
def savedPool (pool : w.Address × ℕ) : PoolSnapshot w :=
  ⟨pool.1, pool.2, store.accessAt pool.1⟩

variable {bound : ℕ} {entries : List (w.Address × ℕ)}

theorem reads_pools (path : String) (store : MemoryStorage w) {size previous : ℕ}
    (hlaid : Laid bound size entries) (hsize : size < 2 ^ 64)
    (hprevious : previous ≤ nextOffset size entries)
    (hrights : ∀ entry ∈ entries, store.accessAt entry.1 ≠ .unmapped) :
    Reads (readPools path entries.length previous) (entries.flatMap (poolBytes store))
      (entries.map (savedPool store)) := by
  induction entries generalizing previous with
  | nil => exact Reads.pure _
  | cons entry rest ih =>
    have hle := nextOffset_le hlaid
    have hoffset : (BitVec.ofNat 64 entry.2).toNat = entry.2 := by
      apply Nat.mod_eq_of_lt
      exact lt_of_le_of_lt hle hsize
    have hcheck : decide (previous ≤ (BitVec.ofNat 64 entry.2).toNat) = true := by
      rw [hoffset]
      exact decide_eq_true hprevious
    have hrest := ih hlaid.2.2 (Nat.le_of_lt hlaid.1)
      fun following hmem => hrights following (List.mem_cons_of_mem entry hmem)
    rw [List.flatMap_cons]
    unfold readPools poolBytes
    rw [List.append_assoc, List.append_assoc]
    refine (reads_word _ _).bind ((reads_u64 _ _).bind ((reads_u8 _ _).bind
      (check_bind hcheck ?_)))
    rw [MemAccess.ofRehydrateByte_toByte, if_neg (hrights entry List.mem_cons_self)]
    refine accept_bind rfl ?_
    rw [hoffset]
    have hlast := hrest.bind (f := fun others => Pure.pure (savedPool store entry :: others))
      (Reads.pure _)
    rw [List.append_nil] at hlast
    exact hlast

def rebuilt (run : Run w) : MemBlock w :=
  ⟨run.start, BitVec.ofNat _ run.length, store.accessAt run.start⟩

variable {size : ℕ}

theorem segments_cons {entry : w.Address × ℕ}
    {rest : List (w.Address × ℕ)} (hlaid : Laid bound size (entry :: rest)) :
    segments size ((entry :: rest).map (savedPool store)) =
      if w.space - 1 < nextOffset size rest - entry.2 then
        .error "Snapshot pool length exceeds address width."
      else do
        let blocks ← segments size (rest.map (savedPool store))
        return rebuilt store ⟨entry.1, entry.2, nextOffset size rest - entry.2⟩ :: blocks := by
  have hle := nextOffset_le hlaid.2.2
  have hlt := hlaid.1
  have hnext : followingOffset size (rest.map (savedPool store)) = nextOffset size rest := by
    cases rest <;> rfl
  rw [List.map_cons, segments]
  simp only [hnext]
  rw [if_neg]
  · rfl
  · show ¬(nextOffset size rest ≤ entry.2 ∨ size < nextOffset size rest)
    omega

theorem segments_eq_ok (hlaid : Laid bound size entries)
    (hfits : ∀ run ∈ runs size entries, run.length < w.space) :
    segments size (entries.map (savedPool store)) =
      .ok ((runs size entries).map (rebuilt store)) := by
  induction entries with
  | nil => rfl
  | cons entry rest ih =>
    have hfirst : nextOffset size rest - entry.2 < w.space := hfits _ List.mem_cons_self
    have hrest := ih hlaid.2.2 fun run hrun => hfits run (List.mem_cons_of_mem _ hrun)
    rw [segments_cons store hlaid, if_neg (by omega), hrest]
    rfl

theorem fits_of_segments {store : MemoryStorage w} (hlaid : Laid bound size entries)
    {blocks : List (MemBlock w)} (h : segments size (entries.map (savedPool store)) = .ok blocks) :
    ∀ run ∈ runs size entries, run.length < w.space := by
  induction entries generalizing blocks with
  | nil => exact fun run hrun => absurd hrun List.not_mem_nil
  | cons entry rest ih =>
    have hspace : 0 < w.space := Nat.two_pow_pos _
    rw [segments_cons store hlaid] at h
    split_ifs at h with hfits
    obtain ⟨others, hothers, _⟩ := Results.bind_eq_ok h
    intro run hrun
    rcases List.mem_cons.mp hrun with rfl | hmem
    · show nextOffset size rest - entry.2 < w.space
      omega
    · exact ih hlaid.2.2 hothers run hmem

theorem checkMap_rebuilt (hlaid : Laid (w.space + 1) size entries)
    (hsize : size < 2 ^ 64) (hfits : ∀ run ∈ runs size entries, run.length < w.space) :
    MemoryStorage.checkMap ((runs size entries).map (rebuilt store)) (nextOffset size entries) =
      .ok size := by
  induction entries with
  | nil => rfl
  | cons entry rest ih =>
    obtain ⟨hoffset, hgap, hrest⟩ := hlaid
    have hfirst : nextOffset size rest - entry.2 < w.space := hfits _ List.mem_cons_self
    have hbound := nextStart_le hrest
    have hle := nextOffset_le hrest
    have hlength : (BitVec.ofNat (8 * w.address) (nextOffset size rest - entry.2)).toNat =
        nextOffset size rest - entry.2 := Nat.mod_eq_of_lt hfirst
    have hzero : (rebuilt store ⟨entry.1, entry.2, nextOffset size rest - entry.2⟩).length ≠ 0 := by
      intro heq
      have hnat : (BitVec.ofNat (8 * w.address) (nextOffset size rest - entry.2)).toNat =
          (0 : w.Address).toNat := congrArg BitVec.toNat heq
      have hnone : (0 : w.Address).toNat = 0 := Nat.zero_mod _
      omega
    show MemoryStorage.checkMap (rebuilt store ⟨entry.1, entry.2, _⟩ ::
      (runs size rest).map (rebuilt store)) entry.2 = _
    rw [MemoryStorage.checkMap, if_neg hzero]
    simp only [rebuilt, hlength]
    rw [if_neg (by omega), if_neg (by omega)]
    have hsum : entry.2 + (nextOffset size rest - entry.2) = nextOffset size rest := by omega
    rw [hsum]
    exact ih hrest fun run hrun => hfits run (List.mem_cons_of_mem _ hrun)

theorem rebuilt_mappedOffset {run : Run w} (hfits : run.length < w.space) (at' : w.Address) :
    (rebuilt store run).mappedOffset at' =
      if run.holds at' then some (at'.toNat - run.start.toNat) else none := by
  have hlength : (rebuilt store run).length.toNat = run.length := Nat.mod_eq_of_lt hfits
  have hbase : (rebuilt store run).base = run.start := rfl
  have hholds : run.holds at' = true ↔
      run.start.toNat ≤ at'.toNat ∧ at'.toNat - run.start.toNat < run.length := by
    simp [Run.holds]
  split_ifs with h
  · have hin := hholds.mp h
    rw [MemBlock.mappedOffset_eq_some_iff, hlength, hbase]
    omega
  · cases hmapped : (rebuilt store run).mappedOffset at' with
    | none => rfl
    | some i =>
      rw [MemBlock.mappedOffset_eq_some_iff, hlength, hbase] at hmapped
      exact absurd (hholds.mpr ⟨by omega, by omega⟩) h

/-- The rebuilt store has the rights of the start of the run that holds an address. -/
theorem accessAt_rebuilt
    (mem : List w.Data) (hfits : ∀ run ∈ runs size entries, run.length < w.space)
    (at' : w.Address) :
    MemoryStorage.accessAt ⟨(runs size entries).map (rebuilt store), mem⟩ at' =
      match lookup size at' entries with
      | some run => store.accessAt run.start
      | none => .unmapped := by
  have hfind : ((runs size entries).map (rebuilt store)).find?
      (fun block => block.base ≤ at' && at' - block.base < block.length) =
      (lookup size at' entries).map (rebuilt store) := by
    rw [List.find?_map]
    congr 1
    apply List.find?_congr
    intro run hrun
    have hmapped := rebuilt_mappedOffset store (hfits run hrun) at'
    rw [Function.comp_apply, ← MemBlock.isSome_mappedOffset, hmapped]
    cases run.holds at' <;> rfl
  unfold MemoryStorage.accessAt
  rw [hfind]
  cases lookup size at' entries <;> rfl

/-- The rebuilt store reads the packed data at the address. -/
theorem readableSpan_rebuilt (mem : List w.Data) (hlaid : Laid (w.space + 1) size entries)
    (hfits : ∀ run ∈ runs size entries, run.length < w.space) (at' : w.Address) {run : Run w}
    (hrun : lookup size at' entries = some run)
    (hread : (store.accessAt run.start).hasAccess .read = true) :
    MemoryStorage.readableSpanFrom mem at' 1 ((runs size entries).map (rebuilt store))
        (nextOffset size entries) =
      .ok ((mem.drop (run.offset + (at'.toNat - run.start.toNat))).take 1) := by
  induction entries with
  | nil => cases hrun
  | cons entry rest ih =>
    obtain ⟨hoffset, hgap, hrest⟩ := hlaid
    have hfirst := hfits _ List.mem_cons_self
    have hmapped := rebuilt_mappedOffset store hfirst at'
    have hlength : (rebuilt store ⟨entry.1, entry.2, nextOffset size rest - entry.2⟩).length.toNat =
        nextOffset size rest - entry.2 := Nat.mod_eq_of_lt hfirst
    rw [SnapshotStorage.lookup_cons] at hrun
    show MemoryStorage.readableSpanFrom mem at' 1 (rebuilt store ⟨entry.1, entry.2, _⟩ ::
      (runs size rest).map (rebuilt store)) entry.2 = _
    rw [MemoryStorage.readableSpanFrom, hmapped, hlength]
    by_cases h : entry.1.toNat ≤ at'.toNat ∧
        at'.toNat - entry.1.toNat < nextOffset size rest - entry.2
    · rw [if_pos h] at hrun
      cases hrun
      have hholds : (⟨entry.1, entry.2, nextOffset size rest - entry.2⟩ : Run w).holds at' =
          true := by simp [Run.holds, h]
      rw [if_pos hholds]
      simp only [rebuilt, hread, Bool.not_true, Bool.false_eq_true, if_false]
      rw [if_neg (by omega)]
    · rw [if_neg h] at hrun
      have hholds : ¬(⟨entry.1, entry.2, nextOffset size rest - entry.2⟩ : Run w).holds at' =
          true := by simpa [Run.holds] using h
      rw [if_neg hholds]
      dsimp only
      have hsum : entry.2 + (nextOffset size rest - entry.2) = nextOffset size rest := by omega
      rw [hsum]
      exact ih hrest (fun run hmem => hfits run (List.mem_cons_of_mem _ hmem)) hrun

/-- What the loader and the file can hold: counts within the limits, every run shorter than the
address space and with the rights of its first address throughout. -/
structure Reloadable (registers : List (RegisterEntry w)) (s : SnapshotStorage w) : Prop where
  registers_le : registers.length ≤ 1024
  names_le : ∀ entry ∈ registers, entry.name.length ≤ 256
  pools_le : s.pool.length ≤ 65536
  fits : ∀ run ∈ s.runs, run.length < w.space
  mapped : ∀ run ∈ s.runs, s.store.accessAt run.start ≠ .unmapped
  rights : ∀ run ∈ s.runs, ∀ at', run.holds at' = true →
    s.store.accessAt at' = s.store.accessAt run.start

/-- A store that shows the captured elements under the rights of the original, and no others. -/
structure Shows (s : SnapshotStorage w) (storage : MemoryStorage w) : Prop where
  captured : ∀ at' value, s.captured at' = some value →
    storage.accessAt at' = s.store.accessAt at' ∧
      ((s.store.accessAt at').hasAccess .read = true → storage.read 1 at' = .ok [value])
  uncaptured : ∀ at', s.captured at' = none → ∀ block ∈ storage.map, block.mappedOffset at' = none

/-- A file that loads as what was saved, and as nothing with bytes missing or added. -/
structure RoundTrips (path : String) (registers : List (RegisterEntry w)) (s : SnapshotStorage w)
    (coreId : BitVec 32) (file : List (BitVec 8)) : Prop where
  loads : ∃ loaded : LoadedSnapshot w, loadSnapshot path file coreId = .ok loaded ∧
    loaded.registers = registers.map saved ∧ Shows s loaded.storage
  front : ∀ front back, file = front ++ back → back ≠ [] →
    ∃ refusal, loadSnapshot (w := w) path front coreId = .error refusal
  more : ∀ more, more ≠ [] →
    ∃ refusal, loadSnapshot (w := w) path (file ++ more) coreId = .error refusal

def rebuiltStore (s : SnapshotStorage w) : MemoryStorage w := ⟨s.runs.map (rebuilt s.store), s.mem⟩

variable {s : SnapshotStorage w}

theorem rehydrate_rebuilt (hsize : s.mem.length < 2 ^ 64)
    (hfits : ∀ run ∈ s.runs, run.length < w.space) :
    MemoryStorage.rehydrate s.mem (s.runs.map (rebuilt s.store)) = .ok (rebuiltStore s) := by
  have hcheck : MemoryStorage.checkMap (s.runs.map (rebuilt s.store)) 0 = .ok s.mem.length := by
    rw [← s.first_offset]
    exact checkMap_rebuilt s.store s.laid hsize hfits
  unfold MemoryStorage.rehydrate
  rw [Results.ok_bind hcheck, if_neg (fun h => h rfl)]
  rfl

variable {registers : List (RegisterEntry w)}

/-- The rebuilt store shows the snapshot. -/
theorem shows_rebuiltStore (h : Reloadable registers s) : Shows s (rebuiltStore s) := by
  constructor
  · intro at' value hvalue
    obtain ⟨run, hrun, hmem⟩ := SnapshotStorage.captured_eq_some hvalue
    obtain ⟨hin, hholds⟩ := SnapshotStorage.mem_runs_of_lookup hrun
    have haccess := accessAt_rebuilt s.store s.mem h.fits at'
    have hrights := h.rights run hin at' hholds
    rw [hrun] at haccess
    refine ⟨haccess.trans hrights.symm, fun hread => ?_⟩
    rw [hrights] at hread
    have hspan := readableSpan_rebuilt s.store s.mem s.laid h.fits at' hrun hread
    rw [s.first_offset] at hspan
    have hlt := (List.getElem?_eq_some_iff.mp hmem).1
    have helement := (List.getElem?_eq_some_iff.mp hmem).2
    refine hspan.trans ?_
    rw [List.drop_eq_getElem_cons hlt, helement]
    rfl
  · intro at' hnone block hblock
    obtain ⟨run, hin, rfl⟩ := List.mem_map.mp hblock
    rw [rebuilt_mappedOffset s.store (h.fits run hin), if_neg]
    intro hholds
    obtain ⟨value, hvalue⟩ :=
      SnapshotStorage.captured_of_lookup (SnapshotStorage.lookup_of_holds s.laid hin hholds)
    rw [hnone] at hvalue
    cases hvalue

theorem saveToDisk_eq_ok (h : saveToDisk registers s coreId = .ok file) :
    file = fileBytes registers s coreId ∧ s.mem.length * w.data ≤ maxSnapshotMemoryBytes := by
  unfold saveToDisk at h
  dsimp only at h
  split_ifs at h with hcount hsize
  cases h
  exact ⟨rfl, by omega⟩

theorem length_mem_le (h : s.mem.length * w.data ≤ maxSnapshotMemoryBytes) :
    s.mem.length ≤ 64 * 1024 * 1024 :=
  (Nat.le_mul_of_pos_right _ w.data_pos).trans h

theorem length_pool_le
    (hlaid : Laid bound size entries) : nextOffset size entries + entries.length ≤ size := by
  induction entries with
  | nil => exact Nat.le_refl _
  | cons entry rest ih =>
    have hrest := ih hlaid.2.2
    have hlt := hlaid.1
    show entry.2 + (rest.length + 1) ≤ size
    omega

theorem runs_start (size : ℕ) (entries : List (w.Address × ℕ)) :
    (runs size entries).map Run.start = entries.map Prod.fst := by
  induction entries with
  | nil => rfl
  | cons entry rest ih => exact congrArg (List.cons entry.1) ih

theorem forall_start_iff {P : w.Address → Prop} (size : ℕ) (entries : List (w.Address × ℕ)) :
    (∀ run ∈ runs size entries, P run.start) ↔ ∀ entry ∈ entries, P entry.1 := by
  have h := runs_start size entries
  rw [← List.forall_mem_map (f := Run.start), h, List.forall_mem_map]

theorem isEmpty_mem_of_pool (h : s.pool = []) : s.mem = [] := by
  have hfirst := s.first_offset
  rw [h] at hfirst
  exact List.eq_nil_of_length_eq_zero hfirst

/-- A snapshot within the limits loads as the rebuilt store. -/
theorem readSnapshot_fileBytes (path : String) (coreId : BitVec 32) (h : Reloadable registers s)
    (hsize : s.mem.length * w.data ≤ maxSnapshotMemoryBytes) :
    readSnapshot path coreId (fileBytes registers s coreId) =
      .ok (⟨rebuiltStore s, registers.map saved, coreId⟩, []) := by
  have hmem := length_mem_le hsize
  have hlimit : maxSnapshotMemoryBytes = 64 * 1024 * 1024 := rfl
  have hregisters := h.registers_le
  have hpools := h.pools_le
  have hregCount : (BitVec.ofNat 64 registers.length).toNat = registers.length :=
    Nat.mod_eq_of_lt (by omega)
  have hpoolCount : (BitVec.ofNat 64 s.pool.length).toNat = s.pool.length :=
    Nat.mod_eq_of_lt (by omega)
  have hmemSize : (BitVec.ofNat 64 (s.mem.length * w.data)).toNat = s.mem.length * w.data :=
    Nat.mod_eq_of_lt (by omega)
  have hcheckRegs : decide (BitVec.ofNat 64 registers.length ≤ 1024) = true := by
    apply decide_eq_true
    show (BitVec.ofNat 64 registers.length).toNat ≤ 1024
    omega
  have hcheckPools : decide (BitVec.ofNat 64 s.pool.length ≤ 65536) = true := by
    apply decide_eq_true
    show (BitVec.ofNat 64 s.pool.length).toNat ≤ 65536
    omega
  have hreadRegs := reads_many (f := registerBytes) (g := saved) registers
    fun entry hmem => reads_register path (h.names_le entry hmem)
  have hmapped : ∀ entry ∈ s.pool, s.store.accessAt entry.1 ≠ .unmapped :=
    (forall_start_iff (P := fun start => s.store.accessAt start ≠ .unmapped) _ _).mp h.mapped
  have hreadPools := reads_pools path s.store s.laid (by omega : s.mem.length < 2 ^ 64)
    (Nat.zero_le _) hmapped
  have hreadMem := reads_many (r := word (truncated path) w.data) (g := id)
    s.mem fun value _ => reads_word (truncated path) value
  rw [List.map_id] at hreadMem
  have hmap : (!((s.pool.map (savedPool s.store)).isEmpty && !s.mem.isEmpty)) = true := by
    cases hpool : s.pool with
    | nil => rw [isEmpty_mem_of_pool hpool]; rfl
    | cons entry rest => rfl
  have hsegments := segments_eq_ok s.store s.laid h.fits
  have hstorage := rehydrate_rebuilt (by omega : s.mem.length < 2 ^ 64) h.fits
  unfold readSnapshot fileBytes
  refine (reads_take _ magic).bind_all (check_bind_all rfl ((reads_u32 _ _).bind_all
    (check_bind_all rfl ((reads_u32 _ _).bind_all (check_bind_all (beq_self_eq_true coreId)
      ((reads_u64 _ _).bind_all (check_bind_all hcheckRegs ?_)))))))
  rw [hregCount]
  refine hreadRegs.bind_all ((reads_u64 _ _).bind_all (check_bind_all hcheckPools ?_))
  rw [hpoolCount]
  refine hreadPools.bind_all ((reads_u64 _ _).bind_all ?_)
  rw [hmemSize]
  refine check_bind_all ?_ (check_bind_all ?_ ?_)
  · rw [Nat.mul_mod_left]
    rfl
  · simp only [Bool.and_eq_true, decide_eq_true_eq]
    omega
  rw [Nat.mul_div_cancel _ w.data_pos]
  refine hreadMem.bind_end (check_bind_all hmap ?_)
  exact accept_bind_all hsegments (accept_bind_all hstorage (ReadsAll.pure _))

/-- The loader's limits on registers. -/
theorem registers_of_read {bytes left : List (BitVec 8)}
    (h : readSnapshot path coreId bytes = .ok (loaded, left)) :
    loaded.registers.length ≤ 1024 ∧ ∀ entry ∈ loaded.registers, entry.name.length ≤ 256 := by
  obtain ⟨_, _, _, h⟩ := bind_eq_ok h
  obtain ⟨_, h⟩ := check_bind_eq_ok h
  obtain ⟨_, _, _, h⟩ := bind_eq_ok h
  obtain ⟨_, h⟩ := check_bind_eq_ok h
  obtain ⟨_, _, _, h⟩ := bind_eq_ok h
  obtain ⟨_, h⟩ := check_bind_eq_ok h
  obtain ⟨regCount, _, _, h⟩ := bind_eq_ok h
  obtain ⟨hcount, h⟩ := check_bind_eq_ok h
  obtain ⟨registers, _, hregisters, h⟩ := bind_eq_ok h
  obtain ⟨_, _, _, h⟩ := bind_eq_ok h
  obtain ⟨_, h⟩ := check_bind_eq_ok h
  obtain ⟨_, _, _, h⟩ := bind_eq_ok h
  obtain ⟨_, _, _, h⟩ := bind_eq_ok h
  obtain ⟨_, h⟩ := check_bind_eq_ok h
  obtain ⟨_, h⟩ := check_bind_eq_ok h
  obtain ⟨_, _, _, h⟩ := bind_eq_ok h
  obtain ⟨_, h⟩ := check_bind_eq_ok h
  obtain ⟨_, _, h⟩ := accept_bind_eq_ok h
  obtain ⟨_, _, h⟩ := accept_bind_eq_ok h
  cases h
  obtain ⟨hlength, hall⟩ := many_eq_ok hregisters
  have hle : regCount.toNat ≤ 1024 := of_decide_eq_true hcount
  refine ⟨hlength.trans_le hle, fun entry hmem => ?_⟩
  obtain ⟨front, back, hentry⟩ := hall entry hmem
  obtain ⟨nameLen, _, _, hentry⟩ := bind_eq_ok hentry
  obtain ⟨hname, hentry⟩ := check_bind_eq_ok hentry
  obtain ⟨name, _, htake, hentry⟩ := bind_eq_ok hentry
  iterate 3 obtain ⟨_, _, _, hentry⟩ := bind_eq_ok hentry
  obtain ⟨_, hentry⟩ := check_bind_eq_ok hentry
  obtain ⟨_, _, _, hentry⟩ := bind_eq_ok hentry
  cases hentry
  have hle' : nameLen.toNat ≤ 256 := of_decide_eq_true hname
  exact (length_of_take htake).trans_le hle'

/-- Runs that start where nothing is mapped are refused. -/
theorem mapped_of_readPools {store : MemoryStorage w} {previous : ℕ}
    {after left : List (BitVec 8)} {pools : List (PoolSnapshot w)}
    (h : readPools path entries.length previous (entries.flatMap (poolBytes store) ++ after) =
      .ok (pools, left)) : ∀ entry ∈ entries, store.accessAt entry.1 ≠ .unmapped := by
  induction entries generalizing previous pools left with
  | nil => exact fun entry hmem => absurd hmem List.not_mem_nil
  | cons entry rest ih =>
    rw [List.flatMap_cons] at h
    unfold poolBytes at h
    rw [List.append_assoc, List.append_assoc, List.append_assoc] at h
    change (word (truncated path) w.address >>= _) _ = _ at h
    rw [bind_ok (reads_word _ _ _)] at h
    rw [bind_ok (reads_u64 _ _ _)] at h
    rw [bind_ok (reads_u8 _ _ _)] at h
    obtain ⟨_, h⟩ := check_bind_eq_ok h
    obtain ⟨access, haccess, h⟩ := accept_bind_eq_ok h
    obtain ⟨others, _, hothers, _⟩ := bind_eq_ok h
    intro following hmem
    rcases List.mem_cons.mp hmem with rfl | hrest
    · intro hunmapped
      rw [MemAccess.ofRehydrateByte_toByte, if_pos hunmapped] at haccess
      cases haccess
    · exact ih hothers following hrest

/-- What a loaded file says about the runs it was written from. -/
theorem pools_of_read {left : List (BitVec 8)}
    (hsize : s.mem.length * w.data ≤ maxSnapshotMemoryBytes) (hregisters : registers.length ≤ 1024)
    (hnames : ∀ entry ∈ registers, entry.name.length ≤ 256)
    (h : readSnapshot path coreId (fileBytes registers s coreId) = .ok (loaded, left)) :
    s.pool.length ≤ 65536 ∧ (∀ run ∈ s.runs, run.length < w.space) ∧
      (∀ run ∈ s.runs, s.store.accessAt run.start ≠ .unmapped) ∧
      loaded.storage = rebuiltStore s := by
  have hmem := length_mem_le hsize
  have hlimit : maxSnapshotMemoryBytes = 64 * 1024 * 1024 := rfl
  have hpool := length_pool_le s.laid
  have hregCount : (BitVec.ofNat 64 registers.length).toNat = registers.length :=
    Nat.mod_eq_of_lt (by omega)
  have hpoolCount : (BitVec.ofNat 64 s.pool.length).toNat = s.pool.length :=
    Nat.mod_eq_of_lt (by omega)
  have hmemSize : (BitVec.ofNat 64 (s.mem.length * w.data)).toNat = s.mem.length * w.data :=
    Nat.mod_eq_of_lt (by omega)
  have hreadRegs := reads_many (f := registerBytes) (g := saved) registers
    fun entry hmem => reads_register path (hnames entry hmem)
  have hreadMem := reads_many (r := word (truncated path) w.data) (g := id)
    s.mem fun value _ => reads_word (truncated path) value
  rw [List.map_id] at hreadMem
  unfold fileBytes at h
  change (take (truncated path) 4 >>= _) _ = _ at h
  have htag : Reads (take (truncated path) 4) magic magic := reads_take _ magic
  rw [bind_ok (htag _)] at h
  obtain ⟨_, h⟩ := check_bind_eq_ok h
  rw [bind_ok (reads_u32 _ _ _)] at h
  obtain ⟨_, h⟩ := check_bind_eq_ok h
  rw [bind_ok (reads_u32 _ _ _)] at h
  obtain ⟨_, h⟩ := check_bind_eq_ok h
  rw [bind_ok (reads_u64 _ _ _)] at h
  obtain ⟨_, h⟩ := check_bind_eq_ok h
  rw [hregCount, bind_ok (hreadRegs _), bind_ok (reads_u64 _ _ _)] at h
  obtain ⟨hpools, h⟩ := check_bind_eq_ok h
  have hpools_le : (BitVec.ofNat 64 s.pool.length).toNat ≤ 65536 := of_decide_eq_true hpools
  rw [hpoolCount] at h hpools_le
  obtain ⟨pools, _, hread, h⟩ := bind_eq_ok h
  have hmapped := mapped_of_readPools hread
  have hreadPools := reads_pools path s.store s.laid (by omega : s.mem.length < 2 ^ 64)
    (Nat.zero_le _) hmapped
  rw [hreadPools] at hread
  cases hread
  rw [bind_ok (reads_u64 _ _ _)] at h
  obtain ⟨_, h⟩ := check_bind_eq_ok h
  obtain ⟨_, h⟩ := check_bind_eq_ok h
  rw [hmemSize, Nat.mul_div_cancel _ w.data_pos] at h
  have hlast := hreadMem []
  rw [List.append_nil] at hlast
  rw [bind_ok hlast] at h
  obtain ⟨_, h⟩ := check_bind_eq_ok h
  obtain ⟨blocks, hblocks, h⟩ := accept_bind_eq_ok h
  have hfits := fits_of_segments s.laid hblocks
  rw [segments_eq_ok s.store s.laid hfits] at hblocks
  cases hblocks
  obtain ⟨storage, hstorage, h⟩ := accept_bind_eq_ok h
  have hrebuilt := rehydrate_rebuilt (by omega : s.mem.length < 2 ^ 64) hfits
  change MemoryStorage.rehydrate s.mem (s.runs.map (rebuilt s.store)) = _ at hstorage
  rw [hrebuilt] at hstorage
  cases hstorage
  cases h
  refine ⟨hpools_le, hfits, ?_, rfl⟩
  exact (forall_start_iff (P := fun start => s.store.accessAt start ≠ .unmapped) _ _).mpr hmapped

theorem reloadable_of_roundTrips (hsave : saveToDisk registers s coreId = .ok file)
    (h : RoundTrips path registers s coreId file) : Reloadable registers s := by
  obtain ⟨rfl, hsize⟩ := saveToDisk_eq_ok hsave
  obtain ⟨loaded, hload, hsame, hshows⟩ := h.loads
  have hread := readSnapshot_of_load hload
  obtain ⟨hregisters, hnames⟩ := registers_of_read hread
  rw [hsame, List.length_map] at hregisters
  rw [hsame, List.forall_mem_map] at hnames
  obtain ⟨hpools, hfits, hmapped, hstorage⟩ := pools_of_read hsize hregisters hnames hread
  refine ⟨hregisters, hnames, hpools, hfits, hmapped, fun run hrun at' hholds => ?_⟩
  have hlookup := SnapshotStorage.lookup_of_holds s.laid hrun hholds
  obtain ⟨value, hvalue⟩ := SnapshotStorage.captured_of_lookup hlookup
  have hrights := (hshows.captured at' value hvalue).1
  have haccess := accessAt_rebuilt s.store s.mem hfits at'
  rw [hlookup] at haccess
  rw [hstorage] at hrights
  exact hrights.symm.trans haccess

theorem roundTrips_of_reloadable (path : String)
    (hsave : saveToDisk registers s coreId = .ok file) (h : Reloadable registers s) :
    RoundTrips path registers s coreId file := by
  obtain ⟨rfl, hsize⟩ := saveToDisk_eq_ok hsave
  have hload : loadSnapshot path (fileBytes registers s coreId) coreId =
      .ok ⟨rebuiltStore s, registers.map saved, coreId⟩ := by
    unfold loadSnapshot
    rw [readSnapshot_fileBytes path coreId h hsize]
  refine ⟨⟨_, hload, rfl, shows_rebuiltStore h⟩, ?_, ?_⟩
  · intro front back hsplit hback
    rw [hsplit] at hload
    exact loadSnapshot_front hload hback
  · intro more hmore
    exact loadSnapshot_more hload hmore

/-- A written snapshot comes back from its file, and from nothing shorter or longer, just when
its counts are within the loader's limits and each run is shorter than the address space and
has the access rights of its first address, which is mapped. -/
theorem loadSnapshot_saveToDisk_iff (path : String) (registers : List (RegisterEntry w))
    (s : SnapshotStorage w) (coreId : BitVec 32) (file : List (BitVec 8))
    (hsave : saveToDisk registers s coreId = .ok file) :
    RoundTrips path registers s coreId file ↔ Reloadable registers s :=
  ⟨reloadable_of_roundTrips hsave, roundTrips_of_reloadable path hsave⟩

/-- Sixteen-bit addresses and registers over bytes. -/
def byteSizes : WordSizes := ⟨2, 1, 2, Nat.one_pos⟩

/-- Writable memory below address 16 and read-only memory from there on. -/
def splitStore : MemoryStorage byteSizes :=
  (MemoryStorage.addMemBlock {} ⟨0x00, 0x10, .readWrite⟩).addMemBlock ⟨0x10, 0x10, .read⟩

/-- Two elements written into the writable memory. -/
def insideSnapshot : SnapshotStorage byteSizes :=
  ((SnapshotStorage.new splitStore).write [0x11, 0x22] 0x02).1

/-- Two elements written across the boundary. -/
def acrossSnapshot : SnapshotStorage byteSizes :=
  ((SnapshotStorage.new splitStore).write [0x11, 0x22] 0x0F).1

theorem insideSnapshot_runs : insideSnapshot.runs = [⟨0x02, 0, 2⟩] := rfl

theorem acrossSnapshot_runs : acrossSnapshot.runs = [⟨0x0F, 0, 2⟩] := rfl

theorem loadSnapshot_saveToDisk_inside :
    RoundTrips "snap" [] insideSnapshot 1 (fileBytes [] insideSnapshot 1) := by
  refine (loadSnapshot_saveToDisk_iff "snap" [] insideSnapshot 1 _ rfl).mpr
    ⟨by decide, fun entry hmem => absurd hmem List.not_mem_nil, by decide, ?_, ?_, ?_⟩
  · rw [insideSnapshot_runs]
    intro run hrun
    rw [List.mem_singleton.mp hrun]
    decide
  · rw [insideSnapshot_runs]
    intro run hrun
    rw [List.mem_singleton.mp hrun]
    decide
  · rw [insideSnapshot_runs]
    intro run hrun at' hholds
    rw [List.mem_singleton.mp hrun] at *
    simp only [Run.holds, Bool.and_eq_true, decide_eq_true_eq] at hholds
    have hstart : BitVec.toNat (0x02 : byteSizes.Address) = 2 := rfl
    rw [hstart] at hholds
    rcases (by omega : at'.toNat = 2 ∨ at'.toNat = 3) with h | h
    · rw [show at' = 0x02 from BitVec.eq_of_toNat_eq h]
    · rw [show at' = 0x03 from BitVec.eq_of_toNat_eq h]
      rfl

/-- A run across regions of different rights comes back with those of its first address. -/
theorem acrossSnapshot_not_roundTrips :
    saveToDisk [] acrossSnapshot 1 = .ok (fileBytes [] acrossSnapshot 1) ∧
      ¬RoundTrips "snap" [] acrossSnapshot 1 (fileBytes [] acrossSnapshot 1) := by
  refine ⟨rfl, fun h => ?_⟩
  have hrights := (reloadable_of_roundTrips rfl h).rights ⟨0x0F, 0, 2⟩
    (by rw [acrossSnapshot_runs]; exact List.mem_singleton.mpr rfl) 0x10 rfl
  exact absurd hrights (by decide)

end DebugSnapshotManager

end ProtoTime.Memory
