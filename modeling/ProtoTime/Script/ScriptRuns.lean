import ProtoTime.Debug.ControlRuns
import ProtoTime.GameBoy.RegisterSync
import ProtoTime.Script.ScriptService
import Mathlib.Tactic.SplitIfs

/-!
Scripts against the debugger they stage their recipes for: what an accepted recipe leaves in a
machine, and which bytes a script reads as the machine will hold them.
-/
namespace ProtoTime.Script

open Debug (Address Byte Registers Command Reply ByteEdit DebugMachine DebugService EditView
  EditsExactly Observed gameBoyDebug gameBoyView gameGearDebug gameGearView)
open Transition

variable {M : Type} (H : Host)

/-! ## What an address holds -/

/-- What an inspection shows, or the byte behind an address it does not show. -/
def held (D : DebugMachine M) (V : EditView M) (m : M) (address : Address) : Byte :=
  (D.debugPeek m address).getD (V.byte m address)

/-- Inspections of a machine see its edits, and only them. -/
structure PeeksExactly (D : DebugMachine M) (V : EditView M) (P : M → Prop) : Prop where
  shares_self : ∀ {m a}, D.debugWritable m a = true → V.shares a a = true
  held_commitByte : ∀ {m a v} b, P m → D.debugWritable m a = true →
    held D V (D.debugCommitByte m a v) b = if V.shares a b then v else held D V m b
  held_commitRegisters : ∀ m r b, held D V (D.debugCommitRegisters m r) b = held D V m b
  held_edited : ∀ m b, held D V (D.debugEdited m) b = held D V m b
  kept : ∀ {m} a v, P m → P (D.debugCommitByte m a v)

variable {address : Address}

section Edits

variable {D : DebugMachine M} {V : EditView M} {P : M → Prop} {edits : List ByteEdit}

theorem held_commitBytes (hedits : EditsExactly D V) (hpeeks : PeeksExactly D V P) {m : M}
    (hm : P m) (hwritable : ∀ e ∈ edits, D.debugWritable m e.address = true) (b : Address) :
    held D V (edits.foldl (fun m e => D.debugCommitByte m e.address e.value) m) b
      = V.written edits (held D V m b) b := by
  induction edits generalizing m with
  | nil => rfl
  | cons e edits ih =>
    have hrest : ∀ x ∈ edits,
        D.debugWritable (D.debugCommitByte m e.address e.value) x.address = true := by
      intro x hx
      rw [hedits.writable_commitByte]
      exact hwritable x (List.mem_cons_of_mem e hx)
    rw [List.foldl_cons, ih (hpeeks.kept e.address e.value hm) hrest,
      hpeeks.held_commitByte b hm (hwritable e List.mem_cons_self)]
    rfl

/-- What an accepted edit leaves at an address. -/
theorem held_apply (hedits : EditsExactly D V) (hpeeks : PeeksExactly D V P)
    {s : DebugService M} {c : Command} (hs : P s.machine) (hop : c.operation = .edit)
    (haccepted : (s.apply D c).1.error = .none) (b : Address) :
    held D V (s.apply D c).2.machine b = V.written c.edits (held D V s.machine b) b := by
  obtain ⟨-, hwritable, hmachine⟩ := DebugService.edit_accepted hop haccepted
  have hbytes := held_commitBytes hedits hpeeks hs hwritable b
  rw [hmachine]
  split
  · rw [hpeeks.held_edited]
    unfold DebugService.commitEdit
    split
    · rw [hpeeks.held_commitRegisters, hbytes]
    · exact hbytes
  · next hnothing =>
    rw [not_or, not_not] at hnothing
    have hnone : c.edits = [] := by
      unfold Command.edits
      rw [hnothing.1]
      rfl
    rw [hnone]
    rfl

/-- No write through another address of the same byte stands after the last write to this
address. -/
def Unaliased (V : EditView M) (edits : List ByteEdit) (address : Address) : Prop :=
  ∀ before e after, edits = before ++ e :: after → V.shares e.address address = true →
    e.address = address ∨ ∃ later ∈ after, later.address = address

theorem Unaliased.init {e : ByteEdit}
    (h : Unaliased V (edits ++ [e]) address) (hne : e.address ≠ address) :
    Unaliased V edits address := by
  intro before x after hsplit hshares
  rcases h before x (after ++ [e]) (by rw [hsplit]; simp) hshares with hsame | ⟨later, hmem, hlater⟩
  · exact .inl hsame
  · rcases List.mem_append.mp hmem with hafter | hlast
    · exact .inr ⟨later, hafter, hlater⟩
    · rw [List.mem_singleton.mp hlast] at hlater
      exact absurd hlater hne

/-- The last write to an address decides what it holds, where nothing aliases it. -/
theorem written_of_unaliased (old : Byte) (hself : ∀ e ∈ edits, V.shares e.address e.address = true)
    (h : Unaliased V edits address) :
    V.written edits old address
      = ((edits.reverse.find? (·.address == address)).map ByteEdit.value).getD old := by
  induction edits using List.reverseRecOn with
  | nil => rfl
  | append_singleton edits e ih =>
    have hstep : V.written (edits ++ [e]) old address
        = if V.shares e.address address then e.value else V.written edits old address := by
      unfold EditView.written
      rw [List.foldl_append]
      rfl
    rw [hstep, List.reverse_append, List.reverse_singleton, List.singleton_append,
      List.find?_cons]
    by_cases hsame : e.address = address
    · have hshares := hself e (by simp)
      rw [hsame] at hshares
      rw [hsame, if_pos hshares, beq_self_eq_true]
      rfl
    · have hunshared : ¬ V.shares e.address address = true := by
        intro hshares
        rcases h edits e [] rfl hshares with hequal | ⟨later, hmem, -⟩
        · exact hsame hequal
        · exact absurd hmem List.not_mem_nil
      rw [if_neg hunshared, beq_eq_false_iff_ne.mpr hsame]
      exact ih (fun x hx => hself x (by simp [hx])) (h.init hsame)

end Edits

/-! ## Snapshots -/

def Taken (D : DebugMachine M) (s : DebugService M) (snapshot : Snapshot) : Prop :=
  ∃ c : Command, c.operation = .inspect ∧ c.address = snapshot.memoryBase
    ∧ (s.apply D c).1.error = .none ∧ snapshot.state = (s.apply D c).1

structure Shows (D : DebugMachine M) (s : DebugService M) (snapshot : Snapshot) : Prop where
  state : snapshot.state.state = s.state
  generation : snapshot.state.generation = s.generation
  pauseId : snapshot.state.pauseId = s.pauseId
  registers : snapshot.state.registers = D.debugRegisters s.machine
  memory : ∀ i v, snapshot.state.memory[i]? = some v →
    D.debugPeek s.machine (snapshot.memoryBase + BitVec.ofNat 16 i) = some v

theorem mapM_getElem? {α β : Type} {f : α → Option β} {xs : List α} {ys : List β}
    (h : xs.mapM f = some ys) {i : ℕ} {y : β} (hy : ys[i]? = some y) :
    ∃ x, xs[i]? = some x ∧ f x = some y := by
  induction xs generalizing ys i with
  | nil =>
    cases h
    cases hy
  | cons x xs ih =>
    rw [List.mapM_cons] at h
    cases hx : f x with
    | none =>
      rw [hx] at h
      cases h
    | some first =>
      cases hxs : xs.mapM f with
      | none =>
        rw [hx, hxs] at h
        cases h
      | some rest =>
        rw [hx, hxs] at h
        cases h
        cases i with
        | zero =>
          cases hy
          exact ⟨x, rfl, hx⟩
        | succ i => exact ih hxs hy

theorem Taken.shows {D : DebugMachine M} {s : DebugService M} {snapshot : Snapshot}
    (h : Taken D s snapshot) : Shows D s snapshot := by
  obtain ⟨c, hop, haddress, haccepted, hstate⟩ := h
  obtain ⟨memory, hperform⟩ := DebugService.perform_of_accepted haccepted
  have hreply : (s.apply D c).1 = { s.snapshot D c.id with memory := memory }
      ∧ (s.inspect D c) = .ok memory := by
    have hoperate := DebugService.perform_eq_ok hperform
    unfold DebugService.operate at hoperate
    rw [hop] at hoperate
    obtain ⟨read, hread, hpair⟩ := Results.map_eq_ok hoperate
    have hmemory : read = memory := congrArg Prod.fst hpair
    have hsame : s = (s.apply D c).2 := congrArg Prod.snd hpair
    rw [hmemory] at hread
    refine ⟨?_, hread⟩
    rw [← hsame] at hperform
    unfold DebugService.apply
    rw [hperform]
  obtain ⟨happly, hinspect⟩ := hreply
  rw [happly] at hstate
  refine ⟨by rw [hstate]; rfl, by rw [hstate]; rfl, by rw [hstate]; rfl, by rw [hstate]; rfl, ?_⟩
  intro i v hv
  rw [hstate] at hv
  obtain ⟨_, _, hinspect⟩ := Results.bind_eq_ok hinspect
  obtain ⟨_, _, hinspect⟩ := Results.bind_eq_ok hinspect
  split at hinspect
  · next found hfound =>
    cases hinspect
    obtain ⟨j, hj, hpeek⟩ := mapM_getElem? hfound hv
    have hindex : j = i := by
      obtain ⟨_, hvalue⟩ := List.getElem?_eq_some_iff.mp hj
      rw [← hvalue, List.getElem_range]
    rw [← haddress, ← hindex]
    exact hpeek
  · cases hinspect

theorem add_ofNat_sub (base address : Address) :
    base + BitVec.ofNat 16 (address - base).toNat = address := by
  rw [BitVec.ofNat_toNat, BitVec.setWidth_eq, BitVec.add_comm, BitVec.sub_add_cancel]

/-! ## What a script was allowed to change -/

/-- The invocation a script starts with. -/
abbrev began (snapshot : Snapshot) (permissions : Permissions) (limits : Limits) : Invocation :=
  .create snapshot permissions limits

/-- Every written register and byte has its last written value, and nothing else has changed. -/
structure Committed (D : DebugMachine M) (V : EditView M) (core : String) (m next : M)
    (calls : List Call) : Prop where
  registers : ∀ pair,
    D.debugRegisters next pair = lastRegister core pair (D.debugRegisters m pair) calls
  bytes : ∀ b, V.byte next b = V.written (byteWrites calls) (V.byte m b) b
  rest : V.erase next = V.erase m

/-- A script that makes these calls and has this result changes what it was allowed to change,
and reads what it changes. -/
structure Exact (D : DebugMachine M) (V : EditView M) (s : DebugService M) (inv : Invocation)
    (made : Except String (List Call)) (result : Result) : Prop where
  allowed : result.success = true → ∃ calls, made = .ok calls
    ∧ ∀ before c after, calls = before ++ c :: after → (inv.run before).Allows c
  readBack : ∀ calls before address after v, made = .ok calls →
    calls = before ++ .getByte address :: after → (inv.run before).getByte address = some v →
    (s.apply D (inv.run before).staged).1.error = .none →
    held D V (s.apply D (inv.run before).staged).2.machine address = v
  committed : ∀ calls, result.success = true → made = .ok calls →
    (s.apply D result.staged).1.error = .none →
    Committed D V inv.snapshot.core s.machine (s.apply D result.staged).2.machine calls
  accepted : ∀ calls, result.success = true → made = .ok calls →
    (∀ e ∈ byteWrites calls, D.debugWritable s.machine e.address = true) →
    (calls.any Call.isSetRegister = true →
      D.debugValidateRegisters result.staged.registers = true) →
    (s.apply D result.staged).1.error = .none
  refused : (s.apply D result.staged).1.error ≠ .none →
    (s.apply D result.staged).2 = { s with rejectedActions := s.rejectedActions + 1 }
  stale : result.success = true →
    ∀ t : DebugService M, t.generation ≠ s.generation ∨ t.pauseId ≠ s.pauseId →
      (t.apply D result.staged).1.error ≠ .none
        ∧ (t.apply D result.staged).2 = { t with rejectedActions := t.rejectedActions + 1 }

def ScriptExact (D : DebugMachine M) (V : EditView M) (s : DebugService M) (language : Language)
    (source : Text) (snapshot : Snapshot) (permissions : Permissions) (limits : Limits) : Prop :=
  Exact D V s (began snapshot permissions limits)
    (callsOf H language source (began snapshot permissions limits))
    (evaluate H language source snapshot permissions limits)

/-- Every byte a script reads has its last write, if any, through the address it is read at. -/
def ReadsUnaliased (V : EditView M) (language : Language) (source : Text) (inv : Invocation) :
    Prop :=
  ∀ calls before address after, callsOf H language source inv = .ok calls →
    calls = before ++ .getByte address :: after →
    Unaliased V (inv.run before).staged.edits address

section Commits

variable {D : DebugMachine M} {V : EditView M} {P : M → Prop} {s : DebugService M}

/-- A checked edit of the present generation and pause is accepted. -/
theorem edit_of_checked {c : Command} (hop : c.operation = .edit)
    (hstate : s.state = .paused) (hgeneration : c.generation = s.generation)
    (hpause : c.pauseId = s.pauseId) (hcount : c.byteCount.toNat ≤ 64)
    (hvalid : c.editRegisters = true → D.debugValidateRegisters c.registers = true)
    (hwritable : ∀ e ∈ c.edits, D.debugWritable s.machine e.address = true) :
    (s.apply D c).1.error = .none := by
  have hcheck : s.checkCommand c = .ok () := by
    unfold DebugService.checkCommand
    rw [hstate, hop, hgeneration, hpause]
    simp [Results.require]
    rfl
  have hregisters : (decide (c.byteCount.toNat ≤ 64)
      && (!c.editRegisters || D.debugValidateRegisters c.registers)) = true := by
    rw [decide_eq_true hcount, Bool.true_and]
    cases hflag : c.editRegisters with
    | false => rfl
    | true => exact hvalid hflag
  have hedit : ∃ t, s.edit D c = .ok t := by
    unfold DebugService.edit
    rw [Results.ok_bind (Results.require_true _ (by rw [hstate]; rfl)),
      Results.ok_bind (Results.require_true _ hregisters),
      Results.ok_bind (Results.require_true _ (List.all_eq_true.mpr hwritable))]
    exact ⟨_, rfl⟩
  obtain ⟨t, ht⟩ := hedit
  have hperform : s.perform D c = .ok ([], t) := by
    unfold DebugService.perform DebugService.operate
    rw [Results.ok_bind hcheck, hop, ht]
    rfl
  unfold DebugService.apply
  rw [hperform]
  rfl

/-- A byte read through the address of its last write is the byte that will be there. -/
theorem getByte_held (hedits : EditsExactly D V) (hpeeks : PeeksExactly D V P)
    {inv : Invocation} {v : Byte} (hs : P s.machine)
    (hshows : Shows D s inv.snapshot) (hop : inv.staged.operation = .edit)
    (hunaliased : Unaliased V inv.staged.edits address) (hread : inv.getByte address = some v)
    (haccepted : (s.apply D inv.staged).1.error = .none) :
    held D V (s.apply D inv.staged).2.machine address = v := by
  obtain ⟨-, hwritable, -⟩ := DebugService.edit_accepted hop haccepted
  have hself : ∀ e ∈ inv.staged.edits, V.shares e.address e.address = true :=
    fun e he => hpeeks.shares_self (hwritable e he)
  rw [held_apply hedits hpeeks hs hop haccepted, written_of_unaliased _ hself hunaliased]
  unfold Invocation.getByte at hread
  split at hread
  · next e hfound =>
    rw [hfound]
    exact Option.some.inj hread
  · next hnone =>
    rw [hnone]
    split at hread
    · cases hread
    · have hpeek := hshows.memory _ v hread
      rw [add_ofNat_sub] at hpeek
      unfold held
      rw [hpeek]
      rfl

theorem exact_of_unaliased (hedits : EditsExactly D V) (hpeeks : PeeksExactly D V P)
    {language : Language} {source : Text} {snapshot : Snapshot}
    {permissions : Permissions} {limits : Limits} (hs : P s.machine) (htaken : Taken D s snapshot)
    (hreads : ReadsUnaliased H V language source (began snapshot permissions limits)) :
    ScriptExact H D V s language source snapshot permissions limits := by
  have hshows := htaken.shows
  have hbounded : (began snapshot permissions limits).staged.byteCount.toNat ≤ 64 := by
    show (0 : BitVec 16).toNat ≤ 64
    decide
  have hrun : ∀ calls, (evaluate H language source snapshot permissions limits).success = true →
      callsOf H language source (began snapshot permissions limits) = .ok calls →
      ((began snapshot permissions limits).run calls).failed = false
        ∧ (evaluate H language source snapshot permissions limits).staged
          = ((began snapshot permissions limits).run calls).staged := by
    intro calls hsuccess hcalls
    obtain ⟨made, hmade, hresult⟩ := evaluate_success H hsuccess
    rw [hcalls] at hmade
    cases hmade
    exact hresult
  constructor
  · intro hsuccess
    obtain ⟨calls, hcalls, hfailed, -⟩ := evaluate_success H hsuccess
    exact ⟨calls, hcalls, (Invocation.run_allows hfailed).2⟩
  · intro calls before address after v hcalls hsplit hread haccepted
    have hsame := Invocation.run_sameRequest (began snapshot permissions limits) before
    refine getByte_held hedits hpeeks hs ?_ hsame.operation
      (hreads calls before address after hcalls hsplit) hread haccepted
    rw [hsame.snapshot]
    exact hshows
  · intro calls hsuccess hcalls haccepted
    obtain ⟨hfailed, hstaged⟩ := hrun calls hsuccess hcalls
    have hsame := Invocation.run_sameRequest (began snapshot permissions limits) calls
    have hrecipe := run_staged hbounded hfailed
    rw [hstaged] at haccepted ⊢
    obtain ⟨hbytes, hregisters, herase⟩ :=
      Debug.edit_exact hedits hsame.operation haccepted
    refine ⟨?_, ?_, herase⟩
    · intro pair
      rw [hregisters]
      have hpair := hrecipe.registers pair
      rw [show (began snapshot permissions limits).staged.registers
        = D.debugRegisters s.machine from hshows.registers] at hpair
      split
      · exact hpair
      · next hflag =>
        rw [hrecipe.editRegisters, Bool.or_eq_true, not_or, Bool.not_eq_true,
          Bool.not_eq_true] at hflag
        exact (lastRegister_of_none hflag.2).symm
    · intro b
      rw [hbytes b, hrecipe.edits]
      rfl
  · intro calls hsuccess hcalls hwritable hvalid
    obtain ⟨hfailed, hstaged⟩ := hrun calls hsuccess hcalls
    have hsame := Invocation.run_sameRequest (began snapshot permissions limits) calls
    have hrecipe := run_staged hbounded hfailed
    rw [hstaged] at hvalid ⊢
    refine edit_of_checked hsame.operation ?_ (hsame.generation.trans hshows.generation)
      (hsame.pauseId.trans hshows.pauseId) hrecipe.bounded ?_ ?_
    · rw [← hshows.state]
      exact evaluate_paused H hsuccess
    · intro hflag
      rw [hrecipe.editRegisters] at hflag
      exact hvalid hflag
    · rw [hrecipe.edits]
      exact hwritable
  · exact DebugService.apply_error D s _
  · intro hsuccess t hdiffers
    obtain ⟨calls, hcalls, -, -⟩ := evaluate_success H hsuccess
    obtain ⟨-, hstaged⟩ := hrun calls hsuccess hcalls
    have hsame := Invocation.run_sameRequest (began snapshot permissions limits) calls
    rw [hstaged]
    have hstale : ((began snapshot permissions limits).run calls).staged.generation ≠ t.generation
        ∨ (((began snapshot permissions limits).run calls).staged.pauseId ≠ t.pauseId
          ∧ ((began snapshot permissions limits).run calls).staged.operation ≠ .pause
          ∧ ((began snapshot permissions limits).run calls).staged.operation ≠ .disconnect) := by
      rw [hsame.operation, hsame.generation, hsame.pauseId]
      rcases hdiffers with hgeneration | hpause
      · exact .inl (fun h => hgeneration (h.symm.trans hshows.generation))
      · refine .inr ⟨fun h => hpause (h.symm.trans hshows.pauseId), ?_, ?_⟩
        · show Debug.Operation.edit ≠ .pause
          decide
        · show Debug.Operation.edit ≠ .disconnect
          decide
    obtain ⟨e, hnamed, hcheck⟩ := DebugService.checkCommand_stale hstale
    obtain ⟨herror, hunchanged⟩ :=
      DebugService.apply_of_refused (DebugService.perform_of_checkCommand (D := D) hcheck)
    rw [herror]
    exact ⟨hnamed, hunchanged⟩

end Commits

/-! ## The two machines -/

section Machines

open GameBoy (Addr GameBoyMemoryMap resolveEchoAddress)

theorem resolveEchoAddress_not_echo (a : Addr) :
    ¬ (0xE000#16 ≤ resolveEchoAddress a ∧ resolveEchoAddress a ≤ 0xFDFF#16) := by
  unfold resolveEchoAddress
  split
  · next h =>
    simp only [BitVec.le_def, BitVec.toNat_sub] at h ⊢
    simp at h ⊢
    omega
  · next h => exact h

/-- A byte of work or high RAM is read where it is stored. -/
theorem readRaw_setCell {m : GameBoyMemoryMap} {x y : Addr} {v : Byte} (hboot : m.ShortBoot)
    (hx : Debug.editableRam x = true) (hy : ¬ (0xE000#16 ≤ y ∧ y ≤ 0xFDFF#16)) :
    (m.setCell x v).readRaw y = if x = y then v else m.readRaw y := by
  have hram : 0xC000 ≤ x.toNat ∧ x.toNat < 0xE000 ∨ 0xFF80 ≤ x.toNat ∧ x.toNat < 0xFFFF := by
    unfold Debug.editableRam at hx
    simp only [Bool.or_eq_true, Bool.and_eq_true, decide_eq_true_eq] at hx
    exact hx
  by_cases hsame : x = y
  · subst hsame
    have hcell : (m.setCell x v).cells x = v := if_pos rfl
    have hsize : (m.setCell x v).bootRom.length ≤ 0x100 := hboot
    unfold GameBoyMemoryMap.readRaw
    rw [hcell]
    simp only [BitVec.le_def, BitVec.lt_def, BitVec.toNat_ofNat] at hy ⊢
    split_ifs <;> first | rfl | omega
  · rw [if_neg hsame]
    have hcell : (m.setCell x v).cells y = m.cells y := if_neg (Ne.symm hsame)
    unfold GameBoyMemoryMap.readRaw
    rw [hcell, if_neg hy, if_neg hy]
    rfl

theorem gameBoy_peeks (backing : GameBoy.GameBoyMachine → Address → BitVec 64)
    (runSlice : Observed GameBoy.GameBoyMachine
      → Debug.Slice × Observed GameBoy.GameBoyMachine) :
    PeeksExactly (gameBoyDebug backing runSlice) gameBoyView
      (fun o => o.machine.board.memoryMap.ShortBoot) where
  shares_self _ := beq_self_eq_true _
  held_commitByte := by
    intro o a v b hboot hwritable
    obtain ⟨cache, hcommit⟩ := Debug.debugCommitByte_eq o.machine.board a v
    have hram : Debug.editableRam (resolveEchoAddress a) = true := hwritable
    show (o.machine.board.debugCommitByte a v).memoryMap.readRaw (resolveEchoAddress b) = _
    rw [hcommit, Debug.debugCommitRam_eq, if_pos hram]
    rw [readRaw_setCell hboot hram (resolveEchoAddress_not_echo b)]
    show _ = if (resolveEchoAddress a == resolveEchoAddress b) = true then v
      else o.machine.board.memoryMap.readRaw (resolveEchoAddress b)
    simp only [beq_iff_eq]
  held_commitRegisters _ _ _ := rfl
  held_edited _ _ := rfl
  kept := by
    intro o a v hboot
    obtain ⟨cache, hcommit⟩ := Debug.debugCommitByte_eq o.machine.board a v
    show (o.machine.board.debugCommitByte a v).memoryMap.ShortBoot
    rw [hcommit, Debug.debugCommitRam_eq]
    split
    · exact hboot
    · exact hboot

variable {b : Addr}

theorem ramAt_high {d : GameGear.GameGearMemoryMap} (h : 0xC000#16 ≤ b) :
    d.ramAt (b.toNat - 0xC000) = d.ramAt (b &&& 0x1FFF#16).toNat := by
  have hb : 0xC000 ≤ b.toNat := h
  have hmask : (b &&& 0x1FFF#16).toNat = b.toNat % 0x2000 := by
    exact Nat.and_two_pow_sub_one_eq_mod b.toNat 13
  have hindex : Fin.ofNat 0x2000 (b.toNat - 0xC000)
      = Fin.ofNat 0x2000 (b &&& 0x1FFF#16).toNat := by
    apply Fin.ext
    rw [Fin.val_ofNat, Fin.val_ofNat, hmask]
    omega
  unfold GameGear.GameGearMemoryMap.ramAt
  rw [hindex]

variable {C : Type}

theorem peekCodeByte_high (d : GameGear.GameGearDevices C) (h : 0xC000#16 ≤ b) :
    (Debug.peekCodeByte d b).getD (d.mem.ramAt (b &&& 0x1FFF#16).toNat)
      = d.mem.ramAt (b &&& 0x1FFF#16).toNat := by
  have hb : 0xC000 ≤ b.toNat := h
  have hbios : d.mem.biosMapped b = false := by
    unfold GameGear.GameGearMemoryMap.biosMapped
    rw [decide_eq_false (p := b < 0x0400#16), Bool.false_and, Bool.false_and]
    show ¬ b.toNat < 0x400
    omega
  have hlow : ¬ b < 0xC000#16 := BitVec.not_lt.mpr h
  unfold Debug.peekCodeByte
  split
  · rfl
  · rw [hbios, if_neg Bool.false_ne_true, ramAt_high h]
    rfl

theorem peekCodeByte_low (d : GameGear.GameGearDevices C) (i : ℕ) (v : Byte) (h : ¬ 0xC000#16 ≤ b) :
    Debug.peekCodeByte { d with mem := d.mem.setRam i v } b = Debug.peekCodeByte d b := by
  have hlow : b < 0xC000#16 := BitVec.not_le.mp h
  unfold Debug.peekCodeByte
  rw [if_pos hlow, if_pos hlow]
  rfl

theorem gameGear_peeks (backing : GameGear.GameGearMachine C → Address → BitVec 64)
    (runSlice : Observed (GameGear.GameGearMachine C)
      → Debug.Slice × Observed (GameGear.GameGearMachine C)) :
    PeeksExactly (gameGearDebug backing runSlice) gameGearView (fun _ => True) where
  shares_self := by
    intro o a hwritable
    have hhigh : decide (0xC000#16 ≤ a) = true := by
      have h : Debug.gameGearWritable o.machine.cpu.bus a = true := hwritable
      unfold Debug.gameGearWritable at h
      rw [Bool.and_eq_true, Bool.and_eq_true] at h
      exact h.1.1
    show (decide (0xC000#16 ≤ a) && a &&& 0x1FFF#16 == a &&& 0x1FFF#16) = true
    rw [hhigh, beq_self_eq_true]
    rfl
  held_commitByte := by
    intro o a v b _ _
    show (Debug.peekCodeByte { o.machine.cpu.bus with
        mem := o.machine.cpu.bus.mem.setRam (a &&& 0x1FFF#16).toNat v } b).getD
          (if 0xC000#16 ≤ b then
            (o.machine.cpu.bus.mem.setRam (a &&& 0x1FFF#16).toNat v).ramAt (b &&& 0x1FFF#16).toNat
          else 0)
      = if (decide (0xC000#16 ≤ b) && a &&& 0x1FFF#16 == b &&& 0x1FFF#16) = true then v
        else (Debug.peekCodeByte o.machine.cpu.bus b).getD
          (if 0xC000#16 ≤ b then o.machine.cpu.bus.mem.ramAt (b &&& 0x1FFF#16).toNat else 0)
    by_cases hhigh : 0xC000#16 ≤ b
    · rw [if_pos hhigh, if_pos hhigh, decide_eq_true hhigh, Bool.true_and,
        peekCodeByte_high _ hhigh, peekCodeByte_high _ hhigh]
      rw [Debug.ramAt_setRam]
      simp only [beq_iff_eq]
    · rw [if_neg hhigh, if_neg hhigh, decide_eq_false hhigh, Bool.false_and,
        peekCodeByte_low _ _ _ hhigh, if_neg (by decide)]
  held_commitRegisters _ _ _ := rfl
  held_edited _ _ := rfl
  kept _ _ h := h

end Machines

/-- Every script whose reads are unaliased changes what it was allowed to change and reads what it
changes, on both machines, and the service gives its recipe out at the generation and pause the
script was run at. -/
theorem scripts_exact {C : Type} (boyBacking : GameBoy.GameBoyMachine → Address → BitVec 64)
    (boySlice : Observed GameBoy.GameBoyMachine
      → Debug.Slice × Observed GameBoy.GameBoyMachine)
    (gearBacking : GameGear.GameGearMachine C → Address → BitVec 64)
    (gearSlice : Observed (GameGear.GameGearMachine C)
      → Debug.Slice × Observed (GameGear.GameGearMachine C)) :
    (∀ s language source snapshot permissions limits,
      s.machine.machine.board.memoryMap.ShortBoot →
      Taken (gameBoyDebug boyBacking boySlice) s snapshot →
      ReadsUnaliased H gameBoyView language source (began snapshot permissions limits) →
      ScriptExact H (gameBoyDebug boyBacking boySlice) gameBoyView s language source snapshot
        permissions limits)
    ∧ (∀ s language source snapshot permissions limits,
      Taken (gameGearDebug gearBacking gearSlice) s snapshot →
      ReadsUnaliased H (gameGearView (C := C)) language source
        (began snapshot permissions limits) →
      ScriptExact H (gameGearDebug gearBacking gearSlice) gameGearView s language source snapshot
        permissions limits)
    ∧ ∀ events, ScriptService.Fresh H (run (ScriptService.step H) ScriptService.create events) := by
  refine ⟨?_, ?_, ScriptService.run_fresh H⟩
  · intro s language source snapshot permissions limits hboot htaken hreads
    exact exact_of_unaliased H (Debug.gameBoy_edits boyBacking boySlice)
      (gameBoy_peeks boyBacking boySlice) hboot htaken hreads
  · intro s language source snapshot permissions limits htaken hreads
    exact exact_of_unaliased H (Debug.gameGear_edits gearBacking gearSlice)
      (gameGear_peeks gearBacking gearSlice) trivial htaken hreads

/-! ## A byte written through its mirror -/

/-- An interpreter that makes these calls for every source. -/
def scripted (calls : List Call) : Host where
  available _ := true
  parse _ := .error "unused"
  floatIsOne _ := false
  late _ := false
  interpret _ _ _ := ⟨calls, true, false, false, ""⟩

def pausedBoy : DebugService (Observed GameBoy.GameBoyMachine) :=
  .create Debug.idleGameBoy ⟨.powerOn, 0⟩ true

def firstByte : Command :=
  { blankCommand with operation := .inspect, pauseId := 1, address := 0xC000, length := 1 }

def ramSnapshot : Snapshot := ⟨"gameboy", (pausedBoy.apply Debug.idleGameBoy firstByte).1, 0xC000⟩

def mayWrite : Permissions := ⟨false, true, true⟩

def defaultLimits : Limits := ⟨65536, 8 * 1024 * 1024, 1000000, 1000⟩

def mirrored : List Call := [.setByte 0xC000 1, .setByte 0xE000 2, .getByte 0xC000]

def mirroredSource : Text :=
  utf8 "time.write8(0xC000, 1); time.write8(0xE000, 2); time.read8(0xC000)"

def direct : List Call := [.setByte 0xC000 1, .getByte 0xC000]

def directSource : Text := utf8 "time.write8(0xC000, 1); time.read8(0xC000)"

theorem ramSnapshot_taken : Taken Debug.idleGameBoy pausedBoy ramSnapshot :=
  ⟨firstByte, rfl, rfl, rfl, rfl⟩

/-- The script reads the byte it wrote first; the machine will hold the one it wrote last. -/
theorem not_scriptExact_mirrored : ¬ ScriptExact (scripted mirrored) Debug.idleGameBoy
    gameBoyView pausedBoy .javaScript mirroredSource ramSnapshot mayWrite defaultLimits := by
  intro h
  have hheld := h.readBack mirrored [.setByte 0xC000 1, .setByte 0xE000 2] 0xC000 [] 1 rfl rfl
    (by decide) (by decide +kernel)
  revert hheld
  decide

theorem direct_unaliased : ReadsUnaliased (scripted direct) gameBoyView .javaScript directSource
    (began ramSnapshot mayWrite defaultLimits) := by
  intro calls before address after hcalls hsplit
  cases hcalls
  rcases before with _ | ⟨first, _ | ⟨second, before⟩⟩
  · cases hsplit
  · cases hsplit
    have hedits : ((began ramSnapshot mayWrite defaultLimits).run
        [.setByte 0xC000 1]).staged.edits = [⟨0xC000, 1⟩] := rfl
    intro before e after hedit _
    rw [hedits] at hedit
    have hmem : e ∈ [(⟨0xC000, 1⟩ : ByteEdit)] := by
      rw [hedit]
      simp
    rw [List.mem_singleton.mp hmem]
    exact .inl rfl
  · have hlength : direct.length
        = (first :: second :: before ++ .getByte address :: after).length :=
      congrArg List.length hsplit
    have htwo : direct.length = 2 := rfl
    simp only [List.length_append, List.length_cons] at hlength
    omega

theorem scriptExact_direct : ScriptExact (scripted direct) Debug.idleGameBoy
    gameBoyView pausedBoy .javaScript directSource ramSnapshot mayWrite defaultLimits := by
  have hboot : pausedBoy.machine.machine.board.memoryMap.bootRom.length ≤ 0x100 :=
    Nat.zero_le 0x100
  exact (scripts_exact (C := Unit) (scripted direct) (fun _ _ => 0)
    (fun o => (⟨false, 1, []⟩, o)) (fun _ _ => 0) (fun o => (⟨false, 1, []⟩, o))).1
    pausedBoy .javaScript directSource ramSnapshot mayWrite defaultLimits hboot ramSnapshot_taken
    direct_unaliased

end ProtoTime.Script
