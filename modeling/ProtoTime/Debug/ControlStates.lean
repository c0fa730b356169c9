import ProtoTime.Debug.Lanes

/-!
What the states of the debugger service promise over whole runs: nothing retires outside
`Running`, a fault and a disconnect last, and an edit writes what it names or nothing.
-/
namespace ProtoTime.Debug

open Transition

variable {M : Type}

/-! ## A refused command -/

namespace DebugService

variable (D : DebugMachine M)

theorem apply_error (s : DebugService M) (c : Command)
    (h : (s.apply D c).1.error ≠ .none) :
    (s.apply D c).2 = { s with rejectedActions := s.rejectedActions + 1 } := by
  unfold apply at *
  split at h
  · exact absurd rfl h
  · rfl

variable {s : DebugService M} {c : Command} {e : Error}

theorem apply_of_refused {D : DebugMachine M} (h : s.perform D c = .error e) :
    (s.apply D c).1.error = e
      ∧ (s.apply D c).2 = { s with rejectedActions := s.rejectedActions + 1 } := by
  unfold apply
  rw [h]
  exact ⟨rfl, rfl⟩

theorem perform_of_checkCommand {D : DebugMachine M}
    (h : s.checkCommand c = .error e) : s.perform D c = .error e := by
  unfold perform
  rw [h]
  rfl

theorem checkCommand_detached (c : Command) (h : s.state = .detached) :
    s.checkCommand c = .error .detached := by
  unfold checkCommand
  rw [h]
  rfl

theorem checkCommand_faulted (h : s.state = .faulted)
    (hop : c.operation ≠ .disconnect) : s.checkCommand c = .error .fault := by
  unfold checkCommand
  rw [h]
  show (Results.require (false || c.operation == .disconnect) Error.fault >>= fun _ => _) = _
  rw [Results.require_false _ (by rw [Bool.false_or]; exact beq_false_of_ne hop)]
  rfl

/-- A command of another generation, or of another pause where the pause matters, is refused. -/
theorem checkCommand_stale (h : c.generation ≠ s.generation
      ∨ (c.pauseId ≠ s.pauseId ∧ c.operation ≠ .pause ∧ c.operation ≠ .disconnect)) :
    ∃ e, e ≠ Error.none ∧ s.checkCommand c = .error e := by
  unfold checkCommand
  cases hdetached : s.state != .detached with
  | false =>
    exact ⟨.detached, by decide, rfl⟩
  | true =>
    cases hfault : (s.state != .faulted || c.operation == .disconnect) with
    | false =>
      refine ⟨.fault, by decide, ?_⟩
      rfl
    | true =>
      refine ⟨.stale, by decide, ?_⟩
      rcases h with hgeneration | ⟨hpause, hop, hop'⟩
      · rw [Results.require_false _ (beq_false_of_ne hgeneration)]
        rfl
      · cases hgeneration : c.generation == s.generation with
        | false =>
          rfl
        | true =>
          rw [Results.require_true _ rfl, beq_false_of_ne hop, beq_false_of_ne hop',
            beq_false_of_ne hpause]
          rfl

/-! ## The state after a command -/

theorem synchronize_of_current {D : DebugMachine M}
    (h : s.generation = D.observationGeneration s.machine) : s.synchronize D = s := by
  unfold synchronize
  rw [if_pos h]

theorem apply_detached (c : Command) (h : s.state = .detached) : (s.apply D c).1.error = .detached
      ∧ (s.apply D c).2 = { s with rejectedActions := s.rejectedActions + 1 } :=
  apply_of_refused (perform_of_checkCommand (checkCommand_detached c h))

theorem apply_faulted (c : Command) (h : s.state = .faulted) : (s.apply D c).2.state = .faulted
      ∨ (c.operation = .disconnect ∧ (s.apply D c).2.state = .detached) := by
  by_cases hop : c.operation = .disconnect
  · unfold apply
    split
    · next memory t hok =>
      obtain ⟨u, -, hok⟩ := Results.bind_eq_ok hok
      unfold operate at hok
      rw [hop] at hok
      cases hok
      exact .inr ⟨hop, rfl⟩
    · exact .inl h
  · left
    rw [(apply_of_refused (perform_of_checkCommand (D := D) (checkCommand_faulted h hop))).2]
    exact h

/-! ## Edits -/

theorem perform_eq_ok {D : DebugMachine M} {t : DebugService M}
    {memory : List Byte} (h : s.perform D c = .ok (memory, t)) :
    s.operate D c = .ok (memory, t) := by
  obtain ⟨u, -, h⟩ := Results.bind_eq_ok h
  exact h

theorem synchronize_machine (s : DebugService M) : (s.synchronize D).machine = s.machine := by
  unfold synchronize
  split
  · rfl
  · rfl

/-- A refusal that says why. -/
def Named {α : Type} (x : Except Error α) : Prop := ∀ e, x = .error e → e ≠ .none

variable {α : Type}

theorem Named.ok (a : α) : Named (.ok a) := by
  intro e he
  cases he

theorem Named.require (condition : Bool) (h : e ≠ .none) : Named (Results.require condition e) := by
  intro e' he'
  unfold Results.require at he'
  split at he'
  · cases he'
  · rw [← Except.error.inj he']
    exact h

theorem Named.bind {β : Type} {x : Except Error α} {f : α → Except Error β} (hx : Named x)
    (hf : ∀ a, Named (f a)) : Named (x >>= f) := by
  intro e he
  cases x with
  | ok a => exact hf a e he
  | error e' =>
    cases he
    exact hx e rfl

theorem Named.map {β : Type} {x : Except Error α} {f : α → β} (hx : Named x) : Named (x.map f) := by
  intro e he
  cases x with
  | ok a => cases he
  | error e' =>
    cases he
    exact hx e rfl

theorem named_checkCommand (s : DebugService M) (c : Command) : Named (s.checkCommand c) := by
  iterate 3 refine (Named.require _ (by decide)).bind fun _ => ?_
  exact Named.require _ (by decide)

theorem named_operate (s : DebugService M) (c : Command) : Named (s.operate D c) := by
  have hresume : Named (s.resume c) := by
    refine (Named.require _ (by decide)).bind fun _ => ?_
    refine (Named.require _ (by decide)).bind fun _ => ?_
    exact Named.ok _
  unfold operate
  split
  · exact hresume.map
  · exact hresume.map
  · exact Named.ok _
  · apply Named.map
    iterate 4 refine (Named.require _ (by decide)).bind fun _ => ?_
    exact Named.ok _
  · apply Named.map
    iterate 3 refine (Named.require _ (by decide)).bind fun _ => ?_
    exact Named.ok _
  · apply Named.map
    refine (Named.require _ (by decide)).bind fun _ => ?_
    refine (Named.require _ (by decide)).bind fun _ => ?_
    split
    · exact Named.ok _
    · intro e he
      cases he
      decide
  · exact Named.ok _

theorem perform_of_accepted {D : DebugMachine M} (h : (s.apply D c).1.error = .none) :
    ∃ memory, s.perform D c = .ok (memory, (s.apply D c).2) := by
  cases hperform : s.perform D c with
  | error e =>
    have hnamed : Named (s.perform D c) := by
      apply (named_checkCommand s c).bind
      intro u
      exact named_operate D s c
    rw [(apply_of_refused hperform).1] at h
    exact absurd h (hnamed e hperform)
  | ok r =>
    refine ⟨r.1, ?_⟩
    unfold apply
    rw [hperform]

/-- An accepted edit was checked as a whole, and leaves the machine as its writes do. -/
theorem edit_accepted {D : DebugMachine M}
    (hop : c.operation = .edit) (h : (s.apply D c).1.error = .none) :
    (c.editRegisters = true → D.debugValidateRegisters c.registers = true)
      ∧ (∀ e ∈ c.edits, D.debugWritable s.machine e.address = true)
      ∧ (s.apply D c).2.machine =
        if c.byteCount ≠ 0 ∨ c.editRegisters = true then D.debugEdited (commitEdit D s.machine c)
        else s.machine := by
  obtain ⟨memory, hperform⟩ := perform_of_accepted h
  have hoperate := perform_eq_ok hperform
  unfold operate at hoperate
  rw [hop] at hoperate
  obtain ⟨t, hedit, hpair⟩ := Results.map_eq_ok hoperate
  have ht : t = (s.apply D c).2 := congrArg Prod.snd hpair
  unfold edit at hedit
  obtain ⟨u, -, hedit⟩ := Results.bind_eq_ok hedit
  obtain ⟨u, hvalid, hedit⟩ := Results.bind_eq_ok hedit
  obtain ⟨u, hwritable, hedit⟩ := Results.bind_eq_ok hedit
  have hcheck := Results.require_eq_ok hvalid
  rw [Bool.and_eq_true_iff, Bool.or_eq_true_iff, Bool.not_eq_true'] at hcheck
  refine ⟨?_, ?_, ?_⟩
  · intro hregisters
    rcases hcheck.2 with hno | hyes
    · rw [hregisters] at hno
      cases hno
    · exact hyes
  · exact List.all_eq_true.mp (Results.require_eq_ok hwritable)
  · have hmachine := congrArg DebugService.machine (Except.ok.inj hedit)
    rw [← ht, ← hmachine]
    split
    · exact synchronize_machine D _
    · rfl

end DebugService

/-! ## Steps -/

namespace World

/-- A call in a state that should last finds the generation the service knows. -/
def GenerationKept (D : DebugMachine M) (w : World M) : Event M → Prop
  | .pump | .run _ | .currentSnapshot | .installScriptHooks _ _ => w.lane = .idle →
    (w.service.state = .detached ∨ w.service.state = .faulted) →
      w.service.generation = D.observationGeneration w.service.machine
  | _ => True

/-- The next thing the machine lane does is to serve this command. -/
def Serves (w : World M) (c : Command) : Prop :=
  ∃ k cs, w.lane = .serve k ∧ w.service.requests = c :: cs

variable {w : World M} {D : DebugMachine M}

theorem call_lasting (hstate : w.service.state = .detached ∨ w.service.state = .faulted)
    (hguard : w.lane = .idle → (w.service.state = .detached ∨ w.service.state = .faulted) →
      w.service.generation = D.observationGeneration w.service.machine)
    {f : World M → World M} (hf : w.service.synchronize D = w.service →
      (f w).service.state = w.service.state ∧ (f w).retired = w.retired) :
    (w.call f).service.state = w.service.state ∧ (w.call f).retired = w.retired := by
  unfold call
  split
  · next hlane => exact hf (DebugService.synchronize_of_current (hguard hlane hstate))
  · exact ⟨rfl, rfl⟩

/-- What one step can do to a lasting state: keep it, or disconnect a faulted service. -/
theorem step_lasting {e : Event M} (hguard : w.GenerationKept D e)
    (hstate : w.service.state = .detached ∨ w.service.state = .faulted) :
    (w.step D e).retired = w.retired
      ∧ ((w.step D e).service.state = w.service.state
        ∨ (w.service.state = .faulted ∧ (w.step D e).service.state = .detached
          ∧ e = .tick ∧ ∃ c, w.Serves c ∧ c.operation = .disconnect)) := by
  have hkeep : ∀ {v : World M}, v.service.state = w.service.state ∧ v.retired = w.retired →
      v.retired = w.retired ∧ (v.service.state = w.service.state
        ∨ (w.service.state = .faulted ∧ v.service.state = .detached
          ∧ e = .tick ∧ ∃ c, w.Serves c ∧ c.operation = .disconnect)) :=
    fun h => ⟨h.2, .inl h.1⟩
  have hnot : w.service.state ≠ .running := by
    rcases hstate with h | h
    · rw [h]
      decide
    · rw [h]
      decide
  cases e with
  | request c =>
    apply hkeep
    show (w.request c).service.state = _ ∧ (w.request c).retired = _
    unfold request
    split
    · exact ⟨rfl, rfl⟩
    · exact ⟨rfl, rfl⟩
  | response =>
    apply hkeep
    show w.response.service.state = _ ∧ w.response.retired = _
    unfold response
    split
    · exact ⟨rfl, rfl⟩
    · exact ⟨rfl, rfl⟩
  | trace => exact hkeep ⟨rfl, rfl⟩
  | pump =>
    apply hkeep
    apply call_lasting hstate hguard
    intro hsame
    exact ⟨congrArg DebugService.state hsame, rfl⟩
  | run n =>
    apply hkeep
    apply call_lasting hstate hguard
    intro hsame
    exact ⟨congrArg DebugService.state hsame, rfl⟩
  | currentSnapshot =>
    apply hkeep
    apply call_lasting hstate hguard
    intro hsame
    exact ⟨congrArg DebugService.state hsame, rfl⟩
  | installScriptHooks actions caps =>
    apply hkeep
    apply call_lasting hstate hguard
    intro hsame
    refine ⟨?_, rfl⟩
    rw [hsame]
  | change machine =>
    apply hkeep
    show (w.call _).service.state = _ ∧ (w.call _).retired = _
    unfold call
    split
    · exact ⟨rfl, rfl⟩
    · exact ⟨rfl, rfl⟩
  | tick =>
    unfold step tick
    cases hlane : w.lane with
    | idle => exact hkeep ⟨rfl, rfl⟩
    | flush k =>
      apply hkeep
      dsimp only
      unfold flush
      split
      · exact ⟨rfl, rfl⟩
      · split
        · exact ⟨by rw [return_service], (return_ghosts w k).2.2⟩
        · exact ⟨rfl, rfl⟩
    | serve k =>
      dsimp only
      unfold serve
      split
      · exact hkeep ⟨by rw [return_service], (return_ghosts w k).2.2⟩
      · next c cs hrequests =>
        refine ⟨rfl, ?_⟩
        rcases hstate with h | h
        · left
          show (DebugService.apply D { w.service with requests := cs } c).2.state = _
          rw [(DebugService.apply_detached D (s := { w.service with requests := cs }) c h).2]
        · rcases DebugService.apply_faulted D (s := { w.service with requests := cs }) c h with
            hsame | ⟨hop, hdetached⟩
          · exact .inl (hsame.trans h.symm)
          · exact .inr ⟨h, hdetached, rfl, c, ⟨k, cs, hlane, hrequests⟩, hop⟩
    | answer r k =>
      apply hkeep
      dsimp only
      unfold answer
      split
      · exact ⟨by rw [return_service], (return_ghosts _ k).2.2⟩
      · exact ⟨rfl, rfl⟩
    | execute n =>
      apply hkeep
      dsimp only
      cases n with
      | zero => exact ⟨rfl, rfl⟩
      | succ n =>
        rw [execute, if_neg hnot]
        exact ⟨rfl, rfl⟩
    | notify =>
      apply hkeep
      dsimp only
      unfold notify
      split
      · dsimp only
        split
        · exact ⟨rfl, rfl⟩
        · exact ⟨rfl, rfl⟩
      · exact ⟨rfl, rfl⟩

theorem running_of_retired {e : Event M} (h : (w.step D e).retired ≠ w.retired) :
    w.service.state = .running := by
  obtain ⟨rfl, n, hlane⟩ := lane_of_retired h
  by_contra hstate
  refine h ?_
  show (w.tick D).retired = w.retired
  unfold tick
  rw [hlane]
  cases n with
  | zero => rfl
  | succ n =>
    dsimp only
    rw [execute, if_neg hstate]

theorem run_lasting {events : List (Event M)}
    (hguard : Guarded (step D) (GenerationKept D) w events) {R : State → Prop}
    (hlasting : ∀ s, R s → s = .detached ∨ s = .faulted) (hdetached : R .faulted → R .detached)
    (hstate : R w.service.state) :
    R (run (step D) w events).service.state ∧ (run (step D) w events).retired = w.retired := by
  refine run_invariant_of_guarded
    (P := fun v : World M => R v.service.state ∧ v.retired = w.retired) ?_ ⟨hstate, rfl⟩ hguard
  rintro v e hkept ⟨hR, hretired⟩
  obtain ⟨hsame, hnext⟩ := step_lasting hkept (hlasting _ hR)
  refine ⟨?_, hsame.trans hretired⟩
  rcases hnext with hnext | ⟨hfaulted, hnext, -⟩
  · rw [hnext]
    exact hR
  · rw [hnext]
    rw [hfaulted] at hR
    exact hdetached hR

end World

/-! ## What an edit writes -/

/-- The bytes of a machine that a debugger sees, which of its addresses share a byte, and the
machine without its registers and editable bytes. -/
structure EditView (M : Type) where
  byte : M → Address → Byte
  shares : Address → Address → Bool
  erase : M → M

/-- The edit methods of a machine write the byte or the registers they name and nothing else. -/
structure EditsExactly (D : DebugMachine M) (V : EditView M) : Prop where
  byte_commitByte : ∀ {m a v} b, D.debugWritable m a = true →
    V.byte (D.debugCommitByte m a v) b = if V.shares a b then v else V.byte m b
  registers_commitByte : ∀ m a v, D.debugRegisters (D.debugCommitByte m a v) = D.debugRegisters m
  erase_commitByte : ∀ m a v, V.erase (D.debugCommitByte m a v) = V.erase m
  writable_commitByte : ∀ m a v b,
    D.debugWritable (D.debugCommitByte m a v) b = D.debugWritable m b
  byte_commitRegisters : ∀ m r b, V.byte (D.debugCommitRegisters m r) b = V.byte m b
  registers_commitRegisters : ∀ {m r}, D.debugValidateRegisters r = true →
    D.debugRegisters (D.debugCommitRegisters m r) = r
  erase_commitRegisters : ∀ m r, V.erase (D.debugCommitRegisters m r) = V.erase m
  byte_edited : ∀ m b, V.byte (D.debugEdited m) b = V.byte m b
  registers_edited : ∀ m, D.debugRegisters (D.debugEdited m) = D.debugRegisters m
  erase_edited : ∀ m, V.erase (D.debugEdited m) = V.erase m

namespace EditView

/-- The byte an address holds after edits in order. -/
def written (V : EditView M) (edits : List ByteEdit) (old : Byte) (b : Address) : Byte :=
  edits.foldl (fun value e => if V.shares e.address b then e.value else value) old

end EditView

theorem commitBytes_exact {D : DebugMachine M} {V : EditView M} (h : EditsExactly D V) {m : M}
    {edits : List ByteEdit} (hwritable : ∀ e ∈ edits, D.debugWritable m e.address = true) :
    (∀ b, V.byte (edits.foldl (fun m e => D.debugCommitByte m e.address e.value) m) b
        = V.written edits (V.byte m b) b)
      ∧ D.debugRegisters (edits.foldl (fun m e => D.debugCommitByte m e.address e.value) m)
        = D.debugRegisters m
      ∧ V.erase (edits.foldl (fun m e => D.debugCommitByte m e.address e.value) m)
        = V.erase m := by
  induction edits generalizing m with
  | nil => exact ⟨fun _ => rfl, rfl, rfl⟩
  | cons e edits ih =>
    have hrest : ∀ x ∈ edits,
        D.debugWritable (D.debugCommitByte m e.address e.value) x.address = true := by
      intro x hx
      rw [h.writable_commitByte]
      exact hwritable x (List.mem_cons_of_mem e hx)
    obtain ⟨hbytes, hregisters, herase⟩ := ih hrest
    refine ⟨?_, ?_, ?_⟩
    · intro b
      rw [List.foldl_cons, hbytes b, h.byte_commitByte b (hwritable e List.mem_cons_self)]
      rfl
    · rw [List.foldl_cons, hregisters, h.registers_commitByte]
    · rw [List.foldl_cons, herase, h.erase_commitByte]

/-- An accepted edit leaves the registers and the bytes it names, and everything else. -/
theorem edit_exact {D : DebugMachine M} {V : EditView M} (h : EditsExactly D V)
    {s : DebugService M} {c : Command} (hop : c.operation = .edit)
    (haccepted : (s.apply D c).1.error = .none) :
    (∀ b, V.byte (s.apply D c).2.machine b = V.written c.edits (V.byte s.machine b) b)
      ∧ D.debugRegisters (s.apply D c).2.machine
        = (if c.editRegisters then c.registers else D.debugRegisters s.machine)
      ∧ V.erase (s.apply D c).2.machine = V.erase s.machine := by
  obtain ⟨hvalid, hwritable, hmachine⟩ := DebugService.edit_accepted hop haccepted
  obtain ⟨hbytes, hregisters, herase⟩ := commitBytes_exact h hwritable
  rw [hmachine]
  split
  · unfold DebugService.commitEdit
    split
    · next hedit =>
      refine ⟨?_, ?_, ?_⟩
      · intro b
        rw [h.byte_edited, h.byte_commitRegisters, hbytes b]
      · rw [h.registers_edited, h.registers_commitRegisters (hvalid hedit)]
      · rw [h.erase_edited, h.erase_commitRegisters, herase]
    · refine ⟨?_, ?_, ?_⟩
      · intro b
        rw [h.byte_edited, hbytes b]
      · rw [h.registers_edited, hregisters]
      · rw [h.erase_edited, herase]
  · next hnothing =>
    rw [not_or, not_not] at hnothing
    have hedits : c.edits = [] := by
      unfold Command.edits
      rw [hnothing.1]
      rfl
    rw [hedits, if_neg hnothing.2]
    exact ⟨fun _ => rfl, rfl, rfl⟩

end ProtoTime.Debug
