import ProtoTime.Emulator.ForeignTransitions
import ProtoTime.Host.SaveStateDamage

/-!
Runs of a foreign machine: tokens are settled, a load that throws has changed nothing, a fault is
final, and a file that was saved brings back what it was saved from.
-/
namespace ProtoTime.Emulator.ForeignMachine

open Host Input Modding Transaction Transition

variable {I M T L G α : Type}

/-! ## Operations -/

/-- An operation of the machine, or what its owner and the other lanes do in between. -/
inductive Operation (I : Type)
  | loadExternalBootRom (bytes : List Byte)
  | loadRom (bytes : List Byte)
  | runSlice (budget : ExecutionBudget) (observer : InstructionRetirementSink)
  | serviceInput (sample : AdapterSample)
  | saveState
  | loadState (file : List Byte)
  | outside (world : World I) (lifecycle : MachineLifecycleCoordinator)
      (inputEngine : InputEngine)

def Operation.isLoad : Operation I → Bool
  | .loadRom _ | .loadState _ => true
  | _ => false

section Runs

variable (api : TimeMachineRuntime M T) (F : Files) (library : Library I)

def perform : Operation I → Action (ForeignMachine I M T) String Unit
  | .loadExternalBootRom bytes => loadExternalBootRom api bytes
  | .loadRom bytes => loadRom api F library bytes
  | .runSlice budget observer => runSlice api budget observer >>= fun _ => pure ()
  | .serviceInput sample => serviceInput api sample
  | .saveState => saveState api F >>= fun _ => pure ()
  | .loadState file => loadState api F library file
  | .outside world lifecycle inputEngine =>
    modify fun m =>
      { m with world := world, lifecycle := lifecycle, inputEngine := inputEngine }

def act (m : ForeignMachine I M T) (operation : Operation I) : ForeignMachine I M T :=
  (exec (perform api F library operation) m).2

/-- The native mods stay attached over regions of the same layout. -/
def SameAttached (m : ForeignMachine I M T) : Operation I → Prop
  | .outside world _ _ => SameModules m.world world
  | _ => True

end Runs

variable {api : TimeMachineRuntime M T} {F : Files} {library : Library I} {w : World I}

/-! ## Operations that are no loads -/

theorem preserves_call {P : ForeignMachine I M T → Prop}
    {f : ForeignMachine I M T → Answer × α × ForeignMachine I M T}
    (hf : ∀ m, P m → P (f m).2.2) : Preserves P (call f) := by
  intro m h
  obtain ⟨e, hexec, -⟩ | ⟨e, hexec, -⟩ | ⟨hexec, -⟩ := exec_call f m
  · rw [hexec]
    exact h
  · rw [hexec]
    exact hf m h
  · rw [hexec]
    exact hf m h

variable {m : ForeignMachine I M T}

theorem recordEvent_atRest (h : AtRest w m)
    (e : Option TimeMachineEvent) : AtRest w (recordEvent m e) := by
  unfold recordEvent
  cases e with
  | none => exact ⟨h.pending, h.settled, h.inputMask, h.modules⟩
  | some e =>
    dsimp only
    split
    · exact ⟨h.pending, h.settled, h.inputMask, h.modules⟩
    · exact ⟨h.pending, h.settled, h.inputMask, h.modules⟩

theorem stepCallback_atRest (h : AtRest w m) : AtRest w (stepCallback api m).2.2 := by
  have hevents : ∀ (events : List (Option TimeMachineEvent)) (m : ForeignMachine I M T),
      AtRest w m → AtRest w (events.foldl recordEvent m) := by
    intro events
    induction events with
    | nil => exact fun m h => h
    | cons e events ih => exact fun m h => ih _ (recordEvent_atRest h e)
  exact hevents _ _ ⟨h.pending, h.settled, h.inputMask, h.modules⟩

theorem preserves_retire : Preserves (AtRest w) (retire (I := I) api) := by
  intro m h
  have hcall : Preserves (AtRest w) (call (stepCallback (I := I) api)) :=
    preserves_call fun _ h => stepCallback_atRest h
  have hstep := hcall { m with events := [], eventFault := false }
    ⟨h.pending, h.settled, h.inputMask, h.modules⟩
  show AtRest w (retire api m).2
  unfold retire
  cases hexec : exec (call (stepCallback api)) { m with events := [], eventFault := false } with
  | mk result after =>
    rw [hexec] at hstep
    cases result with
    | error e => exact ⟨hstep.pending, hstep.settled, hstep.inputMask, hstep.modules⟩
    | ok retired =>
      dsimp only
      split
      · exact ⟨hstep.pending, hstep.settled, hstep.inputMask, hstep.modules⟩
      · exact ⟨hstep.pending, hstep.settled, hstep.inputMask, hstep.modules⟩

theorem preserves_sliceLoop (budget : ExecutionBudget) (observer : InstructionRetirementSink)
    (r : ExecutionSliceResult) (remaining : ℕ) :
    Preserves (AtRest w) (sliceLoop (I := I) api budget observer r remaining) := by
  induction remaining generalizing r with
  | zero => exact preserves_pure _ _
  | succ remaining ih =>
    intro m h
    have hretire : AtRest w (exec (retire api) m).2 := preserves_retire m h
    show AtRest w (sliceLoop api budget observer r (remaining + 1) m).2
    unfold sliceLoop
    cases hexec : exec (retire api) m with
    | mk result after =>
      rw [hexec] at hretire
      cases result with
      | error e => exact hretire
      | ok feedback =>
        dsimp only
        split
        · exact hretire
        · split
          · exact hretire
          · split
            · exact hretire
            · exact ih _ _ hretire

theorem nextMask_lt (h : AtRest w m) : m.nextMask.toNat < 256 := by
  unfold nextMask
  split
  · next mask _ =>
    rw [BitVec.toNat_setWidth]
    omega
  · exact h.inputMask

theorem preserves_passInput : Preserves (AtRest w) (passInput (I := I) api) := by
  apply preserves_get_bind
  intro m h
  have hcall := preserves_call (P := AtRest w) (f := inputCallback api m.nextMask)
    (fun _ h => ⟨h.pending, h.settled, h.inputMask, h.modules⟩)
  refine (hcall.bind fun _ => preserves_modify fun after hafter => ?_) m h
  exact ⟨hafter.pending, hafter.settled, nextMask_lt h, hafter.modules⟩

theorem preserves_serviceInput (sample : AdapterSample) :
    Preserves (AtRest w) (serviceInput (I := I) api sample) :=
  (preserves_modify fun _ h => ⟨h.pending, h.settled, h.inputMask, h.modules⟩).bind
    fun _ => preserves_passInput

theorem preserves_runSlice (budget : ExecutionBudget) (observer : InstructionRetirementSink) :
    Preserves (AtRest w) (runSlice (I := I) api budget observer) := by
  unfold runSlice
  split
  · exact preserves_pure _ _
  · split
    · exact preserves_pure _ _
    · exact preserves_passInput.bind fun _ => preserves_sliceLoop budget observer {} _

theorem preserves_checkpoint (capacity : ℕ) :
    Preserves (AtRest w) (call (checkpointCallback (I := I) api capacity)) :=
  preserves_call fun _ h => ⟨h.pending, h.settled, h.inputMask, h.modules⟩

theorem preserves_saveCohort (hmods : Obedient F library w) :
    Preserves (AtRest w) (onWorld (M := M) (T := T) (saveCohort F)) := by
  intro m h
  have hkeeps := keeps_onWorld (M := M) (T := T)
    (keeps_saveCohort F (hmods.of_sameModules h.modules).quiet)
  rw [hkeeps]
  exact h

theorem preserves_saveState (hmods : Obedient F library w) :
    Preserves (AtRest w) (saveState (I := I) api F) := by
  apply preserves_get_bind
  intro m h
  refine ((preserves_require (AtRest w) _ _).bind fun _ => ?_) m h
  refine (preserves_checkpoint 0).bind fun queried => ?_
  refine (preserves_require (AtRest w) _ _).bind fun _ => ?_
  refine (preserves_checkpoint _).bind fun copied => ?_
  refine (preserves_require (AtRest w) _ _).bind fun _ => ?_
  refine (preserves_fromExcept (AtRest w) _).bind fun regions => ?_
  refine (preserves_saveCohort hmods).bind fun modules => ?_
  exact preserves_fromExcept (AtRest w) _

/-! ## Loads -/

variable {live : M → L} {m' : ForeignMachine I M T}

theorem Refused.atRest (h : Refused live m m') (hm : AtRest w m) : AtRest w m' where
  pending := h.pending
  settled := h.settled hm.settled
  inputMask := by
    rw [h.unchanged.inputMask]
    exact hm.inputMask
  modules := by
    rw [h.unchanged.world]
    exact hm.modules

/-- What the host publishes is its own: no token, a mask of one byte, the same modules. -/
structure HostOnly (host : ForeignMachine I M T → ForeignMachine I M T) : Prop where
  pending : ∀ m, (host m).pending = m.pending
  ledger : ∀ m, (host m).ledger = m.ledger
  inputMask : ∀ m, (host m).inputMask.toNat < 256
  modules : ∀ m, SameModules m.world (host m).world

theorem hostOnly_published (mask : BitVec 8) :
    HostOnly (fun m : ForeignMachine I M T => m.published mask) where
  pending _ := rfl
  ledger _ := rfl
  inputMask m := by
    show (mask.setWidth 32).toNat < 256
    rw [BitVec.toNat_setWidth]
    omega
  modules _ := ⟨rfl, rfl⟩

theorem hostOnly_romPublished (bytes : List Byte) (binding : Text) :
    HostOnly (romPublished (I := I) (M := M) (T := T) bytes binding) where
  pending _ := rfl
  ledger _ := rfl
  inputMask _ := by
    show (0#8 |>.setWidth 32).toNat < 256
    decide
  modules m := ⟨layout_reset m.world.host, rfl⟩

theorem Published.atRest {operation : PrepareOperation}
    {bytes : List Byte} {host : ForeignMachine I M T → ForeignMachine I M T}
    (hmods : Obedient F library w) (hhost : HostOnly host)
    (h : Published api F m operation bytes host m') (hm : AtRest w m) : AtRest w m' := by
  obtain ⟨native, token, world, lifecycle, hnative, -, -, hcommit, rfl⟩ := h
  have hquiet := (hmods.of_sameModules hm.modules).quiet
  refine ⟨hhost.pending _, ?_, hhost.inputMask _, ?_⟩
  · show Settled (host _).ledger
    rw [hhost.ledger]
    exact .committed token hm.settled
  · have hsame := hhost.modules (committed api m operation bytes token world)
    exact (hm.modules.trans (sameModules_commit hquiet hnative hcommit)).trans hsame

theorem Ends.atRest {P : ForeignMachine I M T → Prop}
    {refusal : String} {r : Except String Unit × ForeignMachine I M T}
    (h : Ends live m P refusal r) (hm : AtRest w m) (hP : ∀ m', P m' → AtRest w m') :
    AtRest w r.2 := by
  obtain ⟨e, m', rfl, hrefused⟩ | ⟨m', hpublished, rfl⟩ := h
  · exact hrefused.atRest hm
  · exact hP m' hpublished

variable {guest : L → G}

theorem preserves_loadExternalBootRom (hapi : Obeys api live guest) (bytes : List Byte) :
    Preserves (AtRest w) (loadExternalBootRom (I := I) api bytes) := by
  apply preserves_get_bind
  intro m h
  refine ((preserves_require (AtRest w) _ _).bind fun _ => ?_) m h
  intro m h
  obtain ⟨e, m', hprepare, hrefused⟩ | ⟨token, haccepted, htoken, hprepare⟩ :=
    prepare_cases hapi h.pending .bios bytes
  · have hexec : exec (withPrepared api .bios bytes (commitPending api)) m = (.error e, m') := by
      show withPrepared api .bios bytes _ m = _
      unfold withPrepared
      rw [hprepare]
    rw [hexec]
    exact hrefused.atRest h
  · rw [exec_withPrepared_ok hprepare]
    have hcommit : exec (commitPending api) (holding api m .bios bytes token)
        = (.ok (), committed api m .bios bytes token m.world) := by
      show commitPending api _ = _
      unfold commitPending holding
      rw [if_pos (hapi.commit _ _ _ _ haccepted htoken)]
      rfl
    rw [hcommit, cleanup_of_none api rfl]
    exact ⟨rfl, .committed token h.settled, h.inputMask, h.modules⟩

theorem atRest_act (hapi : Obeys api live guest)
    (hmods : Obedient F library w) {operation : Operation I}
    (hoperation : SameAttached m operation) (h : AtRest w m) :
    AtRest w (act api F library m operation) := by
  have hobedient := hmods.of_sameModules h.modules
  cases operation with
  | loadExternalBootRom bytes => exact preserves_loadExternalBootRom hapi bytes m h
  | loadRom bytes =>
    exact (ends_loadRom hapi h.pending hobedient bytes).atRest h fun m' hpublished =>
      hpublished.atRest hmods (hostOnly_romPublished _ _) h
  | runSlice budget observer =>
    exact (preserves_runSlice budget observer).bind (fun _ => preserves_pure _ _) m h
  | serviceInput sample => exact preserves_serviceInput sample m h
  | saveState => exact (preserves_saveState hmods).bind (fun _ => preserves_pure _ _) m h
  | loadState file =>
    refine (ends_loadState hapi h.pending hobedient file).atRest h fun m' hpublished => ?_
    obtain ⟨saved, mask, hpublished⟩ := hpublished
    exact hpublished.atRest hmods (hostOnly_published mask) h
  | outside world lifecycle inputEngine =>
    exact ⟨h.pending, h.settled, h.inputMask, h.modules.trans hoperation⟩

theorem atRest_run (hapi : Obeys api live guest)
    (hmods : Obedient F library w) {history : List (Operation I)}
    (hhistory : Guarded (act api F library) SameAttached m history) (h : AtRest w m) :
    AtRest w (run (act api F library) m history) :=
  run_invariant_of_guarded (fun _ _ hoperation hm => atRest_act hapi hmods hoperation hm) h hhistory

/-- A load that throws over lanes that can be resumed has changed nothing. -/
theorem unchanged_of_load (hapi : Obeys api live guest)
    (hmods : Obedient F library w) (h : AtRest w m)
    {operation : Operation I} (hload : operation.isLoad = true)
    (hlanes : m.lifecycle.services.resumable = true) {e : String}
    (hthrew : (exec (perform api F library operation) m).1 = .error e) :
    Unchanged live m (act api F library m operation) := by
  have hobedient := hmods.of_sameModules h.modules
  have hends : ∀ {P : ForeignMachine I M T → Prop} {refusal : String},
      Ends live m P refusal (exec (perform api F library operation) m) →
      Unchanged live m (act api F library m operation) := by
    intro P refusal hends
    unfold act
    obtain ⟨e', m', hexec, hrefused⟩ | ⟨m', -, hexec⟩ := hends
    · rw [hexec]
      exact hrefused.unchanged
    · rw [hexec, hlanes] at hthrew
      cases hthrew
  cases operation with
  | loadRom bytes => exact hends (ends_loadRom hapi h.pending hobedient bytes)
  | loadState file => exact hends (ends_loadState hapi h.pending hobedient file)
  | _ => cases hload

/-! ## Faults -/

/-- A faulted machine between two operations, with what its module was left with. -/
structure Stopped (runtime : M) (ledger : List (TokenEvent T)) (m : ForeignMachine I M T) :
    Prop where
  fault : m.fault = true
  pending : m.pending = none
  runtime : m.runtime = runtime
  ledger : m.ledger = ledger

theorem retire_faulted (m : ForeignMachine I M T) {e : String}
    (h : exec (retire api) m = (.error e, m')) : m'.fault = true := by
  replace h : retire api m = (.error e, m') := h
  unfold retire at h
  split at h
  · cases h
    rfl
  · split at h
    · cases h
      rfl
    · cases h

section Stopped

variable {runtime : M} {ledger : List (TokenEvent T)}

theorem stopped_call (f : ForeignMachine I M T → Answer × α × ForeignMachine I M T) :
    Preserves (Stopped runtime ledger) (call f) := by
  intro m h
  rw [call_faulted h.fault]
  exact h

theorem stopped_withPrepared (operation : PrepareOperation) (bytes : List Byte)
    (body : Action (ForeignMachine I M T) String α) :
    Preserves (Stopped runtime ledger) (withPrepared api operation bytes body) := by
  intro m h
  have hprepare : ∃ e, exec (prepare api operation bytes) m = (.error e, m) := by
    show ∃ e, prepare api operation bytes m = _
    unfold prepare
    split
    · exact ⟨_, rfl⟩
    · rw [call_faulted h.fault]
      dsimp only
      rw [cleanup_of_none api h.pending]
      exact ⟨_, rfl⟩
  obtain ⟨e, hprepare⟩ := hprepare
  show Stopped runtime ledger (withPrepared api operation bytes body m).2
  unfold withPrepared
  rw [hprepare]
  exact h

theorem stopped_onWorld (x : Action (World I) String α) :
    Preserves (Stopped (M := M) (T := T) runtime ledger) (onWorld x) :=
  fun _ h => ⟨h.fault, h.pending, h.runtime, h.ledger⟩

theorem stopped_passInput :
    Preserves (Stopped (I := I) runtime ledger) (passInput api) := by
  apply preserves_get_bind
  intro m h
  refine ((stopped_call _).bind fun _ => preserves_modify fun after hafter => ?_) m h
  exact ⟨hafter.fault, hafter.pending, hafter.runtime, hafter.ledger⟩

theorem stopped_runSlice (budget : ExecutionBudget) (observer : InstructionRetirementSink) :
    Preserves (Stopped (I := I) runtime ledger) (runSlice api budget observer) := by
  unfold runSlice
  split
  · exact preserves_pure _ _
  · split
    · exact preserves_pure _ _
    · intro m h
      have hpass : exec (passInput api) m = (.error "foreign machine is faulted", m) := by
        refine (exec_bind_ok (exec_get m)).trans ?_
        exact exec_bind_error (call_faulted h.fault _)
      rw [exec_bind_error hpass]
      exact h

theorem stopped_saveState :
    Preserves (Stopped (I := I) runtime ledger) (saveState api F) := by
  apply preserves_get_bind
  intro m h
  refine ((preserves_require (Stopped runtime ledger) _ _).bind fun _ => ?_) m h
  intro m h
  rw [exec_bind_error (call_faulted h.fault _)]
  exact h

theorem stopped_loadState (file : List Byte) :
    Preserves (Stopped (M := M) (T := T) runtime ledger) (loadState api F library file) := by
  apply preserves_get_bind
  intro m h
  refine ((preserves_require (Stopped runtime ledger) _ _).bind fun _ => ?_) m h
  refine (preserves_fromExcept _ _).bind fun state => ?_
  refine (preserves_require _ _ _).bind fun _ => ?_
  refine (preserves_fromExcept _ _).bind fun binding => ?_
  refine (preserves_require _ _ _).bind fun _ => ?_
  refine (preserves_fromExcept _ _).bind fun input => ?_
  refine (preserves_require _ _ _).bind fun _ => ?_
  refine (preserves_fromExcept _ _).bind fun modules => ?_
  refine (preserves_fromExcept _ _).bind fun regions => ?_
  refine (stopped_onWorld _).bind fun native => ?_
  refine (preserves_fromExcept _ _).bind fun saved => ?_
  exact stopped_withPrepared _ _ _

theorem stopped_act (h : Stopped runtime ledger m) (operation : Operation I) :
    Stopped runtime ledger (act api F library m operation) := by
  cases operation with
  | loadExternalBootRom bytes =>
    exact preserves_get_bind (fun m h => ((preserves_require (Stopped runtime ledger) _ _).bind
      fun _ => stopped_withPrepared _ _ _) m h) m h
  | loadRom bytes =>
    refine ((preserves_require (Stopped runtime ledger) _ _).bind fun _ => ?_) m h
    apply preserves_get_bind
    intro m h
    exact ((stopped_onWorld _).bind fun _ => stopped_withPrepared _ _ _) m h
  | runSlice budget observer =>
    exact (stopped_runSlice budget observer).bind (fun _ => preserves_pure _ _) m h
  | serviceInput sample =>
    refine (preserves_modify fun _ h => ?_).bind (fun _ => stopped_passInput) m h
    exact ⟨h.fault, h.pending, h.runtime, h.ledger⟩
  | saveState => exact stopped_saveState.bind (fun _ => preserves_pure _ _) m h
  | loadState file => exact stopped_loadState file m h
  | outside world lifecycle inputEngine => exact ⟨h.fault, h.pending, h.runtime, h.ledger⟩

theorem stopped_run (hfault : m.fault = true) (hpending : m.pending = none)
    (later : List (Operation I)) :
    Stopped m.runtime m.ledger (run (act api F library) m later) :=
  run_invariant (P := Stopped m.runtime m.ledger) (fun _ operation h => stopped_act h operation)
    ⟨hfault, hpending, rfl, rfl⟩ later

end Stopped

/-! ## Saving and restoring -/

theorem call_eq_ok {f : ForeignMachine I M T → Answer × α × ForeignMachine I M T}
    {a : α} (h : exec (call f) m = (.ok a, m')) :
    (f m).1 = .accepted ∧ a = (f m).2.1 ∧ m' = (f m).2.2 := by
  obtain ⟨e, hexec, -⟩ | ⟨e, hexec, -⟩ | ⟨hexec, haccepted⟩ := exec_call f m
  · cases hexec.symm.trans h
  · cases hexec.symm.trans h
  · cases hexec.symm.trans h
    exact ⟨haccepted, rfl, rfl⟩

/-- A file saved from a machine: the checkpoint is of a state of the module that differs from the
machine's in transactions at most. -/
structure SavedFrom (api : TimeMachineRuntime M T) (F : Files) (live : M → L)
    (m : ForeignMachine I M T) (saved : M) (capacity : ℕ) (regions modules file : List Byte) :
    Prop where
  live : live saved = live m.runtime
  answer : (api.checkpoint saved capacity).answer = .accepted
  size : (api.checkpoint saved capacity).size.toNat = capacity
  budget : 0 < capacity ∧ capacity ≤ stateBudget
  host : m.world.host.exportState = .ok regions
  cohort : (exec (saveCohort F) m.world).1 = .ok modules
  written : SaveState.write
    (m.savedFile (fill capacity (api.checkpoint saved capacity).bytes) regions modules) = .ok file

variable {file : List Byte}

theorem savedFrom_of_saveState (hapi : Obeys api live guest)
    (h : exec (saveState api F) m = (.ok file, m')) :
    ∃ saved capacity regions modules,
      SavedFrom api F live m saved capacity regions modules file := by
  obtain ⟨now, t, hnow, h⟩ := exec_bind_eq_ok h
  cases hnow
  obtain ⟨-, h⟩ := exec_require_bind_eq_ok h
  obtain ⟨queried, first, hqueried, h⟩ := exec_bind_eq_ok h
  obtain ⟨-, rfl, rfl⟩ := call_eq_ok hqueried
  obtain ⟨hbudget, h⟩ := exec_require_bind_eq_ok h
  rw [Bool.and_eq_true, bne_iff_ne, ne_eq, ← BitVec.toNat_inj, decide_eq_true_eq] at hbudget
  obtain ⟨copied, second, hcopied, h⟩ := exec_bind_eq_ok h
  obtain ⟨haccepted, rfl, rfl⟩ := call_eq_ok hcopied
  obtain ⟨hsize, h⟩ := exec_require_bind_eq_ok h
  obtain ⟨regions, hregions, h⟩ := exec_fromExcept_bind_eq_ok h
  obtain ⟨modules, third, hmodules, h⟩ := exec_bind_eq_ok h
  rw [exec_fromExcept] at h
  refine ⟨_, _, regions, modules, hapi.checkpoint m.runtime 0, haccepted,
    congrArg BitVec.toNat (beq_iff_eq.mp hsize), ⟨Nat.pos_of_ne_zero hbudget.1, hbudget.2⟩,
    hregions, ?_, congrArg Prod.fst h⟩
  exact congrArg Prod.fst (onWorld_eq_ok hmodules)

variable {modules regions : List Byte} {state : List Byte}

theorem readable_savedFile
    (hwritten : SaveState.write (m.savedFile state regions modules) = .ok file)
    (hfile : file.length ≤ 2 * stateBudget) : (m.savedFile state regions modules).Readable where
  count := by
    show 5 ≤ SaveState.kMaxChunkCount
    decide
  chunks c hc := by
    have hdata := (SaveState.data_length_le_of_write hwritten c hc).trans hfile
    have hname : c.name.length ≤ SaveState.kChunkNameSize ∧ 0 ∉ c.name := by
      have hnames : ∀ n ∈ [name "foreign.binding", name "foreign.state", name "foreign.input",
          name "time.host-regions", name "time.native-mods"],
          n.length ≤ SaveState.kChunkNameSize ∧ 0 ∉ n := by decide
      exact hnames c.name (List.mem_map_of_mem (f := SaveState.SaveStateChunk.name) hc)
    exact ⟨hname.1, hname.2, hdata⟩

/-- What reading a saved file gives back. -/
theorem chunks_of_savedFile
    {expectedCoreId : BitVec 32} {expectedRomBytes : List Byte} {read : SaveState.SaveStateFile}
    (hwritten : SaveState.write (m.savedFile state regions modules) = .ok file)
    (hfile : file.length ≤ 2 * stateBudget)
    (hread : readForCore file expectedCoreId expectedRomBytes = .ok read) :
    chunk read "foreign.input" = .ok [m.inputMask.setWidth 8]
      ∧ chunk read "foreign.state" = .ok state
      ∧ chunk read "time.host-regions" = .ok regions
      ∧ chunk read "time.native-mods" = .ok modules := by
  obtain ⟨other, hother, -, hchunks⟩ :=
    SaveState.read_write (readable_savedFile hwritten hfile) hwritten
  obtain ⟨_, -, hread⟩ := Results.bind_eq_ok hread
  obtain ⟨same, hsame, hread⟩ := Results.bind_eq_ok hread
  obtain ⟨_, -, hread⟩ := Results.bind_eq_ok hread
  obtain ⟨_, -, hread⟩ := Results.bind_eq_ok hread
  obtain rfl := Except.ok.inj (hother.symm.trans hsame)
  cases hread
  unfold chunk
  rw [hchunks]
  exact ⟨rfl, rfl, rfl, rfl⟩

/-- A machine in which everything is as it was when a file was saved. -/
structure Restored (live : M → L) (guest : L → G) (m m' : ForeignMachine I M T) : Prop where
  runtime : guest (live m'.runtime) = guest (live m.runtime)
  host : m'.world.host = m.world.host
  states : m'.world.states = m.world.states
  inputMask : m'.inputMask = m.inputMask

theorem restored_of_loadState (hapi : Obeys api live guest)
    {v v' : ForeignMachine I M T} {saved : M} {capacity : ℕ}
    (hmods : Obedient F library m.world) (hmask : m.inputMask.toNat < 256)
    (hsaved : SavedFrom api F live m saved capacity regions modules file)
    (hsame : SameModules m.world v.world) (hpending : v.pending = none)
    (h : exec (loadState api F library file) v = (.ok (), v')) : Restored live guest m v' := by
  obtain ⟨p, world, hprepare, hcommit, hhost, -, hstates, -⟩ := restore_saved hmods.quiet
    hmods.attached hmods.restores hsame hsaved.cohort hsaved.host
  unfold loadState at h
  obtain ⟨now, t, hnow, h⟩ := exec_bind_eq_ok h
  cases hnow
  obtain ⟨hsizes, h⟩ := exec_require_bind_eq_ok h
  obtain ⟨state, hread, h⟩ := exec_fromExcept_bind_eq_ok h
  have hfile : file.length ≤ 2 * stateBudget :=
    of_decide_eq_true (Bool.and_eq_true_iff.mp hsizes).2
  obtain ⟨hinput, hstate, hregions, hmodules⟩ := chunks_of_savedFile hsaved.written hfile hread
  obtain ⟨-, h⟩ := exec_require_bind_eq_ok h
  obtain ⟨binding, -, h⟩ := exec_fromExcept_bind_eq_ok h
  obtain ⟨-, h⟩ := exec_require_bind_eq_ok h
  rw [hinput, hmodules, hregions, hstate] at h
  obtain ⟨input, hinput, h⟩ := exec_fromExcept_bind_eq_ok h
  obtain rfl := Except.ok.inj hinput
  obtain ⟨-, h⟩ := exec_require_bind_eq_ok h
  obtain ⟨readModules, hmodules, h⟩ := exec_fromExcept_bind_eq_ok h
  obtain rfl := Except.ok.inj hmodules
  obtain ⟨readRegions, hregions, h⟩ := exec_fromExcept_bind_eq_ok h
  obtain rfl := Except.ok.inj hregions
  obtain ⟨native, t, hnative, h⟩ := exec_bind_eq_ok h
  have hkeeps := keeps_onWorld (M := M) (T := T) (m := v) (keeps_prepareCohort F library
    (hmods.of_sameModules hsame).quiet (some modules) (some regions))
  obtain rfl : t = v := (congrArg Prod.snd hnative).symm.trans hkeeps
  obtain rfl : p = native :=
    Except.ok.inj (congrArg Prod.fst (hprepare.symm.trans (onWorld_eq_ok hnative)))
  obtain ⟨bytes, hbytes, h⟩ := exec_fromExcept_bind_eq_ok h
  obtain rfl := Except.ok.inj hbytes
  obtain ⟨e, m', hexec, -⟩ | ⟨token, world', lifecycle, haccepted, htoken, hcommit', hexec⟩ :=
    transition_cases hapi hpending F (hmods.of_sameModules hsame).quiet p
      (·.published (m.inputMask.setWidth 8)) (fun _ => rfl) .state
      (fill capacity (api.checkpoint saved capacity).bytes) .configReconfigure
      "foreign restore lifecycle failed"
  · cases hexec.symm.trans h
  · obtain rfl := congrArg Prod.snd (hcommit.symm.trans hcommit')
    obtain rfl := congrArg Prod.snd (hexec.symm.trans h)
    refine ⟨?_, hhost, hstates, ?_⟩
    · exact (hapi.restores saved t.runtime capacity token hsaved.answer hsaved.size haccepted
        htoken).trans (congrArg guest hsaved.live)
    · show (m.inputMask.setWidth 8).setWidth 32 = m.inputMask
      apply BitVec.eq_of_toNat_eq
      rw [BitVec.toNat_setWidth, BitVec.toNat_setWidth]
      omega

theorem readForCore_savedFile
    (hwritten : SaveState.write (m.savedFile state regions modules) = .ok file)
    (hfile : file.length ≤ 2 * stateBudget) :
    ∃ read, readForCore file (coreId m.descriptor) m.rom = .ok read
      ∧ read.chunks = (m.savedFile state regions modules).chunks := by
  obtain ⟨read, hread, hheader, hchunks⟩ :=
    SaveState.read_write (readable_savedFile hwritten hfile) hwritten
  refine ⟨read, ?_, hchunks⟩
  have hcore : (coreId m.descriptor != 0) = true := by
    unfold coreId
    split
    · decide
    · decide
  have hid : (read.header.coreId == coreId m.descriptor) = true := by
    rw [hheader]
    exact beq_self_eq_true _
  have hrom : (read.header.romHash == 0 || GameBoy.crc32 m.rom == read.header.romHash) = true := by
    rw [hheader]
    show (_ || GameBoy.crc32 m.rom == GameBoy.crc32 m.rom) = true
    rw [beq_self_eq_true, Bool.or_true]
  unfold readForCore
  rw [hread, hcore]
  show (guardWith (read.header.coreId == coreId m.descriptor) _ >>= fun _ => _) = _
  rw [hid]
  rw [hrom]
  rfl

/-- What is needed for a saved file to be accepted: the same ROM and provider, a file within the
budget, a machine that is not faulted, a module that accepts its own checkpoint, and a lifecycle
that is idle over lanes that can be resumed. -/
structure Accepts (api : TimeMachineRuntime M T) (m v : ForeignMachine I M T) (saved : M)
    (capacity : ℕ) (file : List Byte) : Prop where
  descriptor : v.descriptor = m.descriptor
  rom : v.rom = m.rom ∧ m.rom ≠ []
  binding : v.binding = m.binding
  file : file.length ≤ 2 * stateBudget
  fault : v.fault = false
  answer : (api.prepare v.runtime .state
    (fill capacity (api.checkpoint saved capacity).bytes)).answer = .accepted
  token : (api.prepare v.runtime .state
    (fill capacity (api.checkpoint saved capacity).bytes)).token ≠ none
  idle : v.lifecycle.transitionDepth = 0
  lanes : v.lifecycle.services.resumable = true

theorem loadState_accepted (hapi : Obeys api live guest)
    {v : ForeignMachine I M T} {saved : M} {capacity : ℕ} (hmods : Obedient F library m.world)
    (hsaved : SavedFrom api F live m saved capacity regions modules file)
    (hsame : SameModules m.world v.world) (hv : Accepts api m v saved capacity file) :
    (exec (loadState api F library file) v).1 = .ok () := by
  obtain ⟨p, world, hprepare, hcommit, -⟩ := restore_saved hmods.quiet hmods.attached
    hmods.restores hsame hsaved.cohort hsaved.host
  obtain ⟨read, hread, hchunks⟩ := readForCore_savedFile hsaved.written hv.file
  obtain ⟨hinput, hstate, hregions, hmodules⟩ := chunks_of_savedFile hsaved.written hv.file hread
  obtain ⟨token, htoken⟩ := Option.ne_none_iff_exists'.mp hv.token
  have hbinding : chunk read "foreign.binding" = .ok m.binding := by
    unfold chunk
    rw [hchunks]
    rfl
  have hrom : v.rom.isEmpty = false := by
    rw [hv.rom.1]
    exact List.isEmpty_eq_false_iff.mpr hv.rom.2
  have hnative : exec (onWorld (prepareCohort F library (some modules) (some regions))) v
      = (.ok p, v) := by
    show ((exec _ v.world).1, { v with world := (exec _ v.world).2 }) = _
    rw [hprepare]
  unfold loadState
  rw [exec_bind_ok (exec_get v), exec_require_bind (by simp [hrom, hv.file]), hv.descriptor,
    hv.rom.1, hread, exec_bind_ok (exec_fromExcept _ v),
    exec_require_bind (by rw [hchunks]; rfl), hbinding, exec_bind_ok (exec_fromExcept _ v),
    exec_require_bind (by rw [hv.binding]; exact beq_self_eq_true _), hinput,
    exec_bind_ok (exec_fromExcept _ v), exec_require_bind (by rfl), hmodules,
    exec_bind_ok (exec_fromExcept _ v), hregions, exec_bind_ok (exec_fromExcept _ v),
    exec_bind_ok hnative, hstate, exec_bind_ok (exec_fromExcept _ v)]
  refine transition_accepted hapi hv.fault (hmods.of_sameModules hsame).quiet hcommit _ ?_
    hv.answer htoken hv.idle hv.lanes _ _
  have hlength := length_fill capacity (api.checkpoint saved capacity).bytes
  have hbudget := hsaved.budget
  constructor
  · intro hempty
    rw [hempty, List.length_nil] at hlength
    omega
  · omega

/-! ## Runs -/

structure Dependable (api : TimeMachineRuntime M T) (F : Files) (library : Library I)
    (live : M → L) (guest : L → G) (m : ForeignMachine I M T) : Prop where
  /-- Every token was committed or discarded, once. -/
  settled : Settled m.ledger
  /-- A load that throws, over lanes that can be resumed, has changed nothing. -/
  unchanged : ∀ operation : Operation I, operation.isLoad = true →
    m.lifecycle.services.resumable = true →
    ∀ e, (exec (perform api F library operation) m).1 = .error e →
    Unchanged live m (act api F library m operation)
  /-- A retirement that fails faults the machine, and then no callback succeeds any more. -/
  faults : ∀ (slice after : ForeignMachine I M T) e,
    exec (retire api) slice = (.error e, after) → after.fault = true
  stopped : m.fault = true → ∀ (later : List (Operation I)) (α : Type)
    (f : ForeignMachine I M T → Answer × α × ForeignMachine I M T),
    exec (call f) (run (act api F library) m later)
        = (.error "foreign machine is faulted", run (act api F library) m later)
      ∧ (run (act api F library) m later).runtime = m.runtime
  /-- A saved file brings back what it was saved from, and is accepted unless something refuses
  it. -/
  restored : ∀ file after, exec (saveState api F) m = (.ok file, after) →
    ∃ saved capacity, ∀ later, Guarded (act api F library) SameAttached after later →
      (∀ v, exec (loadState api F library file) (run (act api F library) after later)
        = (.ok (), v) → Restored live guest m v)
      ∧ (Accepts api m (run (act api F library) after later) saved capacity file →
        (exec (loadState api F library file) (run (act api F library) after later)).1 = .ok ())

theorem dependable_of_atRest (hapi : Obeys api live guest)
    (hmods : Obedient F library w) (h : AtRest w m) :
    Dependable api F library live guest m where
  settled := h.settled
  unchanged _ hload hlanes _ hthrew := unchanged_of_load hapi hmods h hload hlanes hthrew
  faults slice _ _ hretire := retire_faulted slice hretire
  stopped hfault later _ f := by
    have hstopped : Stopped m.runtime m.ledger (run (act api F library) m later) :=
      stopped_run hfault h.pending later
    exact ⟨call_faulted hstopped.fault f, hstopped.runtime⟩
  restored file after hsave := by
    obtain ⟨saved, capacity, regions, modules, hsaved⟩ := savedFrom_of_saveState hapi hsave
    have hobedient := hmods.of_sameModules h.modules
    have hafter : AtRest w after := by
      have hpreserved : AtRest w (exec (saveState api F) m).2 := preserves_saveState hmods m h
      rwa [hsave] at hpreserved
    refine ⟨saved, capacity, fun later hlater => ?_⟩
    have hreached := atRest_run hapi hmods hlater hafter
    have hsame : SameModules m.world (run (act api F library) after later).world :=
      ⟨hreached.modules.layout.trans h.modules.layout.symm,
        hreached.modules.cohort.trans h.modules.cohort.symm⟩
    constructor
    · intro v hload
      exact restored_of_loadState hapi hobedient h.inputMask hsaved hsame hreached.pending hload
    · intro haccepts
      exact loadState_accepted hapi hobedient hsaved hsame haccepts

/-- Whatever the module and its answers, the native mods, the lanes and the operations before. -/
theorem transitions_all_or_nothing {live : M → L} {guest : L → G} (hapi : Obeys api live guest)
    (hmods : Obedient F library w) (descriptor : MachineDescriptor) (runtime : M)
    (lifecycle : MachineLifecycleCoordinator) (inputEngine : InputEngine)
    {history : List (Operation I)}
    (hhistory : Guarded (act api F library) SameAttached
      (create (T := T) descriptor runtime w lifecycle inputEngine) history) :
    Dependable api F library live guest
      (run (act api F library) (create descriptor runtime w lifecycle inputEngine) history) := by
  refine dependable_of_atRest hapi hmods (atRest_run hapi hmods hhistory ?_)
  exact ⟨rfl, .empty, Nat.zero_lt_succ 255, rfl, rfl⟩

/-! ## A module of one byte -/

/-- A module whose state is one byte: each transaction sets it to the first byte it is given, and
an instruction adds one. -/
def counterRuntime : TimeMachineRuntime Byte Byte where
  prepare s _ bytes := ⟨.accepted, some (bytes.headD 0), s⟩
  commit s token := (true, token.getD s)
  discard s _ := (true, s)
  step s := ⟨.accepted, ⟨32, 0, 1, 4, 0, 0, 0, 0⟩, [], s + 1⟩
  input s _ := (.accepted, s)
  checkpoint s _ := ⟨.accepted, [s], 1, s⟩

theorem counterRuntime_obeys : Obeys counterRuntime id id where
  prepare _ _ _ := rfl
  commit _ _ _ _ _ _ := rfl
  discard _ _ _ _ _ := ⟨rfl, rfl⟩
  checkpoint _ _ := rfl
  restores saved s capacity token _ hsize _ htoken := by
    obtain rfl : 1 = capacity := hsize
    exact (Option.some.inj htoken).symm

theorem counter_obedient :
    Obedient poolFiles (fun _ => .ok counter) ⟨pool, [attach counter 2]⟩ where
  quiet m hm := by
    rw [List.mem_singleton.mp hm]
    exact counter_quiet
  attached m hm := by
    rw [List.mem_singleton.mp hm]
    rfl
  restores m hm := by
    rw [List.mem_singleton.mp hm]
    intro h saved _ hapi
    refine ⟨0, [], saved.inst, [], rfl, ?_, rfl, ?_⟩
    · unfold savedBytes
      rw [hapi]
      rfl
    · unfold savedBytes
      rw [hapi]

/-- A machine with the module and one native mod, over the given lanes. -/
def counterMachine (services : LaneServices) : ForeignMachine Byte Byte Byte :=
  create ⟨[99], name "gameboy"⟩ 0 ⟨pool, [attach counter 2]⟩ (.create services) (.ofCapacity 8)

def counterAct (m : ForeignMachine Byte Byte Byte) (operation : Operation Byte) :
    ForeignMachine Byte Byte Byte :=
  act counterRuntime poolFiles (fun _ => .ok counter) m operation

/-- Video shown by a presenter that cannot be opened again. -/
def stuckPresenter : LaneServices where
  audio := none
  video := some { VideoService.create {} with
    presenter := some ⟨true, false, false⟩, state := .active }

theorem counterMachine_dependable :
    Dependable counterRuntime poolFiles (fun _ => .ok counter) id id
      (run counterAct (counterMachine ⟨none, none⟩)
        [.loadRom [7], .runSlice {} (fun _ _ _ => none)]) :=
  transitions_all_or_nothing counterRuntime_obeys counter_obedient ⟨[99], name "gameboy"⟩ 0
    (.create ⟨none, none⟩) (.ofCapacity 8) ⟨trivial, trivial, trivial⟩

/-- A ROM that is loaded while the presenter cannot be opened again: the load throws, and the ROM
and the state of the module have changed. -/
theorem loadRom_thrown_after_commit :
    (exec (perform counterRuntime poolFiles (fun _ => .ok counter) (.loadRom [7]))
        (counterMachine stuckPresenter)).1 = .error "foreign ROM lifecycle transition failed"
      ∧ ¬ Unchanged id (counterMachine stuckPresenter)
        (counterAct (counterMachine stuckPresenter) (.loadRom [7])) := by
  refine ⟨rfl, ?_⟩
  intro h
  have hrom := h.rom
  revert hrom
  decide

end ProtoTime.Emulator.ForeignMachine
