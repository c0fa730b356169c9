import ProtoTime.Emulator.ForeignMachine
import ProtoTime.Modding.NativeReplacement
import ProtoTime.Host.LifecycleTransitions

/-!
A transition of a foreign machine as a whole: the token of the module is settled before anything
else happens, and what throws has changed nothing unless the lanes could not be resumed.
-/
namespace ProtoTime.Emulator.ForeignMachine

open Host Input Modding Transaction

variable {I M T L G α : Type}

/-! ## Modules that keep the contract of the table -/

/-- `live` is a module's state without its transactions and `guest` the part of it that a
checkpoint holds. A transaction changes nothing before it is committed; committing one that was
accepted cannot fail, nor can discarding any; reading a checkpoint changes nothing, and a
transaction prepared from one brings its state back. -/
structure Obeys (api : TimeMachineRuntime M T) (live : M → L) (guest : L → G) : Prop where
  prepare : ∀ s operation bytes, live (api.prepare s operation bytes).state = live s
  commit : ∀ s operation bytes token, (api.prepare s operation bytes).answer = .accepted →
    (api.prepare s operation bytes).token = some token →
    (api.commit (api.prepare s operation bytes).state (some token)).1 = true
  discard : ∀ s operation bytes token, (api.prepare s operation bytes).token = some token →
    (api.discard (api.prepare s operation bytes).state token).1 = true
      ∧ live (api.discard (api.prepare s operation bytes).state token).2 = live s
  checkpoint : ∀ s capacity, live (api.checkpoint s capacity).state = live s
  restores : ∀ saved s capacity token, (api.checkpoint saved capacity).answer = .accepted →
    (api.checkpoint saved capacity).size.toNat = capacity →
    (api.prepare s .state (fill capacity (api.checkpoint saved capacity).bytes)).answer
      = .accepted →
    (api.prepare s .state (fill capacity (api.checkpoint saved capacity).bytes)).token
      = some token →
    guest (live (api.commit (api.prepare s .state
      (fill capacity (api.checkpoint saved capacity).bytes)).state (some token)).2)
      = guest (live saved)

/-- Newest first: every token was committed or discarded, once, before the next was asked for. -/
inductive Settled : List (TokenEvent T) → Prop
  | empty : Settled []
  | committed (token : T) {ledger : List (TokenEvent T)} (h : Settled ledger) :
      Settled (.committed (some token) :: .prepared token :: ledger)
  | discarded (token : T) {ledger : List (TokenEvent T)} (h : Settled ledger) :
      Settled (.discarded token :: .prepared token :: ledger)

/-- What a transition that throws has to leave as it was. -/
structure Unchanged (live : M → L) (m m' : ForeignMachine I M T) : Prop where
  rom : m'.rom = m.rom
  binding : m'.binding = m.binding
  world : m'.world = m.world
  runtime : live m'.runtime = live m.runtime
  inputMask : m'.inputMask = m.inputMask

/-- A machine between two operations, for native mods as in a given world. -/
structure AtRest (w : World I) (m : ForeignMachine I M T) : Prop where
  pending : m.pending = none
  settled : Settled m.ledger
  inputMask : m.inputMask.toNat < 256
  modules : SameModules w m.world

theorem exec_call (f : ForeignMachine I M T → Answer × α × ForeignMachine I M T)
    (m : ForeignMachine I M T) :
    (∃ e, exec (call f) m = (.error e, m) ∧ m.fault = true)
      ∨ (∃ e, exec (call f) m = (.error e, (f m).2.2) ∧ (f m).1 ≠ .accepted)
      ∨ (exec (call f) m = (.ok (f m).2.1, (f m).2.2) ∧ (f m).1 = .accepted) := by
  show (∃ e, call f m = _ ∧ _) ∨ (∃ e, call f m = _ ∧ _) ∨ (call f m = _ ∧ _)
  unfold call
  split
  · next hfault => exact .inl ⟨_, rfl, hfault⟩
  · cases hanswer : (f m).1 with
    | threw => exact .inr (.inl ⟨_, rfl, nofun⟩)
    | returned value =>
      dsimp only
      split
      · next hvalue =>
        subst hvalue
        exact .inr (.inr ⟨rfl, rfl⟩)
      · next hvalue =>
        refine .inr (.inl ⟨_, rfl, ?_⟩)
        intro haccepted
        exact hvalue (Answer.returned.inj haccepted)

variable {m : ForeignMachine I M T}

theorem call_faulted (h : m.fault = true)
    (f : ForeignMachine I M T → Answer × α × ForeignMachine I M T) :
    exec (call f) m = (.error "foreign machine is faulted", m) := by
  show call f m = _
  unfold call
  rw [if_pos h]

/-! ## One transaction -/

variable (api : TimeMachineRuntime M T)

/-- The machine while it holds a token the module has accepted. -/
def holding (m : ForeignMachine I M T)
    (operation : PrepareOperation) (bytes : List Byte) (token : T) : ForeignMachine I M T :=
  { m with
    runtime := (api.prepare m.runtime operation bytes).state
    pending := some token
    ledger := .prepared token :: m.ledger }

/-- The machine after a token was handed out and discarded; the fields of the host are as they
were. -/
def released (m : ForeignMachine I M T)
    (operation : PrepareOperation) (bytes : List Byte) (token : T) : ForeignMachine I M T :=
  { m with
    runtime := (api.discard (api.prepare m.runtime operation bytes).state token).2
    pending := none
    ledger := .discarded token :: .prepared token :: m.ledger }

theorem cleanup_of_none (h : m.pending = none) : cleanup api m = m := by
  unfold cleanup
  rw [h]

variable {live : M → L} {guest : L → G} {operation : PrepareOperation} {bytes : List Byte}
variable {token : T}

theorem prepareCallback_some (m : ForeignMachine I M T)
    (h : (api.prepare m.runtime operation bytes).token = some token) :
    (prepareCallback api operation bytes m).2.2 = holding api m operation bytes token := by
  unfold prepareCallback
  dsimp only
  rw [h]
  rfl

structure Refused (live : M → L) (m m' : ForeignMachine I M T) : Prop where
  unchanged : Unchanged live m m'
  pending : m'.pending = none
  settled : Settled m.ledger → Settled m'.ledger
  fault : m'.fault = m.fault

section

variable {api} (hapi : Obeys api live guest)
include hapi

theorem cleanup_holding (m : ForeignMachine I M T)
    (h : (api.prepare m.runtime operation bytes).token = some token) :
    cleanup api (holding api m operation bytes token) = released api m operation bytes token := by
  unfold cleanup holding released
  dsimp only
  rw [(hapi.discard m.runtime operation bytes token h).1, Bool.not_true, Bool.or_false]

theorem refused_released (m : ForeignMachine I M T)
    (h : (api.prepare m.runtime operation bytes).token = some token) :
    Refused live m (released api m operation bytes token) where
  unchanged := ⟨rfl, rfl, rfl, (hapi.discard m.runtime operation bytes token h).2, rfl⟩
  pending := rfl
  settled hsettled := .discarded token hsettled
  fault := rfl

theorem prepareCallback_none (hpending : m.pending = none)
    (h : (api.prepare m.runtime operation bytes).token = none) :
    (prepareCallback api operation bytes m).2.2.pending = none
      ∧ Refused live m (prepareCallback api operation bytes m).2.2 := by
  have hleft : (prepareCallback api operation bytes m).2.2
      = { m with runtime := (api.prepare m.runtime operation bytes).state } := by
    unfold prepareCallback
    dsimp only
    rw [h, hpending]
    rfl
  rw [hleft]
  exact ⟨hpending, ⟨rfl, rfl, rfl, hapi.prepare _ _ _, rfl⟩, hpending, id, rfl⟩

/-- How a preparation ends: with the token in hand, or with nothing. -/
theorem prepare_cases (hpending : m.pending = none) (operation : PrepareOperation)
    (bytes : List Byte) :
    (∃ e m', exec (prepare api operation bytes) m = (.error e, m') ∧ Refused live m m')
      ∨ ∃ token, (api.prepare m.runtime operation bytes).answer = .accepted
        ∧ (api.prepare m.runtime operation bytes).token = some token
        ∧ exec (prepare api operation bytes) m
          = (.ok (), holding api m operation bytes token) := by
  have hsame : Refused live m m := ⟨⟨rfl, rfl, rfl, rfl, rfl⟩, hpending, id, rfl⟩
  show (∃ e m', prepare api operation bytes m = _ ∧ _) ∨ ∃ token, _ ∧ _ ∧ prepare api _ _ m = _
  unfold prepare
  split
  · exact .inl ⟨_, m, rfl, hsame⟩
  · obtain ⟨e, hcall, -⟩ | ⟨e, hcall, -⟩ | ⟨hcall, haccepted⟩ :=
      exec_call (prepareCallback api operation bytes) m
    · rw [hcall]
      dsimp only
      rw [cleanup_of_none api hpending]
      exact .inl ⟨e, m, rfl, hsame⟩
    · rw [hcall]
      refine .inl ⟨e, _, rfl, ?_⟩
      cases htoken : (api.prepare m.runtime operation bytes).token with
      | none =>
        obtain ⟨hnone, hrefused⟩ := prepareCallback_none hapi hpending htoken
        rw [cleanup_of_none api hnone]
        exact hrefused
      | some token =>
        rw [prepareCallback_some api m htoken, cleanup_holding hapi m htoken]
        exact refused_released hapi m htoken
    · rw [hcall]
      dsimp only
      cases htoken : (api.prepare m.runtime operation bytes).token with
      | none =>
        obtain ⟨hnone, hrefused⟩ := prepareCallback_none hapi hpending htoken
        rw [hnone]
        exact .inl ⟨_, _, rfl, hrefused⟩
      | some token =>
        rw [prepareCallback_some api m htoken]
        exact .inr ⟨token, haccepted, rfl, rfl⟩

end

/-! ## One transition -/

/-- The machine once the native mods and the module have been committed. -/
def committed (api : TimeMachineRuntime M T) (m : ForeignMachine I M T)
    (operation : PrepareOperation) (bytes : List Byte) (token : T) (world : World I) :
    ForeignMachine I M T :=
  { m with
    world := world
    runtime := (api.commit (api.prepare m.runtime operation bytes).state (some token)).2
    pending := none
    ledger := .committed (some token) :: .prepared token :: m.ledger }

/-- The machine after a transition that has published its changes, under the coordinator that
ran it. -/
def publishedBy (m : ForeignMachine I M T)
    (operation : PrepareOperation) (bytes : List Byte) (token : T) (world : World I)
    (host : ForeignMachine I M T → ForeignMachine I M T)
    (lifecycle : MachineLifecycleCoordinator) : ForeignMachine I M T :=
  { host (committed api m operation bytes token world) with lifecycle := lifecycle }

theorem Refused.of_lifecycle {m' : ForeignMachine I M T} {lifecycle : MachineLifecycleCoordinator}
    (h : Refused live { m with lifecycle := lifecycle } m') : Refused live m m' where
  unchanged := ⟨h.unchanged.rom, h.unchanged.binding, h.unchanged.world, h.unchanged.runtime,
    h.unchanged.inputMask⟩
  pending := h.pending
  settled := h.settled
  fault := h.fault

theorem exec_withPrepared_ok {api : TimeMachineRuntime M T} {held : ForeignMachine I M T}
    {body : Action (ForeignMachine I M T) String α}
    (h : exec (prepare api operation bytes) m = (.ok (), held)) :
    exec (withPrepared api operation bytes body) m
      = ((exec body held).1, cleanup api (exec body held).2) := by
  show withPrepared api operation bytes body m = _
  unfold withPrepared
  rw [h]

/-- A mutation that settles at once is called once, if the transition is begun at all. -/
theorem runTransition_cases (reason : MachineTransitionReason)
    (mutation : Action (ForeignMachine I M T) String MachineTransitionMutationResult)
    (m : ForeignMachine I M T)
    (hm : MachineLifecycleCoordinator.SettlesAtOnce (laneMutation mutation m)) :
    (m.lifecycle.transitionDepth ≠ 0
        ∧ ∃ d, exec (runTransition reason mutation) m = (.ok false, { m with lifecycle := d }))
      ∨ (∃ d e, (exec mutation m).1 = .error e ∧ exec (runTransition reason mutation) m
        = (.error e, { (exec mutation m).2 with lifecycle := d }))
      ∨ ∃ d r, (exec mutation m).1 = .ok r ∧ exec (runTransition reason mutation) m
        = (.ok m.lifecycle.services.resumable, { (exec mutation m).2 with lifecycle := d }) := by
  have hends := MachineLifecycleCoordinator.endsOnce_runTransition m.lifecycle reason hm
  have hdone : ∀ ended, m.lifecycle.runTransition reason (some (laneMutation mutation m)) = ended →
      ∀ done, ended.returned = some done → exec (runTransition reason mutation) m =
        (.ok done, { afterCalls mutation m ended.calls with lifecycle := ended.coordinator }) := by
    rintro ended rfl done h
    show runTransition reason mutation m = _
    unfold runTransition
    dsimp only
    rw [h]
  have hrun : ∀ ended, m.lifecycle.runTransition reason (some (laneMutation mutation m)) = ended →
      ended.returned = none → exec (runTransition reason mutation) m =
        ((exec mutation (afterCalls mutation m (ended.calls - 1))).1.map
          MachineTransitionMutationResult.success,
          { afterCalls mutation m ended.calls with lifecycle := ended.coordinator }) := by
    rintro ended rfl h
    show runTransition reason mutation m = _
    unfold runTransition
    dsimp only
    rw [h]
  replace hdone := hdone _ rfl
  replace hrun := hrun _ rfl
  generalize m.lifecycle.runTransition reason (some (laneMutation mutation m)) = ended
    at hends hdone hrun
  cases hends with
  | refused d h => exact .inl ⟨h, d, hdone _ rfl⟩
  | threw d s h =>
    replace h : (exec mutation m).1.toOption = none := h
    cases hresult : (exec mutation m).1 with
    | ok r =>
      rw [hresult] at h
      cases h
    | error e =>
      refine .inr (.inl ⟨d, e, rfl, (hrun rfl).trans ?_⟩)
      exact congrArg (·, _) (congrArg (Except.map _) hresult)
  | concluded d s r h =>
    replace h : (exec mutation m).1.toOption = some r := h
    cases hresult : (exec mutation m).1 with
    | error e =>
      rw [hresult] at h
      cases h
    | ok r => exact .inr (.inr ⟨d, r, rfl, hdone _ rfl⟩)

section

variable {api} (hapi : Obeys api live guest) (F : Files)
  (hquiet : ∀ n ∈ m.world.cohort, QuietSave n.impl.api) (native : PreparedCohort I)
  (host : ForeignMachine I M T → ForeignMachine I M T)
  (haccepted : (api.prepare m.runtime operation bytes).answer = .accepted)
  (htoken : (api.prepare m.runtime operation bytes).token = some token)
include hapi hquiet haccepted htoken

theorem exec_publication :
    (∃ e, (exec (commit F native) m.world).1 = .error e
        ∧ exec (publication api F native host) (holding api m operation bytes token)
          = (.error e, holding api m operation bytes token))
      ∨ ∃ world, exec (commit F native) m.world = (.ok PUnit.unit, world)
        ∧ exec (publication api F native host) (holding api m operation bytes token)
          = (.ok {}, host (committed api m operation bytes token world)) := by
  have hworld : exec (onWorld (commit F native)) (holding api m operation bytes token)
      = ((exec (commit F native) m.world).1,
        { holding api m operation bytes token with world := (exec (commit F native) m.world).2 })
    := rfl
  unfold publication
  cases hcommit : (exec (commit F native) m.world).1 with
  | error e =>
    rw [hcommit, atomic_commit F hquiet native e hcommit] at hworld
    exact .inl ⟨e, rfl, exec_bind_error hworld⟩
  | ok u =>
    rw [hcommit] at hworld
    refine .inr ⟨(exec (commit F native) m.world).2, Prod.ext hcommit rfl, ?_⟩
    have hmodule : exec (commitPending api)
        { holding api m operation bytes token with world := (exec (commit F native) m.world).2 }
        = (.ok (), committed api m operation bytes token (exec (commit F native) m.world).2) := by
      show commitPending api _ = _
      unfold commitPending holding
      rw [if_pos (hapi.commit _ _ _ _ haccepted htoken)]
      rfl
    rw [exec_bind_ok hworld, exec_bind_ok hmodule, exec_bind_ok (exec_modify _ _)]
    rfl

theorem settlesAtOnce_publication :
    MachineLifecycleCoordinator.SettlesAtOnce
      (laneMutation (publication api F native host) (holding api m operation bytes token)) where
  lanes _ _ := rfl
  nested _ _ := rfl
  success s r hr := by
    replace hr : (exec (publication api F native host)
      (holding api m operation bytes token)).1.toOption = some r := hr
    obtain ⟨e, -, hexec⟩ | ⟨world, -, hexec⟩ :=
      exec_publication hapi F hquiet native host haccepted htoken
    · rw [hexec] at hr
      cases hr
    · rw [hexec] at hr
      cases hr
      rfl

/-- What is done while the token is held: nothing is published, or everything is. -/
theorem exec_transition (reason : MachineTransitionReason) (refusal : String) :
    (∃ lifecycle e, exec (do
        let done ← runTransition reason (publication api F native host)
        require done refusal) (holding api m operation bytes token)
        = (.error e, holding api { m with lifecycle := lifecycle } operation bytes token))
      ∨ ∃ lifecycle world, exec (commit F native) m.world = (.ok PUnit.unit, world)
        ∧ exec (do
            let done ← runTransition reason (publication api F native host)
            require done refusal) (holding api m operation bytes token)
          = (if m.lifecycle.services.resumable then .ok () else .error refusal,
            publishedBy api m operation bytes token world host lifecycle) := by
  have hpublish := exec_publication hapi F hquiet native host haccepted htoken
  obtain ⟨-, d, hrun⟩ | ⟨d, e, hthrew, hrun⟩ | ⟨d, r, hdone, hrun⟩ := runTransition_cases reason
    (publication api F native host) (holding api m operation bytes token)
    (settlesAtOnce_publication hapi F hquiet native host haccepted htoken)
  · refine .inl ⟨d, refusal, ?_⟩
    rw [exec_bind_ok hrun]
    rfl
  · obtain ⟨e', -, hfailed⟩ | ⟨world, -, hdone⟩ := hpublish
    · rw [hfailed] at hrun
      exact .inl ⟨d, e, exec_bind_error hrun⟩
    · rw [hdone] at hthrew
      cases hthrew
  · obtain ⟨e', -, hfailed⟩ | ⟨world, hcommit, hpublished⟩ := hpublish
    · rw [hfailed] at hdone
      cases hdone
    · rw [hpublished] at hrun
      refine .inr ⟨d, world, hcommit, ?_⟩
      rw [exec_bind_ok hrun]
      exact exec_fromExcept _ _

end

/-- A transition that nothing refuses. -/
theorem transition_accepted {api : TimeMachineRuntime M T}
    (hapi : Obeys api live guest) {F : Files} (hfault : m.fault = false)
    (hquiet : ∀ n ∈ m.world.cohort, QuietSave n.impl.api) {native : PreparedCohort I}
    {world : World I} (hcommit : exec (commit F native) m.world = (.ok PUnit.unit, world))
    (host : ForeignMachine I M T → ForeignMachine I M T)
    (hbytes : bytes ≠ [] ∧ bytes.length ≤ stateBudget)
    (haccepted : (api.prepare m.runtime operation bytes).answer = .accepted)
    (htoken : (api.prepare m.runtime operation bytes).token = some token)
    (hdepth : m.lifecycle.transitionDepth = 0) (hlanes : m.lifecycle.services.resumable = true)
    (reason : MachineTransitionReason) (refusal : String) :
    (exec (withPrepared api operation bytes (do
      let done ← runTransition reason (publication api F native host)
      require done refusal)) m).1 = .ok () := by
  have hprepare : exec (prepare api operation bytes) m
      = (.ok (), holding api m operation bytes token) := by
    show prepare api operation bytes m = _
    have hcall : exec (call (prepareCallback api operation bytes)) m
        = (.ok (), holding api m operation bytes token) := by
      rw [← prepareCallback_some api m htoken]
      show call (prepareCallback api operation bytes) m = _
      unfold call
      rw [hfault, if_neg (by simp)]
      simp only [prepareCallback, haccepted]
      rfl
    unfold prepare
    rw [hcall, if_neg (by simpa using hbytes)]
    rfl
  rw [exec_withPrepared_ok hprepare]
  obtain ⟨e, hfailed, -⟩ | ⟨world', -, hpublished⟩ :=
    exec_publication hapi F hquiet native host haccepted htoken
  · rw [hcommit] at hfailed
    cases hfailed
  · obtain ⟨hbusy, -⟩ | ⟨d, e, hthrew, -⟩ | ⟨d, r, -, hrun⟩ := runTransition_cases reason
      (publication api F native host) (holding api m operation bytes token)
      (settlesAtOnce_publication hapi F hquiet native host haccepted htoken)
    · exact absurd hdepth hbusy
    · rw [hpublished] at hthrew
      cases hthrew
    · rw [exec_bind_ok hrun]
      show (exec (require m.lifecycle.services.resumable refusal) _).1 = .ok ()
      rw [hlanes]
      rfl

/-! ## Loads -/

/-- Everything has changed: the native mods, the module and the fields of the host. -/
def Published (F : Files) (m : ForeignMachine I M T)
    (operation : PrepareOperation) (bytes : List Byte)
    (host : ForeignMachine I M T → ForeignMachine I M T) (m' : ForeignMachine I M T) : Prop :=
  ∃ native token world lifecycle, Holds m.world native
    ∧ (api.prepare m.runtime operation bytes).answer = .accepted
    ∧ (api.prepare m.runtime operation bytes).token = some token
    ∧ exec (commit F native) m.world = (.ok PUnit.unit, world)
    ∧ m' = publishedBy api m operation bytes token world host lifecycle

/-- A load ends with nothing changed, by throwing, or with all of it, and then it throws just when
the lanes could not be resumed. -/
def Ends (live : M → L) (m : ForeignMachine I M T) (P : ForeignMachine I M T → Prop)
    (refusal : String) (r : Except String Unit × ForeignMachine I M T) : Prop :=
  (∃ e m', r = (.error e, m') ∧ Refused live m m')
    ∨ ∃ m', P m' ∧ r = (if m.lifecycle.services.resumable then .ok () else .error refusal, m')

theorem refused_refl (live : M → L) (h : m.pending = none) :
    Refused live m m := ⟨⟨rfl, rfl, rfl, rfl, rfl⟩, h, id, rfl⟩

theorem ends_bind {P : ForeignMachine I M T → Prop}
    {refusal : String} {x : Action (ForeignMachine I M T) String α}
    {f : α → Action (ForeignMachine I M T) String Unit} (hpending : m.pending = none)
    (hx : Keeps x m) (hf : ∀ a, exec x m = (.ok a, m) → Ends live m P refusal (exec (f a) m)) :
    Ends live m P refusal (exec (x >>= f) m) := by
  unfold Keeps at hx
  cases hexec : exec x m with
  | mk result t =>
    rw [hexec] at hx hf
    obtain rfl : t = m := hx
    cases result with
    | ok a =>
      rw [exec_bind_ok hexec]
      exact hf a rfl
    | error e => exact .inl ⟨e, t, exec_bind_error hexec, refused_refl live hpending⟩

theorem keeps_onWorld {x : Action (World I) String α}
    (h : Keeps x m.world) : Keeps (onWorld x) m := by
  show ({ m with world := (exec x m.world).2 } : ForeignMachine I M T) = m
  rw [h]

theorem onWorld_eq_ok {x : Action (World I) String α} {m' : ForeignMachine I M T} {a : α}
    (h : exec (onWorld x) m = (.ok a, m')) : exec x m.world = (.ok a, m'.world) := by
  obtain ⟨hresult, hstate⟩ := Prod.mk.inj h
  exact Prod.ext hresult (congrArg ForeignMachine.world hstate)

variable {F : Files}

section

variable {api} (hapi : Obeys api live guest) (hpending : m.pending = none)
include hapi hpending

/-- How a transition ends: it throws and has changed nothing, or everything has changed, and then
it throws just when the lanes could not be resumed. -/
theorem transition_cases (F : Files) (hquiet : ∀ n ∈ m.world.cohort, QuietSave n.impl.api)
    (native : PreparedCohort I) (host : ForeignMachine I M T → ForeignMachine I M T)
    (hhost : ∀ n, (host n).pending = n.pending) (operation : PrepareOperation)
    (bytes : List Byte) (reason : MachineTransitionReason) (refusal : String) :
    (∃ e m', exec (withPrepared api operation bytes (do
        let done ← runTransition reason (publication api F native host)
        require done refusal)) m = (.error e, m') ∧ Refused live m m')
      ∨ ∃ token world lifecycle,
        (api.prepare m.runtime operation bytes).answer = .accepted
        ∧ (api.prepare m.runtime operation bytes).token = some token
        ∧ exec (commit F native) m.world = (.ok PUnit.unit, world)
        ∧ exec (withPrepared api operation bytes (do
            let done ← runTransition reason (publication api F native host)
            require done refusal)) m
          = (if m.lifecycle.services.resumable then .ok () else .error refusal,
            publishedBy api m operation bytes token world host lifecycle) := by
  obtain ⟨e, m', hprepare, hrefused⟩ | ⟨token, haccepted, htoken, hprepare⟩ :=
    prepare_cases hapi hpending operation bytes
  · refine .inl ⟨e, m', ?_, hrefused⟩
    show withPrepared api operation bytes _ m = _
    unfold withPrepared
    rw [hprepare]
  · rw [exec_withPrepared_ok hprepare]
    obtain ⟨lifecycle, e, hbody⟩ | ⟨lifecycle, world, hcommit, hbody⟩ :=
      exec_transition hapi F hquiet native host haccepted htoken reason refusal
    · rw [hbody]
      refine .inl ⟨e, _, rfl, ?_⟩
      rw [cleanup_holding hapi { m with lifecycle := lifecycle } htoken]
      exact (refused_released hapi { m with lifecycle := lifecycle } htoken).of_lifecycle
    · rw [hbody, cleanup_of_none api (hhost _)]
      exact .inr ⟨token, world, lifecycle, haccepted, htoken, hcommit, rfl⟩

theorem ends_transition (hquiet : ∀ n ∈ m.world.cohort, QuietSave n.impl.api)
    {native : PreparedCohort I} (hnative : Holds m.world native)
    (host : ForeignMachine I M T → ForeignMachine I M T)
    (hhost : ∀ n, (host n).pending = n.pending) (operation : PrepareOperation)
    (bytes : List Byte) (reason : MachineTransitionReason) (refusal : String) :
    Ends live m (Published api F m operation bytes host) refusal
      (exec (withPrepared api operation bytes (do
        let done ← runTransition reason (publication api F native host)
        require done refusal)) m) := by
  obtain hrefused | ⟨token, world, lifecycle, haccepted, htoken, hcommit, hexec⟩ :=
    transition_cases hapi hpending F hquiet native host hhost operation bytes reason refusal
  · exact .inl hrefused
  · exact .inr ⟨_, ⟨native, token, world, lifecycle, hnative, haccepted, htoken, hcommit, rfl⟩,
      hexec⟩

theorem ends_loadRom {library : Library I} (hmods : Obedient F library m.world) (bytes : List Byte) :
    Ends live m
      (Published api F m .rom bytes (romPublished bytes (bindingOf F m.descriptor bytes)))
      "foreign ROM lifecycle transition failed" (exec (loadRom api F library bytes) m) := by
  apply ends_bind hpending (keeps_require _ _ m)
  intro u _
  apply ends_bind hpending (keeps_get m)
  intro now hnow
  cases hnow
  apply ends_bind hpending (keeps_onWorld (keeps_prepareReset F library hmods.quiet))
  intro native hnative
  exact ends_transition hapi hpending hmods.quiet
    (holds_prepareReset hmods.quiet hmods.attached (onWorld_eq_ok hnative))
    (romPublished bytes (bindingOf F m.descriptor bytes)) (fun _ => rfl) .rom bytes .romLoad
    "foreign ROM lifecycle transition failed"

theorem ends_loadState {library : Library I} (hmods : Obedient F library m.world) (file : List Byte) :
    Ends live m
      (fun m' => ∃ saved mask, Published api F m .state saved (·.published mask) m')
      "foreign restore lifecycle failed" (exec (loadState api F library file) m) := by
  apply ends_bind hpending (keeps_get m)
  intro now hnow
  cases hnow
  apply ends_bind hpending (keeps_require _ _ m)
  intro u _
  apply ends_bind hpending (keeps_fromExcept _ m)
  intro state _
  apply ends_bind hpending (keeps_require _ _ m)
  intro u _
  apply ends_bind hpending (keeps_fromExcept _ m)
  intro binding _
  apply ends_bind hpending (keeps_require _ _ m)
  intro u _
  apply ends_bind hpending (keeps_fromExcept _ m)
  intro input _
  apply ends_bind hpending (keeps_require _ _ m)
  intro u _
  apply ends_bind hpending (keeps_fromExcept _ m)
  intro modules _
  apply ends_bind hpending (keeps_fromExcept _ m)
  intro regions _
  apply ends_bind hpending (keeps_onWorld (keeps_prepareCohort F library hmods.quiet _ _))
  intro native hnative
  apply ends_bind hpending (keeps_fromExcept _ m)
  intro saved _
  obtain hrefused | ⟨m', hpublished, hexec⟩ := ends_transition hapi hpending hmods.quiet
    (holds_prepareCohort hmods.quiet hmods.attached (onWorld_eq_ok hnative))
    (·.published (input.headD 0)) (fun _ => rfl) .state saved .configReconfigure
    "foreign restore lifecycle failed"
  · exact .inl hrefused
  · exact .inr ⟨m', ⟨saved, _, hpublished⟩, hexec⟩

end

end ProtoTime.Emulator.ForeignMachine
