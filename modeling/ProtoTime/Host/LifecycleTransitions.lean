import ProtoTime.Host.MachineLifecycleCoordinator

/-!
What a lifecycle transition leaves behind: a coordinator that accepts the next one, its books in
balance, the lanes resumed and the audio drain gate closed for the backend to open.
-/
namespace ProtoTime.Host

open Transition

def TransitionMutation.Returns (m : TransitionMutation) : Prop :=
  ∀ attempt s, (m.call attempt s).result ≠ none

/-! ## Scopes -/

variable {s : LaneServices}

namespace LaneServices

/-- Both services are inside a mutation scope. -/
def InScope (s : LaneServices) : Prop :=
  (∀ d, s.scopes.1 = some d → d ≠ 0) ∧ ∀ d, s.scopes.2 = some d → d ≠ 0

theorem InScope.of_scopes {t : LaneServices} (h : s.InScope) (hst : t.scopes = s.scopes) :
    t.InScope := by
  unfold InScope
  rw [hst]
  exact h

theorem beginScope_inScope (s : LaneServices) : s.beginScope.InScope := by
  constructor
  · intro d hd
    obtain ⟨a, ha, rfl⟩ := Option.map_eq_some_iff.mp hd
    obtain ⟨b, -, rfl⟩ := Option.map_eq_some_iff.mp ha
    exact Nat.succ_ne_zero _
  · intro d hd
    obtain ⟨v, hv, rfl⟩ := Option.map_eq_some_iff.mp hd
    obtain ⟨w, -, rfl⟩ := Option.map_eq_some_iff.mp hv
    exact Nat.succ_ne_zero _

theorem InScope.allows (h : s.InScope) {v : VideoService}
    (hv : s.video = some v) : v.allowLifecycleMutation = true := by
  have hdepth := h.2 v.lifecycleMutationScopeDepth (by unfold scopes; rw [hv]; rfl)
  unfold VideoService.allowLifecycleMutation
  rw [bne_iff_ne.mpr hdepth, Bool.or_true]

end LaneServices

theorem VideoService.pause_scope (v : VideoService) :
    v.pause.2.lifecycleMutationScopeDepth = v.lifecycleMutationScopeDepth := by
  unfold pause lifecycle
  split
  · dsimp only
    split
    · rfl
    · rfl
  · rfl

variable {v : VideoService}

theorem VideoService.pause_ok (h : v.allowLifecycleMutation = true) : v.pause.1 = true := by
  unfold pause lifecycle
  rw [if_pos h]
  dsimp only
  split
  · rfl
  · rfl

theorem VideoService.resume_active (h : v.allowLifecycleMutation = true)
    {p : VideoPresenter} (hpresenter : v.resume.2.presenter = some p)
    (hopens : p.ready = true ∨ p.opens = true) : v.resume.2.state = .active := by
  unfold resume lifecycle at hpresenter ⊢
  rw [if_pos h] at hpresenter ⊢
  dsimp only at hpresenter ⊢
  cases hold : v.presenter with
  | none =>
    rw [hold] at hpresenter
    cases hpresenter
  | some q =>
    rw [hold] at hpresenter
    dsimp only at hpresenter ⊢
    split at hpresenter
    · next hready => rw [if_pos hready]
    · next hready =>
      cases hpresenter
      rw [Bool.or_eq_true] at hready
      exact absurd hopens hready

theorem AudioLane.setBackendPausedOrClosed_scope (a : AudioLane) (b : Bool) :
    (a.setBackendPausedOrClosed b).lifecycleMutationScopeDepth
      = a.lifecycleMutationScopeDepth := by
  unfold setBackendPausedOrClosed
  split
  · rfl
  · split
    · rfl
    · rfl

namespace LaneServices

theorem pauseLanes_scopes (s : LaneServices) : s.pauseLanes.2.scopes = s.scopes := by
  unfold pauseLanes scopes
  rw [Option.map_map, Option.map_map]
  congr 1
  · congr 1
    funext a
    exact a.setBackendPausedOrClosed_scope true
  · congr 1
    funext v
    exact v.pause_scope

theorem pauseLanes_ok (h : s.InScope) : s.pauseLanes.1 = true := by
  unfold pauseLanes
  cases hv : s.video with
  | none => rfl
  | some v => exact VideoService.pause_ok (h.allows hv)

/-- Whether the lanes come back after a pause: a presenter that was shown has to open again. -/
def resumable (s : LaneServices) : Bool :=
  !s.videoActive || s.video.all fun v => v.presenter.all VideoPresenter.opens

theorem resumable_beginScope (s : LaneServices) : s.beginScope.resumable = s.resumable := by
  obtain ⟨audio, video⟩ := s
  cases video with
  | none => rfl
  | some v => rfl

end LaneServices

theorem VideoService.resume_ok (h : v.allowLifecycleMutation = true) :
    v.resume.1 = v.presenter.all fun p => p.ready || p.opens := by
  unfold resume lifecycle
  rw [if_pos h]
  dsimp only
  cases v.presenter with
  | none => rfl
  | some p => cases hready : p.ready || p.opens <;> simp [hready]

theorem VideoService.pause_presenter (h : v.allowLifecycleMutation = true) :
    v.pause.2.presenter = v.presenter.map ({ · with ready := false })
      ∧ v.pause.2.allowLifecycleMutation = true := by
  unfold pause lifecycle
  rw [if_pos h]
  dsimp only
  split
  · next p hpresenter =>
    rw [hpresenter]
    exact ⟨rfl, h⟩
  · next hpresenter =>
    rw [hpresenter]
    exact ⟨rfl, h⟩

theorem VideoService.resume_of_pause (h : v.allowLifecycleMutation = true) :
    v.pause.2.bumpLifecycleEpochBarrier.resume.1 = v.presenter.all VideoPresenter.opens := by
  obtain ⟨hpresenter, hallowed⟩ := VideoService.pause_presenter h
  rw [VideoService.resume_ok (v := v.pause.2.bumpLifecycleEpochBarrier) hallowed]
  show v.pause.2.presenter.all _ = _
  rw [hpresenter]
  cases v.presenter with
  | none => rfl
  | some p => simp

namespace LaneServices

theorem resumed_eq (h : s.InScope) :
    (s.pauseLanes.2.bumpEpochs.resumeLanes s.videoActive).1 = s.resumable := by
  obtain ⟨audio, video⟩ := s
  cases video with
  | none => rfl
  | some v => exact congrArg (!_ || ·) (VideoService.resume_of_pause (h.allows rfl))

end LaneServices

/-! ## The attempts -/

namespace MachineLifecycleCoordinator

variable (c : MachineLifecycleCoordinator)

/-- The transitions counted that have not ended. -/
def Owes (n : ℕ) : Prop :=
  c.stats.transitionCount
    = c.stats.successCount + c.stats.degradedCount + c.stats.failureCount + n

/-- The same transition is underway, in the same scopes, and as many are owed. -/
structure Carries (c d : MachineLifecycleCoordinator) : Prop where
  transitionDepth : d.transitionDepth = c.transitionDepth
  scopes : d.services.scopes = c.services.scopes
  owes : ∀ n, c.Owes n → d.Owes n

variable {d : MachineLifecycleCoordinator}

theorem Carries.trans {c e : MachineLifecycleCoordinator} (hcd : c.Carries d)
    (hde : d.Carries e) : c.Carries e where
  transitionDepth := hde.transitionDepth.trans hcd.transitionDepth
  scopes := hde.scopes.trans hcd.scopes
  owes n h := hde.owes n (hcd.owes n h)

theorem noteTransition_owes {c : MachineLifecycleCoordinator} {n : ℕ} (h : c.Owes n)
    (reason : MachineTransitionReason) : (c.noteTransition reason).Owes (n + 1) := by
  show c.stats.transitionCount + 1 = _
  rw [h]
  rfl

theorem rejectReentry_owes {c : MachineLifecycleCoordinator} {n : ℕ} (h : c.Owes (n + 1))
    (reason : MachineTransitionReason) : (c.rejectReentry reason).Owes n := by
  unfold Owes at *
  show c.stats.transitionCount
    = c.stats.successCount + c.stats.degradedCount + (c.stats.failureCount + 1) + n
  omega

theorem nested_carries (nested : List MachineTransitionReason) :
    c.Carries (nested.foldl nestedTransition c) := by
  induction nested generalizing c with
  | nil => exact ⟨rfl, rfl, fun _ h => h⟩
  | cons reason nested ih =>
    have hfirst : c.Carries (c.nestedTransition reason) :=
      ⟨rfl, rfl, fun n h => rejectReentry_owes (noteTransition_owes h reason) reason⟩
    exact hfirst.trans (ih _)

variable {mutation : Option TransitionMutation}

theorem callMutation_spec
    (hreturns : ∀ m, mutation = some m → m.Returns) (c : MachineLifecycleCoordinator)
    (attempt : ℕ) : ∃ result d, c.callMutation mutation attempt = (some result, d)
      ∧ c.Carries d := by
  cases mutation with
  | none => exact ⟨{}, c, rfl, rfl, rfl, fun _ h => h⟩
  | some m =>
    obtain ⟨result, hresult⟩ := Option.ne_none_iff_exists'.mp (hreturns m rfl attempt c.services)
    refine ⟨result, ((m.call attempt c.services).nested.foldl nestedTransition
      { c with services := (m.call attempt c.services).services }), ?_, ?_⟩
    · unfold callMutation
      dsimp only
      rw [hresult]
    · have hservices : c.Carries { c with services := (m.call attempt c.services).services } :=
        ⟨rfl, m.scopesKept attempt c.services, fun _ h => h⟩
      exact hservices.trans (nested_carries _ _)

structure Attempted (c : MachineLifecycleCoordinator) (attempts : ℕ) (ended : AttemptEnd) :
    Prop where
  threw : ended.threw = false
  pauseOk : ended.pauseOk = true
  carries : c.Carries ended.coordinator
  calls : ended.calls = ended.attempts + if ended.mutationResult.success then 1 else 0
  first : attempts < ended.calls
  once : ended.calls = attempts + 1 → ended.wasVideoActive = c.services.videoActive

theorem attemptMutation_eq {remaining attempts : ℕ}
    {last result : MachineTransitionMutationResult} {c : MachineLifecycleCoordinator}
    (hpause : c.services.pauseLanes.1 = true)
    (hcall : { c with services := c.services.pauseLanes.2 }.callMutation mutation attempts
      = (some result, d)) :
    attemptMutation mutation remaining attempts last c =
      if result.success then
        ⟨d, c.services.videoActive, result, attempts, true, false, attempts + 1⟩
      else
        match remaining with
        | 0 => ⟨d, c.services.videoActive, result, attempts + 1, true, false, attempts + 1⟩
        | remaining + 1 => attemptMutation mutation remaining (attempts + 1) result d := by
  rw [attemptMutation.eq_def]
  dsimp only
  rw [hpause, hcall]
  rfl

theorem attemptMutation_spec
    (hreturns : ∀ m, mutation = some m → m.Returns) (remaining attempts : ℕ)
    (last : MachineTransitionMutationResult) {c : MachineLifecycleCoordinator}
    (hscope : c.services.InScope) :
    c.Attempted attempts (attemptMutation mutation remaining attempts last c) := by
  have hpaused (c : MachineLifecycleCoordinator) :
      c.Carries { c with services := c.services.pauseLanes.2 } :=
    ⟨rfl, c.services.pauseLanes_scopes, fun _ h => h⟩
  induction remaining generalizing attempts last c with
  | zero =>
    obtain ⟨result, d, hcall, hcarries⟩ := callMutation_spec hreturns
      { c with services := c.services.pauseLanes.2 } attempts
    rw [attemptMutation_eq (LaneServices.pauseLanes_ok hscope) hcall]
    split
    · next hsuccess =>
      refine ⟨rfl, rfl, (hpaused c).trans hcarries, ?_, Nat.lt_succ_self _, fun _ => rfl⟩
      rw [if_pos hsuccess]
    · next hfailed =>
      refine ⟨rfl, rfl, (hpaused c).trans hcarries, ?_, Nat.lt_succ_self _, fun _ => rfl⟩
      dsimp only
      rw [if_neg hfailed]
  | succ remaining ih =>
    obtain ⟨result, d, hcall, hcarries⟩ := callMutation_spec hreturns
      { c with services := c.services.pauseLanes.2 } attempts
    have hcarried := (hpaused c).trans hcarries
    rw [attemptMutation_eq (LaneServices.pauseLanes_ok hscope) hcall]
    split
    · next hsuccess =>
      refine ⟨rfl, rfl, hcarried, ?_, Nat.lt_succ_self _, fun _ => rfl⟩
      rw [if_pos hsuccess]
    · have hrest := ih (attempts + 1) result (hscope.of_scopes hcarried.scopes)
      refine ⟨hrest.threw, hrest.pauseOk, hcarried.trans hrest.carries, hrest.calls, ?_, ?_⟩
      · exact (Nat.lt_succ_self attempts).trans hrest.first
      · intro honce
        have hlater := hrest.first
        rw [honce] at hlater
        exact absurd hlater (lt_irrefl _)

/-! ## The end of a transition -/

theorem leave_owes {c : MachineLifecycleCoordinator} (h : c.Owes 1)
    (result : MachineTransitionResult) : (c.leave result).Owes 0 := by
  unfold Owes at *
  unfold leave endScope
  cases houtcome : result.outcome with
  | succeeded =>
    show c.stats.transitionCount
      = c.stats.successCount + 1 + c.stats.degradedCount + c.stats.failureCount + 0
    omega
  | degraded =>
    show c.stats.transitionCount
      = c.stats.successCount + (c.stats.degradedCount + 1) + c.stats.failureCount + 0
    omega
  | failed =>
    omega

def concludedServices (wasVideoActive : Bool) : LaneServices :=
  (c.services.bumpEpochs.resumeLanes wasVideoActive).2.endScope

theorem conclude_spec (policy : MachineTransitionPolicy)
    (mutation : MachineTransitionMutationResult) (wasVideoActive : Bool)
    (result : MachineTransitionResult) :
    (c.conclude policy mutation wasVideoActive result).2.services
        = c.concludedServices wasVideoActive
      ∧ (c.conclude policy mutation wasVideoActive result).2.transitionDepth
        = c.transitionDepth - 1
      ∧ (c.conclude policy mutation wasVideoActive result).2.lastResult.retryCountUsed
        = result.retryCountUsed
      ∧ (c.Owes 1 → (c.conclude policy mutation wasVideoActive result).2.Owes 0) := by
  unfold conclude
  dsimp only
  have howes : ∀ (d : MachineLifecycleCoordinator) result, d.stats = c.stats → c.Owes 1 →
      (d.leave result).Owes 0 := by
    intro d result hstats h
    apply leave_owes
    unfold Owes at *
    rw [hstats]
    exact h
  split
  · exact ⟨rfl, rfl, rfl, howes _ _ rfl⟩
  · refine ⟨rfl, rfl, ?_, howes _ _ rfl⟩
    unfold judge
    dsimp only
    split
    · rfl
    · split
      · rfl
      · rfl

theorem concludedServices_audio (wasVideoActive : Bool)
    {a : AudioLane} (h : (c.concludedServices wasVideoActive).audio = some a) :
    a.backendPausedOrClosed = true := by
  obtain ⟨resumed, hresumed, rfl⟩ := Option.map_eq_some_iff.mp h
  obtain ⟨bumped, -, rfl⟩ := Option.map_eq_some_iff.mp hresumed
  rfl

theorem concludedServices_video {c : MachineLifecycleCoordinator} (hscope : c.services.InScope)
    {p : VideoPresenter} (hv : (c.concludedServices true).video = some v)
    (hpresenter : v.presenter = some p) (hopens : p.ready = true ∨ p.opens = true) :
    v.state = .active := by
  obtain ⟨resumed, hresumed, rfl⟩ := Option.map_eq_some_iff.mp hv
  obtain ⟨bumped, hbumped, rfl⟩ := Option.map_eq_some_iff.mp hresumed
  obtain ⟨w, hw, rfl⟩ := Option.map_eq_some_iff.mp hbumped
  have hallowed : w.allowLifecycleMutation = true := hscope.allows hw
  exact VideoService.resume_active (v := w.bumpLifecycleEpochBarrier) hallowed hpresenter hopens

/-! ## Transitions -/

structure Settles (c : MachineLifecycleCoordinator) (ended : TransitionRun) : Prop where
  returned : ended.returned ≠ none
  accepts : ended.coordinator.transitionDepth = 0
  balanced : ended.coordinator.Owes 0
  drainGate : ∀ a, ended.coordinator.services.audio = some a → a.backendPausedOrClosed = true
  video : ended.calls = 1 → c.services.videoActive = true →
    ∀ v p, ended.coordinator.services.video = some v → v.presenter = some p →
      p.ready = true ∨ p.opens = true → v.state = .active
  retries : ended.calls = 1 ∨ ended.succeeded = false →
    ended.coordinator.lastResult.retryCountUsed = ended.calls - 1

theorem runTransition_settles {c : MachineLifecycleCoordinator} (hdepth : c.transitionDepth = 0)
    (howes : c.Owes 0) (reason : MachineTransitionReason)
    (hreturns : ∀ m, mutation = some m → m.Returns) :
    c.Settles (c.runTransition reason mutation) := by
  have hscope : ((c.noteTransition reason).enter reason).services.InScope :=
    LaneServices.beginScope_inScope _
  have hentered : ((c.noteTransition reason).enter reason).Owes 1 := noteTransition_owes howes reason
  have hactive : ((c.noteTransition reason).enter reason).services.videoActive
      = c.services.videoActive := by
    unfold LaneServices.videoActive
    show (c.services.video.map VideoService.beginLifecycleMutationScope).any _ = _
    cases c.services.video with
    | none => rfl
    | some v => rfl
  have hended := attemptMutation_spec hreturns
    ((c.noteTransition reason).policies reason).maxRetries 0 {} hscope
  unfold runTransition
  dsimp only
  rw [if_neg (not_not.mpr (show (c.noteTransition reason).transitionDepth = 0 from hdepth))]
  generalize attemptMutation mutation ((c.noteTransition reason).policies reason).maxRetries 0 {}
    ((c.noteTransition reason).enter reason) = ended at hended ⊢
  obtain ⟨hthrew, hpause, hcarries, hcalls, hfirst, honce⟩ := hended
  rw [hthrew, hpause]
  obtain ⟨hservices, hleft, hretries, hbalanced⟩ := conclude_spec ended.coordinator
    ((c.noteTransition reason).policies reason) ended.mutationResult ended.wasVideoActive
    { reason := reason, retryCountUsed := ended.attempts - 1 }
  constructor
  · intro h
    cases h
  · refine hleft.trans ?_
    rw [hcarries.transitionDepth]
    show c.transitionDepth + 1 - 1 = 0
    rw [hdepth]
  · exact hbalanced (hcarries.owes 1 hentered)
  · intro a ha
    replace ha : (ended.coordinator.conclude _ _ _ _).2.services.audio = some a := ha
    rw [hservices] at ha
    exact concludedServices_audio _ _ ha
  · intro hone hbefore v p hv hpresenter hopens
    replace hv : (ended.coordinator.conclude _ _ _ _).2.services.video = some v := hv
    rw [hservices, honce hone, hactive, hbefore] at hv
    exact concludedServices_video (hscope.of_scopes hcarries.scopes) hv hpresenter hopens
  · intro hsettled
    refine hretries.trans ?_
    show ended.attempts - 1 = ended.calls - 1
    replace hsettled : ended.calls = 1 ∨ ended.mutationResult.success = false := hsettled
    cases hsuccess : ended.mutationResult.success with
    | true =>
      rcases hsettled with hone | hfailed
      · omega
      · rw [hsuccess] at hfailed
        cases hfailed
    | false =>
      rw [hsuccess] at hcalls
      rw [hcalls]
      rfl

theorem runTransition_reentry {c : MachineLifecycleCoordinator} (h : c.transitionDepth ≠ 0)
    (reason : MachineTransitionReason) (mutation : Option TransitionMutation) :
    c.runTransition reason mutation = ⟨some false, c.nestedTransition reason, 0, false⟩ := by
  exact if_pos h

/-! ### A mutation that is called once -/

/-- A mutation that leaves the lanes alone, asks for no transition and, unless it throws, succeeds
the first time. -/
structure SettlesAtOnce (m : TransitionMutation) : Prop where
  lanes : ∀ attempt s, (m.call attempt s).services = s
  nested : ∀ attempt s, (m.call attempt s).nested = []
  success : ∀ s r, (m.call 0 s).result = some r → r.success = true

/-- How a transition with such a mutation ends: not begun, thrown out of, or concluded. -/
inductive EndsOnce (c : MachineLifecycleCoordinator) (m : TransitionMutation) :
    TransitionRun → Prop
  | refused (d : MachineLifecycleCoordinator) (h : c.transitionDepth ≠ 0) :
      EndsOnce c m ⟨some false, d, 0, false⟩
  | threw (d : MachineLifecycleCoordinator) (s : LaneServices) (h : (m.call 0 s).result = none) :
      EndsOnce c m ⟨none, d, 1, false⟩
  | concluded (d : MachineLifecycleCoordinator) (s : LaneServices)
      (r : MachineTransitionMutationResult) (h : (m.call 0 s).result = some r) :
      EndsOnce c m ⟨some c.services.resumable, d, 1, true⟩

variable {m : TransitionMutation}

theorem callMutation_of_settlesAtOnce (hm : SettlesAtOnce m) (c : MachineLifecycleCoordinator) :
    c.callMutation (some m) 0 = ((m.call 0 c.services).result, c) := by
  unfold callMutation
  dsimp only
  rw [hm.nested, hm.lanes]
  rfl

/-- The only attempt at such a mutation. -/
theorem attemptMutation_once (hm : SettlesAtOnce m) (remaining : ℕ)
    (last : MachineTransitionMutationResult) {c : MachineLifecycleCoordinator}
    (hscope : c.services.InScope) (hd : { c with services := c.services.pauseLanes.2 } = d) :
    ((m.call 0 d.services).result = none
        ∧ attemptMutation (some m) remaining 0 last c
          = ⟨d, c.services.videoActive, last, 0, true, true, 1⟩)
      ∨ ∃ r, (m.call 0 d.services).result = some r ∧ r.success = true
        ∧ attemptMutation (some m) remaining 0 last c
          = ⟨d, c.services.videoActive, r, 0, true, false, 1⟩ := by
  have hcall := callMutation_of_settlesAtOnce hm d
  subst hd
  cases hresult : (m.call 0 c.services.pauseLanes.2).result with
  | none =>
    rw [hresult] at hcall
    refine .inl ⟨rfl, ?_⟩
    rw [attemptMutation.eq_def]
    dsimp only
    rw [LaneServices.pauseLanes_ok hscope, hcall]
    rfl
  | some r =>
    rw [hresult] at hcall
    have hsuccess := hm.success _ r hresult
    refine .inr ⟨r, rfl, hsuccess, ?_⟩
    rw [attemptMutation_eq (LaneServices.pauseLanes_ok hscope) hcall, if_pos hsuccess]

theorem conclude_returned (policy : MachineTransitionPolicy)
    {r : MachineTransitionMutationResult} (hr : r.success = true) (wasVideoActive : Bool)
    (result : MachineTransitionResult) :
    ((c.conclude policy r wasVideoActive result).1.outcome != .failed)
      = (c.services.bumpEpochs.resumeLanes wasVideoActive).1 := by
  unfold conclude judge
  dsimp only
  rw [if_pos hr]
  cases (c.services.bumpEpochs.resumeLanes wasVideoActive).1 with
  | true => rfl
  | false => rfl

theorem endsOnce_runTransition (reason : MachineTransitionReason) (hm : SettlesAtOnce m) :
    EndsOnce c m (c.runTransition reason (some m)) := by
  unfold runTransition
  dsimp only
  split
  · next hdepth => exact .refused _ hdepth
  · generalize hentered : (c.noteTransition reason).enter reason = entered
    have hscope : entered.services.InScope := by
      rw [← hentered]
      exact LaneServices.beginScope_inScope _
    have hlanes : (entered.services.pauseLanes.2.bumpEpochs.resumeLanes
        entered.services.videoActive).1 = c.services.resumable := by
      rw [LaneServices.resumed_eq hscope, ← hentered]
      exact LaneServices.resumable_beginScope c.services
    obtain ⟨hresult, hattempt⟩ | ⟨r, hresult, hsuccess, hattempt⟩ := attemptMutation_once hm
      ((c.noteTransition reason).policies reason).maxRetries {} hscope rfl
    · rw [hattempt]
      exact .threw _ _ hresult
    · rw [hattempt]
      simp only [Bool.not_true, Bool.false_eq_true, if_false, hsuccess,
        conclude_returned _ _ hsuccess, hlanes]
      exact .concluded _ _ r hresult

inductive Event
  | transition (reason : MachineTransitionReason) (mutation : Option TransitionMutation)
  | setPolicyFor (reason : MachineTransitionReason) (policy : MachineTransitionPolicy)
  | servicesChange (services : LaneServices)

def act : Event → MachineLifecycleCoordinator
  | .transition reason mutation => (c.runTransition reason mutation).coordinator
  | .setPolicyFor reason policy => c.setPolicyFor reason policy
  | .servicesChange services => { c with services := services }

/-- The mutation of a transition does not throw. -/
def Event.Returns : Event → Prop
  | .transition _ mutation => ∀ m, mutation = some m → m.Returns
  | _ => True

/-- Whatever the policies, the services and the transitions before, as long as no mutation throws,
a transition settles, and one asked for inside it is rejected. -/
theorem transitions_settle (services : LaneServices) (history : List Event)
    (hreturned : Guarded act (fun _ e => e.Returns) (create services) history)
    (reason : MachineTransitionReason) (mutation : Option TransitionMutation)
    (hreturns : ∀ m, mutation = some m → m.Returns) :
    (run act (create services) history).Settles
        ((run act (create services) history).runTransition reason mutation)
      ∧ ∀ c nested inner, c.transitionDepth ≠ 0 → runTransition c nested inner
        = ⟨some false, c.nestedTransition nested, 0, false⟩ := by
  have hready : (run act (create services) history).transitionDepth = 0
      ∧ (run act (create services) history).Owes 0 := by
    refine run_invariant_of_guarded (P := fun c => c.transitionDepth = 0 ∧ c.Owes 0) ?_ ⟨rfl, rfl⟩
      hreturned
    rintro c e he ⟨hdepth, howes⟩
    cases e with
    | transition reason mutation =>
      have hsettles := runTransition_settles hdepth howes reason he
      exact ⟨hsettles.accepts, hsettles.balanced⟩
    | setPolicyFor reason policy => exact ⟨hdepth, howes⟩
    | servicesChange services => exact ⟨hdepth, howes⟩
  refine ⟨runTransition_settles hready.1 hready.2 reason hreturns, ?_⟩
  intro c nested inner hinside
  exact runTransition_reentry hinside nested inner

/-! ## Transitions that do not restore the lanes -/

structure Restores (c : MachineLifecycleCoordinator) (ended : TransitionRun) : Prop where
  accepts : ended.coordinator.transitionDepth = 0
  balanced : ended.coordinator.Owes 0
  drainGate : (c.services.audio.all fun a => !a.backendPausedOrClosed) = true →
    (ended.coordinator.services.audio.all fun a => !a.backendPausedOrClosed) = true
  video : c.services.videoActive = true →
    (ended.coordinator.services.video.any fun v => v.presenter.any VideoPresenter.opens) = true →
    ended.coordinator.lastResult.degradedHeadlessVideo = false →
    ended.coordinator.services.videoActive = true
  retries : ended.returned ≠ none →
    ended.coordinator.lastResult.retryCountUsed = ended.calls - 1

/-- Audio drained by its backend, and video shown by a presenter. -/
def playing : LaneServices where
  audio := some ⟨false, 1, false, 0, 0⟩
  video := some { VideoService.create {} with
    presenter := some ⟨true, true, false⟩, state := .active }

def failsOnce : TransitionMutation where
  call attempt s := ⟨s, [], some { success := attempt != 0 }⟩
  scopesKept _ _ := rfl

def throws : TransitionMutation where
  call _ s := ⟨s, [], none⟩
  scopesKept _ _ := rfl

/-- A transition that succeeds leaves the drain gate closed; one that succeeds on its second call
reports no retry and leaves the video paused; one that throws leaves the coordinator busy. -/
theorem lanes_not_restored :
    ¬ (create playing).Restores ((create playing).runTransition .romLoad none)
      ∧ ¬ ((create playing).services.videoActive = true →
        ((create playing).runTransition .audioBackendRestart
          (some failsOnce)).coordinator.services.videoActive = true)
      ∧ ¬ ((create playing).runTransition .audioBackendRestart
          (some failsOnce)).coordinator.lastResult.retryCountUsed
        = ((create playing).runTransition .audioBackendRestart (some failsOnce)).calls - 1
      ∧ ¬ (create playing).Restores ((create playing).runTransition .hardReset (some throws)) := by
  refine ⟨?_, by decide, by decide, ?_⟩
  · intro h
    have hgate := h.drainGate rfl
    revert hgate
    decide
  · intro h
    have hdepth := h.accepts
    revert hdepth
    decide

/-- After a transition that was retried, a mutation that succeeds at once brings the video back. -/
theorem playing_resumes :
    ((run act (create playing) [.transition .audioBackendRestart (some failsOnce),
        .servicesChange playing]).runTransition .videoBackendRestart
      none).coordinator.services.videoActive = true := by
  have hreturns : ∀ m, some failsOnce = some m → m.Returns := by
    intro m hm attempt s hthrew
    cases hm
    cases hthrew
  have h := (transitions_settle playing [.transition .audioBackendRestart (some failsOnce),
    .servicesChange playing] ⟨hreturns, trivial, trivial⟩ .videoBackendRestart none
    (fun m hm => by cases hm)).1
  have hvideo := h.video rfl rfl
  cases hv : ((run act (create playing) [.transition .audioBackendRestart (some failsOnce),
      .servicesChange playing]).runTransition .videoBackendRestart
    none).coordinator.services.video with
  | none => cases hv
  | some v =>
    cases hv
    unfold LaneServices.videoActive
    exact beq_iff_eq.mpr (hvideo _ _ rfl rfl (.inl rfl))

end MachineLifecycleCoordinator

end ProtoTime.Host
