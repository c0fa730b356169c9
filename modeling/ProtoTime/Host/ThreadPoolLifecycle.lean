import ProtoTime.Host.ThreadPoolConservation

/-!
Starting and stopping the pool: a worker only exits once every queue is empty for good, so a
pool that is not running has nothing left to run.
-/
namespace ProtoTime.ThreadPool
open Function Tally Transition

variable {n m : ℕ}

/-- A `submit` holds the lifecycle mutex here. -/
def ClientStep.locked : ClientStep → Bool
  | .reserving _ | .probing _ _ _ => true
  | _ => false

namespace Pool

structure Lifecycle (s : Pool n m) : Prop where
  stopped : s.running = false → (∀ w, s.workers w = .exited) ∧ ∀ w, s.queues w = []
  scanning : ∀ w next, s.workers w = .scanning next →
    s.stopRequested = true ∧ ∀ v, v.val < next → s.queues v = []
  exited : ∀ w, s.workers w = .exited → s.running = true →
    s.stopRequested = true ∧ ∀ v, s.queues v = []
  locked : ∀ c, (s.clients c).locked = true →
    s.lifecycleOwner = some c ∧ s.running = true ∧ s.stopRequested = false
  joining : ∀ c next, s.clients c = .joining next →
    s.stopRequested = true ∧ ∀ w, w.val < next → s.workers w = .exited

namespace Lifecycle

variable {s : Pool n m}

theorem initial (config : Config) : Lifecycle (initial n m config) where
  stopped := fun _ => ⟨fun _ => rfl, fun _ => rfl⟩
  scanning := by
    intro w next h
    cases h
  exited := by
    intro w _ h
    cases h
  locked := by
    intro c h
    cases h
  joining := by
    intro c next h
    cases h

variable {t : Pool n m}

/-- A live worker moves on, and perhaps a queue got shorter. -/
theorem worker (hs : Lifecycle s) {w : Fin (n + 1)} {next : WorkerStep}
    (hworkers : t.workers = update s.workers w next) (hrunning : t.running = s.running)
    (hstop : t.stopRequested = s.stopRequested) (howner : t.lifecycleOwner = s.lifecycleOwner)
    (hclients : t.clients = s.clients) (hqueues : ∀ v, s.queues v = [] → t.queues v = [])
    (hlive : s.workers w ≠ .exited) (hscanning : ∀ k, next = .scanning k →
      s.stopRequested = true ∧ ∀ v, v.val < k → s.queues v = [])
    (hexited : next = .exited → s.stopRequested = true ∧ ∀ v, s.queues v = []) :
    Lifecycle t where
  stopped := by
    intro h
    exact absurd ((hs.stopped (hrunning ▸ h)).1 w) hlive
  scanning := by
    intro v k h
    rw [hworkers] at h
    rw [hstop]
    by_cases hv : v = w
    · rw [hv, update_self] at h
      obtain ⟨hs', he⟩ := hscanning k h
      exact ⟨hs', fun u hu => hqueues u (he u hu)⟩
    · rw [update_of_ne hv] at h
      obtain ⟨hs', he⟩ := hs.scanning v k h
      exact ⟨hs', fun u hu => hqueues u (he u hu)⟩
  exited := by
    intro v h hr
    rw [hworkers] at h
    rw [hstop]
    by_cases hv : v = w
    · rw [hv, update_self] at h
      obtain ⟨hs', he⟩ := hexited h
      exact ⟨hs', fun u => hqueues u (he u)⟩
    · rw [update_of_ne hv] at h
      obtain ⟨hs', he⟩ := hs.exited v h (hrunning ▸ hr)
      exact ⟨hs', fun u => hqueues u (he u)⟩
  locked := by
    rw [hclients, howner, hrunning, hstop]
    exact hs.locked
  joining := by
    intro c k h
    rw [hclients] at h
    obtain ⟨hs', he⟩ := hs.joining c k h
    refine ⟨hstop ▸ hs', ?_⟩
    intro v hv
    have hne : v ≠ w := by
      rintro rfl
      exact hlive (he v hv)
    rw [hworkers, update_of_ne hne]
    exact he v hv

variable {next : ClientStep}

/-- A client moves on, keeps or returns the mutex, and perhaps emptied a queue. -/
theorem client (hs : Lifecycle s) {c : Fin m}
    (hclients : t.clients = update s.clients c next) (hrunning : t.running = s.running)
    (hstop : t.stopRequested = s.stopRequested) (hworkers : t.workers = s.workers)
    (hqueues : ∀ v, s.queues v = [] → t.queues v = [])
    (howner : ∀ d ≠ c, s.lifecycleOwner = some d → t.lifecycleOwner = some d)
    (hlocked : next.locked = true →
      t.lifecycleOwner = some c ∧ s.running = true ∧ s.stopRequested = false)
    (hjoining : ∀ k, next = .joining k →
      s.stopRequested = true ∧ ∀ w, w.val < k → s.workers w = .exited) : Lifecycle t where
  stopped := by
    intro h
    obtain ⟨hw, hq⟩ := hs.stopped (hrunning ▸ h)
    rw [hworkers]
    exact ⟨hw, fun v => hqueues v (hq v)⟩
  scanning := by
    intro v k h
    rw [hworkers] at h
    obtain ⟨hs', he⟩ := hs.scanning v k h
    exact ⟨hstop ▸ hs', fun u hu => hqueues u (he u hu)⟩
  exited := by
    intro v h hr
    rw [hworkers] at h
    obtain ⟨hs', he⟩ := hs.exited v h (hrunning ▸ hr)
    exact ⟨hstop ▸ hs', fun u => hqueues u (he u)⟩
  locked := by
    intro d h
    rw [hclients] at h
    rw [hrunning, hstop]
    by_cases hd : d = c
    · rw [hd, update_self] at h
      rw [hd]
      exact hlocked h
    · rw [update_of_ne hd] at h
      obtain ⟨ho, hr, hst⟩ := hs.locked d h
      exact ⟨howner d hd ho, hr, hst⟩
  joining := by
    intro d k h
    rw [hclients] at h
    rw [hstop, hworkers]
    by_cases hd : d = c
    · rw [hd, update_self] at h
      exact hjoining k h
    · rw [update_of_ne hd] at h
      exact hs.joining d k h

theorem setClient (hs : Lifecycle s) {c : Fin m}
    (hlocked : next.locked = false) (hjoining : ∀ k, next ≠ .joining k) :
    Lifecycle (s.setClient c next) :=
  hs.client rfl rfl rfl rfl (fun _ h => h) (fun _ _ h => h)
    (fun h => absurd (hlocked.symm.trans h) Bool.false_ne_true)
    (fun k h => absurd h (hjoining k))

theorem dequeue_keeps_empty {v u : Fin (n + 1)} {rest : List TaskItem}
    (hv : s.queues v ≠ []) (hu : s.queues u = []) : (s.dequeue v rest).queues u = [] := by
  have hne : u ≠ v := by
    rintro rfl
    exact hv hu
  exact (update_of_ne hne _ _).trans hu

theorem workerAt_of_lt {k : ℕ} (h : k < n + 1) : (workerAt n k).val = k := Nat.mod_eq_of_lt h

theorem stepWorker (hs : Lifecycle s) (w : Fin (n + 1)) (throws : Bool) :
    Lifecycle (s.stepWorker w throws) := by
  cases h : s.workers w with
  | exited => simpa [Pool.stepWorker, h] using hs
  | takingLocal =>
    simp only [Pool.stepWorker, h]
    cases hq : s.queues w with
    | nil => exact hs.worker rfl rfl rfl rfl rfl (fun _ h => h) (by simp [h]) (by simp) (by simp)
    | cons task rest =>
      exact hs.worker rfl rfl rfl rfl rfl
        (fun _ hv => dequeue_keeps_empty (by simp [hq]) hv) (by simp [h]) (by simp) (by simp)
  | stealing offset =>
    simp only [Pool.stepWorker, h]
    split
    · split
      · exact hs.worker rfl rfl rfl rfl rfl (fun _ h => h) (by simp [h]) (by simp) (by simp)
      · split
        · exact hs.worker rfl rfl rfl rfl rfl (fun _ h => h) (by simp [h]) (by simp) (by simp)
        · next task hlast =>
          have hne : s.queues (workerAt n (w + 1 + offset)) ≠ [] := by
            intro he
            rw [he] at hlast
            cases hlast
          exact hs.worker rfl rfl rfl rfl rfl (fun _ hv => dequeue_keeps_empty hne hv)
            (by simp [h]) (by simp) (by simp)
    · exact hs.worker rfl rfl rfl rfl rfl (fun _ h => h) (by simp [h]) (by simp) (by simp)
  | checkingStop =>
    simp only [Pool.stepWorker, h]
    split
    · next hstop =>
      refine hs.worker rfl rfl rfl rfl rfl (fun _ h => h) (by simp [h]) ?_ (by simp)
      intro k hk
      cases hk
      exact ⟨hstop, fun v hv => absurd hv (Nat.not_lt_zero _)⟩
    · exact hs.worker rfl rfl rfl rfl rfl (fun _ h => h) (by simp [h]) (by simp) (by simp)
  | scanning next =>
    obtain ⟨hstop, hempty⟩ := hs.scanning w next h
    simp only [Pool.stepWorker, h]
    split
    · next hlt =>
      split
      · next hq =>
        refine hs.worker rfl rfl rfl rfl rfl (fun _ h => h) (by simp [h]) ?_ (by simp)
        intro k hk
        cases hk
        refine ⟨hstop, ?_⟩
        intro v hv
        rcases Nat.lt_succ_iff_lt_or_eq.mp hv with hv | hv
        · exact hempty v hv
        · have hat : workerAt n next = v := Fin.ext ((workerAt_of_lt hlt).trans hv.symm)
          rw [← hat]
          exact hq
      · exact hs.worker rfl rfl rfl rfl rfl (fun _ h => h) (by simp [h]) (by simp) (by simp)
    · next hge =>
      refine hs.worker rfl rfl rfl rfl rfl (fun _ h => h) (by simp [h]) (by simp) ?_
      intro _
      exact ⟨hstop, fun v => hempty v (by have := v.isLt; omega)⟩
  | _ =>
    simp only [Pool.stepWorker, h]
    exact hs.worker rfl rfl rfl rfl rfl (fun _ h => h) (by simp [h]) (by simp) (by simp)

/-- Starting: the workers are new, and nobody waits for the old ones. -/
theorem start (hs : Lifecycle s) (c : Fin m) : Lifecycle (s.start c) := by
  simp only [Pool.start]
  split
  · exact hs
  · next hfree =>
    split
    · exact hs.setClient rfl (by simp)
    · next hrunning =>
      have hnone : ∀ d k, s.clients d ≠ .joining k := by
        intro d k hd
        refine hfree (Or.inr ?_)
        simp only [Pool.joining, decide_eq_true_eq]
        exact ⟨d, by rw [hd]; rfl⟩
      have hunlocked : ∀ d, (s.clients d).locked = false := by
        intro d
        cases hd : (s.clients d).locked with
        | false => rfl
        | true => exact absurd (hs.locked d hd).2.1 hrunning
      refine setClient (s := { s with
          stopRequested := false, tasksCancelled := 0
          forgotten := s.forgotten + s.tasksCancelled
          workers := fun _ => .takingLocal, running := true }) ⟨?_, ?_, ?_, ?_, ?_⟩ rfl (by simp)
      · intro h
        cases h
      · intro w k h
        cases h
      · intro w h
        cases h
      · intro d hd
        rw [hunlocked d] at hd
        cases hd
      · intro d k hd
        exact absurd hd (hnone d k)

theorem enqueue (hs : Lifecycle s) {c : Fin m} {category : BackgroundJobCategory}
    {rr offset : ℕ} (h : s.clients c = .probing category rr offset) (w : Fin (n + 1)) :
    Lifecycle ({ s.enqueue w category with lifecycleOwner := none }.setClient c
      (.returned (.submitted true))) := by
  obtain ⟨howner, hrunning, hstop⟩ := hs.locked c (by rw [h]; rfl)
  constructor
  · intro hr
    exact absurd (hr.symm.trans hrunning) Bool.false_ne_true
  · intro v k hv
    exact absurd (hstop.symm.trans (hs.scanning v k hv).1) Bool.false_ne_true
  · intro v hv _
    exact absurd (hstop.symm.trans (hs.exited v hv hrunning).1) Bool.false_ne_true
  · intro d hd
    simp only [Pool.setClient] at hd
    by_cases hdc : d = c
    · rw [hdc, update_self] at hd
      cases hd
    · rw [update_of_ne hdc] at hd
      have hsame := (hs.locked d hd).1
      rw [howner] at hsame
      exact absurd (Option.some.inj hsame).symm hdc
  · intro d k hd
    simp only [Pool.setClient] at hd
    by_cases hdc : d = c
    · rw [hdc, update_self] at hd
      cases hd
    · rw [update_of_ne hdc] at hd
      exact absurd (hstop.symm.trans (hs.joining d k hd).1) Bool.false_ne_true

theorem unlock (hs : Lifecycle s) {c : Fin m} (h : (s.clients c).locked = true)
    (hclients : t.clients = update s.clients c next)
    (hrunning : t.running = s.running) (hstop : t.stopRequested = s.stopRequested)
    (hworkers : t.workers = s.workers) (hqueues : t.queues = s.queues)
    (hlocked : next.locked = false) (hjoining : ∀ k, next ≠ .joining k) : Lifecycle t := by
  refine hs.client hclients hrunning hstop hworkers (fun v hv => by rw [hqueues]; exact hv) ?_
    (fun h => absurd (hlocked.symm.trans h) Bool.false_ne_true)
    (fun k h => absurd h (hjoining k))
  intro d hd ho
  rw [(hs.locked c h).1] at ho
  exact absurd (Option.some.inj ho).symm hd

theorem stepClient (hs : Lifecycle s) (c : Fin m) (timeout : Bool) :
    Lifecycle (s.stepClient c timeout) := by
  cases h : s.clients c with
  | returned outcome => simpa [Pool.stepClient, h] using hs
  | starting =>
    simp only [Pool.stepClient, h]
    exact hs.start c
  | submitting category =>
    simp only [Pool.stepClient, h]
    split
    · exact hs
    · next hfree =>
      have hnone : s.lifecycleOwner = none := not_not.mp hfree
      split
      · exact hs.client rfl rfl rfl rfl (fun _ h => h) (fun _ _ h => h) (by simp [ClientStep.locked])
          (by simp)
      · next hopen =>
        simp only [Bool.or_eq_true, Bool.not_eq_true', not_or, Bool.not_eq_false,
          Bool.not_eq_true] at hopen
        refine hs.client rfl rfl rfl rfl (fun _ h => h) ?_ (fun _ => ⟨rfl, hopen⟩) (by simp)
        intro d _ hd
        rw [hnone] at hd
        cases hd
  | reserving category =>
    have hlocked : (s.clients c).locked = true := by rw [h]; rfl
    have howner := hs.locked c hlocked
    simp only [Pool.stepClient, h]
    split
    · exact hs.client rfl rfl rfl rfl (fun _ h => h) (fun _ _ h => h) (fun _ => howner) (by simp)
    · exact hs.unlock hlocked rfl rfl rfl rfl rfl rfl (by simp)
  | probing category rr offset =>
    have hlocked : (s.clients c).locked = true := by rw [h]; rfl
    have howner := hs.locked c hlocked
    simp only [Pool.stepClient, h]
    split
    · split
      · exact hs.client rfl rfl rfl rfl (fun _ h => h) (fun _ _ h => h) (fun _ => howner) (by simp)
      · exact hs.enqueue h _
    · exact hs.unlock hlocked rfl rfl rfl rfl rfl rfl (by simp)
  | cancelling next cancelled =>
    simp only [Pool.stepClient, h]
    split
    · refine hs.client rfl rfl rfl rfl ?_ (fun _ _ h => h) (by simp [ClientStep.locked]) (by simp)
      intro v hv
      by_cases hw : v = workerAt n next
      · rw [hw]
        exact update_self _ _ _
      · exact (update_of_ne hw _ _).trans hv
    · exact hs.client rfl rfl rfl rfl (fun _ h => h) (fun _ _ h => h) (by simp [ClientStep.locked])
        (by simp)
  | shuttingDown =>
    simp only [Pool.stepClient, h]
    split
    · exact hs
    · next hfree =>
      have hnone : s.lifecycleOwner = none := not_not.mp hfree
      split
      · next hrunning =>
        have hunlocked : ∀ d, (s.clients d).locked ≠ true := by
          intro d hd
          have ho := (hs.locked d hd).1
          rw [hnone] at ho
          cases ho
        have hstop : Lifecycle { s with stopRequested := true } :=
          ⟨hs.stopped, fun w k hw => ⟨rfl, (hs.scanning w k hw).2⟩,
            fun w hw hr => ⟨rfl, (hs.exited w hw hr).2⟩, fun d hd => absurd hd (hunlocked d),
            fun d k hd => ⟨rfl, (hs.joining d k hd).2⟩⟩
        refine hstop.client rfl rfl rfl rfl (fun _ h => h) (fun _ _ h => h)
          (by simp [ClientStep.locked]) ?_
        intro k hk
        cases hk
        exact ⟨rfl, fun w hw => absurd hw (Nat.not_lt_zero _)⟩
      · exact hs.setClient rfl (by simp)
  | joining next =>
    obtain ⟨hstop, hexited⟩ := hs.joining c next h
    simp only [Pool.stepClient, h]
    split
    · next hlt =>
      split
      · next hw =>
        refine hs.client rfl rfl rfl rfl (fun _ h => h) (fun _ _ h => h)
          (by simp [ClientStep.locked]) ?_
        intro k hk
        cases hk
        refine ⟨hstop, ?_⟩
        intro v hv
        rcases Nat.lt_succ_iff_lt_or_eq.mp hv with hv | hv
        · exact hexited v hv
        · have hat : workerAt n next = v := Fin.ext ((workerAt_of_lt hlt).trans hv.symm)
          rw [← hat]
          exact hw
      · exact hs
    · next hge =>
      split
      · exact hs
      · have hall : ∀ w, s.workers w = .exited := fun w =>
          hexited w (by have := w.isLt; omega)
        have hqueues : ∀ v, s.queues v = [] := by
          cases hr : s.running with
          | true => exact (hs.exited (workerAt n 0) (hall _) hr).2
          | false => exact (hs.stopped hr).2
        have hunlocked : ∀ d, (s.clients d).locked ≠ true := by
          intro d hd
          exact absurd ((hs.locked d hd).2.2.symm.trans hstop) Bool.false_ne_true
        refine setClient (s := { s with running := false })
          ⟨fun _ => ⟨hall, hqueues⟩, hs.scanning, fun w _ hr => ?_,
            fun d hd => absurd hd (hunlocked d), hs.joining⟩ rfl (by simp)
        cases hr
  | waitingUntilIdle =>
    simp only [Pool.stepClient, h]
    split
    · exact hs.setClient rfl (by simp)
    · split
      · exact hs.setClient rfl (by simp)
      · exact hs
  | _ =>
    simp only [Pool.stepClient, h]
    exact hs.client rfl rfl rfl rfl (fun _ h => h) (fun _ _ h => h) (by simp [ClientStep.locked])
      (by simp)

theorem call (hs : Lifecycle s) (c : Fin m) (request : Request) :
    Lifecycle (s.call c request) := by
  simp only [Pool.call]
  split
  · cases request <;> exact hs.setClient rfl (by simp [Request.entry])
  · exact hs

end Lifecycle

variable {s : Pool n m}

theorem stepWorker_clients (s : Pool n m) (w : Fin (n + 1)) (throws : Bool) :
    (s.stepWorker w throws).clients = s.clients := by
  simp only [stepWorker, setWorker, dequeue]
  split
  case h_2 => split <;> rfl
  case h_3 =>
    split
    · split
      · rfl
      · split <;> rfl
    · rfl
  case h_5 => split <;> rfl
  all_goals rfl

variable {c : Fin m}

theorem stepClient_other {d : Fin m} (hd : d ≠ c) (timeout : Bool) :
    (s.stepClient c timeout).clients d = s.clients d := by
  have hupdate (next : ClientStep) : update s.clients c next d = s.clients d :=
    update_of_ne hd _ _
  simp only [stepClient, start, reject, setClient, enqueue, clearQueue]
  split <;> (try split) <;> (try split) <;> first | rfl | exact hupdate _

theorem step_config (s : Pool n m) (action : Action n m) : (s.step action).config = s.config := by
  cases action with
  | call c request =>
    simp only [step, call]
    split <;> rfl
  | client c timeout =>
    simp only [step, stepClient, start, reject, setClient, enqueue, clearQueue]
    split <;> (try split) <;> (try split) <;> rfl
  | worker w throws =>
    simp only [step, stepWorker, setWorker, dequeue]
    split <;> (try split) <;> (try split) <;> (try split) <;> rfl

theorem Lifecycle.step (hl : Lifecycle s) (action : Action n m) : Lifecycle (s.step action) := by
  cases action with
  | call c request => exact hl.call c request
  | client c timeout => exact hl.stepClient c timeout
  | worker w throws => exact hl.stepWorker w throws

theorem run_invariants (config : Config) (actions : List (Action n m)) :
    Balanced (run step (initial n m config) actions) ∧
      Lifecycle (run step (initial n m config) actions) ∧
      (run step (initial n m config) actions).config = config := by
  refine run_invariant (P := fun s : Pool n m => Balanced s ∧ Lifecycle s ∧ s.config = config)
    ?_ ⟨Balanced.initial config, Lifecycle.initial config, rfl⟩ actions
  rintro s action ⟨hb, hl, hc⟩
  refine ⟨?_, ?_, (step_config s action).trans hc⟩
  · cases action with
    | call c request => exact hb.call c request
    | client c timeout => exact hb.stepClient c timeout fun h => (hl.stopped h).1
    | worker w throws => exact hb.stepWorker w throws
  · exact hl.step action

variable {action : Action n m}

/-- A call returns an outcome in the step that its own client takes. -/
theorem returns_by_own_step {outcome : Outcome} (hbefore : s.clients c ≠ .returned outcome)
    (hafter : (s.step action).clients c = .returned outcome) :
    ∃ timeout, action = .client c timeout := by
  cases action with
  | call d request =>
    refine absurd hafter ?_
    simp only [step, call]
    split
    · simp only [setClient]
      by_cases hd : c = d
      · rw [hd, update_self]
        cases request <;> simp [Request.entry]
      · rwa [update_of_ne hd]
    · exact hbefore
  | client d timeout =>
    by_cases hd : c = d
    · exact ⟨timeout, by rw [hd]⟩
    · exact absurd ((stepClient_other hd timeout).symm.trans hafter) hbefore
  | worker w throws =>
    rw [step, stepWorker_clients] at hafter
    exact absurd hafter hbefore

/-- Only a wait that sees nothing pending reports idleness. -/
theorem stepClient_idle {timeout : Bool} (hbefore : s.clients c ≠ .returned (.idle true))
    (hafter : (s.stepClient c timeout).clients c = .returned (.idle true)) :
    s.tasksPending = 0 ∧ s.stepClient c timeout = s.setClient c (.returned (.idle true)) := by
  cases h : s.clients c with
  | returned outcome =>
    simp only [stepClient, h] at hafter
    exact absurd (h.trans hafter) hbefore
  | waitingUntilIdle =>
    simp only [stepClient, h] at hafter ⊢
    split
    · next hz => exact ⟨hz, rfl⟩
    · next hz =>
      rw [if_neg hz] at hafter
      split at hafter
      · simp [setClient] at hafter
      · rw [h] at hafter
        cases hafter
  | _ =>
    refine absurd hafter ?_
    simp only [stepClient, h, start, reject, setClient]
    (try split) <;> (try split) <;> simp [h]

/-- Only a shutdown reports that the pool has stopped, and then it has. -/
theorem stepClient_stopped {timeout : Bool} (hbefore : s.clients c ≠ .returned .stopped)
    (hafter : (s.stepClient c timeout).clients c = .returned .stopped) :
    (s.stepClient c timeout).running = false := by
  cases h : s.clients c with
  | returned outcome =>
    simp only [stepClient, h] at hafter
    exact absurd (h.trans hafter) hbefore
  | shuttingDown =>
    simp only [stepClient, h] at hafter ⊢
    split
    · next hlocked =>
      rw [if_pos hlocked, h] at hafter
      cases hafter
    · next hfree =>
      rw [if_neg hfree] at hafter
      split
      · next hrunning =>
        rw [if_pos hrunning] at hafter
        simp [setClient] at hafter
      · next hrunning => exact Bool.eq_false_iff.mpr hrunning
  | joining next =>
    simp only [stepClient, h] at hafter ⊢
    split
    · next hlt =>
      rw [if_pos hlt] at hafter
      split at hafter
      · simp [setClient] at hafter
      · rw [h] at hafter
        cases hafter
    · next hge =>
      rw [if_neg hge] at hafter
      split
      · next hlocked =>
        rw [if_pos hlocked, h] at hafter
        cases hafter
      · rfl
  | _ =>
    refine absurd hafter ?_
    simp only [stepClient, h, start, reject, setClient]
    (try split) <;> (try split) <;> simp [h]

theorem idle_of_wait (hb : Balanced s) (hbefore : s.clients c ≠ .returned (.idle true))
    (hafter : (s.step action).clients c = .returned (.idle true)) :
    (s.step action).queued = 0 ∧ (s.step action).runningTasks = 0 := by
  obtain ⟨timeout, rfl⟩ := returns_by_own_step hbefore hafter
  obtain ⟨hzero, hstep⟩ := stepClient_idle hbefore hafter
  have hle : s.runningTasks ≤ total WorkerStep.pending s.workers := by
    apply total_le_total
    intro step
    cases step <;> simp [WorkerStep.running, WorkerStep.pending]
  have hpending := hb.pending
  rw [step, hstep]
  show s.queued = 0 ∧ s.runningTasks = 0
  omega

/-- A stopped pool stays stopped, and runs nothing, while nobody starts it. -/
theorem stopped_step (hl : Lifecycle s) (hrunning : s.running = false)
    (hstarting : ∀ c, s.clients c ≠ .starting) (haction : ∀ c, action ≠ .call c .start) :
    (s.step action).running = false ∧ (∀ c, (s.step action).clients c ≠ .starting) ∧
      (s.step action).executed = s.executed := by
  cases action with
  | call c request =>
    simp only [step, call]
    split
    · refine ⟨hrunning, ?_, rfl⟩
      intro d
      simp only [setClient]
      by_cases hd : d = c
      · rw [hd, update_self]
        cases request with
        | start => exact absurd rfl (haction c)
        | _ => simp [Request.entry]
      · rw [update_of_ne hd]
        exact hstarting d
    · exact ⟨hrunning, hstarting, rfl⟩
  | client c timeout =>
    have hrun : (s.stepClient c timeout).running = false ∧
        (s.stepClient c timeout).clients c ≠ .starting ∧
        (s.stepClient c timeout).executed = s.executed := by
      cases h : s.clients c with
      | starting => exact absurd h (hstarting c)
      | _ =>
        simp only [stepClient, h, reject, setClient, enqueue, clearQueue]
        (try split) <;> (try split) <;> simp [h, hrunning]
    refine ⟨hrun.1, ?_, hrun.2.2⟩
    intro d
    by_cases hd : d = c
    · rw [hd]
      exact hrun.2.1
    · rw [step, stepClient_other hd]
      exact hstarting d
  | worker w throws =>
    have hexited := (hl.stopped hrunning).1 w
    have hsame : s.stepWorker w throws = s := by simp only [stepWorker, hexited]
    rw [step, hsame]
    exact ⟨hrunning, hstarting, rfl⟩

theorem executed_of_stopped (hl : Lifecycle s) (hrunning : s.running = false)
    (hstarting : ∀ c, s.clients c ≠ .starting) (later : List (Action n m))
    (hlater : ∀ c, .call c .start ∉ later) : (run step s later).executed = s.executed := by
  induction later generalizing s with
  | nil => rfl
  | cons action later ih =>
    have hhere : ∀ c, action ≠ .call c .start := by
      rintro c rfl
      exact hlater c List.mem_cons_self
    obtain ⟨hrunning', hstarting', hsame⟩ := stopped_step hl hrunning hstarting hhere
    rw [run_cons, ih (hl.step action) hrunning' hstarting'
      fun c hc => hlater c (List.mem_cons_of_mem _ hc), hsame]

theorem settled_of_stopped (hb : Balanced s) (hl : Lifecycle s) (hrunning : s.running = false)
    {id : ℕ} (hid : id < s.tasksSubmitted) :
    s.executed.count id + s.cancelledTasks.count id = 1 := by
  obtain ⟨hworkers, hqueues⟩ := hl.stopped hrunning
  have hplaced := hb.placed id
  have hq : total (fun queue : List TaskItem => (queue.map TaskItem.id).count id) s.queues = 0 :=
    total_eq_zero fun v => by rw [hqueues v]; rfl
  have hw : total (WorkerStep.holds id) s.workers = 0 :=
    total_eq_zero fun w => by rw [hworkers w]; rfl
  rw [if_pos hid, places, hq, hw] at hplaced
  omega

/-- Whatever clients call and however the steps interleave: every accepted task is in exactly
one place, a queue, a worker's hands, the executed tasks or the cancelled ones; the counters
balance, with cancellations counted category by category, and the total of cancelled tasks is
behind by the `cancelAll` calls in progress and what restarts erased; the caps are kept; a
wait reports idleness only with nothing queued or running; and a shutdown returns with the pool
stopped, when every accepted task has been executed or cancelled and after which nothing is
run before the next start. -/
theorem pool_conservation (n m maxQueuedTasksPerWorker : ℕ) (maxQueuedTasksTotal : Option ℕ)
    (actions : List (Action n m)) :
    let config := Config.ofArguments maxQueuedTasksPerWorker maxQueuedTasksTotal
    let s := run step (initial n m config) actions
    (∀ id, s.places id = if id < s.tasksSubmitted then 1 else 0) ∧
    s.tasksSubmitted = s.tasksCompleted + s.cancelledByCategory + s.queued + s.runningTasks ∧
    s.cancelledTasks.length = s.cancelledByCategory ∧
    s.tasksCancelled + s.forgotten + total ClientStep.uncounted s.clients =
      s.cancelledByCategory ∧
    (config.maxQueuedTasksTotal ≠ 0 →
      s.queued ≤ s.queuedTasks ∧ s.queuedTasks ≤ config.maxQueuedTasksTotal) ∧
    (∀ w, (s.queues w).length ≤ config.maxQueuedTasksPerWorker) ∧
    (∀ action c, s.clients c ≠ .returned (.idle true) →
      (s.step action).clients c = .returned (.idle true) →
      (s.step action).queued = 0 ∧ (s.step action).runningTasks = 0) ∧
    (∀ action c, s.clients c ≠ .returned .stopped →
      (s.step action).clients c = .returned .stopped → (s.step action).running = false) ∧
    (s.running = false → ∀ id < s.tasksSubmitted,
      s.executed.count id + s.cancelledTasks.count id = 1) ∧
    (s.running = false → (∀ c, s.clients c ≠ .starting) → ∀ later,
      (∀ c, .call c .start ∉ later) → (run step s later).executed = s.executed) := by
  intro config s
  obtain ⟨hb, hl, hconfig⟩ := run_invariants (n := n) (m := m) config actions
  refine ⟨hb.placed, hb.submitted, hb.dropped, hb.cancelled, ?_, ?_, ?_, ?_,
    fun hrunning _ hid => settled_of_stopped hb hl hrunning hid, ?_⟩
  · intro hcap
    have hreserved := hb.reserved
    have hcapped := hb.capped
    rw [hconfig] at hcapped
    exact ⟨hreserved.symm ▸ Nat.le_add_right _ _, hcapped hcap⟩
  · intro w
    have hbounded := hb.bounded w
    rwa [hconfig] at hbounded
  · intro action c hbefore hafter
    exact idle_of_wait hb hbefore hafter
  · intro action c hbefore hafter
    obtain ⟨timeout, rfl⟩ := returns_by_own_step hbefore hafter
    exact stepClient_stopped hbefore hafter
  · intro hrunning hstarting later hlater
    exact executed_of_stopped hl hrunning hstarting later hlater

/-- Between emptying a queue and adding to the total of cancelled tasks, the cancelled task is
in no counter that the totals are about. -/
theorem totals_lag_behind_cancelAll :
    let s := run step (initial 0 1 (Config.ofArguments 1024 none))
      [.call 0 .start, .client 0 false, .call 0 (.submit 0), .client 0 false, .client 0 false,
        .client 0 false, .call 0 .cancelAll, .client 0 false]
    ¬ s.tasksSubmitted = s.tasksCompleted + s.tasksCancelled + s.queued + s.runningTasks := by
  decide

end Pool

end ProtoTime.ThreadPool
