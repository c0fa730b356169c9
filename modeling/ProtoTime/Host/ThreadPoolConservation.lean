import ProtoTime.Host.BackgroundThreadPool
import Mathlib.Data.List.Count

/-!
No task is lost or run twice: where every accepted task is, and what the counters count, in
every state that an interleaving of workers and clients reaches.
-/
namespace ProtoTime.ThreadPool
open Function Tally Transition

variable {n m : ℕ}

theorem normalizedCategoryIndex_mem (category : BackgroundJobCategory) :
    normalizedCategoryIndex category ∈ Finset.range kBackgroundJobCategoryCount := by
  rw [Finset.mem_range]
  simp only [normalizedCategoryIndex]
  split
  · assumption
  · decide

structure WorkerStep.EmptyHanded (step : WorkerStep) : Prop where
  running : step.running = 0
  pending : step.pending = 0
  holds : ∀ id, step.holds id = 0

namespace Pool

/-- What the counters say about the queues, the workers' hands and the calls in progress. -/
structure Balanced (s : Pool n m) : Prop where
  placed : ∀ id, s.places id = if id < s.tasksSubmitted then 1 else 0
  submitted : s.tasksSubmitted =
    s.tasksCompleted + s.cancelledByCategory + s.queued + s.runningTasks
  cancelled : s.tasksCancelled + s.forgotten + total ClientStep.uncounted s.clients =
    s.cancelledByCategory
  dropped : s.cancelledTasks.length = s.cancelledByCategory
  reserved : s.queuedTasks = s.queued + total ClientStep.reservations s.clients
  pending : s.tasksPending = s.queued + total WorkerStep.pending s.workers
  capped : s.config.maxQueuedTasksTotal ≠ 0 → s.queuedTasks ≤ s.config.maxQueuedTasksTotal
  bounded : ∀ w, (s.queues w).length ≤ s.config.maxQueuedTasksPerWorker

namespace Balanced

variable {s : Pool n m}

theorem initial (config : Config) : Balanced (Pool.initial n m config) := by
  have hq (f : List TaskItem → ℕ) (hf : f [] = 0) : total f (Pool.initial n m config).queues = 0 :=
    total_eq_zero fun _ => hf
  have hw (f : WorkerStep → ℕ) (hf : f .exited = 0) :
      total f (Pool.initial n m config).workers = 0 := total_eq_zero fun _ => hf
  have hc (f : ClientStep → ℕ) (hf : f (.returned .nothing) = 0) :
      total f (Pool.initial n m config).clients = 0 := total_eq_zero fun _ => hf
  have hcategory : (Pool.initial n m config).cancelledByCategory = 0 :=
    Finset.sum_eq_zero fun _ _ => rfl
  refine ⟨?_, ?_, ?_, hcategory.symm, ?_, ?_, fun _ => Nat.zero_le _, fun _ => Nat.zero_le _⟩
  · intro id
    simp only [places, hq (fun queue => (queue.map TaskItem.id).count id) rfl,
      hw (WorkerStep.holds id) rfl]
    rfl
  · rw [hcategory, queued, runningTasks, hq _ rfl, hw _ rfl]
    rfl
  · rw [hcategory, hc _ rfl]
    rfl
  · rw [queued, hq _ rfl, hc _ rfl]
    rfl
  · rw [queued, hq _ rfl, hw _ rfl]
    rfl

variable {w : Fin (n + 1)}

/-- A worker goes on, and the counters follow the task in its hands. -/
theorem advanceWorker (hs : Balanced s) {next : WorkerStep}
    {tasksCompleted tasksPending taskFailures : ℕ} {executed : List ℕ}
    (hrunning : tasksCompleted + next.running = s.tasksCompleted + (s.workers w).running)
    (hpending : tasksPending = s.tasksPending + next.pending - (s.workers w).pending)
    (hholds : ∀ id, executed.count id + next.holds id =
      s.executed.count id + (s.workers w).holds id) :
    Balanced ({ s with tasksCompleted, tasksPending, taskFailures, executed }.setWorker w next) := by
  have hr := total_update WorkerStep.running s.workers w next
  have hp := total_update WorkerStep.pending s.workers w next
  refine ⟨?_, ?_, hs.cancelled, hs.dropped, hs.reserved, ?_, hs.capped, hs.bounded⟩
  · intro id
    have hh := total_update (WorkerStep.holds id) s.workers w next
    refine Eq.trans ?_ (hs.placed id)
    have hid := hholds id
    simp only [places, Pool.setWorker]
    omega
  · have h := hs.submitted
    simp only [runningTasks, Pool.setWorker, cancelledByCategory, queued] at h ⊢
    omega
  · have h := hs.pending
    simp only [Pool.setWorker, queued] at h ⊢
    omega

theorem setWorker (hs : Balanced s) {next : WorkerStep}
    (hrunning : next.running = (s.workers w).running)
    (hpending : next.pending = (s.workers w).pending)
    (hholds : ∀ id, next.holds id = (s.workers w).holds id) : Balanced (s.setWorker w next) :=
  hs.advanceWorker (by rw [hrunning]) (by omega) (fun id => by rw [hholds id])

variable {c : Fin m}

/-- A client goes on, and the counters follow its reserved slot and its cancelled tasks. -/
theorem advanceClient (hs : Balanced s) {next : ClientStep}
    {queuedTasks roundRobin tasksCancelled : ℕ}
    (huncounted : tasksCancelled + next.uncounted = s.tasksCancelled + (s.clients c).uncounted)
    (hreservations :
      queuedTasks = s.queuedTasks + next.reservations - (s.clients c).reservations)
    (hcapped : s.config.maxQueuedTasksTotal ≠ 0 → queuedTasks ≤ s.config.maxQueuedTasksTotal) :
    Balanced ({ s with queuedTasks, roundRobin, tasksCancelled }.setClient c next) := by
  have hu := total_update ClientStep.uncounted s.clients c next
  have hr := total_update ClientStep.reservations s.clients c next
  refine ⟨hs.placed, hs.submitted, ?_, hs.dropped, ?_, hs.pending, hcapped, hs.bounded⟩
  · have h := hs.cancelled
    simp only [Pool.setClient, cancelledByCategory] at h ⊢
    omega
  · have h := hs.reserved
    simp only [Pool.setClient, queued] at h ⊢
    omega

theorem setClient (hs : Balanced s) {next : ClientStep}
    (huncounted : next.uncounted = (s.clients c).uncounted)
    (hreservations : next.reservations = (s.clients c).reservations) :
    Balanced (s.setClient c next) :=
  hs.advanceClient (by rw [huncounted]) (by omega) hs.capped

variable {task : TaskItem}

section

variable (hs : Balanced s)

include hs

/-- A worker takes a task out of a queue, its own or another's, from either end. -/
theorem take {v : Fin (n + 1)} {rest : List TaskItem}
    (hqueue : (s.queues v).Perm (task :: rest)) (hw : (s.workers w).EmptyHanded) :
    Balanced ((s.dequeue v rest).setWorker w (.executing task)) := by
  have hlength : (s.queues v).length = rest.length + 1 := hqueue.length_eq
  have hq := total_update List.length s.queues v rest
  have hr := total_update WorkerStep.running s.workers w (.executing task)
  have hp := total_update WorkerStep.pending s.workers w (.executing task)
  rw [hw.running] at hr
  rw [hw.pending] at hp
  simp only [WorkerStep.running, WorkerStep.pending] at hr hp
  refine ⟨?_, ?_, hs.cancelled, hs.dropped, ?_, ?_, ?_, ?_⟩
  · intro id
    have hc := total_update (fun queue : List TaskItem => (queue.map TaskItem.id).count id)
      s.queues v rest
    have hh := total_update (WorkerStep.holds id) s.workers w (.executing task)
    refine Eq.trans ?_ (hs.placed id)
    have hcount : ((s.queues v).map TaskItem.id).count id =
        (rest.map TaskItem.id).count id + (if task.id = id then 1 else 0) := by
      rw [(hqueue.map _).count_eq, List.map_cons, List.count_cons]
      simp only [beq_iff_eq]
    rw [hw.holds id] at hh
    simp only [hcount, WorkerStep.holds] at hc hh
    simp only [places, dequeue, Pool.setWorker]
    omega
  · have h := hs.submitted
    simp only [runningTasks, Pool.setWorker, dequeue, cancelledByCategory, queued] at h ⊢
    omega
  · have h := hs.reserved
    simp only [Pool.setWorker, dequeue, queued] at h ⊢
    omega
  · have h := hs.pending
    simp only [Pool.setWorker, dequeue, queued] at h ⊢
    omega
  · intro hcap
    exact Nat.le_trans (Nat.sub_le _ _) (hs.capped hcap)
  · intro u
    simp only [Pool.setWorker, dequeue]
    by_cases hu : u = v
    · have hb := hs.bounded v
      rw [hu, update_self]
      omega
    · rw [update_of_ne hu]
      exact hs.bounded u

theorem stepWorker (w : Fin (n + 1)) (throws : Bool) :
    Balanced (s.stepWorker w throws) := by
  cases h : s.workers w with
  | exited => simpa [Pool.stepWorker, h] using hs
  | takingLocal =>
    simp only [Pool.stepWorker, h]
    cases hq : s.queues w with
    | nil => exact hs.setWorker (by rw [h]; rfl) (by rw [h]; rfl) (fun _ => by rw [h]; rfl)
    | cons task rest =>
      exact hs.take (hq ▸ List.Perm.refl _) (h ▸ ⟨rfl, rfl, fun _ => rfl⟩)
  | stealing offset =>
    simp only [Pool.stepWorker, h]
    split
    · split
      · exact hs.setWorker (by rw [h]; rfl) (by rw [h]; rfl) (fun _ => by rw [h]; rfl)
      · split
        · exact setWorker (s := { s with stealAttempts := s.stealAttempts + 1 })
            ⟨hs.placed, hs.submitted, hs.cancelled, hs.dropped, hs.reserved, hs.pending,
              hs.capped, hs.bounded⟩ (by simp only [h]; rfl) (by simp only [h]; rfl)
            (fun _ => by simp only [h]; rfl)
        · next task hlast =>
          have hne : s.queues (workerAt n (w + 1 + offset)) ≠ [] := by
            intro he
            rw [he] at hlast
            cases hlast
          have hperm : (s.queues (workerAt n (w + 1 + offset))).Perm
              (task :: (s.queues (workerAt n (w + 1 + offset))).dropLast) := by
            have hl := List.getLast?_eq_some_getLast hne
            rw [hl] at hlast
            cases hlast
            exact (List.perm_append_comm.trans
              (List.Perm.of_eq (List.dropLast_append_getLast hne))).symm
          exact take (s := { s with
              stealAttempts := s.stealAttempts + 1, stealSucceeded := s.stealSucceeded + 1 })
            ⟨hs.placed, hs.submitted, hs.cancelled, hs.dropped, hs.reserved, hs.pending,
              hs.capped, hs.bounded⟩ hperm (by simp only [h]; exact ⟨rfl, rfl, fun _ => rfl⟩)
    · exact hs.setWorker (by rw [h]; rfl) (by rw [h]; rfl) (fun _ => by rw [h]; rfl)
  | checkingStop =>
    simp only [Pool.stepWorker, h]
    split
    · exact hs.setWorker (by rw [h]; rfl) (by rw [h]; rfl) (fun _ => by rw [h]; rfl)
    · exact hs.setWorker (by rw [h]; rfl) (by rw [h]; rfl) (fun _ => by rw [h]; rfl)
  | scanning next =>
    simp only [Pool.stepWorker, h]
    split
    · split
      · exact hs.setWorker (by rw [h]; rfl) (by rw [h]; rfl) (fun _ => by rw [h]; rfl)
      · exact hs.setWorker (by rw [h]; rfl) (by rw [h]; rfl) (fun _ => by rw [h]; rfl)
    · exact hs.setWorker (by rw [h]; rfl) (by rw [h]; rfl) (fun _ => by rw [h]; rfl)
  | waiting =>
    simp only [Pool.stepWorker, h]
    exact hs.setWorker (by rw [h]; rfl) (by rw [h]; rfl) (fun _ => by rw [h]; rfl)
  | executing task =>
    simp only [Pool.stepWorker, h]
    refine hs.advanceWorker (by rw [h]; rfl) (by rw [h]; rfl) fun id => ?_
    simp only [h, WorkerStep.holds, List.count_append, List.count_singleton, beq_iff_eq]
    omega
  | completingCategory task =>
    simp only [Pool.stepWorker, h]
    exact setWorker (s := { s with
        categoryCompleted :=
          increment s.categoryCompleted (normalizedCategoryIndex task.category) })
      ⟨hs.placed, hs.submitted, hs.cancelled, hs.dropped, hs.reserved, hs.pending,
        hs.capped, hs.bounded⟩ (by simp only [h]; rfl) (by simp only [h]; rfl)
      (fun _ => by simp only [h]; rfl)
  | completing task =>
    simp only [Pool.stepWorker, h]
    exact hs.advanceWorker (by rw [h]; rfl) (by rw [h]; rfl) (fun _ => by rw [h]; rfl)
  | settling =>
    simp only [Pool.stepWorker, h]
    exact hs.advanceWorker (by rw [h]; rfl) (by rw [h]; rfl) (fun _ => by rw [h]; rfl)

theorem reject (category : BackgroundJobCategory)
    (huncounted : (s.clients c).uncounted = 0) (hreservations : (s.clients c).reservations = 0) :
    Balanced (s.reject c category) :=
  setClient (s := { s with
      tasksRejected := s.tasksRejected + 1
      categoryRejected := increment s.categoryRejected (normalizedCategoryIndex category) })
    ⟨hs.placed, hs.submitted, hs.cancelled, hs.dropped, hs.reserved, hs.pending, hs.capped,
      hs.bounded⟩ huncounted.symm hreservations.symm

/-- The reserved slot is filled: the new task is in one queue and nowhere else. -/
theorem enqueue {category : BackgroundJobCategory}
    {rr offset : ℕ} (h : s.clients c = .probing category rr offset)
    (hroom : (s.queues w).length < s.config.maxQueuedTasksPerWorker) :
    Balanced ({ s.enqueue w category with lifecycleOwner := none }.setClient c
      (.returned (.submitted true))) := by
  have hu := total_update ClientStep.uncounted s.clients c (.returned (.submitted true))
  have hr := total_update ClientStep.reservations s.clients c (.returned (.submitted true))
  have hq := total_update List.length s.queues w (s.queues w ++ [⟨s.tasksSubmitted, category⟩])
  simp only [h, ClientStep.uncounted, ClientStep.reservations] at hu hr
  rw [List.length_append, List.length_singleton] at hq
  refine ⟨?_, ?_, ?_, hs.dropped, ?_, ?_, hs.capped, ?_⟩
  · intro id
    have hc := total_update (fun queue : List TaskItem => (queue.map TaskItem.id).count id)
      s.queues w (s.queues w ++ [⟨s.tasksSubmitted, category⟩])
    have hplaced := hs.placed id
    have hnew : (if id < s.tasksSubmitted + 1 then 1 else 0) =
        (if id < s.tasksSubmitted then 1 else 0) + (if s.tasksSubmitted = id then 1 else 0) := by
      split_ifs <;> omega
    refine Eq.trans ?_ hnew.symm
    rw [← hplaced]
    simp only [List.map_append, List.map_cons, List.map_nil, List.count_append,
      List.count_singleton, beq_iff_eq] at hc
    simp only [places, Pool.setClient, Pool.enqueue]
    omega
  · have h := hs.submitted
    simp only [Pool.setClient, Pool.enqueue, cancelledByCategory, queued, runningTasks] at h ⊢
    omega
  · have h := hs.cancelled
    simp only [Pool.setClient, Pool.enqueue, cancelledByCategory] at h ⊢
    omega
  · have h := hs.reserved
    simp only [Pool.setClient, Pool.enqueue, queued] at h ⊢
    omega
  · have h := hs.pending
    simp only [Pool.setClient, Pool.enqueue, queued] at h ⊢
    omega
  · intro u
    simp only [Pool.setClient, Pool.enqueue]
    by_cases hu : u = w
    · rw [hu, update_self, List.length_append, List.length_singleton]
      exact hroom
    · rw [update_of_ne hu]
      exact hs.bounded u

/-- Emptying a queue cancels its tasks, each counted under its category. -/
theorem clearQueue {next cancelled : ℕ}
    (h : s.clients c = .cancelling next cancelled) (w : Fin (n + 1)) :
    Balanced ((s.clearQueue w).setClient c
      (.cancelling (next + 1) (cancelled + (s.queues w).length))) := by
  have hu := total_update ClientStep.uncounted s.clients c
    (.cancelling (next + 1) (cancelled + (s.queues w).length))
  have hr := total_update ClientStep.reservations s.clients c
    (.cancelling (next + 1) (cancelled + (s.queues w).length))
  have hq := total_update List.length s.queues w []
  have hcategory : ((s.clearQueue w).setClient c
      (.cancelling (next + 1) (cancelled + (s.queues w).length))).cancelledByCategory =
      s.cancelledByCategory + (s.queues w).length :=
    sum_foldl_increment (fun task : TaskItem => normalizedCategoryIndex task.category)
      (s.queues w) (fun task _ => normalizedCategoryIndex_mem task.category) s.categoryCancelled
  simp only [h, ClientStep.uncounted, ClientStep.reservations] at hu hr
  rw [List.length_nil] at hq
  refine ⟨?_, ?_, ?_, ?_, ?_, ?_, ?_, ?_⟩
  · intro id
    have hc := total_update (fun queue : List TaskItem => (queue.map TaskItem.id).count id)
      s.queues w []
    refine Eq.trans ?_ (hs.placed id)
    simp only [List.map_nil, List.count_nil] at hc
    simp only [places, Pool.setClient, Pool.clearQueue, List.count_append]
    omega
  · have h := hs.submitted
    rw [hcategory]
    simp only [Pool.setClient, Pool.clearQueue, queued, runningTasks] at h ⊢
    omega
  · have h := hs.cancelled
    rw [hcategory]
    simp only [Pool.setClient, Pool.clearQueue] at h ⊢
    omega
  · have h := hs.dropped
    rw [hcategory]
    simp only [Pool.setClient, Pool.clearQueue, List.length_append, List.length_map] at h ⊢
    omega
  · have h := hs.reserved
    simp only [Pool.setClient, Pool.clearQueue, queued] at h ⊢
    omega
  · have h := hs.pending
    simp only [Pool.setClient, Pool.clearQueue, queued] at h ⊢
    omega
  · intro hcap
    exact Nat.le_trans (Nat.sub_le _ _) (hs.capped hcap)
  · intro u
    simp only [Pool.setClient, Pool.clearQueue]
    by_cases hu : u = w
    · rw [hu, update_self]
      exact Nat.zero_le _
    · rw [update_of_ne hu]
      exact hs.bounded u

/-- New workers start with empty hands, and so do the ones they replace. -/
theorem start (h : s.clients c = .starting)
    (hexited : s.running = false → ∀ w, s.workers w = .exited) : Balanced (s.start c) := by
  simp only [Pool.start]
  split
  · exact hs
  · split
    · exact hs.setClient (by rw [h]; rfl) (by rw [h]; rfl)
    · next hrunning =>
      have hworkers := hexited (Bool.eq_false_iff.mpr hrunning)
      have hr : total WorkerStep.running (fun _ : Fin (n + 1) => WorkerStep.takingLocal) =
          total WorkerStep.running s.workers :=
        total_congr fun w => by rw [hworkers w]; rfl
      have hp : total WorkerStep.pending (fun _ : Fin (n + 1) => WorkerStep.takingLocal) =
          total WorkerStep.pending s.workers :=
        total_congr fun w => by rw [hworkers w]; rfl
      have hh (id : ℕ) :
          total (WorkerStep.holds id) (fun _ : Fin (n + 1) => WorkerStep.takingLocal) =
          total (WorkerStep.holds id) s.workers :=
        total_congr fun w => by rw [hworkers w]; rfl
      refine setClient (s := { s with
          stopRequested := false, tasksCancelled := 0
          forgotten := s.forgotten + s.tasksCancelled
          workers := fun _ => .takingLocal, running := true })
        ⟨?_, ?_, ?_, hs.dropped, hs.reserved, ?_, hs.capped, hs.bounded⟩
        (by simp only [h]; rfl) (by simp only [h]; rfl)
      · intro id
        refine Eq.trans ?_ (hs.placed id)
        simp only [places, hh id]
      · have h := hs.submitted
        simp only [cancelledByCategory, queued, runningTasks, hr] at h ⊢
        exact h
      · have h := hs.cancelled
        simp only [cancelledByCategory] at h ⊢
        omega
      · have h := hs.pending
        simp only [queued, hp] at h ⊢
        exact h

theorem withOwner (owner : Option (Fin m)) :
    Balanced { s with lifecycleOwner := owner } :=
  ⟨hs.placed, hs.submitted, hs.cancelled, hs.dropped, hs.reserved, hs.pending, hs.capped,
    hs.bounded⟩

theorem stepClient (c : Fin m) (timeout : Bool)
    (hexited : s.running = false → ∀ w, s.workers w = .exited) :
    Balanced (s.stepClient c timeout) := by
  cases h : s.clients c with
  | returned outcome => simpa [Pool.stepClient, h] using hs
  | starting =>
    simp only [Pool.stepClient, h]
    exact hs.start h hexited
  | submitting category =>
    simp only [Pool.stepClient, h]
    split
    · exact hs
    · split
      · exact hs.reject category (by rw [h]; rfl) (by rw [h]; rfl)
      · exact (hs.withOwner _).setClient (by simp only [h]; rfl) (by simp only [h]; rfl)
  | reserving category =>
    simp only [Pool.stepClient, h]
    split
    · exact hs.advanceClient (by rw [h]; rfl) (by rw [h]; rfl) (fun _ => by omega)
    · exact (hs.withOwner _).reject category (by simp only [h]; rfl) (by simp only [h]; rfl)
  | probing category rr offset =>
    simp only [Pool.stepClient, h]
    split
    · split
      · exact hs.setClient (by rw [h]; rfl) (by rw [h]; rfl)
      · next hroom => exact hs.enqueue h (Nat.lt_of_not_ge hroom)
    · exact (hs.withOwner _).setClient (by simp only [h]; rfl) (by simp only [h]; rfl)
  | releasing category =>
    simp only [Pool.stepClient, h]
    exact hs.advanceClient (by rw [h]; rfl) (by rw [h]; rfl)
      (fun hcap => Nat.le_trans (Nat.sub_le _ _) (hs.capped hcap))
  | rejecting category =>
    simp only [Pool.stepClient, h]
    exact hs.reject category (by rw [h]; rfl) (by rw [h]; rfl)
  | cancelling next cancelled =>
    simp only [Pool.stepClient, h]
    split
    · exact hs.clearQueue h _
    · exact hs.advanceClient (by rw [h]; rfl) (by rw [h]; rfl) hs.capped
  | shuttingDown =>
    simp only [Pool.stepClient, h]
    split
    · exact hs
    · split
      · exact setClient (s := { s with stopRequested := true })
          ⟨hs.placed, hs.submitted, hs.cancelled, hs.dropped, hs.reserved, hs.pending, hs.capped,
            hs.bounded⟩ (by simp only [h]; rfl) (by simp only [h]; rfl)
      · exact hs.setClient (by rw [h]; rfl) (by rw [h]; rfl)
  | joining next =>
    simp only [Pool.stepClient, h]
    split
    · split
      · exact hs.setClient (by rw [h]; rfl) (by rw [h]; rfl)
      · exact hs
    · split
      · exact hs
      · exact setClient (s := { s with running := false })
          ⟨hs.placed, hs.submitted, hs.cancelled, hs.dropped, hs.reserved, hs.pending, hs.capped,
            hs.bounded⟩ (by simp only [h]; rfl) (by simp only [h]; rfl)
  | waitingUntilIdle =>
    simp only [Pool.stepClient, h]
    split
    · exact hs.setClient (by rw [h]; rfl) (by rw [h]; rfl)
    · split
      · exact hs.setClient (by rw [h]; rfl) (by rw [h]; rfl)
      · exact hs

theorem call (c : Fin m) (request : Request) : Balanced (s.call c request) := by
  simp only [Pool.call]
  split
  · next h =>
    cases request <;> exact hs.setClient (by rw [h]; rfl) (by rw [h]; rfl)
  · exact hs

end

end Balanced

end Pool

end ProtoTime.ThreadPool
