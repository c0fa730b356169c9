import ProtoTime.Transition
import ProtoTime.Tally
import Mathlib.Data.Fintype.Basic

/-!
The work-stealing thread pool: workers, client threads inside a call, and the queues and
counters they share. A section under a worker's mutex is one step; what the code does outside
of it (reservations, counters, the stop flag, joins) are steps of their own.
-/
namespace ProtoTime.ThreadPool
open Function Tally

/-- Categories are bytes; one that is not listed counts as the generic one. -/
abbrev BackgroundJobCategory := BitVec 8

def kBackgroundJobCategoryCount : ℕ := 7

def normalizedCategoryIndex (category : BackgroundJobCategory) : ℕ :=
  if category.toNat < kBackgroundJobCategoryCount then category.toNat else 0

/-- A queued task, named by its place among all accepted ones. -/
structure TaskItem where
  id : ℕ
  category : BackgroundJobCategory
deriving DecidableEq, Repr

inductive WorkerStep where
  | exited
  | takingLocal
  | stealing (offset : ℕ)
  | checkingStop
  | scanning (next : ℕ)
  | waiting
  | executing (task : TaskItem)
  | completingCategory (task : TaskItem)
  | completing (task : TaskItem)
  | settling
deriving DecidableEq, Repr

inductive Outcome where
  | nothing
  | submitted (accepted : Bool)
  | cancelled (count : ℕ)
  | stopped
  | idle (reached : Bool)
deriving DecidableEq, Repr

inductive ClientStep where
  | returned (outcome : Outcome)
  | starting
  | submitting (category : BackgroundJobCategory)
  | reserving (category : BackgroundJobCategory)
  | probing (category : BackgroundJobCategory) (rr offset : ℕ)
  | releasing (category : BackgroundJobCategory)
  | rejecting (category : BackgroundJobCategory)
  | cancelling (next cancelled : ℕ)
  | shuttingDown
  | joining (next : ℕ)
  | waitingUntilIdle
deriving DecidableEq, Repr

def ClientStep.joins : ClientStep → Bool
  | .joining _ => true
  | _ => false

inductive Request where
  | start
  | submit (category : BackgroundJobCategory)
  | cancelAll
  | shutdown
  | waitUntilIdle

def Request.entry : Request → ClientStep
  | .start => .starting
  | .submit category => .submitting category
  | .cancelAll => .cancelling 0 0
  | .shutdown => .shuttingDown
  | .waitUntilIdle => .waitingUntilIdle

/-- The per-worker and total caps; a total of zero is no cap. -/
structure Config where
  maxQueuedTasksPerWorker : ℕ
  maxQueuedTasksTotal : ℕ

/-- The caps as the constructor takes them. -/
def Config.ofArguments (maxQueuedTasksPerWorker : ℕ) (maxQueuedTasksTotal : Option ℕ) :
    Config where
  maxQueuedTasksPerWorker := if maxQueuedTasksPerWorker = 0 then 1 else maxQueuedTasksPerWorker
  maxQueuedTasksTotal := maxQueuedTasksTotal.getD 0

/-- The pool with `n + 1` workers and `m` client threads. `executed` and `cancelledTasks` list
the tasks run and the tasks dropped so far, `forgotten` is what restarts have erased from
`tasksCancelled`. -/
structure Pool (n m : ℕ) where
  config : Config
  running : Bool := false
  stopRequested : Bool := false
  lifecycleOwner : Option (Fin m) := none
  queues : Fin (n + 1) → List TaskItem := fun _ => []
  workers : Fin (n + 1) → WorkerStep := fun _ => .exited
  clients : Fin m → ClientStep := fun _ => .returned .nothing
  roundRobin : ℕ := 0
  queuedTasks : ℕ := 0
  tasksSubmitted : ℕ := 0
  tasksCompleted : ℕ := 0
  tasksPending : ℕ := 0
  tasksHighWaterPending : ℕ := 0
  taskFailures : ℕ := 0
  tasksRejected : ℕ := 0
  tasksCancelled : ℕ := 0
  stealAttempts : ℕ := 0
  stealSucceeded : ℕ := 0
  categorySubmitted : ℕ → ℕ := fun _ => 0
  categoryCompleted : ℕ → ℕ := fun _ => 0
  categoryRejected : ℕ → ℕ := fun _ => 0
  categoryCancelled : ℕ → ℕ := fun _ => 0
  executed : List ℕ := []
  cancelledTasks : List ℕ := []
  forgotten : ℕ := 0

/-- The worker `k` places after another, going round. -/
def workerAt (n k : ℕ) : Fin (n + 1) := ⟨k % (n + 1), Nat.mod_lt _ n.succ_pos⟩

namespace Pool

variable {n m : ℕ}

variable (s : Pool n m)

def setWorker (w : Fin (n + 1)) (next : WorkerStep) : Pool n m :=
  { s with workers := update s.workers w next }

def setClient (c : Fin m) (next : ClientStep) : Pool n m :=
  { s with clients := update s.clients c next }

/-- A task leaves a queue; its slot is released under the queue's mutex. -/
def dequeue (w : Fin (n + 1)) (rest : List TaskItem) : Pool n m :=
  { s with queues := update s.queues w rest, queuedTasks := s.queuedTasks - 1 }

def stepWorker (w : Fin (n + 1)) (throws : Bool) : Pool n m :=
  match s.workers w with
  | .exited => s
  | .takingLocal =>
    match s.queues w with
    | [] => s.setWorker w (.stealing 0)
    | task :: rest => (s.dequeue w rest).setWorker w (.executing task)
  | .stealing offset =>
    if offset < n + 1 then
      let victim := workerAt n (w + 1 + offset)
      if victim = w then s.setWorker w (.stealing (offset + 1))
      else
        match (s.queues victim).getLast? with
        | none =>
          { s with stealAttempts := s.stealAttempts + 1 }.setWorker w (.stealing (offset + 1))
        | some task =>
          ({ s with
            stealAttempts := s.stealAttempts + 1
            stealSucceeded := s.stealSucceeded + 1 }.dequeue victim
              (s.queues victim).dropLast).setWorker w (.executing task)
    else s.setWorker w .checkingStop
  | .checkingStop => s.setWorker w (if s.stopRequested then .scanning 0 else .waiting)
  | .scanning next =>
    if next < n + 1 then
      s.setWorker w (if s.queues (workerAt n next) = [] then .scanning (next + 1) else .waiting)
    else s.setWorker w .exited
  | .waiting => s.setWorker w .takingLocal
  | .executing task =>
    { s with
      executed := s.executed ++ [task.id]
      taskFailures := s.taskFailures + (if throws then 1 else 0) }.setWorker w
        (.completingCategory task)
  | .completingCategory task =>
    { s with
      categoryCompleted :=
        increment s.categoryCompleted (normalizedCategoryIndex task.category) }.setWorker w
        (.completing task)
  | .completing _ =>
    { s with tasksCompleted := s.tasksCompleted + 1 }.setWorker w .settling
  | .settling => { s with tasksPending := s.tasksPending - 1 }.setWorker w .takingLocal

/-- Some client's `shutdown` waits for the workers to exit. -/
def joining : Bool := decide (∃ c, (s.clients c).joins = true)

/-- `start` replaces the workers, so it is only called with no `shutdown` still joining. -/
def start (c : Fin m) : Pool n m :=
  if s.lifecycleOwner ≠ none ∨ s.joining then s
  else if s.running then s.setClient c (.returned .nothing)
  else
    { s with
      stopRequested := false
      tasksCancelled := 0
      forgotten := s.forgotten + s.tasksCancelled
      workers := fun _ => .takingLocal
      running := true }.setClient c (.returned .nothing)

/-- A refused submission is counted and returns false. -/
def reject (c : Fin m) (category : BackgroundJobCategory) : Pool n m :=
  { s with
    tasksRejected := s.tasksRejected + 1
    categoryRejected := increment s.categoryRejected (normalizedCategoryIndex category) }.setClient
      c (.returned (.submitted false))

/-- The task joins a worker's queue and is counted, under that queue's mutex. -/
def enqueue (w : Fin (n + 1)) (category : BackgroundJobCategory) : Pool n m :=
  { s with
    queues := update s.queues w (s.queues w ++ [⟨s.tasksSubmitted, category⟩])
    tasksSubmitted := s.tasksSubmitted + 1
    categorySubmitted := increment s.categorySubmitted (normalizedCategoryIndex category)
    tasksPending := s.tasksPending + 1
    tasksHighWaterPending := max s.tasksHighWaterPending (s.tasksPending + 1) }

/-- `cancelAll` empties one queue under its mutex. -/
def clearQueue (w : Fin (n + 1)) : Pool n m :=
  { s with
    queues := update s.queues w []
    categoryCancelled := (s.queues w).foldl
      (fun counts task => increment counts (normalizedCategoryIndex task.category))
      s.categoryCancelled
    cancelledTasks := s.cancelledTasks ++ (s.queues w).map TaskItem.id
    tasksPending := s.tasksPending - (s.queues w).length
    queuedTasks := s.queuedTasks - (s.queues w).length }

/-- The client's next step; `timeout` says whether a wait gives up. -/
def stepClient (c : Fin m) (timeout : Bool) : Pool n m :=
  match s.clients c with
  | .returned _ => s
  | .starting => s.start c
  | .submitting category =>
    if s.lifecycleOwner ≠ none then s
    else if !s.running || s.stopRequested then s.reject c category
    else { s with lifecycleOwner := some c }.setClient c (.reserving category)
  | .reserving category =>
    if s.config.maxQueuedTasksTotal = 0 ∨ s.queuedTasks < s.config.maxQueuedTasksTotal then
      { s with
        queuedTasks := s.queuedTasks + 1
        roundRobin := s.roundRobin + 1 }.setClient c (.probing category s.roundRobin 0)
    else { s with lifecycleOwner := none }.reject c category
  | .probing category rr offset =>
    if offset < n + 1 then
      let w := workerAt n (rr + offset)
      if (s.queues w).length ≥ s.config.maxQueuedTasksPerWorker then
        s.setClient c (.probing category rr (offset + 1))
      else
        { s.enqueue w category with lifecycleOwner := none }.setClient c
          (.returned (.submitted true))
    else { s with lifecycleOwner := none }.setClient c (.releasing category)
  | .releasing category =>
    { s with queuedTasks := s.queuedTasks - 1 }.setClient c (.rejecting category)
  | .rejecting category => s.reject c category
  | .cancelling next cancelled =>
    if next < n + 1 then
      (s.clearQueue (workerAt n next)).setClient c
        (.cancelling (next + 1) (cancelled + (s.queues (workerAt n next)).length))
    else
      { s with tasksCancelled := s.tasksCancelled + cancelled }.setClient c
        (.returned (.cancelled cancelled))
  | .shuttingDown =>
    if s.lifecycleOwner ≠ none then s
    else if s.running then { s with stopRequested := true }.setClient c (.joining 0)
    else s.setClient c (.returned .stopped)
  | .joining next =>
    if next < n + 1 then
      if s.workers (workerAt n next) = .exited then s.setClient c (.joining (next + 1)) else s
    else if s.lifecycleOwner ≠ none then s
    else { s with running := false }.setClient c (.returned .stopped)
  | .waitingUntilIdle =>
    if s.tasksPending = 0 then s.setClient c (.returned (.idle true))
    else if timeout then s.setClient c (.returned (.idle false))
    else s

/-- A client outside any call makes one. -/
def call (c : Fin m) (request : Request) : Pool n m :=
  match s.clients c with
  | .returned _ => s.setClient c request.entry
  | _ => s

inductive Action (n m : ℕ) where
  | call (c : Fin m) (request : Request)
  | client (c : Fin m) (timeout : Bool)
  | worker (w : Fin (n + 1)) (throws : Bool)

def step : Action n m → Pool n m
  | .call c request => s.call c request
  | .client c timeout => s.stepClient c timeout
  | .worker w throws => s.stepWorker w throws

def initial (n m : ℕ) (config : Config) : Pool n m := { config := config }

def queued : ℕ := total List.length s.queues

end Pool

/-- A worker holds a task that is not counted as completed yet. -/
def WorkerStep.running : WorkerStep → ℕ
  | .executing _ | .completingCategory _ | .completing _ => 1
  | _ => 0

/-- A worker has a task that is still counted as pending. -/
def WorkerStep.pending : WorkerStep → ℕ
  | .executing _ | .completingCategory _ | .completing _ | .settling => 1
  | _ => 0

/-- How often a task is in a worker's hands, not run yet. -/
def WorkerStep.holds (id : ℕ) : WorkerStep → ℕ
  | .executing task => if task.id = id then 1 else 0
  | _ => 0

/-- Tasks that an unfinished `cancelAll` has dropped and not added to the total yet. -/
def ClientStep.uncounted : ClientStep → ℕ
  | .cancelling _ cancelled => cancelled
  | _ => 0

/-- Queue slots an unfinished `submit` has reserved without queueing a task. -/
def ClientStep.reservations : ClientStep → ℕ
  | .probing _ _ _ | .releasing _ => 1
  | _ => 0

namespace Pool

variable {n m : ℕ}

/-- Tasks taken by workers and not completed yet. -/
def runningTasks (s : Pool n m) : ℕ := total WorkerStep.running s.workers

/-- Cancelled tasks, counted category by category under the queues' mutexes. -/
def cancelledByCategory (s : Pool n m) : ℕ :=
  ∑ i ∈ Finset.range kBackgroundJobCategoryCount, s.categoryCancelled i

/-- In how many places a task is: a queue, a worker's hands, run, or cancelled. -/
def places (s : Pool n m) (id : ℕ) : ℕ :=
  total (fun queue => (queue.map TaskItem.id).count id) s.queues +
    total (WorkerStep.holds id) s.workers + s.executed.count id + s.cancelledTasks.count id

end Pool

end ProtoTime.ThreadPool
