import ProtoTime.Script.Invocations
import ProtoTime.Transition

/-!
The script service: its loaded scripts, the one evaluation it lets run beside it, and the recipes
it gives out for the debugger to commit.
-/
namespace ProtoTime.Script

open Debug (Reply)
open Transition

inductive State
  | detached
  | paused
  | active
  | faulted
  deriving DecidableEq

structure ScriptCapabilities where
  nonRealtimeOnly : Bool
  snapshotAware : Bool
  machineMutationAllowed : Bool
  headlessSafe : Bool
  boundedExecution : Bool

structure ScriptUnit where
  language : Language
  source : Text
  permissions : Permissions
  limits : Limits
  capabilities : ScriptCapabilities

structure Diagnostics where
  invocationFailureCount : ℕ
  rejectedLiveCallbackCount : ℕ
  permissionDeniedCount : ℕ
  disabledRuntimeCount : ℕ
  lastObservedGeneration : BitVec 64
  lastRuntimeError : String

structure ScriptAction where
  ticket : BitVec 64
  result : Result

/-- The pending result is the one its worker is going to give. -/
structure ScriptService where
  units : Fin 8 → Option ScriptUnit
  snapshot : Snapshot
  state : State
  diagnostics : Diagnostics
  pending : Option Result
  generation : BitVec 64
  pause : BitVec 64
  ticket : BitVec 64
  awaitingCommit : BitVec 64
  pendingSlot : Fin 8

def blankReply : Reply where
  id := 0
  error := .none
  state := .detached
  reason := .entry
  generation := 0
  pauseId := 0
  lost := 0
  codeBacking := 0
  rejectedActions := 0
  requestOverflow := 0
  registers _ := 0
  memory := []

def blankSnapshot : Snapshot := ⟨"", blankReply, 0⟩

variable (H : Host)

namespace ScriptService

def create : ScriptService where
  units _ := none
  snapshot := blankSnapshot
  state := .detached
  diagnostics := ⟨0, 0, 0, 0, 0, ""⟩
  pending := none
  generation := 0
  pause := 0
  ticket := 0
  awaitingCommit := 0
  pendingSlot := 0

variable (s : ScriptService)

def failure (error : String) : ScriptService :=
  { s with diagnostics := { s.diagnostics with
    invocationFailureCount := s.diagnostics.invocationFailureCount + 1
    lastRuntimeError := error } }

def countDisabled : ScriptService :=
  { s with diagnostics := { s.diagnostics with
    disabledRuntimeCount := s.diagnostics.disabledRuntimeCount + 1 } }

def countDenied : ScriptService :=
  { s with diagnostics := { s.diagnostics with
    permissionDeniedCount := s.diagnostics.permissionDeniedCount + 1 } }

/-- Something is running, or has to be committed first. -/
def busy : Bool := s.pending.isSome || s.awaitingCommit != 0

def capable (u : ScriptUnit) : Bool :=
  u.capabilities.nonRealtimeOnly && u.capabilities.snapshotAware && u.capabilities.headlessSafe
    && u.capabilities.boundedExecution
    && (!(u.permissions.ram || u.permissions.registers) || u.capabilities.machineMutationAllowed)

def withinLimits (u : ScriptUnit) : Bool :=
  u.limits.sourceBytes != 0 && decide (u.limits.sourceBytes ≤ 1024 * 1024)
    && decide (u.source.length ≤ u.limits.sourceBytes) && !u.source.contains 0
    && decide (65536 ≤ u.limits.heapBytes) && decide (u.limits.heapBytes ≤ 64 * 1024 * 1024)
    && u.limits.instructions != 0 && decide (u.limits.instructions ≤ 100000000)
    && decide (1 ≤ u.limits.timeout) && decide (u.limits.timeout ≤ 30000)

def load (s : ScriptService) (id : ℕ) (u : ScriptUnit) : ScriptService :=
  if s.state == .active || s.busy || decide (8 ≤ id) then
    s.failure "script load lifecycle/slot rejected"
  else if !H.available u.language then s.countDisabled.failure "script runtime unavailable"
  else if !capable u then s.countDenied.failure "script capabilities rejected"
  else if !withinLimits u then s.failure "script resource limits rejected"
  else { s with units := Function.update s.units (Fin.ofNat 8 id) (some u) }

def unload (s : ScriptService) (id : ℕ) : ScriptService :=
  if s.state == .active || s.busy || decide (8 ≤ id) then
    s.failure "script unload lifecycle/slot rejected"
  else { s with units := Function.update s.units (Fin.ofNat 8 id) none }

def stateOf : Debug.State → State
  | .detached => .detached
  | .paused => .paused
  | .running => .active
  | .faulted => .faulted

def observe (snapshot : Snapshot) : ScriptService :=
  { s with
    snapshot := snapshot
    diagnostics := { s.diagnostics with lastObservedGeneration := snapshot.state.generation }
    state := stateOf snapshot.state.state }

def detach : ScriptService :=
  { s with state := .detached, snapshot := blankSnapshot, awaitingCommit := 0 }

def start (id : Fin 8) (u : ScriptUnit) : ScriptService :=
  { s with
    pendingSlot := id
    generation := s.snapshot.state.generation
    pause := s.snapshot.state.pauseId
    ticket := s.ticket + 1
    pending := some (evaluate H u.language u.source s.snapshot u.permissions u.limits) }

def kInvocationRejected : String := "script invocation lifecycle/slot rejected"

def invoke (id : ℕ) : ScriptService :=
  if s.state != .paused || s.busy || decide (8 ≤ id) then s.failure kInvocationRejected
  else
    match s.units (Fin.ofNat 8 id) with
    | none => s.failure kInvocationRejected
    | some u => s.start H (Fin.ofNat 8 id) u

def invokeLive : ScriptService :=
  { s with diagnostics := { s.diagnostics with
    rejectedLiveCallbackCount := s.diagnostics.rejectedLiveCallbackCount + 1 } }.failure
    "interpreters are unavailable on the live machine lane; use prepared hook actions"

def current (result : Result) : Result :=
  if s.state != .paused || s.snapshot.state.generation != s.generation
      || s.snapshot.state.pauseId != s.pause then
    refused false "stale script generation/pause; recipe discarded"
  else result

def account (result : Result) : ScriptService :=
  if result.success then
    if result.staged.editRegisters || result.staged.byteCount != 0 then
      { s with awaitingCommit := s.ticket }
    else s
  else
    let denied := if result.permissionDenied then s.countDenied else s
    let disabled := if result.runtimeUnavailable then
        { denied.countDisabled with units := Function.update denied.units denied.pendingSlot none }
      else denied
    disabled.failure result.error

/-- The recipe of an evaluation that is ready. -/
def poll (ready : Bool) : Option ScriptAction × ScriptService :=
  match s.pending with
  | none => (none, s)
  | some result =>
    if ready then
      let taken := { s with pending := none }
      (some ⟨s.ticket, s.current result⟩, taken.account (s.current result))
    else (none, s)

def errorCode : Debug.Error → ℕ
  | .none => 0
  | .detached => 1
  | .running => 2
  | .stale => 3
  | .invalid => 4
  | .unsupported => 5
  | .fault => 6

def acknowledge (ticket : BitVec 64) (reply : Reply) : ScriptService :=
  if s.awaitingCommit == 0 || s.awaitingCommit != ticket then
    s.failure "script commit ticket rejected"
  else if reply.error ≠ .none then
    { s with awaitingCommit := 0 }.failure
      ("machine rejected script recipe: " ++ toString (errorCode reply.error))
  else { s with awaitingCommit := 0 }.observe
    { s.snapshot with state := { reply with memory := [] } }

end ScriptService

inductive Event
  | load (id : ℕ) (u : ScriptUnit)
  | unload (id : ℕ)
  | observe (snapshot : Snapshot)
  | detach
  | invoke (id : ℕ)
  | invokeLive
  | poll (ready : Bool)
  | acknowledge (ticket : BitVec 64) (reply : Reply)

namespace ScriptService

variable (s : ScriptService)

def step : Event → ScriptService
  | .load id u => s.load H id u
  | .unload id => s.unload id
  | .observe snapshot => s.observe snapshot
  | .detach => s.detach
  | .invoke id => s.invoke H id
  | .invokeLive => s.invokeLive
  | .poll ready => (s.poll ready).2
  | .acknowledge ticket reply => s.acknowledge ticket reply

/-! ## What is underway -/

def EvaluatedAt (generation pause : BitVec 64) (r : Result) : Prop :=
  ∃ (u : ScriptUnit) (snapshot : Snapshot),
    r = evaluate H u.language u.source snapshot u.permissions u.limits
      ∧ snapshot.state.generation = generation ∧ snapshot.state.pauseId = pause

/-- What is pending was evaluated at the generation and pause the service remembers. -/
def Underway : Prop :=
  ∀ r, s.pending = some r → EvaluatedAt H s.generation s.pause r

/-- A recipe is given out in the generation and pause it was evaluated at. -/
def Fresh : Prop :=
  ∀ ready action, (s.poll ready).1 = some action → action.result.success = true →
    s.state = .paused
      ∧ EvaluatedAt H s.snapshot.state.generation s.snapshot.state.pauseId action.result

theorem Underway.congr {s t : ScriptService} (h : Underway H s) (hpending : t.pending = s.pending)
    (hgeneration : t.generation = s.generation) (hpause : t.pause = s.pause) : Underway H t := by
  intro r hr
  rw [hgeneration, hpause]
  exact h r (hpending.symm.trans hr)

theorem account_pending (r : Result) : (s.account r).pending = s.pending := by
  unfold account
  split
  · split <;> rfl
  · split <;> split <;> rfl

theorem step_underway {s : ScriptService} (e : Event) (h : Underway H s) :
    Underway H (s.step H e) := by
  cases e with
  | load id u =>
    show Underway H (s.load H id u)
    unfold load
    split
    · exact h.congr H rfl rfl rfl
    · split
      · exact h.congr H rfl rfl rfl
      · split
        · exact h.congr H rfl rfl rfl
        · split
          · exact h.congr H rfl rfl rfl
          · exact h.congr H rfl rfl rfl
  | unload id =>
    show Underway H (s.unload id)
    unfold unload
    split
    · exact h.congr H rfl rfl rfl
    · exact h.congr H rfl rfl rfl
  | observe snapshot => exact h.congr H rfl rfl rfl
  | detach => exact h.congr H rfl rfl rfl
  | invoke id =>
    show Underway H (s.invoke H id)
    unfold invoke
    split
    · exact h.congr H rfl rfl rfl
    · split
      · exact h.congr H rfl rfl rfl
      · next u _ =>
        intro r hr
        cases hr
        exact ⟨u, s.snapshot, rfl, rfl, rfl⟩
  | invokeLive => exact h.congr H rfl rfl rfl
  | poll ready =>
    show Underway H (s.poll ready).2
    unfold poll
    split
    · exact h
    · split
      · intro r hr
        rw [account_pending] at hr
        cases hr
      · exact h
  | acknowledge ticket reply =>
    show Underway H (s.acknowledge ticket reply)
    unfold acknowledge
    split
    · exact h.congr H rfl rfl rfl
    · split
      · exact h.congr H rfl rfl rfl
      · exact h.congr H rfl rfl rfl

theorem fresh_of_underway {s : ScriptService} (h : Underway H s) : Fresh H s := by
  intro ready action hpoll hsuccess
  unfold poll at hpoll
  split at hpoll
  · cases hpoll
  · next r hr =>
    split at hpoll
    · cases hpoll
      unfold current at *
      split at hsuccess
      · cases hsuccess
      · next hcurrent =>
        rw [if_neg hcurrent]
        simp only [Bool.or_eq_true, bne_iff_ne, ne_eq, not_or, not_not] at hcurrent
        obtain ⟨⟨hstate, hgeneration⟩, hpause⟩ := hcurrent
        rw [hgeneration, hpause]
        exact ⟨hstate, h r hr⟩
    · cases hpoll

theorem run_fresh (events : List Event) : Fresh H (run (step H) create events) := by
  apply fresh_of_underway
  apply run_invariant (fun s e h => step_underway H e h)
  intro r hr
  cases hr

end ScriptService

end ProtoTime.Script
