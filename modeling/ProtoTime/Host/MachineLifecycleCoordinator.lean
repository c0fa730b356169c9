import ProtoTime.Host.VideoService

/-!
Lifecycle transitions of a machine: the lanes are paused, a mutation is tried as often as the
policy allows, and the lanes are resumed.
-/
namespace ProtoTime.Host

open Transition

/-- The part of the audio service that a transition works with. -/
structure AudioLane where
  backendPausedOrClosed : Bool
  transportEpoch : ℕ
  enforceLifecycleContract : Bool
  lifecycleMutationScopeDepth : ℕ
  lifecycleContractDeniedCalls : ℕ
  deriving DecidableEq

namespace AudioLane

variable (a : AudioLane)

def allowLifecycleMutation : Bool :=
  !a.enforceLifecycleContract || a.lifecycleMutationScopeDepth != 0

def bumpLifecycleEpochBarrier : AudioLane :=
  { a with transportEpoch := a.transportEpoch + 1 }

def setBackendPausedOrClosed (pausedOrClosed : Bool) : AudioLane :=
  if !a.allowLifecycleMutation then
    { a with lifecycleContractDeniedCalls := a.lifecycleContractDeniedCalls + 1 }
  else if pausedOrClosed then { a with backendPausedOrClosed := true }.bumpLifecycleEpochBarrier
  else { a with backendPausedOrClosed := false }

/-- The drain gate, which needs no lifecycle scope. -/
def setBackendDrainActive (active : Bool) : AudioLane :=
  { a with backendPausedOrClosed := !active }

def beginLifecycleMutationScope : AudioLane :=
  { a with lifecycleMutationScopeDepth := a.lifecycleMutationScopeDepth + 1 }

def endLifecycleMutationScope : AudioLane :=
  { a with lifecycleMutationScopeDepth := a.lifecycleMutationScopeDepth - 1 }

end AudioLane

inductive MachineTransitionReason
  | romLoad
  | hardReset
  | audioBackendRestart
  | videoBackendRestart
  | configReconfigure
  deriving DecidableEq

inductive MachineTransitionOutcome
  | succeeded
  | degraded
  | failed
  deriving DecidableEq

inductive MachineTransitionFailureStage
  | none
  | pause
  | mutation
  | epochBump
  | resume
  deriving DecidableEq

structure MachineTransitionPolicy where
  maxRetries : ℕ := 0
  allowHeadlessVideoFallback : Bool := false
  allowAudioBackendDisable : Bool := false
  failHard : Bool := true

structure MachineTransitionMutationResult where
  success : Bool := true
  videoReady : Bool := true
  audioReady : Bool := true
  deriving DecidableEq

structure MachineTransitionResult where
  reason : MachineTransitionReason := .configReconfigure
  outcome : MachineTransitionOutcome := .succeeded
  failureStage : MachineTransitionFailureStage := .none
  retryCountUsed : ℕ := 0
  rejectedForReentry : Bool := false
  degradedHeadlessVideo : Bool := false
  degradedAudioDisabled : Bool := false
  deriving DecidableEq

structure MachineLifecycleCoordinatorStats where
  transitionCount : ℕ := 0
  successCount : ℕ := 0
  degradedCount : ℕ := 0
  failureCount : ℕ := 0
  transitionReentryAttemptCount : ℕ := 0
  nestedTransitionRejectCount : ℕ := 0
  reasonCounts : MachineTransitionReason → ℕ := fun _ => 0

structure LaneServices where
  audio : Option AudioLane
  video : Option VideoService

def LaneServices.scopes (s : LaneServices) : Option ℕ × Option ℕ :=
  (s.audio.map AudioLane.lifecycleMutationScopeDepth,
    s.video.map VideoService.lifecycleMutationScopeDepth)

/-- One call of a mutation: what it does to the services, the transitions it asks for itself, and
its result unless it throws. -/
structure MutationCall where
  services : LaneServices
  nested : List MachineTransitionReason
  result : Option MachineTransitionMutationResult

/-- A mutation, from the number of calls before; it ends no scope that it did not begin. -/
structure TransitionMutation where
  call : ℕ → LaneServices → MutationCall
  scopesKept : ∀ attempt s, (call attempt s).services.scopes = s.scopes

structure MachineLifecycleCoordinator where
  services : LaneServices
  policies : MachineTransitionReason → MachineTransitionPolicy
  stats : MachineLifecycleCoordinatorStats
  lastResult : MachineTransitionResult
  activeTransitionReason : MachineTransitionReason
  transitionDepth : ℕ
  degradedHeadlessVideoActive : Bool
  degradedAudioDisabledActive : Bool

namespace LaneServices

variable (s : LaneServices)

def beginScope : LaneServices where
  audio := s.audio.map AudioLane.beginLifecycleMutationScope
  video := s.video.map VideoService.beginLifecycleMutationScope

def endScope : LaneServices where
  audio := s.audio.map AudioLane.endLifecycleMutationScope
  video := s.video.map VideoService.endLifecycleMutationScope

def videoActive : Bool := s.video.any fun v => v.state == .active

def pauseLanes : Bool × LaneServices :=
  (s.video.all fun v => v.pause.1,
    { audio := s.audio.map fun a => a.setBackendPausedOrClosed true
      video := s.video.map fun v => v.pause.2 })

/-- The backend stays gated until the transport, newly reset, is filled again. -/
def resumeLanes (resumeVideo : Bool) : Bool × LaneServices :=
  (!resumeVideo || s.video.all fun v => v.resume.1,
    { audio := s.audio.map fun a => a.setBackendDrainActive false
      video := if resumeVideo then s.video.map fun v => v.resume.2 else s.video })

def bumpEpochs : LaneServices where
  audio := s.audio.map AudioLane.bumpLifecycleEpochBarrier
  video := s.video.map VideoService.bumpLifecycleEpochBarrier

end LaneServices

structure AttemptEnd where
  coordinator : MachineLifecycleCoordinator
  wasVideoActive : Bool
  mutationResult : MachineTransitionMutationResult
  attempts : ℕ
  pauseOk : Bool
  threw : Bool
  calls : ℕ

/-- A transition that returned or threw, with the number of calls of its mutation and whether the
last of them succeeded. -/
structure TransitionRun where
  returned : Option Bool
  coordinator : MachineLifecycleCoordinator
  calls : ℕ
  succeeded : Bool

namespace MachineLifecycleCoordinator

/-- The policies of a new coordinator. -/
def defaultPolicies : MachineTransitionReason → MachineTransitionPolicy
  | .romLoad | .hardReset => {}
  | .audioBackendRestart => ⟨1, false, true, false⟩
  | .videoBackendRestart => ⟨1, true, false, false⟩
  | .configReconfigure => ⟨1, true, true, false⟩

def create (services : LaneServices) : MachineLifecycleCoordinator where
  services := services
  policies := defaultPolicies
  stats := {}
  lastResult := {}
  activeTransitionReason := .configReconfigure
  transitionDepth := 0
  degradedHeadlessVideoActive := false
  degradedAudioDisabledActive := false

variable (c : MachineLifecycleCoordinator)

def setPolicyFor (reason : MachineTransitionReason)
    (policy : MachineTransitionPolicy) : MachineLifecycleCoordinator :=
  { c with policies := fun r => if r = reason then policy else c.policies r }

def noteTransition (reason : MachineTransitionReason) : MachineLifecycleCoordinator :=
  { c with stats := { c.stats with
      transitionCount := c.stats.transitionCount + 1
      reasonCounts := fun r => c.stats.reasonCounts r + if r = reason then 1 else 0 } }

/-- A transition that is asked for during another is rejected. -/
def rejectReentry (reason : MachineTransitionReason) : MachineLifecycleCoordinator :=
  { c with
    stats := { c.stats with
      transitionReentryAttemptCount := c.stats.transitionReentryAttemptCount + 1
      nestedTransitionRejectCount := c.stats.nestedTransitionRejectCount + 1
      failureCount := c.stats.failureCount + 1 }
    lastResult :=
      { reason := reason, outcome := .failed, failureStage := .mutation
        rejectedForReentry := true } }

def nestedTransition (reason : MachineTransitionReason) :
    MachineLifecycleCoordinator := (c.noteTransition reason).rejectReentry reason

def callMutation (mutation : Option TransitionMutation)
    (attempt : ℕ) : Option MachineTransitionMutationResult × MachineLifecycleCoordinator :=
  match mutation with
  | none => (some {}, c)
  | some m =>
    let call := m.call attempt c.services
    (call.result, call.nested.foldl nestedTransition { c with services := call.services })

/-- The lanes are paused before each attempt; `remaining` retries are left. -/
def attemptMutation (mutation : Option TransitionMutation) (remaining attempts : ℕ)
    (last : MachineTransitionMutationResult) (c : MachineLifecycleCoordinator) : AttemptEnd :=
  let wasVideoActive := c.services.videoActive
  let paused := { c with services := c.services.pauseLanes.2 }
  if !c.services.pauseLanes.1 then
    ⟨paused, wasVideoActive, last, attempts, false, false, attempts⟩
  else
    match paused.callMutation mutation attempts with
    | (none, c) => ⟨c, wasVideoActive, last, attempts, true, true, attempts + 1⟩
    | (some result, c) =>
      if result.success then
        ⟨c, wasVideoActive, result, attempts, true, false, attempts + 1⟩
      else
        match remaining with
        | 0 => ⟨c, wasVideoActive, result, attempts + 1, true, false, attempts + 1⟩
        | remaining + 1 => attemptMutation mutation remaining (attempts + 1) result c

def enter (reason : MachineTransitionReason) : MachineLifecycleCoordinator :=
  { c with
    transitionDepth := c.transitionDepth + 1
    activeTransitionReason := reason
    services := c.services.beginScope }

def endScope (c : MachineLifecycleCoordinator) : MachineLifecycleCoordinator :=
  { c with services := c.services.endScope }

/-- The transition is over, with the given result. -/
def leave (result : MachineTransitionResult) : MachineLifecycleCoordinator :=
  { c with
    lastResult := result
    transitionDepth := c.transitionDepth - 1
    stats :=
      match result.outcome with
      | .succeeded => { c.stats with successCount := c.stats.successCount + 1 }
      | .degraded => { c.stats with degradedCount := c.stats.degradedCount + 1 }
      | .failed => { c.stats with failureCount := c.stats.failureCount + 1 } }.endScope

/-- The result of a transition whose lanes were resumed. -/
def judge (policy : MachineTransitionPolicy) (mutation : MachineTransitionMutationResult)
    (result : MachineTransitionResult) : MachineTransitionResult :=
  if mutation.success then { result with outcome := .succeeded, failureStage := .none }
  else
    let headless := policy.allowHeadlessVideoFallback && !mutation.videoReady
    let silent := policy.allowAudioBackendDisable && !mutation.audioReady
    if !policy.failHard && (headless || silent) then
      { result with
        outcome := .degraded
        failureStage := .mutation
        degradedHeadlessVideo := headless
        degradedAudioDisabled := silent }
    else { result with outcome := .failed, failureStage := .mutation }

def noteDegraded (result : MachineTransitionResult) : MachineLifecycleCoordinator :=
  { c with
    degradedHeadlessVideoActive :=
      c.degradedHeadlessVideoActive || result.degradedHeadlessVideo
    degradedAudioDisabledActive :=
      c.degradedAudioDisabledActive || result.degradedAudioDisabled }

/-- The epochs are bumped and the lanes resumed after the attempts. -/
def conclude (policy : MachineTransitionPolicy)
    (mutation : MachineTransitionMutationResult) (wasVideoActive : Bool)
    (result : MachineTransitionResult) : MachineTransitionResult × MachineLifecycleCoordinator :=
  let resumed := c.services.bumpEpochs.resumeLanes wasVideoActive
  let c := { c with services := resumed.2 }
  if !resumed.1 then
    let result := { result with outcome := .failed, failureStage := .resume }
    (result, c.leave result)
  else
    let result := judge policy mutation result
    (result, (c.noteDegraded result).leave result)

def runTransition (reason : MachineTransitionReason)
    (mutation : Option TransitionMutation) : TransitionRun :=
  let c := c.noteTransition reason
  if c.transitionDepth ≠ 0 then ⟨some false, c.rejectReentry reason, 0, false⟩
  else
    let policy := c.policies reason
    let ended := attemptMutation mutation policy.maxRetries 0 {} (c.enter reason)
    let result : MachineTransitionResult :=
      { reason := reason, retryCountUsed := ended.attempts - 1 }
    if ended.threw then ⟨none, ended.coordinator.endScope, ended.calls, false⟩
    else if !ended.pauseOk then
      let result := { result with outcome := .failed, failureStage := .pause }
      ⟨some false, ended.coordinator.leave result, ended.calls, ended.mutationResult.success⟩
    else
      let concluded :=
        ended.coordinator.conclude policy ended.mutationResult ended.wasVideoActive result
      ⟨some (concluded.1.outcome != .failed), concluded.2, ended.calls,
        ended.mutationResult.success⟩

end MachineLifecycleCoordinator

end ProtoTime.Host
