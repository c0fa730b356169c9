import ProtoTime.Host.AudioEngine

/-!
The audio service: the source queue that the machine fills, the engine, the blocks that are made
ready for the callback, and the epoch that a control call advances. What runs under one lock, or
touches one end of a queue, is one action; a submission and an epoch bump take several.
-/
namespace ProtoTime.Host

/-- A sample with the epoch of the block it was submitted in, which no operation reads. -/
structure Stamped (α : Type) where
  epoch : ℕ
  sample : α
  deriving DecidableEq, Inhabited

structure AudioSourceBlock (α : Type) where
  frameCounter : ℕ
  lifecycleEpoch : ℕ
  mixedSamples : List α
  deriving DecidableEq

/-- The processors between the source queue and the engine. What they make of a block depends on
the size of their scratch and on whether an oversize block may be cut up. -/
structure AudioPipeline (State α : Type) where
  processSource : ℕ → Bool → State → AudioSourceBlock α → State × List α
  configureFixedCapacity : ℕ → State → State
  flush : ℕ → State → State

/-- No processors at all. -/
def AudioPipeline.empty (α : Type) : AudioPipeline Unit α where
  processSource := fun _ _ state block => (state, block.mixedSamples)
  configureFixedCapacity := fun _ state => state
  flush := fun _ state => state

/-- The resampler's arithmetic: the step that is slowed down to refill the ready queue, and the
source frames that a number of output frames needs. -/
structure Resampling (Step Phase : Type) extends PhaseArithmetic Step Phase where
  slower : Step → Step
  sourceFrames : Phase → Step → ℕ → ℕ

inductive ControlCall (Step : Type) where
  | bumpLifecycleEpochBarrier
  | setBackendPausedOrClosed
  | resetStream
  | resetStats
  | configureEngine (config : AudioEngineConfig) (step : Step)
  | configureOutputTransport (callbackChunkSamples readyQueueChunks : ℕ)
  | startOutputTransport

inductive ControlStage where
  | entered | advanced | cleared | flushed
  deriving DecidableEq

structure AudioService (Step Phase State α : Type) where
  engine : AudioEngine Step Phase (Stamped α)
  nominalStep : Step
  pipeline : State
  pipelineOutputScratch : ℕ := 0
  transportEpoch : ℕ := 1
  sourceBlocks : List (AudioSourceBlock α) := []
  submitting : Option (AudioSourceBlock α) := none
  producerScratch : List (Played Phase (Stamped α)) := []
  readyQueueChunks : ℕ := 0
  readyBlocks : List (List (Played Phase (Stamped α))) := []
  transportPrimedForDrain : Bool := false
  outputTransportConfigured : Bool := false
  outputTransportRunning : Bool := false
  backendPausedOrClosed : Bool := true
  control : Option (ControlCall Step × ControlStage) := none

namespace AudioService

variable {Step Phase State α : Type} [Inhabited α]

def new (resampling : Resampling Step Phase) (pipeline : State) (config : AudioEngineConfig)
    (step : Step) : AudioService Step Phase State α where
  engine := AudioEngine.new resampling.toPhaseArithmetic config step
  nominalStep := step
  pipeline := pipeline

def sourceQueueCapacity : ℕ := 8

variable (s : AudioService Step Phase State α)

def canPerformReset : Bool :=
  s.backendPausedOrClosed && !s.outputTransportRunning

/-- A bump holds the locks of production and of the source queue. -/
def bumping : Bool :=
  match s.control with
  | some (_, .advanced) | some (_, .cleared) => true
  | _ => false

/-- A submission begins: the block takes the epoch there is. -/
def stampBlock (samples : List α) (frameCounter : ℕ) : AudioService Step Phase State α :=
  if samples.isEmpty ∨ s.submitting.isSome then s
  else
    { s with
      submitting := some
        { frameCounter := frameCounter
          lifecycleEpoch := s.transportEpoch
          mixedSamples := samples } }

/-- A submission ends: the block goes into the queue unless it is full. -/
def publishBlock : AudioService Step Phase State α × Bool :=
  match s.submitting with
  | none => (s, true)
  | some block =>
    if sourceQueueCapacity ≤ s.sourceBlocks.length then ({ s with submitting := none }, false)
    else ({ s with submitting := none, sourceBlocks := s.sourceBlocks ++ [block] }, true)

/-- A block of another epoch is dropped. -/
def drainBlock (processors : AudioPipeline State α) (chunkOversize : Bool)
    (s : AudioService Step Phase State α) (block : AudioSourceBlock α) :
    AudioService Step Phase State α :=
  if block.lifecycleEpoch ≠ s.transportEpoch then s
  else
    let (pipeline, samples) :=
      processors.processSource s.pipelineOutputScratch chunkOversize s.pipeline block
    { s with
      pipeline := pipeline
      engine := s.engine.appendRecentPcm (samples.map (Stamped.mk block.lifecycleEpoch))
        block.frameCounter }

def drainSourceBlocks (processors : AudioPipeline State α) (chunkOversize : Bool)
    (s : AudioService Step Phase State α) : AudioService Step Phase State α :=
  { s.sourceBlocks.foldl (drainBlock processors chunkOversize) s with sourceBlocks := [] }

variable (resampling : Resampling Step Phase)

def sourceSamplesRequired (e : AudioEngine Step Phase (Stamped α)) (outputSamples : ℕ) : ℕ :=
  resampling.sourceFrames e.sourcePhase e.step (outputSamples / e.config.channels) *
    e.config.channels

def prefillTargetChunks : ℕ := min 2 s.readyQueueChunks

def maybeMarkTransportPrimed : AudioService Step Phase State α :=
  if s.prefillTargetChunks = 0 ∨ s.readyBlocks.length < s.prefillTargetChunks then s
  else { s with transportPrimedForDrain := true }

/-- The scratch is rendered into and becomes the newest ready block. -/
def renderReadyBlock (s : AudioService Step Phase State α) : AudioService Step Phase State α :=
  let (engine, frames) :=
    s.engine.render resampling.toPhaseArithmetic s.producerScratch.length
  let samples := frames.flatten ++ s.producerScratch.drop frames.flatten.length
  { s with
    engine := engine
    producerScratch := samples
    readyBlocks := s.readyBlocks ++ [samples] }.maybeMarkTransportPrimed

def produceReadyOutputBlock
    (processors : AudioPipeline State α) (s : AudioService Step Phase State α) :
    AudioService Step Phase State α × Bool :=
  let s := s.drainSourceBlocks processors true
  if ¬s.outputTransportConfigured ∨ s.producerScratch.isEmpty then (s, false)
  else
    let engine := s.engine.setTransportRateCorrection
      (if s.readyBlocks.isEmpty then resampling.slower s.nominalStep else s.nominalStep)
    let s := { s with engine := engine }
    if s.engine.bufferedSamples <
        sourceSamplesRequired resampling s.engine s.producerScratch.length then (s, false)
    else if s.readyQueueChunks ≤ s.readyBlocks.length then (s, false)
    else (s.renderReadyBlock resampling, true)

def silence (size : ℕ) : List (Played Phase (Stamped α)) := List.replicate size .silence

/-- The callback's side of the ready queue. -/
def drainReadyOutput (size : ℕ) :
    AudioService Step Phase State α × List (Played Phase (Stamped α)) :=
  if size = 0 then (s, [])
  else if ¬s.transportPrimedForDrain then (s, silence size)
  else
    match s.readyBlocks with
    | [] => ({ s with transportPrimedForDrain := false }, silence size)
    | block :: rest => ({ s with readyBlocks := rest }, block.take size ++ silence (size - block.length))

/-- A synchronous render, for callers without a worker. -/
def renderForOutput (processors : AudioPipeline State α)
    (s : AudioService Step Phase State α) (size : ℕ) :
    AudioService Step Phase State α × List (Played Phase (Stamped α)) :=
  let s := s.drainSourceBlocks processors (decide (size ≤ s.pipelineOutputScratch))
  let (engine, frames) := s.engine.render resampling.toPhaseArithmetic size
  ({ s with engine := engine }, frames.flatten)

def clearReadyQueue : AudioService Step Phase State α :=
  { s with transportPrimedForDrain := false, readyBlocks := [] }

def stopOutputTransport : AudioService Step Phase State α :=
  if s.outputTransportRunning then { s with outputTransportRunning := false }.clearReadyQueue else s

/-- A control call is let in. -/
def admits : ControlCall Step → Bool
  | .bumpLifecycleEpochBarrier | .setBackendPausedOrClosed => true
  | .resetStream | .resetStats | .configureEngine .. | .configureOutputTransport .. =>
    s.canPerformReset
  | .startOutputTransport => s.canPerformReset && s.outputTransportConfigured

def prepare (processors : AudioPipeline State α)
    (s : AudioService Step Phase State α) : ControlCall Step → AudioService Step Phase State α
  | .bumpLifecycleEpochBarrier | .resetStats | .startOutputTransport => s
  | .setBackendPausedOrClosed => { s with backendPausedOrClosed := true }
  | .resetStream => { s with engine := s.engine.resetStream resampling.toPhaseArithmetic }
  | .configureEngine config step =>
    let capacity := max config.frameChunkSamples 1
    { s with
      engine := AudioEngine.new resampling.toPhaseArithmetic config step
      nominalStep := step
      pipeline := processors.configureFixedCapacity capacity s.pipeline
      pipelineOutputScratch := capacity }
  | .configureOutputTransport callbackChunkSamples readyQueueChunks =>
    { s with
      producerScratch := silence (max callbackChunkSamples 1)
      readyQueueChunks := max readyQueueChunks 1 }.clearReadyQueue

/-- What a control call does after it bumped the epoch. -/
def conclude (processors : AudioPipeline State α)
    (s : AudioService Step Phase State α) : ControlCall Step → AudioService Step Phase State α
  | .configureOutputTransport .. => { s with outputTransportConfigured := true }
  | .startOutputTransport =>
    let s := if s.engine.bufferedSamples ≠ 0
      then (s.produceReadyOutputBlock resampling processors).1 else s
    { s with outputTransportRunning := true }
  | _ => s

inductive Action (Step α : Type) where
  | stampBlock (samples : List α) (frameCounter : ℕ)
  | publishBlock
  | produceReadyOutputBlock
  | renderForOutput (size : ℕ)
  | drainReadyOutput (size : ℕ)
  | begin (call : ControlCall Step)
  | advanceEpoch
  | clearReadyQueue
  | flushSource
  | finish
  | setBackendDrainActive (active : Bool)
  | stopOutputTransport
  | configureFixedCallbackCapacity (callbackSamples : ℕ)

/-- What an action answers: whether it was let through, or the samples it delivers. -/
inductive Answer (Phase α : Type) where
  | accepted (ok : Bool)
  | delivered (output : List (Played Phase (Stamped α)))
  deriving DecidableEq

/-- One step. An action that waits for a lock, or whose turn it is not, does nothing. -/
def act (processors : AudioPipeline State α)
    (s : AudioService Step Phase State α) :
    Action Step α → AudioService Step Phase State α × Answer Phase α
  | .stampBlock samples frameCounter => (s.stampBlock samples frameCounter, .accepted true)
  | .publishBlock => (s.publishBlock.1, .accepted s.publishBlock.2)
  | .produceReadyOutputBlock =>
    if s.bumping then (s, .accepted false)
    else
      let (s', ok) := s.produceReadyOutputBlock resampling processors
      (s', .accepted ok)
  | .renderForOutput size =>
    if s.bumping then (s, .delivered [])
    else
      let (s', output) := s.renderForOutput resampling processors size
      (s', .delivered output)
  | .drainReadyOutput size =>
    let (s', output) := s.drainReadyOutput size
    (s', .delivered output)
  | .begin call =>
    match s.control with
    | none =>
      if s.admits call then
        ({ s.prepare resampling processors call with control := some (call, .entered) },
          .accepted true)
      else (s, .accepted false)
    | some _ => (s, .accepted false)
  | .advanceEpoch =>
    match s.control with
    | some (call, .entered) =>
      ({ s with transportEpoch := s.transportEpoch + 1, control := some (call, .advanced) },
        .accepted true)
    | _ => (s, .accepted false)
  | .clearReadyQueue =>
    match s.control with
    | some (call, .advanced) =>
      ({ s.clearReadyQueue with control := some (call, .cleared) }, .accepted true)
    | _ => (s, .accepted false)
  | .flushSource =>
    match s.control with
    | some (call, .cleared) =>
      ({ s with
          sourceBlocks := []
          pipeline := processors.flush s.transportEpoch s.pipeline
          control := some (call, .flushed) }, .accepted true)
    | _ => (s, .accepted false)
  | .finish =>
    match s.control with
    | some (call, .flushed) =>
      ({ s.conclude resampling processors call with control := none }, .accepted true)
    | _ => (s, .accepted false)
  | .setBackendDrainActive active => ({ s with backendPausedOrClosed := !active }, .accepted true)
  | .stopOutputTransport => (s.stopOutputTransport, .accepted true)
  | .configureFixedCallbackCapacity callbackSamples =>
    if s.control.isNone && s.canPerformReset then
      let capacity := max callbackSamples 1
      ({ s with
          pipeline := processors.configureFixedCapacity capacity s.pipeline
          pipelineOutputScratch := capacity }, .accepted true)
    else (s, .accepted false)

def answers (resampling : Resampling Step Phase) (processors : AudioPipeline State α) :
    AudioService Step Phase State α → List (Action Step α) → List (Answer Phase α)
  | _, [] => []
  | s, a :: actions =>
    (s.act resampling processors a).2 ::
      answers resampling processors (s.act resampling processors a).1 actions

end AudioService

end ProtoTime.Host
