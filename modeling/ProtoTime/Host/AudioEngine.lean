import Mathlib.Tactic.Common
import Mathlib.Data.Nat.Notation

/-!
The audio engine: a ring of source samples that never overwrites unread slots, a deferred chunk
for a stream that starts over, and the resampler that renders from the front of the ring. The
resampler's phase is a parameter, for its arithmetic is floating point.
-/
namespace ProtoTime.Host

/-- What the resampler does with its phase: where it starts, and where one output frame at a
given step leaves it, with the number of whole source frames passed. -/
structure PhaseArithmetic (Step Phase : Type) where
  zero : Phase
  advance : Step → Phase → Phase × ℕ

structure AudioEngineConfig where
  channelCount : BitVec 8 := 1
  ringBufferCapacitySamples : ℕ := 2048
  frameChunkSamples : ℕ := 256
  deriving DecidableEq

namespace AudioEngineConfig

variable (config : AudioEngineConfig)

def channels : ℕ := max config.channelCount.toNat 1

def capacity : ℕ :=
  max config.ringBufferCapacitySamples config.frameChunkSamples

/-- One slot of the ring stays free. -/
def usableCapacity : ℕ :=
  if 1 < config.capacity then config.capacity - 1 else 0

def chunkCapacity : ℕ :=
  max (max config.usableCapacity config.frameChunkSamples) 1

end AudioEngineConfig

/-- One output sample: silence where the ring had none, else the mix of the current sample and
the next one at a phase. -/
inductive Played (Phase α : Type) where
  | silence
  | mixed (phase : Phase) (current next : α)
  deriving DecidableEq

/-- The engine, with the step that the sample rates and the rate correction make. -/
structure AudioEngine (Step Phase α : Type) where
  config : AudioEngineConfig
  step : Step
  sourcePhase : Phase
  buffer : List α
  readIndex : ℕ := 0
  writeIndex : ℕ := 0
  pendingReset : Bool := false
  deferredResetChunks : Bool → List α
  deferredResetPublishedSlot : Option Bool := none
  deferredResetPublishedSize : ℕ := 0
  deferredResetNextWriteSlot : Bool := false
  lastFrameCounter : ℕ := 0

namespace AudioEngine

variable {Step Phase α : Type} [Inhabited α]

variable (arithmetic : PhaseArithmetic Step Phase)

def new (config : AudioEngineConfig) (step : Step) :
    AudioEngine Step Phase α where
  config := config
  step := step
  sourcePhase := arithmetic.zero
  buffer := List.replicate config.capacity default
  deferredResetChunks := fun _ => List.replicate config.chunkCapacity default

/-- The stream starts over with the settings there are; what the buffers hold is left there. -/
def resetStream (e : AudioEngine Step Phase α) : AudioEngine Step Phase α :=
  { e with
    readIndex := 0
    writeIndex := 0
    pendingReset := false
    sourcePhase := arithmetic.zero
    lastFrameCounter := 0
    deferredResetPublishedSize := 0
    deferredResetPublishedSlot := none
    deferredResetNextWriteSlot := false }

variable (e : AudioEngine Step Phase α)

def setTransportRateCorrection (step : Step) : AudioEngine Step Phase α :=
  { e with step := step }

def bufferedSamples : ℕ :=
  if e.buffer.length = 0 then 0
  else if e.readIndex ≤ e.writeIndex then e.writeIndex - e.readIndex
  else e.buffer.length - (e.readIndex - e.writeIndex)

def writableCapacitySamples : ℕ :=
  if e.buffer.length ≤ 1 then 0
  else
    let usableCapacity := e.buffer.length - 1
    if usableCapacity ≤ e.bufferedSamples then 0 else usableCapacity - e.bufferedSamples

/-- A push that never overwrites an unread slot. -/
def pushSampleNoOverwrite (sample : α) : AudioEngine Step Phase α × Bool :=
  if e.buffer.length ≤ 1 then (e, false)
  else
    let nextWriteIndex := (e.writeIndex + 1) % e.buffer.length
    if nextWriteIndex = e.readIndex then (e, false)
    else ({ e with buffer := e.buffer.set e.writeIndex sample, writeIndex := nextWriteIndex }, true)

def pushAll (samples : List α) : AudioEngine Step Phase α :=
  samples.foldl (fun e sample => (e.pushSampleNoOverwrite sample).1) e

def peekSample (offset : ℕ) : Option α :=
  if e.buffer.length = 0 then none
  else if e.bufferedSamples ≤ offset then none
  else some (e.buffer.getD ((e.readIndex + offset) % e.buffer.length) default)

def consumeSamples (count : ℕ) : AudioEngine Step Phase α :=
  if e.buffer.length = 0 ∨ count = 0 then e
  else
    let consumed := min count e.bufferedSamples
    if consumed = 0 then e
    else { e with readIndex := (e.readIndex + consumed) % e.buffer.length }

def targetSlot : Bool :=
  match e.deferredResetPublishedSlot with
  | some publishedSlot => !publishedSlot
  | none => e.deferredResetNextWriteSlot

/-- The newest samples are kept for the stream that starts over. -/
def stageDeferredResetChunk (pcm : List α) : AudioEngine Step Phase α :=
  let targetBuffer := e.deferredResetChunks e.targetSlot
  let boundedCount := min pcm.length targetBuffer.length
  let filled := pcm.drop (pcm.length - boundedCount) ++ targetBuffer.drop boundedCount
  { e with
    deferredResetChunks := Function.update e.deferredResetChunks e.targetSlot filled
    deferredResetPublishedSize := boundedCount
    deferredResetPublishedSlot := some e.targetSlot
    deferredResetNextWriteSlot := !e.targetSlot }

/-- The staged chunk moves into the ring. -/
def publishDeferredResetChunk : AudioEngine Step Phase α × Bool :=
  match e.deferredResetPublishedSlot with
  | none => (e, false)
  | some publishedSlot =>
    let published := (e.deferredResetChunks publishedSlot).take e.deferredResetPublishedSize
    ({ e with deferredResetPublishedSlot := none, deferredResetPublishedSize := 0 }.pushAll published,
      true)

def appendRecentPcm (pcm : List α) (frameCounter : ℕ) : AudioEngine Step Phase α :=
  if pcm.isEmpty then e
  else
    let isFirstFrame := e.lastFrameCounter = 0
    let resetRequired := frameCounter < e.lastFrameCounter
    if ¬(isFirstFrame ∨ resetRequired ∨ e.lastFrameCounter < frameCounter) then e
    else
      let e := if resetRequired then { e.stageDeferredResetChunk pcm with pendingReset := true }
        else if e.pendingReset then e.stageDeferredResetChunk pcm
        else
          let boundedSampleCount := min pcm.length e.writableCapacitySamples
          e.pushAll (pcm.drop (pcm.length - boundedSampleCount))
      { e with lastFrameCounter := frameCounter }

/-- The old stream is flushed where a render begins. -/
def flushPendingReset (e : AudioEngine Step Phase α) : AudioEngine Step Phase α :=
  if e.pendingReset then
    let flushed := { e with sourcePhase := arithmetic.zero, readIndex := e.writeIndex }
    let (published, done) := flushed.publishDeferredResetChunk
    if done then { published with pendingReset := false } else published
  else e

def outputFrame : List (Played Phase α) :=
  (List.range e.config.channels).map fun channel =>
    match e.peekSample channel with
    | none => .silence
    | some currentSample =>
      .mixed e.sourcePhase currentSample
        ((e.peekSample (e.config.channels + channel)).getD currentSample)

/-- The phase moves on, and the source frames it passes leave the ring. -/
def advanceFrame (e : AudioEngine Step Phase α) : AudioEngine Step Phase α :=
  let (sourcePhase, wholeSteps) := arithmetic.advance e.step e.sourcePhase
  let e := { e with sourcePhase := sourcePhase }
  if wholeSteps ≠ 0 then e.consumeSamples (min (wholeSteps * e.config.channels) e.bufferedSamples)
  else e

def renderFrames (arithmetic : PhaseArithmetic Step Phase) :
    ℕ → AudioEngine Step Phase α → AudioEngine Step Phase α × List (List (Played Phase α))
  | 0, e => (e, [])
  | frames + 1, e =>
    let (e', others) := renderFrames arithmetic frames (e.advanceFrame arithmetic)
    (e', e.outputFrame :: others)

/-- A render into `size` output samples. -/
def render (e : AudioEngine Step Phase α) (size : ℕ) :
    AudioEngine Step Phase α × List (List (Played Phase α)) :=
  renderFrames arithmetic (size / e.config.channels) (e.flushPendingReset arithmetic)

end AudioEngine

end ProtoTime.Host
