import ProtoTime.Host.VideoService

/-!
The render lane consuming frames of the video service in steps, between which the emulation lane
publishes and the control plane changes the lifecycle.
-/
namespace ProtoTime.Host

open RealtimeVideo (RealtimeVideoPacket)

namespace VideoFramePacket

/-- The oldest submission a frame is made of. -/
def oldest (f : VideoFramePacket) : Option ℕ :=
  (f.pixels.filterMap Pixel.since ++ f.surface.since.toList).min?

def computedFrom (f out : VideoFramePacket) : VideoFramePacket :=
  { out with
    pixels := out.pixels.map fun p => ⟨p.argb, f.oldest⟩
    surface := ⟨out.surface.content, f.oldest⟩ }

/-- A frame handed to the service in the given epoch. -/
def submittedIn (epoch : ℕ) (f : VideoFramePacket) : VideoFramePacket :=
  { f with
    pixels := f.pixels.map fun p => ⟨p.argb, some epoch⟩
    surface := ⟨f.surface.content, some epoch⟩ }

end VideoFramePacket

/-- The frame after a processor, unless it fails or changes the frame's size. -/
def VideoProcessor.run (f : VideoFramePacket) (p : VideoProcessor) : VideoFramePacket :=
  if p.liveCompatible then
    match p.process f with
    | some out =>
      if out.width ≠ f.width ∨ out.height ≠ f.height ∨ out.pixelCount ≠ f.pixelCount then f
      else f.computedFrom out
    | none => f
  else f

/-- A call that consumes a frame: the headless host path or the renderer's, and the lifecycle
epoch in which it was made. -/
structure ConsumeCall where
  headless : Bool
  since : ℕ
  deriving DecidableEq

inductive VideoConsumer
  | idle
  | entered (call : ConsumeCall)
  | checking (call : ConsumeCall)
  | draining (call : ConsumeCall) (activeEpoch : ℕ)
  | polling (call : ConsumeCall) (activeEpoch : ℕ)
  | falling (call : ConsumeCall) (activeEpoch : ℕ)
  | processing (call : ConsumeCall) (activeEpoch : ℕ) (usedFallback : Bool)
      (frame : VideoFramePacket)
  | confirming (call : ConsumeCall) (activeEpoch : ℕ) (usedFallback : Bool)
      (processed : VideoFramePacket)
  | storing (call : ConsumeCall) (activeEpoch : ℕ) (usedFallback : Bool)
      (processed : VideoFramePacket)
  | presenting (call : ConsumeCall) (processed : VideoFramePacket)
  | remembering (call : ConsumeCall)

/-- The service, the two lanes that work without its lock, and the frames returned so far, each
with the epoch in which it was asked for. -/
structure VideoWorld where
  service : VideoService
  consumer : VideoConsumer
  publishing : Option VideoFramePacket
  returned : List (ℕ × VideoFramePacket)

inductive VideoEvent
  | configure (config : VideoEngineConfig)
  | configurePresenter
  | attachPresenter (presenter : Option VideoPresenter)
  | detachPresenter
  | presenterChanges (presenter : VideoPresenter)
  | resume
  | pause
  | advanceGeneration
  | bumpLifecycleEpochBarrier
  | setLifecycleContractEnforced (enforced : Bool)
  | beginLifecycleMutationScope
  | endLifecycleMutationScope
  | addProcessor (processor : VideoProcessor)
  | addCapture
  | submitVideoDebugModel (event : MachineEvent) (model : VideoDebugFrameModel)
      (debugConsumerActive : Bool)
  | submitFrame (frame : VideoFramePacket)
  | publish (type : MachineEventType) (contractVersion : BitVec 16) (packet : RealtimeVideoPacket)
  | publishStep
  | consume (headless : Bool)
  | consumeStep
  | recordPresentOutcome (ok : Bool)

def kContractVersion : BitVec 16 := 3

namespace VideoWorld

def create (config : VideoEngineConfig) : VideoWorld := ⟨.create config, .idle, none, []⟩

/-! ## The emulation lane -/

variable (s : VideoService)

def stamped (packet : RealtimeVideoPacket) : VideoFramePacket where
  width := packet.width
  height := packet.height
  source := .realtimeSnapshot
  generation := if packet.generation = 0 then s.realtimeGeneration else packet.generation.toNat
  lifecycleEpoch := s.lifecycleEpoch
  pixels := []
  surface := ⟨packet.surface, some s.lifecycleEpoch⟩

variable (w : VideoWorld)

/-- A packet is stamped before it is put in the mailbox. -/
def publish (type : MachineEventType) (contractVersion : BitVec 16)
    (packet : RealtimeVideoPacket) : VideoWorld :=
  if w.publishing.isSome || type != .vBlank || packet.empty
      || contractVersion != kContractVersion then w
  else { w with publishing := some (stamped w.service packet) }

def publishStep : VideoWorld :=
  match w.publishing with
  | some f =>
    { w with service := { w.service with realtimeMailbox := some f }, publishing := none }
  | none => w

/-! ## The render lane -/

def consume (headless : Bool) : VideoWorld :=
  match w.consumer with
  | .idle => { w with consumer := .entered ⟨headless, w.service.lifecycleEpoch⟩ }
  | _ => w

/-- The renderer has no frame; the headless path still has the one it processed last. -/
def returnNone (call : ConsumeCall) : VideoWorld :=
  { w with consumer := if call.headless then .remembering call else .idle }

def returnFrame (call : ConsumeCall) (f : VideoFramePacket) : VideoWorld :=
  { w with
    consumer := .idle
    returned := w.returned ++ [(call.since, if call.headless then f.materialize.2 else f)] }

def drain (call : ConsumeCall) (activeEpoch : ℕ) : VideoWorld :=
  match w.service.realtimeMailbox with
  | some f =>
    { w with
      service := { w.service with realtimeMailbox := none }
      consumer := if f.lifecycleEpoch = activeEpoch then .processing call activeEpoch false f
        else .draining call activeEpoch }
  | none => { w with consumer := .polling call activeEpoch }

def poll (call : ConsumeCall) (activeEpoch : ℕ) : VideoWorld :=
  match w.service.engine.tryConsumeLatestFrame with
  | (some f, engine) =>
    { w with
      service := { w.service with engine := engine }
      consumer := if f.lifecycleEpoch = activeEpoch then .processing call activeEpoch false f
        else .polling call activeEpoch }
  | (none, _) => { w with consumer := .falling call activeEpoch }

def engineFallback (e : VideoEngine) (activeEpoch : ℕ) : VideoFramePacket :=
  let f := e.fallbackFrame
  if f.source = .lastValidFallback then
    if f.lifecycleEpoch = activeEpoch then f
    else { makeBlankVideoFrame e.outWidth e.outHeight e.currentGeneration with
      lifecycleEpoch := activeEpoch }
  else { f with lifecycleEpoch := activeEpoch }

/-- What is shown when nothing new is there. -/
def fallback (activeEpoch : ℕ) : VideoFramePacket :=
  match s.lastProcessedFrame with
  | some f =>
    if f.lifecycleEpoch = activeEpoch then { f with source := .lastValidFallback }
    else engineFallback s.engine activeEpoch
  | none => engineFallback s.engine activeEpoch

def requiresArgb (f : VideoFramePacket) : Bool :=
  !f.surface.content.validForDimensions f.width f.height
    || !(s.presenter.any VideoPresenter.acceptsIndexedSurface)
    || !s.processors.isEmpty || s.captures != 0

def process (call : ConsumeCall) (activeEpoch : ℕ) (usedFallback : Bool)
    (f : VideoFramePacket) : VideoWorld :=
  let decoded := if requiresArgb w.service f then f.materialize else (true, f)
  let processed := w.service.processors.foldl VideoProcessor.run decoded.2
  if decoded.1 then { w with consumer := .confirming call activeEpoch usedFallback processed }
  else w.returnNone call

def remember (call : ConsumeCall) : VideoWorld :=
  match w.service.lastProcessedFrame with
  | some f =>
    if f.lifecycleEpoch = w.service.lifecycleEpoch then
      { w with consumer := .idle, returned := w.returned ++ [(call.since, f.materialize.2)] }
    else { w with consumer := .idle }
  | none => { w with consumer := .idle }

def present (call : ConsumeCall) (processed : VideoFramePacket) : VideoWorld :=
  if w.service.presenter.isNone then
    { w with service := { w.service with state := .headless } }.returnNone call
  else w.returnFrame call processed

def consumeStep : VideoWorld :=
  match w.consumer with
  | .idle => w
  | .entered call =>
    { w with
      service := w.service.applyPendingEngineGenerationAdvances
      consumer := .checking call }
  | .checking call =>
    if w.service.pendingEngineGenerationAdvances ≠ 0 then w.returnNone call
    else { w with consumer := .draining call w.service.lifecycleEpoch }
  | .draining call activeEpoch => w.drain call activeEpoch
  | .polling call activeEpoch => w.poll call activeEpoch
  | .falling call activeEpoch =>
    { w with consumer := .processing call activeEpoch true (fallback w.service activeEpoch) }
  | .processing call activeEpoch usedFallback f => w.process call activeEpoch usedFallback f
  | .confirming call activeEpoch usedFallback processed =>
    if activeEpoch ≠ w.service.lifecycleEpoch then w.returnNone call
    else { w with consumer := .storing call activeEpoch usedFallback processed }
  | .storing call _ usedFallback processed =>
    { w with
      service := { w.service with
        lastProcessedFrame :=
          if usedFallback then w.service.lastProcessedFrame else some processed }
      consumer := .presenting call processed }
  | .presenting call processed => w.present call processed
  | .remembering call => w.remember call

/-! ## All lanes -/

def control (call : VideoService → Bool × VideoService) : VideoWorld :=
  { w with service := (call w.service).2 }

def changePresenter (presenter : VideoPresenter) : VideoService :=
  { s with presenter := s.presenter.map fun _ => presenter }

def recordPresentOutcome (ok : Bool) : VideoService :=
  if ok then s else { s with state := .faulted }

def step (compose : Composition) (w : VideoWorld) : VideoEvent → VideoWorld
  | .configure config => w.control (VideoService.configure config)
  | .configurePresenter => w.control VideoService.configurePresenter
  | .attachPresenter presenter => w.control (VideoService.attachPresenter presenter)
  | .detachPresenter => w.control VideoService.detachPresenter
  | .presenterChanges presenter => { w with service := changePresenter w.service presenter }
  | .resume => w.control VideoService.resume
  | .pause => w.control VideoService.pause
  | .advanceGeneration => { w with service := w.service.advanceGeneration }
  | .bumpLifecycleEpochBarrier => { w with service := w.service.bumpLifecycleEpochBarrier }
  | .setLifecycleContractEnforced enforced =>
    { w with service := { w.service with enforceLifecycleContract := enforced } }
  | .beginLifecycleMutationScope => { w with service := w.service.beginLifecycleMutationScope }
  | .endLifecycleMutationScope => { w with service := w.service.endLifecycleMutationScope }
  | .addProcessor processor => w.control (VideoService.addProcessor processor)
  | .addCapture => { w with service := { w.service with captures := w.service.captures + 1 } }
  | .submitVideoDebugModel event model debugConsumerActive =>
    { w with service := w.service.submitVideoDebugModel compose event model debugConsumerActive }
  | .submitFrame f =>
    { w with service := w.service.submitFrame (f.submittedIn w.service.lifecycleEpoch) }
  | .publish type contractVersion packet => w.publish type contractVersion packet
  | .publishStep => w.publishStep
  | .consume headless => w.consume headless
  | .consumeStep => w.consumeStep
  | .recordPresentOutcome ok => { w with service := recordPresentOutcome w.service ok }

end VideoWorld

end ProtoTime.Host
