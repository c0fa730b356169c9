import ProtoTime.Host.VideoEngine

/-!
The video service: its lifecycle, what is submitted to it, the scanlines it collects for a frame,
and the steps in which the render lane consumes a frame while the other lanes go on.
-/
namespace ProtoTime.Host

inductive VideoLifecycleState
  | detached
  | paused
  | active
  | headless
  | faulted
  deriving DecidableEq

/-- A presenter: whether it is open, whether opening it would work, and whether it takes a frame
whose surface is not decoded. -/
structure VideoPresenter where
  ready : Bool
  opens : Bool
  acceptsIndexedSurface : Bool
  deriving DecidableEq

/-- A frame processor, whether its capabilities are those of the live path, and whether it may be
added while frames are presented. Being deterministic it is a function of the frame. -/
structure VideoProcessor where
  liveCompatible : Bool
  hotSwappable : Bool
  process : VideoFramePacket → Option VideoFramePacket

structure ScanlineCapture where
  frame : Option VideoFramePacket := none
  captured : List Bool := []
  count : ℕ := 0

structure VideoService where
  engine : VideoEngine
  realtimeMailbox : Option VideoFramePacket
  presenter : Option VideoPresenter
  processors : List VideoProcessor
  captures : ℕ
  state : VideoLifecycleState
  scanlines : ScanlineCapture
  lifecycleEpoch : ℕ
  realtimeGeneration : ℕ
  pendingEngineGenerationAdvances : ℕ
  enforceLifecycleContract : Bool
  lifecycleMutationScopeDepth : ℕ
  lifecycleContractDeniedCalls : ℕ
  lastProcessedFrame : Option VideoFramePacket

inductive MachineEventType
  | vBlank
  | memoryWriteObserved
  | romLoaded
  | videoScanlineReady
  | other
  deriving DecidableEq

structure MachineEvent where
  type : MachineEventType
  value : BitVec 8

namespace VideoService

def create (config : VideoEngineConfig) : VideoService where
  engine := .create config
  realtimeMailbox := none
  presenter := none
  processors := []
  captures := 0
  state := .headless
  scanlines := {}
  lifecycleEpoch := 1
  realtimeGeneration := 0
  pendingEngineGenerationAdvances := 0
  enforceLifecycleContract := false
  lifecycleMutationScopeDepth := 0
  lifecycleContractDeniedCalls := 0
  lastProcessedFrame := none

/-! ## Lifecycle -/

variable (s : VideoService)

def bumpLifecycleEpoch : VideoService :=
  { s with lifecycleEpoch := s.lifecycleEpoch + 1 }

def resetScanlineCapture : VideoService := { s with scanlines := {} }

/-- Lifecycle calls are refused outside a mutation scope once the contract is enforced. -/
def allowLifecycleMutation : Bool :=
  !s.enforceLifecycleContract || s.lifecycleMutationScopeDepth != 0

def configurationAllowed : Bool := s.state != .active

/-- A lifecycle call, which is only counted when it is not allowed. -/
def lifecycle (call : VideoService → Bool × VideoService) : Bool × VideoService :=
  if s.allowLifecycleMutation then call s
  else (false, { s with lifecycleContractDeniedCalls := s.lifecycleContractDeniedCalls + 1 })

def configure (config : VideoEngineConfig) (s : VideoService) : Bool × VideoService :=
  s.lifecycle fun s =>
    if s.configurationAllowed then
      (true, { s with
        engine := .create config
        realtimeGeneration := 0 }.bumpLifecycleEpoch.resetScanlineCapture)
    else (false, s)

def configurePresenter : Bool × VideoService :=
  s.lifecycle fun s => if s.configurationAllowed then (true, s.bumpLifecycleEpoch) else (false, s)

def attachPresenter (presenter : Option VideoPresenter) (s : VideoService) : Bool × VideoService :=
  s.lifecycle fun s =>
    match presenter with
    | some p =>
      if s.configurationAllowed then
        (true, { s.bumpLifecycleEpoch with presenter := some p, state := .paused })
      else (false, s)
    | none => (false, s)

def detachPresenter : Bool × VideoService :=
  s.lifecycle fun s => (true, { s.bumpLifecycleEpoch with presenter := none, state := .headless })

def resume : Bool × VideoService :=
  s.lifecycle fun s =>
    match s.presenter with
    | none => (true, { s with state := .headless })
    | some p =>
      if p.ready || p.opens then
        (true, { s.bumpLifecycleEpoch with
          presenter := some { p with ready := true }, state := .active })
      else (false, { s with state := .faulted })

def pause : Bool × VideoService :=
  s.lifecycle fun s =>
    match s.presenter with
    | some p =>
      (true, { s.bumpLifecycleEpoch with
        presenter := some { p with ready := false }, state := .paused })
    | none => (true, { s with state := .headless })

def bumpLifecycleEpochBarrier : VideoService := s.bumpLifecycleEpoch

def advanceGeneration : VideoService :=
  { s with
    realtimeGeneration := s.realtimeGeneration + 1
    pendingEngineGenerationAdvances := s.pendingEngineGenerationAdvances + 1
    }.bumpLifecycleEpoch.resetScanlineCapture

def beginLifecycleMutationScope : VideoService :=
  { s with lifecycleMutationScopeDepth := s.lifecycleMutationScopeDepth + 1 }

def endLifecycleMutationScope : VideoService :=
  { s with lifecycleMutationScopeDepth := s.lifecycleMutationScopeDepth - 1 }

def addProcessor (processor : VideoProcessor) (s : VideoService) : Bool × VideoService :=
  if !processor.liveCompatible then (false, s)
  else if s.state = .active ∧ processor.hotSwappable = false then (false, s)
  else (true, { s with processors := s.processors ++ [processor] })

/-! ## Submissions -/

def applyPendingEngineGenerationAdvances : VideoService :=
  { s with
    engine := VideoEngine.advanceGeneration^[s.pendingEngineGenerationAdvances] s.engine
    pendingEngineGenerationAdvances := 0 }

/-- A frame is stamped with the epoch in which it is submitted. -/
def submitFrame (f : VideoFramePacket) (s : VideoService) : VideoService :=
  let s := s.applyPendingEngineGenerationAdvances
  { s with engine := s.engine.submitFrame { f with lifecycleEpoch := s.lifecycleEpoch } }

/-- The background of a frame whose rows are still to be captured. -/
def kUncaptured : BitVec 32 := 0xFFE0F8D0

def ensureScanlineFrame : ScanlineCapture :=
  let width := s.engine.config.frameWidth
  let height := s.engine.config.frameHeight
  let fresh : ScanlineCapture :=
    { frame := some { makeBlankVideoFrame width height s.engine.currentGeneration with
        source := .machineSnapshot
        pixels := List.replicate (width.toNat * height.toNat) ⟨kUncaptured, none⟩ }
      captured := List.replicate height.toNat false
      count := 0 }
  match s.scanlines.frame with
  | some f =>
    if f.width = width ∧ f.height = height ∧ f.generation = s.engine.currentGeneration
        ∧ s.scanlines.captured.length = height.toNat then s.scanlines
    else fresh
  | none => fresh

/-- The pixels with the row of another frame copied over them. -/
def copyRow (width : ℕ) (source pixels : List Pixel) (row : ℕ) : List Pixel :=
  pixels.take (row * width) ++ (source.drop (row * width)).take width
    ++ pixels.drop (row * width + width)

def captureRow (c : ScanlineCapture) (f : VideoFramePacket) (source : VideoFramePacket)
    (row : ℕ) : ScanlineCapture :=
  if source.width ≠ f.width ∨ source.height ≠ f.height then c
  else if source.pixels.length < row * source.width.toNat + source.width.toNat
      ∨ f.pixels.length < row * source.width.toNat + source.width.toNat then c
  else
    { frame := some { f with
        pixels := copyRow source.width.toNat source.pixels f.pixels row }
      captured := c.captured.set row true
      count := if c.captured.getD row true then c.count else c.count + 1 }

def captureScanline (compose : Composition) (s : VideoService) (value : BitVec 8)
    (model : VideoDebugFrameModel) : VideoService :=
  if !model.displayEnabled || model.inVBlank || model.scanlineIndex.isNone then
    s.resetScanlineCapture
  else if s.engine.config.frameHeight ≤ value.toNat then s
  else
    let c := s.ensureScanlineFrame
    match c.frame with
    | some f =>
      if c.captured.isEmpty then { s with scanlines := c }
      else
        let source := s.engine.buildDebugFrame compose model s.lifecycleEpoch
        { s with scanlines := captureRow c f source value.toNat }
    | none => { s with scanlines := c }

def overlayCapturedScanlines (c : ScanlineCapture) (f : VideoFramePacket) : VideoFramePacket :=
  match c.frame with
  | none => f
  | some captured =>
    if captured.width ≠ f.width ∨ captured.height ≠ f.height
        ∨ captured.pixelCount ≠ f.pixelCount then f
    else { f with
      pixels := (List.range c.captured.length).foldl
        (fun pixels y => if c.captured.getD y false
          then copyRow f.width.toNat captured.pixels pixels y else pixels) f.pixels }

/-- The frame submitted on an event: the captured rows at a VBlank, else one built from the
model. -/
def composeFrame (compose : Composition) (s : VideoService) (type : MachineEventType)
    (model : VideoDebugFrameModel) : VideoFramePacket :=
  match s.scanlines.frame with
  | some captured =>
    if type = .vBlank ∧ s.engine.config.frameHeight.toNat ≤ s.scanlines.count then captured
    else if type = .vBlank ∧ s.scanlines.count ≠ 0 then
      overlayCapturedScanlines s.scanlines
        (s.engine.buildDebugFrame compose model s.lifecycleEpoch)
    else s.engine.buildDebugFrame compose model s.lifecycleEpoch
  | none => s.engine.buildDebugFrame compose model s.lifecycleEpoch

def shouldBuildFrame (type : MachineEventType) (model : VideoDebugFrameModel) : Bool :=
  type == .vBlank || s.engine.lastValidFrame.isNone || !model.displayEnabled
    || type == .memoryWriteObserved

def submitVideoDebugModel (compose : Composition) (s : VideoService) (event : MachineEvent)
    (model : VideoDebugFrameModel) (debugConsumerActive : Bool) : VideoService :=
  if event.type = .romLoaded then s.advanceGeneration
  else
    let s := s.applyPendingEngineGenerationAdvances
    if !debugConsumerActive then s.resetScanlineCapture
    else if event.type = .videoScanlineReady then s.captureScanline compose event.value model
    else if s.shouldBuildFrame event.type model then
      s.resetScanlineCapture.submitFrame (s.composeFrame compose event.type model)
    else s

end VideoService

end ProtoTime.Host
