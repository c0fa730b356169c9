import ProtoTime.Host.RealtimeVideoMailbox
import Mathlib.Data.List.MinMax

/-!
Video frames and the engine that holds the latest of them. Each pixel is kept with the lifecycle
epoch in which it was submitted, which the program does not store.
-/
namespace ProtoTime.Host

open RealtimeVideo (RealtimeVideoSurface)

/-- A pixel that is not blank has the epoch of the oldest submission it is made of. -/
structure Pixel where
  argb : BitVec 32
  since : Option ℕ
  deriving DecidableEq

structure VideoSurface where
  content : RealtimeVideoSurface := {}
  since : Option ℕ := none
  deriving DecidableEq

def paletteIndex (surface : RealtimeVideoSurface) (x y : ℕ) : ℕ :=
  let bits := surface.encoding.bits
  let byteOffset := y * surface.strideBytes.toNat + x * bits / 8
  let shift := x * bits % 8
  let low := (surface.indexedBytes.getD byteOffset 0).toNat
  let encoded := if shift + bits > 8
    then low ||| (surface.indexedBytes.getD (byteOffset + 1) 0).toNat <<< 8 else low
  encoded >>> shift % 2 ^ bits

def decodeVideoSurface (surface : RealtimeVideoSurface) (width height : ℤ) :
    Option (List (BitVec 32)) :=
  if !surface.validForDimensions width height then none
  else if surface.encoding = .argb8888 then some surface.argbPixels
  else (List.range (width.toNat * height.toNat)).mapM fun i =>
    surface.paletteArgb[paletteIndex surface (i % width.toNat) (i / width.toNat)]?

inductive VideoFrameSource
  | machineSnapshot
  | realtimeSnapshot
  | blankFallback
  | lastValidFallback
  deriving DecidableEq

structure VideoFramePacket where
  width : ℤ
  height : ℤ
  source : VideoFrameSource
  generation : ℕ
  lifecycleEpoch : ℕ
  pixels : List Pixel
  surface : VideoSurface
  deriving DecidableEq

namespace VideoFramePacket

variable (f : VideoFramePacket)

def expectedPixelCount : ℕ := f.width.toNat * f.height.toNat

def empty : Bool :=
  f.expectedPixelCount == 0 || (f.pixels.length != f.expectedPixelCount
    && !f.surface.content.validForDimensions f.width f.height)

def pixelCount : ℕ :=
  if f.pixels.isEmpty then if f.empty then 0 else f.expectedPixelCount else f.pixels.length

/-- Whether the frame has its pixels in the end, and the frame; a surface that cannot be decoded
leaves it without any. -/
def materialize : Bool × VideoFramePacket :=
  if f.pixels.length = f.expectedPixelCount then (true, f)
  else
    match decodeVideoSurface f.surface.content f.width f.height with
    | some argb =>
      (true, { f with pixels := argb.map fun c => ⟨c, f.surface.since⟩, surface := {} })
    | none => (false, { f with pixels := [] })

/-- A property of every submission the frame is made of. -/
def All (P : ℕ → Prop) (f : VideoFramePacket) : Prop :=
  (∀ p ∈ f.pixels, ∀ e, p.since = some e → P e) ∧ ∀ e, f.surface.since = some e → P e

end VideoFramePacket

def kBlack : BitVec 32 := 0xFF000000

def makeBlankVideoFrame (width height : ℤ) (generation : ℕ) : VideoFramePacket where
  width := max width 1
  height := max height 1
  source := .blankFallback
  generation := generation
  lifecycleEpoch := 1
  pixels := List.replicate ((max width 1).toNat * (max height 1).toNat) ⟨kBlack, none⟩
  surface := {}

structure VideoDebugFrameModel where
  width : ℤ
  height : ℤ
  displayEnabled : Bool
  inVBlank : Bool
  scanlineIndex : Option (BitVec 16)
  argbPixels : List (BitVec 32)

def VideoDebugFrameModel.empty (m : VideoDebugFrameModel) : Bool :=
  decide (m.width ≤ 0) || decide (m.height ≤ 0)
    || m.argbPixels.length != m.width.toNat * m.height.toNat

structure VideoEngineConfig where
  frameWidth : ℤ := 160
  frameHeight : ℤ := 144
  hdScale : ℤ := 1

def VideoEngineConfig.normalized (c : VideoEngineConfig) : VideoEngineConfig where
  frameWidth := max c.frameWidth 1
  frameHeight := max c.frameHeight 1
  hdScale := min (max c.hdScale 1) 8

/-- The mailbox holds the latest frame submitted and not yet consumed. -/
structure VideoEngine where
  config : VideoEngineConfig
  mailbox : Option VideoFramePacket
  lastValidFrame : Option VideoFramePacket
  currentGeneration : ℕ

/-- How replacement images and the output scale turn the pixels of a machine into those of a
frame. -/
abbrev Composition := VideoEngineConfig → ℕ → VideoDebugFrameModel → List (BitVec 32) →
  List (BitVec 32)

namespace VideoEngine

def create (config : VideoEngineConfig) : VideoEngine := ⟨config.normalized, none, none, 0⟩

variable (e : VideoEngine)

def outWidth : ℤ := e.config.frameWidth * max e.config.hdScale 1

def outHeight : ℤ := e.config.frameHeight * max e.config.hdScale 1

def canonicalPixels (model : VideoDebugFrameModel) : List (BitVec 32) :=
  let count := e.config.frameWidth.toNat * e.config.frameHeight.toNat
  model.argbPixels.take count ++ List.replicate (count - model.argbPixels.length) kBlack

/-- A frame built from a model submitted in the given epoch. -/
def buildDebugFrame (compose : Composition) (e : VideoEngine) (model : VideoDebugFrameModel)
    (epoch : ℕ) : VideoFramePacket where
  width := e.outWidth
  height := e.outHeight
  source := .machineSnapshot
  generation := e.currentGeneration
  lifecycleEpoch := 1
  pixels :=
    if model.empty then
      List.replicate (e.outWidth.toNat * e.outHeight.toNat) ⟨kBlack, none⟩
    else
      (compose e.config e.currentGeneration model (e.canonicalPixels model)).map fun c =>
        ⟨c, some epoch⟩
  surface := {}

def submitFrame (f : VideoFramePacket) : VideoEngine :=
  if f.empty then e else { e with lastValidFrame := some f, mailbox := some f }

def tryConsumeLatestFrame : Option VideoFramePacket × VideoEngine :=
  (e.mailbox, { e with mailbox := none })

def fallbackFrame : VideoFramePacket :=
  match e.lastValidFrame with
  | some f => { f with source := .lastValidFallback }
  | none => makeBlankVideoFrame e.outWidth e.outHeight e.currentGeneration

def advanceGeneration : VideoEngine :=
  { e with mailbox := none, currentGeneration := e.currentGeneration + 1 }

end VideoEngine

end ProtoTime.Host
