import ProtoTime.Transition
import Mathlib.Logic.Function.Basic
import Mathlib.Data.Int.Notation
import Mathlib.Algebra.Group.Nat.Defs

/-!
The three-slot latest-only video mailbox: one producer and one consumer, each cut into the
steps between which the other side can run. Slot ownership moves through one shared byte.
-/
namespace ProtoTime.RealtimeVideo
open Transition

inductive RealtimeVideoEncoding where
  | indexed2 | indexed4 | indexed5 | indexed8 | argb8888
deriving DecidableEq, Repr

def RealtimeVideoEncoding.bits : RealtimeVideoEncoding → ℕ
  | .indexed2 => 2
  | .indexed4 => 4
  | .indexed5 => 5
  | .indexed8 => 8
  | .argb8888 => 32

structure RealtimeVideoSurface where
  encoding : RealtimeVideoEncoding := .indexed8
  strideBytes : BitVec 16 := 0
  paletteArgb : List (BitVec 32) := []
  indexedBytes : List (BitVec 8) := []
  argbPixels : List (BitVec 32) := []
deriving DecidableEq, Repr

namespace RealtimeVideoSurface

def payloadBytes (surface : RealtimeVideoSurface) : ℕ :=
  surface.paletteArgb.length * 4 + surface.indexedBytes.length + surface.argbPixels.length * 4

def validForDimensions (surface : RealtimeVideoSurface) (width height : ℤ) : Bool :=
  if width ≤ 0 ∨ height ≤ 0 then false
  else if surface.encoding = .argb8888 then
    decide (surface.argbPixels.length = width.toNat * height.toNat) &&
      surface.indexedBytes.isEmpty && surface.paletteArgb.isEmpty
  else if surface.paletteArgb.isEmpty ∨
      surface.paletteArgb.length > 2 ^ surface.encoding.bits then false
  else
    decide (surface.strideBytes.toNat ≥ (width.toNat * surface.encoding.bits + 7) / 8) &&
      decide (surface.indexedBytes.length = surface.strideBytes.toNat * height.toNat) &&
      surface.argbPixels.isEmpty

end RealtimeVideoSurface

structure RealtimeVideoPacket where
  width : ℤ := 0
  height : ℤ := 0
  displayEnabled : Bool := false
  inVBlank : Bool := false
  scanlineIndex : Option (BitVec 16) := none
  generation : BitVec 64 := 0
  lifecycleEpoch : BitVec 64 := 1
  producedAtNs : BitVec 64 := 0
  surface : RealtimeVideoSurface := {}
deriving DecidableEq, Repr

def RealtimeVideoPacket.empty (packet : RealtimeVideoPacket) : Bool :=
  decide (packet.width ≤ 0) || decide (packet.height ≤ 0) ||
    !packet.surface.validForDimensions packet.width packet.height

/-- The part of the diagnostics that publication fills in from the packet. -/
structure RealtimeVideoDiagnostics where
  width : ℤ := 0
  height : ℤ := 0
  displayEnabled : Bool := false
  inVBlank : Bool := false
  scanlineIndex : Option (BitVec 16) := none
deriving DecidableEq, Repr

structure PublishedRealtimeVideoPacket where
  packet : RealtimeVideoPacket := {}
  diagnostics : RealtimeVideoDiagnostics := {}
  lifecycleEpoch : BitVec 64 := 1
  publishedAtNs : BitVec 64 := 0
deriving DecidableEq, Repr

/-- What `publish` assigns to its slot. -/
def RealtimeVideoPacket.stamped (packet : RealtimeVideoPacket)
    (lifecycleEpoch publishedAtNs : BitVec 64) : PublishedRealtimeVideoPacket where
  packet := { packet with lifecycleEpoch := lifecycleEpoch, producedAtNs := publishedAtNs }
  diagnostics :=
    { width := packet.width, height := packet.height, displayEnabled := packet.displayEnabled
      inVBlank := packet.inVBlank, scanlineIndex := packet.scanlineIndex }
  lifecycleEpoch := lifecycleEpoch
  publishedAtNs := publishedAtNs

/-- A slot's packet, and whether the producer is in the middle of assigning it. -/
structure Slot where
  published : PublishedRealtimeVideoPacket := {}
  beingWritten : Bool := false
deriving DecidableEq, Repr

def kDirty : BitVec 8 := 0x80
def kSlotMask : BitVec 8 := 0x03
def kInitialSharedSlot : BitVec 8 := 2

inductive Producer where
  | idle
  | writing (published : PublishedRealtimeVideoPacket)
  | exchanging (published : PublishedRealtimeVideoPacket)
  | takingSlot (published : PublishedRealtimeVideoPacket) (previous : BitVec 8)
  | countingFrame (published : PublishedRealtimeVideoPacket) (overwrote : Bool)
  | countingPixelBytes (published : PublishedRealtimeVideoPacket) (overwrote : Bool)
  | storingGeneration (published : PublishedRealtimeVideoPacket) (overwrote : Bool)
  | storingHighWaterMark (overwrote : Bool)
  | countingOverwrite
deriving DecidableEq, Repr

inductive Consumer where
  | idle
  | exchanging
  | takingSlot (previous : BitVec 8)
  | movingOut
  | countingFrame (published : PublishedRealtimeVideoPacket)
  | storingGeneration (published : PublishedRealtimeVideoPacket)
  | storingFrameAge (published : PublishedRealtimeVideoPacket)
  | raisingFrameAge (age : BitVec 64)
  | countingFrameAge (age : BitVec 64)
deriving DecidableEq, Repr

structure Stats where
  publishedFrameCount : BitVec 64 := 0
  consumedFrameCount : BitVec 64 := 0
  overwriteCount : BitVec 64 := 0
  mailboxHighWaterMark : BitVec 64 := 0
  publishedPixelBytes : BitVec 64 := 0
  lastPublishedGeneration : BitVec 64 := 0
  lastConsumedGeneration : BitVec 64 := 0
  frameAgeLastNs : BitVec 64 := 0
  frameAgeHighWaterNs : BitVec 64 := 0
  frameAgeBuckets : ℕ → BitVec 64 := fun _ => 0

/-- What has happened so far: the packets in the order of their exchanges, how many of them
were overwritten, how many there were at the consumer's last acquisition, and each slot read
by the consumer with the number of publications before its acquisition. -/
structure History where
  published : List PublishedRealtimeVideoPacket := []
  overwritten : ℕ := 0
  acquiredAt : ℕ := 0
  consumed : List (ℕ × Slot) := []

structure RealtimeVideoMailbox where
  slots : BitVec 8 → Slot := fun _ => {}
  shared : BitVec 8 := kInitialSharedSlot
  producerSlot : BitVec 8 := 0
  consumerSlot : BitVec 8 := 1
  stats : Stats := {}
  producer : Producer := .idle
  consumer : Consumer := .idle
  history : History := {}

def frameAgeBucket (age : BitVec 64) : ℕ :=
  if age.toNat < 50000 then 0
  else if age.toNat < 100000 then 1
  else if age.toNat < 250000 then 2
  else if age.toNat < 500000 then 3
  else if age.toNat < 1000000 then 4
  else if age.toNat < 2000000 then 5
  else if age.toNat < 5000000 then 6
  else if age.toNat < 10000000 then 7
  else 8

namespace RealtimeVideoMailbox

variable (s : RealtimeVideoMailbox)

def hasPending : Bool := s.shared &&& kDirty != 0

/-- The producer calls `publish`; an empty packet is refused before any slot is touched. -/
def beginPublish (packet : RealtimeVideoPacket)
    (lifecycleEpoch now : BitVec 64) : RealtimeVideoMailbox :=
  match s.producer with
  | .idle =>
    if packet.empty then s
    else { s with
      slots := Function.update s.slots s.producerSlot
        { s.slots s.producerSlot with beingWritten := true }
      producer := .writing (packet.stamped lifecycleEpoch now) }
  | _ => s

def stepProducer : RealtimeVideoMailbox :=
  match s.producer with
  | .idle => s
  | .writing published =>
    { s with
      slots := Function.update s.slots s.producerSlot { published := published }
      producer := .exchanging published }
  | .exchanging published =>
    { s with
      shared := kDirty ||| s.producerSlot
      producer := .takingSlot published s.shared
      history := { s.history with
        published := s.history.published ++ [published]
        overwritten := s.history.overwritten + (if s.hasPending then 1 else 0) } }
  | .takingSlot published previous =>
    { s with
      producerSlot := previous &&& kSlotMask
      producer := .countingFrame published (previous &&& kDirty != 0) }
  | .countingFrame published overwrote =>
    { s with
      stats := { s.stats with publishedFrameCount := s.stats.publishedFrameCount + 1 }
      producer := .countingPixelBytes published overwrote }
  | .countingPixelBytes published overwrote =>
    { s with
      stats := { s.stats with
        publishedPixelBytes := s.stats.publishedPixelBytes +
          BitVec.ofNat 64 published.packet.surface.payloadBytes }
      producer := .storingGeneration published overwrote }
  | .storingGeneration published overwrote =>
    { s with
      stats := { s.stats with lastPublishedGeneration := published.packet.generation }
      producer := .storingHighWaterMark overwrote }
  | .storingHighWaterMark overwrote =>
    { s with
      stats := { s.stats with mailboxHighWaterMark := 1 }
      producer := if overwrote then .countingOverwrite else .idle }
  | .countingOverwrite =>
    { s with
      stats := { s.stats with overwriteCount := s.stats.overwriteCount + 1 }
      producer := .idle }

/-- The consumer's next step inside `tryConsumeLatest`, with the clock it would read. -/
def stepConsumer (now : BitVec 64) : RealtimeVideoMailbox :=
  match s.consumer with
  | .idle => if s.hasPending then { s with consumer := .exchanging } else s
  | .exchanging =>
    { s with
      shared := s.consumerSlot
      consumer := .takingSlot s.shared
      history := { s.history with acquiredAt := s.history.published.length } }
  | .takingSlot previous =>
    if previous &&& kDirty == 0 then { s with consumer := .idle }
    else { s with consumerSlot := previous &&& kSlotMask, consumer := .movingOut }
  | .movingOut =>
    { s with
      slots := Function.update s.slots s.consumerSlot {}
      consumer := .countingFrame (s.slots s.consumerSlot).published
      history := { s.history with
        consumed := s.history.consumed ++ [(s.history.acquiredAt, s.slots s.consumerSlot)] } }
  | .countingFrame published =>
    { s with
      stats := { s.stats with consumedFrameCount := s.stats.consumedFrameCount + 1 }
      consumer := .storingGeneration published }
  | .storingGeneration published =>
    { s with
      stats := { s.stats with lastConsumedGeneration := published.packet.generation }
      consumer := if published.publishedAtNs = 0 then .idle else .storingFrameAge published }
  | .storingFrameAge published =>
    let age := if published.publishedAtNs ≤ now then now - published.publishedAtNs else 0
    { s with
      stats := { s.stats with frameAgeLastNs := age }
      consumer := .raisingFrameAge age }
  | .raisingFrameAge age =>
    { s with
      stats := { s.stats with
        frameAgeHighWaterNs :=
          if s.stats.frameAgeHighWaterNs < age then age else s.stats.frameAgeHighWaterNs }
      consumer := .countingFrameAge age }
  | .countingFrameAge age =>
    { s with
      stats := { s.stats with
        frameAgeBuckets := Function.update s.stats.frameAgeBuckets (frameAgeBucket age)
          (s.stats.frameAgeBuckets (frameAgeBucket age) + 1) }
      consumer := .idle }

inductive Action where
  | publish (packet : RealtimeVideoPacket) (lifecycleEpoch now : BitVec 64)
  | produce
  | consume (now : BitVec 64)

def step : Action → RealtimeVideoMailbox
  | .publish packet lifecycleEpoch now => s.beginPublish packet lifecycleEpoch now
  | .produce => s.stepProducer
  | .consume now => s.stepConsumer now

/-- The slot the producer owns: after its exchange, the one it got in return. -/
def producerHeld : BitVec 8 :=
  match s.producer with
  | .takingSlot _ previous => previous &&& kSlotMask
  | _ => s.producerSlot

def mailboxHeld : BitVec 8 := s.shared &&& kSlotMask

/-- The slot the consumer owns: after its exchange, the one it got in return. -/
def consumerHeld : BitVec 8 :=
  match s.consumer with
  | .takingSlot previous => previous &&& kSlotMask
  | _ => s.consumerSlot

end RealtimeVideoMailbox

/-- Publications the producer has exchanged but not counted yet. -/
def Producer.uncountedPublished : Producer → ℕ
  | .takingSlot _ _ | .countingFrame _ _ => 1
  | _ => 0

/-- Overwrites the producer has caused but not counted yet. -/
def Producer.uncountedOverwrites : Producer → ℕ
  | .takingSlot _ previous => if previous &&& kDirty != 0 then 1 else 0
  | .countingFrame _ overwrote | .countingPixelBytes _ overwrote
  | .storingGeneration _ overwrote | .storingHighWaterMark overwrote =>
    if overwrote then 1 else 0
  | .countingOverwrite => 1
  | _ => 0

/-- Packets the consumer has acquired but not moved out yet. -/
def Consumer.inHand : Consumer → ℕ
  | .takingSlot _ | .movingOut => 1
  | _ => 0

/-- Packets the consumer has moved out but not counted yet. -/
def Consumer.uncountedConsumed : Consumer → ℕ
  | .countingFrame _ => 1
  | _ => 0

end ProtoTime.RealtimeVideo
