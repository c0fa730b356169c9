import ProtoTime.GameBoy.ApuOutput

/-!
The Game Gear sound generator: register writes, frames and chunks, the events recorded with
them, and the state import. How far an oscillator gets in one sample is a parameter.
-/
namespace ProtoTime.GameGear
open Function GameBoy

/-- The phase counters: `advance counter period` adds the cycles of one sample and gives the
counter left below the period with the number of periods passed. -/
structure Oscillator (C : Type) where
  zero : C
  advance : C → ℕ → C × ℕ
  importable : C → Bool

structure ToneChannel (C : Type) where
  period : BitVec 16 := 0x0010
  attenuation : Byte := 0x0F
  counter : C
  outputHigh : Bool := false
  enabled : Bool := false

structure GameGearPSG (C : Type) where
  tones : Fin 3 → ToneChannel C
  noiseControl : Byte := 0
  noiseAttenuation : Byte := 0x0F
  noiseCounter : C
  noiseLfsr : BitVec 16 := 0x8000
  noiseOutputHigh : Bool := false
  stereoControl : Byte := 0xFF
  compatRegisters : Fin 0x17 → Byte := fun _ => 0
  waveRam : Fin 0x10 → Byte := fun _ => 0
  currentFrameSamples : List ℤ := []
  recentSamples : List ℤ := []
  currentVoiceStems : List ℤ := []
  recentVoiceStems : List ℤ := []
  currentEvents : List PsgAudioEvent := []
  recentEvents : List PsgAudioEvent := []
  eventSequence : ℕ := 0
  recentFirstSampleFrame : ℕ := 0
  observedGateStates : Fin 4 → Bool := fun _ => false
  chunkSamplesLast : ℕ := 0
  chunkSamplesMin : ℕ := 0
  chunkSamplesMax : ℕ := 0
  samplesGeneratedTotal : ℕ := 0
  samplePhase : ℕ := 0
  frameCounter : ℕ := 0
  latchedChannel : Fin 4 := 0
  latchedVolume : Bool := false

structure PsgState (C : Type) where
  tones : Fin 3 → ToneChannel C
  noiseControl : Byte
  noiseAttenuation : Byte
  noiseCounter : C
  noiseLfsr : BitVec 16
  noiseOutputHigh : Bool
  stereoControl : Byte
  compatRegisters : Fin 0x17 → Byte
  waveRam : Fin 0x10 → Byte
  currentFrameSamples : List ℤ
  recentSamples : List ℤ
  chunkSamplesLast : ℕ
  chunkSamplesMin : ℕ
  chunkSamplesMax : ℕ
  samplesGeneratedTotal : ℕ
  samplePhase : ℕ
  frameCounter : ℕ
  latchedChannel : Byte
  latchedVolume : Bool

namespace GameGearPSG

def kClockHz : ℕ := 3579545
def kSampleRate : ℕ := 48000
def kOutputChannelCount : ℕ := 2
def kFramesPerChunk : ℕ := 256

def kAttenuationTable : List ℤ :=
  [8192, 6507, 5168, 4105, 3261, 2590, 2057, 1634, 1298, 1031, 819, 650, 516, 410, 326, 0]

def clampSample (value : ℤ) : ℤ := max (-32768) (min value 32767)

variable {C : Type}

variable (osc : Oscillator C)

def construct : GameGearPSG C where
  tones := fun _ => { counter := osc.zero }
  noiseCounter := osc.zero

variable (p : GameGearPSG C)

def audible (channel : Fin 3) : Bool :=
  (p.tones channel).enabled && decide ((p.tones channel).attenuation < 0x0F)

def channelAttenuation (channel : Fin 4) : Byte :=
  if h : channel.val < 3 then (p.tones ⟨channel.val, h⟩).attenuation else p.noiseAttenuation

def channelAmplitude (channel : Fin 4) : ℤ :=
  kAttenuationTable.getD (min (p.channelAttenuation channel).toNat 0x0F) 0

def channelRoutedLeft (channel : Fin 4) : Bool :=
  p.stereoControl &&& (0x10#8 <<< channel.val) != 0

def channelRoutedRight (channel : Fin 4) : Bool :=
  p.stereoControl &&& (0x01#8 <<< channel.val) != 0

def gate (voice : Fin 4) : Bool :=
  if h : voice.val < 3 then p.audible ⟨voice.val, h⟩ else decide (p.noiseAttenuation < 0x0F)

def recordWrite (address : Addr) (value : Byte) (voice : Fin 4)
    (kind : PsgEventKind) (hasRawWrite : Bool) : GameGearPSG C :=
  let gate := p.gate voice
  let period := if h : voice.val < 3 then max (p.tones ⟨voice.val, h⟩).period.toNat 1 else 1
  let first := (p.eventSequence + 1) % 2 ^ 64
  let event : PsgAudioEvent :=
    { sampleFrameOffset := p.currentFrameSamples.length / kOutputChannelCount
      sequence := first
      voiceId := voice
      voiceKind := if voice = 3 then .noise else .tone
      kind := kind
      frequencyMilliHz := if voice = 3 then 0 else kClockHz * 1000 / (32 * period)
      levelQ15 := (15 - min (p.channelAttenuation voice).toNat 15) * 32767 / 15
      routingMask := (if p.channelRoutedLeft voice then 1 else 0) |||
        (if p.channelRoutedRight voice then 2 else 0)
      timbre := if voice = 3 then p.noiseControl.toNat else 0
      rawAddress := address
      rawValue := value
      gate := gate
      hasRawWrite := hasRawWrite }
  let shown :=
    if kind ≠ .stateSnapshot ∧ kind ≠ .retrigger ∧ gate ≠ p.observedGateStates voice then
      { event with kind := if gate then .gateOn else .gateOff }
    else event
  let observed := update p.observedGateStates voice gate
  if kind = .stateSnapshot then
    { p with
      currentEvents := p.currentEvents ++ [shown]
      eventSequence := first
      observedGateStates := observed }
  else
    let second := (first + 1) % 2 ^ 64
    { p with
      currentEvents :=
        p.currentEvents ++ [shown, { event with sequence := second, kind := .rawWrite }]
      eventSequence := second
      observedGateStates := observed }

def recordSnapshots : GameGearPSG C :=
  [0, 1, 2, 3].foldl (fun p voice => p.recordWrite 0 0 voice .stateSnapshot false) p

def reset (_ : GameGearPSG C) : GameGearPSG C :=
  { construct osc with
    compatRegisters := fun i => if i = 0x16 then 0x80 else 0 }.recordSnapshots

def updateCompatStatus : GameGearPSG C :=
  let status := p.compatRegisters 0x16 &&& 0x80#8
  let status := [(0 : Fin 3), 1, 2].foldl
    (fun status i => if p.audible i then status ||| (1#8 <<< i.val) else status) status
  let status := if p.noiseAttenuation < 0x0F then status ||| 0x08#8 else status
  { p with compatRegisters := update p.compatRegisters 0x16 status }

def setTone (channel : Fin 3) (tone : ToneChannel C) : GameGearPSG C :=
  { p with tones := update p.tones channel tone }

/-- A latch byte selects a channel and writes its low bits. -/
def latch (p : GameGearPSG C) (value : Byte) : GameGearPSG C :=
  let channel : Fin 4 := Fin.ofNat 4 ((value >>> 5) &&& 0x03#8).toNat
  let volume := value &&& 0x10#8 != 0
  let p := { p with latchedChannel := channel, latchedVolume := volume }
  if h : channel.val < 3 then
    let tone := p.tones ⟨channel.val, h⟩
    if volume then
      p.setTone ⟨channel.val, h⟩
        { tone with attenuation := value &&& 0x0F#8, enabled := decide (value &&& 0x0F#8 < 0x0F) }
    else
      p.setTone ⟨channel.val, h⟩
        { tone with
          period := (tone.period &&& 0x03F0#16) ||| (value &&& 0x0F#8).setWidth 16
          enabled := true }
  else if volume then { p with noiseAttenuation := value &&& 0x0F#8 }
  else
    { p with
      noiseControl := value &&& 0x07#8
      noiseLfsr := 0x8000
      noiseCounter := osc.zero
      noiseOutputHigh := false }

/-- A data byte writes the high bits of the latched tone's period. -/
def latchedData (value : Byte) : GameGearPSG C :=
  if h : p.latchedChannel.val < 3 ∧ p.latchedVolume = false then
    let tone := p.tones ⟨p.latchedChannel.val, h.1⟩
    p.setTone ⟨p.latchedChannel.val, h.1⟩
      { tone with
        period := (tone.period &&& 0x000F#16) ||| ((value &&& 0x3F#8).setWidth 16 <<< 4)
        enabled := true }
  else p

def writeData (p : GameGearPSG C) (value : Byte) : GameGearPSG C :=
  let p := if value &&& 0x80#8 ≠ 0 then p.latch osc value else p.latchedData value
  let p := p.updateCompatStatus
  p.recordWrite 0x007F#16 value p.latchedChannel
    (if p.latchedVolume then .levelChange
      else if p.latchedChannel = 3 then .timbreChange else .pitchChange) true

def writeStereoControl (value : Byte) : GameGearPSG C :=
  [0, 1, 2, 3].foldl (fun p voice => p.recordWrite 0x0006#16 value voice .routingChange true)
    { p with stereoControl := value }

def applyCompatVolume (value : Byte) : GameGearPSG C :=
  let envelope := (value >>> 4) &&& 0x0F#8
  p.setTone 0 { p.tones 0 with
    attenuation := 0x0F - envelope
    enabled := envelope != 0 && p.compatRegisters 0x16 &&& 0x80#8 != 0 }

def applyCompatToneLow (value : Byte) : GameGearPSG C :=
  p.setTone 0 { p.tones 0 with
    period := ((p.tones 0).period &&& 0x0700#16) ||| value.setWidth 16 }

def applyCompatToneHigh (p : GameGearPSG C) (value : Byte) : GameGearPSG C :=
  let tone := { p.tones 0 with
    period := ((p.tones 0).period &&& 0x00FF#16) ||| ((value &&& 0x07#8).setWidth 16 <<< 8) }
  if value &&& 0x80#8 ≠ 0 ∧ p.compatRegisters 0x16 &&& 0x80#8 ≠ 0 then
    p.setTone 0 { tone with enabled := true, counter := osc.zero, outputHigh := true }
  else p.setTone 0 tone

/-- Switching the sound off drops the pending and the recent chunk. -/
def powerOff : GameGearPSG C :=
  { p with
    tones := fun i => { p.tones i with enabled := false }
    currentFrameSamples := []
    recentSamples := []
    currentVoiceStems := []
    recentVoiceStems := []
    currentEvents := []
    recentEvents := []
    recentFirstSampleFrame := 0 }

def writeCompatRegister (p : GameGearPSG C) (addr : Addr) (value : Byte) : GameGearPSG C :=
  if addr < 0xFF10#16 ∨ addr > 0xFF26#16 then p
  else
    let register : Fin 0x17 := Fin.ofNat 0x17 (addr - 0xFF10#16).toNat
    let p := { p with compatRegisters := update p.compatRegisters register value }
    let p :=
      if addr = 0xFF12#16 then p.applyCompatVolume value
      else if addr = 0xFF13#16 then p.applyCompatToneLow value
      else if addr = 0xFF14#16 then p.applyCompatToneHigh osc value
      else if addr = 0xFF26#16 ∧ value &&& 0x80#8 = 0 then p.powerOff
      else p
    p.updateCompatStatus

def writeWaveRam (addr : Addr) (value : Byte) : GameGearPSG C :=
  if addr < 0xFF30#16 ∨ addr > 0xFF3F#16 then p
  else { p with
    waveRam := update p.waveRam (Fin.ofNat 0x10 (addr - 0xFF30#16).toNat) value }

def readCompatRegister (addr : Addr) : Byte :=
  if addr < 0xFF10#16 ∨ addr > 0xFF26#16 then 0xFF
  else p.compatRegisters (Fin.ofNat 0x17 (addr - 0xFF10#16).toNat)

def readWaveRam (addr : Addr) : Byte :=
  if addr < 0xFF30#16 ∨ addr > 0xFF3F#16 then 0xFF
  else p.waveRam (Fin.ofNat 0x10 (addr - 0xFF30#16).toNat)

end GameGearPSG

def ToneChannel.advance {C : Type} (osc : Oscillator C) (tone : ToneChannel C) : ToneChannel C :=
  if !tone.enabled || decide (tone.attenuation ≥ 0x0F) then tone
  else
    let (counter, toggles) := osc.advance tone.counter (max tone.period.toNat 1 * 16)
    { tone with counter := counter, outputHigh := tone.outputHigh ^^ (toggles % 2 == 1) }

namespace GameGearPSG

variable {C : Type}

variable (p : GameGearPSG C)

def noisePeriod : ℕ :=
  match (p.noiseControl &&& 0x03#8).toNat with
  | 0 => 0x10
  | 1 => 0x20
  | 2 => 0x40
  | _ => max (p.tones 2).period.toNat 1

/-- One period of the noise generator. -/
def shiftNoise : GameGearPSG C :=
  let feedback :=
    if p.noiseControl &&& 0x04#8 ≠ 0 then (p.noiseLfsr ^^^ (p.noiseLfsr >>> 3)) &&& 0x0001#16
    else p.noiseLfsr &&& 0x0001#16
  let lfsr := (p.noiseLfsr >>> 1) ||| (feedback <<< 15)
  { p with noiseLfsr := lfsr, noiseOutputHigh := lfsr &&& 0x0001#16 != 0 }

variable (osc : Oscillator C)

def advanceGenerators (p : GameGearPSG C) : GameGearPSG C :=
  let p := { p with tones := fun i => (p.tones i).advance osc }
  if p.noiseAttenuation ≥ 0x0F then p
  else
    let (counter, toggles) := osc.advance p.noiseCounter (p.noisePeriod * 16)
    shiftNoise^[toggles] { p with noiseCounter := counter }

def signedAmplitude (channel : Fin 4) (high : Bool) : ℤ :=
  if high then p.channelAmplitude channel else -p.channelAmplitude channel

def mixTone (mix : ℤ × ℤ) (channel : Fin 3) : ℤ × ℤ :=
  if !(p.tones channel).enabled || decide ((p.tones channel).attenuation ≥ 0x0F) then mix
  else
    let signed := p.signedAmplitude channel.castSucc (p.tones channel).outputHigh
    (if p.channelRoutedLeft channel.castSucc then mix.1 + signed else mix.1,
      if p.channelRoutedRight channel.castSucc then mix.2 + signed else mix.2)

def mixFrame : ℤ × ℤ :=
  let mix := [(0 : Fin 3), 1, 2].foldl p.mixTone (0, 0)
  let mix :=
    if p.noiseAttenuation < 0x0F then
      let signed := p.signedAmplitude 3 p.noiseOutputHigh
      (if p.channelRoutedLeft 3 then mix.1 + signed else mix.1,
        if p.channelRoutedRight 3 then mix.2 + signed else mix.2)
    else mix
  (clampSample mix.1, clampSample mix.2)

/-- What one channel adds to the frame, before routing. -/
def contribution (channel : Fin 4) : ℤ :=
  if h : channel.val < 3 then
    if p.audible ⟨channel.val, h⟩ then
      p.signedAmplitude channel (p.tones ⟨channel.val, h⟩).outputHigh
    else 0
  else if p.noiseAttenuation < 0x0F then p.signedAmplitude channel p.noiseOutputHigh
  else 0

def stems (channel : Fin 4) : List ℤ :=
  [if p.channelRoutedLeft channel then clampSample (p.contribution channel) else 0,
    if p.channelRoutedRight channel then clampSample (p.contribution channel) else 0]

def voiceMajor (stems : List ℤ) : List ℤ :=
  (List.range (kFramesPerChunk * kOutputChannelCount * 4)).map fun target =>
    stems.getD ((target / kOutputChannelCount % kFramesPerChunk * 4 +
      target / (kFramesPerChunk * kOutputChannelCount)) * kOutputChannelCount +
        target % kOutputChannelCount) 0

/-- The pending chunk becomes the recent one. -/
def emitChunk : GameGearPSG C :=
  let kChunkSamples := kFramesPerChunk * kOutputChannelCount
  let chunkSamples := min p.currentFrameSamples.length kChunkSamples
  let generatedFrames := p.samplesGeneratedTotal / kOutputChannelCount
  { p with
    recentSamples := p.currentFrameSamples.take kChunkSamples
    recentVoiceStems := voiceMajor p.currentVoiceStems
    recentEvents := p.currentEvents
    recentFirstSampleFrame :=
      if generatedFrames ≥ kFramesPerChunk then generatedFrames - kFramesPerChunk else 0
    chunkSamplesLast := chunkSamples
    chunkSamplesMin :=
      if p.chunkSamplesMin = 0 ∨ chunkSamples < p.chunkSamplesMin then chunkSamples
      else p.chunkSamplesMin
    chunkSamplesMax := max p.chunkSamplesMax chunkSamples
    currentFrameSamples := []
    currentVoiceStems := []
    currentEvents := []
    frameCounter := (p.frameCounter + 1) % 2 ^ 64 }

/-- One frame joins the pending chunk. -/
def appendFrame (p : GameGearPSG C) : GameGearPSG C :=
  let p := p.advanceGenerators osc
  let frame := p.mixFrame
  { p with
    currentVoiceStems := p.currentVoiceStems ++ [0, 1, 2, 3].flatMap p.stems
    currentFrameSamples := p.currentFrameSamples ++ [frame.1, frame.2]
    samplesGeneratedTotal := (p.samplesGeneratedTotal + 2) % 2 ^ 64 }

def produceFrame (p : GameGearPSG C) : GameGearPSG C :=
  let p := p.appendFrame osc
  if p.currentFrameSamples.length ≥ kFramesPerChunk * kOutputChannelCount then p.emitChunk else p

/-- The loop takes one clock second off the phase for each frame it produces. -/
def step (p : GameGearPSG C) (cpuCycles : BitVec 32) : GameGearPSG C :=
  let phase := (p.samplePhase + cpuCycles.toNat * kSampleRate) % 2 ^ 64
  (produceFrame osc)^[phase / kClockHz] { p with samplePhase := phase % kClockHz }

/-- Whether the import accepts the decoded chunk, and with which message it does not. -/
def checkState (state : PsgState C) : Except String Unit :=
  if (∃ i, osc.importable (state.tones i).counter = false) ∨
      osc.importable state.noiseCounter = false then
    .error "Game Gear PSG state counter invalid"
  else if state.currentFrameSamples.length > kFramesPerChunk * kOutputChannelCount ∨
      state.recentSamples.length > 8192 then
    .error "Game Gear PSG sample history too large"
  else if state.currentFrameSamples.length ≥ kFramesPerChunk * kOutputChannelCount ∨
      state.currentFrameSamples.length % kOutputChannelCount ≠ 0 then
    .error "Game Gear PSG pending sample chunk invalid"
  else if state.latchedChannel > 3 then .error "Game Gear PSG state invalid"
  else .ok ()

/-- The stems are not in the file: they are blank. The event sequence, and the first frame
reported for the recent chunk, stay the object's own. -/
def importAccepted (state : PsgState C) : GameGearPSG C :=
  { p with
    tones := state.tones
    noiseControl := state.noiseControl
    noiseAttenuation := state.noiseAttenuation
    noiseCounter := state.noiseCounter
    noiseLfsr := state.noiseLfsr
    noiseOutputHigh := state.noiseOutputHigh
    stereoControl := state.stereoControl
    compatRegisters := state.compatRegisters
    waveRam := state.waveRam
    currentFrameSamples := state.currentFrameSamples
    recentSamples := state.recentSamples
    chunkSamplesLast := state.chunkSamplesLast
    chunkSamplesMin := state.chunkSamplesMin
    chunkSamplesMax := state.chunkSamplesMax
    samplesGeneratedTotal := state.samplesGeneratedTotal % 2 ^ 64
    samplePhase := state.samplePhase % 2 ^ 64
    frameCounter := state.frameCounter % 2 ^ 64
    latchedChannel := Fin.ofNat 4 state.latchedChannel.toNat
    latchedVolume := state.latchedVolume
    currentVoiceStems := List.replicate (state.currentFrameSamples.length * 4) 0
    recentVoiceStems := List.replicate (state.recentSamples.length * 4) 0
    currentEvents := []
    recentEvents := []
    observedGateStates := fun _ => false }.recordSnapshots

def importState (osc : Oscillator C) (p : GameGearPSG C) (state : PsgState C) :
    Except String (GameGearPSG C) :=
  (checkState osc state).map fun _ => p.importAccepted state

def exportState : PsgState C where
  tones := p.tones
  noiseControl := p.noiseControl
  noiseAttenuation := p.noiseAttenuation
  noiseCounter := p.noiseCounter
  noiseLfsr := p.noiseLfsr
  noiseOutputHigh := p.noiseOutputHigh
  stereoControl := p.stereoControl
  compatRegisters := p.compatRegisters
  waveRam := p.waveRam
  currentFrameSamples := p.currentFrameSamples
  recentSamples := p.recentSamples
  chunkSamplesLast := p.chunkSamplesLast
  chunkSamplesMin := p.chunkSamplesMin
  chunkSamplesMax := p.chunkSamplesMax
  samplesGeneratedTotal := p.samplesGeneratedTotal
  samplePhase := p.samplePhase
  frameCounter := p.frameCounter
  latchedChannel := BitVec.ofNat 8 p.latchedChannel.val
  latchedVolume := p.latchedVolume

end GameGearPSG

end ProtoTime.GameGear
