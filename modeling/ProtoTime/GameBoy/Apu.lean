import ProtoTime.GameBoy.Bytes

/-!
The sound unit: four channels, the frame sequencer, the sample accumulator and
its ring of recent samples. Counters are natural numbers below the width of
their C++ type; unsigned decrements wrap explicitly.
-/
namespace ProtoTime.GameBoy

structure PulseChannel where
  enabled : Bool := false
  dacEnabled : Bool := false
  lengthEnabled : Bool := false
  duty : ℕ := 0
  dutyStep : ℕ := 0
  lengthCounter : ℕ := 0
  initialVolume : ℕ := 0
  volume : ℕ := 0
  envelopeIncrease : Bool := false
  envelopePeriod : ℕ := 0
  envelopeTimer : ℕ := 0
  frequency : ℕ := 0
  timer : ℕ := 0
  hasSweep : Bool := false
  sweepPeriod : ℕ := 0
  sweepTimer : ℕ := 0
  sweepNegate : Bool := false
  sweepShift : ℕ := 0
  shadowFrequency : ℕ := 0
  sweepEnabled : Bool := false
  deriving DecidableEq

structure WaveChannel where
  enabled : Bool := false
  dacEnabled : Bool := false
  lengthEnabled : Bool := false
  lengthCounter : ℕ := 0
  frequency : ℕ := 0
  timer : ℕ := 0
  sampleIndex : ℕ := 0
  outputLevel : ℕ := 0
  deriving DecidableEq

structure NoiseChannel where
  enabled : Bool := false
  dacEnabled : Bool := false
  lengthEnabled : Bool := false
  lengthCounter : ℕ := 0
  initialVolume : ℕ := 0
  volume : ℕ := 0
  envelopeIncrease : Bool := false
  envelopePeriod : ℕ := 0
  envelopeTimer : ℕ := 0
  clockShift : ℕ := 0
  divisorCode : ℕ := 0
  widthMode7 : Bool := false
  timer : ℕ := 0
  lfsr : BitVec 16 := 0x7FFF#16
  deriving DecidableEq

def kMasterClockHz : ℕ := 4194304

def kSampleRate : ℕ := 48000

def kHistorySamples : ℕ := 4096

def kFrameChunkSamples : ℕ := 256

def kCyclesPerFrameStep : ℕ := 8192

structure GameBoyAPU where
  masterEnabled : Bool := true
  frameSequencerCounter : ℕ := 0
  frameSequencerStep : ℕ := 0
  sampleAccumulator : ℕ := 0
  sampleCounter : ℕ := 0
  frameCounter : ℕ := 0
  recentSamples : Fin 4096 → ℤ := fun _ => 0
  recentWriteCursor : ℕ := 0
  recentSampleCount : ℕ := 0
  pendingReadCursor : ℕ := 0
  pendingSampleCount : ℕ := 0
  waveRam : Fin 16 → Byte := fun _ => 0
  nr50 : Byte := 0
  nr51 : Byte := 0
  nr52 : Byte := 0
  pulse1 : PulseChannel := {}
  pulse2 : PulseChannel := {}
  wave : WaveChannel := {}
  noise : NoiseChannel := {}

namespace GameBoyAPU

def reset : GameBoyAPU := {}

def pulseTimerPeriod (frequency : ℕ) : ℕ := max 4 ((2048 - frequency % 0x800) * 4)

def waveTimerPeriod (frequency : ℕ) : ℕ := max 2 ((2048 - frequency % 0x800) * 2)

def noiseTimerPeriod (noise : NoiseChannel) : ℕ :=
  let divisor := [8, 16, 32, 48, 64, 80, 96, 112].getD (noise.divisorCode % 8) 8
  min (max (divisor <<< noise.clockShift) 8) 0xFFFF

def tickPulseTimer (channel : PulseChannel) : PulseChannel :=
  let timer := channel.timer - 1
  if timer = 0 then
    { channel with
      timer := pulseTimerPeriod channel.frequency
      dutyStep := (channel.dutyStep + 1) % 8 }
  else { channel with timer := timer }

def tickWaveTimer (channel : WaveChannel) : WaveChannel :=
  let timer := channel.timer - 1
  if timer = 0 then
    { channel with
      timer := waveTimerPeriod channel.frequency
      sampleIndex := (channel.sampleIndex + 1) % 32 }
  else { channel with timer := timer }

def tickNoiseTimer (channel : NoiseChannel) : NoiseChannel :=
  let timer := channel.timer - 1
  if timer = 0 then
    let feedback := (channel.lfsr ^^^ (channel.lfsr >>> 1)) &&& 0x0001#16
    let lfsr := (channel.lfsr >>> 1) ||| (feedback <<< 14)
    let lfsr := if channel.widthMode7 then (lfsr &&& ~~~0x0040#16) ||| (feedback <<< 6) else lfsr
    { channel with timer := noiseTimerPeriod channel, lfsr := lfsr &&& 0x7FFF#16 }
  else { channel with timer := timer }

/-- A length counter that reaches zero switches its channel off. -/
def tickLength (enabled lengthEnabled : Bool) (lengthCounter : ℕ) : Bool × ℕ :=
  if lengthEnabled ∧ lengthCounter > 0 then
    (if lengthCounter - 1 = 0 then false else enabled, lengthCounter - 1)
  else (enabled, lengthCounter)

variable (a : GameBoyAPU)

def tickLengthCounters : GameBoyAPU :=
  let p1 := tickLength a.pulse1.enabled a.pulse1.lengthEnabled a.pulse1.lengthCounter
  let p2 := tickLength a.pulse2.enabled a.pulse2.lengthEnabled a.pulse2.lengthCounter
  let w := tickLength a.wave.enabled a.wave.lengthEnabled a.wave.lengthCounter
  let n := tickLength a.noise.enabled a.noise.lengthEnabled a.noise.lengthCounter
  { a with
    pulse1 := { a.pulse1 with enabled := p1.1, lengthCounter := p1.2 }
    pulse2 := { a.pulse2 with enabled := p2.1, lengthCounter := p2.2 }
    wave := { a.wave with enabled := w.1, lengthCounter := w.2 }
    noise := { a.noise with enabled := n.1, lengthCounter := n.2 } }

/-- The eight-bit sweep timer and the sixteen-bit new frequency wrap as in the source. -/
def tickSweep (channel : PulseChannel) : PulseChannel :=
  if ¬ channel.sweepEnabled ∨ channel.sweepPeriod = 0 ∨ channel.sweepShift = 0 then channel
  else
    let sweepTimer := (channel.sweepTimer + 255) % 256
    if sweepTimer > 0 then { channel with sweepTimer := sweepTimer }
    else
      let channel := { channel with sweepTimer := channel.sweepPeriod }
      let delta := channel.shadowFrequency >>> channel.sweepShift
      let newFreq :=
        if channel.sweepNegate then (channel.shadowFrequency + 0x10000 - delta) % 0x10000
        else (channel.shadowFrequency + delta) % 0x10000
      if newFreq > 0x07FF then { channel with enabled := false }
      else { channel with shadowFrequency := newFreq, frequency := newFreq }

/-- The new timer and volume of an envelope; the eight-bit timer wraps. -/
def tickEnvelope (period timer volume : ℕ) (increase : Bool) : ℕ × ℕ :=
  if period = 0 then (timer, volume)
  else
    let timer := (timer + 255) % 256
    if timer > 0 then (timer, volume)
    else if increase then (period, if volume < 15 then volume + 1 else volume)
    else (period, volume - 1)

variable (c : PulseChannel)

def tickPulseEnvelope : PulseChannel :=
  let e := tickEnvelope c.envelopePeriod c.envelopeTimer c.volume c.envelopeIncrease
  { c with envelopeTimer := e.1, volume := e.2 }

def tickNoiseEnvelope (c : NoiseChannel) : NoiseChannel :=
  let e := tickEnvelope c.envelopePeriod c.envelopeTimer c.volume c.envelopeIncrease
  { c with envelopeTimer := e.1, volume := e.2 }

def stepFrameSequencer : GameBoyAPU :=
  let a' := match a.frameSequencerStep with
    | 0 | 4 => a.tickLengthCounters
    | 2 | 6 =>
      let a := a.tickLengthCounters
      { a with pulse1 := tickSweep a.pulse1 }
    | 7 =>
      { a with
        pulse1 := tickPulseEnvelope a.pulse1
        pulse2 := tickPulseEnvelope a.pulse2
        noise := tickNoiseEnvelope a.noise }
    | _ => a
  { a' with frameSequencerStep := (a.frameSequencerStep + 1) % 8 }

def kDutyPatterns : List (List Byte) :=
  [[0x00#8, 0x00#8, 0x00#8, 0x00#8, 0x00#8, 0x00#8, 0x00#8, 0xFF#8],
    [0x00#8, 0x00#8, 0x00#8, 0x00#8, 0x00#8, 0x00#8, 0xFF#8, 0xFF#8],
    [0x00#8, 0x00#8, 0x00#8, 0x00#8, 0xFF#8, 0xFF#8, 0xFF#8, 0xFF#8],
    [0xFF#8, 0xFF#8, 0xFF#8, 0xFF#8, 0xFF#8, 0xFF#8, 0x00#8, 0x00#8]]

def currentPulseSample (channel : PulseChannel) : ℤ :=
  if ¬ a.masterEnabled ∨ ¬ channel.enabled ∨ ¬ channel.dacEnabled ∨ channel.volume = 0 then 0
  else
    let level := (kDutyPatterns.getD (channel.duty % 4) []).getD (channel.dutyStep % 8) 0
    if level ≠ 0 then channel.volume else -channel.volume

def currentWaveSample : ℤ :=
  if ¬ a.masterEnabled ∨ ¬ a.wave.enabled ∨ ¬ a.wave.dacEnabled then 0
  else
    let outputLevel := a.wave.outputLevel % 4
    if outputLevel = 0 then 0
    else
      let sampleIndex := a.wave.sampleIndex % 32
      let packed := (a.waveRam (Fin.ofNat 16 (sampleIndex / 2))).toNat
      let sample := if sampleIndex % 2 = 0 then packed / 16 else packed % 16
      let sample :=
        if outputLevel = 2 then sample / 2 else if outputLevel = 3 then sample / 4 else sample
      ((sample : ℤ) - 8) * 2

def currentNoiseSample : ℤ :=
  if ¬ a.masterEnabled ∨ ¬ a.noise.enabled ∨ ¬ a.noise.dacEnabled ∨ a.noise.volume = 0 then 0
  else if a.noise.lfsr &&& 0x0001#16 = 0 then a.noise.volume else -a.noise.volume

def clampSample (x : ℤ) : ℤ := max (-32768) (min x 32767)

/-- One clamped contribution per voice. -/
def currentVoiceContributions : List ℤ :=
  let raw := [a.currentPulseSample a.pulse1, a.currentPulseSample a.pulse2,
    a.currentWaveSample, a.currentNoiseSample]
  let leftVolume : ℤ := ((a.nr50 >>> 4) &&& 0x07#8).toNat + 1
  let rightVolume : ℤ := (a.nr50 &&& 0x07#8).toNat + 1
  raw.zipIdx.map fun (sample, voice) =>
    let left := if a.nr51 &&& (0x10#8 <<< voice) ≠ 0 then sample else 0
    let right := if a.nr51 &&& (0x01#8 <<< voice) ≠ 0 then sample else 0
    clampSample ((left * leftVolume + right * rightVolume) * 32)

def pushSample (sample : ℤ) : GameBoyAPU :=
  let cursor := Fin.ofNat 4096 a.recentWriteCursor
  let sampleCounter := a.sampleCounter + 1
  { a with
    recentSamples := Function.update a.recentSamples cursor sample
    recentWriteCursor := (a.recentWriteCursor + 1) % kHistorySamples
    recentSampleCount :=
      if a.recentSampleCount < kHistorySamples then a.recentSampleCount + 1
      else a.recentSampleCount
    sampleCounter := sampleCounter
    frameCounter :=
      if sampleCounter % kFrameChunkSamples = 0 then a.frameCounter + 1 else a.frameCounter
    pendingSampleCount :=
      if a.pendingSampleCount < kHistorySamples then a.pendingSampleCount + 1
      else a.pendingSampleCount
    pendingReadCursor :=
      if a.pendingSampleCount < kHistorySamples then a.pendingReadCursor
      else (a.pendingReadCursor + 1) % kHistorySamples }

/-- The accumulator loop runs once for every whole clock second in the accumulator. -/
def emitSamples : ℕ → GameBoyAPU → GameBoyAPU
  | 0, a => a
  | n + 1, a =>
    let a := { a with sampleAccumulator := a.sampleAccumulator - kMasterClockHz }
    emitSamples n (a.pushSample (clampSample a.currentVoiceContributions.sum))

def stepOneCycle : GameBoyAPU :=
  let a :=
    if a.masterEnabled then
      let a :=
        if a.frameSequencerCounter + 1 ≥ kCyclesPerFrameStep then
          { a with frameSequencerCounter := 0 }.stepFrameSequencer
        else { a with frameSequencerCounter := a.frameSequencerCounter + 1 }
      { a with
        pulse1 := tickPulseTimer a.pulse1
        pulse2 := tickPulseTimer a.pulse2
        wave := tickWaveTimer a.wave
        noise := tickNoiseTimer a.noise }
    else a
  let a := { a with sampleAccumulator := a.sampleAccumulator + kSampleRate }
  emitSamples (a.sampleAccumulator / kMasterClockHz) a

def step (cpuCycles : ℕ) (a : GameBoyAPU) : GameBoyAPU := stepOneCycle^[cpuCycles] a

def cyclesUntilNextEvent : ℕ :=
  if a.sampleAccumulator ≥ kMasterClockHz ∨
      (a.masterEnabled ∧ a.frameSequencerCounter ≥ kCyclesPerFrameStep) then 0
  else
    let sample := (kMasterClockHz - a.sampleAccumulator + kSampleRate - 1) / kSampleRate
    if a.masterEnabled then min sample (kCyclesPerFrameStep - a.frameSequencerCounter) else sample

def writePulseEnvelope (value : Byte) : PulseChannel :=
  let dacEnabled := value &&& 0xF8#8 != 0
  let period := (value &&& 0x07#8).toNat
  let volume := ((value >>> 4) &&& 0x0F#8).toNat
  { c with
    dacEnabled := dacEnabled
    enabled := dacEnabled && c.enabled
    envelopeIncrease := value &&& 0x08#8 != 0
    envelopePeriod := period
    initialVolume := volume
    volume := volume
    envelopeTimer := period }

/-- `NRx3`: the low eight bits of a frequency. -/
def frequencyLow (frequency : ℕ) (value : Byte) : ℕ := (frequency &&& 0x0700) ||| value.toNat

/-- `NRx4`: the high three bits of a frequency. -/
def frequencyHigh (frequency : ℕ) (value : Byte) : ℕ :=
  ((value &&& 0x07#8).toNat <<< 8) ||| (frequency &&& 0x00FF)

def triggerPulse : PulseChannel :=
  { c with
    lengthCounter := if c.lengthCounter = 0 then 64 else c.lengthCounter
    volume := c.initialVolume
    envelopeTimer := c.envelopePeriod
    dutyStep := 0
    timer := pulseTimerPeriod c.frequency
    enabled := c.dacEnabled }

/-- `NR14` and `NR24` up to the sweep unit. -/
def writePulseControl (value : Byte) : PulseChannel :=
  let c := { c with
    frequency := frequencyHigh c.frequency value
    lengthEnabled := value &&& 0x40#8 != 0 }
  if value &&& 0x80#8 ≠ 0 then triggerPulse c else c

def writePoweredRegister (address : Addr) (value : Byte) : GameBoyAPU :=
  match address.toNat with
  | 0xFF10 =>
    let period := ((value >>> 4) &&& 0x07#8).toNat
    let shift := (value &&& 0x07#8).toNat
    { a with pulse1 := { a.pulse1 with
        sweepPeriod := period
        sweepNegate := value &&& 0x08#8 != 0
        sweepShift := shift
        sweepEnabled := period != 0 || shift != 0 } }
  | 0xFF11 =>
    { a with pulse1 := { a.pulse1 with
        duty := ((value >>> 6) &&& 0x03#8).toNat
        lengthCounter := 64 - (value &&& 0x3F#8).toNat } }
  | 0xFF12 => { a with pulse1 := writePulseEnvelope a.pulse1 value }
  | 0xFF13 =>
    { a with pulse1 := { a.pulse1 with frequency := frequencyLow a.pulse1.frequency value } }
  | 0xFF14 =>
    let c := writePulseControl a.pulse1 value
    let hasSweep := c.sweepPeriod != 0 || c.sweepShift != 0
    { a with pulse1 := { c with
        hasSweep := hasSweep
        sweepEnabled := hasSweep
        shadowFrequency := c.frequency
        sweepTimer := c.sweepPeriod } }
  | 0xFF16 =>
    { a with pulse2 := { a.pulse2 with
        duty := ((value >>> 6) &&& 0x03#8).toNat
        lengthCounter := 64 - (value &&& 0x3F#8).toNat } }
  | 0xFF17 => { a with pulse2 := writePulseEnvelope a.pulse2 value }
  | 0xFF18 =>
    { a with pulse2 := { a.pulse2 with frequency := frequencyLow a.pulse2.frequency value } }
  | 0xFF19 => { a with pulse2 := writePulseControl a.pulse2 value }
  | 0xFF1A =>
    let dacEnabled := value &&& 0x80#8 != 0
    { a with wave := { a.wave with dacEnabled, enabled := dacEnabled && a.wave.enabled } }
  | 0xFF1B => { a with wave := { a.wave with lengthCounter := 256 - value.toNat } }
  | 0xFF1C => { a with wave := { a.wave with outputLevel := ((value >>> 5) &&& 0x03#8).toNat } }
  | 0xFF1D => { a with wave := { a.wave with frequency := frequencyLow a.wave.frequency value } }
  | 0xFF1E =>
    let c := { a.wave with
      frequency := frequencyHigh a.wave.frequency value
      lengthEnabled := value &&& 0x40#8 != 0 }
    let c :=
      if value &&& 0x80#8 ≠ 0 then
        { c with
          lengthCounter := if c.lengthCounter = 0 then 256 else c.lengthCounter
          enabled := c.dacEnabled
          timer := waveTimerPeriod c.frequency
          sampleIndex := 0 }
      else c
    { a with wave := c }
  | 0xFF20 => { a with noise := { a.noise with lengthCounter := 64 - (value &&& 0x3F#8).toNat } }
  | 0xFF21 =>
    let dacEnabled := value &&& 0xF8#8 != 0
    let period := (value &&& 0x07#8).toNat
    let volume := ((value >>> 4) &&& 0x0F#8).toNat
    { a with noise := { a.noise with
        dacEnabled := dacEnabled
        enabled := dacEnabled && a.noise.enabled
        envelopeIncrease := value &&& 0x08#8 != 0
        envelopePeriod := period
        initialVolume := volume
        volume := volume
        envelopeTimer := period } }
  | 0xFF22 =>
    { a with noise := { a.noise with
        clockShift := (value >>> 4).toNat
        divisorCode := (value &&& 0x07#8).toNat
        widthMode7 := value &&& 0x08#8 != 0 } }
  | 0xFF23 =>
    let c := { a.noise with lengthEnabled := value &&& 0x40#8 != 0 }
    let c :=
      if value &&& 0x80#8 ≠ 0 then
        { c with
          lengthCounter := if c.lengthCounter = 0 then 64 else c.lengthCounter
          enabled := c.dacEnabled
          volume := c.initialVolume
          envelopeTimer := c.envelopePeriod
          lfsr := 0x7FFF#16
          timer := noiseTimerPeriod c }
      else c
    { a with noise := c }
  | 0xFF24 => { a with nr50 := value }
  | 0xFF25 => { a with nr51 := value }
  | _ => a

/-- Power control and wave RAM are written in any power state. -/
def writeRegister (address : Addr) (value : Byte) : GameBoyAPU :=
  if address = 0xFF26#16 then
    let a := { a with masterEnabled := value &&& 0x80#8 != 0, nr52 := value }
    if a.masterEnabled then a
    else { a with pulse1 := {}, pulse2 := {}, wave := {}, noise := {}, nr50 := 0, nr51 := 0 }
  else if 0xFF30#16 ≤ address ∧ address ≤ 0xFF3F#16 then
    { a with waveRam := Function.update a.waveRam (Fin.ofNat 16 (address.toNat - 0xFF30)) value }
  else if a.masterEnabled then a.writePoweredRegister address value
  else a

def readRegister (address : Addr) : Byte :=
  if address = 0xFF24#16 then a.nr50
  else if address = 0xFF25#16 then a.nr51
  else if address = 0xFF26#16 then
    0x70#8 ||| (if a.masterEnabled then 0x80#8 else 0) |||
      (if a.pulse1.enabled then 0x01#8 else 0) ||| (if a.pulse2.enabled then 0x02#8 else 0) |||
      (if a.wave.enabled then 0x04#8 else 0) ||| (if a.noise.enabled then 0x08#8 else 0)
  else if 0xFF30#16 ≤ address ∧ address ≤ 0xFF3F#16 then
    a.waveRam (Fin.ofNat 16 (address.toNat - 0xFF30))
  else 0xFF#8

end GameBoyAPU

end ProtoTime.GameBoy
