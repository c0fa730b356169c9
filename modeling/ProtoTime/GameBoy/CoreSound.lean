import ProtoTime.GameBoy.Hardware

/-!
The channels of the core's audio unit and the storage below the memory map: what a
retired cycle does to them beside the timed hardware. The channels read the sound
registers of the register file and the wave bytes of the storage; OAM DMA copies
inside the storage.
-/
namespace ProtoTime.GameBoy

structure ApuPulseChannel where
  enabled : Bool := false
  dacEnabled : Bool := false
  lengthEnabled : Bool := false
  duty : ℕ := 0
  dutyStep : ℕ := 0
  lengthCounter : ℕ := 0
  initialVolume : ℕ := 0
  volume : ℕ := 0
  envelopeIncrease : Bool := false
  envelopePeriod : ℕ := 0
  envelopeTimer : ℕ := 0
  frequency : ℕ := 0
  timer : ℕ := 0
  hasSweep : Bool := false
  sweepPeriod : ℕ := 0
  sweepTimer : ℕ := 0
  sweepNegate : Bool := false
  sweepShift : ℕ := 0
  shadowFrequency : ℕ := 0
  sweepEnabled : Bool := false
  deriving DecidableEq

structure ApuWaveChannel where
  enabled : Bool := false
  dacEnabled : Bool := false
  lengthEnabled : Bool := false
  lengthCounter : ℕ := 0
  frequency : ℕ := 0
  timer : ℕ := 0
  sampleIndex : ℕ := 0
  deriving DecidableEq

structure ApuNoiseChannel where
  enabled : Bool := false
  dacEnabled : Bool := false
  lengthEnabled : Bool := false
  lengthCounter : ℕ := 0
  initialVolume : ℕ := 0
  volume : ℕ := 0
  envelopeIncrease : Bool := false
  envelopePeriod : ℕ := 0
  envelopeTimer : ℕ := 0
  clockShift : ℕ := 0
  divisorCode : ℕ := 0
  widthMode7 : Bool := false
  timer : ℕ := 0
  lfsr : BitVec 16 := 0x7FFF
  deriving DecidableEq

def kApuHistorySamples : ℕ := 4096

/-- The channels, the recent samples, the register file of the sound registers and the bytes of
the storage below the memory map. -/
structure CoreSound where
  pulse1 : ApuPulseChannel
  pulse2 : ApuPulseChannel
  wave : ApuWaveChannel
  noise : ApuNoiseChannel
  recentSamples : ℕ → ℤ
  recentWriteCursor : ℕ
  recentSampleCount : ℕ
  registers : Addr → Byte
  storage : Addr → Byte

def pulseTimerPeriod (frequency : ℕ) : ℕ := max 4 ((2048 - (frequency &&& 0x07FF)) * 4)

def waveTimerPeriod (frequency : ℕ) : ℕ := max 2 ((2048 - (frequency &&& 0x07FF)) * 2)

namespace ApuPulseChannel

variable (c : ApuPulseChannel)

def tickEnvelope : ApuPulseChannel :=
  if ¬ c.enabled ∨ c.envelopePeriod = 0 then c
  else
    let c := { c with envelopeTimer := c.envelopeTimer - 1 }
    if c.envelopeTimer ≠ 0 then c
    else
      { c with
        envelopeTimer := c.envelopePeriod
        volume :=
          if c.envelopeIncrease then (if c.volume < 15 then c.volume + 1 else c.volume)
          else c.volume - 1 }

/-- The channel, and whether it was switched off. -/
def tickLength : ApuPulseChannel × Bool :=
  if c.enabled ∧ c.lengthEnabled ∧ c.lengthCounter > 0 then
    let c := { c with lengthCounter := c.lengthCounter - 1 }
    if c.lengthCounter = 0 then ({ c with enabled := false }, true) else (c, false)
  else (c, false)

def tickTimer : ApuPulseChannel :=
  let c := { c with timer := c.timer - 1 }
  if c.timer = 0 then
    { c with timer := pulseTimerPeriod c.frequency, dutyStep := (c.dutyStep + 1) &&& 0x07 }
  else c

/-- The channel after a sweep step, and whether the status register is refreshed. -/
def tickSweep : ApuPulseChannel × Bool :=
  if ¬ c.hasSweep ∨ ¬ c.enabled ∨ ¬ c.sweepEnabled then (c, false)
  else
    let c := { c with sweepTimer := c.sweepTimer - 1 }
    if c.sweepTimer ≠ 0 then (c, false)
    else
      let c := { c with sweepTimer := if c.sweepPeriod = 0 then 8 else c.sweepPeriod }
      if c.sweepPeriod = 0 then (c, false)
      else
        let delta := c.shadowFrequency >>> c.sweepShift
        let next : ℤ :=
          if c.sweepNegate then (c.shadowFrequency : ℤ) - delta else c.shadowFrequency + delta
        if next < 0 ∨ next > 2047 then ({ c with enabled := false }, true)
        else if c.sweepShift ≠ 0 then
          let c := { c with
            shadowFrequency := next.toNat
            frequency := next.toNat
            timer := pulseTimerPeriod next.toNat }
          let overflowCheck := (c.shadowFrequency + (c.shadowFrequency >>> c.sweepShift)) % 0x10000
          (if ¬ c.sweepNegate ∧ overflowCheck > 2047 then { c with enabled := false } else c, true)
        else (c, false)

def kDutyPatterns : List (List ℕ) :=
  [[0, 0, 0, 0, 0, 0, 0, 1], [1, 0, 0, 0, 0, 0, 0, 1], [1, 0, 0, 0, 0, 1, 1, 1],
    [0, 1, 1, 1, 1, 1, 1, 0]]

def currentSample (masterEnabled : Bool) : ℤ :=
  if ¬ masterEnabled ∨ ¬ c.enabled ∨ ¬ c.dacEnabled ∨ c.volume = 0 then 0
  else if (kDutyPatterns.getD (c.duty &&& 0x03) []).getD (c.dutyStep &&& 0x07) 0 ≠ 0 then c.volume
  else -c.volume

end ApuPulseChannel

namespace ApuWaveChannel

def tickLength (c : ApuWaveChannel) : ApuWaveChannel × Bool :=
  if c.enabled ∧ c.lengthEnabled ∧ c.lengthCounter > 0 then
    let c := { c with lengthCounter := c.lengthCounter - 1 }
    if c.lengthCounter = 0 then ({ c with enabled := false }, true) else (c, false)
  else (c, false)

def tickTimer (c : ApuWaveChannel) : ApuWaveChannel :=
  let c := { c with timer := c.timer - 1 }
  if c.timer = 0 then
    { c with timer := waveTimerPeriod c.frequency, sampleIndex := (c.sampleIndex + 1) &&& 0x1F }
  else c

/-- `outputLevel` is the volume code of `NR32`; each storage byte packs two samples. -/
def currentSample (c : ApuWaveChannel) (masterEnabled : Bool) (outputLevel : ℕ)
    (storage : Addr → Byte) : ℤ :=
  if ¬ masterEnabled ∨ ¬ c.enabled ∨ ¬ c.dacEnabled then 0
  else if outputLevel = 0 then 0
  else
    let sampleIndex := c.sampleIndex &&& 0x1F
    let packed := (storage (0xFF30#16 + BitVec.ofNat 16 (sampleIndex / 2))).toNat
    let sample := if sampleIndex % 2 = 0 then packed / 16 else packed % 16
    let sample := if outputLevel = 2 then sample / 2 else if outputLevel = 3 then sample / 4
      else sample
    ((sample : ℤ) - 8) * 2

end ApuWaveChannel

namespace ApuNoiseChannel

variable (c : ApuNoiseChannel)

def timerPeriod : ℕ :=
  let divisor := [8, 16, 32, 48, 64, 80, 96, 112].getD (c.divisorCode &&& 0x07) 0
  min (max (divisor <<< c.clockShift) 8) 0xFFFF

def tickEnvelope : ApuNoiseChannel :=
  if ¬ c.enabled ∨ c.envelopePeriod = 0 then c
  else
    let c := { c with envelopeTimer := c.envelopeTimer - 1 }
    if c.envelopeTimer ≠ 0 then c
    else
      { c with
        envelopeTimer := c.envelopePeriod
        volume :=
          if c.envelopeIncrease then (if c.volume < 15 then c.volume + 1 else c.volume)
          else c.volume - 1 }

def tickLength : ApuNoiseChannel × Bool :=
  if c.enabled ∧ c.lengthEnabled ∧ c.lengthCounter > 0 then
    let c := { c with lengthCounter := c.lengthCounter - 1 }
    if c.lengthCounter = 0 then ({ c with enabled := false }, true) else (c, false)
  else (c, false)

def tickTimer : ApuNoiseChannel :=
  let c := { c with timer := c.timer - 1 }
  if c.timer = 0 then
    let shifted : BitVec 16 := c.lfsr.ushiftRight 1
    let xorBit : BitVec 16 := (c.lfsr ^^^ shifted) &&& 0x01#16
    let lfsr : BitVec 16 := shifted ||| (xorBit <<< 14)
    { c with
      timer := c.timerPeriod
      lfsr := if c.widthMode7 then (lfsr &&& ~~~0x40#16) ||| (xorBit <<< 6) else lfsr }
  else c

def currentSample (masterEnabled : Bool) : ℤ :=
  if ¬ masterEnabled ∨ ¬ c.enabled ∨ ¬ c.dacEnabled ∨ c.volume = 0 then 0
  else if c.lfsr &&& 0x01#16 = 0 then c.volume
  else -c.volume

end ApuNoiseChannel

namespace CoreSound

variable (s : CoreSound)

/-- A register outside the cached ones is kept in the register file and loaded into the storage. -/
def writeIoRegister (address : Addr) (value : Byte) : CoreSound :=
  { s with
    registers := fun a => if a = address then value else s.registers a
    storage := fun a => if a = address then value else s.storage a }

def updateApuStatusRegister (masterEnabled : Bool) : CoreSound :=
  let bit (condition : Bool) (mask : Byte) : Byte := if condition then mask else 0
  s.writeIoRegister 0xFF26#16
    (bit masterEnabled 0x80 ||| 0x70#8 ||| (bit s.pulse1.enabled 0x01 ||| bit s.pulse2.enabled 0x02
      ||| bit s.wave.enabled 0x04 ||| bit s.noise.enabled 0x08))

def tickApuLengthCounters (masterEnabled : Bool) : CoreSound :=
  let (pulse1, off1) := s.pulse1.tickLength
  let (pulse2, off2) := s.pulse2.tickLength
  let (wave, off3) := s.wave.tickLength
  let (noise, off4) := s.noise.tickLength
  let s := { s with pulse1 := pulse1, pulse2 := pulse2, wave := wave, noise := noise }
  if off1 || off2 || off3 || off4 then s.updateApuStatusRegister masterEnabled else s

def tickApuSweep (masterEnabled : Bool) : CoreSound :=
  let (pulse1, refresh) := s.pulse1.tickSweep
  let s := { s with pulse1 := pulse1 }
  if refresh then s.updateApuStatusRegister masterEnabled else s

def stepApuFrameSequencer (masterEnabled : Bool) (step : ℕ) : CoreSound :=
  let s := if step &&& 0x01 = 0 then s.tickApuLengthCounters masterEnabled else s
  let s := if step = 2 ∨ step = 6 then s.tickApuSweep masterEnabled else s
  if step = 7 then
    { s with
      pulse1 := s.pulse1.tickEnvelope
      pulse2 := s.pulse2.tickEnvelope
      noise := s.noise.tickEnvelope }
  else s

def pushApuSample (masterEnabled : Bool) (s : CoreSound) : CoreSound :=
  let ch1 := s.pulse1.currentSample masterEnabled
  let ch2 := s.pulse2.currentSample masterEnabled
  let ch3 := s.wave.currentSample masterEnabled (((s.registers 0xFF1C#16) >>> 5).toNat % 4) s.storage
  let ch4 := s.noise.currentSample masterEnabled
  let nr50 := (s.registers 0xFF24#16).toNat
  let nr51 := s.registers 0xFF25#16
  let part (mask : Byte) (sample : ℤ) : ℤ := if nr51 &&& mask ≠ 0 then sample else 0
  let left := (part 0x10 ch1 + part 0x20 ch2 + part 0x40 ch3 + part 0x80 ch4) * (nr50 / 16 % 8 + 1)
  let right := (part 0x01 ch1 + part 0x02 ch2 + part 0x04 ch3 + part 0x08 ch4) * (nr50 % 8 + 1)
  let mixed := max (-32768) (min 32767 ((left + right) * 32))
  { s with
    recentSamples := fun i => if i = s.recentWriteCursor then mixed else s.recentSamples i
    recentWriteCursor := (s.recentWriteCursor + 1) % kApuHistorySamples
    recentSampleCount := min (s.recentSampleCount + 1) kApuHistorySamples }

/-- The channels' part of a cycle; `a` holds the counters of the audio unit before it. -/
def stepApuOneCycle (a : CoreApu) (s : CoreSound) : CoreSound :=
  let s := if a.masterEnabled then
      let s := if a.frameSequencerCounter + 1 ≥ 8192 then
        s.stepApuFrameSequencer a.masterEnabled a.frameSequencerStep else s
      { s with
        pulse1 := s.pulse1.tickTimer
        pulse2 := s.pulse2.tickTimer
        wave := s.wave.tickTimer
        noise := s.noise.tickTimer }
    else s
  (pushApuSample a.masterEnabled)^[(a.sampleAccumulator + kApuSampleRate) / kCpuClockHz] s

/-- A byte of an OAM transfer is copied every fourth cycle. -/
def dmaCopy (h : Hardware) (s : CoreSound) : CoreSound :=
  let byteIndex := h.dmaCycleProgress / 4
  if h.dmaActive ∧ h.dmaCycleProgress % 4 = 0 ∧ byteIndex < 0xA0 then
    let source := resolveEchoAddress (h.dmaSourceBase + BitVec.ofNat 16 byteIndex)
    let byte := if 0xFEA0#16 ≤ source ∧ source ≤ 0xFEFF#16 then 0xFF#8 else s.storage source
    let target : Addr := 0xFE00#16 + BitVec.ofNat 16 byteIndex
    { s with storage := fun a => if a = target then byte else s.storage a }
  else s

end CoreSound

end ProtoTime.GameBoy
