import ProtoTime.GameBoy.Apu
import ProtoTime.Transition

/-!
What the sound unit keeps beside its exported state: a stem of each voice for
every recent sample, and the voice events that wait to be taken. Recording an
event reads the channels and leaves them alone.
-/
namespace ProtoTime.GameBoy

inductive PsgVoiceKind where
  | tone | pulse | wave | noise
  deriving DecidableEq

inductive PsgEventKind where
  | stateSnapshot | gateOn | gateOff | retrigger | pitchChange | levelChange | routingChange
  | timbreChange | rawWrite
  deriving DecidableEq

structure PsgAudioEvent where
  sampleFrameOffset : ℕ := 0
  sequence : ℕ := 0
  voiceId : Fin 4 := 0
  voiceKind : PsgVoiceKind := .tone
  kind : PsgEventKind := .stateSnapshot
  frequencyMilliHz : ℕ := 0
  levelQ15 : ℕ := 0
  routingMask : Byte := 0
  timbre : ℕ := 0
  rawAddress : Addr := 0
  rawValue : Byte := 0
  gate : Bool := false
  hasRawWrite : Bool := false
  deriving DecidableEq

structure PendingEvent where
  event : PsgAudioEvent
  absoluteSampleFrame : ℕ
  deriving DecidableEq

/-- The whole unit: its exported state and what is kept beside it. -/
structure SoundUnit where
  apu : GameBoyAPU
  recentVoiceStems : Fin 4 → Fin 4096 → ℤ
  pendingEvents : List PendingEvent
  pendingEventDropCount : ℕ
  eventSequence : ℕ
  observedGateStates : Fin 4 → Bool

namespace GameBoyAPU

variable (a : GameBoyAPU)

/-- The left output is bit 0 and the right output bit 1. -/
def voiceRoutingMask (voice : Fin 4) : Byte :=
  (if a.nr51 &&& (0x10#8 <<< voice.val) ≠ 0 then 1 else 0) |||
    (if a.nr51 &&& (0x01#8 <<< voice.val) ≠ 0 then 2 else 0)

def channelLevelQ15 (voice : Fin 4) : ℕ :=
  match voice with
  | 0 => a.pulse1.volume * 32767 / 15
  | 1 => a.pulse2.volume * 32767 / 15
  | 2 =>
    if a.wave.outputLevel = 1 then 32767
    else if a.wave.outputLevel = 2 then 16384
    else if a.wave.outputLevel = 3 then 8192
    else 0
  | 3 => a.noise.volume * 32767 / 15

def effectiveVoiceLevelQ15 (voice : Fin 4) : ℕ :=
  let routing := a.voiceRoutingMask voice
  if routing = 0 ∨ a.channelLevelQ15 voice = 0 then 0
  else
    let leftGain := ((a.nr50 >>> 4) &&& 0x07#8).toNat + 1
    let rightGain := (a.nr50 &&& 0x07#8).toNat + 1
    let left := routing &&& 0x01#8 != 0
    let right := routing &&& 0x02#8 != 0
    let gainSum := (if left then leftGain else 0) + (if right then rightGain else 0)
    let routedOutputs := (if left then 1 else 0) + (if right then 1 else 0)
    let masterLevelQ15 := (gainSum * 32767 + 4 * routedOutputs) / (8 * routedOutputs)
    (a.channelLevelQ15 voice * masterLevelQ15 + 16383) / 32767 % 0x10000

def voiceGate (voice : Fin 4) : Bool :=
  match voice with
  | 0 => a.pulse1.enabled
  | 1 => a.pulse2.enabled
  | 2 => a.wave.enabled
  | 3 => a.noise.enabled

def voiceFrequencyMilliHz (voice : Fin 4) : ℕ :=
  let frequency (f : ℕ) : ℕ := max (2048 - f % 0x800) 1
  match voice with
  | 0 => 131072000 / frequency a.pulse1.frequency
  | 1 => 131072000 / frequency a.pulse2.frequency
  | 2 => 65536000 / frequency a.wave.frequency
  | 3 => 0

def voiceTimbre (voice : Fin 4) : ℕ :=
  match voice with
  | 0 => a.pulse1.duty
  | 1 => a.pulse2.duty
  | 2 => a.wave.outputLevel
  | 3 => (a.noise.clockShift <<< 4 ||| a.noise.divisorCode) % 256

def voiceKind (voice : Fin 4) : PsgVoiceKind :=
  if voice < 2 then .pulse else if voice = 2 then .wave else .noise

end GameBoyAPU

namespace SoundUnit

variable (u : SoundUnit)

def withApu (apu : GameBoyAPU) : SoundUnit := { u with apu := apu }

/-- The oldest waiting event makes room for a new one. -/
def recordVoiceEvent (voice : Fin 4) (kind : PsgEventKind)
    (rawAddress : Addr := 0) (rawValue : Byte := 0) (hasRawWrite : Bool := false) : SoundUnit :=
  let event : PsgAudioEvent :=
    { sequence := u.eventSequence + 1
      voiceId := voice
      voiceKind := GameBoyAPU.voiceKind voice
      kind := kind
      frequencyMilliHz := u.apu.voiceFrequencyMilliHz voice
      levelQ15 := u.apu.effectiveVoiceLevelQ15 voice
      routingMask := u.apu.voiceRoutingMask voice
      timbre := u.apu.voiceTimbre voice
      rawAddress := rawAddress
      rawValue := rawValue
      gate := u.apu.voiceGate voice
      hasRawWrite := hasRawWrite }
  let full := u.pendingEvents.length == kHistorySamples
  { u with
    eventSequence := u.eventSequence + 1
    pendingEvents := (if full then u.pendingEvents.tail else u.pendingEvents) ++
      [⟨event, u.apu.sampleCounter⟩]
    pendingEventDropCount :=
      if full then u.pendingEventDropCount + 1 else u.pendingEventDropCount }

def recordRawWriteEvent (voice : Fin 4) (address : Addr) (value : Byte) :
    SoundUnit := u.recordVoiceEvent voice .rawWrite address value true

/-- The four voices report in order. -/
def recordVoices (kind : PsgEventKind) (rawAddress : Addr := 0)
    (rawValue : Byte := 0) (hasRawWrite : Bool := false) : SoundUnit :=
  (List.finRange 4).foldl
    (fun u voice => u.recordVoiceEvent voice kind rawAddress rawValue hasRawWrite) u

def reset : SoundUnit :=
  { apu := .reset
    recentVoiceStems := fun _ _ => 0
    pendingEvents := []
    pendingEventDropCount := 0
    eventSequence := 0
    observedGateStates := fun _ => false : SoundUnit }.recordVoices .stateSnapshot

/-- The voice a register belongs to. -/
def voiceOf (address : Addr) : Fin 4 :=
  if 0xFF16#16 ≤ address ∧ address ≤ 0xFF19#16 then 1
  else if (0xFF1A#16 ≤ address ∧ address ≤ 0xFF1E#16) ∨
      (0xFF30#16 ≤ address ∧ address ≤ 0xFF3F#16) then 2
  else if 0xFF20#16 ≤ address ∧ address ≤ 0xFF23#16 then 3
  else 0

def recordWriteEvent (address : Addr) (value : Byte) : SoundUnit :=
  if address = 0xFF24#16 then
    (u.recordVoices .levelChange address value true).recordRawWriteEvent 0 address value
  else if address = 0xFF25#16 then
    (u.recordVoices .routingChange address value true).recordRawWriteEvent 0 address value
  else
    let voice := voiceOf address
    let trigger :=
      (address ∈ [0xFF14#16, 0xFF19#16, 0xFF1E#16, 0xFF23#16]) && value &&& 0x80#8 != 0
    let kind : PsgEventKind :=
      if address ∈ [0xFF13#16, 0xFF18#16, 0xFF1D#16, 0xFF14#16, 0xFF19#16, 0xFF1E#16,
          0xFF22#16] then
        if trigger then .retrigger else .pitchChange
      else if address ∈ [0xFF12#16, 0xFF17#16, 0xFF1C#16, 0xFF21#16] then .levelChange
      else if trigger then .retrigger
      else .timbreChange
    let gate := u.apu.voiceGate voice
    let kind :=
      if !trigger && gate != u.observedGateStates voice then
        if gate then .gateOn else .gateOff
      else kind
    { u with
      observedGateStates := Function.update u.observedGateStates voice gate }.recordVoiceEvent
        voice kind address value true |>.recordRawWriteEvent voice address value

def writeRegister (u : SoundUnit) (address : Addr) (value : Byte) : SoundUnit :=
  (u.withApu (u.apu.writeRegister address value)).recordWriteEvent address value

/-- A level change is reported when the volume moved. -/
def recordLevel (voice : Fin 4) (before after : ℕ) : SoundUnit :=
  if after ≠ before then u.recordVoiceEvent voice .levelChange else u

def tickEnvelopes : SoundUnit :=
  let pulse1 := GameBoyAPU.tickPulseEnvelope u.apu.pulse1
  let u := (u.withApu { u.apu with pulse1 := pulse1 }).recordLevel 0 u.apu.pulse1.volume
    pulse1.volume
  let pulse2 := GameBoyAPU.tickPulseEnvelope u.apu.pulse2
  let u := (u.withApu { u.apu with pulse2 := pulse2 }).recordLevel 1 u.apu.pulse2.volume
    pulse2.volume
  let noise := GameBoyAPU.tickNoiseEnvelope u.apu.noise
  (u.withApu { u.apu with noise := noise }).recordLevel 3 u.apu.noise.volume noise.volume

def stepFrameSequencer (u : SoundUnit) : SoundUnit :=
  if u.apu.frameSequencerStep = 7 then
    let u := u.tickEnvelopes
    u.withApu { u.apu with frameSequencerStep := (u.apu.frameSequencerStep + 1) % 8 }
  else u.withApu u.apu.stepFrameSequencer

def pushSample (u : SoundUnit) (sample : ℤ) (stems : List ℤ) : SoundUnit :=
  let cursor := Fin.ofNat 4096 u.apu.recentWriteCursor
  { u with
    apu := u.apu.pushSample sample
    recentVoiceStems := fun voice =>
      Function.update (u.recentVoiceStems voice) cursor (stems.getD voice 0) }

def drainAccumulator : SoundUnit :=
  u.withApu { u.apu with sampleAccumulator := u.apu.sampleAccumulator - kMasterClockHz }

/-- The stems are mixed into a sample and stored with it. -/
def emitSample : SoundUnit :=
  u.pushSample (GameBoyAPU.clampSample u.apu.currentVoiceContributions.sum)
    u.apu.currentVoiceContributions

/-- One turn of the accumulator loop. -/
def drainOnce : SoundUnit := u.drainAccumulator.emitSample

def emitSamples (count : ℕ) (u : SoundUnit) : SoundUnit := drainOnce^[count] u

def tickSequencer : SoundUnit :=
  if u.apu.frameSequencerCounter + 1 ≥ kCyclesPerFrameStep then
    (u.withApu { u.apu with frameSequencerCounter := 0 }).stepFrameSequencer
  else u.withApu { u.apu with frameSequencerCounter := u.apu.frameSequencerCounter + 1 }

def tickTimers : SoundUnit :=
  u.withApu { u.apu with
    pulse1 := GameBoyAPU.tickPulseTimer u.apu.pulse1
    pulse2 := GameBoyAPU.tickPulseTimer u.apu.pulse2
    wave := GameBoyAPU.tickWaveTimer u.apu.wave
    noise := GameBoyAPU.tickNoiseTimer u.apu.noise }

def addSampleRate : SoundUnit :=
  u.withApu { u.apu with sampleAccumulator := u.apu.sampleAccumulator + kSampleRate }

/-- One cycle up to the loop that emits samples. -/
def tickCycle : SoundUnit :=
  (if u.apu.masterEnabled then u.tickSequencer.tickTimers else u).addSampleRate

def stepOneCycle : SoundUnit :=
  emitSamples (u.tickCycle.apu.sampleAccumulator / kMasterClockHz) u.tickCycle

def step (cpuCycles : ℕ) (u : SoundUnit) : SoundUnit := stepOneCycle^[cpuCycles] u

def copyRecentSamples : List ℤ :=
  let start := (u.apu.recentWriteCursor + kHistorySamples - u.apu.recentSampleCount) %
    kHistorySamples
  (List.range u.apu.recentSampleCount).map fun i =>
    u.apu.recentSamples (Fin.ofNat 4096 (start + i))

def takeSamples : ℕ → SoundUnit → List ℤ × SoundUnit
  | 0, u => ([], u)
  | n + 1, u =>
    let sample := u.apu.recentSamples (Fin.ofNat 4096 u.apu.pendingReadCursor)
    let rest := takeSamples n (u.withApu { u.apu with
      pendingReadCursor := (u.apu.pendingReadCursor + 1) % kHistorySamples })
    (sample :: rest.1, rest.2)

def takePendingSamples : List ℤ × SoundUnit :=
  let taken := takeSamples u.apu.pendingSampleCount u
  (taken.1, taken.2.withApu { taken.2.apu with pendingSampleCount := 0 })

def copyStems (stems : Fin 4096 → ℤ) : ℕ → ℕ → List ℤ
  | 0, _ => []
  | n + 1, cursor =>
    stems (Fin.ofNat 4096 cursor) :: copyStems stems n ((cursor + 1) % kHistorySamples)

def copyPendingVoiceStems : List ℤ :=
  (List.finRange 4).flatMap fun voice =>
    copyStems (u.recentVoiceStems voice) u.apu.pendingSampleCount u.apu.pendingReadCursor

/-- The 32-bit offset of an event in a packet; an event from before the packet is at its start. -/
def eventOffset (firstSampleFrame : ℕ) (pending : PendingEvent) : ℕ :=
  (if pending.absoluteSampleFrame > firstSampleFrame then
    pending.absoluteSampleFrame - firstSampleFrame else 0) % 2 ^ 32

def takePendingEvents (firstSampleFrame : ℕ) : List PsgAudioEvent × SoundUnit :=
  (u.pendingEvents.map fun pending =>
      { pending.event with sampleFrameOffset := eventOffset firstSampleFrame pending },
    { u with pendingEvents := [] })

def takePendingEventDropCount : ℕ × SoundUnit :=
  (u.pendingEventDropCount, { u with pendingEventDropCount := 0 })

def firstSampleFrame : ℕ := u.apu.sampleCounter - u.apu.pendingSampleCount

structure RealtimeAudioPacket where
  frameCounter : ℕ
  firstSampleFrame : ℕ
  voiceStems : List ℤ
  events : List PsgAudioEvent
  psgEventDropCount : ℕ
  pcmSamples : List ℤ
  deriving DecidableEq

/-- Stems and events are taken before the samples, whose cursor they share. -/
def realtimeAudioPacket : RealtimeAudioPacket × SoundUnit :=
  let frameCounter := u.apu.frameCounter
  let firstSampleFrame := u.firstSampleFrame
  let voiceStems := u.copyPendingVoiceStems
  let (events, u) := u.takePendingEvents firstSampleFrame
  let (psgEventDropCount, u) := u.takePendingEventDropCount
  let (pcmSamples, u) := u.takePendingSamples
  ({ frameCounter, firstSampleFrame, voiceStems, events, psgEventDropCount, pcmSamples }, u)

@[simp] theorem recordVoiceEvent_apu (voice : Fin 4) (kind : PsgEventKind)
    (rawAddress : Addr) (rawValue : Byte) (hasRawWrite : Bool) :
    (u.recordVoiceEvent voice kind rawAddress rawValue hasRawWrite).apu = u.apu := rfl

@[simp] theorem withApu_apu (apu : GameBoyAPU) : (u.withApu apu).apu = apu := rfl

@[simp] theorem recordLevel_apu (voice : Fin 4) (before after : ℕ) :
    (u.recordLevel voice before after).apu = u.apu := by
  unfold recordLevel
  split <;> rfl

@[simp] theorem recordVoices_apu (kind : PsgEventKind) (rawAddress : Addr) (rawValue : Byte)
    (hasRawWrite : Bool) : (u.recordVoices kind rawAddress rawValue hasRawWrite).apu = u.apu := by
  induction List.finRange 4 generalizing u with
  | nil => rfl
  | cons voice voices ih => exact ih _

theorem recordWriteEvent_apu (address : Addr) (value : Byte) :
    (u.recordWriteEvent address value).apu = u.apu := by
  unfold recordWriteEvent recordRawWriteEvent
  by_cases hlevel : address = 0xFF24#16
  · rw [if_pos hlevel, recordVoiceEvent_apu, recordVoices_apu]
  · rw [if_neg hlevel]
    by_cases hrouting : address = 0xFF25#16
    · rw [if_pos hrouting, recordVoiceEvent_apu, recordVoices_apu]
    · rw [if_neg hrouting]
      rfl

theorem writeRegister_apu (address : Addr) (value : Byte) :
    (u.writeRegister address value).apu = u.apu.writeRegister address value :=
  recordWriteEvent_apu _ address value

/-- The accumulator loop for any clock. -/
def emitSamplesAt (clock : ℕ) : ℕ → GameBoyAPU → GameBoyAPU
  | 0, a => a
  | n + 1, a =>
    let a := { a with sampleAccumulator := a.sampleAccumulator - clock }
    emitSamplesAt clock n
      (a.pushSample (GameBoyAPU.clampSample a.currentVoiceContributions.sum))

theorem emitSamplesAt_kMasterClockHz :
    emitSamplesAt kMasterClockHz = GameBoyAPU.emitSamples := by
  delta emitSamplesAt GameBoyAPU.emitSamples
  rfl

end SoundUnit

/-! ## The clock of the sound unit -/

namespace GameBoyAPU
open Transition

variable {a : GameBoyAPU}

/-- A call of `step` is that many cycles. -/
inductive RegisterAction where
  | write (address : Addr) (value : Byte)
  | cycle
  deriving DecidableEq

def act (a : GameBoyAPU) : RegisterAction → GameBoyAPU
  | .write address value => a.writeRegister address value
  | .cycle => a.stepOneCycle

/-- A cycle without its samples. -/
def sequenced (a : GameBoyAPU) : GameBoyAPU :=
  if a.frameSequencerCounter + 1 ≥ kCyclesPerFrameStep then
    { a with frameSequencerCounter := 0 }.stepFrameSequencer
  else { a with frameSequencerCounter := a.frameSequencerCounter + 1 }

def ticked (a : GameBoyAPU) : GameBoyAPU :=
  if a.masterEnabled then
    { a.sequenced with
      pulse1 := tickPulseTimer a.sequenced.pulse1
      pulse2 := tickPulseTimer a.sequenced.pulse2
      wave := tickWaveTimer a.sequenced.wave
      noise := tickNoiseTimer a.sequenced.noise }
  else a

/-- The sample loop counts its samples and changes the ring. -/
theorem emitSamplesAt_eq (clock n : ℕ) (a : GameBoyAPU) : SoundUnit.emitSamplesAt clock n a =
    { a with
      sampleAccumulator := a.sampleAccumulator - n * clock
      sampleCounter := a.sampleCounter + n
      recentSamples := (SoundUnit.emitSamplesAt clock n a).recentSamples
      recentWriteCursor := (SoundUnit.emitSamplesAt clock n a).recentWriteCursor
      recentSampleCount := (SoundUnit.emitSamplesAt clock n a).recentSampleCount
      frameCounter := (SoundUnit.emitSamplesAt clock n a).frameCounter
      pendingSampleCount := (SoundUnit.emitSamplesAt clock n a).pendingSampleCount
      pendingReadCursor := (SoundUnit.emitSamplesAt clock n a).pendingReadCursor } := by
  induction n generalizing a with
  | zero => simp [SoundUnit.emitSamplesAt]
  | succ n ih =>
    refine (ih _).trans ?_
    simp only [pushSample, Nat.sub_sub, Nat.succ_mul, Nat.add_comm clock, Nat.add_right_comm _ 1 n]
    rfl

theorem stepOneCycle_eq (a : GameBoyAPU) : a.stepOneCycle =
    SoundUnit.emitSamplesAt kMasterClockHz ((a.ticked.sampleAccumulator + kSampleRate) /
      kMasterClockHz) { a.ticked with
        sampleAccumulator := a.ticked.sampleAccumulator + kSampleRate } := by
  rw [SoundUnit.emitSamplesAt_kMasterClockHz]
  unfold stepOneCycle ticked
  split <;> rfl

theorem ticked_timing (a : GameBoyAPU) : a.ticked.sampleAccumulator = a.sampleAccumulator ∧
    a.ticked.sampleCounter = a.sampleCounter ∧ a.ticked.masterEnabled = a.masterEnabled ∧
    a.ticked.frameSequencerCounter = if a.masterEnabled then
      (if a.frameSequencerCounter + 1 ≥ kCyclesPerFrameStep then 0
        else a.frameSequencerCounter + 1) else a.frameSequencerCounter := by
  have hstep (a : GameBoyAPU) : a.stepFrameSequencer.sampleAccumulator = a.sampleAccumulator ∧
      a.stepFrameSequencer.sampleCounter = a.sampleCounter ∧
      a.stepFrameSequencer.masterEnabled = a.masterEnabled ∧
      a.stepFrameSequencer.frameSequencerCounter = a.frameSequencerCounter := by
    unfold stepFrameSequencer
    dsimp only
    split <;> exact ⟨rfl, rfl, rfl, rfl⟩
  unfold ticked
  split
  · unfold sequenced
    split
    · exact hstep _
    · exact ⟨rfl, rfl, rfl, rfl⟩
  · exact ⟨rfl, rfl, rfl, rfl⟩

/-- The samples so far, with the accumulator's part of the next one. -/
def sampleTime (a : GameBoyAPU) : ℕ := a.sampleCounter * kMasterClockHz + a.sampleAccumulator

structure InStep (a : GameBoyAPU) : Prop where
  sample : a.sampleAccumulator < kMasterClockHz
  sequencer : a.frameSequencerCounter < kCyclesPerFrameStep

theorem inStep_stepOneCycle (h : a.InStep) : a.stepOneCycle.InStep ∧
    a.stepOneCycle.sampleTime = a.sampleTime + kSampleRate ∧
    a.stepOneCycle.masterEnabled = a.masterEnabled ∧
    a.stepOneCycle.frameSequencerCounter = if a.masterEnabled then
      (a.frameSequencerCounter + 1) % kCyclesPerFrameStep else a.frameSequencerCounter := by
  obtain ⟨haccumulator, hcount, hon, hcounter⟩ := a.ticked_timing
  have hstep : a.stepOneCycle.sampleAccumulator =
        (a.sampleAccumulator + kSampleRate) % kMasterClockHz ∧
      a.stepOneCycle.sampleCounter =
        a.sampleCounter + (a.sampleAccumulator + kSampleRate) / kMasterClockHz ∧
      a.stepOneCycle.masterEnabled = a.masterEnabled ∧
      a.stepOneCycle.frameSequencerCounter = a.ticked.frameSequencerCounter := by
    rw [stepOneCycle_eq, emitSamplesAt_eq, haccumulator, Nat.mod_eq_sub_div_mul]
    exact ⟨rfl, congrArg (· + _) hcount, hon, rfl⟩
  have hsequencer : a.stepOneCycle.frameSequencerCounter = if a.masterEnabled then
      (a.frameSequencerCounter + 1) % kCyclesPerFrameStep else a.frameSequencerCounter := by
    rw [hstep.2.2.2, hcounter]
    have hlt := h.sequencer
    unfold kCyclesPerFrameStep at *
    split_ifs <;> omega
  refine ⟨⟨?_, ?_⟩, ?_, hstep.2.2.1, hsequencer⟩
  · rw [hstep.1]
    exact Nat.mod_lt _ (by decide)
  · rw [hsequencer]
    split
    · exact Nat.mod_lt _ (by decide)
    · exact h.sequencer
  · have hdivide := Nat.div_add_mod' (a.sampleAccumulator + kSampleRate) kMasterClockHz
    rw [sampleTime, hstep.1, hstep.2.1, Nat.add_mul, sampleTime]
    omega

theorem inStep_writeRegister (h : a.InStep) (address : Addr) (value : Byte) :
    (a.writeRegister address value).InStep ∧
      (a.writeRegister address value).sampleTime = a.sampleTime := by
  have hpowered : (a.writePoweredRegister address value).InStep ∧
      (a.writePoweredRegister address value).sampleTime = a.sampleTime := by
    unfold writePoweredRegister
    split <;> exact ⟨⟨h.sample, h.sequencer⟩, rfl⟩
  unfold writeRegister
  dsimp only
  split_ifs
  · exact ⟨⟨h.sample, h.sequencer⟩, rfl⟩
  · exact ⟨⟨h.sample, h.sequencer⟩, rfl⟩
  · exact ⟨⟨h.sample, h.sequencer⟩, rfl⟩
  · exact hpowered
  · exact ⟨h, rfl⟩

theorem inStep_run (h : a.InStep) (actions : List RegisterAction) :
    (run act a actions).InStep ∧
      (run act a actions).sampleTime = a.sampleTime + actions.count .cycle * kSampleRate := by
  induction actions generalizing a with
  | nil => exact ⟨h, by rw [List.count_nil, Nat.zero_mul, Nat.add_zero, run_nil]⟩
  | cons action actions ih =>
    rw [run_cons]
    cases action with
    | write address value =>
      obtain ⟨hnext, htime⟩ := inStep_writeRegister h address value
      have hother : RegisterAction.write address value ≠ .cycle := nofun
      rw [List.count_cons_of_ne hother, ← htime]
      exact ih hnext
    | cycle =>
      obtain ⟨hnext, htime, -⟩ := inStep_stepOneCycle h
      rw [List.count_cons_self, Nat.succ_mul, Nat.add_comm (_ * _), ← Nat.add_assoc, ← htime]
      exact ih hnext

theorem inStep_reset : reset.InStep := ⟨by decide, by decide⟩

/-- Whatever is written, the samples of a run are its cycles at the sample rate. -/
theorem sampleCounter_run (actions : List RegisterAction) :
    (run act reset actions).sampleCounter =
      actions.count .cycle * kSampleRate / kMasterClockHz := by
  obtain ⟨hrun, htime⟩ := inStep_run inStep_reset actions
  have hlt := hrun.sample
  have hreset : reset.sampleTime = 0 := rfl
  rw [hreset, Nat.zero_add, sampleTime] at htime
  rw [← htime, Nat.add_comm, Nat.add_mul_div_right _ _ (by decide), Nat.div_eq_of_lt hlt,
    Nat.zero_add]

theorem step_timing (h : a.InStep) (k : ℕ) : (a.step k).InStep ∧
    (a.step k).sampleTime = a.sampleTime + k * kSampleRate ∧
    (a.masterEnabled → (a.step k).frameSequencerCounter =
      (a.frameSequencerCounter + k) % kCyclesPerFrameStep) := by
  induction k generalizing a with
  | zero =>
    rw [step, Function.iterate_zero_apply, Nat.zero_mul]
    exact ⟨h, (Nat.add_zero _).symm, fun _ => (Nat.mod_eq_of_lt h.sequencer).symm⟩
  | succ k ih =>
    obtain ⟨hnext, htime, hon, hcounter⟩ := inStep_stepOneCycle h
    obtain ⟨hstep, hlater, hsequencer⟩ := ih hnext
    refine ⟨hstep, ?_, fun hmaster => ?_⟩
    · rw [Nat.succ_mul, Nat.add_comm (_ * _), ← Nat.add_assoc, ← htime]
      exact hlater
    · rw [hon, hcounter, if_pos hmaster, Nat.mod_add_mod, Nat.add_right_comm] at hsequencer
      exact hsequencer hmaster

/-- In every run from the reset, the horizon is the first time at which there is a sample or a
turn of the sequencer. -/
theorem lt_horizon_iff_quiet (actions : List RegisterAction) (k : ℕ) :
    k < (run act reset actions).cyclesUntilNextEvent ↔
      ((run act reset actions).step k).sampleCounter = (run act reset actions).sampleCounter ∧
        ((run act reset actions).masterEnabled →
          ((run act reset actions).step k).frameSequencerCounter =
            (run act reset actions).frameSequencerCounter + k) := by
  have h := (inStep_run inStep_reset actions).1
  generalize run act reset actions = a at h ⊢
  obtain ⟨hstep, htime, hsequencer⟩ := step_timing h k
  have hlater := hstep.sample
  have hsample := h.sample
  have hcounter := h.sequencer
  unfold sampleTime at htime
  have hsame : (a.step k).sampleCounter = a.sampleCounter ↔
      a.sampleAccumulator + k * kSampleRate < kMasterClockHz := by
    constructor
    · intro heq
      rw [heq] at htime
      omega
    · unfold kMasterClockHz at *
      omega
  rw [hsame, cyclesUntilNextEvent, if_neg (by omega)]
  unfold kMasterClockHz kSampleRate kCyclesPerFrameStep at *
  by_cases hmaster : a.masterEnabled
  · have hturn := hsequencer hmaster
    rw [if_pos hmaster, hturn]
    simp only [hmaster, true_implies]
    omega
  · rw [if_neg hmaster, and_iff_left fun hon => absurd hon hmaster]
    omega

end GameBoyAPU

end ProtoTime.GameBoy
