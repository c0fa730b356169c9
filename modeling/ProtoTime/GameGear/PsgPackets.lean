import ProtoTime.GameGear.Psg
import ProtoTime.Transition
import ProtoTime.Results
import Mathlib.Data.List.GetD

/-!
Coherence of the sound packets: stems against samples, the reported first frame against the
frames generated, events against their chunk and against each other, over every run.
-/
namespace ProtoTime.GameGear
open Function GameBoy Transition Results

variable {C : Type}

/-- What the packets are compared with: the frames generated so far by the count of the last
import, the first frame of the pending chunk and of the recent one by that count, how many
leading frames of each came from a file without stems, the events recorded since the last
reset and the ones handed out with chunks. -/
structure PsgHistory where
  framesGenerated : ℕ := 0
  eventsRecorded : ℕ := 0
  currentStart : ℤ := 0
  currentUnvoiced : ℕ := 0
  recentStart : Option ℤ := none
  recentUnvoiced : ℕ := 0
  emitted : List PsgAudioEvent := []

structure PsgSession (C : Type) where
  psg : GameGearPSG C
  history : PsgHistory := {}

variable (osc : Oscillator C)

namespace PsgSession

def construct (osc : Oscillator C) : PsgSession C := { psg := .construct osc }

def reset (osc : Oscillator C) (s : PsgSession C) : PsgSession C :=
  { psg := s.psg.reset osc, history := { eventsRecorded := 4 } }

def record (s : PsgSession C) (psg : GameGearPSG C) (events : ℕ) : PsgSession C :=
  { psg := psg
    history := { s.history with eventsRecorded := s.history.eventsRecorded + events } }

def writeCompatRegister (osc : Oscillator C) (s : PsgSession C) (addr : Addr) (value : Byte) :
    PsgSession C :=
  { psg := s.psg.writeCompatRegister osc addr value
    history :=
      if addr = 0xFF26#16 ∧ value &&& 0x80#8 = 0 then
        { s.history with
          currentStart := s.history.framesGenerated
          currentUnvoiced := 0
          recentStart := none
          recentUnvoiced := 0 }
      else s.history }

def countFrame (s : PsgSession C) : PsgHistory :=
  { s.history with framesGenerated := s.history.framesGenerated + 1 }

def produceFrame (osc : Oscillator C) (s : PsgSession C) : PsgSession C :=
  let history := s.countFrame
  { psg := s.psg.produceFrame osc
    history :=
      if s.psg.currentFrameSamples.length + 2 ≥ 512 then
        { history with
          currentStart := history.framesGenerated
          currentUnvoiced := 0
          recentStart := some history.currentStart
          recentUnvoiced := history.currentUnvoiced
          emitted := history.emitted ++ s.psg.currentEvents }
      else history }

def step (osc : Oscillator C) (s : PsgSession C) (cpuCycles : BitVec 32) : PsgSession C :=
  let phase := (s.psg.samplePhase + cpuCycles.toNat * GameGearPSG.kSampleRate) % 2 ^ 64
  (produceFrame osc)^[phase / GameGearPSG.kClockHz]
    { s with psg := { s.psg with samplePhase := phase % GameGearPSG.kClockHz } }

/-- A refused import leaves the object as it was. -/
def importState (osc : Oscillator C) (s : PsgSession C) (state : PsgState C) : PsgSession C :=
  match s.psg.importState osc state with
  | .error _ => s
  | .ok psg =>
    let frames := state.samplesGeneratedTotal % 2 ^ 64 / 2
    { psg := psg
      history :=
        { s.history with
          framesGenerated := frames
          eventsRecorded := s.history.eventsRecorded + 4
          currentStart := frames - (state.currentFrameSamples.length / 2 : ℕ)
          currentUnvoiced := state.currentFrameSamples.length / 2
          recentStart := none
          recentUnvoiced := state.recentSamples.length } }

inductive Action (C : Type) where
  | reset
  | step (cpuCycles : BitVec 32)
  | writeData (value : Byte)
  | writeStereoControl (value : Byte)
  | writeCompatRegister (addr : Addr) (value : Byte)
  | writeWaveRam (addr : Addr) (value : Byte)
  | importState (state : PsgState C)

def perform (osc : Oscillator C) (s : PsgSession C) : Action C → PsgSession C
  | .reset => s.reset osc
  | .step cpuCycles => s.step osc cpuCycles
  | .writeData value => s.record (s.psg.writeData osc value) 2
  | .writeStereoControl value => s.record (s.psg.writeStereoControl value) 8
  | .writeCompatRegister addr value => s.writeCompatRegister osc addr value
  | .writeWaveRam addr value => { s with psg := s.psg.writeWaveRam addr value }
  | .importState state => s.importState osc state

/-- The run of frames in a session is the run of the object itself. -/
theorem step_psg (s : PsgSession C) (cpuCycles : BitVec 32) :
    (s.step osc cpuCycles).psg = s.psg.step osc cpuCycles := by
  have hframes (frames : ℕ) (s : PsgSession C) :
      ((produceFrame osc)^[frames] s).psg = (GameGearPSG.produceFrame osc)^[frames] s.psg := by
    induction frames generalizing s with
    | zero => rfl
    | succ frames ih =>
      exact ih (s.produceFrame osc)
  exact hframes _ _

/-- The sum over the voices of one frame's stems on one output channel. -/
def stemSum (stem : ℕ → ℤ) : ℤ := stem 0 + stem 1 + stem 2 + stem 3

structure ChunksCoherent (p : GameGearPSG C) (h : PsgHistory) : Prop where
  pending : p.currentFrameSamples.length % 2 = 0 ∧ p.currentFrameSamples.length < 512
  currentStems : p.currentVoiceStems.length = 4 * p.currentFrameSamples.length
  recentStems : p.recentVoiceStems.length = 4 * p.recentSamples.length
  currentVoiced : ∀ frame output, h.currentUnvoiced ≤ frame →
    2 * frame < p.currentFrameSamples.length → output < 2 →
    p.currentFrameSamples.getD (2 * frame + output) 0 = GameGearPSG.clampSample
      (stemSum fun voice => p.currentVoiceStems.getD ((frame * 4 + voice) * 2 + output) 0)
  recentVoiced : ∀ frame output, h.recentUnvoiced ≤ frame →
    2 * frame < p.recentSamples.length → output < 2 →
    p.recentSamples.getD (2 * frame + output) 0 = GameGearPSG.clampSample
      (stemSum fun voice =>
        p.recentVoiceStems.getD (voice * p.recentSamples.length + 2 * frame + output) 0)
  started : (h.framesGenerated : ℤ) = h.currentStart + (p.currentFrameSamples.length / 2 : ℕ)
  generated : p.samplesGeneratedTotal < 2 ^ 64 ∧
    p.samplesGeneratedTotal / 2 = h.framesGenerated % 2 ^ 63
  firstFrame : ∀ start, h.recentStart = some start → p.recentSamples.length = 512 ∧
    (start + 256 < 2 ^ 63 → (p.recentFirstSampleFrame : ℤ) = max 0 start)

structure EventsCoherent (p : GameGearPSG C) (h : PsgHistory) : Prop where
  currentOffsets : ∀ event ∈ p.currentEvents,
    2 * event.sampleFrameOffset ≤ p.currentFrameSamples.length
  recentOffsets : ∀ event ∈ p.recentEvents, 2 * event.sampleFrameOffset < p.recentSamples.length
  sequence : p.eventSequence = h.eventsRecorded % 2 ^ 64
  ordered : h.eventsRecorded < 2 ^ 64 →
    ((h.emitted ++ p.currentEvents).map PsgAudioEvent.sequence).Pairwise (· < ·) ∧
    ∀ event ∈ h.emitted ++ p.currentEvents, event.sequence ≤ h.eventsRecorded
  recentEmitted : p.recentEvents <:+ h.emitted

end PsgSession

variable (p : GameGearPSG C)

namespace GameGearPSG

structure SameChunks (p p' : GameGearPSG C) : Prop where
  currentFrameSamples : p'.currentFrameSamples = p.currentFrameSamples
  recentSamples : p'.recentSamples = p.recentSamples
  currentVoiceStems : p'.currentVoiceStems = p.currentVoiceStems
  recentVoiceStems : p'.recentVoiceStems = p.recentVoiceStems
  recentFirstSampleFrame : p'.recentFirstSampleFrame = p.recentFirstSampleFrame
  samplesGeneratedTotal : p'.samplesGeneratedTotal = p.samplesGeneratedTotal

structure SameEvents (p p' : GameGearPSG C) : Prop where
  currentEvents : p'.currentEvents = p.currentEvents
  recentEvents : p'.recentEvents = p.recentEvents
  eventSequence : p'.eventSequence = p.eventSequence

theorem SameChunks.refl : SameChunks p p := ⟨rfl, rfl, rfl, rfl, rfl, rfl⟩

theorem SameChunks.trans {p q r : GameGearPSG C} (h : SameChunks p q) (h' : SameChunks q r) :
    SameChunks p r :=
  ⟨h'.1.trans h.1, h'.2.trans h.2, h'.3.trans h.3, h'.4.trans h.4, h'.5.trans h.5, h'.6.trans h.6⟩

theorem SameEvents.refl : SameEvents p p := ⟨rfl, rfl, rfl⟩

theorem SameEvents.trans {p q r : GameGearPSG C} (h : SameEvents p q) (h' : SameEvents q r) :
    SameEvents p r := ⟨h'.1.trans h.1, h'.2.trans h.2, h'.3.trans h.3⟩

theorem recordWrite_sameChunks (address : Addr) (value : Byte) (voice : Fin 4)
    (kind : PsgEventKind) (hasRawWrite : Bool) :
    SameChunks p (p.recordWrite address value voice kind hasRawWrite) := by
  unfold recordWrite
  dsimp only
  split <;> exact ⟨rfl, rfl, rfl, rfl, rfl, rfl⟩

theorem recordWrite_recentEvents (address : Addr) (value : Byte)
    (voice : Fin 4) (kind : PsgEventKind) (hasRawWrite : Bool) :
    (p.recordWrite address value voice kind hasRawWrite).recentEvents = p.recentEvents := by
  unfold recordWrite
  dsimp only
  split <;> rfl

/-- How many events a write of this kind records. -/
def eventCount (kind : PsgEventKind) : ℕ := if kind = .stateSnapshot then 1 else 2

/-- The events added carry the next sequence numbers and the pending frame as their offset. -/
theorem recordWrite_currentEvents (address : Addr) (value : Byte)
    (voice : Fin 4) (kind : PsgEventKind) (hasRawWrite : Bool) : ∃ added,
    (p.recordWrite address value voice kind hasRawWrite).currentEvents =
      p.currentEvents ++ added ∧
    (∀ event ∈ added, event.sampleFrameOffset = p.currentFrameSamples.length / 2) ∧
    added.map PsgAudioEvent.sequence =
      (List.range (eventCount kind)).map (fun i => (p.eventSequence + 1 + i) % 2 ^ 64) ∧
    (p.recordWrite address value voice kind hasRawWrite).eventSequence =
      (p.eventSequence + eventCount kind) % 2 ^ 64 := by
  by_cases hkind : kind = .stateSnapshot
  · simp only [recordWrite, eventCount, hkind, ↓reduceIte]
    refine ⟨_, rfl, ?_, ?_, trivial⟩
    · intro event hevent
      rw [List.mem_singleton.mp hevent]
      simp [kOutputChannelCount]
    · simp
  · simp only [recordWrite, eventCount, hkind, ↓reduceIte]
    refine ⟨_, rfl, ?_, ?_, ?_⟩
    · intro event hevent
      simp only [List.mem_cons, List.not_mem_nil, or_false] at hevent
      rcases hevent with rfl | rfl
      · split <;> rfl
      · rfl
    · have hshown (event event' : PsgAudioEvent) (c : Prop) [Decidable c]
          (h : event'.sequence = event.sequence) :
          (if c then event' else event).sequence = event.sequence := by
        split
        · exact h
        · rfl
      simp only [List.map_cons, List.map_nil, List.range_succ, List.range_zero, List.nil_append,
        List.cons_append]
      rw [hshown]
      · simp only [Nat.add_zero, List.cons.injEq, and_true, true_and]
        omega
      · rfl
    · omega

end GameGearPSG

namespace PsgSession

open GameGearPSG

variable {p p' : GameGearPSG C} {h : PsgHistory}

theorem ChunksCoherent.of_same (hc : ChunksCoherent p h) (hs : SameChunks p p') {h' : PsgHistory}
    (hh : h' = { h with eventsRecorded := h'.eventsRecorded }) : ChunksCoherent p' h' := by
  rw [hh]
  constructor
  · rw [hs.currentFrameSamples]
    exact hc.pending
  · rw [hs.currentVoiceStems, hs.currentFrameSamples]
    exact hc.currentStems
  · rw [hs.recentVoiceStems, hs.recentSamples]
    exact hc.recentStems
  · rw [hs.currentVoiceStems, hs.currentFrameSamples]
    exact hc.currentVoiced
  · rw [hs.recentVoiceStems, hs.recentSamples]
    exact hc.recentVoiced
  · rw [hs.currentFrameSamples]
    exact hc.started
  · rw [hs.samplesGeneratedTotal]
    exact hc.generated
  · rw [hs.recentSamples, hs.recentFirstSampleFrame]
    exact hc.firstFrame

theorem EventsCoherent.of_same (he : EventsCoherent p h) (hc : SameChunks p p')
    (hs : SameEvents p p') : EventsCoherent p' h := by
  constructor
  · rw [hs.currentEvents, hc.currentFrameSamples]
    exact he.currentOffsets
  · rw [hs.recentEvents, hc.recentSamples]
    exact he.recentOffsets
  · rw [hs.eventSequence]
    exact he.sequence
  · rw [hs.currentEvents]
    exact he.ordered
  · rw [hs.recentEvents]
    exact he.recentEmitted

/-- Recording a write keeps the events coherent. -/
theorem EventsCoherent.recordWrite (he : EventsCoherent p h) (address : Addr) (value : Byte)
    (voice : Fin 4) (kind : PsgEventKind) (hasRawWrite : Bool) :
    EventsCoherent (p.recordWrite address value voice kind hasRawWrite)
      { h with eventsRecorded := h.eventsRecorded + eventCount kind } := by
  obtain ⟨added, hadded, hoffsets, hsequences, hnext⟩ :=
    recordWrite_currentEvents p address value voice kind hasRawWrite
  have hsame := recordWrite_sameChunks p address value voice kind hasRawWrite
  constructor
  · intro event hevent
    rw [hadded] at hevent
    rw [hsame.currentFrameSamples]
    rcases List.mem_append.mp hevent with hold | hnew
    · exact he.currentOffsets event hold
    · rw [hoffsets event hnew]
      omega
  · rw [recordWrite_recentEvents, hsame.recentSamples]
    exact he.recentOffsets
  · rw [hnext, he.sequence]
    exact Nat.mod_add_mod _ _ _
  · intro hlt
    dsimp only at hlt
    obtain ⟨hsorted, hbound⟩ := he.ordered (by omega)
    have hsequence : p.eventSequence = h.eventsRecorded := by
      rw [he.sequence]
      omega
    have hexact : added.map PsgAudioEvent.sequence =
        (List.range (eventCount kind)).map fun i => h.eventsRecorded + 1 + i := by
      rw [hsequences]
      apply List.map_congr_left
      intro i hi
      have := List.mem_range.mp hi
      rw [hsequence]
      exact Nat.mod_eq_of_lt (by omega)
    have hnewBounds : ∀ event ∈ added, h.eventsRecorded < event.sequence ∧
        event.sequence ≤ h.eventsRecorded + eventCount kind := by
      intro event hevent
      have hmem : event.sequence ∈ added.map PsgAudioEvent.sequence := List.mem_map_of_mem hevent
      rw [hexact] at hmem
      obtain ⟨i, hi, hieq⟩ := List.mem_map.mp hmem
      have := List.mem_range.mp hi
      omega
    rw [hadded, ← List.append_assoc]
    constructor
    · rw [List.map_append]
      refine List.pairwise_append.mpr ⟨hsorted, ?_, ?_⟩
      · rw [hexact]
        refine List.Pairwise.map _ ?_ List.pairwise_lt_range
        intro a b hab
        omega
      · intro a ha b hb
        obtain ⟨old, hold, rfl⟩ := List.mem_map.mp ha
        obtain ⟨new, hnew, rfl⟩ := List.mem_map.mp hb
        have := hbound old hold
        have := (hnewBounds new hnew).1
        omega
    · intro event hevent
      rcases List.mem_append.mp hevent with hold | hnew
      · have := hbound event hold
        exact Nat.le_trans this (Nat.le_add_right _ _)
      · exact (hnewBounds event hnew).2
  · rw [recordWrite_recentEvents]
    exact he.recentEmitted

end PsgSession

namespace GameGearPSG

/-- What one channel adds to the left output. -/
def leftPart (p : GameGearPSG C) (channel : Fin 4) : ℤ :=
  if p.channelRoutedLeft channel then p.contribution channel else 0

def rightPart (p : GameGearPSG C) (channel : Fin 4) : ℤ :=
  if p.channelRoutedRight channel then p.contribution channel else 0

theorem channelAmplitude_bounds (channel : Fin 4) :
    0 ≤ p.channelAmplitude channel ∧ p.channelAmplitude channel ≤ 8192 := by
  have htable : ∀ i < 16, 0 ≤ kAttenuationTable.getD i 0 ∧ kAttenuationTable.getD i 0 ≤ 8192 := by
    decide
  exact htable _ (by omega)

/-- A single contribution is never clamped. -/
theorem clampSample_contribution (channel : Fin 4) :
    clampSample (p.contribution channel) = p.contribution channel := by
  obtain ⟨hlow, hhigh⟩ := p.channelAmplitude_bounds channel
  have hbounds : -8192 ≤ p.contribution channel ∧ p.contribution channel ≤ 8192 := by
    simp only [contribution, signedAmplitude]
    split_ifs <;> omega
  unfold clampSample
  omega

theorem stems_eq (channel : Fin 4) :
    p.stems channel = [p.leftPart channel, p.rightPart channel] := by
  simp only [stems, leftPart, rightPart, clampSample_contribution]

theorem mixTone_eq (mix : ℤ × ℤ) (channel : Fin 3) :
    p.mixTone mix channel =
      (mix.1 + p.leftPart channel.castSucc, mix.2 + p.rightPart channel.castSucc) := by
  have hlt : (channel.castSucc : Fin 4).val < 3 := channel.isLt
  have hsame : (⟨(channel.castSucc : Fin 4).val, hlt⟩ : Fin 3) = channel := Fin.ext rfl
  have hcondition : (!(p.tones channel).enabled ||
      decide ((p.tones channel).attenuation ≥ 0x0F)) = !p.audible channel := by
    have hge : ((p.tones channel).attenuation ≥ 0x0F) ↔
        ¬ (p.tones channel).attenuation < 0x0F := BitVec.not_lt.symm
    simp only [audible, Bool.not_and, hge, decide_not]
  simp only [mixTone, leftPart, rightPart, contribution, hlt, ↓reduceDIte, hsame, hcondition]
  cases p.audible channel
  · simp
  · simp only [Bool.not_true, Bool.false_eq_true, ↓reduceIte]
    split_ifs <;> simp

/-- The mixed frame is the clamped sum of its stems. -/
theorem mixFrame_eq : p.mixFrame =
    (clampSample (p.leftPart 0 + p.leftPart 1 + p.leftPart 2 + p.leftPart 3),
      clampSample (p.rightPart 0 + p.rightPart 1 + p.rightPart 2 + p.rightPart 3)) := by
  have hnoise : p.contribution 3 =
      if p.noiseAttenuation < 0x0F then p.signedAmplitude 3 p.noiseOutputHigh else 0 :=
    dif_neg (show ¬ (3 : Fin 4).val < 3 by decide)
  have hleft : p.leftPart 3 = if p.channelRoutedLeft 3 then
      (if p.noiseAttenuation < 0x0F then p.signedAmplitude 3 p.noiseOutputHigh else 0)
      else 0 := by rw [leftPart, hnoise]
  have hright : p.rightPart 3 = if p.channelRoutedRight 3 then
      (if p.noiseAttenuation < 0x0F then p.signedAmplitude 3 p.noiseOutputHigh else 0)
      else 0 := by rw [rightPart, hnoise]
  have hzero : (0 : Fin 3).castSucc = (0 : Fin 4) := rfl
  have hone : (1 : Fin 3).castSucc = (1 : Fin 4) := rfl
  have htwo : (2 : Fin 3).castSucc = (2 : Fin 4) := rfl
  rw [hleft, hright]
  simp only [mixFrame, List.foldl_cons, List.foldl_nil, mixTone_eq, zero_add, hzero, hone, htwo]
  split_ifs <;> simp

theorem advanceGenerators_sameChunks : SameChunks p (p.advanceGenerators osc) := by
  have hshift (toggles : ℕ) (q : GameGearPSG C) (hq : SameChunks p q) :
      SameChunks p (shiftNoise^[toggles] q) := by
    induction toggles generalizing q with
    | zero => exact hq
    | succ toggles ih =>
      exact ih q.shiftNoise ⟨hq.1, hq.2, hq.3, hq.4, hq.5, hq.6⟩
  unfold advanceGenerators
  dsimp only
  split
  · exact ⟨rfl, rfl, rfl, rfl, rfl, rfl⟩
  · exact hshift _ _ ⟨rfl, rfl, rfl, rfl, rfl, rfl⟩

theorem advanceGenerators_sameEvents : SameEvents p (p.advanceGenerators osc) := by
  have hshift (toggles : ℕ) (q : GameGearPSG C) (hq : SameEvents p q) :
      SameEvents p (shiftNoise^[toggles] q) := by
    induction toggles generalizing q with
    | zero => exact hq
    | succ toggles ih =>
      exact ih q.shiftNoise ⟨hq.1, hq.2, hq.3⟩
  unfold advanceGenerators
  dsimp only
  split
  · exact ⟨rfl, rfl, rfl⟩
  · exact hshift _ _ ⟨rfl, rfl, rfl⟩

/-- What a frame adds to the pending chunk, whatever the generators are doing. -/
theorem appendFrame_eq :
    ∃ left right : Fin 4 → ℤ,
      (p.appendFrame osc).currentFrameSamples = p.currentFrameSamples ++
        [clampSample (left 0 + left 1 + left 2 + left 3),
          clampSample (right 0 + right 1 + right 2 + right 3)] ∧
      (p.appendFrame osc).currentVoiceStems = p.currentVoiceStems ++
        [left 0, right 0, left 1, right 1, left 2, right 2, left 3, right 3] ∧
      (p.appendFrame osc).recentSamples = p.recentSamples ∧
      (p.appendFrame osc).recentVoiceStems = p.recentVoiceStems ∧
      (p.appendFrame osc).recentFirstSampleFrame = p.recentFirstSampleFrame ∧
      (p.appendFrame osc).samplesGeneratedTotal = (p.samplesGeneratedTotal + 2) % 2 ^ 64 ∧
      SameEvents p (p.appendFrame osc) := by
  have hc := p.advanceGenerators_sameChunks osc
  have he := p.advanceGenerators_sameEvents osc
  refine ⟨(p.advanceGenerators osc).leftPart, (p.advanceGenerators osc).rightPart, ?_, ?_,
    hc.recentSamples, hc.recentVoiceStems, hc.recentFirstSampleFrame, ?_, he.1, he.2, he.3⟩
  · simp only [appendFrame, mixFrame_eq, hc.currentFrameSamples]
  · simp only [appendFrame, stems_eq, hc.currentVoiceStems, List.flatMap_cons, List.flatMap_nil,
      List.cons_append, List.nil_append]
  · simp only [appendFrame, hc.samplesGeneratedTotal]

/-- The transposed stems: one run of 512 samples for each voice. -/
theorem voiceMajor_getD (stems : List ℤ) {voice frame output : ℕ} (hvoice : voice < 4)
    (hframe : 2 * frame < 512) (houtput : output < 2) :
    (voiceMajor stems).getD (voice * 512 + 2 * frame + output) 0 =
      stems.getD ((frame * 4 + voice) * 2 + output) 0 := by
  have hlt : voice * 512 + 2 * frame + output < 2048 := by omega
  have hindex : ((voice * 512 + 2 * frame + output) / 2 % 256 * 4 +
      (voice * 512 + 2 * frame + output) / 512) * 2 + (voice * 512 + 2 * frame + output) % 2 =
      (frame * 4 + voice) * 2 + output := by omega
  rw [voiceMajor, List.getD_eq_getElem?_getD, List.getElem?_map,
    List.getElem?_range (show _ < kFramesPerChunk * kOutputChannelCount * 4 from hlt)]
  simp only [Option.map_some, Option.getD_some, kFramesPerChunk, kOutputChannelCount]
  rw [hindex]

theorem voiceMajor_length (stems : List ℤ) : (voiceMajor stems).length = 2048 := by
  simp [voiceMajor, kFramesPerChunk, kOutputChannelCount]

end GameGearPSG

namespace PsgSession

open GameGearPSG

variable {p p' : GameGearPSG C} {h : PsgHistory}

/-- With one more frame, a pending chunk of even length still is the clamped sum of its stems. -/
theorem voiced_append {samples stems : List ℤ} {unvoiced : ℕ} (left right : ℕ → ℤ)
    (heven : samples.length % 2 = 0) (hlength : stems.length = 4 * samples.length)
    (hvoiced : ∀ frame output, unvoiced ≤ frame → 2 * frame < samples.length → output < 2 →
      samples.getD (2 * frame + output) 0 =
        clampSample (stemSum fun voice => stems.getD ((frame * 4 + voice) * 2 + output) 0))
    {frame output : ℕ} (hfrom : unvoiced ≤ frame) (hframe : 2 * frame < samples.length + 2)
    (houtput : output < 2) :
    (samples ++ [clampSample (stemSum left), clampSample (stemSum right)]).getD
        (2 * frame + output) 0 =
      clampSample (stemSum fun voice =>
        (stems ++ [left 0, right 0, left 1, right 1, left 2, right 2, left 3, right 3]).getD
          ((frame * 4 + voice) * 2 + output) 0) := by
  rcases Nat.lt_or_ge (2 * frame) samples.length with hold | hnew
  · have hstem (voice : ℕ) (hv : voice < 4) :
        (stems ++ [left 0, right 0, left 1, right 1, left 2, right 2, left 3, right 3]).getD
          ((frame * 4 + voice) * 2 + output) 0 = stems.getD ((frame * 4 + voice) * 2 + output) 0 :=
      List.getD_append _ _ _ _ (by omega)
    rw [List.getD_append _ _ _ _ (by omega), hvoiced frame output hfrom hold houtput]
    simp only [stemSum]
    rw [hstem 0 (by omega), hstem 1 (by omega), hstem 2 (by omega), hstem 3 (by omega)]
  · have hstem (voice : ℕ) :
        (stems ++ [left 0, right 0, left 1, right 1, left 2, right 2, left 3, right 3]).getD
          ((frame * 4 + voice) * 2 + output) 0 =
        [left 0, right 0, left 1, right 1, left 2, right 2, left 3, right 3].getD
          (voice * 2 + output) 0 := by
      rw [List.getD_append_right _ _ _ _ (by omega)]
      congr 1
      omega
    rw [List.getD_append_right _ _ _ _ (by omega), show 2 * frame + output - samples.length = output
      by omega]
    simp only [stemSum, hstem]
    rcases Nat.lt_or_ge output 1 with h0 | h1
    · obtain rfl : output = 0 := by omega
      rfl
    · obtain rfl : output = 1 := by omega
      rfl

theorem appendFrame_length (s : PsgSession C) :
    (s.psg.appendFrame osc).currentFrameSamples.length =
      s.psg.currentFrameSamples.length + 2 := by
  obtain ⟨left, right, hsamples, -⟩ := s.psg.appendFrame_eq osc
  rw [hsamples, List.length_append]
  rfl

variable {s : PsgSession C}

/-- The frame that fills the chunk. -/
theorem produceFrame_full (hfull : s.psg.currentFrameSamples.length + 2 ≥ 512) :
    s.produceFrame osc =
      { psg := (s.psg.appendFrame osc).emitChunk
        history :=
          { s.countFrame with
            currentStart := s.countFrame.framesGenerated
            currentUnvoiced := 0
            recentStart := some s.countFrame.currentStart
            recentUnvoiced := s.countFrame.currentUnvoiced
            emitted := s.countFrame.emitted ++ s.psg.currentEvents } } := by
  simp only [PsgSession.produceFrame, GameGearPSG.produceFrame, s.appendFrame_length]
  rw [if_pos hfull, if_pos (by exact hfull)]

theorem produceFrame_room (hroom : ¬ s.psg.currentFrameSamples.length + 2 ≥ 512) :
    s.produceFrame osc = ⟨s.psg.appendFrame osc, s.countFrame⟩ := by
  simp only [PsgSession.produceFrame, GameGearPSG.produceFrame, s.appendFrame_length]
  rw [if_neg hroom, if_neg (by exact hroom)]

/-- One more frame, and a full chunk becomes the recent one. -/
theorem ChunksCoherent.produceFrame (hc : ChunksCoherent s.psg s.history) :
    ChunksCoherent (s.produceFrame osc).psg (s.produceFrame osc).history := by
  obtain ⟨left, right, hsamples, hstems, hrecent, hrecentStems, hfirst, htotal, -⟩ :=
    s.psg.appendFrame_eq osc
  obtain ⟨heven, hlt⟩ := hc.pending
  have hcount := hc.generated
  have hstarted := hc.started
  have hlength := s.appendFrame_length osc
  have hstemLength : (s.psg.appendFrame osc).currentVoiceStems.length =
      4 * (s.psg.currentFrameSamples.length + 2) := by
    rw [hstems, List.length_append, hc.currentStems]
    simp only [List.length_cons, List.length_nil]
    omega
  have hvoiced (frame output : ℕ) (hfrom : s.history.currentUnvoiced ≤ frame)
      (hframe : 2 * frame < s.psg.currentFrameSamples.length + 2) (houtput : output < 2) :
      (s.psg.appendFrame osc).currentFrameSamples.getD (2 * frame + output) 0 =
        clampSample (stemSum fun voice =>
          (s.psg.appendFrame osc).currentVoiceStems.getD ((frame * 4 + voice) * 2 + output) 0) := by
    rw [hsamples, hstems]
    exact voiced_append (fun i => left (Fin.ofNat 4 i)) (fun i => right (Fin.ofNat 4 i)) heven
      hc.currentStems hc.currentVoiced hfrom hframe houtput
  by_cases hfull : s.psg.currentFrameSamples.length + 2 ≥ 512
  · have hlast : s.psg.currentFrameSamples.length = 510 := by omega
    have htake : (s.psg.appendFrame osc).emitChunk.recentSamples =
        (s.psg.appendFrame osc).currentFrameSamples :=
      List.take_of_length_le (by rw [hlength, hlast]; decide)
    have hturned : (s.psg.appendFrame osc).emitChunk.recentVoiceStems =
        voiceMajor (s.psg.appendFrame osc).currentVoiceStems := by simp only [emitChunk]
    rw [produceFrame_full osc hfull]
    refine ⟨by simp [emitChunk], rfl, ?_, ?_, ?_, ?_, ?_, ?_⟩
    · rw [hturned, voiceMajor_length, htake, hlength, hlast]
    · intro frame output _ hframe
      exact absurd hframe (Nat.not_lt_zero _)
    · intro frame output hfrom hframe houtput
      rw [htake, hlength, hlast] at hframe
      rw [htake, hvoiced frame output hfrom (by omega) houtput, hlength, hlast]
      have hwidth : 510 + 2 = 512 := rfl
      simp only [stemSum, hturned, hwidth] at hframe ⊢
      rw [voiceMajor_getD _ (by omega) hframe houtput, voiceMajor_getD _ (by omega) hframe houtput,
        voiceMajor_getD _ (by omega) hframe houtput, voiceMajor_getD _ (by omega) hframe houtput]
    · simp [emitChunk]
    · simp only [emitChunk, countFrame, htotal]
      omega
    · intro start hstart
      refine ⟨by rw [htake, hlength, hlast], ?_⟩
      intro hbound
      simp only [countFrame, Option.some.injEq] at hstart
      simp only [emitChunk, htotal, kOutputChannelCount, kFramesPerChunk]
      rw [hlast] at hstarted
      subst hstart
      split_ifs <;> omega
  · rw [produceFrame_room osc hfull]
    refine ⟨?_, ?_, ?_, ?_, ?_, ?_, ?_, ?_⟩
    · rw [hlength]
      omega
    · rw [hstemLength, hlength]
    · rw [hrecentStems, hrecent]
      exact hc.recentStems
    · rw [hlength]
      exact hvoiced
    · rw [hrecentStems, hrecent]
      exact hc.recentVoiced
    · rw [hlength]
      simp only [countFrame]
      omega
    · rw [htotal]
      simp only [countFrame]
      omega
    · rw [hrecent, hfirst]
      exact hc.firstFrame

end PsgSession

end ProtoTime.GameGear
