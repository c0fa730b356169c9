import ProtoTime.GameGear.PsgPackets

/-!
Every operation of the sound generator keeps its packets coherent.
-/
namespace ProtoTime.GameGear
open Function GameBoy Transition Results

variable {C : Type} (osc : Oscillator C)

namespace GameGearPSG

structure Quiet (p p' : GameGearPSG C) : Prop where
  chunks : SameChunks p p'
  events : SameEvents p p'

theorem Quiet.trans {p q r : GameGearPSG C} (h : Quiet p q) (h' : Quiet q r) : Quiet p r :=
  ⟨h.chunks.trans h'.chunks, h.events.trans h'.events⟩

section

variable (p : GameGearPSG C)

theorem quiet_latch (value : Byte) :
    Quiet p (p.latch osc value) := by
  unfold latch
  dsimp only
  split
  · split <;> exact ⟨⟨rfl, rfl, rfl, rfl, rfl, rfl⟩, rfl, rfl, rfl⟩
  · split <;> exact ⟨⟨rfl, rfl, rfl, rfl, rfl, rfl⟩, rfl, rfl, rfl⟩

theorem quiet_latchedData (value : Byte) : Quiet p (p.latchedData value) := by
  unfold latchedData
  split
  · exact ⟨⟨rfl, rfl, rfl, rfl, rfl, rfl⟩, rfl, rfl, rfl⟩
  · exact ⟨.refl p, .refl p⟩

theorem quiet_updateCompatStatus : Quiet p p.updateCompatStatus :=
  ⟨⟨rfl, rfl, rfl, rfl, rfl, rfl⟩, rfl, rfl, rfl⟩

theorem writeData_eq (value : Byte) :
    ∃ q kind, Quiet p q ∧ eventCount kind = 2 ∧
      p.writeData osc value = q.recordWrite 0x007F#16 value q.latchedChannel kind true := by
  have hregisters : Quiet p (if value &&& 0x80#8 ≠ 0 then p.latch osc value
      else p.latchedData value) := by
    split
    · exact quiet_latch osc p value
    · exact quiet_latchedData p value
  refine ⟨_, _, hregisters.trans (quiet_updateCompatStatus _), ?_, rfl⟩
  unfold eventCount
  split_ifs <;> simp_all

/-- A compatibility write either is quiet or switches the sound off. -/
theorem writeCompatRegister_eq (addr : Addr) (value : Byte) : ∃ q, Quiet p q ∧
      if addr = 0xFF26#16 ∧ value &&& 0x80#8 = 0 then
        Quiet q.powerOff (p.writeCompatRegister osc addr value)
      else Quiet q (p.writeCompatRegister osc addr value) := by
  by_cases hout : addr < 0xFF10#16 ∨ addr > 0xFF26#16
  · have hne : ¬ (addr = 0xFF26#16 ∧ value &&& 0x80#8 = 0) := by
      rintro ⟨rfl, -⟩
      revert hout
      decide
    refine ⟨p, ⟨.refl p, .refl p⟩, ?_⟩
    rw [if_neg hne]
    simp only [writeCompatRegister, if_pos hout]
    exact ⟨.refl p, .refl p⟩
  · simp only [writeCompatRegister, if_neg hout]
    generalize hq : ({ p with
      compatRegisters :=
        update p.compatRegisters (Fin.ofNat 0x17 (addr - 0xFF10#16).toNat) value } :
      GameGearPSG C) = q
    have hquiet : Quiet p q := by
      rw [← hq]
      exact ⟨⟨rfl, rfl, rfl, rfl, rfl, rfl⟩, rfl, rfl, rfl⟩
    refine ⟨q, hquiet, ?_⟩
    by_cases hoff : addr = 0xFF26#16 ∧ value &&& 0x80#8 = 0
    · have h12 : addr ≠ 0xFF12#16 := by rw [hoff.1]; decide
      have h13 : addr ≠ 0xFF13#16 := by rw [hoff.1]; decide
      have h14 : addr ≠ 0xFF14#16 := by rw [hoff.1]; decide
      rw [if_pos hoff, if_neg h12, if_neg h13, if_neg h14, if_pos hoff]
      exact quiet_updateCompatStatus _
    · rw [if_neg hoff, if_neg hoff]
      refine Quiet.trans ?_ (quiet_updateCompatStatus _)
      split
      · exact ⟨⟨rfl, rfl, rfl, rfl, rfl, rfl⟩, rfl, rfl, rfl⟩
      · split
        · exact ⟨⟨rfl, rfl, rfl, rfl, rfl, rfl⟩, rfl, rfl, rfl⟩
        · split
          · unfold applyCompatToneHigh
            split <;> exact ⟨⟨rfl, rfl, rfl, rfl, rfl, rfl⟩, rfl, rfl, rfl⟩
          · exact ⟨.refl _, .refl _⟩

theorem quiet_writeWaveRam (addr : Addr) (value : Byte) :
    Quiet p (p.writeWaveRam addr value) := by
  unfold writeWaveRam
  split
  · exact ⟨.refl p, .refl p⟩
  · exact ⟨⟨rfl, rfl, rfl, rfl, rfl, rfl⟩, rfl, rfl, rfl⟩

end

end GameGearPSG

namespace PsgSession

open GameGearPSG

structure Coherent (s : PsgSession C) : Prop where
  chunks : ChunksCoherent s.psg s.history
  events : EventsCoherent s.psg s.history

variable {s : PsgSession C}

theorem EventsCoherent.produceFrame
    (hc : ChunksCoherent s.psg s.history) (he : EventsCoherent s.psg s.history) :
    EventsCoherent (s.produceFrame osc).psg (s.produceFrame osc).history := by
  obtain ⟨left, right, hsamples, -, hrecent, -, -, -, hsame⟩ := s.psg.appendFrame_eq osc
  obtain ⟨heven, hlt⟩ := hc.pending
  have hlength := s.appendFrame_length osc
  by_cases hfull : s.psg.currentFrameSamples.length + 2 ≥ 512
  · have htake : (s.psg.appendFrame osc).emitChunk.recentSamples =
        (s.psg.appendFrame osc).currentFrameSamples := by
      apply List.take_of_length_le
      simp only [hlength, kFramesPerChunk, kOutputChannelCount]
      omega
    rw [produceFrame_full osc hfull]
    constructor
    · intro event hevent
      simp [emitChunk] at hevent
    · intro event hevent
      simp only [emitChunk, hsame.currentEvents] at hevent
      have hoffset := he.currentOffsets event hevent
      rw [htake, hlength]
      omega
    · simp only [emitChunk, hsame.eventSequence]
      exact he.sequence
    · intro hbound
      simp only [emitChunk, List.append_nil]
      exact he.ordered hbound
    · simp only [emitChunk, hsame.currentEvents]
      exact List.suffix_append _ _
  · rw [produceFrame_room osc hfull]
    constructor
    · intro event hevent
      rw [hsame.currentEvents] at hevent
      have hoffset := he.currentOffsets event hevent
      rw [hlength]
      omega
    · rw [hsame.recentEvents, hrecent]
      exact he.recentOffsets
    · rw [hsame.eventSequence]
      exact he.sequence
    · rw [hsame.currentEvents]
      exact he.ordered
    · rw [hsame.recentEvents]
      exact he.recentEmitted

section

variable (hs : Coherent s)

include hs

theorem Coherent.produceFrame :
    Coherent (s.produceFrame osc) :=
  ⟨hs.chunks.produceFrame osc, hs.events.produceFrame osc hs.chunks⟩

theorem Coherent.quiet {psg : GameGearPSG C}
    (hq : GameGearPSG.Quiet s.psg psg) : Coherent { s with psg := psg } :=
  ⟨hs.chunks.of_same hq.chunks rfl, hs.events.of_same hq.chunks hq.events⟩

theorem Coherent.step (cpuCycles : BitVec 32) : Coherent (s.step osc cpuCycles) := by
  have hframes (frames : ℕ) (t : PsgSession C) (ht : Coherent t) :
      Coherent ((PsgSession.produceFrame osc)^[frames] t) := by
    induction frames generalizing t with
    | zero => exact ht
    | succ frames ih =>
      exact ih _ (ht.produceFrame osc)
  exact hframes _ _ (hs.quiet ⟨⟨rfl, rfl, rfl, rfl, rfl, rfl⟩, rfl, rfl, rfl⟩)

theorem Coherent.recordWrite (address : Addr) (value : Byte)
    (voice : Fin 4) (kind : PsgEventKind) (hasRawWrite : Bool) :
    Coherent (s.record (s.psg.recordWrite address value voice kind hasRawWrite)
      (eventCount kind)) :=
  ⟨hs.chunks.of_same (recordWrite_sameChunks s.psg address value voice kind hasRawWrite) rfl,
    hs.events.recordWrite address value voice kind hasRawWrite⟩

theorem Coherent.recordVoices (address : Addr)
    (value : Byte) (kind : PsgEventKind) (hasRawWrite : Bool) (voices : List (Fin 4)) :
    Coherent (s.record (voices.foldl
      (fun p voice => p.recordWrite address value voice kind hasRawWrite) s.psg)
      (voices.length * eventCount kind)) := by
  induction voices generalizing s with
  | nil => simpa [record] using hs
  | cons voice voices ih =>
    have hrest := ih (hs.recordWrite address value voice kind hasRawWrite)
    simp only [record] at hrest
    simp only [record, List.foldl_cons, List.length_cons, Nat.succ_mul]
    rwa [Nat.add_assoc, Nat.add_comm (eventCount kind)] at hrest

theorem Coherent.writeData (value : Byte) : Coherent (s.record (s.psg.writeData osc value) 2) := by
  obtain ⟨q, kind, hq, hcount, heq⟩ := s.psg.writeData_eq osc value
  rw [heq, ← hcount]
  exact (hs.quiet hq).recordWrite 0x007F#16 value q.latchedChannel kind true

theorem Coherent.writeStereoControl (value : Byte) :
    Coherent (s.record (s.psg.writeStereoControl value) 8) := by
  have hquiet : GameGearPSG.Quiet s.psg { s.psg with stereoControl := value } :=
    ⟨⟨rfl, rfl, rfl, rfl, rfl, rfl⟩, rfl, rfl, rfl⟩
  exact (hs.quiet hquiet).recordVoices 0x0006#16 value .routingChange true [0, 1, 2, 3]

/-- Switching the sound off leaves empty chunks. -/
theorem Coherent.powerOff :
    Coherent { psg := s.psg.powerOff
               history := { s.history with
                 currentStart := s.history.framesGenerated
                 currentUnvoiced := 0
                 recentStart := none
                 recentUnvoiced := 0 } } := by
  constructor
  · refine ⟨⟨rfl, by simp [GameGearPSG.powerOff]⟩, rfl, rfl, ?_, ?_, ?_, hs.chunks.generated, ?_⟩
    · intro frame output _ hframe
      exact absurd hframe (Nat.not_lt_zero _)
    · intro frame output _ hframe
      exact absurd hframe (Nat.not_lt_zero _)
    · simp [GameGearPSG.powerOff]
    · intro start hstart
      cases hstart
  · refine ⟨?_, ?_, hs.events.sequence, ?_, List.nil_suffix⟩
    · intro event hevent
      cases hevent
    · intro event hevent
      cases hevent
    · intro hbound
      obtain ⟨hsorted, hle⟩ := hs.events.ordered hbound
      simp only [GameGearPSG.powerOff, List.append_nil]
      rw [List.map_append] at hsorted
      exact ⟨(List.pairwise_append.mp hsorted).1,
        fun event hevent => hle event (List.mem_append_left _ hevent)⟩

theorem Coherent.writeCompatRegister
    (addr : Addr) (value : Byte) : Coherent (s.writeCompatRegister osc addr value) := by
  obtain ⟨q, hq, heq⟩ := s.psg.writeCompatRegister_eq osc addr value
  unfold PsgSession.writeCompatRegister
  split
  · next hoff =>
    rw [if_pos hoff] at heq
    exact (hs.quiet hq).powerOff.quiet heq
  · next hon =>
    rw [if_neg hon] at heq
    exact (hs.quiet hq).quiet heq

/-- An accepted import before its snapshots: blank stems, the file's samples and counts. -/
def imported (s : PsgSession C) (state : PsgState C) : PsgSession C where
  psg :=
    { s.psg with
      tones := state.tones
      noiseControl := state.noiseControl
      noiseAttenuation := state.noiseAttenuation
      noiseCounter := state.noiseCounter
      noiseLfsr := state.noiseLfsr
      noiseOutputHigh := state.noiseOutputHigh
      stereoControl := state.stereoControl
      compatRegisters := state.compatRegisters
      waveRam := state.waveRam
      currentFrameSamples := state.currentFrameSamples
      recentSamples := state.recentSamples
      chunkSamplesLast := state.chunkSamplesLast
      chunkSamplesMin := state.chunkSamplesMin
      chunkSamplesMax := state.chunkSamplesMax
      samplesGeneratedTotal := state.samplesGeneratedTotal % 2 ^ 64
      samplePhase := state.samplePhase % 2 ^ 64
      frameCounter := state.frameCounter % 2 ^ 64
      latchedChannel := Fin.ofNat 4 state.latchedChannel.toNat
      latchedVolume := state.latchedVolume
      currentVoiceStems := List.replicate (state.currentFrameSamples.length * 4) 0
      recentVoiceStems := List.replicate (state.recentSamples.length * 4) 0
      currentEvents := []
      recentEvents := []
      observedGateStates := fun _ => false }
  history :=
    { s.history with
      framesGenerated := state.samplesGeneratedTotal % 2 ^ 64 / 2
      currentStart := ((state.samplesGeneratedTotal % 2 ^ 64 / 2 : ℕ) : ℤ) -
        (state.currentFrameSamples.length / 2 : ℕ)
      currentUnvoiced := state.currentFrameSamples.length / 2
      recentStart := none
      recentUnvoiced := state.recentSamples.length }

theorem Coherent.importAccepted {osc : Oscillator C}
    {state : PsgState C} (h : checkState osc state = .ok ()) :
    Coherent ((imported s state).record (s.psg.importAccepted state) 4) := by
  have hpending : state.currentFrameSamples.length % 2 = 0 ∧
      state.currentFrameSamples.length < 512 := by
    unfold checkState at h
    split at h
    · cases h
    · split at h
      · cases h
      · split at h
        · cases h
        · next hpending =>
          simp only [kFramesPerChunk, kOutputChannelCount, not_or] at hpending
          omega
  have hbase : Coherent (imported s state) := by
    constructor
    · refine ⟨hpending, ?_, ?_, ?_, ?_, ?_, ?_, ?_⟩
      · exact (List.length_replicate ..).trans (Nat.mul_comm _ _)
      · exact (List.length_replicate ..).trans (Nat.mul_comm _ _)
      · intro frame output hfrom hframe
        simp only [imported] at hfrom hframe
        omega
      · intro frame output hfrom hframe
        simp only [imported] at hfrom hframe
        omega
      · simp only [imported]
        omega
      · simp only [imported]
        omega
      · intro start hstart
        cases hstart
    · refine ⟨?_, ?_, hs.events.sequence, ?_, List.nil_suffix⟩
      · intro event hevent
        cases hevent
      · intro event hevent
        cases hevent
      · intro hbound
        obtain ⟨hsorted, hle⟩ := hs.events.ordered hbound
        rw [List.map_append] at hsorted
        simp only [imported, List.append_nil]
        exact ⟨(List.pairwise_append.mp hsorted).1,
          fun event hevent => hle event (List.mem_append_left _ hevent)⟩
  exact hbase.recordVoices 0 0 .stateSnapshot false [0, 1, 2, 3]

theorem Coherent.importState (state : PsgState C) : Coherent (s.importState osc state) := by
  unfold PsgSession.importState GameGearPSG.importState
  cases hcheck : checkState osc state with
  | error message => exact hs
  | ok _ => exact hs.importAccepted hcheck

end

/-- Empty chunks with no frame counted yet. -/
theorem coherent_of_blank {p : GameGearPSG C}
    (hq : GameGearPSG.Quiet (.construct osc) p) : Coherent ({ psg := p } : PsgSession C) := by
  have hblank : Coherent (PsgSession.construct osc) := by
    constructor
    · refine ⟨⟨rfl, Nat.zero_lt_succ 511⟩, rfl, rfl, ?_, ?_, ?_,
        ⟨Nat.two_pow_pos 64, Nat.zero_div 2⟩, ?_⟩
      · intro frame output _ hframe
        exact absurd hframe (Nat.not_lt_zero _)
      · intro frame output _ hframe
        exact absurd hframe (Nat.not_lt_zero _)
      · simp [PsgSession.construct, GameGearPSG.construct]
      · intro start hstart
        cases hstart
    · refine ⟨?_, ?_, rfl, ?_, List.nil_suffix⟩
      · intro event hevent
        cases hevent
      · intro event hevent
        cases hevent
      · intro _
        refine ⟨List.Pairwise.nil, ?_⟩
        intro event hevent
        cases hevent
  exact hblank.quiet hq

theorem coherent_construct : Coherent (PsgSession.construct osc) :=
  coherent_of_blank osc ⟨.refl _, .refl _⟩

theorem coherent_reset (s : PsgSession C) : Coherent (s.reset osc) := by
  have hblank := coherent_of_blank osc (p := { GameGearPSG.construct osc with
    compatRegisters := fun i => if i = 0x16 then 0x80 else 0 })
    ⟨⟨rfl, rfl, rfl, rfl, rfl, rfl⟩, rfl, rfl, rfl⟩
  exact hblank.recordVoices 0 0 .stateSnapshot false [0, 1, 2, 3]

theorem Coherent.perform (hs : Coherent s)
    (action : Action C) : Coherent (s.perform osc action) := by
  cases action with
  | reset => exact coherent_reset osc s
  | step cpuCycles => exact hs.step osc cpuCycles
  | writeData value => exact hs.writeData osc value
  | writeStereoControl value => exact hs.writeStereoControl value
  | writeCompatRegister addr value => exact hs.writeCompatRegister osc addr value
  | writeWaveRam addr value => exact hs.quiet (s.psg.quiet_writeWaveRam addr value)
  | importState state => exact hs.importState osc state

theorem coherent_run (actions : List (Action C)) :
    Coherent (run (perform osc) (PsgSession.construct osc) actions) :=
  run_invariant (fun _ action hs => hs.perform osc action) (coherent_construct osc) actions

/-- In every state a run reaches: the stems of the recent chunk fit its samples, each frame
generated since the last import is the clamped sum of its stems, the first frame counts the
frames before the chunk, the events lie inside it, and the sequence numbers of the events
handed out so far increase, those of the recent chunk being the last of them. -/
theorem recent_packet_coherent (osc : Oscillator C) (actions : List (Action C)) :
    let s := run (perform osc) (PsgSession.construct osc) actions
    s.psg.recentVoiceStems.length = 4 * s.psg.recentSamples.length ∧
    (∀ frame output, s.history.recentUnvoiced ≤ frame →
      2 * frame < s.psg.recentSamples.length → output < 2 →
      s.psg.recentSamples.getD (2 * frame + output) 0 = GameGearPSG.clampSample
        (stemSum fun voice => s.psg.recentVoiceStems.getD
          (voice * s.psg.recentSamples.length + 2 * frame + output) 0)) ∧
    (∀ start, s.history.recentStart = some start → start + 256 < 2 ^ 63 →
      (s.psg.recentFirstSampleFrame : ℤ) = max 0 start) ∧
    (∀ event ∈ s.psg.recentEvents, 2 * event.sampleFrameOffset < s.psg.recentSamples.length) ∧
    s.psg.recentEvents <:+ s.history.emitted ∧
    (s.history.eventsRecorded < 2 ^ 64 →
      (s.history.emitted.map PsgAudioEvent.sequence).Pairwise (· < ·)) := by
  intro s
  have hs : Coherent s := coherent_run osc actions
  refine ⟨hs.chunks.recentStems, hs.chunks.recentVoiced, ?_, hs.events.recentOffsets,
    hs.events.recentEmitted, ?_⟩
  · intro start hstart hbound
    exact (hs.chunks.firstFrame start hstart).2 hbound
  · intro hbound
    have hsorted := (hs.events.ordered hbound).1
    rw [List.map_append] at hsorted
    exact (List.pairwise_append.mp hsorted).1

/-- A saved chunk of 256 loud frames in an otherwise new object. -/
def loudState : PsgState Unit :=
  { (GameGearPSG.construct ⟨(), fun _ _ => ((), 0), fun _ => true⟩).exportState with
    recentSamples := List.replicate 512 8192
    samplesGeneratedTotal := 512 }

/-- After an import the samples are the file's and the stems are blank. -/
theorem imported_packet_unvoiced :
    let osc : Oscillator Unit := ⟨(), fun _ _ => ((), 0), fun _ => true⟩
    let psg := (run (perform osc) (PsgSession.construct osc) [.importState loudState]).psg
    psg.recentSamples.getD 0 0 ≠ GameGearPSG.clampSample (stemSum fun voice =>
      psg.recentVoiceStems.getD (voice * psg.recentSamples.length) 0) := by
  decide +kernel

end PsgSession

end ProtoTime.GameGear
