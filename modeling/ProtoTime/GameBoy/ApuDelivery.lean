import ProtoTime.Ring
import ProtoTime.GameBoy.ApuOutput
import ProtoTime.Transition

/-!
What readers of the sound unit get. The ring and its two cursors show the
newest 4096 frames that were produced since samples were last taken, each with
its stems; a reader who takes them gets these frames, oldest first.
-/
namespace ProtoTime.GameBoy

open ProtoTime.Ring

/-- A produced sample with the contribution of each voice to it. -/
structure Frame where
  sample : ℤ
  stems : Fin 4 → ℤ

namespace SoundUnit

structure SameRing (a b : GameBoyAPU) : Prop where
  recentSamples : b.recentSamples = a.recentSamples
  recentWriteCursor : b.recentWriteCursor = a.recentWriteCursor
  pendingReadCursor : b.pendingReadCursor = a.pendingReadCursor
  pendingSampleCount : b.pendingSampleCount = a.pendingSampleCount
  sampleCounter : b.sampleCounter = a.sampleCounter

namespace SameRing

variable (a : GameBoyAPU)

theorem refl : SameRing a a := ⟨rfl, rfl, rfl, rfl, rfl⟩

theorem trans {a b c : GameBoyAPU} (h : SameRing a b) (h' : SameRing b c) : SameRing a c where
  recentSamples := h'.recentSamples.trans h.recentSamples
  recentWriteCursor := h'.recentWriteCursor.trans h.recentWriteCursor
  pendingReadCursor := h'.pendingReadCursor.trans h.pendingReadCursor
  pendingSampleCount := h'.pendingSampleCount.trans h.pendingSampleCount
  sampleCounter := h'.sampleCounter.trans h.sampleCounter

theorem stepFrameSequencer : SameRing a a.stepFrameSequencer := by
  unfold GameBoyAPU.stepFrameSequencer
  split <;> exact ⟨rfl, rfl, rfl, rfl, rfl⟩

theorem writePoweredRegister (address : Addr) (value : Byte) :
    SameRing a (a.writePoweredRegister address value) := by
  unfold GameBoyAPU.writePoweredRegister
  split <;> exact ⟨rfl, rfl, rfl, rfl, rfl⟩

theorem writeRegister (address : Addr) (value : Byte) :
    SameRing a (a.writeRegister address value) := by
  unfold GameBoyAPU.writeRegister
  by_cases hpower : address = 0xFF26#16
  · rw [if_pos hpower]
    dsimp only
    split <;> exact ⟨rfl, rfl, rfl, rfl, rfl⟩
  · rw [if_neg hpower]
    by_cases hwave : 0xFF30#16 ≤ address ∧ address ≤ 0xFF3F#16
    · rw [if_pos hwave]
      exact ⟨rfl, rfl, rfl, rfl, rfl⟩
    · rw [if_neg hwave]
      split
      · exact writePoweredRegister a address value
      · exact refl a

end SameRing

/-- No sample is produced, and new events carry the number of samples so far. -/
structure Quiet (u v : SoundUnit) : Prop where
  ring : SameRing u.apu v.apu
  stems : v.recentVoiceStems = u.recentVoiceStems
  events : ∀ p ∈ v.pendingEvents,
    p ∈ u.pendingEvents ∨ p.absoluteSampleFrame = u.apu.sampleCounter

variable (u : SoundUnit)

namespace Quiet

theorem refl : Quiet u u := ⟨.refl _, rfl, fun _ hp => .inl hp⟩

theorem trans {u v w : SoundUnit} (h : Quiet u v) (h' : Quiet v w) : Quiet u w := by
  refine ⟨h.ring.trans h'.ring, h'.stems.trans h.stems, ?_⟩
  intro p hp
  rcases h'.events p hp with hv | hnow
  · exact h.events p hv
  · exact .inr (hnow.trans h.ring.sampleCounter)

theorem withApu {apu : GameBoyAPU} (h : SameRing u.apu apu) :
    Quiet u (u.withApu apu) := ⟨h, rfl, fun _ hp => .inl hp⟩

theorem recordVoiceEvent (voice : Fin 4) (kind : PsgEventKind)
    (rawAddress : Addr) (rawValue : Byte) (hasRawWrite : Bool) :
    Quiet u (u.recordVoiceEvent voice kind rawAddress rawValue hasRawWrite) := by
  refine ⟨.refl _, rfl, ?_⟩
  intro p hp
  rcases List.mem_append.mp hp with hold | hnew
  · left
    split at hold
    · exact List.mem_of_mem_tail hold
    · exact hold
  · right
    rw [List.mem_singleton.mp hnew]

theorem recordVoices (kind : PsgEventKind) (rawAddress : Addr) (rawValue : Byte)
    (hasRawWrite : Bool) : Quiet u (u.recordVoices kind rawAddress rawValue hasRawWrite) := by
  unfold SoundUnit.recordVoices
  induction List.finRange 4 generalizing u with
  | nil => exact refl u
  | cons voice voices ih =>
    exact (recordVoiceEvent u voice kind rawAddress rawValue hasRawWrite).trans (ih _)

theorem recordWriteEvent (address : Addr) (value : Byte) :
    Quiet u (u.recordWriteEvent address value) := by
  unfold SoundUnit.recordWriteEvent
  by_cases hlevel : address = 0xFF24#16
  · rw [if_pos hlevel]
    exact (recordVoices u _ _ _ _).trans (recordVoiceEvent _ _ _ _ _ _)
  · rw [if_neg hlevel]
    by_cases hrouting : address = 0xFF25#16
    · rw [if_pos hrouting]
      exact (recordVoices u _ _ _ _).trans (recordVoiceEvent _ _ _ _ _ _)
    · rw [if_neg hrouting]
      have hgate : ∀ gates, Quiet u { u with observedGateStates := gates } :=
        fun _ => ⟨.refl _, rfl, fun _ hp => .inl hp⟩
      exact (hgate _).trans ((recordVoiceEvent _ _ _ _ _ _).trans (recordVoiceEvent _ _ _ _ _ _))

theorem writeRegister (address : Addr) (value : Byte) :
    Quiet u (u.writeRegister address value) :=
  (withApu u (.writeRegister u.apu address value)).trans (recordWriteEvent _ address value)

theorem recordLevel (voice : Fin 4) (before after : ℕ) :
    Quiet u (u.recordLevel voice before after) := by
  unfold SoundUnit.recordLevel
  split
  · exact recordVoiceEvent u _ _ _ _ _
  · exact refl u

theorem tickEnvelopes : Quiet u u.tickEnvelopes := by
  have hset : ∀ (u : SoundUnit) {apu : GameBoyAPU} (voice : Fin 4) (before after : ℕ),
      SameRing u.apu apu → Quiet u ((u.withApu apu).recordLevel voice before after) :=
    fun u _ voice before after h => (withApu u h).trans (recordLevel _ voice before after)
  refine (hset u 0 _ _ ?_).trans ((hset _ 1 _ _ ?_).trans (hset _ 3 _ _ ?_))
  all_goals exact ⟨rfl, rfl, rfl, rfl, rfl⟩

theorem stepFrameSequencer : Quiet u u.stepFrameSequencer := by
  unfold SoundUnit.stepFrameSequencer
  split
  · exact (tickEnvelopes u).trans (withApu _ ⟨rfl, rfl, rfl, rfl, rfl⟩)
  · exact withApu u (.stepFrameSequencer u.apu)

theorem tickSequencer : Quiet u u.tickSequencer := by
  unfold SoundUnit.tickSequencer
  split
  · have hcounter : Quiet u (u.withApu { u.apu with frameSequencerCounter := 0 }) :=
      withApu u ⟨rfl, rfl, rfl, rfl, rfl⟩
    exact hcounter.trans (stepFrameSequencer _)
  · exact withApu u ⟨rfl, rfl, rfl, rfl, rfl⟩

theorem tickTimers : Quiet u u.tickTimers :=
  withApu u ⟨rfl, rfl, rfl, rfl, rfl⟩

theorem addSampleRate : Quiet u u.addSampleRate :=
  withApu u ⟨rfl, rfl, rfl, rfl, rfl⟩

theorem drainAccumulator : Quiet u u.drainAccumulator :=
  withApu u ⟨rfl, rfl, rfl, rfl, rfl⟩

theorem tickCycle : Quiet u u.tickCycle := by
  unfold SoundUnit.tickCycle
  split
  · exact (tickSequencer u).trans ((tickTimers _).trans (addSampleRate _))
  · exact addSampleRate u

end Quiet

/-- What the slots of the ring hold. -/
def frames (u : SoundUnit) (slot : Fin 4096) : Frame :=
  ⟨u.apu.recentSamples slot, fun voice => u.recentVoiceStems voice slot⟩

/-- What the voices play at the moment. -/
def currentFrame (u : SoundUnit) : Frame :=
  ⟨GameBoyAPU.clampSample u.apu.currentVoiceContributions.sum,
    fun voice => u.apu.currentVoiceContributions.getD voice 0⟩

/-- The frames that the sample loop produces. -/
def emittedFrames : ℕ → SoundUnit → List Frame
  | 0, _ => []
  | n + 1, u =>
    u.drainAccumulator.currentFrame :: emittedFrames n u.drainOnce

def cycleFrames (u : SoundUnit) : List Frame :=
  emittedFrames (u.tickCycle.apu.sampleAccumulator / kMasterClockHz) u.tickCycle

def producedFrames : ℕ → SoundUnit → List Frame
  | 0, _ => []
  | n + 1, u => u.cycleFrames ++ producedFrames n u.stepOneCycle

theorem frames_pushSample (sample : ℤ) (stems : List ℤ) :
    (u.pushSample sample stems).frames =
      Function.update u.frames (Fin.ofNat 4096 u.apu.recentWriteCursor)
        ⟨sample, fun voice => stems.getD voice 0⟩ := by
  funext slot
  unfold frames SoundUnit.pushSample GameBoyAPU.pushSample
  by_cases hslot : slot = Fin.ofNat 4096 u.apu.recentWriteCursor
  · rw [hslot]
    simp only [Function.update_self]
  · simp only [Function.update_of_ne hslot]

theorem takeSamples_window (n : ℕ) (u : SoundUnit) :
    (takeSamples n u).1 = Ring.window u.apu.recentSamples u.apu.pendingReadCursor n := by
  induction n generalizing u with
  | zero => rfl
  | succ n ih =>
    rw [takeSamples, window_eq_cons]
    refine congrArg _ ((ih _).trans ?_)
    exact window_mod u.apu.recentSamples _ _

theorem takeSamples_unit (n : ℕ) (u : SoundUnit) : ∃ cursor,
    (takeSamples n u).2 = u.withApu { u.apu with pendingReadCursor := cursor } ∧
      cursor ≡ u.apu.pendingReadCursor + n [MOD 4096] := by
  induction n generalizing u with
  | zero => exact ⟨u.apu.pendingReadCursor, rfl, rfl⟩
  | succ n ih =>
    obtain ⟨cursor, heq, hcursor⟩ := ih (u.withApu { u.apu with
      pendingReadCursor := (u.apu.pendingReadCursor + 1) % kHistorySamples })
    refine ⟨cursor, heq, hcursor.trans ?_⟩
    have hread : (u.apu.pendingReadCursor + 1) % 4096 + n ≡ u.apu.pendingReadCursor + 1 + n
        [MOD 4096] := (Nat.mod_modEq _ _).add_right n
    rwa [Nat.add_assoc, Nat.add_comm 1 n] at hread

theorem copyStems_window (stems : Fin 4096 → ℤ) (n cursor : ℕ) :
    copyStems stems n cursor = Ring.window stems cursor n := by
  induction n generalizing cursor with
  | zero => rfl
  | succ n ih =>
    rw [copyStems, window_eq_cons, ih, kHistorySamples, window_mod]

/-- The unit shows the newest of the frames produced since samples were last taken. -/
structure Shows (u : SoundUnit) (unread produced : List Frame) : Prop where
  ring : Ring.Shows u.frames u.apu.recentWriteCursor u.apu.pendingReadCursor
    u.apu.pendingSampleCount unread
  sampleCounter : u.apu.sampleCounter = produced.length
  unread_suffix : unread <:+ produced
  events : ∀ p ∈ u.pendingEvents, p.absoluteSampleFrame ≤ produced.length

namespace Shows

variable {u v : SoundUnit} {unread produced : List Frame}

theorem of_quiet (h : Shows u unread produced) (hquiet : Quiet u v) : Shows v unread produced := by
  have hring := hquiet.ring
  have hframes : v.frames = u.frames := by
    unfold frames
    rw [hring.recentSamples, hquiet.stems]
  refine ⟨?_, hring.sampleCounter.trans h.sampleCounter, h.unread_suffix, ?_⟩
  · rw [hframes, hring.recentWriteCursor, hring.pendingReadCursor, hring.pendingSampleCount]
    exact h.ring
  · intro p hp
    rcases hquiet.events p hp with hold | hnow
    · exact h.events p hold
    · exact (hnow.trans h.sampleCounter).le

theorem emitSample (h : Shows u unread produced) :
    Shows u.emitSample (unread ++ [u.currentFrame]) (produced ++ [u.currentFrame]) := by
  have hpush := h.ring.push u.currentFrame
  have hlength : (produced ++ [u.currentFrame]).length = produced.length + 1 :=
    List.length_append
  refine ⟨?_, ?_, ?_, ?_⟩
  · unfold SoundUnit.emitSample
    rw [frames_pushSample]
    exact hpush
  · rw [hlength, ← h.sampleCounter]
    rfl
  · obtain ⟨old, rfl⟩ := h.unread_suffix
    exact ⟨old, (List.append_assoc _ _ _).symm⟩
  · intro p hp
    rw [hlength]
    exact (h.events p hp).trans (Nat.le_add_right _ _)

theorem drainOnce (h : Shows u unread produced) :
    Shows u.drainOnce (unread ++ [u.drainAccumulator.currentFrame])
      (produced ++ [u.drainAccumulator.currentFrame]) :=
  (h.of_quiet (.drainAccumulator u)).emitSample

theorem emitSamples (n : ℕ) (h : Shows u unread produced) :
    Shows (SoundUnit.emitSamples n u) (unread ++ emittedFrames n u)
      (produced ++ emittedFrames n u) := by
  induction n generalizing u unread produced with
  | zero =>
    rw [emittedFrames, List.append_nil, List.append_nil]
    exact h
  | succ n ih =>
    have hpush := ih h.drainOnce
    rw [List.append_assoc, List.append_assoc] at hpush
    rw [SoundUnit.emitSamples, Function.iterate_succ_apply, emittedFrames]
    exact hpush

theorem stepOneCycle (h : Shows u unread produced) :
    Shows u.stepOneCycle (unread ++ u.cycleFrames) (produced ++ u.cycleFrames) :=
  (h.of_quiet (.tickCycle u)).emitSamples _

theorem step (n : ℕ) (h : Shows u unread produced) :
    Shows (u.step n) (unread ++ producedFrames n u) (produced ++ producedFrames n u) := by
  induction n generalizing u unread produced with
  | zero => simpa only [SoundUnit.step, Function.iterate_zero, id, producedFrames,
      List.append_nil] using h
  | succ n ih =>
    have hrest := ih h.stepOneCycle
    rw [List.append_assoc, List.append_assoc] at hrest
    exact hrest

section

variable (h : Shows u unread produced)

include h

theorem takePendingSamples :
    u.takePendingSamples.1 = (unread.rtake 4096).map (·.sample) := by
  have hmap := window_map (·.sample) u.frames u.apu.pendingReadCursor u.apu.pendingSampleCount
  rw [h.ring.shown] at hmap
  exact (takeSamples_window _ u).trans hmap

theorem copyPendingVoiceStems :
    u.copyPendingVoiceStems =
      (List.finRange 4).flatMap fun voice => (unread.rtake 4096).map (·.stems voice) := by
  refine congrArg (fun f => (List.finRange 4).flatMap f) (funext fun voice => ?_)
  have hmap := window_map (·.stems voice) u.frames u.apu.pendingReadCursor
    u.apu.pendingSampleCount
  rw [h.ring.shown] at hmap
  exact (copyStems_window _ _ _).trans hmap

theorem after_takePendingSamples :
    Shows u.takePendingSamples.2 [] produced := by
  obtain ⟨cursor, heq, hcursor⟩ := takeSamples_unit u.apu.pendingSampleCount u
  have hunit : u.takePendingSamples.2 = u.withApu
      { u.apu with pendingReadCursor := cursor, pendingSampleCount := 0 } := by
    unfold SoundUnit.takePendingSamples
    dsimp only
    rw [heq]
    rfl
  rw [hunit]
  refine ⟨?_, h.sampleCounter, List.nil_suffix, h.events⟩
  exact .nil _ (h.ring.cursor.trans hcursor.symm)

theorem firstSampleFrame :
    u.firstSampleFrame + (unread.rtake 4096).length = produced.length := by
  have hle := h.unread_suffix.length_le
  have hcount := h.ring.counted
  unfold SoundUnit.firstSampleFrame
  rw [rtake_length, h.sampleCounter, hcount]
  exact Nat.sub_add_cancel ((Nat.min_le_left _ _).trans hle)

theorem eventOffset {p : PendingEvent} (hp : p ∈ u.pendingEvents) :
    SoundUnit.eventOffset u.firstSampleFrame p = p.absoluteSampleFrame - u.firstSampleFrame := by
  have hfirst := h.firstSampleFrame
  have hevent := h.events p hp
  have hlength : (unread.rtake 4096).length ≤ 4096 := by
    rw [rtake_length]
    exact Nat.min_le_right _ _
  unfold SoundUnit.eventOffset
  split
  · exact Nat.mod_eq_of_lt (by omega)
  · omega

end

end Shows

theorem realtimeAudioPacket_pcmSamples :
    u.realtimeAudioPacket.1.pcmSamples = u.takePendingSamples.1 := by
  have hlog : ∀ (events : List PendingEvent) (dropped n : ℕ) (u : SoundUnit),
      (takeSamples n { u with pendingEvents := events, pendingEventDropCount := dropped }).1 =
        (takeSamples n u).1 := by
    intro events dropped n u
    rw [takeSamples_window, takeSamples_window]
  exact hlog [] 0 u.apu.pendingSampleCount u

end SoundUnit

/-- The calls of the writers and the readers of a sound unit. -/
inductive SoundAction where
  | step (cpuCycles : ℕ)
  | writeRegister (address : Addr) (value : Byte)
  | copyPendingVoiceStems
  | takePendingEvents (firstSampleFrame : ℕ)
  | takePendingSamples

/-- A unit with what its readers got and what it produced: `takenFrames` lists the frames
produced before each taking of samples and after the previous one. -/
structure SoundSession where
  unit : SoundUnit
  produced : List Frame
  unread : List Frame
  takenFrames : List (List Frame)
  takenSamples : List (List ℤ)

namespace SoundSession

def start : SoundSession := ⟨.reset, [], [], [], []⟩

def act (s : SoundSession) : SoundAction → SoundSession
  | .step cpuCycles =>
    { s with
      unit := s.unit.step cpuCycles
      produced := s.produced ++ s.unit.producedFrames cpuCycles
      unread := s.unread ++ s.unit.producedFrames cpuCycles }
  | .writeRegister address value => { s with unit := s.unit.writeRegister address value }
  | .copyPendingVoiceStems => s
  | .takePendingEvents firstSampleFrame =>
    { s with unit := (s.unit.takePendingEvents firstSampleFrame).2 }
  | .takePendingSamples =>
    { s with
      unit := s.unit.takePendingSamples.2
      unread := []
      takenFrames := s.takenFrames ++ [s.unread]
      takenSamples := s.takenSamples ++ [s.unit.takePendingSamples.1] }

/-- The newest of the unread frames are pending, and each taken vector holds the newest of its
frames. -/
structure Delivers (s : SoundSession) : Prop where
  shows_unread : s.unit.Shows s.unread s.produced
  produced : s.produced = s.takenFrames.flatten ++ s.unread
  taken : s.takenSamples = s.takenFrames.map fun frames => (frames.rtake 4096).map (·.sample)

theorem start_delivers : start.Delivers := by
  refine ⟨⟨?_, rfl, List.nil_suffix, ?_⟩, rfl, rfl⟩
  · exact .nil _ rfl
  · intro p hp
    have hall : ∀ q ∈ SoundUnit.reset.pendingEvents, q.absoluteSampleFrame = 0 := by
      decide +kernel
    exact (hall p hp).le

theorem act_delivers (s : SoundSession) (a : SoundAction) (h : s.Delivers) :
    (s.act a).Delivers := by
  cases a with
  | step cpuCycles =>
    refine ⟨h.shows_unread.step cpuCycles, ?_, h.taken⟩
    show s.produced ++ _ = _ ++ (s.unread ++ _)
    rw [h.produced, List.append_assoc]
    rfl
  | writeRegister address value =>
    exact ⟨h.shows_unread.of_quiet (.writeRegister s.unit address value), h.produced, h.taken⟩
  | copyPendingVoiceStems => exact h
  | takePendingEvents firstSampleFrame =>
    have hquiet : SoundUnit.Quiet s.unit (s.unit.takePendingEvents firstSampleFrame).2 :=
      ⟨.refl _, rfl, fun _ hp => absurd hp List.not_mem_nil⟩
    exact ⟨h.shows_unread.of_quiet hquiet, h.produced, h.taken⟩
  | takePendingSamples =>
    refine ⟨h.shows_unread.after_takePendingSamples, ?_, ?_⟩
    · show s.produced = (s.takenFrames ++ [s.unread]).flatten ++ []
      rw [h.produced, List.flatten_append, List.flatten_singleton, List.append_nil]
    · show s.takenSamples ++ [s.unit.takePendingSamples.1] = (s.takenFrames ++ [s.unread]).map _
      rw [List.map_append, ← h.taken, h.shows_unread.takePendingSamples]
      rfl

theorem run_delivers (actions : List SoundAction) :
    (Transition.run act start actions).Delivers :=
  Transition.run_invariant act_delivers start_delivers actions

/-- In every session each taking of samples gives the newest 4096 frames since the previous one,
a packet holds these samples and their stems voice after voice, and an event of a packet is
reported at its place in the packet, or at its start when it is older than the packet. -/
theorem packet_delivers_newest_frames (actions : List SoundAction) :
    let s := Transition.run act start actions
    let pending := s.unread.rtake 4096
    s.produced = s.takenFrames.flatten ++ s.unread ∧
    s.takenSamples.flatten =
      s.takenFrames.flatMap (fun frames => (frames.rtake 4096).map (·.sample)) ∧
    s.unit.takePendingSamples.1 = pending.map (·.sample) ∧
    s.unit.copyPendingVoiceStems =
      (List.finRange 4).flatMap (fun voice => pending.map (·.stems voice)) ∧
    s.unit.firstSampleFrame + pending.length = s.produced.length ∧
    (∀ p ∈ s.unit.pendingEvents,
      (s.unit.firstSampleFrame ≤ p.absoluteSampleFrame →
        s.unit.firstSampleFrame + SoundUnit.eventOffset s.unit.firstSampleFrame p =
          p.absoluteSampleFrame) ∧
      (p.absoluteSampleFrame < s.unit.firstSampleFrame →
        SoundUnit.eventOffset s.unit.firstSampleFrame p = 0)) ∧
    let packet := s.unit.realtimeAudioPacket.1
    packet.firstSampleFrame = s.unit.firstSampleFrame ∧
    packet.pcmSamples = pending.map (·.sample) ∧
    packet.voiceStems = (List.finRange 4).flatMap (fun voice => pending.map (·.stems voice)) ∧
    packet.events = s.unit.pendingEvents.map (fun p =>
      { p.event with
        sampleFrameOffset := SoundUnit.eventOffset s.unit.firstSampleFrame p }) := by
  intro s pending
  have h := run_delivers actions
  have hsamples := h.shows_unread.takePendingSamples
  have hstems := h.shows_unread.copyPendingVoiceStems
  refine ⟨h.produced, ?_, hsamples, hstems, h.shows_unread.firstSampleFrame, ?_, rfl, ?_, hstems,
    rfl⟩
  · rw [h.taken, List.flatMap_def]
  · intro p hp
    have hoffset := h.shows_unread.eventOffset hp
    constructor
    · intro hle
      rw [hoffset]
      exact Nat.add_sub_of_le hle
    · intro hlt
      rw [hoffset]
      exact Nat.sub_eq_zero_of_le hlt.le
  · rw [← hsamples]
    exact SoundUnit.realtimeAudioPacket_pcmSamples s.unit

/-- The snapshot events of a reset wait at frame 0; a packet that starts at frame 1 reports them
at its start and not one frame before it. -/
theorem eventOffset_of_older_event :
    ¬ ∀ actions : List SoundAction,
      let u := (Transition.run act start actions).unit
      ∀ p ∈ u.pendingEvents,
        (SoundUnit.eventOffset u.firstSampleFrame p : ℤ) =
          (p.absoluteSampleFrame : ℤ) - (u.firstSampleFrame : ℤ) := by
  intro h
  have hrun := h [.step 88, .takePendingSamples]
  have hevents : ¬ ∀ p ∈ (Transition.run act start [.step 88, .takePendingSamples]).unit.pendingEvents,
      (SoundUnit.eventOffset
          (Transition.run act start [.step 88, .takePendingSamples]).unit.firstSampleFrame p : ℤ) =
        (p.absoluteSampleFrame : ℤ) -
          ((Transition.run act start [.step 88, .takePendingSamples]).unit.firstSampleFrame : ℤ) := by
    decide +kernel
  exact hevents hrun

end SoundSession

end ProtoTime.GameBoy
