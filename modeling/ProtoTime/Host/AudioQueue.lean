import ProtoTime.Host.AudioRing

/-!
What the audio engine is for: a bounded queue of samples with a chunk set aside for a stream
that starts over. The engine refines it, whatever its cursors and the unread part of its buffers
hold.
-/
namespace ProtoTime.Host

/-- The queue: the samples that wait, and the chunk that is set aside. -/
structure AudioQueue (Step Phase α : Type) where
  config : AudioEngineConfig
  step : Step
  sourcePhase : Phase
  waiting : List α := []
  pendingReset : Bool := false
  deferred : Option (List α) := none
  lastFrameCounter : ℕ := 0

/-- The newest samples, as many as there is room for. -/
def newest {α : Type} (room : ℕ) (pcm : List α) : List α := pcm.drop (pcm.length - room)

theorem newest_min {α : Type} (room : ℕ) (pcm : List α) :
    pcm.drop (pcm.length - min pcm.length room) = newest room pcm := by
  congr 1
  omega

namespace AudioQueue

variable {Step Phase α : Type}

/-- An empty queue. -/
def new (arithmetic : PhaseArithmetic Step Phase) (config : AudioEngineConfig) (step : Step) :
    AudioQueue Step Phase α where
  config := config
  step := step
  sourcePhase := arithmetic.zero

def append (q : AudioQueue Step Phase α) (pcm : List α) (frameCounter : ℕ) :
    AudioQueue Step Phase α :=
  if pcm.isEmpty ∨ (q.lastFrameCounter ≠ 0 ∧ frameCounter = q.lastFrameCounter) then q
  else if frameCounter < q.lastFrameCounter ∨ q.pendingReset then
    { q with
      pendingReset := true
      deferred := some (newest q.config.chunkCapacity pcm)
      lastFrameCounter := frameCounter }
  else
    { q with
      waiting := q.waiting ++ newest (q.config.usableCapacity - q.waiting.length) pcm
      lastFrameCounter := frameCounter }

def flush (arithmetic : PhaseArithmetic Step Phase) (q : AudioQueue Step Phase α) :
    AudioQueue Step Phase α :=
  if q.pendingReset then
    { q with
      sourcePhase := arithmetic.zero
      waiting := (q.deferred.getD []).take q.config.usableCapacity
      pendingReset := q.deferred.isNone
      deferred := none }
  else q

def outputFrame (q : AudioQueue Step Phase α) : List (Played Phase α) :=
  (List.range q.config.channels).map fun channel =>
    match q.waiting[channel]? with
    | none => .silence
    | some currentSample =>
      .mixed q.sourcePhase currentSample
        (q.waiting[q.config.channels + channel]?.getD currentSample)

def advance (arithmetic : PhaseArithmetic Step Phase) (q : AudioQueue Step Phase α) :
    AudioQueue Step Phase α :=
  let (sourcePhase, wholeSteps) := arithmetic.advance q.step q.sourcePhase
  { q with sourcePhase := sourcePhase, waiting := q.waiting.drop (wholeSteps * q.config.channels) }

def renderFrames (arithmetic : PhaseArithmetic Step Phase) :
    ℕ → AudioQueue Step Phase α → AudioQueue Step Phase α × List (List (Played Phase α))
  | 0, q => (q, [])
  | frames + 1, q =>
    let (q', others) := renderFrames arithmetic frames (q.advance arithmetic)
    (q', q.outputFrame :: others)

def render (arithmetic : PhaseArithmetic Step Phase) (q : AudioQueue Step Phase α) (size : ℕ) :
    AudioQueue Step Phase α × List (List (Played Phase α)) :=
  renderFrames arithmetic (size / q.config.channels) (q.flush arithmetic)

end AudioQueue

namespace AudioEngine

variable {Step Phase α : Type} [Inhabited α]

def queue (e : AudioEngine Step Phase α) : AudioQueue Step Phase α where
  config := e.config
  step := e.step
  sourcePhase := e.sourcePhase
  waiting := e.contents
  pendingReset := e.pendingReset
  deferred := e.deferredResetPublishedSlot.map fun slot =>
    (e.deferredResetChunks slot).take e.deferredResetPublishedSize
  lastFrameCounter := e.lastFrameCounter

variable {e : AudioEngine Step Phase α}

theorem contents_of_cursors_eq (h : e.readIndex = e.writeIndex) : e.contents = [] := by
  apply List.eq_nil_of_length_eq_zero
  rw [length_contents]
  unfold bufferedSamples
  split_ifs <;> omega

variable (arithmetic : PhaseArithmetic Step Phase)

theorem new_queue (config : AudioEngineConfig)
    (step : Step) :
    (new arithmetic config step : AudioEngine Step Phase α).queue = .new arithmetic config step := by
  have hnone : (new arithmetic config step : AudioEngine Step Phase α).contents = [] :=
    contents_of_cursors_eq rfl
  unfold queue
  rw [hnone]
  rfl

theorem resetStream_spec (h : e.Valid) : (e.resetStream arithmetic).Valid ∧
      (e.resetStream arithmetic).queue = .new arithmetic e.config e.step := by
  refine ⟨⟨h.length, fun hzero => Nat.pos_of_ne_zero hzero, fun hzero => Nat.pos_of_ne_zero hzero,
    h.chunks⟩, ?_⟩
  have hnone : (e.resetStream arithmetic).contents = [] := contents_of_cursors_eq rfl
  unfold queue
  rw [hnone]
  rfl

theorem setTransportRateCorrection_spec (h : e.Valid) (step : Step) :
    (e.setTransportRateCorrection step).Valid ∧
      (e.setTransportRateCorrection step).queue = { e.queue with step := step } :=
  ⟨⟨h.length, h.read, h.write, h.chunks⟩, rfl⟩

theorem outputFrame_eq (e : AudioEngine Step Phase α) : e.outputFrame = e.queue.outputFrame := by
  unfold outputFrame AudioQueue.outputFrame
  simp only [peekSample_eq]
  rfl

theorem stage_queue (h : e.Valid) (pcm : List α) :
    (e.stageDeferredResetChunk pcm).Valid ∧ (e.stageDeferredResetChunk pcm).queue =
      { e.queue with deferred := some (newest e.config.chunkCapacity pcm) } := by
  obtain ⟨hvalid, _, hstaged⟩ := stage_staged h pcm
  rw [newest_min] at hstaged
  refine ⟨hvalid, ?_⟩
  show ({ e.queue with deferred := some (e.stageDeferredResetChunk pcm).staged } :
    AudioQueue Step Phase α) = _
  rw [hstaged]

theorem append_queue (h : e.Valid) (pcm : List α)
    (frameCounter : ℕ) : (e.appendRecentPcm pcm frameCounter).Valid ∧
      (e.appendRecentPcm pcm frameCounter).queue = e.queue.append pcm frameCounter := by
  unfold appendRecentPcm AudioQueue.append
  by_cases hpcm : pcm.isEmpty = true
  · rw [if_pos hpcm, if_pos (.inl hpcm)]
    exact ⟨h, rfl⟩
  rw [if_neg hpcm]
  dsimp only
  by_cases hcounter : e.lastFrameCounter = 0 ∨ frameCounter < e.lastFrameCounter ∨
      e.lastFrameCounter < frameCounter
  swap
  · rw [if_pos hcounter, if_pos (.inr (show e.lastFrameCounter ≠ 0 ∧
      frameCounter = e.lastFrameCounter by omega))]
    exact ⟨h, rfl⟩
  have hkept : ¬(pcm.isEmpty = true ∨ (e.queue.lastFrameCounter ≠ 0 ∧
      frameCounter = e.queue.lastFrameCounter)) := by
    have hnew : ¬(e.lastFrameCounter ≠ 0 ∧ frameCounter = e.lastFrameCounter) := by omega
    rintro (hempty | hsame)
    · exact hpcm hempty
    · exact hnew hsame
  rw [if_neg (not_not_intro hcounter), if_neg hkept]
  obtain ⟨hstaged, hqueue⟩ := stage_queue h pcm
  by_cases hlower : frameCounter < e.lastFrameCounter
  · rw [if_pos hlower, if_pos (.inl hlower)]
    refine ⟨⟨hstaged.length, hstaged.read, hstaged.write, hstaged.chunks⟩, ?_⟩
    show ({ (e.stageDeferredResetChunk pcm).queue with
      pendingReset := true, lastFrameCounter := frameCounter } : AudioQueue Step Phase α) = _
    rw [hqueue]
    rfl
  rw [if_neg hlower]
  by_cases hpending : e.pendingReset = true
  · rw [if_pos hpending, if_pos (.inr hpending)]
    refine ⟨⟨hstaged.length, hstaged.read, hstaged.write, hstaged.chunks⟩, ?_⟩
    show ({ (e.stageDeferredResetChunk pcm).queue with
      lastFrameCounter := frameCounter } : AudioQueue Step Phase α) = _
    rw [hqueue]
    rw [← hpending]
    rfl
  · have hlive : ¬(frameCounter < e.queue.lastFrameCounter ∨ e.queue.pendingReset = true) := by
      rintro (hless | hset)
      · exact hlower hless
      · exact hpending hset
    rw [if_neg hpending, if_neg hlive, writableCapacitySamples_eq h, newest_min]
    obtain ⟨buffer, writeIndex, heq, hpushed, hmore⟩ := pushAll_contents h (newest e.room pcm)
    rw [List.take_of_length_le (by unfold newest; rw [List.length_drop]; omega)] at hmore
    refine ⟨⟨hpushed.length, hpushed.read, hpushed.write, hpushed.chunks⟩, ?_⟩
    show ({ (e.pushAll (newest e.room pcm)).queue with
      lastFrameCounter := frameCounter } : AudioQueue Step Phase α) = _
    have hroom : e.queue.config.usableCapacity - e.queue.waiting.length = e.room := by
      show e.config.usableCapacity - e.contents.length = _
      rw [length_contents]
      rfl
    rw [hroom]
    unfold queue
    rw [hmore, heq]

/-- The chunk that is set aside becomes the queue. -/
theorem publish_queue (h : e.Valid) (hnone : e.contents = []) :
    e.publishDeferredResetChunk.1.queue =
        { e.queue with
          waiting := (e.queue.deferred.getD []).take e.config.usableCapacity
          deferred := none } ∧
      e.publishDeferredResetChunk.2 = e.queue.deferred.isSome := by
  have hcontents := (publish_spec h hnone).2.2.1
  unfold staged at hcontents
  unfold publishDeferredResetChunk at hcontents ⊢
  cases hslot : e.deferredResetPublishedSlot with
  | none =>
    have hdeferred : e.queue.deferred = none := congrArg (Option.map _) hslot
    rw [hdeferred]
    refine ⟨?_, rfl⟩
    dsimp only [Option.getD_none]
    rw [List.take_nil, ← hnone, ← hdeferred]
    rfl
  | some slot =>
    have hdeferred : e.queue.deferred =
        some ((e.deferredResetChunks slot).take e.deferredResetPublishedSize) :=
      congrArg (Option.map _) hslot
    rw [hslot] at hcontents
    obtain ⟨buffer, writeIndex, heq, _⟩ := @pushAll_contents _ _ _
      { e with deferredResetPublishedSlot := none, deferredResetPublishedSize := 0 } _
      ⟨h.length, h.read, h.write, h.chunks⟩
      ((e.deferredResetChunks slot).take e.deferredResetPublishedSize)
    rw [hdeferred]
    refine ⟨?_, rfl⟩
    dsimp only [Option.getD_some] at hcontents ⊢
    unfold queue
    rw [hcontents, heq]
    rfl

theorem flush_queue (h : e.Valid) : (e.flushPendingReset arithmetic).Valid ∧
      (e.flushPendingReset arithmetic).queue = e.queue.flush arithmetic := by
  have hvalid := (flushPendingReset_spec arithmetic h).1
  refine ⟨hvalid, ?_⟩
  unfold AudioQueue.flush flushPendingReset
  by_cases hpending : e.pendingReset = true
  swap
  · rw [if_neg hpending, if_neg (show ¬e.queue.pendingReset = true from hpending)]
  obtain ⟨hflushed, hnone⟩ := flush_contents h arithmetic.zero
  obtain ⟨hpublished, hdone⟩ := publish_queue hflushed hnone
  rw [if_pos (show e.queue.pendingReset = true from hpending), if_pos hpending]
  dsimp only
  have hdeferred : ({ e with sourcePhase := arithmetic.zero, readIndex := e.writeIndex } :
      AudioEngine Step Phase α).queue.deferred = e.queue.deferred := rfl
  rw [hdeferred] at hpublished hdone
  rw [hdone]
  cases hset : e.queue.deferred with
  | none =>
    rw [hset] at hpublished
    refine Eq.trans ?_ (hpublished.trans ?_)
    · rfl
    · rw [hpending]
      rfl
  | some chunk =>
    rw [hset] at hpublished
    exact congrArg (fun q : AudioQueue Step Phase α => { q with pendingReset := false }) hpublished

theorem consume_queue (h : e.Valid) (count : ℕ) :
    (e.consumeSamples count).queue = { e.queue with waiting := e.contents.drop count } := by
  obtain ⟨readIndex, heq, _, hless⟩ := consume_contents h count
  rw [← hless, heq]
  rfl

theorem advance_queue (h : e.Valid) : (e.advanceFrame arithmetic).Valid ∧
      (e.advanceFrame arithmetic).queue = e.queue.advance arithmetic := by
  refine ⟨(advanceFrame_spec arithmetic h).1, ?_⟩
  unfold advanceFrame AudioQueue.advance
  dsimp only
  have hphase : ({ e with sourcePhase := (arithmetic.advance e.step e.sourcePhase).1 } :
      AudioEngine Step Phase α).Valid := ⟨h.length, h.read, h.write, h.chunks⟩
  have hall : ∀ count, e.contents.drop (min count e.bufferedSamples) = e.contents.drop count := by
    intro count
    rw [← length_contents]
    rcases Nat.le_total count e.contents.length with hle | hle
    · rw [Nat.min_eq_left hle]
    · rw [Nat.min_eq_right hle, List.drop_length, List.drop_eq_nil_of_le hle]
  by_cases hsteps : (arithmetic.advance e.step e.sourcePhase).2 ≠ 0
  · rw [if_pos hsteps]
    refine (consume_queue hphase _).trans ?_
    exact congrArg (fun waiting => ({ e.queue with
      sourcePhase := (arithmetic.advance e.step e.sourcePhase).1
      waiting := waiting } : AudioQueue Step Phase α)) (hall _)
  · have hnone : (arithmetic.advance e.step e.sourcePhase).2 = 0 := not_not.mp hsteps
    show _ = ({ e.queue with
      sourcePhase := (arithmetic.advance e.step e.sourcePhase).1
      waiting := e.contents.drop ((arithmetic.advance e.step e.sourcePhase).2 *
        e.config.channels) } : AudioQueue Step Phase α)
    rw [hnone, Nat.zero_mul, List.drop_zero]
    rfl

theorem renderFrames_queue (frames : ℕ) (h : e.Valid) : (e.renderFrames arithmetic frames).1.Valid ∧
      ((e.renderFrames arithmetic frames).1.queue, (e.renderFrames arithmetic frames).2) =
        e.queue.renderFrames arithmetic frames := by
  induction frames generalizing e with
  | zero => exact ⟨h, rfl⟩
  | succ frames ih =>
    obtain ⟨hadvanced, hqueue⟩ := advance_queue arithmetic h
    obtain ⟨hvalid, hrest⟩ := ih hadvanced
    refine ⟨hvalid, ?_⟩
    rw [hqueue] at hrest
    show (_, e.outputFrame :: _) = (_, _)
    rw [← hrest, outputFrame_eq]
    rfl

theorem render_queue (h : e.Valid) (size : ℕ) : (e.render arithmetic size).1.Valid ∧
      ((e.render arithmetic size).1.queue, (e.render arithmetic size).2) =
        e.queue.render arithmetic size := by
  obtain ⟨hflushed, hqueue⟩ := flush_queue arithmetic h
  obtain ⟨hvalid, hrendered⟩ :=
    renderFrames_queue arithmetic (size / e.config.channels) hflushed
  refine ⟨hvalid, hrendered.trans ?_⟩
  rw [hqueue]
  rfl

end AudioEngine

end ProtoTime.Host
