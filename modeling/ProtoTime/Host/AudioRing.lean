import ProtoTime.Host.AudioEngine

/-!
The ring of the audio engine as a queue: what a push, a flush and a consumption do to the
samples that wait, and the chunk that is staged beside them.
-/
namespace ProtoTime.Host.AudioEngine

variable {Step Phase α : Type}

/-- The samples that are staged for a stream that starts over. -/
def staged (e : AudioEngine Step Phase α) : List α :=
  match e.deferredResetPublishedSlot with
  | none => []
  | some slot => (e.deferredResetChunks slot).take e.deferredResetPublishedSize

/-- The cursors lie in the ring and the buffers have their configured sizes. -/
structure Valid (e : AudioEngine Step Phase α) : Prop where
  length : e.buffer.length = e.config.capacity
  read : e.buffer.length ≠ 0 → e.readIndex < e.buffer.length
  write : e.buffer.length ≠ 0 → e.writeIndex < e.buffer.length
  chunks : ∀ slot, (e.deferredResetChunks slot).length = e.config.chunkCapacity

theorem wrap {cursor size i : ℕ} (hcursor : cursor < size) (hi : i ≤ size) :
    (cursor + i) % size = if cursor + i < size then cursor + i else cursor + i - size := by
  split_ifs with h
  · exact Nat.mod_eq_of_lt h
  · rw [Nat.mod_eq_sub_mod (by omega), Nat.mod_eq_of_lt (by omega)]

variable {e : AudioEngine Step Phase α}

theorem bufferedSamples_lt (h : e.Valid)
    (hzero : e.buffer.length ≠ 0) : e.bufferedSamples < e.buffer.length := by
  have hwrite := h.write hzero
  unfold bufferedSamples
  split_ifs <;> omega

/-- The room that a ring of a size has left. -/
def room (e : AudioEngine Step Phase α) : ℕ := e.config.usableCapacity - e.bufferedSamples

theorem writableCapacitySamples_eq (h : e.Valid) :
    e.writableCapacitySamples = e.room := by
  unfold writableCapacitySamples room AudioEngineConfig.usableCapacity
  rw [← h.length]
  dsimp only
  split_ifs <;> omega

variable [Inhabited α]

/-- The samples that wait in the ring, oldest first. -/
def contents (e : AudioEngine Step Phase α) : List α :=
  (List.range e.bufferedSamples).map fun i =>
    e.buffer.getD ((e.readIndex + i) % e.buffer.length) default

variable (arithmetic : PhaseArithmetic Step Phase)

theorem new_valid (config : AudioEngineConfig)
    (step : Step) : (new arithmetic config step : AudioEngine Step Phase α).Valid := by
  refine ⟨List.length_replicate, ?_, ?_, fun _ => List.length_replicate⟩
  · intro h
    exact Nat.pos_of_ne_zero h
  · intro h
    exact Nat.pos_of_ne_zero h

@[simp] theorem length_contents (e : AudioEngine Step Phase α) :
    e.contents.length = e.bufferedSamples := by
  simp [contents]

theorem peekSample_eq (e : AudioEngine Step Phase α) (offset : ℕ) :
    e.peekSample offset = e.contents[offset]? := by
  have hcontents : e.contents[offset]? = if offset < e.bufferedSamples then
      some (e.buffer.getD ((e.readIndex + offset) % e.buffer.length) default) else none := by
    unfold contents
    rw [List.getElem?_map]
    split_ifs with h
    · rw [List.getElem?_range h]
      rfl
    · rw [List.getElem?_eq_none (by rw [List.length_range]; omega)]
      rfl
  rw [hcontents]
  unfold peekSample
  by_cases hzero : e.buffer.length = 0
  · have hnone : e.bufferedSamples = 0 := if_pos hzero
    rw [if_pos hzero, if_neg (by omega)]
  · split_ifs <;> first | rfl | omega

section

variable (h : e.Valid)

include h

/-- A push puts a sample behind the others as long as there is room. -/
theorem push_contents (sample : α) :
    ∃ buffer writeIndex, (e.pushSampleNoOverwrite sample).1 =
        { e with buffer := buffer, writeIndex := writeIndex } ∧
      (e.pushSampleNoOverwrite sample).1.Valid ∧
      (e.pushSampleNoOverwrite sample).1.contents = e.contents ++ [sample].take e.room := by
  have hroom : e.room = e.config.usableCapacity - e.bufferedSamples := rfl
  unfold AudioEngineConfig.usableCapacity at hroom
  rw [← h.length] at hroom
  unfold pushSampleNoOverwrite
  by_cases hsmall : e.buffer.length ≤ 1
  · rw [if_pos hsmall]
    rw [if_neg (by omega)] at hroom
    have hnone : e.room = 0 := by omega
    refine ⟨_, _, rfl, h, ?_⟩
    rw [hnone, List.take_zero, List.append_nil]
  · have hread := h.read (by omega)
    have hwrite := h.write (by omega)
    have hnext := wrap hwrite (show 1 ≤ e.buffer.length by omega)
    have hbuffered : e.bufferedSamples = if e.readIndex ≤ e.writeIndex then
        e.writeIndex - e.readIndex else e.buffer.length - (e.readIndex - e.writeIndex) := by
      unfold bufferedSamples
      rw [if_neg (by omega)]
    rw [if_pos (by omega)] at hroom
    rw [if_neg hsmall]
    dsimp only
    by_cases hfull : (e.writeIndex + 1) % e.buffer.length = e.readIndex
    · rw [if_pos hfull]
      have hnone : e.room = 0 := by
        rw [hnext] at hfull
        split_ifs at hfull hbuffered <;> omega
      refine ⟨_, _, rfl, h, ?_⟩
      rw [hnone, List.take_zero, List.append_nil]
    · rw [if_neg hfull]
      have hlength : (e.buffer.set e.writeIndex sample).length = e.buffer.length :=
        List.length_set
      have hsome : 1 ≤ e.room := by
        rw [hnext] at hfull
        split_ifs at hfull hbuffered <;> omega
      have hmore : (({ e with
            buffer := e.buffer.set e.writeIndex sample
            writeIndex := (e.writeIndex + 1) % e.buffer.length } :
          AudioEngine Step Phase α)).bufferedSamples = e.bufferedSamples + 1 := by
        unfold bufferedSamples
        dsimp only
        rw [hlength, if_neg (by omega), hnext]
        rw [hnext] at hfull
        change _ = e.bufferedSamples + 1
        split_ifs at hfull hbuffered ⊢ <;> omega
      refine ⟨_, _, rfl, ⟨hlength.trans h.length, ?_, ?_, h.chunks⟩, ?_⟩
      · intro _
        exact hlength.symm ▸ hread
      · intro _
        exact hlength.symm ▸ Nat.mod_lt _ (by omega)
      · rw [List.take_of_length_le (show [sample].length ≤ e.room from hsome)]
        unfold contents
        rw [hmore]
        dsimp only
        rw [List.range_succ, List.map_append, hlength]
        congr 1
        · apply List.map_congr_left
          intro i hi
          have hlt := List.mem_range.mp hi
          have hat := wrap hread (show i ≤ e.buffer.length by
            have := bufferedSamples_lt h (by omega)
            omega)
          rw [List.getD_eq_getElem?_getD, List.getD_eq_getElem?_getD, List.getElem?_set_ne]
          rw [hat]
          split_ifs at hbuffered ⊢ <;> omega
        · have hat := wrap hread (show e.bufferedSamples ≤ e.buffer.length from
            Nat.le_of_lt (bufferedSamples_lt h (by omega)))
          have heq : (e.readIndex + e.bufferedSamples) % e.buffer.length = e.writeIndex := by
            rw [hat]
            split_ifs at hbuffered ⊢ <;> omega
          show [(e.buffer.set e.writeIndex sample).getD
            ((e.readIndex + e.bufferedSamples) % e.buffer.length) default] = [sample]
          rw [heq, List.getD_eq_getElem?_getD, List.getElem?_set_self hwrite]
          rfl

/-- Pushes put the samples behind the others as far as there is room. -/
theorem pushAll_contents (samples : List α) :
    ∃ buffer writeIndex, e.pushAll samples = { e with buffer := buffer, writeIndex := writeIndex } ∧
      (e.pushAll samples).Valid ∧
      (e.pushAll samples).contents = e.contents ++ samples.take e.room := by
  induction samples generalizing e with
  | nil => exact ⟨_, _, rfl, h, by rw [List.take_nil, List.append_nil]; rfl⟩
  | cons sample samples ih =>
    obtain ⟨buffer, writeIndex, heq, hvalid, hcontents⟩ := push_contents h sample
    obtain ⟨buffer', writeIndex', heq', hvalid', hcontents'⟩ := ih hvalid
    have hconfig : (e.pushSampleNoOverwrite sample).1.config = e.config := by rw [heq]
    refine ⟨buffer', writeIndex', ?_, hvalid', ?_⟩
    · refine heq'.trans ?_
      rw [heq]
    · refine hcontents'.trans ?_
      have hlength := congrArg List.length hcontents
      rw [List.length_append, length_contents, length_contents, List.length_take,
        List.length_singleton] at hlength
      have hroom : (e.pushSampleNoOverwrite sample).1.room = e.room - min e.room 1 := by
        have hdef : e.room = e.config.usableCapacity - e.bufferedSamples := rfl
        show (e.pushSampleNoOverwrite sample).1.config.usableCapacity -
          (e.pushSampleNoOverwrite sample).1.bufferedSamples = _
        rw [hconfig, hlength]
        omega
      rw [hcontents, hroom, List.append_assoc]
      congr 1
      cases e.room with
      | zero => rfl
      | succ room =>
        have hone : room + 1 - min (room + 1) 1 = room := by omega
        rw [List.take_succ_cons, List.take_succ_cons, List.take_nil, hone]
        rfl

theorem consume_contents (count : ℕ) :
    ∃ readIndex, e.consumeSamples count = { e with readIndex := readIndex } ∧
      (e.consumeSamples count).Valid ∧
      (e.consumeSamples count).contents = e.contents.drop count := by
  unfold consumeSamples
  by_cases hnone : e.buffer.length = 0 ∨ count = 0
  · rw [if_pos hnone]
    refine ⟨_, rfl, h, ?_⟩
    rcases hnone with hzero | hcount
    · have hempty : e.contents = [] := by
        apply List.eq_nil_of_length_eq_zero
        rw [length_contents]
        exact if_pos hzero
      rw [hempty, List.drop_nil]
    · rw [hcount, List.drop_zero]
  · rw [if_neg hnone]
    dsimp only
    have hzero : e.buffer.length ≠ 0 := fun hzero => hnone (.inl hzero)
    have hread := h.read hzero
    have hwrite := h.write hzero
    have hbuffered : e.bufferedSamples = if e.readIndex ≤ e.writeIndex then
        e.writeIndex - e.readIndex else e.buffer.length - (e.readIndex - e.writeIndex) := if_neg hzero
    have hlt := bufferedSamples_lt h hzero
    by_cases hsome : min count e.bufferedSamples = 0
    · rw [if_pos hsome]
      refine ⟨_, rfl, h, ?_⟩
      rw [List.drop_eq_nil_of_le (by rw [length_contents]; omega)]
      apply List.eq_nil_of_length_eq_zero
      rw [length_contents]
      omega
    · rw [if_neg hsome]
      have hwrap := wrap hread (show min count e.bufferedSamples ≤ e.buffer.length by omega)
      refine ⟨_, rfl, ⟨h.length, fun _ => Nat.mod_lt _ (by omega), h.write, h.chunks⟩, ?_⟩
      have hless : ({ e with readIndex := (e.readIndex + min count e.bufferedSamples) %
          e.buffer.length } : AudioEngine Step Phase α).bufferedSamples =
          e.bufferedSamples - min count e.bufferedSamples := by
        refine (if_neg hzero).trans ?_
        show (if (e.readIndex + min count e.bufferedSamples) % e.buffer.length ≤ e.writeIndex then
          e.writeIndex - (e.readIndex + min count e.bufferedSamples) % e.buffer.length
          else e.buffer.length -
            ((e.readIndex + min count e.bufferedSamples) % e.buffer.length - e.writeIndex)) = _
        rw [hwrap]
        generalize e.bufferedSamples = buffered at *
        split_ifs at hbuffered ⊢ <;> omega
      unfold contents
      rw [hless]
      dsimp only
      apply List.ext_getElem
      · simp
        omega
      · intro i hi hi'
        rw [List.getElem_drop, List.getElem_map, List.getElem_map, List.getElem_range,
          List.getElem_range, Nat.mod_add_mod]
        rw [List.length_map, List.length_range] at hi
        congr 2
        omega

theorem flush_contents (phase : Phase) :
    ({ e with sourcePhase := phase, readIndex := e.writeIndex } :
        AudioEngine Step Phase α).Valid ∧
      ({ e with sourcePhase := phase, readIndex := e.writeIndex } :
        AudioEngine Step Phase α).contents = [] := by
  refine ⟨⟨h.length, h.write, h.write, h.chunks⟩, ?_⟩
  apply List.eq_nil_of_length_eq_zero
  rw [length_contents]
  unfold bufferedSamples
  dsimp only
  split_ifs <;> omega

/-- The chunk that is staged is the newest part of the samples. -/
theorem stage_staged (pcm : List α) :
    (e.stageDeferredResetChunk pcm).Valid ∧
      (e.stageDeferredResetChunk pcm).contents = e.contents ∧
      (e.stageDeferredResetChunk pcm).staged =
        pcm.drop (pcm.length - min pcm.length e.config.chunkCapacity) := by
  have hfilled : ∀ slot, (pcm.drop (pcm.length - min pcm.length (e.deferredResetChunks slot).length) ++
      (e.deferredResetChunks slot).drop (min pcm.length (e.deferredResetChunks slot).length)).length =
      e.config.chunkCapacity := by
    intro slot
    have hlength := h.chunks slot
    rw [List.length_append, List.length_drop, List.length_drop]
    omega
  refine ⟨⟨h.length, h.read, h.write, ?_⟩, rfl, ?_⟩
  · intro slot
    unfold stageDeferredResetChunk
    dsimp only
    by_cases hslot : slot = e.targetSlot
    · rw [hslot, Function.update_self]
      exact hfilled _
    · rw [Function.update_of_ne hslot]
      exact h.chunks slot
  · unfold staged stageDeferredResetChunk
    dsimp only
    rw [Function.update_self, h.chunks]
    apply List.take_left'
    rw [List.length_drop]
    omega

/-- A stream that starts over is staged for the next flush, and so is what follows until then. -/
theorem append_staged {pcm : List α}
    {frameCounter : ℕ} (hpcm : pcm ≠ []) (hcounter : e.lastFrameCounter = 0 ∨
      frameCounter < e.lastFrameCounter ∨ e.lastFrameCounter < frameCounter)
    (hreset : frameCounter < e.lastFrameCounter ∨ e.pendingReset = true) :
    (e.appendRecentPcm pcm frameCounter).Valid ∧
      (e.appendRecentPcm pcm frameCounter).config = e.config ∧
      (e.appendRecentPcm pcm frameCounter).pendingReset = true ∧
      (e.appendRecentPcm pcm frameCounter).contents = e.contents ∧
      (e.appendRecentPcm pcm frameCounter).staged =
        pcm.drop (pcm.length - min pcm.length e.config.chunkCapacity) := by
  obtain ⟨hvalid, hcontents, hstaged⟩ := stage_staged h pcm
  unfold appendRecentPcm
  rw [if_neg (by simpa using hpcm), if_neg (not_not_intro hcounter)]
  by_cases hlower : frameCounter < e.lastFrameCounter
  · rw [if_pos hlower]
    exact ⟨⟨hvalid.length, hvalid.read, hvalid.write, hvalid.chunks⟩, rfl, rfl, hcontents, hstaged⟩
  · have hpending := hreset.resolve_left hlower
    rw [if_neg hlower, if_pos hpending]
    exact ⟨⟨hvalid.length, hvalid.read, hvalid.write, hvalid.chunks⟩, rfl, hpending, hcontents,
      hstaged⟩

/-- A stream that goes on goes into the ring as far as there is room; the newest samples are
kept. -/
theorem append_live {pcm : List α} {frameCounter : ℕ} (hpcm : pcm ≠ [])
    (hcounter : e.lastFrameCounter = 0 ∨ e.lastFrameCounter < frameCounter)
    (hidle : e.pendingReset = false) :
    (e.appendRecentPcm pcm frameCounter).Valid ∧
      (e.appendRecentPcm pcm frameCounter).config = e.config ∧
      (e.appendRecentPcm pcm frameCounter).pendingReset = false ∧
      (e.appendRecentPcm pcm frameCounter).lastFrameCounter = frameCounter ∧
      (e.appendRecentPcm pcm frameCounter).contents =
        e.contents ++ pcm.drop (pcm.length - min pcm.length e.room) := by
  obtain ⟨buffer, writeIndex, heq, hpushed, hmore⟩ :=
    pushAll_contents h (pcm.drop (pcm.length - min pcm.length e.room))
  rw [List.take_of_length_le (by rw [List.length_drop]; omega)] at hmore
  unfold appendRecentPcm
  rw [if_neg (by simpa using hpcm), if_neg (by omega), if_neg (by omega),
    if_neg (by rw [hidle]; decide), writableCapacitySamples_eq h]
  refine ⟨⟨hpushed.length, hpushed.read, hpushed.write, hpushed.chunks⟩, ?_, ?_, rfl, hmore⟩
  · rw [heq]
  · dsimp only
    rw [heq]
    exact hidle

/-- What an append does: the span is refused, staged in place of an older one, or goes into the
ring. -/
theorem append_cases (pcm : List α) (frameCounter : ℕ) :
    (e.appendRecentPcm pcm frameCounter).Valid ∧
      (e.appendRecentPcm pcm frameCounter).config = e.config ∧
      (e.appendRecentPcm pcm frameCounter = e ∨
        ((e.appendRecentPcm pcm frameCounter).pendingReset = true ∧
          (e.appendRecentPcm pcm frameCounter).contents = e.contents ∧
          (e.appendRecentPcm pcm frameCounter).staged =
            pcm.drop (pcm.length - min pcm.length e.config.chunkCapacity)) ∨
        (e.pendingReset = false ∧
          (e.appendRecentPcm pcm frameCounter).pendingReset = false ∧
          (e.appendRecentPcm pcm frameCounter).contents =
            e.contents ++ pcm.drop (pcm.length - min pcm.length e.room))) := by
  by_cases hpcm : pcm = []
  · have hsame : e.appendRecentPcm pcm frameCounter = e := by
      rw [hpcm]
      rfl
    rw [hsame]
    exact ⟨h, rfl, .inl rfl⟩
  by_cases hcounter : e.lastFrameCounter = 0 ∨ frameCounter < e.lastFrameCounter ∨
      e.lastFrameCounter < frameCounter
  · by_cases hreset : frameCounter < e.lastFrameCounter ∨ e.pendingReset = true
    · obtain ⟨hvalid, hconfig, hstaged⟩ := append_staged h hpcm hcounter hreset
      exact ⟨hvalid, hconfig, .inr (.inl hstaged)⟩
    · have hidle : e.pendingReset = false := Bool.eq_false_iff.mpr fun htrue => hreset (.inr htrue)
      obtain ⟨hvalid, hconfig, hclear, _, hmore⟩ :=
        @append_live _ _ _ e _ h pcm frameCounter hpcm (by omega) hidle
      exact ⟨hvalid, hconfig, .inr (.inr ⟨hidle, hclear, hmore⟩)⟩
  · have hsame : e.appendRecentPcm pcm frameCounter = e := by
      unfold appendRecentPcm
      rw [if_neg (by simpa using hpcm), if_pos hcounter]
    rw [hsame]
    exact ⟨h, rfl, .inl rfl⟩

/-- The staged chunk goes into an empty ring as far as it fits. -/
theorem publish_spec (hnone : e.contents = []) :
    e.publishDeferredResetChunk.1.Valid ∧ e.publishDeferredResetChunk.1.config = e.config ∧
      e.publishDeferredResetChunk.1.contents = e.staged.take e.config.usableCapacity ∧
      e.publishDeferredResetChunk.1.staged = [] := by
  unfold publishDeferredResetChunk
  cases hslot : e.deferredResetPublishedSlot with
  | none =>
    have hstaged : e.staged = [] := by
      unfold staged
      rw [hslot]
    refine ⟨h, rfl, ?_, hstaged⟩
    rw [hstaged, List.take_nil]
    exact hnone
  | some slot =>
    have hstaged : e.staged = (e.deferredResetChunks slot).take e.deferredResetPublishedSize := by
      unfold staged
      rw [hslot]
    have hstart : ({ e with
          deferredResetPublishedSlot := none, deferredResetPublishedSize := 0 } :
        AudioEngine Step Phase α).Valid := ⟨h.length, h.read, h.write, h.chunks⟩
    have hroom : ({ e with
          deferredResetPublishedSlot := none, deferredResetPublishedSize := 0 } :
        AudioEngine Step Phase α).room = e.config.usableCapacity := by
      have hlength := congrArg List.length hnone
      rw [length_contents] at hlength
      show e.config.usableCapacity - e.bufferedSamples = _
      rw [hlength]
      rfl
    obtain ⟨buffer, writeIndex, heq, hpushed, hmore⟩ := pushAll_contents hstart e.staged
    rw [hroom] at hmore
    dsimp only
    rw [← hstaged]
    refine ⟨hpushed, ?_, hmore.trans ?_, ?_⟩
    · rw [heq]
    · show e.contents ++ _ = _
      rw [hnone, List.nil_append]
    · rw [heq]
      rfl

/-- What the start of a render does: the old stream goes, and the staged one comes in as far as
it fits. -/
theorem flushPendingReset_spec :
    (e.flushPendingReset arithmetic).Valid ∧
      (e.flushPendingReset arithmetic).config = e.config ∧
      (e.pendingReset = false → e.flushPendingReset arithmetic = e) ∧
      (e.pendingReset = true →
        (e.flushPendingReset arithmetic).contents = e.staged.take e.config.usableCapacity ∧
          (e.flushPendingReset arithmetic).staged = []) := by
  unfold flushPendingReset
  by_cases hpending : e.pendingReset = true
  · rw [if_pos hpending]
    obtain ⟨hflushed, hnone⟩ := flush_contents h arithmetic.zero
    obtain ⟨hvalid, hconfig, hcontents, hstaged⟩ := publish_spec hflushed hnone
    have hpending' : e.pendingReset ≠ false := by
      rw [hpending]
      decide
    dsimp only
    split
    · exact ⟨⟨hvalid.length, hvalid.read, hvalid.write, hvalid.chunks⟩, hconfig,
        fun hfalse => absurd hfalse hpending', fun _ => ⟨hcontents, hstaged⟩⟩
    · exact ⟨hvalid, hconfig, fun hfalse => absurd hfalse hpending',
        fun _ => ⟨hcontents, hstaged⟩⟩
  · rw [if_neg hpending]
    exact ⟨h, rfl, fun _ => rfl, fun htrue => absurd htrue hpending⟩

/-- What the end of an output frame does: whole frames leave the ring, as far as it has them. -/
theorem advanceFrame_spec :
    (e.advanceFrame arithmetic).Valid ∧ (e.advanceFrame arithmetic).config = e.config ∧
      (e.advanceFrame arithmetic).pendingReset = e.pendingReset ∧
      (e.advanceFrame arithmetic).staged = e.staged ∧
      ∃ wholeSteps, (e.advanceFrame arithmetic).contents =
        e.contents.drop (wholeSteps * e.config.channels) := by
  unfold advanceFrame
  dsimp only
  have hphase : ({ e with sourcePhase := (arithmetic.advance e.step e.sourcePhase).1 } :
      AudioEngine Step Phase α).Valid := ⟨h.length, h.read, h.write, h.chunks⟩
  by_cases hsteps : (arithmetic.advance e.step e.sourcePhase).2 ≠ 0
  · rw [if_pos hsteps]
    obtain ⟨readIndex, heq, hconsumed, hless⟩ := consume_contents hphase
      (min ((arithmetic.advance e.step e.sourcePhase).2 * e.config.channels) e.bufferedSamples)
    refine ⟨hconsumed, ?_, ?_, ?_, (arithmetic.advance e.step e.sourcePhase).2, hless.trans ?_⟩
    · exact (congrArg config heq).trans rfl
    · exact (congrArg pendingReset heq).trans rfl
    · exact (congrArg staged heq).trans rfl
    · show e.contents.drop _ = _
      rw [← length_contents]
      rcases Nat.le_total ((arithmetic.advance e.step e.sourcePhase).2 * e.config.channels)
        e.contents.length with hle | hle
      · rw [Nat.min_eq_left hle]
      · rw [Nat.min_eq_right hle, List.drop_length, List.drop_eq_nil_of_le hle]
  · rw [if_neg hsteps]
    exact ⟨hphase, rfl, rfl, rfl, 0, by rw [Nat.zero_mul, List.drop_zero]; rfl⟩

/-- What the ring holds after a stream started over and was flushed. -/
theorem contents_of_reset (hidle : e.pendingReset = false) (hcounter : e.lastFrameCounter = 0)
    {before after : List α} (hbefore : before ≠ []) (hafter : after ≠ []) :
    (((e.appendRecentPcm before 2).appendRecentPcm after 1).flushPendingReset arithmetic).config =
        e.config ∧
      (((e.appendRecentPcm before 2).appendRecentPcm after 1).flushPendingReset
          arithmetic).contents =
        (after.drop (after.length - min after.length e.config.chunkCapacity)).take
          e.config.usableCapacity := by
  obtain ⟨hvalid, hconfig, _, hlast, _⟩ :=
    @append_live _ _ _ e _ h before 2 hbefore (.inl hcounter) hidle
  have hlower : 1 < (e.appendRecentPcm before 2).lastFrameCounter := by
    rw [hlast]
    decide
  obtain ⟨hvalid', hconfig', hset, _, hstaged⟩ :=
    append_staged hvalid hafter (.inr (.inl hlower)) (.inl hlower)
  obtain ⟨_, hflushedConfig, _, hflushed⟩ := flushPendingReset_spec arithmetic hvalid'
  rw [hconfig] at hconfig' hstaged
  rw [hconfig'] at hflushedConfig
  refine ⟨hflushedConfig, ?_⟩
  rw [(hflushed hset).1, hconfig', hstaged]

end

end ProtoTime.Host.AudioEngine
