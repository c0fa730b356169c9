import ProtoTime.Host.AudioQueue
import ProtoTime.Host.AudioService

/-!
Where the samples of the audio service come from: what the queues keep and deliver was in them
or was submitted since, so that nothing of an epoch before is delivered once it has left them.
-/
namespace ProtoTime.Host

variable {Step Phase State α : Type}

/-- The samples that an output sample is mixed from. -/
def Played.All (P : α → Prop) : Played Phase α → Prop
  | .silence => True
  | .mixed _ current next => P current ∧ P next

namespace AudioQueue

/-- Every sample in the queue and in the chunk that is set aside. -/
def Keeps (P : α → Prop) (q : AudioQueue Step Phase α) : Prop :=
  (∀ sample ∈ q.waiting, P sample) ∧ ∀ chunk ∈ q.deferred, ∀ sample ∈ chunk, P sample

variable {P : α → Prop}

theorem mem_of_mem_newest {room : ℕ} {pcm : List α} {sample : α}
    (h : sample ∈ newest room pcm) : sample ∈ pcm := List.mem_of_mem_drop h

variable {q : AudioQueue Step Phase α}

section

variable (h : q.Keeps P) (arithmetic : PhaseArithmetic Step Phase)
include h

theorem append_keeps {pcm : List α} (hpcm : ∀ sample ∈ pcm, P sample) (frameCounter : ℕ) :
    (q.append pcm frameCounter).Keeps P := by
  unfold append
  split_ifs
  · exact h
  · refine ⟨h.1, ?_⟩
    intro chunk hchunk sample hsample
    obtain rfl := Option.some.inj hchunk
    exact hpcm sample (mem_of_mem_newest hsample)
  · refine ⟨?_, h.2⟩
    intro sample hsample
    rcases List.mem_append.mp hsample with hold | hnew
    · exact h.1 sample hold
    · exact hpcm sample (mem_of_mem_newest hnew)

theorem flush_keeps : (q.flush arithmetic).Keeps P := by
  unfold flush
  split_ifs
  · refine ⟨?_, fun chunk hchunk => nomatch hchunk⟩
    intro sample hsample
    have hmem := List.mem_of_mem_take hsample
    cases hdeferred : q.deferred with
    | none =>
      rw [hdeferred] at hmem
      cases hmem
    | some chunk =>
      rw [hdeferred] at hmem
      exact h.2 chunk hdeferred sample hmem
  · exact h

theorem outputFrame_all : ∀ played ∈ q.outputFrame, played.All P := by
  intro played hplayed
  obtain ⟨channel, _, rfl⟩ := List.mem_map.mp hplayed
  cases hcurrent : q.waiting[channel]? with
  | none => trivial
  | some current =>
    have hP := h.1 current (List.mem_of_getElem? hcurrent)
    refine ⟨hP, ?_⟩
    cases hnext : q.waiting[q.config.channels + channel]? with
    | none => exact hP
    | some next => exact h.1 next (List.mem_of_getElem? hnext)

theorem advance_keeps : (q.advance arithmetic).Keeps P :=
  ⟨fun sample hsample => h.1 sample (List.mem_of_mem_drop hsample), h.2⟩

theorem renderFrames_keeps (frames : ℕ) :
    (q.renderFrames arithmetic frames).1.Keeps P ∧
      ∀ played ∈ (q.renderFrames arithmetic frames).2.flatten, played.All P := by
  induction frames generalizing q with
  | zero => exact ⟨h, fun played hplayed => nomatch hplayed⟩
  | succ frames ih =>
    obtain ⟨hkept, hplayed⟩ := ih (advance_keeps h arithmetic)
    refine ⟨hkept, ?_⟩
    intro played hmem
    rcases List.mem_append.mp hmem with hfirst | hrest
    · exact outputFrame_all h played hfirst
    · exact hplayed played hrest

theorem render_keeps (size : ℕ) :
    (q.render arithmetic size).1.Keeps P ∧
      ∀ played ∈ (q.render arithmetic size).2.flatten, played.All P :=
  renderFrames_keeps (flush_keeps h arithmetic) arithmetic _

end

theorem length_renderFrames (q : AudioQueue Step Phase α)
    (arithmetic : PhaseArithmetic Step Phase) (frames : ℕ) :
    (q.renderFrames arithmetic frames).2.flatten.length = frames * q.config.channels ∧
      (q.renderFrames arithmetic frames).1.config = q.config := by
  induction frames generalizing q with
  | zero => exact ⟨(Nat.zero_mul _).symm, rfl⟩
  | succ frames ih =>
    obtain ⟨hlength, hconfig⟩ := ih (q.advance arithmetic)
    refine ⟨?_, hconfig⟩
    show (q.outputFrame ++ _).length = _
    rw [List.length_append, hlength, Nat.succ_mul, Nat.add_comm]
    congr 1
    unfold outputFrame
    rw [List.length_map, List.length_range]

theorem flush_config (q : AudioQueue Step Phase α) (arithmetic : PhaseArithmetic Step Phase) :
    (q.flush arithmetic).config = q.config := by
  unfold flush
  split_ifs <;> rfl

theorem append_config (q : AudioQueue Step Phase α) (pcm : List α) (frameCounter : ℕ) :
    (q.append pcm frameCounter).config = q.config := by
  unfold append
  split_ifs <;> rfl

theorem length_render (q : AudioQueue Step Phase α) (arithmetic : PhaseArithmetic Step Phase)
    (size : ℕ) :
    (q.render arithmetic size).2.flatten.length = size / q.config.channels * q.config.channels ∧
      (q.render arithmetic size).1.config = q.config := by
  have h := length_renderFrames (q.flush arithmetic) arithmetic (size / q.config.channels)
  rw [flush_config] at h
  exact h

end AudioQueue

namespace AudioEngine

variable [Inhabited α]

theorem render_keeps {P : α → Prop} {e : AudioEngine Step Phase α} (h : e.Valid)
    (hqueue : e.queue.Keeps P) (arithmetic : PhaseArithmetic Step Phase) (size : ℕ) :
    (e.render arithmetic size).1.Valid ∧ (e.render arithmetic size).1.queue.Keeps P ∧
      ∀ played ∈ (e.render arithmetic size).2.flatten, played.All P := by
  obtain ⟨hvalid, hrender⟩ := render_queue arithmetic h size
  obtain ⟨hkept, hplayed⟩ := AudioQueue.render_keeps hqueue arithmetic size
  rw [← hrender] at hkept hplayed
  exact ⟨hvalid, hkept, hplayed⟩

end AudioEngine

namespace AudioService

variable [Inhabited α]

/-- Everything in the service, and everything that a submission holds, comes from blocks of an
epoch or a later one. -/
structure Since (epoch : ℕ) (s : AudioService Step Phase State α) : Prop where
  valid : s.engine.Valid
  queue : s.engine.queue.Keeps fun sample => epoch ≤ sample.epoch
  reached : epoch ≤ s.transportEpoch
  source : ∀ block ∈ s.sourceBlocks, epoch ≤ block.lifecycleEpoch
  submitting : ∀ block ∈ s.submitting, epoch ≤ block.lifecycleEpoch
  scratch : ∀ played ∈ s.producerScratch, played.All fun sample => epoch ≤ sample.epoch
  ready : ∀ block ∈ s.readyBlocks, ∀ played ∈ block, played.All fun sample => epoch ≤ sample.epoch

section Since

variable {epoch : ℕ} {s : AudioService Step Phase State α}

omit [Inhabited α] in
theorem silence_all {P : Stamped α → Prop} {size : ℕ} :
    ∀ played ∈ (silence size : List (Played Phase (Stamped α))), played.All P := by
  intro played hplayed
  rw [(List.mem_replicate.mp hplayed).2]
  trivial

omit [Inhabited α] in
theorem new_keeps {P : α → Prop} (arithmetic : PhaseArithmetic Step Phase)
    (config : AudioEngineConfig) (step : Step) :
    (AudioQueue.new arithmetic config step : AudioQueue Step Phase α).Keeps P :=
  ⟨(fun _ hsample => nomatch hsample), (fun _ hchunk => nomatch hchunk)⟩

section

variable (h : s.Since epoch) (resampling : Resampling Step Phase)
  (processors : AudioPipeline State α)
include h

theorem drainBlock_since (chunkOversize : Bool) {block : AudioSourceBlock α}
    (hblock : epoch ≤ block.lifecycleEpoch) :
    (drainBlock processors chunkOversize s block).Since epoch := by
  unfold drainBlock
  split_ifs
  · exact h
  · obtain ⟨hvalid, hqueue⟩ := AudioEngine.append_queue h.valid
      ((processors.processSource s.pipelineOutputScratch chunkOversize s.pipeline block).2.map
        (Stamped.mk block.lifecycleEpoch)) block.frameCounter
    refine ⟨hvalid, ?_, h.reached, h.source, h.submitting, h.scratch, h.ready⟩
    rw [hqueue]
    apply AudioQueue.append_keeps h.queue
    intro sample hsample
    obtain ⟨_, _, rfl⟩ := List.mem_map.mp hsample
    exact hblock

theorem drainSourceBlocks_since (chunkOversize : Bool) :
    (s.drainSourceBlocks processors chunkOversize).Since epoch := by
  have hall : ∀ (blocks : List (AudioSourceBlock α)) (s : AudioService Step Phase State α),
      s.Since epoch → (∀ block ∈ blocks, epoch ≤ block.lifecycleEpoch) →
        (blocks.foldl (drainBlock processors chunkOversize) s).Since epoch := by
    intro blocks
    induction blocks with
    | nil => exact fun _ h _ => h
    | cons block blocks ih =>
      intro s h hblocks
      exact ih _ (drainBlock_since h processors chunkOversize (hblocks block (List.mem_cons_self ..)))
        fun other hother => hblocks other (List.mem_cons_of_mem _ hother)
  have hdrained := hall s.sourceBlocks s h h.source
  exact ⟨hdrained.valid, hdrained.queue, hdrained.reached, (fun block hblock => nomatch hblock),
    hdrained.submitting, hdrained.scratch, hdrained.ready⟩

theorem maybeMarkTransportPrimed_since :
    s.maybeMarkTransportPrimed.Since epoch := by
  unfold maybeMarkTransportPrimed
  split_ifs
  · exact h
  · exact ⟨h.valid, h.queue, h.reached, h.source, h.submitting, h.scratch, h.ready⟩

theorem renderReadyBlock_since : (s.renderReadyBlock resampling).Since epoch := by
  obtain ⟨hvalid, hkept, hplayed⟩ := AudioEngine.render_keeps h.valid h.queue
    resampling.toPhaseArithmetic s.producerScratch.length
  have hsamples : ∀ played ∈ (s.engine.render resampling.toPhaseArithmetic
        s.producerScratch.length).2.flatten ++ s.producerScratch.drop
        (s.engine.render resampling.toPhaseArithmetic s.producerScratch.length).2.flatten.length,
      played.All fun sample => epoch ≤ sample.epoch := by
    intro played hmem
    rcases List.mem_append.mp hmem with hnew | hold
    · exact hplayed played hnew
    · exact h.scratch played (List.mem_of_mem_drop hold)
  apply maybeMarkTransportPrimed_since
  refine ⟨hvalid, hkept, h.reached, h.source, h.submitting, hsamples, ?_⟩
  intro block hblock
  rcases List.mem_append.mp hblock with hold | hnew
  · exact h.ready block hold
  · rw [List.mem_singleton.mp hnew]
    exact hsamples

theorem produceReadyOutputBlock_since :
    (s.produceReadyOutputBlock resampling processors).1.Since epoch := by
  have hdrained := drainSourceBlocks_since h processors true
  unfold produceReadyOutputBlock
  dsimp only
  generalize s.drainSourceBlocks processors true = t at hdrained ⊢
  have hrate : ∀ step, ({ t with engine := t.engine.setTransportRateCorrection step } :
      AudioService Step Phase State α).Since epoch := by
    intro step
    exact ⟨(AudioEngine.setTransportRateCorrection_spec hdrained.valid step).1, hdrained.queue,
      hdrained.reached, hdrained.source, hdrained.submitting, hdrained.scratch, hdrained.ready⟩
  split_ifs
  · exact hdrained
  · exact hrate _
  · exact hrate _
  · exact renderReadyBlock_since (hrate _) resampling
  · exact hrate _
  · exact hrate _
  · exact renderReadyBlock_since (hrate _) resampling

theorem renderForOutput_since (size : ℕ) :
    (s.renderForOutput resampling processors size).1.Since epoch ∧
      ∀ played ∈ (s.renderForOutput resampling processors size).2,
        played.All fun sample => epoch ≤ sample.epoch := by
  have hdrained := drainSourceBlocks_since h processors (decide (size ≤ s.pipelineOutputScratch))
  unfold renderForOutput
  generalize s.drainSourceBlocks processors _ = t at hdrained ⊢
  obtain ⟨hvalid, hkept, hplayed⟩ := AudioEngine.render_keeps hdrained.valid hdrained.queue
    resampling.toPhaseArithmetic size
  exact ⟨⟨hvalid, hkept, hdrained.reached, hdrained.source, hdrained.submitting, hdrained.scratch,
    hdrained.ready⟩, hplayed⟩

theorem drainReadyOutput_since (size : ℕ) :
    (s.drainReadyOutput size).1.Since epoch ∧ ∀ played ∈ (s.drainReadyOutput size).2,
      played.All fun sample => epoch ≤ sample.epoch := by
  unfold drainReadyOutput
  split_ifs
  · exact ⟨h, fun played hplayed => nomatch hplayed⟩
  swap
  · exact ⟨h, silence_all⟩
  · cases hready : s.readyBlocks with
    | nil =>
      refine ⟨⟨h.valid, h.queue, h.reached, h.source, h.submitting, h.scratch, ?_⟩, silence_all⟩
      intro block hblock
      exact h.ready block (hready ▸ hblock)
    | cons block rest =>
      have hblocks := h.ready
      rw [hready] at hblocks
      refine ⟨⟨h.valid, h.queue, h.reached, h.source, h.submitting, h.scratch, ?_⟩, ?_⟩
      · intro other hother
        exact hblocks other (List.mem_cons_of_mem _ hother)
      · intro played hplayed
        rcases List.mem_append.mp hplayed with hblock | hpadding
        · exact hblocks block (List.mem_cons_self ..) played (List.mem_of_mem_take hblock)
        · exact silence_all played hpadding

theorem clearReadyQueue_since : s.clearReadyQueue.Since epoch :=
  ⟨h.valid, h.queue, h.reached, h.source, h.submitting, h.scratch,
    fun _ hblock => nomatch hblock⟩

theorem prepare_since (call : ControlCall Step) :
    (s.prepare resampling processors call).Since epoch := by
  cases call with
  | bumpLifecycleEpochBarrier => exact h
  | setBackendPausedOrClosed =>
    exact ⟨h.valid, h.queue, h.reached, h.source, h.submitting, h.scratch, h.ready⟩
  | resetStream =>
    obtain ⟨hvalid, hqueue⟩ := AudioEngine.resetStream_spec resampling.toPhaseArithmetic h.valid
    exact ⟨hvalid, hqueue ▸ new_keeps _ _ _, h.reached, h.source, h.submitting, h.scratch, h.ready⟩
  | resetStats => exact h
  | configureEngine config step =>
    have hqueue := @AudioEngine.new_queue _ _ (Stamped α) _ resampling.toPhaseArithmetic config step
    exact ⟨AudioEngine.new_valid _ _ _, hqueue ▸ new_keeps _ _ _, h.reached, h.source, h.submitting,
      h.scratch, h.ready⟩
  | configureOutputTransport callbackChunkSamples readyQueueChunks =>
    exact clearReadyQueue_since
      ⟨h.valid, h.queue, h.reached, h.source, h.submitting, silence_all, h.ready⟩
  | startOutputTransport => exact h

theorem conclude_since (call : ControlCall Step) :
    (s.conclude resampling processors call).Since epoch := by
  cases call with
  | configureOutputTransport callbackChunkSamples readyQueueChunks =>
    exact ⟨h.valid, h.queue, h.reached, h.source, h.submitting, h.scratch, h.ready⟩
  | startOutputTransport =>
    have hproduced : (if s.engine.bufferedSamples ≠ 0
        then (s.produceReadyOutputBlock resampling processors).1 else s).Since epoch := by
      split_ifs
      · exact produceReadyOutputBlock_since h resampling processors
      · exact h
    exact ⟨hproduced.valid, hproduced.queue, hproduced.reached, hproduced.source,
      hproduced.submitting, hproduced.scratch, hproduced.ready⟩
  | bumpLifecycleEpochBarrier => exact h
  | setBackendPausedOrClosed => exact h
  | resetStream => exact h
  | resetStats => exact h
  | configureEngine config step => exact h

theorem stampBlock_since (samples : List α) (frameCounter : ℕ) :
    (s.stampBlock samples frameCounter).Since epoch := by
  unfold stampBlock
  split_ifs
  · exact h
  · refine ⟨h.valid, h.queue, h.reached, h.source, ?_, h.scratch, h.ready⟩
    intro block hblock
    obtain rfl := Option.some.inj hblock
    exact h.reached

theorem publishBlock_since : s.publishBlock.1.Since epoch := by
  unfold publishBlock
  cases hblock : s.submitting with
  | none => exact h
  | some block =>
    split_ifs
    · exact ⟨h.valid, h.queue, h.reached, h.source, (fun _ hnone => nomatch hnone), h.scratch,
        h.ready⟩
    · refine ⟨h.valid, h.queue, h.reached, ?_, (fun _ hnone => nomatch hnone), h.scratch, h.ready⟩
      intro other hother
      rcases List.mem_append.mp hother with hold | hnew
      · exact h.source other hold
      · rw [List.mem_singleton.mp hnew]
        exact h.submitting block hblock

end

def Answer.Delivers (P : Stamped α → Prop) : Answer Phase α → Prop
  | .accepted _ => True
  | .delivered output => ∀ played ∈ output, played.All P

/-- What comes from no earlier epoch stays so, and it alone is delivered. -/
theorem act_since (h : s.Since epoch) (resampling : Resampling Step Phase)
    (processors : AudioPipeline State α) (a : Action Step α) :
    (s.act resampling processors a).1.Since epoch ∧
      (s.act resampling processors a).2.Delivers fun sample => epoch ≤ sample.epoch := by
  cases a with
  | stampBlock samples frameCounter => exact ⟨stampBlock_since h samples frameCounter, trivial⟩
  | publishBlock => exact ⟨publishBlock_since h, trivial⟩
  | produceReadyOutputBlock =>
    unfold act
    dsimp only
    split_ifs
    · exact ⟨h, trivial⟩
    · exact ⟨produceReadyOutputBlock_since h resampling processors, trivial⟩
  | renderForOutput size =>
    unfold act
    dsimp only
    split_ifs
    · exact ⟨h, fun _ hplayed => nomatch hplayed⟩
    · exact renderForOutput_since h resampling processors size
  | drainReadyOutput size => exact drainReadyOutput_since h size
  | begin call =>
    unfold act
    cases s.control with
    | some other => exact ⟨h, trivial⟩
    | none =>
      dsimp only
      split_ifs
      · have hprepared := prepare_since h resampling processors call
        exact ⟨⟨hprepared.valid, hprepared.queue, hprepared.reached, hprepared.source,
          hprepared.submitting, hprepared.scratch, hprepared.ready⟩, trivial⟩
      · exact ⟨h, trivial⟩
  | advanceEpoch =>
    unfold act
    dsimp only
    split
    · exact ⟨⟨h.valid, h.queue, Nat.le_succ_of_le h.reached, h.source, h.submitting, h.scratch,
        h.ready⟩, trivial⟩
    · exact ⟨h, trivial⟩
  | clearReadyQueue =>
    unfold act
    dsimp only
    split
    · have hcleared := clearReadyQueue_since h
      exact ⟨⟨hcleared.valid, hcleared.queue, hcleared.reached, hcleared.source,
        hcleared.submitting, hcleared.scratch, hcleared.ready⟩, trivial⟩
    · exact ⟨h, trivial⟩
  | flushSource =>
    unfold act
    dsimp only
    split
    · exact ⟨⟨h.valid, h.queue, h.reached, (fun _ hblock => nomatch hblock), h.submitting,
        h.scratch, h.ready⟩, trivial⟩
    · exact ⟨h, trivial⟩
  | finish =>
    unfold act
    dsimp only
    split
    · next call _ =>
      have hconcluded := conclude_since h resampling processors call
      exact ⟨⟨hconcluded.valid, hconcluded.queue, hconcluded.reached, hconcluded.source,
        hconcluded.submitting, hconcluded.scratch, hconcluded.ready⟩, trivial⟩
    · exact ⟨h, trivial⟩
  | setBackendDrainActive active =>
    exact ⟨⟨h.valid, h.queue, h.reached, h.source, h.submitting, h.scratch, h.ready⟩, trivial⟩
  | stopOutputTransport =>
    refine ⟨?_, trivial⟩
    show s.stopOutputTransport.Since epoch
    unfold stopOutputTransport
    split_ifs
    · exact clearReadyQueue_since
        ⟨h.valid, h.queue, h.reached, h.source, h.submitting, h.scratch, h.ready⟩
    · exact h
  | configureFixedCallbackCapacity callbackSamples =>
    unfold act
    dsimp only
    split_ifs
    · exact ⟨⟨h.valid, h.queue, h.reached, h.source, h.submitting, h.scratch, h.ready⟩, trivial⟩
    · exact ⟨h, trivial⟩

end Since

end AudioService

end ProtoTime.Host
