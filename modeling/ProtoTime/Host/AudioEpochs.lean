import ProtoTime.Host.AudioProvenance
import ProtoTime.Transition

/-!
What an epoch bump leaves behind in the audio service. A bump that finds the engine as a reset
leaves it, and that no submission overlaps, leaves a service that goes on as a new one: it
delivers samples of later blocks only, and it keeps and drops blocks as the new one does.
-/
namespace ProtoTime.Host.AudioService
open Transition

variable {Step Phase State α : Type}

def Silent (output : List (Played Phase α)) : Prop := ∀ played ∈ output, played = .silence

theorem silent_eq {a b : List (Played Phase α)} (ha : Silent a) (hb : Silent b)
    (h : a.length = b.length) : a = b := by
  rw [List.eq_replicate_of_mem ha, List.eq_replicate_of_mem hb, h]

/-- The end of a scratch that whole frames do not reach. -/
def tail (channels : ℕ) (scratch : List (Played Phase α)) : List (Played Phase α) :=
  scratch.drop (scratch.length / channels * channels)

theorem tail_rendered {channels : ℕ} {frames scratch : List (Played Phase α)}
    (h : frames.length = scratch.length / channels * channels) :
    tail channels (frames ++ scratch.drop frames.length) = tail channels scratch := by
  have hle := Nat.div_mul_le_self scratch.length channels
  unfold tail
  rw [List.length_append, List.length_drop, h, Nat.add_sub_cancel' hle]
  exact List.drop_left' h

/-- Two scratches that show the same once they were rendered into. -/
def ScratchAlike (channels : ℕ) (a b : List (Played Phase α)) : Prop :=
  a.length = b.length ∧ (a = b ∨ Silent b ∧ Silent (tail channels a))

variable [Inhabited α]

/-- Two services that differ in what no answer shows: where the ring's cursors stand, what its
read slots hold, and what the scratch holds until it is rendered into. -/
structure Alike (s t : AudioService Step Phase State α) : Prop where
  rest : t = { s with engine := t.engine, producerScratch := t.producerScratch }
  valid : s.engine.Valid
  valid' : t.engine.Valid
  queue : t.engine.queue = s.engine.queue
  scratch : ScratchAlike s.engine.config.channels s.producerScratch t.producerScratch

variable (resampling : Resampling Step Phase)

/-- The service that starts with the same settings, without a block. -/
def renewed (s : AudioService Step Phase State α) : AudioService Step Phase State α :=
  { s with
    engine := AudioEngine.new resampling.toPhaseArithmetic s.engine.config s.engine.step
    sourceBlocks := []
    submitting := none
    producerScratch := silence s.producerScratch.length
    readyBlocks := []
    transportPrimedForDrain := false }

/-- What keeps an epoch from showing in the next one: a bump finds the engine as a reset leaves it
and overlaps no submission, and new settings show no part of the scratch that rendering leaves. -/
def Orderly (s : AudioService Step Phase State α) :
    Action Step α → Prop
  | .stampBlock _ _ => s.bumping = false
  | .advanceEpoch => (∃ call, s.control = some (call, .entered)) →
      s.engine.queue = .new resampling.toPhaseArithmetic s.engine.config s.engine.step ∧
        s.submitting = none
  | .begin (.configureEngine config _) => Silent (tail config.channels s.producerScratch)
  | _ => True

section Alike

variable {s t : AudioService Step Phase State α}

theorem drainBlock_alike (h : Alike s t) (processors : AudioPipeline State α)
    (chunkOversize : Bool) (block : AudioSourceBlock α) :
    Alike (drainBlock processors chunkOversize s block)
      (drainBlock processors chunkOversize t block) := by
  obtain ⟨hrest, hvalid, hvalid', hqueue, hscratch⟩ := h
  generalize t.engine = engine at *
  generalize t.producerScratch = scratch at *
  subst hrest
  unfold drainBlock
  by_cases hepoch : block.lifecycleEpoch ≠ s.transportEpoch
  · rw [if_pos hepoch, if_pos hepoch]
    exact ⟨rfl, hvalid, hvalid', hqueue, hscratch⟩
  · rw [if_neg hepoch, if_neg hepoch]
    obtain ⟨hkept, happended⟩ := AudioEngine.append_queue hvalid
      ((processors.processSource s.pipelineOutputScratch chunkOversize s.pipeline block).2.map
        (Stamped.mk block.lifecycleEpoch)) block.frameCounter
    obtain ⟨hkept', happended'⟩ := AudioEngine.append_queue hvalid'
      ((processors.processSource s.pipelineOutputScratch chunkOversize s.pipeline block).2.map
        (Stamped.mk block.lifecycleEpoch)) block.frameCounter
    refine ⟨rfl, hkept, hkept', ?_, ?_⟩
    · exact happended'.trans (hqueue ▸ happended.symm)
    · have hconfig := congrArg AudioQueue.config happended
      rw [AudioQueue.append_config] at hconfig
      show ScratchAlike (AudioEngineConfig.channels (AudioQueue.config (AudioEngine.queue _))) _ _
      rw [hconfig]
      exact hscratch

theorem drainSourceBlocks_alike (h : Alike s t) (processors : AudioPipeline State α)
    (chunkOversize : Bool) :
    Alike (s.drainSourceBlocks processors chunkOversize)
      (t.drainSourceBlocks processors chunkOversize) := by
  have hall : ∀ (blocks : List (AudioSourceBlock α)) (s t : AudioService Step Phase State α),
      Alike s t → Alike (blocks.foldl (drainBlock processors chunkOversize) s)
        (blocks.foldl (drainBlock processors chunkOversize) t) := by
    intro blocks
    induction blocks with
    | nil => exact fun _ _ h => h
    | cons block blocks ih =>
      exact fun s t h => ih _ _ (drainBlock_alike h processors chunkOversize block)
  have hsource : t.sourceBlocks = s.sourceBlocks := by rw [h.rest]
  have hdrained := hall s.sourceBlocks s t h
  unfold drainSourceBlocks
  rw [hsource]
  generalize s.sourceBlocks.foldl (drainBlock processors chunkOversize) s = s' at *
  generalize s.sourceBlocks.foldl (drainBlock processors chunkOversize) t = t' at *
  obtain ⟨hrest, hvalid, hvalid', hqueue, hscratch⟩ := hdrained
  refine ⟨?_, hvalid, hvalid', hqueue, hscratch⟩
  rw [hrest]

theorem maybeMarkTransportPrimed_alike (h : Alike s t) :
    Alike s.maybeMarkTransportPrimed t.maybeMarkTransportPrimed := by
  obtain ⟨hrest, hvalid, hvalid', hqueue, hscratch⟩ := h
  generalize t.engine = engine at *
  generalize t.producerScratch = scratch at *
  subst hrest
  unfold maybeMarkTransportPrimed prefillTargetChunks
  by_cases hearly : min 2 s.readyQueueChunks = 0 ∨ s.readyBlocks.length < min 2 s.readyQueueChunks
  · rw [if_pos hearly, if_pos hearly]
    exact ⟨rfl, hvalid, hvalid', hqueue, hscratch⟩
  · rw [if_neg hearly, if_neg hearly]
    exact ⟨rfl, hvalid, hvalid', hqueue, hscratch⟩

theorem render_alike {e e' : AudioEngine Step Phase (Stamped α)} (h : e.Valid) (h' : e'.Valid)
    (hqueue : e'.queue = e.queue) (arithmetic : PhaseArithmetic Step Phase) (size : ℕ) :
    (e'.render arithmetic size).2 = (e.render arithmetic size).2 ∧
      (e'.render arithmetic size).1.queue = (e.render arithmetic size).1.queue ∧
      (e.render arithmetic size).1.config = e.config ∧
      (e.render arithmetic size).2.flatten.length =
        size / e.config.channels * e.config.channels := by
  have hrender := (AudioEngine.render_queue arithmetic h size).2
  have hrender' := (AudioEngine.render_queue arithmetic h' size).2
  have hlength := AudioQueue.length_render e.queue arithmetic size
  rw [hqueue, ← hrender] at hrender'
  rw [← hrender] at hlength
  obtain ⟨hrendered, hframes⟩ := Prod.mk.inj hrender'
  exact ⟨hframes, hrendered, hlength.2, hlength.1⟩

omit [Inhabited α] in
theorem rendered_scratch_eq {channels : ℕ} {a b : List (Played Phase (Stamped α))}
    (h : ScratchAlike channels a b) :
    b.drop (b.length / channels * channels) = a.drop (a.length / channels * channels) := by
  obtain ⟨hlength, rfl | ⟨hsilent, htail⟩⟩ := h
  · rfl
  · apply silent_eq
    · exact fun played hplayed => hsilent played (List.mem_of_mem_drop hplayed)
    · exact htail
    · rw [List.length_drop, List.length_drop, hlength]

theorem renderReadyBlock_alike (h : Alike s t) (resampling : Resampling Step Phase) :
    Alike (s.renderReadyBlock resampling) (t.renderReadyBlock resampling) := by
  obtain ⟨hrest, hvalid, hvalid', hqueue, hscratch⟩ := h
  generalize t.engine = engine at *
  generalize t.producerScratch = scratch at *
  subst hrest
  unfold renderReadyBlock
  dsimp only
  rw [← hscratch.1]
  obtain ⟨hframes, hrendered, hconfig, hlength⟩ := render_alike hvalid hvalid' hqueue
    resampling.toPhaseArithmetic s.producerScratch.length
  have hsame := rendered_scratch_eq hscratch
  rw [← hscratch.1] at hsame
  rw [hframes, hlength, hsame]
  apply maybeMarkTransportPrimed_alike
  refine ⟨rfl, (AudioEngine.render_queue _ hvalid _).1, (AudioEngine.render_queue _ hvalid' _).1,
    hrendered, rfl, .inl rfl⟩

theorem setTransportRateCorrection_alike (h : Alike s t) (step : Step) :
    Alike { s with engine := s.engine.setTransportRateCorrection step }
      { t with engine := t.engine.setTransportRateCorrection step } := by
  obtain ⟨hrest, hvalid, hvalid', hqueue, hscratch⟩ := h
  obtain ⟨hrated, hrated'⟩ := AudioEngine.setTransportRateCorrection_spec hvalid step
  obtain ⟨hrated₂, hrated₂'⟩ := AudioEngine.setTransportRateCorrection_spec hvalid' step
  refine ⟨?_, hrated, hrated₂, ?_, hscratch⟩
  · rw [hrest]
  · exact hrated₂'.trans (hqueue ▸ hrated'.symm)

theorem enough_alike {e e' : AudioEngine Step Phase (Stamped α)} (hqueue : e'.queue = e.queue)
    (resampling : Resampling Step Phase) (size : ℕ) :
    e'.bufferedSamples = e.bufferedSamples ∧
      sourceSamplesRequired resampling e' size = sourceSamplesRequired resampling e size := by
  have hwaiting : e'.contents = e.contents := congrArg AudioQueue.waiting hqueue
  have hconfig : e'.config = e.config := congrArg AudioQueue.config hqueue
  have hphase : e'.sourcePhase = e.sourcePhase := congrArg AudioQueue.sourcePhase hqueue
  have hstep : e'.step = e.step := congrArg AudioQueue.step hqueue
  unfold sourceSamplesRequired
  rw [← AudioEngine.length_contents, ← AudioEngine.length_contents, hwaiting, hconfig, hphase, hstep]
  exact ⟨rfl, rfl⟩

section

variable (h : Alike s t) (resampling : Resampling Step Phase)
  (processors : AudioPipeline State α)
include h

theorem produceReadyOutputBlock_alike :
    Alike (s.produceReadyOutputBlock resampling processors).1
        (t.produceReadyOutputBlock resampling processors).1 ∧
      (t.produceReadyOutputBlock resampling processors).2 =
        (s.produceReadyOutputBlock resampling processors).2 := by
  have hdrained := drainSourceBlocks_alike h processors true
  unfold produceReadyOutputBlock
  dsimp only
  generalize s.drainSourceBlocks processors true = s' at hdrained ⊢
  generalize t.drainSourceBlocks processors true = t' at hdrained ⊢
  have hready : t'.readyBlocks = s'.readyBlocks := by rw [hdrained.rest]
  have hnominal : t'.nominalStep = s'.nominalStep := by rw [hdrained.rest]
  have hconfigured : t'.outputTransportConfigured = s'.outputTransportConfigured := by
    rw [hdrained.rest]
  have hchunks : t'.readyQueueChunks = s'.readyQueueChunks := by rw [hdrained.rest]
  have hlength := hdrained.scratch.1
  have hempty : t'.producerScratch.isEmpty = s'.producerScratch.isEmpty := by
    rw [Bool.eq_iff_iff, List.isEmpty_iff_length_eq_zero, List.isEmpty_iff_length_eq_zero, hlength]
  rw [hready, hnominal, hconfigured, hchunks, hempty, ← hlength]
  generalize hstep : (if s'.readyBlocks.isEmpty then resampling.slower s'.nominalStep
    else s'.nominalStep) = step
  have hrated := setTransportRateCorrection_alike hdrained step
  obtain ⟨hbuffered, hrequired⟩ :=
    enough_alike hrated.queue resampling s'.producerScratch.length
  rw [hready, hnominal, hconfigured, hchunks] at hrated
  rw [hbuffered, hrequired]
  by_cases hunset : ¬s'.outputTransportConfigured = true ∨ s'.producerScratch.isEmpty = true
  · rw [if_pos hunset, if_pos hunset]
    exact ⟨hdrained, rfl⟩
  split_ifs
  · exact ⟨hrated, rfl⟩
  · exact ⟨hrated, rfl⟩
  · exact ⟨renderReadyBlock_alike hrated resampling, rfl⟩

theorem renderForOutput_alike (size : ℕ) :
    Alike (s.renderForOutput resampling processors size).1
        (t.renderForOutput resampling processors size).1 ∧
      (t.renderForOutput resampling processors size).2 =
        (s.renderForOutput resampling processors size).2 := by
  have hsize : t.pipelineOutputScratch = s.pipelineOutputScratch := by rw [h.rest]
  have hdrained := drainSourceBlocks_alike h processors (decide (size ≤ s.pipelineOutputScratch))
  unfold renderForOutput
  rw [hsize]
  generalize s.drainSourceBlocks processors _ = s' at hdrained ⊢
  generalize t.drainSourceBlocks processors _ = t' at hdrained ⊢
  obtain ⟨hrest, hvalid, hvalid', hqueue, hscratch⟩ := hdrained
  obtain ⟨hframes, hrendered, hconfig, _⟩ := render_alike hvalid hvalid' hqueue
    resampling.toPhaseArithmetic size
  refine ⟨⟨?_, (AudioEngine.render_queue _ hvalid _).1, (AudioEngine.render_queue _ hvalid' _).1,
    hrendered, ?_⟩, congrArg List.flatten hframes⟩
  · rw [hrest]
  · rw [hconfig]
    exact hscratch

theorem drainReadyOutput_alike (size : ℕ) :
    Alike (s.drainReadyOutput size).1 (t.drainReadyOutput size).1 ∧
      (t.drainReadyOutput size).2 = (s.drainReadyOutput size).2 := by
  have hkept := h
  obtain ⟨hrest, hvalid, hvalid', hqueue, hscratch⟩ := h
  generalize t.engine = engine at *
  generalize t.producerScratch = scratch at *
  subst hrest
  unfold drainReadyOutput
  by_cases hsize : size = 0
  · rw [if_pos hsize, if_pos hsize]
    exact ⟨hkept, rfl⟩
  rw [if_neg hsize, if_neg hsize]
  by_cases hprimed : ¬s.transportPrimedForDrain = true
  · rw [if_pos hprimed, if_pos hprimed]
    exact ⟨hkept, rfl⟩
  rw [if_neg hprimed, if_neg hprimed]
  cases s.readyBlocks with
  | nil => exact ⟨⟨rfl, hvalid, hvalid', hqueue, hscratch⟩, rfl⟩
  | cons block rest => exact ⟨⟨rfl, hvalid, hvalid', hqueue, hscratch⟩, rfl⟩

theorem clearReadyQueue_alike : Alike s.clearReadyQueue t.clearReadyQueue := by
  obtain ⟨hrest, hvalid, hvalid', hqueue, hscratch⟩ := h
  refine ⟨?_, hvalid, hvalid', hqueue, hscratch⟩
  rw [hrest]
  rfl

theorem prepare_alike (call : ControlCall Step) (horderly : Orderly resampling s (.begin call)) :
    Alike (s.prepare resampling processors call) (t.prepare resampling processors call) := by
  have hkept := h
  obtain ⟨hrest, hvalid, hvalid', hqueue, hscratch⟩ := h
  cases call with
  | bumpLifecycleEpochBarrier => exact hkept
  | setBackendPausedOrClosed =>
    refine ⟨?_, hvalid, hvalid', hqueue, hscratch⟩
    rw [hrest]
    rfl
  | resetStream =>
    obtain ⟨hreset, hnew⟩ := AudioEngine.resetStream_spec resampling.toPhaseArithmetic hvalid
    obtain ⟨hreset', hnew'⟩ := AudioEngine.resetStream_spec resampling.toPhaseArithmetic hvalid'
    have hconfig : t.engine.config = s.engine.config := congrArg AudioQueue.config hqueue
    have hstep : t.engine.step = s.engine.step := congrArg AudioQueue.step hqueue
    rw [hconfig, hstep] at hnew'
    refine ⟨?_, hreset, hreset', hnew'.trans hnew.symm, hscratch⟩
    rw [hrest]
    rfl
  | resetStats => exact hkept
  | configureEngine config step =>
    refine ⟨?_, AudioEngine.new_valid _ _ _, AudioEngine.new_valid _ _ _, rfl, hscratch.1, ?_⟩
    · rw [hrest]
      rfl
    · rcases hscratch.2 with hsame | ⟨hsilent, _⟩
      · exact .inl hsame
      · exact .inr ⟨hsilent, horderly⟩
  | configureOutputTransport callbackChunkSamples readyQueueChunks =>
    refine ⟨?_, hvalid, hvalid', hqueue, rfl, .inl rfl⟩
    rw [hrest]
    rfl
  | startOutputTransport => exact hkept

theorem conclude_alike (call : ControlCall Step) :
    Alike (s.conclude resampling processors call) (t.conclude resampling processors call) := by
  have hkept := h
  obtain ⟨hrest, hvalid, hvalid', hqueue, hscratch⟩ := h
  cases call with
  | configureOutputTransport callbackChunkSamples readyQueueChunks =>
    refine ⟨?_, hvalid, hvalid', hqueue, hscratch⟩
    rw [hrest]
    rfl
  | startOutputTransport =>
    have hproduced := (produceReadyOutputBlock_alike hkept resampling processors).1
    have hbuffered := (enough_alike hqueue resampling 0).1
    unfold conclude
    rw [hbuffered]
    by_cases hsome : s.engine.bufferedSamples ≠ 0
    · rw [if_pos hsome, if_pos hsome]
      refine ⟨?_, hproduced.valid, hproduced.valid', hproduced.queue, hproduced.scratch⟩
      rw [hproduced.rest]
    · rw [if_neg hsome, if_neg hsome]
      refine ⟨?_, hvalid, hvalid', hqueue, hscratch⟩
      rw [hrest]
  | bumpLifecycleEpochBarrier => exact hkept
  | setBackendPausedOrClosed => exact hkept
  | resetStream => exact hkept
  | resetStats => exact hkept
  | configureEngine config step => exact hkept

theorem control_alike (control : Option (ControlCall Step × ControlStage)) :
    Alike { s with control := control } { t with control := control } := by
  obtain ⟨hrest, hvalid, hvalid', hqueue, hscratch⟩ := h
  refine ⟨?_, hvalid, hvalid', hqueue, hscratch⟩
  rw [hrest]

/-- Alike services answer alike and stay alike. -/
theorem act_alike (a : Action Step α) (horderly : Orderly resampling s a) :
    Alike (s.act resampling processors a).1 (t.act resampling processors a).1 ∧
      (t.act resampling processors a).2 = (s.act resampling processors a).2 := by
  have hcontrol : t.control = s.control := by rw [h.rest]
  have hbumping : t.bumping = s.bumping := by
    unfold bumping
    rw [hcontrol]
  have hkept := h
  cases a with
  | stampBlock samples frameCounter =>
    obtain ⟨hrest, hvalid, hvalid', hqueue, hscratch⟩ := h
    generalize t.engine = engine at *
    generalize t.producerScratch = scratch at *
    subst hrest
    refine ⟨?_, rfl⟩
    show Alike (AudioService.stampBlock ..) (AudioService.stampBlock ..)
    unfold AudioService.stampBlock
    dsimp only
    split_ifs
    · exact hkept
    · exact ⟨rfl, hvalid, hvalid', hqueue, hscratch⟩
  | publishBlock =>
    have hsubmitting : t.submitting = s.submitting := by rw [h.rest]
    have hsource : t.sourceBlocks = s.sourceBlocks := by rw [h.rest]
    unfold act AudioService.publishBlock
    dsimp only
    rw [hsubmitting, hsource]
    cases s.submitting with
    | none => exact ⟨h, rfl⟩
    | some block =>
      obtain ⟨hrest, hvalid, hvalid', hqueue, hscratch⟩ := h
      dsimp only
      split_ifs
      · refine ⟨⟨?_, hvalid, hvalid', hqueue, hscratch⟩, rfl⟩
        rw [hrest]
      · refine ⟨⟨?_, hvalid, hvalid', hqueue, hscratch⟩, rfl⟩
        rw [hrest]
  | produceReadyOutputBlock =>
    obtain ⟨hproduced, hok⟩ := produceReadyOutputBlock_alike h resampling processors
    unfold act
    dsimp only
    rw [hbumping, hok]
    split_ifs
    · exact ⟨h, rfl⟩
    · exact ⟨hproduced, rfl⟩
  | renderForOutput size =>
    obtain ⟨hrendered, houtput⟩ := renderForOutput_alike h resampling processors size
    unfold act
    dsimp only
    rw [hbumping, houtput]
    split_ifs
    · exact ⟨h, rfl⟩
    · exact ⟨hrendered, rfl⟩
  | drainReadyOutput size =>
    obtain ⟨hdrained, houtput⟩ := drainReadyOutput_alike h size
    exact ⟨hdrained, congrArg Answer.delivered houtput⟩
  | begin call =>
    have hadmits : t.admits call = s.admits call := by
      rw [h.rest]
      cases call <;> rfl
    unfold act
    dsimp only
    rw [hcontrol, hadmits]
    cases s.control with
    | some other => exact ⟨h, rfl⟩
    | none =>
      dsimp only
      split_ifs
      · exact ⟨control_alike (prepare_alike h resampling processors call horderly) _, rfl⟩
      · exact ⟨h, rfl⟩
  | advanceEpoch =>
    obtain ⟨hrest, hvalid, hvalid', hqueue, hscratch⟩ := h
    unfold act
    dsimp only
    rw [hcontrol]
    split
    · refine ⟨⟨?_, hvalid, hvalid', hqueue, hscratch⟩, rfl⟩
      rw [hrest]
    · exact ⟨hkept, rfl⟩
  | clearReadyQueue =>
    unfold act
    dsimp only
    rw [hcontrol]
    split
    · exact ⟨control_alike (clearReadyQueue_alike h) _, rfl⟩
    · exact ⟨h, rfl⟩
  | flushSource =>
    obtain ⟨hrest, hvalid, hvalid', hqueue, hscratch⟩ := h
    unfold act
    dsimp only
    rw [hcontrol]
    split
    · refine ⟨⟨?_, hvalid, hvalid', hqueue, hscratch⟩, rfl⟩
      rw [hrest]
    · exact ⟨hkept, rfl⟩
  | finish =>
    unfold act
    dsimp only
    rw [hcontrol]
    split
    · next call _ =>
      exact ⟨control_alike (conclude_alike h resampling processors call) _, rfl⟩
    · exact ⟨h, rfl⟩
  | setBackendDrainActive active =>
    obtain ⟨hrest, hvalid, hvalid', hqueue, hscratch⟩ := h
    refine ⟨⟨?_, hvalid, hvalid', hqueue, hscratch⟩, rfl⟩
    rw [hrest]
    rfl
  | stopOutputTransport =>
    have hrunning : t.outputTransportRunning = s.outputTransportRunning := by rw [h.rest]
    have hcleared := clearReadyQueue_alike h
    obtain ⟨hrest, hvalid, hvalid', hqueue, hscratch⟩ := hcleared
    refine ⟨?_, rfl⟩
    show Alike s.stopOutputTransport t.stopOutputTransport
    unfold AudioService.stopOutputTransport
    rw [hrunning]
    split_ifs
    · refine ⟨?_, hvalid, hvalid', hqueue, hscratch⟩
      rw [hkept.rest]
      rfl
    · exact hkept
  | configureFixedCallbackCapacity callbackSamples =>
    have hreset : t.canPerformReset = s.canPerformReset := by
      rw [h.rest]
      rfl
    obtain ⟨hrest, hvalid, hvalid', hqueue, hscratch⟩ := h
    unfold act
    dsimp only
    rw [hcontrol, hreset]
    by_cases hfree : (s.control.isNone && s.canPerformReset) = true
    · rw [if_pos hfree, if_pos hfree]
      refine ⟨⟨?_, hvalid, hvalid', hqueue, hscratch⟩, rfl⟩
      rw [hrest]
    · rw [if_neg hfree, if_neg hfree]
      exact ⟨hkept, rfl⟩

end

end Alike

/-- What rendering leaves of a service: where the control call stands, and a scratch that shows no
more than before. -/
structure Kept (s t : AudioService Step Phase State α) : Prop where
  valid : t.engine.Valid
  control : t.control = s.control
  tail : tail t.engine.config.channels t.producerScratch =
    tail s.engine.config.channels s.producerScratch

section Kept

variable {s : AudioService Step Phase State α}

section

variable (h : s.engine.Valid) (resampling : Resampling Step Phase)
  (processors : AudioPipeline State α)
include h

theorem drainBlock_kept (chunkOversize : Bool) (block : AudioSourceBlock α) :
    Kept s (drainBlock processors chunkOversize s block) := by
  unfold drainBlock
  split_ifs
  · exact ⟨h, rfl, rfl⟩
  · obtain ⟨hvalid, hconfig, _⟩ := AudioEngine.append_cases h
      ((processors.processSource s.pipelineOutputScratch chunkOversize s.pipeline block).2.map
        (Stamped.mk block.lifecycleEpoch)) block.frameCounter
    refine ⟨hvalid, rfl, ?_⟩
    rw [hconfig]

theorem drainSourceBlocks_kept (chunkOversize : Bool) :
    Kept s (s.drainSourceBlocks processors chunkOversize) := by
  have hall : ∀ (blocks : List (AudioSourceBlock α)) (s : AudioService Step Phase State α),
      s.engine.Valid → Kept s (blocks.foldl (drainBlock processors chunkOversize) s) := by
    intro blocks
    induction blocks with
    | nil => exact fun s h => ⟨h, rfl, rfl⟩
    | cons block blocks ih =>
      intro s h
      have hfirst := drainBlock_kept h processors chunkOversize block
      have hrest := ih _ hfirst.valid
      exact ⟨hrest.valid, hrest.control.trans hfirst.control, hrest.tail.trans hfirst.tail⟩
  have hdrained := hall s.sourceBlocks s h
  exact ⟨hdrained.valid, hdrained.control, hdrained.tail⟩

theorem renderReadyBlock_kept :
    Kept s (s.renderReadyBlock resampling) := by
  obtain ⟨_, _, hconfig, hlength⟩ := render_alike h h rfl resampling.toPhaseArithmetic
    s.producerScratch.length
  have hvalid := (AudioEngine.render_queue resampling.toPhaseArithmetic h s.producerScratch.length).1
  have hprimed : ∀ t : AudioService Step Phase State α, t.engine.Valid → Kept s t →
      Kept s t.maybeMarkTransportPrimed := by
    intro t ht hkept
    unfold maybeMarkTransportPrimed
    split_ifs
    · exact hkept
    · exact ⟨ht, hkept.control, hkept.tail⟩
  apply hprimed _ hvalid
  refine ⟨hvalid, rfl, ?_⟩
  exact (congrArg (fun config => AudioService.tail config.channels _) hconfig).trans
    (tail_rendered hlength)

theorem produceReadyOutputBlock_kept :
    Kept s (s.produceReadyOutputBlock resampling processors).1 := by
  have hdrained := drainSourceBlocks_kept h processors true
  unfold produceReadyOutputBlock
  dsimp only
  generalize s.drainSourceBlocks processors true = t at hdrained ⊢
  generalize (if t.readyBlocks.isEmpty then resampling.slower t.nominalStep else t.nominalStep) = step
  have hvalid := (AudioEngine.setTransportRateCorrection_spec hdrained.valid step).1
  have hrated : Kept s { t with engine := t.engine.setTransportRateCorrection step } :=
    ⟨hvalid, hdrained.control, hdrained.tail⟩
  have hrendered := @renderReadyBlock_kept _ _ _ _ _
    { t with engine := t.engine.setTransportRateCorrection step } hvalid resampling
  by_cases hunset : ¬t.outputTransportConfigured = true ∨ t.producerScratch.isEmpty = true
  · rw [if_pos hunset]
    exact hdrained
  split_ifs
  · exact hrated
  · exact hrated
  · exact ⟨hrendered.valid, hrendered.control.trans hrated.control,
      hrendered.tail.trans hrated.tail⟩

theorem renderForOutput_kept (size : ℕ) :
    Kept s (s.renderForOutput resampling processors size).1 := by
  have hdrained := drainSourceBlocks_kept h processors (decide (size ≤ s.pipelineOutputScratch))
  unfold renderForOutput
  generalize s.drainSourceBlocks processors _ = t at hdrained ⊢
  have hconfig := (render_alike hdrained.valid hdrained.valid rfl resampling.toPhaseArithmetic
    size).2.2.1
  refine ⟨(AudioEngine.render_queue _ hdrained.valid _).1, hdrained.control, ?_⟩
  rw [hconfig]
  exact hdrained.tail

theorem conclude_kept (call : ControlCall Step) :
    Kept s (s.conclude resampling processors call) := by
  cases call with
  | startOutputTransport =>
    unfold conclude
    split_ifs
    · have hproduced := produceReadyOutputBlock_kept h resampling processors
      exact ⟨hproduced.valid, hproduced.control, hproduced.tail⟩
    · exact ⟨h, rfl, rfl⟩
  | bumpLifecycleEpochBarrier => exact ⟨h, rfl, rfl⟩
  | setBackendPausedOrClosed => exact ⟨h, rfl, rfl⟩
  | resetStream => exact ⟨h, rfl, rfl⟩
  | resetStats => exact ⟨h, rfl, rfl⟩
  | configureEngine config step => exact ⟨h, rfl, rfl⟩
  | configureOutputTransport callbackChunkSamples readyQueueChunks => exact ⟨h, rfl, rfl⟩

end

end Kept

/-- What holds along an orderly run: the scratch shows nothing that a render leaves, and a bump
that has begun finds the engine unused, no submission, and soon no ready block. -/
structure Inv (resampling : Resampling Step Phase) (s : AudioService Step Phase State α) : Prop where
  valid : s.engine.Valid
  tail : Silent (tail s.engine.config.channels s.producerScratch)
  unused : s.bumping = true →
    s.engine.queue = .new resampling.toPhaseArithmetic s.engine.config s.engine.step ∧
      s.submitting = none
  cleared : ∀ call, s.control = some (call, .cleared) →
    s.readyBlocks = [] ∧ s.transportPrimedForDrain = false

theorem inv_of_kept {resampling : Resampling Step Phase} {s t : AudioService Step Phase State α}
    (hs : Inv resampling s) (hidle : s.bumping = false) (h : Kept s t) : Inv resampling t := by
  have hbumping : t.bumping = false := by
    unfold bumping at hidle ⊢
    rw [h.control]
    exact hidle
  refine ⟨h.valid, h.tail ▸ hs.tail, ?_, ?_⟩
  · intro htrue
    rw [hbumping] at htrue
    cases htrue
  · intro call hcontrol
    unfold bumping at hbumping
    rw [hcontrol] at hbumping
    cases hbumping

variable {s : AudioService Step Phase State α}

theorem prepare_tail {resampling : Resampling Step Phase}
    (h : Inv resampling s) (processors : AudioPipeline State α) (call : ControlCall Step)
    (horderly : Orderly resampling s (.begin call)) :
    (s.prepare resampling processors call).engine.Valid ∧
      Silent (AudioService.tail (s.prepare resampling processors call).engine.config.channels
        (s.prepare resampling processors call).producerScratch) := by
  cases call with
  | resetStream =>
    exact ⟨(AudioEngine.resetStream_spec resampling.toPhaseArithmetic h.valid).1, h.tail⟩
  | configureEngine config step => exact ⟨AudioEngine.new_valid _ _ _, horderly⟩
  | configureOutputTransport callbackChunkSamples readyQueueChunks =>
    refine ⟨h.valid, ?_⟩
    intro played hplayed
    exact (List.mem_replicate.mp (List.mem_of_mem_drop hplayed)).2
  | bumpLifecycleEpochBarrier => exact ⟨h.valid, h.tail⟩
  | setBackendPausedOrClosed => exact ⟨h.valid, h.tail⟩
  | resetStats => exact ⟨h.valid, h.tail⟩
  | startOutputTransport => exact ⟨h.valid, h.tail⟩

/-- An orderly action keeps the invariant. -/
theorem act_inv {resampling : Resampling Step Phase}
    (h : Inv resampling s) (processors : AudioPipeline State α) (a : Action Step α)
    (horderly : Orderly resampling s a) : Inv resampling (s.act resampling processors a).1 := by
  cases a with
  | stampBlock samples frameCounter =>
    show Inv resampling (AudioService.stampBlock ..)
    unfold AudioService.stampBlock
    split_ifs
    · exact h
    · exact inv_of_kept h horderly ⟨h.valid, rfl, rfl⟩
  | publishBlock =>
    show Inv resampling s.publishBlock.1
    unfold AudioService.publishBlock
    cases hsubmitting : s.submitting with
    | none => exact h
    | some block =>
      have hidle : s.bumping = false := by
        apply Bool.eq_false_iff.mpr
        intro hbumping
        have hnone := (h.unused hbumping).2
        rw [hsubmitting] at hnone
        cases hnone
      dsimp only
      split_ifs
      · exact inv_of_kept h hidle ⟨h.valid, rfl, rfl⟩
      · exact inv_of_kept h hidle ⟨h.valid, rfl, rfl⟩
  | produceReadyOutputBlock =>
    unfold act
    dsimp only
    split_ifs with hbumping
    · exact h
    · exact inv_of_kept h (Bool.eq_false_iff.mpr hbumping)
        (produceReadyOutputBlock_kept h.valid resampling processors)
  | renderForOutput size =>
    unfold act
    dsimp only
    split_ifs with hbumping
    · exact h
    · exact inv_of_kept h (Bool.eq_false_iff.mpr hbumping)
        (renderForOutput_kept h.valid resampling processors size)
  | drainReadyOutput size =>
    show Inv resampling (s.drainReadyOutput size).1
    unfold AudioService.drainReadyOutput
    by_cases hsize : size = 0
    · rw [if_pos hsize]
      exact h
    rw [if_neg hsize]
    by_cases hprimed : ¬s.transportPrimedForDrain = true
    · rw [if_pos hprimed]
      exact h
    rw [if_neg hprimed]
    have hready : ∀ call, s.control ≠ some (call, .cleared) := by
      intro call hcontrol
      apply hprimed
      rw [(h.cleared call hcontrol).2]
      decide
    cases s.readyBlocks with
    | nil =>
      exact ⟨h.valid, h.tail, h.unused, fun call hcontrol => absurd hcontrol (hready call)⟩
    | cons block rest =>
      exact ⟨h.valid, h.tail, h.unused, fun call hcontrol => absurd hcontrol (hready call)⟩
  | begin call =>
    unfold act
    dsimp only
    cases s.control with
    | some other => exact h
    | none =>
      dsimp only
      split_ifs
      · obtain ⟨hvalid, htail⟩ := prepare_tail h processors call horderly
        exact ⟨hvalid, htail, (fun hbumping => nomatch hbumping), fun _ hcontrol => nomatch hcontrol⟩
      · exact h
  | advanceEpoch =>
    unfold act
    dsimp only
    split
    · next call hcontrol =>
      exact ⟨h.valid, h.tail, fun _ => horderly ⟨call, hcontrol⟩, fun _ hcleared => nomatch hcleared⟩
    · exact h
  | clearReadyQueue =>
    unfold act
    dsimp only
    split
    · next call hcontrol =>
      have hbumping : s.bumping = true := by
        unfold bumping
        rw [hcontrol]
      exact ⟨h.valid, h.tail, fun _ => h.unused hbumping, fun _ _ => ⟨rfl, rfl⟩⟩
    · exact h
  | flushSource =>
    unfold act
    dsimp only
    split
    · exact ⟨h.valid, h.tail, (fun hbumping => nomatch hbumping), fun _ hcleared => nomatch hcleared⟩
    · exact h
  | finish =>
    unfold act
    dsimp only
    split
    · next call _ =>
      have hconcluded := conclude_kept h.valid resampling processors call
      exact ⟨hconcluded.valid, hconcluded.tail ▸ h.tail, (fun hbumping => nomatch hbumping),
        fun _ hcleared => nomatch hcleared⟩
    · exact h
  | setBackendDrainActive active => exact ⟨h.valid, h.tail, h.unused, h.cleared⟩
  | stopOutputTransport =>
    show Inv resampling s.stopOutputTransport
    unfold AudioService.stopOutputTransport
    split_ifs
    · exact ⟨h.valid, h.tail, h.unused, fun _ _ => ⟨rfl, rfl⟩⟩
    · exact h
  | configureFixedCallbackCapacity callbackSamples =>
    unfold act
    dsimp only
    split_ifs
    · exact ⟨h.valid, h.tail, h.unused, h.cleared⟩
    · exact h

def next (processors : AudioPipeline State α)
    (s : AudioService Step Phase State α) (a : Action Step α) : AudioService Step Phase State α :=
  (s.act resampling processors a).1

/-- No stale audio: after each bump that a run completes, the service answers as one that starts
then without a block, keeps the same blocks and samples, and delivers samples of that epoch or a
later one only. -/
def NothingStale (processors : AudioPipeline State α)
    (s : AudioService Step Phase State α) (actions : List (Action Step α)) : Prop :=
  ∀ before after call, actions = before ++ .flushSource :: after →
    (run (next resampling processors) s before).control = some (call, .cleared) →
      let bumped := run (next resampling processors) s (before ++ [.flushSource])
      let fresh := bumped.renewed resampling
      bumped.answers resampling processors after = fresh.answers resampling processors after ∧
        (run (next resampling processors) bumped after).sourceBlocks =
          (run (next resampling processors) fresh after).sourceBlocks ∧
        (run (next resampling processors) bumped after).engine.queue =
          (run (next resampling processors) fresh after).engine.queue ∧
        (run (next resampling processors) bumped after).readyBlocks =
          (run (next resampling processors) fresh after).readyBlocks ∧
        ∀ answer ∈ bumped.answers resampling processors after,
          answer.Delivers fun sample => bumped.transportEpoch ≤ sample.epoch

theorem answers_alike {resampling : Resampling Step Phase} {processors : AudioPipeline State α}
    {t : AudioService Step Phase State α} (h : Alike s t) {actions : List (Action Step α)}
    (horderly : Guarded (next resampling processors) (Orderly resampling) s actions) :
    Alike (run (next resampling processors) s actions) (run (next resampling processors) t actions) ∧
      t.answers resampling processors actions = s.answers resampling processors actions := by
  induction actions generalizing s t with
  | nil => exact ⟨h, rfl⟩
  | cons a actions ih =>
    obtain ⟨halike, hanswer⟩ := act_alike h resampling processors a horderly.1
    obtain ⟨hrun, hanswers⟩ := ih halike horderly.2
    refine ⟨hrun, ?_⟩
    unfold answers
    rw [hanswer, hanswers]

theorem answers_since {epoch : ℕ} (processors : AudioPipeline State α) (h : s.Since epoch)
    (actions : List (Action Step α)) :
    ∀ answer ∈ s.answers resampling processors actions,
      answer.Delivers fun sample => epoch ≤ sample.epoch := by
  induction actions generalizing s with
  | nil => exact fun _ hanswer => nomatch hanswer
  | cons a actions ih =>
    obtain ⟨hsince, hdelivers⟩ := act_since h resampling processors a
    intro answer hanswer
    rcases List.mem_cons.mp hanswer with rfl | hrest
    · exact hdelivers
    · exact ih hsince answer hrest

theorem renewed_since (s : AudioService Step Phase State α) :
    (s.renewed resampling).Since s.transportEpoch := by
  refine ⟨AudioEngine.new_valid _ _ _, ?_, Nat.le_refl _, (fun _ hblock => nomatch hblock),
    (fun _ hblock => nomatch hblock), silence_all, fun _ hblock => nomatch hblock⟩
  show AudioQueue.Keeps _ (AudioEngine.queue (AudioEngine.new _ _ _))
  rw [AudioEngine.new_queue]
  exact new_keeps _ _ _

/-- A bump that is about to end leaves a service like one that starts then. -/
theorem flushSource_alike {resampling : Resampling Step Phase} {processors : AudioPipeline State α}
    (h : Inv resampling s) {call : ControlCall Step}
    (hcontrol : s.control = some (call, .cleared)) :
    Alike (next resampling processors s .flushSource)
      ((next resampling processors s .flushSource).renewed resampling) := by
  have hbumping : s.bumping = true := by
    unfold bumping
    rw [hcontrol]
  obtain ⟨hqueue, hsubmitting⟩ := h.unused hbumping
  obtain ⟨hready, hprimed⟩ := h.cleared call hcontrol
  have hflushed : next resampling processors s .flushSource =
      { s with
        sourceBlocks := []
        pipeline := processors.flush s.transportEpoch s.pipeline
        control := some (call, .flushed) } := by
    unfold next act
    rw [hcontrol]
  rw [hflushed]
  refine ⟨?_, h.valid, AudioEngine.new_valid _ _ _, (AudioEngine.new_queue _ _ _).trans hqueue.symm,
    List.length_replicate.symm, .inr ⟨?_, h.tail⟩⟩
  · unfold renewed
    dsimp only
    rw [hsubmitting, hready, hprimed]
  · exact fun played hplayed => (List.mem_replicate.mp hplayed).2

/-- In every run whose bumps find the engine as a reset leaves it, overlap no submission and meet
no part of the scratch that rendering leaves, nothing of an epoch shows after its end. -/
theorem nothingStale_of_orderly (resampling : Resampling Step Phase)
    (processors : AudioPipeline State α) (pipeline : State) (config : AudioEngineConfig)
    (step : Step) (actions : List (Action Step α))
    (h : Guarded (next resampling processors) (Orderly resampling)
      (new resampling pipeline config step) actions) :
    NothingStale resampling processors (new resampling pipeline config step) actions := by
  intro before after call hsplit hcontrol
  rw [hsplit] at h
  obtain ⟨hbefore, _, hafter⟩ := guarded_append.mp h
  have hstart : Inv resampling (new resampling pipeline config step :
      AudioService Step Phase State α) :=
    ⟨AudioEngine.new_valid _ _ _, (fun _ hplayed => nomatch List.mem_of_mem_drop hplayed),
      (fun hbumping => nomatch hbumping), fun _ hcleared => nomatch hcleared⟩
  have hkeeps : ∀ s a, Orderly resampling s a → Inv resampling s →
      Inv resampling (next resampling processors s a) :=
    fun _ a horderly hs => act_inv hs processors a horderly
  have hinv := run_invariant_of_guarded hkeeps hstart hbefore
  have halike := @flushSource_alike _ _ _ _ _ _ resampling processors hinv _ hcontrol
  have hbumped : run (next resampling processors) (new resampling pipeline config step)
      (before ++ [.flushSource]) = next resampling processors
        (run (next resampling processors) (new resampling pipeline config step) before)
        .flushSource := run_append _ _ _ _
  dsimp only
  rw [hbumped]
  generalize next resampling processors _ Action.flushSource = bumped at *
  obtain ⟨hrun, hanswers⟩ := answers_alike halike hafter
  refine ⟨hanswers.symm, ?_, hrun.queue.symm, ?_, ?_⟩
  · rw [hrun.rest]
  · rw [hrun.rest]
  · rw [← hanswers]
    exact answers_since resampling processors (renewed_since resampling bumped) after

/-- The arithmetic of the resampler in thousandths. -/
def perMille : Resampling ℕ ℕ where
  zero := 0
  advance step phase := ((phase + step) % 1000, (phase + step) / 1000)
  slower step := step * 995 / 1000
  sourceFrames phase step outputFrames := (phase + outputFrames * step + 999) / 1000

def bump (call : ControlCall ℕ) : List (Action ℕ ℕ) :=
  [.begin call, .advanceEpoch, .clearReadyQueue, .flushSource, .finish]

/-- A run that plays a block, bumps the epoch by a call, and plays again. -/
def bumpedRun (call : ControlCall ℕ) : List (Action ℕ ℕ) :=
  bump (.configureOutputTransport 1 1) ++
    [.stampBlock [7, 8] 1, .publishBlock, .produceReadyOutputBlock, .drainReadyOutput 1] ++
    bump call ++ [.produceReadyOutputBlock, .drainReadyOutput 1]

def smallService : AudioService ℕ ℕ Unit ℕ :=
  new perMille () { ringBufferCapacitySamples := 8, frameChunkSamples := 1 } 1000

/-- A stream reset before the bump keeps the old epoch out. -/
theorem resetStream_nothingStale :
    NothingStale perMille (AudioPipeline.empty ℕ) smallService (bumpedRun .resetStream) :=
  nothingStale_of_orderly perMille (AudioPipeline.empty ℕ) ()
    { ringBufferCapacitySamples := 8, frameChunkSamples := 1 } 1000 (bumpedRun .resetStream)
    ⟨trivial, fun _ => ⟨rfl, rfl⟩, trivial, trivial, trivial, rfl, trivial, trivial, trivial,
      trivial, fun _ => ⟨rfl, rfl⟩, trivial, trivial, trivial, trivial, trivial, trivial⟩

/-- After a bump without one, a drain delivers samples that were submitted before. -/
theorem bumpLifecycleEpochBarrier_stale :
    ¬NothingStale perMille (AudioPipeline.empty ℕ) smallService
      (bumpedRun .bumpLifecycleEpochBarrier) := by
  intro h
  have hdelivers := (h ((bumpedRun .bumpLifecycleEpochBarrier).take 12)
    [.finish, .produceReadyOutputBlock, .drainReadyOutput 1] .bumpLifecycleEpochBarrier
    rfl rfl).2.2.2.2
  have hdelivered := hdelivers (.delivered [.mixed 995 ⟨2, 7⟩ ⟨2, 8⟩]) (by decide)
  have hstale := (hdelivered _ (List.mem_singleton.mpr rfl)).1
  revert hstale
  decide

end ProtoTime.Host.AudioService
