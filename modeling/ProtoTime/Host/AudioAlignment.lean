import ProtoTime.Host.AudioRing
import ProtoTime.Transition
import ProtoTime.Tiling

/-!
Channel alignment of the audio engine: what entered the ring over a run, what left it, and what
each output frame was made of. The channels stay aligned for every run just when the ring and
the staged chunk hold whole frames.
-/
namespace ProtoTime.Host
open Transition

inductive EngineAction (Step α : Type) where
  | append (frames : List (List α)) (frameCounter : ℕ)
  | render (size : ℕ)
  | setTransportRateCorrection (step : Step)

def EngineAction.WholeFrames {Step α : Type} (channels : ℕ) : EngineAction Step α → Prop
  | .append frames _ => ∀ frame ∈ frames, frame.length = channels
  | .render size => channels ∣ size
  | .setTransportRateCorrection _ => True

/-- An engine with its history: the frames that were appended, the samples that entered the ring,
how many of these have left it, and the output frames with the number that had left then. -/
structure AudioSession (Step Phase α : Type) where
  engine : AudioEngine Step Phase α
  appended : List (List α) := []
  history : List α := []
  base : ℕ := 0
  rendered : List (ℕ × List (Played Phase α)) := []

namespace AudioSession

variable {Step Phase α : Type} [Inhabited α]

/-- The next engine, after `gone` samples left the front of the ring. -/
def follow (s : AudioSession Step Phase α) (engine : AudioEngine Step Phase α) (gone : ℕ) :
    AudioSession Step Phase α :=
  { s with
    engine := engine
    history := s.history ++ engine.contents.drop (s.engine.contents.length - gone)
    base := s.base + gone }

variable (arithmetic : PhaseArithmetic Step Phase)

def renderFrame (s : AudioSession Step Phase α) : AudioSession Step Phase α :=
  let next := s.engine.advanceFrame arithmetic
  { s with rendered := s.rendered ++ [(s.base, s.engine.outputFrame)] }.follow next
    (s.engine.contents.length - next.contents.length)

def renderFrames (arithmetic : PhaseArithmetic Step Phase) :
    ℕ → AudioSession Step Phase α → AudioSession Step Phase α
  | 0, s => s
  | frames + 1, s => renderFrames arithmetic frames (s.renderFrame arithmetic)

def act (s : AudioSession Step Phase α) :
    EngineAction Step α → AudioSession Step Phase α
  | .append frames frameCounter =>
    { s with appended := s.appended ++ frames }.follow
      (s.engine.appendRecentPcm frames.flatten frameCounter) 0
  | .render size =>
    renderFrames arithmetic (size / s.engine.config.channels)
      (s.follow (s.engine.flushPendingReset arithmetic)
        (if s.engine.pendingReset then s.engine.contents.length else 0))
  | .setTransportRateCorrection step =>
    { s with engine := s.engine.setTransportRateCorrection step }

/-- The session renders what the engine renders. -/
theorem renderFrames_engine (frames : ℕ) (s : AudioSession Step Phase α) :
    (s.renderFrames arithmetic frames).engine = (s.engine.renderFrames arithmetic frames).1 ∧
      (s.renderFrames arithmetic frames).rendered.map Prod.snd =
        s.rendered.map Prod.snd ++ (s.engine.renderFrames arithmetic frames).2 := by
  induction frames generalizing s with
  | zero => exact ⟨rfl, (List.append_nil _).symm⟩
  | succ frames ih =>
    obtain ⟨hengine, hrendered⟩ := ih (s.renderFrame arithmetic)
    refine ⟨hengine, hrendered.trans ?_⟩
    show (s.rendered ++ [(s.base, s.engine.outputFrame)]).map Prod.snd ++ _ = _
    rw [List.map_append, List.append_assoc]
    rfl

theorem act_render (s : AudioSession Step Phase α) (size : ℕ) :
    (s.act arithmetic (.render size)).engine = (s.engine.render arithmetic size).1 ∧
      (s.act arithmetic (.render size)).rendered.map Prod.snd =
        s.rendered.map Prod.snd ++ (s.engine.render arithmetic size).2 :=
  renderFrames_engine arithmetic _ _

theorem act_render_zero (s : AudioSession Step Phase α) :
    s.act arithmetic (.render 0) = s.follow (s.engine.flushPendingReset arithmetic)
      (if s.engine.pendingReset then s.engine.contents.length else 0) := by
  show renderFrames arithmetic (0 / s.engine.config.channels) _ = _
  rw [Nat.zero_div]
  rfl

def start (config : AudioEngineConfig) (step : Step) :
    AudioSession Step Phase α where
  engine := AudioEngine.new arithmetic config step

/-- An output frame plays the accepted frame at a position: silence throughout where there is
none, else each channel its own sample, mixed with that of the next frame if it is there. -/
def Plays (channels : ℕ) (history : List α) (output : ℕ × List (Played Phase α)) : Prop :=
  channels ∣ output.1 ∧ output.2.length = channels ∧
    ((∀ sample ∈ output.2, sample = .silence) ∨
      ∀ channel < channels, ∃ phase current next,
        output.2[channel]? = some (.mixed phase current next) ∧
          history[output.1 + channel]? = some current ∧
          (history[output.1 + channels + channel]? = some next ∨ next = current))

/-- The channels are aligned: the accepted samples are whole frames of those appended, in order
and none twice, they leave the ring in whole frames, and the output frames play them in order. -/
structure Aligned (s : AudioSession Step Phase α) : Prop where
  accepted : ∃ frames : List (List α), s.history = frames.flatten ∧ frames.Sublist s.appended
  left : s.base ≤ s.history.length ∧ s.engine.config.channels ∣ s.base
  waiting : s.engine.contents = s.history.drop s.base
  played : ∀ output ∈ s.rendered, Plays s.engine.config.channels s.history output
  ordered : (s.rendered.map Prod.fst).Pairwise (· ≤ ·) ∧ ∀ output ∈ s.rendered, output.1 ≤ s.base

/-- The ring and the staged chunk hold whole frames, unless the ring holds nothing. -/
def KeepsFrames (config : AudioEngineConfig) : Prop :=
  config.usableCapacity = 0 ∨
    config.channels ∣ config.usableCapacity ∧ config.channels ∣ config.chunkCapacity

/-- What holds after every call: the samples of the ring and of the chunk that is staged for the
next flush are whole frames of those appended. -/
structure Inv (config : AudioEngineConfig) (s : AudioSession Step Phase α) : Prop where
  configured : s.engine.config = config
  valid : s.engine.Valid
  framed : ∀ frame ∈ s.appended, frame.length = config.channels
  accepted : ∃ frames stagedFrames : List (List α), s.history = frames.flatten ∧
    (frames ++ stagedFrames).Sublist s.appended ∧
    (s.engine.pendingReset = true → config.usableCapacity ≠ 0 →
      s.engine.staged = stagedFrames.flatten) ∧
    (s.engine.pendingReset = false → stagedFrames = [])
  left : s.base ≤ s.history.length ∧ config.channels ∣ s.base
  waiting : s.engine.contents = s.history.drop s.base
  played : ∀ output ∈ s.rendered, Plays config.channels s.history output
  ordered : (s.rendered.map Prod.fst).Pairwise (· ≤ ·) ∧ ∀ output ∈ s.rendered, output.1 ≤ s.base

variable {config : AudioEngineConfig} {s : AudioSession Step Phase α}

theorem Inv.aligned (h : s.Inv config) : s.Aligned := by
  obtain ⟨frames, stagedFrames, hhistory, hsublist, _⟩ := h.accepted
  refine ⟨⟨frames, hhistory, (List.sublist_append_left _ _).trans hsublist⟩, ?_, h.waiting, ?_,
    h.ordered⟩
  · rw [h.configured]
    exact h.left
  · rw [h.configured]
    exact h.played

theorem start_inv (config : AudioEngineConfig)
    (step : Step) : (start arithmetic config step : AudioSession Step Phase α).Inv config where
  configured := rfl
  valid := AudioEngine.new_valid arithmetic config step
  framed := fun frame hmem => absurd hmem List.not_mem_nil
  accepted := ⟨[], [], rfl, .slnil, fun h => Bool.noConfusion h, fun _ => rfl⟩
  left := ⟨Nat.le_refl _, Nat.dvd_zero _⟩
  waiting := by
    apply List.eq_nil_of_length_eq_zero
    rw [AudioEngine.length_contents]
    show AudioEngine.bufferedSamples (AudioEngine.new arithmetic config step) = 0
    unfold AudioEngine.bufferedSamples AudioEngine.new
    simp
  played := fun output hmem => absurd hmem List.not_mem_nil
  ordered := ⟨List.Pairwise.nil, fun output hmem => absurd hmem List.not_mem_nil⟩

/-- The accepted samples of the frames are whole frames. -/
theorem Inv.dvd_length (h : s.Inv config) :
    config.channels ∣ s.history.length ∧ config.channels ∣ s.engine.contents.length := by
  obtain ⟨frames, stagedFrames, hhistory, hsublist, _⟩ := h.accepted
  have hframes : ∀ frame ∈ frames, frame.length = config.channels := fun frame hmem =>
    h.framed frame (hsublist.subset (List.mem_append_left _ hmem))
  have hlength : config.channels ∣ s.history.length := by
    rw [hhistory, Frames.length_flatten hframes]
    exact Nat.dvd_mul_left _ _
  refine ⟨hlength, ?_⟩
  rw [h.waiting, List.length_drop]
  exact Nat.dvd_sub hlength h.left.2

omit [Inhabited α] in
/-- More accepted samples do not change what was played. -/
theorem Plays.append {channels : ℕ} {history : List α} {output : ℕ × List (Played Phase α)}
    (h : Plays channels history output) (more : List α) :
    Plays channels (history ++ more) output := by
  obtain ⟨hbase, hlength, hsamples⟩ := h
  refine ⟨hbase, hlength, hsamples.imp_right fun hmixed channel hchannel => ?_⟩
  obtain ⟨phase, current, next, hplayed, hcurrent, hnext⟩ := hmixed channel hchannel
  refine ⟨phase, current, next, hplayed, ?_, hnext.imp_left fun hsome => ?_⟩
  · exact List.getElem?_append_left (List.getElem?_eq_some_iff.mp hcurrent).1 ▸ hcurrent
  · exact List.getElem?_append_left (List.getElem?_eq_some_iff.mp hsome).1 ▸ hsome

/-- Samples that come in behind and leave in front keep the rest of the invariant. -/
theorem Inv.follow (h : s.Inv config) {engine : AudioEngine Step Phase α} {gone : ℕ} (more : List α)
    (hconfig : engine.config = config) (hvalid : engine.Valid)
    (hgone : gone ≤ s.engine.contents.length) (hdvd : config.channels ∣ gone)
    (hcontents : engine.contents = s.engine.contents.drop gone ++ more)
    (haccepted : ∃ frames stagedFrames : List (List α), s.history ++ more = frames.flatten ∧
      (frames ++ stagedFrames).Sublist s.appended ∧
      (engine.pendingReset = true → config.usableCapacity ≠ 0 →
        engine.staged = stagedFrames.flatten) ∧
      (engine.pendingReset = false → stagedFrames = [])) :
    (s.follow engine gone).Inv config := by
  have hhistory : (s.follow engine gone).history = s.history ++ more := by
    show s.history ++ engine.contents.drop (s.engine.contents.length - gone) = _
    rw [hcontents, List.drop_left' (by rw [List.length_drop])]
  have hlength : s.engine.contents.length = s.history.length - s.base := by
    rw [h.waiting, List.length_drop]
  have hbase := h.left.1
  refine ⟨hconfig, hvalid, h.framed, ?_, ?_, ?_, ?_, h.ordered.1, ?_⟩
  · rw [hhistory]
    exact haccepted
  · rw [hhistory, List.length_append]
    exact ⟨show s.base + gone ≤ _ by omega, Nat.dvd_add h.left.2 hdvd⟩
  · rw [hhistory]
    show engine.contents = (s.history ++ more).drop (s.base + gone)
    rw [hcontents, h.waiting, List.drop_drop, List.drop_append_of_le_length (by omega)]
  · intro output hmem
    rw [hhistory]
    exact (h.played output hmem).append more
  · intro output hmem
    exact (h.ordered.2 output hmem).trans (Nat.le_add_right _ _)

variable {frames : List (List α)}

theorem Inv.append (hkeeps : KeepsFrames config) (h : s.Inv config)
    (hframes : ∀ frame ∈ frames, frame.length = config.channels) (frameCounter : ℕ) :
    (s.act arithmetic (.append frames frameCounter)).Inv config := by
  obtain ⟨accepted, stagedFrames, hhistory, hsublist, hpending, hidle⟩ := h.accepted
  have hmore : (accepted ++ stagedFrames).Sublist (s.appended ++ frames) :=
    hsublist.trans (List.sublist_append_left _ _)
  have hnext : ({ s with appended := s.appended ++ frames } :
      AudioSession Step Phase α).Inv config := by
    refine ⟨h.configured, h.valid, fun frame hmem => ?_,
      ⟨accepted, stagedFrames, hhistory, hmore, hpending, hidle⟩, h.left, h.waiting, h.played,
      h.ordered⟩
    rcases List.mem_append.mp hmem with hold | hnew
    · exact h.framed frame hold
    · exact hframes frame hnew
  obtain ⟨hvalid, hconfig, hcases⟩ := AudioEngine.append_cases h.valid frames.flatten frameCounter
  rw [h.configured] at hconfig hcases
  rcases hcases with hsame | ⟨hset, hcontents, hstaged⟩ | ⟨hclear, hclear', hcontents⟩
  · refine hnext.follow [] hconfig hvalid (Nat.zero_le _) (Nat.dvd_zero _) ?_ ?_
    · rw [hsame, List.append_nil, List.drop_zero]
    · rw [hsame, List.append_nil]
      exact ⟨accepted, stagedFrames, hhistory, hmore, hpending, hidle⟩
  · refine hnext.follow [] hconfig hvalid (Nat.zero_le _) (Nat.dvd_zero _) ?_ ?_
    · rw [hcontents, List.append_nil, List.drop_zero]
    · rw [List.append_nil]
      rcases hkeeps with hzero | ⟨_, hchunk⟩
      · exact ⟨accepted, [], hhistory,
          (List.append_nil accepted).symm ▸ (List.sublist_append_left _ _).trans hmore,
          fun _ hne => absurd hzero hne, fun _ => rfl⟩
      · obtain ⟨count, hdrop⟩ := Frames.drop_min_flatten hframes hchunk
        refine ⟨accepted, frames.drop count, hhistory, ?_, fun _ _ => hstaged.trans hdrop,
          fun hfalse => ?_⟩
        · exact ((List.sublist_append_left _ _).trans hsublist).append (List.drop_sublist _ _)
        · rw [hset] at hfalse
          cases hfalse
  · have hroom : config.channels ∣ s.engine.room := by
      have hcapacity : config.channels ∣ config.usableCapacity := by
        rcases hkeeps with hzero | ⟨husable, _⟩
        · rw [hzero]
          exact Nat.dvd_zero _
        · exact husable
      have hwaiting := h.dvd_length.2
      rw [AudioEngine.length_contents] at hwaiting
      unfold AudioEngine.room
      rw [h.configured]
      exact Nat.dvd_sub hcapacity hwaiting
    obtain ⟨count, hdrop⟩ := Frames.drop_min_flatten hframes hroom
    refine hnext.follow (frames.drop count).flatten hconfig hvalid (Nat.zero_le _) (Nat.dvd_zero _)
      (hcontents.trans (congrArg (_ ++ ·) hdrop)) ?_
    refine ⟨accepted ++ frames.drop count, [], ?_, ?_, fun htrue => ?_, fun _ => rfl⟩
    · rw [List.flatten_append, ← hhistory]
    · rw [List.append_nil]
      exact ((List.sublist_append_left _ _).trans hsublist).append (List.drop_sublist _ _)
    · rw [hclear'] at htrue
      cases htrue

theorem Inv.flush (hkeeps : KeepsFrames config) (h : s.Inv config) :
    (s.follow (s.engine.flushPendingReset arithmetic)
      (if s.engine.pendingReset then s.engine.contents.length else 0)).Inv config := by
  obtain ⟨accepted, stagedFrames, hhistory, hsublist, hpending, hidle⟩ := h.accepted
  obtain ⟨hvalid, hconfig, hsame, hflushed⟩ :=
    AudioEngine.flushPendingReset_spec arithmetic h.valid
  rw [h.configured] at hconfig hflushed
  cases hset : s.engine.pendingReset with
  | false =>
    refine h.follow [] hconfig hvalid (Nat.zero_le _) (Nat.dvd_zero _) ?_ ?_
    · rw [hsame hset, List.append_nil]
      rfl
    · rw [hsame hset, List.append_nil]
      exact ⟨accepted, stagedFrames, hhistory, hsublist, hpending, hidle⟩
  | true =>
    obtain ⟨hcontents, hstaged⟩ := hflushed hset
    have hframes : ∀ frame ∈ stagedFrames, frame.length = config.channels := fun frame hmem =>
      h.framed frame (hsublist.subset (List.mem_append_right _ hmem))
    have htake : ∃ count, s.engine.staged.take config.usableCapacity =
        (stagedFrames.take count).flatten := by
      by_cases hzero : config.usableCapacity = 0
      · exact ⟨0, by rw [hzero]; rfl⟩
      · rcases hkeeps with hnone | ⟨⟨slots, husable⟩, _⟩
        · exact absurd hnone hzero
        · refine ⟨slots, ?_⟩
          rw [hpending hset hzero, husable, Nat.mul_comm, Frames.take_flatten hframes]
    obtain ⟨count, hcount⟩ := htake
    refine h.follow (stagedFrames.take count).flatten hconfig hvalid (Nat.le_refl _)
      h.dvd_length.2 ?_ ?_
    · rw [if_pos rfl, List.drop_length, hcontents, hcount]
      rfl
    · refine ⟨accepted ++ stagedFrames.take count, [], ?_, ?_, fun _ _ => hstaged, fun _ => rfl⟩
      · rw [List.flatten_append, ← hhistory]
      · rw [List.append_nil]
        exact ((List.Sublist.refl _).append (List.take_sublist _ _)).trans hsublist

/-- An output frame plays the front of the ring. -/
theorem Inv.plays
    (h : s.Inv config) : Plays config.channels s.history (s.base, s.engine.outputFrame) := by
  have hpeek : ∀ i, s.engine.peekSample i = s.history[s.base + i]? := by
    intro i
    rw [AudioEngine.peekSample_eq, h.waiting, List.getElem?_drop]
  have hdvd := h.dvd_length.2
  rw [h.waiting, List.length_drop] at hdvd
  refine ⟨h.left.2, ?_, ?_⟩
  · unfold AudioEngine.outputFrame
    rw [List.length_map, List.length_range, h.configured]
  · unfold AudioEngine.outputFrame
    rw [h.configured]
    by_cases hempty : s.history.length ≤ s.base
    · left
      intro sample hmem
      obtain ⟨channel, _, rfl⟩ := List.mem_map.mp hmem
      have hnone : s.history[s.base + channel]? = none := List.getElem?_eq_none (by omega)
      rw [hpeek, hnone]
    · right
      intro channel hchannel
      have hle : config.channels ≤ s.history.length - s.base :=
        Nat.le_of_dvd (by omega) hdvd
      have hlt : s.base + channel < s.history.length := by omega
      have hcurrent := List.getElem?_eq_getElem hlt
      refine ⟨s.engine.sourcePhase, s.history[s.base + channel],
        (s.engine.peekSample (config.channels + channel)).getD s.history[s.base + channel], ?_,
        hcurrent, ?_⟩
      · rw [List.getElem?_map, List.getElem?_range hchannel]
        simp only [Option.map_some, hpeek channel, hcurrent]
      · rw [hpeek, ← Nat.add_assoc]
        cases s.history[s.base + config.channels + channel]? with
        | none => exact .inr rfl
        | some next => exact .inl rfl

theorem Inv.renderFrame (h : s.Inv config) : (s.renderFrame arithmetic).Inv config := by
  obtain ⟨hvalid, hconfig, hsame, hstaged, wholeSteps, hcontents⟩ :=
    AudioEngine.advanceFrame_spec arithmetic h.valid
  rw [h.configured] at hconfig hcontents
  have hnext : ({ s with rendered := s.rendered ++ [(s.base, s.engine.outputFrame)] } :
      AudioSession Step Phase α).Inv config := by
    refine ⟨h.configured, h.valid, h.framed, h.accepted, h.left, h.waiting, ?_, ?_, ?_⟩
    · intro output hmem
      rcases List.mem_append.mp hmem with hold | hnew
      · exact h.played output hold
      · rw [List.mem_singleton.mp hnew]
        exact h.plays
    · rw [List.map_append, List.pairwise_append]
      refine ⟨h.ordered.1, List.pairwise_singleton _ _, ?_⟩
      intro position hposition base hbase
      obtain ⟨output, hmem, rfl⟩ := List.mem_map.mp hposition
      rw [List.mem_singleton.mp hbase]
      exact h.ordered.2 output hmem
    · intro output hmem
      rcases List.mem_append.mp hmem with hold | hnew
      · exact h.ordered.2 output hold
      · rw [List.mem_singleton.mp hnew]
  have hlength := congrArg List.length hcontents
  rw [List.length_drop] at hlength
  have hgone : s.engine.contents.length - (s.engine.advanceFrame arithmetic).contents.length =
      min (wholeSteps * config.channels) s.engine.contents.length := by omega
  have hdvd : config.channels ∣ min (wholeSteps * config.channels) s.engine.contents.length := by
    rcases Nat.le_total (wholeSteps * config.channels) s.engine.contents.length with hle | hle
    · rw [Nat.min_eq_left hle]
      exact Nat.dvd_mul_left _ _
    · rw [Nat.min_eq_right hle]
      exact h.dvd_length.2
  refine hnext.follow [] hconfig hvalid (Nat.sub_le _ _) ?_ ?_ ?_
  · rw [hgone]
    exact hdvd
  · rw [hgone, List.append_nil, hcontents]
    rcases Nat.le_total (wholeSteps * config.channels) s.engine.contents.length with hle | hle
    · rw [Nat.min_eq_left hle]
    · rw [Nat.min_eq_right hle, List.drop_eq_nil_of_le hle]
      exact List.drop_length.symm
  · rw [List.append_nil, hsame, hstaged]
    exact h.accepted

theorem Inv.renderFrames (h : s.Inv config) (frames : ℕ) :
    (s.renderFrames arithmetic frames).Inv config := by
  induction frames generalizing s with
  | zero => exact h
  | succ frames ih => exact ih (h.renderFrame arithmetic)

theorem Inv.act (hkeeps : KeepsFrames config) (s : AudioSession Step Phase α)
    (action : EngineAction Step α) (hwhole : action.WholeFrames config.channels)
    (h : s.Inv config) : (s.act arithmetic action).Inv config := by
  cases action with
  | append frames frameCounter => exact h.append arithmetic hkeeps hwhole frameCounter
  | render size => exact (h.flush arithmetic hkeeps).renderFrames arithmetic _
  | setTransportRateCorrection step =>
    exact ⟨h.configured, ⟨h.valid.length, h.valid.read, h.valid.write, h.valid.chunks⟩, h.framed,
      h.accepted, h.left, h.waiting, h.played, h.ordered⟩

theorem aligned_of_keepsFrames (hkeeps : KeepsFrames config) (step : Step)
    {actions : List (EngineAction Step α)}
    (hwhole : ∀ action ∈ actions, action.WholeFrames config.channels) :
    (run (act arithmetic) (start arithmetic config step) actions).Aligned := by
  have hinv : ∀ s : AudioSession Step Phase α, s.Inv config →
      (run (act arithmetic) s actions).Inv config := by
    induction actions with
    | nil => exact fun s h => h
    | cons action actions ih =>
      intro s h
      exact ih (fun other hmem => hwhole other (List.mem_cons_of_mem action hmem)) _
        (Inv.act arithmetic hkeeps s action (hwhole action List.mem_cons_self) h)
  exact (hinv _ (start_inv arithmetic config step)).aligned

/-- Aligned rings hold whole frames of those appended. -/
theorem Aligned.waiting_frames (h : s.Aligned)
    (hframed : ∀ frame ∈ s.appended, frame.length = s.engine.config.channels) :
    ∃ frames : List (List α), s.engine.contents = frames.flatten ∧
      ∀ frame ∈ frames, frame ∈ s.appended := by
  obtain ⟨frames, hhistory, hsublist⟩ := h.accepted
  obtain ⟨count, hcount⟩ := h.left.2
  have hframes : ∀ frame ∈ frames, frame.length = s.engine.config.channels :=
    fun frame hmem => hframed frame (hsublist.subset hmem)
  refine ⟨frames.drop count, ?_, fun frame hmem => ?_⟩
  · rw [h.waiting, hhistory, hcount, Nat.mul_comm, Frames.drop_flatten hframes]
  · exact hsublist.subset (List.mem_of_mem_drop hmem)

/-- Frames of consecutive numbers. -/
def numbered (channels count : ℕ) : List (List ℕ) :=
  (List.range count).map fun i => List.range' (i * channels) channels

theorem flatten_numbered (channels count : ℕ) :
    (numbered channels count).flatten = List.range (count * channels) := by
  induction count with
  | zero => simp [numbered]
  | succ count ih =>
    unfold numbered at *
    rw [List.range_succ, List.map_append, List.flatten_append, ih, Nat.succ_mul, List.range_add]
    simp [List.range'_eq_map_range]

theorem length_of_mem_numbered {channels count : ℕ} {frame : List ℕ}
    (h : frame ∈ numbered channels count) : frame.length = channels := by
  obtain ⟨i, _, rfl⟩ := List.mem_map.mp h
  exact List.length_range'

/-- An overflow of a ring without whole frames leaves a part of a frame. -/
theorem not_aligned_of_overflow (hroom : ¬config.channels ∣ config.usableCapacity) (step : Step)
    (hframes : ∀ frame ∈ frames, frame.length = config.channels)
    (hlong : config.usableCapacity ≤ frames.flatten.length) :
    ¬(run (act arithmetic) (start arithmetic config step) [.append frames 1]).Aligned := by
  intro h
  have hstart : (start arithmetic config step : AudioSession Step Phase α).Inv config :=
    start_inv arithmetic config step
  have hnone : (start arithmetic config step : AudioSession Step Phase α).engine.contents = [] :=
    hstart.waiting
  have hempty := congrArg List.length hnone
  rw [AudioEngine.length_contents] at hempty
  have hpcm : frames.flatten ≠ [] := by
    intro hnil
    rw [hnil] at hlong
    exact hroom (Nat.le_zero.mp hlong ▸ Nat.dvd_zero _)
  obtain ⟨_, hconfig, _, _, hcontents⟩ :=
    @AudioEngine.append_live _ _ _ _ _ hstart.valid frames.flatten 1 hpcm (.inl rfl) rfl
  have hlength := congrArg List.length hcontents
  rw [hnone, List.nil_append, List.length_drop] at hlength
  have hroom' : (start arithmetic config step : AudioSession Step Phase α).engine.room =
      config.usableCapacity := by
    show config.usableCapacity - _ = _
    exact (congrArg (config.usableCapacity - ·) hempty).trans (Nat.sub_zero _)
  rw [hroom'] at hlength
  obtain ⟨kept, hkept, hmem⟩ := h.waiting_frames (by
    intro frame hframe
    show frame.length = AudioEngineConfig.channels (AudioEngine.appendRecentPcm _ _ _).config
    rw [hconfig]
    exact hframes frame hframe)
  have hdvd : config.channels ∣ kept.flatten.length := by
    rw [Frames.length_flatten fun frame hframe => hframes frame (hmem frame hframe)]
    exact Nat.dvd_mul_left _ _
  change (AudioEngine.appendRecentPcm _ _ _).contents = _ at hkept
  rw [← hkept, hlength] at hdvd
  apply hroom
  convert hdvd using 1
  omega

theorem chunkCapacity_cases (config : AudioEngineConfig) :
    config.chunkCapacity = config.usableCapacity ∨
      config.chunkCapacity = config.usableCapacity + 1 := by
  unfold AudioEngineConfig.chunkCapacity AudioEngineConfig.usableCapacity at *
  have hle : config.frameChunkSamples ≤ config.capacity := Nat.le_max_right _ _
  split_ifs <;> omega

omit [Inhabited α] in
theorem head_flatten (h : ∀ frame ∈ frames, frame ≠ []) {first : α}
    (hfirst : frames.flatten[0]? = some first) : ∃ frame ∈ frames, frame[0]? = some first := by
  cases frames with
  | nil => cases hfirst
  | cons frame frames =>
    have hlength := List.length_pos_iff.mpr (h frame List.mem_cons_self)
    rw [List.flatten_cons, List.getElem?_append_left hlength] at hfirst
    exact ⟨frame, List.mem_cons_self, hfirst⟩

theorem numbered_ne_nil {channels count : ℕ} (hchannels : 0 < channels) (hcount : 0 < count) :
    (numbered channels count).flatten ≠ [] := by
  rw [flatten_numbered]
  intro hnil
  have hlength := congrArg List.length hnil
  have hpos := Nat.mul_pos hcount hchannels
  rw [List.length_range, List.length_nil] at hlength
  omega

/-- A frame of the numbered ones begins at a multiple of the channels. -/
theorem dvd_of_mem_numbered {channels count first : ℕ} {frame : List ℕ}
    (h : frame ∈ numbered channels count) (hfirst : frame[0]? = some first) :
    channels ∣ first := by
  obtain ⟨i, _, rfl⟩ := List.mem_map.mp h
  obtain ⟨_, hvalue⟩ := List.getElem?_eq_some_iff.mp hfirst
  rw [List.getElem_range'] at hvalue
  rw [← hvalue, Nat.mul_zero, Nat.add_zero]
  exact Nat.dvd_mul_left channels i

/-- A stream that starts over with more than the chunk holds begins inside a frame. -/
theorem not_aligned_of_reset (hroom : config.channels ∣ config.usableCapacity)
    (hsome : config.usableCapacity ≠ 0) (hchunk : ¬config.channels ∣ config.chunkCapacity)
    (step : Step) :
    ¬(run (act arithmetic) (start arithmetic config step)
      [.append (numbered config.channels 1) 2,
        .append (numbered config.channels config.chunkCapacity) 1, .render 0]).Aligned := by
  intro h
  have hchannels : 0 < config.channels := Nat.lt_of_lt_of_le Nat.one_pos (Nat.le_max_right _ _)
  have hsize : config.chunkCapacity = config.usableCapacity + 1 :=
    (chunkCapacity_cases config).resolve_left fun heq => hchunk (heq ▸ hroom)
  have hstart : (start arithmetic config step : AudioSession Step Phase ℕ).Inv config :=
    start_inv arithmetic config step
  obtain ⟨hconfig, hcontents⟩ := AudioEngine.contents_of_reset arithmetic hstart.valid rfl rfl
    (numbered_ne_nil hchannels Nat.one_pos)
    (@numbered_ne_nil config.channels config.chunkCapacity hchannels (by omega))
  rw [run_cons, run_cons, run_cons, run_nil, act_render_zero] at h
  have hmem : ∀ frame ∈ numbered config.channels 1 ++
      numbered config.channels config.chunkCapacity, ∃ count,
        frame ∈ numbered config.channels count := by
    intro frame hframe
    rcases List.mem_append.mp hframe with hone | hmany
    · exact ⟨1, hone⟩
    · exact ⟨config.chunkCapacity, hmany⟩
  obtain ⟨kept, hkept, hsub⟩ := h.waiting_frames (by
    intro frame hframe
    obtain ⟨count, hcount⟩ := hmem frame hframe
    exact (length_of_mem_numbered hcount).trans (congrArg AudioEngineConfig.channels hconfig).symm)
  have hheld := hcontents.symm.trans hkept
  rw [flatten_numbered, List.length_range] at hheld
  have hlong : config.chunkCapacity ≤ config.chunkCapacity * config.channels :=
    Nat.le_mul_of_pos_right _ hchannels
  have hfirst : kept.flatten[0]? =
      some (config.chunkCapacity * config.channels - config.chunkCapacity) := by
    rw [← hheld]
    show ((List.drop _ _).take config.usableCapacity)[0]? = _
    rw [List.getElem?_take_of_lt (by omega), List.getElem?_drop, Nat.add_zero]
    show (List.range _)[_ - min _ config.chunkCapacity]? = _
    rw [Nat.min_eq_right hlong, List.getElem?_range (by omega)]
  have hne : ∀ frame ∈ kept, frame ≠ [] := by
    intro frame hframe hnil
    obtain ⟨count, hcount⟩ := hmem frame (hsub frame hframe)
    have hlength := length_of_mem_numbered hcount
    rw [hnil, List.length_nil] at hlength
    omega
  obtain ⟨frame, hframe, hhead⟩ := head_flatten hne hfirst
  obtain ⟨count, hcount⟩ := hmem frame (hsub frame hframe)
  have hdvd := dvd_of_mem_numbered hcount hhead
  exact hchunk ((Nat.dvd_sub_iff_right hlong (Nat.dvd_mul_left _ _)).mp hdvd)

/-- The channels stay aligned in every run of whole frames, whatever the samples are, just when
the ring holds nothing at all or its usable capacity and the deferred chunk are whole frames. -/
theorem aligned_iff (arithmetic : PhaseArithmetic Step Phase) (config : AudioEngineConfig)
    (step : Step) :
    (∀ (β : Type) [Inhabited β] (actions : List (EngineAction Step β)),
      (∀ action ∈ actions, action.WholeFrames config.channels) →
        (run (act arithmetic) (start arithmetic config step) actions).Aligned) ↔
      KeepsFrames config := by
  constructor
  · intro h
    by_cases hroom : config.channels ∣ config.usableCapacity
    · by_cases hchunk : config.channels ∣ config.chunkCapacity
      · exact .inr ⟨hroom, hchunk⟩
      · left
        by_contra hsome
        refine not_aligned_of_reset arithmetic hroom hsome hchunk step (h ℕ _ ?_)
        intro action haction
        simp only [List.mem_cons, List.not_mem_nil, or_false] at haction
        rcases haction with rfl | rfl | rfl
        · exact fun frame hframe => length_of_mem_numbered hframe
        · exact fun frame hframe => length_of_mem_numbered hframe
        · exact Nat.dvd_zero _
    · have hframes : ∀ frame ∈ numbered config.channels config.usableCapacity,
          frame.length = config.channels := fun frame hframe => length_of_mem_numbered hframe
      have hlong : config.usableCapacity ≤
          (numbered config.channels config.usableCapacity).flatten.length := by
        rw [flatten_numbered, List.length_range]
        exact Nat.le_mul_of_pos_right _ (Nat.lt_of_lt_of_le Nat.one_pos (Nat.le_max_right _ _))
      refine absurd (h ℕ [.append _ 1] fun action haction => ?_)
        (not_aligned_of_overflow arithmetic hroom step hframes hlong)
      rw [List.mem_singleton.mp haction]
      exact hframes
  · intro hkeeps β _ actions hwhole
    exact aligned_of_keepsFrames arithmetic hkeeps step hwhole

def gameGearAudio : AudioEngineConfig where
  channelCount := 2
  ringBufferCapacitySamples := 4096
  frameChunkSamples := 512

/-- Equal rates: each output frame passes one source frame. -/
def equalRates : PhaseArithmetic Unit Unit := ⟨(), fun _ _ => ((), 1)⟩

/-- The stereo ring takes 4095 samples: an append of 2048 frames loses half of one. -/
theorem gameGearAudio_not_aligned :
    (∀ frame ∈ numbered 2 2048, frame.length = gameGearAudio.channels) ∧
      ¬(run (act equalRates) (start equalRates gameGearAudio ())
        [.append (numbered 2 2048) 1]).Aligned := by
  refine ⟨fun frame hframe => length_of_mem_numbered hframe, ?_⟩
  apply not_aligned_of_overflow
  · decide
  · exact fun frame hframe => length_of_mem_numbered hframe
  · rw [flatten_numbered, List.length_range]
    decide

end AudioSession

end ProtoTime.Host
