import ProtoTime.Host.VideoConsumption
import Mathlib.Tactic.SplitIfs

/-!
Which frames the video service returns: every frame is blank or made of what was submitted in the
epoch of its call or later, as long as the scanlines of a frame are captured in one epoch.
-/
namespace ProtoTime.Host

open Transition

/-! ## What frames are made of -/

namespace VideoFramePacket

variable {P Q : ℕ → Prop} {f : VideoFramePacket}

theorem All.mono (h : f.All P) (himp : ∀ e, P e → Q e) : f.All Q := by
  constructor
  · intro p hp e he
    exact himp e (h.1 p hp e he)
  · intro e he
    exact himp e (h.2 e he)

theorem all_blank (width height : ℤ) (generation : ℕ) :
    (makeBlankVideoFrame width height generation).All P := by
  constructor
  · intro p hp e he
    rw [List.eq_of_mem_replicate hp] at he
    cases he
  · intro e he
    cases he

theorem materialize_all (h : f.All P) : f.materialize.2.All P := by
  unfold materialize
  split
  · exact h
  · split
    · next argb _ =>
      constructor
      · intro p hp e he
        obtain ⟨c, -, rfl⟩ := List.mem_map.mp hp
        exact h.2 e he
      · intro e he
        cases he
    · exact ⟨fun p hp => absurd hp List.not_mem_nil, h.2⟩

theorem materialize_lifecycleEpoch : f.materialize.2.lifecycleEpoch = f.lifecycleEpoch := by
  unfold materialize
  split
  · rfl
  · split
    · rfl
    · rfl

theorem oldest_all (h : f.All P) {e : ℕ} (he : f.oldest = some e) : P e := by
  have hmem : e ∈ f.pixels.filterMap Pixel.since ++ f.surface.since.toList :=
    List.min?_mem he
  rcases List.mem_append.mp hmem with hpixel | hsurface
  · obtain ⟨p, hp, hsince⟩ := List.mem_filterMap.mp hpixel
    exact h.1 p hp e hsince
  · exact h.2 e (Option.mem_toList.mp hsurface)

theorem computedFrom_all (h : f.All P) (out : VideoFramePacket) : (f.computedFrom out).All P := by
  constructor
  · intro p hp e he
    obtain ⟨q, -, rfl⟩ := List.mem_map.mp hp
    exact oldest_all h he
  · intro e he
    exact oldest_all h he

theorem submittedIn_all {epoch : ℕ} (h : P epoch) : (f.submittedIn epoch).All P := by
  constructor
  · intro p hp e he
    obtain ⟨q, -, rfl⟩ := List.mem_map.mp hp
    cases he
    exact h
  · intro e he
    cases he
    exact h

end VideoFramePacket

/-! ## Processors -/

/-- A processor does not stamp a frame with a later epoch than it had. -/
def VideoProcessor.KeepsStamp (p : VideoProcessor) : Prop :=
  ∀ f out, p.process f = some out → out.lifecycleEpoch ≤ f.lifecycleEpoch

variable {f : VideoFramePacket} {P : ℕ → Prop}

theorem run_all (h : f.All P) (p : VideoProcessor) :
    (VideoProcessor.run f p).All P := by
  unfold VideoProcessor.run
  split
  · split
    · split
      · exact h
      · exact VideoFramePacket.computedFrom_all h _
    · exact h
  · exact h

theorem run_lifecycleEpoch {p : VideoProcessor} (hp : p.KeepsStamp) :
    (VideoProcessor.run f p).lifecycleEpoch ≤ f.lifecycleEpoch := by
  unfold VideoProcessor.run
  split
  · split
    · next out hout =>
      split
      · exact le_rfl
      · exact hp f out hout
    · exact le_rfl
  · exact le_rfl

theorem processed_all (h : f.All P)
    (processors : List VideoProcessor) : (processors.foldl VideoProcessor.run f).All P := by
  induction processors generalizing f with
  | nil => exact h
  | cons p processors ih => exact ih (run_all h p)

theorem processed_lifecycleEpoch {processors : List VideoProcessor}
    (hp : ∀ p ∈ processors, p.KeepsStamp) :
    (processors.foldl VideoProcessor.run f).lifecycleEpoch ≤ f.lifecycleEpoch := by
  induction processors generalizing f with
  | nil => exact le_rfl
  | cons p processors ih =>
    have hrest : ∀ q ∈ processors, q.KeepsStamp := fun q hq => hp q (List.mem_cons_of_mem p hq)
    exact (ih hrest).trans (run_lifecycleEpoch (hp p List.mem_cons_self))

/-! ## Frames built from models -/

theorem buildDebugFrame_all {epoch : ℕ} (h : P epoch) (compose : Composition)
    (e : VideoEngine) (model : VideoDebugFrameModel) :
    (e.buildDebugFrame compose model epoch).All P := by
  constructor
  · intro p hp s hs
    unfold VideoEngine.buildDebugFrame at hp
    split_ifs at hp
    · rw [List.eq_of_mem_replicate hp] at hs
      cases hs
    · obtain ⟨c, -, rfl⟩ := List.mem_map.mp hp
      cases hs
      exact h
  · intro s hs
    cases hs

namespace VideoService

theorem mem_of_mem_copyRow {width row : ℕ} {source pixels : List Pixel} {p : Pixel}
    (h : p ∈ copyRow width source pixels row) : p ∈ source ∨ p ∈ pixels := by
  rcases List.mem_append.mp h with hfirst | hlast
  · rcases List.mem_append.mp hfirst with hbefore | hrow
    · exact .inr (List.mem_of_mem_take hbefore)
    · exact .inl (List.mem_of_mem_drop (List.mem_of_mem_take hrow))
  · exact .inr (List.mem_of_mem_drop hlast)

theorem overlayCapturedScanlines_all {c : ScanlineCapture}
    (hcaptured : ∀ captured, c.frame = some captured → captured.All P) (h : f.All P) :
    (overlayCapturedScanlines c f).All P := by
  unfold overlayCapturedScanlines
  split
  · exact h
  · next captured hframe =>
    split
    · exact h
    · refine ⟨?_, h.2⟩
      have hall := (hcaptured captured hframe).1
      generalize List.range c.captured.length = rows
      have hpixels := h.1
      generalize f.pixels = pixels at hpixels
      induction rows generalizing pixels with
      | nil => exact hpixels
      | cons y rows ih =>
        rw [List.foldl_cons]
        apply ih
        split
        · intro p hp
          rcases mem_of_mem_copyRow hp with hsource | hold
          · exact hall p hsource
          · exact hpixels p hold
        · exact hpixels

theorem composeFrame_all {s : VideoService} {type : MachineEventType}
    (compose : Composition) (model : VideoDebugFrameModel) (hepoch : P s.lifecycleEpoch)
    (hcaptured : type = .vBlank → ∀ f, s.scanlines.frame = some f → f.All P) :
    (s.composeFrame compose type model).All P := by
  have hbuilt := buildDebugFrame_all hepoch compose s.engine model
  unfold composeFrame
  split
  · next captured hframe =>
    split_ifs with hcomplete hpartial
    · exact hcaptured hcomplete.1 captured hframe
    · exact overlayCapturedScanlines_all (hcaptured hpartial.1) hbuilt
    · exact hbuilt
  · exact hbuilt

end VideoService

/-! ## What the service holds -/

/-- A frame is made of nothing older than its stamp. -/
def VideoFramePacket.Fresh (f : VideoFramePacket) : Prop := f.All (f.lifecycleEpoch ≤ ·)

namespace VideoService

structure Fresh (s : VideoService) : Prop where
  engineMailbox : ∀ f, s.engine.mailbox = some f → f.Fresh
  lastValidFrame : ∀ f, s.engine.lastValidFrame = some f → f.Fresh
  realtimeMailbox : ∀ f, s.realtimeMailbox = some f → f.Fresh
  lastProcessedFrame : ∀ f, s.lastProcessedFrame = some f → f.Fresh
  processors : ∀ p ∈ s.processors, p.KeepsStamp

/-- Later in time, with no frame or processor that was not there before. -/
structure Retains (s t : VideoService) : Prop where
  engineMailbox : ∀ f, t.engine.mailbox = some f → s.engine.mailbox = some f
  lastValidFrame : ∀ f, t.engine.lastValidFrame = some f → s.engine.lastValidFrame = some f
  realtimeMailbox : ∀ f, t.realtimeMailbox = some f → s.realtimeMailbox = some f
  lastProcessedFrame : ∀ f, t.lastProcessedFrame = some f → s.lastProcessedFrame = some f
  processors : t.processors = s.processors
  lifecycleEpoch : s.lifecycleEpoch ≤ t.lifecycleEpoch

variable {t : VideoService}

theorem Fresh.retained {s : VideoService} (h : s.Fresh) (hst : s.Retains t) : t.Fresh where
  engineMailbox f hf := h.engineMailbox f (hst.engineMailbox f hf)
  lastValidFrame f hf := h.lastValidFrame f (hst.lastValidFrame f hf)
  realtimeMailbox f hf := h.realtimeMailbox f (hst.realtimeMailbox f hf)
  lastProcessedFrame f hf := h.lastProcessedFrame f (hst.lastProcessedFrame f hf)
  processors := by
    rw [hst.processors]
    exact h.processors

variable (s : VideoService)

theorem Retains.refl : s.Retains s :=
  ⟨fun _ h => h, fun _ h => h, fun _ h => h, fun _ h => h, rfl, le_rfl⟩

theorem retains_of_same {s : VideoService} (hengine : t.engine = s.engine)
    (hrealtime : t.realtimeMailbox = s.realtimeMailbox)
    (hprocessed : t.lastProcessedFrame = s.lastProcessedFrame)
    (hprocessors : t.processors = s.processors) (hepoch : s.lifecycleEpoch ≤ t.lifecycleEpoch) :
    s.Retains t := by
  refine ⟨?_, ?_, ?_, ?_, hprocessors, hepoch⟩
  · rw [hengine]
    exact fun _ h => h
  · rw [hengine]
    exact fun _ h => h
  · rw [hrealtime]
    exact fun _ h => h
  · rw [hprocessed]
    exact fun _ h => h

theorem lifecycle_retains {s : VideoService} {call : VideoService → Bool × VideoService}
    (hcall : s.Retains (call s).2) : s.Retains (s.lifecycle call).2 := by
  unfold lifecycle
  split
  · exact hcall
  · exact retains_of_same rfl rfl rfl rfl le_rfl

theorem configure_retains (config : VideoEngineConfig) (s : VideoService) :
    s.Retains (configure config s).2 := by
  apply lifecycle_retains
  split
  · refine ⟨?_, ?_, fun _ h => h, fun _ h => h, rfl, Nat.le_succ _⟩
    · intro f hf
      cases hf
    · intro f hf
      cases hf
  · exact .refl s

theorem configurePresenter_retains : s.Retains (configurePresenter s).2 := by
  apply lifecycle_retains
  split
  · exact retains_of_same rfl rfl rfl rfl (Nat.le_succ _)
  · exact .refl s

theorem attachPresenter_retains (presenter : Option VideoPresenter) (s : VideoService) :
    s.Retains (attachPresenter presenter s).2 := by
  apply lifecycle_retains
  split
  · split
    · exact retains_of_same rfl rfl rfl rfl (Nat.le_succ _)
    · exact .refl s
  · exact .refl s

theorem detachPresenter_retains : s.Retains (detachPresenter s).2 := by
  apply lifecycle_retains
  exact retains_of_same rfl rfl rfl rfl (Nat.le_succ _)

theorem resume_retains : s.Retains (resume s).2 := by
  apply lifecycle_retains
  split
  · exact retains_of_same rfl rfl rfl rfl le_rfl
  · split
    · exact retains_of_same rfl rfl rfl rfl (Nat.le_succ _)
    · exact retains_of_same rfl rfl rfl rfl le_rfl

theorem pause_retains : s.Retains (pause s).2 := by
  apply lifecycle_retains
  split
  · exact retains_of_same rfl rfl rfl rfl (Nat.le_succ _)
  · exact retains_of_same rfl rfl rfl rfl le_rfl

theorem advanceGeneration_retains : s.Retains s.advanceGeneration :=
  retains_of_same rfl rfl rfl rfl (Nat.le_succ _)

theorem applyPendingEngineGenerationAdvances_retains :
    s.Retains s.applyPendingEngineGenerationAdvances := by
  have hiterate : ∀ (n : ℕ) (e : VideoEngine),
      (∀ f, (VideoEngine.advanceGeneration^[n] e).mailbox = some f → e.mailbox = some f)
        ∧ (VideoEngine.advanceGeneration^[n] e).lastValidFrame = e.lastValidFrame := by
    intro n
    induction n with
    | zero => exact fun e => ⟨fun _ h => h, rfl⟩
    | succ n ih =>
      intro e
      refine ⟨?_, (ih _).2⟩
      intro f hf
      cases (ih _).1 f hf
  obtain ⟨hmailbox, hvalid⟩ := hiterate s.pendingEngineGenerationAdvances s.engine
  refine ⟨hmailbox, ?_, fun _ h => h, fun _ h => h, rfl, le_rfl⟩
  intro f hf
  exact hvalid.symm.trans hf

theorem captureScanline_retains (compose : Composition) (s : VideoService) (value : BitVec 8)
    (model : VideoDebugFrameModel) : s.Retains (s.captureScanline compose value model) := by
  unfold captureScanline
  split
  · exact retains_of_same rfl rfl rfl rfl le_rfl
  · split
    · exact .refl s
    · dsimp only
      split
      · split
        · exact retains_of_same rfl rfl rfl rfl le_rfl
        · exact retains_of_same rfl rfl rfl rfl le_rfl
      · exact retains_of_same rfl rfl rfl rfl le_rfl

theorem Fresh.submitFrame {s : VideoService} (h : s.Fresh)
    (hf : f.All (s.lifecycleEpoch ≤ ·)) : (s.submitFrame f).Fresh := by
  have happlied := h.retained (applyPendingEngineGenerationAdvances_retains s)
  unfold VideoService.submitFrame
  dsimp only
  unfold VideoEngine.submitFrame
  split
  · exact happlied
  · refine ⟨?_, ?_, happlied.realtimeMailbox, happlied.lastProcessedFrame, happlied.processors⟩
    · intro g hg
      cases hg
      exact hf
    · intro g hg
      cases hg
      exact hf

theorem submitVideoDebugModel_fresh {s : VideoService} (h : s.Fresh) (compose : Composition)
    (event : MachineEvent) (model : VideoDebugFrameModel) (debugConsumerActive : Bool)
    (hcaptured : event.type = .vBlank → debugConsumerActive = true →
      ∀ f, s.scanlines.frame = some f → f.All (s.lifecycleEpoch ≤ ·)) :
    (s.submitVideoDebugModel compose event model debugConsumerActive).Fresh
      ∧ s.lifecycleEpoch
        ≤ (s.submitVideoDebugModel compose event model debugConsumerActive).lifecycleEpoch := by
  have happlied := applyPendingEngineGenerationAdvances_retains s
  have hfresh := h.retained happlied
  unfold submitVideoDebugModel
  split
  · exact ⟨h.retained (advanceGeneration_retains s), (advanceGeneration_retains s).lifecycleEpoch⟩
  · dsimp only
    split
    · exact ⟨hfresh.retained (retains_of_same rfl rfl rfl rfl le_rfl), le_rfl⟩
    · next hactive =>
      split
      · have hcapture := captureScanline_retains compose
          s.applyPendingEngineGenerationAdvances event.value model
        exact ⟨hfresh.retained hcapture, hcapture.lifecycleEpoch⟩
      · split
        · refine ⟨?_, le_rfl⟩
          have hreset : s.applyPendingEngineGenerationAdvances.resetScanlineCapture.Fresh :=
            hfresh.retained (retains_of_same rfl rfl rfl rfl le_rfl)
          apply hreset.submitFrame
          apply composeFrame_all compose model
          · exact le_rfl
          · intro htype
            rw [Bool.not_eq_true, Bool.not_eq_false'] at hactive
            exact hcaptured htype hactive
        · exact ⟨hfresh, le_rfl⟩

end VideoService

/-! ## The lanes -/

/-- What a call in progress has in its hands is as new as the epoch it looks for, and that is not
before the call. -/
def VideoConsumer.Fresh (epoch : ℕ) : VideoConsumer → Prop
  | .idle => True
  | .entered call | .checking call | .remembering call => call.since ≤ epoch
  | .draining call activeEpoch | .polling call activeEpoch | .falling call activeEpoch =>
    call.since ≤ epoch ∧ call.since ≤ activeEpoch
  | .processing call activeEpoch _ f | .confirming call activeEpoch _ f
  | .storing call activeEpoch _ f =>
    call.since ≤ epoch ∧ call.since ≤ activeEpoch ∧ f.All (activeEpoch ≤ ·)
      ∧ f.lifecycleEpoch ≤ activeEpoch
  | .presenting call f => call.since ≤ epoch ∧ f.All (call.since ≤ ·)

theorem VideoConsumer.Fresh.later {epoch later : ℕ} {c : VideoConsumer} (h : c.Fresh epoch)
    (hle : epoch ≤ later) : c.Fresh later := by
  cases c with
  | idle => trivial
  | entered call => exact le_trans h hle
  | checking call => exact le_trans h hle
  | draining call activeEpoch => exact ⟨h.1.trans hle, h.2⟩
  | polling call activeEpoch => exact ⟨h.1.trans hle, h.2⟩
  | falling call activeEpoch => exact ⟨h.1.trans hle, h.2⟩
  | processing call activeEpoch usedFallback f => exact ⟨h.1.trans hle, h.2⟩
  | confirming call activeEpoch usedFallback f => exact ⟨h.1.trans hle, h.2⟩
  | storing call activeEpoch usedFallback f => exact ⟨h.1.trans hle, h.2⟩
  | presenting call f => exact ⟨h.1.trans hle, h.2⟩
  | remembering call => exact le_trans h hle

namespace VideoWorld

structure Fresh (w : VideoWorld) : Prop where
  service : w.service.Fresh
  consumer : w.consumer.Fresh w.service.lifecycleEpoch
  publishing : ∀ f, w.publishing = some f → f.Fresh
  returned : ∀ r ∈ w.returned, r.2.All (r.1 ≤ ·)

/-- At a VBlank the rows captured so far were captured in the current epoch, and a processor that
is added keeps the stamps of frames. -/
def CapturedInEpoch (w : VideoWorld) : VideoEvent → Prop
  | .submitVideoDebugModel event _ debugConsumerActive =>
    event.type = .vBlank → debugConsumerActive = true →
      ∀ f, w.service.scanlines.frame = some f → f.All (w.service.lifecycleEpoch ≤ ·)
  | .addProcessor p => p.liveCompatible = true → p.KeepsStamp
  | _ => True

theorem create_fresh (config : VideoEngineConfig) : (create config).Fresh where
  service := by
    refine ⟨?_, ?_, ?_, ?_, ?_⟩
    · intro f hf
      cases hf
    · intro f hf
      cases hf
    · intro f hf
      cases hf
    · intro f hf
      cases hf
    · intro p hp
      cases hp
  consumer := trivial
  publishing _ hf := nomatch hf
  returned _ hr := nomatch hr

variable {w : VideoWorld}

theorem Fresh.withService (h : w.Fresh) {s : VideoService} (hs : s.Fresh)
    (hepoch : w.service.lifecycleEpoch ≤ s.lifecycleEpoch) : { w with service := s }.Fresh where
  service := hs
  consumer := h.consumer.later hepoch
  publishing := h.publishing
  returned := h.returned

theorem Fresh.retained (h : w.Fresh) {s : VideoService}
    (hs : w.service.Retains s) : { w with service := s }.Fresh :=
  h.withService (h.service.retained hs) hs.lifecycleEpoch

variable {call : ConsumeCall}

theorem Fresh.returnNone (h : w.Fresh)
    (hcall : call.since ≤ w.service.lifecycleEpoch) : (w.returnNone call).Fresh := by
  refine ⟨h.service, ?_, h.publishing, h.returned⟩
  unfold VideoWorld.returnNone
  split
  · exact hcall
  · trivial

theorem Fresh.handOut (h : w.Fresh) {since : ℕ} (hf : f.All (since ≤ ·)) :
    { w with consumer := .idle, returned := w.returned ++ [(since, f)] }.Fresh := by
  refine ⟨h.service, trivial, h.publishing, ?_⟩
  intro r hr
  rcases List.mem_append.mp hr with hold | hnew
  · exact h.returned r hold
  · rw [List.mem_singleton.mp hnew]
    exact hf

theorem fallback_all {s : VideoService} (h : s.Fresh) (activeEpoch : ℕ) :
    (fallback s activeEpoch).All (activeEpoch ≤ ·)
      ∧ (fallback s activeEpoch).lifecycleEpoch ≤ activeEpoch := by
  have hengine : (engineFallback s.engine activeEpoch).All (activeEpoch ≤ ·)
      ∧ (engineFallback s.engine activeEpoch).lifecycleEpoch ≤ activeEpoch := by
    have hblank := VideoFramePacket.all_blank (P := (activeEpoch ≤ ·)) s.engine.outWidth
      s.engine.outHeight s.engine.currentGeneration
    unfold engineFallback VideoEngine.fallbackFrame
    cases hvalid : s.engine.lastValidFrame with
    | none => exact ⟨hblank, le_rfl⟩
    | some f =>
      dsimp only
      rw [if_pos rfl]
      split
      · next hsame =>
        rw [← hsame]
        exact ⟨h.lastValidFrame f hvalid, le_rfl⟩
      · exact ⟨hblank, le_rfl⟩
  unfold fallback
  split
  · next f hf =>
    split
    · next hsame =>
      rw [← hsame]
      exact ⟨h.lastProcessedFrame f hf, le_rfl⟩
    · exact hengine
  · exact hengine

/-! ## The render lane -/

variable {activeEpoch : ℕ}

theorem drain_fresh (h : w.Fresh)
    (hconsumer : w.consumer = .draining call activeEpoch) : (w.drain call activeEpoch).Fresh := by
  have hcall := h.consumer
  rw [hconsumer] at hcall
  unfold drain
  split
  · next f hf =>
    have hservice : ({ w.service with realtimeMailbox := none } : VideoService).Fresh :=
      ⟨h.service.engineMailbox, h.service.lastValidFrame, fun g hg => (nomatch hg),
        h.service.lastProcessedFrame, h.service.processors⟩
    refine ⟨hservice, ?_, h.publishing, h.returned⟩
    split
    · next hsame =>
      rw [← hsame] at hcall ⊢
      exact ⟨hcall.1, hcall.2, h.service.realtimeMailbox f hf, le_rfl⟩
    · exact hcall
  · exact ⟨h.service, hcall, h.publishing, h.returned⟩

theorem poll_fresh (h : w.Fresh)
    (hconsumer : w.consumer = .polling call activeEpoch) : (w.poll call activeEpoch).Fresh := by
  have hcall := h.consumer
  rw [hconsumer] at hcall
  unfold poll VideoEngine.tryConsumeLatestFrame
  cases hf : w.service.engine.mailbox with
  | none => exact ⟨h.service, hcall, h.publishing, h.returned⟩
  | some f =>
    have hservice : ({ w.service with
        engine := { w.service.engine with mailbox := none } } : VideoService).Fresh :=
      ⟨fun g hg => (nomatch hg), h.service.lastValidFrame, h.service.realtimeMailbox,
        h.service.lastProcessedFrame, h.service.processors⟩
    refine ⟨hservice, ?_, h.publishing, h.returned⟩
    dsimp only
    split
    · next hsame =>
      rw [← hsame] at hcall ⊢
      exact ⟨hcall.1, hcall.2, h.service.engineMailbox f hf, le_rfl⟩
    · exact hcall

theorem process_fresh (h : w.Fresh) {usedFallback : Bool}
    (hconsumer : w.consumer = .processing call activeEpoch usedFallback f) :
    (w.process call activeEpoch usedFallback f).Fresh := by
  have hcall := h.consumer
  rw [hconsumer] at hcall
  obtain ⟨hsince, hactive, hall, hepoch⟩ := hcall
  have hdecoded : (if requiresArgb w.service f then f.materialize else (true, f)).2.All
        (activeEpoch ≤ ·)
      ∧ (if requiresArgb w.service f then f.materialize else (true, f)).2.lifecycleEpoch
        ≤ activeEpoch := by
    split
    · exact ⟨VideoFramePacket.materialize_all hall,
        VideoFramePacket.materialize_lifecycleEpoch.trans_le hepoch⟩
    · exact ⟨hall, hepoch⟩
  unfold process
  dsimp only
  generalize (if requiresArgb w.service f then f.materialize else (true, f)) = decoded at hdecoded ⊢
  split
  · refine ⟨h.service, ⟨hsince, hactive, ?_, ?_⟩, h.publishing, h.returned⟩
    · exact processed_all hdecoded.1 _
    · exact (processed_lifecycleEpoch h.service.processors).trans hdecoded.2
  · exact h.returnNone hsince

theorem remember_fresh (h : w.Fresh)
    (hconsumer : w.consumer = .remembering call) : (w.remember call).Fresh := by
  have hcall := h.consumer
  rw [hconsumer] at hcall
  have hidle : { w with consumer := .idle }.Fresh := ⟨h.service, trivial, h.publishing, h.returned⟩
  unfold remember
  split
  · next f hf =>
    split
    · next hsame =>
      apply h.handOut
      apply VideoFramePacket.materialize_all
      apply (h.service.lastProcessedFrame f hf).mono
      intro e he
      rw [hsame] at he
      exact le_trans hcall he
    · exact hidle
  · exact hidle

theorem consumeStep_fresh (h : w.Fresh) : w.consumeStep.Fresh := by
  unfold consumeStep
  have hcall := h.consumer
  cases hconsumer : w.consumer with
  | idle => exact h
  | entered call =>
    rw [hconsumer] at hcall
    have hretains := VideoService.applyPendingEngineGenerationAdvances_retains w.service
    exact ⟨h.service.retained hretains, hcall, h.publishing, h.returned⟩
  | checking call =>
    rw [hconsumer] at hcall
    dsimp only
    split
    · exact h.returnNone hcall
    · exact ⟨h.service, ⟨hcall, hcall⟩, h.publishing, h.returned⟩
  | draining call activeEpoch => exact drain_fresh h hconsumer
  | polling call activeEpoch => exact poll_fresh h hconsumer
  | falling call activeEpoch =>
    rw [hconsumer] at hcall
    obtain ⟨hall, hepoch⟩ := fallback_all h.service activeEpoch
    exact ⟨h.service, ⟨hcall.1, hcall.2, hall, hepoch⟩, h.publishing, h.returned⟩
  | processing call activeEpoch usedFallback f => exact process_fresh h hconsumer
  | confirming call activeEpoch usedFallback f =>
    rw [hconsumer] at hcall
    dsimp only
    split
    · exact h.returnNone hcall.1
    · exact ⟨h.service, hcall, h.publishing, h.returned⟩
  | storing call activeEpoch usedFallback f =>
    rw [hconsumer] at hcall
    obtain ⟨hsince, hactive, hall, hepoch⟩ := hcall
    refine ⟨?_, ⟨hsince, ?_⟩, h.publishing, h.returned⟩
    · refine ⟨h.service.engineMailbox, h.service.lastValidFrame, h.service.realtimeMailbox, ?_,
        h.service.processors⟩
      intro g hg
      dsimp only at hg
      split at hg
      · exact h.service.lastProcessedFrame g hg
      · cases hg
        apply hall.mono
        intro e he
        exact hepoch.trans he
    · apply hall.mono
      intro e he
      exact hactive.trans he
  | presenting call f =>
    rw [hconsumer] at hcall
    dsimp only
    unfold present
    split
    · apply Fresh.returnNone
      · exact h.retained (VideoService.retains_of_same rfl rfl rfl rfl le_rfl)
      · exact hcall.1
    · apply h.handOut
      split
      · exact VideoFramePacket.materialize_all hcall.2
      · exact hcall.2
  | remembering call => exact remember_fresh h hconsumer

/-! ## Runs -/

theorem addProcessor_fresh (h : w.Fresh) (p : VideoProcessor)
    (hp : p.liveCompatible = true → p.KeepsStamp) :
    (w.control (VideoService.addProcessor p)).Fresh := by
  unfold control VideoService.addProcessor
  split_ifs with hrefused hactive
  · exact h
  · exact h
  · refine h.withService ⟨h.service.engineMailbox, h.service.lastValidFrame,
      h.service.realtimeMailbox, h.service.lastProcessedFrame, ?_⟩ le_rfl
    intro q hq
    rcases List.mem_append.mp hq with hold | hnew
    · exact h.service.processors q hold
    · rw [List.mem_singleton.mp hnew]
      apply hp
      rwa [Bool.not_eq_true, Bool.not_eq_false'] at hrefused

theorem step_fresh (compose : Composition) (e : VideoEvent)
    (hguard : w.CapturedInEpoch e) (h : w.Fresh) : (w.step compose e).Fresh := by
  cases e with
  | configure config => exact h.retained (VideoService.configure_retains config _)
  | configurePresenter => exact h.retained (VideoService.configurePresenter_retains _)
  | attachPresenter presenter =>
    exact h.retained (VideoService.attachPresenter_retains presenter _)
  | detachPresenter => exact h.retained (VideoService.detachPresenter_retains _)
  | presenterChanges presenter =>
    exact h.retained (VideoService.retains_of_same rfl rfl rfl rfl le_rfl)
  | resume => exact h.retained (VideoService.resume_retains _)
  | pause => exact h.retained (VideoService.pause_retains _)
  | advanceGeneration => exact h.retained (VideoService.advanceGeneration_retains _)
  | bumpLifecycleEpochBarrier =>
    exact h.retained (VideoService.retains_of_same rfl rfl rfl rfl (Nat.le_succ _))
  | setLifecycleContractEnforced enforced =>
    exact h.retained (VideoService.retains_of_same rfl rfl rfl rfl le_rfl)
  | beginLifecycleMutationScope =>
    exact h.retained (VideoService.retains_of_same rfl rfl rfl rfl le_rfl)
  | endLifecycleMutationScope =>
    exact h.retained (VideoService.retains_of_same rfl rfl rfl rfl le_rfl)
  | addProcessor p => exact addProcessor_fresh h p hguard
  | addCapture => exact h.retained (VideoService.retains_of_same rfl rfl rfl rfl le_rfl)
  | submitVideoDebugModel event model debugConsumerActive =>
    obtain ⟨hfresh, hepoch⟩ := VideoService.submitVideoDebugModel_fresh h.service compose event
      model debugConsumerActive hguard
    exact h.withService hfresh hepoch
  | submitFrame f =>
    have hsubmitted := h.service.submitFrame
      (VideoFramePacket.submittedIn_all (f := f) (le_refl w.service.lifecycleEpoch))
    exact h.withService hsubmitted le_rfl
  | publish type contractVersion packet =>
    show (w.publish type contractVersion packet).Fresh
    unfold publish
    split
    · exact h
    · refine ⟨h.service, h.consumer, ?_, h.returned⟩
      intro f hf
      cases hf
      refine ⟨fun p hp => absurd hp List.not_mem_nil, ?_⟩
      intro e he
      cases he
      exact le_rfl
  | publishStep =>
    show w.publishStep.Fresh
    unfold publishStep
    split
    · next f hf =>
      refine ⟨?_, h.consumer, fun g hg => (nomatch hg), h.returned⟩
      refine ⟨h.service.engineMailbox, h.service.lastValidFrame, ?_,
        h.service.lastProcessedFrame, h.service.processors⟩
      intro g hg
      cases hg
      exact h.publishing f hf
    · exact h
  | consume headless =>
    show (w.consume headless).Fresh
    unfold consume
    split
    · exact ⟨h.service, le_rfl, h.publishing, h.returned⟩
    · exact h
  | consumeStep => exact consumeStep_fresh h
  | recordPresentOutcome ok =>
    apply h.retained
    unfold recordPresentOutcome
    split
    · exact .refl _
    · exact VideoService.retains_of_same rfl rfl rfl rfl le_rfl

/-- In every run that captures the rows of a frame in one epoch and adds processors that keep the
stamps, each frame returned is blank or made of submissions no older than the epoch of its call. -/
theorem returned_fresh (compose : Composition) (config : VideoEngineConfig)
    (events : List VideoEvent)
    (hguard : Guarded (step compose) CapturedInEpoch (create config) events) :
    ∀ r ∈ (run (step compose) (create config) events).returned, r.2.All (r.1 ≤ ·) := by
  have hfresh : (run (step compose) (create config) events).Fresh :=
    run_invariant_of_guarded (fun w e he h => step_fresh compose e he h) (create_fresh config)
      hguard
  exact hfresh.returned

/-! ## A frame captured before an epoch change -/

/-- A display of one pixel, and no replacement images. -/
def onePixel (argb : BitVec 32) : VideoDebugFrameModel :=
  ⟨1, 1, true, false, some 0, [argb]⟩

def plain : Composition := fun _ _ _ pixels => pixels

def scanline (argb : BitVec 32) : VideoEvent :=
  .submitVideoDebugModel ⟨.videoScanlineReady, 0⟩ (onePixel argb) true

def vBlank (argb : BitVec 32) : VideoEvent :=
  .submitVideoDebugModel ⟨.vBlank, 0⟩ (onePixel argb) true

/-- The headless path consumes a frame. -/
def consumed : List VideoEvent := .consume true :: List.replicate 10 .consumeStep

def capturedPixel (epoch : ℕ) : VideoFramePacket where
  width := 1
  height := 1
  source := .machineSnapshot
  generation := 0
  lifecycleEpoch := epoch
  pixels := [⟨0xFF112233, some 1⟩]
  surface := {}

/-- The row is captured, the epoch barrier passes, and the next VBlank submits the row. -/
theorem captured_row_survives_barrier :
    ¬ ∀ r ∈ (run (step plain) (create ⟨1, 1, 1⟩) ([scanline 0xFF112233,
        .bumpLifecycleEpochBarrier, vBlank 0xFF445566] ++ consumed)).returned,
      r.2.All (r.1 ≤ ·) := by
  intro h
  have hreturned : (run (step plain) (create ⟨1, 1, 1⟩) ([scanline 0xFF112233,
      .bumpLifecycleEpochBarrier, vBlank 0xFF445566] ++ consumed)).returned
        = [(2, capturedPixel 2)] := by decide
  rw [hreturned] at h
  have hpixel := (h _ List.mem_cons_self).1 ⟨0xFF112233, some 1⟩ List.mem_cons_self 1 rfl
  revert hpixel
  decide

/-- Without the barrier the row is of the epoch in which it is returned. -/
theorem captured_row_returned :
    (run (step plain) (create ⟨1, 1, 1⟩) ([scanline 0xFF112233, vBlank 0xFF445566]
        ++ consumed)).returned = [(1, capturedPixel 1)]
      ∧ (capturedPixel 1).All (1 ≤ ·) := by
  have hreturned : (run (step plain) (create ⟨1, 1, 1⟩) ([scanline 0xFF112233, vBlank 0xFF445566]
      ++ consumed)).returned = [(1, capturedPixel 1)] := by decide
  have hcaptured : (capturedPixel 1).All (1 ≤ ·) := by
    constructor
    · intro p hp e he
      cases List.mem_singleton.mp hp
      cases he
      exact le_rfl
    · intro e he
      cases he
  have hrow : ((create ⟨1, 1, 1⟩).step plain (scanline 0xFF112233)).CapturedInEpoch
      (vBlank 0xFF445566) := by
    intro _ _ f hf
    cases hf
    exact hcaptured
  have hall := returned_fresh plain ⟨1, 1, 1⟩ ([scanline 0xFF112233, vBlank 0xFF445566] ++ consumed)
    ⟨fun h => (nomatch h), hrow, trivial, trivial, trivial, trivial, trivial, trivial, trivial,
      trivial, trivial, trivial, trivial, trivial⟩
  rw [hreturned] at hall
  exact ⟨hreturned, hall _ List.mem_cons_self⟩

end VideoWorld

end ProtoTime.Host
