import ProtoTime.Host.InputEngine

/-!
A machine's side of its input: the generation it polls with, which a ROM load increments and a
restore takes from the file, against the engine's, which only grows.
-/
namespace ProtoTime.Input
open Transition

/-- The two machines differ in which restored masks they keep. -/
inductive MachineCore where
  | gameBoy | gameGear
deriving DecidableEq, Repr

def MachineCore.restoredMask : MachineCore → Option (BitVec 32) → Option (BitVec 32)
  | .gameBoy, mask => mask.bind fun value => if value ≤ 0xFF then some value else none
  | .gameGear, mask => mask

structure MachineInput where
  romLoaded : Bool := false
  inputGeneration : BitVec 64 := 0
  lastDigitalInputMask : Option (BitVec 32) := none
  logicalButtons : InputButtonMask := 0
deriving DecidableEq, Repr

structure InputState where
  inputGeneration : BitVec 64
  lastDigitalInputMask : Option (BitVec 32)
  logicalButtons : InputButtonMask
deriving DecidableEq, Repr

structure InputSession where
  machine : MachineInput
  engine : InputEngine

namespace InputSession

def powerOn (stagingCapacity : ℕ) : InputSession where
  machine := {}
  engine := .ofCapacity stagingCapacity

variable (s : InputSession)

def loadRom : InputSession where
  machine :=
    { romLoaded := true
      inputGeneration := s.machine.inputGeneration + 1
      lastDigitalInputMask := none
      logicalButtons := 0 }
  engine := s.engine.advanceGeneration (s.machine.inputGeneration + 1)

def saveState : Option InputState :=
  if s.machine.romLoaded then
    some ⟨s.machine.inputGeneration, s.machine.lastDigitalInputMask, s.machine.logicalButtons⟩
  else none

/-- The input part of a restore whose file is accepted; without a ROM it is refused. -/
def loadState (core : MachineCore) (s : InputSession) (file : InputState) : InputSession :=
  if s.machine.romLoaded then
    { machine :=
        { s.machine with
          inputGeneration := file.inputGeneration
          lastDigitalInputMask := core.restoredMask file.lastDigitalInputMask
          logicalButtons := file.logicalButtons }
      engine := s.engine.advanceGeneration file.inputGeneration }
  else s

def setButtons (machine : MachineInput) (mask : InputButtonMask) : MachineInput :=
  { machine with logicalButtons := mask, lastDigitalInputMask := some (mask.setWidth 32) }

/-- The poll at a boundary: a committed mask goes to the machine, else the plugins' sample. -/
def serviceInput (sample : AdapterSample) (pluginSample : Option InputButtonMask) : InputSession :=
  let engine := (s.engine.pollActiveAdapter s.machine.inputGeneration sample).1
  let committed := match sample with
    | .inactive => none
    | _ => engine.committedDigitalMask
  match committed, pluginSample with
  | some mask, _ => { machine := setButtons s.machine mask, engine := engine }
  | none, some mask => { machine := setButtons s.machine mask, engine := engine }
  | none, none => { s with engine := engine }

inductive Action where
  | publish (mask : InputButtonMask) (generation : BitVec 64)
  | serviceInput (sample : AdapterSample) (pluginSample : Option InputButtonMask)
  | loadRom
  | saveState
  | loadState (file : InputState)

def step (core : MachineCore) (s : InputSession) : Action → InputSession
  | .publish mask generation =>
    { s with engine := s.engine.publishDigitalSnapshot mask generation }
  | .serviceInput sample pluginSample => s.serviceInput sample pluginSample
  | .loadRom => s.loadRom
  | .saveState => s
  | .loadState file => s.loadState core file

/-- Whatever digital mask the adapter gives at the next poll, the engine commits it at the
machine's generation and the machine takes it. -/
def AcceptsSamples : Prop :=
  ∀ sample mask pluginSample, sample.digital? = some mask →
    let polled := s.serviceInput sample pluginSample
    polled.engine.committedDigitalMask = some mask ∧
      polled.engine.currentGeneration = s.machine.inputGeneration ∧
      polled.machine.lastDigitalInputMask = some (mask.setWidth 32) ∧
      polled.machine.logicalButtons = mask

/-- The condition on one action: a restore does not go back behind the engine's generation, a
snapshot is not published ahead of the machine's, and a ROM load does not wrap the counter
below the engine's. -/
def KeepsGenerations : Action → Prop
  | .publish _ generation => generation ≤ s.machine.inputGeneration
  | .loadRom => s.engine.currentGeneration ≤ s.machine.inputGeneration + 1
  | .loadState file =>
    s.machine.romLoaded = true → s.engine.currentGeneration ≤ file.inputGeneration
  | _ => True

end InputSession

namespace InputEngine

/-- Nothing is staged: every operation of the service commits or drops what it stages. -/
structure Quiet (e : InputEngine) : Prop where
  digital : e.digitalQueue.newest = none
  analog : e.analogQueue.newest = none

theorem Quiet.ofCapacity (stagingCapacity : ℕ) : Quiet (.ofCapacity stagingCapacity) :=
  ⟨if_pos rfl, if_pos rfl⟩

variable {e : InputEngine}

theorem Quiet.advanceGeneration (generation : BitVec 64) :
    Quiet (e.advanceGeneration generation) :=
  ⟨StagingQueue.newest_clear _, StagingQueue.newest_clear _⟩

theorem advanceGeneration_currentGeneration (e : InputEngine) (generation : BitVec 64) :
    (e.advanceGeneration generation).currentGeneration =
      if e.currentGeneration < generation then generation else e.currentGeneration := rfl

theorem stageDigitalSnapshot_stale {generation : BitVec 64}
    (h : generation < e.currentGeneration) (mask : InputButtonMask) :
    e.stageDigitalSnapshot mask generation = (e.dropStale 1, false) := if_pos h

theorem stageAnalogSnapshot_stale {generation : BitVec 64}
    (h : generation < e.currentGeneration) (state : InputAnalogState) :
    e.stageAnalogSnapshot state generation = (e.dropStale 1, false) := if_pos h

section Live

variable {e : InputEngine} {generation : BitVec 64}

/-- What is left in the queues and in the committed state once both queues are committed. -/
theorem commitSnapshots_spec (e : InputEngine) :
    let after := e.commitSnapshots.1
    Quiet after ∧
    after.committedDigitalMask =
      (e.digitalQueue.newest.map DigitalSnapshot.mask).or e.committedDigitalMask ∧
    (∀ bound, e.currentGeneration ≤ bound →
      (∀ snapshot, e.digitalQueue.newest = some snapshot → snapshot.generation ≤ bound) →
      (∀ snapshot, e.analogQueue.newest = some snapshot → snapshot.generation ≤ bound) →
      after.currentGeneration ≤ bound) ∧
    (∀ snapshot, e.digitalQueue.newest = some snapshot →
      snapshot.generation ≤ after.currentGeneration) := by
  cases hd : e.digitalQueue.newest with
  | none =>
    cases ha : e.analogQueue.newest with
    | none =>
      simp only [commitSnapshots, commitDigitalSnapshot, commitAnalogSnapshot, hd, ha]
      exact ⟨⟨hd, ha⟩, by simp, fun _ h _ _ => h, by simp⟩
    | some analog =>
      simp only [commitSnapshots, commitDigitalSnapshot, commitAnalogSnapshot, hd, ha,
        raiseGeneration]
      refine ⟨⟨hd, StagingQueue.newest_clear _⟩, by simp, ?_, by simp⟩
      intro bound hcurrent _ hanalog
      have := hanalog analog rfl
      split
      · exact this
      · exact hcurrent
  | some digital =>
    cases ha : e.analogQueue.newest with
    | none =>
      simp only [commitSnapshots, commitDigitalSnapshot, commitAnalogSnapshot, hd, ha,
        raiseGeneration]
      refine ⟨⟨StagingQueue.newest_clear _, ha⟩, by simp, ?_, ?_⟩
      · intro bound hcurrent hdigital _
        have := hdigital digital rfl
        split
        · exact this
        · exact hcurrent
      · intro snapshot hsnapshot
        cases hsnapshot
        split
        · exact BitVec.le_refl _
        · next h => exact BitVec.not_lt.mp h
    | some analog =>
      simp only [commitSnapshots, commitDigitalSnapshot, commitAnalogSnapshot, hd, ha,
        raiseGeneration]
      refine ⟨⟨StagingQueue.newest_clear _, StagingQueue.newest_clear _⟩, by simp, ?_, ?_⟩
      · intro bound hcurrent hdigital hanalog
        have hd' := hdigital digital rfl
        have ha' := hanalog analog rfl
        split_ifs <;> assumption
      · intro snapshot hsnapshot
        cases hsnapshot
        split_ifs <;> bv_omega

/-- What staging can leave: the newest entries, if any, are of this generation. -/
structure Staged (e before : InputEngine) (generation : BitVec 64)
    (digital : Option InputButtonMask) : Prop where
  newestDigital : e.digitalQueue.newest = digital.map fun mask => ⟨generation, mask⟩
  newestAnalog : ∀ snapshot, e.analogQueue.newest = some snapshot →
    snapshot.generation = generation
  committed : e.committedDigitalMask = before.committedDigitalMask
  current : e.currentGeneration = before.currentGeneration

theorem Staged.digital (hq : Quiet e) (hlive : e.currentGeneration ≤ generation)
    (digital : Option InputButtonMask) :
    Staged (e.stageDigital? digital generation).1 e generation digital ∧
      (e.stageDigital? digital generation).2 = digital.isSome := by
  cases digital with
  | none =>
    refine ⟨⟨hq.digital, ?_, rfl, rfl⟩, rfl⟩
    intro snapshot h
    rw [stageDigital?, hq.analog] at h
    cases h
  | some mask =>
    simp only [stageDigital?, stageDigitalSnapshot, if_neg (BitVec.not_lt.mpr hlive)]
    refine ⟨⟨StagingQueue.newest_stage _ _, ?_, rfl, rfl⟩, rfl⟩
    intro snapshot h
    rw [hq.analog] at h
    cases h

theorem Staged.analog {before : InputEngine} {digital : Option InputButtonMask}
    (hs : Staged e before generation digital) (analog : Option InputAnalogState) :
    Staged (e.stageAnalog? analog generation).1 before generation digital := by
  cases analog with
  | none => exact hs
  | some state =>
    simp only [stageAnalog?, stageAnalogSnapshot]
    split
    · exact ⟨hs.newestDigital, hs.newestAnalog, hs.committed, hs.current⟩
    · refine ⟨hs.newestDigital, ?_, hs.committed, hs.current⟩
      intro snapshot h
      simp only [StagingQueue.newest_stage, Option.some.injEq] at h
      rw [← h]

/-- Committing staged samples of a generation that is not behind. -/
theorem Staged.commit {before : InputEngine} {digital : Option InputButtonMask}
    (hs : Staged e before generation digital) (hlive : before.currentGeneration ≤ generation) :
    let after := e.commitSnapshots.1
    Quiet after ∧ after.currentGeneration ≤ generation ∧
    ∀ mask, digital = some mask →
      after.committedDigitalMask = some mask ∧ after.currentGeneration = generation := by
  obtain ⟨hquiet, hcommitted, hbound, hraised⟩ := commitSnapshots_spec e
  have hle : e.commitSnapshots.1.currentGeneration ≤ generation := by
    apply hbound generation (hs.current ▸ hlive)
    · intro snapshot h
      rw [hs.newestDigital] at h
      cases digital with
      | none => cases h
      | some mask =>
        cases h
        exact BitVec.le_refl _
    · intro snapshot h
      rw [hs.newestAnalog snapshot h]
      exact BitVec.le_refl _
  refine ⟨hquiet, hle, ?_⟩
  rintro mask rfl
  rw [hs.newestDigital] at hcommitted hraised
  exact ⟨hcommitted, BitVec.le_antisymm hle (hraised _ rfl)⟩

/-- A poll at a generation that is not behind commits the digital sample it gets. -/
theorem poll_live (hq : Quiet e) (hlive : e.currentGeneration ≤ generation)
    (sample : AdapterSample) :
    let after := (e.pollActiveAdapter generation sample).1
    Quiet after ∧ after.currentGeneration ≤ generation ∧
    ∀ mask, sample.digital? = some mask →
      after.committedDigitalMask = some mask ∧ after.currentGeneration = generation := by
  cases sample with
  | inactive => exact ⟨hq, hlive, fun mask h => by cases h⟩
  | boundary neutralFallback digital analog =>
    simp only [pollActiveAdapter, if_neg (BitVec.not_lt.mpr hlive)]
    cases neutralFallback with
    | true =>
      have hquiet : Quiet (e.applyNeutralFallback generation) :=
        ⟨StagingQueue.newest_clear _, StagingQueue.newest_clear _⟩
      refine ⟨hquiet, ?_, fun mask h => by cases h⟩
      show (if e.currentGeneration < generation then generation else e.currentGeneration) ≤ _
      split
      · exact BitVec.le_refl _
      · exact hlive
    | false =>
      have hs := (Staged.digital hq hlive (some digital)).1.analog (some analog)
      exact hs.commit hlive
  | polled digital analog =>
    obtain ⟨hstaged, hflag⟩ := Staged.digital hq hlive digital
    have hs := hstaged.analog analog
    obtain ⟨hquiet, hle, hall⟩ := hs.commit hlive
    simp only [pollActiveAdapter]
    split
    · exact ⟨hquiet, hle, hall⟩
    · next hnone =>
      simp only [hflag, Bool.or_eq_true, not_or, Bool.not_eq_true, Option.isSome_eq_false_iff,
        Option.isNone_iff_eq_none] at hnone
      obtain ⟨hdigital, hanalog⟩ := hnone
      subst hdigital
      cases analog with
      | none => exact ⟨hq, hlive, fun mask h => by cases h⟩
      | some state =>
        have hnot : ¬ generation < e.currentGeneration := BitVec.not_lt.mpr hlive
        simp only [stageAnalog?, stageAnalogSnapshot, stageDigital?, hnot, ↓reduceIte] at hanalog
        cases hanalog

/-- A poll at a generation that is behind commits nothing. -/
theorem poll_stale (hstale : generation < e.currentGeneration) (sample : AdapterSample) :
    let after := (e.pollActiveAdapter generation sample).1
    after.committedDigitalMask = e.committedDigitalMask ∧
    after.currentGeneration = e.currentGeneration ∧ (Quiet e → Quiet after) := by
  cases sample with
  | inactive => exact ⟨rfl, rfl, id⟩
  | boundary neutralFallback digital analog =>
    simp only [pollActiveAdapter, if_pos hstale, stageDigitalSnapshot_stale hstale]
    exact ⟨rfl, rfl, fun hq => ⟨hq.digital, hq.analog⟩⟩
  | polled digital analog =>
    have hdigital : e.stageDigital? digital generation =
        (if digital.isSome then e.dropStale 1 else e, false) := by
      cases digital with
      | none => rfl
      | some mask => exact stageDigitalSnapshot_stale hstale mask
    have hanalog (e' : InputEngine) (h : generation < e'.currentGeneration) :
        e'.stageAnalog? analog generation =
          (if analog.isSome then e'.dropStale 1 else e', false) := by
      cases analog with
      | none => rfl
      | some state => exact stageAnalogSnapshot_stale h state
    have hdropped (e' : InputEngine) (flag : Bool) :
        (if flag then e'.dropStale 1 else e').currentGeneration = e'.currentGeneration ∧
        (if flag then e'.dropStale 1 else e').committedDigitalMask = e'.committedDigitalMask ∧
        (Quiet e' → Quiet (if flag then e'.dropStale 1 else e')) := by
      cases flag
      · exact ⟨rfl, rfl, id⟩
      · exact ⟨rfl, rfl, fun hq => ⟨hq.digital, hq.analog⟩⟩
    obtain ⟨hdg, hdc, hdq⟩ := hdropped e digital.isSome
    obtain ⟨hag, hac, haq⟩ := hdropped (if digital.isSome then e.dropStale 1 else e) analog.isSome
    simp only [pollActiveAdapter, hdigital, hanalog _ (hdg.symm ▸ hstale), Bool.or_self,
      Bool.false_eq_true, ↓reduceIte]
    exact ⟨hac.trans hdc, hag.trans hdg, fun hq => haq (hdq hq)⟩

theorem publish_spec (hq : Quiet e) (mask : InputButtonMask) :
    Quiet (e.publishDigitalSnapshot mask generation) ∧
    (e.publishDigitalSnapshot mask generation).currentGeneration =
      if e.currentGeneration < generation then generation else e.currentGeneration := by
  by_cases hstale : generation < e.currentGeneration
  · have hnot : ¬ e.currentGeneration < generation := by bv_omega
    rw [publishDigitalSnapshot, stageDigitalSnapshot_stale hstale, if_neg hnot]
    exact ⟨⟨hq.digital, hq.analog⟩, rfl⟩
  · simp only [publishDigitalSnapshot, stageDigitalSnapshot, if_neg hstale, commitDigitalSnapshot,
      StagingQueue.newest_stage, raiseGeneration]
    exact ⟨⟨StagingQueue.newest_clear _, hq.analog⟩, trivial⟩

end Live

end InputEngine

namespace InputSession

open InputEngine

def Live (s : InputSession) : Prop := s.engine.currentGeneration ≤ s.machine.inputGeneration

theorem serviceInput_engine (s : InputSession) (sample : AdapterSample)
    (pluginSample : Option InputButtonMask) :
    (s.serviceInput sample pluginSample).engine =
      (s.engine.pollActiveAdapter s.machine.inputGeneration sample).1 := by
  simp only [serviceInput]
  split <;> rfl

theorem serviceInput_inputGeneration (s : InputSession) (sample : AdapterSample)
    (pluginSample : Option InputButtonMask) :
    (s.serviceInput sample pluginSample).machine.inputGeneration = s.machine.inputGeneration := by
  simp only [serviceInput]
  split <;> rfl

variable {s : InputSession}

theorem acceptsSamples_iff_live (hq : Quiet s.engine) :
    s.AcceptsSamples ↔ s.Live := by
  constructor
  · intro haccepts
    by_contra hlive
    have hstale := BitVec.not_le.mp hlive
    obtain ⟨-, hgeneration, -⟩ := haccepts (.boundary false 0 {}) 0 none rfl
    have hsame := (poll_stale hstale (.boundary false 0 {})).2.1
    rw [serviceInput_engine, hsame] at hgeneration
    rw [hgeneration] at hstale
    exact BitVec.lt_irrefl _ hstale
  · intro hlive sample mask pluginSample hsample
    obtain ⟨-, -, hall⟩ := poll_live hq hlive sample
    obtain ⟨hcommitted, hcurrent⟩ := hall mask hsample
    cases sample with
    | inactive => cases hsample
    | boundary neutralFallback digital analog =>
      refine ⟨?_, ?_, ?_, ?_⟩ <;> simp [serviceInput, hcommitted, hcurrent, setButtons]
    | polled digital analog =>
      refine ⟨?_, ?_, ?_, ?_⟩ <;> simp [serviceInput, hcommitted, hcurrent, setButtons]

theorem quiet_step (hq : Quiet s.engine) (core : MachineCore)
    (action : Action) : Quiet (s.step core action).engine := by
  cases action with
  | publish mask generation => exact (publish_spec hq mask).1
  | serviceInput sample pluginSample =>
    rw [step, serviceInput_engine]
    by_cases hlive : s.engine.currentGeneration ≤ s.machine.inputGeneration
    · exact (poll_live hq hlive sample).1
    · exact (poll_stale (BitVec.not_le.mp hlive) sample).2.2 hq
  | loadRom => exact Quiet.advanceGeneration _
  | saveState => exact hq
  | loadState file =>
    simp only [step, loadState]
    split
    · exact Quiet.advanceGeneration _
    · exact hq

/-- From a live state exactly the actions that meet the condition lead to a live one. -/
theorem live_step_iff (hq : Quiet s.engine) (hlive : s.Live)
    (core : MachineCore) (action : Action) :
    (s.step core action).Live ↔ s.KeepsGenerations action := by
  cases action with
  | publish mask generation =>
    simp only [Live, step, KeepsGenerations, (publish_spec hq mask).2]
    split
    · exact Iff.rfl
    · have h : s.engine.currentGeneration ≤ s.machine.inputGeneration := hlive
      constructor
      · intro _
        bv_omega
      · exact fun _ => h
  | serviceInput sample pluginSample =>
    simp only [Live, step, KeepsGenerations, iff_true, serviceInput_engine,
      serviceInput_inputGeneration]
    exact (poll_live hq hlive sample).2.1
  | loadRom =>
    simp only [Live, step, loadRom, KeepsGenerations, advanceGeneration_currentGeneration]
    split
    · constructor
      · intro _
        bv_omega
      · exact fun _ => BitVec.le_refl _
    · exact Iff.rfl
  | saveState => exact ⟨fun _ => trivial, fun _ => hlive⟩
  | loadState file =>
    simp only [step, loadState, KeepsGenerations]
    split
    · next hrom =>
      simp only [Live, hrom, forall_const, advanceGeneration_currentGeneration]
      split
      · constructor
        · intro _
          bv_omega
        · exact fun _ => BitVec.le_refl _
      · exact Iff.rfl
    · next hrom => exact ⟨fun _ h => absurd h hrom, fun _ => hlive⟩

/-- In every run on either machine, every sample is accepted in every state reached just when
no action brings the machine's generation behind the engine's: no restore goes back to an older
input generation, nothing is published ahead of the machine, no ROM load wraps its counter. -/
theorem acceptsSamples_throughout_iff (core : MachineCore) (stagingCapacity : ℕ)
    (actions : List Action) :
    Guarded (step core) KeepsGenerations (powerOn stagingCapacity) actions ↔
      ∀ before after, actions = before ++ after →
        (run (step core) (powerOn stagingCapacity) before).AcceptsSamples := by
  have hquiet (before : List Action) :
      Quiet (run (step core) (powerOn stagingCapacity) before).engine :=
    run_invariant (P := fun s : InputSession => Quiet s.engine)
      (fun s action hs => quiet_step hs core action) (Quiet.ofCapacity stagingCapacity) before
  have hstep (s : InputSession) (action : Action) (hs : Quiet s.engine ∧ s.Live) :
      (Quiet (s.step core action).engine ∧ (s.step core action).Live) ↔
        s.KeepsGenerations action :=
    ⟨fun h => (live_step_iff hs.1 hs.2 core action).mp h.2,
      fun h => ⟨quiet_step hs.1 core action, (live_step_iff hs.1 hs.2 core action).mpr h⟩⟩
  have hguarded := guarded_iff_forall_states hstep (s := powerOn stagingCapacity)
    ⟨Quiet.ofCapacity stagingCapacity, BitVec.le_refl _⟩ actions
  rw [hguarded]
  constructor
  · intro h before after heq
    exact (acceptsSamples_iff_live (hquiet before)).mpr (h before after heq).2
  · intro h before after heq
    exact ⟨hquiet before, (acceptsSamples_iff_live (hquiet before)).mp (h before after heq)⟩

/-- Saving, loading the ROM again and restoring: the machine polls with generation 1 and the
engine is at 2, so the button pressed at the next poll does not reach the machine. -/
theorem older_restore_rejects_samples :
    (run (step .gameBoy) (powerOn 8) [.loadRom]).saveState = some ⟨1, none, 0⟩ ∧
    ¬ (run (step .gameBoy) (powerOn 8)
      [.loadRom, .saveState, .loadRom, .loadState ⟨1, none, 0⟩]).AcceptsSamples := by
  refine ⟨by decide, ?_⟩
  intro h
  have hmask := (h (.polled (some 1) none) 1 none rfl).2.2.1
  revert hmask
  decide

end InputSession

end ProtoTime.Input
