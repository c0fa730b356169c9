import ProtoTime.Debug.CoreMachines
import ProtoTime.Debug.Replies

/-!
The control states of the debugger service over whole runs, on both machines, and a run in which
a new machine generation wakes a disconnected service.
-/
namespace ProtoTime.Debug

open Transition

variable {M : Type}

/-- The next instruction is executed, and throws. -/
def DebugService.Throws (D : DebugMachine M) (s : DebugService M) : Prop :=
  s.state = .running ∧ (s.synchronize D).state = .running
    ∧ ¬ ((s.synchronize D).skipBreakpoint = false
      ∧ (s.synchronize D).engine.breakpoint (D.debugRegisters s.machine 5)
        (D.debugBacking s.machine (D.debugRegisters s.machine 5)) = true)
    ∧ (D.runSlice s.machine).1.threw = true

/-- What the control states promise of a state of a run and of what follows it. -/
structure Honoured (D : DebugMachine M) (V : EditView M) (w : World M) (after : List (Event M)) :
    Prop where
  disconnects : ∀ c requests, c.operation = .disconnect →
    (({ w.service with requests := requests }).apply D c).1.error = .none →
    (({ w.service with requests := requests }).apply D c).2.state = .detached
  detached_lasts : w.service.state = .detached →
    (run (World.step D) w after).service.state = .detached
      ∧ (run (World.step D) w after).retired = w.retired
  detached_refuses : w.service.state = .detached → ∀ c requests,
    (({ w.service with requests := requests }).apply D c).1.error = .detached
  throw_faults : ∀ n, w.lane = .execute (n + 1) → w.service.Throws D →
    (w.step D .tick).service.state = .faulted
  faulted_lasts : w.service.state = .faulted →
    (run (World.step D) w after).retired = w.retired
      ∧ ((run (World.step D) w after).service.state = .faulted
        ∨ ∃ mid rest c, after = mid ++ .tick :: rest
          ∧ (run (World.step D) w mid).service.state = .faulted
          ∧ (run (World.step D) w mid).Serves c ∧ c.operation = .disconnect)
  retires_running : ∀ e, (w.step D e).retired ≠ w.retired → w.service.state = .running
  stale_refused : ∀ c requests, (c.generation ≠ w.service.generation
      ∨ (c.pauseId ≠ w.service.pauseId ∧ c.operation ≠ .pause ∧ c.operation ≠ .disconnect)) →
    (({ w.service with requests := requests }).apply D c).1.error ≠ .none
  refused_unchanged : ∀ c requests,
    (({ w.service with requests := requests }).apply D c).1.error ≠ .none →
    (({ w.service with requests := requests }).apply D c).2
      = { w.service with requests := requests, rejectedActions := w.service.rejectedActions + 1 }
  edit_exact : ∀ c requests, c.operation = .edit →
    (({ w.service with requests := requests }).apply D c).1.error = .none →
    (∀ b, V.byte (({ w.service with requests := requests }).apply D c).2.machine b
        = V.written c.edits (V.byte w.service.machine b) b)
      ∧ D.debugRegisters (({ w.service with requests := requests }).apply D c).2.machine
        = (if c.editRegisters then c.registers else D.debugRegisters w.service.machine)
      ∧ V.erase (({ w.service with requests := requests }).apply D c).2.machine
        = V.erase w.service.machine

namespace World

variable {D : DebugMachine M}

theorem disconnect_detaches {s : DebugService M} {c : Command}
    (hop : c.operation = .disconnect) (haccepted : (s.apply D c).1.error = .none) :
    (s.apply D c).2.state = .detached := by
  obtain ⟨memory, hperform⟩ := DebugService.perform_of_accepted haccepted
  have hoperate := DebugService.perform_eq_ok hperform
  unfold DebugService.operate at hoperate
  rw [hop] at hoperate
  rw [← congrArg Prod.snd (Except.ok.inj hoperate)]
  rfl

variable {w : World M}

theorem tick_of_throws {n : ℕ} (hlane : w.lane = .execute (n + 1)) (h : w.service.Throws D) :
    (w.step D .tick).service.state = .faulted := by
  obtain ⟨hrunning, hsame, hbreak, hthrew⟩ := h
  have hmachine := DebugService.synchronize_machine D w.service
  have hround : w.service.round D = ⟨{ ((w.service.synchronize D).slice D).2 with
      state := .faulted, reason := .fault }, false, 0⟩ := by
    unfold DebugService.round
    rw [if_pos hsame]
    unfold DebugService.execute
    dsimp only
    rw [hmachine, if_neg hbreak]
    apply if_pos
    show (D.runSlice (w.service.synchronize D).machine).1.threw = true
    rw [hmachine]
    exact hthrew
  show (w.tick D).service.state = .faulted
  unfold tick
  rw [hlane]
  dsimp only
  rw [execute, if_pos hrunning]
  dsimp only
  rw [hround]
  rfl

theorem faulted_until_disconnect {events : List (Event M)}
    (hguard : Guarded (step D) (GenerationKept D) w events) (hstate : w.service.state = .faulted) :
    (run (step D) w events).service.state = .faulted
      ∨ ∃ mid rest c, events = mid ++ .tick :: rest
        ∧ (run (step D) w mid).service.state = .faulted
        ∧ (run (step D) w mid).Serves c ∧ c.operation = .disconnect := by
  induction events generalizing w with
  | nil => exact .inl hstate
  | cons e events ih =>
    obtain ⟨hkept, hrest⟩ := hguard
    rcases (step_lasting hkept (.inr hstate)).2 with hsame | ⟨-, -, rfl, c, hserves, hop⟩
    · rcases ih hrest (hsame.trans hstate) with hfaulted | ⟨mid, rest, c, rfl, hmid, hserves, hop⟩
      · exact .inl hfaulted
      · exact .inr ⟨e :: mid, rest, c, rfl, hmid, hserves, hop⟩
    · exact .inr ⟨[], events, c, rfl, hstate, hserves, hop⟩

/-- Every state is honoured over a run whose calls find a lasting state's generation current. -/
theorem honoured_of_guarded {V : EditView M} (hedits : EditsExactly D V) {after : List (Event M)}
    (hguard : Guarded (step D) (GenerationKept D) w after) : Honoured D V w after where
  disconnects _ _ hop haccepted := disconnect_detaches hop haccepted
  detached_lasts := by
    intro hstate
    apply run_lasting hguard (R := fun s => s = .detached)
    · intro s hs
      exact .inl hs
    · intro h
      cases h
    · exact hstate
  detached_refuses h c requests :=
    (DebugService.apply_detached D (s := { w.service with requests := requests }) c h).1
  throw_faults _ hlane h := tick_of_throws hlane h
  faulted_lasts := by
    intro hstate
    refine ⟨?_, faulted_until_disconnect hguard hstate⟩
    refine (run_lasting hguard (R := fun s => s = .detached ∨ s = .faulted) ?_ ?_ ?_).2
    · exact fun _ hs => hs
    · exact fun _ => .inl rfl
    · exact .inr hstate
  retires_running _ h := running_of_retired h
  stale_refused := by
    intro c requests hstale
    obtain ⟨e, he, hadmit⟩ :=
      DebugService.checkCommand_stale (s := { w.service with requests := requests }) hstale
    rw [(DebugService.apply_of_refused (DebugService.perform_of_checkCommand (D := D) hadmit)).1]
    exact he
  refused_unchanged c requests h :=
    DebugService.apply_error D { w.service with requests := requests } c h
  edit_exact _ _ hop haccepted := ProtoTime.Debug.edit_exact hedits hop haccepted

/-- In every run of either machine whose calls find the machine's generation unchanged while the
service is detached or faulted, every state is honoured. -/
theorem control_states_honoured {C : Type}
    (boyBacking : GameBoy.GameBoyMachine → Address → BitVec 64)
    (boySlice : Observed GameBoy.GameBoyMachine → Slice × Observed GameBoy.GameBoyMachine)
    (gearBacking : GameGear.GameGearMachine C → Address → BitVec 64)
    (gearSlice : Observed (GameGear.GameGearMachine C)
      → Slice × Observed (GameGear.GameGearMachine C)) (recording : Bool) :
    (∀ machine before after, Guarded (step (gameBoyDebug boyBacking boySlice))
        (GenerationKept (gameBoyDebug boyBacking boySlice))
        (create (gameBoyDebug boyBacking boySlice) machine recording) (before ++ after) →
      Honoured (gameBoyDebug boyBacking boySlice) gameBoyView
        (run (step (gameBoyDebug boyBacking boySlice))
          (create (gameBoyDebug boyBacking boySlice) machine recording) before) after)
    ∧ ∀ machine before after, Guarded (step (gameGearDebug gearBacking gearSlice))
        (GenerationKept (gameGearDebug gearBacking gearSlice))
        (create (gameGearDebug gearBacking gearSlice) machine recording) (before ++ after) →
      Honoured (gameGearDebug gearBacking gearSlice) gameGearView
        (run (step (gameGearDebug gearBacking gearSlice))
          (create (gameGearDebug gearBacking gearSlice) machine recording) before) after := by
  constructor
  · intro machine before after hguard
    exact honoured_of_guarded (gameBoy_edits boyBacking boySlice) (guarded_append.mp hguard).2
  · intro machine before after hguard
    exact honoured_of_guarded (gameGear_edits gearBacking gearSlice) (guarded_append.mp hguard).2

end World

/-! ## A disconnected service that wakes -/

/-- A Game Boy that retires one instruction a slice. -/
def idleGameBoy : DebugMachine (Observed GameBoy.GameBoyMachine) :=
  gameBoyDebug (fun _ _ => 0) fun o => (⟨false, 1, []⟩, o)

def disconnected : List (Event (Observed GameBoy.GameBoyMachine)) :=
  [.request (command 1 .disconnect 0), .pump, .tick, .tick, .tick, .tick]

def romLoadAfter : List (Event (Observed GameBoy.GameBoyMachine)) :=
  [.change ⟨.powerOn, 1⟩, .currentSnapshot,
    .request { command 2 .continue 2 with generation := 1 },
    .run 1, .tick, .tick, .tick, .tick, .tick]

namespace World

/-- The generation of the new ROM makes the service paused, and it executes an instruction. -/
theorem disconnected_wakes : ¬ Honoured idleGameBoy gameBoyView
    (run (step idleGameBoy) (create idleGameBoy ⟨.powerOn, 0⟩ true) disconnected)
    romLoadAfter := by
  intro h
  have hdetached : (run (step idleGameBoy) (create idleGameBoy ⟨.powerOn, 0⟩ true)
      disconnected).service.state = .detached := by decide
  have hretired := (h.detached_lasts hdetached).2
  revert hretired
  decide

/-- While the same ROM stays loaded the service stays detached. -/
theorem disconnected_stays : (run (step idleGameBoy) (create idleGameBoy ⟨.powerOn, 0⟩ true)
    (disconnected ++ [.request (command 2 .continue 1), .run 1, .tick, .tick, .tick])).retired
      = 0 := by
  have h := (control_states_honoured (C := Unit) (fun _ _ => 0) (fun o => (⟨false, 1, []⟩, o))
    (fun _ _ => 0) (fun o => (⟨false, 1, []⟩, o)) true).1 ⟨.powerOn, 0⟩ disconnected
    [.request (command 2 .continue 1), .run 1, .tick, .tick, .tick]
    ⟨trivial, fun _ _ => rfl, trivial, trivial, trivial, trivial, trivial, fun _ _ => rfl,
      trivial, trivial, trivial, trivial⟩
  have hstate : (run (step idleGameBoy) (create idleGameBoy ⟨.powerOn, 0⟩ true)
      disconnected).service.state = .detached := by decide
  rw [run_append]
  refine (h.detached_lasts hstate).2.trans ?_
  decide

end World

end ProtoTime.Debug
