import ProtoTime.Debug.Lanes

/-!
Which replies reach the transport: every admitted request is answered once and in order, as long
as a run that stops finds room for its notification.
-/
namespace ProtoTime.Debug

open Transition

variable {M : Type}

/-! ## What a command keeps of the queues -/

/-- The queues and the slot of a pending reply are as before. -/
structure SameQueues (s t : DebugService M) : Prop where
  requests : t.requests = s.requests
  replies : t.replies = s.replies
  pendingReply : t.pendingReply = s.pendingReply

namespace SameQueues

theorem refl (s : DebugService M) : SameQueues s s := ⟨rfl, rfl, rfl⟩

theorem trans {s t u : DebugService M} (hst : SameQueues s t) (htu : SameQueues t u) :
    SameQueues s u :=
  ⟨htu.requests.trans hst.requests, htu.replies.trans hst.replies,
    htu.pendingReply.trans hst.pendingReply⟩

end SameQueues

namespace DebugService

theorem stop_queues (s : DebugService M) (reason : Reason) : SameQueues s (s.stop reason) :=
  ⟨rfl, rfl, rfl⟩

variable (D : DebugMachine M)

theorem synchronize_queues (s : DebugService M) : SameQueues s (s.synchronize D) := by
  unfold synchronize
  split
  · exact SameQueues.refl s
  · exact ⟨rfl, rfl, rfl⟩

variable {s t : DebugService M} {c : Command}

theorem resume_queues (h : s.resume c = .ok t) : SameQueues s t := by
  obtain ⟨u, -, h⟩ := Results.bind_eq_ok h
  obtain ⟨u, -, h⟩ := Results.bind_eq_ok h
  cases h
  exact ⟨rfl, rfl, rfl⟩

theorem setRules_queues {D : DebugMachine M} (h : s.setRules D c = .ok t) : SameQueues s t := by
  iterate 4 obtain ⟨u, -, h⟩ := Results.bind_eq_ok h
  cases h
  exact ⟨rfl, rfl, rfl⟩

theorem edit_queues {D : DebugMachine M} (h : s.edit D c = .ok t) : SameQueues s t := by
  iterate 3 obtain ⟨u, -, h⟩ := Results.bind_eq_ok h
  cases h
  split
  · have h := synchronize_queues D
      { s with machine := D.debugEdited (commitEdit D s.machine c) }
    exact ⟨h.requests, h.replies, h.pendingReply⟩
  · exact SameQueues.refl s

theorem operate_queues {D : DebugMachine M}
    {memory : List Byte} (h : s.operate D c = .ok (memory, t)) : SameQueues s t := by
  unfold operate at h
  split at h
  · obtain ⟨t', ht, hpair⟩ := Results.map_eq_ok h
    cases hpair
    exact resume_queues ht
  · obtain ⟨t', ht, hpair⟩ := Results.map_eq_ok h
    cases hpair
    exact resume_queues ht
  · cases h
    exact stop_queues s .pause
  · obtain ⟨t', ht, hpair⟩ := Results.map_eq_ok h
    cases hpair
    exact setRules_queues ht
  · obtain ⟨t', ht, hpair⟩ := Results.map_eq_ok h
    cases hpair
    exact edit_queues ht
  · obtain ⟨t', ht, hpair⟩ := Results.map_eq_ok h
    cases hpair
    exact SameQueues.refl s
  · cases h
    exact ⟨rfl, rfl, rfl⟩

section

variable (s : DebugService M)

theorem apply_queues (c : Command) : SameQueues s (s.apply D c).2 := by
  unfold apply
  split
  · next memory t h =>
    obtain ⟨u, -, h⟩ := Results.bind_eq_ok h
    exact operate_queues h
  · exact ⟨rfl, rfl, rfl⟩

theorem apply_id (c : Command) : (s.apply D c).1.id = c.id := by
  unfold apply
  split
  · rfl
  · rfl

theorem retire_queues : SameQueues s s.retire := by
  unfold retire
  dsimp only
  split
  · exact ⟨rfl, rfl, rfl⟩
  · split
    · exact ⟨rfl, rfl, rfl⟩
    · split
      · exact ⟨rfl, rfl, rfl⟩
      · split
        · exact ⟨rfl, rfl, rfl⟩
        · exact ⟨rfl, rfl, rfl⟩

theorem slice_queues : SameQueues s (s.slice D).2 :=
  ⟨rfl, rfl, rfl⟩

theorem execute_queues : SameQueues s (s.execute D).service := by
  unfold execute
  dsimp only
  split
  · exact stop_queues s .breakpoint
  · split
    · exact ⟨rfl, rfl, rfl⟩
    · split
      · exact ⟨rfl, rfl, rfl⟩
      · exact (slice_queues D s).trans (retire_queues (s.slice D).2)

theorem round_queues : SameQueues s (s.round D).service := by
  unfold round
  dsimp only
  split
  · exact (synchronize_queues D s).trans (execute_queues D _)
  · exact synchronize_queues D s

end

end DebugService

/-! ## Where the answers are -/

/-- The ids that ask for an answer; a notification has none. -/
def answers (ids : List (BitVec 32)) : List (BitVec 32) := ids.filter (· ≠ 0)

theorem answers_append (xs ys : List (BitVec 32)) :
    answers (xs ++ ys) = answers xs ++ answers ys :=
  List.filter_append xs ys

def Lane.inHand : Lane → List Reply
  | .answer r _ => [r]
  | _ => []

namespace World

variable (w : World M)

/-- The ids on their way, from the transport's replies back to its requests: taken, queued,
pending, in the machine lane's hand, and requested. -/
def underway : List (BitVec 32) :=
  (w.service.replies.map Reply.id ++ (w.service.pendingReply.toList.map Reply.id
    ++ (w.lane.inHand.map Reply.id ++ w.service.requests.map Command.id)))

/-- The replies the transport has taken are a prefix of its requests, in order and each once, and
every other request is still underway. -/
def Delivered : Prop :=
  answers (w.returned.map Reply.id) ++ answers w.underway = answers (w.accepted.map Command.id)

/-- Nothing waits in the slot while commands are served or instructions are executed. -/
def SlotFree : Prop :=
  match w.lane with
  | .serve _ | .answer _ _ | .execute _ => w.service.pendingReply = none
  | _ => True

structure Kept (w : World M) : Prop where
  delivered : w.Delivered
  slot : w.SlotFree

/-- A run that has stopped can say so without displacing a reply that waits in the slot. -/
def RoomToStop : Event M → Prop
  | .tick => match w.lane with
    | .notify => (w.service.state = .paused ∨ w.service.state = .faulted) →
      w.service.pendingReply = none ∨ ¬ w.full
    | _ => True
  | _ => True

variable (D : DebugMachine M)

theorem create_kept (machine : M) (recording : Bool) :
    (create D machine recording).Kept := ⟨rfl, trivial⟩

theorem underway_congr {w v : World M} (hqueues : SameQueues w.service v.service)
    (hhand : v.lane.inHand = w.lane.inHand) : v.underway = w.underway := by
  unfold underway
  rw [hqueues.replies, hqueues.pendingReply, hqueues.requests, hhand]

theorem delivered_of_queues {w v : World M} (h : w.Delivered)
    (hqueues : SameQueues w.service v.service) (hhand : v.lane.inHand = w.lane.inHand)
    (hreturned : v.returned = w.returned) (haccepted : v.accepted = w.accepted) :
    v.Delivered := by
  unfold Delivered at *
  rw [underway_congr hqueues hhand, hreturned, haccepted]
  exact h

theorem return_inHand (k : Caller) : (w.return' k).lane.inHand = [] := by
  cases k with
  | pump => rfl
  | entry n =>
    unfold return'
    dsimp only
    split
    · rfl
    · rfl
  | loop n =>
    unfold return'
    dsimp only
    split
    · rfl
    · rfl

theorem return_slotFree (k : Caller) : (w.return' k).SlotFree := by
  cases k with
  | pump => trivial
  | entry n =>
    unfold return'
    dsimp only
    split
    · trivial
    · next h =>
      have hnone : ¬ w.service.pendingReply.isSome = true := fun hsome => h (.inl hsome)
      exact Option.not_isSome_iff_eq_none.mp hnone
  | loop n =>
    unfold return'
    dsimp only
    split
    · trivial
    · next h => exact Option.not_isSome_iff_eq_none.mp h

variable {k : Caller}

theorem return_kept {w : World M} (h : { w with lane := .idle }.Delivered) :
    (w.return' k).Kept := by
  obtain ⟨hreturned, haccepted, -⟩ := return_ghosts w k
  refine ⟨delivered_of_queues h ?_ (return_inHand w k) hreturned haccepted, return_slotFree w k⟩
  rw [return_service]
  exact SameQueues.refl w.service

/-! ## One step -/

theorem request_kept {w : World M} (h : w.Kept) (c : Command) : (w.request c).Kept := by
  unfold request
  split
  · refine ⟨?_, h.slot⟩
    have hdelivered := h.delivered
    unfold Delivered underway at *
    simp only [List.map_append, List.map_cons, List.map_nil, answers_append] at *
    rw [← hdelivered]
    simp only [List.append_assoc]
  · exact ⟨h.delivered, h.slot⟩

theorem response_kept {w : World M} (h : w.Kept) : w.response.Kept := by
  unfold response
  split
  · exact h
  · next r rs hreplies =>
    refine ⟨?_, h.slot⟩
    have hdelivered := h.delivered
    unfold Delivered underway at *
    rw [hreplies] at hdelivered
    have hcons : r.id :: rs.map Reply.id = [r.id] ++ rs.map Reply.id := rfl
    simp only [List.map_append, List.map_cons, List.map_nil, hcons, answers_append] at *
    rw [← hdelivered]
    simp only [List.append_assoc]

theorem flush_kept {w : World M} (h : w.Kept) (hlane : w.lane = .flush k) : (w.flush k).Kept := by
  have hdelivered := h.delivered
  unfold flush
  split
  · next hnone =>
    refine ⟨delivered_of_queues hdelivered (SameQueues.refl _) ?_ rfl rfl, hnone⟩
    rw [hlane]
    rfl
  · next r hsome =>
    split
    · apply return_kept
      refine delivered_of_queues hdelivered (SameQueues.refl _) ?_ rfl rfl
      rw [hlane]
      rfl
    · refine ⟨?_, rfl⟩
      unfold Delivered underway at *
      rw [hsome, hlane] at hdelivered
      simp only [push, Lane.inHand, List.map_append, List.map_cons, List.map_nil, answers_append,
        Option.toList_some, Option.toList_none, List.nil_append] at *
      rw [← hdelivered]
      simp only [List.append_assoc, answers]

theorem serve_kept {w : World M} (h : w.Kept) (hlane : w.lane = .serve k) : (w.serve D k).Kept := by
  have hdelivered := h.delivered
  have hslot := h.slot
  unfold SlotFree at hslot
  rw [hlane] at hslot
  unfold serve
  split
  · apply return_kept
    refine delivered_of_queues hdelivered (SameQueues.refl _) ?_ rfl rfl
    rw [hlane]
    rfl
  · next c cs hrequests =>
    have hqueues := DebugService.apply_queues D { w.service with requests := cs } c
    have hid := DebugService.apply_id D { w.service with requests := cs } c
    refine ⟨?_, hqueues.pendingReply.trans hslot⟩
    unfold Delivered underway at *
    rw [hrequests, hlane] at hdelivered
    rw [hqueues.replies, hqueues.pendingReply, hqueues.requests]
    have hcons : c.id :: cs.map Command.id = [c.id] ++ cs.map Command.id := rfl
    simp only [Lane.inHand, List.map_cons, List.map_nil, hcons, hid, List.nil_append] at *
    exact hdelivered

theorem answer_kept {w : World M} (h : w.Kept) {r : Reply}
    (hlane : w.lane = .answer r k) : (w.answer r k).Kept := by
  have hdelivered := h.delivered
  have hslot := h.slot
  unfold SlotFree at hslot
  rw [hlane] at hslot
  unfold Delivered underway at hdelivered
  rw [hslot, hlane] at hdelivered
  unfold answer
  split
  · apply return_kept
    exact hdelivered
  · refine ⟨?_, hslot⟩
    unfold Delivered underway
    simp only [push, hslot, Lane.inHand, List.map_append, List.map_cons, List.map_nil,
      Option.toList_none, List.nil_append, List.append_assoc] at *
    exact hdelivered

theorem execute_kept {w : World M} (h : w.Kept) {n : ℕ}
    (hlane : w.lane = .execute n) : (w.execute D n).Kept := by
  have hhand : w.lane.inHand = [] := by
    rw [hlane]
    rfl
  cases n with
  | zero =>
    exact ⟨delivered_of_queues h.delivered (SameQueues.refl _) hhand.symm rfl rfl, trivial⟩
  | succ n =>
    unfold execute
    dsimp only
    split
    · split
      · exact ⟨delivered_of_queues h.delivered ((DebugService.round_queues D w.service).trans
          (DebugService.synchronize_queues D _)) hhand.symm rfl rfl, trivial⟩
      · exact ⟨delivered_of_queues h.delivered (DebugService.round_queues D w.service) hhand.symm
          rfl rfl, trivial⟩
    · exact ⟨delivered_of_queues h.delivered (SameQueues.refl _) hhand.symm rfl rfl, trivial⟩

theorem notify_kept {w : World M} (h : w.Kept) (hlane : w.lane = .notify)
    (hroom : (w.service.state = .paused ∨ w.service.state = .faulted) →
      w.service.pendingReply = none ∨ ¬ w.full) : (w.notify D).Kept := by
  have hdelivered := h.delivered
  unfold notify
  split
  · next hstopped =>
    unfold Delivered underway at hdelivered
    rw [hlane] at hdelivered
    split
    · next hfull =>
      rcases hroom hstopped with hnone | hspace
      · refine ⟨?_, trivial⟩
        rw [hnone] at hdelivered
        unfold Delivered underway
        simp only [answers_append, Lane.inHand, List.map_nil, Option.toList_some, List.map_cons,
          Option.toList_none] at *
        exact hdelivered
      · exact absurd hfull hspace
    · refine ⟨?_, trivial⟩
      unfold Delivered underway
      simp only [push, answers_append, Lane.inHand, List.map_append, List.map_cons,
        List.map_nil, List.append_assoc] at *
      exact hdelivered
  · refine ⟨delivered_of_queues hdelivered (SameQueues.refl _) ?_ rfl rfl, trivial⟩
    rw [hlane]
    rfl

theorem call_kept {w : World M} (h : w.Kept) {f : World M → World M}
    (hf : w.lane = .idle → (f w).Kept) : (w.call f).Kept := by
  unfold call
  split
  · next hlane => exact hf hlane
  · exact h

theorem step_kept {w : World M} (e : Event M) (hroom : w.RoomToStop e)
    (h : w.Kept) : (w.step D e).Kept := by
  have hidle : w.lane = .idle → w.lane.inHand = [] := by
    intro hlane
    rw [hlane]
    rfl
  cases e with
  | request c => exact request_kept h c
  | response => exact response_kept h
  | trace => exact ⟨h.delivered, h.slot⟩
  | pump =>
    apply call_kept h
    intro hlane
    exact ⟨delivered_of_queues h.delivered (DebugService.synchronize_queues D w.service)
      (hidle hlane).symm rfl rfl, trivial⟩
  | run n =>
    apply call_kept h
    intro hlane
    exact ⟨delivered_of_queues h.delivered (DebugService.synchronize_queues D w.service)
      (hidle hlane).symm rfl rfl, trivial⟩
  | currentSnapshot =>
    apply call_kept h
    intro hlane
    refine ⟨delivered_of_queues h.delivered (DebugService.synchronize_queues D w.service)
      rfl rfl rfl, ?_⟩
    unfold SlotFree synchronize
    rw [hlane]
    trivial
  | installScriptHooks actions caps =>
    apply call_kept h
    intro hlane
    have hqueues := DebugService.synchronize_queues D w.service
    refine ⟨delivered_of_queues h.delivered
      ⟨hqueues.requests, hqueues.replies, hqueues.pendingReply⟩ rfl rfl rfl, ?_⟩
    rw [hlane]
    trivial
  | change machine =>
    apply call_kept h
    intro hlane
    refine ⟨delivered_of_queues h.delivered ⟨rfl, rfl, rfl⟩ rfl rfl rfl, ?_⟩
    unfold SlotFree
    rw [hlane]
    trivial
  | tick =>
    show (w.tick D).Kept
    unfold tick
    cases hlane : w.lane with
    | idle => exact h
    | flush k => exact flush_kept h hlane
    | serve k => exact serve_kept D h hlane
    | answer r k => exact answer_kept h hlane
    | execute n => exact execute_kept D h hlane
    | notify =>
      unfold RoomToStop at hroom
      rw [hlane] at hroom
      exact notify_kept D h hlane hroom

/-- In every run whose stops find room, the replies taken answer the requests in order and each
once, every other request is underway, and nothing retires while a reply waits. -/
theorem replies_kept (D : DebugMachine M) (machine : M) (recording : Bool) (events : List (Event M))
    (hroom : Guarded (step D) RoomToStop (create D machine recording) events) :
    answers ((run (step D) (create D machine recording) events).returned.map Reply.id)
        <+: answers ((run (step D) (create D machine recording) events).accepted.map Command.id)
      ∧ (run (step D) (create D machine recording) events).Delivered
      ∧ ∀ e, ((run (step D) (create D machine recording) events).step D e).retired
          ≠ (run (step D) (create D machine recording) events).retired →
        (run (step D) (create D machine recording) events).service.pendingReply = none := by
  have hkept : (run (step D) (create D machine recording) events).Kept :=
    run_invariant_of_guarded (fun w e hguard h => step_kept D e hguard h)
      (create_kept D machine recording) hroom
  refine ⟨⟨_, hkept.delivered⟩, hkept.delivered, ?_⟩
  intro e hretired
  obtain ⟨-, n, hlane⟩ := lane_of_retired hretired
  have hslot := hkept.slot
  unfold SlotFree at hslot
  rw [hlane] at hslot
  exact hslot

end World

/-! ## A run that loses a reply -/

/-- A machine that retires one instruction a slice. -/
def idleMachine : DebugMachine Unit where
  observationGeneration _ := 0
  debugPortBus := false
  debugRegisters _ _ := 0
  debugValidateRegisters _ := true
  debugCommitRegisters _ _ := ()
  debugPeek _ _ := some 0
  debugWritable _ _ := false
  debugCommitByte _ _ _ := ()
  debugBacking _ _ := 0
  debugEdited _ := ()
  runSlice _ := (⟨false, 1, []⟩, ())

def command (id : BitVec 32) (operation : Operation) (pauseId : BitVec 64) : Command where
  id := id
  operation := operation
  generation := 0
  pauseId := pauseId
  steps := 1
  address := 0
  length := 0
  breaks _ := ⟨0, 0, false⟩
  watches _ := ⟨0, 0, .read⟩
  breakCount := 0
  watchCount := 0
  editRegisters := false
  registers _ := 0
  bytes _ := ⟨0, 0⟩
  byteCount := 0

/-- The reply queue is full of the replies to 31 pauses and a continue; another pause arrives
while an instruction is executed. -/
def stalledConsumer : List (Event Unit) :=
  (List.range 31).map (fun i => .request (command (BitVec.ofNat 32 (i + 1)) .pause 0))
    ++ [.request (command 32 .continue 32), .pump] ++ List.replicate 66 .tick
    ++ [.run 2, .tick, .tick, .tick, .request (command 33 .pause 0), .tick, .tick, .tick, .tick]

namespace World

/-- The stop notification takes the slot of the reply to the last pause. -/
theorem reply_lost :
    ¬ (run (step idleMachine) (create idleMachine () true) stalledConsumer).Delivered := by
  show ¬ (_ = _)
  decide +kernel

/-- One step is requested, executed and announced, and both replies are taken. -/
theorem step_answered :
    answers ((run (step idleMachine) (create idleMachine () true)
        [.request (command 7 .step 1), .run 1, .tick, .tick, .tick, .tick, .tick, .tick, .tick,
          .tick, .tick, .response, .response]).returned.map Reply.id) = [7] := by
  have h := (replies_kept idleMachine () true
    [.request (command 7 .step 1), .run 1, .tick, .tick, .tick, .tick, .tick, .tick, .tick, .tick,
      .tick, .response, .response]
    ⟨trivial, trivial, trivial, trivial, trivial, trivial, trivial, trivial, trivial, trivial,
      fun _ => .inl rfl, trivial, trivial, trivial⟩).2.1
  refine Eq.trans ?_ (h.trans ?_)
  · decide +kernel
  · decide +kernel

end World

end ProtoTime.Debug
