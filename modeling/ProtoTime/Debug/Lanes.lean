import ProtoTime.Debug.DebugService
import ProtoTime.Transition

/-!
The transport lane and the machine lane of a debugger service, interleaved at every access of a
queue they share.
-/
namespace ProtoTime.Debug

/-- Which call a pump belongs to: a pump of its own, the pump at the start of a run of at most
`n` instructions, or the pump after an instruction of a run with `n` left. -/
inductive Caller
  | pump
  | entry (n : ℕ)
  | loop (n : ℕ)
  deriving DecidableEq

inductive Lane
  | idle
  | flush (caller : Caller)
  | serve (caller : Caller)
  | answer (reply : Reply) (caller : Caller)
  | execute (n : ℕ)
  | notify

/-- The service, the machine lane's place in it, the requests it has admitted, the replies the
transport has taken, and the instructions retired. -/
structure World (M : Type) where
  service : DebugService M
  lane : Lane
  accepted : List Command
  returned : List Reply
  retired : ℕ

/-- What either lane does next. The machine itself changes only between the service's calls. -/
inductive Event (M : Type)
  | request (command : Command)
  | response
  | trace
  | pump
  | run (maxInstructions : ℕ)
  | currentSnapshot
  | installScriptHooks (actions : List HookAction) (caps : HookCapabilities)
  | change (machine : M)
  | tick

variable {M : Type}

namespace World

def create (D : DebugMachine M) (machine : M) (recording : Bool) : World M :=
  ⟨DebugService.create D machine recording, .idle, [], [], 0⟩

/-! ## The transport lane -/

variable (w : World M)

def request (c : Command) : World M :=
  if w.service.requests.length < kQueueCapacity then
    { w with
      service := { w.service with requests := w.service.requests ++ [c] }
      accepted := w.accepted ++ [c] }
  else
    { w with service := { w.service with requestOverflow := w.service.requestOverflow + 1 } }

def response : World M :=
  match w.service.replies with
  | [] => w
  | r :: rs => { w with service := { w.service with replies := rs }, returned := w.returned ++ [r] }

def trace : World M :=
  { w with service := { w.service with engine := w.service.engine.consume } }

/-! ## The machine lane -/

def return' : Caller → World M
  | .pump => { w with lane := .idle }
  | .entry n =>
    if w.service.pendingReply.isSome = true ∨ w.service.state ≠ .running then
      { w with lane := .idle }
    else { w with lane := .execute n }
  | .loop n =>
    if w.service.pendingReply.isSome then { w with lane := .notify }
    else { w with lane := .execute n }

/-- Put a reply in the reply queue, if there is room. -/
def push (r : Reply) : World M :=
  { w with service := { w.service with replies := w.service.replies ++ [r] } }

def full : Prop := w.service.replies.length = kQueueCapacity

instance (w : World M) : Decidable w.full := inferInstanceAs (Decidable (_ = _))

def flush (k : Caller) : World M :=
  match w.service.pendingReply with
  | none => { w with lane := .serve k }
  | some r =>
    if w.full then w.return' k
    else
      { w.push r with
        service := { (w.push r).service with pendingReply := none }, lane := .serve k }

variable (D : DebugMachine M)

def serve (w : World M) (k : Caller) : World M :=
  match w.service.requests with
  | [] => w.return' k
  | c :: cs =>
    let r := { w.service with requests := cs }.apply D c
    { w with service := r.2, lane := .answer r.1 k }

def answer (r : Reply) (k : Caller) : World M :=
  if w.full then { w with service := { w.service with pendingReply := some r } }.return' k
  else { w.push r with lane := .serve k }

def execute (w : World M) : ℕ → World M
  | 0 => { w with lane := .notify }
  | n + 1 =>
    if w.service.state = .running then
      let round := w.service.round D
      if round.goesOn then
        { w with
          service := round.service.synchronize D
          lane := .flush (.loop n), retired := w.retired + round.retired }
      else
        { w with
          service := round.service, lane := .notify, retired := w.retired + round.retired }
    else { w with lane := .notify }

/-- A run that has stopped says so. -/
def notify (w : World M) : World M :=
  if w.service.state = .paused ∨ w.service.state = .faulted then
    let stopped := w.service.snapshot D 0
    if w.full then
      { w with service := { w.service with pendingReply := some stopped }, lane := .idle }
    else { w.push stopped with lane := .idle }
  else { w with lane := .idle }

def tick (w : World M) : World M :=
  match w.lane with
  | .idle => w
  | .flush k => w.flush k
  | .serve k => w.serve D k
  | .answer r k => w.answer r k
  | .execute n => w.execute D n
  | .notify => w.notify D

/-- A call of the machine lane, when it has returned from the one before. -/
def call (f : World M → World M) : World M :=
  match w.lane with
  | .idle => f w
  | _ => w

def synchronize (D : DebugMachine M) (w : World M) : World M :=
  { w with service := w.service.synchronize D }

def step (w : World M) : Event M → World M
  | .request c => w.request c
  | .response => w.response
  | .trace => w.trace
  | .pump => w.call fun w => { w.synchronize D with lane := .flush .pump }
  | .run n => w.call fun w => { w.synchronize D with lane := .flush (.entry n) }
  | .currentSnapshot => w.call (synchronize D)
  | .installScriptHooks actions caps => w.call fun w =>
    let s := w.service.synchronize D
    { w with service := { s with
      scriptHooks := s.scriptHooks.install actions caps s.generation (s.state == .paused) } }
  | .change machine => w.call fun w => { w with service := { w.service with machine := machine } }
  | .tick => w.tick D

theorem return_service (k : Caller) : (w.return' k).service = w.service := by
  cases k with
  | pump => rfl
  | entry n =>
    unfold return'
    dsimp only
    split
    · rfl
    · rfl
  | loop n =>
    unfold return'
    dsimp only
    split
    · rfl
    · rfl

theorem return_ghosts (k : Caller) : (w.return' k).returned = w.returned
    ∧ (w.return' k).accepted = w.accepted ∧ (w.return' k).retired = w.retired := by
  cases k with
  | pump => exact ⟨rfl, rfl, rfl⟩
  | entry n =>
    unfold return'
    dsimp only
    split
    · exact ⟨rfl, rfl, rfl⟩
    · exact ⟨rfl, rfl, rfl⟩
  | loop n =>
    unfold return'
    dsimp only
    split
    · exact ⟨rfl, rfl, rfl⟩
    · exact ⟨rfl, rfl, rfl⟩

/-- Instructions retire in the loop of a run only. -/
theorem lane_of_retired {D : DebugMachine M} {w : World M} {e : Event M}
    (h : (w.step D e).retired ≠ w.retired) : e = .tick ∧ ∃ n, w.lane = .execute n := by
  have hcall : ∀ f : World M → World M, (f w).retired = w.retired →
      (w.call f).retired = w.retired := by
    intro f hf
    unfold call
    split
    · exact hf
    · rfl
  cases e with
  | request c =>
    refine absurd ?_ h
    show (w.request c).retired = w.retired
    unfold request
    split
    · rfl
    · rfl
  | response =>
    refine absurd ?_ h
    show w.response.retired = w.retired
    unfold response
    split
    · rfl
    · rfl
  | trace => exact absurd rfl h
  | pump => exact absurd (hcall _ rfl) h
  | run n => exact absurd (hcall _ rfl) h
  | currentSnapshot => exact absurd (hcall _ rfl) h
  | installScriptHooks actions caps => exact absurd (hcall _ rfl) h
  | change machine => exact absurd (hcall _ rfl) h
  | tick =>
    refine ⟨rfl, ?_⟩
    cases hlane : w.lane with
    | execute n => exact ⟨n, rfl⟩
    | idle =>
      refine absurd ?_ h
      show (w.tick D).retired = w.retired
      unfold tick
      rw [hlane]
    | flush k =>
      refine absurd ?_ h
      show (w.tick D).retired = w.retired
      unfold tick
      rw [hlane]
      dsimp only
      unfold flush
      split
      · rfl
      · split
        · exact (return_ghosts w k).2.2
        · rfl
    | serve k =>
      refine absurd ?_ h
      show (w.tick D).retired = w.retired
      unfold tick
      rw [hlane]
      dsimp only
      unfold serve
      split
      · exact (return_ghosts w k).2.2
      · rfl
    | answer r k =>
      refine absurd ?_ h
      show (w.tick D).retired = w.retired
      unfold tick
      rw [hlane]
      dsimp only
      unfold answer
      split
      · exact (return_ghosts _ k).2.2
      · rfl
    | notify =>
      refine absurd ?_ h
      show (w.tick D).retired = w.retired
      unfold tick
      rw [hlane]
      dsimp only
      unfold notify
      split
      · dsimp only
        split
        · rfl
        · rfl
      · rfl

end World

end ProtoTime.Debug
