import ProtoTime.GameGear.Z80Frame

/-!
How a step of the Z80 moves the interrupt flip-flops, and interrupt acceptance after EI, over
runs in which the devices may change in any way between two instructions.
-/
namespace ProtoTime.GameGear
open GameBoy (Byte Addr hi lo word)
open Stateful Transition

namespace Z80Interpreter

variable {σ : Type} [Z80Bus σ]

theorem frame_flipFlops :
    Frame (fun c c' : Z80Interpreter σ => c'.flipFlops = c.flipFlops) where
  refl _ := rfl
  trans _ _ _ h h' := h'.trans h
  data _ _ h := h.1.2
  pc _ _ := rfl
  memRead _ _ := rfl
  memFetch _ _ := rfl
  memWrite _ _ _ := rfl
  readIo _ _ := rfl
  writeIo _ _ _ := rfl

theorem executeEdOpcode_flipFlops (opcode : Byte) (c : Z80Interpreter σ) :
    (executeEdOpcode opcode c).2.flipFlops = c.flipFlops ∨
      (executeEdOpcode opcode c).2.flipFlops =
        { c.flipFlops with iff1 := c.iff2, ime := c.iff2 } := by
  unfold executeEdOpcode
  split
  · by_cases hz : opcodeZ opcode = 5
    · right
      rw [hz]
      rfl
    · left
      exact stays_executeEdRegular frame_flipFlops (opcodeY opcode) hz c
  · left
    split
    · exact stays_executeBlock frame_flipFlops _ _ _ c
    · rfl

end Z80Interpreter

/-- What executing an opcode may do to the flip-flops: DI clears them, EI sets both and arms
the delay but leaves IME, and otherwise only RETN and RETI copy the second one. -/
def FlipFlops.Moves (f : FlipFlops) (opcode : Option Byte) (f' : FlipFlops) : Prop :=
  if opcode = some 0xF3#8 then f' = ⟨false, false, false, 0⟩
  else if opcode = some 0xFB#8 then f' = { f with iff1 := true, iff2 := true, delay := 2 }
  else f' = f ∨ f' = { f with iff1 := f.iff2, ime := f.iff2 }

namespace Z80Interpreter

variable {σ : Type} [Z80Bus σ]

theorem FlipFlops.moves_of_eq {f f' : FlipFlops} {opcode : Byte}
    (h : touchesFlipFlops opcode = false) (heq : f' = f) : f.Moves (some opcode) f' := by
  simp only [touchesFlipFlops, List.mem_cons, List.not_mem_nil, or_false, decide_eq_false_iff_not,
    not_or] at h
  unfold FlipFlops.Moves
  rw [if_neg (by simpa using h.2.1), if_neg (by simpa using h.2.2)]
  exact .inl heq

theorem executeUnprefixed_moves (opcode : Byte) (c : Z80Interpreter σ) :
    c.flipFlops.Moves (some opcode) (executeUnprefixed opcode c).2.flipFlops := by
  cases h : touchesFlipFlops opcode with
  | false => exact FlipFlops.moves_of_eq h (stays_executeUnprefixed frame_flipFlops h c)
  | true =>
    simp only [touchesFlipFlops, List.mem_cons, List.not_mem_nil, or_false,
      decide_eq_true_eq] at h
    rcases h with rfl | rfl | rfl
    · exact executeEdOpcode_flipFlops _ _
    · rfl
    · rfl

theorem executeIndexedOpcode_moves (indexPrefix opcode : Byte) (c : Z80Interpreter σ) :
    c.flipFlops.Moves (some opcode) (executeIndexedOpcode indexPrefix opcode c).2.flipFlops := by
  cases h : touchesFlipFlops opcode with
  | false => exact FlipFlops.moves_of_eq h (stays_executeIndexedOpcode frame_flipFlops indexPrefix h c)
  | true =>
    rw [executeIndexedOpcode_of_touches indexPrefix h]
    exact executeUnprefixed_moves opcode c

end Z80Interpreter

/-- The countdown at the end of an instruction. -/
def FlipFlops.count (f : FlipFlops) : FlipFlops :=
  if f.delay > 0 then
    if f.delay - 1 = 0 then { f with delay := 0, ime := f.iff1 }
    else { f with delay := f.delay - 1 }
  else f

/-- Outside the delay the master enable is the first flip-flop. -/
def FlipFlops.Settled (f : FlipFlops) : Prop := f.delay = 0 → f.ime = f.iff1

theorem FlipFlops.Settled.count {f : FlipFlops} (h : f.Settled) : f.count.Settled := by
  unfold FlipFlops.count
  split
  · split
    · exact fun _ => rfl
    · next hlast => exact fun hzero => absurd hzero hlast
  · exact h

theorem FlipFlops.Settled.moves {f f' : FlipFlops} {opcode : Option Byte} (h : f.Settled)
    (hmoves : f.Moves opcode f') : f'.Settled := by
  unfold FlipFlops.Moves at hmoves
  split at hmoves
  · rw [hmoves]
    exact fun _ => rfl
  · split at hmoves
    · rw [hmoves]
      intro hzero
      cases hzero
    · rcases hmoves with rfl | rfl
      · exact h
      · exact fun _ => rfl

namespace Z80Interpreter

variable {σ : Type}

theorem flipFlops_countDelay (c : Z80Interpreter σ) :
    c.countDelay.flipFlops = c.flipFlops.count := by
  unfold countDelay FlipFlops.count
  by_cases hdelay : c.imeEnableDelay > 0
  · rw [if_pos hdelay, if_pos (show c.flipFlops.delay > 0 from hdelay)]
    by_cases hlast : c.imeEnableDelay - 1 = 0
    · rw [if_pos hlast, if_pos (show c.flipFlops.delay - 1 = 0 from hlast)]
      rfl
    · rw [if_neg hlast, if_neg (show ¬ c.flipFlops.delay - 1 = 0 from hlast)]
      rfl
  · rw [if_neg hdelay, if_neg (show ¬ c.flipFlops.delay > 0 from hdelay)]

variable [Z80Bus σ]

variable (c : Z80Interpreter σ)

/-- A request is accepted where both enables are on. -/
def accepts : Bool :=
  c.ime && c.iff1 && (Z80Bus.interruptRequest c.bus).1.isSome

def finalOpcode (opcode : Byte) : Z80M σ (Option Byte) :=
  if opcode = 0xDD#8 ∨ opcode = 0xFD#8 then do
    let found ← fetchPrefixed (kMaxIndexPrefixesPerStep - 1) opcode 0
    return found.1.map Prod.snd
  else return some opcode

def executed : Option Byte :=
  if c.accepts then none
  else
    let c := (handleInterrupts c).2
    if c.halted then none
    else
      let (opcode, c) := fetchOpcode c
      (finalOpcode opcode c).1

theorem executeFound_moves (found : Option (Byte × Byte)) (strayPrefixCycles : ℕ)
    (c : Z80Interpreter σ) :
    c.flipFlops.Moves (found.map Prod.snd) (executeFound found strayPrefixCycles c).2.flipFlops := by
  cases found with
  | none => exact .inl rfl
  | some found => exact executeIndexedOpcode_moves found.1 found.2 c

theorem executeOpcode_moves (opcode : Byte) (c : Z80Interpreter σ) :
    c.flipFlops.Moves (finalOpcode opcode c).1 (executeOpcode opcode c).2.flipFlops := by
  unfold finalOpcode executeOpcode
  generalize kMaxIndexPrefixesPerStep - 1 = n
  split
  · have hmoves := executeFound_moves (fetchPrefixed n opcode 0 c).1.1
      (fetchPrefixed n opcode 0 c).1.2 (fetchPrefixed n opcode 0 c).2
    rwa [stays_fetchPrefixed frame_flipFlops n opcode 0 c] at hmoves
  · exact executeUnprefixed_moves opcode c

theorem jumpToHandler_cycles (vector : Byte) (c : Z80Interpreter σ) :
    (jumpToHandler vector c).1 ≠ 0 := by
  show ((if c.interruptMode = 2 then _
    else if c.interruptMode = 0 ∧ vector &&& 0xC7#8 = 0xC7#8 then _ else _ : Z80M σ ℕ) _).1 ≠ 0
  split
  · exact Nat.succ_ne_zero 18
  · split
    · exact Nat.succ_ne_zero 10
    · exact Nat.succ_ne_zero 10

theorem handleInterrupts_apply :
    handleInterrupts c =
      if c.ime = false ∨ c.iff1 = false then (0, c)
      else
        match Z80Bus.interruptRequest c.bus with
        | (none, bus) => (0, { c with bus := bus })
        | (some vector, bus) => acceptInterrupt vector { c with bus := bus } := by
  show (if c.ime = false ∨ c.iff1 = false then (return 0 : Z80M σ ℕ) else _) c = _
  split
  · rfl
  · have hrequest : c.interruptRequest =
        ((Z80Bus.interruptRequest c.bus).1, { c with bus := (Z80Bus.interruptRequest c.bus).2 }) :=
      rfl
    simp only [bind, StateT.bind, hrequest]
    rcases Z80Bus.interruptRequest c.bus with ⟨_ | vector, bus⟩
    · rfl
    · rfl

theorem handleInterrupts_of_accepts {c : Z80Interpreter σ} (h : c.accepts = true) :
    (handleInterrupts c).1 ≠ 0 ∧ (handleInterrupts c).2.flipFlops = ⟨false, false, false, 0⟩ := by
  simp only [accepts, Bool.and_eq_true] at h
  obtain ⟨⟨hime, hiff1⟩, hrequest⟩ := h
  rw [handleInterrupts_apply, if_neg (by simp [hime, hiff1])]
  rcases hanswer : Z80Bus.interruptRequest c.bus with ⟨_ | vector, bus⟩
  · rw [hanswer] at hrequest
    cases hrequest
  · exact ⟨jumpToHandler_cycles vector _, stays_jumpToHandler frame_flipFlops vector _⟩

theorem handleInterrupts_of_not {c : Z80Interpreter σ} (h : c.accepts = false) :
    (handleInterrupts c).1 = 0 ∧ (handleInterrupts c).2.flipFlops = c.flipFlops := by
  rw [handleInterrupts_apply]
  split
  · exact ⟨rfl, rfl⟩
  · next hon =>
    simp only [not_or, Bool.not_eq_false] at hon
    simp only [accepts, hon.1, hon.2, Bool.and_self, Bool.true_and] at h
    rcases hanswer : Z80Bus.interruptRequest c.bus with ⟨_ | vector, bus⟩
    · exact ⟨rfl, rfl⟩
    · rw [hanswer] at h
      cases h

theorem step_apply :
    step c =
      if (handleInterrupts c).1 ≠ 0 then handleInterrupts c
      else if (handleInterrupts c).2.halted then (4, (handleInterrupts c).2)
      else executeInstruction (handleInterrupts c).2 := by
  show (if (handleInterrupts c).1 ≠ 0 then (return (handleInterrupts c).1 : Z80M σ ℕ) else _)
    (handleInterrupts c).2 = _
  split
  · rfl
  · show (if (handleInterrupts c).2.halted = true then (return 4 : Z80M σ ℕ) else _)
      (handleInterrupts c).2 = _
    split <;> rfl

/-- What one step does to the flip-flops: an accepted interrupt clears them, a halted
processor leaves them, and an executed opcode moves them before the countdown. -/
theorem step_flipFlops :
    if c.accepts then (step c).2.flipFlops = ⟨false, false, false, 0⟩
    else (step c).2.flipFlops = c.flipFlops ∧ c.executed = none ∨
      ∃ f, c.flipFlops.Moves c.executed f ∧ (step c).2.flipFlops = f.count := by
  have hstep := step_apply c
  cases haccepts : c.accepts with
  | true =>
    obtain ⟨hcycles, hflip⟩ := handleInterrupts_of_accepts haccepts
    rw [if_pos rfl, hstep, if_pos hcycles]
    exact hflip
  | false =>
    obtain ⟨hcycles, hflip⟩ := handleInterrupts_of_not haccepts
    rw [if_neg Bool.false_ne_true, hstep, if_neg (by simpa using hcycles)]
    unfold executed
    rw [haccepts, if_neg Bool.false_ne_true]
    dsimp only
    generalize handleInterrupts c = polled at hflip ⊢
    obtain ⟨cycles, polled⟩ := polled
    cases hhalted : polled.halted with
    | true => exact .inl ⟨hflip, rfl⟩
    | false =>
      right
      refine ⟨(executeOpcode (fetchOpcode polled).1 (fetchOpcode polled).2).2.flipFlops, ?_, ?_⟩
      · have hmoves := executeOpcode_moves (fetchOpcode polled).1 (fetchOpcode polled).2
        rw [← hflip]
        exact hmoves
      · exact flipFlops_countDelay _

theorem settled_step {c : Z80Interpreter σ} (h : c.flipFlops.Settled) :
    (step c).2.flipFlops.Settled := by
  have hstep := step_flipFlops c
  split at hstep
  · rw [hstep]
    exact fun _ => rfl
  · rcases hstep with ⟨hsame, -⟩ | ⟨f, hmoves, hcount⟩
    · rw [hsame]
      exact h
    · rw [hcount]
      exact (h.moves hmoves).count

theorem step_ei {c : Z80Interpreter σ} (h : c.executed = some 0xFB#8) :
    (step c).2.ime = c.ime ∧ (step c).2.iff1 = true := by
  have hstep := step_flipFlops c
  split at hstep
  · next haccepts =>
    unfold executed at h
    rw [if_pos haccepts] at h
    cases h
  · rcases hstep with ⟨-, hnone⟩ | ⟨f, hmoves, hcount⟩
    · rw [hnone] at h
      cases h
    · rw [h] at hmoves
      have hf : f = { c.flipFlops with iff1 := true, iff2 := true, delay := 2 } := hmoves
      rw [hf] at hcount
      exact ⟨congrArg FlipFlops.ime hcount, congrArg FlipFlops.iff1 hcount⟩

/-- The devices change between two instructions. -/
def boundary (devices : σ → σ) : Z80Interpreter σ :=
  { c with bus := devices c.bus }

def advance (devices : σ → σ) : Z80Interpreter σ :=
  (step (c.boundary devices)).2

def EiProtected (actions : List (σ → σ)) : Prop :=
  ∀ before devices next after, actions = before ++ devices :: next :: after →
    ((run advance c before).boundary devices).executed = some 0xFB#8 →
      ((run advance c (before ++ [devices])).boundary next).accepts = false

/-- Outside the delay of an EI the master enable is the first flip-flop. -/
def EnablesAgree (actions : List (σ → σ)) : Prop :=
  ∀ before after, actions = before ++ after →
    (run advance c before).imeEnableDelay = 0 →
      (run advance c before).ime = (run advance c before).iff1

/-- An EI executed with the master enable on is not followed by a request. -/
def NoRequestAfterRedundantEi (actions : List (σ → σ)) : Prop :=
  ∀ before devices next after, actions = before ++ devices :: next :: after →
    ((run advance c before).boundary devices).executed = some 0xFB#8 →
      (run advance c before).ime = true →
        (Z80Bus.interruptRequest
          ((run advance c (before ++ [devices])).boundary next).bus).1 = none

theorem enablesAgree_reset (actions : List (σ → σ)) : EnablesAgree c.reset actions := by
  intro before after _
  have hstep : ∀ (c : Z80Interpreter σ) (devices : σ → σ), c.flipFlops.Settled →
      (c.advance devices).flipFlops.Settled := fun c devices h => settled_step h
  have hreset : c.reset.flipFlops.Settled := fun _ => rfl
  exact run_invariant hstep hreset before

/-- In every run from reset: no interrupt is accepted directly after an EI, and the enables
agree outside the delay, just when no request follows an EI executed with interrupts on. -/
theorem ei_discipline_iff (c : Z80Interpreter σ) (actions : List (σ → σ)) :
    EiProtected c.reset actions ∧ EnablesAgree c.reset actions ↔
      NoRequestAfterRedundantEi c.reset actions := by
  have hboundary : ∀ before devices next,
      ((run advance c.reset before).boundary devices).executed = some 0xFB#8 →
        (((run advance c.reset (before ++ [devices])).boundary next).accepts = false ↔
          ((run advance c.reset before).ime = true → (Z80Bus.interruptRequest
            ((run advance c.reset (before ++ [devices])).boundary next).bus).1 = none)) := by
    intro before devices next hei
    obtain ⟨hime, hiff1⟩ := step_ei hei
    have hnext : run advance c.reset (before ++ [devices]) =
        (step ((run advance c.reset before).boundary devices)).2 := run_append ..
    rw [hnext]
    simp only [accepts, boundary] at hime hiff1 ⊢
    rw [hime, hiff1]
    cases (run advance c.reset before).ime <;> simp
  constructor
  · rintro ⟨hprotected, -⟩ before devices next after hactions hei
    exact (hboundary before devices next hei).mp (hprotected before devices next after hactions hei)
  · intro hcondition
    refine ⟨?_, enablesAgree_reset c actions⟩
    intro before devices next after hactions hei
    exact (hboundary before devices next hei).mpr (hcondition before devices next after hactions hei)

/-- Two EI instructions with a NOP between them, and a device that may ask for attention. -/
structure EiProgram where
  requesting : Bool

instance : Z80Bus EiProgram where
  memRead address devices := (if address = 1 then 0x00 else 0xFB, devices)
  memWrite _ _ devices := devices
  readIo _ devices := (0xFF, devices)
  writeIo _ _ devices := devices
  interruptRequest devices := (if devices.requesting then some 0xFF else none, ⟨false⟩)

/-- The second EI runs with interrupts on, and a request is accepted directly after it. -/
theorem redundant_ei_not_protected :
    ¬ EiProtected ({ bus := ⟨false⟩ } : Z80Interpreter EiProgram).reset
      [id, id, id, fun _ => ⟨true⟩] := by
  intro hprotected
  have hboundary := hprotected [id, id] id (fun _ => ⟨true⟩) [] rfl (by decide)
  revert hboundary
  decide

end Z80Interpreter

end ProtoTime.GameGear
