import Mathlib.Data.Nat.Notation
import ProtoTime.GameBoy.Ppu

/-!
The pixel unit with the rows of the frame it draws while the memory map does not change: one
step is as good as two that take the same time.
-/
namespace ProtoTime.GameBoy

namespace GameBoyPPU

def CaptureDue (p : GameBoyPPU) : Prop :=
  p.ly < 144#8 ∧ ¬ p.capturedScanlines p.ly.toNat ∧ p.dotCounter ≥ kScanlineCaptureCycle

instance captureDueDecidable (p : GameBoyPPU) : Decidable p.CaptureDue :=
  inferInstanceAs (Decidable (_ ∧ _ ∧ _))

/-- The step to the next line, field by field. -/
theorem advanceLine_fields (p : GameBoyPPU) : p.advanceLine =
    { dotCounter := p.dotCounter - kCyclesPerScanline
      ly := if p.ly + 1 ≥ 154#8 then 0 else p.ly + 1
      ppuMode := if p.ly + 1 ≥ 154#8 then kModeDMATransfer
        else if p.ly + 1 < 144#8 then kModeDMATransfer else kModeVBlank
      scanlineReadyPending := if p.ly < 144#8 then true else p.scanlineReadyPending
      vblankPending := if p.ly = 143#8 then true else p.vblankPending
      lastReadyScanline := if p.ly < 144#8 then p.ly else p.lastReadyScanline
      capturedScanlines := if p.ly + 1 ≥ 154#8 then fun _ => false else p.capturedScanlines
      hasCapturedScanlines := if p.ly + 1 ≥ 154#8 then false else p.hasCapturedScanlines
      lcdEnabledLastStep := p.lcdEnabledLastStep
      lastLy := if p.ly + 1 ≥ 154#8 then 0 else p.ly + 1 } := by
  unfold advanceLine
  dsimp only
  by_cases hvisible : p.ly < 144#8
  · rw [if_pos hvisible, if_pos hvisible]
    split_ifs <;> rfl
  · rw [if_neg hvisible, if_neg hvisible]
    dsimp only
    split_ifs <;> rfl
end GameBoyPPU

structure FramePixels (Row : Type) where
  ppu : GameBoyPPU
  framePixels : ℕ → Row

namespace FramePixels

variable {Row : Type} (render : ℕ → Row) (blank : Row)

/-- `render` is the row that `renderScanline` makes of a line under the memory map. -/
def captureIfDue (u : FramePixels Row) : FramePixels Row :=
  if u.ppu.CaptureDue then
    { ppu := u.ppu.captureScanline u.ppu.ly.toNat
      framePixels := Function.update u.framePixels u.ppu.ly.toNat (render u.ppu.ly.toNat) }
  else u

def completeLine (u : FramePixels Row) : FramePixels Row :=
  { captureIfDue render u with ppu := (captureIfDue render u).ppu.advanceLine }

def updateMode (u : FramePixels Row) : FramePixels Row := { u with ppu := u.ppu.updateMode }

/-- The time a step adds before the line loop. -/
def elapse (cycles : ℕ) (u : FramePixels Row) : FramePixels Row :=
  { u with
    ppu := { u.ppu with
      lcdEnabledLastStep := true
      dotCounter := (u.ppu.dotCounter + cycles) % 2 ^ 32 } }

/-- The line loop and the mode after it. -/
def runLines (u : FramePixels Row) : FramePixels Row :=
  (captureIfDue render
    ((completeLine render)^[u.ppu.dotCounter / kCyclesPerScanline] u)).updateMode

/-- `lcdc` is the register as the memory map shows it. -/
def step (lcdc : Byte) (cycles : ℕ) (u : FramePixels Row) : FramePixels Row :=
  if lcdc &&& 0x80#8 = 0 then
    { ppu := u.ppu.stepDisabled
      framePixels := if u.ppu.lcdEnabledLastStep then fun _ => blank else u.framePixels }
  else runLines render (u.elapse cycles)

theorem captureIfDue_ppu (u : FramePixels Row) :
    (captureIfDue render u).ppu = u.ppu.captureIfDue := by
  by_cases hdue : u.ppu.CaptureDue
  · rw [captureIfDue, if_pos hdue]
    exact (if_pos hdue).symm
  · rw [captureIfDue, if_neg hdue]
    exact (if_neg hdue).symm

theorem iterate_ppu (n : ℕ) (u : FramePixels Row) :
    ((completeLine render)^[n] u).ppu = GameBoyPPU.completeLine^[n] u.ppu := by
  induction n generalizing u with
  | zero => rfl
  | succ n ih =>
    rw [Function.iterate_succ_apply, Function.iterate_succ_apply, ih, completeLine,
      captureIfDue_ppu]
    rfl

/-- Without the pixels this is the unit of the board. -/
theorem step_ppu (lcdc : Byte) {cycles : ℕ} {u : FramePixels Row}
    (h : u.ppu.dotCounter + cycles < 2 ^ 32) :
    (step render blank lcdc cycles u).ppu = u.ppu.step lcdc cycles := by
  unfold step GameBoyPPU.step
  rcases eq_or_ne (lcdc &&& 0x80#8) 0 with hoff | hon
  · rw [if_pos hoff, if_pos hoff]
  · rw [if_neg hon, if_neg hon, runLines, updateMode, captureIfDue_ppu, iterate_ppu]
    simp only [elapse, Nat.mod_eq_of_lt h]
    rfl

/-! ## What a line leaves alone -/

section Lines

variable {render} {u : FramePixels Row}

theorem captureIfDue_dots : (captureIfDue render u).ppu.dotCounter = u.ppu.dotCounter := by
  unfold captureIfDue
  split_ifs <;> rfl

theorem captureIfDue_ly : (captureIfDue render u).ppu.ly = u.ppu.ly := by
  unfold captureIfDue
  split_ifs <;> rfl

theorem completeLine_dots :
    (completeLine render u).ppu.dotCounter = u.ppu.dotCounter - kCyclesPerScanline := by
  rw [completeLine, GameBoyPPU.advanceLine_fields, captureIfDue_dots]

theorem iterate_dots {n : ℕ} :
    ((completeLine render)^[n] u).ppu.dotCounter
      = u.ppu.dotCounter - n * kCyclesPerScanline := by
  induction n with
  | zero => simp
  | succ n ih =>
    rw [Function.iterate_succ_apply', completeLine_dots, ih, Nat.succ_mul, Nat.sub_sub]

theorem updateMode_dots : u.updateMode.ppu.dotCounter = u.ppu.dotCounter := by
  simp only [updateMode, GameBoyPPU.updateMode]
  split_ifs <;> rfl

/-- A step ends with the dots of the line it is in. -/
theorem runLines_dots : (runLines render u).ppu.dotCounter
    = u.ppu.dotCounter % kCyclesPerScanline := by
  rw [runLines, updateMode_dots, captureIfDue_dots, iterate_dots, Nat.mod_eq_sub_div_mul]

/-- More dots for the line. -/
def wait (dots : ℕ) (u : FramePixels Row) : FramePixels Row :=
  { u with
    ppu := { u.ppu with lcdEnabledLastStep := true, dotCounter := u.ppu.dotCounter + dots } }

def setMode (mode : Byte) (u : FramePixels Row) : FramePixels Row :=
  { u with ppu := { u.ppu with ppuMode := mode } }

theorem setMode_wait (mode : Byte) (dots : ℕ) :
    (u.setMode mode).wait dots = (u.wait dots).setMode mode := rfl

/-- A line that was captured early is not captured again. -/
theorem captureIfDue_wait (dots : ℕ) :
    captureIfDue render ((captureIfDue render u).wait dots) = captureIfDue render (u.wait dots) := by
  by_cases hdue : u.ppu.CaptureDue
  · have hlater : (u.wait dots).ppu.CaptureDue :=
      ⟨hdue.1, hdue.2.1, hdue.2.2.trans (Nat.le_add_right _ _)⟩
    have hdone : ¬ ((captureIfDue render u).wait dots).ppu.CaptureDue := by
      rw [captureIfDue, if_pos hdue]
      intro hagain
      exact hagain.2.1 (Function.update_self ..)
    rw [captureIfDue, if_neg hdone, captureIfDue, if_pos hdue, captureIfDue, if_pos hlater]
    rfl
  · rw [captureIfDue.eq_def render u, if_neg hdue]

theorem captureIfDue_setMode (mode : Byte) :
    captureIfDue render (u.setMode mode) = (captureIfDue render u).setMode mode := by
  by_cases hdue : u.ppu.CaptureDue
  · rw [captureIfDue.eq_def render u, if_pos hdue]
    exact if_pos hdue
  · rw [captureIfDue.eq_def render u, if_neg hdue]
    exact if_neg hdue

theorem completeLine_setMode (mode : Byte) :
    completeLine render (u.setMode mode) = completeLine render u := by
  rw [completeLine, captureIfDue_setMode, completeLine]
  simp only [setMode, GameBoyPPU.advanceLine_fields]

theorem completeLine_wait (dots : ℕ) (h : kCyclesPerScanline ≤ u.ppu.dotCounter) :
    completeLine render (u.wait dots) = (completeLine render u).wait dots := by
  have hcycles : kScanlineCaptureCycle ≤ kCyclesPerScanline := by decide
  have hcapture : captureIfDue render (u.wait dots) = (captureIfDue render u).wait dots := by
    by_cases hdue : u.ppu.CaptureDue
    · have hlater : (u.wait dots).ppu.CaptureDue :=
        ⟨hdue.1, hdue.2.1, hdue.2.2.trans (Nat.le_add_right _ _)⟩
      rw [captureIfDue.eq_def render u, if_pos hdue]
      exact if_pos hlater
    · have hlater : ¬ (u.wait dots).ppu.CaptureDue := fun hagain =>
        hdue ⟨hagain.1, hagain.2.1, hcycles.trans h⟩
      rw [captureIfDue.eq_def render u, if_neg hdue]
      exact if_neg hlater
  have hdots : kCyclesPerScanline ≤ (captureIfDue render u).ppu.dotCounter := by
    rwa [captureIfDue_dots]
  rw [completeLine, hcapture, completeLine]
  simp only [wait, GameBoyPPU.advanceLine_fields, Nat.sub_add_comm hdots]

theorem iterate_wait (dots n : ℕ) (h : n * kCyclesPerScanline ≤ u.ppu.dotCounter) :
    (completeLine render)^[n] (u.wait dots) = ((completeLine render)^[n] u).wait dots := by
  induction n generalizing u with
  | zero => rfl
  | succ n ih =>
    rw [Nat.succ_mul] at h
    rw [Function.iterate_succ_apply, Function.iterate_succ_apply,
      completeLine_wait dots (by omega), ih (by rw [completeLine_dots]; omega)]

/-- The mode at the end of a step is the one the next step overwrites, or stays. -/
theorem updateMode_eq : u.updateMode = u ∨ u.ppu.ly < 144#8 ∧ ∃ mode, u.updateMode = u.setMode mode := by
  by_cases hline : u.ppu.ly < 144#8 ∧ u.ppu.dotCounter < kCyclesPerScanline
  · refine .inr ⟨hline.1, ?_⟩
    simp only [updateMode, GameBoyPPU.updateMode, if_pos hline]
    exact ⟨_, rfl⟩
  · refine .inl ?_
    simp only [updateMode, GameBoyPPU.updateMode, if_neg hline]

/-- What a step does at its end is done again, or undone, by the next one. -/
theorem runLines_wait (dots : ℕ) :
    runLines render ((captureIfDue render u).updateMode.wait dots)
      = runLines render (u.wait dots) := by
  have hdots : ((captureIfDue render u).updateMode.wait dots).ppu.dotCounter
      = (u.wait dots).ppu.dotCounter := by
    simp only [wait, updateMode_dots, captureIfDue_dots]
  have hmode (v : FramePixels Row) : completeLine render (v.updateMode.wait dots)
      = completeLine render (v.wait dots) := by
    rcases v.updateMode_eq with hsame | ⟨_, mode, hmode⟩
    · rw [hsame]
    · rw [hmode, setMode_wait, completeLine_setMode]
  unfold runLines
  rw [hdots]
  generalize hlines : (u.wait dots).ppu.dotCounter / kCyclesPerScanline = lines
  cases lines with
  | succ n =>
    rw [Function.iterate_succ_apply, Function.iterate_succ_apply, hmode, completeLine,
      captureIfDue_wait, completeLine.eq_def render (u.wait dots)]
  | zero =>
    rw [Function.iterate_zero_apply, Function.iterate_zero_apply]
    have hshort : (u.wait dots).ppu.dotCounter < kCyclesPerScanline :=
      (Nat.div_eq_zero_iff.mp hlines).resolve_left (by decide)
    rcases (captureIfDue render u).updateMode_eq with hsame | ⟨hline, mode, hmode⟩
    · rw [hsame, captureIfDue_wait]
    · rw [hmode]
      have hline' : (captureIfDue render (u.wait dots)).ppu.ly < 144#8
          ∧ (captureIfDue render (u.wait dots)).ppu.dotCounter < kCyclesPerScanline := by
        rw [captureIfDue_dots]
        rw [captureIfDue_ly] at hline ⊢
        exact ⟨hline, hshort⟩
      rw [setMode_wait, captureIfDue_setMode, captureIfDue_wait]
      generalize captureIfDue render (u.wait dots) = v at hline'
      unfold updateMode GameBoyPPU.updateMode
      rw [if_pos hline']
      exact congrArg (FramePixels.mk · v.framePixels) (if_pos hline')

theorem runLines_iterate (n : ℕ) (h : n * kCyclesPerScanline ≤ u.ppu.dotCounter) :
    runLines render ((completeLine render)^[n] u) = runLines render u := by
  have hlines : n ≤ u.ppu.dotCounter / kCyclesPerScanline :=
    (Nat.le_div_iff_mul_le (by decide)).mpr h
  unfold runLines
  rw [iterate_dots, Nat.mul_comm n, Nat.sub_mul_div, ← Function.iterate_add_apply, Nat.sub_add_cancel hlines]

theorem elapse_eq_wait {cycles : ℕ} (h : u.ppu.dotCounter + cycles < 2 ^ 32) :
    u.elapse cycles = u.wait cycles := by
  unfold elapse wait
  rw [Nat.mod_eq_of_lt h]

end Lines

/-- Two steps with no event taken between them are one. -/
theorem step_step (u : FramePixels Row) (lcdc : Byte) {a b : ℕ}
    (h : u.ppu.dotCounter + (a + b) < 2 ^ 32) :
    step render blank lcdc b (step render blank lcdc a u)
      = step render blank lcdc (a + b) u := by
  unfold step
  rcases eq_or_ne (lcdc &&& 0x80#8) 0 with hoff | hon
  · rw [if_pos hoff, if_pos hoff, if_pos hoff]
    simp [GameBoyPPU.stepDisabled]
  · rw [if_neg hon, if_neg hon, if_neg hon]
    have hfirst : u.elapse a = u.wait a := elapse_eq_wait (by omega)
    have hboth : u.elapse (a + b) = (u.wait a).wait b := by
      rw [elapse_eq_wait h]
      simp only [wait, Nat.add_assoc]
    have hrest : (runLines render (u.wait a)).ppu.dotCounter ≤ u.ppu.dotCounter + a := by
      rw [runLines_dots]
      exact Nat.mod_le _ _
    have hlines := Nat.div_mul_le_self (u.wait a).ppu.dotCounter kCyclesPerScanline
    rw [hfirst, hboth, elapse_eq_wait (by omega), runLines.eq_def render (u.wait a),
      runLines_wait, ← iterate_wait b _ hlines, runLines_iterate _ (hlines.trans (Nat.le_add_right _ b))]

theorem step_step_reset : step (fun line => line) 0 0x80#8 300 (step (fun line => line) 0 0x80#8 200
      { ppu := GameBoyPPU.reset, framePixels := fun _ => 0 })
    = step (fun line => line) 0 0x80#8 (200 + 300)
      { ppu := GameBoyPPU.reset, framePixels := fun _ => 0 } :=
  step_step (fun line => line) 0 _ 0x80#8 (by decide)

/-- The dot counter wraps inside one long step and not in two. -/
theorem step_wraps : ∃ (u : FramePixels ℕ) (a b : ℕ), u.ppu.dotCounter < kCyclesPerScanline ∧
    a + b < 2 ^ 32 ∧ step id 0 0x80#8 b (step id 0 0x80#8 a u) ≠ step id 0 0x80#8 (a + b) u := by
  have hdots (cycles : ℕ) (u : FramePixels ℕ) : (step id 0 0x80#8 cycles u).ppu.dotCounter
      = (u.ppu.dotCounter + cycles) % 2 ^ 32 % 456 := by
    rw [step, if_neg (by decide), runLines_dots]
    rfl
  refine ⟨⟨{ GameBoyPPU.reset with dotCounter := 455 }, fun _ => 0⟩, 2 ^ 32 - 456, 455,
    by decide, by decide, fun h => ?_⟩
  have heq := congrArg (fun u => u.ppu.dotCounter) h
  simp only [hdots] at heq
  omega

end FramePixels

end ProtoTime.GameBoy
