import ProtoTime.GameBoy.CoreSound
import ProtoTime.GameBoy.LcdTimers

/-!
Retirement of cycles is additive: retiring a charge in two parts leaves the timed
hardware, the audio unit, the copied bytes and the queued divider resets as retiring
it at once. The count is converted to 32 bits, so a charge must fit there.
-/
namespace ProtoTime.GameBoy

/-- What retirement works on: the timed hardware, the channels of the audio unit with the storage,
and the delayed interrupt enable. -/
structure TimedCore where
  hardware : Hardware
  sound : CoreSound
  ime : Bool
  imeEnablePending : Bool
  imeEnableDelay : ℕ

variable {cycles : ℕ}

namespace TimedCore

/-- Cycle `i` of a charge; the transfer and the channels see the counters from before it. -/
def retireCycle (i : ℕ) (s : TimedCore) : TimedCore :=
  { s with
    sound := (s.sound.dmaCopy s.hardware).stepApuOneCycle s.hardware.apu
    hardware := Hardware.retireCycle i s.hardware }

def retireCycles (i : ℕ) : ℕ → TimedCore → TimedCore
  | 0, s => s
  | n + 1, s => retireCycles (i + 1) n (retireCycle i s)

def countEnable (s : TimedCore) : TimedCore :=
  if s.imeEnablePending then
    if s.imeEnableDelay > 0 then { s with imeEnableDelay := s.imeEnableDelay - 1 }
    else { s with ime := true, imeEnablePending := false }
  else s

/-- After the last cycle: `DIV` is refreshed and the queued resets move closer. -/
def settle (cycles : ℕ) (h : Hardware) : Hardware :=
  { h with
    div := (h.dividerCounter >>> 8).setWidth 8
    dividerResetEvents :=
      h.dividerResetEvents.map fun event =>
        { event with cycleOffset := event.cycleOffset - min event.cycleOffset cycles } }

/-- The executed cycles are a machine word; their count is a 32-bit word. -/
def retireInstruction (executedCycles : ℕ) (s : TimedCore) : TimedCore :=
  let cycles := executedCycles % 2 ^ 32
  if cycles = 0 then s
  else
    let s := retireCycles 0 cycles s
    { s with hardware := settle cycles s.hardware }.countEnable

theorem retireCycles_hardware (i n : ℕ) (s : TimedCore) :
    (retireCycles i n s).hardware = Hardware.retireCycles i n s.hardware := by
  induction n generalizing i s with
  | zero => rfl
  | succ n ih =>
    rw [retireCycles, Hardware.retireCycles, ih]
    rfl

theorem countEnable_hardware (s : TimedCore) : s.countEnable.hardware = s.hardware := by
  unfold countEnable
  split
  · split <;> rfl
  · rfl

theorem retireInstruction_hardware (h : cycles < 2 ^ 32) (s : TimedCore) :
    (s.retireInstruction cycles).hardware = Hardware.retire cycles s.hardware := by
  unfold retireInstruction Hardware.retire
  rw [Nat.mod_eq_of_lt h]
  dsimp only
  split
  · rfl
  · rw [countEnable_hardware, retireCycles_hardware]
    rfl

theorem retireCycles_add (i a b : ℕ) (s : TimedCore) :
    retireCycles i (a + b) s = retireCycles (i + a) b (retireCycles i a s) := by
  induction a generalizing i s with
  | zero => simp [retireCycles]
  | succ a ih =>
    rw [show a + 1 + b = (a + b) + 1 by omega, retireCycles, retireCycles, ih,
      show i + 1 + a = i + (a + 1) by omega]

end TimedCore

namespace Hardware

/-- Another value of `DIV`, and every queued reset moved closer by `k` cycles. -/
def shifted (div : Byte) (k : ℕ) (h : Hardware) : Hardware :=
  { h with
    div := div
    dividerResetEvents :=
      h.dividerResetEvents.map fun event =>
        { event with cycleOffset := event.cycleOffset - min event.cycleOffset k } }

variable (div : Byte) (k : ℕ) (h : Hardware)

theorem dmaCycle_shifted : (h.shifted div k).dmaCycle = h.dmaCycle.shifted div k := by
  unfold dmaCycle shifted
  dsimp only
  split
  · split <;> rfl
  · rfl

theorem serialCycle_shifted : (h.shifted div k).serialCycle = h.serialCycle.shifted div k := by
  unfold serialCycle shifted
  dsimp only
  split
  · split <;> rfl
  · rfl

theorem timerEdge_shifted : (h.shifted div k).timerEdge = h.timerEdge.shifted div k := by
  unfold timerEdge shifted
  split <;> rfl

theorem timerCycle_shifted : (h.shifted div k).timerCycle = h.timerCycle.shifted div k := by
  unfold timerCycle
  dsimp only
  have hedge := timerEdge_shifted div k { h with dividerCounter := h.dividerCounter + 1 }
  split
  · rename_i hfalls
    rw [if_pos (by exact hfalls)]
    exact hedge
  · rename_i hstays
    rw [if_neg (by exact hstays)]
    rfl

theorem applyDividerReset_shifted (event : DividerResetEvent) :
    (h.shifted div k).applyDividerReset
        { event with cycleOffset := event.cycleOffset - min event.cycleOffset k } =
      (h.applyDividerReset event).shifted div k := by
  unfold applyDividerReset
  have hedge := timerEdge_shifted div k { h with dividerCounter := 0 }
  split
  · rename_i hhigh
    rw [if_pos (by exact hhigh)]
    exact hedge
  · rename_i hlow
    rw [if_neg (by exact hlow)]
    rfl

theorem dividerResetsThrough_shifted (j : ℕ) (events : List DividerResetEvent) :
    dividerResetsThrough j
        (events.map fun event =>
          { event with cycleOffset := event.cycleOffset - min event.cycleOffset k })
        (h.shifted div k) =
      (dividerResetsThrough (k + j) events h).shifted div k := by
  induction events generalizing h with
  | nil => rfl
  | cons event events ih =>
    have hdue : event.cycleOffset - min event.cycleOffset k ≤ j + 1 ↔
        event.cycleOffset ≤ k + j + 1 := by omega
    simp only [List.map_cons, dividerResetsThrough]
    by_cases hreached : event.cycleOffset ≤ k + j + 1
    · rw [if_pos hreached, if_pos (hdue.mpr hreached), applyDividerReset_shifted, ih]
    · rw [if_neg hreached, if_neg (mt hdue.mp hreached)]
      rfl

theorem lcdCycle_shifted : (h.shifted div k).lcdCycle = h.lcdCycle.shifted div k := by
  unfold lcdCycle
  have henabled : (h.shifted div k).lcdEnabled = h.lcdEnabled := rfl
  rw [henabled]
  split
  · have hstart : (h.shifted div k).lcdStart = h.lcdStart.shifted div k := by
      unfold lcdStart shifted
      split <;> rfl
    unfold lcdOnCycle
    rw [hstart]
    generalize h.lcdStart = started
    unfold shifted requestInterrupt
    dsimp only
    -- the coincidence flag decides the status, then the two requests
    split
    · split <;> split <;> rfl
    · split <;> split <;> rfl
  · rfl

theorem retireCycle_shifted (j : ℕ) :
    retireCycle j (h.shifted div k) = (retireCycle (k + j) h).shifted div k := by
  have hcounters : (h.shifted div k).dmaCycle.serialCycle.timerCycle =
      h.dmaCycle.serialCycle.timerCycle.shifted div k := by
    rw [dmaCycle_shifted, serialCycle_shifted, timerCycle_shifted]
  unfold retireCycle
  dsimp only
  rw [hcounters]
  generalize h.dmaCycle.serialCycle.timerCycle = counted
  have hresets : dividerResetsThrough j (counted.shifted div k).dividerResetEvents
      (counted.shifted div k) =
      (dividerResetsThrough (k + j) counted.dividerResetEvents counted).shifted div k :=
    dividerResetsThrough_shifted div k counted j counted.dividerResetEvents
  rw [hresets]
  exact lcdCycle_shifted div k (apuCycle _)

end Hardware

namespace TimedCore

/-- The refresh of `DIV` and the moved resets, alone. -/
def shifted (div : Byte) (k : ℕ) (s : TimedCore) : TimedCore :=
  { s with hardware := s.hardware.shifted div k }

theorem retireCycle_shifted (div : Byte) (k j : ℕ) (s : TimedCore) :
    retireCycle j (s.shifted div k) = (retireCycle (k + j) s).shifted div k := by
  have hhardware := Hardware.retireCycle_shifted div k s.hardware j
  unfold retireCycle shifted
  dsimp only
  rw [hhardware]
  rfl

theorem retireCycles_shifted (div : Byte) (k j n : ℕ) (s : TimedCore) :
    retireCycles j n (s.shifted div k) = (retireCycles (k + j) n s).shifted div k := by
  induction n generalizing j s with
  | zero => rfl
  | succ n ih =>
    simp only [retireCycles]
    rw [retireCycle_shifted, ih, Nat.add_assoc]

theorem shifted_shifted (div div' : Byte) (a b : ℕ) (s : TimedCore) :
    (s.shifted div a).shifted div' b = s.shifted div' (a + b) := by
  have hmoved (offset : ℕ) :
      offset - min offset a - min (offset - min offset a) b = offset - min offset (a + b) := by
    omega
  simp only [shifted, Hardware.shifted, List.map_map, Function.comp_def, hmoved]

/-- The value `DIV` shows after a charge. -/
def dividerHigh (s : TimedCore) : Byte := (s.hardware.dividerCounter >>> 8).setWidth 8

theorem dividerHigh_shifted (div : Byte) (k : ℕ) (s : TimedCore) :
    (s.shifted div k).dividerHigh = s.dividerHigh :=
  rfl

variable {s : TimedCore}

theorem countEnable_of_not_pending (h : s.imeEnablePending = false) : s.countEnable = s := by
  simp [countEnable, h]

theorem retireCycles_imeEnablePending (i n : ℕ) (s : TimedCore) :
    (retireCycles i n s).imeEnablePending = s.imeEnablePending := by
  induction n generalizing i s with
  | zero => rfl
  | succ n ih =>
    rw [retireCycles, ih]
    rfl

theorem retireInstruction_of_not_pending (hei : s.imeEnablePending = false)
    (hpos : cycles % 2 ^ 32 ≠ 0) :
    s.retireInstruction cycles =
      (retireCycles 0 (cycles % 2 ^ 32) s).shifted
        (retireCycles 0 (cycles % 2 ^ 32) s).dividerHigh (cycles % 2 ^ 32) := by
  unfold retireInstruction
  rw [if_neg hpos]
  apply countEnable_of_not_pending
  exact (retireCycles_imeEnablePending 0 _ s).trans hei

theorem retireInstruction_of_zero (s : TimedCore) (h : cycles % 2 ^ 32 = 0) :
    s.retireInstruction cycles = s := by
  unfold retireInstruction
  rw [h]
  rfl

theorem retireInstruction_congr (s : TimedCore) {a b : ℕ} (h : a % 2 ^ 32 = b % 2 ^ 32) :
    s.retireInstruction a = s.retireInstruction b := by
  unfold retireInstruction
  rw [h]

/-- A charge may be retired in two parts as long as the two 32-bit counts do not overflow. -/
theorem retireInstruction_add (s : TimedCore) (hei : s.imeEnablePending = false) (a b : ℕ)
    (h : a % 2 ^ 32 + b % 2 ^ 32 < 2 ^ 32) :
    (s.retireInstruction a).retireInstruction b = s.retireInstruction (a + b) := by
  have hsum : (a + b) % 2 ^ 32 = a % 2 ^ 32 + b % 2 ^ 32 := by omega
  by_cases ha : a % 2 ^ 32 = 0
  · rw [retireInstruction_of_zero s ha]
    exact retireInstruction_congr s (by omega)
  by_cases hb : b % 2 ^ 32 = 0
  · rw [retireInstruction_of_zero _ hb]
    exact retireInstruction_congr s (by omega)
  -- the second part starts from the settled state of the first
  have hcycles := retireCycles_add 0 (a % 2 ^ 32) (b % 2 ^ 32) s
  have hpending : (retireCycles 0 (a % 2 ^ 32) s).imeEnablePending = false :=
    (retireCycles_imeEnablePending 0 _ s).trans hei
  rw [retireInstruction_of_not_pending hei ha,
    retireInstruction_of_not_pending hei (show (a + b) % 2 ^ 32 ≠ 0 by omega), hsum, hcycles, Nat.zero_add]
  generalize retireCycles 0 (a % 2 ^ 32) s = first at hpending ⊢
  have hsettled : (first.shifted first.dividerHigh (a % 2 ^ 32)).imeEnablePending = false :=
    hpending
  rw [retireInstruction_of_not_pending hsettled hb, retireCycles_shifted, Nat.add_zero,
    dividerHigh_shifted, shifted_shifted]

/-- A silent core with the display switched off in the middle of a line. -/
def displayOff : TimedCore where
  hardware := { GameBoyMachine.powerOn.board.hardware with
    lcdc := 0
    ppuDotCounter := 80
    lcdEnabledLastTick := true }
  sound :=
    { pulse1 := { hasSweep := true }
      pulse2 := {}
      wave := {}
      noise := {}
      recentSamples := fun _ => 0
      recentWriteCursor := 0
      recentSampleCount := 0
      registers := fun _ => 0
      storage := fun _ => 0 }
  ime := false
  imeEnablePending := false
  imeEnableDelay := 0

theorem retireInstruction_add_displayOff :
    ((displayOff.retireInstruction 12).retireInstruction (2 ^ 32 + 8)) =
      displayOff.retireInstruction (12 + (2 ^ 32 + 8)) :=
  retireInstruction_add displayOff rfl 12 (2 ^ 32 + 8) (by decide)

theorem retireInstruction_ppuDotCounter_off (hoff : s.hardware.lcdEnabled = false)
    (hpos : 0 < cycles) (hlt : cycles < 2 ^ 32) :
    (s.retireInstruction cycles).hardware.ppuDotCounter = 0 ∧
      (s.retireInstruction cycles).hardware.lcdEnabled = false := by
  obtain ⟨n, rfl⟩ := Nat.exists_eq_succ_of_ne_zero hpos.ne'
  obtain ⟨htimer, hlcdc⟩ := Hardware.retireCycles_lcdTimer 0 (n + 1) s.hardware
  rw [hoff, LcdTimer.iterate_tick_off] at htimer
  rw [retireInstruction_hardware hlt]
  refine ⟨congrArg LcdTimer.dotCounter htimer, ?_⟩
  rw [← hoff]
  exact congrArg (fun lcdc : Byte => lcdc &&& 0x80#8 != 0) hlcdc

/-- Two halves of 2 ^ 32 cycles are retired; the whole is converted to no cycle. -/
theorem retireInstruction_not_add :
    ¬ ∀ s : TimedCore, s.imeEnablePending = false → ∀ a b : ℕ, 0 < a → 0 < b →
      (s.retireInstruction a).retireInstruction b = s.retireInstruction (a + b) := by
  intro hadd
  have hsame := hadd displayOff rfl (2 ^ 31) (2 ^ 31) (by decide) (by decide)
  obtain ⟨-, hoff⟩ := retireInstruction_ppuDotCounter_off (s := displayOff) (by decide)
    (show 0 < 2 ^ 31 by decide) (by decide)
  obtain ⟨hdot, -⟩ := retireInstruction_ppuDotCounter_off hoff (show 0 < 2 ^ 31 by decide)
    (by decide)
  rw [hsame, retireInstruction_of_zero displayOff (by decide)] at hdot
  exact absurd hdot (by decide)

end TimedCore

end ProtoTime.GameBoy
