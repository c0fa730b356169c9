import ProtoTime.Transition
import ProtoTime.GameBoy.RomStart

/-!
The two counters of the display position: the processor's hardware counts dots
of the frame and raises the interrupts, the pixel unit counts lines and dots of
the line. They are advanced by the same cycles, so they agree as long as no ROM
is inserted in the middle of a frame.
-/
namespace ProtoTime.GameBoy

open ThreadedBlockCache Core

/-- The frame counter and whether the display was on in the last cycle. -/
structure LcdTimer where
  dotCounter : ℕ
  enabledLastTick : Bool
  deriving DecidableEq

namespace LcdTimer

/-- One cycle with the display on or off. -/
def tick (enabled : Bool) (t : LcdTimer) : LcdTimer :=
  if enabled then
    ⟨((if t.enabledLastTick then t.dotCounter else 0) + 1) % 2 ^ 32 % kDotsPerFrame, true⟩
  else ⟨0, false⟩

structure Positioned (t : LcdTimer) : Prop where
  dot_lt : t.dotCounter < kDotsPerFrame
  idle : t.enabledLastTick = false → t.dotCounter = 0

theorem iterate_tick_on {t : LcdTimer} (h : t.Positioned) (n : ℕ) :
    (tick true)^[n + 1] t = ⟨(t.dotCounter + (n + 1)) % kDotsPerFrame, true⟩ := by
  have hdots : kDotsPerFrame = 70224 := rfl
  have hlt := h.dot_lt
  induction n with
  | zero =>
    rw [Function.iterate_one, tick, if_pos rfl, hdots]
    cases hlast : t.enabledLastTick with
    | true =>
      rw [if_pos rfl]
      congr 1
      omega
    | false =>
      rw [h.idle hlast]
      rfl
  | succ n ih =>
    rw [Function.iterate_succ_apply', ih, tick, if_pos rfl, hdots]
    dsimp only
    rw [if_pos rfl]
    congr 1
    omega

theorem iterate_tick_off (t : LcdTimer) (n : ℕ) : (tick false)^[n + 1] t = ⟨0, false⟩ := by
  rw [Function.iterate_succ_apply']
  rfl

end LcdTimer

namespace Hardware

def lcdTimer (h : Hardware) : LcdTimer := ⟨h.ppuDotCounter, h.lcdEnabledLastTick⟩

/-- The display position and the display control are the same. -/
structure LcdKept (h h' : Hardware) : Prop where
  timer : h'.lcdTimer = h.lcdTimer
  lcdc : h'.lcdc = h.lcdc

variable (h : Hardware)

namespace LcdKept

theorem refl : LcdKept h h := ⟨rfl, rfl⟩

theorem trans {h h' h'' : Hardware} (hk : LcdKept h h') (hk' : LcdKept h' h'') : LcdKept h h'' :=
  ⟨hk'.timer.trans hk.timer, hk'.lcdc.trans hk.lcdc⟩

theorem timerEdge : LcdKept h h.timerEdge := by
  unfold Hardware.timerEdge
  split <;> exact ⟨rfl, rfl⟩

theorem dmaCycle : LcdKept h h.dmaCycle := by
  unfold Hardware.dmaCycle
  dsimp only
  split_ifs <;> exact ⟨rfl, rfl⟩

theorem serialCycle : LcdKept h h.serialCycle := by
  unfold Hardware.serialCycle
  dsimp only
  split_ifs <;> exact ⟨rfl, rfl⟩

theorem timerCycle : LcdKept h h.timerCycle := by
  have hcounter : LcdKept h { h with dividerCounter := h.dividerCounter + 1 } := ⟨rfl, rfl⟩
  unfold Hardware.timerCycle
  dsimp only
  split
  · exact hcounter.trans (timerEdge _)
  · exact hcounter

theorem applyDividerReset (event : DividerResetEvent) :
    LcdKept h (h.applyDividerReset event) := by
  have hcounter : LcdKept h { h with dividerCounter := 0 } := ⟨rfl, rfl⟩
  unfold Hardware.applyDividerReset
  split
  · exact hcounter.trans (timerEdge _)
  · exact hcounter

theorem dividerResetsThrough (i : ℕ) (events : List DividerResetEvent) (h : Hardware) :
    LcdKept h (Hardware.dividerResetsThrough i events h) := by
  induction events generalizing h with
  | nil => exact ⟨rfl, rfl⟩
  | cons event events ih =>
    unfold Hardware.dividerResetsThrough
    split
    · exact (applyDividerReset h event).trans (ih _)
    · exact ⟨rfl, rfl⟩

theorem resetDivider : LcdKept h h.resetDivider := by
  unfold Hardware.resetDivider
  split
  · exact ⟨rfl, rfl⟩
  · have hreset := applyDividerReset h ⟨0, h.tac⟩
    exact ⟨hreset.timer, hreset.lcdc⟩

theorem setJoypadState (pressedMask : Byte) :
    LcdKept h (h.setJoypadState pressedMask) := by
  unfold Hardware.setJoypadState joypadLinesChanged
  split <;> exact ⟨rfl, rfl⟩

end LcdKept

theorem syncCachedIoRegisterWrite_lcdTimer (address : Addr) (value : Byte) (h : Hardware) :
    (h.syncCachedIoRegisterWrite address value).lcdTimer = h.lcdTimer := by
  unfold syncCachedIoRegisterWrite
  split <;> rfl

theorem LcdKept.requestInterruptIf (p : Prop) [Decidable p] (mask : Byte) :
    LcdKept h (if p then h.requestInterrupt mask else h) := by
  split <;> exact ⟨rfl, rfl⟩

theorem lcdStart_lcdTimer :
    h.lcdStart.ppuDotCounter = (if h.lcdEnabledLastTick then h.ppuDotCounter else 0) ∧
      h.lcdStart.lcdEnabledLastTick = true ∧ h.lcdStart.lcdc = h.lcdc := by
  unfold lcdStart
  split
  · rename_i hlast
    exact ⟨rfl, hlast, rfl⟩
  · exact ⟨rfl, rfl, rfl⟩

theorem lcdOnCycle_lcdTimer :
    h.lcdOnCycle.lcdTimer = h.lcdTimer.tick true ∧ h.lcdOnCycle.lcdc = h.lcdc := by
  obtain ⟨hdot, hlast, hlcdc⟩ := h.lcdStart_lcdTimer
  have htick : h.lcdTimer.tick true =
      ⟨(h.lcdStart.ppuDotCounter + 1) % 2 ^ 32 % kDotsPerFrame, h.lcdStart.lcdEnabledLastTick⟩ := by
    rw [LcdTimer.tick, if_pos rfl, hdot, hlast]
    rfl
  rw [htick]
  unfold lcdOnCycle
  dsimp only
  generalize h.lcdStart = g at hlcdc ⊢
  have hkept (g' : Hardware) (p q : Prop) [Decidable p] [Decidable q] :
      LcdKept g' (if q then
        (if p then g'.requestInterrupt kInterruptLcdStat else g').requestInterrupt kInterruptVBlank
      else if p then g'.requestInterrupt kInterruptLcdStat else g') :=
    (LcdKept.requestInterruptIf g' p kInterruptLcdStat).trans
      (LcdKept.requestInterruptIf _ q kInterruptVBlank)
  refine ⟨(hkept _ _ _).timer, (hkept _ _ _).lcdc.trans hlcdc⟩

theorem lcdCycle_lcdTimer :
    h.lcdCycle.lcdTimer = h.lcdTimer.tick h.lcdEnabled ∧ h.lcdCycle.lcdc = h.lcdc := by
  unfold lcdCycle
  cases h.lcdEnabled with
  | false => exact ⟨rfl, rfl⟩
  | true => exact h.lcdOnCycle_lcdTimer

theorem retireCycle_lcdTimer (i : ℕ) (h : Hardware) :
    (retireCycle i h).lcdTimer = h.lcdTimer.tick h.lcdEnabled ∧ (retireCycle i h).lcdc = h.lcdc := by
  have hkept : LcdKept h (dividerResetsThrough i h.dmaCycle.serialCycle.timerCycle.dividerResetEvents
      h.dmaCycle.serialCycle.timerCycle).apuCycle := by
    have hresets := LcdKept.dividerResetsThrough i
      h.dmaCycle.serialCycle.timerCycle.dividerResetEvents h.dmaCycle.serialCycle.timerCycle
    have hcycles := ((LcdKept.dmaCycle h).trans (.serialCycle _)).trans (.timerCycle _)
    exact (hcycles.trans hresets).trans ⟨rfl, rfl⟩
  obtain ⟨htimer, hlcdc⟩ := lcdCycle_lcdTimer (dividerResetsThrough i
    h.dmaCycle.serialCycle.timerCycle.dividerResetEvents
    h.dmaCycle.serialCycle.timerCycle).apuCycle
  have henabled : (dividerResetsThrough i h.dmaCycle.serialCycle.timerCycle.dividerResetEvents
      h.dmaCycle.serialCycle.timerCycle).apuCycle.lcdEnabled = h.lcdEnabled := by
    unfold lcdEnabled
    rw [hkept.lcdc]
  rw [henabled, hkept.timer] at htimer
  exact ⟨htimer, hlcdc.trans hkept.lcdc⟩

theorem retireCycles_lcdTimer (i n : ℕ) (h : Hardware) :
    (retireCycles i n h).lcdTimer = (LcdTimer.tick h.lcdEnabled)^[n] h.lcdTimer ∧
      (retireCycles i n h).lcdc = h.lcdc := by
  induction n generalizing i h with
  | zero => exact ⟨rfl, rfl⟩
  | succ n ih =>
    obtain ⟨htimer, hlcdc⟩ := retireCycle_lcdTimer i h
    obtain ⟨hrest, hrestLcdc⟩ := ih (i + 1) (retireCycle i h)
    have henabled : (retireCycle i h).lcdEnabled = h.lcdEnabled := by
      unfold lcdEnabled
      rw [hlcdc]
    rw [henabled, htimer] at hrest
    exact ⟨hrest, hrestLcdc.trans hlcdc⟩

theorem retire_lcdTimer {h : Hardware} (hpos : h.lcdTimer.Positioned) {cycles : ℕ}
    (hcycles : 0 < cycles) :
    (h.retire cycles).lcdTimer = (if h.lcdEnabled then
      ⟨(h.ppuDotCounter + cycles) % kDotsPerFrame, true⟩ else ⟨0, false⟩) ∧
      (h.retire cycles).lcdc = h.lcdc := by
  obtain ⟨n, rfl⟩ := Nat.exists_eq_succ_of_ne_zero hcycles.ne'
  obtain ⟨htimer, hlcdc⟩ := retireCycles_lcdTimer 0 (n + 1) h
  refine ⟨?_, hlcdc⟩
  refine Eq.trans (b := (retireCycles 0 (n + 1) h).lcdTimer) rfl ?_
  rw [htimer]
  cases h.lcdEnabled with
  | true =>
    rw [if_pos rfl, LcdTimer.iterate_tick_on hpos]
    rfl
  | false =>
    rw [LcdTimer.iterate_tick_off]
    rfl

end Hardware

namespace GameBoyPPU

/-- The dots since the start of the frame. -/
def position (p : GameBoyPPU) : ℕ := 456 * p.ly.toNat + p.dotCounter

structure InFrame (p : GameBoyPPU) : Prop where
  ly_lt : p.ly.toNat < 154
  dot_lt : p.dotCounter < 456

variable (p : GameBoyPPU)

theorem captureIfDue_position : p.captureIfDue.ly = p.ly ∧
    p.captureIfDue.dotCounter = p.dotCounter := by
  unfold captureIfDue
  split <;> exact ⟨rfl, rfl⟩

theorem updateMode_position : p.updateMode.ly = p.ly ∧ p.updateMode.dotCounter = p.dotCounter := by
  unfold updateMode
  split <;> exact ⟨rfl, rfl⟩

theorem advanceLine_position (hly : p.ly.toNat < 154) :
    p.advanceLine.ly.toNat = (p.ly.toNat + 1) % 154 ∧
      p.advanceLine.dotCounter = p.dotCounter - 456 := by
  have hnext : (p.ly + 1).toNat = p.ly.toNat + 1 := by
    rw [BitVec.toNat_add]
    exact Nat.mod_eq_of_lt (by simp; omega)
  have hge : p.ly + 1 ≥ 154#8 ↔ 154 ≤ p.ly.toNat + 1 := by
    rw [← hnext]
    exact Iff.rfl
  unfold advanceLine
  dsimp only
  by_cases hlast : p.ly + 1 ≥ 154#8
  · have hwrap : p.ly.toNat + 1 = 154 := by
      have := hge.mp hlast
      omega
    rw [hwrap]
    split_ifs <;> exact ⟨rfl, rfl⟩
  · have hlt : p.ly.toNat + 1 < 154 := by
      by_contra hle
      exact hlast (hge.mpr (by omega))
    rw [Nat.mod_eq_of_lt hlt, ← hnext]
    split_ifs <;> exact ⟨rfl, rfl⟩

theorem completeLine_position (hly : p.ly.toNat < 154) :
    p.completeLine.ly.toNat = (p.ly.toNat + 1) % 154 ∧
      p.completeLine.dotCounter = p.dotCounter - 456 := by
  obtain ⟨hsame, hdot⟩ := p.captureIfDue_position
  have hadvance := p.captureIfDue.advanceLine_position (by rw [hsame]; exact hly)
  rw [hsame, hdot] at hadvance
  exact hadvance

theorem iterate_completeLine_position (hly : p.ly.toNat < 154) (n : ℕ) :
    (completeLine^[n] p).ly.toNat = (p.ly.toNat + n) % 154 ∧
      (completeLine^[n] p).dotCounter = p.dotCounter - 456 * n := by
  induction n with
  | zero => exact ⟨(Nat.mod_eq_of_lt hly).symm, rfl⟩
  | succ n ih =>
    obtain ⟨hline, hdot⟩ := ih
    rw [Function.iterate_succ_apply']
    have hlt : (completeLine^[n] p).ly.toNat < 154 := by omega
    obtain ⟨hnext, hnextDot⟩ := completeLine_position _ hlt
    rw [hnext, hnextDot, hline, hdot]
    constructor <;> omega

/-- The unit moves by the cycles around the frame. -/
theorem stepEnabled_position {p : GameBoyPPU} (h : p.InFrame) (cycles : ℕ) :
    (p.stepEnabled cycles).InFrame ∧
      (p.stepEnabled cycles).position = (p.position + cycles) % kDotsPerFrame := by
  have hdots : kDotsPerFrame = 70224 := rfl
  obtain ⟨hline, hdot⟩ := iterate_completeLine_position
    { p with lcdEnabledLastStep := true, dotCounter := p.dotCounter + cycles } h.ly_lt
    ((p.dotCounter + cycles) / 456)
  dsimp only at hline hdot
  have hfinal : (p.stepEnabled cycles).ly = (completeLine^[(p.dotCounter + cycles) / 456]
      { p with lcdEnabledLastStep := true, dotCounter := p.dotCounter + cycles }).ly ∧
      (p.stepEnabled cycles).dotCounter = (completeLine^[(p.dotCounter + cycles) / 456]
        { p with lcdEnabledLastStep := true, dotCounter := p.dotCounter + cycles }).dotCounter := by
    unfold stepEnabled kCyclesPerScanline
    dsimp only
    generalize completeLine^[(p.dotCounter + cycles) / 456] _ = q
    obtain ⟨hmode, hmodeDot⟩ := q.captureIfDue.updateMode_position
    obtain ⟨hcapture, hcaptureDot⟩ := q.captureIfDue_position
    exact ⟨hmode.trans hcapture, hmodeDot.trans hcaptureDot⟩
  have hly : (p.stepEnabled cycles).ly.toNat =
      (p.ly.toNat + (p.dotCounter + cycles) / 456) % 154 := by
    rw [hfinal.1, hline]
  have hdot' : (p.stepEnabled cycles).dotCounter = (p.dotCounter + cycles) % 456 := by
    omega
  constructor
  · constructor
    · omega
    · omega
  · unfold position
    rw [hly, hdot', hdots]
    omega

end GameBoyPPU

namespace GameBoyMachine

open Board Hardware

variable {m m' : GameBoyMachine}

/-- The processor's frame counter is where the pixel unit is. -/
def TimersAgree (m : GameBoyMachine) : Prop :=
  m.board.hardware.ppuDotCounter = 456 * m.ppu.ly.toNat + m.ppu.dotCounter

/-- Both counters are in step and inside a frame, and a display that was off is at its start. -/
structure InStep (m : GameBoyMachine) : Prop where
  synced : m.RegistersSynced
  noBlocks : m.NoBlocksBeforeRom
  frame : m.ppu.InFrame
  agree : m.TimersAgree
  idle : m.board.hardware.lcdEnabledLastTick = false → m.board.hardware.ppuDotCounter = 0

theorem InStep.positioned (h : m.InStep) : m.board.hardware.lcdTimer.Positioned where
  dot_lt := by
    have hly := h.frame.ly_lt
    have hdot := h.frame.dot_lt
    have hdots : kDotsPerFrame = 70224 := rfl
    have hagree : m.board.hardware.ppuDotCounter = _ := h.agree
    change m.board.hardware.ppuDotCounter < _
    omega
  idle := h.idle

/-- The display position of a board. -/
def ShowsTimer (t : LcdTimer) (b : Board) : Prop := b.hardware.lcdTimer = t

theorem showsTimer_tended (t : LcdTimer) : Tended (ShowsTimer t) where
  write b address value h :=
    (write_through syncCachedIoRegisterWrite_lcdTimer b address value).trans h
  rawRegister _ _ _ _ h := h
  registerUpdate b f hf h := by
    cases hf with
    | register address value => exact (syncCachedIoRegisterWrite_lcdTimer address value _).trans h
    | interruptFlags flags => exact h
    | joypad pressedMask => exact (LcdKept.setJoypadState b.hardware pressedMask).timer.trans h
  outside _ _ _ _ h := h
  bracket _ _ _ h := h
  debugCommitByte b address value h := by
    unfold ShowsTimer Board.debugCommitByte
    rw [invalidateBlockCacheForWrite_hardware]
    exact h
  blockCache _ _ _ _ h := h

theorem startRom_lcdTimer (b : Board) : b.startRom.hardware.lcdTimer = b.hardware.lcdTimer := by
  rw [startRom_through syncCachedIoRegisterWrite_lcdTimer (fun _ _ => rfl),
    (LcdKept.setJoypadState _ _).timer, (LcdKept.resetDivider _).timer,
    (LcdKept.setJoypadState _ _).timer, (LcdKept.resetDivider _).timer]

theorem lcdc_synced : (0xFF40#16, Hardware.lcdc) ∈ syncedRegisters := by
  simp [syncedRegisters]

/-- A retired step moves both counters by its cycles. -/
theorem retireStep_inStep (h : m.InStep) {exit : Option ExecutionSliceExitReason}
    (hs : m.retireStep = .ok (m', exit)) :
    m'.ppu.InFrame ∧ m'.TimersAgree ∧
      (m'.board.hardware.lcdEnabledLastTick = false → m'.board.hardware.ppuDotCounter = 0) := by
  obtain ⟨hl, hsynced⟩ := h.synced
  have hloaded := hsynced (retireStep_romLoaded h.noBlocks hs) _ lcdc_synced
  obtain ⟨cpu, hret, heq⟩ := retireStep_retired hl hs
  have hafter : Synced (0xFF40#16, Hardware.lcdc) cpu.core.bus :=
    retired_tended (synced_tended lcdc_synced) (synced_ignoresCache _)
      (fun _ _ hb => hb.writeCached lcdc_synced _) hret hloaded
  obtain ⟨cache, b, cache', hb, hbus⟩ := hret.effect
  have hcycles := hret.positive
  set cycles := cpu.core.feedback.retiredCycles with hdef
  have hshows : ShowsTimer m.board.hardware.lcdTimer b :=
    hb.accessed.invariant (showsTimer_tended m.board.hardware.lcdTimer).kept rfl
  have htimer : b.hardware.lcdTimer = m.board.hardware.lcdTimer := hshows
  have hpositioned := h.positioned
  rw [← htimer] at hpositioned
  obtain ⟨hretired, hlcdc⟩ := retire_lcdTimer hpositioned hcycles
  have hhardware : cpu.core.bus.hardware = b.hardware.retire cycles := by
    rw [hbus]
    rfl
  have hpeek : (m.withCpu cpu).board.peek 0xFF40#16 = b.hardware.lcdc := by
    have hcell : cpu.core.bus.memoryMap.cells 0xFF40#16 = cpu.core.bus.hardware.lcdc := hafter.cell
    rw [hhardware, hlcdc] at hcell
    exact (GameBoyMemoryMap.peek_of_high _ hafter.short (by decide)).trans hcell
  have hppu : m'.ppu.ly = (m.ppu.step b.hardware.lcdc cycles).ly ∧
      m'.ppu.dotCounter = (m.ppu.step b.hardware.lcdc cycles).dotCounter := by
    rw [onInstructionRetired, Prod.mk.injEq] at heq
    rw [heq.1, ← hpeek]
    exact ⟨rfl, rfl⟩
  have hboard : m'.board.hardware.lcdTimer = (b.hardware.retire cycles).lcdTimer := by
    rw [onInstructionRetired, Prod.mk.injEq] at heq
    rw [heq.1, ← hhardware]
    rfl
  have hstart : b.hardware.ppuDotCounter = m.ppu.position :=
    (congrArg LcdTimer.dotCounter htimer).trans h.agree
  rw [hretired] at hboard
  have hcounter := congrArg LcdTimer.dotCounter hboard
  have hlast := congrArg LcdTimer.enabledLastTick hboard
  change m'.board.hardware.ppuDotCounter = _ at hcounter
  change m'.board.hardware.lcdEnabledLastTick = _ at hlast
  unfold TimersAgree
  rw [hppu.1, hppu.2]
  unfold GameBoyPPU.step
  cases henabled : b.hardware.lcdEnabled with
  | true =>
    have hon : ¬ b.hardware.lcdc &&& 0x80#8 = 0 := by
      simpa [lcdEnabled] using henabled
    obtain ⟨hframe, hposition⟩ := GameBoyPPU.stepEnabled_position h.frame cycles
    rw [henabled, if_pos rfl] at hcounter hlast
    rw [if_neg hon]
    refine ⟨⟨?_, ?_⟩, ?_, ?_⟩
    · rw [hppu.1, GameBoyPPU.step, if_neg hon]
      exact hframe.ly_lt
    · rw [hppu.2, GameBoyPPU.step, if_neg hon]
      exact hframe.dot_lt
    · rw [hcounter, hstart]
      exact hposition.symm
    · intro hoff
      rw [hlast] at hoff
      cases hoff
  | false =>
    have hoff : b.hardware.lcdc &&& 0x80#8 = 0 := by
      simpa [lcdEnabled] using henabled
    rw [henabled, if_neg (by decide)] at hcounter
    rw [if_pos hoff]
    refine ⟨⟨?_, ?_⟩, hcounter, fun _ => hcounter⟩
    · rw [hppu.1, GameBoyPPU.step, if_pos hoff]
      exact Nat.zero_lt_succ 153
    · rw [hppu.2, GameBoyPPU.step, if_pos hoff]
      exact Nat.zero_lt_succ 455

/-- The actions of a running program and its host, checkpoints apart. -/
def Action.IsPlain : Action → Prop
  | .loadState _ => False
  | _ => True

def InsertsAtFrameStart (m : GameBoyMachine) : Action → Prop
  | .loadRom _ _ => m.board.hardware.ppuDotCounter = 0
  | _ => True

theorem loadRom_ppu {bytes : List Byte} {save : Option CartridgeSaveData}
    (h : m.loadRom bytes save = .ok m') : m'.ppu = .reset := by
  unfold loadRom at h
  split_ifs at h
  split at h <;> cases h
  rfl

theorem perform_ppu {a : Action} (hplain : a.IsPlain) (hload : ∀ bytes save, a ≠ .loadRom bytes save)
    (hretire : a ≠ .retireStep) (h : m.perform a = .ok m') : m'.ppu = m.ppu := by
  cases a with
  | loadRom bytes save => exact absurd rfl (hload bytes save)
  | loadState file => exact absurd hplain id
  | retireStep => exact absurd rfl hretire
  | loadExternalBootRom bytes =>
    simp only [perform, loadExternalBootRom] at h
    split at h <;> cases h
    rfl
  | _ =>
    cases h
    rfl

/-- Every plain action keeps the counters in step, given that ROMs are inserted at a frame's
start. -/
theorem act_inStep {a : Action} (hplain : a.IsPlain) (hguard : InsertsAtFrameStart m a)
    (h : m.InStep) : (m.act a).InStep := by
  have hsynced := act_registersSynced h.synced a
  have hnoBlocks := act_noBlocksBeforeRom h.synced.1 h.noBlocks a
  rcases m.act_cases a with hsame | hok
  · rw [hsame]
    exact h
  by_cases hretire : a = .retireStep
  · subst hretire
    simp only [perform] at hok
    cases hs : m.retireStep with
    | error message => simp [hs, Except.map] at hok
    | ok result =>
      simp only [hs, Except.map, Except.ok.injEq] at hok
      obtain ⟨m', exit⟩ := result
      obtain ⟨hframe, hagree, hidle⟩ := retireStep_inStep h hs
      dsimp only at hok
      rw [hok] at hframe hagree hidle
      exact ⟨hsynced, hnoBlocks, hframe, hagree, hidle⟩
  by_cases hload : ∃ bytes save, a = .loadRom bytes save
  · obtain ⟨bytes, save, rfl⟩ := hload
    obtain ⟨-, cartridge, hboard⟩ := loadRom_eq_ok hok
    have htimer : (m.act (.loadRom bytes save)).board.hardware.lcdTimer =
        m.board.hardware.lcdTimer := by
      rw [hboard]
      exact startRom_lcdTimer _
    have hcounter : (m.act (.loadRom bytes save)).board.hardware.ppuDotCounter = 0 :=
      (congrArg LcdTimer.dotCounter htimer).trans hguard
    have hppu : (m.act (.loadRom bytes save)).ppu = .reset := loadRom_ppu hok
    refine ⟨hsynced, hnoBlocks, ?_, ?_, fun _ => hcounter⟩
    · rw [hppu]
      exact ⟨Nat.zero_lt_succ 153, Nat.zero_lt_succ 455⟩
    · unfold TimersAgree
      rw [hppu, hcounter]
      rfl
  · have hppu : (m.act a).ppu = m.ppu :=
      perform_ppu hplain (fun bytes save heq => hload ⟨bytes, save, heq⟩) hretire hok
    have hshows : ShowsTimer m.board.hardware.lcdTimer (m.act a).board := by
      refine perform_hosted (showsTimer_tended _).toHosted rfl a ?_ ?_ (fun _ => rfl) ?_ hok
      · exact fun _ _ heq _ => absurd heq hretire
      · exact fun bytes save _ heq _ => absurd ⟨bytes, save, heq⟩ hload
      · intro file m' heq _
        subst heq
        exact absurd hplain id
    have htimer : (m.act a).board.hardware.lcdTimer = m.board.hardware.lcdTimer := hshows
    have hcounter : (m.act a).board.hardware.ppuDotCounter = m.board.hardware.ppuDotCounter :=
      congrArg LcdTimer.dotCounter htimer
    have hlast : (m.act a).board.hardware.lcdEnabledLastTick =
        m.board.hardware.lcdEnabledLastTick := congrArg LcdTimer.enabledLastTick htimer
    refine ⟨hsynced, hnoBlocks, ?_, ?_, ?_⟩
    · rw [hppu]
      exact h.frame
    · unfold TimersAgree
      rw [hcounter, hppu]
      exact h.agree
    · rw [hlast, hcounter]
      exact h.idle

theorem powerOn_inStep : powerOn.InStep :=
  ⟨powerOn_registersSynced, fun _ _ he => absurd he List.not_mem_nil,
    ⟨Nat.zero_lt_succ 153, Nat.zero_lt_succ 455⟩, rfl, fun _ => rfl⟩

/-- The display was on at the last retirement and still is. -/
def LcdOnSinceRetirement (m : GameBoyMachine) : Prop :=
  m.board.hardware.lcdEnabled = true ∧ m.board.hardware.lcdEnabledLastTick = true ∧
    m.ppu.lcdEnabledLastStep = true

instance (m : GameBoyMachine) : Decidable m.LcdOnSinceRetirement :=
  inferInstanceAs (Decidable (_ ∧ _))

instance (m : GameBoyMachine) : Decidable m.TimersAgree := inferInstanceAs (Decidable (_ = _))

/-- In a run that inserts ROMs at the start of a frame only, the counters agree in every state. -/
theorem timersAgree_of_insertsAtFrameStart (actions : List Action)
    (hplain : ∀ a ∈ actions, a.IsPlain)
    (h : Transition.Guarded act InsertsAtFrameStart powerOn actions) :
    (Transition.run act powerOn actions).TimersAgree := by
  have hrun : ∀ (m : GameBoyMachine) (actions : List Action), m.InStep →
      (∀ a ∈ actions, a.IsPlain) → Transition.Guarded act InsertsAtFrameStart m actions →
      (Transition.run act m actions).InStep := by
    intro m actions
    induction actions generalizing m with
    | nil => exact fun hm _ _ => hm
    | cons a actions ih =>
      intro hm hplain hg
      have hact := act_inStep (hplain a List.mem_cons_self) hg.1 hm
      exact ih (m.act a) hact (fun b hb => hplain b (List.mem_cons_of_mem _ hb)) hg.2
  exact (hrun powerOn actions powerOn_inStep hplain h).agree

theorem timersAgree_of_insertsAtFrameStart_step :
    (Transition.run act powerOn [.loadRom [0x00#8] none, .retireStep]).TimersAgree :=
  timersAgree_of_insertsAtFrameStart [.loadRom [0x00#8] none, .retireStep]
    (by
      intro a ha
      rcases List.mem_cons.mp ha with rfl | ha
      · exact trivial
      · rw [List.mem_singleton.mp ha]
        exact trivial)
    ⟨rfl, trivial, trivial⟩

/-- A second ROM starts with the frame counter of the first: after one more instruction the
hardware counts dot 32 and the pixel unit dot 16. -/
theorem reinserted_rom_not_timersAgree : ¬ ∀ actions : List Action, (∀ a ∈ actions, a.IsPlain) →
    (Transition.run act powerOn actions).LcdOnSinceRetirement →
    (Transition.run act powerOn actions).TimersAgree := by
  intro h
  have hrun := h [.loadRom [0x00#8] none, .retireStep, .loadRom [0x00#8] none, .retireStep]
    (by simp [Action.IsPlain])
  have hoff : ¬ ((Transition.run act powerOn
      [.loadRom [0x00#8] none, .retireStep, .loadRom [0x00#8] none,
        .retireStep]).LcdOnSinceRetirement →
      (Transition.run act powerOn
        [.loadRom [0x00#8] none, .retireStep, .loadRom [0x00#8] none, .retireStep]).TimersAgree) := by
    decide +kernel
  exact hoff hrun

end GameBoyMachine

end ProtoTime.GameBoy
