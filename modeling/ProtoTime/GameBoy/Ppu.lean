import ProtoTime.GameBoy.MemoryMap

/-!
The pixel unit's timing: the line counter that the guest reads, the mode, the
line and frame events and which lines of the frame were captured. The captured
pixels drive no counter and no register and are left out.
-/
namespace ProtoTime.GameBoy

def kModeHBlank : Byte := 0

def kModeVBlank : Byte := 1

def kModeSpriteSearch : Byte := 2

def kModeDMATransfer : Byte := 3

def kTotalScanlines : ℕ := 154

def kCyclesPerScanline : ℕ := 456

def kScanlineCaptureCycle : ℕ := 80

/-- The answer of a unit that will not change again. -/
def kNoEvent : ℕ := 0xFFFFFFFF

structure GameBoyPPU where
  dotCounter : ℕ
  ly : Byte
  ppuMode : Byte
  scanlineReadyPending : Bool
  vblankPending : Bool
  lastReadyScanline : Byte
  capturedScanlines : ℕ → Bool
  hasCapturedScanlines : Bool
  lcdEnabledLastStep : Bool
  lastLy : Byte

namespace GameBoyPPU

def reset : GameBoyPPU :=
  { dotCounter := 0
    ly := 0
    ppuMode := kModeDMATransfer
    scanlineReadyPending := false
    vblankPending := false
    lastReadyScanline := 0
    capturedScanlines := fun _ => false
    hasCapturedScanlines := false
    lcdEnabledLastStep := false
    lastLy := 0 }

variable (p : GameBoyPPU)

def captureScanline (line : ℕ) : GameBoyPPU :=
  { p with
    capturedScanlines := Function.update p.capturedScanlines line true
    hasCapturedScanlines := true }

/-- A visible line is captured once, at the end of its sprite search. -/
def captureIfDue : GameBoyPPU :=
  if p.ly < 144#8 ∧ ¬ p.capturedScanlines p.ly.toNat ∧ p.dotCounter ≥ kScanlineCaptureCycle then
    p.captureScanline p.ly.toNat
  else p

/-- The line events and the step to the next line. -/
def advanceLine : GameBoyPPU :=
  let p := { p with dotCounter := p.dotCounter - kCyclesPerScanline }
  let p := if p.ly < 144#8 then
      { p with scanlineReadyPending := true, lastReadyScanline := p.ly } else p
  let p := if p.ly = 143#8 then { p with vblankPending := true } else p
  let ly := p.ly + 1
  let p := if ly ≥ 154#8 then
      { p with
        ly := 0
        ppuMode := kModeDMATransfer
        capturedScanlines := fun _ => false
        hasCapturedScanlines := false }
    else if ly < 144#8 then { p with ly := ly, ppuMode := kModeDMATransfer }
    else { p with ly := ly, ppuMode := kModeVBlank }
  { p with lastLy := p.ly }

/-- One round of the line loop when a whole line has passed. -/
def completeLine : GameBoyPPU := p.captureIfDue.advanceLine

/-- The mode inside a visible line. -/
def updateMode : GameBoyPPU :=
  if p.ly < 144#8 ∧ p.dotCounter < kCyclesPerScanline then
    { p with
      ppuMode :=
        if p.dotCounter < 80 then kModeSpriteSearch
        else if p.dotCounter < 252 then kModeDMATransfer
        else kModeHBlank }
  else p

def stepDisabled : GameBoyPPU :=
  { p with
    dotCounter := 0
    ly := 0
    ppuMode := kModeHBlank
    scanlineReadyPending := false
    vblankPending := false
    lastReadyScanline := 0
    capturedScanlines := if p.lcdEnabledLastStep then fun _ => false else p.capturedScanlines
    hasCapturedScanlines := if p.lcdEnabledLastStep then false else p.hasCapturedScanlines
    lcdEnabledLastStep := false
    lastLy := 0 }

def stepEnabled (cpuCycles : ℕ) (p : GameBoyPPU) : GameBoyPPU :=
  let p := { p with lcdEnabledLastStep := true, dotCounter := p.dotCounter + cpuCycles }
  (completeLine^[p.dotCounter / kCyclesPerScanline] p).captureIfDue.updateMode

/-- `lcdc` is the register as the memory map shows it. -/
def step (lcdc : Byte) (cpuCycles : ℕ) (p : GameBoyPPU) : GameBoyPPU :=
  if lcdc &&& 0x80#8 = 0 then p.stepDisabled else p.stepEnabled cpuCycles

def cyclesUntilNextEvent (lcdc : Byte) (p : GameBoyPPU) : ℕ :=
  if p.scanlineReadyPending ∨ p.vblankPending ∨ p.dotCounter ≥ kCyclesPerScanline then 0
  else if lcdc &&& 0x80#8 = 0 then
    if p.lcdEnabledLastStep ∨ p.dotCounter ≠ 0 ∨ p.ly ≠ 0 ∨ p.ppuMode ≠ 0 ∨
        p.lastReadyScanline ≠ 0 ∨ p.hasCapturedScanlines then 1 else kNoEvent
  else if ¬ p.lcdEnabledLastStep then 1
  else if p.ly < 144#8 ∧ p.dotCounter ≥ kScanlineCaptureCycle ∧
      ¬ p.capturedScanlines p.ly.toNat then 1
  else if p.ly < 144#8 ∧ p.dotCounter < 80 then 80 - p.dotCounter
  else if p.ly < 144#8 ∧ p.dotCounter < 252 then 252 - p.dotCounter
  else kCyclesPerScanline - p.dotCounter

def takeScanlineReady : GameBoyPPU × Bool :=
  ({ p with scanlineReadyPending := false }, p.scanlineReadyPending)

def takeVBlankEntered : GameBoyPPU × Bool :=
  ({ p with vblankPending := false }, p.vblankPending)

def exportState : List Byte :=
  u32Bytes (BitVec.ofNat 32 p.dotCounter) ++
    [p.ppuMode, p.ly, p.lastReadyScanline, p.lastLy,
      if p.scanlineReadyPending then 1#8 else 0#8, if p.vblankPending then 1#8 else 0#8]

/-- The captured lines are dropped; `lcdc` is the register at the time of the import. -/
def importState (p : GameBoyPPU) (lcdc : Byte) (state : List Byte) : Except String GameBoyPPU :=
  if state.length ≠ 10 then .error "PPU state too short"
  else
    let dotCounter := u32OfBytes state
    let ppuMode := state.getD 4 0
    let ly := state.getD 5 0
    let lastReadyScanline := state.getD 6 0
    let lastLy := state.getD 7 0
    let scanlineReady := state.getD 8 0
    let vblank := state.getD 9 0
    if dotCounter ≥ kCyclesPerScanline ∨ ppuMode > kModeDMATransfer ∨
        ly.toNat ≥ kTotalScanlines ∨ lastReadyScanline.toNat ≥ kTotalScanlines ∨
        lastLy.toNat ≥ kTotalScanlines ∨ scanlineReady > 1#8 ∨ vblank > 1#8 then
      .error "PPU state contains invalid values"
    else .ok
      { p with
        dotCounter := dotCounter
        ppuMode := ppuMode
        ly := ly
        lastReadyScanline := lastReadyScanline
        lastLy := lastLy
        scanlineReadyPending := scanlineReady != 0
        vblankPending := vblank != 0
        capturedScanlines := fun _ => false
        hasCapturedScanlines := false
        lcdEnabledLastStep := lcdc &&& 0x80#8 != 0 }

end GameBoyPPU

end ProtoTime.GameBoy
