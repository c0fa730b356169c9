import ProtoTime.GameBoy.Bytes

/-!
The registers and interpreter flags of the processor core, over an arbitrary
bus. The bus stands for everything an instruction can only reach through memory
accesses: the memory itself and the timed hardware that retirement advances.
-/
namespace ProtoTime.GameBoy

/-- What the interpreter asks of its surroundings. `beginStep` and `endStep` bracket
the body of an instruction; `retire` charges its cycles to the hardware. -/
class CpuBus (σ : Type) where
  read : σ → Addr → Byte
  write : σ → Addr → Byte → σ
  beginStep : ℕ → σ → σ
  endStep : σ → σ
  retire : ℕ → σ → σ
  interruptFlags : σ → Byte
  interruptEnable : σ → Byte
  setInterruptFlags : Byte → σ → σ
  dmaActive : σ → Bool

inductive ExecutionPathHint where
  | unknown
  | canonicalFetchDecodeExecute
  | cpuOptimizedFastPath
  | portableIr
  | nativeIr
  | cachedBlock
  deriving DecidableEq

structure CpuFeedback where
  segmentBoundaryHint : Bool := false
  isControlFlow : Bool := false
  pcBefore : ℕ := 0
  pcAfter : ℕ := 0
  retiredCycles : ℕ := 0
  executionPath : ExecutionPathHint := .unknown
  deriving DecidableEq

structure Core (σ : Type) where
  af : Addr
  bc : Addr
  de : Addr
  hl : Addr
  sp : Addr
  pc : Addr
  flagset : BitVec 16
  cip : Byte
  feedback : CpuFeedback
  ime : Bool
  imeEnablePending : Bool
  imeEnableDelay : ℕ
  stopFlag : Bool
  haltFlag : Bool
  illegalOpcodeLockup : Bool
  haltBugActive : Bool
  haltBugPcAdjustPending : Bool
  pendingCycleCharge : ℕ
  bus : σ

structure OpcodeCycles where
  notTaken : ℕ
  taken : ℕ
  deriving DecidableEq

def kFlagZ : Byte := 0x80#8

def kFlagN : Byte := 0x40#8

def kFlagH : Byte := 0x20#8

def kFlagC : Byte := 0x10#8

def kInterruptVBlank : Byte := 0x01#8

def kInterruptLcdStat : Byte := 0x02#8

def kInterruptTimer : Byte := 0x04#8

def kInterruptSerial : Byte := 0x08#8

def kInterruptJoypad : Byte := 0x10#8

def kInterruptMask : Byte := 0x1F#8

/-- The flag register with the given bits and a zero low nibble. -/
def flagByte (z n h c : Bool) : Byte :=
  (if z then kFlagZ else 0) ||| (if n then kFlagN else 0) |||
    (if h then kFlagH else 0) ||| (if c then kFlagC else 0)

def kUnprefixedOpcodeCycles : List (ℕ × ℕ) :=
  [(4, 4), (12, 12), (8, 8), (8, 8), (4, 4), (4, 4), (8, 8), (4, 4),
    (20, 20), (8, 8), (8, 8), (8, 8), (4, 4), (4, 4), (8, 8), (4, 4),
    (4, 4), (12, 12), (8, 8), (8, 8), (4, 4), (4, 4), (8, 8), (4, 4),
    (12, 12), (8, 8), (8, 8), (8, 8), (4, 4), (4, 4), (8, 8), (4, 4),
    (8, 12), (12, 12), (8, 8), (8, 8), (4, 4), (4, 4), (8, 8), (4, 4),
    (8, 12), (8, 8), (8, 8), (8, 8), (4, 4), (4, 4), (8, 8), (4, 4),
    (8, 12), (12, 12), (8, 8), (8, 8), (12, 12), (12, 12), (12, 12), (4, 4),
    (8, 12), (8, 8), (8, 8), (8, 8), (4, 4), (4, 4), (8, 8), (4, 4),
    (4, 4), (4, 4), (4, 4), (4, 4), (4, 4), (4, 4), (8, 8), (4, 4),
    (4, 4), (4, 4), (4, 4), (4, 4), (4, 4), (4, 4), (8, 8), (4, 4),
    (4, 4), (4, 4), (4, 4), (4, 4), (4, 4), (4, 4), (8, 8), (4, 4),
    (4, 4), (4, 4), (4, 4), (4, 4), (4, 4), (4, 4), (8, 8), (4, 4),
    (4, 4), (4, 4), (4, 4), (4, 4), (4, 4), (4, 4), (8, 8), (4, 4),
    (4, 4), (4, 4), (4, 4), (4, 4), (4, 4), (4, 4), (8, 8), (4, 4),
    (8, 8), (8, 8), (8, 8), (8, 8), (8, 8), (8, 8), (4, 4), (8, 8),
    (4, 4), (4, 4), (4, 4), (4, 4), (4, 4), (4, 4), (8, 8), (4, 4),
    (4, 4), (4, 4), (4, 4), (4, 4), (4, 4), (4, 4), (8, 8), (4, 4),
    (4, 4), (4, 4), (4, 4), (4, 4), (4, 4), (4, 4), (8, 8), (4, 4),
    (4, 4), (4, 4), (4, 4), (4, 4), (4, 4), (4, 4), (8, 8), (4, 4),
    (4, 4), (4, 4), (4, 4), (4, 4), (4, 4), (4, 4), (8, 8), (4, 4),
    (4, 4), (4, 4), (4, 4), (4, 4), (4, 4), (4, 4), (8, 8), (4, 4),
    (4, 4), (4, 4), (4, 4), (4, 4), (4, 4), (4, 4), (8, 8), (4, 4),
    (4, 4), (4, 4), (4, 4), (4, 4), (4, 4), (4, 4), (8, 8), (4, 4),
    (4, 4), (4, 4), (4, 4), (4, 4), (4, 4), (4, 4), (8, 8), (4, 4),
    (8, 20), (12, 12), (12, 16), (16, 16), (12, 24), (16, 16), (8, 8), (16, 16),
    (8, 20), (16, 16), (12, 16), (4, 4), (12, 24), (24, 24), (8, 8), (16, 16),
    (8, 20), (12, 12), (12, 16), (4, 4), (12, 24), (16, 16), (8, 8), (16, 16),
    (8, 20), (16, 16), (12, 16), (4, 4), (12, 24), (4, 4), (8, 8), (16, 16),
    (12, 12), (12, 12), (8, 8), (4, 4), (4, 4), (16, 16), (8, 8), (16, 16),
    (16, 16), (4, 4), (16, 16), (4, 4), (4, 4), (4, 4), (8, 8), (16, 16),
    (12, 12), (12, 12), (8, 8), (4, 4), (4, 4), (16, 16), (8, 8), (16, 16),
    (12, 12), (8, 8), (16, 16), (4, 4), (4, 4), (4, 4), (8, 8), (16, 16)]

def opcodeCyclesFor (opcode : Byte) : OpcodeCycles :=
  let cycles := kUnprefixedOpcodeCycles.getD opcode.toNat (0, 0)
  ⟨cycles.1, cycles.2⟩

/-- The prefixed table holds 8 for a register operand, and for `(HL)` 12 in the
bit-test rows and 16 elsewhere. -/
def cbOpcodeCyclesFor (opcode : Byte) : OpcodeCycles :=
  if opcode &&& 0x07#8 = 0x06#8 then
    if opcode &&& 0xC0#8 = 0x40#8 then ⟨12, 12⟩ else ⟨16, 16⟩
  else ⟨8, 8⟩

def isControlFlowOpcode (opcode : Byte) : Bool :=
  opcode ∈ [0x18#8, 0x20#8, 0x28#8, 0x30#8, 0x38#8, 0xC0#8, 0xC2#8, 0xC3#8, 0xC4#8, 0xC7#8,
    0xC8#8, 0xC9#8, 0xCA#8, 0xCC#8, 0xCD#8, 0xCF#8, 0xD0#8, 0xD2#8, 0xD4#8, 0xD7#8, 0xD8#8,
    0xD9#8, 0xDA#8, 0xDC#8, 0xDF#8, 0xE7#8, 0xE9#8, 0xEF#8, 0xF7#8, 0xFF#8]

def isUndefinedOpcode (opcode : Byte) : Bool :=
  opcode ∈ [0xD3#8, 0xDB#8, 0xDD#8, 0xE3#8, 0xE4#8, 0xEB#8, 0xEC#8, 0xED#8, 0xF4#8, 0xFC#8,
    0xFD#8]

def isHramAddress (address : Addr) : Bool :=
  decide (0xFF80#16 ≤ address) && decide (address ≤ 0xFFFE#16)

namespace Core

variable {σ : Type} [CpuBus σ]

variable (c : Core σ)

def read8 (address : Addr) : Byte := CpuBus.read c.bus address

def write8 (address : Addr) (value : Byte) : Core σ :=
  { c with bus := CpuBus.write c.bus address value }

def read16 (address : Addr) : Addr := word (c.read8 address) (c.read8 (address + 1))

/-- Two byte writes, the low byte first. -/
def write16 (address : Addr) (value : Addr) : Core σ :=
  (c.write8 address (lo value)).write8 (address + 1) (hi value)

def setIme (enabled : Bool) : Core σ :=
  { c with ime := enabled, imeEnablePending := false, imeEnableDelay := 0 }

def scheduleImeEnable : Core σ :=
  { c with imeEnablePending := true, imeEnableDelay := 1 }

def setStopFlag (f : Bool) : Core σ :=
  { c with
    stopFlag := f
    illegalOpcodeLockup := if f then c.illegalOpcodeLockup else false }

def setHaltFlag (f : Bool) : Core σ := { c with haltFlag := f }

def lockUpOnInvalidOpcode : Core σ := { c with illegalOpcodeLockup := true }

/-- The bus advances by the executed cycles; a delayed interrupt enable then counts down.
Nothing happens when no cycle is charged. -/
def retireInstruction (executedCycles : ℕ) : Core σ :=
  if executedCycles = 0 then c
  else
    let c := { c with bus := CpuBus.retire executedCycles c.bus }
    if c.imeEnablePending then
      if c.imeEnableDelay > 0 then { c with imeEnableDelay := c.imeEnableDelay - 1 }
      else { c with ime := true, imeEnablePending := false }
    else c

end Core

end ProtoTime.GameBoy
