import ProtoTime.GameBoy.FastPath

/-!
The start of a step: the gates that keep the processor from fetching, interrupt
entry, the fetch with its HALT bug, and execution of what was fetched by the
fast path or the canonical interpreter.
-/
namespace ProtoTime.GameBoy

namespace Core

variable {σ : Type} [CpuBus σ]

variable (c : Core σ)

/-- The interrupts that are both requested and enabled. -/
def pendingInterrupts : Byte :=
  CpuBus.interruptFlags c.bus &&& CpuBus.interruptEnable c.bus &&& kInterruptMask

/-- OAM DMA leaves only high RAM to the processor. -/
def dmaRestricted : Bool := CpuBus.dmaActive c.bus && !isHramAddress c.pc

/-- The highest-priority interrupt of a non-zero mask and its vector. -/
def servicedInterrupt (pending : Byte) : Byte × Addr :=
  if pending &&& kInterruptVBlank ≠ 0 then (kInterruptVBlank, 0x0040#16)
  else if pending &&& kInterruptLcdStat ≠ 0 then (kInterruptLcdStat, 0x0048#16)
  else if pending &&& kInterruptTimer ≠ 0 then (kInterruptTimer, 0x0050#16)
  else if pending &&& kInterruptSerial ≠ 0 then (kInterruptSerial, 0x0058#16)
  else (kInterruptJoypad, 0x0060#16)

/-- The flag is cleared, the program counter is pushed and the entry is charged 20 cycles. -/
def enterInterrupt : Core σ :=
  let serviced := servicedInterrupt c.pendingInterrupts
  let flags := CpuBus.interruptFlags c.bus &&& ~~~serviced.1
  let returnAddress := c.pc
  let c := { c with
    ime := false
    imeEnablePending := false
    imeEnableDelay := 0
    sp := c.sp - 2
    bus := CpuBus.setInterruptFlags flags c.bus }
  let c := c.write16 c.sp returnAddress
  { c with pc := serviced.2, pendingCycleCharge := 20 }

def serviceInterruptIfPending : Core σ × Bool :=
  if c.pendingInterrupts = 0 then (c, false)
  else if ¬ c.ime then ({ c with haltFlag := false }, false)
  else ({ c with haltFlag := false }.enterInterrupt, true)

/-- The bytes of the instruction at `pc`. Under the HALT bug the operand bytes are read one
address too low. -/
def fetchBytes (haltBug : Bool) : List Byte :=
  let opcode := c.read8 c.pc
  let length := match opcodeTable opcode with
    | some family => family.length
    | none => 1
  opcode :: (List.range (length - 1)).map fun i =>
    if haltBug then c.read8 (c.pc + BitVec.ofNat 16 i)
    else c.read8 (c.pc + BitVec.ofNat 16 (i + 1))

/-- The fetch of a processor that nothing holds back. -/
def fetchInstruction : Core σ × FetchBlock :=
  let useHaltBugFetch := c.haltBugActive
  let data := c.fetchBytes useHaltBugFetch
  ({ c with haltBugActive := false, haltBugPcAdjustPending := useHaltBugFetch }, ⟨c.pc, data⟩)

/-- Waking from HALT with interrupts disabled makes the next fetch read its opcode twice. -/
def fetchInto : Core σ × FetchBlock :=
  if c.stopFlag ∨ c.illegalOpcodeLockup then (c, ⟨0, []⟩)
  else if c.dmaRestricted then (c, ⟨c.pc, []⟩)
  else if c.haltFlag ∧ c.pendingInterrupts = 0 then (c, ⟨c.pc, []⟩)
  else
    let triggerHaltBug := c.haltFlag && c.pendingInterrupts != 0 && !c.ime
    let c := if triggerHaltBug then { c with haltFlag := false, haltBugActive := true } else c
    let (c, serviced) := c.serviceInterruptIfPending
    if serviced then (c, ⟨c.pc, []⟩) else c.fetchInstruction

def decodeAndExecute (f : FetchBlock) : Except String (Core σ) :=
  match decodeInto f with
  | .error message => .error message
  | .ok (block, f) => .ok (c.execute block f)

/-- The fast path is tried first where the policy allows it. -/
def stepFetched (fastExecutionAllowed : Bool) (c : Core σ) (f : FetchBlock) :
    Except String (Core σ) :=
  if fastExecutionAllowed then
    match c.tryFastExecuteBytes f.data with
    | some c => .ok c
    | none => c.decodeAndExecute f
  else c.decodeAndExecute f

end Core

end ProtoTime.GameBoy
