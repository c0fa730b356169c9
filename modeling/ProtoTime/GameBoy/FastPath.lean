import ProtoTime.GameBoy.Canonical

/-!
The byte-level fast path: the same instructions executed straight from the
fetched bytes over cached register references, with their own decoding, flag
arithmetic and retirement.
-/
namespace ProtoTime.GameBoy

def supportsFastOpcode (opcode : Byte) : Bool :=
  if (0x40#8 ≤ opcode ∧ opcode ≤ 0x7F#8) ∨ (0x80#8 ≤ opcode ∧ opcode ≤ 0xBF#8) then true
  else if opcode &&& 0xC7#8 = 0x04#8 ∨ opcode &&& 0xC7#8 = 0x05#8 ∨
      opcode &&& 0xC7#8 = 0x06#8 then true
  else opcode ∈ [0x00#8, 0x01#8, 0x02#8, 0x03#8,
    0x07#8, 0x08#8, 0x09#8, 0x0A#8, 0x0B#8, 0x0F#8,
    0x10#8, 0x11#8, 0x12#8, 0x13#8,
    0x17#8, 0x18#8, 0x19#8, 0x1A#8, 0x1B#8, 0x1F#8,
    0x20#8, 0x21#8, 0x22#8, 0x23#8,
    0x27#8, 0x28#8, 0x29#8, 0x2A#8, 0x2B#8, 0x2F#8,
    0x30#8, 0x31#8, 0x32#8, 0x33#8,
    0x37#8, 0x38#8, 0x39#8, 0x3A#8, 0x3B#8, 0x3F#8,
    0xC0#8, 0xC1#8, 0xC2#8, 0xC3#8, 0xC4#8, 0xC5#8,
    0xC6#8, 0xC7#8, 0xC8#8, 0xC9#8,
    0xCA#8, 0xCC#8, 0xCD#8, 0xCE#8, 0xCF#8,
    0xD0#8, 0xD1#8, 0xD2#8, 0xD4#8, 0xD5#8, 0xD6#8,
    0xD7#8, 0xD8#8, 0xD9#8, 0xDA#8, 0xDC#8, 0xDE#8, 0xDF#8,
    0xE0#8, 0xE1#8, 0xE2#8, 0xE5#8, 0xE6#8, 0xE7#8,
    0xE8#8, 0xE9#8, 0xEA#8, 0xEE#8, 0xEF#8,
    0xF0#8, 0xF1#8, 0xF2#8, 0xF3#8, 0xF5#8, 0xF6#8,
    0xF7#8, 0xF8#8, 0xF9#8, 0xFA#8, 0xFB#8, 0xFE#8, 0xFF#8]

namespace Core

variable {σ : Type} [CpuBus σ]

variable (s : Core σ)

def cachedAccumulator : Byte := hi s.af

def cachedFlags : Byte := lo s.af

def assignCachedAccumulator (value : Byte) : Core σ :=
  { s with af := setHi s.af value }

def assignCachedFlags (value : Byte) : Core σ := { s with af := setLo s.af value }

def cachedReadR8 (regCode : Byte) : Byte :=
  match (regCode &&& 0x07#8).toNat with
  | 0 => hi s.bc
  | 1 => lo s.bc
  | 2 => hi s.de
  | 3 => lo s.de
  | 4 => hi s.hl
  | 5 => lo s.hl
  | 6 => s.read8 s.hl
  | _ => s.cachedAccumulator

def cachedWriteR8 (regCode value : Byte) : Core σ :=
  match (regCode &&& 0x07#8).toNat with
  | 0 => { s with bc := setHi s.bc value }
  | 1 => { s with bc := setLo s.bc value }
  | 2 => { s with de := setHi s.de value }
  | 3 => { s with de := setLo s.de value }
  | 4 => { s with hl := setHi s.hl value }
  | 5 => { s with hl := setLo s.hl value }
  | 6 => s.write8 s.hl value
  | _ => s.assignCachedAccumulator value

def cachedR16 (regCode : Byte) : Addr :=
  match (regCode &&& 0x03#8).toNat with
  | 0 => s.bc
  | 1 => s.de
  | 2 => s.hl
  | _ => s.sp

def assignCachedR16 (regCode : Byte) (value : Addr) : Core σ :=
  match (regCode &&& 0x03#8).toNat with
  | 0 => { s with bc := value }
  | 1 => { s with de := value }
  | 2 => { s with hl := value }
  | _ => { s with sp := value }

def cachedStackR16 (regCode : Byte) : Addr :=
  match (regCode &&& 0x03#8).toNat with
  | 0 => s.bc
  | 1 => s.de
  | 2 => s.hl
  | _ => s.af

def assignCachedStackR16 (regCode : Byte) (value : Addr) : Core σ :=
  match (regCode &&& 0x03#8).toNat with
  | 0 => { s with bc := value }
  | 1 => { s with de := value }
  | 2 => { s with hl := value }
  | _ => { s with af := value }

def cachedConditionHolds (conditionCode : Byte) : Bool :=
  match (conditionCode &&& 0x03#8).toNat with
  | 0 => s.cachedFlags &&& kFlagZ == 0
  | 1 => s.cachedFlags &&& kFlagZ != 0
  | 2 => s.cachedFlags &&& kFlagC == 0
  | _ => s.cachedFlags &&& kFlagC != 0

def cachedSetFlags (z n h c : Bool) : Core σ :=
  s.assignCachedFlags ((if z then kFlagZ else 0) ||| (if n then kFlagN else 0) |||
    (if h then kFlagH else 0) ||| (if c then kFlagC else 0))

def cachedPush16 (value : Addr) : Core σ :=
  let s := { s with sp := s.sp - 2 }
  (s.write8 s.sp (lo value)).write8 (s.sp + 1) (hi value)

def cachedPop16 : Addr × Core σ := (s.read16 s.sp, { s with sp := s.sp + 2 })

/-- The fast path's copy of the accumulator arithmetic. -/
def executeMathOp (code rhs : Byte) : Core σ :=
  let lhs := s.cachedAccumulator
  let carryIn := s.cachedFlags &&& kFlagC != 0
  let cin : ℕ := if carryIn then 1 else 0
  let finish (result : Byte) (n h c : Bool) : Core σ :=
    (s.assignCachedAccumulator result).cachedSetFlags (result == 0) n h c
  match ((code >>> 3) &&& 0x07#8).toNat with
  | 0 =>
    finish (lhs + rhs) false ((lhs &&& 0x0F#8).toNat + (rhs &&& 0x0F#8).toNat > 0x0F)
      (lhs.toNat + rhs.toNat > 0xFF)
  | 1 =>
    let sum := lhs.toNat + rhs.toNat + cin
    finish (BitVec.ofNat 8 sum) false
      ((lhs &&& 0x0F#8).toNat + (rhs &&& 0x0F#8).toNat + cin > 0x0F) (sum > 0xFF)
  | 2 =>
    finish (lhs - rhs) true ((lhs &&& 0x0F#8).toNat < (rhs &&& 0x0F#8).toNat) (lhs < rhs)
  | 3 =>
    let subtrahend := rhs.toNat + cin
    finish (lhs - BitVec.ofNat 8 subtrahend) true
      ((lhs &&& 0x0F#8).toNat < (rhs &&& 0x0F#8).toNat + cin) (lhs.toNat < subtrahend)
  | 4 => finish (lhs &&& rhs) false true false
  | 5 => finish (lhs ^^^ rhs) false false false
  | 6 => finish (lhs ||| rhs) false false false
  | _ =>
    s.cachedSetFlags (lhs == rhs) true ((lhs &&& 0x0F#8).toNat < (rhs &&& 0x0F#8).toNat)
      (lhs < rhs)

def rotateCachedA (opcode : Byte) : Core σ :=
  let a := s.cachedAccumulator
  let carryIn := s.cachedFlags &&& kFlagC != 0
  match ((opcode >>> 3) &&& 0x03#8).toNat with
  | 0 =>
    (s.assignCachedAccumulator ((a <<< 1) ||| (a >>> 7))).cachedSetFlags false false false
      (a &&& 0x80#8 != 0)
  | 1 =>
    (s.assignCachedAccumulator ((a >>> 1) ||| (a <<< 7))).cachedSetFlags false false false
      (a &&& 0x01#8 != 0)
  | 2 =>
    (s.assignCachedAccumulator ((a <<< 1) ||| (if carryIn then 1#8 else 0#8))).cachedSetFlags
      false false false (a &&& 0x80#8 != 0)
  | _ =>
    (s.assignCachedAccumulator ((a >>> 1) ||| (if carryIn then 0x80#8 else 0#8))).cachedSetFlags
      false false false (a &&& 0x01#8 != 0)

def cachedDaa : Core σ :=
  let a := s.cachedAccumulator
  let flagReg := s.cachedFlags
  let n := flagReg &&& kFlagN != 0
  let h := flagReg &&& kFlagH != 0
  let c := flagReg &&& kFlagC != 0
  let (value, carry) : Byte × Bool :=
    if ¬ n then
      let adjust := if h ∨ a &&& 0x0F#8 > 0x09#8 then 0x06#8 else 0#8
      if c ∨ a > 0x99#8 then (a + (adjust ||| 0x60#8), true) else (a + adjust, c)
    else
      let adjust := if h then 0x06#8 else 0#8
      (a - (if c then adjust ||| 0x60#8 else adjust), c)
  (s.assignCachedAccumulator value).assignCachedFlags
    ((if value == 0 then kFlagZ else 0) ||| (if n then kFlagN else 0) |||
      (if carry then kFlagC else 0))

/-- Loads and stores of the accumulator through `BC`, `DE` and `HL` with post-increment or
post-decrement. -/
def cachedLdIndirectA (opcode : Byte) : Core σ :=
  let address :=
    if opcode = 0x02#8 ∨ opcode = 0x0A#8 then s.bc
    else if opcode = 0x12#8 ∨ opcode = 0x1A#8 then s.de
    else s.hl
  let s :=
    if opcode &&& 0x08#8 = 0 then s.write8 address s.cachedAccumulator
    else s.assignCachedAccumulator (s.read8 address)
  if opcode = 0x22#8 ∨ opcode = 0x2A#8 then { s with hl := s.hl + 1 }
  else if opcode = 0x32#8 ∨ opcode = 0x3A#8 then { s with hl := s.hl - 1 }
  else s

end Core

/-- Which case of the fast path takes an opcode, in the order of the source's tests: two range
tests, the switch, the three masked groups and the indirect loads. -/
def fastDispatch (opcode : Byte) : Option OpcodeFamily :=
  if 0x40#8 ≤ opcode ∧ opcode ≤ 0x7F#8 ∧ opcode ≠ 0x76#8 then some .ldR8R8
  else if 0x80#8 ≤ opcode ∧ opcode ≤ 0xBF#8 then some .mathR8
  else if opcode = 0x00#8 then some .nop
  else if opcode = 0x10#8 then some .stop
  else if opcode = 0x76#8 then some .halt
  else if opcode ∈ [0x01#8, 0x11#8, 0x21#8, 0x31#8] then some .ldR16Imm
  else if opcode ∈ [0x03#8, 0x13#8, 0x23#8, 0x33#8] then some .incR16
  else if opcode ∈ [0x0B#8, 0x1B#8, 0x2B#8, 0x3B#8] then some .decR16
  else if opcode = 0x08#8 then some .ldAbsSp
  else if opcode ∈ [0x09#8, 0x19#8, 0x29#8, 0x39#8] then some .addHlR16
  else if opcode = 0x18#8 then some .jr
  else if opcode ∈ [0x20#8, 0x28#8, 0x30#8, 0x38#8] then some .jrCond
  else if opcode = 0xC3#8 then some .jp
  else if opcode ∈ [0xC2#8, 0xCA#8, 0xD2#8, 0xDA#8] then some .jpCond
  else if opcode = 0xC9#8 then some .ret
  else if opcode = 0xD9#8 then some .reti
  else if opcode ∈ [0xC0#8, 0xC8#8, 0xD0#8, 0xD8#8] then some .retCond
  else if opcode = 0xCD#8 then some .call
  else if opcode ∈ [0xC4#8, 0xCC#8, 0xD4#8, 0xDC#8] then some .callCond
  else if opcode ∈ [0xC1#8, 0xD1#8, 0xE1#8, 0xF1#8] then some .popR16
  else if opcode ∈ [0xC5#8, 0xD5#8, 0xE5#8, 0xF5#8] then some .pushR16
  else if opcode = 0xE9#8 then some .jpHl
  else if opcode = 0xE0#8 then some .ldhStoreImm
  else if opcode = 0xF0#8 then some .ldhLoadImm
  else if opcode = 0xE2#8 then some .ldhStoreC
  else if opcode = 0xF2#8 then some .ldhLoadC
  else if opcode = 0xE8#8 then some .addSp
  else if opcode = 0xF8#8 then some .ldHlSp
  else if opcode = 0xF9#8 then some .ldSpHl
  else if opcode = 0xEA#8 then some .ldAbsStore
  else if opcode = 0xFA#8 then some .ldAbsLoad
  else if opcode = 0xF3#8 then some .di
  else if opcode = 0xFB#8 then some .ei
  else if opcode ∈ [0x07#8, 0x0F#8, 0x17#8, 0x1F#8] then some .rotateA
  else if opcode = 0x27#8 then some .daa
  else if opcode = 0x2F#8 then some .cpl
  else if opcode = 0x37#8 then some .scf
  else if opcode = 0x3F#8 then some .ccf
  else if opcode ∈ [0xC6#8, 0xCE#8, 0xD6#8, 0xDE#8, 0xE6#8, 0xEE#8, 0xF6#8, 0xFE#8] then
    some .mathImm
  else if opcode ∈ [0xC7#8, 0xCF#8, 0xD7#8, 0xDF#8, 0xE7#8, 0xEF#8, 0xF7#8, 0xFF#8] then
    some .rst
  else if opcode &&& 0xC7#8 = 0x04#8 then some .incR8
  else if opcode &&& 0xC7#8 = 0x05#8 then some .decR8
  else if opcode &&& 0xC7#8 = 0x06#8 then some .ldR8Imm
  else if opcode ∈ [0x02#8, 0x12#8, 0x22#8, 0x32#8, 0x0A#8, 0x1A#8, 0x2A#8, 0x3A#8] then
    some .ldIndirectA
  else none

namespace Core

variable {σ : Type} [CpuBus σ]

/-- The body of one case and the byte count it passes to the finalizer. The byte path has no
case for prefixed and undefined opcodes. -/
def fastBody (s : Core σ) (family : OpcodeFamily) (opcode immediate8 : Byte)
    (immediate16 : Addr) : Option (Core σ × ℕ) :=
  let field3 := (opcode >>> 3) &&& 0x07#8
  let field4 := (opcode >>> 4) &&& 0x03#8
  let condition := (opcode >>> 3) &&& 0x03#8
  let target := s.pc + 2 + immediate8.signExtend 16
  match family with
  | .ldR8R8 => some (s.cachedWriteR8 field3 (s.cachedReadR8 (opcode &&& 0x07#8)), 1)
  | .mathR8 => some (s.executeMathOp opcode (s.cachedReadR8 (opcode &&& 0x07#8)), 1)
  | .nop => some (s, 1)
  | .stop => some (s.setStopFlag true, 2)
  | .halt => some (s.setHaltFlag true, 1)
  | .ldR16Imm => some (s.assignCachedR16 field4 immediate16, 3)
  | .incR16 => some (s.assignCachedR16 field4 (s.cachedR16 field4 + 1), 1)
  | .decR16 => some (s.assignCachedR16 field4 (s.cachedR16 field4 - 1), 1)
  | .ldAbsSp => some (s.write16 immediate16 s.sp, 3)
  | .addHlR16 =>
    let lhs := s.hl
    let rhs := s.cachedR16 field4
    let s := { s with hl := lhs + rhs }
    some (s.cachedSetFlags (s.cachedFlags &&& kFlagZ != 0) false
      ((lhs &&& 0x0FFF#16).toNat + (rhs &&& 0x0FFF#16).toNat > 0x0FFF)
      (lhs.toNat + rhs.toNat > 0xFFFF), 1)
  | .jr => some ({ s with pc := target - 2 }, 2)
  | .jrCond =>
    some (if s.cachedConditionHolds condition then { s with pc := target - 2 } else s, 2)
  | .jp => some ({ s with pc := immediate16 - 3 }, 3)
  | .jpCond =>
    some (if s.cachedConditionHolds condition then { s with pc := immediate16 - 3 } else s, 3)
  | .ret =>
    let (value, s) := s.cachedPop16
    some ({ s with pc := value - 1 }, 1)
  | .reti =>
    let (value, s) := s.cachedPop16
    some ({ s with pc := value - 1 }.setIme true, 1)
  | .retCond =>
    some (if s.cachedConditionHolds condition then
      let (value, s) := s.cachedPop16
      { s with pc := value - 1 }
    else s, 1)
  | .call => some ({ s.cachedPush16 (s.pc + 3) with pc := immediate16 - 3 }, 3)
  | .callCond =>
    some (if s.cachedConditionHolds condition then
      { s.cachedPush16 (s.pc + 3) with pc := immediate16 - 3 }
    else s, 3)
  | .popR16 =>
    let (value, s) := s.cachedPop16
    some (s.assignCachedStackR16 field4 (if field4 = 3#8 then value &&& 0xFFF0#16 else value), 1)
  | .pushR16 => some (s.cachedPush16 (s.cachedStackR16 field4), 1)
  | .jpHl => some ({ s with pc := s.hl - 1 }, 1)
  | .ldhStoreImm => some (s.write8 (0xFF00#16 + immediate8.setWidth 16) s.cachedAccumulator, 2)
  | .ldhLoadImm =>
    some (s.assignCachedAccumulator (s.read8 (0xFF00#16 + immediate8.setWidth 16)), 2)
  | .ldhStoreC => some (s.write8 (0xFF00#16 + (lo s.bc).setWidth 16) s.cachedAccumulator, 1)
  | .ldhLoadC =>
    some (s.assignCachedAccumulator (s.read8 (0xFF00#16 + (lo s.bc).setWidth 16)), 1)
  | .addSp =>
    let original := s.sp
    some (({ s with sp := original + immediate8.signExtend 16 }).cachedSetFlags false false
      ((lo original &&& 0x0F#8).toNat + (immediate8 &&& 0x0F#8).toNat > 0x0F)
      ((lo original).toNat + immediate8.toNat > 0xFF), 2)
  | .ldHlSp =>
    let low := lo s.sp
    some (({ s with hl := s.sp + immediate8.signExtend 16 }).cachedSetFlags false false
      ((low &&& 0x0F#8).toNat + (immediate8 &&& 0x0F#8).toNat > 0x0F)
      (low.toNat + immediate8.toNat > 0xFF), 2)
  | .ldSpHl => some ({ s with sp := s.hl }, 1)
  | .ldAbsStore => some (s.write8 immediate16 s.cachedAccumulator, 3)
  | .ldAbsLoad => some (s.assignCachedAccumulator (s.read8 immediate16), 3)
  | .di => some (s.setIme false, 1)
  | .ei => some (s.scheduleImeEnable, 1)
  | .rotateA => some (s.rotateCachedA opcode, 1)
  | .daa => some (s.cachedDaa, 1)
  | .cpl =>
    let s := s.assignCachedAccumulator (~~~s.cachedAccumulator)
    some (s.assignCachedFlags ((s.cachedFlags &&& (kFlagZ ||| kFlagC)) ||| kFlagN ||| kFlagH), 1)
  | .scf => some (s.assignCachedFlags ((s.cachedFlags &&& kFlagZ) ||| kFlagC), 1)
  | .ccf =>
    let carry := s.cachedFlags &&& kFlagC == 0
    let s := s.assignCachedFlags (s.cachedFlags &&& kFlagZ)
    some (if carry then s.assignCachedFlags (s.cachedFlags ||| kFlagC) else s, 1)
  | .mathImm => some (s.executeMathOp opcode immediate8, 2)
  | .rst =>
    some ({ s.cachedPush16 (s.pc + 1) with pc := (opcode &&& 0x38#8).setWidth 16 - 1 }, 1)
  | .incR8 =>
    let oldValue := s.cachedReadR8 field3
    let newValue := oldValue + 1
    let s := s.cachedWriteR8 field3 newValue
    some (s.cachedSetFlags (newValue == 0) false ((oldValue &&& 0x0F#8).toNat + 1 > 0x0F)
      (s.cachedFlags &&& kFlagC != 0), 1)
  | .decR8 =>
    let oldValue := s.cachedReadR8 field3
    let newValue := oldValue - 1
    let s := s.cachedWriteR8 field3 newValue
    some (s.cachedSetFlags (newValue == 0) true (oldValue &&& 0x0F#8 == 0)
      (s.cachedFlags &&& kFlagC != 0), 1)
  | .ldR8Imm => some (s.cachedWriteR8 field3 immediate8, 2)
  | .ldIndirectA => some (s.cachedLdIndirectA opcode, 1)
  | .prefixCb | .undefined => none

/-- `pcBefore` and `opcode` are the values at the start of the instruction. -/
def finalizeFast (s : Core σ) (pcBefore : Addr) (opcode : Byte) (executedByteCount : ℕ) :
    Core σ :=
  let s := s.advancePc executedByteCount
  let sequentialPc := pcBefore + BitVec.ofNat 16 executedByteCount
  let cycles := opcodeCyclesFor opcode
  let retiredCycles :=
    if s.pendingCycleCharge ≠ 0 then s.pendingCycleCharge
    else if s.pc ≠ sequentialPc then cycles.taken
    else cycles.notTaken
  let s := { s with
    pendingCycleCharge := 0
    feedback :=
      { segmentBoundaryHint := isControlFlowOpcode opcode
        isControlFlow := isControlFlowOpcode opcode
        pcBefore := pcBefore.toNat
        pcAfter := s.pc.toNat
        retiredCycles := retiredCycles
        executionPath := .cpuOptimizedFastPath }
    bus := CpuBus.endStep s.bus }
  s.retireInstruction retiredCycles

/-- `none` when the opcode is left to the canonical interpreter. -/
def tryFastExecuteBytes (s : Core σ) (data : List Byte) : Option (Core σ) :=
  match data with
  | [] => none
  | opcode :: _ =>
    if ¬ supportsFastOpcode opcode then none
    else
      let pcBefore := s.pc
      let s := { s with bus := CpuBus.beginStep (opcodeCyclesFor opcode).notTaken s.bus }
      match (fastDispatch opcode).bind fun family =>
          s.fastBody family opcode (data.getD 1 0) (word (data.getD 1 0) (data.getD 2 0)) with
      | none => none
      | some (s, executedByteCount) => some (s.finalizeFast pcBefore opcode executedByteCount)

end Core

end ProtoTime.GameBoy
