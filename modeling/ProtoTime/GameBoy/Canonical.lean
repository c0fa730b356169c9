import ProtoTime.GameBoy.Core

/-!
The canonical interpreter: the opcode table, decoding of a fetched byte stream
into an execution block, and execution of the block over the memory view.
-/
namespace ProtoTime.GameBoy

inductive R8 where
  | b | c | d | e | h | l | hlIndirect | a
  deriving DecidableEq

inductive R16 where
  | bc | de | hl | sp
  deriving DecidableEq

inductive R16Stack where
  | bc | de | hl | af
  deriving DecidableEq

inductive Condition where
  | nz | z | nc | c
  deriving DecidableEq

def decodeR8 (regCode : Byte) : R8 :=
  match (regCode &&& 0x07#8).toNat with
  | 0 => .b
  | 1 => .c
  | 2 => .d
  | 3 => .e
  | 4 => .h
  | 5 => .l
  | 6 => .hlIndirect
  | _ => .a

def decodeR8Dest (opcode : Byte) : R8 := decodeR8 ((opcode >>> 3) &&& 0x07#8)

def decodeR8Src (opcode : Byte) : R8 := decodeR8 opcode

def decodeR16 (opcode : Byte) : R16 :=
  match ((opcode >>> 4) &&& 0x03#8).toNat with
  | 0 => .bc
  | 1 => .de
  | 2 => .hl
  | _ => .sp

def decodeR16Stack (opcode : Byte) : R16Stack :=
  match ((opcode >>> 4) &&& 0x03#8).toNat with
  | 0 => .bc
  | 1 => .de
  | 2 => .hl
  | _ => .af

def decodeCondition (opcode : Byte) : Condition :=
  match ((opcode >>> 3) &&& 0x03#8).toNat with
  | 0 => .nz
  | 1 => .z
  | 2 => .nc
  | _ => .c

namespace Core

variable {σ : Type} [CpuBus σ]

variable (s : Core σ)

def accessR16 (reg : R16) : Addr :=
  match reg with
  | .bc => s.bc
  | .de => s.de
  | .hl => s.hl
  | .sp => s.sp

def assignR16 (reg : R16) (value : Addr) : Core σ :=
  match reg with
  | .bc => { s with bc := value }
  | .de => { s with de := value }
  | .hl => { s with hl := value }
  | .sp => { s with sp := value }

def accessStackR16 (reg : R16Stack) : Addr :=
  match reg with
  | .bc => s.bc
  | .de => s.de
  | .hl => s.hl
  | .af => s.af

def assignStackR16 (reg : R16Stack) (value : Addr) : Core σ :=
  match reg with
  | .bc => { s with bc := value }
  | .de => { s with de := value }
  | .hl => { s with hl := value }
  | .af => { s with af := value }

def readR8 (reg : R8) : Byte :=
  match reg with
  | .b => hi s.bc
  | .c => lo s.bc
  | .d => hi s.de
  | .e => lo s.de
  | .h => hi s.hl
  | .l => lo s.hl
  | .hlIndirect => s.read8 s.hl
  | .a => hi s.af

def writeR8 (reg : R8) (value : Byte) : Core σ :=
  match reg with
  | .b => { s with bc := setHi s.bc value }
  | .c => { s with bc := setLo s.bc value }
  | .d => { s with de := setHi s.de value }
  | .e => { s with de := setLo s.de value }
  | .h => { s with hl := setHi s.hl value }
  | .l => { s with hl := setLo s.hl value }
  | .hlIndirect => s.write8 s.hl value
  | .a => { s with af := setHi s.af value }

def flags : Byte := lo s.af

def accumulator : Byte := hi s.af

def assignFlags (value : Byte) : Core σ := { s with af := setLo s.af value }

def assignAccumulator (value : Byte) : Core σ := { s with af := setHi s.af value }

def conditionHolds (condition : Condition) : Bool :=
  match condition with
  | .nz => s.flags &&& kFlagZ == 0
  | .z => s.flags &&& kFlagZ != 0
  | .nc => s.flags &&& kFlagC == 0
  | .c => s.flags &&& kFlagC != 0

def setFlags (z n h c : Bool) : Core σ := s.assignFlags (flagByte z n h c)

def updateControlFlowPc (target : Addr) (instructionLength : Addr) : Core σ :=
  { s with pc := target - instructionLength }

/-- The popped word and the state with the stack pointer moved. -/
def pop16 : Addr × Core σ := (s.read16 s.sp, { s with sp := s.sp + 2 })

def push16 (value : Addr) : Core σ :=
  let s := { s with sp := s.sp - 2 }
  s.write16 s.sp value

/-- `(HL)` is read again only to be written back; bit tests leave the operand alone. -/
def executeCbOpcode (opcode : Byte) : Core σ :=
  let reg := decodeR8 opcode
  let oldValue := s.readR8 reg
  let carryIn := s.flags &&& kFlagC != 0
  let bit := ((opcode >>> 3) &&& 0x07#8).toNat
  match (opcode >>> 6).toNat with
  | 0 =>
    let (value, carry) : Byte × Bool :=
      match bit with
      | 0 => ((oldValue <<< 1) ||| (oldValue >>> 7), oldValue &&& 0x80#8 != 0)
      | 1 => ((oldValue >>> 1) ||| (oldValue <<< 7), oldValue &&& 0x01#8 != 0)
      | 2 => ((oldValue <<< 1) ||| (if carryIn then 1#8 else 0#8), oldValue &&& 0x80#8 != 0)
      | 3 => ((oldValue >>> 1) ||| (if carryIn then 0x80#8 else 0#8), oldValue &&& 0x01#8 != 0)
      | 4 => (oldValue <<< 1, oldValue &&& 0x80#8 != 0)
      | 5 => ((oldValue >>> 1) ||| (oldValue &&& 0x80#8), oldValue &&& 0x01#8 != 0)
      | 6 => ((oldValue >>> 4) ||| (oldValue <<< 4), false)
      | _ => (oldValue >>> 1, oldValue &&& 0x01#8 != 0)
    (s.setFlags (value == 0) false false carry).writeR8 reg value
  | 1 =>
    s.setFlags (oldValue &&& (1#8 <<< bit) == 0) false true (s.flags &&& kFlagC != 0)
  | 2 => s.writeR8 reg (oldValue &&& ~~~(1#8 <<< bit))
  | _ => s.writeR8 reg (oldValue ||| (1#8 <<< bit))

/-- `ADD`, `ADC`, `SUB`, `SBC`, `AND`, `XOR`, `OR` and `CP` on the accumulator. -/
def mathOp (code rhs : Byte) : Core σ :=
  let lhs := s.accumulator
  let carryIn := s.flags &&& kFlagC != 0
  let cin : ℕ := if carryIn then 1 else 0
  let half (b : Byte) : ℕ := (b &&& 0x0F#8).toNat
  let finish (result : Byte) (n h c : Bool) : Core σ :=
    (s.assignAccumulator result).setFlags (result == 0) n h c
  match ((code >>> 3) &&& 0x07#8).toNat with
  | 0 => finish (lhs + rhs) false (half lhs + half rhs > 0x0F) (lhs.toNat + rhs.toNat > 0xFF)
  | 1 =>
    let sum := lhs.toNat + rhs.toNat + cin
    finish (BitVec.ofNat 8 sum) false (half lhs + half rhs + cin > 0x0F) (sum > 0xFF)
  | 2 => finish (lhs - rhs) true (half lhs < half rhs) (lhs < rhs)
  | 3 =>
    let subtrahend := rhs.toNat + cin
    finish (lhs - BitVec.ofNat 8 subtrahend) true (half lhs < half rhs + cin)
      (lhs.toNat < subtrahend)
  | 4 => finish (lhs &&& rhs) false true false
  | 5 => finish (lhs ^^^ rhs) false false false
  | 6 => finish (lhs ||| rhs) false false false
  | _ => s.setFlags (lhs == rhs) true (half lhs < half rhs) (lhs < rhs)

def rotateA (code : Byte) : Core σ :=
  let carryIn := s.flags &&& kFlagC != 0
  let oldValue := s.accumulator
  match ((code >>> 3) &&& 0x03#8).toNat with
  | 0 =>
    (s.assignAccumulator ((oldValue <<< 1) ||| (oldValue >>> 7))).setFlags false false false
      (oldValue &&& 0x80#8 != 0)
  | 1 =>
    (s.assignAccumulator ((oldValue >>> 1) ||| (oldValue <<< 7))).setFlags false false false
      (oldValue &&& 0x01#8 != 0)
  | 2 =>
    (s.assignAccumulator ((oldValue <<< 1) ||| (if carryIn then 1#8 else 0#8))).setFlags
      false false false (oldValue &&& 0x80#8 != 0)
  | _ =>
    (s.assignAccumulator ((oldValue >>> 1) ||| (if carryIn then 0x80#8 else 0#8))).setFlags
      false false false (oldValue &&& 0x01#8 != 0)

def daa : Core σ :=
  let a := s.accumulator
  let n := s.flags &&& kFlagN != 0
  let h := s.flags &&& kFlagH != 0
  let c := s.flags &&& kFlagC != 0
  let (value, carry) : Byte × Bool :=
    if ¬ n then
      let adjust := if h ∨ a &&& 0x0F#8 > 0x09#8 then 0x06#8 else 0#8
      if c ∨ a > 0x99#8 then (a + (adjust ||| 0x60#8), true) else (a + adjust, c)
    else
      let adjust := if h then 0x06#8 else 0#8
      (a - (if c then adjust ||| 0x60#8 else adjust), c)
  (s.assignAccumulator value).assignFlags (flagByte (value == 0) n false carry)

def ldIndirectA (code : Byte) : Core σ :=
  let address :=
    if code = 0x02#8 ∨ code = 0x0A#8 then s.bc
    else if code = 0x12#8 ∨ code = 0x1A#8 then s.de
    else s.hl
  let s :=
    if code &&& 0x08#8 = 0 then s.write8 address s.accumulator
    else s.assignAccumulator (s.read8 address)
  if code = 0x22#8 ∨ code = 0x2A#8 then { s with hl := s.hl + 1 }
  else if code = 0x32#8 ∨ code = 0x3A#8 then { s with hl := s.hl - 1 }
  else s

def addHl (rhs : Addr) : Core σ :=
  let lhs := s.hl
  let h := (lhs &&& 0x0FFF#16).toNat + (rhs &&& 0x0FFF#16).toNat > 0x0FFF
  let c := lhs.toNat + rhs.toNat > 0xFFFF
  { s.setFlags (s.flags &&& kFlagZ != 0) false h c with hl := lhs + rhs }

/-- Half carry and carry of adding a signed byte to the low byte of the stack pointer. -/
def setSpOffsetFlags (imm : Byte) : Core σ :=
  let low := lo s.sp
  s.setFlags false false ((low &&& 0x0F#8).toNat + (imm &&& 0x0F#8).toNat > 0x0F)
    (low.toNat + imm.toNat > 0xFF)

end Core

inductive OpcodeFamily where
  | nop | stop | halt
  | ldR16Imm | incR16 | decR16 | ldAbsSp | addHlR16
  | incR8 | decR8 | ldR8Imm | rotateA | daa | cpl | scf | ccf
  | jr | jrCond | ldR8R8 | ldIndirectA
  | mathR8 | mathImm
  | retCond | ret | reti | popR16 | pushR16
  | jpCond | jp | jpHl | callCond | call | rst | prefixCb
  | ldhStoreImm | ldhLoadImm | ldhStoreC | ldhLoadC
  | addSp | ldHlSp | ldSpHl | ldAbsStore | ldAbsLoad | di | ei
  | undefined
  deriving DecidableEq

def OpcodeFamily.length (family : OpcodeFamily) : ℕ :=
  match family with
  | .ldR16Imm | .ldAbsSp | .jpCond | .jp | .callCond | .call | .ldAbsStore | .ldAbsLoad => 3
  | .stop | .ldR8Imm | .jr | .jrCond | .mathImm | .prefixCb | .ldhStoreImm | .ldhLoadImm
  | .addSp | .ldHlSp => 2
  | _ => 1

/-- The table `populateOpcodes` builds, group by group in its order. -/
def opcodeTable (opcode : Byte) : Option OpcodeFamily :=
  if opcode = 0x00#8 then some .nop
  else if opcode = 0x10#8 then some .stop
  else if opcode = 0x76#8 then some .halt
  else if opcode ∈ [0x01#8, 0x11#8, 0x21#8, 0x31#8] then some .ldR16Imm
  else if opcode ∈ [0x03#8, 0x13#8, 0x23#8, 0x33#8] then some .incR16
  else if opcode ∈ [0x0B#8, 0x1B#8, 0x2B#8, 0x3B#8] then some .decR16
  else if opcode = 0x08#8 then some .ldAbsSp
  else if opcode ∈ [0x09#8, 0x19#8, 0x29#8, 0x39#8] then some .addHlR16
  else if opcode ∈ [0x04#8, 0x0C#8, 0x14#8, 0x1C#8, 0x24#8, 0x2C#8, 0x34#8, 0x3C#8] then
    some .incR8
  else if opcode ∈ [0x05#8, 0x0D#8, 0x15#8, 0x1D#8, 0x25#8, 0x2D#8, 0x35#8, 0x3D#8] then
    some .decR8
  else if opcode ∈ [0x06#8, 0x0E#8, 0x16#8, 0x1E#8, 0x26#8, 0x2E#8, 0x36#8, 0x3E#8] then
    some .ldR8Imm
  else if opcode ∈ [0x07#8, 0x0F#8, 0x17#8, 0x1F#8] then some .rotateA
  else if opcode = 0x27#8 then some .daa
  else if opcode = 0x2F#8 then some .cpl
  else if opcode = 0x37#8 then some .scf
  else if opcode = 0x3F#8 then some .ccf
  else if opcode = 0x18#8 then some .jr
  else if opcode ∈ [0x20#8, 0x28#8, 0x30#8, 0x38#8] then some .jrCond
  else if 0x40#8 ≤ opcode ∧ opcode ≤ 0x7F#8 then some .ldR8R8
  else if opcode ∈ [0x02#8, 0x12#8, 0x22#8, 0x32#8, 0x0A#8, 0x1A#8, 0x2A#8, 0x3A#8] then
    some .ldIndirectA
  else if 0x80#8 ≤ opcode ∧ opcode ≤ 0xBF#8 then some .mathR8
  else if opcode ∈ [0xC6#8, 0xCE#8, 0xD6#8, 0xDE#8, 0xE6#8, 0xEE#8, 0xF6#8, 0xFE#8] then
    some .mathImm
  else if opcode ∈ [0xC0#8, 0xC8#8, 0xD0#8, 0xD8#8] then some .retCond
  else if opcode = 0xC9#8 then some .ret
  else if opcode = 0xD9#8 then some .reti
  else if opcode ∈ [0xC1#8, 0xD1#8, 0xE1#8, 0xF1#8] then some .popR16
  else if opcode ∈ [0xC5#8, 0xD5#8, 0xE5#8, 0xF5#8] then some .pushR16
  else if opcode ∈ [0xC2#8, 0xCA#8, 0xD2#8, 0xDA#8] then some .jpCond
  else if opcode = 0xC3#8 then some .jp
  else if opcode = 0xE9#8 then some .jpHl
  else if opcode ∈ [0xC4#8, 0xCC#8, 0xD4#8, 0xDC#8] then some .callCond
  else if opcode = 0xCD#8 then some .call
  else if opcode ∈ [0xC7#8, 0xCF#8, 0xD7#8, 0xDF#8, 0xE7#8, 0xEF#8, 0xF7#8, 0xFF#8] then
    some .rst
  else if opcode = 0xCB#8 then some .prefixCb
  else if opcode = 0xE0#8 then some .ldhStoreImm
  else if opcode = 0xF0#8 then some .ldhLoadImm
  else if opcode = 0xE2#8 then some .ldhStoreC
  else if opcode = 0xF2#8 then some .ldhLoadC
  else if opcode = 0xE8#8 then some .addSp
  else if opcode = 0xF8#8 then some .ldHlSp
  else if opcode = 0xF9#8 then some .ldSpHl
  else if opcode = 0xEA#8 then some .ldAbsStore
  else if opcode = 0xFA#8 then some .ldAbsLoad
  else if opcode = 0xF3#8 then some .di
  else if opcode = 0xFB#8 then some .ei
  else if opcode ∈ [0xD3#8, 0xDB#8, 0xED#8, 0xDD#8, 0xFD#8, 0xE3#8, 0xE4#8, 0xF4#8, 0xFC#8,
      0xEB#8, 0xEC#8] then some .undefined
  else none

def fetchImm8 (data : List Byte) (opcodeIndex : ℕ) : Byte := data.getD (opcodeIndex + 1) 0

def fetchImm16 (data : List Byte) (opcodeIndex : ℕ) : Addr :=
  word (data.getD (opcodeIndex + 1) 0) (data.getD (opcodeIndex + 2) 0)

def OpcodeFamily.cycles (family : OpcodeFamily) (data : List Byte) (opcodeIndex : ℕ) :
    OpcodeCycles :=
  match family with
  | .prefixCb => cbOpcodeCyclesFor (data.getD (opcodeIndex + 1) 0)
  | _ => opcodeCyclesFor (data.getD opcodeIndex 0)

variable {σ : Type} [CpuBus σ]

/-- The step an opcode contributes to the execution block: `imm8` and `imm16` are its
operand bytes, read when the step is built. -/
def OpcodeFamily.step (family : OpcodeFamily) (code imm8 : Byte) (imm16 : Addr)
    (s : Core σ) : Core σ :=
  match family with
  | .nop => s
  | .stop => s.setStopFlag true
  | .halt => s.setHaltFlag true
  | .ldR16Imm => s.assignR16 (decodeR16 code) imm16
  | .incR16 => s.assignR16 (decodeR16 code) (s.accessR16 (decodeR16 code) + 1)
  | .decR16 => s.assignR16 (decodeR16 code) (s.accessR16 (decodeR16 code) - 1)
  | .ldAbsSp => s.write16 imm16 s.sp
  | .addHlR16 => s.addHl (s.accessR16 (decodeR16 code))
  | .incR8 =>
    let oldValue := s.readR8 (decodeR8Dest code)
    let newValue := oldValue + 1
    let s := s.writeR8 (decodeR8Dest code) newValue
    s.setFlags (newValue == 0) false ((oldValue &&& 0x0F#8).toNat + 1 > 0x0F)
      (s.flags &&& kFlagC != 0)
  | .decR8 =>
    let oldValue := s.readR8 (decodeR8Dest code)
    let newValue := oldValue - 1
    let s := s.writeR8 (decodeR8Dest code) newValue
    s.setFlags (newValue == 0) true (oldValue &&& 0x0F#8 == 0) (s.flags &&& kFlagC != 0)
  | .ldR8Imm => s.writeR8 (decodeR8Dest code) imm8
  | .rotateA => s.rotateA code
  | .daa => s.daa
  | .cpl =>
    let s := s.assignAccumulator (~~~s.accumulator)
    s.assignFlags ((s.flags &&& (kFlagZ ||| kFlagC)) ||| kFlagN ||| kFlagH)
  | .scf =>
    let s := s.assignFlags (s.flags &&& kFlagZ)
    s.assignFlags (s.flags ||| kFlagC)
  | .ccf =>
    let carry := s.flags &&& kFlagC == 0
    let s := s.assignFlags (s.flags &&& kFlagZ)
    if carry then s.assignFlags (s.flags ||| kFlagC) else s
  | .jr => s.updateControlFlowPc (s.pc + 2 + imm8.signExtend 16) 2
  | .jrCond =>
    if s.conditionHolds (decodeCondition code) then
      s.updateControlFlowPc (s.pc + 2 + imm8.signExtend 16) 2
    else s
  | .ldR8R8 => s.writeR8 (decodeR8Dest code) (s.readR8 (decodeR8Src code))
  | .ldIndirectA => s.ldIndirectA code
  | .mathR8 => s.mathOp code (s.readR8 (decodeR8Src code))
  | .mathImm => s.mathOp code imm8
  | .retCond =>
    if s.conditionHolds (decodeCondition code) then
      let (target, s) := s.pop16
      s.updateControlFlowPc target 1
    else s
  | .ret =>
    let (target, s) := s.pop16
    s.updateControlFlowPc target 1
  | .reti =>
    let (target, s) := s.pop16
    (s.updateControlFlowPc target 1).setIme true
  | .popR16 =>
    let target := decodeR16Stack code
    let (value, s) := s.pop16
    s.assignStackR16 target (if target = .af then value &&& 0xFFF0#16 else value)
  | .pushR16 => s.push16 (s.accessStackR16 (decodeR16Stack code))
  | .jpCond =>
    if s.conditionHolds (decodeCondition code) then s.updateControlFlowPc imm16 3 else s
  | .jp => s.updateControlFlowPc imm16 3
  | .jpHl => s.updateControlFlowPc s.hl 1
  | .callCond =>
    if s.conditionHolds (decodeCondition code) then
      (s.push16 (s.pc + 3)).updateControlFlowPc imm16 3
    else s
  | .call => (s.push16 (s.pc + 3)).updateControlFlowPc imm16 3
  | .rst => (s.push16 (s.pc + 1)).updateControlFlowPc ((code &&& 0x38#8).setWidth 16) 1
  | .prefixCb => s.executeCbOpcode imm8
  | .ldhStoreImm => s.write8 (0xFF00#16 + imm8.setWidth 16) s.accumulator
  | .ldhLoadImm => s.assignAccumulator (s.read8 (0xFF00#16 + imm8.setWidth 16))
  | .ldhStoreC => s.write8 (0xFF00#16 + (lo s.bc).setWidth 16) s.accumulator
  | .ldhLoadC => s.assignAccumulator (s.read8 (0xFF00#16 + (lo s.bc).setWidth 16))
  | .addSp => { s.setSpOffsetFlags imm8 with sp := s.sp + imm8.signExtend 16 }
  | .ldHlSp => { s.setSpOffsetFlags imm8 with hl := s.sp + imm8.signExtend 16 }
  | .ldSpHl => { s with sp := s.hl }
  | .ldAbsStore => s.write8 imm16 s.accumulator
  | .ldAbsLoad => s.assignAccumulator (s.read8 imm16)
  | .di => s.setIme false
  | .ei => s.scheduleImeEnable
  | .undefined => s.lockUpOnInvalidOpcode

structure FetchBlock where
  baseAddress : Addr
  data : List Byte
  deriving DecidableEq

structure ExecutionBlock (σ : Type) where
  steps : List (ℕ × (Core σ → Core σ)) := []
  cyclesIfNotTaken : ℕ := 0
  cyclesIfTaken : ℕ := 0

def hexDigits (width value : ℕ) : String :=
  let digits := (Nat.toDigits 16 value).map Char.toUpper
  String.ofList (List.replicate (width - digits.length) '0' ++ digits)

/-- One round of the decode loop per instruction; each consumes at least one byte, so the
stream length bounds the rounds. Returns the block and the number of consumed bytes. -/
def decodeLoop (base : Addr) (data : List Byte) :
    ℕ → ℕ → ExecutionBlock σ → Except String (ExecutionBlock σ × ℕ)
  | 0, i, block => .ok (block, i)
  | rounds + 1, i, block =>
    if data.length ≤ i then .ok (block, i)
    else
      let opcodeByte := data.getD i 0
      match opcodeTable opcodeByte with
      | none =>
        .error ("unimplemented opcode 0x" ++ hexDigits 2 opcodeByte.toNat ++ " at PC=0x" ++
          hexDigits 4 (base + BitVec.ofNat 16 i).toNat)
      | some family =>
        if i + family.length > data.length then .error "truncated opcode stream"
        else
          let opcodeCycles := family.cycles data i
          let cyclesIfNotTaken := block.cyclesIfNotTaken + opcodeCycles.notTaken
          let block : ExecutionBlock σ :=
            { steps := block.steps ++
                [(cyclesIfNotTaken, family.step opcodeByte (fetchImm8 data i) (fetchImm16 data i))]
              cyclesIfNotTaken := cyclesIfNotTaken
              cyclesIfTaken := block.cyclesIfTaken + opcodeCycles.taken }
          if isControlFlowOpcode opcodeByte || isUndefinedOpcode opcodeByte then
            .ok (block, i + family.length)
          else decodeLoop base data rounds (i + family.length) block

def decodeInto (f : FetchBlock) : Except String (ExecutionBlock σ × FetchBlock) :=
  match decodeLoop f.baseAddress f.data f.data.length 0 {} with
  | .error e => .error e
  | .ok (block, consumedBytes) => .ok (block, { f with data := f.data.take consumedBytes })

namespace Core

def runSteps (s : Core σ) (steps : List (ℕ × (Core σ → Core σ))) : Core σ :=
  let s := steps.foldl
    (fun s step => step.2 { s with bus := CpuBus.beginStep step.1 s.bus }) s
  { s with bus := CpuBus.endStep s.bus }

/-- The program counter after an instruction of `executedByteCount` bytes; a pending
HALT-bug adjustment holds it back by one. -/
def advancePc (s : Core σ) (executedByteCount : ℕ) : Core σ :=
  let pcAdvance :=
    if s.haltBugPcAdjustPending ∧ executedByteCount > 0 then executedByteCount - 1
    else executedByteCount
  { s with haltBugPcAdjustPending := false, pc := s.pc + BitVec.ofNat 16 pcAdvance }

def execute (s : Core σ) (block : ExecutionBlock σ) (fb : FetchBlock) : Core σ :=
  let isControlFlow := match fb.data with
    | [] => false
    | opcode :: _ => isControlFlowOpcode opcode
  let pcBefore := s.pc
  let executedByteCount := fb.data.length
  let s := (s.runSteps block.steps).advancePc executedByteCount
  let sequentialPc := pcBefore + BitVec.ofNat 16 executedByteCount
  let retiredCycles :=
    if s.pendingCycleCharge ≠ 0 then s.pendingCycleCharge
    else if executedByteCount = 0 ∧
        (s.haltFlag ∨ s.stopFlag ∨ s.illegalOpcodeLockup ∨ CpuBus.dmaActive s.bus) then 4
    else if s.pc ≠ sequentialPc then block.cyclesIfTaken
    else block.cyclesIfNotTaken
  let s := { s with
    pendingCycleCharge := 0
    feedback :=
      { segmentBoundaryHint := isControlFlow
        isControlFlow := isControlFlow
        pcBefore := pcBefore.toNat
        pcAfter := s.pc.toNat
        retiredCycles := retiredCycles
        executionPath := .canonicalFetchDecodeExecute } }
  s.retireInstruction retiredCycles

end Core

end ProtoTime.GameBoy
