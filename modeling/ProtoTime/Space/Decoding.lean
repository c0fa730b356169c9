import Mathlib.Data.List.TakeWhile
import ProtoTime.GameBoy.Bytes

/-!
The offline decoding of Z80 instructions: how many bytes an encoding takes and where a direct
transfer of control leads.
-/
namespace ProtoTime.Space
open GameBoy (Byte Addr lo word)

def isIndexPrefix (byte : Byte) : Bool := byte == 0xDD#8 || byte == 0xFD#8

/-- The bytes from the opcode on, ED apart. -/
def suffixLength (indexed : Bool) (op : Byte) : ℕ :=
  if op = 0xCB#8 then if indexed then 3 else 2
  else if op < 0x40#8 then
    if op &&& 7#8 = 0#8 ∧ 0x10#8 ≤ op then 2
    else if op &&& 15#8 = 1#8 then 3
    else if (op &&& 15#8 = 2#8 ∨ op &&& 15#8 = 10#8) ∧ 0x20#8 ≤ op then 3
    else if op &&& 7#8 = 6#8 then if indexed ∧ (op >>> 3) &&& 7#8 = 6#8 then 3 else 2
    else if indexed ∧ (op >>> 3) &&& 7#8 = 6#8 ∧ (op &&& 7#8 = 4#8 ∨ op &&& 7#8 = 5#8) then 2
    else 1
  else if op < 0xC0#8 then
    if indexed ∧ op ≠ 0x76#8 ∧
        (op &&& 7#8 = 6#8 ∨ op < 0x80#8 ∧ (op >>> 3) &&& 7#8 = 6#8) then 2
    else 1
  else if op &&& 0xC7#8 = 0xC2#8 ∨ op &&& 0xC7#8 = 0xC4#8 ∨ op = 0xC3#8 ∨ op = 0xCD#8 then 3
  else if op &&& 0xC7#8 = 0xC6#8 ∨ op = 0xD3#8 ∨ op = 0xDB#8 then 2
  else 1

/-- The required length of an encoding; zero where a prefix or an opcode byte is missing. A chain
of index prefixes through the whole address space is an encoding of its own. -/
def z80InstructionLength (bytes : List Byte) : ℕ :=
  let prefixes := (bytes.takeWhile isIndexPrefix).length
  if 65536 ≤ prefixes then 65536
  else
    match bytes[prefixes]? with
    | none => 0
    | some op =>
      if op = 0xED#8 then
        match bytes[prefixes + 1]? with
        | none => 0
        | some ed => prefixes + if ed &&& 0xC7#8 = 0x43#8 then 4 else 2
      else prefixes + suffixLength (decide (prefixes ≠ 0)) op

inductive Flow where
  | fallthrough | boundary | branch | call | ret | indirect | halt | stop
  deriving DecidableEq

def Flow.name : Flow → String
  | .fallthrough => "fallthrough"
  | .boundary => "boundary"
  | .branch => "branch"
  | .call => "call"
  | .ret => "return"
  | .indirect => "indirect"
  | .halt => "halt"
  | .stop => "stop"

/-- What an encoding says about its instruction. The registers read and written are masks. -/
structure OperandInfo where
  reads : BitVec 32 := 0
  writes : BitVec 32 := 0
  text : String := ""
  flow : Flow := .fallthrough
  conditional : Bool := false
  target : Addr := 0
  direct : Bool := false
  taken : Bool := false

namespace OperandInfo

def rd (mask : BitVec 32) (d : OperandInfo) : OperandInfo := { d with reads := d.reads ||| mask }

def wr (mask : BitVec 32) (d : OperandInfo) : OperandInfo := { d with writes := d.writes ||| mask }

def rdIf (condition : Bool) (mask : BitVec 32) (d : OperandInfo) : OperandInfo :=
  if condition then d.rd mask else d

def wrIf (condition : Bool) (mask : BitVec 32) (d : OperandInfo) : OperandInfo :=
  if condition then d.wr mask else d

def named (text : String) (d : OperandInfo) : OperandInfo := { d with text := text }

/-- A transfer whose target the encoding gives. -/
def directTo (target : Addr) (d : OperandInfo) : OperandInfo :=
  { d with direct := true, target := target }

end OperandInfo

def hex (width : ℕ) (value : ℕ) : String :=
  let digits := Nat.toDigits 16 value
  "$" ++ String.ofList (List.replicate (width - digits.length) '0' ++ digits)

/-- The middle and the low octal digit of an opcode. -/
def octalY (op : Byte) : ℕ := op.toNat / 8 % 8

def octalZ (op : Byte) : ℕ := op.toNat % 8

def maskA : BitVec 32 := 1
def maskF : BitVec 32 := 2
def maskBC : BitVec 32 := 12
def maskDE : BitVec 32 := 48
def maskHL : BitVec 32 := 192
def maskSP : BitVec 32 := 256

def bit (n : ℕ) : BitVec 32 := 1#32 <<< n

/-- The mask of HL, or of the index register a prefix selects. -/
def z80Hl (index : ℕ) : BitVec 32 := if index ≠ 0 then bit index else maskHL

def z80Register (index n : ℕ) : BitVec 32 :=
  [4, 8, 16, 32, if index ≠ 0 then z80Hl index else 64, if index ≠ 0 then z80Hl index else 128,
    z80Hl index, maskA].getD n 0

def z80Pair (index n : ℕ) : BitVec 32 := [maskBC, maskDE, z80Hl index, maskSP].getD n 0

def z80Name (index n : ℕ) : String :=
  ["B", "C", "D", "E", if index = 0 then "H" else if index = 10 then "IXH" else "IYH",
    if index = 0 then "L" else if index = 10 then "IXL" else "IYL",
    if index = 0 then "[HL]" else if index = 10 then "[IX+d]" else "[IY+d]", "A"].getD n ""

/-- Whether the flags meet a condition code. -/
def z80Condition (flags : Byte) (n : ℕ) : Bool :=
  (flags &&& [0x40#8, 0x40#8, 1#8, 1#8, 4#8, 4#8, 0x80#8, 0x80#8].getD n 0 != 0) == (n % 2 == 1)

/-- A transfer of control that always happens. -/
def OperandInfo.always (flow : Flow) (d : OperandInfo) : OperandInfo :=
  { d with flow := flow, conditional := false, taken := true }

def OperandInfo.onFlags (flow : Flow) (holds : Bool) (d : OperandInfo) : OperandInfo :=
  { d with flow := flow, conditional := true, taken := holds }.rd maskF

def decodeZ80Cb (index : ℕ) (operands : List Byte) (d : OperandInfo) : OperandInfo :=
  let operands := if index ≠ 0 then operands.drop 1 else operands
  let cb := operands.headD 0
  let operand := octalZ cb
  let r := z80Register index operand
  let d := d.rd (if index ≠ 0 then z80Hl index else r)
  let d := d.wrIf (decide (cb < 128#8)) maskF
  let d := d.rdIf (decide (64#8 ≤ cb ∧ cb < 128#8)) maskF
  let d := d.rdIf (decide (cb < 64#8) && octalY cb == 2) maskF
  let d := d.rdIf (decide (cb < 64#8) && octalY cb == 3) maskF
  let d := d.wrIf (cb >>> 6 != 1#8 && operand != 6)
    (if index ≠ 0 then if operand = 4 then 64 else if operand = 5 then 128 else r else r)
  d.named ((if cb < 64#8 then "rotate " else if cb < 128#8 then "BIT "
    else if cb < 192#8 then "RES " else "SET ") ++ z80Name index (if index ≠ 0 then 6 else operand))

/-- Index prefixes are ignored for ED encodings. -/
def decodeZ80Ed (ed : Byte) (pc after : Addr) (d : OperandInfo) : OperandInfo :=
  let r := z80Register 0 (octalY ed)
  let pair := z80Pair 0 (ed.toNat / 16 % 4)
  let d := (d.named ("ED " ++ hex 2 ed.toNat)).rd (bit 21)
  if ed &&& 0xC7#8 = 0x40#8 then
    ((d.rd (maskBC ||| maskF)).wrIf (octalY ed != 6) r).wr maskF
  else if ed &&& 0xC7#8 = 0x41#8 then (d.rd maskBC).rdIf (octalY ed != 6) r
  else if ed &&& 0xCF#8 = 0x42#8 ∨ ed &&& 0xCF#8 = 0x4A#8 then
    (d.rd (maskHL ||| pair ||| maskF)).wr (maskHL ||| maskF)
  else if ed &&& 0xCF#8 = 0x43#8 then d.rd pair
  else if ed &&& 0xCF#8 = 0x4B#8 then d.wr pair
  else if ed &&& 0xC7#8 = 0x44#8 then (d.rd maskA).wr (maskA ||| maskF)
  else if ed &&& 0xC7#8 = 0x45#8 then
    ((d.rd (maskSP ||| bit 23)).wr (maskSP ||| bit 22 ||| bit 24)).always .ret
  else if ed &&& 0xC7#8 = 0x46#8 then d.wr (bit 25)
  else if ed = 0x47#8 ∨ ed = 0x4F#8 then
    (d.rd maskA).wr (bit (if ed = 0x47#8 then 20 else 21))
  else if ed = 0x57#8 ∨ ed = 0x5F#8 then
    (d.rd (maskF ||| bit 23 ||| bit (if ed = 0x57#8 then 20 else 21))).wr (maskA ||| maskF)
  else if ed = 0x67#8 ∨ ed = 0x6F#8 then (d.rd (maskA ||| maskHL ||| maskF)).wr (maskA ||| maskF)
  else if ed &&& 0xE4#8 = 0xA0#8 then
    let kind := ed.toNat % 4
    let d := (d.rd (maskBC ||| maskHL ||| maskF)).wr (maskBC ||| maskHL ||| maskF)
    let d := if kind = 0 then (d.rd (maskDE ||| maskA)).wr maskDE
      else if kind = 1 then d.rd maskA else d
    if ed &&& 0x10#8 ≠ 0#8 then
      { (d.onFlags .branch false).directTo pc with taken := after == pc }
    else d
  else d

/-- The opcodes of the last table, those no group of the others holds. -/
def decodeZ80Rest (index : ℕ) (op : Byte) (operands : List Byte) (next after : Addr)
    (flags : Byte) (d : OperandInfo) : OperandInfo :=
  let HL := z80Hl index
  let displaced := next + (operands.headD 0).signExtend 16
  let immediate := word (operands.getD 0 0) (operands.getD 1 0)
  if op = 0x00#8 then d.named "NOP"
  else if op = 0x02#8 then d.rd (maskA ||| maskBC)
  else if op = 0x12#8 then d.rd (maskA ||| maskDE)
  else if op = 0x0A#8 then (d.rd maskBC).wr maskA
  else if op = 0x1A#8 then (d.rd maskDE).wr maskA
  else if op = 0x07#8 ∨ op = 0x0F#8 ∨ op = 0x17#8 ∨ op = 0x1F#8 then
    (d.rd (maskA ||| maskF)).wr (maskA ||| maskF)
  else if op = 0x08#8 then
    (d.rd (maskA ||| maskF ||| (3#32 <<< 12))).wr (maskA ||| maskF ||| (3#32 <<< 12))
  else if op = 0x10#8 then
    { ((d.rd 4).wr 4).directTo displaced with
      flow := .branch, conditional := true, taken := after != next }
  else if op = 0x18#8 then (d.always .branch).directTo displaced
  else if op = 0x20#8 ∨ op = 0x28#8 ∨ op = 0x30#8 ∨ op = 0x38#8 then
    (d.onFlags .branch (z80Condition flags (if 0x30#8 ≤ op then if op = 0x38#8 then 3 else 2
      else if op = 0x28#8 then 1 else 0))).directTo displaced
  else if op = 0x22#8 then d.rd HL
  else if op = 0x2A#8 then d.wr HL
  else if op = 0x32#8 then d.rd maskA
  else if op = 0x3A#8 then d.wr maskA
  else if op = 0x27#8 ∨ op = 0x2F#8 then (d.rd (maskA ||| maskF)).wr (maskA ||| maskF)
  else if op = 0x37#8 ∨ op = 0x3F#8 then (d.rd (maskA ||| maskF)).wr maskF
  else if op = 0x76#8 then (d.wr (bit 26)).always .halt
  else if op = 0xC3#8 then (d.always .branch).directTo immediate
  else if op = 0xC9#8 then ((d.rd maskSP).wr maskSP).always .ret
  else if op = 0xCD#8 then (((d.rd maskSP).wr maskSP).always .call).directTo immediate
  else if op = 0xD3#8 then d.rd maskA
  else if op = 0xDB#8 then (d.rd maskA).wr maskA
  else if op = 0xD9#8 then
    (d.rd (maskBC ||| maskDE ||| maskHL ||| (0x3F#32 <<< 14))).wr
      (maskBC ||| maskDE ||| maskHL ||| (0x3F#32 <<< 14))
  else if op = 0xE3#8 then (d.rd (maskSP ||| HL)).wr HL
  else if op = 0xE9#8 then (d.rd HL).always .indirect
  else if op = 0xEB#8 then (d.rd (maskDE ||| maskHL)).wr (maskDE ||| maskHL)
  else if op = 0xF3#8 ∨ op = 0xFB#8 then d.wr (bit 22 ||| bit 23 ||| bit 24 ||| bit 27)
  else if op = 0xF9#8 then (d.rd HL).wr maskSP
  else d

/-- LD H/L,(IX+d) and LD (IX+d),H/L retain ordinary H/L. -/
def z80MoveOperand (index source destination n : ℕ) : BitVec 32 :=
  if index ≠ 0 ∧ (source = 6 ∨ destination = 6) ∧ n = 4 then 64
  else if index ≠ 0 ∧ (source = 6 ∨ destination = 6) ∧ n = 5 then 128
  else z80Register index n

/-- The opcode behind the prefixes; `next` is the address behind the instruction. -/
def decodeZ80Opcode (index : ℕ) (op : Byte) (operands : List Byte) (pc next after : Addr)
    (flags : Byte) (d : OperandInfo) : OperandInfo :=
  let y := octalY op
  let z := octalZ op
  let r := z80Register index
  let pair := z80Pair index (op.toNat / 16 % 4)
  let d := d.named ("Z80 " ++ hex 2 op.toNat)
  if op = 0xCB#8 then decodeZ80Cb index operands d
  else if op = 0xED#8 then decodeZ80Ed (operands.headD 0) pc after d
  else if 0x40#8 ≤ op ∧ op < 0x80#8 ∧ op ≠ 0x76#8 then
    let d := d.rd (z80MoveOperand index z y z)
    let d := if y = 6 then d.rd (z80Hl index) else d.wr (z80MoveOperand index z y y)
    d.named ("LD " ++ z80Name index y ++ ", " ++ z80Name index z)
  else if 0x80#8 ≤ op ∧ op < 0xC0#8 then
    (((d.rd (maskA ||| r z)).wr maskF).wrIf (y != 7) maskA).rdIf (y == 1 || y == 3) maskF
  else if op < 0x40#8 ∧ op &&& 7#8 = 6#8 then if y = 6 then d.rd (z80Hl index) else d.wr (r y)
  else if op < 0x40#8 ∧ (op &&& 7#8 = 4#8 ∨ op &&& 7#8 = 5#8) then
    ((d.rd (r y ||| maskF)).wr maskF).wrIf (y != 6) (r y)
  else if op < 0x40#8 ∧ op &&& 15#8 = 1#8 then d.wr pair
  else if op < 0x40#8 ∧ (op &&& 15#8 = 3#8 ∨ op &&& 15#8 = 11#8) then (d.rd pair).wr pair
  else if op < 0x40#8 ∧ op &&& 15#8 = 9#8 then
    (d.rd (z80Hl index ||| pair ||| maskF)).wr (z80Hl index ||| maskF)
  else if op &&& 0xC7#8 = 0xC0#8 then
    let d := d.onFlags .ret (z80Condition flags y)
    if d.taken then (d.rd maskSP).wr maskSP else d
  else if op &&& 0xC7#8 = 0xC2#8 ∨ op &&& 0xC7#8 = 0xC4#8 then
    let d := (d.onFlags (if op &&& 7#8 = 4#8 then .call else .branch)
      (z80Condition flags y)).directTo (word (operands.getD 0 0) (operands.getD 1 0))
    if d.flow = .call ∧ d.taken = true then (d.rd maskSP).wr maskSP else d
  else if op &&& 0xCF#8 = 0xC1#8 then
    (d.rd maskSP).wr (maskSP ||| if op >>> 4 = 3#8 then maskA ||| maskF else pair)
  else if op &&& 0xCF#8 = 0xC5#8 then
    (d.rd (maskSP ||| if op >>> 4 = 3#8 then maskA ||| maskF else pair)).wr maskSP
  else if op &&& 0xC7#8 = 0xC6#8 then
    (((d.rd maskA).wr maskF).wrIf (y != 7) maskA).rdIf (y == 1 || y == 3) maskF
  else if op &&& 0xC7#8 = 0xC7#8 then
    (((d.rd maskSP).wr maskSP).always .call).directTo ((op &&& 0x38#8).setWidth 16)
  else decodeZ80Rest index op operands next after flags d

/-- The decoding of a Z80 encoding executed at `pc` with the program counter left at `after`. -/
def decodeZ80 (bytes : List Byte) (pc after : Addr) (flags : Byte) : OperandInfo :=
  let d : OperandInfo := { reads := bit 9, writes := bit 9 ||| bit 21 }
  if bytes.isEmpty then { d with flow := .boundary, text := "interrupt / stall" }
  else
    let index := match (bytes.takeWhile isIndexPrefix).getLast? with
      | none => 0
      | some last => if last = 0xDD#8 then 10 else 11
    match bytes.dropWhile isIndexPrefix with
    | [] => d.named "index-prefix wrap"
    | op :: operands =>
      decodeZ80Opcode index op operands pc (pc + BitVec.ofNat 16 bytes.length) after flags d

structure DirectTarget where
  direct : Bool := false
  address : Addr := 0
  deriving DecidableEq

def z80DirectOpcode (op : Byte) (operands : List Byte) (pc next : Addr) : DirectTarget :=
  if op ∈ [0x10#8, 0x18#8, 0x20#8, 0x28#8, 0x30#8, 0x38#8] then
    match operands with
    | [] => {}
    | d :: _ => ⟨true, next + d.signExtend 16⟩
  else if op = 0xC3#8 ∨ op = 0xCD#8 ∨ op &&& 0xC7#8 = 0xC2#8 ∨ op &&& 0xC7#8 = 0xC4#8 then
    match operands with
    | low :: high :: _ => ⟨true, word low high⟩
    | _ => {}
  else if op &&& 0xC7#8 = 0xC7#8 then ⟨true, (op &&& 0x38#8).setWidth 16⟩
  else if op = 0xED#8 ∧ operands ≠ [] ∧ operands.headD 0 &&& 0xE4#8 = 0xA0#8 ∧
      operands.headD 0 &&& 0x10#8 ≠ 0#8 then ⟨true, pc⟩
  else {}

def z80DirectTarget (bytes : List Byte) (pc : Addr) : DirectTarget :=
  match bytes.dropWhile isIndexPrefix with
  | [] => {}
  | op :: operands => z80DirectOpcode op operands pc (pc + BitVec.ofNat 16 bytes.length)

def gbName (n : ℕ) : String := z80Name 0 n

def gbPairName (n : ℕ) : String := ["BC", "DE", "HL", "SP"].getD n ""

def gbRotates : List String := ["RLC", "RRC", "RL", "RR", "SLA", "SRA", "SWAP", "SRL"]

def gbAlu : List String := ["ADD", "ADC", "SUB", "SBC", "AND", "XOR", "OR", "CP"]

def decodeGbCb (cb : Byte) (d : OperandInfo) : OperandInfo :=
  let y := octalY cb
  let src := octalZ cb
  let d := d.rd (z80Register 0 src)
  let d := d.wrIf (cb >>> 6 != 1#8 && src != 6) (z80Register 0 src)
  let d := if cb >>> 6 < 2#8 then
      (d.wr maskF).rdIf (y == 2 || y == 3 || cb >>> 6 == 1#8) maskF
    else d
  d.named ((if cb < 64#8 then gbRotates.getD y ""
    else (if cb < 128#8 then "BIT" else if cb < 192#8 then "RES" else "SET") ++ " " ++ toString y ++
      ",") ++ " " ++ gbName src)

/-- The opcodes that belong to no group of registers. -/
def decodeGbSwitch (op : Byte) (imm : Addr) (d : OperandInfo) : OperandInfo :=
  let pair := z80Pair 0 (op.toNat / 16 % 4)
  let pairName := gbPairName (op.toNat / 16 % 4)
  let high := if op = 0xE0#8 ∨ op = 0xF0#8 then 0xFF00#16 ||| imm else imm
  if op = 0x00#8 then d.named "NOP"
  else if op = 0x10#8 then { d.named "STOP" with flow := .stop }
  else if op = 0x76#8 then { d.named "HALT" with flow := .halt }
  else if op = 0x02#8 ∨ op = 0x12#8 then
    (d.rd (maskA ||| pair)).named ("LD [" ++ pairName ++ "], A")
  else if op = 0x0A#8 ∨ op = 0x1A#8 then
    ((d.rd pair).wr maskA).named ("LD A, [" ++ pairName ++ "]")
  else if op = 0x22#8 ∨ op = 0x32#8 then
    ((d.rd (maskA ||| maskHL)).wr maskHL).named
      (if op = 0x22#8 then "LD [HL+], A" else "LD [HL-], A")
  else if op = 0x2A#8 ∨ op = 0x3A#8 then
    ((d.rd maskHL).wr (maskA ||| maskHL)).named
      (if op = 0x2A#8 then "LD A, [HL+]" else "LD A, [HL-]")
  else if op = 0x07#8 ∨ op = 0x0F#8 ∨ op = 0x17#8 ∨ op = 0x1F#8 then
    ((d.rd maskA).rdIf (decide (0x17#8 ≤ op)) maskF).wr (maskA ||| maskF)
  else if op = 0x27#8 then ((d.rd (maskA ||| maskF)).wr (maskA ||| maskF)).named "DAA"
  else if op = 0x2F#8 then ((d.rd (maskA ||| maskF)).wr (maskA ||| maskF)).named "CPL"
  else if op = 0x37#8 ∨ op = 0x3F#8 then
    ((d.rd maskF).wr maskF).named (if op = 0x37#8 then "SCF" else "CCF")
  else if op = 0x08#8 then (d.rd maskSP).named ("LD [" ++ hex 4 imm.toNat ++ "], SP")
  else if op = 0xE0#8 ∨ op = 0xEA#8 then (d.rd maskA).named ("LD [" ++ hex 4 high.toNat ++ "], A")
  else if op = 0xE2#8 then (d.rd (maskA ||| 8)).named "LD [C], A"
  else if op = 0xF0#8 ∨ op = 0xFA#8 then (d.wr maskA).named ("LD A, [" ++ hex 4 high.toNat ++ "]")
  else if op = 0xF2#8 then ((d.rd 8).wr maskA).named "LD A, [C]"
  else if op = 0xE8#8 then ((d.rd maskSP).wr (maskSP ||| maskF)).named "ADD SP, offset"
  else if op = 0xF8#8 then ((d.rd maskSP).wr (maskHL ||| maskF)).named "LD HL, SP+offset"
  else if op = 0xF9#8 then ((d.rd maskHL).wr maskSP).named "LD SP, HL"
  else if op = 0xF3#8 then d.named "DI"
  else if op = 0xFB#8 then d.named "EI"
  else d

def gbIsJr (op : Byte) : Bool := op ∈ [0x18#8, 0x20#8, 0x28#8, 0x30#8, 0x38#8]

def gbIsJp (op : Byte) : Bool := op ∈ [0xC3#8, 0xC2#8, 0xCA#8, 0xD2#8, 0xDA#8]

def gbIsCall (op : Byte) : Bool := op ∈ [0xCD#8, 0xC4#8, 0xCC#8, 0xD4#8, 0xDC#8]

def gbIsRet (op : Byte) : Bool := op ∈ [0xC9#8, 0xD9#8, 0xC0#8, 0xC8#8, 0xD0#8, 0xD8#8]

def gbIsRst (op : Byte) : Bool := op &&& 0xC7#8 == 0xC7#8

/-- The transfers of control; `next` is the address behind the instruction. -/
def decodeGbFlow (op : Byte) (imm next : Addr) (flags : Byte) (d : OperandInfo) : OperandInfo :=
  if gbIsJr op || gbIsJp op || gbIsCall op || gbIsRet op || gbIsRst op || op == 0xE9#8 then
    let conditional := (gbIsJr op && op != 0x18#8) || (gbIsJp op && op != 0xC3#8) ||
      (gbIsCall op && op != 0xCD#8) || (gbIsRet op && op != 0xC9#8 && op != 0xD9#8)
    let condition := op.toNat / 8 % 4
    let conditionSet := flags &&& (if condition < 2 then 0x80#8 else 0x10#8) != 0#8
    let taken := !conditional || conditionSet == (condition % 2 == 1)
    let target := if gbIsJr op then next + (lo imm).signExtend 16
      else if gbIsRst op then (op &&& 0x38#8).setWidth 16 else imm
    let d := { d with
      flow := if gbIsCall op || gbIsRst op then .call else if gbIsRet op then .ret
        else if op = 0xE9#8 then .indirect else .branch
      conditional := conditional
      direct := gbIsJr op || gbIsJp op || gbIsCall op || gbIsRst op
      target := target
      taken := taken }
    let d := d.rdIf conditional maskF
    let d := d.rdIf (op == 0xE9#8) maskHL
    let d := if (gbIsCall op || gbIsRet op || gbIsRst op) && (!conditional || taken) then
        (d.rd maskSP).wr maskSP
      else d
    let d := d.named ((if gbIsCall op then "CALL " else if gbIsRet op then "RET "
      else if gbIsJr op then "JR " else if gbIsRst op then "RST " else "JP ") ++
      (if op = 0xE9#8 then "HL" else if gbIsRet op then "" else hex 4 target.toNat))
    if conditional then d.named (d.text ++ " (conditional)") else d
  else d

/-- The decoding of a Game Boy encoding. -/
def decode (b : List Byte) (pc : Addr) (flags : Byte) : OperandInfo :=
  match b with
  | [] => { flow := .boundary, text := "interrupt / stall" }
  | op :: operands =>
    let y := octalY op
    let z := octalZ op
    let r := z80Register 0
    let pair := z80Pair 0 (op.toNat / 16 % 4)
    let pairName := gbPairName (op.toNat / 16 % 4)
    let imm := word (operands.getD 0 0) (operands.getD 1 0)
    let d : OperandInfo := { reads := bit 9, writes := bit 9 }
    if op = 0xCB#8 ∧ operands.length = 1 then decodeGbCb (operands.headD 0) d
    else if 0x40#8 ≤ op ∧ op < 0x80#8 ∧ op ≠ 0x76#8 then
      let d := d.rd (r z)
      (if y = 6 then d.rd maskHL else d.wr (r y)).named ("LD " ++ gbName y ++ ", " ++ gbName z)
    else if 0x80#8 ≤ op ∧ op < 0xC0#8 then
      ((((d.rd (maskA ||| r z)).wr maskF).wrIf (y != 7) maskA).rdIf (y == 1 || y == 3) maskF).named
        (gbAlu.getD y "" ++ " A, " ++ gbName z)
    else if op < 0x40#8 ∧ op &&& 7#8 = 6#8 then
      (if y = 6 then d.rd maskHL else d.wr (r y)).named
        ("LD " ++ gbName y ++ ", " ++ hex 4 imm.toNat)
    else if op < 0x40#8 ∧ (op &&& 7#8 = 4#8 ∨ op &&& 7#8 = 5#8) then
      (((d.rd (r y ||| maskF)).wr maskF).wrIf (y != 6) (r y)).named
        ((if op &&& 1#8 ≠ 0#8 then "DEC " else "INC ") ++ gbName y)
    else if op < 0x40#8 ∧ op &&& 15#8 = 1#8 then
      (d.wr pair).named ("LD " ++ pairName ++ ", " ++ hex 4 imm.toNat)
    else if op < 0x40#8 ∧ (op &&& 15#8 = 3#8 ∨ op &&& 15#8 = 11#8) then
      ((d.rd pair).wr pair).named ((if op &&& 8#8 ≠ 0#8 then "DEC " else "INC ") ++ pairName)
    else if op < 0x40#8 ∧ op &&& 15#8 = 9#8 then
      ((d.rd (maskHL ||| pair ||| maskF)).wr (maskHL ||| maskF)).named ("ADD HL, " ++ pairName)
    else
      let d := decodeGbSwitch op imm (d.named ("OP " ++ hex 4 op.toNat))
      let d := if op &&& 0xC7#8 = 0xC6#8 then
          (((d.rd maskA).wr maskF).wrIf (y != 7) maskA).rdIf (y == 1 || y == 3) maskF
        else d
      let d := if op &&& 0xCF#8 = 0xC1#8 then
          ((d.rd maskSP).wr
            (maskSP ||| if op = 0xF1#8 then maskA ||| maskF else pair)).named "POP"
        else d
      let d := if op &&& 0xCF#8 = 0xC5#8 then
          ((d.rd (maskSP ||| if op = 0xF5#8 then maskA ||| maskF else pair)).wr maskSP).named
            "PUSH"
        else d
      decodeGbFlow op imm (pc + BitVec.ofNat 16 b.length) flags d

end ProtoTime.Space
