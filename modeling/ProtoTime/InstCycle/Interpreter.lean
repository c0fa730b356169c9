import ProtoTime.InstCycle.IntermediateRepresentation

/-!
The portable interpreter of lowered instructions. Everything outside the
instruction-local values is behind a host: registers, memory, helpers and the
program counter.
-/
namespace ProtoTime.IR

/-- The callbacks of a host with state `η`; memory accesses and helpers can be refused. -/
structure InterpreterHost (η : Type) where
  readRegister : ℕ → η → BitVec 64
  writeRegister : ℕ → BitVec 64 → η → η
  loadMemory : BitVec 64 → ValueType → η → Except String (BitVec 64)
  storeMemory : BitVec 64 → ValueType → BitVec 64 → η → Except String η
  callHelper : ℕ → List (BitVec 64) → η → Except String (BitVec 64 × η)
  setProgramCounter : BitVec 64 → η → η

structure InterpreterResult where
  branchTaken : Bool := false
  exitRequested : Bool := false
  cycleCondition : Bool := false
  retirementReached : Bool := false
  deriving DecidableEq

namespace Interpreter

def mask (type : ValueType) : BitVec 64 :=
  match type with
  | .bool => 0x1#64
  | .i8 => 0xFF#64
  | .i16 => 0xFFFF#64
  | .i32 => 0xFFFFFFFF#64
  | .i64 => 0xFFFFFFFFFFFFFFFF#64
  | .void => 0#64

def truncate (value : BitVec 64) (type : ValueType) : BitVec 64 := value &&& mask type

def bitWidth (type : ValueType) : ℕ :=
  match type with
  | .bool => 1
  | .i8 => 8
  | .i16 => 16
  | .i32 => 32
  | .i64 => 64
  | .void => 0

def shiftLeft (value amount : BitVec 64) (type : ValueType) : BitVec 64 :=
  let shift := (amount &&& 63#64).toNat
  if bitWidth type ≤ shift then 0 else truncate (truncate value type <<< shift) type

def shiftRightLogical (value amount : BitVec 64) (type : ValueType) : BitVec 64 :=
  let shift := (amount &&& 63#64).toNat
  if bitWidth type ≤ shift then 0 else truncate value type >>> shift

def shiftRightArithmetic (value amount : BitVec 64) (type : ValueType) : BitVec 64 :=
  let width := bitWidth type
  let shift := (amount &&& 63#64).toNat
  if width = 0 then 0
  else
    let source := truncate value type
    let negative := source &&& (1#64 <<< (width - 1)) != 0
    if width ≤ shift then if negative then mask type else 0
    else if shift = 0 then source
    else
      let shifted := source >>> shift
      let fill := mask type ^^^ ((1#64 <<< (width - shift)) - 1)
      truncate (if negative then shifted ||| fill else shifted) type

def signedLess (lhs rhs : BitVec 64) (type : ValueType) : Bool :=
  let sign := 1#64 <<< (bitWidth type - 1)
  bitWidth type != 0 && decide (truncate lhs type ^^^ sign < truncate rhs type ^^^ sign)

/-- The values computed so far and what the instruction reported. -/
structure State (η : Type) where
  values : List (BitVec 64)
  result : InterpreterResult
  host : η

variable {η : Type}

def operandValue (values : List (BitVec 64)) (operand : Operand) : Except String (BitVec 64) :=
  match operand with
  | .value id _ => (values[id]?).elim (.error "value out of range") .ok
  | .immediate payload type => .ok (truncate payload type)
  | .guestRegister id type => .ok (truncate (BitVec.ofNat 64 id) type)
  | .guestAddress address type => .ok (truncate address type)
  | .blockTarget address type => .ok (truncate address type)
  | .helper id type => .ok (truncate (BitVec.ofNat 64 id) type)

/-- The payload of an operand whatever its kind. -/
def payload : Operand → BitVec 64
  | .value id _ | .guestRegister id _ | .helper id _ => BitVec.ofNat 64 id
  | .immediate payload _ => payload
  | .guestAddress address _ | .blockTarget address _ => address

def operandType : Operand → ValueType
  | .value _ type | .immediate _ type | .guestRegister _ type | .guestAddress _ type
  | .blockTarget _ type | .helper _ type => type

def operandValues (values : List (BitVec 64)) (operands : List Operand) :
    Except String (List (BitVec 64)) :=
  operands.mapM (operandValue values)

/-- Operations that only compute, on the values of their operands. -/
def compute (opcode : Opcode) (type : ValueType) (operands : List Operand)
    (arguments : List (BitVec 64)) : Option (BitVec 64) :=
  match opcode, arguments with
  | .constant, [value] => some value
  | .add, [lhs, rhs] => some (lhs + rhs)
  | .subtract, [lhs, rhs] => some (lhs - rhs)
  | .multiply, [lhs, rhs] => some (lhs * rhs)
  | .bitAnd, [lhs, rhs] => some (lhs &&& rhs)
  | .bitOr, [lhs, rhs] => some (lhs ||| rhs)
  | .bitXor, [lhs, rhs] => some (lhs ^^^ rhs)
  | .shiftLeft, [value, amount] => some (shiftLeft value amount type)
  | .shiftRightLogical, [value, amount] => some (shiftRightLogical value amount type)
  | .shiftRightArithmetic, [value, amount] => some (shiftRightArithmetic value amount type)
  | .bitNot, [value] => some (~~~value)
  | .compareEqual, [lhs, rhs] => some (if lhs = rhs then 1 else 0)
  | .compareNotEqual, [lhs, rhs] => some (if lhs ≠ rhs then 1 else 0)
  | .compareUnsignedLess, [lhs, rhs] => some (if lhs < rhs then 1 else 0)
  | .compareSignedLess, [lhs, rhs] =>
    some (if signedLess lhs rhs ((operands.map operandType).headD .void) then 1 else 0)
  | .select, [condition, whenTrue, whenFalse] =>
    some (if condition ≠ 0 then whenTrue else whenFalse)
  | _, _ => none

/-- The value of an operation and the state after its effect. -/
def executeOperation (host : InterpreterHost η) (operation : Operation) (s : State η) :
    Except String (BitVec 64 × State η) :=
  match operandValues s.values operation.operands with
  | .error message => .error message
  | .ok arguments =>
    match operation.opcode, operation.operands, arguments with
    | .readRegister, [.guestRegister id _], _ => .ok (host.readRegister id s.host, s)
    | .writeRegister, [.guestRegister id _, _], [_, value] =>
      .ok (0, { s with host := host.writeRegister id value s.host })
    | .loadMemory, _, [address] =>
      match host.loadMemory address operation.resultType s.host with
      | .error message => .error message
      | .ok value => .ok (value, s)
    | .storeMemory, [_, stored], [address, value] =>
      match host.storeMemory address (operandType stored) value s.host with
      | .error message => .error message
      | .ok h => .ok (0, { s with host := h })
    | .setProgramCounter, _, [address] =>
      .ok (0, { s with host := host.setProgramCounter address s.host })
    | .branch, [target], _ =>
      .ok (0, { s with
        host := host.setProgramCounter (payload target) s.host
        result := { s.result with branchTaken := true } })
    | .branchIf, [_, target], [condition, _] =>
      if condition ≠ 0 then
        .ok (0, { s with
          host := host.setProgramCounter (payload target) s.host
          result := { s.result with branchTaken := true } })
      else .ok (0, s)
    | .callHelper, .helper id _ :: _, _ :: rest =>
      match host.callHelper id rest s.host with
      | .error message => .error message
      | .ok (value, h) => .ok (value, { s with host := h })
    | .exit, _, _ => .ok (0, { s with result := { s.result with exitRequested := true } })
    | .retireInstruction, _, _ =>
      .ok (0, { s with result := { s.result with retirementReached := true } })
    | opcode, operands, _ =>
      match compute opcode operation.resultType operands arguments with
      | some value => .ok (value, s)
      | none => .error "unknown portable IR opcode"

/-- The operations in order. After an exit only the retirement runs, and nothing runs after it. -/
def executeOperations (host : InterpreterHost η) : List Operation → State η →
    Except String (State η)
  | [], s => .ok s
  | operation :: operations, s =>
    if s.result.exitRequested ∧ operation.opcode ≠ .retireInstruction then
      executeOperations host operations s
    else
      match executeOperation host operation s with
      | .error message => .error message
      | .ok (value, s) =>
        let s := match operation.result with
          | some id => { s with values := s.values.set id (truncate value operation.resultType) }
          | none => s
        if s.result.retirementReached then .ok s else executeOperations host operations s

def execute (host : InterpreterHost η) (instruction : GuestInstruction) (h : η) :
    Except String (InterpreterResult × η) :=
  let maxValue := (instruction.operations.filterMap (·.result)).foldl max 0
  match executeOperations host instruction.operations
      ⟨List.replicate (maxValue + 1) 0, {}, h⟩ with
  | .error message => .error message
  | .ok s =>
    match instruction.takenCondition with
    | none => .ok (s.result, s.host)
    | some condition =>
      match s.values[condition]? with
      | none => .error "value out of range"
      | some value => .ok ({ s.result with cycleCondition := value != 0 }, s.host)

/-- A reflexive and transitive relation that every callback keeps between the host states before
and after. -/
structure Respects (host : InterpreterHost η) (R : η → η → Prop) : Prop where
  refl : ∀ h, R h h
  trans : ∀ {h h' h''}, R h h' → R h' h'' → R h h''
  writeRegister : ∀ id value h, R h (host.writeRegister id value h)
  storeMemory : ∀ {address type value h h'}, host.storeMemory address type value h = .ok h' → R h h'
  callHelper : ∀ {id arguments h value h'}, host.callHelper id arguments h = .ok (value, h') → R h h'
  setProgramCounter : ∀ value h, R h (host.setProgramCounter value h)

variable {R : η → η → Prop} {host : InterpreterHost η}

theorem executeOperation_respects
    (hR : Respects host R) {operation : Operation} {s s' : State η} {value : BitVec 64}
    (h : executeOperation host operation s = .ok (value, s')) : R s.host s'.host := by
  unfold executeOperation at h
  split at h
  · cases h
  · split at h
    · cases h
      exact hR.refl _
    · cases h
      exact hR.writeRegister _ _ _
    · split at h <;> cases h
      exact hR.refl _
    · split at h <;> cases h
      exact hR.storeMemory ‹_›
    · cases h
      exact hR.setProgramCounter _ _
    · cases h
      exact hR.setProgramCounter _ _
    · split at h <;> cases h
      · exact hR.setProgramCounter _ _
      · exact hR.refl _
    · split at h <;> cases h
      exact hR.callHelper ‹_›
    · cases h
      exact hR.refl _
    · cases h
      exact hR.refl _
    · split at h <;> cases h
      exact hR.refl _

theorem executeOperations_respects
    (hR : Respects host R) {operations : List Operation} {s s' : State η}
    (h : executeOperations host operations s = .ok s') : R s.host s'.host := by
  induction operations generalizing s with
  | nil =>
    cases h
    exact hR.refl _
  | cons operation operations ih =>
    unfold executeOperations at h
    split at h
    · exact ih h
    · split at h
      · cases h
      · rename_i value t hop
        have hfirst := executeOperation_respects hR hop
        dsimp only at h
        split at h <;> split at h
        · cases h
          exact hfirst
        · have hrest := ih h
          exact hR.trans hfirst hrest
        · cases h
          exact hfirst
        · have hrest := ih h
          exact hR.trans hfirst hrest

theorem execute_respects (hR : Respects host R)
    {instruction : GuestInstruction} {h h' : η} {result : InterpreterResult}
    (he : execute host instruction h = .ok (result, h')) : R h h' := by
  unfold execute at he
  dsimp only at he
  split at he
  · cases he
  · rename_i s hs
    have hrun := executeOperations_respects hR hs
    split at he
    · cases he
      exact hrun
    · split at he <;> cases he
      exact hrun

end Interpreter

end ProtoTime.IR
