import ProtoTime.InstCycle.ExtendedLowering
import ProtoTime.InstCycle.HostCalls

/-!
Rules for running an instruction as a program of host calls over a host with a
state. An instruction that has not ended is its remaining operations, its values,
whether it branched and the state of the host; there is one rule for each operation
that the research lowerings emit, and one for the retirement.
-/
namespace ProtoTime.IR.Interpreter

universe u

variable {η : Type} (host : HostCall → StateT η (Except String) (BitVec 64))

/-- The remaining operations of an instruction that has neither exited nor retired. -/
def resume (operations : List Operation) (values : List (BitVec 64)) (branched : Bool) (h : η) :
    Except String ((List (BitVec 64) × InterpreterResult) × η) :=
  operationsCalls host operations values { branchTaken := branched } h

variable {host} {h h' : η} {operation : Operation} {operations : List Operation}
  {values : List (BitVec 64)} {branched branched' : Bool}

theorem resume_cons (value : BitVec 64)
    (he : operationCalls host operation values { branchTaken := branched } h =
      .ok ((value, { branchTaken := branched' }), h')) :
    resume host (operation :: operations) values branched h =
      resume host operations (assignResult operation value values) branched' h' := by
  change (operationCalls host operation values { branchTaken := branched } h >>= _) = _
  rw [he]
  rfl

section Rules

variable {id lhs rhs : ℕ} {type : ValueType} {x y : BitVec 64}

theorem resume_reg {number : ℕ} (hcall : host (.readRegister number type) h = .ok (x, h')) :
    resume host (Research.reg number type id :: operations) values branched h =
      resume host operations (values.set id (truncate x type)) branched h' := by
  refine resume_cons x ?_
  change (host (.readRegister number type) h >>= _) = _
  rw [hcall]
  rfl

theorem resume_constant (payload : BitVec 64) :
    resume host (Research.constant payload type id :: operations) values branched h =
      resume host operations (values.set id (truncate (truncate payload type) type)) branched h :=
  resume_cons _ rfl

theorem resume_write {number : ℕ} (hx : values[id]? = some x)
    (hcall : host (.writeRegister number type x) h = .ok (y, h')) :
    resume host (Research.write number id type :: operations) values branched h =
      resume host operations values branched h' := by
  refine resume_cons 0 ?_
  have hvalues : operandValues values [.guestRegister number type, .value id type] =
      .ok [truncate (BitVec.ofNat 64 number) type, x] := by
    simp [operandValues, operandValue, hx, bind, Except.bind, pure, Except.pure]
  unfold operationCalls
  dsimp only [Research.write]
  rw [hvalues]
  change (host (.writeRegister number type x) h >>= _) = _
  rw [hcall]
  rfl

theorem resume_binary {opcode : Opcode} {first second : Operand} {z : BitVec 64}
    (hop : opcode ∈ [.add, .subtract, .bitAnd, .compareEqual, .compareNotEqual])
    (hvalues : operandValues values [first, second] = .ok [x, y])
    (hcompute : compute opcode type [first, second] [x, y] = some z) :
    resume host
        ({ opcode := opcode
           result := some id
           resultType := type
           operands := [first, second] } :: operations) values branched h =
      resume host operations (values.set id (truncate z type)) branched h := by
  refine resume_cons z ?_
  unfold operationCalls
  rw [hvalues]
  simp only [List.mem_cons, List.not_mem_nil, or_false] at hop
  rcases hop with rfl | rfl | rfl | rfl | rfl
  all_goals
    simp only [raise, pure_bind, hcompute]
    rfl

theorem resume_add {n : BitVec 64} {sub : Bool} (hx : values[lhs]? = some x) (hne : id ≠ lhs)
    (hlt : id < values.length) :
    resume host (Research.add lhs n sub id ++ operations) values branched h =
      resume host operations
        ((values.set id (truncate (truncate n .i16) .i16)).set (id + 1)
          (truncate (if sub then x - truncate (truncate n .i16) .i16
            else x + truncate (truncate n .i16) .i16) .i16)) branched h := by
  refine Eq.trans (resume_constant n) ?_
  generalize truncate (truncate n .i16) .i16 = c
  have hvalues : operandValues (values.set id c) [.value lhs .i16, .value id .i16] =
      .ok [x, c] := by
    simp [operandValues, operandValue, hx, hne, hlt, bind, Except.bind, pure, Except.pure]
  cases sub with
  | true => exact resume_binary (by simp) hvalues rfl
  | false => exact resume_binary (by simp) hvalues rfl

theorem resume_load {address : ℕ} (hx : values[address]? = some x)
    (hcall : host (.loadMemory x .i8 .generic) h = .ok (y, h')) :
    resume host (Research.load address id :: operations) values branched h =
      resume host operations (values.set id (truncate y .i8)) branched h' := by
  refine resume_cons y ?_
  have hvalues : operandValues values [.value address .i16] = .ok [x] := by
    simp [operandValues, operandValue, hx, bind, Except.bind, pure, Except.pure]
  unfold operationCalls
  dsimp only [Research.load]
  rw [hvalues]
  change (host (.loadMemory x .i8 .generic) h >>= _) = _
  rw [hcall]
  rfl

theorem resume_store {address stored : ℕ} {z : BitVec 64} (hx : values[address]? = some x)
    (hy : values[stored]? = some y)
    (hcall : host (.storeMemory x .i8 .generic y) h = .ok (z, h')) :
    resume host (Research.store address stored :: operations) values branched h =
      resume host operations values branched h' := by
  refine resume_cons 0 ?_
  have hvalues : operandValues values [.value address .i16, .value stored .i8] = .ok [x, y] := by
    simp [operandValues, operandValue, hx, hy, bind, Except.bind, pure, Except.pure]
  unfold operationCalls
  dsimp only [Research.store]
  rw [hvalues]
  change (host (.storeMemory x .i8 .generic y) h >>= _) = _
  rw [hcall]
  rfl

theorem resume_setProgramCounter {address : BitVec 16}
    (hcall : host (.setProgramCounter (truncate (address.setWidth 64) .i16)) h = .ok (x, h')) :
    resume host (Research.setProgramCounter address :: operations) values branched h =
      resume host operations values branched h' := by
  refine resume_cons 0 ?_
  change (host (.setProgramCounter (truncate (address.setWidth 64) .i16)) h >>= _) = _
  rw [hcall]
  rfl

theorem resume_branch {target : BitVec 64}
    (hcall : host (.setProgramCounter target) h = .ok (x, h')) :
    resume host (Research.branch target :: operations) values branched h =
      resume host operations values true h' := by
  refine resume_cons 0 ?_
  change (host (.setProgramCounter target) h >>= _) = _
  rw [hcall]
  rfl

/-- A test for equality, or for its absence. -/
theorem resume_compare {whenEqual : Bool} {first second : Operand}
    (hvalues : operandValues values [first, second] = .ok [x, y]) :
    resume host
        ({ opcode := if whenEqual then .compareEqual else .compareNotEqual
           result := some id
           resultType := .bool
           operands := [first, second] } :: operations) values branched h =
      resume host operations (values.set id (if decide (x = y) == whenEqual then 1 else 0))
        branched h := by
  have hzero : truncate 0#64 .bool = 0#64 := by decide
  have hone : truncate 1#64 .bool = 1#64 := by decide
  cases whenEqual with
  | true =>
    refine Eq.trans (resume_binary (by simp) hvalues rfl) ?_
    by_cases h : x = y
    · simp [h, hone]
    · simp [h, hzero]
  | false =>
    refine Eq.trans (resume_binary (by simp) hvalues rfl) ?_
    by_cases h : x = y
    · simp [h, hzero]
    · simp [h, hone]

theorem resume_branchIf {target : BitVec 64} {taken : Bool}
    (hx : values[id]? = some (if taken then 1 else 0))
    (hcall : host (.setProgramCounter target) h = .ok (y, h')) :
    resume host ({ opcode := .branchIf, operands := [.value id .bool, .blockTarget target] } ::
        operations) values branched h =
      resume host operations values (taken || branched) (if taken then h' else h) := by
  refine resume_cons 0 ?_
  have hvalues : operandValues values [.value id .bool, .blockTarget target] =
      .ok [if taken then 1 else 0, truncate target .i64] := by
    simp [operandValues, operandValue, hx, bind, Except.bind, pure, Except.pure]
  unfold operationCalls
  rw [hvalues]
  cases taken with
  | true =>
    change (host (.setProgramCounter target) h >>= _) = _
    rw [hcall]
    rfl
  | false => rfl

theorem resume_begin (hcall : host (.callHelper 0 .void []) h = .ok (x, h')) :
    resume host (Research.begin false ++ operations) values branched h =
      resume host operations values branched h' := by
  refine resume_cons x ?_
  change (host (.callHelper 0 .void []) h >>= _) = _
  rw [hcall]
  rfl

theorem resume_retire :
    resume host ({ opcode := .retireInstruction } :: operations) values branched h =
      .ok ((values, { branchTaken := branched, retirementReached := true }), h) :=
  rfl

theorem executeCalls_eq {instruction : GuestInstruction} {result : InterpreterResult}
    (hcondition : instruction.takenCondition = none)
    (hrun : resume host instruction.operations
      (List.replicate (valueCount instruction.operations) 0) false h = .ok ((values, result), h')) :
    executeCalls host instruction h = .ok (result, h') := by
  change (resume host instruction.operations
    (List.replicate (valueCount instruction.operations) 0) false h >>= _) = _
  rw [hrun, hcondition]
  rfl

theorem executeCalls_selecting {instruction : GuestInstruction}
    (hcondition : instruction.takenCondition = some id) (hx : values[id]? = some x)
    (hrun : resume host instruction.operations
      (List.replicate (valueCount instruction.operations) 0) false h =
        .ok ((values, { branchTaken := branched, retirementReached := true }), h')) :
    executeCalls host instruction h =
      .ok ({ branchTaken := branched, cycleCondition := x != 0, retirementReached := true }, h') := by
  have hvalue : operandValue values (.value id .bool) = .ok x := by
    simp [operandValue, hx]
  change (resume host instruction.operations
    (List.replicate (valueCount instruction.operations) 0) false h >>= _) = _
  rw [hrun, hcondition]
  change ((raise (operandValue values (.value id .bool)) : StateT η (Except String) _) h' >>= _) = _
  rw [hvalue]
  rfl

end Rules

end ProtoTime.IR.Interpreter
