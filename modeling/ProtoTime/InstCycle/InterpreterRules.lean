import ProtoTime.InstCycle.Interpreter

/-!
Rules for running lists of operations. `Runs` describes a list that neither
exits nor retires; it composes over concatenation, with one rule for each kind
of operation a lowering emits and one for a whole instruction.
-/
namespace ProtoTime.IR.Interpreter

variable {η : Type} {host : InterpreterHost η} {id : ℕ}

namespace State

/-- The instruction has neither exited nor retired. -/
def Running (s : State η) : Prop :=
  s.result.exitRequested = false ∧ s.result.retirementReached = false

def assign (s : State η) (id : ℕ) (value : BitVec 64) : State η :=
  { s with values := s.values.set id value }

def withHost (s : State η) (h : η) : State η := { s with host := h }

section Fields

variable (s : State η) (id : ℕ) (value : BitVec 64) (h : η)

@[simp] theorem assign_host : (s.assign id value).host = s.host := rfl

@[simp] theorem assign_result : (s.assign id value).result = s.result := rfl

@[simp] theorem assign_length : (s.assign id value).values.length = s.values.length :=
  List.length_set

@[simp] theorem withHost_host : (s.withHost h).host = h := rfl

@[simp] theorem withHost_result : (s.withHost h).result = s.result := rfl

@[simp] theorem withHost_values : (s.withHost h).values = s.values := rfl

@[simp] theorem assign_running : (s.assign id value).Running ↔ s.Running := Iff.rfl

theorem assign_values_self (hid : id < s.values.length) :
    (s.assign id value).values[id]? = some value := by
  simp [assign, hid]

theorem assign_values_of_ne {j : ℕ} (h : id ≠ j) :
    (s.assign id value).values[j]? = s.values[j]? := by
  simp [assign, h]

end Fields

structure Computed (id : ℕ) (s s' : State η) : Prop where
  host : s'.host = s.host
  result : s'.result = s.result
  length : s'.values.length = s.values.length
  below : ∀ j < id, s'.values[j]? = s.values[j]?

theorem assign_computed (s : State η) {j : ℕ} (h : id ≤ j) (value : BitVec 64) :
    Computed id s (s.assign j value) := by
  refine ⟨rfl, rfl, s.assign_length j value, ?_⟩
  intro i hi
  exact s.assign_values_of_ne j value (by omega)

theorem Computed.trans {s s' s'' : State η} (h : Computed id s s')
    (h' : Computed id s' s'') : Computed id s s'' := by
  refine ⟨h'.host.trans h.host, h'.result.trans h.result, h'.length.trans h.length, ?_⟩
  intro j hj
  exact (h'.below j hj).trans (h.below j hj)

end State

/-- The operations turn `s` into the running state `s'`, and what follows goes on from there. -/
def Runs (host : InterpreterHost η) (operations : List Operation) (s s' : State η) : Prop :=
  s'.Running ∧ ∀ rest,
    executeOperations host (operations ++ rest) s = executeOperations host rest s'

variable {s s' s'' : State η}

theorem Runs.nil (hs : s.Running) : Runs host [] s s := ⟨hs, fun _ => rfl⟩

theorem Runs.append {xs ys : List Operation} (h : Runs host xs s s') (h' : Runs host ys s' s'') :
    Runs host (xs ++ ys) s s'' := by
  refine ⟨h'.1, ?_⟩
  intro rest
  rw [List.append_assoc, h.2, h'.2]

variable {operation : Operation}

theorem Runs.cons {ys : List Operation} (h : Runs host [operation] s s')
    (h' : Runs host ys s' s'') : Runs host (operation :: ys) s s'' := h.append h'

variable {value : BitVec 64}

theorem Runs.assign (hs : s.Running) {h : η} (hid : operation.result = some id)
    (he : executeOperation host operation s = .ok (value, s.withHost h)) :
    Runs host [operation] s ((s.withHost h).assign id (truncate value operation.resultType)) := by
  refine ⟨hs, ?_⟩
  intro rest
  rw [List.singleton_append, executeOperations, he, hid]
  rw [if_neg fun hexit => absurd hexit.1 (by simp [hs.1])]
  dsimp only
  rw [if_neg (by simp [State.withHost, hs.2])]
  rfl

theorem Runs.effect {v : BitVec 64} (hs : s.Running)
    (hs' : s'.Running) (hid : operation.result = none)
    (he : executeOperation host operation s = .ok (v, s')) :
    Runs host [operation] s s' := by
  refine ⟨hs', ?_⟩
  intro rest
  rw [List.singleton_append, executeOperations, he, hid]
  rw [if_neg fun hexit => absurd hexit.1 (by simp [hs.1])]
  dsimp only
  rw [if_neg (by simp [hs'.2])]

theorem operandValue_value {type : ValueType} {values : List (BitVec 64)} {v : BitVec 64}
    (h : values[id]? = some v) : operandValue values (.value id type) = .ok v := by
  rw [operandValue, h]
  rfl

section Rules

variable (host : InterpreterHost η) (id : ℕ) (type : ValueType)

theorem runs_readRegister (hs : s.Running) (reg : ℕ) :
    Runs host [{ opcode := .readRegister, result := some id, resultType := type,
                 operands := [.guestRegister reg type] }] s
      (s.assign id (truncate (host.readRegister reg s.host) type)) :=
  .assign hs rfl rfl

theorem runs_constant (hs : s.Running) (payload : BitVec 64) :
    Runs host [{ opcode := .constant, result := some id, resultType := type,
                 operands := [.immediate payload type] }] s
      (s.assign id (truncate (truncate payload type) type)) :=
  .assign hs rfl rfl

variable {a : ℕ}

theorem runs_loadMemory (addressType : ValueType) (hs : s.Running)
    {address value : BitVec 64} (ha : s.values[a]? = some address)
    (hload : host.loadMemory address type s.host = .ok value) :
    Runs host [{ opcode := .loadMemory, result := some id, resultType := type,
                 operands := [.value a addressType] }] s
      (s.assign id (truncate value type)) := by
  refine Runs.assign hs rfl (h := s.host) ?_
  simp only [executeOperation, operandValues, List.mapM_cons, List.mapM_nil,
    operandValue_value ha, bind, Except.bind, pure, Except.pure, hload]
  rfl

theorem runs_binary (opcode : Opcode) (hs : s.Running) {b : ℕ} {lhs rhs value : BitVec 64}
    (hopcode : opcode = .add ∨ opcode = .subtract ∨ opcode = .bitAnd)
    (ha : s.values[a]? = some lhs) (hb : s.values[b]? = some rhs)
    (hvalue : compute opcode type [.value a type, .value b type] [lhs, rhs] = some value) :
    Runs host [{ opcode := opcode, result := some id, resultType := type,
                 operands := [.value a type, .value b type] }] s
      (s.assign id (truncate value type)) := by
  refine Runs.assign hs rfl (h := s.host) ?_
  rcases hopcode with rfl | rfl | rfl <;>
    simp only [executeOperation, operandValues, List.mapM_cons, List.mapM_nil,
      operandValue_value ha, operandValue_value hb, bind, Except.bind, pure, Except.pure,
      hvalue] <;> rfl

theorem runs_writeRegister (valueType : ValueType) (hs : s.Running) (reg : ℕ) {v : ℕ}
    (hv : s.values[v]? = some value) :
    Runs host [{ opcode := .writeRegister,
                 operands := [.guestRegister reg type, .value v valueType] }] s
      (s.withHost (host.writeRegister reg value s.host)) := by
  refine .effect hs hs rfl (v := 0) ?_
  have hreg : operandValue s.values (.guestRegister reg type) =
      .ok (truncate (BitVec.ofNat 64 reg) type) := rfl
  simp only [executeOperation, operandValues, List.mapM_cons, List.mapM_nil,
    operandValue_value hv, hreg, bind, Except.bind, pure, Except.pure]
  rfl

theorem runs_storeMemory (addressType : ValueType) (hs : s.Running) {v : ℕ}
    {address value : BitVec 64} {h : η} (ha : s.values[a]? = some address)
    (hv : s.values[v]? = some value) (hstore : host.storeMemory address type value s.host = .ok h) :
    Runs host [{ opcode := .storeMemory,
                 operands := [.value a addressType, .value v type] }] s (s.withHost h) := by
  refine .effect hs hs rfl (v := 0) ?_
  simp only [executeOperation, operandValues, List.mapM_cons, List.mapM_nil,
    operandValue_value ha, operandValue_value hv, operandType, bind, Except.bind, pure,
    Except.pure, hstore]
  rfl

theorem runs_setProgramCounter (hs : s.Running) (target : BitVec 64) :
    Runs host [{ opcode := .setProgramCounter, operands := [.immediate target type] }] s
      (s.withHost (host.setProgramCounter (truncate target type) s.host)) :=
  .effect hs hs rfl rfl

theorem runs_branch (hs : s.Running) (target : BitVec 64) :
    Runs host [{ opcode := .branch, operands := [.blockTarget target] }] s
      { s with
        host := host.setProgramCounter target s.host
        result := { s.result with branchTaken := true } } :=
  .effect hs hs rfl rfl

theorem executeOperation_callHelper (result : Option ℕ) {helper : ℕ} {operands : List Operand}
    {arguments : List (BitVec 64)} {h : η}
    (hoperands : operandValues s.values operands = .ok arguments)
    (hcall : host.callHelper helper arguments s.host = .ok (value, h)) :
    executeOperation host
      { opcode := .callHelper
        result := result
        resultType := type
        operands := .helper helper :: operands } s = .ok (value, s.withHost h) := by
  have hhelper : operandValue s.values (.helper helper) =
      .ok (truncate (BitVec.ofNat 64 helper) .i32) := rfl
  unfold operandValues at hoperands
  simp only [executeOperation, operandValues, List.mapM_cons, hhelper, hoperands, bind,
    Except.bind, pure, Except.pure, hcall]
  rfl

end Rules

variable {operations : List Operation}

theorem result_lt_maxValue (h : operation ∈ operations) (hid : operation.result = some id) :
    id < (operations.filterMap (·.result)).foldl max 0 + 1 := by
  have hmem : id ∈ operations.filterMap (·.result) := List.mem_filterMap.mpr ⟨operation, h, hid⟩
  have hle (ids : List ℕ) (start : ℕ) : start ≤ ids.foldl max start := by
    induction ids generalizing start with
    | nil => exact Nat.le_refl _
    | cons i ids ih => exact Nat.le_trans (Nat.le_max_left start i) (ih (max start i))
  have hbound (ids : List ℕ) (start : ℕ) (hid : id ∈ ids) : id ≤ ids.foldl max start := by
    induction ids generalizing start with
    | nil => cases hid
    | cons i ids ih =>
      rcases List.mem_cons.mp hid with rfl | hmem
      · exact Nat.le_trans (Nat.le_max_right start id) (hle ids (max start id))
      · exact ih _ hmem
  exact Nat.lt_succ_of_le (hbound _ 0 hmem)

def State.start (operations : List Operation) (h : η) : State η :=
  ⟨List.replicate ((operations.filterMap (·.result)).foldl max 0 + 1) 0, {}, h⟩

theorem State.start_running (operations : List Operation) (h : η) :
    (State.start operations h).Running := ⟨rfl, rfl⟩

theorem State.lt_start_length
    (h : operation ∈ operations) (hid : operation.result = some id) (host : η) :
    id < (State.start operations host).values.length := by
  rw [State.start, List.length_replicate]
  exact result_lt_maxValue h hid

theorem execute_of_runs {instruction : GuestInstruction} {h : η}
    (hoperations : instruction.operations = operations ++ [{ opcode := .retireInstruction }])
    (hcondition : instruction.takenCondition = none)
    (hruns : Runs host operations (State.start instruction.operations h) s) :
    execute host instruction h = .ok ({ s.result with retirementReached := true }, s.host) := by
  have hlast : executeOperations host [{ opcode := .retireInstruction }] s =
      .ok { s with result := { s.result with retirementReached := true } } := by
    simp [executeOperations, executeOperation, operandValues, pure, Except.pure]
  have hbody := hruns.2 [{ opcode := .retireInstruction }]
  rw [← hoperations, hlast] at hbody
  unfold State.start at hbody
  unfold execute
  simp only [hbody, hcondition]

end ProtoTime.IR.Interpreter
