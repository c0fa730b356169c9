import ProtoTime.InstCycle.PluginExecution
import ProtoTime.GameBoy.NativeExecution

/-!
Native plans against the portable interpreter: on every accepted block and every
recognised table of callbacks a plan makes the callbacks that the interpreter
makes over the forwarding host, and reports the same.
-/
namespace ProtoTime.GameBoy.NativeExecution

open IR IR.Plugin IR.Plugin.Interpreter IRExecution Results

variable {η : Type}

/-! ## Widths -/

variable {i : ℕ}

theorem getLsbD_mask (type : TypeCode) (hi : i < 64) :
    (mask type).getLsbD i = decide (i < bitWidth type) := by
  have hbits : ∀ type : ValueType, ∀ i < 64,
      (IR.Interpreter.mask type).getLsbD i = decide (i < IR.Interpreter.bitWidth type) := by
    intro type
    cases type <;> decide
  exact hbits (named type) i hi

theorem truncate_shiftLeft (value : BitVec 64) (shift : ℕ) (type : TypeCode) :
    truncate (truncate value type <<< shift) type = truncate (value <<< shift) type := by
  apply BitVec.eq_of_getLsbD_eq
  intro i hi
  simp only [truncate, BitVec.getLsbD_and, BitVec.getLsbD_shiftLeft]
  by_cases hshift : i < shift
  · simp [hshift]
  · have hlow : i - shift < 64 := by omega
    rw [getLsbD_mask type hi, getLsbD_mask type hlow]
    by_cases hwidth : i < bitWidth type
    · have hbelow : i - shift < bitWidth type := by omega
      simp [hwidth, hbelow]
    · simp [hwidth]

theorem planShiftLeft_eq (value amount : BitVec 64) (type : TypeCode) :
    planShiftLeft value amount type = shiftLeft value amount type := by
  have hshift := truncate_shiftLeft value (amount &&& 63#64).toNat type
  unfold planShiftLeft shiftLeft IR.Interpreter.shiftLeft
  unfold bitWidth
  by_cases hzero : IR.Interpreter.bitWidth (named type) = 0
  · rw [if_pos (.inl hzero), if_pos (by omega)]
  · by_cases hle : IR.Interpreter.bitWidth (named type) ≤ (amount &&& 63#64).toNat
    · rw [if_pos (.inr hle), if_pos hle]
    · rw [if_neg (by omega), if_neg hle, ← hshift]
      rfl

theorem planShiftRightLogical_eq (value amount : BitVec 64) (type : TypeCode) :
    planShiftRightLogical value amount type = shiftRightLogical value amount type := by
  unfold planShiftRightLogical shiftRightLogical IR.Interpreter.shiftRightLogical
  unfold bitWidth
  by_cases hzero : IR.Interpreter.bitWidth (named type) = 0
  · rw [if_pos (.inl hzero), if_pos (by omega)]
  · by_cases hle : IR.Interpreter.bitWidth (named type) ≤ (amount &&& 63#64).toNat
    · rw [if_pos (.inr hle), if_pos hle]
    · rw [if_neg (by omega), if_neg hle]
      rfl

theorem truncate_planShiftRightArithmetic (value amount : BitVec 64) (type : TypeCode) :
    truncate (planShiftRightArithmetic value amount type) type
      = truncate (shiftRightArithmetic value amount type) type := by
  have hagain (x m : BitVec 64) : x &&& m &&& m = x &&& m := by
    rw [BitVec.and_assoc, BitVec.and_self]
  unfold planShiftRightArithmetic shiftRightArithmetic IR.Interpreter.shiftRightArithmetic
  unfold bitWidth truncate mask IR.Interpreter.truncate
  by_cases hzero : IR.Interpreter.bitWidth (named type) = 0
  · rw [if_pos hzero, if_pos hzero]
  · by_cases hle : IR.Interpreter.bitWidth (named type) ≤ (amount &&& 63#64).toNat
    · rw [if_neg hzero, if_neg hzero, if_pos hle, if_pos hle]
    · by_cases hshift : (amount &&& 63#64).toNat = 0
      · rw [if_neg hzero, if_neg hzero, if_neg hle, if_neg hle, if_pos hshift, if_pos hshift]
      · rw [if_neg hzero, if_neg hzero, if_neg hle, if_neg hle, if_neg hshift, if_neg hshift, hagain]

theorem planSignedLess_eq (lhs rhs : BitVec 64) (type : TypeCode) :
    planSignedLess lhs rhs type = signedLess lhs rhs type := by
  unfold planSignedLess signedLess IR.Interpreter.signedLess
  dsimp only
  by_cases hzero : bitWidth type = 0
  · have hnamed : IR.Interpreter.bitWidth (named type) = 0 := hzero
    simp [hzero, hnamed]
  · rw [if_neg hzero]
    rfl

/-! ## One operation -/

/-- An operation as its plan holds it. -/
def planned (source : Plugin.Operation) : PlannedOperation :=
  { opcode := source.opcode
    resultType := source.resultType
    memoryClass := source.memoryClass
    result := source.result
    operands := source.operands }

/-- The states of the interpreter and of a plan, with a table of `n` values in use. -/
structure Related (n : ℕ) (s p : IR.Interpreter.State η) : Prop where
  host : p.host = s.host
  result : p.result = s.result
  length : s.values.length = n
  size : p.values.length = kMaxValues
  bound : n ≤ kMaxValues
  values : ∀ i < n, p.values[i]? = s.values[i]?

variable {n : ℕ} {p s : IR.Interpreter.State η}

theorem planOperandValue_eq (h : Related n s p) {operand : Plugin.Operand} {value : BitVec 64}
    (hsmall : operand.kind = .known .value → operand.payload ≤ 0xFFFFFFFF#64)
    (hvalue : operandValue s.values operand = .ok value) :
    planOperandValue p.values operand = value := by
  unfold operandValue at hvalue
  unfold planOperandValue
  split_ifs at hvalue ⊢ with hkind
  · have hle : operand.payload.toNat ≤ 0xFFFFFFFF := hsmall hkind
    have hid : operand.id.toNat = operand.payload.toNat := by
      unfold Plugin.Operand.id
      rw [BitVec.toNat_setWidth]
      omega
    unfold valueAt at hvalue
    rw [hid] at hvalue
    cases hget : s.values[operand.payload.toNat]? with
    | none =>
      rw [hget] at hvalue
      cases hvalue
    | some found =>
      rw [hget] at hvalue
      cases hvalue
      have hlt : operand.payload.toNat < n := by
        rw [← h.length]
        exact (List.getElem?_eq_some_iff.mp hget).1
      rw [List.getD_eq_getElem?_getD, h.values _ hlt, hget, Option.getD_some]
  · exact Except.ok.inj hvalue

/-- What a plan's operation does against the interpreter's: the same callback, the same report and
the same value once it is stored. -/
structure Matches (o : Plugin.Operation) (p : IR.Interpreter.State η)
    (expected actual : BitVec 64 × IR.Interpreter.State η) : Prop where
  value : truncate actual.1 o.resultType = truncate expected.1 o.resultType
  host : actual.2.host = expected.2.host
  result : actual.2.result = expected.2.result
  values : actual.2.values = p.values

variable {o : Plugin.Operation}

theorem matches_value (h : Related n s p) {expected actual : BitVec 64}
    (hvalue : truncate actual o.resultType = truncate expected o.resultType) :
    Matches o p (expected, s) (actual, p) := ⟨hvalue, h.host, h.result, rfl⟩

theorem map_planOperandValue (h : Related n s p) {operands : List Plugin.Operand}
    (hsmall : ∀ operand ∈ operands, operand.kind = .known .value →
      operand.payload ≤ 0xFFFFFFFF#64)
    {arguments : List (BitVec 64)}
    (harguments : operands.mapM (operandValue s.values) = .ok arguments) :
    operands.map (planOperandValue p.values) = arguments := by
  have hall := mapM_eq_ok harguments
  induction hall with
  | nil => rfl
  | @cons operand value operands arguments hvalue _ ih =>
    rw [List.mapM_cons] at harguments
    obtain ⟨_, _, hrest⟩ := bind_eq_ok harguments
    obtain ⟨rest, hmapped, hrest⟩ := bind_eq_ok hrest
    cases hrest
    rw [List.map_cons, planOperandValue_eq h (hsmall operand List.mem_cons_self) hvalue,
      ih (fun other hother => hsmall other (List.mem_cons_of_mem _ hother)) hmapped]

variable (abi : ExecutionAbi η)

/-- A plan's operation matches the interpreter's over the forwarding host. -/
theorem executePlanned_matches (h : Related n s p)
    (hcount : Plugin.validOperandCount o.opcode o.operands.length = true)
    (hsmall : ∀ operand ∈ o.operands, operand.kind = .known .value →
      operand.payload ≤ 0xFFFFFFFF#64)
    (hvalues : Evaluates s.values o.operands) {expected : BitVec 64 × IR.Interpreter.State η}
    (hexecute : executeOperation (abiHost abi) o s = .ok expected) :
    Matches o p expected (executePlanned abi (planned o) p) := by
  obtain ⟨opcode, result, resultType, operands, memoryClass⟩ := o
  dsimp only at hcount hsmall hvalues
  have hhost := h.host
  have hresult := h.result
  cases opcode with
  | unknown code => cases hcount
  | known opcode =>
    rcases operands with _ | ⟨a, _ | ⟨b, _ | ⟨c, rest⟩⟩⟩
    · cases opcode <;> simp [Plugin.validOperandCount, IR.validOperandCount] at hcount
      all_goals
        simp only [executeOperation, Except.ok.injEq] at hexecute
        subst hexecute
        exact ⟨rfl, hhost, by simp [executePlanned, planned, hresult], rfl⟩
    · obtain ⟨x, hx⟩ := hvalues a (by simp)
      have hx' := planOperandValue_eq h (hsmall a (by simp)) hx
      cases opcode <;> simp [Plugin.validOperandCount, IR.validOperandCount] at hcount <;>
        simp only [executeOperation, unary_ok hx, hx, bind, Except.bind, pure, Except.pure,
          List.mapM_nil, Except.ok.injEq] at hexecute <;>
        subst hexecute <;>
        simp only [executePlanned, planned, operandAt, List.getD_cons_zero, hx', List.tail_cons,
          List.map_nil, planBranch] <;>
        constructor <;>
        simp [call, abiHost, branchTo, hhost, hresult]
    · obtain ⟨x, hx⟩ := hvalues a (by simp)
      obtain ⟨y, hy⟩ := hvalues b (by simp)
      have hx' := planOperandValue_eq h (hsmall a (by simp)) hx
      have hy' := planOperandValue_eq h (hsmall b (by simp)) hy
      cases opcode <;> simp [Plugin.validOperandCount, IR.validOperandCount] at hcount <;>
        simp only [executeOperation, binary_ok hx hy, hx, hy, bind, Except.bind, pure, Except.pure,
          List.mapM_cons, List.mapM_nil, Except.ok.injEq] at hexecute <;>
        subst hexecute <;>
        simp only [executePlanned, planned, operandAt, List.getD_cons_zero, List.getD_cons_succ,
          hx', hy', List.tail_cons, List.map_cons, List.map_nil, planBranch]
      case branchIf =>
        by_cases hzero : x = 0
        · rw [if_neg (not_not.mpr hzero), if_neg (not_not.mpr hzero)]
          exact matches_value h rfl
        · rw [if_pos hzero, if_pos hzero]
          constructor <;> simp [call, abiHost, branchTo, hhost, hresult]
      case shiftRightArithmetic =>
        exact matches_value h (truncate_planShiftRightArithmetic x y resultType)
      all_goals
        constructor <;>
        simp [call, abiHost, hhost, hresult, planShiftLeft_eq, planShiftRightLogical_eq,
          planSignedLess_eq]
    · obtain ⟨x, hx⟩ := hvalues a (by simp)
      have hx' := planOperandValue_eq h (hsmall a (by simp)) hx
      cases opcode <;> simp [Plugin.validOperandCount, IR.validOperandCount] at hcount
      case select =>
        subst hcount
        obtain ⟨y, hy⟩ := hvalues b (by simp)
        obtain ⟨z, hz⟩ := hvalues c (by simp)
        have hy' := planOperandValue_eq h (hsmall b (by simp)) hy
        have hz' := planOperandValue_eq h (hsmall c (by simp)) hz
        simp only [executeOperation, hx, bind, Except.bind] at hexecute
        simp only [executePlanned, planned, operandAt, List.getD_cons_zero, List.getD_cons_succ,
          hx', hy', hz']
        by_cases hzero : x = 0
        · rw [if_neg (not_not.mpr hzero), unary_ok hz, Except.ok.injEq] at hexecute
          subst hexecute
          rw [if_neg (not_not.mpr hzero)]
          exact matches_value h rfl
        · rw [if_pos hzero, unary_ok hy, Except.ok.injEq] at hexecute
          subst hexecute
          rw [if_pos hzero]
          exact matches_value h rfl
      case callHelper =>
        obtain ⟨arguments, harguments⟩ := mapM_operandValue
          (fun operand hmem => hvalues operand (List.mem_cons_of_mem _ hmem))
        have hmapped := map_planOperandValue h
          (fun operand hmem => hsmall operand (List.mem_cons_of_mem _ hmem)) harguments
        simp only [executeOperation, harguments, bind, Except.bind, pure, Except.pure,
          Except.ok.injEq] at hexecute
        subst hexecute
        simp only [executePlanned, planned, operandAt, List.getD_cons_zero, List.tail_cons, hmapped]
        constructor <;> simp [call, abiHost, hhost, hresult]

/-! ## Runs -/

variable {t : IR.Interpreter.State η}

/-- Storing related values keeps the states related. -/
theorem related_store {executed executed' : IR.Interpreter.State η}
    (h : Related n s p) {value value' : BitVec 64}
    (hmatches : Matches o p (value, executed) (value', executed'))
    (hkept : executed.values = s.values) (hassign : assignResult o value executed = .ok t) :
    Related n t (storePlanned (planned o) value' executed') := by
  obtain ⟨hvalue, hhost, hresult, hvalues⟩ := hmatches
  unfold assignResult at hassign
  unfold storePlanned planned
  cases hid : o.result with
  | none =>
    rw [hid] at hassign
    cases hassign
    refine ⟨hhost, hresult, by rw [hkept, h.length], by rw [hvalues, h.size], h.bound, ?_⟩
    intro i hi
    rw [hvalues, hkept, h.values i hi]
  | some id =>
    rw [hid] at hassign
    dsimp only at hassign
    split_ifs at hassign with hlt
    cases hassign
    have hlength : executed.values.length = n := by rw [hkept, h.length]
    have hsize : executed'.values.length = kMaxValues := by rw [hvalues, h.size]
    refine ⟨hhost, hresult, by rw [List.length_set, hlength], by rw [List.length_set, hsize],
      h.bound, ?_⟩
    intro i hi
    have hbound := h.bound
    rw [hvalue]
    by_cases hsame : id.toNat = i
    · subst hsame
      rw [List.getElem?_set_self (by omega), List.getElem?_set_self (by omega)]
    · rw [List.getElem?_set_ne hsame, List.getElem?_set_ne hsame, hvalues, hkept, h.values i hi]

theorem runPlanned_retired (operations : List PlannedOperation)
    (h : p.result.retirementReached = true) :
    runPlanned abi operations p = p := by
  cases operations with
  | nil => rfl
  | cons o operations =>
    unfold runPlanned
    rw [if_pos h]

/-- The rest of an instruction keeps the states related. -/
theorem runPlanned_related {operations : List Plugin.Operation}
    {types : Plugin.ValueTypes} (hvalid : ValidOperations i operations types)
    {rest done : List Plugin.Operation} (hsplit : operations = done ++ rest)
    (h : Related (maxValue operations + 1) s p) (hretired : s.result.retirementReached = false)
    (hrun : executeOperations (abiHost abi) rest s = .ok t) :
    Related (maxValue operations + 1) t (runPlanned abi (rest.map planned) p) := by
  induction rest generalizing done s p with
  | nil =>
    cases hrun
    exact h
  | cons o rest ih =>
    have hnext : operations = (done ++ [o]) ++ rest := by simp [hsplit]
    have hresult := h.result
    rw [List.map_cons]
    unfold runPlanned
    rw [hresult, if_neg (by simp [hretired])]
    rw [executeOperations] at hrun
    change Related _ t (if s.result.exitRequested = true ∧ o.opcode ≠ .known .retireInstruction
      then _ else _)
    split_ifs at hrun ⊢ with hskip
    · exact ih hnext h hretired hrun
    · obtain ⟨before, after, _, hchecked⟩ := hvalid.split hsplit
      have hvalues := evaluates_of_checked hvalid hsplit h.length
      obtain ⟨value, executed, hexecute, hkept⟩ :=
        executeOperation_kept (abiHost abi) hchecked.count hvalues
      have hmatches := executePlanned_matches abi h hchecked.count hchecked.ids hvalues hexecute
      generalize executePlanned abi (planned o) p = actual at hmatches ⊢
      rw [ok_bind hexecute] at hrun
      obtain ⟨assigned, hassign, hrun⟩ := bind_eq_ok hrun
      have hrelated := related_store h hmatches hkept.values hassign
      dsimp only
      cases hlast : assigned.result.retirementReached with
      | true =>
        rw [hlast, if_pos rfl] at hrun
        cases hrun
        rw [runPlanned_retired abi _ (by rw [hrelated.result]; exact hlast)]
        exact hrelated
      | false =>
        rw [hlast, if_neg Bool.false_ne_true] at hrun
        exact ih hnext hrelated hlast hrun

/-! ## Artifacts -/

theorem planOperation_eq_ok {source : Plugin.Operation} {plan : PlannedOperation}
    (h : planOperation source = .ok plan) :
    plan = planned source ∧ ∀ id, source.result = some id → id.toNat < kMaxValues := by
  obtain ⟨_, -, h⟩ := bind_eq_ok h
  obtain ⟨_, -, h⟩ := bind_eq_ok h
  obtain ⟨_, hresult, h⟩ := bind_eq_ok h
  obtain ⟨_, -, h⟩ := bind_eq_ok h
  cases h
  refine ⟨rfl, fun id hid => ?_⟩
  have hsmall := require_eq_ok hresult
  rw [hid] at hsmall
  simpa using hsmall

theorem map_planned {sources : List Plugin.Operation} {plans : List PlannedOperation}
    (h : List.Forall₂ (fun source plan => planOperation source = .ok plan) sources plans) :
    plans = sources.map planned := by
  induction h with
  | nil => rfl
  | cons hfirst _ ih => rw [List.map_cons, (planOperation_eq_ok hfirst).1, ih]

variable {instruction : Plugin.GuestInstruction} {plan : InstructionPlan}

/-- The plan of an instruction, with every number within the fixed table. -/
theorem buildPlan_eq_ok (h : buildPlan instruction = .ok plan) :
    plan.operations = instruction.operations.map planned
      ∧ plan.takenCondition = instruction.takenCondition
      ∧ maxValue instruction.operations + 1 ≤ kMaxValues := by
  obtain ⟨_, -, h⟩ := bind_eq_ok h
  obtain ⟨operations, hoperations, h⟩ := bind_eq_ok h
  obtain ⟨_, -, h⟩ := bind_eq_ok h
  cases h
  have hall := mapM_eq_ok hoperations
  refine ⟨map_planned hall, rfl, ?_⟩
  · have hbound : maxValue instruction.operations ≤ kMaxValues - 1 := by
      apply foldl_max_le (Nat.zero_le _)
      intro id hid
      obtain ⟨o, ho, hnumber⟩ := List.mem_filterMap.mp hid
      obtain ⟨result, hresult, rfl⟩ := Option.map_eq_some_iff.mp hnumber
      obtain ⟨plan, _, hplan⟩ := forall₂_left hall ho
      have hlt := (planOperation_eq_ok hplan).2 result hresult
      omega
    unfold kMaxValues at hbound ⊢
    omega

theorem compile_eq_ok {block : Plugin.Block} {plans : List InstructionPlan}
    (h : compile block = .ok plans) :
    validate block = .ok ()
      ∧ List.Forall₂ (fun instruction plan => buildPlan instruction = .ok plan)
        block.instructions plans := by
  unfold compile at h
  cases hvalid : validate block with
  | error invalid =>
    rw [hvalid] at h
    cases h
  | ok u =>
    rw [hvalid] at h
    obtain ⟨_, -, h⟩ := bind_eq_ok h
    exact ⟨rfl, mapM_eq_ok h⟩

theorem unpackFlags_packFlags (result : InterpreterResult) :
    unpackFlags (packFlags result) = result := by
  obtain ⟨branchTaken, exitRequested, cycleCondition, retirementReached⟩ := result
  cases branchTaken <;> cases exitRequested <;> cases cycleCondition <;>
    cases retirementReached <;> rfl

theorem related_start (instruction : Plugin.GuestInstruction) (h : η)
    (hbound : maxValue instruction.operations + 1 ≤ kMaxValues) :
    Related (maxValue instruction.operations + 1) (start instruction h)
      ⟨List.replicate kMaxValues 0, {}, h⟩ := by
  refine ⟨rfl, rfl, ?_, ?_, hbound, fun i hi => ?_⟩
  · simp [start]
  · simp
  · have hlt : i < kMaxValues := by omega
    simp [start, hi, hlt]

/-- The choice of the cycle count reads the same value on both sides. -/
theorem planCycleCondition_eq (h : Related n s p)
    (hcondition : plan.takenCondition = instruction.takenCondition)
    (hunset : s.result.cycleCondition = false) (hselect : selectCycles instruction s = .ok t) :
    t = { s with result :=
      { s.result with cycleCondition := planCycleCondition plan p.values } } := by
  unfold selectCycles at hselect
  unfold planCycleCondition
  rw [hcondition]
  cases htaken : instruction.takenCondition with
  | none =>
    rw [htaken] at hselect
    cases hselect
    obtain ⟨values, result, host⟩ := s
    obtain ⟨branchTaken, exitRequested, cycleCondition, retirementReached⟩ := result
    cases hunset
    rfl
  | some condition =>
    rw [htaken] at hselect
    obtain ⟨value, hvalue, hselect⟩ := bind_eq_ok hselect
    cases hselect
    unfold valueAt at hvalue
    cases hget : s.values[condition.toNat]? with
    | none =>
      rw [hget] at hvalue
      cases hvalue
    | some found =>
      rw [hget] at hvalue
      cases hvalue
      have hlt : condition.toNat < n := by
        rw [← h.length]
        exact (List.getElem?_eq_some_iff.mp hget).1
      have hbound := h.bound
      have hsmall : condition.toNat < kMaxValues := by omega
      simp [h.values _ hlt, hget, hsmall]

/-- The interpreter's run of an accepted instruction, and the plan's. -/
theorem executePlan_eq (habi : abi.valid = true) {types : Plugin.ValueTypes}
    (hvalid : ValidOperations i instruction.operations types)
    (hselector : ∀ condition, instruction.takenCondition = some condition →
      types.lookup condition = some (.known .bool))
    (hplan : buildPlan instruction = .ok plan) (h : η) :
    ∃ t, Plugin.Interpreter.execute (abiHost abi) instruction h = .ok t
      ∧ executePlan plan abi h = (packFlags t.result, t.host) := by
  obtain ⟨hoperations, hcondition, hbound⟩ := buildPlan_eq_ok hplan
  obtain ⟨front, last, s, t, _, _, hrunning, hrun, hexecute, _, _⟩ :=
    execute_accepted (abiHost abi) hvalid hselector h
  have hrelated := runPlanned_related abi hvalid (List.nil_append _).symm
    (related_start instruction h hbound) rfl hrun
  refine ⟨t, hexecute, ?_⟩
  have hselect := hexecute
  unfold Plugin.Interpreter.execute at hselect
  rw [ok_bind hrun] at hselect
  have hfinal := planCycleCondition_eq hrelated hcondition hrunning.unselected hselect
  unfold executePlan
  rw [if_pos habi, hoperations]
  dsimp only
  rw [hrelated.result, hrelated.host, hfinal]

/-- The entries of an artifact make the callbacks of the portable interpreter over the forwarding
host, in the same order, and report the same, against every table that is recognised; against any
other they make none and report nothing. -/
theorem execute_eq_interpreter {block : Plugin.Block} {plans : List InstructionPlan}
    (hcompile : compile block = .ok plans) (index : ℕ)
    (hindex : index < block.instructions.length) (abi : ExecutionAbi η) (h : η) :
    (abi.valid = true →
        ∃ t, Plugin.Interpreter.execute (abiHost abi) block.instructions[index] h = .ok t
          ∧ execute plans index abi h = (t.result, t.host))
      ∧ (abi.valid = false → execute plans index abi h = ({}, h)) := by
  obtain ⟨hvalid, hplans⟩ := compile_eq_ok hcompile
  have hlength := hplans.length_eq
  have hplan : buildPlan block.instructions[index] = .ok plans[index] :=
    hplans.get hindex (by omega)
  obtain ⟨i, types, hoperations, hselector⟩ :=
    validate_eq_ok hvalid block.instructions[index] (List.getElem_mem hindex)
  unfold execute
  rw [List.getElem?_eq_getElem (by omega)]
  dsimp only
  constructor
  · intro habi
    obtain ⟨t, hexecute, heq⟩ := executePlan_eq abi habi hoperations hselector hplan h
    rw [heq]
    exact ⟨t, hexecute, by rw [unpackFlags_packFlags]⟩
  · intro habi
    unfold executePlan
    rw [habi, if_neg Bool.false_ne_true]
    have hnone : unpackFlags 0 = {} := by decide
    rw [hnone]

/-- A table of some version whose callbacks count themselves. -/
def countingAbi (version : BitVec 32) : ExecutionAbi ℕ :=
  { structSize := kExecutionAbiSize
    version := version
    hasContext := true
    readRegister := fun _ calls => (0, calls + 1)
    writeRegister := fun _ _ calls => calls + 1
    readMemory8 := fun _ calls => (0, calls + 1)
    writeMemory8 := fun _ _ calls => calls + 1
    callHelper := fun _ _ calls => (0, calls + 1) }

def additionPlans : List InstructionPlan :=
  [{ operations :=
       (additionBlock ⟨.known .value, .known .i8, 1⟩).instructions[0].operations.map planned
     takenCondition := none }]

theorem compile_additionBlock :
    compile (additionBlock ⟨.known .value, .known .i8, 1⟩) = .ok additionPlans := rfl

theorem execute_eq_interpreter_addition :
    ∃ t, Plugin.Interpreter.execute (abiHost (countingAbi kExecutionAbiVersion))
        (additionBlock ⟨.known .value, .known .i8, 1⟩).instructions[0] 0 = .ok t
      ∧ execute additionPlans 0 (countingAbi kExecutionAbiVersion) 0 = (t.result, t.host) :=
  (execute_eq_interpreter compile_additionBlock 0 (by decide) _ 0).1 (by decide)

/-- Against a table of another version the entry of an accepted block reports no retirement. -/
theorem execute_ne_interpreter :
    ¬ ∀ (block : Plugin.Block) (plans : List InstructionPlan) (abi : ExecutionAbi ℕ),
      compile block = .ok plans → ∀ index, ∀ hindex : index < block.instructions.length,
        ∃ t, Plugin.Interpreter.execute (abiHost abi) (block.instructions.get ⟨index, hindex⟩) 0
            = .ok t
          ∧ execute plans index abi 0 = (t.result, t.host) := by
  intro h
  obtain ⟨t, hexecute, hnative⟩ := h _ _ (countingAbi 2) compile_additionBlock 0 (by decide)
  have hreached : t.result.retirementReached = true := by
    have hrun : Plugin.Interpreter.execute (abiHost (countingAbi 2))
        (additionBlock ⟨.known .value, .known .i8, 1⟩).instructions[0] 0
      = .ok ⟨[0, 7, 14], { retirementReached := true }, 0⟩ := rfl
    rw [show (additionBlock ⟨.known .value, .known .i8, 1⟩).instructions.get ⟨0, by decide⟩
      = (additionBlock ⟨.known .value, .known .i8, 1⟩).instructions[0] from rfl, hrun] at hexecute
    cases hexecute
    rfl
  have hunreached : (execute additionPlans 0 (countingAbi 2) 0).1.retirementReached = false := rfl
  rw [hnative, hreached] at hunreached
  cases hunreached

end ProtoTime.GameBoy.NativeExecution
