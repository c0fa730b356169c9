import Mathlib.Data.List.Induction
import Mathlib.Tactic.SplitIfs
import ProtoTime.InstCycle.PluginBlockLaws
import ProtoTime.InstCycle.PluginInterpreter

/-!
Execution of accepted plugin blocks: no error, no index outside the table of
values, a retirement at the end, no callback after an exit, and values that fit
their types.
-/
namespace ProtoTime.IR.Plugin.Interpreter

open Results

variable {η : Type} {host : InterpreterHost η}

/-! ## The table of values -/

theorem le_foldl_max (xs : List ℕ) (a : ℕ) : a ≤ xs.foldl max a ∧ ∀ x ∈ xs, x ≤ xs.foldl max a := by
  induction xs generalizing a with
  | nil => exact ⟨Nat.le_refl a, fun x hx => absurd hx List.not_mem_nil⟩
  | cons y xs ih =>
    obtain ⟨hstart, hmem⟩ := ih (max a y)
    refine ⟨Nat.le_trans (Nat.le_max_left a y) hstart, fun x hx => ?_⟩
    rcases List.mem_cons.mp hx with rfl | hx
    · exact Nat.le_trans (Nat.le_max_right a x) hstart
    · exact hmem x hx

theorem foldl_max_le {xs : List ℕ} {a bound : ℕ} (ha : a ≤ bound) (h : ∀ x ∈ xs, x ≤ bound) :
    xs.foldl max a ≤ bound := by
  induction xs generalizing a with
  | nil => exact ha
  | cons y xs ih =>
    apply ih
    · exact Nat.max_le.mpr ⟨ha, h y List.mem_cons_self⟩
    · exact fun x hx => h x (List.mem_cons_of_mem _ hx)

variable {operations : List Operation} {o : Operation}

theorem le_maxValue {id : ValueId}
    (hmem : o ∈ operations) (hresult : o.result = some id) : id.toNat ≤ maxValue operations := by
  apply (le_foldl_max _ 0).2
  apply List.mem_filterMap.mpr
  exact ⟨o, hmem, by rw [hresult]; rfl⟩

theorem toNat_truncate_lt (value : BitVec 64) (type : TypeCode) :
    (truncate value type).toNat < 2 ^ bitWidth type := by
  have hand (m : ℕ) (hm : m < 2 ^ 64) :
      (value &&& BitVec.ofNat 64 m).toNat ≤ m := by
    rw [BitVec.toNat_and, BitVec.toNat_ofNat, Nat.mod_eq_of_lt hm]
    exact Nat.and_le_right
  unfold truncate mask bitWidth
  generalize named type = known
  cases known with
  | void => exact Nat.lt_of_le_of_lt (hand 0 (by decide)) (by decide)
  | bool => exact Nat.lt_of_le_of_lt (hand 1 (by decide)) (by decide)
  | i8 => exact Nat.lt_of_le_of_lt (hand 0xFF (by decide)) (by decide)
  | i16 => exact Nat.lt_of_le_of_lt (hand 0xFFFF (by decide)) (by decide)
  | i32 => exact Nat.lt_of_le_of_lt (hand 0xFFFFFFFF (by decide)) (by decide)
  | i64 => exact (value &&& _).isLt

/-! ## One operation -/

/-- An operation leaves the table alone and reports only what it is. -/
structure Kept (o : Operation) (s s' : State η) : Prop where
  values : s'.values = s.values
  retired : s'.result.retirementReached
    = (s.result.retirementReached || o.opcode == .known .retireInstruction)
  exited : s'.result.exitRequested = (s.result.exitRequested || o.opcode == .known .exit)
  selected : s'.result.cycleCondition = s.result.cycleCondition

/-- The operands of an operation have values. -/
def Evaluates (values : List (BitVec 64)) (operands : List Operand) : Prop :=
  ∀ operand ∈ operands, ∃ value, operandValue values operand = .ok value

theorem mapM_operandValue {values : List (BitVec 64)} {operands : List Operand}
    (h : Evaluates values operands) :
    ∃ arguments, operands.mapM (operandValue values) = .ok arguments := by
  induction operands with
  | nil => exact ⟨[], rfl⟩
  | cons operand operands ih =>
    obtain ⟨value, hvalue⟩ := h operand List.mem_cons_self
    obtain ⟨arguments, harguments⟩ := ih fun other hmem => h other (List.mem_cons_of_mem _ hmem)
    refine ⟨value :: arguments, ?_⟩
    rw [List.mapM_cons, hvalue, harguments]
    rfl

variable {s : State η}

theorem unary_ok {operand : Operand} {value : BitVec 64}
    (h : operandValue s.values operand = .ok value) (f : BitVec 64 → BitVec 64) :
    unary s f operand = .ok (f value, s) := by
  unfold unary
  rw [h]
  rfl

theorem binary_ok {lhs rhs : Operand} {x y : BitVec 64}
    (hx : operandValue s.values lhs = .ok x) (hy : operandValue s.values rhs = .ok y)
    (f : BitVec 64 → BitVec 64 → BitVec 64) : binary s f lhs rhs = .ok (f x y, s) := by
  unfold binary
  rw [hx, hy]
  rfl

theorem kept_same (hretire : o.opcode ≠ .known .retireInstruction)
    (hexit : o.opcode ≠ .known .exit) {s' : State η} (hvalues : s'.values = s.values)
    (hretired : s'.result.retirementReached = s.result.retirementReached)
    (hexited : s'.result.exitRequested = s.result.exitRequested)
    (hselected : s'.result.cycleCondition = s.result.cycleCondition) : Kept o s s' := by
  refine ⟨hvalues, ?_, ?_, hselected⟩
  · simp [hretire, hretired]
  · simp [hexit, hexited]

/-- An operation of the right number of operands runs, whatever its kind. -/
theorem executeOperation_kept (host : InterpreterHost η)
    (hcount : validOperandCount o.opcode o.operands.length = true)
    (hvalues : Evaluates s.values o.operands) :
    ∃ value s', executeOperation host o s = .ok (value, s') ∧ Kept o s s' := by
  obtain ⟨opcode, result, resultType, operands, memoryClass⟩ := o
  cases opcode with
  | unknown code => cases hcount
  | known opcode =>
    rcases operands with _ | ⟨a, _ | ⟨b, _ | ⟨c, rest⟩⟩⟩
    · cases opcode <;> simp [validOperandCount, IR.validOperandCount] at hcount
      · exact ⟨_, _, rfl, rfl, by simp, by simp, rfl⟩
      · exact ⟨_, _, rfl, rfl, by simp, by simp, rfl⟩
    · obtain ⟨x, hx⟩ := hvalues a (by simp)
      cases opcode <;> simp [validOperandCount, IR.validOperandCount] at hcount <;>
        simp only [executeOperation, unary_ok hx, hx, bind, Except.bind, pure, Except.pure,
          List.mapM_nil] <;>
        exact ⟨_, _, rfl, kept_same (by simp) (by simp) rfl rfl rfl rfl⟩
    · obtain ⟨x, hx⟩ := hvalues a (by simp)
      obtain ⟨y, hy⟩ := hvalues b (by simp)
      cases opcode <;> simp [validOperandCount, IR.validOperandCount] at hcount <;>
        simp only [executeOperation, binary_ok hx hy, hx, hy, bind, Except.bind, pure, Except.pure,
          List.mapM_cons, List.mapM_nil]
      case branchIf =>
        refine ⟨_, _, rfl, kept_same (by simp) (by simp) ?_ ?_ ?_ ?_⟩
        all_goals
          split_ifs
          · rfl
          · rfl
      all_goals exact ⟨_, _, rfl, kept_same (by simp) (by simp) rfl rfl rfl rfl⟩
    · obtain ⟨x, hx⟩ := hvalues a (by simp)
      cases opcode <;> simp [validOperandCount, IR.validOperandCount] at hcount
      case select =>
        subst hcount
        obtain ⟨y, hy⟩ := hvalues b (by simp)
        obtain ⟨z, hz⟩ := hvalues c (by simp)
        simp only [executeOperation, hx, bind, Except.bind]
        by_cases hchosen : x ≠ 0
        · rw [if_pos hchosen, unary_ok hy]
          exact ⟨_, _, rfl, kept_same (by simp) (by simp) rfl rfl rfl rfl⟩
        · rw [if_neg hchosen, unary_ok hz]
          exact ⟨_, _, rfl, kept_same (by simp) (by simp) rfl rfl rfl rfl⟩
      case callHelper =>
        obtain ⟨arguments, harguments⟩ := mapM_operandValue
          (fun operand hmem => hvalues operand (List.mem_cons_of_mem _ hmem))
        simp only [executeOperation, harguments, bind, Except.bind, pure, Except.pure]
        exact ⟨_, _, rfl, kept_same (by simp) (by simp) rfl rfl rfl rfl⟩

/-! ## Runs -/

variable (host) in
theorem executeOperations_append (hs : s.result.retirementReached = false)
    (xs ys : List Operation) :
    executeOperations host (xs ++ ys) s
      = executeOperations host xs s >>= fun t =>
          if t.result.retirementReached then .ok t else executeOperations host ys t := by
  induction xs generalizing s with
  | nil =>
    change _ = if s.result.retirementReached = true then Except.ok s else executeOperations host ys s
    rw [if_neg (by simp [hs])]
    rfl
  | cons o xs ih =>
    rw [List.cons_append, executeOperations, executeOperations]
    split_ifs with hskip
    · exact ih hs
    · rw [bind_assoc]
      congr 1
      funext executed
      dsimp only
      rw [bind_assoc]
      congr 1
      funext assigned
      cases hretired : assigned.result.retirementReached with
      | true =>
        change Except.ok assigned = if assigned.result.retirementReached = true then _ else _
        rw [if_pos hretired]
      | false => exact ih hretired

/-- The result of an operation is in the table and fits its type. -/
def Stored (o : Operation) (s : State η) : Prop :=
  ∀ id, o.result = some id →
    ∃ value, s.values[id.toNat]? = some value ∧ value.toNat < 2 ^ bitWidth o.resultType

/-- The state of an instruction after some of its operations, before the retirement. -/
structure Running (operations done : List Operation) (s : State η) : Prop where
  length : s.values.length = maxValue operations + 1
  retired : s.result.retirementReached = false
  unselected : s.result.cycleCondition = false
  exited : s.result.exitRequested = true →
    ∃ front o, done = front ++ [o] ∧ o.opcode = .known .exit
  stored : ∀ o ∈ done, Stored o s

theorem running_start (instruction : GuestInstruction) (h : η) :
    Running instruction.operations [] (start instruction h) := by
  refine ⟨?_, rfl, rfl, fun hexited => ?_, fun o hmem => absurd hmem List.not_mem_nil⟩
  · simp [start]
  · cases hexited

variable {i : ℕ} {types : ValueTypes} {done : List Operation} {rest : List Operation}

theorem evaluates_of_checked (hvalid : ValidOperations i operations types)
    (hsplit : operations = done ++ o :: rest)
    (hlength : s.values.length = maxValue operations + 1) : Evaluates s.values o.operands := by
  obtain ⟨before, after, hbefore, hchecked⟩ := hvalid.split hsplit
  intro operand hmem
  unfold operandValue
  split_ifs with hkind
  · have hresult : ∃ p ∈ operations, p.result = some operand.id := by
      rcases (hchecked.declares _ _).mp (hchecked.uses operand hmem hkind) with hold | ⟨hnew, _⟩
      · obtain ⟨p, hp, hresult, _⟩ := (hbefore _ _).mp hold
        exact ⟨p, by simp [hsplit, hp], hresult⟩
      · exact ⟨o, by simp [hsplit], hnew⟩
    obtain ⟨p, hp, hresult⟩ := hresult
    have hbound := le_maxValue hp hresult
    have hlt : operand.id.toNat < s.values.length := by omega
    unfold valueAt
    rw [List.getElem?_eq_getElem hlt]
    exact ⟨_, rfl⟩
  · exact ⟨_, rfl⟩

theorem retire_of_exited (hvalid : ValidOperations i operations types)
    (hsplit : operations = done ++ o :: rest)
    (hrunning : Running operations done s) (hexited : s.result.exitRequested = true) :
    rest = [] := by
  obtain ⟨front, exit, rfl, hopcode⟩ := hrunning.exited hexited
  have hexit : operations = front ++ exit :: (o :: rest) := by simp [hsplit]
  obtain ⟨before, after, _, hchecked⟩ := hvalid.split hexit
  have hposition := hchecked.exits hopcode
  have hlength := congrArg List.length hexit
  simp only [List.length_append, List.length_cons] at hlength
  apply List.eq_nil_of_length_eq_zero
  omega

theorem assignResult_ok
    (hmem : o ∈ operations) (hlength : s.values.length = maxValue operations + 1)
    (value : BitVec 64) :
    ∃ values, assignResult o value s = .ok { s with values := values }
      ∧ values.length = s.values.length ∧ Stored o { s with values := values }
      ∧ ∀ id, o.result ≠ some id → values[id.toNat]? = s.values[id.toNat]? := by
  unfold assignResult
  cases hresult : o.result with
  | none =>
    refine ⟨s.values, rfl, rfl, fun id hid => ?_, fun id _ => rfl⟩
    rw [hresult] at hid
    cases hid
  | some id =>
    have hbound := le_maxValue hmem hresult
    have hlt : id.toNat < s.values.length := by omega
    dsimp only
    rw [if_pos hlt]
    refine ⟨_, rfl, List.length_set, fun other hother => ?_, fun other hother => ?_⟩
    · rw [hresult] at hother
      cases hother
      refine ⟨truncate value o.resultType, ?_, toNat_truncate_lt value o.resultType⟩
      simp [hlt]
    · apply List.getElem?_set_ne
      intro hsame
      exact hother (congrArg some (BitVec.eq_of_toNat_eq hsame))

/-- One operation before the retirement: it runs, and its result fits its type. -/
theorem running_step (hvalid : ValidOperations i operations types)
    (hsplit : operations = done ++ o :: rest) (hrest : rest ≠ [])
    (hrunning : Running operations done s) :
    ∃ s', executeOperations host [o] s = .ok s' ∧ Running operations (done ++ [o]) s' := by
  obtain ⟨before, after, hbefore, hchecked⟩ := hvalid.split hsplit
  have hlength := congrArg List.length hsplit
  simp only [List.length_append, List.length_cons] at hlength
  have hpositive := List.length_pos_of_ne_nil hrest
  have hrunsOn : s.result.exitRequested = false := by
    rw [← Bool.not_eq_true]
    exact fun hexited => hrest (retire_of_exited hvalid hsplit hrunning hexited)
  have hretire : o.opcode ≠ .known .retireInstruction := by
    intro hopcode
    have := hchecked.retires hopcode
    omega
  obtain ⟨value, executed, hexecute, hkept⟩ := executeOperation_kept host hchecked.count
    (evaluates_of_checked hvalid hsplit hrunning.length)
  have hmem : o ∈ operations := by simp [hsplit]
  have hexecutedLength : executed.values.length = maxValue operations + 1 := by
    rw [hkept.values, hrunning.length]
  obtain ⟨values, hassign, hvaluesLength, hstored, hothers⟩ :=
    assignResult_ok hmem hexecutedLength value
  have hretired : executed.result.retirementReached = false := by
    rw [hkept.retired, hrunning.retired]
    simp [hretire]
  refine ⟨{ executed with values := values }, ?_, ?_⟩
  · rw [executeOperations, if_neg (by simp [hrunsOn]), ok_bind hexecute]
    dsimp only
    rw [ok_bind hassign]
    simp [hretired, executeOperations]
  · refine ⟨hvaluesLength.trans hexecutedLength, hretired,
      hkept.selected.trans hrunning.unselected, fun hexited => ?_, fun p hp => ?_⟩
    · refine ⟨done, o, rfl, ?_⟩
      dsimp only at hexited
      rw [hkept.exited, hrunsOn] at hexited
      simpa using hexited
    · rcases List.mem_append.mp hp with hp | hp
      · intro id hid
        obtain ⟨old, hold, hfits⟩ := hrunning.stored p hp id hid
        refine ⟨old, ?_, hfits⟩
        have hne : o.result ≠ some id := by
          intro hsame
          have hfound := (hbefore id p.resultType).mpr ⟨p, hp, hid, rfl⟩
          rw [hchecked.fresh id hsame] at hfound
          cases hfound
        rw [hothers id hne, hkept.values]
        exact hold
      · cases List.mem_singleton.mp hp
        exact hstored

variable (host) in
theorem running_done {instruction : GuestInstruction}
    (hvalid : ValidOperations i instruction.operations types) (h : η) (done : List Operation)
    (hsplit : instruction.operations = done ++ rest) (hrest : rest ≠ []) :
    ∃ s, executeOperations host done (start instruction h) = .ok s
      ∧ Running instruction.operations done s := by
  induction done using List.reverseRecOn generalizing rest with
  | nil => exact ⟨_, rfl, running_start instruction h⟩
  | append_singleton done o ih =>
    have hfront : instruction.operations = done ++ o :: rest := by simp [hsplit]
    obtain ⟨s, hs, hrunning⟩ := ih hfront (List.cons_ne_nil _ _)
    obtain ⟨s', hs', hrunning'⟩ := running_step hvalid hfront hrest hrunning
    refine ⟨s', ?_, hrunning'⟩
    rw [executeOperations_append host rfl, ok_bind hs, if_neg (by simp [hrunning.retired]), hs']

theorem retire_last (hvalid : ValidOperations i operations types)
    (hsplit : operations = done ++ [o]) :
    o.opcode = .known .retireInstruction ∧ o.result = none := by
  obtain ⟨before, after, _, hchecked⟩ := hvalid.split hsplit
  have hopcode : o.opcode = .known .retireInstruction := by
    have hlast := hvalid.last
    rw [hsplit, List.getLast?_concat] at hlast
    simpa using hlast
  exact ⟨hopcode, hchecked.forbids (by rw [hopcode]; decide)⟩

variable (host) in
theorem executeOperations_retire (hvalid : ValidOperations i operations types)
    (hsplit : operations = done ++ [o]) (s : State η) :
    executeOperations host [o] s
      = .ok { s with result := { s.result with retirementReached := true } } := by
  obtain ⟨hopcode, hresult⟩ := retire_last hvalid hsplit
  have hexecute : executeOperation host o s
      = .ok (0, { s with result := { s.result with retirementReached := true } }) := by
    unfold executeOperation
    rw [hopcode]
  rw [executeOperations, if_neg (by simp [hopcode]), ok_bind hexecute]
  dsimp only
  unfold assignResult
  rw [hresult]
  rfl

/-- An exit makes no callback. -/
theorem executeOperations_exit (hopcode : o.opcode = .known .exit)
    (hresult : o.result = none) {s' : State η} (h : executeOperations host [o] s = .ok s') :
    s'.host = s.host := by
  rw [executeOperations] at h
  split_ifs at h
  · cases h
    rfl
  · have hexecute : executeOperation host o s
        = .ok (0, { s with result := { s.result with exitRequested := true } }) := by
      unfold executeOperation
      rw [hopcode]
    rw [ok_bind hexecute] at h
    unfold assignResult at h
    rw [hresult] at h
    obtain ⟨assigned, hassigned, h⟩ := bind_eq_ok h
    cases hassigned
    split_ifs at h
    · cases h
      rfl
    · cases h
      rfl

/-- What an accepted instruction promises of its execution. -/
structure ExecutesSafely (host : InterpreterHost η) (instruction : GuestInstruction) (h : η) :
    Prop where
  /-- The table of values stays small. -/
  table : (start instruction h).values.length ≤ kMaxValues + 1
  /-- Execution returns, at the retirement. -/
  returns : ∃ s, execute host instruction h = .ok s ∧ s.result.retirementReached = true
  /-- At every point the values stored so far fit their types. -/
  stores : ∀ done rest, instruction.operations = done ++ rest →
    ∃ s, executeOperations host done (start instruction h) = .ok s ∧ ∀ o ∈ done, Stored o s
  /-- No callback is made after an exit. -/
  exits : ∀ done exit rest, instruction.operations = done ++ exit :: rest →
    exit.opcode = .known .exit → ∀ s t, executeOperations host done (start instruction h) = .ok s →
      execute host instruction h = .ok t → t.host = s.host

variable (host) in
/-- The states at the end of an accepted instruction. -/
theorem execute_accepted {instruction : GuestInstruction}
    (hvalid : ValidOperations i instruction.operations types)
    (hselector : ∀ condition, instruction.takenCondition = some condition →
      types.lookup condition = some (.known .bool)) (h : η) :
    ∃ front last s t, instruction.operations = front ++ [last]
      ∧ executeOperations host front (start instruction h) = .ok s
      ∧ Running instruction.operations front s
      ∧ executeOperations host instruction.operations (start instruction h)
        = .ok { s with result := { s.result with retirementReached := true } }
      ∧ execute host instruction h = .ok t ∧ t.result.retirementReached = true
      ∧ t.host = s.host := by
  obtain ⟨front, last, hsplit⟩ : ∃ front last, instruction.operations = front ++ [last] := by
    rcases List.eq_nil_or_concat instruction.operations with hnil | ⟨front, last, hsplit⟩
    · have hlast := hvalid.last
      rw [hnil] at hlast
      cases hlast
    · exact ⟨front, last, by rw [hsplit, List.concat_eq_append]⟩
  obtain ⟨s, hs, hrunning⟩ := running_done host hvalid h front hsplit (List.cons_ne_nil _ _)
  have hretire := executeOperations_retire host hvalid hsplit s
  have hrun : executeOperations host instruction.operations (start instruction h)
      = .ok { s with result := { s.result with retirementReached := true } } := by
    have happend := executeOperations_append host (s := start instruction h) rfl
      front [last]
    rw [← hsplit] at happend
    rw [happend, ok_bind hs, if_neg (by simp [hrunning.retired]), hretire]
  have hexecute : execute host instruction h = selectCycles instruction
      { s with result := { s.result with retirementReached := true } } := ok_bind hrun _
  rw [hexecute]
  unfold selectCycles
  cases hcondition : instruction.takenCondition with
  | none =>
    refine ⟨front, last, s, { s with result := { s.result with retirementReached := true } },
      hsplit, hs, hrunning, hrun, rfl, rfl, rfl⟩
  | some condition =>
    obtain ⟨o, ho, hresult, _⟩ := (hvalid.lookup condition _).mp (hselector condition hcondition)
    have hbound := le_maxValue ho hresult
    have hlt : condition.toNat < s.values.length := by
      rw [hrunning.length]
      omega
    have hvalue : valueAt s.values condition = .ok s.values[condition.toNat] := by
      unfold valueAt
      rw [List.getElem?_eq_getElem hlt]
      rfl
    refine ⟨front, last, s, { s with result :=
      { s.result with
        retirementReached := true, cycleCondition := s.values[condition.toNat] != 0 } },
      hsplit, hs, hrunning, hrun, ?_, rfl, rfl⟩
    exact ok_bind hvalue _

/-- Every instruction of a block that validation and the limits accept executes safely, on every
host whose callbacks return. -/
theorem execute_safe {block : Block} (hvalid : validate block = .ok ())
    (hlimits : checkLimits block = true) (index : ℕ) (hindex : index < block.instructions.length)
    (host : InterpreterHost η) (h : η) : ExecutesSafely host block.instructions[index] h := by
  have hmem : block.instructions[index] ∈ block.instructions := List.getElem_mem hindex
  generalize block.instructions[index] = instruction at hmem ⊢
  obtain ⟨i, types, hoperations, hselector⟩ := validate_eq_ok hvalid instruction hmem
  obtain ⟨front, last, s, t, hsplit, hs, hrunning, hrun, hexecute, hretired, hhost⟩ :=
    execute_accepted host hoperations hselector h
  refine ⟨?_, ⟨t, hexecute, hretired⟩, ?_, ?_⟩
  · have hbound : maxValue instruction.operations ≤ kMaxValues := by
      simp only [checkLimits, instructionWithinLimits, Bool.and_eq_true, List.all_eq_true,
        decide_eq_true_eq] at hlimits
      have hnamed := (hlimits.2 instruction hmem).2
      apply foldl_max_le (Nat.zero_le _)
      intro id hid
      obtain ⟨o, ho, hnumber⟩ := List.mem_filterMap.mp hid
      obtain ⟨result, hresult, rfl⟩ := Option.map_eq_some_iff.mp hnumber
      apply hnamed o ho
      unfold namedValues
      rw [hresult]
      exact List.mem_append_left _ List.mem_cons_self
    simp only [start, List.length_replicate]
    omega
  · intro done rest hdone
    by_cases hrest : rest = []
    · rw [hrest, List.append_nil] at hdone
      refine ⟨_, hdone ▸ hrun, fun o ho id hid => ?_⟩
      rw [← hdone, hsplit] at ho
      rcases List.mem_append.mp ho with ho | ho
      · exact hrunning.stored o ho id hid
      · cases List.mem_singleton.mp ho
        rw [(retire_last hoperations hsplit).2] at hid
        cases hid
    · obtain ⟨u, hu, hrunning'⟩ := running_done host hoperations h done hdone hrest
      exact ⟨u, hu, hrunning'.stored⟩
  · intro done exit rest hdone hopcode u v hu hv
    rw [hexecute] at hv
    cases hv
    obtain ⟨before, after, _, hchecked⟩ := hoperations.split hdone
    have hposition := hchecked.exits hopcode
    have hlength := congrArg List.length hdone
    simp only [List.length_append, List.length_cons] at hlength
    obtain ⟨other, rfl⟩ := List.length_eq_one_iff.mp (show rest.length = 1 by omega)
    have hfront : front = done ++ [exit] := by
      have hends : front ++ [last] = (done ++ [exit]) ++ [other] := by
        rw [← hsplit, hdone]
        simp
      exact (List.append_inj' hends rfl).1
    obtain ⟨w, hw, hbefore⟩ := running_done host hoperations h done hdone
      (List.cons_ne_nil _ _)
    rw [hu] at hw
    cases hw
    rw [hfront, executeOperations_append host rfl, ok_bind hu, if_neg (by simp [hbefore.retired])] at hs
    rw [hhost]
    exact executeOperations_exit hopcode (hchecked.forbids (by rw [hopcode]; decide)) hs

theorem execute_safe_addition :
    ExecutesSafely (fun _ calls => (0, calls + 1))
      (additionBlock ⟨.known .value, .known .i8, 2⟩).instructions[0] 0 :=
  execute_safe (by decide) (by decide +kernel) 0 (by decide) _ 0

end ProtoTime.IR.Plugin.Interpreter
