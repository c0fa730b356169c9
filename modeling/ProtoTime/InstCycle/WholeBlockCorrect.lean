import Mathlib.Tactic.IntervalCases
import ProtoTime.InstCycle.InterpreterRules
import ProtoTime.InstCycle.WholeBlockEmitter

/-!
The emitted entry makes the calls of the interpreter. The declared values are the
interpreter's values, statement by statement; one instruction is then one
program, and the invocation around it is the same.
-/
namespace ProtoTime.IR.Research

open Results Interpreter

universe u

inductive Form (o : Operation) (arguments : List (BitVec 64)) : Prop where
  | readRegister (id : ℕ) (type : ValueType) (hopcode : o.opcode = .readRegister)
      (hoperands : o.operands = [.guestRegister id type])
  | writeRegister (id : ℕ) (type : ValueType) (stored : Operand) (number value : BitVec 64)
      (hopcode : o.opcode = .writeRegister) (hoperands : o.operands = [.guestRegister id type, stored])
      (harguments : arguments = [number, value])
  | loadMemory (a : Operand) (address : BitVec 64) (hopcode : o.opcode = .loadMemory)
      (hoperands : o.operands = [a]) (harguments : arguments = [address])
  | storeMemory (a stored : Operand) (address value : BitVec 64) (hopcode : o.opcode = .storeMemory)
      (hoperands : o.operands = [a, stored]) (harguments : arguments = [address, value])
  | setProgramCounter (a : Operand) (address : BitVec 64) (hopcode : o.opcode = .setProgramCounter)
      (hoperands : o.operands = [a]) (harguments : arguments = [address])
  | branch (target : Operand) (hopcode : o.opcode = .branch) (hoperands : o.operands = [target])
  | branchIf (a target : Operand) (condition address : BitVec 64) (hopcode : o.opcode = .branchIf)
      (hoperands : o.operands = [a, target]) (harguments : arguments = [condition, address])
  | callHelper (id : ℕ) (type : ValueType) (operands : List Operand) (number : BitVec 64)
      (rest : List (BitVec 64)) (hopcode : o.opcode = .callHelper)
      (hoperands : o.operands = .helper id type :: operands) (harguments : arguments = number :: rest)
  | exit (hopcode : o.opcode = .exit)
  | retireInstruction (hopcode : o.opcode = .retireInstruction)
  | computed (value : BitVec 64) (hopcode : requiresResult o.opcode = true)
      (hread : o.opcode ≠ .readRegister) (hload : o.opcode ≠ .loadMemory)
      (hvalue : compute o.opcode o.resultType o.operands arguments = some value)

variable {values : List (BitVec 64)}

theorem form_of_valid {o : Operation} {arguments : List (BitVec 64)}
    (hshape : semanticTypesValid o = true)
    (harguments : operandValues values o.operands = .ok arguments) : Form o arguments := by
  have hlength := (mapM_eq_ok harguments).length_eq
  clear harguments
  obtain ⟨opcode, result, type, operands, memoryClass⟩ := o
  unfold semanticTypesValid at hshape
  dsimp only at hshape
  split at hshape
  case h_1 | h_15 =>
    obtain ⟨x, rfl⟩ := List.length_eq_one_iff.mp hlength.symm
    exact .computed _ rfl (by simp) (by simp) rfl
  case h_2 id type' => exact .readRegister id type' rfl rfl
  case h_3 id type' stored =>
    obtain ⟨x, y, rfl⟩ := List.length_eq_two.mp hlength.symm
    exact .writeRegister id type' stored x y rfl rfl rfl
  case h_4 a =>
    obtain ⟨x, rfl⟩ := List.length_eq_one_iff.mp hlength.symm
    exact .loadMemory a x rfl rfl rfl
  case h_5 a stored =>
    obtain ⟨x, y, rfl⟩ := List.length_eq_two.mp hlength.symm
    exact .storeMemory a stored x y rfl rfl rfl
  case h_6 | h_7 | h_8 | h_9 | h_10 | h_11 | h_12 | h_13 | h_14 | h_16 | h_17 | h_18 | h_19 =>
    obtain ⟨x, y, rfl⟩ := List.length_eq_two.mp hlength.symm
    exact .computed _ rfl (by simp) (by simp) rfl
  case h_20 =>
    obtain ⟨x, y, z, rfl⟩ := List.length_eq_three.mp hlength.symm
    exact .computed _ rfl (by simp) (by simp) rfl
  case h_21 a =>
    obtain ⟨x, rfl⟩ := List.length_eq_one_iff.mp hlength.symm
    exact .setProgramCounter a x rfl rfl rfl
  case h_22 => exact .branch _ rfl rfl
  case h_23 =>
    obtain ⟨x, y, rfl⟩ := List.length_eq_two.mp hlength.symm
    exact .branchIf _ _ x y rfl rfl rfl
  case h_24 id type' operands =>
    obtain ⟨x, rest, rfl⟩ := List.exists_cons_of_length_eq_add_one hlength.symm
    exact .callHelper id type' operands x rest rfl rfl rfl
  case h_25 => exact .exit rfl
  case h_26 => exact .retireInstruction rfl
  case h_27 => cases hshape

variable {M : Type → Type u} [Monad M] [MonadExcept String M]

/-- A shaped operation is its host call and then its report. -/
theorem operationCalls_eq [LawfulMonad M] (H : HostCall → M (BitVec 64)) {o : Operation}
    {arguments : List (BitVec 64)} (hform : Form o arguments)
    (harguments : operandValues values o.operands = .ok arguments) (result : InterpreterResult) :
    operationCalls H o values result =
      operationValue H o arguments >>= fun value =>
        pure (value, resultAfter o arguments result) := by
  obtain ⟨opcode, id, type, operands, memoryClass⟩ := o
  dsimp only at harguments
  unfold operationCalls operationValue resultAfter
  rw [harguments]
  clear harguments
  dsimp only [raise]
  rw [pure_bind]
  cases hform with
  | readRegister _ _ hopcode hoperands =>
    subst hopcode hoperands
    rfl
  | writeRegister _ _ _ _ _ hopcode hoperands hvalues =>
    dsimp only at hopcode hoperands
    subst hopcode hoperands hvalues
    simp
  | loadMemory _ _ hopcode hoperands hvalues =>
    subst hopcode hoperands hvalues
    rfl
  | storeMemory _ _ _ _ hopcode hoperands hvalues =>
    dsimp only at hopcode hoperands
    subst hopcode hoperands hvalues
    simp
  | setProgramCounter _ _ hopcode hoperands hvalues =>
    subst hopcode hoperands hvalues
    simp
  | branch _ hopcode hoperands =>
    dsimp only at hopcode hoperands
    subst hopcode hoperands
    simp
  | branchIf _ _ condition _ hopcode hoperands hvalues =>
    subst hopcode hoperands hvalues
    by_cases hcondition : condition = 0#64
    · simp [hcondition]
    · simp [hcondition]
  | callHelper _ _ _ _ _ hopcode hoperands hvalues =>
    dsimp only at hopcode hoperands
    subst hopcode hoperands hvalues
    rfl
  | exit hopcode =>
    dsimp only at hopcode
    subst hopcode
    simp
  | retireInstruction hopcode =>
    dsimp only at hopcode
    subst hopcode
    simp
  | computed value hopcode hread hload hvalue =>
    cases opcode <;> simp_all [requiresResult]

structure Answers (c : Context M) (H : HostCall → M (BitVec 64)) : Prop where
  readRegister : ∀ id type, c.readRegister id type = H (.readRegister id type)
  writeRegister : ∀ id type value,
    c.writeRegister id type value = H (.writeRegister id type value) >>= fun _ => pure ()
  setProgramCounter : ∀ address,
    c.setProgramCounter address = H (.setProgramCounter address) >>= fun _ => pure ()
  loadMemory : ∀ address type memoryClass,
    c.host (.loadMemory address type memoryClass) = H (.loadMemory address type memoryClass)
  storeMemory : ∀ address type memoryClass value,
    c.host (.storeMemory address type memoryClass value) =
      H (.storeMemory address type memoryClass value)
  callHelper : ∀ id type arguments,
    c.host (.callHelper id type arguments) = H (.callHelper id type arguments)

def Evaluated (l : Locals) (operands : List Operand) (arguments : List (BitVec 64)) : Prop :=
  List.Forall₂ (fun op value => (operand op).eval l = .ok value) operands arguments

/-- Identifiers fit the 32 bits they are passed in. -/
def SmallIds (operands : List Operand) : Prop :=
  ∀ op ∈ operands, match op with
    | .value id _ | .guestRegister id _ | .helper id _ => id ≤ kMaxUint32
    | _ => True

theorem identifierOf_ofNat {id : ℕ} (h : id ≤ kMaxUint32) :
    Context.identifierOf (BitVec.ofNat 64 id) = id := by
  unfold Context.identifierOf kMaxUint32 at *
  rw [BitVec.toNat_setWidth, BitVec.toNat_ofNat]
  omega

variable [LawfulMonad M] {c : Context M} {H : HostCall → M (BitVec 64)} {o : Operation}
  {l : Locals} {arguments : List (BitVec 64)} {name : ArrayName}

/-- What an operation prints makes its host call and reports what it reports. -/
theorem emitExpression_correct (hc : Answers c H) (hform : Form o arguments)
    (hvalues : Evaluated l o.operands arguments) (hids : SmallIds o.operands)
    (harray : o.opcode = .callHelper → l.arrays.lookup name = some arguments.tail)
    {emitted : Emitted} (hemit : emitExpression name o = .ok emitted) :
    match emitted with
    | .value initializer => c.initialValue l initializer = operationValue H o arguments ∧
        resultAfter o arguments l.result = l.result
    | .statement effect => c.perform l effect = operationValue H o arguments >>= fun _ =>
        pure { l with result := resultAfter o arguments l.result } := by
  obtain ⟨opcode, id, type, operands, memoryClass⟩ := o
  unfold emitExpression at hemit
  unfold operationValue resultAfter
  dsimp only at hemit ⊢
  cases hform with
  | readRegister number _ hopcode hoperands =>
    dsimp only at hopcode hoperands
    subst hopcode hoperands
    cases hemit
    have hid := hids _ List.mem_cons_self
    refine ⟨?_, rfl⟩
    dsimp only [Context.initialValue, payload]
    rw [identifierOf_ofNat hid, hc.readRegister]
  | writeRegister number _ stored _ value hopcode hoperands hargs =>
    dsimp only at hopcode hoperands
    subst hopcode hoperands hargs
    cases hemit
    have hid := hids _ List.mem_cons_self
    obtain ⟨-, hvalues⟩ := List.forall₂_cons.mp hvalues
    obtain ⟨hvalue, -⟩ := List.forall₂_cons.mp hvalues
    dsimp only [Context.perform, payload, operandType]
    rw [hvalue, identifierOf_ofNat hid]
    simp [raise, hc.writeRegister]
  | loadMemory a address hopcode hoperands hargs =>
    dsimp only at hopcode hoperands
    subst hopcode hoperands hargs
    cases hemit
    obtain ⟨haddress, -⟩ := List.forall₂_cons.mp hvalues
    refine ⟨?_, rfl⟩
    dsimp only [Context.initialValue]
    rw [haddress]
    simp [raise, hc.loadMemory]
  | storeMemory a stored address value hopcode hoperands hargs =>
    dsimp only at hopcode hoperands
    subst hopcode hoperands hargs
    cases hemit
    obtain ⟨haddress, hvalues⟩ := List.forall₂_cons.mp hvalues
    obtain ⟨hvalue, -⟩ := List.forall₂_cons.mp hvalues
    dsimp only [Context.perform]
    rw [haddress, hvalue]
    simp [raise, hc.storeMemory]
  | setProgramCounter a address hopcode hoperands hargs =>
    dsimp only at hopcode hoperands
    subst hopcode hoperands hargs
    cases hemit
    obtain ⟨haddress, -⟩ := List.forall₂_cons.mp hvalues
    dsimp only [Context.perform]
    rw [haddress]
    simp [raise, hc.setProgramCounter]
  | branch target hopcode hoperands =>
    dsimp only at hopcode hoperands
    subst hopcode hoperands
    cases hemit
    dsimp only [Context.perform]
    simp [hc.setProgramCounter]
  | branchIf a target condition _ hopcode hoperands hargs =>
    dsimp only at hopcode hoperands
    subst hopcode hoperands hargs
    cases hemit
    obtain ⟨hcondition, -⟩ := List.forall₂_cons.mp hvalues
    dsimp only [Context.perform]
    rw [hcondition]
    by_cases hzero : condition = 0#64
    · simp [raise, hzero]
    · simp [raise, hzero, hc.setProgramCounter]
  | callHelper number _ rest _ values hopcode hoperands hargs =>
    dsimp only at hopcode hoperands
    subst hopcode hoperands hargs
    have hid := hids _ List.mem_cons_self
    have hname := harray rfl
    dsimp only [List.tail_cons] at hname
    dsimp only at hemit
    split at hemit
    · cases hemit
      dsimp only [Context.perform, Context.callHelper, payload]
      rw [hname, identifierOf_ofNat hid]
      simp [hc.callHelper]
    · cases hemit
      refine ⟨?_, rfl⟩
      dsimp only [Context.initialValue, Context.callHelper, payload]
      rw [hname, identifierOf_ofNat hid]
      exact hc.callHelper _ _ _
  | exit hopcode =>
    dsimp only at hopcode
    subst hopcode
    cases hemit
    dsimp only [Context.perform]
    simp
  | retireInstruction hopcode =>
    dsimp only at hopcode
    subst hopcode
    cases hemit
    dsimp only [Context.perform]
    simp
  | computed value hopcode hread hload hvalue =>
    -- The list of operands fixes which of the remaining opcodes can have printed it.
    rcases hvalues with _ | ⟨hx, _ | ⟨hy, _ | ⟨hz, _ | ⟨_, _⟩⟩⟩⟩ <;> cases opcode <;>
      first
        | (cases hopcode; done)
        | (exact absurd rfl hread)
        | (exact absurd rfl hload)
        | (cases hemit; done)
        | (cases hvalue; done)
        | skip
    all_goals
      cases hemit
      cases hvalue
      refine ⟨?_, rfl⟩
      dsimp only [Context.initialValue, Expr.eval, compute]
    case computed.cons.nil.constant => rw [hx, raise]
    case computed.cons.nil.bitNot =>
      rw [hx]
      rfl
    case computed.cons.cons.cons.nil.select =>
      rw [hx, hy, hz]
      simp only [bind, Except.bind]
      split <;> rfl
    all_goals
      rw [hx, hy]
      rfl

omit [LawfulMonad M] in
theorem runStatements_nil (l : Locals) : c.runStatements [] l = pure l := rfl

theorem runStatements_append (xs ys : List Statement) (l : Locals) :
    c.runStatements (xs ++ ys) l = c.runStatements xs l >>= c.runStatements ys := by
  induction xs generalizing l with
  | nil => rw [List.nil_append, runStatements_nil, pure_bind]
  | cons x xs ih =>
    rw [List.cons_append, Context.runStatements, Context.runStatements, bind_assoc]
    exact bind_congr fun l => ih l

theorem runStatements_singleton (x : Statement) (l : Locals) :
    c.runStatements [x] l = c.runStatement l x := by
  exact bind_pure _

theorem eval_congr {l' : Locals} (h : l'.values = l.values) (e : Expr) : e.eval l' = e.eval l := by
  induction e with
  | value id => rw [Expr.eval, Expr.eval, h]
  | number n => rfl
  | binary operator lhs rhs ihl ihr => rw [Expr.eval, Expr.eval, ihl, ihr]
  | bitNot operand ih => rw [Expr.eval, Expr.eval, ih]
  | conditional condition whenTrue whenFalse ihc iht ihf =>
    rw [Expr.eval, Expr.eval, ihc, iht, ihf]

theorem Evaluated.mapM_eval {operands : List Operand} (h : Evaluated l operands arguments) :
    (operands.map operand).mapM (Expr.eval l) = .ok arguments := by
  induction h with
  | nil => rfl
  | cons hop _ ih =>
    rw [List.map_cons, List.mapM_cons, hop, ih]
    rfl

def withArguments (name : ArrayName) (o : Operation) (arguments : List (BitVec 64)) (l : Locals) :
    Locals :=
  if o.opcode = .callHelper then { l with arrays := (name, arguments.tail) :: l.arrays } else l

theorem withArguments_values : (withArguments name o arguments l).values = l.values := by
  unfold withArguments
  split <;> rfl

theorem withArguments_result : (withArguments name o arguments l).result = l.result := by
  unfold withArguments
  split <;> rfl

theorem runStatements_emitArguments (hvalues : Evaluated l o.operands arguments) :
    c.runStatements (emitArguments name o) l = pure (withArguments name o arguments l) := by
  unfold emitArguments withArguments
  split
  · have htail : Evaluated l o.operands.tail arguments.tail := by
      generalize o.operands = operands at hvalues ⊢
      cases hvalues with
      | nil => exact .nil
      | cons _ hrest => exact hrest
    rw [runStatements_singleton, Context.runStatement, htail.mapM_eval]
    simp [raise]
  · rfl

theorem emitExpression_statement {effect : Effect}
    (h : emitExpression name o = .ok (.statement effect)) :
    forbidsResult o.opcode = true ∨ o.result = none := by
  obtain ⟨opcode, result, type, operands, memoryClass⟩ := o
  unfold emitExpression at h
  dsimp only at h ⊢
  split at h
  case h_20 =>
    split at h
    · rename_i hnone
      exact .inr (by simpa using hnone)
    · cases h
  all_goals first
    | exact .inl rfl
    | cases h

/-- The scope after an operation whose host call answered `value`. -/
def after (name : ArrayName) (o : Operation) (arguments : List (BitVec 64)) (l : Locals)
    (value : BitVec 64) : Locals :=
  { values := match o.result with
      | some id => (id, truncate value o.resultType) :: l.values
      | none => l.values
    arrays := (withArguments name o arguments l).arrays
    result := resultAfter o arguments l.result }

variable {statements : List Statement}

/-- An operation that is not skipped, and the scope it leaves. -/
theorem emitOperation_correct (hc : Answers c H) (hform : Form o arguments)
    (hvalues : Evaluated l o.operands arguments) (hids : SmallIds o.operands)
    (hforbids : forbidsResult o.opcode = true → o.result = none)
    (hruns : l.result.exitRequested = false ∨ o.opcode = .retireInstruction)
    (hemit : emitOperation name o = .ok statements) :
    c.runStatements statements l =
      operationValue H o arguments >>= fun value => pure (after name o arguments l value) := by
  obtain ⟨u, -, hemit⟩ := bind_eq_ok hemit
  obtain ⟨emitted, hexpression, hemit⟩ := bind_eq_ok hemit
  obtain ⟨l', hl'⟩ : ∃ l', l' = withArguments name o arguments l := ⟨_, rfl⟩
  have hsame : l'.values = l.values := by rw [hl', withArguments_values]
  have hresult : l'.result = l.result := by rw [hl', withArguments_result]
  have hvalues' : Evaluated l' o.operands arguments := by
    unfold Evaluated at hvalues ⊢
    refine hvalues.imp ?_
    intro op value hop
    rw [eval_congr hsame]
    exact hop
  have harray : o.opcode = .callHelper → l'.arrays.lookup name = some arguments.tail := by
    intro hcall
    rw [hl', withArguments, if_pos hcall]
    exact List.lookup_cons_self
  have hcorrect := emitExpression_correct hc hform hvalues' hids harray hexpression
  unfold after
  rw [← hl']
  cases emitted with
  | statement effect =>
    dsimp only at hcorrect
    have hstatements : emitArguments name o ++
        [.effect (o.opcode = .retireInstruction) effect] = statements := Except.ok.inj hemit
    have hnone : o.result = none := (emitExpression_statement hexpression).elim hforbids id
    have hguard : ¬ l'.result.exitRequested ∨ (decide (o.opcode = .retireInstruction)) = true := by
      rw [hresult]
      rcases hruns with hexit | hretire
      · exact .inl (by simp [hexit])
      · exact .inr (by simp [hretire])
    rw [← hstatements, runStatements_append, runStatements_emitArguments hvalues, pure_bind, ← hl',
      runStatements_singleton, Context.runStatement, if_pos hguard, hcorrect, hnone, hresult, hsame]
  | value initializer =>
    dsimp only at hcorrect
    obtain ⟨hinitial, hafter⟩ := hcorrect
    have hexit : ¬ l'.result.exitRequested = true := by
      rw [hresult]
      rcases hruns with hexit | hretire
      · simp [hexit]
      · simp [emitExpression, hretire] at hexpression
    cases hid : o.result with
    | none =>
      dsimp only at hemit
      rw [hid] at hemit
      cases hemit
    | some id =>
      dsimp only at hemit
      rw [hid] at hemit
      have hstatements : emitArguments name o ++ [.declare id initializer (mask o.resultType)] =
          statements := Except.ok.inj hemit
      rw [hresult] at hafter
      rw [← hstatements, runStatements_append, runStatements_emitArguments hvalues, pure_bind,
        ← hl', runStatements_singleton, Context.runStatement, if_neg hexit, hinitial, hafter]
      dsimp only
      rw [hsame]
      unfold truncate
      cases l'
      simp_all

/-- An operation after an exit declares a zero and does nothing else. -/
theorem emitOperation_skipped (hvalues : Evaluated l o.operands arguments)
    (hforbids : forbidsResult o.opcode = true → o.result = none)
    (hexit : l.result.exitRequested = true) (hretire : o.opcode ≠ .retireInstruction)
    (hemit : emitOperation name o = .ok statements) :
    c.runStatements statements l = pure
      { withArguments name o arguments l with
        values := match o.result with
          | some id => (id, 0) :: l.values
          | none => l.values } := by
  obtain ⟨u, -, hemit⟩ := bind_eq_ok hemit
  obtain ⟨emitted, hexpression, hemit⟩ := bind_eq_ok hemit
  have hskip : (withArguments name o arguments l).result.exitRequested = true := by
    rw [withArguments_result]
    exact hexit
  cases emitted with
  | statement effect =>
    have hstatements : emitArguments name o ++
        [.effect (o.opcode = .retireInstruction) effect] = statements := Except.ok.inj hemit
    have hnone : o.result = none := (emitExpression_statement hexpression).elim hforbids id
    have hguard : ¬ (¬ (withArguments name o arguments l).result.exitRequested ∨
        (decide (o.opcode = .retireInstruction)) = true) := by
      simp [hskip, hretire]
    rw [← hstatements, runStatements_append, runStatements_emitArguments hvalues, pure_bind,
      runStatements_singleton, Context.runStatement, if_neg hguard, hnone]
    dsimp only
    have hsame : l.values = (withArguments name o arguments l).values := withArguments_values.symm
    rw [hsame]
  | value initializer =>
    cases hid : o.result with
    | none =>
      rw [hid] at hemit
      cases hemit
    | some id =>
      dsimp only at hemit
      rw [hid] at hemit
      have hstatements : emitArguments name o ++ [.declare id initializer (mask o.resultType)] =
          statements := Except.ok.inj hemit
      rw [← hstatements, runStatements_append, runStatements_emitArguments hvalues, pure_bind,
        runStatements_singleton, Context.runStatement, if_pos hskip]
      dsimp only
      rw [withArguments_values]

/-- The scope of the entry and the interpreter's state agree: the values computed so far are the
declared ones, and a value not computed yet is zero. -/
structure Agree (n : ℕ) (types : ValueTypes) (l : Locals) (values : List (BitVec 64))
    (result : InterpreterResult) : Prop where
  result_eq : l.result = result
  length_eq : values.length = n
  value_eq : ∀ id < n, values[id]? = some ((l.values.lookup id).getD 0)
  declared : ∀ id, (l.values.lookup id).isSome = (types.lookup id).isSome
  bound : ∀ id, (types.lookup id).isSome = true → id < n

structure Checked (types types' : ValueTypes) (o : Operation) : Prop where
  shape : semanticTypesValid o = true
  ids : SmallIds o.operands
  forbids : forbidsResult o.opcode = true → o.result = none
  declares : match o.result with
    | some id => types.lookup id = none ∧ types' = (id, o.resultType) :: types
    | none => types' = types

variable {types types' : ValueTypes}

omit [LawfulMonad M] in
theorem checked_of_valid {size j : ℕ} {invalid : String → Invalid}
    (h : validateOperation size invalid j types o = .ok types') : Checked types types' o ∧
      (o.opcode = .retireInstruction → j + 1 = size) := by
  obtain ⟨_, -, h⟩ := bind_eq_ok h
  obtain ⟨_, -, h⟩ := bind_eq_ok h
  obtain ⟨_, hforbids, h⟩ := bind_eq_ok h
  obtain ⟨declared, hdeclares, h⟩ := bind_eq_ok h
  obtain ⟨_, hoperands, h⟩ := bind_eq_ok h
  obtain ⟨_, hshape, h⟩ := bind_eq_ok h
  obtain ⟨_, -, h⟩ := bind_eq_ok h
  obtain ⟨_, hretire, h⟩ := bind_eq_ok h
  obtain ⟨_, -, h⟩ := bind_eq_ok h
  cases h
  refine ⟨⟨require_eq_ok hshape, ?_, ?_, ?_⟩, ?_⟩
  · intro op hop
    have hvalid := forM_eq_ok hoperands op hop
    cases op with
    | value id type =>
      obtain ⟨_, hid, -⟩ := bind_eq_ok hvalid
      simpa using require_eq_ok hid
    | guestRegister id type => simpa using require_eq_ok hvalid
    | helper id type => simpa using require_eq_ok hvalid
    | _ => trivial
  · intro hopcode
    have hnone := require_eq_ok hforbids
    simpa [hopcode] using hnone
  · unfold declareResult at hdeclares
    cases hid : o.result with
    | none =>
      rw [hid] at hdeclares
      dsimp only at hdeclares
      split at hdeclares <;> cases hdeclares
      rfl
    | some id =>
      rw [hid] at hdeclares
      dsimp only at hdeclares
      by_cases hbad : id = 0 ∨ o.resultType = .void ∨ (types.lookup id).isSome = true
      · rw [if_pos hbad] at hdeclares
        cases hdeclares
      · rw [if_neg hbad] at hdeclares
        cases hdeclares
        refine ⟨?_, rfl⟩
        by_contra hsome
        exact hbad (.inr (.inr (Option.isSome_iff_ne_none.mpr hsome)))
  · intro hopcode
    have hlast := require_eq_ok hretire
    simpa [hopcode] using hlast

variable {n : ℕ} {result : InterpreterResult}

/-- A value that was declared has the same value on both sides. -/
theorem Agree.evaluated (h : Agree n types l values result) {operands : List Operand}
    (hdeclared : ∀ id type, .value id type ∈ operands → (types.lookup id).isSome = true) :
    ∃ arguments, operandValues values operands = .ok arguments ∧
      Evaluated l operands arguments := by
  induction operands with
  | nil => exact ⟨[], rfl, .nil⟩
  | cons op operands ih =>
    obtain ⟨arguments, hvalues, hevaluated⟩ :=
      ih fun id type hmem => hdeclared id type (List.mem_cons_of_mem _ hmem)
    have hop : ∃ value, operandValue values op = .ok value ∧ (operand op).eval l = .ok value := by
      cases op with
      | value id type =>
        have hsome := hdeclared id type List.mem_cons_self
        have hvalue := h.value_eq id (h.bound id hsome)
        rw [← h.declared] at hsome
        obtain ⟨value, hlookup⟩ := Option.isSome_iff_exists.mp hsome
        rw [hlookup] at hvalue
        refine ⟨value, ?_, ?_⟩
        · rw [operandValue, hvalue]
          rfl
        · rw [operand, Expr.eval, hlookup]
          rfl
      | immediate payload type => exact ⟨_, rfl, rfl⟩
      | guestRegister id type => exact ⟨_, rfl, rfl⟩
      | guestAddress address type => exact ⟨_, rfl, rfl⟩
      | blockTarget address type => exact ⟨_, rfl, rfl⟩
      | helper id type => exact ⟨_, rfl, rfl⟩
    obtain ⟨value, hvalue, heval⟩ := hop
    refine ⟨value :: arguments, ?_, .cons heval hevaluated⟩
    unfold operandValues at hvalues ⊢
    rw [List.mapM_cons, hvalue, hvalues]
    rfl

/-- Declaring a value the interpreter assigns. -/
theorem Agree.step (h : Agree n types l values result) (hchecked : Checked types types' o)
    (hbound : ∀ id, o.result = some id → id < n) {l' : Locals} {declared : BitVec 64}
    {values' : List (BitVec 64)} {result' : InterpreterResult}
    (hl' : l'.values = match o.result with
      | some id => (id, declared) :: l.values
      | none => l.values)
    (hvalues' : values' = match o.result with
      | some id => values.set id declared
      | none => values)
    (hresult : l'.result = result') : Agree n types' l' values' result' := by
  have hdeclares := hchecked.declares
  cases hid : o.result with
  | none =>
    rw [hid] at hdeclares hl' hvalues'
    rw [hdeclares, hvalues']
    exact ⟨hresult, h.length_eq, hl' ▸ h.value_eq, hl' ▸ h.declared, h.bound⟩
  | some id =>
    rw [hid] at hdeclares hl' hvalues'
    dsimp only at hdeclares hl' hvalues'
    obtain ⟨-, htypes⟩ := hdeclares
    rw [htypes, hvalues']
    have hlt := hbound id hid
    refine ⟨hresult, by rw [List.length_set, h.length_eq], ?_, ?_, ?_⟩
    · intro other hother
      rw [hl', List.lookup_cons]
      by_cases heq : other = id
      · subst heq
        simp [h.length_eq, hlt]
      · have hne : (other == id) = false := by simpa using heq
        rw [hne, List.getElem?_set_ne (Ne.symm heq)]
        exact h.value_eq other hother
    · intro other
      rw [hl', List.lookup_cons, List.lookup_cons]
      cases other == id with
      | true => rfl
      | false => exact h.declared other
    · intro other hsome
      rw [List.lookup_cons] at hsome
      by_cases heq : other = id
      · rw [heq]
        exact hlt
      · have hne : (other == id) = false := by simpa using heq
        rw [hne] at hsome
        exact h.bound other hsome

theorem Agree.set_fresh (h : Agree n types l values result) {id : ℕ} (hid : id < n)
    (hfresh : types.lookup id = none) : values.set id 0 = values := by
  have hzero := h.value_eq id hid
  have hnone : l.values.lookup id = none := by
    have hdeclared := h.declared id
    rw [hfresh] at hdeclared
    simpa using hdeclared
  rw [hnone] at hzero
  apply List.ext_getElem?
  intro i
  rw [List.getElem?_set]
  split
  · rename_i heq
    subst heq
    rw [if_pos (by rw [h.length_eq]; exact hid), hzero]
    rfl
  · rfl

def UsesDeclared (types : ValueTypes) (operations : List Operation) : Prop :=
  ∀ before o after, operations = before ++ o :: after → ∀ id type, .value id type ∈ o.operands →
    (types.lookup id).isSome = true ∨ ∃ p ∈ before, p.result = some id

theorem UsesDeclared.tail {operations : List Operation}
    (h : UsesDeclared types (o :: operations)) (hchecked : Checked types types' o) :
    UsesDeclared types' operations := by
  intro before p after heq id type hmem
  have hdeclares := hchecked.declares
  have hsome : (types.lookup id).isSome = true ∨ o.result = some id →
      (types'.lookup id).isSome = true := by
    intro hcases
    cases hid : o.result with
    | none =>
      rw [hid] at hdeclares hcases
      rw [hdeclares]
      rcases hcases with hold | hnew
      · exact hold
      · cases hnew
    | some other =>
      rw [hid] at hdeclares hcases
      dsimp only at hdeclares
      rw [hdeclares.2, List.lookup_cons]
      by_cases hsame : id = other
      · simp [hsame]
      · have hne : (id == other) = false := by simpa using hsame
        rw [hne]
        rcases hcases with hold | hnew
        · exact hold
        · cases hnew
          exact absurd rfl hsame
  rcases h (o :: before) p after (by rw [heq]; rfl) id type hmem with hold | ⟨q, hq, hqid⟩
  · exact .inl (hsome (.inl hold))
  · rcases List.mem_cons.mp hq with rfl | hq
    · exact .inl (hsome (.inr hqid))
    · exact .inr ⟨q, hq, hqid⟩

theorem resultAfter_retirementReached (ho : o.opcode ≠ .retireInstruction)
    (arguments : List (BitVec 64)) (result : InterpreterResult) :
    (resultAfter o arguments result).retirementReached = result.retirementReached := by
  unfold resultAfter
  split
  · rfl
  · split <;> rfl
  · rfl
  · rename_i hopcode
    exact absurd hopcode ho
  · rfl

variable {i : ℕ}

/-- The statements of the remaining operations make the calls of the interpreter, whatever is done
with the scope and the state they leave. -/
theorem runStatements_correct (hc : Answers c H) {size : ℕ} {index : ℕ}
    {operations : List Operation} {α : Type} {k : Locals → M α}
    {k' : List (BitVec 64) × InterpreterResult → M α}
    (hk : ∀ l values result, Agree n types' l values result → k l = k' (values, result)) {j : ℕ}
    (hvalid : validateOperations size i j types operations = .ok types')
    (hsize : j + operations.length = size) (huses : UsesDeclared types operations)
    (hemit : emitOperations index j operations = .ok statements)
    (hbound : ∀ o ∈ operations, ∀ id, o.result = some id → id < n)
    (hagree : Agree n types l values result) (hrunning : result.retirementReached = false) :
    c.runStatements statements l >>= k = operationsCalls H operations values result >>= k' := by
  induction operations generalizing j types l values result statements with
  | nil =>
    cases hvalid
    cases hemit
    rw [runStatements_nil, operationsCalls, pure_bind, pure_bind]
    exact hk l values result hagree
  | cons o operations ih =>
    obtain ⟨types₁, hoperation, hvalid⟩ := bind_eq_ok hvalid
    obtain ⟨first, hfirst, hemit⟩ := bind_eq_ok hemit
    obtain ⟨rest, hrest, hemit⟩ := bind_eq_ok hemit
    have hstatements : first ++ rest = statements := Except.ok.inj hemit
    obtain ⟨hchecked, hlast⟩ := checked_of_valid hoperation
    have hdeclared : ∀ id type, .value id type ∈ o.operands → (types.lookup id).isSome = true := by
      intro id type hmem
      rcases huses [] o operations rfl id type hmem with hold | ⟨p, hp, -⟩
      · exact hold
      · cases hp
    obtain ⟨arguments, hvalues, hevaluated⟩ := hagree.evaluated hdeclared
    have hform := form_of_valid hchecked.shape hvalues
    have hids := hbound o List.mem_cons_self
    have hlength : o.opcode ≠ .retireInstruction ∨ operations = [] := by
      by_cases hretire : o.opcode = .retireInstruction
      · have hend := hlast hretire
        rw [List.length_cons] at hsize
        exact .inr (List.length_eq_zero_iff.mp (by omega))
      · exact .inl hretire
    have hrestSize : j + 1 + operations.length = size := by
      rw [List.length_cons] at hsize
      omega
    have hrestBound : ∀ p ∈ operations, ∀ id, p.result = some id → id < n :=
      fun p hp => hbound p (List.mem_cons_of_mem _ hp)
    have hrestUses := huses.tail hchecked
    rw [← hstatements, runStatements_append, bind_assoc, operationsCalls]
    split
    · rename_i hskip
      have hexit : l.result.exitRequested = true := by
        rw [hagree.result_eq]
        exact hskip.1
      have hskipped : Agree n types₁ { withArguments (index, j) o arguments l with
          values := match o.result with
            | some id => (id, 0) :: l.values
            | none => l.values } values result := by
        refine hagree.step hchecked hids rfl ?_ (withArguments_result.trans hagree.result_eq)
        cases hid : o.result with
        | none => rfl
        | some id =>
          have hdeclares := hchecked.declares
          rw [hid] at hdeclares
          exact (hagree.set_fresh (hids id hid) hdeclares.1).symm
      rw [emitOperation_skipped hevaluated hchecked.forbids hexit hskip.2 hfirst, pure_bind]
      exact ih hvalid hrestSize hrestUses hrest hrestBound hskipped hrunning
    · rename_i hrun
      have hruns : l.result.exitRequested = false ∨ o.opcode = .retireInstruction := by
        rw [hagree.result_eq]
        by_cases hretire : o.opcode = .retireInstruction
        · exact .inr hretire
        · exact .inl (by simpa using fun hexit => hrun ⟨hexit, hretire⟩)
      rw [emitOperation_correct hc hform hevaluated hchecked.ids hchecked.forbids hruns hfirst,
        operationCalls_eq H hform hvalues, bind_assoc, bind_assoc, bind_assoc]
      refine bind_congr fun value => ?_
      rw [pure_bind, pure_bind]
      dsimp only
      have hafter : Agree n types₁ (after (index, j) o arguments l value)
          (assignResult o value values) (resultAfter o arguments result) := by
        refine hagree.step hchecked hids rfl ?_ ?_
        · unfold assignResult
          cases o.result <;> rfl
        · unfold after
          dsimp only
          rw [hagree.result_eq]
      rcases hlength with hcontinues | hend
      · have hstill : (resultAfter o arguments result).retirementReached = false := by
          rw [resultAfter_retirementReached hcontinues]
          exact hrunning
        rw [hstill, if_neg (by decide)]
        exact ih hvalid hrestSize hrestUses hrest hrestBound hafter hstill
      · subst hend
        cases hvalid
        cases hrest
        rw [runStatements_nil, pure_bind, operationsCalls, ite_self, pure_bind]
        exact hk _ _ _ hafter

/-- In a block every value is computed before it is used. -/
def DefinedEarlier (block : FinishedBlock) : Prop :=
  ∀ i ∈ block.instructions, ∀ before o after, i.operations = before ++ o :: after →
    ∀ id type, .value id type ∈ o.operands → ∃ p ∈ before, p.result = some id

/-- The scope of an emitted instruction is the interpreter's run of the instruction. -/
theorem runInstruction_correct (hc : Answers c H) {count index expectedAddress : ℕ}
    {instruction : GuestInstruction} {emitted : EmittedInstruction}
    (hvalid : validateInstruction count i expectedAddress instruction = .ok ())
    (huses : UsesDeclared [] instruction.operations)
    (hemit : emitInstruction index instruction = .ok emitted) :
    c.runInstruction emitted = executeCalls H instruction := by
  obtain ⟨_, -, hemit⟩ := bind_eq_ok hemit
  obtain ⟨statements, hstatements, hemit⟩ := bind_eq_ok hemit
  have hemitted : { statements := statements, cycleCondition := instruction.takenCondition } =
      emitted := Except.ok.inj hemit
  iterate 5 obtain ⟨_, -, hvalid⟩ := bind_eq_ok hvalid
  obtain ⟨types, hoperations, hvalid⟩ := bind_eq_ok hvalid
  obtain ⟨_, -, hvalid⟩ := bind_eq_ok hvalid
  obtain ⟨_, -, hvalid⟩ := bind_eq_ok hvalid
  have hstart : Agree (valueCount instruction.operations) [] {}
      (List.replicate (valueCount instruction.operations) 0) {} := by
    refine ⟨rfl, List.length_replicate, ?_, fun _ => rfl, ?_⟩
    · intro id hid
      rw [List.getElem?_replicate_of_lt hid]
      rfl
    · intro id hid
      cases hid
  rw [← hemitted]
  refine runStatements_correct hc ?_ hoperations (Nat.zero_add _) huses hstatements
    (fun o ho id hid => result_lt_maxValue ho hid) hstart rfl
  intro l values result hagree
  dsimp only
  cases htaken : instruction.takenCondition with
  | none => rw [hagree.result_eq]
  | some condition =>
    rw [htaken] at hvalid
    obtain ⟨_, hcondition, -⟩ := bind_eq_ok hvalid
    have hbool := require_eq_ok hcondition
    have hsome : (types.lookup condition).isSome = true := by
      rw [beq_iff_eq.mp hbool]
      rfl
    have hvalue := hagree.value_eq condition (hagree.bound condition hsome)
    rw [← hagree.declared] at hsome
    obtain ⟨value, hlookup⟩ := Option.isSome_iff_exists.mp hsome
    rw [hlookup] at hvalue
    dsimp only
    rw [Expr.eval, operandValue, hlookup, hvalue, hagree.result_eq]
    rfl

theorem runInstructions_correct (hc : Answers c H) {count index expectedAddress last : ℕ}
    {instructions : List GuestInstruction} {emitted : List EmittedInstruction}
    (hvalid : validateInstructions count i expectedAddress instructions = .ok last)
    (huses : ∀ instruction ∈ instructions, UsesDeclared [] instruction.operations)
    (hemit : emitInstructions index instructions = .ok emitted) :
    emitted.map c.runInstruction = instructions.map (executeCalls H) := by
  induction instructions generalizing i index expectedAddress emitted with
  | nil =>
    cases hemit
    rfl
  | cons instruction instructions ih =>
    obtain ⟨_, hfirst, hvalid⟩ := bind_eq_ok hvalid
    obtain ⟨first, hemitted, hemit⟩ := bind_eq_ok hemit
    obtain ⟨rest, hrest, hemit⟩ := bind_eq_ok hemit
    have heq : first :: rest = emitted := Except.ok.inj hemit
    rw [← heq, List.map_cons, List.map_cons,
      runInstruction_correct hc hfirst (huses _ List.mem_cons_self) hemitted,
      ih hvalid (fun p hp => huses p (List.mem_cons_of_mem _ hp)) hrest]

/-- What an accepted emission rests on. -/
theorem emitWholeBlock_parts {block : FinishedBlock} {id : List Char} {architecture : ℕ}
    {emitted : EmittedBlock} (h : emitWholeBlock block id architecture = .ok emitted) :
    emitted.block = block ∧ (∃ last, validateInstructions block.instructions.length 0
      block.guestStart block.instructions = .ok last) ∧
      emitInstructions 0 block.instructions = .ok emitted.instructions := by
  obtain ⟨_, -, h⟩ := bind_eq_ok h
  cases hvalid : validate block with
  | error invalid =>
    rw [hvalid] at h
    cases h
  | ok _ =>
    rw [hvalid] at h
    iterate 3 obtain ⟨_, -, h⟩ := bind_eq_ok h
    obtain ⟨instructions, hinstructions, h⟩ := bind_eq_ok h
    cases h
    obtain ⟨_, -, hvalid⟩ := bind_eq_ok hvalid
    obtain ⟨_, -, hvalid⟩ := bind_eq_ok hvalid
    obtain ⟨last, hlast, -⟩ := bind_eq_ok hvalid
    exact ⟨rfl, ⟨last, hlast⟩, hinstructions⟩

theorem execute_correct (hc : Answers c H) {block : FinishedBlock} {id : List Char}
    {architecture : ℕ} {emitted : EmittedBlock}
    (hemit : emitWholeBlock block id architecture = .ok emitted) (hdefined : DefinedEarlier block)
    (hooks : Hooks M) (instructions cycles : ℕ) :
    emitted.execute c hooks instructions cycles =
      interpretBlock block H hooks instructions cycles := by
  obtain ⟨hblock, ⟨last, hvalid⟩, hinstructions⟩ := emitWholeBlock_parts hemit
  have huses : ∀ i ∈ block.instructions, UsesDeclared [] i.operations := by
    intro i hi before o after heq id type hmem
    exact .inr (hdefined i hi before o after heq id type hmem)
  unfold EmittedBlock.execute interpretBlock
  rw [hblock, runInstructions_correct hc hvalid huses hinstructions]

end ProtoTime.IR.Research
