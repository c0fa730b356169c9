import ProtoTime.InstCycle.PluginBlocks

/-!
What acceptance of a plugin block says about its operations: each one fits the
values declared before it, and an operand names a declared value. The result of
an operation is declared before its operands are looked up, so the one value an
operand can name too early is the result of its own operation.
-/
namespace ProtoTime.IR.Plugin

open Results

/-- What validation says about one operation, the `j`th of `size`. -/
structure Checked (size j : ℕ) (before after : ValueTypes) (o : Operation) : Prop where
  count : validOperandCount o.opcode o.operands.length = true
  forbids : forbidsResult o.opcode = true → o.result = none
  shape : semanticTypesValid o = true
  fresh : ∀ id, o.result = some id → before.lookup id = none
  declares : ∀ id type, after.lookup id = some type
    ↔ before.lookup id = some type ∨ o.result = some id ∧ o.resultType = type
  ids : ∀ operand ∈ o.operands, operand.kind = .known .value → operand.payload ≤ 0xFFFFFFFF#64
  uses : ∀ operand ∈ o.operands, operand.kind = .known .value →
    after.lookup operand.id = some operand.type
  retires : o.opcode = .known .retireInstruction → j + 1 = size
  exits : o.opcode = .known .exit → j + 2 = size

variable {values : ValueTypes}

theorem lookup_cons_iff {id other : ValueId} {type type' : TypeCode}
    (hfresh : values.lookup id = none) :
    List.lookup other ((id, type) :: values) = some type'
      ↔ values.lookup other = some type' ∨ id = other ∧ type = type' := by
  rw [List.lookup_cons]
  by_cases heq : other = id
  · subst heq
    simp [hfresh]
  · have hne : (other == id) = false := by simpa using heq
    simp [hne, Ne.symm heq]

variable {before : ValueTypes} {o : Operation} {invalid : String → Invalid} {after : ValueTypes}

theorem declareResult_eq_ok (h : declareResult before o invalid = .ok after) :
    (∀ id, o.result = some id → before.lookup id = none)
      ∧ ∀ id type, after.lookup id = some type
        ↔ before.lookup id = some type ∨ o.result = some id ∧ o.resultType = type := by
  unfold declareResult at h
  cases hresult : o.result with
  | none =>
    rw [hresult] at h
    split_ifs at h
    cases h
    exact ⟨nofun, fun id type => by simp⟩
  | some id =>
    rw [hresult] at h
    dsimp only at h
    split_ifs at h with hbad
    cases h
    simp only [not_or, Bool.not_eq_true, Option.isSome_eq_false_iff, Option.isNone_iff_eq_none]
      at hbad
    constructor
    · intro other hother
      cases hother
      exact hbad.2.2
    · intro other type
      rw [lookup_cons_iff hbad.2.2, Option.some.injEq]

variable {u : Unit}

theorem validateOperand_eq_ok
    {operand : Operand} (h : validateOperand values invalid operand = .ok u)
    (hkind : operand.kind = .known .value) :
    operand.payload ≤ 0xFFFFFFFF#64 ∧ values.lookup operand.id = some operand.type := by
  obtain ⟨_, hid, h⟩ := bind_eq_ok h
  have hsmall := require_eq_ok hid
  have hfound := require_eq_ok h
  simp only [operandIsId, hkind, beq_self_eq_true, Bool.true_or, Bool.not_true, Bool.false_or,
    decide_eq_true_eq] at hsmall
  simp only [hkind, bne_self_eq_false, Bool.false_or, beq_iff_eq] at hfound
  exact ⟨hsmall, hfound⟩

variable {j : ℕ}

theorem checked_of_valid {size : ℕ} (h : validateOperation size invalid j before o = .ok after) :
    Checked size j before after o := by
  obtain ⟨_, hcount, h⟩ := bind_eq_ok h
  obtain ⟨_, -, h⟩ := bind_eq_ok h
  obtain ⟨_, hforbids, h⟩ := bind_eq_ok h
  obtain ⟨declared, hdeclares, h⟩ := bind_eq_ok h
  obtain ⟨_, hoperands, h⟩ := bind_eq_ok h
  obtain ⟨_, hshape, h⟩ := bind_eq_ok h
  obtain ⟨_, -, h⟩ := bind_eq_ok h
  obtain ⟨_, hretire, h⟩ := bind_eq_ok h
  obtain ⟨_, hexit, h⟩ := bind_eq_ok h
  cases h
  obtain ⟨hfresh, hlookup⟩ := declareResult_eq_ok hdeclares
  have hforbidden := require_eq_ok hforbids
  have hlast := require_eq_ok hretire
  have hnext := require_eq_ok hexit
  refine ⟨require_eq_ok hcount, ?_, require_eq_ok hshape, hfresh, hlookup, ?_, ?_, ?_, ?_⟩
  · intro hopcode
    simpa [hopcode] using hforbidden
  · intro operand hmem hkind
    exact (validateOperand_eq_ok (forM_eq_ok hoperands operand hmem) hkind).1
  · intro operand hmem hkind
    exact (validateOperand_eq_ok (forM_eq_ok hoperands operand hmem) hkind).2
  · intro hopcode
    simpa [hopcode] using hlast
  · intro hopcode
    simpa [hopcode] using hnext

variable {i : ℕ}

theorem validateOperations_append {size : ℕ} (xs ys : List Operation) :
    validateOperations size i j values (xs ++ ys)
      = validateOperations size i j values xs >>= fun declared =>
          validateOperations size i (j + xs.length) declared ys := by
  induction xs generalizing j values with
  | nil => rfl
  | cons o xs ih =>
    rw [List.cons_append, validateOperations, validateOperations, bind_assoc]
    congr 1
    funext declared
    rw [ih, List.length_cons, Nat.add_assoc, Nat.add_comm 1 xs.length]

variable {operations : List Operation}

theorem lookup_validateOperations {size : ℕ}
    (h : validateOperations size i j before operations = .ok after) (id : ValueId)
    (type : TypeCode) :
    after.lookup id = some type ↔ before.lookup id = some type
      ∨ ∃ o ∈ operations, o.result = some id ∧ o.resultType = type := by
  induction operations generalizing j before with
  | nil =>
    cases h
    simp
  | cons o operations ih =>
    obtain ⟨declared, ho, h⟩ := bind_eq_ok h
    rw [ih h, (checked_of_valid ho).declares]
    simp only [List.mem_cons, exists_eq_or_imp, or_assoc]

structure ValidOperations (i : ℕ) (operations : List Operation) (values : ValueTypes) : Prop where
  valid : validateOperations operations.length i 0 [] operations = .ok values
  last : operations.getLast?.map (·.opcode) = some (.known .retireInstruction)

theorem ValidOperations.split (h : ValidOperations i operations values) {done : List Operation}
    {rest : List Operation} (hsplit : operations = done ++ o :: rest) :
    ∃ before after, (∀ id type, before.lookup id = some type
        ↔ ∃ p ∈ done, p.result = some id ∧ p.resultType = type)
      ∧ Checked operations.length done.length before after o := by
  have hvalid := h.valid
  generalize hsize : operations.length = size at hvalid
  rw [hsplit, validateOperations_append] at hvalid
  obtain ⟨before, hdone, hrest⟩ := bind_eq_ok hvalid
  obtain ⟨after, ho, -⟩ := bind_eq_ok hrest
  refine ⟨before, after, fun id type => ?_, ?_⟩
  · rw [lookup_validateOperations hdone]
    simp
  · rw [Nat.zero_add] at ho
    exact checked_of_valid ho

theorem ValidOperations.lookup
    (h : ValidOperations i operations values) (id : ValueId) (type : TypeCode) :
    values.lookup id = some type
      ↔ ∃ o ∈ operations, o.result = some id ∧ o.resultType = type := by
  rw [lookup_validateOperations h.valid]
  simp

theorem validateInstruction_eq_ok {count : ℕ} {expectedAddress : BitVec 64}
    {instruction : GuestInstruction}
    (h : validateInstruction count i expectedAddress instruction = .ok u) :
    ∃ values, ValidOperations i instruction.operations values
      ∧ ∀ condition, instruction.takenCondition = some condition →
        values.lookup condition = some (.known .bool) := by
  iterate 4 obtain ⟨_, -, h⟩ := bind_eq_ok h
  obtain ⟨_, hlast, h⟩ := bind_eq_ok h
  obtain ⟨values, hvalid, h⟩ := bind_eq_ok h
  obtain ⟨_, -, h⟩ := bind_eq_ok h
  obtain ⟨_, -, h⟩ := bind_eq_ok h
  obtain ⟨_, hselector, -⟩ := bind_eq_ok h
  refine ⟨values, ⟨hvalid, by simpa using require_eq_ok hlast⟩, fun condition hcondition => ?_⟩
  unfold validateSelector at hselector
  rw [hcondition] at hselector
  simpa using require_eq_ok hselector

theorem validateInstructions_eq_ok {count : ℕ} {expectedAddress last : BitVec 64}
    {instructions : List GuestInstruction}
    (h : validateInstructions count i expectedAddress instructions = .ok last) :
    ∀ instruction ∈ instructions, ∃ j values,
      ValidOperations j instruction.operations values
        ∧ ∀ condition, instruction.takenCondition = some condition →
          values.lookup condition = some (.known .bool) := by
  induction instructions generalizing i expectedAddress with
  | nil => exact fun instruction hmem => absurd hmem List.not_mem_nil
  | cons first instructions ih =>
    obtain ⟨_, hfirst, hrest⟩ := bind_eq_ok h
    intro instruction hmem
    rcases List.mem_cons.mp hmem with rfl | hmem
    · exact ⟨i, validateInstruction_eq_ok hfirst⟩
    · exact ih hrest instruction hmem

theorem validate_eq_ok {block : Block} (h : validate block = .ok u) :
    ∀ instruction ∈ block.instructions, ∃ i values,
      ValidOperations i instruction.operations values
        ∧ ∀ condition, instruction.takenCondition = some condition →
          values.lookup condition = some (.known .bool) := by
  obtain ⟨_, -, h⟩ := bind_eq_ok h
  obtain ⟨_, -, h⟩ := bind_eq_ok h
  obtain ⟨last, hinstructions, -⟩ := bind_eq_ok h
  exact validateInstructions_eq_ok hinstructions

/-! ## Definition before use -/

def Operand.Names (operand : Operand) (id : ValueId) : Prop :=
  operand.kind = .known .value ∧ operand.payload = id.setWidth 64

def UsesEarlierResults (operations : List Operation) : Prop :=
  ∀ done o rest, operations = done ++ o :: rest → ∀ operand ∈ o.operands,
    operand.kind = .known .value →
    ∃ p ∈ done, ∃ id, p.result = some id ∧ operand.Names id ∧ p.resultType = operand.type

/-- The choice of the cycle count names a boolean result. -/
def SelectorIsBool (instruction : GuestInstruction) : Prop :=
  ∀ condition, instruction.takenCondition = some condition →
    ∃ o ∈ instruction.operations, o.result = some condition ∧ o.resultType = .known .bool

def DefinedBeforeUse (block : Block) : Prop :=
  ∀ instruction ∈ block.instructions,
    UsesEarlierResults instruction.operations ∧ SelectorIsBool instruction

def UsesOwnResult (o : Operation) : Prop :=
  ∃ operand ∈ o.operands, ∃ id, o.result = some id ∧ operand.Names id

theorem setWidth_injective {a b : ValueId} (h : a.setWidth 64 = b.setWidth 64) : a = b := by
  have hnat := congrArg BitVec.toNat h
  simp only [BitVec.toNat_setWidth] at hnat
  rw [Nat.mod_eq_of_lt (by omega), Nat.mod_eq_of_lt (by omega)] at hnat
  exact BitVec.eq_of_toNat_eq hnat

theorem names_id {operand : Operand} (hkind : operand.kind = .known .value)
    (hsmall : operand.payload ≤ 0xFFFFFFFF#64) : operand.Names operand.id := by
  refine ⟨hkind, ?_⟩
  have hle : operand.payload.toNat ≤ 0xFFFFFFFF := hsmall
  apply BitVec.eq_of_toNat_eq
  unfold Operand.id
  rw [BitVec.toNat_setWidth, BitVec.toNat_setWidth]
  omega

theorem usesEarlierResults_iff (h : ValidOperations i operations values) :
    UsesEarlierResults operations ↔ ∀ o ∈ operations, ¬ UsesOwnResult o := by
  constructor
  · rintro huses o hmem ⟨operand, hoperand, id, hresult, hnames⟩
    obtain ⟨done, rest, hsplit⟩ := List.append_of_mem hmem
    obtain ⟨before, after, hbefore, hchecked⟩ := h.split hsplit
    obtain ⟨p, hp, other, hother, hsame, htype⟩ := huses done o rest hsplit operand hoperand hnames.1
    have hid : other = id := setWidth_injective (hsame.2.symm.trans hnames.2)
    have hfound : before.lookup id = some p.resultType :=
      (hbefore id p.resultType).mpr ⟨p, hp, hid ▸ hother, rfl⟩
    rw [hchecked.fresh id hresult] at hfound
    cases hfound
  · intro hown done o rest hsplit operand hoperand hkind
    obtain ⟨before, after, hbefore, hchecked⟩ := h.split hsplit
    have hnames := names_id hkind (hchecked.ids operand hoperand hkind)
    rcases (hchecked.declares _ _).mp (hchecked.uses operand hoperand hkind) with hold | ⟨hnew, _⟩
    · obtain ⟨p, hp, hresult, htype⟩ := (hbefore _ _).mp hold
      exact ⟨p, hp, operand.id, hresult, hnames, htype⟩
    · have hmem : o ∈ operations := by simp [hsplit]
      exact absurd ⟨operand, hoperand, operand.id, hnew, hnames⟩ (hown o hmem)

theorem not_usesOwnResult {block : Block} (h : validate block = .ok ())
    (hdefined : DefinedBeforeUse block) :
    ∀ instruction ∈ block.instructions, ∀ o ∈ instruction.operations, ¬ UsesOwnResult o := by
  intro instruction hmem
  obtain ⟨i, values, hvalid, _⟩ := validate_eq_ok h instruction hmem
  exact (usesEarlierResults_iff hvalid).mp (hdefined instruction hmem).1

/-- An accepted block defines every value before it uses it exactly if no operation uses its own
result. -/
theorem definedBeforeUse_iff {block : Block} (h : validate block = .ok ()) :
    DefinedBeforeUse block
      ↔ ∀ instruction ∈ block.instructions, ∀ o ∈ instruction.operations, ¬ UsesOwnResult o := by
  constructor
  · exact not_usesOwnResult h
  · intro hown instruction hmem
    obtain ⟨i, values, hvalid, hselector⟩ := validate_eq_ok h instruction hmem
    refine ⟨(usesEarlierResults_iff hvalid).mpr (hown instruction hmem), ?_⟩
    intro condition hcondition
    exact (hvalid.lookup condition _).mp (hselector condition hcondition)

def additionBlock (lhs : Operand) : Block :=
  { guestStart := 0xC000
    guestEnd := 0xC000
    mappingGeneration := 0
    guards := []
    instructions :=
      [{ address := 0xC000
         length := 1
         cyclesNotTaken := 4
         cyclesTaken := 4
         operations :=
           [{ opcode := .known .constant, result := some 1, resultType := .known .i8,
              operands := [⟨.known .immediate, .known .i8, 7⟩] },
            { opcode := .known .add, result := some 2, resultType := .known .i8,
              operands := [lhs, ⟨.known .value, .known .i8, 1⟩] },
            { opcode := .known .retireInstruction }] }]
    exit := .known .sequential }

theorem definedBeforeUse_iff_addition :
    DefinedBeforeUse (additionBlock ⟨.known .value, .known .i8, 1⟩) := by
  apply (definedBeforeUse_iff (by decide)).mpr
  intro instruction hinstruction o ho
  simp only [additionBlock, List.mem_singleton] at hinstruction
  subst hinstruction
  rintro ⟨operand, hoperand, id, hresult, hnames⟩
  simp only [List.mem_cons, List.not_mem_nil, or_false] at ho
  rcases ho with rfl | rfl | rfl
  · simp only [List.mem_singleton] at hoperand
    subst hoperand
    exact absurd hnames.1 (by decide)
  · cases hresult
    simp only [List.mem_cons, List.not_mem_nil, or_false, or_self] at hoperand
    subst hoperand
    exact absurd hnames.2 (by decide)
  · cases hresult

/-- A block whose addition reads its own result is accepted. -/
theorem not_definedBeforeUse_ownResult :
    ¬ ∀ block : Block, validate block = .ok () → DefinedBeforeUse block := by
  intro h
  have hvalid : validate (additionBlock ⟨.known .value, .known .i8, 2⟩) = .ok () := by
    decide
  have hdefined := not_usesOwnResult hvalid (h _ hvalid)
  refine hdefined _ List.mem_cons_self _ (List.mem_cons_of_mem _ List.mem_cons_self) ?_
  exact ⟨_, List.mem_cons_self, 2, rfl, rfl, by decide⟩

end ProtoTime.IR.Plugin
