import Mathlib.Algebra.BigOperators.Group.List.Basic
import ProtoTime.InstCycle.WholeBlockAgreement

/-!
The accounting of one invocation. The callbacks of the owner and the emitted bodies are arbitrary
and may raise; every call of one is recorded with its answer, and the record says which
instructions were retired, what they were charged and where the invocation stopped.
-/
namespace ProtoTime.IR.Research

/-- Callbacks over a state of the owner; what they change survives what they raise. -/
abbrev Owner (σ : Type) := ExceptT String (StateM σ)

/-- One call of the hook that retires an instruction; a call that raised has no answer. -/
structure Retirement where
  instruction : GuestInstruction
  result : InterpreterResult
  progress : Progress
  answer : Option Bool

/-- The calls an entry makes through its invocation, with their answers. -/
inductive Event where
  | before (index : ℕ) (answer : Option Bool)
  | body (index : ℕ) (answer : Option InterpreterResult)
  | retire (retirement : Retirement)

structure Recorded (σ : Type) where
  owner : σ
  calls : List Event

section Recording

variable {σ α β : Type}

def record (event : Option α → Event) (act : Owner σ α) : Owner (Recorded σ) α := fun s =>
  ((act s.owner).1, ⟨(act s.owner).2, s.calls ++ [event (act s.owner).1.toOption]⟩)

def recordedHooks (hooks : Hooks (Owner σ)) : Hooks (Owner (Recorded σ)) where
  before block index := record (.before index) (hooks.before block index)
  retire instruction result progress :=
    record (fun answer => .retire ⟨instruction, result, progress, answer⟩)
      (hooks.retire instruction result progress)

def recordedBodies : ℕ → List (Owner σ InterpreterResult) →
    List (Owner (Recorded σ) InterpreterResult)
  | _, [] => []
  | index, body :: bodies => record (.body index) body :: recordedBodies (index + 1) bodies

/-- What a computation does apart from the record it keeps. -/
def Projects (act : Owner (Recorded σ) α) (plain : Owner σ α) : Prop :=
  ∀ s, ((act s).1, (act s).2.owner) = plain s.owner

theorem projects_record (event : Option α → Event) (act : Owner σ α) :
    Projects (record event act) act :=
  fun _ => rfl

theorem projects_pure (a : α) : Projects (pure a : Owner (Recorded σ) α) (pure a) :=
  fun _ => rfl

theorem projects_throw (message : String) :
    Projects (throw message : Owner (Recorded σ) α) (throw message) :=
  fun _ => rfl

theorem bind_run {S : Type} (act : Owner S α) (next : α → Owner S β) (s : S) :
    (act >>= next) s = match act s with
      | (.ok a, s') => next a s'
      | (.error message, s') => (.error message, s') := by
  change ExceptT.bindCont next (act s).1 (act s).2 = _
  rcases act s with ⟨answer, s'⟩
  cases answer <;> rfl

theorem Projects.bind {act : Owner (Recorded σ) α} {plain : Owner σ α}
    {next : α → Owner (Recorded σ) β} {plainNext : α → Owner σ β} (h : Projects act plain)
    (hnext : ∀ a, Projects (next a) (plainNext a)) :
    Projects (act >>= next) (plain >>= plainNext) := by
  intro s
  have hact := h s
  rw [bind_run, bind_run, ← hact]
  rcases act s with ⟨answer, s'⟩
  cases answer with
  | error message => rfl
  | ok a => exact hnext a s'

namespace Invocation

variable (hooks : Hooks (Owner σ))

theorem projects_retireHook (instruction : GuestInstruction) (result : InterpreterResult)
    (progress : Progress) :
    Projects ((recordedHooks hooks).retire instruction result progress)
      (hooks.retire instruction result progress) :=
  projects_record _ _

theorem projects_begin (c : Invocation) (index : ℕ) :
    Projects (c.begin (recordedHooks hooks) index) (c.begin hooks index) := by
  unfold Invocation.begin
  split_ifs
  · exact projects_throw _
  · exact projects_pure _
  · exact projects_pure _
  · apply (projects_record _ _).bind
    intro accepted
    cases accepted <;> exact projects_pure _

theorem projects_retire (c : Invocation) (index : ℕ) (result : InterpreterResult) :
    Projects (c.retire (recordedHooks hooks) index result) (c.retire hooks index result) := by
  unfold Invocation.retire
  split_ifs
  · exact projects_throw _
  · cases c.block.instructions[index]? with
    | none => exact projects_throw _
    | some instruction =>
      apply (projects_retireHook hooks _ _ _).bind
      intro continues
      split_ifs <;> exact projects_pure _

/-- Recording the calls changes nothing of the run. -/
theorem projects_runBodies (index : ℕ) (bodies : List (Owner σ InterpreterResult))
    (c : Invocation) :
    Projects (runBodies (recordedHooks hooks) index (recordedBodies index bodies) c)
      (runBodies hooks index bodies c) := by
  induction bodies generalizing index c with
  | nil => exact projects_pure _
  | cons body bodies ih =>
    apply (projects_begin hooks c index).bind
    rintro ⟨begun, c⟩
    cases begun with
    | false => exact projects_pure _
    | true =>
      apply (projects_record _ _).bind
      intro result
      apply (projects_retire hooks c index result).bind
      rintro ⟨continues, c⟩
      cases continues with
      | false => exact projects_pure _
      | true => exact ih (index + 1) c

theorem projects_execute (block : FinishedBlock) (bodies : List (Owner σ InterpreterResult))
    (instructions cycles : ℕ) :
    Projects (execute (recordedHooks hooks) block (recordedBodies 0 bodies) instructions cycles)
      (execute hooks block bodies instructions cycles) := by
  apply (projects_runBodies hooks 0 bodies _).bind
  intro c
  unfold verifyCompleted
  split_ifs
  · exact projects_throw _
  · exact projects_throw _
  · exact projects_pure _

end Invocation

end Recording

/-! ## The account -/

def Retirement.selectedCycles (r : Retirement) : ℕ :=
  if r.result.cycleCondition then r.instruction.cyclesTaken else r.instruction.cyclesNotTaken

def Retirement.leavesBlock (r : Retirement) : Bool :=
  r.result.exitRequested || r.result.branchTaken || r.instruction.controlFlow ||
    r.instruction.interruptSensitive

def chargedCycles (rs : List Retirement) : ℕ := min kMaxUint64 (rs.map (·.selectedCycles)).sum

theorem chargedCycles_append (rs : List Retirement) (r : Retirement) :
    chargedCycles (rs ++ [r]) = min kMaxUint64 (chargedCycles rs + r.selectedCycles) := by
  simp only [chargedCycles, List.map_append, List.map_cons, List.map_nil, List.sum_append,
    List.sum_cons, List.sum_nil]
  omega

def retirements (events : List Event) : List Retirement :=
  events.filterMap fun
    | .retire r => some r
    | _ => none

/-- Why the invocation stops at the boundary after these retirements, if it does. -/
def boundaryExit (maxInstructions maxCycles : ℕ) (rs : List Retirement) : Option Exit :=
  match rs.getLast? with
  | none =>
    if maxInstructions = 0 then some .instructionBudget
    else if maxCycles = 0 then some .cycleBudget
    else none
  | some r =>
    if r.answer = some false then some .observer
    else if r.leavesBlock then some .controlFlow
    else if chargedCycles rs ≥ maxCycles then some .cycleBudget
    else if rs.length ≥ maxInstructions then some .instructionBudget
    else none

/-- The calls of instructions begun, executed and retired one after the other. -/
def rounds : ℕ → List Retirement → List Event
  | _, [] => []
  | index, r :: rs =>
    .before index (some true) :: .body index (some r.result) :: .retire r :: rounds (index + 1) rs

inductive Unretired (index : ℕ) : List Event → Prop
  | declined : Unretired index [.before index (some false)]
  | guardRaised : Unretired index [.before index none]
  | bodyRaised : Unretired index [.before index (some true), .body index none]
  | withoutRetirement (result : InterpreterResult) (h : result.retirementReached = false) :
    Unretired index [.before index (some true), .body index (some result)]

/-- The retirements so far: the first instructions of the block in their order, each reached, with
the progress after it, and none of them after a boundary that stops. -/
structure Kept (block : FinishedBlock) (maxInstructions maxCycles : ℕ) (rs : List Retirement) :
    Prop where
  inOrder : rs.map (·.instruction) = block.instructions.take rs.length
  reached : ∀ r ∈ rs, r.result.retirementReached = true
  counted : ∀ k r, rs[k]? = some r → r.progress.instructions = k + 1 ∧
    r.progress.cycles = chargedCycles (rs.take (k + 1))
  boundaries : ∀ k < rs.length, boundaryExit maxInstructions maxCycles (rs.take k) = none
  answered : ∀ k r, rs[k]? = some r → k + 1 < rs.length → r.answer = some true

/-- How the calls of an invocation end: where it stopped and what its progress is, or what raised. -/
inductive Ended (block : FinishedBlock) (maxInstructions maxCycles : ℕ) (rs : List Retirement) :
    List Event → Except String Progress → Prop
  | stopped (exit : Exit) (h : boundaryExit maxInstructions maxCycles rs = some exit)
    (hanswered : ∀ r, rs.getLast? = some r → r.answer.isSome) :
    Ended block maxInstructions maxCycles rs [] (.ok ⟨rs.length, chargedCycles rs, exit⟩)
  | completed (h : boundaryExit maxInstructions maxCycles rs = none)
    (hlength : rs.length = block.instructions.length)
    (hanswered : ∀ r, rs.getLast? = some r → r.answer = some true) :
    Ended block maxInstructions maxCycles rs [] (.ok ⟨rs.length, chargedCycles rs, .completed⟩)
  | declined (h : boundaryExit maxInstructions maxCycles rs = none) :
    Ended block maxInstructions maxCycles rs [.before rs.length (some false)]
      (.ok ⟨rs.length, chargedCycles rs, .guard⟩)
  | raised (message : String) (rest : List Event)
    (h : boundaryExit maxInstructions maxCycles rs = none) (hrest : Unretired rs.length rest)
    (haccepted : rest ≠ [.before rs.length (some false)]) :
    Ended block maxInstructions maxCycles rs rest (.error message)
  | retireRaised (message : String) (r : Retirement) (h : rs.getLast? = some r)
    (hanswer : r.answer = none) : Ended block maxInstructions maxCycles rs [] (.error message)

/-- What the calls of an invocation and its outcome say of a block. -/
structure Accounted (block : FinishedBlock) (maxInstructions maxCycles : ℕ) (calls : List Event)
    (outcome : Except String Progress) : Prop where
  kept : Kept block maxInstructions maxCycles (retirements calls)
  ended : ∃ rest, calls = rounds 0 (retirements calls) ++ rest ∧
    Ended block maxInstructions maxCycles (retirements calls) rest outcome
  declined : ∀ k, Event.before k (some false) ∈ calls → k = (retirements calls).length ∧
    calls.getLast? = some (.before k (some false))
  begins : ∀ k answer, Event.before k answer ∈ calls →
    boundaryExit maxInstructions maxCycles ((retirements calls).take k) = none

theorem retirements_append (events rest : List Event) :
    retirements (events ++ rest) = retirements events ++ retirements rest :=
  List.filterMap_append

theorem retirements_rounds (index : ℕ) (rs : List Retirement) :
    retirements (rounds index rs) = rs := by
  induction rs generalizing index with
  | nil => rfl
  | cons r rs ih => exact congrArg (r :: ·) (ih (index + 1))

variable {rest : List Event}

theorem Unretired.retirements_eq {index : ℕ} (h : Unretired index rest) :
    retirements rest = [] := by
  cases h <;> rfl

variable {outcome : Except String Progress}

variable {maxInstructions maxCycles : ℕ} {block : FinishedBlock} {rs : List Retirement}

theorem Ended.retirements_eq
    (h : Ended block maxInstructions maxCycles rs rest outcome) : retirements rest = [] := by
  cases h with
  | raised message rest h hrest haccepted => exact hrest.retirements_eq
  | stopped | completed | declined | retireRaised => rfl

theorem rounds_append (index : ℕ) (rs : List Retirement) (r : Retirement) :
    rounds index (rs ++ [r]) = rounds index rs ++ [.before (index + rs.length) (some true),
      .body (index + rs.length) (some r.result), .retire r] := by
  induction rs generalizing index with
  | nil => rfl
  | cons first rs ih =>
    simp only [List.cons_append, rounds, ih, List.length_cons]
    rw [show index + 1 + rs.length = index + (rs.length + 1) by omega]

variable {k : ℕ}

variable {answer : Option Bool}

theorem before_mem_rounds {index : ℕ} (h : Event.before k answer ∈ rounds index rs) :
    answer = some true ∧ index ≤ k ∧ k < index + rs.length := by
  induction rs generalizing index with
  | nil => cases h
  | cons r rs ih =>
    simp only [rounds, List.mem_cons, Event.before.injEq, reduceCtorEq, false_or] at h
    rw [List.length_cons]
    rcases h with ⟨rfl, rfl⟩ | h
    · exact ⟨rfl, Nat.le_refl _, by omega⟩
    · obtain ⟨hanswer, hle, hlt⟩ := ih h
      exact ⟨hanswer, by omega, by omega⟩

theorem Unretired.before_mem {index : ℕ}
    (h : Unretired index rest) (hmem : Event.before k answer ∈ rest) :
    k = index ∧ (answer = some false → rest = [.before k (some false)]) := by
  cases h <;> simp_all

theorem Ended.before_mem (h : Ended block maxInstructions maxCycles rs rest outcome)
    (hmem : Event.before k answer ∈ rest) :
    k = rs.length ∧ boundaryExit maxInstructions maxCycles rs = none ∧
      (answer = some false → rest = [.before k (some false)]) := by
  cases h with
  | stopped | completed | retireRaised => cases hmem
  | declined h =>
    obtain ⟨hk, hanswer⟩ := Unretired.declined.before_mem hmem
    exact ⟨hk, h, hanswer⟩
  | raised message rest h hrest haccepted =>
    obtain ⟨hk, hanswer⟩ := hrest.before_mem hmem
    exact ⟨hk, h, hanswer⟩

/-- The account of the calls follows from their rounds and their end. -/
theorem accounted_of_ended (hkept : Kept block maxInstructions maxCycles rs)
    (hended : Ended block maxInstructions maxCycles rs rest outcome) :
    Accounted block maxInstructions maxCycles (rounds 0 rs ++ rest) outcome := by
  have hretirements : retirements (rounds 0 rs ++ rest) = rs := by
    rw [retirements_append, retirements_rounds, hended.retirements_eq, List.append_nil]
  constructor
  · rwa [hretirements]
  · rw [hretirements]
    exact ⟨rest, rfl, hended⟩
  · intro k hmem
    rw [hretirements]
    rcases List.mem_append.mp hmem with hmem | hmem
    · cases (before_mem_rounds hmem).1
    · obtain ⟨hk, _, hrest⟩ := hended.before_mem hmem
      rw [hrest rfl]
      exact ⟨hk, by simp⟩
  · intro k answer hmem
    rw [hretirements]
    rcases List.mem_append.mp hmem with hmem | hmem
    · obtain ⟨_, _, hlt⟩ := before_mem_rounds hmem
      exact hkept.boundaries k (by omega)
    · obtain ⟨rfl, hboundary, _⟩ := hended.before_mem hmem
      rwa [List.take_length]

/-! ## One run -/

section Runs

variable {σ : Type} {block : FinishedBlock} {maxInstructions maxCycles : ℕ}
  {rs : List Retirement}

theorem budgets_left (h : boundaryExit maxInstructions maxCycles rs = none) :
    rs.length < maxInstructions ∧ chargedCycles rs < maxCycles := by
  unfold boundaryExit at h
  cases hlast : rs.getLast? with
  | none =>
    obtain rfl := List.getLast?_eq_none_iff.mp hlast
    simp only [List.getLast?_nil] at h
    split_ifs at h with hinstructions hcycles
    exact ⟨Nat.pos_of_ne_zero hinstructions,
      lt_of_le_of_lt (Nat.min_le_right _ _) (Nat.pos_of_ne_zero hcycles)⟩
  | some r =>
    simp only [hlast] at h
    split_ifs at h with _ _ hcycles hinstructions
    exact ⟨not_le.mp hinstructions, not_le.mp hcycles⟩

theorem boundaryExit_append (r : Retirement) :
    boundaryExit maxInstructions maxCycles (rs ++ [r]) =
      if r.answer = some false then some .observer
      else if r.leavesBlock then some .controlFlow
      else if chargedCycles (rs ++ [r]) ≥ maxCycles then some .cycleBudget
      else if rs.length + 1 ≥ maxInstructions then some .instructionBudget
      else none := by
  unfold boundaryExit
  rw [List.getLast?_append_of_ne_nil _ (by simp)]
  simp only [List.getLast?_singleton, List.length_append, List.length_cons, List.length_nil,
    Nat.zero_add]

/-- The retirement of the next instruction. -/
theorem Kept.append (h : Kept block maxInstructions maxCycles rs)
    (hrunning : boundaryExit maxInstructions maxCycles rs = none)
    (hanswered : ∀ r, rs.getLast? = some r → r.answer = some true) {r : Retirement}
    (hinstruction : block.instructions[rs.length]? = some r.instruction)
    (hreached : r.result.retirementReached = true)
    (hinstructions : r.progress.instructions = rs.length + 1)
    (hcycles : r.progress.cycles = chargedCycles (rs ++ [r])) :
    Kept block maxInstructions maxCycles (rs ++ [r]) := by
  constructor
  · rw [List.map_append, h.inOrder, List.length_append, List.length_singleton,
      List.take_add_one, hinstruction]
    rfl
  · intro r' hr'
    rcases List.mem_append.mp hr' with hr' | hr'
    · exact h.reached r' hr'
    · rw [List.mem_singleton.mp hr']
      exact hreached
  · intro k r' hr'
    rcases Nat.lt_or_ge k rs.length with hk | hk
    · rw [List.getElem?_append_left hk] at hr'
      rw [List.take_append_of_le_length hk]
      exact h.counted k r' hr'
    · rw [List.getElem?_append_right hk] at hr'
      rw [List.getElem?_singleton] at hr'
      split_ifs at hr' with hzero
      obtain rfl := Option.some.inj hr'
      obtain rfl : k = rs.length := by omega
      rw [List.take_of_length_le (by simp)]
      exact ⟨hinstructions, hcycles⟩
  · intro k hk
    rw [List.length_append, List.length_singleton] at hk
    rcases Nat.lt_or_ge k rs.length with hlt | hle
    · rw [List.take_append_of_le_length hlt.le]
      exact h.boundaries k hlt
    · obtain rfl : k = rs.length := by omega
      rwa [List.take_left]
  · intro k r' hr' hk
    rw [List.length_append, List.length_singleton] at hk
    rw [List.getElem?_append_left (by omega)] at hr'
    rcases Nat.lt_or_ge (k + 1) rs.length with hlt | hle
    · exact h.answered k r' hr' hlt
    · obtain rfl : k = rs.length - 1 := by omega
      exact hanswered r' (by rw [List.getLast?_eq_getElem?, hr'])

def between (block : FinishedBlock) (maxInstructions maxCycles : ℕ) (rs : List Retirement) :
    Invocation where
  block := block
  maxInstructions := maxInstructions
  maxCycles := maxCycles
  progress := ⟨rs.length, chargedCycles rs, .completed⟩

/-- The invocation within an instruction. -/
def executing (block : FinishedBlock) (maxInstructions maxCycles : ℕ) (rs : List Retirement) :
    Invocation :=
  { between block maxInstructions maxCycles rs with begun := true }

variable (hooks : Hooks (Owner σ)) (s : Recorded σ)

theorem begin_running (hrunning : boundaryExit maxInstructions maxCycles rs = none)
    (hlt : rs.length < block.instructions.length) :
    (between block maxInstructions maxCycles rs).begin (recordedHooks hooks) rs.length s =
      match hooks.before block rs.length s.owner with
      | (.ok true, owner) => (.ok (true, executing block maxInstructions maxCycles rs), ⟨owner, s.calls ++ [.before rs.length (some true)]⟩)
      | (.ok false, owner) => (.ok (false, (between block maxInstructions maxCycles rs).stop .guard),
          ⟨owner, s.calls ++ [.before rs.length (some false)]⟩)
      | (.error message, owner) =>
        (.error message, ⟨owner, s.calls ++ [.before rs.length none]⟩) := by
  obtain ⟨hinstructions, hcycles⟩ := budgets_left hrunning
  unfold Invocation.begin
  rw [if_neg (by simp [between, hlt]), if_neg (by simpa [between] using hinstructions),
    if_neg (by simpa [between] using hcycles), bind_run]
  simp only [recordedHooks, record, between]
  rcases hooks.before block rs.length s.owner with ⟨_ | accepted, owner⟩
  · rfl
  · cases accepted <;> rfl

theorem begin_stopped {exit : Exit} (h : boundaryExit maxInstructions maxCycles [] = some exit)
    (hlt : 0 < block.instructions.length) :
    (between block maxInstructions maxCycles []).begin (recordedHooks hooks) 0 s =
      (.ok (false, (between block maxInstructions maxCycles []).stop exit), s) := by
  unfold boundaryExit at h
  simp only [List.getLast?_nil] at h
  unfold Invocation.begin
  rw [if_neg (by simpa [between] using List.ne_nil_of_length_pos hlt)]
  split_ifs at h with hinstructions hcycles
  · obtain rfl := Option.some.inj h
    rw [if_pos (by simp [between, hinstructions])]
    rfl
  · obtain rfl := Option.some.inj h
    rw [if_neg (by simpa [between] using hinstructions), if_pos (by simp [between, hcycles])]
    rfl

/-- The progress that the hook of the next retirement is given, and the retirement it makes. -/
def progressAfter (rs : List Retirement) (instruction : GuestInstruction)
    (result : InterpreterResult) : Progress where
  instructions := rs.length + 1
  cycles := min kMaxUint64 (chargedCycles rs + if result.cycleCondition then instruction.cyclesTaken
    else instruction.cyclesNotTaken)

def nextRetirement (rs : List Retirement) (instruction : GuestInstruction)
    (result : InterpreterResult) (answer : Option Bool) : Retirement :=
  ⟨instruction, result, progressAfter rs instruction result, answer⟩

theorem between_append (instruction : GuestInstruction) (result : InterpreterResult)
    (answer : Option Bool) :
    between block maxInstructions maxCycles (rs ++ [nextRetirement rs instruction result answer]) =
      (executing block maxInstructions maxCycles rs).retired instruction result := by
  unfold executing between Invocation.retired
  rw [chargedCycles_append, List.length_append, List.length_singleton]
  rfl

variable {result : InterpreterResult}

variable {instruction : GuestInstruction}

/-- The retirement of an instruction ends at the boundary after it. -/
theorem retire_run (hinstruction : block.instructions[rs.length]? = some instruction)
    (hreached : result.retirementReached = true) :
    (executing block maxInstructions maxCycles rs).retire (recordedHooks hooks) rs.length result s =
      match hooks.retire instruction result (progressAfter rs instruction result) s.owner with
      | (.error message, owner) => (.error message,
        ⟨owner, s.calls ++ [.retire (nextRetirement rs instruction result none)]⟩)
      | (.ok answer, owner) =>
        (.ok (match boundaryExit maxInstructions maxCycles
            (rs ++ [nextRetirement rs instruction result (some answer)]) with
          | some exit => (false, (between block maxInstructions maxCycles
              (rs ++ [nextRetirement rs instruction result (some answer)])).stop exit)
          | none => (true, between block maxInstructions maxCycles
              (rs ++ [nextRetirement rs instruction result (some answer)]))),
          ⟨owner, s.calls ++ [.retire (nextRetirement rs instruction result (some answer))]⟩) := by
  have hprogress : ((executing block maxInstructions maxCycles rs).retired instruction
      result).progress = progressAfter rs instruction result := rfl
  have hblock : (executing block maxInstructions maxCycles rs).block = block := rfl
  have hcycles (answer : Option Bool) :
      chargedCycles (rs ++ [nextRetirement rs instruction result answer]) =
        (progressAfter rs instruction result).cycles := chargedCycles_append rs _
  have hbudgets : ((executing block maxInstructions maxCycles rs).retired instruction
      result).maxCycles = maxCycles ∧ ((executing block maxInstructions maxCycles rs).retired
      instruction result).maxInstructions = maxInstructions ∧
      (progressAfter rs instruction result).instructions = rs.length + 1 := ⟨rfl, rfl, rfl⟩
  unfold Invocation.retire
  rw [if_neg (by simp [executing, between, hreached]), hblock, hinstruction]
  dsimp only
  rw [bind_run, recordedHooks, hprogress]
  simp only [record]
  rcases hooks.retire instruction result (progressAfter rs instruction result) s.owner with
    ⟨message | answer, owner⟩
  · rfl
  · dsimp only [Except.toOption]
    rw [boundaryExit_append, hcycles, between_append, hbudgets.1, hbudgets.2.1, hbudgets.2.2]
    cases answer with
    | false => rfl
    | true =>
      simp only [nextRetirement, not_true_eq_false, if_false, Option.some.injEq,
        Bool.true_eq_false, Retirement.leavesBlock, Bool.or_eq_true, or_assoc]
      split_ifs <;> rfl

/-- The calls of a run are accounted for, and no instruction is left open. -/
def RunAccounted (block : FinishedBlock) (maxInstructions maxCycles : ℕ)
    (run : Except String Invocation × Recorded σ) : Prop :=
  ∃ rs rest, run.2.calls = rounds 0 rs ++ rest ∧ Kept block maxInstructions maxCycles rs ∧
    Ended block maxInstructions maxCycles rs rest (run.1.map (·.progress)) ∧
    ∀ c, run.1 = .ok c → c.begun = false ∧ c.block = block

/-- Between two instructions: every retired one was answered, and nothing stops there but the
budgets of an invocation that has not begun. -/
structure Ready (block : FinishedBlock) (maxInstructions maxCycles : ℕ) (rs : List Retirement)
    (calls : List Event) : Prop where
  kept : Kept block maxInstructions maxCycles rs
  running : rs ≠ [] → boundaryExit maxInstructions maxCycles rs = none
  answered : ∀ r, rs.getLast? = some r → r.answer = some true
  calls_eq : calls = rounds 0 rs

variable {calls : List Event}

section

variable (h : Ready block maxInstructions maxCycles rs calls)

include h

theorem Ready.accounted_rest {owner : σ} {outcome : Except String Invocation}
    (hended : Ended block maxInstructions maxCycles rs rest (outcome.map (·.progress)))
    (hclosed : ∀ c, outcome = .ok c → c.begun = false ∧ c.block = block) :
    RunAccounted block maxInstructions maxCycles (outcome, ⟨owner, calls ++ rest⟩) :=
  ⟨rs, rest, by rw [h.calls_eq], h.kept, hended, hclosed⟩

theorem Ready.calls_append (r : Retirement) :
    calls ++ [Event.before rs.length (some true)] ++ [Event.body rs.length (some r.result)] ++
      [Event.retire r] = rounds 0 (rs ++ [r]) := by
  rw [h.calls_eq, rounds_append]
  simp

theorem Ready.append
    (hrunning : boundaryExit maxInstructions maxCycles rs = none) (answer : Option Bool)
    (hinstruction : block.instructions[rs.length]? = some instruction)
    (hreached : result.retirementReached = true) :
    Kept block maxInstructions maxCycles (rs ++ [nextRetirement rs instruction result answer]) :=
  h.kept.append hrunning h.answered hinstruction hreached rfl
    (chargedCycles_append rs (nextRetirement rs instruction result answer)).symm

end

/-- The end of a round. The rest of the run is reached from between the instruction and the next. -/
theorem retire_accounted {next : Invocation → Owner (Recorded σ) Invocation}
    (hready : Ready block maxInstructions maxCycles rs calls)
    (hrunning : boundaryExit maxInstructions maxCycles rs = none)
    (hcalls : s.calls = calls ++ [.before rs.length (some true)] ++ [.body rs.length (some result)])
    (hinstruction : block.instructions[rs.length]? = some instruction)
    (hnext : ∀ r s', Ready block maxInstructions maxCycles (rs ++ [r]) s'.calls →
      RunAccounted block maxInstructions maxCycles
        (next (between block maxInstructions maxCycles (rs ++ [r])) s')) :
    RunAccounted block maxInstructions maxCycles ((do
      let (continues, c) ← (executing block maxInstructions maxCycles rs).retire
        (recordedHooks hooks) rs.length result
      if ¬ continues then pure c else next c) s) := by
  rw [bind_run]
  by_cases hreached : result.retirementReached = true
  · rw [retire_run hooks s hinstruction hreached, hcalls]
    have hround (answer : Option Bool) :=
      hready.calls_append (nextRetirement rs instruction result answer)
    have hkept (answer : Option Bool) := hready.append hrunning answer hinstruction hreached
    rcases hooks.retire instruction result (progressAfter rs instruction result) s.owner with
      ⟨message | answer, owner⟩
    · exact ⟨_, [], (hround none).trans (List.append_nil _).symm, hkept none,
        .retireRaised message _ List.getLast?_concat rfl, nofun⟩
    · dsimp only
      cases hboundary : boundaryExit maxInstructions maxCycles
          (rs ++ [nextRetirement rs instruction result (some answer)]) with
      | some exit =>
        refine ⟨_, [], (hround (some answer)).trans (List.append_nil _).symm, hkept (some answer),
          .stopped exit hboundary ?_, ?_⟩
        · intro r hr
          rw [List.getLast?_concat] at hr
          rw [← Option.some.inj hr]
          rfl
        · intro c hc
          cases hc
          exact ⟨rfl, rfl⟩
      | none =>
        have hanswer : answer = true := by
          rw [boundaryExit_append] at hboundary
          by_contra hfalse
          rw [if_pos (by simpa [nextRetirement] using hfalse)] at hboundary
          cases hboundary
        apply hnext
        constructor
        · exact hkept (some answer)
        · exact fun _ => hboundary
        · intro r hr
          rw [List.getLast?_concat] at hr
          rw [← Option.some.inj hr, hanswer]
          rfl
        · exact hround (some answer)
  · unfold Invocation.retire
    rw [if_pos (by simp [hreached])]
    obtain ⟨owner, calls'⟩ := s
    dsimp only at hcalls
    rw [hcalls, List.append_assoc]
    exact hready.accounted_rest (.raised _ _ hrunning
      (.withoutRetirement result (by simpa using hreached)) (by simp)) nofun

/-- The rest of a run from between two instructions: one round, and from it by induction the others. -/
theorem runBodies_accounted (bodies : List (Owner σ InterpreterResult))
    (hready : Ready block maxInstructions maxCycles rs s.calls)
    (hlength : rs.length + bodies.length = block.instructions.length)
    (hblock : 0 < block.instructions.length) :
    RunAccounted block maxInstructions maxCycles
      (Invocation.runBodies (recordedHooks hooks) rs.length (recordedBodies rs.length bodies)
        (between block maxInstructions maxCycles rs) s) := by
  induction bodies generalizing rs s with
  | nil =>
    have hne : rs ≠ [] := by
      rintro rfl
      rw [List.length_nil, List.length_nil] at hlength
      omega
    refine ⟨rs, [], hready.calls_eq.trans (List.append_nil _).symm, hready.kept,
      .completed (hready.running hne) hlength hready.answered, ?_⟩
    intro c hc
    cases hc
    exact ⟨rfl, rfl⟩
  | cons body bodies ih =>
    rw [List.length_cons] at hlength
    have hlt : rs.length < block.instructions.length := by omega
    unfold recordedBodies Invocation.runBodies
    rw [bind_run]
    cases hboundary : boundaryExit maxInstructions maxCycles rs with
    | some exit =>
      -- between two instructions only the budgets of the whole invocation stop
      obtain rfl : rs = [] := by
        by_contra hne
        rw [hready.running hne] at hboundary
        cases hboundary
      rw [List.length_nil, begin_stopped hooks s hboundary hblock]
      refine ⟨[], [], hready.calls_eq.trans (List.append_nil _).symm, hready.kept,
        .stopped exit hboundary (by simp), ?_⟩
      intro c hc
      cases hc
      exact ⟨rfl, rfl⟩
    | none =>
      rw [begin_running hooks s hboundary hlt]
      rcases hooks.before block rs.length s.owner with ⟨message | accepted, owner⟩
      · exact hready.accounted_rest (.raised message _ hboundary .guardRaised (by simp)) nofun
      · cases accepted with
        | false =>
          apply hready.accounted_rest (.declined hboundary)
          intro c hc
          cases hc
          exact ⟨rfl, rfl⟩
        | true =>
          dsimp only
          rw [if_neg (by simp), bind_run]
          simp only [record]
          rcases body owner with ⟨message | result, owner⟩
          · rw [List.append_assoc]
            exact hready.accounted_rest (.raised message _ hboundary .bodyRaised (by simp)) nofun
          · apply retire_accounted hooks _ hready hboundary rfl (List.getElem?_eq_getElem hlt)
            intro r s' hready'
            have hsize : (rs ++ [r]).length = rs.length + 1 := List.length_append
            rw [← hsize]
            exact ih s' hready' (by omega)

end Runs

theorem ready_nil (block : FinishedBlock) (maxInstructions maxCycles : ℕ) :
    Ready block maxInstructions maxCycles [] [] where
  kept := by constructor <;> simp
  running h := absurd rfl h
  answered := by simp
  calls_eq := rfl

theorem verifyCompleted_run {S : Type} {c : Invocation} (hbegun : c.begun = false)
    (hcompleted : c.progress.exit = .completed →
      c.progress.instructions = c.block.instructions.length) (s : S) :
    (c.verifyCompleted : Owner S Progress) s = (.ok c.progress, s) := by
  unfold Invocation.verifyCompleted
  rw [if_neg (by simp [hbegun]), if_neg (by simpa using hcompleted)]
  rfl

theorem Ended.completed_length {progress : Progress}
    (h : Ended block maxInstructions maxCycles rs rest (.ok progress))
    (hexit : progress.exit = .completed) : progress.instructions = block.instructions.length := by
  cases h with
  | completed _ hlength _ => exact hlength
  | declined _ => cases hexit
  | stopped exit h _ =>
    obtain rfl : exit = .completed := hexit
    unfold boundaryExit at h
    split at h <;> split_ifs at h <;> simp at h

theorem nonempty_of_validate (h : validate block = .ok ()) :
    0 < block.instructions.length := by
  cases hinstructions : block.instructions with
  | nil => simp [validate, hinstructions, Results.require, bind, Except.bind] at h
  | cons instruction instructions => simp

/-- For every validated block, every owner, every body of its instructions and every budgets, what
an entry does is accounted for: an instruction is retired after its guard accepted it, each once and
in order, with the number of the retirements and the saturating sum of the selected cycles; and it
stops at the first boundary where a budget is met, the owner declines or the block is left. -/
theorem invocation_accounted {σ : Type} {block : FinishedBlock} (hvalid : validate block = .ok ())
    (hooks : Hooks (Owner σ)) (bodies : List (Owner σ InterpreterResult))
    (hbodies : bodies.length = block.instructions.length) (maxInstructions maxCycles : ℕ)
    (owner : σ) :
    ∃ calls, Invocation.execute (recordedHooks hooks) block (recordedBodies 0 bodies)
        maxInstructions maxCycles ⟨owner, []⟩ =
      ((Invocation.execute hooks block bodies maxInstructions maxCycles owner).1,
        ⟨(Invocation.execute hooks block bodies maxInstructions maxCycles owner).2, calls⟩) ∧
      Accounted block maxInstructions maxCycles calls
        (Invocation.execute hooks block bodies maxInstructions maxCycles owner).1 := by
  have hprojects := Invocation.projects_execute hooks block bodies maxInstructions maxCycles
    ⟨owner, []⟩
  rw [← hprojects]
  refine ⟨_, rfl, ?_⟩
  obtain ⟨rs, rest, hcalls, hkept, hended, hclosed⟩ := runBodies_accounted hooks ⟨owner, []⟩ bodies
    (ready_nil block maxInstructions maxCycles) (by simpa using hbodies)
    (nonempty_of_validate hvalid)
  change Accounted block maxInstructions maxCycles
    ((Invocation.runBodies (recordedHooks hooks) 0 (recordedBodies 0 bodies)
      (between block maxInstructions maxCycles []) >>= Invocation.verifyCompleted) ⟨owner, []⟩).2.calls
    ((Invocation.runBodies (recordedHooks hooks) 0 (recordedBodies 0 bodies)
      (between block maxInstructions maxCycles []) >>= Invocation.verifyCompleted) ⟨owner, []⟩).1
  rw [bind_run]
  rw [List.length_nil] at hcalls hended hclosed
  revert hcalls hended hclosed
  generalize Invocation.runBodies (recordedHooks hooks) 0 (recordedBodies 0 bodies)
    (between block maxInstructions maxCycles []) ⟨owner, []⟩ = run
  intro hcalls hended hclosed
  obtain ⟨message | c, after⟩ := run
  · dsimp only at hcalls ⊢
    rw [hcalls]
    exact accounted_of_ended hkept hended
  · obtain ⟨hbegun, rfl⟩ := hclosed c rfl
    dsimp only
    rw [verifyCompleted_run hbegun hended.completed_length]
    dsimp only at hcalls ⊢
    rw [hcalls]
    exact accounted_of_ended hkept hended

/-- An entry that retires the only instruction. -/
theorem invocation_accounted_sample :
    ∃ calls, Invocation.execute (recordedHooks (σ := Unit)
        { before := fun _ _ => pure true, retire := fun _ _ _ => pure true }) Sample.block
        (recordedBodies 0 [pure { retirementReached := true }]) 16 100 ⟨(), []⟩ =
      (.ok ⟨1, 8, .completed⟩, ⟨(), calls⟩) ∧
      Accounted Sample.block 16 100 calls (.ok ⟨1, 8, .completed⟩) :=
  @invocation_accounted Unit Sample.block rfl
    { before := fun _ _ => pure true, retire := fun _ _ _ => pure true }
    [pure { retirementReached := true }] rfl 16 100 ()

end ProtoTime.IR.Research
