import ProtoTime.Script.ScriptEngine

/-!
What a successful evaluation says about the calls that were made: each was permitted, valid and
within the budget, and the recipe is what they staged, in their order.
-/
namespace ProtoTime.Script

open Debug (Address Byte Registers Command Reply ByteEdit)
open Transaction

variable (H : Host) {calls : List Call}

namespace Invocation

variable (inv : Invocation)

/-- The call is permitted, valid and within the budget. -/
def Allows : Call → Prop
  | .budget count late => count ≤ inv.limits.instructions - inv.work ∧ late = false
  | .setRegister name value =>
    inv.accepting = true ∧ inv.permissions.registers = true
      ∧ ∃ pair, pairIndex inv.snapshot.core name = some pair
        ∧ fitsRegister inv.snapshot.core pair value = true
  | .setByte _ _ =>
    inv.accepting = true ∧ inv.permissions.ram = true ∧ inv.staged.byteCount ≠ 64
  | .output text =>
    inv.accepting = true ∧ inv.permissions.reports = true
      ∧ text.length ≤ 65536 - inv.report.length
  | .reject => False
  | .getRegister _ | .getByte _ | .close => True

/-! ## One call -/

structure SameRequest (inv next : Invocation) : Prop where
  snapshot : next.snapshot = inv.snapshot
  permissions : next.permissions = inv.permissions
  limits : next.limits = inv.limits
  operation : next.staged.operation = inv.staged.operation
  generation : next.staged.generation = inv.staged.generation
  pauseId : next.staged.pauseId = inv.staged.pauseId

theorem SameRequest.refl : SameRequest inv inv := ⟨rfl, rfl, rfl, rfl, rfl, rfl⟩

theorem SameRequest.trans {a b c : Invocation} (hab : SameRequest a b) (hbc : SameRequest b c) :
    SameRequest a c :=
  ⟨hbc.snapshot.trans hab.snapshot, hbc.permissions.trans hab.permissions,
    hbc.limits.trans hab.limits, hbc.operation.trans hab.operation,
    hbc.generation.trans hab.generation, hbc.pauseId.trans hab.pauseId⟩

theorem step_sameRequest (c : Call) : SameRequest inv (inv.step c) := by
  have hrefuse : SameRequest inv inv.refuse.2 := ⟨rfl, rfl, rfl, rfl, rfl, rfl⟩
  have hdeny : ∀ permitted, SameRequest inv (inv.deny permitted).2 :=
    fun _ => ⟨rfl, rfl, rfl, rfl, rfl, rfl⟩
  cases c with
  | budget count late =>
    show SameRequest inv (inv.budget count late).2
    unfold budget
    split
    · exact hrefuse
    · split
      · exact ⟨rfl, rfl, rfl, rfl, rfl, rfl⟩
      · exact ⟨rfl, rfl, rfl, rfl, rfl, rfl⟩
  | getRegister name => exact SameRequest.refl inv
  | setRegister name value =>
    show SameRequest inv (inv.setRegister name value).2
    unfold setRegister
    split
    · exact hdeny _
    · split
      · exact hrefuse
      · split
        · exact ⟨rfl, rfl, rfl, rfl, rfl, rfl⟩
        · exact hrefuse
  | getByte address => exact SameRequest.refl inv
  | setByte address value =>
    show SameRequest inv (inv.setByte address value).2
    unfold setByte
    split
    · exact hdeny _
    · exact ⟨rfl, rfl, rfl, rfl, rfl, rfl⟩
  | output text =>
    show SameRequest inv (inv.output text).2
    unfold output
    split
    · exact hdeny _
    · exact ⟨rfl, rfl, rfl, rfl, rfl, rfl⟩
  | reject => exact ⟨rfl, rfl, rfl, rfl, rfl, rfl⟩
  | close => exact ⟨rfl, rfl, rfl, rfl, rfl, rfl⟩

theorem run_sameRequest (calls : List Call) : SameRequest inv (inv.run calls) := by
  induction calls generalizing inv with
  | nil => exact SameRequest.refl inv
  | cons c calls ih => exact (step_sameRequest inv c).trans (ih (inv.step c))

theorem run_append (before after : List Call) :
    inv.run (before ++ after) = (inv.run before).run after := List.foldl_append

variable {inv}

theorem budget_allows {count : ℕ} {late : Bool} (h : (inv.budget count late).2.failed = false) :
    inv.failed = false ∧ count ≤ inv.limits.instructions - inv.work ∧ late = false := by
  unfold budget at h
  split at h
  · cases h
  · next hcount =>
    split at h
    · cases h
    · next hlate => exact ⟨h, Nat.not_lt.mp hcount, Bool.eq_false_iff.mpr hlate⟩

theorem setRegister_allows {name : Text} {value : BitVec 16}
    (h : (inv.setRegister name value).2.failed = false) :
    inv.failed = false ∧ inv.Allows (.setRegister name value)
      ∧ ∃ pair, pairIndex inv.snapshot.core name = some pair
        ∧ (inv.setRegister name value).2 = inv.stageRegister pair value := by
  unfold setRegister at *
  split at h
  · cases h
  · next hclosed =>
    simp only [Bool.or_eq_true, Bool.not_eq_true', not_or, Bool.not_eq_false] at hclosed
    split at h
    · cases h
    · next pair hpair =>
      split at h
      · next hfits =>
        refine ⟨h, ⟨hclosed.1, hclosed.2, pair, hpair, hfits⟩, pair, hpair, ?_⟩
        simp [hclosed.1, hclosed.2, hfits]
      · cases h

theorem setByte_allows {address : Address} {value : Byte}
    (h : (inv.setByte address value).2.failed = false) :
    inv.failed = false ∧ inv.Allows (.setByte address value)
      ∧ (inv.setByte address value).2 = inv.stageByte address value := by
  unfold setByte at *
  split at h
  · cases h
  · next hopen =>
    have hclosed := hopen
    simp only [Bool.or_eq_true, Bool.not_eq_true', not_or, Bool.not_eq_false, beq_iff_eq]
      at hclosed
    refine ⟨h, ⟨hclosed.1.1, hclosed.1.2, hclosed.2⟩, ?_⟩
    rw [if_neg hopen]

theorem output_allows {text : Text} (h : (inv.output text).2.failed = false) :
    inv.failed = false ∧ inv.Allows (.output text) := by
  unfold output at h
  split at h
  · cases h
  · next hclosed =>
    simp only [Bool.or_eq_true, Bool.not_eq_true', not_or, Bool.not_eq_false,
      decide_eq_true_eq, not_lt] at hclosed
    exact ⟨h, hclosed.1.1, hclosed.1.2, hclosed.2⟩

theorem step_allows {c : Call} (h : (inv.step c).failed = false) :
    inv.failed = false ∧ inv.Allows c := by
  cases c with
  | budget count late => exact budget_allows h
  | getRegister name => exact ⟨h, trivial⟩
  | setRegister name value => exact ⟨(setRegister_allows h).1, (setRegister_allows h).2.1⟩
  | getByte address => exact ⟨h, trivial⟩
  | setByte address value => exact ⟨(setByte_allows h).1, (setByte_allows h).2.1⟩
  | output text => exact output_allows h
  | reject => cases h
  | close => exact ⟨h, trivial⟩

theorem run_allows (h : (inv.run calls).failed = false) :
    inv.failed = false
      ∧ ∀ before c after, calls = before ++ c :: after → (inv.run before).Allows c := by
  induction calls generalizing inv with
  | nil =>
    refine ⟨h, fun before c after hsplit => ?_⟩
    cases before <;> cases hsplit
  | cons c calls ih =>
    obtain ⟨hstep, hrest⟩ : (inv.step c).failed = false ∧ _ := ih h
    obtain ⟨hfirst, hallows⟩ := step_allows hstep
    refine ⟨hfirst, fun before d after hsplit => ?_⟩
    cases before with
    | nil =>
      cases hsplit
      exact hallows
    | cons b before =>
      cases hsplit
      exact hrest before d after rfl

end Invocation

/-! ## The recipe -/

/-- The value a register has after calls, from the value it had before them. -/
def lastRegister (core : String) (pair : Fin 20) (old : BitVec 16) (calls : List Call) :
    BitVec 16 :=
  calls.foldl
    (fun value c =>
      match c with
      | .setRegister name new => if pairIndex core name = some pair then new else value
      | _ => value)
    old

/-- The bytes written by calls, in order. -/
def byteWrites (calls : List Call) : List ByteEdit :=
  calls.filterMap fun c =>
    match c with
    | .setByte address value => some ⟨address, value⟩
    | _ => none

def Call.isSetRegister : Call → Bool
  | .setRegister _ _ => true
  | _ => false

theorem lastRegister_of_none {core : String} {pair : Fin 20} {old : BitVec 16}
    (h : calls.any Call.isSetRegister = false) :
    lastRegister core pair old calls = old := by
  induction calls with
  | nil => rfl
  | cons c calls ih =>
    rw [List.any_cons, Bool.or_eq_false_iff] at h
    have hrest := ih h.2
    cases c with
    | setRegister name value => cases h.1
    | budget count late => exact hrest
    | getRegister name => exact hrest
    | getByte address => exact hrest
    | setByte address value => exact hrest
    | output text => exact hrest
    | reject => exact hrest
    | close => exact hrest

variable {n : ℕ} {inv : Invocation}

theorem take_succ_ofFn_update {β : Type} {k : ℕ} (f : Fin n → β) (hk : k < n) (v : β) :
    (List.ofFn (Function.update f ⟨k, hk⟩ v)).take (k + 1) = (List.ofFn f).take k ++ [v] := by
  apply List.ext_getElem
  · simp only [List.length_take, List.length_ofFn, List.length_append, List.length_singleton]
    omega
  · intro i hi hi'
    simp only [List.length_take, List.length_ofFn] at hi
    rw [List.getElem_take, List.getElem_ofFn]
    by_cases hlast : i = k
    · subst hlast
      simp
    · rw [List.getElem_append_left (by simp; omega), List.getElem_take, List.getElem_ofFn,
        Function.update_of_ne]
      intro hsame
      exact hlast (congrArg Fin.val hsame)

theorem edits_stageByte {address : Address} {value : Byte} (h : inv.staged.byteCount.toNat < 64) :
    (inv.stageByte address value).staged.edits = inv.staged.edits ++ [⟨address, value⟩] := by
  have hcount : (inv.staged.byteCount + 1).toNat = inv.staged.byteCount.toNat + 1 := by
    show (_ + 1) % 65536 = _
    omega
  have hindex : Fin.ofNat 64 inv.staged.byteCount.toNat = ⟨inv.staged.byteCount.toNat, h⟩ :=
    Fin.ext (Nat.mod_eq_of_lt h)
  show (List.ofFn (Function.update inv.staged.bytes (Fin.ofNat 64 _) _)).take
    (inv.staged.byteCount + 1).toNat = _
  rw [hcount, hindex]
  exact take_succ_ofFn_update inv.staged.bytes h _

/-- What an invocation has staged by the end of calls none of which failed. -/
structure Staged (inv last : Invocation) (calls : List Call) : Prop where
  registers : ∀ pair, last.staged.registers pair
    = lastRegister inv.snapshot.core pair (inv.staged.registers pair) calls
  edits : last.staged.edits = inv.staged.edits ++ byteWrites calls
  editRegisters : last.staged.editRegisters
    = (inv.staged.editRegisters || calls.any Call.isSetRegister)
  bounded : last.staged.byteCount.toNat ≤ 64

theorem staged_of_unstaged {next : Invocation} {c : Call}
    (hbounded : inv.staged.byteCount.toNat ≤ 64) (hsame : next.staged = inv.staged)
    (hregister : c.isSetRegister = false) (hbyte : byteWrites [c] = []) : Staged inv next [c] := by
  constructor
  · intro pair
    rw [hsame]
    cases c <;> first | rfl | cases hregister
  · rw [hsame, hbyte, List.append_nil]
  · rw [hsame, List.any_cons, hregister, List.any_nil, Bool.or_false, Bool.or_false]
  · rw [hsame]
    exact hbounded

theorem step_staged {c : Call} (hbounded : inv.staged.byteCount.toNat ≤ 64)
    (h : (inv.step c).failed = false) : Staged inv (inv.step c) [c] := by
  cases c with
  | budget count late =>
    apply staged_of_unstaged hbounded _ rfl rfl
    show (inv.budget count late).2.staged = _
    unfold Invocation.budget
    split
    · rfl
    · dsimp only
      split <;> rfl
  | getRegister name => exact staged_of_unstaged hbounded rfl rfl rfl
  | setRegister name value =>
    obtain ⟨-, -, pair, hpair, hstep⟩ := Invocation.setRegister_allows h
    have hstep' : inv.step (.setRegister name value) = inv.stageRegister pair value := hstep
    rw [hstep']
    constructor
    · intro other
      show Function.update inv.staged.registers pair value other
        = if pairIndex inv.snapshot.core name = some other then value
          else inv.staged.registers other
      rw [hpair]
      by_cases hsame : pair = other
      · subst hsame
        rw [Function.update_self, if_pos rfl]
      · rw [Function.update_of_ne (Ne.symm hsame), if_neg (fun hs => hsame (Option.some.inj hs))]
    · exact (List.append_nil _).symm
    · show true = (inv.staged.editRegisters || true)
      rw [Bool.or_true]
    · exact hbounded
  | getByte address => exact staged_of_unstaged hbounded rfl rfl rfl
  | setByte address value =>
    obtain ⟨-, ⟨-, -, hroom⟩, hstep⟩ := Invocation.setByte_allows h
    have hstep' : inv.step (.setByte address value) = inv.stageByte address value := hstep
    have hlt : inv.staged.byteCount.toNat < 64 := by
      have hne : inv.staged.byteCount.toNat ≠ 64 :=
        fun hn => hroom (BitVec.eq_of_toNat_eq hn)
      omega
    rw [hstep']
    constructor
    · exact fun _ => rfl
    · exact edits_stageByte hlt
    · exact (Bool.or_false _).symm
    · show (inv.staged.byteCount + 1).toNat ≤ 64
      rw [BitVec.toNat_add]
      show (_ + 1) % 65536 ≤ 64
      omega
  | output text =>
    apply staged_of_unstaged hbounded _ rfl rfl
    show (inv.output text).2.staged = _
    unfold Invocation.output
    split <;> rfl
  | reject => exact staged_of_unstaged hbounded rfl rfl rfl
  | close => exact staged_of_unstaged hbounded rfl rfl rfl

theorem run_staged (hbounded : inv.staged.byteCount.toNat ≤ 64)
    (h : (inv.run calls).failed = false) :
    Staged inv (inv.run calls) calls := by
  induction calls generalizing inv with
  | nil => exact ⟨fun _ => rfl, (List.append_nil _).symm, (Bool.or_false _).symm, hbounded⟩
  | cons c calls ih =>
    have hlast : ((inv.step c).run calls).failed = false := h
    have hstep : (inv.step c).failed = false := (Invocation.run_allows hlast).1
    have hfirst := step_staged hbounded hstep
    have hrest := ih hfirst.bounded hlast
    constructor
    · intro pair
      have hpair := hrest.registers pair
      rw [hfirst.registers pair, (Invocation.step_sameRequest inv c).snapshot] at hpair
      exact hpair
    · have hedits := hrest.edits
      rw [hfirst.edits, List.append_assoc] at hedits
      rw [show byteWrites (c :: calls) = byteWrites [c] ++ byteWrites calls from
        List.filterMap_append (l := [c])]
      exact hedits
    · have hflag := hrest.editRegisters
      rw [hfirst.editRegisters, List.any_cons, List.any_nil, Bool.or_false] at hflag
      rw [List.any_cons, ← Bool.or_assoc]
      exact hflag
    · exact hrest.bounded

/-! ## Evaluations -/

def actionCalls (n : ℕ) : List Json → Except String (List Call)
  | [] => .ok []
  | action :: actions => do
    let read ← readAction action
    let rest ← actionCalls (n + 1) actions
    return .budget 1 (H.late n) :: read.1 :: rest

def fileCalls (core : String) (source : Text) : Except String (List Call) := do
  let data ← H.parse source
  let actions ← fileActions H core data
  actionCalls H 0 actions

/-- The calls an evaluation makes: those of the file's actions, or those of the runtime. -/
def callsOf (language : Language) (source : Text) (inv : Invocation) :
    Except String (List Call) :=
  match language with
  | .file => fileCalls H inv.snapshot.core source
  | _ => .ok (H.interpret language source inv).calls

variable {last : Invocation} {u : Unit}

theorem attempt_eq_ok {call : Call} {refusal : String}
    (h : exec (attempt call refusal) inv = (.ok u, last)) : last = inv.step call := by
  obtain ⟨a, t, hget, h⟩ := exec_bind_eq_ok h
  cases hget
  obtain ⟨b, v, hset, h⟩ := exec_bind_eq_ok h
  cases hset
  unfold require at h
  rw [exec_fromExcept] at h
  exact (congrArg Prod.snd h).symm

theorem runAction_eq_ok {action : Json} (h : exec (runAction H n action) inv = (.ok u, last)) :
    ∃ read, readAction action = .ok read ∧ last = inv.run [.budget 1 (H.late n), read.1] := by
  obtain ⟨a, t, hbudget, h⟩ := exec_bind_eq_ok h
  obtain ⟨read, hread, h⟩ := exec_fromExcept_bind_eq_ok h
  refine ⟨read, hread, ?_⟩
  rw [attempt_eq_ok h, attempt_eq_ok hbudget]
  rfl

theorem runActions_eq_ok {actions : List Json}
    (h : exec (runActions H n actions) inv = (.ok u, last)) :
    ∃ calls, actionCalls H n actions = .ok calls ∧ last = inv.run calls := by
  induction actions generalizing n inv with
  | nil =>
    cases h
    exact ⟨[], rfl, rfl⟩
  | cons action actions ih =>
    obtain ⟨a, t, hfirst, h⟩ := exec_bind_eq_ok h
    obtain ⟨read, hread, rfl⟩ := runAction_eq_ok H hfirst
    obtain ⟨calls, hcalls, hlast⟩ := ih h
    refine ⟨.budget 1 (H.late n) :: read.1 :: calls, ?_, hlast⟩
    unfold actionCalls
    rw [Results.ok_bind hread, Results.ok_bind hcalls]
    rfl

variable {source : Text}

theorem runFile_eq_ok (h : exec (runFile H source) inv = (.ok u, last)) :
    ∃ calls, fileCalls H inv.snapshot.core source = .ok calls ∧ last = inv.run calls := by
  obtain ⟨a, t, hget, h⟩ := exec_bind_eq_ok h
  cases hget
  obtain ⟨-, h⟩ := exec_require_bind_eq_ok h
  obtain ⟨data, hdata, h⟩ := exec_fromExcept_bind_eq_ok h
  obtain ⟨-, h⟩ := exec_require_bind_eq_ok h
  obtain ⟨actions, hactions, h⟩ := exec_fromExcept_bind_eq_ok h
  obtain ⟨calls, hcalls, hlast⟩ := runActions_eq_ok H h
  refine ⟨calls, ?_, hlast⟩
  unfold fileCalls
  rw [Results.ok_bind hdata, Results.ok_bind hactions]
  exact hcalls

theorem finish_success {late denied : Bool} (h : (finish inv late denied).success = true) :
    inv.failed = false ∧ (finish inv late denied).staged = inv.staged := by
  unfold finish at *
  split at h
  · next hbudget =>
    rw [if_pos hbudget]
    refine ⟨?_, rfl⟩
    unfold Invocation.budget at hbudget
    split at hbudget
    · cases hbudget
    · split at hbudget
      · cases hbudget
      · simpa using hbudget
  · cases h

/-- A successful evaluation ended its calls without a failure and returns what they staged. -/
theorem evaluate_success {language : Language} {snapshot : Snapshot}
    {permissions : Permissions} {limits : Limits}
    (h : (evaluate H language source snapshot permissions limits).success = true) :
    ∃ calls, callsOf H language source (.create snapshot permissions limits) = .ok calls
      ∧ ((Invocation.create snapshot permissions limits).run calls).failed = false
      ∧ (evaluate H language source snapshot permissions limits).staged
        = ((Invocation.create snapshot permissions limits).run calls).staged := by
  have hruntime : (evaluateRuntime H language source
        (.create snapshot permissions limits)).success = true →
      ((Invocation.create snapshot permissions limits).run
          (H.interpret language source (.create snapshot permissions limits)).calls).failed = false
        ∧ (evaluateRuntime H language source (.create snapshot permissions limits)).staged
          = ((Invocation.create snapshot permissions limits).run
            (H.interpret language source (.create snapshot permissions limits)).calls).staged := by
    intro hsuccess
    unfold evaluateRuntime at *
    dsimp only at *
    split at hsuccess
    · next hdone =>
      rw [if_pos hdone]
      exact finish_success hsuccess
    · cases hsuccess
  unfold evaluate at *
  cases hrequest : checkRequest source snapshot limits with
  | error e =>
    rw [hrequest] at h
    cases h
  | ok u =>
    rw [hrequest] at h
    cases havailable : H.available language with
    | false =>
      rw [havailable] at h
      cases h
    | true =>
      rw [havailable] at h
      cases language with
      | file =>
        change (evaluateFile H source (.create snapshot permissions limits)).success = true at h
        unfold evaluateFile at *
        split at h
        · next last hrun =>
          obtain ⟨calls, hcalls, rfl⟩ := runFile_eq_ok H hrun
          exact ⟨calls, hcalls, finish_success h⟩
        · cases h
      | lua => exact ⟨_, rfl, hruntime h⟩
      | python => exact ⟨_, rfl, hruntime h⟩
      | javaScript => exact ⟨_, rfl, hruntime h⟩

theorem evaluate_paused {language : Language} {snapshot : Snapshot}
    {permissions : Permissions} {limits : Limits}
    (h : (evaluate H language source snapshot permissions limits).success = true) :
    snapshot.state.state = .paused := by
  unfold evaluate at h
  cases hrequest : checkRequest source snapshot limits with
  | error e =>
    rw [hrequest] at h
    cases h
  | ok u =>
    obtain ⟨_, -, hrequest⟩ := Results.bind_eq_ok hrequest
    obtain ⟨_, -, hrequest⟩ := Results.bind_eq_ok hrequest
    obtain ⟨_, hpaused, -⟩ := Results.bind_eq_ok hrequest
    exact eq_of_beq (Results.require_eq_ok hpaused)

end ProtoTime.Script
