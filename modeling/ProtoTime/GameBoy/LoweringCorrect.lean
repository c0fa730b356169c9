import ProtoTime.InstCycle.ByteValues
import ProtoTime.InstCycle.InterpreterRules
import ProtoTime.GameBoy.BusRelation

/-!
A lowered instruction, interpreted over the processor, does what its opcode does
in the opcode table: the same registers, flags and memory, then the program
counter past the instruction.
-/
namespace ProtoTime.GameBoy

open IR IR.Interpreter IRExecution

variable {instruction : TranslatedInstruction}

namespace Core

variable {σ : Type} [CpuBus σ] {code : Byte}

theorem abiReadRegister_code {reg : Register} (h : registerForCode code = some reg)
    (c : Core σ) : abiReadRegister reg.id c = (c.readR8 (decodeR8 code)).setWidth 64 := by
  unfold registerForCode at h
  unfold decodeR8
  generalize (code &&& 0x07#8).toNat = n at h ⊢
  match n with
  | 0 | 1 | 2 | 3 | 4 | 5 =>
    cases h
    rfl
  | 6 => cases h
  | n + 7 =>
    cases h
    rfl

theorem abiWriteRegister_code {reg : Register} (h : registerForCode code = some reg)
    (value : Byte) (c : Core σ) :
    abiWriteRegister reg.id (value.setWidth 64) c = c.writeR8 (decodeR8 code) value := by
  have hvalue := setWidth_byte value
  unfold registerForCode at h
  unfold decodeR8
  generalize (code &&& 0x07#8).toNat = n at h ⊢
  match n with
  | 0 | 1 | 2 | 3 | 4 | 5 =>
    cases h
    simp only [abiWriteRegister, Register.id, Register.ofId, hvalue]
    rfl
  | 6 => cases h
  | n + 7 =>
    cases h
    simp only [abiWriteRegister, Register.id, Register.ofId, hvalue]
    rfl

theorem decodeR8_of_memory (h : registerForCode code = none) :
    decodeR8 code = .hlIndirect := by
  unfold registerForCode at h
  unfold decodeR8
  generalize (code &&& 0x07#8).toNat = n at h ⊢
  match n with
  | 0 | 1 | 2 | 3 | 4 | 5 => cases h
  | 6 => rfl
  | n + 7 => cases h

variable {s : State (Core σ)}

theorem runs_readHl (hs : s.Running) (id : ℕ) :
    Runs irExecutionAbi [readRegisterOperation .hl .i16 id] s
      (s.assign id (s.host.hl.setWidth 64)) := by
  have h := runs_readRegister irExecutionAbi id .i16 hs Register.hl.id
  rwa [show truncate (irExecutionAbi.readRegister Register.hl.id s.host) .i16 =
    s.host.hl.setWidth 64 from truncate_address _] at h

/-- Reading an operand computes its value and leaves the processor alone. -/
theorem runs_emitReadR8 (hs : s.Running) (code : Byte) {id : ℕ}
    (hid : (emitReadR8 code id).2 < s.values.length) :
    ∃ s', Runs irExecutionAbi (emitReadR8 code id).1 s s' ∧ s.Computed id s' ∧
      s'.values[(emitReadR8 code id).2]? =
        some ((s.host.readR8 (decodeR8 code)).setWidth 64) := by
  unfold emitReadR8 at hid ⊢
  cases hreg : registerForCode code with
  | some reg =>
    simp only [hreg] at hid ⊢
    have hread := runs_readRegister irExecutionAbi id .i8 hs reg.id
    rw [show irExecutionAbi.readRegister reg.id s.host = _ from abiReadRegister_code hreg s.host,
      truncate_byte] at hread
    exact ⟨_, hread, s.assign_computed (Nat.le_refl id) _, s.assign_values_self id _ hid⟩
  | none =>
    simp only [hreg] at hid ⊢
    have hhl := runs_readHl hs id
    have haddress := s.assign_values_self id (s.host.hl.setWidth 64) (by omega)
    have hbyte : irExecutionAbi.loadMemory (s.host.hl.setWidth 64) .i8
        (s.assign id (s.host.hl.setWidth 64)).host =
          .ok ((s.host.read8 s.host.hl).setWidth 64) := by
      simp only [irExecutionAbi, State.assign_host, setWidth_address, if_pos]
    have hload := runs_loadMemory irExecutionAbi (id + 1) .i8 .i16
      ((s.assign_running id _).mpr hs) haddress hbyte
    rw [truncate_byte] at hload
    refine ⟨_, hhl.cons hload, ?_, ?_⟩
    · exact (s.assign_computed (Nat.le_refl id) _).trans (State.assign_computed _ (by omega) _)
    · rw [decodeR8_of_memory hreg]
      exact State.assign_values_self _ _ _ (by rwa [State.assign_length])

/-- Storing an operand writes its register or the byte `HL` points to. -/
theorem runs_emitWriteR8 (hs : s.Running) (code : Byte) (id : ℕ) {value : ℕ} {b : Byte}
    (hvalue : s.values[value]? = some (b.setWidth 64)) (hlt : value < id)
    (hid : registerForCode code = none → id < s.values.length) :
    ∃ s', Runs irExecutionAbi (emitWriteR8 code value id) s s' ∧ s'.result = s.result ∧
      s'.host = s.host.writeR8 (decodeR8 code) b := by
  unfold emitWriteR8
  cases hreg : registerForCode code with
  | some reg =>
    have hwrite := runs_writeRegister irExecutionAbi .i8 .i8 hs reg.id hvalue
    exact ⟨_, hwrite, rfl, abiWriteRegister_code hreg b s.host⟩
  | none =>
    have hhl := runs_readHl hs id
    have haddress := s.assign_values_self id (s.host.hl.setWidth 64) (hid hreg)
    have hkept := (s.assign_values_of_ne id (s.host.hl.setWidth 64) (by omega)).trans hvalue
    have hstore := runs_storeMemory irExecutionAbi .i8 .i16
      ((s.assign_running id _).mpr hs) haddress hkept
      (h := s.host.write8 s.host.hl b) (by
        simp only [irExecutionAbi, State.assign_host, setWidth_address, setWidth_byte, if_pos])
    refine ⟨_, hhl.cons hstore, rfl, ?_⟩
    rw [decodeR8_of_memory hreg]
    rfl

def pastInstruction (c : Core σ) (length : ℕ) : Core σ :=
  { c with pc := c.pc + BitVec.ofNat 16 length }

/-- The interpreted instruction ends, retired and without an exit, with the core `c'`. -/
def Interprets (lowered : GuestInstruction) (c c' : Core σ) : Prop :=
  Interpreter.execute irExecutionAbi lowered c =
    .ok ({ branchTaken := lowered.controlFlow, retirementReached := true }, c')

variable {operations : List Operation}

theorem interprets_sequential {cycles : ℕ} {next : Addr} {c : Core σ} (hresult : s.result = {})
    (hruns : Runs irExecutionAbi operations (State.start
      (guestInstruction instruction cycles (operations ++ [emitNextPc next])).operations c) s) :
    Interprets (guestInstruction instruction cycles (operations ++ [emitNextPc next])) c
      { s.host with pc := next } := by
  have hpc := runs_setProgramCounter irExecutionAbi .i16 hruns.1 (next.setWidth 64)
  have hnext : irExecutionAbi.setProgramCounter (truncate (next.setWidth 64) .i16) s.host =
      { s.host with pc := next } := by
    rw [truncate_address]
    simp only [irExecutionAbi, abiWriteRegister, Register.id, Register.ofId, setWidth_address]
  rw [hnext] at hpc
  have hexecute := execute_of_runs (by rfl) (by rfl) (hruns.append hpc)
  rw [Interprets, hexecute, State.withHost_result, hresult]
  rfl

theorem emitReadR8_result (code : Byte) (id : ℕ) : ∃ operation ∈ (emitReadR8 code id).1,
    operation.result = some (emitReadR8 code id).2 := by
  unfold emitReadR8
  cases registerForCode code with
  | some reg => exact ⟨_, List.mem_cons_self, rfl⟩
  | none => exact ⟨_, List.mem_cons_of_mem _ List.mem_cons_self, rfl⟩

theorem emitWriteR8_result (h : registerForCode code = none) (value id : ℕ) :
    ∃ operation ∈ emitWriteR8 code value id, operation.result = some id := by
  unfold emitWriteR8
  rw [h]
  exact ⟨_, List.mem_cons_self, rfl⟩

omit [CpuBus σ] in
theorem lt_start_of_emitReadR8 {id : ℕ}
    (h : ∀ operation ∈ (emitReadR8 code id).1, operation ∈ operations) (c : Core σ) :
    (emitReadR8 code id).2 < (State.start operations c).values.length := by
  obtain ⟨operation, hmem, hid⟩ := emitReadR8_result code id
  exact State.lt_start_length (h operation hmem) hid c

omit [CpuBus σ] in
theorem lt_start_of_emitWriteR8 {value id : ℕ}
    (h : ∀ operation ∈ emitWriteR8 code value id, operation ∈ operations) (c : Core σ)
    (hmemory : registerForCode code = none) :
    id < (State.start operations c).values.length := by
  obtain ⟨operation, hmem, hid⟩ := emitWriteR8_result hmemory value id
  exact State.lt_start_length (h operation hmem) hid c

section Families

variable (instruction : TranslatedInstruction) (cycles : ℕ) (next : Addr) (c : Core σ)

theorem interprets_nop :
    Interprets (guestInstruction instruction cycles [emitNextPc next]) c { c with pc := next } :=
  show Interprets (guestInstruction instruction cycles ([] ++ [emitNextPc next])) c _ from
    interprets_sequential rfl (.nil ⟨rfl, rfl⟩)

theorem interprets_load (source destination : Byte) :
    Interprets (guestInstruction instruction cycles ((emitReadR8 source 1).1 ++
        emitWriteR8 destination (emitReadR8 source 1).2 ((emitReadR8 source 1).2 + 1) ++
        [emitNextPc next])) c
      { c.writeR8 (decodeR8 destination) (c.readR8 (decodeR8 source)) with pc := next } := by
  generalize hoperations : (guestInstruction instruction cycles ((emitReadR8 source 1).1 ++
    emitWriteR8 destination (emitReadR8 source 1).2 ((emitReadR8 source 1).2 + 1) ++
    [emitNextPc next])).operations = operations
  have hread : ∀ operation ∈ (emitReadR8 source 1).1, operation ∈ operations := by
    intro operation hmem
    simp [← hoperations, guestInstruction, hmem]
  have hwrite : ∀ operation ∈ emitWriteR8 destination (emitReadR8 source 1).2
      ((emitReadR8 source 1).2 + 1), operation ∈ operations := by
    intro operation hmem
    simp [← hoperations, guestInstruction, hmem]
  obtain ⟨s, hruns, hcomputed, hvalue⟩ := runs_emitReadR8 (State.start_running operations c)
    source (lt_start_of_emitReadR8 hread c)
  obtain ⟨s', hruns', hresult, hhost⟩ := runs_emitWriteR8 hruns.1 destination _ hvalue
    (Nat.lt_succ_self _) fun hmemory => by
      rw [hcomputed.length]
      exact lt_start_of_emitWriteR8 hwrite c hmemory
  have hbody := hruns.append hruns'
  subst hoperations
  have hinterprets := interprets_sequential (hresult.trans hcomputed.result) hbody
  rwa [hhost, hcomputed.host] at hinterprets

theorem interprets_loadImmediate (destination immediate : Byte) :
    Interprets (guestInstruction instruction cycles
        (constantOperation (immediate.setWidth 64) .i8 1 :: emitWriteR8 destination 1 2 ++
          [emitNextPc next])) c
      { c.writeR8 (decodeR8 destination) immediate with pc := next } := by
  generalize hoperations : (guestInstruction instruction cycles
    (constantOperation (immediate.setWidth 64) .i8 1 :: emitWriteR8 destination 1 2 ++
      [emitNextPc next])).operations = operations
  have hwrite : ∀ operation ∈ emitWriteR8 destination 1 2, operation ∈ operations := by
    intro operation hmem
    simp [← hoperations, guestInstruction, hmem]
  have hone : 1 < (State.start operations c).values.length := by
    have hmem : constantOperation (immediate.setWidth 64) .i8 1 ∈ operations := by
      simp [← hoperations, guestInstruction]
    exact State.lt_start_length hmem rfl c
  have hconstant := runs_constant irExecutionAbi 1 .i8 (State.start_running operations c) (immediate.setWidth 64)
  rw [truncate_byte, truncate_byte] at hconstant
  have hvalue := (State.start operations c).assign_values_self 1 (immediate.setWidth 64) hone
  obtain ⟨s', hruns', hresult, hhost⟩ := runs_emitWriteR8 hconstant.1 destination 2 hvalue
    (by omega) fun hmemory => by
      rw [State.assign_length]
      exact lt_start_of_emitWriteR8 hwrite c hmemory
  have hbody := hconstant.cons hruns'
  subst hoperations
  have hinterprets := interprets_sequential hresult hbody
  rwa [hhost] at hinterprets

/-- The new value of an increment or a decrement. -/
def steppedValue (decrement : Bool) (value : Byte) : Byte :=
  if decrement then value - 1 else value + 1

def stepFlags (decrement : Bool) (old : Byte) (c : Core σ) : Core σ :=
  c.cachedSetFlags (steppedValue decrement old == 0) decrement
    (if decrement then old &&& 0x0F#8 == 0 else (old &&& 0x0F#8).toNat + 1 > 0x0F)
    (c.cachedFlags &&& kFlagC != 0)

omit [CpuBus σ] in
theorem abiCallHelper_step (decrement : Bool) (old : Byte) (c : Core σ) :
    abiCallHelper (if decrement then kUpdateDecrementFlags else kUpdateIncrementFlags)
      [old.setWidth 64, (steppedValue decrement old).setWidth 64] c =
        .ok ((steppedValue decrement old).setWidth 64, c.stepFlags decrement old) := by
  cases decrement <;>
    simp [abiCallHelper, kUpdateDecrementFlags, kUpdateIncrementFlags, stepFlags]

theorem truncate_stepped (decrement : Bool) (old : Byte) :
    truncate (if decrement then old.setWidth 64 - (1#8).setWidth 64
      else old.setWidth 64 + (1#8).setWidth 64) .i8 = (steppedValue decrement old).setWidth 64 := by
  rw [truncate_i8]
  cases decrement
  · simp [steppedValue, BitVec.setWidth_add]
  · apply BitVec.eq_of_toNat_eq
    have hone : BitVec.toNat (1 : Byte) = 1 := rfl
    simp only [steppedValue, if_pos, BitVec.toNat_setWidth, BitVec.toNat_sub, BitVec.toNat_ofNat,
      hone]
    omega

theorem interprets_step (decrement : Bool) (destination : Byte) :
    Interprets (guestInstruction instruction cycles ((emitReadR8 destination 1).1 ++
        [constantOperation 1 .i8 ((emitReadR8 destination 1).2 + 1),
          { opcode := if decrement then .subtract else .add
            result := some ((emitReadR8 destination 1).2 + 2)
            resultType := .i8
            operands := [.value (emitReadR8 destination 1).2 .i8,
              .value ((emitReadR8 destination 1).2 + 1) .i8] },
          { opcode := .callHelper
            operands := [.helper (if decrement then kUpdateDecrementFlags
              else kUpdateIncrementFlags), .value (emitReadR8 destination 1).2 .i8,
              .value ((emitReadR8 destination 1).2 + 2) .i8] }] ++
        emitWriteR8 destination ((emitReadR8 destination 1).2 + 2)
          ((emitReadR8 destination 1).2 + 3) ++ [emitNextPc next])) c
      { (c.stepFlags decrement (c.readR8 (decodeR8 destination))).writeR8 (decodeR8 destination)
          (steppedValue decrement (c.readR8 (decodeR8 destination))) with pc := next } := by
  generalize hread : emitReadR8 destination 1 = old
  obtain ⟨reads, k⟩ := old
  dsimp only
  generalize hoperations : (guestInstruction instruction cycles (reads ++
    [constantOperation 1 .i8 (k + 1),
      { opcode := if decrement then .subtract else .add
        result := some (k + 2)
        resultType := .i8
        operands := [.value k .i8, .value (k + 1) .i8] },
      { opcode := .callHelper
        operands := [.helper (if decrement then kUpdateDecrementFlags
          else kUpdateIncrementFlags), .value k .i8, .value (k + 2) .i8] }] ++
    emitWriteR8 destination (k + 2) (k + 3) ++ [emitNextPc next])).operations = operations
  have hreads : ∀ operation ∈ (emitReadR8 destination 1).1, operation ∈ operations := by
    intro operation hmem
    rw [hread] at hmem
    simp [← hoperations, guestInstruction, hmem]
  have hwrites : ∀ operation ∈ emitWriteR8 destination (k + 2) (k + 3), operation ∈ operations := by
    intro operation hmem
    simp [← hoperations, guestInstruction, hmem]
  have hlength : k + 2 < (State.start operations c).values.length := by
    let stepped : Operation :=
      { opcode := if decrement then .subtract else .add
        result := some (k + 2)
        resultType := .i8
        operands := [.value k .i8, .value (k + 1) .i8] }
    have hmem : stepped ∈ operations := by simp [← hoperations, guestInstruction, stepped]
    exact State.lt_start_length hmem rfl c
  obtain ⟨s₁, hruns₁, hcomputed, hold⟩ := runs_emitReadR8 (State.start_running operations c)
    destination (lt_start_of_emitReadR8 hreads c)
  rw [hread] at hruns₁ hold
  dsimp only at hruns₁ hold
  have hhost : s₁.host = c := hcomputed.host
  have hresult : s₁.result = {} := hcomputed.result
  rw [← hcomputed.length] at hlength
  change s₁.values[k]? = some ((c.readR8 (decodeR8 destination)).setWidth 64) at hold
  generalize c.readR8 (decodeR8 destination) = value at hold ⊢
  have hruns₂ := runs_constant irExecutionAbi (k + 1) .i8 hruns₁.1 1
  have hone : truncate (truncate 1 .i8) .i8 = (1#8).setWidth 64 := by decide
  rw [hone] at hruns₂
  have hold₂ := (s₁.assign_values_of_ne (k + 1) ((1#8).setWidth 64) (j := k) (by omega)).trans hold
  have hone₂ := s₁.assign_values_self (k + 1) ((1#8).setWidth 64) (by omega)
  generalize hs₂ : s₁.assign (k + 1) ((1#8).setWidth 64) = s₂ at hruns₂ hold₂ hone₂
  have hlength₂ : s₂.values.length = s₁.values.length := by rw [← hs₂, State.assign_length]
  have hstepped : compute (if decrement then .subtract else .add) .i8
      [.value k .i8, .value (k + 1) .i8] [value.setWidth 64, (1#8).setWidth 64] =
        some (if decrement then value.setWidth 64 - (1#8).setWidth 64
          else value.setWidth 64 + (1#8).setWidth 64) := by
    cases decrement <;> rfl
  have hruns₃ := runs_binary irExecutionAbi (k + 2) .i8 (if decrement then .subtract else .add)
    hruns₂.1 (by cases decrement <;> simp) hold₂ hone₂ hstepped
  rw [truncate_stepped] at hruns₃
  have hold₃ := (s₂.assign_values_of_ne (k + 2) ((steppedValue decrement value).setWidth 64)
    (j := k) (by omega)).trans hold₂
  have hnew₃ := s₂.assign_values_self (k + 2) ((steppedValue decrement value).setWidth 64) (by omega)
  generalize hs₃ : s₂.assign (k + 2) ((steppedValue decrement value).setWidth 64) = s₃
    at hruns₃ hold₃ hnew₃
  have hhost₃ : s₃.host = c := by rw [← hs₃, State.assign_host, ← hs₂, State.assign_host, hhost]
  have hresult₃ : s₃.result = {} := by
    rw [← hs₃, State.assign_result, ← hs₂, State.assign_result, hresult]
  have hlength₃ : s₃.values.length = s₁.values.length := by
    rw [← hs₃, State.assign_length, hlength₂]
  have harguments : operandValues s₃.values [.value k .i8, .value (k + 2) .i8] =
      .ok [value.setWidth 64, (steppedValue decrement value).setWidth 64] := by
    simp only [operandValues, List.mapM_cons, List.mapM_nil, operandValue_value hold₃,
      operandValue_value hnew₃, bind, Except.bind, pure, Except.pure]
  have hcall : irExecutionAbi.callHelper (if decrement then kUpdateDecrementFlags
      else kUpdateIncrementFlags) [value.setWidth 64, (steppedValue decrement value).setWidth 64]
      s₃.host = .ok ((steppedValue decrement value).setWidth 64, c.stepFlags decrement value) := by
    rw [hhost₃]
    exact abiCallHelper_step decrement value c
  have hruns₄ := Runs.effect hruns₃.1 (by exact hruns₃.1) rfl
    (executeOperation_callHelper irExecutionAbi .void none harguments hcall)
  obtain ⟨s₅, hruns₅, hresult₅, hhost₅⟩ := runs_emitWriteR8 hruns₄.1 destination (k + 3) hnew₃
    (by omega) fun hmemory => by
      rw [State.withHost_values, hlength₃, hcomputed.length]
      exact lt_start_of_emitWriteR8 hwrites c hmemory
  have hbody := (hruns₁.append (hruns₂.cons (hruns₃.cons hruns₄))).append hruns₅
  subst hoperations
  have hinterprets := interprets_sequential (hresult₅.trans hresult₃) hbody
  rwa [hhost₅] at hinterprets

theorem interprets_alu (source destination : Byte) :
    Interprets (guestInstruction instruction cycles
      (readRegisterOperation .a .i8 1 :: (emitReadR8 source 2).1 ++
        [{ opcode := .callHelper
           result := some ((emitReadR8 source 2).2 + 1)
           resultType := .i8
           operands := [.helper kExecuteAlu8, .immediate (destination.setWidth 64) .i8,
             .value 1 .i8, .value (emitReadR8 source 2).2 .i8] }] ++
        (if destination = 7 then []
          else [{ opcode := .writeRegister
                  operands := [.guestRegister Register.a.id .i8,
                    .value ((emitReadR8 source 2).2 + 1) .i8] }]) ++
        [emitNextPc next])) c
      { (if destination = 7 then
            (c.executeAlu8 destination.toNat c.accumulator (c.readR8 (decodeR8 source))).2
          else
            (c.executeAlu8 destination.toNat c.accumulator
              (c.readR8 (decodeR8 source))).2.assignAccumulator
                (c.executeAlu8 destination.toNat c.accumulator (c.readR8 (decodeR8 source))).1)
        with pc := next } := by
  generalize hread : emitReadR8 source 2 = rhs
  obtain ⟨reads, k⟩ := rhs
  dsimp only
  generalize hoperations : (guestInstruction instruction cycles
    (readRegisterOperation .a .i8 1 :: reads ++
      [{ opcode := .callHelper
         result := some (k + 1)
         resultType := .i8
         operands := [.helper kExecuteAlu8, .immediate (destination.setWidth 64) .i8,
           .value 1 .i8, .value k .i8] }] ++
      (if destination = 7 then []
        else [{ opcode := .writeRegister
                operands := [.guestRegister Register.a.id .i8, .value (k + 1) .i8] }]) ++
      [emitNextPc next])).operations = operations
  have hreads : ∀ operation ∈ (emitReadR8 source 2).1, operation ∈ operations := by
    intro operation hmem
    rw [hread] at hmem
    simp [← hoperations, guestInstruction, hmem]
  have hlength : k + 1 < (State.start operations c).values.length := by
    let call : Operation :=
      { opcode := .callHelper
        result := some (k + 1)
        resultType := .i8
        operands := [.helper kExecuteAlu8, .immediate (destination.setWidth 64) .i8,
          .value 1 .i8, .value k .i8] }
    have hmem : call ∈ operations := by simp [← hoperations, guestInstruction, call]
    exact State.lt_start_length hmem rfl c
  have hruns₁ := runs_readRegister irExecutionAbi 1 .i8
    (State.start_running operations c) Register.a.id
  have ha : irExecutionAbi.readRegister Register.a.id (State.start operations c).host =
      c.accumulator.setWidth 64 := rfl
  rw [ha, truncate_byte] at hruns₁
  have ha₁ := (State.start operations c).assign_values_self 1 (c.accumulator.setWidth 64) (by omega)
  have hcomputed₁ := (State.start operations c).assign_computed (Nat.le_refl 1)
    (c.accumulator.setWidth 64)
  generalize (State.start operations c).assign 1 (c.accumulator.setWidth 64) = s₁
    at hruns₁ ha₁ hcomputed₁
  have hlt := lt_start_of_emitReadR8 hreads c
  rw [← hcomputed₁.length] at hlt hlength
  obtain ⟨s₂, hruns₂, hcomputed₂, hrhs⟩ := runs_emitReadR8 hruns₁.1 source hlt
  have hhost₁ : s₁.host = c := hcomputed₁.host
  rw [hread] at hruns₂ hrhs
  rw [hhost₁] at hrhs
  dsimp only at hruns₂ hrhs
  generalize c.readR8 (decodeR8 source) = value at hrhs ⊢
  have ha₂ := (hcomputed₂.below 1 (by decide)).trans ha₁
  have hhost₂ : s₂.host = c := hcomputed₂.host.trans hhost₁
  have hresult₂ : s₂.result = {} := hcomputed₂.result.trans hcomputed₁.result
  rw [← hcomputed₂.length] at hlength
  generalize hoperation : c.executeAlu8 destination.toNat c.accumulator value = computed
  obtain ⟨result, c₃⟩ := computed
  have himmediate : operandValue s₂.values (.immediate (destination.setWidth 64) .i8) =
      .ok (destination.setWidth 64) := by
    rw [operandValue, truncate_byte]
  have harguments : operandValues s₂.values [.immediate (destination.setWidth 64) .i8,
      .value 1 .i8, .value k .i8] =
      .ok [destination.setWidth 64, c.accumulator.setWidth 64, value.setWidth 64] := by
    simp only [operandValues, List.mapM_cons, List.mapM_nil, operandValue_value ha₂,
      operandValue_value hrhs, himmediate, bind, Except.bind, pure, Except.pure]
  have hcode : (destination.setWidth 64 &&& 0xFF#64).toNat = destination.toNat := by
    have h := congrArg BitVec.toNat (truncate_byte destination)
    rw [truncate, mask] at h
    rw [h, BitVec.toNat_setWidth]
    have := destination.isLt
    omega
  have hcall : irExecutionAbi.callHelper kExecuteAlu8
      [destination.setWidth 64, c.accumulator.setWidth 64, value.setWidth 64] s₂.host =
      .ok (result.setWidth 64, c₃) := by
    rw [hhost₂]
    simp only [irExecutionAbi, abiCallHelper, kExecuteAlu8, kUpdateIncrementFlags,
      kUpdateDecrementFlags, setWidth_byte, hcode, hoperation]
    rfl
  have hruns₃ := Runs.assign hruns₂.1 (by rfl)
    (executeOperation_callHelper irExecutionAbi .i8 (some (k + 1)) harguments hcall)
  rw [truncate_byte] at hruns₃
  have hvalue₃ := (s₂.withHost c₃).assign_values_self (k + 1) (result.setWidth 64)
    (by rw [State.withHost_values]; exact hlength)
  have hresult₃ : ((s₂.withHost c₃).assign (k + 1) (result.setWidth 64)).result = {} := hresult₂
  have hbody := (hruns₁.cons (hruns₂.append hruns₃))
  by_cases hcompare : destination = 7
  · simp only [if_pos hcompare, List.append_nil] at hoperations ⊢
    rw [List.cons_append] at hoperations ⊢
    subst hoperations
    exact interprets_sequential hresult₃ hbody
  · simp only [if_neg hcompare] at hoperations ⊢
    have hruns₄ := runs_writeRegister irExecutionAbi .i8 .i8
      hruns₃.1 Register.a.id hvalue₃
    have hbody₄ := hbody.append hruns₄
    rw [List.cons_append] at hoperations ⊢
    subst hoperations
    have hinterprets := interprets_sequential (by exact hresult₃) hbody₄
    have hwrite : irExecutionAbi.writeRegister Register.a.id (result.setWidth 64) c₃ =
        c₃.assignAccumulator result := by
      simp only [irExecutionAbi, abiWriteRegister, Register.id, Register.ofId, setWidth_byte]
      rfl
    rw [State.withHost_host, State.assign_host, State.withHost_host, hwrite] at hinterprets
    exact hinterprets

theorem interprets_jump (target : Addr) :
    Interprets (guestInstruction instruction cycles
      [{ opcode := .branch, operands := [.blockTarget (target.setWidth 64)] }] true) c
      { c with pc := target } := by
  have hpc : irExecutionAbi.setProgramCounter (target.setWidth 64) c = { c with pc := target } := by
    simp only [irExecutionAbi, abiWriteRegister, Register.id, Register.ofId, setWidth_address]
  have hruns := runs_branch irExecutionAbi (State.start_running
    (guestInstruction instruction cycles
      [{ opcode := .branch, operands := [.blockTarget (target.setWidth 64)] }] true).operations c)
    (target.setWidth 64)
  refine (execute_of_runs rfl rfl hruns).trans ?_
  rw [← hpc]
  rfl

end Families

variable (c : Core σ)

omit [CpuBus σ] in
/-- The helper's arithmetic followed by the write-back is the accumulator operation. -/
theorem executeAlu8_eq_mathOp (code rhs : Byte) :
    (if (code >>> 3) &&& 0x07#8 = 7 then
        (c.executeAlu8 ((code >>> 3) &&& 0x07#8).toNat c.accumulator rhs).2
      else
        (c.executeAlu8 ((code >>> 3) &&& 0x07#8).toNat c.accumulator rhs).2.assignAccumulator
          (c.executeAlu8 ((code >>> 3) &&& 0x07#8).toNat c.accumulator rhs).1) =
      c.mathOp code rhs := by
  have hseven : (code >>> 3) &&& 0x07#8 = 7 ↔ ((code >>> 3) &&& 0x07#8).toNat = 7 := by
    constructor
    · intro h
      rw [h]
      rfl
    · intro h
      exact BitVec.eq_of_toNat_eq h
  have hlt : ((code >>> 3) &&& 0x07#8).toNat < 8 := by
    exact lt_of_le_of_lt Nat.and_le_right (by decide)
  have hcarry : (c.cachedFlags &&& kFlagC ≠ 0) ↔ (c.flags &&& kFlagC != 0) = true := by
    simp [cachedFlags, flags]
  have hwrite (z n h cy : Bool) (result : Byte) :
      (c.cachedSetFlags z n h cy).assignAccumulator result =
        (c.assignAccumulator result).setFlags z n h cy := by
    unfold cachedSetFlags assignCachedFlags assignAccumulator setFlags assignFlags
    simp only [setHi_setLo]
    rfl
  simp only [hseven]
  unfold mathOp
  generalize ((code >>> 3) &&& 0x07#8).toNat = n at hlt ⊢
  unfold executeAlu8
  simp only [hcarry]
  rcases Nat.lt_or_ge n 7 with hseven | hseven
  · interval_cases n <;> exact hwrite _ _ _ _ _
  · obtain rfl : n = 7 := by omega
    rfl

theorem decodeR8_and (code : Byte) : decodeR8 (code &&& 0x07#8) = decodeR8 code := by
  unfold decodeR8
  rw [BitVec.and_assoc, BitVec.and_self]

theorem stepFlags_writeR8 (decrement : Bool) (old : Byte) (reg : R8) (value : Byte) :
    (c.stepFlags decrement old).writeR8 reg value =
      (c.writeR8 reg value).setFlags (steppedValue decrement old == 0) decrement
        (if decrement then old &&& 0x0F#8 == 0 else (old &&& 0x0F#8).toNat + 1 > 0x0F)
        ((c.writeR8 reg value).flags &&& kFlagC != 0) := by
  cases reg with
  | a =>
    unfold stepFlags cachedSetFlags assignCachedFlags writeR8 setFlags assignFlags flags
    simp only [setHi_setLo, lo_setHi]
    rfl
  | _ => rfl

theorem writeR8_pc (reg : R8) (value : Byte) : (c.writeR8 reg value).pc = c.pc := by
  cases reg <;> rfl

omit [CpuBus σ] in
theorem mathOp_pc (code rhs : Byte) : (c.mathOp code rhs).pc = c.pc := by
  unfold mathOp
  generalize ((code >>> 3) &&& 0x07#8).toNat = n
  rcases n with _ | _ | _ | _ | _ | _ | _ | n <;> rfl

omit [CpuBus σ] in
theorem pastInstruction_eq {c c' : Core σ} {next : Addr} {length : ℕ}
    (hpc : c'.pc = c.pc) (hnext : next = c.pc + BitVec.ofNat 16 length) :
    ({ c' with pc := next } : Core σ) = c'.pastInstruction length := by
  rw [hnext, ← hpc]
  rfl

end Core

section Table

theorem opcodeTable_lowered (opcode : Byte) :
    (0x40#8 ≤ opcode ∧ opcode ≤ 0x7F#8 ∧ opcode ≠ 0x76#8 →
      opcodeTable opcode = some .ldR8R8 ∧ (opcodeCyclesFor opcode =
        if opcode &&& 0x07#8 = 6 ∨ (opcode >>> 3) &&& 0x07#8 = 6 then ⟨8, 8⟩ else ⟨4, 4⟩) ∧
        isControlFlowOpcode opcode = false) ∧
    (opcode &&& 0xC7#8 = 0x06#8 →
      opcodeTable opcode = some .ldR8Imm ∧ (opcodeCyclesFor opcode =
        if (opcode >>> 3) &&& 0x07#8 = 6 then ⟨12, 12⟩ else ⟨8, 8⟩) ∧
        isControlFlowOpcode opcode = false) ∧
    (opcode &&& 0xC7#8 = 0x04#8 ∨ opcode &&& 0xC7#8 = 0x05#8 →
      opcodeTable opcode = some (if opcode &&& 0xC7#8 = 0x05#8 then .decR8 else .incR8) ∧
        (opcodeCyclesFor opcode = if (opcode >>> 3) &&& 0x07#8 = 6 then ⟨12, 12⟩ else ⟨4, 4⟩) ∧
        isControlFlowOpcode opcode = false) ∧
    (0x80#8 ≤ opcode ∧ opcode ≤ 0xBF#8 →
      opcodeTable opcode = some .mathR8 ∧ (opcodeCyclesFor opcode =
        if opcode &&& 0x07#8 = 6 then ⟨8, 8⟩ else ⟨4, 4⟩) ∧
        isControlFlowOpcode opcode = false) := by
  revert opcode
  decide +kernel

end Table

structure IsWholeInstruction (instruction : TranslatedInstruction)
    (family : OpcodeFamily) : Prop where
  table : opcodeTable (instruction.bytes.getD 0 0) = some family
  length : instruction.bytes.length = family.length

/-- What the opcode table says an instruction does, the program counter included. -/
def OpcodeFamily.instructionStep {σ : Type} [CpuBus σ] (family : OpcodeFamily) (bytes : List Byte)
    (c : Core σ) : Core σ :=
  (family.step (bytes.getD 0 0) (fetchImm8 bytes 0) (fetchImm16 bytes 0) c).pastInstruction
    bytes.length

/-- The lowered instruction keeps the address and the cycles of its opcode and interprets as the
opcode's step. -/
structure LowersTo (instruction : TranslatedInstruction) (family : OpcodeFamily)
    (lowered : GuestInstruction) : Prop where
  address : lowered.address = instruction.address.toNat
  cyclesNotTaken : lowered.cyclesNotTaken = (opcodeCyclesFor (instruction.bytes.getD 0 0)).notTaken
  cyclesTaken : lowered.cyclesTaken = (opcodeCyclesFor (instruction.bytes.getD 0 0)).taken
  cycles_eq : lowered.cyclesTaken = lowered.cyclesNotTaken
  controlFlow : lowered.controlFlow = isControlFlowOpcode (instruction.bytes.getD 0 0)
  interruptSensitive : lowered.interruptSensitive = false
  interprets : ∀ {σ : Type} [CpuBus σ] (c : Core σ), c.pc = instruction.address →
    c.Interprets lowered (family.instructionStep instruction.bytes c)

open Core in
theorem lowersTo_sequential {family : OpcodeFamily} {cycles : ℕ} {operations : List Operation}
    (hcycles : opcodeCyclesFor (instruction.bytes.getD 0 0) = ⟨cycles, cycles⟩)
    (hflow : isControlFlowOpcode (instruction.bytes.getD 0 0) = false)
    (hbody : ∀ {σ : Type} [CpuBus σ] (c : Core σ), Interprets
      (guestInstruction instruction cycles (operations ++ [emitNextPc
        (instruction.address + BitVec.ofNat 16 instruction.bytes.length)])) c
      { family.step (instruction.bytes.getD 0 0) (fetchImm8 instruction.bytes 0)
          (fetchImm16 instruction.bytes 0) c with
        pc := instruction.address + BitVec.ofNat 16 instruction.bytes.length })
    (hpc : ∀ {σ : Type} [CpuBus σ] (c : Core σ),
      (family.step (instruction.bytes.getD 0 0) (fetchImm8 instruction.bytes 0)
        (fetchImm16 instruction.bytes 0) c).pc = c.pc) :
    LowersTo instruction family (guestInstruction instruction cycles (operations ++ [emitNextPc
      (instruction.address + BitVec.ofNat 16 instruction.bytes.length)])) := by
  refine ⟨rfl, by rw [hcycles]; rfl, by rw [hcycles]; rfl, rfl, hflow.symm, rfl, ?_⟩
  intro σ _ c haddress
  have hinterprets := hbody c
  rwa [pastInstruction_eq (hpc c) (by rw [haddress])] at hinterprets

open Core in
/-- Every lowered instruction does what its opcode does in the opcode table. -/
theorem lowerInstruction_lowersTo {family : OpcodeFamily}
    (hwhole : IsWholeInstruction instruction family) {lowered : GuestInstruction}
    (h : lowerInstruction instruction = some lowered) : LowersTo instruction family lowered := by
  obtain ⟨htable, hlength⟩ := hwhole
  unfold lowerInstruction at h
  dsimp only at h
  generalize hopcode : instruction.bytes.getD 0 0 = opcode at h htable
  by_cases hzero : instruction.bytes.length = 0
  · rw [if_pos hzero] at h
    cases h
  rw [if_neg hzero] at h
  by_cases hnop : opcode = 0x00#8
  · rw [if_pos hnop] at h
    cases h
    subst hnop
    cases htable
    rw [← List.nil_append [emitNextPc _]]
    refine lowersTo_sequential (by rw [hopcode]; rfl) (by rw [hopcode]; rfl) ?_ fun c => rfl
    intro σ _ c
    exact interprets_nop _ _ _ c
  rw [if_neg hnop] at h
  by_cases hload : 0x40#8 ≤ opcode ∧ opcode ≤ 0x7F#8 ∧ opcode ≠ 0x76#8
  · rw [if_pos hload] at h
    cases h
    obtain ⟨hfamily, hcycles, hflow⟩ := (opcodeTable_lowered opcode).1 hload
    cases htable.symm.trans hfamily
    refine lowersTo_sequential ?_ (by rw [hopcode, hflow]) ?_ ?_
    · rw [hopcode, hcycles]
      split_ifs <;> rfl
    · intro σ _ c
      have hinterprets := interprets_load instruction (if opcode &&& 0x07#8 = 6 ∨
        (opcode >>> 3) &&& 0x07#8 = 6 then 8 else 4)
        (instruction.address + BitVec.ofNat 16 instruction.bytes.length) c (opcode &&& 0x07#8)
        ((opcode >>> 3) &&& 0x07#8)
      rw [decodeR8_and opcode] at hinterprets
      rw [hopcode]
      exact hinterprets
    · intro σ _ c
      exact writeR8_pc c _ _
  rw [if_neg hload] at h
  by_cases himmediate : opcode &&& 0xC7#8 = 0x06#8 ∧ instruction.bytes.length ≥ 2
  · rw [if_pos himmediate] at h
    cases h
    obtain ⟨hfamily, hcycles, hflow⟩ := (opcodeTable_lowered opcode).2.1 himmediate.1
    cases htable.symm.trans hfamily
    refine lowersTo_sequential ?_ (by rw [hopcode, hflow]) ?_ ?_
    · rw [hopcode, hcycles]
      split_ifs <;> rfl
    · intro σ _ c
      rw [hopcode]
      exact interprets_loadImmediate _ _ _ c _ _
    · intro σ _ c
      exact writeR8_pc c _ _
  rw [if_neg himmediate] at h
  by_cases hstep : opcode &&& 0xC7#8 = 0x04#8 ∨ opcode &&& 0xC7#8 = 0x05#8
  · rw [if_pos hstep] at h
    cases h
    obtain ⟨hfamily, hcycles, hflow⟩ := (opcodeTable_lowered opcode).2.2.1 hstep
    have hpc {σ : Type} [CpuBus σ] (c : Core σ) (reg : R8) (value : Byte) (z n hf cy : Bool) :
        ((c.writeR8 reg value).setFlags z n hf cy).pc = c.pc := writeR8_pc c reg value
    refine lowersTo_sequential ?_ (by rw [hopcode, hflow]) ?_ ?_
    · rw [hopcode, hcycles]
      split_ifs <;> rfl
    · intro σ _ c
      have hinterprets := interprets_step instruction (if (opcode >>> 3) &&& 0x07#8 = 6 then 12
        else 4) (instruction.address + BitVec.ofNat 16 instruction.bytes.length) c
        (opcode &&& 0xC7#8 == 0x05#8) ((opcode >>> 3) &&& 0x07#8)
      rw [stepFlags_writeR8] at hinterprets
      rw [hopcode]
      by_cases hdecrement : opcode &&& 0xC7#8 = 0x05#8
      · rw [if_pos hdecrement] at hfamily
        cases htable.symm.trans hfamily
        rw [beq_iff_eq.mpr hdecrement] at hinterprets ⊢
        exact hinterprets
      · rw [if_neg hdecrement] at hfamily
        cases htable.symm.trans hfamily
        rw [beq_eq_false_iff_ne.mpr hdecrement] at hinterprets ⊢
        exact hinterprets
    · intro σ _ c
      split_ifs at hfamily <;> cases htable.symm.trans hfamily <;> exact hpc c _ _ _ _ _ _
  rw [if_neg hstep] at h
  by_cases halu : 0x80#8 ≤ opcode ∧ opcode ≤ 0xBF#8
  · rw [if_pos halu] at h
    cases h
    obtain ⟨hfamily, hcycles, hflow⟩ := (opcodeTable_lowered opcode).2.2.2 halu
    cases htable.symm.trans hfamily
    refine lowersTo_sequential ?_ (by rw [hopcode, hflow]) ?_ ?_
    · rw [hopcode, hcycles]
      split_ifs <;> rfl
    · intro σ _ c
      have hinterprets := interprets_alu instruction (if opcode &&& 0x07#8 = 6 then 8 else 4)
        (instruction.address + BitVec.ofNat 16 instruction.bytes.length) c (opcode &&& 0x07#8)
        ((opcode >>> 3) &&& 0x07#8)
      rw [executeAlu8_eq_mathOp, decodeR8_and opcode] at hinterprets
      rw [hopcode]
      exact hinterprets
    · intro σ _ c
      exact mathOp_pc c _ _
  rw [if_neg halu] at h
  by_cases hjump : opcode = 0x18#8 ∧ instruction.bytes.length ≥ 2
  · rw [if_pos hjump] at h
    cases h
    obtain ⟨rfl, -⟩ := hjump
    cases htable
    refine ⟨rfl, by rw [hopcode]; rfl, by rw [hopcode]; rfl, rfl, by rw [hopcode]; rfl, rfl, ?_⟩
    intro σ _ c hpc
    have hinterprets := interprets_jump instruction 12 c (instruction.address +
      BitVec.ofNat 16 instruction.bytes.length + (instruction.bytes.getD 1 0).signExtend 16)
    have htwo : BitVec.ofNat 16 instruction.bytes.length = 2 := by
      rw [hlength]
      rfl
    have hjumped : OpcodeFamily.jr.instructionStep instruction.bytes c = { c with
        pc := instruction.address + BitVec.ofNat 16 instruction.bytes.length +
          (instruction.bytes.getD 1 0).signExtend 16 } := by
      have htarget (a d : Addr) : a + 2 + d - 2 + 2 = a + 2 + d := by bv_omega
      unfold OpcodeFamily.instructionStep OpcodeFamily.step updateControlFlowPc pastInstruction
      dsimp only
      rw [hpc, htwo, htarget]
      rfl
    rw [hjumped]
    exact hinterprets
  · rw [if_neg hjump] at h
    cases h

end ProtoTime.GameBoy
