import ProtoTime.GameBoy.Accesses
import ProtoTime.GameBoy.Board

/-!
Two cores that differ only in their buses, over a relation of buses that accesses
keep and reads cannot see: every instruction keeps the cores alike.
-/
namespace ProtoTime.GameBoy

/-- Related buses answer reads alike and stay related under the same accesses. -/
structure BusRelation {σ : Type} [CpuBus σ] (R : σ → σ → Prop) : Prop where
  read : ∀ {b b'} (a : Addr), R b b' → CpuBus.read b' a = CpuBus.read b a
  write : ∀ {b b'} (a : Addr) (v : Byte), R b b' → R (CpuBus.write b a v) (CpuBus.write b' a v)
  retire : ∀ {b b'} (n : ℕ), R b b' → R (CpuBus.retire n b) (CpuBus.retire n b')
  dmaActive : ∀ {b b'}, R b b' → CpuBus.dmaActive b' = CpuBus.dmaActive b

/-- A relation that the brackets around the body of an instruction do not leave. -/
structure BracketBlind {σ : Type} [CpuBus σ] (R : σ → σ → Prop) : Prop extends BusRelation R where
  beginStep : ∀ (b : σ) (n : ℕ), R b (CpuBus.beginStep n b)
  endStep : ∀ {b b' : σ}, R b b' → R b (CpuBus.endStep b')

namespace Core

variable {σ : Type}

def withBus (c : Core σ) (b : σ) : Core σ := { c with bus := b }

structure Alike (R : σ → σ → Prop) (c d : Core σ) : Prop where
  core : d = c.withBus d.bus
  bus : R c.bus d.bus

variable {R : σ → σ → Prop} {c d : Core σ}

theorem Alike.exists_withBus (h : Alike R c d) : ∃ b, d = c.withBus b ∧ R c.bus b :=
  ⟨d.bus, h.core, h.bus⟩

theorem Alike.map (f : Core σ → Core σ) (hf : ∀ c b, f (c.withBus b) = (f c).withBus b)
    (hbus : ∀ c, (f c).bus = c.bus) (h : Alike R c d) : Alike R (f c) (f d) := by
  obtain ⟨b, rfl, hb⟩ := h.exists_withBus
  rw [hf]
  refine ⟨rfl, ?_⟩
  rw [hbus]
  exact hb

section

variable (h : Alike R c d)
include h

theorem Alike.setFlags (z n hf cy : Bool) :
    Alike R (c.setFlags z n hf cy) (d.setFlags z n hf cy) :=
  h.map (·.setFlags z n hf cy) (fun _ _ => rfl) fun _ => rfl

theorem Alike.assignAccumulator (v : Byte) :
    Alike R (c.assignAccumulator v) (d.assignAccumulator v) :=
  h.map (·.assignAccumulator v) (fun _ _ => rfl) fun _ => rfl

theorem Alike.updateControlFlowPc (target length : Addr) :
    Alike R (c.updateControlFlowPc target length) (d.updateControlFlowPc target length) :=
  h.map (·.updateControlFlowPc target length) (fun _ _ => rfl) fun _ => rfl

theorem Alike.setIme (enabled : Bool) : Alike R (c.setIme enabled) (d.setIme enabled) :=
  h.map (·.setIme enabled) (fun _ _ => rfl) fun _ => rfl

theorem Alike.mathOp (code rhs : Byte) : Alike R (c.mathOp code rhs) (d.mathOp code rhs) := by
  refine h.map (·.mathOp code rhs) ?_ fun c => c.mathOp_bus code rhs
  intro c b
  unfold Core.mathOp
  generalize ((code >>> 3) &&& 0x07#8).toNat = n
  rcases n with _ | _ | _ | _ | _ | _ | _ | n <;> rfl

theorem Alike.rotateA (code : Byte) : Alike R (c.rotateA code) (d.rotateA code) := by
  refine h.map (·.rotateA code) ?_ fun c => c.rotateA_bus code
  intro c b
  unfold Core.rotateA
  generalize ((code >>> 3) &&& 0x03#8).toNat = n
  rcases n with _ | _ | _ | n <;> rfl

end

variable [CpuBus σ] (hR : BusRelation R) (h : Alike R c d)
include hR h

theorem Alike.read8 (a : Addr) : d.read8 a = c.read8 a := hR.read a h.bus

theorem Alike.read16 (a : Addr) : d.read16 a = c.read16 a := by
  rw [Core.read16, Core.read16, h.read8 hR, h.read8 hR]

theorem Alike.write8 (a : Addr) (v : Byte) : Alike R (c.write8 a v) (d.write8 a v) := by
  obtain ⟨b, rfl, hb⟩ := h.exists_withBus
  exact ⟨rfl, hR.write a v hb⟩

theorem Alike.write16 (a v : Addr) : Alike R (c.write16 a v) (d.write16 a v) :=
  Alike.write8 hR (h.write8 hR _ _) _ _

theorem Alike.readR8 (reg : R8) : d.readR8 reg = c.readR8 reg := by
  obtain ⟨b, rfl, hb⟩ := h.exists_withBus
  cases reg with
  | hlIndirect => exact hR.read _ hb
  | _ => rfl

theorem Alike.writeR8 (reg : R8) (v : Byte) : Alike R (c.writeR8 reg v) (d.writeR8 reg v) := by
  obtain ⟨b, rfl, hb⟩ := h.exists_withBus
  cases reg with
  | hlIndirect => exact ⟨rfl, hR.write _ _ hb⟩
  | _ => exact ⟨rfl, hb⟩

theorem Alike.push16 (v : Addr) : Alike R (c.push16 v) (d.push16 v) := by
  obtain ⟨b, rfl, hb⟩ := h.exists_withBus
  have hsp : Alike R { c with sp := c.sp - 2 } { c.withBus b with sp := c.sp - 2 } := ⟨rfl, hb⟩
  exact hsp.write16 hR _ v

theorem Alike.ldIndirectA (code : Byte) : Alike R (c.ldIndirectA code) (d.ldIndirectA code) := by
  obtain ⟨b, rfl, hb⟩ := h.exists_withBus
  have hmove (f : Addr → Addr) {c d : Core σ} (h : Alike R c d) :
      Alike R { c with hl := f c.hl } { d with hl := f d.hl } := by
    obtain ⟨b, rfl, hb⟩ := h.exists_withBus
    exact ⟨rfl, hb⟩
  have haccess (a : Addr) : Alike R
      (if code &&& 0x08#8 = 0 then c.write8 a c.accumulator else c.assignAccumulator (c.read8 a))
      (if code &&& 0x08#8 = 0 then (c.withBus b).write8 a (c.withBus b).accumulator
        else (c.withBus b).assignAccumulator ((c.withBus b).read8 a)) := by
    split
    · exact h.write8 hR _ _
    · rw [h.read8 hR]
      exact h.assignAccumulator _
  unfold Core.ldIndirectA
  dsimp only
  split
  · exact hmove (· + 1) (haccess _)
  · split
    · exact hmove (· - 1) (haccess _)
    · exact haccess _

theorem Alike.executeCbOpcode (opcode : Byte) :
    Alike R (c.executeCbOpcode opcode) (d.executeCbOpcode opcode) := by
  have hold := h.readR8 hR (decodeR8 opcode)
  have hflags : d.flags = c.flags := by
    rw [h.core]
    rfl
  unfold Core.executeCbOpcode
  dsimp only
  rw [hold, hflags]
  split
  · exact Alike.writeR8 hR (h.setFlags _ _ _ _) _ _
  · exact h.setFlags _ _ _ _
  · exact h.writeR8 hR _ _
  · exact h.writeR8 hR _ _

/-- One instruction of the opcode table keeps the cores alike. -/
theorem Alike.step (family : OpcodeFamily) (code imm8 : Byte) (imm16 : Addr) :
    Alike R (family.step code imm8 imm16 c) (family.step code imm8 imm16 d) := by
  obtain ⟨b, rfl, hb⟩ := h.exists_withBus
  have hsp (c : Core σ) (b : σ) (hb : R c.bus b) (v : Addr) :
      Alike R { c with sp := v } { c.withBus b with sp := v } := ⟨rfl, hb⟩
  have hcondition (condition : Condition) :
      (c.withBus b).conditionHolds condition = c.conditionHolds condition := by
    cases condition <;> rfl
  have hjump {c d : Core σ} (h : Alike R c d) (t t' l : Addr) (ht : t' = t) :
      Alike R (c.updateControlFlowPc t l) (d.updateControlFlowPc t' l) := by
    rw [ht]
    exact h.updateControlFlowPc t l
  cases family with
  | ldR16Imm =>
    unfold OpcodeFamily.step
    dsimp only
    cases decodeR16 code <;> exact ⟨rfl, hb⟩
  | incR16 | decR16 =>
    unfold OpcodeFamily.step
    dsimp only
    cases decodeR16 code <;> exact ⟨rfl, hb⟩
  | addHlR16 =>
    unfold OpcodeFamily.step
    dsimp only
    cases decodeR16 code <;> exact ⟨rfl, hb⟩
  | ldAbsSp => exact h.write16 hR imm16 c.sp
  | incR8 | decR8 =>
    unfold OpcodeFamily.step
    dsimp only
    rw [h.readR8 hR]
    have hw := h.writeR8 hR (decodeR8Dest code)
    have hflags (v : Byte) : ((c.withBus b).writeR8 (decodeR8Dest code) v).flags =
        (c.writeR8 (decodeR8Dest code) v).flags := by
      rw [(hw v).core]
      rfl
    rw [hflags]
    exact (hw _).setFlags _ _ _ _
  | ldR8Imm => exact h.writeR8 hR _ _
  | rotateA => exact h.rotateA code
  | ccf =>
    have hflags : (c.withBus b).flags = c.flags := rfl
    unfold OpcodeFamily.step
    dsimp only
    rw [hflags]
    split <;> exact ⟨rfl, hb⟩
  | jrCond | jpCond =>
    unfold OpcodeFamily.step
    dsimp only
    rw [hcondition]
    split
    · exact hjump h _ _ _ rfl
    · exact h
  | ldR8R8 =>
    unfold OpcodeFamily.step
    dsimp only
    rw [h.readR8 hR]
    exact h.writeR8 hR _ _
  | ldIndirectA => exact h.ldIndirectA hR code
  | mathR8 =>
    unfold OpcodeFamily.step
    dsimp only
    rw [h.readR8 hR]
    exact h.mathOp _ _
  | mathImm => exact h.mathOp _ _
  | retCond =>
    unfold OpcodeFamily.step
    dsimp only
    rw [hcondition]
    split
    · exact hjump (hsp c b hb _) _ _ _ (h.read16 hR c.sp)
    · exact h
  | ret => exact hjump (hsp c b hb _) _ _ _ (h.read16 hR c.sp)
  | reti => exact (hjump (hsp c b hb _) _ _ _ (h.read16 hR c.sp)).setIme true
  | popR16 =>
    have hread : (c.withBus b).read16 (c.withBus b).sp = c.read16 c.sp := h.read16 hR c.sp
    unfold OpcodeFamily.step pop16
    dsimp only
    rw [hread]
    cases decodeR16Stack code <;> exact ⟨rfl, hb⟩
  | pushR16 =>
    unfold OpcodeFamily.step
    dsimp only
    cases decodeR16Stack code <;> exact h.push16 hR _
  | callCond =>
    unfold OpcodeFamily.step
    dsimp only
    rw [hcondition]
    split
    · exact (h.push16 hR _).updateControlFlowPc _ _
    · exact h
  | call => exact (h.push16 hR _).updateControlFlowPc _ _
  | rst => exact (h.push16 hR _).updateControlFlowPc _ _
  | prefixCb => exact h.executeCbOpcode hR imm8
  | ldhStoreImm => exact h.write8 hR _ _
  | ldhStoreC => exact h.write8 hR _ _
  | ldAbsStore => exact h.write8 hR _ _
  | ldhLoadImm | ldhLoadC | ldAbsLoad =>
    unfold OpcodeFamily.step
    dsimp only
    rw [h.read8 hR]
    exact h.assignAccumulator _
  | _ => exact ⟨rfl, hb⟩

theorem Alike.retireInstruction (n : ℕ) :
    Alike R (c.retireInstruction n) (d.retireInstruction n) := by
  obtain ⟨b, rfl, hb⟩ := h.exists_withBus
  have henable : (c.withBus b).imeEnablePending = c.imeEnablePending := rfl
  have hdelay : (c.withBus b).imeEnableDelay = c.imeEnableDelay := rfl
  unfold Core.retireInstruction
  dsimp only
  rw [henable, hdelay]
  split_ifs
  · exact h
  · exact ⟨rfl, hR.retire n hb⟩
  · exact ⟨rfl, hR.retire n hb⟩
  · exact ⟨rfl, hR.retire n hb⟩

end Core

namespace Hardware

/-- The two fields that mark a running instruction are replaced. -/
def mark (active : Bool) (offset : ℕ) (h : Hardware) : Hardware :=
  { h with instructionExecutionActive := active, instructionCycleEndOffset := offset }

variable (active : Bool) (offset : ℕ) (h : Hardware)

theorem syncCachedIoRegisterWrite_mark (address : Addr) (value : Byte) :
    (h.mark active offset).syncCachedIoRegisterWrite address value =
      (h.syncCachedIoRegisterWrite address value).mark active offset := by
  unfold syncCachedIoRegisterWrite
  split <;> rfl

theorem dmaCycle_mark : (h.mark active offset).dmaCycle = h.dmaCycle.mark active offset := by
  have hactive : (h.mark active offset).dmaActive = h.dmaActive := rfl
  have hprogress : (h.mark active offset).dmaCycleProgress = h.dmaCycleProgress := rfl
  unfold dmaCycle
  rw [hactive, hprogress]
  dsimp only
  split_ifs <;> rfl

theorem serialCycle_mark : (h.mark active offset).serialCycle = h.serialCycle.mark active offset := by
  have hactive : (h.mark active offset).serialTransferActive = h.serialTransferActive := rfl
  have hprogress : (h.mark active offset).serialCycleProgress = h.serialCycleProgress := rfl
  unfold serialCycle
  rw [hactive, hprogress]
  dsimp only
  split_ifs <;> rfl

theorem timerEdge_mark : (h.mark active offset).timerEdge = h.timerEdge.mark active offset := by
  have htima : (h.mark active offset).tima = h.tima := rfl
  unfold timerEdge
  rw [htima]
  split_ifs <;> rfl

theorem timerCycle_mark : (h.mark active offset).timerCycle = h.timerCycle.mark active offset := by
  have htac : (h.mark active offset).tac = h.tac := rfl
  have hcounter : (h.mark active offset).dividerCounter = h.dividerCounter := rfl
  unfold timerCycle
  rw [htac, hcounter]
  dsimp only
  split_ifs
  · exact timerEdge_mark active offset { h with dividerCounter := h.dividerCounter + 1 }
  · rfl

theorem applyDividerReset_mark (event : DividerResetEvent) :
    (h.mark active offset).applyDividerReset event =
      (h.applyDividerReset event).mark active offset := by
  have hcounter : (h.mark active offset).dividerCounter = h.dividerCounter := rfl
  unfold applyDividerReset
  rw [hcounter]
  split_ifs
  · exact timerEdge_mark active offset { h with dividerCounter := 0 }
  · rfl

theorem dividerResetsThrough_mark (i : ℕ) (events : List DividerResetEvent) :
    dividerResetsThrough i events (h.mark active offset) =
      (dividerResetsThrough i events h).mark active offset := by
  induction events generalizing h with
  | nil => rfl
  | cons event events ih =>
    unfold dividerResetsThrough
    split_ifs
    · rw [applyDividerReset_mark]
      exact ih _
    · rfl

theorem lcdStart_mark : (h.mark active offset).lcdStart = h.lcdStart.mark active offset := by
  have hlast : (h.mark active offset).lcdEnabledLastTick = h.lcdEnabledLastTick := rfl
  unfold lcdStart
  rw [hlast]
  split_ifs <;> rfl

theorem lcdOnCycle_mark : (h.mark active offset).lcdOnCycle = h.lcdOnCycle.mark active offset := by
  unfold lcdOnCycle
  rw [lcdStart_mark]
  generalize h.lcdStart = started
  dsimp only [mark]
  split_ifs <;> rfl

theorem lcdCycle_mark : (h.mark active offset).lcdCycle = h.lcdCycle.mark active offset := by
  have henabled : (h.mark active offset).lcdEnabled = h.lcdEnabled := rfl
  unfold lcdCycle
  rw [henabled]
  split
  · exact h.lcdOnCycle_mark active offset
  · rfl

theorem retireCycle_mark (i : ℕ) :
    retireCycle i (h.mark active offset) = (retireCycle i h).mark active offset := by
  have hevents : (h.mark active offset).dmaCycle.serialCycle.timerCycle =
      h.dmaCycle.serialCycle.timerCycle.mark active offset := by
    rw [dmaCycle_mark, serialCycle_mark, timerCycle_mark]
  unfold retireCycle
  dsimp only
  rw [hevents, dividerResetsThrough_mark]
  exact lcdCycle_mark active offset (apuCycle _)

theorem retireCycles_mark (i n : ℕ) :
    retireCycles i n (h.mark active offset) = (retireCycles i n h).mark active offset := by
  induction n generalizing i h with
  | zero => rfl
  | succ n ih =>
    rw [retireCycles, retireCycles, retireCycle_mark]
    exact ih _ _

theorem retire_mark (cycles : ℕ) :
    retire cycles (h.mark active offset) = (retire cycles h).mark active offset := by
  unfold retire
  split_ifs
  · rfl
  · rw [retireCycles_mark]
    rfl

end Hardware

namespace Board

/-- The board with another mark of a running instruction. -/
def mark (active : Bool) (offset : ℕ) (b : Board) : Board :=
  { b with hardware := b.hardware.mark active offset }

/-- Equal up to the mark of a running instruction. -/
def SameUnmarked (b b' : Board) : Prop := ∃ active offset, b' = b.mark active offset

variable (active : Bool) (offset : ℕ) (b : Board)

theorem writeCached_mark {f : Hardware → Hardware}
    (hf : ∀ h : Hardware, f (h.mark active offset) = (f h).mark active offset) :
    (b.mark active offset).writeCached f = (b.writeCached f).mark active offset := by
  have hhardware : f (b.mark active offset).hardware = (f b.hardware).mark active offset := hf _
  unfold writeCached
  rw [hhardware]
  rfl

theorem syncCachedIoRegisterWrite_mark (address : Addr) (value : Byte) :
    (b.mark active offset).syncCachedIoRegisterWrite address value =
      (b.syncCachedIoRegisterWrite address value).mark active offset :=
  b.writeCached_mark active offset fun h =>
    h.syncCachedIoRegisterWrite_mark active offset _ value

theorem invalidateBlockCacheForWrite_mark (address : Addr) :
    (b.mark active offset).invalidateBlockCacheForWrite address =
      (b.invalidateBlockCacheForWrite address).mark active offset := by
  have henabled : (b.mark active offset).blockCacheEnabled = b.blockCacheEnabled := rfl
  unfold invalidateBlockCacheForWrite
  rw [henabled]
  dsimp only
  split_ifs <;> rfl

theorem observeJoypad_mark (value : Byte) : (b.mark active offset).observeJoypad value =
    (b.observeJoypad value).mark active offset := by
  exact syncCachedIoRegisterWrite_mark active offset
    (Board.setIoRegisterRaw { b with input := b.input.writeRegister value } 0xFF00#16 _) _ _

theorem write_mark (address : Addr) (value : Byte) :
    (b.mark active offset).write address value = (b.write address value).mark active offset := by
  have hobserve (b : Board) (address : Addr) : (b.mark active offset).observeWrite address value =
      (b.observeWrite address value).mark active offset := by
    have hpeek : (b.mark active offset).peek address = b.peek address := rfl
    unfold observeWrite
    dsimp only
    rw [hpeek, invalidateBlockCacheForWrite_mark, syncCachedIoRegisterWrite_mark]
    generalize (b.invalidateBlockCacheForWrite address).syncCachedIoRegisterWrite address _ = synced
    split_ifs <;> rfl
  exact hobserve { b with memoryMap := b.memoryMap.write address value } _

theorem sameUnmarked_bracketBlind : BracketBlind SameUnmarked where
  beginStep b n := ⟨true, n, rfl⟩
  endStep := by
    rintro b b' ⟨active, offset, rfl⟩
    exact ⟨false, offset, rfl⟩
  read a h := by
    obtain ⟨active, offset, rfl⟩ := h
    rfl
  write a v h := by
    obtain ⟨active, offset, rfl⟩ := h
    exact ⟨active, offset, write_mark active offset _ a v⟩
  retire n h := by
    obtain ⟨active, offset, rfl⟩ := h
    exact ⟨active, offset, writeCached_mark active offset _ fun h => h.retire_mark active offset n⟩
  dmaActive h := by
    obtain ⟨active, offset, rfl⟩ := h
    rfl

end Board

end ProtoTime.GameBoy
