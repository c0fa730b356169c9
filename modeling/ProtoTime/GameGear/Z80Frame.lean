import ProtoTime.GameGear.Z80Step
import ProtoTime.Transition

/-!
What the opcodes of the Z80 can touch: the devices through the bus, the registers, and the
interrupt flip-flops only where an opcode says so.
-/
namespace ProtoTime.GameGear
open GameBoy (Byte Addr hi lo word)
open Stateful

/-- The interrupt enable state of the interpreter. -/
@[ext] structure FlipFlops where
  iff1 : Bool
  iff2 : Bool
  ime : Bool
  delay : ℕ

namespace Z80Interpreter

variable {σ : Type}

def flipFlops (c : Z80Interpreter σ) : FlipFlops := ⟨c.iff1, c.iff2, c.ime, c.imeEnableDelay⟩

/-- A register change that touches neither the devices nor the flip-flops. -/
def SameOutside (c c' : Z80Interpreter σ) : Prop := c'.bus = c.bus ∧ c'.flipFlops = c.flipFlops

/-- One that leaves the program counter alone too. -/
def SameControl (c c' : Z80Interpreter σ) : Prop := c.SameOutside c' ∧ c'.pc = c.pc

theorem SameControl.outside {c c' : Z80Interpreter σ} (h : c.SameControl c') : c.SameOutside c' :=
  h.1

theorem sameControl_alu (group : ℕ) (value : Byte) (c : Z80Interpreter σ) :
    c.SameControl (c.alu group value) := by
  unfold alu
  split <;> exact ⟨⟨rfl, rfl⟩, rfl⟩

theorem sameControl_setReg16ByPair (pair : ℕ) (value : Addr) (afForPair3 : Bool)
    (c : Z80Interpreter σ) : c.SameControl (c.setReg16ByPair pair value afForPair3) := by
  unfold setReg16ByPair
  split
  · exact ⟨⟨rfl, rfl⟩, rfl⟩
  · exact ⟨⟨rfl, rfl⟩, rfl⟩
  · exact ⟨⟨rfl, rfl⟩, rfl⟩
  · split <;> exact ⟨⟨rfl, rfl⟩, rfl⟩

variable (indexPrefix : Byte)

theorem sameControl_setIndex (value : Addr) (c : Z80Interpreter σ) :
    c.SameControl (c.setIndex indexPrefix value) := by
  unfold setIndex
  split <;> exact ⟨⟨rfl, rfl⟩, rfl⟩

theorem sameControl_addIndex (rhs : Addr) (c : Z80Interpreter σ) :
    c.SameControl (c.addIndex indexPrefix rhs) :=
  sameControl_setIndex indexPrefix _ c

theorem sameControl_stepIndexHalf (high increment : Bool)
    (c : Z80Interpreter σ) : c.SameControl (c.stepIndexHalf indexPrefix high increment) :=
  sameControl_setIndex indexPrefix _ c

/-- A relation between interpreter states that the changes of data registers and the bus
accesses other than fetches stay in. -/
structure DataFrame [Z80Bus σ] (R : Z80Interpreter σ → Z80Interpreter σ → Prop) : Prop where
  refl : ∀ c, R c c
  trans : ∀ c c' c'', R c c' → R c' c'' → R c c''
  data : ∀ c c', c.SameControl c' → R c c'
  memRead : ∀ address (c : Z80Interpreter σ),
    R c { c with bus := (Z80Bus.memRead address c.bus).2 }
  memWrite : ∀ address value (c : Z80Interpreter σ),
    R c { c with bus := Z80Bus.memWrite address value c.bus }
  readIo : ∀ port (c : Z80Interpreter σ), R c { c with bus := (Z80Bus.readIo port c.bus).2 }
  writeIo : ∀ port value (c : Z80Interpreter σ),
    R c { c with bus := Z80Bus.writeIo port value c.bus }

/-- A relation that fetches and changes of the program counter stay in as well. -/
structure Frame [Z80Bus σ] (R : Z80Interpreter σ → Z80Interpreter σ → Prop) : Prop
    extends DataFrame R where
  pc : ∀ address (c : Z80Interpreter σ), R c { c with pc := address }
  memFetch : ∀ address (c : Z80Interpreter σ),
    R c { c with bus := (Z80Bus.memFetch address c.bus).2 }

variable [Z80Bus σ] {R : Z80Interpreter σ → Z80Interpreter σ → Prop}

instance frameToData : Coe (Frame R) (DataFrame R) := ⟨Frame.toDataFrame⟩

namespace DataFrame

theorem change (hR : DataFrame R) {f : Z80Interpreter σ → Z80Interpreter σ}
    (h : ∀ c, SameControl c (f c)) : Stays R (modify f : Z80M σ PUnit) :=
  .modify fun c => hR.data c _ (h c)

theorem pure (hR : DataFrame R) {α : Type} (a : α) : Stays R (pure a : Z80M σ α) :=
  Stays.pure hR.refl a

variable {β : Type}

theorem bind (hR : DataFrame R) {α : Type} {m : Z80M σ α} {f : α → Z80M σ β} (hm : Stays R m)
    (hf : ∀ a, Stays R (f a)) : Stays R (m >>= f) :=
  Stays.bind hR.trans hm hf

theorem get_bind (hR : DataFrame R) {f : Z80Interpreter σ → Z80M σ β}
    (hf : ∀ c, Stays R (f c)) : Stays R (get >>= f) :=
  hR.bind (.get hR.refl) hf

theorem change_bind (hR : DataFrame R) {g : Z80Interpreter σ → Z80Interpreter σ}
    {f : PUnit → Z80M σ β} (h : ∀ c, SameControl c (g c)) (hf : ∀ u, Stays R (f u)) :
    Stays R (modify g >>= f) :=
  hR.bind (hR.change h) hf

end DataFrame

namespace Frame

theorem registers (hR : Frame R) (c c' : Z80Interpreter σ) (h : c.SameOutside c') : R c c' :=
  hR.trans c { c' with pc := c.pc } c' (hR.data c _ ⟨h, rfl⟩) (hR.pc c'.pc { c' with pc := c.pc })

theorem jump (hR : Frame R) {f : Z80Interpreter σ → Z80Interpreter σ}
    (h : ∀ c, SameOutside c (f c)) : Stays R (modify f : Z80M σ PUnit) :=
  .modify fun c => hR.registers c _ (h c)

theorem jump_bind (hR : Frame R) {β : Type} {g : Z80Interpreter σ → Z80Interpreter σ}
    {f : PUnit → Z80M σ β} (h : ∀ c, SameOutside c (g c)) (hf : ∀ u, Stays R (f u)) :
    Stays R (modify g >>= f) :=
  hR.bind (hR.jump h) hf

end Frame

section

variable (hR : DataFrame R)
include hR

theorem stays_memRead (address : Addr) : Stays R (memRead address : Z80M σ Byte) :=
  hR.memRead address

theorem stays_memWrite (address : Addr) (value : Byte) :
    Stays R (memWrite address value : Z80M σ PUnit) := hR.memWrite address value

theorem stays_readIo (port : Addr) : Stays R (readIo port : Z80M σ Byte) :=
  hR.readIo port

theorem stays_writeIo (port : Addr) (value : Byte) :
    Stays R (writeIo port value : Z80M σ PUnit) := hR.writeIo port value

theorem stays_read16 (address : Addr) : Stays R (read16 address : Z80M σ Addr) :=
  hR.bind (stays_memRead hR _) fun _ => hR.bind (stays_memRead hR _) fun _ => hR.pure _

theorem stays_write16 (address value : Addr) : Stays R (write16 address value : Z80M σ PUnit) :=
  hR.bind (stays_memWrite hR _ _) fun _ => stays_memWrite hR _ _

theorem stays_push16 (value : Addr) : Stays R (push16 value : Z80M σ PUnit) :=
  hR.change_bind (fun _ => ⟨⟨rfl, rfl⟩, rfl⟩) fun _ => hR.get_bind fun _ =>
    hR.bind (stays_memWrite hR _ _) fun _ => hR.change_bind (fun _ => ⟨⟨rfl, rfl⟩, rfl⟩) fun _ =>
      hR.get_bind fun _ => stays_memWrite hR _ _

theorem stays_pop16 : Stays R (pop16 : Z80M σ Addr) :=
  hR.get_bind fun _ => hR.bind (stays_read16 hR _) fun _ =>
    hR.change_bind (fun _ => ⟨⟨rfl, rfl⟩, rfl⟩) fun _ => hR.pure _

theorem stays_readReg8 (idx : ℕ) : Stays R (readReg8 idx : Z80M σ Byte) := by
  refine hR.get_bind fun c => ?_
  split
  case h_7 => exact stays_memRead hR _
  all_goals exact hR.pure _

theorem stays_writeReg8 (idx : ℕ) (value : Byte) :
    Stays R (writeReg8 idx value : Z80M σ PUnit) := by
  unfold writeReg8
  split
  case h_7 => exact hR.get_bind fun c => stays_memWrite hR _ _
  all_goals exact hR.change fun _ => ⟨⟨rfl, rfl⟩, rfl⟩

theorem stays_executeCbOpcode (opcode : Byte) (indexed : Bool) (indexedAddress : Addr) :
    Stays R (executeCbOpcode opcode indexed indexedAddress : Z80M σ (ℕ × Byte)) := by
  have hvalue : Stays R
      (if indexed then memRead indexedAddress else readReg8 (opcodeZ opcode) : Z80M σ Byte) :=
    .ite (fun _ => stays_memRead hR _) fun _ => stays_readReg8 hR _
  refine hR.bind hvalue fun value => ?_
  refine .ite (fun _ => hR.change_bind (fun _ => ⟨⟨rfl, rfl⟩, rfl⟩) fun _ => hR.pure _) fun _ => ?_
  have hresult : Stays R
      (if opcodeX opcode = 0 then modifyGet (rotateShift (opcodeY opcode) value)
      else if opcodeX opcode = 2 then pure (value &&& ~~~(1#8 <<< opcodeY opcode))
      else pure (value ||| (1#8 <<< opcodeY opcode)) : Z80M σ Byte) :=
    .ite (fun _ => .modifyGet fun c => hR.data c _ ⟨⟨rfl, rfl⟩, rfl⟩) fun _ =>
      .ite (fun _ => hR.pure _) fun _ => hR.pure _
  refine hR.bind hresult fun result => ?_
  refine hR.bind (.ite (fun _ => stays_memWrite hR _ _) fun _ => stays_writeReg8 hR _ _)
    fun _ => ?_
  exact hR.pure _

theorem stays_rotateDigits (stored loaded : Byte → Byte → Byte) :
    Stays R (rotateDigits stored loaded : Z80M σ ℕ) :=
  hR.get_bind fun _ => hR.bind (stays_memRead hR _) fun _ =>
    hR.bind (stays_memWrite hR _ _) fun _ =>
      hR.change_bind (fun _ => ⟨⟨rfl, rfl⟩, rfl⟩) fun _ => hR.pure _

theorem stays_executeEdSpecial (y : ℕ) : Stays R (executeEdSpecial y : Z80M σ ℕ) := by
  refine hR.get_bind fun c => ?_
  split
  case h_5 => exact stays_rotateDigits hR _ _
  case h_6 => exact stays_rotateDigits hR _ _
  case h_7 => exact hR.pure _
  all_goals exact hR.change_bind (fun _ => ⟨⟨rfl, rfl⟩, rfl⟩) fun _ => hR.pure _

theorem stays_stepReg8 (idx : ℕ) (increment : Bool) :
    Stays R (stepReg8 idx increment : Z80M σ PUnit) :=
  hR.bind (stays_readReg8 hR _) fun _ => hR.bind (stays_writeReg8 hR _ _) fun _ =>
    hR.change fun _ => ⟨⟨rfl, rfl⟩, rfl⟩

theorem stays_executeEdData (y : ℕ) {z : ℕ} (haddress : z ≠ 3) (hreturn : z ≠ 5) :
    Stays R (executeEdRegular y z : Z80M σ ℕ) := by
  refine hR.get_bind fun c => ?_
  split
  · exact hR.bind (stays_readIo hR _) fun _ =>
      hR.change_bind (fun _ => ⟨⟨rfl, rfl⟩, rfl⟩) fun _ =>
        hR.bind (.ite (fun _ => stays_writeReg8 hR _ _) fun _ => hR.pure _) fun _ => hR.pure _
  · exact hR.bind (.ite (fun _ => hR.pure _) fun _ => stays_readReg8 hR _) fun _ =>
      hR.bind (stays_writeIo hR _ _) fun _ => hR.pure _
  · exact hR.change_bind (fun _ => ⟨⟨rfl, rfl⟩, rfl⟩) fun _ => hR.pure _
  · exact absurd rfl haddress
  · exact hR.change_bind (fun _ => ⟨⟨rfl, rfl⟩, rfl⟩) fun _ => hR.pure _
  · exact absurd rfl hreturn
  · exact hR.change_bind (fun _ => ⟨⟨rfl, rfl⟩, rfl⟩) fun _ => hR.pure _
  · exact stays_executeEdSpecial hR _

theorem stays_executeEdAddress (p q : ℕ) (c : Z80Interpreter σ) (address : Addr) :
    Stays R (if q = 0 then write16 address (c.getReg16ByPair p false)
      else do
        let value ← read16 address
        modify (setReg16ByPair p value false) : Z80M σ PUnit) :=
  .ite (fun _ => stays_write16 hR _ _) fun _ =>
    hR.bind (stays_read16 hR _) fun _ => hR.change (sameControl_setReg16ByPair _ _ _)

end

section

variable (hR : Frame R)
include hR

theorem stays_repeatBlock (again : Bool) : Stays R (repeatBlock again : Z80M σ ℕ) :=
  .ite (fun _ => hR.jump_bind (fun _ => ⟨rfl, rfl⟩) fun _ => hR.pure _) fun _ => hR.pure _

theorem stays_fetch8 : Stays R (fetch8 : Z80M σ Byte) :=
  hR.get_bind fun c => hR.bind (m := memFetch c.pc) (hR.memFetch c.pc) fun _ =>
    hR.jump_bind (fun _ => ⟨rfl, rfl⟩) fun _ => hR.pure _

theorem stays_fetchOpcode : Stays R (fetchOpcode : Z80M σ Byte) :=
  hR.change_bind (fun _ => ⟨⟨rfl, rfl⟩, rfl⟩) fun _ => stays_fetch8 hR

theorem stays_fetch16 : Stays R (fetch16 : Z80M σ Addr) :=
  hR.bind (stays_fetch8 hR) fun _ => hR.bind (stays_fetch8 hR) fun _ => hR.pure _

theorem stays_indexedAddress (indexPrefix : Byte) :
    Stays R (indexedAddress indexPrefix : Z80M σ Addr) :=
  hR.bind (stays_fetch8 hR) fun _ => hR.get_bind fun _ => hR.pure _

theorem stays_executeBlock (operation : ℕ) (direction : Addr) (repeats : Bool) :
    Stays R (executeBlock operation direction repeats : Z80M σ ℕ) := by
  have hthen {m : Z80M σ PUnit} {again : Z80Interpreter σ → Bool} (h : Stays R m) :
      Stays R (m >>= fun _ => get >>= fun c => repeatBlock (again c)) :=
    hR.bind h fun _ => hR.get_bind fun c => stays_repeatBlock hR _
  have hregisters {f : Z80Interpreter σ → Z80Interpreter σ}
      (h : ∀ c, SameControl c (f c)) := hR.change h
  unfold executeBlock
  split
  · refine hR.get_bind fun c => hR.bind (stays_memRead hR _) fun value => ?_
    exact hR.bind (stays_memWrite hR _ _) fun _ =>
      hR.change_bind (fun _ => ⟨⟨rfl, rfl⟩, rfl⟩) fun _ => hthen (hregisters fun _ => ⟨⟨rfl, rfl⟩, rfl⟩)
  · refine hR.get_bind fun c => hR.bind (stays_memRead hR _) fun value => ?_
    exact hR.change_bind (fun _ => ⟨⟨rfl, rfl⟩, rfl⟩) fun _ =>
      hthen (hregisters fun _ => ⟨⟨rfl, rfl⟩, rfl⟩)
  · refine hR.get_bind fun c => hR.bind (stays_readIo hR _) fun value => ?_
    exact hR.bind (stays_memWrite hR _ _) fun _ =>
      hR.change_bind (fun _ => ⟨⟨rfl, rfl⟩, rfl⟩) fun _ => hthen (hregisters fun _ => ⟨⟨rfl, rfl⟩, rfl⟩)
  · refine hR.get_bind fun c => hR.bind (stays_memRead hR _) fun value => ?_
    exact hR.change_bind (fun _ => ⟨⟨rfl, rfl⟩, rfl⟩) fun _ => hR.get_bind fun _ =>
      hR.bind (stays_writeIo hR _ _) fun _ => hthen (hregisters fun _ => ⟨⟨rfl, rfl⟩, rfl⟩)

theorem stays_jumpRelative (taken : Bool) (takenCycles otherCycles : ℕ) :
    Stays R (jumpRelative taken takenCycles otherCycles : Z80M σ ℕ) :=
  hR.bind (stays_fetch8 hR) fun _ =>
    .ite (fun _ => hR.jump_bind (fun _ => ⟨rfl, rfl⟩) fun _ => hR.pure _) fun _ => hR.pure _

theorem stays_returnFrom (taken : Bool) (takenCycles otherCycles : ℕ) :
    Stays R (returnFrom taken takenCycles otherCycles : Z80M σ ℕ) :=
  .ite (fun _ => hR.bind (stays_pop16 hR) fun _ =>
    hR.jump_bind (fun _ => ⟨rfl, rfl⟩) fun _ => hR.pure _) fun _ => hR.pure _

theorem stays_jumpAbsolute (taken : Bool) : Stays R (jumpAbsolute taken : Z80M σ ℕ) :=
  hR.bind (stays_fetch16 hR) fun _ =>
    hR.bind (.ite (fun _ => hR.jump fun _ => ⟨rfl, rfl⟩) fun _ => hR.pure _) fun _ =>
      hR.pure _

theorem stays_callAbsolute (taken : Bool) : Stays R (callAbsolute taken : Z80M σ ℕ) :=
  hR.bind (stays_fetch16 hR) fun _ =>
    .ite (fun _ => hR.get_bind fun _ => hR.bind (stays_push16 hR _) fun _ =>
      hR.jump_bind (fun _ => ⟨rfl, rfl⟩) fun _ => hR.pure _) fun _ => hR.pure _

/-- The opcodes that set or clear the flip-flops themselves, and the ED table. -/
def touchesFlipFlops (opcode : Byte) : Bool := opcode ∈ [0xED#8, 0xF3#8, 0xFB#8]

variable {opcode : Byte}

theorem stays_executeUnprefixed (h : touchesFlipFlops opcode = false) :
    Stays R (executeUnprefixed opcode : Z80M σ ℕ) := by
  simp only [touchesFlipFlops, List.mem_cons, List.not_mem_nil, or_false, decide_eq_false_iff_not,
    not_or] at h
  refine hR.get_bind fun c => ?_
  -- Each branch of the table but the three excluded ones is a sequence of framed operations.
  repeat' first
    | with_reducible first
      | refine hR.bind ?_ fun _ => ?_
      | refine Stays.ite (fun hop => ?_) fun _ => ?_
      | exact hR.pure _
      | exact stays_memRead hR _
      | exact stays_memWrite hR _ _
      | exact stays_readIo hR _
      | exact stays_writeIo hR _ _
      | exact stays_fetch8 hR
      | exact stays_fetchOpcode hR
      | exact stays_fetch16 hR
      | exact stays_read16 hR _
      | exact stays_write16 hR _ _
      | exact stays_push16 hR _
      | exact stays_pop16 hR
      | exact stays_readReg8 hR _
      | exact stays_writeReg8 hR _ _
      | exact stays_stepReg8 hR _ _
      | exact stays_jumpRelative hR _ _ _
      | exact stays_returnFrom hR _ _ _
      | exact stays_jumpAbsolute hR _
      | exact stays_callAbsolute hR _
      | exact stays_executeCbOpcode hR _ _ _
      | refine hR.jump ?_
      | exact fun c => (sameControl_alu _ _ c).outside
      | exact fun c => (sameControl_setReg16ByPair _ _ _ c).outside
    | exact absurd hop h.1
    | exact absurd hop h.2.1
    | exact absurd hop h.2.2
    | exact fun _ => ⟨rfl, rfl⟩

theorem stays_executeIndexedOpcode (indexPrefix : Byte) (h : touchesFlipFlops opcode = false) :
    Stays R (executeIndexedOpcode indexPrefix opcode : Z80M σ ℕ) := by
  refine hR.get_bind fun c => ?_
  repeat' first
    | with_reducible first
      | refine hR.bind ?_ fun _ => ?_
      | refine Stays.ite (fun _ => ?_) fun _ => ?_
      | exact hR.pure _
      | exact stays_memRead hR _
      | exact stays_memWrite hR _ _
      | exact stays_fetch8 hR
      | exact stays_fetchOpcode hR
      | exact stays_fetch16 hR
      | exact stays_read16 hR _
      | exact stays_write16 hR _ _
      | exact stays_push16 hR _
      | exact stays_pop16 hR
      | exact stays_readReg8 hR _
      | exact stays_writeReg8 hR _ _
      | exact stays_indexedAddress hR _
      | exact stays_executeCbOpcode hR _ _ _
      | exact stays_executeUnprefixed hR h
      | refine hR.jump ?_
      | exact fun c => (sameControl_alu _ _ c).outside
      | exact fun c => (sameControl_addIndex _ _ c).outside
      | exact fun c => (sameControl_setIndex _ _ c).outside
      | exact fun c => (sameControl_stepIndexHalf _ _ _ c).outside
    | exact fun _ => ⟨rfl, rfl⟩

theorem stays_executeEdRegular (y : ℕ) {z : ℕ} (hz : z ≠ 5) :
    Stays R (executeEdRegular y z : Z80M σ ℕ) := by
  by_cases haddress : z = 3
  · subst haddress
    exact hR.get_bind fun c => hR.bind (stays_fetch16 hR) fun address =>
      hR.bind (stays_executeEdAddress hR _ _ c address) fun _ => hR.pure _
  · exact stays_executeEdData hR y haddress hz

theorem stays_fetchPrefixed (n : ℕ) (lastPrefix : Byte) (cycles : ℕ) :
    Stays R (fetchPrefixed n lastPrefix cycles : Z80M σ (Option (Byte × Byte) × ℕ)) := by
  induction n generalizing lastPrefix cycles with
  | zero => exact hR.pure _
  | succ n ih =>
    refine hR.bind (stays_fetchOpcode hR) fun nextOpcode => ?_
    exact .ite (fun _ => ih _ _) fun _ => hR.pure _

theorem stays_jumpToHandler (vector : Byte) : Stays R (jumpToHandler vector : Z80M σ ℕ) := by
  refine hR.get_bind fun c => hR.bind (stays_push16 hR _) fun _ => ?_
  refine .ite (fun _ => hR.bind (stays_read16 hR _) fun _ => ?_) fun _ => .ite (fun _ => ?_)
    fun _ => ?_
  · exact hR.jump_bind (fun _ => ⟨rfl, rfl⟩) fun _ => hR.pure _
  · exact hR.jump_bind (fun _ => ⟨rfl, rfl⟩) fun _ => hR.pure _
  · exact hR.jump_bind (fun _ => ⟨rfl, rfl⟩) fun _ => hR.pure _

end

theorem executeIndexedOpcode_of_touches
    (h : touchesFlipFlops opcode = true) (c : Z80Interpreter σ) :
    (executeIndexedOpcode indexPrefix opcode c).2 = (executeUnprefixed opcode c).2 := by
  simp only [touchesFlipFlops, List.mem_cons, List.not_mem_nil, or_false, decide_eq_true_eq] at h
  rcases h with rfl | rfl | rfl <;> rfl

/-- A property of the devices that every access through the bus keeps. -/
structure BusInvariant (I : σ → Prop) : Prop where
  memRead : ∀ address s, I s → I (Z80Bus.memRead address s).2
  memFetch : ∀ address s, I s → I (Z80Bus.memFetch address s).2
  memWrite : ∀ address value s, I s → I (Z80Bus.memWrite address value s)
  readIo : ∀ port s, I s → I (Z80Bus.readIo port s).2
  writeIo : ∀ port value s, I s → I (Z80Bus.writeIo port value s)
  interruptRequest : ∀ s, I s → I (Z80Bus.interruptRequest s).2

namespace BusInvariant

variable {I : σ → Prop}

theorem frame (hI : BusInvariant I) :
    Frame (fun c c' : Z80Interpreter σ => I c.bus → I c'.bus) where
  refl _ := id
  trans _ _ _ h h' := h' ∘ h
  data _ _ h := by
    rw [h.1.1]
    exact id
  pc _ _ := id
  memRead address c := hI.memRead address c.bus
  memFetch address c := hI.memFetch address c.bus
  memWrite address value c := hI.memWrite address value c.bus
  readIo port c := hI.readIo port c.bus
  writeIo port value c := hI.writeIo port value c.bus

omit [Z80Bus σ] in
theorem change (f : Z80Interpreter σ → Z80Interpreter σ) (h : ∀ c, (f c).bus = c.bus) :
    Stays (fun c c' => I c.bus → I c'.bus) (modify f : Z80M σ PUnit) := by
  intro c hc
  show I (f c).bus
  rw [h]
  exact hc

section

variable (hI : BusInvariant I)

include hI

theorem executeEdOpcode (opcode : Byte) :
    Stays (fun c c' => I c.bus → I c'.bus) (executeEdOpcode opcode : Z80M σ ℕ) := by
  have hF := hI.frame
  refine .ite (fun _ => ?_) fun _ => .ite (fun _ => stays_executeBlock hF _ _ _) fun _ => hF.pure _
  by_cases hz : opcodeZ opcode = 5
  · rw [hz]
    exact hF.get_bind fun _ => hF.bind (stays_pop16 hF) fun _ =>
      hF.bind (change _ fun _ => rfl) fun _ => hF.bind (change _ fun _ => rfl) fun _ => hF.pure _
  · exact stays_executeEdRegular hF _ hz

theorem executeUnprefixed (opcode : Byte) :
    Stays (fun c c' => I c.bus → I c'.bus) (executeUnprefixed opcode : Z80M σ ℕ) := by
  have hF := hI.frame
  cases h : touchesFlipFlops opcode with
  | false => exact stays_executeUnprefixed hF h
  | true =>
    simp only [touchesFlipFlops, List.mem_cons, List.not_mem_nil, or_false,
      decide_eq_true_eq] at h
    rcases h with rfl | rfl | rfl
    · exact hF.get_bind fun _ => hF.bind (stays_fetchOpcode hF) fun op => hI.executeEdOpcode op
    · exact hF.get_bind fun _ => hF.bind (change _ fun _ => rfl) fun _ => hF.pure _
    · exact hF.get_bind fun _ => hF.bind (change _ fun _ => rfl) fun _ => hF.pure _

theorem executeIndexedOpcode (opcode : Byte) :
    Stays (fun c c' => I c.bus → I c'.bus)
      (executeIndexedOpcode indexPrefix opcode : Z80M σ ℕ) := by
  cases h : touchesFlipFlops opcode with
  | false => exact stays_executeIndexedOpcode hI.frame indexPrefix h
  | true =>
    intro c hc
    rw [executeIndexedOpcode_of_touches indexPrefix h]
    exact hI.executeUnprefixed opcode c hc

theorem executeOpcode (opcode : Byte) :
    Stays (fun c c' => I c.bus → I c'.bus) (executeOpcode opcode : Z80M σ ℕ) := by
  have hF := hI.frame
  refine .ite (fun _ => hF.bind (stays_fetchPrefixed hF _ _ _) fun found => ?_) fun _ =>
    hI.executeUnprefixed opcode
  cases found.1 with
  | none => exact hF.pure _
  | some found => exact hF.bind (hI.executeIndexedOpcode _ _) fun _ => hF.pure _

theorem handleInterrupts :
    Stays (fun c c' => I c.bus → I c'.bus) (handleInterrupts : Z80M σ ℕ) := by
  have hF := hI.frame
  refine hF.get_bind fun c => .ite (fun _ => hF.pure _) fun _ => ?_
  have hrequest : Stays (fun c c' => I c.bus → I c'.bus)
      (Z80Interpreter.interruptRequest : Z80M σ (Option Byte)) :=
    fun c => hI.interruptRequest c.bus
  refine hF.bind hrequest fun vector => ?_
  cases vector with
  | none => exact hF.pure _
  | some vector =>
    exact hF.bind (change _ fun _ => rfl) fun _ => stays_jumpToHandler hF vector

theorem step (c : Z80Interpreter σ) (hc : I c.bus) :
    I (step c).2.bus := by
  have hF := hI.frame
  have hcount : ∀ c : Z80Interpreter σ, c.countDelay.bus = c.bus := by
    intro c
    unfold countDelay
    split
    · split <;> rfl
    · rfl
  have hinstruction : Stays (fun c c' => I c.bus → I c'.bus) (executeInstruction : Z80M σ ℕ) :=
    hF.bind (stays_fetchOpcode hF) fun opcode => hF.bind (hI.executeOpcode opcode) fun _ =>
      hF.bind (change _ hcount) fun _ => hF.pure _
  have hstep : Stays (fun c c' => I c.bus → I c'.bus) (Z80Interpreter.step : Z80M σ ℕ) :=
    hF.bind hI.handleInterrupts fun _ => .ite (fun _ => hF.pure _) fun _ =>
      hF.get_bind fun _ => .ite (fun _ => hF.pure _) fun _ => hinstruction
  exact hstep c hc

end

end BusInvariant

end Z80Interpreter

end ProtoTime.GameGear
