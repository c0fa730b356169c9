import Mathlib.Data.Fintype.Basic
import Mathlib.Tactic.FinCases
import ProtoTime.Debug.ControlStates
import ProtoTime.GameBoy.Machine
import ProtoTime.GameGear.Machine
import Mathlib.Data.BitVec

/-!
What the two machines let a debugger read and edit, and that their edit methods write what they
name and nothing else.
-/
namespace ProtoTime.Debug

structure Observed (M : Type) where
  machine : M
  observationGeneration : BitVec 64

def Observed.edited {M : Type} (o : Observed M) : Observed M :=
  { o with observationGeneration := o.observationGeneration + 1 }

/-! ## The Game Boy -/

section GameBoy

open GameBoy

def gameBoyRegisters (m : GameBoyMachine) : Registers := fun i =>
  [m.cpu.core.af, m.cpu.core.bc, m.cpu.core.de, m.cpu.core.hl, m.cpu.core.sp,
    m.cpu.core.pc].getD i 0

def gameBoyCommitRegisters (m : GameBoyMachine) (r : Registers) : GameBoyMachine :=
  m.withCore { m.cpu.core with
    af := r 0, bc := r 1, de := r 2, hl := r 3, sp := r 4, pc := r 5 }

def gameBoyValidRegisters (r : Registers) : Bool :=
  r 0 &&& 15 == 0 && (List.finRange 20).all fun i => decide (i.val < 6) || r i == 0

def editableRam (address : Addr) : Bool :=
  (decide (0xC000#16 ≤ address) && decide (address < 0xE000#16))
    || (decide (0xFF80#16 ≤ address) && decide (address < 0xFFFF#16))

/-- The Game Boy, with any execution and any naming of the memory behind an address. -/
def gameBoyDebug (backing : GameBoyMachine → Address → BitVec 64)
    (runSlice : Observed GameBoyMachine → Slice × Observed GameBoyMachine) :
    DebugMachine (Observed GameBoyMachine) where
  observationGeneration o := o.observationGeneration
  debugPortBus := false
  debugRegisters o := gameBoyRegisters o.machine
  debugValidateRegisters := gameBoyValidRegisters
  debugCommitRegisters o r := { o with machine := gameBoyCommitRegisters o.machine r }
  debugPeek o address := some (o.machine.board.memoryMap.peek address)
  debugWritable _ address := editableRam (resolveEchoAddress address)
  debugCommitByte o address value := { o with machine := o.machine.debugCommitByte address value }
  debugBacking o := backing o.machine
  debugEdited := Observed.edited
  runSlice := runSlice

def clearEditableRam (m : GameBoyMemoryMap) : GameBoyMemoryMap :=
  { m with cells := fun a => if editableRam a then 0 else m.cells a }

/-- The stored bytes behind the addresses, echoes resolved. Blocks translated from the bytes are
left out with them. -/
def gameBoyView : EditView (Observed GameBoyMachine) where
  byte o address := o.machine.board.memoryMap.cells (resolveEchoAddress address)
  shares a b := resolveEchoAddress a == resolveEchoAddress b
  erase o :=
    ⟨(gameBoyCommitRegisters o.machine 0).withBoard { o.machine.board with
      memoryMap := clearEditableRam o.machine.board.memoryMap
      blockCache := .empty }, 0⟩

theorem debugCommitRam_eq (m : GameBoyMemoryMap) (a : Addr) (v : Byte) :
    m.debugCommitRam a v = if editableRam (resolveEchoAddress a)
      then m.setCell (resolveEchoAddress a) v else m := by
  unfold GameBoyMemoryMap.debugCommitRam editableRam
  dsimp only
  split
  · next h =>
    rw [decide_eq_true h.1, decide_eq_true h.2]
    rfl
  · split
    · next h =>
      rw [decide_eq_true h.1, decide_eq_true h.2, Bool.and_self, Bool.or_true]
      rfl
    · next hlow hhigh =>
      rw [if_neg]
      simp only [Bool.or_eq_true, Bool.and_eq_true, decide_eq_true_eq]
      rintro (h | h)
      · exact hlow h
      · exact hhigh h

/-- A byte committed to RAM is not seen once RAM is cleared. -/
theorem clearEditableRam_debugCommitRam (m : GameBoyMemoryMap) (a : Addr) (v : Byte) :
    clearEditableRam (m.debugCommitRam a v) = clearEditableRam m := by
  rw [debugCommitRam_eq]
  split
  · next hram =>
    have hcells : (fun x => if editableRam x then (0 : Byte)
          else (m.setCell (resolveEchoAddress a) v).cells x)
        = fun x => if editableRam x then (0 : Byte) else m.cells x := by
      funext x
      split
      · rfl
      · next hx =>
        apply if_neg
        intro h
        apply hx
        rw [h, hram]
    unfold clearEditableRam
    rw [hcells]
    rfl
  · rfl

theorem invalidateBlockCacheForWrite_eq (b : Board) (a : Addr) :
    ∃ cache, b.invalidateBlockCacheForWrite a = { b with blockCache := cache } := by
  unfold Board.invalidateBlockCacheForWrite
  dsimp only
  split
  · exact ⟨_, rfl⟩
  · split
    · exact ⟨b.blockCache, rfl⟩
    · exact ⟨_, rfl⟩

theorem debugCommitByte_eq (b : Board) (a : Addr) (v : Byte) : ∃ cache,
    b.debugCommitByte a v
      = { b with memoryMap := b.memoryMap.debugCommitRam a v, blockCache := cache } := by
  obtain ⟨cache, hcache⟩ := invalidateBlockCacheForWrite_eq
    { b with memoryMap := b.memoryMap.debugCommitRam a v } (resolveEchoAddress a)
  exact ⟨cache, hcache⟩

theorem gameBoyRegisters_commit {m : GameBoyMachine} {r : Registers}
    (h : gameBoyValidRegisters r = true) :
    gameBoyRegisters (gameBoyCommitRegisters m r) = r := by
  have hrest := List.all_eq_true.mp (Bool.and_eq_true_iff.mp h).2
  funext i
  have hi := hrest i (List.mem_finRange i)
  rw [Bool.or_eq_true_iff, decide_eq_true_eq, beq_iff_eq] at hi
  fin_cases i <;> first | rfl | exact (hi.resolve_left (by decide)).symm

theorem gameBoy_edits (backing : GameBoyMachine → Address → BitVec 64)
    (runSlice : Observed GameBoyMachine → Slice × Observed GameBoyMachine) :
    EditsExactly (gameBoyDebug backing runSlice) gameBoyView where
  byte_commitByte := by
    intro o a v b hwritable
    obtain ⟨cache, hcommit⟩ := debugCommitByte_eq o.machine.board a v
    have hram : editableRam (resolveEchoAddress a) = true := hwritable
    show (o.machine.board.debugCommitByte a v).memoryMap.cells (resolveEchoAddress b) = _
    rw [hcommit, debugCommitRam_eq, if_pos hram]
    show (if resolveEchoAddress b = resolveEchoAddress a then v else _) = _
    by_cases hsame : resolveEchoAddress a = resolveEchoAddress b
    · rw [if_pos hsame.symm]
      exact (if_pos (beq_iff_eq.mpr hsame)).symm
    · rw [if_neg (Ne.symm hsame)]
      exact (if_neg fun h => hsame (beq_iff_eq.mp h)).symm
  registers_commitByte _ _ _ := rfl
  erase_commitByte := by
    intro o a v
    obtain ⟨cache, hcommit⟩ := debugCommitByte_eq o.machine.board a v
    show (⟨(gameBoyCommitRegisters (o.machine.debugCommitByte a v) 0).withBoard
      { o.machine.board.debugCommitByte a v with
        memoryMap := clearEditableRam (o.machine.board.debugCommitByte a v).memoryMap
        blockCache := .empty }, 0⟩ : Observed GameBoyMachine) = _
    rw [hcommit]
    rw [clearEditableRam_debugCommitRam]
    rfl
  writable_commitByte _ _ _ _ := rfl
  byte_commitRegisters _ _ _ := rfl
  registers_commitRegisters h := gameBoyRegisters_commit h
  erase_commitRegisters _ _ := rfl
  byte_edited _ _ := rfl
  registers_edited _ := rfl
  erase_edited _ := rfl

end GameBoy

/-! ## The Game Gear -/

section GameGear

open GameBoy (Addr)
open GameGear

variable {C : Type}

def flagRegister (flag : Bool) : BitVec 16 := if flag then 1 else 0

def gameGearRegisters (m : GameGearMachine C) : Registers := fun i =>
  [m.cpu.af, m.cpu.bc, m.cpu.de, m.cpu.hl, m.cpu.sp, m.cpu.pc, m.cpu.ix, m.cpu.iy, m.cpu.af_,
    m.cpu.bc_, m.cpu.de_, m.cpu.hl_, m.cpu.i.setWidth 16, m.cpu.r.setWidth 16,
    flagRegister m.cpu.iff1, flagRegister m.cpu.iff2, flagRegister m.cpu.ime,
    BitVec.ofNat 16 m.cpu.interruptMode, flagRegister m.cpu.halted,
    BitVec.ofNat 16 m.cpu.imeEnableDelay].getD i 0

def gameGearCommitRegisters (m : GameGearMachine C) (r : Registers) : GameGearMachine C :=
  { m with cpu := { m.cpu with
    af := r 0, bc := r 1, de := r 2, hl := r 3, sp := r 4, pc := r 5, ix := r 6, iy := r 7
    af_ := r 8, bc_ := r 9, de_ := r 10, hl_ := r 11
    i := (r 12).setWidth 8, r := (r 13).setWidth 8
    iff1 := r 14 != 0, iff2 := r 15 != 0, ime := r 16 != 0
    interruptMode := (r 17).toNat, halted := r 18 != 0, imeEnableDelay := (r 19).toNat } }

def gameGearValidRegisters (r : Registers) : Bool :=
  decide (r 12 ≤ 255 ∧ r 13 ≤ 255 ∧ r 14 ≤ 1 ∧ r 15 ≤ 1 ∧ r 16 ≤ 1 ∧ r 17 ≤ 2 ∧ r 18 ≤ 1
    ∧ r 19 ≤ 2)

/-- From `C000` on, an address where a read and a write reach the same RAM: not the input port,
the mapper's registers or a window of the video or audio chip. -/
def analysisRam (d : GameGearDevices C) (address : Addr) : Bool :=
  !d.cart.handlesControlWrite address && decide (address ≠ 0xFF00#16)
    && !(decide (0xFE00#16 ≤ address) && decide (address < 0xFEA0#16))
    && !(decide (0xFF40#16 ≤ address) && decide (address ≤ 0xFF4B#16))
    && !(decide (0xFF10#16 ≤ address) && decide (address ≤ 0xFF26#16))
    && !(decide (0xFF30#16 ≤ address) && decide (address ≤ 0xFF3F#16))

def gameGearWritable (d : GameGearDevices C) (address : Addr) : Bool :=
  decide (0xC000#16 ≤ address) && decide (address < 0xFFFC#16) && analysisRam d address

def peekCodeByte (d : GameGearDevices C) (address : Addr) : Option Byte :=
  if address = 0x00DC#16 ∨ address = 0x00DD#16 ∨ 0xFE00#16 ≤ address then none
  else if d.mem.biosMapped address then
    some (d.mem.bios.getD (address.toNat % d.mem.bios.length) 0xFF)
  else if address < 0xC000#16 then
    if d.cart.loaded then some (d.cart.read address) else none
  else some (d.mem.ramAt (address.toNat - 0xC000))

def gameGearCommitByte (m : GameGearMachine C) (address : Addr) (value : Byte) :
    GameGearMachine C :=
  { m with cpu := { m.cpu with bus := { m.cpu.bus with
    mem := m.cpu.bus.mem.setRam (address &&& 0x1FFF#16).toNat value } } }

/-- The Game Gear, with any execution and any naming of the memory behind an address. -/
def gameGearDebug (backing : GameGearMachine C → Address → BitVec 64)
    (runSlice : Observed (GameGearMachine C) → Slice × Observed (GameGearMachine C)) :
    DebugMachine (Observed (GameGearMachine C)) where
  observationGeneration o := o.observationGeneration
  debugPortBus := true
  debugRegisters o := gameGearRegisters o.machine
  debugValidateRegisters := gameGearValidRegisters
  debugCommitRegisters o r := { o with machine := gameGearCommitRegisters o.machine r }
  debugPeek o address := peekCodeByte o.machine.cpu.bus address
  debugWritable o address := gameGearWritable o.machine.cpu.bus address
  debugCommitByte o address value :=
    { o with machine := gameGearCommitByte o.machine address value }
  debugBacking o := backing o.machine
  debugEdited := Observed.edited
  runSlice := runSlice

/-- The RAM behind the addresses from `C000` on, where it is mirrored. -/
def gameGearView : EditView (Observed (GameGearMachine C)) where
  byte o address := if 0xC000#16 ≤ address
    then o.machine.cpu.bus.mem.ramAt (address &&& 0x1FFF#16).toNat else 0
  shares a b := decide (0xC000#16 ≤ b) && a &&& 0x1FFF#16 == b &&& 0x1FFF#16
  erase o :=
    ⟨{ gameGearCommitRegisters o.machine 0 with
      cpu := { (gameGearCommitRegisters o.machine 0).cpu with
        bus := { o.machine.cpu.bus with mem := { o.machine.cpu.bus.mem with
          ram := fun _ => 0 } } } }, 0⟩

theorem flagRegister_ne_zero {v : BitVec 16} (h : v ≤ 1) : flagRegister (v != 0) = v := by
  have hv : v.toNat ≤ 1 := h
  have hcases : v = 0 ∨ v = 1 := by
    rcases Nat.le_one_iff_eq_zero_or_eq_one.mp hv with h0 | h1
    · exact .inl (BitVec.eq_of_toNat_eq h0)
    · exact .inr (BitVec.eq_of_toNat_eq h1)
  rcases hcases with rfl | rfl
  · rfl
  · rfl

theorem setWidth_byte {v : BitVec 16} (h : v ≤ 255) : (v.setWidth 8).setWidth 16 = v := by
  have hv : v.toNat ≤ 255 := h
  apply BitVec.eq_of_toNat_eq
  rw [BitVec.toNat_setWidth, BitVec.toNat_setWidth]
  omega

theorem gameGearRegisters_commit {m : GameGearMachine C} {r : Registers}
    (h : gameGearValidRegisters r = true) :
    gameGearRegisters (gameGearCommitRegisters m r) = r := by
  obtain ⟨hi, hr, hiff1, hiff2, hime, -, hhalted, -⟩ := of_decide_eq_true h
  funext i
  fin_cases i <;> first
    | rfl
    | exact setWidth_byte hi
    | exact setWidth_byte hr
    | exact flagRegister_ne_zero hiff1
    | exact flagRegister_ne_zero hiff2
    | exact flagRegister_ne_zero hime
    | exact flagRegister_ne_zero hhalted
    | exact BitVec.ofNat_toNat _ _

theorem ramAt_setRam (m : GameGearMemoryMap) (a b : Addr) (v : Byte) :
    (m.setRam (a &&& 0x1FFF#16).toNat v).ramAt (b &&& 0x1FFF#16).toNat
      = if a &&& 0x1FFF#16 = b &&& 0x1FFF#16 then v else m.ramAt (b &&& 0x1FFF#16).toNat := by
  have hlt : ∀ x : Addr, (x &&& 0x1FFF#16).toNat < 0x2000 := by
    intro x
    have h : (x &&& 0x1FFF#16).toNat ≤ 0x1FFF := by
      exact Nat.and_le_right
    omega
  unfold GameGearMemoryMap.ramAt GameGearMemoryMap.setRam
  show Function.update m.ram (Fin.ofNat 0x2000 _) v (Fin.ofNat 0x2000 _) = _
  by_cases h : a &&& 0x1FFF#16 = b &&& 0x1FFF#16
  · rw [if_pos h, h, Function.update_self]
  · rw [if_neg h, Function.update_of_ne]
    intro hsame
    apply h
    apply BitVec.eq_of_toNat_eq
    have hval := congrArg Fin.val hsame
    rw [Fin.val_ofNat, Fin.val_ofNat, Nat.mod_eq_of_lt (hlt b), Nat.mod_eq_of_lt (hlt a)] at hval
    exact hval.symm

theorem gameGear_edits (backing : GameGearMachine C → Address → BitVec 64)
    (runSlice : Observed (GameGearMachine C) → Slice × Observed (GameGearMachine C)) :
    EditsExactly (gameGearDebug backing runSlice) gameGearView where
  byte_commitByte := by
    intro o a v b _
    show (if 0xC000#16 ≤ b then (o.machine.cpu.bus.mem.setRam _ v).ramAt _ else 0) = _
    rw [ramAt_setRam]
    show _ = if (decide (0xC000#16 ≤ b) && a &&& 0x1FFF#16 == b &&& 0x1FFF#16) = true
      then v else if 0xC000#16 ≤ b then o.machine.cpu.bus.mem.ramAt _ else 0
    by_cases hhigh : 0xC000#16 ≤ b
    · by_cases hsame : a &&& 0x1FFF#16 = b &&& 0x1FFF#16
      · rw [if_pos hhigh, if_pos hsame, decide_eq_true hhigh, beq_iff_eq.mpr hsame]
        rfl
      · rw [if_pos hhigh, if_neg hsame, decide_eq_true hhigh, beq_eq_false_iff_ne.mpr hsame,
          if_pos hhigh]
        rfl
    · rw [if_neg hhigh, decide_eq_false hhigh, if_neg hhigh]
      rfl
  registers_commitByte _ _ _ := rfl
  erase_commitByte _ _ _ := rfl
  writable_commitByte _ _ _ _ := rfl
  byte_commitRegisters _ _ _ := rfl
  registers_commitRegisters h := gameGearRegisters_commit h
  erase_commitRegisters _ _ := rfl
  byte_edited _ _ := rfl
  registers_edited _ := rfl
  erase_edited _ := rfl

end GameGear

end ProtoTime.Debug
