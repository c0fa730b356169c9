import ProtoTime.Space.AccessRecords

/-!
Running until a hardware event: the category of an event becomes an interval of addresses and a
mask of categories, and the capture watches the accesses of the processor for it.
-/
namespace ProtoTime.Space
open GameBoy (Byte Addr lo resolveEchoAddress GameBoyMemoryMap)
open GameGear (GameGearDevices portRecord vdpRecord)

inductive HardwareCategory where
  | cartridgeMapping | tileData | tileMap | sprites | input | serial | timer | interrupt
  | audioChannel | audioWave | audioStereo | dma | display | mapping | vram | palette | state
  deriving DecidableEq

namespace HardwareCategory

/-- The bit of a category in the mask of the Game Boy. -/
def gameboyBit : HardwareCategory → BitVec 32
  | cartridgeMapping => 1
  | tileData => 2
  | tileMap => 4
  | sprites => 8
  | input => 16
  | serial => 32
  | timer => 64
  | interrupt => 128
  | audioChannel => 256
  | audioWave => 512
  | dma => 1024
  | display => 2048
  | mapping => 4096
  | audioStereo | vram | palette | state => 0

/-- The bit of a category in the mask of the Game Gear; the parts of the VDP share theirs, and so
do the two of the sound. -/
def gamegearBit : HardwareCategory → BitVec 32
  | cartridgeMapping => 1
  | input => 16
  | serial => 32
  | timer => 64
  | audioChannel | audioStereo => 256
  | display | vram | palette | state => 2048
  | mapping => 4096
  | tileData | tileMap | sprites | interrupt | audioWave | dma => 0

end HardwareCategory

/-- The category of a location in the descriptor of the Game Boy's hardware. -/
def gameboyCategory (l : Location) (write : Bool) : Option HardwareCategory :=
  let a := offset l
  if space l = 1 ∧ write then some .cartridgeMapping
  else if space l = 4 then
    if 0x8000#16 ≤ a ∧ a ≤ 0x97FF#16 then some .tileData
    else if 0x9800#16 ≤ a ∧ a ≤ 0x9FFF#16 then some .tileMap
    else if 0xFE00#16 ≤ a ∧ a ≤ 0xFE9F#16 then some .sprites
    else none
  else if space l = 5 ∨ space l = 6 then
    if a = 0xFF00#16 then some .input
    else if a = 0xFF01#16 ∨ a = 0xFF02#16 then some .serial
    else if 0xFF04#16 ≤ a ∧ a ≤ 0xFF07#16 then some .timer
    else if a = 0xFF0F#16 ∨ a = 0xFFFF#16 then some .interrupt
    else if 0xFF10#16 ≤ a ∧ a ≤ 0xFF26#16 then some .audioChannel
    else if 0xFF30#16 ≤ a ∧ a ≤ 0xFF3F#16 then some .audioWave
    else if a = 0xFF46#16 ∨ (0xFF51#16 ≤ a ∧ a ≤ 0xFF55#16) then some .dma
    else if (0xFF40#16 ≤ a ∧ a ≤ 0xFF4B#16) ∨ (0xFF68#16 ≤ a ∧ a ≤ 0xFF6B#16) then some .display
    else if a = 0xFF4F#16 ∨ a = 0xFF70#16 ∨ a = 0xFF50#16 then some .mapping
    else none
  else none

/-- The category of a location in the descriptor of the Game Gear's hardware. -/
def gamegearCategory (l : Location) (write : Bool) : Option HardwareCategory :=
  let a := offset l
  if space l = 1 ∧ write then some .cartridgeMapping
  else if space l = 7 then
    if a ≤ 5#16 then some (if a = 0#16 then .input else .serial)
    else if a = 6#16 then some .audioStereo
    else if 7#16 ≤ a ∧ a ≤ 0x3F#16 then some (if a &&& 1#16 ≠ 0 then .input else .mapping)
    else if a &&& 0xC0#16 = 0x80#16 then some .display
    else if a &&& 0xC0#16 = 0x40#16 then some (if write then .audioChannel else .timer)
    else if a &&& 0xFE#16 = 0xDC#16 then some .input
    else none
  else if space l = 8 then some .vram
  else if space l = 9 then some .palette
  else if space l = 10 then some .display
  else if space l = 11 then some .state
  else if space l = 4 then some .display
  else if space l = 5 then some .audioChannel
  else if space l = 6 then some .input
  else none

def gameboyCategoryBit (l : Location) (write : Bool) : BitVec 32 :=
  let a := offset l
  if space l = 1 ∧ write then 1
  else if space l = 4 ∧ 0x8000#16 ≤ a ∧ a ≤ 0x97FF#16 then 2
  else if space l = 4 ∧ 0x9800#16 ≤ a ∧ a ≤ 0x9FFF#16 then 4
  else if space l = 4 ∧ 0xFE00#16 ≤ a ∧ a ≤ 0xFE9F#16 then 8
  else if space l ≠ 5 ∧ space l ≠ 6 then 0
  else if a = 0xFF00#16 then 16
  else if a = 0xFF01#16 ∨ a = 0xFF02#16 then 32
  else if 0xFF04#16 ≤ a ∧ a ≤ 0xFF07#16 then 64
  else if a = 0xFF0F#16 ∨ a = 0xFFFF#16 then 128
  else if 0xFF10#16 ≤ a ∧ a ≤ 0xFF26#16 then 256
  else if 0xFF30#16 ≤ a ∧ a ≤ 0xFF3F#16 then 512
  else if a = 0xFF46#16 ∨ (0xFF51#16 ≤ a ∧ a ≤ 0xFF55#16) then 1024
  else if (0xFF40#16 ≤ a ∧ a ≤ 0xFF4B#16) ∨ (0xFF68#16 ≤ a ∧ a ≤ 0xFF6B#16) then 2048
  else if a = 0xFF4F#16 ∨ a = 0xFF70#16 ∨ a = 0xFF50#16 then 4096
  else 0

def gamegearCategoryBit (l : Location) (write : Bool) : BitVec 32 :=
  let a := offset l
  if space l = 1 ∧ write then 1
  else if space l = 7 ∧ (a = 6#16 ∨ (a &&& 0xC0#16 = 0x40#16 ∧ write)) then 256
  else if space l = 7 ∧ a ≤ 5#16 then if a = 0#16 then 16 else 32
  else if space l = 7 ∧ 7#16 ≤ a ∧ a ≤ 0x3F#16 then if a &&& 1#16 ≠ 0 then 16 else 4096
  else if space l = 7 ∧ a &&& 0xC0#16 = 0x80#16 then 2048
  else if space l = 7 ∧ a &&& 0xC0#16 = 0x40#16 then 64
  else if space l = 7 ∧ a &&& 0xFE#16 = 0xDC#16 then 16
  else if 8 ≤ space l ∧ space l ≤ 11 then 2048
  else if space l = 4 then 2048
  else if space l = 5 then 256
  else if space l = 6 then 16
  else 0

/-- A machine under observation, with what its memory map reads. -/
inductive ObservedMachine (C : Type) where
  | gameboy (m : GameBoyMemoryMap)
  | gamegear (d : GameGearDevices C)

namespace ObservedMachine

variable {C : Type}

def location : ObservedMachine C → Addr → Location
  | gameboy m => m.analysisLocation
  | gamegear d => fun a => d.analysisLocation a false

def category : ObservedMachine C → Location → Bool → Option HardwareCategory
  | gameboy _ => gameboyCategory
  | gamegear _ => gamegearCategory

def categoryBit : ObservedMachine C → Location → Bool → BitVec 32
  | gameboy _ => gameboyCategoryBit
  | gamegear _ => gamegearCategoryBit

def bit : ObservedMachine C → HardwareCategory → BitVec 32
  | gameboy _ => HardwareCategory.gameboyBit
  | gamegear _ => HardwareCategory.gamegearBit

/-- The category of the hardware that a read of an address reaches. -/
def categoryAt (machine : ObservedMachine C) (write : Bool) (a : Addr) : Option HardwareCategory :=
  machine.category (machine.location a) write

def hasCategory (machine : ObservedMachine C) (write : Bool) (c : HardwareCategory) (a : Addr) :
    Bool :=
  decide (machine.categoryAt write a = some c)

/-- The records that a core of this kind pushes for its accesses, from any state of its memory
map; the boundaries, the fetches and the inputs are none of them. -/
inductive Pushes : ObservedMachine C → Record → Prop
  | gameboyRead (m m' : GameBoyMemoryMap) (phase : Kind) (address : Addr) (value : Byte)
      (accepted : Bool) : Pushes (gameboy m) (m'.readRecord phase address value accepted)
  | gameboyWrite (m m' : GameBoyMemoryMap) (address : Addr) (stored : Byte) :
      Pushes (gameboy m) (m'.writeRecord address stored)
  | gameboyRejected (m m' : GameBoyMemoryMap) (address : Addr) (value : Byte) :
      Pushes (gameboy m) (m'.rejectedWriteRecord address value)
  | gameboyIo (m m' : GameBoyMemoryMap) (address : Addr) (value : Byte) :
      Pushes (gameboy m) (m'.ioRecord address value)
  | gameboyDma (m m' : GameBoyMemoryMap) (address : Addr) (value : Byte) (write : Bool) :
      Pushes (gameboy m) (m'.dmaRecord address value write)
  | gamegearRead (d d' : GameGearDevices C) (a : Addr) (value : Byte) :
      Pushes (gamegear d) (d'.readRecord a value)
  | gamegearWrite (d d' : GameGearDevices C) (a : Addr) (value : Byte) :
      Pushes (gamegear d) (d'.writeRecord a value)
  | gamegearMirror (d : GameGearDevices C) (a : Addr) (value : Byte) (h : 0xFFFC#16 ≤ a) :
      Pushes (gamegear d) (GameGearDevices.mirrorRecord a value)
  | gamegearPort (d : GameGearDevices C) (port : Addr) (value : Byte) (write : Bool) :
      Pushes (gamegear d) (portRecord port value write)
  | gamegearVdp (d : GameGearDevices C) (phase : Kind) (space offset : Addr) (value : Byte)
      (write : Bool) (hspace : 8#16 ≤ space ∧ space ≤ 11#16) (h : offset < 0x4000#16) :
      Pushes (gamegear d) (vdpRecord phase space offset value write)

end ObservedMachine

inductive EventTarget where
  | address (a : Addr)
  | category (c : HardwareCategory)

/-- What `run_until` is asked for: an access of a kind to an address or to a category. -/
structure HardwareEvent where
  write : Bool
  target : EventTarget

/-- What the capture watches for; an empty mask lets every category pass. -/
structure Watch where
  first : Addr
  last : Addr
  write : Bool
  categoryMask : BitVec 32 := 0

/-- A pushed record with the state of the capture that decides its origin. -/
structure Push where
  record : Record
  phase : Kind
  cpuWrite : Bool := false
  cpuAddress : Addr := 0
  cpuLength : ℕ := 0

namespace Push

def originOf (p : Push) : AccessOrigin :=
  if p.record.origin ≠ .unknown then p.record.origin
  else if p.record.kind = .dma then .dma
  else if p.record.kind = .device then
    if p.cpuWrite ∧ (p.record.address - p.cpuAddress).toNat < p.cpuLength then .cpu else .device
  else if p.record.kind = .read ∨ p.record.kind = .write ∨ p.record.kind = .mapping then
    if p.phase = .read then .cpu else if p.phase = .inspection then .inspection else .boundary
  else .inspection

def stored (p : Push) : Record := { p.record with origin := p.originOf }

end Push

def Record.isCpuAccess (r : Record) : Bool :=
  decide (r.origin = .cpu) && r.accepted &&
    decide (r.kind = .read ∨ r.kind = .write ∨ r.kind = .device ∨ r.kind = .mapping)

/-- The result of a step: what it pushed, and whether the capture or the execution stopped. -/
structure StepResult where
  pushes : List Push
  stopped : Bool := false
  paused : Bool := false

/-- A turn of the loop: whether the capture or the execution has stopped before, and the step, if
it is not refused by a pause. -/
structure Round where
  stopped : Bool := false
  paused : Bool := false
  step : Option StepResult

inductive StopReason where
  | eventObserved | stepLimit | executionPause | evidenceLoss
  deriving DecidableEq

structure RunReport where
  reason : StopReason
  count : ℕ
  event : Option Record := none

section

variable {C : Type} (machine : ObservedMachine C)

/-- The first and the last of the addresses below `n` that pass a test. -/
def addressRange (test : Addr → Bool) (n : ℕ) : Option (Addr × Addr) :=
  (List.range n).foldl
    (fun found i =>
      let a := BitVec.ofNat 16 i
      if test a then some ((found.map Prod.fst).getD a, a) else found) none

def rangeWatch (write : Bool) : Option (Addr × Addr) → Except String Watch
  | none => .error "unknown hardware category"
  | some (first, last) =>
    .ok { first := first, last := last, write := write
          categoryMask := machine.categoryBit (machine.location first) write }

def watchOf (e : HardwareEvent) : Except String Watch :=
  match e.target with
  | .address a =>
    if machine.categoryAt e.write a = none then .error "event address is not hardware"
    else .ok { first := a, last := a, write := e.write }
  | .category c => rangeWatch machine e.write (addressRange (machine.hasCategory e.write c) 0x10000)

def Watch.accepts (w : Watch) (r : Record) : Bool :=
  r.isCpuAccess && decide (r.isWrite = w.write) && decide (w.first ≤ r.address) &&
    decide (r.address ≤ w.last) &&
    (w.categoryMask == 0 || (w.categoryMask &&& machine.categoryBit r.location r.isWrite) != 0)

/-- The first record that the watch accepts is kept. -/
def observe (w : Watch) (matched : Option Record) (p : Push) : Option Record :=
  if matched.isNone ∧ w.accepts machine p.stored then some p.stored else matched

/-- Why a turn ends the run before its step. -/
def Round.interruption (r : Round) : Option StopReason :=
  if r.stopped then some .evidenceLoss else if r.paused then some .executionPause else none

/-- Why a step ends the run. -/
def StepResult.interruption (s : StepResult) : Option StopReason :=
  if s.stopped then some .evidenceLoss else if s.paused then some .executionPause else none

def watchLoop (w : Watch) (rounds : ℕ → Round) : ℕ → ℕ → RunReport
  | 0, count => ⟨((rounds count).interruption).getD .stepLimit, count, none⟩
  | n + 1, count =>
    match (rounds count).interruption with
    | some reason => ⟨reason, count, none⟩
    | none =>
      match (rounds count).step with
      | none => ⟨.executionPause, count, none⟩
      | some s =>
        match s.interruption with
        | some reason => ⟨reason, count + 1, none⟩
        | none =>
          match s.pushes.foldl (observe machine w) none with
          | some r => ⟨.eventObserved, count + 1, some r⟩
          | none => watchLoop w rounds n (count + 1)

def runUntil (e : HardwareEvent) (limit : ℕ) (rounds : ℕ → Round) : Except String RunReport :=
  (watchOf machine e).map fun w => watchLoop machine w rounds limit 0

/-! ## The runs that stop where they should -/

/-- The accesses that an event asks for. -/
def Wanted (e : HardwareEvent) (r : Record) : Prop :=
  r.isCpuAccess = true ∧ r.isWrite = e.write ∧
    match e.target with
    | .address a => r.address = a
    | .category c => machine.category r.location r.isWrite = some c

/-- At the start of the run the address of the event is hardware, or the address of the access
lies between two addresses of the category. -/
def CoveredBy (e : HardwareEvent) (r : Record) : Prop :=
  match e.target with
  | .address a => machine.categoryAt e.write a ≠ none
  | .category c => ∃ low high, low ≤ r.address ∧ r.address ≤ high ∧
      machine.categoryAt e.write low = some c ∧ machine.categoryAt e.write high = some c

end

def Round.accesses (r : Round) : List Record :=
  match r.step with
  | none => []
  | some s => s.pushes.map Push.stored

/-- Up to a turn nothing interrupts the run. -/
def Uninterrupted (rounds : ℕ → Round) (n : ℕ) : Prop :=
  ∀ i ≤ n, (rounds i).interruption = none ∧ ∃ s, (rounds i).step = some s ∧ s.interruption = none

section

variable {C : Type} (machine : ObservedMachine C) (e : HardwareEvent) (rounds : ℕ → Round)

/-- The first turn with an access that the event asks for. -/
def FirstWanted (n : ℕ) : Prop :=
  (∃ r ∈ (rounds n).accesses, Wanted machine e r) ∧
    ∀ i < n, ∀ r ∈ (rounds i).accesses, ¬ Wanted machine e r

/-- The run ends with the first turn that makes a wanted access, unless it is interrupted, and
reports such accesses only. -/
structure StopsAtFirst (limit : ℕ) (result : Except String RunReport) : Prop where
  stops : ∀ n < limit, Uninterrupted rounds n → FirstWanted machine e rounds n →
    ∃ r, result = .ok ⟨.eventObserved, n + 1, some r⟩
  only : ∀ report, result = .ok report → report.reason = .eventObserved →
    ∃ n r, report = ⟨.eventObserved, n + 1, some r⟩ ∧ FirstWanted machine e rounds n ∧
      r ∈ (rounds n).accesses ∧ Wanted machine e r

end

/-! ## The interval and the mask -/

theorem addressRange_succ (test : Addr → Bool) (n : ℕ) :
    addressRange test (n + 1) =
      if test (BitVec.ofNat 16 n) then
        some (((addressRange test n).map Prod.fst).getD (BitVec.ofNat 16 n), BitVec.ofNat 16 n)
      else addressRange test n := by
  unfold addressRange
  rw [List.range_succ, List.foldl_append]
  rfl

structure IsRange (test : Addr → Bool) (n : ℕ) (found : Option (Addr × Addr)) : Prop where
  covers : ∀ a : Addr, a.toNat < n → test a = true →
    ∃ range, found = some range ∧ range.1 ≤ a ∧ a ≤ range.2
  first : ∀ range, found = some range → test range.1 = true ∧ range.1.toNat < n
  last : ∀ range, found = some range → test range.2 = true

theorem isRange_addressRange (test : Addr → Bool) (n : ℕ) (hn : n ≤ 0x10000) :
    IsRange test n (addressRange test n) := by
  induction n with
  | zero => exact ⟨fun a ha => absurd ha (Nat.not_lt_zero _), nofun, nofun⟩
  | succ n ih =>
    have ih := ih (Nat.le_of_succ_le hn)
    have hnat : (BitVec.ofNat 16 n).toNat = n := by
      exact Nat.mod_eq_of_lt hn
    have hsplit (a : Addr) (ha : a.toNat < n + 1) : a.toNat < n ∨ a = BitVec.ofNat 16 n := by
      rcases Nat.lt_succ_iff_lt_or_eq.mp ha with hlt | heq
      · exact .inl hlt
      · exact .inr (BitVec.eq_of_toNat_eq (heq.trans hnat.symm))
    rw [addressRange_succ]
    by_cases htest : test (BitVec.ofNat 16 n) = true
    · rw [if_pos htest]
      have hfirst : test (((addressRange test n).map Prod.fst).getD (BitVec.ofNat 16 n)) = true ∧
          (((addressRange test n).map Prod.fst).getD (BitVec.ofNat 16 n)).toNat ≤ n := by
        cases hfound : addressRange test n with
        | none => exact ⟨htest, hnat.le⟩
        | some range =>
          have hrange := ih.first range hfound
          exact ⟨hrange.1, hrange.2.le⟩
      refine ⟨?_, ?_, ?_⟩
      · intro a ha hpass
        refine ⟨_, rfl, ?_⟩
        rcases hsplit a ha with hlt | rfl
        · obtain ⟨range, hfound, hlow, -⟩ := ih.covers a hlt hpass
          rw [hfound]
          refine ⟨hlow, ?_⟩
          rw [BitVec.le_def, hnat]
          exact hlt.le
        · rw [BitVec.le_def, hnat]
          exact ⟨hfirst.2, BitVec.le_refl _⟩
      · intro range hrange
        obtain rfl := Option.some.inj hrange
        exact ⟨hfirst.1, Nat.lt_succ_of_le hfirst.2⟩
      · intro range hrange
        obtain rfl := Option.some.inj hrange
        exact htest
    · rw [if_neg htest]
      refine ⟨?_, ?_, ih.last⟩
      · intro a ha hpass
        rcases hsplit a ha with hlt | rfl
        · exact ih.covers a hlt hpass
        · exact absurd hpass htest
      · intro range hrange
        exact ⟨(ih.first range hrange).1, (ih.first range hrange).2.trans n.lt_succ_self⟩

def descriptorBit (bit : HardwareCategory → BitVec 32) (c : Option HardwareCategory) : BitVec 32 :=
  (c.map bit).getD 0

variable {c : HardwareCategory}

theorem descriptorBit_ite {bit : HardwareCategory → BitVec 32} {p q : Prop} [Decidable p]
    [Decidable q] {n rest : BitVec 32} {others : Option HardwareCategory}
    (hiff : p ↔ q) (hbit : n = bit c) (hrest : ¬ q → rest = descriptorBit bit others) :
    (if p then n else rest) = descriptorBit bit (if q then some c else others) := by
  by_cases h : q
  · rw [if_pos (hiff.mpr h), if_pos h, hbit]
    rfl
  · rw [if_neg (hiff.not.mpr h), if_neg h, hrest h]

variable (l : Location)

theorem gameboyCategoryBit_eq (write : Bool) : gameboyCategoryBit l write =
    descriptorBit HardwareCategory.gameboyBit (gameboyCategory l write) := by
  unfold gameboyCategoryBit gameboyCategory
  refine descriptorBit_ite .rfl rfl fun _ => ?_
  by_cases hvideo : space l = 4
  · have hother : space l ≠ 5 ∧ space l ≠ 6 := by
      rw [hvideo]
      decide
    rw [if_pos hvideo, if_pos hother]
    refine descriptorBit_ite (and_iff_right hvideo) rfl fun _ => ?_
    refine descriptorBit_ite (and_iff_right hvideo) rfl fun _ => ?_
    exact descriptorBit_ite (and_iff_right hvideo) rfl fun _ => rfl
  · rw [if_neg hvideo, if_neg fun h => hvideo h.1, if_neg fun h => hvideo h.1,
      if_neg fun h => hvideo h.1]
    by_cases hio : space l = 5 ∨ space l = 6
    · rw [if_pos hio, if_neg fun h => hio.elim h.1 h.2]
      iterate 9 refine descriptorBit_ite .rfl rfl fun _ => ?_
      rfl
    · rw [if_neg hio, if_pos (not_or.mp hio)]
      rfl

variable {a : Addr}

theorem lt_of_and_eq (h : a &&& 0xC0#16 = 0x40#16) : 0x3F#16 < a := by
  have hand := congrArg BitVec.toNat h
  exact hand.ge.trans Nat.and_le_left

theorem gamegearCategoryBit_eq (write : Bool) : gamegearCategoryBit l write =
    descriptorBit HardwareCategory.gamegearBit (gamegearCategory l write) := by
  unfold gamegearCategoryBit gamegearCategory
  dsimp only
  refine descriptorBit_ite .rfl rfl fun _ => ?_
  by_cases hport : space l = 7
  · rw [if_pos hport]
    generalize offset l = a
    have hhigh (bound : Addr) (hbound : bound ≤ 0x3F#16) (ha : a ≤ bound) :
        ¬ a &&& 0xC0#16 = 0x40#16 := by
      intro h
      have hlt := lt_of_and_eq h
      bv_omega
    by_cases hlow : a ≤ 5#16
    · have hnot : ¬ (a = 6#16 ∨ (a &&& 0xC0#16 = 0x40#16 ∧ write = true)) := by
        rintro (rfl | h)
        · exact absurd hlow (by decide)
        · exact hhigh 5 (by decide) hlow h.1
      rw [if_neg fun h => hnot h.2, if_pos ⟨hport, hlow⟩, if_pos hlow]
      split <;> rfl
    rw [if_neg hlow]
    by_cases hstereo : a = 6#16
    · rw [if_pos ⟨hport, .inl hstereo⟩, if_pos hstereo]
      rfl
    rw [if_neg hstereo]
    by_cases hcontrol : 7#16 ≤ a ∧ a ≤ 0x3F#16
    · have hnot : ¬ (a = 6#16 ∨ (a &&& 0xC0#16 = 0x40#16 ∧ write = true)) := by
        rintro (h | h)
        · exact hstereo h
        · exact hhigh 0x3F (by decide) hcontrol.2 h.1
      rw [if_neg fun h => hnot h.2, if_neg fun h => hlow h.2, if_pos ⟨hport, hcontrol⟩,
        if_pos hcontrol]
      split <;> rfl
    rw [if_neg hcontrol]
    by_cases hdisplay : a &&& 0xC0#16 = 0x80#16
    · have hnot : ¬ (a = 6#16 ∨ (a &&& 0xC0#16 = 0x40#16 ∧ write = true)) := by
        rintro (h | h)
        · exact hstereo h
        · exact absurd (hdisplay.symm.trans h.1) (by decide)
      rw [if_neg fun h => hnot h.2, if_neg fun h => hlow h.2, if_neg fun h => hcontrol h.2,
        if_pos ⟨hport, hdisplay⟩, if_pos hdisplay]
      rfl
    rw [if_neg hdisplay]
    by_cases hsound : a &&& 0xC0#16 = 0x40#16
    · rw [if_pos hsound]
      cases write with
      | true =>
        rw [if_pos ⟨hport, .inr ⟨hsound, rfl⟩⟩]
        rfl
      | false =>
        have hnot : ¬ (a = 6#16 ∨ (a &&& 0xC0#16 = 0x40#16 ∧ false = true)) := by
          rintro (h | h)
          · exact hstereo h
          · cases h.2
        rw [if_neg fun h => hnot h.2, if_neg fun h => hlow h.2, if_neg fun h => hcontrol h.2,
          if_neg fun h => hdisplay h.2, if_pos ⟨hport, hsound⟩]
        rfl
    rw [if_neg hsound, if_neg fun h => h.2.elim hstereo fun h => hsound h.1,
      if_neg fun h => hlow h.2, if_neg fun h => hcontrol h.2, if_neg fun h => hdisplay h.2,
      if_neg fun h => hsound h.2]
    refine descriptorBit_ite (and_iff_right hport) rfl fun _ => ?_
    rw [hport]
    rfl
  · have hskip {p : Prop} : ¬ (space l = 7 ∧ p) := fun h => hport h.1
    rw [if_neg hport, if_neg hskip, if_neg hskip, if_neg hskip, if_neg hskip, if_neg hskip,
      if_neg hskip]
    by_cases hvdp : 8 ≤ space l ∧ space l ≤ 11
    · have hcases : space l = 8 ∨ space l = 9 ∨ space l = 10 ∨ space l = 11 := by
        obtain ⟨hlow, hhigh⟩ := hvdp
        bv_omega
      rw [if_pos hvdp]
      rcases hcases with h | h | h | h
      · rw [h]; rfl
      · rw [h]; rfl
      · rw [h]; rfl
      · rw [h]; rfl
    · have hnot (n : Location) (hn : 8 ≤ n ∧ n ≤ 11) : space l ≠ n := by
        rintro rfl
        exact hvdp hn
      rw [if_neg hvdp, if_neg (hnot 8 (by decide)), if_neg (hnot 9 (by decide)),
        if_neg (hnot 10 (by decide)), if_neg (hnot 11 (by decide))]
      iterate 3 refine descriptorBit_ite .rfl rfl fun _ => ?_
      rfl

/-! ## The accesses of the Game Gear -/

/-- The spaces behind the bus, with the addresses of the windows of the VDP and of the sound
generator. -/
def BusSpace (a : Addr) (l : Location) : Prop :=
  (space l < 4 ∨ space l = 6) ∨ (space l = 4 ∧ 0x8000#16 ≤ a) ∨
    (space l = 5 ∧ 0xFF10#16 ≤ a ∧ a ≤ 0xFF3F#16)

theorem busSpace_location {s bank o : Addr} (h : s < 4 ∨ s = 6) :
    BusSpace a (location s bank o) := by
  left
  rw [space_location]
  rcases h with h | rfl
  · left
    have hs : s.toNat < 4 := BitVec.lt_def.mp h
    rw [BitVec.lt_def, BitVec.toNat_setWidth]
    exact lt_of_le_of_lt (Nat.mod_le s.toNat (2 ^ 64)) hs
  · right
    rfl

variable {r : Record}

section

variable {C : Type} (d : GameGearDevices C)

theorem busSpace_busLocation (a : Addr) (write : Bool) : BusSpace a (d.busLocation a write) := by
  have hgap : BusSpace a (if (!write && d.cart.loaded) = true then
      location 0 (BitVec.ofNat 16 d.mem.codeMappingGeneration) a else location 0 0 a) := by
    split <;> exact busSpace_location (.inl (by decide))
  have hrom : BusSpace a (((d.cart.romBankForAddress a).map fun bank =>
      location 1 (BitVec.ofNat 16 bank) (a &&& 0x3FFF#16)).getD
        (if (!write && d.cart.loaded) = true then
          location 0 (BitVec.ofNat 16 d.mem.codeMappingGeneration) a else location 0 0 a)) := by
    cases d.cart.romBankForAddress a with
    | none => exact hgap
    | some bank => exact busSpace_location (.inl (by decide))
  unfold GameGearDevices.busLocation
  dsimp only
  split
  · exact hrom
  split
  · rename_i h
    refine .inr (.inl ⟨by rw [space_location]; rfl, ?_⟩)
    rcases h with h | h | h
    · exact h.1
    · bv_omega
    · bv_omega
  split
  · rename_i h
    refine .inr (.inr ⟨by rw [space_location]; rfl, ?_⟩)
    bv_omega
  split
  · exact busSpace_location (.inl (by decide))
  · exact hrom

theorem busSpace_analysisLocation (a : Addr) (write : Bool) :
    BusSpace a (d.analysisLocation a write) := by
  unfold GameGearDevices.analysisLocation
  split
  · exact busSpace_location (.inl (by decide))
  split
  · exact busSpace_location (.inl (by decide))
  split
  · exact busSpace_location (.inr rfl)
  split
  · split
    · exact busSpace_location (.inl (by decide))
    · exact busSpace_busLocation d a write
  · exact busSpace_busLocation d a write

theorem pushes_gamegear {d : GameGearDevices C} (h : ObservedMachine.Pushes (.gamegear d) r) :
    BusSpace r.address r.location ∨
      (space r.location = 7 ∧ offset r.location = (lo r.address).setWidth 16) ∨
      r.address < 0x4000#16 := by
  cases h with
  | gamegearRead d d' a value => exact .inl (busSpace_analysisLocation d' a false)
  | gamegearWrite d d' a value => exact .inl (busSpace_analysisLocation d' a true)
  | gamegearMirror d a value h => exact .inl (busSpace_location (.inl (by decide)))
  | gamegearPort d port value write =>
    exact .inr (.inl ⟨by rw [portRecord, space_location]; rfl, by rw [portRecord, offset_location]⟩)
  | gamegearVdp d phase space offset value write hspace h => exact .inr (.inr h)

end

variable {write : Bool}

theorem gamegearCategory_space {l : Location} (h : gamegearCategory l write = some c) :
    (c = .vram ∨ c = .palette ∨ c = .state → 8 ≤ space l) ∧
      (c = .audioStereo → space l = 7 ∧ offset l = 6#16) := by
  unfold gamegearCategory at h
  dsimp only at h
  split_ifs at h
  all_goals
    obtain rfl := Option.some.inj h
    refine ⟨fun hc => ?_, fun hc => ?_⟩
    · first
      | exact absurd hc (by decide)
      | (rw [‹space l = 8›]; decide)
      | (rw [‹space l = 9›]; decide)
      | (rw [‹space l = 11›]; decide)
    · first
      | exact absurd hc (by decide)
      | exact ⟨‹space l = 7›, ‹offset l = 6#16›⟩

/-- The categories of the Game Gear that an address of the bus can have. -/
theorem gamegearCategory_bus {l : Location} (hbus : BusSpace a l)
    (h : gamegearCategory l write = some c) :
    c = .cartridgeMapping ∨ c = .input ∨ (c = .display ∧ 0x8000#16 ≤ a) ∨
      (c = .audioChannel ∧ 0xFF10#16 ≤ a ∧ a ≤ 0xFF3F#16) := by
  unfold gamegearCategory at h
  rcases hbus with (hlow | hinput) | ⟨hvideo, ha⟩ | ⟨hsound, ha⟩
  · by_cases hmapping : space l = 1 ∧ write = true
    · rw [if_pos hmapping] at h
      exact .inl (Option.some.inj h).symm
    · have hnot (n : Location) (hn : 4 ≤ n) : space l ≠ n := by
        rintro rfl
        exact absurd hlow (BitVec.not_lt.mpr hn)
      rw [if_neg hmapping, if_neg (hnot 7 (by decide)), if_neg (hnot 8 (by decide)),
        if_neg (hnot 9 (by decide)), if_neg (hnot 10 (by decide)), if_neg (hnot 11 (by decide)),
        if_neg (hnot 4 (by decide)), if_neg (hnot 5 (by decide)), if_neg (hnot 6 (by decide))] at h
      cases h
  · rw [hinput] at h
    exact .inr (.inl (Option.some.inj h).symm)
  · rw [hvideo] at h
    exact .inr (.inr (.inl ⟨(Option.some.inj h).symm, ha⟩))
  · rw [hsound] at h
    exact .inr (.inr (.inr ⟨(Option.some.inj h).symm, ha⟩))

theorem lo_ne_of_window (h : 0xFF10#16 ≤ a ∧ a ≤ 0xFF3F#16) : (lo a).setWidth 16 ≠ 6#16 := by
  intro heq
  have hnat := congrArg BitVec.toNat heq
  obtain ⟨hlow, hhigh⟩ := h
  rw [BitVec.le_def] at hlow hhigh
  simp only [lo, BitVec.toNat_setWidth, BitVec.toNat_ofNat] at hnat hlow hhigh
  omega

variable {other : HardwareCategory}

/-- An address between two of a category has that category if its bit is that of it. -/
theorem category_of_gamegearBit {C : Type} {d : GameGearDevices C}
    (h : ObservedMachine.Pushes (.gamegear d) r) {first last : Addr}
    (hfirst : ObservedMachine.categoryAt (.gamegear d) write first = some c)
    (hlast : ObservedMachine.categoryAt (.gamegear d) write last = some c)
    (hlow : first ≤ r.address) (hhigh : r.address ≤ last)
    (hother : gamegearCategory r.location write = some other)
    (hbit : c.gamegearBit = other.gamegearBit) : other = c := by
  obtain ⟨hvdp, hstereo⟩ := gamegearCategory_space hother
  have hforms := pushes_gamegear h
  have hbus (a : Addr) := busSpace_analysisLocation d a false
  rcases gamegearCategory_bus (hbus first) hfirst with rfl | rfl | ⟨rfl, hwindow⟩ | ⟨rfl, hwindow⟩
  · cases other <;> first | rfl | exact absurd hbit (by decide)
  · cases other <;> first | rfl | exact absurd hbit (by decide)
  · by_contra hne
    have hdeep : 8 ≤ space r.location := by
      apply hvdp
      cases other <;> first | exact absurd hbit (by decide) | exact absurd rfl hne | decide
    rcases hforms with ((hspace | hspace) | ⟨hspace, -⟩ | ⟨hspace, -⟩) | ⟨hspace, -⟩ | hspace
    · bv_omega
    · bv_omega
    · bv_omega
    · bv_omega
    · bv_omega
    · bv_omega
  · by_contra hne
    have hport : other = .audioStereo := by
      cases other <;> first | exact absurd hbit (by decide) | exact absurd rfl hne | rfl
    obtain ⟨hspace, hoffset⟩ := hstereo hport
    have hinside : 0xFF10#16 ≤ r.address ∧ r.address ≤ 0xFF3F#16 := by
      rcases gamegearCategory_bus (hbus last) hlast with h | h | ⟨h, -⟩ | ⟨-, hlastWindow⟩
      · cases h
      · cases h
      · cases h
      · bv_omega
    rcases hforms with ((hbelow | hbelow) | ⟨hbelow, -⟩ | ⟨hbelow, -⟩) | ⟨-, hlo⟩ | hbelow
    · bv_omega
    · bv_omega
    · bv_omega
    · bv_omega
    · exact lo_ne_of_window hinside (hlo.symm.trans hoffset)
    · bv_omega

/-! ## What the watch accepts -/

theorem forall_mem_ite {P : HardwareCategory → Prop} {p : Prop} [Decidable p]
    {c others : Option HardwareCategory} (hc : ∀ x ∈ c, P x) (hothers : ∀ x ∈ others, P x) :
    ∀ x ∈ (if p then c else others), P x := by
  split
  · exact hc
  · exact hothers

theorem gameboyBit_ne_zero (write : Bool) :
    ∀ c ∈ gameboyCategory l write, c.gameboyBit ≠ 0 := by
  unfold gameboyCategory
  repeat' refine forall_mem_ite ?_ ?_
  all_goals exact nofun

theorem gameboyBit_injective (h : c.gameboyBit &&& other.gameboyBit ≠ 0) : other = c := by
  cases c <;> cases other <;> first | rfl | exact absurd (by decide) h

theorem gamegearBit_eq
    (h : c.gamegearBit &&& other.gamegearBit ≠ 0) : c.gamegearBit = other.gamegearBit := by
  cases c <;> cases other <;> first | rfl | exact absurd (by decide) h

section

variable {C : Type} {machine : ObservedMachine C}

theorem categoryBit_eq (write : Bool) :
    machine.categoryBit l write = descriptorBit machine.bit (machine.category l write) := by
  cases machine with
  | gameboy m => exact gameboyCategoryBit_eq l write
  | gamegear d => exact gamegearCategoryBit_eq l write

theorem bit_ne_zero (h : machine.categoryAt write a = some c) : machine.bit c ≠ 0 := by
  cases machine with
  | gameboy m => exact gameboyBit_ne_zero _ write c h
  | gamegear d =>
    rcases gamegearCategory_bus (busSpace_analysisLocation d a false) h with
      rfl | rfl | ⟨rfl, -⟩ | ⟨rfl, -⟩
    · exact (by decide : HardwareCategory.gamegearBit .cartridgeMapping ≠ 0)
    · exact (by decide : HardwareCategory.gamegearBit .input ≠ 0)
    · exact (by decide : HardwareCategory.gamegearBit .display ≠ 0)
    · exact (by decide : HardwareCategory.gamegearBit .audioChannel ≠ 0)

/-- Between two addresses of a category the mask tells that category from the others. -/
theorem mask_iff (h : machine.Pushes r) {first last : Addr}
    (hfirst : machine.categoryAt write first = some c)
    (hlast : machine.categoryAt write last = some c) (hlow : first ≤ r.address)
    (hhigh : r.address ≤ last) :
    machine.bit c &&& machine.categoryBit r.location write ≠ 0 ↔
      machine.category r.location write = some c := by
  rw [categoryBit_eq]
  constructor
  · intro hmask
    cases hother : machine.category r.location write with
    | none =>
      rw [hother] at hmask
      exact absurd (BitVec.and_zero) hmask
    | some other =>
      rw [hother] at hmask
      congr 1
      cases machine with
      | gameboy m => exact gameboyBit_injective hmask
      | gamegear d =>
        exact category_of_gamegearBit h hfirst hlast hlow hhigh hother (gamegearBit_eq hmask)
  · intro hcategory
    rw [hcategory]
    show machine.bit c &&& machine.bit c ≠ 0
    rw [BitVec.and_self]
    exact bit_ne_zero hfirst

theorem watchOf_category (write : Bool) (c : HardwareCategory) :
    watchOf machine ⟨write, .category c⟩ =
      rangeWatch machine write (addressRange (machine.hasCategory write c) 0x10000) := rfl

theorem watchOf_of_covered {e : HardwareEvent} (h : CoveredBy machine e r) :
    ∃ w, watchOf machine e = .ok w := by
  obtain ⟨write, target⟩ := e
  cases target with
  | address a => exact ⟨_, if_neg h⟩
  | category c =>
    obtain ⟨low, -, -, -, hlow, -⟩ := h
    have hrange := isRange_addressRange (machine.hasCategory write c) 0x10000 le_rfl
    obtain ⟨range, hfound, -⟩ := hrange.covers low low.isLt (decide_eq_true hlow)
    rw [watchOf_category, hfound]
    exact ⟨_, rfl⟩

/-- The watch accepts the wanted accesses in the range of the event, and no others. -/
theorem accepts_iff {e : HardwareEvent} {w : Watch} (hw : watchOf machine e = .ok w) {p : Push}
    (hp : machine.Pushes p.record) : w.accepts machine p.stored = true ↔
      Wanted machine e p.stored ∧ CoveredBy machine e p.stored := by
  obtain ⟨write, target⟩ := e
  cases target with
  | address a =>
    unfold watchOf at hw
    dsimp only at hw
    split at hw
    · cases hw
    · rename_i hhardware
      obtain rfl := Except.ok.inj hw
      have hequal : a ≤ p.stored.address ∧ p.stored.address ≤ a ↔ p.stored.address = a := by
        bv_omega
      simp only [Watch.accepts, Wanted, CoveredBy, Bool.and_eq_true, decide_eq_true_eq,
        Bool.or_eq_true, beq_self_eq_true, true_or, and_true, and_assoc, hequal, hhardware,
        ne_eq, not_false_eq_true]
  | category c =>
    have hrange := isRange_addressRange (machine.hasCategory write c) 0x10000 le_rfl
    rw [watchOf_category] at hw
    generalize addressRange (machine.hasCategory write c) 0x10000 = found at hw hrange
    cases found with
    | none => cases hw
    | some range =>
      obtain rfl := Except.ok.inj hw
      have hfirst := of_decide_eq_true (hrange.first range rfl).1
      have hlast := of_decide_eq_true (hrange.last range rfl)
      have hrangeOf (a : Addr) (ha : machine.categoryAt write a = some c) :
          range.1 ≤ a ∧ a ≤ range.2 := by
        have hlt : a.toNat < 0x10000 := a.isLt
        obtain ⟨found, hsame, hbounds⟩ := hrange.covers a hlt (decide_eq_true ha)
        rwa [← Option.some.inj hsame] at hbounds
      have hcovered : CoveredBy machine ⟨write, .category c⟩ p.stored ↔
          range.1 ≤ p.stored.address ∧ p.stored.address ≤ range.2 := by
        constructor
        · rintro ⟨low, high, hlow, hhigh, hlowCategory, hhighCategory⟩
          exact ⟨BitVec.le_trans (hrangeOf low hlowCategory).1 hlow,
            BitVec.le_trans hhigh (hrangeOf high hhighCategory).2⟩
        · rintro ⟨hlow, hhigh⟩
          exact ⟨range.1, range.2, hlow, hhigh, hfirst, hlast⟩
      rw [hcovered]
      have hbit : machine.categoryBit (machine.location range.1) write = machine.bit c := by
        rw [categoryBit_eq]
        show descriptorBit machine.bit (machine.categoryAt write range.1) = machine.bit c
        rw [hfirst]
        rfl
      simp only [Watch.accepts, Wanted, Bool.and_eq_true, decide_eq_true_eq, Bool.or_eq_true,
        beq_iff_eq, bne_iff_ne, ne_eq, hbit, bit_ne_zero hfirst, false_or]
      constructor
      · rintro ⟨⟨⟨⟨haccess, hwrite⟩, hlow⟩, hhigh⟩, hmask⟩
        rw [hwrite] at hmask ⊢
        exact ⟨⟨haccess, rfl, (mask_iff hp hfirst hlast hlow hhigh).mp hmask⟩, hlow, hhigh⟩
      · rintro ⟨⟨haccess, hwrite, hcategory⟩, hlow, hhigh⟩
        rw [hwrite] at hcategory ⊢
        exact ⟨⟨⟨⟨haccess, rfl⟩, hlow⟩, hhigh⟩, (mask_iff hp hfirst hlast hlow hhigh).mpr hcategory⟩

end

/-! ## The loop -/

section

variable {C : Type} (machine : ObservedMachine C) (w : Watch)

theorem foldl_observe (pushes : List Push) :
    pushes.foldl (observe machine w) none =
      (pushes.map Push.stored).find? (w.accepts machine) := by
  have hkept (pushes : List Push) (r : Record) :
      pushes.foldl (observe machine w) (some r) = some r := by
    induction pushes with
    | nil => rfl
    | cons p pushes ih => exact ih
  induction pushes with
  | nil => rfl
  | cons p pushes ih =>
    rw [List.foldl_cons, List.map_cons, List.find?_cons]
    cases haccepts : w.accepts machine p.stored with
    | true =>
      have hfirst : observe machine w none p = some p.stored := if_pos ⟨rfl, haccepts⟩
      rw [hfirst, hkept]
    | false =>
      have hnone : observe machine w none p = none :=
        if_neg fun h => Bool.false_ne_true (haccepts.symm.trans h.2)
      rw [hnone, ih]

/-- The first access of a turn that the watch accepts. -/
def firstAccepted (round : Round) : Option Record := round.accesses.find? (w.accepts machine)

/-- From a turn on the run ends with turn `n`: nothing interrupts it, and the watch accepts an
access of that turn first. -/
structure EndsWith (rounds : ℕ → Round) (count n : ℕ) (r : Record) : Prop where
  reached : count ≤ n
  running : ∀ i, count ≤ i → i ≤ n →
    (rounds i).interruption = none ∧ ∃ s, (rounds i).step = some s ∧ s.interruption = none
  accepted : firstAccepted machine w (rounds n) = some r
  earlier : ∀ i, count ≤ i → i < n → firstAccepted machine w (rounds i) = none

variable {machine w} {rounds : ℕ → Round}

theorem EndsWith.succ {count n : ℕ} (hrunning : (rounds count).interruption = none ∧
      ∃ s, (rounds count).step = some s ∧ s.interruption = none)
    (hnone : firstAccepted machine w (rounds count) = none)
    (h : EndsWith machine w rounds (count + 1) n r) : EndsWith machine w rounds count n r where
  reached := Nat.le_of_succ_le h.reached
  running i hi hn := by
    rcases Nat.eq_or_lt_of_le hi with rfl | hlt
    · exact hrunning
    · exact h.running i hlt hn
  accepted := h.accepted
  earlier i hi hn := by
    rcases Nat.eq_or_lt_of_le hi with rfl | hlt
    · exact hnone
    · exact h.earlier i hlt hn

theorem watchLoop_succ {count : ℕ} {s : StepResult} (n : ℕ)
    (hround : (rounds count).interruption = none) (hstep : (rounds count).step = some s)
    (hs : s.interruption = none) : watchLoop machine w rounds (n + 1) count =
      match firstAccepted machine w (rounds count) with
      | some r => ⟨.eventObserved, count + 1, some r⟩
      | none => watchLoop machine w rounds n (count + 1) := by
  have haccesses : (rounds count).accesses = s.pushes.map Push.stored := by
    rw [Round.accesses, hstep]
  rw [watchLoop, hround, hstep]
  dsimp only
  rw [hs]
  rw [foldl_observe, firstAccepted, haccesses]

theorem watchLoop_of_endsWith {n : ℕ} (remaining count : ℕ)
    (hn : n < count + remaining) (h : EndsWith machine w rounds count n r) :
    watchLoop machine w rounds remaining count = ⟨.eventObserved, n + 1, some r⟩ := by
  induction remaining generalizing count with
  | zero => exact absurd h.reached (Nat.not_le_of_lt hn)
  | succ remaining ih =>
    obtain ⟨hround, s, hstep, hs⟩ := h.running count le_rfl h.reached
    rw [watchLoop_succ remaining hround hstep hs]
    rcases Nat.eq_or_lt_of_le h.reached with rfl | hlt
    · rw [h.accepted]
    · rw [h.earlier count le_rfl hlt]
      refine ih (count + 1) (by omega) ⟨hlt, ?_, h.accepted, ?_⟩
      · exact fun i hi => h.running i (Nat.le_of_succ_le hi)
      · exact fun i hi => h.earlier i (Nat.le_of_succ_le hi)

theorem endsWith_of_watchLoop (remaining count : ℕ)
    (h : (watchLoop machine w rounds remaining count).reason = .eventObserved) :
    ∃ n r, watchLoop machine w rounds remaining count = ⟨.eventObserved, n + 1, some r⟩ ∧
      n < count + remaining ∧ EndsWith machine w rounds count n r := by
  have hreason (round : Round) : round.interruption ≠ some .eventObserved := by
    unfold Round.interruption
    split
    · exact nofun
    · split <;> exact nofun
  have hreason' (s : StepResult) : s.interruption ≠ some .eventObserved := by
    unfold StepResult.interruption
    split
    · exact nofun
    · split <;> exact nofun
  induction remaining generalizing count with
  | zero =>
    rw [watchLoop] at h
    cases hround : (rounds count).interruption with
    | none =>
      rw [hround] at h
      cases h
    | some reason =>
      rw [hround] at h
      obtain rfl : reason = .eventObserved := h
      exact absurd hround (hreason _)
  | succ remaining ih =>
    cases hround : (rounds count).interruption with
    | some reason =>
      rw [watchLoop, hround] at h
      obtain rfl : reason = .eventObserved := h
      exact absurd hround (hreason _)
    | none =>
      cases hstep : (rounds count).step with
      | none =>
        rw [watchLoop, hround, hstep] at h
        cases h
      | some s =>
        cases hs : s.interruption with
        | some reason =>
          rw [watchLoop, hround, hstep] at h
          dsimp only at h
          rw [hs] at h
          obtain rfl : reason = .eventObserved := h
          exact absurd hs (hreason' s)
        | none =>
          rw [watchLoop_succ remaining hround hstep hs] at h ⊢
          cases hfirst : firstAccepted machine w (rounds count) with
          | some r =>
            refine ⟨count, r, rfl, by omega, le_rfl, ?_, hfirst, ?_⟩
            · intro i hi hn
              obtain rfl := Nat.le_antisymm hn hi
              exact ⟨hround, s, hstep, hs⟩
            · exact fun i hi hn => absurd hn (Nat.not_lt_of_le hi)
          | none =>
            rw [hfirst] at h
            obtain ⟨n, r, hresult, hn, hends⟩ := ih (count + 1) h
            exact ⟨n, r, hresult, by omega, hends.succ ⟨hround, s, hstep, hs⟩ hfirst⟩

end

section

variable {C : Type} {machine : ObservedMachine C} {e : HardwareEvent} {rounds : ℕ → Round}

/-- The turns push what a core of this kind pushes. -/
def PushedBy (machine : ObservedMachine C) (rounds : ℕ → Round) : Prop :=
  ∀ n s, (rounds n).step = some s → ∀ p ∈ s.pushes, machine.Pushes p.record ∨
    p.stored.isCpuAccess = false

/-- The first turn with a wanted access has one in the range of the event. -/
def FirstCovered (machine : ObservedMachine C) (e : HardwareEvent) (rounds : ℕ → Round)
    (limit : ℕ) : Prop :=
  ∀ n < limit, Uninterrupted rounds n → FirstWanted machine e rounds n →
    ∃ r ∈ (rounds n).accesses, Wanted machine e r ∧ CoveredBy machine e r

variable {n : ℕ} {r : Record}

theorem accepts_access_iff (h : PushedBy machine rounds) {w : Watch}
    (hw : watchOf machine e = .ok w) (hr : r ∈ (rounds n).accesses) :
    w.accepts machine r = true ↔ Wanted machine e r ∧ CoveredBy machine e r := by
  unfold Round.accesses at hr
  split at hr
  · cases hr
  · rename_i s hstep
    obtain ⟨p, hp, rfl⟩ := List.mem_map.mp hr
    rcases h n s hstep p hp with hpushes | hnone
    · exact accepts_iff hw hpushes
    · constructor
      · intro haccepts
        simp only [Watch.accepts, hnone, Bool.false_and] at haccepts
        cases haccepts
      · rintro ⟨⟨haccess, -⟩, -⟩
        exact absurd (hnone.symm.trans haccess) Bool.false_ne_true

theorem exists_firstWanted (hr : r ∈ (rounds n).accesses)
    (hwanted : Wanted machine e r) : ∃ m ≤ n, FirstWanted machine e rounds m := by
  classical
  have hex : ∃ m, ∃ r ∈ (rounds m).accesses, Wanted machine e r := ⟨n, r, hr, hwanted⟩
  refine ⟨Nat.find hex, Nat.find_min' hex ⟨r, hr, hwanted⟩, Nat.find_spec hex, ?_⟩
  intro i hi r hr hwanted
  exact Nat.find_min hex hi ⟨r, hr, hwanted⟩

theorem firstAccepted_of_mem {w : Watch} (hr : r ∈ (rounds n).accesses)
    (haccepts : w.accepts machine r = true) :
    ∃ first, firstAccepted machine w (rounds n) = some first := by
  cases hfirst : firstAccepted machine w (rounds n) with
  | some first => exact ⟨first, rfl⟩
  | none => exact absurd haccepts (List.find?_eq_none.mp hfirst r hr)

theorem firstCovered_of_stopsAtFirst (h : PushedBy machine rounds) {limit : ℕ}
    (hstops : StopsAtFirst machine e rounds limit (runUntil machine e limit rounds)) :
    FirstCovered machine e rounds limit := by
  intro n hn hrunning hfirst
  obtain ⟨event, hresult⟩ := hstops.stops n hn hrunning hfirst
  unfold runUntil at hresult
  cases hw : watchOf machine e with
  | error message =>
    rw [hw] at hresult
    cases hresult
  | ok w =>
    rw [hw] at hresult
    have hloop : watchLoop machine w rounds limit 0 = ⟨.eventObserved, n + 1, some event⟩ :=
      Except.ok.inj hresult
    obtain ⟨m, r, hsame, -, hends⟩ := endsWith_of_watchLoop limit 0 (by rw [hloop])
    rw [hloop] at hsame
    obtain rfl : n = m := Nat.succ.inj (congrArg RunReport.count hsame)
    have hmem := List.mem_of_find?_eq_some hends.accepted
    exact ⟨r, hmem, (accepts_access_iff h hw hmem).mp (List.find?_some hends.accepted)⟩

theorem stopsAtFirst_of_firstCovered (h : PushedBy machine rounds) {limit : ℕ}
    (hcovered : FirstCovered machine e rounds limit) :
    StopsAtFirst machine e rounds limit (runUntil machine e limit rounds) where
  stops n hn hrunning hfirst := by
    obtain ⟨r, hr, hwanted, hcovers⟩ := hcovered n hn hrunning hfirst
    obtain ⟨w, hw⟩ := watchOf_of_covered hcovers
    obtain ⟨first, haccepted⟩ :=
      firstAccepted_of_mem hr ((accepts_access_iff h hw hr).mpr ⟨hwanted, hcovers⟩)
    have hends : EndsWith machine w rounds 0 n first := by
      refine ⟨n.zero_le, fun i _ hi => hrunning i hi, haccepted, fun i _ hi => ?_⟩
      refine List.find?_eq_none.mpr fun other hother haccepts => ?_
      exact hfirst.2 i hi other hother ((accepts_access_iff h hw hother).mp haccepts).1
    refine ⟨first, ?_⟩
    rw [runUntil, hw, ← watchLoop_of_endsWith limit 0 (by omega) hends]
    rfl
  only report hresult hreason := by
    unfold runUntil at hresult
    cases hw : watchOf machine e with
    | error message =>
      rw [hw] at hresult
      cases hresult
    | ok w =>
      rw [hw] at hresult
      obtain rfl : watchLoop machine w rounds limit 0 = report := Except.ok.inj hresult
      obtain ⟨n, r, hreport, hn, hends⟩ := endsWith_of_watchLoop limit 0 hreason
      have hmem := List.mem_of_find?_eq_some hends.accepted
      have hwanted := (accepts_access_iff h hw hmem).mp (List.find?_some hends.accepted)
      refine ⟨n, r, hreport, ⟨⟨r, hmem, hwanted.1⟩, ?_⟩, hmem, hwanted.1⟩
      -- a wanted access before would be in the first such turn, and that one is covered
      intro i hi other hother hwanted'
      obtain ⟨m, hm, hfirst⟩ := exists_firstWanted hother hwanted'
      have hrunning : Uninterrupted rounds m := fun k hk => hends.running k k.zero_le (by omega)
      obtain ⟨r', hr', hwanted'⟩ := hcovered m (by omega) hrunning hfirst
      obtain ⟨first, haccepted⟩ :=
        firstAccepted_of_mem hr' ((accepts_access_iff h hw hr').mpr hwanted')
      rw [hends.earlier m m.zero_le (by omega)] at haccepted
      cases haccepted

end

/-- A run to a hardware event stops with the first access it asks for, just when the first turn
that makes such accesses makes one in the range of the event. -/
theorem runUntil_stopsAtFirst_iff {C : Type} (machine : ObservedMachine C) (e : HardwareEvent)
    (limit : ℕ) (rounds : ℕ → Round) (h : PushedBy machine rounds) :
    StopsAtFirst machine e rounds limit (runUntil machine e limit rounds) ↔
      FirstCovered machine e rounds limit :=
  ⟨firstCovered_of_stopsAtFirst h, stopsAtFirst_of_firstCovered h⟩

/-- A turn in which one record is pushed while the processor executes. -/
def singlePush (r : Record) : Round where
  step := some { pushes := [{ record := r, phase := .read }] }

/-- A board with a program that writes its port of the sound generator. -/
def soundBoard : GameGearDevices Unit where
  mem := {}
  cart := { kind := .sega3155208, rom := [0xD3, 0x7F] }
  vdp := GameGear.VdpDevice.construct
  psg := { tones := fun _ => { counter := () }, noiseCounter := () }
  input := {}

/-- Each turn is an `OUT (7F),A`. -/
def soundRounds (_ : ℕ) : Round := singlePush (portRecord 0x9F7F 0x9F true)

theorem pushedBy_soundRounds : PushedBy (.gamegear soundBoard) soundRounds := by
  intro n s hstep p hp
  obtain rfl := Option.some.inj hstep
  rw [List.mem_singleton.mp hp]
  exact .inl (.gamegearPort soundBoard 0x9F7F 0x9F true)

theorem runUntil_stopsAtFirst_iff_soundRounds :
    StopsAtFirst (.gamegear soundBoard) ⟨true, .category .audioChannel⟩ soundRounds 10000
        (runUntil (.gamegear soundBoard) ⟨true, .category .audioChannel⟩ 10000 soundRounds) ↔
      FirstCovered (.gamegear soundBoard) ⟨true, .category .audioChannel⟩ soundRounds 10000 :=
  runUntil_stopsAtFirst_iff (.gamegear soundBoard) ⟨true, .category .audioChannel⟩ 10000 soundRounds
    pushedBy_soundRounds

/-- The writes of the sound generator are not seen by a run to a write of an audio channel. -/
theorem soundRounds_not_stopsAtFirst :
    ¬ StopsAtFirst (.gamegear soundBoard) ⟨true, .category .audioChannel⟩ soundRounds 10000
        (runUntil (.gamegear soundBoard) ⟨true, .category .audioChannel⟩ 10000 soundRounds) := by
  intro hstops
  have hcovered := firstCovered_of_stopsAtFirst pushedBy_soundRounds hstops
  have hwanted : Wanted (.gamegear soundBoard) ⟨true, .category .audioChannel⟩
      (Push.stored { record := portRecord 0x9F7F 0x9F true, phase := .read }) := by
    refine ⟨by decide, by decide, ?_⟩
    show gamegearCategory (portRecord 0x9F7F 0x9F true).location true = some .audioChannel
    decide +kernel
  have hfirst : FirstWanted (.gamegear soundBoard) ⟨true, .category .audioChannel⟩ soundRounds 0 :=
    ⟨⟨_, List.mem_singleton_self _, hwanted⟩, fun i hi => absurd hi (Nat.not_lt_zero i)⟩
  have hrunning : Uninterrupted soundRounds 0 := fun i _ => ⟨rfl, _, rfl, rfl⟩
  obtain ⟨r, hr, -, low, high, hlow, -, hcategory, -⟩ := hcovered 0 (by decide) hrunning hfirst
  obtain rfl := List.mem_singleton.mp hr
  rcases gamegearCategory_bus (busSpace_analysisLocation soundBoard low false) hcategory with
    h | h | ⟨h, -⟩ | ⟨-, hwindow, -⟩
  · cases h
  · cases h
  · cases h
  · exact absurd (BitVec.le_trans hwindow hlow) (by decide)

/-! ## The Game Boy without a boot ROM -/

end ProtoTime.Space
