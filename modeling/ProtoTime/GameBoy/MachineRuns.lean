import ProtoTime.Results
import ProtoTime.GameBoy.MachineStep

/-!
Invariants of the machine's board over whole runs. A property the elementary
updates of the board keep is kept by every action that neither inserts a ROM nor
restores a checkpoint, and by what these two do once the parts are in place.
-/
namespace ProtoTime.GameBoy

open ThreadedBlockCache Core Results

namespace Board

/-- Devices other than memory, the processor's timed hardware included, are replaced. -/
def withDevices (b : Board) (hardware : Hardware) (input : GameBoyInput) (apu : GameBoyAPU)
    (bootEntryPending : Bool) : Board :=
  { b with hardware := hardware, input := input, apu := apu, bootEntryPending := bootEntryPending }

/-- A property that the elementary updates of the board keep. -/
structure Stable (P : Board → Prop) : Prop where
  write : ∀ b address value, P b → P (b.write address value)
  setIoRegisterRaw : ∀ b address value, P b → P (b.setIoRegisterRaw address value)
  writeCached : ∀ b f, P b → P (b.writeCached f)
  devices : ∀ b hardware input apu pending, P b → P (b.withDevices hardware input apu pending)
  debugCommitByte : ∀ b address value, P b → P (b.debugCommitByte address value)
  blockCache : ∀ b cache enabled, Invalidated b.blockCache cache ∨ cache = b.blockCache.clear →
    P b → P { b with blockCache := cache, blockCacheEnabled := enabled }

variable {P : Board → Prop}

/-- The updates of the timed hardware outside its retirement. -/
inductive RegisterUpdate : (Hardware → Hardware) → Prop where
  | register (address : Addr) (value : Byte) :
      RegisterUpdate (Hardware.syncCachedIoRegisterWrite address value)
  | interruptFlags (flags : Byte) : RegisterUpdate fun h => { h with interruptFlags := flags }
  | joypad (pressedMask : Byte) : RegisterUpdate (Hardware.setJoypadState pressedMask)

/-- The registers whose cells the machine writes past the hardware. -/
def rawRegisters : List Addr := [0xFF00#16, 0xFF26#16, 0xFF41#16, 0xFF44#16, 0xFF50#16]

/-- A property that the host and the devices around the processor keep. -/
structure Hosted (P : Board → Prop) : Prop where
  write : ∀ b address value, P b → P (b.write address value)
  rawRegister : ∀ b address value, address ∈ rawRegisters → P b →
    P (b.setIoRegisterRaw address value)
  registerUpdate : ∀ b f, RegisterUpdate f → P b → P (b.writeCached f)
  outside : ∀ b input apu pending, P b →
    P { b with input := input, apu := apu, bootEntryPending := pending }
  debugCommitByte : ∀ b address value, P b → P (b.debugCommitByte address value)
  blockCache : ∀ b cache enabled, Invalidated b.blockCache cache ∨ cache = b.blockCache.clear →
    P b → P { b with blockCache := cache, blockCacheEnabled := enabled }

/-- The brackets around the body of an instruction keep the property too. -/
structure Tended (P : Board → Prop) : Prop extends Hosted P where
  bracket : ∀ b active offset, P b → P { b with hardware := { b.hardware with
    instructionExecutionActive := active, instructionCycleEndOffset := offset } }

theorem Stable.tended (hP : Stable P) : Tended P where
  write := hP.write
  rawRegister b address value _ h := hP.setIoRegisterRaw b address value h
  registerUpdate b f _ h := hP.writeCached b f h
  outside b input apu pending h := hP.devices b b.hardware input apu pending h
  debugCommitByte := hP.debugCommitByte
  blockCache := hP.blockCache
  bracket b _ _ h := hP.devices b _ b.input b.apu b.bootEntryPending h

theorem Tended.kept (hP : Tended P) : Accessed.Kept P where
  write := hP.write
  beginStep b n h := hP.bracket b true n h
  endStep b h := hP.bracket b false b.hardware.instructionCycleEndOffset h
  setInterruptFlags b flags h := hP.registerUpdate b _ (.interruptFlags flags) h

variable {b : Board}

theorem Stable.seedRegister (hP : Stable P) (h : P b) (register : Addr × Byte) :
    P (b.seedRegister register) := by
  obtain ⟨address, value⟩ := register
  have hsynced := hP.devices b (b.hardware.syncCachedIoRegisterWrite address value) b.input b.apu
    b.bootEntryPending h
  unfold Board.seedRegister
  dsimp only
  split
  · exact hP.writeCached _ _ (hP.setIoRegisterRaw _ _ _ (hP.write _ _ _ hsynced))
  · exact hP.write _ _ _ hsynced

theorem Stable.seedRegisters (hP : Stable P) (h : P b) : P b.seedRegisters := by
  have hseeded (registers : List (Addr × Byte)) (b : Board) (hb : P b) :
      P (registers.foldl Board.seedRegister b) := by
    induction registers generalizing b with
    | nil => exact hb
    | cons register registers ih => exact ih _ (hP.seedRegister hb register)
  have hstart := hP.setIoRegisterRaw _ 0xFF50#16 0x01#8 (hP.write _ 0xFF00#16 0xCF#8 h)
  exact hP.devices _ _ _ _ _ (hP.setIoRegisterRaw _ _ _ (hseeded kPostBootIoDefaults _ hstart))

theorem Stable.startRom (hP : Stable P)
    (h : P b.resetSubsystems.installWindows.invalidateAllBlockCache) : P b.startRom := by
  have hdivider := hP.setIoRegisterRaw _ 0xFF04#16 0x00#8
    (hP.writeCached _ Hardware.resetDivider h)
  exact hP.seedRegisters (hP.writeCached _ (Hardware.setJoypadState 0x00#8) hdivider)

theorem Stable.syncRegisters (hP : Stable P) (offsets : List ℕ) (h : P b) :
    P (offsets.foldl (fun b i =>
      let address : Addr := 0xFF00#16 + BitVec.ofNat 16 i
      b.syncCachedIoRegisterWrite address (b.peek address)) b) := by
  induction offsets generalizing b with
  | nil => exact h
  | cons offset offsets ih => exact ih (hP.writeCached _ _ h)

theorem Stable.restored (hP : Stable P) {memoryMap : GameBoyMemoryMap}
    (h : P { b with memoryMap := memoryMap }) (apu : GameBoyAPU) (input : GameBoyInput)
    (bootEntryPending : Bool) : P (b.restored memoryMap apu input bootEntryPending) := by
  have hdevices := hP.devices { b with memoryMap := memoryMap } b.hardware
    (input.writeRegister (memoryMap.peek 0xFF00#16)) apu bootEntryPending h
  exact hP.writeCached _ _ (hP.syncRegisters _ (hP.setIoRegisterRaw _ _ _ hdevices))

end Board

namespace GameBoyMachine

open Board

variable {P : Board → Prop} {m m' : GameBoyMachine}

theorem advanceDevices_hosted (hP : Hosted P) (h : P m.board) (cycles : ℕ) :
    P (m.advanceDevices cycles).board := by
  have hly := hP.rawRegister m.board 0xFF44#16
    (m.ppu.step (m.board.peek 0xFF40#16) cycles).ly (by decide) h
  have hstat := hP.rawRegister _ 0xFF41#16
    (((m.board.setIoRegisterRaw 0xFF44#16 (m.ppu.step (m.board.peek 0xFF40#16) cycles).ly).peek
      0xFF41#16 &&& 0xF8#8) ||| ((m.ppu.step (m.board.peek 0xFF40#16) cycles).ppuMode &&& 0x03#8))
    (by decide) hly
  exact hP.rawRegister _ 0xFF26#16 _ (by decide) (hP.outside _ _ _ _ hstat)

theorem setJoypadState_hosted (hP : Hosted P) (h : P m.board) (pressedMask : Byte) :
    P (m.setJoypadState pressedMask).board := by
  have hcached := hP.registerUpdate m.board _ (.joypad pressedMask) h
  let b := m.board.setJoypadState pressedMask
  have hinput := hP.outside b (b.input.setLogicalButtons pressedMask) b.apu b.bootEntryPending
    hcached
  exact hP.write _ 0xFF00#16 (b.input.setLogicalButtons pressedMask).readRegister hinput

theorem serviceInput_hosted (hP : Hosted P) (h : P m.board) (pressedMask : Byte) :
    P (m.serviceInput pressedMask).board := by
  let input := m.board.input.setLogicalButtons pressedMask
  have hinput := hP.outside m.board input m.board.apu m.board.bootEntryPending h
  have hcached := hP.registerUpdate _ _
    (.register (resolveEchoAddress 0xFF00#16) input.readRegister) hinput
  exact hP.rawRegister _ 0xFF00#16 _ (by decide) hcached

theorem enterCartridge_hosted (hP : Hosted P) (h : P m.board) : P m.enterCartridge.board :=
  hP.outside m.board m.board.input m.board.apu false h

theorem attachExecutorPolicy_hosted (hP : Hosted P) (h : P m.board) (backend : ExecutionBackend) :
    P (m.attachExecutorPolicy backend).board := by
  have hset (p : LR3592) (hp : P p.core.bus) (enabled : Bool) :
      P (p.setBlockCacheEnabled enabled).core.bus := by
    unfold LR3592.setBlockCacheEnabled
    split
    · exact hp
    · refine hP.blockCache p.core.bus _ enabled ?_ hp
      cases enabled with
      | true => exact .inl (.refl _)
      | false => exact .inr rfl
  have hir (p : LR3592) (hp : P p.core.bus) (enabled : Bool) :
      P (p.setPortableIrEnabled enabled).core.bus := by
    unfold LR3592.setPortableIrEnabled
    split
    · exact hp
    · exact hP.blockCache p.core.bus _ _ (.inl (invalidateAll_invalidated _)) hp
  exact hir _ (hset _ h _) _

/-- A property of the board that does not look at the block cache. -/
def IgnoresCache (P : Board → Prop) : Prop := ∀ b cache, P b → P (b.withBlockCache cache)

theorem retired_tended (hP : Tended P) (hcache : IgnoresCache P)
    (hretire : ∀ b cycles, P b → P (b.writeCached (Hardware.retire cycles))) {c c' : Core Board}
    (h : Retired c c') (hc : P c.bus) : P c'.bus := by
  obtain ⟨cache, b, cache', hb, hbus⟩ := h.effect
  rw [hbus]
  exact hcache _ _ (hretire _ _ (hb.accessed.invariant hP.kept (hcache _ _ hc)))

theorem retireStep_tended (hP : Tended P) (hcache : IgnoresCache P)
    (hretire : ∀ b cycles, P b → P (b.writeCached (Hardware.retire cycles)))
    (hl : m.board.HoldsLowered) {exit : Option ExecutionSliceExitReason}
    (h : m.retireStep = .ok (m', exit)) (hm : P m.board) : P m'.board := by
  obtain ⟨cpu, hret, heq⟩ := retireStep_retired hl h
  have hcpu : P (m.withCpu cpu).board := retired_tended hP hcache hretire hret hm
  rw [onInstructionRetired, Prod.mk.injEq] at heq
  rw [heq.1]
  exact advanceDevices_hosted hP.toHosted hcpu _

theorem loadExternalBootRom_hosted (hP : Hosted P) {bytes : List Byte}
    (hboot : P { m.board with memoryMap := m.board.memoryMap.mapBootRom bytes })
    (h : m.loadExternalBootRom bytes = .ok m') : P m'.board := by
  unfold loadExternalBootRom at h
  split at h
  · cases h
  · cases h
    exact hP.blockCache _ _ _ (.inl (invalidateAll_invalidated _))
      (hP.rawRegister _ 0xFF50#16 0x00#8 (by decide) hboot)

theorem loadRom_eq_ok {bytes : List Byte} {save : Option CartridgeSaveData}
    (h : m.loadRom bytes save = .ok m') : bytes ≠ [] ∧ ∃ cartridge,
      m'.board = (m.board.insertCartridge cartridge bytes).startRom := by
  unfold loadRom at h
  split at h
  · cases h
  · rename_i hne
    split at h
    · cases h
    · split at h <;> cases h
      exact ⟨fun hnil => hne (by rw [hnil]; rfl), _, rfl⟩

/-- What an accepted checkpoint holds, and the board it leaves. -/
theorem loadState_eq_ok {file : SaveStateFile} (h : m.loadState file = .ok m') :
    m.romLoaded ∧ m'.romLoaded ∧ ∃ cartridge mapper apu input memoryMap,
      m.board.memoryMap.cartridge.importState file.cartridge = .ok cartridge ∧
      (m.board.memoryMap.mapper.load m.board.memoryMap.mapper.romData).importState file.mapper =
        .ok mapper ∧
      powerOn.board.memoryMap.importState file.memory = .ok memoryMap ∧
      m'.board = (m.cpu.importState file.cpu).core.bus.restored
        (restoredMemoryMap memoryMap mapper cartridge) apu input file.bootEntryPending := by
  unfold loadState at h
  split at h
  · cases h
  · rename_i hrom
    have hloaded : m.romLoaded = true := by simpa using hrom
    obtain ⟨_, -, h⟩ := bind_eq_ok h
    obtain ⟨cartridge, hcartridge, h⟩ := bind_eq_ok h
    obtain ⟨mapper, hmapper, h⟩ := bind_eq_ok h
    obtain ⟨apu, -, h⟩ := bind_eq_ok h
    obtain ⟨ppu, -, h⟩ := bind_eq_ok h
    obtain ⟨input, -, h⟩ := bind_eq_ok h
    obtain ⟨_, -, h⟩ := bind_eq_ok h
    obtain ⟨memoryMap, hmemoryMap, h⟩ := bind_eq_ok h
    cases h
    exact ⟨hloaded, hloaded, cartridge, mapper, apu, input, memoryMap, hcartridge, hmapper,
      hmemoryMap, rfl⟩

theorem allBlocks_stable {Q : TranslatedBlockEntry → Prop}
    (hQ : ∀ e, Q e → Q { e with valid := false }) :
    Stable fun b => b.blockCache.AllBlocks Q where
  write b address value h := .invalidated hQ (b.write_invalidated address value) h
  setIoRegisterRaw _ _ _ h := h
  writeCached _ _ h := h
  devices _ _ _ _ _ h := h
  debugCommitByte b address value h := .invalidated hQ
    (invalidateBlockCacheForWrite_invalidated
      { b with memoryMap := b.memoryMap.debugCommitRam address value } _) h
  blockCache b cache enabled hcache h := by
    rcases hcache with hinvalidated | rfl
    · exact .invalidated hQ hinvalidated h
    · exact .clearEntries b.blockCache

theorem holdsLowered_stable : Stable HoldsLowered :=
  allBlocks_stable fun _ => isLowered_withValid

/-- The actions that do not replace the memory map keep a hosted property, given the step. -/
theorem perform_hosted (hP : Hosted P) (h : P m.board) (a : Action)
    (hstep : ∀ m' exit, a = .retireStep → m.retireStep = .ok (m', exit) → P m'.board)
    (hload : ∀ bytes save m', a = .loadRom bytes save → m.loadRom bytes save = .ok m' →
      P m'.board)
    (hboot : ∀ bytes, P { m.board with memoryMap := m.board.memoryMap.mapBootRom bytes })
    (hstate : ∀ file m', a = .loadState file → m.loadState file = .ok m' → P m'.board)
    (ha : m.perform a = .ok m') : P m'.board := by
  cases a with
  | loadRom bytes save => exact hload bytes save m' rfl ha
  | loadExternalBootRom bytes => exact loadExternalBootRom_hosted hP (hboot bytes) ha
  | retireStep =>
    simp only [perform] at ha
    cases hs : m.retireStep with
    | error message => simp [hs, Except.map] at ha
    | ok result =>
      simp only [hs, Except.map, Except.ok.injEq] at ha
      rw [← ha]
      exact hstep result.1 result.2 rfl hs
  | loadState file => exact hstate file m' rfl ha
  | attachExecutorPolicy backend =>
    cases ha
    exact attachExecutorPolicy_hosted hP h backend
  | enterCartridge =>
    cases ha
    exact enterCartridge_hosted hP h
  | beginSlice =>
    cases ha
    exact h
  | endSlice =>
    cases ha
    exact h
  | serviceInput pressedMask =>
    cases ha
    exact serviceInput_hosted hP h pressedMask
  | setJoypadState pressedMask =>
    cases ha
    exact setJoypadState_hosted hP h pressedMask
  | write8 address value =>
    cases ha
    exact hP.write _ _ _ h
  | debugCommitByte address value =>
    cases ha
    exact hP.debugCommitByte _ _ _ h

/-- Only a ROM load makes a machine loaded. -/
theorem perform_romLoaded (hl : m.board.HoldsLowered) {a : Action} (h : m.perform a = .ok m') :
    m'.romLoaded ↔ m.romLoaded ∨ ∃ bytes save, a = .loadRom bytes save := by
  cases a with
  | loadRom bytes save =>
    simp only [perform, loadRom] at h
    split_ifs at h
    split at h <;> cases h
    exact iff_of_true rfl (.inr ⟨bytes, save, rfl⟩)
  | loadState file =>
    obtain ⟨hm, hm', -⟩ := loadState_eq_ok h
    exact iff_of_true hm' (.inl hm)
  | loadExternalBootRom bytes =>
    simp only [perform, loadExternalBootRom] at h
    split at h <;> cases h
    exact ⟨.inl, fun hm => hm.resolve_right (by simp)⟩
  | retireStep =>
    simp only [perform] at h
    cases hs : m.retireStep with
    | error message => simp [hs, Except.map] at h
    | ok result =>
      simp only [hs, Except.map, Except.ok.injEq] at h
      obtain ⟨m₁, exit⟩ := result
      obtain ⟨cpu, -, heq⟩ := retireStep_retired hl hs
      rw [onInstructionRetired, Prod.mk.injEq] at heq
      rw [← h]
      rw [heq.1]
      exact ⟨.inl, fun hm => hm.resolve_right (by simp)⟩
  | _ =>
    cases h
    exact ⟨.inl, fun hm => hm.resolve_right (by simp)⟩

theorem act_cases (m : GameBoyMachine) (a : Action) :
    m.act a = m ∨ m.perform a = .ok (m.act a) := by
  unfold act
  cases h : m.perform a with
  | error message => exact .inl rfl
  | ok m' => exact .inr rfl

/-- The machine's cache holds lowered blocks only, whatever is asked of it. -/
theorem act_holdsLowered (h : m.board.HoldsLowered) (a : Action) :
    (m.act a).board.HoldsLowered := by
  rcases m.act_cases a with hsame | hok
  · rw [hsame]
    exact h
  refine perform_hosted holdsLowered_stable.tended.toHosted h a ?_ ?_ (fun _ => h) ?_ hok
  · intro m' exit _ hs
    obtain ⟨cpu, hret, heq⟩ := retireStep_retired h hs
    rw [onInstructionRetired, Prod.mk.injEq] at heq
    rw [heq.1]
    exact advanceDevices_hosted holdsLowered_stable.tended.toHosted
      (m := { m.withCpu cpu with stepCounter := _ }) hret.lowered _
  · intro bytes save m' _ hl
    obtain ⟨-, cartridge, hboard⟩ := loadRom_eq_ok hl
    rw [hboard]
    refine holdsLowered_stable.startRom ?_
    exact .invalidated (fun _ => isLowered_withValid) (invalidateAll_invalidated _) h
  · intro file m' _ hl
    obtain ⟨-, -, cartridge, mapper, apu, input, memoryMap, -, -, -, hboard⟩ := loadState_eq_ok hl
    rw [hboard]
    refine holdsLowered_stable.restored ?_ apu input file.bootEntryPending
    exact .invalidated (fun _ => isLowered_withValid) (invalidateAll_invalidated _) h

/-- Nothing was recorded before the first ROM. -/
def NoBlocksBeforeRom (m : GameBoyMachine) : Prop :=
  m.romLoaded = false → m.board.blockCache.AllBlocks fun _ => False

theorem lookup_of_noBlocks {c : ThreadedBlockCache} (h : c.AllBlocks fun _ => False)
    (address : Addr) : c.lookup address = none := by
  cases hl : c.lookup address with
  | none => rfl
  | some l => exact absurd (List.mem_of_getElem? (LR3592.lookup_mem hl)) (h l.entry)

theorem tryExecutePortableIrBlockInstruction_of_noBlocks {p : LR3592}
    (h : p.core.bus.blockCache.AllBlocks fun _ => False) :
    ∃ p' : LR3592, p'.core = p.core ∧ p.tryExecutePortableIrBlockInstruction = .ok (p', false) := by
  unfold LR3592.tryExecutePortableIrBlockInstruction
  split
  · exact ⟨p.resetPortableIrBlockSession, rfl, rfl⟩
  · split
    · unfold LR3592.enterBlock
      rw [lookup_of_noBlocks h]
      exact ⟨p, rfl, rfl⟩
    · rename_i session _
      have hnone : p.continuedBlock session = none := by
        unfold LR3592.continuedBlock
        split
        · rfl
        · rename_i entry hentry
          exact absurd (List.mem_of_getElem? hentry) (h entry)
      rw [hnone]
      exact ⟨p.resetPortableIrBlockSession, rfl, rfl⟩

theorem retireStep_romLoaded (h : m.NoBlocksBeforeRom) {exit : Option ExecutionSliceExitReason}
    (hs : m.retireStep = .ok (m', exit)) : m.romLoaded = true := by
  by_contra hne
  have hrom : m.romLoaded = false := by simpa using hne
  have hcontext (p : LR3592) : (m.withCpu p).contextStep = .error "ROM is not loaded" := by
    unfold contextStep
    rw [if_pos]
    exact hne
  have hstep : m.stepWithinExecutionSlice = .error "ROM is not loaded" := by
    unfold stepWithinExecutionSlice
    split
    · obtain ⟨p, -, hp⟩ := tryExecutePortableIrBlockInstruction_of_noBlocks (h hrom)
      rw [hp]
      exact hcontext p
    · exact hcontext m.cpu
  unfold retireStep at hs
  rw [hstep] at hs
  cases hs

/-- No action takes the ROM out. -/
theorem act_noBlocksBeforeRom (hl : m.board.HoldsLowered) (h : m.NoBlocksBeforeRom) (a : Action) :
    (m.act a).NoBlocksBeforeRom := by
  have hstable := allBlocks_stable (Q := fun _ => False) fun _ => id
  rcases m.act_cases a with hsame | hok
  · rw [hsame]
    exact h
  intro hunloaded
  have hrom : m.romLoaded = false := by
    cases hm : m.romLoaded with
    | false => rfl
    | true => exact absurd hunloaded (by simp [(perform_romLoaded hl hok).mpr (.inl hm)])
  refine perform_hosted hstable.tended.toHosted (h hrom) a ?_ ?_ (fun _ => h hrom) ?_ hok
  · intro m' exit _ hs
    exact absurd (retireStep_romLoaded h hs) (by simp [hrom])
  · intro bytes save m' _ hload
    obtain ⟨-, cartridge, hboard⟩ := loadRom_eq_ok hload
    rw [hboard]
    exact hstable.startRom (.invalidated (fun _ => id) (invalidateAll_invalidated _) (h hrom))
  · intro file m' _ hstate
    exact absurd (loadState_eq_ok hstate).1 (by simp [hrom])

end GameBoyMachine

end ProtoTime.GameBoy
