import ProtoTime.GameBoy.MachineRuns

/-!
The cached registers that nothing writes past the hardware: once a ROM runs, the
copy that times the hardware is the byte that memory shows.
-/
namespace ProtoTime.GameBoy

open ThreadedBlockCache Core

/-- The interrupt flags, the display control and the interrupt enable register. -/
def syncedRegisters : List (Addr × (Hardware → Byte)) :=
  [(0xFF0F#16, Hardware.interruptFlags), (0xFF40#16, Hardware.lcdc), (0xFFFF#16, Hardware.ie)]

variable {slot : Addr × (Hardware → Byte)}

theorem syncedRegisters_cached (h : slot ∈ syncedRegisters) :
    slot ∈ Hardware.cachedRegisters := by
  simp only [syncedRegisters, List.mem_cons, List.not_mem_nil, or_false] at h
  rcases h with rfl | rfl | rfl <;> simp [Hardware.cachedRegisters]

theorem syncedRegisters_high (h : slot ∈ syncedRegisters) : 0xFF00#16 ≤ slot.1 := by
  simp only [syncedRegisters, List.mem_cons, List.not_mem_nil, or_false] at h
  rcases h with rfl | rfl | rfl <;> decide

theorem syncedRegisters_not_raw (h : slot ∈ syncedRegisters) : slot.1 ∉ Board.rawRegisters := by
  simp only [syncedRegisters, List.mem_cons, List.not_mem_nil, or_false] at h
  rcases h with rfl | rfl | rfl <;> decide

theorem syncedRegisters_not_high_ram (h : slot ∈ syncedRegisters) :
    ¬ (0xFF80#16 ≤ slot.1 ∧ slot.1 < 0xFFFF#16) := by
  simp only [syncedRegisters, List.mem_cons, List.not_mem_nil, or_false] at h
  rcases h with rfl | rfl | rfl <;> decide

theorem resolveEchoAddress_of_high {a : Addr} (h : 0xFF00#16 ≤ a) : resolveEchoAddress a = a := by
  unfold resolveEchoAddress
  rw [if_neg]
  intro hecho
  bv_omega

namespace Hardware

theorem syncCachedIoRegisterWrite_slot (hslot : slot ∈ syncedRegisters) (address : Addr)
    (value : Byte) (h : Hardware) :
    slot.2 (h.syncCachedIoRegisterWrite address value) =
      if address = slot.1 then value else slot.2 h := by
  simp only [syncedRegisters, List.mem_cons, List.not_mem_nil, or_false] at hslot
  rcases hslot with rfl | rfl | rfl
  all_goals
    split
    · rename_i heq
      rw [heq]
      rfl
    · unfold syncCachedIoRegisterWrite
      split <;> first | rfl | (exfalso; bv_omega)

theorem slot_of_bracket (hslot : slot ∈ syncedRegisters) (h : Hardware) (active : Bool)
    (offset : ℕ) :
    slot.2 { h with instructionExecutionActive := active, instructionCycleEndOffset := offset } =
      slot.2 h := by
  simp only [syncedRegisters, List.mem_cons, List.not_mem_nil, or_false] at hslot
  rcases hslot with rfl | rfl | rfl <;> rfl

theorem slot_of_apu (hslot : slot ∈ syncedRegisters) (h : Hardware) (apu : CoreApu) :
    slot.2 { h with apu := apu } = slot.2 h := by
  simp only [syncedRegisters, List.mem_cons, List.not_mem_nil, or_false] at hslot
  rcases hslot with rfl | rfl | rfl <;> rfl

end Hardware

namespace GameBoyMemoryMap

/-- A boot ROM covers the first page at most. -/
def ShortBoot (m : GameBoyMemoryMap) : Prop := m.bootRom.length ≤ 0x100

/-- The cell of a register and the boot ROM are the same. -/
structure CellKept (a : Addr) (m m' : GameBoyMemoryMap) : Prop where
  cell : m'.cells a = m.cells a
  bootRom : m'.bootRom = m.bootRom

variable {a : Addr} {m m' m'' : GameBoyMemoryMap}

theorem CellKept.refl (m : GameBoyMemoryMap) : CellKept a m m := ⟨rfl, rfl⟩

theorem CellKept.trans (h : CellKept a m m') (h' : CellKept a m' m'') : CellKept a m m'' :=
  ⟨h'.cell.trans h.cell, h'.bootRom.trans h.bootRom⟩

theorem CellKept.shortBoot (h : CellKept a m m') (hm : m.ShortBoot) : m'.ShortBoot := by
  unfold ShortBoot
  rw [h.bootRom]
  exact hm

theorem IoChanged.shortBoot (h : IoChanged m m') (hm : m.ShortBoot) : m'.ShortBoot := by
  unfold ShortBoot
  rw [h.bootRom]
  exact hm

theorem CellKept.ite {p : Prop} [Decidable p] (h : p → CellKept a m m')
    (h' : ¬ p → CellKept a m m'') : CellKept a m (if p then m' else m'') := by
  split
  · exact h ‹_›
  · exact h' ‹_›

variable {address : Addr}

section

variable (m : GameBoyMemoryMap)

theorem setCell_cellKept (h : a ≠ address) (value : Byte) :
    CellKept a m (m.setCell address value) := ⟨if_neg h, rfl⟩

theorem setIoRegisterRaw_cellKept (h : a ≠ address)
    (value : Byte) : CellKept a m (m.setIoRegisterRaw address value) := by
  refine ⟨?_, (m.setIoRegisterRaw_ioChanged address value).bootRom⟩
  rw [setIoRegisterRaw_cells, if_neg fun hand => h hand.1]

theorem performOamDma_cellKept (ha : 0xFF00#16 ≤ a) (value : Byte) :
    CellKept a m (m.performOamDma value) := by
  unfold performOamDma
  have hoffsets : ∀ i ∈ List.range 0xA0, i < 0xA0 := fun i hi => List.mem_range.mp hi
  generalize List.range 0xA0 = offsets at hoffsets
  induction offsets generalizing m with
  | nil => exact .refl m
  | cons offset offsets ih =>
    have hlt := hoffsets offset List.mem_cons_self
    have hne : a ≠ 0xFE00#16 + BitVec.ofNat 16 offset := by
      intro heq
      bv_omega
    exact (m.setCell_cellKept hne _).trans
      (ih _ fun i hi => hoffsets i (List.mem_cons_of_mem _ hi))

theorem writeRaw_cellKept (ha : 0xFF00#16 ≤ a)
    (h : a ≠ address) (value : Byte) : CellKept a m (m.writeRaw address value) := by
  have hsame : CellKept a m m := .refl m
  have hcell (v : Byte) : CellKept a m (m.setCell address v) := m.setCell_cellKept h v
  refine .ite (fun _ => hsame) fun _ => .ite (fun _ => hsame) fun _ => .ite (fun _ => hsame)
    fun _ => .ite (fun _ => hcell value) fun _ => .ite (fun _ => hsame)
    fun _ => .ite (fun _ => hcell value) fun _ => .ite (fun hecho => ?_)
    fun _ => .ite (fun _ => hcell value) fun _ => .ite (fun _ => hsame)
    fun _ => .ite (fun _ => hcell value) fun _ => .ite (fun _ => ?_)
    fun _ => .ite (fun _ => hcell value) fun _ => hsame
  · refine m.setCell_cellKept ?_ value
    intro heq
    bv_omega
  · exact .ite (fun _ => (hcell value).trans (performOamDma_cellKept _ ha value))
      fun _ => .ite (fun _ => hcell _) fun _ => .ite (fun _ => hcell _) fun _ => hcell value

theorem handleSpecialWrite_cellKept
    (h : a ≠ 0xFF50#16) (value : Byte) : CellKept a m (m.handleSpecialWrite address value).1 := by
  unfold handleSpecialWrite
  split_ifs
  · refine .ite (fun _ => ?_) fun _ => .ite (fun _ => ?_) fun _ => ⟨rfl, rfl⟩
    · refine ⟨?_, ?_⟩ <;> split <;> rfl
    · exact ⟨rfl, rfl⟩
  · have hoff : CellKept a m { m with bootRomActive := false } := ⟨rfl, rfl⟩
    exact hoff.trans (setIoRegisterRaw_cellKept _ h value)
  · exact ⟨rfl, rfl⟩
  · exact .refl m

theorem write_cellKept (ha : 0xFF00#16 ≤ a) (hboot : a ≠ 0xFF50#16)
    (h : a ≠ resolveEchoAddress address) (value : Byte) :
    CellKept a m (m.write address value) := by
  have hspecial : CellKept a m (m.handleSpecialWrite (resolveEchoAddress address) value).1 :=
    m.handleSpecialWrite_cellKept hboot value
  unfold write
  dsimp only
  generalize m.handleSpecialWrite (resolveEchoAddress address) value = special at hspecial
  obtain ⟨m', handled⟩ := special
  split
  · exact hspecial
  · exact hspecial.trans (writeRaw_cellKept m' ha h value)

theorem write_bootRom (address : Addr) (value : Byte) :
    (m.write address value).bootRom = m.bootRom := by
  obtain ⟨a, ha, hboot, hne⟩ : ∃ a : Addr, 0xFF00#16 ≤ a ∧ a ≠ 0xFF50#16 ∧
      a ≠ resolveEchoAddress address := by
    by_cases h : 0xFFFF#16 = resolveEchoAddress address
    · exact ⟨0xFF0F#16, by decide, by decide, by rw [← h]; decide⟩
    · exact ⟨0xFFFF#16, by decide, by decide, h⟩
  exact (m.write_cellKept ha hboot hne value).bootRom

theorem peek_of_high (hshort : m.ShortBoot) (ha : 0xFF00#16 ≤ a) : m.peek a = m.cells a := by
  unfold peek
  rw [resolveEchoAddress_of_high ha]
  unfold readRaw
  have hnat : 0xFF00 ≤ a.toNat := ha
  unfold ShortBoot at hshort
  rw [if_neg (by omega), if_neg (by bv_omega), if_neg (by bv_omega), if_neg (by bv_omega),
    if_neg (by bv_omega), if_neg (by bv_omega), if_neg (by bv_omega), if_neg (by bv_omega),
    if_neg (by bv_omega), if_pos ha]

end

end GameBoyMemoryMap

namespace Board

/-- The boot ROM is short, and the cached register is the cell of its address. -/
structure Synced (slot : Addr × (Hardware → Byte)) (b : Board) : Prop where
  short : b.memoryMap.ShortBoot
  cell : b.memoryMap.cells slot.1 = slot.2 b.hardware

variable {b b' : Board}

theorem Synced.of_kept (h : Synced slot b)
    (hkept : GameBoyMemoryMap.CellKept slot.1 b.memoryMap b'.memoryMap)
    (hhardware : slot.2 b'.hardware = slot.2 b.hardware) : Synced slot b' where
  short := hkept.shortBoot h.short
  cell := by
    rw [hkept.cell, h.cell, hhardware]

theorem writeCached_cells (b : Board) (h : slot ∈ Hardware.cachedRegisters)
    (f : Hardware → Hardware) : (b.writeCached f).memoryMap.cells slot.1 =
      if slot.2 b.hardware = slot.2 (f b.hardware) then b.memoryMap.cells slot.1
      else slot.2 (f b.hardware) := Hardware.publish_cells b.memoryMap h

theorem Synced.writeCached (hslot : slot ∈ syncedRegisters) (h : Synced slot b)
    (f : Hardware → Hardware) : Synced slot (b.writeCached f) where
  short := (b.writeCached_ioChanged f).shortBoot h.short
  cell := by
    refine (b.writeCached_cells (syncedRegisters_cached hslot) f).trans ?_
    split
    · rename_i heq
      exact h.cell.trans heq
    · rfl

theorem Synced.setIoRegisterRaw (h : Synced slot b) {address : Addr} (hne : slot.1 ≠ address)
    (value : Byte) : Synced slot (b.setIoRegisterRaw address value) :=
  h.of_kept (b.memoryMap.setIoRegisterRaw_cellKept hne value) rfl

section

variable (hslot : slot ∈ syncedRegisters)

include hslot

theorem synced_of_sync (hshort : b.memoryMap.ShortBoot) :
    Synced slot (b.syncCachedIoRegisterWrite slot.1 (b.peek slot.1)) := by
  have hhigh := syncedRegisters_high hslot
  unfold Board.syncCachedIoRegisterWrite
  rw [resolveEchoAddress_of_high hhigh]
  refine ⟨?_, ?_⟩
  · exact (b.writeCached_ioChanged _).shortBoot hshort
  · have hhardware := Hardware.syncCachedIoRegisterWrite_slot hslot slot.1 (b.peek slot.1) b.hardware
    rw [if_pos rfl] at hhardware
    have hpeek : b.peek slot.1 = b.memoryMap.cells slot.1 := b.memoryMap.peek_of_high hshort hhigh
    refine (b.writeCached_cells (syncedRegisters_cached hslot) _).trans ?_
    rw [writeCached_hardware, hhardware, hpeek, ite_self]

theorem observeJoypad_synced (h : Synced slot b) (value : Byte) :
    Synced slot (b.observeJoypad value) := by
  have hne : slot.1 ≠ 0xFF00#16 := fun heq =>
    syncedRegisters_not_raw hslot (heq ▸ by decide)
  have hinput : Synced slot { b with input := b.input.writeRegister value } := ⟨h.short, h.cell⟩
  exact (hinput.setIoRegisterRaw hne _).writeCached hslot _

theorem observeAudio_synced (h : Synced slot b) (address : Addr)
    (value : Byte) : Synced slot (b.observeAudio address value) := by
  have hne : slot.1 ≠ 0xFF26#16 := fun heq =>
    syncedRegisters_not_raw hslot (heq ▸ by decide)
  have hapu : Synced slot { b with apu := b.apu.writeRegister address value } := ⟨h.short, h.cell⟩
  exact hapu.setIoRegisterRaw hne _

/-- The observer syncs the register that was written and keeps the others. -/
theorem observeWrite_synced {address : Addr} (value : Byte)
    (hresolved : resolveEchoAddress address = address)
    (hshort : b.memoryMap.ShortBoot) (h : address = slot.1 ∨ Synced slot b) :
    Synced slot (b.observeWrite address value) := by
  have hsync : Synced slot ((b.invalidateBlockCacheForWrite address).syncCachedIoRegisterWrite
      address (observedValue b.memoryMap address value)) := by
    rcases h with rfl | h
    · have hio : (0xFF00#16 ≤ slot.1 ∧ slot.1 < 0xFF80#16) ∨ slot.1 = 0xFFFF#16 :=
        Hardware.cachedRegisters_isIoCell (syncedRegisters_cached hslot)
      have hpeek : observedValue b.memoryMap slot.1 value =
          (b.invalidateBlockCacheForWrite slot.1).peek slot.1 := by
        unfold observedValue Board.peek
        rw [if_pos hio, invalidateBlockCacheForWrite_memoryMap]
      rw [hpeek]
      refine synced_of_sync hslot ?_
      rw [invalidateBlockCacheForWrite_memoryMap]
      exact hshort
    · have hinvalidated : Synced slot (b.invalidateBlockCacheForWrite address) := by
        refine ⟨?_, ?_⟩
        · rw [invalidateBlockCacheForWrite_memoryMap]
          exact h.short
        · rw [invalidateBlockCacheForWrite_memoryMap, invalidateBlockCacheForWrite_hardware]
          exact h.cell
      exact hinvalidated.writeCached hslot _
  unfold observeWrite
  dsimp only
  change Synced slot ((b.invalidateBlockCacheForWrite address).syncCachedIoRegisterWrite address
    (if (0xFF00#16 ≤ address ∧ address < 0xFF80#16) ∨ address = 0xFFFF#16 then b.peek address
      else value)) at hsync
  generalize (b.invalidateBlockCacheForWrite address).syncCachedIoRegisterWrite address
    (if (0xFF00#16 ≤ address ∧ address < 0xFF80#16) ∨ address = 0xFFFF#16 then b.peek address
      else value) = b₁ at hsync ⊢
  have hjoypad : Synced slot (if address = 0xFF00#16 then b₁.observeJoypad value else b₁) := by
    split
    · exact observeJoypad_synced hslot hsync value
    · exact hsync
  generalize (if address = 0xFF00#16 then b₁.observeJoypad value else b₁) = b₂ at hjoypad ⊢
  have haudio : Synced slot
      (if isAudioRegister address then b₂.observeAudio address value else b₂) := by
    split
    · exact observeAudio_synced hslot hjoypad address value
    · exact hjoypad
  generalize (if isAudioRegister address then b₂.observeAudio address value else b₂) = b₃ at haudio ⊢
  have hboot : Synced slot (if address = 0xFF50#16 ∧ value ≠ 0 then
      { b₃ with bootEntryPending := true } else b₃) := by
    split
    · exact ⟨haudio.short, haudio.cell⟩
    · exact haudio
  generalize (if address = 0xFF50#16 ∧ value ≠ 0 then
      { b₃ with bootEntryPending := true } else b₃) = b₄ at hboot ⊢
  split
  · exact ⟨hboot.short, hboot.cell⟩
  · exact hboot

theorem write_synced (address : Addr) (value : Byte) (hshort : b.memoryMap.ShortBoot)
    (h : resolveEchoAddress address = slot.1 ∨ Synced slot b) :
    Synced slot (b.write address value) := by
  have hhigh := syncedRegisters_high hslot
  have hboot : slot.1 ≠ 0xFF50#16 := fun heq =>
    syncedRegisters_not_raw hslot (heq ▸ by decide)
  refine observeWrite_synced hslot value (resolveEchoAddress_resolveEchoAddress address) ?_ ?_
  · unfold GameBoyMemoryMap.ShortBoot
    rw [GameBoyMemoryMap.write_bootRom]
    exact hshort
  · by_cases heq : resolveEchoAddress address = slot.1
    · exact .inl heq
    · right
      have hb := h.resolve_left heq
      exact hb.of_kept (b.memoryMap.write_cellKept hhigh hboot (Ne.symm heq) value) rfl

/-- The synced registers stay synced while a machine runs. -/
theorem synced_tended : Tended (Synced slot) where
  write b address value h := write_synced hslot address value h.short (.inr h)
  rawRegister b address value haddress h :=
    h.setIoRegisterRaw (fun heq => syncedRegisters_not_raw hslot (heq ▸ haddress)) value
  registerUpdate b f _ h := h.writeCached hslot f
  outside _ _ _ _ h := ⟨h.short, h.cell⟩
  bracket b active offset h :=
    h.of_kept (.refl _) (Hardware.slot_of_bracket hslot b.hardware active offset)
  debugCommitByte b address value h := by
    have hkept : GameBoyMemoryMap.CellKept slot.1 b.memoryMap
        (b.memoryMap.debugCommitRam address value) := by
      have hhigh := syncedRegisters_high hslot
      have hram := syncedRegisters_not_high_ram hslot
      refine .ite (fun hlow => ?_) fun _ => .ite (fun hhram => ?_) fun _ => .refl _
      · refine GameBoyMemoryMap.setCell_cellKept _ ?_ value
        intro heq
        bv_omega
      · refine GameBoyMemoryMap.setCell_cellKept _ ?_ value
        intro heq
        exact hram (heq ▸ hhram)
    unfold Board.debugCommitByte
    refine h.of_kept ?_ ?_
    · rw [invalidateBlockCacheForWrite_memoryMap]
      exact hkept
    · rw [invalidateBlockCacheForWrite_hardware]
  blockCache _ _ _ _ h := ⟨h.short, h.cell⟩

end

theorem write_memoryMap_bootRom (address : Addr) (value : Byte) :
    (b.write address value).memoryMap.bootRom = b.memoryMap.bootRom := by
  obtain ⟨m, hio, hm⟩ := observeWrite_memoryMap
    { b with memoryMap := b.memoryMap.write address value } (resolveEchoAddress address) value
  unfold Board.write
  rw [hm]
  exact hio.bootRom.trans (b.memoryMap.write_bootRom address value)

theorem seedRegister_bootRom (register : Addr × Byte) :
    (b.seedRegister register).memoryMap.bootRom = b.memoryMap.bootRom := by
  obtain ⟨address, value⟩ := register
  unfold seedRegister
  dsimp only
  split
  · refine (writeCached_ioChanged _ _).bootRom.trans ?_
    refine (setIoRegisterRaw_memoryMap_ioChanged _ _ _).bootRom.trans ?_
    exact write_memoryMap_bootRom address _
  · exact write_memoryMap_bootRom address value

/-- A seeded register is synced, and the others stay as they are. -/
theorem seedRegister_synced (hslot : slot ∈ syncedRegisters) (register : Addr × Byte)
    (hshort : b.memoryMap.ShortBoot) (hresolved : resolveEchoAddress register.1 =
      register.1) (h : register.1 = slot.1 ∨ Synced slot b) :
    Synced slot (b.seedRegister register) := by
  obtain ⟨address, value⟩ := register
  have hstart : resolveEchoAddress address = slot.1 ∨ Synced slot
      { b with hardware := b.hardware.syncCachedIoRegisterWrite address value } := by
    rw [hresolved]
    by_cases heq : address = slot.1
    · exact .inl heq
    · right
      have hhardware := Hardware.syncCachedIoRegisterWrite_slot hslot address value b.hardware
      rw [if_neg heq] at hhardware
      exact (h.resolve_left heq).of_kept (.refl _) hhardware
  unfold seedRegister
  dsimp only
  split
  · rename_i htrigger
    have hwritten := write_synced (b := { b with
      hardware := b.hardware.syncCachedIoRegisterWrite address value }) hslot address
      (value &&& 0x7F#8) hshort hstart
    have hne : slot.1 ≠ address := by
      intro heq
      rw [← heq] at htrigger
      simp only [syncedRegisters, List.mem_cons, List.not_mem_nil, or_false] at hslot
      rcases hslot with rfl | rfl | rfl <;> exact absurd htrigger (by decide)
    exact (hwritten.setIoRegisterRaw hne value).writeCached hslot _
  · exact write_synced (b := { b with
      hardware := b.hardware.syncCachedIoRegisterWrite address value }) hslot address value hshort
      hstart

/-- Seeding a list of registers syncs those it names. -/
theorem seed_synced (hslot : slot ∈ syncedRegisters) {registers : List (Addr × Byte)}
    (hresolved : ∀ r ∈ registers, resolveEchoAddress r.1 = r.1) (hshort : b.memoryMap.ShortBoot)
    (h : slot.1 ∈ registers.map (·.1) ∨ Synced slot b) :
    Synced slot (registers.foldl seedRegister b) := by
  induction registers generalizing b with
  | nil => exact h.resolve_left List.not_mem_nil
  | cons register registers ih =>
    have hrest := fun r hr => hresolved r (List.mem_cons_of_mem _ hr)
    have hhead := hresolved register List.mem_cons_self
    have hshort' : (b.seedRegister register).memoryMap.ShortBoot := by
      unfold GameBoyMemoryMap.ShortBoot
      rw [seedRegister_bootRom]
      exact hshort
    refine ih hrest hshort' ?_
    by_cases heq : register.1 = slot.1
    · exact .inr (seedRegister_synced hslot register hshort hhead (.inl heq))
    · rcases h with hmem | h
      · rw [List.map_cons, List.mem_cons] at hmem
        exact .inl (hmem.resolve_left (Ne.symm heq))
      · exact .inr (seedRegister_synced hslot register hshort hhead (.inr h))

theorem shortBoot_stable : Stable fun b => b.memoryMap.ShortBoot where
  write b address value h := by
    unfold GameBoyMemoryMap.ShortBoot
    rw [write_memoryMap_bootRom]
    exact h
  setIoRegisterRaw b address value h :=
    (b.setIoRegisterRaw_memoryMap_ioChanged address value).shortBoot h
  writeCached b f h := (b.writeCached_ioChanged f).shortBoot h
  devices _ _ _ _ _ h := h
  debugCommitByte b address value h := by
    have hsame : (b.memoryMap.debugCommitRam address value).bootRom = b.memoryMap.bootRom := by
      unfold GameBoyMemoryMap.debugCommitRam
      dsimp only
      split_ifs <;> rfl
    unfold Board.debugCommitByte GameBoyMemoryMap.ShortBoot
    rw [invalidateBlockCacheForWrite_memoryMap, hsame]
    exact h
  blockCache _ _ _ _ h := h

theorem seeded_high : ∀ r ∈ kPostBootIoDefaults, resolveEchoAddress r.1 = r.1 := by
  have hall : kPostBootIoDefaults.all (fun r => resolveEchoAddress r.1 == r.1) = true := by decide
  intro r hr
  exact eq_of_beq (List.all_eq_true.mp hall r hr)

section

variable (hslot : slot ∈ syncedRegisters)

include hslot

theorem syncedRegisters_seeded :
    slot.1 ∈ kPostBootIoDefaults.map (·.1) := by
  simp only [syncedRegisters, List.mem_cons, List.not_mem_nil, or_false] at hslot
  rcases hslot with rfl | rfl | rfl <;> decide

theorem resetAudio_synced (h : Synced slot b) :
    Synced slot b.resetAudio := by
  have hne : slot.1 ≠ 0xFF26#16 := fun heq => syncedRegisters_not_raw hslot (heq ▸ by decide)
  have hraw := h.setIoRegisterRaw hne (b.apu.readRegister 0xFF26#16)
  exact ⟨hraw.short, hraw.cell.trans (Hardware.slot_of_apu hslot _ _).symm⟩

/-- A ROM load syncs the registers, whatever the last program left. -/
theorem startRom_synced (b : Board) :
    Synced slot b.startRom := by
  have hreset :
      b.resetSubsystems.installWindows.invalidateAllBlockCache.memoryMap.ShortBoot := by
    have hempty : b.memoryMap.reset.ShortBoot := by
      simp [GameBoyMemoryMap.ShortBoot, GameBoyMemoryMap.reset]
    have hdivider := shortBoot_stable.writeCached
      { b with
        memoryMap := b.memoryMap.reset
        apu := .reset
        input := .reset
        bootEntryPending := false } Hardware.resetDivider hempty
    exact shortBoot_stable.writeCached _ (Hardware.setJoypadState 0x00#8) hdivider
  have hdivider := shortBoot_stable.setIoRegisterRaw _ 0xFF04#16 0x00#8
    (shortBoot_stable.writeCached _ Hardware.resetDivider hreset)
  have hjoypad := shortBoot_stable.writeCached _ (Hardware.setJoypadState 0x00#8) hdivider
  have hstart := shortBoot_stable.setIoRegisterRaw _ 0xFF50#16 0x01#8
    (shortBoot_stable.write _ 0xFF00#16 0xCF#8 hjoypad)
  have hseeded := seed_synced hslot seeded_high hstart (.inl (syncedRegisters_seeded hslot))
  exact resetAudio_synced hslot hseeded

/-- Reading the I/O page back into the cached registers syncs those it reaches. -/
theorem syncRegisters_synced {offsets : List ℕ} (hshort : b.memoryMap.ShortBoot)
    (h : (∃ i ∈ offsets, 0xFF00#16 + BitVec.ofNat 16 i = slot.1) ∨ Synced slot b) :
    Synced slot (offsets.foldl (fun b i =>
      let address : Addr := 0xFF00#16 + BitVec.ofNat 16 i
      b.syncCachedIoRegisterWrite address (b.peek address)) b) := by
  induction offsets generalizing b with
  | nil =>
    refine h.resolve_left ?_
    rintro ⟨i, hi, -⟩
    exact List.not_mem_nil hi
  | cons offset offsets ih =>
    refine ih (shortBoot_stable.writeCached b _ hshort) ?_
    by_cases heq : 0xFF00#16 + BitVec.ofNat 16 offset = slot.1
    · right
      dsimp only
      rw [heq]
      exact synced_of_sync hslot hshort
    · rcases h with ⟨i, hi, hslot'⟩ | h
      · rcases List.mem_cons.mp hi with rfl | hi
        · exact absurd hslot' heq
        · exact .inl ⟨i, hi, hslot'⟩
      · exact .inr (h.writeCached hslot _)

theorem restored_synced (b : Board) {memoryMap : GameBoyMemoryMap}
    (hshort : memoryMap.ShortBoot) (apu : GameBoyAPU) (input : GameBoyInput)
    (bootEntryPending : Bool) : Synced slot (b.restored memoryMap apu input bootEntryPending) := by
  have hraw := shortBoot_stable.setIoRegisterRaw
    { b with
      memoryMap := memoryMap
      apu := apu
      input := input.writeRegister (memoryMap.peek 0xFF00#16)
      bootEntryPending := bootEntryPending } 0xFF00#16
    (input.writeRegister (memoryMap.peek 0xFF00#16)).readRegister hshort
  by_cases hlast : slot.1 = 0xFFFF#16
  · have hsynced := synced_of_sync hslot (shortBoot_stable.syncRegisters (List.range 0x80) hraw)
    rw [hlast] at hsynced
    exact hsynced
  · refine Synced.writeCached hslot (syncRegisters_synced hslot hraw (.inl ?_)) _
    simp only [syncedRegisters, List.mem_cons, List.not_mem_nil, or_false] at hslot
    rcases hslot with rfl | rfl | rfl
    · exact ⟨0x0F, by decide, by decide⟩
    · exact ⟨0x40, by decide, by decide⟩
    · exact absurd rfl hlast

end

end Board

namespace GameBoyMemoryMap

theorem readSection_length {maxSize : ℕ} {state data rest : List Byte} {flag : Bool}
    (h : readSection maxSize state = .ok (flag, data, rest)) : data.length ≤ maxSize := by
  unfold readSection at h
  split at h
  · cases h
  · dsimp only at h
    split_ifs at h with hflag hshort hlarge htruncated
    cases h
    rw [List.length_take]
    omega

/-- An accepted chunk brings a short boot ROM. -/
theorem importState_shortBoot {m m' : GameBoyMemoryMap} {state : List Byte}
    (h : m.importState state = .ok m') : m'.ShortBoot := by
  unfold importState at h
  split at h
  · cases h
  · dsimp only at h
    split at h
    · cases h
    · split at h
      · cases h
      · rename_i hsection
        have hlength := readSection_length hsection
        split at h
        · cases h
        · split at h
          · cases h
          · split at h
            · cases h
            · split_ifs at h
              cases h
              exact hlength

end GameBoyMemoryMap

namespace GameBoyMachine

open Board

def RegistersSynced (m : GameBoyMachine) : Prop :=
  m.board.HoldsLowered ∧ (m.romLoaded → ∀ slot ∈ syncedRegisters, Synced slot m.board)

variable {m m' : GameBoyMachine}

theorem synced_ignoresCache (slot : Addr × (Hardware → Byte)) : IgnoresCache (Synced slot) :=
  fun _ _ h => ⟨h.short, h.cell⟩

theorem retireStep_synced (hslot : slot ∈ syncedRegisters) (hl : m.board.HoldsLowered)
    {exit : Option ExecutionSliceExitReason} (h : m.retireStep = .ok (m', exit))
    (hm : Synced slot m.board) : Synced slot m'.board :=
  retireStep_tended (synced_tended hslot) (synced_ignoresCache slot)
    (fun _ _ hb => hb.writeCached hslot _) hl h hm

/-- Every action keeps the registers synced. -/
theorem act_registersSynced (h : m.RegistersSynced) (a : Action) : (m.act a).RegistersSynced := by
  obtain ⟨hl, hsynced⟩ := h
  refine ⟨act_holdsLowered hl a, ?_⟩
  intro hloaded slot hslot
  have hload : ∀ bytes save m', m.loadRom bytes save = .ok m' → Synced slot m'.board := by
    intro bytes save m' hload
    obtain ⟨-, cartridge, hboard⟩ := loadRom_eq_ok hload
    rw [hboard]
    exact startRom_synced hslot _
  rcases m.act_cases a with hsame | hok
  · rw [hsame] at hloaded ⊢
    exact hsynced hloaded slot hslot
  rcases (perform_romLoaded hl hok).mp hloaded with hm | ⟨bytes, save, rfl⟩
  · have hs := hsynced hm slot hslot
    refine perform_hosted (synced_tended hslot).toHosted hs a ?_
      (fun bytes save m' _ hok => hload bytes save m' hok) ?_ ?_ hok
    · intro m' exit _ hstep
      exact retireStep_synced hslot hl hstep hs
    · intro bytes
      have htaken : (m.board.memoryMap.mapBootRom bytes).ShortBoot := by
        simp [GameBoyMemoryMap.ShortBoot, GameBoyMemoryMap.mapBootRom]
      exact ⟨htaken, hs.cell⟩
    · intro file m' _ hstate
      obtain ⟨-, -, cartridge, mapper, apu, input, memoryMap, -, -, hmap, hboard⟩ :=
        loadState_eq_ok hstate
      have himported := GameBoyMemoryMap.importState_shortBoot hmap
      have hshort : (restoredMemoryMap memoryMap mapper cartridge).ShortBoot := by
        exact himported
      rw [hboard]
      exact restored_synced hslot _ hshort apu input _
  · exact hload bytes save _ hok

theorem powerOn_registersSynced : powerOn.RegistersSynced :=
  ⟨fun _ he => absurd he List.not_mem_nil, fun h => absurd h (by decide)⟩

end GameBoyMachine

end ProtoTime.GameBoy
