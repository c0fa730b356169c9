import ProtoTime.GameBoy.SaveState
import ProtoTime.GameBoy.MachineRuns

/-!
The ROM windows against the mapper: each window is a copy of one bank, refreshed
only when a write reports a change, and a checkpoint restores the switchable
window and the bank registers from different chunks.
-/
namespace ProtoTime.GameBoy

/-- The 16 KiB of a bank; what lies beyond the image reads `0xFF`. -/
def bankBytes (rom : List Byte) (bank : ℕ) : List Byte :=
  (List.range 0x4000).map fun i => rom.getD (bank * 0x4000 + i) 0xFF#8

variable {rom : List Byte} {m : GameBoyMapper}

namespace GameBoyMapper

end GameBoyMapper

namespace GameBoyMapper

end GameBoyMapper

namespace GameBoyMemoryMap

/-- Each window shows the bank the mapper selects for it. -/
structure Mirrors (m : GameBoyMemoryMap) : Prop where
  fixed : m.romWindow0x0000 = ⟨bankBytes m.mapper.romData m.mapper.currentFixedRomBank, true⟩
  switchable : m.romWindow0x4000 = ⟨bankBytes m.mapper.romData m.mapper.currentRomBank, true⟩
  fixed_lt : m.mapper.currentFixedRomBank < m.mapper.romBankCount
  switchable_lt : m.mapper.currentRomBank < m.mapper.romBankCount

/-- A loaded image behind the mapper, and windows that mirror it. -/
def Serves (m : GameBoyMemoryMap) : Prop := (∃ rom, m.mapper.Holds rom) ∧ m.Mirrors

structure SameRom (m m' : GameBoyMemoryMap) : Prop where
  mapper : m'.mapper = m.mapper
  window0 : m'.romWindow0x0000 = m.romWindow0x0000
  window4 : m'.romWindow0x4000 = m.romWindow0x4000

structure SameSlot (m m' : GameBoyMemoryMap) : Prop extends SameRom m m' where
  cartridge : m'.cartridge = m.cartridge

variable {m m' m'' : GameBoyMemoryMap}

theorem SameRom.trans (h : SameRom m m') (h' : SameRom m' m'') : SameRom m m'' :=
  ⟨h'.mapper.trans h.mapper, h'.window0.trans h.window0, h'.window4.trans h.window4⟩

theorem SameSlot.refl (m : GameBoyMemoryMap) : SameSlot m m := ⟨⟨rfl, rfl, rfl⟩, rfl⟩

theorem SameSlot.trans (h : SameSlot m m') (h' : SameSlot m' m'') : SameSlot m m'' :=
  ⟨h.toSameRom.trans h'.toSameRom, h'.cartridge.trans h.cartridge⟩

theorem IoChanged.sameSlot (h : IoChanged m m') : SameSlot m m' :=
  ⟨⟨h.mapper, h.window0, h.window4⟩, h.cartridge⟩

theorem setCell_sameSlot (m : GameBoyMemoryMap) (address : Addr) (value : Byte) :
    SameSlot m (m.setCell address value) := ⟨⟨rfl, rfl, rfl⟩, rfl⟩

theorem performOamDma_sameSlot (m : GameBoyMemoryMap) (sourceHighByte : Byte) :
    SameSlot m (m.performOamDma sourceHighByte) := by
  unfold performOamDma
  generalize List.range 0xA0 = offsets
  induction offsets generalizing m with
  | nil => exact .refl m
  | cons offset offsets ih => exact (m.setCell_sameSlot _ _).trans (ih _)

theorem SameSlot.ite {p : Prop} [Decidable p] (h : SameSlot m m') (h' : SameSlot m m'') :
    SameSlot m (if p then m' else m'') := by
  split
  · exact h
  · exact h'

theorem writeRaw_sameSlot (m : GameBoyMemoryMap) (address : Addr) (value : Byte) :
    SameSlot m (m.writeRaw address value) := by
  have hsame := SameSlot.refl m
  have hcell (a : Addr) (v : Byte) : SameSlot m (m.setCell a v) := m.setCell_sameSlot a v
  have hdma := (hcell address value).trans (performOamDma_sameSlot _ value)
  have hio := SameSlot.ite (p := address = 0xFF46#16 ∧ value ≠ 0xFF#8) hdma
    (.ite (p := address = 0xFF41#16)
      (hcell address ((m.cells address &&& 0x07#8) ||| (value &&& 0x78#8)))
      (.ite (p := address = 0xFF44#16) (hcell address 0x00#8) (hcell address value)))
  exact .ite hsame (.ite hsame (.ite hsame (.ite (hcell _ _) (.ite hsame (.ite (hcell _ _)
    (.ite (hcell _ _) (.ite (hcell _ _) (.ite hsame (.ite (hcell _ _) (.ite hio
      (.ite (hcell _ _) hsame)))))))))))

theorem debugCommitRam_sameSlot (m : GameBoyMemoryMap) (address : Addr) (value : Byte) :
    SameSlot m (m.debugCommitRam address value) := by
  exact .ite (setCell_sameSlot _ _ _) (.ite (setCell_sameSlot _ _ _) (.refl _))

/-- Both banking objects keep the loaded image. -/
theorem write_holds (hmapper : m.mapper.Holds rom)
    (hcartridge : m.cartridge.Holds rom) (address : Addr) (value : Byte) :
    (m.write address value).mapper.Holds rom ∧ (m.write address value).cartridge.Holds rom := by
  have hspecial : (m.handleSpecialWrite (resolveEchoAddress address) value).1.mapper.Holds rom ∧
      (m.handleSpecialWrite (resolveEchoAddress address) value).1.cartridge.Holds rom := by
    generalize resolveEchoAddress address = resolved
    have hwritten := GameBoyMapper.write_holds hmapper ⟨resolved, value⟩
    unfold handleSpecialWrite
    split_ifs with hrom hboot hram
    · dsimp only at hwritten ⊢
      split_ifs <;> exact ⟨hwritten, hcartridge⟩
    · have hsame := ({ m with bootRomActive := false }.setIoRegisterRaw_ioChanged 0xFF50#16
        value).sameSlot
      exact ⟨hmapper, hcartridge⟩
    · exact ⟨hmapper, GameBoyCartridge.write_holds hcartridge ⟨resolved, value⟩⟩
    · exact ⟨hmapper, hcartridge⟩
  unfold write
  dsimp only
  generalize m.handleSpecialWrite (resolveEchoAddress address) value = special at hspecial
  obtain ⟨m', handled⟩ := special
  split
  · exact hspecial
  · rw [(writeRaw_sameSlot _ _ _).mapper, (writeRaw_sameSlot _ _ _).cartridge]
    exact hspecial

theorem readSection_sectionBytes {maxSize : ℕ} (hmax : maxSize < 2 ^ 32) (flag : Bool)
    {data : List Byte} (hdata : data.length ≤ maxSize) (rest : List Byte) :
    readSection maxSize (sectionBytes flag data ++ rest) = .ok (flag, data, rest) := by
  have hlength : u32OfBytes (u32Bytes (BitVec.ofNat 32 data.length) ++ (data ++ rest)) =
      data.length := by
    rw [u32OfBytes_u32Bytes, BitVec.toNat_ofNat, Nat.mod_eq_of_lt (by omega)]
  have hdrop : (u32Bytes (BitVec.ofNat 32 data.length) ++ (data ++ rest)).drop 4 = data ++ rest :=
    rfl
  have hflag : ¬ (if flag then 1#8 else 0#8) > 1#8 := by cases flag <;> decide
  have hback : ((if flag then 1#8 else 0#8) != 0#8) = flag := by cases flag <;> rfl
  unfold sectionBytes
  rw [List.append_assoc, List.cons_append, readSection]
  simp only [if_neg hflag, hlength, hdrop]
  rw [if_neg (by simp [u32Bytes]), if_neg (by omega), if_neg (by simp)]
  simpa using hback

theorem region_length (m : GameBoyMemoryMap) (base size : ℕ) :
    (m.region base size).length = size := by
  rw [region, List.length_map, List.length_range]

theorem sectionBytes_length (flag : Bool) (data : List Byte) :
    (sectionBytes flag data).length = 5 + data.length := by
  simp [sectionBytes, u32Bytes]
  omega

structure Exportable (m : GameBoyMemoryMap) : Prop where
  boot_length : m.bootRom.length ≤ 0x100
  boot_nonempty : m.bootRomActive → m.bootRom ≠ []
  fixed : m.romWindow0x0000.data.length = if m.romWindow0x0000.active then 0x4000 else 0
  switchable : m.romWindow0x4000.data.length = if m.romWindow0x4000.active then 0x4000 else 0

/-- A memory-map chunk is read back as it was written. -/
theorem importState_exportState {m : GameBoyMemoryMap} (h : m.Exportable) (n : GameBoyMemoryMap) :
    n.importState m.exportState = .ok { n with
      cells := cellsOf (m.region 0x8000 0x2000 ++ m.region 0xC000 0x2000 ++ m.region 0xFE00 0xA0 ++
        m.region 0xFF00 0x80 ++ m.region 0xFF80 0x80)
      bootRom := m.bootRom
      bootRomActive := m.bootRomActive
      romWindow0x0000 := m.romWindow0x0000
      romWindow0x4000 := m.romWindow0x4000 } := by
  have harrays : (m.region 0x8000 0x2000 ++ m.region 0xC000 0x2000 ++ m.region 0xFE00 0xA0 ++
      m.region 0xFF00 0x80 ++ m.region 0xFF80 0x80).length = fixedPayloadSize := by
    simp only [List.length_append, region_length]
    rfl
  generalize hfixed : m.region 0x8000 0x2000 ++ m.region 0xC000 0x2000 ++ m.region 0xFE00 0xA0 ++
    m.region 0xFF00 0x80 ++ m.region 0xFF80 0x80 = arrays at harrays ⊢
  have hwindow (w : RomWindow) (hw : w.data.length = if w.active then 0x4000 else 0) :
      w.data.length ≤ 0x4000 ∧ importedWindow w.active w.data = w := by
    obtain ⟨data, active⟩ := w
    cases active with
    | false => exact ⟨by simp_all, by simp_all [importedWindow]⟩
    | true => exact ⟨by simp_all, rfl⟩
  obtain ⟨hlen0, hwin0⟩ := hwindow _ h.fixed
  obtain ⟨hlen4, hwin4⟩ := hwindow _ h.switchable
  have hchunk : m.exportState =
      (sectionBytes m.bootRomActive m.bootRom ++
        (sectionBytes m.romWindow0x0000.active m.romWindow0x0000.data ++
          (sectionBytes m.romWindow0x4000.active m.romWindow0x4000.data ++ arrays))) ++
      u32Bytes (crc32 (sectionBytes m.bootRomActive m.bootRom ++
        (sectionBytes m.romWindow0x0000.active m.romWindow0x0000.data ++
          (sectionBytes m.romWindow0x4000.active m.romWindow0x4000.data ++ arrays)))) := by
    rw [← hfixed]
    simp only [exportState, List.append_assoc]
  rw [hchunk]
  generalize hp : sectionBytes m.bootRomActive m.bootRom ++
    (sectionBytes m.romWindow0x0000.active m.romWindow0x0000.data ++
      (sectionBytes m.romWindow0x4000.active m.romWindow0x4000.data ++ arrays)) = payload
  have hlength : payload.length = 15 + m.bootRom.length + m.romWindow0x0000.data.length +
      m.romWindow0x4000.data.length + fixedPayloadSize := by
    rw [← hp]
    simp only [List.length_append, sectionBytes_length, harrays]
    omega
  have hcrc : (payload ++ u32Bytes (crc32 payload)).length - 4 = payload.length := by
    rw [List.length_append]
    rfl
  unfold importState
  rw [if_neg (by rw [List.length_append]; simp [u32Bytes]; omega), hcrc, List.take_left,
    List.drop_left]
  dsimp only
  have hword : u32OfBytes (u32Bytes (crc32 payload)) = (crc32 payload).toNat := by
    simpa using u32OfBytes_u32Bytes (crc32 payload) []
  rw [if_neg (not_not.mpr hword), ← hp, readSection_sectionBytes (by decide) _ h.boot_length]
  dsimp only
  rw [if_neg (by simpa using h.boot_nonempty), readSection_sectionBytes (by decide) _ hlen0]
  dsimp only
  rw [readSection_sectionBytes (by decide) _ hlen4]
  dsimp only
  rw [if_neg, if_neg (by omega), if_neg (by omega), hwin0, hwin4]
  rintro (⟨hactive, hne⟩ | ⟨hactive, hne⟩)
  · rw [h.fixed, if_pos hactive] at hne
    exact hne rfl
  · rw [h.switchable, if_pos hactive] at hne
    exact hne rfl

end GameBoyMemoryMap

namespace Board

open GameBoyMemoryMap

/-- Both banking objects keep the loaded image. -/
theorem holdsRom_stable (rom : List Byte) : Stable fun b =>
    b.memoryMap.mapper.Holds rom ∧ b.memoryMap.cartridge.Holds rom where
  write b address value h := by
    obtain ⟨hmapper, hcartridge⟩ := h
    have hwritten := write_holds hmapper hcartridge address value
    obtain ⟨m, hio, hm⟩ := observeWrite_memoryMap
      { b with memoryMap := b.memoryMap.write address value } (resolveEchoAddress address) value
    unfold Board.write
    rw [hm]
    refine ⟨by rw [hio.mapper]; exact hwritten.1, ?_⟩
    split
    · exact GameBoyCartridge.write_holds hwritten.2 ⟨resolveEchoAddress address, value⟩
    · exact hwritten.2
  setIoRegisterRaw b address value h := by
    have hsame := (b.setIoRegisterRaw_memoryMap_ioChanged address value).sameSlot
    rwa [hsame.mapper, hsame.cartridge]
  writeCached b f h := by
    have hsame := (b.writeCached_ioChanged f).sameSlot
    rwa [hsame.mapper, hsame.cartridge]
  devices _ _ _ _ _ h := h
  debugCommitByte b address value h := by
    have hsame := b.memoryMap.debugCommitRam_sameSlot address value
    unfold Board.debugCommitByte
    rw [invalidateBlockCacheForWrite_memoryMap]
    rwa [hsame.mapper, hsame.cartridge]
  blockCache _ _ _ _ h := h

theorem resetSubsystems_sameChips (b : Board) :
    b.resetSubsystems.memoryMap.mapper = b.memoryMap.mapper ∧
      b.resetSubsystems.memoryMap.cartridge = b.memoryMap.cartridge := by
  have hcached (b : Board) (f : Hardware → Hardware) : SameSlot b.memoryMap
      (b.writeCached f).memoryMap := (b.writeCached_ioChanged f).sameSlot
  have hreset := hcached
    { b with
      memoryMap := b.memoryMap.reset
      apu := .reset
      input := .reset
      bootEntryPending := false } Hardware.resetDivider
  have hsame := hreset.trans (hcached _ (Hardware.setJoypadState 0x00#8))
  exact ⟨hsame.mapper, hsame.cartridge⟩

end Board

namespace GameBoyMachine

open Board GameBoyMemoryMap Core

variable {m m' : GameBoyMachine}

/-- A ROM that fits is loaded into both banking objects. -/
theorem act_loadRom (m : GameBoyMachine) {bytes : List Byte} (hne : bytes ≠ [])
    (hsize : bytes.length ≤ kMaxRomSize) :
    (m.act (.loadRom bytes none)).romLoaded ∧
      (m.act (.loadRom bytes none)).board.memoryMap.mapper.Holds bytes ∧
      (m.act (.loadRom bytes none)).board.memoryMap.cartridge.Holds bytes := by
  have hload : ∃ m', m.loadRom bytes none = .ok m' ∧ m'.romLoaded ∧ m'.board =
      (m.board.insertCartridge (GameBoyCartridge.fresh bytes) bytes).startRom := by
    unfold loadRom
    rw [if_neg (by simpa using hne), if_neg (Nat.not_lt.mpr hsize),
      GameBoyCartridge.load_eq bytes hne]
    exact ⟨_, rfl, rfl, rfl⟩
  obtain ⟨m', hm', hloaded, hboard⟩ := hload
  have hact : m.act (.loadRom bytes none) = m' := by
    unfold act
    rw [perform, hm']
  rw [hact]
  refine ⟨hloaded, ?_⟩
  rw [hboard]
  refine (holdsRom_stable bytes).startRom ?_
  have hchips := resetSubsystems_sameChips
    (m.board.insertCartridge (GameBoyCartridge.fresh bytes) bytes)
  refine ⟨?_, ?_⟩
  · change (GameBoyMapper.Holds bytes (resetSubsystems _).memoryMap.mapper)
    rw [hchips.1]
    exact GameBoyMapper.load_holds _ _
  · change (GameBoyCartridge.Holds bytes (resetSubsystems _).memoryMap.cartridge)
    rw [hchips.2]
    exact GameBoyCartridge.fresh_holds hne

end GameBoyMachine

end ProtoTime.GameBoy
