import ProtoTime.GameBoy.BusRelation
import ProtoTime.GameBoy.RomStart
import ProtoTime.GameBoy.RomWindows

/-!
Two machines that load the same ROM. Their boards differ in fewer and fewer
cells while the startup registers are seeded, and in none afterwards; what is
left of the earlier programs is what the processor keeps of them.
-/
namespace ProtoTime.GameBoy

open Core Results

namespace Board

/-- The boards show the same, except for some cells and the mapper. -/
structure SameView (differing : Addr → Prop) (b b' : Board) : Prop where
  rest : b'.memoryMap = { b.memoryMap with
    cells := b'.memoryMap.cells, mapper := b'.memoryMap.mapper }
  cells : ∀ a, ¬ differing a → b'.memoryMap.cells a = b.memoryMap.cells a
  input : b'.input = b.input
  apu : b'.apu = b.apu
  bootEntryPending : b'.bootEntryPending = b.bootEntryPending
  short : b.memoryMap.ShortBoot

variable {address : Addr}

namespace SameView

variable {differing differing' : Addr → Prop} {b b' c c' : Board}

section

variable (h : SameView differing b b')

include h

theorem mono (hsub : ∀ a, differing a → differing' a) :
    SameView differing' b b' :=
  ⟨h.rest, fun a ha => h.cells a fun hd => ha (hsub a hd), h.input, h.apu, h.bootEntryPending,
    h.short⟩

theorem bootRom : b'.memoryMap.bootRom = b.memoryMap.bootRom := by
  rw [h.rest]

theorem short' : b'.memoryMap.ShortBoot := by
  unfold GameBoyMemoryMap.ShortBoot
  rw [h.bootRom]
  exact h.short

theorem setIoRegisterRaw (hio : IsIoCell address)
    (value : Byte) : SameView (fun a => differing a ∧ a ≠ address)
      (b.setIoRegisterRaw address value) (b'.setIoRegisterRaw address value) := by
  have hb := b.setIoRegisterRaw_memoryMap_ioChanged address value
  have hb' := b'.setIoRegisterRaw_memoryMap_ioChanged address value
  refine ⟨?_, ?_, h.input, h.apu, h.bootEntryPending, hb.shortBoot h.short⟩
  · rw [hb'.rest, hb.rest, h.rest]
  · intro a ha
    change (b'.memoryMap.setIoRegisterRaw address value).cells a =
      (b.memoryMap.setIoRegisterRaw address value).cells a
    rw [GameBoyMemoryMap.setIoRegisterRaw_cells, GameBoyMemoryMap.setIoRegisterRaw_cells]
    by_cases heq : a = address
    · rw [if_pos ⟨heq, hio⟩, if_pos ⟨heq, hio⟩]
    · rw [if_neg fun hand => heq hand.1, if_neg fun hand => heq hand.1]
      exact h.cells a fun hd => ha ⟨hd, heq⟩

theorem writeCached {f : Hardware → Hardware} {registers : List Addr}
    (hf : ∀ g : Hardware, ∀ slot ∈ Hardware.cachedRegisters, slot.1 ∉ registers →
      slot.2 (f g) = slot.2 g) :
    SameView (fun a => differing a ∨ a ∈ registers) (b.writeCached f) (b'.writeCached f) := by
  have hcells (b : Board) (a : Addr) (ha : a ∉ registers) :
      (b.writeCached f).memoryMap.cells a = b.memoryMap.cells a := by
    by_cases hcached : a ∈ Hardware.cachedRegisters.map (·.1)
    · obtain ⟨slot, hslot, rfl⟩ := List.mem_map.mp hcached
      rw [b.writeCached_cells hslot f, if_pos (hf b.hardware slot hslot ha).symm]
    · exact Hardware.foldl_publishSlot_of_not_mem b.memoryMap hcached
  have hb := b.writeCached_ioChanged f
  have hb' := b'.writeCached_ioChanged f
  refine ⟨?_, ?_, h.input, h.apu, h.bootEntryPending, hb.shortBoot h.short⟩
  · rw [hb'.rest, hb.rest, h.rest]
  · intro a ha
    rw [not_or] at ha
    rw [hcells b a ha.2, hcells b' a ha.2]
    exact h.cells a ha.1

theorem of_eq (hb : c.memoryMap = b.memoryMap) (hinput : c.input = b.input) (hapu : c.apu = b.apu)
    (hboot : c.bootEntryPending = b.bootEntryPending) (hb' : c'.memoryMap = b'.memoryMap)
    (hinput' : c'.input = b'.input) (hapu' : c'.apu = b'.apu)
    (hboot' : c'.bootEntryPending = b'.bootEntryPending) : SameView differing c c' := by
  refine ⟨?_, ?_, ?_, ?_, ?_, ?_⟩
  · rw [hb', hb]
    exact h.rest
  · rw [hb', hb]
    exact h.cells
  · rw [hinput', hinput, h.input]
  · rw [hapu', hapu, h.apu]
  · rw [hboot', hboot, h.bootEntryPending]
  · rw [hb]
    exact h.short

end

end SameView

theorem writeCached_memoryMap_of_slots (b : Board) {f : Hardware → Hardware}
    (h : ∀ slot ∈ Hardware.cachedRegisters, slot.2 (f b.hardware) = slot.2 b.hardware ∨
      slot.2 (f b.hardware) = b.memoryMap.cells slot.1) :
    (b.writeCached f).memoryMap = b.memoryMap := by
  have hcells : (b.writeCached f).memoryMap.cells = b.memoryMap.cells := by
    funext a
    by_cases hcached : a ∈ Hardware.cachedRegisters.map (·.1)
    · obtain ⟨slot, hslot, rfl⟩ := List.mem_map.mp hcached
      rw [b.writeCached_cells hslot f]
      split
      · rfl
      · rename_i hne
        exact (h slot hslot).resolve_left fun heq => hne heq.symm
    · exact Hardware.foldl_publishSlot_of_not_mem b.memoryMap hcached
  rw [(b.writeCached_ioChanged f).rest, hcells]

theorem syncPeek_memoryMap (b : Board) (hshort : b.memoryMap.ShortBoot)
    (hhigh : 0xFF00#16 ≤ address) :
    (b.syncCachedIoRegisterWrite address (b.peek address)).memoryMap = b.memoryMap := by
  unfold syncCachedIoRegisterWrite
  rw [resolveEchoAddress_of_high hhigh]
  refine b.writeCached_memoryMap_of_slots ?_
  intro slot hslot
  rcases Hardware.syncCachedIoRegisterWrite_slots address (b.peek address) b.hardware slot hslot
    with hsame | ⟨rfl, hvalue⟩
  · exact .inl hsame
  · right
    rw [hvalue]
    exact b.memoryMap.peek_of_high hshort hhigh

/-- What a register cell takes from a write. -/
def registerImage (m : GameBoyMemoryMap) (address : Addr) (value : Byte) : Byte :=
  if address = 0xFF41#16 then (m.cells address &&& 0x07#8) ||| (value &&& 0x78#8)
  else if address = 0xFF44#16 then 0x00#8
  else value

/-- A write to a register that starts no transfer sets its cell. -/
theorem memoryMap_write_register (m : GameBoyMemoryMap) (hio : IsIoCell address)
    (hboot : address ≠ 0xFF50#16) {value : Byte} (hdma : address = 0xFF46#16 → value = 0xFF#8) :
    m.write address value = m.setCell address (registerImage m address value) := by
  have hhigh : 0xFF00#16 ≤ address := by
    rcases hio with h | rfl
    · exact h.1
    · decide
  have hspecial : m.handleSpecialWrite address value = (m, false) := by
    unfold GameBoyMemoryMap.handleSpecialWrite
    rw [if_neg (by bv_omega), if_neg fun hand => hboot hand.1, if_neg (by bv_omega)]
  unfold GameBoyMemoryMap.write
  rw [resolveEchoAddress_of_high hhigh]
  dsimp only
  rw [hspecial]
  dsimp only
  rw [if_neg (by decide)]
  unfold GameBoyMemoryMap.writeRaw registerImage
  rw [if_neg hboot, if_neg (by bv_omega), if_neg (by bv_omega), if_neg (by bv_omega),
    if_neg (by bv_omega), if_neg (by bv_omega), if_neg (by bv_omega), if_neg (by bv_omega),
    if_neg (by bv_omega)]
  rcases hio with h | rfl
  · rw [if_neg (by bv_omega), if_pos h, if_neg fun hand => hand.2 (hdma hand.1)]
    by_cases hstat : address = 0xFF41#16
    · rw [if_pos hstat, if_pos hstat]
    · rw [if_neg hstat, if_neg hstat]
      by_cases hly : address = 0xFF44#16
      · rw [if_pos hly, if_pos hly]
      · rw [if_neg hly, if_neg hly]
  · rfl

namespace SameView

variable {differing : Addr → Prop} {b b' : Board} {address : Addr}

theorem memoryMap_write (h : SameView differing b b') (hio : IsIoCell address)
    (hboot : address ≠ 0xFF50#16) {value : Byte} (hdma : address = 0xFF46#16 → value = 0xFF#8)
    (hstat : address = 0xFF41#16 → ¬ differing address) :
    SameView (fun a => differing a ∧ a ≠ address)
      { b with memoryMap := b.memoryMap.write address value }
      { b' with memoryMap := b'.memoryMap.write address value } := by
  have himage : registerImage b'.memoryMap address value =
      registerImage b.memoryMap address value := by
    unfold registerImage
    split
    · rename_i heq
      rw [h.cells address (hstat heq)]
    · rfl
  have hwrite := memoryMap_write_register b.memoryMap hio hboot hdma
  have hwrite' := memoryMap_write_register b'.memoryMap hio hboot hdma
  refine ⟨?_, ?_, h.input, h.apu, h.bootEntryPending, ?_⟩
  · rw [hwrite, hwrite', h.rest]
    rfl
  · intro a ha
    rw [hwrite, hwrite', himage, GameBoyMemoryMap.setCell_cells, GameBoyMemoryMap.setCell_cells]
    split
    · rfl
    · rename_i hne
      exact h.cells a fun hd => ha ⟨hd, hne⟩
  · unfold GameBoyMemoryMap.ShortBoot
    dsimp only
    rw [GameBoyMemoryMap.write_bootRom]
    exact h.short

theorem observeJoypad (h : SameView differing b b') (value : Byte) :
    SameView differing (b.observeJoypad value) (b'.observeJoypad value) := by
  have hsync (b : Board) (value : Byte) :
      (b.syncCachedIoRegisterWrite 0xFF00#16 value).memoryMap = b.memoryMap :=
    b.writeCached_memoryMap_of_slots fun _ _ => .inl rfl
  have hinput : SameView differing { b with input := b.input.writeRegister value }
      { b' with input := b'.input.writeRegister value } :=
    ⟨h.rest, h.cells, congrArg (·.writeRegister value) h.input, h.apu, h.bootEntryPending, h.short⟩
  have hregister : (b'.input.writeRegister value).readRegister =
      (b.input.writeRegister value).readRegister := by
    rw [h.input]
  have hraw := hinput.setIoRegisterRaw (show IsIoCell 0xFF00#16 by decide)
    (b.input.writeRegister value).readRegister
  unfold Board.observeJoypad
  dsimp only
  rw [hregister]
  exact (hraw.mono fun a ha => ha.1).of_eq (hsync _ _) rfl rfl rfl (hsync _ _) rfl rfl rfl

theorem observeAudio (h : SameView differing b b') (address : Addr) (value : Byte) :
    SameView differing (b.observeAudio address value) (b'.observeAudio address value) := by
  have hapu : SameView differing { b with apu := b.apu.writeRegister address value }
      { b' with apu := b'.apu.writeRegister address value } :=
    ⟨h.rest, h.cells, h.input, congrArg (·.writeRegister address value) h.apu, h.bootEntryPending,
      h.short⟩
  have hregister : (b'.apu.writeRegister address value).readRegister 0xFF26#16 =
      (b.apu.writeRegister address value).readRegister 0xFF26#16 := by
    rw [h.apu]
  unfold Board.observeAudio
  dsimp only
  rw [hregister]
  exact (hapu.setIoRegisterRaw (by decide) _).mono fun a ha => ha.1

theorem invalidated (b : Board) (address : Addr) :
    (b.invalidateBlockCacheForWrite address).input = b.input ∧
      (b.invalidateBlockCacheForWrite address).apu = b.apu ∧
      (b.invalidateBlockCacheForWrite address).bootEntryPending = b.bootEntryPending := by
  unfold invalidateBlockCacheForWrite
  dsimp only
  split_ifs <;> exact ⟨rfl, rfl, rfl⟩

/-- The observer of a register write keeps two boards alike. -/
theorem observeWrite (h : SameView differing b b') (hio : IsIoCell address)
    (hboot : address ≠ 0xFF50#16) (value : Byte) :
    SameView differing (b.observeWrite address value) (b'.observeWrite address value) := by
  have hhigh : 0xFF00#16 ≤ address := by
    rcases hio with h | rfl
    · exact h.1
    · decide
  have hsync (b : Board) (hshort : b.memoryMap.ShortBoot) :
      ((b.invalidateBlockCacheForWrite address).syncCachedIoRegisterWrite address
        (b.peek address)).memoryMap = b.memoryMap := by
    have hinvalidated := b.invalidateBlockCacheForWrite_memoryMap address
    have hpeek : b.peek address = (b.invalidateBlockCacheForWrite address).peek address := by
      unfold Board.peek
      rw [hinvalidated]
    rw [hpeek, syncPeek_memoryMap _ (by rw [hinvalidated]; exact hshort) hhigh, hinvalidated]
  obtain ⟨hinput, hapu, hpending⟩ := invalidated b address
  obtain ⟨hinput', hapu', hpending'⟩ := invalidated b' address
  have hsynced := h.of_eq (hsync b h.short) hinput hapu hpending (hsync b' h.short') hinput' hapu'
    hpending'
  have hio' : (0xFF00#16 ≤ address ∧ address < 0xFF80#16) ∨ address = 0xFFFF#16 := hio
  unfold Board.observeWrite
  dsimp only
  rw [if_pos hio', if_pos hio']
  generalize (b.invalidateBlockCacheForWrite address).syncCachedIoRegisterWrite address
    (b.peek address) = c at hsynced ⊢
  generalize (b'.invalidateBlockCacheForWrite address).syncCachedIoRegisterWrite address
    (b'.peek address) = c' at hsynced ⊢
  have hjoypad : SameView differing
      (if address = 0xFF00#16 then c.observeJoypad value else c)
      (if address = 0xFF00#16 then c'.observeJoypad value else c') := by
    split
    · exact hsynced.observeJoypad value
    · exact hsynced
  generalize (if address = 0xFF00#16 then c.observeJoypad value else c) = d at hjoypad ⊢
  generalize (if address = 0xFF00#16 then c'.observeJoypad value else c') = d' at hjoypad ⊢
  have hchips : ¬ (address < 0x8000#16 ∨ (0xA000#16 ≤ address ∧ address < 0xC000#16)) := by
    bv_omega
  have hoff : ¬ (address = 0xFF50#16 ∧ value ≠ 0) := fun hand => hboot hand.1
  rw [if_neg hchips, if_neg hchips, if_neg hoff, if_neg hoff]
  split
  · exact hjoypad.observeAudio address value
  · exact hjoypad

theorem write (h : SameView differing b b') (hio : IsIoCell address)
    (hboot : address ≠ 0xFF50#16) (value : Byte) (hdma : address = 0xFF46#16 → value = 0xFF#8)
    (hstat : address = 0xFF41#16 → ¬ differing address) :
    SameView (fun a => differing a ∧ a ≠ address) (b.write address value)
      (b'.write address value) := by
  have hresolved : resolveEchoAddress address = address := by
    refine resolveEchoAddress_of_high ?_
    rcases hio with h | rfl
    · exact h.1
    · decide
  unfold Board.write
  rw [hresolved]
  exact (h.memoryMap_write hio hboot hdma hstat).observeWrite hio hboot value

/-- The startup image of a register that starts no transfer. -/
structure Seedable (differing : Addr → Prop) (register : Addr × Byte) : Prop where
  io : IsIoCell register.1
  boot : register.1 ≠ 0xFF50#16
  dma : register.1 = 0xFF46#16 → register.2 = 0xFF#8
  stat : register.1 = 0xFF41#16 → ¬ differing register.1

theorem seedRegister (h : SameView differing b b') {register : Addr × Byte}
    (hregister : Seedable differing register) :
    SameView (fun a => differing a ∧ a ≠ register.1) (b.seedRegister register)
      (b'.seedRegister register) := by
  obtain ⟨address, value⟩ := register
  obtain ⟨hio, hboot, hdma, hstat⟩ := hregister
  dsimp only at hio hboot hdma hstat ⊢
  have hsynced : SameView differing
      { b with hardware := b.hardware.syncCachedIoRegisterWrite address value }
      { b' with hardware := b'.hardware.syncCachedIoRegisterWrite address value } :=
    ⟨h.rest, h.cells, h.input, h.apu, h.bootEntryPending, h.short⟩
  unfold Board.seedRegister
  dsimp only
  split
  · rename_i htrigger
    have hne : address ≠ 0xFF46#16 ∧ address ≠ 0xFF41#16 := by
      constructor <;> rintro rfl <;> exact absurd htrigger (by decide)
    have hwritten := (hsynced.write hio hboot (value &&& 0x7F#8)
      (fun heq => absurd heq hne.1) hstat).setIoRegisterRaw hio value
    have hsync (b : Board) : (b.syncCachedIoRegisterWrite address value).memoryMap =
        b.memoryMap := by
      refine b.writeCached_memoryMap_of_slots fun slot hslot => ?_
      have hcached : address ∉ Hardware.cachedRegisters.map (·.1) := by
        unfold isTriggerRegister at htrigger
        simp only [List.mem_cons, List.not_mem_nil, or_false, decide_eq_true_eq] at htrigger
        rcases htrigger with rfl | rfl | rfl | rfl <;> decide
      have hhigh : 0xFF00#16 ≤ address := by
        rcases hio with h | rfl
        · exact h.1
        · decide
      rw [resolveEchoAddress_of_high hhigh]
      rcases Hardware.syncCachedIoRegisterWrite_slots address value b.hardware slot hslot with
        hsame | ⟨rfl, -⟩
      · exact .inl hsame
      · exact absurd (List.mem_map_of_mem hslot) hcached
    exact (hwritten.mono fun a ha => ha.1).of_eq (hsync _) rfl rfl rfl (hsync _) rfl rfl rfl
  · exact hsynced.write hio hboot value hdma hstat

theorem seedRegisters (registers : List (Addr × Byte)) (h : SameView differing b b')
    (hregisters : ∀ r ∈ registers, Seedable differing r) :
    SameView (fun a => differing a ∧ a ∉ registers.map (·.1))
      (registers.foldl Board.seedRegister b) (registers.foldl Board.seedRegister b') := by
  induction registers generalizing differing b b' with
  | nil => exact h.mono fun a ha => ⟨ha, List.not_mem_nil⟩
  | cons register registers ih =>
    have hhead := h.seedRegister (hregisters register List.mem_cons_self)
    have hrest := ih hhead fun r hr => by
      obtain ⟨hio, hboot, hdma, hstat⟩ := hregisters r (List.mem_cons_of_mem _ hr)
      exact ⟨hio, hboot, hdma, fun heq hd => hstat heq hd.1⟩
    refine hrest.mono fun a ha => ⟨ha.1.1, ?_⟩
    rw [List.map_cons, List.mem_cons, not_or]
    exact ⟨ha.1.2, ha.2⟩

theorem resetDivider (h : SameView (· ∈ [0xFF00#16, 0xFF04#16, 0xFF05#16, 0xFF0F#16]) b b') :
    SameView (· ∈ [0xFF00#16, 0xFF04#16, 0xFF05#16, 0xFF0F#16]) b.resetDivider b'.resetDivider := by
  refine (h.writeCached Hardware.resetDivider_slots).mono ?_
  intro a ha
  rcases ha with ha | ha
  · exact ha
  · exact List.mem_cons_of_mem _ ha

theorem setJoypadState {registers : List Addr} (h : SameView (· ∈ registers) b b')
    (hregisters : [0xFF00#16, 0xFF0F#16] ⊆ registers) (pressedMask : Byte) :
    SameView (· ∈ registers) (b.setJoypadState pressedMask) (b'.setJoypadState pressedMask) := by
  refine (h.writeCached (Hardware.setJoypadState_slots pressedMask)).mono ?_
  intro a ha
  rcases ha with ha | ha
  · exact ha
  · exact hregisters ha

theorem clearDivider (h : SameView (· ∈ [0xFF00#16, 0xFF04#16, 0xFF05#16, 0xFF0F#16]) b b') :
    SameView (· ∈ [0xFF00#16, 0xFF05#16, 0xFF0F#16])
      (b.resetDivider.setIoRegisterRaw 0xFF04#16 0x00#8)
      (b'.resetDivider.setIoRegisterRaw 0xFF04#16 0x00#8) := by
  refine (h.resetDivider.setIoRegisterRaw (show IsIoCell 0xFF04#16 by decide) 0x00#8).mono ?_
  rintro a ⟨ha, hne⟩
  simp only [List.mem_cons, List.not_mem_nil, or_false] at ha ⊢
  tauto

theorem selectJoypad (h : SameView (· ∈ [0xFF00#16, 0xFF05#16, 0xFF0F#16]) b b') :
    SameView (· ∈ [0xFF05#16, 0xFF0F#16])
      ((b.write 0xFF00#16 0xCF#8).setIoRegisterRaw 0xFF50#16 0x01#8)
      ((b'.write 0xFF00#16 0xCF#8).setIoRegisterRaw 0xFF50#16 0x01#8) := by
  have hwritten := h.write (show IsIoCell 0xFF00#16 by decide) (by decide) 0xCF#8
    (fun heq => absurd heq (by decide)) (fun heq => absurd heq (by decide))
  refine (hwritten.setIoRegisterRaw (show IsIoCell 0xFF50#16 by decide) 0x01#8).mono ?_
  rintro a ⟨⟨ha, hne⟩, -⟩
  simp only [List.mem_cons, List.not_mem_nil, or_false] at ha ⊢
  tauto

theorem installWindows (h : SameView differing b b')
    (hfixed : b'.memoryMap.mapper.copyRomBankWindow b'.memoryMap.mapper.currentFixedRomBank =
      b.memoryMap.mapper.copyRomBankWindow b.memoryMap.mapper.currentFixedRomBank)
    (hswitchable : b'.memoryMap.mapper.copyRomBankWindow b'.memoryMap.mapper.currentRomBank =
      b.memoryMap.mapper.copyRomBankWindow b.memoryMap.mapper.currentRomBank) :
    SameView differing b.installWindows b'.installWindows := by
  refine ⟨?_, h.cells, h.input, h.apu, h.bootEntryPending, h.short⟩
  unfold Board.installWindows GameBoyMemoryMap.installRomWindow0x0000
    GameBoyMemoryMap.installRomWindow0x4000
  dsimp only
  rw [hfixed, hswitchable, h.rest]

theorem seedable_defaults :
    ∀ r ∈ kPostBootIoDefaults, Seedable (· ∈ [0xFF05#16, 0xFF0F#16]) r := by
  have hall : kPostBootIoDefaults.all (fun r => decide (IsIoCell r.1 ∧ r.1 ≠ 0xFF50#16 ∧
      (r.1 = 0xFF46#16 → r.2 = 0xFF#8) ∧
      (r.1 = 0xFF41#16 → r.1 ∉ [0xFF05#16, 0xFF0F#16]))) = true := by decide
  intro r hr
  obtain ⟨hio, hboot, hdma, hstat⟩ := of_decide_eq_true (List.all_eq_true.mp hall r hr)
  exact ⟨hio, hboot, hdma, hstat⟩

theorem resetAudio (h : SameView (fun _ => False) b b') :
    SameView (fun _ => False) b.resetAudio b'.resetAudio := by
  have hregister : b'.apu.readRegister 0xFF26#16 = b.apu.readRegister 0xFF26#16 := by
    rw [h.apu]
  have hraw := (h.setIoRegisterRaw (show IsIoCell 0xFF26#16 by decide)
    (b.apu.readRegister 0xFF26#16)).mono fun a ha => ha.1
  unfold Board.resetAudio
  rw [hregister]
  exact ⟨hraw.rest, hraw.cells, hraw.input, hraw.apu, hraw.bootEntryPending, hraw.short⟩

theorem seedAll (h : SameView (· ∈ [0xFF00#16, 0xFF05#16, 0xFF0F#16]) b b') :
    SameView (fun _ => False) b.seedRegisters b'.seedRegisters := by
  have hseeded := h.selectJoypad.seedRegisters kPostBootIoDefaults seedable_defaults
  have hall : ∀ a ∈ [0xFF05#16, 0xFF0F#16], a ∈ kPostBootIoDefaults.map (·.1) := by
    intro a ha
    simp only [List.mem_cons, List.not_mem_nil, or_false] at ha
    rcases ha with rfl | rfl <;> decide
  exact (hseeded.mono fun a ha => ha.2 (hall a ha.1)).resetAudio

theorem exportState (h : SameView (fun _ => False) b b') :
    b'.memoryMap.exportState = b.memoryMap.exportState := by
  have hcells : b'.memoryMap.cells = b.memoryMap.cells := funext fun a => h.cells a id
  rw [h.rest, hcells]
  rfl

end SameView

/-- Boards that hold the same image look alike when the program starts, whatever ran before. -/
theorem startRom_sameView {b b' : Board} (hcartridge : b'.memoryMap.cartridge =
      b.memoryMap.cartridge)
    (hfixed : b'.memoryMap.mapper.copyRomBankWindow b'.memoryMap.mapper.currentFixedRomBank =
      b.memoryMap.mapper.copyRomBankWindow b.memoryMap.mapper.currentFixedRomBank)
    (hswitchable : b'.memoryMap.mapper.copyRomBankWindow b'.memoryMap.mapper.currentRomBank =
      b.memoryMap.mapper.copyRomBankWindow b.memoryMap.mapper.currentRomBank) :
    SameView (fun _ => False) b.startRom b'.startRom := by
  have hreset : SameView (· ∈ [0xFF00#16, 0xFF04#16, 0xFF05#16, 0xFF0F#16])
      { b with
        memoryMap := b.memoryMap.reset
        apu := .reset
        input := .reset
        bootEntryPending := false }
      { b' with
        memoryMap := b'.memoryMap.reset
        apu := .reset
        input := .reset
        bootEntryPending := false } := by
    refine ⟨?_, fun _ _ => rfl, rfl, rfl, rfl, ?_⟩
    · unfold GameBoyMemoryMap.reset
      rw [hcartridge]
    · exact (List.length_nil (α := Byte)).le.trans (Nat.zero_le _)
  have hsubsystems : SameView (· ∈ [0xFF00#16, 0xFF04#16, 0xFF05#16, 0xFF0F#16])
      b.resetSubsystems b'.resetSubsystems :=
    hreset.resetDivider.setJoypadState (by decide) 0x00#8
  obtain ⟨hmapper, -⟩ := resetSubsystems_sameChips b
  obtain ⟨hmapper', -⟩ := resetSubsystems_sameChips b'
  have hwindows := hsubsystems.installWindows (by rw [hmapper, hmapper']; exact hfixed)
    (by rw [hmapper, hmapper']; exact hswitchable)
  have hcache : SameView (· ∈ [0xFF00#16, 0xFF04#16, 0xFF05#16, 0xFF0F#16])
      b.resetSubsystems.installWindows.invalidateAllBlockCache
      b'.resetSubsystems.installWindows.invalidateAllBlockCache :=
    hwindows.of_eq rfl rfl rfl rfl rfl rfl rfl rfl
  have hseeded := (hcache.clearDivider.setJoypadState (by decide) 0x00#8).seedAll
  exact hseeded

structure ChipsKept (b b' : Board) : Prop where
  mapper : b'.memoryMap.mapper = b.memoryMap.mapper
  cartridge : b'.memoryMap.cartridge = b.memoryMap.cartridge

namespace ChipsKept

variable {b b' b'' : Board}

theorem trans (h : ChipsKept b b') (h' : ChipsKept b' b'') : ChipsKept b b'' :=
  ⟨h'.mapper.trans h.mapper, h'.cartridge.trans h.cartridge⟩

theorem writeCached (b : Board) (f : Hardware → Hardware) : ChipsKept b (b.writeCached f) :=
  ⟨(b.writeCached_ioChanged f).mapper, (b.writeCached_ioChanged f).cartridge⟩

theorem setIoRegisterRaw (b : Board) (address : Addr) (value : Byte) :
    ChipsKept b (b.setIoRegisterRaw address value) :=
  ⟨(b.setIoRegisterRaw_memoryMap_ioChanged address value).mapper,
    (b.setIoRegisterRaw_memoryMap_ioChanged address value).cartridge⟩

/-- A register write reaches neither chip. -/
theorem write (b : Board) (hio : IsIoCell address) (hboot : address ≠ 0xFF50#16)
    (value : Byte) (hdma : address = 0xFF46#16 → value = 0xFF#8) :
    ChipsKept b (b.write address value) := by
  have hhigh : 0xFF00#16 ≤ address := by
    rcases hio with h | rfl
    · exact h.1
    · decide
  obtain ⟨m, hchanged, hm⟩ := observeWrite_memoryMap
    { b with memoryMap := b.memoryMap.write address value } address value
  rw [if_neg (by bv_omega)] at hm
  have hwrite := memoryMap_write_register b.memoryMap hio hboot hdma
  unfold Board.write
  rw [resolveEchoAddress_of_high hhigh]
  constructor
  · rw [hm]
    refine hchanged.mapper.trans ?_
    rw [hwrite]
    rfl
  · rw [hm]
    dsimp only
    rw [hwrite]
    rfl

theorem seedRegister (b : Board) {register : Addr × Byte} {differing : Addr → Prop}
    (hregister : SameView.Seedable differing register) : ChipsKept b (b.seedRegister register) := by
  obtain ⟨address, value⟩ := register
  obtain ⟨hio, hboot, hdma, -⟩ := hregister
  dsimp only at hio hboot hdma
  unfold Board.seedRegister
  dsimp only
  split
  · rename_i htrigger
    have hne : address ≠ 0xFF46#16 := by
      rintro rfl
      exact absurd htrigger (by decide)
    have hwritten := write { b with
      hardware := b.hardware.syncCachedIoRegisterWrite address value } hio hboot
      (value &&& 0x7F#8) fun heq => absurd heq hne
    have hseeded := (hwritten.trans (setIoRegisterRaw _ address value)).trans
      (writeCached _ (Hardware.syncCachedIoRegisterWrite (resolveEchoAddress address) value))
    exact ⟨hseeded.mapper, hseeded.cartridge⟩
  · have hwritten := write { b with
      hardware := b.hardware.syncCachedIoRegisterWrite address value } hio hboot value hdma
    exact ⟨hwritten.mapper, hwritten.cartridge⟩

theorem seedRegisters (b : Board) : ChipsKept b b.seedRegisters := by
  have hseeds (registers : List (Addr × Byte))
      (hregisters : ∀ r ∈ registers, SameView.Seedable (· ∈ [0xFF05#16, 0xFF0F#16]) r) (b : Board) :
      ChipsKept b (registers.foldl Board.seedRegister b) := by
    induction registers generalizing b with
    | nil => exact ⟨rfl, rfl⟩
    | cons register registers ih =>
      exact (seedRegister b (hregisters register List.mem_cons_self)).trans
        (ih (fun r hr => hregisters r (List.mem_cons_of_mem _ hr)) _)
  have hselect := (write b (show IsIoCell 0xFF00#16 by decide) (by decide) 0xCF#8
    fun heq => absurd heq (by decide)).trans (setIoRegisterRaw _ 0xFF50#16 0x01#8)
  have hseeded := hselect.trans (hseeds kPostBootIoDefaults SameView.seedable_defaults _)
  have hraw := setIoRegisterRaw
    (kPostBootIoDefaults.foldl Board.seedRegister
      ((b.write 0xFF00#16 0xCF#8).setIoRegisterRaw 0xFF50#16 0x01#8)) 0xFF26#16
    ((kPostBootIoDefaults.foldl Board.seedRegister
      ((b.write 0xFF00#16 0xCF#8).setIoRegisterRaw 0xFF50#16 0x01#8)).apu.readRegister 0xFF26#16)
  have haudio := hseeded.trans hraw
  exact ⟨haudio.mapper, haudio.cartridge⟩

theorem startRom (b : Board) : ChipsKept b b.startRom := by
  obtain ⟨hmapper, hcartridge⟩ := resetSubsystems_sameChips b
  have hsubsystems : ChipsKept b b.resetSubsystems := ⟨hmapper, hcartridge⟩
  have hwindows : ChipsKept b.resetSubsystems
      b.resetSubsystems.installWindows.invalidateAllBlockCache := ⟨rfl, rfl⟩
  have hdivider (c : Board) : ChipsKept c
      ((c.writeCached Hardware.resetDivider).setIoRegisterRaw 0xFF04#16 0x00#8) :=
    (writeCached c Hardware.resetDivider).trans (setIoRegisterRaw _ 0xFF04#16 0x00#8)
  have hjoypad (c : Board) : ChipsKept c (c.writeCached (Hardware.setJoypadState 0x00#8)) :=
    writeCached c _
  exact (((hsubsystems.trans hwindows).trans (hdivider _)).trans (hjoypad _)).trans
    (seedRegisters _)

end ChipsKept

/-- No instruction body is open. -/
def BetweenInstructions (b : Board) : Prop := b.hardware.instructionExecutionActive = false

theorem startRom_unregistered {b : Board} (h : b.BetweenInstructions) :
    b.startRom.hardware.unregistered = { b.hardware.unregistered with
      dividerCounter := 0, joypadPressedMask := 0x00#8 } := by
  have hjoypad (g : Hardware) := g.setJoypadState_unregistered 0x00#8
  have hreset : (b.hardware.resetDivider.setJoypadState 0x00#8).unregistered =
      { b.hardware.unregistered with dividerCounter := 0, joypadPressedMask := 0x00#8 } := by
    rw [hjoypad, Hardware.resetDivider_unregistered h]
  have hidle : (b.hardware.resetDivider.setJoypadState 0x00#8).instructionExecutionActive =
      false := (congrArg Hardware.Unregistered.instructionExecutionActive hreset).trans h
  rw [startRom_through (fun address value g => g.syncCachedIoRegisterWrite_unregistered address value)
    (fun _ _ => rfl), hjoypad, Hardware.resetDivider_unregistered hidle, hreset]

theorem startRom_betweenInstructions {b : Board} (h : b.BetweenInstructions) :
    b.startRom.BetweenInstructions := by
  have hstart := startRom_unregistered h
  generalize b.startRom = c at hstart ⊢
  exact (congrArg Hardware.Unregistered.instructionExecutionActive hstart).trans h

theorem betweenInstructions_hosted : Hosted BetweenInstructions where
  write b address value h :=
    (write_through (fun address value h => congrArg Hardware.Unregistered.instructionExecutionActive
      (h.syncCachedIoRegisterWrite_unregistered address value)) b address value).trans h
  rawRegister _ _ _ _ h := h
  registerUpdate b f hf h := by
    cases hf with
    | register address value =>
      exact (congrArg Hardware.Unregistered.instructionExecutionActive
        (b.hardware.syncCachedIoRegisterWrite_unregistered address value)).trans h
    | interruptFlags flags => exact h
    | joypad pressedMask =>
      exact (congrArg Hardware.Unregistered.instructionExecutionActive
        (b.hardware.setJoypadState_unregistered pressedMask)).trans h
  outside _ _ _ _ h := h
  debugCommitByte b address value h := by
    unfold BetweenInstructions Board.debugCommitByte
    rw [invalidateBlockCacheForWrite_hardware]
    exact h
  blockCache _ _ _ _ h := h

theorem betweenInstructions_calm : Accessed.Calm BetweenInstructions where
  write := betweenInstructions_hosted.write
  endStep _ := rfl
  setInterruptFlags b flags h := betweenInstructions_hosted.registerUpdate b _ (.interruptFlags flags) h

theorem retire_instructionExecutionActive (cycles : ℕ) (h : Hardware) :
    (h.retire cycles).instructionExecutionActive = h.instructionExecutionActive := by
  have hmark : h.retire cycles =
      (h.retire cycles).mark h.instructionExecutionActive h.instructionCycleEndOffset :=
    Hardware.retire_mark h.instructionExecutionActive h.instructionCycleEndOffset h cycles
  rw [hmark]
  rfl

end Board

namespace GameBoyMachine

open Board

variable {m m' n n' : GameBoyMachine}

theorem act_betweenInstructions (hl : m.board.HoldsLowered) (h : m.board.BetweenInstructions)
    (a : Action) : (m.act a).board.BetweenInstructions := by
  rcases m.act_cases a with hsame | hok
  · rw [hsame]
    exact h
  refine perform_hosted betweenInstructions_hosted h a ?_ ?_ (fun _ => h) ?_ hok
  · intro m' exit _ hs
    obtain ⟨cpu, hret, heq⟩ := retireStep_retired hl hs
    obtain ⟨cache, b, cache', hb, hbus⟩ := hret.effect
    have hcpu : (m.withCpu cpu).board.BetweenInstructions := by
      change cpu.core.bus.BetweenInstructions
      rw [hbus]
      exact (retire_instructionExecutionActive _ _).trans
        (hb.calm BetweenInstructions betweenInstructions_calm h)
    rw [onInstructionRetired, Prod.mk.injEq] at heq
    rw [heq.1]
    exact advanceDevices_hosted betweenInstructions_hosted
      (m := { m.withCpu cpu with stepCounter := _ }) hcpu _
  · intro bytes save m' _ hload
    obtain ⟨-, cartridge, hboard⟩ := loadRom_eq_ok hload
    have hinserted : (m.board.insertCartridge cartridge bytes).BetweenInstructions := h
    rw [hboard]
    exact startRom_betweenInstructions hinserted
  · intro file m' _ hload
    obtain ⟨-, -, cartridge, mapper, apu, input, memoryMap, -, -, -, hboard⟩ := loadState_eq_ok hload
    rw [hboard]
    exact (restored_through (fun address value h =>
      congrArg Hardware.Unregistered.instructionExecutionActive
        (h.syncCachedIoRegisterWrite_unregistered address value)) _ _ _ _ _).trans h

theorem powerOn_betweenInstructions : powerOn.board.BetweenInstructions := rfl

theorem run_betweenInstructions (actions : List Action) :
    (Transition.run act powerOn actions).board.BetweenInstructions := by
  have hrun := Transition.run_invariant
    (P := fun m : GameBoyMachine => m.board.HoldsLowered ∧ m.board.BetweenInstructions)
    (fun m a h => ⟨act_holdsLowered h.1 a, act_betweenInstructions h.1 h.2 a⟩)
    (s := powerOn) ⟨powerOn_registersSynced.1, powerOn_betweenInstructions⟩ actions
  exact hrun.2

structure Exported where
  cpu : LR3592.SaveState
  memory : List Byte
  ppu : List Byte
  apu : GameBoyAPU
  input : List Byte
  mapper : GameBoyMapper.SaveState
  cartridge : GameBoyCartridge.State

def exported (m : GameBoyMachine) : Exported :=
  { cpu := m.cpu.exportState
    memory := m.board.memoryMap.exportState
    ppu := m.ppu.exportState
    apu := m.board.apu
    input := m.board.input.exportState
    mapper := m.board.memoryMap.mapper.exportState
    cartridge := m.board.memoryMap.cartridge.exportState }

/-- What a ROM load leaves of the last program in the processor. -/
structure Remembered where
  flagset : BitVec 16
  cip : Byte
  feedback : CpuFeedback
  haltBugActive : Bool
  haltBugPcAdjustPending : Bool
  pendingCycleCharge : ℕ
  hardware : Hardware.Leftover
  currentVramBank : ℕ
  spriteContext : ℕ
  bankSwitchingEnabled : Bool
  deriving DecidableEq

def remembered (m : GameBoyMachine) : Remembered :=
  { flagset := m.cpu.core.flagset
    cip := m.cpu.core.cip
    feedback := m.cpu.core.feedback
    haltBugActive := m.cpu.core.haltBugActive
    haltBugPcAdjustPending := m.cpu.core.haltBugPcAdjustPending
    pendingCycleCharge := m.cpu.core.pendingCycleCharge
    hardware := m.board.hardware.leftover
    currentVramBank := m.cpu.currentVramBank
    spriteContext := m.cpu.spriteContext
    bankSwitchingEnabled := m.cpu.bankSwitchingEnabled }

/-- The processor's exported state when a program starts. -/
def Remembered.started (r : Remembered) : LR3592.SaveState :=
  { af := 0x01B0#16
    bc := 0x0013#16
    de := 0x00D8#16
    hl := 0x014D#16
    sp := 0xFFFE#16
    pc := 0x0100#16
    flagset := r.flagset
    feedback := r.feedback
    cip := r.cip
    ime := false
    imeEnablePending := false
    imeEnableDelay := 0
    stopFlag := false
    haltFlag := false
    illegalOpcodeLockup := false
    haltBugActive := r.haltBugActive
    haltBugPcAdjustPending := r.haltBugPcAdjustPending
    dividerCounter := 0
    dmaActive := r.hardware.dmaActive
    dmaSourceBase := r.hardware.dmaSourceBase
    dmaCycleProgress := r.hardware.dmaCycleProgress
    pendingCycleCharge := r.pendingCycleCharge
    serialTransferActive := r.hardware.serialTransferActive
    serialCycleProgress := r.hardware.serialCycleProgress
    joypSelect := r.hardware.joypSelect
    joypadPressedMask := 0x00#8
    ppuDotCounter := r.hardware.ppuDotCounter
    lcdEnabledLastTick := r.hardware.lcdEnabledLastTick
    statInterruptLatched := r.hardware.statInterruptLatched
    currentVramBank := r.currentVramBank
    spriteContext := r.spriteContext
    bankSwitchingEnabled := r.bankSwitchingEnabled }

theorem Remembered.started_injective {r r' : Remembered} (h : r.started = r'.started) :
    r = r' := by
  obtain ⟨flagset, cip, feedback, bug, adjust, charge, hardware, vram, sprite, switching⟩ := r
  obtain ⟨dma, base, dmaProgress, serial, serialProgress, select, dot, lcd, latched⟩ := hardware
  simp only [started, LR3592.SaveState.mk.injEq] at h
  simp [h]

variable {bytes : List Byte}

theorem loadRom_parts (h : m.loadRom bytes none = .ok m') :
    ∃ cartridge, GameBoyCartridge.load bytes = .ok cartridge ∧
      m'.board = (m.board.insertCartridge cartridge bytes).startRom ∧ m'.ppu = .reset ∧
      m'.cpu = m.cpu.withCore (startCore m.cpu.core
        (m.board.insertCartridge cartridge bytes).startRom) := by
  unfold loadRom at h
  split_ifs at h
  split at h
  · cases h
  · rename_i cartridge hcartridge
    cases h
    exact ⟨cartridge, hcartridge, rfl, rfl, rfl⟩

theorem loadRom_cpu (hidle : m.board.BetweenInstructions)
    (h : m.loadRom bytes none = .ok m') : m'.cpu.exportState = m.remembered.started := by
  obtain ⟨cartridge, -, -, -, hcpu⟩ := loadRom_parts h
  have hinserted : (m.board.insertCartridge cartridge bytes).BetweenInstructions := hidle
  have hstart := startRom_unregistered hinserted
  rw [hcpu]
  generalize (m.board.insertCartridge cartridge bytes).startRom = b at hstart ⊢
  have hleftover : b.hardware.leftover = m.board.hardware.leftover :=
    congrArg Hardware.Unregistered.leftover hstart
  have hdivider : b.hardware.dividerCounter = 0 :=
    congrArg Hardware.Unregistered.dividerCounter hstart
  have hjoypad : b.hardware.joypadPressedMask = 0x00#8 :=
    congrArg Hardware.Unregistered.joypadPressedMask hstart
  unfold Remembered.started remembered
  rw [← hleftover]
  simp [LR3592.exportState, LR3592.withCore, startCore, setIme, setStopFlag, setHaltFlag,
    Hardware.leftover, hdivider, hjoypad]

/-- The machines remember the same, and so do the mappers unless the image declares RAM. -/
def RememberSame (bytes : List Byte) (m n : GameBoyMachine) : Prop :=
  m.remembered = n.remembered ∧ (0 < (parseCartridgeMetadata bytes).externalRamSize ∨
    n.board.memoryMap.mapper.externalRam = m.board.memoryMap.mapper.externalRam)

theorem mapper_load_eq_iff (mapper mapper' : GameBoyMapper) (bytes : List Byte) :
    (mapper.load bytes).exportState = (mapper'.load bytes).exportState ↔
      0 < (parseCartridgeMetadata bytes).externalRamSize ∨
        mapper'.externalRam = mapper.externalRam := by
  by_cases hram : 0 < (parseCartridgeMetadata bytes).externalRamSize
  · simp [GameBoyMapper.load, GameBoyMapper.exportState, hram]
  · simp [GameBoyMapper.load, GameBoyMapper.exportState, hram, eq_comm]

theorem loadRom_sameView (h : m.loadRom bytes none = .ok m')
    (h' : n.loadRom bytes none = .ok n') : SameView (fun _ => False) m'.board n'.board ∧
      n'.board.memoryMap.cartridge = m'.board.memoryMap.cartridge := by
  obtain ⟨cartridge, hcartridge, hboard, -, -⟩ := loadRom_parts h
  obtain ⟨cartridge', hcartridge', hboard', -, -⟩ := loadRom_parts h'
  rw [hcartridge] at hcartridge'
  cases hcartridge'
  rw [hboard, hboard']
  refine ⟨startRom_sameView rfl rfl rfl, ?_⟩
  rw [(ChipsKept.startRom _).cartridge, (ChipsKept.startRom _).cartridge]
  rfl

theorem loadRom_mapper (h : m.loadRom bytes none = .ok m') :
    m'.board.memoryMap.mapper = m.board.memoryMap.mapper.load bytes := by
  obtain ⟨cartridge, -, hboard, -, -⟩ := loadRom_parts h
  rw [hboard, (ChipsKept.startRom _).mapper]
  rfl

/-- Two reachable machines export the same state after an image was loaded into both if and only
if they remember the same of what ran before. -/
theorem loadRom_exported_eq_iff (actions actions' : List Action) (bytes : List Byte)
    (m' n' : GameBoyMachine) (h : (Transition.run act powerOn actions).loadRom bytes none = .ok m')
    (h' : (Transition.run act powerOn actions').loadRom bytes none = .ok n') :
    m'.exported = n'.exported ↔
      RememberSame bytes (Transition.run act powerOn actions)
        (Transition.run act powerOn actions') := by
  have hcpu := loadRom_cpu (run_betweenInstructions actions) h
  have hcpu' := loadRom_cpu (run_betweenInstructions actions') h'
  obtain ⟨hview, hcartridge⟩ := loadRom_sameView h h'
  obtain ⟨-, -, -, hppu, -⟩ := loadRom_parts h
  obtain ⟨-, -, -, hppu', -⟩ := loadRom_parts h'
  have hmapper := mapper_load_eq_iff (Transition.run act powerOn actions).board.memoryMap.mapper
    (Transition.run act powerOn actions').board.memoryMap.mapper bytes
  rw [← loadRom_mapper h, ← loadRom_mapper h'] at hmapper
  unfold RememberSame
  rw [← hmapper]
  constructor
  · intro hexported
    have hstarted := congrArg Exported.cpu hexported
    change m'.cpu.exportState = n'.cpu.exportState at hstarted
    rw [hcpu, hcpu'] at hstarted
    exact ⟨Remembered.started_injective hstarted, congrArg Exported.mapper hexported⟩
  · rintro ⟨hremembered, hchip⟩
    unfold exported
    rw [hcpu, hcpu', hremembered, hview.exportState, hppu, hppu', hview.apu, hview.input, hchip,
      hcartridge]

theorem loadRom_exported_eq_iff_pressed : ∃ m' n',
    powerOn.loadRom [0x00#8] none = .ok m' ∧
      (Transition.run act powerOn [.serviceInput 0x01#8]).loadRom [0x00#8] none = .ok n' ∧
      m'.exported = n'.exported := by
  have hfresh : (powerOn.loadRom [0x00#8] none).map (·.romLoaded) = .ok true := by decide +kernel
  have hpressed : ((Transition.run act powerOn [.serviceInput 0x01#8]).loadRom [0x00#8] none).map
      (·.romLoaded) = .ok true := by decide +kernel
  obtain ⟨m', hm, -⟩ := map_eq_ok hfresh
  obtain ⟨n', hn, -⟩ := map_eq_ok hpressed
  have hremembered : powerOn.remembered =
      (Transition.run act powerOn [.serviceInput 0x01#8]).remembered := by decide +kernel
  exact ⟨m', n', hm, hn, (loadRom_exported_eq_iff [] [.serviceInput 0x01#8] [0x00#8] m' n' hm hn).mpr
    ⟨hremembered, .inr rfl⟩⟩

/-- After one instruction of a first program the second one starts at dot 16 of the frame. -/
theorem loadRom_remembers : ¬ ∀ (actions actions' : List Action) (bytes : List Byte)
    (m' n' : GameBoyMachine), (Transition.run act powerOn actions).loadRom bytes none = .ok m' →
    (Transition.run act powerOn actions').loadRom bytes none = .ok n' →
    m'.exported = n'.exported := by
  intro h
  have hfresh : (powerOn.loadRom [0x00#8] none).map (·.cpu.exportState.ppuDotCounter) = .ok 0 := by
    decide +kernel
  have hused : ((Transition.run act powerOn [.loadRom [0x00#8] none, .retireStep]).loadRom [0x00#8]
      none).map (·.cpu.exportState.ppuDotCounter) = .ok 16 := by decide +kernel
  obtain ⟨m', hm, hstart⟩ := map_eq_ok hfresh
  obtain ⟨n', hn, hlate⟩ := map_eq_ok hused
  have hsame := h [] [.loadRom [0x00#8] none, .retireStep] [0x00#8] m' n' hm hn
  have hdot := congrArg (·.cpu.ppuDotCounter) hsame
  change m'.cpu.exportState.ppuDotCounter = n'.cpu.exportState.ppuDotCounter at hdot
  rw [hstart, hlate] at hdot
  cases hdot

end GameBoyMachine

end ProtoTime.GameBoy
