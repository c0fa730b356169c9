import ProtoTime.GameBoy.Board

/-!
What the updates of the board leave alone: the write-through and the machine's
raw register updates change I/O cells only, and a guest write reaches the cached
registers through its own address only.
-/
namespace ProtoTime.GameBoy

/-- The cells `setIoRegisterRaw` can change. -/
def IsIoCell (a : Addr) : Prop := (0xFF00#16 ≤ a ∧ a < 0xFF80#16) ∨ a = 0xFFFF#16

instance (a : Addr) : Decidable (IsIoCell a) := inferInstanceAs (Decidable (_ ∨ _))

namespace GameBoyMemoryMap

structure IoChanged (m m' : GameBoyMemoryMap) : Prop where
  rest : m' = { m with cells := m'.cells }
  cells : ∀ a, ¬ IsIoCell a → m'.cells a = m.cells a

theorem IoChanged.refl (m : GameBoyMemoryMap) : IoChanged m m := ⟨rfl, fun _ _ => rfl⟩

theorem IoChanged.trans {m m' m'' : GameBoyMemoryMap} (h : IoChanged m m')
    (h' : IoChanged m' m'') : IoChanged m m'' := by
  refine ⟨?_, fun a ha => (h'.cells a ha).trans (h.cells a ha)⟩
  rw [h'.rest, h.rest]

section Fields

variable {m m' : GameBoyMemoryMap}

section

variable (h : IoChanged m m')

include h

theorem IoChanged.mapper : m'.mapper = m.mapper := by rw [h.rest]

theorem IoChanged.cartridge : m'.cartridge = m.cartridge := by rw [h.rest]

theorem IoChanged.window0 : m'.romWindow0x0000 = m.romWindow0x0000 := by
  rw [h.rest]

theorem IoChanged.window4 : m'.romWindow0x4000 = m.romWindow0x4000 := by
  rw [h.rest]

theorem IoChanged.bootRom : m'.bootRom = m.bootRom := by rw [h.rest]

end

end Fields

variable (m : GameBoyMemoryMap)

@[simp] theorem setCell_cells (address a : Addr) (value : Byte) :
    (m.setCell address value).cells a = if a = address then value else m.cells a := rfl

theorem setIoRegisterRaw_cells (address a : Addr) (value : Byte) :
    (m.setIoRegisterRaw address value).cells a =
      if a = address ∧ IsIoCell address then value else m.cells a := by
  unfold setIoRegisterRaw IsIoCell
  by_cases hio : 0xFF00#16 ≤ address ∧ address < 0xFF80#16
  · simp [hio]
  · by_cases hie : address = 0xFFFF#16
    · subst hie
      simp
    · simp [hio, hie]

theorem setIoRegisterRaw_ioChanged (address : Addr) (value : Byte) :
    IoChanged m (m.setIoRegisterRaw address value) := by
  refine ⟨?_, ?_⟩
  · unfold setIoRegisterRaw
    split_ifs <;> rfl
  · intro a ha
    rw [setIoRegisterRaw_cells, if_neg]
    rintro ⟨rfl, hio⟩
    exact ha hio

end GameBoyMemoryMap

namespace Hardware

open GameBoyMemoryMap

variable {before after : Hardware}

/-- One register of the write-through. -/
def publishSlot (before after : Hardware) (m : GameBoyMemoryMap) (slot : Addr × (Hardware → Byte)) :
    GameBoyMemoryMap :=
  if slot.2 before = slot.2 after then m else m.setIoRegisterRaw slot.1 (slot.2 after)

theorem publish_eq (before after : Hardware) (m : GameBoyMemoryMap) :
    publish before after m = cachedRegisters.foldl (publishSlot before after) m := rfl

theorem publishSlot_ioChanged (m : GameBoyMemoryMap) (slot : Addr × (Hardware → Byte)) :
    IoChanged m (publishSlot before after m slot) := by
  unfold publishSlot
  split
  · exact .refl m
  · exact m.setIoRegisterRaw_ioChanged _ _

theorem publish_ioChanged (before after : Hardware) (m : GameBoyMemoryMap) :
    IoChanged m (publish before after m) := by
  rw [publish_eq]
  generalize cachedRegisters = slots
  induction slots generalizing m with
  | nil => exact .refl m
  | cons slot slots ih => exact (publishSlot_ioChanged m slot).trans (ih _)

variable {a : Addr}

theorem foldl_publishSlot_of_not_mem (m : GameBoyMemoryMap)
    {slots : List (Addr × (Hardware → Byte))} (h : a ∉ slots.map (·.1)) :
    (slots.foldl (publishSlot before after) m).cells a = m.cells a := by
  induction slots generalizing m with
  | nil => rfl
  | cons slot slots ih =>
    rw [List.map_cons, List.mem_cons, not_or] at h
    rw [List.foldl_cons, ih _ h.2]
    unfold publishSlot
    split
    · rfl
    · rw [setIoRegisterRaw_cells, if_neg fun hand => h.1 hand.1]

theorem foldl_publishSlot_of_mem (m : GameBoyMemoryMap) {r : Hardware → Byte}
    {slots : List (Addr × (Hardware → Byte))} (hnodup : (slots.map (·.1)).Nodup)
    (hio : IsIoCell a) (h : (a, r) ∈ slots) :
    (slots.foldl (publishSlot before after) m).cells a =
      if r before = r after then m.cells a else r after := by
  induction slots generalizing m with
  | nil => cases h
  | cons slot slots ih =>
    rw [List.map_cons, List.nodup_cons] at hnodup
    rcases List.mem_cons.mp h with rfl | hmem
    · rw [List.foldl_cons, foldl_publishSlot_of_not_mem _ hnodup.1]
      unfold publishSlot
      split
      · rfl
      · rw [setIoRegisterRaw_cells, if_pos ⟨rfl, hio⟩]
    · have hne : a ≠ slot.1 := by
        intro heq
        rw [← heq] at hnodup
        exact hnodup.1 (List.mem_map_of_mem (f := Prod.fst) hmem)
      rw [List.foldl_cons, ih _ hnodup.2 hmem]
      have hcell : (publishSlot before after m slot).cells a = m.cells a := by
        unfold publishSlot
        split
        · rfl
        · rw [setIoRegisterRaw_cells, if_neg fun hand => hne hand.1]
      rw [hcell]

theorem cachedRegisters_nodup : (cachedRegisters.map (·.1)).Nodup := by decide

theorem cachedRegisters_isIoCell {slot : Addr × (Hardware → Byte)} (h : slot ∈ cachedRegisters) :
    IsIoCell slot.1 := by
  have hall : (cachedRegisters.all fun slot => decide (IsIoCell slot.1)) = true := by rfl
  exact of_decide_eq_true (List.all_eq_true.mp hall slot h)

theorem publish_cells (m : GameBoyMemoryMap) {r : Hardware → Byte} (h : (a, r) ∈ cachedRegisters) :
    (publish before after m).cells a = if r before = r after then m.cells a else r after := by
  exact foldl_publishSlot_of_mem m cachedRegisters_nodup (cachedRegisters_isIoCell h) h

end Hardware

theorem resolveEchoAddress_resolveEchoAddress (a : Addr) :
    resolveEchoAddress (resolveEchoAddress a) = resolveEchoAddress a := by
  unfold resolveEchoAddress
  split_ifs <;> first | rfl | bv_omega

namespace Board

open GameBoyMemoryMap

section Fields

variable (b : Board)

variable (f : Hardware → Hardware)

@[simp] theorem writeCached_hardware :
    (b.writeCached f).hardware = f b.hardware := rfl

@[simp] theorem invalidateBlockCacheForWrite_memoryMap (address : Addr) :
    (b.invalidateBlockCacheForWrite address).memoryMap = b.memoryMap := by
  unfold invalidateBlockCacheForWrite
  dsimp only
  split_ifs <;> rfl

@[simp] theorem invalidateBlockCacheForWrite_hardware (address : Addr) :
    (b.invalidateBlockCacheForWrite address).hardware = b.hardware := by
  unfold invalidateBlockCacheForWrite
  dsimp only
  split_ifs <;> rfl

theorem writeCached_ioChanged :
    IoChanged b.memoryMap (b.writeCached f).memoryMap := Hardware.publish_ioChanged _ _ _

theorem setIoRegisterRaw_memoryMap_ioChanged (address : Addr) (value : Byte) :
    IoChanged b.memoryMap (b.setIoRegisterRaw address value).memoryMap :=
  b.memoryMap.setIoRegisterRaw_ioChanged address value

theorem observeJoypad_ioChanged (value : Byte) :
    IoChanged b.memoryMap (b.observeJoypad value).memoryMap := by
  refine .trans ?_ (writeCached_ioChanged _ _)
  exact setIoRegisterRaw_memoryMap_ioChanged
    { b with input := b.input.writeRegister value } _ _

theorem observeAudio_ioChanged (address : Addr) (value : Byte) :
    IoChanged b.memoryMap (b.observeAudio address value).memoryMap :=
  b.memoryMap.setIoRegisterRaw_ioChanged 0xFF26#16
    ((b.apu.writeRegister address value).readRegister 0xFF26#16)

end Fields

/-- The value the observer hands to the cached registers. -/
def observedValue (m : GameBoyMemoryMap) (address : Addr) (value : Byte) : Byte :=
  if (0xFF00#16 ≤ address ∧ address < 0xFF80#16) ∨ address = 0xFFFF#16 then m.peek address
  else value

variable (b : Board) (address : Addr) (value : Byte)

/-- The observer changes I/O cells and the cartridge. -/
theorem observeWrite_memoryMap : ∃ m, IoChanged b.memoryMap m ∧
    (b.observeWrite address value).memoryMap = { m with cartridge :=
      if address < 0x8000#16 ∨ (0xA000#16 ≤ address ∧ address < 0xC000#16) then
        (b.memoryMap.cartridge.write address value).1 else b.memoryMap.cartridge } := by
  unfold observeWrite
  dsimp only
  generalize hv : (if (0xFF00#16 ≤ address ∧ address < 0xFF80#16) ∨ address = 0xFFFF#16 then
    b.peek address else value) = observed
  have h₁ : IoChanged b.memoryMap ((b.invalidateBlockCacheForWrite address).syncCachedIoRegisterWrite
      address observed).memoryMap := by
    have h := writeCached_ioChanged (b.invalidateBlockCacheForWrite address)
      (Hardware.syncCachedIoRegisterWrite (resolveEchoAddress address) observed)
    rw [invalidateBlockCacheForWrite_memoryMap] at h
    exact h
  generalize (b.invalidateBlockCacheForWrite address).syncCachedIoRegisterWrite address observed =
    b₁ at h₁
  have h₂ : IoChanged b.memoryMap
      (if address = 0xFF00#16 then b₁.observeJoypad value else b₁).memoryMap := by
    split
    · exact h₁.trans (b₁.observeJoypad_ioChanged value)
    · exact h₁
  generalize (if address = 0xFF00#16 then b₁.observeJoypad value else b₁) = b₂ at h₂
  have h₃ : IoChanged b.memoryMap
      (if isAudioRegister address then b₂.observeAudio address value else b₂).memoryMap := by
    split
    · exact h₂.trans (b₂.observeAudio_ioChanged address value)
    · exact h₂
  generalize (if isAudioRegister address then b₂.observeAudio address value else b₂) = b₃ at h₃
  have h₄ : IoChanged b.memoryMap (if address = 0xFF50#16 ∧ value ≠ 0 then
      { b₃ with bootEntryPending := true } else b₃).memoryMap := by
    split <;> exact h₃
  generalize (if address = 0xFF50#16 ∧ value ≠ 0 then
      { b₃ with bootEntryPending := true } else b₃) = b₄ at h₄
  refine ⟨b₄.memoryMap, h₄, ?_⟩
  rw [← h₄.cartridge]
  split <;> rfl

theorem observeWrite_hardware : (b.observeWrite address value).hardware =
    b.hardware.syncCachedIoRegisterWrite (resolveEchoAddress address)
      (observedValue b.memoryMap address value) := by
  have hsync : ((b.invalidateBlockCacheForWrite address).syncCachedIoRegisterWrite address
      (observedValue b.memoryMap address value)).hardware =
      b.hardware.syncCachedIoRegisterWrite (resolveEchoAddress address)
        (observedValue b.memoryMap address value) := by
    unfold syncCachedIoRegisterWrite
    rw [writeCached_hardware, invalidateBlockCacheForWrite_hardware]
  rw [← hsync]
  unfold observeWrite
  change _ = ((b.invalidateBlockCacheForWrite address).syncCachedIoRegisterWrite address
    (if (0xFF00#16 ≤ address ∧ address < 0xFF80#16) ∨ address = 0xFFFF#16 then b.peek address
      else value)).hardware
  split_ifs <;> rfl

end Board

end ProtoTime.GameBoy
