import ProtoTime.GameGear.RomReplacement

/-!
What a load of an image makes of the save file: the mapper is reset after the file is imported.
-/
namespace ProtoTime.GameGear

open GameBoy (Byte Addr)

namespace GameGearMapper

/-- The save data is the file's, and the guest reads it in the window of the save RAM. -/
def ServesSaveData (m : GameGearMapper) (saved : List Byte) : Prop :=
  m.exportSaveData = saved ∧
    ∀ (control : Byte) (addr : Addr), control &&& 0x08#8 ≠ 0 → 0x8000#16 ≤ addr → addr < 0xC000#16 →
      (m.write 0xFFFC control).read addr
        = saved.getD ((m.write 0xFFFC control).sramOffset addr) 0xFF

/-- A mapper as the factory makes it and a reset leaves it: no extra RAM. -/
structure Plain (m : GameGearMapper) : Prop where
  loaded : m.rom ≠ []
  extraRam : m.extraRam = []
  unmapped : m.extraRamMapped = false

variable {m : GameGearMapper}

theorem write_control (h : m.extraRamMapped = false) (control : Byte) :
    m.write 0xFFFC control = { m with controlRegister := control } := by
  have hwindow : m.extraWindow 0xFFFC = false := by simp [extraWindow, h]
  unfold write
  rcases eq_or_ne m.kind .codemasters with hcode | hother
  · have hslot : m.handlesControlWrite 0xFFFC = false := by
      rw [handlesControlWrite, if_pos hcode]
      rfl
    rw [if_pos hcode, hslot, hwindow, if_neg Bool.false_ne_true, if_neg Bool.false_ne_true]
    rfl
  · rw [if_neg hother]
    rfl

theorem Plain.serves_iff (h : m.Plain) (saved : List Byte) :
    m.ServesSaveData saved ↔ m.sram = saved := by
  have hexport : m.exportSaveData = m.sram := by
    rw [exportSaveData, if_neg fun hcode => hcode.2 h.extraRam]
  constructor
  · intro hserves
    rw [← hexport]
    exact hserves.1
  · rintro rfl
    refine ⟨hexport, fun control addr henabled hlow hhigh => ?_⟩
    rw [write_control h.unmapped, read, if_neg (by simp [extraWindow, h.unmapped]), readBase,
      if_neg, if_pos]
    · exact ⟨hlow, by simpa [sramEnabled] using henabled⟩
    · have hrom : m.rom.isEmpty = false := by simpa using h.loaded
      rw [Bool.or_eq_true, not_or, decide_eq_true_eq, BitVec.not_le]
      exact ⟨by simp [GameGearMapper.loaded, hrom], hhigh⟩

theorem reset_plain (hrom : m.rom ≠ [])
    (hextra : m.kind ≠ .codemasters → m.extraRam = [] ∧ m.extraRamMapped = false) :
    m.reset.Plain := by
  rcases eq_or_ne m.kind .codemasters with hcode | hother
  · refine ⟨by rwa [m.reset_sameMemory.rom], ?_, ?_⟩
    · simp only [reset, hcode]
    · simp only [reset, hcode]
  · have hsame := reset_sameExtraRam hother
    exact ⟨by rwa [m.reset_sameMemory.rom], hsame.ram.trans (hextra hother).1,
      hsame.mapped.trans (hextra hother).2⟩

end GameGearMapper

namespace GameGearMachine

open GameGearMapper

theorem createMapperFromRom_load (table : List MappingEntry) (image : AcceptedRom)
    (path : Option RomPath) : ∃ kind, MapperFactory.createMapperFromRom table image.val path
      = ({ kind := kind } : GameGearMapper).load image.val := by
  have hid (id : ℤ) : ∃ kind, MapperFactory.makeMapperById id = { kind := kind } := by
    unfold MapperFactory.makeMapperById
    split_ifs <;> exact ⟨_, rfl⟩
  unfold MapperFactory.createMapperFromRom
  rw [if_neg (by simpa using image.property.1)]
  dsimp only
  split_ifs
  · exact (hid _).imp fun kind h => by rw [h]
  · exact (hid _).imp fun kind h => by rw [h]
  · exact (hid _).imp fun kind h => by rw [h]

/-- The mapper of an image with a save file, before its reset. -/
theorem insertedMapper_save (table : List MappingEntry) (image : AcceptedRom)
    {path : Option RomPath} (hbind : RomPath.allowsSaveBinding path = true) (saved : List Byte) :
    (insertedMapper table image.val path (some saved)).reset.Plain ∧
      (insertedMapper table image.val path (some saved)).sram.length = kSramSize ∧
      (saved.length = kSramSize → (insertedMapper table image.val path (some saved)).sram =
        if (MapperFactory.createMapperFromRom table image.val path).kind = .sega3155365
        then List.replicate kSramSize 0 else saved) := by
  obtain ⟨kind, hload⟩ := createMapperFromRom_load table image path
  have hne := image.property.1
  have hkind := load_kind ({ kind := kind } : GameGearMapper) image.val
  have hsram : (({ kind := kind } : GameGearMapper).load image.val).sram
      = List.replicate kSramSize 0 := by
    unfold load
    rw [if_neg (by simpa using hne), (reset_sameMemory _).sram]
  have hplain : (({ kind := kind } : GameGearMapper).load image.val).Plain := by
    unfold load
    rw [if_neg (by simpa using hne)]
    exact reset_plain hne fun _ => ⟨rfl, rfl⟩
  rw [insertedMapper, if_pos hbind, hload, hkind]
  generalize ({ kind := kind } : GameGearMapper).load image.val = cart at *
  have hempty : cart.sram.isEmpty = false := by rw [hsram]; rfl
  have hsize : cart.sram.length = kSramSize := by rw [hsram, List.length_replicate]
  rcases eq_or_ne kind .sega3155365 with rfl | hsaves
  · have hclean : loadSave cart (some saved) = { cart with saveDirty := false } := by
      simp [loadSave, supportsSaveData, markSaveClean, hkind]
    rw [hclean]
    exact ⟨reset_plain hplain.loaded fun _ => ⟨hplain.extraRam, hplain.unmapped⟩, hsize,
      fun _ => hsram⟩
  · have hsupported : cart.supportsSaveData = true := by
      unfold supportsSaveData
      rw [hkind, hempty]
      cases kind <;> simp_all
    rw [loadSave, if_pos hsupported, if_neg hsaves]
    rcases Decidable.em (cart.kind = .codemasters ∧ saved.length = kExtraRamSize) with hextra | hextra
    · rw [importSaveData, if_pos hextra]
      refine ⟨reset_plain hplain.loaded fun hother => absurd hextra.1 hother, hsize,
        fun hlength => ?_⟩
      exact absurd (hextra.2.symm.trans hlength) (by decide)
    · rw [importSaveData, if_neg hextra, importSram, hempty, if_neg Bool.false_ne_true, hsize]
      refine ⟨reset_plain hplain.loaded fun _ => ⟨hplain.extraRam, hplain.unmapped⟩, ?_,
        fun hlength => ?_⟩
      · simp only [List.length_append, List.length_take, List.length_replicate]
        omega
      · simp [hlength, List.take_of_length_le hlength.le]

theorem loadRom_serves_iff (table : List MappingEntry) {C : Type} [osc : Oscillator C]
    (m : GameGearMachine C) (image : AcceptedRom) {path : Option RomPath}
    (hbind : RomPath.allowsSaveBinding path = true) (saved : List Byte) :
    (∃ loaded, loadRom table m image.val path (some saved) = .ok loaded ∧
        loaded.devices.cart.ServesSaveData saved) ↔
      saved.length = kSramSize ∧
        ((MapperFactory.createMapperFromRom table image.val path).kind ≠ .sega3155365 ∨
          saved = List.replicate kSramSize 0) := by
  obtain ⟨hplain, hlength, hsram⟩ := insertedMapper_save table image hbind saved
  have hreset := (insertedMapper table image.val path (some saved)).reset_sameMemory.sram
  rw [loadRom_accepted]
  have hcart : (∃ loaded, Except.ok (ε := String) (m.powerCycle
        (insertedMapper table image.val path (some saved)) (if RomPath.allowsSaveBinding path
          then path.map RomPath.savePath else none)) = .ok loaded ∧
        loaded.devices.cart.ServesSaveData saved)
      ↔ (insertedMapper table image.val path (some saved)).sram = saved := by
    rw [← hreset, ← hplain.serves_iff]
    constructor
    · rintro ⟨loaded, hloaded, hserves⟩
      cases hloaded
      exact hserves
    · exact fun hserves => ⟨_, rfl, hserves⟩
  rw [hcart]
  constructor
  · intro hsame
    have hsize : saved.length = kSramSize := by rw [← hsame, hlength]
    refine ⟨hsize, ?_⟩
    have hvalue := hsram hsize
    split_ifs at hvalue with hkind
    · exact .inr (hsame.symm.trans hvalue)
    · exact .inl hkind
  · rintro ⟨hsize, hkind⟩
    rw [hsram hsize]
    split_ifs with h5365
    · exact (hkind.resolve_left (not_not_intro h5365)).symm
    · rfl

/-- A table with one file name, and the path with it. -/
def listed (mapperId : ℤ) : List MappingEntry := [⟨.filenameExact, ascii "a.gg", mapperId, 1⟩]

def listedPath : Option RomPath := some ⟨[], ascii "a.gg"⟩

theorem listed_kind {mapperId : ℤ} (h : mapperId ≠ -1) (image : AcceptedRom) :
    (MapperFactory.createMapperFromRom (listed mapperId) image.val listedPath).kind
      = (MapperFactory.makeMapperById mapperId).kind := by
  unfold MapperFactory.createMapperFromRom
  rw [if_neg (by simpa using image.property.1)]
  have hfold : (listed mapperId).foldl (MapperFactory.considerEntry image.val
      (toLower (ascii "a.gg"))) (MapperFactory.intMin, -1) = (1, mapperId) := by
    rfl
  simp only [listedPath, hfold]
  rw [if_pos h]
  exact load_kind _ _

open ConsoleSession

theorem loadRom_serves_written :
    ∃ loaded, loadRom (listed 5235) (construct [] : GameGearMachine Unit) oneByteRom.val listedPath
        (some (List.replicate kSramSize 0x5A)) = .ok loaded ∧
      loaded.devices.cart.ServesSaveData (List.replicate kSramSize 0x5A) := by
  refine (loadRom_serves_iff (listed 5235) _ oneByteRom (by decide) _).mpr
    ⟨List.length_replicate, .inl ?_⟩
  rw [listed_kind (by decide)]
  decide

/-- A store that maps the extra RAM and one into it, on a board with no extra RAM yet. -/
theorem cart_after_stores {d : GameGearDevices Unit} (hkind : d.cart.kind = .codemasters)
    (h : d.cart.Plain) {cart : GameGearMapper}
    (hcart : cart = ((d.writeCanonical 0x4000#16 0x80).writeCanonical 0xA000#16 0x5A).cart) :
    cart.kind = .codemasters ∧ cart.extraRamDirty = true ∧
      cart.extraRam.length = kExtraRamSize := by
  have hcontrol : d.cart.handlesControlWrite 0x4000#16 = true := by
    simp [handlesControlWrite, hkind]
  have hslot : (d.writeCanonical 0x4000#16 0x80).cart.kind = .codemasters ∧
      (d.writeCanonical 0x4000#16 0x80).cart.extraRam.length = kExtraRamSize ∧
      (d.writeCanonical 0x4000#16 0x80).cart.extraRamMapped = true := by
    have hsame := writeBase_sameMemory d.cart (show 0xFFFE#16 ≥ 0xFFFC#16 by decide) 0
    have hram := d.cart.writeBase_sameExtraRam 0xFFFE#16 0
    rw [GameGearDevices.writeCanonical, if_pos hcontrol, GameGearDevices.writeControl,
      if_neg (by decide), write, if_pos hkind, if_pos hcontrol]
    refine ⟨hsame.kind.trans hkind, ?_, rfl⟩
    change (if (d.cart.writeBase 0xFFFE#16 0).extraRam.isEmpty then _ else _ : List Byte).length = _
    rw [hram.ram, h.extraRam]
    exact List.length_replicate
  rw [hcart]
  generalize d.writeCanonical 0x4000#16 0x80 = d at hslot
  obtain ⟨hcode, hextra, hmapped⟩ := hslot
  have hlow : d.cart.handlesControlWrite 0xA000#16 = false := by
    simp [handlesControlWrite, hcode, hmapped]
  have hwindow : d.cart.extraWindow 0xA000#16 = true := by simp [extraWindow, hcode, hmapped]
  have hhigh : d.cart.handlesMappedWrite 0xA000#16 = true := by
    rw [handlesMappedWrite, hwindow, Bool.true_or]
  have hroom : (0xA000#16).toNat - 0xA000 < d.cart.extraRam.length := by
    rw [hextra]
    decide
  rw [GameGearDevices.writeCanonical, hlow, if_neg Bool.false_ne_true, if_pos hhigh, write,
    if_pos hcode, hlow, if_neg Bool.false_ne_true, if_pos hwindow, if_pos hroom]
  exact ⟨hcode, rfl, by rw [List.length_set, hextra]⟩

theorem not_served_of_extraRam (m : GameGearMachine Unit)
    (hcode : m.devices.cart.kind = .codemasters) (hdirty : m.devices.cart.extraRamDirty = true)
    (hlength : m.devices.cart.extraRam.length = kExtraRamSize) :
    m.devices.cart.supportsSaveData ∧ m.devices.cart.hasDirtySaveData ∧
      ¬ ∃ loaded, loadRom (listed 999) m oneByteRom.val listedPath
          (some m.devices.cart.exportSaveData) = .ok loaded ∧
        loaded.devices.cart.ServesSaveData m.devices.cart.exportSaveData := by
  generalize hcart : m.devices.cart = cart at *
  have hsome : cart.extraRam ≠ [] := fun hnone => absurd (hnone ▸ hlength) (by decide)
  have hexport : cart.exportSaveData = cart.extraRam := by
    rw [exportSaveData, if_pos ⟨hcode, hsome⟩]
  refine ⟨by simp [supportsSaveData, hcode, hsome], by simp [hasDirtySaveData, hcode, hdirty], ?_⟩
  rintro ⟨loaded, hloaded, hserves⟩
  cases hloaded
  obtain ⟨hplain, hsize, _⟩ := insertedMapper_save (listed 999) oneByteRom
    (show RomPath.allowsSaveBinding listedPath = true by decide) cart.exportSaveData
  have hsram := (hplain.serves_iff _).mp hserves
  rw [(reset_sameMemory _).sram] at hsram
  rw [hsram, hexport, hlength] at hsize
  exact absurd hsize (by decide)

/-- The extra RAM a Codemasters game has written is not there after its image is loaded again. -/
theorem extraRam_lost : ∃ s : ConsoleSession Unit,
    s = reached (listed 999) [] [.loadRom oneByteRom.val listedPath none, .write8 0x4000#16 0x80,
        .write8 0xA000#16 0x5A] ∧
      s.machine.savePath.isSome ∧ s.machine.devices.cart.supportsSaveData ∧
      s.machine.devices.cart.hasDirtySaveData ∧
      ¬ ∃ loaded, loadRom (listed 999) s.machine oneByteRom.val listedPath
          (some s.machine.devices.cart.exportSaveData) = .ok loaded ∧
        loaded.devices.cart.ServesSaveData s.machine.devices.cart.exportSaveData := by
  have hload := loadRom_accepted (listed 999) (start [] : ConsoleSession Unit).machine oneByteRom
    listedPath none
  have hkind := listed_kind (by decide : (999 : ℤ) ≠ -1) oneByteRom
  obtain ⟨kind, hmade⟩ := createMapperFromRom_load (listed 999) oneByteRom listedPath
  have hinserted : (insertedMapper (listed 999) oneByteRom.val listedPath none).kind = .codemasters
      ∧ (insertedMapper (listed 999) oneByteRom.val listedPath none).rom ≠ [] := by
    have hrom := load_rom ({ kind := kind } : GameGearMapper) oneByteRom.val
    rw [hmade] at hkind
    rw [insertedMapper, if_pos (by decide), hmade]
    generalize ({ kind := kind } : GameGearMapper).load oneByteRom.val = cart at *
    have hclean : loadSave cart none = cart.markSaveClean := by
      unfold loadSave
      split <;> rfl
    have hrest : cart.markSaveClean.kind = cart.kind ∧ cart.markSaveClean.rom = cart.rom := by
      unfold markSaveClean
      split <;> exact ⟨rfl, rfl⟩
    rw [hclean, hrest.1, hrest.2, hrom]
    exact ⟨hkind, by decide⟩
  have hplain := reset_plain hinserted.2 fun hother => absurd hinserted.1 hother
  refine ⟨_, rfl, ?_⟩
  obtain ⟨hcode, hdirty, hlength⟩ := cart_after_stores (d := resetDevices
      (start [] : ConsoleSession Unit).machine.devices
      (insertedMapper (listed 999) oneByteRom.val listedPath none))
    ((reset_sameMemory _).kind.trans hinserted.1) hplain rfl
  rw [reached, Transition.run_cons, act_loadRom hload]
  refine ⟨rfl, ?_⟩
  exact not_served_of_extraRam _ hcode hdirty hlength

end GameGearMachine

/-! ## Save states -/

namespace GameGearPSG

variable {C : Type}

structure Exportable (osc : Oscillator C) (p : GameGearPSG C) : Prop where
  accepted : checkState osc p.exportState = .ok ()
  samplesGeneratedTotal : p.samplesGeneratedTotal < 2 ^ 64
  samplePhase : p.samplePhase < 2 ^ 64
  frameCounter : p.frameCounter < 2 ^ 64

theorem exportState_importAccepted {osc : Oscillator C} {p : GameGearPSG C} (h : p.Exportable osc)
    (q : GameGearPSG C) : (q.importAccepted p.exportState).exportState = p.exportState := by
  have hchannel : BitVec.ofNat 8 (Fin.ofNat 4 (BitVec.ofNat 8 p.latchedChannel.val).toNat).val =
      BitVec.ofNat 8 p.latchedChannel.val := by
    generalize p.latchedChannel = channel
    revert channel
    decide
  have hsnapshot (q : GameGearPSG C) (voice : Fin 4) :
      (q.recordWrite 0 0 voice .stateSnapshot false).exportState = q.exportState := by
    rw [recordWrite, if_pos rfl]
    rfl
  rw [importAccepted, recordSnapshots]
  simp only [List.foldl_cons, List.foldl_nil, hsnapshot]
  simp only [exportState, hchannel, Nat.mod_eq_of_lt h.samplesGeneratedTotal,
    Nat.mod_eq_of_lt h.samplePhase, Nat.mod_eq_of_lt h.frameCounter]

end GameGearPSG

namespace GameGearMachine

open GameGearMapper

variable {C : Type} [osc : Oscillator C] {table : List MappingEntry} {m w : GameGearMachine C}

/-- A machine whose state a machine with the same image accepts. -/
structure Saveable (table : List MappingEntry) (image : AcceptedRom) (m : GameGearMachine C) :
    Prop where
  romLoaded : m.romLoaded = true
  rom : m.devices.cart.rom = image.val
  kind : (MapperFactory.createMapperFromRom table image.val none).kind = m.devices.cart.kind
  sram : m.devices.cart.sram.length = kSramSize
  extraRam : m.devices.cart.extraRam.length ≤ kExtraRamSize
  plain : m.devices.cart.kind ≠ .codemasters →
    m.devices.cart.SameExtraRam ({ kind := m.devices.cart.kind })
  bios : m.devices.mem.bios.length ≤ 0x4000
  vdp : m.devices.vdp.Exportable
  irqAsserted : m.devices.vdp.recomputeIrqAsserted = m.devices.vdp
  psg : m.devices.psg.Exportable osc
  imeEnableDelay : m.cpu.imeEnableDelay < 2 ^ 8
  interruptMode : m.cpu.interruptMode ≤ 2

theorem loadState_saveState {image : AcceptedRom} (h : m.Saveable table image)
    (hloaded : w.romLoaded = true) (hrom : w.devices.cart.rom = image.val) :
    ∃ file restored, m.saveState = .ok file ∧ loadState table w file = .ok restored ∧
      restored.saveState = .ok file := by
  obtain ⟨kind, hmade⟩ := createMapperFromRom_load table image none
  have hne := image.property.1
  have hkind := h.kind
  rw [hmade, load_kind] at hkind
  have hcart : (MapperFactory.createMapperFromRom table w.devices.cart.rom none).importState
      m.devices.cart.exportState = .ok m.devices.cart := by
    rw [hrom, hmade]
    refine GameGearMapper.importState_exportState ⟨?_, h.sram.le, h.extraRam⟩
      ((load_kind _ _).trans hkind) ((load_rom _ _).trans h.rom.symm)
      ((length_load_sram _ hne).trans h.sram.symm) fun hother => ?_
    · rw [h.rom]
      exact image.property.2.trans_lt (by decide)
    · have hplain := h.plain hother
      unfold load
      rw [if_neg (by simpa using hne)]
      have hsame := reset_sameExtraRam (m := { ({ kind := kind } : GameGearMapper) with
        rom := image.val, sram := List.replicate kSramSize 0 }) (hkind ▸ hother)
      exact ⟨hsame.ram.trans hplain.ram, hsame.mapped.trans hplain.mapped,
        hsame.dirty.trans hplain.dirty⟩
  have hpsg : w.devices.psg.importState osc m.devices.psg.exportState =
      .ok (w.devices.psg.importAccepted m.devices.psg.exportState) := by
    rw [GameGearPSG.importState, h.psg.accepted]
    rfl
  refine ⟨_, _, if_pos h.romLoaded, loadState_of_chunks hloaded
    (.inr (congrArg GameBoy.crc32 (h.rom.trans hrom.symm))) (MachineMeta.run_reader_serialize _) hcart
    (GameGearMemoryMap.importState_exportState _ _ h.bios)
    (VdpDevice.importState_exportState _ _ h.vdp) hpsg
    (GameGearInput.importState_exportState _)
    (Z80Interpreter.importState_exportState _ _ h.imeEnableDelay h.interruptMode), ?_⟩
  have hvdp : ({ m.devices.vdp with
      decodedCram := m.devices.vdp.decodedCramColor } : VdpDevice).recomputeIrqAsserted.exportState =
      m.devices.vdp.exportState := by
    change m.devices.vdp.recomputeIrqAsserted.exportState = _
    rw [h.irqAsserted]
  have hpsg := GameGearPSG.exportState_importAccepted h.psg w.devices.psg
  unfold saveState
  rw [if_pos (show (publish w _ _ _).romLoaded = true from hloaded)]
  simp only [publish, devices, BitVec.ofNat_toNat, BitVec.setWidth_eq] at hvdp hpsg ⊢
  rw [hvdp, hpsg]
  rfl

open ConsoleSession

theorem loadedMachine_saveable : loadedMachine.Saveable [] oneByteRom := by
  let fresh := ({ kind := .sega3155208 } : GameGearMapper).load [0x00]
  have hcart : loadedMachine.devices.cart = fresh.reset :=
    congrArg GameGearMapper.reset createMapperFromRom_oneByte
  have hsame := reset_sameMemory fresh
  have hkind : fresh.kind = .sega3155208 := load_kind _ _
  have hextra := reset_sameExtraRam (m := fresh) (by rw [hkind]; decide)
  have hplain : fresh.extraRam = [] ∧ fresh.extraRamMapped = false ∧ fresh.extraRamDirty = false :=
    ⟨rfl, rfl, rfl⟩
  constructor
  case psg => exact ⟨by decide, by decide, by decide, by decide⟩
  case vdp => exact ⟨by decide, by decide, by decide⟩
  case irqAsserted => rfl
  case romLoaded => rfl
  case bios => decide
  case imeEnableDelay => decide
  case interruptMode => decide
  all_goals rw [hcart]
  case rom => exact hsame.rom.trans (load_rom _ _)
  case kind => exact (congrArg GameGearMapper.kind createMapperFromRom_oneByte).trans hsame.kind.symm
  case sram => rw [hsame.sram, length_load_sram _ (List.cons_ne_nil _ _)]
  case extraRam =>
    rw [hextra.ram, hplain.1]
    decide
  case plain =>
    exact fun _ => ⟨hplain.1.symm.trans hextra.ram.symm, hplain.2.1.symm.trans hextra.mapped.symm,
      hplain.2.2.symm.trans hextra.dirty.symm⟩

theorem loadState_saveState_loaded : ∃ file restored, loadedMachine.saveState = .ok file ∧
    loadState [] loadedMachine file = .ok restored ∧ restored.saveState = .ok file :=
  loadState_saveState loadedMachine_saveable rfl loadedMachine_saveable.rom

end GameGearMachine

end ProtoTime.GameGear
