import ProtoTime.GameGear.Machine

/-!
What an import makes of an exported chunk, component by component.
-/
namespace ProtoTime.GameGear
open ByteReader
open GameBoy (Byte Addr crc32)

namespace AccessMode

theorem toByte_le (mode : AccessMode) : mode.toByte ≤ cramWrite.toByte := by
  cases mode <;> decide

theorem ofCommand_toByte (mode : AccessMode) : ofCommand mode.toByte.toNat = mode := by
  cases mode <;> rfl

end AccessMode

namespace VdpDevice

/-- The counters fit the widths that the chunk gives them. -/
structure Exportable (v : VdpDevice) : Prop where
  pendingCycles : v.pendingCycles < 2 ^ 32
  scanline : v.scanline < kTotalScanlines
  statusScanline : v.lastStatusScanline < 2 ^ 8

theorem reads_array {n : ℕ} (hn : n < 2 ^ 32) (array : Fin n → Byte) :
    Reads (readArray n) (arrayBytes array) array := by
  have hcount : (BitVec.ofNat 32 n).toNat = n := by
    rw [BitVec.toNat_ofNat, Nat.mod_eq_of_lt hn]
  have hlength : (ofArray array).length = n := List.length_ofFn
  have htake : Reads (take kTruncated n) (ofArray array) (ofArray array) := by
    have h := reads_take kTruncated (ofArray array)
    rwa [hlength] at h
  have htail : Reads (do
      let bytes ← take kTruncated n
      return toArray n bytes : Reader String (Fin n → Byte)) (ofArray array ++ [])
      (toArray n (ofArray array)) := htake.bind (Reads.pure _)
  rw [List.append_nil, toArray_ofArray] at htail
  exact (reads_u32 kTruncated _).bind (check_bind (by rw [hcount, beq_self_eq_true]) htail)

/-- The imported device has the exported fields, with the palette and the interrupt line
computed from them. -/
theorem importState_exportState (v w : VdpDevice) (h : v.Exportable) :
    w.importState v.exportState =
      .ok { v with decodedCram := v.decodedCramColor }.recomputeIrqAsserted := by
  have hpending : (BitVec.ofNat 32 v.pendingCycles).toNat = v.pendingCycles := by
    rw [BitVec.toNat_ofNat, Nat.mod_eq_of_lt h.pendingCycles]
  have hscanline : (BitVec.ofNat 16 v.scanline).toNat = v.scanline := by
    have hlt : v.scanline < 262 := h.scanline
    rw [BitVec.toNat_ofNat, Nat.mod_eq_of_lt (by omega)]
  have hstatus : (BitVec.ofNat 8 v.lastStatusScanline).toNat = v.lastStatusScanline := by
    rw [BitVec.toNat_ofNat, Nat.mod_eq_of_lt h.statusScanline]
  have hready : v.lastReadyScanline.toNat < kTotalScanlines :=
    Nat.lt_trans v.lastReadyScanline.isLt (by decide)
  have hread : ReadsAll w.readState v.exportState { v with decodedCram := w.decodedCram } := by
    unfold exportState
    simp only [List.append_assoc]
    refine (reads_array (by decide) v.vram).bind_all ?_
    refine (reads_array (by decide) v.oam).bind_all ?_
    refine (reads_array (by decide) v.registers).bind_all ?_
    refine (reads_array (by decide) v.cram).bind_all ?_
    refine (reads_u32 kTruncated _).bind_all ?_
    refine (reads_u16 kTruncated _).bind_all ?_
    refine (reads_u8 kTruncated v.lastReadyScanline).bind_all ?_
    refine (reads_u8 kTruncated v.hCounter).bind_all ?_
    refine (reads_u8 kTruncated v.latchedHCounter).bind_all ?_
    iterate 8 refine (reads_flag kTruncated kBooleanInvalid _).bind_all ?_
    refine (reads_u8 kTruncated _).bind_all ?_
    refine (reads_flag kTruncated kBooleanInvalid _).bind_all ?_
    refine (reads_u16 kTruncated _).bind_all ?_
    refine (reads_u8 kTruncated v.commandLow).bind_all ?_
    refine (reads_u8 kTruncated v.readBuffer).bind_all ?_
    refine (reads_u8 kTruncated v.lineCounter).bind_all ?_
    refine (reads_u8 kTruncated v.verticalScrollLatch).bind_all ?_
    refine (reads_u8 kTruncated v.accessMode.toByte).bind_all ?_
    refine (reads_flag kTruncated kBooleanInvalid _).bind_all ?_
    refine (reads_flag kTruncated kBooleanInvalid _).bind_end ?_
    refine left_bind_all (check_bind_all ?_ ?_)
    · rw [hscanline]
      simp [hready, v.accessMode.toByte_le]
      exact h.scanline
    · rw [hpending, hscanline, hstatus, AccessMode.ofCommand_toByte]
      exact ReadsAll.pure _
  unfold importState
  rw [run_eq_ok hread]
  rfl

end VdpDevice

namespace GameGearMemoryMap

/-- The imported map has the exported fields, the boot ROM included. -/
theorem importState_exportState (m w : GameGearMemoryMap) (h : m.bios.length ≤ 0x4000) :
    w.importState m.exportState =
      .ok { m with codeMappingGeneration := w.codeMappingGeneration }.mappingChanged := by
  have hram : (ofArray m.ram).length = 0x2000 := List.length_ofFn
  have hbios : (BitVec.ofNat 32 m.bios.length).toNat = m.bios.length := by
    rw [BitVec.toNat_ofNat, Nat.mod_eq_of_lt (by omega)]
  have hlength : (ofArray m.ram ++ (ofU32 (BitVec.ofNat 32 m.bios.length) ++ m.bios)).length =
      0x2000 + 4 + m.bios.length := by
    rw [List.length_append, List.length_append, hram]
    show 0x2000 + (4 + m.bios.length) = _
    omega
  have hread : ReadsAll w.readState m.exportState
      { m with codeMappingGeneration := w.codeMappingGeneration }.mappingChanged := by
    unfold exportState
    simp only [List.append_assoc]
    refine left_bind_all (check_bind_all ?_ ?_)
    · simp only [List.length_append, hlength, decide_eq_true_eq]
      omega
    refine (reads_u8 kTruncated m.memoryControl).bind_all ?_
    refine (reads_u8 kTruncated m.ioControl).bind_all ?_
    refine (reads_u32 kTruncated _).bind_all ?_
    refine left_bind_all (check_bind_all ?_ ?_)
    · rw [hlength]
      simp only [Bool.and_eq_true, beq_iff_eq, decide_eq_true_eq]
      exact ⟨rfl, by omega⟩
    have htake := reads_take kTruncated (ofArray m.ram)
    rw [hram] at htake
    refine htake.bind_all ?_
    refine (reads_u32 kTruncated _).bind_all ?_
    refine left_bind_all (check_bind_all ?_ ?_)
    · rw [hbios]
      simpa using h
    · rw [toArray_ofArray]
      rfl
  exact run_eq_ok hread

end GameGearMemoryMap

namespace GameGearInput

theorem importState_exportState (i : GameGearInput) : importState i.exportState = .ok i := rfl

end GameGearInput

namespace Z80Interpreter

variable {σ : Type}

/-- The imported processor has the exported registers and the importer's own bus. -/
theorem importState_exportState (c w : Z80Interpreter σ) (hdelay : c.imeEnableDelay < 2 ^ 8)
    (hmode : c.interruptMode ≤ 2) :
    w.importState c.exportState = .ok { c with bus := w.bus } := by
  have hdelay' : (BitVec.ofNat 8 c.imeEnableDelay).toNat = c.imeEnableDelay := by
    rw [BitVec.toNat_ofNat, Nat.mod_eq_of_lt hdelay]
  have hmode' : (BitVec.ofNat 8 c.interruptMode).toNat = c.interruptMode := by
    rw [BitVec.toNat_ofNat, Nat.mod_eq_of_lt (by omega)]
  have hread : ReadsAll w.readState c.exportState { c with bus := w.bus } := by
    unfold exportState
    simp only [List.flatMap_cons, List.flatMap_nil, List.append_assoc, List.append_nil]
    refine (reads_u16 kTruncated c.af).bind_all ?_
    refine (reads_u16 kTruncated c.bc).bind_all ?_
    refine (reads_u16 kTruncated c.de).bind_all ?_
    refine (reads_u16 kTruncated c.hl).bind_all ?_
    refine (reads_u16 kTruncated c.ix).bind_all ?_
    refine (reads_u16 kTruncated c.iy).bind_all ?_
    refine (reads_u16 kTruncated c.sp).bind_all ?_
    refine (reads_u16 kTruncated c.pc).bind_all ?_
    refine (reads_u16 kTruncated c.af_).bind_all ?_
    refine (reads_u16 kTruncated c.bc_).bind_all ?_
    refine (reads_u16 kTruncated c.de_).bind_all ?_
    refine (reads_u16 kTruncated c.hl_).bind_all ?_
    refine (reads_u8 kTruncated c.i).bind_all ?_
    refine (reads_u8 kTruncated c.r).bind_all ?_
    refine (reads_flag kTruncated kBooleanInvalid c.iff1).bind_all ?_
    refine (reads_flag kTruncated kBooleanInvalid c.iff2).bind_all ?_
    refine (reads_flag kTruncated kBooleanInvalid c.ime).bind_all ?_
    refine (reads_u8 kTruncated _).bind_all ?_
    refine (reads_flag kTruncated kBooleanInvalid c.halted).bind_all ?_
    refine (reads_u8 kTruncated _).bind_end ?_
    refine left_bind_all (check_bind_all ?_ ?_)
    · simp [BitVec.le_def, hmode']
      exact hmode
    · rw [hdelay', hmode']
      exact ReadsAll.pure _
  exact run_eq_ok hread

end Z80Interpreter

namespace MachineMeta

theorem run_reader_serialize (m : MachineMeta) : run reader m.serialize = .ok m := by
  obtain ⟨stepCounter, lastAudioFrameCounter, interruptRequested, mask, inputGeneration⟩ := m
  have hend {mask : Option (BitVec 32)} : ReadsAll (do
        let inputGeneration ← u64 kTruncated
        let unread ← left
        check (unread == 0) "Game Gear machine metadata has trailing data"
        return (⟨stepCounter, lastAudioFrameCounter, ofFlag interruptRequested != [0], mask,
          inputGeneration⟩ : MachineMeta)) (ofU64 inputGeneration)
      ⟨stepCounter, lastAudioFrameCounter, interruptRequested, mask, inputGeneration⟩ := by
    refine (reads_u64 kTruncated _).bind_end (left_bind_all (check_bind_all rfl ?_))
    cases interruptRequested <;> exact ReadsAll.pure _
  refine run_eq_ok ?_
  unfold serialize
  simp only [List.append_assoc]
  refine (reads_u64 kTruncated _).bind_all ?_
  refine (reads_u64 kTruncated _).bind_all ?_
  refine (reads_u8 kTruncated (if interruptRequested then 1 else 0)).bind_all ?_
  cases mask with
  | none =>
    refine (reads_u8 kTruncated 0).bind_all (check_bind_all ?_ ?_)
    · cases interruptRequested <;> rfl
    · cases interruptRequested <;> exact hend
  | some mask =>
    refine (reads_u8 kTruncated 1).bind_all (check_bind_all ?_ ?_)
    · cases interruptRequested <;> rfl
    · refine ((reads_u32 _ mask).map (f := some)).bind_all ?_
      cases interruptRequested <;> exact hend

end MachineMeta

namespace GameGearMapper

structure Exportable (m : GameGearMapper) : Prop where
  rom : m.rom.length < 2 ^ 32
  sram : m.sram.length ≤ kSramSize
  extraRam : m.extraRam.length ≤ kExtraRamSize

theorem length_exportBase (m : GameGearMapper) : m.exportBase.length = 17 + m.sram.length := by
  unfold exportBase
  simp only [List.length_append]
  show 4 + 4 + 4 + 1 + 4 + m.sram.length = _
  omega

theorem numBanks_le (m : GameGearMapper) : m.numBanks ≤ m.rom.length + 1 := by
  unfold numBanks
  split
  · omega
  · unfold kPageSize
    omega

/-- What the base chunk carries over. -/
def withBase (w m : GameGearMapper) : GameGearMapper :=
  { w with
    controlRegister := m.controlRegister
    bankRegisters := m.bankRegisters
    saveDirty := m.saveDirty
    sram := m.sram }

theorem readsAll_base {m w : GameGearMapper} (h : m.Exportable)
    (hrom : w.rom = m.rom) (hsram : w.sram.length = m.sram.length) :
    ReadsAll w.readBaseState m.exportBase (w.withBase m) := by
  have hbanks : w.numBanks = m.numBanks := by
    unfold numBanks
    rw [hrom]
  have hmax : kSramSize = 0x8000 := rfl
  have hle := h.sram
  have hsize {n : ℕ} (hn : n < 2 ^ 32) : (BitVec.ofNat 32 n).toNat = n := by
    rw [BitVec.toNat_ofNat, Nat.mod_eq_of_lt hn]
  have hbank : m.numBanks < 2 ^ 32 := by
    have hlt := h.rom
    unfold numBanks at *
    split
    · omega
    · unfold kPageSize at *
      omega
  unfold exportBase
  refine (reads_u32 kTruncated _).bind_all ?_
  refine (reads_u32 kTruncated _).bind_all (check_bind_all ?_ ?_)
  · rw [hsize h.rom, hsize hbank, hrom, hbanks]
    simp
  refine (reads_u8 kTruncated m.controlRegister).bind_all ?_
  refine (reads_u8 kTruncated (m.bankRegisters 0)).bind_all ?_
  refine (reads_u8 kTruncated (m.bankRegisters 1)).bind_all ?_
  refine (reads_u8 kTruncated (m.bankRegisters 2)).bind_all ?_
  refine (reads_flag kTruncated _ m.saveDirty).bind_all ?_
  refine (reads_u32 kTruncated _).bind_all (check_bind_all ?_ ?_)
  · rw [hsize (by omega)]
    simpa using h.sram
  rw [hsize (by omega)]
  refine (reads_take _ m.sram).bind_end (left_bind_all (check_bind_all ?_ ?_))
  · rw [hsram]
    simp
  · have hbankRegisters : (fun i : Fin 3 => if i = 0 then m.bankRegisters 0
        else if i = 1 then m.bankRegisters 1 else m.bankRegisters 2) = m.bankRegisters := by
      funext i
      match i with
      | 0 => rfl
      | 1 => rfl
      | 2 => rfl
    rw [hbankRegisters]
    exact ReadsAll.pure _

theorem readsAll_extra {m : GameGearMapper} (h : m.Exportable) :
    ReadsAll readExtraState (ofU32 (BitVec.ofNat 32 m.extraRam.length) ++ (m.extraRam ++
      (ofFlag m.extraRamMapped ++ ofFlag m.extraRamDirty)))
      (m.extraRam, m.extraRamMapped, m.extraRamDirty) := by
  have hmax : kExtraRamSize = 0x2000 := rfl
  have hle := h.extraRam
  have hsize : (BitVec.ofNat 32 m.extraRam.length).toNat = m.extraRam.length := by
    rw [BitVec.toNat_ofNat, Nat.mod_eq_of_lt (by omega)]
  refine (reads_u32 _ _).bind_all (left_bind_all (check_bind_all ?_ ?_))
  · rw [hsize, List.length_append]
    simp only [Bool.and_eq_true, decide_eq_true_eq, beq_iff_eq]
    exact ⟨hle, rfl⟩
  rw [hsize]
  refine (reads_take _ m.extraRam).bind_all ?_
  refine (reads_u8 _ (if m.extraRamMapped then 1 else 0)).bind_all ?_
  refine (reads_u8 _ (if m.extraRamDirty then 1 else 0)).bind_end (check_bind_all ?_ ?_)
  · cases m.extraRamMapped <;> cases m.extraRamDirty <;> rfl
  · cases m.extraRamMapped <;> cases m.extraRamDirty <;> exact ReadsAll.pure _

/-- A mapper of the same kind over the same image takes the chunk. -/
theorem importState_exportState {m w : GameGearMapper} (h : m.Exportable) (hkind : w.kind = m.kind)
    (hrom : w.rom = m.rom) (hsram : w.sram.length = m.sram.length)
    (hextra : m.kind ≠ .codemasters → m.SameExtraRam w) :
    w.importState m.exportState = .ok m := by
  have hbase := readsAll_base h hrom hsram
  unfold importState exportState
  by_cases hcode : m.kind = .codemasters
  · have hlength : w.exportBase.length = m.exportBase.length := by
      rw [length_exportBase, length_exportBase, hsram]
    rw [if_pos (hkind.trans hcode), if_pos hcode]
    simp only [List.append_assoc]
    have hlong : ¬ (m.exportBase ++ (ofU32 (BitVec.ofNat 32 m.extraRam.length) ++ (m.extraRam ++
        (ofFlag m.extraRamMapped ++ ofFlag m.extraRamDirty)))).length <
          w.exportBase.length + 6 := by
      rw [hlength]
      simp only [List.length_append]
      show ¬ m.exportBase.length + (4 + (m.extraRam.length + (1 + 1))) < m.exportBase.length + 6
      omega
    rw [if_neg hlong, hlength, List.drop_left, List.take_left, run_eq_ok (readsAll_extra h),
      run_eq_ok hbase]
    show Except.ok { w.withBase m with
      extraRam := m.extraRam
      extraRamMapped := m.extraRamMapped
      extraRamDirty := m.extraRamDirty } = _
    unfold withBase
    rw [hkind, hrom]
  · obtain ⟨hram, hmapped, hdirty⟩ := hextra hcode
    rw [if_neg (fun hw => hcode (hkind.symm.trans hw)), if_neg hcode, run_eq_ok hbase]
    unfold withBase
    rw [hkind, hrom, hram, hmapped, hdirty]

end GameGearMapper

namespace GameGearMachine

variable {C : Type} [osc : Oscillator C]

theorem loadState_of_chunks {table : List MappingEntry} {m : GameGearMachine C}
    {file : GameGearStateFile C} {info : MachineMeta} {cart : GameGearMapper}
    {mem : GameGearMemoryMap} {vdp : VdpDevice} {psg : GameGearPSG C} {input : GameGearInput}
    {cpu : Z80Interpreter (GameGearDevices C)} (hrom : m.romLoaded = true)
    (hhash : file.romHash = 0 ∨ file.romHash = crc32 m.devices.cart.rom)
    (hinfo : run MachineMeta.reader file.machine = .ok info)
    (hcart : (MapperFactory.createMapperFromRom table m.devices.cart.rom none).importState
      file.mapper = .ok cart)
    (hmem : m.devices.mem.importState file.memory = .ok mem)
    (hvdp : m.devices.vdp.importState file.vdp = .ok vdp)
    (hpsg : m.devices.psg.importState osc file.psg = .ok psg)
    (hinput : GameGearInput.importState file.input = .ok input)
    (hcpu : m.cpu.importState file.cpu = .ok cpu) :
    loadState table m file = .ok (m.publish info { mem, cart, vdp, psg, input } cpu) := by
  unfold loadState
  rw [if_neg (by rw [hrom]; exact Bool.noConfusion), if_neg (by tauto), hinfo, hcart, hmem, hvdp,
    hpsg, hinput, hcpu]
  rfl

end GameGearMachine

end ProtoTime.GameGear
