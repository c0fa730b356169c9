import ProtoTime.GameGear.StateRoundTrip
import ProtoTime.GameGear.Z80Frame
import ProtoTime.Results

/-!
What a newly loaded image inherits from the machine it is loaded into, over runs of the machine
with imported states and boot ROMs.
-/
namespace ProtoTime.GameGear
open Function Transition
open GameBoy (Byte Addr)

def AcceptedRom : Type :=
  { bytes : List Byte // bytes ≠ [] ∧ bytes.length ≤ GameGearMachine.kMaxRomSize }

namespace VdpDevice

variable (v : VdpDevice)

@[simp] theorem reset_smsMode : v.reset.smsMode = v.smsMode := by
  unfold reset hideSprites
  dsimp only
  split <;> rfl

@[simp] theorem step_smsMode (cpuCycles : ℕ) : (v.step cpuCycles).smsMode = v.smsMode := by
  have hline (displayOn : Bool) (v : VdpDevice) :
      (advanceLine displayOn v).smsMode = v.smsMode := by
    unfold advanceLine enterVBlank countLine finishLine
    dsimp only
    split_ifs <;> rfl
  have hlines (displayOn : Bool) (n : ℕ) (v : VdpDevice) :
      ((advanceLine displayOn)^[n] v).smsMode = v.smsMode := by
    induction n generalizing v with
    | zero => rfl
    | succ n ih => exact (ih (advanceLine displayOn v)).trans (hline displayOn v)
  exact hlines _ _ _

@[simp] theorem writeCompatRegister_smsMode (index : ℕ) (value : Byte) :
    (v.writeCompatRegister index value).smsMode = v.smsMode := by
  unfold writeCompatRegister
  dsimp only
  split_ifs <;> rfl

theorem writeRegister_smsMode (address : Addr) (value : Byte) :
    (v.writeRegister address value).smsMode = v.smsMode := by
  unfold writeRegister
  split
  · rfl
  · exact v.writeCompatRegister_smsMode _ _

theorem writeVram_smsMode (address : Addr) (value : Byte) :
    (v.writeVram address value).smsMode = v.smsMode := by
  unfold writeVram
  split <;> rfl

theorem writeOam_smsMode (address : Addr) (value : Byte) :
    (v.writeOam address value).smsMode = v.smsMode := by
  unfold writeOam
  dsimp only
  split
  · split <;> rfl
  · rfl

theorem readControlPort_smsMode : v.readControlPort.2.smsMode = v.smsMode := by
  unfold readControlPort
  dsimp only
  split <;> rfl

theorem writeDataPort_smsMode (value : Byte) : (v.writeDataPort value).smsMode = v.smsMode := by
  unfold writeDataPort
  dsimp only
  split_ifs <;> rfl

theorem writeControlPort_smsMode (value : Byte) :
    (v.writeControlPort value).smsMode = v.smsMode := by
  unfold writeControlPort executeCommand
  dsimp only
  split_ifs
  · exact writeCompatRegister_smsMode _ _ _
  · rfl
  · rfl
  · rfl

end VdpDevice

namespace GameGearDevices

variable {C : Type}

variable (d : GameGearDevices C)

/-- What a load of an image keeps of the devices. -/
def lasting : List Byte × Bool := (d.mem.bios, d.vdp.smsMode)

theorem lasting_writeControl (addr : Addr) (value : Byte) :
    (d.writeControl addr value).lasting = d.lasting := by
  unfold writeControl
  split <;> rfl

theorem lasting_writeControlPorts (port value : Byte) :
    (d.writeControlPorts port value).lasting = d.lasting := by
  unfold writeControlPorts
  split_ifs <;> rfl

theorem lasting_readIoCanonical (port : Byte) : (d.readIoCanonical port).2.lasting = d.lasting := by
  unfold readIoCanonical
  split_ifs
  · rfl
  · rfl
  · exact congrArg (Prod.mk d.mem.bios) d.vdp.readControlPort_smsMode
  · rfl
  · rfl
  · rfl
  · rfl

variable [osc : Oscillator C]

theorem lasting_writeCanonical (addr : Addr) (value : Byte) :
    (d.writeCanonical addr value).lasting = d.lasting := by
  unfold writeCanonical
  split_ifs
  · exact d.lasting_writeControl addr value
  · rfl
  · exact congrArg (Prod.mk d.mem.bios) (d.vdp.writeVram_smsMode addr value)
  · exact congrArg (Prod.mk d.mem.bios) (d.vdp.writeOam_smsMode addr value)
  · exact congrArg (Prod.mk d.mem.bios) (d.vdp.writeRegister_smsMode addr value)
  · rfl
  · rfl
  · rfl
  · rfl
  · rfl

theorem lasting_writeIoCanonical (port value : Byte) :
    (d.writeIoCanonical port value).lasting = d.lasting := by
  unfold writeIoCanonical
  split_ifs
  · rfl
  · rfl
  · exact d.lasting_writeControlPorts port value
  · exact congrArg (Prod.mk d.mem.bios) (d.vdp.writeDataPort_smsMode value)
  · exact congrArg (Prod.mk d.mem.bios) (d.vdp.writeControlPort_smsMode value)
  · rfl
  · rfl

theorem lasting_invariant (kept : List Byte × Bool) :
    Z80Interpreter.BusInvariant fun d : GameGearDevices C => d.lasting = kept where
  memRead _ _ h := h
  memFetch _ _ h := h
  memWrite addr value d h := (d.lasting_writeCanonical addr value).trans h
  readIo _ d h := (d.lasting_readIoCanonical _).trans h
  writeIo _ value d h := (d.lasting_writeIoCanonical _ value).trans h
  interruptRequest _ h := h

end GameGearDevices

namespace GameGearMachine

variable {C : Type} [osc : Oscillator C]

variable (m : GameGearMachine C)

omit osc in
theorem lasting_flush : m.flushCartridgeSaveOnSchedule.devices.lasting = m.devices.lasting := by
  unfold flushCartridgeSaveOnSchedule
  dsimp only
  split <;> rfl

theorem lasting_onInstructionRetired (retiredCycles : ℕ) :
    (m.onInstructionRetired retiredCycles).devices.lasting = m.devices.lasting := by
  have hvdp := m.devices.vdp.step_smsMode retiredCycles
  have hpair := congrArg (Prod.mk m.devices.mem.bios) hvdp
  unfold onInstructionRetired
  dsimp only
  split
  · exact (lasting_flush _).trans hpair
  · exact hpair

theorem lasting_step : m.step.devices.lasting = m.devices.lasting := by
  unfold step
  split
  · have hcpu := (GameGearDevices.lasting_invariant m.devices.lasting).step m.cpu rfl
    exact (lasting_onInstructionRetired _ _).trans hcpu
  · rfl

/-- The processor and its devices, without the version number that marks cached code stale. -/
def emulated : Z80Interpreter (GameGearDevices C) :=
  { m.cpu with bus := { m.devices with
    mem := { m.devices.mem with codeMappingGeneration := 0 } } }

/-- The emulated state after loading an image into a machine with the given lasting state. -/
def freshlyLoaded (lasting : List Byte × Bool) (cart : GameGearMapper) :
    Z80Interpreter (GameGearDevices C) :=
  let mem : GameGearMemoryMap := ({ bios := lasting.1 } : GameGearMemoryMap).reset
  Z80Interpreter.reset {
    bus := {
      mem := { mem with codeMappingGeneration := 0 }
      cart := cart
      vdp := { VdpDevice.construct with smsMode := lasting.2 }.reset
      psg := (GameGearPSG.construct osc).reset osc
      input := ({} : GameGearInput).reset } }

theorem loadRom_accepted (table : List MappingEntry) (m : GameGearMachine C)
    (image : AcceptedRom) (path : Option RomPath) (saveFile : Option (List Byte)) :
    loadRom table m image.val path saveFile =
      .ok (m.powerCycle (insertedMapper table image.val path saveFile)
        (if RomPath.allowsSaveBinding path then path.map RomPath.savePath else none)) := by
  obtain ⟨bytes, hne, hsize⟩ := image
  unfold loadRom
  rw [if_neg (by simpa using hne), if_neg (by simpa using hsize)]

theorem loadRom_emulated (table : List MappingEntry) (m : GameGearMachine C) (image : AcceptedRom)
    (path : Option RomPath) (saveFile : Option (List Byte)) :
    (loadRom table m image.val path saveFile).map emulated =
      .ok (freshlyLoaded m.devices.lasting
        (insertedMapper table image.val path saveFile).reset) := by
  rw [loadRom_accepted]
  rfl

theorem freshlyLoaded_inj {lasting lasting' : List Byte × Bool} {cart : GameGearMapper} :
    (freshlyLoaded lasting cart : Z80Interpreter (GameGearDevices C)) =
      freshlyLoaded lasting' cart ↔ lasting = lasting' := by
  constructor
  · intro h
    have hbios := congrArg (fun c => c.bus.mem.bios) h
    have hmode := congrArg (fun c => c.bus.vdp.smsMode) h
    have hmode' : lasting.2 = lasting'.2 := by
      simpa [freshlyLoaded, Z80Interpreter.reset] using hmode
    exact Prod.ext hbios hmode'
  · intro h
    rw [h]

end GameGearMachine

/-- A machine and the boot ROM it was last configured with. -/
structure ConsoleSession (C : Type) where
  machine : GameGearMachine C
  configured : List Byte

namespace ConsoleSession

open GameGearMachine

variable {C : Type} [osc : Oscillator C]

/-- What can happen to a machine from outside, and its own steps. A translated instruction is a
sequence of bus accesses, a change of registers and a retirement. -/
inductive Action (C : Type) where
  | step
  | write8 (address : Addr) (value : Byte)
  | writePort (port value : Byte)
  | readPort (port : Byte)
  | writeRegisters (registers : Z80Interpreter Unit)
  | retire (cycles : ℕ)
  | commitInput (pressedMask : BitVec 32)
  | loadExternalBootRom (bytes : List Byte)
  | loadRom (bytes : List Byte) (path : Option RomPath) (saveFile : Option (List Byte))
  | loadState (file : GameGearStateFile C)

def start (providerBootRom : List Byte) : ConsoleSession C :=
  ⟨construct providerBootRom, providerBootRom⟩

/-- A refused request leaves the machine as it is. -/
def tryMachine (s : ConsoleSession C) (result : Except String (GameGearMachine C)) :
    ConsoleSession C :=
  match result with
  | .ok machine => { s with machine := machine }
  | .error _ => s

def act (table : List MappingEntry) (s : ConsoleSession C) : Action C → ConsoleSession C
  | .step => { s with machine := s.machine.step }
  | .write8 address value => { s with machine := s.machine.write8 address value }
  | .writePort port value => { s with
    machine := s.machine.withDevices (s.machine.devices.writeIoCanonical port value) }
  | .readPort port => { s with
    machine := s.machine.withDevices (s.machine.devices.readIoCanonical port).2 }
  | .writeRegisters registers => { s with
    machine := { s.machine with cpu := { registers with bus := s.machine.devices } } }
  | .retire cycles => { s with machine := s.machine.onInstructionRetired cycles }
  | .commitInput pressedMask => { s with machine := s.machine.commitInput pressedMask }
  | .loadExternalBootRom bytes => ⟨s.machine.loadExternalBootRom bytes, bytes⟩
  | .loadRom bytes path saveFile => s.tryMachine (loadRom table s.machine bytes path saveFile)
  | .loadState file => s.tryMachine (loadState table s.machine file)

variable {table : List MappingEntry}

theorem act_loadRom {s : ConsoleSession C}
    {loaded : GameGearMachine C} {bytes : List Byte} {path : Option RomPath}
    {saveFile : Option (List Byte)} (h : loadRom table s.machine bytes path saveFile = .ok loaded) :
    act table s (.loadRom bytes path saveFile) = ⟨loaded, s.configured⟩ := by
  show s.tryMachine (loadRom table s.machine bytes path saveFile) = _
  rw [h]
  rfl

theorem act_loadState {s : ConsoleSession C}
    {loaded : GameGearMachine C} {file : GameGearStateFile C}
    (h : loadState table s.machine file = .ok loaded) :
    act table s (.loadState file) = ⟨loaded, s.configured⟩ := by
  show s.tryMachine (loadState table s.machine file) = _
  rw [h]
  rfl

/-- The states a machine can be in. -/
def reached (table : List MappingEntry) (providerBootRom : List Byte) (actions : List (Action C)) :
    ConsoleSession C :=
  run (act table) (start providerBootRom) actions

/-- An imported state brings the configured boot ROM and no Master System mode. -/
def KeepsConfiguration (s : ConsoleSession C) : Action C → Prop
  | .loadState file =>
    (∀ mem, s.machine.devices.mem.importState file.memory = .ok mem → mem.bios = s.configured) ∧
      ∀ vdp, s.machine.devices.vdp.importState file.vdp = .ok vdp → vdp.smsMode = false
  | _ => True

/-- The machine has the configured boot ROM and is not in Master System mode. -/
def Configured (s : ConsoleSession C) : Prop :=
  s.machine.devices.lasting = (s.configured, false)

def afterLoad (table : List MappingEntry) (s : ConsoleSession C) (image : AcceptedRom)
    (path : Option RomPath) (saveFile : Option (List Byte)) :
    Except String (Z80Interpreter (GameGearDevices C)) :=
  (loadRom table s.machine image.val path saveFile).map emulated

theorem afterLoad_eq_iff (table : List MappingEntry) (s s' : ConsoleSession C)
    (image : AcceptedRom) (path : Option RomPath) (saveFile : Option (List Byte)) :
    afterLoad table s image path saveFile = afterLoad table s' image path saveFile ↔
      s.machine.devices.lasting = s'.machine.devices.lasting := by
  unfold afterLoad
  rw [loadRom_emulated, loadRom_emulated]
  exact ⟨fun h => freshlyLoaded_inj.mp (Except.ok.inj h),
    fun h => congrArg Except.ok (freshlyLoaded_inj.mpr h)⟩

theorem start_configured (providerBootRom : List Byte) :
    (start providerBootRom : ConsoleSession C).Configured := by
  cases providerBootRom with
  | nil => rfl
  | cons byte rest => rfl

theorem lasting_loadRom {m loaded : GameGearMachine C}
    {bytes : List Byte} {path : Option RomPath} {saveFile : Option (List Byte)}
    (h : loadRom table m bytes path saveFile = .ok loaded) :
    loaded.devices.lasting = m.devices.lasting := by
  unfold loadRom at h
  split at h
  · cases h
  · split at h
    · cases h
    · cases h
      exact congrArg (Prod.mk m.devices.mem.bios) m.devices.vdp.reset_smsMode

theorem loadState_chunks {m loaded : GameGearMachine C}
    {file : GameGearStateFile C} (h : loadState table m file = .ok loaded) :
    ∃ mem vdp, m.devices.mem.importState file.memory = .ok mem ∧
      m.devices.vdp.importState file.vdp = .ok vdp ∧
      loaded.devices.lasting = (mem.bios, vdp.smsMode) := by
  unfold loadState at h
  dsimp only at h
  split_ifs at h
  obtain ⟨info, _, h⟩ := Results.bind_eq_ok h
  obtain ⟨cart, _, h⟩ := Results.bind_eq_ok h
  obtain ⟨mem, hmem, h⟩ := Results.bind_eq_ok h
  obtain ⟨vdp, hvdp, h⟩ := Results.bind_eq_ok h
  obtain ⟨psg, _, h⟩ := Results.bind_eq_ok h
  obtain ⟨input, _, h⟩ := Results.bind_eq_ok h
  obtain ⟨cpu, _, h⟩ := Results.bind_eq_ok h
  cases h
  exact ⟨mem, vdp, hmem, hvdp, rfl⟩

theorem act_configured (s : ConsoleSession C) (action : Action C)
    (hkeeps : s.KeepsConfiguration action) (hs : s.Configured) :
    (act table s action).Configured := by
  unfold Configured at *
  cases action with
  | step => exact (lasting_step s.machine).trans hs
  | write8 address value =>
    exact (GameGearDevices.lasting_writeCanonical s.machine.devices address value).trans hs
  | writePort port value =>
    exact (GameGearDevices.lasting_writeIoCanonical s.machine.devices port value).trans hs
  | readPort port => exact (GameGearDevices.lasting_readIoCanonical _ port).trans hs
  | writeRegisters registers => exact hs
  | retire cycles => exact (lasting_onInstructionRetired s.machine cycles).trans hs
  | commitInput pressedMask => exact hs
  | loadExternalBootRom bytes => exact congrArg (Prod.mk bytes) (congrArg Prod.snd hs)
  | loadRom bytes path saveFile =>
    simp only [act, tryMachine]
    split
    · next machine hloaded => exact (lasting_loadRom hloaded).trans hs
    · exact hs
  | loadState file =>
    simp only [act, tryMachine]
    split
    · next machine hloaded =>
      obtain ⟨mem, vdp, hmem, hvdp, hlasting⟩ := loadState_chunks hloaded
      rw [hlasting, hkeeps.1 mem hmem, hkeeps.2 vdp hvdp]
    · exact hs

/-- Loading an image forgets all but the mapped boot ROM and the Master System mode: two
machines are the same afterwards just when they agreed on these. In particular they are where
both had the same boot ROM configured and no imported state brought another or set the mode. -/
theorem loadRom_forgets_iff (table : List MappingEntry) (boot boot' : List Byte)
    (actions actions' : List (Action C)) (image : AcceptedRom) (path : Option RomPath)
    (saveFile : Option (List Byte)) :
    (afterLoad table (reached table boot actions) image path saveFile =
        afterLoad table (reached table boot' actions') image path saveFile ↔
      (reached table boot actions).machine.devices.mem.bios =
          (reached table boot' actions').machine.devices.mem.bios ∧
        (reached table boot actions).machine.devices.vdp.smsMode =
          (reached table boot' actions').machine.devices.vdp.smsMode) ∧
      (Guarded (act table) KeepsConfiguration (start boot) actions →
        Guarded (act table) KeepsConfiguration (start boot') actions' →
        (reached table boot actions).configured = (reached table boot' actions').configured →
        afterLoad table (reached table boot actions) image path saveFile =
          afterLoad table (reached table boot' actions') image path saveFile) := by
  constructor
  · rw [afterLoad_eq_iff]
    exact Prod.ext_iff
  · intro hkeeps hkeeps' hconfigured
    have hs : (reached table boot actions).Configured :=
      run_invariant_of_guarded act_configured (start_configured boot) hkeeps
    have hs' : (reached table boot' actions').Configured :=
      run_invariant_of_guarded act_configured (start_configured boot') hkeeps'
    unfold Configured at hs hs'
    rw [afterLoad_eq_iff, hs, hs', hconfigured]

/-- An oscillator that never passes a period. -/
instance silentOscillator : Oscillator Unit where
  zero := ()
  advance _ _ := ((), 0)
  importable _ := true

/-- An image of one byte. -/
def oneByteRom : AcceptedRom := ⟨[0x00], by decide, by decide⟩

/-- A used machine and a new one agree after a load where no state was imported. -/
theorem loadRom_forgets_used :
    afterLoad [] (reached [] [] [.step, .loadRom [0x3E] none none, .step] : ConsoleSession Unit)
        oneByteRom none none =
      afterLoad [] (reached [] [] []) oneByteRom none none :=
  (loadRom_forgets_iff [] [] [] [.step, .loadRom [0x3E] none none, .step] [] oneByteRom none
    none).2 ⟨trivial, trivial, trivial, trivial⟩ trivial rfl

/-- The new machine with the one-byte image loaded. -/
def loadedMachine : GameGearMachine Unit :=
  (construct []).powerCycle (insertedMapper [] [0x00] none none) none

def masterSystemState : GameGearStateFile Unit where
  romHash := 0
  machine := MachineMeta.serialize ⟨0, 0, false, none, 0⟩
  cpu := loadedMachine.cpu.exportState
  memory := loadedMachine.devices.mem.exportState
  vdp := { VdpDevice.construct with smsMode := true }.exportState
  psg := loadedMachine.devices.psg.exportState
  input := loadedMachine.devices.input.exportState
  mapper := loadedMachine.devices.cart.exportState

theorem createMapperFromRom_oneByte :
    MapperFactory.createMapperFromRom [] [0x00] none =
      ({ kind := .sega3155208 } : GameGearMapper).load [0x00] := by
  have hhint : MapperFactory.hintedMapperId [0x00] [] = -1 := by decide
  have hsize : MapperFactory.makeMapperById (MapperFactory.sizedMapperId 1) =
      { kind := .sega3155208 } := rfl
  exact congrArg (fun mapper => GameGearMapper.load mapper [0x00]) hsize

theorem loadedMachine_mapper :
    (MapperFactory.createMapperFromRom [] loadedMachine.devices.cart.rom none).importState
      loadedMachine.devices.cart.exportState = .ok loadedMachine.devices.cart := by
  let fresh := ({ kind := .sega3155208 } : GameGearMapper).load [0x00]
  have hcart : loadedMachine.devices.cart = fresh.reset :=
    congrArg GameGearMapper.reset createMapperFromRom_oneByte
  have hsame := GameGearMapper.reset_sameMemory fresh
  have hrom : fresh.reset.rom = [0x00] := hsame.rom.trans (GameGearMapper.load_rom _ _)
  have hsram : fresh.sram.length = GameGearMapper.kSramSize :=
    GameGearMapper.length_load_sram _ (List.cons_ne_nil _ _)
  have hkind : fresh.kind = .sega3155208 := GameGearMapper.load_kind _ _
  have hother : fresh.kind ≠ .codemasters := by
    rw [hkind]
    decide
  have hextra := GameGearMapper.reset_sameExtraRam hother
  have hnone : fresh.extraRam = [] := rfl
  have hexportable : fresh.reset.Exportable := by
    refine ⟨?_, ?_, ?_⟩
    · decide
    · rw [hsame.sram, hsram]
    · decide
  rw [hcart, hrom, createMapperFromRom_oneByte]
  refine GameGearMapper.importState_exportState hexportable hsame.kind.symm hsame.rom.symm ?_ ?_
  · rw [hsame.sram]
  · exact fun _ => ⟨hextra.ram.symm, hextra.mapped.symm, hextra.dirty.symm⟩

theorem masterSystemState_loads :
    ∃ loaded, loadState [] loadedMachine masterSystemState = .ok loaded ∧
      loaded.devices.lasting = ([], true) := by
  have hmem := GameGearMemoryMap.importState_exportState loadedMachine.devices.mem
    loadedMachine.devices.mem (Nat.zero_le _)
  have hvdp := VdpDevice.importState_exportState { VdpDevice.construct with smsMode := true }
    loadedMachine.devices.vdp ⟨by decide, by decide, by decide⟩
  have hcpu := Z80Interpreter.importState_exportState loadedMachine.cpu loadedMachine.cpu
    (by decide) (by decide)
  have hpsg : loadedMachine.devices.psg.importState silentOscillator masterSystemState.psg =
      .ok (loadedMachine.devices.psg.importAccepted masterSystemState.psg) := by
    have hcheck : GameGearPSG.checkState silentOscillator masterSystemState.psg = .ok () := by
      decide
    unfold GameGearPSG.importState
    rfl
  have hinfo := MachineMeta.run_reader_serialize ⟨0, 0, false, none, 0⟩
  have hinput := GameGearInput.importState_exportState loadedMachine.devices.input
  exact ⟨_, loadState_of_chunks rfl (.inl rfl) hinfo loadedMachine_mapper hmem
    hvdp hpsg hinput hcpu, rfl⟩

/-- Without a boot ROM, the Master System mode of an imported state is still on in the next game. -/
theorem loadRom_remembers_mode :
    (reached [] [] [] : ConsoleSession Unit).configured =
        (reached [] [] [.loadRom [0x00] none none, .loadState masterSystemState]).configured ∧
      afterLoad [] (reached [] [] [] : ConsoleSession Unit) oneByteRom none none ≠
        afterLoad [] (reached [] [] [.loadRom [0x00] none none, .loadState masterSystemState])
          oneByteRom none none := by
  obtain ⟨loaded, hloaded, hlasting⟩ := masterSystemState_loads
  have hrun : (reached [] [] [.loadRom [0x00] none none, .loadState masterSystemState] :
      ConsoleSession Unit) = ⟨loaded, []⟩ := by
    have hrom : loadRom [] (start [] : ConsoleSession Unit).machine [0x00] none none =
        .ok loadedMachine := loadRom_accepted [] _ oneByteRom none none
    unfold reached
    rw [run_cons, run_cons, run_nil, act_loadRom hrom]
    exact act_loadState hloaded
  rw [hrun]
  refine ⟨rfl, fun heq => ?_⟩
  have hsame := (afterLoad_eq_iff _ _ _ _ _ _).mp heq
  have hfresh : (reached [] [] [] : ConsoleSession Unit).machine.devices.lasting = ([], false) :=
    start_configured []
  rw [hlasting, hfresh] at hsame
  exact Bool.noConfusion (congrArg Prod.snd hsame)

end ConsoleSession

end ProtoTime.GameGear
