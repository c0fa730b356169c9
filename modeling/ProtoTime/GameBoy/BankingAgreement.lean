import ProtoTime.GameBoy.Banking

/-!
When the two banking objects select the same banks. The mapper counts the full
banks of an image, the cartridge the started ones; they fit a request to their
counts by different rules and an unrecognised type byte selects different
controllers.
-/
namespace ProtoTime.GameBoy

open Transition

/-- The bank count of the mapper. -/
def fullBanks (size : ℕ) : ℕ := max 2 (size / 0x4000)

/-- The bank count of the cartridge. -/
def startedBanks (size : ℕ) : ℕ := (size + 0x3FFF) / 0x4000

/-- The requests that both fitting rules resolve alike over an image of `size` bytes. -/
def RequestServed (type : CartridgeMapper) (size request : ℕ) : Prop :=
  match type with
  | .none => True
  | .mbc1 | .mbc2 => request < fullBanks size ∨ fullBanks size = startedBanks size
  | .mbc3 =>
    request < fullBanks size ∨ request % startedBanks size = fullBanks size - 1 ∨
      (fullBanks size = 2 ∧ request % startedBanks size = 0)
  | .mbc5 => request < fullBanks size ∨ request % startedBanks size = fullBanks size - 1

variable {size : ℕ}

theorem fullBanks_le_startedBanks (h : 0x4000 < size) :
    2 ≤ fullBanks size ∧ fullBanks size ≤ startedBanks size := by
  unfold fullBanks startedBanks
  omega

theorem mbc1Bank_of_lt {count request : ℕ} (hlow : request &&& 0x1F ≠ 0) (hr : request < 0x80)
    (h : request < count) : mbc1Bank count request = request := by
  have hmask : request &&& 0x7F = request :=
    (Nat.and_two_pow_sub_one_eq_mod request 7).trans (Nat.mod_eq_of_lt hr)
  have hne : request ≠ 0 := by
    rintro rfl
    exact hlow rfl
  simp [mbc1Bank, hmask, Nat.mod_eq_of_lt h, hlow, hne]

variable {r : BankRegisters}

theorem mbc1_request_bounds (hr : r.InRange .mbc1) :
    r.request .mbc1 &&& 0x1F ≠ 0 ∧ r.request .mbc1 < 0x80 ∧ r.upper <<< 5 ≤ r.request .mbc1 := by
  obtain ⟨hlow, hlow', hupper⟩ := hr
  have hsum : r.request .mbc1 = r.upper * 32 + r.low := by
    simp only [BankRegisters.request]
    rw [← Nat.shiftLeft_add_eq_or_of_lt hlow', Nat.shiftLeft_eq]
  have hmod : r.request .mbc1 &&& 0x1F = r.request .mbc1 % 32 :=
    Nat.and_two_pow_sub_one_eq_mod _ 5
  omega

/-- A served request is fitted to the same bank by both rules. -/
theorem mapperBank_eq_cartridgeBank {type : CartridgeMapper}
    (hsize : 0x4000 < size) (hr : r.InRange type) (h : RequestServed type size (r.request type)) :
    mapperBank type (fullBanks size) (r.request type) =
      cartridgeBank type (startedBanks size) (r.request type) := by
  obtain ⟨hfull, hle⟩ := fullBanks_le_startedBanks hsize
  cases type with
  | none => rfl
  | mbc1 =>
    obtain ⟨hlow, hseven, -⟩ := mbc1_request_bounds hr
    rcases h with h | h
    · simp only [mapperBank, cartridgeBank]
      rw [mbc1Bank_of_lt hlow hseven h, mbc1Bank_of_lt hlow hseven (by omega)]
    · simp only [mapperBank, cartridgeBank, h]
  | mbc2 =>
    rcases h with h | h
    · simp only [mapperBank, cartridgeBank]
      rw [Nat.mod_eq_of_lt h, Nat.mod_eq_of_lt (by omega)]
    · simp only [mapperBank, cartridgeBank, h]
  | mbc3 =>
    have hpos : 1 ≤ r.request .mbc3 := hr.1
    have hone : 1 % startedBanks size = 1 := Nat.mod_eq_of_lt (by omega)
    simp only [mapperBank, cartridgeBank, ge_iff_le]
    rcases h with h | h | ⟨h, h'⟩
    · have hmod := Nat.mod_eq_of_lt (show r.request .mbc3 < startedBanks size by omega)
      rw [if_neg (by omega), hmod, if_neg (by omega)]
    · have hne : ¬ fullBanks size - 1 = 0 := by omega
      rw [h, if_neg hne]
      split_ifs with hge
      · rfl
      · rw [← h]
        exact (Nat.mod_eq_of_lt (by omega)).symm
    · have hge : fullBanks size ≤ r.request .mbc3 := by
        by_contra hlt
        have hmod := Nat.mod_eq_of_lt (show r.request .mbc3 < startedBanks size by omega)
        omega
      rw [if_pos hge, if_pos h', hone, h]
  | mbc5 =>
    simp only [mapperBank, cartridgeBank, ge_iff_le]
    rcases h with h | h
    · rw [if_neg (by omega), Nat.mod_eq_of_lt (by omega)]
    · split_ifs with hge
      · exact h.symm
      · rw [Nat.mod_eq_of_lt (by omega)]

theorem fixedBank_eq_of_served {type : CartridgeMapper}
    (hsize : 0x4000 < size) (hr : r.InRange type) (h : RequestServed type size (r.request type)) :
    BankRegisters.fixedBank type (fullBanks size) r =
      BankRegisters.fixedBank type (startedBanks size) r := by
  obtain ⟨hfull, hle⟩ := fullBanks_le_startedBanks hsize
  unfold BankRegisters.fixedBank
  split_ifs with hmode
  · obtain ⟨rfl, -⟩ := hmode
    obtain ⟨-, -, hupper⟩ := mbc1_request_bounds hr
    rcases h with h | h
    · rw [Nat.mod_eq_of_lt (by omega), Nat.mod_eq_of_lt (by omega)]
    · rw [h]
  · rfl

namespace Banking

/-- Both objects select the same two banks and gate external RAM alike. -/
def Agrees (b : Banking) : Prop :=
  b.mapper.currentRomBank = b.cartridge.switchableBankIndex ∧
    b.mapper.currentFixedRomBank = b.cartridge.fixedBankIndex ∧
    b.mapper.ramEnabled = b.cartridge.ramEnabled

/-- The mapper side of a run: constants of the image and the controller registers. -/
structure MapperTracks (rom : List Byte) (b : Banking) (r : BankRegisters) : Prop where
  type_eq : b.mapper.mapperType = (parseCartridgeMetadata rom).mapper
  count_eq : b.mapper.romBankCount = fullBanks rom.length
  inRange : r.InRange b.mapper.mapperType
  shows : b.mapper.Shows r

structure CartridgeTracks (rom : List Byte) (b : Banking) (r : BankRegisters) : Prop where
  type_eq : b.cartridge.metadata.mapper = (GameBoyCartridge.forcedMetadata rom).mapper
  count_eq : b.cartridge.metadata.romBankCount = startedBanks rom.length
  inRange : r.InRange b.cartridge.metadata.mapper
  shows : b.cartridge.Shows r

variable {rom : List Byte} {b : Banking}

theorem load_mapperTracks {previous : GameBoyMapper}
    (h : load previous rom = .ok b) : MapperTracks rom b .reset := by
  obtain ⟨-, rfl⟩ := load_eq_ok h
  have hcount : (previous.load rom).romBankCount = fullBanks rom.length := by
    simp only [GameBoyMapper.load, fullBanks]
    split_ifs <;> omega
  have hselect : ((previous.load rom).ramBankSelect &&& 0x03#8).toNat = 0 := by
    simp [GameBoyMapper.load]
  refine ⟨rfl, hcount, BankRegisters.reset_inRange _, ⟨rfl, rfl, fun _ => hselect, rfl, ?_⟩⟩
  have hone : mapperBank (previous.load rom).mapperType (fullBanks rom.length) 1 = 1 := by
    have hfull : 2 ≤ fullBanks rom.length := by unfold fullBanks; omega
    cases (previous.load rom).mapperType with
    | none => rfl
    | mbc1 => exact mbc1Bank_of_lt (by decide) (by decide) (by omega)
    | mbc2 => exact Nat.mod_eq_of_lt (by omega)
    | _ => exact if_neg (by omega)
  have hrequest (type : CartridgeMapper) : BankRegisters.reset.request type = 1 := by
    cases type <;> rfl
  rw [hcount, hrequest, hone]
  rfl

theorem load_cartridgeTracks {previous : GameBoyMapper}
    (h : load previous rom = .ok b) (hsize : 0x4000 < rom.length) :
    CartridgeTracks rom b .reset := by
  obtain ⟨-, rfl⟩ := load_eq_ok h
  have hcount := GameBoyCartridge.forcedMetadata_romBankCount rom
  have hbank : (GameBoyCartridge.fresh rom).currentRomBank = 1 := by
    exact if_pos (by omega)
  exact ⟨rfl, hcount, BankRegisters.reset_inRange _,
    ⟨rfl, rfl, rfl, fun _ => rfl, fun _ => hbank⟩⟩

theorem write_mapperTracks (w : GuestWrite) (h : MapperTracks rom b r) :
    MapperTracks rom (b.write w)
      (BankRegisters.write (parseCartridgeMetadata rom).mapper r w) := by
  obtain ⟨htype, hcount, hrange, hshows⟩ := h
  have hshows' := GameBoyMapper.write_shows hshows hrange w
  have hrange' := BankRegisters.write_inRange hrange w
  obtain ⟨low, effective, select, mode, enabled, hframe⟩ :=
    b.mapper.write_frame w.address w.value
  rw [htype] at hrange' hshows'
  refine ⟨?_, ?_, ?_, hshows'⟩
  · simpa only [Banking.write, hframe] using htype
  · simpa only [Banking.write, hframe] using hcount
  · simpa only [Banking.write, hframe, htype] using hrange'

theorem write_cartridgeTracks (w : GuestWrite) (h : CartridgeTracks rom b r) :
    CartridgeTracks rom (b.write w)
      (BankRegisters.write (GameBoyCartridge.forcedMetadata rom).mapper r w) := by
  obtain ⟨htype, hcount, hrange, hshows⟩ := h
  have hshows' := GameBoyCartridge.write_shows hshows w
  have hrange' := BankRegisters.write_inRange hrange w
  obtain ⟨hmetadata, -, -⟩ := b.cartridge.write_frame w.address w.value
  rw [htype] at hrange' hshows'
  refine ⟨?_, ?_, ?_, hshows'⟩
  · simpa only [Banking.write, hmetadata] using htype
  · simpa only [Banking.write, hmetadata] using hcount
  · simpa only [Banking.write, hmetadata, htype] using hrange'

end Banking

/-- The registers that a list of writes leaves in a controller of the given type. -/
def registersAfter (type : CartridgeMapper) (writes : List GuestWrite) : BankRegisters :=
  run (BankRegisters.write type) .reset writes

/-- What the writes last requested is served alike. Where the type byte is unrecognised and the
cartridge falls back to MBC1, the mapper stays at bank one with RAM disabled. -/
def WritesServed (rom : List Byte) (writes : List GuestWrite) : Prop :=
  let type := (GameBoyCartridge.forcedMetadata rom).mapper
  let r := registersAfter type writes
  if (parseCartridgeMetadata rom).mapper = type then
    RequestServed type rom.length (r.request type)
  else r.request type = 1 ∧ r.ramEnabled = false

namespace Banking

theorem forcedMetadata_of_ne {rom : List Byte}
    (h : (parseCartridgeMetadata rom).mapper ≠ (GameBoyCartridge.forcedMetadata rom).mapper) :
    (parseCartridgeMetadata rom).mapper = .none ∧
      (GameBoyCartridge.forcedMetadata rom).mapper = .mbc1 := by
  unfold GameBoyCartridge.forcedMetadata at h ⊢
  dsimp only at h ⊢
  split_ifs at h ⊢ with hforced
  · exact ⟨hforced.1, rfl⟩
  · exact absurd rfl h

theorem run_write_none (r : BankRegisters) (writes : List GuestWrite) :
    run (BankRegisters.write .none) r writes = r := by
  induction writes with
  | nil => rfl
  | cons w writes ih =>
    have hstep : BankRegisters.write .none r w = r := ite_self r
    rw [run_cons, hstep, ih]

/-- For every image longer than one bank, in every state that guest writes reach after loading it
and whose last request is served, the mapper and the cartridge select the same banks and agree on
whether external RAM is enabled. -/
theorem agrees_of_writesServed (previous : GameBoyMapper) (rom : List Byte) (b : Banking)
    (hload : load previous rom = .ok b) (hsize : 0x4000 < rom.length) (writes : List GuestWrite)
    (hserved : WritesServed rom writes) : (run Banking.write b writes).Agrees := by
  have hm := run_relation (R := MapperTracks rom) (fun _ _ w => write_mapperTracks w)
    (load_mapperTracks hload) writes
  have hc := run_relation (R := CartridgeTracks rom) (fun _ _ w => write_cartridgeTracks w)
    (load_cartridgeTracks hload hsize) writes
  obtain ⟨hmtype, hmcount, hmrange, hmshows⟩ := hm
  obtain ⟨hctype, hccount, hcrange, hcshows⟩ := hc
  obtain ⟨hfull, hle⟩ := fullBanks_le_startedBanks hsize
  have hswitch := (run Banking.write b writes).cartridge.switchableBankIndex_eq (by omega)
  have hfixed := hmshows.currentFixedRomBank (by omega)
  rw [hcshows.bankRequest hcrange, hctype, hccount] at hswitch
  have hbank := hmshows.bank
  have hcfixed := hcshows.fixedBankIndex
  rw [hmtype] at hmrange hbank hfixed
  rw [hctype] at hcrange hcfixed
  rw [hmcount] at hbank hfixed
  rw [hccount] at hcfixed
  unfold WritesServed at hserved
  dsimp only [registersAfter] at hserved
  by_cases htype : (parseCartridgeMetadata rom).mapper = (GameBoyCartridge.forcedMetadata rom).mapper
  · rw [if_pos htype] at hserved
    rw [htype] at hbank hfixed hmshows
    refine ⟨?_, ?_, ?_⟩
    · exact hbank.trans ((mapperBank_eq_cartridgeBank hsize hcrange hserved).trans hswitch.symm)
    · exact hfixed.trans ((fixedBank_eq_of_served hsize hcrange hserved).trans hcfixed.symm)
    · exact hmshows.ramEnabled.trans hcshows.ramEnabled.symm
  · rw [if_neg htype] at hserved
    obtain ⟨hnone, hmbc1⟩ := forcedMetadata_of_ne htype
    rw [hmbc1] at hserved hcrange hswitch hcfixed hcshows
    rw [hnone] at hmshows hbank hfixed
    obtain ⟨hrequest, hram⟩ := hserved
    obtain ⟨hlow, hseven, hupper⟩ := mbc1_request_bounds hcrange
    rw [hrequest] at hlow hseven hupper hswitch
    have hzero : (run (BankRegisters.write .mbc1) .reset writes).upper = 0 := by
      rw [Nat.shiftLeft_eq] at hupper
      omega
    refine ⟨?_, ?_, ?_⟩
    · exact hbank.trans ((mbc1Bank_of_lt hlow hseven (by omega)).symm.trans hswitch.symm)
    · rw [hfixed, hcfixed]
      simp [BankRegisters.fixedBank, hzero]
    · rw [hmshows.ramEnabled, hcshows.ramEnabled, hram, run_write_none]
      rfl

/-- Zero bytes with an MBC5 type byte. -/
def mbc5Image (size : ℕ) : List Byte := (List.replicate size 0x00#8).set 0x147 0x19#8

theorem mbc5Image_length (size : ℕ) : (mbc5Image size).length = size := by
  simp [mbc5Image]

theorem mbc5Image_ne_nil (h : 0 < size) : mbc5Image size ≠ [] :=
  List.length_pos_iff.mp (by rwa [mbc5Image_length])

theorem mbc5Image_mapper (h : 0x147 < size) :
    (parseCartridgeMetadata (mbc5Image size)).mapper = .mbc5 ∧
      (GameBoyCartridge.forcedMetadata (mbc5Image size)).mapper = .mbc5 := by
  have htype : (mbc5Image size).getD 0x147 0x00#8 = 0x19#8 := by
    simp [mbc5Image, List.getD_eq_getElem?_getD, h]
  have hmapper : (parseCartridgeMetadata (mbc5Image size)).mapper = .mbc5 := by
    simp only [parseCartridgeMetadata, htype]
    decide
  refine ⟨hmapper, ?_⟩
  rw [GameBoyCartridge.forcedMetadata, if_neg (by simp [hmapper])]
  exact hmapper

theorem agrees_of_writesServed_bankOne :
    (run Banking.write
      ⟨GameBoyMapper.initial.load (mbc5Image 0x8000),
        GameBoyCartridge.fresh (mbc5Image 0x8000)⟩
      [⟨0x2000#16, 0x01#8⟩]).Agrees := by
  have hmapper := mbc5Image_mapper (show 0x147 < 0x8000 by decide)
  refine agrees_of_writesServed .initial (mbc5Image 0x8000) _
    (load_eq _ (mbc5Image_ne_nil (by decide))) (by rw [mbc5Image_length]; decide) _ ?_
  simp only [WritesServed, hmapper.1, hmapper.2, mbc5Image_length,
    if_true]
  left
  decide

/-- Bank two of a two-bank MBC5 image is clamped to bank one by the mapper and wrapped to bank
zero by the cartridge. -/
theorem mbc5_bankTwo_disagrees :
    ¬ ∀ (previous : GameBoyMapper) (rom : List Byte) (b : Banking),
      load previous rom = .ok b → rom.length ≤ 0x100000 → ∀ writes : List GuestWrite,
        (∀ w ∈ writes, w.address < 0x8000#16) → (run Banking.write b writes).Agrees := by
  intro h
  have hload := load_eq .initial (mbc5Image_ne_nil (show 0 < 0x8000 by decide))
  have hlength := mbc5Image_length 0x8000
  have hmapper := mbc5Image_mapper (show 0x147 < 0x8000 by decide)
  have hagrees := (h _ _ _ hload (by rw [hlength]; decide) [⟨0x2000#16, 0x02#8⟩] (by decide)).1
  have hm := write_mapperTracks ⟨0x2000#16, 0x02#8⟩ (load_mapperTracks hload)
  have hc := write_cartridgeTracks ⟨0x2000#16, 0x02#8⟩
    (load_cartridgeTracks hload (by rw [hlength]; decide))
  have hmbank := hm.shows.bank
  rw [hm.type_eq, hm.count_eq, hlength, hmapper.1] at hmbank
  have hcbank := GameBoyCartridge.switchableBankIndex_eq _
    (by rw [hc.count_eq, hlength]; decide)
  rw [hc.shows.bankRequest hc.inRange, hc.type_eq, hc.count_eq, hlength,
    hmapper.2] at hcbank
  have hone := hmbank.symm.trans (hagrees.trans hcbank)
  exact absurd hone (by decide)

end Banking

end ProtoTime.GameBoy
