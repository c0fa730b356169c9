import Mathlib.Algebra.Order.BigOperators.Group.List
import ProtoTime.Modding.ModHost

/-!
The saved regions and their bytes determine each other: what is exported is read
back, and what is read was exported by regions of the same layout.
-/
namespace ProtoTime.Modding

open Results
open ByteReader hiding bind_eq_ok

/-! ## Layouts -/

def savedSize (rs : List Region) : ℕ := (rs.map fun r => 16 + r.name.length + r.bytes.length).sum

variable {r : Region} {bytes : List Byte}

@[simp] theorem layout_withBytes
    (h : bytes.length = r.bytes.length) : (r.withBytes bytes).layout = r.layout := by
  unfold Region.layout Region.withBytes
  rw [h]

variable {rs : List Region}

theorem zipWith_layout {bytes : List (List Byte)}
    (h : bytes.map List.length = rs.map (·.bytes.length)) :
    (rs.zipWith Region.withBytes bytes).map Region.layout = rs.map Region.layout := by
  induction rs generalizing bytes with
  | nil => rfl
  | cons r rs ih =>
    cases bytes with
    | nil => cases h
    | cons b bytes =>
      obtain ⟨hlength, hrest⟩ := List.cons.inj h
      rw [List.zipWith_cons_cons, List.map_cons, List.map_cons, ih hrest, layout_withBytes hlength]

variable {os : List Region}

theorem zipWith_own (h : os.map Region.layout = rs.map Region.layout) :
    rs.zipWith Region.withBytes (os.map Region.bytes) = os := by
  induction rs generalizing os with
  | nil =>
    cases os with
    | nil => rfl
    | cons o os => cases h
  | cons r rs ih =>
    cases os with
    | nil => cases h
    | cons o os =>
      obtain ⟨hfirst, hrest⟩ := List.cons.inj h
      simp only [Region.layout, Layout.mk.injEq] at hfirst
      rw [List.map_cons, List.zipWith_cons_cons, ih hrest, Region.withBytes, ← hfirst.1,
        ← hfirst.2.2.1, ← hfirst.2.2.2]

theorem layouts_of_bindings (hbindings : rs.map Region.binding
    = os.map Region.binding) (hsizes : rs.map (·.bytes.length) = os.map (·.bytes.length)) :
    rs.map Region.layout = os.map Region.layout := by
  induction rs generalizing os with
  | nil =>
    cases os with
    | nil => rfl
    | cons o os => cases hbindings
  | cons r rs ih =>
    cases os with
    | nil => cases hbindings
    | cons o os =>
      obtain ⟨hbinding, hrest⟩ := List.cons.inj hbindings
      obtain ⟨hsize, hsizes⟩ := List.cons.inj hsizes
      rw [List.map_cons, List.map_cons, ih hrest hsizes]
      unfold Region.binding at hbinding
      unfold Region.layout
      simp only [Binding.mk.injEq] at hbinding
      dsimp only at hsize
      rw [hbinding.1, hbinding.2.1, hbinding.2.2, hsize]

/-! ## The size of the saved regions -/

theorem checkedSize_iff {size : ℕ} (h : size ≤ kStateBudget) :
    (∃ total, ModHost.checkedSize size rs = .ok total) ↔ size + savedSize rs ≤ kStateBudget := by
  induction rs generalizing size with
  | nil =>
    constructor
    · intro _
      simpa [savedSize] using h
    · exact fun _ => ⟨size, rfl⟩
  | cons r rs ih =>
    have hsum : savedSize (r :: rs) = 16 + r.name.length + r.bytes.length + savedSize rs := by
      simp [savedSize]
    have hbudget : 16 ≤ kStateBudget := by decide
    unfold ModHost.checkedSize
    split_ifs with hlarge
    · constructor
      · rintro ⟨total, htotal⟩
        cases htotal
      · intro hfits
        omega
    · rw [ih (by omega), hsum]
      omega

theorem length_exportRegion (r : Region) :
    (ModHost.exportRegion r).length = 16 + r.name.length + r.bytes.length := by
  simp only [ModHost.exportRegion, List.length_append, length_ofU32]
  omega

theorem length_exportRegions (rs : List Region) :
    (rs.flatMap ModHost.exportRegion).length = savedSize rs := by
  rw [List.length_flatMap]
  simp only [length_exportRegion, savedSize]

theorem sixteen_mul_length_le (rs : List Region) : 16 * rs.length ≤ savedSize rs := by
  induction rs with
  | nil => exact Nat.zero_le _
  | cons r rs ih =>
    simp only [savedSize, List.map_cons, List.sum_cons, List.length_cons] at *
    omega

theorem exportState_eq (h : ModHost) (hfits : 8 + savedSize h.regions ≤ kStateBudget) :
    h.exportState = .ok (ofU32 2 ++ ofU32 (BitVec.ofNat 32 h.regions.length)
      ++ h.regions.flatMap ModHost.exportRegion) := by
  obtain ⟨total, htotal⟩ := (checkedSize_iff (by decide)).mpr hfits
  unfold ModHost.exportState
  rw [htotal]
  rfl

variable {h : ModHost}

theorem exportState_eq_ok (hbytes : h.exportState = .ok bytes) :
    8 + savedSize h.regions ≤ kStateBudget ∧ bytes = ofU32 2
      ++ ofU32 (BitVec.ofNat 32 h.regions.length) ++ h.regions.flatMap ModHost.exportRegion := by
  obtain ⟨total, htotal, hbytes⟩ := bind_eq_ok hbytes
  cases hbytes
  exact ⟨(checkedSize_iff (by decide)).mp ⟨total, htotal⟩, rfl⟩

/-! ## Reading what was exported -/

theorem toNat_ofNat_length {α : Type} {xs : List α} (h : xs.length < 2 ^ 32) :
    ((BitVec.ofNat 32 xs.length).toNat == xs.length) = true := by
  rw [BitVec.toNat_ofNat, Nat.mod_eq_of_lt h]
  exact beq_self_eq_true _

theorem reads_identity (h : r.name.length < 2 ^ 32) :
    Reads (ModHost.readIdentity r) (ofU32 (BitVec.ofNat 32 r.name.length) ++ (r.name
      ++ (ofU32 (r.guestBase.setWidth 32) ++ ofU32 (r.bank.setWidth 32)))) () := by
  apply (reads_u32 _ _).bind
  apply check_bind (toNat_ofNat_length h)
  apply (reads_take _ r.name).bind
  apply check_bind (beq_self_eq_true _)
  apply (reads_u32 _ _).bind
  apply check_bind (beq_self_eq_true _)
  apply (reads_u32 _ _).bind
  unfold check
  rw [if_pos (beq_self_eq_true _)]
  exact Reads.pure ()

theorem reads_contents (h : r.bytes.length < 2 ^ 32) : Reads (ModHost.readContents r)
      (ofU32 (BitVec.ofNat 32 r.bytes.length) ++ r.bytes) r.bytes := by
  apply (reads_u32 _ _).bind
  apply check_bind (toNat_ofNat_length h)
  exact reads_take _ r.bytes

theorem reads_region (hname : r.name.length < 2 ^ 32) (hbytes : r.bytes.length < 2 ^ 32) :
    Reads (ModHost.readRegion 2 r) (ModHost.exportRegion r) r.bytes := by
  unfold ModHost.exportRegion ModHost.readRegion
  rw [if_pos rfl]
  have h := (reads_identity hname).bind (f := fun _ => ModHost.readContents r)
    (reads_contents hbytes)
  simpa only [List.append_assoc] using h

theorem reads_regions (h : ∀ r ∈ rs, r.name.length < 2 ^ 32
    ∧ r.bytes.length < 2 ^ 32) :
    Reads (ModHost.readRegions 2 rs) (rs.flatMap ModHost.exportRegion) (rs.map Region.bytes) := by
  induction rs with
  | nil => exact Reads.pure []
  | cons r rs ih =>
    obtain ⟨hname, hbytes⟩ := h r List.mem_cons_self
    have hrest := ih fun q hq => h q (List.mem_cons_of_mem r hq)
    have hothers : Reads (ModHost.readRegions 2 rs >>= fun others => pure (r.bytes :: others))
        (rs.flatMap ModHost.exportRegion ++ []) (r.bytes :: rs.map Region.bytes) :=
      hrest.bind (Reads.pure _)
    rw [List.append_nil] at hothers
    exact (reads_region hname hbytes).bind hothers

theorem lengths_lt (h : 8 + savedSize rs ≤ kStateBudget) :
    rs.length < 2 ^ 32 ∧ ∀ r ∈ rs, r.name.length < 2 ^ 32 ∧ r.bytes.length < 2 ^ 32 := by
  have hbudget : kStateBudget < 2 ^ 32 := by decide
  constructor
  · have hcount := sixteen_mul_length_le rs
    omega
  · intro r hr
    have hle : 16 + r.name.length + r.bytes.length ≤ savedSize rs :=
      List.le_sum_of_mem (List.mem_map.mpr ⟨r, hr, rfl⟩)
    omega

theorem readsAll_reader (hfits : 8 + savedSize h.regions ≤ kStateBudget) :
    ReadsAll h.reader (ofU32 2 ++ (ofU32 (BitVec.ofNat 32 h.regions.length)
      ++ h.regions.flatMap ModHost.exportRegion))
      ⟨h.regions.map Region.binding, h.regions.map Region.bytes⟩ := by
  obtain ⟨hcount, hregions⟩ := lengths_lt hfits
  apply (reads_u32 _ 2).bind_all
  apply check_bind_all rfl
  apply (reads_u32 _ _).bind_all
  apply check_bind_all (toNat_ofNat_length hcount)
  exact (reads_regions hregions).bind_end rfl

theorem prepareState_exportState (hbytes : h.exportState = .ok bytes) :
    h.prepareState bytes = .ok ⟨h.regions.map Region.binding, h.regions.map Region.bytes⟩ := by
  obtain ⟨hfits, rfl⟩ := exportState_eq_ok hbytes
  have hlength : (ofU32 2 ++ ofU32 (BitVec.ofNat 32 h.regions.length)
      ++ h.regions.flatMap ModHost.exportRegion).length = 8 + savedSize h.regions := by
    simp only [List.length_append, length_ofU32, length_exportRegions]
  unfold ModHost.prepareState
  rw [if_neg (by omega), List.append_assoc]
  exact run_eq_ok (readsAll_reader hfits)

theorem commit_own (h : ModHost) :
    h.commitState ⟨h.regions.map Region.binding, h.regions.map Region.bytes⟩ = .ok h := by
  unfold ModHost.commitState
  rw [if_pos (by simp [ModHost.fits])]
  exact congrArg (fun rs => Except.ok (ModHost.mk rs)) (zipWith_own rfl)

/-! ## What is read was exported -/

theorem readIdentity_eq_ok {state left : List Byte} {u : Unit}
    (h : ModHost.readIdentity r state = .ok (u, left)) :
    state = ofU32 (BitVec.ofNat 32 r.name.length) ++ r.name ++ ofU32 (r.guestBase.setWidth 32)
      ++ ofU32 (r.bank.setWidth 32) ++ left := by
  obtain ⟨length, second, hlength, h⟩ := ByteReader.bind_eq_ok h
  obtain ⟨hsize, h⟩ := check_bind_eq_ok h
  obtain ⟨name, third, hname, h⟩ := ByteReader.bind_eq_ok h
  obtain ⟨hsame, h⟩ := check_bind_eq_ok h
  obtain ⟨base, fourth, hbase, h⟩ := ByteReader.bind_eq_ok h
  obtain ⟨hmapped, h⟩ := check_bind_eq_ok h
  obtain ⟨bank, last, hbank, h⟩ := ByteReader.bind_eq_ok h
  have hend : (bank == r.bank.setWidth 32) = true ∧ last = left := by
    unfold check at h
    split at h
    · next hcond =>
      cases h
      exact ⟨hcond, rfl⟩
    · cases h
  have hvalue : length = BitVec.ofNat 32 r.name.length := by
    rw [← eq_of_beq hsize, BitVec.ofNat_toNat, BitVec.setWidth_eq]
  rw [u32_eq_ok hlength, (take_eq_ok hname).1, u32_eq_ok hbase, u32_eq_ok hbank, hvalue,
    eq_of_beq hsame, eq_of_beq hmapped, eq_of_beq hend.1, hend.2]
  simp only [List.append_assoc]

theorem readContents_eq_ok {state left : List Byte}
    (h : ModHost.readContents r state = .ok (bytes, left)) :
    bytes.length = r.bytes.length
      ∧ state = ofU32 (BitVec.ofNat 32 bytes.length) ++ bytes ++ left := by
  obtain ⟨size, third, hsize, h⟩ := ByteReader.bind_eq_ok h
  obtain ⟨hsame, h⟩ := check_bind_eq_ok h
  obtain ⟨htaken, hlength⟩ := take_eq_ok h
  have hvalue : size = BitVec.ofNat 32 bytes.length := by
    rw [hlength, ← eq_of_beq hsame, BitVec.ofNat_toNat, BitVec.setWidth_eq]
  rw [u32_eq_ok hsize, htaken, hvalue, List.append_assoc]
  exact ⟨hlength, rfl⟩

theorem readRegion_eq_ok {version : BitVec 32} {state left : List Byte}
    (h : ModHost.readRegion version r state = .ok (bytes, left)) :
    bytes.length = r.bytes.length ∧ (version = 2 →
      state = ModHost.exportRegion (r.withBytes bytes) ++ left) := by
  unfold ModHost.readRegion at h
  split at h
  · obtain ⟨u, second, hidentity, h⟩ := ByteReader.bind_eq_ok h
    obtain ⟨hlength, hcontents⟩ := readContents_eq_ok h
    refine ⟨hlength, fun _ => ?_⟩
    rw [readIdentity_eq_ok hidentity, hcontents]
    simp only [ModHost.exportRegion, Region.withBytes, List.append_assoc]
  · next hversion =>
    exact ⟨(readContents_eq_ok h).1, fun htwo => absurd htwo hversion⟩

theorem readRegions_eq_ok {version : BitVec 32} {state left : List Byte} {bytes : List (List Byte)}
    (h : ModHost.readRegions version rs state = .ok (bytes, left)) :
    bytes.map List.length = rs.map (·.bytes.length) ∧ (version = 2 →
      state = (rs.zipWith Region.withBytes bytes).flatMap ModHost.exportRegion ++ left) := by
  induction rs generalizing state bytes with
  | nil =>
    cases h
    exact ⟨rfl, fun _ => rfl⟩
  | cons r rs ih =>
    obtain ⟨b, second, hfirst, h⟩ := ByteReader.bind_eq_ok h
    obtain ⟨others, third, hothers, h⟩ := ByteReader.bind_eq_ok h
    cases h
    obtain ⟨hlength, hstate⟩ := readRegion_eq_ok hfirst
    obtain ⟨hlengths, hstates⟩ := ih hothers
    constructor
    · rw [List.map_cons, List.map_cons, hlength, hlengths]
    · intro hversion
      rw [hstate hversion, hstates hversion, List.zipWith_cons_cons, List.flatMap_cons,
        List.append_assoc]

variable {p : PreparedState} {state : List Byte}

/-- An accepted state binds the regions and gives each as many bytes as it has. -/
theorem prepareState_eq_ok (hp : h.prepareState state = .ok p) :
    state.length ≤ kStateBudget ∧ p.bindings = h.regions.map Region.binding
      ∧ p.bytes.map List.length = h.regions.map (·.bytes.length)
      ∧ (state.take 4 = ofU32 2 → state = ofU32 2 ++ ofU32 (BitVec.ofNat 32 h.regions.length)
          ++ (h.regions.zipWith Region.withBytes p.bytes).flatMap ModHost.exportRegion) := by
  unfold ModHost.prepareState at hp
  split at hp
  · cases hp
  · next hbudget =>
    unfold run at hp
    split at hp
    · next a left hread =>
      cases hp
      unfold ModHost.reader at hread
      obtain ⟨version, second, hversion, hread⟩ := ByteReader.bind_eq_ok hread
      obtain ⟨hknown, hread⟩ := check_bind_eq_ok hread
      obtain ⟨count, third, hcount, hread⟩ := ByteReader.bind_eq_ok hread
      obtain ⟨hsame, hread⟩ := check_bind_eq_ok hread
      obtain ⟨bytes, fourth, hbytes, hread⟩ := ByteReader.bind_eq_ok hread
      obtain ⟨unread, last, hunread, hread⟩ := ByteReader.bind_eq_ok hread
      cases hunread
      obtain ⟨hempty, hread⟩ := check_bind_eq_ok hread
      cases hread
      have hnil : left = [] := List.length_eq_zero_iff.mp (eq_of_beq hempty)
      obtain ⟨hlengths, hstates⟩ := readRegions_eq_ok hbytes
      refine ⟨Nat.not_lt.mp hbudget, rfl, hlengths, fun htake => ?_⟩
      have hstate := u32_eq_ok hversion
      have htwo : version = 2 := by
        rw [hstate, List.take_left' (length_ofU32 version)] at htake
        have hback := reads_u32 "" version []
        rw [htake] at hback
        have htwoback := reads_u32 "" (2 : BitVec 32) []
        rw [htwoback] at hback
        injection hback with hpair
        exact (congrArg Prod.fst hpair).symm
      have hvalue : count = BitVec.ofNat 32 h.regions.length := by
        rw [← eq_of_beq hsame, BitVec.ofNat_toNat, BitVec.setWidth_eq]
      rw [hstate, u32_eq_ok hcount, hstates htwo, hvalue, htwo, hnil, List.append_nil,
        List.append_assoc]
    · cases hp

/-! ## One encoding for each contents -/

theorem readRegion_congr {o : Region} (h : r.layout = o.layout) (version : BitVec 32) :
    ModHost.readRegion version r = ModHost.readRegion version o := by
  simp only [Region.layout, Layout.mk.injEq] at h
  obtain ⟨hname, hsize, hbase, hbank⟩ := h
  unfold ModHost.readRegion ModHost.readIdentity ModHost.readContents
  rw [hname, hsize, hbase, hbank]

theorem readRegions_congr (h : rs.map Region.layout = os.map Region.layout) (version : BitVec 32) :
    ModHost.readRegions version rs = ModHost.readRegions version os := by
  induction rs generalizing os with
  | nil =>
    cases os with
    | nil => rfl
    | cons o os => cases h
  | cons r rs ih =>
    cases os with
    | nil => cases h
    | cons o os =>
      obtain ⟨hfirst, hrest⟩ := List.cons.inj h
      rw [ModHost.readRegions, ModHost.readRegions, readRegion_congr hfirst, ih hrest]

def Layout.binding (l : Layout) : Binding := ⟨l.name, l.guestBase, l.bank⟩

theorem bindings_of_layouts (rs : List Region) :
    rs.map Region.binding = (rs.map Region.layout).map Layout.binding := by
  rw [List.map_map]
  rfl

variable {h' : ModHost}

theorem prepareState_congr (hlayout : h'.layout = h.layout) (state : List Byte) :
    h'.prepareState state = h.prepareState state := by
  have hlength : h'.regions.length = h.regions.length := by
    have hlengths := congrArg List.length hlayout
    simpa only [ModHost.layout, List.length_map] using hlengths
  have hbindings : h'.regions.map Region.binding = h.regions.map Region.binding := by
    rw [bindings_of_layouts, bindings_of_layouts]
    exact congrArg (List.map Layout.binding) hlayout
  unfold ModHost.prepareState ModHost.reader
  rw [hlength, hbindings]
  simp only [readRegions_congr hlayout]

theorem commitState_eq_ok (hp : h.commitState p = .ok h') :
    ModHost.fits p h = true ∧ h' = ⟨h.regions.zipWith Region.withBytes p.bytes⟩ := by
  unfold ModHost.commitState at hp
  split at hp
  · next hfits =>
    cases hp
    exact ⟨hfits, rfl⟩
  · cases hp

theorem fits_iff : ModHost.fits p h = true ↔
    p.bytes.map List.length = h.regions.map (·.bytes.length)
      ∧ p.bindings = h.regions.map Region.binding := by
  simp only [ModHost.fits, Bool.and_eq_true, decide_eq_true_eq]

theorem layout_of_fits {other : ModHost} (hp : ModHost.fits p h = true)
    (hother : ModHost.fits p other = true) : other.layout = h.layout := by
  obtain ⟨hsizes, hbindings⟩ := fits_iff.mp hp
  obtain ⟨hothersizes, hotherbindings⟩ := fits_iff.mp hother
  exact layouts_of_bindings (hotherbindings.symm.trans hbindings) (hothersizes.symm.trans hsizes)

theorem fits_of_prepareState (hp : h.prepareState state = .ok p) : ModHost.fits p h = true := by
  obtain ⟨-, hbindings, hsizes, -⟩ := prepareState_eq_ok hp
  exact fits_iff.mpr ⟨hsizes, hbindings⟩

theorem prepareCheckpoint_some (hp : h.prepareCheckpoint (some state) = .ok p) :
    state.take 4 = ofU32 2 ∧ h.prepareState state = .ok p := by
  unfold ModHost.prepareCheckpoint at hp
  dsimp only at hp
  split at hp
  · next htake => exact ⟨htake, hp⟩
  · cases hp

theorem fits_of_prepareCheckpoint {saved : Option (List Byte)}
    (hp : h.prepareCheckpoint saved = .ok p) : ModHost.fits p h = true := by
  cases saved with
  | some state => exact fits_of_prepareState (prepareCheckpoint_some hp).2
  | none =>
    unfold ModHost.prepareCheckpoint at hp
    dsimp only at hp
    split at hp
    · next hempty =>
      cases hp
      exact fits_iff.mpr ⟨by rw [hempty]; rfl, by rw [hempty]; rfl⟩
    · cases hp

theorem exportState_of_prepareCheckpoint (hp : h.prepareCheckpoint (some state) = .ok p) :
    ∃ h', h.commitState p = .ok h' ∧ h'.layout = h.layout ∧ h'.exportState = .ok state := by
  obtain ⟨htake, hprepared⟩ := prepareCheckpoint_some hp
  obtain ⟨hbudget, -, hsizes, hstate⟩ := prepareState_eq_ok hprepared
  have hcommit : h.commitState p = .ok ⟨h.regions.zipWith Region.withBytes p.bytes⟩ := by
    unfold ModHost.commitState
    rw [if_pos (fits_of_prepareState hprepared)]
  have hlayout := zipWith_layout hsizes
  have hcount : (h.regions.zipWith Region.withBytes p.bytes).length = h.regions.length := by
    have hlengths := congrArg List.length hlayout
    simpa only [List.length_map] using hlengths
  refine ⟨_, hcommit, hlayout, ?_⟩
  have hsaved := congrArg List.length (hstate htake)
  simp only [List.length_append, length_ofU32, length_exportRegions] at hsaved
  rw [exportState_eq _ (by dsimp only; omega), hstate htake, hcount]

theorem prepareCheckpoint_exportState
    (hlayout : h'.layout = h.layout) (hstate : h'.exportState = .ok state) :
    ∃ p, h.prepareCheckpoint (some state) = .ok p ∧ h.commitState p = .ok h' := by
  have hprepared := prepareState_exportState hstate
  have htake : state.take 4 = [2, 0, 0, 0] := by
    rw [(exportState_eq_ok hstate).2, List.append_assoc]
    rfl
  rw [prepareState_congr hlayout] at hprepared
  refine ⟨⟨h'.regions.map Region.binding, h'.regions.map Region.bytes⟩, ?_, ?_⟩
  · exact (if_pos htake).trans hprepared
  · have hfits := fits_of_prepareState hprepared
    unfold ModHost.commitState
    rw [if_pos hfits]
    exact congrArg (fun rs => Except.ok (ModHost.mk rs)) (zipWith_own hlayout)

/-- The saved regions come back; the bytes a checkpoint accepts are those some contents of the same
layout are saved as, and every other string of bytes is refused; a refused import changes no
region; and what was prepared for one layout is refused by every other. -/
theorem state_codec_exact (h : ModHost) :
    (8 + savedSize h.regions ≤ kStateBudget → ∃ state p, h.exportState = .ok state
        ∧ h.prepareState state = .ok p ∧ h.commitState p = .ok h)
      ∧ (∀ state p, h.prepareCheckpoint (some state) = .ok p → ∃ h', h.commitState p = .ok h'
          ∧ h'.layout = h.layout ∧ h'.exportState = .ok state)
      ∧ (∀ h' state, h'.layout = h.layout → h'.exportState = .ok state →
          ∃ p, h.prepareCheckpoint (some state) = .ok p ∧ h.commitState p = .ok h')
      ∧ (∀ state, (¬ ∃ h' : ModHost, h'.layout = h.layout ∧ h'.exportState = .ok state) →
          ∃ e, h.prepareCheckpoint (some state) = .error e)
      ∧ (∀ state, (h.importState state).1 = false → (h.importState state).2 = h)
      ∧ (∀ state p other, h.prepareState state = .ok p → ModHost.layout other ≠ h.layout →
          ∃ e, other.commitState p = .error e)
      ∧ (∀ saved p other, h.prepareCheckpoint saved = .ok p → ModHost.layout other ≠ h.layout →
          ∃ e, other.commitState p = .error e) := by
  have hother : ∀ {p : PreparedState} {other : ModHost}, ModHost.fits p h = true →
      other.layout ≠ h.layout → ∃ e, other.commitState p = .error e := by
    intro p other hfits hne
    cases hcommit : other.commitState p with
    | error e => exact ⟨e, rfl⟩
    | ok h' => exact absurd (layout_of_fits hfits (commitState_eq_ok hcommit).1) hne
  refine ⟨?_, ?_, ?_, ?_, ?_, ?_, ?_⟩
  · intro hfits
    exact ⟨_, _, exportState_eq h hfits, prepareState_exportState (exportState_eq h hfits),
      commit_own h⟩
  · intro state p hp
    exact exportState_of_prepareCheckpoint hp
  · intro h' state hlayout hstate
    exact prepareCheckpoint_exportState hlayout hstate
  · intro state hnone
    cases hp : h.prepareCheckpoint (some state) with
    | error e => exact ⟨e, rfl⟩
    | ok p =>
      obtain ⟨h', -, hlayout, hstate⟩ := exportState_of_prepareCheckpoint hp
      exact absurd ⟨h', hlayout, hstate⟩ hnone
  · intro state hfalse
    unfold ModHost.importState at hfalse ⊢
    split
    · next h' hok =>
      rw [hok] at hfalse
      cases hfalse
    · rfl
  · intro state p other hp hne
    exact hother (fits_of_prepareState hp) hne
  · intro saved p other hp hne
    exact hother (fits_of_prepareCheckpoint hp) hne

end ProtoTime.Modding
