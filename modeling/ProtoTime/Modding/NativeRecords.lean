import ProtoTime.Modding.ModHostCodec
import ProtoTime.Modding.NativeMod

/-!
The records of the attached modules: what saving them writes, and that reading gives it back and
accepts nothing else.
-/
namespace ProtoTime.Modding

open Transaction
open Results
open ByteReader hiding bind_eq_ok

variable {I : Type}

/-! ## What a module saves -/

/-- A module that keeps the ABI when it is saved: it succeeds and is as it was before. -/
structure QuietSave (api : TimeModApi I) : Prop where
  saves : ∀ h i, (api.save h i).1 = true
  keeps : ∀ h i, (api.save h i).2.1 = i

def savedBytes (h : ModHost) (s : Impl I) : List Byte :=
  fill s.api.stateSize.toNat (s.api.save h s.inst).2.2

@[simp] theorem length_fill (size : ℕ) (out : List Byte) : (fill size out).length = size := by
  unfold fill
  rw [List.length_append, List.length_take, List.length_replicate]
  omega

theorem length_savedBytes (h : ModHost) (s : Impl I) :
    (savedBytes h s).length = s.api.stateSize.toNat :=
  length_fill _ _

variable {s : Impl I}

theorem save_eq (hs : QuietSave s.api) (h : ModHost) : s.save h = (.ok (savedBytes h s), s) := by
  have hsaves := hs.saves h s.inst
  have hkeeps := hs.keeps h s.inst
  unfold Impl.save savedBytes
  cases hsave : s.api.save h s.inst with
  | mk ok rest =>
    obtain ⟨inst, out⟩ := rest
    rw [hsave] at hsaves hkeeps
    obtain rfl : ok = true := hsaves
    obtain rfl : inst = s.inst := hkeeps
    rfl

/-- The records of modules with the states they were saved in. -/
def recordsOf (F : Files) : List (NativeMod I) → List (List Byte) → Except String (List Byte)
  | m :: ms, bytes :: states => do
    let d ← identity F m.impl
    let others ← recordsOf F ms states
    return record d m.impl.api.stateVersion bytes ++ others
  | _, _ => .ok []

def World.states (w : World I) : List (List Byte) :=
  w.cohort.map fun m => savedBytes w.host m.impl

def recordsSize (ms : List (NativeMod I)) : ℕ :=
  (ms.map fun m => 40 + m.impl.api.stateSize.toNat).sum

@[simp] theorem length_record (d : Digest) (schema : BitVec 32) (bytes : List Byte) :
    (record d schema bytes).length = 40 + bytes.length := by
  simp only [record, List.length_append, length_ofU32]
  omega

variable {ms : List (NativeMod I)} {blob : List Byte} {states : List (List Byte)}

theorem length_recordsOf {F : Files}
    (hsizes : states.map List.length = ms.map fun m => m.impl.api.stateSize.toNat)
    (h : recordsOf F ms states = .ok blob) : blob.length = recordsSize ms := by
  induction ms generalizing states blob with
  | nil =>
    cases states with
    | nil =>
      cases h
      rfl
    | cons bytes states => cases hsizes
  | cons m ms ih =>
    cases states with
    | nil => cases hsizes
    | cons bytes states =>
      obtain ⟨hsize, hsizes⟩ := List.cons.inj hsizes
      obtain ⟨d, hd, h⟩ := bind_eq_ok h
      obtain ⟨others, hothers, h⟩ := bind_eq_ok h
      cases h
      have hrest := ih hsizes hothers
      dsimp only at hsize
      rw [List.length_append, length_record, hrest]
      simp only [recordsSize, List.map_cons, List.sum_cons]
      omega

theorem lengths_states (h : ModHost) (ms : List (NativeMod I)) :
    (ms.map fun m => savedBytes h m.impl).map List.length
      = ms.map fun m => m.impl.api.stateSize.toNat := by
  rw [List.map_map]
  apply List.map_congr_left
  intro m _
  exact length_savedBytes h m.impl

/-! ## Saving all of them -/

variable (F : Files)

theorem saveMembers_snd (h : ModHost) (size : ℕ)
    (hquiet : ∀ m ∈ ms, QuietSave m.impl.api) : (saveMembers F h size ms).2 = ms := by
  induction ms generalizing size with
  | nil => rfl
  | cons m ms ih =>
    have hrest := fun n => ih n fun x hx => hquiet x (List.mem_cons_of_mem m hx)
    unfold saveMembers
    rw [save_eq (hquiet m List.mem_cons_self) h]
    dsimp only
    split
    · rfl
    · split
      · rfl
      · exact congrArg (m :: ·) (hrest _)

theorem saveMembers_iff (h : ModHost) {size : ℕ} (hsize : size ≤ kCohortBudget)
    (hquiet : ∀ m ∈ ms, QuietSave m.impl.api) (blob : List Byte) :
    (saveMembers F h size ms).1 = .ok blob ↔
      recordsOf F ms (ms.map fun m => savedBytes h m.impl) = .ok blob
        ∧ size + blob.length ≤ kCohortBudget := by
  induction ms generalizing size blob with
  | nil =>
    constructor
    · intro hblob
      cases hblob
      exact ⟨rfl, hsize⟩
    · rintro ⟨hblob, -⟩
      cases hblob
      rfl
  | cons m ms ih =>
    have hbudget : 40 ≤ kCohortBudget := by decide
    unfold saveMembers
    rw [save_eq (hquiet m List.mem_cons_self) h, List.map_cons]
    unfold recordsOf
    dsimp only
    split
    · next hlarge =>
      constructor
      · intro hblob
        cases hblob
      · rintro ⟨hblob, hfits⟩
        obtain ⟨d, hd, hblob⟩ := bind_eq_ok hblob
        obtain ⟨others, hothers, hblob⟩ := bind_eq_ok hblob
        cases hblob
        rw [List.length_append, length_record] at hfits
        omega
    · next hfits =>
      cases hd : identity F m.impl with
      | error e =>
        constructor
        · intro hblob
          cases hblob
        · rintro ⟨hblob, -⟩
          cases hblob
      | ok d =>
        have hnext : size + (40 + (savedBytes h m.impl).length) ≤ kCohortBudget := by omega
        have hrest := fun others => ih hnext
          (fun x hx => hquiet x (List.mem_cons_of_mem m hx)) others
        dsimp only
        constructor
        · intro hblob
          cases hothers : (saveMembers F h (size + (40 + (savedBytes h m.impl).length)) ms).1 with
          | error e =>
            rw [hothers] at hblob
            cases hblob
          | ok others =>
            rw [hothers] at hblob
            cases hblob
            obtain ⟨hrecords, hsum⟩ := (hrest others).mp hothers
            refine ⟨?_, ?_⟩
            · rw [hrecords]
              rfl
            · rw [List.length_append, length_record]
              omega
        · rintro ⟨hblob, hsum⟩
          obtain ⟨others, hothers, hblob⟩ := bind_eq_ok (show (recordsOf F ms
            (ms.map fun m => savedBytes h m.impl) >>= fun others => pure
              (record d m.impl.api.stateVersion (savedBytes h m.impl) ++ others)) = .ok blob
            from hblob)
          cases hblob
          rw [List.length_append, length_record] at hsum
          rw [(hrest others).mpr ⟨hothers, by omega⟩]
          rfl

theorem keeps_saveCohort {w : World I} (hquiet : ∀ m ∈ w.cohort, QuietSave m.impl.api) :
    Keeps (saveCohort F) w := by
  show (saveCohort F w).2 = w
  unfold saveCohort
  split
  · rfl
  · show World.mk w.host (saveMembers F w.host 8 w.cohort).2 = w
    rw [saveMembers_snd F w.host 8 hquiet]

/-- The saved cohort is the header and one record for each module, within the budget. -/
theorem exec_saveCohort_iff {w : World I}
    (hquiet : ∀ m ∈ w.cohort, QuietSave m.impl.api) (data : List Byte) :
    (exec (saveCohort F) w).1 = .ok data ↔ w.cohort.length ≤ 256 ∧ ∃ blob,
      recordsOf F w.cohort w.states = .ok blob ∧ 8 + blob.length ≤ kCohortBudget
        ∧ data = cohortHeader w.cohort.length ++ blob := by
  have hsave := saveMembers_iff F w.host (show 8 ≤ kCohortBudget by decide) hquiet
  show (saveCohort F w).1 = _ ↔ _
  unfold saveCohort
  split
  · next hmany =>
    constructor
    · intro hdata
      cases hdata
    · rintro ⟨hfew, -⟩
      omega
  · next hfew =>
    show (saveMembers F w.host 8 w.cohort).1.map _ = _ ↔ _
    constructor
    · intro hdata
      cases hblob : (saveMembers F w.host 8 w.cohort).1 with
      | error e =>
        rw [hblob] at hdata
        cases hdata
      | ok blob =>
        rw [hblob] at hdata
        cases hdata
        obtain ⟨hrecords, hsum⟩ := (hsave blob).mp hblob
        exact ⟨Nat.not_lt.mp hfew, blob, hrecords, hsum, rfl⟩
    · rintro ⟨-, blob, hrecords, hsum, rfl⟩
      rw [(hsave blob).mpr ⟨hrecords, hsum⟩]
      rfl

/-! ## Reading the records back -/

structure Fixed (I : Type) where
  address : ℕ
  api : TimeModApi I
  metadata : LoadedMod
  image : Digest
  executionBinding : Text

def NativeMod.fixed (m : NativeMod I) : Fixed I :=
  ⟨m.address, m.impl.api, m.impl.metadata, m.impl.image, m.impl.executionBinding⟩

theorem identity_congr {m n : NativeMod I} (h : m.fixed = n.fixed) :
    identity F m.impl = identity F n.impl := by
  simp only [NativeMod.fixed, Fixed.mk.injEq] at h
  unfold identity identityBytes
  rw [h.2.2.1, h.2.2.2.1, h.2.2.2.2]

theorem api_congr {m n : NativeMod I} (h : m.fixed = n.fixed) : m.impl.api = n.impl.api :=
  congrArg Fixed.api h

theorem recordsOf_congr {ns : List (NativeMod I)}
    (h : ms.map NativeMod.fixed = ns.map NativeMod.fixed) (states : List (List Byte)) :
    recordsOf F ms states = recordsOf F ns states := by
  induction ms generalizing ns states with
  | nil =>
    cases ns with
    | nil => rfl
    | cons n ns => cases h
  | cons m ms ih =>
    cases ns with
    | nil => cases h
    | cons n ns =>
      obtain ⟨hfirst, hrest⟩ := List.cons.inj h
      cases states with
      | nil => rfl
      | cons bytes states =>
        unfold recordsOf
        rw [identity_congr F hfirst, api_congr hfirst, ih hrest]

/-- The images of the modules are those of their files. -/
def ImagesKept (ms : List (NativeMod I)) : Prop :=
  ∀ m ∈ ms, imageDigest F m.impl.metadata.nativeModule = .ok m.impl.image

theorem reads_member {F : Files} {d : Digest} {bytes : List Byte}
    (hd : identity F s = .ok d) (hsize : bytes.length = s.api.stateSize.toNat)
    (himage : imageDigest F s.metadata.nativeModule = .ok s.image) :
    Reads (readMember F s) (record d s.api.stateVersion bytes) bytes := by
  have hvalue : BitVec.ofNat 32 bytes.length = s.api.stateSize := by
    rw [hsize, BitVec.ofNat_toNat, BitVec.setWidth_eq]
  have hname : Reads (take "native checkpoint identity mismatch" 32) d.val d.val := by
    have htake := reads_take "native checkpoint identity mismatch" d.val
    rwa [d.property] at htake
  have hbytes : Reads (take "native checkpoint schema mismatch" s.api.stateSize.toNat)
      bytes bytes := by
    have htake := reads_take "native checkpoint schema mismatch" bytes
    rwa [hsize] at htake
  have hend : Reads (do
      let image ← accept (imageDigest F s.metadata.nativeModule)
      ByteReader.check (image == s.image) "native module image changed since loading"
      return bytes) [] bytes := by
    apply accept_bind himage
    apply check_bind (beq_self_eq_true _)
    exact Reads.pure bytes
  have h : Reads (readMember F s) (d.val ++ (ofU32 s.api.stateVersion
      ++ (ofU32 s.api.stateSize ++ (bytes ++ [])))) bytes := by
    apply accept_bind hd
    apply hname.bind
    apply check_bind (beq_self_eq_true _)
    apply (reads_u32 _ _).bind
    apply (reads_u32 _ _).bind
    apply check_bind (by rw [beq_self_eq_true, beq_self_eq_true]; rfl)
    exact hbytes.bind hend
  unfold record
  rw [hvalue]
  simpa only [List.append_assoc, List.append_nil] using h

theorem reads_members {F : Files} (himages : ImagesKept F ms)
    (hsizes : states.map List.length = ms.map fun m => m.impl.api.stateSize.toNat)
    (h : recordsOf F ms states = .ok blob) :
    Reads (readMembers F ms) blob states := by
  induction ms generalizing states blob with
  | nil =>
    cases states with
    | nil =>
      cases h
      exact Reads.pure []
    | cons bytes states => cases hsizes
  | cons m ms ih =>
    cases states with
    | nil => cases hsizes
    | cons bytes states =>
      obtain ⟨hsize, hsizes⟩ := List.cons.inj hsizes
      obtain ⟨d, hd, h⟩ := bind_eq_ok h
      obtain ⟨others, hothers, h⟩ := bind_eq_ok h
      cases h
      have hfirst := reads_member hd hsize (himages m List.mem_cons_self)
      have hrest := ih (fun x hx => himages x (List.mem_cons_of_mem m hx)) hsizes hothers
      have hcons : Reads (readMembers F ms >>= fun rest => pure (bytes :: rest))
          (others ++ []) (bytes :: states) := hrest.bind (Reads.pure _)
      rw [List.append_nil] at hcons
      exact hfirst.bind hcons

variable {data : List Byte}

theorem readMember_eq_ok {F : Files} {left bytes : List Byte}
    (h : readMember F s data = .ok (bytes, left)) :
    bytes.length = s.api.stateSize.toNat ∧ ∃ d, identity F s = .ok d
      ∧ data = record d s.api.stateVersion bytes ++ left := by
  obtain ⟨d, hd, h⟩ := accept_bind_eq_ok h
  obtain ⟨named, second, hnamed, h⟩ := ByteReader.bind_eq_ok h
  obtain ⟨hsame, h⟩ := check_bind_eq_ok h
  obtain ⟨schema, third, hschema, h⟩ := ByteReader.bind_eq_ok h
  obtain ⟨size, fourth, hsize, h⟩ := ByteReader.bind_eq_ok h
  obtain ⟨hmatch, h⟩ := check_bind_eq_ok h
  obtain ⟨taken, fifth, htaken, h⟩ := ByteReader.bind_eq_ok h
  obtain ⟨image, himage, h⟩ := accept_bind_eq_ok h
  obtain ⟨hkept, h⟩ := check_bind_eq_ok h
  cases h
  obtain ⟨hversion, hstate⟩ := Bool.and_eq_true_iff.mp hmatch
  obtain ⟨hrest, hlength⟩ := take_eq_ok htaken
  have hvalue : BitVec.ofNat 32 bytes.length = size := by
    rw [hlength, BitVec.ofNat_toNat, BitVec.setWidth_eq]
  refine ⟨hlength.trans (congrArg BitVec.toNat (eq_of_beq hstate)), d, hd, ?_⟩
  rw [(take_eq_ok hnamed).1, u32_eq_ok hschema, u32_eq_ok hsize, hrest, record,
    eq_of_beq hsame, ← eq_of_beq hversion, hvalue]
  simp only [List.append_assoc]

theorem readMembers_eq_ok {F : Files} {left : List Byte}
    (h : readMembers F ms data = .ok (states, left)) :
    (states.map List.length = ms.map fun m => m.impl.api.stateSize.toNat)
      ∧ ∃ blob, recordsOf F ms states = .ok blob ∧ data = blob ++ left := by
  induction ms generalizing data states with
  | nil =>
    cases h
    exact ⟨rfl, [], rfl, rfl⟩
  | cons m ms ih =>
    obtain ⟨bytes, second, hfirst, h⟩ := ByteReader.bind_eq_ok h
    obtain ⟨others, third, hothers, h⟩ := ByteReader.bind_eq_ok h
    cases h
    obtain ⟨hlength, d, hd, hdata⟩ := readMember_eq_ok hfirst
    obtain ⟨hlengths, blob, hblob, hrest⟩ := ih hothers
    refine ⟨?_, record d m.impl.api.stateVersion bytes ++ blob, ?_, ?_⟩
    · rw [List.map_cons, List.map_cons, hlength, hlengths]
    · unfold recordsOf
      rw [hd]
      rw [hblob]
      rfl
    · rw [hdata, hrest, List.append_assoc]

theorem length_cohortHeader (count : ℕ) : (cohortHeader count).length = 8 := rfl

/-- What a parsed checkpoint consists of. -/
theorem parseCohort_eq_ok {F : Files} (h : parseCohort F ms data = .ok states) :
    (states.map List.length = ms.map fun m => m.impl.api.stateSize.toNat)
      ∧ ∃ blob, recordsOf F ms states = .ok blob ∧ data = cohortHeader ms.length ++ blob := by
  unfold parseCohort at h
  split at h
  · cases h
  · unfold run at h
    split at h
    · next found left hread =>
      cases h
      obtain ⟨version, second, hversion, hread⟩ := ByteReader.bind_eq_ok hread
      obtain ⟨hknown, hread⟩ := check_bind_eq_ok hread
      obtain ⟨count, third, hcount, hread⟩ := ByteReader.bind_eq_ok hread
      obtain ⟨hsame, hread⟩ := check_bind_eq_ok hread
      obtain ⟨found, fourth, hfound, hread⟩ := ByteReader.bind_eq_ok hread
      obtain ⟨unread, last, hunread, hread⟩ := ByteReader.bind_eq_ok hread
      cases hunread
      obtain ⟨hempty, hread⟩ := check_bind_eq_ok hread
      cases hread
      have hnil : left = [] := List.length_eq_zero_iff.mp (eq_of_beq hempty)
      obtain ⟨hlengths, blob, hblob, hdata⟩ := readMembers_eq_ok hfound
      have hvalue : count = BitVec.ofNat 32 ms.length := by
        rw [← eq_of_beq hsame, BitVec.ofNat_toNat, BitVec.setWidth_eq]
      refine ⟨hlengths, blob, hblob, ?_⟩
      rw [u32_eq_ok hversion, u32_eq_ok hcount, hdata, hvalue, hnil, List.append_nil,
        eq_of_beq hknown, cohortHeader, List.append_assoc]
    · cases h

theorem parseCohort_records {F : Files} (himages : ImagesKept F ms)
    (hsizes : states.map List.length = ms.map fun m => m.impl.api.stateSize.toNat)
    (h : recordsOf F ms states = .ok blob) (hfew : ms.length ≤ 256)
    (hbudget : 8 + blob.length ≤ kCohortBudget) :
    parseCohort F ms (cohortHeader ms.length ++ blob) = .ok states := by
  have hcount : ((BitVec.ofNat 32 ms.length).toNat == ms.length) = true :=
    toNat_ofNat_length (by omega)
  have hread : ReadsAll (readCohort F ms) (ofU32 1 ++ (ofU32 (BitVec.ofNat 32 ms.length) ++ blob))
      states := by
    apply (reads_u32 _ 1).bind_all
    apply check_bind_all rfl
    apply (reads_u32 _ _).bind_all
    apply check_bind_all hcount
    exact (reads_members himages hsizes h).bind_end rfl
  unfold parseCohort
  rw [if_neg (by rw [List.length_append, length_cohortHeader]; omega), cohortHeader,
    List.append_assoc]
  exact run_eq_ok hread

/-! ## What the records determine -/

end ProtoTime.Modding
