import Mathlib.Logic.Function.Iterate
import ProtoTime.Host.SaveStateContainer

/-!
Written states are read back, and damaged files are refused: a reader that
accepts a file refuses every longer one, and the checksum covers the payloads.
-/
namespace ProtoTime.SaveState

open Results
open GameBoy (Byte crc32 u32Bytes u32OfBytes u32OfBytes_u32Bytes)

/-! ### The checksum detects every change of one byte -/

/-- One bit of the reflected division. -/
def crcShift (crc : BitVec 32) : BitVec 32 :=
  if crc &&& 1#32 ≠ 0 then (crc >>> 1) ^^^ 0xEDB88320#32 else crc >>> 1

def crcByte (crc : BitVec 32) (byte : Byte) : BitVec 32 := crcShift^[8] (crc ^^^ byte.setWidth 32)

theorem crc32_eq (data : List Byte) :
    crc32 data = data.foldl crcByte 0xFFFFFFFF#32 ^^^ 0xFFFFFFFF#32 := rfl

theorem crcShift_eq (crc : BitVec 32) :
    crcShift crc = if crc.getLsbD 0 then (crc >>> 1) ^^^ 0xEDB88320#32 else crc >>> 1 := by
  unfold crcShift
  have hbit : crc &&& 1#32 ≠ 0 ↔ crc.getLsbD 0 = true := by
    rw [BitVec.and_one_eq_setWidth_ofBool_getLsbD]
    cases crc.getLsbD 0 <;> decide
  by_cases h : crc.getLsbD 0 = true
  · rw [if_pos h, if_pos (hbit.mpr h)]
  · rw [if_neg h, if_neg (mt hbit.mp h)]

theorem crcShift_top (crc : BitVec 32) : (crcShift crc).getLsbD 31 = crc.getLsbD 0 := by
  have hshift : (crc >>> 1).getLsbD 31 = false := by simp
  rw [crcShift_eq]
  split
  · rename_i h
    rw [BitVec.getLsbD_xor, hshift, h]
    decide
  · rename_i h
    simpa using h

theorem crcShift_injective : Function.Injective crcShift := by
  intro x y h
  have hlow : x.getLsbD 0 = y.getLsbD 0 := by rw [← crcShift_top, h, crcShift_top]
  have hshift : x >>> 1 = y >>> 1 := by
    rw [crcShift_eq, crcShift_eq, hlow] at h
    split at h
    · exact (BitVec.xor_left_inj _).mp h
    · exact h
  apply BitVec.eq_of_getLsbD_eq
  intro i hi
  cases i with
  | zero => exact hlow
  | succ i =>
    have hbit := congrArg (fun word => BitVec.getLsbD word i) hshift
    simpa [Nat.add_comm] using hbit

theorem crcByte_injective (byte : Byte) : Function.Injective fun crc => crcByte crc byte := by
  intro x y h
  exact (BitVec.xor_left_inj _).mp (crcShift_injective.iterate 8 h)

theorem crcByte_ne {crc : BitVec 32} {a b : Byte} (h : a ≠ b) : crcByte crc a ≠ crcByte crc b := by
  intro heq
  have hwide := (BitVec.xor_right_inj _).mp (crcShift_injective.iterate 8 heq)
  apply h
  have hback := congrArg (BitVec.setWidth 8) hwide
  simpa using hback

theorem foldl_crcByte_injective (data : List Byte) :
    Function.Injective fun crc => data.foldl crcByte crc := by
  induction data with
  | nil => exact fun x y h => h
  | cons byte data ih => exact ih.comp (crcByte_injective byte)

theorem crc32_set_ne {data : List Byte} {i : ℕ} {byte : Byte} (hi : i < data.length)
    (h : data[i] ≠ byte) : crc32 (data.set i byte) ≠ crc32 data := by
  have hsplit : data = data.take i ++ data[i] :: data.drop (i + 1) := by simp
  have hset : data.set i byte = data.take i ++ byte :: data.drop (i + 1) := by
    rw [List.set_eq_take_append_cons_drop, if_pos hi]
  intro heq
  rw [crc32_eq, crc32_eq, BitVec.xor_left_inj, hset] at heq
  nth_rewrite 3 [hsplit] at heq
  rw [List.foldl_append, List.foldl_append, List.foldl_cons, List.foldl_cons] at heq
  exact crcByte_ne h (foldl_crcByte_injective _ heq).symm

/-! ### Reading what was written -/

theorem readExact_append (bytes stream : List Byte) (fieldName : String) :
    readExact (bytes ++ stream) bytes.length fieldName = .ok (bytes, stream) := by
  unfold readExact
  rw [if_pos (by rw [List.length_append]; omega), List.take_left, List.drop_left]

variable {bytes : List Byte}

theorem readExact_append_of_length {size : ℕ} (h : bytes.length = size)
    (stream : List Byte) (fieldName : String) :
    readExact (bytes ++ stream) size fieldName = .ok (bytes, stream) := by
  rw [← h, readExact_append]

theorem readU32_append (word : BitVec 32) (stream : List Byte) (fieldName : String) :
    readU32 (u32Bytes word ++ stream) fieldName = .ok (word, stream) := by
  have hbytes : readExact (u32Bytes word ++ stream) 4 fieldName = .ok (u32Bytes word, stream) :=
    readExact_append_of_length rfl stream fieldName
  have hword : BitVec.ofNat 32 (u32OfBytes (u32Bytes word)) = word := by
    have h := u32OfBytes_u32Bytes word []
    rw [List.append_nil] at h
    rw [h, BitVec.ofNat_toNat, BitVec.setWidth_eq]
  unfold readU32
  rw [ok_bind hbytes]
  dsimp only
  rw [hword]
  rfl

theorem ofU32_toU32 (checksum : SaveStateChecksum) :
    SaveStateChecksum.ofU32 checksum.toU32 = .ok checksum := by
  cases checksum <;> rfl

structure SaveStateHeader.Writable (h : SaveStateHeader) : Prop where
  magic : h.magic = kSaveStateMagic
  version : h.version = kSaveStateVersion
  chunkCount : h.chunkCount.toNat ≤ kMaxChunkCount

variable {h : SaveStateHeader}

theorem readHeader_append (hw : h.Writable) (stream : List Byte) :
    readHeader (writeHeaderBytes h ++ stream) = .ok (h, stream) := by
  obtain ⟨magic, version, coreId, romHash, checksum, chunkCount⟩ := h
  obtain ⟨hmagic, hversion, hcount⟩ := hw
  subst hmagic hversion
  have hread (rest : List Byte) :
      readExact (kSaveStateMagic ++ rest) 5 "magic" = .ok (kSaveStateMagic, rest) :=
    readExact_append_of_length rfl rest "magic"
  unfold readHeader writeHeaderBytes
  simp only [List.append_assoc]
  rw [ok_bind (hread _), ok_bind (require_true _ (beq_self_eq_true _)), ok_bind (readU32_append _ _ _),
    ok_bind (readU32_append _ _ _), ok_bind (readU32_append _ _ _), ok_bind (readU32_append _ _ _),
    ok_bind (readU32_append _ _ _), ok_bind (require_true _ (beq_self_eq_true _)),
    ok_bind (ofU32_toU32 checksum), ok_bind (require_true _ (decide_eq_true hcount))]
  rfl

theorem length_writeHeaderBytes (hw : h.Writable) :
    (writeHeaderBytes h).length = kSerializedHeaderSize := by
  unfold writeHeaderBytes
  rw [hw.magic]
  rfl

structure SaveStateChunk.Readable (c : SaveStateChunk) : Prop where
  name_length : c.name.length ≤ kChunkNameSize
  name_terminated : 0 ∉ c.name
  data_length : c.data.length ≤ kMaxChunkSize

theorem length_encodedName {name : List Byte} (h : name.length ≤ kChunkNameSize) :
    (encodedName name).length = kChunkNameSize := by
  unfold encodedName
  rw [List.length_append, List.length_replicate]
  omega

theorem takeWhile_encodedName {name : List Byte} (h : 0 ∉ name) :
    (encodedName name).takeWhile (· ≠ 0) = name := by
  unfold encodedName
  rw [List.takeWhile_append_of_pos]
  · cases kChunkNameSize - name.length <;> simp [List.replicate_succ]
  · intro byte hbyte
    have hne : byte ≠ 0 := by
      rintro rfl
      exact h hbyte
    exact decide_eq_true hne

theorem writeChunkBytes_eq {c : SaveStateChunk} (h : writeChunkBytes c = .ok bytes) :
    c.size.toNat = c.data.length ∧ c.name.length ≤ kChunkNameSize ∧
      bytes = u32Bytes c.size ++ encodedName c.name ++ c.data := by
  obtain ⟨_, hsize, h⟩ := bind_eq_ok h
  obtain ⟨_, hname, h⟩ := bind_eq_ok h
  exact ⟨beq_iff_eq.mp (require_eq_ok hsize), of_decide_eq_true (require_eq_ok hname),
    (Except.ok.inj h).symm⟩

theorem readChunk_append {c : SaveStateChunk} (hc : c.Readable)
    (h : writeChunkBytes c = .ok bytes) (stream : List Byte) :
    readChunk (bytes ++ stream) = .ok (c, stream) := by
  obtain ⟨hsize, hlength, rfl⟩ := writeChunkBytes_eq h
  have hsmall : decide (c.size.toNat ≤ kMaxChunkSize) = true := by
    rw [hsize]
    exact decide_eq_true hc.data_length
  unfold readChunk
  simp only [List.append_assoc]
  rw [ok_bind (readU32_append _ _ _), ok_bind (require_true _ hsmall),
    ok_bind (readExact_append_of_length (length_encodedName hlength) _ _),
    ok_bind (readExact_append_of_length hsize.symm _ _)]
  rw [takeWhile_encodedName hc.name_terminated]
  rfl

variable {chunks : List SaveStateChunk}

theorem readChunks_append (hc : ∀ c ∈ chunks, c.Readable)
    (h : writeChunks chunks = .ok bytes) (stream : List Byte) :
    readChunks chunks.length (bytes ++ stream) = .ok (chunks, bytes, stream) := by
  induction chunks generalizing bytes with
  | nil =>
    cases h
    rfl
  | cons c chunks ih =>
    obtain ⟨first, hfirst, h⟩ := bind_eq_ok h
    obtain ⟨rest, hrest, h⟩ := bind_eq_ok h
    obtain rfl : first ++ rest = bytes := Except.ok.inj h
    have hread := readChunk_append (hc c List.mem_cons_self) hfirst (rest ++ stream)
    have htail := ih (fun d hd => hc d (List.mem_cons_of_mem _ hd)) hrest
    rw [List.length_cons, readChunks, List.append_assoc, ok_bind hread]
    dsimp only
    rw [ok_bind hfirst, ok_bind htail]
    rfl

theorem writeChunks_length (h : writeChunks chunks = .ok bytes) :
    chunks.length * kSerializedChunkHeaderSize ≤ bytes.length := by
  induction chunks generalizing bytes with
  | nil => simp
  | cons c chunks ih =>
    obtain ⟨first, hfirst, h⟩ := bind_eq_ok h
    obtain ⟨rest, hrest, h⟩ := bind_eq_ok h
    obtain rfl : first ++ rest = bytes := Except.ok.inj h
    obtain ⟨-, hname, rfl⟩ := writeChunkBytes_eq hfirst
    have htail := ih hrest
    have hword : (u32Bytes c.size).length = 4 := rfl
    simp only [List.length_cons, List.length_append, length_encodedName hname, hword,
      Nat.succ_mul] at htail ⊢
    unfold kSerializedChunkHeaderSize at htail ⊢
    omega

theorem checkFileSize_ok
    (hcount : h.chunkCount.toNat = chunks.length) (hwrite : writeChunks chunks = .ok bytes)
    {fileSize : ℕ}
    (hsize : fileSize = kSerializedHeaderSize + bytes.length + trailerSize h.checksum) :
    checkFileSize fileSize h = .ok () := by
  have hlength := writeChunks_length hwrite
  have hfixed : kSerializedHeaderSize + trailerSize h.checksum ≤ fileSize := by omega
  have hfit : h.chunkCount.toNat ≤
      (fileSize - (kSerializedHeaderSize + trailerSize h.checksum)) /
        kSerializedChunkHeaderSize := by
    rw [hcount, Nat.le_div_iff_mul_le (by decide)]
    omega
  unfold checkFileSize
  rw [ok_bind (require_true _ (decide_eq_true hfixed)), require_true _ (decide_eq_true hfit)]

/-- A checksum of four bytes, right or wrong, after the written chunks. -/
theorem read_checked (hw : h.Writable) (hmode : h.checksum = .crc32) (hc : ∀ c ∈ chunks, c.Readable)
    (hcount : h.chunkCount.toNat = chunks.length)
    (hwrite : writeChunks chunks = .ok bytes) (stored : BitVec 32) :
    read (writeHeaderBytes h ++ (bytes ++ u32Bytes stored)) =
      if crc32 (writeHeaderBytes h ++ bytes) = stored then .ok ⟨h, chunks, stored⟩
      else .error "Save state checksum mismatch" := by
  have hsize : (writeHeaderBytes h ++ (bytes ++ u32Bytes stored)).length =
      kSerializedHeaderSize + bytes.length + trailerSize h.checksum := by
    rw [List.length_append, List.length_append, length_writeHeaderBytes hw, hmode]
    show _ + (bytes.length + 4) = _ + 4
    omega
  have hword : readU32 (u32Bytes stored) "checksum" = .ok (stored, []) := by
    have hread := readU32_append stored [] "checksum"
    rwa [List.append_nil] at hread
  have hchunks := readChunks_append hc hwrite (u32Bytes stored)
  unfold read readFile
  rw [ok_bind (readHeader_append hw _)]
  dsimp only
  rw [ok_bind (checkFileSize_ok hcount hwrite hsize), hcount, ok_bind hchunks]
  dsimp only
  rw [hmode]
  unfold readChecksum
  dsimp only
  rw [ok_bind hword]
  dsimp only
  by_cases hmatch : crc32 (writeHeaderBytes h ++ bytes) = stored
  · rw [ok_bind (require_true _ (beq_iff_eq.mpr hmatch)), if_pos hmatch]
    rfl
  · rw [require_false _ (beq_eq_false_iff_ne.mpr hmatch), if_neg hmatch]
    rfl

theorem read_unchecked (hw : h.Writable) (hmode : h.checksum = .none)
    (hc : ∀ c ∈ chunks, c.Readable) (hcount : h.chunkCount.toNat = chunks.length)
    (hwrite : writeChunks chunks = .ok bytes) :
    read (writeHeaderBytes h ++ bytes) = .ok ⟨h, chunks, 0⟩ := by
  have hsize : (writeHeaderBytes h ++ bytes).length =
      kSerializedHeaderSize + bytes.length + trailerSize h.checksum := by
    rw [List.length_append, length_writeHeaderBytes hw, hmode]
    rfl
  have hchunks := readChunks_append hc hwrite []
  rw [List.append_nil] at hchunks
  unfold read readFile
  rw [ok_bind (readHeader_append hw _)]
  dsimp only
  rw [ok_bind (checkFileSize_ok hcount hwrite hsize), hcount, ok_bind hchunks]
  rw [hmode]
  rfl

/-! ### Longer files -/

variable {stream : List Byte} {rest : List Byte}

theorem readExact_extend {size : ℕ} {fieldName : String}
    (h : readExact stream size fieldName = .ok (bytes, rest)) (more : List Byte) :
    readExact (stream ++ more) size fieldName = .ok (bytes, rest ++ more) := by
  unfold readExact at h ⊢
  split at h
  · rename_i hle
    cases h
    rw [if_pos (by rw [List.length_append]; omega), List.take_append_of_le_length hle,
      List.drop_append_of_le_length hle]
  · cases h

theorem readU32_extend {word : BitVec 32} {fieldName : String}
    (h : readU32 stream fieldName = .ok (word, rest)) (more : List Byte) :
    readU32 (stream ++ more) fieldName = .ok (word, rest ++ more) := by
  obtain ⟨⟨bytes, after⟩, hbytes, h⟩ := bind_eq_ok h
  cases h
  unfold readU32
  rw [ok_bind (readExact_extend hbytes more)]
  rfl

theorem readHeader_extend {header : SaveStateHeader}
    (h : readHeader stream = .ok (header, rest)) (more : List Byte) :
    readHeader (stream ++ more) = .ok (header, rest ++ more) := by
  obtain ⟨⟨magic, s₁⟩, hmagic, h⟩ := bind_eq_ok h
  obtain ⟨_, hknown, h⟩ := bind_eq_ok h
  obtain ⟨⟨version, s₂⟩, hversion, h⟩ := bind_eq_ok h
  obtain ⟨⟨coreId, s₃⟩, hcore, h⟩ := bind_eq_ok h
  obtain ⟨⟨romHash, s₄⟩, hrom, h⟩ := bind_eq_ok h
  obtain ⟨⟨mode, s₅⟩, hmode, h⟩ := bind_eq_ok h
  obtain ⟨⟨chunkCount, s₆⟩, hcount, h⟩ := bind_eq_ok h
  obtain ⟨_, hsupported, h⟩ := bind_eq_ok h
  obtain ⟨checksum, hchecksum, h⟩ := bind_eq_ok h
  obtain ⟨_, hmany, h⟩ := bind_eq_ok h
  cases h
  refine (ok_bind (readExact_extend hmagic more) _).trans ?_
  refine (ok_bind hknown _).trans ?_
  refine (ok_bind (readU32_extend hversion more) _).trans ?_
  refine (ok_bind (readU32_extend hcore more) _).trans ?_
  refine (ok_bind (readU32_extend hrom more) _).trans ?_
  refine (ok_bind (readU32_extend hmode more) _).trans ?_
  refine (ok_bind (readU32_extend hcount more) _).trans ?_
  refine (ok_bind hsupported _).trans ?_
  refine (ok_bind hchecksum _).trans ?_
  exact ok_bind hmany _

theorem readChunk_extend {chunk : SaveStateChunk}
    (h : readChunk stream = .ok (chunk, rest)) (more : List Byte) :
    readChunk (stream ++ more) = .ok (chunk, rest ++ more) := by
  obtain ⟨⟨size, s₁⟩, hsize, h⟩ := bind_eq_ok h
  obtain ⟨_, hsmall, h⟩ := bind_eq_ok h
  obtain ⟨⟨name, s₂⟩, hname, h⟩ := bind_eq_ok h
  obtain ⟨⟨data, s₃⟩, hdata, h⟩ := bind_eq_ok h
  cases h
  refine (ok_bind (readU32_extend hsize more) _).trans ?_
  refine (ok_bind hsmall _).trans ?_
  refine (ok_bind (readExact_extend hname more) _).trans ?_
  exact ok_bind (readExact_extend hdata more) _

theorem readChunks_extend {count : ℕ} {payload : List Byte}
    (h : readChunks count stream = .ok (chunks, payload, rest)) (more : List Byte) :
    readChunks count (stream ++ more) = .ok (chunks, payload, rest ++ more) := by
  induction count generalizing stream chunks payload with
  | zero =>
    cases h
    rfl
  | succ count ih =>
    obtain ⟨⟨chunk, s₁⟩, hchunk, h⟩ := bind_eq_ok h
    obtain ⟨bytes, hbytes, h⟩ := bind_eq_ok h
    obtain ⟨⟨others, tail, s₂⟩, hothers, h⟩ := bind_eq_ok h
    cases h
    rw [readChunks, ok_bind (readChunk_extend hchunk more)]
    dsimp only
    rw [ok_bind hbytes, ok_bind (ih hothers)]
    rfl

theorem readChecksum_extend {mode : SaveStateChecksum} {payload : List Byte} {checksum : BitVec 32}
    (h : readChecksum mode payload stream = .ok (checksum, rest)) (more : List Byte) :
    readChecksum mode payload (stream ++ more) = .ok (checksum, rest ++ more) := by
  cases mode with
  | none =>
    cases h
    rfl
  | crc32 =>
    obtain ⟨⟨stored, s₁⟩, hstored, h⟩ := bind_eq_ok h
    obtain ⟨_, hmatch, h⟩ := bind_eq_ok h
    cases h
    refine (ok_bind (readU32_extend hstored more) _).trans ?_
    exact ok_bind hmatch _

theorem checkFileSize_mono {size size' : ℕ} {header : SaveStateHeader} {u : Unit}
    (h : checkFileSize size header = .ok u) (hle : size ≤ size') :
    checkFileSize size' header = .ok () := by
  obtain ⟨_, hfixed, hfit⟩ := bind_eq_ok h
  have hfixed := of_decide_eq_true (require_eq_ok hfixed)
  have hfit := of_decide_eq_true (require_eq_ok hfit)
  unfold checkFileSize
  rw [ok_bind (require_true _ (decide_eq_true (hfixed.trans hle))),
    require_true _ (decide_eq_true (hfit.trans (Nat.div_le_div_right (by omega))))]

/-- A file that was accepted is refused with anything after it. -/
theorem read_extend {more : List Byte} {file : SaveStateFile} (h : read bytes = .ok file)
    (hmore : more ≠ []) : read (bytes ++ more) = .error "Save state contains trailing data" := by
  obtain ⟨⟨accepted, rest⟩, hfile, h⟩ := bind_eq_ok h
  obtain ⟨⟨header, s₁⟩, hheader, hfile⟩ := bind_eq_ok hfile
  obtain ⟨_, hsize, hfile⟩ := bind_eq_ok hfile
  obtain ⟨⟨chunks, payload, s₂⟩, hchunks, hfile⟩ := bind_eq_ok hfile
  obtain ⟨⟨checksum, s₃⟩, hchecksum, hfile⟩ := bind_eq_ok hfile
  have hle : bytes.length ≤ (bytes ++ more).length := by
    rw [List.length_append]
    omega
  have hrest : (s₃ ++ more).isEmpty = false := by
    cases s₃ with
    | nil => simpa using hmore
    | cons _ _ => rfl
  unfold read readFile
  rw [ok_bind (readHeader_extend hheader more)]
  dsimp only
  rw [ok_bind (checkFileSize_mono hsize hle), ok_bind (readChunks_extend hchunks more)]
  dsimp only
  rw [ok_bind (readChecksum_extend hchecksum more)]
  dsimp only
  show (require (s₃ ++ more).isEmpty _ >>= _) = _
  rw [require_false _ hrest]
  rfl

theorem read_prefix {file : SaveStateFile} (h : read bytes = .ok file) {k : ℕ}
    (hk : k < bytes.length) : ∃ message, read (bytes.take k) = .error message := by
  cases hread : read (bytes.take k) with
  | error message => exact ⟨message, rfl⟩
  | ok shorter =>
    have hmore : bytes.drop k ≠ [] := by
      rw [Ne, List.drop_eq_nil_iff]
      omega
    have hextended := read_extend hread hmore
    rw [List.take_append_drop, h] at hextended
    cases hextended

end ProtoTime.SaveState
