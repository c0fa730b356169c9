import ProtoTime.Host.SaveStateCodec

/-!
Damage to one byte of a checked file. A changed payload is the payload of
another state of the same layout, so only the checksum can refuse it.
-/
namespace ProtoTime.SaveState

open Results
open GameBoy (Byte crc32 u32Bytes)

/-- Where a chunk starts, counted from the end of the header. -/
def chunkOffset (chunks : List SaveStateChunk) (j : ℕ) : ℕ :=
  ((chunks.take j).map fun c => kSerializedChunkHeaderSize + c.data.length).sum

/-- Where the payload of a chunk starts in the file. -/
def payloadOffset (chunks : List SaveStateChunk) (j : ℕ) : ℕ :=
  kSerializedHeaderSize + chunkOffset chunks j + kSerializedChunkHeaderSize

/-- The bytes of the payloads and of the checksum in a file of this size. -/
def Covered (state : SaveStateFile) (fileSize i : ℕ) : Prop :=
  (∃ j c r, state.chunks[j]? = some c ∧ r < c.data.length ∧
    i = payloadOffset state.chunks j + r) ∨ ∃ r < 4, i + 4 = fileSize + r

structure SaveStateFile.Readable (state : SaveStateFile) : Prop where
  count : state.chunks.length ≤ kMaxChunkCount
  chunks : ∀ c ∈ state.chunks, c.Readable

variable {bytes : List Byte}

section

variable {state : SaveStateFile}

theorem write_eq (h : write state = .ok bytes) :
    ∃ chunks, writeChunks state.chunks = .ok chunks ∧
      bytes = writeHeaderBytes (writtenHeader state) ++ (chunks ++
        trailer state.header.checksum (writeHeaderBytes (writtenHeader state) ++ chunks)) := by
  obtain ⟨_, -, h⟩ := bind_eq_ok h
  obtain ⟨chunks, hchunks, h⟩ := bind_eq_ok h
  refine ⟨chunks, hchunks, ?_⟩
  exact (Except.ok.inj h).symm

theorem SaveStateFile.Readable.count_eq (h : state.Readable) :
    (writtenHeader state).chunkCount.toNat = state.chunks.length := by
  have hcount := h.count
  show (BitVec.ofNat 32 state.chunks.length).toNat = _
  rw [BitVec.toNat_ofNat]
  unfold kMaxChunkCount at hcount
  omega

theorem SaveStateFile.Readable.writable (h : state.Readable) :
    (writtenHeader state).Writable where
  magic := rfl
  version := rfl
  chunkCount := by
    rw [h.count_eq]
    exact h.count

theorem read_write (h : state.Readable) (hwrite : write state = .ok bytes) :
    ∃ file, read bytes = .ok file ∧ file.header = writtenHeader state ∧
      file.chunks = state.chunks := by
  obtain ⟨chunks, hchunks, rfl⟩ := write_eq hwrite
  cases hmode : state.header.checksum with
  | none =>
    refine ⟨⟨writtenHeader state, state.chunks, 0⟩, ?_, rfl, rfl⟩
    show read (_ ++ (chunks ++ [])) = _
    rw [List.append_nil]
    exact read_unchecked h.writable hmode h.chunks h.count_eq hchunks
  | crc32 =>
    refine ⟨_, (read_checked h.writable hmode h.chunks h.count_eq hchunks _).trans (if_pos rfl),
      rfl, rfl⟩

variable {c : SaveStateChunk}

theorem length_writeChunkBytes (h : writeChunkBytes c = .ok bytes) :
    bytes.length = kSerializedChunkHeaderSize + c.data.length := by
  obtain ⟨-, hname, rfl⟩ := writeChunkBytes_eq h
  rw [List.length_append, List.length_append, length_encodedName hname]
  rfl

variable {chunks : List SaveStateChunk}

theorem data_length_le_of_writeChunks
    (h : writeChunks chunks = .ok bytes) : ∀ c ∈ chunks, c.data.length ≤ bytes.length := by
  induction chunks generalizing bytes with
  | nil => exact fun c hc => absurd hc List.not_mem_nil
  | cons c chunks ih =>
    obtain ⟨first, hfirst, h⟩ := bind_eq_ok h
    obtain ⟨rest, hrest, h⟩ := bind_eq_ok h
    obtain rfl : first ++ rest = bytes := Except.ok.inj h
    have hlength := length_writeChunkBytes hfirst
    intro d hd
    rw [List.length_append]
    rcases List.mem_cons.mp hd with rfl | hd
    · omega
    · have hle := ih hrest d hd
      omega

theorem data_length_le_of_write
    (h : write state = .ok bytes) : ∀ c ∈ state.chunks, c.data.length ≤ bytes.length := by
  obtain ⟨chunks, hchunks, rfl⟩ := write_eq h
  intro c hc
  have hle := data_length_le_of_writeChunks hchunks c hc
  rw [List.length_append, List.length_append]
  omega

theorem writeChunkBytes_set (h : writeChunkBytes c = .ok bytes) (r : ℕ) (byte : Byte) :
    writeChunkBytes { c with data := c.data.set r byte } =
      .ok (bytes.set (kSerializedChunkHeaderSize + r) byte) := by
  obtain ⟨hsize, hname, rfl⟩ := writeChunkBytes_eq h
  have hfront : (u32Bytes c.size ++ encodedName c.name).length = kSerializedChunkHeaderSize := by
    rw [List.length_append, length_encodedName hname]
    rfl
  have hsize' : (c.size.toNat == (c.data.set r byte).length) = true := by
    rw [List.length_set, hsize]
    exact beq_self_eq_true _
  refine (ok_bind (require_true _ hsize') _).trans ?_
  refine (ok_bind (require_true _ (decide_eq_true hname)) _).trans ?_
  rw [List.set_append_right _ _ (by omega), hfront, Nat.add_sub_cancel_left]
  rfl

variable {j r : ℕ}

/-- A changed payload byte is a change in the written chunks, at its offset. -/
theorem writeChunks_set (h : writeChunks chunks = .ok bytes) (hj : chunks[j]? = some c)
    (hr : r < c.data.length) (byte : Byte) :
    chunkOffset chunks j + kSerializedChunkHeaderSize + r < bytes.length ∧
      writeChunks (chunks.set j { c with data := c.data.set r byte }) =
        .ok (bytes.set (chunkOffset chunks j + kSerializedChunkHeaderSize + r) byte) := by
  induction chunks generalizing bytes j with
  | nil => simp at hj
  | cons first chunks ih =>
    obtain ⟨front, hfront, h⟩ := bind_eq_ok h
    obtain ⟨rest, hrest, h⟩ := bind_eq_ok h
    obtain rfl : front ++ rest = bytes := Except.ok.inj h
    have hlength := length_writeChunkBytes hfront
    cases j with
    | zero =>
      obtain rfl : first = c := Option.some.inj hj
      have hzero : chunkOffset (first :: chunks) 0 = 0 := rfl
      constructor
      · rw [List.length_append]
        omega
      · rw [List.set_cons_zero, List.set_append_left _ _ (by omega)]
        refine (ok_bind (writeChunkBytes_set hfront r byte) _).trans ?_
        exact ok_bind hrest _
    | succ j =>
      obtain ⟨hlt, hset⟩ := ih hrest hj
      have hoffset : chunkOffset (first :: chunks) (j + 1) = front.length + chunkOffset chunks j := by
        unfold chunkOffset
        rw [List.take_succ_cons, List.map_cons, List.sum_cons, hlength]
      rw [hoffset]
      constructor
      · rw [List.length_append]
        omega
      · rw [List.set_cons_succ, List.set_append_right _ _ (by omega)]
        refine (ok_bind hfront _).trans ?_
        refine (ok_bind hset _).trans ?_
        rw [show front.length + chunkOffset chunks j + kSerializedChunkHeaderSize + r -
          front.length = chunkOffset chunks j + kSerializedChunkHeaderSize + r by omega]
        rfl

theorem set_readable (h : ∀ c ∈ chunks, c.Readable)
    (hj : chunks[j]? = some c) (r : ℕ) (byte : Byte) :
    ∀ d ∈ chunks.set j { c with data := c.data.set r byte }, d.Readable := by
  intro d hd
  rcases List.mem_or_eq_of_mem_set hd with hmem | rfl
  · exact h d hmem
  · have hc := h c (List.mem_of_getElem? hj)
    exact ⟨hc.name_length, hc.name_terminated, by simpa using hc.data_length⟩

/-- Any four bytes are a stored word. -/
theorem u32Bytes_surjective (h : bytes.length = 4) : ∃ word, u32Bytes word = bytes := by
  obtain ⟨a, b, c, d, rfl⟩ : ∃ a b c d, bytes = [a, b, c, d] := by
    match bytes, h with
    | [a, b, c, d], _ => exact ⟨a, b, c, d, rfl⟩
  have hbyte (k : ℕ) (x : Byte) (hx : ∀ i < 8, (d ++ c ++ b ++ a).getLsbD (k + i) = x.getLsbD i) :
      ((d ++ c ++ b ++ a) >>> k).setWidth 8 = x := by
    apply BitVec.eq_of_getLsbD_eq
    intro i hi
    rw [BitVec.getLsbD_setWidth, BitVec.getLsbD_ushiftRight, hx i hi]
    simp [hi]
  have h0 := hbyte 0 a (fun i hi => by
    rw [BitVec.getLsbD_append]
    simp [hi])
  have h8 := hbyte 8 b (fun i hi => by
    rw [BitVec.getLsbD_append, BitVec.getLsbD_append]
    simp [hi])
  have h16 := hbyte 16 c (fun i hi => by
    rw [BitVec.getLsbD_append, BitVec.getLsbD_append, BitVec.getLsbD_append]
    simp [hi, show ¬ 16 + i < 8 by omega, show ¬ 16 + i - 8 < 8 by omega,
      show 16 + i - 8 - 8 = i by omega])
  have h24 := hbyte 24 d (fun i hi => by
    rw [BitVec.getLsbD_append, BitVec.getLsbD_append, BitVec.getLsbD_append]
    simp [show ¬ 24 + i < 8 by omega, show ¬ 24 + i - 8 < 8 by omega,
      show ¬ 24 + i - 8 - 8 < 8 by omega, show 24 + i - 8 - 8 - 8 = i by omega])
  rw [BitVec.ushiftRight_zero] at h0
  refine ⟨d ++ c ++ b ++ a, ?_⟩
  show [_, _, _, _] = _
  rw [h0, h8, h16, h24]

/-- A changed payload byte of a checked file is noticed. -/
theorem read_payload_changed (h : state.Readable)
    (hmode : state.header.checksum = .crc32) (hwrite : write state = .ok bytes)
    (hj : state.chunks[j]? = some c) (hr : r < c.data.length)
    {byte : Byte} (hne : bytes[payloadOffset state.chunks j + r]? ≠ some byte) :
    read (bytes.set (payloadOffset state.chunks j + r) byte) =
      .error "Save state checksum mismatch" := by
  obtain ⟨chunks, hchunks, rfl⟩ := write_eq hwrite
  obtain ⟨hlt, hset⟩ := writeChunks_set hchunks hj hr byte
  have hheader := length_writeHeaderBytes h.writable
  have hoffset : payloadOffset state.chunks j + r =
      (writeHeaderBytes (writtenHeader state)).length +
        (chunkOffset state.chunks j + kSerializedChunkHeaderSize + r) := by
    unfold payloadOffset
    omega
  rw [hoffset, hmode] at hne ⊢
  generalize chunkOffset state.chunks j + kSerializedChunkHeaderSize + r = position at hlt hset hne ⊢
  have hcount : (writtenHeader state).chunkCount.toNat =
      (state.chunks.set j { c with data := c.data.set r byte }).length := by
    rw [List.length_set]
    exact h.count_eq
  have hread := read_checked h.writable hmode (set_readable h.chunks hj r byte) hcount hset
    (crc32 (writeHeaderBytes (writtenHeader state) ++ chunks))
  have hdiffers : crc32 (writeHeaderBytes (writtenHeader state) ++ chunks.set position byte) ≠
      crc32 (writeHeaderBytes (writtenHeader state) ++ chunks) := by
    have hin : (writeHeaderBytes (writtenHeader state)).length + position <
        (writeHeaderBytes (writtenHeader state) ++ chunks).length := by
      rw [List.length_append]
      omega
    have hold : (writeHeaderBytes (writtenHeader state) ++ chunks)[
        (writeHeaderBytes (writtenHeader state)).length + position] ≠ byte := by
      intro heq
      apply hne
      rw [← List.append_assoc, List.getElem?_append_left hin, List.getElem?_eq_getElem hin, heq]
    have hcrc := crc32_set_ne hin hold
    rwa [List.set_append_right _ _ (by omega), Nat.add_sub_cancel_left] at hcrc
  rw [if_neg hdiffers] at hread
  rw [List.set_append_right _ _ (by omega), Nat.add_sub_cancel_left,
    List.set_append_left _ _ hlt]
  exact hread

/-- So is a changed byte of the stored checksum. -/
theorem read_checksum_changed (h : state.Readable)
    (hmode : state.header.checksum = .crc32) (hwrite : write state = .ok bytes)
    {i : ℕ} (hr : r < 4) (hi : i + 4 = bytes.length + r) {byte : Byte}
    (hne : bytes[i]? ≠ some byte) :
    read (bytes.set i byte) = .error "Save state checksum mismatch" := by
  obtain ⟨chunks, hchunks, rfl⟩ := write_eq hwrite
  rw [hmode] at hi hne ⊢
  generalize hcrc : crc32 (writeHeaderBytes (writtenHeader state) ++ chunks) = crc
  have htrailer : trailer .crc32 (writeHeaderBytes (writtenHeader state) ++ chunks) =
      u32Bytes crc := congrArg u32Bytes hcrc
  have hfour : (u32Bytes crc).length = 4 := rfl
  rw [htrailer] at hi hne ⊢
  rw [List.length_append, List.length_append, hfour] at hi
  have hindex : i - (writeHeaderBytes (writtenHeader state)).length - chunks.length = r := by omega
  rw [List.set_append_right _ _ (by omega), List.set_append_right _ _ (by omega), hindex]
  obtain ⟨stored, hstored⟩ := u32Bytes_surjective
    (show ((u32Bytes crc).set r byte).length = 4 by rw [List.length_set, hfour])
  have hdiffers : crc ≠ stored := by
    rintro rfl
    apply hne
    rw [List.getElem?_append_right (by omega), List.getElem?_append_right (by omega), hindex,
      hstored, List.getElem?_set_self (by rw [hfour]; exact hr)]
  rw [← hstored, read_checked h.writable hmode h.chunks h.count_eq hchunks stored, hcrc,
    if_neg hdiffers]

end

/-- A written state is read back with its chunks in order. In a file with a checksum a changed byte
of a payload or of the checksum is refused, and a strict prefix of any file is. -/
theorem saveState_codec {state : SaveStateFile} (h : state.Readable) {bytes : List Byte}
    (hwrite : write state = .ok bytes) :
    (∃ file, read bytes = .ok file ∧ file.chunks = state.chunks) ∧
      (state.header.checksum = .crc32 → ∀ i byte, Covered state bytes.length i →
        bytes[i]? ≠ some byte → ∃ message, read (bytes.set i byte) = .error message) ∧
      ∀ k < bytes.length, ∃ message, read (bytes.take k) = .error message := by
  obtain ⟨file, hread, -, hchunks⟩ := read_write h hwrite
  refine ⟨⟨file, hread, hchunks⟩, ?_, ?_⟩
  · rintro hmode i byte (⟨j, c, r, hj, hr, rfl⟩ | ⟨r, hr, hi⟩) hne
    · exact ⟨_, read_payload_changed h hmode hwrite hj hr hne⟩
    · exact ⟨_, read_checksum_changed h hmode hwrite hr hi hne⟩
  · intro k hk
    exact read_prefix hread hk

namespace Sample

/-- One chunk named `a` with one byte. -/
def state (checksum : SaveStateChecksum) : SaveStateFile where
  header := {
    magic := kSaveStateMagic
    version := kSaveStateVersion
    coreId := 1
    romHash := 0
    checksum := checksum
    chunkCount := 1 }
  chunks := [{ name := [0x61], size := 1, data := [0x2A] }]
  checksum := 0

theorem state_readable (checksum : SaveStateChecksum) : (state checksum).Readable where
  count := by
    show 1 ≤ kMaxChunkCount
    decide
  chunks := by
    intro c hc
    rw [List.mem_singleton.mp hc]
    exact ⟨by decide, by decide, by decide⟩

end Sample

theorem saveState_codec_sample :
    ∃ bytes, write (Sample.state .crc32) = .ok bytes ∧
      (∃ file, read bytes = .ok file ∧ file.chunks = (Sample.state .crc32).chunks) ∧
      ((Sample.state .crc32).header.checksum = .crc32 → ∀ i byte,
        Covered (Sample.state .crc32) bytes.length i → bytes[i]? ≠ some byte →
        ∃ message, read (bytes.set i byte) = .error message) ∧
      ∀ k < bytes.length, ∃ message, read (bytes.take k) = .error message := by
  have hwrite : ∃ bytes, write (Sample.state .crc32) = .ok bytes := ⟨_, rfl⟩
  obtain ⟨bytes, hwrite⟩ := hwrite
  exact ⟨bytes, hwrite, saveState_codec (Sample.state_readable .crc32) hwrite⟩

/-- Without a checksum a changed payload is read as if it had been written. -/
theorem changed_payload_accepted :
    ∃ bytes i byte file, write (Sample.state .none) = .ok bytes ∧
      Covered (Sample.state .none) bytes.length i ∧ bytes[i]? ≠ some byte ∧
      read (bytes.set i byte) = .ok file ∧ file.chunks ≠ (Sample.state .none).chunks := by
  refine ⟨_, 61, 0x2B, _, rfl, .inl ⟨0, _, 0, rfl, by decide, rfl⟩, by decide, rfl, by decide⟩

end ProtoTime.SaveState
