import Mathlib.Data.List.Flatten
import ProtoTime.Netplay.Packet

/-!
The wire form is canonical: a datagram is accepted as a packet exactly when it
is the encoding of that packet.
-/
namespace ProtoTime.Netplay

open ByteCodec

/-- The parts of a datagram at the offsets of the fields. -/
def wireSlices (bytes : List Byte) : List (List Byte) :=
  [slice bytes 0 4, slice bytes 4 2, slice bytes 6 1, slice bytes 7 1, slice bytes 8 8,
    slice bytes 16 8, slice bytes 24 32, slice bytes 56 32, slice bytes 88 32, slice bytes 120 32,
    slice bytes 152 1, slice bytes 153 1, slice bytes 154 1, slice bytes 155 9]

theorem wireFields_lengths (p : Packet) :
    (wireFields p).map List.length = [4, 2, 1, 1, 8, 8, 32, 32, 32, 32, 1, 1, 1, 9] := by
  simp [wireFields, kMagic, Digest.size]

theorem length_wireFields (p : Packet) : (wireFields p).flatten.length = kSignedSize := by
  rw [List.length_flatten, wireFields_lengths]
  rfl

variable {bytes : List Byte}

theorem wireSlices_lengths (h : bytes.length = kWireSize) :
    (wireSlices bytes).map List.length = [4, 2, 1, 1, 8, 8, 32, 32, 32, 32, 1, 1, 1, 9] := by
  have hlength {offset size : ℕ} (hle : offset + size ≤ 196) :
      (slice bytes offset size).length = size := length_slice (by rw [h]; exact hle)
  simp [wireSlices, hlength]

theorem wireSlices_flatten (bytes : List Byte) :
    (wireSlices bytes).flatten = bytes.take kSignedSize := by
  simp only [wireSlices, List.flatten_cons, List.flatten_nil, List.append_nil]
  rw [slice_join bytes 154 1 9, slice_join bytes 153 1 10, slice_join bytes 152 1 11,
    slice_join bytes 120 32 12, slice_join bytes 88 32 44, slice_join bytes 56 32 76,
    slice_join bytes 24 32 108, slice_join bytes 16 8 140, slice_join bytes 8 8 148,
    slice_join bytes 7 1 156, slice_join bytes 6 1 157, slice_join bytes 4 2 158,
    slice_join bytes 0 4 160]
  rfl

variable {p : Packet}

theorem flatten_eq_take_iff (h : bytes.length = kWireSize) :
    (wireFields p).flatten = bytes.take kSignedSize ↔ wireFields p = wireSlices bytes := by
  rw [← wireSlices_flatten, List.eq_iff_flatten_eq, wireFields_lengths, wireSlices_lengths h]
  simp

variable {offset : ℕ}

theorem slice_one (h : offset < bytes.length) :
    slice bytes offset 1 = [bytes.getD offset 0] := by
  unfold slice
  rw [List.drop_eq_getElem_cons h, List.getD_eq_getElem bytes 0 h]
  rfl

theorem get_bytes (h : offset + 32 ≤ bytes.length) :
    (get bytes offset).bytes = slice bytes offset 32 := by
  apply List.ext_getElem
  · rw [(get bytes offset).size, length_slice h]
  · intro i hi _
    have hlt : i < 32 := by rwa [(get bytes offset).size] at hi
    simp only [get, slice, List.getElem_ofFn, List.getElem_take, List.getElem_drop]
    exact List.getD_eq_getElem bytes 0 (by omega)

theorem get_eq_iff {d : Digest}
    (h : offset + 32 ≤ bytes.length) : get bytes offset = d ↔ d.bytes = slice bytes offset 32 := by
  rw [← get_bytes h]
  constructor
  · rintro rfl
    rfl
  · intro heq
    cases d
    simp_all

theorem integer_eq_iff {size value : ℕ} (h : offset + size ≤ bytes.length)
    (hvalue : value < 256 ^ size) :
    integer bytes offset size = value ↔ bigEndian size value = slice bytes offset size := by
  have hlength := length_slice h
  unfold integer
  constructor
  · intro heq
    rw [← heq]
    nth_rewrite 1 [← hlength]
    exact bigEndian_ofBigEndian _
  · intro heq
    rw [← heq, ofBigEndian_bigEndian, Nat.mod_eq_of_lt hvalue]

theorem word_eq_iff {value : BitVec 64} (h : offset + 8 ≤ bytes.length) :
    BitVec.ofNat 64 (integer bytes offset 8) = value ↔
      bigEndian 8 value.toNat = slice bytes offset 8 := by
  have hlt : integer bytes offset 8 < 2 ^ 64 := by
    have hbound := ofBigEndian_lt (slice bytes offset 8)
    rwa [length_slice h] at hbound
  rw [← integer_eq_iff h value.isLt]
  constructor
  · rintro rfl
    rw [BitVec.toNat_ofNat, Nat.mod_eq_of_lt hlt]
  · intro heq
    rw [heq, BitVec.ofNat_toNat, BitVec.setWidth_eq]

theorem zeros_iff {size : ℕ} (h : offset + size ≤ bytes.length) :
    ¬ (slice bytes offset size).any (· ≠ 0) = true ↔
      List.replicate size 0 = slice bytes offset size := by
  have hlength := length_slice h
  have heq : List.replicate size 0 = slice bytes offset size ↔
      ∀ byte ∈ slice bytes offset size, byte = 0 := by
    rw [eq_comm, List.eq_replicate_iff]
    simp [hlength]
  rw [heq]
  simp

/-- The fields of a packet lie at their offsets, between the constant parts. -/
structure Laid (p : Packet) (bytes : List Byte) : Prop where
  magic : slice bytes 0 4 = kMagic
  version : integer bytes 4 2 = 1
  fields : readFields bytes = p
  zeros : ¬ (slice bytes 155 9).any (· ≠ 0) = true

theorem readFields_eq_iff :
    readFields bytes = p ↔ p.binding.core.value = bytes.getD 6 0 ∧ p.peer = bytes.getD 7 0 ∧
      BitVec.ofNat 64 (integer bytes 8 8) = p.binding.generation ∧
      BitVec.ofNat 64 (integer bytes 16 8) = p.frame ∧
      get bytes 24 = p.binding.session ∧ get bytes 56 = p.binding.rom ∧
      get bytes 88 = p.binding.configuration ∧ get bytes 120 = p.before ∧
      p.input = bytes.getD 152 0 ∧ p.binding.ownership.1 = bytes.getD 153 0 ∧
      p.binding.ownership.2 = bytes.getD 154 0 := by
  constructor
  · rintro rfl
    exact ⟨rfl, rfl, rfl, rfl, rfl, rfl, rfl, rfl, rfl, rfl, rfl⟩
  · obtain ⟨⟨⟨core⟩, session, rom, configuration, generation, first, second⟩, frame, before, input,
      peer⟩ := p
    rintro ⟨hcore, hpeer, rfl, rfl, rfl, rfl, rfl, rfl, hinput, hfirst, hsecond⟩
    dsimp only at hcore hpeer hinput hfirst hsecond
    rw [hcore, hpeer, hinput, hfirst, hsecond]
    rfl

theorem laid_iff (h : bytes.length = kWireSize) :
    Laid p bytes ↔ (wireFields p).flatten = bytes.take kSignedSize := by
  have hle {size : ℕ} (hsize : size ≤ 196) : size ≤ bytes.length := by
    rw [h]
    exact hsize
  have hfields : wireFields p = wireSlices bytes ↔ kMagic = slice bytes 0 4 ∧
      integer bytes 4 2 = 1 ∧ readFields bytes = p ∧
      ¬ (slice bytes 155 9).any (· ≠ 0) = true := by
    rw [readFields_eq_iff, integer_eq_iff (hle (by decide)) (by decide),
      word_eq_iff (hle (by decide)), word_eq_iff (hle (by decide)), get_eq_iff (hle (by decide)),
      get_eq_iff (hle (by decide)), get_eq_iff (hle (by decide)), get_eq_iff (hle (by decide)),
      zeros_iff (hle (by decide))]
    unfold wireFields wireSlices
    rw [slice_one (hle (by decide)), slice_one (hle (by decide)), slice_one (hle (by decide)),
      slice_one (hle (by decide)), slice_one (hle (by decide))]
    simp only [List.cons.injEq, and_true, and_assoc]
  rw [flatten_eq_take_iff h, hfields]
  constructor
  · intro hlaid
    exact ⟨hlaid.magic.symm, hlaid.version, hlaid.fields, hlaid.zeros⟩
  · rintro ⟨hmagic, hversion, hread, hzeros⟩
    exact ⟨hmagic.symm, hversion, hread, hzeros⟩

/-- What may be encoded: an agreed binding, one of two peers, and buttons of that peer. -/
structure Sendable (p : Packet) : Prop where
  valid : valid p.binding = true
  peer : p.peer ≤ 1
  within : p.withinOwnership = true

variable {sha256 : List Byte → Digest}

theorem encode_eq_ok_iff : encode sha256 p = .ok bytes ↔ Sendable p ∧
      (wireFields p).flatten ++ (sha256 (wireFields p).flatten).bytes = bytes := by
  unfold encode
  constructor
  · intro h
    split at h
    · cases h
    · rename_i hchecks
      simp only [not_or, not_not, BitVec.not_lt] at hchecks
      exact ⟨⟨hchecks.1, hchecks.2.1, hchecks.2.2⟩, Except.ok.inj h⟩
  · rintro ⟨hsend, hbytes⟩
    rw [if_neg (by
      simp only [not_or, not_not, BitVec.not_lt]
      exact ⟨hsend.valid, hsend.peer, hsend.within⟩), ← hbytes]

/-- A datagram is the encoding of a packet when its fields and its trailer are. -/
theorem encoded_iff : (wireFields p).flatten ++ (sha256 (wireFields p).flatten).bytes = bytes ↔
      bytes.length = kWireSize ∧ Laid p bytes ∧
        (sha256 (bytes.take kSignedSize)).bytes = slice bytes kSignedSize 32 := by
  constructor
  · rintro rfl
    have hlength : ((wireFields p).flatten ++ (sha256 (wireFields p).flatten).bytes).length =
        kWireSize := by
      rw [List.length_append, length_wireFields, Digest.size]
      rfl
    have htake : ((wireFields p).flatten ++ (sha256 (wireFields p).flatten).bytes).take
        kSignedSize = (wireFields p).flatten := by
      rw [← length_wireFields p, List.take_left]
    refine ⟨hlength, (laid_iff hlength).mpr htake.symm, ?_⟩
    rw [htake]
    unfold slice
    rw [← length_wireFields p, List.drop_left, ← Digest.size, List.take_length]
  · rintro ⟨hlength, hlaid, htrailer⟩
    have htake := (laid_iff hlength).mp hlaid
    have hrest : slice bytes kSignedSize 32 = bytes.drop kSignedSize := by
      apply List.take_of_length_le
      rw [List.length_drop, hlength]
      decide
    rw [htake, htrailer, hrest, List.take_append_drop]

/-- A datagram is accepted as a packet exactly when it is the encoding of that packet. -/
theorem decode_eq_some_iff : decode sha256 bytes = some p ↔ encode sha256 p = .ok bytes := by
  rw [encode_eq_ok_iff, encoded_iff]
  unfold decode
  constructor
  · intro h
    split at h
    · cases h
    rename_i hheader
    split at h
    · cases h
    rename_i hzeros
    split at h
    · cases h
    rename_i htrailer
    dsimp only at h
    split at h
    · cases h
    rename_i hchecks
    obtain rfl : readFields bytes = p := Option.some.inj h
    simp only [not_or, not_not, BitVec.not_lt] at hheader hchecks
    exact ⟨⟨hchecks.1, hheader.2.2.2, hchecks.2⟩, hheader.1,
      ⟨hheader.2.1, hheader.2.2.1, rfl, hzeros⟩, not_not.mp htrailer⟩
  · rintro ⟨hsend, hlength, hlaid, htrailer⟩
    have hpeer : bytes.getD 7 0 = p.peer := congrArg Packet.peer hlaid.fields
    rw [if_neg (by
      simp only [not_or, not_not, BitVec.not_lt, hpeer]
      exact ⟨hlength, hlaid.magic, hlaid.version, hsend.peer⟩), if_neg hlaid.zeros,
      if_neg (not_not.mpr htrailer), hlaid.fields]
    rw [if_neg (by
      simp only [not_or, not_not]
      exact ⟨hsend.valid, hsend.within⟩)]

/-- The codec is a bijection between the packets an engine sends and the datagrams it accepts:
encoding and decoding are inverse to each other, so a packet has one datagram, and a datagram of
any other length is refused. -/
theorem wireCodec_canonical (sha256 : List Byte → Digest) :
    (∀ p, Sendable p → ∃ bytes, encode sha256 p = .ok bytes ∧ decode sha256 bytes = some p) ∧
      (∀ bytes p, decode sha256 bytes = some p → encode sha256 p = .ok bytes) ∧
      (∀ bytes bytes' p, decode sha256 bytes = some p → decode sha256 bytes' = some p →
        bytes = bytes') ∧
      ∀ bytes, bytes.length ≠ kWireSize → decode sha256 bytes = none := by
  refine ⟨?_, ?_, ?_, ?_⟩
  · intro p hp
    have hencode : encode sha256 p = .ok _ := encode_eq_ok_iff.mpr ⟨hp, rfl⟩
    exact ⟨_, hencode, decode_eq_some_iff.mpr hencode⟩
  · intro bytes p h
    exact decode_eq_some_iff.mp h
  · intro bytes bytes' p h h'
    have heq := (decode_eq_some_iff.mp h).symm.trans (decode_eq_some_iff.mp h')
    exact Except.ok.inj heq
  · intro bytes h
    unfold decode
    exact if_pos (.inl h)

end ProtoTime.Netplay
