import RiftGPU.Gemm.ProtocolRoundTrip

/-!
# Encoding and decoding of GEMM responses are inverse

A response message is its five header fields followed by the elements of the result. The encoder
yields these bytes for as many values as the dimensions imply, and the decoder accepts nothing
else, so a message and its response determine each other.

## Main definitions

* `Gemm.responseBytes`: the message of a response.
* `Gemm.DecodedGemmResponse.WellSized`: responses that have a message.

## Main results

* `Gemm.encodeResponse_eq_map`: the encoder.
* `Gemm.decodeResponse_responseBytes`: the decoder on the message of a response.
* `Gemm.encodeResponse_eq_ok_iff`, `Gemm.decodeResponse_eq_ok_iff`: what the encoder and the
  decoder accept and yield.
-/

namespace RiftGPU.Gemm

open Bytes

/-- The header of the message of a response. -/
def responseHeader (m n : BitVec 64) : List Byte :=
  gemmResponseMagic ++ (toLe gemmProtocolVersion ++
    (toLe (BitVec.ofNat 32 gemmResponseHeaderLen) ++ (toLe m ++ toLe n)))

/-- The message of a response. -/
def responseBytes (m n : BitVec 64) (values : List F32) : List Byte :=
  responseHeader m n ++ wordsLe values

@[simp] theorem length_gemmResponseMagic : gemmResponseMagic.length = 8 := by decide

@[simp] theorem length_responseHeader (m n : BitVec 64) :
    (responseHeader m n).length = gemmResponseHeaderLen := by
  simp [responseHeader, gemmResponseHeaderLen]

theorem length_responseBytes (m n : BitVec 64) (values : List F32) :
    (responseBytes m n values).length = gemmResponseHeaderLen + 4 * values.length := by
  rw [responseBytes, List.length_append, length_responseHeader, length_wordsLe]

/-- The fields of the header lie at their offsets. -/
theorem responseBytes_fields (m n : BitVec 64) (values : List F32) :
    slice (responseBytes m n values) 0 8 = gemmResponseMagic ∧
      ofLe 32 (slice (responseBytes m n values) 8 4) = gemmProtocolVersion ∧
      ofLe 32 (slice (responseBytes m n values) 12 4) = BitVec.ofNat 32 gemmResponseHeaderLen ∧
      ofLe 64 (slice (responseBytes m n values) 16 8) = m ∧
      ofLe 64 (slice (responseBytes m n values) 24 8) = n := by
  simp only [responseBytes, responseHeader, List.append_assoc]
  simp (disch := simp) only [slice_append_right, slice_append_left, length_toLe,
    length_gemmResponseMagic, Nat.reduceDiv, Nat.reduceSub, ofLe_toLe, and_self]

theorem encodedResponseLen_eq_ok_iff {m n length : BitVec 64} :
    encodedResponseLen m n = .ok length ↔
      length.toNat = gemmResponseHeaderLen + 4 * (m.toNat * n.toNat) := by
  have hf32 : f32Bytes.toNat = 4 := rfl
  have hheader : (BitVec.ofNat 64 gemmResponseHeaderLen).toNat = gemmResponseHeaderLen := rfl
  simp only [encodedResponseLen, Except.bind_eq_ok_iff, checkedElements_eq_ok_iff,
    Option.okOr_eq_ok_iff, BitVec.checkedMul_eq_some_iff, BitVec.checkedAdd_eq_some_iff, hf32,
    hheader]
  constructor
  · rintro ⟨elements, helements, payload, hpayload, hlength⟩
    rw [hlength, hpayload, helements, Nat.mul_comm 4]
  · intro hlength
    have hlt := length.isLt
    obtain ⟨elements, helements⟩ := BitVec.exists_toNat_eq (w := 64)
      (show m.toNat * n.toNat < 2 ^ 64 by omega)
    obtain ⟨payload, hpayload⟩ := BitVec.exists_toNat_eq (w := 64)
      (show elements.toNat * 4 < 2 ^ 64 by omega)
    exact ⟨elements, helements, payload, hpayload,
      by rw [hlength, hpayload, helements, Nat.mul_comm 4]⟩

/-- On as many values as the dimensions imply, the encoder fails only when the length computation
fails, and then with the same error. -/
theorem encodeResponse_eq_map {m n : BitVec 64} {values : List F32}
    (h : values.length = m.toNat * n.toNat) :
    encodeResponse m n values = (encodedResponseLen m n).map fun _ => responseBytes m n values := by
  have hbytes : writeF32Values (gemmResponseMagic ++ toLe gemmProtocolVersion ++
      toLe (BitVec.ofNat 32 gemmResponseHeaderLen) ++ toLe m ++ toLe n) values =
      responseBytes m n values := by
    simp only [responseBytes, responseHeader, writeF32Values, foldl_append_toLe, List.append_assoc]
  cases hcheck : checkedElements m n "response matrix" with
  | error error => rw [encodeResponse, encodedResponseLen, hcheck]; rfl
  | ok elements =>
    have hslice : validateSliceLen "response" elements values.length = .ok () := by
      rw [validateSliceLen_eq_ok_iff, checkedElements_eq_ok_iff.1 hcheck, h]
    rw [encodeResponse, hcheck, Except.ok_bind, hslice, Except.ok_bind]
    dsimp only
    rw [hbytes]
    cases encodedResponseLen m n <;> rfl

/-- The decoder reads the values that the message of a response carries. -/
theorem decodeResponse_responseBytes {m n length : BitVec 64} {values : List F32}
    (h : values.length = m.toNat * n.toNat) (hlength : encodedResponseLen m n = .ok length) :
    decodeResponse (responseBytes m n values) = .ok { m, n, values } := by
  have hlen : (responseBytes m n values).length = length.toNat := by
    rw [length_responseBytes, encodedResponseLen_eq_ok_iff.1 hlength, h]
  have hlt : (responseBytes m n values).length < 2 ^ 64 := hlen ▸ length.isLt
  have hle : gemmResponseHeaderLen ≤ (responseBytes m n values).length := by
    rw [length_responseBytes]
    omega
  have hle' : 32 ≤ (responseBytes m n values).length := hle
  obtain ⟨elements, helements⟩ := BitVec.exists_toNat_eq (w := 64)
    (show m.toNat * n.toNat < 2 ^ 64 by
      rw [length_responseBytes, h] at hlt
      omega)
  have hcheck : checkedElements m n "response matrix" = .ok elements :=
    checkedElements_eq_ok_iff.2 helements
  have hvalues : readF32Values (responseBytes m n values) gemmResponseHeaderLen elements =
      .ok (values, gemmResponseHeaderLen + 4 * values.length) :=
    readF32Values_of_eq (responseHeader m n) [] (by rw [List.append_nil]; rfl)
      (length_responseHeader m n).symm (helements.trans h.symm) hlt
  have hactual : BitVec.tryOfNat 64 (responseBytes m n values).length = some length :=
    BitVec.tryOfNat_eq_some_iff.2 hlen.symm
  obtain ⟨hmagic, hversion, hheader, hm, hn⟩ := responseBytes_fields m n values
  have hconst : (BitVec.ofNat 32 gemmResponseHeaderLen).toNat = gemmResponseHeaderLen := rfl
  rw [decodeResponse, requireLen, Except.rejectIf_of_not (not_lt.2 hle), Except.ok_bind]
  simp (disch := omega) only [readU32_of_le, readU64_of_le, Except.ok_bind]
  simp only [hmagic, hversion, hheader, hm, hn, hconst, hlength, hactual, hcheck, hvalues,
    Except.rejectIf, ne_eq, not_true_eq_false, if_false, Option.okOr_some, Except.ok_bind]
  rfl

/-! ### What is accepted -/

/-- A response with as many values as its dimensions imply, whose message length fits 64 bits. -/
structure DecodedGemmResponse.WellSized (response : DecodedGemmResponse) : Prop where
  values_length : response.values.length = response.m.toNat * response.n.toNat
  messageLen_lt : gemmResponseHeaderLen + 4 * response.values.length < 2 ^ 64

/-- The message length of a well-sized response is the one that the protocol computes. -/
theorem DecodedGemmResponse.WellSized.exists_encodedResponseLen {response : DecodedGemmResponse}
    (h : response.WellSized) :
    ∃ length, encodedResponseLen response.m response.n = .ok length ∧
      length.toNat = gemmResponseHeaderLen + 4 * response.values.length := by
  obtain ⟨length, hlength⟩ := BitVec.exists_toNat_eq h.messageLen_lt
  exact ⟨length, encodedResponseLen_eq_ok_iff.2 (by rw [hlength, h.values_length]), hlength⟩

/-- The encoder accepts exactly the well-sized responses and yields their message. -/
theorem encodeResponse_eq_ok_iff {m n : BitVec 64} {values : List F32} {bytes : List Byte} :
    encodeResponse m n values = .ok bytes ↔
      DecodedGemmResponse.WellSized { m, n, values } ∧ bytes = responseBytes m n values := by
  constructor
  · intro h
    have hvalues : values.length = m.toNat * n.toNat := by
      simp only [encodeResponse, Except.bind_eq_ok_iff, checkedElements_eq_ok_iff,
        validateSliceLen_eq_ok_iff] at h
      obtain ⟨elements, helements, _, hslice, -⟩ := h
      rw [← hslice, helements]
    rw [encodeResponse_eq_map hvalues] at h
    cases hlength : encodedResponseLen m n with
    | error error => rw [hlength] at h; cases h
    | ok length =>
      rw [hlength] at h
      refine ⟨⟨hvalues, ?_⟩, (Except.ok.inj h).symm⟩
      rw [hvalues, ← encodedResponseLen_eq_ok_iff.1 hlength]
      exact length.isLt
  · rintro ⟨hsized, rfl⟩
    obtain ⟨length, hlength, -⟩ := hsized.exists_encodedResponseLen
    rw [encodeResponse_eq_map hsized.values_length, hlength]
    rfl

/-- The constant fields of the header of `input` are the specified ones, the dimensions are read
from it, and the message has the length that they imply. -/
structure IsResponseHeader (input : List Byte) (m n : BitVec 64) : Prop where
  length_le : gemmResponseHeaderLen ≤ input.length
  magic : slice input 0 8 = gemmResponseMagic
  version : ofLe 32 (slice input 8 4) = gemmProtocolVersion
  headerLen : (ofLe 32 (slice input 12 4)).toNat = gemmResponseHeaderLen
  m_eq : m = ofLe 64 (slice input 16 8)
  n_eq : n = ofLe 64 (slice input 24 8)
  length_eq : input.length = gemmResponseHeaderLen + 4 * (m.toNat * n.toNat)
  length_lt : input.length < 2 ^ 64

/-- What the decoder accepts has a response header with the dimensions that it yields. -/
theorem isResponseHeader_of_decodeResponse {input : List Byte} {response : DecodedGemmResponse}
    (h : decodeResponse input = .ok response) : IsResponseHeader input response.m response.n := by
  rw [decodeResponse, requireLen, Except.rejectIf_bind_eq_ok_iff, not_lt] at h
  obtain ⟨hle, h⟩ := h
  have hle' : 32 ≤ input.length := hle
  simp (disch := omega) only [readU32_of_le, readU64_of_le, Except.ok_bind,
    Except.rejectIf_bind_eq_ok_iff, ne_eq, not_not] at h
  obtain ⟨hmagic, hversion, hheader, h⟩ := h
  simp only [Except.bind_eq_ok_iff, Option.okOr_eq_ok_iff, BitVec.tryOfNat_eq_some_iff,
    Except.rejectIf_eq_ok_iff, not_not, Except.pure_eq_ok_iff] at h
  obtain ⟨expected, hexpected, actual, hactual, _, rfl, _, -, _, -, rfl⟩ := h
  refine ⟨hle, hmagic, hversion, hheader, rfl, rfl, ?_, ?_⟩
  · rw [← hactual]
    exact encodedResponseLen_eq_ok_iff.1 hexpected
  · rw [← hactual]
    exact expected.isLt

/-- A message with a response header is the message of a well-sized response. -/
theorem IsResponseHeader.exists_values {input : List Byte} {m n : BitVec 64}
    (h : IsResponseHeader input m n) :
    ∃ values, DecodedGemmResponse.WellSized { m, n, values } ∧
      input = responseBytes m n values := by
  have hlen : (input.drop gemmResponseHeaderLen).length = 32 / 8 * (m.toNat * n.toNat) := by
    rw [List.length_drop, h.length_eq, Nat.add_sub_cancel_left]
  obtain ⟨values, hvalues, hdrop⟩ := exists_wordsLe (by norm_num) hlen
  have hlt := h.length_lt
  rw [h.length_eq, ← hvalues] at hlt
  refine ⟨values, ⟨hvalues, hlt⟩, ?_⟩
  have hle : 32 ≤ input.length := h.length_le
  have hconst : BitVec.ofNat 32 gemmResponseHeaderLen = ofLe 32 (slice input 12 4) := by
    rw [← h.headerLen, BitVec.ofNat_toNat, BitVec.setWidth_eq]
  simp only [responseBytes, responseHeader, ← h.magic, ← h.version, hconst, h.m_eq, h.n_eq, ← hdrop]
  simp (disch := first | rfl | (rw [length_slice (by omega)])) only [toLe_ofLe]
  -- The header fields are the adjacent slices of the first 32 bytes.
  simp only [← List.append_assoc]
  simp (disch := rfl) only [slice_append_slice, Nat.reduceAdd]
  rw [gemmResponseHeaderLen, slice, List.drop_zero, List.take_append_drop]

/-- The decoder accepts exactly the messages of well-sized responses and yields the response. -/
theorem decodeResponse_eq_ok_iff {input : List Byte} {response : DecodedGemmResponse} :
    decodeResponse input = .ok response ↔
      response.WellSized ∧ input = responseBytes response.m response.n response.values := by
  constructor
  · intro h
    obtain ⟨values, hsized, hinput⟩ := (isResponseHeader_of_decodeResponse h).exists_values
    obtain ⟨length, hlength, -⟩ := hsized.exists_encodedResponseLen
    rw [hinput, decodeResponse_responseBytes hsized.values_length hlength] at h
    rw [← Except.ok.inj h]
    exact ⟨hsized, hinput⟩
  · rintro ⟨hsized, rfl⟩
    obtain ⟨length, hlength, -⟩ := hsized.exists_encodedResponseLen
    exact decodeResponse_responseBytes hsized.values_length hlength

/-! ### The round trips -/

/-- **Encoding and decoding of responses are mutually inverse.** What the encoder yields decodes
to the dimensions and values that were encoded, and has the length that the protocol computes for
the dimensions; and what a message decodes to is encoded to that message. -/
theorem response_codec_inverse :
    (∀ (m n : BitVec 64) (values : List F32) (bytes : List Byte),
      encodeResponse m n values = .ok bytes →
      decodeResponse bytes = .ok { m, n, values } ∧
        ∃ length, encodedResponseLen m n = .ok length ∧ bytes.length = length.toNat) ∧
    (∀ (bytes : List Byte) (response : DecodedGemmResponse),
      decodeResponse bytes = .ok response →
      encodeResponse response.m response.n response.values = .ok bytes) := by
  refine ⟨fun m n values bytes h => ?_, fun bytes response h => ?_⟩
  · obtain ⟨hsized, rfl⟩ := encodeResponse_eq_ok_iff.1 h
    obtain ⟨length, hlength, hlen⟩ := hsized.exists_encodedResponseLen
    exact ⟨decodeResponse_eq_ok_iff.2 ⟨hsized, rfl⟩, length, hlength,
      (length_responseBytes m n values).trans hlen.symm⟩
  · exact encodeResponse_eq_ok_iff.2 (decodeResponse_eq_ok_iff.1 h)

/-- A one-by-two response, encoded and decoded. -/
theorem response_codec_inverse_row :
    let values : List F32 := [0x3f800000#32, 0x7fc00001#32]
    decodeResponse (responseBytes 1#64 2#64 values) = .ok ⟨1#64, 2#64, values⟩ ∧
      encodeResponse 1#64 2#64 values = .ok (responseBytes 1#64 2#64 values) := by
  intro values
  have hsized : DecodedGemmResponse.WellSized ⟨1#64, 2#64, values⟩ := ⟨rfl, by decide⟩
  obtain ⟨hdecode, -⟩ := response_codec_inverse.1 1#64 2#64 values
    (responseBytes 1#64 2#64 values) (encodeResponse_eq_ok_iff.2 ⟨hsized, rfl⟩)
  exact ⟨hdecode, response_codec_inverse.2 _ _ hdecode⟩

end RiftGPU.Gemm
