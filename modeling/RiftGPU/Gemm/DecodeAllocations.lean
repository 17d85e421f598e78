import RiftGPU.Gemm.ResponseRoundTrip
import RiftGPU.Trace.Traced

/-!
# What the GEMM decoders allocate

The decoders read the elements of a matrix into a vector that is allocated for their number before
the first is read. The number comes from the header of the message. Here the decoders are
instrumented: they record the capacity of every vector that they allocate, and yield the position
at which they stop reading. The instrumentation does not change what they return.

## Main definitions

* `Gemm.decodeRequestTraced`, `Gemm.decodeResponseTraced`: the decoders with their allocations.

## Main results

* `Gemm.decodeRequest_eq_error_iff`: the decoder fails only when the header check fails.
* `Gemm.only_decodeRequestTraced`, `Gemm.only_decodeResponseTraced`: no allocation is for more
  elements than the message can hold.
* `Gemm.cursor_of_decodeRequestTraced`: the decoder reads the whole message.
-/

namespace RiftGPU.Gemm

open Bytes

/-! ### The instrumented decoders -/

/-- `readF32Values`, with the capacity of its vector. -/
def readF32ValuesTraced (input : List Byte) (cursor : ℕ) (count : BitVec 64) :
    Traced ℕ GemmProtocolError (List F32 × ℕ) := do
  Traced.record count.toNat
  liftM (readF32Values input cursor count)

/-- `decodeRequest`, with the cursor behind the last element. -/
def decodeRequestTraced (input : List Byte) :
    Traced ℕ GemmProtocolError (DecodedGemmRequest × ℕ) := do
  let requestMeta ← inspectRequest input
  let (a, cursor) ← readF32ValuesTraced input gemmRequestHeaderLen requestMeta.aElements
  let (b, cursor) ← readF32ValuesTraced input cursor requestMeta.bElements
  if requestMeta.hasC then
    let (c, cursor) ← readF32ValuesTraced input cursor requestMeta.cElements
    return ({ requestMeta, a, b, c := some c }, cursor)
  else
    return ({ requestMeta, a, b, c := none }, cursor)

/-- `decodeResponse`, with the cursor behind the last element. -/
def decodeResponseTraced (input : List Byte) :
    Traced ℕ GemmProtocolError (DecodedGemmResponse × ℕ) := do
  requireLen input gemmResponseHeaderLen
  Except.rejectIf (slice input 0 8 ≠ gemmResponseMagic) GemmProtocolError.invalidMagic
  let version ← readU32 input 8
  Except.rejectIf (version ≠ gemmProtocolVersion)
    (GemmProtocolError.unsupportedVersion version gemmProtocolVersion)
  let headerLen ← readU32 input 12
  Except.rejectIf (headerLen.toNat ≠ gemmResponseHeaderLen)
    (GemmProtocolError.invalidHeaderLength headerLen gemmResponseHeaderLen)
  let m ← readU64 input 16
  let n ← readU64 input 24
  let expectedLen ← encodedResponseLen m n
  let actualLen ← (BitVec.tryOfNat 64 input.length).okOr GemmProtocolError.addressSpaceOverflow
  Except.rejectIf (expectedLen ≠ actualLen) (GemmProtocolError.lengthMismatch expectedLen actualLen)
  let elements ← checkedElements m n "response matrix"
  let (values, cursor) ← readF32ValuesTraced input gemmResponseHeaderLen elements
  return ({ m, n, values }, cursor)

@[simp] theorem result_readF32ValuesTraced (input : List Byte) (cursor : ℕ) (count : BitVec 64) :
    (readF32ValuesTraced input cursor count).result = readF32Values input cursor count := by
  rw [readF32ValuesTraced, Traced.result_bind, Traced.result_record, Except.ok_bind,
    Traced.result_liftM]

/-- The instrumented decoder returns what the decoder returns. -/
theorem map_result_decodeRequestTraced (input : List Byte) :
    Prod.fst <$> (decodeRequestTraced input).result = decodeRequest input := by
  simp only [decodeRequestTraced, decodeRequest, Traced.result_bind, Traced.result_liftM,
    result_readF32ValuesTraced, map_bind]
  refine congrArg _ (funext fun requestMeta => congrArg _ (funext ?_))
  rintro ⟨a, cursorB⟩
  refine congrArg _ (funext ?_)
  rintro ⟨b, cursorC⟩
  dsimp only
  split
  · rw [Traced.result_bind, result_readF32ValuesTraced, map_bind]
    rfl
  · rfl

/-- The instrumented decoder returns what the decoder returns. -/
theorem map_result_decodeResponseTraced (input : List Byte) :
    Prod.fst <$> (decodeResponseTraced input).result = decodeResponse input := by
  simp only [decodeResponseTraced, decodeResponse, Traced.result_bind, Traced.result_liftM,
    result_readF32ValuesTraced, map_bind]
  rfl

/-! ### Failures -/

/-- The decoder yields the header that the header check yields. -/
theorem decodeRequest_of_inspectRequest {input : List Byte} {header : GemmRequestMeta}
    (h : inspectRequest input = .ok header) :
    ∃ decoded, decodeRequest input = .ok decoded ∧ decoded.requestMeta = header := by
  obtain ⟨request, reserved, hsized, rfl, rfl⟩ := (inspectRequest_eq_ok_iff.1 h).exists_request
  exact ⟨request.decoded, decodeRequest_requestBytes hsized reserved, rfl⟩

/-- The decoder fails exactly when the header check fails, and with the same error. -/
theorem decodeRequest_eq_error_iff {input : List Byte} {error : GemmProtocolError} :
    decodeRequest input = .error error ↔ inspectRequest input = .error error := by
  cases h : inspectRequest input with
  | error e =>
    rw [decodeRequest, h, Except.error_bind, Except.error.injEq, Except.error.injEq]
  | ok header =>
    obtain ⟨decoded, hdecode, -⟩ := decodeRequest_of_inspectRequest h
    rw [hdecode]
    constructor
    · rintro ⟨⟩
    · rintro ⟨⟩

/-- The decoder of requests reads the whole message. -/
theorem cursor_of_decodeRequestTraced {input : List Byte} {decoded : DecodedGemmRequest}
    {cursor : ℕ} (h : (decodeRequestTraced input).result = .ok (decoded, cursor)) :
    cursor = input.length := by
  have hdecode : decodeRequest input = .ok decoded := by
    rw [← map_result_decodeRequestTraced, h]
    rfl
  obtain ⟨request, reserved, hsized, rfl, -⟩ := decodeRequest_eq_ok_iff.1 hdecode
  obtain ⟨hreadA, hreadB, hreadC, hend⟩ := hsized.reads reserved
  simp only [decodeRequestTraced, Traced.result_bind, Traced.result_liftM,
    result_readF32ValuesTraced, inspectRequest_eq_ok_iff.2 (hsized.isRequestHeader reserved),
    Except.ok_bind, hreadA, hreadB] at h
  cases hcase : request.c with
  | none =>
    have hhas : request.header.hasC = false := by rw [GemmRequest.header, hcase]; rfl
    rw [hhas, if_neg Bool.false_ne_true] at h
    rw [← hend, hcase]
    exact (Prod.mk.inj (Except.ok.inj h)).2.symm
  | some c =>
    have hhas : request.header.hasC = true := by rw [GemmRequest.header, hcase]; rfl
    rw [hhas, if_pos rfl, Traced.result_bind, result_readF32ValuesTraced, hreadC c hcase] at h
    rw [← hend, hcase]
    exact (Prod.mk.inj (Except.ok.inj h)).2.symm

/-! ### Allocations -/

/-- A vector of `count` elements of a message of `size` bytes takes no more bytes than the
message. -/
def FitsMessage (size count : ℕ) : Prop := 4 * count ≤ size

theorem only_readF32ValuesTraced {input : List Byte} (cursor : ℕ) {count : BitVec 64}
    (h : 4 * count.toNat ≤ input.length) :
    (readF32ValuesTraced input cursor count).Only (FitsMessage input.length) :=
  (Traced.only_record (P := FitsMessage input.length) h).bind fun _ _ => Traced.only_liftM _

/-- The vectors of the decoder of requests. -/
theorem only_decodeRequestTraced (input : List Byte) :
    (decodeRequestTraced input).Only (FitsMessage input.length) := by
  refine (Traced.only_liftM _).bind fun header hheader => ?_
  have h := inspectRequest_eq_ok_iff.1 hheader
  have hlen := h.length_eq
  rw [h.encodedLen] at hlen
  refine (only_readF32ValuesTraced _ (by omega)).bind fun a _ => ?_
  refine (only_readF32ValuesTraced _ (by omega)).bind fun b _ => ?_
  dsimp only
  split
  case isTrue hC =>
    rw [if_pos hC] at hlen
    exact (only_readF32ValuesTraced _ (by omega)).bind fun c _ => Traced.only_pure _
  case isFalse => exact Traced.only_pure _

/-- The vector of the decoder of responses. -/
theorem only_decodeResponseTraced (input : List Byte) :
    (decodeResponseTraced input).Only (FitsMessage input.length) := by
  refine (Traced.only_liftM _).bind fun _ _ => (Traced.only_liftM _).bind fun _ _ => ?_
  refine (Traced.only_liftM _).bind fun version _ => (Traced.only_liftM _).bind fun _ _ => ?_
  refine (Traced.only_liftM _).bind fun headerLen _ => (Traced.only_liftM _).bind fun _ _ => ?_
  refine (Traced.only_liftM _).bind fun m _ => (Traced.only_liftM _).bind fun n _ => ?_
  refine (Traced.only_liftM _).bind fun expected hexpected => ?_
  refine (Traced.only_liftM _).bind fun actual hactual => ?_
  refine (Traced.only_liftM _).bind fun _ hlen => ?_
  refine (Traced.only_liftM _).bind fun elements helements => ?_
  refine (only_readF32ValuesTraced _ ?_).bind fun values _ => Traced.only_pure _
  rw [Traced.result_liftM] at hexpected hactual hlen helements
  rw [Option.okOr_eq_ok_iff, BitVec.tryOfNat_eq_some_iff] at hactual
  rw [Except.rejectIf_eq_ok_iff, not_not] at hlen
  rw [checkedElements_eq_ok_iff] at helements
  rw [encodedResponseLen_eq_ok_iff, hlen, hactual, ← helements] at hexpected
  omega

/-- **After the header check, decoding neither fails nor allocates too much.** A request decodes
exactly when its header passes the check, the decoder otherwise fails with the error of the check,
and a request that decodes is read to its end. The instrumented decoders return what the decoders
return, and allocate no vector that is larger than the message, whether they succeed or fail. -/
theorem decode_safe (input : List Byte) :
    ((∃ decoded, decodeRequest input = .ok decoded) ↔
      ∃ header, inspectRequest input = .ok header) ∧
    (∀ error, decodeRequest input = .error error ↔ inspectRequest input = .error error) ∧
    Prod.fst <$> (decodeRequestTraced input).result = decodeRequest input ∧
    Prod.fst <$> (decodeResponseTraced input).result = decodeResponse input ∧
    (∀ decoded cursor, (decodeRequestTraced input).result = .ok (decoded, cursor) →
      cursor = input.length) ∧
    (∀ count ∈ (decodeRequestTraced input).log, 4 * count ≤ input.length) ∧
    (∀ count ∈ (decodeResponseTraced input).log, 4 * count ≤ input.length) := by
  refine ⟨⟨?_, ?_⟩, fun _ => decodeRequest_eq_error_iff, map_result_decodeRequestTraced input,
    map_result_decodeResponseTraced input, fun _ _ => cursor_of_decodeRequestTraced,
    only_decodeRequestTraced input, only_decodeResponseTraced input⟩
  · rintro ⟨decoded, hdecode⟩
    obtain ⟨header, hinspect, -⟩ := Except.bind_eq_ok_iff.1 hdecode
    exact ⟨header, hinspect⟩
  · rintro ⟨header, hinspect⟩
    obtain ⟨decoded, hdecode, -⟩ := decodeRequest_of_inspectRequest hinspect
    exact ⟨decoded, hdecode⟩

end RiftGPU.Gemm
