import RiftGPU.Gemm.ReferenceValues
import RiftGPU.Gemm.ResponseRoundTrip

/-!
# The response of the reference GEMM

The reference either rejects a message with an error that the size computation reports as well, or
the message is that of a request within the limits and the response carries the values of its
entries. It never panics.

## Main definitions

* `Gemm.GemmRequest.values`, `Gemm.GemmRequest.response`: the result of a request.

## Main results

* `Gemm.validateLimits_eq_ok_iff`: what the limits allow.
* `Gemm.execute_or_reject`: the reference and its size computation, for every message.
-/

namespace RiftGPU.Gemm

open Bytes RowMajor FloatCodec

/-! ### Limits -/

/-- A request within the limits. -/
structure GemmRequestMeta.Within (header : GemmRequestMeta) (limits : GemmLimits) : Prop where
  a_le : header.aElements.toNat ≤ limits.maxMatrixElements.toNat
  b_le : header.bElements.toNat ≤ limits.maxMatrixElements.toNat
  c_le : header.cElements.toNat ≤ limits.maxMatrixElements.toNat
  operations_le :
    header.m.toNat * header.n.toNat * header.k.toNat ≤ limits.maxMultiplyAdds.toNat

/-- The count of operations never overflows. -/
theorem validateLimits_eq {header : GemmRequestMeta} (limits : GemmLimits)
    (hc : header.cElements.toNat = header.m.toNat * header.n.toNat) :
    ∃ operations : BitVec 128,
      operations.toNat = header.m.toNat * header.n.toNat * header.k.toNat ∧
      validateLimits header limits = (do
        checkElements limits "matrix A elements" header.aElements
        checkElements limits "matrix B elements" header.bElements
        checkElements limits "matrix C/output elements" header.cElements
        Except.rejectIf (operations > limits.maxMultiplyAdds.setWidth 128)
          (.error (.resourceLimit "multiply-add count" operations
            (limits.maxMultiplyAdds.setWidth 128)))) := by
  have hwide (x : BitVec 64) : (x.setWidth 128).toNat = x.toNat :=
    BitVec.toNat_setWidth_of_le (by omega)
  have hlt := header.cElements.isLt
  rw [hc] at hlt
  obtain ⟨product, hproduct⟩ := BitVec.exists_toNat_eq (w := 128)
    (show header.m.toNat * header.n.toNat < 2 ^ 128 by omega)
  obtain ⟨operations, hoperations⟩ := BitVec.exists_toNat_eq (w := 128)
    (show header.m.toNat * header.n.toNat * header.k.toNat < 2 ^ 128 from
      calc _ < 2 ^ 64 * 2 ^ 64 := Nat.mul_lt_mul'' hlt header.k.isLt
        _ = 2 ^ 128 := by norm_num)
  refine ⟨operations, hoperations, ?_⟩
  have hmul : (header.m.setWidth 128).checkedMul (header.n.setWidth 128) = some product := by
    rw [BitVec.checkedMul_eq_some_iff, hwide, hwide, hproduct]
  have hmul' : product.checkedMul (header.k.setWidth 128) = some operations := by
    rw [BitVec.checkedMul_eq_some_iff, hwide, hproduct, hoperations]
  rw [validateLimits, hmul, Fault.orPanic_some]
  simp only [Except.ok_bind, hmul', Fault.orPanic_some]

theorem checkElements_eq_ok_iff {limits : GemmLimits} {resource : String} {elements : BitVec 64}
    {u : Unit} :
    checkElements limits resource elements = .ok u ↔
      elements.toNat ≤ limits.maxMatrixElements.toNat := by
  rw [checkElements, Except.rejectIf_eq_ok_iff, gt_iff_lt, BitVec.not_lt, BitVec.le_def]

theorem validateLimits_eq_ok_iff {header : GemmRequestMeta} {limits : GemmLimits} {u : Unit}
    (hc : header.cElements.toNat = header.m.toNat * header.n.toNat) :
    validateLimits header limits = .ok u ↔ header.Within limits := by
  obtain ⟨operations, hoperations, heq⟩ := validateLimits_eq limits hc
  have hwide : (limits.maxMultiplyAdds.setWidth 128).toNat = limits.maxMultiplyAdds.toNat :=
    BitVec.toNat_setWidth_of_le (by omega)
  simp only [heq, Except.bind_eq_ok_iff, checkElements_eq_ok_iff, Except.rejectIf_eq_ok_iff,
    exists_const, gt_iff_lt, BitVec.not_lt, BitVec.le_def, hwide, hoperations]
  exact ⟨fun ⟨ha, hb, hc, hmac⟩ => ⟨ha, hb, hc, hmac⟩,
    fun h => ⟨h.a_le, h.b_le, h.c_le, h.operations_le⟩⟩

/-- A request beyond the limits is rejected with an error. -/
theorem validateLimits_or_reject (header : GemmRequestMeta) (limits : GemmLimits)
    (hc : header.cElements.toNat = header.m.toNat * header.n.toNat) :
    validateLimits header limits = .ok () ∨
      ∃ error, validateLimits header limits = .error (.error error) := by
  obtain ⟨operations, _, heq⟩ := validateLimits_eq limits hc
  cases hresult : validateLimits header limits with
  | ok u => exact .inl rfl
  | error fault =>
    simp only [heq, checkElements, Except.bind_eq_error_iff, Except.rejectIf_eq_error_iff,
      Except.rejectIf_eq_ok_iff, exists_const] at hresult
    obtain ⟨_, rfl⟩ | ⟨_, ⟨_, rfl⟩ | ⟨_, ⟨_, rfl⟩ | ⟨_, _, rfl⟩⟩⟩ := hresult
    all_goals exact .inr ⟨_, rfl⟩

/-! ### Requests -/

section Execution

variable (F : Type) [Add F] [Mul F] [Zero F] [BEq F] [FloatCodec F]

/-- The entries of the result of a request, row by row. -/
def GemmRequest.values (request : GemmRequest) : List F :=
  table (request.m.toNat * request.n.toNat) fun p =>
    gemmValue (ofBits request.alpha) (ofBits request.beta) request.n.toNat request.k.toNat
      request.a request.b request.c (p / request.n.toNat) (p % request.n.toNat)

/-- The response to a request. -/
def GemmRequest.response (request : GemmRequest) : List Byte :=
  responseBytes request.m request.n ((request.values F).map toBits)

theorem GemmRequest.length_response (request : GemmRequest) :
    (request.response F).length =
      gemmResponseHeaderLen + 4 * (request.m.toNat * request.n.toNat) := by
  rw [GemmRequest.response, length_responseBytes, List.length_map, GemmRequest.values,
    length_table]

theorem GemmRequest.WellSized.kernelShapes {request : GemmRequest} (h : request.WellSized) :
    KernelShapes request.m.toNat request.n.toNat request.k.toNat request.a request.b := by
  have hlt := h.messageLen_lt
  rw [GemmRequest.messageLen, h.a_length, h.b_length] at hlt
  exact ⟨h.a_length, h.b_length, by omega, by omega, h.c_lt⟩

/-- The reference on the message of a request within the limits. -/
theorem executeGemmBytes_requestBytes {request : GemmRequest} (h : request.WellSized)
    (reserved : BitVec 32) {limits : GemmLimits}
    (hlimits : validateLimits request.header limits = .ok ()) :
    executeGemmBytes F (requestBytes request reserved) limits =
      ofProtocol ((encodedResponseLen request.m request.n).map fun _ => request.response F) := by
  have hinspect : inspectRequest (requestBytes request reserved) = .ok request.header :=
    inspectRequest_eq_ok_iff.2 (h.isRequestHeader reserved)
  have hkernel := gemmKernel_eq_ok h.kernelShapes (ofBits request.alpha : F)
    (ofBits request.beta) h.c_length
  have hlength : ((request.values F).map toBits).length = request.m.toNat * request.n.toNat := by
    rw [List.length_map, GemmRequest.values, length_table]
  rw [executeGemmBytes, hinspect, decodeRequest_requestBytes h]
  simp only [ofProtocol, Except.mapError, Fault.lift_ok, Except.ok_bind, hlimits,
    GemmRequest.decoded, h.toNat_elements.2.2.1]
  simp only [GemmRequest.header, hkernel, Except.ok_bind]
  exact congrArg ofProtocol (encodeResponse_eq_map hlength)

/-- **The reference and its size computation.** Every message is rejected by both with the same
error, or it is the message of a request within the limits; then the reference yields the
response, whose length is the computed one. -/
theorem execute_or_reject (input : List Byte) (limits : GemmLimits) :
    (∃ error, requiredOutputLen input limits = .error (.error error) ∧
      executeGemmBytes F input limits = .error (.error error)) ∨
    ∃ request reserved length, GemmRequest.WellSized request ∧
      input = requestBytes request reserved ∧ request.header.Within limits ∧
      requiredOutputLen input limits = .ok length ∧
      executeGemmBytes F input limits = .ok (request.response F) ∧
      (request.response F).length = length.toNat := by
  cases hinspect : inspectRequest input with
  | error error =>
    refine .inl ⟨.protocol error, ?_, ?_⟩
    · rw [requiredOutputLen, hinspect]
      rfl
    · rw [executeGemmBytes, hinspect]
      rfl
  | ok header =>
    have hheader := inspectRequest_eq_ok_iff.1 hinspect
    obtain ⟨request, reserved, hsized, rfl, rfl⟩ := hheader.exists_request
    have hrequired : requiredOutputLen (requestBytes request reserved) limits =
        (do
          validateLimits request.header limits
          ofProtocol (encodedResponseLen request.m request.n)) := by
      rw [requiredOutputLen, hinspect]
      rfl
    obtain hlimits | ⟨error, hreject⟩ :=
      validateLimits_or_reject request.header limits hheader.cElements
    · have hexecute := executeGemmBytes_requestBytes F hsized reserved hlimits
      rw [hlimits, Except.ok_bind] at hrequired
      cases hlength : encodedResponseLen request.m request.n with
      | error error =>
        rw [hlength] at hrequired hexecute
        exact .inl ⟨.protocol error, hrequired, hexecute⟩
      | ok length =>
        rw [hlength] at hrequired hexecute
        refine .inr ⟨request, reserved, length, hsized, rfl,
          (validateLimits_eq_ok_iff hheader.cElements).1 hlimits, hrequired, hexecute, ?_⟩
        rw [request.length_response F, encodedResponseLen_eq_ok_iff.1 hlength]
    · refine .inl ⟨error, ?_, ?_⟩
      · rw [hrequired, hreject]
        rfl
      · rw [executeGemmBytes, hinspect]
        simp only [ofProtocol, Except.mapError, Fault.lift_ok, Except.ok_bind, hreject,
          Except.error_bind]

/-- When the reference accepts the message of a request, it yields the response to the request. -/
theorem response_of_execute {request : GemmRequest} (h : request.WellSized)
    {reserved : BitVec 32} {limits : GemmLimits} {response : List Byte}
    (hexecute : executeGemmBytes F (requestBytes request reserved) limits = .ok response) :
    response = request.response F ∧
      ∃ length, encodedResponseLen request.m request.n = .ok length := by
  obtain ⟨error, _, hreject⟩ | ⟨other, reserved', length, hother, hinput, _, _, hresponse,
    hlength⟩ := execute_or_reject F (requestBytes request reserved) limits
  · rw [hreject] at hexecute
    cases hexecute
  · have hdecode := decodeRequest_requestBytes h reserved
    rw [hinput, decodeRequest_requestBytes hother] at hdecode
    obtain rfl : other = request :=
      congrArg DecodedGemmRequest.request (Except.ok.inj hdecode)
    rw [hresponse] at hexecute
    refine ⟨(Except.ok.inj hexecute).symm, length, encodedResponseLen_eq_ok_iff.2 ?_⟩
    rw [← hlength, other.length_response F]

end Execution

end RiftGPU.Gemm
