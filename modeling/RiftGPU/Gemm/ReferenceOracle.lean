import RiftGPU.Gemm.ReferenceResponse

/-!
# The reference GEMM as an oracle

The response of the reference decodes to the matrix that its request asks for, and the size query
answers for exactly the messages that are executed, with the length of the response. The first
fact is about exact arithmetic; the second holds for every arithmetic.

## Main definitions

* `Gemm.DecodedGemmRequest.productEntry`: an entry of `alpha * A * B + beta * C`.

## Main results

* `Gemm.execute_eq_product`: the response of the reference in exact arithmetic.
* `Gemm.requiredOutputLen_agrees`: the size query and the execution.
-/

namespace RiftGPU.Gemm

open Bytes RowMajor FloatCodec Finset

/-! ### Decoding the response -/

section Decoding

variable (F : Type) [Add F] [Mul F] [Zero F] [BEq F] [FloatCodec F]

theorem GemmRequest.length_values (request : GemmRequest) :
    ((request.values F).map toBits).length = request.m.toNat * request.n.toNat := by
  rw [List.length_map, GemmRequest.values, length_table]

/-- A response whose length fits 64 bits decodes to the values of its request. -/
theorem GemmRequest.decodeResponse_response (request : GemmRequest) {length : BitVec 64}
    (hlength : (request.response F).length = length.toNat) :
    decodeResponse (request.response F) =
      .ok { m := request.m, n := request.n, values := (request.values F).map toBits } := by
  have hencoded : encodedResponseLen request.m request.n = .ok length :=
    encodedResponseLen_eq_ok_iff.2 (by rw [← hlength, request.length_response F])
  exact decodeResponse_responseBytes (request.length_values F) hencoded

end Decoding

/-! ### The product -/

section Exact

variable (R : Type) [CommSemiring R] [FloatCodec R]

/-- An entry of `alpha * A * B + beta * C`, where the term of an absent C is zero. -/
def DecodedGemmRequest.productEntry (request : DecodedGemmRequest) (row column : ℕ) : R :=
  ofBits request.requestMeta.alpha * ∑ depth ∈ range request.requestMeta.k.toNat,
      entries R request.a (row * request.requestMeta.k.toNat + depth) *
        entries R request.b (depth * request.requestMeta.n.toNat + column) +
    request.c.elim 0 fun c =>
      ofBits request.requestMeta.beta * entries R c (row * request.requestMeta.n.toNat + column)

/-- The buffers of a decoded request have the sizes of its matrices. -/
structure DecodedGemmRequest.Sized (request : DecodedGemmRequest) : Prop where
  a_length : request.a.length = request.requestMeta.m.toNat * request.requestMeta.k.toNat
  b_length : request.b.length = request.requestMeta.k.toNat * request.requestMeta.n.toNat
  c_length : ∀ c ∈ request.c,
    c.length = request.requestMeta.m.toNat * request.requestMeta.n.toNat

theorem GemmRequest.WellSized.sized {request : GemmRequest} (h : request.WellSized) :
    request.decoded.Sized :=
  ⟨h.a_length, h.b_length, h.c_length⟩

variable [DecidableEq R]

variable {R} in
/-- The start of an entry is its term of C: skipping the term for `beta = 0` leaves zero. -/
theorem initialValue_eq_mul (beta : R) (c : Option (List F32)) (index : ℕ) :
    initialValue beta c index = c.elim 0 fun c => beta * entries R c index := by
  cases c with
  | none => rfl
  | some c =>
    unfold initialValue
    dsimp only
    split_ifs with hbeta
    · rfl
    · have hzero : beta = 0 := by simpa using hbeta
      rw [Option.elim_some, hzero, zero_mul]

/-- The values of a response are the entries of the product. -/
theorem GemmRequest.values_getElem? (request : GemmRequest) {row column : ℕ}
    (hrow : row < request.m.toNat) (hcolumn : column < request.n.toNat) :
    (request.values R)[row * request.n.toNat + column]? =
      some (request.decoded.productEntry R row column) := by
  rw [GemmRequest.values, getElem?_table _ (index_lt hrow hcolumn), index_div hcolumn,
    index_mod hcolumn, gemmValue_eq_sum, initialValue_eq_mul]
  rfl

variable {R} {input output : List Byte} {limits : GemmLimits}

/-- **The oracle computes `alpha * A * B + beta * C`.** In exact arithmetic the response to every
message that is executed decodes to a matrix of the dimensions of the request whose entries are
those of the product. -/
theorem execute_eq_product (h : executeGemmBytes R input limits = .ok output) :
    ∃ request values, decodeRequest input = .ok request ∧ request.Sized ∧
      decodeResponse output =
        .ok { m := request.requestMeta.m, n := request.requestMeta.n, values } ∧
      values.length = request.requestMeta.m.toNat * request.requestMeta.n.toNat ∧
      ∀ row < request.requestMeta.m.toNat, ∀ column < request.requestMeta.n.toNat,
        values[row * request.requestMeta.n.toNat + column]? =
          some (toBits (request.productEntry R row column)) := by
  obtain ⟨error, -, hreject⟩ | ⟨request, reserved, length, hsized, rfl, -, -, hresponse,
    hlength⟩ := execute_or_reject R input limits
  · rw [hreject] at h
    cases h
  · obtain rfl : request.response R = output := Except.ok.inj (hresponse.symm.trans h)
    refine ⟨request.decoded, (request.values R).map toBits,
      decodeRequest_requestBytes hsized reserved, hsized.sized,
      request.decodeResponse_response R hlength, request.length_values R,
      fun row hrow column hcolumn => ?_⟩
    rw [List.getElem?_map]
    exact congrArg (Option.map toBits) (request.values_getElem? R hrow hcolumn)

/-- The message of `integerRequest` in integer arithmetic. -/
theorem execute_eq_product_row :
    ∃ request values, decodeRequest (requestBytes integerRequest 0#32) = .ok request ∧
      request.Sized ∧
      decodeResponse (responseBytes 1#64 2#64 [0x41b00000#32, 0x42380000#32]) =
        .ok { m := request.requestMeta.m, n := request.requestMeta.n, values } ∧
      values.length = request.requestMeta.m.toNat * request.requestMeta.n.toNat ∧
      ∀ row < request.requestMeta.m.toNat, ∀ column < request.requestMeta.n.toNat,
        values[row * request.requestMeta.n.toNat + column]? =
          some (toBits (request.productEntry ℤ row column)) :=
  have h : executeGemmBytes ℤ (requestBytes integerRequest 0#32) GemmLimits.default =
      .ok (responseBytes 1#64 2#64 [0x41b00000#32, 0x42380000#32]) := by
    decide +kernel
  execute_eq_product h

end Exact

/-! ### The size query -/

section Query

variable (F : Type) [Add F] [Mul F] [Zero F] [BEq F] [FloatCodec F]

/-- **The size query agrees with the execution.** The query answers when and only when the message
is executed, with the length of a response that decodes to the dimensions of the request, and
otherwise both fail with the same error. Neither panics. -/
theorem requiredOutputLen_agrees (input : List Byte) (limits : GemmLimits) :
    ((∃ length, requiredOutputLen input limits = .ok length) ↔
      ∃ output, executeGemmBytes F input limits = .ok output) ∧
    (∀ length output, requiredOutputLen input limits = .ok length →
      executeGemmBytes F input limits = .ok output →
        output.length = length.toNat ∧ ∃ header values, inspectRequest input = .ok header ∧
          decodeResponse output = .ok { m := header.m, n := header.n, values }) ∧
    (∀ fault, requiredOutputLen input limits = .error fault ↔
      executeGemmBytes F input limits = .error fault) ∧
    ∀ message, executeGemmBytes F input limits ≠ .error (.panic message) := by
  obtain ⟨error, hrequired, hexecute⟩ | ⟨request, reserved, length, hsized, rfl, -, hrequired,
    hexecute, hlength⟩ := execute_or_reject F input limits
  · rw [hrequired, hexecute]
    refine ⟨⟨?_, ?_⟩, ?_, fun fault => ⟨?_, ?_⟩, fun message h => ?_⟩
    · rintro ⟨length, h⟩
      cases h
    · rintro ⟨output, h⟩
      cases h
    · rintro length output h -
      cases h
    · rintro ⟨rfl⟩
      rfl
    · rintro ⟨rfl⟩
      rfl
    · cases h
  · rw [hrequired, hexecute]
    refine ⟨⟨fun _ => ⟨_, rfl⟩, fun _ => ⟨_, rfl⟩⟩, ?_, fun fault => ⟨?_, ?_⟩, fun message h => ?_⟩
    · rintro _ _ hlen hout
      obtain rfl := Except.ok.inj hlen
      obtain rfl := Except.ok.inj hout
      exact ⟨hlength, request.header, _,
        inspectRequest_eq_ok_iff.2 (hsized.isRequestHeader reserved),
        request.decodeResponse_response F hlength⟩
    · intro h
      cases h
    · intro h
      cases h
    · cases h

theorem requiredOutputLen_agrees_row :
    ∃ output, executeGemmBytes ℤ (requestBytes rowRequest 0#32) GemmLimits.default = .ok output ∧
      output.length = 40 := by
  have hrequired : requiredOutputLen (requestBytes rowRequest 0#32) GemmLimits.default =
      .ok 40#64 := by
    decide +kernel
  obtain ⟨hiff, hlength, -⟩ :=
    requiredOutputLen_agrees ℤ (requestBytes rowRequest 0#32) GemmLimits.default
  obtain ⟨output, houtput⟩ := hiff.1 ⟨40#64, hrequired⟩
  exact ⟨output, houtput, (hlength _ _ hrequired houtput).1⟩

end Query

end RiftGPU.Gemm
