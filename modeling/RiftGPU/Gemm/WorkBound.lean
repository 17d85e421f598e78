import RiftGPU.Gemm.ReferenceResponse
import RiftGPU.Trace.Traced

/-!
# The work of the reference GEMM

The limits are checked on the header of a message, before anything is decoded. Here the reference
is instrumented: it records one event for every multiply-add, the index of the entry that the
product is added to. What it returns is unchanged, it never panics, and when it returns a response,
the buffers and the number of multiply-adds are within the limits.

## Main definitions

* `Gemm.gemmKernelTraced`, `Gemm.executeGemmBytesTraced`: the reference with its multiply-adds.

## Main results

* `Gemm.result_executeGemmBytesTraced`: the instrumentation changes nothing.
* `Gemm.length_log_gemmKernelTraced`: the multiply-adds of a run of the kernel.
* `Gemm.length_log_executeGemmBytesTraced_le`: those of a request within the limits.
* `Gemm.executeGemmBytes_noPanic`.
-/

namespace RiftGPU.Gemm

open Bytes FloatCodec

variable {F : Type} [Add F] [Mul F] [FloatCodec F]

/-! ### The instrumented reference -/

/-- `columnStep`, whose statement is one multiply-add. -/
def columnStepTraced (scaledA : F) (b : List F32) (bRow outputRow : ℕ) (output : List F)
    (column : ℕ) : Traced ℕ (Fault ReferenceGemmError) (List F) := do
  let output ← columnStep scaledA b bRow outputRow output column
  Traced.record (outputRow + column)
  return output

/-- `depthStep`, with its multiply-adds. -/
def depthStepTraced (alpha : F) (a b : List F32) (n aRow outputRow : ℕ) (output : List F)
    (depth : ℕ) : Traced ℕ (Fault ReferenceGemmError) (List F) := do
  let aIndex ← usizeAdd aRow depth
  let aValue ← (Fault.index a aIndex : Except (Fault ReferenceGemmError) F32)
  let scaledA := alpha * ofBits aValue
  let bRow ← usizeMul depth n
  (List.range n).foldlM (columnStepTraced scaledA b bRow outputRow) output

/-- `rowStep`, with its multiply-adds. -/
def rowStepTraced (alpha : F) (a b : List F32) (n k : ℕ) (output : List F) (row : ℕ) :
    Traced ℕ (Fault ReferenceGemmError) (List F) := do
  let aRow ← usizeMul row k
  let outputRow ← usizeMul row n
  (List.range k).foldlM (depthStepTraced alpha a b n aRow outputRow) output

variable [Zero F] [BEq F]

/-- `gemmKernel`, with its multiply-adds. -/
def gemmKernelTraced (alpha beta : F) (m n k outputElements : ℕ) (a b : List F32)
    (c : Option (List F32)) : Traced ℕ (Fault ReferenceGemmError) (List F) :=
  let output := scaledC beta c outputElements
  if alpha != 0 ∧ m ≠ 0 ∧ n ≠ 0 ∧ k ≠ 0 then
    (List.range m).foldlM (rowStepTraced alpha a b n k) output
  else pure output

variable (F) in
/-- `executeGemmBytes`, with its multiply-adds. -/
def executeGemmBytesTraced (input : List Byte) (limits : GemmLimits) :
    Traced ℕ (Fault ReferenceGemmError) (List Byte) := do
  let header ← ofProtocol (inspectRequest input)
  validateLimits header limits
  let request ← ofProtocol (decodeRequest input)
  let m := request.requestMeta.m
  let n := request.requestMeta.n
  let k := request.requestMeta.k
  let output ← gemmKernelTraced (ofBits request.requestMeta.alpha : F)
    (ofBits request.requestMeta.beta) m.toNat n.toNat k.toNat request.requestMeta.cElements.toNat
    request.a request.b request.c
  ofProtocol (encodeResponse m n (output.map toBits))

/-! ### The instrumentation changes nothing -/

omit [Zero F] [BEq F]

@[simp] theorem result_columnStepTraced (scaledA : F) (b : List F32) (bRow outputRow : ℕ)
    (output : List F) (column : ℕ) :
    (columnStepTraced scaledA b bRow outputRow output column).result =
      columnStep scaledA b bRow outputRow output column := by
  rw [columnStepTraced, Traced.result_bind, Traced.result_liftM]
  exact bind_pure _

@[simp] theorem result_depthStepTraced (alpha : F) (a b : List F32) (n aRow outputRow : ℕ)
    (output : List F) (depth : ℕ) :
    (depthStepTraced alpha a b n aRow outputRow output depth).result =
      depthStep alpha a b n aRow outputRow output depth := by
  simp only [depthStepTraced, depthStep, Traced.result_bind, Traced.result_liftM,
    Traced.result_foldlM, result_columnStepTraced]

@[simp] theorem result_rowStepTraced (alpha : F) (a b : List F32) (n k : ℕ) (output : List F)
    (row : ℕ) :
    (rowStepTraced alpha a b n k output row).result = rowStep alpha a b n k output row := by
  simp only [rowStepTraced, rowStep, Traced.result_bind, Traced.result_liftM,
    Traced.result_foldlM, result_depthStepTraced]

variable [Zero F] [BEq F]

@[simp] theorem result_gemmKernelTraced (alpha beta : F) (m n k outputElements : ℕ)
    (a b : List F32) (c : Option (List F32)) :
    (gemmKernelTraced alpha beta m n k outputElements a b c).result =
      gemmKernel alpha beta m n k outputElements a b c := by
  unfold gemmKernelTraced gemmKernel
  dsimp only
  split
  · simp only [Traced.result_foldlM, result_rowStepTraced]
  · rfl

variable (F) in
/-- The instrumented reference returns what the reference returns. -/
theorem result_executeGemmBytesTraced (input : List Byte) (limits : GemmLimits) :
    (executeGemmBytesTraced F input limits).result = executeGemmBytes F input limits := by
  simp only [executeGemmBytesTraced, executeGemmBytes, Traced.result_bind, Traced.result_liftM,
    result_gemmKernelTraced]

/-! ### The number of multiply-adds -/

omit [Zero F] [BEq F]

theorem length_log_columnStepTraced {scaledA : F} {b : List F32} {bRow outputRow : ℕ}
    {output output' : List F} {column : ℕ}
    (h : (columnStepTraced scaledA b bRow outputRow output column).result = .ok output') :
    (columnStepTraced scaledA b bRow outputRow output column).log.length = 1 := by
  rw [result_columnStepTraced] at h
  rw [columnStepTraced, h, Traced.liftM_ok_bind]
  rfl

theorem length_log_depthStepTraced {alpha : F} {a b : List F32} {n aRow outputRow : ℕ}
    {output output' : List F} {depth : ℕ}
    (h : (depthStepTraced alpha a b n aRow outputRow output depth).result = .ok output') :
    (depthStepTraced alpha a b n aRow outputRow output depth).log.length = n := by
  rw [depthStepTraced] at h ⊢
  simp only [Traced.result_bind, Traced.result_liftM, Except.bind_eq_ok_iff] at h
  obtain ⟨aIndex, haIndex, aValue, haValue, bRow, hbRow, hloop⟩ := h
  rw [haIndex, Traced.liftM_ok_bind, haValue, Traced.liftM_ok_bind, hbRow,
    Traced.liftM_ok_bind,
    Traced.length_log_foldlM (fun _ _ _ => length_log_columnStepTraced) hloop, List.length_range,
    Nat.mul_one]

theorem length_log_rowStepTraced {alpha : F} {a b : List F32} {n k : ℕ}
    {output output' : List F} {row : ℕ}
    (h : (rowStepTraced alpha a b n k output row).result = .ok output') :
    (rowStepTraced alpha a b n k output row).log.length = k * n := by
  rw [rowStepTraced] at h ⊢
  simp only [Traced.result_bind, Traced.result_liftM, Except.bind_eq_ok_iff] at h
  obtain ⟨aRow, haRow, outputRow, houtputRow, hloop⟩ := h
  rw [haRow, Traced.liftM_ok_bind, houtputRow, Traced.liftM_ok_bind,
    Traced.length_log_foldlM (fun _ _ _ => length_log_depthStepTraced) hloop, List.length_range]

variable [Zero F] [BEq F]

/-- A run of the kernel makes one multiply-add for each row, column and depth, or none at all. -/
theorem length_log_gemmKernelTraced {alpha beta : F} {m n k outputElements : ℕ}
    {a b : List F32} {c : Option (List F32)} {output : List F}
    (h : gemmKernel alpha beta m n k outputElements a b c = .ok output) :
    (gemmKernelTraced alpha beta m n k outputElements a b c).log.length =
      if alpha != 0 then m * (k * n) else 0 := by
  rw [← result_gemmKernelTraced] at h
  unfold gemmKernelTraced at h ⊢
  dsimp only at h ⊢
  by_cases halpha : (alpha != 0) = true
  · rw [if_pos halpha]
    split_ifs at h ⊢ with hrun
    · rw [Traced.length_log_foldlM (fun _ _ _ => length_log_rowStepTraced) h, List.length_range]
    · -- Without a run some dimension is zero.
      rw [Traced.log_pure, List.length_nil, eq_comm, Nat.mul_eq_zero, Nat.mul_eq_zero]
      by_contra hdims
      simp only [not_or] at hdims
      exact hrun ⟨halpha, hdims.1, hdims.2.2, hdims.2.1⟩
  · rw [if_neg halpha, if_neg fun hrun => halpha hrun.1]
    rfl

/-! ### Requests within the limits -/

/-- The count of operations that the limits are checked against fits 128 bits. -/
theorem IsRequestHeader.operations_lt {input : List Byte} {header : GemmRequestMeta}
    (h : IsRequestHeader input header) :
    header.m.toNat * header.n.toNat * header.k.toNat < 2 ^ 128 := by
  have hlt := header.cElements.isLt
  rw [h.cElements] at hlt
  calc _ < 2 ^ 64 * 2 ^ 64 := Nat.mul_lt_mul'' hlt header.k.isLt
    _ = 2 ^ 128 := by norm_num

variable (F)

/-- The multiply-adds for a request are those of the kernel. -/
theorem log_executeGemmBytesTraced {input : List Byte} {limits : GemmLimits}
    {header : GemmRequestMeta} {decoded : DecodedGemmRequest}
    (hinspect : inspectRequest input = .ok header) (hlimits : validateLimits header limits = .ok ())
    (hdecode : decodeRequest input = .ok decoded) :
    (executeGemmBytesTraced F input limits).log =
      (gemmKernelTraced (ofBits decoded.requestMeta.alpha : F) (ofBits decoded.requestMeta.beta)
        decoded.requestMeta.m.toNat decoded.requestMeta.n.toNat decoded.requestMeta.k.toNat
        decoded.requestMeta.cElements.toNat decoded.a decoded.b decoded.c).log := by
  rw [executeGemmBytesTraced, hinspect]
  simp only [ofProtocol, Except.mapError, Fault.lift_ok, Traced.liftM_ok_bind, hlimits, hdecode]
  exact Traced.log_bind_liftM _ _

/-- The loops of the kernel finish on the matrices of a request. -/
theorem GemmRequest.WellSized.gemmKernel_eq_ok {request : GemmRequest}
    (hsized : request.WellSized) :
    gemmKernel (ofBits request.alpha : F) (ofBits request.beta) request.m.toNat request.n.toNat
      request.k.toNat request.header.cElements.toNat request.a request.b request.c =
        .ok (request.values F) := by
  obtain ⟨-, -, hc, -⟩ := hsized.toNat_elements
  rw [hc]
  exact Gemm.gemmKernel_eq_ok hsized.kernelShapes _ _ hsized.c_length

/-- A request within the limits takes no more multiply-adds than they allow. -/
theorem length_log_executeGemmBytesTraced_le {request : GemmRequest} {limits : GemmLimits}
    (hsized : request.WellSized) (reserved : BitVec 32)
    (hwithin : request.header.Within limits) :
    (executeGemmBytesTraced F (requestBytes request reserved) limits).log.length ≤
      limits.maxMultiplyAdds.toNat := by
  have hheader := hsized.isRequestHeader reserved
  have hlimits := (validateLimits_eq_ok_iff (u := ()) hheader.cElements).2 hwithin
  rw [log_executeGemmBytesTraced F (inspectRequest_eq_ok_iff.2 hheader) hlimits
    (decodeRequest_requestBytes hsized reserved)]
  have hoperations := hwithin.operations_le
  calc _ = _ := length_log_gemmKernelTraced (hsized.gemmKernel_eq_ok F)
    _ ≤ request.m.toNat * (request.k.toNat * request.n.toNat) := by
      split_ifs
      · exact le_rfl
      · exact Nat.zero_le _
    _ = request.m.toNat * request.n.toNat * request.k.toNat := by ring
    _ ≤ limits.maxMultiplyAdds.toNat := hoperations

theorem executeGemmBytes_noPanic (input : List Byte) (limits : GemmLimits) :
    Fault.NoPanic (executeGemmBytes F input limits) := by
  obtain ⟨error, -, hreject⟩ | ⟨_, _, _, -, -, -, -, hresponse, -⟩ :=
    execute_or_reject F input limits
  · rw [hreject]
    exact Fault.noPanic_lift (.error error)
  · rw [hresponse]
    exact Fault.noPanic_ok _

/-- **The reference is safe and its work is bounded.** For every message the reference neither
overflows in its index arithmetic nor reads or writes out of range, and the count of operations
fits 128 bits. When it returns a response, the matrices A and B and the output have no more
elements than the limit, and no more multiply-adds than the limit were made. -/
theorem execute_safe_and_bounded (input : List Byte) (limits : GemmLimits) :
    (executeGemmBytesTraced F input limits).result = executeGemmBytes F input limits ∧
    (∀ message, executeGemmBytes F input limits ≠ .error (.panic message)) ∧
    (∀ header, inspectRequest input = .ok header →
      header.m.toNat * header.n.toNat * header.k.toNat < 2 ^ 128) ∧
    ∀ response, executeGemmBytes F input limits = .ok response →
      ∃ (decoded : DecodedGemmRequest) (output : List F), decodeRequest input = .ok decoded ∧
        gemmKernel (ofBits decoded.requestMeta.alpha) (ofBits decoded.requestMeta.beta)
          decoded.requestMeta.m.toNat decoded.requestMeta.n.toNat decoded.requestMeta.k.toNat
          decoded.requestMeta.cElements.toNat decoded.a decoded.b decoded.c = .ok output ∧
        encodeResponse decoded.requestMeta.m decoded.requestMeta.n (output.map toBits) =
          .ok response ∧
        decoded.a.length ≤ limits.maxMatrixElements.toNat ∧
        decoded.b.length ≤ limits.maxMatrixElements.toNat ∧
        output.length ≤ limits.maxMatrixElements.toNat ∧
        (executeGemmBytesTraced F input limits).log.length ≤ limits.maxMultiplyAdds.toNat := by
  refine ⟨result_executeGemmBytesTraced F input limits, executeGemmBytes_noPanic F input limits,
    fun header h => (inspectRequest_eq_ok_iff.1 h).operations_lt, fun response h => ?_⟩
  obtain ⟨error, -, hreject⟩ | ⟨request, reserved, length, hsized, rfl, hwithin, -, -, -⟩ :=
    execute_or_reject F input limits
  · rw [hreject] at h
    cases h
  obtain ⟨ha, hb, hc, -⟩ := hsized.toNat_elements
  obtain ⟨rfl, length, hlength⟩ := response_of_execute F hsized h
  have hvalues : (request.values F).length = request.m.toNat * request.n.toNat := by
    rw [GemmRequest.values, RowMajor.length_table]
  refine ⟨request.decoded, request.values F, decodeRequest_requestBytes hsized reserved,
    hsized.gemmKernel_eq_ok F, ?_, ?_, ?_, ?_,
    length_log_executeGemmBytesTraced_le F hsized reserved hwithin⟩
  · rw [encodeResponse_eq_map (by rw [List.length_map]; exact hvalues)]
    exact congrArg (Except.map _) hlength
  · exact ha.symm.trans_le hwithin.a_le
  · exact hb.symm.trans_le hwithin.b_le
  · rw [hvalues, ← hc]
    exact hwithin.c_le

end RiftGPU.Gemm
