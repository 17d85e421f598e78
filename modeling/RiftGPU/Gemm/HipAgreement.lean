import RiftGPU.Gemm.HipExecution
import RiftGPU.Gemm.ReferenceResponse

/-!
# The HIP plugin agrees with the reference GEMM

`rocblas_sgemm` reads its matrices by columns, the matrices of a request lie in memory by rows.
The plugin asks for the product with the operands and the sizes swapped. What it gets is the
transposed product, by columns, which is the product by rows: the output of the reference.

Arithmetic is exact here, that is, numbers are in a commutative semiring. Of rocBLAS the results
assume its documentation, and of HIP that a mapped buffer has the size that was asked for.

## Main definitions

* `HipPlugin.SgemmCall.Valid`, `HipPlugin.SgemmCall.result`: the calls that rocBLAS documents and
  the matrix that they compute.
* `HipPlugin.ImplementsSgemm`, `HipPlugin.MapsRegions`: what is assumed of rocBLAS and of HIP.
* `HipPlugin.Launch.request`: the request of the reference for the buffers of a launch.

## Main results

* `HipPlugin.result_gemmCall`: the call of the plugin computes the transposed output.
* `HipPlugin.executeWindows_agrees_with_reference`: the executions of the plugin.
-/

namespace RiftGPU.HipPlugin

open Bytes PluginAbi SharedOperators Gemm RowMajor FloatCodec Matrix

/-! ### What rocBLAS computes -/

namespace SgemmCall

/-- The indices of the entries of the first operand. -/
def aIndices (call : SgemmCall) : Set ℕ :=
  columnMajorIndices call.lda.toNat call.m.toNat call.k.toNat

/-- The indices of the entries of the second operand. -/
def bIndices (call : SgemmCall) : Set ℕ :=
  columnMajorIndices call.ldb.toNat call.k.toNat call.n.toNat

/-- The indices of the entries of the output. -/
def cIndices (call : SgemmCall) : Set ℕ :=
  columnMajorIndices call.ldc.toNat call.m.toNat call.n.toNat

/-- A signed word that is at least a number. -/
def SignedGe (word : BitVec 32) (lower : ℕ) : Prop := lower ≤ word.toNat ∧ word.toNat < 2 ^ 31

/-- A call of the documented form: nothing is transposed, the sizes are not negative, a leading
dimension is at least the number of rows, and the entries lie in their buffers. -/
structure Valid (call : SgemmCall) (memory : DeviceMemory) : Prop where
  transA : call.transA = rocblasOperationNone
  transB : call.transB = rocblasOperationNone
  m : SignedGe call.m 0
  n : SignedGe call.n 0
  k : SignedGe call.k 0
  lda : SignedGe call.lda (max 1 call.m.toNat)
  ldb : SignedGe call.ldb (max 1 call.k.toNat)
  ldc : SignedGe call.ldc (max 1 call.m.toNat)
  a_lt : ∀ p ∈ call.aIndices, p < (memory call.a).length
  b_lt : ∀ p ∈ call.bIndices, p < (memory call.b).length
  c_lt : ∀ p ∈ call.cIndices, p < (memory call.c).length

variable (F : Type) [CommSemiring F] [DecidableEq F] [FloatCodec F]

/-- The matrix `alpha * A * B + beta * C` of matrices stored by columns, without C for
`beta = 0`. -/
def result (call : SgemmCall) (memory : DeviceMemory) :
    Matrix (Fin call.m.toNat) (Fin call.n.toNat) F :=
  (ofBits call.alpha : F) •
      (columnMajor call.lda.toNat call.m.toNat call.k.toNat (entries F (memory call.a)) *
        columnMajor call.ldb.toNat call.k.toNat call.n.toNat (entries F (memory call.b))) +
    if (ofBits call.beta : F) = 0 then 0
    else (ofBits call.beta : F) •
      columnMajor call.ldc.toNat call.m.toNat call.n.toNat (entries F (memory call.c))

end SgemmCall

/-- What the documentation of `rocblas_sgemm` promises, in exact arithmetic: after a call that
succeeds, the output has the entries of the result, computed from the memory before the call. -/
structure ImplementsSgemm (F : Type) [CommSemiring F] [DecidableEq F] [FloatCodec F]
    (rocblas : RocblasApi) : Prop where
  length_eq : ∀ handle call memory, call.Valid memory →
    (rocblas.sgemm handle call memory).1 = rocblasStatusSuccess →
    ((rocblas.sgemm handle call memory).2 call.c).length = (memory call.c).length
  getElem?_eq : ∀ handle call memory, call.Valid memory →
    (rocblas.sgemm handle call memory).1 = rocblasStatusSuccess →
    ∀ i j, ((rocblas.sgemm handle call memory).2 call.c)[i.val + j.val * call.ldc.toNat]? =
      some (toBits (call.result F memory i j))

/-- What the documentation of HIP promises: a mapped buffer has the size that was asked for. -/
def MapsRegions (hip : HipApi) (memory : DeviceMemory) : Prop :=
  ∀ region pointer, importRegion hip region = .ok pointer →
    (memory pointer).length = region.length.toNat / 4

/-! ### The call of the plugin -/

/-- The request of the reference for the buffers of a launch. -/
def Launch.request (launch : Launch) (memory : DeviceMemory) : GemmRequest where
  m := launch.prepared.control.m
  n := launch.prepared.control.n
  k := launch.prepared.control.k
  alpha := launch.prepared.control.alpha
  beta := launch.prepared.control.beta
  a := memory launch.a
  b := memory launch.b
  c := some (memory launch.c)

section Agreement

variable (F : Type) [CommSemiring F] [DecidableEq F] [FloatCodec F]

/-- The product of the operands in the other order, all read by columns, is the transposed
output. -/
theorem columnMajor_gemm (alpha beta : F) (m n k : ℕ) (a b c : List F32) :
    alpha • (columnMajor n n k (entries F b) * columnMajor k k m (entries F a)) +
        (if beta = 0 then 0 else beta • columnMajor n n m (entries F c)) =
      (gemmMatrix alpha beta m n k a b c).transpose := by
  rw [gemmMatrix, transpose_add, transpose_smul, columnMajor_mul_columnMajor,
    columnMajor_eq_transpose, apply_ite transpose, transpose_zero, transpose_smul]

/-- The call of the plugin computes the transposed output, whatever the shapes are. -/
theorem result_gemmCall (prepared : PreparedGemm) (a b c : DevicePtr) (memory : DeviceMemory) :
    (gemmCall prepared a b c).result F memory =
      (gemmMatrix (ofBits prepared.control.alpha : F) (ofBits prepared.control.beta)
        prepared.m.toNat prepared.n.toNat prepared.k.toNat (memory a) (memory b)
        (memory c)).transpose :=
  columnMajor_gemm F _ _ _ _ _ _ _ _

end Agreement

section Bounds

variable {request : VrbSharedOperatorExecutionRequestV1} {launch : Launch}

/-- An entry of a matrix without gaps lies inside a buffer of its size. -/
theorem inside_of_mem {rows columns size p : ℕ} (hsize : size = 4 * (rows * columns))
    (hp : p ∈ columnMajorIndices columns columns rows) : 4 * (p + 1) ≤ size := by
  have hlt := lt_of_mem_columnMajorIndices hp
  omega

/-- Every entry that the call reads or writes lies in the region of its resource. -/
theorem entries_inside (h : IsPrepared request launch.prepared) :
    (∀ p ∈ launch.call.aIndices, 4 * (p + 1) ≤ launch.prepared.b.length.toNat) ∧
    (∀ p ∈ launch.call.bIndices, 4 * (p + 1) ≤ launch.prepared.a.length.toNat) ∧
    (∀ p ∈ launch.call.cIndices, 4 * (p + 1) ≤ launch.prepared.c.length.toNat) := by
  refine ⟨fun p hp => inside_of_mem ?_ hp, fun p hp => inside_of_mem ?_ hp,
    fun p hp => inside_of_mem ?_ hp⟩
  · rw [h.b.length, ← h.k.2, ← h.n.2]
    rfl
  · rw [h.a.length, ← h.m.2, ← h.k.2]
    rfl
  · rw [h.c.length, ← h.m.2, ← h.n.2]
    rfl

/-- The buffers of a launch have the sizes of their matrices. -/
structure BuffersSized (launch : Launch) (memory : DeviceMemory) : Prop where
  a : (memory launch.a).length = launch.prepared.m.toNat * launch.prepared.k.toNat
  b : (memory launch.b).length = launch.prepared.k.toNat * launch.prepared.n.toNat
  c : (memory launch.c).length = launch.prepared.m.toNat * launch.prepared.n.toNat

theorem Ready.buffersSized {runtime : Except (BitVec 32) RuntimeApis} {state : HipState}
    (h : Ready runtime state request launch) (hmaps : MapsRegions launch.apis.hip state.memory) :
    BuffersSized launch state.memory := by
  have hprepared := prepare_eq_ok_iff.1 h.prepared
  constructor
  · rw [hmaps _ _ h.a, hprepared.a.length, hprepared.m.2, hprepared.k.2]
    omega
  · rw [hmaps _ _ h.b, hprepared.b.length, hprepared.k.2, hprepared.n.2]
    omega
  · rw [hmaps _ _ h.c, hprepared.c.length, hprepared.m.2, hprepared.n.2]
    omega

/-- The call of a launch is one that rocBLAS documents. -/
theorem valid_call {memory : DeviceMemory} (h : IsPrepared request launch.prepared)
    (hsized : BuffersSized launch memory) : launch.call.Valid memory := by
  obtain ⟨_, _, hcontrol⟩ := h.control
  have hvalid := valid_of_decodeControl hcontrol
  have hword {value : BitVec 64} {word : BitVec 32} (hne : value ≠ 0#64)
      (hfits : value.toNat < 2 ^ 31 ∧ word.toNat = value.toNat) :
      SgemmCall.SignedGe word (max 1 word.toNat) := by
    have hpos : value.toNat ≠ 0 := fun hzero => hne (BitVec.eq_of_toNat_eq hzero)
    exact ⟨by omega, by omega⟩
  have hm := hword hvalid.m_ne_zero h.m
  have hn := hword hvalid.n_ne_zero h.n
  have hk := hword hvalid.k_ne_zero h.k
  exact {
    transA := rfl
    transB := rfl
    m := ⟨Nat.zero_le _, hn.2⟩
    n := ⟨Nat.zero_le _, hm.2⟩
    k := ⟨Nat.zero_le _, hk.2⟩
    lda := hn
    ldb := hk
    ldc := hn
    a_lt := fun p hp => hsized.b ▸ lt_of_mem_columnMajorIndices hp
    b_lt := fun p hp => hsized.a ▸ lt_of_mem_columnMajorIndices hp
    c_lt := fun p hp => hsized.c ▸ lt_of_mem_columnMajorIndices hp }

end Bounds

/-! ### The agreement -/

section Agreement

variable (F : Type) [CommSemiring F] [DecidableEq F] [FloatCodec F]

/-- After the call, the output buffer holds the values of the reference. -/
theorem multiply_eq_values {request : VrbSharedOperatorExecutionRequestV1} {launch : Launch}
    {memory : DeviceMemory} (hsgemm : ImplementsSgemm F launch.apis.rocblas)
    (h : IsPrepared request launch.prepared) (hsized : BuffersSized launch memory)
    (hsuccess : (launch.multiply memory).1 = rocblasStatusSuccess) :
    (launch.multiply memory).2 launch.c = ((launch.request memory).values F).map toBits := by
  have hvalid := valid_call h hsized
  have hlength : ((launch.multiply memory).2 launch.c).length =
      launch.prepared.m.toNat * launch.prepared.n.toNat :=
    (hsgemm.length_eq _ _ _ hvalid hsuccess).trans hsized.c
  have hvalues : (launch.request memory).values F =
      table (launch.prepared.m.toNat * launch.prepared.n.toNat) fun p =>
        gemmValue (ofBits launch.prepared.control.alpha) (ofBits launch.prepared.control.beta)
          launch.prepared.n.toNat launch.prepared.k.toNat (memory launch.a) (memory launch.b)
          (some (memory launch.c)) (p / launch.prepared.n.toNat)
          (p % launch.prepared.n.toNat) := by
    rw [h.m.2, h.n.2, h.k.2]
    rfl
  rw [hvalues, map_table]
  refine List.ext_getElem? fun p => ?_
  by_cases hp : p < launch.prepared.m.toNat * launch.prepared.n.toNat
  · obtain ⟨row, hrow, column, hcolumn, rfl⟩ := exists_index hp
    have hentry := hsgemm.getElem?_eq _ _ _ hvalid hsuccess ⟨column, hcolumn⟩ ⟨row, hrow⟩
    rw [getElem?_table _ hp, Function.comp_apply, index_div hcolumn, index_mod hcolumn,
      gemmValue_eq_gemmMatrix _ _ _ _ _ ⟨row, hrow⟩ ⟨column, hcolumn⟩, Nat.add_comm]
    have hresult := result_gemmCall F launch.prepared launch.a launch.b launch.c memory
    exact hentry.trans
      (congrArg (fun result => some (toBits (result ⟨column, hcolumn⟩ ⟨row, hrow⟩))) hresult)
  · rw [List.getElem?_eq_none (by omega), List.getElem?_eq_none (by rw [length_table]; omega)]

/-- **The plugin agrees with the reference.** The plugin multiplies exactly when the checks pass and
HIP is ready, and otherwise leaves the device as it was. When it multiplies, it calls rocBLAS once;
every entry that the call reads or writes lies in the region of its resource; and when the call
succeeds, the buffer of C holds what the reference returns for the encoded request. -/
theorem executeWindows_agrees_with_reference {apis : RuntimeApis} {state : HipState}
    (hsgemm : ImplementsSgemm F apis.rocblas) (hmaps : MapsRegions apis.hip state.memory)
    (request : VrbSharedOperatorExecutionRequestV1) :
    ((∀ launch, ¬Ready (.ok apis) state request launch) →
      ((executeWindows (.ok apis) request).run state).2.calls = state.calls ∧
      ((executeWindows (.ok apis) request).run state).2.memory = state.memory) ∧
    ∀ launch, Ready (.ok apis) state request launch →
      ((executeWindows (.ok apis) request).run state).2.calls =
        state.calls ++ [gemmCall launch.prepared launch.a launch.b launch.c] ∧
      (∀ p ∈ launch.call.aIndices, 4 * (p + 1) ≤ launch.prepared.b.length.toNat) ∧
      (∀ p ∈ launch.call.bIndices, 4 * (p + 1) ≤ launch.prepared.a.length.toNat) ∧
      (∀ p ∈ launch.call.cIndices, 4 * (p + 1) ≤ launch.prepared.c.length.toNat) ∧
      ((launch.multiply state.memory).1 = rocblasStatusSuccess →
        ∀ limits input response, encodeRequest (launch.request state.memory) = .ok input →
          executeGemmBytes F input limits = .ok response →
          decodeResponse response = .ok {
            m := launch.prepared.control.m
            n := launch.prepared.control.n
            values := ((executeWindows (.ok apis) request).run state).2.memory launch.c }) := by
  refine ⟨fun hready => ?_, fun launch hready => ?_⟩
  · obtain ⟨status, handles, hrun⟩ := executeWindows_of_not_ready hready
    rw [hrun]
    exact ⟨rfl, rfl⟩
  · obtain ⟨handles, hrun⟩ := executeWindows_of_ready hready
    obtain rfl := Except.ok.inj hready.apis
    have hprepared := prepare_eq_ok_iff.1 hready.prepared
    have hsized := hready.buffersSized hmaps
    obtain ⟨ha, hb, hc⟩ := entries_inside hprepared
    refine ⟨by rw [hrun]; rfl, ha, hb, hc, fun hsuccess limits input response hencode
      hexecute => ?_⟩
    obtain ⟨hwell, rfl⟩ := encodeRequest_eq_ok_iff.1 hencode
    obtain ⟨rfl, length, hlength⟩ := response_of_execute F hwell hexecute
    have hdimensions : ((launch.request state.memory).values F).length =
        launch.prepared.control.m.toNat * launch.prepared.control.n.toNat := length_table _ _
    rw [GemmRequest.response, hrun]
    dsimp only
    rw [multiply_eq_values F hsgemm hprepared hsized hsuccess]
    exact decodeResponse_responseBytes (by rw [List.length_map, hdimensions]; rfl) hlength

end Agreement

/-! ### An exact device -/

section ExactDevice

/-- A multiplication on integers, as rocBLAS documents it. -/
def exactSgemm (call : SgemmCall) (memory : DeviceMemory) : BitVec 32 × DeviceMemory :=
  (rocblasStatusSuccess, Function.update memory call.c (table (memory call.c).length fun p =>
    if h : p % call.ldc.toNat < call.m.toNat ∧ p / call.ldc.toNat < call.n.toNat then
      toBits (call.result ℤ memory ⟨p % call.ldc.toNat, h.1⟩ ⟨p / call.ldc.toNat, h.2⟩)
    else (memory call.c).getD p 0#32))

/-- A device whose memory is one allocation for each address, and which maps whole allocations. -/
def exactApis (memory : DeviceMemory) : RuntimeApis where
  hip := {
    setDevice := fun _ => hipSuccess
    importExternalMemory := fun descriptor => (hipSuccess, descriptor.handle)
    externalMemoryGetMappedBuffer := fun external mapping =>
      if mapping.offset = 0#64 ∧ mapping.size.toNat = 4 * (memory external).length then
        (hipSuccess, external)
      else (1#32, 0#64)
    deviceSynchronize := hipSuccess }
  rocblas := {
    createHandle := (rocblasStatusSuccess, 1#64)
    sgemm := fun _ => exactSgemm }

theorem implementsSgemm_exactApis (memory : DeviceMemory) :
    ImplementsSgemm ℤ (exactApis memory).rocblas where
  length_eq := fun handle call memory _ _ => by
    simp only [exactApis, exactSgemm, Function.update_self, length_table]
  getElem?_eq := fun handle call memory hvalid _ i j => by
    have hlt := hvalid.c_lt _ ⟨i, i.isLt, j, j.isLt, rfl⟩
    have hi : i.val < call.ldc.toNat :=
      i.isLt.trans_le ((Nat.le_max_right 1 _).trans hvalid.ldc.1)
    have hmod : (i.val + j.val * call.ldc.toNat) % call.ldc.toNat = i := by
      rw [Nat.add_comm, index_mod hi]
    have hdiv : (i.val + j.val * call.ldc.toNat) / call.ldc.toNat = j := by
      rw [Nat.add_comm, index_div hi]
    simp only [exactApis, exactSgemm, Function.update_self]
    rw [getElem?_table _ hlt,
      dif_pos ⟨hmod.trans_lt i.isLt, hdiv.trans_lt j.isLt⟩]
    simp only [hmod, hdiv]

theorem mapsRegions_exactApis (memory : DeviceMemory) :
    MapsRegions (exactApis memory).hip memory := by
  intro region pointer h
  by_cases hmap : region.offset = 0#64 ∧ region.length.toNat = 4 * (memory region.handle).length
  · simp only [importRegion, exactApis, hmap, and_self, if_true, Except.bind_eq_ok_iff,
      Except.pure_eq_ok_iff] at h
    obtain ⟨_, _, _, _, rfl⟩ := h
    omega
  · simp only [importRegion, exactApis, hmap, if_false, Except.bind_eq_ok_iff,
      Except.rejectIf_eq_ok_iff] at h
    obtain ⟨_, _, _, hreject, _⟩ := h
    exact absurd (.inl (by decide)) hreject

/-- A device with the matrices `A = (2)`, `B = (1, 3)` and `C = (10, 20)`. -/
def rowMemory : DeviceMemory := fun pointer =>
  if pointer = 1#64 then [0x40000000#32]
  else if pointer = 2#64 then [0x3f800000#32, 0x40400000#32]
  else if pointer = 3#64 then [0x41200000#32, 0x41a00000#32]
  else []

/-- The control for `A * B + 2 * C`. -/
def rowControl : SharedGemmControl where
  m := 1#64
  n := 2#64
  k := 1#64
  alpha := 0x3f800000#32
  beta := 0x40000000#32
  hipDeviceIndex := 0#32

/-- A region of one page. -/
def rowRegion (handle length : BitVec 64) (access : BitVec 32) : VrbSharedResourceRegionV1 where
  handleKind := MemoryHandleTag.win32Kmt
  access := access
  handle := handle
  allocationSize := 4096#64
  length := length

/-- The execution request for `A * B + 2 * C`. -/
def rowExecution : VrbSharedOperatorExecutionRequestV1 where
  operatorId := hipOperatorId
  metadataPtr := (encodeControl rowControl).toOption
  metadataLen := 64#64
  resourcesPtr := some [rowRegion 1#64 4#64 ResourceAccessTag.readOnly,
    rowRegion 2#64 8#64 ResourceAccessTag.readOnly,
    rowRegion 3#64 8#64 ResourceAccessTag.readWrite]
  resourceCount := 3#32
  receiptLen := some 0#64

/-- The state before the first call. -/
def rowState : HipState where
  handles := []
  memory := rowMemory
  calls := []

/-- The launch that the request comes to. -/
def rowLaunch : Launch where
  apis := exactApis rowMemory
  prepared := {
    control := rowControl
    a := rowRegion 1#64 4#64 ResourceAccessTag.readOnly
    b := rowRegion 2#64 8#64 ResourceAccessTag.readOnly
    c := rowRegion 3#64 8#64 ResourceAccessTag.readWrite
    m := 1#32
    n := 2#32
    k := 1#32 }
  handle := 1#64
  a := 1#64
  b := 2#64
  c := 3#64

theorem ready_rowLaunch : Ready (.ok (exactApis rowMemory)) rowState rowExecution rowLaunch where
  apis := rfl
  prepared := by rfl
  handle := rfl
  a := rfl
  b := rfl
  c := rfl

theorem executeWindows_agrees_with_reference_row :
    ((executeWindows (.ok (exactApis rowMemory)) rowExecution).run rowState).2.calls =
      [gemmCall rowLaunch.prepared 1#64 2#64 3#64] ∧
    decodeResponse (responseBytes 1#64 2#64 [0x41b00000#32, 0x42380000#32]) = .ok {
      m := 1#64
      n := 2#64
      values := ((executeWindows (.ok (exactApis rowMemory)) rowExecution).run
        rowState).2.memory 3#64 } := by
  obtain ⟨hcalls, _, _, _, hvalues⟩ :=
    (executeWindows_agrees_with_reference ℤ (implementsSgemm_exactApis rowMemory)
      (mapsRegions_exactApis rowMemory) rowExecution).2 rowLaunch ready_rowLaunch
  exact ⟨hcalls, hvalues rfl GemmLimits.default
    (requestBytes integerRequest 0#32) _ (by decide +kernel)
    (by decide +kernel)⟩

end ExactDevice

end RiftGPU.HipPlugin
