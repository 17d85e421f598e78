import RiftGPU.Attention.ReferenceRows

/-!
# The output of the reference attention

A call succeeds exactly when its control is valid, its inputs have the sizes of their tensors, the
limits are not exceeded, and no row fails on its denominator; the output is then the tensor of the
outputs of the rows. The statements are about arbitrary arithmetic.

## Main definitions

* `Attention.AttentionControl.Valid`: what validation checks.
* `Attention.Accepts`: what is checked before the loops.
* `Attention.admission`: the checks before the loops.

## Main results

* `Attention.AttentionControl.validate_eq_ok_iff`.
* `Attention.executeAttentionF32_eq_ok_iff`: when a call succeeds, and with which output.
-/

namespace RiftGPU.Attention

open RowMajor Fault

/-! ### Valid controls -/

/-- No dimension is zero. -/
structure AttentionDims.Positive (dims : AttentionDims) : Prop where
  batch : 0 < dims.batch
  queryHeads : 0 < dims.queryHeads
  kvHeads : 0 < dims.kvHeads
  queryLen : 0 < dims.queryLen
  kvLen : 0 < dims.kvLen
  headDim : 0 < dims.headDim

/-- The number of elements of Q and of the output. -/
def AttentionDims.queryElements (dims : AttentionDims) : ℕ :=
  dims.batch * dims.queryHeads * dims.queryLen * dims.headDim

/-- The number of elements of K and of V. -/
def AttentionDims.keyElements (dims : AttentionDims) : ℕ :=
  dims.batch * dims.kvHeads * dims.kvLen * dims.headDim

/-- The number of scores. -/
def AttentionDims.scoreElements (dims : AttentionDims) : ℕ :=
  dims.batch * dims.queryHeads * dims.queryLen * dims.kvLen

theorem checkedProduct_dims {ε : Type} {e : ε} {a b c d : BitVec 32} (ha : 0 < a.toNat)
    (hb : 0 < b.toNat) (hc : 0 < c.toNat) (hd : 0 < d.toNat) {product : BitVec 64} :
    [a.setWidth 64, b.setWidth 64, c.setWidth 64, d.setWidth 64].foldlM
        (fun acc value => (acc.checkedMul value).okOr e) 1#64 = .ok product ↔
      product.toNat = a.toNat * b.toNat * c.toNat * d.toNat := by
  have hwide (x : BitVec 32) : (x.setWidth 64).toNat = x.toNat :=
    BitVec.toNat_setWidth_of_le (by decide)
  rw [BitVec.foldlM_checkedMul_eq_ok_iff]
  · simp only [List.map_cons, List.map_nil, List.prod_cons, List.prod_nil, hwide, Nat.mul_one,
      Nat.mul_assoc]
    rw [BitVec.toNat_ofNat, Nat.one_mul]
  · simp only [List.forall_mem_cons, hwide]
    exact ⟨ha, hb, hc, hd, nofun⟩

namespace AttentionControl

variable {control : AttentionControl}

/-- The byte lengths of a control without zero dimensions. -/
theorem expectedResourceLengths_eq_ok_iff (hpos : control.dims.Positive)
    {lengths : Vector (BitVec 64) 4} :
    expectedResourceLengths control = .ok lengths ↔ ∃ qBytes kvBytes : BitVec 64,
      qBytes.toNat = control.dims.queryElements * control.dataType.elementBytes.toNat ∧
        kvBytes.toNat = control.dims.keyElements * control.dataType.elementBytes.toNat ∧
          #v[qBytes, kvBytes, kvBytes, qBytes] = lengths := by
  simp only [expectedResourceLengths, checkedProduct, Except.bind_eq_ok_iff,
    checkedProduct_dims hpos.batch hpos.queryHeads hpos.queryLen hpos.headDim,
    checkedProduct_dims hpos.batch hpos.kvHeads hpos.kvLen hpos.headDim, Option.okOr_eq_ok_iff,
    BitVec.checkedMul_eq_some_iff, Except.pure_eq_ok_iff]
  constructor
  · rintro ⟨q, hq, kv, hkv, qBytes, hqBytes, kvBytes, hkvBytes, heq⟩
    exact ⟨qBytes, kvBytes, hqBytes.trans (congrArg (· * _) hq),
      hkvBytes.trans (congrArg (· * _) hkv), heq⟩
  · rintro ⟨qBytes, kvBytes, hqBytes, hkvBytes, heq⟩
    have hwidth : 0 < control.dataType.elementBytes.toNat := by
      cases control.dataType <;> decide
    obtain ⟨q, hq⟩ := BitVec.exists_toNat_eq
      ((Nat.le_mul_of_pos_right _ hwidth).trans_lt (hqBytes ▸ qBytes.isLt))
    obtain ⟨kv, hkv⟩ := BitVec.exists_toNat_eq
      ((Nat.le_mul_of_pos_right _ hwidth).trans_lt (hkvBytes ▸ kvBytes.isLt))
    exact ⟨q, hq, kv, hkv, qBytes, by rw [hqBytes, hq], kvBytes, by rw [hkvBytes, hkv], heq⟩

/-- What validation checks. -/
structure Valid (control : AttentionControl) : Prop where
  flags : control.flags &&& ~~~knownFlags = 0#32
  positive : control.dims.Positive
  kvHeads_le : control.dims.kvHeads ≤ control.dims.queryHeads
  kvHeads_dvd : control.dims.kvHeads ∣ control.dims.queryHeads
  causal_le : control.isCausal = true → control.dims.queryLen ≤ control.dims.kvLen
  scale_isFinite : control.scale.isFinite = true
  scale_pos : control.scale.leZero = false
  device : 0 ≤ control.deviceIndex.toInt
  query_lt : control.dims.queryElements * control.dataType.elementBytes.toNat < 2 ^ 64
  key_lt : control.dims.keyElements * control.dataType.elementBytes.toNat < 2 ^ 64

theorem positive_dims_iff :
    control.dims.Positive ↔ ¬(control.batch = 0#32 ∨ control.queryHeads = 0#32 ∨
      control.kvHeads = 0#32 ∨ control.queryLen = 0#32 ∨ control.kvLen = 0#32 ∨
        control.headDim = 0#32) := by
  simp only [not_or, BitVec.eq_zero_iff_toNat, ← Nat.pos_iff_ne_zero]
  exact ⟨fun h => ⟨h.1, h.2, h.3, h.4, h.5, h.6⟩, fun ⟨a, b, c, d, e, f⟩ => ⟨a, b, c, d, e, f⟩⟩

theorem kvHeads_dvd_iff :
    control.queryHeads % control.kvHeads = 0#32 ↔
      control.dims.kvHeads ∣ control.dims.queryHeads := by
  rw [BitVec.eq_zero_iff_toNat, BitVec.toNat_umod, Nat.dvd_iff_mod_eq_zero]
  rfl

/-- The byte lengths of a control without zero dimensions exist when they fit 64 bits. -/
theorem exists_expectedResourceLengths_iff (hpos : control.dims.Positive) :
    (∃ lengths, expectedResourceLengths control = .ok lengths) ↔
      control.dims.queryElements * control.dataType.elementBytes.toNat < 2 ^ 64 ∧
        control.dims.keyElements * control.dataType.elementBytes.toNat < 2 ^ 64 := by
  simp only [expectedResourceLengths_eq_ok_iff hpos]
  constructor
  · rintro ⟨lengths, qBytes, kvBytes, hq, hkv, -⟩
    exact ⟨hq ▸ qBytes.isLt, hkv ▸ kvBytes.isLt⟩
  · rintro ⟨hq, hkv⟩
    obtain ⟨qBytes, hq⟩ := BitVec.exists_toNat_eq hq
    obtain ⟨kvBytes, hkv⟩ := BitVec.exists_toNat_eq hkv
    exact ⟨_, qBytes, kvBytes, hq, hkv, rfl⟩

/-- A control passes validation exactly when it is valid. -/
theorem validate_eq_ok_iff {u : Unit} : control.validate = .ok u ↔ control.Valid := by
  have hchain : control.validate = .ok u ↔
      control.flags &&& ~~~knownFlags = 0#32 ∧ control.dims.Positive ∧
        (control.dims.kvHeads ≤ control.dims.queryHeads ∧
          control.dims.kvHeads ∣ control.dims.queryHeads) ∧
        (control.isCausal = true → control.dims.queryLen ≤ control.dims.kvLen) ∧
        (control.scale.isFinite = true ∧ control.scale.leZero = false) ∧
        0 ≤ control.deviceIndex.toInt ∧
        ∃ lengths, expectedResourceLengths control = .ok lengths := by
    simp only [validate, Except.rejectIf_eq_ok_iff, positive_dims_iff, ← kvHeads_dvd_iff,
      Except.bind_eq_ok_iff, Except.pure_eq_ok_iff, exists_const, not_or, not_and, ne_eq, not_not,
      not_lt, gt_iff_lt, Bool.not_eq_true, Bool.not_eq_false, BitVec.lt_def, and_true]
    rfl
  rw [hchain]
  constructor
  · rintro ⟨hflags, hpos, ⟨hle, hdvd⟩, hcausal, ⟨hfinite, hscale⟩, hdevice, hlengths⟩
    obtain ⟨hq, hkv⟩ := (exists_expectedResourceLengths_iff hpos).1 hlengths
    exact ⟨hflags, hpos, hle, hdvd, hcausal, hfinite, hscale, hdevice, hq, hkv⟩
  · intro h
    exact ⟨h.flags, h.positive, ⟨h.kvHeads_le, h.kvHeads_dvd⟩, h.causal_le,
      ⟨h.scale_isFinite, h.scale_pos⟩, h.device,
      (exists_expectedResourceLengths_iff h.positive).2 ⟨h.query_lt, h.key_lt⟩⟩

end AttentionControl

/-! ### The checks of a call -/

section Call

variable {F : Type} {control : AttentionControl} {q k v output : List F} {limits : AttentionLimits}

/-- What is checked before the loops. -/
structure Accepts (control : AttentionControl) (q k v : List F) (limits : AttentionLimits) :
    Prop where
  valid : control.Valid
  dataType : control.dataType = .f32
  q_length : q.length = control.dims.queryElements
  k_length : k.length = control.dims.keyElements
  v_length : v.length = control.dims.keyElements
  output_le : control.dims.queryElements ≤ limits.maxTensorElements.toNat
  scores_le : control.dims.scoreElements ≤ limits.maxScoreElements.toNat

/-- The shapes of an accepted call. -/
theorem Accepts.shapes (h : Accepts control q k v limits) :
    AttentionShapes control.dims control.isCausal q k v where
  kvHeads_pos := h.valid.positive.kvHeads
  kvHeads_le := h.valid.kvHeads_le
  kvHeads_dvd := h.valid.kvHeads_dvd
  kvLen_pos := h.valid.positive.kvLen
  headDim_pos := h.valid.positive.headDim
  causal_le := h.valid.causal_le
  kvLen_lt := control.kvLen.isLt
  q_length := h.q_length
  k_length := h.k_length
  v_length := h.v_length
  q_lt := h.output_le.trans_lt limits.maxTensorElements.isLt
  k_lt := by
    have hlt := h.valid.key_lt
    rw [h.dataType] at hlt
    exact (Nat.le_mul_of_pos_right _ (by decide)).trans_lt hlt

theorem ofProtocol_eq_ok_iff {α : Type} {x : Except AttentionProtocolError α} {a : α} :
    ofProtocol x = .ok a ↔ x = .ok a := by
  rw [ofProtocol, Fault.lift_eq_ok_iff, Except.mapError_eq_ok_iff]

theorem toNat_elementsFromF32Bytes {bytes : BitVec 64} {n : ℕ} (h : bytes.toNat = n * 4) :
    (elementsFromF32Bytes bytes).toNat = n := by
  rw [elementsFromF32Bytes, BitVec.toNat_udiv, h]
  exact Nat.mul_div_cancel n (by decide)

theorem checkInputLen_eq_ok_iff {name : String} {actual expected : ℕ} {u : Unit} :
    checkInputLen name actual expected = .ok u ↔ actual = expected := by
  rw [checkInputLen, Except.rejectIf_eq_ok_iff, not_ne_iff]

theorem checkLimit_eq_ok_iff {what : String} {requested limit : BitVec 64} {u : Unit} :
    checkLimit what requested limit = .ok u ↔ requested.toNat ≤ limit.toNat := by
  rw [checkLimit, Except.rejectIf_eq_ok_iff, gt_iff_lt, BitVec.lt_def, not_lt]

theorem scoreProduct_eq_ok_iff (hpos : control.dims.Positive) {product : BitVec 64} :
    scoreProduct [control.batch.setWidth 64, control.queryHeads.setWidth 64,
        control.queryLen.setWidth 64, control.kvLen.setWidth 64] = .ok product ↔
      product.toNat = control.dims.scoreElements :=
  checkedProduct_dims hpos.batch hpos.queryHeads hpos.queryLen hpos.kvLen

/-- The checks before the loops, with the number of elements of the output. -/
def admission (control : AttentionControl) (q k v : List F) (limits : AttentionLimits) :
    Except (Fault ReferenceAttentionError) ℕ := do
  ofProtocol control.validate
  Except.rejectIf (control.dataType ≠ .f32) (.error (.unsupportedDataType control.dataType))
  let lengths ← ofProtocol (expectedResourceLengths control)
  let expectedQ := elementsFromF32Bytes (lengths.get qResourceIndex)
  let expectedK := elementsFromF32Bytes (lengths.get kResourceIndex)
  let expectedV := elementsFromF32Bytes (lengths.get vResourceIndex)
  let expectedO := elementsFromF32Bytes (lengths.get oResourceIndex)
  checkInputLen "q" q.length expectedQ.toNat
  checkInputLen "k" k.length expectedK.toNat
  checkInputLen "v" v.length expectedV.toNat
  checkLimit "output tensor elements" expectedO limits.maxTensorElements
  let scoreElements ← scoreProduct
    [control.batch.setWidth 64, control.queryHeads.setWidth 64, control.queryLen.setWidth 64,
      control.kvLen.setWidth 64]
  checkLimit "attention score elements" scoreElements limits.maxScoreElements
  return expectedO.toNat

/-- The checks pass exactly for an accepted call. -/
theorem admission_eq_ok_iff {elements : ℕ} :
    admission control q k v limits = .ok elements ↔
      Accepts control q k v limits ∧ elements = control.dims.queryElements := by
  simp only [admission, Except.bind_eq_ok_iff, ofProtocol_eq_ok_iff,
    AttentionControl.validate_eq_ok_iff, Except.rejectIf_eq_ok_iff, ne_eq, not_not,
    checkInputLen_eq_ok_iff, checkLimit_eq_ok_iff, Except.pure_eq_ok_iff, exists_const]
  have hwidth (h : control.dataType = .f32) : control.dataType.elementBytes.toNat = 4 := by
    rw [h]
    rfl
  constructor
  · rintro ⟨hvalid, htype, lengths, hlengths, hq, hk, hv, houtput, scores, hscores, hlimit,
      helements⟩
    obtain ⟨qBytes, kvBytes, hqBytes, hkvBytes, rfl⟩ :=
      (AttentionControl.expectedResourceLengths_eq_ok_iff hvalid.positive).1 hlengths
    rw [hwidth htype] at hqBytes hkvBytes
    have hqElements := toNat_elementsFromF32Bytes hqBytes
    have hkvElements := toNat_elementsFromF32Bytes hkvBytes
    rw [scoreProduct_eq_ok_iff hvalid.positive] at hscores
    exact ⟨⟨hvalid, htype, hq.trans hqElements, hk.trans hkvElements, hv.trans hkvElements,
      hqElements ▸ houtput, hscores ▸ hlimit⟩, helements.symm.trans hqElements⟩
  · rintro ⟨haccepts, helements⟩
    have hvalid := haccepts.valid
    obtain ⟨qBytes, hqBytes⟩ := BitVec.exists_toNat_eq hvalid.query_lt
    obtain ⟨kvBytes, hkvBytes⟩ := BitVec.exists_toNat_eq hvalid.key_lt
    have hlengths := (AttentionControl.expectedResourceLengths_eq_ok_iff hvalid.positive).2
      ⟨qBytes, kvBytes, hqBytes, hkvBytes, rfl⟩
    rw [hwidth haccepts.dataType] at hqBytes hkvBytes
    have hqElements := toNat_elementsFromF32Bytes hqBytes
    have hkvElements := toNat_elementsFromF32Bytes hkvBytes
    obtain ⟨scores, hscores⟩ := BitVec.exists_toNat_eq
      (haccepts.scores_le.trans_lt limits.maxScoreElements.isLt)
    exact ⟨hvalid, haccepts.dataType, _, hlengths, haccepts.q_length.trans hqElements.symm,
      haccepts.k_length.trans hkvElements.symm, haccepts.v_length.trans hkvElements.symm,
      hqElements.trans_le haccepts.output_le, scores,
      (scoreProduct_eq_ok_iff hvalid.positive).2 hscores,
      hscores.trans_le haccepts.scores_le, hqElements.trans helements.symm⟩

variable [Zero F] [Add F] [Sub F] [Mul F] [Div F] [FloatFunctions F]

/-- A call is the checks, followed by the loops. -/
theorem executeAttentionF32_eq_bind :
    executeAttentionF32 control q k v limits = (admission control q k v limits >>=
      attentionKernel control.dims control.isCausal (FloatFunctions.ofBits control.scale) q k
        v) := by
  simp only [executeAttentionF32, admission, bind_assoc, pure_bind]

/-- A call succeeds when it is accepted and its loops succeed. -/
theorem executeAttentionF32_eq_ok_iff_kernel :
    executeAttentionF32 control q k v limits = .ok output ↔
      Accepts control q k v limits ∧
        attentionKernel control.dims control.isCausal (FloatFunctions.ofBits control.scale) q k v
          control.dims.queryElements = .ok output := by
  simp only [executeAttentionF32_eq_bind, Except.bind_eq_ok_iff, admission_eq_ok_iff]
  constructor
  · rintro ⟨_, ⟨haccepts, rfl⟩, hkernel⟩
    exact ⟨haccepts, hkernel⟩
  · rintro ⟨haccepts, hkernel⟩
    exact ⟨_, ⟨haccepts, rfl⟩, hkernel⟩

/-- **The output.** A call succeeds exactly when it is accepted and every row passes the check of
its denominator, and its output is then the tensor of the outputs of the rows. -/
theorem executeAttentionF32_eq_ok_iff :
    executeAttentionF32 control q k v limits = .ok output ↔
      Accepts control q k v limits ∧
        (∀ b < control.dims.batch, ∀ h < control.dims.queryHeads, ∀ i < control.dims.queryLen,
          (rowView control.dims control.isCausal (FloatFunctions.ofBits control.scale) q k v b h
            i).Good) ∧
          output = tensor control.dims.batch control.dims.queryHeads control.dims.queryLen
            control.dims.headDim (attentionValue control.dims control.isCausal
              (FloatFunctions.ofBits control.scale) q k v) := by
  rw [executeAttentionF32_eq_ok_iff_kernel]
  refine and_congr_right fun haccepts => ?_
  rcases attentionKernel_settles haccepts.shapes (FloatFunctions.ofBits control.scale) with
    ⟨hgood, value, hok, rfl⟩ | ⟨hbad, herror⟩
  · constructor
    · intro h
      exact ⟨hgood, Except.ok.inj (h.symm.trans hok)⟩
    · rintro ⟨-, rfl⟩
      exact hok
  · constructor
    · intro h
      exact nomatch h.symm.trans herror
    · rintro ⟨hgood, -⟩
      exact (hbad hgood).elim

end Call

end RiftGPU.Attention
