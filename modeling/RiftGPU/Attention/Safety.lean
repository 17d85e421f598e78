import RiftGPU.Attention.Causality
import RiftGPU.Trace.Traced

/-!
# The accesses of the reference attention

The reference attention is instrumented: it records the index of every element of Q, K, V and the
output that it reads or writes, and every key head that it computes. What it returns is unchanged.
No call panics, every recorded index is below the length of its slice, and a call that succeeds
writes every element of its output from exactly one batch, head, position and dimension.

## Main definitions

* `Attention.OutputElement`, `Attention.Access`.
* `Attention.attentionKernelTraced`, `Attention.executeAttentionF32Traced`: the reference with its
  accesses.

## Main results

* `Attention.result_executeAttentionF32Traced`: the instrumentation changes nothing.
* `Attention.executeAttentionF32_noPanic`.
* `Attention.executeAttentionF32Traced_inRange`: the accesses of a call.
* `Attention.output_mem_log`: the writes of a call that succeeds.
-/

namespace RiftGPU.Attention

open RowMajor Fault

/-- The coordinates of an element of the output. -/
structure OutputElement where
  batchIndex : ℕ
  queryHead : ℕ
  queryPosition : ℕ
  dim : ℕ
deriving DecidableEq, Repr

/-- An access of the loops: a key head, or an index of a slice. A write to the output also carries
the coordinates that it is made for. -/
inductive Access where
  | kvHead (head : ℕ)
  | q (index : ℕ)
  | k (index : ℕ)
  | v (index : ℕ)
  | output (element : OutputElement) (index : ℕ)
deriving DecidableEq, Repr

/-- The coordinates are below the dimensions. -/
structure OutputElement.InRange (dims : AttentionDims) (element : OutputElement) : Prop where
  batchIndex : element.batchIndex < dims.batch
  queryHead : element.queryHead < dims.queryHeads
  queryPosition : element.queryPosition < dims.queryLen
  dim : element.dim < dims.headDim

/-- The index of an element in the output. -/
def OutputElement.index (dims : AttentionDims) (element : OutputElement) : ℕ :=
  dims.queryIndex element.batchIndex element.queryHead element.queryPosition element.dim

section Kernel

variable {F : Type}

/-- The index is below the length of its slice. The coordinates of a write are in range, and its
index is theirs. -/
def Access.InRange (dims : AttentionDims) (q k v : List F) : Access → Prop
  | .kvHead head => head < dims.kvHeads
  | .q index => index < q.length
  | .k index => index < k.length
  | .v index => index < v.length
  | .output element index =>
    index < dims.queryElements ∧ element.InRange dims ∧ index = element.index dims

variable [Zero F] [Add F] [Sub F] [Mul F] [Div F] [FloatFunctions F]

/-! ### The instrumented reference -/

/-- `dotStep`, with its accesses. -/
def dotStepTraced (q k : List F) (qBase kBase : ℕ) (dot : F) (dim : ℕ) :
    Traced Access (Fault ReferenceAttentionError) F := do
  let qIndex ← Traced.call (usizeAdd qBase dim)
  Traced.record (.q qIndex)
  let qValue ← Traced.call (index q qIndex)
  let kIndex ← Traced.call (usizeAdd kBase dim)
  Traced.record (.k kIndex)
  let kValue ← Traced.call (index k kIndex)
  return dot + qValue * kValue

/-- `scoreStep`, with its accesses. -/
def scoreStepTraced (dims : AttentionDims) (scale : F) (q k : List F) (batchIndex kvHead qBase : ℕ)
    (state : List F × F) (keyPosition : ℕ) :
    Traced Access (Fault ReferenceAttentionError) (List F × F) := do
  let kBase ← Traced.call
    (rowBase batchIndex dims.kvHeads kvHead dims.kvLen keyPosition dims.headDim)
  let dot ← (List.range dims.headDim).foldlM (dotStepTraced q k qBase kBase) 0
  let score := dot * scale
  return (state.1.set keyPosition score, FloatFunctions.max state.2 score)

/-- `weightStep` for the output row of a batch, head and position, with its accesses. -/
def weightStepTraced (v : List F) (weight : F) (batchIndex queryHead queryPosition vBase oBase : ℕ)
    (output : List F) (dim : ℕ) : Traced Access (Fault ReferenceAttentionError) (List F) := do
  let vIndex ← Traced.call (usizeAdd vBase dim)
  Traced.record (.v vIndex)
  let vValue ← Traced.call (index v vIndex)
  let oIndex ← Traced.call (usizeAdd oBase dim)
  Traced.record (.output { batchIndex, queryHead, queryPosition, dim } oIndex)
  let old ← Traced.call (index output oIndex)
  return output.set oIndex (old + weight * vValue)

/-- `valueStep` for the output row of a head and position, with its accesses. -/
def valueStepTraced (dims : AttentionDims) (v : List F)
    (batchIndex queryHead queryPosition kvHead oBase : ℕ) (denominator : F)
    (scores output : List F) (keyPosition : ℕ) :
    Traced Access (Fault ReferenceAttentionError) (List F) := do
  let score ← Traced.call (index scores keyPosition)
  let weight := score / denominator
  let vBase ← Traced.call
    (rowBase batchIndex dims.kvHeads kvHead dims.kvLen keyPosition dims.headDim)
  (List.range dims.headDim).foldlM
    (weightStepTraced v weight batchIndex queryHead queryPosition vBase oBase) output

/-- `rowStep`, with its accesses. -/
def rowStepTraced (dims : AttentionDims) (causal : Bool) (scale : F) (q k v : List F)
    (causalBase batchIndex queryHead kvHead : ℕ) (state : List F × List F) (queryPosition : ℕ) :
    Traced Access (Fault ReferenceAttentionError) (List F × List F) := do
  let maxKey ← Traced.call (maxKey dims causal causalBase queryPosition)
  let qBase ← Traced.call
    (rowBase batchIndex dims.queryHeads queryHead dims.queryLen queryPosition dims.headDim)
  let keys ← Traced.call (usizeAdd maxKey 1)
  let scored ← (List.range (min keys state.2.length)).foldlM
    (scoreStepTraced dims scale q k batchIndex kvHead qBase)
    (state.2, FloatFunctions.negInfinity)
  Traced.call (Except.rejectIf (scored.1.length < keys)
    (.panic "range end index out of range for slice"))
  let weighted ← Traced.call ((List.range keys).foldlM (expStep scored.2) (scored.1, 0))
  Traced.call (Except.rejectIf
    (!FloatFunctions.isFinite weighted.2 ∨ FloatFunctions.leZero weighted.2)
    (.error .numericalFailure))
  let oBase ← Traced.call
    (rowBase batchIndex dims.queryHeads queryHead dims.queryLen queryPosition dims.headDim)
  let output ← (List.range (min keys weighted.1.length)).foldlM
    (valueStepTraced dims v batchIndex queryHead queryPosition kvHead oBase weighted.2 weighted.1)
    state.1
  return (output, weighted.1)

/-- `headStep`, with its accesses. -/
def headStepTraced (dims : AttentionDims) (causal : Bool) (scale : F) (q k v : List F)
    (headsPerKv causalBase batchIndex : ℕ) (state : List F × List F) (queryHead : ℕ) :
    Traced Access (Fault ReferenceAttentionError) (List F × List F) := do
  let kvHead ← Traced.call (usizeDiv queryHead headsPerKv)
  Traced.record (.kvHead kvHead)
  (List.range dims.queryLen).foldlM
    (rowStepTraced dims causal scale q k v causalBase batchIndex queryHead kvHead) state

/-- `batchStep`, with its accesses. -/
def batchStepTraced (dims : AttentionDims) (causal : Bool) (scale : F) (q k v : List F)
    (headsPerKv causalBase : ℕ) (state : List F × List F) (batchIndex : ℕ) :
    Traced Access (Fault ReferenceAttentionError) (List F × List F) :=
  (List.range dims.queryHeads).foldlM
    (headStepTraced dims causal scale q k v headsPerKv causalBase batchIndex) state

/-- `attentionKernel`, with its accesses. -/
def attentionKernelTraced (dims : AttentionDims) (causal : Bool) (scale : F) (q k v : List F)
    (outputElements : ℕ) : Traced Access (Fault ReferenceAttentionError) (List F) := do
  let headsPerKv ← Traced.call (usizeDiv dims.queryHeads dims.kvHeads)
  let causalBase := dims.kvLen - dims.queryLen
  let state ← (List.range dims.batch).foldlM
    (batchStepTraced dims causal scale q k v headsPerKv causalBase)
    (List.replicate outputElements 0, List.replicate dims.kvLen 0)
  return state.1

/-- `executeAttentionF32`, with its accesses. The checks before the loops make none. -/
def executeAttentionF32Traced (control : AttentionControl) (q k v : List F)
    (limits : AttentionLimits) : Traced Access (Fault ReferenceAttentionError) (List F) := do
  let outputElements ← Traced.call (admission control q k v limits)
  attentionKernelTraced control.dims control.isCausal (FloatFunctions.ofBits control.scale) q k v
    outputElements

/-! ### The instrumentation changes nothing -/

variable (dims : AttentionDims) (causal : Bool) (scale : F) (q k v : List F)

omit [Sub F] [Div F] [FloatFunctions F] [Zero F] in
@[simp] theorem result_dotStepTraced (qBase kBase : ℕ) (dot : F) (dim : ℕ) :
    (dotStepTraced q k qBase kBase dot dim).result = dotStep q k qBase kBase dot dim := by
  simp only [dotStepTraced, dotStep, Traced.result_bind, Traced.result_liftM,
    Traced.result_record, Except.ok_bind, Traced.result_pure]
  rfl

omit [Sub F] [Div F] in
@[simp] theorem result_scoreStepTraced (batchIndex kvHead qBase : ℕ) (state : List F × F)
    (keyPosition : ℕ) :
    (scoreStepTraced dims scale q k batchIndex kvHead qBase state keyPosition).result =
      scoreStep dims scale q k batchIndex kvHead qBase state keyPosition := by
  simp only [scoreStepTraced, scoreStep, Traced.result_bind, Traced.result_liftM,
    Traced.result_foldlM, result_dotStepTraced, Traced.result_pure]
  rfl

omit [Sub F] [Div F] [FloatFunctions F] [Zero F] in
@[simp] theorem result_weightStepTraced (weight : F)
    (batchIndex queryHead queryPosition vBase oBase : ℕ) (output : List F) (dim : ℕ) :
    (weightStepTraced v weight batchIndex queryHead queryPosition vBase oBase output dim).result =
      weightStep v weight vBase oBase output dim := by
  simp only [weightStepTraced, weightStep, Traced.result_bind, Traced.result_liftM,
    Traced.result_record, Except.ok_bind, Traced.result_pure]
  rfl

omit [Sub F] [FloatFunctions F] [Zero F] in
@[simp] theorem result_valueStepTraced (batchIndex queryHead queryPosition kvHead oBase : ℕ)
    (denominator : F) (scores output : List F) (keyPosition : ℕ) :
    (valueStepTraced dims v batchIndex queryHead queryPosition kvHead oBase denominator scores
        output keyPosition).result =
      valueStep dims v batchIndex kvHead oBase denominator scores output keyPosition := by
  simp only [valueStepTraced, valueStep, Traced.result_bind, Traced.result_liftM,
    Traced.result_foldlM, result_weightStepTraced]

@[simp] theorem result_rowStepTraced (causalBase batchIndex queryHead kvHead : ℕ)
    (state : List F × List F) (queryPosition : ℕ) :
    (rowStepTraced dims causal scale q k v causalBase batchIndex queryHead kvHead state
        queryPosition).result =
      rowStep dims causal scale q k v causalBase batchIndex queryHead kvHead state
        queryPosition := by
  simp only [rowStepTraced, rowStep, Traced.result_bind, Traced.result_liftM,
    Traced.result_foldlM, result_scoreStepTraced, result_valueStepTraced, Traced.result_pure]
  rfl

@[simp] theorem result_headStepTraced (headsPerKv causalBase batchIndex : ℕ)
    (state : List F × List F) (queryHead : ℕ) :
    (headStepTraced dims causal scale q k v headsPerKv causalBase batchIndex state
        queryHead).result =
      headStep dims causal scale q k v headsPerKv causalBase batchIndex state queryHead := by
  simp only [headStepTraced, headStep, Traced.result_bind, Traced.result_liftM,
    Traced.result_record, Except.ok_bind, Traced.result_foldlM, result_rowStepTraced]

@[simp] theorem result_batchStepTraced (headsPerKv causalBase : ℕ) (state : List F × List F)
    (batchIndex : ℕ) :
    (batchStepTraced dims causal scale q k v headsPerKv causalBase state batchIndex).result =
      batchStep dims causal scale q k v headsPerKv causalBase state batchIndex := by
  simp only [batchStepTraced, batchStep, Traced.result_foldlM, result_headStepTraced]

@[simp] theorem result_attentionKernelTraced (outputElements : ℕ) :
    (attentionKernelTraced dims causal scale q k v outputElements).result =
      attentionKernel dims causal scale q k v outputElements := by
  simp only [attentionKernelTraced, attentionKernel, Traced.result_bind, Traced.result_liftM,
    Traced.result_foldlM, result_batchStepTraced, Traced.result_pure]
  rfl

/-- The instrumented reference returns what the reference returns. -/
theorem result_executeAttentionF32Traced (control : AttentionControl) (limits : AttentionLimits) :
    (executeAttentionF32Traced control q k v limits).result =
      executeAttentionF32 control q k v limits := by
  rw [executeAttentionF32Traced, executeAttentionF32_eq_bind, Traced.result_bind]
  simp only [Traced.result_liftM, result_attentionKernelTraced]

/-! ### Every access is in range -/

section InRange

variable {dims causal scale q k v} {b h i j d : ℕ} (shapes : AttentionShapes dims causal q k v)
  (hrange : RowInRange dims b h i)

include shapes hrange

omit [Zero F] [Sub F] [Div F] [FloatFunctions F] in
theorem dotStepTraced_inRange (hj : j < dims.kvLen) (hd : d < dims.headDim) (dot : F) :
    (dotStepTraced q k (rowIndex dims b h i * dims.headDim)
      (((b * dims.kvHeads + kvHead dims h) * dims.kvLen + j) * dims.headDim) dot d).Only
        (Access.InRange dims q k v) := by
  have hq := hrange.queryElement_lt hd
  have hk := shapes.keyElement_lt hrange hj hd
  rw [dotStepTraced, usizeAdd_of_lt (hq.trans shapes.q_lt), Traced.liftM_ok_bind]
  refine Traced.only_record_bind (hq.trans_eq shapes.q_length.symm) ?_
  refine Traced.only_liftM_bind fun _ _ => ?_
  rw [usizeAdd_of_lt (hk.trans shapes.k_lt), Traced.liftM_ok_bind]
  refine Traced.only_record_bind (hk.trans_eq shapes.k_length.symm) ?_
  exact Traced.only_liftM_bind fun _ _ => Traced.only_pure _

omit [Sub F] [Div F] in
theorem scoreStepTraced_inRange (hj : j < dims.kvLen) (state : List F × F) :
    (scoreStepTraced dims scale q k b (kvHead dims h) (rowIndex dims b h i * dims.headDim) state
      j).Only (Access.InRange dims q k v) := by
  rw [scoreStepTraced, keyBase_eq shapes hrange hj, Traced.liftM_ok_bind]
  refine Traced.Only.bind (Traced.only_foldlM (fun dot d hd => ?_) _) fun _ _ => Traced.only_pure _
  exact dotStepTraced_inRange shapes hrange hj (List.mem_range.1 hd) dot

omit [Zero F] [Sub F] [Div F] [FloatFunctions F] in
theorem weightStepTraced_inRange (hj : j < dims.kvLen) (hd : d < dims.headDim) (weight : F)
    (output : List F) :
    (weightStepTraced v weight b h i
      (((b * dims.kvHeads + kvHead dims h) * dims.kvLen + j) * dims.headDim)
      (rowIndex dims b h i * dims.headDim) output d).Only (Access.InRange dims q k v) := by
  have hv := shapes.keyElement_lt hrange hj hd
  have ho := hrange.queryElement_lt hd
  rw [weightStepTraced, usizeAdd_of_lt (hv.trans shapes.k_lt), Traced.liftM_ok_bind]
  refine Traced.only_record_bind (hv.trans_eq shapes.v_length.symm) ?_
  refine Traced.only_liftM_bind fun _ _ => ?_
  rw [usizeAdd_of_lt (ho.trans shapes.q_lt), Traced.liftM_ok_bind]
  refine Traced.only_record_bind ⟨ho, ⟨hrange.batch, hrange.head, hrange.position, hd⟩, rfl⟩ ?_
  exact Traced.only_liftM_bind fun _ _ => Traced.only_pure _

omit [Zero F] [Sub F] [FloatFunctions F] in
theorem valueStepTraced_inRange (hj : j < dims.kvLen) (denominator : F) (scores output : List F) :
    (valueStepTraced dims v b h i (kvHead dims h) (rowIndex dims b h i * dims.headDim) denominator
      scores output j).Only (Access.InRange dims q k v) := by
  rw [valueStepTraced, keyBase_eq shapes hrange hj]
  refine Traced.only_liftM_bind fun score _ => Traced.only_foldlM (fun output d hd => ?_) output
  exact weightStepTraced_inRange shapes hrange hj (List.mem_range.1 hd) _ output

/-- The accesses of one row. The keys that it visits are visible, and so below the length. -/
theorem rowStepTraced_inRange (state : List F × List F) :
    (rowStepTraced dims causal scale q k v (dims.kvLen - dims.queryLen) b h (kvHead dims h) state
      i).Only (Access.InRange dims q k v) := by
  have hpos := shapes.visibleKeys_pos (i := i)
  have hle := shapes.visibleKeys_le hrange.position
  have hkv := shapes.kvLen_lt
  have hvisited {j length : ℕ}
      (hj : j ∈ List.range (min (visibleKeys dims causal i - 1 + 1) length)) :
      j < dims.kvLen := by
    rw [List.mem_range, lt_min_iff] at hj
    omega
  rw [rowStepTraced, shapes.maxKey_eq hrange.position, Traced.liftM_ok_bind,
    queryBase_eq shapes hrange, Traced.liftM_ok_bind, usizeAdd_of_lt (by omega),
    Traced.liftM_ok_bind]
  refine Traced.Only.bind (Traced.only_foldlM (fun scored j hj => ?_) _) fun scored _ => ?_
  · exact scoreStepTraced_inRange shapes hrange (hvisited hj) scored
  refine Traced.only_liftM_bind fun _ _ => Traced.only_liftM_bind fun weighted _ =>
    Traced.only_liftM_bind fun _ _ => ?_
  rw [Traced.liftM_ok_bind]
  refine Traced.Only.bind (Traced.only_foldlM (fun output j hj => ?_) _) fun _ _ =>
    Traced.only_pure _
  exact valueStepTraced_inRange shapes hrange (hvisited hj) _ _ output

omit hrange

theorem headStepTraced_inRange (hb : b < dims.batch) (hh : h < dims.queryHeads)
    (state : List F × List F) :
    (headStepTraced dims causal scale q k v (dims.queryHeads / dims.kvHeads)
      (dims.kvLen - dims.queryLen) b state h).Only (Access.InRange dims q k v) := by
  rw [headStepTraced, usizeDiv_of_ne shapes.groups_ne_zero, Traced.liftM_ok_bind]
  refine Traced.only_record_bind (shapes.kvHead_lt hh) (Traced.only_foldlM (fun s i hi => ?_) state)
  exact rowStepTraced_inRange shapes ⟨hb, hh, List.mem_range.1 hi⟩ s

theorem batchStepTraced_inRange (hb : b < dims.batch) (state : List F × List F) :
    (batchStepTraced dims causal scale q k v (dims.queryHeads / dims.kvHeads)
      (dims.kvLen - dims.queryLen) state b).Only (Access.InRange dims q k v) := by
  rw [batchStepTraced]
  exact Traced.only_foldlM
    (fun s h hh => headStepTraced_inRange shapes hb (List.mem_range.1 hh) s) state

theorem attentionKernelTraced_inRange (outputElements : ℕ) :
    (attentionKernelTraced dims causal scale q k v outputElements).Only
      (Access.InRange dims q k v) := by
  rw [attentionKernelTraced, usizeDiv_of_ne shapes.kvHeads_pos.ne', Traced.liftM_ok_bind]
  refine Traced.Only.bind (Traced.only_foldlM (fun s b hb => ?_) _) fun _ _ => Traced.only_pure _
  exact batchStepTraced_inRange shapes (List.mem_range.1 hb) s

end InRange

/-- The accesses of a call are in range. A call that is not accepted makes none. -/
theorem executeAttentionF32Traced_inRange (control : AttentionControl) (q k v : List F)
    (limits : AttentionLimits) :
    (executeAttentionF32Traced control q k v limits).Only
      (Access.InRange control.dims q k v) := by
  rw [executeAttentionF32Traced]
  refine Traced.only_liftM_bind fun elements hadmission => ?_
  exact attentionKernelTraced_inRange (admission_eq_ok_iff.1 hadmission).1.shapes elements

/-! ### No call panics -/

omit [Zero F] [Add F] [Sub F] [Mul F] [Div F] [FloatFunctions F] in
/-- The checks fail with errors of the reference only. -/
theorem admission_noPanic (control : AttentionControl) (q k v : List F)
    (limits : AttentionLimits) : NoPanic (admission control q k v limits) := by
  refine (noPanic_lift _).bind fun _ _ => ?_
  refine (noPanic_rejectIf _ _).bind fun _ _ => ?_
  refine (noPanic_lift _).bind fun lengths _ => ?_
  -- the three inputs, and the elements of the output
  refine (noPanic_rejectIf _ _).bind fun _ _ => ?_
  refine (noPanic_rejectIf _ _).bind fun _ _ => ?_
  refine (noPanic_rejectIf _ _).bind fun _ _ => ?_
  refine (noPanic_rejectIf _ _).bind fun _ _ => ?_
  refine NoPanic.bind (noPanic_foldlM (fun _ _ _ => noPanic_okOr _ _) _) fun scores _ => ?_
  exact (noPanic_rejectIf _ _).bind fun _ _ => noPanic_ok _

/-- The loops of an accepted call return, or fail on a denominator. -/
theorem executeAttentionF32_noPanic (control : AttentionControl) (q k v : List F)
    (limits : AttentionLimits) : NoPanic (executeAttentionF32 control q k v limits) := by
  rw [executeAttentionF32_eq_bind]
  refine (admission_noPanic control q k v limits).bind fun elements hadmission => ?_
  obtain ⟨haccepts, rfl⟩ := admission_eq_ok_iff.1 hadmission
  have hsettles :=
    attentionKernel_settles haccepts.shapes (FloatFunctions.ofBits control.scale)
  rcases hsettles with ⟨-, output, hok, -⟩ | ⟨-, herror⟩
  · intro message h
    exact nomatch hok.symm.trans h
  · intro message h
    exact nomatch herror.symm.trans h

/-! ### Every element of the output is written -/

section Coverage

variable {dims causal scale q k v} {b h i j d : ℕ} (shapes : AttentionShapes dims causal q k v)
  (hrange : RowInRange dims b h i)

/-- The write to an element of a row. -/
def rowWrite (dims : AttentionDims) (b h i d : ℕ) : Access :=
  .output ⟨b, h, i, d⟩ (dims.queryIndex b h i d)

include shapes hrange

omit [Sub F] [Div F] [FloatFunctions F] in
theorem mem_log_weightStepTraced (hj : j < dims.kvLen) (hd : d < dims.headDim) (weight : F)
    (output : List F) :
    rowWrite dims b h i d ∈ (weightStepTraced v weight b h i
      (((b * dims.kvHeads + kvHead dims h) * dims.kvLen + j) * dims.headDim)
      (rowIndex dims b h i * dims.headDim) output d).log := by
  have hv := shapes.keyElement_lt hrange hj hd
  have ho := hrange.queryElement_lt hd
  rw [weightStepTraced, usizeAdd_of_lt (hv.trans shapes.k_lt), Traced.liftM_ok_bind,
    Traced.log_record_bind, index_getD (hv.trans_eq shapes.v_length.symm) 0, Traced.liftM_ok_bind,
    usizeAdd_of_lt (ho.trans shapes.q_lt), Traced.liftM_ok_bind, Traced.log_record_bind]
  exact List.mem_cons_of_mem _ List.mem_cons_self

omit [Sub F] [FloatFunctions F] in
theorem mem_log_valueStepTraced (hj : j < dims.kvLen) (hd : d < dims.headDim) {denominator : F}
    {scores output output' : List F}
    (hok : (valueStepTraced dims v b h i (kvHead dims h) (rowIndex dims b h i * dims.headDim)
      denominator scores output j).result = .ok output') :
    rowWrite dims b h i d ∈ (valueStepTraced dims v b h i (kvHead dims h)
      (rowIndex dims b h i * dims.headDim) denominator scores output j).log := by
  rw [valueStepTraced, keyBase_eq shapes hrange hj] at hok ⊢
  rw [Traced.result_bind, Except.bind_eq_ok_iff] at hok
  obtain ⟨score, hscore, hloop⟩ := hok
  rw [Traced.result_liftM] at hscore
  rw [hscore, Traced.liftM_ok_bind]
  exact Traced.mem_log_foldlM hloop (List.mem_range.2 hd) fun output _ _ =>
    mem_log_weightStepTraced shapes hrange hj hd _ output

omit shapes hrange [Zero F] [Mul F] [Div F] in
/-- The second loop keeps the length of the buffer of scores. -/
theorem length_expLoop {maxScore total : F} {keys : List ℕ} {scores : List F} {state : List F × F}
    (h : keys.foldlM (expStep maxScore) (scores, total) = .ok state) :
    state.1.length = scores.length := by
  refine Except.foldlM_induction (P := fun s => s.1.length = scores.length) ?_ rfl h
  intro s j s' _ hs hstep
  rw [expStep, Except.bind_eq_ok_iff] at hstep
  obtain ⟨score, -, hset⟩ := hstep
  cases hset
  exact List.length_set.trans hs

/-- A row that succeeds writes all of its elements, already for its first key. -/
theorem mem_log_rowStepTraced (hd : d < dims.headDim) {state state' : List F × List F}
    (hok : (rowStepTraced dims causal scale q k v (dims.kvLen - dims.queryLen) b h (kvHead dims h)
      state i).result = .ok state') :
    rowWrite dims b h i d ∈ (rowStepTraced dims causal scale q k v (dims.kvLen - dims.queryLen) b h
      (kvHead dims h) state i).log := by
  have hpos := shapes.visibleKeys_pos (i := i)
  have hle := shapes.visibleKeys_le hrange.position
  have hkv := shapes.kvLen_lt
  rw [rowStepTraced, shapes.maxKey_eq hrange.position, Traced.liftM_ok_bind,
    queryBase_eq shapes hrange, Traced.liftM_ok_bind, usizeAdd_of_lt (by omega),
    Traced.liftM_ok_bind] at hok ⊢
  simp only [Traced.liftM_ok_bind, Traced.result_bind, Except.bind_eq_ok_iff,
    Traced.result_liftM] at hok
  obtain ⟨scored, hscored, _, hslice, weighted, hweighted, _, hgood, output, houtput, -⟩ := hok
  rw [Traced.log_bind_of_ok hscored, hslice, Traced.liftM_ok_bind, hweighted,
    Traced.liftM_ok_bind, hgood, Traced.liftM_ok_bind, Traced.liftM_ok_bind,
    Traced.log_bind_of_ok houtput]
  have hlength : weighted.1.length = scored.1.length := length_expLoop hweighted
  rw [Except.rejectIf_eq_ok_iff] at hslice
  have hfirst : 0 ∈ List.range (min (visibleKeys dims causal i - 1 + 1) weighted.1.length) := by
    rw [List.mem_range, lt_min_iff]
    omega
  refine List.mem_append_right _ (List.mem_append_left _ ?_)
  exact Traced.mem_log_foldlM houtput hfirst fun _ _ hvalue =>
    mem_log_valueStepTraced shapes hrange (by omega) hd hvalue

omit hrange

theorem mem_log_headStepTraced (hrange : RowInRange dims b h i) (hd : d < dims.headDim)
    {state state' : List F × List F}
    (hok : (headStepTraced dims causal scale q k v (dims.queryHeads / dims.kvHeads)
      (dims.kvLen - dims.queryLen) b state h).result = .ok state') :
    rowWrite dims b h i d ∈ (headStepTraced dims causal scale q k v
      (dims.queryHeads / dims.kvHeads) (dims.kvLen - dims.queryLen) b state h).log := by
  rw [headStepTraced, usizeDiv_of_ne shapes.groups_ne_zero, Traced.liftM_ok_bind] at hok ⊢
  rw [Traced.result_bind, Traced.result_record, Except.ok_bind] at hok
  rw [Traced.log_record_bind]
  refine List.mem_cons_of_mem _ ?_
  exact Traced.mem_log_foldlM hok (List.mem_range.2 hrange.position) fun _ _ hrow =>
    mem_log_rowStepTraced shapes hrange hd hrow

/-- A run of the kernel that succeeds writes every element of the output. -/
theorem mem_log_attentionKernelTraced (hrange : RowInRange dims b h i) (hd : d < dims.headDim)
    {outputElements : ℕ} {output : List F}
    (hok : (attentionKernelTraced dims causal scale q k v outputElements).result = .ok output) :
    rowWrite dims b h i d ∈
      (attentionKernelTraced dims causal scale q k v outputElements).log := by
  rw [attentionKernelTraced, usizeDiv_of_ne shapes.kvHeads_pos.ne', Traced.liftM_ok_bind] at hok ⊢
  rw [Traced.result_bind, Except.bind_eq_ok_iff] at hok
  obtain ⟨state, hloop, -⟩ := hok
  rw [Traced.log_bind_of_ok hloop]
  refine List.mem_append_left _ ?_
  refine Traced.mem_log_foldlM hloop (List.mem_range.2 hrange.batch) fun s t hbatch => ?_
  rw [batchStepTraced] at hbatch ⊢
  exact Traced.mem_log_foldlM hbatch (List.mem_range.2 hrange.head) fun _ _ hhead =>
    mem_log_headStepTraced shapes hrange hd hhead

end Coverage

/-- A call that succeeds writes every element of its output. -/
theorem output_mem_log {control : AttentionControl} {q k v output : List F}
    {limits : AttentionLimits} (hok : executeAttentionF32 control q k v limits = .ok output)
    {element : OutputElement} (hrange : element.InRange control.dims) :
    .output element (element.index control.dims) ∈
      (executeAttentionF32Traced control q k v limits).log := by
  rw [← result_executeAttentionF32Traced] at hok
  rw [executeAttentionF32Traced] at hok ⊢
  rw [Traced.result_bind, Except.bind_eq_ok_iff] at hok
  obtain ⟨elements, hadmission, hkernel⟩ := hok
  rw [Traced.result_liftM] at hadmission
  rw [hadmission, Traced.liftM_ok_bind]
  have hshapes := (admission_eq_ok_iff.1 hadmission).1.shapes
  exact mem_log_attentionKernelTraced hshapes
    ⟨hrange.batchIndex, hrange.queryHead, hrange.queryPosition⟩ hrange.dim hkernel

/-! ### The sizes of the slices -/

omit [Zero F] [Add F] [Sub F] [Mul F] [Div F] [FloatFunctions F]

/-- Every index of the output has exactly one batch, head, position and dimension. -/
theorem existsUnique_outputElement {dims : AttentionDims} {p : ℕ} (hp : p < dims.queryElements) :
    ∃! element : OutputElement, element.InRange dims ∧ p = element.index dims := by
  obtain ⟨b, hb, h, hh, i, hi, d, hd, rfl⟩ := exists_tensorIndex hp
  refine ⟨⟨b, h, i, d⟩, ⟨⟨hb, hh, hi, hd⟩, rfl⟩, ?_⟩
  rintro element ⟨hrange, hindex⟩
  -- The coordinates are the digits of the index.
  have hdigits : atIndex dims.queryHeads dims.queryLen dims.headDim OutputElement.mk
      (element.index dims) = element :=
    atIndex_tensorIndex (f := OutputElement.mk) hrange.queryHead hrange.queryPosition hrange.dim
  rw [← hdigits, ← hindex, atIndex_tensorIndex hh hi hd]

/-- The byte lengths of a valid control of 32-bit floats. -/
theorem expectedResourceLengths_of_valid {control : AttentionControl} (hvalid : control.Valid)
    (htype : control.dataType = .f32) :
    ∃ lengths, expectedResourceLengths control = .ok lengths ∧
      lengths.map BitVec.toNat = #v[4 * control.dims.queryElements, 4 * control.dims.keyElements,
        4 * control.dims.keyElements, 4 * control.dims.queryElements] := by
  obtain ⟨qBytes, hqBytes⟩ := BitVec.exists_toNat_eq hvalid.query_lt
  obtain ⟨kvBytes, hkvBytes⟩ := BitVec.exists_toNat_eq hvalid.key_lt
  refine ⟨#v[qBytes, kvBytes, kvBytes, qBytes],
    (AttentionControl.expectedResourceLengths_eq_ok_iff hvalid.positive).2
      ⟨qBytes, kvBytes, hqBytes, hkvBytes, rfl⟩, ?_⟩
  have hwidth : control.dataType.elementBytes.toNat = 4 := by
    rw [htype]
    rfl
  rw [hwidth, Nat.mul_comm] at hqBytes hkvBytes
  rw [← hqBytes, ← hkvBytes]
  simp

/-! ### The safety of a call -/

variable [Zero F] [Add F] [Sub F] [Mul F] [Div F] [FloatFunctions F]

/-- **The reference is safe.** No call panics: neither does its index arithmetic overflow, nor does
it divide by zero or access an element out of range. Every key head that a call computes is below
the number of key heads, and every index of Q, K, V and the output that it uses is below the length
of the slice. For a valid control of 32-bit floats the byte lengths are exact, and every element of
the output has exactly one batch, head, position and dimension, from which alone a call that
succeeds writes it. -/
theorem attention_safe (control : AttentionControl) (q k v : List F) (limits : AttentionLimits) :
    (executeAttentionF32Traced control q k v limits).result =
      executeAttentionF32 control q k v limits ∧
    (∀ message, executeAttentionF32 control q k v limits ≠ .error (.panic message)) ∧
    (∀ access ∈ (executeAttentionF32Traced control q k v limits).log,
      access.InRange control.dims q k v) ∧
    (control.validate = .ok () → control.dataType = .f32 →
      (∃ lengths, expectedResourceLengths control = .ok lengths ∧
        lengths.map BitVec.toNat = #v[4 * control.dims.queryElements, 4 * control.dims.keyElements,
          4 * control.dims.keyElements, 4 * control.dims.queryElements]) ∧
      ∀ p < control.dims.queryElements, ∃! element : OutputElement,
        element.InRange control.dims ∧ p = element.index control.dims) ∧
    ∀ output, executeAttentionF32 control q k v limits = .ok output →
      output.length = control.dims.queryElements ∧
      ∀ p < output.length, ∃! element : OutputElement,
        .output element p ∈ (executeAttentionF32Traced control q k v limits).log := by
  refine ⟨result_executeAttentionF32Traced q k v control limits,
    executeAttentionF32_noPanic control q k v limits,
    executeAttentionF32Traced_inRange control q k v limits, fun hvalidate htype => ⟨?_, ?_⟩,
    fun output hok => ?_⟩
  · have hvalid := AttentionControl.validate_eq_ok_iff.1 hvalidate
    exact expectedResourceLengths_of_valid hvalid htype
  · exact fun p => existsUnique_outputElement
  · have hlength : output.length = control.dims.queryElements := by
      obtain ⟨-, -, rfl⟩ := executeAttentionF32_eq_ok_iff.1 hok
      exact length_tensor
    refine ⟨hlength, fun p hp => ?_⟩
    rw [hlength] at hp
    obtain ⟨element, ⟨hrange, rfl⟩, hunique⟩ := existsUnique_outputElement hp
    refine ⟨element, output_mem_log hok hrange, fun other hother => hunique other ?_⟩
    exact (executeAttentionF32Traced_inRange control q k v limits _ hother).2

end Kernel

end RiftGPU.Attention
