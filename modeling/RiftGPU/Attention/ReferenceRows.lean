import RiftGPU.Attention.Reference
import RiftGPU.RowMajor.Tensor

/-!
# What the reference attention computes

The loops of the reference attention never panic, and each row of their output is a function of the
row of Q and the visible rows of K and V alone. The buffer of scores, which all rows share, does not
carry anything from one row to the next: every entry that a row reads was written by the same row.
The statements are about arbitrary arithmetic.

## Main definitions

* `Attention.RowView`: what one query row reads, with its scores, denominator and output.
* `Attention.AttentionShapes`: the buffers have the sizes of their tensors, which fit 64 bits.

## Main results

* `Attention.rowStep_settles`: one row writes its output, or fails on its denominator.
* `Attention.attentionKernel_settles`: all rows do.
-/

namespace RiftGPU.Attention

open RowMajor Fault

theorem foldl_range_succ {σ : Type} (f : σ → ℕ → σ) (start : σ) (n : ℕ) :
    (List.range (n + 1)).foldl f start = f ((List.range n).foldl f start) n := by
  rw [List.range_succ, List.foldl_append]
  rfl

/-! ### Shapes and indices -/

variable {F : Type}

/-- The dimensions are those of a valid control, and the buffers have the sizes of their tensors,
which fit 64 bits. -/
structure AttentionShapes (dims : AttentionDims) (causal : Bool) (q k v : List F) : Prop where
  kvHeads_pos : 0 < dims.kvHeads
  kvHeads_le : dims.kvHeads ≤ dims.queryHeads
  kvHeads_dvd : dims.kvHeads ∣ dims.queryHeads
  kvLen_pos : 0 < dims.kvLen
  headDim_pos : 0 < dims.headDim
  causal_le : causal = true → dims.queryLen ≤ dims.kvLen
  kvLen_lt : dims.kvLen < 2 ^ 32
  q_length : q.length = dims.batch * dims.queryHeads * dims.queryLen * dims.headDim
  k_length : k.length = dims.batch * dims.kvHeads * dims.kvLen * dims.headDim
  v_length : v.length = dims.batch * dims.kvHeads * dims.kvLen * dims.headDim
  q_lt : dims.batch * dims.queryHeads * dims.queryLen * dims.headDim < 2 ^ 64
  k_lt : dims.batch * dims.kvHeads * dims.kvLen * dims.headDim < 2 ^ 64

/-- The key head of a query head. -/
def kvHead (dims : AttentionDims) (h : ℕ) : ℕ := h / (dims.queryHeads / dims.kvHeads)

/-- The number of keys that a query position sees. -/
def visibleKeys (dims : AttentionDims) (causal : Bool) (i : ℕ) : ℕ :=
  if causal then dims.kvLen - dims.queryLen + i + 1 else dims.kvLen

namespace AttentionShapes

variable {dims : AttentionDims} {causal : Bool} {q k v : List F} {b h i j : ℕ}

theorem groups_ne_zero (shapes : AttentionShapes dims causal q k v) :
    dims.queryHeads / dims.kvHeads ≠ 0 :=
  (Nat.div_pos shapes.kvHeads_le shapes.kvHeads_pos).ne'

/-- The query heads are grouped over the key heads. -/
theorem kvHead_lt (shapes : AttentionShapes dims causal q k v) (hh : h < dims.queryHeads) :
    kvHead dims h < dims.kvHeads := by
  refine Nat.div_lt_of_lt_mul ?_
  rwa [Nat.div_mul_cancel shapes.kvHeads_dvd]

/-- A query sees at least one key. -/
theorem visibleKeys_pos (shapes : AttentionShapes dims causal q k v) :
    0 < visibleKeys dims causal i := by
  have hpos := shapes.kvLen_pos
  rw [visibleKeys]
  split_ifs
  · exact Nat.succ_pos _
  · exact hpos

/-- A query sees at most all keys. -/
theorem visibleKeys_le (shapes : AttentionShapes dims causal q k v) (hi : i < dims.queryLen) :
    visibleKeys dims causal i ≤ dims.kvLen := by
  rw [visibleKeys]
  split_ifs with hcausal
  · have hle := shapes.causal_le hcausal
    omega
  · exact le_rfl

theorem maxKey_eq (shapes : AttentionShapes dims causal q k v) (hi : i < dims.queryLen) :
    maxKey dims causal (dims.kvLen - dims.queryLen) i =
      .ok (visibleKeys dims causal i - 1) := by
  have hlt := shapes.kvLen_lt
  rw [maxKey, visibleKeys]
  split_ifs with hcausal
  · have hle := shapes.causal_le hcausal
    rw [usizeAdd_of_lt (by omega), Nat.add_sub_cancel]
  · exact usizeSub_of_le shapes.kvLen_pos

end AttentionShapes

/-- The index of a row does not overflow when the tensor has less than `2 ^ 64` elements. -/
theorem rowBase_of_lt {batch heads len dim b h i : ℕ} (hb : b < batch) (hh : h < heads)
    (hi : i < len) (hdim : 0 < dim) (hlt : batch * heads * len * dim < 2 ^ 64) :
    rowBase b heads h len i dim = .ok (((b * heads + h) * len + i) * dim) := by
  have hhead : b * heads + h < batch * heads := index_lt hb hh
  have hrow : (b * heads + h) * len + i < batch * heads * len := index_lt hhead hi
  have hbase : ((b * heads + h) * len + i) * dim + 0 < batch * heads * len * dim :=
    index_lt hrow hdim
  have hrows : batch * heads * len ≤ batch * heads * len * dim := Nat.le_mul_of_pos_right _ hdim
  have hheads : batch * heads ≤ batch * heads * len :=
    Nat.le_mul_of_pos_right _ (Nat.zero_lt_of_lt hi)
  rw [rowBase, usizeMul_of_lt (by omega), Except.ok_bind, usizeAdd_of_lt (by omega),
    Except.ok_bind, usizeMul_of_lt (by omega), Except.ok_bind, usizeAdd_of_lt (by omega),
    Except.ok_bind, usizeMul_of_lt (by omega)]

variable [Zero F]

/-! ### What one row computes -/

/-- What one query row reads: its row of Q and the visible rows of K and V. -/
structure RowView (F : Type) where
  dim : ℕ
  scale : F
  keys : ℕ
  query : ℕ → F
  key : ℕ → ℕ → F
  value : ℕ → ℕ → F

/-- What the row at a query position reads. -/
def rowView (dims : AttentionDims) (causal : Bool) (scale : F) (q k v : List F) (b h i : ℕ) :
    RowView F where
  dim := dims.headDim
  scale := scale
  keys := visibleKeys dims causal i
  query d := q.getD (tensorIndex dims.queryHeads dims.queryLen dims.headDim b h i d) 0
  key j d := k.getD (tensorIndex dims.kvHeads dims.kvLen dims.headDim b (kvHead dims h) j d) 0
  value j d := v.getD (tensorIndex dims.kvHeads dims.kvLen dims.headDim b (kvHead dims h) j d) 0

variable [Add F] [Sub F] [Mul F] [Div F] [FloatFunctions F]

namespace RowView

variable (row : RowView F)

/-- The dot product with a key row. -/
def dot (j : ℕ) : F :=
  (List.range row.dim).foldl (fun dot d => dot + row.query d * row.key j d) 0

/-- The score of a key. -/
def score (j : ℕ) : F := row.dot j * row.scale

/-- The maximum of the first `n` scores. -/
def maxScore (n : ℕ) : F :=
  (List.range n).foldl (fun best j => FloatFunctions.max best (row.score j))
    FloatFunctions.negInfinity

/-- The exponential of a score, relative to the maximum of all. -/
def expScore (j : ℕ) : F := FloatFunctions.exp (row.score j - row.maxScore row.keys)

/-- The sum of the first `n` exponentials. -/
def expSum (n : ℕ) : F := (List.range n).foldl (fun total j => total + row.expScore j) 0

/-- The sum of all exponentials. -/
def denominator : F := row.expSum row.keys

/-- The sum of the first `n` weighted value rows, at one position. -/
def weightedSum (n d : ℕ) : F :=
  (List.range n).foldl (fun total j =>
    total + row.expScore j / row.denominator * row.value j d) 0

/-- The output of the row. -/
def output (d : ℕ) : F := row.weightedSum row.keys d

/-- The denominator passes its check. -/
def Good : Prop :=
  FloatFunctions.isFinite row.denominator = true ∧ FloatFunctions.leZero row.denominator = false

end RowView

/-! ### The loops of one row -/

/-- The position of a row in the output. -/
structure RowInRange (dims : AttentionDims) (b h i : ℕ) : Prop where
  batch : b < dims.batch
  head : h < dims.queryHeads
  position : i < dims.queryLen

/-- The number of the row among all rows. -/
def rowIndex (dims : AttentionDims) (b h i : ℕ) : ℕ :=
  (b * dims.queryHeads + h) * dims.queryLen + i

theorem RowInRange.queryElement_lt {dims : AttentionDims} {b h i d : ℕ}
    (hrange : RowInRange dims b h i) (hd : d < dims.headDim) :
    rowIndex dims b h i * dims.headDim + d <
      dims.batch * dims.queryHeads * dims.queryLen * dims.headDim :=
  tensorIndex_lt hrange.batch hrange.head hrange.position hd

omit [Zero F] [Add F] [Sub F] [Mul F] [Div F] [FloatFunctions F] in
theorem AttentionShapes.keyElement_lt {dims : AttentionDims} {causal : Bool} {q k v : List F}
    {b h i j d : ℕ} (shapes : AttentionShapes dims causal q k v) (hrange : RowInRange dims b h i)
    (hj : j < dims.kvLen) (hd : d < dims.headDim) :
    ((b * dims.kvHeads + kvHead dims h) * dims.kvLen + j) * dims.headDim + d <
      dims.batch * dims.kvHeads * dims.kvLen * dims.headDim :=
  tensorIndex_lt hrange.batch (shapes.kvHead_lt hrange.head) hj hd

section Row

variable {dims : AttentionDims} {causal : Bool} {scale : F} {q k v : List F} {b h i j : ℕ}
  {row : RowView F} (shapes : AttentionShapes dims causal q k v) (hrange : RowInRange dims b h i)
  (hrow : row = rowView dims causal scale q k v b h i)

include shapes hrange

omit [Zero F] [Add F] [Sub F] [Mul F] [Div F] [FloatFunctions F] in
theorem queryBase_eq :
    rowBase b dims.queryHeads h dims.queryLen i dims.headDim =
      .ok (rowIndex dims b h i * dims.headDim) :=
  rowBase_of_lt hrange.batch hrange.head hrange.position shapes.headDim_pos shapes.q_lt

omit [Zero F] [Add F] [Sub F] [Mul F] [Div F] [FloatFunctions F] in
theorem keyBase_eq (hj : j < dims.kvLen) :
    rowBase b dims.kvHeads (kvHead dims h) dims.kvLen j dims.headDim =
      .ok (((b * dims.kvHeads + kvHead dims h) * dims.kvLen + j) * dims.headDim) :=
  rowBase_of_lt hrange.batch (shapes.kvHead_lt hrange.head) hj shapes.headDim_pos shapes.k_lt

include hrow

omit [Sub F] [Div F] [FloatFunctions F] in
/-- The innermost loop of the scores computes a dot product. -/
theorem dotLoop_eq (hj : j < dims.kvLen) :
    (List.range dims.headDim).foldlM (dotStep q k (rowIndex dims b h i * dims.headDim)
        (((b * dims.kvHeads + kvHead dims h) * dims.kvLen + j) * dims.headDim)) 0 =
      .ok (row.dot j) := by
  subst hrow
  refine Except.foldlM_eq_ok_foldl (fun d hd dot => ?_) 0
  rw [List.mem_range] at hd
  have hq := hrange.queryElement_lt hd
  have hk := shapes.keyElement_lt hrange hj hd
  rw [dotStep, usizeAdd_of_lt (hq.trans shapes.q_lt), Except.ok_bind,
    index_getD (hq.trans_eq shapes.q_length.symm) 0, Except.ok_bind,
    usizeAdd_of_lt (hk.trans shapes.k_lt), Except.ok_bind,
    index_getD (hk.trans_eq shapes.k_length.symm) 0]
  rfl

/-- The slots below `n` hold the scores, and the running maximum is theirs. -/
structure Scored (dims : AttentionDims) (row : RowView F) (n : ℕ) (state : List F × F) : Prop where
  length : state.1.length = dims.kvLen
  scores : ∀ j < n, state.1[j]? = some (row.score j)
  maximum : state.2 = row.maxScore n

omit [Sub F] [Div F] in
theorem scoreStep_scored (hj : j < dims.kvLen) {state : List F × F}
    (hstate : Scored dims row j state) :
    ∃ state', scoreStep dims scale q k b (kvHead dims h) (rowIndex dims b h i * dims.headDim)
        state j = .ok state' ∧ Scored dims row (j + 1) state' := by
  have hscale : row.scale = scale := by rw [hrow, rowView]
  refine ⟨(state.1.set j (row.score j), FloatFunctions.max state.2 (row.score j)), ?_, ?_,
    fun l hl => ?_, ?_⟩
  · rw [scoreStep, keyBase_eq shapes hrange hj, Except.ok_bind,
      dotLoop_eq shapes hrange hrow hj, Except.ok_bind, ← hscale]
    rfl
  · rw [List.length_set, hstate.length]
  · rcases Nat.lt_succ_iff_lt_or_eq.1 hl with hl | rfl
    · rw [List.getElem?_set_ne hl.ne', hstate.scores l hl]
    · rw [List.getElem?_set_self (by rwa [hstate.length])]
  · dsimp only
    rw [hstate.maximum, RowView.maxScore, RowView.maxScore, foldl_range_succ]

omit [Sub F] [Div F] in
/-- The first loop fills the visible slots with the scores. -/
theorem scoreLoop_scored {scores : List F} (hscores : scores.length = dims.kvLen) :
    ∃ state, (List.range (min row.keys scores.length)).foldlM
        (scoreStep dims scale q k b (kvHead dims h) (rowIndex dims b h i * dims.headDim))
        (scores, FloatFunctions.negInfinity) = .ok state ∧ Scored dims row row.keys state := by
  have hkeys : row.keys ≤ dims.kvLen := hrow ▸ shapes.visibleKeys_le hrange.position
  rw [hscores, min_eq_left hkeys]
  exact Except.foldlM_range_invariant
    (fun j hj state hstate => scoreStep_scored shapes hrange hrow (hj.trans_le hkeys) hstate)
    ⟨hscores, nofun, rfl⟩

omit shapes hrange hrow

/-- The slots below `n` hold the exponentials, the other visible ones still the scores, and the
running sum is that of the exponentials. -/
structure Weighted (dims : AttentionDims) (row : RowView F) (n : ℕ) (state : List F × F) :
    Prop where
  length : state.1.length = dims.kvLen
  weights : ∀ j < n, state.1[j]? = some (row.expScore j)
  scores : ∀ j, n ≤ j → j < row.keys → state.1[j]? = some (row.score j)
  total : state.2 = row.expSum n

omit [Div F] in
theorem expStep_weighted {state : List F × F} (hj : j < row.keys)
    (hstate : Weighted dims row j state) :
    ∃ state', expStep (row.maxScore row.keys) state j = .ok state' ∧
      Weighted dims row (j + 1) state' := by
  have hscore := hstate.scores j le_rfl hj
  have hlt : j < state.1.length := (List.getElem?_eq_some_iff.1 hscore).1
  refine ⟨(state.1.set j (row.expScore j), state.2 + row.expScore j), ?_, ?_, fun l hl => ?_,
    fun l hle hl => ?_, ?_⟩
  · rw [expStep, index_of_getElem? hscore]
    rfl
  · rw [List.length_set, hstate.length]
  · rcases Nat.lt_succ_iff_lt_or_eq.1 hl with hl | rfl
    · rw [List.getElem?_set_ne hl.ne', hstate.weights l hl]
    · rw [List.getElem?_set_self hlt]
  · rw [List.getElem?_set_ne (Nat.lt_of_succ_le hle).ne, hstate.scores l (by omega) hl]
  · dsimp only
    rw [hstate.total, RowView.expSum, RowView.expSum, foldl_range_succ]

omit [Div F] in
/-- The second loop replaces the scores by their exponentials. -/
theorem expLoop_weighted {state : List F × F} (hstate : Scored dims row row.keys state) :
    ∃ state', (List.range row.keys).foldlM (expStep state.2) (state.1, 0) = .ok state' ∧
      Weighted dims row row.keys state' := by
  rw [hstate.maximum]
  exact Except.foldlM_range_invariant (fun j hj _ => expStep_weighted hj)
    ⟨hstate.length, nofun, fun j _ hj => hstate.scores j hj, rfl⟩

/-- The number of elements of the output. -/
def outputSize (dims : AttentionDims) : ℕ :=
  dims.batch * dims.queryHeads * dims.queryLen * dims.headDim

include shapes hrange hrow

omit [Sub F] [Div F] [FloatFunctions F] in
/-- One iteration of the innermost loop of the output updates one element. -/
theorem weightStep_table {d : ℕ} (hj : j < dims.kvLen) (hd : d < dims.headDim) (weight : F)
    (f : ℕ → F) :
    weightStep v weight (((b * dims.kvHeads + kvHead dims h) * dims.kvLen + j) * dims.headDim)
        (rowIndex dims b h i * dims.headDim) (table (outputSize dims) f) d =
      .ok (table (outputSize dims) (Function.update f (rowIndex dims b h i * dims.headDim + d)
        (f (rowIndex dims b h i * dims.headDim + d) + weight * row.value j d))) := by
  have hv := shapes.keyElement_lt hrange hj hd
  have ho : rowIndex dims b h i * dims.headDim + d < outputSize dims := hrange.queryElement_lt hd
  have hold : (Fault.index (table (outputSize dims) f) (rowIndex dims b h i * dims.headDim + d) :
      Except (Fault ReferenceAttentionError) F) =
        .ok (f (rowIndex dims b h i * dims.headDim + d)) :=
    index_of_getElem? (getElem?_table f ho)
  rw [weightStep, usizeAdd_of_lt (hv.trans shapes.k_lt), Except.ok_bind,
    index_getD (hv.trans_eq shapes.v_length.symm) 0, Except.ok_bind,
    usizeAdd_of_lt (ho.trans shapes.q_lt), Except.ok_bind, hold, Except.ok_bind, set_table, hrow]
  rfl

omit [Sub F] [Div F] [FloatFunctions F] in
/-- The innermost loop of the output adds one weighted value row. -/
theorem weightLoop_table (hj : j < dims.kvLen) (weight : F) (f : ℕ → F) :
    (List.range dims.headDim).foldlM (weightStep v weight
        (((b * dims.kvHeads + kvHead dims h) * dims.kvLen + j) * dims.headDim)
        (rowIndex dims b h i * dims.headDim)) (table (outputSize dims) f) =
      .ok (table (outputSize dims) (replaceRow dims.headDim (rowIndex dims b h i) dims.headDim
        (fun d => f (rowIndex dims b h i * dims.headDim + d) + weight * row.value j d) f)) := by
  have hloop := Except.foldlM_range_eq (weightStep v weight
    (((b * dims.kvHeads + kvHead dims h) * dims.kvLen + j) * dims.headDim)
    (rowIndex dims b h i * dims.headDim))
    (fun columns => table (outputSize dims)
      (replaceRow dims.headDim (rowIndex dims b h i) columns
        (fun d => f (rowIndex dims b h i * dims.headDim + d) + weight * row.value j d) f))
    dims.headDim
  rw [replaceRow_zero] at hloop
  refine hloop fun d hd => ?_
  rw [weightStep_table shapes hrange hrow hj hd, replaceRow_of_le le_rfl, replaceRow_succ]

/-- The third loop writes the output of the row over zeros. -/
theorem valueLoop_table {weights : List F} {f : ℕ → F} (hlength : weights.length = dims.kvLen)
    (hweights : ∀ j < row.keys, weights[j]? = some (row.expScore j))
    (hzero : ∀ d < dims.headDim, f (rowIndex dims b h i * dims.headDim + d) = 0) :
    (List.range (min row.keys weights.length)).foldlM
        (valueStep dims v b (kvHead dims h) (rowIndex dims b h i * dims.headDim) row.denominator
          weights) (table (outputSize dims) f) =
      .ok (table (outputSize dims)
        (replaceRow dims.headDim (rowIndex dims b h i) dims.headDim row.output f)) := by
  have hkeys : row.keys ≤ dims.kvLen := hrow ▸ shapes.visibleKeys_le hrange.position
  rw [hlength, min_eq_left hkeys]
  have hloop := Except.foldlM_range_eq (valueStep dims v b (kvHead dims h)
    (rowIndex dims b h i * dims.headDim) row.denominator weights)
    (fun n => table (outputSize dims)
      (replaceRow dims.headDim (rowIndex dims b h i) dims.headDim (row.weightedSum n) f)) row.keys
  have hstart : replaceRow dims.headDim (rowIndex dims b h i) dims.headDim (row.weightedSum 0) f =
      f := replaceRow_self fun d hd => (hzero d hd).symm
  rw [hstart] at hloop
  refine hloop fun j hj => ?_
  rw [valueStep, index_of_getElem? (hweights j hj), Except.ok_bind,
    keyBase_eq shapes hrange (hj.trans_le hkeys), Except.ok_bind,
    weightLoop_table shapes hrange hrow (hj.trans_le hkeys), replaceRow_replaceRow]
  refine congrArg (fun entries => Except.ok (table (outputSize dims) entries))
    (replaceRow_congr fun d hd => ?_)
  rw [replaceRow_index hd, RowView.weightedSum, RowView.weightedSum, foldl_range_succ]

end Row

/-! ### All rows -/

section Rows

variable {dims : AttentionDims} {causal : Bool} {scale : F} {q k v : List F}

/-- The elements of the output. -/
def attentionValue (dims : AttentionDims) (causal : Bool) (scale : F) (q k v : List F)
    (b h i d : ℕ) : F :=
  (rowView dims causal scale q k v b h i).output d

/-- The rows below `rows` are written, the others still zero, and the buffer of scores has its
length. -/
structure Finished (dims : AttentionDims) (causal : Bool) (scale : F) (q k v : List F) (rows : ℕ)
    (state : List F × List F) : Prop where
  output : state.1 = table (outputSize dims) fun p =>
    if p < rows * dims.headDim then
      atIndex dims.queryHeads dims.queryLen dims.headDim
        (attentionValue dims causal scale q k v) p
    else 0
  scores : state.2.length = dims.kvLen

/-- Writing one more row. -/
theorem finished_succ {b h i : ℕ} (hrange : RowInRange dims b h i) (p : ℕ) :
    replaceRow dims.headDim (rowIndex dims b h i) dims.headDim
        (attentionValue dims causal scale q k v b h i) (fun p =>
          if p < rowIndex dims b h i * dims.headDim then
            atIndex dims.queryHeads dims.queryLen dims.headDim
              (attentionValue dims causal scale q k v) p
          else 0) p =
      if p < (rowIndex dims b h i + 1) * dims.headDim then
        atIndex dims.queryHeads dims.queryLen dims.headDim
          (attentionValue dims causal scale q k v) p
      else 0 := by
  rw [Nat.succ_mul]
  obtain hp | hp := Nat.lt_or_ge p (rowIndex dims b h i * dims.headDim)
  · rw [replaceRow_of_lt hp, if_pos hp, if_pos (by omega)]
  · obtain ⟨d, rfl⟩ := Nat.exists_eq_add_of_le hp
    obtain hd | hd := Nat.lt_or_ge d dims.headDim
    · rw [replaceRow_index hd, if_pos (by omega)]
      exact (atIndex_tensorIndex hrange.head hrange.position hd).symm
    · rw [replaceRow_of_le hd, if_neg (by omega), if_neg (by omega)]

/-- **One row.** It writes its output when its denominator is good, and fails otherwise. -/
theorem rowStep_settles (shapes : AttentionShapes dims causal q k v) {b h i : ℕ}
    (hrange : RowInRange dims b h i) {state : List F × List F}
    (hstate : Finished dims causal scale q k v (rowIndex dims b h i) state) :
    Except.Settles (rowView dims causal scale q k v b h i).Good (.error .numericalFailure)
      (Finished dims causal scale q k v (rowIndex dims b h i + 1))
      (rowStep dims causal scale q k v (dims.kvLen - dims.queryLen) b h (kvHead dims h) state
        i) := by
  obtain ⟨row, hrow⟩ : ∃ row, row = rowView dims causal scale q k v b h i := ⟨_, rfl⟩
  have hvisible : visibleKeys dims causal i = row.keys := by rw [hrow, rowView]
  have hkeys : row.keys - 1 + 1 = row.keys := by
    rw [← hvisible]
    exact Nat.succ_pred_eq_of_pos shapes.visibleKeys_pos
  have hle : row.keys ≤ dims.kvLen := hvisible ▸ shapes.visibleKeys_le hrange.position
  have hkv := shapes.kvLen_lt
  obtain ⟨scored, hscoreLoop, hscored⟩ := scoreLoop_scored shapes hrange hrow hstate.scores
  obtain ⟨weighted, hexpLoop, hweighted⟩ := expLoop_weighted hscored
  have hslice : ¬scored.1.length < row.keys := by
    rw [hscored.length]
    exact not_lt.2 hle
  rw [rowStep, shapes.maxKey_eq hrange.position, Except.ok_bind, queryBase_eq shapes hrange,
    Except.ok_bind, hvisible, usizeAdd_of_lt (by omega), Except.ok_bind, hkeys, hscoreLoop,
    Except.ok_bind, Except.rejectIf_of_not hslice, Except.ok_bind, hexpLoop, Except.ok_bind]
  have hdenominator : weighted.2 = row.denominator := hweighted.total
  rw [hdenominator, ← hrow]
  by_cases hgood : row.Good
  · refine .inl ⟨hgood, ?_⟩
    have hpass : ¬((!FloatFunctions.isFinite row.denominator) = true ∨
        FloatFunctions.leZero row.denominator = true) := by
      simp [hgood.1, hgood.2]
    have hvalueLoop := valueLoop_table shapes hrange hrow hweighted.length hweighted.weights
      (f := fun p => if p < rowIndex dims b h i * dims.headDim then
        atIndex dims.queryHeads dims.queryLen dims.headDim
          (attentionValue dims causal scale q k v) p
        else 0) fun d _ => if_neg (by omega)
    refine ⟨_, by rw [Except.rejectIf_of_not hpass, Except.ok_bind, Except.ok_bind, hstate.output,
      hvalueLoop]; rfl, ?_, hweighted.length⟩
    have hvalue : attentionValue dims causal scale q k v b h i = row.output := by
      rw [hrow]
      rfl
    refine table_congr fun p _ => ?_
    rw [← finished_succ hrange, hvalue]
  · refine .inr ⟨hgood, ?_⟩
    have hfail : (!FloatFunctions.isFinite row.denominator) = true ∨
        FloatFunctions.leZero row.denominator = true := by
      rw [RowView.Good, not_and_or, Bool.not_eq_true, Bool.not_eq_false] at hgood
      exact hgood.imp_left fun h => by rw [h]; rfl
    rw [Except.rejectIf, if_pos hfail]
    rfl

/-- All rows of one query head. -/
theorem headStep_settles (shapes : AttentionShapes dims causal q k v) {b h : ℕ}
    (hb : b < dims.batch) (hh : h < dims.queryHeads) {state : List F × List F}
    (hstate : Finished dims causal scale q k v (rowIndex dims b h 0) state) :
    Except.Settles
      (∀ i < dims.queryLen, (rowView dims causal scale q k v b h i).Good)
      (.error .numericalFailure)
      (Finished dims causal scale q k v (rowIndex dims b (h + 1) 0))
      (headStep dims causal scale q k v (dims.queryHeads / dims.kvHeads)
        (dims.kvLen - dims.queryLen) b state h) := by
  rw [headStep, usizeDiv_of_ne shapes.groups_ne_zero, Except.ok_bind]
  have hlast : rowIndex dims b (h + 1) 0 = rowIndex dims b h dims.queryLen := by
    rw [rowIndex, rowIndex, Nat.add_zero, ← Nat.add_assoc, Nat.succ_mul]
  rw [hlast]
  exact Except.settles_foldlM_range _
    (S := fun i => Finished dims causal scale q k v (rowIndex dims b h i))
    (fun i hi _ hrow => rowStep_settles shapes ⟨hb, hh, hi⟩ hrow) hstate

/-- All rows of one batch. -/
theorem batchStep_settles (shapes : AttentionShapes dims causal q k v) {b : ℕ}
    (hb : b < dims.batch) {state : List F × List F}
    (hstate : Finished dims causal scale q k v (rowIndex dims b 0 0) state) :
    Except.Settles
      (∀ h < dims.queryHeads, ∀ i < dims.queryLen,
        (rowView dims causal scale q k v b h i).Good)
      (.error .numericalFailure)
      (Finished dims causal scale q k v (rowIndex dims (b + 1) 0 0))
      (batchStep dims causal scale q k v (dims.queryHeads / dims.kvHeads)
        (dims.kvLen - dims.queryLen) state b) := by
  have hlast : rowIndex dims (b + 1) 0 0 = rowIndex dims b dims.queryHeads 0 := by
    rw [rowIndex, rowIndex, Nat.add_zero, Nat.add_zero, Nat.succ_mul, Nat.add_zero]
  rw [batchStep, hlast]
  exact Except.settles_foldlM_range _
    (S := fun h => Finished dims causal scale q k v (rowIndex dims b h 0))
    (fun h hh _ hhead => headStep_settles shapes hb hh hhead) hstate

/-- **All rows.** The kernel yields the tensor of the outputs of the rows when all denominators are
good, and fails otherwise. -/
theorem attentionKernel_settles (shapes : AttentionShapes dims causal q k v) (scale : F) :
    Except.Settles
      (∀ b < dims.batch, ∀ h < dims.queryHeads, ∀ i < dims.queryLen,
        (rowView dims causal scale q k v b h i).Good)
      (.error .numericalFailure)
      (fun output => output = tensor dims.batch dims.queryHeads dims.queryLen dims.headDim
        (attentionValue dims causal scale q k v))
      (attentionKernel dims causal scale q k v (outputSize dims)) := by
  have hstart : Finished dims causal scale q k v (rowIndex dims 0 0 0)
      (List.replicate (outputSize dims) 0, List.replicate dims.kvLen 0) := by
    refine ⟨?_, List.length_replicate⟩
    rw [← table_const]
    exact table_congr fun p _ => (if_neg (by simp [rowIndex])).symm
  have hloop := Except.settles_foldlM_range
    (batchStep dims causal scale q k v (dims.queryHeads / dims.kvHeads)
      (dims.kvLen - dims.queryLen))
    (S := fun b => Finished dims causal scale q k v (rowIndex dims b 0 0))
    (fun b hb _ hbatch => batchStep_settles shapes hb hbatch) hstart
  rw [attentionKernel, usizeDiv_of_ne shapes.kvHeads_pos.ne', Except.ok_bind]
  dsimp only
  rcases hloop with ⟨hgood, state, hok, hfinished⟩ | ⟨hbad, herror⟩
  · refine .inl ⟨hgood, state.1, by rw [hok]; rfl, hfinished.output.trans ?_⟩
    refine table_congr fun p hp => if_pos ?_
    rwa [rowIndex, Nat.add_zero, Nat.add_zero]
  · exact .inr ⟨hbad, by rw [herror]; rfl⟩

end Rows

end RiftGPU.Attention
