import RiftGPU.Attention.ReferenceOutput

/-!
# Locality of the reference attention

A row of the output depends on its own row of Q and on the visible rows of K and V of its group
alone. Nothing leaks from other rows, heads, batches or masked positions. A causal call on the last
query rows only, as a decoder makes it, therefore yields the last rows of the output of the whole
call. The statements are about arbitrary arithmetic.

## Main definitions

* `Attention.RowView.Agrees`: two rows read the same.

## Main results

* `Attention.output_row_local`: what an output row depends on.
* `Attention.decode_agrees_with_prefill`: the last query rows alone.
-/

namespace RiftGPU.Attention

open RowMajor

variable {F : Type}

/-- Two rows read the same elements. -/
structure RowView.Agrees (row row' : RowView F) : Prop where
  dim : row.dim = row'.dim
  scale : row.scale = row'.scale
  keys : row.keys = row'.keys
  query : ∀ d < row.dim, row.query d = row'.query d
  key : ∀ j < row.keys, ∀ d < row.dim, row.key j d = row'.key j d
  value : ∀ j < row.keys, ∀ d < row.dim, row.value j d = row'.value j d

section Arithmetic

variable [Zero F] [Add F] [Sub F] [Mul F] [Div F] [FloatFunctions F]

namespace RowView.Agrees

variable {row row' : RowView F}

omit [Sub F] [Div F] [FloatFunctions F] in
theorem score_eq (h : row.Agrees row') {j : ℕ} (hj : j < row.keys) :
    row.score j = row'.score j := by
  rw [RowView.score, RowView.score, RowView.dot, RowView.dot, ← h.scale, ← h.dim]
  congr 1
  refine List.foldl_ext _ _ _ fun dot d hd => ?_
  rw [List.mem_range] at hd
  rw [h.query d hd, h.key j hj d hd]

omit [Div F] in
theorem expScore_eq (h : row.Agrees row') {j : ℕ} (hj : j < row.keys) :
    row.expScore j = row'.expScore j := by
  have hmax : row.maxScore row.keys = row'.maxScore row'.keys := by
    rw [RowView.maxScore, RowView.maxScore, ← h.keys]
    refine List.foldl_ext _ _ _ fun best l hl => ?_
    rw [h.score_eq (List.mem_range.1 hl)]
  rw [RowView.expScore, RowView.expScore, h.score_eq hj, hmax]

omit [Div F] in
theorem denominator_eq (h : row.Agrees row') : row.denominator = row'.denominator := by
  rw [RowView.denominator, RowView.denominator, RowView.expSum, RowView.expSum, ← h.keys]
  refine List.foldl_ext _ _ _ fun total j hj => ?_
  rw [h.expScore_eq (List.mem_range.1 hj)]

/-- Rows that read the same have the same output. -/
theorem output_eq (h : row.Agrees row') {d : ℕ} (hd : d < row.dim) :
    row.output d = row'.output d := by
  rw [RowView.output, RowView.output, RowView.weightedSum, RowView.weightedSum, ← h.keys]
  refine List.foldl_ext _ _ _ fun total j hj => ?_
  rw [List.mem_range] at hj
  rw [h.expScore_eq hj, h.denominator_eq, h.value j hj d hd]

omit [Div F] in
theorem good_iff (h : row.Agrees row') : row.Good ↔ row'.Good := by
  rw [RowView.Good, RowView.Good, h.denominator_eq]

end RowView.Agrees

end Arithmetic

/-! ### What an output row depends on -/

/-- The index of an element of Q or of the output. -/
def AttentionDims.queryIndex (dims : AttentionDims) (b h i d : ℕ) : ℕ :=
  tensorIndex dims.queryHeads dims.queryLen dims.headDim b h i d

/-- The index of an element of K or V in the group of a query head. -/
def AttentionDims.keyIndex (dims : AttentionDims) (b h j d : ℕ) : ℕ :=
  tensorIndex dims.kvHeads dims.kvLen dims.headDim b (h / (dims.queryHeads / dims.kvHeads)) j d

/-! ### A call on integers -/

/-- Floats read as integers, where the exponential is to base two and rounded down. -/
instance : FloatFunctions ℤ where
  ofBits := F32.truncate
  negInfinity := -0x10000000000000000
  max := max
  exp z := if z < 0 then 0 else 2 ^ z.toNat
  isFinite _ := true
  leZero z := decide (z ≤ 0)

/-- A causal control with two query heads over one key head, two queries and three keys. -/
def causalControl : AttentionControl where
  flags := flagCausal
  dataType := .f32
  batch := 1#32
  queryHeads := 2#32
  kvHeads := 1#32
  queryLen := 2#32
  kvLen := 3#32
  headDim := 1#32
  scale := 0x3f800000#32
  deviceIndex := 0#32

section Local

variable [Zero F] [Add F] [Sub F] [Mul F] [Div F] [FloatFunctions F]

/-- **Locality.** In two calls with the same control and limits that both succeed, an output row is
the same when the calls agree on its row of Q and on the visible rows of K and V of its group. -/
theorem output_row_local (control : AttentionControl) (limits : AttentionLimits)
    (q k v q' k' v' output output' : List F)
    (hok : executeAttentionF32 control q k v limits = .ok output)
    (hok' : executeAttentionF32 control q' k' v' limits = .ok output')
    (b h i : ℕ) (hb : b < control.dims.batch) (hh : h < control.dims.queryHeads)
    (hi : i < control.dims.queryLen)
    (hq : ∀ d < control.dims.headDim,
      q[control.dims.queryIndex b h i d]? = q'[control.dims.queryIndex b h i d]?)
    (hkv : ∀ j < control.dims.kvLen,
      (control.isCausal = true → j ≤ control.dims.kvLen - control.dims.queryLen + i) →
        ∀ d < control.dims.headDim,
          k[control.dims.keyIndex b h j d]? = k'[control.dims.keyIndex b h j d]? ∧
            v[control.dims.keyIndex b h j d]? = v'[control.dims.keyIndex b h j d]?) :
    ∀ d < control.dims.headDim,
      output[control.dims.queryIndex b h i d]? = output'[control.dims.queryIndex b h i d]? := by
  intro d hd
  obtain ⟨haccepts, -, rfl⟩ := executeAttentionF32_eq_ok_iff.1 hok
  obtain ⟨-, -, rfl⟩ := executeAttentionF32_eq_ok_iff.1 hok'
  have hvisible : ∀ j < visibleKeys control.dims control.isCausal i,
      ∀ d < control.dims.headDim,
        k[control.dims.keyIndex b h j d]? = k'[control.dims.keyIndex b h j d]? ∧
          v[control.dims.keyIndex b h j d]? = v'[control.dims.keyIndex b h j d]? := by
    intro j hj
    refine hkv j (hj.trans_le (haccepts.shapes.visibleKeys_le hi)) fun hcausal => ?_
    rw [visibleKeys, if_pos hcausal] at hj
    exact Nat.le_of_lt_succ hj
  have hagrees : (rowView control.dims control.isCausal (FloatFunctions.ofBits control.scale) q k v
      b h i).Agrees (rowView control.dims control.isCausal (FloatFunctions.ofBits control.scale) q'
        k' v' b h i) := by
    refine ⟨rfl, rfl, rfl, fun d hd => ?_, fun j hj d hd => ?_, fun j hj d hd => ?_⟩
    · exact congrArg (Option.getD · 0) (hq d hd)
    · exact congrArg (Option.getD · 0) (hvisible j hj d hd).1
    · exact congrArg (Option.getD · 0) (hvisible j hj d hd).2
  rw [AttentionDims.queryIndex, getElem?_tensor hb hh hi hd, getElem?_tensor hb hh hi hd,
    attentionValue, attentionValue, hagrees.output_eq hd]

/-- The first row of the first head does not see the third key, nor the other rows of Q. -/
theorem output_row_local_masked :
    ([6, 7, 6, 5] : List ℤ)[causalControl.dims.queryIndex 0 0 0 0]? =
      ([6, 17, 6, 17] : List ℤ)[causalControl.dims.queryIndex 0 0 0 0]? :=
  output_row_local causalControl .default [1, 2, 3, -4] [1, 2, 3] [5, 6, 7] [1, 9, 9, 9] [1, 2, 9]
    [5, 6, 17] [6, 7, 6, 5] [6, 17, 6, 17] (by decide +kernel) (by decide +kernel) 0 0 0 (by decide)
    (by decide) (by decide) (by decide) (by decide) 0 (by decide)

end Local

/-! ### Decoding -/

/-- The control of a call on fewer query rows. -/
def AttentionControl.withQueryLen (control : AttentionControl) (rows : BitVec 32) :
    AttentionControl :=
  { control with queryLen := rows }

section Decode

variable [Zero F]

/-- The last query rows of every head of Q or of the output. -/
def AttentionControl.lastQueryRows (control : AttentionControl) (rows : BitVec 32) (xs : List F) :
    List F :=
  lastRows control.dims.batch control.dims.queryHeads control.dims.queryLen control.dims.headDim
    rows.toNat xs

variable {control : AttentionControl} {rows : BitVec 32} {q k v output : List F}
  {limits : AttentionLimits}

/-- A call on fewer, but at least one, of the query rows is accepted. -/
theorem Accepts.withQueryLen (haccepts : Accepts control q k v limits) (hpos : 0 < rows.toNat)
    (hle : rows.toNat ≤ control.dims.queryLen) :
    Accepts (control.withQueryLen rows) (control.lastQueryRows rows q) k v limits := by
  have hvalid := haccepts.valid
  have hpositive := hvalid.positive
  have helements : (control.withQueryLen rows).dims.queryElements ≤
      control.dims.queryElements :=
    Nat.mul_le_mul_right _ (Nat.mul_le_mul_left _ hle)
  have hscores : (control.withQueryLen rows).dims.scoreElements ≤
      control.dims.scoreElements :=
    Nat.mul_le_mul_right _ (Nat.mul_le_mul_left _ hle)
  exact
    { valid :=
        { hvalid with
          positive := { hpositive with queryLen := hpos }
          causal_le := fun hcausal => hle.trans (hvalid.causal_le hcausal)
          query_lt := (Nat.mul_le_mul_right _ helements).trans_lt hvalid.query_lt }
      dataType := haccepts.dataType
      q_length := length_lastRows q
      k_length := haccepts.k_length
      v_length := haccepts.v_length
      output_le := helements.trans haccepts.output_le
      scores_le := hscores.trans haccepts.scores_le }

/-- A row of the call on the last query rows reads the same as its row of the whole call. -/
theorem agrees_withQueryLen (haccepts : Accepts control q k v limits)
    (hcausal : control.isCausal = true) (hle : rows.toNat ≤ control.dims.queryLen) (scale : F)
    {b h i : ℕ} (hb : b < control.dims.batch) (hh : h < control.dims.queryHeads)
    (hi : i < rows.toNat) :
    (rowView (control.withQueryLen rows).dims true scale (control.lastQueryRows rows q) k v b h
      i).Agrees (rowView control.dims true scale q k v b h
        (control.dims.queryLen - rows.toNat + i)) := by
  have hcausal_le := haccepts.valid.causal_le hcausal
  refine ⟨rfl, rfl, ?_, fun d hd => ?_, fun _ _ _ _ => rfl, fun _ _ _ _ => rfl⟩
  · change control.dims.kvLen - rows.toNat + i + 1 = control.dims.kvLen - control.dims.queryLen +
      (control.dims.queryLen - rows.toNat + i) + 1
    omega
  · exact getD_lastRows hb hh hi hd q

variable [Add F] [Sub F] [Mul F] [Div F] [FloatFunctions F]

/-- **Decoding.** When a causal call succeeds, the call on the last query rows of every head with
the same K and V succeeds as well, and yields the last rows of the output. -/
theorem decode_agrees_with_prefill (control : AttentionControl) (rows : BitVec 32)
    (q k v output : List F) (limits : AttentionLimits) (hcausal : control.isCausal = true)
    (hok : executeAttentionF32 control q k v limits = .ok output) (hpos : 1 ≤ rows.toNat)
    (hle : rows.toNat ≤ control.dims.queryLen) :
    executeAttentionF32 (control.withQueryLen rows) (control.lastQueryRows rows q) k v limits =
      .ok (control.lastQueryRows rows output) := by
  obtain ⟨haccepts, hgood, rfl⟩ := executeAttentionF32_eq_ok_iff.1 hok
  rw [executeAttentionF32_eq_ok_iff]
  have hcausal' : (control.withQueryLen rows).isCausal = true := hcausal
  rw [hcausal] at hgood
  rw [hcausal', hcausal]
  refine ⟨haccepts.withQueryLen hpos hle, fun b hb h hh i hi => ?_, ?_⟩
  · exact (agrees_withQueryLen haccepts hcausal hle _ hb hh hi).good_iff.2
      (hgood b hb h hh _ (by have : i < rows.toNat := hi; omega))
  · rw [AttentionControl.lastQueryRows, lastRows_tensor hle]
    refine tensor_congr fun b hb h hh i hi d hd => ?_
    exact ((agrees_withQueryLen haccepts hcausal hle _ hb hh hi).output_eq hd).symm

/-- The last of two query rows of either head. -/
theorem decode_agrees_with_prefill_last :
    executeAttentionF32 (causalControl.withQueryLen 1#32)
        (causalControl.lastQueryRows 1#32 ([1, 2, 3, -4] : List ℤ)) [1, 2, 3] [5, 6, 7] .default =
      .ok (causalControl.lastQueryRows 1#32 [6, 7, 6, 5]) :=
  decode_agrees_with_prefill causalControl 1#32 [1, 2, 3, -4] [1, 2, 3] [5, 6, 7] [6, 7, 6, 5]
    .default (by decide) (by decide +kernel) (by decide) (by decide)

end Decode

end RiftGPU.Attention
