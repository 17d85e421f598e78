import RiftGPU.Attention.Causality
import RiftGPU.Reals.Softmax

/-!
# The reference attention in exact arithmetic

With floats read as real numbers and minus infinity, and with exact arithmetic, the reference
attention never fails on a denominator, and its output is the scaled dot-product attention: the
mean of the visible value rows, weighted by the softmax of the scaled scores.

## Main definitions

* `F32.toReal`: the real number of a bit pattern.
* `Attention.scaledScore`, `Attention.softmaxAttention`: the attention that is computed.

## Main results

* `Attention.executeAttentionF32_eq_softmaxAttention`.
-/

/-- The number of a finite bit pattern. -/
noncomputable def F32.toReal (x : F32) : ℝ :=
  let magnitude : ℝ :=
    if x.exponent = 0#32 then x.fraction.toNat * 2 ^ (-149 : ℤ)
    else (0x800000 + x.fraction.toNat) * 2 ^ ((x.exponent.toNat : ℤ) - 150)
  if x.msb then -magnitude else magnitude

namespace RiftGPU.Attention

open Finset RowMajor Softmax

open Classical in
/-- Exact arithmetic on real numbers and the two infinities. -/
noncomputable instance : FloatFunctions EReal where
  ofBits x := (x.toReal : ℝ)
  negInfinity := ⊥
  max := max
  exp x := (EReal.exp x : ENNReal)
  isFinite x := decide (x ≠ ⊥ ∧ x ≠ ⊤)
  leZero x := decide (x ≤ 0)

/-! ### One row -/

namespace RowView

/-- The row with its numbers read as extended reals. -/
noncomputable def toEReal (row : RowView ℝ) : RowView EReal where
  dim := row.dim
  scale := row.scale
  keys := row.keys
  query d := row.query d
  key j d := row.key j d
  value j d := row.value j d

/-- The scaled dot product with a key row. -/
def scaledScore (row : RowView ℝ) (j : ℕ) : ℝ :=
  row.scale * ∑ d ∈ range row.dim, row.query d * row.key j d

/-- The mean of the value rows, weighted by the softmax of the scores. -/
noncomputable def softmaxOutput (row : RowView ℝ) (d : ℕ) : ℝ :=
  ∑ j ∈ range row.keys, softmax row.scaledScore (range row.keys) j * row.value j d

variable (row : RowView ℝ)

theorem score_toEReal (j : ℕ) : row.toEReal.score j = (row.scaledScore j : ℝ) := by
  have hdot : row.toEReal.dot j =
      ((∑ d ∈ range row.dim, row.query d * row.key j d : ℝ) : EReal) :=
    foldl_add_coe (fun d => row.query d * row.key j d) row.dim
  rw [score, hdot, scaledScore, mul_comm, EReal.coe_mul]
  rfl

/-- The maximum of the visible scores is a number, and the exponentials are those of the
differences to it. -/
theorem exists_expScore_toEReal (hkeys : 0 < row.keys) :
    ∃ m : ℝ, ∀ j, row.toEReal.expScore j = (Real.exp (row.scaledScore j - m) : ℝ) := by
  obtain ⟨m, hm⟩ := exists_foldl_max_coe row.scaledScore hkeys
  refine ⟨m, fun j => ?_⟩
  have hmax : row.toEReal.maxScore row.toEReal.keys = m := by
    rw [← hm, maxScore]
    refine List.foldl_ext _ _ _ fun best j _ => ?_
    rw [score_toEReal]
    rfl
  rw [expScore, hmax, score_toEReal, ← EReal.coe_sub]
  exact coe_exp_coe _

/-- The row passes the check of its denominator and its output is the softmax mean. -/
theorem toEReal_output (hkeys : 0 < row.keys) :
    row.toEReal.Good ∧ ∀ d, row.toEReal.output d = (row.softmaxOutput d : ℝ) := by
  obtain ⟨m, hexp⟩ := row.exists_expScore_toEReal hkeys
  have hdenominator : row.toEReal.denominator =
      ((∑ j ∈ range row.keys, Real.exp (row.scaledScore j - m) : ℝ) : EReal) := by
    rw [← foldl_add_coe]
    refine List.foldl_ext _ _ _ fun total j _ => ?_
    rw [hexp]
  have hpos : 0 < ∑ j ∈ range row.keys, Real.exp (row.scaledScore j - m) :=
    sum_exp_pos (fun j => row.scaledScore j - m) (nonempty_range_iff.2 hkeys.ne')
  refine ⟨⟨?_, ?_⟩, fun d => ?_⟩
  · rw [hdenominator]
    exact decide_eq_true ⟨EReal.coe_ne_bot _, EReal.coe_ne_top _⟩
  · rw [hdenominator]
    exact decide_eq_false (not_le.2 (EReal.coe_pos.2 hpos))
  · rw [softmaxOutput, ← foldl_add_coe]
    refine List.foldl_ext _ _ _ fun total j _ => ?_
    rw [hexp, hdenominator, ← EReal.coe_div, EReal.coe_mul,
      ← softmax_sub_const row.scaledScore (range row.keys) m j]
    rfl

end RowView

/-! ### The output -/

/-- A buffer of numbers read as extended reals. -/
noncomputable def toEReal (xs : List ℝ) : List EReal := xs.map Real.toEReal

theorem getD_toEReal (xs : List ℝ) (p : ℕ) : (toEReal xs).getD p 0 = (xs.getD p 0 : ℝ) := by
  rw [toEReal, ← EReal.coe_zero, List.getD_map]

theorem rowView_toEReal (dims : AttentionDims) (causal : Bool) (scale : ℝ) (q k v : List ℝ)
    (b h i : ℕ) :
    rowView dims causal (scale : EReal) (toEReal q) (toEReal k) (toEReal v) b h i =
      (rowView dims causal scale q k v b h i).toEReal := by
  simp only [rowView, RowView.toEReal, getD_toEReal]

/-- The last key that a query position sees. -/
def lastKey (control : AttentionControl) (i : ℕ) : ℕ :=
  if control.isCausal then control.dims.kvLen - control.dims.queryLen + i
  else control.dims.kvLen - 1

/-- The scaled dot product of a query row with a key row of its group. -/
noncomputable def scaledScore (control : AttentionControl) (q k : List ℝ) (b h i j : ℕ) : ℝ :=
  control.scale.toReal * ∑ d ∈ range control.dims.headDim,
    q.getD (control.dims.queryIndex b h i d) 0 * k.getD (control.dims.keyIndex b h j d) 0

/-- Scaled dot-product attention: the softmax of the scores of the visible keys weights their value
rows. -/
noncomputable def softmaxAttention (control : AttentionControl) (q k v : List ℝ)
    (b h i d : ℕ) : ℝ :=
  ∑ j ∈ range (lastKey control i + 1),
    Real.exp (scaledScore control q k b h i j) /
      (∑ l ∈ range (lastKey control i + 1), Real.exp (scaledScore control q k b h i l)) *
        v.getD (control.dims.keyIndex b h j d) 0

theorem visibleKeys_eq_lastKey {control : AttentionControl} (hpos : 0 < control.dims.kvLen)
    (i : ℕ) : visibleKeys control.dims control.isCausal i = lastKey control i + 1 := by
  rw [visibleKeys, lastKey]
  split_ifs
  · rfl
  · exact (Nat.succ_pred_eq_of_pos hpos).symm

/-- **The oracle.** In exact arithmetic every call with a valid control, inputs of the expected
lengths and limits that are not exceeded succeeds with scaled dot-product attention. -/
theorem executeAttentionF32_eq_softmaxAttention (control : AttentionControl) (q k v : List ℝ)
    (limits : AttentionLimits) (hvalid : control.validate = .ok ())
    (hdataType : control.dataType = .f32) (hq : q.length = control.dims.queryElements)
    (hk : k.length = control.dims.keyElements) (hv : v.length = control.dims.keyElements)
    (houtput : control.dims.queryElements ≤ limits.maxTensorElements.toNat)
    (hscores : control.dims.scoreElements ≤ limits.maxScoreElements.toNat) :
    ∃ output : List ℝ,
      executeAttentionF32 control (toEReal q) (toEReal k) (toEReal v) limits =
          .ok (toEReal output) ∧
        output.length = control.dims.queryElements ∧
          ∀ b < control.dims.batch, ∀ h < control.dims.queryHeads, ∀ i < control.dims.queryLen,
            ∀ d < control.dims.headDim,
              output[control.dims.queryIndex b h i d]? =
                some (softmaxAttention control q k v b h i d) := by
  have hvalid := AttentionControl.validate_eq_ok_iff.1 hvalid
  have haccepts : Accepts control (toEReal q) (toEReal k) (toEReal v) limits :=
    ⟨hvalid, hdataType, by rw [toEReal, List.length_map, hq], by rw [toEReal, List.length_map, hk],
      by rw [toEReal, List.length_map, hv], houtput, hscores⟩
  have hrow (b h i : ℕ) := (rowView control.dims control.isCausal control.scale.toReal q k v b h
    i).toEReal_output haccepts.shapes.visibleKeys_pos
  refine ⟨tensor control.dims.batch control.dims.queryHeads control.dims.queryLen
    control.dims.headDim (softmaxAttention control q k v), ?_, length_tensor,
    fun b hb h hh i hi d hd => getElem?_tensor hb hh hi hd⟩
  rw [executeAttentionF32_eq_ok_iff]
  refine ⟨haccepts, fun b _ h _ i _ => ?_, ?_⟩
  · rw [show FloatFunctions.ofBits control.scale = ((control.scale.toReal : ℝ) : EReal) from rfl,
      rowView_toEReal]
    exact (hrow b h i).1
  · rw [toEReal, map_tensor]
    refine tensor_congr fun b _ h _ i _ d _ => ?_
    rw [attentionValue,
      show FloatFunctions.ofBits control.scale = ((control.scale.toReal : ℝ) : EReal) from rfl,
      rowView_toEReal, (hrow b h i).2 d, RowView.softmaxOutput, softmaxAttention,
      ← visibleKeys_eq_lastKey hvalid.positive.kvLen i]
    rfl

/-- A causal control whose only query sees both of two keys. -/
def twoKeysControl : AttentionControl where
  flags := flagCausal
  dataType := .f32
  batch := 1#32
  queryHeads := 1#32
  kvHeads := 1#32
  queryLen := 1#32
  kvLen := 2#32
  headDim := 1#32
  scale := 0x3f000000#32
  deviceIndex := 0#32

/-- One query and two keys. -/
theorem executeAttentionF32_eq_softmaxAttention_twoKeys :
    ∃ output : List ℝ,
      executeAttentionF32 twoKeysControl (toEReal [1]) (toEReal [0, 1]) (toEReal [2, 4]) .default =
          .ok (toEReal output) ∧
        output.length = 1 ∧
          ∀ b < 1, ∀ h < 1, ∀ i < 1, ∀ d < 1,
            output[twoKeysControl.dims.queryIndex b h i d]? =
              some (softmaxAttention twoKeysControl [1] [0, 1] [2, 4] b h i d) :=
  executeAttentionF32_eq_softmaxAttention twoKeysControl [1] [0, 1] [2, 4] .default (by decide) rfl
    rfl rfl rfl (by decide) (by decide)

end RiftGPU.Attention
