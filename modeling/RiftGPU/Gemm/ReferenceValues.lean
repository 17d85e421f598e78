import Mathlib.Algebra.BigOperators.Fin
import RiftGPU.Gemm.Reference
import RiftGPU.RowMajor.Matrix
import RiftGPU.Word.Index

/-!
# What the reference kernel computes

The triple loop of the reference kernel never panics, and every entry of its output is the sum of
products that the loop adds up in the order of the depth index, starting from the scaled entry
of C. The statements are about arbitrary arithmetic. Over a commutative semiring, where arithmetic
is exact, the output is the matrix `alpha * A * B + beta * C`.

## Main definitions

* `Gemm.gemmValue`: an entry of the output.
* `Gemm.KernelShapes`: the buffers have the sizes of their matrices, which fit 64 bits.
* `Gemm.gemmMatrix`: the output in exact arithmetic.

## Main results

* `Gemm.gemmKernel_eq_ok`: the kernel yields the table of the entries.
* `Gemm.gemmValue_eq_gemmMatrix`: the entries in exact arithmetic.
-/

namespace RiftGPU.Gemm

open Finset RowMajor FloatCodec

variable {F : Type} [Add F] [Mul F] [FloatCodec F]

/-- The value of an entry after the first `depths` products were added to it. -/
def accumulate (alpha : F) (a b : List F32) (n k row column : ℕ) (start : F) (depths : ℕ) : F :=
  (List.range depths).foldl (fun total depth =>
    total + alpha * ofBits (a.getD (row * k + depth) 0#32) *
      ofBits (b.getD (depth * n + column) 0#32)) start

/-- The buffers of A and B have the sizes of their matrices, and all sizes fit 64 bits. -/
structure KernelShapes (m n k : ℕ) (a b : List F32) : Prop where
  a_length : a.length = m * k
  b_length : b.length = k * n
  a_lt : m * k < 2 ^ 64
  b_lt : k * n < 2 ^ 64
  c_lt : m * n < 2 ^ 64

/-! ### Steps that do not panic -/

theorem usizeAdd_of_lt {a b : ℕ} (h : a + b < 2 ^ 64) : usizeAdd a b = .ok (a + b) :=
  Fault.usizeAdd_of_lt h

theorem usizeMul_of_lt {a b : ℕ} (h : a * b < 2 ^ 64) : usizeMul a b = .ok (a * b) :=
  Fault.usizeMul_of_lt h

/-! ### The loops -/

variable {m n k : ℕ} {a b : List F32}

/-- One iteration of the innermost loop updates one entry. -/
theorem columnStep_table (shapes : KernelShapes m n k a b) {row depth column : ℕ} (hrow : row < m)
    (hdepth : depth < k) (hcolumn : column < n) (scaledA : F) (f : ℕ → F) :
    columnStep scaledA b (depth * n) (row * n) (table (m * n) f) column =
      .ok (table (m * n) (Function.update f (row * n + column)
        (f (row * n + column) + scaledA * ofBits (b.getD (depth * n + column) 0#32)))) := by
  have hb : depth * n + column < k * n := index_lt hdepth hcolumn
  have hc : row * n + column < m * n := index_lt hrow hcolumn
  rw [columnStep, usizeAdd_of_lt (hb.trans shapes.b_lt), Except.ok_bind,
    Fault.index_getD (by rwa [shapes.b_length]) 0#32, Except.ok_bind,
    usizeAdd_of_lt (hc.trans shapes.c_lt), Except.ok_bind,
    Fault.index_of_getElem? (getElem?_table f hc), Except.ok_bind, set_table]
  rfl

/-- The innermost loop adds one product to every entry of a row. -/
theorem columnLoop_table (shapes : KernelShapes m n k a b) {row depth : ℕ} (hrow : row < m)
    (hdepth : depth < k) (scaledA : F) (f : ℕ → F) :
    (List.range n).foldlM (columnStep scaledA b (depth * n) (row * n)) (table (m * n) f) =
      .ok (table (m * n) (replaceRow n row n (fun column =>
        f (row * n + column) + scaledA * ofBits (b.getD (depth * n + column) 0#32)) f)) := by
  set g : ℕ → F := fun column =>
    f (row * n + column) + scaledA * ofBits (b.getD (depth * n + column) 0#32)
  have hloop := Except.foldlM_range_eq (columnStep scaledA b (depth * n) (row * n))
    (fun columns => table (m * n) (replaceRow n row columns g f)) n
  rw [replaceRow_zero] at hloop
  refine hloop fun column hcolumn => ?_
  rw [columnStep_table shapes hrow hdepth hcolumn, replaceRow_of_le le_rfl, replaceRow_succ]

theorem accumulate_zero (alpha : F) (a b : List F32) (n k row column : ℕ) (start : F) :
    accumulate alpha a b n k row column start 0 = start := rfl

theorem accumulate_succ (alpha : F) (a b : List F32) (n k row column : ℕ) (start : F) (depth : ℕ) :
    accumulate alpha a b n k row column start (depth + 1) =
      accumulate alpha a b n k row column start depth +
        alpha * ofBits (a.getD (row * k + depth) 0#32) *
          ofBits (b.getD (depth * n + column) 0#32) := by
  rw [accumulate, List.range_succ, List.foldl_append]
  rfl

/-- The middle loop adds all products to every entry of a row. -/
theorem depthLoop_table (shapes : KernelShapes m n k a b) {row : ℕ} (hrow : row < m) (alpha : F)
    (f : ℕ → F) :
    (List.range k).foldlM (depthStep alpha a b n (row * k) (row * n)) (table (m * n) f) =
      .ok (table (m * n) (replaceRow n row n (fun column =>
        accumulate alpha a b n k row column (f (row * n + column)) k) f)) := by
  have hloop := Except.foldlM_range_eq (depthStep alpha a b n (row * k) (row * n))
    (fun depths => table (m * n) (replaceRow n row n (fun column =>
      accumulate alpha a b n k row column (f (row * n + column)) depths) f)) k
  rw [replaceRow_self fun _ _ => accumulate_zero ..] at hloop
  refine hloop fun depth hdepth => ?_
  have ha : row * k + depth < m * k := index_lt hrow hdepth
  have hb : depth * n ≤ k * n := Nat.mul_le_mul_right n hdepth.le
  rw [depthStep, usizeAdd_of_lt (ha.trans shapes.a_lt), Except.ok_bind,
    Fault.index_getD (by rwa [shapes.a_length]) 0#32, Except.ok_bind,
    usizeMul_of_lt (hb.trans_lt shapes.b_lt), Except.ok_bind,
    columnLoop_table shapes hrow hdepth, replaceRow_replaceRow]
  refine congrArg (fun entries => Except.ok (table (m * n) entries)) (replaceRow_congr ?_)
  intro column hcolumn
  rw [replaceRow_index hcolumn, accumulate_succ]

/-- The outermost loop adds all products to every entry. -/
theorem rowLoop_table (shapes : KernelShapes m n k a b) (alpha : F) (f : ℕ → F) :
    (List.range m).foldlM (rowStep alpha a b n k) (table (m * n) f) =
      .ok (table (m * n) fun p => accumulate alpha a b n k (p / n) (p % n) (f p) k) := by
  -- The rows below `rows` are finished, the others are untouched.
  set state : ℕ → ℕ → F := fun rows p =>
    if p < rows * n then accumulate alpha a b n k (p / n) (p % n) (f p) k else f p
  have hloop := Except.foldlM_range_eq (rowStep alpha a b n k)
    (fun rows => table (m * n) (state rows)) m
  have hstart : state 0 = f := by
    funext p
    rw [show state 0 p = if p < 0 * n then _ else f p from rfl, Nat.zero_mul,
      if_neg (Nat.not_lt_zero p)]
  have hstop : table (m * n) (state m) =
      table (m * n) fun p => accumulate alpha a b n k (p / n) (p % n) (f p) k :=
    table_congr fun p hp => if_pos hp
  rw [hstart, hstop] at hloop
  refine hloop fun row hrow => ?_
  have ha : row * k ≤ m * k := Nat.mul_le_mul_right k hrow.le
  have hc : row * n ≤ m * n := Nat.mul_le_mul_right n hrow.le
  rw [rowStep, usizeMul_of_lt (ha.trans_lt shapes.a_lt), Except.ok_bind,
    usizeMul_of_lt (hc.trans_lt shapes.c_lt), Except.ok_bind, depthLoop_table shapes hrow]
  refine congrArg (fun entries => Except.ok (table (m * n) entries)) (funext fun p => ?_)
  obtain hp | hp := Nat.lt_or_ge p (row * n)
  · have hp' : p < (row + 1) * n := hp.trans_le (Nat.mul_le_mul_right n (Nat.le_succ row))
    rw [replaceRow_of_lt hp]
    exact (if_pos hp).trans (if_pos hp').symm
  · obtain ⟨column, rfl⟩ := Nat.exists_eq_add_of_le hp
    have hold : state row (row * n + column) = f (row * n + column) := if_neg (not_lt.2 hp)
    obtain hcolumn | hcolumn := Nat.lt_or_ge column n
    · have hp' : row * n + column < (row + 1) * n := index_lt (Nat.lt_succ_self row) hcolumn
      rw [replaceRow_index hcolumn, hold]
      refine ((if_pos hp').trans ?_).symm
      rw [index_div hcolumn, index_mod hcolumn]
    · have hp' : ¬row * n + column < (row + 1) * n := by
        rw [Nat.succ_mul]
        omega
      rw [replaceRow_of_le hcolumn, hold]
      exact (if_neg hp').symm

/-! ### The kernel -/

variable [Zero F] [BEq F]

/-- The value that an entry of the output starts from. -/
def initialValue (beta : F) (c : Option (List F32)) (index : ℕ) : F :=
  match c with
  | some c => if beta != 0 then beta * ofBits (c.getD index 0#32) else 0
  | none => 0

/-- An entry of the output. -/
def gemmValue (alpha beta : F) (n k : ℕ) (a b : List F32) (c : Option (List F32))
    (row column : ℕ) : F :=
  let start := initialValue beta c (row * n + column)
  if alpha != 0 then accumulate alpha a b n k row column start k else start

omit [Add F] in
/-- Before the products are added, the output is the table of the scaled entries of C. -/
theorem scaledC_eq_table (beta : F) {c : Option (List F32)} {size : ℕ}
    (hc : ∀ c' ∈ c, c'.length = size) :
    scaledC beta c size = table size (initialValue beta c) := by
  cases c with
  | none => exact (table_const size 0).symm
  | some c =>
    obtain rfl := hc c rfl
    unfold scaledC initialValue
    dsimp only
    by_cases hbeta : (beta != 0) = true
    · rw [if_pos hbeta, List.drop_eq_nil_of_le (by rw [List.length_replicate]), List.append_nil,
        ← table_const]
      conv_lhs => rw [← table_getD c 0#32, length_table]
      rw [zipWith_table]
      exact table_congr fun p _ => (if_pos hbeta).symm
    · rw [if_neg hbeta, ← table_const]
      exact table_congr fun p _ => (if_neg hbeta).symm

/-- **The kernel.** On buffers of the sizes of their matrices the kernel does not panic, and it
yields the table of the entries. -/
theorem gemmKernel_eq_ok (shapes : KernelShapes m n k a b) (alpha beta : F)
    {c : Option (List F32)} (hc : ∀ c' ∈ c, c'.length = m * n) :
    gemmKernel alpha beta m n k (m * n) a b c =
      .ok (table (m * n) fun p => gemmValue alpha beta n k a b c (p / n) (p % n)) := by
  rw [gemmKernel, scaledC_eq_table beta hc]
  have hvalue (p : ℕ) : gemmValue alpha beta n k a b c (p / n) (p % n) =
      if alpha != 0 then accumulate alpha a b n k (p / n) (p % n) (initialValue beta c p) k
      else initialValue beta c p := by
    rw [gemmValue, Nat.div_add_mod']
  split_ifs with hrun
  · rw [rowLoop_table shapes]
    exact congrArg Except.ok (table_congr fun p _ => ((hvalue p).trans (if_pos hrun.1)).symm)
  · refine congrArg Except.ok (table_congr fun p hp => ?_)
    rw [hvalue]
    split_ifs with halpha
    · -- Without a run some dimension is zero, and there is an entry, so it is the depth.
      have hk : k = 0 := by
        by_contra hk
        refine hrun ⟨halpha, ?_, ?_, hk⟩
        · rintro rfl
          simp at hp
        · rintro rfl
          simp at hp
      rw [hk, accumulate_zero]
    · rfl

/-! ### Exact arithmetic -/

section Exact

variable {R : Type} [CommSemiring R] [FloatCodec R]

theorem accumulate_eq_sum (alpha : R) (a b : List F32) (n k row column : ℕ) (start : R)
    (depths : ℕ) :
    accumulate alpha a b n k row column start depths = start + alpha * ∑ depth ∈ range depths,
      ofBits (a.getD (row * k + depth) 0#32) * ofBits (b.getD (depth * n + column) 0#32) := by
  induction depths with
  | zero => rw [accumulate_zero, sum_range_zero, mul_zero, add_zero]
  | succ depth ih => rw [accumulate_succ, ih, sum_range_succ, mul_add, add_assoc, mul_assoc]

variable [DecidableEq R]

/-- An entry in exact arithmetic, where the products with `alpha = 0` add nothing. -/
theorem gemmValue_eq_sum (alpha beta : R) (n k : ℕ) (a b : List F32) (c : Option (List F32))
    (row column : ℕ) :
    gemmValue alpha beta n k a b c row column =
      alpha * ∑ depth ∈ range k, ofBits (a.getD (row * k + depth) 0#32) *
        ofBits (b.getD (depth * n + column) 0#32) + initialValue beta c (row * n + column) := by
  rw [gemmValue]
  split_ifs with halpha
  · rw [accumulate_eq_sum, add_comm]
  · have hzero : alpha = 0 := by simpa using halpha
    rw [hzero, zero_mul, zero_add]

/-- The numbers that a buffer stores. -/
def entries (R : Type) [FloatCodec R] (buffer : List F32) (p : ℕ) : R :=
  ofBits (buffer.getD p 0#32)

/-- The matrix `alpha * A * B + beta * C` of matrices stored by rows, without C for `beta = 0`. -/
def gemmMatrix (alpha beta : R) (m n k : ℕ) (a b c : List F32) : Matrix (Fin m) (Fin n) R :=
  alpha • (rowMajor m k (entries R a) * rowMajor k n (entries R b)) +
    if beta = 0 then 0 else beta • rowMajor m n (entries R c)

/-- **The kernel in exact arithmetic.** The entries of the output are those of the matrix
`alpha * A * B + beta * C`. -/
theorem gemmValue_eq_gemmMatrix (alpha beta : R) (a b c : List F32) (row : Fin m)
    (column : Fin n) :
    gemmValue alpha beta n k a b (some c) row column =
      gemmMatrix alpha beta m n k a b c row column := by
  have hinitial : initialValue beta (some c) (row * n + column) =
      (if beta = 0 then 0 else beta • rowMajor m n (entries R c) :
        Matrix (Fin m) (Fin n) R) row column := by
    unfold initialValue
    dsimp only
    by_cases hbeta : beta = 0
    · simp [hbeta]
    · simp [hbeta, entries]
  have hproduct : ∑ depth ∈ range k, ofBits (a.getD (row * k + depth) 0#32) *
      ofBits (b.getD (depth * n + column) 0#32) =
      (rowMajor m k (entries R a) * rowMajor k n (entries R b)) row column := by
    rw [Matrix.mul_apply, sum_range]
    rfl
  rw [gemmValue_eq_sum, gemmMatrix, Matrix.add_apply, Matrix.smul_apply, smul_eq_mul, hproduct,
    hinitial]

end Exact

end RiftGPU.Gemm
