import Mathlib.Data.Matrix.Mul
import RiftGPU.RowMajor.Table

/-!
# Matrices in row-major and column-major storage

A matrix stored by rows is, read by columns, its transpose. A product of matrices stored by rows
is therefore computed by a routine for matrices stored by columns, with the factors in the other
order.

## Main definitions

* `RowMajor.rowMajor`, `RowMajor.columnMajor`: the matrix that a buffer stores.
* `RowMajor.columnMajorIndices`: the indices of the entries of a matrix in its buffer.

## Main results

* `RowMajor.columnMajor_eq_transpose`: reading by columns what is stored by rows.
* `RowMajor.columnMajor_mul_columnMajor`: the product in the other order.
-/

namespace RowMajor

open Matrix

variable {R : Type*} {m n k : ℕ}

/-- The matrix whose rows of length `n` lie behind each other. -/
def rowMajor (m n : ℕ) (f : ℕ → R) : Matrix (Fin m) (Fin n) R :=
  of fun i j => f (i * n + j)

/-- The matrix whose columns start `ld` entries apart. -/
def columnMajor (ld m n : ℕ) (f : ℕ → R) : Matrix (Fin m) (Fin n) R :=
  of fun i j => f (i + j * ld)

/-- The indices of the entries of a matrix whose columns start `ld` entries apart. -/
def columnMajorIndices (ld m n : ℕ) : Set ℕ := {p | ∃ i < m, ∃ j < n, p = i + j * ld}

@[simp] theorem rowMajor_apply (f : ℕ → R) (i : Fin m) (j : Fin n) :
    rowMajor m n f i j = f (i * n + j) := rfl

@[simp] theorem columnMajor_apply (ld : ℕ) (f : ℕ → R) (i : Fin m) (j : Fin n) :
    columnMajor ld m n f i j = f (i + j * ld) := rfl

/-- Without gaps between the columns the indices are those below the number of entries. -/
theorem lt_of_mem_columnMajorIndices {p : ℕ} (hp : p ∈ columnMajorIndices n n m) : p < m * n := by
  obtain ⟨i, hi, j, hj, rfl⟩ := hp
  rw [Nat.add_comm]
  exact index_lt hj hi

/-- A matrix stored by rows is, read by columns, its transpose. -/
theorem columnMajor_eq_transpose (f : ℕ → R) :
    columnMajor n n m f = (rowMajor m n f).transpose := by
  ext j i
  rw [columnMajor_apply, transpose_apply, rowMajor_apply, Nat.add_comm]

/-- The product of two matrices stored by rows, in the storage by columns. -/
theorem columnMajor_mul_columnMajor [CommSemiring R] (a b : ℕ → R) :
    columnMajor n n k b * columnMajor k k m a = (rowMajor m k a * rowMajor k n b).transpose := by
  rw [columnMajor_eq_transpose, columnMajor_eq_transpose, transpose_mul]

end RowMajor
