import Mathlib.Algebra.Ring.Nat
import RiftGPU.RowMajor.Table

/-!
# Tensors in row-major storage

A tensor of four dimensions is stored with its last coordinate running fastest. The element at the
coordinates `(b, h, i, d)` of a tensor with `heads` heads, `len` positions and rows of length `dim`
has the index `((b * heads + h) * len + i) * dim + d`.

## Main definitions

* `RowMajor.tensorIndex`, `RowMajor.tensor`.
* `RowMajor.lastRows`: the last rows of every head of a tensor.

## Main results

* `RowMajor.tensorIndex_lt`, `RowMajor.getElem?_tensor`.
* `RowMajor.eq_tensor_of_getD`, `RowMajor.lastRows_tensor`.
-/

namespace RowMajor

variable {α : Type*} {batch heads len dim b h i d : ℕ}

/-- The index of an element of a tensor. -/
def tensorIndex (heads len dim b h i d : ℕ) : ℕ := ((b * heads + h) * len + i) * dim + d

theorem tensorIndex_lt (hb : b < batch) (hh : h < heads) (hi : i < len) (hd : d < dim) :
    tensorIndex heads len dim b h i d < batch * heads * len * dim :=
  index_lt (index_lt (index_lt hb hh) hi) hd

/-- Every index of a tensor is that of an element. -/
theorem exists_tensorIndex {p : ℕ} (hp : p < batch * heads * len * dim) :
    ∃ b < batch, ∃ h < heads, ∃ i < len, ∃ d < dim, p = tensorIndex heads len dim b h i d := by
  obtain ⟨r, hr, d, hd, rfl⟩ := exists_index hp
  obtain ⟨s, hs, i, hi, rfl⟩ := exists_index hr
  obtain ⟨b, hb, h, hh, rfl⟩ := exists_index hs
  exact ⟨b, hb, h, hh, i, hi, d, hd, rfl⟩

/-- The element of a tensor at an index, whose coordinates are its digits. -/
def atIndex (heads len dim : ℕ) (f : ℕ → ℕ → ℕ → ℕ → α) (p : ℕ) : α :=
  f (p / dim / len / heads) (p / dim / len % heads) (p / dim % len) (p % dim)

/-- The buffer that stores a tensor. -/
def tensor (batch heads len dim : ℕ) (f : ℕ → ℕ → ℕ → ℕ → α) : List α :=
  table (batch * heads * len * dim) (atIndex heads len dim f)

variable {f g : ℕ → ℕ → ℕ → ℕ → α}

@[simp] theorem length_tensor :
    (tensor batch heads len dim f).length = batch * heads * len * dim := length_table _ _

theorem atIndex_tensorIndex (hh : h < heads) (hi : i < len) (hd : d < dim) :
    atIndex heads len dim f (tensorIndex heads len dim b h i d) = f b h i d := by
  rw [atIndex, tensorIndex, index_div hd, index_mod hd, index_div hi, index_mod hi, index_div hh,
    index_mod hh]

theorem getElem?_tensor (hb : b < batch) (hh : h < heads) (hi : i < len) (hd : d < dim) :
    (tensor batch heads len dim f)[tensorIndex heads len dim b h i d]? = some (f b h i d) := by
  rw [tensor, getElem?_table _ (tensorIndex_lt hb hh hi hd), atIndex_tensorIndex hh hi hd]

theorem getD_tensor (hb : b < batch) (hh : h < heads) (hi : i < len) (hd : d < dim) (x : α) :
    (tensor batch heads len dim f).getD (tensorIndex heads len dim b h i d) x = f b h i d := by
  rw [List.getD_eq_getElem?_getD, getElem?_tensor hb hh hi hd, Option.getD_some]

theorem map_tensor {β : Type*} (g : α → β) :
    (tensor batch heads len dim f).map g =
      tensor batch heads len dim fun b h i d => g (f b h i d) :=
  map_table _ _ g

theorem tensor_congr
    (h : ∀ b < batch, ∀ h < heads, ∀ i < len, ∀ d < dim, f b h i d = g b h i d) :
    tensor batch heads len dim f = tensor batch heads len dim g := by
  refine table_congr fun p hp => ?_
  obtain ⟨b, hb, h', hh, i, hi, d, hd, rfl⟩ := exists_tensorIndex hp
  rw [atIndex_tensorIndex hh hi hd, atIndex_tensorIndex hh hi hd]
  exact h b hb h' hh i hi d hd

/-! ### The last rows -/

/-- The last `keep` of the `len` rows of every head. -/
def lastRows [Zero α] (batch heads len dim keep : ℕ) (xs : List α) : List α :=
  tensor batch heads keep dim fun b h i d =>
    xs.getD (tensorIndex heads len dim b h (len - keep + i) d) 0

variable [Zero α] {keep : ℕ}

@[simp] theorem length_lastRows (xs : List α) :
    (lastRows batch heads len dim keep xs).length = batch * heads * keep * dim := length_tensor

theorem getD_lastRows (hb : b < batch) (hh : h < heads) (hi : i < keep) (hd : d < dim)
    (xs : List α) :
    (lastRows batch heads len dim keep xs).getD (tensorIndex heads keep dim b h i d) 0 =
      xs.getD (tensorIndex heads len dim b h (len - keep + i) d) 0 :=
  getD_tensor hb hh hi hd 0

/-- The last rows of a tensor are the tensor of its last elements. -/
theorem lastRows_tensor (hkeep : keep ≤ len) :
    lastRows batch heads len dim keep (tensor batch heads len dim f) =
      tensor batch heads keep dim fun b h i d => f b h (len - keep + i) d :=
  tensor_congr fun _ hb _ hh i hi _ hd => getD_tensor hb hh (by omega) hd 0

end RowMajor
