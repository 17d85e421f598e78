import Mathlib.Data.List.GetD
import Mathlib.Logic.Function.Basic
import Mathlib.Tactic.SplitIfs

/-!
# Tables and row-major storage

A buffer whose entries are known is the table of a function on its indices. Reading and writing
such a buffer is evaluating and updating the function, so that loops over a buffer become
recursions on functions. A matrix with rows of length `n` is stored with its entry `(i, j)` at the
index `i * n + j`.

## Main definitions

* `RowMajor.table`: the buffer of a given size whose entries are the values of a function.
* `RowMajor.replaceRow`: the first entries of one row replaced.

## Main results

* `RowMajor.getElem?_table`, `RowMajor.set_table`: reading and writing.
* `RowMajor.index_lt`, `RowMajor.index_div`, `RowMajor.index_mod`: indices of matrix entries.
-/

namespace RowMajor

variable {α β : Type*}

/-- The buffer with the entries `f 0, …, f (size - 1)`. -/
def table (size : ℕ) (f : ℕ → α) : List α := (List.range size).map f

@[simp] theorem length_table (size : ℕ) (f : ℕ → α) : (table size f).length = size := by
  rw [table, List.length_map, List.length_range]

theorem getElem?_table {size i : ℕ} (f : ℕ → α) (h : i < size) :
    (table size f)[i]? = some (f i) := by
  rw [table, List.getElem?_map, List.getElem?_range h, Option.map_some]

theorem table_congr {size : ℕ} {f g : ℕ → α} (h : ∀ i < size, f i = g i) :
    table size f = table size g :=
  List.map_congr_left fun i hi => h i (List.mem_range.1 hi)

theorem table_const (size : ℕ) (a : α) : table size (fun _ => a) = List.replicate size a := by
  rw [table, List.map_const', List.length_range]

theorem map_table (size : ℕ) (f : ℕ → α) (g : α → β) :
    (table size f).map g = table size (g ∘ f) :=
  List.map_map

theorem zipWith_table {γ : Type*} (op : α → β → γ) (size : ℕ) (f : ℕ → α) (g : ℕ → β) :
    List.zipWith op (table size f) (table size g) = table size fun i => op (f i) (g i) := by
  rw [table, table, List.zipWith_map, List.zipWith_self]
  rfl

/-- Writing an entry of a table updates its function. -/
theorem set_table (size : ℕ) (f : ℕ → α) (i : ℕ) (a : α) :
    (table size f).set i a = table size (Function.update f i a) := by
  refine List.ext_getElem? fun j => ?_
  by_cases hj : j < size
  · by_cases hij : i = j
    · subst hij
      rw [List.getElem?_set_self (by rwa [length_table]), getElem?_table _ hj,
        Function.update_self]
    · rw [List.getElem?_set_ne hij, getElem?_table _ hj, getElem?_table _ hj,
        Function.update_of_ne (Ne.symm hij)]
  · rw [List.getElem?_eq_none (by rw [List.length_set, length_table]; omega),
      List.getElem?_eq_none (by rw [length_table]; omega)]

/-- Every buffer is the table of its entries. -/
theorem table_getD (xs : List α) (d : α) : table xs.length (fun i => xs.getD i d) = xs := by
  refine List.ext_getElem? fun i => ?_
  by_cases hi : i < xs.length
  · rw [getElem?_table _ hi, List.getD_eq_getElem _ _ hi, List.getElem?_eq_getElem hi]
  · rw [List.getElem?_eq_none (by rw [length_table]; omega), List.getElem?_eq_none (by omega)]

/-! ### Indices of matrix entries -/

variable {m n i j : ℕ}

theorem index_lt (hi : i < m) (hj : j < n) : i * n + j < m * n :=
  calc i * n + j < i * n + n := Nat.add_lt_add_left hj _
    _ = (i + 1) * n := (Nat.succ_mul i n).symm
    _ ≤ m * n := Nat.mul_le_mul_right n hi

theorem index_div (hj : j < n) : (i * n + j) / n = i := by
  rw [Nat.mul_comm, Nat.mul_add_div (Nat.zero_lt_of_lt hj), Nat.div_eq_of_lt hj, Nat.add_zero]

theorem index_mod (hj : j < n) : (i * n + j) % n = j := by
  rw [Nat.mul_comm, Nat.mul_add_mod, Nat.mod_eq_of_lt hj]

/-- Every index below `m * n` is that of an entry. -/
theorem exists_index {p : ℕ} (hp : p < m * n) : ∃ i < m, ∃ j < n, p = i * n + j := by
  have hn : 0 < n := Nat.pos_of_ne_zero fun h => by simp [h] at hp
  exact ⟨p / n, Nat.div_lt_of_lt_mul (by rwa [Nat.mul_comm]), p % n, Nat.mod_lt p hn,
    (Nat.div_add_mod' p n).symm⟩

/-! ### Replacing a row -/

/-- The function `f` with the first `columns` entries of a row replaced by those of `g`. -/
def replaceRow (n row columns : ℕ) (g f : ℕ → α) : ℕ → α := fun p =>
  if row * n ≤ p ∧ p < row * n + columns then g (p - row * n) else f p

variable {row column columns : ℕ} {f g h : ℕ → α}

theorem replaceRow_index (hcolumn : column < columns) :
    replaceRow n row columns g f (row * n + column) = g column := by
  rw [replaceRow, if_pos (by omega), Nat.add_sub_cancel_left]

theorem replaceRow_of_lt {p : ℕ} (hp : p < row * n) : replaceRow n row columns g f p = f p := by
  rw [replaceRow, if_neg (by omega)]

theorem replaceRow_of_le (hcolumn : columns ≤ column) :
    replaceRow n row columns g f (row * n + column) = f (row * n + column) := by
  rw [replaceRow, if_neg (by omega)]

theorem replaceRow_zero : replaceRow n row 0 g f = f := by
  funext p
  rw [replaceRow, if_neg (by omega)]

/-- Replacing one more entry is an update. -/
theorem replaceRow_succ :
    replaceRow n row (columns + 1) g f =
      Function.update (replaceRow n row columns g f) (row * n + columns) (g columns) := by
  funext p
  by_cases hp : p = row * n + columns
  · rw [hp, Function.update_self, replaceRow_index (Nat.lt_succ_self columns)]
  · rw [Function.update_of_ne hp, replaceRow, replaceRow]
    exact if_congr (by omega) rfl rfl

theorem replaceRow_congr (hg : ∀ column < columns, g column = h column) :
    replaceRow n row columns g f = replaceRow n row columns h f := by
  funext p
  unfold replaceRow
  split_ifs with hp
  · exact hg _ (by omega)
  · rfl

/-- Replacing a row by its own entries changes nothing. -/
theorem replaceRow_self (hg : ∀ column < columns, g column = f (row * n + column)) :
    replaceRow n row columns g f = f := by
  funext p
  unfold replaceRow
  split_ifs with hp
  · rw [hg _ (by omega)]
    congr 1
    omega
  · rfl

/-- The last replacement of a row counts. -/
theorem replaceRow_replaceRow :
    replaceRow n row columns g (replaceRow n row columns h f) = replaceRow n row columns g f := by
  funext p
  unfold replaceRow
  split_ifs <;> rfl

end RowMajor
