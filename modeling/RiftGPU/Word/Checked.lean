import Mathlib.Algebra.Ring.Nat

/-!
# Checked arithmetic on fixed-width words

Unsigned machine integers of width `w` are `BitVec w`. This file adds the checked and saturating
operations that the core library does not have, each with one lemma that says what it computes on
the underlying naturals. Proofs about code that uses these operations rewrite with those lemmas
and then reason about `ℕ`.

## Main definitions

* `BitVec.checkedAdd`, `BitVec.checkedMul`: the exact result, or `none` on overflow.
* `BitVec.saturatingAdd`, `BitVec.saturatingSub`: the exact result, clamped to the range.
* `BitVec.tryOfNat`: conversion from a wider unsigned type, or `none` when the value does not fit.
* `Usize.checkedAdd`, `Usize.checkedMul`: checked arithmetic on lengths and indices of a 64-bit
  machine.

## Main results

* `BitVec.checkedAdd_eq_some_iff`, `BitVec.checkedMul_eq_some_iff`: success is exactness.
* `BitVec.toNat_saturatingAdd`, `BitVec.toNat_saturatingSub`: the clamped results.
-/

namespace BitVec

variable {w : ℕ}

/-- The sum, or `none` when it needs more than `w` bits. -/
def checkedAdd (a b : BitVec w) : Option (BitVec w) :=
  if a.toNat + b.toNat < 2 ^ w then some (a + b) else none

/-- The product, or `none` when it needs more than `w` bits. -/
def checkedMul (a b : BitVec w) : Option (BitVec w) :=
  if a.toNat * b.toNat < 2 ^ w then some (a * b) else none

/-- The sum, clamped to the largest word. -/
def saturatingAdd (a b : BitVec w) : BitVec w :=
  if a.toNat + b.toNat < 2 ^ w then a + b else allOnes w

/-- The difference, clamped to zero. -/
def saturatingSub (a b : BitVec w) : BitVec w :=
  if b ≤ a then a - b else 0#w

/-- The word with the given value, or `none` when the value needs more than `w` bits. -/
def tryOfNat (w n : ℕ) : Option (BitVec w) :=
  if n < 2 ^ w then some (BitVec.ofNat w n) else none

/-- A checked sum succeeds exactly when the result is the exact sum. -/
theorem checkedAdd_eq_some_iff {a b c : BitVec w} :
    a.checkedAdd b = some c ↔ c.toNat = a.toNat + b.toNat := by
  unfold checkedAdd
  constructor
  · intro h
    split_ifs at h with hlt
    rw [← Option.some.inj h, toNat_add, Nat.mod_eq_of_lt hlt]
  · intro h
    have hlt : a.toNat + b.toNat < 2 ^ w := h ▸ c.isLt
    rw [if_pos hlt]
    congr 1
    apply eq_of_toNat_eq
    rw [toNat_add, Nat.mod_eq_of_lt hlt, h]

theorem checkedAdd_eq_none_iff {a b : BitVec w} :
    a.checkedAdd b = none ↔ 2 ^ w ≤ a.toNat + b.toNat := by
  simp [checkedAdd]

/-- A checked product succeeds exactly when the result is the exact product. -/
theorem checkedMul_eq_some_iff {a b c : BitVec w} :
    a.checkedMul b = some c ↔ c.toNat = a.toNat * b.toNat := by
  unfold checkedMul
  constructor
  · intro h
    split_ifs at h with hlt
    rw [← Option.some.inj h, toNat_mul, Nat.mod_eq_of_lt hlt]
  · intro h
    have hlt : a.toNat * b.toNat < 2 ^ w := h ▸ c.isLt
    rw [if_pos hlt]
    congr 1
    apply eq_of_toNat_eq
    rw [toNat_mul, Nat.mod_eq_of_lt hlt, h]

/-- A sum that must not exceed `c`, where overflow counts as exceeding it. -/
theorem checkedAdd_all_gt_iff {a b c : BitVec w} :
    ((a.checkedAdd b).all fun total => total > c) ↔ c.toNat < a.toNat + b.toNat := by
  cases hsum : a.checkedAdd b with
  | none =>
    have hle := checkedAdd_eq_none_iff.1 hsum
    have hc := c.isLt
    simp only [Option.all_none, true_iff]
    omega
  | some total =>
    have htotal := checkedAdd_eq_some_iff.1 hsum
    simp [lt_def, htotal]

theorem tryOfNat_eq_some_iff {n : ℕ} {a : BitVec w} :
    tryOfNat w n = some a ↔ a.toNat = n := by
  unfold tryOfNat
  constructor
  · intro h
    split_ifs at h with hlt
    rw [← Option.some.inj h, toNat_ofNat, Nat.mod_eq_of_lt hlt]
  · rintro rfl
    rw [if_pos a.isLt, ofNat_toNat, setWidth_eq]

theorem tryOfNat_eq_none_iff {n : ℕ} : tryOfNat w n = none ↔ 2 ^ w ≤ n := by
  simp [tryOfNat]

theorem tryOfNat_of_lt {n : ℕ} (h : n < 2 ^ w) : tryOfNat w n = some (BitVec.ofNat w n) :=
  if_pos h

/-- The successor of a word, where the wrap-around skips zero. -/
theorem toNat_nextNonzero {x : BitVec 64} (h : x.toNat + 1 < 2 ^ 64) :
    (if x + 1#64 < 1#64 then 1#64 else x + 1#64).toNat = x.toNat + 1 := by
  have hnext : (x + 1#64).toNat = x.toNat + 1 := by
    rw [toNat_add]
    exact Nat.mod_eq_of_lt h
  have hpos : ¬x + 1#64 < 1#64 := by
    rw [lt_def, hnext]
    simp
  rw [if_neg hpos, hnext]

@[simp] theorem toNat_saturatingSub (a b : BitVec w) :
    (a.saturatingSub b).toNat = a.toNat - b.toNat := by
  unfold saturatingSub
  split_ifs with h
  · exact toNat_sub_of_le h
  · rw [le_def] at h
    rw [toNat_ofNat, Nat.zero_mod]
    omega

@[simp] theorem toNat_saturatingAdd (a b : BitVec w) :
    (a.saturatingAdd b).toNat = min (a.toNat + b.toNat) (2 ^ w - 1) := by
  unfold saturatingAdd
  have hpos : 0 < 2 ^ w := Nat.two_pow_pos w
  split_ifs with h
  · rw [toNat_add, Nat.mod_eq_of_lt h]
    omega
  · rw [toNat_allOnes]
    omega

theorem toNat_saturatingAdd_one (a : BitVec 64) :
    (a.saturatingAdd 1#64).toNat = min (a.toNat + 1) (2 ^ 64 - 1) := by
  rw [toNat_saturatingAdd]
  rfl

/-- A natural number below `2 ^ w` is the value of a word. -/
theorem exists_toNat_eq {n : ℕ} (h : n < 2 ^ w) : ∃ a : BitVec w, a.toNat = n :=
  ⟨BitVec.ofNat w n, by rw [toNat_ofNat, Nat.mod_eq_of_lt h]⟩

/-- A word has a bit in common with a mask of one bit exactly when that bit is set. -/
theorem and_one_shiftLeft_ne_zero_iff {a : BitVec w} {n : ℕ} :
    a &&& 1#w <<< n ≠ 0#w ↔ a.getLsbD n = true := by
  rw [← twoPow_eq, and_twoPow]
  by_cases h : a.getLsbD n = true
  · have hlt := lt_of_getLsbD h
    rw [if_pos h, Ne, ← toNat_inj, toNat_twoPow_eq_ite, if_pos hlt, toNat_ofNat, Nat.zero_mod]
    exact iff_of_true (Nat.pos_iff_ne_zero.1 (Nat.two_pow_pos n)) h
  · rw [if_neg h]
    exact iff_of_false (fun hne => hne rfl) h

theorem eq_zero_iff_toNat {a : BitVec w} : a = 0#w ↔ a.toNat = 0 := by
  rw [← toNat_inj, toNat_ofNat, Nat.zero_mod]

end BitVec

namespace Usize

/-- The sum of two lengths or indices, or `none` when it needs more than 64 bits. -/
def checkedAdd (a b : ℕ) : Option ℕ := if a + b < 2 ^ 64 then some (a + b) else none

/-- The product of two lengths or indices, or `none` when it needs more than 64 bits. -/
def checkedMul (a b : ℕ) : Option ℕ := if a * b < 2 ^ 64 then some (a * b) else none

/-- The difference of two lengths or indices, or `none` when it is negative. -/
def checkedSub (a b : ℕ) : Option ℕ := if b ≤ a then some (a - b) else none

/-- The quotient of two lengths or indices, or `none` when the divisor is zero. -/
def checkedDiv (a b : ℕ) : Option ℕ := if b ≠ 0 then some (a / b) else none

theorem checkedAdd_of_lt {a b : ℕ} (h : a + b < 2 ^ 64) : checkedAdd a b = some (a + b) :=
  if_pos h

theorem checkedAdd_eq_some_iff {a b c : ℕ} :
    checkedAdd a b = some c ↔ a + b < 2 ^ 64 ∧ a + b = c := by
  rw [checkedAdd, Option.ite_none_right_eq_some, Option.some.injEq]

theorem checkedMul_of_lt {a b : ℕ} (h : a * b < 2 ^ 64) : checkedMul a b = some (a * b) :=
  if_pos h

end Usize
