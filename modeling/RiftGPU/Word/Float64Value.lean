import Mathlib.Algebra.Order.Field.Rat
import Mathlib.Tactic.NormNum
import Mathlib.Tactic.Positivity
import RiftGPU.Word.Float64

/-!
# The exact values of double-precision floats

A finite double-precision float is a rational number: a whole number of units of `2 ^ -1074`, with
a sign. On floats that are at least zero the total order of `total_cmp` refines the order of the
values.

## Main definitions

* `F64.units`, `F64.toRat`: the exact value of a finite float.

## Main results

* `F64.toRat_le_of_totalKey_le`: the total order and the order of the values.
* `F64.geZero_iff_toRat`: the comparison with zero and the sign of the value.
-/

namespace F64

/-- The magnitude of a finite float in units of the least positive one, `2 ^ -1074`. -/
def units (x : F64) : ℕ :=
  if x.exponent = 0#64 then x.fraction.toNat
  else (2 ^ 52 + x.fraction.toNat) * 2 ^ (x.exponent.toNat - 1)

/-- The value of a finite float. -/
def toRat (x : F64) : ℚ := (if x.msb then -(x.units : ℚ) else x.units) / 2 ^ 1074

example : toRat 0xbff8000000000000#64 = -3 / 2 := by decide +kernel

/-! ### The fields of a float -/

theorem toNat_exponent (x : F64) : x.exponent.toNat = x.toNat / 2 ^ 52 % 2 ^ 11 := by
  have hmask : (0x7ff#64).toNat = 2 ^ 11 - 1 := rfl
  rw [exponent, BitVec.toNat_and, BitVec.toNat_ushiftRight, Nat.shiftRight_eq_div_pow, hmask,
    Nat.and_two_pow_sub_one_eq_mod]

theorem toNat_fraction (x : F64) : x.fraction.toNat = x.toNat % 2 ^ 52 := by
  have hmask : (0xfffffffffffff#64).toNat = 2 ^ 52 - 1 := rfl
  rw [fraction, BitVec.toNat_and, hmask, Nat.and_two_pow_sub_one_eq_mod]

/-- The magnitude bits are the exponent and the fraction. -/
theorem toNat_eq_of_msb {x : F64} (h : x.msb = false) :
    x.toNat = x.exponent.toNat * 2 ^ 52 + x.fraction.toNat := by
  have hlt := BitVec.msb_eq_false_iff_two_mul_lt.1 h
  rw [toNat_exponent, toNat_fraction]
  omega

theorem exponent_eq_zero_iff {x : F64} : x.exponent = 0#64 ↔ x.exponent.toNat = 0 := by
  rw [← BitVec.toNat_inj]
  rfl

/-! ### The order of the values -/

theorem units_lt (x : F64) : x.units < 2 ^ 52 * 2 ^ x.exponent.toNat := by
  have hfraction : x.fraction.toNat < 2 ^ 52 := by
    rw [toNat_fraction]
    exact Nat.mod_lt _ (by norm_num)
  rw [units]
  split_ifs with hexponent
  · rw [exponent_eq_zero_iff.1 hexponent, pow_zero, mul_one]
    exact hfraction
  · rw [exponent_eq_zero_iff] at hexponent
    obtain ⟨e, he⟩ := Nat.exists_eq_succ_of_ne_zero hexponent
    have hpos : 0 < 2 ^ e := by positivity
    rw [he, Nat.succ_sub_one, pow_succ' 2 e, ← mul_assoc]
    exact Nat.mul_lt_mul_of_pos_right (by omega) hpos

theorem le_units {x : F64} (h : x.exponent.toNat ≠ 0) :
    2 ^ 52 * 2 ^ (x.exponent.toNat - 1) ≤ x.units := by
  rw [units, if_neg (mt exponent_eq_zero_iff.1 h)]
  exact Nat.mul_le_mul_right _ (Nat.le_add_right _ _)

/-- Among floats without a sign, the one with the greater bits is the greater one. -/
theorem units_le_of_toNat_le {x y : F64} (hx : x.msb = false) (hy : y.msb = false)
    (h : x.toNat ≤ y.toNat) : x.units ≤ y.units := by
  have hfraction : x.fraction.toNat < 2 ^ 52 := by
    rw [toNat_fraction]
    exact Nat.mod_lt _ (by norm_num)
  have hfraction' : y.fraction.toNat < 2 ^ 52 := by
    rw [toNat_fraction]
    exact Nat.mod_lt _ (by norm_num)
  rw [toNat_eq_of_msb hx, toNat_eq_of_msb hy] at h
  rcases Nat.lt_trichotomy x.exponent.toNat y.exponent.toNat with hlt | heq | hgt
  · calc x.units ≤ 2 ^ 52 * 2 ^ x.exponent.toNat := (units_lt x).le
      _ ≤ 2 ^ 52 * 2 ^ (y.exponent.toNat - 1) :=
        Nat.mul_le_mul_left _ (Nat.pow_le_pow_right (by norm_num) (by omega))
      _ ≤ y.units := le_units (by omega)
  · have hsame : x.exponent = y.exponent := BitVec.toNat_inj.1 heq
    have hle : x.fraction.toNat ≤ y.fraction.toNat := by omega
    rw [units, units, hsame]
    split_ifs
    · exact hle
    · exact Nat.mul_le_mul_right _ (Nat.add_le_add_left hle _)
  · omega

theorem toRat_of_msb {x : F64} (h : x.msb = false) : x.toRat = x.units / 2 ^ 1074 := by
  rw [toRat, h, if_neg Bool.false_ne_true]

theorem units_negZero : units 0x8000000000000000#64 = 0 := by decide

theorem toRat_negZero : toRat 0x8000000000000000#64 = 0 := by
  rw [toRat, units_negZero]
  norm_num

theorem toRat_nonneg_of_msb {x : F64} (h : x.msb = false) : 0 ≤ x.toRat := by
  rw [toRat_of_msb h]
  positivity

/-- **The total order refines the order of the values** on floats that are at least zero. -/
theorem toRat_le_of_totalKey_le {x y : F64} (hx : x.geZero) (hy : y.geZero)
    (h : x.totalKey ≤ y.totalKey) : x.toRat ≤ y.toRat := by
  have htotal : totalKey 0x8000000000000000#64 = 0x7fffffffffffffff := by decide
  rcases eq_of_geZero hx with rfl | hx <;> rcases eq_of_geZero hy with rfl | hy
  · exact le_refl _
  · rw [toRat_negZero]
    exact toRat_nonneg_of_msb hy
  · rw [totalKey_of_msb hx, htotal] at h
    omega
  · rw [totalKey_of_msb hx, totalKey_of_msb hy] at h
    rw [toRat_of_msb hx, toRat_of_msb hy]
    have hunits := units_le_of_toNat_le hx hy (by omega)
    gcongr

/-- A negative float without magnitude is the negative zero. -/
theorem eq_negZero_of_units {x : F64} (hmsb : x.msb) (h : x.units = 0) :
    x = 0x8000000000000000#64 := by
  have hexponent : x.exponent.toNat = 0 := by
    by_contra hne
    have hle := le_units hne
    rw [h] at hle
    have hpos : 0 < 2 ^ 52 * 2 ^ (x.exponent.toNat - 1) := by positivity
    omega
  have hfraction : x.fraction.toNat = 0 := by
    rw [units, if_pos (exponent_eq_zero_iff.2 hexponent)] at h
    exact h
  have hge := BitVec.msb_eq_true_iff_two_mul_ge.1 hmsb
  have hlt := x.isLt
  rw [toNat_exponent] at hexponent
  rw [toNat_fraction] at hfraction
  rw [← BitVec.toNat_inj, BitVec.toNat_ofNat]
  omega

/-- A finite float is at least zero exactly when its value is. -/
theorem geZero_iff_toRat {x : F64} (hfinite : x.isFinite) : x.geZero ↔ 0 ≤ x.toRat := by
  have hnan : x.isNan = false := by
    rw [isFinite, bne_iff_ne] at hfinite
    rw [isNan, beq_eq_false_iff_ne.2 hfinite, Bool.false_and]
  constructor
  · intro h
    rcases eq_of_geZero h with rfl | hmsb
    · exact toRat_negZero.ge
    · exact toRat_nonneg_of_msb hmsb
  · intro h
    rw [geZero, hnan, Bool.not_false, Bool.true_and, Bool.or_eq_true]
    cases hmsb : x.msb with
    | false => exact .inl rfl
    | true =>
      rw [toRat, hmsb, if_pos rfl, neg_div, neg_nonneg] at h
      have hunits : x.units = 0 := by
        have hpos : (0 : ℚ) < 2 ^ 1074 := by positivity
        have hle := (div_le_iff₀ hpos).1 h
        rw [zero_mul] at hle
        exact_mod_cast le_antisymm hle (Nat.cast_nonneg _)
      rw [eq_negZero_of_units hmsb hunits]
      exact .inr rfl

end F64
