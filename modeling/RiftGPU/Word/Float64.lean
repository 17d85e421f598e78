import Mathlib.Algebra.Ring.Nat

/-!
# Bit patterns of double-precision floats

A double-precision float is its 64-bit pattern. Only what looks at the pattern is defined here: the
test for finiteness, the comparisons with zero, and the total order of `total_cmp`, in which the
negative zero comes before the positive one.

## Main definitions

* `F64.isFinite`, `F64.ltZero`, `F64.geZero`.
* `F64.totalKey`, `F64.numericKey`: the numbers by which the two orders compare.

## Main results

* `F64.numericKey_le_of_totalKey_le`: the total order refines the numeric one.
-/

/-- The bit pattern of a double-precision float. -/
abbrev F64 := BitVec 64

namespace F64

/-- The biased exponent. -/
def exponent (x : F64) : BitVec 64 := (x >>> 52) &&& 0x7ff#64

/-- The fraction bits. -/
def fraction (x : F64) : BitVec 64 := x &&& 0xfffffffffffff#64

/-- Neither infinite nor a NaN. -/
def isFinite (x : F64) : Bool := x.exponent != 0x7ff#64

/-- A NaN: the top exponent with a non-zero fraction. -/
def isNan (x : F64) : Bool := x.exponent == 0x7ff#64 && x.fraction != 0#64

/-- The two zeros. -/
def isZero (x : F64) : Bool := x == 0#64 || x == 0x8000000000000000#64

/-- The comparison `x < 0.0`. -/
def ltZero (x : F64) : Bool := !x.isNan && x.msb && !x.isZero

/-- The comparison `x >= 0.0`. -/
def geZero (x : F64) : Bool := !x.isNan && (!x.msb || x.isZero)

/-- The integer by which `total_cmp` compares, shifted up to be natural: a negative float has its
magnitude bits flipped. -/
def totalKey (x : F64) : ℕ :=
  ((x ^^^ (x.sshiftRight 63 >>> 1)).toInt + 0x8000000000000000).toNat

/-- The integer by which the comparison of floats that are not NaNs compares, shifted up to be
natural: the magnitude bits with the sign. -/
def numericKey (x : F64) : ℕ :=
  if x.msb then 0x8000000000000000 - (x &&& 0x7fffffffffffffff#64).toNat
  else 0x8000000000000000 + x.toNat

/-- A float that is at least zero is the negative zero or has no sign. -/
theorem eq_of_geZero {x : F64} (h : x.geZero) : x = 0x8000000000000000#64 ∨ x.msb = false := by
  rw [geZero, Bool.and_eq_true, Bool.or_eq_true, isZero, Bool.or_eq_true, beq_iff_eq,
    beq_iff_eq] at h
  rcases h.2 with hmsb | rfl | rfl
  · exact .inr (by simpa using hmsb)
  · exact .inr rfl
  · exact .inl rfl

theorem totalKey_of_msb {x : F64} (h : x.msb = false) :
    x.totalKey = 0x8000000000000000 + x.toNat := by
  have hsign : x >>> 63 = 0#64 := by
    have hlt := BitVec.msb_eq_false_iff_two_mul_lt.1 h
    rw [← BitVec.toNat_inj, BitVec.toNat_ushiftRight, Nat.shiftRight_eq_div_pow, BitVec.toNat_ofNat]
    omega
  rw [totalKey, BitVec.sshiftRight_eq_of_msb_false h, hsign, BitVec.zero_ushiftRight,
    BitVec.xor_zero, BitVec.toInt_eq_toNat_of_msb h]
  omega

/-- Among floats that are at least zero the total order only tells the two zeros apart. -/
theorem numericKey_le_of_totalKey_le {x y : F64} (hx : x.geZero) (hy : y.geZero)
    (h : x.totalKey ≤ y.totalKey) : x.numericKey ≤ y.numericKey := by
  have htotal : totalKey 0x8000000000000000#64 = 0x7fffffffffffffff := by decide
  have hnumeric : numericKey 0x8000000000000000#64 = 0x8000000000000000 := by decide
  have hpositive : ∀ z : F64, z.msb = false → z.numericKey = 0x8000000000000000 + z.toNat := by
    intro z hz
    rw [numericKey, hz, if_neg Bool.false_ne_true]
  rcases eq_of_geZero hx with rfl | hx <;> rcases eq_of_geZero hy with rfl | hy
  · exact Nat.le_refl _
  · rw [hnumeric, hpositive y hy]
    exact Nat.le_add_right _ _
  · rw [totalKey_of_msb hx, htotal] at h
    omega
  · rw [totalKey_of_msb hx, totalKey_of_msb hy] at h
    rwa [hpositive x hx, hpositive y hy]

end F64
