import Mathlib.Algebra.Ring.Int.Defs
import Mathlib.Algebra.Ring.Nat

/-!
# Bit patterns of single-precision floats

A single-precision float is its 32-bit pattern. Only the predicates that look at the pattern are
defined here; arithmetic on floats is a parameter of the code that performs it, on a type of
numbers that bit patterns are read as.
-/

/-- The bit pattern of a single-precision float. -/
abbrev F32 := BitVec 32

namespace F32

/-- The biased exponent. -/
def exponent (x : F32) : BitVec 32 := (x >>> 23) &&& 0xff#32

/-- The fraction bits. -/
def fraction (x : F32) : BitVec 32 := x &&& 0x7fffff#32

/-- Neither infinite nor a NaN. -/
def isFinite (x : F32) : Bool := x.exponent != 0xff#32

/-- A NaN: the top exponent with a non-zero fraction. -/
def isNan (x : F32) : Bool := x.exponent == 0xff#32 && x.fraction != 0#32

/-- The comparison `x <= 0.0`: false of a NaN, true of both zeros and of every negative float. -/
def leZero (x : F32) : Bool := !x.isNan && (x.msb || x == 0#32)

/-- The float rounded towards zero to an integer. -/
def truncate (x : F32) : ℤ :=
  let magnitude : ℕ := (0x800000#32 ||| x.fraction).toNat * 2 ^ x.exponent.toNat / 2 ^ 150
  if x.msb then -magnitude else magnitude

/-- The float of an integer, with the bits of its magnitude after the first 24 cut off. -/
def ofInteger (z : ℤ) : F32 :=
  if z = 0 then 0#32
  else
    let width := Nat.log2 z.natAbs
    let fraction := BitVec.ofNat 32 (z.natAbs * 2 ^ 23 / 2 ^ width % 2 ^ 23)
    let sign := if z < 0 then 0x80000000#32 else 0#32
    sign ||| (BitVec.ofNat 32 (width + 127) <<< 23) ||| fraction

end F32

/-- A reading of single-precision bit patterns as numbers of type `F`, and the rounding of a
number to a bit pattern. The arithmetic on `F` is given separately; when `F` is `F32` itself and
both maps are the identity, it is the arithmetic of the machine, and when `F` is a ring, it is
exact arithmetic. -/
class FloatCodec (F : Type) where
  ofBits : F32 → F
  toBits : F → F32

/-- Floats read as integers. On integers of at most 24 bits this is the arithmetic of the
machine. -/
instance : FloatCodec ℤ where
  ofBits := F32.truncate
  toBits := F32.ofInteger

example : F32.ofInteger (F32.truncate 0x41b00000#32) = 0x41b00000#32 := by
  decide +kernel
