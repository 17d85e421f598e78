import RiftGPU.Gemm.SharedProtocol

/-!
# The resource sizes of accepted shared GEMM controls

The encoder and the decoder accept a control when its element counts fit 64 bits. The byte lengths
of its resources are four times as large and are checked only when they are computed, so that an
accepted control may have none.

## Main definitions

* `Gemm.SharedGemmControl.SizesDefined`: the byte lengths are computed, and exact.
* `Gemm.SharedGemmControl.SizesFit`: the byte lengths fit 64 bits.

## Main results

* `Gemm.accepted_sizesDefined_iff`: which accepted controls have defined sizes.
-/

namespace RiftGPU.Gemm

open Bytes

namespace SharedGemmControl

/-- The byte lengths of the three resources are computed, and are exact. -/
def SizesDefined (control : SharedGemmControl) : Prop :=
  ∃ lengths, expectedResourceLengths control = .ok lengths ∧
    lengths.aBytes.toNat = 4 * control.m.toNat * control.k.toNat ∧
    lengths.bBytes.toNat = 4 * control.k.toNat * control.n.toNat ∧
    lengths.cBytes.toNat = 4 * control.m.toNat * control.n.toNat

/-- The byte lengths of the three resources fit 64 bits. -/
structure SizesFit (control : SharedGemmControl) : Prop where
  a_lt : 4 * control.m.toNat * control.k.toNat < 2 ^ 64
  b_lt : 4 * control.k.toNat * control.n.toNat < 2 ^ 64
  c_lt : 4 * control.m.toNat * control.n.toNat < 2 ^ 64

/-- A valid control has defined sizes exactly when they fit. -/
theorem Valid.sizesDefined_iff {control : SharedGemmControl} (h : control.Valid) :
    control.SizesDefined ↔ control.SizesFit := by
  constructor
  · rintro ⟨lengths, -, ha, hb, hc⟩
    exact ⟨ha ▸ lengths.aBytes.isLt, hb ▸ lengths.bBytes.isLt, hc ▸ lengths.cBytes.isLt⟩
  · intro hfit
    obtain ⟨aBytes, ha⟩ := BitVec.exists_toNat_eq hfit.a_lt
    obtain ⟨bBytes, hb⟩ := BitVec.exists_toNat_eq hfit.b_lt
    obtain ⟨cBytes, hc⟩ := BitVec.exists_toNat_eq hfit.c_lt
    refine ⟨⟨aBytes, bBytes, cBytes⟩, expectedResourceLengths_eq_ok_iff.2 ⟨h, ?_, ?_, ?_⟩, ha, hb,
      hc⟩
    · rw [ha, Nat.mul_assoc]
    · rw [hb, Nat.mul_assoc]
    · rw [hc, Nat.mul_assoc]

end SharedGemmControl

/-- A control that was encoded is valid. -/
theorem valid_of_encodeControl {control : SharedGemmControl} {bytes : List Byte}
    (h : encodeControl control = .ok bytes) : control.Valid := by
  simp only [encodeControl, Except.bind_eq_ok_iff, exists_const, validateControl_eq_ok_iff] at h
  exact h.1

/-- **Accepted controls.** A control that the encoder or the decoder accepts has defined resource
sizes exactly when four times each of its element counts fits 64 bits. -/
theorem accepted_sizesDefined_iff (control : SharedGemmControl)
    (haccepted : (∃ bytes, encodeControl control = .ok bytes) ∨
      ∃ input, decodeControl input = .ok control) :
    control.SizesDefined ↔ control.SizesFit := by
  rcases haccepted with ⟨bytes, hencoded⟩ | ⟨input, hdecoded⟩
  · exact (valid_of_encodeControl hencoded).sizesDefined_iff
  · exact (valid_of_decodeControl hdecoded).sizesDefined_iff

/-- A control with `2 ^ 62` rows, one column and one depth. -/
def tallControl : SharedGemmControl where
  m := 0x4000000000000000#64
  n := 1#64
  k := 1#64
  alpha := 0x3f800000#32
  beta := 0#32
  hipDeviceIndex := 0#32

/-- The control of a two-by-four product of depth three. -/
def smallControl : SharedGemmControl where
  m := 2#64
  n := 4#64
  k := 3#64
  alpha := 0x3f000000#32
  beta := 0x40000000#32
  hipDeviceIndex := 1#32

theorem accepted_sizesDefined_iff_small :
    smallControl.SizesDefined ↔ smallControl.SizesFit :=
  accepted_sizesDefined_iff smallControl (.inl ⟨_, rfl⟩)

/-- The tall control is encoded and decoded, and its sizes overflow. -/
theorem tallControl_accepted :
    (∃ bytes, encodeControl tallControl = .ok bytes ∧ decodeControl bytes = .ok tallControl) ∧
      expectedResourceLengths tallControl = .error (.byteLengthOverflow "matrix A") ∧
      ¬tallControl.SizesDefined := by
  have hlengths : expectedResourceLengths tallControl =
      .error (.byteLengthOverflow "matrix A") := by
    rfl
  refine ⟨⟨_, rfl, by decide +kernel⟩, hlengths, ?_⟩
  rintro ⟨lengths, hok, -⟩
  rw [hlengths] at hok
  cases hok

end RiftGPU.Gemm
