import RiftGPU.Word.Checked
import RiftGPU.Word.Float32
import RiftGPU.Word.LittleEndian
import RiftGPU.Word.Outcome

/-!
# The shared GEMM control message

A control message of 64 bytes describes the shape, the scalars and the device of one GEMM whose
matrices lie in shared memory. This file models `vrb-gemm-shared-protocol`: the control record, its
validation, the byte lengths of the three resources, and the encoder and decoder of the message.

## Main definitions

* `Gemm.SharedGemmControl`, `Gemm.validateControl`.
* `Gemm.expectedResourceLengths`: the byte lengths of A, B and C.
* `Gemm.encodeControl`, `Gemm.decodeControl`.

## Main results

* `Gemm.validateControl_eq_ok_iff`, `Gemm.expectedResourceLengths_eq_ok_iff`: what is accepted.
* `Gemm.valid_of_decodeControl`: a decoded control is valid.
-/

namespace RiftGPU.Gemm

open Bytes

/-- The version of the message. -/
def sharedGemmProtocolVersion : BitVec 32 := 1#32

/-- The first eight bytes of the message. -/
def sharedGemmMagic : List Byte := ascii "VRBSGM01"

/-- The length of the message. -/
def sharedGemmHeaderLen : ℕ := 64

/-- The number of regions of an invocation: A, B and C. -/
def sharedGemmResourceCount : ℕ := 3

/-- The number of bytes of an element. -/
def sharedF32Bytes : BitVec 64 := 4#64

/-- A control record. The device index is a signed 32-bit word. -/
structure SharedGemmControl where
  m : BitVec 64
  n : BitVec 64
  k : BitVec 64
  alpha : F32
  beta : F32
  hipDeviceIndex : BitVec 32
deriving DecidableEq, Repr

/-- The numbers of bytes of the three regions. -/
structure SharedGemmResourceLengths where
  aBytes : BitVec 64
  bBytes : BitVec 64
  cBytes : BitVec 64
deriving DecidableEq, Repr

/-- The ways in which a control or a message can be refused. -/
inductive SharedGemmProtocolError where
  | truncated (minimum actual : ℕ)
  | invalidMagic
  | unsupportedVersion (actual expected : BitVec 32)
  | invalidHeaderLength (actual : BitVec 32) (expected : ℕ)
  | lengthMismatch (expected actual : ℕ)
  | resourceCount (expected actual : BitVec 32)
  | zeroDimension (m n k : BitVec 64)
  | dimensionOverflow (label : String)
  | byteLengthOverflow (label : String)
  | invalidDeviceIndex (index : BitVec 32)
deriving DecidableEq, Repr

/-! ### Sizes -/

/-- The number of elements of a matrix, named `label` in the error. -/
def expectedElements (rows columns : BitVec 64) (label : String) :
    Except SharedGemmProtocolError (BitVec 64) :=
  (rows.checkedMul columns).okOr (.dimensionOverflow label)

/-- The number of bytes of a matrix, named `label` in the error. -/
def matrixBytes (rows columns : BitVec 64) (label : String) :
    Except SharedGemmProtocolError (BitVec 64) := do
  let elements ← expectedElements rows columns label
  (elements.checkedMul sharedF32Bytes).okOr (.byteLengthOverflow label)

/-- The checks of a control, in the order of the source. They bound the numbers of elements, not
those of bytes. -/
def validateControl (control : SharedGemmControl) : Except SharedGemmProtocolError Unit := do
  Except.rejectIf (control.hipDeviceIndex.toInt < 0)
    (.invalidDeviceIndex control.hipDeviceIndex)
  Except.rejectIf (control.m = 0#64 ∨ control.n = 0#64 ∨ control.k = 0#64)
    (.zeroDimension control.m control.n control.k)
  let _ ← expectedElements control.m control.k "matrix A"
  let _ ← expectedElements control.k control.n "matrix B"
  let _ ← expectedElements control.m control.n "matrix C"
  return ()

/-- The lengths that the regions of a valid control must have. -/
def expectedResourceLengths (control : SharedGemmControl) :
    Except SharedGemmProtocolError SharedGemmResourceLengths := do
  validateControl control
  let aBytes ← matrixBytes control.m control.k "matrix A"
  let bBytes ← matrixBytes control.k control.n "matrix B"
  let cBytes ← matrixBytes control.m control.n "matrix C"
  return { aBytes, bBytes, cBytes }

/-! ### The message -/

/-- The message that carries a control. -/
def encodeControl (control : SharedGemmControl) :
    Except SharedGemmProtocolError (List Byte) := do
  validateControl control
  let output := sharedGemmMagic
  let output := output ++ toLe sharedGemmProtocolVersion
  let output := output ++ toLe (BitVec.ofNat 32 sharedGemmHeaderLen)
  let output := output ++ toLe control.m
  let output := output ++ toLe control.n
  let output := output ++ toLe control.k
  let output := output ++ toLe control.alpha
  let output := output ++ toLe control.beta
  let output := output ++ toLe control.hipDeviceIndex
  let output := output ++ toLe (BitVec.ofNat 32 sharedGemmResourceCount)
  let output := output ++ List.replicate 8 0#8
  return output

/-- The word of `w` bits at an offset of a message that is long enough. -/
def readWord (w : ℕ) (input : List Byte) (offset : ℕ) : BitVec w :=
  ofLe w (slice input offset (w / 8))

/-- The control that a message carries. The last eight bytes are not read. -/
def decodeControl (input : List Byte) : Except SharedGemmProtocolError SharedGemmControl := do
  Except.rejectIf (input.length < sharedGemmHeaderLen)
    (.truncated sharedGemmHeaderLen input.length)
  Except.rejectIf (input.length ≠ sharedGemmHeaderLen)
    (.lengthMismatch sharedGemmHeaderLen input.length)
  Except.rejectIf (slice input 0 8 ≠ sharedGemmMagic) .invalidMagic
  let version := readWord 32 input 8
  Except.rejectIf (version ≠ sharedGemmProtocolVersion)
    (.unsupportedVersion version sharedGemmProtocolVersion)
  let headerLen := readWord 32 input 12
  Except.rejectIf (headerLen.toNat ≠ sharedGemmHeaderLen)
    (.invalidHeaderLength headerLen sharedGemmHeaderLen)
  let resourceCount := readWord 32 input 52
  Except.rejectIf (resourceCount ≠ BitVec.ofNat 32 sharedGemmResourceCount)
    (.resourceCount (BitVec.ofNat 32 sharedGemmResourceCount) resourceCount)
  let control : SharedGemmControl := {
    m := readWord 64 input 16
    n := readWord 64 input 24
    k := readWord 64 input 32
    alpha := readWord 32 input 40
    beta := readWord 32 input 44
    hipDeviceIndex := readWord 32 input 48 }
  validateControl control
  return control

/-! ### What is accepted -/

/-- A control with a device, without empty dimensions, whose element counts fit 64 bits. -/
structure SharedGemmControl.Valid (control : SharedGemmControl) : Prop where
  device_nonneg : 0 ≤ control.hipDeviceIndex.toInt
  m_ne_zero : control.m ≠ 0#64
  n_ne_zero : control.n ≠ 0#64
  k_ne_zero : control.k ≠ 0#64
  a_lt : control.m.toNat * control.k.toNat < 2 ^ 64
  b_lt : control.k.toNat * control.n.toNat < 2 ^ 64
  c_lt : control.m.toNat * control.n.toNat < 2 ^ 64

theorem expectedElements_eq_ok_iff {rows columns elements : BitVec 64} {label : String} :
    expectedElements rows columns label = .ok elements ↔
      elements.toNat = rows.toNat * columns.toNat := by
  rw [expectedElements, Option.okOr_eq_ok_iff, BitVec.checkedMul_eq_some_iff]

theorem exists_expectedElements_iff {rows columns : BitVec 64} {label : String} :
    (∃ elements, expectedElements rows columns label = .ok elements) ↔
      rows.toNat * columns.toNat < 2 ^ 64 := by
  simp only [expectedElements_eq_ok_iff]
  exact ⟨fun ⟨elements, h⟩ => h ▸ elements.isLt, BitVec.exists_toNat_eq⟩

theorem matrixBytes_eq_ok_iff {rows columns bytes : BitVec 64} {label : String} :
    matrixBytes rows columns label = .ok bytes ↔
      bytes.toNat = 4 * (rows.toNat * columns.toNat) := by
  have hf32 : sharedF32Bytes.toNat = 4 := rfl
  simp only [matrixBytes, Except.bind_eq_ok_iff, expectedElements_eq_ok_iff,
    Option.okOr_eq_ok_iff, BitVec.checkedMul_eq_some_iff, hf32]
  constructor
  · rintro ⟨elements, helements, hbytes⟩
    rw [hbytes, helements, Nat.mul_comm]
  · intro hbytes
    have hlt := bytes.isLt
    obtain ⟨elements, helements⟩ := BitVec.exists_toNat_eq (w := 64)
      (show rows.toNat * columns.toNat < 2 ^ 64 by omega)
    exact ⟨elements, helements, by rw [hbytes, helements, Nat.mul_comm]⟩

theorem validateControl_eq_ok_iff {control : SharedGemmControl} {u : Unit} :
    validateControl control = .ok u ↔ control.Valid := by
  have hchain : validateControl control = .ok u ↔
      ¬control.hipDeviceIndex.toInt < 0 ∧
      ¬(control.m = 0#64 ∨ control.n = 0#64 ∨ control.k = 0#64) ∧
      (∃ elements, expectedElements control.m control.k "matrix A" = .ok elements) ∧
      (∃ elements, expectedElements control.k control.n "matrix B" = .ok elements) ∧
      (∃ elements, expectedElements control.m control.n "matrix C" = .ok elements) := by
    simp only [validateControl, Except.bind_eq_ok_iff, Except.rejectIf_eq_ok_iff,
      Except.pure_eq_ok_iff, exists_const]
    constructor
    · rintro ⟨hdevice, hzero, a, ha, b, hb, c, hc, _⟩
      exact ⟨hdevice, hzero, ⟨a, ha⟩, ⟨b, hb⟩, c, hc⟩
    · rintro ⟨hdevice, hzero, ⟨a, ha⟩, ⟨b, hb⟩, c, hc⟩
      exact ⟨hdevice, hzero, a, ha, b, hb, c, hc, trivial⟩
  rw [hchain]
  simp only [exists_expectedElements_iff, not_or, not_lt]
  constructor
  · rintro ⟨hdevice, ⟨hm, hn, hk⟩, ha, hb, hc⟩
    exact ⟨hdevice, hm, hn, hk, ha, hb, hc⟩
  · rintro ⟨hdevice, hm, hn, hk, ha, hb, hc⟩
    exact ⟨hdevice, ⟨hm, hn, hk⟩, ha, hb, hc⟩

/-- The lengths are computed exactly for the valid controls whose byte lengths fit 64 bits. -/
theorem expectedResourceLengths_eq_ok_iff {control : SharedGemmControl}
    {lengths : SharedGemmResourceLengths} :
    expectedResourceLengths control = .ok lengths ↔ control.Valid ∧
      lengths.aBytes.toNat = 4 * (control.m.toNat * control.k.toNat) ∧
      lengths.bBytes.toNat = 4 * (control.k.toNat * control.n.toNat) ∧
      lengths.cBytes.toNat = 4 * (control.m.toNat * control.n.toNat) := by
  simp only [expectedResourceLengths, Except.bind_eq_ok_iff, validateControl_eq_ok_iff,
    matrixBytes_eq_ok_iff, Except.pure_eq_ok_iff, exists_const]
  constructor
  · rintro ⟨hvalid, a, ha, b, hb, c, hc, rfl⟩
    exact ⟨hvalid, ha, hb, hc⟩
  · rintro ⟨hvalid, ha, hb, hc⟩
    exact ⟨hvalid, _, ha, _, hb, _, hc, rfl⟩

/-- A control that was decoded is valid. -/
theorem valid_of_decodeControl {input : List Byte} {control : SharedGemmControl}
    (h : decodeControl input = .ok control) : control.Valid := by
  simp only [decodeControl, Except.bind_eq_ok_iff, Except.rejectIf_eq_ok_iff, exists_const,
    validateControl_eq_ok_iff, Except.pure_eq_ok_iff] at h
  obtain ⟨_, _, _, _, _, _, hvalid, rfl⟩ := h
  exact hvalid

end RiftGPU.Gemm
