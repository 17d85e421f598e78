import RiftGPU.Word.Checked
import RiftGPU.Word.Float32
import RiftGPU.Word.LittleEndian
import RiftGPU.Word.Outcome

/-!
# The attention control message

A control message of 64 bytes describes the shape, datatype, causal behaviour, scale and target
device of one scaled dot-product attention call. Tensor payloads never appear in it. This file
models `vrb-attention-protocol`: the control record, its validation, the byte lengths of the four
resources, and the encoder and decoder of the message.

## Main definitions

* `Attention.AttentionControl` and `Attention.AttentionControl.validate`.
* `Attention.expectedResourceLengths`: the byte lengths of Q, K, V and the output.
* `Attention.encodeControl`, `Attention.decodeControl`.
-/

namespace RiftGPU.Attention

open Bytes

/-- `ATTENTION_MAGIC`, the bytes `VRBA`. -/
def attentionMagic : BitVec 32 := 0x41425256#32

/-- The version of the message. -/
def attentionProtocolVersion : BitVec 16 := 1#16

/-- The length of the message. -/
def attentionHeaderLen : ℕ := 64

/-- The number of regions of an invocation: Q, K, V and the output. -/
def attentionResourceCount : BitVec 32 := 4#32

/-- The flag of a causal mask. -/
def flagCausal : BitVec 32 := 1#32

/-- The flags that a control may set. -/
def knownFlags : BitVec 32 := flagCausal

/-- The type of an element. -/
inductive AttentionDataType where
  | f32
  | f16
  | bf16
deriving DecidableEq, Repr

/-- The ways in which a control or a message can be refused. -/
inductive AttentionProtocolError where
  | invalidLength (expected actual : ℕ)
  | invalidMagic
  | unsupportedVersion (version : BitVec 16)
  | invalidHeaderLength (length : BitVec 16)
  | unsupportedFlags (flags : BitVec 32)
  | unsupportedDataType (tag : BitVec 32)
  | zeroDimension
  | invalidHeadGrouping (queryHeads kvHeads : BitVec 32)
  | invalidCausalLengths (queryLen kvLen : BitVec 32)
  | invalidScale (scale : F32)
  | invalidDeviceIndex (index : BitVec 32)
  | invalidResourceCount (count : BitVec 32)
  | reservedFieldNonZero
  | sizeOverflow
deriving DecidableEq, Repr

namespace AttentionDataType

/-- The number of bytes of an element. -/
def elementBytes : AttentionDataType → BitVec 64
  | f32 => 4#64
  | f16 | bf16 => 2#64

/-- The discriminant, as the cast `as u32` yields it. -/
def toRaw : AttentionDataType → BitVec 32
  | f32 => 1#32
  | f16 => 2#32
  | bf16 => 3#32

/-- The type with this discriminant. -/
def fromRaw (value : BitVec 32) : Except AttentionProtocolError AttentionDataType :=
  if value = 1#32 then .ok f32
  else if value = 2#32 then .ok f16
  else if value = 3#32 then .ok bf16
  else .error (.unsupportedDataType value)

/-- A tag is accepted exactly when it is the discriminant of the result. -/
theorem fromRaw_eq_ok_iff {value : BitVec 32} {dataType : AttentionDataType} :
    fromRaw value = .ok dataType ↔ value = dataType.toRaw := by
  constructor
  · intro h
    unfold fromRaw at h
    split_ifs at h with h1 h2 h3
    all_goals cases h
    · exact h1
    · exact h2
    · exact h3
  · rintro rfl
    cases dataType <;> rfl

end AttentionDataType

/-- A control record. The device index is a signed 32-bit word. -/
structure AttentionControl where
  flags : BitVec 32
  dataType : AttentionDataType
  batch : BitVec 32
  queryHeads : BitVec 32
  kvHeads : BitVec 32
  queryLen : BitVec 32
  kvLen : BitVec 32
  headDim : BitVec 32
  scale : F32
  deviceIndex : BitVec 32
deriving DecidableEq, Repr

/-- The product of the values, unless a partial product overflows. -/
def checkedProduct (values : List (BitVec 64)) : Except AttentionProtocolError (BitVec 64) :=
  values.foldlM (fun acc value => (acc.checkedMul value).okOr .sizeOverflow) 1#64

/-- The byte lengths of Q, K, V and the output, in this order. -/
def expectedResourceLengths (control : AttentionControl) :
    Except AttentionProtocolError (Vector (BitVec 64) 4) := do
  let width := control.dataType.elementBytes
  let qElements ← checkedProduct
    [control.batch.setWidth 64, control.queryHeads.setWidth 64, control.queryLen.setWidth 64,
      control.headDim.setWidth 64]
  let kvElements ← checkedProduct
    [control.batch.setWidth 64, control.kvHeads.setWidth 64, control.kvLen.setWidth 64,
      control.headDim.setWidth 64]
  let qBytes ← (qElements.checkedMul width).okOr .sizeOverflow
  let kvBytes ← (kvElements.checkedMul width).okOr .sizeOverflow
  return #v[qBytes, kvBytes, kvBytes, qBytes]

namespace AttentionControl

/-- Whether the control asks for a causal mask. -/
def isCausal (control : AttentionControl) : Bool := control.flags &&& flagCausal != 0#32

/-- The checks of a control, in the order of the source. -/
def validate (control : AttentionControl) : Except AttentionProtocolError Unit := do
  Except.rejectIf (control.flags &&& ~~~knownFlags ≠ 0#32) (.unsupportedFlags control.flags)
  Except.rejectIf (control.batch = 0#32 ∨ control.queryHeads = 0#32 ∨ control.kvHeads = 0#32 ∨
    control.queryLen = 0#32 ∨ control.kvLen = 0#32 ∨ control.headDim = 0#32) .zeroDimension
  -- A head count is a multiple of zero only when it is zero, which `BitVec` division agrees with.
  Except.rejectIf (control.kvHeads > control.queryHeads ∨
    control.queryHeads % control.kvHeads ≠ 0#32)
    (.invalidHeadGrouping control.queryHeads control.kvHeads)
  Except.rejectIf (control.isCausal ∧ control.kvLen < control.queryLen)
    (.invalidCausalLengths control.queryLen control.kvLen)
  Except.rejectIf (¬control.scale.isFinite ∨ control.scale.leZero) (.invalidScale control.scale)
  Except.rejectIf (control.deviceIndex.toInt < 0) (.invalidDeviceIndex control.deviceIndex)
  let _ ← expectedResourceLengths control
  return ()

end AttentionControl

/-! ### Reading and writing fields -/

/-- The 16-bit word at an offset. -/
def readU16 (input : List Byte) (offset : ℕ) : BitVec 16 := ofLe 16 (slice input offset 2)

/-- The 32-bit word at an offset. -/
def readU32 (input : List Byte) (offset : ℕ) : BitVec 32 := ofLe 32 (slice input offset 4)

/-- The 64-bit word at an offset. -/
def readU64 (input : List Byte) (offset : ℕ) : BitVec 64 := ofLe 64 (slice input offset 8)

/-- The message with a 16-bit word written at an offset. -/
def writeU16 (output : List Byte) (offset : ℕ) (value : BitVec 16) : List Byte :=
  splice output offset (toLe value)

/-- The message with a 32-bit word written at an offset. -/
def writeU32 (output : List Byte) (offset : ℕ) (value : BitVec 32) : List Byte :=
  splice output offset (toLe value)

/-- The message with a 64-bit word written at an offset. -/
def writeU64 (output : List Byte) (offset : ℕ) (value : BitVec 64) : List Byte :=
  splice output offset (toLe value)

/-! ### The message -/

/-- The message that carries a control. -/
def encodeControl (control : AttentionControl) : Except AttentionProtocolError (List Byte) := do
  control.validate
  let output := List.replicate attentionHeaderLen 0#8
  let output := writeU32 output 0 attentionMagic
  let output := writeU16 output 4 attentionProtocolVersion
  let output := writeU16 output 6 (BitVec.ofNat 16 attentionHeaderLen)
  let output := writeU32 output 8 control.flags
  let output := writeU32 output 12 control.dataType.toRaw
  let output := writeU32 output 16 control.batch
  let output := writeU32 output 20 control.queryHeads
  let output := writeU32 output 24 control.kvHeads
  let output := writeU32 output 28 control.queryLen
  let output := writeU32 output 32 control.kvLen
  let output := writeU32 output 36 control.headDim
  let output := writeU32 output 40 control.scale
  let output := writeU32 output 44 control.deviceIndex
  let output := writeU32 output 48 attentionResourceCount
  let output := writeU32 output 52 0#32
  let output := writeU64 output 56 0#64
  return output

/-- The control that a message carries. -/
def decodeControl (input : List Byte) : Except AttentionProtocolError AttentionControl := do
  Except.rejectIf (input.length ≠ attentionHeaderLen)
    (.invalidLength attentionHeaderLen input.length)
  Except.rejectIf (readU32 input 0 ≠ attentionMagic) .invalidMagic
  let version := readU16 input 4
  Except.rejectIf (version ≠ attentionProtocolVersion) (.unsupportedVersion version)
  Except.rejectIf ((readU16 input 6).toNat ≠ attentionHeaderLen)
    (.invalidHeaderLength (readU16 input 6))
  let resourceCount := readU32 input 48
  Except.rejectIf (resourceCount ≠ attentionResourceCount) (.invalidResourceCount resourceCount)
  Except.rejectIf (readU32 input 52 ≠ 0#32 ∨ readU64 input 56 ≠ 0#64) .reservedFieldNonZero
  let dataType ← AttentionDataType.fromRaw (readU32 input 12)
  let control : AttentionControl :=
    { flags := readU32 input 8
      dataType := dataType
      batch := readU32 input 16
      queryHeads := readU32 input 20
      kvHeads := readU32 input 24
      queryLen := readU32 input 28
      kvLen := readU32 input 32
      headDim := readU32 input 36
      scale := readU32 input 40
      deviceIndex := readU32 input 44 }
  control.validate
  return control

end RiftGPU.Attention
