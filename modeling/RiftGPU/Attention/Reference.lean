import RiftGPU.Attention.Protocol
import RiftGPU.Word.Index

/-!
# The CPU reference attention

The correctness oracle for scaled dot-product attention. This file models
`vrb-attention-reference` on a 64-bit target: the checks of the inputs and the limits, and the
loops over batches, heads, query rows and keys with their indices and the one buffer of scores.
Index arithmetic that overflows and indices out of range panic. The arithmetic on floats is a
parameter.

## Main definitions

* `Attention.AttentionLimits`, `Attention.ReferenceAttentionError`.
* `Attention.FloatFunctions`: the functions on floats besides the four of arithmetic.
* `Attention.rowStep`, `Attention.attentionKernel`: the loops.
* `Attention.executeAttentionF32`: the output of a call.
-/

namespace RiftGPU.Attention

open Fault

/-- The positions of the resources, the order of `expectedResourceLengths`. -/
def qResourceIndex : Fin 4 := 0

/-- The position of K. -/
def kResourceIndex : Fin 4 := 1

/-- The position of V. -/
def vResourceIndex : Fin 4 := 2

/-- The position of the output. -/
def oResourceIndex : Fin 4 := 3

/-- The limits on the size of a call. -/
structure AttentionLimits where
  maxTensorElements : BitVec 64
  maxScoreElements : BitVec 64
deriving DecidableEq, Repr

/-- The default limits. -/
def AttentionLimits.default : AttentionLimits where
  maxTensorElements := 67108864#64
  maxScoreElements := 33554432#64

/-- The ways in which a call can fail. -/
inductive ReferenceAttentionError where
  | protocol (error : AttentionProtocolError)
  | unsupportedDataType (dataType : AttentionDataType)
  | inputLength (name : String) (expected actual : ℕ)
  | resourceLimit (what : String) (requested limit : BitVec 64)
  | addressSpaceOverflow
  | numericalFailure
deriving DecidableEq, Repr

/-- The functions on floats that the reference uses besides the four of arithmetic, and the reading
of the scale. -/
class FloatFunctions (F : Type) where
  ofBits : F32 → F
  negInfinity : F
  max : F → F → F
  exp : F → F
  isFinite : F → Bool
  leZero : F → Bool

/-- The dimensions of a call, as indices. -/
structure AttentionDims where
  batch : ℕ
  queryHeads : ℕ
  kvHeads : ℕ
  queryLen : ℕ
  kvLen : ℕ
  headDim : ℕ
deriving DecidableEq, Repr

/-- The dimensions of a control. -/
def AttentionControl.dims (control : AttentionControl) : AttentionDims where
  batch := control.batch.toNat
  queryHeads := control.queryHeads.toNat
  kvHeads := control.kvHeads.toNat
  queryLen := control.queryLen.toNat
  kvLen := control.kvLen.toNat
  headDim := control.headDim.toNat

/-- A call of the protocol crate, whose errors are passed on. -/
def ofProtocol {α : Type} (x : Except AttentionProtocolError α) :
    Except (Fault ReferenceAttentionError) α :=
  Fault.lift (x.mapError ReferenceAttentionError.protocol)

/-- The number of floats in a resource. A word of 64 bits is an index on the target. -/
def elementsFromF32Bytes (bytes : BitVec 64) : BitVec 64 := bytes / 4#64

/-- An input must have as many elements as the control says. -/
def checkInputLen (name : String) (actual expected : ℕ) :
    Except (Fault ReferenceAttentionError) Unit :=
  Except.rejectIf (actual ≠ expected) (.error (.inputLength name expected actual))

/-- A number of elements must not exceed its limit. -/
def checkLimit (what : String) (requested limit : BitVec 64) :
    Except (Fault ReferenceAttentionError) Unit :=
  Except.rejectIf (requested > limit) (.error (.resourceLimit what requested limit))

/-- `checked_product` of this crate, which fails with an error of its own. -/
def scoreProduct (values : List (BitVec 64)) :
    Except (Fault ReferenceAttentionError) (BitVec 64) :=
  values.foldlM (fun acc value => (acc.checkedMul value).okOr (.error .addressSpaceOverflow)) 1#64

/-! ### The loops -/

/-- The index of the first element of a row in a tensor. -/
def rowBase (batchIndex heads head len position headDim : ℕ) :
    Except (Fault ReferenceAttentionError) ℕ := do
  let base ← usizeMul batchIndex heads
  let base ← usizeAdd base head
  let base ← usizeMul base len
  let base ← usizeAdd base position
  usizeMul base headDim

section Kernel

variable {F : Type} [Zero F] [Add F] [Sub F] [Mul F] [Div F] [FloatFunctions F]

/-- One product of a dot product. -/
def dotStep (q k : List F) (qBase kBase : ℕ) (dot : F) (dim : ℕ) :
    Except (Fault ReferenceAttentionError) F := do
  let qIndex ← usizeAdd qBase dim
  let qValue ← index q qIndex
  let kIndex ← usizeAdd kBase dim
  let kValue ← index k kIndex
  return dot + qValue * kValue

/-- The score of one key, written to its slot, and the maximum so far. -/
def scoreStep (dims : AttentionDims) (scale : F) (q k : List F) (batchIndex kvHead qBase : ℕ)
    (state : List F × F) (keyPosition : ℕ) :
    Except (Fault ReferenceAttentionError) (List F × F) := do
  let kBase ← rowBase batchIndex dims.kvHeads kvHead dims.kvLen keyPosition dims.headDim
  let dot ← (List.range dims.headDim).foldlM (dotStep q k qBase kBase) 0
  let score := dot * scale
  return (state.1.set keyPosition score, FloatFunctions.max state.2 score)

/-- One score replaced by its exponential, and the denominator so far. -/
def expStep (maxScore : F) (state : List F × F) (keyPosition : ℕ) :
    Except (Fault ReferenceAttentionError) (List F × F) := do
  let score ← index state.1 keyPosition
  let score := FloatFunctions.exp (score - maxScore)
  return (state.1.set keyPosition score, state.2 + score)

/-- One element of a weighted value row, added to the output. -/
def weightStep (v : List F) (weight : F) (vBase oBase : ℕ) (output : List F) (dim : ℕ) :
    Except (Fault ReferenceAttentionError) (List F) := do
  let vIndex ← usizeAdd vBase dim
  let vValue ← index v vIndex
  let oIndex ← usizeAdd oBase dim
  let old ← index output oIndex
  return output.set oIndex (old + weight * vValue)

/-- The value row of one key, weighted and added to the output. -/
def valueStep (dims : AttentionDims) (v : List F) (batchIndex kvHead oBase : ℕ) (denominator : F)
    (scores output : List F) (keyPosition : ℕ) :
    Except (Fault ReferenceAttentionError) (List F) := do
  let score ← index scores keyPosition
  let weight := score / denominator
  let vBase ← rowBase batchIndex dims.kvHeads kvHead dims.kvLen keyPosition dims.headDim
  (List.range dims.headDim).foldlM (weightStep v weight vBase oBase) output

/-- The last key that a query sees. -/
def maxKey (dims : AttentionDims) (causal : Bool) (causalBase queryPosition : ℕ) :
    Except (Fault ReferenceAttentionError) ℕ :=
  if causal then usizeAdd causalBase queryPosition else usizeSub dims.kvLen 1

/-- One query row. The state is the output and the buffer of scores. -/
def rowStep (dims : AttentionDims) (causal : Bool) (scale : F) (q k v : List F)
    (causalBase batchIndex queryHead kvHead : ℕ) (state : List F × List F) (queryPosition : ℕ) :
    Except (Fault ReferenceAttentionError) (List F × List F) := do
  let maxKey ← maxKey dims causal causalBase queryPosition
  let qBase ← rowBase batchIndex dims.queryHeads queryHead dims.queryLen queryPosition dims.headDim
  let keys ← usizeAdd maxKey 1
  -- An iteration over the slots of the buffer that takes at most `keys` of them.
  let scored ← (List.range (min keys state.2.length)).foldlM
    (scoreStep dims scale q k batchIndex kvHead qBase) (state.2, FloatFunctions.negInfinity)
  Except.rejectIf (scored.1.length < keys) (.panic "range end index out of range for slice")
  let weighted ← (List.range keys).foldlM (expStep scored.2) (scored.1, 0)
  Except.rejectIf (!FloatFunctions.isFinite weighted.2 ∨ FloatFunctions.leZero weighted.2)
    (.error .numericalFailure)
  let oBase ← rowBase batchIndex dims.queryHeads queryHead dims.queryLen queryPosition dims.headDim
  let output ← (List.range (min keys weighted.1.length)).foldlM
    (valueStep dims v batchIndex kvHead oBase weighted.2 weighted.1) state.1
  return (output, weighted.1)

/-- One query head. -/
def headStep (dims : AttentionDims) (causal : Bool) (scale : F) (q k v : List F)
    (headsPerKv causalBase batchIndex : ℕ) (state : List F × List F) (queryHead : ℕ) :
    Except (Fault ReferenceAttentionError) (List F × List F) := do
  let kvHead ← usizeDiv queryHead headsPerKv
  (List.range dims.queryLen).foldlM
    (rowStep dims causal scale q k v causalBase batchIndex queryHead kvHead) state

/-- One batch. -/
def batchStep (dims : AttentionDims) (causal : Bool) (scale : F) (q k v : List F)
    (headsPerKv causalBase : ℕ) (state : List F × List F) (batchIndex : ℕ) :
    Except (Fault ReferenceAttentionError) (List F × List F) :=
  (List.range dims.queryHeads).foldlM
    (headStep dims causal scale q k v headsPerKv causalBase batchIndex) state

/-- The elements of the output. The subtraction for the causal base saturates. -/
def attentionKernel (dims : AttentionDims) (causal : Bool) (scale : F) (q k v : List F)
    (outputElements : ℕ) : Except (Fault ReferenceAttentionError) (List F) := do
  let headsPerKv ← usizeDiv dims.queryHeads dims.kvHeads
  let causalBase := dims.kvLen - dims.queryLen
  let state ← (List.range dims.batch).foldlM
    (batchStep dims causal scale q k v headsPerKv causalBase)
    (List.replicate outputElements 0, List.replicate dims.kvLen 0)
  return state.1

/-- The output of a call, computed on numbers of type `F`. -/
def executeAttentionF32 (control : AttentionControl) (q k v : List F) (limits : AttentionLimits) :
    Except (Fault ReferenceAttentionError) (List F) := do
  ofProtocol control.validate
  Except.rejectIf (control.dataType ≠ .f32) (.error (.unsupportedDataType control.dataType))
  let lengths ← ofProtocol (expectedResourceLengths control)
  let expectedQ := elementsFromF32Bytes (lengths.get qResourceIndex)
  let expectedK := elementsFromF32Bytes (lengths.get kResourceIndex)
  let expectedV := elementsFromF32Bytes (lengths.get vResourceIndex)
  let expectedO := elementsFromF32Bytes (lengths.get oResourceIndex)
  checkInputLen "q" q.length expectedQ.toNat
  checkInputLen "k" k.length expectedK.toNat
  checkInputLen "v" v.length expectedV.toNat
  checkLimit "output tensor elements" expectedO limits.maxTensorElements
  let scoreElements ← scoreProduct
    [control.batch.setWidth 64, control.queryHeads.setWidth 64, control.queryLen.setWidth 64,
      control.kvLen.setWidth 64]
  checkLimit "attention score elements" scoreElements limits.maxScoreElements
  attentionKernel control.dims control.isCausal (FloatFunctions.ofBits control.scale) q k v
    expectedO.toNat

end Kernel

end RiftGPU.Attention
