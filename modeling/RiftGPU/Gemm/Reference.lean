import RiftGPU.Gemm.Protocol

/-!
# The CPU reference GEMM

The correctness oracle for `C = alpha * A * B + beta * C` on row-major matrices. This file models
`vrb-gemm-reference` on a 64-bit target: the limits, the required output length, and the triple
loop with its indices. Index arithmetic that overflows and indices out of range panic. The
arithmetic on floats is a parameter.

## Main definitions

* `Gemm.GemmLimits`, `Gemm.validateLimits`.
* `Gemm.requiredOutputLen`: the length of the response, without computing it.
* `Gemm.executeGemmBytes`: the response to a request.
-/

namespace RiftGPU.Gemm

open Bytes

/-- The limits on the size of a call. -/
structure GemmLimits where
  maxMatrixElements : BitVec 64
  maxMultiplyAdds : BitVec 64
deriving DecidableEq, Repr

/-- The default limits. -/
def GemmLimits.default : GemmLimits where
  maxMatrixElements := 16777216#64
  maxMultiplyAdds := 1000000000#64

/-- The ways in which a call can fail. -/
inductive ReferenceGemmError where
  | protocol (error : GemmProtocolError)
  | resourceLimit (resource : String) (actual maximum : BitVec 128)
  | addressSpaceOverflow
deriving DecidableEq, Repr

instance : ToString ReferenceGemmError where
  toString
    | .protocol error => toString error
    | .resourceLimit resource actual maximum =>
      s!"GEMM {resource} requires {actual.toNat} units, exceeding configured limit " ++
        s!"{maximum.toNat}"
    | .addressSpaceOverflow =>
      "GEMM dimensions cannot be represented in this process address space"

/-- A call of the protocol crate, whose errors are passed on. -/
def ofProtocol {α : Type} (x : Except GemmProtocolError α) :
    Except (Fault ReferenceGemmError) α :=
  Fault.lift (x.mapError ReferenceGemmError.protocol)

/-- The limit on the number of elements of one matrix. -/
def checkElements (limits : GemmLimits) (resource : String) (elements : BitVec 64) :
    Except (Fault ReferenceGemmError) Unit :=
  Except.rejectIf (elements > limits.maxMatrixElements)
    (.error (.resourceLimit resource (elements.setWidth 128)
      (limits.maxMatrixElements.setWidth 128)))

/-- The matrices and the number of multiplications must not exceed the limits. -/
def validateLimits (header : GemmRequestMeta) (limits : GemmLimits) :
    Except (Fault ReferenceGemmError) Unit := do
  checkElements limits "matrix A elements" header.aElements
  checkElements limits "matrix B elements" header.bElements
  checkElements limits "matrix C/output elements" header.cElements
  let product ← Fault.orPanic ((header.m.setWidth 128).checkedMul (header.n.setWidth 128))
    "attempt to multiply with overflow"
  let operations ← Fault.orPanic (product.checkedMul (header.k.setWidth 128))
    "attempt to multiply with overflow"
  Except.rejectIf (operations > limits.maxMultiplyAdds.setWidth 128)
    (.error (.resourceLimit "multiply-add count" operations
      (limits.maxMultiplyAdds.setWidth 128)))

/-- The length of the response to a request within the limits. -/
def requiredOutputLen (input : List Byte) (limits : GemmLimits) :
    Except (Fault ReferenceGemmError) (BitVec 64) := do
  let header ← ofProtocol (inspectRequest input)
  validateLimits header limits
  ofProtocol (encodedResponseLen header.m header.n)

section Kernel

variable {F : Type} [Add F] [Mul F] [Zero F] [BEq F] [FloatCodec F]

open FloatCodec

/-- The sum of two indices, which panics when it overflows. -/
def usizeAdd (a b : ℕ) : Except (Fault ReferenceGemmError) ℕ :=
  Fault.orPanic (Usize.checkedAdd a b) "attempt to add with overflow"

/-- The product of two indices, which panics when it overflows. -/
def usizeMul (a b : ℕ) : Except (Fault ReferenceGemmError) ℕ :=
  Fault.orPanic (Usize.checkedMul a b) "attempt to multiply with overflow"

/-- The output before the products are added: zeros, overwritten by `beta * C` when C is present
and `beta` is not zero. -/
def scaledC (beta : F) (c : Option (List F32)) (outputElements : ℕ) : List F :=
  let output := List.replicate outputElements (0 : F)
  match c with
  | some c =>
    if beta != 0 then
      List.zipWith (fun _ source => beta * ofBits source) output c ++ output.drop c.length
    else output
  | none => output

/-- One iteration of the innermost loop. -/
def columnStep (scaledA : F) (b : List F32) (bRow outputRow : ℕ) (output : List F) (column : ℕ) :
    Except (Fault ReferenceGemmError) (List F) := do
  let bIndex ← usizeAdd bRow column
  let bValue ← Fault.index b bIndex
  let outputIndex ← usizeAdd outputRow column
  let old ← Fault.index output outputIndex
  return output.set outputIndex (old + scaledA * ofBits bValue)

/-- One iteration of the middle loop. -/
def depthStep (alpha : F) (a b : List F32) (n aRow outputRow : ℕ) (output : List F)
    (depth : ℕ) : Except (Fault ReferenceGemmError) (List F) := do
  let aIndex ← usizeAdd aRow depth
  let aValue ← Fault.index a aIndex
  let scaledA := alpha * ofBits aValue
  let bRow ← usizeMul depth n
  (List.range n).foldlM (columnStep scaledA b bRow outputRow) output

/-- One iteration of the outermost loop. -/
def rowStep (alpha : F) (a b : List F32) (n k : ℕ) (output : List F) (row : ℕ) :
    Except (Fault ReferenceGemmError) (List F) := do
  let aRow ← usizeMul row k
  let outputRow ← usizeMul row n
  (List.range k).foldlM (depthStep alpha a b n aRow outputRow) output

/-- The elements of `alpha * A * B + beta * C`. Dimensions are indices on a 64-bit target. -/
def gemmKernel (alpha beta : F) (m n k outputElements : ℕ) (a b : List F32)
    (c : Option (List F32)) : Except (Fault ReferenceGemmError) (List F) :=
  let output := scaledC beta c outputElements
  if alpha != 0 ∧ m ≠ 0 ∧ n ≠ 0 ∧ k ≠ 0 then
    (List.range m).foldlM (rowStep alpha a b n k) output
  else .ok output

variable (F) in
/-- The response to a request, computed on numbers of type `F`. -/
def executeGemmBytes (input : List Byte) (limits : GemmLimits) :
    Except (Fault ReferenceGemmError) (List Byte) := do
  let header ← ofProtocol (inspectRequest input)
  validateLimits header limits
  let request ← ofProtocol (decodeRequest input)
  let m := request.requestMeta.m
  let n := request.requestMeta.n
  let k := request.requestMeta.k
  let output ← gemmKernel (ofBits request.requestMeta.alpha : F) (ofBits request.requestMeta.beta)
    m.toNat n.toNat k.toNat request.requestMeta.cElements.toNat request.a request.b request.c
  ofProtocol (encodeResponse m n (output.map toBits))

end Kernel

end RiftGPU.Gemm
