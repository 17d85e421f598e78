import RiftGPU.Word.Checked
import RiftGPU.Word.Float32
import RiftGPU.Word.LittleEndian
import RiftGPU.Word.Outcome

/-!
# The GEMM request and response messages

The host-byte GEMM protocol carries the matrices of `C = alpha * A * B + beta * C` inside its
messages. A request is a header of 56 bytes followed by the elements of A, of B and, when a flag
says so, of C; a response is a header of 32 bytes followed by the elements of the result. This
file models `vrb-gemm-protocol` on a 64-bit target. Matrix elements and scalars are bit patterns.

## Main definitions

* `Gemm.inspectRequest`: validation of a request header against the length of the message.
* `Gemm.encodeRequest`, `Gemm.decodeRequest`, `Gemm.encodeResponse`, `Gemm.decodeResponse`.
-/

namespace RiftGPU.Gemm

open Bytes

/-- The version of both messages. -/
def gemmProtocolVersion : BitVec 32 := 1#32

/-- The first eight bytes of a request. -/
def gemmRequestMagic : List Byte := ascii "VRBGEMM1"

/-- The first eight bytes of a response. -/
def gemmResponseMagic : List Byte := ascii "VRBGEMR1"

/-- The length of a request's header. -/
def gemmRequestHeaderLen : ℕ := 56

/-- The length of a response's header. -/
def gemmResponseHeaderLen : ℕ := 32

/-- The flag that says that the elements of C follow those of B. -/
def gemmFlagHasC : BitVec 32 := 1#32

/-- The flags that a request may set. -/
def gemmKnownFlags : BitVec 32 := gemmFlagHasC

/-- The number of bytes of an element. -/
def f32Bytes : BitVec 64 := 4#64

/-- A request to encode: the dimensions, the two scalars and the elements of the matrices, in
row-major order. -/
structure GemmRequest where
  m : BitVec 64
  n : BitVec 64
  k : BitVec 64
  alpha : F32
  beta : F32
  a : List F32
  b : List F32
  c : Option (List F32)
deriving DecidableEq, Repr

/-- What a valid header says: the dimensions and scalars, the numbers of elements they give, and the
length of the whole message. -/
structure GemmRequestMeta where
  m : BitVec 64
  n : BitVec 64
  k : BitVec 64
  alpha : F32
  beta : F32
  hasC : Bool
  aElements : BitVec 64
  bElements : BitVec 64
  cElements : BitVec 64
  encodedLen : BitVec 64
deriving DecidableEq, Repr

/-- A decoded request: its header and the elements of its matrices. -/
structure DecodedGemmRequest where
  requestMeta : GemmRequestMeta
  a : List F32
  b : List F32
  c : Option (List F32)
deriving DecidableEq, Repr

/-- A decoded response: the dimensions and the elements of the result. -/
structure DecodedGemmResponse where
  m : BitVec 64
  n : BitVec 64
  values : List F32
deriving DecidableEq, Repr

/-- The ways in which a message can be refused. -/
inductive GemmProtocolError where
  | truncated (minimum actual : ℕ)
  | invalidMagic
  | unsupportedVersion (actual expected : BitVec 32)
  | invalidHeaderLength (actual : BitVec 32) (expected : ℕ)
  | unsupportedFlags (flags : BitVec 32)
  | dimensionOverflow (label : String)
  | lengthOverflow
  | lengthMismatch (expected actual : BitVec 64)
  | matrixLengthMismatch (matrix : String) (expected actual : BitVec 64)
  | addressSpaceOverflow
deriving DecidableEq, Repr

instance : ToString GemmProtocolError where
  toString
    | .truncated minimum actual =>
      s!"GEMM message is truncated: need at least {minimum} bytes, got {actual}"
    | .invalidMagic => "invalid GEMM message magic"
    | .unsupportedVersion actual expected =>
      s!"unsupported GEMM protocol version {actual.toNat}; expected {expected.toNat}"
    | .invalidHeaderLength actual expected =>
      s!"invalid GEMM header length {actual.toNat}; expected {expected}"
    | .unsupportedFlags flags => s!"unsupported GEMM request flags 0x{flags.toHex}"
    | .dimensionOverflow label => s!"GEMM dimensions overflow while computing {label}"
    | .lengthOverflow => "GEMM message length overflow"
    | .lengthMismatch expected actual =>
      s!"GEMM message length {actual.toNat} does not match required length {expected.toNat}"
    | .matrixLengthMismatch matrix expected actual =>
      s!"matrix {matrix} contains {actual.toNat} elements; expected {expected.toNat}"
    | .addressSpaceOverflow =>
      "GEMM message cannot be represented in this process address space"

/-! ### Sizes -/

/-- The number of elements of a matrix, named `label` in the error. -/
def checkedElements (rows columns : BitVec 64) (label : String) :
    Except GemmProtocolError (BitVec 64) :=
  (rows.checkedMul columns).okOr (.dimensionOverflow label)

/-- The length of the response that carries an `m × n` result. -/
def encodedResponseLen (m n : BitVec 64) : Except GemmProtocolError (BitVec 64) := do
  let elements ← checkedElements m n "response matrix"
  let payload ← (elements.checkedMul f32Bytes).okOr .lengthOverflow
  ((BitVec.ofNat 64 gemmResponseHeaderLen).checkedAdd payload).okOr .lengthOverflow

/-- A matrix must have as many elements as its dimensions say. -/
def validateSliceLen (matrix : String) (expected : BitVec 64) (actual : ℕ) :
    Except GemmProtocolError Unit := do
  let actual ← (BitVec.tryOfNat 64 actual).okOr .addressSpaceOverflow
  Except.rejectIf (actual ≠ expected) (.matrixLengthMismatch matrix expected actual)

/-- A message must have at least `minimum` bytes. -/
def requireLen (input : List Byte) (minimum : ℕ) : Except GemmProtocolError Unit :=
  Except.rejectIf (input.length < minimum) (.truncated minimum input.length)

/-! ### Reading and writing fields -/

/-- The `n` bytes of the message at an offset. -/
def readArray (n : ℕ) (input : List Byte) (offset : ℕ) :
    Except GemmProtocolError (List Byte) := do
  let stop ← (Usize.checkedAdd offset n).okOr .lengthOverflow
  Except.rejectIf (input.length < stop) (.truncated stop input.length)
  return slice input offset n

/-- The 32-bit word at an offset. -/
def readU32 (input : List Byte) (offset : ℕ) : Except GemmProtocolError (BitVec 32) := do
  let bytes ← readArray 4 input offset
  return ofLe 32 bytes

/-- The 64-bit word at an offset. -/
def readU64 (input : List Byte) (offset : ℕ) : Except GemmProtocolError (BitVec 64) := do
  let bytes ← readArray 8 input offset
  return ofLe 64 bytes

/-- The element at an offset. -/
def readF32 (input : List Byte) (offset : ℕ) : Except GemmProtocolError F32 := do
  let bytes ← readArray 4 input offset
  return ofLe 32 bytes

/-- The loop of `readF32Values`: `count` reads from `cursor` on, pushed behind `values`. -/
def readF32Loop (input : List Byte) :
    ℕ → ℕ → List F32 → Except GemmProtocolError (List F32 × ℕ)
  | 0, cursor, values => .ok (values, cursor)
  | count + 1, cursor, values => do
    let value ← readF32 input cursor
    let next ← (Usize.checkedAdd cursor 4).okOr .lengthOverflow
    readF32Loop input count next (values ++ [value])

/-- The next `count` elements of the message, and the cursor behind them. The conversion of the
count to an index never fails on a 64-bit target. -/
def readF32Values (input : List Byte) (cursor : ℕ) (count : BitVec 64) :
    Except GemmProtocolError (List F32 × ℕ) :=
  readF32Loop input count.toNat cursor []

/-- The message with the elements written behind it. -/
def writeF32Values (output : List Byte) (values : List F32) : List Byte :=
  values.foldl (fun output value => output ++ toLe value) output

/-! ### Requests -/

/-- The number of payload elements that the encoder and the header check both compute. -/
def payloadElements (aElements bElements cElements : BitVec 64) (hasC : Bool) :
    Option (BitVec 64) :=
  (aElements.checkedAdd bElements).bind fun value =>
    if hasC then value.checkedAdd cElements else some value

/-- The header of a request, checked against the length of the message. -/
def inspectRequest (input : List Byte) : Except GemmProtocolError GemmRequestMeta := do
  requireLen input gemmRequestHeaderLen
  Except.rejectIf (slice input 0 8 ≠ gemmRequestMagic) .invalidMagic
  let version ← readU32 input 8
  Except.rejectIf (version ≠ gemmProtocolVersion)
    (.unsupportedVersion version gemmProtocolVersion)
  let headerLen ← readU32 input 12
  Except.rejectIf (headerLen.toNat ≠ gemmRequestHeaderLen)
    (.invalidHeaderLength headerLen gemmRequestHeaderLen)
  let flags ← readU32 input 16
  Except.rejectIf (flags &&& ~~~gemmKnownFlags ≠ 0#32) (.unsupportedFlags flags)
  let m ← readU64 input 24
  let n ← readU64 input 32
  let k ← readU64 input 40
  let alpha ← readF32 input 48
  let beta ← readF32 input 52
  let hasC := flags &&& gemmFlagHasC != 0#32
  let aElements ← checkedElements m k "matrix A"
  let bElements ← checkedElements k n "matrix B"
  let cElements ← checkedElements m n "matrix C"
  let elements ← (payloadElements aElements bElements cElements hasC).okOr .lengthOverflow
  let payloadBytes ← (elements.checkedMul f32Bytes).okOr .lengthOverflow
  let encodedLen ← ((BitVec.ofNat 64 gemmRequestHeaderLen).checkedAdd payloadBytes).okOr
    .lengthOverflow
  let actualLen ← (BitVec.tryOfNat 64 input.length).okOr .addressSpaceOverflow
  Except.rejectIf (actualLen ≠ encodedLen) (.lengthMismatch encodedLen actualLen)
  return { m, n, k, alpha, beta, hasC, aElements, bElements, cElements, encodedLen }

/-- The request that a message carries. -/
def decodeRequest (input : List Byte) : Except GemmProtocolError DecodedGemmRequest := do
  let requestMeta ← inspectRequest input
  let (a, cursor) ← readF32Values input gemmRequestHeaderLen requestMeta.aElements
  let (b, cursor) ← readF32Values input cursor requestMeta.bElements
  if requestMeta.hasC then
    let (c, _) ← readF32Values input cursor requestMeta.cElements
    return { requestMeta, a, b, c := some c }
  else
    return { requestMeta, a, b, c := none }

/-- The message that carries a request. -/
def encodeRequest (request : GemmRequest) : Except GemmProtocolError (List Byte) := do
  let aElements ← checkedElements request.m request.k "matrix A"
  let bElements ← checkedElements request.k request.n "matrix B"
  let cElements ← checkedElements request.m request.n "matrix C"
  validateSliceLen "A" aElements request.a.length
  validateSliceLen "B" bElements request.b.length
  request.c.elim (.ok ()) fun c => validateSliceLen "C" cElements c.length
  let elements ← (payloadElements aElements bElements cElements request.c.isSome).okOr
    .lengthOverflow
  let payloadBytes ← (elements.checkedMul f32Bytes).okOr .lengthOverflow
  let _ ← ((BitVec.ofNat 64 gemmRequestHeaderLen).checkedAdd payloadBytes).okOr .lengthOverflow
  let output := gemmRequestMagic
  let output := output ++ toLe gemmProtocolVersion
  let output := output ++ toLe (BitVec.ofNat 32 gemmRequestHeaderLen)
  let flags := if request.c.isSome then gemmFlagHasC else 0#32
  let output := output ++ toLe flags
  let output := output ++ toLe 0#32
  let output := output ++ toLe request.m
  let output := output ++ toLe request.n
  let output := output ++ toLe request.k
  let output := output ++ toLe request.alpha
  let output := output ++ toLe request.beta
  let output := writeF32Values output request.a
  let output := writeF32Values output request.b
  return request.c.elim output (writeF32Values output)

/-! ### Responses -/

/-- The message that carries an `m × n` result. -/
def encodeResponse (m n : BitVec 64) (values : List F32) :
    Except GemmProtocolError (List Byte) := do
  let expectedElements ← checkedElements m n "response matrix"
  validateSliceLen "response" expectedElements values.length
  let _ ← encodedResponseLen m n
  let output := gemmResponseMagic
  let output := output ++ toLe gemmProtocolVersion
  let output := output ++ toLe (BitVec.ofNat 32 gemmResponseHeaderLen)
  let output := output ++ toLe m
  let output := output ++ toLe n
  return writeF32Values output values

/-- The result that a message carries. -/
def decodeResponse (input : List Byte) : Except GemmProtocolError DecodedGemmResponse := do
  requireLen input gemmResponseHeaderLen
  Except.rejectIf (slice input 0 8 ≠ gemmResponseMagic) .invalidMagic
  let version ← readU32 input 8
  Except.rejectIf (version ≠ gemmProtocolVersion)
    (.unsupportedVersion version gemmProtocolVersion)
  let headerLen ← readU32 input 12
  Except.rejectIf (headerLen.toNat ≠ gemmResponseHeaderLen)
    (.invalidHeaderLength headerLen gemmResponseHeaderLen)
  let m ← readU64 input 16
  let n ← readU64 input 24
  let expectedLen ← encodedResponseLen m n
  let actualLen ← (BitVec.tryOfNat 64 input.length).okOr .addressSpaceOverflow
  Except.rejectIf (expectedLen ≠ actualLen) (.lengthMismatch expectedLen actualLen)
  let elements ← checkedElements m n "response matrix"
  let (values, _) ← readF32Values input gemmResponseHeaderLen elements
  return { m, n, values }

end RiftGPU.Gemm
