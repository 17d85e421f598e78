import RiftGPU.Operators.PluginAbi

/-!
# The binary interface of operator plugins

The structures that cross the boundary between a host and a plugin whose operators work on host
bytes. This file models `vrb-operator-plugin-api`. The default value of a field is the one its
`Default` implementation gives. A pointer is `none` when it is null, and otherwise what it points
to. A callback that does not return aborts the process with a message.

## Main definitions

* `VrbOperatorInfoV1`, `VrbOperatorPluginV1`: what a plugin says about itself.
* `VrbOperatorExecutionRequestV1`: one call of an operator.
-/

namespace RiftGPU.Operators

open Bytes PluginAbi

/-- The version of the interface that a host and its plugins must share. -/
def operatorPluginAbiVersion : BitVec 32 := 1#32

namespace Capability

/-- The operator works without a copy. -/
def zeroCopy : BitVec 64 := 1#64 <<< 0

/-- The operator computes in half precision. -/
def fp16 : BitVec 64 := 1#64 <<< 1

/-- The operator computes in single precision. -/
def fp32 : BitVec 64 := 1#64 <<< 2

/-- The operator computes in 8-bit integers. -/
def int8 : BitVec 64 := 1#64 <<< 3

/-- The operator works on bytes of the host. -/
def hostBytes : BitVec 64 := 1#64 <<< 4

/-- The operator works on external memory. -/
def externalResource : BitVec 64 := 1#64 <<< 5

end Capability

/-- What a plugin says about one of its operators. -/
structure VrbOperatorInfoV1 where
  structSize : BitVec 32 := 184#32
  operatorId : BitVec 32 := 0#32
  operatorKind : BitVec 32 := OperatorTag.custom
  backendKind : BitVec 32 := BackendTag.plugin
  capabilityBits : BitVec 64 := 0#64
  name : Vector Byte 128 := Vector.replicate 128 0#8
  reserved : Vector (BitVec 64) 4 := Vector.replicate 4 0#64
deriving DecidableEq

/-- One call of an operator. The output buffer is the host's, and the pointer to the length of the
output points to the length that was asked for. -/
structure VrbOperatorExecutionRequestV1 where
  structSize : BitVec 32 := 88#32
  operatorId : BitVec 32 := 0#32
  flags : BitVec 64 := 0#64
  inputPtr : Option (List Byte) := none
  inputLen : BitVec 64 := 0#64
  outputPtr : Option (List Byte) := none
  outputCapacity : BitVec 64 := 0#64
  outputLen : Option (BitVec 64) := none
  reserved : Vector (BitVec 64) 4 := Vector.replicate 4 0#64
deriving DecidableEq

/-- What the host sees after a call for the output size. -/
structure OutputSizeReturn where
  status : BitVec 32
  outputLen : BitVec 64
deriving DecidableEq

/-- What the host sees after a call of an operator: the status, the output buffer and the length of
the output. -/
structure ExecuteReturn where
  status : BitVec 32
  output : List Byte
  outputLen : BitVec 64
deriving DecidableEq

/-- A query callback. It gets the index of an operator and an info structure to overwrite. -/
abbrev QueryOperatorFn :=
  BitVec 64 → BitVec 32 → VrbOperatorInfoV1 → BitVec 32 × VrbOperatorInfoV1

/-- An output-size callback. It gets the identifier of an operator, the input with its length, and
a length to overwrite. -/
abbrev OutputSizeFn :=
  BitVec 64 → BitVec 32 → Option (List Byte) → BitVec 64 → Option (BitVec 64) →
    Except String OutputSizeReturn

/-- An execute callback. It gets the plugin's own data and the request. -/
abbrev ExecuteOperatorFn :=
  BitVec 64 → VrbOperatorExecutionRequestV1 → Except String ExecuteReturn

/-- The descriptor of a plugin. -/
structure VrbOperatorPluginV1 where
  abiVersion : BitVec 32
  structSize : BitVec 32
  name : Vector Byte 128
  operatorCount : BitVec 32
  capabilityBits : BitVec 64
  userData : BitVec 64
  queryOperator : Option QueryOperatorFn
  outputSize : Option OutputSizeFn
  execute : Option ExecuteOperatorFn

/-- The size of an info structure in the C layout. -/
def expectedOperatorInfoStructSize : BitVec 32 := 184#32

/-- The size of an execution request in the C layout. -/
def expectedExecutionRequestStructSize : BitVec 32 := 88#32

/-- The size of a plugin descriptor in the C layout. -/
def expectedOperatorPluginStructSize : BitVec 32 := 224#32

end RiftGPU.Operators
