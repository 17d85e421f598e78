import RiftGPU.Operators.PluginAbi

/-!
# The binary interface of shared-operator plugins

The structures that cross the boundary between a host and a plugin whose operators work on
borrowed external memory. This file models `vrb-shared-operator-plugin-api`. The default value of
a field is the one its `Default` implementation gives, and the default `struct_size` is the size
that the C layout has. A pointer to an array is `none` when it is null, and otherwise the array
that it points to.

## Main definitions

* `VrbSharedResourceRegionV1`, `VrbSharedSyncPointV1`: descriptors of memory and synchronization.
* `VrbSharedOperatorInfoV1`, `VrbSharedOperatorPluginV1`: what a plugin says about itself.
* `VrbSharedOperatorExecutionRequestV1`: one call, with the arrays that a plugin reads from it.
-/

namespace RiftGPU.SharedOperators

open Bytes PluginAbi

/-- The version of the interface that a host and its plugins must share. -/
def sharedOperatorPluginAbiVersion : BitVec 32 := 1#32

namespace Capability

/-- The operator works on external memory. -/
def externalResource : BitVec 64 := 1#64 <<< 0

/-- The operator takes points to wait for and to signal. -/
def externalSynchronization : BitVec 64 := 1#64 <<< 1

/-- The operator reads and writes the external memory itself, without a copy. -/
def provenZeroCopy : BitVec 64 := 1#64 <<< 2

/-- The operator computes in half precision. -/
def fp16 : BitVec 64 := 1#64 <<< 3

/-- The operator computes in single precision. -/
def fp32 : BitVec 64 := 1#64 <<< 4

/-- The operator computes in 8-bit integers. -/
def int8 : BitVec 64 := 1#64 <<< 5

end Capability

namespace MemoryHandleTag

/-- A global share handle of Windows. -/
def win32Kmt : BitVec 32 := 1#32

/-- An NT handle of Windows. -/
def win32Nt : BitVec 32 := 2#32

/-- An opaque file descriptor. -/
def opaqueFd : BitVec 32 := 3#32

/-- A DMA buffer of Linux. -/
def dmaBuf : BitVec 32 := 4#32

/-- The first of the tags that are left to vendors. -/
def customBase : BitVec 32 := 0x80000000#32

end MemoryHandleTag

namespace ResourceAccessTag

/-- The operator only reads the region. -/
def readOnly : BitVec 32 := 1#32

/-- The operator only writes the region. -/
def writeOnly : BitVec 32 := 2#32

/-- The operator reads and writes the region. -/
def readWrite : BitVec 32 := 3#32

end ResourceAccessTag

namespace SyncHandleTag

/-- An opaque handle of Windows. -/
def win32Opaque : BitVec 32 := 1#32

/-- An opaque file descriptor. -/
def opaqueFd : BitVec 32 := 2#32

/-- A timeline semaphore. -/
def timeline : BitVec 32 := 3#32

/-- The first of the tags that are left to vendors. -/
def customBase : BitVec 32 := 0x80000000#32

end SyncHandleTag

/-- A region of an external allocation. -/
structure VrbSharedResourceRegionV1 where
  structSize : BitVec 32 := 80#32
  handleKind : BitVec 32 := 0#32
  access : BitVec 32 := 0#32
  reserved0 : BitVec 32 := 0#32
  handle : BitVec 64 := 0#64
  allocationSize : BitVec 64 := 0#64
  offset : BitVec 64 := 0#64
  length : BitVec 64 := 0#64
  reserved : Vector (BitVec 64) 4 := Vector.replicate 4 0#64
deriving DecidableEq

/-- A point at which to wait or to signal. -/
structure VrbSharedSyncPointV1 where
  structSize : BitVec 32 := 64#32
  handleKind : BitVec 32 := 0#32
  handle : BitVec 64 := 0#64
  value : BitVec 64 := 0#64
  flags : BitVec 64 := 0#64
  reserved : Vector (BitVec 64) 4 := Vector.replicate 4 0#64
deriving DecidableEq

/-- What a plugin says about one of its operators. Bit `i` of the kind masks stands for the
handle kind with the value `i`. -/
structure VrbSharedOperatorInfoV1 where
  structSize : BitVec 32 := 200#32
  operatorId : BitVec 32 := 0#32
  operatorKind : BitVec 32 := OperatorTag.custom
  backendKind : BitVec 32 := BackendTag.plugin
  capabilityBits : BitVec 64 := 0#64
  memoryKindBits : BitVec 64 := 0#64
  syncKindBits : BitVec 64 := 0#64
  name : Vector Byte 128 := Vector.replicate 128 0#8
  reserved : Vector (BitVec 64) 4 := Vector.replicate 4 0#64
deriving DecidableEq

/-- One call of an operator. The receipt buffer is the host's, and the pointer to the length of
the receipt points to a zero before the call. -/
structure VrbSharedOperatorExecutionRequestV1 where
  structSize : BitVec 32 := 136#32
  operatorId : BitVec 32 := 0#32
  flags : BitVec 64 := 0#64
  metadataPtr : Option (List Byte) := none
  metadataLen : BitVec 64 := 0#64
  resourcesPtr : Option (List VrbSharedResourceRegionV1) := none
  resourceCount : BitVec 32 := 0#32
  waitsPtr : Option (List VrbSharedSyncPointV1) := none
  waitCount : BitVec 32 := 0#32
  signalsPtr : Option (List VrbSharedSyncPointV1) := none
  signalCount : BitVec 32 := 0#32
  receiptPtr : Option (List Byte) := none
  receiptCapacity : BitVec 64 := 0#64
  receiptLen : Option (BitVec 64) := none
  reserved : Vector (BitVec 64) 4 := Vector.replicate 4 0#64
deriving DecidableEq

namespace VrbSharedOperatorExecutionRequestV1

variable (request : VrbSharedOperatorExecutionRequestV1)

/-- The bytes of the metadata that a plugin reads. -/
def metadata : List Byte := readArray request.metadataPtr request.metadataLen.toNat

/-- The regions that a plugin reads. -/
def resources : List VrbSharedResourceRegionV1 :=
  readArray request.resourcesPtr request.resourceCount.toNat

/-- The points to wait for that a plugin reads. -/
def waits : List VrbSharedSyncPointV1 := readArray request.waitsPtr request.waitCount.toNat

/-- The points to signal that a plugin reads. -/
def signals : List VrbSharedSyncPointV1 := readArray request.signalsPtr request.signalCount.toNat

end VrbSharedOperatorExecutionRequestV1

/-- What the host sees after a call: the status, the receipt buffer and the length of the
receipt. -/
structure ExecuteReturn where
  status : BitVec 32
  receipt : List Byte
  receiptLen : BitVec 64
deriving DecidableEq

/-- A query callback. It gets the index of an operator and an info structure to overwrite. -/
abbrev QuerySharedOperatorFn :=
  BitVec 64 → BitVec 32 → VrbSharedOperatorInfoV1 → BitVec 32 × VrbSharedOperatorInfoV1

/-- An execute callback. It gets the plugin's own data and the request. -/
abbrev ExecuteSharedOperatorFn := BitVec 64 → VrbSharedOperatorExecutionRequestV1 → ExecuteReturn

/-- The descriptor of a plugin. -/
structure VrbSharedOperatorPluginV1 where
  abiVersion : BitVec 32
  structSize : BitVec 32
  name : Vector Byte 128
  operatorCount : BitVec 32
  capabilityBits : BitVec 64
  userData : BitVec 64
  queryOperator : Option QuerySharedOperatorFn
  execute : Option ExecuteSharedOperatorFn

/-- The size of a region descriptor in the C layout. -/
def expectedResourceRegionStructSize : BitVec 32 := 80#32

/-- The size of a synchronization point in the C layout. -/
def expectedSyncPointStructSize : BitVec 32 := 64#32

/-- The size of an info structure in the C layout. -/
def expectedOperatorInfoStructSize : BitVec 32 := 200#32

/-- The size of an execution request in the C layout. -/
def expectedExecutionRequestStructSize : BitVec 32 := 136#32

/-- The size of a plugin descriptor in the C layout. -/
def expectedPluginStructSize : BitVec 32 := 224#32

end RiftGPU.SharedOperators
