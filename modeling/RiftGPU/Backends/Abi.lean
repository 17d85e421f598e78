import RiftGPU.Word.LittleEndian

/-!
# The binary interface of backend plugins

The structures that cross the boundary between a host and a plugin that is a backend. This file
models `vrb-plugin-api` on a 64-bit machine. The default value of a field is the one its `Default`
implementation gives. A pointer is `none` when it is null, and otherwise what it points to.

## Main definitions

* `VrbBackendInfoV1`, `VrbPluginV1`: what a plugin says about itself.
* `VrbExecutionRequestV1`: one call of a plugin.
-/

namespace RiftGPU.Backends

open Bytes

/-- The version of the interface that a host and its plugins must share. -/
def vrbPluginAbiVersion : BitVec 32 := 1#32

/-- What a callback returns. -/
inductive VrbStatus where
  | ok
  | invalidArgument
  | unsupported
  | unavailable
  | internalError
deriving DecidableEq, Repr

/-- The kind of a backend, as a plugin tells it. -/
inductive VrbBackendKind where
  | cpu
  | vulkan
  | hip
  | hybrid
  | other
deriving DecidableEq, Repr

namespace Capability

/-- The backend computes. -/
def compute : BitVec 64 := 1#64 <<< 0

/-- The backend imports memory of other libraries. -/
def externalMemory : BitVec 64 := 1#64 <<< 1

/-- The backend imports semaphores of other libraries. -/
def externalSemaphore : BitVec 64 := 1#64 <<< 2

/-- The backend shares memory without a copy. -/
def zeroCopy : BitVec 64 := 1#64 <<< 3

/-- The backend computes in half precision. -/
def fp16 : BitVec 64 := 1#64 <<< 5

/-- The backend computes in single precision. -/
def fp32 : BitVec 64 := 1#64 <<< 6

/-- The backend computes in 8-bit integers. -/
def int8 : BitVec 64 := 1#64 <<< 7

end Capability

/-- What a plugin says when it is probed. -/
structure VrbBackendInfoV1 where
  structSize : BitVec 32 := 216#32
  backendKind : VrbBackendKind := .other
  capabilityBits : BitVec 64 := 0#64
  deviceCount : BitVec 32 := 0#32
  reserved : BitVec 32 := 0#32
  name : Vector Byte 128 := Vector.replicate 128 0#8
  vendor : Vector Byte 64 := Vector.replicate 64 0#8
deriving DecidableEq

/-- One call of a plugin. -/
structure VrbExecutionRequestV1 where
  structSize : BitVec 32 := 0#32
  operation : BitVec 32 := 0#32
  dataType : BitVec 32 := 0#32
  flags : BitVec 64 := 0#64
  elementCount : BitVec 64 := 0#64
  inputHandle : BitVec 64 := 0#64
  outputHandle : BitVec 64 := 0#64
  opaqueHandle : BitVec 64 := 0#64
deriving DecidableEq

/-- A probe callback. It gets the plugin's own data and a structure to overwrite. -/
abbrev ProbeFn := BitVec 64 → VrbBackendInfoV1 → VrbStatus × VrbBackendInfoV1

/-- An execute callback. It gets the plugin's own data and the request. -/
abbrev ExecuteFn := BitVec 64 → VrbExecutionRequestV1 → VrbStatus

/-- The descriptor of a plugin. The name is given by its bytes, up to the zero that ends it. A
callback for the shutdown returns nothing, so that only its presence is stated. -/
structure VrbPluginV1 where
  abiVersion : BitVec 32
  structSize : BitVec 32
  name : Option (List Byte)
  backendKind : VrbBackendKind
  capabilityBits : BitVec 64
  userData : BitVec 64
  probe : Option ProbeFn
  execute : Option ExecuteFn
  shutdown : Bool

/-- The size of a descriptor in the C layout. -/
def expectedPluginStructSize : BitVec 32 := 64#32

end RiftGPU.Backends
