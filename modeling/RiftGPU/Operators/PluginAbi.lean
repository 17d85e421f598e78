import RiftGPU.Core.Backend
import RiftGPU.Operators.Operator
import RiftGPU.Text.Trim
import RiftGPU.Text.Utf8

/-!
# What the plugin interfaces have in common

The interface of operators on host bytes and that of shared operators use the same status codes,
the same tags of operators and backends, and the same arrays of characters for names.

## Main definitions

* `PluginAbi.mapOperatorKind`, `PluginAbi.mapBackendKind`: tags that a plugin reports.
* `PluginAbi.abiCharsToString`, `PluginAbi.cName`: names as arrays of characters.
-/

namespace RiftGPU.PluginAbi

open Bytes

namespace Status

/-- The call has succeeded. -/
def ok : BitVec 32 := 0#32

/-- An argument is not valid. -/
def invalidArgument : BitVec 32 := 1#32

/-- The plugin does not support what was asked for. -/
def unsupported : BitVec 32 := 2#32

/-- What the plugin needs is not there. -/
def unavailable : BitVec 32 := 3#32

/-- The output does not fit into the buffer of the host. -/
def bufferTooSmall : BitVec 32 := 4#32

/-- The plugin has failed. -/
def internalError : BitVec 32 := 5#32

end Status

namespace OperatorTag

/-- Matrix multiplication. -/
def gemm : BitVec 32 := 1#32

/-- Attention. -/
def attention : BitVec 32 := 2#32

/-- Quantization. -/
def quantize : BitVec 32 := 3#32

/-- Dequantization. -/
def dequantize : BitVec 32 := 4#32

/-- Transformation. -/
def transform : BitVec 32 := 5#32

/-- Any other operator. -/
def custom : BitVec 32 := 255#32

end OperatorTag

namespace BackendTag

/-- The CPU. -/
def cpu : BitVec 32 := 1#32

/-- Vulkan. -/
def vulkan : BitVec 32 := 2#32

/-- HIP. -/
def hip : BitVec 32 := 3#32

/-- Vulkan and HIP together. -/
def hybrid : BitVec 32 := 4#32

/-- A backend of the plugin's own. -/
def plugin : BitVec 32 := 255#32

end BackendTag

/-- The kind of operator that a tag stands for. Unknown tags are custom operators. -/
def mapOperatorKind (kind : BitVec 32) : OperatorKind :=
  if kind = OperatorTag.gemm then .gemm
  else if kind = OperatorTag.attention then .attention
  else if kind = OperatorTag.quantize then .quantize
  else if kind = OperatorTag.dequantize then .dequantize
  else if kind = OperatorTag.transform then .transform
  else .custom

/-- The kind of backend that a tag stands for. Unknown tags are plugins. -/
def mapBackendKind (kind : BitVec 32) : BackendKind :=
  if kind = BackendTag.cpu then .cpu
  else if kind = BackendTag.vulkan then .vulkan
  else if kind = BackendTag.hip then .hip
  else if kind = BackendTag.hybrid then .hybrid
  else .plugin

/-- The name in an array of characters that ends at the first zero. -/
def abiCharsToString (value : Vector Byte 128) : String :=
  Text.trim (Text.fromUtf8Lossy (value.toList.takeWhile (· ≠ 0#8)))

/-- The array of characters with this text, of which the last is always zero. -/
def cName (value : List Byte) : Vector Byte 128 :=
  Vector.ofFn fun index => if index.val + 1 < 128 then value.getD index.val 0#8 else 0#8

/-- The array at a pointer, which is `none` when it is null, as a callee reads it that was told its
length. -/
def readArray {α : Type} (ptr : Option (List α)) (count : ℕ) : List α := (ptr.getD []).take count

end RiftGPU.PluginAbi
