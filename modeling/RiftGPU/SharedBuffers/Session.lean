import RiftGPU.Core.Backend
import RiftGPU.Trace.Traced
import RiftGPU.Word.Checked
import RiftGPU.Word.LittleEndian

/-!
# Sessions with exported Vulkan buffers

A session creates buffers, uploads their initial data, hands their ownership and their handles to
a callback, takes the ownership back and reads the buffers. This file models
`vrb-vulkan-shared-buffer`, as it is compiled for Windows. A session makes every call of the Vulkan
context at most once for each buffer, so what the calls return is given by a `VulkanDriver`, which
is arbitrary: it chooses for each call whether it succeeds. The calls that a session attempts, and
those that succeed, are recorded.

## Main definitions

* `SharedBuffers.VulkanCall`, `SharedBuffers.SessionEvent`, `SharedBuffers.VulkanDriver`.
* `SharedBuffers.validateSpecs`: the checks that precede a session.
* `SharedBuffers.withBuffers`: a session.
-/

namespace RiftGPU.SharedBuffers

open Bytes

/-- What a session is asked for: a buffer of some size, its initial data if any, and whether it is
read in the end. -/
structure SharedBufferSpec where
  bytes : BitVec 64
  initialData : Option (List Byte)
  readback : Bool
deriving DecidableEq, Repr

/-- What the callback is told about a buffer. -/
structure ExportedSharedBuffer where
  handle : BitVec 64
  allocationSize : BitVec 64
  logicalSize : BitVec 64
deriving DecidableEq, Repr

/-- What a session returns: the value of the callback, the name of the device, and the contents of
the buffers that are read. -/
structure ExportedBufferSessionOutput (T : Type) where
  value : T
  vulkanDevice : String
  readbacks : List (Option (List Byte))
deriving DecidableEq

/-! ### Checks -/

/-- The limit on the bytes of a session that the environment does not change. -/
def defaultMaxSessionBytes : BitVec 64 := 1073741824#64

/-- The limit on the number of buffers of a session. -/
def defaultMaxBuffers : ℕ := 64

/-- `str::parse::<u64>`: decimal digits behind an optional plus sign, of a number that fits. -/
def parseU64 (s : String) : Option (BitVec 64) :=
  let digits := match s.toList with
    | '+' :: rest => rest
    | characters => characters
  if digits.isEmpty || !digits.all Char.isDigit then none
  else BitVec.tryOfNat 64 (digits.foldl (fun value digit => 10 * value + (digit.toNat - 48)) 0)

/-- The limit on the bytes of a session, given the value of `VRB_MAX_SHARED_SESSION_BYTES`. -/
def maxSessionBytes (setting : Option String) : BitVec 64 :=
  (setting.bind parseU64).getD defaultMaxSessionBytes

/-- The checks of the buffer at `index`, and the sum of the sizes up to it. -/
def validateSpec (total : BitVec 64) (entry : SharedBufferSpec × ℕ) :
    Except BackendError (BitVec 64) := do
  let (spec, index) := entry
  Except.rejectIf (spec.bytes = 0#64)
    (.internal s!"shared-buffer {index} size must be non-zero")
  spec.initialData.elim (.ok ()) fun initial => do
    let actual ← (BitVec.tryOfNat 64 initial.length).okOr
      (.unsupported s!"shared-buffer {index} initial data length does not fit u64")
    Except.rejectIf (actual ≠ spec.bytes) (.internal
      (s!"shared-buffer {index} initial data is {actual.toNat} bytes, expected " ++
        toString spec.bytes.toNat))
  (total.checkedAdd spec.bytes).okOr (.unsupported "shared-buffer session byte count overflow")

/-- The checks that precede a session. -/
def validateSpecs (setting : Option String) (specs : List SharedBufferSpec) :
    Except BackendError Unit := do
  Except.rejectIf (specs = []) (.internal "shared-buffer session requires at least one buffer")
  Except.rejectIf (specs.length > defaultMaxBuffers) (.unsupported
    (s!"shared-buffer session requests {specs.length} buffers, maximum is " ++
      toString defaultMaxBuffers))
  let total ← specs.zipIdx.foldlM validateSpec 0#64
  let maximum := maxSessionBytes setting
  Except.rejectIf (total > maximum) (.unsupported
    (s!"shared-buffer session requests {total.toNat} bytes, exceeding " ++
      s!"VRB_MAX_SHARED_SESSION_BYTES={maximum.toNat}"))

/-! ### Calls -/

/-- The calls of the Vulkan context, with the buffer that they are about. -/
inductive VulkanCall where
  | create
  | createSharedBuffer (index : ℕ)
  | createUploadBuffer (index : ℕ)
  | writeStaging (index : ℕ)
  | copyStagingToDevice (index : ℕ)
  | releaseToExternal (index : ℕ)
  | exportKmtHandle (index : ℕ)
  | acquireFromExternal (index : ℕ)
  | createReadbackBuffer (index : ℕ)
  | copyDeviceToStaging (index : ℕ)
  | readStaging (index : ℕ)
deriving DecidableEq, Repr

/-- What a session does. -/
inductive SessionEvent where
  | attempted (call : VulkanCall)
  | succeeded (call : VulkanCall)
  | operation
deriving DecidableEq, Repr

/-- What the calls of a session return. -/
structure VulkanDriver where
  outcome : VulkanCall → Except BackendError Unit
  deviceName : String
  allocationSize : ℕ → BitVec 64
  kmtHandle : ℕ → BitVec 64
  contents : ℕ → List Byte

/-- A buffer: its size, and that of its memory. -/
structure VulkanBuffer where
  logicalSize : BitVec 64
  allocationSize : BitVec 64
deriving DecidableEq, Repr

/-- The calls of a session. -/
abbrev Session : Type → Type := Traced SessionEvent BackendError

namespace VulkanDriver

variable (driver : VulkanDriver)

/-- A call of the Vulkan context, recorded when it is attempted and again when it has succeeded. -/
def call (call : VulkanCall) : Session Unit := do
  Traced.record (.attempted call)
  driver.outcome call
  Traced.record (.succeeded call)

/-! ### The loops of a session -/

/-- Write the initial data of a buffer. -/
def upload (index : ℕ) : Session Unit := do
  driver.call (.createUploadBuffer index)
  driver.call (.writeStaging index)
  driver.call (.copyStagingToDevice index)

/-- Create a buffer, with its initial data. -/
def createStep (buffers : List VulkanBuffer) (entry : SharedBufferSpec × ℕ) :
    Session (List VulkanBuffer) := do
  let (spec, index) := entry
  driver.call (.createSharedBuffer index)
  spec.initialData.elim (pure ()) fun _ => driver.upload index
  return buffers ++ [⟨spec.bytes, driver.allocationSize index⟩]

/-- Release a buffer and export its handle. -/
def exportStep (exported : List ExportedSharedBuffer) (entry : VulkanBuffer × ℕ) :
    Session (List ExportedSharedBuffer) := do
  let (buffer, index) := entry
  driver.call (.releaseToExternal index)
  driver.call (.exportKmtHandle index)
  return exported ++ [⟨driver.kmtHandle index, buffer.allocationSize, buffer.logicalSize⟩]

/-- Take a buffer back, and keep the first error. -/
def reclaimStep (reclaimError : Option BackendError) (index : ℕ) :
    Session (Option BackendError) := do
  match ← Traced.caught (driver.call (.acquireFromExternal index)) with
  | .ok () => return reclaimError
  | .error error => return reclaimError.or (some error)

/-- Read a buffer whose specification asks for it. -/
def readStep (readbacks : List (Option (List Byte)))
    (entry : (SharedBufferSpec × VulkanBuffer) × ℕ) : Session (List (Option (List Byte))) := do
  let ((spec, _), index) := entry
  if spec.readback then
    driver.call (.createReadbackBuffer index)
    driver.call (.copyDeviceToStaging index)
    driver.call (.readStaging index)
    return readbacks ++ [some (driver.contents index)]
  else return readbacks ++ [none]

variable {T : Type}

/-- A session, from the moment when its buffers exist. -/
def shareBuffers (specs : List SharedBufferSpec) (buffers : List VulkanBuffer)
    (operation : List ExportedSharedBuffer → Except BackendError T) :
    Session (ExportedBufferSessionOutput T) := do
  let exported ← buffers.zipIdx.foldlM driver.exportStep []
  Traced.record .operation
  let operationResult := operation exported
  let reclaimError ← (List.range buffers.length).foldlM driver.reclaimStep none
  let value ← operationResult
  match reclaimError with
  | some error => throw error
  | none =>
    let readbacks ← (specs.zip buffers).zipIdx.foldlM driver.readStep []
    return { value, vulkanDevice := driver.deviceName, readbacks }

/-- `platform::with_buffers`. -/
def withBuffers (setting : Option String) (specs : List SharedBufferSpec)
    (operation : List ExportedSharedBuffer → Except BackendError T) :
    Session (ExportedBufferSessionOutput T) := do
  validateSpecs setting specs
  driver.call .create
  let buffers ← specs.zipIdx.foldlM driver.createStep []
  driver.shareBuffers specs buffers operation

end VulkanDriver

end RiftGPU.SharedBuffers
