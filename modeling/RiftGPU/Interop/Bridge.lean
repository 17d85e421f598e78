import RiftGPU.Interop.SelectDevice
import RiftGPU.SharedBuffers.Session
import RiftGPU.Vulkan.Lifetimes

/-!
# The bridge between Vulkan and HIP

The bridge has a Vulkan context and the HIP library, which it creates when it is first used and
keeps. A smoke run fills memory on the HIP side with a pattern and reads it back on the Vulkan
side: through memory that Vulkan exports and HIP imports, or through the host. This file models the
module for Windows in the interop module of `vrb-backends`. What the driver and the HIP library
answer is arbitrary, and may be different in every run.

## Main definitions

* `Interop.Answers`: the answers of the driver and of the HIP library in a run.
* `Interop.BridgeRuntime`, `Interop.createRuntime`.
* `Interop.runZeroCopy`, `Interop.runCopyFallback`: the two kinds of runs.
* `Interop.serve`: a request, on the runtime that is kept between requests.
-/

namespace RiftGPU.Interop

open Lifetime Bytes
open Vulkan (Vk VulkanContext VulkanBuffer BufferKind GpuObject)

/-! ### Calls and answers -/

/-- What the calls of Vulkan in a run are for. -/
inductive BridgeCall where
  | create
  | sharedBuffer
  | stagingBuffer
  | exportHandle
  | release
  | acquireAndCopy
  | uploadBuffer
  | deviceBuffer
  | readbackBuffer
  | writeUpload
  | copyStagingToDevice
  | copyDeviceToStaging
  | verify
deriving DecidableEq, Repr

/-- The calls of the HIP library. -/
inductive HipCall where
  | loadLibrary (path : String)
  | init
  | selectDevice
  | setDevice (index : BitVec 32)
  | importExternalMemory (handle size : BitVec 64)
  | getMappedBuffer (size : BitVec 64)
  | memset (value : Byte) (count : ℕ)
  | malloc (bytes : ℕ)
  | memcpyToHost (data : List Byte)
  | deviceSynchronize
deriving DecidableEq, Repr

/-- The answers in a run. The candidates are the paths at which the library is looked for, each
with the failure to load it. A HIP function returns a status, and the pointer that it writes. -/
structure Answers where
  vulkan : Vulkan.Driver BridgeCall
  hip : HipRuntime
  candidates : List (String × Except String Unit)
  symbol : String → Except String Unit
  init : BitVec 32
  importExternalMemory : BitVec 32 × BitVec 64
  getMappedBuffer : BitVec 32 × BitVec 64
  memset : BitVec 32
  malloc : BitVec 32 × BitVec 64
  memcpyToHost : BitVec 32 × (ℕ → Byte)
  deviceSynchronize : ℕ → BitVec 32
  maxSmokeBytes : Option String

/-- Programs of the bridge. -/
abbrev Bridge := Vk HipCall

/-- Programs of the bridge that do not fail. -/
abbrev Serving := Run (Vulkan.Label HipCall) GpuObject Empty

/-- The kind of `create_shared_buffer`. -/
def sharedKind : BufferKind where
  required := Vulkan.deviceLocal
  createText := "vkCreateBuffer: "
  noMemoryType := "no device-local memory type satisfies the exportable buffer"
  allocateText := "vkAllocateMemory(exportable): "
  bindText := "vkBindBufferMemory(exportable): "

/-- The kind of `create_staging_buffer`. -/
def stagingKind : BufferKind where
  required := Vulkan.hostVisibleCoherent
  createText := "staging vkCreateBuffer: "
  noMemoryType := "no HOST_VISIBLE|HOST_COHERENT staging memory type is available"
  allocateText := "staging vkAllocateMemory: "
  bindText := "staging vkBindBufferMemory: "

/-- The kind of `create_device_buffer`. -/
def deviceKind : BufferKind where
  required := Vulkan.deviceLocal
  createText := "fallback vkCreateBuffer: "
  noMemoryType := "no device-local memory type is available for copy fallback"
  allocateText := "fallback vkAllocateMemory: "
  bindText := "fallback vkBindBufferMemory: "

/-! ### The HIP library -/

/-- The functions that the bridge calls. -/
def requiredSymbols : List String :=
  ["hipInit", "hipGetDeviceCount", "hipDeviceGetName", "hipSetDevice", "hipImportExternalMemory",
    "hipExternalMemoryGetMappedBuffer", "hipDestroyExternalMemory", "hipMemset", "hipMalloc",
    "hipFree", "hipMemcpy", "hipDeviceSynchronize"]

variable (answers : Answers)

/-- A call of HIP, whose status is checked. -/
def hipCall (call : HipCall) (uses : List GpuObject) (status : BitVec 32) (operation : String) :
    Bridge Unit := do
  Run.call (.other call) uses
  Run.lift (answers.hip.check status operation)

/-- `load_hip_library`: the first candidate that can be loaded. -/
def loadHipLibrary : List (String × Except String Unit) → List String → Bridge ℕ
  | [], failures => throw (.unavailable
      ("HIP runtime library was not loadable for zero-copy smoke test (" ++
        "; ".intercalate failures ++ ")"))
  | (path, outcome) :: rest, failures => do
    Run.call (.other (.loadLibrary path)) []
    match outcome with
    | .ok () => Run.create .hipLibrary
    | .error error => loadHipLibrary rest (failures ++ [s!"{path}: {error}"])

/-- The lookup of a function that must be there. -/
def loadSymbol (name : String) : Except BackendError Unit :=
  (answers.symbol name).mapError fun error =>
    .unavailable s!"required HIP symbol '{name}' is missing: {error}"

/-- `HipRuntime::load`. The library is unloaded when a function is missing or fails. -/
def loadHip : Bridge ℕ := do
  let library ← loadHipLibrary answers.candidates []
  let libraryObject : GpuObject := .hipLibrary library
  Run.onError (do
      Run.lift (forM requiredSymbols (loadSymbol answers))
      hipCall answers .init [libraryObject] answers.init "hipInit")
    (Run.destroy libraryObject)
  return library

/-! ### The runtime -/

/-- What the bridge keeps between requests: a context, the HIP library, and the device that both
sides are on. -/
structure BridgeRuntime where
  vulkan : VulkanContext
  hipLibrary : ℕ
  hipDeviceIndex : BitVec 32
  hipDeviceName : String

/-- The HIP library as an object. -/
def BridgeRuntime.libraryObject (runtime : BridgeRuntime) : GpuObject :=
  .hipLibrary runtime.hipLibrary

/-- `BridgeRuntime::create`. -/
def createRuntime : Bridge BridgeRuntime := do
  let vulkan ← answers.vulkan.createContext .create "buffer memory"
  Run.onError (do
      let hipLibrary ← loadHip answers
      Run.onError (do
          Run.call (.other .selectDevice) [.hipLibrary hipLibrary]
          let (hipDeviceIndex, hipDeviceName) ←
            Run.lift (answers.hip.selectDevice vulkan.deviceName)
          return { vulkan, hipLibrary, hipDeviceIndex, hipDeviceName })
        (Run.destroy (.hipLibrary hipLibrary)))
    vulkan.drop

variable (runtime : BridgeRuntime)

/-- Make the device of the runtime the current one. -/
def selectHipDevice : Bridge Unit :=
  hipCall answers (.setDevice runtime.hipDeviceIndex) [runtime.libraryObject]
    (answers.hip.setDevice runtime.hipDeviceIndex) "hipSetDevice(persistent bridge runtime)"

/-- A HIP function that returns an object. Its pointer must not be null. -/
def hipMake (call : HipCall) (uses : List GpuObject) (answer : BitVec 32 × BitVec 64)
    (object : ℕ → GpuObject) (operation nullText : String) : Bridge ℕ := do
  hipCall answers call uses answer.1 operation
  Run.lift (Except.rejectIf (answer.2 = 0#64) (.internal nullText))
  Run.create object

/-- Wait for the device. The calls of a run are told apart by their count. -/
def deviceSynchronize (count : ℕ) (operation : String) : Bridge Unit :=
  hipCall answers .deviceSynchronize [runtime.libraryObject] (answers.deviceSynchronize count)
    operation

/-! ### Verification -/

/-- Lower-case hexadecimal digits, at least two of them. -/
def hex2 (value : Byte) : String :=
  let digits := String.ofList (Nat.toDigits 16 value.toNat)
  String.ofList (List.replicate (2 - digits.length) '0') ++ digits

/-- The bytes that the host reads from a mapping. -/
def stagedBytes (purpose : BridgeCall) (size : BitVec 64) : List Byte :=
  (List.range size.toNat).map fun i => (answers.vulkan.contents purpose).getD i 0#8

/-- The comparison in `verify_staging`. -/
def verifyBytes (bytes : List Byte) (pattern : Byte) : Except BackendError Unit :=
  match bytes.zipIdx.find? fun entry => entry.1 != pattern with
  | some (actual, index) => .error (.internal
      (s!"zero-copy verification failed at byte {index}: expected 0x{hex2 pattern}, " ++
        s!"got 0x{hex2 actual}"))
  | none => .ok ()

/-- Read a staging buffer, whose bytes must all be the pattern. The result is the number of bytes.
-/
def verifyStaging (staging : VulkanBuffer) (pattern : Byte) : Bridge (BitVec 64) := do
  let bytes ← answers.vulkan.withMapping runtime.vulkan .verify staging "vkMapMemory(staging): "
    fun mapping => do
      let bytes := stagedBytes answers .verify staging.logicalSize
      Run.call (.hostRead staging.logicalSize bytes) [mapping]
      return bytes
  Run.lift (verifyBytes bytes pattern)
  return staging.logicalSize

/-! ### The zero-copy run -/

/-- What a successful zero-copy run reports. -/
structure ZeroCopySmokeReport where
  vulkanDevice : String
  hipDevice : String
  bytes : BitVec 64
  pattern : Byte
  verifiedBytes : BitVec 64
  externalMemoryHandle : String
  synchronization : String

/-- The HIP side of the run: the exported memory is imported, mapped and filled. The mapping and
the import are released in this order. -/
def fillExported (shared : VulkanBuffer) (handle bytes : BitVec 64) (pattern : Byte)
    (usizeBytes : ℕ) : Bridge Unit := do
  let library := runtime.libraryObject
  let external ← hipMake answers (.importExternalMemory handle shared.allocationSize)
    [library, shared.memoryObject] answers.importExternalMemory
    (.hipExternalMemory library shared.memoryObject) "hipImportExternalMemory"
    "hipImportExternalMemory succeeded but returned a null handle"
  let externalObject : GpuObject := .hipExternalMemory library shared.memoryObject external
  Run.ensure (do
      let mapped ← hipMake answers (.getMappedBuffer bytes) [library, externalObject]
        answers.getMappedBuffer (.hipMappedBuffer library externalObject)
        "hipExternalMemoryGetMappedBuffer" "HIP mapped external memory to a null device pointer"
      let mappedObject : GpuObject := .hipMappedBuffer library externalObject mapped
      Run.ensure (do
          hipCall answers (.memset pattern usizeBytes) [library, mappedObject] answers.memset
            "hipMemset(shared Vulkan memory)"
          deviceSynchronize answers runtime 0 "hipDeviceSynchronize")
        (Run.destroy mappedObject))
    (Run.destroy externalObject)

/-- Hand a buffer over to HIP. -/
def releaseToExternal (shared : VulkanBuffer) : Bridge Unit :=
  answers.vulkan.submitOneTime runtime.vulkan .release [.pipelineBarrier {
    srcStage := .topOfPipe
    dstStage := .bottomOfPipe
    srcAccessMask := []
    dstAccessMask := []
    srcQueueFamilyIndex := runtime.vulkan.owner
    dstQueueFamilyIndex := .external
    size := shared.logicalSize } shared.bufferObject]

/-- Take a buffer back from HIP, and copy it to a staging buffer. -/
def acquireAndCopyToStaging (shared staging : VulkanBuffer) : Bridge Unit :=
  answers.vulkan.submitOneTime runtime.vulkan .acquireAndCopy [
    .pipelineBarrier {
      srcStage := .topOfPipe
      dstStage := .transfer
      srcAccessMask := []
      dstAccessMask := [.transferRead]
      srcQueueFamilyIndex := .external
      dstQueueFamilyIndex := runtime.vulkan.owner
      size := shared.logicalSize } shared.bufferObject,
    .copyBuffer shared.bufferObject staging.bufferObject shared.logicalSize,
    runtime.vulkan.hostReadBarrier staging]

/-- The part of the run after its buffers are created. -/
def transferExported (shared staging : VulkanBuffer) (bytes : BitVec 64) (pattern : Byte)
    (usizeBytes : ℕ) : Bridge ZeroCopySmokeReport := do
  let handle ← answers.vulkan.exportKmtHandle runtime.vulkan .exportHandle shared
  releaseToExternal answers runtime shared
  fillExported answers runtime shared handle bytes pattern usizeBytes
  acquireAndCopyToStaging answers runtime shared staging
  let verifiedBytes ← verifyStaging answers runtime staging pattern
  return {
    vulkanDevice := runtime.vulkan.deviceName
    hipDevice := runtime.hipDeviceName
    bytes
    pattern
    verifiedBytes
    externalMemoryHandle :=
      "VK_OPAQUE_WIN32_KMT / hipExternalMemoryHandleTypeOpaqueWin32Kmt"
    synchronization :=
      "Vulkan EXTERNAL queue-family ownership + host queue/HIP synchronization" }

/-- `BridgeRuntime::run_zero_copy`. The buffers are dropped in the end, whatever happens between. -/
def runZeroCopy (bytes : BitVec 64) (pattern : Byte) (usizeBytes : ℕ) :
    Bridge ZeroCopySmokeReport := do
  selectHipDevice answers runtime
  let shared ← answers.vulkan.createBuffer runtime.vulkan .sharedBuffer sharedKind bytes
  Run.ensure (do
      let staging ← answers.vulkan.createBuffer runtime.vulkan .stagingBuffer stagingKind bytes
      Run.ensure (transferExported answers runtime shared staging bytes pattern usizeBytes)
        staging.drop)
    shared.drop

/-! ### The run through the host -/

/-- What a successful run through the host reports. -/
structure CopyFallbackReport where
  vulkanDevice : String
  hipDevice : String
  bytes : BitVec 64
  pattern : Byte
  verifiedBytes : BitVec 64
  transferPath : String
  synchronization : String

/-- The HIP side of the run: memory of the device is filled and copied to the host. -/
def fillDevice (pattern : Byte) (usizeBytes : ℕ) : Bridge (List Byte) := do
  let library := runtime.libraryObject
  let allocation ← hipMake answers (.malloc usizeBytes) [library] answers.malloc
    (.hipAllocation library) "hipMalloc(copy fallback)"
    "hipMalloc succeeded but returned a null pointer"
  let allocationObject : GpuObject := .hipAllocation library allocation
  Run.ensure (do
      hipCall answers (.memset pattern usizeBytes) [library, allocationObject] answers.memset
        "hipMemset(copy fallback device allocation)"
      deviceSynchronize answers runtime 0 "hipDeviceSynchronize"
      let hostRelay := (List.range usizeBytes).map answers.memcpyToHost.2
      hipCall answers (.memcpyToHost hostRelay) [library, allocationObject]
        answers.memcpyToHost.1 "hipMemcpy(DeviceToHost copy fallback)"
      deviceSynchronize answers runtime 1 "hipDeviceSynchronize after D2H"
      return hostRelay)
    (Run.destroy allocationObject)

/-- The part of the run after its buffers are created. -/
def transferThroughHost (upload deviceBuffer readback : VulkanBuffer) (bytes : BitVec 64)
    (pattern : Byte) (usizeBytes : ℕ) : Bridge CopyFallbackReport := do
  let hostRelay ← fillDevice answers runtime pattern usizeBytes
  answers.vulkan.writeStaging runtime.vulkan .writeUpload upload "vkMapMemory(upload staging): "
    hostRelay
  answers.vulkan.copyStagingToDevice runtime.vulkan .copyStagingToDevice upload deviceBuffer
  answers.vulkan.copyDeviceToStaging runtime.vulkan .copyDeviceToStaging deviceBuffer readback
  let verifiedBytes ← verifyStaging answers runtime readback pattern
  return {
    vulkanDevice := runtime.vulkan.deviceName
    hipDevice := runtime.hipDeviceName
    bytes
    pattern
    verifiedBytes
    transferPath := "HIP device -> host relay -> Vulkan upload -> Vulkan device"
    synchronization := "hipDeviceSynchronize + synchronous Vulkan queue submissions" }

/-- `BridgeRuntime::run_copy_fallback`. The buffers are dropped in the end, whatever happens
between. -/
def runCopyFallback (bytes : BitVec 64) (pattern : Byte) (usizeBytes : ℕ) :
    Bridge CopyFallbackReport := do
  selectHipDevice answers runtime
  let upload ← answers.vulkan.createBuffer runtime.vulkan .uploadBuffer stagingKind bytes
  Run.ensure (do
      let deviceBuffer ← answers.vulkan.createBuffer runtime.vulkan .deviceBuffer deviceKind bytes
      Run.ensure (do
          let readback ←
            answers.vulkan.createBuffer runtime.vulkan .readbackBuffer stagingKind bytes
          Run.ensure
            (transferThroughHost answers runtime upload deviceBuffer readback bytes pattern
              usizeBytes)
            readback.drop)
        deviceBuffer.drop)
    upload.drop

/-! ### Requests -/

/-- The limit on the size of a run that the environment does not change. -/
def defaultMaxSmokeBytes : BitVec 64 := 268435456#64

/-- `validate_transfer_size`. On a 64-bit machine every size fits. -/
def validateTransferSize (setting : Option String) (bytes : BitVec 64) (label : String) :
    Except BackendError ℕ := do
  Except.rejectIf (bytes = 0#64) (.internal s!"{label} size must be greater than zero")
  let maxBytes := (setting.bind SharedBuffers.parseU64).getD defaultMaxSmokeBytes
  Except.rejectIf (bytes > maxBytes) (.unsupported
    s!"requested {bytes.toNat} bytes exceeds VRB_MAX_SMOKE_BYTES={maxBytes.toNat}")
  return bytes.toNat

/-- What a request returns. -/
inductive Report where
  | zeroCopy (report : ZeroCopySmokeReport)
  | copyFallback (report : CopyFallbackReport)

/-- A call of `run_zero_copy_smoke` or of `run_copy_fallback_smoke`, with the answers during it. -/
structure Request where
  zeroCopy : Bool
  bytes : BitVec 64
  pattern : Byte
  answers : Answers

namespace Request

variable (request : Request)

/-- What the errors about the size of the run say. -/
def label : String := if request.zeroCopy then "zero-copy smoke" else "copy fallback"

/-- The operation on the runtime. -/
def run (runtime : BridgeRuntime) (usizeBytes : ℕ) : Bridge Report :=
  if request.zeroCopy then
    Report.zeroCopy <$> runZeroCopy request.answers runtime request.bytes request.pattern usizeBytes
  else
    Report.copyFallback <$>
      runCopyFallback request.answers runtime request.bytes request.pattern usizeBytes

end Request

/-- The runtime of `with_bridge_runtime`, which is created when there is none. -/
def obtainRuntime : Option BridgeRuntime → Bridge BridgeRuntime
  | some runtime => pure runtime
  | none => createRuntime answers

/-- A request. The runtime is kept, whether the operation on it succeeds or fails. -/
def serve (kept : Option BridgeRuntime) (request : Request) :
    Serving (Option BridgeRuntime × Except BackendError Report) :=
  match validateTransferSize request.answers.maxSmokeBytes request.bytes request.label with
  | .error error => return (kept, .error error)
  | .ok usizeBytes => do
    match ← Run.caught (obtainRuntime request.answers kept) with
    | .error error => return (kept, .error error)
    | .ok runtime =>
      let outcome ← Run.caught (request.run runtime usizeBytes)
      return (some runtime, outcome)

/-- The requests of a process. -/
def serveAll (requests : List Request) : Serving (Option BridgeRuntime) :=
  requests.foldlM (fun kept request => Prod.fst <$> serve kept request) none

end RiftGPU.Interop
