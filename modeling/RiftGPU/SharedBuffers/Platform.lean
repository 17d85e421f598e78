import RiftGPU.Lifetime.Simulation
import RiftGPU.SharedBuffers.Session
import RiftGPU.Vulkan.Lifetimes

/-!
# A session and its objects

The module `SharedBuffers.Session` describes a session by the calls of its context. This file
models the same code down to the objects of Vulkan that these calls create, and the places where
they are dropped: a staging buffer at the end of the block that uses it, a buffer that is not in
the list of buffers yet on an early return, the list of buffers at the end of the session, and the
context after it.

## Main definitions

* `SharedBuffers.Platform.withBuffers`: a session.
-/

namespace RiftGPU.SharedBuffers.Platform

open Lifetime Bytes
open Vulkan (Vk VulkanContext BufferKind)

/-- What the driver answers to the calls of a session. -/
abbrev Driver := Vulkan.Driver VulkanCall

/-- Programs of a session. -/
abbrev Program := Vk SessionEvent

/-- The kind of `create_shared_buffer`. -/
def sharedKind : BufferKind where
  required := Vulkan.deviceLocal
  createText := "vkCreateBuffer: "
  noMemoryType := "no device-local memory type satisfies exportable buffer"
  allocateText := "vkAllocateMemory(exportable): "
  bindText := "vkBindBufferMemory(exportable): "

/-- The kind of `create_staging_buffer`. -/
def stagingKind : BufferKind where
  required := Vulkan.hostVisibleCoherent
  createText := "staging vkCreateBuffer: "
  noMemoryType := "no HOST_VISIBLE|HOST_COHERENT staging memory type is available"
  allocateText := "staging vkAllocateMemory: "
  bindText := "staging vkBindBufferMemory: "

/-- What the error says when the memory of an upload cannot be mapped. -/
def uploadText : String := "vkMapMemory(upload): "

/-- What the error says when the memory of a readback cannot be mapped. -/
def readbackText : String := "vkMapMemory(readback): "

/-- A call of the context. -/
def perform {α : Type} (call : VulkanCall) (x : Program α) : Program α := do
  Run.call (.other (.attempted call)) []
  let a ← x
  Run.call (.other (.succeeded call)) []
  return a

/-- The buffers are dropped from the first one on. -/
def dropBuffers (buffers : List Vulkan.VulkanBuffer) : Program Unit :=
  buffers.foldlM (fun _ buffer => buffer.drop) ()

variable (driver : Driver) (context : VulkanContext)

/-! ### Creating buffers -/

/-- Write the initial data of a buffer. -/
def upload (index : ℕ) (bytes : BitVec 64) (initial : List Byte) (shared : Vulkan.VulkanBuffer) :
    Program Unit := do
  let staging ← perform (.createUploadBuffer index)
    (driver.createBuffer context (.createUploadBuffer index) stagingKind bytes)
  Run.ensure (do
      perform (.writeStaging index)
        (driver.writeStaging context (.writeStaging index) staging uploadText initial)
      perform (.copyStagingToDevice index)
        (driver.copyStagingToDevice context (.copyStagingToDevice index) staging shared))
    staging.drop

/-- A buffer with its initial data. It is dropped when the data is not written. -/
def createShared (spec : SharedBufferSpec) (index : ℕ) : Program Vulkan.VulkanBuffer := do
  let shared ← perform (.createSharedBuffer index)
    (driver.createBuffer context (.createSharedBuffer index) sharedKind spec.bytes)
  Run.onError (spec.initialData.elim (pure ()) fun initial =>
      upload driver context index spec.bytes initial shared)
    shared.drop
  return shared

/-! ### Sharing buffers -/

/-- Hand a buffer over to the external consumer. -/
def releaseToExternal (purpose : VulkanCall) (shared : Vulkan.VulkanBuffer) : Program Unit :=
  driver.submitOneTime context purpose [.pipelineBarrier {
    srcStage := .allCommands
    dstStage := .bottomOfPipe
    srcAccessMask := [.memoryRead, .memoryWrite]
    dstAccessMask := []
    srcQueueFamilyIndex := context.owner
    dstQueueFamilyIndex := .external
    size := shared.logicalSize } shared.bufferObject]

/-- Take a buffer back from the external consumer. -/
def acquireFromExternal (purpose : VulkanCall) (shared : Vulkan.VulkanBuffer) : Program Unit :=
  driver.submitOneTime context purpose [.pipelineBarrier {
    srcStage := .topOfPipe
    dstStage := .allCommands
    srcAccessMask := []
    dstAccessMask := [.memoryRead, .memoryWrite]
    srcQueueFamilyIndex := .external
    dstQueueFamilyIndex := context.owner
    size := shared.logicalSize } shared.bufferObject]

/-- Release a buffer and export its handle. -/
def exportStep (exported : List ExportedSharedBuffer) (entry : Vulkan.VulkanBuffer × ℕ) :
    Program (List ExportedSharedBuffer) := do
  let (buffer, index) := entry
  perform (.releaseToExternal index)
    (releaseToExternal driver context (.releaseToExternal index) buffer)
  let handle ← perform (.exportKmtHandle index)
    (driver.exportKmtHandle context (.exportKmtHandle index) buffer)
  return exported ++ [⟨handle, buffer.allocationSize, buffer.logicalSize⟩]

/-- Take a buffer back, and keep the first error. -/
def reclaimStep (reclaimError : Option BackendError) (entry : Vulkan.VulkanBuffer × ℕ) :
    Program (Option BackendError) := do
  let (buffer, index) := entry
  match ← Run.caught (perform (.acquireFromExternal index)
    (acquireFromExternal driver context (.acquireFromExternal index) buffer)) with
  | .ok () => return reclaimError
  | .error error => return reclaimError.or (some error)

/-- The contents of a buffer. -/
def readBuffer (index : ℕ) (buffer : Vulkan.VulkanBuffer) : Program (List Byte) := do
  let staging ← perform (.createReadbackBuffer index)
    (driver.createBuffer context (.createReadbackBuffer index) stagingKind buffer.logicalSize)
  Run.ensure (do
      perform (.copyDeviceToStaging index)
        (driver.copyDeviceToStaging context (.copyDeviceToStaging index) buffer staging)
      perform (.readStaging index)
        (driver.readStaging context (.readStaging index) staging readbackText))
    staging.drop

/-- Read a buffer whose specification asks for it. -/
def readStep (readbacks : List (Option (List Byte)))
    (entry : (SharedBufferSpec × Vulkan.VulkanBuffer) × ℕ) :
    Program (List (Option (List Byte))) := do
  let ((spec, buffer), index) := entry
  if spec.readback then
    let bytes ← readBuffer driver context index buffer
    return readbacks ++ [some bytes]
  else return readbacks ++ [none]

variable {T : Type}

/-- A session, from the moment when its buffers exist. The callback uses the memory of the
buffers. -/
def shareBuffers (specs : List SharedBufferSpec) (buffers : List Vulkan.VulkanBuffer)
    (operation : List ExportedSharedBuffer → Except BackendError T) :
    Program (ExportedBufferSessionOutput T) := do
  let exported ← buffers.zipIdx.foldlM (exportStep driver context) []
  Run.call (.other .operation) (buffers.map Vulkan.VulkanBuffer.memoryObject)
  let operationResult := operation exported
  let reclaimError ← buffers.zipIdx.foldlM (reclaimStep driver context) none
  let value ← Run.lift operationResult
  match reclaimError with
  | some error => throw error
  | none =>
    let readbacks ← (specs.zip buffers).zipIdx.foldlM (readStep driver context) []
    return { value, vulkanDevice := context.deviceName, readbacks }

/-- `platform::with_buffers`. -/
def withBuffers (setting : Option String) (specs : List SharedBufferSpec)
    (operation : List ExportedSharedBuffer → Except BackendError T) :
    Program (ExportedBufferSessionOutput T) := do
  Run.lift (validateSpecs setting specs)
  let context ← perform .create (driver.createContext .create "memory")
  Run.ensure (do
      let (buffers, created) ← specs.zipIdx.foldlM (Run.pushStep fun entry =>
        createShared driver context entry.1 entry.2) ([], .ok ())
      Run.ensure (do
          Run.lift created
          shareBuffers driver context specs buffers operation)
        (dropBuffers buffers))
    context.drop

/-! ### Sizes -/

/-- The size of the initial data is that of the buffer. -/
def Sized (spec : SharedBufferSpec) : Prop :=
  ∀ initial, spec.initialData = some initial → initial.length = spec.bytes.toNat

theorem sized_of_validateSpec {total total' : BitVec 64} {entry : SharedBufferSpec × ℕ}
    (h : validateSpec total entry = .ok total') : Sized entry.1 := by
  intro initial hinitial
  simp only [validateSpec, hinitial, Option.elim_some, Except.bind_eq_ok_iff,
    Except.rejectIf_eq_ok_iff, Option.okOr_eq_ok_iff, BitVec.tryOfNat_eq_some_iff] at h
  obtain ⟨-, -, -, ⟨actual, hactual, hbytes⟩, -⟩ := h
  rw [← not_not.1 hbytes, hactual]

theorem sized_of_foldlM {specs : List (SharedBufferSpec × ℕ)} {total total' : BitVec 64}
    (h : specs.foldlM validateSpec total = .ok total') : ∀ entry ∈ specs, Sized entry.1 := by
  induction specs generalizing total with
  | nil => exact List.forall_mem_nil _
  | cons entry specs ih =>
    rw [List.foldlM_cons, Except.bind_eq_ok_iff] at h
    obtain ⟨mid, hmid, hrest⟩ := h
    exact List.forall_mem_cons.2 ⟨sized_of_validateSpec hmid, ih hrest⟩

theorem sized_of_validateSpecs {setting : Option String} {specs : List SharedBufferSpec}
    (h : validateSpecs setting specs = .ok ()) : ∀ entry ∈ specs.zipIdx, Sized entry.1 := by
  simp only [validateSpecs, Except.bind_eq_ok_iff] at h
  obtain ⟨-, -, -, -, total, htotal, -⟩ := h
  exact sized_of_foldlM htotal

theorem ofNat_length_of_sized {spec : SharedBufferSpec} {initial : List Byte} (h : Sized spec)
    (hinitial : spec.initialData = some initial) :
    BitVec.ofNat 64 initial.length = spec.bytes := by
  rw [h initial hinitial, BitVec.ofNat_toNat, BitVec.setWidth_eq]

end RiftGPU.SharedBuffers.Platform
