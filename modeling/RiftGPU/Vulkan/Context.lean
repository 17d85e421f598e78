import RiftGPU.Lifetime.Scope
import RiftGPU.Vulkan.Devices

/-!
# The Vulkan context

A context owns an instance, a device and a command pool. It creates buffers with their memory,
writes and reads memory that the host can map, and submits commands, for each of which it waits.
This file models the `VulkanContext` that `vrb-vulkan-shared-buffer` and the interop module of
`vrb-backends` both have; the two differ in the texts of some errors. What the driver answers is
arbitrary. The methods of a context are called for purposes of a type `K`, each of which a program
pursues once, so an answer of the driver may depend on everything that happened before.

## Main definitions

* `Vulkan.GpuObject`: the objects of Vulkan and HIP, with what they are made from.
* `Vulkan.Driver`: the answers of the driver.
* `Vulkan.Driver.createContext`, `Vulkan.VulkanContext.drop`.
* `Vulkan.Driver.createBuffer`, `Vulkan.VulkanBuffer.drop`.
* `Vulkan.BufferMemoryBarrier`, `Vulkan.Command`: what is recorded in command buffers.
* `Vulkan.Driver.submitOneTime`, `Vulkan.Driver.writeStaging`, `Vulkan.Driver.readStaging`.
-/

namespace RiftGPU.Vulkan

open Bytes Lifetime

/-! ### Objects and calls -/

/-- The objects of Vulkan and HIP. Objects of one kind differ in their serial numbers or in what
they are made from. -/
inductive GpuObject where
  | vulkanLoader (serial : ℕ)
  | vulkanInstance (loader : GpuObject) (serial : ℕ)
  | vulkanDevice (vulkanInstance : GpuObject) (serial : ℕ)
  | commandPool (device : GpuObject) (serial : ℕ)
  | commandBuffer (pool : GpuObject) (serial : ℕ)
  | buffer (device : GpuObject) (serial : ℕ)
  | deviceMemory (device : GpuObject) (serial : ℕ)
  | mapping (memory : GpuObject) (serial : ℕ)
  | hipLibrary (serial : ℕ)
  | hipExternalMemory (library memory : GpuObject) (serial : ℕ)
  | hipMappedBuffer (library external : GpuObject) (serial : ℕ)
  | hipAllocation (library : GpuObject) (serial : ℕ)
deriving DecidableEq, Repr

namespace GpuObject

/-- The number that the run has given to the object. -/
def serial : GpuObject → ℕ
  | vulkanLoader serial | hipLibrary serial => serial
  | vulkanInstance _ serial | vulkanDevice _ serial | commandPool _ serial => serial
  | commandBuffer _ serial | buffer _ serial | deviceMemory _ serial | mapping _ serial => serial
  | hipExternalMemory _ _ serial | hipMappedBuffer _ _ serial | hipAllocation _ serial => serial

/-- What must outlive an object. -/
def owners : GpuObject → List GpuObject
  | vulkanLoader _ | hipLibrary _ => []
  | vulkanInstance owner _ | vulkanDevice owner _ | commandPool owner _ => [owner]
  | commandBuffer owner _ | buffer owner _ | deviceMemory owner _ | mapping owner _ => [owner]
  | hipExternalMemory library owner _ | hipMappedBuffer library owner _ => [library, owner]
  | hipAllocation library _ => [library]

instance : Resource GpuObject := ⟨serial, owners⟩

/-- Objects are made from smaller ones. -/
theorem sizeOf_lt_of_mem_owners {object owner : GpuObject}
    (h : owner ∈ Lifetime.owners object) : sizeOf owner < sizeOf object := by
  cases object <;> simp_all [Lifetime.owners, owners] <;>
    first | omega | (rcases h with rfl | rfl <;> omega)

theorem not_mem_owners_self (object : GpuObject) : object ∉ Lifetime.owners object :=
  fun h => (sizeOf_lt_of_mem_owners h).false

end GpuObject

/-- The accesses to memory that the barriers name. -/
inductive AccessFlag where
  | transferRead
  | transferWrite
  | hostRead
  | hostWrite
  | memoryRead
  | memoryWrite
deriving DecidableEq, Repr

/-- The stages of a pipeline that the barriers name. -/
inductive PipelineStage where
  | topOfPipe
  | transfer
  | bottomOfPipe
  | host
  | allCommands
deriving DecidableEq, Repr

/-- Who owns a buffer: the queues of a family, or whoever uses the buffer outside of Vulkan.
`QUEUE_FAMILY_EXTERNAL` is the index of no family. -/
inductive QueueFamilyIndex where
  | family (index : ℕ)
  | external
deriving DecidableEq, Repr

/-- A barrier on the first bytes of a buffer, with the stages between which it stands. It transfers
the ownership of the buffer when the two queue families are different. -/
structure BufferMemoryBarrier where
  srcStage : PipelineStage
  dstStage : PipelineStage
  srcAccessMask : List AccessFlag
  dstAccessMask : List AccessFlag
  srcQueueFamilyIndex : QueueFamilyIndex
  dstQueueFamilyIndex : QueueFamilyIndex
  size : BitVec 64
deriving DecidableEq, Repr

/-- The functions of Vulkan and of its loader that the context calls. -/
inductive VkFunction where
  | load
  | createInstance
  | enumeratePhysicalDevices
  | getPhysicalDeviceExternalBufferProperties
  | createDevice
  | getDeviceQueue
  | createCommandPool
  | deviceWaitIdle
  | createBuffer
  | getBufferMemoryRequirements
  | getPhysicalDeviceMemoryProperties
  | allocateMemory
  | bindBufferMemory
  | mapMemory
  | getMemoryWin32Handle
  | allocateCommandBuffers
  | beginCommandBuffer
  | cmdPipelineBarrier (barrier : BufferMemoryBarrier)
  | cmdCopyBuffer (size : BitVec 64)
  | endCommandBuffer
  | queueSubmit
  | queueWaitIdle
deriving DecidableEq, Repr

/-- A call of Vulkan, an access of the host to memory that it mapped, or an event of the program
that uses the context. A call has what the driver answers: whether it has succeeded, or the text of
an error. An access has the bytes that are written or were read. -/
inductive Label (σ : Type) where
  | vulkan (function : VkFunction) (answer : Except String Unit)
  | hostWrite (data : List Byte)
  | hostRead (size : BitVec 64) (data : List Byte)
  | other (event : σ)
deriving DecidableEq, Repr

/-- Programs that call Vulkan. -/
abbrev Vk (σ : Type) : Type → Type := Run (Label σ) GpuObject BackendError

/-! ### The driver -/

/-- The property flags of the memory types of a device. -/
structure MemoryProperties where
  propertyFlags : List (BitVec 32)
  length_le : propertyFlags.length ≤ 32

/-- The answers of the driver. A failing function returns the text of an error. -/
structure Driver (K : Type) where
  outcome : K → VkFunction → Except String Unit
  physicalDevices : Except String (List PhysicalDevice)
  externalMemoryFeatures : ℕ → BitVec 32
  memoryProperties : ℕ → MemoryProperties
  memoryTypeBits : K → BitVec 32
  memorySize : K → BitVec 64
  win32Handle : K → BitVec 64
  contents : K → List Byte

/-- `EXPORTABLE`, a feature of external memory. -/
def exportableFlag : BitVec 32 := 2#32

/-- `DEVICE_LOCAL`. -/
def deviceLocal : BitVec 32 := 1#32

/-- `HOST_VISIBLE | HOST_COHERENT`. -/
def hostVisibleCoherent : BitVec 32 := 6#32

/-- The first memory type that the bits allow and that has the required properties. -/
def findMemoryType (properties : MemoryProperties) (memoryTypeBits required : BitVec 32) :
    Option ℕ :=
  (properties.propertyFlags.zipIdx.find? fun entry =>
    memoryTypeBits &&& (1#32 <<< entry.2) != 0#32 && entry.1 &&& required == required).map Prod.snd

/-- The errors that differ between the two modules that have a context, and between the kinds of
buffers. The texts stand before that of the driver. -/
structure BufferKind where
  required : BitVec 32
  createText : String
  noMemoryType : String
  allocateText : String
  bindText : String

/-! ### The context -/

/-- A device, with its instance and the loader. -/
structure Device where
  loader : ℕ
  vulkanInstance : ℕ
  device : ℕ
deriving DecidableEq, Repr

namespace Device

variable (device : Device)

/-- The loader as an object. -/
def loaderObject : GpuObject := .vulkanLoader device.loader

/-- The instance as an object. -/
def instanceObject : GpuObject := .vulkanInstance device.loaderObject device.vulkanInstance

/-- The device as an object. -/
def object : GpuObject := .vulkanDevice device.instanceObject device.device

end Device

/-- A context: a device and a command pool of the queue family that it submits to. -/
structure VulkanContext where
  device : Device
  commandPool : ℕ
  physicalDevice : ℕ
  queueFamilyIndex : ℕ
  deviceName : String

/-- The command pool as an object. -/
def VulkanContext.poolObject (context : VulkanContext) : GpuObject :=
  .commandPool context.device.object context.commandPool

/-- A buffer with its memory, which the driver may make larger than the buffer. -/
structure VulkanBuffer where
  device : Device
  buffer : ℕ
  memory : ℕ
  logicalSize : BitVec 64
  allocationSize : BitVec 64

namespace VulkanBuffer

variable (buffer : VulkanBuffer)

/-- The buffer as an object. -/
def bufferObject : GpuObject := .buffer buffer.device.object buffer.buffer

/-- The memory as an object. -/
def memoryObject : GpuObject := .deviceMemory buffer.device.object buffer.memory

end VulkanBuffer

/-- The commands that the context records. -/
inductive Command where
  | pipelineBarrier (barrier : BufferMemoryBarrier) (buffer : GpuObject)
  | copyBuffer (source destination : GpuObject) (size : BitVec 64)

/-- The buffers that a command is about. -/
def Command.buffers : Command → List GpuObject
  | pipelineBarrier _ buffer => [buffer]
  | copyBuffer source destination _ => [source, destination]

/-- The function of Vulkan that records the command. -/
def Command.function : Command → VkFunction
  | pipelineBarrier barrier _ => .cmdPipelineBarrier barrier
  | copyBuffer _ _ size => .cmdCopyBuffer size

namespace VulkanContext

variable (context : VulkanContext)

/-- The queue family of the context, as an owner of buffers. -/
def owner : QueueFamilyIndex := .family context.queueFamilyIndex

/-- What the host has written to a staging buffer is visible to a copy from it. -/
def hostWriteBarrier (staging : VulkanBuffer) : Command :=
  .pipelineBarrier {
    srcStage := .host
    dstStage := .transfer
    srcAccessMask := [.hostWrite]
    dstAccessMask := [.transferRead]
    srcQueueFamilyIndex := context.owner
    dstQueueFamilyIndex := context.owner
    size := staging.logicalSize } staging.bufferObject

/-- What was copied to a staging buffer is visible to the host. -/
def hostReadBarrier (staging : VulkanBuffer) : Command :=
  .pipelineBarrier {
    srcStage := .transfer
    dstStage := .host
    srcAccessMask := [.transferWrite]
    dstAccessMask := [.hostRead]
    srcQueueFamilyIndex := context.owner
    dstQueueFamilyIndex := context.owner
    size := staging.logicalSize } staging.bufferObject

end VulkanContext

variable {K σ : Type}

/-- A function that cannot fail. -/
def query (function : VkFunction) (uses : List GpuObject) : Vk σ Unit :=
  Run.call (.vulkan function (.ok ())) uses

/-- Record a command. -/
def recordCommand (commandBuffer : GpuObject) (command : Command) : Vk σ Unit :=
  query command.function (commandBuffer :: command.buffers)

/-- The `Drop` of a context, and of the loader that it holds. -/
def VulkanContext.drop (context : VulkanContext) : Vk σ Unit := do
  query .deviceWaitIdle [context.device.object]
  Run.destroy context.poolObject
  Run.destroy context.device.object
  Run.destroy context.device.instanceObject
  Run.destroy context.device.loaderObject

/-- The `Drop` of a buffer. -/
def VulkanBuffer.drop (buffer : VulkanBuffer) : Vk σ Unit := do
  Run.destroy buffer.bufferObject
  Run.destroy buffer.memoryObject

namespace Driver

variable (driver : Driver K)

/-- A function that may fail. -/
def attempt (purpose : K) (function : VkFunction) (uses : List GpuObject)
    (error : String → BackendError) : Vk σ Unit := do
  let answer := driver.outcome purpose function
  Run.call (.vulkan function answer) uses
  Run.lift (answer.mapError error)

/-- A function that creates an object. -/
def make (purpose : K) (function : VkFunction) (uses : List GpuObject)
    (object : ℕ → GpuObject) (error : String → BackendError) : Vk σ ℕ := do
  driver.attempt purpose function uses error
  Run.create object

/-- What follows the creation of the instance: the selection of a device, which must be able to
export memory as the noun in an error says. -/
def createChildren (purpose : K) (exportedNoun : String) (loader vulkanInstance : ℕ) :
    Vk σ VulkanContext := do
  let instanceObject : GpuObject := .vulkanInstance (.vulkanLoader loader) vulkanInstance
  let (physicalDevice, queueFamilyIndex, deviceName) ← Run.onError (do
      query .enumeratePhysicalDevices [instanceObject]
      Run.lift (selectVulkanDevice driver.physicalDevices))
    (Run.destroy instanceObject)
  query .getPhysicalDeviceExternalBufferProperties [instanceObject]
  Run.onError (Run.lift (Except.rejectIf
      (driver.externalMemoryFeatures physicalDevice &&& exportableFlag ≠ exportableFlag)
      (.unsupported
        s!"Vulkan device '{deviceName}' cannot export OPAQUE_WIN32_KMT {exportedNoun}")))
    (Run.destroy instanceObject)
  let device ← Run.onError
    (driver.make purpose .createDevice [instanceObject] (.vulkanDevice instanceObject)
      fun error => .probe s!"vkCreateDevice for '{deviceName}': {error}")
    (Run.destroy instanceObject)
  let deviceObject : GpuObject := .vulkanDevice instanceObject device
  query .getDeviceQueue [deviceObject]
  let commandPool ← Run.onError
    (driver.make purpose .createCommandPool [deviceObject] (.commandPool deviceObject)
      fun error => .probe s!"vkCreateCommandPool: {error}")
    (do
      Run.destroy deviceObject
      Run.destroy instanceObject)
  return {
    device := ⟨loader, vulkanInstance, device⟩
    commandPool
    physicalDevice
    queueFamilyIndex
    deviceName }

/-- `VulkanContext::create`. The loader is dropped when the creation fails. -/
def createContext (purpose : K) (exportedNoun : String) : Vk σ VulkanContext := do
  let loader ← driver.make purpose .load [] .vulkanLoader
    fun error => .unavailable s!"Vulkan loader: {error}"
  let loaderObject : GpuObject := .vulkanLoader loader
  Run.onError (do
      let vulkanInstance ← driver.make purpose .createInstance [loaderObject]
        (.vulkanInstance loaderObject) fun error => .probe s!"vkCreateInstance: {error}"
      driver.createChildren purpose exportedNoun loader vulkanInstance)
    (Run.destroy loaderObject)

/-! ### Buffers -/

/-- What follows the creation of a buffer: its memory is allocated and bound. -/
def bindMemory (context : VulkanContext) (purpose : K) (kind : BufferKind) (bytes : BitVec 64)
    (buffer : ℕ) : Vk σ VulkanBuffer := do
  let bufferObject : GpuObject := .buffer context.device.object buffer
  query .getBufferMemoryRequirements [context.device.object, bufferObject]
  query .getPhysicalDeviceMemoryProperties [context.device.instanceObject]
  let _memoryTypeIndex ← Run.onError (Run.lift
      ((findMemoryType (driver.memoryProperties context.physicalDevice)
        (driver.memoryTypeBits purpose) kind.required).okOr (.unsupported kind.noMemoryType)))
    (Run.destroy bufferObject)
  let memory ← Run.onError
    (driver.make purpose .allocateMemory [context.device.object, bufferObject]
      (.deviceMemory context.device.object) fun error => .internal (kind.allocateText ++ error))
    (Run.destroy bufferObject)
  let memoryObject : GpuObject := .deviceMemory context.device.object memory
  Run.onError
    (driver.attempt purpose .bindBufferMemory [context.device.object, bufferObject, memoryObject]
      fun error => .internal (kind.bindText ++ error))
    (do
      Run.destroy memoryObject
      Run.destroy bufferObject)
  return {
    device := context.device
    buffer
    memory
    logicalSize := bytes
    allocationSize := driver.memorySize purpose }

/-- `create_shared_buffer`, `create_staging_buffer` and `create_device_buffer`. -/
def createBuffer (context : VulkanContext) (purpose : K) (kind : BufferKind) (bytes : BitVec 64) :
    Vk σ VulkanBuffer := do
  let buffer ← driver.make purpose .createBuffer [context.device.object]
    (.buffer context.device.object) fun error => .internal (kind.createText ++ error)
  driver.bindMemory context purpose kind bytes buffer

/-- The handle by which another library can import the memory of a buffer. -/
def exportKmtHandle (context : VulkanContext) (purpose : K) (shared : VulkanBuffer) :
    Vk σ (BitVec 64) := do
  driver.attempt purpose .getMemoryWin32Handle [context.device.object, shared.memoryObject]
    fun error => .internal s!"vkGetMemoryWin32HandleKHR: {error}"
  return driver.win32Handle purpose

/-! ### Memory that the host maps -/

/-- Map the memory of a buffer, and unmap it after `access`. -/
def withMapping {α : Type} (context : VulkanContext) (purpose : K) (staging : VulkanBuffer)
    (mapText : String) (access : GpuObject → Vk σ α) : Vk σ α := do
  let mapping ← driver.make purpose .mapMemory [context.device.object, staging.memoryObject]
    (.mapping staging.memoryObject) fun error => .internal (mapText ++ error)
  let mappingObject : GpuObject := .mapping staging.memoryObject mapping
  Run.ensure (access mappingObject) (Run.destroy mappingObject)

/-- Write bytes to a staging buffer, which must have as many. -/
def writeStaging (context : VulkanContext) (purpose : K) (staging : VulkanBuffer)
    (mapText : String) (data : List Byte) : Vk σ Unit := do
  Run.lift (Except.rejectIf (BitVec.ofNat 64 data.length ≠ staging.logicalSize) (.internal
    (s!"staging write length {data.length} does not match buffer size " ++
      toString staging.logicalSize.toNat)))
  driver.withMapping context purpose staging mapText fun mapping =>
    Run.call (.hostWrite data) [mapping]

/-- The bytes of a staging buffer. -/
def readStaging (context : VulkanContext) (purpose : K) (staging : VulkanBuffer)
    (mapText : String) : Vk σ (List Byte) :=
  driver.withMapping context purpose staging mapText fun mapping => do
    Run.call (.hostRead staging.logicalSize (driver.contents purpose)) [mapping]
    return driver.contents purpose

/-! ### Commands -/

/-- The part of `submit_one_time` that runs while its command buffer exists. -/
def submitCommands (context : VulkanContext) (purpose : K) (commandBuffer : GpuObject)
    (commands : List Command) : Vk σ Unit := do
  driver.attempt purpose .beginCommandBuffer [context.device.object, commandBuffer]
    fun error => .internal s!"vkBeginCommandBuffer: {error}"
  commands.foldlM (fun _ command => recordCommand commandBuffer command) ()
  driver.attempt purpose .endCommandBuffer [context.device.object, commandBuffer]
    fun error => .internal s!"vkEndCommandBuffer: {error}"
  driver.attempt purpose .queueSubmit [context.device.object, commandBuffer]
    fun error => .internal s!"vkQueueSubmit: {error}"
  driver.attempt purpose .queueWaitIdle [context.device.object]
    fun error => .internal s!"vkQueueWaitIdle: {error}"

/-- Record commands in a command buffer, submit it and wait for the queue. The command buffer is
freed at the end, also when the submission or the wait has failed. -/
def submitOneTime (context : VulkanContext) (purpose : K) (commands : List Command) :
    Vk σ Unit := do
  let commandBuffer ← driver.make purpose .allocateCommandBuffers
    [context.device.object, context.poolObject] (.commandBuffer context.poolObject)
    fun error => .internal s!"vkAllocateCommandBuffers: {error}"
  let commandObject : GpuObject := .commandBuffer context.poolObject commandBuffer
  Run.ensure (driver.submitCommands context purpose commandObject commands)
    (Run.destroy commandObject)

/-- Copy from a staging buffer, after what the host has written to it. -/
def copyStagingToDevice (context : VulkanContext) (purpose : K)
    (staging deviceBuffer : VulkanBuffer) : Vk σ Unit :=
  driver.submitOneTime context purpose [context.hostWriteBarrier staging,
    .copyBuffer staging.bufferObject deviceBuffer.bufferObject staging.logicalSize]

/-- Copy to a staging buffer, before the host reads it. -/
def copyDeviceToStaging (context : VulkanContext) (purpose : K)
    (deviceBuffer staging : VulkanBuffer) : Vk σ Unit :=
  driver.submitOneTime context purpose
    [.copyBuffer deviceBuffer.bufferObject staging.bufferObject deviceBuffer.logicalSize,
      context.hostReadBarrier staging]

end Driver

end RiftGPU.Vulkan
