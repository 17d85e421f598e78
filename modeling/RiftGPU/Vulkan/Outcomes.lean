import RiftGPU.Lifetime.Simulation
import RiftGPU.Vulkan.Context

/-!
# How the calls of a context end

Whether a method of a context succeeds, and with which error it fails, does not depend on the
objects at hand: it depends on the answers of the driver for the purpose of the call. This file
gives the outcomes of the methods as plain computations.

## Main definitions

* `Vulkan.Driver.createOutcome`, `Vulkan.Driver.bufferOutcome`, `Vulkan.Driver.submitOutcome`,
  `Vulkan.Driver.mapOutcome`, `Vulkan.Driver.exportOutcome`.

## Main results

* `Vulkan.returns_createContext`, `Vulkan.returns_createBuffer`, `Vulkan.returns_submitOneTime`,
  `Vulkan.returns_writeStaging`, `Vulkan.returns_readStaging`, `Vulkan.returns_exportKmtHandle`:
  the methods end so.
-/

namespace RiftGPU.Vulkan

open Lifetime Bytes

variable {K σ τ : Type}

/-! ### Outcomes -/

namespace Driver

variable (driver : Driver K) (purpose : K)

/-- How a function ends. -/
def verdict (function : VkFunction) (error : String → BackendError) : Except BackendError Unit :=
  (driver.outcome purpose function).mapError error

/-- The device that a new context has selected. -/
def createOutcome (exportedNoun : String) : Except BackendError (ℕ × ℕ × String) := do
  driver.verdict purpose .load fun error => .unavailable s!"Vulkan loader: {error}"
  driver.verdict purpose .createInstance fun error => .probe s!"vkCreateInstance: {error}"
  let (physicalDevice, queueFamilyIndex, deviceName) ← selectVulkanDevice driver.physicalDevices
  Except.rejectIf (driver.externalMemoryFeatures physicalDevice &&& exportableFlag ≠ exportableFlag)
    (.unsupported s!"Vulkan device '{deviceName}' cannot export OPAQUE_WIN32_KMT {exportedNoun}")
  driver.verdict purpose .createDevice fun error =>
    .probe s!"vkCreateDevice for '{deviceName}': {error}"
  driver.verdict purpose .createCommandPool fun error => .probe s!"vkCreateCommandPool: {error}"
  return (physicalDevice, queueFamilyIndex, deviceName)

/-- How the creation of a buffer ends. -/
def bufferOutcome (physicalDevice : ℕ) (kind : BufferKind) : Except BackendError Unit := do
  driver.verdict purpose .createBuffer fun error => .internal (kind.createText ++ error)
  let _memoryTypeIndex ← (findMemoryType (driver.memoryProperties physicalDevice)
    (driver.memoryTypeBits purpose) kind.required).okOr (.unsupported kind.noMemoryType)
  driver.verdict purpose .allocateMemory fun error => .internal (kind.allocateText ++ error)
  driver.verdict purpose .bindBufferMemory fun error => .internal (kind.bindText ++ error)

/-- How the mapping of a memory ends. -/
def mapOutcome (mapText : String) : Except BackendError Unit :=
  driver.verdict purpose .mapMemory fun error => .internal (mapText ++ error)

/-- How the export of a handle ends. -/
def exportOutcome : Except BackendError Unit :=
  driver.verdict purpose .getMemoryWin32Handle fun error =>
    .internal s!"vkGetMemoryWin32HandleKHR: {error}"

/-- How a submission ends. -/
def submitOutcome : Except BackendError Unit := do
  driver.verdict purpose .allocateCommandBuffers fun error =>
    .internal s!"vkAllocateCommandBuffers: {error}"
  driver.verdict purpose .beginCommandBuffer fun error =>
    .internal s!"vkBeginCommandBuffer: {error}"
  driver.verdict purpose .endCommandBuffer fun error => .internal s!"vkEndCommandBuffer: {error}"
  driver.verdict purpose .queueSubmit fun error => .internal s!"vkQueueSubmit: {error}"
  driver.verdict purpose .queueWaitIdle fun error => .internal s!"vkQueueWaitIdle: {error}"

end Driver

/-! ### Single calls -/

/-- The events of the program that uses the context are observed, the calls of Vulkan are not. -/
def Label.observed : Label σ → Option σ
  | vulkan _ _ | hostWrite _ | hostRead _ _ => none
  | other event => some event

variable {driver : Driver K} {context : VulkanContext} {purpose : K}

theorem returns_query (function : VkFunction) (uses : List GpuObject) :
    Returns Label.observed Eq (query function uses : Vk σ Unit) (.ok ()) :=
  Refines.hidden rfl

theorem returns_attempt {function : VkFunction} {uses : List GpuObject}
    {text : String → BackendError} :
    Returns Label.observed Eq (driver.attempt purpose function uses text : Vk σ Unit)
      (driver.verdict purpose function text) :=
  (Refines.hidden rfl).skip (.lift _)

theorem returns_make {function : VkFunction} {uses : List GpuObject} {object : ℕ → GpuObject}
    {text : String → BackendError} :
    Returns Label.observed (fun _ _ => True)
      (driver.make purpose function uses object text : Vk σ ℕ)
      (driver.verdict purpose function text) :=
  returns_attempt.finish fun _ _ _ => Refines.create object

theorem returns_destroy (object : GpuObject) :
    Returns Label.observed Eq (Run.destroy object : Vk σ Unit) (.ok ()) :=
  Refines.destroy object

/-! ### The context -/

theorem returns_dropContext (context : VulkanContext) :
    Returns Label.observed Eq (context.drop : Vk σ Unit) (.ok ()) :=
  (returns_query _ _).skip ((returns_destroy _).skip ((returns_destroy _).skip
    ((returns_destroy _).skip (returns_destroy _))))

/-- The context is one of the selected device. -/
def VulkanContext.IsFor (context : VulkanContext) (selection : ℕ × ℕ × String) : Prop :=
  context.physicalDevice = selection.1 ∧ context.queueFamilyIndex = selection.2.1 ∧
    context.deviceName = selection.2.2

theorem returns_createContext (exportedNoun : String) :
    Returns Label.observed VulkanContext.IsFor
      (driver.createContext purpose exportedNoun : Vk σ VulkanContext)
      (driver.createOutcome purpose exportedNoun) := by
  refine Returns.bind returns_make fun loader _ _ => Refines.onError ?_ (returns_destroy _)
  refine Returns.bind returns_make fun vulkanInstance _ _ => ?_
  refine Returns.bind (Refines.onError ((returns_query _ _).skip (.lift _)) (returns_destroy _))
    fun selection _ heq => ?_
  subst heq
  obtain ⟨physicalDevice, queueFamilyIndex, deviceName⟩ := selection
  refine (returns_query _ _).skip (Returns.bind (.onError (.lift _) (returns_destroy _))
    fun _ _ _ => ?_)
  refine Returns.bind (.onError returns_make (returns_destroy _)) fun device _ _ => ?_
  refine (returns_query _ _).skip (Returns.bind
    (.onError returns_make ((returns_destroy _).skip (returns_destroy _)))
    fun commandPool _ _ => .pure ⟨rfl, rfl, rfl⟩)

/-! ### Buffers -/

theorem returns_dropBuffer (buffer : VulkanBuffer) :
    Returns Label.observed Eq (buffer.drop : Vk σ Unit) (.ok ()) :=
  (returns_destroy _).skip (returns_destroy _)

theorem returns_createBuffer (kind : BufferKind) (bytes : BitVec 64) :
    Returns Label.observed (fun buffer _ => buffer.logicalSize = bytes ∧
        buffer.allocationSize = driver.memorySize purpose)
      (driver.createBuffer context purpose kind bytes : Vk σ VulkanBuffer)
      (driver.bufferOutcome purpose context.physicalDevice kind) := by
  refine Returns.bind returns_make fun buffer _ _ => (returns_query _ _).skip
    ((returns_query _ _).skip (Returns.bind (.onError (.lift _) (returns_destroy _))
      fun _ _ _ => ?_))
  refine Returns.bind (.onError returns_make (returns_destroy _)) fun memory _ _ => ?_
  exact Returns.finish (.onError returns_attempt ((returns_destroy _).skip (returns_destroy _)))
    fun _ _ _ => .pure ⟨rfl, rfl⟩

theorem returns_exportKmtHandle (shared : VulkanBuffer) :
    Returns Label.observed (fun handle _ => handle = driver.win32Handle purpose)
      (driver.exportKmtHandle context purpose shared : Vk σ (BitVec 64))
      (driver.exportOutcome purpose) :=
  Returns.finish returns_attempt fun _ _ _ => .pure rfl

/-! ### Mappings and command buffers -/

theorem returns_withMapping {α : Type} {staging : VulkanBuffer} {mapText : String}
    {access : GpuObject → Vk σ α} {rel : α → Unit → Prop}
    (haccess : ∀ mapping, Returns Label.observed rel (access mapping) (.ok ())) :
    Returns Label.observed rel (driver.withMapping context purpose staging mapText access)
      (driver.mapOutcome purpose mapText) :=
  Returns.finish returns_make fun _ _ _ => .ensure (haccess _) (returns_destroy _)

theorem returns_readStaging {staging : VulkanBuffer} {mapText : String} :
    Returns Label.observed (fun bytes _ => bytes = driver.contents purpose)
      (driver.readStaging context purpose staging mapText : Vk σ (List Byte))
      (driver.mapOutcome purpose mapText) :=
  returns_withMapping fun _ => (Refines.hidden rfl).skip (.pure rfl)

/-- Data of the size of the buffer. -/
theorem returns_writeStaging {staging : VulkanBuffer} {mapText : String} {data : List Byte}
    (hlength : BitVec.ofNat 64 data.length = staging.logicalSize) :
    Returns Label.observed Eq (driver.writeStaging context purpose staging mapText data : Vk σ Unit)
      (driver.mapOutcome purpose mapText) := by
  rw [Driver.writeStaging, Except.rejectIf_of_not (not_not.2 hlength)]
  exact Refines.skip (.lift (.ok ())) (returns_withMapping fun _ => Refines.hidden rfl)

theorem returns_recordCommands (commandBuffer : GpuObject) (commands : List Command) :
    Returns Label.observed Eq
      (commands.foldlM (fun _ command => recordCommand commandBuffer command) () : Vk σ Unit)
      (.ok ()) := by
  induction commands with
  | nil => exact .pure rfl
  | cons command commands ih =>
    rw [List.foldlM_cons]
    exact (returns_query _ _).skip ih

theorem returns_submitOneTime (commands : List Command) :
    Returns Label.observed Eq (driver.submitOneTime context purpose commands : Vk σ Unit)
      (driver.submitOutcome purpose) := by
  refine Returns.bind returns_make fun commandBuffer _ _ =>
    .ensure (Returns.bind returns_attempt fun _ _ _ => ?_) (returns_destroy _)
  exact (returns_recordCommands _ _).skip (Returns.bind returns_attempt fun _ _ _ =>
    Returns.bind returns_attempt fun _ _ _ => returns_attempt)

end RiftGPU.Vulkan
