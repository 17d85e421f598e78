import RiftGPU.Vulkan.Context

/-!
# Lifetimes of the objects of a context

Each method of a context hands over the objects that its result owns, and it releases whatever
else it created, also when it returns early. The specifications say which live objects a method
needs.

## Main results

* `Vulkan.triple_createContext`, `Vulkan.triple_dropContext`.
* `Vulkan.triple_createBuffer`, `Vulkan.triple_dropBuffer`.
* `Vulkan.keeps_submitOneTime`, `Vulkan.keeps_writeStaging`, `Vulkan.keeps_readStaging`: methods
  that create objects for their own use.
-/

namespace RiftGPU.Vulkan

open Lifetime

/-- The objects that a context owns. -/
def VulkanContext.objects (context : VulkanContext) : Multiset GpuObject :=
  context.poolObject ::ₘ context.device.object ::ₘ context.device.instanceObject ::ₘ
    context.device.loaderObject ::ₘ 0

/-- The objects that a buffer owns. -/
def VulkanBuffer.objects (buffer : VulkanBuffer) : Multiset GpuObject :=
  buffer.bufferObject ::ₘ buffer.memoryObject ::ₘ 0

variable {K σ : Type} {driver : Driver K} {context : VulkanContext} {purpose : K}
  {needs held error : Multiset GpuObject}

/-- The objects of a context are among the given ones. -/
def VulkanContext.LiveIn (context : VulkanContext) (needs : Multiset GpuObject) : Prop :=
  ∀ object ∈ context.objects, object ∈ needs

namespace VulkanContext.LiveIn

theorem pool (h : context.LiveIn needs) : context.poolObject ∈ needs :=
  h _ (by simp [objects])

theorem device (h : context.LiveIn needs) : context.device.object ∈ needs :=
  h _ (by simp [objects])

theorem vulkanInstance (h : context.LiveIn needs) : context.device.instanceObject ∈ needs :=
  h _ (by simp [objects])

theorem add (h : context.LiveIn needs) (held : Multiset GpuObject) :
    context.LiveIn (needs + held) :=
  fun object hmem => Multiset.mem_add.2 (.inl (h object hmem))

end VulkanContext.LiveIn

/-! ### Single calls -/

theorem triple_query {function : VkFunction} {uses : List GpuObject}
    (huses : ∀ object ∈ uses, object ∈ needs + held) :
    Triple needs held (query function uses : Vk σ Unit) (fun _ => held) error :=
  .call huses

theorem triple_attempt {function : VkFunction} {uses : List GpuObject}
    {text : String → BackendError} (huses : ∀ object ∈ uses, object ∈ needs + held) :
    Triple needs held (driver.attempt purpose function uses text : Vk σ Unit) (fun _ => held)
      held :=
  (Triple.call huses).bind fun _ => .liftM _

theorem triple_make {function : VkFunction} {uses : List GpuObject} {object : ℕ → GpuObject}
    {text : String → BackendError} (huses : ∀ object ∈ uses, object ∈ needs + held)
    (hserial : ∀ n, (object n).serial = n)
    (howners : ∀ n, ∀ owner ∈ (object n).owners, owner ∈ needs + held) :
    Triple needs held (driver.make purpose function uses object text : Vk σ ℕ)
      (fun n => object n ::ₘ held) held :=
  (triple_attempt huses).bind fun _ => .create hserial howners

theorem triple_destroy {object : GpuObject} (hchildren : ∀ other ∈ held, object ∉ other.owners) :
    Triple needs (object ::ₘ held) (Run.destroy object : Vk σ Unit) (fun _ => held) error :=
  .destroy hchildren object.not_mem_owners_self

/-! ### The context -/

theorem triple_dropContext (context : VulkanContext) :
    Triple needs context.objects (context.drop : Vk σ Unit) (fun _ => 0) 0 := by
  refine (triple_query ?_).bind fun _ => ?_
  · simp [VulkanContext.objects]
  -- the children go before their owners
  refine (triple_destroy ?_).bind fun _ => ?_
  · simp [VulkanContext.poolObject, Device.object, Device.instanceObject, Device.loaderObject,
      GpuObject.owners]
  refine (triple_destroy ?_).bind fun _ => ?_
  · simp [Device.object, Device.instanceObject, Device.loaderObject, GpuObject.owners]
  refine (triple_destroy ?_).bind fun _ => ?_
  · simp [Device.loaderObject, GpuObject.owners]
  exact triple_destroy (by simp)

theorem triple_createChildren (exportedNoun : String) (loader vulkanInstance : ℕ) :
    let loaderObject : GpuObject := .vulkanLoader loader
    Triple needs (.vulkanInstance loaderObject vulkanInstance ::ₘ loaderObject ::ₘ 0)
      (driver.createChildren purpose exportedNoun loader vulkanInstance : Vk σ VulkanContext)
      VulkanContext.objects (loaderObject ::ₘ 0) := by
  intro loaderObject
  have hrelease : Triple needs (.vulkanInstance loaderObject vulkanInstance ::ₘ loaderObject ::ₘ 0)
      (Run.destroy (.vulkanInstance loaderObject vulkanInstance) : Vk σ Unit)
      (fun _ => loaderObject ::ₘ 0) (loaderObject ::ₘ 0) :=
    triple_destroy (by simp [loaderObject, GpuObject.owners])
  refine (((triple_query ?_).bind fun _ => .liftM _).onError hrelease).bind fun selection => ?_
  · simp [loaderObject]
  obtain ⟨physicalDevice, queueFamilyIndex, deviceName⟩ := selection
  refine (triple_query ?_).bind fun _ => ?_
  · simp [loaderObject]
  refine ((Triple.liftM _).onError hrelease).bind fun _ => ?_
  refine ((triple_make ?_ (fun _ => rfl) ?_).onError hrelease).bind fun device => ?_
  · simp [loaderObject]
  · simp [loaderObject, GpuObject.owners]
  refine (triple_query ?_).bind fun _ => ?_
  · simp [loaderObject]
  refine ((triple_make ?_ (fun _ => rfl) ?_).onError ?_).bind fun commandPool => .pure rfl
  · simp [loaderObject]
  · simp [loaderObject, GpuObject.owners]
  · exact (triple_destroy (by simp [loaderObject, GpuObject.owners])).bind fun _ => hrelease

theorem triple_createContext (exportedNoun : String) :
    Triple needs 0 (driver.createContext purpose exportedNoun : Vk σ VulkanContext)
      VulkanContext.objects 0 := by
  refine (triple_make ?_ (fun _ => rfl) ?_).bind fun loader => Triple.onError ?_
    (triple_destroy ?_)
  · simp
  · simp [GpuObject.owners]
  · refine (triple_make ?_ (fun _ => rfl) ?_).bind fun vulkanInstance =>
      triple_createChildren exportedNoun loader vulkanInstance
    · simp
    · simp [GpuObject.owners]
  · simp

/-! ### Buffers -/

theorem triple_dropBuffer (buffer : VulkanBuffer) :
    Triple needs buffer.objects (buffer.drop : Vk σ Unit) (fun _ => 0) 0 := by
  refine (triple_destroy ?_).bind fun _ => triple_destroy ?_
  all_goals simp [VulkanBuffer.bufferObject, VulkanBuffer.memoryObject, Device.object,
    GpuObject.owners]

theorem triple_bindMemory {kind : BufferKind} {bytes : BitVec 64} (buffer : ℕ)
    (hcontext : context.LiveIn needs) :
    Triple needs (.buffer context.device.object buffer ::ₘ 0)
      (driver.bindMemory context purpose kind bytes buffer : Vk σ VulkanBuffer)
      VulkanBuffer.objects 0 := by
  have hrelease : Triple needs (.buffer context.device.object buffer ::ₘ 0)
      (Run.destroy (.buffer context.device.object buffer) : Vk σ Unit) (fun _ => 0) 0 :=
    triple_destroy (by simp)
  refine (triple_query ?_).bind fun _ => ?_
  · simp [hcontext.device]
  refine (triple_query ?_).bind fun _ => ?_
  · simp [hcontext.vulkanInstance]
  refine ((Triple.liftM _).onError hrelease).bind fun memoryTypeIndex => ?_
  refine ((triple_make ?_ (fun _ => rfl) ?_).onError hrelease).bind fun memory => ?_
  · simp [hcontext.device]
  · simp [GpuObject.owners, hcontext.device]
  refine ((triple_attempt ?_).onError ?_).bind fun _ => .pure (Multiset.cons_swap _ _ _)
  · simp [hcontext.device]
  · exact (triple_destroy (by simp [GpuObject.owners, Device.object])).bind
      fun _ => hrelease

theorem triple_createBuffer {kind : BufferKind} {bytes : BitVec 64}
    (hcontext : context.LiveIn needs) :
    Triple needs 0 (driver.createBuffer context purpose kind bytes : Vk σ VulkanBuffer)
      VulkanBuffer.objects 0 := by
  refine (triple_make ?_ (fun _ => rfl) ?_).bind fun buffer =>
    triple_bindMemory buffer hcontext
  · simp [hcontext.device]
  · simp [GpuObject.owners, hcontext.device]

theorem keeps_exportKmtHandle {shared : VulkanBuffer} (hcontext : context.LiveIn needs)
    (hmemory : shared.memoryObject ∈ needs) :
    Keeps needs (driver.exportKmtHandle context purpose shared : Vk σ (BitVec 64)) :=
  (triple_attempt (by simp [hcontext.device, hmemory])).bind fun _ => .pure rfl

/-! ### Mappings and command buffers -/

theorem keeps_withMapping {α : Type} {staging : VulkanBuffer} {mapText : String}
    {access : GpuObject → Vk σ α} (hcontext : context.LiveIn needs)
    (hmemory : staging.memoryObject ∈ needs)
    (haccess : ∀ mapping, Keeps {mapping} (access mapping)) :
    Keeps needs (driver.withMapping context purpose staging mapText access) := by
  refine Keeps.scope (triple_make ?_ (fun _ => rfl) ?_) (fun mapping => (haccess _).mono ?_)
    fun mapping => triple_destroy ?_
  · simp [hcontext.device, hmemory]
  · simp [GpuObject.owners, hmemory]
  · simp
  · simp

theorem keeps_writeStaging {staging : VulkanBuffer} {mapText : String} {data : List Bytes.Byte}
    (hcontext : context.LiveIn needs) (hmemory : staging.memoryObject ∈ needs) :
    Keeps needs (driver.writeStaging context purpose staging mapText data : Vk σ Unit) :=
  (Triple.liftM _).bind fun _ => keeps_withMapping hcontext hmemory fun _ => .call (by simp)

theorem keeps_readStaging {staging : VulkanBuffer} {mapText : String}
    (hcontext : context.LiveIn needs) (hmemory : staging.memoryObject ∈ needs) :
    Keeps needs (driver.readStaging context purpose staging mapText :
      Vk σ (List Bytes.Byte)) :=
  keeps_withMapping hcontext hmemory fun _ => (Triple.call (by simp)).bind fun _ => .pure rfl

theorem keeps_recordCommand {commandBuffer : GpuObject} {command : Command}
    (hcommandBuffer : commandBuffer ∈ needs)
    (hbuffers : ∀ buffer ∈ command.buffers, buffer ∈ needs) :
    Keeps needs (recordCommand commandBuffer command : Vk σ Unit) := by
  refine triple_query fun object hmem => Multiset.mem_add.2 (.inl ?_)
  rcases List.mem_cons.1 hmem with rfl | hmem
  · exact hcommandBuffer
  · exact hbuffers object hmem

/-- Begin, record, end, submit and wait. -/
theorem keeps_submitCommands {commandBuffer : GpuObject} {commands : List Command}
    (hcontext : context.LiveIn needs) (hcommandBuffer : commandBuffer ∈ needs)
    (hbuffers : ∀ command ∈ commands, ∀ buffer ∈ command.buffers, buffer ∈ needs) :
    Keeps needs (driver.submitCommands context purpose commandBuffer commands : Vk σ Unit) := by
  have hrecord (command : Command) (hmem : command ∈ commands) :
      Keeps needs (recordCommand commandBuffer command : Vk σ Unit) :=
    keeps_recordCommand hcommandBuffer (hbuffers command hmem)
  refine (triple_attempt ?_).bind fun _ => ?_
  · simp [hcontext.device, hcommandBuffer]
  refine (Triple.foldlM (fun _ command hmem => hrecord command hmem) ()).bind fun _ => ?_
  refine (triple_attempt ?_).bind fun _ => ?_
  · simp [hcontext.device, hcommandBuffer]
  refine (triple_attempt ?_).bind fun _ => triple_attempt ?_
  · simp [hcontext.device, hcommandBuffer]
  · simp [hcontext.device]

theorem keeps_submitOneTime {commands : List Command}
    (hcontext : context.LiveIn needs)
    (hbuffers : ∀ command ∈ commands, ∀ buffer ∈ command.buffers, buffer ∈ needs) :
    Keeps needs (driver.submitOneTime context purpose commands : Vk σ Unit) := by
  refine Keeps.scope (triple_make ?_ (fun _ => rfl) ?_) (fun commandBuffer => ?_)
    fun commandBuffer => triple_destroy ?_
  · simp [hcontext.device, hcontext.pool]
  · simp [GpuObject.owners, hcontext.pool]
  · refine keeps_submitCommands (hcontext.add _) (by simp) fun command hmem buffer hbuffer => ?_
    exact Multiset.mem_add.2 (.inl (hbuffers command hmem buffer hbuffer))
  · simp

end RiftGPU.Vulkan
