import RiftGPU.SharedBuffers.Platform

/-!
# Lifetimes in a session

Whatever the driver answers and the callback returns, a session leaves no object of Vulkan behind,
and it uses none after its destruction. A use is a call that names the object; what the device does
with an object after a call has returned is not spoken of.

## Main results

* `SharedBuffers.Platform.withBuffers_lifetimes`: every object of a session has a lifetime.
-/

namespace RiftGPU.SharedBuffers.Platform

open Lifetime Bytes
open Vulkan (Vk VulkanContext GpuObject)

variable {driver : Driver} {context : VulkanContext} {needs held error : Multiset GpuObject}

/-- The objects that a list of buffers owns. -/
def objects (buffers : List Vulkan.VulkanBuffer) : Multiset GpuObject :=
  (buffers.map Vulkan.VulkanBuffer.objects).sum

theorem mem_objects {buffers : List Vulkan.VulkanBuffer} {object : GpuObject} :
    object ∈ objects buffers ↔ ∃ buffer ∈ buffers, object ∈ buffer.objects := by
  induction buffers with
  | nil => simp [objects]
  | cons buffer buffers ih =>
    rw [objects, List.map_cons, List.sum_cons, Multiset.mem_add]
    rw [objects] at ih
    rw [ih, List.exists_mem_cons_iff]

theorem triple_perform {α : Type} {call : VulkanCall} {x : Program α}
    {ok : α → Multiset GpuObject} (h : Triple needs held x ok held) :
    Triple needs held (perform call x) ok held := by
  refine (Triple.call (List.forall_mem_nil _)).bind fun _ => ?_
  refine h.bind fun a => ?_
  exact (Triple.call (List.forall_mem_nil _)).bind fun _ => .pure rfl

/-- Buffers are not made from one another. -/
theorem free_objects (buffers : List Vulkan.VulkanBuffer) (buffer : Vulkan.VulkanBuffer) :
    Free (objects buffers) buffer.objects := by
  intro object hmem owner howner
  obtain ⟨other, -, hother⟩ := mem_objects.1 hmem
  have howner : owner = other.device.object := by
    rcases Multiset.mem_cons.1 hother with rfl | hother
    · exact List.mem_singleton.1 howner
    · obtain rfl := Multiset.mem_singleton.1 hother
      exact List.mem_singleton.1 howner
  simp [howner, Vulkan.VulkanBuffer.objects, Vulkan.VulkanBuffer.bufferObject,
    Vulkan.VulkanBuffer.memoryObject, Vulkan.Device.object]

theorem triple_dropBuffers (buffers : List Vulkan.VulkanBuffer) :
    Triple needs (objects buffers) (dropBuffers buffers) (fun _ => 0) 0 := by
  induction buffers with
  | nil => exact .pure rfl
  | cons buffer buffers ih =>
    rw [dropBuffers, List.foldlM_cons]
    -- the other buffers are kept while one is dropped
    have hframed : Triple needs (objects buffers + buffer.objects) (buffer.drop : Program Unit)
        (fun _ => objects buffers + 0) (objects buffers + 0) :=
      (Vulkan.triple_dropBuffer buffer).frame
        (fun _ hmem => absurd hmem (Multiset.notMem_zero _)) (free_objects buffers buffer)
    have hdrop : Triple needs (objects (buffer :: buffers)) (buffer.drop : Program Unit)
        (fun _ => objects buffers) (objects buffers) :=
      hframed.congr (Multiset.add_comm _ _) (fun _ => Multiset.add_zero _) (Multiset.add_zero _)
    exact Triple.bind hdrop fun _ => ih

theorem triple_createStaging {call : VulkanCall} {bytes : BitVec 64}
    (hcontext : context.LiveIn needs) :
    Triple needs 0 (perform call (driver.createBuffer context call stagingKind bytes))
      Vulkan.VulkanBuffer.objects 0 :=
  triple_perform (Vulkan.triple_createBuffer hcontext)

/-! ### Creating buffers -/

theorem keeps_upload {index : ℕ} {bytes : BitVec 64} {initial : List Byte}
    {shared : Vulkan.VulkanBuffer} (hcontext : context.LiveIn needs)
    (hshared : shared.bufferObject ∈ needs) :
    Keeps needs (upload driver context index bytes initial shared) := by
  refine Keeps.scope (triple_createStaging hcontext) (fun staging => ?_) Vulkan.triple_dropBuffer
  have hcontext' := hcontext.add staging.objects
  have hmemory : staging.memoryObject ∈ needs + staging.objects := by
    simp [Vulkan.VulkanBuffer.objects]
  refine (triple_perform (Vulkan.keeps_writeStaging hcontext' hmemory)).bind fun _ => ?_
  refine triple_perform (Vulkan.keeps_submitOneTime hcontext' ?_)
  simp [Vulkan.Command.buffers, VulkanContext.hostWriteBarrier, Vulkan.VulkanBuffer.objects,
    hshared]

theorem triple_createShared {spec : SharedBufferSpec} {index : ℕ}
    (hcontext : context.LiveIn needs) :
    Triple needs 0 (createShared driver context spec index) Vulkan.VulkanBuffer.objects 0 := by
  refine (triple_perform (Vulkan.triple_createBuffer hcontext)).bind fun shared => ?_
  have hinitial : Triple needs shared.objects (spec.initialData.elim (pure ()) fun initial =>
      upload driver context index spec.bytes initial shared) (fun _ => shared.objects)
      shared.objects := by
    cases spec.initialData with
    | none => exact .pure rfl
    | some initial =>
      refine (keeps_upload (hcontext.add shared.objects) ?_).holding fun _ hmem => hmem
      simp [Vulkan.VulkanBuffer.objects]
  exact (Triple.onError hinitial (Vulkan.triple_dropBuffer shared)).bind fun _ => .pure rfl

/-! ### Sharing buffers -/

/-- The objects of some buffers are among the given ones. -/
def LiveIn (buffers : List Vulkan.VulkanBuffer) (needs : Multiset GpuObject) : Prop :=
  ∀ buffer ∈ buffers, buffer.bufferObject ∈ needs ∧ buffer.memoryObject ∈ needs

variable {buffers : List Vulkan.VulkanBuffer}

theorem liveIn_objects (needs : Multiset GpuObject) (buffers : List Vulkan.VulkanBuffer) :
    LiveIn buffers (needs + objects buffers) := by
  intro buffer hmem
  have hobject {object : GpuObject} (h : object ∈ buffer.objects) :
      object ∈ needs + objects buffers :=
    Multiset.mem_add.2 (.inr (mem_objects.2 ⟨buffer, hmem, h⟩))
  exact ⟨hobject (by simp [Vulkan.VulkanBuffer.objects]),
    hobject (by simp [Vulkan.VulkanBuffer.objects])⟩

/-- A submission with a barrier on a buffer. -/
theorem keeps_submitBarrier {call : VulkanCall} {barrier : Vulkan.BufferMemoryBarrier}
    {buffer : Vulkan.VulkanBuffer} (hcontext : context.LiveIn needs)
    (hbuffer : buffer.bufferObject ∈ needs) :
    Keeps needs (perform call (driver.submitOneTime context call
      [.pipelineBarrier barrier buffer.bufferObject])) :=
  triple_perform (Vulkan.keeps_submitOneTime hcontext (by simp [Vulkan.Command.buffers, hbuffer]))

theorem keeps_exportStep (exported : List ExportedSharedBuffer) {entry : Vulkan.VulkanBuffer × ℕ}
    (hcontext : context.LiveIn needs) (hbuffer : entry.1.bufferObject ∈ needs)
    (hmemory : entry.1.memoryObject ∈ needs) :
    Keeps needs (exportStep driver context exported entry) := by
  refine (keeps_submitBarrier hcontext hbuffer).bind fun _ => ?_
  exact (triple_perform (Vulkan.keeps_exportKmtHandle hcontext hmemory)).bind fun _ => .pure rfl

theorem keeps_reclaimStep (reclaimError : Option BackendError)
    {entry : Vulkan.VulkanBuffer × ℕ} (hcontext : context.LiveIn needs)
    (hbuffer : entry.1.bufferObject ∈ needs) :
    Keeps needs (reclaimStep driver context reclaimError entry) := by
  refine (keeps_submitBarrier hcontext hbuffer).caught.bind fun outcome => ?_
  cases outcome <;> exact .pure rfl

theorem keeps_readBuffer {index : ℕ} {buffer : Vulkan.VulkanBuffer}
    (hcontext : context.LiveIn needs) (hbuffer : buffer.bufferObject ∈ needs) :
    Keeps needs (readBuffer driver context index buffer) := by
  refine Keeps.scope (triple_createStaging hcontext) (fun staging => ?_) Vulkan.triple_dropBuffer
  have hcontext' := hcontext.add staging.objects
  have hmemory : staging.memoryObject ∈ needs + staging.objects := by
    simp [Vulkan.VulkanBuffer.objects]
  refine (triple_perform (Vulkan.keeps_submitOneTime hcontext' ?_)).bind fun _ =>
    triple_perform (Vulkan.keeps_readStaging hcontext' hmemory)
  simp [Vulkan.Command.buffers, VulkanContext.hostReadBarrier, Vulkan.VulkanBuffer.objects,
    hbuffer]

theorem keeps_readStep (readbacks : List (Option (List Byte)))
    {entry : (SharedBufferSpec × Vulkan.VulkanBuffer) × ℕ} (hcontext : context.LiveIn needs)
    (hbuffer : entry.1.2.bufferObject ∈ needs) :
    Keeps needs (readStep driver context readbacks entry) := by
  obtain ⟨⟨spec, buffer⟩, index⟩ := entry
  rw [readStep]
  split
  · exact (keeps_readBuffer hcontext hbuffer).bind fun _ => .pure rfl
  · exact .pure rfl

variable {T : Type}

theorem keeps_shareBuffers {specs : List SharedBufferSpec}
    {operation : List ExportedSharedBuffer → Except BackendError T}
    (hcontext : context.LiveIn needs) (hbuffers : LiveIn buffers needs) :
    Keeps needs (shareBuffers driver context specs buffers operation) := by
  have hlive {entry : Vulkan.VulkanBuffer × ℕ} (hmem : entry ∈ buffers.zipIdx) :=
    hbuffers entry.1 (List.fst_mem_of_mem_zipIdx hmem)
  have hexport : Keeps needs (buffers.zipIdx.foldlM (exportStep driver context) []) :=
    Triple.foldlM (fun exported entry hmem =>
      keeps_exportStep exported hcontext (hlive hmem).1 (hlive hmem).2) []
  have hoperation : Keeps needs
      (Run.call (.other .operation) (buffers.map Vulkan.VulkanBuffer.memoryObject) :
        Program Unit) := by
    refine Triple.call fun object hmem => ?_
    obtain ⟨buffer, hbuffer, rfl⟩ := List.mem_map.1 hmem
    exact Multiset.mem_add.2 (.inl (hbuffers buffer hbuffer).2)
  have hreclaim : Keeps needs (buffers.zipIdx.foldlM (reclaimStep driver context) none) :=
    Triple.foldlM (fun reclaimError entry hmem =>
      keeps_reclaimStep reclaimError hcontext (hlive hmem).1) none
  have hreadStep (readbacks : List (Option (List Byte)))
      (entry : (SharedBufferSpec × Vulkan.VulkanBuffer) × ℕ)
      (hmem : entry ∈ (specs.zip buffers).zipIdx) :
      Keeps needs (readStep driver context readbacks entry) := by
    have hbuffer : entry.1.2 ∈ buffers := (List.of_mem_zip (List.fst_mem_of_mem_zipIdx hmem)).2
    exact keeps_readStep readbacks hcontext (hbuffers _ hbuffer).1
  have hread : Keeps needs ((specs.zip buffers).zipIdx.foldlM (readStep driver context) []) :=
    Triple.foldlM hreadStep []
  refine hexport.bind fun exported => hoperation.bind fun _ => ?_
  refine hreclaim.bind fun reclaimError => (Triple.liftM _).bind fun value => ?_
  cases reclaimError with
  | some error => exact .throw error
  | none => exact hread.bind fun readbacks => .pure rfl

/-! ### Sessions -/

theorem keeps_withBuffers (driver : Driver) (setting : Option String)
    (specs : List SharedBufferSpec)
    (operation : List ExportedSharedBuffer → Except BackendError T) :
    Keeps needs (withBuffers driver setting specs operation) := by
  refine (Triple.liftM _).bind fun _ => ?_
  refine Keeps.scope (triple_perform (Vulkan.triple_createContext "memory")) (fun context => ?_)
    Vulkan.triple_dropContext
  have hcontext : context.LiveIn (needs + context.objects) :=
    fun object hmem => Multiset.mem_add.2 (.inr hmem)
  have hcreate : Triple (needs + context.objects) (objects [])
      (specs.zipIdx.foldlM (Run.pushStep fun entry => createShared driver context entry.1 entry.2)
        ([], .ok ())) (fun pushed => objects pushed.1) 0 :=
    Triple.foldlM (fun pushed _ _ => (triple_createShared hcontext).pushStep pushed) ([], .ok ())
  refine Keeps.scope hcreate (fun pushed => ?_) fun pushed => triple_dropBuffers pushed.1
  refine (Triple.liftM _).bind fun _ => ?_
  exact keeps_shareBuffers (hcontext.add _) (liveIn_objects _ pushed.1)

/-- **Lifetimes in a session.** Every object that a session creates or uses is created once and
destroyed once, and it is used in between only, as are the objects that are made from it. A use is
a call that names the object. -/
theorem withBuffers_lifetimes (driver : Driver) (setting : Option String)
    (specs : List SharedBufferSpec)
    (operation : List ExportedSharedBuffer → Except BackendError T) :
    let log := ((withBuffers driver setting specs operation).exec []).2
    ∀ event ∈ log, ∀ object, event.Mentions object → HasLifetime log object := by
  intro log event hevent object hmentions
  have hsound := (keeps_withBuffers driver setting specs operation).sound sound_nil
  rw [handed_const] at hsound
  exact hsound.hasLifetime hevent hmentions (Multiset.notMem_zero object)

end RiftGPU.SharedBuffers.Platform
