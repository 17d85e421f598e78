import RiftGPU.Interop.Bridge

/-!
# Lifetimes of the objects of the bridge

Between requests the bridge has its runtime and nothing else, whatever the driver and the HIP
library answered. Memory that HIP imported is unmapped and released before the Vulkan memory that
it came from is freed. A use of an object is a call that names it; what the device does with the
object after a call has returned is not spoken of.

## Main results

* `Interop.requests_lifetimes`: the objects after any sequence of requests, and the lifetimes of
  all others.
-/

namespace RiftGPU.Interop

open Lifetime Bytes
open Vulkan (Vk VulkanContext VulkanBuffer BufferKind GpuObject)

variable {answers : Answers} {runtime : BridgeRuntime} {needs held error : Multiset GpuObject}

/-! ### Calls of HIP -/

theorem triple_hipCall {call : HipCall} {uses : List GpuObject} {status : BitVec 32}
    {operation : String} (huses : ∀ object ∈ uses, object ∈ needs + held) :
    Triple needs held (hipCall answers call uses status operation) (fun _ => held) held :=
  (Triple.call huses).bind fun _ => .liftM _

theorem triple_hipMake {call : HipCall} {uses : List GpuObject} {answer : BitVec 32 × BitVec 64}
    {object : ℕ → GpuObject} {operation nullText : String}
    (huses : ∀ object ∈ uses, object ∈ needs + held) (hserial : ∀ n, (object n).serial = n)
    (howners : ∀ n, ∀ owner ∈ (object n).owners, owner ∈ needs + held) :
    Triple needs held (hipMake answers call uses answer object operation nullText)
      (fun n => object n ::ₘ held) held :=
  (triple_hipCall huses).bind fun _ => (Triple.liftM _).bind fun _ => .create hserial howners

theorem triple_loadHipLibrary (candidates : List (String × Except String Unit))
    (failures : List String) :
    Triple needs 0 (loadHipLibrary candidates failures) (fun n => .hipLibrary n ::ₘ 0) 0 := by
  induction candidates generalizing failures with
  | nil => exact .throw _
  | cons candidate rest ih =>
    obtain ⟨path, outcome⟩ := candidate
    refine (Triple.call (List.forall_mem_nil _)).bind fun _ => ?_
    cases outcome with
    | ok => exact .create (fun _ => rfl) fun _ => List.forall_mem_nil _
    | error text => exact ih _

theorem triple_loadHip (answers : Answers) :
    Triple needs 0 (loadHip answers) (fun n => .hipLibrary n ::ₘ 0) 0 := by
  refine (triple_loadHipLibrary _ _).bind fun library => ?_
  refine Triple.bind (Triple.onError ?_ (Vulkan.triple_destroy (by simp))) fun _ => .pure rfl
  exact (Triple.liftM _).bind fun _ => triple_hipCall (by simp)

/-! ### The runtime -/

/-- The objects that the runtime owns. -/
def BridgeRuntime.objects (runtime : BridgeRuntime) : Multiset GpuObject :=
  runtime.vulkan.objects + runtime.libraryObject ::ₘ 0

theorem triple_createRuntime (answers : Answers) :
    Triple needs 0 (createRuntime answers) BridgeRuntime.objects 0 := by
  refine (Vulkan.triple_createContext "buffer memory").bind fun vulkan => ?_
  refine Triple.onError ?_ (Vulkan.triple_dropContext vulkan)
  have hload : Triple needs (vulkan.objects + 0) (loadHip answers)
      (fun library => vulkan.objects + .hipLibrary library ::ₘ 0) (vulkan.objects + 0) :=
    (triple_loadHip answers).frame (fun _ hmem => Multiset.mem_add.2 (.inl hmem)) (free_zero _)
  rw [Multiset.add_zero] at hload
  refine hload.bind fun library => ?_
  -- no object of the context is made from the library
  have hdestroy : Triple needs (.hipLibrary library ::ₘ vulkan.objects)
      (Run.destroy (.hipLibrary library) : Bridge Unit) (fun _ => vulkan.objects)
      vulkan.objects := by
    refine Vulkan.triple_destroy fun other hmem => ?_
    simp only [VulkanContext.objects, Multiset.mem_cons, Multiset.notMem_zero, or_false] at hmem
    rcases hmem with rfl | rfl | rfl | rfl <;>
      simp [VulkanContext.poolObject, Vulkan.Device.object, Vulkan.Device.instanceObject,
        Vulkan.Device.loaderObject, GpuObject.owners]
  have hcons : .hipLibrary library ::ₘ vulkan.objects =
      vulkan.objects + .hipLibrary library ::ₘ 0 := by
    rw [Multiset.add_cons, Multiset.add_zero]
  refine Triple.onError ?_ (hdestroy.congr hcons (fun _ => rfl) rfl)
  refine (Triple.call (by simp)).bind fun _ => ?_
  exact (Triple.liftM _).bind fun selection => .pure rfl

/-- The objects of the runtime are among the given ones. -/
def BridgeRuntime.LiveIn (runtime : BridgeRuntime) (needs : Multiset GpuObject) : Prop :=
  runtime.vulkan.LiveIn needs ∧ runtime.libraryObject ∈ needs

theorem BridgeRuntime.LiveIn.add (h : runtime.LiveIn needs) (held : Multiset GpuObject) :
    runtime.LiveIn (needs + held) :=
  ⟨h.1.add held, Multiset.mem_add.2 (.inl h.2)⟩

theorem BridgeRuntime.liveIn_objects (runtime : BridgeRuntime) (needs : Multiset GpuObject) :
    runtime.LiveIn (needs + runtime.objects) :=
  ⟨fun _ hmem => Multiset.mem_add.2 (.inr (Multiset.mem_add.2 (.inl hmem))), by simp [objects]⟩

theorem keeps_selectHipDevice (hruntime : runtime.LiveIn needs) :
    Keeps needs (selectHipDevice answers runtime) :=
  triple_hipCall (by simp [hruntime.2])

theorem keeps_deviceSynchronize {count : ℕ} {operation : String}
    (hruntime : runtime.LiveIn needs) :
    Keeps needs (deviceSynchronize answers runtime count operation) :=
  triple_hipCall (by simp [hruntime.2])

theorem keeps_verifyStaging {staging : VulkanBuffer} {pattern : Byte}
    (hruntime : runtime.LiveIn needs) (hmemory : staging.memoryObject ∈ needs) :
    Keeps needs (verifyStaging answers runtime staging pattern) := by
  refine Triple.bind (Vulkan.keeps_withMapping hruntime.1 hmemory fun mapping => ?_) fun bytes => ?_
  · exact (Triple.call (by simp)).bind fun _ => .pure rfl
  · exact (Triple.liftM _).bind fun _ => .pure rfl

/-! ### The zero-copy run -/

theorem keeps_fillExported {shared : VulkanBuffer} {handle bytes : BitVec 64} {pattern : Byte}
    {usizeBytes : ℕ} (hruntime : runtime.LiveIn needs) (hmemory : shared.memoryObject ∈ needs) :
    Keeps needs (fillExported answers runtime shared handle bytes pattern usizeBytes) := by
  refine Keeps.scope (triple_hipMake ?_ (fun _ => rfl) ?_) (fun external => ?_) fun external =>
    Vulkan.triple_destroy (by simp)
  · simp [hruntime.2, hmemory]
  · simp [GpuObject.owners, hruntime.2, hmemory]
  refine Keeps.scope (triple_hipMake ?_ (fun _ => rfl) ?_) (fun mapped => ?_) fun mapped =>
    Vulkan.triple_destroy (by simp)
  · simp [hruntime.2]
  · simp [GpuObject.owners, hruntime.2]
  · refine (triple_hipCall (by simp [hruntime.2])).bind fun _ => ?_
    exact keeps_deviceSynchronize ((hruntime.add _).add _)

theorem keeps_transferExported {shared staging : VulkanBuffer} {bytes : BitVec 64}
    {pattern : Byte} {usizeBytes : ℕ} (hruntime : runtime.LiveIn needs)
    (hshared : ∀ object ∈ shared.objects, object ∈ needs)
    (hstaging : ∀ object ∈ staging.objects, object ∈ needs) :
    Keeps needs (transferExported answers runtime shared staging bytes pattern usizeBytes) := by
  simp only [VulkanBuffer.objects, Multiset.mem_cons, Multiset.notMem_zero, or_false,
    forall_eq_or_imp, forall_eq] at hshared hstaging
  have hrelease : Keeps needs (releaseToExternal answers runtime shared) :=
    Vulkan.keeps_submitOneTime hruntime.1 (by simp [Vulkan.Command.buffers, hshared.1])
  have hacquire : Keeps needs (acquireAndCopyToStaging answers runtime shared staging) :=
    Vulkan.keeps_submitOneTime hruntime.1 (by
      simp [Vulkan.Command.buffers, VulkanContext.hostReadBarrier, hshared.1, hstaging.1])
  refine (Vulkan.keeps_exportKmtHandle hruntime.1 hshared.2).bind fun handle => ?_
  refine hrelease.bind fun _ => ?_
  refine (keeps_fillExported hruntime hshared.2).bind fun _ => ?_
  refine hacquire.bind fun _ => ?_
  exact (keeps_verifyStaging hruntime hstaging.2).bind fun _ => .pure rfl

/-- A buffer that is dropped at the end of its scope. -/
theorem keeps_buffer {α : Type} {call : BridgeCall} {kind : BufferKind} {bytes : BitVec 64}
    {body : VulkanBuffer → Bridge α} (hruntime : runtime.LiveIn needs)
    (hbody : ∀ buffer : VulkanBuffer, Keeps (needs + buffer.objects) (body buffer)) :
    Keeps needs (answers.vulkan.createBuffer runtime.vulkan call kind bytes >>= fun buffer =>
      Run.ensure (body buffer) buffer.drop) :=
  Keeps.scope (Vulkan.triple_createBuffer hruntime.1) hbody Vulkan.triple_dropBuffer

theorem keeps_runZeroCopy {bytes : BitVec 64} {pattern : Byte} {usizeBytes : ℕ}
    (hruntime : runtime.LiveIn needs) :
    Keeps needs (runZeroCopy answers runtime bytes pattern usizeBytes) := by
  refine (keeps_selectHipDevice hruntime).bind fun _ => ?_
  refine keeps_buffer hruntime fun shared => keeps_buffer (hruntime.add _) fun staging => ?_
  refine keeps_transferExported ((hruntime.add _).add _) (fun object hmem => ?_)
    fun object hmem => ?_
  all_goals simp [hmem]

/-! ### The run through the host -/

theorem keeps_fillDevice {pattern : Byte} {usizeBytes : ℕ} (hruntime : runtime.LiveIn needs) :
    Keeps needs (fillDevice answers runtime pattern usizeBytes) := by
  refine Keeps.scope (triple_hipMake ?_ (fun _ => rfl) ?_) (fun allocation => ?_)
    fun allocation => Vulkan.triple_destroy (by simp)
  · simp [hruntime.2]
  · simp [GpuObject.owners, hruntime.2]
  · refine (triple_hipCall (by simp [hruntime.2])).bind fun _ => ?_
    refine (keeps_deviceSynchronize (hruntime.add _)).bind fun _ => ?_
    refine (triple_hipCall (by simp [hruntime.2])).bind fun _ => ?_
    exact (keeps_deviceSynchronize (hruntime.add _)).bind fun _ => .pure rfl

theorem keeps_transferThroughHost {upload deviceBuffer readback : VulkanBuffer}
    {bytes : BitVec 64} {pattern : Byte} {usizeBytes : ℕ} (hruntime : runtime.LiveIn needs)
    (hupload : ∀ object ∈ upload.objects, object ∈ needs)
    (hdeviceBuffer : ∀ object ∈ deviceBuffer.objects, object ∈ needs)
    (hreadback : ∀ object ∈ readback.objects, object ∈ needs) :
    Keeps needs (transferThroughHost answers runtime upload deviceBuffer readback bytes pattern
      usizeBytes) := by
  simp only [VulkanBuffer.objects, Multiset.mem_cons, Multiset.notMem_zero, or_false,
    forall_eq_or_imp, forall_eq] at hupload hdeviceBuffer hreadback
  have hcopyIn : Keeps needs (answers.vulkan.copyStagingToDevice runtime.vulkan
      .copyStagingToDevice upload deviceBuffer : Bridge Unit) :=
    Vulkan.keeps_submitOneTime hruntime.1 (by
      simp [Vulkan.Command.buffers, VulkanContext.hostWriteBarrier, hupload.1, hdeviceBuffer.1])
  have hcopyOut : Keeps needs (answers.vulkan.copyDeviceToStaging runtime.vulkan
      .copyDeviceToStaging deviceBuffer readback : Bridge Unit) :=
    Vulkan.keeps_submitOneTime hruntime.1 (by
      simp [Vulkan.Command.buffers, VulkanContext.hostReadBarrier, hdeviceBuffer.1, hreadback.1])
  refine (keeps_fillDevice hruntime).bind fun hostRelay => ?_
  refine (Vulkan.keeps_writeStaging hruntime.1 hupload.2).bind fun _ => ?_
  refine hcopyIn.bind fun _ => hcopyOut.bind fun _ => ?_
  exact (keeps_verifyStaging hruntime hreadback.2).bind fun _ => .pure rfl

theorem keeps_runCopyFallback {bytes : BitVec 64} {pattern : Byte} {usizeBytes : ℕ}
    (hruntime : runtime.LiveIn needs) :
    Keeps needs (runCopyFallback answers runtime bytes pattern usizeBytes) := by
  refine (keeps_selectHipDevice hruntime).bind fun _ => ?_
  refine keeps_buffer hruntime fun upload => keeps_buffer (hruntime.add _) fun deviceBuffer => ?_
  refine keeps_buffer ((hruntime.add _).add _) fun readback => ?_
  refine keeps_transferThroughHost (((hruntime.add _).add _).add _) (fun object hmem => ?_)
    (fun object hmem => ?_) fun object hmem => ?_
  all_goals simp [hmem]

/-! ### Requests -/

theorem keeps_run (request : Request) {usizeBytes : ℕ} (hruntime : runtime.LiveIn needs) :
    Keeps needs (request.run runtime usizeBytes) := by
  rw [Request.run]
  split
  · exact (keeps_runZeroCopy hruntime).bind fun _ => .pure rfl
  · exact (keeps_runCopyFallback hruntime).bind fun _ => .pure rfl

/-- The objects that the bridge owns between requests. -/
def keptObjects : Option BridgeRuntime → Multiset GpuObject
  | none => 0
  | some runtime => runtime.objects

theorem triple_obtainRuntime (kept : Option BridgeRuntime) :
    Triple needs (keptObjects kept) (obtainRuntime answers kept) BridgeRuntime.objects
      (keptObjects kept) := by
  cases kept with
  | none => exact triple_createRuntime answers
  | some runtime => exact .pure rfl

/-- A request keeps the objects of the runtime, if there is one, or it creates them. -/
theorem triple_serve (kept : Option BridgeRuntime) (request : Request) :
    Triple needs (keptObjects kept) (serve kept request) (fun served => keptObjects served.1)
      error := by
  rw [serve]
  cases validateTransferSize request.answers.maxSmokeBytes request.bytes request.label with
  | error e => exact .pure rfl
  | ok usizeBytes =>
    refine (triple_obtainRuntime kept).caught.bind fun outcome => ?_
    cases outcome with
    | error e => exact .pure rfl
    | ok runtime =>
      have hrun : Triple needs runtime.objects (request.run runtime usizeBytes)
          (fun _ => runtime.objects) runtime.objects :=
        (keeps_run request (runtime.liveIn_objects needs)).holding fun _ hmem => hmem
      exact hrun.caught.bind fun outcome => .pure (handed_const _ outcome)

theorem triple_serveAll (requests : List Request) :
    Triple needs 0 (serveAll requests) keptObjects 0 := by
  have hstep (kept : Option BridgeRuntime) (request : Request) :
      Triple needs (keptObjects kept) (Prod.fst <$> serve kept request) keptObjects 0 :=
    (triple_serve kept request).bind fun _ => .pure rfl
  exact Triple.foldlM (fun kept request _ => hstep kept request) none

/-- **Lifetimes in the bridge.** After any requests, exactly the objects of the runtime are live,
if it was created. All others that were created or used have a lifetime. A use is a call that names
the object. -/
theorem requests_lifetimes (requests : List Request) :
    let run := (serveAll requests).exec []
    ∃ kept, run.1 = .ok kept ∧ replay 0 run.2 = some (keptObjects kept) ∧
      ∀ event ∈ run.2, ∀ object, event.Mentions object →
        object ∈ keptObjects kept ∨ HasLifetime run.2 object := by
  intro run
  have hsound := (triple_serveAll requests).sound sound_nil
  cases hrun : run.1 with
  | error e => exact e.elim
  | ok kept =>
    rw [hrun] at hsound
    exact ⟨kept, rfl, hsound.replay, fun event hevent object => hsound.mem_or_hasLifetime hevent⟩

end RiftGPU.Interop
