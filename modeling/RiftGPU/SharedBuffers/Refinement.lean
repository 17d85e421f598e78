import RiftGPU.SharedBuffers.Platform
import RiftGPU.Vulkan.Outcomes

/-!
# A session refines its description

The session that works on the objects of Vulkan ends as the one that `SharedBuffers.Session`
describes by the calls of its context, and it makes the same calls, when the description is given
the outcomes of these calls.

## Main definitions

* `SharedBuffers.Platform.session`: the driver of the description.

## Main results

* `SharedBuffers.Platform.withBuffers_refines`: the refinement.
-/

namespace RiftGPU.SharedBuffers.Platform

open Lifetime Bytes
open Vulkan (Vk VulkanContext BufferKind Label)

/-! ### The driver of the description -/

/-- The device that the context selects, when it is created. -/
def selected (driver : Driver) : ℕ × ℕ × String :=
  (driver.createOutcome .create "memory").toOption.getD (0, 0, "")

/-- How the calls of a session end. -/
def sessionOutcome (driver : Driver) (call : VulkanCall) : Except BackendError Unit :=
  match call with
  | .create => (driver.createOutcome call "memory").map fun _ => ()
  | .createSharedBuffer _ => driver.bufferOutcome call (selected driver).1 sharedKind
  | .createUploadBuffer _ | .createReadbackBuffer _ =>
    driver.bufferOutcome call (selected driver).1 stagingKind
  | .writeStaging _ => driver.mapOutcome call uploadText
  | .readStaging _ => driver.mapOutcome call readbackText
  | .exportKmtHandle _ => driver.exportOutcome call
  | .copyStagingToDevice _ | .copyDeviceToStaging _ | .releaseToExternal _
  | .acquireFromExternal _ => driver.submitOutcome call

/-- The context calls of a session as one driver of the model. -/
def session (driver : Driver) : VulkanDriver where
  outcome := sessionOutcome driver
  deviceName := (selected driver).2.2
  allocationSize index := driver.memorySize (.createSharedBuffer index)
  kmtHandle index := driver.win32Handle (.exportKmtHandle index)
  contents index := driver.contents (.readStaging index)

/-! ### Single calls -/

/-- Refinement, where the events of a session are observed. -/
abbrev Implements {α β : Type} (rel : α → β → Prop) (x : Program α) (y : Session β) : Prop :=
  Refines Label.observed rel x y

variable {driver : Driver} {context : VulkanContext} {α : Type}

theorem implements_perform {call : VulkanCall} {rel : α → Unit → Prop} {x : Program α}
    (h : Returns Label.observed rel x (sessionOutcome driver call)) :
    Implements rel (perform call x) ((session driver).call call) := by
  have hrecord (event : SessionEvent) :
      Implements Eq (Run.call (.other event) []) (Traced.record event) := Refines.call rfl
  refine (hrecord _).bind fun _ _ _ => Refines.bind h fun a _ hrel => ?_
  have hlast : Implements rel (Run.call (.other (.succeeded call)) [] >>= fun _ => pure a)
      (Traced.record (.succeeded call) >>= pure) := (hrecord _).bind fun _ _ _ => .pure hrel
  exact hlast

/-- A buffer, and what the description knows of it. -/
def SameSizes (buffer : Vulkan.VulkanBuffer) (described : VulkanBuffer) : Prop :=
  buffer.logicalSize = described.logicalSize ∧ buffer.allocationSize = described.allocationSize

/-- The context is one of the selected device, with a queue of the selected family. -/
structure IsSelected (driver : Driver) (context : VulkanContext) : Prop where
  physicalDevice : context.physicalDevice = (selected driver).1
  queueFamilyIndex : context.queueFamilyIndex = (selected driver).2.1
  deviceName : context.deviceName = (selected driver).2.2

theorem implements_createContext :
    Implements (fun context _ => IsSelected driver context)
      (perform .create (driver.createContext .create "memory"))
      ((session driver).call .create) := by
  refine implements_perform ((Vulkan.returns_createContext "memory").forget.mono ?_)
  rintro context _ ⟨selection, hcreate, hdevice, hfamily, hname⟩
  have hselected : selected driver = selection := by rw [selected, hcreate]; rfl
  exact ⟨hselected ▸ hdevice, hselected ▸ hfamily, hselected ▸ hname⟩

theorem implements_createBuffer {call : VulkanCall} {kind : BufferKind} {bytes : BitVec 64}
    (hcontext : IsSelected driver context)
    (hcall : sessionOutcome driver call = driver.bufferOutcome call (selected driver).1 kind) :
    Implements (fun buffer _ => buffer.logicalSize = bytes ∧
        buffer.allocationSize = driver.memorySize call)
      (perform call (driver.createBuffer context call kind bytes))
      ((session driver).call call) := by
  refine implements_perform ?_
  rw [hcall, ← hcontext.physicalDevice]
  exact Vulkan.returns_createBuffer kind bytes

theorem implements_submit {call : VulkanCall} {commands : List Vulkan.Command}
    (hcall : sessionOutcome driver call = driver.submitOutcome call) :
    Implements Eq (perform call (driver.submitOneTime context call commands))
      ((session driver).call call) := by
  refine implements_perform ?_
  rw [hcall]
  exact Vulkan.returns_submitOneTime commands

theorem returns_dropBuffers (buffers : List Vulkan.VulkanBuffer) :
    Returns Label.observed Eq (dropBuffers buffers) (.ok ()) := by
  induction buffers with
  | nil => exact .pure rfl
  | cons buffer buffers ih =>
    rw [dropBuffers, List.foldlM_cons]
    exact (Vulkan.returns_dropBuffer buffer).skip ih

/-! ### Creating buffers -/

theorem implements_upload {spec : SharedBufferSpec} {index : ℕ} {initial : List Byte}
    {shared : Vulkan.VulkanBuffer} (hcontext : IsSelected driver context)
    (hlength : BitVec.ofNat 64 initial.length = spec.bytes) :
    Implements Eq (upload driver context index spec.bytes initial shared)
      ((session driver).upload index) := by
  refine (implements_createBuffer hcontext rfl).bind fun staging _ hstaging =>
    .ensure (Refines.andThen (implements_perform ?_) fun _ => implements_submit rfl)
      (Vulkan.returns_dropBuffer staging)
  exact Vulkan.returns_writeStaging (hlength.trans hstaging.1.symm)

theorem implements_createStep {pushed : List Vulkan.VulkanBuffer} {described : List VulkanBuffer}
    {entry : SharedBufferSpec × ℕ} (hcontext : IsSelected driver context)
    (hpushed : List.Forall₂ SameSizes pushed described) (hsized : Sized entry.1) :
    Implements (fun shared described => List.Forall₂ SameSizes (pushed ++ [shared]) described)
      (createShared driver context entry.1 entry.2)
      ((session driver).createStep described entry) := by
  obtain ⟨spec, index⟩ := entry
  refine (implements_createBuffer hcontext rfl).bind fun shared _ hshared =>
    Refines.andThen (.onError ?_ (Vulkan.returns_dropBuffer shared)) fun _ =>
      .pure (List.rel_append hpushed (.cons hshared .nil))
  cases hinitial : spec.initialData with
  | none => exact .pure rfl
  | some initial => exact implements_upload hcontext (ofNat_length_of_sized hsized hinitial)

/-! ### Sharing buffers -/

/-- Numbered entries whose first components are related. -/
def SameEntries {α β : Type} (rel : α → β → Prop) (entry : α × ℕ) (described : β × ℕ) : Prop :=
  rel entry.1 described.1 ∧ entry.2 = described.2

theorem forall₂_zipIdx {α β : Type} {rel : α → β → Prop} {xs : List α} {ys : List β}
    (h : List.Forall₂ rel xs ys) (n : ℕ) :
    List.Forall₂ (SameEntries rel) (xs.zipIdx n) (ys.zipIdx n) := by
  induction h generalizing n with
  | nil => exact .nil
  | cons hrel _ ih =>
    rw [List.zipIdx_cons, List.zipIdx_cons]
    exact .cons ⟨hrel, rfl⟩ (ih (n + 1))

theorem forall₂_zip {α β γ : Type} {rel : α → β → Prop} (zs : List γ) {xs : List α} {ys : List β}
    (h : List.Forall₂ rel xs ys) :
    List.Forall₂ (fun c d => c.1 = d.1 ∧ rel c.2 d.2) (zs.zip xs) (zs.zip ys) := by
  induction h generalizing zs with
  | nil => rw [List.zip_nil_right, List.zip_nil_right]; exact .nil
  | cons hrel _ ih =>
    cases zs with
    | nil => exact .nil
    | cons z zs => exact .cons ⟨rfl, hrel⟩ (ih zs)

theorem implements_exportStep {entry : Vulkan.VulkanBuffer × ℕ} {described : VulkanBuffer × ℕ}
    (exported : List ExportedSharedBuffer) (h : SameEntries SameSizes entry described) :
    Implements Eq (exportStep driver context exported entry)
      ((session driver).exportStep exported described) := by
  obtain ⟨buffer, index⟩ := entry
  obtain ⟨other, number⟩ := described
  obtain ⟨⟨hlogical, hallocation⟩, hindex⟩ := h
  obtain rfl : index = number := hindex
  refine (implements_submit rfl).andThen fun _ => Refines.bind
    (implements_perform (Vulkan.returns_exportKmtHandle buffer)) fun handle _ hhandle => .pure ?_
  rw [hhandle, hallocation, hlogical]
  rfl

theorem implements_reclaimStep (reclaimError : Option BackendError)
    (entry : Vulkan.VulkanBuffer × ℕ) :
    Implements Eq (reclaimStep driver context reclaimError entry)
      ((session driver).reclaimStep reclaimError entry.2) := by
  obtain ⟨buffer, index⟩ := entry
  have hcaught : Implements (Matches Eq)
      (Run.caught (perform (.acquireFromExternal index)
        (acquireFromExternal driver context (.acquireFromExternal index) buffer)) :
          Program (Except BackendError Unit))
      (Traced.caught ((session driver).call (.acquireFromExternal index))) :=
    (implements_submit rfl).caught
  refine hcaught.bind fun outcome described hmatch => ?_
  cases hmatch with
  | ok => exact .pure rfl
  | error => exact .pure rfl

theorem implements_readStep {entry : (SharedBufferSpec × Vulkan.VulkanBuffer) × ℕ}
    {described : (SharedBufferSpec × VulkanBuffer) × ℕ} (readbacks : List (Option (List Byte)))
    (hcontext : IsSelected driver context) (hspec : entry.1.1 = described.1.1)
    (hindex : entry.2 = described.2) :
    Implements Eq (readStep driver context readbacks entry)
      ((session driver).readStep readbacks described) := by
  obtain ⟨⟨spec, buffer⟩, index⟩ := entry
  obtain ⟨⟨spec', other⟩, number⟩ := described
  obtain rfl : spec = spec' := hspec
  obtain rfl : index = number := hindex
  rw [readStep, VulkanDriver.readStep]
  by_cases hreadback : spec.readback = true
  · rw [if_pos hreadback, if_pos hreadback, readBuffer, bind_assoc]
    refine (implements_createBuffer hcontext rfl).bind fun staging _ _ => ?_
    rw [← Traced.bind_bind]
    refine Refines.bind (.ensure (Refines.andThen (implements_submit rfl) fun _ =>
      implements_perform (Vulkan.returns_readStaging)) (Vulkan.returns_dropBuffer staging))
      fun bytes _ hbytes => .pure ?_
    rw [hbytes]
    rfl
  · rw [if_neg hreadback, if_neg hreadback]
    exact .pure rfl

variable {T : Type}

theorem implements_shareBuffers {buffers : List Vulkan.VulkanBuffer}
    {described : List VulkanBuffer} (specs : List SharedBufferSpec)
    (operation : List ExportedSharedBuffer → Except BackendError T)
    (hcontext : IsSelected driver context) (hbuffers : List.Forall₂ SameSizes buffers described) :
    Implements Eq (shareBuffers driver context specs buffers operation)
      ((session driver).shareBuffers specs described operation) := by
  have hindices : List.Forall₂ (fun entry index => entry.2 = index) buffers.zipIdx
      (List.range described.length) := by
    rw [← hbuffers.length_eq, List.range_eq_range', ← List.zipIdx_map_snd 0 buffers,
      List.forall₂_map_right_iff, List.forall₂_same]
    exact fun _ _ => rfl
  have hexport : Implements Eq (buffers.zipIdx.foldlM (exportStep driver context) [])
      (described.zipIdx.foldlM (session driver).exportStep []) :=
    .foldlM (forall₂_zipIdx hbuffers 0)
      (fun exported _ _ _ heq hentry => heq ▸ implements_exportStep exported hentry) rfl
  have hreclaim : Implements Eq (buffers.zipIdx.foldlM (reclaimStep driver context) none)
      ((List.range described.length).foldlM (session driver).reclaimStep none) :=
    .foldlM hindices (fun reclaimError _ entry _ heq hindex =>
      heq ▸ hindex ▸ implements_reclaimStep reclaimError entry) rfl
  have hread : Implements Eq ((specs.zip buffers).zipIdx.foldlM (readStep driver context) [])
      ((specs.zip described).zipIdx.foldlM (session driver).readStep []) :=
    .foldlM (forall₂_zipIdx (forall₂_zip specs hbuffers) 0)
      (fun readbacks _ _ _ heq hentry =>
        heq ▸ implements_readStep readbacks hcontext hentry.1.1 hentry.2) rfl
  have hoperation (uses : List Vulkan.GpuObject) :
      Implements Eq (Run.call (.other .operation) uses) (Traced.record .operation) :=
    Refines.call rfl
  refine hexport.andThen fun exported => (hoperation _).andThen fun _ =>
    hreclaim.andThen fun reclaimError => Refines.lift_bind fun value _ => ?_
  cases reclaimError with
  | some error => exact .throw error
  | none =>
    refine hread.andThen fun readbacks => .pure ?_
    rw [hcontext.deviceName]
    rfl

/-! ### Sessions -/

theorem implements_withBuffers (driver : Driver) (setting : Option String)
    (specs : List SharedBufferSpec)
    (operation : List ExportedSharedBuffer → Except BackendError T) :
    Implements Eq (withBuffers driver setting specs operation)
      ((session driver).withBuffers setting specs operation) := by
  refine Refines.lift_bind fun _ hvalid => implements_createContext.bind fun context _ hcontext =>
    .ensure ?_ (Vulkan.returns_dropContext context)
  have hentries : List.Forall₂ (fun entry described => entry = described ∧ Sized entry.1)
      specs.zipIdx specs.zipIdx :=
    List.forall₂_same.2 fun entry hmem => ⟨rfl, sized_of_validateSpecs hvalid entry hmem⟩
  have hcreate : Implements (PushedMatches SameSizes)
      (specs.zipIdx.foldlM (Run.pushStep fun entry =>
        createShared driver context entry.1 entry.2) ([], .ok ()))
      (Traced.caught (specs.zipIdx.foldlM (session driver).createStep [])) :=
    Refines.foldlM_pushStep hentries (fun pushed described entry _ hpushed hentry =>
      hentry.1 ▸ implements_createStep hcontext hpushed hentry.2) .nil
  refine hcreate.bind_caught (fun pushed described hpushed => ?_) fun pushed error hpushed => ?_
  · cases hpushed with
    | ok hbuffers =>
      exact .ensure (implements_shareBuffers specs operation hcontext hbuffers)
        (returns_dropBuffers _)
  · cases hpushed with
    | error buffers => exact .ensure (.throw error) (returns_dropBuffers buffers)

/-- **A session refines its description.** It returns what the description returns and makes the
same calls of its context, in the same order and with the same outcomes. -/
theorem withBuffers_refines (driver : Driver) (setting : Option String)
    (specs : List SharedBufferSpec)
    (operation : List ExportedSharedBuffer → Except BackendError T) :
    let run := (withBuffers driver setting specs operation).exec []
    let description := (session driver).withBuffers setting specs operation
    run.1 = description.result ∧ observed Label.observed run.2 = description.log := by
  obtain ⟨hmatch, hlog⟩ := implements_withBuffers driver setting specs operation []
  exact ⟨hmatch.eq, hlog⟩

end RiftGPU.SharedBuffers.Platform
