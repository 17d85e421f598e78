import RiftGPU.SharedBuffers.Refinement
import RiftGPU.SharedBuffers.Transfer
import RiftGPU.Vulkan.Ownership

/-!
# Who owns the memory of a session

The memory of a session belongs to the queue family of its context. While the callback runs, all
memory of the buffers belongs to the external consumer, by barriers that were executed, and handles
of all of it are exported. The session takes the memory back with the reverse barriers before it
copies from it, and when the session succeeds everything belongs to the family again.

## Main definitions

* `SharedBuffers.Platform.sessionFamily`: the queue family of the context of a session.
* `SharedBuffers.Platform.HandedOver`, `SharedBuffers.Platform.TakenBack`: the invariants of the
  loops.

## Main results

* `SharedBuffers.Platform.withBuffers_ownership`: the owners in a session.
-/

namespace RiftGPU.SharedBuffers.Platform

open Lifetime Bytes
open Vulkan (VulkanContext BufferKind GpuObject QueueFamilyIndex Holdings OwnershipState ownership
  ownershipAfter watched_submitOneTime)

/-- The queue family of the context that a session creates. -/
def sessionFamily (driver : Driver) : QueueFamilyIndex := .family (selected driver).2.1

/-- The callback uses memory outside of Vulkan. -/
def Consumes (event : SessionEvent) : Prop := event = .operation

/-- Programs that start, return and fail with owners that satisfy some properties. -/
abbrev WatchedBy {α : Type} (family : QueueFamilyIndex) (P : Holdings → Prop) (x : Program α)
    (Q : α → Holdings → Prop) (E : Holdings → Prop) : Prop :=
  (ownership family Consumes).Watched (fun state => P state.holdings) x
    (fun a state => Q a state.holdings) fun state => E state.holdings

/-- Programs before and after which everything belongs to the family. -/
abbrev KeepsOwned {α : Type} (family : QueueFamilyIndex) (x : Program α) : Prop :=
  Vulkan.KeepsState family Consumes (fun state => state.holdings.AllOwned family) x

variable {driver : Driver} {context : VulkanContext} {family : QueueFamilyIndex} {α : Type}
  {buffers : List Vulkan.VulkanBuffer} {holdings : Holdings} {k : ℕ}

/-- What is said about a call of the context is true of it together with its announcements. -/
theorem watched_perform {call : VulkanCall} {x : Program α} {P E : OwnershipState → Prop}
    {Q : α → OwnershipState → Prop} (hx : (ownership family Consumes).Watched P x Q E) :
    (ownership family Consumes).Watched P (perform call x) Q E := by
  have hevent (event : SessionEvent) (R : OwnershipState → Prop) :
      (ownership family Consumes).Watched R (Run.call (.other event) [] : Program Unit)
        (fun _ => R) E :=
    .record fun state hstate => ⟨fun _ memory hmem => absurd hmem List.not_mem_nil, hstate⟩
  refine (hevent _ P).bind fun _ => hx.bind fun a => ?_
  exact (hevent _ (Q a)).bind fun _ => .pure fun _ h => h

/-! ### Creating buffers -/

theorem keepsOwned_createBuffer {call : VulkanCall} {kind : BufferKind} {bytes : BitVec 64} :
    KeepsOwned family (perform call (driver.createBuffer context call kind bytes)) :=
  watched_perform
    (Vulkan.watched_createBuffer (P := (·.AllOwned family)) fun _ _ _ howned => howned)

theorem keepsOwned_upload {index : ℕ} {bytes : BitVec 64} {initial : List Byte}
    {shared : Vulkan.VulkanBuffer} :
    KeepsOwned context.owner (upload driver context index bytes initial shared) := by
  refine keepsOwned_createBuffer.bind fun staging => ?_
  have hwrite : KeepsOwned context.owner (perform (.writeStaging index)
      (driver.writeStaging context (.writeStaging index) staging uploadText initial)) :=
    watched_perform Vulkan.keepsState_writeStaging
  refine Monitor.Watched.ensure ?_ (fun _ => Vulkan.keepsState_dropBuffer staging)
    (Vulkan.keepsState_dropBuffer staging)
  exact hwrite.bind fun _ => watched_perform Vulkan.keepsState_copyStagingToDevice

theorem keepsOwned_createShared {spec : SharedBufferSpec} {index : ℕ} :
    KeepsOwned context.owner (createShared driver context spec index) := by
  refine keepsOwned_createBuffer.bind fun shared => ?_
  refine Monitor.Watched.bind (Monitor.Watched.onError ?_ (Vulkan.keepsState_dropBuffer shared))
    fun _ => .pure fun _ h => h
  cases spec.initialData with
  | none => exact .pure fun _ h => h
  | some initial => exact keepsOwned_upload

theorem keepsOwned_createBuffers {specs : List SharedBufferSpec} :
    KeepsOwned context.owner (specs.zipIdx.foldlM (Run.pushStep fun entry =>
      createShared driver context entry.1 entry.2) ([], Except.ok ())) := by
  have hstep (pushed : Run.Pushed BackendError Vulkan.VulkanBuffer)
      (entry : SharedBufferSpec × ℕ) : KeepsOwned context.owner
        (Run.pushStep (fun entry => createShared driver context entry.1 entry.2) pushed entry) :=
    Monitor.Watched.pushStep keepsOwned_createShared pushed
  exact Monitor.Watched.foldlM (fun pushed entry _ => hstep pushed entry) _

/-! ### Handing buffers over -/

/-- The memory of the buffers. -/
abbrev memories (buffers : List Vulkan.VulkanBuffer) : List GpuObject :=
  buffers.map Vulkan.VulkanBuffer.memoryObject

/-- The buffers are bound to their memory. -/
def BoundTo (buffers : List Vulkan.VulkanBuffer) (holdings : Holdings) : Prop :=
  ∀ buffer ∈ buffers, holdings.bound buffer.bufferObject = buffer.memoryObject

/-- The memory of the first buffers belongs to the external consumer, who has a handle of it. All
other memory belongs to the family. -/
structure HandedOver (family : QueueFamilyIndex) (buffers : List Vulkan.VulkanBuffer) (k : ℕ)
    (holdings : Holdings) : Prop where
  bound : BoundTo buffers holdings
  external : ∀ memory ∈ (memories buffers).take k, holdings.owner memory = .external
  exported : ∀ memory ∈ (memories buffers).take k, holdings.exported memory = true
  owned : ∀ memory ∉ (memories buffers).take k, holdings.owner memory = family

theorem take_succ_memories (hk : k < buffers.length) :
    (memories buffers).take (k + 1) = (memories buffers).take k ++ [buffers[k].memoryObject] := by
  rw [List.take_succ_eq_append_getElem (by rwa [List.length_map]), List.getElem_map]

theorem not_mem_take_memories (hnodup : (memories buffers).Nodup) (hk : k < buffers.length) :
    buffers[k].memoryObject ∉ (memories buffers).take k := by
  have htake : ((memories buffers).take (k + 1)).Nodup := hnodup.sublist (List.take_sublist _ _)
  rw [take_succ_memories hk] at htake
  exact fun hmem => List.disjoint_of_nodup_append htake hmem (List.mem_singleton_self _)

/-- The next buffer may be released, because it belongs to the family. -/
theorem HandedOver.owner_next (h : HandedOver family buffers k holdings)
    (hnodup : (memories buffers).Nodup) (hk : k < buffers.length) :
    holdings.owner (holdings.bound buffers[k].bufferObject) = family := by
  rw [h.bound _ (List.getElem_mem hk)]
  exact h.owned _ (not_mem_take_memories hnodup hk)

/-- One more buffer is released and exported. -/
theorem HandedOver.release (h : HandedOver family buffers k holdings) (hk : k < buffers.length)
    {barrier : Vulkan.BufferMemoryBarrier} (hbarrier : barrier.dstQueueFamilyIndex = .external) :
    let released := holdings.execute (.pipelineBarrier barrier buffers[k].bufferObject)
    released.owner buffers[k].memoryObject = .external ∧
      HandedOver family buffers (k + 1) (released.exportHandle buffers[k].memoryObject) := by
  intro released
  have howner : released.owner =
      Function.update holdings.owner buffers[k].memoryObject .external := by
    rw [← hbarrier, ← h.bound _ (List.getElem_mem hk)]
    rfl
  have hself : released.owner buffers[k].memoryObject = .external := by
    rw [howner]
    exact Function.update_self ..
  have hother {memory : GpuObject} (hne : memory ≠ buffers[k].memoryObject) :
      released.owner memory = holdings.owner memory := by
    rw [howner]
    exact Function.update_of_ne hne ..
  refine ⟨hself, h.bound, fun memory hmem => ?_, fun memory hmem => ?_, fun memory hmem => ?_⟩
  · by_cases hne : memory = buffers[k].memoryObject
    · rwa [hne]
    · rw [take_succ_memories hk, List.mem_append, List.mem_singleton] at hmem
      exact (hother hne).trans (h.external memory (hmem.resolve_right hne))
  · by_cases hne : memory = buffers[k].memoryObject
    · rw [hne]
      exact Function.update_self ..
    · rw [take_succ_memories hk, List.mem_append, List.mem_singleton] at hmem
      exact (Function.update_of_ne hne ..).trans (h.exported memory (hmem.resolve_right hne))
  · rw [take_succ_memories hk, List.mem_append, List.mem_singleton, not_or] at hmem
    exact (hother hmem.2).trans (h.owned memory hmem.1)

theorem watched_exportStep (hnodup : (memories buffers).Nodup) (hk : k < buffers.length)
    (exported : List ExportedSharedBuffer) :
    WatchedBy context.owner (HandedOver context.owner buffers k)
      (exportStep driver context exported (buffers[k], k))
      (fun _ => HandedOver context.owner buffers (k + 1)) fun _ => True := by
  let Released (holdings : Holdings) : Prop :=
    holdings.owner buffers[k].memoryObject = .external ∧
      HandedOver context.owner buffers (k + 1)
        (holdings.exportHandle buffers[k].memoryObject)
  have hrelease : WatchedBy context.owner (HandedOver context.owner buffers k)
      (perform (.releaseToExternal k)
        (releaseToExternal driver context (.releaseToExternal k) buffers[k]))
      (fun _ => Released) fun _ => True := by
    refine watched_perform (watched_submitOneTime _ (fun holdings h => ?_)
      (fun holdings h => h.release hk rfl) (fun _ _ => trivial) fun _ _ => trivial)
    exact ⟨⟨h.owner_next hnodup hk, .inl rfl⟩, trivial⟩
  have hexport : WatchedBy context.owner Released
      (perform (.exportKmtHandle k)
        (driver.exportKmtHandle context (.exportKmtHandle k) buffers[k]))
      (fun _ => HandedOver context.owner buffers (k + 1)) fun _ => True :=
    watched_perform (Vulkan.watched_exportKmtHandle (fun _ h => h.1) (fun _ h => h.2)
      fun _ _ => trivial)
  exact hrelease.bind fun _ => hexport.bind fun handle => .pure fun _ h => h

theorem watched_exportBuffers (hnodup : (memories buffers).Nodup) :
    WatchedBy context.owner (HandedOver context.owner buffers 0)
      (buffers.zipIdx.foldlM (exportStep driver context) [])
      (fun _ => HandedOver context.owner buffers buffers.length) fun _ => True := by
  have hstep (k : ℕ) (hk : k < buffers.zipIdx.length) (exported : List ExportedSharedBuffer) :
      WatchedBy context.owner (HandedOver context.owner buffers k)
        (exportStep driver context exported buffers.zipIdx[k])
        (fun _ => HandedOver context.owner buffers (k + 1)) fun _ => True := by
    rw [List.length_zipIdx] at hk
    rw [List.getElem_zipIdx, Nat.zero_add]
    exact watched_exportStep hnodup hk exported
  have hloop := Monitor.Watched.foldlM_getElem (fun k (_ : List ExportedSharedBuffer)
    (state : OwnershipState) => HandedOver context.owner buffers k state.holdings) hstep []
  rwa [List.length_zipIdx] at hloop

/-! ### Taking buffers back -/

/-- The memory of the last buffers belongs to the external consumer, and all other memory to the
family when no buffer was lost. -/
structure TakenBack (family : QueueFamilyIndex) (buffers : List Vulkan.VulkanBuffer) (k : ℕ)
    (reclaimError : Option BackendError) (holdings : Holdings) : Prop where
  bound : BoundTo buffers holdings
  external : ∀ memory ∈ (memories buffers).drop k, holdings.owner memory = .external
  owned : reclaimError = none → ∀ memory ∉ (memories buffers).drop k,
    holdings.owner memory = family

theorem drop_memories (hk : k < buffers.length) :
    (memories buffers).drop k = buffers[k].memoryObject :: (memories buffers).drop (k + 1) := by
  rw [List.drop_eq_getElem_cons (by rwa [List.length_map]), List.getElem_map]

theorem not_mem_drop_memories (hnodup : (memories buffers).Nodup) (hk : k < buffers.length) :
    buffers[k].memoryObject ∉ (memories buffers).drop (k + 1) := by
  have hdrop : ((memories buffers).drop k).Nodup := hnodup.sublist (List.drop_sublist _ _)
  rw [drop_memories hk] at hdrop
  exact (List.nodup_cons.1 hdrop).1

/-- The next buffer may be taken back, because it belongs to the external consumer. -/
theorem TakenBack.owner_next {reclaimError : Option BackendError}
    (h : TakenBack family buffers k reclaimError holdings) (hk : k < buffers.length) :
    holdings.owner (holdings.bound buffers[k].bufferObject) = .external := by
  rw [h.bound _ (List.getElem_mem hk)]
  exact h.external _ (by rw [drop_memories hk]; exact List.mem_cons_self)

/-- A buffer that was not taken back. -/
theorem TakenBack.lost {reclaimError : Option BackendError} {error : BackendError}
    (h : TakenBack family buffers k reclaimError holdings) (hk : k < buffers.length) :
    TakenBack family buffers (k + 1) (reclaimError.or (some error)) holdings where
  bound := h.bound
  external memory hmem := h.external memory (by rw [drop_memories hk]; exact .tail _ hmem)
  owned hnone := by cases reclaimError <;> cases hnone

/-- One more buffer is taken back. -/
theorem TakenBack.acquire {reclaimError : Option BackendError}
    (h : TakenBack family buffers k reclaimError holdings) (hnodup : (memories buffers).Nodup)
    (hk : k < buffers.length) {barrier : Vulkan.BufferMemoryBarrier}
    (hbarrier : barrier.dstQueueFamilyIndex = family) :
    TakenBack family buffers (k + 1) reclaimError
      (holdings.execute (.pipelineBarrier barrier buffers[k].bufferObject)) := by
  have howner : (holdings.execute (.pipelineBarrier barrier buffers[k].bufferObject)).owner =
      Function.update holdings.owner buffers[k].memoryObject family := by
    rw [← hbarrier, ← h.bound _ (List.getElem_mem hk)]
    rfl
  refine ⟨h.bound, fun memory hmem => ?_, fun hnone memory hmem => ?_⟩
  · have hne : memory ≠ buffers[k].memoryObject := fun heq =>
      not_mem_drop_memories hnodup hk (heq ▸ hmem)
    rw [howner, Function.update_of_ne hne]
    exact h.external memory (by rw [drop_memories hk]; exact .tail _ hmem)
  · by_cases hne : memory = buffers[k].memoryObject
    · rw [howner, hne]
      exact Function.update_self ..
    · rw [howner, Function.update_of_ne hne]
      refine h.owned hnone memory ?_
      rw [drop_memories hk, List.mem_cons, not_or]
      exact ⟨hne, hmem⟩

theorem watched_reclaimStep (hnodup : (memories buffers).Nodup) (hk : k < buffers.length)
    (reclaimError : Option BackendError) :
    WatchedBy context.owner (TakenBack context.owner buffers k reclaimError)
      (reclaimStep driver context reclaimError (buffers[k], k))
      (TakenBack context.owner buffers (k + 1)) fun _ => True := by
  -- a failing call takes the buffer back or does not, and its error is kept
  let Lost (holdings : Holdings) : Prop :=
    ∀ error, TakenBack context.owner buffers (k + 1) (reclaimError.or (some error)) holdings
  have hlost (holdings : Holdings)
      (h : TakenBack context.owner buffers (k + 1) reclaimError holdings) : Lost holdings :=
    fun error => ⟨h.bound, h.external, fun hnone => by cases reclaimError <;> cases hnone⟩
  have hacquire : WatchedBy context.owner (TakenBack context.owner buffers k reclaimError)
      (perform (.acquireFromExternal k)
        (acquireFromExternal driver context (.acquireFromExternal k) buffers[k]))
      (fun _ => TakenBack context.owner buffers (k + 1) reclaimError) Lost := by
    refine watched_perform (watched_submitOneTime _ (fun holdings h => ?_)
      (fun holdings h => h.acquire hnodup hk rfl) (fun holdings h error => h.lost hk) hlost)
    exact ⟨⟨h.owner_next hk, .inr rfl⟩, trivial⟩
  refine hacquire.caught.bind fun outcome => ?_
  cases outcome with
  | ok u => exact .pure fun _ h => h
  | error error => exact .pure fun _ h => h error

theorem watched_reclaimBuffers (hnodup : (memories buffers).Nodup) :
    WatchedBy context.owner (TakenBack context.owner buffers 0 none)
      (buffers.zipIdx.foldlM (reclaimStep driver context) none)
      (TakenBack context.owner buffers buffers.length) fun _ => True := by
  have hstep (k : ℕ) (hk : k < buffers.zipIdx.length) (reclaimError : Option BackendError) :
      WatchedBy context.owner (TakenBack context.owner buffers k reclaimError)
        (reclaimStep driver context reclaimError buffers.zipIdx[k])
        (TakenBack context.owner buffers (k + 1)) fun _ => True := by
    rw [List.length_zipIdx] at hk
    rw [List.getElem_zipIdx, Nat.zero_add]
    exact watched_reclaimStep hnodup hk reclaimError
  have hloop := Monitor.Watched.foldlM_getElem (fun k reclaimError (state : OwnershipState) =>
    TakenBack context.owner buffers k reclaimError state.holdings) hstep none
  rwa [List.length_zipIdx] at hloop

/-- All memory belongs to the family when all buffers are taken back. -/
theorem TakenBack.allOwned (h : TakenBack family buffers buffers.length none holdings) :
    holdings.AllOwned family := by
  refine fun memory => h.owned rfl memory ?_
  rw [List.drop_of_length_le (List.length_map _).le]
  exact List.not_mem_nil

/-! ### Reading buffers -/

theorem keepsOwned_readBuffer {index : ℕ} {buffer : Vulkan.VulkanBuffer} :
    KeepsOwned context.owner (readBuffer driver context index buffer) := by
  refine keepsOwned_createBuffer.bind fun staging => ?_
  have hcopy : KeepsOwned context.owner (perform (.copyDeviceToStaging index)
      (driver.copyDeviceToStaging context (.copyDeviceToStaging index) buffer staging)) :=
    watched_perform Vulkan.keepsState_copyDeviceToStaging
  refine Monitor.Watched.ensure ?_ (fun _ => Vulkan.keepsState_dropBuffer staging)
    (Vulkan.keepsState_dropBuffer staging)
  exact hcopy.bind fun _ => watched_perform Vulkan.keepsState_readStaging

theorem keepsOwned_readStep (readbacks : List (Option (List Byte)))
    (entry : (SharedBufferSpec × Vulkan.VulkanBuffer) × ℕ) :
    KeepsOwned context.owner (readStep driver context readbacks entry) := by
  rw [readStep]
  split
  · exact keepsOwned_readBuffer.bind fun bytes => .pure fun _ h => h
  · exact .pure fun _ h => h

/-! ### Sessions -/

variable {T : Type}

theorem watched_shareBuffers {specs : List SharedBufferSpec}
    {operation : List ExportedSharedBuffer → Except BackendError T}
    (hnodup : (memories buffers).Nodup) :
    WatchedBy context.owner (HandedOver context.owner buffers 0)
      (shareBuffers driver context specs buffers operation)
      (fun _ => (·.AllOwned context.owner)) fun _ => True := by
  have hoperation : WatchedBy context.owner (HandedOver context.owner buffers buffers.length)
      (Run.call (.other .operation) (memories buffers) : Program Unit)
      (fun _ => TakenBack context.owner buffers 0 none) fun _ => True := by
    refine .record fun state h => ?_
    have htake : (memories buffers).take buffers.length = memories buffers :=
      List.take_of_length_le (List.length_map _).le
    have hexternal := htake ▸ h.external
    have hexported := htake ▸ h.exported
    have howned := htake ▸ h.owned
    exact ⟨fun _ memory hmem => ⟨hexternal memory hmem, hexported memory hmem⟩, h.bound, hexternal,
      fun _ => howned⟩
  refine (watched_exportBuffers hnodup).bind fun exported => hoperation.bind fun _ => ?_
  refine (watched_reclaimBuffers hnodup).bind fun reclaimError => ?_
  have hvalue : WatchedBy context.owner
      (TakenBack context.owner buffers buffers.length reclaimError)
      (Run.lift (operation exported) : Program T)
      (fun _ => TakenBack context.owner buffers buffers.length reclaimError) fun _ => True :=
    (Monitor.Watched.liftM _).weaken (fun _ h => h) (fun _ _ h => h) fun _ _ => trivial
  refine hvalue.bind fun value => ?_
  cases reclaimError with
  | some error => exact .throw error fun _ _ => trivial
  | none =>
    have hread : KeepsOwned context.owner
        ((specs.zip buffers).zipIdx.foldlM (readStep driver context) []) :=
      Monitor.Watched.foldlM (fun readbacks entry _ => keepsOwned_readStep readbacks entry) []
    refine (hread.weaken (fun _ h => h.allOwned) (fun _ _ h => h) fun _ _ => trivial).bind
      fun readbacks => .pure fun _ h => h

/-- Everything in the log is allowed, and the owners after it satisfy a property. -/
abbrev OwnersLead (family : QueueFamilyIndex) (P : Holdings → Prop) : SessionLog → Prop :=
  (ownership family Consumes).Leads (.start family) fun state => P state.holdings

/-- Before anything is handed over, the buffers are bound to distinct memory, which belongs to the
family. -/
theorem ownersLead_handedOver {specs : List SharedBufferSpec} {log : SessionLog}
    {effect : List GpuObject → Vulkan.Contents → Vulkan.Contents} {initial : Vulkan.Contents}
    (hprepared : Prepared driver effect initial specs specs.length buffers log)
    (howned : OwnersLead family (·.AllOwned family) log) :
    OwnersLead family (HandedOver family buffers 0) log := by
  have hbound : BoundTo buffers (ownershipAfter family log).holdings := by
    intro buffer hbuffer
    obtain ⟨k, hk, rfl⟩ := List.getElem_of_mem hbuffer
    have hspec : k < specs.length := hprepared.forall₂.length_eq ▸ hk
    rw [Vulkan.bound_ownershipAfter (consumerEffects effect) initial]
    exact (hprepared.forall₂.get hspec hk).1.bound
  exact ⟨howned.1, hbound, List.forall_mem_nil _, List.forall_mem_nil _,
    fun memory _ => howned.2 memory⟩

/-- Dropping objects changes no owner. -/
theorem watched_dropBuffers {P : Holdings → Prop} :
    WatchedBy family P (dropBuffers buffers) (fun _ => P) P :=
  Monitor.Watched.foldlM (fun _ buffer _ => Vulkan.keepsState_dropBuffer buffer) ()

/-- The loop that creates the buffers. -/
theorem ends_createOwned {specs : List SharedBufferSpec}
    (effect : List GpuObject → Vulkan.Contents → Vulkan.Contents) (initial : Vulkan.Contents)
    (hsized : ∀ entry ∈ specs.zipIdx, Sized entry.1) {log : SessionLog}
    (howned : OwnersLead context.owner (·.AllOwned context.owner) log) :
    (specs.zipIdx.foldlM (Run.pushStep fun entry =>
      createShared driver context entry.1 entry.2) ([], .ok ()) : Program _).Ends log
      (fun pushed log' => (pushed.2 = .ok () →
          Prepared driver effect initial specs specs.length pushed.1 log') ∧
        OwnersLead context.owner (·.AllOwned context.owner) log')
      (OwnersLead context.owner fun _ => True) :=
  ((ends_createBuffers effect initial hsized).and (keepsOwned_createBuffers _ log howned)).weaken
    (fun _ _ _ h => h) fun _ _ h => h.2.mono fun _ _ => trivial

/-- A session after all of its buffers were created, or not. -/
theorem ends_created {specs : List SharedBufferSpec}
    {operation : List ExportedSharedBuffer → Except BackendError T}
    {effect : List GpuObject → Vulkan.Contents → Vulkan.Contents} {initial : Vulkan.Contents}
    {created : Except BackendError Unit} {log : SessionLog}
    (hprepared : created = .ok () →
      Prepared driver effect initial specs specs.length buffers log)
    (howned : OwnersLead context.owner (·.AllOwned context.owner) log) :
    (Run.lift created >>= fun _ => shareBuffers driver context specs buffers operation).Ends log
      (fun _ => OwnersLead context.owner (·.AllOwned context.owner))
      (OwnersLead context.owner fun _ => True) := by
  cases created with
  | error error => exact .throw error (howned.mono fun _ _ => trivial)
  | ok u =>
    exact watched_shareBuffers (hprepared rfl).nodup_memories _ log
      (ownersLead_handedOver (hprepared rfl) howned)

/-- **Ownership.** Everything that happens in a session is allowed by the owners of its memory at
that time, and a session that succeeds leaves all memory to the queue family of its context. -/
theorem withBuffers_ownership (driver : Driver) (setting : Option String)
    (specs : List SharedBufferSpec)
    (operation : List ExportedSharedBuffer → Except BackendError T) :
    let session := (withBuffers driver setting specs operation).exec []
    Vulkan.RespectsOwners (sessionFamily driver) Consumes session.2 ∧
      ((∃ output, session.1 = .ok output) →
        (ownershipAfter (sessionFamily driver) session.2).holdings.AllOwned
          (sessionFamily driver)) := by
  intro session
  let family : QueueFamilyIndex := sessionFamily driver
  -- where the buffers are bound does not depend on what the callback does
  let effect : List GpuObject → Vulkan.Contents → Vulkan.Contents := fun _ contents => contents
  let initial : Vulkan.Contents := fun _ _ => 0
  have hstart : OwnersLead family (·.AllOwned family) [] := ⟨trivial, fun _ => rfl⟩
  have hcreate {log : SessionLog} (howned : OwnersLead family (·.AllOwned family) log) :
      (perform .create (driver.createContext .create "memory")).Ends log
      (fun context log => OwnersLead family (·.AllOwned family) log ∧ context.owner = family)
      (OwnersLead family fun _ => True) := by
    have hkeeps : KeepsOwned family (perform .create (driver.createContext .create "memory")) :=
      watched_perform (Vulkan.keepsState_createContext "memory")
    refine ((hkeeps _ log howned).and_yields implements_createContext.yields).weaken
      (fun context log _ h => ⟨h.1, ?_⟩) fun _ _ h => h.mono fun _ _ => trivial
    obtain ⟨_, hcontext⟩ := h.2
    exact congrArg QueueFamilyIndex.family hcontext.queueFamilyIndex
  have hsession : (withBuffers driver setting specs operation).Ends []
      (fun _ => OwnersLead family (·.AllOwned family)) (OwnersLead family fun _ => True) := by
    have hvalidate : (Run.lift (validateSpecs setting specs) : Program Unit).Ends []
        (fun _ log => OwnersLead family (·.AllOwned family) log ∧
          validateSpecs setting specs = .ok ()) (OwnersLead family fun _ => True) :=
      .liftM (fun _ h => ⟨hstart, h⟩) (hstart.mono fun _ _ => trivial)
    refine hvalidate.bind fun _ log₁ _ hvalid => ?_
    refine (hcreate hvalid.1).bind fun context log₂ _ hcontext => ?_
    obtain ⟨howned, hfamily⟩ := hcontext
    rw [← hfamily] at howned ⊢
    refine Run.Ends.ensure (Q := fun _ => OwnersLead context.owner (·.AllOwned context.owner))
      (E := OwnersLead context.owner fun _ => True) ?_
      (fun _ log₃ _ h => Vulkan.keepsState_dropContext context _ log₃ h)
      fun log₃ _ h => Vulkan.keepsState_dropContext context _ log₃ h
    refine (ends_createOwned effect initial (sized_of_validateSpecs hvalid.2) howned).bind
      fun pushed log₃ _ hpushed => ?_
    obtain ⟨buffers, created⟩ := pushed
    refine Run.Ends.ensure (Q := fun _ => OwnersLead context.owner (·.AllOwned context.owner))
      (E := OwnersLead context.owner fun _ => True) (ends_created hpushed.1 hpushed.2)
      (fun _ log₄ _ h => watched_dropBuffers (P := (·.AllOwned context.owner)) _ log₄ h)
      fun log₄ _ h => watched_dropBuffers (P := fun _ => True) _ log₄ h
  have hallowed : OwnersLead family (fun _ => True) session.2 :=
    (hsession.weaken (fun _ _ _ h => h.mono fun _ _ => trivial) fun _ _ h => h).discard.2
  refine ⟨fun front event back hlog => ?_, fun ⟨output, houtput⟩ => ?_⟩
  · have hallows := hallowed.1
    rw [hlog] at hallows
    exact Monitor.allowed_of_split hallows
  · exact (hsession.of_exec (Prod.ext houtput rfl)).2

end RiftGPU.SharedBuffers.Platform
