import RiftGPU.SharedBuffers.Platform
import RiftGPU.Vulkan.MemoryCalls

/-!
# What a session does with the bytes of its buffers

The callback finds the initial data in the memory of the buffers, and what a session returns is what
the callback left in the memory, buffer by buffer, when the driver is honest.

## Main definitions

* `SharedBuffers.Platform.consumerEffects`: a callback that changes memory.
* `SharedBuffers.Platform.Transfers`: the statement about a session.

## Main results

* `SharedBuffers.Platform.withBuffers_transfers`: the bytes of a session.
-/

namespace RiftGPU.SharedBuffers.Platform

open Lifetime Bytes
open Vulkan (Vk VulkanContext BufferKind GpuObject Contents Effects readBytes)

/-- The events of a session in a log. -/
abbrev SessionLog := List (Event (Vulkan.Label SessionEvent) GpuObject)

/-- The callback changes the contents of memory. Nothing else in a session does, apart from the
calls of Vulkan. -/
def consumerEffects (effect : List GpuObject → Contents → Contents) : Effects SessionEvent where
  act
    | .operation, memories, contents => effect memories contents
    | _, _, contents => contents
  Honest _ _ _ := True

instance (effect : List GpuObject → Contents → Contents) (event : SessionEvent)
    (uses : List GpuObject) (contents : Contents) :
    Decidable ((consumerEffects effect).Honest event uses contents) :=
  isTrue trivial

variable {driver : Driver} {context : VulkanContext}
  {effect : List GpuObject → Contents → Contents} {initial : Contents} {log log' log'' : SessionLog}

/-! ### Calls of the context -/

theorem isQuiet_attempted (call : VulkanCall) :
    (consumerEffects effect).IsQuiet (.call (.other (.attempted call)) []) :=
  fun _ => ⟨rfl, rfl⟩

theorem isQuiet_succeeded (call : VulkanCall) :
    (consumerEffects effect).IsQuiet (.call (.other (.succeeded call)) []) :=
  fun _ => ⟨rfl, rfl⟩

theorem quiet_perform {α : Type} {call : VulkanCall} {x : Program α}
    (hx : (consumerEffects effect).Quiet initial x) :
    (consumerEffects effect).Quiet initial (perform call x) := by
  refine (Effects.Quiet.record (isQuiet_attempted call)).bind fun _ => ?_
  refine hx.bind fun a => ?_
  exact (Effects.Quiet.record (isQuiet_succeeded call)).bind fun _ => .pure a

/-- A call whose specification is about the memory. -/
theorem ends_perform {α : Type} {call : VulkanCall} {x : Program α} {Q : α → SessionLog → Prop}
    (hx : ∀ log', log <+: log' → (consumerEffects effect).Unchanged initial log log' →
      x.Ends log' Q fun _ => True)
    (hstable : ∀ a log' log'', log' <+: log'' →
      (consumerEffects effect).Unchanged initial log' log'' → Q a log' → Q a log'') :
    (perform call x).Ends log Q fun _ => True := by
  have hattempted : (Run.call (.other (.attempted call)) [] : Program Unit).Ends log
      (fun _ log₁ => log <+: log₁ ∧ (consumerEffects effect).Unchanged initial log log₁)
      fun _ => True :=
    .record ⟨List.prefix_append _ _, (isQuiet_attempted call).unchanged⟩
  have hsucceeded (a : α) (log₂ : SessionLog) (ha : Q a log₂) :
      (Run.call (.other (.succeeded call)) [] : Program Unit).Ends log₂ (fun _ => Q a)
        fun _ => True :=
    .record (hstable a log₂ _ (List.prefix_append _ _) (isQuiet_succeeded call).unchanged ha)
  refine hattempted.bind fun _ log₁ _ h₁ => ?_
  refine (hx log₁ h₁.1 h₁.2).bind fun a log₂ _ ha => ?_
  exact (hsucceeded a log₂ ha).bind fun _ _ _ h₃ => .pure h₃

variable (effect initial) in
theorem ends_createBuffer {call : VulkanCall} {kind : BufferKind} {bytes : BitVec 64} :
    (perform call (driver.createBuffer context call kind bytes)).Ends log
      ((consumerEffects effect).NewBuffer initial context bytes (driver.memorySize call) log)
      fun _ => True := by
  refine ends_perform (fun log' hgrows hlog => ?_) fun _ _ _ hgrows hlog h =>
    h.and_unchanged hgrows hlog
  exact Vulkan.ends_createBuffer.weaken (fun _ _ _ h => h.after_unchanged hgrows hlog)
    fun _ _ _ => trivial

variable (effect initial) in
theorem ends_writeStaging {call : VulkanCall} {staging : Vulkan.VulkanBuffer} {mapText : String}
    {data : List Byte} :
    (perform call (driver.writeStaging context call staging mapText data)).Ends log
      (fun _ => (consumerEffects effect).Wrote initial staging.memoryObject data log)
      fun _ => True := by
  refine ends_perform (fun log' _ hlog => ?_) fun _ _ _ _ hlog h => h.and_unchanged hlog
  exact Vulkan.ends_writeStaging.weaken (fun _ _ _ h => h.2.unchanged_trans hlog)
    fun _ _ _ => trivial

variable (effect initial) in
theorem ends_submit {call : VulkanCall} {commands : List Vulkan.Command} :
    (perform call (driver.submitOneTime context call commands)).Ends log
      (fun _ => (consumerEffects effect).Copied initial
        (commands.filterMap Vulkan.Command.copy?) log) fun _ => True := by
  refine ends_perform (fun log' _ hlog => ?_) fun _ _ _ _ hlog h => h.andUnchanged hlog
  exact (Vulkan.ends_submitOneTime commands).weaken (fun _ _ _ h => h.unchanged_trans hlog)
    fun _ _ _ => trivial

/-- A barrier leaves the bytes of all memory alone. -/
theorem quiet_submitBarrier {call : VulkanCall} {barrier : Vulkan.BufferMemoryBarrier}
    {buffer : GpuObject} :
    (consumerEffects effect).Quiet initial
      (perform call (driver.submitOneTime context call [.pipelineBarrier barrier buffer])) := by
  refine quiet_perform fun log => ?_
  exact (Vulkan.ends_submitOneTime _).weaken (fun _ _ _ h => h) fun _ _ h => h.elim id id

variable (effect initial) in
theorem ends_drop {buffer : Vulkan.VulkanBuffer} {R : SessionLog → Prop}
    (h : ∀ log', log <+: log' → (consumerEffects effect).Unchanged initial log log' → R log') :
    (buffer.drop : Program Unit).Ends log (fun _ => R) R :=
  (Vulkan.quiet_dropBuffer buffer log).weaken (fun _ => h) h

variable (effect initial) in
/-- A program with a staging buffer of its own, which is dropped at the end. -/
theorem ends_withStaging {α : Type} {call : VulkanCall} {bytes : BitVec 64}
    {body : Vulkan.VulkanBuffer → Program α} {Q : α → SessionLog → Prop}
    (hbody : ∀ staging log₁, log <+: log₁ →
      (consumerEffects effect).NewBuffer initial context bytes (driver.memorySize call) log
        staging log₁ → (body staging).Ends log₁ Q fun _ => True)
    (hstable : ∀ a log₁ log₂, log₁ <+: log₂ →
      (consumerEffects effect).Unchanged initial log₁ log₂ → Q a log₁ → Q a log₂) :
    (perform call (driver.createBuffer context call stagingKind bytes) >>= fun staging =>
      Run.ensure (body staging) staging.drop).Ends log Q fun _ => True := by
  refine (ends_createBuffer effect initial).bind fun staging log₁ h₁ hstaging => ?_
  refine (hbody staging log₁ h₁ hstaging).ensure (fun a log₂ _ ha => ?_) fun log₂ _ _ => ?_
  · exact ends_drop effect initial fun log₃ hgrows hlog => hstable a log₂ log₃ hgrows hlog ha
  · exact ends_drop effect initial fun _ _ _ => trivial

/-! ### Creating buffers -/

/-- The data is in the memory of the buffer. -/
def Stored (effect : List GpuObject → Contents → Contents) (initial : Contents)
    (buffer : Vulkan.VulkanBuffer) (data : List Byte) (log : SessionLog) : Prop :=
  readBytes data.length (((consumerEffects effect).after initial log).contents
    buffer.memoryObject) = data

theorem Stored.frame {buffer : Vulkan.VulkanBuffer} {data : List Byte}
    (h : Stored effect initial buffer data log) (hlt : buffer.memory < log.length)
    (hframe : (consumerEffects effect).Frame initial [] log log') :
    Stored effect initial buffer data log' := by
  rw [Stored, hframe.contents buffer.memoryObject hlt List.not_mem_nil, h]

theorem ends_upload {index : ℕ} {bytes : BitVec 64} {data : List Byte}
    {shared : Vulkan.VulkanBuffer} (hlength : data.length = bytes.toNat)
    (hshared : (consumerEffects effect).Bound initial log shared) :
    (upload driver context index bytes data shared).Ends log
      (fun _ log' => (consumerEffects effect).Frame initial [shared.memoryObject] log log' ∧
        Stored effect initial shared data log') fun _ => True := by
  refine ends_withStaging effect initial (fun staging log₁ h₁ hstaging => ?_)
    fun _ log₃ log₄ _ hlog h => ?_
  · refine (ends_writeStaging effect initial).bind fun _ log₂ h₂ hwrote => ?_
    refine (ends_submit effect initial).weaken (fun _ log₃ _ hcopied => ?_) fun _ _ _ => trivial
    have hframe := (hstaging.and_written h₂ hwrote.frame h₁).frame
    have hsource := hstaging.isBound.frame h₂ hwrote.frame
    have hdestination := hshared.frame (h₁.trans h₂) hframe
    obtain ⟨hlast, hbytes⟩ := Effects.Copied.single hsource hdestination hcopied
    refine ⟨(hframe.mono (List.nil_subset _)).trans (h₁.trans h₂) hlast fun _ hmem _ => hmem, ?_⟩
    rw [hwrote.contents, hstaging.logicalSize, ← hlength, Vulkan.readBytes_writeBytes] at hbytes
    exact hbytes
  · obtain ⟨hframe, hstored⟩ := h
    refine ⟨hframe.andUnchanged hlog, ?_⟩
    rw [Stored, hlog.2, hstored]

/-- The buffer at an index is bound, and has its initial data. -/
structure Ready (driver : Driver) (effect : List GpuObject → Contents → Contents)
    (initial : Contents) (log : SessionLog) (entry : SharedBufferSpec × ℕ)
    (buffer : Vulkan.VulkanBuffer) : Prop where
  bound : (consumerEffects effect).Bound initial log buffer
  logicalSize : buffer.logicalSize = entry.1.bytes
  allocationSize : buffer.allocationSize = driver.memorySize (.createSharedBuffer entry.2)
  stored : ∀ data, entry.1.initialData = some data → Stored effect initial buffer data log

theorem Ready.frame {entry : SharedBufferSpec × ℕ} {buffer : Vulkan.VulkanBuffer}
    (h : Ready driver effect initial log entry buffer) (hgrows : log <+: log')
    (hframe : (consumerEffects effect).Frame initial [] log log') :
    Ready driver effect initial log' entry buffer :=
  ⟨h.bound.frame hgrows hframe, h.logicalSize, h.allocationSize,
    fun data hdata => (h.stored data hdata).frame h.bound.memory_lt hframe⟩

/-- The initial data, when there is any, is stored. -/
theorem ends_initialData {spec : SharedBufferSpec} {index : ℕ} {shared : Vulkan.VulkanBuffer}
    (hsized : Sized spec) (hshared : (consumerEffects effect).Bound initial log shared) :
    (spec.initialData.elim (pure ()) fun data =>
      upload driver context index spec.bytes data shared).Ends log
      (fun _ log' => (consumerEffects effect).Frame initial [shared.memoryObject] log log' ∧
        ∀ data, spec.initialData = some data → Stored effect initial shared data log')
      fun _ => True := by
  cases hinitial : spec.initialData with
  | none => exact .pure ⟨(Effects.Unchanged.refl log).frame, fun _ h => by cases h⟩
  | some data =>
    refine (ends_upload (hsized data hinitial) hshared).weaken (fun _ log' _ h => ?_)
      fun _ _ h => h
    obtain ⟨hframe, hstored⟩ := h
    refine ⟨hframe, fun other hother => ?_⟩
    obtain rfl := Option.some.inj hother
    exact hstored

variable (effect initial) in
theorem ends_createShared {entry : SharedBufferSpec × ℕ} (hsized : Sized entry.1) :
    (createShared driver context entry.1 entry.2).Ends log
      (fun buffer log' => (consumerEffects effect).Frame initial [] log log' ∧
        log.length ≤ buffer.memory ∧ Ready driver effect initial log' entry buffer)
      fun _ => True := by
  refine (ends_createBuffer effect initial).bind fun shared log₁ h₁ hshared => ?_
  have hinitial : (Run.onError (entry.1.initialData.elim (pure ()) fun data =>
        upload driver context entry.2 entry.1.bytes data shared) shared.drop).Ends log₁
      (fun _ log₂ => (consumerEffects effect).Frame initial [shared.memoryObject] log₁ log₂ ∧
        ∀ data, entry.1.initialData = some data → Stored effect initial shared data log₂)
      fun _ => True :=
    (ends_initialData hsized hshared.isBound).onError fun _ _ _ =>
      ends_drop effect initial fun _ _ _ => trivial
  refine hinitial.bind fun _ log₂ h₂ h => .pure ?_
  obtain ⟨hframe, hstored⟩ := h
  have hnew := hshared.and_written h₂ hframe h₁
  exact ⟨hnew.frame, hnew.le_memory, hnew.isBound, hnew.logicalSize, hnew.allocationSize,
    hstored⟩

/-- The first buffers are ready, each in memory that was allocated after that of the buffers before
it. -/
structure Prepared (driver : Driver) (effect : List GpuObject → Contents → Contents)
    (initial : Contents) (specs : List SharedBufferSpec) (k : ℕ)
    (buffers : List Vulkan.VulkanBuffer) (log : SessionLog) : Prop where
  ready : List.Forall₂ (Ready driver effect initial log) (specs.zipIdx.take k) buffers
  memory_lt : ∀ buffer ∈ buffers, buffer.memory < log.length
  increasing : buffers.Pairwise fun buffer later => buffer.memory < later.memory

/-- One more buffer is ready. -/
theorem Prepared.snoc {specs : List SharedBufferSpec} {k : ℕ} (hk : k < specs.zipIdx.length)
    {buffers : List Vulkan.VulkanBuffer} {buffer : Vulkan.VulkanBuffer}
    (h : Prepared driver effect initial specs k buffers log) (hgrows : log <+: log')
    (hframe : (consumerEffects effect).Frame initial [] log log')
    (hle : log.length ≤ buffer.memory)
    (hready : Ready driver effect initial log' specs.zipIdx[k] buffer) :
    Prepared driver effect initial specs (k + 1) (buffers ++ [buffer]) log' where
  ready := by
    rw [List.take_succ_eq_append_getElem hk]
    exact List.rel_append (h.ready.imp fun _ _ hbefore => hbefore.frame hgrows hframe)
      (.cons hready .nil)
  memory_lt := List.forall_mem_append.2
    ⟨fun other hother => (h.memory_lt other hother).trans_le hgrows.length_le,
      List.forall_mem_singleton.2 hready.bound.memory_lt⟩
  increasing := List.pairwise_append.2 ⟨h.increasing, List.pairwise_singleton _ _,
    fun other hother => List.forall_mem_singleton.2 ((h.memory_lt other hother).trans_le hle)⟩

variable (effect initial) in
theorem ends_createBuffers {specs : List SharedBufferSpec}
    (hsized : ∀ entry ∈ specs.zipIdx, Sized entry.1) :
    (specs.zipIdx.foldlM (Run.pushStep fun entry =>
      createShared driver context entry.1 entry.2) ([], .ok ()) : Program _).Ends log
      (fun pushed log' => pushed.2 = .ok () →
        Prepared driver effect initial specs specs.length pushed.1 log') fun _ => True := by
  have hstep (k : ℕ) (hk : k < specs.zipIdx.length)
      (pushed : Run.Pushed BackendError Vulkan.VulkanBuffer) (log : SessionLog)
      (h : pushed.2 = .ok () → Prepared driver effect initial specs k pushed.1 log) :
      (Run.pushStep (fun entry => createShared driver context entry.1 entry.2) pushed
        specs.zipIdx[k] : Program _).Ends log (fun pushed log' => pushed.2 = .ok () →
          Prepared driver effect initial specs (k + 1) pushed.1 log') fun _ => True := by
    have hcreate : (createShared driver context specs.zipIdx[k].1 specs.zipIdx[k].2).Ends log _ _ :=
      ends_createShared effect initial (hsized _ (List.getElem_mem hk))
    refine (Run.Ends.pushStep fun _ => hcreate).weaken (fun pushed' log' hgrows hpushed hok => ?_)
      fun _ _ h => h
    obtain ⟨hbefore, buffer, hbuffers, hframe, hle, hready⟩ := hpushed hok
    rw [hbuffers]
    exact (h hbefore).snoc hk hgrows hframe hle hready
  rw [← List.length_zipIdx (l := specs)]
  exact Run.Ends.foldlM_getElem (fun k (pushed : Run.Pushed BackendError _) log =>
    pushed.2 = .ok () → Prepared driver effect initial specs k pushed.1 log) hstep ([], .ok ())
    fun _ => ⟨.nil, List.forall_mem_nil _, .nil⟩

/-! ### Sharing buffers -/

/-- What the callback is told about a buffer. -/
def exportedBuffer (driver : Driver) (entry : Vulkan.VulkanBuffer × ℕ) : ExportedSharedBuffer :=
  ⟨driver.win32Handle (.exportKmtHandle entry.2), entry.1.allocationSize, entry.1.logicalSize⟩

/-- The call for the buffer at the index has exported a handle of the memory. -/
def Exported (index : ℕ) (memory : GpuObject) (log : SessionLog) : Prop :=
  ∃ device, [.call (.other (.attempted (.exportKmtHandle index))) [],
    .call (.vulkan .getMemoryWin32Handle (.ok ())) [device, memory],
    .call (.other (.succeeded (.exportKmtHandle index))) []] <:+: log

theorem Exported.extend {index : ℕ} {memory : GpuObject} (h : Exported index memory log)
    (hgrows : log <+: log') : Exported index memory log' := by
  obtain ⟨device, hevents⟩ := h
  exact ⟨device, hevents.trans hgrows.isInfix⟩

variable (effect initial) in
theorem ends_export {buffer : Vulkan.VulkanBuffer} {index : ℕ} :
    (perform (.exportKmtHandle index)
      (driver.exportKmtHandle context (.exportKmtHandle index) buffer)).Ends log
      (fun handle log' => (consumerEffects effect).Unchanged initial log log' ∧
        handle = driver.win32Handle (.exportKmtHandle index) ∧
          Exported index buffer.memoryObject log') fun _ => True := by
  let call : VulkanCall := .exportKmtHandle index
  let attempted : Event (Vulkan.Label SessionEvent) GpuObject := .call (.other (.attempted call)) []
  let exported : Event (Vulkan.Label SessionEvent) GpuObject :=
    .call (.vulkan .getMemoryWin32Handle (.ok ())) [context.device.object, buffer.memoryObject]
  let succeeded : Event (Vulkan.Label SessionEvent) GpuObject := .call (.other (.succeeded call)) []
  have hattempted : (Run.call (.other (.attempted call)) [] : Program Unit).Ends log
      (fun _ log₁ => log₁ = log ++ [attempted]) fun _ => True := .record rfl
  have hexported (log₁ : SessionLog) : (driver.exportKmtHandle context call buffer :
      Program (BitVec 64)).Ends log₁
      (fun handle log₂ => handle = driver.win32Handle call ∧ log₂ = log₁ ++ [exported])
      fun _ => True := by
    refine (Vulkan.ends_attempt.weaken (fun _ _ _ h => h) fun _ _ _ => trivial).bind
      fun _ log₂ _ hlog₂ => .pure ⟨rfl, hlog₂⟩
  have hsucceeded (log₂ : SessionLog) : (Run.call (.other (.succeeded call)) [] :
      Program Unit).Ends log₂ (fun _ log₃ => log₃ = log₂ ++ [succeeded]) fun _ => True :=
    .record rfl
  refine hattempted.bind fun _ log₁ _ hlog₁ => ?_
  refine (hexported log₁).bind fun handle log₂ _ hlog₂ => ?_
  refine (hsucceeded log₂).bind fun _ log₃ _ hlog₃ => ?_
  refine .pure ⟨?_, hlog₂.1, context.device.object, ?_⟩
  · have hquiet : (consumerEffects effect).IsQuiet exported := Vulkan.isQuiet_vulkan rfl _ _
    rw [hlog₃, hlog₂.2, hlog₁]
    exact (isQuiet_attempted call).unchanged.trans
      (hquiet.unchanged.trans (isQuiet_succeeded call).unchanged)
  · refine ⟨log, [], ?_⟩
    rw [hlog₃, hlog₂.2, hlog₁]
    simp only [List.append_assoc, List.cons_append, List.nil_append]
    rfl

theorem ends_exportStep {exported : List ExportedSharedBuffer}
    {entry : Vulkan.VulkanBuffer × ℕ}
    (hlog : (consumerEffects effect).Unchanged initial log log') :
    (exportStep driver context exported entry).Ends log'
      (fun exported' log'' => (consumerEffects effect).Unchanged initial log log'' ∧
        exported' = exported ++ [exportedBuffer driver entry] ∧
          Exported entry.2 entry.1.memoryObject log'') fun _ => True := by
  refine quiet_submitBarrier.andThen hlog (fun _ log₁ _ hlog₁ => ?_) fun _ _ => trivial
  refine (ends_export effect initial).bind fun handle log₂ _ hexport => .pure ?_
  obtain ⟨hlog₂, hhandle, hevents⟩ := hexport
  refine ⟨hlog₁.trans hlog₂, ?_, hevents⟩
  rw [hhandle]
  rfl

variable (effect initial) in
theorem ends_exportBuffers {buffers : List Vulkan.VulkanBuffer} :
    (buffers.zipIdx.foldlM (exportStep driver context) []).Ends log
      (fun exported log' => (consumerEffects effect).Unchanged initial log log' ∧
        exported = buffers.zipIdx.map (exportedBuffer driver) ∧
          ∀ entry ∈ buffers.zipIdx, Exported entry.2 entry.1.memoryObject log')
      fun _ => True := by
  -- the first buffers are exported
  let Inv (k : ℕ) (exported : List ExportedSharedBuffer) (log' : SessionLog) : Prop :=
    (consumerEffects effect).Unchanged initial log log' ∧
      exported = (buffers.zipIdx.take k).map (exportedBuffer driver) ∧
        ∀ entry ∈ buffers.zipIdx.take k, Exported entry.2 entry.1.memoryObject log'
  have hstep (k : ℕ) (hk : k < buffers.zipIdx.length) (exported : List ExportedSharedBuffer)
      (log' : SessionLog) (h : Inv k exported log') :
      (exportStep driver context exported buffers.zipIdx[k]).Ends log' (Inv (k + 1))
        fun _ => True := by
    obtain ⟨hlog', hexported, hevents⟩ := h
    refine (ends_exportStep hlog').weaken (fun exported' log'' hgrows h' => ?_) fun _ _ h => h
    obtain ⟨hlog'', hexported', hevent⟩ := h'
    refine ⟨hlog'', ?_, ?_⟩
    · rw [hexported', hexported, List.take_succ_eq_append_getElem hk, List.map_append,
        List.map_singleton]
    · rw [List.take_succ_eq_append_getElem hk]
      exact List.forall_mem_append.2 ⟨fun entry hentry => (hevents entry hentry).extend hgrows,
        List.forall_mem_singleton.2 hevent⟩
  have hstart : Inv 0 [] log := ⟨.refl log, rfl, List.forall_mem_nil _⟩
  refine (Run.Ends.foldlM_getElem Inv hstep [] hstart).weaken (fun exported log' _ h => ?_)
    fun _ _ h => h
  simp only [Inv, List.take_length] at h
  exact h

variable (effect initial) in
/-- The memory belongs to the session again, and is as the callback left it. -/
theorem quiet_reclaimBuffers {buffers : List Vulkan.VulkanBuffer} :
    (consumerEffects effect).Quiet initial
      (buffers.zipIdx.foldlM (reclaimStep driver context) none) := by
  refine .foldlM (fun reclaimError entry => ?_) none
  refine quiet_submitBarrier.caught.bind fun outcome => ?_
  cases outcome <;> exact .pure _

/-! ### Reading buffers -/

variable (effect initial) in
theorem ends_readStaging {call : VulkanCall} {staging : Vulkan.VulkanBuffer} {mapText : String} :
    (perform call (driver.readStaging context call staging mapText)).Ends log
      (fun data log' => (consumerEffects effect).Unchanged initial log log' ∧
        ((consumerEffects effect).HonestLog initial log' →
          data = readBytes staging.logicalSize.toNat
            (((consumerEffects effect).after initial log).contents staging.memoryObject)))
      fun _ => True := by
  refine ends_perform (fun log₁ _ hlog => ?_) fun _ _ _ hgrows hlog h =>
    ⟨h.1.trans hlog, fun hhonest => h.2 (hhonest.restrict hgrows)⟩
  have hread : (driver.readStaging context call staging mapText : Program (List Byte)).Ends log₁
      (fun data log₂ => (consumerEffects effect).Unchanged initial log₁ log₂ ∧
        data = driver.contents call ∧ ((consumerEffects effect).HonestLog initial log₂ →
          data = readBytes staging.logicalSize.toNat
            (((consumerEffects effect).after initial log₁).contents staging.memoryObject)))
      ((consumerEffects effect).Unchanged initial log₁) :=
    Vulkan.ends_mappedRead (driver.contents call)
  refine hread.weaken (fun data log₂ _ h => ?_) fun _ _ _ => trivial
  obtain ⟨hunchanged, -, hdata⟩ := h
  refine ⟨hlog.trans hunchanged, fun hhonest => ?_⟩
  rw [← hlog.2]
  exact hdata hhonest

variable (effect initial) in
theorem ends_readBuffer {index : ℕ} {buffer : Vulkan.VulkanBuffer}
    (hbuffer : (consumerEffects effect).Bound initial log buffer) :
    (readBuffer driver context index buffer).Ends log
      (fun data log' => (consumerEffects effect).Frame initial [] log log' ∧
        ((consumerEffects effect).HonestLog initial log' →
          data = readBytes buffer.logicalSize.toNat
            (((consumerEffects effect).after initial log).contents buffer.memoryObject)))
      fun _ => True := by
  refine ends_withStaging effect initial (fun staging log₁ h₁ hstaging => ?_)
    fun data log₃ log₄ hgrows hlog h => ?_
  · refine (ends_submit effect initial).bind fun _ log₂ h₂ hcopied => ?_
    refine (ends_readStaging effect initial).weaken (fun data log₃ _ h => ?_) fun _ _ _ => trivial
    obtain ⟨hunchanged, hdata⟩ := h
    have hsource := hbuffer.frame h₁ hstaging.frame
    obtain ⟨hframe, hbytes⟩ := Effects.Copied.single hsource hstaging.isBound hcopied
    have hnew := hstaging.and_written h₂ hframe h₁
    refine ⟨hnew.frame.andUnchanged hunchanged, fun hhonest => ?_⟩
    rw [hdata hhonest, hstaging.logicalSize, hbytes,
      hstaging.frame.contents buffer.memoryObject hbuffer.memory_lt List.not_mem_nil]
  · obtain ⟨hframe, hdata⟩ := h
    exact ⟨hframe.andUnchanged hlog, fun hhonest => hdata (hhonest.restrict hgrows)⟩

/-- What a session returns for a buffer. -/
def readback (contents : Contents) (spec : SharedBufferSpec) (memory : GpuObject) :
    Option (List Byte) :=
  if spec.readback then some (readBytes spec.bytes.toNat (contents memory)) else none

variable (effect initial) in
theorem ends_readStep {readbacks : List (Option (List Byte))}
    {entry : (SharedBufferSpec × Vulkan.VulkanBuffer) × ℕ}
    (hbuffer : (consumerEffects effect).Bound initial log entry.1.2)
    (hsize : entry.1.2.logicalSize = entry.1.1.bytes) :
    (readStep driver context readbacks entry).Ends log
      (fun readbacks' log' => (consumerEffects effect).Frame initial [] log log' ∧
        ((consumerEffects effect).HonestLog initial log' →
          readbacks' = readbacks ++ [readback ((consumerEffects effect).after initial log).contents
            entry.1.1 entry.1.2.memoryObject])) fun _ => True := by
  obtain ⟨⟨spec, buffer⟩, index⟩ := entry
  cases hread : spec.readback with
  | false =>
    simp only [readStep, readback, hread, Bool.false_eq_true, if_false]
    exact .pure ⟨(Effects.Unchanged.refl log).frame, fun _ => rfl⟩
  | true =>
    simp only [readStep, readback, hread, if_true]
    refine (ends_readBuffer effect initial hbuffer).bind fun data log' _ h => .pure ?_
    obtain ⟨hframe, hdata⟩ := h
    refine ⟨hframe, fun hhonest => ?_⟩
    rw [hdata hhonest, hsize]

variable (effect initial) in
theorem ends_readBuffers {specs : List SharedBufferSpec} {buffers : List Vulkan.VulkanBuffer}
    (hbuffers : ∀ pair ∈ specs.zip buffers, (consumerEffects effect).Bound initial log pair.2 ∧
      pair.2.logicalSize = pair.1.bytes) :
    ((specs.zip buffers).zipIdx.foldlM (readStep driver context) []).Ends log
      (fun readbacks log' => (consumerEffects effect).HonestLog initial log' →
        readbacks = List.zipWith (readback ((consumerEffects effect).after initial log).contents)
          specs (buffers.map Vulkan.VulkanBuffer.memoryObject)) fun _ => True := by
  let returned (pair : SharedBufferSpec × Vulkan.VulkanBuffer) : Option (List Byte) :=
    readback ((consumerEffects effect).after initial log).contents pair.1 pair.2.memoryObject
  -- the first buffers are read
  let Inv (k : ℕ) (readbacks : List (Option (List Byte))) (log' : SessionLog) : Prop :=
    log <+: log' ∧ (consumerEffects effect).Frame initial [] log log' ∧
      ((consumerEffects effect).HonestLog initial log' →
        readbacks = ((specs.zip buffers).take k).map returned)
  have hstep (k : ℕ) (hk : k < (specs.zip buffers).zipIdx.length)
      (readbacks : List (Option (List Byte))) (log' : SessionLog) (h : Inv k readbacks log') :
      (readStep driver context readbacks (specs.zip buffers).zipIdx[k]).Ends log' (Inv (k + 1))
        fun _ => True := by
    obtain ⟨hgrows, hframe, hvalues⟩ := h
    rw [List.length_zipIdx] at hk
    have hentry : (specs.zip buffers).zipIdx[k].1 = (specs.zip buffers)[k] := by
      rw [List.getElem_zipIdx]
    obtain ⟨hbound, hsize⟩ := hbuffers _ (List.getElem_mem hk)
    rw [← hentry] at hbound hsize
    refine (ends_readStep effect initial (hbound.frame hgrows hframe) hsize).weaken
      (fun readbacks' log'' hgrows' h' => ?_) fun _ _ h => h
    obtain ⟨hframe', hvalues'⟩ := h'
    have hsame := hframe.contents (specs.zip buffers).zipIdx[k].1.2.memoryObject hbound.memory_lt
      List.not_mem_nil
    refine ⟨hgrows.trans hgrows', hframe.trans hgrows hframe' fun _ hmem =>
      absurd hmem List.not_mem_nil, fun hhonest => ?_⟩
    rw [hvalues' hhonest, hvalues (hhonest.restrict hgrows'), readback, hsame,
      List.take_succ_eq_append_getElem hk, List.map_append, List.map_singleton, ← hentry]
    rfl
  have hstart : Inv 0 [] log := ⟨List.prefix_rfl, (Effects.Unchanged.refl log).frame, fun _ => rfl⟩
  refine (Run.Ends.foldlM_getElem Inv hstep [] hstart).weaken (fun readbacks log' _ h => ?_)
    fun _ _ h => h
  obtain ⟨-, -, hvalues⟩ := h
  intro hhonest
  rw [hvalues hhonest, List.length_zipIdx, List.take_length, List.zipWith_map_right,
    ← List.map_uncurry_zip_eq_zipWith]
  rfl

/-! ### Sessions -/

/-- What the callback is told about the buffer at an index. -/
def sharedAs (driver : Driver) (entry : SharedBufferSpec × ℕ) : ExportedSharedBuffer :=
  ⟨driver.win32Handle (.exportKmtHandle entry.2),
    driver.memorySize (.createSharedBuffer entry.2), entry.1.bytes⟩

/-- What happens to bytes in a session in which the callback has run after the log `front`, on the
given memory: the handles that it is told were exported for this memory, it finds the initial data
there, and what it leaves there is returned. -/
structure Transfers {T : Type} (driver : Driver) (effect : List GpuObject → Contents → Contents)
    (initial : Contents) (specs : List SharedBufferSpec)
    (operation : List ExportedSharedBuffer → Except BackendError T)
    (output : ExportedBufferSessionOutput T) (front : SessionLog) (memories : List GpuObject) :
    Prop where
  distinct : memories.Nodup
  exported : ∀ entry ∈ memories.zipIdx, Exported entry.2 entry.1 front
  uploaded : List.Forall₂ (fun spec memory => ∀ data, spec.initialData = some data →
    readBytes data.length (((consumerEffects effect).after initial front).contents memory) = data)
      specs memories
  value : operation (specs.zipIdx.map (sharedAs driver)) = .ok output.value
  readbacks : output.readbacks = List.zipWith (readback (effect memories
    ((consumerEffects effect).after initial front).contents)) specs memories

/-- When every read in the log has found what the memory held, the callback has run, and the bytes
are transferred. -/
def Transferred {T : Type} (driver : Driver) (effect : List GpuObject → Contents → Contents)
    (initial : Contents) (specs : List SharedBufferSpec)
    (operation : List ExportedSharedBuffer → Except BackendError T)
    (output : ExportedBufferSessionOutput T) (log : SessionLog) : Prop :=
  (consumerEffects effect).HonestLog initial log →
    ∃ front memories, front ++ [.call (.other .operation) memories] <+: log ∧
      Transfers driver effect initial specs operation output front memories

theorem Transferred.extend {T : Type} {specs : List SharedBufferSpec}
    {operation : List ExportedSharedBuffer → Except BackendError T}
    {output : ExportedBufferSessionOutput T}
    (h : Transferred driver effect initial specs operation output log) (hgrows : log <+: log') :
    Transferred driver effect initial specs operation output log' := fun hhonest => by
  obtain ⟨front, memories, hran, htransfers⟩ := h (hhonest.restrict hgrows)
  exact ⟨front, memories, hran.trans hgrows, htransfers⟩

/-- Prepared buffers, in terms of their specifications. -/
theorem Prepared.forall₂ {specs : List SharedBufferSpec} {buffers : List Vulkan.VulkanBuffer}
    (h : Prepared driver effect initial specs specs.length buffers log) :
    List.Forall₂ (fun spec buffer => (consumerEffects effect).Bound initial log buffer ∧
      buffer.logicalSize = spec.bytes ∧
      ∀ data, spec.initialData = some data → Stored effect initial buffer data log) specs buffers :=
    by
  have hready := h.ready
  rw [← List.length_zipIdx (l := specs), List.take_length] at hready
  rw [← List.zipIdx_map_fst 0 specs]
  exact List.forall₂_map_left_iff.2 (hready.imp fun _ _ hbuffer =>
    ⟨hbuffer.bound, hbuffer.logicalSize, hbuffer.stored⟩)

theorem Prepared.exported {specs : List SharedBufferSpec} {buffers : List Vulkan.VulkanBuffer}
    (h : Prepared driver effect initial specs specs.length buffers log) :
    buffers.zipIdx.map (exportedBuffer driver) = specs.zipIdx.map (sharedAs driver) := by
  have hready := h.ready
  rw [← List.length_zipIdx (l := specs), List.take_length] at hready
  have hlength := hready.length_eq
  refine List.ext_getElem (by simp_all) fun i hi hi' => ?_
  simp only [List.length_map, List.length_zipIdx] at hi hi' hlength
  have hbuffer := hready.get (by simpa using hi') hi
  simp only [List.get_eq_getElem, List.getElem_zipIdx, Nat.zero_add] at hbuffer
  simp only [List.getElem_map, List.getElem_zipIdx, Nat.zero_add, exportedBuffer, sharedAs,
    hbuffer.allocationSize, hbuffer.logicalSize]

theorem Prepared.nodup_memories {specs : List SharedBufferSpec}
    {buffers : List Vulkan.VulkanBuffer}
    (h : Prepared driver effect initial specs specs.length buffers log) :
    (buffers.map Vulkan.VulkanBuffer.memoryObject).Nodup := by
  refine List.pairwise_map.2 (h.increasing.imp fun hlt heq => ?_)
  have hserial : Vulkan.GpuObject.serial _ = Vulkan.GpuObject.serial _ :=
    congrArg Vulkan.GpuObject.serial heq
  exact hlt.ne hserial

theorem ends_shareBuffers {T : Type} {specs : List SharedBufferSpec}
    {buffers : List Vulkan.VulkanBuffer}
    {operation : List ExportedSharedBuffer → Except BackendError T}
    (h : Prepared driver effect initial specs specs.length buffers log) :
    (shareBuffers driver context specs buffers operation).Ends log
      (Transferred driver effect initial specs operation) fun _ => True := by
  let memories := buffers.map Vulkan.VulkanBuffer.memoryObject
  refine (ends_exportBuffers effect initial).bind fun exported front hfront h₁ => ?_
  obtain ⟨hunchanged, hexported, hevents⟩ := h₁
  have hoperation : (Run.call (.other .operation) memories : Program Unit).Ends front
      (fun _ log₂ => log₂ = front ++ [.call (.other .operation) memories]) fun _ => True :=
    .record rfl
  refine hoperation.bind fun _ log₂ h₂ hran => ?_
  refine (quiet_reclaimBuffers effect initial).andThen (.refl log₂)
    (fun reclaimError log₃ h₃ hreclaimed => ?_) fun _ _ => trivial
  have hreturn : (Run.lift (operation exported) : Program T).Ends log₃
      (fun value log₄ => log₄ = log₃ ∧ operation exported = .ok value) fun _ => True :=
    .liftM (fun value hvalue => ⟨rfl, hvalue⟩) trivial
  refine hreturn.bind fun value log₄ _ h₄ => ?_
  obtain ⟨rfl, hvalue⟩ := h₄
  subst hran
  cases reclaimError with
  | some error => exact .throw error trivial
  | none =>
    have hafter : (consumerEffects effect).after initial
        (front ++ [.call (.other .operation) memories]) =
          { (consumerEffects effect).after initial front with
            contents := effect memories ((consumerEffects effect).after initial front).contents } :=
      Effects.after_snoc _
    have hspecs := h.forall₂
    have hbound {buffer : Vulkan.VulkanBuffer}
        (hbuffer : (consumerEffects effect).Bound initial log buffer) :
        (consumerEffects effect).Bound initial log₄ buffer := by
      have hgrows : log <+: log₄ := hfront.trans (h₂.trans h₃)
      refine ⟨hbuffer.buffer_lt.trans_le hgrows.length_le,
        hbuffer.memory_lt.trans_le hgrows.length_le, ?_⟩
      rw [hreclaimed.1, hafter, ← hbuffer.bound, ← hunchanged.1]
    have hpairs (pair : SharedBufferSpec × Vulkan.VulkanBuffer) (hpair : pair ∈ specs.zip buffers) :
        (consumerEffects effect).Bound initial log₄ pair.2 ∧
          pair.2.logicalSize = pair.1.bytes := by
      obtain ⟨hbuffer, hsize, -⟩ := List.forall₂_zip hspecs hpair
      exact ⟨hbound hbuffer, hsize⟩
    refine (ends_readBuffers effect initial hpairs).bind fun readbacks log₅ h₅ hread =>
      .pure fun hhonest => ?_
    refine ⟨front, memories, h₃.trans h₅, h.nodup_memories, ?exported, ?uploaded, ?value,
      ?readbacks⟩
    case exported =>
      rw [List.zipIdx_map]
      exact List.forall_mem_map.2 hevents
    case uploaded =>
      refine List.forall₂_map_right_iff.2 (hspecs.imp fun spec buffer hbuffer data hdata => ?_)
      rw [hunchanged.2]
      exact hbuffer.2.2 data hdata
    case value => rw [← h.exported, ← hexported, hvalue]
    case readbacks => rw [hread hhonest, hreclaimed.2, hafter]

/-- Dropping objects after the bytes are transferred. -/
theorem ends_cleanup {T : Type} {specs : List SharedBufferSpec}
    {operation : List ExportedSharedBuffer → Except BackendError T}
    {output : ExportedBufferSessionOutput T} {cleanup : Program Unit}
    (hquiet : (consumerEffects effect).Quiet initial cleanup)
    (h : Transferred driver effect initial specs operation output log) :
    cleanup.Ends log
      (fun _ => Transferred driver effect initial specs operation output)
      (Transferred driver effect initial specs operation output) :=
  (hquiet log).weaken (fun _ _ hgrows _ => h.extend hgrows) fun _ hgrows _ =>
    h.extend hgrows

/-- In a session with an honest driver, the callback finds the initial data in the memory of the
buffers, each in its own, and the session returns what the callback leaves there. -/
theorem withBuffers_transfers {T : Type} (driver : Driver) (setting : Option String)
    (specs : List SharedBufferSpec)
    (operation : List ExportedSharedBuffer → Except BackendError T)
    (effect : List GpuObject → Contents → Contents) (initial : Contents) (log : SessionLog) :
    (withBuffers driver setting specs operation).Ends log
      (Transferred driver effect initial specs operation) fun _ => True := by
  have hignore {α : Type} {x : Program α} (h : (consumerEffects effect).Quiet initial x)
      (log : SessionLog) : x.Ends log (fun _ _ => True) fun _ => True :=
    (h log).weaken (fun _ _ _ _ => trivial) fun _ _ _ => trivial
  have hdropBuffers (buffers : List Vulkan.VulkanBuffer) :
      (consumerEffects effect).Quiet initial (dropBuffers buffers) :=
    .foldlM (fun _ buffer => Vulkan.quiet_dropBuffer buffer) ()
  have hvalidate : (Run.lift (validateSpecs setting specs) : Program Unit).Ends log
      (fun _ _ => validateSpecs setting specs = .ok ()) fun _ => True :=
    .liftM (fun _ h => h) trivial
  refine hvalidate.bind fun _ log₁ _ hvalid => ?_
  refine (hignore (quiet_perform (Vulkan.quiet_createContext _)) log₁).bind
    fun context log₂ _ _ => ?_
  refine Run.Ends.ensure (E := fun _ => True) ?_
    (fun output log₅ _ h => ends_cleanup (Vulkan.quiet_dropContext context) h)
    fun log₅ _ _ => hignore (Vulkan.quiet_dropContext context) log₅
  refine (ends_createBuffers effect initial (sized_of_validateSpecs hvalid)).bind
    fun pushed log₃ _ hpushed => ?_
  obtain ⟨buffers, created⟩ := pushed
  refine Run.Ends.ensure (E := fun _ => True) ?_
    (fun output log₅ _ h => ends_cleanup (hdropBuffers buffers) h)
    fun log₅ _ _ => hignore (hdropBuffers buffers) log₅
  have hcreated : (Run.lift created : Program Unit).Ends log₃
      (fun _ log₄ => log₄ = log₃ ∧ created = .ok ()) fun _ => True :=
    .liftM (fun _ h => ⟨rfl, h⟩) trivial
  refine hcreated.bind fun _ log₄ _ h₄ => ?_
  obtain ⟨rfl, hok⟩ := h₄
  exact ends_shareBuffers (hpushed hok)

/-! ### An honest session -/

/-- A driver with one device, whose reads find the bytes of the callback below. -/
def honestDriver : Driver where
  outcome _ _ := .ok ()
  physicalDevices := .ok [{
    deviceName := ascii "gpu"
    vendorId := Vulkan.amdPciVendorId
    deviceId := 1#32
    apiVersion := 0#32
    deviceType := Vulkan.discreteGpu
    queueFamilies := [⟨1#32, Vulkan.computeFlag⟩]
    extensions := .ok [ascii Vulkan.externalMemoryWin32] }]
  externalMemoryFeatures _ := Vulkan.exportableFlag
  memoryProperties _ := ⟨[Vulkan.deviceLocal, Vulkan.hostVisibleCoherent], by decide⟩
  memoryTypeBits _ := 3#32
  memorySize _ := 16#64
  win32Handle
    | .exportKmtHandle index => BitVec.ofNat 64 (100 + index)
    | _ => 0#64
  contents _ := [4#8, 5#8]

/-- The callback adds one to every byte. -/
def incrementBytes (memories : List GpuObject) (contents : Contents) : Contents :=
  fun memory i => if memory ∈ memories then contents memory i + 1#8 else contents memory i

/-- A buffer with initial data that is read at the end, and one without. -/
def honestSpecs : List SharedBufferSpec := [⟨2#64, some [3#8, 4#8], true⟩, ⟨1#64, none, false⟩]

/-- The callback returns the handles that it is told. -/
def honestOperation (exported : List ExportedSharedBuffer) :
    Except BackendError (List (BitVec 64)) :=
  .ok (exported.map ExportedSharedBuffer.handle)

/-- What the session returns. -/
def honestOutput : ExportedBufferSessionOutput (List (BitVec 64)) where
  value := [100#64, 101#64]
  vulkanDevice := "gpu"
  readbacks := [some [4#8, 5#8], none]

theorem returns_honestOutput :
    ((withBuffers honestDriver none honestSpecs honestOperation).exec []).1 = .ok honestOutput := by
  decide +kernel

theorem honestLog_honestDriver : decide ((consumerEffects incrementBytes).HonestLog (fun _ _ => 0#8)
    ((withBuffers honestDriver none honestSpecs honestOperation).exec []).2) = true := by
  decide +kernel

/-- The session succeeds and its reads are honest, so that its bytes are transferred. -/
theorem withBuffers_transfers_honest :
    ((withBuffers honestDriver none honestSpecs honestOperation).exec []).1 = .ok honestOutput ∧
    ∃ front memories, front ++ [.call (.other .operation) memories] <+:
        ((withBuffers honestDriver none honestSpecs honestOperation).exec []).2 ∧
      Transfers honestDriver incrementBytes (fun _ _ => 0#8) honestSpecs honestOperation
        honestOutput front memories := by
  -- the log stays a variable, because the session is run only where a fact about it is decided
  have htransfers (log : SessionLog)
      (hexec : (withBuffers honestDriver none honestSpecs honestOperation).exec [] =
        (.ok honestOutput, log))
      (hhonest : decide ((consumerEffects incrementBytes).HonestLog (fun _ _ => 0#8) log) = true) :
      ∃ front memories, front ++ [.call (.other .operation) memories] <+: log ∧
        Transfers honestDriver incrementBytes (fun _ _ => 0#8) honestSpecs honestOperation
          honestOutput front memories :=
    (withBuffers_transfers honestDriver none honestSpecs honestOperation incrementBytes
      (fun _ _ => 0#8) []).of_exec hexec (of_decide_eq_true hhonest)
  exact ⟨returns_honestOutput, htransfers _ (by rw [← returns_honestOutput]) honestLog_honestDriver⟩

end RiftGPU.SharedBuffers.Platform
