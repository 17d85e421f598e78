import RiftGPU.Vulkan.Memory

/-!
# What the methods of a context do to memory

## Main results

* `Vulkan.ends_createBuffer`: a new buffer is bound to new memory.
* `Vulkan.ends_writeStaging`, `Vulkan.ends_mappedRead`: access of the host.
* `Vulkan.ends_submitOneTime`: copies between buffers.
-/

namespace RiftGPU.Vulkan

open Bytes Lifetime

variable {K σ : Type} {driver : Driver K} {context : VulkanContext} {purpose : K}
  {effects : Effects σ} {initial : Contents} {log log' log'' : List (Event (Label σ) GpuObject)}

open Effects

/-! ### Calls that leave memory alone -/

/-- The functions that bind memory or make copies. -/
def VkFunction.touchesMemory : VkFunction → Bool
  | bindBufferMemory | queueSubmit => true
  | _ => false

theorem isQuiet_vulkan {function : VkFunction} (h : function.touchesMemory = false)
    (answer : Except String Unit) (uses : List GpuObject) :
    effects.IsQuiet (.call (.vulkan function answer) uses) := by
  intro state
  unfold Effects.next
  split <;> simp_all [VkFunction.touchesMemory, MemoryState.record]

/-- A call that fails binds nothing and copies nothing. -/
theorem isQuiet_failed (function : VkFunction) (error : String) (uses : List GpuObject) :
    effects.IsQuiet (.call (.vulkan function (.error error)) uses) := by
  intro state
  unfold Effects.next
  split <;> simp_all [MemoryState.record]

theorem quiet_query {function : VkFunction} (h : function.touchesMemory = false)
    (uses : List GpuObject) : effects.Quiet initial (query function uses : Vk σ Unit) :=
  .record (isQuiet_vulkan h _ uses)

theorem quiet_attempt {function : VkFunction} (h : function.touchesMemory = false)
    (uses : List GpuObject) (text : String → BackendError) :
    effects.Quiet initial (driver.attempt purpose function uses text : Vk σ Unit) :=
  (Quiet.record (isQuiet_vulkan h _ uses)).bind fun _ => .liftM _

theorem quiet_make {function : VkFunction} (h : function.touchesMemory = false)
    (uses : List GpuObject) (object : ℕ → GpuObject) (text : String → BackendError) :
    effects.Quiet initial (driver.make purpose function uses object text : Vk σ ℕ) :=
  (quiet_attempt h uses text).bind fun _ => .create object

theorem quiet_createContext (exportedNoun : String) :
    effects.Quiet initial (driver.createContext purpose exportedNoun : Vk σ VulkanContext) := by
  refine (quiet_make rfl _ _ _).bind fun loader => .onError ?_ (.destroy _)
  refine (quiet_make rfl _ _ _).bind fun vulkanInstance => ?_
  refine .bind (.onError ((quiet_query rfl _).bind fun _ => .liftM _) (.destroy _))
    fun selection => ?_
  refine (quiet_query rfl _).bind fun _ => ?_
  refine .bind (.onError (.liftM _) (.destroy _)) fun _ => ?_
  refine .bind (.onError (quiet_make rfl _ _ _) (.destroy _)) fun device => ?_
  refine (quiet_query rfl _).bind fun _ => ?_
  refine .bind (.onError (quiet_make rfl _ _ _) ?_) fun commandPool => .pure _
  exact (Quiet.destroy _).bind fun _ => .destroy _

theorem quiet_dropContext (context : VulkanContext) :
    effects.Quiet initial (context.drop : Vk σ Unit) := by
  refine (quiet_query rfl _).bind fun _ => ?_
  refine (Quiet.destroy _).bind fun _ => (Quiet.destroy _).bind fun _ => ?_
  exact (Quiet.destroy _).bind fun _ => .destroy _

theorem quiet_dropBuffer (buffer : VulkanBuffer) :
    effects.Quiet initial (buffer.drop : Vk σ Unit) :=
  (Quiet.destroy _).bind fun _ => .destroy _

/-! ### Single calls -/

/-- The log after a call that succeeds. -/
def Succeeded (function : VkFunction) (uses : List GpuObject)
    (log log' : List (Event (Label σ) GpuObject)) : Prop :=
  log' = log ++ [.call (.vulkan function (.ok ())) uses]

/-- The log after a call that fails. -/
def Failed (function : VkFunction) (uses : List GpuObject)
    (log log' : List (Event (Label σ) GpuObject)) : Prop :=
  ∃ error, log' = log ++ [.call (.vulkan function (.error error)) uses]

theorem ends_attempt {function : VkFunction} {uses : List GpuObject}
    {text : String → BackendError} :
    (driver.attempt purpose function uses text : Vk σ Unit).Ends log
      (fun _ => Succeeded function uses log) (Failed function uses log) := by
  have hrecord : (Run.call (.vulkan function (driver.outcome purpose function)) uses :
      Vk σ Unit).Ends log (fun _ log' =>
        log' = log ++ [.call (.vulkan function (driver.outcome purpose function)) uses])
      (Failed function uses log) := .record rfl
  refine hrecord.bind fun _ log' _ hlog => ?_
  cases hanswer : driver.outcome purpose function with
  | ok value =>
    rw [hanswer] at hlog
    exact .pure hlog
  | error error =>
    rw [hanswer] at hlog
    exact .throw _ ⟨error, hlog⟩

variable (effects initial) in
theorem Failed.unchanged {function : VkFunction} {uses : List GpuObject}
    (h : Failed function uses log log') : effects.Unchanged initial log log' := by
  obtain ⟨error, rfl⟩ := h
  exact (isQuiet_failed function error uses).unchanged

/-- A new object has a serial number that no object had before. -/
theorem ends_make {function : VkFunction} (hquiet : function.touchesMemory = false)
    {uses : List GpuObject} {object : ℕ → GpuObject} {text : String → BackendError} :
    (driver.make purpose function uses object text : Vk σ ℕ).Ends log
      (fun n log' => effects.Unchanged initial log log' ∧ log.length ≤ n ∧ n < log'.length)
      (effects.Unchanged initial log) := by
  refine (quiet_attempt hquiet uses text log).bind fun _ log' hgrows hlog => .create ?_
  refine ⟨hlog.trans ?_, hgrows.length_le, by simp⟩
  exact (Quiet.create (ε := BackendError) object log').discard.2

/-! ### Buffers -/

/-- A buffer of the context that did not exist before, bound to memory that did not. -/
structure Effects.NewBuffer (effects : Effects σ) (initial : Contents) (context : VulkanContext)
    (bytes allocated : BitVec 64) (log : List (Event (Label σ) GpuObject)) (buffer : VulkanBuffer)
    (log' : List (Event (Label σ) GpuObject)) : Prop where
  frame : effects.Frame initial [] log log'
  device : buffer.device = context.device
  logicalSize : buffer.logicalSize = bytes
  allocationSize : buffer.allocationSize = allocated
  le_buffer : log.length ≤ buffer.buffer
  le_memory : log.length ≤ buffer.memory
  buffer_lt : buffer.buffer < log'.length
  memory_lt : buffer.memory < log'.length
  bound : (effects.after initial log').bound buffer.bufferObject = buffer.memoryObject

namespace Effects.NewBuffer

variable {bytes allocated : BitVec 64} {buffer : VulkanBuffer}

theorem after_unchanged (h : effects.NewBuffer initial context bytes allocated log' buffer log'')
    (hgrows : log <+: log') (hlog : effects.Unchanged initial log log') :
    effects.NewBuffer initial context bytes allocated log buffer log'' :=
  { h with
    frame := hlog.frame.trans hgrows h.frame fun _ hmem => absurd hmem List.not_mem_nil
    le_buffer := hgrows.length_le.trans h.le_buffer
    le_memory := hgrows.length_le.trans h.le_memory }

theorem and_unchanged (h : effects.NewBuffer initial context bytes allocated log buffer log')
    (hgrows : log' <+: log'') (hlog : effects.Unchanged initial log' log'') :
    effects.NewBuffer initial context bytes allocated log buffer log'' :=
  { h with
    frame := h.frame.andUnchanged hlog
    buffer_lt := h.buffer_lt.trans_le hgrows.length_le
    memory_lt := h.memory_lt.trans_le hgrows.length_le
    bound := by rw [hlog.1, h.bound] }

end Effects.NewBuffer

/-- The memory of a new buffer is written. -/
theorem Effects.NewBuffer.and_written {bytes allocated : BitVec 64} {buffer : VulkanBuffer}
    (h : effects.NewBuffer initial context bytes allocated log buffer log')
    (hgrows : log' <+: log'') (hwritten : effects.Frame initial [buffer.memoryObject] log' log'')
    (hlog : log <+: log') : effects.NewBuffer initial context bytes allocated log buffer log'' :=
  { h with
    frame := h.frame.trans hlog hwritten fun object hmem hlt => by
      rw [List.mem_singleton.1 hmem] at hlt
      exact absurd hlt h.le_memory.not_gt
    buffer_lt := h.buffer_lt.trans_le hgrows.length_le
    memory_lt := h.memory_lt.trans_le hgrows.length_le
    bound := (hwritten.bound buffer.bufferObject h.buffer_lt).trans h.bound }

/-- The buffer is bound to its memory, and both existed before. -/
structure Effects.Bound (effects : Effects σ) (initial : Contents)
    (log : List (Event (Label σ) GpuObject)) (buffer : VulkanBuffer) : Prop where
  buffer_lt : buffer.buffer < log.length
  memory_lt : buffer.memory < log.length
  bound : (effects.after initial log).bound buffer.bufferObject = buffer.memoryObject

theorem Effects.NewBuffer.isBound {bytes allocated : BitVec 64} {buffer : VulkanBuffer}
    (h : effects.NewBuffer initial context bytes allocated log buffer log') :
    effects.Bound initial log' buffer :=
  ⟨h.buffer_lt, h.memory_lt, h.bound⟩

theorem Effects.Bound.frame {buffer : VulkanBuffer} {written : List GpuObject}
    (h : effects.Bound initial log buffer) (hgrows : log <+: log')
    (hframe : effects.Frame initial written log log') : effects.Bound initial log' buffer :=
  ⟨h.buffer_lt.trans_le hgrows.length_le, h.memory_lt.trans_le hgrows.length_le,
    (hframe.bound buffer.bufferObject h.buffer_lt).trans h.bound⟩

theorem after_bindBufferMemory (device buffer memory : GpuObject) :
    effects.after initial
        (log ++ [.call (.vulkan .bindBufferMemory (.ok ())) [device, buffer, memory]]) =
      (effects.after initial log).bind buffer memory :=
  after_snoc _

/-- A buffer that did not exist before is bound. -/
theorem frame_bind (device buffer memory : GpuObject) (hle : log.length ≤ buffer.serial)
    (h : effects.Unchanged initial log log') : effects.Frame initial [] log
      (log' ++ [.call (.vulkan .bindBufferMemory (.ok ())) [device, buffer, memory]]) := by
  refine ⟨fun object hobject => ?_, fun object _ _ => ?_⟩
  · have hne : object ≠ buffer := fun heq => by
      rw [heq] at hobject
      exact absurd hobject hle.not_gt
    rw [after_bindBufferMemory, MemoryState.bound_bind, Function.update_of_ne hne, h.1]
  · rw [after_bindBufferMemory, MemoryState.contents_bind, h.2]

theorem ends_bindMemory {kind : BufferKind} {bytes : BitVec 64} {buffer : ℕ}
    (hle : log.length ≤ buffer) (hlog : effects.Unchanged initial log log')
    (hgrows : log <+: log') (hlt : buffer < log'.length) :
    (driver.bindMemory context purpose kind bytes buffer : Vk σ VulkanBuffer).Ends log'
      (effects.NewBuffer initial context bytes (driver.memorySize purpose) log)
      (effects.Frame initial [] log) := by
  have herror (log'' : List (Event (Label σ) GpuObject))
      (h : effects.Unchanged initial log log'') : effects.Frame initial [] log log'' := h.frame
  have hlookup : effects.Quiet initial (Run.onError (Run.lift
      ((findMemoryType (driver.memoryProperties context.physicalDevice)
        (driver.memoryTypeBits purpose) kind.required).okOr (.unsupported kind.noMemoryType)))
      (Run.destroy (.buffer context.device.object buffer)) : Vk σ ℕ) :=
    .onError (.liftM _) (.destroy _)
  refine (quiet_query rfl _).andThen hlog (fun _ log₁ h₁ hlog₁ => ?_) herror
  refine (quiet_query rfl _).andThen hlog₁ (fun _ log₂ h₂ hlog₂ => ?_) herror
  refine hlookup.andThen hlog₂ (fun _ log₃ h₃ hlog₃ => ?_) herror
  have hgrows₃ : log <+: log₃ := hgrows.trans (h₁.trans (h₂.trans h₃))
  have hlt₃ : buffer < log₃.length :=
    hlt.trans_le (h₁.trans (h₂.trans h₃)).length_le
  have hallocate : (Run.onError (driver.make purpose .allocateMemory
      [context.device.object, .buffer context.device.object buffer]
      (.deviceMemory context.device.object) fun error => .internal (kind.allocateText ++ error))
      (Run.destroy (.buffer context.device.object buffer)) : Vk σ ℕ).Ends log₃
      (fun memory log₄ => effects.Unchanged initial log log₄ ∧ log.length ≤ memory ∧
        memory < log₄.length) (effects.Frame initial [] log) := by
    refine Run.Ends.onError ((ends_make rfl).weaken
      (fun memory log₄ _ h => ⟨hlog₃.trans h.1, hgrows₃.length_le.trans h.2.1, h.2.2⟩)
      fun log₄ _ h => hlog₃.trans h) fun log₄ _ h => ?_
    exact ((Quiet.destroy _) log₄).weaken (fun _ _ _ h' => (h.trans h').frame)
      fun _ _ h' => (h.trans h').frame
  refine hallocate.bind fun memory log₄ h₄ hmemory => ?_
  obtain ⟨hlog₄, hle₄, hlt₄⟩ := hmemory
  have hframe := frame_bind context.device.object (.buffer context.device.object buffer)
    (.deviceMemory context.device.object memory) hle hlog₄
  refine Run.Ends.bind (Run.Ends.onError ends_attempt fun log₅ h₅ hfailed => ?_)
    fun _ log₅ h₅ hbound => .pure ?_
  · -- the buffer is not bound
    have hlog₅ := hlog₄.trans (hfailed.unchanged effects initial)
    exact (((Quiet.destroy _).bind fun _ => .destroy _) _).weaken
      (fun _ _ _ h => (hlog₅.trans h).frame) fun _ _ h => (hlog₅.trans h).frame
  · obtain rfl := hbound
    refine ⟨hframe, rfl, rfl, rfl, hle, hle₄, ?_, hlt₄.trans_le h₅.length_le, ?_⟩
    · exact hlt₃.trans_le (h₄.trans h₅).length_le
    · rw [after_bindBufferMemory]
      exact Function.update_self ..

theorem ends_createBuffer {kind : BufferKind} {bytes : BitVec 64} :
    (driver.createBuffer context purpose kind bytes : Vk σ VulkanBuffer).Ends log
      (effects.NewBuffer initial context bytes (driver.memorySize purpose) log)
      (effects.Frame initial [] log) := by
  refine (Run.Ends.weaken (ends_make rfl) (fun _ _ _ h => h) fun _ _ h => h.frame).bind
    fun buffer log' hgrows hbuffer => ?_
  obtain ⟨hlog, hle, hlt⟩ := hbuffer
  exact ends_bindMemory hle hlog hgrows hlt

/-! ### Access of the host -/

/-- The host has written to memory. -/
def Effects.Wrote (effects : Effects σ) (initial : Contents) (memory : GpuObject)
    (data : List Byte) (log log' : List (Event (Label σ) GpuObject)) : Prop :=
  (effects.after initial log').bound = (effects.after initial log).bound ∧
    (effects.after initial log').contents = Function.update (effects.after initial log).contents
      memory (writeBytes data ((effects.after initial log).contents memory))

theorem Effects.Wrote.frame {memory : GpuObject} {data : List Byte}
    (h : effects.Wrote initial memory data log log') : effects.Frame initial [memory] log log' :=
  ⟨fun _ _ => by rw [h.1], fun object _ hne => by
    rw [h.2, Function.update_of_ne (List.ne_of_not_mem_cons hne)]⟩

theorem Effects.Wrote.contents {memory : GpuObject} {data : List Byte}
    (h : effects.Wrote initial memory data log log') :
    (effects.after initial log').contents memory =
      writeBytes data ((effects.after initial log).contents memory) := by
  rw [h.2, Function.update_self]

theorem Effects.Wrote.unchanged_trans {memory : GpuObject} {data : List Byte}
    (hlog : effects.Unchanged initial log log') (h : effects.Wrote initial memory data log' log'') :
    effects.Wrote initial memory data log log'' := by
  rw [Wrote, ← hlog.1, ← hlog.2]
  exact h

theorem Effects.Wrote.and_unchanged {memory : GpuObject} {data : List Byte}
    (h : effects.Wrote initial memory data log log') (hlog : effects.Unchanged initial log' log'') :
    effects.Wrote initial memory data log log'' :=
  ⟨hlog.1.trans h.1, hlog.2.trans h.2⟩

theorem ends_writeStaging {staging : VulkanBuffer} {mapText : String} {data : List Byte} :
    (driver.writeStaging context purpose staging mapText data : Vk σ Unit).Ends log
      (fun _ log' => BitVec.ofNat 64 data.length = staging.logicalSize ∧
        effects.Wrote initial staging.memoryObject data log log')
      (effects.Unchanged initial log) := by
  let wrongSize : BackendError := .internal
    (s!"staging write length {data.length} does not match buffer size " ++
      toString staging.logicalSize.toNat)
  have hcheck : (Run.lift (Except.rejectIf (BitVec.ofNat 64 data.length ≠ staging.logicalSize)
      wrongSize) : Vk σ Unit).Ends log (fun _ log₁ => log₁ = log ∧
        BitVec.ofNat 64 data.length = staging.logicalSize) (effects.Unchanged initial log) :=
    .liftM (fun _ h => ⟨rfl, not_not.1 (Except.rejectIf_eq_ok_iff.1 h)⟩) (.refl log)
  refine hcheck.bind fun _ log₁ _ hchecked => ?_
  obtain ⟨rfl, hsize⟩ := hchecked
  refine (ends_make rfl).bind fun n log₂ _ hmapped => ?_
  obtain ⟨hlog₂, -, -⟩ := hmapped
  refine Run.Ends.ensure (Q := fun _ => effects.Wrote initial staging.memoryObject data log₁)
    (E := fun _ => False) (.record ?_) (fun _ log₃ _ h => ?_) fun _ _ h => h.elim
  · have hafter : effects.after initial
        (log₂ ++ [.call (.hostWrite data) [.mapping staging.memoryObject n]]) =
        (effects.after initial log₂).write staging.memoryObject data := after_snoc _
    rw [Wrote, hafter, MemoryState.bound_write, MemoryState.contents_write, hlog₂.1, hlog₂.2]
    exact ⟨rfl, rfl⟩
  · exact (Quiet.destroy _ log₃).weaken (fun _ _ _ h' => ⟨hsize, h.and_unchanged h'⟩)
      fun _ _ h' => ⟨hsize, h.and_unchanged h'⟩

/-- The host reads memory, and returns what it has read. -/
theorem ends_mappedRead {staging : VulkanBuffer} {mapText : String} (bytes : List Byte) :
    (driver.withMapping context purpose staging mapText (fun mapping => do
        Run.call (.hostRead staging.logicalSize bytes) [mapping]
        return bytes) : Vk σ (List Byte)).Ends log
      (fun data log' => effects.Unchanged initial log log' ∧ data = bytes ∧
        (effects.HonestLog initial log' → data = readBytes staging.logicalSize.toNat
          ((effects.after initial log).contents staging.memoryObject)))
      (effects.Unchanged initial log) := by
  -- what is said after the access, and still after the memory is unmapped
  let Read (data : List Byte) (log' : List (Event (Label σ) GpuObject)) : Prop :=
    effects.Unchanged initial log log' ∧ data = bytes ∧
      (effects.HonestLog initial log' → data = readBytes staging.logicalSize.toNat
        ((effects.after initial log).contents staging.memoryObject))
  refine (ends_make rfl).bind fun n log₁ _ hmapped => ?_
  obtain ⟨hlog₁, -, -⟩ := hmapped
  refine Run.Ends.ensure (Q := Read) (E := fun _ => False)
    (Run.Ends.bind (.record ?_) fun _ log₂ _ h => .pure h) (fun data log₂ h₂ h => ?_)
    fun _ _ h => h.elim
  · refine ⟨hlog₁.trans (IsQuiet.unchanged fun _ => ⟨rfl, rfl⟩), rfl, fun hhonest => ?_⟩
    rw [← hlog₁.2]
    exact hhonest.reads
  · have hdone (log₃ : List (Event (Label σ) GpuObject)) (hgrows : log₂ <+: log₃)
        (h' : effects.Unchanged initial log₂ log₃) : Read data log₃ :=
      ⟨h.1.trans h', h.2.1, fun hhonest => h.2.2 (hhonest.restrict hgrows)⟩
    exact (Quiet.destroy _ log₂).weaken (fun _ => hdone) hdone

/-! ### Commands -/

/-- The copy that a command stands for. -/
def Command.copy? : Command → Option BufferCopy
  | pipelineBarrier _ _ => none
  | copyBuffer source destination size => some ⟨source, destination, size⟩

/-- The copies have been made, one after the other. -/
def Effects.Copied (effects : Effects σ) (initial : Contents) (copies : List BufferCopy)
    (log log' : List (Event (Label σ) GpuObject)) : Prop :=
  (effects.after initial log').bound = (effects.after initial log).bound ∧
    (effects.after initial log').contents = copies.foldl
      (BufferCopy.run (effects.after initial log).bound) (effects.after initial log).contents

/-- Copies are recorded in a command buffer. -/
theorem ends_recordCommands {commandBuffer : GpuObject} (commands : List Command)
    (copies : List BufferCopy) (hlog : effects.Unchanged initial log log')
    (hrecorded : (effects.after initial log').recorded commandBuffer = copies) :
    (commands.foldlM (fun _ command => recordCommand commandBuffer command) () : Vk σ Unit).Ends
      log' (fun _ log'' => effects.Unchanged initial log log'' ∧
        (effects.after initial log'').recorded commandBuffer =
          copies ++ commands.filterMap Command.copy?) fun _ => False := by
  induction commands generalizing copies log' with
  | nil => exact .pure ⟨hlog, by rw [hrecorded, List.filterMap_nil, List.append_nil]⟩
  | cons command commands ih =>
    rw [List.foldlM_cons]
    have hrecord : (recordCommand commandBuffer command : Vk σ Unit).Ends log'
        (fun _ log'' => effects.Unchanged initial log log'' ∧
          (effects.after initial log'').recorded commandBuffer = copies ++ command.copy?.toList)
        fun _ => False := by
      refine .record ⟨hlog.trans (isQuiet_vulkan ?_ _ _).unchanged, ?_⟩
      · cases command <;> rfl
      · rw [after_snoc]
        cases command with
        | pipelineBarrier barrier buffer => exact hrecorded.trans (List.append_nil _).symm
        | copyBuffer source destination size =>
          rw [← hrecorded]
          exact MemoryState.recorded_record ..
    refine hrecord.bind fun _ log'' _ h => ?_
    obtain ⟨hlog'', hrecorded''⟩ := h
    have hrest := ih _ hlog'' hrecorded''
    rw [List.append_assoc] at hrest
    have hcons : (command :: commands).filterMap Command.copy? =
        command.copy?.toList ++ commands.filterMap Command.copy? := by
      cases command <;> rfl
    rwa [hcons]

variable (effects initial) in
/-- A function that the state of the memory does not depend on. -/
theorem Succeeded.after_eq {function : VkFunction} {uses : List GpuObject}
    (h : Succeeded function uses log log')
    (hnext : ∀ state, effects.next state (.call (.vulkan function (.ok ())) uses) = state) :
    effects.after initial log' = effects.after initial log := by
  rw [Succeeded] at h
  rw [h, after_snoc, hnext]

theorem ends_submitCommands {commandBuffer : GpuObject} (commands : List Command)
    (hlog : effects.Unchanged initial log log')
    (hempty : (effects.after initial log').recorded commandBuffer = []) :
    (driver.submitCommands context purpose commandBuffer commands : Vk σ Unit).Ends log'
      (fun _ => effects.Copied initial (commands.filterMap Command.copy?) log)
      (fun log'' => effects.Unchanged initial log log'' ∨
        effects.Copied initial (commands.filterMap Command.copy?) log log'') := by
  -- a call that fails before the submission leaves memory as it was
  have hearly {function : VkFunction} {uses : List GpuObject}
      {front back : List (Event (Label σ) GpuObject)} (hfront : effects.Unchanged initial log front)
      (hfailed : Failed function uses front back) : effects.Unchanged initial log back ∨
        effects.Copied initial (commands.filterMap Command.copy?) log back :=
    .inl (hfront.trans (hfailed.unchanged effects initial))
  refine (ends_attempt.weaken (fun _ _ _ h => h) fun _ _ h => hearly hlog h).bind
    fun _ log₁ _ hbegin => ?_
  have hafter₁ := hbegin.after_eq effects initial fun _ => rfl
  have hlog₁ : effects.Unchanged initial log log₁ := by rwa [Unchanged, hafter₁]
  refine ((ends_recordCommands commands [] hlog₁ (by rw [hafter₁, hempty])).weaken
    (fun _ _ _ h => h) fun _ _ h => h.elim).bind fun _ log₂ _ hrecord => ?_
  obtain ⟨hlog₂, hrecorded⟩ := hrecord
  refine (ends_attempt.weaken (fun _ _ _ h => h) fun _ _ h => hearly hlog₂ h).bind
    fun _ log₃ _ hend => ?_
  have hafter₃ := hend.after_eq effects initial fun _ => rfl
  have hlog₃ : effects.Unchanged initial log log₃ := by rwa [Unchanged, hafter₃]
  refine (ends_attempt.weaken (fun _ _ _ h => h) fun _ _ h => hearly hlog₃ h).bind
    fun _ log₄ _ hsubmit => ?_
  have hcopied : effects.Copied initial (commands.filterMap Command.copy?) log log₄ := by
    have hafter₄ : effects.after initial log₄ =
        (effects.after initial log₃).submit commandBuffer := by
      rw [Succeeded] at hsubmit
      rw [hsubmit, after_snoc]
      rfl
    rw [Copied, hafter₄, MemoryState.bound_submit, MemoryState.contents_submit, hafter₃, hrecorded,
      hlog₂.1, hlog₂.2]
    exact ⟨rfl, rfl⟩
  refine ends_attempt.weaken (fun _ log₅ _ hwait => ?_) fun log₅ _ hwait => .inr ?_
  · rwa [Copied, hwait.after_eq effects initial fun _ => rfl]
  · have hlog₅ := hwait.unchanged effects initial
    exact ⟨hlog₅.1.trans hcopied.1, hlog₅.2.trans hcopied.2⟩

theorem Effects.Copied.andUnchanged {copies : List BufferCopy}
    (h : effects.Copied initial copies log log') (h' : effects.Unchanged initial log' log'') :
    effects.Copied initial copies log log'' :=
  ⟨h'.1.trans h.1, h'.2.trans h.2⟩

theorem Effects.Copied.unchanged_trans {copies : List BufferCopy}
    (hlog : effects.Unchanged initial log log') (h : effects.Copied initial copies log' log'') :
    effects.Copied initial copies log log'' := by
  rw [Copied, ← hlog.1, ← hlog.2]
  exact h

/-- A copy between two buffers. -/
theorem Effects.Copied.single {source destination : VulkanBuffer} {size : BitVec 64}
    (hsource : effects.Bound initial log source)
    (hdestination : effects.Bound initial log destination)
    (h : effects.Copied initial [⟨source.bufferObject, destination.bufferObject, size⟩] log log') :
    effects.Frame initial [destination.memoryObject] log log' ∧
      readBytes size.toNat ((effects.after initial log').contents destination.memoryObject) =
        readBytes size.toNat ((effects.after initial log).contents source.memoryObject) := by
  obtain ⟨hbound, hcontents⟩ := h
  rw [List.foldl_cons, List.foldl_nil, BufferCopy.run, hsource.bound, hdestination.bound]
    at hcontents
  refine ⟨⟨fun _ _ => by rw [hbound], fun object _ hne => ?_⟩, ?_⟩
  · rw [hcontents, Function.update_of_ne (List.ne_of_not_mem_cons hne)]
  · rw [hcontents, Function.update_self, readBytes_copyBytes]

theorem ends_submitOneTime (commands : List Command) :
    (driver.submitOneTime context purpose commands : Vk σ Unit).Ends log
      (fun _ => effects.Copied initial (commands.filterMap Command.copy?) log)
      (fun log' => effects.Unchanged initial log log' ∨
        effects.Copied initial (commands.filterMap Command.copy?) log log') := by
  have hallocate : (driver.make purpose .allocateCommandBuffers
      [context.device.object, context.poolObject] (.commandBuffer context.poolObject)
      (fun error => .internal s!"vkAllocateCommandBuffers: {error}") : Vk σ ℕ).Ends log
      (fun n log' => effects.Unchanged initial log log' ∧
        (effects.after initial log').recorded (.commandBuffer context.poolObject n) = [])
      (effects.Unchanged initial log) := by
    refine (quiet_attempt rfl _ _ log).bind fun _ log₁ _ hlog₁ => .create ⟨?_, ?_⟩
    · exact hlog₁.trans (IsQuiet.unchanged fun _ => ⟨rfl, rfl⟩)
    · rw [after_snoc]
      exact MemoryState.recorded_allocate ..
  refine (hallocate.weaken (fun _ _ _ h => h) fun _ _ h => .inl h).bind fun n log₁ _ h₁ => ?_
  obtain ⟨hlog₁, hempty⟩ := h₁
  refine (ends_submitCommands commands hlog₁ hempty).ensure (fun _ log₂ _ h => ?_)
    fun log₂ _ h => ?_
  · exact (Quiet.destroy _ log₂).weaken (fun _ _ _ h' => h.andUnchanged h')
      fun _ _ h' => h.andUnchanged h'
  · have hdone (log₃ : List (Event (Label σ) GpuObject)) (_ : log₂ <+: log₃)
        (h' : effects.Unchanged initial log₂ log₃) : effects.Unchanged initial log log₃ ∨
        effects.Copied initial (commands.filterMap Command.copy?) log log₃ :=
      h.imp (fun h => h.trans h') fun h => h.andUnchanged h'
    exact (Quiet.destroy _ log₂).weaken (fun _ => hdone) hdone

end RiftGPU.Vulkan
