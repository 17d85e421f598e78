import Mathlib.Logic.Function.Basic
import RiftGPU.Lifetime.Monitor
import RiftGPU.Vulkan.Memory

/-!
# Who owns memory

A barrier transfers the ownership of a buffer between two queue families, or between a family and
whoever uses the buffer outside of Vulkan. It is recorded in a command buffer, and takes effect when
the command buffer is submitted. The owner of a memory after a log is therefore what the barriers
say that were executed. From the owners it follows which commands may be executed, which handles may
be exported and what a consumer outside of Vulkan may use.

## Main definitions

* `Vulkan.Holdings`: the owners of memory, with `Vulkan.Holdings.execute` and
  `Vulkan.Holdings.Permits`.
* `Vulkan.OwnershipState`, `Vulkan.ownership`: the owners after a log, and what they allow.
* `Vulkan.RespectsOwners`: the logs in which everything is allowed.

## Main results

* `Vulkan.watched_submitOneTime`: a submission changes the owners as its commands say.
* `Vulkan.watched_createBuffer`, `Vulkan.watched_exportKmtHandle`: other methods of a context.
-/

namespace RiftGPU.Vulkan

open Bytes Lifetime

/-! ### Owners -/

/-- The memory that the buffers are bound to, the owner of each memory, and of which memory a handle
has been exported. -/
structure Holdings where
  bound : GpuObject → GpuObject
  owner : GpuObject → QueueFamilyIndex
  exported : GpuObject → Bool

namespace Holdings

variable (holdings : Holdings)

/-- A buffer stands for the memory that it is bound to. -/
def bind (buffer memory : GpuObject) : Holdings :=
  { holdings with bound := Function.update holdings.bound buffer memory }

/-- A handle of the memory has been given away. -/
def exportHandle (memory : GpuObject) : Holdings :=
  { holdings with exported := Function.update holdings.exported memory true }

/-- The owners after a command. -/
def execute : Command → Holdings
  | .pipelineBarrier barrier buffer =>
    let memory := holdings.bound buffer
    { holdings with owner := Function.update holdings.owner memory barrier.dstQueueFamilyIndex }
  | .copyBuffer _ _ _ => holdings

/-- What a queue of the family may execute. A barrier names the owner of the buffer as the source,
and its family is that of the queue before or after it. A copy is between two buffers that belong to
the family. -/
def Permits (family : QueueFamilyIndex) : Command → Prop
  | .pipelineBarrier barrier buffer =>
    holdings.owner (holdings.bound buffer) = barrier.srcQueueFamilyIndex ∧
      (barrier.srcQueueFamilyIndex = family ∨ barrier.dstQueueFamilyIndex = family)
  | .copyBuffer source destination _ =>
    holdings.owner (holdings.bound source) = family ∧
      holdings.owner (holdings.bound destination) = family

/-- All memory belongs to the family. -/
def AllOwned (family : QueueFamilyIndex) : Prop := ∀ memory, holdings.owner memory = family

end Holdings

/-- The commands that are executed one after the other. -/
def commandMonitor (family : QueueFamilyIndex) : Monitor Holdings Command where
  next := Holdings.execute
  Allowed holdings command := holdings.Permits family command

/-- The owners, and what is recorded in the command buffers. -/
structure OwnershipState where
  holdings : Holdings
  recorded : GpuObject → List Command

namespace OwnershipState

variable {σ : Type} (state : OwnershipState)

/-- A new command buffer is empty. -/
def allocate (commandBuffer : GpuObject) : OwnershipState :=
  { state with recorded := Function.update state.recorded commandBuffer [] }

/-- One more command in a command buffer. -/
def record (commandBuffer : GpuObject) (command : Command) : OwnershipState :=
  let commands := state.recorded commandBuffer ++ [command]
  { state with recorded := Function.update state.recorded commandBuffer commands }

/-- The recorded commands are executed. -/
def submit (commandBuffer : GpuObject) : OwnershipState :=
  { state with holdings := (state.recorded commandBuffer).foldl Holdings.execute state.holdings }

/-- The state after an event. A call that fails has no effect. -/
def next : Event (Label σ) GpuObject → OwnershipState
  | .create (.commandBuffer pool serial) => state.allocate (.commandBuffer pool serial)
  | .call (.vulkan .bindBufferMemory (.ok ())) [_, buffer, memory] =>
    { state with holdings := state.holdings.bind buffer memory }
  | .call (.vulkan (.cmdPipelineBarrier barrier) _) [commandBuffer, buffer] =>
    state.record commandBuffer (.pipelineBarrier barrier buffer)
  | .call (.vulkan (.cmdCopyBuffer size) _) [commandBuffer, source, destination] =>
    state.record commandBuffer (.copyBuffer source destination size)
  | .call (.vulkan .queueSubmit (.ok ())) [_, commandBuffer] => state.submit commandBuffer
  | .call (.vulkan .getMemoryWin32Handle (.ok ())) [_, memory] =>
    { state with holdings := state.holdings.exportHandle memory }
  | _ => state

/-- The events that the owners allow. The commands of a submission are permitted one after the
other, a handle is exported of memory that was handed over, and a consumer outside of Vulkan uses
memory that was handed over and of which it has a handle. -/
def Allows (family : QueueFamilyIndex) (consumes : σ → Prop) :
    Event (Label σ) GpuObject → Prop
  | .call (.vulkan .queueSubmit _) [_, commandBuffer] =>
    (commandMonitor family).Allows state.holdings (state.recorded commandBuffer)
  | .call (.vulkan .getMemoryWin32Handle _) [_, memory] => state.holdings.owner memory = .external
  | .call (.other event) uses => consumes event → ∀ memory ∈ uses,
      state.holdings.owner memory = .external ∧ state.holdings.exported memory = true
  | _ => True

/-- At the start no buffer is bound and no handle exported. Memory belongs to the first family that
uses it, which is the one whose queue a context has. -/
def start (family : QueueFamilyIndex) : OwnershipState where
  holdings := { bound := id, owner := fun _ => family, exported := fun _ => false }
  recorded := fun _ => []

@[simp] theorem holdings_allocate (commandBuffer : GpuObject) :
    (state.allocate commandBuffer).holdings = state.holdings := rfl

@[simp] theorem recorded_allocate (commandBuffer : GpuObject) :
    (state.allocate commandBuffer).recorded commandBuffer = [] :=
  Function.update_self ..

@[simp] theorem holdings_record (commandBuffer : GpuObject) (command : Command) :
    (state.record commandBuffer command).holdings = state.holdings := rfl

@[simp] theorem recorded_record (commandBuffer : GpuObject) (command : Command) :
    (state.record commandBuffer command).recorded commandBuffer =
      state.recorded commandBuffer ++ [command] :=
  Function.update_self ..

end OwnershipState

variable {K σ ε α : Type} {driver : Driver K} {context : VulkanContext} {purpose : K}
  {family : QueueFamilyIndex} {consumes : σ → Prop}

/-- The owners after events, and the events that they allow, where the program uses queues of the
family, and some of its own events stand for what is done outside of Vulkan. -/
def ownership (family : QueueFamilyIndex) (consumes : σ → Prop) :
    Monitor OwnershipState (Event (Label σ) GpuObject) where
  next := OwnershipState.next
  Allowed state event := state.Allows family consumes event

/-- The state after a log. -/
def ownershipAfter (family : QueueFamilyIndex) (log : List (Event (Label σ) GpuObject)) :
    OwnershipState :=
  log.foldl OwnershipState.next (.start family)

/-- Every event is allowed by the owners at that time. -/
def RespectsOwners (family : QueueFamilyIndex) (consumes : σ → Prop)
    (log : List (Event (Label σ) GpuObject)) : Prop :=
  ∀ front event back, log = front ++ event :: back →
    (ownershipAfter family front).Allows family consumes event

/-! ### What the buffers are bound to -/

/-- Commands bind nothing. -/
theorem Holdings.bound_foldl_execute (commands : List Command) (holdings : Holdings) :
    (commands.foldl execute holdings).bound = holdings.bound := by
  induction commands generalizing holdings with
  | nil => rfl
  | cons command commands ih =>
    rw [List.foldl_cons, ih]
    cases command <;> rfl

/-- An event binds the same buffers here as in the memory. -/
theorem OwnershipState.bound_next (effects : Effects σ) {state : OwnershipState}
    {memory : MemoryState} (h : state.holdings.bound = memory.bound)
    (event : Event (Label σ) GpuObject) :
    (state.next event).holdings.bound = (effects.next memory event).bound := by
  have hsubmit (commandBuffer : GpuObject) :
      (state.submit commandBuffer).holdings.bound = memory.bound :=
    (Holdings.bound_foldl_execute _ _).trans h
  unfold OwnershipState.next Effects.next
  split <;> split <;> simp_all [Holdings.bind, Holdings.exportHandle]

theorem bound_ownershipAfter (effects : Effects σ) (initial : Contents)
    (log : List (Event (Label σ) GpuObject)) :
    (ownershipAfter family log).holdings.bound = (effects.after initial log).bound := by
  induction log using List.reverseRecOn with
  | nil => rfl
  | append_singleton log event ih =>
    rw [Effects.after_snoc, ownershipAfter, List.foldl_concat]
    exact OwnershipState.bound_next effects ih event

/-! ### Calls that leave the owners alone -/

/-- The programs that keep a property of the state, however they end. -/
abbrev KeepsState (family : QueueFamilyIndex) (consumes : σ → Prop) (R : OwnershipState → Prop)
    (x : Run (Label σ) GpuObject ε α) : Prop :=
  (ownership family consumes).Watched R x (fun _ => R) R

variable {R : OwnershipState → Prop}

/-- An event that neither changes the owners nor depends on them. -/
theorem keepsState_record {event : Event (Label σ) GpuObject}
    (hnext : ∀ state : OwnershipState, state.next event = state)
    (hallows : ∀ state : OwnershipState, state.Allows family consumes event) :
    KeepsState family consumes R (Run.record event : Run (Label σ) GpuObject ε Unit) := by
  refine .record fun state hstate => ⟨hallows state, ?_⟩
  change R (state.next event)
  rwa [hnext]

theorem keepsState_destroy (object : GpuObject) :
    KeepsState family consumes R (Run.destroy object : Run (Label σ) GpuObject ε Unit) :=
  keepsState_record (fun _ => rfl) fun _ => trivial

/-- Only a new command buffer changes the state. -/
theorem keepsState_create {make : ℕ → GpuObject}
    (hmake : ∀ n pool serial, make n ≠ .commandBuffer pool serial) :
    KeepsState family consumes R (Run.create make : Run (Label σ) GpuObject ε ℕ) := by
  refine .create fun n state hstate => ⟨trivial, ?_⟩
  have hnext : state.next (Event.create (make n) : Event (Label σ) GpuObject) = state := by
    cases hobject : make n with
    | commandBuffer pool serial => exact absurd hobject (hmake n pool serial)
    | _ => rfl
  change R (state.next (.create (make n)))
  rwa [hnext]

/-- The functions that the state does not depend on. -/
def VkFunction.isNeutral : VkFunction → Bool
  | bindBufferMemory | cmdPipelineBarrier _ | cmdCopyBuffer _ | queueSubmit => false
  | getMemoryWin32Handle => false
  | _ => true

theorem next_of_isNeutral {function : VkFunction} (h : function.isNeutral)
    (answer : Except String Unit) (uses : List GpuObject) (state : OwnershipState) :
    state.next (.call (.vulkan function answer) uses : Event (Label σ) GpuObject) = state := by
  cases function <;> first | rfl | cases h

theorem allows_of_isNeutral {function : VkFunction} (h : function.isNeutral)
    (answer : Except String Unit) (uses : List GpuObject) (state : OwnershipState) :
    state.Allows family consumes (.call (.vulkan function answer) uses) := by
  cases function <;> trivial

theorem keepsState_query {function : VkFunction} (h : function.isNeutral)
    (uses : List GpuObject) :
    KeepsState family consumes R (query function uses : Vk σ Unit) :=
  keepsState_record (next_of_isNeutral h _ uses) (allows_of_isNeutral h _ uses)

theorem keepsState_attempt {function : VkFunction} (h : function.isNeutral)
    (uses : List GpuObject) (text : String → BackendError) :
    KeepsState family consumes R (driver.attempt purpose function uses text : Vk σ Unit) :=
  (keepsState_record (next_of_isNeutral h _ uses) (allows_of_isNeutral h _ uses)).bind
    fun _ => .liftM _

theorem keepsState_make {function : VkFunction} (h : function.isNeutral) (uses : List GpuObject)
    {object : ℕ → GpuObject} (text : String → BackendError)
    (hobject : ∀ n pool serial, object n ≠ .commandBuffer pool serial) :
    KeepsState family consumes R (driver.make purpose function uses object text : Vk σ ℕ) :=
  (keepsState_attempt h uses text).bind fun _ => keepsState_create hobject

theorem keepsState_createContext (exportedNoun : String) :
    KeepsState family consumes R
      (driver.createContext purpose exportedNoun : Vk σ VulkanContext) := by
  have hdestroy (object : GpuObject) : KeepsState family consumes R
      (Run.destroy object : Vk σ Unit) := keepsState_destroy object
  refine (keepsState_make rfl _ _ (by nofun)).bind fun loader => ?_
  refine Monitor.Watched.onError ?_ (hdestroy _)
  refine (keepsState_make rfl _ _ (by nofun)).bind fun vulkanInstance => ?_
  refine Monitor.Watched.bind (((keepsState_query rfl _).bind fun _ => .liftM _).onError
    (hdestroy _)) fun selection => ?_
  refine (keepsState_query rfl _).bind fun _ => ?_
  refine Monitor.Watched.bind ((Monitor.Watched.liftM _).onError (hdestroy _)) fun _ => ?_
  refine Monitor.Watched.bind ((keepsState_make rfl _ _ (by nofun)).onError (hdestroy _))
    fun device => ?_
  refine (keepsState_query rfl _).bind fun _ => ?_
  -- without a command pool the device goes before the instance
  have hrelease (device vulkanInstance : GpuObject) : KeepsState family consumes R
      (do Run.destroy device; Run.destroy vulkanInstance : Vk σ Unit) :=
    (hdestroy device).bind fun _ => hdestroy vulkanInstance
  exact Monitor.Watched.bind ((keepsState_make rfl _ _ (by nofun)).onError (hrelease _ _))
    fun commandPool => .pure fun _ h => h

theorem keepsState_dropContext (context : VulkanContext) :
    KeepsState family consumes R (context.drop : Vk σ Unit) := by
  have hdestroy (object : GpuObject) : KeepsState family consumes R
      (Run.destroy object : Vk σ Unit) := keepsState_destroy object
  refine (keepsState_query rfl _).bind fun _ => ?_
  refine (hdestroy _).bind fun _ => ?_
  refine (hdestroy _).bind fun _ => ?_
  exact (hdestroy _).bind fun _ => hdestroy _

theorem keepsState_dropBuffer (buffer : VulkanBuffer) :
    KeepsState family consumes R (buffer.drop : Vk σ Unit) :=
  (keepsState_destroy _).bind fun _ => keepsState_destroy _

theorem keepsState_withMapping {staging : VulkanBuffer} {mapText : String}
    {access : GpuObject → Vk σ α}
    (haccess : ∀ mapping, KeepsState family consumes R (access mapping)) :
    KeepsState family consumes R
      (driver.withMapping context purpose staging mapText access : Vk σ α) :=
  (keepsState_make rfl _ _ (by nofun)).bind fun mapping =>
    (haccess _).ensure (fun _ => keepsState_destroy _) (keepsState_destroy _)

theorem keepsState_writeStaging {staging : VulkanBuffer} {mapText : String} {data : List Byte} :
    KeepsState family consumes R
      (driver.writeStaging context purpose staging mapText data : Vk σ Unit) :=
  (Monitor.Watched.liftM _).bind fun _ => keepsState_withMapping fun _ =>
    keepsState_record (fun _ => rfl) fun _ => trivial

theorem keepsState_readStaging {staging : VulkanBuffer} {mapText : String} :
    KeepsState family consumes R
      (driver.readStaging context purpose staging mapText : Vk σ (List Byte)) :=
  keepsState_withMapping fun _ =>
    Monitor.Watched.bind (keepsState_record (fun _ => rfl) fun _ => trivial)
      fun _ => .pure fun _ h => h

/-! ### Calls that change the owners -/

variable {P Q E : Holdings → Prop}

/-- A function that fails leaves the owners alone. One that succeeds changes them as the event
says. -/
theorem watched_attempt {function : VkFunction} {uses : List GpuObject}
    {text : String → BackendError} {R' F : OwnershipState → Prop}
    (hallows : ∀ (answer : Except String Unit) (state : OwnershipState), R state →
      state.Allows family consumes (.call (.vulkan function answer) uses))
    (hok : ∀ state : OwnershipState, R state →
      R' (state.next (.call (.vulkan function (.ok ())) uses : Event (Label σ) GpuObject)))
    (herror : ∀ (error : String) (state : OwnershipState), R state →
      F (state.next (.call (.vulkan function (.error error)) uses : Event (Label σ) GpuObject))) :
    (ownership family consumes).Watched R
      (driver.attempt purpose function uses text : Vk σ Unit) (fun _ => R') F := by
  rw [Driver.attempt]
  cases driver.outcome purpose function with
  | ok value =>
    exact Monitor.Watched.bind (.record fun state hstate =>
      ⟨hallows _ state hstate, hok state hstate⟩) fun _ => .pure fun _ h => h
  | error error =>
    exact Monitor.Watched.bind (.record fun state hstate =>
      ⟨hallows _ state hstate, herror error state hstate⟩) fun _ => .throw _ fun _ h => h

/-- A new buffer is bound to memory, of which the owner stays the same. -/
theorem watched_createBuffer {kind : BufferKind} {bytes : BitVec 64}
    (hbind : ∀ holdings buffer memory, P holdings → P (holdings.bind buffer memory)) :
    KeepsState family consumes (fun state => P state.holdings)
      (driver.createBuffer context purpose kind bytes : Vk σ VulkanBuffer) := by
  have hdestroy (object : GpuObject) : KeepsState family consumes
      (fun state => P state.holdings) (Run.destroy object : Vk σ Unit) := keepsState_destroy object
  refine (keepsState_make rfl _ _ (by nofun)).bind fun buffer => ?_
  refine (keepsState_query rfl _).bind fun _ => (keepsState_query rfl _).bind fun _ => ?_
  refine Monitor.Watched.bind ((Monitor.Watched.liftM _).onError (hdestroy _)) fun _ => ?_
  refine Monitor.Watched.bind ((keepsState_make rfl _ _ (by nofun)).onError (hdestroy _))
    fun memory => ?_
  have hbound : KeepsState family consumes (fun state => P state.holdings)
      (driver.attempt purpose .bindBufferMemory [context.device.object,
        .buffer context.device.object buffer, .deviceMemory context.device.object memory]
        fun error => .internal (kind.bindText ++ error) : Vk σ Unit) :=
    watched_attempt (fun _ _ _ => trivial) (fun state hstate => hbind state.holdings _ _ hstate)
      fun _ _ hstate => hstate
  exact Monitor.Watched.bind (hbound.onError ((hdestroy _).bind fun _ => hdestroy _))
    fun _ => .pure fun _ h => h

/-- A handle is exported of memory that was handed over. -/
theorem watched_exportKmtHandle {shared : VulkanBuffer}
    (hexternal : ∀ holdings, P holdings → holdings.owner shared.memoryObject = .external)
    (hexport : ∀ holdings, P holdings → Q (holdings.exportHandle shared.memoryObject))
    (herror : ∀ holdings, P holdings → E holdings) :
    (ownership family consumes).Watched (fun state => P state.holdings)
      (driver.exportKmtHandle context purpose shared : Vk σ (BitVec 64))
      (fun _ state => Q state.holdings) fun state => E state.holdings := by
  have hexported : (ownership family consumes).Watched (fun state => P state.holdings)
      (driver.attempt purpose .getMemoryWin32Handle
        [context.device.object, shared.memoryObject]
        fun error => .internal s!"vkGetMemoryWin32HandleKHR: {error}" : Vk σ Unit)
      (fun _ state => Q state.holdings) fun state => E state.holdings :=
    watched_attempt (fun _ state hstate => hexternal state.holdings hstate)
      (fun state hstate => hexport state.holdings hstate)
      fun _ state hstate => herror state.holdings hstate
  exact hexported.bind fun _ => .pure fun _ h => h

/-! ### Submissions -/

/-- The owners satisfy a property, and the commands are recorded. -/
def OwnershipState.HasRecorded (P : Holdings → Prop) (commandBuffer : GpuObject)
    (commands : List Command) (state : OwnershipState) : Prop :=
  P state.holdings ∧ state.recorded commandBuffer = commands

open OwnershipState (HasRecorded)

/-- Commands are recorded behind others. -/
theorem watched_recordCommands {commandBuffer : GpuObject} {F : OwnershipState → Prop}
    (commands front : List Command) :
    (ownership family consumes).Watched (HasRecorded P commandBuffer front)
      (commands.foldlM (fun _ command => recordCommand commandBuffer command) () : Vk σ Unit)
      (fun _ => HasRecorded P commandBuffer (front ++ commands)) F := by
  induction commands generalizing front with
  | nil =>
    rw [List.append_nil]
    exact .pure fun _ h => h
  | cons command commands ih =>
    have hrest := ih (front ++ [command])
    rw [List.append_assoc, List.singleton_append] at hrest
    have hrecord : (ownership family consumes).Watched (HasRecorded P commandBuffer front)
        (recordCommand commandBuffer command : Vk σ Unit)
        (fun _ => HasRecorded P commandBuffer (front ++ [command])) F := by
      refine .record fun state hstate => ⟨?_, ?_⟩
      · cases command <;> trivial
      · have hnext : state.next (.call (.vulkan command.function (.ok ()))
            (commandBuffer :: command.buffers) : Event (Label σ) GpuObject) =
              state.record commandBuffer command := by
          cases command <;> rfl
        change HasRecorded P commandBuffer _ (state.next _)
        rw [hnext]
        exact ⟨hstate.1, by rw [OwnershipState.recorded_record, hstate.2]⟩
    rw [List.foldlM_cons]
    exact hrecord.bind fun _ => hrest

/-- **A submission** is allowed when its commands are permitted one after the other, and changes the
owners as they say. It may also fail before its commands are executed. -/
theorem watched_submitOneTime (commands : List Command)
    (hpermitted : ∀ holdings, P holdings → (commandMonitor family).Allows holdings commands)
    (hexecuted : ∀ holdings, P holdings → Q (commands.foldl Holdings.execute holdings))
    (hbefore : ∀ holdings, P holdings → E holdings)
    (hafter : ∀ holdings, Q holdings → E holdings) :
    (ownership family consumes).Watched (fun state => P state.holdings)
      (driver.submitOneTime context purpose commands : Vk σ Unit)
      (fun _ state => Q state.holdings) fun state => E state.holdings := by
  have hallocate : (ownership family consumes).Watched (fun state => P state.holdings)
      (driver.make purpose .allocateCommandBuffers [context.device.object, context.poolObject]
        (.commandBuffer context.poolObject)
        (fun error => .internal s!"vkAllocateCommandBuffers: {error}") : Vk σ ℕ)
      (fun serial => HasRecorded P (.commandBuffer context.poolObject serial) [])
      fun state => E state.holdings := by
    refine Monitor.Watched.bind ((keepsState_attempt rfl _ _).weaken (fun _ h => h)
      (fun _ _ h => h) fun state h => hbefore state.holdings h) fun _ => ?_
    exact .create fun serial state hstate =>
      ⟨trivial, hstate, OwnershipState.recorded_allocate state _⟩
  refine hallocate.bind fun serial => ?_
  -- what is done while the command buffer exists
  have hsubmitted (commandBuffer : GpuObject) : (ownership family consumes).Watched
      (HasRecorded P commandBuffer [])
      (driver.submitCommands context purpose commandBuffer commands : Vk σ Unit)
      (fun _ state => Q state.holdings) fun state => E state.holdings := by
    have hkept (front : List Command) (state : OwnershipState)
        (h : HasRecorded P commandBuffer front state) : E state.holdings :=
      hbefore state.holdings h.1
    have hsubmit : (ownership family consumes).Watched (HasRecorded P commandBuffer commands)
        (driver.attempt purpose .queueSubmit [context.device.object, commandBuffer]
          fun error => .internal s!"vkQueueSubmit: {error}" : Vk σ Unit)
        (fun _ state => Q state.holdings) fun state => E state.holdings := by
      refine watched_attempt (fun answer state hstate => ?_) (fun state hstate => ?_)
        fun error state hstate => hkept commands state hstate
      · change (commandMonitor family).Allows state.holdings (state.recorded commandBuffer)
        rw [hstate.2]
        exact hpermitted state.holdings hstate.1
      · change Q ((state.recorded commandBuffer).foldl Holdings.execute state.holdings)
        rw [hstate.2]
        exact hexecuted state.holdings hstate.1
    refine Monitor.Watched.bind ((keepsState_attempt rfl _ _).weaken (fun _ h => h)
      (fun _ _ h => h) (hkept [])) fun _ => (watched_recordCommands commands []).bind fun _ => ?_
    refine Monitor.Watched.bind ((keepsState_attempt rfl _ _).weaken (fun _ h => h)
      (fun _ _ h => h) (hkept commands)) fun _ => hsubmit.bind fun _ => ?_
    exact (keepsState_attempt rfl _ _).weaken (fun _ h => h) (fun _ _ h => h)
      fun state h => hafter state.holdings h
  exact (hsubmitted _).ensure (fun _ => keepsState_destroy _) (keepsState_destroy _)

/-- A submission of which the commands stay within one family. -/
theorem watched_submitOwned (commands : List Command)
    (hpermitted : ∀ holdings, holdings.AllOwned family →
      (commandMonitor family).Allows holdings commands)
    (hexecuted : ∀ holdings, holdings.AllOwned family →
      (commands.foldl Holdings.execute holdings).AllOwned family) :
    KeepsState family consumes (fun state => state.holdings.AllOwned family)
      (driver.submitOneTime context purpose commands : Vk σ Unit) :=
  watched_submitOneTime commands hpermitted hexecuted (fun _ h => h) fun _ h => h

/-- A barrier that names the owner of a buffer twice. -/
theorem Holdings.AllOwned.update {holdings : Holdings} (h : holdings.AllOwned family)
    (memory : GpuObject) :
    { holdings with owner := Function.update holdings.owner memory family }.AllOwned family := by
  intro other
  by_cases hother : other = memory
  · rw [hother]
    exact Function.update_self ..
  · exact (Function.update_of_ne hother ..).trans (h other)

theorem keepsState_copyStagingToDevice {staging deviceBuffer : VulkanBuffer} :
    KeepsState context.owner consumes (fun state => state.holdings.AllOwned context.owner)
      (driver.copyStagingToDevice context purpose staging deviceBuffer : Vk σ Unit) := by
  refine watched_submitOwned _ (fun holdings howned => ?_) fun holdings howned => howned.update _
  have hafter := howned.update (holdings.bound staging.bufferObject)
  exact ⟨⟨howned _, .inl rfl⟩, ⟨hafter _, hafter _⟩, trivial⟩

theorem keepsState_copyDeviceToStaging {deviceBuffer staging : VulkanBuffer} :
    KeepsState context.owner consumes (fun state => state.holdings.AllOwned context.owner)
      (driver.copyDeviceToStaging context purpose deviceBuffer staging : Vk σ Unit) := by
  refine watched_submitOwned _ (fun holdings howned => ?_) fun holdings howned => howned.update _
  exact ⟨⟨howned _, howned _⟩, ⟨howned _, .inl rfl⟩, trivial⟩

end RiftGPU.Vulkan
