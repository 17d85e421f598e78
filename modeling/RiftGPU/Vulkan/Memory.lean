import Mathlib.Logic.Function.Basic
import RiftGPU.Lifetime.Ends
import RiftGPU.Trace.Monitor
import RiftGPU.Vulkan.Context

/-!
# What the memory of the device holds

The calls of Vulkan in a log say how the memory of the device changes: the host writes to memory
that it mapped, and a submission copies between buffers, which are bound to memory. What else the
program does to memory is a parameter. The bytes that the host reads are in the log, so one can say
of a log that it is honest: every read has found what the memory held.

## Main definitions

* `Vulkan.GpuObject.storage`: the memory in which an object lies.
* `Vulkan.MemoryState`, `Vulkan.Effects.monitor`: the memory after a log, and honest logs.
* `Vulkan.Effects.Frame`: what an extension of a log leaves as it was.

## Main results

* `Vulkan.Effects.Quiet.bind`, `Vulkan.Effects.Quiet.foldlM`: programs that leave memory alone.
* `Vulkan.Effects.Frame.trans`: memory that did not exist before may be written.
-/

namespace RiftGPU.Vulkan

open Bytes Lifetime

/-! ### Bytes -/

/-- The first bytes of a memory. -/
def readBytes (size : ℕ) (memory : ℕ → Byte) : List Byte := (List.range size).map memory

/-- A memory of which the first bytes are overwritten. -/
def writeBytes (data : List Byte) (memory : ℕ → Byte) : ℕ → Byte := fun i => data.getD i (memory i)

/-- A memory of which the first `size` bytes are those of another one. -/
def copyBytes (size : ℕ) (source memory : ℕ → Byte) : ℕ → Byte :=
  fun i => if i < size then source i else memory i

@[simp] theorem length_readBytes (size : ℕ) (memory : ℕ → Byte) :
    (readBytes size memory).length = size := by
  rw [readBytes, List.length_map, List.length_range]

theorem readBytes_writeBytes (data : List Byte) (memory : ℕ → Byte) :
    readBytes data.length (writeBytes data memory) = data := by
  refine List.ext_getElem (length_readBytes _ _) fun i hi hdata => ?_
  simp only [readBytes, List.getElem_map, List.getElem_range, writeBytes]
  rw [List.getD_eq_getElem?_getD, List.getElem?_eq_getElem hdata, Option.getD_some]

theorem readBytes_copyBytes (size : ℕ) (source memory : ℕ → Byte) :
    readBytes size (copyBytes size source memory) = readBytes size source :=
  List.map_congr_left fun _ hi => if_pos (List.mem_range.1 hi)

/-! ### The memory after a log -/

/-- The bytes of all memory. -/
abbrev Contents := GpuObject → ℕ → Byte

/-- The memory in which a mapping lies, or that was imported. -/
def GpuObject.storage : GpuObject → GpuObject
  | mapping memory _ | hipExternalMemory _ memory _ => memory
  | hipMappedBuffer _ external _ => external.storage
  | object => object

/-- A copy that was recorded. -/
structure BufferCopy where
  source : GpuObject
  destination : GpuObject
  size : BitVec 64

/-- The memory that the buffers are bound to, the copies that were recorded in the command buffers,
and the bytes of the memory. -/
structure MemoryState where
  bound : GpuObject → GpuObject
  recorded : GpuObject → List BufferCopy
  contents : Contents

/-- The contents after a copy. -/
def BufferCopy.run (bound : GpuObject → GpuObject) (contents : Contents) (copy : BufferCopy) :
    Contents :=
  Function.update contents (bound copy.destination) (copyBytes copy.size.toNat
    (contents (bound copy.source)) (contents (bound copy.destination)))

namespace MemoryState

variable (state : MemoryState)

/-- A buffer stands for the memory that it is bound to. -/
def bind (buffer memory : GpuObject) : MemoryState :=
  { state with bound := Function.update state.bound buffer memory }

/-- A new command buffer is empty. -/
def allocate (commandBuffer : GpuObject) : MemoryState :=
  { state with recorded := Function.update state.recorded commandBuffer [] }

/-- One more copy in a command buffer. -/
def record (commandBuffer : GpuObject) (copy : BufferCopy) : MemoryState :=
  let copies := state.recorded commandBuffer ++ [copy]
  { state with recorded := Function.update state.recorded commandBuffer copies }

/-- The recorded copies are made. -/
def submit (commandBuffer : GpuObject) : MemoryState :=
  let copies := state.recorded commandBuffer
  { state with contents := copies.foldl (BufferCopy.run state.bound) state.contents }

/-- The host writes the first bytes of a memory. -/
def write (memory : GpuObject) (data : List Byte) : MemoryState :=
  let bytes := writeBytes data (state.contents memory)
  { state with contents := Function.update state.contents memory bytes }

@[simp] theorem bound_bind (buffer memory : GpuObject) :
    (state.bind buffer memory).bound = Function.update state.bound buffer memory := rfl

@[simp] theorem contents_bind (buffer memory : GpuObject) :
    (state.bind buffer memory).contents = state.contents := rfl

@[simp] theorem bound_allocate (commandBuffer : GpuObject) :
    (state.allocate commandBuffer).bound = state.bound := rfl

@[simp] theorem bound_record (commandBuffer : GpuObject) (copy : BufferCopy) :
    (state.record commandBuffer copy).bound = state.bound := rfl

@[simp] theorem bound_write (memory : GpuObject) (data : List Byte) :
    (state.write memory data).bound = state.bound := rfl

@[simp] theorem contents_write (memory : GpuObject) (data : List Byte) :
    (state.write memory data).contents =
      Function.update state.contents memory (writeBytes data (state.contents memory)) := rfl

@[simp] theorem bound_submit (commandBuffer : GpuObject) :
    (state.submit commandBuffer).bound = state.bound := rfl

@[simp] theorem contents_submit (commandBuffer : GpuObject) :
    (state.submit commandBuffer).contents =
      (state.recorded commandBuffer).foldl (BufferCopy.run state.bound) state.contents := rfl

@[simp] theorem recorded_record (commandBuffer : GpuObject) (copy : BufferCopy) :
    (state.record commandBuffer copy).recorded commandBuffer =
      state.recorded commandBuffer ++ [copy] :=
  Function.update_self ..

@[simp] theorem recorded_allocate (commandBuffer : GpuObject) :
    (state.allocate commandBuffer).recorded commandBuffer = [] :=
  Function.update_self ..

end MemoryState

/-- What the events of a program do to memory, and which of its events have read what the memory
held. -/
structure Effects (σ : Type) where
  act : σ → List GpuObject → Contents → Contents
  Honest : σ → List GpuObject → Contents → Prop

namespace Effects

variable {σ : Type} (effects : Effects σ)

/-- The memory after an event. A submission that succeeds is executed at once; a call that fails has
no effect. -/
def next (state : MemoryState) : Event (Label σ) GpuObject → MemoryState
  | .create (.commandBuffer pool serial) => state.allocate (.commandBuffer pool serial)
  | .call (.vulkan .bindBufferMemory (.ok ())) [_, buffer, memory] => state.bind buffer memory
  | .call (.vulkan (.cmdCopyBuffer size) _) [commandBuffer, source, destination] =>
    state.record commandBuffer ⟨source, destination, size⟩
  | .call (.vulkan .queueSubmit (.ok ())) [_, commandBuffer] => state.submit commandBuffer
  | .call (.hostWrite data) [mapping] => state.write mapping.storage data
  | .call (.other event) uses => { state with contents := effects.act event uses state.contents }
  | _ => state

/-- The event has read what the memory held. -/
def ReadsHonestly (state : MemoryState) : Event (Label σ) GpuObject → Prop
  | .call (.hostRead size data) [mapping] =>
    data = readBytes size.toNat (state.contents mapping.storage)
  | .call (.other event) uses => effects.Honest event uses state.contents
  | _ => True

instance [∀ event uses contents, Decidable (effects.Honest event uses contents)]
    (state : MemoryState) (event : Event (Label σ) GpuObject) :
    Decidable (effects.ReadsHonestly state event) :=
  match event with
  | .call (.hostRead size data) [mapping] =>
    inferInstanceAs (Decidable (data = readBytes size.toNat (state.contents mapping.storage)))
  | .call (.other event) uses =>
    inferInstanceAs (Decidable (effects.Honest event uses state.contents))
  | .call (.hostRead _ _) [] | .call (.hostRead _ _) (_ :: _ :: _) => isTrue trivial
  | .call (.vulkan _ _) _ | .call (.hostWrite _) _ | .create _ | .destroy _ => isTrue trivial

/-- The memory, where every read returns what it has. -/
def monitor : Monitor MemoryState (Event (Label σ) GpuObject) :=
  ⟨effects.next, effects.ReadsHonestly⟩

/-- The memory at the start. -/
def start (initial : Contents) : MemoryState := ⟨id, fun _ => [], initial⟩

/-- The memory after a log. -/
def after (initial : Contents) (log : List (Event (Label σ) GpuObject)) : MemoryState :=
  effects.monitor.after (start initial) log

/-- Every read in the log has found what the memory held. -/
def HonestLog (initial : Contents) (log : List (Event (Label σ) GpuObject)) : Prop :=
  effects.monitor.Allows (start initial) log

instance [∀ event uses contents, Decidable (effects.Honest event uses contents)]
    (initial : Contents) (log : List (Event (Label σ) GpuObject)) :
    Decidable (effects.HonestLog initial log) :=
  have (state : MemoryState) (event : Event (Label σ) GpuObject) :
      Decidable (effects.monitor.Allowed state event) :=
    inferInstanceAs (Decidable (effects.ReadsHonestly state event))
  Monitor.decidableAllows (start initial) log

variable {effects : Effects σ} {initial : Contents}
  {log log' log'' : List (Event (Label σ) GpuObject)}

theorem after_snoc (event : Event (Label σ) GpuObject) :
    effects.after initial (log ++ [event]) = effects.next (effects.after initial log) event :=
  List.foldl_concat ..

theorem HonestLog.restrict (h : effects.HonestLog initial log') (hgrows : log <+: log') :
    effects.HonestLog initial log := by
  obtain ⟨back, rfl⟩ := hgrows
  exact (Monitor.allows_append.1 h).1

theorem HonestLog.reads {event : Event (Label σ) GpuObject}
    (h : effects.HonestLog initial (log ++ [event])) :
    effects.ReadsHonestly (effects.after initial log) event :=
  Monitor.allowed_of_split h

/-! ### Programs that leave memory alone -/

/-- The buffers are bound as before, and the memory holds what it did. -/
def Unchanged (effects : Effects σ) (initial : Contents)
    (log log' : List (Event (Label σ) GpuObject)) : Prop :=
  (effects.after initial log').bound = (effects.after initial log).bound ∧
    (effects.after initial log').contents = (effects.after initial log).contents

theorem Unchanged.refl (log : List (Event (Label σ) GpuObject)) :
    effects.Unchanged initial log log := ⟨rfl, rfl⟩

theorem Unchanged.trans (h : effects.Unchanged initial log log')
    (h' : effects.Unchanged initial log' log'') : effects.Unchanged initial log log'' :=
  ⟨h'.1.trans h.1, h'.2.trans h.2⟩

/-- An event that changes neither. -/
def IsQuiet (effects : Effects σ) (event : Event (Label σ) GpuObject) : Prop :=
  ∀ state, (effects.next state event).bound = state.bound ∧
    (effects.next state event).contents = state.contents

theorem IsQuiet.unchanged {event : Event (Label σ) GpuObject} (h : effects.IsQuiet event) :
    effects.Unchanged initial log (log ++ [event]) := by
  rw [Unchanged, after_snoc]
  exact h _

variable {ε α β : Type}

/-- Programs whose events are all quiet. -/
def Quiet (effects : Effects σ) (initial : Contents) (x : Run (Label σ) GpuObject ε α) : Prop :=
  ∀ log, x.Ends log (fun _ => effects.Unchanged initial log) (effects.Unchanged initial log)

namespace Quiet

variable {x : Run (Label σ) GpuObject ε α} {f : α → Run (Label σ) GpuObject ε β}

theorem pure (a : α) : effects.Quiet initial (Pure.pure a : Run (Label σ) GpuObject ε α) :=
  fun log => .pure (.refl log)

theorem liftM (result : Except ε α) :
    effects.Quiet initial (MonadLiftT.monadLift result : Run (Label σ) GpuObject ε α) :=
  fun log => .liftM (fun _ _ => .refl log) (.refl log)

theorem record {event : Event (Label σ) GpuObject} (h : effects.IsQuiet event) :
    effects.Quiet initial (Run.record event : Run (Label σ) GpuObject ε Unit) :=
  fun _ => .record h.unchanged

theorem destroy (object : GpuObject) :
    effects.Quiet initial (Run.destroy object : Run (Label σ) GpuObject ε Unit) :=
  record fun _ => ⟨rfl, rfl⟩

theorem create (make : ℕ → GpuObject) :
    effects.Quiet initial (Run.create make : Run (Label σ) GpuObject ε ℕ) := by
  refine fun log => .create (IsQuiet.unchanged fun state => ?_)
  cases make log.length <;> exact ⟨rfl, rfl⟩

theorem bind (hx : effects.Quiet initial x) (hf : ∀ a, effects.Quiet initial (f a)) :
    effects.Quiet initial (x >>= f) :=
  fun log => (hx log).bind fun a log' _ h => (hf a log').weaken (fun _ _ _ h' => h.trans h')
    fun _ _ h' => h.trans h'

/-- A quiet program at the start of another one. -/
theorem andThen {Q : β → List (Event (Label σ) GpuObject) → Prop}
    {E : List (Event (Label σ) GpuObject) → Prop} (hx : effects.Quiet initial x)
    (hlog : effects.Unchanged initial log log')
    (hf : ∀ a log'', log' <+: log'' → effects.Unchanged initial log log'' → (f a).Ends log'' Q E)
    (herror : ∀ log'', effects.Unchanged initial log log'' → E log'') : (x >>= f).Ends log' Q E :=
  ((hx log').weaken (fun _ _ _ h => hlog.trans h) fun log'' _ h =>
    herror log'' (hlog.trans h)).bind hf

theorem ensure {cleanup : Run (Label σ) GpuObject ε Unit} (hx : effects.Quiet initial x)
    (hcleanup : effects.Quiet initial cleanup) : effects.Quiet initial (Run.ensure x cleanup) :=
  have hrest {log log' : List (Event (Label σ) GpuObject)}
      (h : effects.Unchanged initial log log') :
      cleanup.Ends log' (fun _ => effects.Unchanged initial log) (effects.Unchanged initial log) :=
    (hcleanup log').weaken (fun _ _ _ h' => h.trans h') fun _ _ h' => h.trans h'
  fun log => (hx log).ensure (fun _ _ _ h => hrest h) fun _ _ h => hrest h

theorem onError {cleanup : Run (Label σ) GpuObject ε Unit} (hx : effects.Quiet initial x)
    (hcleanup : effects.Quiet initial cleanup) : effects.Quiet initial (Run.onError x cleanup) :=
  fun log => (hx log).onError fun log' _ h => (hcleanup log').weaken (fun _ _ _ h' => h.trans h')
    fun _ _ h' => h.trans h'

theorem caught {δ : Type} (hx : effects.Quiet initial x) :
    effects.Quiet initial (Run.caught x : Run (Label σ) GpuObject δ (Except ε α)) :=
  fun log => (hx log).caught.weaken (fun outcome _ _ h => by cases outcome <;> exact h)
    fun _ _ h => h

theorem foldlM {step : β → α → Run (Label σ) GpuObject ε β} {xs : List α}
    (hstep : ∀ b a, effects.Quiet initial (step b a)) (b : β) :
    effects.Quiet initial (xs.foldlM step b) := by
  refine fun log => Run.Ends.foldlM (fun _ => effects.Unchanged initial log)
    (fun b a _ log' h => ?_) b (.refl log)
  exact (hstep b a log').weaken (fun _ _ _ h' => h.trans h') fun _ _ h' => h.trans h'

end Quiet

/-! ### What existed before -/

/-- The buffers that existed before are bound as they were, and the memory that existed before holds
what it did, apart from some memory that was written. -/
structure Frame (effects : Effects σ) (initial : Contents) (written : List GpuObject)
    (log log' : List (Event (Label σ) GpuObject)) : Prop where
  bound : ∀ object : GpuObject, object.serial < log.length →
    (effects.after initial log').bound object = (effects.after initial log).bound object
  contents : ∀ object : GpuObject, object.serial < log.length → object ∉ written →
    (effects.after initial log').contents object = (effects.after initial log).contents object

variable {written written' : List GpuObject}

theorem Unchanged.frame (h : effects.Unchanged initial log log') :
    effects.Frame initial written log log' :=
  ⟨fun _ _ => by rw [h.1], fun _ _ _ => by rw [h.2]⟩

theorem Frame.mono (h : effects.Frame initial written log log') (hsub : written ⊆ written') :
    effects.Frame initial written' log log' :=
  ⟨h.bound, fun object hobject hnotMem => h.contents object hobject fun hmem => hnotMem (hsub hmem)⟩

/-- Memory that did not exist before may be written. -/
theorem Frame.trans (h : effects.Frame initial written log log') (hgrows : log <+: log')
    (h' : effects.Frame initial written' log' log'')
    (hwritten : ∀ object ∈ written', object.serial < log.length → object ∈ written) :
    effects.Frame initial written log log'' := by
  have hlt {object : GpuObject} (hobject : object.serial < log.length) :
      object.serial < log'.length := hobject.trans_le hgrows.length_le
  refine ⟨fun object hobject => ?_, fun object hobject hnotMem => ?_⟩
  · rw [h'.bound object (hlt hobject), h.bound object hobject]
  · rw [h'.contents object (hlt hobject) fun hmem => hnotMem (hwritten object hmem hobject),
      h.contents object hobject hnotMem]

theorem Frame.andUnchanged (h : effects.Frame initial written log log')
    (h' : effects.Unchanged initial log' log'') : effects.Frame initial written log log'' :=
  ⟨fun object hobject => by rw [h'.1, h.bound object hobject],
    fun object hobject hnotMem => by rw [h'.2, h.contents object hobject hnotMem]⟩

end Effects

end RiftGPU.Vulkan
