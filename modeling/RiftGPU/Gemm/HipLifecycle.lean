import Mathlib.Data.List.Sort
import RiftGPU.Gemm.HipExecution
import RiftGPU.Lifetime.Scope

/-!
# The objects of the HIP plugin

The plugin loads HIP and rocBLAS when it is first used, and creates a handle of rocBLAS for each
device that it is asked to use. A call imports and maps its three regions and releases them at its
end. The libraries and the handles are kept until the plugin is shut down. This file models the
same code as `HipPlugin.execute`, with the libraries, the handles, the imported and the mapped
memory as objects, over any sequence of calls. What HIP and rocBLAS answer may be different in
every call.

## Main definitions

* `HipPlugin.PluginObject`: the objects, with what they are made from.
* `HipPlugin.Loading`: what happens when the libraries are loaded.
* `HipPlugin.LoadedRuntime`, with `HipPlugin.loadRuntime` and `HipPlugin.LoadedRuntime.drop`.
* `HipPlugin.PluginCall`, `HipPlugin.PluginState`, `HipPlugin.serve`, `HipPlugin.serveAll`: calls of
  the plugin, one after the other.
-/

namespace RiftGPU.HipPlugin

open Bytes PluginAbi SharedOperators Gemm Lifetime

/-! ### Objects and calls -/

/-- The objects of the plugin. Memory and handles belong to the device for which they were created.
-/
inductive PluginObject where
  | hipLibrary (serial : ℕ)
  | rocblasLibrary (serial : ℕ)
  | rocblasHandle (hip rocblas : PluginObject) (device : BitVec 32) (serial : ℕ)
  | externalMemory (hip : PluginObject) (device : BitVec 32) (serial : ℕ)
  | mappedBuffer (hip external : PluginObject) (device : BitVec 32) (serial : ℕ)
deriving DecidableEq, Repr

namespace PluginObject

/-- The number that the run has given to the object. -/
def serial : PluginObject → ℕ
  | hipLibrary serial | rocblasLibrary serial | rocblasHandle _ _ _ serial => serial
  | externalMemory _ _ serial | mappedBuffer _ _ _ serial => serial

/-- What must outlive an object. -/
def owners : PluginObject → List PluginObject
  | hipLibrary _ | rocblasLibrary _ => []
  | rocblasHandle hip rocblas _ _ => [hip, rocblas]
  | externalMemory hip _ _ => [hip]
  | mappedBuffer hip external _ _ => [hip, external]

/-- The device that an object belongs to. -/
def device : PluginObject → Option (BitVec 32)
  | hipLibrary _ | rocblasLibrary _ => none
  | rocblasHandle _ _ device _ | externalMemory _ device _ | mappedBuffer _ _ device _ => device

instance : Resource PluginObject := ⟨serial, owners⟩

theorem sizeOf_lt_of_mem_owners {object owner : PluginObject}
    (h : owner ∈ Lifetime.owners object) : sizeOf owner < sizeOf object := by
  cases object <;> simp_all [Lifetime.owners, owners] <;>
    first | omega | (rcases h with rfl | rfl <;> omega)

theorem not_mem_owners_self (object : PluginObject) : object ∉ Lifetime.owners object :=
  fun h => (sizeOf_lt_of_mem_owners h).false

end PluginObject

/-- The calls of the loader, of HIP and of rocBLAS. A call that sets the device is recorded with the
status that it returns, which tells whether the device is the current one afterwards. -/
inductive ApiCall where
  | loadLibrary (path : String)
  | init
  | setDevice (deviceIndex status : BitVec 32)
  | createHandle
  | importExternalMemory (descriptor : HipExternalMemoryHandleDesc)
  | getMappedBuffer (mapping : HipExternalMemoryBufferDesc)
  | sgemm (call : SgemmCall)
  | deviceSynchronize

/-- Functions of the plugin, which fail with a status. -/
abbrev Plugin := Run ApiCall PluginObject (BitVec 32)

/-- Calls of the plugin, whose failure is a return value. -/
abbrev PluginRun := Run ApiCall PluginObject Empty

/-- What happens when the libraries are loaded: which of the candidates can be loaded, and which
functions they have. -/
structure Loading where
  hipCandidates : List (String × Bool)
  hipSymbol : String → Bool
  init : BitVec 32
  rocblasCandidates : List (String × Bool)
  rocblasSymbol : String → Bool

/-! ### Loading -/

/-- The functions of HIP that the plugin calls. -/
def hipSymbols : List String :=
  ["hipInit", "hipSetDevice", "hipImportExternalMemory", "hipExternalMemoryGetMappedBuffer",
    "hipDestroyExternalMemory", "hipFree", "hipDeviceSynchronize"]

/-- The functions of rocBLAS that the plugin calls. -/
def rocblasSymbols : List String :=
  ["rocblas_create_handle", "rocblas_destroy_handle", "rocblas_sgemm"]

/-- The first candidate that can be loaded. -/
def loadFirst (object : ℕ → PluginObject) : List (String × Bool) → Plugin ℕ
  | [] => throw Status.unavailable
  | (path, loads) :: rest => do
    Run.call (.loadLibrary path) []
    if loads then Run.create object else loadFirst object rest

/-- The lookup of a function that must be there. -/
def loadRequired (symbol : String → Bool) (name : String) : Except (BitVec 32) Unit :=
  Except.rejectIf (!symbol name) Status.unavailable

/-- `HipApi::load`. -/
def loadHip (loading : Loading) : Plugin ℕ := do
  let library ← loadFirst .hipLibrary loading.hipCandidates
  Run.onError (do
      Run.lift (forM hipSymbols (loadRequired loading.hipSymbol))
      Run.call .init [.hipLibrary library]
      Run.lift (Except.rejectIf (loading.init ≠ hipSuccess) Status.unavailable))
    (Run.destroy (.hipLibrary library))
  return library

/-- `RocblasApi::load`. -/
def loadRocblas (loading : Loading) : Plugin ℕ := do
  let library ← loadFirst .rocblasLibrary loading.rocblasCandidates
  Run.onError (Run.lift (forM rocblasSymbols (loadRequired loading.rocblasSymbol)))
    (Run.destroy (.rocblasLibrary library))
  return library

/-! ### The runtime -/

/-- A handle of rocBLAS, with its address. -/
structure RocblasHandle where
  serial : ℕ
  raw : BitVec 64
  raw_ne_zero : raw ≠ 0#64
deriving DecidableEq

/-- An entry comes before another. Devices are signed numbers. -/
def DeviceLt (a b : BitVec 32 × RocblasHandle) : Prop := a.1.toInt < b.1.toInt

/-- An entry does not come after another. -/
def DeviceLe (a b : BitVec 32 × RocblasHandle) : Prop := a.1.toInt ≤ b.1.toInt

instance : DecidableRel DeviceLe := fun a b => inferInstanceAs (Decidable (a.1.toInt ≤ b.1.toInt))

/-- A handle for another device, at its place. -/
theorem pairwise_orderedInsert {handles : List (BitVec 32 × RocblasHandle)} {device : BitVec 32}
    (hsorted : handles.Pairwise DeviceLt) (hnew : handles.lookup device = none)
    (handle : RocblasHandle) :
    (handles.orderedInsert DeviceLe (device, handle)).Pairwise DeviceLt := by
  induction handles with
  | nil => exact List.pairwise_singleton _ _
  | cons entry handles ih =>
    obtain ⟨hfirst, hrest⟩ := List.pairwise_cons.1 hsorted
    rw [List.lookup_eq_none_iff] at hnew
    obtain ⟨hne, hnotMem⟩ := List.forall_mem_cons.1 hnew
    rw [List.orderedInsert_cons]
    split_ifs with hle
    · have hlt : DeviceLt (device, handle) entry :=
        lt_of_le_of_ne hle fun heq => bne_iff_ne.1 hne (BitVec.eq_of_toInt_eq heq)
      refine List.pairwise_cons.2 ⟨List.forall_mem_cons.2 ⟨hlt, fun other hmem => ?_⟩, hsorted⟩
      exact lt_trans hlt (hfirst other hmem)
    · refine List.pairwise_cons.2
        ⟨fun other hmem => ?_, ih hrest (List.lookup_eq_none_iff.2 hnotMem)⟩
      rcases (List.mem_orderedInsert _).1 hmem with rfl | hmem
      · exact not_le.1 hle
      · exact hfirst other hmem

/-- `RuntimeState`. The handles are sorted by their devices. -/
structure LoadedRuntime where
  hip : ℕ
  rocblas : ℕ
  handles : List (BitVec 32 × RocblasHandle)
  sorted : handles.Pairwise DeviceLt

namespace LoadedRuntime

variable (runtime : LoadedRuntime)

/-- The HIP library as an object. -/
def hipObject : PluginObject := .hipLibrary runtime.hip

/-- The rocBLAS library as an object. -/
def rocblasObject : PluginObject := .rocblasLibrary runtime.rocblas

/-- The handle of a device as an object. -/
def handleObject (device : BitVec 32) (handle : RocblasHandle) : PluginObject :=
  .rocblasHandle runtime.hipObject runtime.rocblasObject device handle.serial

/-- The runtime with a handle for a device that had none. -/
def insertHandle (device : BitVec 32) (handle : RocblasHandle)
    (hnew : runtime.handles.lookup device = none) : LoadedRuntime where
  hip := runtime.hip
  rocblas := runtime.rocblas
  handles := runtime.handles.orderedInsert DeviceLe (device, handle)
  sorted := pairwise_orderedInsert runtime.sorted hnew handle

/-- Set the device of a handle, and destroy it. The status of the first call is not looked at. -/
def dropHandle (apis : RuntimeApis) (entry : BitVec 32 × RocblasHandle) : PluginRun Unit := do
  Run.call (.setDevice entry.1 (apis.hip.setDevice entry.1)) [runtime.hipObject]
  if entry.2.raw ≠ 0#64 then Run.destroy (runtime.handleObject entry.1 entry.2) else pure ()

/-- The `Drop` of the state, and of the libraries that it holds. -/
def drop (apis : RuntimeApis) : PluginRun Unit := do
  runtime.handles.foldlM (fun _ entry => runtime.dropHandle apis entry) ()
  Run.destroy runtime.hipObject
  Run.destroy runtime.rocblasObject

end LoadedRuntime

/-- `RuntimeState::load`. -/
def loadRuntime (loading : Loading) : Plugin LoadedRuntime := do
  let hip ← loadHip loading
  let rocblas ← Run.onError (loadRocblas loading) (Run.destroy (.hipLibrary hip))
  return { hip, rocblas, handles := [], sorted := .nil }

variable (apis : RuntimeApis) (runtime : LoadedRuntime) (device : BitVec 32)

/-- `RuntimeState::handle_for_device`. -/
def handleFor : Plugin (LoadedRuntime × RocblasHandle) := do
  let status := apis.hip.setDevice device
  Run.call (.setDevice device status) [runtime.hipObject]
  Run.lift (Except.rejectIf (status ≠ hipSuccess) Status.unavailable)
  match hnew : runtime.handles.lookup device with
  | some handle => return (runtime, handle)
  | none =>
    Run.call .createHandle [runtime.rocblasObject]
    let answer := apis.rocblas.createHandle
    if h : answer.1 ≠ rocblasStatusSuccess ∨ answer.2 = 0#64 then throw Status.unavailable
    else
      let serial ← Run.create (.rocblasHandle runtime.hipObject runtime.rocblasObject device)
      let handle : RocblasHandle := ⟨serial, answer.2, (not_or.1 h).2⟩
      return (runtime.insertHandle device handle hnew, handle)

/-! ### Imported regions -/

/-- A region while it is mapped: the two guards by their numbers, and the address. -/
structure ImportedRegion where
  external : ℕ
  mapped : ℕ
  pointer : DevicePtr

namespace ImportedRegion

variable (region : ImportedRegion)

/-- The imported memory as an object. -/
def externalObject : PluginObject := .externalMemory runtime.hipObject device region.external

/-- The mapped memory as an object. -/
def mappedObject : PluginObject :=
  .mappedBuffer runtime.hipObject (region.externalObject runtime device) device region.mapped

/-- The `Drop` of the two guards. -/
def drop {ε : Type} : Run ApiCall PluginObject ε Unit := do
  Run.destroy (region.mappedObject runtime device)
  Run.destroy (region.externalObject runtime device)

end ImportedRegion

/-- `HipApi::import_region`. -/
def importMapped (region : VrbSharedResourceRegionV1) : Plugin ImportedRegion := do
  let descriptor : HipExternalMemoryHandleDesc := {
    type := hipExternalMemoryHandleTypeOpaqueWin32Kmt
    handle := region.handle
    size := region.allocationSize
    flags := 0#32 }
  Run.call (.importExternalMemory descriptor) [runtime.hipObject]
  let (importStatus, handle) := apis.hip.importExternalMemory descriptor
  Run.lift (Except.rejectIf (importStatus ≠ hipSuccess ∨ handle = 0#64) Status.unavailable)
  let external ← Run.create (.externalMemory runtime.hipObject device)
  let externalObject : PluginObject := .externalMemory runtime.hipObject device external
  Run.onError (do
      let mapping : HipExternalMemoryBufferDesc := {
        offset := region.offset
        size := region.length
        flags := 0#32 }
      Run.call (.getMappedBuffer mapping) [runtime.hipObject, externalObject]
      let (mapStatus, pointer) := apis.hip.externalMemoryGetMappedBuffer handle mapping
      Run.lift (Except.rejectIf (mapStatus ≠ hipSuccess ∨ pointer = 0#64) Status.unavailable)
      let mapped ← Run.create (.mappedBuffer runtime.hipObject externalObject device)
      return { external, mapped, pointer })
    (Run.destroy externalObject)

/-! ### A multiplication -/

/-- What a function returns after it has possibly changed the memory of the device. -/
abbrev Ended := DeviceMemory × Except (BitVec 32) Unit

/-- The part of `execute_windows` for which the regions are mapped. -/
def multiplyMapped (handle : RocblasHandle) (prepared : PreparedGemm) (memory : DeviceMemory)
    (a b c : ImportedRegion) : Plugin Ended := do
  let call := gemmCall prepared a.pointer b.pointer c.pointer
  Run.call (.sgemm call) [runtime.rocblasObject, runtime.handleObject device handle,
    a.mappedObject runtime device, b.mappedObject runtime device, c.mappedObject runtime device]
  let (status, memory) := apis.rocblas.sgemm handle.raw call memory
  if status ≠ rocblasStatusSuccess then return (memory, .error Status.internalError)
  else
    Run.call .deviceSynchronize [runtime.hipObject]
    return (memory,
      Except.rejectIf (apis.hip.deviceSynchronize ≠ hipSuccess) Status.internalError)

/-- The part of `execute_windows` after it has its handle. The regions are released in the reverse
order. -/
def multiply (handle : RocblasHandle) (prepared : PreparedGemm) (memory : DeviceMemory) :
    Plugin Ended := do
  let a ← importMapped apis runtime device prepared.a
  Run.ensure (do
      let b ← importMapped apis runtime device prepared.b
      Run.ensure (do
          let c ← importMapped apis runtime device prepared.c
          Run.ensure (multiplyMapped apis runtime device handle prepared memory a b c)
            (c.drop runtime device))
        (b.drop runtime device))
    (a.drop runtime device)

/-! ### Calls of the plugin -/

/-- The state that the plugin shares between calls, and the memory of the device. -/
structure PluginState where
  runtime : Option LoadedRuntime
  memory : DeviceMemory

/-- A call of the plugin, with what happens to the libraries and what they answer during it. -/
inductive PluginCall where
  | execute (loading : Loading) (apis : RuntimeApis) (request : VrbSharedOperatorExecutionRequestV1)
  | shutdown (apis : RuntimeApis)

/-- The operation under `with_runtime`. A handle that it created is kept when it fails later. -/
def operate (prepared : PreparedGemm) (memory : DeviceMemory) :
    PluginRun (LoadedRuntime × Ended) := do
  let device := prepared.control.hipDeviceIndex
  match ← Run.caught (handleFor apis runtime device) with
  | .error status => return (runtime, memory, .error status)
  | .ok (runtime, handle) =>
    match ← Run.caught (multiply apis runtime device handle prepared memory) with
    | .error status => return (runtime, memory, .error status)
    | .ok ended => return (runtime, ended)

/-- The runtime under `with_runtime`, which is loaded when there is none. -/
def obtainRuntime (loading : Loading) : Option LoadedRuntime → Plugin LoadedRuntime
  | some runtime => pure runtime
  | none => loadRuntime loading

/-- The requests that get to HIP. -/
def admitted (request : VrbSharedOperatorExecutionRequestV1) : Except (BitVec 32) PreparedGemm := do
  Except.rejectIf (request.structSize < expectedExecutionRequestStructSize ∨
    request.operatorId ≠ hipOperatorId ∨ request.receiptLen.isNone) Status.invalidArgument
  prepare request

/-- The call of `execute`. -/
def serveExecute (loading : Loading) (request : VrbSharedOperatorExecutionRequestV1)
    (state : PluginState) : PluginRun (PluginState × ExecuteReturn) :=
  match admitted request with
  | .error status => return (state, rejected request status)
  | .ok prepared => do
    match ← Run.caught (obtainRuntime loading state.runtime) with
    | .error status => return (state, rejected request status)
    | .ok runtime =>
      let (runtime, memory, outcome) ← operate apis runtime prepared state.memory
      return (⟨some runtime, memory⟩, returnOf request outcome)

/-- The call of `shutdown`. -/
def serveShutdown (state : PluginState) : PluginRun PluginState := do
  match state.runtime with
  | none => return state
  | some runtime =>
    runtime.drop apis
    return { state with runtime := none }

/-- A call, and what it returns. -/
def serve (state : PluginState) : PluginCall → PluginRun (PluginState × Option ExecuteReturn)
  | .execute loading apis request => do
    let (state, value) ← serveExecute apis loading request state
    return (state, some value)
  | .shutdown apis => do
    let state ← serveShutdown apis state
    return (state, none)

/-- One more call, whose value is put behind those of the calls before it. -/
def serveStep (served : PluginState × List (Option ExecuteReturn)) (call : PluginCall) :
    PluginRun (PluginState × List (Option ExecuteReturn)) := do
  let (state, value) ← serve served.1 call
  return (state, served.2 ++ [value])

/-- A sequence of calls, with what they return. -/
def serveAll (memory : DeviceMemory) (calls : List PluginCall) :
    PluginRun (PluginState × List (Option ExecuteReturn)) :=
  calls.foldlM serveStep (⟨none, memory⟩, [])

end RiftGPU.HipPlugin
