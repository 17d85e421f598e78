import RiftGPU.Vulkan.Devices

/-!
# The backends that are always there

The processor, the Vulkan driver and the HIP runtime are backends of every runtime that the command
line builds. Their probes report what the machine has. This file models the three backends of
`vrb-backends`, by what their methods return. What the Vulkan driver and the HIP runtime of a
machine answer is arbitrary.

## Main definitions

* `Machine`: the answers of a machine.
* `CpuBackend.vectorAddF32`, `CpuBackend.probe`.
* `VulkanAnswers.runtimeInfo`, `VulkanAnswers.probe`.
* `HipAnswers.runtimeInfo`, `HipAnswers.probe`.
-/

namespace RiftGPU.Backends

open Bytes

/-! ### The processor -/

namespace CpuBackend

/-- The identifier of the processor. -/
def id : BackendId := ⟨"cpu"⟩

/-- The sums are written over the elements of the output. -/
def vectorAddF32 {F : Type} [Add F] (left right output : List F) :
    Except BackendError (List F) := do
  Except.rejectIf (left.length ≠ right.length ∨ left.length ≠ output.length)
    (.internal "vector_add_f32 requires equal input and output lengths")
  return ((output.zip left).zip right).map fun ((_, lhs), rhs) => lhs + rhs

/-- The probe of the processor, which is always available. -/
def probe (arch : String) : BackendProbe where
  id := id
  kind := .cpu
  name := "CPU reference backend"
  vendor := arch
  available := true
  deviceCount := 1#32
  detail := "Portable correctness/reference backend"
  capabilities := {
    operations := [.copy, .vectorAdd]
    dataTypes := [.f32, .i8]
    externalMemory := false
    externalSemaphore := false
    zeroCopy := false }

end CpuBackend

/-! ### The Vulkan driver -/

/-- What the Vulkan loader and driver answer to a probe, on the operating system that the program is
compiled for. -/
structure VulkanAnswers where
  targetOs : Vulkan.TargetOs
  load : Except String Unit
  createInstance : Except String Unit
  physicalDevices : Except String (List Vulkan.PhysicalDevice)

namespace VulkanAnswers

variable (answers : VulkanAnswers)

/-- The devices of the driver, when the loader and an instance of it can be had. -/
def runtimeInfo : Except BackendError Vulkan.VulkanRuntimeInfo := do
  answers.load.mapError fun error => .unavailable s!"Vulkan loader: {error}"
  answers.createInstance.mapError fun error => .probe s!"vkCreateInstance: {error}"
  Vulkan.describeDevices answers.targetOs answers.physicalDevices

/-- The probe of a driver that could be asked for its devices. -/
def probe : Except BackendError BackendProbe := do
  let info ← answers.runtimeInfo
  return info.probe

theorem probe_eq_ok_iff {answers : VulkanAnswers} {probe : BackendProbe} :
    answers.probe = .ok probe ↔ ∃ info, answers.runtimeInfo = .ok info ∧ info.probe = probe := by
  simp only [VulkanAnswers.probe, Except.bind_eq_ok_iff, Except.pure_eq_ok_iff]

end VulkanAnswers

/-! ### The HIP runtime -/

/-- What the HIP runtime answers to a probe. The candidates are the paths at which the library is
looked for, each with the failure to load it. A function returns a status, and what it writes; a
name is given by its bytes, up to the zero that ends it. -/
structure HipAnswers where
  candidates : List (String × Except String Unit)
  symbol : String → Except String Unit
  init : BitVec 32
  runtimeGetVersion : BitVec 32 × BitVec 32
  getDeviceCount : BitVec 32 × BitVec 32
  deviceGetName : ℕ → BitVec 32 × List Byte

/-- What a probe learns from the HIP runtime. -/
structure HipRuntimeInfo where
  library : String
  runtimeVersionRaw : BitVec 32
  devices : List String
  externalMemoryApi : Bool
  externalSemaphoreApi : Bool

/-- A function must return the status zero. -/
def checkHip (code : BitVec 32) (operation : String) : Except BackendError Unit :=
  Except.rejectIf (code ≠ 0#32) (.unavailable s!"{operation} returned HIP error code {code.toInt}")

/-- The path of the first candidate that can be loaded. -/
def loadHipLibrary : List (String × Except String Unit) → List String → Except BackendError String
  | [], failures => .error (.unavailable
      ("HIP runtime library was not loadable (" ++ "; ".intercalate failures ++ ")"))
  | (path, .ok ()) :: _, _ => .ok path
  | (path, .error error) :: rest, failures =>
    loadHipLibrary rest (failures ++ [s!"{path}: {error}"])

/-- The functions that a probe calls. -/
def calledSymbols : List String :=
  ["hipInit", "hipGetDeviceCount", "hipDeviceGetName", "hipRuntimeGetVersion"]

/-- The functions that a runtime must have to import memory. -/
def externalMemorySymbols : List String :=
  ["hipImportExternalMemory", "hipExternalMemoryGetMappedBuffer", "hipDestroyExternalMemory"]

/-- The functions that a runtime must have to import semaphores. -/
def externalSemaphoreSymbols : List String :=
  ["hipImportExternalSemaphore", "hipSignalExternalSemaphoresAsync",
    "hipWaitExternalSemaphoresAsync", "hipDestroyExternalSemaphore"]

namespace HipAnswers

variable (answers : HipAnswers)

/-- The lookup of a function that must be there. -/
def loadSymbol (name : String) : Except BackendError Unit :=
  (answers.symbol name).mapError fun error => .probe s!"{name} missing: {error}"

/-- Whether the library has a function. -/
def symbolExists (name : String) : Bool := (answers.symbol name).isOk

/-- The name of a device, or a text in its place when there is none. -/
def deviceName (index : ℕ) : String :=
  let (result, bytes) := answers.deviceGetName index
  if result = 0#32 then
    let name := Text.fromUtf8Lossy bytes
    if name = "" then s!"HIP device {index}" else name
  else s!"HIP device {index} (name error {result.toInt})"

/-- What follows the loading of the library. -/
def describe (library : String) : Except BackendError HipRuntimeInfo := do
  forM calledSymbols answers.loadSymbol
  checkHip answers.init "hipInit"
  checkHip answers.runtimeGetVersion.1 "hipRuntimeGetVersion"
  checkHip answers.getDeviceCount.1 "hipGetDeviceCount"
  let deviceCount := answers.getDeviceCount.2
  Except.rejectIf (deviceCount.toInt < 0) (.probe "HIP returned a negative device count")
  return {
    library
    runtimeVersionRaw := answers.runtimeGetVersion.2
    devices := (List.range deviceCount.toNat).map answers.deviceName
    externalMemoryApi := externalMemorySymbols.all answers.symbolExists
    externalSemaphoreApi := externalSemaphoreSymbols.all answers.symbolExists }

/-- The runtime at the first path at which there is one. -/
def runtimeInfo : Except BackendError HipRuntimeInfo := do
  let library ← loadHipLibrary answers.candidates []
  answers.describe library

end HipAnswers

/-- The probe of a runtime that could be asked for its devices. -/
def HipRuntimeInfo.probe (info : HipRuntimeInfo) : BackendProbe where
  id := ⟨"hip"⟩
  kind := .hip
  name := info.devices.head?.getD "HIP runtime"
  vendor := "AMD ROCm/HIP"
  available := !info.devices.isEmpty
  deviceCount := BitVec.ofNat 32 info.devices.length
  detail := s!"library={info.library}, runtime_version_raw={info.runtimeVersionRaw.toInt}, " ++
    s!"external_memory={info.externalMemoryApi}, external_semaphore={info.externalSemaphoreApi}"
  capabilities := {
    operations := [.custom]
    dataTypes := [.unknown]
    externalMemory := info.externalMemoryApi
    externalSemaphore := info.externalSemaphoreApi
    zeroCopy := info.externalMemoryApi && info.externalSemaphoreApi }

/-- The probe of the HIP backend. -/
def HipAnswers.probe (answers : HipAnswers) : Except BackendError BackendProbe := do
  let info ← answers.runtimeInfo
  return info.probe

theorem HipAnswers.probe_eq_ok_iff {answers : HipAnswers} {probe : BackendProbe} :
    answers.probe = .ok probe ↔ ∃ info, answers.runtimeInfo = .ok info ∧ info.probe = probe := by
  simp only [HipAnswers.probe, Except.bind_eq_ok_iff, Except.pure_eq_ok_iff]

/-! ### A machine -/

/-- What the probes depend on: the architecture, and the answers of the two libraries. -/
structure Machine where
  arch : String
  vulkan : VulkanAnswers
  hip : HipAnswers

namespace Machine

variable (machine : Machine)

/-- The processor as a backend. -/
def cpuBackend : ComputeBackend := ⟨CpuBackend.id, .cpu, .ok (CpuBackend.probe machine.arch)⟩

/-- The Vulkan driver as a backend. -/
def vulkanBackend : ComputeBackend := ⟨⟨"vulkan"⟩, .vulkan, machine.vulkan.probe⟩

/-- The HIP runtime as a backend. -/
def hipBackend : ComputeBackend := ⟨⟨"hip"⟩, .hip, machine.hip.probe⟩

/-- The backends that are always there, in the order in which they are registered. -/
def backends : List ComputeBackend :=
  [machine.cpuBackend, machine.vulkanBackend, machine.hipBackend]

theorem ids_backends :
    machine.backends.map ComputeBackend.id = [⟨"cpu"⟩, ⟨"vulkan"⟩, ⟨"hip"⟩] := rfl

theorem nodup_ids_backends : (machine.backends.map ComputeBackend.id).Nodup := by
  rw [ids_backends]
  decide

end Machine

end RiftGPU.Backends
