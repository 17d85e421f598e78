import RiftGPU.Backends.Abi
import RiftGPU.Core.Backend
import RiftGPU.Text.Utf8

/-!
# Plugins as backends

A plugin is a dynamic library with an entry that returns a descriptor. The host checks the
descriptor when it loads the plugin, and calls the functions of the descriptor when the plugin is
probed or executes. This file models `DynamicPluginBackend` of `vrb-backends`, by what its methods
return. What loading a library and calling its entry give is an argument.

## Main definitions

* `PluginImage`: what the host gets from the file of a plugin.
* `DynamicPluginBackend.load`, `DynamicPluginBackend.probe`, `DynamicPluginBackend.executeRaw`.

## Main results

* `DynamicPluginBackend.id_of_load`: the name of a plugin that is loaded.
-/

namespace RiftGPU.Backends

open Bytes

/-- The ways in which loading or calling a plugin can fail. -/
inductive PluginLoadError where
  | load (path source : String)
  | missingEntry (source : String)
  | nullDescriptor
  | abiVersion (actual expected : BitVec 32)
  | descriptorTooSmall (actual expected : BitVec 32)
  | nullName
  | emptyName
  | missingProbe
  | missingExecute
  | pluginStatus (status : VrbStatus)
  | poisoned
  | runtime (error : RuntimeError)
deriving DecidableEq, Repr

/-- How a status is shown in an error. -/
def VrbStatus.debugName : VrbStatus → String
  | ok => "Ok"
  | invalidArgument => "InvalidArgument"
  | unsupported => "Unsupported"
  | unavailable => "Unavailable"
  | internalError => "InternalError"

/-- The text of an error of the runtime. -/
def runtimeErrorText : RuntimeError → String
  | .invalidBackendId => "backend id cannot be empty"
  | .duplicateBackend id => s!"backend '{id.value}' is already registered"
  | .noCompatibleBackend => "no compatible backend is available"
  | .routing message => s!"routing policy failed: {message}"

/-- The text of an error. -/
def PluginLoadError.text : PluginLoadError → String
  | load path source => s!"unable to load plugin '{path}': {source}"
  | missingEntry source => s!"plugin entry symbol is missing: {source}"
  | nullDescriptor => "plugin entry returned a null descriptor"
  | abiVersion actual expected =>
    s!"plugin ABI version {actual.toNat} is incompatible with host ABI {expected.toNat}"
  | descriptorTooSmall actual expected =>
    s!"plugin descriptor is too small: {actual.toNat} bytes, expected at least {expected.toNat}"
  | nullName => "plugin name pointer is null"
  | emptyName => "plugin name is empty"
  | missingProbe => "plugin probe callback is missing"
  | missingExecute => "plugin execute callback is missing"
  | pluginStatus status => s!"plugin returned status {status.debugName}"
  | poisoned => "plugin state lock is poisoned"
  | runtime error => runtimeErrorText error

/-- What the host gets from the file of a plugin: whether it can be loaded, and the descriptor that
its entry returns, unless there is no entry. -/
structure PluginImage where
  library : Except String Unit
  entry : Except String (Option VrbPluginV1)

/-- The kind of backend that a plugin tells, where any other kind is a plugin. -/
def mapBackendKind : VrbBackendKind → BackendKind
  | .cpu => .cpu
  | .vulkan => .vulkan
  | .hip => .hip
  | .hybrid => .hybrid
  | .other => .plugin

/-- One of the flags is set. -/
def hasFlag (bits flag : BitVec 64) : Bool := bits &&& flag != 0#64

/-- The data types of a mask, or the unknown one when it has none. -/
def dataTypesFromBits (bits : BitVec 64) : List DataType :=
  let types := (if hasFlag bits Capability.fp32 then [DataType.f32] else []) ++
    ((if hasFlag bits Capability.fp16 then [DataType.f16] else []) ++
      if hasFlag bits Capability.int8 then [DataType.i8] else [])
  if types.isEmpty then [.unknown] else types

/-- The text in an array of characters that ends at the first zero. -/
def abiCharsToString {n : ℕ} (value : Vector Byte n) : String :=
  Text.trim (Text.fromUtf8Lossy (value.toList.takeWhile (· ≠ 0#8)))

/-- A callback must return the status `ok`. -/
def statusResult (status : VrbStatus) : Except PluginLoadError Unit :=
  Except.rejectIf (status ≠ .ok) (.pluginStatus status)

/-- A loaded plugin. Its functions are called one at a time, under a lock that no call poisons. -/
structure DynamicPluginBackend where
  id : BackendId
  name : String
  kind : BackendKind
  capabilityBits : BitVec 64
  userData : BitVec 64
  probeFn : ProbeFn
  executeFn : Option ExecuteFn
  shutdown : Bool

namespace DynamicPluginBackend

/-- The checks of a descriptor, after which the plugin is loaded. -/
def ofDescriptor (descriptor : VrbPluginV1) : Except PluginLoadError DynamicPluginBackend := do
  Except.rejectIf (descriptor.abiVersion ≠ vrbPluginAbiVersion)
    (.abiVersion descriptor.abiVersion vrbPluginAbiVersion)
  let expectedSize := expectedPluginStructSize
  Except.rejectIf (descriptor.structSize < expectedSize)
    (.descriptorTooSmall descriptor.structSize expectedSize)
  let bytes ← descriptor.name.okOr .nullName
  let name := Text.trim (Text.fromUtf8Lossy bytes)
  Except.rejectIf (name = "") .emptyName
  let probe ← descriptor.probe.okOr .missingProbe
  let id ← (BackendId.new ("plugin:" ++ name)).mapError .runtime
  return {
    id
    name
    kind := mapBackendKind descriptor.backendKind
    capabilityBits := descriptor.capabilityBits
    userData := descriptor.userData
    probeFn := probe
    executeFn := descriptor.execute
    shutdown := descriptor.shutdown }

/-- What follows the loading of the library. -/
def ofEntry (entry : Except String (Option VrbPluginV1)) :
    Except PluginLoadError DynamicPluginBackend := do
  let pointer ← entry.mapError .missingEntry
  let descriptor ← pointer.okOr .nullDescriptor
  ofDescriptor descriptor

/-- The backend of a plugin at a path. -/
def load (path : String) (image : PluginImage) : Except PluginLoadError DynamicPluginBackend := do
  image.library.mapError (.load path)
  ofEntry image.entry

variable (plugin : DynamicPluginBackend)

/-- A call of the execute callback. -/
def executeRaw (request : VrbExecutionRequestV1) : Except PluginLoadError Unit := do
  let execute ← plugin.executeFn.okOr .missingExecute
  statusResult (execute plugin.userData request)

/-- What the probe callback says. -/
def probePlugin : Except PluginLoadError VrbBackendInfoV1 := do
  let (status, info) := plugin.probeFn plugin.userData {}
  statusResult status
  return info

/-- The probe that the host makes of what the plugin says. -/
def describe (info : VrbBackendInfoV1) : BackendProbe :=
  let name := abiCharsToString info.name
  let bits := info.capabilityBits ||| plugin.capabilityBits
  {
    id := plugin.id
    kind := mapBackendKind info.backendKind
    name := if name = "" then plugin.name else name
    vendor := abiCharsToString info.vendor
    available := 0#32 < info.deviceCount
    deviceCount := info.deviceCount
    detail := s!"plugin ABI v{vrbPluginAbiVersion.toNat}"
    capabilities := {
      operations := [.custom]
      dataTypes := dataTypesFromBits bits
      externalMemory := hasFlag bits Capability.externalMemory
      externalSemaphore := hasFlag bits Capability.externalSemaphore
      zeroCopy := hasFlag bits Capability.zeroCopy } }

/-- The probe of the plugin, whose errors are passed on as texts. -/
def probe : Except BackendError BackendProbe := do
  let info ← plugin.probePlugin.mapError fun error => .probe error.text
  return plugin.describe info

/-- The plugin, as a backend. -/
def backend : ComputeBackend := ⟨plugin.id, plugin.kind, plugin.probe⟩

/-! ### Names -/

variable {plugin}

/-- The name of a loaded plugin is part of its identifier, as it is. -/
theorem id_of_ofDescriptor {descriptor : VrbPluginV1}
    (h : ofDescriptor descriptor = .ok plugin) : plugin.id = ⟨"plugin:" ++ plugin.name⟩ := by
  simp only [ofDescriptor, BackendId.new, Except.bind_eq_ok_iff, Except.mapError_eq_ok_iff,
    Except.rejectIf_eq_ok_iff, Except.pure_eq_ok_iff] at h
  obtain ⟨_, _, _, _, bytes, _, _, hname, probe, _, id, ⟨_, _, hid⟩, rfl⟩ := h
  have htrim : Text.trim ("plugin:" ++ Text.trim (Text.fromUtf8Lossy bytes)) =
      "plugin:" ++ Text.trim (Text.fromUtf8Lossy bytes) :=
    Text.trim_append_trim (by decide) (by decide) hname
  rw [← hid, htrim]

theorem id_of_load {path : String} {image : PluginImage} (h : load path image = .ok plugin) :
    plugin.id = ⟨"plugin:" ++ plugin.name⟩ := by
  simp only [load, ofEntry, Except.bind_eq_ok_iff] at h
  obtain ⟨_, _, _, _, descriptor, _, hplugin⟩ := h
  exact id_of_ofDescriptor hplugin

/-- What a probe reports comes from what the plugin says. -/
theorem probe_eq_ok_iff {probe : BackendProbe} :
    plugin.probe = .ok probe ↔
      ∃ info, plugin.probeFn plugin.userData {} = (.ok, info) ∧ plugin.describe info = probe := by
  simp only [DynamicPluginBackend.probe, probePlugin, statusResult, Except.bind_eq_ok_iff,
    Except.mapError_eq_ok_iff, Except.rejectIf_eq_ok_iff, Except.pure_eq_ok_iff, not_not]
  constructor
  · rintro ⟨info, ⟨_, hstatus, hinfo⟩, hprobe⟩
    exact ⟨info, Prod.ext hstatus hinfo, hprobe⟩
  · rintro ⟨info, hcall, hprobe⟩
    exact ⟨info, ⟨(), congrArg Prod.fst hcall, congrArg Prod.snd hcall⟩, hprobe⟩

end DynamicPluginBackend

end RiftGPU.Backends
