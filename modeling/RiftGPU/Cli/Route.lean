import RiftGPU.Backends.Builtin
import RiftGPU.Backends.Plugin
import RiftGPU.Core.Routing

/-!
# Routing on the command line

The command line builds a runtime of the backends that are always there and of the plugins that it
is given, and routes an operation in it. This file models `build_runtime`, `doctor` and `route` of
`vrb-cli`, by what they return.

## Main definitions

* `Cli.buildRuntime`, `Cli.doctor`, `Cli.route`.
* `Cli.Contender`: the backends that can own an operation, from what the machine and the plugins
  say.

## Main results

* `Cli.route_eq_ok_iff`: the backend that owns an operation.
-/

namespace RiftGPU.Cli

open Backends

/-- The ways in which a command can fail. -/
inductive CliError where
  | plugin (path : String) (error : PluginLoadError)
  | runtime (error : RuntimeError)
deriving DecidableEq, Repr

/-- A path, and what the host gets from the file there. -/
abbrev PluginFile := String × PluginImage

/-- A plugin is loaded and registered. -/
def addPlugin (builder : RuntimeBuilder) (file : PluginFile) : Except CliError RuntimeBuilder := do
  let plugin ← (DynamicPluginBackend.load file.1 file.2).mapError (.plugin file.1)
  (builder.backend plugin.backend).mapError .runtime

/-- The runtime with the backends that are always there and the plugins, in this order. -/
def buildRuntime (machine : Machine) (plugins : List PluginFile) : Except CliError Runtime := do
  let builder ← (machine.backends.foldlM RuntimeBuilder.backend {}).mapError .runtime
  let builder ← plugins.foldlM addPlugin builder
  return builder.build

/-- The probes that are shown. -/
def doctor (machine : Machine) (plugins : List PluginFile) :
    Except CliError (List BackendProbe) := do
  let runtime ← buildRuntime machine plugins
  return runtime.probes

/-- The request for an operation. -/
def request (operation : OperationKind) (dataType : DataType) (zeroCopy : Bool) : RouteRequest :=
  let request := RouteRequest.new operation dataType
  if zeroCopy then request.zeroCopy else request

/-- The backend that a request is routed to. -/
def route (machine : Machine) (plugins : List PluginFile) (operation : OperationKind)
    (dataType : DataType) (zeroCopy : Bool) : Except CliError BackendId := do
  let runtime ← buildRuntime machine plugins
  (runtime.route (request operation dataType zeroCopy)).mapError .runtime

/-! ### Registering backends -/

section

variable {builder : RuntimeBuilder} {backends : List ComputeBackend}

/-- A backend with a new name is added to those of the builder. -/
theorem backend_of_new (backend : ComputeBackend) (hholds : builder.registry.Holds backends)
    (hnew : backend.id ∉ backends.map ComputeBackend.id) :
    ∃ registry : BackendRegistry, registry.Holds (backends ++ [backend]) ∧
      builder.backend backend = .ok { builder with registry } := by
  have hnone : builder.registry.get backend.id = none := by
    refine Option.eq_none_iff_forall_ne_some.2 fun other hother => hnew ?_
    obtain ⟨hmem, hid⟩ := (hholds _ _).1 hother
    exact hid ▸ List.mem_map_of_mem hmem
  refine ⟨⟨builder.registry.backends.insert backend.id backend⟩, fun id other => ?_, ?_⟩
  · rw [List.mem_append, List.mem_singleton]
    by_cases hid : id = backend.id
    · subst hid
      have hself : BackendRegistry.get ⟨builder.registry.backends.insert backend.id backend⟩
          backend.id = some backend := Std.ExtTreeMap.getElem?_insert_self
      rw [hself, Option.some.injEq]
      refine ⟨fun heq => heq ▸ ⟨.inr rfl, rfl⟩, fun ⟨hor, hid⟩ => hor.elim (fun hmem => ?_) Eq.symm⟩
      exact absurd (hid ▸ List.mem_map_of_mem hmem) hnew
    · have hne : BackendRegistry.get ⟨builder.registry.backends.insert backend.id backend⟩ id =
          builder.registry.get id := OrderedMap.getElem?_insert_of_ne hid
      rw [hne, hholds]
      refine ⟨fun h => ⟨.inl h.1, h.2⟩, fun ⟨hor, hother⟩ => ⟨hor.resolve_right ?_, hother⟩⟩
      rintro rfl
      exact hid hother.symm
  · rw [RuntimeBuilder.backend, BackendRegistry.register_of_get_eq_none hnone]
    rfl

theorem backend_of_known (backend : ComputeBackend) (hholds : builder.registry.Holds backends)
    (hknown : backend.id ∈ backends.map ComputeBackend.id) :
    builder.backend backend = .error (.duplicateBackend backend.id) := by
  obtain ⟨other, hmem, hid⟩ := List.mem_map.1 hknown
  have hcontains : builder.registry.backends.contains backend.id := by
    rw [← Std.ExtTreeMap.isSome_getElem?_eq_contains, Option.isSome_iff_exists]
    exact ⟨other, (hholds _ _).2 ⟨hmem, hid⟩⟩
  rw [RuntimeBuilder.backend, BackendRegistry.register, Except.rejectIf, if_pos hcontains]
  rfl

/-- The plugin is what is loaded from the file. -/
def Loads (file : PluginFile) (plugin : DynamicPluginBackend) : Prop :=
  DynamicPluginBackend.load file.1 file.2 = .ok plugin

variable {file : PluginFile} {plugin : DynamicPluginBackend}

theorem addPlugin_of_new (hholds : builder.registry.Holds backends) (hload : Loads file plugin)
    (hnew : plugin.id ∉ backends.map ComputeBackend.id) :
    ∃ registry : BackendRegistry, registry.Holds (backends ++ [plugin.backend]) ∧
      addPlugin builder file = .ok { builder with registry } := by
  obtain ⟨registry, hregistry, hstep⟩ := backend_of_new plugin.backend hholds hnew
  exact ⟨registry, hregistry, by rw [addPlugin, hload, Except.mapError, Except.ok_bind, hstep]; rfl⟩

theorem addPlugin_of_known (hholds : builder.registry.Holds backends) (hload : Loads file plugin)
    (hknown : plugin.id ∈ backends.map ComputeBackend.id) :
    addPlugin builder file = .error (.runtime (.duplicateBackend plugin.id)) := by
  rw [addPlugin, hload, Except.mapError, Except.ok_bind,
    backend_of_known plugin.backend hholds hknown]
  rfl

end

/-- The names of the backends and of the plugins are distinct. -/
def DistinctIds (backends : List ComputeBackend) (loaded : List DynamicPluginBackend) : Prop :=
  (backends.map ComputeBackend.id ++ loaded.map DynamicPluginBackend.id).Nodup

theorem distinctIds_cons {backends : List ComputeBackend} {plugin : DynamicPluginBackend}
    {loaded : List DynamicPluginBackend} :
    DistinctIds backends (plugin :: loaded) ↔
      DistinctIds (backends ++ [plugin.backend]) loaded := by
  rw [DistinctIds, DistinctIds, List.map_append, List.append_assoc]
  rfl

/-- The plugins are added when all of them can be loaded, with names that differ from each other and
from those before. -/
theorem addPlugins_cases (builder : RuntimeBuilder) {backends : List ComputeBackend}
    (hholds : builder.registry.Holds backends) (hids : (backends.map ComputeBackend.id).Nodup)
    (plugins : List PluginFile) :
    (∃ (loaded : List DynamicPluginBackend) (registry : BackendRegistry),
      List.Forall₂ Loads plugins loaded ∧ DistinctIds backends loaded ∧
      registry.Holds (backends ++ loaded.map DynamicPluginBackend.backend) ∧
      plugins.foldlM addPlugin builder = .ok { builder with registry }) ∨
    (∃ error, plugins.foldlM addPlugin builder = .error error) ∧
      ∀ loaded, List.Forall₂ Loads plugins loaded → ¬DistinctIds backends loaded := by
  induction plugins generalizing builder backends with
  | nil =>
    refine .inl ⟨[], builder.registry, .nil, ?_, ?_, rfl⟩
    · rwa [DistinctIds, List.map_nil, List.append_nil]
    · rwa [List.map_nil, List.append_nil]
  | cons file plugins ih =>
    rw [List.foldlM_cons]
    -- What the other plugins are loaded as says whether the loop succeeds, unless this one fails.
    have hfirst {loaded : List DynamicPluginBackend}
        (h : List.Forall₂ Loads (file :: plugins) loaded) {plugin : DynamicPluginBackend}
        (hload : Loads file plugin) :
        ∃ rest, List.Forall₂ Loads plugins rest ∧ loaded = plugin :: rest := by
      obtain ⟨other, rest, hother, hrest, rfl⟩ := List.forall₂_cons_left_iff.1 h
      obtain rfl := Except.ok.inj (hload.symm.trans hother)
      exact ⟨rest, hrest, rfl⟩
    cases hload : DynamicPluginBackend.load file.1 file.2 with
    | error error =>
      refine .inr ⟨⟨.plugin file.1 error, by rw [addPlugin, hload]; rfl⟩, fun loaded h => ?_⟩
      obtain ⟨plugin, _, hplugin, -, -⟩ := List.forall₂_cons_left_iff.1 h
      rw [Loads, hload] at hplugin
      cases hplugin
    | ok plugin =>
      by_cases hknown : plugin.id ∈ backends.map ComputeBackend.id
      · rw [addPlugin_of_known hholds hload hknown]
        refine .inr ⟨⟨_, rfl⟩, fun loaded h hdistinct => ?_⟩
        obtain ⟨rest, -, rfl⟩ := hfirst h hload
        exact (List.nodup_append.1 hdistinct).2.2 _ hknown _ List.mem_cons_self rfl
      · obtain ⟨registry, hregistry, hstep⟩ := addPlugin_of_new hholds hload hknown
        rw [hstep, Except.ok_bind]
        have hnodup : ((backends ++ [plugin.backend]).map ComputeBackend.id).Nodup := by
          rw [List.map_append]
          exact List.nodup_append.2 ⟨hids, List.nodup_singleton _, fun id hid other hother heq =>
            hknown (by rwa [heq, List.mem_singleton.1 hother] at hid)⟩
        obtain ⟨loaded, registry', hloads, hdistinct, hholds', hok⟩ | ⟨herror, hfails⟩ :=
          ih { builder with registry } hregistry hnodup
        · refine .inl ⟨plugin :: loaded, registry', .cons hload hloads,
            distinctIds_cons.2 hdistinct, ?_, hok⟩
          rwa [List.append_assoc] at hholds'
        · refine .inr ⟨herror, fun loaded h hdistinct => ?_⟩
          obtain ⟨rest, hrest, rfl⟩ := hfirst h hload
          exact hfails rest hrest (distinctIds_cons.1 hdistinct)

/-! ### The runtime -/

/-- A plugin cannot have the name of a backend that is always there. -/
theorem distinctIds_machine_iff {machine : Machine} {plugins : List PluginFile}
    {loaded : List DynamicPluginBackend} (hloads : List.Forall₂ Loads plugins loaded) :
    DistinctIds machine.backends loaded ↔ (loaded.map DynamicPluginBackend.name).Nodup := by
  have hid : ∀ plugin ∈ loaded, plugin.id = ⟨"plugin:" ++ plugin.name⟩ := by
    intro plugin hplugin
    obtain ⟨i, hi, rfl⟩ := List.mem_iff_getElem.1 hplugin
    exact DynamicPluginBackend.id_of_load
      (hloads.get (by rw [hloads.length_eq]; exact hi) hi)
  have hmap : loaded.map DynamicPluginBackend.id =
      (loaded.map DynamicPluginBackend.name).map fun name => ⟨"plugin:" ++ name⟩ := by
    rw [List.map_map]
    exact List.map_congr_left hid
  have hinjective : Function.Injective fun name => BackendId.mk ("plugin:" ++ name) := by
    intro name other heq
    exact (String.append_right_inj _).1 (BackendId.mk.inj heq)
  rw [DistinctIds, hmap, List.nodup_append, List.nodup_map_iff hinjective]
  refine ⟨fun h => h.2.1, fun h => ⟨machine.nodup_ids_backends, h, fun id hid' other hother => ?_⟩⟩
  obtain ⟨name, -, rfl⟩ := List.mem_map.1 hother
  have hhead : ∀ id ∈ machine.backends.map ComputeBackend.id, id.value.toList.head? ≠ some 'p' := by
    rw [machine.ids_backends]
    decide
  rintro rfl
  exact hhead _ hid' (by rw [String.toList_append]; rfl)

theorem buildRuntime_cases (machine : Machine) (plugins : List PluginFile) :
    (∃ (loaded : List DynamicPluginBackend) (registry : BackendRegistry),
      List.Forall₂ Loads plugins loaded ∧ (loaded.map DynamicPluginBackend.name).Nodup ∧
      registry.Holds (machine.backends ++ loaded.map DynamicPluginBackend.backend) ∧
      buildRuntime machine plugins = .ok ⟨registry, FastestCompatible.select, ⟨[]⟩⟩) ∨
    (∃ error, buildRuntime machine plugins = .error error) ∧
      ∀ loaded, List.Forall₂ Loads plugins loaded →
        ¬(loaded.map DynamicPluginBackend.name).Nodup := by
  have hids := machine.nodup_ids_backends
  obtain ⟨registry, hrun, hget⟩ := RuntimeBuilder.register_all {} hids fun _ _ => by
    simp [BackendRegistry.get]
  have hholds : registry.Holds machine.backends := fun id backend => by
    rw [hget, or_iff_left]
    simp [BackendRegistry.get]
  have hbuild : buildRuntime machine plugins =
      plugins.foldlM addPlugin { registry } >>= fun builder => pure builder.build := by
    rw [buildRuntime, hrun]
    rfl
  rw [hbuild]
  obtain ⟨loaded, registry', hloads, hdistinct, hholds', hok⟩ | ⟨⟨error, herror⟩, hfails⟩ :=
    addPlugins_cases { registry } hholds hids plugins
  · have hnames := (distinctIds_machine_iff hloads).1 hdistinct
    refine .inl ⟨loaded, registry', hloads, hnames, hholds', ?_⟩
    rw [hok]
    rfl
  · refine .inr ⟨⟨error, by rw [herror]; rfl⟩, fun loaded hloads hnames => ?_⟩
    exact hfails loaded hloads ((distinctIds_machine_iff hloads).2 hnames)

/-! ### The owner of an operation -/

/-- A backend that can own an operation, by its rank and its name. -/
inductive Contender (machine : Machine) (loaded : List DynamicPluginBackend) :
    OperationKind → DataType → Bool → ℕ → BackendId → Prop where
  | cpu {operation : OperationKind} {dataType : DataType}
    (hoperation : operation = .copy ∨ operation = .vectorAdd)
    (hdataType : dataType = .f32 ∨ dataType = .i8) :
    Contender machine loaded operation dataType false BackendKind.cpu.rank ⟨"cpu"⟩
  | vulkan {operation : OperationKind} {zeroCopy : Bool} {info : Vulkan.VulkanRuntimeInfo}
    {device : Vulkan.VulkanDeviceInfo} (hoperation : operation = .copy ∨ operation = .custom)
    (hinfo : machine.vulkan.runtimeInfo = .ok info)
    (hdevice : info.preferredComputeDevice = some device)
    (hmemory : zeroCopy = true → device.externalMemory ∧ device.externalSemaphore) :
    Contender machine loaded operation .unknown zeroCopy BackendKind.vulkan.rank ⟨"vulkan"⟩
  | hip {zeroCopy : Bool} {info : HipRuntimeInfo} (hinfo : machine.hip.runtimeInfo = .ok info)
    (hdevices : info.devices ≠ [])
    (hmemory : zeroCopy = true → info.externalMemoryApi ∧ info.externalSemaphoreApi) :
    Contender machine loaded .custom .unknown zeroCopy BackendKind.hip.rank ⟨"hip"⟩
  | plugin {dataType : DataType} {zeroCopy : Bool} {plugin : DynamicPluginBackend}
    {info : VrbBackendInfoV1} (hloaded : plugin ∈ loaded)
    (hinfo : plugin.probeFn plugin.userData {} = (.ok, info)) (hdevices : 0#32 < info.deviceCount)
    (hdataType : dataType ∈ dataTypesFromBits (info.capabilityBits ||| plugin.capabilityBits))
    (hmemory : zeroCopy = true →
      ∀ flag ∈ [Capability.externalMemory, Capability.externalSemaphore, Capability.zeroCopy],
        hasFlag (info.capabilityBits ||| plugin.capabilityBits) flag) :
    Contender machine loaded .custom dataType zeroCopy (mapBackendKind info.backendKind).rank
      plugin.id

theorem loads_unique {plugins : List PluginFile} {loaded loaded' : List DynamicPluginBackend}
    (h : List.Forall₂ Loads plugins loaded) (h' : List.Forall₂ Loads plugins loaded') :
    loaded = loaded' :=
  List.right_unique_forall₂' (fun _ _ _ h h' => Except.ok.inj (h.symm.trans h')) h h'

/-- What a backend must offer for an operation. -/
theorem supports_request_iff {capabilities : CapabilitySet} {operation : OperationKind}
    {dataType : DataType} {zeroCopy : Bool} :
    capabilities.supports (request operation dataType zeroCopy) ↔
      operation ∈ capabilities.operations ∧ dataType ∈ capabilities.dataTypes ∧
        (zeroCopy = true → capabilities.externalMemory ∧ capabilities.externalSemaphore ∧
          capabilities.zeroCopy) := by
  cases zeroCopy <;>
    simp [CapabilitySet.supports, request, RouteRequest.new, RouteRequest.zeroCopy, and_assoc]

/-- The backend is available and supports the request, and its probe has this rank and name. -/
def Offers (backend : ComputeBackend) (request : RouteRequest) (rank : ℕ) (id : BackendId) : Prop :=
  ∃ probe, backend.probe = .ok probe ∧ probe.available ∧ probe.capabilities.supports request ∧
    probe.kind.rank = rank ∧ probe.id = id

section

variable {machine : Machine} {operation : OperationKind} {dataType : DataType} {zeroCopy : Bool}
  {rank : ℕ} {id : BackendId}

theorem offers_cpu_iff :
    Offers machine.cpuBackend (request operation dataType zeroCopy) rank id ↔
      (operation = .copy ∨ operation = .vectorAdd) ∧ (dataType = .f32 ∨ dataType = .i8) ∧
        zeroCopy = false ∧ BackendKind.cpu.rank = rank ∧ ⟨"cpu"⟩ = id := by
  constructor
  · rintro ⟨probe, hprobe, -, hsupports, hrank, hid⟩
    obtain rfl := Except.ok.inj hprobe
    obtain ⟨hoperation, hdataType, hmemory⟩ := supports_request_iff.1 hsupports
    refine ⟨by simpa [CpuBackend.probe] using hoperation,
      by simpa [CpuBackend.probe] using hdataType, ?_, hrank, hid⟩
    exact Bool.eq_false_iff.2 fun h => Bool.false_ne_true (hmemory h).1
  · rintro ⟨hoperation, hdataType, rfl, hrank, hid⟩
    refine ⟨_, rfl, rfl, supports_request_iff.2 ⟨?_, ?_, fun h => by cases h⟩, hrank, hid⟩
    · simpa [CpuBackend.probe] using hoperation
    · simpa [CpuBackend.probe] using hdataType

theorem offers_vulkan_iff :
    Offers machine.vulkanBackend (request operation dataType zeroCopy) rank id ↔
      (operation = .copy ∨ operation = .custom) ∧ dataType = .unknown ∧
        (∃ info device, machine.vulkan.runtimeInfo = .ok info ∧
          info.preferredComputeDevice = some device ∧
          (zeroCopy = true → device.externalMemory ∧ device.externalSemaphore)) ∧
        BackendKind.vulkan.rank = rank ∧ ⟨"vulkan"⟩ = id := by
  constructor
  · rintro ⟨probe, hprobe, havailable, hsupports, hrank, hid⟩
    obtain ⟨info, hinfo, rfl⟩ := VulkanAnswers.probe_eq_ok_iff.1 hprobe
    obtain ⟨device, hdevice⟩ := Option.isSome_iff_exists.1 havailable
    obtain ⟨hoperation, hdataType, hmemory⟩ := supports_request_iff.1 hsupports
    refine ⟨by simpa [Vulkan.VulkanRuntimeInfo.probe] using hoperation,
      by simpa [Vulkan.VulkanRuntimeInfo.probe] using hdataType,
      ⟨info, device, hinfo, hdevice, fun h => ?_⟩, hrank, hid⟩
    obtain ⟨hexternal, hsemaphore, -⟩ := hmemory h
    simp only [Vulkan.VulkanRuntimeInfo.probe, hdevice, Option.any_some] at hexternal hsemaphore
    exact ⟨hexternal, hsemaphore⟩
  · rintro ⟨hoperation, rfl, ⟨info, device, hinfo, hdevice, hmemory⟩, hrank, hid⟩
    refine ⟨_, VulkanAnswers.probe_eq_ok_iff.2 ⟨info, hinfo, rfl⟩,
      Option.isSome_iff_exists.2 ⟨device, hdevice⟩,
      supports_request_iff.2 ⟨?_, List.mem_singleton_self _, fun h => ?_⟩, hrank, hid⟩
    · simpa [Vulkan.VulkanRuntimeInfo.probe] using hoperation
    · obtain ⟨hexternal, hsemaphore⟩ := hmemory h
      simp [Vulkan.VulkanRuntimeInfo.probe, hdevice, hexternal, hsemaphore]

theorem offers_hip_iff :
    Offers machine.hipBackend (request operation dataType zeroCopy) rank id ↔
      operation = .custom ∧ dataType = .unknown ∧
        (∃ info, machine.hip.runtimeInfo = .ok info ∧ info.devices ≠ [] ∧
          (zeroCopy = true → info.externalMemoryApi ∧ info.externalSemaphoreApi)) ∧
        BackendKind.hip.rank = rank ∧ ⟨"hip"⟩ = id := by
  constructor
  · rintro ⟨probe, hprobe, havailable, hsupports, hrank, hid⟩
    obtain ⟨info, hinfo, rfl⟩ := HipAnswers.probe_eq_ok_iff.1 hprobe
    obtain ⟨hoperation, hdataType, hmemory⟩ := supports_request_iff.1 hsupports
    refine ⟨List.mem_singleton.1 hoperation, List.mem_singleton.1 hdataType,
      ⟨info, hinfo, ?_, fun h => ?_⟩, hrank, hid⟩
    · simpa [HipRuntimeInfo.probe] using havailable
    · obtain ⟨hexternal, hsemaphore, -⟩ := hmemory h
      exact ⟨hexternal, hsemaphore⟩
  · rintro ⟨rfl, rfl, ⟨info, hinfo, hdevices, hmemory⟩, hrank, hid⟩
    refine ⟨_, HipAnswers.probe_eq_ok_iff.2 ⟨info, hinfo, rfl⟩, ?_,
      supports_request_iff.2 ⟨List.mem_singleton_self _, List.mem_singleton_self _, fun h => ?_⟩,
      hrank, hid⟩
    · simpa [HipRuntimeInfo.probe] using hdevices
    · obtain ⟨hexternal, hsemaphore⟩ := hmemory h
      simp [HipRuntimeInfo.probe, hexternal, hsemaphore]

theorem offers_plugin_iff {plugin : DynamicPluginBackend} :
    Offers plugin.backend (request operation dataType zeroCopy) rank id ↔
      operation = .custom ∧ (∃ info, plugin.probeFn plugin.userData {} = (.ok, info) ∧
        0#32 < info.deviceCount ∧
        dataType ∈ dataTypesFromBits (info.capabilityBits ||| plugin.capabilityBits) ∧
        (zeroCopy = true →
          ∀ flag ∈ [Capability.externalMemory, Capability.externalSemaphore, Capability.zeroCopy],
            hasFlag (info.capabilityBits ||| plugin.capabilityBits) flag) ∧
        (mapBackendKind info.backendKind).rank = rank) ∧ plugin.id = id := by
  constructor
  · rintro ⟨probe, hprobe, havailable, hsupports, hrank, hid⟩
    obtain ⟨info, hinfo, rfl⟩ := DynamicPluginBackend.probe_eq_ok_iff.1 hprobe
    obtain ⟨hoperation, hdataType, hmemory⟩ := supports_request_iff.1 hsupports
    refine ⟨List.mem_singleton.1 hoperation, ⟨info, hinfo, of_decide_eq_true havailable, hdataType,
      fun h => ?_, hrank⟩, hid⟩
    simpa [DynamicPluginBackend.describe] using hmemory h
  · rintro ⟨rfl, ⟨info, hinfo, hdevices, hdataType, hmemory, hrank⟩, hid⟩
    refine ⟨_, DynamicPluginBackend.probe_eq_ok_iff.2 ⟨info, hinfo, rfl⟩,
      decide_eq_true hdevices,
      supports_request_iff.2 ⟨List.mem_singleton_self _, hdataType, fun h => ?_⟩, hrank, hid⟩
    simpa [DynamicPluginBackend.describe] using hmemory h

/-- The contenders are the compatible backends. -/
theorem contender_iff {loaded : List DynamicPluginBackend} :
    Contender machine loaded operation dataType zeroCopy rank id ↔
      ∃ probe, Runtime.Compatible (machine.backends ++ loaded.map DynamicPluginBackend.backend)
        (request operation dataType zeroCopy) probe ∧ probe.kind.rank = rank ∧ probe.id = id := by
  have hoffers : (∃ probe, Runtime.Compatible
      (machine.backends ++ loaded.map DynamicPluginBackend.backend)
        (request operation dataType zeroCopy) probe ∧ probe.kind.rank = rank ∧ probe.id = id) ↔
      ∃ backend ∈ machine.backends ++ loaded.map DynamicPluginBackend.backend,
        Offers backend (request operation dataType zeroCopy) rank id :=
    ⟨fun ⟨probe, ⟨backend, hmem, hprobe, havailable, hsupports⟩, hrank, hid⟩ =>
      ⟨backend, hmem, probe, hprobe, havailable, hsupports, hrank, hid⟩,
    fun ⟨backend, hmem, probe, hprobe, havailable, hsupports, hrank, hid⟩ =>
      ⟨probe, ⟨backend, hmem, hprobe, havailable, hsupports⟩, hrank, hid⟩⟩
  rw [hoffers]
  constructor
  · intro h
    cases h with
    | cpu hoperation hdataType =>
      exact ⟨machine.cpuBackend, by simp [Machine.backends],
        offers_cpu_iff.2 ⟨hoperation, hdataType, rfl, rfl, rfl⟩⟩
    | vulkan hoperation hinfo hdevice hmemory =>
      exact ⟨machine.vulkanBackend, by simp [Machine.backends],
        offers_vulkan_iff.2 ⟨hoperation, rfl, ⟨_, _, hinfo, hdevice, hmemory⟩, rfl, rfl⟩⟩
    | hip hinfo hdevices hmemory =>
      exact ⟨machine.hipBackend, by simp [Machine.backends],
        offers_hip_iff.2 ⟨rfl, rfl, ⟨_, hinfo, hdevices, hmemory⟩, rfl, rfl⟩⟩
    | plugin hloaded hinfo hdevices hdataType hmemory =>
      exact ⟨_, List.mem_append_right _ (List.mem_map_of_mem hloaded),
        offers_plugin_iff.2 ⟨rfl, ⟨_, hinfo, hdevices, hdataType, hmemory, rfl⟩, rfl⟩⟩
  · rintro ⟨backend, hmem, hoffers⟩
    obtain hbuiltin | hplugin := List.mem_append.1 hmem
    · simp only [Machine.backends, List.mem_cons, List.not_mem_nil, or_false] at hbuiltin
      obtain rfl | rfl | rfl := hbuiltin
      · obtain ⟨hoperation, hdataType, rfl, rfl, rfl⟩ := offers_cpu_iff.1 hoffers
        exact .cpu hoperation hdataType
      · obtain ⟨hoperation, rfl, ⟨_, _, hinfo, hdevice, hmemory⟩, rfl, rfl⟩ :=
          offers_vulkan_iff.1 hoffers
        exact .vulkan hoperation hinfo hdevice hmemory
      · obtain ⟨rfl, rfl, ⟨_, hinfo, hdevices, hmemory⟩, rfl, rfl⟩ := offers_hip_iff.1 hoffers
        exact .hip hinfo hdevices hmemory
    · obtain ⟨plugin, hloaded, rfl⟩ := List.mem_map.1 hplugin
      obtain ⟨rfl, ⟨_, hinfo, hdevices, hdataType, hmemory, rfl⟩, rfl⟩ :=
        offers_plugin_iff.1 hoffers
      exact .plugin hloaded hinfo hdevices hdataType hmemory

end

/-- Every probe reports the name of its backend. -/
theorem id_probeOf {machine : Machine} {loaded : List DynamicPluginBackend} :
    ∀ backend ∈ machine.backends ++ loaded.map DynamicPluginBackend.backend,
      (BackendRegistry.probeOf backend).id = backend.id := by
  intro backend hmem
  rw [BackendRegistry.probeOf]
  split
  · next probe hprobe =>
    obtain hbuiltin | hplugin := List.mem_append.1 hmem
    · simp only [Machine.backends, List.mem_cons, List.not_mem_nil, or_false] at hbuiltin
      obtain rfl | rfl | rfl := hbuiltin
      · obtain rfl := Except.ok.inj hprobe
        rfl
      · obtain ⟨info, -, rfl⟩ := VulkanAnswers.probe_eq_ok_iff.1 hprobe
        rfl
      · obtain ⟨info, -, rfl⟩ := HipAnswers.probe_eq_ok_iff.1 hprobe
        rfl
    · obtain ⟨plugin, -, rfl⟩ := List.mem_map.1 hplugin
      obtain ⟨info, -, rfl⟩ := DynamicPluginBackend.probe_eq_ok_iff.1 hprobe
      rfl
  · rfl

/-- **Routing on the command line.** An operation is routed when all plugins can be loaded, under
different names, and there is a contender. The owner is the contender of least rank, and among
those of the same rank the one whose name comes first. -/
theorem route_eq_ok_iff (machine : Machine) (plugins : List PluginFile)
    (operation : OperationKind) (dataType : DataType) (zeroCopy : Bool) (id : BackendId) :
    route machine plugins operation dataType zeroCopy = .ok id ↔
      ∃ loaded, List.Forall₂ Loads plugins loaded ∧
        (loaded.map DynamicPluginBackend.name).Nodup ∧
        ∃ rank, Contender machine loaded operation dataType zeroCopy rank id ∧
          ∀ rank' id', Contender machine loaded operation dataType zeroCopy rank' id' →
            Precedes rank id rank' id' := by
  have hroute {loaded : List DynamicPluginBackend} {registry : BackendRegistry}
      (hholds : registry.Holds (machine.backends ++ loaded.map DynamicPluginBackend.backend)) :
      FastestCompatible.select (request operation dataType zeroCopy) registry.probes ⟨[]⟩ = .ok id ↔
        ∃ rank, Contender machine loaded operation dataType zeroCopy rank id ∧
          ∀ rank' id', Contender machine loaded operation dataType zeroCopy rank' id' →
            Precedes rank id rank' id' := by
    rw [Runtime.select_unmeasured_iff hholds id_probeOf]
    constructor
    · rintro ⟨best, hbest, rfl, hleast⟩
      refine ⟨best.kind.rank, contender_iff.2 ⟨best, hbest, rfl, rfl⟩, fun rank' id' h => ?_⟩
      obtain ⟨other, hother, rfl, rfl⟩ := contender_iff.1 h
      exact hleast other hother
    · rintro ⟨rank, h, hleast⟩
      obtain ⟨best, hbest, rfl, rfl⟩ := contender_iff.1 h
      exact ⟨best, hbest, rfl, fun other hother =>
        hleast _ _ (contender_iff.2 ⟨other, hother, rfl, rfl⟩)⟩
  obtain ⟨loaded, registry, hloads, hnames, hholds, hbuild⟩ | ⟨⟨error, herror⟩, hfails⟩ :=
    buildRuntime_cases machine plugins
  · have hrun : route machine plugins operation dataType zeroCopy = .ok id ↔
        FastestCompatible.select (request operation dataType zeroCopy) registry.probes ⟨[]⟩ =
          .ok id := by
      rw [route, hbuild, Except.ok_bind, Except.mapError_eq_ok_iff]
      rfl
    rw [hrun, hroute hholds]
    refine ⟨fun h => ⟨loaded, hloads, hnames, h⟩, fun ⟨loaded', hloads', _, h⟩ => ?_⟩
    rwa [loads_unique hloads hloads']
  · rw [route, herror]
    constructor
    · intro h
      cases h
    · rintro ⟨loaded, hloads, hnames, -⟩
      exact absurd hnames (hfails loaded hloads)

end RiftGPU.Cli
