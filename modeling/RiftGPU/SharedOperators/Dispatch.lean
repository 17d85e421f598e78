import RiftGPU.SharedOperators.Loader
import RiftGPU.SharedOperators.TestPlugin

/-!
# What reaches a shared-operator plugin

A registry of loaded operators calls a plugin only with what was validated and advertised. The
guarantee is spread over the layers: the registry validates regions and points and compares kinds
with the capabilities of an operator, the loader made these capabilities from the masks that the
plugin answered, the operator translates kinds back to tags and enforces the policy.

## Main definitions

* `DynamicSharedOperator.MadeFrom`: the operator stems from this descriptor and this answer.
* `LoadedOperator`: an operator of a library that the loader accepted.
* `Guaranteed`: what holds of a request that reaches a plugin.

## Main results

* `DynamicSharedOperator.buildRequest_spec`: a request carries its invocation.
* `discovery_spec`: what the discovery loop has found.
* `exists_madeFrom_of_load`: every loaded operator stems from an answer of the plugin.
* `SharedOperatorRegistry.execute_calls_guaranteed`: the guarantee for a registry.
-/

namespace RiftGPU.SharedOperators

open Bytes PluginAbi

/-! ### Kinds and tags -/

theorem and_bitFor_ne_zero_iff {bits : BitVec 64} {value : BitVec 32} :
    bits &&& bitFor value ≠ 0#64 ↔ value.toNat < 64 ∧ bits.getLsbD value.toNat = true := by
  unfold bitFor
  by_cases h : value < 64#32
  · have hlt : value.toNat < 64 := BitVec.lt_def.1 h
    rw [if_pos h, BitVec.and_one_shiftLeft_ne_zero_iff, and_iff_right hlt]
  · have hge : ¬value.toNat < 64 := fun hlt => h (BitVec.lt_def.2 hlt)
    simp [h, hge]

/-- The kinds of a table that are in a mask are those whose tag has its bit set. -/
theorem mem_mapKinds_iff {κ : Type} {candidates : List (BitVec 32 × κ)} {bits : BitVec 64}
    {kind : κ} :
    kind ∈ mapKinds candidates bits ↔
      ∃ raw, (raw, kind) ∈ candidates ∧ raw.toNat < 64 ∧ bits.getLsbD raw.toNat = true := by
  simp only [mapKinds, List.mem_filterMap, Option.ite_none_right_eq_some, Option.some.injEq,
    and_bitFor_ne_zero_iff, Prod.exists]
  constructor
  · rintro ⟨raw, _, hmem, hbit, rfl⟩
    exact ⟨raw, hmem, hbit⟩
  · rintro ⟨raw, hmem, hbit⟩
    exact ⟨raw, kind, hmem, hbit, rfl⟩

/-- A memory kind that was read from a mask goes back to a tag of that mask. -/
theorem memoryKindToRaw_of_mem {bits : BitVec 64} {kind : ExternalMemoryHandleKind}
    (h : kind ∈ mapMemoryKinds bits) :
    (memoryKindToRaw kind).toNat < 64 ∧ bits.getLsbD (memoryKindToRaw kind).toNat = true := by
  obtain ⟨raw, hmem, hbit⟩ := mem_mapKinds_iff.1 h
  have hraw : memoryKindToRaw kind = raw := by
    simp only [List.mem_cons, Prod.mk.injEq, List.not_mem_nil, or_false] at hmem
    obtain ⟨rfl, rfl⟩ | ⟨rfl, rfl⟩ | ⟨rfl, rfl⟩ | ⟨rfl, rfl⟩ := hmem <;> rfl
  rwa [hraw]

/-- A synchronization kind that was read from a mask goes back to a tag of that mask. -/
theorem syncKindToRaw_of_mem {bits : BitVec 64} {kind : ExternalSyncHandleKind}
    (h : kind ∈ mapSyncKinds bits) :
    (syncKindToRaw kind).toNat < 64 ∧ bits.getLsbD (syncKindToRaw kind).toNat = true := by
  obtain ⟨raw, hmem, hbit⟩ := mem_mapKinds_iff.1 h
  have hraw : syncKindToRaw kind = raw := by
    simp only [List.mem_cons, Prod.mk.injEq, List.not_mem_nil, or_false] at hmem
    obtain ⟨rfl, rfl⟩ | ⟨rfl, rfl⟩ | ⟨rfl, rfl⟩ := hmem <;> rfl
  rwa [hraw]

/-! ### From an invocation to a request -/

theorem readArray_slicePtr {α : Type} {slice : List α} {count : ℕ} (h : count = slice.length) :
    readArray (slicePtr slice) count = slice := by
  subst h
  cases slice <;> simp [readArray, slicePtr]

/-- A request that carries an invocation to a plugin: the same arrays with their lengths, within
the limits of a policy. -/
structure VrbSharedOperatorExecutionRequestV1.Carries
    (request : VrbSharedOperatorExecutionRequestV1) (policy : SharedOperatorLoadPolicy)
    (invocation : SharedOperatorInvocation) : Prop where
  metadata : request.metadata = invocation.metadata
  metadata_len : request.metadataLen.toNat = invocation.metadata.length
  resources : request.resources = invocation.resources.map mapResourceToAbi
  resource_count : request.resourceCount.toNat = invocation.resources.length
  waits : request.waits = invocation.waits.map mapSyncToAbi
  wait_count : request.waitCount.toNat = invocation.waits.length
  signals : request.signals = invocation.signals.map mapSyncToAbi
  signal_count : request.signalCount.toNat = invocation.signals.length
  metadata_le : invocation.metadata.length ≤ policy.maxMetadataBytes.toNat
  resources_le : invocation.resources.length ≤ policy.maxResources.toNat
  points_le :
    invocation.waits.length + invocation.signals.length ≤ policy.maxSyncPoints.toNat

namespace DynamicSharedOperator

/-- A request that is built carries its invocation under the policy of the plugin. -/
theorem buildRequest_spec {operator : DynamicSharedOperator}
    {invocation : SharedOperatorInvocation} {request : VrbSharedOperatorExecutionRequestV1}
    (h : operator.buildRequest invocation = .ok request) :
    request.operatorId = operator.operatorId ∧
      request.Carries operator.plugin.policy invocation := by
  unfold buildRequest at h
  simp only [Except.bind_eq_ok_iff, Option.okOr_eq_ok_iff, BitVec.tryOfNat_eq_some_iff,
    Usize.checkedAdd_eq_some_iff, Except.rejectIf_eq_ok_iff, exists_const, Except.pure_eq_ok_iff,
    gt_iff_lt, BitVec.not_lt, BitVec.le_def] at h
  obtain ⟨_, _, metadataLen, hmetadata, hmetadataLe, resourceCount, hresources, hresourcesLe, _,
    ⟨_, rfl⟩, syncCount, hsync, hsyncLe, waitCount, hwaits, signalCount, hsignals, rfl⟩ := h
  refine ⟨rfl, ?_⟩
  constructor
  · exact readArray_slicePtr hmetadata
  · exact hmetadata
  · exact readArray_slicePtr (hresources.trans (List.length_map _).symm)
  · exact hresources
  · exact readArray_slicePtr hwaits
  · exact hwaits.trans (List.length_map _)
  · exact readArray_slicePtr hsignals
  · exact hsignals.trans (List.length_map _)
  · exact hmetadata ▸ hmetadataLe
  · exact hresources ▸ hresourcesLe
  · exact hsync ▸ hsyncLe

/-- Running an operator calls its plugin not at all, or once with a request that carries the
invocation. -/
theorem executeShared_calls (operator : DynamicSharedOperator)
    (invocation : SharedOperatorInvocation) (log : List PluginCall) :
    (operator.executeShared invocation log).2 = log ∨
      ∃ request, (operator.executeShared invocation log).2 = log ++ [⟨operator.plugin, request⟩] ∧
        request.operatorId = operator.operatorId ∧
        request.Carries operator.plugin.policy invocation := by
  have hexecute : (operator.executeShared invocation log).2 =
      (operator.executePlugin invocation log).2 := by
    change (StateT.run (operator.executeShared invocation) log).2 = _
    rw [executeShared, StateT.run_bind]
    cases hresult : operator.executePlugin invocation log with
    | mk result calls =>
      have hrun : StateT.run (operator.executePlugin invocation) log = (result, calls) := hresult
      rw [hrun]
      cases result <;> rfl
  rw [hexecute]
  unfold executePlugin
  cases hrequest : operator.buildRequest invocation with
  | error error => exact .inl rfl
  | ok request =>
    dsimp only
    by_cases hpoisoned : operator.plugin.poisoned = true
    · rw [if_pos hpoisoned]
      exact .inl rfl
    · rw [if_neg hpoisoned]
      exact .inr ⟨request, rfl, buildRequest_spec hrequest⟩

end DynamicSharedOperator

/-! ### Where a loaded operator stems from -/

/-- The operator stems from a descriptor and from the answer `info` to one of the queries for its
operators, under a policy. -/
structure DynamicSharedOperator.MadeFrom (operator : DynamicSharedOperator)
    (descriptor : VrbSharedOperatorPluginV1) (info : VrbSharedOperatorInfoV1)
    (policy : SharedOperatorLoadPolicy) : Prop where
  queried : ∃ queryOperator index, descriptor.queryOperator = some queryOperator ∧
    index < descriptor.operatorCount.toNat ∧
    queryOperator descriptor.userData (BitVec.ofNat 32 index) {} = (Status.ok, info)
  execute : descriptor.execute = some operator.plugin.callbacks.execute
  user_data : operator.plugin.callbacks.userData = descriptor.userData
  policy : operator.plugin.policy = policy
  operator_id : operator.operatorId = info.operatorId
  raw_bits : operator.rawCapabilityBits = info.capabilityBits ||| descriptor.capabilityBits
  capabilities : operator.capabilities = advertisedCapabilities info operator.rawCapabilityBits

/-- What one iteration of the discovery loop adds. -/
theorem discoverOperator_cases {descriptor : VrbSharedOperatorPluginV1}
    {queryOperator : QuerySharedOperatorFn} {found found' : Discovery} {index : ℕ}
    (h : discoverOperator descriptor queryOperator found index = .ok found') :
    ∃ info, queryOperator descriptor.userData (BitVec.ofNat 32 index) {} = (Status.ok, info) ∧
      abiCharsToString info.name ≠ "" ∧ info.operatorId ∉ found.ids ∧
      validateCapabilities info.operatorId (info.capabilityBits ||| descriptor.capabilityBits) info
        = .ok () ∧
      found' = {
        ids := info.operatorId :: found.ids
        discovered := found.discovered ++ [{
          operatorId := info.operatorId
          name := abiCharsToString info.name
          rawCapabilityBits := info.capabilityBits ||| descriptor.capabilityBits
          capabilities := advertisedCapabilities info
            (info.capabilityBits ||| descriptor.capabilityBits) }] } := by
  unfold discoverOperator at h
  rcases hquery : queryOperator descriptor.userData (BitVec.ofNat 32 index) {} with
    ⟨queryStatus, info⟩
  simp only [hquery, Except.bind_eq_ok_iff, Except.rejectIf_eq_ok_iff, exists_const,
    Except.pure_eq_ok_iff, not_not, List.contains_iff_mem] at h
  obtain ⟨rfl, _, hname, hid, ⟨⟩, hvalidate, rfl⟩ := h
  exact ⟨info, rfl, hname, hid, hvalidate, rfl⟩

/-- The answer of the plugin to the query for an operator. -/
def answer (descriptor : VrbSharedOperatorPluginV1) (queryOperator : QuerySharedOperatorFn)
    (index : ℕ) : VrbSharedOperatorInfoV1 :=
  (queryOperator descriptor.userData (BitVec.ofNat 32 index) {}).2

/-- **What the discovery loop has found**: one operator for each answer, in order, with distinct
identifiers and validated capabilities. -/
theorem discovery_spec {descriptor : VrbSharedOperatorPluginV1}
    {queryOperator : QuerySharedOperatorFn} {count : ℕ} {found : Discovery}
    (h : (List.range count).foldlM (discoverOperator descriptor queryOperator)
      { ids := [], discovered := [] } = .ok found) :
    found.ids = (((List.range count).map (answer descriptor queryOperator)).map
        VrbSharedOperatorInfoV1.operatorId).reverse ∧
      (((List.range count).map (answer descriptor queryOperator)).map
        VrbSharedOperatorInfoV1.operatorId).Nodup ∧
      found.discovered = ((List.range count).map (answer descriptor queryOperator)).map
        (fun info => {
          operatorId := info.operatorId
          name := abiCharsToString info.name
          rawCapabilityBits := info.capabilityBits ||| descriptor.capabilityBits
          capabilities := advertisedCapabilities info
            (info.capabilityBits ||| descriptor.capabilityBits) }) ∧
      ∀ index < count,
        queryOperator descriptor.userData (BitVec.ofNat 32 index) {} =
          (Status.ok, answer descriptor queryOperator index) ∧
        validateCapabilities (answer descriptor queryOperator index).operatorId
          ((answer descriptor queryOperator index).capabilityBits ||| descriptor.capabilityBits)
          (answer descriptor queryOperator index) = .ok () := by
  induction count generalizing found with
  | zero =>
    rw [List.range_zero, List.foldlM_nil, Except.pure_eq_ok_iff] at h
    subst h
    exact ⟨rfl, List.nodup_nil, rfl, fun index hindex => absurd hindex index.not_lt_zero⟩
  | succ count ih =>
    rw [List.range_succ, List.foldlM_append, Except.bind_eq_ok_iff] at h
    obtain ⟨earlier, hearlier, hstep⟩ := h
    rw [List.foldlM_cons, Except.bind_eq_ok_iff] at hstep
    obtain ⟨found', hstep, hlast⟩ := hstep
    rw [List.foldlM_nil, Except.pure_eq_ok_iff] at hlast
    subst hlast
    obtain ⟨hids, hnodup, hdiscovered, hanswers⟩ := ih hearlier
    obtain ⟨info, hinfo, -, hnew, hvalidated, rfl⟩ := discoverOperator_cases hstep
    obtain rfl : answer descriptor queryOperator count = info := congrArg Prod.snd hinfo
    rw [hids, List.mem_reverse] at hnew
    simp only [List.range_succ, List.map_append, List.map_singleton]
    refine ⟨?_, ?_, ?_, fun index hindex => ?_⟩
    · rw [hids, List.reverse_append]
      rfl
    · rw [List.nodup_append]
      refine ⟨hnodup, List.nodup_singleton _, fun id hid other hother => ?_⟩
      rw [List.mem_singleton.1 hother]
      rintro rfl
      exact hnew hid
    · rw [hdiscovered]
    · rcases Nat.lt_succ_iff_lt_or_eq.1 hindex with hindex | rfl
      · exact hanswers index hindex
      · exact ⟨hinfo, hvalidated⟩

/-- The operator was found in the answer to one of the queries. -/
def DiscoveredOperator.AnsweredBy (entry : DiscoveredOperator)
    (descriptor : VrbSharedOperatorPluginV1) (queryOperator : QuerySharedOperatorFn) : Prop :=
  ∃ info, ∃ index < descriptor.operatorCount.toNat,
    queryOperator descriptor.userData (BitVec.ofNat 32 index) {} = (Status.ok, info) ∧
      entry.operatorId = info.operatorId ∧
      entry.rawCapabilityBits = info.capabilityBits ||| descriptor.capabilityBits ∧
      entry.capabilities = advertisedCapabilities info entry.rawCapabilityBits

/-- The discovery loop finds operators only in the answers to its queries. -/
theorem answeredBy_of_discovery {descriptor : VrbSharedOperatorPluginV1}
    {queryOperator : QuerySharedOperatorFn} {found : Discovery}
    (h : (List.range descriptor.operatorCount.toNat).foldlM
      (discoverOperator descriptor queryOperator) { ids := [], discovered := [] } = .ok found) :
    ∀ entry ∈ found.discovered, entry.AnsweredBy descriptor queryOperator := by
  obtain ⟨-, -, hdiscovered, hanswers⟩ := discovery_spec h
  intro entry hentry
  rw [hdiscovered, List.map_map] at hentry
  obtain ⟨index, hindex, rfl⟩ := List.mem_map.1 hentry
  rw [List.mem_range] at hindex
  exact ⟨_, index, hindex, (hanswers index hindex).1, rfl, rfl, rfl⟩

/-- Every operator of a library that was loaded stems from an answer of the plugin. -/
theorem exists_madeFrom_of_load
    {image : Except SharedOperatorLoadError (Option VrbSharedOperatorPluginV1)}
    {policy : SharedOperatorLoadPolicy} {library : LoadedSharedOperatorLibrary}
    (hload : loadWithPolicy image policy = .ok library) {operator : DynamicSharedOperator}
    (hmem : operator ∈ library.operators) :
    ∃ descriptor info, image = .ok (some descriptor) ∧
      operator.MadeFrom descriptor info policy := by
  unfold loadWithPolicy at hload
  simp only [Except.bind_eq_ok_iff, Option.okOr_eq_ok_iff, Except.pure_eq_ok_iff] at hload
  obtain ⟨_, himage, descriptor, rfl, _, _, queryOperator, hquery, execute, hexecute, found,
    hfound, rfl⟩ := hload
  obtain ⟨entry, hentry, rfl⟩ := List.mem_map.1 hmem
  obtain ⟨info, index, hindex, hinfo, hid, hbits, hcapabilities⟩ :=
    answeredBy_of_discovery hfound entry hentry
  exact ⟨descriptor, info, himage, ⟨queryOperator, index, hquery, hindex, hinfo⟩, hexecute, rfl,
    rfl, hid, hbits, hcapabilities⟩

/-! ### The guarantee -/

/-- A region that may be handed to a plugin whose mask of memory kinds is `memoryKindBits`. -/
structure VrbSharedResourceRegionV1.Guaranteed (region : VrbSharedResourceRegionV1)
    (memoryKindBits : BitVec 64) : Prop where
  handle_ne_zero : region.handle ≠ 0#64
  length_ne_zero : region.length ≠ 0#64
  end_le : region.offset.toNat + region.length.toNat ≤ region.allocationSize.toNat
  kind_lt : region.handleKind.toNat < 64
  kind_advertised : memoryKindBits.getLsbD region.handleKind.toNat = true

/-- A point that may be handed to a plugin whose mask of synchronization kinds is
`syncKindBits`. -/
structure VrbSharedSyncPointV1.Guaranteed (point : VrbSharedSyncPointV1)
    (syncKindBits : BitVec 64) : Prop where
  handle_ne_zero : point.handle ≠ 0#64
  kind_lt : point.handleKind.toNat < 64
  kind_advertised : syncKindBits.getLsbD point.handleKind.toNat = true

/-- What holds of a call that reaches a plugin with the given descriptor, whose operator was
loaded from `info` under `policy`. -/
structure Guaranteed (descriptor : VrbSharedOperatorPluginV1) (info : VrbSharedOperatorInfoV1)
    (policy : SharedOperatorLoadPolicy) (request : SharedOperatorRequest)
    (invocation : SharedOperatorInvocation) (abi : VrbSharedOperatorExecutionRequestV1) :
    Prop where
  operator_id : abi.operatorId = info.operatorId
  carries : abi.Carries policy invocation
  regions : ∀ region ∈ abi.resources, region.Guaranteed info.memoryKindBits
  points : ∀ point ∈ abi.waits ++ abi.signals, point.Guaranteed info.syncKindBits
  synchronization : abi.waits ++ abi.signals ≠ [] →
    (info.capabilityBits ||| descriptor.capabilityBits) &&& Capability.externalSynchronization ≠
      0#64
  zero_copy : request.requiresProvenZeroCopy = true →
    (info.capabilityBits ||| descriptor.capabilityBits) &&& Capability.provenZeroCopy ≠ 0#64

/-- A request that carries a valid invocation to a compatible operator is guaranteed. -/
theorem DynamicSharedOperator.MadeFrom.guaranteed {operator : DynamicSharedOperator}
    {descriptor : VrbSharedOperatorPluginV1} {info : VrbSharedOperatorInfoV1}
    {policy : SharedOperatorLoadPolicy} (hmade : operator.MadeFrom descriptor info policy)
    {request : SharedOperatorRequest} {invocation : SharedOperatorInvocation}
    (hvalid : invocation.Valid)
    (hcompatible : operator.capabilities.Compatible request invocation)
    {abi : VrbSharedOperatorExecutionRequestV1} (hid : abi.operatorId = operator.operatorId)
    (hcarries : abi.Carries operator.plugin.policy invocation) :
    Guaranteed descriptor info policy request invocation abi := by
  rw [hmade.policy] at hcarries
  rw [hmade.capabilities, hmade.raw_bits] at hcompatible
  have hpoints : abi.waits ++ abi.signals =
      (invocation.waits ++ invocation.signals).map mapSyncToAbi := by
    rw [hcarries.waits, hcarries.signals, List.map_append]
  refine ⟨hid.trans hmade.operator_id, hcarries, ?_, ?_, ?_, ?_⟩
  · rw [hcarries.resources]
    intro region hregion
    obtain ⟨resource, hresource, rfl⟩ := List.mem_map.1 hregion
    obtain ⟨hhandle, hlength, hend⟩ := hvalid.resources resource hresource
    obtain ⟨hlt, hbit⟩ := memoryKindToRaw_of_mem (hcompatible.resources resource hresource)
    exact ⟨hhandle, hlength, hend, hlt, hbit⟩
  · rw [hpoints]
    intro point hpoint
    obtain ⟨sync, hsync, rfl⟩ := List.mem_map.1 hpoint
    obtain ⟨hlt, hbit⟩ := syncKindToRaw_of_mem (hcompatible.points sync hsync)
    refine ⟨?_, hlt, hbit⟩
    obtain hwait | hsignal := List.mem_append.1 hsync
    · exact hvalid.waits sync hwait
    · exact hvalid.signals sync hsignal
  · intro hused
    rw [hpoints, Ne, List.map_eq_nil_iff] at hused
    exact bne_iff_ne.1 (hcompatible.used_sync hused)
  · intro hcopy
    exact bne_iff_ne.1 (hcompatible.zero_copy hcopy)

/-- An operator of a library that the loader accepted. -/
structure LoadedOperator where
  image : Except SharedOperatorLoadError (Option VrbSharedOperatorPluginV1)
  policy : SharedOperatorLoadPolicy
  library : LoadedSharedOperatorLibrary
  load_eq : loadWithPolicy image policy = .ok library
  operator : DynamicSharedOperator
  mem_operators : operator ∈ library.operators

/-- A registry with the policy of the first compatible operator and these operators. -/
def registryOf (operators : List LoadedOperator) : SharedOperatorRegistry PluginM :=
  (operators.map fun loaded => loaded.operator.toSharedOperator).foldl
    SharedOperatorRegistry.register (SharedOperatorRegistry.new firstCompatibleShared)

/-- **Nothing unvalidated or unadvertised reaches a plugin.** A request to a registry of loaded
operators makes no call, or one call of the plugin of one of them, for which the guarantee
holds. -/
theorem SharedOperatorRegistry.execute_calls_guaranteed (operators : List LoadedOperator)
    (request : SharedOperatorRequest) (invocation : SharedOperatorInvocation)
    (log : List PluginCall) :
    ((registryOf operators).execute request invocation log).2 = log ∨
      ∃ loaded ∈ operators, ∃ descriptor info abi,
        ((registryOf operators).execute request invocation log).2 =
          log ++ [⟨loaded.operator.plugin, abi⟩] ∧
        loaded.image = .ok (some descriptor) ∧
        loaded.operator.MadeFrom descriptor info loaded.policy ∧
        Guaranteed descriptor info loaded.policy request invocation abi := by
  obtain ⟨error, herror⟩ | ⟨operator, hmem, hvalid, hcompatible, hexecute⟩ :=
    execute_cases (operators.map fun loaded => loaded.operator.toSharedOperator) request invocation
  · rw [registryOf, herror]
    exact .inl rfl
  · obtain ⟨loaded, hloaded, rfl⟩ := List.mem_map.1 hmem
    rw [registryOf, hexecute]
    obtain hnone | ⟨abi, hcall, hid, hcarries⟩ :=
      loaded.operator.executeShared_calls invocation log
    · exact .inl hnone
    · obtain ⟨descriptor, info, himage, hmade⟩ :=
        exists_madeFrom_of_load loaded.load_eq loaded.mem_operators
      exact .inr ⟨loaded, hloaded, descriptor, info, abi, hcall, himage, hmade,
        hmade.guaranteed hvalid hcompatible hid hcarries⟩

namespace TestPlugin

/-- The operator of the test plugin, loaded under the default policy. -/
def loadedOperator : LoadedOperator where
  image := .ok (some plugin)
  policy := {}
  library := { pluginName := "vrb-test-shared-operator", operators := [operator {}] }
  load_eq := loadWithPolicy_plugin (by decide)
  operator := operator {}
  mem_operators := List.mem_singleton_self _

/-- A request that the operator of the plugin is compatible with. -/
def request : SharedOperatorRequest where
  kind := .custom
  preferredBackend := none
  requiredMemoryKind := some .win32Kmt
  requiresSynchronization := true
  requiresProvenZeroCopy := false

/-- An invocation that the plugin accepts. -/
def invocation : SharedOperatorInvocation where
  metadata := expectedMetadata
  resources := [{
    handleKind := .win32Kmt
    handle := 0x1234#64
    allocationSize := 4096#64
    offset := 256#64
    length := 1024#64
    access := .readWrite }]
  waits := [{ handleKind := .win32Opaque, handle := 0x2001#64, value := 0#64 }]
  signals := [{ handleKind := .win32Opaque, handle := 0x2002#64, value := 0#64 }]

end TestPlugin

open TestPlugin in
/-- The test plugin is called once, and the guarantee holds for the call. -/
theorem SharedOperatorRegistry.execute_calls_guaranteed_testPlugin :
    ∃ descriptor info abi,
      ((registryOf [loadedOperator]).execute request invocation []).2 =
        [⟨loadedOperator.operator.plugin, abi⟩] ∧
      Guaranteed descriptor info {} request invocation abi := by
  have hcalled : ((registryOf [loadedOperator]).execute request invocation []).2.length = 1 := by
    decide +kernel
  obtain hnone | ⟨loaded, hmem, descriptor, info, abi, hcall, _, _, hguaranteed⟩ :=
    execute_calls_guaranteed [loadedOperator] request invocation []
  · rw [hnone] at hcalled
    cases hcalled
  · rw [List.mem_singleton] at hmem
    subst hmem
    exact ⟨descriptor, info, abi, hcall, hguaranteed⟩

end RiftGPU.SharedOperators
