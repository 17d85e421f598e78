import RiftGPU.SharedOperators.Dispatch

/-!
# The capabilities of loaded shared operators

The loader rejects an operator that claims external resources or external synchronization without
any handle kind. It looks at the raw masks of the plugin, but the operator keeps only the kinds
that the host knows. An accepted operator may therefore claim external resources with an empty list
of kinds. This file says which answers of a plugin lead to such operators.

## Main definitions

* `LoadedSharedOperatorLibrary.Coherent`: distinct identifiers and no contradictory capabilities.
* `VrbSharedOperatorInfoV1.KnownKinds`: a claim comes with a kind that the host knows.

## Main results

* `operators_of_load`: a loaded library holds one operator for each answer of the plugin.
* `load_coherent_iff`: which accepted plugins have coherent operators.
-/

namespace RiftGPU.SharedOperators

open PluginAbi

/-! ### Known kinds -/

/-- The bits of the memory kinds that the host knows. -/
def knownMemoryBits : BitVec 64 :=
  bitFor MemoryHandleTag.win32Kmt ||| (bitFor MemoryHandleTag.win32Nt |||
    (bitFor MemoryHandleTag.opaqueFd ||| bitFor MemoryHandleTag.dmaBuf))

/-- The bits of the synchronization kinds that the host knows. -/
def knownSyncBits : BitVec 64 :=
  bitFor SyncHandleTag.win32Opaque ||| (bitFor SyncHandleTag.opaqueFd |||
    bitFor SyncHandleTag.timeline)

theorem mapKinds_eq_nil_iff {κ : Type} {candidates : List (BitVec 32 × κ)} {bits : BitVec 64} :
    mapKinds candidates bits = [] ↔
      ∀ candidate ∈ candidates, bits &&& bitFor candidate.1 = 0#64 := by
  simp only [mapKinds, List.filterMap_eq_nil_iff, ite_eq_right_iff, reduceCtorEq, imp_false,
    ne_eq, not_not]

theorem mapMemoryKinds_ne_nil_iff {bits : BitVec 64} :
    mapMemoryKinds bits ≠ [] ↔ bits &&& knownMemoryBits ≠ 0#64 := by
  rw [Ne, mapMemoryKinds, mapKinds_eq_nil_iff, knownMemoryBits]
  simp only [List.forall_mem_cons, BitVec.and_or_distrib_left, BitVec.or_eq_zero_iff, ne_eq]
  simp

theorem mapSyncKinds_ne_nil_iff {bits : BitVec 64} :
    mapSyncKinds bits ≠ [] ↔ bits &&& knownSyncBits ≠ 0#64 := by
  rw [Ne, mapSyncKinds, mapKinds_eq_nil_iff, knownSyncBits]
  simp only [List.forall_mem_cons, BitVec.and_or_distrib_left, BitVec.or_eq_zero_iff, ne_eq]
  simp

/-- When the operator, with the bits of its plugin, claims external resources or external
synchronization, its masks hold a kind that the host knows. -/
structure VrbSharedOperatorInfoV1.KnownKinds (info : VrbSharedOperatorInfoV1)
    (pluginBits : BitVec 64) : Prop where
  memory : (info.capabilityBits ||| pluginBits) &&& Capability.externalResource ≠ 0#64 →
    info.memoryKindBits &&& knownMemoryBits ≠ 0#64
  sync : (info.capabilityBits ||| pluginBits) &&& Capability.externalSynchronization ≠ 0#64 →
    info.syncKindBits &&& knownSyncBits ≠ 0#64

/-! ### Coherent operators -/

/-- An operator that claims external resources or proven zero-copy has a memory kind, and one that
supports external synchronization has a synchronization kind. -/
structure DynamicSharedOperator.Coherent (operator : DynamicSharedOperator) : Prop where
  memory : operator.rawCapabilityBits &&& Capability.externalResource ≠ 0#64 ∨
    operator.rawCapabilityBits &&& Capability.provenZeroCopy ≠ 0#64 →
      operator.capabilities.memoryKinds ≠ []
  sync : operator.capabilities.supportsExternalSynchronization = true →
    operator.capabilities.syncKinds ≠ []

/-- The identifiers of the operators are distinct, and no operator contradicts itself. -/
structure LoadedSharedOperatorLibrary.Coherent (library : LoadedSharedOperatorLibrary) : Prop where
  ids : (library.operators.map DynamicSharedOperator.operatorId).Nodup
  operators : ∀ operator ∈ library.operators, operator.Coherent

/-- The operator that the loader makes of an answer. -/
def DynamicSharedOperator.ofInfo (plugin : LoadedSharedPluginState)
    (descriptor : VrbSharedOperatorPluginV1) (info : VrbSharedOperatorInfoV1) :
    DynamicSharedOperator where
  plugin := plugin
  operatorId := info.operatorId
  name := abiCharsToString info.name
  capabilities := advertisedCapabilities info (info.capabilityBits ||| descriptor.capabilityBits)
  rawCapabilityBits := info.capabilityBits ||| descriptor.capabilityBits

theorem zeroCopy_of_validateCapabilities {operatorId : BitVec 32} {bits : BitVec 64}
    {info : VrbSharedOperatorInfoV1} (h : validateCapabilities operatorId bits info = .ok ())
    (hcopy : bits &&& Capability.provenZeroCopy ≠ 0#64) :
    bits &&& Capability.externalResource ≠ 0#64 := by
  rw [validateCapabilities, Except.rejectIf_bind_eq_ok_iff] at h
  exact fun hnone => h.1 ⟨hcopy, hnone⟩

/-- An operator whose capabilities were validated is coherent when its answer has known kinds. -/
theorem DynamicSharedOperator.coherent_ofInfo_iff {plugin : LoadedSharedPluginState}
    {descriptor : VrbSharedOperatorPluginV1} {info : VrbSharedOperatorInfoV1}
    (h : validateCapabilities info.operatorId
      (info.capabilityBits ||| descriptor.capabilityBits) info = .ok ()) :
    (ofInfo plugin descriptor info).Coherent ↔ info.KnownKinds descriptor.capabilityBits := by
  constructor
  · intro hcoherent
    exact ⟨fun hbit => mapMemoryKinds_ne_nil_iff.1 (hcoherent.memory (.inl hbit)),
      fun hbit => mapSyncKinds_ne_nil_iff.1 (hcoherent.sync (bne_iff_ne.2 hbit))⟩
  · intro hknown
    refine ⟨fun hbit => mapMemoryKinds_ne_nil_iff.2 (hknown.memory ?_),
      fun hbit => mapSyncKinds_ne_nil_iff.2 (hknown.sync (bne_iff_ne.1 hbit))⟩
    exact hbit.elim id (zeroCopy_of_validateCapabilities h)

/-! ### Loaded libraries -/

/-- A library that was loaded holds one operator for each answer, in order. -/
theorem operators_of_load {descriptor : VrbSharedOperatorPluginV1}
    {policy : SharedOperatorLoadPolicy} {library : LoadedSharedOperatorLibrary}
    {queryOperator : QuerySharedOperatorFn}
    (hload : loadWithPolicy (.ok (some descriptor)) policy = .ok library)
    (hquery : descriptor.queryOperator = some queryOperator) :
    ∃ plugin, library.operators = ((List.range descriptor.operatorCount.toNat).map
        (answer descriptor queryOperator)).map (DynamicSharedOperator.ofInfo plugin descriptor) ∧
      (((List.range descriptor.operatorCount.toNat).map (answer descriptor queryOperator)).map
        VrbSharedOperatorInfoV1.operatorId).Nodup ∧
      ∀ index < descriptor.operatorCount.toNat,
        validateCapabilities (answer descriptor queryOperator index).operatorId
          ((answer descriptor queryOperator index).capabilityBits ||| descriptor.capabilityBits)
          (answer descriptor queryOperator index) = .ok () := by
  unfold loadWithPolicy at hload
  simp only [Except.bind_eq_ok_iff, Option.okOr_eq_ok_iff, Except.pure_eq_ok_iff] at hload
  obtain ⟨_, himage, _, rfl, _, _, queried, hqueried, execute, -, found, hfound, rfl⟩ := hload
  obtain rfl := Option.some.inj (Except.ok.inj himage)
  obtain rfl := Option.some.inj (hqueried.symm.trans hquery)
  obtain ⟨-, hnodup, hdiscovered, hanswers⟩ := discovery_spec hfound
  let plugin : LoadedSharedPluginState := {
    pluginName := abiCharsToString descriptor.name
    policy := policy
    callbacks := { userData := descriptor.userData, execute := execute }
    poisoned := false }
  refine ⟨plugin, ?_, hnodup, fun index hindex => (hanswers index hindex).2⟩
  dsimp only
  rw [hdiscovered, List.map_map]
  rfl

/-- **Which accepted plugins have coherent operators**: those that answer every claim of external
resources or of external synchronization with a kind that the host knows. -/
theorem load_coherent_iff (descriptor : VrbSharedOperatorPluginV1)
    (policy : SharedOperatorLoadPolicy) (library : LoadedSharedOperatorLibrary)
    (queryOperator : QuerySharedOperatorFn)
    (hquery : descriptor.queryOperator = some queryOperator)
    (hload : loadWithPolicy (.ok (some descriptor)) policy = .ok library) :
    (library.operators.map DynamicSharedOperator.operatorId).Nodup ∧
    (library.Coherent ↔ ∀ index < descriptor.operatorCount.toNat,
      (answer descriptor queryOperator index).KnownKinds descriptor.capabilityBits) := by
  obtain ⟨plugin, hoperators, hnodup, hvalid⟩ := operators_of_load hload hquery
  have hids : (library.operators.map DynamicSharedOperator.operatorId).Nodup := by
    rw [hoperators, List.map_map]
    exact hnodup
  refine ⟨hids, fun hcoherent index hindex => ?_, fun hknown => ⟨hids, fun operator hmem => ?_⟩⟩
  · refine (DynamicSharedOperator.coherent_ofInfo_iff (hvalid index hindex)).1
      (hcoherent.operators (.ofInfo plugin descriptor (answer descriptor queryOperator index)) ?_)
    rw [hoperators]
    exact List.mem_map_of_mem (List.mem_map_of_mem (List.mem_range.2 hindex))
  · rw [hoperators, List.map_map] at hmem
    obtain ⟨index, hindex, rfl⟩ := List.mem_map.1 hmem
    rw [List.mem_range] at hindex
    exact (DynamicSharedOperator.coherent_ofInfo_iff (hvalid index hindex)).2
      (hknown index hindex)

namespace TestPlugin

/-- The answers of the test plugin, built for a memory kind that the host does not know. -/
def newerQueryOperator : QuerySharedOperatorFn := fun userData index outInfo =>
  let (status, info) := queryOperator userData index outInfo
  (status, { info with memoryKindBits := bit 5#32 })

/-- The test plugin, built for that kind. -/
def newerPlugin : VrbSharedOperatorPluginV1 :=
  { plugin with queryOperator := some newerQueryOperator }

/-- Its operator, loaded under the default policy. -/
def newerOperator : DynamicSharedOperator :=
  { operator {} with capabilities := { (operator {}).capabilities with memoryKinds := [] } }

theorem loadWithPolicy_newerPlugin :
    loadWithPolicy (.ok (some newerPlugin)) {} =
      .ok { pluginName := "vrb-test-shared-operator", operators := [newerOperator] } := by
  have hdescriptor : validatePluginDescriptor newerPlugin {} = .ok () :=
    validatePluginDescriptor_eq_ok_iff.2 ⟨rfl, by decide, by decide, by decide, by decide⟩
  unfold loadWithPolicy
  rw [Except.ok_bind, Option.okOr_some, Except.ok_bind, hdescriptor]
  rfl

end TestPlugin

open TestPlugin in
/-- The plugin with the newer memory kind is accepted, but its operator claims external resources
without any kind. -/
theorem load_newerPlugin_not_coherent :
    ∃ library, loadWithPolicy (.ok (some newerPlugin)) {} = .ok library ∧ ¬library.Coherent := by
  refine ⟨_, loadWithPolicy_newerPlugin, fun hcoherent => ?_⟩
  have hoperator := hcoherent.operators _ (List.mem_singleton_self _)
  exact hoperator.memory (.inl (by decide)) (by decide)

open TestPlugin in
/-- The operator of the test plugin is coherent, since the host knows the kinds of its answer. -/
theorem load_coherent_iff_testPlugin :
    LoadedSharedOperatorLibrary.Coherent
      { pluginName := "vrb-test-shared-operator", operators := [operator {}] } := by
  refine (load_coherent_iff plugin {} _ queryOperator rfl
    (loadWithPolicy_plugin (by decide))).2.2 fun index hindex => ?_
  obtain rfl : index = 0 := Nat.lt_one_iff.1 hindex
  exact ⟨fun _ => by decide, fun _ => by decide⟩

end RiftGPU.SharedOperators
