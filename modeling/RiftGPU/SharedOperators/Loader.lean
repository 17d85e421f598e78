import RiftGPU.SharedOperators.Abi
import RiftGPU.SharedOperators.Registry

/-!
# Loading shared-operator plugins

A plugin is loaded by checking its descriptor and asking it for every operator that it declares.
Each operator becomes a `SharedOperator` whose run translates an invocation into the binary
interface and calls the plugin. This file models `vrb-shared-operator-loader` on a 64-bit machine.

Loading the file and looking up its entry symbol are the platform's work. Here their outcome is
the argument `image` of the loader: an error, or the pointer that the entry returned. Calls of a
plugin are recorded, so that one can speak of what reaches it.

## Main definitions

* `loadWithPolicy`: `LoadedSharedOperatorLibrary::load_with_policy`.
* `mapMemoryKinds`, `mapSyncKinds`, `memoryKindToRaw`, `syncKindToRaw`: kinds and their tags.
* `PluginM`: host code that may call plugins.
* `DynamicSharedOperator.executePlugin`, `DynamicSharedOperator.toSharedOperator`.
-/

namespace RiftGPU.SharedOperators

open Bytes PluginAbi

/-- The default limit on the operators of a plugin. -/
def defaultMaxOperators : BitVec 32 := 4096#32

/-- The default limit on the metadata of an invocation. -/
def defaultMaxMetadataBytes : BitVec 64 := 1048576#64

/-- The default limit on the regions of an invocation. -/
def defaultMaxResources : BitVec 32 := 1024#32

/-- The default limit on the points that an invocation waits for or signals. -/
def defaultMaxSyncPoints : BitVec 32 := 4096#32

/-- The default size of the receipt buffer. -/
def defaultMaxReceiptBytes : BitVec 64 := 65536#64

/-- The limits of a host on what a plugin declares and is given. -/
structure SharedOperatorLoadPolicy where
  maxOperators : BitVec 32 := defaultMaxOperators
  maxMetadataBytes : BitVec 64 := defaultMaxMetadataBytes
  maxResources : BitVec 32 := defaultMaxResources
  maxSyncPoints : BitVec 32 := defaultMaxSyncPoints
  maxReceiptBytes : BitVec 64 := defaultMaxReceiptBytes
deriving DecidableEq

/-- The ways in which loading a plugin can fail. -/
inductive SharedOperatorLoadError where
  | load (path source : String)
  | missingEntry (source : String)
  | nullDescriptor
  | abiVersion (actual expected : BitVec 32)
  | descriptorTooSmall (actual expected : BitVec 32)
  | emptyPluginName
  | noOperators
  | tooManyOperators (actual maximum : BitVec 32)
  | missingQueryOperator
  | missingExecute
  | queryStatus (index status : BitVec 32)
  | operatorDescriptorTooSmall (index actual expected : BitVec 32)
  | emptyOperatorName (index : BitVec 32)
  | duplicateOperatorId (operatorId : BitVec 32)
  | invalidCapabilities (operatorId : BitVec 32) (detail : String)
deriving DecidableEq

/-- The ways in which a call of a loaded operator can fail. -/
inductive SharedOperatorExecutionError where
  | poisoned
  | metadataTooLarge (actual maximum : BitVec 64)
  | tooManyResources (actual maximum : BitVec 32)
  | tooManySyncPoints (actual maximum : BitVec 32)
  | lengthUnsupported
  | pluginStatus (status : BitVec 32)
  | receiptTooLarge (actual capacity : BitVec 64)
  | invalidInvocation (error : SharedOperatorError)
deriving DecidableEq

instance : ToString SharedOperatorExecutionError where
  toString
    | .poisoned => "shared-operator plugin state lock is poisoned"
    | .metadataTooLarge actual maximum =>
      s!"shared invocation metadata is {actual.toNat} bytes, exceeding host limit {maximum.toNat}"
    | .tooManyResources actual maximum =>
      s!"shared invocation has {actual.toNat} resources, exceeding host limit {maximum.toNat}"
    | .tooManySyncPoints actual maximum =>
      s!"shared invocation has {actual.toNat} synchronization points, exceeding host limit " ++
        s!"{maximum.toNat}"
    | .lengthUnsupported => "shared invocation length cannot be represented by the ABI"
    | .pluginStatus status => s!"shared operator plugin returned status {status.toInt}"
    | .receiptTooLarge actual capacity =>
      s!"shared operator receipt length {actual.toNat} exceeds host capacity {capacity.toNat}"
    | .invalidInvocation error => toString error

/-! ### Tags -/

/-- The bit of a mask that stands for the value of a kind. -/
def bitFor (value : BitVec 32) : BitVec 64 := if value < 64#32 then 1#64 <<< value.toNat else 0#64

/-- The kinds of a table whose bits are set in a mask. -/
def mapKinds {κ : Type} (candidates : List (BitVec 32 × κ)) (bits : BitVec 64) : List κ :=
  candidates.filterMap fun (raw, kind) => if bits &&& bitFor raw ≠ 0#64 then some kind else none

/-- The memory kinds of a mask. -/
def mapMemoryKinds : BitVec 64 → List ExternalMemoryHandleKind :=
  mapKinds
    [(MemoryHandleTag.win32Kmt, .win32Kmt), (MemoryHandleTag.win32Nt, .win32Nt),
      (MemoryHandleTag.opaqueFd, .opaqueFd), (MemoryHandleTag.dmaBuf, .dmaBuf)]

/-- The synchronization kinds of a mask. -/
def mapSyncKinds : BitVec 64 → List ExternalSyncHandleKind :=
  mapKinds
    [(SyncHandleTag.win32Opaque, .win32Opaque), (SyncHandleTag.opaqueFd, .opaqueFd),
      (SyncHandleTag.timeline, .timeline)]

/-- The tag of a memory kind. -/
def memoryKindToRaw : ExternalMemoryHandleKind → BitVec 32
  | .win32Kmt => MemoryHandleTag.win32Kmt
  | .win32Nt => MemoryHandleTag.win32Nt
  | .opaqueFd => MemoryHandleTag.opaqueFd
  | .dmaBuf => MemoryHandleTag.dmaBuf
  | .custom value => value

/-- The tag of a synchronization kind. -/
def syncKindToRaw : ExternalSyncHandleKind → BitVec 32
  | .win32Opaque => SyncHandleTag.win32Opaque
  | .opaqueFd => SyncHandleTag.opaqueFd
  | .timeline => SyncHandleTag.timeline
  | .custom value => value

/-- The descriptor of a region in the binary interface. -/
def mapResourceToAbi (resource : SharedResourceRegion) : VrbSharedResourceRegionV1 where
  handleKind := memoryKindToRaw resource.handleKind
  access :=
    match resource.access with
    | .readOnly => ResourceAccessTag.readOnly
    | .writeOnly => ResourceAccessTag.writeOnly
    | .readWrite => ResourceAccessTag.readWrite
  handle := resource.handle
  allocationSize := resource.allocationSize
  offset := resource.offset
  length := resource.length

/-- The descriptor of a synchronization point in the binary interface. -/
def mapSyncToAbi (sync : SharedSyncPoint) : VrbSharedSyncPointV1 where
  handleKind := syncKindToRaw sync.handleKind
  handle := sync.handle
  value := sync.value

/-- The pointer to a slice, null when the slice is empty. -/
def slicePtr {α : Type} (slice : List α) : Option (List α) :=
  if slice.isEmpty then none else some slice

/-! ### Running an operator -/

/-- What a loaded plugin is called with: its own data and its execute callback. -/
structure PluginCallbacks where
  userData : BitVec 64
  execute : ExecuteSharedOperatorFn

/-- A loaded plugin. The callbacks are behind a lock, which may be poisoned. -/
structure LoadedSharedPluginState where
  pluginName : String
  policy : SharedOperatorLoadPolicy
  callbacks : PluginCallbacks
  poisoned : Bool

/-- An operator of a loaded plugin. -/
structure DynamicSharedOperator where
  plugin : LoadedSharedPluginState
  operatorId : BitVec 32
  name : String
  capabilities : SharedOperatorCapabilities
  rawCapabilityBits : BitVec 64

/-- One call of a plugin's execute callback. -/
structure PluginCall where
  plugin : LoadedSharedPluginState
  request : VrbSharedOperatorExecutionRequestV1

/-- Host code that may call plugins. The state is the list of the calls made so far. -/
abbrev PluginM := StateM (List PluginCall)

/-- A call of the execute callback, recorded behind the calls made before. -/
def LoadedSharedPluginState.callExecute (plugin : LoadedSharedPluginState)
    (request : VrbSharedOperatorExecutionRequestV1) : PluginM ExecuteReturn := fun calls =>
  (plugin.callbacks.execute plugin.callbacks.userData request, calls ++ [⟨plugin, request⟩])

namespace DynamicSharedOperator

/-- The first part of `execute_plugin`: the checks, and the request for the plugin. -/
def buildRequest (operator : DynamicSharedOperator) (invocation : SharedOperatorInvocation) :
    Except SharedOperatorExecutionError VrbSharedOperatorExecutionRequestV1 := do
  invocation.validate.mapError .invalidInvocation
  let policy := operator.plugin.policy
  let metadataLen ← (BitVec.tryOfNat 64 invocation.metadata.length).okOr .lengthUnsupported
  Except.rejectIf (metadataLen > policy.maxMetadataBytes)
    (.metadataTooLarge metadataLen policy.maxMetadataBytes)
  let resourceCount ← (BitVec.tryOfNat 32 invocation.resources.length).okOr .lengthUnsupported
  Except.rejectIf (resourceCount > policy.maxResources)
    (.tooManyResources resourceCount policy.maxResources)
  let syncCount ← (Usize.checkedAdd invocation.waits.length invocation.signals.length).okOr
    .lengthUnsupported
  let syncCount ← (BitVec.tryOfNat 32 syncCount).okOr .lengthUnsupported
  Except.rejectIf (syncCount > policy.maxSyncPoints)
    (.tooManySyncPoints syncCount policy.maxSyncPoints)
  let abiResources := invocation.resources.map mapResourceToAbi
  let abiWaits := invocation.waits.map mapSyncToAbi
  let abiSignals := invocation.signals.map mapSyncToAbi
  let receipt := List.replicate policy.maxReceiptBytes.toNat 0#8
  let waitCount ← (BitVec.tryOfNat 32 abiWaits.length).okOr .lengthUnsupported
  let signalCount ← (BitVec.tryOfNat 32 abiSignals.length).okOr .lengthUnsupported
  return {
    operatorId := operator.operatorId
    metadataPtr := slicePtr invocation.metadata
    metadataLen := metadataLen
    resourcesPtr := slicePtr abiResources
    resourceCount := resourceCount
    waitsPtr := slicePtr abiWaits
    waitCount := waitCount
    signalsPtr := slicePtr abiSignals
    signalCount := signalCount
    receiptPtr := slicePtr receipt
    receiptCapacity := policy.maxReceiptBytes
    receiptLen := some 0#64 }

/-- The last part of `execute_plugin`: the receipt that the plugin left. -/
def readReceipt (operator : DynamicSharedOperator) (returned : ExecuteReturn) :
    Except SharedOperatorExecutionError (List Byte) := do
  let capacity := operator.plugin.policy.maxReceiptBytes
  let tooLarge := .receiptTooLarge returned.receiptLen capacity
  Except.rejectIf
    (returned.status = Status.bufferTooSmall ∧ returned.receiptLen > capacity) tooLarge
  Except.rejectIf (returned.status ≠ Status.ok) (.pluginStatus returned.status)
  Except.rejectIf (returned.receiptLen > capacity) tooLarge
  return returned.receipt.take returned.receiptLen.toNat

/-- The checks, one call of the plugin, and the receipt that it left. A poisoned lock stops the call
after the checks. -/
def executePlugin (operator : DynamicSharedOperator) (invocation : SharedOperatorInvocation) :
    PluginM (Except SharedOperatorExecutionError (List Byte)) :=
  match operator.buildRequest invocation with
  | .error error => pure (.error error)
  | .ok request =>
    if operator.plugin.poisoned then pure (.error .poisoned)
    else do
      let returned ← operator.plugin.callExecute request
      return operator.readReceipt returned

/-- `executePlugin` with its errors as the texts that a registry passes on. -/
def executeShared (operator : DynamicSharedOperator) (invocation : SharedOperatorInvocation) :
    PluginM (Except SharedOperatorError SharedOperatorOutput) := do
  match ← operator.executePlugin invocation with
  | .ok receipt => return .ok ⟨receipt⟩
  | .error error => return .error (.execution (toString error))

/-- The operator as a registry sees it. -/
def toSharedOperator (operator : DynamicSharedOperator) : SharedOperator PluginM where
  name := operator.name
  capabilities := operator.capabilities
  executeShared := operator.executeShared

end DynamicSharedOperator

/-! ### Loading a plugin -/

/-- A loaded plugin with its operators. -/
structure LoadedSharedOperatorLibrary where
  pluginName : String
  operators : List DynamicSharedOperator

/-- The checks of a descriptor before any callback runs. -/
def validatePluginDescriptor (descriptor : VrbSharedOperatorPluginV1)
    (policy : SharedOperatorLoadPolicy) : Except SharedOperatorLoadError Unit := do
  Except.rejectIf (descriptor.abiVersion ≠ sharedOperatorPluginAbiVersion)
    (.abiVersion descriptor.abiVersion sharedOperatorPluginAbiVersion)
  let expected := expectedPluginStructSize
  Except.rejectIf (descriptor.structSize < expected)
    (.descriptorTooSmall descriptor.structSize expected)
  Except.rejectIf (abiCharsToString descriptor.name = "") .emptyPluginName
  Except.rejectIf (descriptor.operatorCount = 0#32) .noOperators
  Except.rejectIf (descriptor.operatorCount > policy.maxOperators)
    (.tooManyOperators descriptor.operatorCount policy.maxOperators)

theorem validatePluginDescriptor_eq_ok_iff {descriptor : VrbSharedOperatorPluginV1}
    {policy : SharedOperatorLoadPolicy} {u : Unit} :
    validatePluginDescriptor descriptor policy = .ok u ↔
      descriptor.abiVersion = sharedOperatorPluginAbiVersion ∧
        expectedPluginStructSize ≤ descriptor.structSize ∧
        abiCharsToString descriptor.name ≠ "" ∧ descriptor.operatorCount ≠ 0#32 ∧
        descriptor.operatorCount ≤ policy.maxOperators := by
  simp only [validatePluginDescriptor, Except.bind_eq_ok_iff, Except.rejectIf_eq_ok_iff,
    exists_const, not_not, BitVec.not_lt, gt_iff_lt, ne_eq]

/-- The checks of what an operator advertises. The kind masks are compared with zero as they are,
before they are mapped to kinds. -/
def validateCapabilities (operatorId : BitVec 32) (bits : BitVec 64)
    (info : VrbSharedOperatorInfoV1) : Except SharedOperatorLoadError Unit := do
  Except.rejectIf
    (bits &&& Capability.provenZeroCopy ≠ 0#64 ∧ bits &&& Capability.externalResource = 0#64)
    (.invalidCapabilities operatorId "proven zero-copy requires external-resource capability")
  Except.rejectIf (bits &&& Capability.externalResource ≠ 0#64 ∧ info.memoryKindBits = 0#64)
    (.invalidCapabilities operatorId
      "external-resource capability requires at least one memory-handle kind")
  Except.rejectIf
    (bits &&& Capability.externalSynchronization ≠ 0#64 ∧ info.syncKindBits = 0#64)
    (.invalidCapabilities operatorId
      "external-synchronization capability requires at least one sync-handle kind")

/-- An operator that the plugin answered for. -/
structure DiscoveredOperator where
  operatorId : BitVec 32
  name : String
  rawCapabilityBits : BitVec 64
  capabilities : SharedOperatorCapabilities

/-- The state of the discovery loop: the identifiers seen, and the operators found. -/
structure Discovery where
  ids : List (BitVec 32)
  discovered : List DiscoveredOperator

/-- The capabilities that an info structure advertises, when the effective bits are `bits`. -/
def advertisedCapabilities (info : VrbSharedOperatorInfoV1) (bits : BitVec 64) :
    SharedOperatorCapabilities where
  kind := mapOperatorKind info.operatorKind
  backend := mapBackendKind info.backendKind
  memoryKinds := mapMemoryKinds info.memoryKindBits
  syncKinds := mapSyncKinds info.syncKindBits
  supportsExternalSynchronization := bits &&& Capability.externalSynchronization != 0#64
  provenZeroCopy := bits &&& Capability.provenZeroCopy != 0#64

/-- One iteration of the discovery loop. -/
def discoverOperator (descriptor : VrbSharedOperatorPluginV1)
    (queryOperator : QuerySharedOperatorFn) (found : Discovery) (index : ℕ) :
    Except SharedOperatorLoadError Discovery := do
  let index := BitVec.ofNat 32 index
  let (queryStatus, info) := queryOperator descriptor.userData index {}
  Except.rejectIf (queryStatus ≠ Status.ok) (.queryStatus index queryStatus)
  let expected := expectedOperatorInfoStructSize
  Except.rejectIf (info.structSize < expected)
    (.operatorDescriptorTooSmall index info.structSize expected)
  let name := abiCharsToString info.name
  Except.rejectIf (name = "") (.emptyOperatorName index)
  Except.rejectIf (found.ids.contains info.operatorId) (.duplicateOperatorId info.operatorId)
  let rawCapabilityBits := info.capabilityBits ||| descriptor.capabilityBits
  validateCapabilities info.operatorId rawCapabilityBits info
  return {
    ids := info.operatorId :: found.ids
    discovered := found.discovered ++ [{
      operatorId := info.operatorId
      name := name
      rawCapabilityBits := rawCapabilityBits
      capabilities := advertisedCapabilities info rawCapabilityBits }] }

/-- The loader, where `image` is what loading the file and calling its entry gave. -/
def loadWithPolicy (image : Except SharedOperatorLoadError (Option VrbSharedOperatorPluginV1))
    (policy : SharedOperatorLoadPolicy) :
    Except SharedOperatorLoadError LoadedSharedOperatorLibrary := do
  let pointer ← image
  let descriptor ← pointer.okOr .nullDescriptor
  validatePluginDescriptor descriptor policy
  let pluginName := abiCharsToString descriptor.name
  let queryOperator ← descriptor.queryOperator.okOr .missingQueryOperator
  let execute ← descriptor.execute.okOr .missingExecute
  let found ← (List.range descriptor.operatorCount.toNat).foldlM
    (discoverOperator descriptor queryOperator) { ids := [], discovered := [] }
  let state : LoadedSharedPluginState := {
    pluginName := pluginName
    policy := policy
    callbacks := { userData := descriptor.userData, execute := execute }
    poisoned := false }
  return {
    pluginName := pluginName
    operators := found.discovered.map fun operator => {
      plugin := state
      operatorId := operator.operatorId
      name := operator.name
      capabilities := operator.capabilities
      rawCapabilityBits := operator.rawCapabilityBits } }

/-- The registry with every operator of the library registered behind its own. -/
def LoadedSharedOperatorLibrary.registerInto (library : LoadedSharedOperatorLibrary)
    (registry : SharedOperatorRegistry PluginM) : SharedOperatorRegistry PluginM :=
  library.operators.foldl (fun registry operator => registry.register operator.toSharedOperator)
    registry

end RiftGPU.SharedOperators
