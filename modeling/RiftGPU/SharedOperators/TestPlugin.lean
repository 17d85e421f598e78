import RiftGPU.SharedOperators.Loader

/-!
# A plugin that checks its descriptors

The plugin of `vrb-test-shared-operator-plugin`. Its only operator validates the descriptors that
it receives and answers with a fixed receipt.

## Main definitions

* `TestPlugin.queryOperator`, `TestPlugin.execute`, `TestPlugin.plugin`: the plugin.

## Main results

* `TestPlugin.loadWithPolicy_plugin`: the plugin loads under every policy that allows an operator.
* `TestPlugin.execute_receipt_of_ok`: an accepted request leaves the receipt in the buffer.
-/

namespace RiftGPU.SharedOperators.TestPlugin

open Bytes PluginAbi

/-- The identifier of the operator. -/
def operatorId : BitVec 32 := 1#32

/-- The name of the plugin. -/
def pluginName : List Byte := ascii "vrb-test-shared-operator"

/-- The name of the operator. -/
def operatorName : List Byte := ascii "shared-contract-validator"

/-- The metadata that a request must have. -/
def expectedMetadata : List Byte := ascii "vrb-shared"

/-- The receipt of an accepted request. -/
def receipt : List Byte := ascii "shared-contract-ok"

/-- The bit of a mask that stands for the value of a kind. -/
def bit (value : BitVec 32) : BitVec 64 := if value < 64#32 then 1#64 <<< value.toNat else 0#64

/-- The query callback, which has an answer for the first index only. -/
def queryOperator : QuerySharedOperatorFn := fun _userData index outInfo =>
  if index ≠ 0#32 then (Status.invalidArgument, outInfo)
  else
    (Status.ok, {
      operatorId := operatorId
      operatorKind := OperatorTag.custom
      backendKind := BackendTag.plugin
      capabilityBits := Capability.externalResource ||| Capability.externalSynchronization
      memoryKindBits := bit MemoryHandleTag.win32Kmt
      syncKindBits := bit SyncHandleTag.win32Opaque
      name := cName operatorName })

/-- The checks of a region. -/
def acceptsRegion (resource : VrbSharedResourceRegionV1) : Bool :=
  !(resource.structSize < expectedResourceRegionStructSize) &&
    resource.handleKind == MemoryHandleTag.win32Kmt &&
    resource.access == ResourceAccessTag.readWrite &&
    resource.handle != 0#64 && resource.length != 0#64 &&
    (resource.offset.checkedAdd resource.length).any fun stop => stop ≤ resource.allocationSize

/-- The checks of a synchronization point. -/
def acceptsPoint (point : VrbSharedSyncPointV1) : Bool :=
  !(point.structSize < expectedSyncPointStructSize) &&
    point.handleKind == SyncHandleTag.win32Opaque && point.handle != 0#64

/-- The checks of a request, up to those of the receipt buffer. -/
def accepts (request : VrbSharedOperatorExecutionRequestV1) : Bool :=
  !(request.structSize < expectedExecutionRequestStructSize) &&
    request.operatorId == operatorId && request.receiptLen.isSome &&
    request.metadataLen.toNat == expectedMetadata.length && request.metadataPtr.isSome &&
    request.metadata == expectedMetadata &&
    request.resourceCount == 1#32 && request.resourcesPtr.isSome &&
    request.waitCount == 1#32 && request.waitsPtr.isSome &&
    request.signalCount == 1#32 && request.signalsPtr.isSome &&
    request.resources.all acceptsRegion && (request.waits ++ request.signals).all acceptsPoint

/-- The execute callback. -/
def execute : ExecuteSharedOperatorFn := fun _userData request =>
  let buffer := request.receiptPtr.getD []
  let required := BitVec.ofNat 64 receipt.length
  if !accepts request then ⟨Status.invalidArgument, buffer, request.receiptLen.getD 0#64⟩
  else if request.receiptCapacity < required then ⟨Status.bufferTooSmall, buffer, required⟩
  else if request.receiptPtr.isNone then ⟨Status.invalidArgument, buffer, required⟩
  else ⟨Status.ok, receipt ++ buffer.drop receipt.length, required⟩

/-- The descriptor of the plugin. -/
def plugin : VrbSharedOperatorPluginV1 where
  abiVersion := sharedOperatorPluginAbiVersion
  structSize := expectedPluginStructSize
  name := cName pluginName
  operatorCount := 1#32
  capabilityBits := 0#64
  userData := 0#64
  queryOperator := some queryOperator
  execute := some execute

/-- A request that is accepted leaves the receipt at the start of the buffer. -/
theorem execute_receipt_of_ok {userData : BitVec 64}
    {request : VrbSharedOperatorExecutionRequestV1}
    (h : (execute userData request).status = Status.ok) :
    (execute userData request).receipt.take (execute userData request).receiptLen.toNat =
      receipt := by
  unfold execute at h ⊢
  dsimp only at h ⊢
  split_ifs at h ⊢ with haccepts hcapacity hbuffer
  · cases h
  · cases h
  · cases h
  · exact List.take_left' rfl

/-- The operator of the plugin, loaded under a policy. -/
def operator (policy : SharedOperatorLoadPolicy) : DynamicSharedOperator where
  plugin := {
    pluginName := "vrb-test-shared-operator"
    policy := policy
    callbacks := { userData := 0#64, execute := execute }
    poisoned := false }
  operatorId := operatorId
  name := "shared-contract-validator"
  capabilities := {
    kind := .custom
    backend := .plugin
    memoryKinds := [.win32Kmt]
    syncKinds := [.win32Opaque]
    supportsExternalSynchronization := true
    provenZeroCopy := false }
  rawCapabilityBits := Capability.externalResource ||| Capability.externalSynchronization

/-- The plugin loads under every policy that allows an operator. -/
theorem loadWithPolicy_plugin {policy : SharedOperatorLoadPolicy}
    (h : 1#32 ≤ policy.maxOperators) :
    loadWithPolicy (.ok (some plugin)) policy =
      .ok { pluginName := "vrb-test-shared-operator", operators := [operator policy] } := by
  have hdescriptor : validatePluginDescriptor plugin policy = .ok () :=
    validatePluginDescriptor_eq_ok_iff.2 ⟨rfl, by decide, by decide, by decide, h⟩
  unfold loadWithPolicy
  rw [Except.ok_bind, Option.okOr_some, Except.ok_bind, hdescriptor]
  rfl

end RiftGPU.SharedOperators.TestPlugin
