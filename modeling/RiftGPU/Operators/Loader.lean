import RiftGPU.Operators.Abi
import RiftGPU.Word.Checked
import RiftGPU.Word.Outcome

/-!
# Loading operator plugins

A plugin is loaded by checking its descriptor and asking it for every operator that it declares.
Running an operator takes two calls of the plugin: one for the size of the output, and one that
writes the output into a buffer of that size. This file models `vrb-operator-loader` on a 64-bit
machine. The outcome of loading the file and calling its entry is the argument `image` of the
loader.

## Main definitions

* `DynamicOperator.executePlugin`, `DynamicOperator.execute`: running an operator.
* `loadWithPolicy`: `LoadedOperatorLibrary::load_with_policy`.

## Main results

* `DynamicOperator.executePlugin_of_returned`, `DynamicOperator.executePlugin_of_size_rejected`,
  `DynamicOperator.executePlugin_of_too_large`: how a run goes, from what the callbacks return.
-/

namespace RiftGPU.Operators

open Bytes PluginAbi

/-- The default limit on the operators of a plugin. -/
def defaultMaxOperators : BitVec 32 := 4096#32

/-- The default limit on the output of an operator. -/
def defaultMaxOutputBytes : BitVec 64 := 1073741824#64

/-- The limits of a host on what a plugin declares and returns. -/
structure OperatorPluginLoadPolicy where
  maxOperators : BitVec 32 := defaultMaxOperators
  maxOutputBytes : BitVec 64 := defaultMaxOutputBytes
deriving DecidableEq

/-- The ways in which loading a plugin can fail. -/
inductive OperatorPluginLoadError where
  | load (path source : String)
  | missingEntry (source : String)
  | nullDescriptor
  | abiVersion (actual expected : BitVec 32)
  | descriptorTooSmall (actual expected : BitVec 32)
  | emptyPluginName
  | noOperators
  | tooManyOperators (actual maximum : BitVec 32)
  | missingQueryOperator
  | missingOutputSize
  | missingExecute
  | queryStatus (index status : BitVec 32)
  | operatorDescriptorTooSmall (index actual expected : BitVec 32)
  | emptyOperatorName (index : BitVec 32)
  | duplicateOperatorId (operatorId : BitVec 32)
deriving DecidableEq

/-- The ways in which a call of a loaded operator can fail. -/
inductive OperatorPluginExecutionError where
  | poisoned
  | inputTooLarge (length : ℕ)
  | pluginStatus (status : BitVec 32)
  | outputTooLarge (requested maximum : BitVec 64)
  | outputLengthExceeded (actual capacity : BitVec 64)
deriving DecidableEq

instance : ToString OperatorPluginExecutionError where
  toString
    | .poisoned => "operator plugin state lock is poisoned"
    | .inputTooLarge length => s!"input length {length} cannot be represented by the plugin ABI"
    | .pluginStatus status => s!"plugin returned status {status.toInt}"
    | .outputTooLarge requested maximum =>
      s!"plugin requested {requested.toNat} output bytes, exceeding host limit {maximum.toNat}"
    | .outputLengthExceeded actual capacity =>
      s!"plugin reported {actual.toNat} output bytes after receiving capacity {capacity.toNat}"

/-! ### Running an operator -/

/-- What a loaded plugin is called with: its own data and its callbacks. -/
structure PluginCallbacks where
  userData : BitVec 64
  outputSize : OutputSizeFn
  execute : ExecuteOperatorFn

/-- A loaded plugin. The callbacks are behind a lock, which may be poisoned. -/
structure LoadedPluginState where
  pluginName : String
  maxOutputBytes : BitVec 64
  callbacks : PluginCallbacks
  poisoned : Bool

/-- An operator of a loaded plugin. -/
structure DynamicOperator where
  plugin : LoadedPluginState
  operatorId : BitVec 32
  name : String
  kind : OperatorKind
  backend : BackendKind
  rawCapabilityBits : BitVec 64

namespace DynamicOperator

/-- The request of the second call, with a buffer of the length that the first call asked for. -/
def executionRequest (operator : DynamicOperator) (input : List Byte) (inputLen : BitVec 64)
    (outputLen : BitVec 64) : VrbOperatorExecutionRequestV1 :=
  let output := List.replicate outputLen.toNat 0#8
  { operatorId := operator.operatorId
    inputPtr := some input
    inputLen := inputLen
    outputPtr := if output.isEmpty then none else some output
    outputCapacity := outputLen
    outputLen := some outputLen }

/-- The two calls of the plugin, and the output that it left in the buffer. -/
def executePlugin (operator : DynamicOperator) (input : List Byte) :
    Except (Fault OperatorPluginExecutionError) (List Byte) := do
  let callbacks := operator.plugin.callbacks
  Except.rejectIf (operator.plugin.poisoned = true) (.error .poisoned)
  let inputLen ← (BitVec.tryOfNat 64 input.length).okOr (.error (.inputTooLarge input.length))
  let sized ← Fault.ofAbort
    (callbacks.outputSize callbacks.userData operator.operatorId (some input) inputLen (some 0#64))
  Except.rejectIf (sized.status ≠ Status.ok) (.error (.pluginStatus sized.status))
  let outputLen := sized.outputLen
  Except.rejectIf (outputLen > operator.plugin.maxOutputBytes)
    (.error (.outputTooLarge outputLen operator.plugin.maxOutputBytes))
  let returned ← Fault.ofAbort
    (callbacks.execute callbacks.userData (operator.executionRequest input inputLen outputLen))
  Except.rejectIf (returned.status ≠ Status.ok) (.error (.pluginStatus returned.status))
  Except.rejectIf (returned.outputLen > outputLen)
    (.error (.outputLengthExceeded returned.outputLen outputLen))
  return returned.output.take returned.outputLen.toNat

section

variable {operator : DynamicOperator} {input : List Byte} {inputLen : BitVec 64}

/-- An input whose length does not fit is rejected before any call. -/
theorem executePlugin_of_too_large (hpoisoned : operator.plugin.poisoned = false)
    (hinput : 2 ^ 64 ≤ input.length) :
    operator.executePlugin input = .error (.error (.inputTooLarge input.length)) := by
  rw [executePlugin, hpoisoned, Except.rejectIf_of_not Bool.false_ne_true,
    BitVec.tryOfNat_eq_none_iff.2 hinput]
  rfl

/-- The status of a first call that fails is passed on. -/
theorem executePlugin_of_size_rejected (hpoisoned : operator.plugin.poisoned = false)
    (hinput : inputLen.toNat = input.length) {sized : OutputSizeReturn}
    (hsize : operator.plugin.callbacks.outputSize operator.plugin.callbacks.userData
      operator.operatorId (some input) inputLen (some 0#64) = .ok sized)
    (hstatus : sized.status ≠ Status.ok) :
    operator.executePlugin input = .error (.error (.pluginStatus sized.status)) := by
  rw [executePlugin, hpoisoned, Except.rejectIf_of_not Bool.false_ne_true,
    BitVec.tryOfNat_eq_some_iff.2 hinput]
  simp only [Option.okOr_some, Except.ok_bind, hsize, Fault.ofAbort_ok, Except.rejectIf,
    if_pos hstatus]
  rfl

/-- The output of a second call that succeeds within the buffer is returned. -/
theorem executePlugin_of_returned (hpoisoned : operator.plugin.poisoned = false)
    (hinput : inputLen.toNat = input.length) {length : BitVec 64}
    (hsize : operator.plugin.callbacks.outputSize operator.plugin.callbacks.userData
      operator.operatorId (some input) inputLen (some 0#64) = .ok ⟨Status.ok, length⟩)
    (hmax : ¬length > operator.plugin.maxOutputBytes) {returned : ExecuteReturn}
    (hexecute : operator.plugin.callbacks.execute operator.plugin.callbacks.userData
      (operator.executionRequest input inputLen length) = .ok returned)
    (hstatus : returned.status = Status.ok) (hcapacity : ¬returned.outputLen > length) :
    operator.executePlugin input = .ok (returned.output.take returned.outputLen.toNat) := by
  rw [executePlugin, hpoisoned, Except.rejectIf_of_not Bool.false_ne_true,
    BitVec.tryOfNat_eq_some_iff.2 hinput]
  simp only [Option.okOr_some, Except.ok_bind, hsize, hexecute, Fault.ofAbort_ok, hstatus,
    Except.rejectIf, ne_eq, not_true_eq_false, if_false, if_neg hmax, if_neg hcapacity]
  rfl

end

/-- `executePlugin` with its errors as the texts that a registry passes on. -/
def execute (operator : DynamicOperator) (invocation : OperatorInvocation) :
    Except (Fault OperatorError) OperatorOutput :=
  ((operator.executePlugin invocation.input).map OperatorOutput.mk).mapError
    (Fault.mapError fun error => .execution (toString error))

end DynamicOperator

/-! ### Loading a plugin -/

/-- A loaded plugin with its operators. -/
structure LoadedOperatorLibrary where
  pluginName : String
  operators : List DynamicOperator

/-- The checks of a descriptor, up to those of its callbacks. -/
def validatePluginDescriptor (descriptor : VrbOperatorPluginV1)
    (policy : OperatorPluginLoadPolicy) : Except OperatorPluginLoadError Unit := do
  Except.rejectIf (descriptor.abiVersion ≠ operatorPluginAbiVersion)
    (.abiVersion descriptor.abiVersion operatorPluginAbiVersion)
  let expectedPluginSize := expectedOperatorPluginStructSize
  Except.rejectIf (descriptor.structSize < expectedPluginSize)
    (.descriptorTooSmall descriptor.structSize expectedPluginSize)
  Except.rejectIf (abiCharsToString descriptor.name = "") .emptyPluginName
  Except.rejectIf (descriptor.operatorCount = 0#32) .noOperators
  Except.rejectIf (descriptor.operatorCount > policy.maxOperators)
    (.tooManyOperators descriptor.operatorCount policy.maxOperators)

theorem validatePluginDescriptor_eq_ok_iff {descriptor : VrbOperatorPluginV1}
    {policy : OperatorPluginLoadPolicy} {u : Unit} :
    validatePluginDescriptor descriptor policy = .ok u ↔
      descriptor.abiVersion = operatorPluginAbiVersion ∧
        expectedOperatorPluginStructSize ≤ descriptor.structSize ∧
        abiCharsToString descriptor.name ≠ "" ∧ descriptor.operatorCount ≠ 0#32 ∧
        descriptor.operatorCount ≤ policy.maxOperators := by
  simp only [validatePluginDescriptor, Except.bind_eq_ok_iff, Except.rejectIf_eq_ok_iff,
    exists_const, not_not, BitVec.not_lt, gt_iff_lt, ne_eq]

/-- An operator that the plugin answered for. -/
structure DiscoveredOperator where
  operatorId : BitVec 32
  name : String
  kind : OperatorKind
  backend : BackendKind
  rawCapabilityBits : BitVec 64

/-- The state of the discovery loop: the identifiers seen, and the operators found. -/
structure Discovery where
  ids : List (BitVec 32)
  discovered : List DiscoveredOperator

/-- One iteration of the discovery loop. -/
def discoverOperator (descriptor : VrbOperatorPluginV1) (queryOperator : QueryOperatorFn)
    (found : Discovery) (index : ℕ) : Except OperatorPluginLoadError Discovery := do
  let index := BitVec.ofNat 32 index
  let (queryStatus, info) := queryOperator descriptor.userData index {}
  Except.rejectIf (queryStatus ≠ Status.ok) (.queryStatus index queryStatus)
  let expectedInfoSize := expectedOperatorInfoStructSize
  Except.rejectIf (info.structSize < expectedInfoSize)
    (.operatorDescriptorTooSmall index info.structSize expectedInfoSize)
  let name := abiCharsToString info.name
  Except.rejectIf (name = "") (.emptyOperatorName index)
  Except.rejectIf (info.operatorId ∈ found.ids) (.duplicateOperatorId info.operatorId)
  return {
    ids := info.operatorId :: found.ids
    discovered := found.discovered ++ [{
      operatorId := info.operatorId
      name := name
      kind := mapOperatorKind info.operatorKind
      backend := mapBackendKind info.backendKind
      rawCapabilityBits := info.capabilityBits ||| descriptor.capabilityBits }] }

/-- The loader, where `image` is what loading the file and calling its entry gave. -/
def loadWithPolicy (image : Except OperatorPluginLoadError (Option VrbOperatorPluginV1))
    (policy : OperatorPluginLoadPolicy) :
    Except OperatorPluginLoadError LoadedOperatorLibrary := do
  let pointer ← image
  let descriptor ← pointer.okOr .nullDescriptor
  validatePluginDescriptor descriptor policy
  let pluginName := abiCharsToString descriptor.name
  let queryOperator ← descriptor.queryOperator.okOr .missingQueryOperator
  let outputSize ← descriptor.outputSize.okOr .missingOutputSize
  let execute ← descriptor.execute.okOr .missingExecute
  let found ← (List.range descriptor.operatorCount.toNat).foldlM
    (discoverOperator descriptor queryOperator) { ids := [], discovered := [] }
  let state : LoadedPluginState := {
    pluginName := pluginName
    maxOutputBytes := policy.maxOutputBytes
    callbacks := { userData := descriptor.userData, outputSize := outputSize, execute := execute }
    poisoned := false }
  return {
    pluginName := pluginName
    operators := found.discovered.map fun operator => {
      plugin := state
      operatorId := operator.operatorId
      name := operator.name
      kind := operator.kind
      backend := operator.backend
      rawCapabilityBits := operator.rawCapabilityBits } }

end RiftGPU.Operators
