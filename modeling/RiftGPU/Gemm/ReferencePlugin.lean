import RiftGPU.Gemm.Reference
import RiftGPU.Operators.Loader

/-!
# The reference GEMM as an operator and as a plugin

The reference GEMM is offered twice: as an operator in the process, and by a plugin that is called
over the binary interface. This file models `CpuReferenceGemm` and `vrb-gemm-reference-plugin`.

## Main definitions

* `Gemm.CpuReferenceGemm.execute`: the operator in the process.
* `Gemm.ReferencePlugin.outputSize`, `Gemm.ReferencePlugin.execute`: the callbacks of the plugin.
* `Gemm.ReferencePlugin.plugin`: its descriptor.
-/

namespace RiftGPU.Gemm

open Bytes PluginAbi Operators

/-- The name of the operator. -/
def referenceGemmName : String := "cpu-reference-gemm"

/-- The operator in the process. -/
structure CpuReferenceGemm where
  limits : GemmLimits

/-- The operator with the default limits. -/
def CpuReferenceGemm.default : CpuReferenceGemm := ⟨GemmLimits.default⟩

/-- The run of the operator. Its errors are passed on as texts. -/
def CpuReferenceGemm.execute (F : Type) [Add F] [Mul F] [Zero F] [BEq F] [FloatCodec F]
    (gemm : CpuReferenceGemm) (invocation : OperatorInvocation) :
    Except (Fault OperatorError) OperatorOutput :=
  ((executeGemmBytes F invocation.input gemm.limits).map OperatorOutput.mk).mapError
    (Fault.mapError fun error => .execution (toString error))

namespace ReferencePlugin

/-- The identifier of the one operator of the plugin. -/
def referenceGemmOperatorId : BitVec 32 := 1#32

/-- The name of the plugin. -/
def pluginName : List Byte := ascii "vrb-reference-gemm"

/-- The query callback, which has an answer for the first index only. -/
def queryOperator : QueryOperatorFn := fun _userData index outInfo =>
  if index ≠ 0#32 then (Status.invalidArgument, outInfo)
  else
    (Status.ok, {
      operatorId := referenceGemmOperatorId
      operatorKind := OperatorTag.gemm
      backendKind := BackendTag.cpu
      capabilityBits := Capability.fp32 ||| Capability.hostBytes
      name := cName (ascii referenceGemmName) })

/-- The input at a pointer, or the status of the rejection. -/
def abiInput (inputPtr : Option (List Byte)) (inputLen : BitVec 64) :
    Except (BitVec 32) (List Byte) :=
  if inputLen.toNat = 0 then .ok []
  else do
    let buffer ← inputPtr.okOr Status.invalidArgument
    return buffer.take inputLen.toNat

/-- The status that the plugin returns for an error of the reference GEMM. -/
def mapError : ReferenceGemmError → BitVec 32
  | .protocol _ => Status.invalidArgument
  | .resourceLimit .. | .addressSpaceOverflow => Status.unsupported

/-- The callback for the size of the output. -/
def outputSize : OutputSizeFn := fun _userData operatorId inputPtr inputLen outOutputLen =>
  let unchanged := outOutputLen.getD 0#64
  if operatorId ≠ referenceGemmOperatorId ∨ outOutputLen.isNone then
    .ok ⟨Status.invalidArgument, unchanged⟩
  else
    match abiInput inputPtr inputLen with
    | .error status => .ok ⟨status, unchanged⟩
    | .ok input =>
      match requiredOutputLen input GemmLimits.default with
      | .ok length => .ok ⟨Status.ok, length⟩
      | .error (.error error) => .ok ⟨mapError error, unchanged⟩
      | .error (.panic message) => .error message

/-- The last part of the execute callback: the output is copied into the buffer of the host. -/
def writeOutput (request : VrbOperatorExecutionRequestV1) (output : List Byte) : ExecuteReturn :=
  let buffer := request.outputPtr.getD []
  match BitVec.tryOfNat 64 output.length with
  | none => ⟨Status.internalError, buffer, request.outputLen.getD 0#64⟩
  | some required =>
    if required > request.outputCapacity then ⟨Status.bufferTooSmall, buffer, required⟩
    else if !output.isEmpty ∧ request.outputPtr.isNone then
      ⟨Status.invalidArgument, buffer, required⟩
    else ⟨Status.ok, output ++ buffer.drop output.length, required⟩

section Execution

variable (F : Type) [Add F] [Mul F] [Zero F] [BEq F] [FloatCodec F]

/-- The execute callback. -/
def execute : ExecuteOperatorFn := fun _userData request =>
  let rejected (status : BitVec 32) : ExecuteReturn :=
    ⟨status, request.outputPtr.getD [], request.outputLen.getD 0#64⟩
  if request.structSize < expectedExecutionRequestStructSize ∨
      request.operatorId ≠ referenceGemmOperatorId ∨ request.outputLen.isNone then
    .ok (rejected Status.invalidArgument)
  else
    match abiInput request.inputPtr request.inputLen with
    | .error status => .ok (rejected status)
    | .ok input =>
      match executeGemmBytes F input GemmLimits.default with
      | .ok output => .ok (writeOutput request output)
      | .error (.error error) => .ok (rejected (mapError error))
      | .error (.panic message) => .error message

/-- The descriptor of the plugin. -/
def plugin : VrbOperatorPluginV1 where
  abiVersion := operatorPluginAbiVersion
  structSize := expectedOperatorPluginStructSize
  name := cName pluginName
  operatorCount := 1#32
  capabilityBits := Capability.fp32 ||| Capability.hostBytes
  userData := 0#64
  queryOperator := some queryOperator
  outputSize := some outputSize
  execute := some (execute F)

end Execution

end ReferencePlugin

end RiftGPU.Gemm
