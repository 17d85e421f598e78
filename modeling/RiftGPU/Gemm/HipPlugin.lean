import RiftGPU.Gemm.SharedProtocol
import RiftGPU.SharedOperators.Abi

/-!
# The shared GEMM plugin on HIP

A plugin whose operator imports three regions of shared memory into HIP and runs `rocblas_sgemm` on
them. This file models `vrb-hip-shared-gemm-plugin` on Windows, where it works. HIP and rocBLAS are
parameters: a record of their functions. A buffer on the device is the list of its floats, found
at the address where it is mapped. The state of the plugin has the handles that it created, the
memory of the device and the calls of `rocblas_sgemm` made so far; a function that fails keeps what
it changed before.

## Main definitions

* `HipPlugin.SgemmCall`: the arguments of a call of `rocblas_sgemm`.
* `HipPlugin.prepare`: the checks of a request before HIP is used.
* `HipPlugin.runGemm`, `HipPlugin.writeReceipt`, `HipPlugin.executeWindows`, `HipPlugin.execute`.
-/

namespace RiftGPU.HipPlugin

open Bytes PluginAbi SharedOperators Gemm

/-- The identifier of the one operator of the plugin. -/
def hipOperatorId : BitVec 32 := 1#32

/-- The receipt of a multiplication that has succeeded. -/
def successReceipt : List Byte := ascii "hip-rocblas-shared-gemm-ok"

/-- The status of a HIP function that has succeeded. -/
def hipSuccess : BitVec 32 := 0#32

/-- The status of a rocBLAS function that has succeeded. -/
def rocblasStatusSuccess : BitVec 32 := 0#32

/-- `rocblas_operation_none`, a matrix that is not transposed. -/
def rocblasOperationNone : BitVec 32 := 111#32

/-- The type of a global share handle of Windows. -/
def hipExternalMemoryHandleTypeOpaqueWin32Kmt : BitVec 32 := 3#32

/-! ### HIP and rocBLAS -/

/-- An address on the device, null when it is zero. -/
abbrev DevicePtr := BitVec 64

/-- The floats of the buffer that is mapped at an address. -/
abbrev DeviceMemory := DevicePtr → List F32

/-- What is imported: a handle to an allocation of some size. -/
structure HipExternalMemoryHandleDesc where
  type : BitVec 32
  handle : BitVec 64
  size : BitVec 64
  flags : BitVec 32

/-- What is mapped: a range of an imported allocation. -/
structure HipExternalMemoryBufferDesc where
  offset : BitVec 64
  size : BitVec 64
  flags : BitVec 32

/-- The functions of HIP. They return a status, and the pointer that they write. -/
structure HipApi where
  setDevice : BitVec 32 → BitVec 32
  importExternalMemory : HipExternalMemoryHandleDesc → BitVec 32 × BitVec 64
  externalMemoryGetMappedBuffer :
    BitVec 64 → HipExternalMemoryBufferDesc → BitVec 32 × DevicePtr
  deviceSynchronize : BitVec 32

/-- The arguments of a call of `rocblas_sgemm`. -/
structure SgemmCall where
  transA : BitVec 32
  transB : BitVec 32
  m : BitVec 32
  n : BitVec 32
  k : BitVec 32
  alpha : F32
  a : DevicePtr
  lda : BitVec 32
  b : DevicePtr
  ldb : BitVec 32
  beta : F32
  c : DevicePtr
  ldc : BitVec 32
deriving DecidableEq

/-- The functions of rocBLAS. A multiplication changes the memory of the device. -/
structure RocblasApi where
  createHandle : BitVec 32 × BitVec 64
  sgemm : BitVec 64 → SgemmCall → DeviceMemory → BitVec 32 × DeviceMemory

/-- The two libraries of the runtime. -/
structure RuntimeApis where
  hip : HipApi
  rocblas : RocblasApi

/-- What the functions of the plugin change. -/
structure HipState where
  handles : List (BitVec 32 × BitVec 64)
  memory : DeviceMemory
  calls : List SgemmCall

/-- A function of the plugin, which fails with a status. -/
abbrev HipM := ExceptT (BitVec 32) (StateM HipState)

namespace HipM

/-- Fail with a status when a condition holds. -/
def rejectIf (p : Prop) [Decidable p] (status : BitVec 32) : HipM Unit :=
  ExceptT.mk (pure (Except.rejectIf p status))

/-- A function that does not look at the state. -/
def lift {α : Type} (x : Except (BitVec 32) α) : HipM α := ExceptT.mk (pure x)

end HipM

/-- `RuntimeState::handle_for_device`: the handle of a device, created when there is none. -/
def handleForDevice (apis : RuntimeApis) (deviceIndex : BitVec 32) : HipM (BitVec 64) := do
  HipM.rejectIf (apis.hip.setDevice deviceIndex ≠ hipSuccess) Status.unavailable
  match (← get).handles.lookup deviceIndex with
  | some handle => return handle
  | none =>
    let (status, rawHandle) := apis.rocblas.createHandle
    HipM.rejectIf (status ≠ rocblasStatusSuccess ∨ rawHandle = 0#64) Status.unavailable
    modify fun state => { state with handles := (deviceIndex, rawHandle) :: state.handles }
    return rawHandle

/-- The address at which a region is mapped. -/
def importRegion (hip : HipApi) (region : VrbSharedResourceRegionV1) :
    Except (BitVec 32) DevicePtr := do
  let descriptor : HipExternalMemoryHandleDesc := {
    type := hipExternalMemoryHandleTypeOpaqueWin32Kmt
    handle := region.handle
    size := region.allocationSize
    flags := 0#32 }
  let (importStatus, external) := hip.importExternalMemory descriptor
  Except.rejectIf (importStatus ≠ hipSuccess ∨ external = 0#64) Status.unavailable
  let mapping : HipExternalMemoryBufferDesc := {
    offset := region.offset
    size := region.length
    flags := 0#32 }
  let (mapStatus, pointer) := hip.externalMemoryGetMappedBuffer external mapping
  Except.rejectIf (mapStatus ≠ hipSuccess ∨ pointer = 0#64) Status.unavailable
  return pointer

/-- A multiplication, recorded with its arguments also when it fails. -/
def callSgemm (apis : RuntimeApis) (handle : BitVec 64) (call : SgemmCall) :
    HipM (BitVec 32) := do
  let state ← get
  let (status, memory) := apis.rocblas.sgemm handle call state.memory
  set { state with memory := memory, calls := state.calls ++ [call] }
  return status

/-! ### The checks of a request -/

/-- The bytes at a pointer, or the status of the rejection. -/
def abiSlice (pointer : Option (List Byte)) (length : BitVec 64) :
    Except (BitVec 32) (List Byte) :=
  if length.toNat = 0 then .ok []
  else do
    let buffer ← pointer.okOr Status.invalidArgument
    return buffer.take length.toNat

/-- The checks of a region whose access and length are prescribed. -/
def validateRegion (region : VrbSharedResourceRegionV1) (access : BitVec 32)
    (expectedBytes : BitVec 64) : Bool :=
  if region.structSize < expectedResourceRegionStructSize ∨
      region.handleKind ≠ MemoryHandleTag.win32Kmt ∨ region.access ≠ access ∨
      region.handle = 0#64 ∨ region.length ≠ expectedBytes ∨ region.allocationSize = 0#64 then
    false
  else (region.offset.checkedAdd region.length).any fun stop => stop ≤ region.allocationSize

/-- The conversion of a dimension to a signed 32-bit word. -/
def dimension (value : BitVec 64) : Option (BitVec 32) :=
  if value.toNat < 2 ^ 31 then some (BitVec.ofNat 32 value.toNat) else none

/-- A request that passed the checks. -/
structure PreparedGemm where
  control : SharedGemmControl
  a : VrbSharedResourceRegionV1
  b : VrbSharedResourceRegionV1
  c : VrbSharedResourceRegionV1
  m : BitVec 32
  n : BitVec 32
  k : BitVec 32

/-- The first part of `execute_windows`: the checks before HIP is used. The caller promises that a
pointer to resources points to as many as it says. -/
def prepare (request : VrbSharedOperatorExecutionRequestV1) :
    Except (BitVec 32) PreparedGemm := do
  let metadata ← abiSlice request.metadataPtr request.metadataLen
  let control ← (decodeControl metadata).mapError fun _ => Status.invalidArgument
  Except.rejectIf (request.resourceCount.toNat ≠ sharedGemmResourceCount ∨
    request.resourcesPtr.isNone ∨ request.waitCount ≠ 0#32 ∨ request.signalCount ≠ 0#32)
    Status.invalidArgument
  let resources := readArray request.resourcesPtr sharedGemmResourceCount
  let lengths ← (expectedResourceLengths control).mapError fun _ => Status.invalidArgument
  let a := resources.getD 0 {}
  let b := resources.getD 1 {}
  let c := resources.getD 2 {}
  Except.rejectIf (!validateRegion a ResourceAccessTag.readOnly lengths.aBytes ∨
    !validateRegion b ResourceAccessTag.readOnly lengths.bBytes ∨
    !validateRegion c ResourceAccessTag.readWrite lengths.cBytes) Status.invalidArgument
  let m ← (dimension control.m).okOr Status.unsupported
  let n ← (dimension control.n).okOr Status.unsupported
  let k ← (dimension control.k).okOr Status.unsupported
  return { control, a, b, c, m, n, k }

/-! ### Running a request -/

/-- The call for matrices that are mapped at the given addresses. The matrices lie in memory by
rows and rocBLAS reads them by columns, that is, transposed; it is asked for the transposed
product. -/
def gemmCall (prepared : PreparedGemm) (a b c : DevicePtr) : SgemmCall where
  transA := rocblasOperationNone
  transB := rocblasOperationNone
  m := prepared.n
  n := prepared.m
  k := prepared.k
  alpha := prepared.control.alpha
  a := b
  lda := prepared.n
  b := a
  ldb := prepared.k
  beta := prepared.control.beta
  c := c
  ldc := prepared.n

/-- The part of `execute_windows` that uses HIP and rocBLAS. -/
def runGemm (apis : RuntimeApis) (prepared : PreparedGemm) : HipM Unit := do
  let rawHandle ← handleForDevice apis prepared.control.hipDeviceIndex
  let a ← HipM.lift (importRegion apis.hip prepared.a)
  let b ← HipM.lift (importRegion apis.hip prepared.b)
  let c ← HipM.lift (importRegion apis.hip prepared.c)
  let blasStatus ← callSgemm apis rawHandle (gemmCall prepared a b c)
  HipM.rejectIf (blasStatus ≠ rocblasStatusSuccess) Status.internalError
  HipM.rejectIf (apis.hip.deviceSynchronize ≠ hipSuccess) Status.internalError

/-- The return of a call that has succeeded up to here, with its receipt if it fits. -/
def writeReceipt (request : VrbSharedOperatorExecutionRequestV1) (receipt : List Byte) :
    ExecuteReturn :=
  let buffer := request.receiptPtr.getD []
  let required := BitVec.ofNat 64 receipt.length
  if request.receiptCapacity < required then ⟨Status.bufferTooSmall, buffer, required⟩
  else if required > 0#64 ∧ request.receiptPtr.isNone then
    ⟨Status.invalidArgument, buffer, required⟩
  else ⟨Status.ok, receipt ++ buffer.drop receipt.length, required⟩

/-- A call that fails before the receipt is written. -/
def rejected (request : VrbSharedOperatorExecutionRequestV1) (status : BitVec 32) :
    ExecuteReturn :=
  ⟨status, request.receiptPtr.getD [], request.receiptLen.getD 0#64⟩

/-- `execute_windows`, where `runtime` is the runtime that is locked and loaded, or the status of
the failure to do so. -/
def executeWindows (runtime : Except (BitVec 32) RuntimeApis)
    (request : VrbSharedOperatorExecutionRequestV1) : StateM HipState ExecuteReturn :=
  match prepare request with
  | .error status => pure (rejected request status)
  | .ok prepared => do
    let execution ← ExceptT.run (do
      let apis ← HipM.lift runtime
      runGemm apis prepared)
    match execution with
    | .error status => return rejected request status
    | .ok () => return writeReceipt request successReceipt

/-- The execute callback of the plugin. -/
def execute (runtime : Except (BitVec 32) RuntimeApis)
    (request : VrbSharedOperatorExecutionRequestV1) : StateM HipState ExecuteReturn :=
  if request.structSize < expectedExecutionRequestStructSize ∨
      request.operatorId ≠ hipOperatorId ∨ request.receiptLen.isNone then
    pure (rejected request Status.invalidArgument)
  else executeWindows runtime request

end RiftGPU.HipPlugin
