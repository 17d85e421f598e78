import Mathlib.Data.List.MinMax
import RiftGPU.Lists.Upsert
import RiftGPU.Text.Trim
import RiftGPU.Word.Outcome

/-!
# Backends, requests and measurements

The vocabulary of routing: backends and what they support, requests, and the table of measured
times. This file models the data types of `vrb-core`. Times are floats in the source; here they
are of any type `T`, with the tests that the source makes on a float.

## Main definitions

* `BackendId`, `BackendProbe`, `CapabilitySet.supports`, `RouteRequest`.
* `PerformanceTable.record`, `PerformanceTable.medianUs`: the measured time of an operation on a
  backend.
-/

namespace RiftGPU

/-- The name of a backend. Names made by `BackendId.new` are trimmed and not empty. -/
structure BackendId where
  value : String
deriving DecidableEq, Repr

namespace BackendId

/-- Names are ordered as their texts are. -/
instance : Ord BackendId := ⟨compareOn value⟩

instance : Std.TransOrd BackendId := inferInstanceAs (Std.TransCmp (compareOn value))

instance : Std.LawfulEqOrd BackendId where
  compare_self {a} := (Std.ReflOrd.compare_self : compare a.value a.value = .eq)
  eq_of_compare {a b} h :=
    congrArg mk (Std.LawfulEqOrd.eq_of_compare (h : compare a.value b.value = .eq))

end BackendId

/-- The ways in which building a runtime or routing a request can fail. -/
inductive RuntimeError where
  | invalidBackendId
  | duplicateBackend (id : BackendId)
  | noCompatibleBackend
  | routing (message : String)
deriving DecidableEq, Repr

/-- The name with this text, trimmed. -/
def BackendId.new (value : String) : Except RuntimeError BackendId := do
  let trimmed := Text.trim value
  Except.rejectIf (trimmed = "") .invalidBackendId
  return ⟨trimmed⟩

/-- The kind of a backend. -/
inductive BackendKind where
  | cpu
  | vulkan
  | hip
  | hybrid
  | plugin
deriving DecidableEq, Repr

/-- What a backend is asked to do. -/
inductive OperationKind where
  | copy
  | vectorAdd
  | gemv
  | gemm
  | softmax
  | attention
  | rmsNorm
  | custom
deriving DecidableEq, Repr

/-- The type of the elements that a backend works on. -/
inductive DataType where
  | f32
  | f16
  | bf16
  | i8
  | q4
  | unknown
deriving DecidableEq, Repr

/-- What is to be done, and what the backend must offer for it. -/
structure RouteRequest where
  operation : OperationKind
  dataType : DataType
  requiresExternalMemory : Bool
  requiresExternalSemaphore : Bool
  requiresZeroCopy : Bool
deriving DecidableEq, Repr

/-- A request without requirements on memory and synchronization. -/
def RouteRequest.new (operation : OperationKind) (dataType : DataType) : RouteRequest where
  operation := operation
  dataType := dataType
  requiresExternalMemory := false
  requiresExternalSemaphore := false
  requiresZeroCopy := false

/-- The request, where the memory must be shared without a copy. -/
def RouteRequest.zeroCopy (request : RouteRequest) : RouteRequest :=
  { request with
    requiresExternalMemory := true
    requiresExternalSemaphore := true
    requiresZeroCopy := true }

/-- What a backend offers. -/
structure CapabilitySet where
  operations : List OperationKind
  dataTypes : List DataType
  externalMemory : Bool
  externalSemaphore : Bool
  zeroCopy : Bool
deriving DecidableEq, Repr

/-- The capabilities of a backend that offers nothing. -/
def CapabilitySet.none : CapabilitySet where
  operations := []
  dataTypes := []
  externalMemory := false
  externalSemaphore := false
  zeroCopy := false

/-- The capabilities have everything that the request needs. -/
def CapabilitySet.supports (capabilities : CapabilitySet) (request : RouteRequest) : Bool :=
  capabilities.operations.contains request.operation &&
    capabilities.dataTypes.contains request.dataType &&
    (!request.requiresExternalMemory || capabilities.externalMemory) &&
    (!request.requiresExternalSemaphore || capabilities.externalSemaphore) &&
    (!request.requiresZeroCopy || capabilities.zeroCopy)

/-- What a backend reports of itself and of its devices. -/
structure BackendProbe where
  id : BackendId
  kind : BackendKind
  name : String
  vendor : String
  available : Bool
  deviceCount : BitVec 32
  detail : String
  capabilities : CapabilitySet
deriving DecidableEq, Repr

/-- The ways in which a backend can fail. -/
inductive BackendError where
  | unavailable (message : String)
  | probe (message : String)
  | unsupported (message : String)
  | internal (message : String)
deriving DecidableEq, Repr

/-- The text of an error. -/
def BackendError.text : BackendError → String
  | unavailable message => "backend unavailable: " ++ message
  | probe message => "backend probe failed: " ++ message
  | unsupported message => "backend operation unsupported: " ++ message
  | internal message => "backend internal error: " ++ message

/-- A backend, by what its methods return. -/
structure ComputeBackend where
  id : BackendId
  kind : BackendKind
  probe : Except BackendError BackendProbe
deriving DecidableEq, Repr

/-- A type of times with the tests that are made on one: `is_finite`, `>= 0.0` and `< 0.0`. They say
nothing about the order by which times are compared with each other. -/
class CostTest (T : Type) where
  isFinite : T → Bool
  geZero : T → Bool
  ltZero : T → Bool

/-- The measured time of an operation on a backend. -/
structure PerformanceRecord (T : Type) where
  backend : BackendId
  operation : OperationKind
  dataType : DataType
  medianMicroseconds : T
  samples : BitVec 32

/-- The measured times, in the order in which they were first recorded. -/
structure PerformanceTable (T : Type) where
  records : List (PerformanceRecord T)

/-- The record is for this backend, operation and data type. -/
def PerformanceRecord.isFor {T : Type} (record : PerformanceRecord T) (backend : BackendId)
    (operation : OperationKind) (dataType : DataType) : Bool :=
  record.backend == backend && record.operation == operation && record.dataType == dataType

/-- What a record is for. -/
def PerformanceRecord.key {T : Type} (record : PerformanceRecord T) :
    BackendId × OperationKind × DataType :=
  (record.backend, record.operation, record.dataType)

/-- The table with a record, which replaces the first one for the same backend, operation and data
type. -/
def PerformanceTable.record {T : Type} (table : PerformanceTable T)
    (record : PerformanceRecord T) : PerformanceTable T :=
  { records := List.upsert PerformanceRecord.key record table.records }

/-- The time of the first record for this backend, operation and data type. -/
def PerformanceTable.medianUs {T : Type} (table : PerformanceTable T) (backend : BackendId)
    (operation : OperationKind) (dataType : DataType) : Option T :=
  (table.records.find? fun record => record.isFor backend operation dataType).map
    PerformanceRecord.medianMicroseconds

end RiftGPU
