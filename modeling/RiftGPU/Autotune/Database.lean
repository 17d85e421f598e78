import RiftGPU.Core.Backend
import RiftGPU.Files.Disk
import RiftGPU.Word.Checked
import RiftGPU.Word.Float64

/-!
# The autotune database

A database of benchmark records, each keyed by the environment, the backend, the operation, the
data type and the workload shape. This file models `vrb-autotune`, except for saving. Reading a
file and parsing it are parameters of loading.

## Main definitions

* `Autotune.TuningRecord`, `Autotune.TuningRecord.validate`.
* `Autotune.AutotuneDatabase.record`, `Autotune.AutotuneDatabase.lookup`,
  `Autotune.AutotuneDatabase.performanceTableFor`.
* `Autotune.AutotuneDatabase.load`.
-/

namespace RiftGPU.Autotune

open Files (IoError)

/-- The version of the file format. -/
def autotuneSchemaVersion : BitVec 32 := 1#32

/-- An error of the JSON library. -/
structure JsonError where
  message : String
deriving DecidableEq, Repr

/-- The errors of the crate. -/
inductive AutotuneError where
  | invalidFingerprint (field : String)
  | invalidShape
  | shapeOverflow
  | invalidAlignment (alignment : BitVec 32)
  | invalidLatency (latency : F64)
  | zeroSamples
  | unsupportedSchema (version : BitVec 32)
  | io (error : IoError)
  | json (error : JsonError)
deriving DecidableEq, Repr

/-! ### Keys and records -/

/-- What the times depend on besides the workload. -/
structure EnvironmentFingerprint where
  gpuArch : String
  driverVersion : String
  runtimeVersion : String
  pluginVersion : String
deriving DecidableEq, Repr

/-- No field is blank. -/
def EnvironmentFingerprint.validate (environment : EnvironmentFingerprint) :
    Except AutotuneError Unit :=
  [("gpu_arch", environment.gpuArch), ("driver_version", environment.driverVersion),
    ("runtime_version", environment.runtimeVersion),
    ("plugin_version", environment.pluginVersion)].forM fun field =>
    Except.rejectIf (Text.trim field.2 = "") (.invalidFingerprint field.1)

/-- The dimensions and the alignment of a workload. -/
structure WorkloadShape where
  dims : List (BitVec 64)
  alignment : BitVec 32
deriving DecidableEq, Repr

/-- Exactly one bit is set. -/
def isPowerOfTwo (value : BitVec 32) : Bool :=
  value != 0#32 && value &&& (value - 1#32) == 0#32

/-- There are dimensions, none of them zero, and their product fits in a word; the alignment is a
power of two. -/
def WorkloadShape.validate (shape : WorkloadShape) : Except AutotuneError Unit := do
  Except.rejectIf (shape.dims.isEmpty ∨ shape.dims.contains 0#64) .invalidShape
  Except.rejectIf (shape.alignment = 0#32 ∨ !isPowerOfTwo shape.alignment)
    (.invalidAlignment shape.alignment)
  let _ ← shape.dims.foldlM (fun acc dim => (acc.checkedMul dim).okOr .shapeOverflow) 1#64
  return ()

/-- What a record is about. -/
structure TuningKey where
  environment : EnvironmentFingerprint
  backend : BackendId
  operation : OperationKind
  dataType : DataType
  shape : WorkloadShape
deriving DecidableEq, Repr

/-- A key must have a valid environment and a valid shape. -/
def TuningKey.validate (key : TuningKey) : Except AutotuneError Unit := do
  key.environment.validate
  key.shape.validate

/-- A measurement. -/
structure TuningRecord where
  key : TuningKey
  medianMicroseconds : F64
  samples : BitVec 32
deriving DecidableEq, Repr

/-- The key is valid, the time is finite and not negative, and there are samples. -/
def TuningRecord.validate (record : TuningRecord) : Except AutotuneError Unit := do
  record.key.validate
  Except.rejectIf (!record.medianMicroseconds.isFinite ∨ record.medianMicroseconds.ltZero)
    (.invalidLatency record.medianMicroseconds)
  Except.rejectIf (record.samples = 0#32) .zeroSamples

/-- The record as one of the core table, which has no environment and no shape. -/
def TuningRecord.performanceRecord (record : TuningRecord) : PerformanceRecord F64 where
  backend := record.key.backend
  operation := record.key.operation
  dataType := record.key.dataType
  medianMicroseconds := record.medianMicroseconds
  samples := record.samples

/-! ### The database -/

/-- The records, in the order in which their keys were first recorded. -/
structure AutotuneDatabase where
  schemaVersion : BitVec 32 := autotuneSchemaVersion
  records : List TuningRecord := []
deriving DecidableEq, Repr

namespace AutotuneDatabase

/-- Replace the record under the same key, or add one: the result, and the database that the call
leaves. -/
def record (database : AutotuneDatabase) (record : TuningRecord) :
    Except AutotuneError Unit × AutotuneDatabase :=
  match record.validate with
  | .error error => (.error error, database)
  | .ok () =>
    (.ok (), { database with records := List.upsert TuningRecord.key record database.records })

/-- The first record under a key. -/
def lookup (database : AutotuneDatabase) (key : TuningKey) : Option TuningRecord :=
  database.records.find? fun record => record.key = key

/-- The record is for this environment and shape. -/
def isFor (environment : EnvironmentFingerprint) (shape : WorkloadShape)
    (record : TuningRecord) : Bool :=
  record.key.environment == environment && record.key.shape == shape

/-- The table of the records for an environment and a shape. -/
def performanceTableFor (database : AutotuneDatabase) (environment : EnvironmentFingerprint)
    (shape : WorkloadShape) : Except AutotuneError (PerformanceTable F64) := do
  environment.validate
  shape.validate
  (database.records.filter (isFor environment shape)).foldlM
    (fun table record => do
      record.validate
      return table.record record.performanceRecord) { records := [] }

/-- What `load` and `save` both check. -/
def validate (database : AutotuneDatabase) : Except AutotuneError Unit := do
  Except.rejectIf (database.schemaVersion ≠ autotuneSchemaVersion)
    (.unsupportedSchema database.schemaVersion)
  database.records.forM TuningRecord.validate

/-- Load a database, where `content` is what reading the file gave and `fromSlice` is the JSON
parser. -/
def load {Bytes : Type} (fromSlice : Bytes → Except JsonError AutotuneDatabase)
    (content : Except IoError Bytes) : Except AutotuneError AutotuneDatabase := do
  let bytes ← content.mapError .io
  let database ← (fromSlice bytes).mapError .json
  database.validate
  return database

end AutotuneDatabase

end RiftGPU.Autotune
