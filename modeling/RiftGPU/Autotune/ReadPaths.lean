import RiftGPU.Autotune.Database

/-!
# The two read paths of the autotune database

A measured time is read from the database under its whole key, or from the table of an environment
and a shape under the rest of the key. The first path takes the first record of the key and the
second one the last. Recording keeps the keys distinct, so that the paths agree. Loading accepts
any list of valid records: it gives a database that recording could have made exactly when the file
holds one.

## Main definitions

* `Autotune.AutotuneDatabase.Maintained`: what recording maintains.
* `Autotune.AutotuneDatabase.ReadPathsAgree`: the two paths read the same times.
* `Autotune.AutotuneDatabase.Recorded`: the database is made by recording.

## Main results

* `Autotune.AutotuneDatabase.readPathsAgree_of_maintained`.
* `Autotune.AutotuneDatabase.recorded_iff`: recording makes the maintained valid databases.
* `Autotune.AutotuneDatabase.load_maintained_iff`: when a loaded database is maintained.
-/

namespace RiftGPU.Autotune

open Except
open Files (IoError)

/-! ### Validation -/

namespace AutotuneDatabase

variable {database : AutotuneDatabase} {records : List TuningRecord}

theorem validate_eq_ok_iff {u : Unit} :
    database.validate = .ok u ↔
      database.schemaVersion = autotuneSchemaVersion ∧
        ∀ record ∈ database.records, record.validate = .ok () := by
  rw [validate, rejectIf_bind_eq_ok_iff, not_ne_iff]
  exact and_congr_right fun _ => forM_eq_ok_iff

theorem load_eq_ok_iff {Bytes : Type} {fromSlice : Bytes → Except JsonError AutotuneDatabase}
    {content : Except IoError Bytes} :
    load fromSlice content = .ok database ↔
      ∃ bytes, content = .ok bytes ∧ fromSlice bytes = .ok database ∧
        database.validate = .ok () := by
  simp only [load, bind_eq_ok_iff, mapError_eq_ok_iff, pure_eq_ok_iff]
  constructor
  · rintro ⟨bytes, hbytes, parsed, hparsed, _, hvalid, rfl⟩
    exact ⟨bytes, hbytes, hparsed, hvalid⟩
  · rintro ⟨bytes, hbytes, hparsed, hvalid⟩
    exact ⟨bytes, hbytes, database, hparsed, (), hvalid, rfl⟩

/-! ### What recording maintains -/

/-- The keys are distinct and every backend name is one that `BackendId.new` makes. -/
structure Maintained (database : AutotuneDatabase) : Prop where
  keys : (database.records.map TuningRecord.key).Nodup
  backends : ∀ record ∈ database.records, ∃ value, BackendId.new value = .ok record.key.backend

/-- The database after the calls of `record` on a database, failing ones among them. -/
def recordAll (database : AutotuneDatabase) (calls : List TuningRecord) : AutotuneDatabase :=
  calls.foldl (fun database record => (database.record record).2) database

/-- The database is what recording the records one after the other in the empty database makes,
where the backend names are made by `BackendId.new`. -/
def Recorded (database : AutotuneDatabase) : Prop :=
  ∃ records : List TuningRecord,
    (∀ record ∈ records, ∃ value, BackendId.new value = .ok record.key.backend) ∧
      recordAll {} records = database

/-- A valid record is upserted. -/
theorem record_of_valid {record : TuningRecord} (h : record.validate = .ok ()) :
    database.record record = (.ok (), { database with
      records := List.upsert TuningRecord.key record database.records }) := by
  rw [AutotuneDatabase.record, h]

/-- An invalid record fails with its own error and changes nothing. -/
theorem record_of_error {record : TuningRecord} {error : AutotuneError}
    (h : record.validate = .error error) : database.record record = (.error error, database) := by
  rw [AutotuneDatabase.record, h]

/-- What every call preserves holds after the calls. -/
theorem recordAll_induction (P : AutotuneDatabase → Prop)
    (hstep : ∀ database record, record ∈ records → P database → record.validate = .ok () →
      P { database with records := List.upsert TuningRecord.key record database.records })
    (h : P database) : P (database.recordAll records) := by
  refine List.foldlRecOn records _ h fun state hstate record hmem => ?_
  cases hvalid : record.validate with
  | error error => rwa [record_of_error hvalid]
  | ok u =>
    rw [record_of_valid hvalid]
    exact hstep state record hmem hstate hvalid

theorem Maintained.upsert {record : TuningRecord} (hdb : database.Maintained)
    (hbackend : ∃ value, BackendId.new value = .ok record.key.backend) :
    Maintained { database with
      records := List.upsert TuningRecord.key record database.records } := by
  refine ⟨List.nodup_upsert hdb.keys, fun other hother => ?_⟩
  rcases List.eq_or_mem_of_mem_upsert hother with rfl | hmem
  · exact hbackend
  · exact hdb.backends other hmem

theorem validate_upsert {record : TuningRecord} (hdb : database.validate = .ok ())
    (hrecord : record.validate = .ok ()) :
    validate { database with
      records := List.upsert TuningRecord.key record database.records } = .ok () := by
  rw [validate_eq_ok_iff] at hdb ⊢
  refine ⟨hdb.1, fun other hother => ?_⟩
  rcases List.eq_or_mem_of_mem_upsert hother with rfl | hmem
  · exact hrecord
  · exact hdb.2 other hmem

/-- Recording the records of a database with distinct keys appends them. -/
theorem recordAll_eq_append (hvalid : ∀ record ∈ records, record.validate = .ok ())
    (hkeys : ((database.records ++ records).map TuningRecord.key).Nodup) :
    database.recordAll records = { database with records := database.records ++ records } := by
  induction records generalizing database with
  | nil => rw [List.append_nil]; rfl
  | cons first rest ih =>
    rw [List.forall_mem_cons] at hvalid
    have hnew : first.key ∉ database.records.map TuningRecord.key := by
      rw [List.map_append, List.nodup_append] at hkeys
      exact fun hmem => hkeys.2.2 _ hmem _ (by simp) rfl
    have hfirst : (database.record first).2 =
        { database with records := database.records ++ [first] } := by
      rw [record_of_valid hvalid.1, List.upsert_of_not_mem hnew]
    rw [recordAll, List.foldl_cons, hfirst, ← recordAll, ih hvalid.2 (by simpa using hkeys),
      List.append_assoc, List.singleton_append]

/-- Recording makes exactly the valid databases that are maintained. -/
theorem recorded_iff :
    database.Recorded ↔ database.validate = .ok () ∧ database.Maintained := by
  constructor
  · rintro ⟨records, hbackends, hrun⟩
    rw [← hrun]
    refine recordAll_induction (fun state => state.validate = .ok () ∧ state.Maintained)
      (fun state record hmem hstate hvalid => ?_) ⟨rfl, ⟨List.nodup_nil, nofun⟩⟩
    exact ⟨validate_upsert hstate.1 hvalid, hstate.2.upsert (hbackends record hmem)⟩
  · rintro ⟨hvalid, hdb⟩
    rw [validate_eq_ok_iff] at hvalid
    refine ⟨database.records, hdb.backends, ?_⟩
    rw [recordAll_eq_append hvalid.2 (by simpa using hdb.keys), ← hvalid.1, List.nil_append]

/-! ### Reading -/

/-- For every valid environment and shape, the table and the lookup give the same times. -/
def ReadPathsAgree (database : AutotuneDatabase) : Prop :=
  ∀ environment shape, environment.validate = .ok () → shape.validate = .ok () →
    ∀ backend operation dataType, ∃ table,
      database.performanceTableFor environment shape = .ok table ∧
        table.medianUs backend operation dataType =
          (database.lookup ⟨environment, backend, operation, dataType, shape⟩).map
            TuningRecord.medianMicroseconds

section Table

variable {environment : EnvironmentFingerprint} {shape : WorkloadShape}

/-- A record has a key exactly when it is for the environment and the shape of the key and its
projection is for the rest of the key. -/
theorem key_eq_iff {record : TuningRecord} {backend : BackendId} {operation : OperationKind}
    {dataType : DataType} :
    record.key = ⟨environment, backend, operation, dataType, shape⟩ ↔
      isFor environment shape record ∧
        record.performanceRecord.isFor backend operation dataType := by
  obtain ⟨⟨environment', backend', operation', dataType', shape'⟩, median, samples⟩ := record
  simp only [isFor, PerformanceRecord.isFor, TuningRecord.performanceRecord, TuningKey.mk.injEq,
    Bool.and_eq_true, beq_iff_eq]
  tauto

/-- The keys of the projections of the records for an environment and a shape are distinct. -/
theorem nodup_performanceRecord_key (hkeys : (records.map TuningRecord.key).Nodup) :
    (((records.filter (isFor environment shape)).map TuningRecord.performanceRecord).map
      PerformanceRecord.key).Nodup := by
  rw [List.map_map]
  refine List.Nodup.map_on (fun left hleft right hright heq => ?_) (hkeys.of_map.filter _)
  rw [List.mem_filter] at hleft hright
  refine List.inj_on_of_nodup_map hkeys hleft.1 hright.1 ?_
  simp only [Function.comp_apply, PerformanceRecord.key, TuningRecord.performanceRecord,
    Prod.mk.injEq] at heq
  have hl := key_eq_iff.2 ⟨hleft.2, by simp [PerformanceRecord.isFor]; exact ⟨⟨rfl, rfl⟩, rfl⟩⟩
  rw [hl]
  exact (key_eq_iff.2 ⟨hright.2, by
    simp [PerformanceRecord.isFor, TuningRecord.performanceRecord, heq]⟩).symm

theorem foldlM_performanceRecord (hvalid : ∀ record ∈ records, record.validate = .ok ())
    (table : PerformanceTable F64) :
    records.foldlM (fun table record => do
        record.validate
        return table.record record.performanceRecord) table =
      (.ok ⟨(records.map TuningRecord.performanceRecord).foldl
          (fun table record => List.upsert PerformanceRecord.key record table) table.records⟩ :
        Except AutotuneError (PerformanceTable F64)) := by
  induction records generalizing table with
  | nil => rfl
  | cons first rest ih =>
    rw [List.forall_mem_cons] at hvalid
    rw [List.foldlM_cons, hvalid.1]
    exact ih hvalid.2 _

/-- The table of a valid database with distinct keys is its projection. -/
theorem performanceTableFor_eq (hvalid : database.validate = .ok ())
    (hkeys : (database.records.map TuningRecord.key).Nodup)
    (henvironment : environment.validate = .ok ()) (hshape : shape.validate = .ok ()) :
    database.performanceTableFor environment shape =
      .ok ⟨(database.records.filter (isFor environment shape)).map
        TuningRecord.performanceRecord⟩ := by
  have hrecords : ∀ record ∈ database.records.filter (isFor environment shape),
      record.validate = .ok () := fun record hmem =>
    (validate_eq_ok_iff.1 hvalid).2 record (List.mem_filter.1 hmem).1
  rw [performanceTableFor, henvironment, ok_bind, hshape, ok_bind,
    foldlM_performanceRecord hrecords, List.foldl_upsert_of_nodup, List.nil_append]
  exact nodup_performanceRecord_key hkeys

/-- The times of the projection of a database are those that a lookup finds. -/
theorem medianUs_projection (database : AutotuneDatabase) (backend : BackendId)
    (operation : OperationKind) (dataType : DataType) :
    PerformanceTable.medianUs ⟨(database.records.filter (isFor environment shape)).map
      TuningRecord.performanceRecord⟩ backend operation dataType =
      (database.lookup ⟨environment, backend, operation, dataType, shape⟩).map
        TuningRecord.medianMicroseconds := by
  have hfind : (database.records.find? fun record =>
      decide (isFor environment shape record ∧
        record.performanceRecord.isFor backend operation dataType)) =
      database.lookup ⟨environment, backend, operation, dataType, shape⟩ :=
    congrArg (database.records.find? ·)
      (funext fun record => decide_eq_decide.2 key_eq_iff.symm)
  rw [← hfind, PerformanceTable.medianUs, List.find?_map, List.find?_filter, Option.map_map]
  rfl

end Table

/-- In a valid database that is maintained the two read paths agree. -/
theorem readPathsAgree_of_maintained (hvalid : database.validate = .ok ())
    (hdb : database.Maintained) : database.ReadPathsAgree := by
  intro environment shape henvironment hshape backend operation dataType
  exact ⟨_, performanceTableFor_eq hvalid hdb.keys henvironment hshape,
    medianUs_projection database backend operation dataType⟩

/-- Every database that loads from a file is maintained and has agreeing read paths, if and only if
what the file holds is rejected by the validation or made by recording. -/
theorem load_maintained_iff {Bytes : Type} (fromSlice : Bytes → Except JsonError AutotuneDatabase)
    (content : Except IoError Bytes) :
    (∀ database, load fromSlice content = .ok database →
        database.Maintained ∧ database.ReadPathsAgree) ↔
      ∀ bytes parsed, content = .ok bytes → fromSlice bytes = .ok parsed →
        parsed.validate = .ok () → parsed.Recorded := by
  constructor
  · intro h bytes parsed hbytes hparsed hvalid
    have hdb := h parsed (load_eq_ok_iff.2 ⟨bytes, hbytes, hparsed, hvalid⟩)
    exact recorded_iff.2 ⟨hvalid, hdb.1⟩
  · intro h database hload
    obtain ⟨bytes, hbytes, hparsed, hvalid⟩ := load_eq_ok_iff.1 hload
    have hdb := (recorded_iff.1 (h bytes database hbytes hparsed hvalid)).2
    exact ⟨hdb, readPathsAgree_of_maintained hvalid hdb⟩

/-! ### A file with one key twice -/

/-- A workload of one dimension on an otherwise unspecified machine. -/
def sampleKey : TuningKey where
  environment := ⟨"gfx1030", "driver", "runtime", "plugin"⟩
  backend := ⟨"hip"⟩
  operation := .gemm
  dataType := .f32
  shape := ⟨[128#64], 16#32⟩

/-- Two records under one key, with the times 1.0 and 2.0. -/
def repeatedKey : AutotuneDatabase where
  records := [⟨sampleKey, 0x3ff0000000000000#64, 25#32⟩, ⟨sampleKey, 0x4000000000000000#64, 25#32⟩]

/-- The file loads, the lookup reads 1.0 and the table 2.0. -/
theorem load_repeatedKey :
    load (fun _ : Unit => .ok repeatedKey) (.ok ()) = .ok repeatedKey ∧
      ¬repeatedKey.Maintained ∧ ¬repeatedKey.ReadPathsAgree := by
  refine ⟨by decide +kernel, fun hdb => absurd hdb.keys (by decide), fun hagree => ?_⟩
  obtain ⟨table, htable, hmedian⟩ := hagree sampleKey.environment sampleKey.shape
    (by decide +kernel) (by decide +kernel) sampleKey.backend sampleKey.operation sampleKey.dataType
  have hvalue : (repeatedKey.performanceTableFor sampleKey.environment sampleKey.shape).map
      (fun table => table.medianUs sampleKey.backend sampleKey.operation sampleKey.dataType) =
        .ok (some 0x4000000000000000#64) := by decide +kernel
  rw [htable, Except.map, hmedian] at hvalue
  exact absurd hvalue (by decide +kernel)

end AutotuneDatabase

end RiftGPU.Autotune
