import RiftGPU.Autotune.ReadPaths

/-!
# Histories of the autotune database

A history is a list of calls of `record`, some of which fail. The database after a history is a map
in which the last successful write under a key wins, and the table of an environment and a shape
reads this map.

## Main definitions

* `Autotune.AutotuneDatabase.afterCalls`: the database after a history.
* `Autotune.lastRecorded`: the last successful record of a history under a key.

## Main results

* `Autotune.AutotuneDatabase.lookup_afterCalls`: lookups find the last successful record.
* `Autotune.AutotuneDatabase.filter_afterCalls`: environments and shapes do not influence each
  other.
* `Autotune.AutotuneDatabase.afterCalls_lastWriteWins`: the database after a history.
-/

namespace RiftGPU.Autotune

/-- The last record of a history under a key, among those that are valid. -/
def lastRecorded (calls : List TuningRecord) (key : TuningKey) : Option TuningRecord :=
  (calls.filter fun record => decide (record.validate = .ok () ∧ record.key = key)).getLast?

theorem lastRecorded_append (calls : List TuningRecord) (record : TuningRecord)
    (key : TuningKey) : lastRecorded (calls ++ [record]) key =
      if record.validate = .ok () ∧ record.key = key then some record
      else lastRecorded calls key := by
  rw [lastRecorded, List.filter_append, List.filter_singleton]
  split_ifs with h
  · rw [decide_eq_true h, cond_true, List.getLast?_concat]
  · rw [decide_eq_false h, cond_false, List.append_nil]
    rfl

namespace AutotuneDatabase

/-- The database after the calls of `record` on the default database. -/
def afterCalls (calls : List TuningRecord) : AutotuneDatabase := recordAll {} calls

variable {database : AutotuneDatabase} {calls : List TuningRecord} {record : TuningRecord}

/-! ### One call -/

/-- A call fails when the record is invalid. -/
theorem record_fst : (database.record record).1 = record.validate := by
  cases h : record.validate with
  | error error => rw [record_of_error h]
  | ok _ => rw [record_of_valid h]

theorem afterCalls_append :
    afterCalls (calls ++ [record]) = ((afterCalls calls).record record).2 :=
  List.foldl_concat ..

/-! ### After a history -/

/-- The keys are distinct after a history. -/
theorem nodup_afterCalls (calls : List TuningRecord) :
    ((afterCalls calls).records.map TuningRecord.key).Nodup :=
  recordAll_induction (fun database => (database.records.map TuningRecord.key).Nodup)
    (fun _ _ _ hdb _ => List.nodup_upsert hdb) List.nodup_nil

/-- The database passes its own validation after a history. -/
theorem validate_afterCalls (calls : List TuningRecord) :
    (afterCalls calls).validate = .ok () :=
  recordAll_induction (fun database => database.validate = .ok ())
    (fun _ _ _ hdb hrecord => validate_upsert hdb hrecord) rfl

/-- **Lookups after a history** find the last successful record under the key. -/
theorem lookup_afterCalls (calls : List TuningRecord) (key : TuningKey) :
    (afterCalls calls).lookup key = lastRecorded calls key := by
  induction calls using List.reverseRecOn with
  | nil => rfl
  | append_singleton calls record ih =>
    rw [afterCalls_append, lastRecorded_append, ← ih]
    cases h : record.validate with
    | error error => rw [record_of_error h, if_neg (by simp)]
    | ok _ =>
      rw [record_of_valid h, lookup, List.find?_upsert]
      by_cases hkey : record.key = key
      · rw [if_pos hkey, if_pos ⟨rfl, hkey⟩]
      · rw [if_neg hkey, if_neg (fun hand => hkey hand.2)]
        rfl

/-- **Environments and shapes do not influence each other**: the records for one of them are those
of the history restricted to it. -/
theorem filter_afterCalls (calls : List TuningRecord) (environment : EnvironmentFingerprint)
    (shape : WorkloadShape) :
    (afterCalls calls).records.filter (isFor environment shape) =
      (afterCalls (calls.filter (isFor environment shape))).records := by
  induction calls using List.reverseRecOn with
  | nil => rfl
  | append_singleton calls record ih =>
    have hkey : ∀ other : TuningRecord, other.key = record.key →
        isFor environment shape other = isFor environment shape record := by
      intro other hother
      rw [isFor, isFor, hother]
    rw [afterCalls_append, List.filter_append, List.filter_singleton]
    cases h : record.validate with
    | error error =>
      rw [record_of_error h, ih]
      cases isFor environment shape record with
      | false => rw [cond_false, List.append_nil]
      | true => rw [cond_true, afterCalls_append, record_of_error h]
    | ok _ =>
      rw [record_of_valid h, List.filter_upsert hkey, ih]
      cases isFor environment shape record with
      | false =>
        rw [if_neg Bool.false_ne_true, cond_false, List.append_nil]
      | true =>
        rw [if_pos rfl, cond_true, afterCalls_append, record_of_valid h]

/-- **The last write wins.** After every history of calls, failing ones among them: the next call
that fails changes nothing; the keys are distinct; a lookup finds the last successful record under
its key; and the table of a valid environment and shape has the times that lookups find, and is
the table of the calls for that environment and shape alone. -/
theorem afterCalls_lastWriteWins (calls : List TuningRecord) :
    (∀ record, ((afterCalls calls).record record).1 = record.validate ∧
      (((afterCalls calls).record record).1 ≠ .ok () →
        ((afterCalls calls).record record).2 = afterCalls calls)) ∧
    ((afterCalls calls).records.map TuningRecord.key).Nodup ∧
    (∀ key, (afterCalls calls).lookup key = lastRecorded calls key) ∧
    ∀ environment shape, environment.validate = .ok () → shape.validate = .ok () →
      ∃ table, (afterCalls calls).performanceTableFor environment shape = .ok table ∧
        (∀ backend operation dataType, table.medianUs backend operation dataType =
          ((afterCalls calls).lookup ⟨environment, backend, operation, dataType, shape⟩).map
            TuningRecord.medianMicroseconds) ∧
        (afterCalls (calls.filter (isFor environment shape))).performanceTableFor environment
          shape = .ok table := by
  refine ⟨fun record => ⟨record_fst, fun hfailed => ?_⟩, nodup_afterCalls calls,
    lookup_afterCalls calls, fun environment shape henvironment hshape => ?_⟩
  · cases h : record.validate with
    | error error => rw [record_of_error h]
    | ok _ => exact absurd (record_fst.trans h) hfailed
  · refine ⟨_, performanceTableFor_eq (validate_afterCalls calls) (nodup_afterCalls calls)
      henvironment hshape, medianUs_projection (afterCalls calls), ?_⟩
    rw [performanceTableFor_eq (validate_afterCalls _) (nodup_afterCalls _) henvironment hshape,
      filter_afterCalls, filter_afterCalls, List.filter_filter]
    simp only [Bool.and_self]

/-- Two valid records under one key and then one without samples. -/
def sampleCalls : List TuningRecord :=
  repeatedKey.records ++ [⟨sampleKey, 0x3fe0000000000000#64, 0#32⟩]

/-- The second record is read on both paths. -/
theorem afterCalls_lastWriteWins_sample :
    ∃ table,
      (afterCalls sampleCalls).performanceTableFor sampleKey.environment sampleKey.shape =
        .ok table ∧
      table.medianUs sampleKey.backend sampleKey.operation sampleKey.dataType =
        some 0x4000000000000000#64 := by
  obtain ⟨-, -, hlookup, htables⟩ := afterCalls_lastWriteWins sampleCalls
  obtain ⟨table, htable, hmedian, -⟩ := htables sampleKey.environment sampleKey.shape
    (by decide +kernel) (by decide +kernel)
  refine ⟨table, htable, ?_⟩
  rw [hmedian, hlookup]
  decide +kernel

end AutotuneDatabase

end RiftGPU.Autotune
