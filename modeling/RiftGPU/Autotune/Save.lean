import RiftGPU.Autotune.Database

/-!
# Saving the autotune database

A database is saved by writing it to a temporary file next to the target and moving this file over
the target. When the move fails although the target is there, the target is removed and the move
is tried again. The saved database is there after a save that succeeds, and the previous one after
a save that fails, unless the second move fails as well.

## Main definitions

* `Autotune.temporaryPath`, `Autotune.AutotuneDatabase.save`.
* `Autotune.KeepsOrReplaces`: an error left the target as it was, a success replaced it.
* `Autotune.LosesTarget`: the faults after which the target is gone.

## Main results

* `Autotune.AutotuneDatabase.save_keepsOrReplaces_iff`: when a save keeps or replaces the target.
-/

namespace RiftGPU.Autotune

open Files

variable {Bytes : Type}

/-- The path of the temporary file of a process. -/
def temporaryPath (pid : BitVec 32) (path : Path) : Path :=
  path.withFileName
    (path.fileName.getD "vrb-autotune.json" ++ "." ++ toString pid.toNat ++ ".tmp")

/-- The faults that the calls of a save meet. -/
structure SaveFaults (Bytes : Type) where
  createDirAll : Option IoError := none
  write : Option (IoError × Option Bytes) := none
  rename : Option IoError := none
  pathExists : Option IoError := none
  removeFile : Option IoError := none
  renameAgain : Option IoError := none
  removeTemporary : Option IoError := none

/-- Programs that change the disk and fail with an error of the crate. -/
abbrev SaveM (Bytes α : Type) := EStateM AutotuneError (Disk Bytes) α

/-- Create the directory of the target, unless the path is only a name, a root or a drive. -/
def createParent (path : Path) (faults : SaveFaults Bytes) : SaveM Bytes Unit :=
  match path.parent with
  | some parent =>
    if parent ≠ [] then (createDirAll parent faults.createDirAll).adaptExcept .io else pure ()
  | none => pure ()

/-- Move the temporary file over the target. -/
def replace (temporary path : Path) (faults : SaveFaults Bytes) : SaveM Bytes Unit :=
  ((rename temporary path faults.rename).adaptExcept .io).tryCatch fun firstError => do
    if ← (pathExists path faults.pathExists).adaptExcept .io then
      (removeFile path faults.removeFile).adaptExcept .io
      (rename temporary path faults.renameAgain).adaptExcept .io
    else
      ((removeFile temporary faults.removeTemporary).tryCatch fun _ => pure ()).adaptExcept .io
      throw firstError

/-- Save a database, where `toVecPretty` is the JSON writer. -/
def AutotuneDatabase.save (toVecPretty : AutotuneDatabase → Except JsonError Bytes)
    (pid : BitVec 32) (database : AutotuneDatabase) (path : Path) (faults : SaveFaults Bytes) :
    SaveM Bytes Unit := do
  MonadExcept.ofExcept database.validate
  createParent path faults
  let bytes ← MonadExcept.ofExcept ((toVecPretty database).mapError AutotuneError.json)
  let temporary := temporaryPath pid path
  (write temporary bytes faults.write).adaptExcept .io
  replace temporary path faults

/-! ### What a save leaves under the target -/

/-- After an error the target is as it was, and after a success it holds the bytes. -/
def KeepsOrReplaces (path : Path) (serialized : Except JsonError Bytes) (disk : Disk Bytes) :
    EStateM.Result AutotuneError (Disk Bytes) Unit → Prop
  | .ok _ disk' => ∃ bytes, serialized = .ok bytes ∧ disk' path = some bytes
  | .error _ disk' => disk' path = disk path

/-- The faults with which a replacement removes the target for nothing: the first move fails
although the target is there, the removal of the target succeeds and the second move fails. -/
structure LosesTarget (path : Path) (faults : SaveFaults Bytes) (disk : Disk Bytes) : Prop where
  rename : faults.rename ≠ none
  present : disk path ≠ none
  pathExists : faults.pathExists = none
  removeFile : faults.removeFile = none
  renameAgain : faults.renameAgain ≠ none

theorem keepsOrReplaces_congr {path : Path} {serialized : Except JsonError Bytes}
    {disk disk' : Disk Bytes} {result : EStateM.Result AutotuneError (Disk Bytes) Unit}
    (h : disk path = disk' path) :
    KeepsOrReplaces path serialized disk result ↔ KeepsOrReplaces path serialized disk' result := by
  cases result with
  | ok u final => exact Iff.rfl
  | error e final => rw [KeepsOrReplaces, KeepsOrReplaces, h]

theorem losesTarget_congr {path : Path} {faults : SaveFaults Bytes} {disk disk' : Disk Bytes}
    (h : disk path = disk' path) : LosesTarget path faults disk ↔ LosesTarget path faults disk' :=
  ⟨fun hloses => { hloses with present := h ▸ hloses.present },
    fun hloses => { hloses with present := h ▸ hloses.present }⟩

/-- The calls before the replacement meet no fault. -/
structure ComesToReplace (toVecPretty : AutotuneDatabase → Except JsonError Bytes)
    (database : AutotuneDatabase) (path : Path) (faults : SaveFaults Bytes) : Prop where
  valid : database.validate = .ok ()
  createDirAll : path.parent.getD [] ≠ [] → faults.createDirAll = none
  serialized : ∃ bytes, toVecPretty database = .ok bytes
  write : faults.write = none

theorem temporaryPath_ne (pid : BitVec 32) (path : Path) : temporaryPath pid path ≠ path := by
  refine Path.withFileName_ne fun h => ?_
  have hlength := congrArg String.length (congrArg (Option.getD · "vrb-autotune.json") h)
  simp only [Option.getD_some, String.length_append] at hlength
  have htmp : ".tmp".length = 4 := rfl
  omega

section Replace

variable {temporary path : Path} (faults : SaveFaults Bytes) {disk : Disk Bytes} {bytes : Bytes}

theorem run_replace_of_renamed (htemporary : disk temporary = some bytes)
    (hrename : faults.rename = none) :
    (replace temporary path faults).run disk =
      .ok () (Function.update (Function.update disk temporary none) path (some bytes)) := by
  have hmoved : (rename temporary path none).run disk =
      .ok () (Function.update (Function.update disk temporary none) path (some bytes)) :=
    run_rename_of_some htemporary
  rw [EStateM.run] at hmoved
  simp only [replace, EStateM.run, EStateM.tryCatch, EStateM.adaptExcept, hrename, hmoved]

/-- After a failed move the target is removed and the move tried again if the target is seen, and
otherwise the temporary file is removed. -/
theorem run_replace_of_fault {error : IoError} (hrename : faults.rename = some error) :
    (replace temporary path faults).run disk =
      (if (faults.pathExists.isNone && (disk path).isSome) = true then do
        (removeFile path faults.removeFile).adaptExcept .io
        (rename temporary path faults.renameAgain).adaptExcept .io
      else do
        ((removeFile temporary faults.removeTemporary).tryCatch fun _ => pure ()).adaptExcept .io
        throw (.io error) : SaveM Bytes Unit).run disk := by
  rw [replace, hrename]
  rfl

/-- A replacement keeps or replaces the target unless it removes it for nothing. -/
theorem replace_keepsOrReplaces_iff (htemporary : disk temporary = some bytes)
    (hne : temporary ≠ path) :
    KeepsOrReplaces path (.ok bytes) disk ((replace temporary path faults).run disk) ↔
      ¬LosesTarget path faults disk := by
  rcases hrename : faults.rename with _ | error
  · rw [run_replace_of_renamed faults htemporary hrename]
    exact iff_of_true ⟨bytes, rfl, Function.update_self ..⟩ fun hloses => hloses.rename hrename
  rw [run_replace_of_fault faults hrename]
  split_ifs with hseen
  · rw [Bool.and_eq_true, Option.isNone_iff_eq_none] at hseen
    obtain ⟨previous, hpresent⟩ := Option.isSome_iff_exists.1 hseen.2
    rcases hremove : faults.removeFile with _ | removeError
    · have hmoved : Function.update disk path none temporary = some bytes := by
        rw [Function.update_of_ne hne, htemporary]
      rcases hagain : faults.renameAgain with _ | againError
      · -- The second move finds the temporary file and succeeds.
        refine iff_of_true ?_ fun hloses => hloses.renameAgain hagain
        simp only [EStateM.run_bind, EStateM.run_adaptExcept, run_removeFile_of_some hpresent,
          run_rename_of_some hmoved]
        exact ⟨bytes, rfl, Function.update_self ..⟩
      · refine iff_of_false (fun hkeeps => ?_) (not_not_intro
          ⟨hrename ▸ nofun, hpresent ▸ nofun, hseen.1, hremove, hagain ▸ nofun⟩)
        simp only [EStateM.run_bind, EStateM.run_adaptExcept, run_removeFile_of_some hpresent]
          at hkeeps
        have hgone : Function.update disk path none path = disk path := hkeeps
        rw [Function.update_self, hpresent] at hgone
        cases hgone
    · exact iff_of_true rfl fun hloses => nomatch hremove ▸ hloses.removeFile
  · obtain ⟨disk', hremoved, hother⟩ :=
      run_tryCatch_removeFile temporary faults.removeTemporary disk
    refine iff_of_true ?_ fun hloses => hseen ?_
    · simp only [EStateM.run_bind, EStateM.run_adaptExcept, hremoved]
      exact hother path hne.symm
    · rw [hloses.pathExists, Option.isNone_none, Bool.true_and, Option.isSome_iff_ne_none]
      exact hloses.present

end Replace

/-- Creating the directory of the target leaves the files as they are. -/
theorem run_createParent (path : Path) (faults : SaveFaults Bytes) (disk : Disk Bytes) :
    ((createParent path faults).run disk = .ok () disk ∧
        (path.parent.getD [] ≠ [] → faults.createDirAll = none)) ∨
      ∃ error, (createParent path faults).run disk = .error error disk ∧
        path.parent.getD [] ≠ [] ∧ faults.createDirAll ≠ none := by
  rcases hparent : path.parent with _ | parent
  · exact .inl ⟨by simp only [createParent, hparent]; rfl, fun h => (h rfl).elim⟩
  · by_cases hempty : parent = []
    · refine .inl ⟨?_, fun h => (h hempty).elim⟩
      simp only [createParent, hparent, if_neg (not_not_intro hempty)]
      rfl
    · rcases hfault : faults.createDirAll with _ | error
      · refine .inl ⟨?_, fun _ => rfl⟩
        simp only [createParent, hparent, if_pos hempty, hfault]
        rfl
      · refine .inr ⟨.io error, ?_, hempty, nofun⟩
        simp only [createParent, hparent, if_pos hempty, hfault]
        rfl

namespace AutotuneDatabase

/-- A save keeps or replaces the target unless it comes to a replacement that loses it. -/
theorem save_keepsOrReplaces_iff (toVecPretty : AutotuneDatabase → Except JsonError Bytes)
    (pid : BitVec 32) (database : AutotuneDatabase) (path : Path) (faults : SaveFaults Bytes)
    (disk : Disk Bytes) :
    KeepsOrReplaces path (toVecPretty database) disk
        ((database.save toVecPretty pid path faults).run disk) ↔
      ¬(ComesToReplace toVecPretty database path faults ∧ LosesTarget path faults disk) := by
  rw [save]
  rcases hvalid : database.validate with error | u
  · rw [run_ofExcept_error_bind]
    exact iff_of_true rfl fun h => nomatch hvalid ▸ h.1.valid
  rw [run_ofExcept_ok_bind]
  rcases run_createParent path faults disk with ⟨hparent, hcreated⟩ | ⟨error, hparent, hne, hfault⟩
  swap
  · rw [run_bind_of_error hparent]
    exact iff_of_true rfl fun h => hfault (h.1.createDirAll hne)
  rw [run_bind_of_ok hparent]
  rcases hserialized : toVecPretty database with error | bytes
  · rw [Except.mapError, run_ofExcept_error_bind]
    refine iff_of_true rfl fun h => ?_
    obtain ⟨bytes, hbytes⟩ := h.1.serialized
    exact nomatch hserialized ▸ hbytes
  rw [Except.mapError, run_ofExcept_ok_bind]
  have hne := temporaryPath_ne pid path
  rcases hwrite : faults.write with _ | ⟨error, left⟩
  swap
  · refine iff_of_true ?_ fun h => nomatch hwrite ▸ h.1.write
    exact Function.update_of_ne hne.symm left disk
  have hpath : Function.update disk (temporaryPath pid path) (some bytes) path = disk path :=
    Function.update_of_ne hne.symm _ _
  have hreplace := replace_keepsOrReplaces_iff faults
    (Function.update_self (temporaryPath pid path) (some bytes) disk) hne
  rw [keepsOrReplaces_congr hpath, losesTarget_congr hpath] at hreplace
  refine hreplace.trans (not_congr ⟨fun hloses => ⟨⟨hvalid, hcreated, ⟨bytes, hserialized⟩, hwrite⟩,
    hloses⟩, And.right⟩)

/-! ### A save that loses the previous database -/

/-- Both moves fail and every other call succeeds. -/
def lockedTemporary : SaveFaults String where
  rename := some (.other "the temporary file is in use")
  renameAgain := some (.other "the temporary file is in use")

/-- A disk with one file. -/
def previousDisk : Disk String :=
  Function.update (fun _ => none) [.normal "autotune.json"] (some "previous")

/-- The save fails and the previous database is gone. -/
theorem save_loses_target :
    ¬KeepsOrReplaces [.normal "autotune.json"] (.ok "new") previousDisk
      (EStateM.run (save (fun _ => .ok "new") 1#32 {} [.normal "autotune.json"] lockedTemporary)
        previousDisk) := by
  intro hkeeps
  have hlost : (none : Option String) = some "previous" := hkeeps
  cases hlost

end AutotuneDatabase

end RiftGPU.Autotune
