import Mathlib.Data.List.Basic
import Mathlib.Logic.Function.Basic

/-!
# Paths and a disk that may fail

A path is the list of its components and a disk maps paths to contents. Every operation on the disk
takes the fault that it meets, if any: a failed operation changes nothing, except that a failed
write may leave anything in the file that it writes.

## Main definitions

* `Files.Path`, with `parent`, `fileName` and `withFileName`.
* `Files.Disk`, and the operations `createDirAll`, `write`, `rename`, `pathExists`, `removeFile`.

## Main results

* `Files.Path.withFileName_ne`: another name is another path.
* `Files.run_rename_of_some`, `Files.run_removeFile_of_some`: what the operations do without
  faults.
-/

namespace Files

/-- The ways in which an operation can fail. -/
inductive IoError where
  | notFound
  | other (message : String)
deriving DecidableEq, Repr

/-! ### Paths -/

/-- A part of a path. -/
inductive Component where
  | drive (name : String)
  | rootDir
  | curDir
  | parentDir
  | normal (name : String)
deriving DecidableEq, Repr

/-- The components of a path, from the root on. -/
abbrev Path := List Component

namespace Path

/-- The path without its last component, unless it ends in a root or a drive. -/
def parent (path : Path) : Option Path :=
  match path.getLast? with
  | some (.normal _) | some .curDir | some .parentDir => some path.dropLast
  | _ => none

/-- The last component, when it is a name. -/
def fileName (path : Path) : Option String :=
  match path.getLast? with
  | some (.normal name) => some name
  | _ => none

/-- The path with the name as its last component, in place of the name it ends in. -/
def withFileName (path : Path) (name : String) : Path :=
  match path.fileName with
  | some _ => path.dropLast ++ [.normal name]
  | none => path ++ [.normal name]

theorem fileName_eq_some_iff {path : Path} {name : String} :
    path.fileName = some name ↔ path.getLast? = some (.normal name) := by
  rw [fileName]
  split
  · next other h => rw [h, Option.some.injEq, Option.some.injEq, Component.normal.injEq]
  · next h => exact ⟨nofun, fun hlast => (h name hlast).elim⟩

theorem fileName_withFileName (path : Path) (name : String) :
    (path.withFileName name).fileName = some name := by
  rw [fileName_eq_some_iff, withFileName]
  split <;> exact List.getLast?_concat

/-- Another name is another path. -/
theorem withFileName_ne {path : Path} {name : String} (h : path.fileName ≠ some name) :
    path.withFileName name ≠ path := by
  intro heq
  exact h (heq ▸ fileName_withFileName path name)

end Path

/-! ### Operations -/

/-- The contents of the files. -/
abbrev Disk (Bytes : Type) := Path → Option Bytes

/-- Programs that change the disk, also when they fail. -/
abbrev DiskM (Bytes α : Type) := EStateM IoError (Disk Bytes) α

section Steps

variable {ε σ α β : Type} {x : EStateM ε σ α} {f : α → EStateM ε σ β} {s s' : σ}

/-- A computation goes on after a step that succeeds. -/
theorem run_bind_of_ok {a : α} (h : x.run s = .ok a s') : (x >>= f).run s = (f a).run s' := by
  rw [EStateM.run_bind, h]

/-- A computation ends with a step that fails. -/
theorem run_bind_of_error {e : ε} (h : x.run s = .error e s') :
    (x >>= f).run s = .error e s' := by
  rw [EStateM.run_bind, h]

theorem run_ofExcept_ok_bind {a : α} :
    ((MonadExcept.ofExcept (.ok a : Except ε α) : EStateM ε σ α) >>= f).run s = (f a).run s := rfl

theorem run_ofExcept_error_bind {e : ε} :
    ((MonadExcept.ofExcept (.error e : Except ε α) : EStateM ε σ α) >>= f).run s = .error e s :=
  rfl

end Steps

section Operations

variable {Bytes : Type}

/-- Create a directory and the ones above it. Directories have no contents. -/
def createDirAll (_path : Path) (fault : Option IoError) : DiskM Bytes Unit := fun disk =>
  match fault with
  | none => .ok () disk
  | some error => .error error disk

/-- Replace the contents of a file. The fault of a write comes with what it leaves there. -/
def write (path : Path) (bytes : Bytes) (fault : Option (IoError × Option Bytes)) :
    DiskM Bytes Unit := fun disk =>
  match fault with
  | none => .ok () (Function.update disk path (some bytes))
  | some (error, left) => .error error (Function.update disk path left)

/-- Move a file, over the one that is there. -/
def rename (source target : Path) (fault : Option IoError) : DiskM Bytes Unit := fun disk =>
  match fault, disk source with
  | none, some bytes =>
    .ok () (Function.update (Function.update disk source none) target (some bytes))
  | none, none => .error .notFound disk
  | some error, _ => .error error disk

/-- Whether a file is there. A fault is read as its absence. -/
def pathExists (path : Path) (fault : Option IoError) : DiskM Bytes Bool := fun disk =>
  .ok (fault.isNone && (disk path).isSome) disk

/-- Delete a file, which must exist. -/
def removeFile (path : Path) (fault : Option IoError) : DiskM Bytes Unit := fun disk =>
  match fault, disk path with
  | none, some _ => .ok () (Function.update disk path none)
  | none, none => .error .notFound disk
  | some error, _ => .error error disk

variable {path source target : Path} {bytes : Bytes} {disk : Disk Bytes} {fault : Option IoError}

/-- A move that meets no fault leaves the contents of the source under the target. -/
theorem run_rename_of_some (h : disk source = some bytes) :
    (rename source target none).run disk =
      .ok () (Function.update (Function.update disk source none) target (some bytes)) := by
  simp only [EStateM.run, rename, h]

theorem run_removeFile_of_some (h : disk path = some bytes) :
    (removeFile path none).run disk = .ok () (Function.update disk path none) := by
  simp only [EStateM.run, removeFile, h]

/-- Ignoring the outcome of a removal leaves the other files as they are. -/
theorem run_tryCatch_removeFile (source : Path) (fault : Option IoError) (disk : Disk Bytes) :
    ∃ disk', ((removeFile source fault).tryCatch fun _ => pure ()).run disk = .ok () disk' ∧
      ∀ other, other ≠ source → disk' other = disk other := by
  rcases hfault : fault with _ | error
  · rcases hsource : disk source with _ | bytes
    · refine ⟨disk, ?_, fun _ _ => rfl⟩
      simp only [EStateM.run, EStateM.tryCatch, removeFile, hsource]
      rfl
    · refine ⟨Function.update disk source none, ?_, fun other hother =>
        Function.update_of_ne hother _ _⟩
      simp only [EStateM.run, EStateM.tryCatch, removeFile, hsource]
  · exact ⟨disk, rfl, fun _ _ => rfl⟩

end Operations

end Files
