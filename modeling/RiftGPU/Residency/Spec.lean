import Mathlib.Data.List.MinMax
import RiftGPU.Text.Trim
import RiftGPU.Word.Outcome

/-!
# Residency keys and specifications

A durable GPU resource is named by a non-empty trimmed key and described by a specification.
This file models the data types of `vrb-residency` and the checks on them.

## Main definitions

* `Residency.ResidencyKey`: a key, ordered as its text is.
* `Residency.ResidencySpec`, `Residency.ResidencySpec.validate`.
* `Residency.ResidentAllocation`: types of allocations, each with a fixed specification.

## Main results

* `Residency.ResidencyKey.new_eq_ok_iff`: every key can be made, from its own text.
-/

namespace RiftGPU.Residency

/-- The name of a durable resource. -/
structure ResidencyKey where
  value : String
  trimmed : Text.trim value = value
  nonempty : value ≠ ""
deriving DecidableEq

namespace ResidencyKey

@[ext] theorem ext {a b : ResidencyKey} (h : a.value = b.value) : a = b := by
  cases a
  cases b
  simpa using h

instance : Ord ResidencyKey := ⟨compareOn value⟩

instance : Std.TransOrd ResidencyKey := inferInstanceAs (Std.TransCmp (compareOn value))

instance : Std.LawfulEqOrd ResidencyKey where
  compare_self {a} := (Std.ReflOrd.compare_self : compare a.value a.value = .eq)
  eq_of_compare {a b} h :=
    ext (Std.LawfulEqOrd.eq_of_compare (h : compare a.value b.value = .eq))

end ResidencyKey

/-- What an allocation is opened for: its key and generation, its device and its size. -/
structure ResidencySpec where
  key : ResidencyKey
  generation : BitVec 64
  deviceIndex : BitVec 32
  bytes : BitVec 64
deriving DecidableEq

/-- The ways in which a call can fail. -/
inductive ResidencyError where
  | invalidKey
  | invalidSpec (key : ResidencyKey) (deviceIndex : BitVec 32) (bytes : BitVec 64)
  | zeroCapacity
  | capacityExceeded (requested capacity : BitVec 64)
  | provider (message : String)
  | providerContract (requested returned : ResidencySpec)
  | poisoned
deriving DecidableEq

namespace ResidencyKey

/-- The key with this text, trimmed. -/
def new (value : String) : Except ResidencyError ResidencyKey :=
  if h : Text.trim value = "" then .error .invalidKey
  else .ok ⟨Text.trim value, Text.trim_trim value, h⟩

/-- A key is made from every text that trims to it. -/
theorem new_eq_ok_iff {value : String} {key : ResidencyKey} :
    new value = .ok key ↔ Text.trim value = key.value := by
  unfold new
  split_ifs with h
  · rw [h]
    simpa using key.nonempty.symm
  · rw [Except.ok.injEq, ResidencyKey.ext_iff]

end ResidencyKey

/-- A specification has a device and a size. -/
def ResidencySpec.validate (spec : ResidencySpec) : Except ResidencyError Unit :=
  Except.rejectIf (spec.deviceIndex.toInt < 0 ∨ spec.bytes = 0#64)
    (.invalidSpec spec.key spec.deviceIndex spec.bytes)

/-- A type of allocations. An allocation's specification does not change. -/
class ResidentAllocation (A : Type) where
  spec : A → ResidencySpec

end RiftGPU.Residency
