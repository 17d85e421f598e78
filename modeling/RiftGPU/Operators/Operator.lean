import RiftGPU.Word.LittleEndian

/-!
# Operators

The classes of operators that plugins may provide, the payload of a call and its errors. This file
models the data types of `vrb-operators`.

## Main definitions

* `OperatorKind`, with the order of its members.
* `OperatorError`, with its texts.
-/

namespace RiftGPU

/-- What an operator does. -/
inductive OperatorKind where
  | gemm
  | attention
  | quantize
  | dequantize
  | transform
  | custom
deriving DecidableEq, Repr

namespace OperatorKind

/-- The place of a kind in the order of kinds. -/
def rank : OperatorKind → ℕ
  | .gemm => 0
  | .attention => 1
  | .quantize => 2
  | .dequantize => 3
  | .transform => 4
  | .custom => 5

instance : Ord OperatorKind := ⟨compareOn rank⟩

instance : Std.TransOrd OperatorKind := inferInstanceAs (Std.TransCmp (compareOn rank))

instance : Std.LawfulEqOrd OperatorKind where
  compare_self {a} := (Std.ReflOrd.compare_self : compare a.rank a.rank = .eq)
  eq_of_compare {a b} h := by
    have hrank : a.rank = b.rank :=
      Std.LawfulEqOrd.eq_of_compare (h : compare a.rank b.rank = .eq)
    cases a <;> cases b <;> first | rfl | cases hrank

instance : ToString OperatorKind where
  toString
    | .gemm => "Gemm"
    | .attention => "Attention"
    | .quantize => "Quantize"
    | .dequantize => "Dequantize"
    | .transform => "Transform"
    | .custom => "Custom"

end OperatorKind

/-- The ways in which an invocation can fail. -/
inductive OperatorError where
  | unavailable (message : String)
  | execution (message : String)
  | noCompatibleOperator (kind : OperatorKind)
deriving DecidableEq, Repr

instance : ToString OperatorError where
  toString
    | .unavailable message => "operator is unavailable: " ++ message
    | .execution message => "operator execution failed: " ++ message
    | .noCompatibleOperator kind => "no compatible operator registered for " ++ toString kind

/-- What an operator is run on. -/
structure OperatorInvocation where
  input : List Bytes.Byte
deriving DecidableEq

/-- What an operator returns. -/
structure OperatorOutput where
  bytes : List Bytes.Byte
deriving DecidableEq

end RiftGPU
