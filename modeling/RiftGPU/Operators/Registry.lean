import RiftGPU.Core.Backend
import RiftGPU.Lists.Selection
import RiftGPU.Operators.Operator

/-!
# Operators and their registry

Operators that work on bytes, and the registry that picks one of them for a request. This file
models the registry of `vrb-operators`. What an operator does when it runs is an action of an
arbitrary monad `M`.

## Main definitions

* `OperatorCapabilities.compatible`: the test of the selection policy.
* `firstCompatible`: the selection policy.
* `OperatorRegistry.register`, `OperatorRegistry.execute`.

## Main results

* `OperatorRegistry.candidates_foldl_register`: the candidates for a kind.
* `OperatorRegistry.execute_cases`: a registry runs the first choice among its operators.
-/

namespace RiftGPU

open Std (ExtTreeMap)

/-- What is asked of an operator before it is chosen. -/
structure OperatorRequest where
  kind : OperatorKind
  preferredBackend : Option BackendKind
  requiresZeroCopy : Bool
deriving DecidableEq, Repr

/-- A request without requirements. -/
def OperatorRequest.new (kind : OperatorKind) : OperatorRequest where
  kind := kind
  preferredBackend := none
  requiresZeroCopy := false

/-- What an operator says that it can do. -/
structure OperatorCapabilities where
  kind : OperatorKind
  backend : BackendKind
  supportsZeroCopy : Bool
deriving DecidableEq, Repr

/-- An operator. Its capabilities do not change, and running it is an action of `M`. -/
structure Operator (M : Type → Type) where
  name : String
  capabilities : OperatorCapabilities
  execute : OperatorInvocation → M (Except OperatorError OperatorOutput)

/-- A selection policy picks one of the candidates, or none. -/
abbrev OperatorSelectionPolicy (M : Type → Type) :=
  OperatorRequest → List (Operator M) → Option (Operator M)

/-- The test that an operator must pass to be selected. -/
def OperatorCapabilities.compatible (capabilities : OperatorCapabilities)
    (request : OperatorRequest) : Bool :=
  capabilities.kind == request.kind &&
    (!request.requiresZeroCopy || capabilities.supportsZeroCopy)

/-- `FirstCompatible`: the first compatible operator on the preferred backend, and otherwise the
first compatible one. -/
def firstCompatible {M : Type → Type} : OperatorSelectionPolicy M := fun request candidates =>
  let compatible (operator : Operator M) : Bool := operator.capabilities.compatible request
  let preferred := request.preferredBackend.bind fun preferredBackend =>
    (candidates.filter compatible).find? fun operator =>
      operator.capabilities.backend == preferredBackend
  preferred.or (candidates.find? compatible)

/-- The operators by their kinds, and the policy that chooses among them. -/
structure OperatorRegistry (M : Type → Type) where
  operators : ExtTreeMap OperatorKind (List (Operator M))
  policy : OperatorSelectionPolicy M

namespace OperatorRegistry

variable {M : Type → Type}

/-- A registry without operators. -/
def new (policy : OperatorSelectionPolicy M) : OperatorRegistry M where
  operators := ∅
  policy := policy

/-- The operators of a kind, in the order in which they were registered. -/
def candidates (registry : OperatorRegistry M) (kind : OperatorKind) : List (Operator M) :=
  registry.operators.getD kind []

/-- The registry with an operator behind the others of its kind. -/
def register (registry : OperatorRegistry M) (operator : Operator M) : OperatorRegistry M :=
  let kind := operator.capabilities.kind
  { registry with
    operators := registry.operators.insert kind (registry.candidates kind ++ [operator]) }

/-- The run of the operator that the policy chooses. -/
def execute [Monad M] (registry : OperatorRegistry M) (request : OperatorRequest)
    (invocation : OperatorInvocation) : M (Except OperatorError OperatorOutput) :=
  match registry.policy request (registry.candidates request.kind) with
  | none => pure (.error (.noCompatibleOperator request.kind))
  | some operator => operator.execute invocation

end OperatorRegistry

/-! ### Selection -/

/-- The clauses of the compatibility test. -/
structure OperatorCapabilities.Compatible (capabilities : OperatorCapabilities)
    (request : OperatorRequest) : Prop where
  kind : capabilities.kind = request.kind
  zero_copy : request.requiresZeroCopy → capabilities.supportsZeroCopy

theorem OperatorCapabilities.compatible_iff {capabilities : OperatorCapabilities}
    {request : OperatorRequest} :
    capabilities.compatible request ↔ capabilities.Compatible request := by
  rw [compatible, Bool.and_eq_true, beq_iff_eq, Bool.or_eq_true, Bool.not_eq_true',
    ← Bool.not_eq_true, ← imp_iff_not_or]
  exact ⟨fun ⟨hkind, hcopy⟩ => ⟨hkind, hcopy⟩, fun h => ⟨h.kind, h.zero_copy⟩⟩

namespace OperatorRegistry

variable {M : Type → Type}

/-- Registering operators fills the buckets of their kinds. -/
theorem operators_foldl_register (registry : OperatorRegistry M) (operators : List (Operator M)) :
    (operators.foldl register registry).operators =
      operators.foldl (fun buckets operator =>
        List.pushBucket buckets operator.capabilities.kind operator) registry.operators := by
  induction operators generalizing registry with
  | nil => rfl
  | cons operator operators ih => exact ih (registry.register operator)

/-- The candidates of a registry are the operators of their kind, in the order in which they were
registered. -/
theorem candidates_foldl_register (registry : OperatorRegistry M) (operators : List (Operator M))
    (kind : OperatorKind) :
    (operators.foldl register registry).candidates kind = registry.candidates kind ++
      operators.filter (fun operator => operator.capabilities.kind = kind) := by
  rw [candidates, operators_foldl_register, List.getD_foldl_pushBucket, candidates]

@[simp] theorem policy_foldl_register (registry : OperatorRegistry M)
    (operators : List (Operator M)) :
    (operators.foldl register registry).policy = registry.policy := by
  induction operators generalizing registry with
  | nil => rfl
  | cons operator operators ih => exact ih (registry.register operator)

/-- The operator that a registry selects, without its buckets. -/
theorem policy_candidates_eq (operators : List (Operator M)) (request : OperatorRequest) :
    let registry := operators.foldl register (new firstCompatible)
    registry.policy request (registry.candidates request.kind) =
      List.selectPreferred request.preferredBackend
        (fun backend operator => operator.capabilities.backend == backend)
        (fun operator => operator.capabilities.compatible request) operators := by
  intro registry
  have hcandidates : registry.candidates request.kind =
      operators.filter (fun operator => operator.capabilities.kind = request.kind) := by
    rw [candidates_foldl_register]
    exact List.nil_append _
  have hpolicy : registry.policy = firstCompatible := policy_foldl_register _ operators
  rw [hpolicy, hcandidates]
  refine List.selectPreferred_filter fun operator hcompatible => ?_
  exact decide_eq_true (OperatorCapabilities.compatible_iff.1 hcompatible).kind

/-- **Dispatch.** A registry rejects a request for which it has no compatible operator, without
running anything, or it runs the first choice among its operators. -/
theorem execute_cases [Monad M] (operators : List (Operator M)) (request : OperatorRequest)
    (invocation : OperatorInvocation) :
    let registry := operators.foldl register (new firstCompatible)
    ((∀ operator ∈ operators, ¬operator.capabilities.Compatible request) ∧
      registry.execute request invocation = pure (.error (.noCompatibleOperator request.kind))) ∨
    ∃ i operator, operators[i]? = some operator ∧
      List.IsFirstChoice (fun operator => ∃ backend ∈ request.preferredBackend,
          operator.capabilities.backend = backend)
        (fun operator => operator.capabilities.Compatible request) operators i ∧
      registry.execute request invocation = operator.execute invocation := by
  intro registry
  have hpolicy := policy_candidates_eq operators request
  unfold execute
  cases hselect : registry.policy request (registry.candidates request.kind) with
  | none =>
    rw [hpolicy, List.selectPreferred_eq_none_iff] at hselect
    exact .inl ⟨fun operator hmem hcompatible =>
      hselect operator hmem (OperatorCapabilities.compatible_iff.2 hcompatible), rfl⟩
  | some operator =>
    rw [hpolicy] at hselect
    obtain ⟨i, hget, hfirst⟩ := List.exists_isFirstChoice_of_selectPreferred hselect
    refine .inr ⟨i, operator, hget, ?_, rfl⟩
    exact hfirst.congr (fun _ operator => operator) (fun j => by simp)
      (fun j operator => by simp) fun j operator => OperatorCapabilities.compatible_iff

end OperatorRegistry

end RiftGPU
