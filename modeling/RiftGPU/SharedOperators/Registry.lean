import Mathlib.Data.List.Basic
import RiftGPU.Core.Backend
import RiftGPU.Lists.Selection
import RiftGPU.Operators.Operator
import RiftGPU.Word.Checked
import RiftGPU.Word.LittleEndian
import RiftGPU.Word.Outcome

/-!
# Shared operators and their registry

Operators that work on borrowed regions of external memory, and the registry that picks one of
them for a request. This file models `vrb-shared-operators`. What an operator does when it runs
is an action of an arbitrary monad `M`.

## Main definitions

* `SharedResourceRegion.validate`, `SharedSyncPoint.validate`, `SharedOperatorInvocation.validate`.
* `firstCompatibleShared`: the selection policy.
* `SharedOperatorRegistry.register`, `SharedOperatorRegistry.execute`.

## Main results

* `SharedOperatorInvocation.validate_eq_ok_iff`: a valid invocation has valid parts.
* `SharedOperatorRegistry.candidates_foldl_register`: the candidates for a kind.
* `SharedOperatorRegistry.execute_of_valid`: a registry runs the first choice among its operators.
-/

namespace RiftGPU.SharedOperators

open Std (ExtTreeMap)
open Bytes

/-- The kind of a handle to external memory. -/
inductive ExternalMemoryHandleKind where
  | win32Kmt
  | win32Nt
  | opaqueFd
  | dmaBuf
  | custom (value : BitVec 32)
deriving DecidableEq, Repr

/-- What an operator may do with a region. -/
inductive ResourceAccess where
  | readOnly
  | writeOnly
  | readWrite
deriving DecidableEq, Repr

/-- The ways in which an invocation can fail. -/
inductive SharedOperatorError where
  | unavailable (message : String)
  | execution (message : String)
  | invalidResource (message : String)
  | invalidSynchronization (message : String)
  | noCompatibleOperator (kind : OperatorKind)
deriving DecidableEq, Repr

instance : ToString SharedOperatorError where
  toString
    | .unavailable message => "shared operator is unavailable: " ++ message
    | .execution message => "shared operator execution failed: " ++ message
    | .invalidResource message => "invalid shared resource: " ++ message
    | .invalidSynchronization message => "invalid external synchronization point: " ++ message
    | .noCompatibleOperator kind =>
      "no compatible shared operator registered for " ++ toString kind

/-- A region of an external allocation that an operator borrows. -/
structure SharedResourceRegion where
  handleKind : ExternalMemoryHandleKind
  handle : BitVec 64
  allocationSize : BitVec 64
  offset : BitVec 64
  length : BitVec 64
  access : ResourceAccess
deriving DecidableEq, Repr

/-- A region must have a handle, must not be empty and must lie inside its allocation. -/
def SharedResourceRegion.validate (region : SharedResourceRegion) :
    Except SharedOperatorError Unit := do
  Except.rejectIf (region.handle = 0#64)
    (.invalidResource "external-memory handle must be non-zero")
  Except.rejectIf (region.allocationSize = 0#64 ∨ region.length = 0#64)
    (.invalidResource "shared-resource allocation and region length must be non-zero")
  let stop ← (region.offset.checkedAdd region.length).okOr
    (.invalidResource "shared-resource range overflow")
  let offset := region.offset.toNat
  let size := region.allocationSize.toNat
  Except.rejectIf (stop > region.allocationSize) (.invalidResource
    s!"shared-resource range [{offset}, {stop.toNat}) exceeds allocation size {size}")

/-- The kind of a handle to a synchronization object. -/
inductive ExternalSyncHandleKind where
  | win32Opaque
  | opaqueFd
  | timeline
  | custom (value : BitVec 32)
deriving DecidableEq, Repr

/-- A point at which an operator waits, or that it signals. -/
structure SharedSyncPoint where
  handleKind : ExternalSyncHandleKind
  handle : BitVec 64
  value : BitVec 64
deriving DecidableEq, Repr

/-- A point must have a handle. -/
def SharedSyncPoint.validate (point : SharedSyncPoint) : Except SharedOperatorError Unit :=
  Except.rejectIf (point.handle = 0#64)
    (.invalidSynchronization "external synchronization handle must be non-zero")

/-- What is asked of an operator before it is chosen. -/
structure SharedOperatorRequest where
  kind : OperatorKind
  preferredBackend : Option BackendKind
  requiredMemoryKind : Option ExternalMemoryHandleKind
  requiresSynchronization : Bool
  requiresProvenZeroCopy : Bool
deriving DecidableEq, Repr

/-- A request without requirements. -/
def SharedOperatorRequest.new (kind : OperatorKind) : SharedOperatorRequest where
  kind := kind
  preferredBackend := none
  requiredMemoryKind := none
  requiresSynchronization := false
  requiresProvenZeroCopy := false

/-- What an operator says that it can do. -/
structure SharedOperatorCapabilities where
  kind : OperatorKind
  backend : BackendKind
  memoryKinds : List ExternalMemoryHandleKind
  syncKinds : List ExternalSyncHandleKind
  supportsExternalSynchronization : Bool
  provenZeroCopy : Bool
deriving DecidableEq, Repr

/-- What an operator is run on. -/
structure SharedOperatorInvocation where
  metadata : List Byte
  resources : List SharedResourceRegion
  waits : List SharedSyncPoint
  signals : List SharedSyncPoint
deriving DecidableEq

/-- The regions and points are checked, the first error is returned. -/
def SharedOperatorInvocation.validate (invocation : SharedOperatorInvocation) :
    Except SharedOperatorError Unit := do
  forM invocation.resources SharedResourceRegion.validate
  forM invocation.waits SharedSyncPoint.validate
  forM invocation.signals SharedSyncPoint.validate

/-- What an operator returns. -/
structure SharedOperatorOutput where
  receipt : List Byte
deriving DecidableEq

/-- An operator. Its capabilities do not change, and running it is an action of `M`. -/
structure SharedOperator (M : Type → Type) where
  name : String
  capabilities : SharedOperatorCapabilities
  executeShared : SharedOperatorInvocation → M (Except SharedOperatorError SharedOperatorOutput)

/-- A selection policy picks one of the candidates, or none. -/
abbrev SharedOperatorSelectionPolicy (M : Type → Type) :=
  SharedOperatorRequest → SharedOperatorInvocation → List (SharedOperator M) →
    Option (SharedOperator M)

/-- The test that an operator must pass to be selected. -/
def SharedOperatorCapabilities.compatible (capabilities : SharedOperatorCapabilities)
    (request : SharedOperatorRequest) (invocation : SharedOperatorInvocation) : Bool :=
  let invocationUsesSync := !invocation.waits.isEmpty || !invocation.signals.isEmpty
  capabilities.kind == request.kind &&
    request.requiredMemoryKind.all (fun kind => capabilities.memoryKinds.contains kind) &&
    invocation.resources.all
      (fun resource => capabilities.memoryKinds.contains resource.handleKind) &&
    (!request.requiresSynchronization || capabilities.supportsExternalSynchronization) &&
    (!invocationUsesSync || capabilities.supportsExternalSynchronization) &&
    (invocation.waits ++ invocation.signals).all
      (fun point => capabilities.syncKinds.contains point.handleKind) &&
    (!request.requiresProvenZeroCopy || capabilities.provenZeroCopy)

/-- `FirstCompatibleShared`: the first compatible operator on the preferred backend, and otherwise
the first compatible one. -/
def firstCompatibleShared {M : Type → Type} : SharedOperatorSelectionPolicy M :=
  fun request invocation candidates =>
    let compatible (operator : SharedOperator M) : Bool :=
      operator.capabilities.compatible request invocation
    let preferred := request.preferredBackend.bind fun preferredBackend =>
      (candidates.filter compatible).find? fun operator =>
        operator.capabilities.backend == preferredBackend
    preferred.or (candidates.find? compatible)

/-- The operators by their kinds, and the policy that chooses among them. -/
structure SharedOperatorRegistry (M : Type → Type) where
  operators : ExtTreeMap OperatorKind (List (SharedOperator M))
  policy : SharedOperatorSelectionPolicy M

namespace SharedOperatorRegistry

variable {M : Type → Type}

/-- A registry without operators. -/
def new (policy : SharedOperatorSelectionPolicy M) : SharedOperatorRegistry M where
  operators := ∅
  policy := policy

/-- The operators of a kind, in the order in which they were registered. -/
def candidates (registry : SharedOperatorRegistry M) (kind : OperatorKind) :
    List (SharedOperator M) :=
  registry.operators.getD kind []

/-- The registry with an operator behind the others of its kind. -/
def register (registry : SharedOperatorRegistry M) (operator : SharedOperator M) :
    SharedOperatorRegistry M :=
  let kind := operator.capabilities.kind
  { registry with
    operators := registry.operators.insert kind (registry.candidates kind ++ [operator]) }

/-- The run of the operator that the policy chooses, once the invocation is valid. -/
def execute [Monad M] (registry : SharedOperatorRegistry M) (request : SharedOperatorRequest)
    (invocation : SharedOperatorInvocation) :
    M (Except SharedOperatorError SharedOperatorOutput) :=
  match invocation.validate with
  | .error error => pure (.error error)
  | .ok () =>
    match registry.policy request invocation (registry.candidates request.kind) with
    | none => pure (.error (.noCompatibleOperator request.kind))
    | some operator => operator.executeShared invocation

end SharedOperatorRegistry

/-! ### Validation -/

/-- A region that lies inside its allocation. -/
structure SharedResourceRegion.Valid (region : SharedResourceRegion) : Prop where
  handle_ne_zero : region.handle ≠ 0#64
  length_ne_zero : region.length ≠ 0#64
  end_le : region.offset.toNat + region.length.toNat ≤ region.allocationSize.toNat

theorem SharedResourceRegion.validate_eq_ok_iff {region : SharedResourceRegion} {u : Unit} :
    region.validate = .ok u ↔ region.Valid := by
  unfold validate
  simp only [Except.bind_eq_ok_iff, Option.okOr_eq_ok_iff, BitVec.checkedAdd_eq_some_iff,
    Except.rejectIf_eq_ok_iff, exists_const, not_or]
  constructor
  · rintro ⟨hhandle, ⟨_, hlength⟩, stop, hstop, hle⟩
    rw [gt_iff_lt, BitVec.not_lt, BitVec.le_def, hstop] at hle
    exact ⟨hhandle, hlength, hle⟩
  · rintro ⟨hhandle, hlength, hle⟩
    have hpos := BitVec.eq_zero_iff_toNat.not.1 hlength
    have hsize : region.allocationSize ≠ 0#64 := by
      rw [Ne, BitVec.eq_zero_iff_toNat]
      omega
    obtain ⟨stop, hstop⟩ := BitVec.exists_toNat_eq (hle.trans_lt region.allocationSize.isLt)
    refine ⟨hhandle, ⟨hsize, hlength⟩, stop, hstop, ?_⟩
    rw [gt_iff_lt, BitVec.not_lt, BitVec.le_def, hstop]
    exact hle

theorem SharedSyncPoint.validate_eq_ok_iff {point : SharedSyncPoint} {u : Unit} :
    point.validate = .ok u ↔ point.handle ≠ 0#64 := by
  simp [validate]

/-- An invocation whose regions are valid and whose points have handles. -/
structure SharedOperatorInvocation.Valid (invocation : SharedOperatorInvocation) : Prop where
  resources : ∀ region ∈ invocation.resources, region.Valid
  waits : ∀ point ∈ invocation.waits, point.handle ≠ 0#64
  signals : ∀ point ∈ invocation.signals, point.handle ≠ 0#64

/-- The checks of an invocation pass exactly when it is valid. -/
theorem SharedOperatorInvocation.validate_eq_ok_iff {invocation : SharedOperatorInvocation}
    {u : Unit} : invocation.validate = .ok u ↔ invocation.Valid := by
  unfold validate
  simp only [Except.bind_eq_ok_iff, Except.forM_eq_ok_iff, SharedResourceRegion.validate_eq_ok_iff,
    SharedSyncPoint.validate_eq_ok_iff, exists_const]
  exact ⟨fun ⟨hresources, hwaits, hsignals⟩ => ⟨hresources, hwaits, hsignals⟩,
    fun h => ⟨h.resources, h.waits, h.signals⟩⟩

/-! ### Selection -/

/-- The clauses of the compatibility test. -/
structure SharedOperatorCapabilities.Compatible (capabilities : SharedOperatorCapabilities)
    (request : SharedOperatorRequest) (invocation : SharedOperatorInvocation) : Prop where
  kind : capabilities.kind = request.kind
  requiredMemoryKind : ∀ kind ∈ request.requiredMemoryKind, kind ∈ capabilities.memoryKinds
  resources : ∀ region ∈ invocation.resources, region.handleKind ∈ capabilities.memoryKinds
  requested_sync :
    request.requiresSynchronization → capabilities.supportsExternalSynchronization
  used_sync :
    invocation.waits ++ invocation.signals ≠ [] → capabilities.supportsExternalSynchronization
  points : ∀ point ∈ invocation.waits ++ invocation.signals,
    point.handleKind ∈ capabilities.syncKinds
  zero_copy : request.requiresProvenZeroCopy → capabilities.provenZeroCopy

/-- A requirement on a capability, as the compatibility test writes it. -/
private theorem required_iff {required provided : Bool} :
    (!required || provided) = true ↔ (required = true → provided = true) := by
  cases required <;> simp

theorem SharedOperatorCapabilities.compatible_iff {capabilities : SharedOperatorCapabilities}
    {request : SharedOperatorRequest} {invocation : SharedOperatorInvocation} :
    capabilities.compatible request invocation ↔ capabilities.Compatible request invocation := by
  have hsync : ((!invocation.waits.isEmpty || !invocation.signals.isEmpty) = true) ↔
      invocation.waits ++ invocation.signals ≠ [] := by
    cases invocation.waits <;> cases invocation.signals <;> simp
  simp only [compatible, Bool.and_eq_true, beq_iff_eq, required_iff, hsync,
    Option.all_eq_true, List.all_eq_true, List.contains_iff_mem]
  constructor
  · rintro ⟨⟨⟨⟨⟨⟨hkind, hrequired⟩, hresources⟩, hrequested⟩, hused⟩, hpoints⟩, hcopy⟩
    exact ⟨hkind, hrequired, hresources, hrequested, hused, hpoints, hcopy⟩
  · rintro ⟨hkind, hrequired, hresources, hrequested, hused, hpoints, hcopy⟩
    exact ⟨⟨⟨⟨⟨⟨hkind, hrequired⟩, hresources⟩, hrequested⟩, hused⟩, hpoints⟩, hcopy⟩

namespace SharedOperatorRegistry

variable {M : Type → Type}

/-- Registering operators fills the buckets of their kinds. -/
theorem operators_foldl_register (registry : SharedOperatorRegistry M)
    (operators : List (SharedOperator M)) :
    (operators.foldl register registry).operators =
      operators.foldl (fun buckets operator =>
        List.pushBucket buckets operator.capabilities.kind operator) registry.operators := by
  induction operators generalizing registry with
  | nil => rfl
  | cons operator operators ih => exact ih (registry.register operator)

/-- The candidates of a registry are the operators of their kind, in the order in which they were
registered. -/
theorem candidates_foldl_register (registry : SharedOperatorRegistry M)
    (operators : List (SharedOperator M)) (kind : OperatorKind) :
    (operators.foldl register registry).candidates kind =
      registry.candidates kind ++
        operators.filter (fun operator => operator.capabilities.kind = kind) := by
  rw [candidates, operators_foldl_register, List.getD_foldl_pushBucket, candidates]

@[simp] theorem policy_foldl_register (registry : SharedOperatorRegistry M)
    (operators : List (SharedOperator M)) :
    (operators.foldl register registry).policy = registry.policy := by
  induction operators generalizing registry with
  | nil => rfl
  | cons operator operators ih => exact ih (registry.register operator)

/-- The operator that a registry selects, without its buckets. -/
theorem policy_candidates_eq (operators : List (SharedOperator M))
    (request : SharedOperatorRequest) (invocation : SharedOperatorInvocation) :
    let registry := operators.foldl register (new firstCompatibleShared)
    registry.policy request invocation (registry.candidates request.kind) =
      List.selectPreferred request.preferredBackend
        (fun backend operator => operator.capabilities.backend == backend)
        (fun operator => operator.capabilities.compatible request invocation) operators := by
  intro registry
  have hcandidates : registry.candidates request.kind =
      operators.filter (fun operator => operator.capabilities.kind = request.kind) := by
    rw [candidates_foldl_register]
    exact List.nil_append _
  have hpolicy : registry.policy = firstCompatibleShared := policy_foldl_register _ operators
  rw [hpolicy, hcandidates]
  refine List.selectPreferred_filter fun operator hcompatible => ?_
  exact decide_eq_true (SharedOperatorCapabilities.compatible_iff.1 hcompatible).kind

/-- On a valid invocation a registry rejects a request for which it has no compatible operator,
without running anything, or it runs the first choice among its operators. -/
theorem execute_of_valid [Monad M] (operators : List (SharedOperator M))
    (request : SharedOperatorRequest) {invocation : SharedOperatorInvocation}
    (hvalid : invocation.validate = .ok ()) :
    let registry := operators.foldl register (new firstCompatibleShared)
    ((∀ operator ∈ operators, ¬operator.capabilities.Compatible request invocation) ∧
      registry.execute request invocation =
        pure (.error (.noCompatibleOperator request.kind))) ∨
    ∃ i operator, operators[i]? = some operator ∧
      List.IsFirstChoice (fun operator => ∃ backend ∈ request.preferredBackend,
          operator.capabilities.backend = backend)
        (fun operator => operator.capabilities.Compatible request invocation) operators i ∧
      registry.execute request invocation = operator.executeShared invocation := by
  intro registry
  have hpolicy := policy_candidates_eq operators request invocation
  unfold execute
  rw [hvalid]
  cases hselect : registry.policy request invocation (registry.candidates request.kind) with
  | none =>
    rw [hpolicy, List.selectPreferred_eq_none_iff] at hselect
    exact .inl ⟨fun operator hmem hcompatible =>
      hselect operator hmem (SharedOperatorCapabilities.compatible_iff.2 hcompatible), rfl⟩
  | some operator =>
    rw [hpolicy] at hselect
    obtain ⟨i, hget, hfirst⟩ := List.exists_isFirstChoice_of_selectPreferred hselect
    refine .inr ⟨i, operator, hget, ?_, rfl⟩
    exact hfirst.congr (fun _ operator => operator) (fun j => by simp)
      (fun j operator => by simp) fun j operator => SharedOperatorCapabilities.compatible_iff

/-- **Dispatch.** A registry rejects a request without running anything, or it runs one of its
operators, on a valid invocation with which the operator is compatible. -/
theorem execute_cases [Monad M] (operators : List (SharedOperator M))
    (request : SharedOperatorRequest) (invocation : SharedOperatorInvocation) :
    let registry := operators.foldl register (new firstCompatibleShared)
    (∃ error, registry.execute request invocation = pure (.error error)) ∨
      ∃ operator ∈ operators, invocation.Valid ∧
        operator.capabilities.Compatible request invocation ∧
        registry.execute request invocation = operator.executeShared invocation := by
  intro registry
  cases hvalid : invocation.validate with
  | error error =>
    unfold execute
    rw [hvalid]
    exact .inl ⟨error, rfl⟩
  | ok u =>
    obtain ⟨_, hreject⟩ | ⟨i, operator, hget, hfirst, hrun⟩ :=
      execute_of_valid operators request hvalid
    · exact .inl ⟨_, hreject⟩
    · exact .inr ⟨operator, List.mem_of_getElem? hget,
        SharedOperatorInvocation.validate_eq_ok_iff.1 hvalid, hfirst.suitable hget, hrun⟩

end SharedOperatorRegistry

end RiftGPU.SharedOperators
