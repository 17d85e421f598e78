import RiftGPU.Operators.Registry
import RiftGPU.SharedOperators.Registry

/-!
# Both registries run the first choice

The registry of operators on bytes and the registry of shared operators select in the same way. To
say which operator runs, and how often, operators are numbered in the order of their registration,
and the number of every operator that runs is noted. Operators act on a state of any type.

## Main definitions

* `noted`: a call whose number is noted.
* `Dispatches`: a call of a registry runs the first choice once, or rejects and runs nothing.

## Main results

* `dispatches_of_cases`, `dispatches_of_mapIdx`: what to show of a registry.
-/

namespace RiftGPU

variable {W : Type}

/-- A call on a state of `W`, whose number is noted. -/
def noted {α : Type} (i : ℕ) (call : StateM W α) : StateT (List ℕ) (StateM W) α := do
  modify (· ++ [i])
  call

/-- The operator that was registered as number `i`. -/
def Operator.noted (i : ℕ) (operator : Operator (StateM W)) :
    Operator (StateT (List ℕ) (StateM W)) where
  name := operator.name
  capabilities := operator.capabilities
  execute invocation := RiftGPU.noted i (operator.execute invocation)

/-- The shared operator that was registered as number `i`. -/
def SharedOperators.SharedOperator.noted (i : ℕ) (operator : SharedOperator (StateM W)) :
    SharedOperator (StateT (List ℕ) (StateM W)) where
  name := operator.name
  capabilities := operator.capabilities
  executeShared invocation := RiftGPU.noted i (operator.executeShared invocation)

/-- When an entry is suitable, the first choice is called once, and what it returns is returned;
and exactly when none is, the rejection is returned and nothing is called. -/
structure Dispatches {ι ε α : Type} (preferred suitable : ι → Prop) (entries : List ι)
    (call : ι → StateM W (Except ε α)) (rejection : ε)
    (dispatch : StateT (List ℕ) (StateM W) (Except ε α)) : Prop where
  runs : (∃ entry ∈ entries, suitable entry) → ∃ i entry, entries[i]? = some entry ∧
    List.IsFirstChoice preferred suitable entries i ∧
    ∀ numbers state, (dispatch.run numbers).run state =
      ((((call entry).run state).1, numbers ++ [i]), ((call entry).run state).2)
  rejects_iff : ∀ numbers state,
    (dispatch.run numbers).run state = ((.error rejection, numbers), state) ↔
      ∀ entry ∈ entries, ¬suitable entry

theorem dispatches_of_cases {ι ε α : Type} {preferred suitable : ι → Prop} {entries : List ι}
    {call : ι → StateM W (Except ε α)} {rejection : ε}
    {dispatch : StateT (List ℕ) (StateM W) (Except ε α)}
    (h : ((∀ entry ∈ entries, ¬suitable entry) ∧ dispatch = pure (.error rejection)) ∨
      ∃ i entry, entries[i]? = some entry ∧ List.IsFirstChoice preferred suitable entries i ∧
        dispatch = noted i (call entry)) :
    Dispatches preferred suitable entries call rejection dispatch := by
  obtain ⟨hnone, rfl⟩ | ⟨i, entry, hget, hfirst, rfl⟩ := h
  · exact ⟨fun ⟨entry, hmem, hsuitable⟩ => absurd hsuitable (hnone entry hmem),
      fun numbers state => iff_of_true rfl hnone⟩
  · refine ⟨fun _ => ⟨i, entry, hget, hfirst, fun numbers state => rfl⟩, fun numbers state => ?_⟩
    have hmem : entry ∈ entries := List.mem_of_getElem? hget
    refine iff_of_false (fun heq => ?_) fun hnone => hnone entry hmem (hfirst.suitable hget)
    have hnumbers : numbers ++ [i] = numbers := congrArg (fun run => run.1.2) heq
    simp at hnumbers

/-- A dispatch over marked entries, whose calls are noted, is one over the entries themselves. -/
theorem dispatches_of_mapIdx {ι κ ε α : Type} {preferred suitable : ι → Prop}
    {preferred' suitable' : κ → Prop} {entries : List ι} {call : ι → StateM W (Except ε α)}
    {rejection : ε} {dispatch : StateT (List ℕ) (StateM W) (Except ε α)} (mark : ℕ → ι → κ)
    {run : κ → StateT (List ℕ) (StateM W) (Except ε α)}
    (hpreferred : ∀ i entry, preferred' (mark i entry) ↔ preferred entry)
    (hsuitable : ∀ i entry, suitable' (mark i entry) ↔ suitable entry)
    (hrun : ∀ i entry, run (mark i entry) = noted i (call entry))
    (h : ((∀ marked ∈ entries.mapIdx mark, ¬suitable' marked) ∧
        dispatch = pure (.error rejection)) ∨
      ∃ i marked, (entries.mapIdx mark)[i]? = some marked ∧
        List.IsFirstChoice preferred' suitable' (entries.mapIdx mark) i ∧ dispatch = run marked) :
    Dispatches preferred suitable entries call rejection dispatch := by
  refine dispatches_of_cases ?_
  obtain ⟨hnone, hreject⟩ | ⟨i, marked, hget, hfirst, hdispatch⟩ := h
  · refine .inl ⟨fun entry hmem hentry => ?_, hreject⟩
    obtain ⟨i, hi⟩ := List.mem_iff_getElem?.1 hmem
    exact hnone (mark i entry) (List.mem_iff_getElem?.2 ⟨i, by simp [hi]⟩)
      ((hsuitable i entry).2 hentry)
  · rw [List.getElem?_mapIdx, Option.map_eq_some_iff] at hget
    obtain ⟨entry, hget, rfl⟩ := hget
    exact .inr ⟨i, entry, hget, hfirst.congr mark (fun j => List.getElem?_mapIdx) hpreferred
      hsuitable, hdispatch.trans (hrun i entry)⟩

namespace SharedOperators

open OperatorRegistry SharedOperatorRegistry

/-- **Both registries run the first choice.** For every sequence of registrations and every
request, exactly one operator runs when a registered operator is compatible: the earliest on the
preferred backend, or else the earliest; its result is returned. The error
`noCompatibleOperator` is returned without running an operator exactly when none is compatible. A
shared invocation is supposed to pass its validation. -/
theorem registries_dispatch (W : Type) :
    (∀ (operators : List (Operator (StateM W))) (request : OperatorRequest)
      (invocation : OperatorInvocation),
      Dispatches
        (fun operator => ∃ backend ∈ request.preferredBackend,
          operator.capabilities.backend = backend)
        (fun operator => operator.capabilities.Compatible request)
        operators (fun operator => operator.execute invocation)
        (.noCompatibleOperator request.kind)
        (((operators.mapIdx Operator.noted).foldl OperatorRegistry.register
          (OperatorRegistry.new firstCompatible)).execute request invocation)) ∧
    (∀ (operators : List (SharedOperator (StateM W))) (request : SharedOperatorRequest)
      (invocation : SharedOperatorInvocation), invocation.validate = .ok () →
      Dispatches
        (fun operator => ∃ backend ∈ request.preferredBackend,
          operator.capabilities.backend = backend)
        (fun operator => operator.capabilities.Compatible request invocation)
        operators (fun operator => operator.executeShared invocation)
        (.noCompatibleOperator request.kind)
        (((operators.mapIdx SharedOperator.noted).foldl SharedOperatorRegistry.register
          (SharedOperatorRegistry.new firstCompatibleShared)).execute request invocation)) := by
  constructor
  · intro operators request invocation
    exact dispatches_of_mapIdx Operator.noted (fun _ _ => Iff.rfl) (fun _ _ => Iff.rfl)
      (fun _ _ => rfl) (OperatorRegistry.execute_cases _ request invocation)
  · intro operators request invocation hvalid
    exact dispatches_of_mapIdx SharedOperator.noted (fun _ _ => Iff.rfl) (fun _ _ => Iff.rfl)
      (fun _ _ => rfl) (execute_of_valid _ request hvalid)

/-- An operator on Windows memory that adds a number to the state. -/
def addingOperator (backend : BackendKind) (summand : ℕ) : SharedOperator (StateM ℕ) where
  name := "adding"
  capabilities := {
    kind := .custom
    backend
    memoryKinds := [.win32Kmt]
    syncKinds := []
    supportsExternalSynchronization := false
    provenZeroCopy := false }
  executeShared _ := do
    modify (· + summand)
    return .ok ⟨[]⟩

/-- Two operators that add to a counter, on the CPU and on HIP. -/
def addingRegistry : SharedOperatorRegistry (StateT (List ℕ) (StateM ℕ)) :=
  ([addingOperator .cpu 10, addingOperator .hip 1].mapIdx SharedOperator.noted).foldl
    SharedOperatorRegistry.register (SharedOperatorRegistry.new firstCompatibleShared)

/-- A request for a custom operator on a backend. -/
def customRequest (preferredBackend : BackendKind) : SharedOperatorRequest :=
  { SharedOperatorRequest.new .custom with preferredBackend }

/-- An invocation on a valid region. -/
def regionInvocation : SharedOperatorInvocation where
  metadata := []
  resources := [⟨.win32Kmt, 1#64, 16#64, 4#64, 8#64, .readWrite⟩]
  waits := []
  signals := []

/-- The second operator runs for the backend that it is on, and the first one for a backend on which
there is none. -/
theorem registries_dispatch_adding :
    (∀ preferredBackend, Dispatches
      (fun operator => ∃ backend ∈ some preferredBackend, operator.capabilities.backend = backend)
      (fun operator =>
        operator.capabilities.Compatible (customRequest preferredBackend) regionInvocation)
      [addingOperator .cpu 10, addingOperator .hip 1]
      (fun operator => operator.executeShared regionInvocation)
      (.noCompatibleOperator .custom)
      (addingRegistry.execute (customRequest preferredBackend) regionInvocation)) ∧
    ((addingRegistry.execute (customRequest .hip) regionInvocation).run []).run 5 =
      ((.ok ⟨[]⟩, [1]), 6) ∧
    ((addingRegistry.execute (customRequest .vulkan) regionInvocation).run []).run 5 =
      ((.ok ⟨[]⟩, [0]), 15) := by
  refine ⟨fun preferredBackend => ?_, rfl, rfl⟩
  exact (registries_dispatch ℕ).2 [addingOperator .cpu 10, addingOperator .hip 1]
    (customRequest preferredBackend) regionInvocation (by decide)

end SharedOperators

end RiftGPU
