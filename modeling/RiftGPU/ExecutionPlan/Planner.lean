import Mathlib.Order.Defs.LinearOrder
import RiftGPU.Core.Backend

/-!
# The cost-aware planner

The planner assigns a backend to every request of a chain, so that the sum of the operator times
and of the times for switching backends is small. It builds one layer of states for each request,
with the best predecessor of every candidate, and then walks back from the best final state. This
file models `vrb-execution-plan`; times are of any type with the operations that the planner uses.
Its order is that of `total_cmp`, and the comparisons with zero are tests of their own: the negative
zero comes before the positive one and is not less than it.

## Main definitions

* `TransitionCostTable`, `PlannerConfig`, `CostAwarePlanner.new`.
* `CostAwarePlanner.operatorCost`, `CostAwarePlanner.transitionCost`.
* `CostAwarePlanner.candidateState`, `CostAwarePlanner.layerStep`: one candidate and one layer.
* `CostAwarePlanner.plan`.
-/

namespace RiftGPU

/-- The ways in which making a planner or planning can fail. -/
inductive ExecutionPlanError (T : Type) where
  | noCompatibleBackend (step : ℕ)
  | invalidCost (name : String) (value : T)
deriving DecidableEq

variable {T : Type} [CostTest T]

/-- A cost is finite and not negative. -/
def validateCost (name : String) (value : T) : Except (ExecutionPlanError T) Unit :=
  Except.rejectIf (CostTest.isFinite value = false ∨ CostTest.ltZero value)
    (.invalidCost name value)

/-- The times for switching from one backend to another. -/
structure TransitionCostTable (T : Type) where
  costsUs : Std.ExtTreeMap (BackendId × BackendId) T (compareLex (compareOn Prod.fst)
    (compareOn Prod.snd))

namespace TransitionCostTable

/-- The table with the time of a switch, which replaces the one before. -/
def record (table : TransitionCostTable T) (source target : BackendId) (microseconds : T) :
    Except (ExecutionPlanError T) (TransitionCostTable T) := do
  validateCost "transition" microseconds
  return { costsUs := table.costsUs.insert (source, target) microseconds }

/-- The time of a switch, when one is recorded. -/
def get (table : TransitionCostTable T) (source target : BackendId) : Option T :=
  table.costsUs[(source, target)]?

end TransitionCostTable

/-- The times of what has not been measured. -/
structure PlannerConfig (T : Type) where
  unmeasuredOperatorUs : T
  defaultTransitionUs : T
  bootstrapRankPenaltyUs : T

/-- One step of a plan: the request with its backend, its own times, and the time of the plan up to
its end. -/
structure ExecutionStep (T : Type) where
  request : RouteRequest
  backend : BackendId
  operatorUs : T
  transitionUs : T
  cumulativeUs : T

/-- The steps of a plan and the time of all of them. -/
structure ExecutionPlan (T : Type) where
  steps : List (ExecutionStep T)
  estimatedTotalUs : T

/-- A planner: its configuration and the times for switching. -/
structure CostAwarePlanner (T : Type) where
  config : PlannerConfig T
  transitions : TransitionCostTable T

/-- The best way found to run the chain up to one request on one backend. -/
structure State (T : Type) where
  totalUs : T
  operatorUs : T
  transitionUs : T
  previous : Option BackendId

/-- The states of one request, by backend. -/
abbrev Layer (T : Type) := Std.ExtTreeMap BackendId (State T)

/-- The preference among backends that have not been measured. -/
def bootstrapRank : BackendKind → ℕ
  | .hip => 0
  | .vulkan => 1
  | .hybrid => 2
  | .plugin => 3
  | .cpu => 4

namespace CostAwarePlanner

/-- A planner with a valid configuration. -/
def new (config : PlannerConfig T) (transitions : TransitionCostTable T) :
    Except (ExecutionPlanError T) (CostAwarePlanner T) := do
  validateCost "unmeasured operator" config.unmeasuredOperatorUs
  validateCost "default transition" config.defaultTransitionUs
  validateCost "bootstrap rank penalty" config.bootstrapRankPenaltyUs
  return { config, transitions }

variable [LinearOrder T] [Zero T] [Add T] [Mul T] [NatCast T]

/-- The measured time, when it is finite and not negative, or else a default by kind. -/
def operatorCost (planner : CostAwarePlanner T) (probe : BackendProbe) (request : RouteRequest)
    (performance : PerformanceTable T) : T :=
  ((performance.medianUs probe.id request.operation request.dataType).filter
      fun value => CostTest.isFinite value && CostTest.geZero value).getD
    (planner.config.unmeasuredOperatorUs +
      planner.config.bootstrapRankPenaltyUs * (bootstrapRank probe.kind : T))

omit [CostTest T] [Add T] [Mul T] [NatCast T] in
/-- The time for switching, which is zero between a backend and itself. -/
def transitionCost (planner : CostAwarePlanner T) (source target : BackendId) : T :=
  if source = target then 0
  else (planner.transitions.get source target).getD planner.config.defaultTransitionUs

/-- The cheapest way to continue a state of the previous layer on this backend, the first by
identifier: its total, the transition and the previous backend. -/
def bestPrevious (planner : CostAwarePlanner T) (previousLayer : Layer T) (target : BackendId)
    (operatorUs : T) : Option (T × T × BackendId) :=
  (previousLayer.toList.map fun previous =>
    let transitionUs := planner.transitionCost previous.1 target
    (previous.2.totalUs + transitionUs + operatorUs, transitionUs, previous.1)).argmin Prod.fst

/-- The state of one candidate for the request at `index`. -/
def candidateState (planner : CostAwarePlanner T) (performance : PerformanceTable T)
    (request : RouteRequest) (index : ℕ) (layers : List (Layer T)) (candidate : BackendProbe) :
    Except (Fault (ExecutionPlanError T)) (State T) :=
  let operatorUs := planner.operatorCost candidate request performance
  if index = 0 then
    .ok { totalUs := operatorUs, operatorUs, transitionUs := 0, previous := none }
  else do
    let previousLayer ← Fault.orPanic layers.getLast?
      "a previous planning layer exists for non-zero step"
    let best ← (planner.bestPrevious previousLayer candidate.id operatorUs).okOr
      (.error (.noCompatibleBackend index))
    return { totalUs := best.1, operatorUs, transitionUs := best.2.1, previous := some best.2.2 }

omit [LinearOrder T] [Zero T] [CostTest T] [Add T] [Mul T] [NatCast T] in
/-- The probes that may run the request. -/
def candidates (probes : List BackendProbe) (request : RouteRequest) : List BackendProbe :=
  probes.filter fun probe => probe.available && probe.capabilities.supports request

omit [LinearOrder T] [Zero T] [CostTest T] [Add T] [Mul T] [NatCast T] in
theorem mem_candidates_iff {probes : List BackendProbe} {request : RouteRequest}
    {probe : BackendProbe} : probe ∈ candidates probes request ↔
      probe ∈ probes ∧ probe.available ∧ probe.capabilities.supports request := by
  rw [candidates, List.mem_filter, Bool.and_eq_true]

/-- One iteration of the planning loop: the layers with that of one more request. -/
def layerStep (planner : CostAwarePlanner T) (probes : List BackendProbe)
    (performance : PerformanceTable T) (layers : List (Layer T)) (step : RouteRequest × ℕ) :
    Except (Fault (ExecutionPlanError T)) (List (Layer T)) := do
  let found := candidates probes step.1
  Except.rejectIf (found.isEmpty = true) (.error (.noCompatibleBackend step.2))
  let layer ← found.foldlM (fun layer candidate => do
    let state ← planner.candidateState performance step.1 step.2 layers candidate
    return layer.insert candidate.id state) ∅
  return layers ++ [layer]

/-- The walk back from a state of the last of the first `count` layers. Steps are collected in
reverse. -/
def reconstruct (layers : List (Layer T)) (requests : List RouteRequest) :
    ℕ → BackendId → List (ExecutionStep T) →
      Except (Fault (ExecutionPlanError T)) (List (ExecutionStep T))
  | 0, _, reversed => .ok reversed
  | index + 1, current, reversed => do
    let layer ← Fault.index layers index
    let state ← Fault.orPanic layer[current]?
      "reconstruction backend must exist in its planning layer"
    let request ← Fault.index requests index
    let reversed := reversed ++ [{
      request
      backend := current
      operatorUs := state.operatorUs
      transitionUs := state.transitionUs
      cumulativeUs := state.totalUs }]
    match state.previous with
    | none => return reversed
    | some previous => reconstruct layers requests index previous reversed

/-- The final state of least total, the first by identifier. -/
def bestFinal (layer : Layer T) : Option (BackendId × State T) :=
  layer.toList.argmin fun final => final.2.totalUs

/-- The assignment of least total, with its times. Ties go to the first backend by identifier. -/
def plan (planner : CostAwarePlanner T) (requests : List RouteRequest)
    (probes : List BackendProbe) (performance : PerformanceTable T) :
    Except (Fault (ExecutionPlanError T)) (ExecutionPlan T) :=
  if requests = [] then .ok { steps := [], estimatedTotalUs := 0 }
  else do
    let layers ← requests.zipIdx.foldlM (planner.layerStep probes performance) []
    let lastLayer ← Fault.orPanic layers.getLast?
      "non-empty requests produce at least one layer"
    let final ← (bestFinal lastLayer).okOr (.error (.noCompatibleBackend (requests.length - 1)))
    let reversed ← reconstruct layers requests requests.length final.1 []
    return { steps := reversed.reverse, estimatedTotalUs := final.2.totalUs }

end CostAwarePlanner

end RiftGPU
