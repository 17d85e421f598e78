import Mathlib.Algebra.Order.Group.Nat
import Mathlib.Data.List.Induction
import Mathlib.Data.List.Nodup
import RiftGPU.ExecutionPlan.Planner
import RiftGPU.Layered.ShortestPath
import RiftGPU.Lru.OrderedMap

/-!
# The planner is optimal

The layers of the planner are the tables of a dynamic program over the walks that visit, for each
request in order, a backend that may run it. The total of a plan is therefore the least cost of
all assignments of backends to requests, although each layer keeps only one predecessor of each
backend.

## Main definitions

* `CostAwarePlanner.IsAssignment`: an available supporting backend for every request.
* `CostAwarePlanner.assignmentCost`: the cost of an assignment, added up from the first request.
* `CostAwarePlanner.LayerSpec`: a layer is a table of the walks up to its request.

## Main results

* `CostAwarePlanner.layerStep_spec`, `CostAwarePlanner.layers_spec`: every layer is such a table.
* `CostAwarePlanner.plan_total_isLeast`: the total of a plan is the least cost of an assignment.
-/

namespace RiftGPU

namespace CostAwarePlanner

variable {T : Type} [LinearOrder T] [Zero T] [CostTest T] [Add T] [Mul T] [NatCast T]
variable (planner : CostAwarePlanner T) (probes : List BackendProbe)
  (performance : PerformanceTable T)

/-! ### Assignments -/

/-- Every request is given some available probe whose capabilities support it. -/
structure IsAssignment (requests : List RouteRequest)
    (assignment : List (RouteRequest × BackendProbe)) : Prop where
  requests_eq : assignment.map Prod.fst = requests
  allowed : ∀ step ∈ assignment,
    step.2 ∈ probes ∧ step.2.available ∧ step.2.capabilities.supports step.1

/-- One more step: the switch from the previous backend, and then the operator. -/
def costStep (total : T × BackendProbe) (step : RouteRequest × BackendProbe) : T × BackendProbe :=
  (total.1 + planner.transitionCost total.2.id step.2.id +
    planner.operatorCost step.2 step.1 performance, step.2)

/-- The cost of an assignment: the operator of the first request, then for each later request the
switch and the operator, added from the left. -/
def assignmentCost : List (RouteRequest × BackendProbe) → T
  | [] => 0
  | first :: rest => (rest.foldl (planner.costStep performance)
      (planner.operatorCost first.2 first.1 performance, first.2)).1

/-! ### Assignments as walks -/

/-- The candidates for a request and their operator costs. -/
def stage (request : RouteRequest) : Layered.Stage BackendProbe T where
  nodes := { probe | probe ∈ candidates probes request }
  cost probe := planner.operatorCost probe request performance

/-- The stages of a chain of requests, the latest first. -/
def stages (requests : List RouteRequest) : List (Layered.Stage BackendProbe T) :=
  (requests.map (planner.stage probes performance)).reverse

/-- The cost of switching between two backends. -/
def edge (source target : BackendProbe) : T := planner.transitionCost source.id target.id

variable {planner probes performance}
variable {requests : List RouteRequest} {request : RouteRequest} {probe : BackendProbe} {c : T}

omit [LinearOrder T] [Zero T] in
theorem stages_append : planner.stages probes performance (requests ++ [request]) =
    planner.stage probes performance request :: planner.stages probes performance requests := by
  simp [stages]

omit [LinearOrder T] [Zero T] in
theorem stages_ne_nil (h : requests ≠ []) : planner.stages probes performance requests ≠ [] := by
  simpa [stages] using h

omit [LinearOrder T] in
/-- The second component of the fold is the backend of the last step. -/
theorem foldl_costStep_snd (rest : List (RouteRequest × BackendProbe)) (total : T × BackendProbe) :
    (rest.foldl (planner.costStep performance) total).2 =
      (rest.getLast?.map Prod.snd).getD total.2 := by
  cases rest using List.reverseRecOn with
  | nil => rfl
  | append_singleton rest step => simp [List.foldl_append, costStep]

omit [LinearOrder T] in
theorem assignmentCost_append {assignment : List (RouteRequest × BackendProbe)}
    {last step : RouteRequest × BackendProbe} (hlast : assignment.getLast? = some last) :
    planner.assignmentCost performance (assignment ++ [step]) =
      planner.assignmentCost performance assignment + planner.edge last.2 step.2 +
        planner.operatorCost step.2 step.1 performance := by
  cases assignment with
  | nil => cases hlast
  | cons first rest =>
    rw [List.cons_append, assignmentCost, List.foldl_append, List.foldl_cons, List.foldl_nil,
      costStep, foldl_costStep_snd]
    rw [List.getLast?_cons, Option.some.injEq] at hlast
    rw [← hlast, assignmentCost, edge]
    cases rest.getLast? <;> rfl

omit [LinearOrder T] in
/-- The costs of the walks to a backend are those of the assignments that end with it. -/
theorem reaches_iff : Layered.Reaches planner.edge (planner.stages probes performance requests)
    probe c ↔ ∃ assignment last, IsAssignment probes requests assignment ∧
      assignment.getLast? = some last ∧ last.2 = probe ∧
      planner.assignmentCost performance assignment = c := by
  induction requests using List.reverseRecOn generalizing probe c with
  | nil =>
    simp only [stages, List.map_nil, List.reverse_nil, Layered.not_reaches_nil, false_iff]
    rintro ⟨assignment, last, hassignment, hlast, -⟩
    rw [List.map_eq_nil_iff.1 hassignment.requests_eq] at hlast
    cases hlast
  | append_singleton requests request ih =>
    rw [stages_append, Layered.reaches_cons_iff]
    constructor
    · rintro ⟨hmem, ⟨hnil, rfl⟩ | ⟨previous, c', hprev, rfl⟩⟩
      · have hrequests : requests = [] := by
          by_contra hne
          exact stages_ne_nil hne hnil
        refine ⟨[(request, probe)], (request, probe), ⟨by simp [hrequests], ?_⟩, rfl, rfl, rfl⟩
        simpa using mem_candidates_iff.1 hmem
      · obtain ⟨assignment, last, hassignment, hlast, rfl, rfl⟩ := ih.1 hprev
        refine ⟨assignment ++ [(request, probe)], (request, probe), ⟨?_, ?_⟩, by simp, rfl,
          assignmentCost_append hlast⟩
        · simp [hassignment.requests_eq]
        · intro step hstep
          rcases List.mem_append.1 hstep with hstep | hstep
          · exact hassignment.allowed step hstep
          · rw [List.mem_singleton.1 hstep]
            exact mem_candidates_iff.1 hmem
    · rintro ⟨assignment, last, hassignment, hlast, rfl, rfl⟩
      obtain ⟨earlier, rfl⟩ := List.getLast?_eq_some_iff.1 hlast
      obtain ⟨hearlier, rfl⟩ : earlier.map Prod.fst = requests ∧ last.1 = request := by
        simpa using hassignment.requests_eq
      have hallowed := hassignment.allowed last (by simp)
      have hrest : IsAssignment probes requests earlier :=
        ⟨hearlier, fun step hstep => hassignment.allowed step (List.mem_append_left _ hstep)⟩
      refine ⟨mem_candidates_iff.2 hallowed, ?_⟩
      cases hprevious : earlier.getLast? with
      | none =>
        rw [List.getLast?_eq_none_iff] at hprevious
        subst hprevious
        rw [List.map_nil] at hearlier
        exact .inl ⟨by simp [← hearlier, stages], rfl⟩
      | some previous =>
        exact .inr ⟨previous.2, _, ih.2 ⟨earlier, previous, hrest, hprevious, rfl, rfl⟩,
          assignmentCost_append hprevious⟩

/-! ### Layers as tables -/

/-- The entries of a layer: the probes whose backends it holds, with their totals. -/
def layerTable (probes : List BackendProbe) (layer : Layer T) : Set (BackendProbe × T) :=
  { e | e.1 ∈ probes ∧ ∃ state, layer[e.1.id]? = some state ∧ state.totalUs = e.2 }

variable (planner probes performance requests) in
/-- The layer is a table of the walks through the requests up to its own. -/
structure LayerSpec (layer : Layer T) : Prop where
  known : ∀ (id : BackendId) (state : State T), layer[id]? = some state →
    ∃ probe ∈ probes, probe.id = id
  isTable : Layered.IsTable planner.edge (planner.stages probes performance requests)
    (layerTable probes layer)

variable {layer previousLayer : Layer T} {layers layers' : List (Layer T)} {index : ℕ}
  {candidate : BackendProbe} {state : State T}

/-- The best predecessor gives the least total among all entries of the previous layer. -/
theorem bestPrevious_spec (h : planner.LayerSpec probes performance requests previousLayer)
    {operatorUs : T} {best : T × T × BackendId}
    (hbest : planner.bestPrevious previousLayer candidate.id operatorUs = some best) :
    IsLeast ((fun previous : BackendProbe × T =>
      previous.2 + planner.edge previous.1 candidate + operatorUs) ''
        layerTable probes previousLayer) best.1 := by
  constructor
  · obtain ⟨previous, hprevious, rfl⟩ := List.mem_map.1 (List.argmin_mem hbest)
    have hstate := OrderedMap.mem_toList_iff.1 hprevious
    obtain ⟨probe, hprobe, hid⟩ := h.known previous.1 previous.2 hstate
    refine ⟨(probe, previous.2.totalUs), ⟨hprobe, previous.2, by rw [hid]; exact hstate, rfl⟩, ?_⟩
    simp only [edge, hid]
  · rintro total ⟨⟨probe, b⟩, ⟨hprobe, previous, hprevious, rfl⟩, rfl⟩
    exact List.le_of_mem_argmin (List.mem_map.2
      ⟨(probe.id, previous), OrderedMap.mem_toList_iff.2 hprevious, rfl⟩) hbest

/-- A candidate for the first request costs its operator. -/
theorem candidateState_zero : planner.candidateState performance request 0 layers candidate =
    .ok { totalUs := planner.operatorCost candidate request performance
          operatorUs := planner.operatorCost candidate request performance
          transitionUs := 0
          previous := none } := rfl

/-- A candidate for a later request costs the least way to reach it. -/
theorem candidateState_spec (h : planner.LayerSpec probes performance requests previousLayer)
    (hlayers : layers.getLast? = some previousLayer) (hindex : index ≠ 0)
    (hstate : planner.candidateState performance request index layers candidate = .ok state) :
    IsLeast ((fun previous : BackendProbe × T =>
      previous.2 + planner.edge previous.1 candidate +
        planner.operatorCost candidate request performance) ''
          layerTable probes previousLayer) state.totalUs := by
  rw [candidateState, if_neg hindex, hlayers, Fault.orPanic_some, Except.ok_bind,
    Except.bind_eq_ok_iff] at hstate
  obtain ⟨best, hbest, hstate⟩ := hstate
  rw [Option.okOr_eq_ok_iff] at hbest
  rw [Except.pure_eq_ok_iff] at hstate
  rw [← hstate]
  exact bestPrevious_spec h hbest

/-- The layer of one more request holds the states of its candidates. -/
theorem layerStep_eq_ok (hids : (probes.map BackendProbe.id).Nodup)
    (h : planner.layerStep probes performance layers (request, index) = .ok layers') :
    ∃ layer : Layer T, layers' = layers ++ [layer] ∧
      (∀ candidate ∈ candidates probes request, ∃ state,
        planner.candidateState performance request index layers candidate = .ok state) ∧
      ∀ (id : BackendId) (state : State T), layer[id]? = some state ↔
        ∃ candidate ∈ candidates probes request, candidate.id = id ∧
          planner.candidateState performance request index layers candidate = .ok state := by
  rw [layerStep, Except.rejectIf_bind_eq_ok_iff, Except.bind_eq_ok_iff] at h
  obtain ⟨-, layer, hlayer, hlayers⟩ := h
  rw [Except.pure_eq_ok_iff] at hlayers
  have hnodup : ((candidates probes request).map BackendProbe.id).Nodup :=
    hids.sublist (List.filter_sublist.map _)
  refine ⟨layer, hlayers.symm, OrderedMap.exists_of_foldlM_insert hlayer, fun id state => ?_⟩
  rw [OrderedMap.getElem?_foldlM_insert hnodup hlayer id state]
  simp

/-- The identifier of a probe determines it. -/
theorem eq_of_id_eq (hids : (probes.map BackendProbe.id).Nodup) {p q : BackendProbe}
    (hp : p ∈ probes) (hq : q ∈ probes) (h : p.id = q.id) : p = q :=
  List.inj_on_of_nodup_map hids hp hq h

/-- **One iteration of the planning loop** extends the layers by a table for one more request. -/
theorem layerStep_spec [AddRightMono T] (hids : (probes.map BackendProbe.id).Nodup)
    (hprevious : requests ≠ [] → ∃ previousLayer, layers.getLast? = some previousLayer ∧
      planner.LayerSpec probes performance requests previousLayer)
    (h : planner.layerStep probes performance layers (request, requests.length) = .ok layers') :
    ∃ layer, layers' = layers ++ [layer] ∧
      planner.LayerSpec probes performance (requests ++ [request]) layer := by
  obtain ⟨layer, hlayers, hall, hlayer⟩ := layerStep_eq_ok hids h
  have hentry : ∀ e : BackendProbe × T, e ∈ layerTable probes layer ↔
      e.1 ∈ candidates probes request ∧ ∃ state, state.totalUs = e.2 ∧
        planner.candidateState performance request requests.length layers e.1 = .ok state := by
    intro e
    constructor
    · rintro ⟨hmem, state, hstate, htotal⟩
      obtain ⟨candidate, hcandidate, hid, hstate⟩ := (hlayer e.1.id state).1 hstate
      obtain rfl : candidate = e.1 :=
        eq_of_id_eq hids (mem_candidates_iff.1 hcandidate).1 hmem hid
      exact ⟨hcandidate, state, htotal, hstate⟩
    · rintro ⟨hcandidate, state, htotal, hstate⟩
      exact ⟨(mem_candidates_iff.1 hcandidate).1, state,
        (hlayer e.1.id state).2 ⟨e.1, hcandidate, rfl, hstate⟩, htotal⟩
  refine ⟨layer, hlayers, ?_, ?_⟩
  · intro id state hstate
    obtain ⟨candidate, hcandidate, hid, -⟩ := (hlayer id state).1 hstate
    exact ⟨candidate, (mem_candidates_iff.1 hcandidate).1, hid⟩
  · rw [stages_append]
    by_cases hrequests : requests = []
    · subst hrequests
      refine Layered.IsTable.single fun e => (hentry e).trans (and_congr_right fun _ => ?_)
      simp only [List.length_nil, candidateState_zero]
      constructor
      · rintro ⟨state, htotal, hstate⟩
        rw [← htotal, ← Except.ok.inj hstate]
        rfl
      · intro htotal
        exact ⟨_, htotal.symm, rfl⟩
    · obtain ⟨previousLayer, hlast, hspec⟩ := hprevious hrequests
      refine hspec.isTable.extend (stages_ne_nil hrequests) ?_ ?_
      · intro e he
        obtain ⟨hcandidate, state, htotal, hstate⟩ := (hentry e).1 he
        refine ⟨hcandidate, ?_⟩
        rw [← htotal]
        exact candidateState_spec hspec hlast (by simpa using hrequests) hstate
      · intro candidate hcandidate _
        obtain ⟨state, hstate⟩ := hall candidate hcandidate
        exact ⟨state.totalUs, (hentry _).2 ⟨hcandidate, state, rfl, hstate⟩⟩

/-- After the planning loop, the last layer is a table for all requests. -/
theorem layers_spec [AddRightMono T] (hids : (probes.map BackendProbe.id).Nodup)
    (h : requests.zipIdx.foldlM (planner.layerStep probes performance) [] = .ok layers) :
    layers.length = requests.length ∧ (requests ≠ [] → ∃ layer, layers.getLast? = some layer ∧
      planner.LayerSpec probes performance requests layer) := by
  induction requests using List.reverseRecOn generalizing layers with
  | nil =>
    obtain rfl : [] = layers := by simpa [pure, Except.pure] using h
    exact ⟨rfl, fun hne => absurd rfl hne⟩
  | append_singleton requests request ih =>
    rw [List.zipIdx_append, List.foldlM_append, Except.bind_eq_ok_iff] at h
    obtain ⟨earlier, hearlier, hstep⟩ := h
    obtain ⟨hlength, hlast⟩ := ih hearlier
    have hstep' : planner.layerStep probes performance earlier (request, requests.length) =
        .ok layers := by simpa using hstep
    obtain ⟨layer, rfl, hspec⟩ := layerStep_spec hids hlast hstep'
    exact ⟨by simp [hlength], fun _ => ⟨layer, by simp, hspec⟩⟩

/-- **The planner is optimal**: the total of a plan is the least cost of all assignments that give
each request an available probe whose capabilities support it. -/
theorem plan_total_isLeast [AddRightMono T] (planner : CostAwarePlanner T)
    (requests : List RouteRequest) (probes : List BackendProbe)
    (performance : PerformanceTable T) (plan : ExecutionPlan T) (hrequests : requests ≠ [])
    (hids : (probes.map BackendProbe.id).Nodup)
    (hplan : planner.plan requests probes performance = .ok plan) :
    IsLeast { c | ∃ assignment, IsAssignment probes requests assignment ∧
      planner.assignmentCost performance assignment = c } plan.estimatedTotalUs := by
  rw [CostAwarePlanner.plan, if_neg hrequests, Except.bind_eq_ok_iff] at hplan
  obtain ⟨layers, hlayers, hplan⟩ := hplan
  obtain ⟨-, hlast⟩ := layers_spec hids hlayers
  obtain ⟨layer, hlast, hspec⟩ := hlast hrequests
  rw [hlast, Fault.orPanic_some, Except.ok_bind, Except.bind_eq_ok_iff] at hplan
  obtain ⟨final, hfinal, hplan⟩ := hplan
  rw [Option.okOr_eq_ok_iff] at hfinal
  rw [Except.bind_eq_ok_iff] at hplan
  obtain ⟨reversed, -, hplan⟩ := hplan
  rw [Except.pure_eq_ok_iff] at hplan
  rw [← hplan]
  -- the final state is the least entry of the last table
  have hleast : IsLeast (Prod.snd '' layerTable probes layer) final.2.totalUs := by
    constructor
    · have hstate := OrderedMap.mem_toList_iff.1 (List.argmin_mem hfinal)
      obtain ⟨probe, hprobe, hid⟩ := hspec.known final.1 final.2 hstate
      exact ⟨(probe, final.2.totalUs), ⟨hprobe, final.2, by rw [hid]; exact hstate, rfl⟩, rfl⟩
    · rintro total ⟨⟨probe, b⟩, ⟨hprobe, state, hstate, rfl⟩, rfl⟩
      exact List.le_of_mem_argmin (a := (probe.id, state))
        (OrderedMap.mem_toList_iff.2 hstate) hfinal
  have hwalks := hspec.isTable.isLeast hleast
  have hcosts : { c | ∃ probe, Layered.Reaches planner.edge
      (planner.stages probes performance requests) probe c } =
      { c | ∃ assignment, IsAssignment probes requests assignment ∧
        planner.assignmentCost performance assignment = c } := by
    refine Set.ext fun c => ⟨?_, ?_⟩
    · rintro ⟨probe, hreaches⟩
      obtain ⟨assignment, -, hassignment, -, -, hcost⟩ := reaches_iff.1 hreaches
      exact ⟨assignment, hassignment, hcost⟩
    · rintro ⟨assignment, hassignment, hcost⟩
      have hne : assignment ≠ [] := by
        rintro rfl
        exact hrequests hassignment.requests_eq.symm
      exact ⟨(assignment.getLast hne).2, reaches_iff.2 ⟨assignment, assignment.getLast hne,
        hassignment, List.getLast?_eq_some_getLast hne, rfl, hcost⟩⟩
  rwa [hcosts] at hwalks

/-- Two backends where the faster first kernel is on the one that is slow for the second: the plan
stays on the other. -/
theorem plan_total_isLeast_two_kernels :
    letI : CostTest ℕ := ⟨fun _ => true, fun _ => true, fun _ => false⟩
    let capabilities : CapabilitySet := ⟨[.gemm, .attention], [.f32], true, true, true⟩
    let probes : List BackendProbe :=
      [⟨⟨"hip"⟩, .hip, "hip", "test", true, 1#32, "ok", capabilities⟩,
        ⟨⟨"vulkan"⟩, .vulkan, "vulkan", "test", true, 1#32, "ok", capabilities⟩]
    let performance : PerformanceTable ℕ := ⟨[⟨⟨"hip"⟩, .gemm, .f32, 10, 20#32⟩,
      ⟨⟨"vulkan"⟩, .gemm, .f32, 20, 20#32⟩, ⟨⟨"hip"⟩, .attention, .f32, 200, 20#32⟩,
      ⟨⟨"vulkan"⟩, .attention, .f32, 20, 20#32⟩]⟩
    let planner : CostAwarePlanner ℕ := ⟨⟨1000, 50, 10⟩,
      ⟨(∅ : Std.ExtTreeMap _ _ _).insert (⟨"hip"⟩, ⟨"vulkan"⟩) 100⟩⟩
    let requests : List RouteRequest := [.new .gemm .f32, .new .attention .f32]
    ∃ plan, planner.plan requests probes performance = .ok plan ∧ plan.estimatedTotalUs = 40 ∧
      IsLeast { c | ∃ assignment, IsAssignment probes requests assignment ∧
        planner.assignmentCost performance assignment = c } plan.estimatedTotalUs :=
  letI : CostTest ℕ := ⟨fun _ => true, fun _ => true, fun _ => false⟩
  ⟨_, rfl, rfl, plan_total_isLeast _ _ _ _ _ (by decide) (by decide) rfl⟩

end CostAwarePlanner

end RiftGPU
