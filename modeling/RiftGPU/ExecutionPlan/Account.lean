import RiftGPU.ExecutionPlan.Planner
import RiftGPU.Lru.OrderedMap

/-!
# A plan is a faithful account of itself

Every state of a layer stores what it costs after the state that it points to in the previous
layer. Walking back from a final state therefore meets a state at every pointer, and the steps that
are collected add up to the total of the plan. Several probes may have the same name: a layer then
keeps the state of the last of them, which is the state of one of them.

## Main definitions

* `CostAwarePlanner.IsAccount`: steps for the requests whose costs add up.
* `CostAwarePlanner.FirstUnsupported`: the least request that no available probe supports.
* `CostAwarePlanner.ChainedLayers`: layers whose states are accounted for by the layer before.

## Main results

* `CostAwarePlanner.layers_or_reject`: the layers after the planning loop.
* `CostAwarePlanner.reconstruct_account`: the walk back from a state.
* `CostAwarePlanner.plan_account`: the result of the planner.
-/

namespace RiftGPU

namespace CostAwarePlanner

variable {T : Type} [Zero T] [CostTest T] [Add T] [Mul T] [NatCast T]
variable (planner : CostAwarePlanner T) (probes : List BackendProbe)
  (performance : PerformanceTable T)

/-! ### Accounts -/

/-- The backend of the step is the name of an available probe that supports its request, and the
step costs what that probe costs. -/
def AllowedStep (step : ExecutionStep T) : Prop :=
  ∃ probe ∈ probes, probe.available ∧ probe.capabilities.supports step.request ∧
    probe.id = step.backend ∧
    step.operatorUs = planner.operatorCost probe step.request performance

/-- The costs of a step that comes after another. -/
structure StepAfter (earlier step : ExecutionStep T) : Prop where
  transitionUs : step.transitionUs = planner.transitionCost earlier.backend step.backend
  cumulativeUs : step.cumulativeUs = earlier.cumulativeUs + step.transitionUs + step.operatorUs

/-- One allowed step for each request, in order, where the first switches for free and every other
one comes after its predecessor. -/
structure IsAccount (requests : List RouteRequest) (steps : List (ExecutionStep T)) : Prop where
  requests_eq : steps.map ExecutionStep.request = requests
  allowed : ∀ step ∈ steps, planner.AllowedStep probes performance step
  first : ∀ step, steps[0]? = some step →
    step.transitionUs = 0 ∧ step.cumulativeUs = step.operatorUs
  next : ∀ i earlier step, steps[i]? = some earlier → steps[i + 1]? = some step →
    planner.StepAfter earlier step

/-- Some available probe supports the request. -/
def Supported (request : RouteRequest) : Prop :=
  ∃ probe ∈ probes, probe.available ∧ probe.capabilities.supports request

/-- The request at the index is not supported, but every earlier one is. -/
def FirstUnsupported (requests : List RouteRequest) (index : ℕ) : Prop :=
  (∃ request, requests[index]? = some request ∧ ¬Supported probes request) ∧
    ∀ i < index, ∀ request, requests[i]? = some request → Supported probes request

variable {planner probes performance}
variable {requests : List RouteRequest} {request : RouteRequest} {index : ℕ}
  {steps : List (ExecutionStep T)} {step : ExecutionStep T}

theorem IsAccount.nil : planner.IsAccount probes performance [] [] where
  requests_eq := rfl
  allowed := by simp
  first := by simp
  next := by simp

/-- An account with one more step. -/
theorem IsAccount.append (h : planner.IsAccount probes performance requests steps)
    (hallowed : planner.AllowedStep probes performance step)
    (hfirst : steps = [] → step.transitionUs = 0 ∧ step.cumulativeUs = step.operatorUs)
    (hnext : ∀ earlier, steps.getLast? = some earlier → planner.StepAfter earlier step) :
    planner.IsAccount probes performance (requests ++ [step.request]) (steps ++ [step]) where
  requests_eq := by rw [List.map_append, h.requests_eq, List.map_singleton]
  allowed := by
    intro other hother
    rcases List.mem_append.1 hother with hother | hother
    · exact h.allowed other hother
    · rwa [List.mem_singleton.1 hother]
  first := by
    intro other hother
    cases hsteps : steps with
    | nil =>
      rw [hsteps, List.nil_append, List.getElem?_cons_zero] at hother
      exact Option.some.inj hother ▸ hfirst hsteps
    | cons front rest =>
      rw [hsteps, List.cons_append, List.getElem?_cons_zero] at hother
      exact h.first other (by rw [hsteps, List.getElem?_cons_zero, hother])
  next := by
    intro i earlier other hearlier hother
    rcases Nat.lt_trichotomy (i + 1) steps.length with hi | hi | hi
    · rw [List.getElem?_append_left hi] at hother
      rw [List.getElem?_append_left (Nat.lt_of_succ_lt hi)] at hearlier
      exact h.next i earlier other hearlier hother
    · rw [hi, List.getElem?_concat_length] at hother
      rw [List.getElem?_append_left (by omega)] at hearlier
      refine Option.some.inj hother ▸ hnext earlier ?_
      rw [List.getLast?_eq_getElem?, ← hearlier, ← hi, Nat.add_sub_cancel]
    · have hnone : (steps ++ [step])[i + 1]? = none := by
        rw [List.getElem?_eq_none_iff, List.length_append, List.length_singleton]
        omega
      rw [hnone] at hother
      cases hother

/-! ### Layers -/

variable (planner probes performance) in
/-- A state of the layer of a request is the state of a candidate with its name, after a state of
the previous layer if there is one. -/
structure StateAfter (previousLayer : Option (Layer T)) (request : RouteRequest) (id : BackendId)
    (state : State T) : Prop where
  candidate : ∃ probe ∈ candidates probes request, probe.id = id ∧
    state.operatorUs = planner.operatorCost probe request performance
  first : previousLayer = none →
    state.previous = none ∧ state.transitionUs = 0 ∧ state.totalUs = state.operatorUs
  next : ∀ layer, previousLayer = some layer → ∃ source previous,
    state.previous = some source ∧ layer[source]? = some previous ∧
      state.transitionUs = planner.transitionCost source id ∧
      state.totalUs = previous.totalUs + state.transitionUs + state.operatorUs

variable (planner probes performance) in
/-- The layers of some requests: none is empty, and every state is accounted for by the layer
before. -/
inductive ChainedLayers : List RouteRequest → List (Layer T) → Prop
  | nil : ChainedLayers [] []
  | append {requests : List RouteRequest} {layers : List (Layer T)} {request : RouteRequest}
      {layer : Layer T} (hlayers : ChainedLayers requests layers)
      (hne : ∃ (id : BackendId) (state : State T), layer[id]? = some state)
      (hstates : ∀ (id : BackendId) (state : State T), layer[id]? = some state →
        planner.StateAfter probes performance layers.getLast? request id state) :
      ChainedLayers (requests ++ [request]) (layers ++ [layer])

variable {layers layers' : List (Layer T)} {layer previousLayer : Layer T}
  {candidate : BackendProbe} {state : State T}

theorem ChainedLayers.length_eq (h : planner.ChainedLayers probes performance requests layers) :
    layers.length = requests.length := by
  induction h with
  | nil => rfl
  | append _ _ _ ih => rw [List.length_append, List.length_append, ih]; rfl

theorem ChainedLayers.exists_state
    (h : planner.ChainedLayers probes performance requests layers)
    (hlast : layers.getLast? = some layer) :
    ∃ (id : BackendId) (state : State T), layer[id]? = some state := by
  cases h with
  | nil => cases hlast
  | append _ hne _ =>
    rw [List.getLast?_concat] at hlast
    exact Option.some.inj hlast ▸ hne

variable [LinearOrder T]

omit [CostTest T] [Mul T] [NatCast T] in
/-- The best predecessor is an entry of the previous layer, with the cost of continuing it. -/
theorem bestPrevious_eq_some {target : BackendId} {operatorUs : T} {best : T × T × BackendId}
    (h : planner.bestPrevious previousLayer target operatorUs = some best) :
    ∃ previous, previousLayer[best.2.2]? = some previous ∧
      best.2.1 = planner.transitionCost best.2.2 target ∧
      best.1 = previous.totalUs + best.2.1 + operatorUs := by
  obtain ⟨previous, hprevious, rfl⟩ := List.mem_map.1 (List.argmin_mem h)
  exact ⟨previous.2, OrderedMap.mem_toList_iff.1 hprevious, rfl, rfl⟩

variable (planner) in
omit [CostTest T] [Mul T] [NatCast T] in
/-- There is a best predecessor in a layer that is not empty. -/
theorem exists_bestPrevious {id : BackendId} (h : previousLayer[id]? = some state)
    (target : BackendId) (operatorUs : T) :
    ∃ best, planner.bestPrevious previousLayer target operatorUs = some best := by
  rw [← Option.ne_none_iff_exists', Ne, bestPrevious, List.argmin_eq_none, List.map_eq_nil_iff]
  exact List.ne_nil_of_mem (a := (id, state)) (OrderedMap.mem_toList_iff.2 h)

/-- The state of a candidate is accounted for by the last layer. -/
theorem stateAfter_of_candidateState
    (h : planner.ChainedLayers probes performance requests layers)
    (hcandidate : candidate ∈ candidates probes request)
    (hstate : planner.candidateState performance request requests.length layers candidate =
      .ok state) :
    planner.StateAfter probes performance layers.getLast? request candidate.id state := by
  have hlength := h.length_eq
  rw [candidateState] at hstate
  split_ifs at hstate with hindex
  · rw [hindex, List.length_eq_zero_iff] at hlength
    rw [hlength, ← Except.ok.inj hstate]
    exact ⟨⟨candidate, hcandidate, rfl, rfl⟩, fun _ => ⟨rfl, rfl, rfl⟩, by simp⟩
  · cases hlast : layers.getLast? with
    | none =>
      rw [List.getLast?_eq_none_iff] at hlast
      rw [hlast, List.length_nil] at hlength
      exact absurd hlength.symm hindex
    | some previousLayer =>
      rw [hlast, Fault.orPanic_some, Except.ok_bind, Except.bind_eq_ok_iff] at hstate
      obtain ⟨best, hbest, hstate⟩ := hstate
      rw [Option.okOr_eq_ok_iff] at hbest
      rw [Except.pure_eq_ok_iff] at hstate
      obtain ⟨previous, hprevious, htransition, htotal⟩ := bestPrevious_eq_some hbest
      rw [← hstate]
      refine ⟨⟨candidate, hcandidate, rfl, rfl⟩, nofun, fun layer hlayer => ?_⟩
      obtain rfl := Option.some.inj hlayer
      exact ⟨best.2.2, previous, rfl, hprevious, htransition, htotal⟩

/-- Every candidate has a state. -/
theorem exists_candidateState (h : planner.ChainedLayers probes performance requests layers)
    (request : RouteRequest) (candidate : BackendProbe) :
    ∃ state, planner.candidateState performance request requests.length layers candidate =
      .ok state := by
  have hlength := h.length_eq
  rw [candidateState]
  split_ifs with hindex
  · exact ⟨_, rfl⟩
  · cases hlast : layers.getLast? with
    | none =>
      rw [List.getLast?_eq_none_iff] at hlast
      rw [hlast, List.length_nil] at hlength
      exact absurd hlength.symm hindex
    | some previousLayer =>
      obtain ⟨id, previous, hprevious⟩ := h.exists_state hlast
      obtain ⟨best, hbest⟩ := exists_bestPrevious planner hprevious candidate.id
        (planner.operatorCost candidate request performance)
      rw [Fault.orPanic_some, Except.ok_bind, hbest, Option.okOr_some, Except.ok_bind]
      exact ⟨_, rfl⟩

/-- **One iteration of the planning loop** chains one more layer, unless the request has no
candidate. -/
theorem layerStep_chained (h : planner.ChainedLayers probes performance requests layers)
    (hcandidates : candidates probes request ≠ []) :
    ∃ layers', planner.layerStep probes performance layers (request, requests.length) =
      .ok layers' ∧
        planner.ChainedLayers probes performance (requests ++ [request]) layers' := by
  obtain ⟨layer, hlayer⟩ := OrderedMap.exists_foldlM_insert_eq_ok BackendProbe.id
    (candidates probes request)
    (fun candidate _ => exists_candidateState h request candidate) (∅ : Layer T)
  refine ⟨layers ++ [layer], ?_, h.append ?_ fun id state hstate => ?_⟩
  · rw [layerStep, Except.rejectIf_of_not (by simpa using hcandidates), Except.ok_bind, hlayer]
    rfl
  · obtain ⟨candidate, -, state, hstate⟩ :=
      OrderedMap.exists_mem_of_foldlM_insert hcandidates hlayer
    exact ⟨candidate.id, state, hstate⟩
  · obtain ⟨candidate, hmem, rfl, hcandidate⟩ | hempty :=
      OrderedMap.exists_of_getElem?_foldlM_insert hlayer hstate
    · exact stateAfter_of_candidateState h hmem hcandidate
    · simp at hempty

theorem supported_iff : Supported probes request ↔ candidates probes request ≠ [] := by
  rw [Ne, List.eq_nil_iff_forall_not_mem, not_forall_not]
  exact exists_congr fun probe => mem_candidates_iff.symm

/-- There is only one first request that is not supported. -/
theorem FirstUnsupported.unique {index' : ℕ} (h : FirstUnsupported probes requests index)
    (h' : FirstUnsupported probes requests index') : index = index' := by
  obtain ⟨⟨request, hrequest, hunsupported⟩, hleast⟩ := h
  obtain ⟨⟨request', hrequest', hunsupported'⟩, hleast'⟩ := h'
  rcases Nat.lt_trichotomy index index' with hlt | heq | hlt
  · exact absurd (hleast' index hlt request hrequest) hunsupported
  · exact heq
  · exact absurd (hleast index' hlt request' hrequest') hunsupported'

variable (planner probes performance) in
/-- **The layers after the planning loop**, or the first request that is not supported. -/
theorem layers_or_reject (requests : List RouteRequest) :
    (∃ layers, requests.zipIdx.foldlM (planner.layerStep probes performance) [] = .ok layers ∧
      planner.ChainedLayers probes performance requests layers ∧
        ∀ request ∈ requests, Supported probes request) ∨
    ∃ index, FirstUnsupported probes requests index ∧
      requests.zipIdx.foldlM (planner.layerStep probes performance) [] =
        .error (.error (.noCompatibleBackend index)) := by
  induction requests using List.reverseRecOn with
  | nil => exact .inl ⟨[], rfl, .nil, nofun⟩
  | append_singleton requests request ih =>
    rw [List.zipIdx_append, List.foldlM_append]
    rcases ih with ⟨layers, hlayers, hchained, hall⟩ | ⟨index, hfirst, herror⟩
    · rw [hlayers, Except.ok_bind, List.zipIdx_singleton, List.foldlM_cons, Nat.zero_add]
      by_cases hsupported : Supported probes request
      · obtain ⟨layers', hstep, hchained'⟩ := layerStep_chained hchained
          (supported_iff.1 hsupported)
        rw [hstep]
        refine .inl ⟨layers', rfl, hchained', fun other hother => ?_⟩
        rcases List.mem_append.1 hother with hother | hother
        · exact hall other hother
        · rwa [List.mem_singleton.1 hother]
      · have hempty : candidates probes request = [] := by
          rwa [supported_iff, not_not] at hsupported
        refine .inr ⟨requests.length, ⟨⟨request, by simp, hsupported⟩, ?_⟩, ?_⟩
        · intro i hi other hother
          rw [List.getElem?_append_left hi] at hother
          exact hall other (List.mem_of_getElem? hother)
        · rw [layerStep, hempty]
          rfl
    · rw [herror]
      obtain ⟨⟨other, hother, hunsupported⟩, hleast⟩ := hfirst
      have hindex : index < requests.length := (List.getElem?_eq_some_iff.1 hother).1
      refine .inr ⟨index, ⟨⟨other, ?_, hunsupported⟩, fun i hi other hother => ?_⟩, rfl⟩
      · rw [List.getElem?_append_left hindex, hother]
      · rw [List.getElem?_append_left (hi.trans hindex)] at hother
        exact hleast i hi other hother

/-! ### The walk back -/

omit [LinearOrder T] in
/-- **The walk back** from a state of the last layer collects an account that ends with the backend
and the total of the state. The layers and requests behind are not looked at. -/
theorem reconstruct_account (h : planner.ChainedLayers probes performance requests layers)
    {current : BackendId} (hlast : layers.getLast? = some layer)
    (hstate : layer[current]? = some state) (laterLayers : List (Layer T))
    (laterRequests : List RouteRequest) (reversed : List (ExecutionStep T)) :
    ∃ steps last, reconstruct (layers ++ laterLayers) (requests ++ laterRequests) layers.length
        current reversed = .ok (reversed ++ steps.reverse) ∧
      planner.IsAccount probes performance requests steps ∧ steps.getLast? = some last ∧
        last.backend = current ∧ last.cumulativeUs = state.totalUs := by
  induction h generalizing layer current state laterLayers laterRequests reversed with
  | nil => cases hlast
  | @append requests layers request layer' hlayers _ hstates ih =>
    obtain rfl : layer' = layer := by simpa using hlast
    have hafter := hstates current state hstate
    obtain ⟨probe, hprobe, hid, hoperator⟩ := hafter.candidate
    obtain ⟨hmem, havailable, hsupports⟩ := mem_candidates_iff.1 hprobe
    -- the step for the last request
    let step : ExecutionStep T := {
      request
      backend := current
      operatorUs := state.operatorUs
      transitionUs := state.transitionUs
      cumulativeUs := state.totalUs }
    have hallowed : planner.AllowedStep probes performance step :=
      ⟨probe, hmem, havailable, hsupports, hid, hoperator⟩
    have hlayer : (layers ++ [layer'] ++ laterLayers)[layers.length]? = some layer' := by simp
    have hrequest : (requests ++ [request] ++ laterRequests)[layers.length]? = some request := by
      simp [hlayers.length_eq]
    rw [List.length_append, List.length_singleton, reconstruct, Fault.index_of_getElem? hlayer,
      Except.ok_bind, hstate, Fault.orPanic_some, Except.ok_bind,
      Fault.index_of_getElem? hrequest, Except.ok_bind]
    cases hprevious : layers.getLast? with
    | none =>
      obtain ⟨hnone, hfree, htotal⟩ := hafter.first hprevious
      rw [List.getLast?_eq_none_iff] at hprevious
      obtain rfl : requests = [] := by
        rw [← List.length_eq_zero_iff, ← hlayers.length_eq, hprevious, List.length_nil]
      refine ⟨[step], step, ?_, ?_, rfl, rfl, rfl⟩
      · rw [hnone]
        rfl
      · exact IsAccount.nil.append hallowed (fun _ => ⟨hfree, htotal⟩) (by simp)
    | some previousLayer =>
      obtain ⟨source, previous, hsource, hentry, htransition, htotal⟩ :=
        hafter.next previousLayer hprevious
      obtain ⟨steps, last, hsteps, haccount, hsome, hbackend, hcumulative⟩ := ih hprevious hentry
        ([layer'] ++ laterLayers) ([request] ++ laterRequests) (reversed ++ [step])
      refine ⟨steps ++ [step], step, ?_, ?_, by simp, rfl, rfl⟩
      · rw [hsource, List.append_assoc, List.append_assoc]
        refine hsteps.trans ?_
        rw [List.reverse_append, List.reverse_singleton, List.append_assoc]
      · refine haccount.append hallowed ?_ fun earlier hearlier => ?_
        · rintro rfl
          cases hsome
        · obtain rfl := Option.some.inj (hsome.symm.trans hearlier)
          constructor
          · rw [hbackend]
            exact htransition
          · rw [hcumulative]
            exact htotal

/-! ### Plans -/

/-- The total of a plan: the cumulative cost of its last step, or zero. -/
def lastCumulativeUs (steps : List (ExecutionStep T)) : T :=
  (steps.getLast?.map ExecutionStep.cumulativeUs).getD 0

/-- The result of the planner, by whether all requests are supported. -/
theorem plan_or_reject (planner : CostAwarePlanner T) (requests : List RouteRequest)
    (probes : List BackendProbe) (performance : PerformanceTable T) :
    (∃ plan, planner.plan requests probes performance = .ok plan ∧
      (∀ request ∈ requests, Supported probes request) ∧
        planner.IsAccount probes performance requests plan.steps ∧
          plan.estimatedTotalUs = lastCumulativeUs plan.steps) ∨
    ∃ index, FirstUnsupported probes requests index ∧
      planner.plan requests probes performance =
        .error (.error (.noCompatibleBackend index)) := by
  rw [CostAwarePlanner.plan]
  split_ifs with hrequests
  · subst hrequests
    exact .inl ⟨_, rfl, nofun, .nil, rfl⟩
  · rcases layers_or_reject planner probes performance requests with
      ⟨layers, hlayers, hchained, hall⟩ | ⟨index, hfirst, herror⟩
    · rw [hlayers, Except.ok_bind]
      cases hlast : layers.getLast? with
      | none =>
        have hlength := hchained.length_eq
        rw [List.getLast?_eq_none_iff] at hlast
        rw [hlast, List.length_nil, eq_comm, List.length_eq_zero_iff] at hlength
        exact absurd hlength hrequests
      | some layer =>
        obtain ⟨id, state, hstate⟩ := hchained.exists_state hlast
        cases hfinal : bestFinal layer with
        | none =>
          rw [bestFinal, List.argmin_eq_none] at hfinal
          have hmem : (id, state) ∈ layer.toList := OrderedMap.mem_toList_iff.2 hstate
          rw [hfinal] at hmem
          cases hmem
        | some final =>
          have hentry : layer[final.1]? = some final.2 :=
            OrderedMap.mem_toList_iff.1 (List.argmin_mem hfinal)
          obtain ⟨steps, last, hsteps, haccount, hsome, -, hcumulative⟩ :=
            reconstruct_account hchained hlast hentry [] [] []
          rw [List.append_nil, List.append_nil, List.nil_append, hchained.length_eq] at hsteps
          rw [Fault.orPanic_some, Except.ok_bind, hfinal, Option.okOr_some, Except.ok_bind, hsteps,
            Except.ok_bind, List.reverse_reverse]
          refine .inl ⟨_, rfl, hall, haccount, ?_⟩
          rw [lastCumulativeUs, hsome, Option.map_some, Option.getD_some, hcumulative]
    · rw [herror]
      exact .inr ⟨index, hfirst, rfl⟩

/-- **A returned plan is a faithful account of itself.** The planner fails with the first request
that no available probe supports, and otherwise returns a plan with one step for each request whose
costs add up to its total. It never panics. -/
theorem plan_account (planner : CostAwarePlanner T) (requests : List RouteRequest)
    (probes : List BackendProbe) (performance : PerformanceTable T) :
    (∀ index, planner.plan requests probes performance =
        .error (.error (.noCompatibleBackend index)) ↔ FirstUnsupported probes requests index) ∧
    ((¬∃ index, FirstUnsupported probes requests index) →
      ∃ plan, planner.plan requests probes performance = .ok plan ∧
        plan.steps.length = requests.length ∧
          planner.IsAccount probes performance requests plan.steps ∧
            plan.estimatedTotalUs = lastCumulativeUs plan.steps) ∧
    ∀ message, planner.plan requests probes performance ≠ .error (.panic message) := by
  obtain ⟨plan, hplan, hall, haccount, htotal⟩ | ⟨index, hfirst, hplan⟩ :=
    plan_or_reject planner requests probes performance
  · rw [hplan]
    refine ⟨fun index => ⟨nofun, fun hfirst => ?_⟩, fun _ => ⟨plan, rfl, ?_, haccount, htotal⟩,
      nofun⟩
    · obtain ⟨⟨request, hrequest, hunsupported⟩, -⟩ := hfirst
      exact absurd (hall request (List.mem_of_getElem? hrequest)) hunsupported
    · rw [← haccount.requests_eq, List.length_map]
  · rw [hplan]
    refine ⟨fun other => ⟨?_, fun hother => ?_⟩, fun hnone => absurd ⟨index, hfirst⟩ hnone, ?_⟩
    · rintro ⟨rfl⟩
      exact hfirst
    · rw [hfirst.unique hother]
    · rintro message ⟨⟩

/-- Two probes of one name, the first of which is slower by kind: the plan accounts for one of
them. -/
theorem plan_account_twins :
    letI : CostTest ℕ := ⟨fun _ => true, fun _ => true, fun _ => false⟩
    let capabilities : CapabilitySet := ⟨[.gemm, .attention], [.f32], true, true, true⟩
    let probes : List BackendProbe :=
      [⟨⟨"gpu"⟩, .vulkan, "gpu", "test", true, 1#32, "ok", capabilities⟩,
        ⟨⟨"gpu"⟩, .hip, "gpu", "test", true, 1#32, "ok", capabilities⟩]
    let performance : PerformanceTable ℕ := ⟨[⟨⟨"gpu"⟩, .gemm, .f32, 20, 20#32⟩]⟩
    let planner : CostAwarePlanner ℕ := ⟨⟨1000, 50, 10⟩, ⟨∅⟩⟩
    let requests : List RouteRequest := [.new .gemm .f32, .new .attention .f32]
    ∃ plan, planner.plan requests probes performance = .ok plan ∧
      plan.steps.length = requests.length ∧
        planner.IsAccount probes performance requests plan.steps ∧
          plan.estimatedTotalUs = lastCumulativeUs plan.steps := by
  intro capabilities probes performance planner requests
  let _ : CostTest ℕ := ⟨fun _ => true, fun _ => true, fun _ => false⟩
  refine (plan_account planner requests probes performance).2.1 ?_
  rintro ⟨index, ⟨request, hrequest, hunsupported⟩, -⟩
  have hmem := List.mem_of_getElem? hrequest
  rw [List.mem_cons, List.mem_singleton] at hmem
  rcases hmem with rfl | rfl
  · exact hunsupported (supported_iff.2 (by decide))
  · exact hunsupported (supported_iff.2 (by decide))

end CostAwarePlanner

end RiftGPU
