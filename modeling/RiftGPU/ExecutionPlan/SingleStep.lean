import Mathlib.Algebra.Order.Field.Rat
import Mathlib.Algebra.Order.Monoid.Unbundled.WithTop
import Mathlib.Algebra.Order.Ring.WithTop
import RiftGPU.Core.Routing
import RiftGPU.ExecutionPlan.ProbeOrder
import RiftGPU.Word.Float64Value

/-!
# The planner and the router on one request

For a chain of one request the planner selects a candidate of least operator cost. The router
selects a candidate of least measured time, or of least rank when nothing is measured. On the exact
values of the measured times the two agree whenever all candidates are measured or none is.

## Main definitions

* `ExactCost`, `exactCost`: the value of a float, where a float that is not finite has none.
* `PerformanceTable.exact`: a table of measured times by their values.
* `UniqueFastest`: the only candidate of least measured time.

## Main results

* `CostAwarePlanner.plan_singleton`: the plan for one request.
* `CostAwarePlanner.plan_agrees_with_select`: the planner and the router.
-/

namespace RiftGPU

/-! ### The plan for one request -/

namespace CostAwarePlanner

section

variable {T : Type} [LinearOrder T] [Zero T] [CostTest T] [Add T] [Mul T] [NatCast T]

/-- The plan of one step on a probe. -/
def singleStepPlan (planner : CostAwarePlanner T) (request : RouteRequest)
    (performance : PerformanceTable T) (probe : BackendProbe) : ExecutionPlan T where
  steps := [{
    request
    backend := probe.id
    operatorUs := planner.operatorCost probe request performance
    transitionUs := 0
    cumulativeUs := planner.operatorCost probe request performance }]
  estimatedTotalUs := planner.operatorCost probe request performance

/-- Without a candidate there is no plan. -/
theorem plan_singleton_of_eq_nil (planner : CostAwarePlanner T) {request : RouteRequest}
    {probes : List BackendProbe} (performance : PerformanceTable T)
    (h : candidates probes request = []) :
    planner.plan [request] probes performance = .error (.error (.noCompatibleBackend 0)) := by
  have hstep : [request].zipIdx.foldlM (planner.layerStep probes performance) [] =
      .error (.error (.noCompatibleBackend 0)) := by
    rw [List.zipIdx_singleton, List.foldlM_cons, layerStep, h]
    rfl
  rw [CostAwarePlanner.plan, if_neg (List.cons_ne_nil _ _), hstep]
  rfl

/-- **The plan for one request** is a step on a candidate of least operator cost. -/
theorem plan_singleton (planner : CostAwarePlanner T) {request : RouteRequest}
    {probes : List BackendProbe} (performance : PerformanceTable T)
    (hids : (probes.map BackendProbe.id).Nodup) (hne : candidates probes request ≠ []) :
    ∃ best ∈ candidates probes request,
      (∀ other ∈ candidates probes request, planner.operatorCost best request performance ≤
        planner.operatorCost other request performance) ∧
      planner.plan [request] probes performance =
        .ok (planner.singleStepPlan request performance best) := by
  -- the only layer holds the first states of the candidates
  obtain ⟨layer, hlayer⟩ := OrderedMap.exists_foldlM_insert_eq_ok BackendProbe.id
    (f := planner.candidateState performance request 0 []) (candidates probes request)
    (fun candidate _ => ⟨_, rfl⟩) (∅ : Layer T)
  have hentry := OrderedMap.getElem?_foldlM_insert (nodup_candidates hids request) hlayer
  have hstep : [request].zipIdx.foldlM (planner.layerStep probes performance) [] =
      .ok [layer] := by
    rw [List.zipIdx_singleton, List.foldlM_cons, layerStep,
      Except.rejectIf_of_not (by simpa using hne), Except.ok_bind, hlayer]
    rfl
  cases hfinal : bestFinal layer with
  | none =>
    obtain ⟨candidate, -, state, hstate⟩ := OrderedMap.exists_mem_of_foldlM_insert hne hlayer
    rw [bestFinal, List.argmin_eq_none] at hfinal
    have hmem : (candidate.id, state) ∈ layer.toList := OrderedMap.mem_toList_iff.2 hstate
    rw [hfinal] at hmem
    cases hmem
  | some final =>
    have hlookup : layer[final.1]? = some final.2 :=
      OrderedMap.mem_toList_iff.1 (List.argmin_mem hfinal)
    obtain ⟨best, hbest, hid, hstate⟩ | ⟨-, hempty⟩ := (hentry final.1 final.2).1 hlookup
    · refine ⟨best, hbest, fun other hother => ?_, ?_⟩
      · have hmem : (other.id, _) ∈ layer.toList :=
          OrderedMap.mem_toList_iff.2 ((hentry other.id _).2 (.inl ⟨other, hother, rfl, rfl⟩))
        have hle := List.le_of_mem_argmin hmem hfinal
        rwa [← Except.ok.inj hstate] at hle
      · rw [CostAwarePlanner.plan, if_neg (List.cons_ne_nil _ _), hstep, Except.ok_bind,
          List.getLast?_singleton, Fault.orPanic_some, Except.ok_bind, hfinal, Option.okOr_some,
          Except.ok_bind]
        have hwalk : reconstruct [layer] [request] 1 final.1 [] =
            .ok (planner.singleStepPlan request performance best).steps := by
          rw [reconstruct, Fault.index_of_getElem? (a := layer) rfl, Except.ok_bind, hlookup,
            Fault.orPanic_some, Except.ok_bind, Fault.index_of_getElem? (a := request) rfl,
            Except.ok_bind, ← Except.ok.inj hstate, ← hid]
          rfl
        rw [List.length_singleton, hwalk, Except.ok_bind, ← Except.ok.inj hstate]
        rfl
    · simp at hempty

end

end CostAwarePlanner

/-! ### Exact costs -/

/-- A rational cost, or the cost of a float that is not finite. -/
abbrev ExactCost := WithTop ℚ

instance : CostTest ExactCost where
  isFinite cost := decide (cost ≠ ⊤)
  geZero cost := decide (0 ≤ cost)
  ltZero cost := decide (cost < 0)

theorem ExactCost.isFinite_iff {cost : ExactCost} : CostTest.isFinite cost ↔ cost ≠ ⊤ :=
  decide_eq_true_iff

theorem ExactCost.geZero_iff {cost : ExactCost} : CostTest.geZero cost ↔ 0 ≤ cost :=
  decide_eq_true_iff

/-- The value of a float as a cost. -/
def exactCost (x : F64) : ExactCost := if x.isFinite then (x.toRat : ExactCost) else ⊤

/-- The record with the value of its time. -/
def PerformanceRecord.exact (record : PerformanceRecord F64) : PerformanceRecord ExactCost where
  backend := record.backend
  operation := record.operation
  dataType := record.dataType
  medianMicroseconds := exactCost record.medianMicroseconds
  samples := record.samples

/-- The table with the values of its times. -/
def PerformanceTable.exact (performance : PerformanceTable F64) : PerformanceTable ExactCost where
  records := performance.records.map PerformanceRecord.exact

/-- A finite float that is at least zero is a cost that passes the same test. -/
theorem valid_exactCost (x : F64) :
    (CostTest.isFinite (exactCost x) && CostTest.geZero (exactCost x)) =
      (x.isFinite && x.geZero) := by
  rw [exactCost]
  cases hfinite : x.isFinite with
  | false =>
    rw [if_neg Bool.false_ne_true, Bool.false_and]
    rfl
  | true =>
    have hcoe : (0 : ExactCost) ≤ (x.toRat : ExactCost) ↔ 0 ≤ x.toRat := by
      exact_mod_cast WithTop.coe_le_coe
    rw [if_pos rfl, Bool.true_and, Bool.eq_iff_iff, Bool.and_eq_true, ExactCost.isFinite_iff,
      ExactCost.geZero_iff, hcoe, ← F64.geZero_iff_toRat hfinite]
    exact and_iff_right (WithTop.coe_ne_top)

theorem exactCost_le_of_totalKey_le {x y : F64} (hx : x.isFinite && x.geZero)
    (hy : y.isFinite && y.geZero) (h : x.totalKey ≤ y.totalKey) : exactCost x ≤ exactCost y := by
  rw [Bool.and_eq_true] at hx hy
  rw [exactCost, exactCost, if_pos hx.1, if_pos hy.1]
  exact WithTop.coe_le_coe.2 (F64.toRat_le_of_totalKey_le hx.2 hy.2 h)

theorem PerformanceTable.medianUs_exact (performance : PerformanceTable F64) (backend : BackendId)
    (operation : OperationKind) (dataType : DataType) :
    performance.exact.medianUs backend operation dataType =
      (performance.medianUs backend operation dataType).map exactCost := by
  rw [medianUs, medianUs, exact, List.find?_map, Option.map_map, Option.map_map]
  rfl

/-- The valid measured times of the exact table are the values of those of the table. -/
theorem PerformanceTable.measuredUs_exact (performance : PerformanceTable F64)
    (request : RouteRequest) (backend : BackendId) :
    ((performance.exact.medianUs backend request.operation request.dataType).filter
      fun value => CostTest.isFinite value && CostTest.geZero value) =
      (performance.measuredUs request backend).map exactCost := by
  rw [medianUs_exact, measuredUs]
  cases performance.medianUs backend request.operation request.dataType with
  | none => rfl
  | some value =>
    rw [Option.map_some, Option.filter_some, Option.filter_some, valid_exactCost]
    split_ifs <;> rfl

theorem valid_of_measuredUs {performance : PerformanceTable F64} {request : RouteRequest}
    {id : BackendId} {value : F64} (h : performance.measuredUs request id = some value) :
    value.isFinite && value.geZero := by
  rw [PerformanceTable.measuredUs, Option.filter_eq_some_iff] at h
  exact h.2

/-- A positive penalty for each rank makes the cost strictly increasing in the rank. -/
theorem rank_le_of_penalty_le {unmeasured penalty : ExactCost} {r s : ℕ}
    (hunmeasured : unmeasured ≠ ⊤) (hpenalty : penalty ≠ ⊤) (hpos : 0 < penalty)
    (h : unmeasured + penalty * (r : ExactCost) ≤ unmeasured + penalty * (s : ExactCost)) :
    r ≤ s := by
  lift unmeasured to ℚ using hunmeasured
  lift penalty to ℚ using hpenalty
  have hle : unmeasured + penalty * (r : ℚ) ≤ unmeasured + penalty * (s : ℚ) := by
    exact_mod_cast h
  have hpos' : 0 < penalty := by exact_mod_cast hpos
  exact_mod_cast le_of_mul_le_mul_left (le_of_add_le_add_left hle) hpos'

/-! ### Agreement -/

/-- The two crates rank the kinds of backends alike. -/
theorem bootstrapRank_eq_rank (kind : BackendKind) : bootstrapRank kind = kind.rank := by
  cases kind <;> rfl

/-- The probe is the only candidate of least measured time. -/
def UniqueFastest (probes : List BackendProbe) (performance : PerformanceTable F64)
    (request : RouteRequest) (best : BackendProbe) : Prop :=
  best ∈ CostAwarePlanner.candidates probes request ∧
    ∀ other ∈ CostAwarePlanner.candidates probes request, other ≠ best → ∀ least value,
      performance.measuredUs request best.id = some least →
        performance.measuredUs request other.id = some value → exactCost least < exactCost value

/-- A candidate that takes no longer is the only fastest one. -/
theorem UniqueFastest.eq_of_le {probes : List BackendProbe} {performance : PerformanceTable F64}
    {request : RouteRequest} {best probe : BackendProbe} {least value : F64}
    (h : UniqueFastest probes performance request best)
    (hmem : probe ∈ CostAwarePlanner.candidates probes request)
    (hleast : performance.measuredUs request best.id = some least)
    (hvalue : performance.measuredUs request probe.id = some value)
    (hle : exactCost value ≤ exactCost least) : probe = best := by
  by_contra hne
  exact not_lt_of_ge hle (h.2 probe hmem hne least value hleast hvalue)

namespace CostAwarePlanner

/-- What a planner that was constructed has checked of its configuration. -/
theorem new_eq_ok_iff {T : Type} [CostTest T]
    {config : PlannerConfig T} {transitions : TransitionCostTable T}
    {planner : CostAwarePlanner T} :
    CostAwarePlanner.new config transitions = .ok planner ↔
      (∀ cost ∈ [config.unmeasuredOperatorUs, config.defaultTransitionUs,
        config.bootstrapRankPenaltyUs], CostTest.isFinite cost ∧ ¬CostTest.ltZero cost) ∧
      planner = { config, transitions } := by
  simp only [CostAwarePlanner.new, validateCost, Except.bind_eq_ok_iff, exists_const,
    Except.rejectIf_eq_ok_iff, Except.pure_eq_ok_iff, List.forall_mem_cons, not_or,
    Bool.not_eq_false]
  constructor
  · rintro ⟨hunmeasured, htransition, hpenalty, rfl⟩
    exact ⟨⟨hunmeasured, htransition, hpenalty, by simp⟩, rfl⟩
  · rintro ⟨⟨hunmeasured, htransition, hpenalty, -⟩, rfl⟩
    exact ⟨hunmeasured, htransition, hpenalty, rfl⟩

variable {planner : CostAwarePlanner ExactCost} {probes : List BackendProbe}
  {performance : PerformanceTable F64} {request : RouteRequest} {probe : BackendProbe}

/-- On exact values the operator cost is the valid measured time or the penalty of the rank. -/
theorem operatorCost_exact : planner.operatorCost probe request performance.exact =
    ((performance.measuredUs request probe.id).map exactCost).getD
      (planner.config.unmeasuredOperatorUs +
        planner.config.bootstrapRankPenaltyUs * (probe.kind.rank : ExactCost)) := by
  rw [operatorCost, PerformanceTable.measuredUs_exact, bootstrapRank_eq_rank]

theorem mem_candidates_iff_compatible : probe ∈ candidates probes request ↔
    probe ∈ probes ∧ FastestCompatible.compatible request probe := by
  rw [mem_candidates_iff, FastestCompatible.compatible, Bool.and_eq_true]

/-- When all candidates are measured, the planned and the selected one take the same time. -/
theorem measured_agree {planned selected : BackendProbe}
    (hplanned : planned ∈ candidates probes request)
    (hselected : selected ∈ candidates probes request)
    (hleast : ∀ other ∈ candidates probes request,
      planner.operatorCost planned request performance.exact ≤
        planner.operatorCost other request performance.exact)
    (hfastest : ∀ other ∈ candidates probes request, ∀ value,
      performance.measuredUs request other.id = some value →
        ∃ least, performance.measuredUs request selected.id = some least ∧
          least.totalKey ≤ value.totalKey)
    (hmeasured : ∀ other ∈ candidates probes request,
      performance.measuredUs request other.id ≠ none) :
    ∃ a b, performance.measuredUs request planned.id = some a ∧
      performance.measuredUs request selected.id = some b ∧ exactCost a = exactCost b := by
  obtain ⟨a, ha⟩ := Option.ne_none_iff_exists'.1 (hmeasured planned hplanned)
  obtain ⟨b, hb, hkey⟩ := hfastest planned hplanned a ha
  have hle := hleast selected hselected
  rw [operatorCost_exact, operatorCost_exact, ha, hb] at hle
  exact ⟨a, b, ha, hb, le_antisymm hle
    (exactCost_le_of_totalKey_le (valid_of_measuredUs hb) (valid_of_measuredUs ha) hkey)⟩

/-- When no candidate is measured and a rank costs something, the planned and the selected one have
the same rank. -/
theorem ranks_agree {planned selected : BackendProbe}
    (hvalid : ∀ cost ∈ [planner.config.unmeasuredOperatorUs, planner.config.defaultTransitionUs,
      planner.config.bootstrapRankPenaltyUs], CostTest.isFinite cost ∧ ¬CostTest.ltZero cost)
    (hplanned : planned ∈ candidates probes request)
    (hselected : selected ∈ candidates probes request)
    (hleast : ∀ other ∈ candidates probes request,
      planner.operatorCost planned request performance.exact ≤
        planner.operatorCost other request performance.exact)
    (hrank : selected.kind.rank ≤ planned.kind.rank)
    (hnone : ∀ other ∈ candidates probes request,
      performance.measuredUs request other.id = none)
    (hpenalty : 0 < planner.config.bootstrapRankPenaltyUs) :
    planned.kind.rank = selected.kind.rank := by
  have hle := hleast selected hselected
  rw [operatorCost_exact, operatorCost_exact, hnone planned hplanned,
    hnone selected hselected] at hle
  have hfinite : ∀ cost ∈ [planner.config.unmeasuredOperatorUs,
      planner.config.defaultTransitionUs, planner.config.bootstrapRankPenaltyUs], cost ≠ ⊤ :=
    fun cost hcost => ExactCost.isFinite_iff.1 (hvalid cost hcost).1
  exact le_antisymm
    (rank_le_of_penalty_le (hfinite _ (by simp)) (hfinite _ (by simp)) hpenalty hle) hrank

/-- Without a candidate, the router fails. -/
theorem exists_select_eq_error_of_eq_nil (hempty : candidates probes request = []) :
    ∃ error, FastestCompatible.select request probes performance = .error error := by
  cases hselect : FastestCompatible.select request probes performance with
  | error error => exact ⟨error, rfl⟩
  | ok id =>
    obtain ⟨probe, hprobe⟩ := FastestCompatible.exists_select_eq_ok_iff.1 ⟨id, hselect⟩
    have hmem := mem_candidates_iff_compatible.2 hprobe
    rw [hempty] at hmem
    cases hmem

/-- **The planner agrees with the router on one request.** They fail together. When all candidates
are measured, the two backends take the same time, and are the same if only one takes the least.
When none is measured and a rank costs something, the two backends have the same rank. -/
theorem plan_agrees_with_select (config : PlannerConfig ExactCost)
    (transitions : TransitionCostTable ExactCost) (planner : CostAwarePlanner ExactCost)
    (hplanner : CostAwarePlanner.new config transitions = .ok planner) (request : RouteRequest)
    (probes : List BackendProbe) (hids : (probes.map BackendProbe.id).Nodup)
    (performance : PerformanceTable F64) :
    ((∃ error, planner.plan [request] probes performance.exact = .error error) ↔
      ∃ error, FastestCompatible.select request probes performance = .error error) ∧
    ∀ plan selectedId, planner.plan [request] probes performance.exact = .ok plan →
      FastestCompatible.select request probes performance = .ok selectedId →
        ∃ planned ∈ candidates probes request, ∃ selected ∈ candidates probes request,
          plan.steps.map ExecutionStep.backend = [planned.id] ∧ selected.id = selectedId ∧
          ((∀ other ∈ candidates probes request,
              performance.measuredUs request other.id ≠ none) →
            (∃ a b, performance.measuredUs request planned.id = some a ∧
              performance.measuredUs request selected.id = some b ∧
                exactCost a = exactCost b) ∧
            ∀ best, UniqueFastest probes performance request best →
              planned = best ∧ selected = best) ∧
          ((∀ other ∈ candidates probes request,
              performance.measuredUs request other.id = none) →
            0 < config.bootstrapRankPenaltyUs → planned.kind.rank = selected.kind.rank) := by
  obtain ⟨hvalid, rfl⟩ := new_eq_ok_iff.1 hplanner
  by_cases hempty : candidates probes request = []
  · rw [plan_singleton_of_eq_nil _ _ hempty]
    exact ⟨iff_of_true ⟨_, rfl⟩ (exists_select_eq_error_of_eq_nil hempty), nofun⟩
  · obtain ⟨planned, hplanned, hleast, hplan⟩ :=
      plan_singleton ⟨config, transitions⟩ performance.exact hids hempty
    obtain ⟨id, hselect⟩ : ∃ id, FastestCompatible.select request probes performance = .ok id :=
      FastestCompatible.exists_select_eq_ok_iff.2
        ⟨planned, mem_candidates_iff_compatible.1 hplanned⟩
    rw [hplan, hselect]
    refine ⟨⟨nofun, nofun⟩, ?_⟩
    rintro plan selectedId ⟨⟩ ⟨⟩
    obtain ⟨selected, hselected, hid, hfastest, hrank⟩ :=
      FastestCompatible.exists_of_select hselect
    simp only [← mem_candidates_iff_compatible] at hselected hfastest hrank
    refine ⟨planned, hplanned, selected, hselected, rfl, hid, fun hmeasured => ?_,
      fun hnone hpenalty => ?_⟩
    · obtain ⟨a, b, ha, hb, hsame⟩ :=
        measured_agree hplanned hselected hleast hfastest hmeasured
      refine ⟨⟨a, b, ha, hb, hsame⟩, fun best hunique => ?_⟩
      obtain ⟨c, hc⟩ := Option.ne_none_iff_exists'.1 (hmeasured best hunique.1)
      have hle : exactCost a ≤ exactCost c := by
        have hcost := hleast best hunique.1
        rwa [operatorCost_exact, operatorCost_exact, ha, hc] at hcost
      exact ⟨hunique.eq_of_le hplanned hc ha hle,
        hunique.eq_of_le hselected hc hb (hsame.symm.trans_le hle)⟩
    · exact ranks_agree hvalid hplanned hselected hleast (hrank hnone planned hplanned) hnone
        hpenalty

/-- Two measured backends with the positive and the negative zero. -/
theorem plan_agrees_with_select_zeros :
    let capabilities : CapabilitySet := ⟨[.gemm], [.f32], true, true, true⟩
    let first : BackendProbe := ⟨⟨"a"⟩, .vulkan, "a", "test", true, 1#32, "ok", capabilities⟩
    let second : BackendProbe := ⟨⟨"b"⟩, .hip, "b", "test", true, 1#32, "ok", capabilities⟩
    let config : PlannerConfig ExactCost := ⟨1000, 50, 10⟩
    let planner : CostAwarePlanner ExactCost := ⟨config, ⟨∅⟩⟩
    ∃ plan,
      planner.plan [.new .gemm .f32] [first, second] Runtime.twoZeros.exact = .ok plan ∧
      FastestCompatible.select (.new .gemm .f32) [first, second] Runtime.twoZeros = .ok ⟨"b"⟩ ∧
      ∃ planned ∈ candidates [first, second] (.new .gemm .f32), ∃ a b,
        plan.steps.map ExecutionStep.backend = [planned.id] ∧
        Runtime.twoZeros.measuredUs (.new .gemm .f32) planned.id = some a ∧
        Runtime.twoZeros.measuredUs (.new .gemm .f32) ⟨"b"⟩ = some b ∧
        exactCost a = exactCost b := by
  intro capabilities first second config planner
  have hselect : FastestCompatible.select (.new .gemm .f32) [first, second]
      Runtime.twoZeros = .ok ⟨"b"⟩ := by
    decide +kernel
  have hnew : CostAwarePlanner.new config ⟨∅⟩ = .ok planner :=
    new_eq_ok_iff.2 ⟨by decide +kernel, rfl⟩
  obtain ⟨hfail, hagree⟩ := plan_agrees_with_select config ⟨∅⟩ planner hnew (.new .gemm .f32)
    [first, second] (by decide) Runtime.twoZeros
  cases hplan : planner.plan [.new .gemm .f32] [first, second] Runtime.twoZeros.exact with
  | error error =>
    obtain ⟨_, herror⟩ := hfail.1 ⟨error, hplan⟩
    rw [hselect] at herror
    cases herror
  | ok plan =>
    obtain ⟨planned, hplanned, selected, -, hbackend, hid, hmeasured, -⟩ :=
      hagree plan _ hplan hselect
    obtain ⟨⟨a, b, ha, hb, hsame⟩, -⟩ := hmeasured (by decide)
    exact ⟨plan, rfl, hselect, planned, hplanned, a, b, hbackend, ha, hid ▸ hb, hsame⟩

end CostAwarePlanner

end RiftGPU
