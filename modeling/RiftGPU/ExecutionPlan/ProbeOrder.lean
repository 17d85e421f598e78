import Mathlib.Data.List.Nodup
import RiftGPU.ExecutionPlan.Account

/-!
# Plans do not depend on the order of the probes

The planner looks at the probes only through the candidates for each request, and the layer that it
builds from candidates with distinct names is the same for every order of them. Hence two lists of
probes with the same candidates give the same plan, with all ties broken in the same way, or the
same error.

## Main results

* `CostAwarePlanner.layerStep_congr`: one iteration of the planning loop on two lists of probes.
* `CostAwarePlanner.plan_congr`: the planner on two lists of probes.
-/

namespace RiftGPU

namespace CostAwarePlanner

variable {T : Type} [LinearOrder T] [Zero T] [CostTest T] [Add T] [Mul T] [NatCast T]
variable {planner : CostAwarePlanner T} {probes probes' : List BackendProbe}
  {performance : PerformanceTable T} {requests : List RouteRequest} {request : RouteRequest}
  {layers : List (Layer T)}

/-- The same available probes support the request. -/
def SameCandidates (probes probes' : List BackendProbe) (request : RouteRequest) : Prop :=
  ∀ probe, probe ∈ candidates probes request ↔ probe ∈ candidates probes' request

omit [LinearOrder T] [Zero T] [CostTest T] [Add T] [Mul T] [NatCast T] in
/-- Candidates have distinct names when the probes do. -/
theorem nodup_candidates (hids : (probes.map BackendProbe.id).Nodup) (request : RouteRequest) :
    ((candidates probes request).map BackendProbe.id).Nodup :=
  hids.sublist (List.filter_sublist.map _)

/-- **One iteration of the planning loop** depends on the set of candidates only. -/
theorem layerStep_congr (h : planner.ChainedLayers probes performance requests layers)
    (hids : (probes.map BackendProbe.id).Nodup) (hids' : (probes'.map BackendProbe.id).Nodup)
    (hsame : SameCandidates probes probes' request) :
    planner.layerStep probes performance layers (request, requests.length) =
      planner.layerStep probes' performance layers (request, requests.length) := by
  have hempty : (candidates probes request).isEmpty = (candidates probes' request).isEmpty := by
    rw [Bool.eq_iff_iff, List.isEmpty_iff, List.isEmpty_iff, List.eq_nil_iff_forall_not_mem,
      List.eq_nil_iff_forall_not_mem]
    exact forall_congr' fun probe => not_congr (hsame probe)
  have hlayer := OrderedMap.foldlM_insert_congr (nodup_candidates hids request)
    (nodup_candidates hids' request) hsame
    (fun candidate _ => exists_candidateState h request candidate) (∅ : Layer T)
  rw [layerStep, layerStep]
  simp only [hempty]
  rw [hlayer]

/-- The planning loop depends on the sets of candidates only. -/
theorem layers_congr (hids : (probes.map BackendProbe.id).Nodup)
    (hids' : (probes'.map BackendProbe.id).Nodup)
    (hsame : ∀ request ∈ requests, SameCandidates probes probes' request) :
    requests.zipIdx.foldlM (planner.layerStep probes performance) [] =
      requests.zipIdx.foldlM (planner.layerStep probes' performance) [] := by
  induction requests using List.reverseRecOn with
  | nil => rfl
  | append_singleton requests request ih =>
    rw [List.zipIdx_append, List.foldlM_append, List.foldlM_append,
      ← ih fun other hother => hsame other (List.mem_append_left _ hother)]
    rcases layers_or_reject planner probes performance requests with
      ⟨layers, hlayers, hchained, -⟩ | ⟨index, -, herror⟩
    · rw [hlayers, Except.ok_bind, Except.ok_bind, List.zipIdx_singleton, List.foldlM_cons,
        List.foldlM_cons, Nat.zero_add,
        layerStep_congr hchained hids hids' (hsame request (by simp))]
      rfl
    · rw [herror]
      rfl

/-- **Plans do not depend on the order of the probes** or on probes that are of no use: two lists
of probes with distinct names that contain the same available probes which support some of the
requests give the same result. -/
theorem plan_congr (planner : CostAwarePlanner T) (requests : List RouteRequest)
    (performance : PerformanceTable T) (probes probes' : List BackendProbe)
    (hids : (probes.map BackendProbe.id).Nodup) (hids' : (probes'.map BackendProbe.id).Nodup)
    (hsame : ∀ probe : BackendProbe, probe.available →
      (∃ request ∈ requests, probe.capabilities.supports request) →
        (probe ∈ probes ↔ probe ∈ probes')) :
    planner.plan requests probes performance = planner.plan requests probes' performance := by
  have hcandidates : ∀ request ∈ requests, SameCandidates probes probes' request := by
    intro request hrequest probe
    rw [mem_candidates_iff, mem_candidates_iff]
    refine and_congr_left fun ⟨havailable, hsupports⟩ => ?_
    exact hsame probe havailable ⟨request, hrequest, hsupports⟩
  rw [CostAwarePlanner.plan, CostAwarePlanner.plan, layers_congr hids hids' hcandidates]

/-- Two probes in either order, with and without an unavailable one. -/
theorem plan_congr_swapped :
    let _ : CostTest ℕ := ⟨fun _ => true, fun _ => true, fun _ => false⟩
    let capabilities : CapabilitySet := ⟨[.gemm], [.f32], true, true, true⟩
    let first : BackendProbe := ⟨⟨"a"⟩, .hip, "a", "test", true, 1#32, "ok", capabilities⟩
    let second : BackendProbe := ⟨⟨"b"⟩, .hip, "b", "test", true, 1#32, "ok", capabilities⟩
    let absent : BackendProbe := ⟨⟨"c"⟩, .cpu, "c", "test", false, 0#32, "off", capabilities⟩
    let planner : CostAwarePlanner ℕ := ⟨⟨1000, 50, 10⟩, ⟨∅⟩⟩
    planner.plan [.new .gemm .f32] [first, second] ⟨[]⟩ =
      planner.plan [.new .gemm .f32] [absent, second, first] ⟨[]⟩ := by
  intro _ capabilities first second absent planner
  refine plan_congr planner _ _ _ _ (by decide) (by decide) fun probe havailable _ => ?_
  have habsent : probe ≠ absent := by
    rintro rfl
    cases havailable
  simp only [List.mem_cons, List.not_mem_nil, or_false, habsent, false_or]
  exact or_comm

end CostAwarePlanner

end RiftGPU
