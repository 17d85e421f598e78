import RiftGPU.Core.Backend
import RiftGPU.Lru.OrderedMap
import RiftGPU.Word.Float64

/-!
# Routing a request to a backend

A runtime keeps its backends in a registry and routes a request by a policy over their probes. The
default policy selects the fastest measured backend that is compatible with the request, or else
the first one by kind. This file models the registry, the default policy and the runtime of
`vrb-core`.

## Main definitions

* `FastestCompatible.select`: the default policy.
* `BackendRegistry`, `Runtime`, `RuntimeBuilder`.
* `Fastest`: what the selected probe is among the candidates.

## Main results

* `FastestCompatible.exists_of_select`: the selection among any candidates.
* `FastestCompatible.select_of_sorted`: the selection among candidates in the order of their names.
* `RuntimeBuilder.register_all`: the registry after registering backends with distinct names.
* `Runtime.route_correct`: routing is correct and does not depend on the order of registration.
-/

namespace RiftGPU

/-! ### The default policy -/

/-- The preference among backends that have not been measured. -/
def BackendKind.rank : BackendKind → ℕ
  | hip => 0
  | vulkan => 1
  | hybrid => 2
  | plugin => 3
  | cpu => 4

/-- The measured time of a backend for the request, when it is finite and not negative. -/
def PerformanceTable.measuredUs (performance : PerformanceTable F64) (request : RouteRequest)
    (backend : BackendId) : Option F64 :=
  (performance.medianUs backend request.operation request.dataType).filter fun value =>
    value.isFinite && value.geZero

namespace FastestCompatible

/-- A backend must be available and must support the request. -/
def compatible (request : RouteRequest) (probe : BackendProbe) : Bool :=
  probe.available && probe.capabilities.supports request

/-- The compatible backends that have been measured, with their times. -/
def measurements (request : RouteRequest) (compatible : List BackendProbe)
    (performance : PerformanceTable F64) : List (BackendProbe × F64) :=
  compatible.filterMap fun probe =>
    (performance.measuredUs request probe.id).map fun value => (probe, value)

/-- The fastest among the compatible backends that have been measured, or else the first of the
compatible ones by kind. -/
def select (request : RouteRequest) (candidates : List BackendProbe)
    (performance : PerformanceTable F64) : Except RuntimeError BackendId :=
  let compatible := candidates.filter (compatible request)
  if compatible.isEmpty then .error .noCompatibleBackend
  else
    match (measurements request compatible performance).argmin fun measured =>
        measured.2.totalKey with
    | some best => .ok best.1.id
    | none =>
      ((compatible.argmin fun probe => probe.kind.rank).map BackendProbe.id).okOr
        .noCompatibleBackend

end FastestCompatible

/-! ### The registry and the runtime -/

/-- The backends by their identifiers. -/
structure BackendRegistry where
  backends : Std.ExtTreeMap BackendId ComputeBackend := ∅

namespace BackendRegistry

/-- The registry with one more backend. Its identifier must be new. -/
def register (registry : BackendRegistry) (backend : ComputeBackend) :
    Except RuntimeError BackendRegistry := do
  Except.rejectIf (registry.backends.contains backend.id) (.duplicateBackend backend.id)
  return { backends := registry.backends.insert backend.id backend }

/-- The backend with an identifier. -/
def get (registry : BackendRegistry) (id : BackendId) : Option ComputeBackend :=
  registry.backends[id]?

/-- The probe of a backend, where a failed one becomes an unavailable backend without
capabilities. -/
def probeOf (backend : ComputeBackend) : BackendProbe :=
  match backend.probe with
  | .ok probe => probe
  | .error error =>
    { id := backend.id
      kind := backend.kind
      name := backend.id.value
      vendor := ""
      available := false
      deviceCount := 0#32
      detail := error.text
      capabilities := .none }

/-- The probes of the backends in the order of their names. -/
def probes (registry : BackendRegistry) : List BackendProbe :=
  registry.backends.toList.map fun entry => probeOf entry.2

end BackendRegistry

/-- A routing policy, by its selection. -/
abbrev RoutingPolicy :=
  RouteRequest → List BackendProbe → PerformanceTable F64 → Except RuntimeError BackendId

/-- A registry with a policy, and the measured times that the policy is given. -/
structure Runtime where
  registry : BackendRegistry
  policy : RoutingPolicy
  performance : PerformanceTable F64

namespace Runtime

/-- The probes of the registry. -/
def probes (runtime : Runtime) : List BackendProbe := runtime.registry.probes

/-- The backend that the policy selects for a request. -/
def route (runtime : Runtime) (request : RouteRequest) : Except RuntimeError BackendId :=
  runtime.policy request runtime.registry.probes runtime.performance

/-- The backend with an identifier. -/
def backend (runtime : Runtime) (id : BackendId) : Option ComputeBackend :=
  runtime.registry.get id

end Runtime

/-- The parts of a runtime to be, with their defaults. -/
structure RuntimeBuilder where
  registry : BackendRegistry := {}
  policy : RoutingPolicy := FastestCompatible.select
  performance : PerformanceTable F64 := ⟨[]⟩

namespace RuntimeBuilder

/-- The builder with one more backend. -/
def backend (builder : RuntimeBuilder) (backend : ComputeBackend) :
    Except RuntimeError RuntimeBuilder := do
  let registry ← builder.registry.register backend
  return { builder with registry }

/-- The builder with another policy. -/
def routingPolicy (builder : RuntimeBuilder) (policy : RoutingPolicy) : RuntimeBuilder :=
  { builder with policy }

/-- The builder with other measured times. -/
def performanceTable (builder : RuntimeBuilder) (performance : PerformanceTable F64) :
    RuntimeBuilder :=
  { builder with performance }

/-- The runtime of these parts. -/
def build (builder : RuntimeBuilder) : Runtime where
  registry := builder.registry
  policy := builder.policy
  performance := builder.performance

/-- The runtime with the default policy, where the backends are registered one after the other. -/
def buildWith (backends : List ComputeBackend) (performance : PerformanceTable F64) :
    Except RuntimeError Runtime := do
  let builder ← backends.foldlM RuntimeBuilder.backend {}
  return (builder.performanceTable performance).build

end RuntimeBuilder

/-! ### What is selected -/

/-- A lesser measure, or an equal one and a name that is not greater. -/
def Precedes {A : Type} [LT A] (a : A) (i : BackendId) (b : A) (j : BackendId) : Prop :=
  a < b ∨ a = b ∧ (compare i j).isLE

/-- The probe is the fastest measured candidate, or the first one by rank when none is measured,
where times are compared by a key and ties go to the least name. -/
structure Fastest (key : F64 → ℕ) (performance : PerformanceTable F64) (request : RouteRequest)
    (Candidate : BackendProbe → Prop) (best : BackendProbe) : Prop where
  candidate : Candidate best
  least_measured : ∀ other, Candidate other → ∀ value,
    performance.measuredUs request other.id = some value →
      ∃ least, performance.measuredUs request best.id = some least ∧
        Precedes (key least) best.id (key value) other.id
  least_rank : (∀ other, Candidate other → performance.measuredUs request other.id = none) →
    ∀ other, Candidate other → Precedes best.kind.rank best.id other.kind.rank other.id

/-- No candidate has a measured time that is less than that of the probe as a number. -/
def NumericallyLeast (performance : PerformanceTable F64) (request : RouteRequest)
    (Candidate : BackendProbe → Prop) (best : BackendProbe) : Prop :=
  ∀ other, Candidate other → ∀ value, performance.measuredUs request other.id = some value →
    ∃ least, performance.measuredUs request best.id = some least ∧
      least.numericKey ≤ value.numericKey

theorem geZero_of_measuredUs {performance : PerformanceTable F64} {request : RouteRequest}
    {id : BackendId} {value : F64} (h : performance.measuredUs request id = some value) :
    value.geZero := by
  rw [PerformanceTable.measuredUs, Option.filter_eq_some_iff, Bool.and_eq_true] at h
  exact h.2.2

theorem Fastest.numericallyLeast {performance : PerformanceTable F64} {request : RouteRequest}
    {Candidate : BackendProbe → Prop} {best : BackendProbe}
    (h : Fastest F64.totalKey performance request Candidate best) :
    NumericallyLeast performance request Candidate best := by
  intro other hother value hvalue
  obtain ⟨least, hleast, hprecedes⟩ := h.least_measured other hother value hvalue
  refine ⟨least, hleast, F64.numericKey_le_of_totalKey_le (geZero_of_measuredUs hleast)
    (geZero_of_measuredUs hvalue) ?_⟩
  exact hprecedes.elim le_of_lt fun htie => htie.1.le

theorem precedes_refl {A : Type} [LT A] (a : A) (i : BackendId) : Precedes a i a i :=
  .inr ⟨rfl, Std.ReflCmp.isLE_rfl⟩

/-- The first least element of a list that is sorted by name precedes the others. -/
theorem precedes_of_argmin {X A : Type} [LinearOrder A] (measure : X → A) (name : X → BackendId)
    {xs : List X} (hsorted : xs.Pairwise fun x y => compare (name x) (name y) = .lt) {best x : X}
    (hbest : xs.argmin measure = some best) (hx : x ∈ xs) :
    Precedes (measure best) (name best) (measure x) (name x) := by
  by_cases heq : x = best
  · exact heq ▸ precedes_refl _ _
  · rcases OrderedMap.argmin_of_pairwise hsorted hbest hx heq with hlt | ⟨htie, hname⟩
    · exact .inl hlt
    · exact .inr ⟨htie, by rw [hname]; rfl⟩

namespace FastestCompatible

variable {request : RouteRequest} {candidates : List BackendProbe}
  {performance : PerformanceTable F64}

theorem mem_measurements_iff {measured : BackendProbe × F64} :
    measured ∈ measurements request candidates performance ↔
      measured.1 ∈ candidates ∧ performance.measuredUs request measured.1.id = some measured.2 := by
  rw [measurements, List.mem_filterMap]
  constructor
  · rintro ⟨probe, hmem, hsome⟩
    obtain ⟨value, hvalue, rfl⟩ := Option.map_eq_some_iff.1 hsome
    exact ⟨hmem, hvalue⟩
  · rintro ⟨hmem, hvalue⟩
    exact ⟨measured.1, hmem, by rw [hvalue, Option.map_some]⟩

theorem pairwise_measurements
    (hsorted : candidates.Pairwise fun left right => compare left.id right.id = .lt) :
    (measurements request candidates performance).Pairwise fun left right =>
      compare left.1.id right.1.id = .lt := by
  refine hsorted.filterMap _ fun left right hlt left' hleft right' hright => ?_
  obtain ⟨_, -, rfl⟩ := Option.map_eq_some_iff.1 hleft
  obtain ⟨_, -, rfl⟩ := Option.map_eq_some_iff.1 hright
  exact hlt

/-- A selection succeeds when there is a compatible candidate. -/
theorem exists_select_eq_ok_iff :
    (∃ id, select request candidates performance = .ok id) ↔
      ∃ probe ∈ candidates, compatible request probe := by
  rw [select]
  split_ifs with hempty
  · rw [List.isEmpty_iff, List.filter_eq_nil_iff] at hempty
    constructor
    · rintro ⟨id, h⟩
      cases h
    · rintro ⟨probe, hmem, h⟩
      exact (hempty probe hmem h).elim
  · refine iff_of_true ?_ ?_
    · split
      · next best _ => exact ⟨best.1.id, rfl⟩
      · cases hleast : (candidates.filter (compatible request)).argmin fun probe =>
            probe.kind.rank with
        | none => exact absurd (List.isEmpty_iff.2 (List.argmin_eq_none.1 hleast)) hempty
        | some best => exact ⟨best.id, rfl⟩
    · rw [List.isEmpty_iff, List.filter_eq_nil_iff] at hempty
      push Not at hempty
      exact hempty

theorem mem_measurements {other : BackendProbe} {value : F64}
    (hother : other ∈ candidates ∧ compatible request other)
    (hvalue : performance.measuredUs request other.id = some value) :
    (other, value) ∈ measurements request (candidates.filter (compatible request)) performance :=
  mem_measurements_iff.2 ⟨List.mem_filter.2 hother, hvalue⟩

/-- The selected backend is the first one of least time among the measured candidates, or the first
one of least rank when none is measured. -/
theorem select_eq_ok_cases {id : BackendId}
    (h : select request candidates performance = .ok id) :
    (∃ best, (measurements request (candidates.filter (compatible request)) performance).argmin
        (fun measured => measured.2.totalKey) = some best ∧ best.1.id = id) ∨
    measurements request (candidates.filter (compatible request)) performance = [] ∧
      ∃ best, ((candidates.filter (compatible request)).argmin fun probe => probe.kind.rank) =
        some best ∧ best.id = id := by
  rw [select] at h
  split_ifs at h
  split at h
  · next best hbest => exact .inl ⟨best, hbest, Except.ok.inj h⟩
  · next hnone =>
    rw [List.argmin_eq_none] at hnone
    rw [Option.okOr_eq_ok_iff, Option.map_eq_some_iff] at h
    exact .inr ⟨hnone, h⟩

/-- The selected backend is compatible, no measured candidate takes less time, and when none is
measured no candidate has a lesser rank. -/
theorem exists_of_select {id : BackendId}
    (h : select request candidates performance = .ok id) :
    ∃ best, (best ∈ candidates ∧ compatible request best) ∧ best.id = id ∧
      (∀ other, other ∈ candidates ∧ compatible request other → ∀ value,
        performance.measuredUs request other.id = some value →
          ∃ least, performance.measuredUs request best.id = some least ∧
            least.totalKey ≤ value.totalKey) ∧
      ((∀ other, other ∈ candidates ∧ compatible request other →
        performance.measuredUs request other.id = none) →
          ∀ other, other ∈ candidates ∧ compatible request other →
            best.kind.rank ≤ other.kind.rank) := by
  obtain ⟨best, hbest, hid⟩ | ⟨hnone, best, hbest, hid⟩ := select_eq_ok_cases h
  · obtain ⟨hmem, hleast⟩ := mem_measurements_iff.1 (List.argmin_mem hbest)
    refine ⟨best.1, List.mem_filter.1 hmem, hid, fun other hother value hvalue => ?_,
      fun hnone => ?_⟩
    · have hmeasured := mem_measurements hother hvalue
      have hle := List.le_of_mem_argmin
        (f := fun measured : BackendProbe × F64 => measured.2.totalKey) hmeasured hbest
      exact ⟨best.2, hleast, hle⟩
    · rw [hnone best.1 (List.mem_filter.1 hmem)] at hleast
      cases hleast
  · refine ⟨best, List.mem_filter.1 (List.argmin_mem hbest), hid,
      fun other hother value hvalue => ?_, fun _ other hother => ?_⟩
    · have hmem := mem_measurements hother hvalue
      rw [hnone] at hmem
      cases hmem
    · exact List.le_of_mem_argmin (f := fun probe : BackendProbe => probe.kind.rank)
        (List.mem_filter.2 hother) hbest

/-- Among candidates in the order of their names, the selected one is the fastest. -/
theorem select_of_sorted {id : BackendId}
    (hsorted : candidates.Pairwise fun left right => compare left.id right.id = .lt)
    (h : select request candidates performance = .ok id) :
    ∃ best, best.id = id ∧ Fastest F64.totalKey performance request
      (fun probe => probe ∈ candidates ∧ compatible request probe) best := by
  have hcompatible := hsorted.filter (compatible request)
  obtain ⟨best, hbest, hid⟩ | ⟨hnone, best, hbest, hid⟩ := select_eq_ok_cases h
  · obtain ⟨hmem, hleast⟩ := mem_measurements_iff.1 (List.argmin_mem hbest)
    refine ⟨best.1, hid, List.mem_filter.1 hmem, fun other hother value hvalue => ?_,
      fun hnone => ?_⟩
    · exact ⟨best.2, hleast, precedes_of_argmin (x := (other, value))
        (fun measured : BackendProbe × F64 => measured.2.totalKey)
        (fun measured => measured.1.id) (pairwise_measurements hcompatible) hbest
        (mem_measurements hother hvalue)⟩
    · rw [hnone best.1 (List.mem_filter.1 hmem)] at hleast
      cases hleast
  · refine ⟨best, hid, List.mem_filter.1 (List.argmin_mem hbest),
      fun other hother value hvalue => ?_, fun _ other hother => ?_⟩
    · have hmem := mem_measurements hother hvalue
      rw [hnone] at hmem
      cases hmem
    · exact precedes_of_argmin (fun probe : BackendProbe => probe.kind.rank) BackendProbe.id
        hcompatible hbest (List.mem_filter.2 hother)

end FastestCompatible

/-! ### Registering backends -/

namespace BackendRegistry

variable {registry registry' : BackendRegistry} {backend : ComputeBackend}
  {backends : List ComputeBackend} {request : RouteRequest}

theorem ext_get (h : ∀ id, registry.get id = registry'.get id) : registry = registry' := by
  cases registry
  cases registry'
  exact congrArg mk (Std.ExtTreeMap.ext_getElem? h)

/-- A backend with a new name is registered under it. -/
theorem register_of_get_eq_none (h : registry.get backend.id = none) :
    registry.register backend =
      .ok { backends := registry.backends.insert backend.id backend } := by
  have hnot : ¬registry.backends.contains backend.id := by
    rw [← Std.ExtTreeMap.isSome_getElem?_eq_contains]
    simp only [get] at h
    simp [h]
  rw [register, Except.rejectIf_of_not hnot]
  rfl

/-- The registry holds these backends under their names. -/
def Holds (registry : BackendRegistry) (backends : List ComputeBackend) : Prop :=
  ∀ id backend, registry.get id = some backend ↔ backend ∈ backends ∧ backend.id = id

/-- A backend that probes as compatible did not fail to probe. -/
theorem probe_eq_of_compatible (h : FastestCompatible.compatible request (probeOf backend)) :
    backend.probe = .ok (probeOf backend) := by
  rw [probeOf] at h ⊢
  split at h
  · next probe heq => rw [heq]
  · cases h

theorem mem_probes_iff (hholds : registry.Holds backends) {probe : BackendProbe} :
    probe ∈ registry.probes ↔ ∃ backend ∈ backends, probeOf backend = probe := by
  rw [probes, List.mem_map]
  constructor
  · rintro ⟨entry, hentry, rfl⟩
    exact ⟨entry.2, ((hholds _ _).1 (OrderedMap.mem_toList_iff.1 hentry)).1, rfl⟩
  · rintro ⟨backend, hmem, rfl⟩
    exact ⟨(backend.id, backend), OrderedMap.mem_toList_iff.2 ((hholds _ _).2 ⟨hmem, rfl⟩), rfl⟩

/-- When every probe reports the name of its backend, the probes come in the order of names. -/
theorem pairwise_probes (hholds : registry.Holds backends)
    (hprobe : ∀ backend ∈ backends, (probeOf backend).id = backend.id) :
    registry.probes.Pairwise fun left right => compare left.id right.id = .lt := by
  rw [probes, List.pairwise_map]
  refine registry.backends.ordered_keys_toList.imp_of_mem fun {left right} hleft hright hlt => ?_
  obtain ⟨hleft, hleftId⟩ := (hholds _ _).1 (OrderedMap.mem_toList_iff.1 hleft)
  obtain ⟨hright, hrightId⟩ := (hholds _ _).1 (OrderedMap.mem_toList_iff.1 hright)
  rw [hprobe _ hleft, hprobe _ hright, hleftId, hrightId]
  exact hlt

end BackendRegistry

namespace RuntimeBuilder

variable {backends : List ComputeBackend}

/-- Backends with distinct, new names are registered under their names. -/
theorem register_all (builder : RuntimeBuilder)
    (hids : (backends.map ComputeBackend.id).Nodup)
    (hnew : ∀ backend ∈ backends, builder.registry.get backend.id = none) :
    ∃ registry, backends.foldlM RuntimeBuilder.backend builder = .ok { builder with registry } ∧
      ∀ id backend, registry.get id = some backend ↔
        (backend ∈ backends ∧ backend.id = id) ∨ builder.registry.get id = some backend := by
  induction backends generalizing builder with
  | nil => exact ⟨builder.registry, rfl, by simp⟩
  | cons first rest ih =>
    rw [List.map_cons, List.nodup_cons] at hids
    rw [List.forall_mem_cons] at hnew
    have hfirst : builder.backend first =
        .ok { builder with registry := ⟨builder.registry.backends.insert first.id first⟩ } := by
      rw [RuntimeBuilder.backend, BackendRegistry.register_of_get_eq_none hnew.1]
      rfl
    have hget : ∀ id, id ≠ first.id →
        BackendRegistry.get ⟨builder.registry.backends.insert first.id first⟩ id =
          builder.registry.get id := fun id hne => OrderedMap.getElem?_insert_of_ne hne
    have hne : ∀ backend ∈ rest, backend.id ≠ first.id := fun backend hmem heq =>
      hids.1 (heq ▸ List.mem_map_of_mem hmem)
    obtain ⟨registry, hrun, hregistry⟩ := ih
      { builder with registry := ⟨builder.registry.backends.insert first.id first⟩ } hids.2
      fun backend hmem => (hget _ (hne backend hmem)).trans (hnew.2 backend hmem)
    refine ⟨registry, by rw [List.foldlM_cons, hfirst]; exact hrun, fun id backend => ?_⟩
    rw [hregistry, List.mem_cons]
    by_cases hid : id = first.id
    · subst hid
      have hself : BackendRegistry.get ⟨builder.registry.backends.insert first.id first⟩ first.id =
          some first := Std.ExtTreeMap.getElem?_insert_self
      rw [hself, hnew.1, Option.some.injEq]
      constructor
      · rintro (⟨hmem, heq⟩ | rfl)
        · exact (hne backend hmem heq).elim
        · exact .inl ⟨.inl rfl, rfl⟩
      · rintro (⟨rfl | hmem, heq⟩ | hnone)
        · exact .inr rfl
        · exact (hne backend hmem heq).elim
        · cases hnone
    · rw [hget id hid]
      refine or_congr_left ⟨fun h => ⟨.inr h.1, h.2⟩, ?_⟩
      rintro ⟨rfl | hmem, heq⟩
      · exact (hid heq.symm).elim
      · exact ⟨hmem, heq⟩

/-- Backends with distinct names make a runtime that holds them. -/
theorem buildWith_eq (hids : (backends.map ComputeBackend.id).Nodup)
    (performance : PerformanceTable F64) :
    ∃ registry : BackendRegistry, registry.Holds backends ∧
      buildWith backends performance = .ok ⟨registry, FastestCompatible.select, performance⟩ := by
  obtain ⟨registry, hrun, hregistry⟩ := register_all {} hids fun _ _ => by
    simp [BackendRegistry.get]
  refine ⟨registry, fun id backend => ?_, by rw [buildWith, hrun]; rfl⟩
  rw [hregistry, or_iff_left]
  simp [BackendRegistry.get]

end RuntimeBuilder

namespace Runtime

/-- A successful probe of one of the backends that is available and supports the request. -/
def Compatible (backends : List ComputeBackend) (request : RouteRequest) (probe : BackendProbe) :
    Prop :=
  ∃ backend ∈ backends, backend.probe = .ok probe ∧ probe.available ∧
    probe.capabilities.supports request

theorem compatible_iff {backends : List ComputeBackend} {request : RouteRequest}
    {registry : BackendRegistry} (hholds : registry.Holds backends) {probe : BackendProbe} :
    Compatible backends request probe ↔
      probe ∈ registry.probes ∧ FastestCompatible.compatible request probe := by
  rw [BackendRegistry.mem_probes_iff hholds, Compatible]
  constructor
  · rintro ⟨backend, hmem, hprobe, havailable, hsupports⟩
    refine ⟨⟨backend, hmem, by rw [BackendRegistry.probeOf, hprobe]⟩, ?_⟩
    rw [FastestCompatible.compatible, havailable, hsupports, Bool.and_true]
  · rintro ⟨⟨backend, hmem, rfl⟩, hcompatible⟩
    refine ⟨backend, hmem, BackendRegistry.probe_eq_of_compatible hcompatible, ?_⟩
    rwa [FastestCompatible.compatible, Bool.and_eq_true] at hcompatible

theorem precedes_antisymm {A : Type} [Preorder A] {a b : A} {i j : BackendId}
    (h : Precedes a i b j) (h' : Precedes b j a i) : i = j := by
  rcases h with hlt | ⟨rfl, hle⟩
  · rcases h' with hlt' | ⟨rfl, -⟩
    · exact absurd hlt' hlt.not_gt
    · exact absurd hlt (lt_irrefl _)
  · rcases h' with hlt' | ⟨-, hle'⟩
    · exact absurd hlt' (lt_irrefl _)
    · exact Std.LawfulEqOrd.eq_of_compare (Std.OrientedCmp.isLE_antisymm hle hle')

/-- Without measurements, the first compatible backend by rank and name is selected. -/
theorem select_unmeasured_iff {backends : List ComputeBackend} {request : RouteRequest}
    {registry : BackendRegistry} (hholds : registry.Holds backends)
    (hprobe : ∀ backend ∈ backends, (BackendRegistry.probeOf backend).id = backend.id)
    {id : BackendId} :
    FastestCompatible.select request registry.probes ⟨[]⟩ = .ok id ↔
      ∃ best, Compatible backends request best ∧ best.id = id ∧
        ∀ other, Compatible backends request other →
          Precedes best.kind.rank best.id other.kind.rank other.id := by
  have hselect {id : BackendId}
      (h : FastestCompatible.select request registry.probes ⟨[]⟩ = .ok id) :
      ∃ best, Compatible backends request best ∧ best.id = id ∧
        ∀ other, Compatible backends request other →
          Precedes best.kind.rank best.id other.kind.rank other.id := by
    obtain ⟨best, hid, hbest⟩ :=
      FastestCompatible.select_of_sorted (BackendRegistry.pairwise_probes hholds hprobe) h
    exact ⟨best, (compatible_iff hholds).2 hbest.candidate, hid, fun other hother =>
      hbest.least_rank (fun _ _ => rfl) other ((compatible_iff hholds).1 hother)⟩
  refine ⟨hselect, fun ⟨best, hbest, hid, hleast⟩ => ?_⟩
  obtain ⟨id', h⟩ := FastestCompatible.exists_select_eq_ok_iff.2
    ⟨best, (compatible_iff hholds).1 hbest⟩
  obtain ⟨best', hbest', rfl, hleast'⟩ := hselect h
  rw [h, ← hid, precedes_antisymm (hleast best' hbest') (hleast' best hbest)]

/-- The routing of a request among backends with distinct names that probe under their own names:
it is the same for every order of registration, it succeeds when there is a compatible backend, and
it then names the fastest one, which the runtime holds. -/
theorem route_correct (backends : List ComputeBackend)
    (hids : (backends.map ComputeBackend.id).Nodup)
    (hprobe : ∀ backend ∈ backends, ∀ probe, backend.probe = .ok probe → probe.id = backend.id)
    (performance : PerformanceTable F64) (request : RouteRequest) :
    ∃ result : Except RuntimeError BackendId,
      (∀ order : List ComputeBackend, order.Perm backends →
        ∃ runtime, RuntimeBuilder.buildWith order performance = .ok runtime ∧
          runtime.route request = result ∧
            ∀ id, result = .ok id → (runtime.backend id).isSome) ∧
        ((∃ id, result = .ok id) ↔ ∃ probe, Compatible backends request probe) ∧
          ∀ id, result = .ok id → ∃ best, best.id = id ∧
            Fastest F64.totalKey performance request (Compatible backends request) best ∧
              NumericallyLeast performance request (Compatible backends request) best := by
  obtain ⟨registry, hholds, hbuild⟩ := RuntimeBuilder.buildWith_eq hids performance
  have hsorted := BackendRegistry.pairwise_probes hholds fun backend hmem => by
    rw [BackendRegistry.probeOf]
    split
    · next probe heq => exact hprobe backend hmem probe heq
    · rfl
  have hcandidate : (fun probe => probe ∈ registry.probes ∧
      FastestCompatible.compatible request probe) = Compatible backends request :=
    funext fun _ => propext (compatible_iff hholds).symm
  refine ⟨FastestCompatible.select request registry.probes performance, fun order horder => ?_, ?_,
    fun id hselect => ?_⟩
  · -- The registry holds the same backends for every order.
    obtain ⟨registry', hholds', hbuild'⟩ := RuntimeBuilder.buildWith_eq
      ((horder.map ComputeBackend.id).nodup_iff.2 hids) performance
    have hsame : registry' = registry := BackendRegistry.ext_get fun id => Option.ext fun backend =>
      by rw [hholds', hholds, horder.mem_iff]
    subst hsame
    refine ⟨_, hbuild', rfl, fun id hselect => ?_⟩
    obtain ⟨best, rfl, hbest⟩ := FastestCompatible.select_of_sorted hsorted hselect
    obtain ⟨backend, hmem, hok, -⟩ := (compatible_iff hholds).2 hbest.candidate
    rw [Option.isSome_iff_exists]
    exact ⟨backend, (hholds _ _).2 ⟨hmem, (hprobe backend hmem best hok).symm⟩⟩
  · rw [FastestCompatible.exists_select_eq_ok_iff]
    exact exists_congr fun probe => (compatible_iff hholds).symm
  · obtain ⟨best, hid, hbest⟩ := FastestCompatible.select_of_sorted hsorted hselect
    rw [hcandidate] at hbest
    exact ⟨best, hid, hbest, hbest.numericallyLeast⟩

/-! ### Two zeros -/

/-- A backend that supports plain matrix products and probes as available. -/
def sampleBackend (name : String) (kind : BackendKind) : ComputeBackend where
  id := ⟨name⟩
  kind := kind
  probe := .ok
    { id := ⟨name⟩
      kind := kind
      name := name
      vendor := "test"
      available := true
      deviceCount := 1#32
      detail := "ok"
      capabilities := { CapabilitySet.none with operations := [.gemm], dataTypes := [.f32] } }

/-- The first backend takes a positive zero and the second one a negative zero. -/
def twoZeros : PerformanceTable F64 where
  records :=
    [⟨⟨"a"⟩, .gemm, .f32, 0#64, 1#32⟩, ⟨⟨"b"⟩, .gemm, .f32, 0x8000000000000000#64, 1#32⟩]

theorem route_correct_two :
    ∃ result : Except RuntimeError BackendId,
      (∀ order : List ComputeBackend,
        order.Perm [sampleBackend "a" .hip, sampleBackend "b" .hip] →
          ∃ runtime, RuntimeBuilder.buildWith order twoZeros = .ok runtime ∧
            runtime.route (.new .gemm .f32) = result ∧
              ∀ id, result = .ok id → (runtime.backend id).isSome) ∧
        ((∃ id, result = .ok id) ↔ ∃ probe, Compatible
          [sampleBackend "a" .hip, sampleBackend "b" .hip] (.new .gemm .f32) probe) ∧
          ∀ id, result = .ok id → ∃ best, best.id = id ∧
            Fastest F64.totalKey twoZeros (.new .gemm .f32)
              (Compatible [sampleBackend "a" .hip, sampleBackend "b" .hip] (.new .gemm .f32))
              best ∧ NumericallyLeast twoZeros (.new .gemm .f32)
              (Compatible [sampleBackend "a" .hip, sampleBackend "b" .hip] (.new .gemm .f32))
              best := by
  refine route_correct _ (by decide) (fun backend hmem probe hprobe => ?_) twoZeros _
  rw [List.mem_cons, List.mem_singleton] at hmem
  rcases hmem with rfl | rfl <;> exact (Except.ok.inj hprobe) ▸ rfl

/-- The second backend is selected, although the comparison of floats finds its time equal to that
of the first one, which has the lesser name. -/
theorem route_twoZeros :
    (RuntimeBuilder.buildWith [sampleBackend "a" .hip, sampleBackend "b" .hip] twoZeros >>=
        fun runtime => runtime.route (.new .gemm .f32)) = .ok ⟨"b"⟩ ∧
      ∀ best, best.id = ⟨"b"⟩ → ¬Fastest F64.numericKey twoZeros (.new .gemm .f32)
        (Compatible [sampleBackend "a" .hip, sampleBackend "b" .hip] (.new .gemm .f32)) best := by
  refine ⟨by decide +kernel, fun best hid hfastest => ?_⟩
  obtain ⟨least, hleast, hprecedes⟩ := hfastest.least_measured
    (BackendRegistry.probeOf (sampleBackend "a" .hip))
    ⟨sampleBackend "a" .hip, List.mem_cons_self, rfl, by decide, by decide⟩ 0#64 (by decide)
  have hmeasured : twoZeros.measuredUs (.new .gemm .f32) ⟨"b"⟩ =
      some 0x8000000000000000#64 := by decide
  rw [hid, hmeasured, Option.some.injEq] at hleast
  subst hleast
  rw [hid, Precedes] at hprecedes
  exact absurd hprecedes (by decide)

end Runtime

end RiftGPU
