import RiftGPU.Gemm.HipLifecycle
import RiftGPU.Lifetime.Simulation

/-!
# The plugin with objects refines the one without

The model with objects returns what `HipPlugin.execute` returns, changes the memory of the device
in the same way and makes the same calls of `rocblas_sgemm`, over any sequence of calls and
shutdowns. What is proved about `HipPlugin.execute` holds of it.

## Main definitions

* `HipPlugin.HostState`, `HipPlugin.PluginCall.applied`: calls of `HipPlugin.execute`, one after the
  other.
* `HipPlugin.Simulates`: the state of the plugin, seen by `HipPlugin.execute`.

## Main results

* `HipPlugin.serveAll_refines`: the refinement.
-/

namespace RiftGPU.HipPlugin

open Bytes PluginAbi SharedOperators Gemm Lifetime

variable {apis : RuntimeApis} {runtime : LoadedRuntime} {device : BitVec 32}

/-! ### The other model -/

/-- The functions of a library are found. -/
def Loading.hasHip (loading : Loading) : Bool :=
  loading.hipCandidates.any Prod.snd && hipSymbols.all loading.hipSymbol &&
    loading.init == hipSuccess

/-- Whether rocBLAS can be loaded with its functions. -/
def Loading.hasRocblas (loading : Loading) : Bool :=
  loading.rocblasCandidates.any Prod.snd && rocblasSymbols.all loading.rocblasSymbol

/-- How loading ends. -/
def Loading.outcome (loading : Loading) : Except (BitVec 32) Unit :=
  Except.rejectIf (!(loading.hasHip && loading.hasRocblas)) Status.unavailable

/-- The state of `HipPlugin.execute`, and whether the libraries are loaded. -/
structure HostState where
  loaded : Bool
  state : HipState

/-- The runtime that a call has. -/
def HostState.provided (host : HostState) (loading : Loading) (apis : RuntimeApis) :
    Except (BitVec 32) RuntimeApis :=
  if host.loaded then .ok apis else loading.outcome.map fun _ => apis

/-- A call, and what it returns. -/
def PluginCall.applied (host : HostState) : PluginCall → HostState × Option ExecuteReturn
  | .execute loading apis request =>
    let runtime := host.provided loading apis
    let (value, state) := (HipPlugin.execute runtime request).run host.state
    let loaded := host.loaded || ((admitted request).toBool && runtime.toBool)
    ({ loaded, state }, some value)
  | .shutdown _ => ({ loaded := false, state := { host.state with handles := [] } }, none)

/-- One more call, whose value is put behind those of the calls before it. -/
def PluginCall.appliedStep (served : HostState × List (Option ExecuteReturn)) (call : PluginCall) :
    HostState × List (Option ExecuteReturn) :=
  ((call.applied served.1).1, served.2 ++ [(call.applied served.1).2])

/-- A sequence of calls, with what they return. -/
def appliedAll (memory : DeviceMemory) (calls : List PluginCall) :
    HostState × List (Option ExecuteReturn) :=
  calls.foldl PluginCall.appliedStep
    ({ loaded := false, state := { handles := [], memory, calls := [] } }, [])

/-! ### Calls of rocBLAS -/

/-- The calls of `rocblas_sgemm` are observed. -/
def sgemmOf : ApiCall → Option SgemmCall
  | .sgemm call => some call
  | _ => none

/-- How the search for a handle ends, when the given one is known. -/
def handleOutcome (apis : RuntimeApis) (device : BitVec 32) (known : Option (BitVec 64)) :
    Except (BitVec 32) (BitVec 64) := do
  Except.rejectIf (apis.hip.setDevice device ≠ hipSuccess) Status.unavailable
  match known with
  | some handle => return handle
  | none =>
    Except.rejectIf (apis.rocblas.createHandle.1 ≠ rocblasStatusSuccess ∨
      apis.rocblas.createHandle.2 = 0#64) Status.unavailable
    return apis.rocblas.createHandle.2

/-- A multiplication, by its calls of `rocblas_sgemm`. -/
def multiplied (apis : RuntimeApis) (handle : BitVec 64) (prepared : PreparedGemm)
    (memory : DeviceMemory) : Traced SgemmCall (BitVec 32) Ended := do
  let a ← Traced.call (importRegion apis.hip prepared.a)
  let b ← Traced.call (importRegion apis.hip prepared.b)
  let c ← Traced.call (importRegion apis.hip prepared.c)
  let call := gemmCall prepared a b c
  Traced.record call
  let (status, memory) := apis.rocblas.sgemm handle call memory
  if status ≠ rocblasStatusSuccess then return (memory, .error Status.internalError)
  else return (memory,
    Except.rejectIf (apis.hip.deviceSynchronize ≠ hipSuccess) Status.internalError)

/-- What a function that may fail has ended with. -/
def settle (memory : DeviceMemory) : Except (BitVec 32) Ended → Ended
  | .error status => (memory, .error status)
  | .ok ended => ended

/-- Refinement, where the calls of `rocblas_sgemm` are observed. -/
abbrev Implements {ε α β : Type} (rel : α → β → Prop) (x : Run ApiCall PluginObject ε α)
    (y : Traced SgemmCall ε β) : Prop :=
  Refines sgemmOf rel x y

/-! ### Loading -/

/-- Two checks with the same status. -/
theorem rejectIf_bind_rejectIf {p q : Bool} {status : BitVec 32} :
    ((Except.rejectIf (!p) status : Except (BitVec 32) Unit) >>= fun _ =>
      Except.rejectIf (!q) status) = Except.rejectIf (!(p && q)) status := by
  cases p <;> cases q <;> rfl

theorem forM_loadRequired (symbol : String → Bool) (names : List String) :
    forM names (loadRequired symbol) = Except.rejectIf (!names.all symbol) Status.unavailable := by
  induction names with
  | nil => rfl
  | cons name names ih =>
    rw [List.forM_cons, ih, List.all_cons]
    exact rejectIf_bind_rejectIf

theorem returns_loadFirst {object : ℕ → PluginObject} (candidates : List (String × Bool)) :
    Returns sgemmOf (fun _ _ => True) (loadFirst object candidates)
      (Except.rejectIf (!candidates.any Prod.snd) Status.unavailable) := by
  induction candidates with
  | nil => exact Refines.throw _
  | cons candidate rest ih =>
    obtain ⟨path, loads⟩ := candidate
    refine Refines.skip (Refines.hidden rfl) ?_
    cases loads with
    | true => exact Refines.create _
    | false => exact ih

theorem returns_loadHip (loading : Loading) :
    Returns sgemmOf (fun _ _ => True) (loadHip loading)
      (Except.rejectIf (!loading.hasHip) Status.unavailable) := by
  rw [Loading.hasHip, Bool.and_assoc, ← rejectIf_bind_rejectIf, ← rejectIf_bind_rejectIf]
  refine (returns_loadFirst _).bind fun library _ _ => ?_
  have hinit : Returns sgemmOf Eq
      (do
        Run.lift (forM hipSymbols (loadRequired loading.hipSymbol))
        Run.call .init [.hipLibrary library]
        Run.lift (Except.rejectIf (loading.init ≠ hipSuccess) Status.unavailable) : Plugin Unit)
      (do
        Except.rejectIf (!hipSymbols.all loading.hipSymbol) Status.unavailable
        Except.rejectIf (!(loading.init == hipSuccess)) Status.unavailable) := by
    rw [← forM_loadRequired]
    refine Returns.bind (Refines.lift _) fun _ _ _ => Refines.skip (Refines.hidden rfl) ?_
    have hinit : (Except.rejectIf (loading.init ≠ hipSuccess) Status.unavailable :
        Except (BitVec 32) Unit) =
          Except.rejectIf (!(loading.init == hipSuccess)) Status.unavailable := by
      rw [Except.rejectIf, Except.rejectIf]
      simp
    rw [hinit]
    exact Refines.lift _
  exact Returns.finish (Refines.onError hinit (Refines.destroy _)) fun _ _ _ => .pure trivial

theorem returns_loadRocblas (loading : Loading) :
    Returns sgemmOf (fun _ _ => True) (loadRocblas loading)
      (Except.rejectIf (!loading.hasRocblas) Status.unavailable) := by
  rw [Loading.hasRocblas, ← rejectIf_bind_rejectIf, ← forM_loadRequired]
  exact (returns_loadFirst _).bind fun library _ _ =>
    Returns.finish (Refines.onError (Refines.lift _) (Refines.destroy _)) fun _ _ _ =>
      .pure trivial

/-- A runtime that is loaded has no handles yet. -/
theorem returns_loadRuntime (loading : Loading) :
    Returns sgemmOf (fun runtime _ => runtime.handles = []) (loadRuntime loading)
      loading.outcome := by
  rw [Loading.outcome, ← rejectIf_bind_rejectIf]
  exact (returns_loadHip loading).bind fun hip _ _ =>
    Returns.finish (Refines.onError (returns_loadRocblas loading) (Refines.destroy _))
      fun _ _ _ => .pure rfl

/-! ### Handles and regions -/

/-- The address of the handle for a device. -/
def LoadedRuntime.rawHandle (runtime : LoadedRuntime) (device : BitVec 32) : Option (BitVec 64) :=
  (runtime.handles.lookup device).map RocblasHandle.raw

/-- The handles with one for a device. -/
def withHandle (device : BitVec 32) (handle : BitVec 64)
    (known : BitVec 32 → Option (BitVec 64)) : BitVec 32 → Option (BitVec 64) :=
  Function.update known device (some handle)

theorem lookup_orderedInsert {handles : List (BitVec 32 × RocblasHandle)} (handle : RocblasHandle)
    (hnew : handles.lookup device = none) (other : BitVec 32) :
    (handles.orderedInsert DeviceLe (device, handle)).lookup other =
      if other = device then some handle else handles.lookup other := by
  induction handles with
  | nil =>
    rw [List.orderedInsert_nil, List.lookup_cons]
    by_cases hother : other = device
    · simp [hother]
    · rw [if_neg hother, beq_false_of_ne hother]
  | cons entry handles ih =>
    obtain ⟨hne, hrest⟩ := List.forall_mem_cons.1 (List.lookup_eq_none_iff.1 hnew)
    have hentry : (device == entry.1) = false := beq_false_of_ne (bne_iff_ne.1 hne)
    have hih := ih (List.lookup_eq_none_iff.2 hrest)
    rw [List.orderedInsert_cons]
    by_cases hother : other = device
    · subst hother
      rw [if_pos rfl] at hih ⊢
      split_ifs
      · rw [List.lookup_cons_self]
      · rw [List.lookup_cons, hentry, hih]
    · rw [if_neg hother] at hih ⊢
      split_ifs
      · rw [List.lookup_cons, beq_false_of_ne hother]
      · rw [List.lookup_cons, List.lookup_cons, hih]

theorem rawHandle_insertHandle (handle : RocblasHandle)
    (hnew : runtime.handles.lookup device = none) :
    (runtime.insertHandle device handle hnew).rawHandle =
      withHandle device handle.raw runtime.rawHandle := by
  funext other
  rw [LoadedRuntime.rawHandle, withHandle, Function.update_apply, LoadedRuntime.rawHandle]
  change ((runtime.handles.orderedInsert DeviceLe (device, handle)).lookup other).map _ = _
  rw [lookup_orderedInsert handle hnew, apply_ite (Option.map RocblasHandle.raw)]
  rfl

theorem returns_handleFor : Returns sgemmOf
    (fun found handle => found.2.raw = handle ∧
      found.1.rawHandle = withHandle device handle runtime.rawHandle)
    (handleFor apis runtime device) (handleOutcome apis device (runtime.rawHandle device)) := by
  refine Refines.skip (Refines.hidden rfl) (Returns.bind (Refines.lift _) fun _ _ _ => ?_)
  split
  · rename_i handle hfound
    have hraw : runtime.rawHandle device = some handle.raw := by
      rw [LoadedRuntime.rawHandle, hfound, Option.map_some]
    rw [hraw]
    exact .pure ⟨rfl, (Function.update_eq_self_iff.2 hraw.symm).symm⟩
  · rename_i hnew
    have hraw : runtime.rawHandle device = none := by
      rw [LoadedRuntime.rawHandle, hnew, Option.map_none]
    rw [hraw]
    refine Refines.skip (Refines.hidden rfl) ?_
    dsimp only
    split
    · rename_i h
      rw [Except.rejectIf, if_pos h]
      exact Refines.throw _
    · rename_i h
      rw [Except.rejectIf, if_neg h]
      exact Returns.bind (Refines.create _) fun serial _ _ =>
        .pure ⟨rfl, rawHandle_insertHandle ⟨serial, _, _⟩ hnew⟩

theorem returns_importMapped (region : VrbSharedResourceRegionV1) :
    Returns sgemmOf (fun imported pointer => imported.pointer = pointer)
      (importMapped apis runtime device region) (importRegion apis.hip region) := by
  refine Refines.skip (Refines.hidden rfl) (Returns.bind (Refines.lift _) fun _ _ _ =>
    Refines.skipWith (Refines.create _) fun external => Refines.onError
      (Refines.skip (Refines.hidden rfl) (Returns.bind (Refines.lift _) fun _ _ _ =>
        Refines.skipWith (Refines.create _) fun mapped => ?_)) (Refines.destroy _))
  exact Refines.pure rfl

/-! ### A multiplication -/

theorem returns_dropRegion (region : ImportedRegion) :
    Returns sgemmOf Eq (region.drop runtime device : Plugin Unit) (.ok ()) :=
  Refines.skip (Refines.destroy _) (Refines.destroy _)

theorem implements_scope {α : Type} {rel : α → α → Prop} {region : VrbSharedResourceRegionV1}
    {body : ImportedRegion → Plugin α} {body' : DevicePtr → Traced SgemmCall (BitVec 32) α}
    (hbody : ∀ imported, Implements rel (body imported) (body' imported.pointer)) :
    Implements rel (importMapped apis runtime device region >>= fun imported =>
        Run.ensure (body imported) (imported.drop runtime device))
      (Traced.call (importRegion apis.hip region) >>= body') := by
  refine Refines.bind (returns_importMapped region) fun imported pointer heq => ?_
  exact Refines.ensure (heq ▸ hbody imported) (returns_dropRegion imported)

theorem implements_multiply {handle : RocblasHandle} {prepared : PreparedGemm}
    {memory : DeviceMemory} :
    Implements Eq (multiply apis runtime device handle prepared memory)
      (multiplied apis handle.raw prepared memory) := by
  refine implements_scope fun a => implements_scope fun b => implements_scope fun c => ?_
  refine Refines.bind (Refines.call rfl) fun _ _ _ => ?_
  dsimp only
  split
  · exact .pure rfl
  · exact Refines.skip (Refines.hidden rfl) (.pure rfl)

/-- What an operation ends with, given how the search for a handle ends. -/
def operated (apis : RuntimeApis) (prepared : PreparedGemm) (memory : DeviceMemory) :
    Except (BitVec 32) (BitVec 64) → Traced SgemmCall Empty Ended
  | .error status => pure (memory, .error status)
  | .ok handle => do
    let result ← Traced.caught (multiplied apis handle prepared memory)
    return settle memory result

/-- The handles after the search for one. -/
def handlesAfter (device : BitVec 32) (known : BitVec 32 → Option (BitVec 64)) :
    Except (BitVec 32) (BitVec 64) → BitVec 32 → Option (BitVec 64)
  | .error _ => known
  | .ok handle => withHandle device handle known

theorem implements_operate (apis : RuntimeApis) (runtime : LoadedRuntime)
    (prepared : PreparedGemm) (memory : DeviceMemory) :
    let device := prepared.control.hipDeviceIndex
    let outcome := handleOutcome apis device (runtime.rawHandle device)
    Implements (fun done ended => done.1.rawHandle = handlesAfter device runtime.rawHandle outcome ∧
        done.2 = ended)
      (operate apis runtime prepared memory) (operated apis prepared memory outcome) := by
  intro device outcome
  refine Refines.caught_bind returns_handleFor fun result hmatch => ?_
  change Matches _ result outcome at hmatch
  generalize outcome = outcome at hmatch
  cases hmatch with
  | error status => exact .pure ⟨rfl, rfl⟩
  | ok hfound =>
    rename_i found handle
    obtain ⟨rfl, hhandles⟩ := hfound
    refine Refines.bind implements_multiply.caught fun result _ hresult => ?_
    rw [hresult.eq]
    rename_i ended
    cases ended <;> exact .pure ⟨hhandles, rfl⟩

/-! ### The same in the other model -/

/-- The addresses of the handles. -/
def HipState.rawHandle (state : HipState) (device : BitVec 32) : Option (BitVec 64) :=
  state.handles.lookup device

theorem runFrom_handleForDevice (apis : RuntimeApis) (device : BitVec 32) (state : HipState) :
    let outcome := handleOutcome apis device (state.rawHandle device)
    ∃ handles, (handleForDevice apis device).runFrom state = (outcome, { state with handles }) ∧
      HipState.rawHandle { state with handles } =
        handlesAfter device state.rawHandle outcome := by
  intro outcome
  rw [handleForDevice]
  by_cases hset : apis.hip.setDevice device ≠ hipSuccess
  · have houtcome : outcome = .error Status.unavailable := by
      simp only [outcome, handleOutcome, Except.rejectIf, if_pos hset]
      rfl
    refine ⟨state.handles, ?_, by rw [houtcome]; rfl⟩
    rw [houtcome]
    refine HipM.runFrom_bind_of_error ?_
    rw [HipM.runFrom_rejectIf, Except.rejectIf, if_pos hset]
  have hreject : (HipM.rejectIf (apis.hip.setDevice device ≠ hipSuccess)
      Status.unavailable).runFrom state = (.ok (), state) := by
    rw [HipM.runFrom_rejectIf, Except.rejectIf_of_not hset]
  have hget : (get : HipM HipState).runFrom state = (.ok state, state) := rfl
  rw [HipM.runFrom_bind_of_ok hreject, HipM.runFrom_bind_of_ok hget]
  cases hlookup : state.handles.lookup device with
  | some handle =>
    have houtcome : outcome = .ok handle := by
      simp only [outcome, handleOutcome, Except.rejectIf_of_not hset, HipState.rawHandle, hlookup]
      rfl
    rw [houtcome]
    exact ⟨state.handles, rfl, (Function.update_eq_self_iff.2 hlookup.symm).symm⟩
  | none =>
    by_cases hcreate : apis.rocblas.createHandle.1 ≠ rocblasStatusSuccess ∨
        apis.rocblas.createHandle.2 = 0#64
    · have houtcome : outcome = .error Status.unavailable := by
        simp only [outcome, handleOutcome, Except.rejectIf_of_not hset, HipState.rawHandle, hlookup]
        rw [Except.rejectIf, if_pos hcreate]
        rfl
      refine ⟨state.handles, ?_, by rw [houtcome]; rfl⟩
      rw [houtcome]
      refine HipM.runFrom_bind_of_error ?_
      rw [HipM.runFrom_rejectIf, Except.rejectIf, if_pos hcreate]
    · have houtcome : outcome = .ok apis.rocblas.createHandle.2 := by
        simp only [outcome, handleOutcome, Except.rejectIf_of_not hset, HipState.rawHandle, hlookup,
          Except.rejectIf_of_not hcreate]
        rfl
      rw [houtcome]
      refine ⟨(device, apis.rocblas.createHandle.2) :: state.handles, ?_, funext fun other => ?_⟩
      · have hreject : (HipM.rejectIf (apis.rocblas.createHandle.1 ≠ rocblasStatusSuccess ∨
            apis.rocblas.createHandle.2 = 0#64) Status.unavailable).runFrom state =
              (.ok (), state) := by
          rw [HipM.runFrom_rejectIf, Except.rejectIf_of_not hcreate]
        exact HipM.runFrom_bind_of_ok hreject
      · rw [handlesAfter, withHandle, Function.update_apply, HipState.rawHandle, List.lookup_cons]
        by_cases hother : other = device
        · rw [if_pos hother, hother, beq_self_eq_true]
        · rw [if_neg hother, beq_false_of_ne hother]
          rfl

/-- The function ends as the call does, and makes the same calls of `rocblas_sgemm`. -/
def EndsAs (x : HipM Unit) (y : Traced SgemmCall (BitVec 32) Ended) (state : HipState) : Prop :=
  x.runFrom state = ((settle state.memory y.result).2, {
    state with
    memory := (settle state.memory y.result).1
    calls := state.calls ++ y.log })

theorem EndsAs.lift_bind {α : Type} {result : Except (BitVec 32) α} {f : α → HipM Unit}
    {g : α → Traced SgemmCall (BitVec 32) Ended} {state : HipState}
    (h : ∀ a, EndsAs (f a) (g a) state) :
    EndsAs (HipM.lift result >>= f) (Traced.call result >>= g) state := by
  cases result with
  | error status =>
    have hrun : (HipM.lift (.error status) >>= f).runFrom state = (.error status, state) :=
      HipM.runFrom_bind_of_error (HipM.runFrom_lift _)
    have hcalls : state.calls = state.calls ++ [] := (List.append_nil _).symm
    exact hrun.trans (congrArg (fun calls => (_, { state with calls })) hcalls)
  | ok a =>
    have hrun : (HipM.lift (.ok a) >>= f).runFrom state = (f a).runFrom state :=
      HipM.runFrom_bind_of_ok (HipM.runFrom_lift _)
    exact hrun.trans (h a)

theorem endsAs_multiplied (prepared : PreparedGemm) (handle : BitVec 64) (state : HipState) :
    EndsAs (do
        let a ← HipM.lift (importRegion apis.hip prepared.a)
        let b ← HipM.lift (importRegion apis.hip prepared.b)
        let c ← HipM.lift (importRegion apis.hip prepared.c)
        let blasStatus ← callSgemm apis handle (gemmCall prepared a b c)
        HipM.rejectIf (blasStatus ≠ rocblasStatusSuccess) Status.internalError
        HipM.rejectIf (apis.hip.deviceSynchronize ≠ hipSuccess) Status.internalError)
      (multiplied apis handle prepared state.memory) state := by
  refine EndsAs.lift_bind fun a => EndsAs.lift_bind fun b => EndsAs.lift_bind fun c => ?_
  rw [EndsAs, HipM.runFrom_bind_of_ok (runFrom_callSgemm ..)]
  dsimp only
  split_ifs with hstatus
  · refine HipM.runFrom_bind_of_error ?_
    rw [HipM.runFrom_rejectIf, Except.rejectIf, if_pos hstatus]
    rfl
  · exact HipM.runFrom_bind_of_ok ((HipM.runFrom_rejectIf _ _).trans
      (congrArg (·, _) (Except.rejectIf_of_not hstatus)))

theorem runFrom_runGemm (apis : RuntimeApis) (prepared : PreparedGemm) (state : HipState) :
    let device := prepared.control.hipDeviceIndex
    let outcome := handleOutcome apis device (state.rawHandle device)
    let traced := operated apis prepared state.memory outcome
    ∃ handles ended, traced.result = .ok ended ∧
      (runGemm apis prepared).runFrom state =
        (ended.2, { handles, memory := ended.1, calls := state.calls ++ traced.log }) ∧
      HipState.rawHandle { state with handles } =
        handlesAfter device state.rawHandle outcome := by
  intro device outcome traced
  obtain ⟨handles, hrun, hhandles⟩ := runFrom_handleForDevice apis device state
  change _ = (outcome, _) at hrun
  change _ = handlesAfter device state.rawHandle outcome at hhandles
  refine ⟨handles, ?_⟩
  rw [runGemm]
  cases houtcome : outcome with
  | error status =>
    rw [houtcome] at hrun
    have htraced : traced = pure (state.memory, .error status) := by
      simp only [traced, houtcome, operated]
    rw [htraced, ← houtcome, HipM.runFrom_bind_of_error hrun]
    refine ⟨_, rfl, ?_, hhandles⟩
    simp
  | ok handle =>
    rw [houtcome] at hrun
    have htraced : traced = (do
        let result ← Traced.caught (multiplied apis handle prepared state.memory)
        return settle state.memory result) := by
      simp only [traced, houtcome, operated]
    have hlog : traced.log = (multiplied apis handle prepared state.memory).log := by
      rw [htraced, Traced.log_bind_of_ok (Traced.result_caught _), Traced.log_caught,
        Traced.log_pure, List.append_nil]
    rw [hlog, htraced, ← houtcome, HipM.runFrom_bind_of_ok hrun]
    exact ⟨_, rfl, endsAs_multiplied prepared handle _, hhandles⟩

/-! ### The state -/

/-- The addresses of the handles that are kept. -/
def keptHandle (kept : Option LoadedRuntime) (device : BitVec 32) : Option (BitVec 64) :=
  kept.bind fun runtime => runtime.rawHandle device

/-- The state of the plugin and its events, seen by the other model. -/
structure Simulates (state : PluginState) (log : List (Event ApiCall PluginObject))
    (host : HostState) : Prop where
  loaded : host.loaded = state.runtime.isSome
  memory : host.state.memory = state.memory
  handles : host.state.rawHandle = keptHandle state.runtime
  calls : host.state.calls = observed sgemmOf log

/-- A request that is not admitted is rejected. -/
theorem run_execute_of_error {runtime : Except (BitVec 32) RuntimeApis}
    {request : VrbSharedOperatorExecutionRequestV1} {status : BitVec 32}
    (hadmitted : admitted request = .error status) (state : HipState) :
    (HipPlugin.execute runtime request).run state = (rejected request status, state) := by
  rw [HipPlugin.execute]
  rw [admitted] at hadmitted
  split_ifs with hheader
  · rw [Except.rejectIf, if_pos hheader] at hadmitted
    cases hadmitted
    rfl
  · rw [Except.rejectIf, if_neg hheader] at hadmitted
    exact executeWindows_of_prepare_error state hadmitted

theorem run_execute_of_ok {runtime : Except (BitVec 32) RuntimeApis}
    {request : VrbSharedOperatorExecutionRequestV1} {prepared : PreparedGemm}
    (hadmitted : admitted request = .ok prepared) {state state' : HipState}
    {outcome : Except (BitVec 32) Unit}
    (houtcome : (HipM.lift runtime >>= fun apis => runGemm apis prepared).runFrom state =
      (outcome, state')) :
    (HipPlugin.execute runtime request).run state = (returnOf request outcome, state') := by
  obtain ⟨hheader, hprepare⟩ := Except.rejectIf_bind_eq_ok_iff.1 hadmitted
  rw [HipPlugin.execute, if_neg hheader]
  exact executeWindows_eq hprepare houtcome

variable {state : PluginState} {log : List (Event ApiCall PluginObject)} {host : HostState}

/-- How obtaining a runtime ends. -/
def HostState.obtained (host : HostState) (loading : Loading) : Except (BitVec 32) Unit :=
  if host.loaded then .ok () else loading.outcome

theorem HostState.provided_eq (host : HostState) (loading : Loading) :
    host.provided loading apis = (host.obtained loading).map fun _ => apis := by
  rw [provided, obtained]
  split_ifs <;> rfl

theorem returns_obtainRuntime (h : Simulates state log host) (loading : Loading) :
    Returns sgemmOf (fun runtime _ => runtime.rawHandle = keptHandle state.runtime)
      (obtainRuntime loading state.runtime) (host.obtained loading) := by
  rw [HostState.obtained, h.loaded]
  cases state.runtime with
  | none =>
    refine (returns_loadRuntime loading).mono fun runtime _ hempty => funext fun device => ?_
    rw [LoadedRuntime.rawHandle, hempty]
    rfl
  | some runtime => exact .pure rfl

/-- An operation, seen by the other model. -/
theorem simulates_operate (apis : RuntimeApis) (runtime : LoadedRuntime)
    (prepared : PreparedGemm) {memory : DeviceMemory} {hip : HipState}
    (hmemory : hip.memory = memory) (hhandles : hip.rawHandle = runtime.rawHandle)
    (hcalls : hip.calls = observed sgemmOf log) :
    ∃ runtime' ended log' hip', (operate apis runtime prepared memory).exec log =
        (.ok (runtime', ended), log') ∧ (runGemm apis prepared).runFrom hip = (ended.2, hip') ∧
      hip'.memory = ended.1 ∧ hip'.rawHandle = runtime'.rawHandle ∧
      hip'.calls = observed sgemmOf log' := by
  obtain ⟨hmatch, hlog⟩ := implements_operate apis runtime prepared memory log
  obtain ⟨handles, ended, hresult, hrun, hafter⟩ := runFrom_runGemm apis prepared hip
  rw [hmemory, hhandles] at hresult hrun
  rw [hhandles] at hafter
  rw [hresult] at hmatch
  cases hexec : (operate apis runtime prepared memory).exec log with
  | mk result log' =>
    rw [hexec] at hmatch hlog
    cases hmatch with
    | ok hrel =>
      obtain ⟨hraw, rfl⟩ := hrel
      refine ⟨_, _, _, _, rfl, hrun, rfl, ?_, ?_⟩
      · exact hafter.trans hraw.symm
      · change hip.calls ++ _ = _
        rw [hcalls]
        exact hlog.symm

theorem simulates_serveExecute (h : Simulates state log host) (loading : Loading)
    (request : VrbSharedOperatorExecutionRequestV1) :
    let applied := PluginCall.applied host (.execute loading apis request)
    ∃ state' value log', (serveExecute apis loading request state).exec log =
        (.ok (state', value), log') ∧ applied.2 = some value ∧ Simulates state' log' applied.1 := by
  intro applied
  cases hadmitted : admitted request with
  | error status =>
    have happlied : applied = (host, some (rejected request status)) := by
      simp only [applied, PluginCall.applied, run_execute_of_error hadmitted, hadmitted,
        Except.toBool, Bool.false_and, Bool.or_false]
    refine ⟨state, rejected request status, log, ?_, ?_, ?_⟩
    · rw [serveExecute, hadmitted]
      rfl
    · rw [happlied]
    · rw [happlied]
      exact h
  | ok prepared =>
    obtain ⟨hmatch, hlog⟩ := returns_obtainRuntime h loading log
    change Matches _ _ (host.obtained loading) at hmatch
    cases hexec : (obtainRuntime loading state.runtime).exec log with
    | mk result log' =>
    rw [hexec] at hmatch hlog
    cases hobtained : host.obtained loading with
    | error status =>
      rw [hobtained] at hmatch
      cases hmatch
      have hprovided : host.provided loading apis = .error status := by
        rw [HostState.provided_eq, hobtained]
        rfl
      have hrun : (HipPlugin.execute (.error status) request).run host.state =
          (rejected request status, host.state) :=
        run_execute_of_ok hadmitted (HipM.runFrom_bind_of_error (HipM.runFrom_lift _))
      have happlied : applied = (host, some (rejected request status)) := by
        simp only [applied, PluginCall.applied, hrun, hadmitted, hprovided, Except.toBool,
          Bool.and_false, Bool.or_false]
      have hcaught : (Run.caught (obtainRuntime loading state.runtime) :
          PluginRun (Except (BitVec 32) LoadedRuntime)).exec log = (.ok (.error status), log') := by
        rw [Run.exec_caught, hexec]
      refine ⟨state, rejected request status, log', ?_, by rw [happlied], ?_⟩
      · rw [serveExecute, hadmitted]
        exact Run.exec_bind_of_ok hcaught
      · rw [happlied]
        exact ⟨h.loaded, h.memory, h.handles,
          h.calls.trans ((List.append_nil _).symm.trans hlog.symm)⟩
    | ok u =>
      rw [hobtained] at hmatch
      cases hmatch with
      | ok hraw =>
      rename_i runtime _
      obtain ⟨runtime', ended, log'', hip', hoperate, hgemm, hmemory, hhandles, hcalls⟩ :=
        simulates_operate apis runtime prepared h.memory (h.handles.trans hraw.symm)
          (h.calls.trans ((List.append_nil _).symm.trans hlog.symm))
      have hprovided : host.provided loading apis = .ok apis := by
        rw [HostState.provided_eq, hobtained]
        rfl
      have hrun : (HipPlugin.execute (.ok apis) request).run host.state =
          (returnOf request ended.2, hip') :=
        run_execute_of_ok hadmitted ((HipM.runFrom_bind_of_ok (HipM.runFrom_lift _)).trans hgemm)
      have happlied : applied = (⟨true, hip'⟩, some (returnOf request ended.2)) := by
        simp only [applied, PluginCall.applied, hrun, hadmitted, hprovided, Except.toBool,
          Bool.and_true, Bool.or_true]
      have hcaught : (Run.caught (obtainRuntime loading state.runtime) :
          PluginRun (Except (BitVec 32) LoadedRuntime)).exec log = (.ok (.ok runtime), log') := by
        rw [Run.exec_caught, hexec]
      refine ⟨⟨some runtime', ended.1⟩, returnOf request ended.2, log'', ?_, by rw [happlied], ?_⟩
      · rw [serveExecute, hadmitted]
        exact (Run.exec_bind_of_ok hcaught).trans (Run.exec_bind_of_ok hoperate)
      · rw [happlied]
        exact ⟨rfl, hmemory, hhandles, hcalls⟩

theorem returns_dropHandles (apis : RuntimeApis) (handles : List (BitVec 32 × RocblasHandle)) :
    Returns sgemmOf Eq (handles.foldlM (fun _ entry => runtime.dropHandle apis entry) ())
      (.ok ()) := by
  induction handles with
  | nil => exact .pure rfl
  | cons entry handles ih =>
    rw [List.foldlM_cons, LoadedRuntime.dropHandle, if_pos entry.2.raw_ne_zero]
    exact Refines.skip (Refines.skip (Refines.hidden rfl) (Refines.destroy _)) ih

theorem returns_drop (apis : RuntimeApis) (runtime : LoadedRuntime) :
    Returns sgemmOf Eq (runtime.drop apis) (.ok ()) :=
  Refines.skip (returns_dropHandles apis _) (Refines.skip (Refines.destroy _) (Refines.destroy _))

theorem simulates_serveShutdown (apis : RuntimeApis) (h : Simulates state log host) :
    let applied := PluginCall.applied host (.shutdown apis)
    ∃ state' log', (serveShutdown apis state).exec log = (.ok state', log') ∧
      Simulates state' log' applied.1 := by
  intro applied
  rw [serveShutdown]
  cases hstate : state.runtime with
  | none =>
    refine ⟨state, log, rfl, ?_, h.memory, ?_, h.calls⟩
    · rw [hstate]
      rfl
    · rw [hstate]
      rfl
  | some runtime =>
    obtain ⟨hmatch, hlog⟩ := returns_drop apis runtime log
    cases hexec : (runtime.drop apis).exec log with
    | mk result log' =>
      rw [hexec] at hmatch hlog
      cases hmatch
      exact ⟨_, _, Run.exec_bind_of_ok hexec, rfl, h.memory, rfl,
        h.calls.trans ((List.append_nil _).symm.trans hlog.symm)⟩

/-! ### Sequences of calls -/

/-- A call does in both models the same. -/
theorem simulates_serve (h : Simulates state log host) (call : PluginCall) :
    ∃ state' log', (serve state call).exec log = (.ok (state', (call.applied host).2), log') ∧
      Simulates state' log' (call.applied host).1 := by
  cases call with
  | execute loading apis request =>
    obtain ⟨state', value, log', hexec, hvalue, hsim⟩ := simulates_serveExecute h loading request
    exact ⟨state', log', hvalue ▸ Run.exec_bind_of_ok hexec, hsim⟩
  | shutdown apis =>
    obtain ⟨state', log', hexec, hsim⟩ := simulates_serveShutdown apis h
    exact ⟨state', log', Run.exec_bind_of_ok hexec, hsim⟩

/-- **Refinement.** Any sequence of calls returns the same values in both models, and leads to the
same memory of the device, the same calls of `rocblas_sgemm` and handles with the same addresses. -/
theorem serveAll_refines (memory : DeviceMemory) (calls : List PluginCall) :
    let run := (serveAll memory calls).exec []
    let applied := appliedAll memory calls
    ∃ state, run.1 = .ok (state, applied.2) ∧ Simulates state run.2 applied.1 := by
  have hgeneral (state : PluginState) (log : List (Event ApiCall PluginObject)) (host : HostState)
      (values : List (Option ExecuteReturn)) (h : Simulates state log host) :
      let run := (calls.foldlM serveStep (state, values)).exec log
      let applied := calls.foldl PluginCall.appliedStep (host, values)
      ∃ state, run.1 = .ok (state, applied.2) ∧ Simulates state run.2 applied.1 := by
    induction calls generalizing state log host values with
    | nil => exact ⟨state, rfl, h⟩
    | cons call calls ih =>
      obtain ⟨state', log', hexec, hsim⟩ := simulates_serve h call
      have hstep : (serveStep (state, values) call).exec log =
          (.ok (state', values ++ [(call.applied host).2]), log') := Run.exec_bind_of_ok hexec
      rw [List.foldlM_cons, Run.exec_bind_of_ok hstep]
      exact ih state' log' _ _ hsim
  exact hgeneral _ _ _ _ ⟨rfl, rfl, rfl, rfl⟩

end RiftGPU.HipPlugin
