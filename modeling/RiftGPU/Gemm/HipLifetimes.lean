import Mathlib.Data.Multiset.MapFold
import RiftGPU.Gemm.HipLifecycle

/-!
# Lifetimes of the objects of the HIP plugin

Whatever HIP and rocBLAS answer, between calls the plugin has its two libraries and at most one
handle for a device, and nothing at all after a shutdown. A use of an object is a call that names
it.

## Main definitions

* `HipPlugin.keptObjects`: the objects of the plugin between calls.

## Main results

* `HipPlugin.serveAll_lifetimes`: the objects after any calls, and the lifetimes of all others.
-/

namespace RiftGPU.HipPlugin

open Bytes PluginAbi SharedOperators Gemm Lifetime

variable {needs held error : Multiset PluginObject} {ε : Type}
variable {apis : RuntimeApis} {runtime : LoadedRuntime} {device : BitVec 32}

theorem triple_destroyObject {object : PluginObject}
    (hchildren : ∀ other ∈ held, object ∉ owners other) :
    Triple needs (object ::ₘ held) (Run.destroy object : Run ApiCall PluginObject ε Unit)
      (fun _ => held) error :=
  .destroy hchildren (PluginObject.not_mem_owners_self object)

/-! ### Loading -/

theorem triple_loadFirst {object : ℕ → PluginObject} (candidates : List (String × Bool))
    (hserial : ∀ n, serial (object n) = n) (howners : ∀ n, owners (object n) = []) :
    Triple needs 0 (loadFirst object candidates) (fun n => object n ::ₘ 0) 0 := by
  induction candidates with
  | nil => exact .throw _
  | cons candidate rest ih =>
    obtain ⟨path, loads⟩ := candidate
    refine (Triple.call (List.forall_mem_nil _)).bind fun _ => ?_
    cases loads with
    | true => exact .create hserial fun n => by rw [howners n]; exact List.forall_mem_nil _
    | false => exact ih

theorem triple_loadHip (loading : Loading) :
    Triple needs 0 (loadHip loading) (fun n => .hipLibrary n ::ₘ 0) 0 := by
  refine (triple_loadFirst _ (fun _ => rfl) fun _ => rfl).bind fun library => ?_
  have hinit : Triple needs (.hipLibrary library ::ₘ 0) (do
      Run.lift (forM hipSymbols (loadRequired loading.hipSymbol))
      Run.call .init [.hipLibrary library]
      Run.lift (Except.rejectIf (loading.init ≠ hipSuccess) Status.unavailable) : Plugin Unit)
      (fun _ => .hipLibrary library ::ₘ 0) (.hipLibrary library ::ₘ 0) := by
    refine (Triple.liftM _).bind fun _ => ?_
    exact (Triple.call (by simp)).bind fun _ => .liftM _
  exact (hinit.onError (triple_destroyObject (by simp))).bind fun _ => .pure rfl

theorem triple_loadRocblas (loading : Loading) :
    Triple needs 0 (loadRocblas loading) (fun n => .rocblasLibrary n ::ₘ 0) 0 := by
  refine (triple_loadFirst _ (fun _ => rfl) fun _ => rfl).bind fun library => ?_
  have hsymbols : Triple needs (.rocblasLibrary library ::ₘ 0)
      (Run.lift (forM rocblasSymbols (loadRequired loading.rocblasSymbol)) : Plugin Unit)
      (fun _ => .rocblasLibrary library ::ₘ 0) (.rocblasLibrary library ::ₘ 0) := .liftM _
  exact (hsymbols.onError (triple_destroyObject (by simp))).bind fun _ => .pure rfl

/-! ### The runtime -/

namespace LoadedRuntime

/-- The objects of the libraries. -/
def libraries (runtime : LoadedRuntime) : Multiset PluginObject :=
  runtime.hipObject ::ₘ runtime.rocblasObject ::ₘ 0

/-- The objects of some handles. -/
def handleObjects (runtime : LoadedRuntime) (handles : List (BitVec 32 × RocblasHandle)) :
    Multiset PluginObject :=
  (handles.map fun entry => runtime.handleObject entry.1 entry.2 : List PluginObject)

/-- The objects that a runtime owns. -/
def objects (runtime : LoadedRuntime) : Multiset PluginObject :=
  runtime.libraries + runtime.handleObjects runtime.handles

@[simp] theorem hipObject_mem_objects : runtime.hipObject ∈ runtime.objects := by
  simp [objects, libraries]

@[simp] theorem rocblasObject_mem_objects : runtime.rocblasObject ∈ runtime.objects := by
  simp [objects, libraries]

theorem handleObject_mem_objects {handle : RocblasHandle}
    (h : (device, handle) ∈ runtime.handles) :
    runtime.handleObject device handle ∈ runtime.objects :=
  Multiset.mem_add.2 (.inr (List.mem_map.2 ⟨_, h, rfl⟩))

/-- A handle for another device is one more object. -/
theorem objects_insertHandle (handle : RocblasHandle)
    (hnew : runtime.handles.lookup device = none) :
    (runtime.insertHandle device handle hnew).objects =
      runtime.handleObject device handle ::ₘ runtime.objects := by
  have hperm := (runtime.handles.perm_orderedInsert DeviceLe (device, handle)).map
    fun entry => runtime.handleObject entry.1 entry.2
  have hhandles : runtime.handleObjects (runtime.insertHandle device handle hnew).handles =
      runtime.handleObject device handle ::ₘ runtime.handleObjects runtime.handles :=
    Multiset.coe_eq_coe.2 hperm
  change runtime.libraries + _ = _
  rw [objects, ← Multiset.add_cons]
  exact congrArg _ hhandles

end LoadedRuntime

theorem triple_loadRuntime (loading : Loading) :
    Triple needs 0 (loadRuntime loading) LoadedRuntime.objects 0 := by
  refine (triple_loadHip loading).bind fun hip => ?_
  have hload : Triple needs (.hipLibrary hip ::ₘ 0) (loadRocblas loading)
      (fun rocblas => .hipLibrary hip ::ₘ .rocblasLibrary rocblas ::ₘ 0) (.hipLibrary hip ::ₘ 0) :=
    ((triple_loadRocblas loading).frame (fun _ hmem => absurd hmem (Multiset.notMem_zero _))
      (free_zero _)).congr (Multiset.add_zero _) (fun _ => rfl) (Multiset.add_zero _)
  exact Triple.bind (hload.onError (triple_destroyObject (List.forall_mem_nil _)))
    fun rocblas => .pure rfl

theorem triple_handleFor :
    Triple needs runtime.objects (handleFor apis runtime device) (fun found => found.1.objects)
      runtime.objects := by
  refine (Triple.call (by simp)).bind fun _ => (Triple.liftM _).bind fun _ => ?_
  split
  · exact .pure rfl
  · rename_i hnew
    refine (Triple.call (by simp)).bind fun _ => ?_
    dsimp only
    split
    · exact .throw _
    · refine (Triple.create (fun _ => rfl) fun n => ?_).bind fun serial =>
        .pure (LoadedRuntime.objects_insertHandle ⟨serial, _, _⟩ hnew).symm
      simp [owners, PluginObject.owners]

/-- The handle that is found is one of the runtime. -/
theorem yields_handleFor : (handleFor apis runtime device).Yields fun found =>
    (device, found.2) ∈ found.1.handles := by
  refine .bind fun _ => .bind fun _ => ?_
  split
  · rename_i handle hfound
    obtain ⟨front, back, heq, -⟩ := List.lookup_eq_some_iff.1 hfound
    exact .pure (heq ▸ List.mem_append_right _ List.mem_cons_self)
  · refine .bind fun _ => ?_
    dsimp only
    split
    · exact .throw _
    · exact .bind fun serial => .pure ((List.mem_orderedInsert _).2 (.inl rfl))

/-! ### A multiplication -/

/-- The libraries are among the given objects. -/
structure LoadedRuntime.LiveIn (runtime : LoadedRuntime) (needs : Multiset PluginObject) :
    Prop where
  hip : runtime.hipObject ∈ needs
  rocblas : runtime.rocblasObject ∈ needs

theorem LoadedRuntime.LiveIn.add (h : runtime.LiveIn needs) (held : Multiset PluginObject) :
    runtime.LiveIn (needs + held) :=
  ⟨Multiset.mem_add.2 (.inl h.hip), Multiset.mem_add.2 (.inl h.rocblas)⟩

/-- The objects of an imported region. -/
def ImportedRegion.objects (runtime : LoadedRuntime) (device : BitVec 32)
    (region : ImportedRegion) : Multiset PluginObject :=
  region.mappedObject runtime device ::ₘ region.externalObject runtime device ::ₘ 0

theorem triple_importMapped {region : VrbSharedResourceRegionV1} (hruntime : runtime.LiveIn needs) :
    Triple needs 0 (importMapped apis runtime device region)
      (ImportedRegion.objects runtime device) 0 := by
  refine (Triple.call (by simp [hruntime.hip])).bind fun _ => ?_
  refine (Triple.liftM _).bind fun _ => ?_
  refine (Triple.create (fun _ => rfl) ?_).bind fun external => ?_
  · simp [owners, PluginObject.owners, hruntime.hip]
  have hrelease : Triple needs (.externalMemory runtime.hipObject device external ::ₘ 0)
      (Run.destroy (.externalMemory runtime.hipObject device external) : Plugin Unit)
      (fun _ => 0) 0 := triple_destroyObject (by simp)
  -- the imported memory is held while it is mapped, and destroyed when it cannot be
  refine Triple.onError ?_ hrelease
  refine (Triple.call (by simp [hruntime.hip])).bind fun _ => ?_
  refine (Triple.liftM _).bind fun _ => ?_
  refine (Triple.create (fun _ => rfl) ?_).bind fun mapped => .pure rfl
  simp [owners, PluginObject.owners, hruntime.hip]

theorem triple_dropRegion (region : ImportedRegion) :
    Triple needs (region.objects runtime device) (region.drop runtime device : Plugin Unit)
      (fun _ => 0) 0 := by
  refine (triple_destroyObject ?_).bind fun _ => triple_destroyObject ?_
  all_goals simp [owners, PluginObject.owners, ImportedRegion.externalObject,
    ImportedRegion.mappedObject, LoadedRuntime.hipObject]

theorem keeps_multiplyMapped {handle : RocblasHandle} {prepared : PreparedGemm}
    {memory : DeviceMemory} {a b c : ImportedRegion} (hruntime : runtime.LiveIn needs)
    (hhandle : runtime.handleObject device handle ∈ needs)
    (ha : a.mappedObject runtime device ∈ needs) (hb : b.mappedObject runtime device ∈ needs)
    (hc : c.mappedObject runtime device ∈ needs) :
    Keeps needs (multiplyMapped apis runtime device handle prepared memory a b c) := by
  refine (Triple.call ?_).bind fun _ => ?_
  · simp [hruntime.rocblas, hhandle, ha, hb, hc]
  dsimp only
  split
  · exact .pure rfl
  · exact (Triple.call (by simp [hruntime.hip])).bind fun _ => .pure rfl

theorem keeps_multiply {handle : RocblasHandle} {prepared : PreparedGemm} {memory : DeviceMemory}
    (hruntime : runtime.LiveIn needs) (hhandle : runtime.handleObject device handle ∈ needs) :
    Keeps needs (multiply apis runtime device handle prepared memory) := by
  refine Keeps.scope (triple_importMapped hruntime) (fun a => ?_) triple_dropRegion
  refine Keeps.scope (triple_importMapped (hruntime.add _)) (fun b => ?_) triple_dropRegion
  refine Keeps.scope (triple_importMapped ((hruntime.add _).add _)) (fun c => ?_) triple_dropRegion
  refine keeps_multiplyMapped (((hruntime.add _).add _).add _) ?_ ?_ ?_ ?_
  all_goals simp [ImportedRegion.objects, hhandle]

/-! ### Calls of the plugin -/

/-- The objects that the plugin owns between calls. -/
def keptObjects : Option LoadedRuntime → Multiset PluginObject
  | none => 0
  | some runtime => runtime.objects

theorem triple_operate {prepared : PreparedGemm} {memory : DeviceMemory} :
    Triple needs runtime.objects (operate apis runtime prepared memory)
      (fun done => done.1.objects) error := by
  refine Triple.bindYields triple_handleFor.caught yields_handleFor.caught fun outcome hfound => ?_
  cases outcome with
  | error status => exact .pure rfl
  | ok found =>
    obtain ⟨runtime, handle⟩ := found
    have hhandle := LoadedRuntime.handleObject_mem_objects (hfound _ rfl)
    have hmultiply : Keeps (needs + runtime.objects)
        (multiply apis runtime prepared.control.hipDeviceIndex handle prepared memory) :=
      keeps_multiply ⟨by simp, by simp⟩ (Multiset.mem_add.2 (.inr hhandle))
    refine (hmultiply.holding fun _ hmem => hmem).caught.bind fun outcome => ?_
    cases outcome with
    | error status => exact .pure rfl
    | ok ended => exact .pure rfl

theorem triple_obtainRuntime (loading : Loading) (kept : Option LoadedRuntime) :
    Triple needs (keptObjects kept) (obtainRuntime loading kept) LoadedRuntime.objects
      (keptObjects kept) := by
  cases kept with
  | none => exact triple_loadRuntime loading
  | some runtime => exact .pure rfl

theorem triple_serveExecute (loading : Loading) (request : VrbSharedOperatorExecutionRequestV1)
    (state : PluginState) :
    Triple needs (keptObjects state.runtime) (serveExecute apis loading request state)
      (fun served => keptObjects served.1.runtime) error := by
  rw [serveExecute]
  cases admitted request with
  | error status => exact .pure rfl
  | ok prepared =>
    refine (triple_obtainRuntime loading state.runtime).caught.bind fun outcome => ?_
    cases outcome with
    | error status => exact .pure rfl
    | ok runtime => exact triple_operate.bind fun done => .pure rfl

/-! ### Shutting down -/

/-- Nothing is made from a handle. -/
theorem handleObject_notMem_owners {handles : List (BitVec 32 × RocblasHandle)}
    (entry : BitVec 32 × RocblasHandle) :
    ∀ other ∈ runtime.libraries + runtime.handleObjects handles,
      runtime.handleObject entry.1 entry.2 ∉ owners other := by
  intro other hmem howner
  simp only [LoadedRuntime.libraries, LoadedRuntime.handleObjects, Multiset.mem_add,
    Multiset.mem_cons, Multiset.notMem_zero, or_false, Multiset.mem_coe, List.mem_map] at hmem
  rcases hmem with (rfl | rfl) | ⟨entry', -, rfl⟩ <;>
    simp [owners, PluginObject.owners, LoadedRuntime.handleObject, LoadedRuntime.hipObject,
      LoadedRuntime.rocblasObject] at howner

theorem triple_dropHandles (handles : List (BitVec 32 × RocblasHandle)) :
    Triple needs (runtime.libraries + runtime.handleObjects handles)
      (handles.foldlM (fun _ entry => runtime.dropHandle apis entry) ())
      (fun _ => runtime.libraries) error := by
  induction handles with
  | nil => exact .pure (Multiset.add_zero _)
  | cons entry handles ih =>
    have hcons : runtime.libraries + runtime.handleObjects (entry :: handles) =
        runtime.handleObject entry.1 entry.2 ::ₘ
          (runtime.libraries + runtime.handleObjects handles) := by
      rw [LoadedRuntime.handleObjects, List.map_cons, ← Multiset.cons_coe, Multiset.add_cons]
      rfl
    rw [List.foldlM_cons, hcons, LoadedRuntime.dropHandle, if_pos entry.2.raw_ne_zero]
    exact Triple.bind ((Triple.call (by simp [LoadedRuntime.libraries])).bind fun _ =>
      triple_destroyObject (handleObject_notMem_owners entry)) fun _ => ih

theorem triple_drop : Triple needs runtime.objects (runtime.drop apis) (fun _ => 0) error := by
  refine (triple_dropHandles runtime.handles).bind fun _ => (triple_destroyObject ?_).bind fun _ =>
    triple_destroyObject ?_
  all_goals simp [owners, PluginObject.owners, LoadedRuntime.rocblasObject]

theorem triple_serveShutdown (state : PluginState) :
    Triple needs (keptObjects state.runtime) (serveShutdown apis state)
      (fun state => keptObjects state.runtime) error := by
  rw [serveShutdown]
  cases hstate : state.runtime with
  | none => exact .pure (by rw [hstate])
  | some runtime => exact triple_drop.bind fun _ => .pure rfl

/-! ### Sequences of calls -/

theorem triple_serve (state : PluginState) (call : PluginCall) :
    Triple needs (keptObjects state.runtime) (serve state call)
      (fun served => keptObjects served.1.runtime) error := by
  cases call with
  | execute loading apis request =>
    exact (triple_serveExecute loading request state).bind fun _ => .pure rfl
  | shutdown apis => exact (triple_serveShutdown state).bind fun _ => .pure rfl

theorem triple_serveAll (memory : DeviceMemory) (calls : List PluginCall) :
    Triple needs 0 (serveAll memory calls) (fun served => keptObjects served.1.runtime) error := by
  have hstep (served : PluginState × List (Option ExecuteReturn)) (call : PluginCall) :
      Triple needs (keptObjects served.1.runtime) (serveStep served call)
        (fun served => keptObjects served.1.runtime) error :=
    (triple_serve served.1 call).bind fun _ => .pure rfl
  exact Triple.foldlM (fun served call _ => hstep served call) (⟨none, memory⟩, [])

/-- A handle is the only object that the plugin keeps for its device. -/
theorem eq_of_device {kept : Option LoadedRuntime} {a b : PluginObject} (ha : a ∈ keptObjects kept)
    (hb : b ∈ keptObjects kept) (hadevice : a.device = some device)
    (hbdevice : b.device = some device) : a = b := by
  cases kept with
  | none => exact absurd ha (Multiset.notMem_zero a)
  | some runtime =>
    have hentry {object : PluginObject} (hmem : object ∈ runtime.objects)
        (hdevice : object.device = some device) : ∃ handle, (device, handle) ∈ runtime.handles ∧
          runtime.handleObject device handle = object := by
      simp only [LoadedRuntime.objects, LoadedRuntime.libraries, LoadedRuntime.handleObjects,
        Multiset.mem_add, Multiset.mem_cons, Multiset.notMem_zero, or_false, Multiset.mem_coe,
        List.mem_map] at hmem
      rcases hmem with (rfl | rfl) | ⟨⟨other, handle⟩, hmem, rfl⟩
      · cases hdevice
      · cases hdevice
      · obtain rfl := Option.some.inj hdevice
        exact ⟨handle, hmem, rfl⟩
    obtain ⟨handleA, hmemA, rfl⟩ := hentry ha hadevice
    obtain ⟨handleB, hmemB, rfl⟩ := hentry hb hbdevice
    have hnodup : (runtime.handles.map Prod.fst).Nodup :=
      List.pairwise_map.2 (runtime.sorted.imp fun hlt heq => hlt.ne (congrArg _ heq))
    have heq := List.inj_on_of_nodup_map hnodup hmemA hmemB rfl
    rw [(Prod.mk.inj heq).2]

/-- **Lifetimes in the plugin.** After any calls, exactly the libraries and the handles of the
runtime are live, if it is loaded, with at most one handle for a device. All other objects that
were created or used have a lifetime. A use is a call that names the object. -/
theorem serveAll_lifetimes (memory : DeviceMemory) (calls : List PluginCall) :
    let run := (serveAll memory calls).exec []
    ∃ state values, run.1 = .ok (state, values) ∧
      replay 0 run.2 = some (keptObjects state.runtime) ∧
      (∀ a ∈ keptObjects state.runtime, ∀ b ∈ keptObjects state.runtime, ∀ device,
        a.device = some device → b.device = some device → a = b) ∧
      ∀ event ∈ run.2, ∀ object, event.Mentions object →
        object ∈ keptObjects state.runtime ∨ HasLifetime run.2 object := by
  intro run
  have htriple : Triple 0 0 (serveAll memory calls)
      (fun served => keptObjects served.1.runtime) 0 := triple_serveAll memory calls
  have hsound := htriple.sound sound_nil
  cases hrun : run.1 with
  | error e => exact e.elim
  | ok served =>
    rw [hrun] at hsound
    exact ⟨served.1, served.2, rfl, hsound.replay, fun a ha b hb device => eq_of_device ha hb,
      fun event hevent object => hsound.mem_or_hasLifetime hevent⟩

end RiftGPU.HipPlugin
