import RiftGPU.Gemm.HipLifecycle
import RiftGPU.Lifetime.Monitor

/-!
# The current device of the HIP plugin

HIP has a current device, which its functions are about. It is the device that was set by the last
call of `hipSetDevice` that succeeded. The plugin has the handles of several devices. A call sets
the device before it looks for the handle, and gives up when this fails; a shutdown sets the device
of each handle before it destroys the handle, and goes on when this fails. So what belongs to a
device is created, used and destroyed only after the last call of `hipSetDevice` was for this
device, and while the device is the current one, with one exception: a shutdown also destroys a
handle whose device could not be set.

## Main definitions

* `HipPlugin.DeviceState`: the current device, and the last call of `hipSetDevice`.
* `HipPlugin.OnItsDevice`: the logs in which what belongs to a device is mentioned after the device
  was set.

## Main results

* `HipPlugin.serveAll_device`: the logs of the plugin.
-/

namespace RiftGPU.HipPlugin

open Bytes PluginAbi SharedOperators Gemm Lifetime

variable {ε : Type} {apis : RuntimeApis} {runtime : LoadedRuntime} {device : BitVec 32}

/-! ### Events and the current device -/

/-- The current device of HIP, and the last call that was to set it, with its status. -/
structure DeviceState where
  current : Option (BitVec 32)
  lastSet : Option (BitVec 32 × BitVec 32)

/-- The state after an event. A call that fails leaves the current device as it is. -/
def setBy (state : DeviceState) : Event ApiCall PluginObject → DeviceState
  | .call (.setDevice device status) _ => {
      current := if status = hipSuccess then some device else state.current
      lastSet := some (device, status) }
  | _ => state

/-- The state after the events of a log. Before the first one no device is known to be current. -/
def deviceState (log : List (Event ApiCall PluginObject)) : DeviceState :=
  log.foldl setBy { current := none, lastSet := none }

/-- The event destroys a handle of rocBLAS. -/
def DestroysHandle (event : Event ApiCall PluginObject) : Prop :=
  ∃ hip rocblas device serial, event = .destroy (.rocblasHandle hip rocblas device serial)

/-- An event may mention what belongs to a device when the last call of `hipSetDevice` was for this
device and has made it the current one. When the call has failed, only a handle may be destroyed. -/
def MayMention (state : DeviceState) (event : Event ApiCall PluginObject) (device : BitVec 32) :
    Prop :=
  ∃ status, state.lastSet = some (device, status) ∧
    (state.current = some device ∨ status ≠ hipSuccess ∧ DestroysHandle event)

/-- What an event mentions that belongs to a device may be mentioned after the events before. -/
def OnItsDevice (log : List (Event ApiCall PluginObject)) : Prop :=
  ∀ front event back, log = front ++ event :: back → ∀ object, event.Mentions object →
    ∀ device, object.device = some device → MayMention (deviceState front) event device

/-- The events that are allowed as `OnItsDevice` says. -/
def deviceMonitor : Monitor DeviceState (Event ApiCall PluginObject) where
  next := setBy
  Allowed state event := ∀ object, event.Mentions object → ∀ device, object.device = some device →
    MayMention state event device

/-- The device was set last, with the status. -/
structure DeviceState.WasSet (device status : BitVec 32) (state : DeviceState) : Prop where
  lastSet : state.lastSet = some (device, status)
  current : status = hipSuccess → state.current = some device

/-- The device was set last, and is the current one. -/
abbrev DeviceState.IsOn (device : BitVec 32) (state : DeviceState) : Prop :=
  state.WasSet device hipSuccess

theorem DeviceState.IsOn.mayMention {state : DeviceState} (h : state.IsOn device)
    (event : Event ApiCall PluginObject) : MayMention state event device :=
  ⟨hipSuccess, h.lastSet, .inl (h.current rfl)⟩

/-- Whether or not the device could be set, a handle may be destroyed. -/
theorem DeviceState.WasSet.mayMention {state : DeviceState} {status : BitVec 32}
    (h : state.WasSet device status) {event : Event ApiCall PluginObject}
    (hevent : DestroysHandle event) : MayMention state event device := by
  refine ⟨status, h.lastSet, ?_⟩
  by_cases hstatus : status = hipSuccess
  · exact .inl (h.current hstatus)
  · exact .inr ⟨hstatus, hevent⟩

/-- The programs that may be run in the states with `P`, and that keep this. -/
abbrev KeepsDeviceIn {α : Type} (P : DeviceState → Prop) (x : Run ApiCall PluginObject ε α) :
    Prop :=
  deviceMonitor.Watched P x (fun _ => P) P

/-- In the states with `P`, the device of an object is the current one. -/
def Fits (P : DeviceState → Prop) (object : PluginObject) : Prop :=
  ∀ device, object.device = some device → ∀ state, P state → state.IsOn device

variable {P : DeviceState → Prop}

theorem fits_of_none {object : PluginObject} (h : object.device = none) : Fits P object := by
  intro device hsome
  rw [h] at hsome
  cases hsome

theorem fits_isOn {object : PluginObject} (h : object.device = some device) :
    Fits (·.IsOn device) object := by
  intro other hsome state hon
  rw [h, Option.some.injEq] at hsome
  rwa [← hsome]

/-- An event about objects that fit. -/
theorem watched_record {event : Event ApiCall PluginObject}
    (hset : ∀ state, setBy state event = state)
    (hfits : ∀ object, event.Mentions object → Fits P object) :
    KeepsDeviceIn P (Run.record event : Run ApiCall PluginObject ε Unit) := by
  refine .record fun state hstate => ⟨fun object hmentions other hother => ?_, ?_⟩
  · exact (hfits object hmentions other hother state hstate).mayMention event
  · change P (setBy state event)
    rwa [hset]

theorem watched_call {call : ApiCall} {uses : List PluginObject}
    (hset : ∀ state, setBy state (.call call uses) = state)
    (huses : ∀ object ∈ uses, Fits P object) :
    KeepsDeviceIn P (Run.call call uses : Run ApiCall PluginObject ε Unit) :=
  watched_record hset huses

theorem watched_destroy {object : PluginObject} (hobject : Fits P object)
    (howners : ∀ owner ∈ owners object, Fits P owner) :
    KeepsDeviceIn P (Run.destroy object : Run ApiCall PluginObject ε Unit) := by
  refine watched_record (fun _ => rfl) fun other hmentions => ?_
  rcases hmentions with rfl | hmem
  · exact hobject
  · exact howners other hmem

theorem watched_create {make : ℕ → PluginObject} (hobject : ∀ n, Fits P (make n))
    (howners : ∀ n, ∀ owner ∈ owners (make n), Fits P owner) :
    deviceMonitor.Watched P (Run.create make : Run ApiCall PluginObject ε ℕ) (fun _ => P) P := by
  refine .create fun n state hstate => ⟨fun object hmentions other hother => ?_, hstate⟩
  rcases hmentions with rfl | hmem
  · exact (hobject n other hother state hstate).mayMention _
  · exact (howners n object hmem other hother state hstate).mayMention _

/-- Setting the device of what follows. -/
theorem watched_setDevice (status : BitVec 32) :
    deviceMonitor.Watched P (Run.call (.setDevice device status) [runtime.hipObject] :
      Run ApiCall PluginObject ε Unit) (fun _ => DeviceState.WasSet device status)
        fun _ => True := by
  refine .record fun state _ => ⟨fun object hmem other hother => ?_, rfl, ?_⟩
  · -- the library belongs to no device
    rw [List.mem_singleton.1 hmem] at hother
    cases hother
  · intro hstatus
    exact if_pos hstatus

/-! ### The device of a call -/

theorem watched_loadFirst {object : ℕ → PluginObject} (candidates : List (String × Bool))
    (hdevice : ∀ n, (object n).device = none) (howners : ∀ n, owners (object n) = []) :
    KeepsDeviceIn P (loadFirst object candidates) := by
  induction candidates with
  | nil => exact .throw _ fun _ h => h
  | cons candidate rest ih =>
    obtain ⟨path, loads⟩ := candidate
    refine (watched_call (fun _ => rfl) (List.forall_mem_nil _)).bind fun _ => ?_
    cases loads with
    | true =>
      refine watched_create (fun n => fits_of_none (hdevice n)) fun n => ?_
      rw [howners n]
      exact List.forall_mem_nil _
    | false => exact ih

theorem watched_destroyLibrary {object : PluginObject} (hdevice : object.device = none)
    (howners : owners object = []) :
    KeepsDeviceIn P (Run.destroy object : Run ApiCall PluginObject ε Unit) := by
  refine watched_destroy (fits_of_none hdevice) ?_
  rw [howners]
  exact List.forall_mem_nil _

theorem watched_loadHip (loading : Loading) : KeepsDeviceIn P (loadHip loading) := by
  refine (watched_loadFirst _ (fun _ => rfl) fun _ => rfl).bind fun library => ?_
  have hlibrary : ∀ object ∈ [PluginObject.hipLibrary library], Fits P object :=
    List.forall_mem_singleton.2 (fits_of_none rfl)
  have hinit : KeepsDeviceIn P (do
      Run.lift (forM hipSymbols (loadRequired loading.hipSymbol))
      Run.call .init [.hipLibrary library]
      Run.lift (Except.rejectIf (loading.init ≠ hipSuccess) Status.unavailable) : Plugin Unit) := by
    refine (Monitor.Watched.liftM _).bind fun _ => ?_
    exact (watched_call (fun _ => rfl) hlibrary).bind fun _ => .liftM _
  have hdestroy : KeepsDeviceIn P (Run.destroy (.hipLibrary library) : Plugin Unit) :=
    watched_destroyLibrary rfl rfl
  exact Monitor.Watched.bind (hinit.onError hdestroy) fun _ => .pure fun _ h => h

theorem watched_loadRocblas (loading : Loading) : KeepsDeviceIn P (loadRocblas loading) := by
  refine (watched_loadFirst _ (fun _ => rfl) fun _ => rfl).bind fun library => ?_
  have hdestroy : KeepsDeviceIn P (Run.destroy (.rocblasLibrary library) : Plugin Unit) :=
    watched_destroyLibrary rfl rfl
  exact Monitor.Watched.bind ((Monitor.Watched.liftM _).onError hdestroy)
    fun _ => .pure fun _ h => h

theorem watched_loadRuntime (loading : Loading) : KeepsDeviceIn P (loadRuntime loading) := by
  refine (watched_loadHip loading).bind fun hip => ?_
  have hdestroy : KeepsDeviceIn P (Run.destroy (.hipLibrary hip) : Plugin Unit) :=
    watched_destroyLibrary rfl rfl
  exact Monitor.Watched.bind ((watched_loadRocblas loading).onError hdestroy)
    fun _ => .pure fun _ h => h

/-- The device is checked to be the current one. -/
theorem watched_checkDevice (status : BitVec 32) :
    deviceMonitor.Watched (DeviceState.WasSet device status)
      (Run.lift (Except.rejectIf (status ≠ hipSuccess) Status.unavailable) : Plugin Unit)
      (fun _ => DeviceState.IsOn device) fun _ => True := by
  refine (Monitor.Watched.liftM_eq _).weaken (fun _ h => h) ?_ fun _ _ => trivial
  rintro _ state ⟨hset, hchecked⟩
  have hstatus : status = hipSuccess := not_not.1 (Except.rejectIf_eq_ok_iff.1 hchecked)
  rwa [hstatus] at hset

/-- The device is current when its handle is found. -/
theorem watched_handleFor :
    deviceMonitor.Watched (fun _ => True) (handleFor apis runtime device)
      (fun _ => DeviceState.IsOn device) fun _ => True := by
  refine (watched_setDevice _).bind fun _ => (watched_checkDevice _).bind fun _ => ?_
  split
  · exact .pure fun _ h => h
  · have hlibraries : ∀ object ∈ [runtime.hipObject, runtime.rocblasObject],
        Fits (·.IsOn device) object :=
      List.forall_mem_cons.2 ⟨fits_of_none rfl, List.forall_mem_singleton.2 (fits_of_none rfl)⟩
    have hcall : KeepsDeviceIn (·.IsOn device)
        (Run.call .createHandle [runtime.rocblasObject] : Plugin Unit) :=
      watched_call (fun _ => rfl) (List.forall_mem_singleton.2 (fits_of_none rfl))
    have hcreate : KeepsDeviceIn (·.IsOn device)
        (Run.create (.rocblasHandle runtime.hipObject runtime.rocblasObject device) : Plugin ℕ) :=
      watched_create (fun n => fits_isOn rfl) fun n => hlibraries
    refine (hcall.weaken (fun _ h => h) (fun _ _ h => h) fun _ _ => trivial).bind fun _ => ?_
    dsimp only
    split
    · exact .throw _ fun _ _ => trivial
    · exact (hcreate.weaken (fun _ h => h) (fun _ _ h => h) fun _ _ => trivial).bind
        fun serial => .pure fun _ h => h

theorem watched_importMapped (region : VrbSharedResourceRegionV1) :
    KeepsDeviceIn (·.IsOn device) (importMapped apis runtime device region) := by
  have hhip : Fits (·.IsOn device) runtime.hipObject := fits_of_none rfl
  refine (watched_call (fun _ => rfl) (List.forall_mem_singleton.2 hhip)).bind fun _ => ?_
  refine (Monitor.Watched.liftM _).bind fun _ => ?_
  refine (watched_create (fun n => fits_isOn rfl) fun n =>
    List.forall_mem_singleton.2 hhip).bind fun external => ?_
  have hexternal : Fits (·.IsOn device) (.externalMemory runtime.hipObject device external) :=
    fits_isOn rfl
  have hboth : ∀ object ∈ [runtime.hipObject, .externalMemory runtime.hipObject device external],
      Fits (·.IsOn device) object :=
    List.forall_mem_cons.2 ⟨hhip, List.forall_mem_singleton.2 hexternal⟩
  -- the imported memory is destroyed when it cannot be mapped
  refine Monitor.Watched.onError ?_ (watched_destroy hexternal (List.forall_mem_singleton.2 hhip))
  refine (watched_call (fun _ => rfl) hboth).bind fun _ => ?_
  refine (Monitor.Watched.liftM _).bind fun _ => ?_
  exact (watched_create (fun n => fits_isOn rfl) fun n => hboth).bind fun mapped =>
    .pure fun _ h => h

theorem watched_dropRegion (region : ImportedRegion) :
    KeepsDeviceIn (·.IsOn device) (region.drop runtime device : Plugin Unit) := by
  have hhip : Fits (·.IsOn device) runtime.hipObject := fits_of_none rfl
  have howners : ∀ owner ∈ owners (region.mappedObject runtime device),
      Fits (·.IsOn device) owner :=
    List.forall_mem_cons.2 ⟨hhip, List.forall_mem_singleton.2 (fits_isOn rfl)⟩
  refine (watched_destroy (fits_isOn rfl) howners).bind fun _ => ?_
  exact watched_destroy (fits_isOn rfl) (List.forall_mem_singleton.2 hhip)

/-- A region that is imported at the start of a scope and released at its end. -/
theorem watched_scope {α : Type} {region : VrbSharedResourceRegionV1}
    {body : ImportedRegion → Plugin α}
    (hbody : ∀ imported, KeepsDeviceIn (·.IsOn device) (body imported)) :
    KeepsDeviceIn (·.IsOn device) (importMapped apis runtime device region >>= fun imported =>
      Run.ensure (body imported) (imported.drop runtime device)) :=
  (watched_importMapped region).bind fun imported =>
    (hbody imported).ensure (fun _ => watched_dropRegion imported) (watched_dropRegion imported)

theorem watched_multiply {handle : RocblasHandle} {prepared : PreparedGemm}
    {memory : DeviceMemory} :
    KeepsDeviceIn (·.IsOn device) (multiply apis runtime device handle prepared memory) := by
  refine watched_scope fun a => watched_scope fun b => watched_scope fun c => ?_
  refine (watched_call (fun _ => rfl) ?_).bind fun _ => ?_
  · simp only [List.forall_mem_cons]
    exact ⟨fits_of_none rfl, fits_isOn rfl, fits_isOn rfl, fits_isOn rfl,
      fits_isOn rfl, List.forall_mem_nil _⟩
  dsimp only
  split
  · exact .pure fun _ h => h
  · exact (watched_call (fun _ => rfl) (List.forall_mem_singleton.2 (fits_of_none rfl))).bind
      fun _ => .pure fun _ h => h

/-! ### The device of an object -/

/-- The programs that may be run whatever the current device is. -/
abbrev AnyDevice {α : Type} (x : Run ApiCall PluginObject ε α) : Prop :=
  KeepsDeviceIn (fun _ => True) x

theorem anyDevice_operate {prepared : PreparedGemm} {memory : DeviceMemory} :
    AnyDevice (operate apis runtime prepared memory) := by
  refine watched_handleFor.caught.bind fun outcome => ?_
  cases outcome with
  | error status => exact .pure fun _ h => h
  | ok found =>
    refine watched_multiply.caught.bind fun outcome => ?_
    cases outcome <;> exact .pure fun _ _ => trivial

theorem anyDevice_obtainRuntime (loading : Loading) (kept : Option LoadedRuntime) :
    AnyDevice (obtainRuntime loading kept) := by
  cases kept with
  | none => exact watched_loadRuntime loading
  | some runtime => exact .pure fun _ h => h

theorem anyDevice_serveExecute (loading : Loading) (request : VrbSharedOperatorExecutionRequestV1)
    (state : PluginState) : AnyDevice (serveExecute apis loading request state) := by
  rw [serveExecute]
  cases admitted request with
  | error status => exact .pure fun _ h => h
  | ok prepared =>
    refine (anyDevice_obtainRuntime loading state.runtime).caught.bind fun outcome => ?_
    cases outcome with
    | error status => exact .pure fun _ h => h
    | ok runtime => exact anyDevice_operate.bind fun _ => .pure fun _ h => h

/-- The device of a handle is set before the handle is destroyed, if it can be. -/
theorem anyDevice_dropHandle (entry : BitVec 32 × RocblasHandle) :
    AnyDevice (runtime.dropHandle apis entry) := by
  rw [LoadedRuntime.dropHandle, if_pos entry.2.raw_ne_zero]
  refine (watched_setDevice _).bind fun _ => .record fun state hset => ⟨?_, trivial⟩
  rintro object (rfl | howner) device hdevice
  · obtain rfl : entry.1 = device := Option.some.inj hdevice
    exact hset.mayMention ⟨_, _, _, _, rfl⟩
  · -- the libraries belong to no device
    rcases List.mem_cons.1 howner with rfl | howner
    · cases hdevice
    · rw [List.mem_singleton.1 howner] at hdevice
      cases hdevice

theorem anyDevice_serveShutdown (state : PluginState) :
    AnyDevice (serveShutdown apis state) := by
  rw [serveShutdown]
  cases state.runtime with
  | none => exact .pure fun _ h => h
  | some runtime =>
    have hdrop : AnyDevice (runtime.drop apis) := by
      refine (Monitor.Watched.foldlM (fun _ entry _ => anyDevice_dropHandle entry) ()).bind
        fun _ => ?_
      exact (watched_destroyLibrary rfl rfl).bind fun _ => watched_destroyLibrary rfl rfl
    exact Monitor.Watched.bind hdrop fun _ => .pure fun _ h => h

theorem anyDevice_serveAll (memory : DeviceMemory) (calls : List PluginCall) :
    AnyDevice (serveAll memory calls) := by
  have hstep (served : PluginState × List (Option ExecuteReturn)) (call : PluginCall) :
      AnyDevice (serveStep served call) := by
    refine Monitor.Watched.bind ?_ fun _ => .pure fun _ h => h
    cases call with
    | execute loading apis request =>
      exact (anyDevice_serveExecute loading request _).bind fun _ => .pure fun _ h => h
    | shutdown apis => exact (anyDevice_serveShutdown _).bind fun _ => .pure fun _ h => h
  exact Monitor.Watched.foldlM (fun served call _ => hstep served call) _

/-- **The current device.** In any sequence of calls, whatever HIP and rocBLAS answer, an event
mentions what belongs to a device only after the last call of `hipSetDevice` was for this device,
and while the device is the current one, where only a handle may be destroyed although that call
has failed. -/
theorem serveAll_device (memory : DeviceMemory) (calls : List PluginCall) :
    OnItsDevice ((serveAll memory calls).exec []).2 := by
  intro front event back hlog object hmentions device hdevice
  have hleads := (anyDevice_serveAll memory calls { current := none, lastSet := none } []
    ⟨trivial, trivial⟩).discard.2
  rw [hlog] at hleads
  exact Monitor.allowed_of_split hleads.1 object hmentions device hdevice

end RiftGPU.HipPlugin
