import Mathlib.Tactic.SplitIfs
import RiftGPU.Gemm.HipPlugin

/-!
# What an execution of the HIP plugin does

The checks before HIP is used accept a request exactly when its control, its counts and its regions
are as expected. An execution either multiplies once, or it is rejected and leaves the memory of
the device as it was.

## Main definitions

* `HipPlugin.RegionAccepted`, `HipPlugin.IsPrepared`: what the checks accept.
* `HipPlugin.Ready`: the checks pass, and HIP provides a handle and maps the regions.

## Main results

* `HipPlugin.prepare_eq_ok_iff`: the checks.
* `HipPlugin.executeWindows_of_ready`, `HipPlugin.executeWindows_of_not_ready`: the execution.
-/

namespace RiftGPU.HipPlugin

open Bytes PluginAbi SharedOperators Gemm

/-! ### The checks -/

/-- A region that the checks accept: it lies in its allocation and has the expected length. -/
structure RegionAccepted (region : VrbSharedResourceRegionV1) (access : BitVec 32)
    (expectedBytes : ℕ) : Prop where
  structSize_ge : expectedResourceRegionStructSize ≤ region.structSize
  handleKind : region.handleKind = MemoryHandleTag.win32Kmt
  access : region.access = access
  handle_ne_zero : region.handle ≠ 0#64
  length : region.length.toNat = expectedBytes
  allocationSize_ne_zero : region.allocationSize ≠ 0#64
  stop_le : region.offset.toNat + region.length.toNat ≤ region.allocationSize.toNat

theorem validateRegion_iff {region : VrbSharedResourceRegionV1} {access : BitVec 32}
    {expectedBytes : BitVec 64} :
    validateRegion region access expectedBytes = true ↔
      RegionAccepted region access expectedBytes.toNat := by
  have hstop : (region.offset.checkedAdd region.length).any (fun stop =>
      stop ≤ region.allocationSize) = true ↔
      region.offset.toNat + region.length.toNat ≤ region.allocationSize.toNat := by
    simp only [Option.any_eq_true, BitVec.checkedAdd_eq_some_iff, decide_eq_true_eq, BitVec.le_def]
    constructor
    · rintro ⟨stop, hstop, hle⟩
      rwa [← hstop]
    · intro hle
      obtain ⟨stop, hstop⟩ := BitVec.exists_toNat_eq (hle.trans_lt region.allocationSize.isLt)
      exact ⟨stop, hstop, hstop ▸ hle⟩
  rw [validateRegion]
  split_ifs with hreject
  · refine ⟨False.elim, fun h => absurd hreject ?_⟩
    have hlength : region.length = expectedBytes := BitVec.eq_of_toNat_eq h.length
    simp [BitVec.not_lt.2 h.structSize_ge, h.handleKind, h.access, h.handle_ne_zero, hlength,
      h.allocationSize_ne_zero]
  · simp only [not_or, not_not, BitVec.not_lt] at hreject
    obtain ⟨hsize, hkind, haccess, hhandle, hlength, hallocation⟩ := hreject
    rw [hstop]
    exact ⟨fun h => ⟨hsize, hkind, haccess, hhandle, by rw [hlength], hallocation, h⟩,
      fun h => h.stop_le⟩

theorem dimension_eq_some_iff {value : BitVec 64} {word : BitVec 32} :
    dimension value = some word ↔ value.toNat < 2 ^ 31 ∧ word.toNat = value.toNat := by
  unfold dimension
  split_ifs with h
  · have hword : (BitVec.ofNat 32 value.toNat).toNat = value.toNat := by
      rw [BitVec.toNat_ofNat, Nat.mod_eq_of_lt (by omega)]
    rw [Option.some_inj]
    exact ⟨fun heq => heq ▸ ⟨h, hword⟩, fun heq => BitVec.eq_of_toNat_eq (hword.trans heq.2.symm)⟩
  · exact ⟨False.elim, fun heq => absurd heq.1 h⟩

/-- What the checks accept, and what they compute. -/
structure IsPrepared (request : VrbSharedOperatorExecutionRequestV1) (prepared : PreparedGemm) :
    Prop where
  control : ∃ metadata, abiSlice request.metadataPtr request.metadataLen = .ok metadata ∧
    decodeControl metadata = .ok prepared.control
  resourceCount : request.resourceCount.toNat = sharedGemmResourceCount
  resources : ¬request.resourcesPtr.isNone
  waitCount : request.waitCount = 0#32
  signalCount : request.signalCount = 0#32
  a_eq : prepared.a = (readArray request.resourcesPtr sharedGemmResourceCount).getD 0 {}
  b_eq : prepared.b = (readArray request.resourcesPtr sharedGemmResourceCount).getD 1 {}
  c_eq : prepared.c = (readArray request.resourcesPtr sharedGemmResourceCount).getD 2 {}
  a : RegionAccepted prepared.a ResourceAccessTag.readOnly
    (4 * (prepared.control.m.toNat * prepared.control.k.toNat))
  b : RegionAccepted prepared.b ResourceAccessTag.readOnly
    (4 * (prepared.control.k.toNat * prepared.control.n.toNat))
  c : RegionAccepted prepared.c ResourceAccessTag.readWrite
    (4 * (prepared.control.m.toNat * prepared.control.n.toNat))
  m : prepared.control.m.toNat < 2 ^ 31 ∧ prepared.m.toNat = prepared.control.m.toNat
  n : prepared.control.n.toNat < 2 ^ 31 ∧ prepared.n.toNat = prepared.control.n.toNat
  k : prepared.control.k.toNat < 2 ^ 31 ∧ prepared.k.toNat = prepared.control.k.toNat

theorem prepare_eq_ok_iff {request : VrbSharedOperatorExecutionRequestV1}
    {prepared : PreparedGemm} :
    prepare request = .ok prepared ↔ IsPrepared request prepared := by
  simp only [prepare, Except.bind_eq_ok_iff, Except.mapError_eq_ok_iff,
    Except.rejectIf_eq_ok_iff, exists_const, not_or, Option.okOr_eq_ok_iff,
    Except.pure_eq_ok_iff, expectedResourceLengths_eq_ok_iff, dimension_eq_some_iff,
    Bool.not_eq_true', Bool.not_eq_false, validateRegion_iff]
  constructor
  · rintro ⟨metadata, hmetadata, control, hcontrol, ⟨hcount, hresources, hwait, hsignal⟩, lengths,
      ⟨_, ha, hb, hc⟩, ⟨hregionA, hregionB, hregionC⟩, m, hm, n, hn, k, hk, rfl⟩
    exact {
      control := ⟨metadata, hmetadata, hcontrol⟩
      resourceCount := not_not.1 hcount
      resources := hresources
      waitCount := not_not.1 hwait
      signalCount := not_not.1 hsignal
      a_eq := rfl
      b_eq := rfl
      c_eq := rfl
      a := ha ▸ hregionA
      b := hb ▸ hregionB
      c := hc ▸ hregionC
      m := hm
      n := hn
      k := hk }
  · intro h
    obtain ⟨metadata, hmetadata, hcontrol⟩ := h.control
    have hlengths (region : VrbSharedResourceRegionV1) {access : BitVec 32} {expected : ℕ}
        (haccepted : RegionAccepted region access expected) :
        RegionAccepted region access region.length.toNat := haccepted.length ▸ haccepted
    refine ⟨metadata, hmetadata, prepared.control, hcontrol,
      ⟨not_not.2 h.resourceCount, h.resources, not_not.2 h.waitCount, not_not.2 h.signalCount⟩,
      ⟨prepared.a.length, prepared.b.length, prepared.c.length⟩,
      ⟨valid_of_decodeControl hcontrol, h.a.length, h.b.length, h.c.length⟩, ⟨?_, ?_, ?_⟩,
      prepared.m, h.m, prepared.n, h.n, prepared.k, h.k, ?_⟩
    · exact h.a_eq ▸ hlengths _ h.a
    · exact h.b_eq ▸ hlengths _ h.b
    · exact h.c_eq ▸ hlengths _ h.c
    · rw [← h.a_eq, ← h.b_eq, ← h.c_eq]

/-! ### Running functions of the plugin -/

namespace HipM

variable {α β : Type}

/-- The outcome of a function from a state on. -/
def runFrom (x : HipM α) (state : HipState) : Except (BitVec 32) α × HipState :=
  StateT.run (ExceptT.run x) state

variable {x : HipM α} {f : α → HipM β} {state state' : HipState}

theorem runFrom_bind :
    (x >>= f).runFrom state =
      ExceptT.bindCont f (x.runFrom state).1 (x.runFrom state).2 := rfl

theorem runFrom_bind_of_ok {a : α} (h : x.runFrom state = (.ok a, state')) :
    (x >>= f).runFrom state = (f a).runFrom state' := by
  rw [runFrom_bind, h]
  rfl

theorem runFrom_bind_of_error {status : BitVec 32} (h : x.runFrom state = (.error status, state')) :
    (x >>= f).runFrom state = (.error status, state') := by
  rw [runFrom_bind, h]
  rfl

@[simp] theorem runFrom_lift (result : Except (BitVec 32) α) :
    (lift result).runFrom state = (result, state) := rfl

@[simp] theorem runFrom_rejectIf (p : Prop) [Decidable p] (status : BitVec 32) :
    (rejectIf p status).runFrom state = (Except.rejectIf p status, state) := rfl

/-- The memory of the device and the calls made so far stay as they are. -/
def KeepsDevice (x : HipM α) : Prop :=
  ∀ state, (x.runFrom state).2.memory = state.memory ∧ (x.runFrom state).2.calls = state.calls

theorem KeepsDevice.pure (a : α) : KeepsDevice (Pure.pure a) := fun _ => ⟨rfl, rfl⟩

theorem KeepsDevice.get : KeepsDevice MonadState.get := fun _ => ⟨rfl, rfl⟩

theorem KeepsDevice.rejectIf (p : Prop) [Decidable p] (status : BitVec 32) :
    KeepsDevice (rejectIf p status) := fun _ => ⟨rfl, rfl⟩

theorem KeepsDevice.bind (hx : KeepsDevice x) (hf : ∀ a, KeepsDevice (f a)) :
    KeepsDevice (x >>= f) := by
  intro state
  obtain ⟨hmemory, hcalls⟩ := hx state
  cases h : x.runFrom state with
  | mk outcome state' =>
    rw [h] at hmemory hcalls
    cases outcome with
    | error status =>
      rw [runFrom_bind_of_error h]
      exact ⟨hmemory, hcalls⟩
    | ok a =>
      rw [runFrom_bind_of_ok h]
      exact ⟨(hf a state').1.trans hmemory, (hf a state').2.trans hcalls⟩

end HipM

/-- The lookup of a handle may create one, and changes nothing else. -/
theorem keepsDevice_handleForDevice (apis : RuntimeApis) (deviceIndex : BitVec 32) :
    HipM.KeepsDevice (handleForDevice apis deviceIndex) := by
  refine .bind (.rejectIf _ _) fun _ => .bind .get fun state => ?_
  cases state.handles.lookup deviceIndex with
  | some handle => exact .pure handle
  | none => exact .bind (.rejectIf _ _) fun _ => .bind (fun _ => ⟨rfl, rfl⟩) fun _ => .pure _

/-! ### The execution of a request -/

/-- What the plugin has at hand when it multiplies. -/
structure Launch where
  apis : RuntimeApis
  prepared : PreparedGemm
  handle : BitVec 64
  a : DevicePtr
  b : DevicePtr
  c : DevicePtr

/-- The call of `rocblas_sgemm`. -/
def Launch.call (launch : Launch) : SgemmCall :=
  gemmCall launch.prepared launch.a launch.b launch.c

/-- The status and the memory after the call. -/
def Launch.multiply (launch : Launch) (memory : DeviceMemory) : BitVec 32 × DeviceMemory :=
  launch.apis.rocblas.sgemm launch.handle launch.call memory

/-- The runtime is loaded, the checks of the request pass, and HIP provides a handle and maps the
regions. -/
structure Ready (runtime : Except (BitVec 32) RuntimeApis) (state : HipState)
    (request : VrbSharedOperatorExecutionRequestV1) (launch : Launch) : Prop where
  apis : runtime = .ok launch.apis
  prepared : prepare request = .ok launch.prepared
  handle : ((handleForDevice launch.apis launch.prepared.control.hipDeviceIndex).runFrom state).1 =
    .ok launch.handle
  a : importRegion launch.apis.hip launch.prepared.a = .ok launch.a
  b : importRegion launch.apis.hip launch.prepared.b = .ok launch.b
  c : importRegion launch.apis.hip launch.prepared.c = .ok launch.c

/-- The return value for an outcome of the part that uses HIP. -/
def returnOf (request : VrbSharedOperatorExecutionRequestV1) :
    Except (BitVec 32) Unit → ExecuteReturn
  | .error status => rejected request status
  | .ok () => writeReceipt request successReceipt

theorem executeWindows_eq {runtime : Except (BitVec 32) RuntimeApis}
    {request : VrbSharedOperatorExecutionRequestV1} {prepared : PreparedGemm}
    {state state' : HipState} {outcome : Except (BitVec 32) Unit}
    (hprepare : prepare request = .ok prepared)
    (houtcome : (HipM.lift runtime >>= fun apis => runGemm apis prepared).runFrom state =
      (outcome, state')) :
    (executeWindows runtime request).run state = (returnOf request outcome, state') := by
  rw [executeWindows, hprepare]
  dsimp only
  rw [StateT.run_bind]
  change (do
    let outcome ← pure ((HipM.lift runtime >>= fun apis => runGemm apis prepared).runFrom state)
    _ : Id _) = _
  rw [houtcome]
  cases outcome <;> rfl

theorem executeWindows_of_prepare_error {runtime : Except (BitVec 32) RuntimeApis}
    {request : VrbSharedOperatorExecutionRequestV1} {status : BitVec 32} (state : HipState)
    (hprepare : prepare request = .error status) :
    (executeWindows runtime request).run state = (rejected request status, state) := by
  rw [executeWindows, hprepare]
  rfl

/-- The outcome of the call: it fails when rocBLAS or the synchronization of the device does. -/
def Launch.outcome (launch : Launch) (memory : DeviceMemory) : Except (BitVec 32) Unit :=
  Except.rejectIf ((launch.multiply memory).1 ≠ rocblasStatusSuccess ∨
    launch.apis.hip.deviceSynchronize ≠ hipSuccess) Status.internalError

theorem runFrom_callSgemm (apis : RuntimeApis) (handle : BitVec 64) (call : SgemmCall)
    (state : HipState) :
    (callSgemm apis handle call).runFrom state =
      (.ok (apis.rocblas.sgemm handle call state.memory).1, {
        state with
        memory := (apis.rocblas.sgemm handle call state.memory).2
        calls := state.calls ++ [call] }) := rfl

/-- The part that uses HIP, when the regions are mapped. -/
theorem runGemm_of_mapped {launch : Launch} {state state' : HipState}
    (hhandle : (handleForDevice launch.apis launch.prepared.control.hipDeviceIndex).runFrom state =
      (.ok launch.handle, state'))
    (ha : importRegion launch.apis.hip launch.prepared.a = .ok launch.a)
    (hb : importRegion launch.apis.hip launch.prepared.b = .ok launch.b)
    (hc : importRegion launch.apis.hip launch.prepared.c = .ok launch.c) :
    (runGemm launch.apis launch.prepared).runFrom state =
      (launch.outcome state'.memory, {
        state' with
        memory := (launch.multiply state'.memory).2
        calls := state'.calls ++ [launch.call] }) := by
  rw [runGemm, HipM.runFrom_bind_of_ok hhandle, ha, HipM.runFrom_bind_of_ok (HipM.runFrom_lift _),
    hb, HipM.runFrom_bind_of_ok (HipM.runFrom_lift _),
    hc, HipM.runFrom_bind_of_ok (HipM.runFrom_lift _),
    HipM.runFrom_bind_of_ok (runFrom_callSgemm ..), Launch.outcome, Launch.multiply, Launch.call]
  by_cases hstatus : (launch.apis.rocblas.sgemm launch.handle
      (gemmCall launch.prepared launch.a launch.b launch.c) state'.memory).1 ≠ rocblasStatusSuccess
  · rw [Except.rejectIf, if_pos (.inl hstatus)]
    refine HipM.runFrom_bind_of_error ?_
    rw [HipM.runFrom_rejectIf, Except.rejectIf, if_pos hstatus]
  · rw [HipM.runFrom_bind_of_ok (by rw [HipM.runFrom_rejectIf, Except.rejectIf_of_not hstatus]),
      HipM.runFrom_rejectIf]
    simp only [hstatus, false_or]

/-- When everything is ready, the plugin multiplies once. -/
theorem executeWindows_of_ready {runtime : Except (BitVec 32) RuntimeApis} {state : HipState}
    {request : VrbSharedOperatorExecutionRequestV1} {launch : Launch}
    (h : Ready runtime state request launch) :
    ∃ handles, (executeWindows runtime request).run state =
      (returnOf request (launch.outcome state.memory), {
        handles
        memory := (launch.multiply state.memory).2
        calls := state.calls ++ [launch.call] }) := by
  obtain ⟨hmemory, hcalls⟩ := keepsDevice_handleForDevice launch.apis
    launch.prepared.control.hipDeviceIndex state
  have hhandle := h.handle
  cases hrun : (handleForDevice launch.apis
      launch.prepared.control.hipDeviceIndex).runFrom state with
  | mk outcome state' =>
    rw [hrun] at hhandle hmemory hcalls
    subst hhandle
    refine ⟨state'.handles, executeWindows_eq h.prepared ?_⟩
    rw [h.apis, HipM.runFrom_bind_of_ok (HipM.runFrom_lift _),
      runGemm_of_mapped hrun h.a h.b h.c, ← hmemory, ← hcalls]

/-- The part that uses HIP fails without a call when a region is not mapped. -/
theorem runGemm_of_not_mapped {apis : RuntimeApis} {prepared : PreparedGemm} {handle : BitVec 64}
    {state state' : HipState}
    (hhandle : (handleForDevice apis prepared.control.hipDeviceIndex).runFrom state =
      (.ok handle, state'))
    (hunmapped : ∀ a b c, ¬(importRegion apis.hip prepared.a = .ok a ∧
      importRegion apis.hip prepared.b = .ok b ∧ importRegion apis.hip prepared.c = .ok c)) :
    ∃ status, (runGemm apis prepared).runFrom state = (.error status, state') := by
  rw [runGemm, HipM.runFrom_bind_of_ok hhandle]
  cases ha : importRegion apis.hip prepared.a with
  | error status => exact ⟨status, HipM.runFrom_bind_of_error (HipM.runFrom_lift _)⟩
  | ok a =>
    rw [HipM.runFrom_bind_of_ok (HipM.runFrom_lift _)]
    cases hb : importRegion apis.hip prepared.b with
    | error status => exact ⟨status, HipM.runFrom_bind_of_error (HipM.runFrom_lift _)⟩
    | ok b =>
      rw [HipM.runFrom_bind_of_ok (HipM.runFrom_lift _)]
      cases hc : importRegion apis.hip prepared.c with
      | error status => exact ⟨status, HipM.runFrom_bind_of_error (HipM.runFrom_lift _)⟩
      | ok c => exact absurd ⟨ha, hb, hc⟩ (hunmapped a b c)

/-- Otherwise the execution is rejected, and the device is as before. -/
theorem executeWindows_of_not_ready {runtime : Except (BitVec 32) RuntimeApis} {state : HipState}
    {request : VrbSharedOperatorExecutionRequestV1}
    (h : ∀ launch, ¬Ready runtime state request launch) :
    ∃ status handles, (executeWindows runtime request).run state =
      (rejected request status, { state with handles }) := by
  cases hprepare : prepare request with
  | error status =>
    exact ⟨status, state.handles, executeWindows_of_prepare_error state hprepare⟩
  | ok prepared =>
    cases runtime with
    | error status =>
      exact ⟨status, state.handles,
        executeWindows_eq hprepare (HipM.runFrom_bind_of_error (HipM.runFrom_lift _))⟩
    | ok apis =>
      obtain ⟨hmemory, hcalls⟩ := keepsDevice_handleForDevice apis
        prepared.control.hipDeviceIndex state
      cases hrun : (handleForDevice apis prepared.control.hipDeviceIndex).runFrom state with
      | mk outcome state' =>
        rw [hrun] at hmemory hcalls
        have hfail : ∃ status, (runGemm apis prepared).runFrom state = (.error status, state') := by
          cases outcome with
          | error status => exact ⟨status, HipM.runFrom_bind_of_error hrun⟩
          | ok handle =>
            refine runGemm_of_not_mapped hrun fun a b c ⟨ha, hb, hc⟩ => ?_
            exact h ⟨apis, prepared, handle, a, b, c⟩
              ⟨rfl, hprepare, congrArg Prod.fst hrun, ha, hb, hc⟩
        obtain ⟨status, hstatus⟩ := hfail
        have houtcome : (HipM.lift (.ok apis) >>= fun apis => runGemm apis prepared).runFrom state =
            (.error status, { state with handles := state'.handles }) := by
          rw [HipM.runFrom_bind_of_ok (HipM.runFrom_lift _), hstatus, ← hmemory, ← hcalls]
        exact ⟨status, state'.handles, executeWindows_eq hprepare houtcome⟩

end RiftGPU.HipPlugin
