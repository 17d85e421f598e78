import RiftGPU.Gemm.HipAgreement

/-!
# Rejected calls of the HIP plugin

The plugin looks at the receipt buffer only after the multiplication. A call that is rejected for
its receipt buffer has changed C already, and a retry accumulates again.

## Main definitions

* `HipPlugin.RejectedUntouched`: a call that is rejected leaves the device as it was.
* `HipPlugin.ReceiptFits`: the receipt buffer can take the receipt.
* `HipPlugin.Multiplies`: the call gets to a successful multiplication.

## Main results

* `HipPlugin.rejectedUntouched_iff`: which calls leave the device as it was when rejected.
-/

namespace RiftGPU.HipPlugin

open Bytes PluginAbi SharedOperators

variable {runtime : Except (BitVec 32) RuntimeApis} {state : HipState}
variable {request : VrbSharedOperatorExecutionRequestV1}

/-- The statuses of a rejection. -/
def rejections : List (BitVec 32) :=
  [Status.invalidArgument, Status.unsupported, Status.bufferTooSmall]

/-- If the call is rejected, it has not called rocBLAS, and the memory is as before. -/
def RejectedUntouched (runtime : Except (BitVec 32) RuntimeApis) (state : HipState)
    (request : VrbSharedOperatorExecutionRequestV1) : Prop :=
  ((execute runtime request).run state).1.status ∈ rejections →
    ((execute runtime request).run state).2.calls = state.calls ∧
      ((execute runtime request).run state).2.memory = state.memory

/-- The receipt buffer can take the receipt. -/
def ReceiptFits (request : VrbSharedOperatorExecutionRequestV1) : Prop :=
  successReceipt.length ≤ request.receiptCapacity.toNat ∧ request.receiptPtr.isSome

/-- The header of the request is accepted, everything is ready, and the multiplication succeeds. -/
structure Multiplies (runtime : Except (BitVec 32) RuntimeApis) (state : HipState)
    (request : VrbSharedOperatorExecutionRequestV1) (launch : Launch) : Prop where
  header : ¬(request.structSize < expectedExecutionRequestStructSize ∨
    request.operatorId ≠ hipOperatorId ∨ request.receiptLen.isNone)
  ready : Ready runtime state request launch
  outcome : launch.outcome state.memory = .ok ()

theorem length_successReceipt : successReceipt.length = 26 := by decide

/-- The receipt is written when it fits, and otherwise the call is rejected. -/
theorem writeReceipt_status (request : VrbSharedOperatorExecutionRequestV1) :
    (writeReceipt request successReceipt).status ∈ rejections ↔ ¬ReceiptFits request := by
  have hrequired : request.receiptCapacity < BitVec.ofNat 64 successReceipt.length ↔
      ¬successReceipt.length ≤ request.receiptCapacity.toNat := by
    rw [length_successReceipt, not_le]
    exact BitVec.lt_def
  have hpositive : BitVec.ofNat 64 successReceipt.length > 0#64 := by
    rw [length_successReceipt]
    decide
  rw [writeReceipt, ReceiptFits, not_and_or, ← hrequired]
  split_ifs with hsmall hnull
  · have hmem : Status.bufferTooSmall ∈ rejections := by decide
    exact iff_of_true hmem (.inl hsmall)
  · have hmem : Status.invalidArgument ∈ rejections := by decide
    exact iff_of_true hmem (.inr (by simpa using hnull.2))
  · have hmem : Status.ok ∉ rejections := by decide
    refine iff_of_false hmem (not_or.2 ⟨hsmall, ?_⟩)
    simpa [hpositive] using hnull

/-- A call that gets to a successful multiplication has called rocBLAS, and its status is that of
writing the receipt. -/
theorem Multiplies.untouched_iff {launch : Launch}
    (h : Multiplies runtime state request launch) :
    RejectedUntouched runtime state request ↔ ReceiptFits request := by
  obtain ⟨handles, hrun⟩ := executeWindows_of_ready h.ready
  rw [RejectedUntouched, execute, if_neg h.header, hrun, h.outcome]
  have hcalls : state.calls ++ [launch.call] ≠ state.calls := by simp
  simp only [returnOf, writeReceipt_status, hcalls, false_and, imp_false, not_not]

/-- A call that does not get to a successful multiplication is not rejected, or leaves the device
as it was. -/
theorem rejectedUntouched_of_not_multiplies
    (h : ∀ launch, ¬Multiplies runtime state request launch) :
    RejectedUntouched runtime state request := by
  rw [RejectedUntouched, execute]
  split_ifs with hheader
  · exact fun _ => ⟨rfl, rfl⟩
  · by_cases hready : ∃ launch, Ready runtime state request launch
    · obtain ⟨launch, hready⟩ := hready
      obtain ⟨handles, hrun⟩ := executeWindows_of_ready hready
      rw [hrun]
      cases houtcome : launch.outcome state.memory with
      | ok u => exact absurd ⟨hheader, hready, houtcome⟩ (h launch)
      | error status =>
        rw [Launch.outcome, Except.rejectIf_eq_error_iff] at houtcome
        obtain ⟨_, rfl⟩ := houtcome
        have hmem : Status.internalError ∉ rejections := by decide
        exact fun hrejected => absurd hrejected hmem
    · obtain ⟨status, handles, hrun⟩ := executeWindows_of_not_ready (not_exists.1 hready)
      rw [hrun]
      exact fun _ => ⟨rfl, rfl⟩

/-- **Rejected calls.** A call leaves the device as it was when it is rejected exactly when its
receipt buffer can take the receipt or it does not get to a successful multiplication. -/
theorem rejectedUntouched_iff (runtime : Except (BitVec 32) RuntimeApis) (state : HipState)
    (request : VrbSharedOperatorExecutionRequestV1) :
    RejectedUntouched runtime state request ↔
      ReceiptFits request ∨ ∀ launch, ¬Multiplies runtime state request launch := by
  by_cases hmultiplies : ∃ launch, Multiplies runtime state request launch
  · obtain ⟨launch, h⟩ := hmultiplies
    rw [h.untouched_iff]
    exact ⟨.inl, fun hor => hor.resolve_right fun hnone => hnone launch h⟩
  · have hnone := not_exists.1 hmultiplies
    exact iff_of_true (rejectedUntouched_of_not_multiplies hnone) (.inr hnone)

/-- A request without a receipt buffer is rejected after C was overwritten. -/
theorem execute_rejected_after_multiplication :
    ((execute (.ok (exactApis rowMemory)) rowExecution).run rowState).1.status =
      Status.bufferTooSmall ∧
    ((execute (.ok (exactApis rowMemory)) rowExecution).run rowState).2.calls =
      [gemmCall rowLaunch.prepared 1#64 2#64 3#64] ∧
    rowState.memory 3#64 = [0x41200000#32, 0x41a00000#32] ∧
    ((execute (.ok (exactApis rowMemory)) rowExecution).run rowState).2.memory 3#64 =
      [0x41b00000#32, 0x42380000#32] ∧
    ¬RejectedUntouched (.ok (exactApis rowMemory)) rowState rowExecution := by
  have hmultiplies : Multiplies (.ok (exactApis rowMemory)) rowState rowExecution rowLaunch :=
    ⟨by decide, ready_rowLaunch, rfl⟩
  obtain ⟨handles, hrun⟩ := executeWindows_of_ready ready_rowLaunch
  have hexecute : (execute (.ok (exactApis rowMemory)) rowExecution).run rowState = _ := hrun
  rw [hexecute]
  have hmemory : (rowLaunch.multiply rowMemory).2 3#64 = [0x41b00000#32, 0x42380000#32] := by
    decide +kernel
  refine ⟨rfl, rfl, rfl, hmemory, ?_⟩
  rw [hmultiplies.untouched_iff]
  exact fun hfits => absurd hfits.2 (by decide)

end RiftGPU.HipPlugin
