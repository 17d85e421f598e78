import RiftGPU.SharedBuffers.Session

/-!
# When exported buffers are reclaimed

A buffer that was released to the external consumer has to be acquired before it is destroyed. The
loop that reclaims the buffers runs after the callback, and the loop that releases them returns
early when a release or an export fails. So a session reclaims what it released unless one of these
calls fails after the first release has succeeded.

## Main definitions

* `SharedBuffers.Reclaimed`: every released buffer is acquired later, or the attempt is made.
* `SharedBuffers.VulkanDriver.Prepared`: a session gets past the creation of its buffers.

## Main results

* `SharedBuffers.VulkanDriver.reclaimed_shareBuffers_iff`: a session whose buffers exist.
-/

namespace RiftGPU.SharedBuffers

open Bytes VulkanDriver

/-- After every release that succeeds, an acquisition of the buffer is attempted. -/
def Reclaimed (log : List SessionEvent) : Prop :=
  ∀ index, .succeeded (.releaseToExternal index) ∈ log →
    [.succeeded (.releaseToExternal index), .attempted (.acquireFromExternal index)].Sublist log

/-- Not a release that succeeds. -/
def NoRelease (event : SessionEvent) : Prop :=
  ∀ index, event ≠ .succeeded (.releaseToExternal index)

/-- Not an acquisition. -/
def NoAcquire (event : SessionEvent) : Prop :=
  ∀ index, event ≠ .attempted (.acquireFromExternal index)

theorem reclaimed_of_noRelease {log : List SessionEvent} (h : ∀ event ∈ log, NoRelease event) :
    Reclaimed log := fun index hmem => (h _ hmem index rfl).elim

theorem not_reclaimed_of_noAcquire {log : List SessionEvent} (index : ℕ)
    (hrelease : .succeeded (.releaseToExternal index) ∈ log)
    (h : ∀ event ∈ log, NoAcquire event) : ¬Reclaimed log := by
  intro hreclaimed
  have hacquire : .attempted (.acquireFromExternal index) ∈ log :=
    (hreclaimed index hrelease).subset (by simp)
  exact h _ hacquire index rfl

theorem reclaimed_append {front back : List SessionEvent}
    (hfront : ∀ index, .succeeded (.releaseToExternal index) ∈ front →
      .attempted (.acquireFromExternal index) ∈ back)
    (hback : ∀ event ∈ back, NoRelease event) : Reclaimed (front ++ back) := by
  intro index hmem
  have hrelease : .succeeded (.releaseToExternal index) ∈ front :=
    (List.mem_append.1 hmem).resolve_right fun hmem => hback _ hmem index rfl
  exact (List.singleton_sublist.2 hrelease).append
    (List.singleton_sublist.2 (hfront index hrelease))

/-- Events before the first release do not matter. -/
theorem reclaimed_append_iff {front back : List SessionEvent}
    (hfront : ∀ event ∈ front, NoRelease event) :
    Reclaimed (front ++ back) ↔ Reclaimed back := by
  constructor
  · intro h index hmem
    obtain ⟨first, second, heq, hfirst, hsecond⟩ :=
      List.sublist_append_iff.1 (h index (List.mem_append_right front hmem))
    cases first with
    | nil => exact heq ▸ hsecond
    | cons event events =>
      obtain ⟨rfl, -⟩ := List.cons.inj heq
      exact absurd rfl (hfront _ (hfirst.subset List.mem_cons_self) index)
  · intro h index hmem
    have hback := (List.mem_append.1 hmem).resolve_left fun hmem => hfront _ hmem index rfl
    exact (h index hback).trans (List.sublist_append_right front back)

namespace VulkanDriver

variable (driver : VulkanDriver)

/-- The call returns without an error. -/
def Succeeds (call : VulkanCall) : Prop := driver.outcome call = .ok ()

/-! ### Single calls -/

variable {driver}

@[simp] theorem result_call (call : VulkanCall) :
    (driver.call call).result = driver.outcome call := by
  simp only [VulkanDriver.call, Traced.result_bind, Traced.result_record, Traced.result_liftM,
    Except.ok_bind]
  cases driver.outcome call <;> rfl

theorem exists_outcome_iff {call : VulkanCall} :
    (∃ u, driver.outcome call = .ok u) ↔ driver.Succeeds call :=
  ⟨fun ⟨_, h⟩ => h, fun h => ⟨(), h⟩⟩

theorem attempted_mem_log_call (call : VulkanCall) :
    .attempted call ∈ (driver.call call).log := List.mem_cons_self

theorem succeeded_mem_log_call {call : VulkanCall} (h : driver.Succeeds call) :
    .succeeded call ∈ (driver.call call).log := by
  rw [VulkanDriver.call, Traced.log_record_bind, h]
  simp

theorem only_call {P : SessionEvent → Prop} {call : VulkanCall} (hattempted : P (.attempted call))
    (hsucceeded : driver.Succeeds call → P (.succeeded call)) : (driver.call call).Only P :=
  (Traced.only_record hattempted).bind fun _ _ => (Traced.only_liftM _).bind fun _ h =>
    Traced.only_record (hsucceeded h)

theorem only_noRelease_call {call : VulkanCall} (h : ∀ index, call ≠ .releaseToExternal index) :
    (driver.call call).Only NoRelease :=
  only_call nofun fun _ index heq => h index (SessionEvent.succeeded.inj heq)

theorem only_noAcquire_call {call : VulkanCall} (h : ∀ index, call ≠ .acquireFromExternal index) :
    (driver.call call).Only NoAcquire :=
  only_call (fun index heq => h index (SessionEvent.attempted.inj heq)) nofun

/-! ### Creating the buffers -/

variable (driver) in
/-- All calls that create the buffer at `index` and write its initial data succeed. -/
structure Creates (spec : SharedBufferSpec) (index : ℕ) : Prop where
  create : driver.Succeeds (.createSharedBuffer index)
  upload : spec.initialData.isSome → driver.Succeeds (.createUploadBuffer index) ∧
    driver.Succeeds (.writeStaging index) ∧ driver.Succeeds (.copyStagingToDevice index)

theorem exists_result_createStep_iff (buffers : List VulkanBuffer)
    (entry : SharedBufferSpec × ℕ) :
    (∃ t, (driver.createStep buffers entry).result = .ok t) ↔
      driver.Creates entry.1 entry.2 := by
  obtain ⟨spec, index⟩ := entry
  have hsplit : driver.Creates spec index ↔ driver.Succeeds (.createSharedBuffer index) ∧
      (spec.initialData.isSome → driver.Succeeds (.createUploadBuffer index) ∧
        driver.Succeeds (.writeStaging index) ∧ driver.Succeeds (.copyStagingToDevice index)) :=
    ⟨fun h => ⟨h.create, h.upload⟩, fun h => ⟨h.1, h.2⟩⟩
  rw [hsplit]
  dsimp only [createStep]
  cases spec.initialData <;> simp [upload, exists_outcome_iff, Except.bind_eq_ok_iff]

theorem only_createStep (buffers : List VulkanBuffer) (entry : SharedBufferSpec × ℕ) :
    (driver.createStep buffers entry).Only NoRelease := by
  obtain ⟨spec, index⟩ := entry
  refine (only_noRelease_call (by simp)).bind fun _ _ => ?_
  have hupload : (driver.upload index).Only NoRelease :=
    (only_noRelease_call (by simp)).bind fun _ _ => (only_noRelease_call (by simp)).bind fun _ _ =>
      only_noRelease_call (by simp)
  cases spec.initialData with
  | none => exact (Traced.only_pure ()).bind fun _ _ => Traced.only_pure _
  | some initial => exact hupload.bind fun _ _ => Traced.only_pure _

theorem length_of_createStep {buffers buffers' : List VulkanBuffer}
    {entry : SharedBufferSpec × ℕ} (h : (driver.createStep buffers entry).result = .ok buffers') :
    buffers'.length = buffers.length + 1 := by
  simp only [createStep, Traced.result_bind, Except.bind_eq_ok_iff] at h
  obtain ⟨_, _, _, _, h⟩ := h
  rw [← Except.ok.inj h, List.length_append, List.length_singleton]

/-- The buffers are created exactly when the calls for each of them succeed. -/
theorem exists_createBuffers_iff {specs : List SharedBufferSpec} :
    (∃ buffers, (specs.zipIdx.foldlM driver.createStep []).result = .ok buffers) ↔
      ∀ index spec, specs[index]? = some spec → driver.Creates spec index := by
  rw [Traced.result_foldlM, Except.exists_foldlM_eq_ok_iff fun buffers entry _ =>
    exists_result_createStep_iff buffers entry]
  simp only [Prod.forall, List.mem_zipIdx_iff_getElem?]
  exact forall_comm

/-! ### Exporting the buffers -/

variable (driver) in
/-- The buffer at `index` is released and its handle is exported. -/
def Exports (index : ℕ) : Prop :=
  driver.Succeeds (.releaseToExternal index) ∧ driver.Succeeds (.exportKmtHandle index)

theorem exists_result_exportStep_iff (exported : List ExportedSharedBuffer)
    (entry : VulkanBuffer × ℕ) :
    (∃ t, (driver.exportStep exported entry).result = .ok t) ↔ driver.Exports entry.2 := by
  simp [exportStep, Exports, exists_outcome_iff, Except.bind_eq_ok_iff]

/-- All buffers are exported exactly when the calls for each of them succeed. -/
theorem exists_exportBuffers_iff {buffers : List VulkanBuffer} :
    (∃ exported, (buffers.zipIdx.foldlM driver.exportStep []).result = .ok exported) ↔
      ∀ index < buffers.length, driver.Exports index := by
  rw [Traced.result_foldlM, Except.exists_foldlM_eq_ok_iff fun exported entry _ =>
    exists_result_exportStep_iff exported entry]
  simp only [Prod.forall, List.mem_zipIdx_iff_getElem?]
  constructor
  · intro h index hindex
    exact h buffers[index] index (List.getElem?_eq_getElem hindex)
  · intro h buffer index hbuffer
    exact h index (List.getElem?_eq_some_iff.1 hbuffer).1

theorem only_exportStep_noAcquire (exported : List ExportedSharedBuffer)
    (entry : VulkanBuffer × ℕ) : (driver.exportStep exported entry).Only NoAcquire :=
  (only_noAcquire_call (by simp)).bind fun _ _ => (only_noAcquire_call (by simp)).bind fun _ _ =>
    Traced.only_pure _

/-- Only buffers of the session are released. -/
theorem only_exportBuffers (buffers : List VulkanBuffer) :
    (buffers.zipIdx.foldlM driver.exportStep []).Only fun event =>
      ∀ index, event = .succeeded (.releaseToExternal index) → index < buffers.length := by
  refine Traced.only_foldlM (fun exported entry hentry => ?_) []
  have hlt : entry.2 < buffers.length :=
    (List.getElem?_eq_some_iff.1 (List.mem_zipIdx_iff_getElem?.1 hentry)).1
  refine (only_call (by simp) fun _ => by simpa using hlt).bind fun _ _ => ?_
  exact (only_call (by simp) (by simp)).bind fun _ _ => Traced.only_pure _

/-- When an export fails, the buffers are reclaimed only if none was released. -/
theorem reclaimed_exportBuffers_iff {buffers : List VulkanBuffer} (hne : buffers ≠ []) :
    Reclaimed (buffers.zipIdx.foldlM driver.exportStep []).log ↔
      ¬driver.Succeeds (.releaseToExternal 0) := by
  obtain ⟨buffer, rest, rfl⟩ := List.exists_cons_of_ne_nil hne
  rw [List.zipIdx_cons]
  constructor
  · intro hreclaimed hrelease
    have hfirst : .succeeded (.releaseToExternal 0) ∈ (driver.exportStep [] (buffer, 0)).log := by
      rw [exportStep, Traced.log_bind]
      exact List.mem_append_left _ (succeeded_mem_log_call hrelease)
    exact not_reclaimed_of_noAcquire 0 (Traced.mem_log_foldlM_first hfirst _)
      (Traced.only_foldlM (fun s entry _ => only_exportStep_noAcquire s entry) []) hreclaimed
  · intro hrelease
    cases houtcome : driver.outcome (.releaseToExternal 0) with
    | ok u => exact absurd houtcome hrelease
    | error error =>
      have hcall : (driver.call (.releaseToExternal 0)).result = .error error := by
        rw [result_call, houtcome]
      have hstep : (driver.exportStep [] (buffer, 0)).result = .error error := by
        rw [exportStep, Traced.result_bind, hcall, Except.error_bind]
      rw [List.foldlM_cons, Traced.log_bind_of_error hstep, exportStep,
        Traced.log_bind_of_error hcall]
      exact reclaimed_of_noRelease (only_call (by simp [NoRelease]) fun h => absurd h hrelease)

/-! ### Reclaiming the buffers -/

theorem log_reclaimStep (reclaimError : Option BackendError) (index : ℕ) :
    (driver.reclaimStep reclaimError index).log =
      (driver.call (.acquireFromExternal index)).log := by
  rw [reclaimStep, Traced.log_bind_of_ok (Traced.result_caught _), Traced.log_caught]
  cases (driver.call (.acquireFromExternal index)).result <;> exact List.append_nil _

/-- The loop that reclaims the buffers runs to its end. -/
theorem exists_reclaimBuffers (n : ℕ) :
    ∃ reclaimError, ((List.range n).foldlM driver.reclaimStep none).result = .ok reclaimError := by
  rw [Traced.result_foldlM]
  refine (Except.exists_foldlM_eq_ok_iff
    (fun reclaimError index _ => iff_of_true ?_ trivial) none).2 fun _ _ => trivial
  rw [reclaimStep, Traced.result_bind, Traced.result_caught, Except.ok_bind]
  cases (driver.call (.acquireFromExternal index)).result with
  | ok u => exact ⟨reclaimError, rfl⟩
  | error error => exact ⟨reclaimError.or (some error), rfl⟩

/-- The loop attempts to acquire every buffer. -/
theorem attempted_mem_reclaimBuffers {n index : ℕ} (hindex : index < n) :
    .attempted (.acquireFromExternal index) ∈
      ((List.range n).foldlM driver.reclaimStep none).log := by
  obtain ⟨reclaimError, hresult⟩ :
      ∃ reclaimError, ((List.range n).foldlM driver.reclaimStep none).result = .ok reclaimError :=
    exists_reclaimBuffers n
  refine Traced.mem_log_foldlM hresult (List.mem_range.2 hindex) fun s t _ => ?_
  rw [log_reclaimStep]
  exact attempted_mem_log_call _

theorem only_reclaimStep (reclaimError : Option BackendError) (index : ℕ) :
    (driver.reclaimStep reclaimError index).Only NoRelease := by
  rw [Traced.Only, log_reclaimStep]
  exact only_noRelease_call (by simp)

theorem only_readStep (readbacks : List (Option (List Byte)))
    (entry : (SharedBufferSpec × VulkanBuffer) × ℕ) :
    (driver.readStep readbacks entry).Only NoRelease := by
  rw [readStep]
  split
  · refine (only_noRelease_call (by simp)).bind fun _ _ => ?_
    refine (only_noRelease_call (by simp)).bind fun _ _ => ?_
    exact (only_noRelease_call (by simp)).bind fun _ _ => Traced.only_pure _
  · exact Traced.only_pure _

/-! ### Sessions -/

theorem ne_nil_of_validateSpecs {setting : Option String} {specs : List SharedBufferSpec}
    (h : validateSpecs setting specs = .ok ()) : specs ≠ [] := by
  rw [validateSpecs, Except.rejectIf_bind_eq_ok_iff] at h
  exact h.1

section

variable {T : Type} (specs : List SharedBufferSpec)
  (operation : List ExportedSharedBuffer → Except BackendError T)

/-- **A session whose buffers exist.** It reclaims every buffer that it releases unless the first
release succeeds and a later release or an export fails. -/
theorem reclaimed_shareBuffers_iff {buffers : List VulkanBuffer} (hne : buffers ≠ []) :
    Reclaimed (driver.shareBuffers specs buffers operation).log ↔
      ¬(driver.Succeeds (.releaseToExternal 0) ∧
        ∃ index < buffers.length, ¬driver.Exports index) := by
  cases hexport : (buffers.zipIdx.foldlM driver.exportStep []).result with
  | error error =>
    have hfails : ∃ index < buffers.length, ¬driver.Exports index := by
      by_contra hall
      push Not at hall
      obtain ⟨exported, hexported⟩ := exists_exportBuffers_iff.2 hall
      rw [hexport] at hexported
      cases hexported
    rw [shareBuffers, Traced.log_bind_of_error hexport, reclaimed_exportBuffers_iff hne,
      not_and_or, or_iff_left fun h => h hfails]
  | ok exported =>
    have hall := exists_exportBuffers_iff.1 ⟨exported, hexport⟩
    refine iff_of_true ?_ fun h => h.2.elim fun index hindex => hindex.2 (hall index hindex.1)
    rw [shareBuffers, Traced.log_bind_of_ok hexport, Traced.log_record_bind]
    refine reclaimed_append (fun index hrelease => ?_) ?_
    · have hindex := only_exportBuffers buffers _ hrelease index rfl
      refine List.mem_cons_of_mem _ ?_
      rw [Traced.log_bind]
      exact List.mem_append_left _ (attempted_mem_reclaimBuffers hindex)
    · rw [List.forall_mem_cons]
      refine ⟨by simp [NoRelease], ?_⟩
      refine (Traced.only_foldlM (fun s index _ => only_reclaimStep s index) none).bind
        fun reclaimError _ => (Traced.only_liftM _).bind fun value _ => ?_
      cases reclaimError with
      | some error => exact Traced.only_throw error
      | none =>
        exact (Traced.only_foldlM (fun s entry _ => only_readStep s entry) []).bind
          fun _ _ => Traced.only_pure _

variable (driver) in
/-- A session gets past the creation of its buffers. -/
structure Prepared (setting : Option String) : Prop where
  valid : validateSpecs setting specs = .ok ()
  create : driver.Succeeds .create
  buffers : ∀ index spec, specs[index]? = some spec → driver.Creates spec index

/-- **Sessions.** A session reclaims every buffer that it releases unless its buffers are created,
the first release succeeds, and a later release or an export fails. -/
theorem reclaimed_withBuffers_iff (driver : VulkanDriver) (setting : Option String)
    (specs : List SharedBufferSpec)
    (operation : List ExportedSharedBuffer → Except BackendError T) :
    Reclaimed (driver.withBuffers setting specs operation).log ↔
      ¬(driver.Prepared specs setting ∧ driver.Succeeds (.releaseToExternal 0) ∧
        ∃ index < specs.length, ¬(driver.Succeeds (.releaseToExternal index) ∧
          driver.Succeeds (.exportKmtHandle index))) := by
  by_cases hprepared : driver.Prepared specs setting
  · obtain ⟨buffers, hbuffers⟩ := exists_createBuffers_iff.2 hprepared.buffers
    have hlength : buffers.length = specs.length := by
      rw [Traced.result_foldlM] at hbuffers
      have hlength := Except.length_of_foldlM (fun _ _ _ => length_of_createStep) hbuffers
      rwa [List.length_nil, Nat.zero_add, List.length_zipIdx] at hlength
    have hne : buffers ≠ [] := by
      intro hnil
      rw [hnil, List.length_nil, eq_comm, List.length_eq_zero_iff] at hlength
      exact ne_nil_of_validateSpecs hprepared.valid hlength
    have hcreate : (driver.call .create).result = .ok () := by
      rw [result_call, hprepared.create]
    rw [withBuffers, hprepared.valid, Traced.liftM_ok_bind, Traced.log_bind_of_ok hcreate,
      Traced.log_bind_of_ok hbuffers, reclaimed_append_iff (only_noRelease_call (by simp)),
      reclaimed_append_iff (Traced.only_foldlM (fun s entry _ => only_createStep s entry) []),
      reclaimed_shareBuffers_iff specs operation hne, hlength, and_iff_right hprepared]
    rfl
  · -- The session ends before it releases a buffer.
    refine iff_of_true (reclaimed_of_noRelease ?_) fun h => hprepared h.1
    refine (Traced.only_liftM _).bind fun _ hvalid => ?_
    refine (only_noRelease_call (by simp)).bind fun _ hcreate => ?_
    refine (Traced.only_foldlM (fun s entry _ => only_createStep s entry) []).bind
      fun buffers hbuffers => ?_
    rw [result_call] at hcreate
    exact absurd ⟨hvalid, hcreate, exists_createBuffers_iff.1 ⟨buffers, hbuffers⟩⟩ hprepared

end

/-- A driver on which only the export of the first handle fails. -/
def noHandleDriver : VulkanDriver where
  outcome call :=
    if call = .exportKmtHandle 0 then
      .error (.internal "vkGetMemoryWin32HandleKHR: ERROR_OUT_OF_HOST_MEMORY")
    else .ok ()
  deviceName := "AMD Radeon RX 7900 XTX"
  allocationSize _ := 65536#64
  kmtHandle _ := 64#64
  contents _ := []

/-- The only buffer of a session is released, and it is not acquired again. -/
theorem not_reclaimed_noHandleDriver :
    let specs : List SharedBufferSpec := [{ bytes := 16#64, initialData := none, readback := true }]
    let operation : List ExportedSharedBuffer → Except BackendError Unit := fun _ => .ok ()
    ¬Reclaimed (noHandleDriver.withBuffers none specs operation).log := by
  intro specs operation
  have hlog : (noHandleDriver.withBuffers none specs operation).log =
      [.attempted .create, .succeeded .create, .attempted (.createSharedBuffer 0),
        .succeeded (.createSharedBuffer 0), .attempted (.releaseToExternal 0),
        .succeeded (.releaseToExternal 0), .attempted (.exportKmtHandle 0)] := by
    decide +kernel
  rw [hlog]
  exact not_reclaimed_of_noAcquire 0 (by simp) (by simp [NoAcquire])

end VulkanDriver

end RiftGPU.SharedBuffers
