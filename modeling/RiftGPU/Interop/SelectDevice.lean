import RiftGPU.Core.Backend
import RiftGPU.Lists.Selection
import RiftGPU.Text.Substring
import RiftGPU.Text.Utf8

/-!
# The HIP device that belongs to a Vulkan device

Memory that one graphics interface exports is imported by the other on the same device. Devices
are correlated by their names, which are compared without case, blanks and punctuation: first for
equality, then for containment in either direction. This file models `HipRuntime::select_device`
of `vrb-backends`. The functions of the HIP library are parameters.

## Main definitions

* `Interop.normalizeDeviceName`: names as they are compared.
* `Interop.HipRuntime.selectDevice`: the choice of a device.
-/

namespace RiftGPU.Interop

open Bytes

/-- What the functions of the HIP library return. Names are given by their bytes. -/
structure HipRuntime where
  getDeviceCount : BitVec 32 × BitVec 32
  deviceGetName : ℕ → BitVec 32 × List Byte
  setDevice : BitVec 32 → BitVec 32
  getErrorString : BitVec 32 → Option String

/-- The status of a HIP function that has succeeded. -/
def hipSuccess : BitVec 32 := 0#32

/-- An ASCII letter or digit. -/
def isAsciiAlphanumeric (c : Char) : Bool :=
  ('a' ≤ c && c ≤ 'z') || ('A' ≤ c && c ≤ 'Z') || ('0' ≤ c && c ≤ '9')

/-- The letters and digits of a name, in lower case. -/
def normalizeDeviceName (value : String) : String :=
  String.ofList ((value.toList.filter isAsciiAlphanumeric).map Char.toLower)

/-- One of the normalised names contains the other. -/
def related (target name : String) : Bool :=
  let candidate := normalizeDeviceName name
  Text.contains candidate target || Text.contains target candidate

namespace HipRuntime

variable (runtime : HipRuntime)

/-- A function must return the status of success. -/
def check (code : BitVec 32) (operation : String) : Except BackendError Unit :=
  let detail := (runtime.getErrorString code).getD "unknown HIP error"
  Except.rejectIf (code ≠ hipSuccess)
    (.internal s!"{operation} failed with HIP error {code.toInt}: {detail}")

/-- The name of a device. -/
def deviceName (index : ℕ) : Except BackendError String := do
  runtime.check (runtime.deviceGetName index).1 "hipDeviceGetName"
  return Text.fromUtf8Lossy (runtime.deviceGetName index).2

/-- The names of all devices. -/
def devices : Except BackendError (List String) := do
  runtime.check runtime.getDeviceCount.1 "hipGetDeviceCount"
  let count := runtime.getDeviceCount.2
  Except.rejectIf (count.toInt < 0) (.probe "HIP returned a negative device count")
  (List.range count.toNat).foldlM (fun names index => do
    let name ← runtime.deviceName index
    return names ++ [name]) []

/-- The device that a name is correlated with, and its position. -/
def correlate (target : String) (devices : List String) : Option (String × ℕ) :=
  (devices.zipIdx.find? fun entry => normalizeDeviceName entry.1 == target).or
    ((devices.zipIdx.find? fun entry => related target entry.1).or
      (if devices.length = 1 then devices.zipIdx.head? else none))

/-- The device that a Vulkan device is correlated with, made the current one, and its name. -/
def selectDevice (vulkanName : String) : Except BackendError (BitVec 32 × String) := do
  let devices ← runtime.devices
  Except.rejectIf (devices = [])
    (.unavailable "HIP runtime initialized but exposed no devices")
  let target := normalizeDeviceName vulkanName
  let inventory := ", ".intercalate devices
  let selected ← (correlate target devices).okOr (.unavailable
    s!"could not correlate Vulkan device '{vulkanName}' with HIP devices: {inventory}")
  let index := BitVec.ofNat 32 selected.2
  runtime.check (runtime.setDevice index) "hipSetDevice"
  return (index, selected.1)

end HipRuntime

/-! ### Names -/

/-- A name whose normal form is empty is related to every target. -/
theorem related_of_empty {name : String} (h : normalizeDeviceName name = "") (target : String) :
    related target name := by
  rw [related, h, Bool.or_eq_true]
  exact .inr (Text.contains_empty target)

/-- The normal form of the name is not empty, and it contains the target or is contained in it. -/
def Correlated (target name : String) : Prop :=
  normalizeDeviceName name ≠ "" ∧
    (target.toList <:+: (normalizeDeviceName name).toList ∨
      (normalizeDeviceName name).toList <:+: target.toList)

theorem correlated_iff {target name : String} :
    Correlated target name ↔ normalizeDeviceName name ≠ "" ∧ related target name := by
  rw [Correlated, related, Bool.or_eq_true, Text.contains_iff, Text.contains_iff]

namespace HipRuntime

variable {target : String} {names : List String}

/-! ### The search -/

/-- The device that the search finds, unless there is only one device. -/
theorem correlate_spec (hlength : names.length ≠ 1) {name : String} {i : ℕ}
    (h : correlate target names = some (name, i)) : names[i]? = some name ∧
      (List.IsEarliest (normalizeDeviceName · = target) names i ∨
        (∀ name ∈ names, normalizeDeviceName name ≠ target) ∧
          List.IsEarliest (related target ·) names i) := by
  rw [correlate, if_neg hlength, Option.or_none, Option.or_eq_some_iff] at h
  obtain hexact | ⟨hnone, hrelated⟩ := h
  · obtain ⟨hget, hearliest⟩ :=
      List.isEarliest_of_find?_zipIdx (q := fun name => normalizeDeviceName name == target) hexact
    simp only [beq_iff_eq] at hearliest
    exact ⟨hget, .inl hearliest⟩
  · obtain ⟨hget, hearliest⟩ := List.isEarliest_of_find?_zipIdx hrelated
    refine ⟨hget, .inr ⟨fun other hmem heq => ?_, hearliest⟩⟩
    obtain ⟨j, hj⟩ := List.mem_iff_getElem?.1 hmem
    rw [List.find?_eq_none] at hnone
    refine hnone (other, j) (List.mem_zipIdx_iff_getElem?.2 hj) ?_
    simpa using heq

/-- The search fails when no device is related. -/
theorem correlate_eq_none (h : correlate target names = none) :
    ∀ name ∈ names, ¬related target name := by
  rw [correlate, Option.or_eq_none_iff, Option.or_eq_none_iff, List.find?_eq_none,
    List.find?_eq_none] at h
  intro name hmem
  obtain ⟨j, hj⟩ := List.mem_iff_getElem?.1 hmem
  exact h.2.1 (name, j) (List.mem_zipIdx_iff_getElem?.2 hj)

/-! ### The choice -/

variable {runtime : HipRuntime} {vulkanName : String}

theorem length_devices_lt (h : runtime.devices = .ok names) : names.length < 2 ^ 31 := by
  unfold devices at h
  simp only [Except.bind_eq_ok_iff, Except.rejectIf_eq_ok_iff, not_lt] at h
  obtain ⟨_, _, _, hcount, hloop⟩ := h
  have hlength := Except.length_of_foldlM (fun s index t hstep => by
    obtain ⟨name, _, hpush⟩ := Except.bind_eq_ok_iff.1 hstep
    rw [← Except.pure_eq_ok_iff.1 hpush, List.length_append, List.length_singleton]) hloop
  rw [hlength, List.length_nil, Nat.zero_add, List.length_range]
  rw [BitVec.toInt_eq_toNat_cond] at hcount
  split at hcount <;> omega

theorem selectDevice_of_none (hdevices : runtime.devices = .ok names)
    (h : correlate (normalizeDeviceName vulkanName) names = none) :
    ∃ error, runtime.selectDevice vulkanName = .error error := by
  rw [selectDevice, hdevices, Except.ok_bind]
  dsimp only
  by_cases hempty : names = []
  · exact ⟨_, by rw [Except.rejectIf, if_pos hempty]; rfl⟩
  · exact ⟨_, by rw [Except.rejectIf_of_not hempty, Except.ok_bind, h]; rfl⟩

theorem selectDevice_of_some (hdevices : runtime.devices = .ok names) (hne : names ≠ [])
    {name : String} {i : ℕ}
    (h : correlate (normalizeDeviceName vulkanName) names = some (name, i)) :
    (runtime.setDevice (BitVec.ofNat 32 i) = hipSuccess ∧
      runtime.selectDevice vulkanName = .ok (BitVec.ofNat 32 i, name)) ∨
    (runtime.setDevice (BitVec.ofNat 32 i) ≠ hipSuccess ∧
      ∃ error, runtime.selectDevice vulkanName = .error error) := by
  rw [selectDevice, hdevices, Except.ok_bind, Except.rejectIf_of_not hne, Except.ok_bind]
  dsimp only
  rw [h, Option.okOr_some, Except.ok_bind]
  by_cases hset : runtime.setDevice (BitVec.ofNat 32 i) = hipSuccess
  · refine .inl ⟨hset, ?_⟩
    rw [check, Except.rejectIf_of_not (not_not.2 hset)]
    rfl
  · refine .inr ⟨hset, ?_⟩
    rw [check, Except.rejectIf, if_pos hset]
    exact ⟨_, rfl⟩

/-- A chosen device has the first name that equals the target, or no name equals it and the name
of the device is correlated with it; and no device is chosen when none is correlated. -/
structure Correlates (target : String) (names : List String)
    (result : Except BackendError (BitVec 32 × String)) : Prop where
  chosen : ∀ index name, result = .ok (index, name) → names[index.toNat]? = some name ∧
    (List.IsEarliest (normalizeDeviceName · = target) names index.toNat ∨
      (∀ name ∈ names, normalizeDeviceName name ≠ target) ∧ Correlated target name)
  fails : (∀ name ∈ names, normalizeDeviceName name ≠ target ∧ ¬Correlated target name) →
    ∃ error, result = .error error

/-- The search passes over to containment and comes first to a device with an empty normal form,
which can be set. -/
def PicksUnnamed (runtime : HipRuntime) (target : String) (names : List String) : Prop :=
  (∀ name ∈ names, normalizeDeviceName name ≠ target) ∧
    ∃ i name, names[i]? = some name ∧ normalizeDeviceName name = "" ∧
      List.IsEarliest (related target ·) names i ∧
      runtime.setDevice (BitVec.ofNat 32 i) = hipSuccess

/-- The search finds the device that the condition speaks of. -/
theorem PicksUnnamed.selectDevice_eq {names : List String}
    (h : PicksUnnamed runtime (normalizeDeviceName vulkanName) names)
    (hdevices : runtime.devices = .ok names) (hlength : names.length ≠ 1) :
    ∃ i name, i < 2 ^ 31 ∧ names[i]? = some name ∧ normalizeDeviceName name = "" ∧
      runtime.selectDevice vulkanName = .ok (BitVec.ofNat 32 i, name) := by
  obtain ⟨hexact, i, name, hget, hempty, hearliest, hset⟩ := h
  have hi : i < names.length := (List.getElem?_eq_some_iff.1 hget).1
  refine ⟨i, name, hi.trans (length_devices_lt hdevices), hget, hempty, ?_⟩
  cases hcorrelate : correlate (normalizeDeviceName vulkanName) names with
  | none =>
    exact absurd (related_of_empty hempty _)
      (correlate_eq_none hcorrelate name (List.mem_of_getElem? hget))
  | some found =>
    obtain ⟨other, j⟩ := found
    obtain ⟨hother, hfirst | ⟨_, hfirst⟩⟩ := correlate_spec hlength hcorrelate
    · obtain ⟨⟨a, ha, heq⟩, -⟩ := hfirst
      exact absurd heq (hexact a (List.mem_of_getElem? ha))
    · obtain rfl := hearliest.unique hfirst
      obtain rfl : name = other := Option.some.inj (hget.symm.trans hother)
      obtain ⟨_, hselect⟩ | ⟨hfail, _⟩ :=
        selectDevice_of_some hdevices (List.ne_nil_of_length_pos (Nat.zero_lt_of_lt hi)) hcorrelate
      · exact hselect
      · exact absurd hset hfail

/-- Otherwise the device that the search finds is the first that equals the target, or it is
correlated with it. -/
theorem correlated_of_not_picksUnnamed {name : String} {i : ℕ}
    (hpicks : ¬PicksUnnamed runtime target names) (hget : names[i]? = some name)
    (hset : runtime.setDevice (BitVec.ofNat 32 i) = hipSuccess)
    (hfirst : List.IsEarliest (normalizeDeviceName · = target) names i ∨
      (∀ name ∈ names, normalizeDeviceName name ≠ target) ∧
        List.IsEarliest (related target ·) names i) :
    List.IsEarliest (normalizeDeviceName · = target) names i ∨
      (∀ name ∈ names, normalizeDeviceName name ≠ target) ∧ Correlated target name := by
  refine hfirst.imp_right fun ⟨hexact, hearliest⟩ => ⟨hexact, correlated_iff.2 ⟨?_, ?_⟩⟩
  · exact fun hempty => hpicks ⟨hexact, i, name, hget, hempty, hearliest, hset⟩
  · obtain ⟨⟨a, ha, hrelated⟩, -⟩ := hearliest
    obtain rfl : a = name := Option.some.inj (ha.symm.trans hget)
    exact hrelated

/-- A choice of such a device. -/
theorem correlates_of_ok {name : String} {i : ℕ} (hi : i < 2 ^ 31) (hget : names[i]? = some name)
    (hfirst : List.IsEarliest (normalizeDeviceName · = target) names i ∨
      (∀ name ∈ names, normalizeDeviceName name ≠ target) ∧ Correlated target name) :
    Correlates target names (.ok (BitVec.ofNat 32 i, name)) := by
  refine ⟨fun index device heq => ?_, fun hnone => ?_⟩
  · obtain ⟨rfl, rfl⟩ := Prod.mk.inj (Except.ok.inj heq)
    rw [BitVec.toNat_ofNat, Nat.mod_eq_of_lt (by omega)]
    exact ⟨hget, hfirst⟩
  · obtain ⟨⟨a, ha, heq⟩, -⟩ | ⟨-, hcorrelated⟩ := hfirst
    · exact absurd heq (hnone a (List.mem_of_getElem? ha)).1
    · exact absurd hcorrelated (hnone name (List.mem_of_getElem? hget)).2

theorem correlates_of_error (error : BackendError) : Correlates target names (.error error) := by
  refine ⟨fun index device heq => ?_, fun _ => ⟨error, rfl⟩⟩
  cases heq

/-- **Correlation of devices.** With at least two HIP devices, the choice is correlated with the
Vulkan device unless no name equals the target and the first device that the search for
containment comes to has an empty normal form and can be set. -/
theorem selectDevice_correlates_iff {runtime : HipRuntime} {vulkanName : String}
    {names : List String} (hdevices : runtime.devices = .ok names) (htwo : 2 ≤ names.length) :
    Correlates (normalizeDeviceName vulkanName) names (runtime.selectDevice vulkanName) ↔
      ¬PicksUnnamed runtime (normalizeDeviceName vulkanName) names := by
  have hlength : names.length ≠ 1 := by omega
  have hne : names ≠ [] := List.ne_nil_of_length_pos (by omega)
  constructor
  · intro h hpicks
    obtain ⟨i, name, hi, hget, hempty, hselect⟩ :=
      PicksUnnamed.selectDevice_eq hpicks hdevices hlength
    obtain ⟨_, hexact | ⟨_, hnonempty, _⟩⟩ := h.chosen _ _ hselect
    · obtain ⟨⟨a, ha, heq⟩, -⟩ := hexact
      exact hpicks.1 a (List.mem_of_getElem? ha) heq
    · exact hnonempty hempty
  · intro hpicks
    cases hcorrelate : correlate (normalizeDeviceName vulkanName) names with
    | none =>
      obtain ⟨error, herror⟩ := selectDevice_of_none hdevices hcorrelate
      rw [herror]
      exact correlates_of_error error
    | some found =>
      obtain ⟨name, i⟩ := found
      obtain ⟨hget, hfirst⟩ := correlate_spec hlength hcorrelate
      have hi : i < names.length := (List.getElem?_eq_some_iff.1 hget).1
      obtain ⟨hset, hselect⟩ | ⟨-, error, herror⟩ :=
        selectDevice_of_some hdevices hne hcorrelate
      · rw [hselect]
        exact correlates_of_ok (hi.trans (length_devices_lt hdevices)) hget
          (correlated_of_not_picksUnnamed hpicks hget hset hfirst)
      · rw [herror]
        exact correlates_of_error error

/-- Two devices, the first of which has the name `first`. All calls succeed. -/
def twoDevices (first : String) : HipRuntime where
  getDeviceCount := (0#32, 2#32)
  deviceGetName index :=
    (0#32, if index = 0 then ascii first else ascii "AMD Radeon RX 6800 XT (gfx1030)")
  setDevice _ := 0#32
  getErrorString _ := none

theorem devices_twoDevices :
    (twoDevices "AMD Radeon(TM) Graphics").devices =
      .ok ["AMD Radeon(TM) Graphics", "AMD Radeon RX 6800 XT (gfx1030)"] := by
  decide +kernel

theorem selectDevice_correlates_iff_twoDevices :
    Correlates (normalizeDeviceName "AMD Radeon RX 6800 XT")
      ["AMD Radeon(TM) Graphics", "AMD Radeon RX 6800 XT (gfx1030)"]
      ((twoDevices "AMD Radeon(TM) Graphics").selectDevice "AMD Radeon RX 6800 XT") := by
  refine (selectDevice_correlates_iff devices_twoDevices (by decide)).2 fun hpicks => ?_
  obtain ⟨_, i, name, hget, hempty, -⟩ := hpicks
  have hnonempty : ∀ name ∈ ["AMD Radeon(TM) Graphics", "AMD Radeon RX 6800 XT (gfx1030)"],
      normalizeDeviceName name ≠ "" := by
    decide +kernel
  exact hnonempty name (List.mem_of_getElem? hget) hempty

/-- The device without a name is chosen, although the other one is the device in question. -/
theorem selectDevice_picks_unnamed :
    let vulkanName := "AMD Radeon RX 6800 XT"
    let names := ["", "AMD Radeon RX 6800 XT (gfx1030)"]
    normalizeDeviceName vulkanName ≠ "" ∧ (twoDevices "").devices = .ok names ∧
      (twoDevices "").selectDevice vulkanName = .ok (0#32, "") ∧
      ¬Correlates (normalizeDeviceName vulkanName) names
        ((twoDevices "").selectDevice vulkanName) ∧
      Correlated (normalizeDeviceName vulkanName) "AMD Radeon RX 6800 XT (gfx1030)" := by
  intro vulkanName names
  have htarget : normalizeDeviceName vulkanName ≠ "" := by decide +kernel
  have hselect : (twoDevices "").selectDevice vulkanName = .ok (0#32, "") := by decide +kernel
  have hempty : normalizeDeviceName "" = "" := by decide
  refine ⟨htarget, by decide +kernel, hselect, fun h => ?_, correlated_iff.2 (by decide +kernel)⟩
  obtain ⟨_, ⟨⟨name, hget, hexact⟩, -⟩ | ⟨_, hnonempty, -⟩⟩ := h.chosen _ _ hselect
  · obtain rfl : "" = name := Option.some.inj hget
    exact htarget (hexact.symm.trans hempty)
  · exact hnonempty hempty

end HipRuntime

end RiftGPU.Interop
