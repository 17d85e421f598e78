import RiftGPU.SharedOperators.Loader
import RiftGPU.Word.OpenTags

/-!
# What the descriptors of a request tell a plugin

Regions and synchronization points are translated to the descriptors of the plugin interface. All
fields are copied except the kind of the handle, which becomes a tag. Standard kinds have small
tags, and the interface reserves the tags from `customBase` on for custom kinds, but the
translation passes the value of a custom kind on as it is. A descriptor therefore determines its
region up to custom kinds whose value is a standard tag.

## Main definitions

* `memoryTags`, `syncTags`: the tags of the kinds of handles.

## Main results

* `mapResourceToAbi_eq_iff`, `mapSyncToAbi_eq_iff`: equal descriptors.
* `mapResourceToAbi_injOn`, `mapSyncToAbi_injOn`: custom kinds in the reserved range.
* `descriptors_determine_iff`: when a descriptor determines its region or point.
-/

namespace RiftGPU.SharedOperators

/-! ### Kinds of handles -/

/-- The tags of the kinds of memory handles. -/
def memoryTags : OpenTags ExternalMemoryHandleKind (BitVec 32) where
  raw := memoryKindToRaw
  custom := .custom
  raw_custom _ := rfl
  injOn_standard kind hkind kind' hkind' heq := by
    cases kind <;> cases kind' <;>
      first | rfl | exact absurd ⟨_, rfl⟩ hkind | exact absurd ⟨_, rfl⟩ hkind' | cases heq

/-- The tags of the kinds of synchronization handles. -/
def syncTags : OpenTags ExternalSyncHandleKind (BitVec 32) where
  raw := syncKindToRaw
  custom := .custom
  raw_custom _ := rfl
  injOn_standard kind hkind kind' hkind' heq := by
    cases kind <;> cases kind' <;>
      first | rfl | exact absurd ⟨_, rfl⟩ hkind | exact absurd ⟨_, rfl⟩ hkind' | cases heq

/-- The tags of the standard kinds of memory handles. -/
theorem exists_memoryKind_iff (v : BitVec 32) :
    (∃ kind, memoryTags.Standard kind ∧ memoryKindToRaw kind = v) ↔
      v.toNat ≠ 0 ∧ v.toNat ≤ 4 := by
  constructor
  · rintro ⟨kind, hkind, rfl⟩
    cases kind with
    | custom value => exact absurd rfl (hkind value)
    | _ => decide
  · rintro ⟨hne, hle⟩
    obtain h | h | h | h : v.toNat = 1 ∨ v.toNat = 2 ∨ v.toNat = 3 ∨ v.toNat = 4 := by omega
    · exact ⟨.win32Kmt, nofun, BitVec.eq_of_toNat_eq h.symm⟩
    · exact ⟨.win32Nt, nofun, BitVec.eq_of_toNat_eq h.symm⟩
    · exact ⟨.opaqueFd, nofun, BitVec.eq_of_toNat_eq h.symm⟩
    · exact ⟨.dmaBuf, nofun, BitVec.eq_of_toNat_eq h.symm⟩

/-- The tags of the standard kinds of synchronization handles. -/
theorem exists_syncKind_iff (v : BitVec 32) :
    (∃ kind, syncTags.Standard kind ∧ syncKindToRaw kind = v) ↔ v.toNat ≠ 0 ∧ v.toNat ≤ 3 := by
  constructor
  · rintro ⟨kind, hkind, rfl⟩
    cases kind with
    | custom value => exact absurd rfl (hkind value)
    | _ => decide
  · rintro ⟨hne, hle⟩
    obtain h | h | h : v.toNat = 1 ∨ v.toNat = 2 ∨ v.toNat = 3 := by omega
    · exact ⟨.win32Opaque, nofun, BitVec.eq_of_toNat_eq h.symm⟩
    · exact ⟨.opaqueFd, nofun, BitVec.eq_of_toNat_eq h.symm⟩
    · exact ⟨.timeline, nofun, BitVec.eq_of_toNat_eq h.symm⟩

/-! ### Descriptors -/

/-- Equal descriptors of regions. -/
theorem mapResourceToAbi_eq_iff {first second : SharedResourceRegion} :
    mapResourceToAbi first = mapResourceToAbi second ↔
      second = { first with handleKind := second.handleKind } ∧
        memoryTags.raw first.handleKind = memoryTags.raw second.handleKind := by
  constructor
  · intro h
    obtain ⟨kind, handle, size, offset, length, access⟩ := first
    obtain ⟨kind', handle', size', offset', length', access'⟩ := second
    simp only [mapResourceToAbi, VrbSharedResourceRegionV1.mk.injEq] at h
    obtain ⟨-, hkind, haccess, -, rfl, rfl, rfl, rfl, -⟩ := h
    refine ⟨?_, hkind⟩
    cases access <;> cases access' <;> first | rfl | cases haccess
  · rintro ⟨hsecond, hkind⟩
    have hraw : memoryKindToRaw first.handleKind = memoryKindToRaw second.handleKind := hkind
    rw [mapResourceToAbi, hraw, hsecond]
    rfl

/-- Equal descriptors of synchronization points. -/
theorem mapSyncToAbi_eq_iff {first second : SharedSyncPoint} :
    mapSyncToAbi first = mapSyncToAbi second ↔
      second = { first with handleKind := second.handleKind } ∧
        syncTags.raw first.handleKind = syncTags.raw second.handleKind := by
  constructor
  · intro h
    obtain ⟨kind, handle, value⟩ := first
    obtain ⟨kind', handle', value'⟩ := second
    simp only [mapSyncToAbi, VrbSharedSyncPointV1.mk.injEq] at h
    obtain ⟨-, hkind, rfl, rfl, -⟩ := h
    exact ⟨rfl, hkind⟩
  · rintro ⟨hsecond, hkind⟩
    have hraw : syncKindToRaw first.handleKind = syncKindToRaw second.handleKind := hkind
    rw [mapSyncToAbi, hraw, hsecond]
    rfl

/-! ### Custom kinds in the reserved range -/

/-- On regions whose custom kinds have values in the reserved range, the translation loses
nothing. -/
theorem mapResourceToAbi_injOn :
    Set.InjOn mapResourceToAbi
      {region | ∀ v, region.handleKind = .custom v → MemoryHandleTag.customBase ≤ v} := by
  intro first hfirst second hsecond heq
  obtain ⟨hfields, hraw⟩ := mapResourceToAbi_eq_iff.1 heq
  have hinj : Set.InjOn memoryTags.raw
      {kind | ∀ v, kind = .custom v → MemoryHandleTag.customBase ≤ v} := by
    refine OpenTags.injOn_raw fun v hv kind hkind htag => ?_
    have hle := BitVec.le_def.1 (hv v rfl)
    have hstandard := ((exists_memoryKind_iff v).1 ⟨kind, hkind, htag⟩).2
    exact absurd (hle.trans hstandard) (by decide)
  rw [hfields, ← hinj hfirst hsecond hraw]

/-- On synchronization points whose custom kinds have values in the reserved range, the
translation loses nothing. -/
theorem mapSyncToAbi_injOn :
    Set.InjOn mapSyncToAbi
      {point | ∀ v, point.handleKind = .custom v → SyncHandleTag.customBase ≤ v} := by
  intro first hfirst second hsecond heq
  obtain ⟨hfields, hraw⟩ := mapSyncToAbi_eq_iff.1 heq
  have hinj : Set.InjOn syncTags.raw
      {kind | ∀ v, kind = .custom v → SyncHandleTag.customBase ≤ v} := by
    refine OpenTags.injOn_raw fun v hv kind hkind htag => ?_
    have hle := BitVec.le_def.1 (hv v rfl)
    have hstandard := ((exists_syncKind_iff v).1 ⟨kind, hkind, htag⟩).2
    exact absurd (hle.trans hstandard) (by decide)
  rw [hfields, ← hinj hfirst hsecond hraw]

/-! ### What the translation loses -/

/-- **What the descriptors lose.** Two regions with the same descriptor are equal unless they
differ only in their kinds, one of which is standard and the other custom with the tag of the
first; and so for synchronization points. A custom kind has the tag of no standard kind exactly
when its value is zero or exceeds the standard tags. -/
theorem descriptors_determine_iff (first second : SharedResourceRegion)
    (firstPoint secondPoint : SharedSyncPoint) (v : BitVec 32) :
    ((mapResourceToAbi first = mapResourceToAbi second → first = second) ↔
      ¬(second = { first with handleKind := second.handleKind } ∧
        memoryTags.Alias first.handleKind second.handleKind)) ∧
    ((mapSyncToAbi firstPoint = mapSyncToAbi secondPoint → firstPoint = secondPoint) ↔
      ¬(secondPoint = { firstPoint with handleKind := secondPoint.handleKind } ∧
        syncTags.Alias firstPoint.handleKind secondPoint.handleKind)) ∧
    ((∀ kind, memoryTags.Standard kind → memoryKindToRaw (.custom v) ≠ memoryKindToRaw kind) ↔
      v.toNat = 0 ∨ 4 < v.toNat) ∧
    ((∀ kind, syncTags.Standard kind → syncKindToRaw (.custom v) ≠ syncKindToRaw kind) ↔
      v.toNat = 0 ∨ 3 < v.toNat) := by
  refine ⟨?_, ?_, ?_, ?_⟩
  · rw [mapResourceToAbi_eq_iff]
    refine OpenTags.determines_iff (fun hrest hkind => ?_) fun hequal => by rw [hequal]
    rw [hrest, ← hkind]
  · rw [mapSyncToAbi_eq_iff]
    refine OpenTags.determines_iff (fun hrest hkind => ?_) fun hequal => by rw [hequal]
    rw [hrest, ← hkind]
  · have hexists := not_congr (exists_memoryKind_iff v)
    push Not at hexists
    refine (forall₂_congr fun kind _ => ne_comm).trans (hexists.trans ?_)
    omega
  · have hexists := not_congr (exists_syncKind_iff v)
    push Not at hexists
    refine (forall₂_congr fun kind _ => ne_comm).trans (hexists.trans ?_)
    omega

/-- A region of a legacy Windows handle, and one of the custom kind with the value one, reach a
plugin as the same descriptor. -/
theorem descriptor_of_custom_one :
    let legacy : SharedResourceRegion :=
      { handleKind := .win32Kmt, handle := 64#64, allocationSize := 4096#64, offset := 0#64,
        length := 256#64, access := .readWrite }
    let vendor : SharedResourceRegion := { legacy with handleKind := .custom 1#32 }
    mapResourceToAbi legacy = mapResourceToAbi vendor ∧ legacy ≠ vendor := by
  decide

end RiftGPU.SharedOperators
