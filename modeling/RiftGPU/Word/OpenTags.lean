import Mathlib.Data.Set.Function

/-!
# Tags of open enumerations

An open enumeration has a fixed number of standard members and a custom member for every value of
its tag type. Its members are encoded as tags; a custom member is encoded as its value. The
encoding is injective up to custom members whose value is the tag of a standard member.

## Main definitions

* `OpenTags`: the encoding of an open enumeration.
* `OpenTags.Alias`: a custom member and the standard member that has its tag.

## Main results

* `OpenTags.raw_eq_raw_iff`: members with the same tag.
* `OpenTags.determines_iff`: records that are encoded with the tag of a member.
* `OpenTags.injOn_raw`: reserved values keep the encoding injective.
-/

/-- The encoding of an open enumeration `κ` by tags of `T`. -/
structure OpenTags (κ T : Type) where
  raw : κ → T
  custom : T → κ
  raw_custom : ∀ v, raw (custom v) = v
  injOn_standard : Set.InjOn raw (Set.range custom)ᶜ

namespace OpenTags

variable {κ T : Type} (tags : OpenTags κ T)

/-- Not a custom member. -/
def Standard (k : κ) : Prop := ∀ v, k ≠ tags.custom v

/-- One of the members is standard, and the other is custom with the tag of the first. -/
def Alias (k k' : κ) : Prop :=
  (tags.Standard k ∧ k' = tags.custom (tags.raw k)) ∨
    (tags.Standard k' ∧ k = tags.custom (tags.raw k'))

variable {tags} {k k' : κ}

theorem standard_iff : tags.Standard k ↔ k ∈ (Set.range tags.custom)ᶜ := by
  rw [Set.mem_compl_iff, Set.mem_range, not_exists]
  exact forall_congr' fun v => ne_comm

theorem Alias.ne (h : tags.Alias k k') : k ≠ k' := by
  rintro rfl
  obtain ⟨hstandard, heq⟩ | ⟨hstandard, heq⟩ := h
  all_goals exact hstandard _ heq

/-- Members with the same tag are equal, or one of them is the custom alias of the other. -/
theorem raw_eq_raw_iff : tags.raw k = tags.raw k' ↔ k = k' ∨ tags.Alias k k' := by
  constructor
  · intro h
    by_cases hk : tags.Standard k <;> by_cases hk' : tags.Standard k'
    · exact .inl (tags.injOn_standard (standard_iff.1 hk) (standard_iff.1 hk') h)
    · obtain ⟨v, rfl⟩ := not_forall_not.1 hk'
      rw [tags.raw_custom] at h
      exact .inr (.inl ⟨hk, by rw [h]⟩)
    · obtain ⟨v, rfl⟩ := not_forall_not.1 hk
      rw [tags.raw_custom] at h
      exact .inr (.inr ⟨hk', by rw [← h]⟩)
    · obtain ⟨v, rfl⟩ := not_forall_not.1 hk
      obtain ⟨v', rfl⟩ := not_forall_not.1 hk'
      rw [tags.raw_custom, tags.raw_custom] at h
      exact .inl (by rw [h])
  · rintro (rfl | ⟨-, rfl⟩ | ⟨-, rfl⟩)
    · rfl
    · rw [tags.raw_custom]
    · rw [tags.raw_custom]

/-- Two records that hold a member each and agree in `rest` otherwise: the tags of their members
determine them up to an alias. -/
theorem determines_iff {rest equal : Prop} (hequal : rest → k = k' → equal)
    (hmember : equal → k = k') :
    (rest ∧ tags.raw k = tags.raw k' → equal) ↔ ¬(rest ∧ tags.Alias k k') := by
  rw [raw_eq_raw_iff]
  constructor
  · rintro h ⟨hrest, halias⟩
    exact halias.ne (hmember (h ⟨hrest, .inr halias⟩))
  · rintro h ⟨hrest, heq | halias⟩
    · exact hequal hrest heq
    · exact absurd ⟨hrest, halias⟩ h

/-- If the custom members of a set have values that no standard member has as its tag, the encoding
is injective on the set. -/
theorem injOn_raw {members : Set κ}
    (h : ∀ v, tags.custom v ∈ members → ∀ k, tags.Standard k → tags.raw k ≠ v) :
    Set.InjOn tags.raw members := by
  intro k hk k' hk' hraw
  obtain heq | ⟨hstandard, rfl⟩ | ⟨hstandard, rfl⟩ := raw_eq_raw_iff.1 hraw
  · exact heq
  · exact absurd rfl (h _ hk' _ hstandard)
  · exact absurd rfl (h _ hk _ hstandard)

end OpenTags
