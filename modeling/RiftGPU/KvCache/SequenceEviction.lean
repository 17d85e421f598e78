import RiftGPU.KvCache.Invariant

/-!
# Eviction and the other layers of a sequence

An append protects the entry that it extends from eviction, but not the entries of the same
sequence in other layers. They are dropped like those of any other sequence when they are the least
recently used.

## Main definitions

* `KvCache.KeepsSequence`: the entries of a sequence are still there, with their blocks.
* `KvCache.SiblingsSafe`: there is enough room in the entries that are dropped before those of the
  other layers.

## Main results

* `KvCache.append_keepsSequence_iff`: which appends keep the entries of their sequence.
-/

namespace RiftGPU.KvCache

variable {cache cache' : KvCache} {key : KvCacheKey} {block : KvBlock}

/-- Every entry of the sequence in `cache` is in `cache'`, and its blocks are the first ones of the
entry there. -/
def KeepsSequence (cache cache' : KvCache) (sequenceId : BitVec 64) : Prop :=
  ∀ (key : KvCacheKey) (entry : KvEntry), key.sequenceId = sequenceId →
    cache.entries[key]? = some entry →
    ∃ entry', cache'.entries[key]? = some entry' ∧ entry.blocks <+: entry'.blocks

/-- For every other layer of the sequence: the block fits once the entries other than the protected
one that were touched before the entry of that layer are dropped. -/
def SiblingsSafe (cache : KvCache) (key : KvCacheKey) (block : KvBlock) : Prop :=
  ∀ (sibling : KvCacheKey) (entry : KvEntry), sibling ≠ key → sibling.sequenceId = key.sequenceId →
    cache.entries[sibling]? = some entry →
    cache.bytes.toNat + block.bytes.toNat ≤ cache.capacityBytes.toNat +
      Lru.weightBefore entryBytes entryStamp (fun key' => key' != key) cache.entries
        (sibling, entry)

section Append

variable {victims : List (KvCacheKey × KvEntry)} {kept : Std.ExtTreeMap KvCacheKey KvEntry}

/-- The blocks of the extended entry start with those that it had. -/
theorem Appends.blocks_prefix_self (happ : cache.Appends key block victims kept cache')
    {entry : KvEntry} (hentry : cache.entries[key]? = some entry) :
    ∃ entry', cache'.entries[key]? = some entry' ∧ entry.blocks <+: entry'.blocks := by
  refine ⟨cache.extendedEntry key block, ?_, [block], ?_⟩
  · rw [happ.entries_eq, Std.ExtTreeMap.getElem?_insert_self]
  · simp [extendedEntry, hentry]

/-- An entry of another key is still there exactly when enough room is made before it. -/
theorem Appends.getElem?_sibling_iff (h : cache.Invariant)
    (happ : cache.Appends key block victims kept cache') {sibling : KvCacheKey} {entry : KvEntry}
    (hne : sibling ≠ key) (hentry : cache.entries[sibling]? = some entry) :
    cache'.entries[sibling]? = some entry ↔
      cache.bytes.toNat + block.bytes.toNat ≤ cache.capacityBytes.toNat +
        Lru.weightBefore entryBytes entryStamp (fun key' => key' != key) cache.entries
          (sibling, entry) := by
  rw [happ.entries_eq, OrderedMap.getElem?_insert_of_ne hne, h.bytes_eq]
  exact happ.evicts.survives_iff (e := (sibling, entry)) happ.fits hentry (by simpa using hne)

/-- An entry of another key that is there after the append is unchanged. -/
theorem Appends.getElem?_of_sibling (happ : cache.Appends key block victims kept cache')
    {sibling : KvCacheKey} {entry entry' : KvEntry} (hne : sibling ≠ key)
    (hentry : cache.entries[sibling]? = some entry)
    (hentry' : cache'.entries[sibling]? = some entry') : entry' = entry := by
  rw [happ.entries_eq, OrderedMap.getElem?_insert_of_ne hne] at hentry'
  have hold := happ.evicts.getElem?_of_eq_some hentry'
  rw [hentry] at hold
  exact (Option.some.inj hold).symm

theorem Appends.keepsSequence_iff (h : cache.Invariant)
    (happ : cache.Appends key block victims kept cache') :
    cache.KeepsSequence cache' key.sequenceId ↔ cache.SiblingsSafe key block := by
  constructor
  · intro hkeeps sibling entry hne hsequence hentry
    obtain ⟨entry', hentry', -⟩ := hkeeps sibling entry hsequence hentry
    obtain rfl := happ.getElem?_of_sibling hne hentry hentry'
    exact (happ.getElem?_sibling_iff h hne hentry).1 hentry'
  · intro hsafe key' entry hsequence hentry
    by_cases hkey : key' = key
    · subst hkey
      exact happ.blocks_prefix_self hentry
    · have hroom := hsafe key' entry hkey hsequence hentry
      exact ⟨entry, (happ.getElem?_sibling_iff h hkey hentry).2 hroom, List.prefix_rfl⟩

end Append

/-- **Which appends keep their sequence.** After any run of calls on a new cache, a successful
append keeps every entry of its sequence, with the blocks that it had, exactly when the entries that
are dropped before those of the other layers make enough room. -/
theorem append_keepsSequence_iff {capacityBytes : BitVec 64}
    (hnew : KvCache.new capacityBytes = .ok cache) (calls : List KvCacheCall) (key : KvCacheKey)
    (block : KvBlock) (hok : ((cache.run calls).append key block).1 = .ok ()) :
    (cache.run calls).KeepsSequence ((cache.run calls).append key block).2 key.sequenceId ↔
      (cache.run calls).SiblingsSafe key block := by
  have h : (cache.run calls).Invariant := (Invariant.new hnew).run calls
  cases hcheck : (cache.run calls).checkAppend key block with
  | error e =>
    rw [append_of_check_error hcheck] at hok
    cases hok
  | ok u =>
    obtain ⟨victims, kept, cache', hrun, -, happ⟩ := append_spec h hcheck
    rw [hrun]
    exact happ.keepsSequence_iff h

/-- Two entries of 40 bytes in 100, of another sequence and of another layer: the append drops that
of the other sequence. -/
theorem append_keepsSequence_iff_other_sequence :
    ∃ cache, KvCache.new 100#64 = .ok cache ∧
      let before : List KvCacheCall := [.append ⟨2#64, 0#32⟩ (.ofSizes 0#64 1#32 40#64),
        .append ⟨1#64, 1#32⟩ (.ofSizes 0#64 1#32 40#64)]
      ((cache.run before).KeepsSequence
          ((cache.run before).append ⟨1#64, 0#32⟩ (.ofSizes 0#64 1#32 40#64)).2 1#64 ↔
        (cache.run before).SiblingsSafe ⟨1#64, 0#32⟩ (.ofSizes 0#64 1#32 40#64)) :=
  ⟨_, rfl, append_keepsSequence_iff (new_eq_ok_iff.2 ⟨by decide, rfl⟩) _ _ _
    (by decide +kernel)⟩

/-- A cache of 100 bytes with two layers of one sequence, of 40 bytes each. -/
def twoLayers : KvCache :=
  let cache : KvCache := ⟨100#64, ∅, 0#64, 0#64, 0#64⟩
  cache.run [.append ⟨1#64, 0#32⟩ (.ofSizes 0#64 1#32 40#64),
    .append ⟨1#64, 1#32⟩ (.ofSizes 0#64 1#32 40#64)]

/-- The append of 40 bytes to the first of two layers drops the second. -/
theorem append_drops_sibling :
    (∃ cache calls, KvCache.new 100#64 = .ok cache ∧ cache.run calls = twoLayers) ∧
      (twoLayers.append ⟨1#64, 0#32⟩ (.ofSizes 1#64 1#32 40#64)).1 = .ok () ∧
      ¬twoLayers.KeepsSequence (twoLayers.append ⟨1#64, 0#32⟩ (.ofSizes 1#64 1#32 40#64)).2
        1#64 := by
  have hold : twoLayers.entries[(⟨1#64, 1#32⟩ : KvCacheKey)]? =
      some ⟨[.ofSizes 0#64 1#32 40#64], 40#64, 2#64⟩ := by
    decide +kernel
  have hnew : (twoLayers.append ⟨1#64, 0#32⟩ (.ofSizes 1#64 1#32 40#64)).2.entries[
      (⟨1#64, 1#32⟩ : KvCacheKey)]? = none := by
    decide +kernel
  refine ⟨⟨_, _, rfl, rfl⟩, by decide +kernel, fun hkeeps => ?_⟩
  obtain ⟨entry', hentry', -⟩ := hkeeps _ _ rfl hold
  rw [hnew] at hentry'
  cases hentry'

end RiftGPU.KvCache
