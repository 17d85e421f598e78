import RiftGPU.KvCache.Invariant
import RiftGPU.Lru.Recency

/-!
# The KV cache as a history of its calls

What a KV cache holds is determined by the history of what its calls did: the blocks of a key are
those appended to it since the key was last absent, and an append that needs room drops the other
keys that were least recently appended to or viewed. This file defines both from the history
alone and proves that the cache agrees, as long as its clock has not wrapped around.

## Main definitions

* `KvCacheEvent`, `KvCache.event`: what a call did.
* `KvCache.history`: the events of a run, the latest first.
* `blocksSince`: the blocks of a key, read off the history.
* `lastUse`: the time of the latest append to a key or view of it.
* `KvCache.LruAppend`: an append that drops the shortest sufficient prefix of the other keys, by
  their last use.

## Main results

* `KvCache.Recorded.step`: every call keeps the agreement between the cache and the history.
* `KvCache.refines_history`: both statements, for every run with fewer than `2 ^ 64` appends and
  views.
-/

namespace RiftGPU

/-! ### Events and what they tell -/

/-- What a call did: a successful append and the keys that were dropped for it, a view of a
present or of an absent key, the removal of a present key, a clear, or nothing. -/
inductive KvCacheEvent where
  | appended (key : KvCacheKey) (block : KvBlock) (evicted : List KvCacheKey)
  | viewed (key : KvCacheKey)
  | missed (key : KvCacheKey)
  | removed (key : KvCacheKey)
  | cleared
  | unchanged

namespace KvCacheEvent

/-- The event is a successful append or a view. -/
def isTick : KvCacheEvent → Bool
  | .appended .. | .viewed _ | .missed _ => true
  | .removed _ | .cleared | .unchanged => false

/-- The event is a successful append to the key, or a view that finds it. -/
def uses (key : KvCacheKey) : KvCacheEvent → Bool
  | .appended key' _ _ | .viewed key' => key' == key
  | .missed _ | .removed _ | .cleared | .unchanged => false

end KvCacheEvent

/-- The number of successful appends and of views. -/
def ticks (history : List KvCacheEvent) : ℕ := history.countP KvCacheEvent.isTick

/-- The blocks appended to the key since it was last absent, or `none` if it is absent: never
inserted, evicted, removed or cleared. -/
def blocksSince (key : KvCacheKey) : List KvCacheEvent → Option (List KvBlock)
  | [] => none
  | .appended key' block evicted :: history =>
    if key' = key then some ((blocksSince key history).getD [] ++ [block])
    else if key ∈ evicted then none
    else blocksSince key history
  | .removed key' :: history => if key' = key then none else blocksSince key history
  | .cleared :: _ => none
  | .viewed _ :: history | .missed _ :: history | .unchanged :: history => blocksSince key history

/-- The time of the most recent append to the key or view that found it, zero if there is none.
The latest event of a history of `n` events has time `n`. -/
def lastUse (key : KvCacheKey) : List KvCacheEvent → ℕ
  | [] => 0
  | event :: history => if event.uses key then history.length + 1 else lastUse key history

theorem lastUse_le (key : KvCacheKey) (history : List KvCacheEvent) :
    lastUse key history ≤ history.length := by
  induction history with
  | nil => simp [lastUse]
  | cons event history ih =>
    rw [lastUse, List.length_cons]
    split_ifs
    · exact le_rfl
    · omega

theorem ticks_cons (event : KvCacheEvent) (history : List KvCacheEvent) :
    ticks (event :: history) = ticks history + if event.isTick then 1 else 0 :=
  List.countP_cons

namespace KvCache

/-- The keys of `cache` that are no longer in `cache'`. -/
def evictedKeys (cache cache' : KvCache) : List KvCacheKey :=
  cache.entries.keys.filter fun key => !cache'.entries.contains key

/-- What a call does to a cache. -/
def event (cache : KvCache) : KvCacheCall → KvCacheEvent
  | .append key block =>
    match cache.append key block with
    | (.ok (), cache') => .appended key block (cache.evictedKeys cache')
    | (.error _, _) => .unchanged
  | .view key => if cache.entries.contains key then .viewed key else .missed key
  | .remove key => if cache.entries.contains key then .removed key else .unchanged
  | .clear => .cleared

/-- The events of a run, the latest first, after those of `history`. -/
def historyFrom (cache : KvCache) (history : List KvCacheEvent) :
    List KvCacheCall → List KvCacheEvent
  | [] => history
  | call :: calls => (cache.step call).historyFrom (cache.event call :: history) calls

/-- The events of a run, the latest first. -/
def history (cache : KvCache) (calls : List KvCacheCall) : List KvCacheEvent :=
  cache.historyFrom [] calls

/-- The append of `block` to `key` that leads from `cache` to `cache'`: `others` are the other
keys, by their last use, and the first `n` of them are dropped, where `n` is the least number that
makes the block fit. No other entry changes. -/
structure LruAppend (cache cache' : KvCache) (history : List KvCacheEvent) (key : KvCacheKey)
    (block : KvBlock) (others : List KvCacheKey) (n : ℕ) : Prop where
  mem_others : ∀ key', key' ∈ others ↔ key' ≠ key ∧ key' ∈ cache.entries
  sorted : others.Pairwise fun key₁ key₂ => lastUse key₁ history < lastUse key₂ history
  le_length : n ≤ others.length
  fits : cache.bytes.toNat + block.bytes.toNat ≤
    cache.capacityBytes.toNat + ((others.take n).map cache.currentBytes).sum
  shortest : ∀ i < n, cache.capacityBytes.toNat + ((others.take i).map cache.currentBytes).sum <
    cache.bytes.toNat + block.bytes.toNat
  entries_eq : ∀ key' ≠ key,
    cache'.entries[key']? = if key' ∈ others.take n then none else cache.entries[key']?
  evictions_eq : cache'.evictions.toNat = cache.evictions.toNat + n

/-! ### The order of stamps -/

variable {cache cache' : KvCache} {history : List KvCacheEvent} {key : KvCacheKey}
  {block : KvBlock} {event : KvCacheEvent}

theorem nextTouch_toNat (h : cache.clock.toNat + 1 < 2 ^ 64) :
    cache.nextTouch.toNat = cache.clock.toNat + 1 := BitVec.toNat_nextNonzero h

/-- Stamps do not exceed the clock, and are ordered as the last uses of their keys are. -/
structure Stamped (cache : KvCache) (history : List KvCacheEvent) : Prop where
  le_clock : ∀ (key : KvCacheKey) (entry : KvEntry), cache.entries[key]? = some entry →
    entryStamp entry ≤ cache.clock.toNat
  ordered : ∀ (key₁ key₂ : KvCacheKey) (entry₁ entry₂ : KvEntry),
    cache.entries[key₁]? = some entry₁ → cache.entries[key₂]? = some entry₂ → key₁ ≠ key₂ →
    entryStamp entry₁ < entryStamp entry₂ ∧ lastUse key₁ history < lastUse key₂ history ∨
      entryStamp entry₂ < entryStamp entry₁ ∧ lastUse key₂ history < lastUse key₁ history

theorem stamped_iff : cache.Stamped history ↔
    Lru.Stamped entryStamp cache.entries cache.clock.toNat fun key => lastUse key history :=
  ⟨fun h => ⟨h.le_clock, h.ordered⟩, fun h => ⟨h.le_clock, h.ordered⟩⟩

/-- A call that uses no key and adds no entry keeps the order of stamps. -/
theorem Stamped.of_subset (h : cache.Stamped history) (hevent : ∀ key, event.uses key = false)
    (hsub : ∀ (key : KvCacheKey) (entry : KvEntry), cache'.entries[key]? = some entry →
      cache.entries[key]? = some entry)
    (hclock : cache.clock.toNat ≤ cache'.clock.toNat) : cache'.Stamped (event :: history) := by
  rw [stamped_iff] at h ⊢
  refine h.of_subset hsub hclock ?_
  funext key
  rw [lastUse, hevent, if_neg Bool.false_ne_true]

/-- A call that uses one key, and stamps its entry with the new time, keeps the order of
stamps. -/
theorem Stamped.of_use (h : cache.Stamped history) {entry : KvEntry}
    (hevent : ∀ key', event.uses key' = (key == key'))
    (hentry : cache'.entries[key]? = some entry) (hstamp : entryStamp entry = cache'.clock.toNat)
    (hsub : ∀ (key' : KvCacheKey) (entry' : KvEntry), key' ≠ key →
      cache'.entries[key']? = some entry' → cache.entries[key']? = some entry')
    (hclock : cache'.clock.toNat = cache.clock.toNat + 1) :
    cache'.Stamped (event :: history) := by
  rw [stamped_iff] at h ⊢
  refine h.of_use hentry hstamp (by omega) hsub fun key' hne => ?_
  have huse := lastUse_le key' history
  have hneq : (key == key') = false := by simpa using Ne.symm hne
  rw [lastUse, lastUse, hevent, hevent, hneq, beq_self_eq_true, if_pos rfl,
    if_neg Bool.false_ne_true]
  exact ⟨rfl, by omega⟩

/-! ### The cache agrees with the history -/

/-- The cache is the one that the history describes. -/
structure Recorded (cache : KvCache) (history : List KvCacheEvent) : Prop where
  invariant : cache.Invariant
  blocks_eq : ∀ key : KvCacheKey,
    cache.entries[key]?.map KvEntry.blocks = blocksSince key history
  clock_eq : cache.clock.toNat = ticks history
  stamped : cache.Stamped history
  evictions_le : cache.evictions.toNat + cache.entries.size ≤ ticks history

theorem Recorded.new {capacityBytes : BitVec 64} (h : KvCache.new capacityBytes = .ok cache) :
    cache.Recorded [] := by
  have hinvariant := Invariant.new h
  obtain ⟨-, rfl⟩ := new_eq_ok_iff.1 h
  refine ⟨hinvariant, by simp [blocksSince], by simp [ticks], ⟨by simp, by simp⟩, by simp⟩

theorem mem_evictedKeys_iff : key ∈ cache.evictedKeys cache' ↔
    cache.entries[key]? ≠ none ∧ cache'.entries[key]? = none :=
  OrderedMap.mem_missingKeys_iff

section Append

variable {victims : List (KvCacheKey × KvEntry)} {kept : Std.ExtTreeMap KvCacheKey KvEntry}

theorem Appends.getElem?_of_ne (happ : cache.Appends key block victims kept cache')
    {key' : KvCacheKey} (hne : key' ≠ key) :
    cache'.entries[key']? = if key' ∈ victims.map Prod.fst then none else cache.entries[key']? := by
  rw [happ.entries_eq, OrderedMap.getElem?_insert_of_ne hne, happ.evicts.getElem?_eq]

theorem Appends.getElem?_self (happ : cache.Appends key block victims kept cache') :
    cache'.entries[key]? = some (cache.extendedEntry key block) := by
  rw [happ.entries_eq, Std.ExtTreeMap.getElem?_insert_self]

theorem Appends.size_le (happ : cache.Appends key block victims kept cache') :
    cache'.entries.size + victims.length ≤ cache.entries.size + 1 := by
  have hsize := happ.evicts.size_eq
  have hinsert : cache'.entries.size ≤ kept.size + 1 := by
    rw [happ.entries_eq]
    exact Std.ExtTreeMap.size_insert_le
  omega

/-- No counter wraps around in a run that is short enough. -/
theorem Appends.evictions_toNat (happ : cache.Appends key block victims kept cache')
    (hevictions : cache.evictions.toNat + cache.entries.size + 1 < 2 ^ 64) :
    cache'.evictions.toNat = cache.evictions.toNat + victims.length := by
  have hsize := happ.size_le
  rw [happ.evictions_eq]
  omega

theorem Recorded.append_ok (h : cache.Recorded history)
    (happ : cache.Appends key block victims kept cache')
    (hcheck : cache.checkAppend key block = .ok ()) (hticks : ticks history + 1 < 2 ^ 64) :
    cache'.Recorded (.appended key block (cache.evictedKeys cache') :: history) := by
  have hclock : cache'.clock.toNat = cache.clock.toNat + 1 := by
    rw [happ.clock_eq]
    exact nextTouch_toNat (by rw [h.clock_eq]; exact hticks)
  refine ⟨happ.invariant h.invariant hcheck, fun key' => ?_, ?_, ?_, ?_⟩
  · rw [blocksSince]
    split_ifs with hkey hevicted
    · subst hkey
      rw [happ.getElem?_self, ← h.blocks_eq, Option.map_some, extendedEntry]
      cases cache.entries[key]? <;> rfl
    · rw [(mem_evictedKeys_iff.1 hevicted).2, Option.map_none]
    · rw [← h.blocks_eq]
      rw [mem_evictedKeys_iff, not_and_or, not_not] at hevicted
      have hother := happ.getElem?_of_ne (Ne.symm hkey)
      by_cases hvictim : key' ∈ victims.map Prod.fst
      · rw [if_pos hvictim] at hother
        rw [hother, hevicted.resolve_right (not_not.2 hother)]
      · rw [hother, if_neg hvictim]
  · rw [hclock, h.clock_eq, ticks_cons]
    rfl
  · refine h.stamped.of_use (fun _ => rfl) happ.getElem?_self ?_ ?_ hclock
    · rw [entryStamp, extendedEntry, happ.clock_eq]
    · intro key' entry' hne hentry'
      rw [happ.getElem?_of_ne hne] at hentry'
      split_ifs at hentry'
      exact hentry'
  · have hle := h.evictions_le
    have hsize := happ.size_le
    rw [happ.evictions_toNat (by omega), ticks_cons, KvCacheEvent.isTick, if_pos rfl]
    omega

end Append

theorem Recorded.view_some (h : cache.Recorded history) {entry : KvEntry}
    (hentry : cache.entries[key]? = some entry) (hticks : ticks history + 1 < 2 ^ 64) :
    (cache.view key).2.Recorded (.viewed key :: history) := by
  have hinvariant := h.invariant.view key
  obtain ⟨tokens, -, hview⟩ := view_of_some h.invariant hentry
  rw [hview] at hinvariant ⊢
  have hclock : cache.nextTouch.toNat = cache.clock.toNat + 1 :=
    nextTouch_toNat (by rw [h.clock_eq]; exact hticks)
  refine ⟨hinvariant, fun key' => ?_, ?_, ?_, ?_⟩
  · rw [blocksSince, ← h.blocks_eq]
    by_cases hkey : key' = key
    · rw [hkey, Std.ExtTreeMap.getElem?_insert_self, hentry]
      rfl
    · rw [OrderedMap.getElem?_insert_of_ne hkey]
  · rw [hclock, h.clock_eq, ticks_cons]
    rfl
  · refine h.stamped.of_use (fun _ => rfl) Std.ExtTreeMap.getElem?_insert_self rfl ?_ hclock
    intro key' entry' hne hentry'
    rwa [OrderedMap.getElem?_insert_of_ne hne] at hentry'
  · have hle := h.evictions_le
    have hmem : cache.entries.contains key = true := by
      rw [Std.ExtTreeMap.contains_eq_isSome_getElem?, hentry]
      rfl
    rw [Std.ExtTreeMap.size_insert, if_pos hmem, ticks_cons]
    exact hle.trans (Nat.le_add_right _ _)

theorem Recorded.view_none (h : cache.Recorded history)
    (hentry : cache.entries[key]? = none) (hticks : ticks history + 1 < 2 ^ 64) :
    (cache.view key).2.Recorded (.missed key :: history) := by
  have hinvariant := h.invariant.view key
  rw [view_of_none hentry] at hinvariant ⊢
  have hclock : cache.nextTouch.toNat = cache.clock.toNat + 1 :=
    nextTouch_toNat (by rw [h.clock_eq]; exact hticks)
  refine ⟨hinvariant, h.blocks_eq, ?_, ?_, ?_⟩
  · rw [hclock, h.clock_eq, ticks_cons]
    rfl
  · exact h.stamped.of_subset (fun _ => rfl) (fun _ _ hentry => hentry)
      (by rw [hclock]; exact Nat.le_succ _)
  · rw [ticks_cons]
    exact h.evictions_le.trans (Nat.le_add_right _ _)

theorem Recorded.unchanged (h : cache.Recorded history) :
    cache.Recorded (.unchanged :: history) where
  invariant := h.invariant
  blocks_eq := h.blocks_eq
  clock_eq := h.clock_eq
  stamped := h.stamped.of_subset (fun _ => rfl) (fun _ _ hentry => hentry) le_rfl
  evictions_le := h.evictions_le

theorem Recorded.remove_some (h : cache.Recorded history) {entry : KvEntry}
    (hentry : cache.entries[key]? = some entry) :
    (cache.remove key).2.Recorded (.removed key :: history) := by
  have hinvariant := h.invariant.remove key
  rw [remove_of_some hentry] at hinvariant ⊢
  refine ⟨hinvariant, fun key' => ?_, h.clock_eq, ?_, ?_⟩
  · rw [blocksSince, ← h.blocks_eq]
    split_ifs with hkey
    · rw [← hkey, Std.ExtTreeMap.getElem?_erase_self, Option.map_none]
    · rw [OrderedMap.getElem?_erase_of_ne (Ne.symm hkey)]
  · exact h.stamped.of_subset (fun _ => rfl)
      (fun key' entry' hentry' => (OrderedMap.getElem?_erase_eq_some_iff.1 hentry').2) le_rfl
  · have hle := h.evictions_le
    have hsize := OrderedMap.size_erase_add_one hentry
    change cache.evictions.toNat + (cache.entries.erase key).size ≤ ticks history
    omega

theorem Recorded.cleared (h : cache.Recorded history) :
    cache.clear.Recorded (.cleared :: history) where
  invariant := invariant_clear cache
  blocks_eq := by simp [KvCache.clear, blocksSince]
  clock_eq := h.clock_eq
  stamped := h.stamped.of_subset (fun _ => rfl) (by simp [KvCache.clear]) le_rfl
  evictions_le := by
    have hle := h.evictions_le
    simp only [KvCache.clear, Std.ExtTreeMap.size_empty]
    change _ ≤ ticks history
    omega

/-- Every call keeps the agreement between the cache and the history. -/
theorem Recorded.step (h : cache.Recorded history) (call : KvCacheCall)
    (hticks : ticks (cache.event call :: history) < 2 ^ 64) :
    (cache.step call).Recorded (cache.event call :: history) := by
  rw [ticks_cons] at hticks
  cases call with
  | append key block =>
    cases hcheck : cache.checkAppend key block with
    | error e =>
      simp only [KvCache.step, KvCache.event, append_of_check_error hcheck]
      exact h.unchanged
    | ok u =>
      obtain ⟨victims, kept, cache', hrun, -, happ⟩ := append_spec h.invariant hcheck
      simp only [KvCache.step, KvCache.event, hrun, KvCacheEvent.isTick, if_true] at hticks ⊢
      exact h.append_ok happ hcheck hticks
  | view key =>
    simp only [KvCache.step, KvCache.event, Std.ExtTreeMap.contains_eq_isSome_getElem?] at hticks ⊢
    cases hentry : cache.entries[key]? with
    | none =>
      simp only [hentry, Option.isSome_none, Bool.false_eq_true, if_false, KvCacheEvent.isTick,
        if_true] at hticks ⊢
      exact h.view_none hentry hticks
    | some entry =>
      simp only [hentry, Option.isSome_some, KvCacheEvent.isTick, if_true] at hticks ⊢
      exact h.view_some hentry hticks
  | remove key =>
    simp only [KvCache.step, KvCache.event, Std.ExtTreeMap.contains_eq_isSome_getElem?]
    cases hentry : cache.entries[key]? with
    | none =>
      simp only [remove_of_none hentry, Option.isSome_none, Bool.false_eq_true, if_false]
      exact h.unchanged
    | some entry =>
      simp only [Option.isSome_some, if_true]
      exact h.remove_some hentry
  | clear => exact h.cleared

/-! ### Runs -/

theorem historyFrom_append (cache : KvCache) (history : List KvCacheEvent)
    (before after : List KvCacheCall) :
    cache.historyFrom history (before ++ after) =
      (cache.run before).historyFrom (cache.historyFrom history before) after := by
  induction before generalizing cache history with
  | nil => rfl
  | cons call before ih => exact ih _ _

theorem ticks_le_historyFrom (cache : KvCache) (history : List KvCacheEvent)
    (calls : List KvCacheCall) : ticks history ≤ ticks (cache.historyFrom history calls) := by
  induction calls generalizing cache history with
  | nil => exact le_rfl
  | cons call calls ih =>
    refine le_trans ?_ (ih _ _)
    rw [ticks_cons]
    exact Nat.le_add_right _ _

/-- Every short enough run keeps the agreement between the cache and the history. -/
theorem Recorded.run (h : cache.Recorded history) (calls : List KvCacheCall)
    (hticks : ticks (cache.historyFrom history calls) < 2 ^ 64) :
    (cache.run calls).Recorded (cache.historyFrom history calls) := by
  induction calls generalizing cache history with
  | nil => exact h
  | cons call calls ih =>
    have hstep := (ticks_le_historyFrom (cache.step call) (cache.event call :: history)
      calls).trans_lt hticks
    exact ih (h.step call hstep) hticks

/-! ### The victims of an append -/

/-- A successful append drops the shortest sufficient prefix of the other keys, by last use. -/
theorem Appends.lruAppend {victims : List (KvCacheKey × KvEntry)}
    {kept : Std.ExtTreeMap KvCacheKey KvEntry} (happ : cache.Appends key block victims kept cache')
    (h : cache.Recorded history) (hticks : ticks history + 1 < 2 ^ 64) :
    ∃ others n, cache.LruAppend cache' history key block others n := by
  have hstamped := stamped_iff.1 h.stamped
  obtain ⟨xs, hxs⟩ := hstamped.exists_isQueue fun key' => key' != key
  have hlookup : ∀ e ∈ xs, cache.currentBytes e.1 = entryBytes e.2 := fun e he => by
    rw [currentBytes, ((hxs.mem_iff e).1 he).1]
    rfl
  obtain ⟨hle, htotal, hshort, hentries⟩ :=
    happ.evicts.keys_take hxs cache.currentBytes hlookup
  rw [← h.invariant.bytes_eq] at htotal
  have hfits := happ.fits
  refine ⟨xs.map Prod.fst, victims.length, fun key' => ?_, hstamped.sorted_lastUse hxs, hle, ?_,
    fun i hi => ?_, fun key' hne => ?_, ?_⟩
  · simp only [List.mem_map, Prod.exists, exists_and_right, exists_eq_right, hxs.mem_iff,
      bne_iff_ne, Std.ExtTreeMap.mem_iff_isSome_getElem?, Option.isSome_iff_exists]
    exact and_comm
  · rw [htotal]
    omega
  · rw [h.invariant.bytes_eq]
    exact hshort i hi
  · rw [happ.entries_eq, OrderedMap.getElem?_insert_of_ne hne, hentries]
  · have := h.evictions_le
    exact happ.evictions_toNat (by omega)

/-- **The cache is determined by its history.** In a run with fewer than `2 ^ 64` successful
appends and views, a view of a key at any time returns the blocks appended to the key since it was
last absent, and nothing exactly when it is absent; and every successful append evicts the
shortest prefix of the other keys, by their last use, that makes its block fit. -/
theorem refines_history {capacityBytes : BitVec 64} (hnew : KvCache.new capacityBytes = .ok cache)
    (calls : List KvCacheCall) (hticks : ticks (cache.history calls) < 2 ^ 64) :
    (∀ before after key, calls = before ++ after →
      ∃ view, ((cache.run before).view key).1 = .ok view ∧
        view.map KvCacheView.blocks = blocksSince key (cache.history before)) ∧
    ∀ before after key block, calls = before ++ .append key block :: after →
      ((cache.run before).append key block).1 = .ok () →
      ∃ others n, (cache.run before).LruAppend ((cache.run before).append key block).2
        (cache.history before) key block others n := by
  have hrecorded : ∀ before after, calls = before ++ after →
      (cache.run before).Recorded (cache.history before) := by
    rintro before after rfl
    refine (Recorded.new hnew).run before (lt_of_le_of_lt ?_ hticks)
    rw [history, historyFrom_append]
    exact ticks_le_historyFrom _ _ after
  constructor
  · intro before after key hcalls
    have h := hrecorded before after hcalls
    rw [← h.blocks_eq]
    cases hentry : (cache.run before).entries[key]? with
    | none => exact ⟨none, by rw [view_of_none hentry], rfl⟩
    | some entry =>
      obtain ⟨tokens, -, hview⟩ := view_of_some h.invariant hentry
      exact ⟨_, by rw [hview], rfl⟩
  · intro before after key block hcalls hok
    have h := hrecorded before _ hcalls
    cases hcheck : (cache.run before).checkAppend key block with
    | error e =>
      rw [append_of_check_error hcheck] at hok
      cases hok
    | ok u =>
      obtain ⟨victims, kept, cache', hrun, -, happ⟩ := append_spec h.invariant hcheck
      rw [hrun]
      refine happ.lruAppend h ?_
      -- this append is a tick of the run
      have hle := ticks_le_historyFrom ((cache.run before).step (.append key block))
        ((cache.run before).event (.append key block) :: cache.history before) after
      have hevent : ((cache.run before).event (.append key block)).isTick = true := by
        simp [event, hrun, KvCacheEvent.isTick]
      rw [ticks_cons, if_pos hevent] at hle
      rw [hcalls, history, historyFrom_append] at hticks
      exact hle.trans_lt hticks

/-- Two entries of 40 bytes in 100, the first of them viewed: the append of a third evicts the
second. -/
theorem refines_history_third_append :
    ∃ cache, KvCache.new 100#64 = .ok cache ∧
      let before : List KvCacheCall := [.append ⟨1#64, 0#32⟩ (.ofSizes 0#64 1#32 40#64),
        .append ⟨2#64, 0#32⟩ (.ofSizes 0#64 1#32 40#64), .view ⟨1#64, 0#32⟩]
      ∃ others n, (cache.run before).LruAppend
        ((cache.run before).append ⟨3#64, 0#32⟩ (.ofSizes 0#64 1#32 40#64)).2
        (cache.history before) ⟨3#64, 0#32⟩ (.ofSizes 0#64 1#32 40#64) others n :=
  ⟨_, rfl, (refines_history (new_eq_ok_iff.2 ⟨by decide, rfl⟩)
    [.append ⟨1#64, 0#32⟩ (.ofSizes 0#64 1#32 40#64),
      .append ⟨2#64, 0#32⟩ (.ofSizes 0#64 1#32 40#64), .view ⟨1#64, 0#32⟩,
      .append ⟨3#64, 0#32⟩ (.ofSizes 0#64 1#32 40#64)] (by decide +kernel)).2 _ [] _ _ rfl
    (by decide +kernel)⟩

end KvCache

end RiftGPU
