import Mathlib.Logic.Relation
import RiftGPU.Lru.Eviction
import RiftGPU.Residency.Cache

/-!
# Accounting of the residency cache

The cache keeps the byte total of its allocations and counts its hits, misses and evictions. Both
are updated in place on many paths: hits, stale replacement, eviction, failures of the provider,
invalidation and clearing. This file proves that the totals stay exact on all of them, and that
the counters obey a conservation law: every stored allocation is either still resident or counted
as evicted.

## Main definitions

* `Residency.ResidencyCache.Invariant`: the totals are exact and every entry is stored under the
  key of its allocation.
* `Residency.CacheState.Shrinks`: some entries are dropped and counted as evicted.
* `Residency.Tally`, `Residency.ResidencyCache.tally`: what happened in a run.

## Main results

* `Residency.CacheState.makeRoom_spec`, `Residency.CacheState.acquire_spec`.
* `Residency.ResidencyCache.Invariant.step`, `Residency.ResidencyCache.Counted.step`.
* `Residency.ResidencyCache.counters_conserved`.
-/

namespace RiftGPU.Residency

open ResidentAllocation (spec)

variable {A : Type} [ResidentAllocation A]

theorem ResidencySpec.validate_eq_ok_iff {requested : ResidencySpec} {u : Unit} :
    requested.validate = .ok u ↔ 0 ≤ requested.deviceIndex.toInt ∧ 0 < requested.bytes.toNat := by
  rw [validate, Except.rejectIf_eq_ok_iff, not_or, not_lt, BitVec.eq_zero_iff_toNat,
    Nat.pos_iff_ne_zero]

namespace CacheState

variable {state state' state'' : CacheState A} {key : ResidencyKey} {entry : CacheEntry A}
  {capacityBytes : BitVec 64} {requested : ResidencySpec}

/-- The weight of an entry. -/
def entryBytes (entry : CacheEntry A) : ℕ := (spec entry.allocation).bytes.toNat

/-- The stamp of an entry. -/
def entryStamp (entry : CacheEntry A) : ℕ := entry.lastTouch.toNat

/-- The byte total is exact. -/
def Exact (state : CacheState A) : Prop :=
  state.residentBytes.toNat = OrderedMap.total entryBytes state.entries

theorem Exact.entry_bytes_le (h : state.Exact) (hentry : state.entries[key]? = some entry) :
    (spec entry.allocation).bytes.toNat ≤ state.residentBytes.toNat := by
  rw [h]
  exact OrderedMap.weight_le_total entryBytes hentry

/-! ### Dropping entries -/

/-- From `state` to `state'`, entries are dropped and counted as evicted. -/
structure Shrinks (state state' : CacheState A) : Prop where
  subset : ∀ (key : ResidencyKey) (entry : CacheEntry A), state'.entries[key]? = some entry →
    state.entries[key]? = some entry
  exact' : state'.Exact
  bytes_le : state'.residentBytes.toNat ≤ state.residentBytes.toNat
  conserved : state.entries.size + state.evictions.toNat < 2 ^ 64 →
    state'.entries.size + state'.evictions.toNat = state.entries.size + state.evictions.toNat
  hits_eq : state'.hits = state.hits
  misses_eq : state'.misses = state.misses

theorem Shrinks.refl (h : state.Exact) : state.Shrinks state :=
  ⟨fun _ _ hentry => hentry, h, le_rfl, fun _ => rfl, rfl, rfl⟩

theorem Shrinks.trans (h : state.Shrinks state') (h' : state'.Shrinks state'') :
    state.Shrinks state'' where
  subset key entry hentry := h.subset key entry (h'.subset key entry hentry)
  exact' := h'.exact'
  bytes_le := h'.bytes_le.trans h.bytes_le
  conserved hlt := by
    have hconserved := h.conserved hlt
    rw [← hconserved] at hlt
    rw [h'.conserved hlt, hconserved]
  hits_eq := h'.hits_eq.trans h.hits_eq
  misses_eq := h'.misses_eq.trans h.misses_eq

theorem Shrinks.getElem?_eq_none (h : state.Shrinks state') (hnone : state.entries[key]? = none) :
    state'.entries[key]? = none := by
  by_contra hne
  obtain ⟨entry, hentry⟩ := Option.ne_none_iff_exists'.1 hne
  rw [h.subset key entry hentry] at hnone
  cases hnone

theorem dropEntry_shrinks (h : state.Exact) (hentry : state.entries[key]? = some entry) :
    state.Shrinks (state.dropEntry key entry) where
  subset key' entry' hentry' := (OrderedMap.getElem?_erase_eq_some_iff.1 hentry').2
  exact' := by
    unfold Exact at h ⊢
    rw [OrderedMap.total_eq_add_erase entryBytes hentry] at h
    simp only [dropEntry, BitVec.toNat_saturatingSub, h, entryBytes]
    exact Nat.add_sub_cancel_left _ _
  bytes_le := by
    simp only [dropEntry, BitVec.toNat_saturatingSub]
    exact Nat.sub_le _ _
  conserved hlt := by
    have hsize := OrderedMap.size_erase_add_one hentry
    simp only [dropEntry, BitVec.toNat_saturatingAdd_one]
    omega
  hits_eq := rfl
  misses_eq := rfl

theorem dropStale_shrinks (h : state.Exact) (key : ResidencyKey) :
    state.Shrinks (state.dropStale key) := by
  unfold dropStale
  split
  · rename_i stale hentry
    exact dropEntry_shrinks h hentry
  · exact Shrinks.refl h

/-- Invalidation drops at most the entry of its key. -/
theorem invalidate_shrinks (h : state.Exact) (key : ResidencyKey) :
    state.Shrinks (state.invalidate key).2 := by
  unfold invalidate
  split
  · rename_i removed hentry
    exact dropEntry_shrinks h hentry
  · exact Shrinks.refl h

theorem dropStale_getElem?_self (state : CacheState A) (key : ResidencyKey) :
    (state.dropStale key).entries[key]? = none := by
  unfold dropStale
  split
  · exact Std.ExtTreeMap.getElem?_erase_self
  · rename_i hnone
    exact hnone

/-! ### The eviction loop -/

omit [ResidentAllocation A] in
theorem needsRoom_iff {bytes : BitVec 64} :
    state.needsRoom capacityBytes bytes ↔
      capacityBytes.toNat < state.residentBytes.toNat + bytes.toNat :=
  BitVec.checkedAdd_all_gt_iff

/-- A victim exists as long as there is an entry. -/
theorem residentBytes_of_victim_eq_none (h : state.Exact) (hnone : state.victim = none) :
    state.residentBytes.toNat = 0 := by
  rw [victim, Option.map_eq_none_iff, OrderedMap.leastBy_eq_none_iff] at hnone
  have hempty : state.entries = ∅ := by
    refine Std.ExtTreeMap.ext_getElem? fun key => ?_
    rw [hnone key rfl]
    simp
  rw [h, hempty, OrderedMap.total_empty]

/-- The eviction loop drops entries and stops when the allocation fits. It fails only when the
allocation does not fit in the empty cache. -/
theorem makeRoom_spec (h : state.Exact) (capacityBytes : BitVec 64) (requested : ResidencySpec) :
    ∃ result room, state.makeRoom capacityBytes requested = (result, room) ∧
      state.Shrinks room ∧ (result = .ok () ∧
        room.residentBytes.toNat + requested.bytes.toNat ≤ capacityBytes.toNat ∨
          capacityBytes.toNat < requested.bytes.toNat) := by
  fun_induction state.makeRoom capacityBytes requested with
  | case1 state hroom hvictim =>
    refine ⟨_, state, rfl, Shrinks.refl h, .inr ?_⟩
    have hzero := residentBytes_of_victim_eq_none h hvictim
    have := needsRoom_iff.1 hroom
    omega
  | case2 state hroom victim hvictim hnone =>
    obtain ⟨e, hleast, rfl⟩ := Option.map_eq_some_iff.1 hvictim
    rw [(OrderedMap.getElem?_of_leastBy hleast).1] at hnone
    cases hnone
  | case3 state hroom victim hvictim removed hremoved ih =>
    have hdrop := dropEntry_shrinks h hremoved
    obtain ⟨result, room, hrun, hshrinks, hend⟩ := ih hdrop.exact'
    exact ⟨result, room, hrun, hdrop.trans hshrinks, hend⟩
  | case4 state hroom =>
    refine ⟨_, state, rfl, Shrinks.refl h, .inl ⟨rfl, ?_⟩⟩
    rwa [needsRoom_iff, not_lt] at hroom

/-- The byte total stays exact inside the eviction loop. -/
theorem exact_of_iterations
    (hrun : Relation.ReflTransGen (EvictIteration capacityBytes requested) state state')
    (h : state.Exact) : state'.Exact := by
  induction hrun with
  | refl => exact h
  | tail hrun hstep ih =>
    obtain ⟨-, victim, removed, -, hremoved, rfl⟩ := hstep
    exact (dropEntry_shrinks ih hremoved).exact'

/-! ### Acquiring -/

/-- The state in which the eviction loop of a miss starts has dropped only the stale entry. -/
theorem missed_shrinks (h : state.Exact) (requested : ResidencySpec) :
    state.countMiss.Shrinks (state.missed requested) := by
  have hdrop : state.tick.Shrinks (state.tick.dropStale requested.key) :=
    have htick : state.tick.Exact := h
    dropStale_shrinks htick requested.key
  refine ⟨hdrop.subset, hdrop.exact', hdrop.bytes_le, hdrop.conserved, hdrop.hits_eq, ?_⟩
  change (state.tick.dropStale requested.key).misses.saturatingAdd 1#64 = _
  rw [hdrop.misses_eq]
  rfl

/-- A miss that finds room: the provider is asked, and its answer is stored in `room`. -/
structure Missed (state : CacheState A) (capacityBytes : BitVec 64) (requested : ResidencySpec)
    (room : CacheState A) : Prop where
  makeRoom_eq : (state.missed requested).makeRoom capacityBytes requested = (.ok (), room)
  shrinks : state.countMiss.Shrinks room
  fits : room.residentBytes.toNat + requested.bytes.toNat ≤ capacityBytes.toNat
  absent : room.entries[requested.key]? = none

/-- Every miss finds room. -/
theorem exists_missed (h : state.Exact)
    (hbytes : requested.bytes.toNat ≤ capacityBytes.toNat) :
    ∃ room, state.Missed capacityBytes requested room := by
  have hmissed := missed_shrinks h requested
  obtain ⟨result, room, hrun, hshrinks, hend⟩ :=
    makeRoom_spec hmissed.exact' capacityBytes requested
  rcases hend with ⟨rfl, hfits⟩ | hlt
  · exact ⟨room, hrun, hmissed.trans hshrinks, hfits,
      hshrinks.getElem?_eq_none (dropStale_getElem?_self state.tick requested.key)⟩
  · omega

/-- A hit: the entry under the requested key was opened for the same specification. -/
theorem hit_eq_some_iff {allocation : A} :
    state.hit requested = some (allocation, state') ↔ ∃ entry : CacheEntry A,
      state.entries[requested.key]? = some entry ∧ spec entry.allocation = requested ∧
        entry.allocation = allocation ∧ { state with
          entries := state.entries.insert requested.key { entry with lastTouch := state.clock }
          hits := state.hits.saturatingAdd 1#64 } = state' := by
  unfold hit
  cases hentry : state.entries[requested.key]? with
  | none => simp
  | some entry =>
    by_cases hspec : spec entry.allocation = requested
    · simp [hspec]
    · simp [hspec]

omit [ResidentAllocation A] in
/-- The new byte total does not overflow where there is room. -/
theorem checkedAdd_of_fits
    (hfits : state.residentBytes.toNat + requested.bytes.toNat ≤ capacityBytes.toNat) :
    state.residentBytes.checkedAdd requested.bytes =
      some (state.residentBytes + requested.bytes) := by
  have hcapacity := capacityBytes.isLt
  exact if_pos (by omega)

/-- The provider's answer is stored when it is an allocation of the requested specification, and
otherwise leaves the state as it is. -/
theorem store_spec (hfits : state.residentBytes.toNat + requested.bytes.toNat ≤
      capacityBytes.toNat) (answer : Except ResidencyError A) :
    (∃ e, state.store capacityBytes requested answer = (.error (.error e), state)) ∨
      ∃ allocation, answer = .ok allocation ∧ spec allocation = requested ∧
        state.store capacityBytes requested answer = (.ok allocation, { state with
          residentBytes := state.residentBytes + requested.bytes
          entries := state.entries.insert requested.key ⟨allocation, state.clock⟩ }) := by
  unfold store
  cases answer with
  | error e => exact .inl ⟨e, rfl⟩
  | ok allocation =>
    by_cases hspec : spec allocation = requested
    · exact .inr ⟨allocation, rfl, hspec, by simp [hspec, checkedAdd_of_fits hfits]⟩
    · exact .inl ⟨.providerContract requested (spec allocation), by simp [hspec]⟩

/-- **What an acquire does** once its checks have passed: it returns the stored allocation of the
requested specification, or drops what is in the way, asks the provider once and stores its
answer. -/
theorem acquire_spec (h : state.Exact) (hbytes : requested.bytes.toNat ≤ capacityBytes.toNat)
    (provider : ResidencyProvider A) :
    (∃ allocation hitState, state.tick.hit requested = some (allocation, hitState) ∧
      state.acquire capacityBytes provider requested = ⟨.ok allocation, hitState, []⟩) ∨
    (state.tick.hit requested = none ∧ ∃ room, state.Missed capacityBytes requested room ∧
      state.acquire capacityBytes provider requested =
        ⟨(room.store capacityBytes requested (provider requested)).1,
          (room.store capacityBytes requested (provider requested)).2, [requested]⟩) := by
  unfold acquire
  cases hhit : state.tick.hit requested with
  | some found => exact .inl ⟨found.1, found.2, rfl, rfl⟩
  | none =>
    obtain ⟨room, hroom⟩ := exists_missed h hbytes
    exact .inr ⟨rfl, room, hroom, by rw [hroom.makeRoom_eq]⟩

/-! ### The invariant -/

/-- Every entry is stored under the key of its allocation, whose specification is valid, and the
byte total is exact and within the capacity. -/
structure Invariant (state : CacheState A) (capacityBytes : BitVec 64) : Prop where
  key_eq : ∀ (key : ResidencyKey) (entry : CacheEntry A), state.entries[key]? = some entry →
    (spec entry.allocation).key = key
  valid : ∀ (key : ResidencyKey) (entry : CacheEntry A), state.entries[key]? = some entry →
    (spec entry.allocation).validate = .ok ()
  exact' : state.Exact
  bytes_le : state.residentBytes.toNat ≤ capacityBytes.toNat

theorem Shrinks.invariant (hshrinks : state.Shrinks state') (h : state.Invariant capacityBytes) :
    state'.Invariant capacityBytes where
  key_eq key entry hentry := h.key_eq key entry (hshrinks.subset key entry hentry)
  valid key entry hentry := h.valid key entry (hshrinks.subset key entry hentry)
  exact' := hshrinks.exact'
  bytes_le := hshrinks.bytes_le.trans h.bytes_le

theorem Missed.invariant {room : CacheState A} (hroom : state.Missed capacityBytes requested room)
    (h : state.Invariant capacityBytes) : room.Invariant capacityBytes :=
  hroom.shrinks.invariant ⟨h.key_eq, h.valid, h.exact', h.bytes_le⟩

/-- A hit keeps the invariant. -/
theorem Invariant.hit (h : state.Invariant capacityBytes) {allocation : A}
    (hhit : state.hit requested = some (allocation, state')) : state'.Invariant capacityBytes := by
  obtain ⟨entry, hentry, -, -, rfl⟩ := hit_eq_some_iff.1 hhit
  have hentries : ∀ (key : ResidencyKey) (entry' : CacheEntry A),
      (state.entries.insert requested.key { entry with lastTouch := state.clock })[key]? =
        some entry' → ∃ entry'' : CacheEntry A, state.entries[key]? = some entry'' ∧
          entry''.allocation = entry'.allocation := by
    intro key entry' hentry'
    by_cases hkey : key = requested.key
    · rw [hkey, Std.ExtTreeMap.getElem?_insert_self, Option.some.injEq] at hentry'
      rw [hkey, ← hentry']
      exact ⟨entry, hentry, rfl⟩
    · rw [OrderedMap.getElem?_insert_of_ne hkey] at hentry'
      exact ⟨entry', hentry', rfl⟩
  refine ⟨fun key entry' hentry' => ?_, fun key entry' hentry' => ?_, ?_, h.bytes_le⟩
  · obtain ⟨entry'', hentry'', hallocation⟩ := hentries key entry' hentry'
    rw [← hallocation]
    exact h.key_eq key entry'' hentry''
  · obtain ⟨entry'', hentry'', hallocation⟩ := hentries key entry' hentry'
    rw [← hallocation]
    exact h.valid key entry'' hentry''
  · refine h.exact'.trans ?_
    rw [OrderedMap.total_insert, OrderedMap.total_eq_add_erase entryBytes hentry]
    rfl

/-- Storing a new allocation where there is room keeps the invariant. -/
theorem Invariant.stored (h : state.Invariant capacityBytes)
    (hfits : state.residentBytes.toNat + requested.bytes.toNat ≤ capacityBytes.toNat)
    (habsent : state.entries[requested.key]? = none) (hvalid : requested.validate = .ok ())
    {allocation : A} (hspec : spec allocation = requested) :
    { state with
      residentBytes := state.residentBytes + requested.bytes
      entries := state.entries.insert requested.key ⟨allocation, state.clock⟩ }.Invariant
        capacityBytes := by
  have hcapacity := capacityBytes.isLt
  have hsum : (state.residentBytes + requested.bytes).toNat =
      state.residentBytes.toNat + requested.bytes.toNat := by
    rw [BitVec.toNat_add, Nat.mod_eq_of_lt (by omega)]
  refine ⟨fun key entry hentry => ?_, fun key entry hentry => ?_, ?_, hsum.trans_le hfits⟩
  · by_cases hkey : key = requested.key
    · rw [hkey, Std.ExtTreeMap.getElem?_insert_self, Option.some.injEq] at hentry
      rw [← hentry, hspec, hkey]
    · rw [OrderedMap.getElem?_insert_of_ne hkey] at hentry
      exact h.key_eq key entry hentry
  · by_cases hkey : key = requested.key
    · rw [hkey, Std.ExtTreeMap.getElem?_insert_self, Option.some.injEq] at hentry
      rw [← hentry, hspec, hvalid]
    · rw [OrderedMap.getElem?_insert_of_ne hkey] at hentry
      exact h.valid key entry hentry
  · have hexact := h.exact'
    unfold Exact at hexact ⊢
    rw [hsum, OrderedMap.total_insert, OrderedMap.erase_of_getElem?_eq_none habsent, hexact,
      entryBytes, hspec, Nat.add_comm]

end CacheState

/-! ### Tallies of a run -/

/-- What happened in a run: how often a provider was asked to open a resource, how many acquires
passed their checks, and how many opened and stored an allocation. -/
structure Tally where
  opens : ℕ
  accepted : ℕ
  stored : ℕ

namespace ResidencyCache

/-- The tally after a call. -/
def count (cache : ResidencyCache A) (tally : Tally) : ResidencyCall A → Tally
  | .acquire provider requested =>
    let acquired := cache.acquire provider requested
    { opens := tally.opens + acquired.opened.length
      accepted := tally.accepted + if (cache.checkAcquire requested).isOk then 1 else 0
      stored := tally.stored +
        if acquired.opened.length ≠ 0 ∧ acquired.result.isOk then 1 else 0 }
  | .invalidate _ | .clear => tally

/-- The tally of a run, on top of an earlier one. -/
def tallyFrom (cache : ResidencyCache A) (tally : Tally) : List (ResidencyCall A) → Tally
  | [] => tally
  | call :: calls => (cache.step call).tallyFrom (cache.count tally call) calls

/-- The tally of a run. -/
def tally (cache : ResidencyCache A) (calls : List (ResidencyCall A)) : Tally :=
  cache.tallyFrom ⟨0, 0, 0⟩ calls

variable {cache : ResidencyCache A} {tally : Tally} {n : ℕ} {requested : ResidencySpec}

/-- The state satisfies its invariant and the lock is not poisoned. -/
structure Invariant (cache : ResidencyCache A) : Prop where
  state : cache.state.Invariant cache.capacityBytes
  not_poisoned : cache.poisoned = false

/-- The counters of the state are those of the tally of a run of at most `n` calls. -/
structure Counted (state : CacheState A) (tally : Tally) (n : ℕ) : Prop where
  misses_eq : state.misses.toNat = tally.opens
  accepted_eq : state.hits.toNat + state.misses.toNat = tally.accepted
  stored_eq : tally.stored = state.entries.size + state.evictions.toNat
  accepted_le : tally.accepted ≤ n
  stored_le : tally.stored ≤ n

omit [ResidentAllocation A] in
theorem new_eq_ok_iff {capacityBytes : BitVec 64} :
    new capacityBytes = .ok cache ↔ capacityBytes ≠ 0#64 ∧
      { capacityBytes, state := .default, poisoned := false } = cache := by
  rw [new, Except.rejectIf_bind_eq_ok_iff, Except.pure_eq_ok_iff]

theorem Invariant.new {capacityBytes : BitVec 64} (h : new capacityBytes = .ok cache) :
    cache.Invariant := by
  obtain ⟨-, rfl⟩ := new_eq_ok_iff.1 h
  exact ⟨⟨by simp [CacheState.default], by simp [CacheState.default],
    by simp [CacheState.Exact, CacheState.default], by simp [CacheState.default]⟩, rfl⟩

omit [ResidentAllocation A] in
theorem Counted.new : Counted (CacheState.default : CacheState A) ⟨0, 0, 0⟩ 0 :=
  ⟨rfl, rfl, by simp [CacheState.default], le_rfl, le_rfl⟩

omit [ResidentAllocation A] in
theorem checkAcquire_eq_ok_iff {u : Unit} :
    cache.checkAcquire requested = .ok u ↔
      requested.validate = .ok () ∧ requested.bytes.toNat ≤ cache.capacityBytes.toNat := by
  simp only [checkAcquire, Except.bind_eq_ok_iff, Except.rejectIf_eq_ok_iff, gt_iff_lt,
    BitVec.lt_def, not_lt, exists_and_right]
  refine and_congr_left fun _ => ?_
  constructor
  · rintro ⟨_, h⟩
    exact h
  · intro h
    exact ⟨(), h⟩

theorem lock_of_invariant (h : cache.Invariant) : cache.lock = .ok cache.state := by
  simp [lock, h.not_poisoned, Except.rejectIf]

theorem acquire_of_error {e : ResidencyError} (hcheck : cache.checkAcquire requested = .error e)
    (provider : ResidencyProvider A) :
    cache.acquire provider requested = ⟨.error (.error e), cache, []⟩ := by
  simp only [acquire, hcheck, Except.error_bind]

/-- An accepted acquire does not panic, so that it leaves the lock as it is. -/
theorem acquire_of_ok (h : cache.Invariant) (hcheck : cache.checkAcquire requested = .ok ())
    (provider : ResidencyProvider A) :
    cache.acquire provider requested =
      ⟨(cache.state.acquire cache.capacityBytes provider requested).result,
        { cache with
          state := (cache.state.acquire cache.capacityBytes provider requested).state },
        (cache.state.acquire cache.capacityBytes provider requested).opened⟩ := by
  have hpanic : ∀ message, (cache.state.acquire cache.capacityBytes provider requested).result ≠
      .error (.panic message) := by
    intro message
    have hbytes := (checkAcquire_eq_ok_iff.1 hcheck).2
    rcases CacheState.acquire_spec h.state.exact' hbytes provider with
      ⟨allocation, hitState, -, hacquire⟩ | ⟨-, room, hroom, hacquire⟩
    · simp [hacquire]
    · rcases CacheState.store_spec hroom.fits (provider requested) with
        ⟨e, hstore⟩ | ⟨allocation, -, -, hstore⟩
      · simp [hacquire, hstore]
      · simp [hacquire, hstore]
  simp only [acquire, hcheck, Except.ok_bind, lock_of_invariant h]
  cases hresult : (cache.state.acquire cache.capacityBytes provider requested).result with
  | ok allocation => simp [h.not_poisoned]
  | error fault =>
    cases fault with
    | error e => simp [h.not_poisoned]
    | panic message => exact absurd hresult (hpanic message)

theorem invalidate_eq (h : cache.Invariant) (key : ResidencyKey) :
    (cache.invalidate key).2 = { cache with state := (cache.state.invalidate key).2 } := by
  simp only [invalidate, lock_of_invariant h]

theorem clear_eq (h : cache.Invariant) :
    cache.clear.2 = { cache with state := cache.state.clear } := by
  simp only [clear, lock_of_invariant h]

/-! ### Every call keeps the invariant -/

theorem Invariant.acquire (h : cache.Invariant) (provider : ResidencyProvider A)
    (requested : ResidencySpec) : (cache.acquire provider requested).state.Invariant := by
  cases hcheck : cache.checkAcquire requested with
  | error e =>
    rw [acquire_of_error hcheck]
    exact h
  | ok u =>
    obtain ⟨hvalid, hbytes⟩ := checkAcquire_eq_ok_iff.1 hcheck
    rw [acquire_of_ok h hcheck]
    refine ⟨?_, h.not_poisoned⟩
    rcases CacheState.acquire_spec h.state.exact' hbytes provider with
      ⟨allocation, hitState, hhit, hacquire⟩ | ⟨-, room, hroom, hacquire⟩
    · rw [hacquire]
      have htick : cache.state.tick.Invariant cache.capacityBytes :=
        ⟨h.state.key_eq, h.state.valid, h.state.exact', h.state.bytes_le⟩
      exact htick.hit hhit
    · rw [hacquire]
      have hinvariant := hroom.invariant h.state
      rcases CacheState.store_spec hroom.fits (provider requested) with
        ⟨e, hstore⟩ | ⟨allocation, -, hspec, hstore⟩
      · rw [hstore]
        exact hinvariant
      · rw [hstore]
        exact hinvariant.stored hroom.fits hroom.absent hvalid hspec

theorem Invariant.invalidate (h : cache.Invariant) (key : ResidencyKey) :
    (cache.invalidate key).2.Invariant := by
  rw [invalidate_eq h]
  exact ⟨(CacheState.invalidate_shrinks h.state.exact' key).invariant h.state, h.not_poisoned⟩

theorem Invariant.clear (h : cache.Invariant) : cache.clear.2.Invariant := by
  rw [clear_eq h]
  exact ⟨⟨by simp [CacheState.clear], by simp [CacheState.clear],
    by simp [CacheState.Exact, CacheState.clear], by simp [CacheState.clear]⟩, h.not_poisoned⟩

/-- Every call keeps the invariant. -/
theorem Invariant.step (h : cache.Invariant) (call : ResidencyCall A) :
    (cache.step call).Invariant := by
  cases call with
  | acquire provider requested => exact h.acquire provider requested
  | invalidate key => exact h.invalidate key
  | clear => exact h.clear

theorem step_capacityBytes (h : cache.Invariant) (call : ResidencyCall A) :
    (cache.step call).capacityBytes = cache.capacityBytes := by
  cases call with
  | acquire provider requested =>
    cases hcheck : cache.checkAcquire requested with
    | error e => rw [ResidencyCache.step, acquire_of_error hcheck]
    | ok u => rw [ResidencyCache.step, acquire_of_ok h hcheck]
  | invalidate key => rw [ResidencyCache.step, invalidate_eq h]
  | clear => rw [ResidencyCache.step, clear_eq h]

/-- Every run of calls keeps the invariant. -/
theorem Invariant.run (h : cache.Invariant) (calls : List (ResidencyCall A)) :
    (cache.run calls).Invariant := by
  induction calls generalizing cache with
  | nil => exact h
  | cons call calls ih => exact ih (h.step call)

theorem run_capacityBytes (h : cache.Invariant) (calls : List (ResidencyCall A)) :
    (cache.run calls).capacityBytes = cache.capacityBytes := by
  induction calls generalizing cache with
  | nil => rfl
  | cons call calls ih => exact (ih (h.step call)).trans (step_capacityBytes h call)

/-! ### Every call keeps the count -/

section Counted

variable {state state' : CacheState A} {opens accepted stored : ℕ}

omit [ResidentAllocation A] in
theorem Counted.mono (h : Counted state tally n) : Counted state tally (n + 1) :=
  ⟨h.misses_eq, h.accepted_eq, h.stored_eq, h.accepted_le.trans n.le_succ,
    h.stored_le.trans n.le_succ⟩

theorem Counted.shrinks (h : Counted state tally n) (hn : n < 2 ^ 64)
    (hshrinks : state.Shrinks state') : Counted state' tally n where
  misses_eq := by rw [hshrinks.misses_eq, h.misses_eq]
  accepted_eq := by rw [hshrinks.hits_eq, hshrinks.misses_eq, h.accepted_eq]
  stored_eq := by
    have hstored := h.stored_eq
    rw [hshrinks.conserved (by have := h.stored_le; omega), hstored]
  accepted_le := h.accepted_le
  stored_le := h.stored_le

/-- A hit is counted as one. -/
theorem Counted.hit (h : Counted state ⟨opens, accepted, stored⟩ n) (hn : n + 1 < 2 ^ 64)
    {allocation : A} (hhit : state.hit requested = some (allocation, state')) :
    Counted state' ⟨opens, accepted + 1, stored⟩ (n + 1) := by
  obtain ⟨entry, hentry, -, -, rfl⟩ := CacheState.hit_eq_some_iff.1 hhit
  have haccepted : state.hits.toNat + state.misses.toNat = accepted := h.accepted_eq
  have hle : accepted ≤ n := h.accepted_le
  refine ⟨h.misses_eq, ?_, ?_, Nat.succ_le_succ hle, h.stored_le.trans n.le_succ⟩
  · simp only [BitVec.toNat_saturatingAdd_one]
    omega
  · have hmem : state.entries.contains requested.key = true := by
      rw [Std.ExtTreeMap.contains_eq_isSome_getElem?, hentry]
      rfl
    simp only [Std.ExtTreeMap.size_insert, hmem, if_true]
    exact h.stored_eq

/-- A miss is counted as one, and what it drops as evicted. -/
theorem Counted.missed (h : Counted state ⟨opens, accepted, stored⟩ n) (hn : n + 1 < 2 ^ 64)
    {capacityBytes : BitVec 64} {room : CacheState A}
    (hroom : state.Missed capacityBytes requested room) :
    Counted room ⟨opens + 1, accepted + 1, stored⟩ (n + 1) := by
  have hmisses : state.misses.toNat = opens := h.misses_eq
  have haccepted : state.hits.toNat + state.misses.toNat = accepted := h.accepted_eq
  have hle : accepted ≤ n := h.accepted_le
  have hmisses' : state.countMiss.misses.toNat = opens + 1 := by
    rw [CacheState.countMiss, BitVec.toNat_saturatingAdd_one]
    omega
  have hcount : Counted state.countMiss ⟨opens + 1, accepted + 1, stored⟩ (n + 1) := by
    refine ⟨hmisses', ?_, h.stored_eq, Nat.succ_le_succ hle, h.stored_le.trans n.le_succ⟩
    rw [hmisses']
    change state.hits.toNat + (opens + 1) = accepted + 1
    omega
  exact hcount.shrinks hn hroom.shrinks

omit [ResidentAllocation A] in
/-- A stored allocation is one more entry. -/
theorem Counted.insert (h : Counted state ⟨opens, accepted, stored⟩ (n + 1)) (hle : stored ≤ n)
    (habsent : state.entries[requested.key]? = none) (allocation : A) :
    Counted { state with
      residentBytes := state.residentBytes + requested.bytes
      entries := state.entries.insert requested.key ⟨allocation, state.clock⟩ }
      ⟨opens, accepted, stored + 1⟩ (n + 1) := by
  have hstored : stored = state.entries.size + state.evictions.toNat := h.stored_eq
  refine ⟨h.misses_eq, h.accepted_eq, ?_, h.accepted_le, Nat.succ_le_succ hle⟩
  have hmem : state.entries.contains requested.key = false := by
    rw [Std.ExtTreeMap.contains_eq_isSome_getElem?, habsent]
    rfl
  simp only [Std.ExtTreeMap.size_insert, hmem, Bool.false_eq_true, if_false]
  omega

omit [ResidentAllocation A] in
theorem Counted.clear (h : Counted state tally n) (hn : n < 2 ^ 64) :
    Counted state.clear tally n := by
  have hstored := h.stored_eq
  have hle := h.stored_le
  have hsize : BitVec.tryOfNat 64 state.entries.size = some (BitVec.ofNat 64 state.entries.size) :=
    BitVec.tryOfNat_of_lt (by omega)
  have hnat : (BitVec.ofNat 64 state.entries.size).toNat = state.entries.size := by
    rw [BitVec.toNat_ofNat, Nat.mod_eq_of_lt (by omega)]
  refine ⟨h.misses_eq, h.accepted_eq, ?_, h.accepted_le, h.stored_le⟩
  simp only [CacheState.clear, hsize, Option.getD_some, BitVec.toNat_saturatingAdd, hnat,
    Std.ExtTreeMap.size_empty]
  omega

/-- Every call keeps the count. -/
theorem Counted.step (h : cache.Invariant) (hcount : Counted cache.state tally n)
    (hn : n + 1 < 2 ^ 64) (call : ResidencyCall A) :
    Counted (cache.step call).state (cache.count tally call) (n + 1) := by
  cases call with
  | acquire provider requested =>
    cases hcheck : cache.checkAcquire requested with
    | error e =>
      simp only [ResidencyCache.step, ResidencyCache.count, acquire_of_error hcheck, hcheck]
      exact hcount.mono
    | ok u =>
      obtain ⟨-, hbytes⟩ := checkAcquire_eq_ok_iff.1 hcheck
      simp only [ResidencyCache.step, ResidencyCache.count, acquire_of_ok h hcheck, hcheck]
      rcases CacheState.acquire_spec h.state.exact' hbytes provider with
        ⟨allocation, hitState, hhit, hacquire⟩ | ⟨-, room, hroom, hacquire⟩
      · rw [hacquire]
        have htick : Counted cache.state.tick tally n :=
          ⟨hcount.misses_eq, hcount.accepted_eq, hcount.stored_eq, hcount.accepted_le,
            hcount.stored_le⟩
        exact htick.hit hn hhit
      · rw [hacquire]
        have hmissed := hcount.missed hn hroom
        rcases CacheState.store_spec hroom.fits (provider requested) with
          ⟨e, hstore⟩ | ⟨allocation, -, -, hstore⟩
        · rw [hstore]
          exact hmissed
        · rw [hstore]
          exact hmissed.insert hcount.stored_le hroom.absent allocation
  | invalidate key =>
    simp only [ResidencyCache.step, invalidate_eq h, ResidencyCache.count]
    exact (hcount.shrinks (by omega) (CacheState.invalidate_shrinks h.state.exact' key)).mono
  | clear =>
    simp only [ResidencyCache.step, clear_eq h, ResidencyCache.count]
    exact (hcount.clear (by omega)).mono

end Counted

/-- Every short enough run keeps the count. -/
theorem Counted.run (h : cache.Invariant) (hcount : Counted cache.state tally n)
    (calls : List (ResidencyCall A)) (hn : n + calls.length < 2 ^ 64) :
    Counted (cache.run calls).state (cache.tallyFrom tally calls) (n + calls.length) := by
  induction calls generalizing cache tally n with
  | nil => exact hcount
  | cons call calls ih =>
    rw [List.length_cons, ← Nat.add_assoc, Nat.add_right_comm] at hn ⊢
    exact ih (h.step call) (Counted.step h hcount (by omega) call) hn

/-- **Invariant and conservation of counters.** After any run of calls on a new cache, with any
answers of the providers: every entry is stored under the key of its allocation, whose
specification is valid, and the byte total is exact and within the capacity. An acquire that
passes its checks finds room, so that no exit under the lock reports a lack of capacity, and no
subtraction of bytes saturates, neither outside nor inside the eviction loop. In a run of fewer
than `2 ^ 64` calls, the misses are the openings by providers, hits and misses are the accepted
acquires, and every allocation that was opened and stored is either still an entry or counted as
evicted. -/
theorem counters_conserved {capacityBytes : BitVec 64}
    (hnew : ResidencyCache.new capacityBytes = .ok cache) (calls : List (ResidencyCall A)) :
    (cache.run calls).Invariant ∧ (cache.run calls).capacityBytes = capacityBytes ∧
      (∀ requested, (cache.run calls).checkAcquire requested = .ok () →
        ∃ room, ((cache.run calls).state.missed requested).makeRoom capacityBytes requested =
            (.ok (), room) ∧ room.residentBytes.checkedAdd requested.bytes ≠ none) ∧
      (∀ (key : ResidencyKey) (entry : CacheEntry A),
        (cache.run calls).state.entries[key]? = some entry →
        (spec entry.allocation).bytes.toNat ≤ (cache.run calls).state.residentBytes.toNat) ∧
      (∀ (requested : ResidencySpec) (during : CacheState A),
        Relation.ReflTransGen (CacheState.EvictIteration capacityBytes requested)
          ((cache.run calls).state.missed requested) during →
        ∀ (key : ResidencyKey) (entry : CacheEntry A), during.entries[key]? = some entry →
          (spec entry.allocation).bytes.toNat ≤ during.residentBytes.toNat) ∧
      (calls.length < 2 ^ 64 →
        (cache.run calls).state.misses.toNat = (cache.tally calls).opens ∧
        (cache.run calls).state.hits.toNat + (cache.run calls).state.misses.toNat =
          (cache.tally calls).accepted ∧
        (cache.tally calls).stored = (cache.run calls).state.entries.size +
          (cache.run calls).state.evictions.toNat) := by
  have h : (cache.run calls).Invariant := (Invariant.new hnew).run calls
  have hcapacity : (cache.run calls).capacityBytes = capacityBytes := by
    rw [run_capacityBytes (Invariant.new hnew), ← (new_eq_ok_iff.1 hnew).2]
  refine ⟨h, hcapacity, ?_, fun key entry hentry => h.state.exact'.entry_bytes_le hentry, ?_, ?_⟩
  · intro requested hcheck
    have hbytes := (checkAcquire_eq_ok_iff.1 hcheck).2
    rw [hcapacity] at hbytes
    obtain ⟨room, hroom⟩ := CacheState.exists_missed h.state.exact' hbytes
    refine ⟨room, hroom.makeRoom_eq, ?_⟩
    rw [CacheState.checkedAdd_of_fits hroom.fits]
    exact Option.some_ne_none _
  · intro requested during hduring key entry hentry
    have hmissed := CacheState.missed_shrinks h.state.exact' requested
    exact (CacheState.exact_of_iterations hduring hmissed.exact').entry_bytes_le hentry
  · intro hlength
    have hstate : cache.state = CacheState.default := by
      rw [← (new_eq_ok_iff.1 hnew).2]
    have hcount := Counted.run (Invariant.new hnew) (hstate ▸ Counted.new) calls (by omega)
    exact ⟨hcount.misses_eq, hcount.accepted_eq, hcount.stored_eq⟩

/-- Three allocations of 40 bytes in 100, and a fourth that the provider refuses. -/
theorem counters_conserved_evicting :
    letI : ResidentAllocation ResidencySpec := ⟨id⟩
    let a : ResidencySpec := ⟨⟨"a", by decide, by decide⟩, 1#64, 0#32, 40#64⟩
    let b : ResidencySpec := ⟨⟨"b", by decide, by decide⟩, 1#64, 0#32, 40#64⟩
    let c : ResidencySpec := ⟨⟨"c", by decide, by decide⟩, 1#64, 0#32, 40#64⟩
    let calls : List (ResidencyCall ResidencySpec) :=
      [.acquire .ok a, .acquire .ok b, .acquire .ok a, .acquire .ok c,
        .acquire (fun _ => .error (.provider "lost")) b]
    ∃ cache : ResidencyCache ResidencySpec, ResidencyCache.new 100#64 = .ok cache ∧
      (cache.tally calls).stored =
        (cache.run calls).state.entries.size + (cache.run calls).state.evictions.toNat :=
  letI : ResidentAllocation ResidencySpec := ⟨id⟩
  ⟨_, rfl, ((counters_conserved (new_eq_ok_iff.2 ⟨by decide, rfl⟩) _).2.2.2.2.2
    (by decide)).2.2⟩

end ResidencyCache

end RiftGPU.Residency
