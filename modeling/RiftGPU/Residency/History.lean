import RiftGPU.Lru.Recency
import RiftGPU.Residency.Accounting

/-!
# The residency cache as a history of its acquires

Which allocation an acquire returns, and what it drops, is determined by the history of the calls:
the allocation of the latest acquire of the key is reused as long as nothing dropped it, and room is
made by dropping the other keys whose latest successful acquire is the oldest. This file defines
both from the history alone and proves that the cache agrees, as long as its clock has not wrapped
around. Providers may also panic here.

## Main definitions

* `Residency.ResidencyCache.acquireUnwinding`: `acquire` with a provider that may panic.
* `Residency.ResidencyEvent`, `Residency.ResidencyCache.clientHistory`: what the calls of a run did.
* `Residency.heldSince`: the allocation of a key, read off the history.
* `Residency.lastSuccess`: the time of the latest successful acquire of a key.
* `Residency.CacheState.LruMiss`: the shortest sufficient prefix of the other keys is dropped.
* `Residency.ResidencyCache.FollowsHistory`: how an acquire follows the history.

## Main results

* `Residency.ResidencyCache.Recorded.step`: every call keeps the agreement with the history.
* `Residency.ResidencyCache.follows_history`: every acquire follows the history.
-/

namespace RiftGPU.Residency

open ResidentAllocation (spec)

variable {A : Type}

/-! ### Events and what they tell -/

/-- What a call did: an acquire that took the lock, with what it returned and the keys that it
dropped, an invalidation, a clear, or nothing. -/
inductive ResidencyEvent (A : Type) where
  | acquired (requested : ResidencySpec) (returned : Option A) (dropped : List ResidencyKey)
  | invalidated (key : ResidencyKey)
  | cleared
  | unchanged

namespace ResidencyEvent

/-- The event is an acquire that took the lock. -/
def isTick : ResidencyEvent A → Bool
  | .acquired .. => true
  | .invalidated _ | .cleared | .unchanged => false

/-- The event is a successful acquire of the key. -/
def succeeds (key : ResidencyKey) : ResidencyEvent A → Bool
  | .acquired requested returned _ => decide (requested.key = key) && returned.isSome
  | .invalidated _ | .cleared | .unchanged => false

end ResidencyEvent

/-- The number of acquires that took the lock. -/
def ticks (history : List (ResidencyEvent A)) : ℕ := history.countP ResidencyEvent.isTick

/-- The specification and the allocation of the most recent acquire of the key that took the lock,
if it succeeded and the key was not evicted, invalidated or cleared since. -/
def heldSince (key : ResidencyKey) : List (ResidencyEvent A) → Option (ResidencySpec × A)
  | [] => none
  | .acquired requested returned dropped :: history =>
    if requested.key = key then returned.map fun allocation => (requested, allocation)
    else if key ∈ dropped then none
    else heldSince key history
  | .invalidated key' :: history => if key' = key then none else heldSince key history
  | .cleared :: _ => none
  | .unchanged :: history => heldSince key history

/-- The time of the most recent successful acquire of the key, zero if there is none. The latest
event of a history of `n` events has time `n`. -/
def lastSuccess (key : ResidencyKey) : List (ResidencyEvent A) → ℕ
  | [] => 0
  | event :: history =>
    if event.succeeds key then history.length + 1 else lastSuccess key history

theorem lastSuccess_le (key : ResidencyKey) (history : List (ResidencyEvent A)) :
    lastSuccess key history ≤ history.length := by
  induction history with
  | nil => simp [lastSuccess]
  | cons event history ih =>
    rw [lastSuccess, List.length_cons]
    split_ifs
    · exact le_rfl
    · omega

theorem ticks_cons (event : ResidencyEvent A) (history : List (ResidencyEvent A)) :
    ticks (event :: history) = ticks history + if event.isTick then 1 else 0 :=
  List.countP_cons

/-! ### Providers that may panic -/

/-- What a provider does when it is asked to open a resource: it answers, or it panics. -/
abbrev PanickingProvider (A : Type) := ResidencySpec → Except (Fault ResidencyError) A

/-- A call of a run in which providers may panic. -/
inductive ClientCall (A : Type) where
  | acquire (provider : PanickingProvider A) (requested : ResidencySpec)
  | invalidate (key : ResidencyKey)
  | clear

/-- The call is an acquire. -/
def ClientCall.isAcquire : ClientCall A → Bool
  | .acquire .. => true
  | .invalidate _ | .clear => false

variable [ResidentAllocation A]

namespace ResidencyCache

/-- `acquire` with a provider that may panic. The panic unwinds `acquire` while it holds the lock,
where an error of the provider would return, and poisons the lock. -/
def acquireUnwinding (cache : ResidencyCache A) (provider : PanickingProvider A)
    (requested : ResidencySpec) : Acquired (ResidencyCache A) A :=
  match provider requested with
  | .ok allocation => cache.acquire (fun _ => .ok allocation) requested
  | .error (.error e) => cache.acquire (fun _ => .error e) requested
  | .error (.panic message) =>
    let failed := cache.acquire (fun _ => .error (.provider message)) requested
    if failed.opened = [] then failed
    else ⟨.error (.panic message), { failed.state with poisoned := true }, failed.opened⟩

/-- The checks of an acquire pass and the lock is not poisoned. -/
def takesLock (cache : ResidencyCache A) (requested : ResidencySpec) : Bool :=
  (cache.checkAcquire requested).isOk && !cache.poisoned

/-- The cache after a call. -/
def clientStep (cache : ResidencyCache A) : ClientCall A → ResidencyCache A
  | .acquire provider requested => (cache.acquireUnwinding provider requested).state
  | .invalidate key => (cache.invalidate key).2
  | .clear => cache.clear.2

/-- The cache after a run of calls. -/
def clientRun (cache : ResidencyCache A) (calls : List (ClientCall A)) : ResidencyCache A :=
  calls.foldl clientStep cache

/-- What a call does to a cache. -/
def event (cache : ResidencyCache A) : ClientCall A → ResidencyEvent A
  | .acquire provider requested =>
    let acquired := cache.acquireUnwinding provider requested
    if cache.takesLock requested then
      .acquired requested acquired.result.toOption
        (OrderedMap.missingKeys cache.state.entries acquired.state.state.entries)
    else .unchanged
  | .invalidate key => if cache.poisoned then .unchanged else .invalidated key
  | .clear => if cache.poisoned then .unchanged else .cleared

/-- The events of a run, the latest first, after those of `history`. -/
def historyFrom (cache : ResidencyCache A) (history : List (ResidencyEvent A)) :
    List (ClientCall A) → List (ResidencyEvent A)
  | [] => history
  | call :: calls => (cache.clientStep call).historyFrom (cache.event call :: history) calls

/-- The events of a run, the latest first. -/
def clientHistory (cache : ResidencyCache A) (calls : List (ClientCall A)) :
    List (ResidencyEvent A) :=
  cache.historyFrom [] calls

end ResidencyCache

/-! ### What an acquire does -/

namespace CacheState

/-- The state with a new allocation under its key. -/
def stored (state : CacheState A) (requested : ResidencySpec) (allocation : A) : CacheState A :=
  { state with
    residentBytes := state.residentBytes + requested.bytes
    entries := state.entries.insert requested.key ⟨allocation, state.clock⟩ }

/-- The bytes of the entry under a key, zero if there is none. -/
def bytesAt (state : CacheState A) (key : ResidencyKey) : ℕ :=
  state.entries[key]?.elim 0 entryBytes

/-- The miss that makes `room` in `state`: the entry under the requested key is dropped; `others`
are the other keys, by their latest successful acquire, and the first `n` of them are dropped, where
`n` is the least number that makes the allocation fit. No other entry changes. -/
structure LruMiss (state room : CacheState A) (history : List (ResidencyEvent A))
    (capacityBytes : BitVec 64) (requested : ResidencySpec) (others : List ResidencyKey) (n : ℕ) :
    Prop where
  mem_others : ∀ key, key ∈ others ↔ key ≠ requested.key ∧ key ∈ state.entries
  sorted : others.Pairwise fun key₁ key₂ => lastSuccess key₁ history < lastSuccess key₂ history
  le_length : n ≤ others.length
  fits : state.residentBytes.toNat + requested.bytes.toNat ≤
    capacityBytes.toNat + state.bytesAt requested.key + ((others.take n).map state.bytesAt).sum
  shortest : ∀ i < n,
    capacityBytes.toNat + state.bytesAt requested.key + ((others.take i).map state.bytesAt).sum <
      state.residentBytes.toNat + requested.bytes.toNat
  absent : room.entries[requested.key]? = none
  entries_eq : ∀ key ≠ requested.key,
    room.entries[key]? = if key ∈ others.take n then none else state.entries[key]?

end CacheState

/-- How an acquire in `cache` follows the history of the cache. -/
structure ResidencyCache.FollowsHistory (cache : ResidencyCache A)
    (history : List (ResidencyEvent A)) (requested : ResidencySpec) : Prop where
  /-- A returned allocation has the requested specification. -/
  spec_eq : ∀ provider allocation,
    (cache.acquireUnwinding provider requested).result = .ok allocation →
      spec allocation = requested
  /-- A stored allocation is returned without opening one exactly when the latest acquire of the key
  returned it for an equal specification and nothing dropped it since. -/
  reuses_iff : cache.poisoned = false → ∀ provider allocation,
    (cache.acquireUnwinding provider requested).result = .ok allocation ∧
        (cache.acquireUnwinding provider requested).opened = [] ↔
      heldSince requested.key history = some (requested, allocation)
  /-- Reusing an allocation leaves the other entries as they are. -/
  reuses_eq : ∀ provider, (cache.acquireUnwinding provider requested).opened = [] →
    ∀ key ≠ requested.key, (cache.acquireUnwinding provider requested).state.state.entries[key]? =
      cache.state.entries[key]?
  /-- Otherwise room is made first, whatever the provider then does when it is asked once, and the
  other entries are left as they are then. -/
  opens : cache.takesLock requested = true →
    (∀ allocation, heldSince requested.key history ≠ some (requested, allocation)) →
      ∃ room others n,
        cache.state.LruMiss room history cache.capacityBytes requested others n ∧ ∀ provider,
          (cache.acquireUnwinding provider requested).opened = [requested] ∧
          (∀ key ≠ requested.key,
            (cache.acquireUnwinding provider requested).state.state.entries[key]? =
              room.entries[key]?) ∧
          (cache.acquireUnwinding provider requested).state.state.entries[requested.key]?.map
              CacheEntry.allocation =
            (cache.acquireUnwinding provider requested).result.toOption
  /-- An acquire that does not take the lock fails and does nothing. -/
  rejects : cache.takesLock requested = false → ∀ provider, ∃ e,
    cache.acquireUnwinding provider requested = ⟨.error (.error e), cache, []⟩

/-! ### Making room -/

namespace CacheState

variable {state state' room : CacheState A} {capacityBytes : BitVec 64} {requested : ResidencySpec}
  {key : ResidencyKey}

omit [ResidentAllocation A] in
theorem nextTouch_toNat (h : state.clock.toNat + 1 < 2 ^ 64) :
    state.nextTouch.toNat = state.clock.toNat + 1 := BitVec.toNat_nextNonzero h

theorem dropStale_eq (state : CacheState A) (key : ResidencyKey) :
    (state.dropStale key).entries = state.entries.erase key ∧
      (state.dropStale key).clock = state.clock := by
  unfold dropStale
  cases hentry : state.entries[key]? with
  | none => exact ⟨(OrderedMap.erase_of_getElem?_eq_none hentry).symm, rfl⟩
  | some stale => exact ⟨rfl, rfl⟩

/-- The eviction loop drops the entries of least stamp, as long as the allocation does not fit. -/
theorem makeRoom_evicts (h : state.Exact) (capacityBytes : BitVec 64)
    (requested : ResidencySpec) :
    ∃ victims, Lru.Evicts entryBytes entryStamp (fun _ => true) capacityBytes.toNat
        requested.bytes.toNat state.entries victims
        (state.makeRoom capacityBytes requested).2.entries ∧
      (state.makeRoom capacityBytes requested).2.clock = state.clock := by
  fun_induction state.makeRoom capacityBytes requested with
  | case1 state hroom hvictim => exact ⟨[], .refl _, rfl⟩
  | case2 state hroom victim hvictim hnone => exact ⟨[], .refl _, rfl⟩
  | case3 state hroom victim hvictim removed hremoved ih =>
    obtain ⟨e, hleast, rfl⟩ := Option.map_eq_some_iff.1 hvictim
    obtain ⟨victims, hevicts, hclock⟩ := ih (dropEntry_shrinks h hremoved).exact'
    rw [needsRoom_iff, h] at hroom
    exact ⟨e :: victims, .evict hroom hleast hevicts, hclock⟩
  | case4 state hroom => exact ⟨[], .refl _, rfl⟩

/-- The entries that a miss drops after the stale one. -/
theorem Missed.evicts (hroom : state.Missed capacityBytes requested room) (h : state.Exact) :
    ∃ victims, Lru.Evicts entryBytes entryStamp (fun _ => true) capacityBytes.toNat
        requested.bytes.toNat (state.entries.erase requested.key) victims room.entries ∧
      room.clock = state.nextTouch := by
  obtain ⟨victims, hevicts, hclock⟩ :=
    makeRoom_evicts (missed_shrinks h requested).exact' capacityBytes requested
  rw [hroom.makeRoom_eq] at hevicts hclock
  obtain ⟨hentries, hclock'⟩ := dropStale_eq state.tick requested.key
  refine ⟨victims, ?_, hclock.trans hclock'⟩
  rwa [show (state.missed requested).entries = state.entries.erase requested.key from hentries]
    at hevicts

theorem Missed.getElem?_eq (hroom : state.Missed capacityBytes requested room)
    (key : ResidencyKey) :
    room.entries[key]? = none ∨ room.entries[key]? = state.entries[key]? := by
  cases hentry : room.entries[key]? with
  | none => exact .inl rfl
  | some entry => exact .inr (hroom.shrinks.subset key entry hentry).symm

/-- A miss drops the shortest sufficient prefix of the other keys, by their latest successful
acquire. -/
theorem Missed.lruMiss (hroom : state.Missed capacityBytes requested room) (h : state.Exact)
    {history : List (ResidencyEvent A)} {clock : ℕ}
    (hstamped : Lru.Stamped entryStamp state.entries clock fun key => lastSuccess key history) :
    ∃ others n, state.LruMiss room history capacityBytes requested others n := by
  obtain ⟨victims, hevicts, -⟩ := hroom.evicts h
  have herased : Lru.Stamped entryStamp (state.entries.erase requested.key) clock
      fun key => lastSuccess key history := hstamped.of_subset
    (fun key entry hentry => (OrderedMap.getElem?_erase_eq_some_iff.1 hentry).2) le_rfl rfl
  obtain ⟨xs, hxs⟩ := herased.exists_isQueue fun _ => true
  have hlookup : ∀ e ∈ xs, state.bytesAt e.1 = entryBytes e.2 := fun e he => by
    rw [bytesAt, (OrderedMap.getElem?_erase_eq_some_iff.1 ((hxs.mem_iff e).1 he).1).2,
      Option.elim_some]
  obtain ⟨hle, htotal, hshort, hentries⟩ := hevicts.keys_take hxs state.bytesAt hlookup
  have hresident : state.residentBytes.toNat = state.bytesAt requested.key +
      OrderedMap.total entryBytes (state.entries.erase requested.key) :=
    h.trans (OrderedMap.total_eq_elim_add_erase entryBytes state.entries requested.key)
  rw [← hroom.shrinks.exact'] at htotal
  have hfits := hroom.fits
  refine ⟨xs.map Prod.fst, victims.length, fun key => ?_, herased.sorted_lastUse hxs, hle, by omega,
    fun i hi => ?_, hroom.absent, fun key hne => ?_⟩
  · simp only [List.mem_map, Prod.exists, exists_and_right, exists_eq_right, hxs.mem_iff,
      OrderedMap.getElem?_erase_eq_some_iff, and_true, exists_and_left,
      Std.ExtTreeMap.mem_iff_isSome_getElem?, Option.isSome_iff_exists]
  · have := hshort i hi
    omega
  · rw [hentries, OrderedMap.getElem?_erase_of_ne hne]

theorem acquire_of_missed (hhit : state.tick.hit requested = none)
    (hroom : state.Missed capacityBytes requested room) (provider : ResidencyProvider A) :
    state.acquire capacityBytes provider requested =
      ⟨(room.store capacityBytes requested (provider requested)).1,
        (room.store capacityBytes requested (provider requested)).2, [requested]⟩ := by
  unfold acquire
  rw [hhit, hroom.makeRoom_eq]

end CacheState

/-! ### One acquire -/

namespace ResidencyCache

variable {cache : ResidencyCache A} {history : List (ResidencyEvent A)}
  {requested : ResidencySpec} {room : CacheState A} {allocation : A}

omit [ResidentAllocation A] in
theorem takesLock_iff : cache.takesLock requested = true ↔
    cache.checkAcquire requested = .ok () ∧ cache.poisoned = false := by
  rw [takesLock, Bool.and_eq_true, Bool.not_eq_true']
  refine and_congr_left fun _ => ?_
  cases cache.checkAcquire requested with
  | ok u => simp [Except.isOk, Except.toBool]
  | error e => simp [Except.isOk, Except.toBool]

omit [ResidentAllocation A] in
theorem lock_of_poisoned (h : cache.poisoned = true) : cache.lock = .error .poisoned := by
  rw [lock, h]
  rfl

/-- An acquire that never asks its provider does not depend on it. -/
theorem acquireUnwinding_of_forall {result : Except (Fault ResidencyError) A}
    {cache' : ResidencyCache A}
    (hacquire : ∀ provider, cache.acquire provider requested = ⟨result, cache', []⟩)
    (provider : PanickingProvider A) :
    cache.acquireUnwinding provider requested = ⟨result, cache', []⟩ := by
  unfold acquireUnwinding
  cases provider requested with
  | ok allocation => exact hacquire _
  | error fault =>
    cases fault with
    | error e => exact hacquire _
    | panic message => simp [hacquire]

/-- An acquire that does not take the lock fails and does nothing. -/
theorem acquireUnwinding_of_rejected (h : cache.takesLock requested = false)
    (provider : PanickingProvider A) :
    ∃ e, cache.acquireUnwinding provider requested = ⟨.error (.error e), cache, []⟩ := by
  have hacquire : ∃ e, ∀ provider : ResidencyProvider A,
      cache.acquire provider requested = ⟨.error (.error e), cache, []⟩ := by
    cases hcheck : cache.checkAcquire requested with
    | error e => exact ⟨e, acquire_of_error hcheck⟩
    | ok u =>
      have hpoisoned : cache.poisoned = true := by
        by_contra hne
        rw [takesLock_iff.2 ⟨hcheck, Bool.eq_false_iff.2 hne⟩] at h
        cases h
      refine ⟨.poisoned, fun provider => ?_⟩
      simp only [acquire, hcheck, Except.ok_bind, lock_of_poisoned hpoisoned]
  obtain ⟨e, hacquire⟩ := hacquire
  exact ⟨e, acquireUnwinding_of_forall hacquire provider⟩

/-- A hit never asks the provider. -/
theorem acquireUnwinding_of_hit (h : cache.Invariant)
    (hcheck : cache.checkAcquire requested = .ok ()) {hitState : CacheState A}
    (hhit : cache.state.tick.hit requested = some (allocation, hitState))
    (provider : PanickingProvider A) :
    cache.acquireUnwinding provider requested =
      ⟨.ok allocation, { cache with state := hitState }, []⟩ := by
  refine acquireUnwinding_of_forall (fun provider => ?_) provider
  rw [acquire_of_ok h hcheck, CacheState.acquire, hhit]

/-- A miss makes `room` and stores the provider's answer in it. -/
theorem acquire_of_missed (h : cache.Invariant) (hcheck : cache.checkAcquire requested = .ok ())
    (hhit : cache.state.tick.hit requested = none)
    (hroom : cache.state.Missed cache.capacityBytes requested room)
    (provider : ResidencyProvider A) :
    cache.acquire provider requested =
      ⟨(room.store cache.capacityBytes requested (provider requested)).1,
        { cache with
          state := (room.store cache.capacityBytes requested (provider requested)).2 },
        [requested]⟩ := by
  rw [acquire_of_ok h hcheck, CacheState.acquire_of_missed hhit hroom]

/-- A miss asks the provider once, in `room`, and stores its allocation or leaves `room`. -/
theorem acquireUnwinding_of_miss (h : cache.Invariant)
    (hcheck : cache.checkAcquire requested = .ok ())
    (hhit : cache.state.tick.hit requested = none)
    (hroom : cache.state.Missed cache.capacityBytes requested room)
    (provider : PanickingProvider A) :
    (∃ fault poisoned, (poisoned = true → ∃ message, provider requested = .error (.panic message)) ∧
      cache.acquireUnwinding provider requested =
        ⟨.error fault, { cache with state := room, poisoned }, [requested]⟩) ∨
    ∃ allocation, spec allocation = requested ∧ cache.acquireUnwinding provider requested =
      ⟨.ok allocation, { cache with state := room.stored requested allocation }, [requested]⟩ := by
  have hacquire (provider : ResidencyProvider A) :=
    acquire_of_missed h hcheck hhit hroom provider
  have hrefused (e : ResidencyError) : cache.acquire (fun _ => .error e) requested =
      ⟨.error (.error e), { cache with state := room }, [requested]⟩ := hacquire _
  unfold acquireUnwinding
  cases hanswer : provider requested with
  | ok allocation =>
    simp only [hacquire]
    rcases CacheState.store_spec hroom.fits (.ok allocation) with
      ⟨e, hstore⟩ | ⟨_, heq, hspec, hstore⟩
    · exact .inl ⟨.error e, cache.poisoned, by simp [h.not_poisoned], by rw [hstore]⟩
    · obtain rfl := Except.ok.inj heq
      exact .inr ⟨allocation, hspec, by rw [hstore]; rfl⟩
  | error fault =>
    cases fault with
    | error e => exact .inl ⟨.error e, cache.poisoned, by simp [h.not_poisoned], hrefused e⟩
    | panic message =>
      refine .inl ⟨.panic message, true, fun _ => ⟨message, rfl⟩, ?_⟩
      simp [hrefused]

/-- **What an acquire does**: it is rejected, hits, or misses and fails or stores an allocation. -/
theorem acquireUnwinding_cases (h : cache.state.Invariant cache.capacityBytes)
    (requested : ResidencySpec) (provider : PanickingProvider A) :
    (cache.takesLock requested = false ∧
      ∃ e, cache.acquireUnwinding provider requested = ⟨.error (.error e), cache, []⟩) ∨
    (cache.takesLock requested = true ∧ ∃ allocation hitState,
      cache.state.tick.hit requested = some (allocation, hitState) ∧
        cache.acquireUnwinding provider requested =
          ⟨.ok allocation, { cache with state := hitState }, []⟩) ∨
    (cache.takesLock requested = true ∧ ∃ room,
      cache.state.Missed cache.capacityBytes requested room ∧
        ((∃ fault poisoned,
          (poisoned = true → ∃ message, provider requested = .error (.panic message)) ∧
          cache.acquireUnwinding provider requested =
            ⟨.error fault, { cache with state := room, poisoned }, [requested]⟩) ∨
        ∃ allocation, spec allocation = requested ∧ cache.acquireUnwinding provider requested =
          ⟨.ok allocation, { cache with state := room.stored requested allocation },
            [requested]⟩)) := by
  cases htakes : cache.takesLock requested with
  | false => exact .inl ⟨rfl, acquireUnwinding_of_rejected htakes provider⟩
  | true =>
    obtain ⟨hcheck, hpoisoned⟩ := takesLock_iff.1 htakes
    have hinvariant : cache.Invariant := ⟨h, hpoisoned⟩
    cases hhit : cache.state.tick.hit requested with
    | some found =>
      exact .inr (.inl ⟨rfl, found.1, found.2, rfl,
        acquireUnwinding_of_hit hinvariant hcheck hhit provider⟩)
    | none =>
      obtain ⟨room, hroom⟩ := CacheState.exists_missed h.exact'
        (checkAcquire_eq_ok_iff.1 hcheck).2
      exact .inr (.inr ⟨rfl, room, hroom,
        acquireUnwinding_of_miss hinvariant hcheck hhit hroom provider⟩)

/-! ### The cache agrees with the history -/

/-- The cache is the one that the history describes. -/
structure Recorded (cache : ResidencyCache A) (history : List (ResidencyEvent A)) : Prop where
  invariant : cache.state.Invariant cache.capacityBytes
  held_eq : ∀ key : ResidencyKey,
    (cache.state.entries[key]?.map fun entry => (spec entry.allocation, entry.allocation)) =
      heldSince key history
  clock_eq : cache.state.clock.toNat = ticks history
  stamped : Lru.Stamped CacheState.entryStamp cache.state.entries cache.state.clock.toNat
    fun key => lastSuccess key history

theorem Recorded.new {capacityBytes : BitVec 64} (h : new capacityBytes = .ok cache) :
    cache.Recorded [] := by
  have hinvariant := (Invariant.new h).state
  obtain ⟨-, rfl⟩ := new_eq_ok_iff.1 h
  exact ⟨hinvariant, by simp [CacheState.default, heldSince], by simp [CacheState.default, ticks],
    ⟨by simp [CacheState.default], by simp [CacheState.default]⟩⟩

/-- An acquire that takes the lock: the clock advances, the entry of the key is what the acquire
returns, with the new stamp, and other entries are kept or dropped. -/
structure Acquires (state state' : CacheState A) (requested : ResidencySpec)
    (returned : Option A) : Prop where
  clock_eq : state'.clock = state.nextTouch
  spec_eq : ∀ allocation, returned = some allocation → spec allocation = requested
  getElem?_self : state'.entries[requested.key]? =
    returned.map fun allocation => ⟨allocation, state'.clock⟩
  getElem?_of_ne : ∀ key ≠ requested.key,
    state'.entries[key]? = none ∨ state'.entries[key]? = state.entries[key]?

theorem Recorded.acquired (h : cache.Recorded history) {state' : CacheState A} {poisoned : Bool}
    {returned : Option A} (hinvariant : state'.Invariant cache.capacityBytes)
    (hacquires : Acquires cache.state state' requested returned)
    (hticks : ticks history + 1 < 2 ^ 64) :
    { cache with state := state', poisoned }.Recorded (.acquired requested returned
      (OrderedMap.missingKeys cache.state.entries state'.entries) :: history) := by
  have hclock : state'.clock.toNat = cache.state.clock.toNat + 1 := by
    rw [hacquires.clock_eq]
    exact CacheState.nextTouch_toNat (by rw [h.clock_eq]; exact hticks)
  have hlt : cache.state.clock.toNat < state'.clock.toNat := by omega
  have hsub : ∀ (key : ResidencyKey) (entry : CacheEntry A), key ≠ requested.key →
      state'.entries[key]? = some entry → cache.state.entries[key]? = some entry := by
    intro key entry hne hentry
    rcases hacquires.getElem?_of_ne key hne with hnone | hsame
    · rw [hnone] at hentry
      cases hentry
    · rw [← hsame, hentry]
  refine ⟨hinvariant, fun key => ?_, ?_, ?_⟩
  · change (state'.entries[key]?.map _) = _
    rw [heldSince]
    split_ifs with hkey hdropped
    · rw [← hkey, hacquires.getElem?_self, Option.map_map]
      refine Option.map_congr fun allocation hreturned => ?_
      rw [Function.comp_apply, hacquires.spec_eq allocation hreturned]
    · rw [(OrderedMap.mem_missingKeys_iff.1 hdropped).2, Option.map_none]
    · rw [← h.held_eq]
      rw [OrderedMap.mem_missingKeys_iff, not_and_or, not_not] at hdropped
      rcases hacquires.getElem?_of_ne key (Ne.symm hkey) with hnone | hsame
      · rw [hnone, hdropped.resolve_right (not_not.2 hnone)]
      · rw [hsame]
  · rw [ticks_cons, ← h.clock_eq]
    exact hclock
  · cases returned with
    | none =>
      refine h.stamped.of_subset (fun key entry hentry => ?_) hlt.le ?_
      · by_cases hkey : key = requested.key
        · rw [hkey, hacquires.getElem?_self] at hentry
          cases hentry
        · exact hsub key entry hkey hentry
      · funext key
        simp [lastSuccess, ResidencyEvent.succeeds]
    | some allocation =>
      refine h.stamped.of_use hacquires.getElem?_self rfl hlt hsub fun key hne => ⟨?_, ?_⟩
      · simp [lastSuccess, ResidencyEvent.succeeds, Ne.symm hne]
      · have hle := lastSuccess_le key history
        simp only [lastSuccess, ResidencyEvent.succeeds, decide_true, Option.isSome_some,
          Bool.and_self, if_true]
        omega

/-- Every acquire that takes the lock advances the clock, and stores what it returns. -/
theorem Recorded.acquire_spec (h : cache.Recorded history)
    (htakes : cache.takesLock requested = true) (provider : PanickingProvider A) :
    ∃ state' poisoned, (cache.acquireUnwinding provider requested).state =
        { cache with state := state', poisoned } ∧
      (poisoned = true → ∃ message, provider requested = .error (.panic message)) ∧
      state'.Invariant cache.capacityBytes ∧ Acquires cache.state state' requested
        (cache.acquireUnwinding provider requested).result.toOption := by
  obtain ⟨hcheck, hpoisoned⟩ := takesLock_iff.1 htakes
  have hreturns : cache.poisoned = true → ∃ message, provider requested = .error (.panic message) :=
    fun hne => absurd hne (by simp [hpoisoned])
  rcases acquireUnwinding_cases h.invariant requested provider with
    ⟨hfalse, -⟩ | ⟨-, allocation, hitState, hhit, hrun⟩ | ⟨-, room, hroom, hmiss⟩
  · rw [htakes] at hfalse
    cases hfalse
  · have htick : cache.state.tick.Invariant cache.capacityBytes :=
      ⟨h.invariant.key_eq, h.invariant.valid, h.invariant.exact', h.invariant.bytes_le⟩
    have hkept := htick.hit hhit
    rw [hrun]
    obtain ⟨entry, -, hspec, rfl, rfl⟩ := CacheState.hit_eq_some_iff.1 hhit
    refine ⟨_, cache.poisoned, rfl, hreturns, hkept, rfl, ?_, ?_, fun key hne => .inr ?_⟩
    · rintro _ ⟨⟩
      exact hspec
    · exact Std.ExtTreeMap.getElem?_insert_self
    · exact OrderedMap.getElem?_insert_of_ne hne
  · obtain ⟨-, -, hclock⟩ := hroom.evicts h.invariant.exact'
    have hkept := hroom.invariant h.invariant
    rcases hmiss with ⟨fault, poisoned, hpanic, hrun⟩ | ⟨allocation, hspec, hrun⟩
    · rw [hrun]
      exact ⟨room, poisoned, rfl, hpanic, hkept, hclock, nofun, hroom.absent,
        fun key _ => hroom.getElem?_eq key⟩
    · have hvalid := (checkAcquire_eq_ok_iff.1 hcheck).1
      rw [hrun]
      refine ⟨_, cache.poisoned, rfl, hreturns,
        hkept.stored hroom.fits hroom.absent hvalid hspec, hclock, ?_, ?_, fun key hne => ?_⟩
      · rintro _ ⟨⟩
        exact hspec
      · exact Std.ExtTreeMap.getElem?_insert_self
      · rw [CacheState.stored, OrderedMap.getElem?_insert_of_ne hne]
        exact hroom.getElem?_eq key

theorem Recorded.unchanged (h : cache.Recorded history) : cache.Recorded (.unchanged :: history) :=
  ⟨h.invariant, h.held_eq, h.clock_eq, h.stamped⟩

theorem Recorded.acquire (h : cache.Recorded history) (provider : PanickingProvider A)
    (hticks : ticks history + 1 < 2 ^ 64) :
    (cache.acquireUnwinding provider requested).state.Recorded
      (cache.event (.acquire provider requested) :: history) := by
  rw [event]
  cases htakes : cache.takesLock requested with
  | false =>
    obtain ⟨e, hrun⟩ := acquireUnwinding_of_rejected htakes provider
    rw [if_neg Bool.false_ne_true, hrun]
    exact h.unchanged
  | true =>
    obtain ⟨state', poisoned, hstate, -, hinvariant, hacquires⟩ := h.acquire_spec htakes provider
    rw [if_pos rfl, hstate]
    exact h.acquired hinvariant hacquires hticks

theorem Recorded.invalidate (h : cache.Recorded history) (key : ResidencyKey) :
    (cache.invalidate key).2.Recorded (cache.event (.invalidate key) :: history) := by
  rw [event]
  cases hpoisoned : cache.poisoned with
  | true =>
    rw [if_pos rfl, ResidencyCache.invalidate, lock_of_poisoned hpoisoned]
    exact h.unchanged
  | false =>
    have hinvariant : cache.Invariant := ⟨h.invariant, hpoisoned⟩
    have hshrinks := CacheState.invalidate_shrinks h.invariant.exact' key
    have hentries : (cache.state.invalidate key).2.entries = cache.state.entries.erase key ∧
        (cache.state.invalidate key).2.clock = cache.state.clock := by
      unfold CacheState.invalidate
      cases hentry : cache.state.entries[key]? with
      | none => exact ⟨(OrderedMap.erase_of_getElem?_eq_none hentry).symm, rfl⟩
      | some removed => exact ⟨rfl, rfl⟩
    rw [if_neg Bool.false_ne_true, invalidate_eq hinvariant]
    refine ⟨hshrinks.invariant h.invariant, fun key' => ?_, ?_, ?_⟩
    · simp only [hentries.1, heldSince, ← h.held_eq]
      split_ifs with hkey
      · rw [hkey, Std.ExtTreeMap.getElem?_erase_self, Option.map_none]
      · rw [OrderedMap.getElem?_erase_of_ne (Ne.symm hkey)]
    · rw [ticks_cons, ← h.clock_eq]
      exact congrArg BitVec.toNat hentries.2
    · exact h.stamped.of_subset hshrinks.subset (congrArg BitVec.toNat hentries.2).ge rfl

theorem Recorded.clear (h : cache.Recorded history) :
    cache.clear.2.Recorded (cache.event .clear :: history) := by
  rw [event]
  cases hpoisoned : cache.poisoned with
  | true =>
    rw [if_pos rfl, ResidencyCache.clear, lock_of_poisoned hpoisoned]
    exact h.unchanged
  | false =>
    have hinvariant : cache.Invariant := ⟨h.invariant, hpoisoned⟩
    have hcleared := hinvariant.clear.state
    rw [clear_eq hinvariant] at hcleared ⊢
    rw [if_neg Bool.false_ne_true]
    refine ⟨hcleared, by simp [CacheState.clear, heldSince], h.clock_eq, ?_⟩
    exact h.stamped.of_subset (by simp [CacheState.clear]) le_rfl rfl

/-- Every call keeps the agreement between the cache and the history. -/
theorem Recorded.step (h : cache.Recorded history) (call : ClientCall A)
    (hticks : ticks history + (if call.isAcquire then 1 else 0) < 2 ^ 64) :
    (cache.clientStep call).Recorded (cache.event call :: history) := by
  cases call with
  | acquire provider requested => exact h.acquire provider hticks
  | invalidate key => exact h.invalidate key
  | clear => exact h.clear

theorem ticks_event_le (cache : ResidencyCache A) (history : List (ResidencyEvent A))
    (call : ClientCall A) : ticks (cache.event call :: history) ≤
      ticks history + if call.isAcquire then 1 else 0 := by
  rw [ticks_cons]
  refine Nat.add_le_add_left ?_ _
  cases call with
  | acquire provider requested =>
    rw [ClientCall.isAcquire, if_pos rfl]
    split_ifs
    · exact le_rfl
    · exact Nat.zero_le 1
  | invalidate key => cases hpoisoned : cache.poisoned <;> simp [event, hpoisoned,
      ResidencyEvent.isTick]
  | clear => cases hpoisoned : cache.poisoned <;> simp [event, hpoisoned, ResidencyEvent.isTick]

/-- Every short enough run keeps the agreement between the cache and the history. -/
theorem Recorded.run (h : cache.Recorded history) (calls : List (ClientCall A))
    (hticks : ticks history + calls.countP ClientCall.isAcquire < 2 ^ 64) :
    (cache.clientRun calls).Recorded (cache.historyFrom history calls) := by
  induction calls generalizing cache history with
  | nil => exact h
  | cons call calls ih =>
    rw [List.countP_cons] at hticks
    have hevent := cache.ticks_event_le history call
    exact ih (h.step call (by omega)) (by omega)

/-! ### The lock and the capacity -/

theorem clientStep_capacityBytes (h : cache.Recorded history) (call : ClientCall A) :
    (cache.clientStep call).capacityBytes = cache.capacityBytes := by
  cases call with
  | acquire provider requested =>
    rw [clientStep]
    cases htakes : cache.takesLock requested with
    | false =>
      obtain ⟨e, hrun⟩ := acquireUnwinding_of_rejected htakes provider
      rw [hrun]
    | true =>
      obtain ⟨state', poisoned, hstate, -⟩ := h.acquire_spec htakes provider
      rw [hstate]
  | invalidate key =>
    rw [clientStep, ResidencyCache.invalidate]
    cases cache.lock <;> rfl
  | clear =>
    rw [clientStep, ResidencyCache.clear]
    cases cache.lock <;> rfl

/-- Only a provider that panics poisons the lock. -/
theorem clientStep_poisoned (h : cache.Recorded history) (call : ClientCall A)
    (hpoisoned : (cache.clientStep call).poisoned = true) : cache.poisoned = true ∨
      ∃ provider requested message, call = .acquire provider requested ∧
        provider requested = .error (.panic message) := by
  cases call with
  | acquire provider requested =>
    rw [clientStep] at hpoisoned
    cases htakes : cache.takesLock requested with
    | false =>
      obtain ⟨e, hrun⟩ := acquireUnwinding_of_rejected htakes provider
      rw [hrun] at hpoisoned
      exact .inl hpoisoned
    | true =>
      obtain ⟨state', poisoned, hstate, hpanic, -⟩ := h.acquire_spec htakes provider
      rw [hstate] at hpoisoned
      obtain ⟨message, hmessage⟩ := hpanic hpoisoned
      exact .inr ⟨provider, requested, message, rfl, hmessage⟩
  | invalidate key =>
    rw [clientStep, ResidencyCache.invalidate] at hpoisoned
    cases hlock : cache.lock <;> exact .inl (by simpa [hlock] using hpoisoned)
  | clear =>
    rw [clientStep, ResidencyCache.clear] at hpoisoned
    cases hlock : cache.lock <;> exact .inl (by simpa [hlock] using hpoisoned)

/-- In a run, the capacity does not change, and only a provider that panics poisons the lock. -/
theorem Recorded.run_lock (h : cache.Recorded history) (calls : List (ClientCall A))
    (hticks : ticks history + calls.countP ClientCall.isAcquire < 2 ^ 64) :
    (cache.clientRun calls).capacityBytes = cache.capacityBytes ∧
      ((cache.clientRun calls).poisoned = true → cache.poisoned = true ∨
        ∃ provider requested message, .acquire provider requested ∈ calls ∧
          provider requested = .error (.panic message)) := by
  induction calls generalizing cache history with
  | nil => exact ⟨rfl, .inl⟩
  | cons call calls ih =>
    rw [List.countP_cons] at hticks
    have hevent := cache.ticks_event_le history call
    obtain ⟨hcapacity, hpoisoned⟩ := ih (h.step call (by omega)) (by omega)
    refine ⟨hcapacity.trans (clientStep_capacityBytes h call), fun hrun => ?_⟩
    rcases hpoisoned hrun with hstep | ⟨provider, requested, message, hmem, hpanic⟩
    · rcases clientStep_poisoned h call hstep with hpoisoned | ⟨provider, requested, message, rfl,
        hpanic⟩
      · exact .inl hpoisoned
      · exact .inr ⟨provider, requested, message, List.mem_cons_self .., hpanic⟩
    · exact .inr ⟨provider, requested, message, List.mem_cons_of_mem _ hmem, hpanic⟩

/-! ### Every acquire follows the history -/

/-- An acquire hits exactly when the history holds an allocation of the requested specification. -/
theorem Recorded.hit_iff (h : cache.Recorded history) :
    (∃ hitState, cache.state.tick.hit requested = some (allocation, hitState)) ↔
      heldSince requested.key history = some (requested, allocation) := by
  rw [← h.held_eq, Option.map_eq_some_iff]
  simp only [CacheState.hit_eq_some_iff, Prod.mk.injEq]
  constructor
  · rintro ⟨hitState, entry, hentry, hspec, hallocation, -⟩
    exact ⟨entry, hentry, hspec, hallocation⟩
  · rintro ⟨entry, hentry, hspec, hallocation⟩
    exact ⟨_, entry, hentry, hspec, hallocation, rfl⟩

/-- A specification that the history holds passes the checks. -/
theorem Recorded.checkAcquire_eq_ok (h : cache.Recorded history)
    (hheld : heldSince requested.key history = some (requested, allocation)) :
    cache.checkAcquire requested = .ok () := by
  rw [← h.held_eq, Option.map_eq_some_iff] at hheld
  obtain ⟨entry, hentry, heq⟩ := hheld
  obtain ⟨hspec, -⟩ := Prod.mk.inj heq
  have hbytes := (h.invariant.exact'.entry_bytes_le hentry).trans h.invariant.bytes_le
  have hvalid := h.invariant.valid requested.key entry hentry
  rw [hspec] at hbytes hvalid
  exact checkAcquire_eq_ok_iff.2 ⟨hvalid, hbytes⟩

theorem Recorded.reuses_iff (h : cache.Recorded history) (hpoisoned : cache.poisoned = false)
    (provider : PanickingProvider A) :
    (cache.acquireUnwinding provider requested).result = .ok allocation ∧
        (cache.acquireUnwinding provider requested).opened = [] ↔
      heldSince requested.key history = some (requested, allocation) := by
  rw [← h.hit_iff]
  constructor
  · rintro ⟨hresult, hopened⟩
    rcases acquireUnwinding_cases h.invariant requested provider with
      ⟨-, e, hrun⟩ | ⟨-, allocation', hitState, hhit, hrun⟩ |
        ⟨-, room, -, ⟨fault, poisoned, -, hrun⟩ | ⟨allocation', -, hrun⟩⟩
    · rw [hrun] at hresult
      cases hresult
    · rw [hrun] at hresult
      exact ⟨hitState, by rw [hhit, Except.ok.inj hresult]⟩
    · rw [hrun] at hopened
      cases hopened
    · rw [hrun] at hopened
      cases hopened
  · intro hhit
    have hcheck := h.checkAcquire_eq_ok (h.hit_iff.1 hhit)
    obtain ⟨hitState, hhit⟩ := hhit
    rw [acquireUnwinding_of_hit ⟨h.invariant, hpoisoned⟩ hcheck hhit]
    exact ⟨rfl, rfl⟩

/-- Reusing an allocation leaves the other entries as they are. -/
theorem Recorded.reuses_eq (h : cache.Recorded history) {provider : PanickingProvider A}
    (hopened : (cache.acquireUnwinding provider requested).opened = []) {key : ResidencyKey}
    (hne : key ≠ requested.key) :
    (cache.acquireUnwinding provider requested).state.state.entries[key]? =
      cache.state.entries[key]? := by
  rcases acquireUnwinding_cases h.invariant requested provider with
    ⟨-, e, hrun⟩ | ⟨-, allocation, hitState, hhit, hrun⟩ |
      ⟨-, room, -, ⟨fault, poisoned, -, hrun⟩ | ⟨allocation, -, hrun⟩⟩
  · rw [hrun]
  · obtain ⟨entry, -, -, -, hstate⟩ := CacheState.hit_eq_some_iff.1 hhit
    rw [hrun, ← hstate]
    exact OrderedMap.getElem?_insert_of_ne hne
  · rw [hrun] at hopened
    cases hopened
  · rw [hrun] at hopened
    cases hopened

/-- Without an allocation of the requested specification in the history, room is made as the
history says, and the provider is asked once. -/
theorem Recorded.opens (h : cache.Recorded history) (htakes : cache.takesLock requested = true)
    (hheld : ∀ allocation, heldSince requested.key history ≠ some (requested, allocation)) :
    ∃ room others n, cache.state.LruMiss room history cache.capacityBytes requested others n ∧
      ∀ provider, (cache.acquireUnwinding provider requested).opened = [requested] ∧
        (∀ key ≠ requested.key,
          (cache.acquireUnwinding provider requested).state.state.entries[key]? =
            room.entries[key]?) ∧
        (cache.acquireUnwinding provider requested).state.state.entries[requested.key]?.map
            CacheEntry.allocation =
          (cache.acquireUnwinding provider requested).result.toOption := by
  obtain ⟨hcheck, hpoisoned⟩ := takesLock_iff.1 htakes
  have hinvariant : cache.Invariant := ⟨h.invariant, hpoisoned⟩
  have hhit : cache.state.tick.hit requested = none := by
    by_contra hne
    obtain ⟨⟨allocation, hitState⟩, hhit⟩ := Option.ne_none_iff_exists'.1 hne
    exact hheld allocation (h.hit_iff.1 ⟨hitState, hhit⟩)
  obtain ⟨room, hroom⟩ := CacheState.exists_missed h.invariant.exact'
    (checkAcquire_eq_ok_iff.1 hcheck).2
  obtain ⟨others, n, hlru⟩ := hroom.lruMiss h.invariant.exact' h.stamped
  refine ⟨room, others, n, hlru, fun provider => ?_⟩
  rcases acquireUnwinding_of_miss hinvariant hcheck hhit hroom provider with
    ⟨fault, poisoned, -, hrun⟩ | ⟨allocation, -, hrun⟩
  · rw [hrun]
    exact ⟨rfl, fun _ _ => rfl, by simp [hroom.absent, Except.toOption]⟩
  · rw [hrun]
    refine ⟨rfl, fun key hne => OrderedMap.getElem?_insert_of_ne hne, ?_⟩
    simp [CacheState.stored, Except.toOption]

/-- An acquire in a cache that agrees with a history follows it. -/
theorem Recorded.followsHistory (h : cache.Recorded history) (requested : ResidencySpec) :
    cache.FollowsHistory history requested where
  spec_eq provider allocation hresult := by
    cases htakes : cache.takesLock requested with
    | false =>
      obtain ⟨e, hrun⟩ := acquireUnwinding_of_rejected htakes provider
      rw [hrun] at hresult
      cases hresult
    | true =>
      obtain ⟨state', poisoned, -, -, -, hacquires⟩ := h.acquire_spec htakes provider
      exact hacquires.spec_eq allocation (by rw [hresult]; rfl)
  reuses_iff hpoisoned provider allocation := h.reuses_iff hpoisoned provider
  reuses_eq provider hopened key hne := h.reuses_eq hopened hne
  opens htakes hheld := h.opens htakes hheld
  rejects htakes provider := acquireUnwinding_of_rejected htakes provider

/-- **Reuse and eviction follow the acquire history.** After a run with fewer than `2 ^ 64`
acquires, with providers that answer anything or panic, an acquire of any specification follows the
history of the run. The capacity never changes, and only a provider that panicked poisons the
lock. -/
theorem follows_history {capacityBytes : BitVec 64} (hnew : new capacityBytes = .ok cache)
    (calls : List (ClientCall A)) (hacquires : calls.countP ClientCall.isAcquire < 2 ^ 64) :
    (∀ requested, (cache.clientRun calls).FollowsHistory (cache.clientHistory calls) requested) ∧
      (cache.clientRun calls).capacityBytes = capacityBytes ∧
      ((cache.clientRun calls).poisoned = true → ∃ provider requested message,
        .acquire provider requested ∈ calls ∧ provider requested = .error (.panic message)) := by
  have hrecorded := Recorded.new hnew
  have hticks : ticks ([] : List (ResidencyEvent A)) + calls.countP ClientCall.isAcquire < 2 ^ 64 :=
    (Nat.zero_add _).trans_lt hacquires
  obtain ⟨hcapacity, hpoisoned⟩ := hrecorded.run_lock calls hticks
  obtain ⟨-, hcache⟩ := new_eq_ok_iff.1 hnew
  have hrun := hrecorded.run calls hticks
  refine ⟨fun requested => hrun.followsHistory requested, ?_, fun hlocked => ?_⟩
  · rw [hcapacity, ← hcache]
  · refine (hpoisoned hlocked).resolve_left ?_
    rw [← hcache]
    exact Bool.false_ne_true

/-- Two allocations of 40 bytes in 100, the first of them acquired again, and then a third. -/
theorem follows_history_third_acquire :
    letI : ResidentAllocation ResidencySpec := ⟨id⟩
    let a : ResidencySpec := ⟨⟨"a", by decide, by decide⟩, 1#64, 0#32, 40#64⟩
    let b : ResidencySpec := ⟨⟨"b", by decide, by decide⟩, 1#64, 0#32, 40#64⟩
    let c : ResidencySpec := ⟨⟨"c", by decide, by decide⟩, 1#64, 0#32, 40#64⟩
    let calls : List (ClientCall ResidencySpec) :=
      [.acquire .ok a, .acquire .ok b, .acquire .ok a]
    ∃ cache : ResidencyCache ResidencySpec, ResidencyCache.new 100#64 = .ok cache ∧
      (cache.clientRun calls).FollowsHistory (cache.clientHistory calls) c :=
  letI : ResidentAllocation ResidencySpec := ⟨id⟩
  ⟨_, rfl, (follows_history (new_eq_ok_iff.2 ⟨by decide, rfl⟩) _ (by decide)).1 _⟩

end ResidencyCache

end RiftGPU.Residency
