import RiftGPU.Residency.History

/-!
# Failing acquires of the residency cache

An acquire drops the stale entry and makes room before it asks the provider, so that a failing
provider leaves a cache that has changed. This file says which acquires fail, with which error, and
what exactly they leave: a rejected specification leaves everything, and a provider without the
requested allocation leaves the entries that remain after room was made.

## Main definitions

* `Residency.refusal`: the error of a provider's answer.
* `Residency.CacheState.MadeRoom`: what is left after room was made.
* `Residency.ResidencyCache.Failures`: which acquires fail, and what they leave.

## Main results

* `Residency.CacheState.Missed.madeRoom`: the eviction loop makes room.
* `Residency.ResidencyCache.acquire_failures`: the failures in every reachable cache.
-/

namespace RiftGPU.Residency

open ResidentAllocation (spec)

variable {A : Type} [ResidentAllocation A]

/-- The error of a provider's answer to a request, unless it is an allocation of the requested
specification. -/
def refusal (requested : ResidencySpec) : Except ResidencyError A → Option ResidencyError
  | .error e => some e
  | .ok allocation =>
    if spec allocation = requested then none
    else some (.providerContract requested (spec allocation))

/-! ### What is left after room was made -/

namespace CacheState

variable {state state' room : CacheState A} {capacityBytes : BitVec 64} {requested : ResidencySpec}
  {key : ResidencyKey} {entry : CacheEntry A}

/-- The entries under other keys are `others`, the least recently acquired first. The entry under
the requested key is dropped, and so are the first `n` of `others`, where `n` is the least number
that makes the allocation fit. The rest is left with its allocations and stamps. -/
structure MadeRoom (state left : CacheState A) (capacityBytes : BitVec 64)
    (requested : ResidencySpec) (others : List (ResidencyKey × CacheEntry A)) (n : ℕ) : Prop where
  mem_others : ∀ e, e ∈ others ↔ e.1 ≠ requested.key ∧ state.entries[e.1]? = some e.2
  sorted : others.Pairwise (Lru.Precedes entryStamp)
  le_length : n ≤ others.length
  fits : ((others.drop n).map fun e => entryBytes e.2).sum + requested.bytes.toNat ≤
    capacityBytes.toNat
  shortest : ∀ i < n, capacityBytes.toNat <
    ((others.drop i).map fun e => entryBytes e.2).sum + requested.bytes.toNat
  absent : left.entries[requested.key]? = none
  entries_eq : ∀ key entry, left.entries[key]? = some entry ↔ (key, entry) ∈ others.drop n
  resident_bytes_eq :
    left.residentBytes.toNat = ((others.drop n).map fun e => entryBytes e.2).sum
  hits_eq : left.hits = state.hits
  misses_eq : left.misses.toNat = min (state.misses.toNat + 1) (2 ^ 64 - 1)
  evictions_eq : left.evictions.toNat =
    min (state.evictions.toNat + (state.entries.size - left.entries.size)) (2 ^ 64 - 1)
  clock_eq : left.clock = state.nextTouch

/-- From `state` to `state'`, every removed entry is counted as evicted, up to saturation. -/
structure CountsEvictions (state state' : CacheState A) : Prop where
  size_le : state'.entries.size ≤ state.entries.size
  evictions_eq : state'.evictions.toNat =
    min (state.evictions.toNat + (state.entries.size - state'.entries.size)) (2 ^ 64 - 1)

omit [ResidentAllocation A] in
theorem CountsEvictions.refl (state : CacheState A) : state.CountsEvictions state := by
  have := state.evictions.isLt
  exact ⟨le_rfl, by omega⟩

omit [ResidentAllocation A] in
theorem CountsEvictions.trans {state'' : CacheState A} (h : state.CountsEvictions state')
    (h' : state'.CountsEvictions state'') : state.CountsEvictions state'' := by
  have hsize := h.size_le
  have hsize' := h'.size_le
  have hevictions := h.evictions_eq
  have hevictions' := h'.evictions_eq
  exact ⟨by omega, by omega⟩

theorem dropEntry_countsEvictions (hentry : state.entries[key]? = some entry) :
    state.CountsEvictions (state.dropEntry key entry) := by
  have hsize := OrderedMap.size_erase_add_one hentry
  constructor
  · simp only [dropEntry]
    omega
  · simp only [dropEntry, BitVec.toNat_saturatingAdd_one]
    omega

theorem dropStale_countsEvictions (state : CacheState A) (key : ResidencyKey) :
    state.CountsEvictions (state.dropStale key) := by
  unfold dropStale
  cases hentry : state.entries[key]? with
  | none => exact .refl state
  | some stale => exact dropEntry_countsEvictions hentry

theorem makeRoom_countsEvictions (state : CacheState A) (capacityBytes : BitVec 64)
    (requested : ResidencySpec) :
    state.CountsEvictions (state.makeRoom capacityBytes requested).2 := by
  fun_induction state.makeRoom capacityBytes requested with
  | case1 state hroom hvictim => exact .refl state
  | case2 state hroom victim hvictim hnone => exact .refl state
  | case3 state hroom victim hvictim removed hremoved ih =>
    exact (dropEntry_countsEvictions hremoved).trans ih
  | case4 state hroom => exact .refl state

/-- A miss counts the stale entry and the victims of the eviction loop. -/
theorem Missed.countsEvictions (hroom : state.Missed capacityBytes requested room) :
    state.CountsEvictions room := by
  have hstale : state.CountsEvictions (state.missed requested) :=
    have h := dropStale_countsEvictions state.tick requested.key
    ⟨h.size_le, h.evictions_eq⟩
  have hloop := (state.missed requested).makeRoom_countsEvictions capacityBytes requested
  rw [hroom.makeRoom_eq] at hloop
  exact hstale.trans hloop

/-- **A miss makes room**: it drops the entry under the requested key and the shortest sufficient
prefix of the others. -/
theorem Missed.madeRoom (hroom : state.Missed capacityBytes requested room) (h : state.Exact) :
    ∃ others n, state.MadeRoom room capacityBytes requested others n := by
  obtain ⟨victims, hevicts, hclock⟩ := hroom.evicts h
  obtain ⟨others, hothers⟩ := Lru.exists_isEvictionOrder entryStamp (fun _ => true)
    (state.entries.erase requested.key)
  obtain ⟨htake, hleft, hshort⟩ := hevicts.isEvictionOrder_drop hothers
  have hresident : room.residentBytes.toNat =
      ((others.drop victims.length).map fun e => entryBytes e.2).sum :=
    hroom.shrinks.exact'.trans (hleft.total_eq entryBytes)
  refine ⟨others, victims.length, fun e => ?_, hothers.sorted, ?_, ?_, fun i hi => ?_,
    hroom.absent, fun key entry => ?_, hresident, hroom.shrinks.hits_eq, ?_,
    hroom.countsEvictions.evictions_eq, hclock⟩
  · rw [hothers.mem_iff, OrderedMap.getElem?_erase_eq_some_iff, and_iff_left rfl]
  · have hlength := congrArg List.length htake
    rw [List.length_take] at hlength
    omega
  · rw [← hresident]
    exact hroom.fits
  · -- the weight of the others is that of a prefix and of the rest
    have hsplit := congrArg (fun xs => (xs.map fun e => entryBytes e.2).sum)
      (List.take_append_drop i others)
    rw [List.map_append, List.sum_append, ← hothers.total_eq entryBytes] at hsplit
    have := hshort i hi
    omega
  · rw [hleft.mem_iff, and_iff_left rfl]
  · rw [hroom.shrinks.misses_eq, countMiss, BitVec.toNat_saturatingAdd_one]

/-- As long as the clock has not wrapped around, the others are sorted by their latest successful
acquire. -/
theorem MadeRoom.sorted_lastSuccess {left : CacheState A}
    {others : List (ResidencyKey × CacheEntry A)} {n : ℕ}
    (h : state.MadeRoom left capacityBytes requested others n)
    {history : List (ResidencyEvent A)} {clock : ℕ}
    (hstamped : Lru.Stamped entryStamp state.entries clock fun key => lastSuccess key history) :
    others.Pairwise fun a b => lastSuccess a.1 history < lastSuccess b.1 history := by
  have herased : Lru.Stamped entryStamp (state.entries.erase requested.key) clock
      fun key => lastSuccess key history := hstamped.of_subset
    (fun key entry hentry => (OrderedMap.getElem?_erase_eq_some_iff.1 hentry).2) le_rfl rfl
  have horder : Lru.IsEvictionOrder entryStamp (fun _ => true)
      (state.entries.erase requested.key) others := by
    refine ⟨fun e => ?_, h.sorted⟩
    rw [h.mem_others, OrderedMap.getElem?_erase_eq_some_iff, and_iff_left rfl]
  exact herased.lastUse_of_isEvictionOrder horder

/-! ### The provider's answer -/

variable {answer : Except ResidencyError A}

/-- A refusal is returned, and the state stays as it is. -/
theorem store_of_refusal {e : ResidencyError} (h : refusal requested answer = some e) :
    state.store capacityBytes requested answer = (.error (.error e), state) := by
  unfold refusal at h
  unfold store
  cases answer with
  | error e' => rw [Option.some.inj h]
  | ok allocation =>
    by_cases hspec : spec allocation = requested
    · simp [hspec] at h
    · simp only [hspec, if_false, Option.some.injEq] at h
      simp [hspec, h]

/-- An allocation that is no refusal is stored where there is room. -/
theorem exists_store_eq_ok
    (hfits : state.residentBytes.toNat + requested.bytes.toNat ≤ capacityBytes.toNat)
    (h : refusal requested answer = none) :
    ∃ allocation, (state.store capacityBytes requested answer).1 = .ok allocation := by
  unfold refusal at h
  unfold store
  cases answer with
  | error e => cases h
  | ok allocation =>
    by_cases hspec : spec allocation = requested
    · exact ⟨allocation, by simp [hspec, checkedAdd_of_fits hfits]⟩
    · simp [hspec] at h

end CacheState

/-! ### Which acquires fail -/

namespace ResidencyCache

variable {cache : ResidencyCache A} {requested : ResidencySpec} {provider : ResidencyProvider A}

/-- No allocation of the requested specification is stored. -/
def Misses (cache : ResidencyCache A) (requested : ResidencySpec) : Prop :=
  ∀ entry, cache.state.entries[requested.key]? = some entry → spec entry.allocation ≠ requested

/-- Which acquires of a specification fail in a cache, and what they leave. -/
structure Failures (cache : ResidencyCache A) (provider : ResidencyProvider A)
    (requested : ResidencySpec) : Prop where
  /-- An invalid specification is rejected, and nothing happens. -/
  invalid : requested.deviceIndex.toInt < 0 ∨ requested.bytes = 0#64 →
    cache.acquire provider requested = ⟨.error (.error
      (.invalidSpec requested.key requested.deviceIndex requested.bytes)), cache, []⟩
  /-- A valid specification above the capacity is rejected, and nothing happens. -/
  too_large : 0 ≤ requested.deviceIndex.toInt → 0 < requested.bytes.toNat →
    cache.capacityBytes.toNat < requested.bytes.toNat →
      cache.acquire provider requested = ⟨.error (.error
        (.capacityExceeded requested.bytes cache.capacityBytes)), cache, []⟩
  /-- Otherwise an acquire fails exactly when it misses and the provider refuses, with the error of
  the provider's answer. -/
  fails_iff : 0 ≤ requested.deviceIndex.toInt → 0 < requested.bytes.toNat →
    requested.bytes.toNat ≤ cache.capacityBytes.toNat →
      ∀ fault, (cache.acquire provider requested).result = .error fault ↔
        cache.Misses requested ∧ ∃ e, refusal requested (provider requested) = some e ∧
          fault = .error e
  /-- It has then asked the provider once and has made room. -/
  leaves : 0 ≤ requested.deviceIndex.toInt → 0 < requested.bytes.toNat →
    requested.bytes.toNat ≤ cache.capacityBytes.toNat →
      ∀ fault, (cache.acquire provider requested).result = .error fault →
        ∃ left others n, cache.acquire provider requested =
            ⟨.error fault, { cache with state := left }, [requested]⟩ ∧
          cache.state.MadeRoom left cache.capacityBytes requested others n

omit [ResidentAllocation A] in
theorem checkAcquire_of_invalid
    (h : requested.deviceIndex.toInt < 0 ∨ requested.bytes = 0#64) :
    cache.checkAcquire requested =
      .error (.invalidSpec requested.key requested.deviceIndex requested.bytes) := by
  rw [checkAcquire, ResidencySpec.validate, Except.rejectIf, if_pos h, Except.error_bind]

omit [ResidentAllocation A] in
theorem checkAcquire_of_too_large (hdevice : 0 ≤ requested.deviceIndex.toInt)
    (hpos : 0 < requested.bytes.toNat)
    (h : cache.capacityBytes.toNat < requested.bytes.toNat) :
    cache.checkAcquire requested =
      .error (.capacityExceeded requested.bytes cache.capacityBytes) := by
  have hvalid : requested.validate = .ok () := ResidencySpec.validate_eq_ok_iff.2 ⟨hdevice, hpos⟩
  rw [checkAcquire, hvalid, Except.ok_bind, Except.rejectIf_eq_error_iff]
  exact ⟨BitVec.lt_def.2 h, rfl⟩

theorem misses_iff : cache.Misses requested ↔ cache.state.tick.hit requested = none := by
  rw [Option.eq_none_iff_forall_ne_some]
  constructor
  · rintro hmisses ⟨allocation, hitState⟩ hhit
    obtain ⟨entry, hentry, hspec, -⟩ := CacheState.hit_eq_some_iff.1 hhit
    exact hmisses entry hentry hspec
  · intro hnone entry hentry hspec
    exact hnone _ (CacheState.hit_eq_some_iff.2 ⟨entry, hentry, hspec, rfl, rfl⟩)

/-- An accepted acquire that misses makes room and stores the provider's answer. -/
theorem acquire_of_misses (h : cache.Invariant) (hcheck : cache.checkAcquire requested = .ok ())
    (hmisses : cache.Misses requested) :
    ∃ room, cache.state.Missed cache.capacityBytes requested room ∧ ∀ provider,
      cache.acquire provider requested =
        ⟨(room.store cache.capacityBytes requested (provider requested)).1,
          { cache with
            state := (room.store cache.capacityBytes requested (provider requested)).2 },
          [requested]⟩ := by
  obtain ⟨room, hroom⟩ := CacheState.exists_missed h.state.exact'
    (checkAcquire_eq_ok_iff.1 hcheck).2
  exact ⟨room, hroom, acquire_of_missed h hcheck (misses_iff.1 hmisses) hroom⟩

/-- An accepted acquire that does not miss succeeds. -/
theorem exists_ok_of_not_misses (h : cache.Invariant)
    (hcheck : cache.checkAcquire requested = .ok ()) (hmisses : ¬cache.Misses requested)
    (provider : ResidencyProvider A) :
    ∃ allocation, (cache.acquire provider requested).result = .ok allocation := by
  rw [misses_iff, ← ne_eq, Option.ne_none_iff_exists'] at hmisses
  obtain ⟨⟨allocation, hitState⟩, hhit⟩ := hmisses
  refine ⟨allocation, ?_⟩
  rw [acquire_of_ok h hcheck, CacheState.acquire, hhit]

/-- A failure after the checks comes from a refusal on a miss, and leaves the room that was
made. -/
theorem acquire_eq_of_error (h : cache.Invariant) (hcheck : cache.checkAcquire requested = .ok ())
    {fault : Fault ResidencyError}
    (hfails : (cache.acquire provider requested).result = .error fault) :
    cache.Misses requested ∧ ∃ e, refusal requested (provider requested) = some e ∧
      fault = .error e ∧ ∃ room, cache.state.Missed cache.capacityBytes requested room ∧
        cache.acquire provider requested =
          ⟨.error fault, { cache with state := room }, [requested]⟩ := by
  have hmisses : cache.Misses requested := by
    by_contra hmisses
    obtain ⟨allocation, hok⟩ := exists_ok_of_not_misses h hcheck hmisses provider
    rw [hok] at hfails
    cases hfails
  obtain ⟨room, hroom, hacquire⟩ := acquire_of_misses h hcheck hmisses
  rw [hacquire] at hfails
  cases hrefusal : refusal requested (provider requested) with
  | none =>
    obtain ⟨allocation, hstore⟩ := CacheState.exists_store_eq_ok hroom.fits hrefusal
    rw [hstore] at hfails
    cases hfails
  | some e =>
    rw [CacheState.store_of_refusal hrefusal] at hfails
    obtain rfl : .error e = fault := Except.error.inj hfails
    refine ⟨hmisses, e, rfl, rfl, room, hroom, ?_⟩
    rw [hacquire, CacheState.store_of_refusal hrefusal]

/-- A cache that satisfies its invariant fails as described. -/
theorem Invariant.failures (h : cache.Invariant) (provider : ResidencyProvider A)
    (requested : ResidencySpec) : cache.Failures provider requested where
  invalid hinvalid := acquire_of_error (checkAcquire_of_invalid hinvalid) provider
  too_large hdevice hpos hlarge :=
    acquire_of_error (checkAcquire_of_too_large hdevice hpos hlarge) provider
  fails_iff hdevice hpos hbytes fault := by
    have hcheck : cache.checkAcquire requested = .ok () :=
      checkAcquire_eq_ok_iff.2 ⟨ResidencySpec.validate_eq_ok_iff.2 ⟨hdevice, hpos⟩, hbytes⟩
    constructor
    · intro hfails
      obtain ⟨hmisses, e, hrefusal, hfault, -⟩ := acquire_eq_of_error h hcheck hfails
      exact ⟨hmisses, e, hrefusal, hfault⟩
    · rintro ⟨hmisses, e, hrefusal, rfl⟩
      obtain ⟨room, -, hacquire⟩ := acquire_of_misses h hcheck hmisses
      rw [hacquire, CacheState.store_of_refusal hrefusal]
  leaves hdevice hpos hbytes fault hfails := by
    have hcheck : cache.checkAcquire requested = .ok () :=
      checkAcquire_eq_ok_iff.2 ⟨ResidencySpec.validate_eq_ok_iff.2 ⟨hdevice, hpos⟩, hbytes⟩
    obtain ⟨-, e, -, -, room, hroom, hacquire⟩ := acquire_eq_of_error h hcheck hfails
    obtain ⟨others, n, hmade⟩ := hroom.madeRoom h.state.exact'
    exact ⟨room, others, n, hacquire, hmade⟩

/-! ### Reachable caches -/

/-- An acquire depends on the provider only through its answer to the request. -/
theorem acquire_congr {provider' : ResidencyProvider A}
    (hanswer : provider requested = provider' requested) :
    cache.acquire provider requested = cache.acquire provider' requested := by
  have hstate (state : CacheState A) (capacityBytes : BitVec 64) :
      state.acquire capacityBytes provider requested =
        state.acquire capacityBytes provider' requested := by
    unfold CacheState.acquire
    rw [hanswer]
  unfold acquire
  simp only [hstate]

end ResidencyCache

/-- The call as one of a run in which providers may panic. -/
def ResidencyCall.toClient : ResidencyCall A → ClientCall A
  | .acquire provider requested => .acquire (fun spec => (provider spec).mapError .error) requested
  | .invalidate key => .invalidate key
  | .clear => .clear

namespace ResidencyCache

variable {cache : ResidencyCache A}

theorem clientStep_toClient (cache : ResidencyCache A) (call : ResidencyCall A) :
    cache.clientStep call.toClient = cache.step call := by
  cases call with
  | acquire provider requested =>
    simp only [ResidencyCall.toClient, clientStep, step, acquireUnwinding]
    cases hanswer : provider requested with
    | ok allocation =>
      exact congrArg Acquired.state (acquire_congr hanswer.symm)
    | error e => exact congrArg Acquired.state (acquire_congr hanswer.symm)
  | invalidate key => rfl
  | clear => rfl

theorem clientRun_toClient (cache : ResidencyCache A) (calls : List (ResidencyCall A)) :
    cache.clientRun (calls.map ResidencyCall.toClient) = cache.run calls := by
  induction calls generalizing cache with
  | nil => rfl
  | cons call calls ih =>
    rw [List.map_cons]
    change (cache.clientStep call.toClient).clientRun _ = (cache.step call).run calls
    rw [clientStep_toClient, ih]

/-- **What a failing acquire may change.** After any run of calls on a new cache, an acquire with
any provider fails as described: a rejected specification changes nothing, and after a refusal the
cache is left as it is once room was made. In a run of fewer than `2 ^ 64` calls, room is made in
the order of the latest successful acquires. -/
theorem acquire_failures {capacityBytes : BitVec 64} (hnew : new capacityBytes = .ok cache)
    (calls : List (ResidencyCall A)) (provider : ResidencyProvider A)
    (requested : ResidencySpec) :
    (cache.run calls).capacityBytes = capacityBytes ∧
      (cache.run calls).Failures provider requested ∧
      (calls.length < 2 ^ 64 → ∀ left others n,
        (cache.run calls).state.MadeRoom left capacityBytes requested others n →
          others.Pairwise fun a b =>
            lastSuccess a.1 (cache.clientHistory (calls.map ResidencyCall.toClient)) <
              lastSuccess b.1 (cache.clientHistory (calls.map ResidencyCall.toClient))) := by
  have h := Invariant.new hnew
  refine ⟨?_, (h.run calls).failures provider requested, fun hlength left others n hmade => ?_⟩
  · rw [run_capacityBytes h, ← (new_eq_ok_iff.1 hnew).2]
  · have hcount : (calls.map ResidencyCall.toClient).countP ClientCall.isAcquire ≤ calls.length :=
      List.countP_le_length.trans_eq (List.length_map _)
    have hticks : ticks ([] : List (ResidencyEvent A)) +
        (calls.map ResidencyCall.toClient).countP ClientCall.isAcquire < 2 ^ 64 :=
      (Nat.zero_add _).trans_lt (hcount.trans_lt hlength)
    have hrecorded := (Recorded.new hnew).run (calls.map ResidencyCall.toClient) hticks
    rw [clientRun_toClient] at hrecorded
    exact hmade.sorted_lastSuccess hrecorded.stamped

/-- Three allocations of 40 bytes in 100, and a fourth that the provider refuses. -/
theorem acquire_failures_refused :
    letI : ResidentAllocation ResidencySpec := ⟨id⟩
    let a : ResidencySpec := ⟨⟨"a", by decide, by decide⟩, 1#64, 0#32, 40#64⟩
    let b : ResidencySpec := ⟨⟨"b", by decide, by decide⟩, 1#64, 0#32, 40#64⟩
    let c : ResidencySpec := ⟨⟨"c", by decide, by decide⟩, 1#64, 0#32, 40#64⟩
    let calls : List (ResidencyCall ResidencySpec) :=
      [.acquire .ok a, .acquire .ok b, .acquire .ok a, .acquire .ok c]
    ∃ cache : ResidencyCache ResidencySpec, ResidencyCache.new 100#64 = .ok cache ∧
      (cache.run calls).Failures (fun _ => .error (.provider "lost")) b :=
  letI : ResidentAllocation ResidencySpec := ⟨id⟩
  ⟨_, rfl, (acquire_failures (new_eq_ok_iff.2 ⟨by decide, rfl⟩) _ _ _).2.1⟩

end ResidencyCache

end RiftGPU.Residency
