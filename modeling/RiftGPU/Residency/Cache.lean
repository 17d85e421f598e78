import RiftGPU.Lru.OrderedMap
import RiftGPU.Residency.Spec
import RiftGPU.Word.Checked

/-!
# The residency cache

A capacity-bounded cache of durable allocations under their keys. An allocation is opened by a
provider on a miss; the least recently used allocations are dropped to make room for it. This file
models `ResidencyCache`. The mutex makes every call atomic, so that a concurrent run is a run of
calls one after the other; it is poisoned by a call that panics while it holds the lock.

## Main definitions

* `Residency.CacheState`: what the mutex protects, with the parts of `acquire` as functions on it.
* `Residency.ResidencyCache.acquire`, `Residency.ResidencyCache.invalidate`,
  `Residency.ResidencyCache.clear`, `Residency.ResidencyCache.stats`.
* `Residency.ResidencyCall`: a call that may change the cache.
-/

namespace RiftGPU.Residency

open ResidentAllocation (spec)

/-- What a provider does when it is asked to open a resource. -/
abbrev ResidencyProvider (A : Type) := ResidencySpec → Except ResidencyError A

/-- An allocation with the stamp of the last call that returned it. -/
structure CacheEntry (A : Type) where
  allocation : A
  lastTouch : BitVec 64

/-- The entries with the bytes of all of them, the clock of the stamps, and the counters. -/
structure CacheState (A : Type) where
  entries : Std.ExtTreeMap ResidencyKey (CacheEntry A)
  residentBytes : BitVec 64
  clock : BitVec 64
  hits : BitVec 64
  misses : BitVec 64
  evictions : BitVec 64

/-- A cache: its capacity, what the mutex protects, and whether the mutex is poisoned. -/
structure ResidencyCache (A : Type) where
  capacityBytes : BitVec 64
  state : CacheState A
  poisoned : Bool

/-- The counters of a cache. -/
structure ResidencyStats where
  entries : ℕ
  residentBytes : BitVec 64
  hits : BitVec 64
  misses : BitVec 64
  evictions : BitVec 64
deriving DecidableEq, Repr

/-- How an acquire ends: its result, the state it leaves, and the specifications that it asked the
provider to open. -/
structure Acquired (S A : Type) where
  result : Except (Fault ResidencyError) A
  state : S
  opened : List ResidencySpec

variable {A : Type}

/-! ### Under the lock -/

namespace CacheState

/-- The empty state. -/
def default : CacheState A where
  entries := ∅
  residentBytes := 0#64
  clock := 0#64
  hits := 0#64
  misses := 0#64
  evictions := 0#64

/-- The next stamp: the clock wraps around to one, never to zero. -/
def nextTouch (state : CacheState A) : BitVec 64 :=
  let next := state.clock + 1#64
  if next < 1#64 then 1#64 else next

/-- The state at the next stamp. -/
def tick (state : CacheState A) : CacheState A := { state with clock := state.nextTouch }

/-- The state after one more miss. -/
def countMiss (state : CacheState A) : CacheState A :=
  { state with misses := state.misses.saturatingAdd 1#64 }

variable [ResidentAllocation A]

/-- The state after the entry `removed` under the key is dropped. -/
def dropEntry (state : CacheState A) (key : ResidencyKey) (removed : CacheEntry A) :
    CacheState A :=
  { state with
    entries := state.entries.erase key
    residentBytes := state.residentBytes.saturatingSub (spec removed.allocation).bytes
    evictions := state.evictions.saturatingAdd 1#64 }

/-- The allocation stored under the requested key, when it was opened for the same
specification. -/
def hit (state : CacheState A) (requested : ResidencySpec) : Option (A × CacheState A) :=
  match state.entries[requested.key]? with
  | some entry =>
    if spec entry.allocation = requested then
      some (entry.allocation, { state with
        entries := state.entries.insert requested.key { entry with lastTouch := state.clock }
        hits := state.hits.saturatingAdd 1#64 })
    else none
  | none => none

/-- The state without an entry under the key. -/
def dropStale (state : CacheState A) (key : ResidencyKey) : CacheState A :=
  match state.entries[key]? with
  | some stale => state.dropEntry key stale
  | none => state

/-- The condition of the eviction loop: the allocation does not fit. -/
def needsRoom (state : CacheState A) (capacityBytes bytes : BitVec 64) : Bool :=
  (state.residentBytes.checkedAdd bytes).all fun total => total > capacityBytes

/-- The least recently touched entry. -/
def victim (state : CacheState A) : Option ResidencyKey :=
  (OrderedMap.leastBy (fun entry : CacheEntry A => entry.lastTouch.toNat) (fun _ => true)
    state.entries).map Prod.fst

/-- The eviction loop. -/
def makeRoom (state : CacheState A) (capacityBytes : BitVec 64) (requested : ResidencySpec) :
    Except (Fault ResidencyError) Unit × CacheState A :=
  if state.needsRoom capacityBytes requested.bytes then
    match state.victim with
    | none => (.error (.error (.capacityExceeded requested.bytes capacityBytes)), state)
    | some victim =>
      match _h : state.entries[victim]? with
      | none => (.error (.panic "selected residency victim must exist"), state)
      | some removed => (state.dropEntry victim removed).makeRoom capacityBytes requested
  else (.ok (), state)
termination_by state.entries.size
decreasing_by
  have := OrderedMap.size_erase_add_one _h
  simp only [dropEntry]
  omega

/-- One iteration of the eviction loop. -/
def EvictIteration (capacityBytes : BitVec 64) (requested : ResidencySpec)
    (state state' : CacheState A) : Prop :=
  state.needsRoom capacityBytes requested.bytes ∧ ∃ victim removed, state.victim = some victim ∧
    state.entries[victim]? = some removed ∧ state' = state.dropEntry victim removed

/-- What becomes of the provider's answer. -/
def store (state : CacheState A) (capacityBytes : BitVec 64) (requested : ResidencySpec)
    (answer : Except ResidencyError A) : Except (Fault ResidencyError) A × CacheState A :=
  match answer with
  | .error e => (.error (.error e), state)
  | .ok allocation =>
    if spec allocation ≠ requested then
      (.error (.error (.providerContract requested (spec allocation))), state)
    else
      match state.residentBytes.checkedAdd requested.bytes with
      | none => (.error (.error (.capacityExceeded requested.bytes capacityBytes)), state)
      | some residentBytes =>
        (.ok allocation, { state with
          residentBytes
          entries := state.entries.insert requested.key ⟨allocation, state.clock⟩ })

/-- The state in which the eviction loop of a miss starts. -/
def missed (state : CacheState A) (requested : ResidencySpec) : CacheState A :=
  (state.tick.dropStale requested.key).countMiss

/-- The part of `acquire` that holds the lock. -/
def acquire (state : CacheState A) (capacityBytes : BitVec 64) (provider : ResidencyProvider A)
    (requested : ResidencySpec) : Acquired (CacheState A) A :=
  match state.tick.hit requested with
  | some (allocation, state) => ⟨.ok allocation, state, []⟩
  | none =>
    match (state.missed requested).makeRoom capacityBytes requested with
    | (.error e, state) => ⟨.error e, state, []⟩
    | (.ok (), state) =>
      let stored := state.store capacityBytes requested (provider requested)
      ⟨stored.1, stored.2, [requested]⟩

/-- The part of `invalidate` that holds the lock. -/
def invalidate (state : CacheState A) (key : ResidencyKey) : Bool × CacheState A :=
  match state.entries[key]? with
  | some removed => (true, state.dropEntry key removed)
  | none => (false, state)

/-- The part of `clear` that holds the lock. -/
def clear (state : CacheState A) : CacheState A :=
  { state with
    evictions := state.evictions.saturatingAdd
      ((BitVec.tryOfNat 64 state.entries.size).getD (BitVec.allOnes 64))
    entries := ∅
    residentBytes := 0#64 }

end CacheState

/-! ### Calls -/

namespace ResidencyCache

/-- An empty cache. -/
def new (capacityBytes : BitVec 64) : Except ResidencyError (ResidencyCache A) := do
  Except.rejectIf (capacityBytes = 0#64) .zeroCapacity
  return { capacityBytes, state := .default, poisoned := false }

/-- The state under the lock, unless the mutex is poisoned. -/
def lock (cache : ResidencyCache A) : Except ResidencyError (CacheState A) := do
  Except.rejectIf (cache.poisoned = true) .poisoned
  return cache.state

variable [ResidentAllocation A]

/-- What `acquire` checks before it takes the lock. -/
def checkAcquire (cache : ResidencyCache A) (requested : ResidencySpec) :
    Except ResidencyError Unit := do
  requested.validate
  Except.rejectIf (requested.bytes > cache.capacityBytes)
    (.capacityExceeded requested.bytes cache.capacityBytes)

/-- The allocation of a specification, opened by the provider when the cache has none. A panic under
the lock poisons the mutex. -/
def acquire (cache : ResidencyCache A) (provider : ResidencyProvider A)
    (requested : ResidencySpec) : Acquired (ResidencyCache A) A :=
  match cache.checkAcquire requested >>= fun _ => cache.lock with
  | .error e => ⟨.error (.error e), cache, []⟩
  | .ok state =>
    let acquired := state.acquire cache.capacityBytes provider requested
    let poisoned := match acquired.result with
      | .error (.panic _) => true
      | _ => false
    ⟨acquired.result, { cache with state := acquired.state, poisoned }, acquired.opened⟩

/-- Drop the entry under a key. The result says whether there was one. -/
def invalidate (cache : ResidencyCache A) (key : ResidencyKey) :
    Except ResidencyError Bool × ResidencyCache A :=
  match cache.lock with
  | .error e => (.error e, cache)
  | .ok state =>
    let invalidated := state.invalidate key
    (.ok invalidated.1, { cache with state := invalidated.2 })

/-- Drop all entries. -/
def clear (cache : ResidencyCache A) : Except ResidencyError Unit × ResidencyCache A :=
  match cache.lock with
  | .error e => (.error e, cache)
  | .ok state => (.ok (), { cache with state := state.clear })

/-- The counters of the cache. -/
def stats (cache : ResidencyCache A) : Except ResidencyError ResidencyStats := do
  let state ← cache.lock
  return {
    entries := state.entries.size
    residentBytes := state.residentBytes
    hits := state.hits
    misses := state.misses
    evictions := state.evictions }

end ResidencyCache

/-! ### Runs -/

/-- A call that may change the cache. The provider of an acquire is how the provider answers at
that time. -/
inductive ResidencyCall (A : Type) where
  | acquire (provider : ResidencyProvider A) (requested : ResidencySpec)
  | invalidate (key : ResidencyKey)
  | clear

variable [ResidentAllocation A]

namespace ResidencyCache

/-- The cache after a call. -/
def step (cache : ResidencyCache A) : ResidencyCall A → ResidencyCache A
  | .acquire provider requested => (cache.acquire provider requested).state
  | .invalidate key => (cache.invalidate key).2
  | .clear => cache.clear.2

/-- The cache after a run of calls. -/
def run (cache : ResidencyCache A) (calls : List (ResidencyCall A)) : ResidencyCache A :=
  calls.foldl step cache

end ResidencyCache

end RiftGPU.Residency
