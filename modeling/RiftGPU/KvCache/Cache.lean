import RiftGPU.Lru.OrderedMap
import RiftGPU.Residency.Spec
import RiftGPU.Word.Checked

/-!
# The KV cache

A capacity-bounded cache of KV blocks. An entry is a run of blocks of one sequence and layer;
entries are dropped whole, the least recently used first, to make room for a block. This file
models `vrb-kv-cache`. A call takes the cache and returns its result with the cache after it,
also when it fails.

## Main definitions

* `KvBlock.validate`, `KvBlock.tokenEnd`.
* `KvCache.append`, `KvCache.view`, `KvCache.remove`, `KvCache.clear`, `KvCache.stats`.
* `KvCache.evictFor`: the eviction loop.
* `KvCacheCall`, `KvCache.run`: runs of calls.
-/

namespace RiftGPU

open Residency (ResidencyKey)

/-- The name of an entry: a sequence and one of its layers. -/
structure KvCacheKey where
  sequenceId : BitVec 64
  layer : BitVec 32
deriving DecidableEq, Repr

namespace KvCacheKey

/-- Keys are ordered by sequence, then by layer. -/
instance : Ord KvCacheKey := ⟨compareLex (compareOn sequenceId) (compareOn layer)⟩

instance : Std.TransOrd KvCacheKey :=
  inferInstanceAs (Std.TransCmp (compareLex (compareOn sequenceId) (compareOn layer)))

theorem compare_eq_eq_iff {a b : KvCacheKey} :
    compare a b = .eq ↔ a.sequenceId = b.sequenceId ∧ a.layer = b.layer := by
  change compareLex (compareOn sequenceId) (compareOn layer) a b = .eq ↔ _
  simp [compareLex_eq_eq, compareOn]

instance : Std.LawfulEqOrd KvCacheKey where
  compare_self := compare_eq_eq_iff.2 ⟨rfl, rfl⟩
  eq_of_compare {a b} h := by
    obtain ⟨hsequence, hlayer⟩ := compare_eq_eq_iff.1 h
    cases a
    cases b
    simp_all

end KvCacheKey

/-- The ways in which a call can fail. -/
inductive KvCacheError where
  | zeroCapacity
  | invalidBlock
  | tokenRangeOverflow
  | nonContiguous (expectedStart actualStart : BitVec 64)
  | sizeOverflow
  | capacityExceeded (requested capacity : BitVec 64)
deriving DecidableEq, Repr

/-- The keys and values of a run of tokens, by the resources that hold them and the bytes that these
take. -/
structure KvBlock where
  tokenStart : BitVec 64
  tokenCount : BitVec 32
  keyResource : ResidencyKey
  valueResource : ResidencyKey
  bytes : BitVec 64
deriving DecidableEq

namespace KvBlock

/-- The token after the last one of the block. -/
def tokenEnd (block : KvBlock) : Except KvCacheError (BitVec 64) :=
  (block.tokenStart.checkedAdd (block.tokenCount.setWidth 64)).okOr .tokenRangeOverflow

/-- A block must have tokens and bytes, and the end of its tokens must fit its type. -/
def validate (block : KvBlock) : Except KvCacheError Unit := do
  Except.rejectIf (block.tokenCount = 0#32 ∨ block.bytes = 0#64) .invalidBlock
  let _ ← block.tokenEnd
  return ()

/-- A block of the given sizes in fixed resources. -/
def ofSizes (tokenStart : BitVec 64) (tokenCount : BitVec 32) (bytes : BitVec 64) : KvBlock where
  tokenStart := tokenStart
  tokenCount := tokenCount
  keyResource := ⟨"k", by decide, by decide⟩
  valueResource := ⟨"v", by decide, by decide⟩
  bytes := bytes

end KvBlock

/-- The blocks of a key, the bytes of all of them, and the stamp of the last call that touched them.
-/
structure KvEntry where
  blocks : List KvBlock
  bytes : BitVec 64
  lastTouch : BitVec 64
deriving DecidableEq

/-- A copy of an entry, with the number of tokens in its blocks. -/
structure KvCacheView where
  key : KvCacheKey
  blocks : List KvBlock
  bytes : BitVec 64
  tokens : BitVec 64
deriving DecidableEq

/-- The counters of a cache. -/
structure KvCacheStats where
  entries : ℕ
  blocks : ℕ
  bytes : BitVec 64
  evictions : BitVec 64
deriving DecidableEq, Repr

/-- A cache: its entries, the bytes of all of them, the clock of the stamps and the number of
entries that were evicted. -/
structure KvCache where
  capacityBytes : BitVec 64
  entries : Std.ExtTreeMap KvCacheKey KvEntry
  bytes : BitVec 64
  clock : BitVec 64
  evictions : BitVec 64

namespace KvCache

/-- An empty cache. -/
def new (capacityBytes : BitVec 64) : Except KvCacheError KvCache := do
  Except.rejectIf (capacityBytes = 0#64) .zeroCapacity
  return { capacityBytes, entries := ∅, bytes := 0#64, clock := 0#64, evictions := 0#64 }

/-- The next stamp: the clock wraps around to one, never to zero. -/
def nextTouch (cache : KvCache) : BitVec 64 :=
  let next := cache.clock + 1#64
  if next < 1#64 then 1#64 else next

/-! ### Eviction -/

/-- The condition of the eviction loop: the block does not fit. -/
def needsRoom (cache : KvCache) (additional : BitVec 64) : Bool :=
  (cache.bytes.checkedAdd additional).all fun total => total > cache.capacityBytes

/-- The least recently touched entry other than the protected one. -/
def victim (cache : KvCache) (protectedKey : KvCacheKey) : Option KvCacheKey :=
  (OrderedMap.leastBy (fun entry : KvEntry => entry.lastTouch.toNat)
    (fun key => key != protectedKey) cache.entries).map Prod.fst

/-- The cache after the victim with entry `removed` is dropped. -/
def dropVictim (cache : KvCache) (victim : KvCacheKey) (removed : KvEntry) : KvCache :=
  { cache with
    entries := cache.entries.erase victim
    bytes := cache.bytes.saturatingSub removed.bytes
    evictions := cache.evictions.saturatingAdd 1#64 }

/-- The eviction loop: entries are dropped until the additional bytes fit. The panic is the `expect`
of the source. -/
def evictFor (cache : KvCache) (protectedKey : KvCacheKey) (additional : BitVec 64) :
    Except (Fault KvCacheError) Unit × KvCache :=
  if cache.needsRoom additional then
    match cache.victim protectedKey with
    | none =>
      (.error (.error (.capacityExceeded (cache.bytes.saturatingAdd additional)
        cache.capacityBytes)), cache)
    | some victim =>
      match _h : cache.entries[victim]? with
      | none => (.error (.panic "selected KV-cache victim must exist"), cache)
      | some removed => (cache.dropVictim victim removed).evictFor protectedKey additional
  else (.ok (), cache)
termination_by cache.entries.size
decreasing_by
  have := OrderedMap.size_erase_add_one _h
  simp only [dropVictim]
  omega

/-- One iteration of the eviction loop. -/
def EvictIteration (protectedKey : KvCacheKey) (additional : BitVec 64) (cache cache' : KvCache) :
    Prop :=
  cache.needsRoom additional ∧ ∃ victim removed, cache.victim protectedKey = some victim ∧
    cache.entries[victim]? = some removed ∧ cache' = cache.dropVictim victim removed

/-! ### Calls -/

/-- A block must start where the blocks of its entry end. -/
def checkContiguous (cache : KvCache) (key : KvCacheKey) (block : KvBlock) :
    Except KvCacheError Unit :=
  match cache.entries[key]? with
  | some entry => do
    let last ← entry.blocks.getLast?.okOr .invalidBlock
    let expectedStart ← last.tokenEnd
    Except.rejectIf (block.tokenStart ≠ expectedStart)
      (.nonContiguous expectedStart block.tokenStart)
  | none =>
    Except.rejectIf (block.tokenStart ≠ 0#64) (.nonContiguous 0#64 block.tokenStart)

/-- An entry must fit the cache when it is alone in it. -/
def checkEntrySize (cache : KvCache) (key : KvCacheKey) (block : KvBlock) :
    Except KvCacheError Unit := do
  let currentEntryBytes := cache.entries[key]?.elim 0#64 KvEntry.bytes
  let newEntryBytes ← (currentEntryBytes.checkedAdd block.bytes).okOr .sizeOverflow
  Except.rejectIf (newEntryBytes > cache.capacityBytes)
    (.capacityExceeded newEntryBytes cache.capacityBytes)

/-- What `append` checks before it changes the cache. -/
def checkAppend (cache : KvCache) (key : KvCacheKey) (block : KvBlock) :
    Except KvCacheError Unit := do
  block.validate
  Except.rejectIf (block.bytes > cache.capacityBytes)
    (.capacityExceeded block.bytes cache.capacityBytes)
  cache.checkContiguous key block
  cache.checkEntrySize key block

/-- What `append` does once there is room for the block. -/
def pushBlock (cache : KvCache) (key : KvCacheKey) (block : KvBlock) :
    Except (Fault KvCacheError) Unit × KvCache :=
  let touch := cache.nextTouch
  let entry := cache.entries[key]?.getD { blocks := [], bytes := 0#64, lastTouch := touch }
  match entry.bytes.checkedAdd block.bytes with
  | none =>
    (.error (.error .sizeOverflow),
      { cache with clock := touch, entries := cache.entries.insert key entry })
  | some entryBytes =>
    let entry := { blocks := entry.blocks ++ [block], bytes := entryBytes, lastTouch := touch }
    let cache := { cache with clock := touch, entries := cache.entries.insert key entry }
    match cache.bytes.checkedAdd block.bytes with
    | none => (.error (.error .sizeOverflow), cache)
    | some bytes => (.ok (), { cache with bytes })

/-- Put a block behind those of its key, once the entries that are in its way are evicted. -/
def append (cache : KvCache) (key : KvCacheKey) (block : KvBlock) :
    Except (Fault KvCacheError) Unit × KvCache :=
  match cache.checkAppend key block with
  | .error e => (.error (.error e), cache)
  | .ok () =>
    match cache.evictFor key block.bytes with
    | (.error e, cache) => (.error e, cache)
    | (.ok (), cache) => cache.pushBlock key block

/-- A copy of an entry, which becomes the one touched last. The clock ticks also when there is none.
-/
def view (cache : KvCache) (key : KvCacheKey) :
    Except (Fault KvCacheError) (Option KvCacheView) × KvCache :=
  let touch := cache.nextTouch
  match cache.entries[key]? with
  | none => (.ok none, { cache with clock := touch })
  | some entry =>
    let cache := { cache with
      clock := touch
      entries := cache.entries.insert key { entry with lastTouch := touch } }
    match entry.blocks.getLast?.elim (.ok 0#64) KvBlock.tokenEnd with
    | .error e => (.error (.error e), cache)
    | .ok tokens =>
      (.ok (some { key, blocks := entry.blocks, bytes := entry.bytes, tokens }), cache)

/-- Drop an entry. The result says whether there was one. -/
def remove (cache : KvCache) (key : KvCacheKey) : Bool × KvCache :=
  match cache.entries[key]? with
  | some entry =>
    (true, { cache with
      entries := cache.entries.erase key
      bytes := cache.bytes.saturatingSub entry.bytes })
  | none => (false, cache)

/-- Drop all entries. The clock and the count of evictions are kept. -/
def clear (cache : KvCache) : KvCache := { cache with entries := ∅, bytes := 0#64 }

/-- The counters of the cache. -/
def stats (cache : KvCache) : KvCacheStats where
  entries := cache.entries.size
  blocks := OrderedMap.total (fun entry : KvEntry => entry.blocks.length) cache.entries
  bytes := cache.bytes
  evictions := cache.evictions

end KvCache

/-! ### Runs -/

/-- A call that may change the cache. -/
inductive KvCacheCall where
  | append (key : KvCacheKey) (block : KvBlock)
  | view (key : KvCacheKey)
  | remove (key : KvCacheKey)
  | clear
deriving DecidableEq

namespace KvCache

/-- The cache after a call. -/
def step (cache : KvCache) : KvCacheCall → KvCache
  | .append key block => (cache.append key block).2
  | .view key => (cache.view key).2
  | .remove key => (cache.remove key).2
  | .clear => cache.clear

/-- The cache after a run of calls. -/
def run (cache : KvCache) (calls : List KvCacheCall) : KvCache := calls.foldl step cache

end KvCache

end RiftGPU
