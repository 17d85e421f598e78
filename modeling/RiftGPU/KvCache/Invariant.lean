import Mathlib.Logic.Relation
import RiftGPU.KvCache.Cache
import RiftGPU.Lru.Eviction

/-!
# The representation invariant of the KV cache

The cache keeps two levels of byte totals, one for each entry and one for the whole cache, and
updates them in place. This file states what the totals and the blocks satisfy between calls, and
proves that every call keeps it, whether the call succeeds or fails.

## Main definitions

* `KvEntry.WellFormed`: the blocks of an entry follow each other from token zero.
* `KvCache.Invariant`: the totals are exact and every entry is well formed.

## Main results

* `KvCache.evictFor_spec`: what the eviction loop does.
* `KvCache.append_spec`: what a successful append does.
* `KvCache.Invariant.step`, `KvCache.Invariant.run`.
-/

namespace RiftGPU

/-! ### Blocks and entries -/

/-- The first block starts at token `start`, and every other block where the one before it
ends. -/
def Contiguous (start : ℕ) : List KvBlock → Prop
  | [] => True
  | block :: blocks =>
    block.tokenStart.toNat = start ∧ Contiguous (start + block.tokenCount.toNat) blocks

/-- The number of tokens in the blocks. -/
def tokenTotal (blocks : List KvBlock) : ℕ := (blocks.map fun block => block.tokenCount.toNat).sum

/-- The number of bytes in the blocks. -/
def byteTotal (blocks : List KvBlock) : ℕ := (blocks.map fun block => block.bytes.toNat).sum

@[simp] theorem byteTotal_append (blocks : List KvBlock) (block : KvBlock) :
    byteTotal (blocks ++ [block]) = byteTotal blocks + block.bytes.toNat := by
  simp [byteTotal]

theorem tokenTotal_cons (block : KvBlock) (blocks : List KvBlock) :
    tokenTotal (block :: blocks) = block.tokenCount.toNat + tokenTotal blocks := by
  simp [tokenTotal]

@[simp] theorem tokenTotal_append (blocks : List KvBlock) (block : KvBlock) :
    tokenTotal (blocks ++ [block]) = tokenTotal blocks + block.tokenCount.toNat := by
  simp [tokenTotal]

theorem contiguous_append_iff (start : ℕ) (blocks : List KvBlock) (block : KvBlock) :
    Contiguous start (blocks ++ [block]) ↔
      Contiguous start blocks ∧ block.tokenStart.toNat = start + tokenTotal blocks := by
  induction blocks generalizing start with
  | nil => simp [Contiguous, tokenTotal]
  | cons b blocks ih =>
    rw [List.cons_append, Contiguous, ih, Contiguous, and_assoc, tokenTotal_cons,
      ← Nat.add_assoc]

/-- A block that `validate` accepts. -/
structure KvBlock.Valid (block : KvBlock) : Prop where
  tokenCount_pos : 0 < block.tokenCount.toNat
  bytes_pos : 0 < block.bytes.toNat
  tokenEnd_lt : block.tokenStart.toNat + block.tokenCount.toNat < 2 ^ 64

theorem KvBlock.tokenEnd_eq_ok_iff {block : KvBlock} {stop : BitVec 64} :
    block.tokenEnd = .ok stop ↔
      stop.toNat = block.tokenStart.toNat + block.tokenCount.toNat := by
  rw [KvBlock.tokenEnd, Option.okOr_eq_ok_iff, BitVec.checkedAdd_eq_some_iff,
    BitVec.toNat_setWidth_of_le (by decide)]

theorem KvBlock.validate_eq_ok_iff {block : KvBlock} {u : Unit} :
    block.validate = .ok u ↔ block.Valid := by
  rw [KvBlock.validate, Except.rejectIf_bind_eq_ok_iff, not_or, Except.bind_eq_ok_iff]
  simp only [tokenEnd_eq_ok_iff, BitVec.eq_zero_iff_toNat, Except.pure_eq_ok_iff, and_true]
  constructor
  · rintro ⟨⟨hcount, hbytes⟩, stop, hstop⟩
    exact ⟨Nat.pos_of_ne_zero hcount, Nat.pos_of_ne_zero hbytes, hstop ▸ stop.isLt⟩
  · rintro ⟨hcount, hbytes, hstop⟩
    exact ⟨⟨hcount.ne', hbytes.ne'⟩, BitVec.exists_toNat_eq hstop⟩

/-- The blocks of an entry are valid, follow each other from token zero, and are counted. -/
structure KvEntry.WellFormed (entry : KvEntry) : Prop where
  blocks_ne_nil : entry.blocks ≠ []
  contiguous : Contiguous 0 entry.blocks
  valid : ∀ block ∈ entry.blocks, block.Valid
  bytes_eq : entry.bytes.toNat = byteTotal entry.blocks

/-- The last block of a well-formed entry ends after all of its tokens. -/
theorem KvEntry.WellFormed.exists_getLast {entry : KvEntry} (h : entry.WellFormed) :
    ∃ last stop, entry.blocks.getLast? = some last ∧ last.tokenEnd = .ok stop ∧
      stop.toNat = tokenTotal entry.blocks := by
  obtain ⟨blocks, last, hblocks⟩ := List.eq_nil_or_concat' entry.blocks |>.resolve_left
    h.blocks_ne_nil
  have hvalid := h.valid last (by simp [hblocks])
  have hstart := ((contiguous_append_iff 0 blocks last).1 (hblocks ▸ h.contiguous)).2
  obtain ⟨stop, hstop⟩ := BitVec.exists_toNat_eq hvalid.tokenEnd_lt
  refine ⟨last, stop, by simp [hblocks], KvBlock.tokenEnd_eq_ok_iff.2 hstop, ?_⟩
  rw [hblocks, tokenTotal_append]
  omega

/-! ### The invariant -/

namespace KvCache

/-- The weight of an entry. -/
def entryBytes (entry : KvEntry) : ℕ := entry.bytes.toNat

/-- The stamp of an entry. -/
def entryStamp (entry : KvEntry) : ℕ := entry.lastTouch.toNat

/-- The totals are exact and every entry is well formed. -/
structure Invariant (cache : KvCache) : Prop where
  bytes_eq : cache.bytes.toNat = OrderedMap.total entryBytes cache.entries
  bytes_le : cache.bytes.toNat ≤ cache.capacityBytes.toNat
  wellFormed : ∀ (key : KvCacheKey) (entry : KvEntry),
    cache.entries[key]? = some entry → entry.WellFormed

variable {cache cache' : KvCache} {key : KvCacheKey} {block : KvBlock} {entry : KvEntry}

theorem Invariant.entry_bytes_le (h : cache.Invariant) (hentry : cache.entries[key]? = some entry) :
    entry.bytes.toNat ≤ cache.bytes.toNat := by
  rw [h.bytes_eq]
  exact OrderedMap.weight_le_total entryBytes hentry

theorem new_eq_ok_iff {capacityBytes : BitVec 64} :
    new capacityBytes = .ok cache ↔ capacityBytes ≠ 0#64 ∧
      { capacityBytes, entries := ∅, bytes := 0#64, clock := 0#64, evictions := 0#64 } = cache := by
  rw [new, Except.rejectIf_bind_eq_ok_iff, Except.pure_eq_ok_iff]

theorem Invariant.new {capacityBytes : BitVec 64} (h : new capacityBytes = .ok cache) :
    cache.Invariant := by
  obtain ⟨-, rfl⟩ := new_eq_ok_iff.1 h
  exact ⟨by simp, by simp, by simp⟩

/-! ### The eviction loop -/

theorem needsRoom_iff {additional : BitVec 64} :
    cache.needsRoom additional ↔
      cache.capacityBytes.toNat < cache.bytes.toNat + additional.toNat :=
  BitVec.checkedAdd_all_gt_iff

/-- The byte total stays exact when a victim is dropped. -/
theorem dropVictim_bytes (hbytes : cache.bytes.toNat = OrderedMap.total entryBytes cache.entries)
    (hentry : cache.entries[key]? = some entry) :
    (cache.dropVictim key entry).bytes.toNat =
      OrderedMap.total entryBytes (cache.dropVictim key entry).entries := by
  rw [OrderedMap.total_eq_add_erase entryBytes hentry] at hbytes
  simp only [dropVictim, BitVec.toNat_saturatingSub, hbytes, entryBytes]
  omega

theorem dropVictim_evictions :
    (cache.dropVictim key entry).evictions.toNat =
      min (cache.evictions.toNat + 1) (2 ^ 64 - 1) :=
  BitVec.toNat_saturatingAdd_one cache.evictions

theorem victim_eq_some_iff {protectedKey victim : KvCacheKey} :
    cache.victim protectedKey = some victim ↔ ∃ entry,
      OrderedMap.leastBy entryStamp (fun key => key != protectedKey) cache.entries =
        some (victim, entry) := by
  simp only [KvCache.victim, Option.map_eq_some_iff, Prod.exists, exists_and_right,
    exists_eq_right]
  rfl

/-- **The eviction loop**: it evicts least recently touched entries other than the protected one
until the block fits, keeps the byte total exact and counts the victims. It fails only when the
block still does not fit and no other entry is left. -/
theorem evictFor_spec (protectedKey : KvCacheKey) (additional : BitVec 64)
    (hbytes : cache.bytes.toNat = OrderedMap.total entryBytes cache.entries) :
    ∃ victims result cache', cache.evictFor protectedKey additional = (result, cache') ∧
      Lru.Evicts entryBytes entryStamp (fun key => key != protectedKey)
        cache.capacityBytes.toNat additional.toNat cache.entries victims cache'.entries ∧
      cache'.bytes.toNat = OrderedMap.total entryBytes cache'.entries ∧
      cache'.evictions.toNat = min (cache.evictions.toNat + victims.length) (2 ^ 64 - 1) ∧
      cache'.capacityBytes = cache.capacityBytes ∧ cache'.clock = cache.clock ∧
      (result = .ok () ∧ cache'.needsRoom additional = false ∨
        cache'.needsRoom additional ∧ cache'.victim protectedKey = none) := by
  fun_induction cache.evictFor protectedKey additional with
  | case1 cache hroom hvictim =>
    refine ⟨[], _, cache, rfl, .refl _, hbytes, ?_, rfl, rfl, .inr ⟨hroom, hvictim⟩⟩
    have := cache.evictions.isLt
    simp only [List.length_nil]
    omega
  | case2 cache hroom victim hvictim hnone =>
    obtain ⟨entry, hleast⟩ := victim_eq_some_iff.1 hvictim
    rw [(OrderedMap.getElem?_of_leastBy hleast).1] at hnone
    cases hnone
  | case3 cache hroom victim hvictim removed hremoved ih =>
    obtain ⟨entry, hleast⟩ := victim_eq_some_iff.1 hvictim
    have hsome := (OrderedMap.getElem?_of_leastBy hleast).1
    obtain rfl : entry = removed := Option.some.inj (hsome.symm.trans hremoved)
    obtain ⟨victims, result, cache', hrun, hevicts, hbytes', hevictions, hcapacity, hclock, hend⟩ :=
      ih (dropVictim_bytes hbytes hremoved)
    refine ⟨(victim, entry) :: victims, result, cache', hrun, ?_, hbytes', ?_, hcapacity, hclock,
      hend⟩
    · refine .evict ?_ hleast hevicts
      rw [← hbytes]
      exact needsRoom_iff.1 hroom
    · rw [hevictions, dropVictim_evictions, List.length_cons]
      generalize 2 ^ 64 - 1 = bound
      omega
  | case4 cache hroom =>
    refine ⟨[], _, cache, rfl, .refl _, hbytes, ?_, rfl, rfl, .inl ⟨rfl, by simpa using hroom⟩⟩
    have := cache.evictions.isLt
    simp only [List.length_nil]
    omega

/-! ### Appending a block -/

/-- The token at which the blocks of a key end, zero when the key is absent. -/
def endToken (cache : KvCache) (key : KvCacheKey) : ℕ :=
  (cache.entries[key]?.bind fun entry => entry.blocks.getLast?).elim 0
    fun last => last.tokenStart.toNat + last.tokenCount.toNat

/-- The bytes of the entry of a key, zero when the key is absent. -/
def currentBytes (cache : KvCache) (key : KvCacheKey) : ℕ :=
  cache.entries[key]?.elim 0 entryBytes

theorem checkContiguous_eq_ok_iff (h : cache.Invariant) :
    cache.checkContiguous key block = .ok () ↔
      block.tokenStart.toNat = cache.endToken key := by
  unfold checkContiguous endToken
  cases hentry : cache.entries[key]? with
  | none => simp [BitVec.eq_zero_iff_toNat]
  | some entry =>
    obtain ⟨last, stop, hlast, hstop, -⟩ := (h.wellFormed key entry hentry).exists_getLast
    have hend := KvBlock.tokenEnd_eq_ok_iff.1 hstop
    simp [hlast, hstop, ← BitVec.toNat_inj, hend]

theorem checkEntrySize_eq_ok_iff :
    cache.checkEntrySize key block = .ok () ↔
      cache.currentBytes key + block.bytes.toNat ≤ cache.capacityBytes.toNat := by
  have hcurrent : (cache.entries[key]?.elim 0#64 KvEntry.bytes).toNat = cache.currentBytes key := by
    unfold currentBytes
    cases cache.entries[key]? <;> rfl
  rw [checkEntrySize, Except.bind_eq_ok_iff]
  simp only [Option.okOr_eq_ok_iff, BitVec.checkedAdd_eq_some_iff, Except.rejectIf_eq_ok_iff,
    gt_iff_lt, BitVec.lt_def, not_lt, hcurrent]
  constructor
  · rintro ⟨sum, hsum, hle⟩
    rwa [hsum] at hle
  · intro hle
    obtain ⟨sum, hsum⟩ := BitVec.exists_toNat_eq (hle.trans_lt cache.capacityBytes.isLt)
    exact ⟨sum, hsum, hsum.trans_le hle⟩

/-- The checks of an append accept a valid block that continues its entry and fits with it. -/
theorem checkAppend_eq_ok_iff (h : cache.Invariant) :
    cache.checkAppend key block = .ok () ↔ block.Valid ∧
      block.bytes.toNat ≤ cache.capacityBytes.toNat ∧
      block.tokenStart.toNat = cache.endToken key ∧
      cache.currentBytes key + block.bytes.toNat ≤ cache.capacityBytes.toNat := by
  simp only [checkAppend, Except.bind_eq_ok_iff, exists_const, KvBlock.validate_eq_ok_iff,
    Except.rejectIf_eq_ok_iff, checkContiguous_eq_ok_iff h, checkEntrySize_eq_ok_iff, gt_iff_lt,
    BitVec.lt_def, not_lt]

/-- The entry of a key with one more block. -/
def extendedEntry (cache : KvCache) (key : KvCacheKey) (block : KvBlock) : KvEntry where
  blocks := cache.entries[key]?.elim [] KvEntry.blocks ++ [block]
  bytes := cache.entries[key]?.elim 0#64 KvEntry.bytes + block.bytes
  lastTouch := cache.nextTouch

/-- What a successful append does: the victims are evicted, which leaves `kept` and room for the
block, and then the block joins the entry of its key. -/
structure Appends (cache : KvCache) (key : KvCacheKey) (block : KvBlock)
    (victims : List (KvCacheKey × KvEntry)) (kept : Std.ExtTreeMap KvCacheKey KvEntry)
    (cache' : KvCache) : Prop where
  evicts : Lru.Evicts entryBytes entryStamp (fun key' => key' != key)
    cache.capacityBytes.toNat block.bytes.toNat cache.entries victims kept
  fits : OrderedMap.total entryBytes kept + block.bytes.toNat ≤ cache.capacityBytes.toNat
  entries_eq : cache'.entries = kept.insert key (cache.extendedEntry key block)
  bytes_eq : cache'.bytes.toNat = OrderedMap.total entryBytes kept + block.bytes.toNat
  evictions_eq : cache'.evictions.toNat =
    min (cache.evictions.toNat + victims.length) (2 ^ 64 - 1)
  capacityBytes_eq : cache'.capacityBytes = cache.capacityBytes
  clock_eq : cache'.clock = cache.nextTouch

theorem extendedEntry_bytes
    (hsize : cache.currentBytes key + block.bytes.toNat ≤ cache.capacityBytes.toNat) :
    entryBytes (cache.extendedEntry key block) = cache.currentBytes key + block.bytes.toNat := by
  have := cache.capacityBytes.isLt
  unfold currentBytes at hsize ⊢
  cases hentry : cache.entries[key]? with
  | none => simp [entryBytes, extendedEntry, hentry]
  | some entry =>
    rw [hentry] at hsize
    simp only [Option.elim_some, entryBytes] at hsize
    simp only [entryBytes, extendedEntry, hentry, Option.elim_some, BitVec.toNat_add]
    exact Nat.mod_eq_of_lt (by omega)

/-- Once there is room, the block is pushed. -/
theorem pushBlock_spec
    (hsize : cache.currentBytes key + block.bytes.toNat ≤ cache.capacityBytes.toNat)
    (hfits : cache.bytes.toNat + block.bytes.toNat ≤ cache.capacityBytes.toNat) :
    cache.pushBlock key block = (.ok (), { cache with
      clock := cache.nextTouch
      entries := cache.entries.insert key (cache.extendedEntry key block)
      bytes := cache.bytes + block.bytes }) := by
  have hcapacity := cache.capacityBytes.isLt
  have htotal : cache.bytes.checkedAdd block.bytes = some (cache.bytes + block.bytes) :=
    if_pos (by omega)
  unfold currentBytes at hsize
  cases hentry : cache.entries[key]? with
  | none =>
    have hsum : (0#64).checkedAdd block.bytes = some (0#64 + block.bytes) :=
      if_pos (by simpa using block.bytes.isLt)
    simp [pushBlock, hentry, hsum, htotal, extendedEntry]
  | some entry =>
    rw [hentry] at hsize
    simp only [Option.elim_some, entryBytes] at hsize
    have hsum : entry.bytes.checkedAdd block.bytes = some (entry.bytes + block.bytes) :=
      if_pos (by omega)
    simp [pushBlock, hentry, hsum, htotal, extendedEntry]

/-- **A successful append.** When the checks accept the block, the append succeeds. -/
theorem append_spec (h : cache.Invariant) (hcheck : cache.checkAppend key block = .ok ()) :
    ∃ victims kept cache', cache.append key block = (.ok (), cache') ∧
      (cache.evictFor key block.bytes).1 = .ok () ∧
      cache.Appends key block victims kept cache' := by
  obtain ⟨-, hblock, -, hsize⟩ := (checkAppend_eq_ok_iff h).1 hcheck
  obtain ⟨victims, result, mid, hrun, hevicts, hbytes, hevictions, hcapacity, hclock, hend⟩ :=
    evictFor_spec key block.bytes h.bytes_eq
  have hkept : mid.entries[key]? = cache.entries[key]? := hevicts.getElem?_of_not (by simp)
  have hcurrent : mid.currentBytes key = cache.currentBytes key := by
    rw [currentBytes, currentBytes, hkept]
  -- with only the protected entry left, the block fits
  have hfit : mid.needsRoom block.bytes = false := by
    rcases hend with ⟨-, hfit⟩ | ⟨-, hnone⟩
    · exact hfit
    · rw [KvCache.victim, Option.map_eq_none_iff] at hnone
      have htotal := Lru.total_eq_of_leastBy_eq_none entryBytes hnone
      rw [Bool.eq_false_iff, Ne, needsRoom_iff, hbytes, htotal, hcapacity]
      change ¬_ < mid.currentBytes key + _
      omega
  have hresult : result = .ok () := by
    rcases hend with ⟨hresult, -⟩ | ⟨hroom, -⟩
    · exact hresult
    · rw [hfit] at hroom
      cases hroom
  have hroom : mid.bytes.toNat + block.bytes.toNat ≤ mid.capacityBytes.toNat := by
    rwa [Bool.eq_false_iff, Ne, needsRoom_iff, not_lt] at hfit
  have hextended : mid.extendedEntry key block = cache.extendedEntry key block := by
    simp only [extendedEntry, hkept, nextTouch, hclock]
  have hpush := pushBlock_spec (hcurrent ▸ hcapacity ▸ hsize) hroom
  have happend : cache.append key block = mid.pushBlock key block := by
    simp only [append, hcheck, hrun, hresult]
  refine ⟨victims, mid.entries, _, happend.trans hpush, ?_, ?_⟩
  · rw [hrun]
    exact hresult
  · refine ⟨hevicts, ?_, ?_, ?_, hevictions, hcapacity, ?_⟩
    · rw [← hbytes, ← hcapacity]
      exact hroom
    · rw [hextended]
    · have := mid.capacityBytes.isLt
      rw [BitVec.toNat_add, Nat.mod_eq_of_lt (by omega), hbytes]
    · simp only [nextTouch, hclock]

theorem append_of_check_error {e : KvCacheError} (h : cache.checkAppend key block = .error e) :
    cache.append key block = (.error (.error e), cache) := by
  simp only [append, h]

/-! ### Every call keeps the invariant -/

theorem extendedEntry_wellFormed (h : cache.Invariant)
    (hcheck : cache.checkAppend key block = .ok ()) :
    (cache.extendedEntry key block).WellFormed := by
  obtain ⟨hvalid, -, hstart, hsize⟩ := (checkAppend_eq_ok_iff h).1 hcheck
  have hbytes := extendedEntry_bytes hsize
  cases hentry : cache.entries[key]? with
  | none =>
    simp only [endToken, hentry, Option.bind_none, Option.elim_none] at hstart
    refine ⟨by simp [extendedEntry, hentry], ?_, ?_, ?_⟩
    · simp [extendedEntry, hentry, Contiguous, hstart]
    · simp [extendedEntry, hentry, hvalid]
    · simp [extendedEntry, hentry, byteTotal]
  | some entry =>
    have hwf := h.wellFormed key entry hentry
    obtain ⟨last, stop, hlast, hstop, htokens⟩ := hwf.exists_getLast
    have hend := KvBlock.tokenEnd_eq_ok_iff.1 hstop
    simp only [endToken, hentry, Option.bind_some, hlast, Option.elim_some, ← hend,
      htokens] at hstart
    simp only [currentBytes, hentry, Option.elim_some, entryBytes, hwf.bytes_eq] at hbytes
    refine ⟨by simp [extendedEntry, hentry], ?_, ?_, ?_⟩
    · simp only [extendedEntry, hentry, Option.elim_some, contiguous_append_iff, Nat.zero_add]
      exact ⟨hwf.contiguous, hstart⟩
    · simp only [extendedEntry, hentry, Option.elim_some, List.mem_append, List.mem_singleton]
      rintro block' (hmem | rfl)
      · exact hwf.valid block' hmem
      · exact hvalid
    · rw [hbytes]
      simp [extendedEntry, hentry]

theorem Appends.invariant {victims : List (KvCacheKey × KvEntry)}
    {kept : Std.ExtTreeMap KvCacheKey KvEntry} (happ : cache.Appends key block victims kept cache')
    (h : cache.Invariant) (hcheck : cache.checkAppend key block = .ok ()) : cache'.Invariant := by
  have hsize := ((checkAppend_eq_ok_iff h).1 hcheck).2.2.2
  have hkept : kept[key]? = cache.entries[key]? := happ.evicts.getElem?_of_not (by simp)
  refine ⟨?_, ?_, ?_⟩
  · rw [happ.bytes_eq, happ.entries_eq, OrderedMap.total_insert, extendedEntry_bytes hsize,
      OrderedMap.total_eq_elim_add_erase entryBytes kept key, hkept, currentBytes]
    omega
  · rw [happ.bytes_eq, happ.capacityBytes_eq]
    exact happ.fits
  · intro key' entry hentry
    rw [happ.entries_eq] at hentry
    by_cases hkey : key' = key
    · rw [hkey, Std.ExtTreeMap.getElem?_insert_self, Option.some.injEq] at hentry
      rw [← hentry]
      exact extendedEntry_wellFormed h hcheck
    · rw [OrderedMap.getElem?_insert_of_ne hkey] at hentry
      exact h.wellFormed key' entry (happ.evicts.getElem?_of_eq_some hentry)

theorem Invariant.append (h : cache.Invariant) (key : KvCacheKey) (block : KvBlock) :
    (cache.append key block).2.Invariant := by
  cases hcheck : cache.checkAppend key block with
  | error e =>
    rw [append_of_check_error hcheck]
    exact h
  | ok u =>
    obtain ⟨victims, kept, cache', hrun, -, happ⟩ := append_spec h hcheck
    rw [hrun]
    exact happ.invariant h hcheck

/-- What `view` does to an entry that is present. -/
theorem view_of_some (h : cache.Invariant) (hentry : cache.entries[key]? = some entry) :
    ∃ tokens : BitVec 64, tokens.toNat = tokenTotal entry.blocks ∧
      cache.view key = (.ok (some { key, blocks := entry.blocks, bytes := entry.bytes, tokens }),
        { cache with
          clock := cache.nextTouch
          entries := cache.entries.insert key { entry with lastTouch := cache.nextTouch } }) := by
  obtain ⟨last, stop, hlast, hstop, htokens⟩ := (h.wellFormed key entry hentry).exists_getLast
  refine ⟨stop, htokens, ?_⟩
  simp only [view, hentry, hlast, Option.elim_some, hstop]

theorem view_of_none (hentry : cache.entries[key]? = none) :
    cache.view key = (.ok none, { cache with clock := cache.nextTouch }) := by
  simp only [view, hentry]

theorem Invariant.view (h : cache.Invariant) (key : KvCacheKey) :
    (cache.view key).2.Invariant := by
  cases hentry : cache.entries[key]? with
  | none =>
    rw [view_of_none hentry]
    exact ⟨h.bytes_eq, h.bytes_le, h.wellFormed⟩
  | some entry =>
    obtain ⟨tokens, -, hview⟩ := view_of_some h hentry
    rw [hview]
    refine ⟨?_, h.bytes_le, ?_⟩
    · rw [h.bytes_eq, OrderedMap.total_insert, OrderedMap.total_eq_add_erase entryBytes hentry]
      rfl
    · intro key' entry' hentry'
      by_cases hkey : key' = key
      · rw [hkey, Std.ExtTreeMap.getElem?_insert_self, Option.some.injEq] at hentry'
        have hwf := h.wellFormed key entry hentry
        rw [← hentry']
        exact ⟨hwf.blocks_ne_nil, hwf.contiguous, hwf.valid, hwf.bytes_eq⟩
      · rw [OrderedMap.getElem?_insert_of_ne hkey] at hentry'
        exact h.wellFormed key' entry' hentry'

theorem remove_of_some (hentry : cache.entries[key]? = some entry) :
    cache.remove key = (true, { cache with
      entries := cache.entries.erase key
      bytes := cache.bytes.saturatingSub entry.bytes }) := by
  simp only [remove, hentry]

theorem remove_of_none (hentry : cache.entries[key]? = none) :
    cache.remove key = (false, cache) := by
  simp only [remove, hentry]

theorem Invariant.remove (h : cache.Invariant) (key : KvCacheKey) :
    (cache.remove key).2.Invariant := by
  cases hentry : cache.entries[key]? with
  | none =>
    rw [remove_of_none hentry]
    exact h
  | some entry =>
    have htotal := h.bytes_eq
    rw [OrderedMap.total_eq_add_erase entryBytes hentry, entryBytes] at htotal
    rw [remove_of_some hentry]
    refine ⟨?_, ?_, ?_⟩
    · rw [BitVec.toNat_saturatingSub, htotal]
      exact Nat.add_sub_cancel_left _ _
    · rw [BitVec.toNat_saturatingSub]
      exact (Nat.sub_le _ _).trans h.bytes_le
    · intro key' entry' hentry'
      exact h.wellFormed key' entry' (OrderedMap.getElem?_erase_eq_some_iff.1 hentry').2

theorem invariant_clear (cache : KvCache) : cache.clear.Invariant :=
  ⟨by simp [KvCache.clear], by simp [KvCache.clear], by simp [KvCache.clear]⟩

/-- Every call keeps the invariant. -/
theorem Invariant.step (h : cache.Invariant) (call : KvCacheCall) :
    (cache.step call).Invariant := by
  cases call with
  | append key block => exact h.append key block
  | view key => exact h.view key
  | remove key => exact h.remove key
  | clear => exact invariant_clear cache

theorem Invariant.step_capacityBytes (h : cache.Invariant) (call : KvCacheCall) :
    (cache.step call).capacityBytes = cache.capacityBytes := by
  cases call with
  | append key block =>
    cases hcheck : cache.checkAppend key block with
    | error e => rw [KvCache.step, append_of_check_error hcheck]
    | ok u =>
      obtain ⟨victims, kept, cache', hrun, -, happ⟩ := append_spec h hcheck
      rw [KvCache.step, hrun]
      exact happ.capacityBytes_eq
  | view key =>
    cases hentry : cache.entries[key]? with
    | none => rw [KvCache.step, view_of_none hentry]
    | some entry =>
      obtain ⟨tokens, -, hview⟩ := view_of_some h hentry
      rw [KvCache.step, hview]
  | remove key =>
    cases hentry : cache.entries[key]? with
    | none => rw [KvCache.step, remove_of_none hentry]
    | some entry => rw [KvCache.step, remove_of_some hentry]
  | clear => rfl

/-- Every run of calls keeps the invariant. -/
theorem Invariant.run (h : cache.Invariant) (calls : List KvCacheCall) :
    (cache.run calls).Invariant := by
  induction calls generalizing cache with
  | nil => exact h
  | cons call calls ih => exact ih (h.step call)

theorem Invariant.run_capacityBytes (h : cache.Invariant) (calls : List KvCacheCall) :
    (cache.run calls).capacityBytes = cache.capacityBytes := by
  induction calls generalizing cache with
  | nil => rfl
  | cons call calls ih => exact (ih (h.step call)).trans (h.step_capacityBytes call)

/-- The byte total stays exact inside the eviction loop. -/
theorem bytes_eq_of_iterations {protectedKey : KvCacheKey} {additional : BitVec 64}
    (hrun : Relation.ReflTransGen (EvictIteration protectedKey additional) cache cache')
    (hbytes : cache.bytes.toNat = OrderedMap.total entryBytes cache.entries) :
    cache'.bytes.toNat = OrderedMap.total entryBytes cache'.entries := by
  induction hrun with
  | refl => exact hbytes
  | tail hrun hstep ih =>
    obtain ⟨-, victim, removed, -, hremoved, rfl⟩ := hstep
    exact dropVictim_bytes ih hremoved

/-- **Representation invariant.** After any run of calls on a new cache, the byte totals are exact
and within the capacity and every entry is a contiguous run of valid blocks from token zero. Hence
no subtraction of bytes saturates, neither in `remove` nor at any iteration of the eviction loop,
and `view` does not fail and counts the tokens of the blocks it returns. -/
theorem representation_invariant {capacityBytes : BitVec 64}
    (hnew : KvCache.new capacityBytes = .ok cache) (calls : List KvCacheCall) :
    (cache.run calls).Invariant ∧ (cache.run calls).capacityBytes = capacityBytes ∧
      (∀ (key : KvCacheKey) (entry : KvEntry), (cache.run calls).entries[key]? = some entry →
        entry.bytes.toNat ≤ (cache.run calls).bytes.toNat) ∧
      (∀ (protectedKey : KvCacheKey) (additional : BitVec 64) (during : KvCache),
        Relation.ReflTransGen (EvictIteration protectedKey additional) (cache.run calls) during →
        ∀ (victim : KvCacheKey) (removed : KvEntry), during.victim protectedKey = some victim →
          during.entries[victim]? = some removed →
          removed.bytes.toNat ≤ during.bytes.toNat) ∧
      ∀ key : KvCacheKey, ∃ view, ((cache.run calls).view key).1 = .ok view ∧
        ∀ v ∈ view, v.tokens.toNat = tokenTotal v.blocks := by
  have h : (cache.run calls).Invariant := (Invariant.new hnew).run calls
  refine ⟨h, ?_, fun key entry hentry => h.entry_bytes_le hentry, ?_, ?_⟩
  · rw [(Invariant.new hnew).run_capacityBytes, ← (new_eq_ok_iff.1 hnew).2]
  · intro protectedKey additional during hduring victim removed hvictim hremoved
    rw [bytes_eq_of_iterations hduring h.bytes_eq]
    exact OrderedMap.weight_le_total entryBytes hremoved
  · intro key
    cases hentry : (cache.run calls).entries[key]? with
    | none => exact ⟨none, by rw [view_of_none hentry], by simp⟩
    | some entry =>
      obtain ⟨tokens, htokens, hview⟩ := view_of_some h hentry
      exact ⟨_, by rw [hview], by simpa using htokens⟩

/-- The second append evicts the entry of the first, and the third fails. -/
theorem representation_invariant_evicting :
    ∃ cache, KvCache.new 100#64 = .ok cache ∧
      (cache.run [.append ⟨1#64, 0#32⟩ (.ofSizes 0#64 1#32 60#64),
        .append ⟨2#64, 0#32⟩ (.ofSizes 0#64 4#32 60#64),
        .append ⟨2#64, 0#32⟩ (.ofSizes 5#64 1#32 10#64)]).Invariant :=
  ⟨_, rfl, (representation_invariant (new_eq_ok_iff.2 ⟨by decide, rfl⟩) _).1⟩

end KvCache

end RiftGPU
