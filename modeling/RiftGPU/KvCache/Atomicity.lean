import RiftGPU.KvCache.Invariant

/-!
# Appends fail without effect

An append that fails leaves the whole cache as it was, and it fails exactly when one of six
conditions on the block and the current entry of its key holds. In particular the eviction loop,
which drops entries before it could fail, does not fail once the checks have passed.

## Main results

* `KvCache.append_isError_iff`: the conditions under which an append fails.
* `KvCache.append_atomic`: both statements, on every reachable cache.
-/

namespace RiftGPU

namespace KvCache

variable {cache : KvCache} {key : KvCacheKey} {block : KvBlock}

/-- A block that the cache must refuse under this key. -/
def Refused (cache : KvCache) (key : KvCacheKey) (block : KvBlock) : Prop :=
  block.tokenCount.toNat = 0 ∨ block.bytes.toNat = 0 ∨
    2 ^ 64 - 1 < block.tokenStart.toNat + block.tokenCount.toNat ∨
    cache.capacityBytes.toNat < block.bytes.toNat ∨
    block.tokenStart.toNat ≠ cache.endToken key ∨
    cache.capacityBytes.toNat < cache.currentBytes key + block.bytes.toNat

/-- The checks pass exactly when the block need not be refused. -/
theorem checkAppend_eq_ok_iff_not_refused (h : cache.Invariant) :
    cache.checkAppend key block = .ok () ↔ ¬cache.Refused key block := by
  rw [checkAppend_eq_ok_iff h, Refused]
  simp only [not_or]
  constructor
  · rintro ⟨⟨hcount, hbytes, hend⟩, hblock, hstart, hsize⟩
    exact ⟨hcount.ne', hbytes.ne', by omega, by omega, not_not.2 hstart, by omega⟩
  · rintro ⟨hcount, hbytes, hend, hblock, hstart, hsize⟩
    exact ⟨⟨Nat.pos_of_ne_zero hcount, Nat.pos_of_ne_zero hbytes, by omega⟩, by omega,
      not_not.1 hstart, by omega⟩

/-- An append fails exactly when its block must be refused. -/
theorem append_isError_iff (h : cache.Invariant) :
    (∃ e, (cache.append key block).1 = .error (.error e)) ↔ cache.Refused key block := by
  rw [← not_iff_not, ← checkAppend_eq_ok_iff_not_refused h]
  cases hcheck : cache.checkAppend key block with
  | error e => simp [append_of_check_error hcheck]
  | ok u =>
    obtain ⟨victims, kept, cache', hrun, -, -⟩ := append_spec h hcheck
    simp [hrun]

/-- A failing append does not panic and leaves the cache as it was. -/
theorem append_eq_error (h : cache.Invariant) {fault : Fault KvCacheError}
    (hfault : (cache.append key block).1 = .error fault) :
    (∃ e, fault = .error e) ∧ (cache.append key block).2 = cache := by
  cases hcheck : cache.checkAppend key block with
  | error e =>
    rw [append_of_check_error hcheck] at hfault ⊢
    exact ⟨⟨e, (Except.error.inj hfault).symm⟩, rfl⟩
  | ok u =>
    obtain ⟨victims, kept, cache', hrun, -, -⟩ := append_spec h hcheck
    rw [hrun] at hfault
    cases hfault

/-- **Atomicity of append.** On every reachable cache, an append fails exactly when its block must
be refused; when it fails, the complete cache is as before the call; and the eviction loop does
not fail in an append, so nothing is evicted in vain. -/
theorem append_atomic {capacityBytes : BitVec 64} (hnew : KvCache.new capacityBytes = .ok cache)
    (calls : List KvCacheCall) (key : KvCacheKey) (block : KvBlock) :
    ((∃ e, ((cache.run calls).append key block).1 = .error (.error e)) ↔
        (cache.run calls).Refused key block) ∧
      (∀ fault, ((cache.run calls).append key block).1 = .error fault →
        (∃ e, fault = .error e) ∧ ((cache.run calls).append key block).2 = cache.run calls) ∧
      ((cache.run calls).checkAppend key block = .ok () →
        ((cache.run calls).evictFor key block.bytes).1 = .ok ()) := by
  have h : (cache.run calls).Invariant := (Invariant.new hnew).run calls
  refine ⟨append_isError_iff h, fun fault hfault => append_eq_error h hfault, ?_⟩
  intro hcheck
  obtain ⟨victims, kept, cache', -, hevict, -⟩ := append_spec h hcheck
  exact hevict

/-- A second block that does not fit beside the first block of its key is refused. -/
theorem append_atomic_too_large :
    ∃ cache, KvCache.new 100#64 = .ok cache ∧
      ((∃ e, ((cache.run [.append ⟨1#64, 0#32⟩ (.ofSizes 0#64 1#32 60#64)]).append ⟨1#64, 0#32⟩
          (.ofSizes 1#64 1#32 60#64)).1 = .error (.error e)) ↔
        (cache.run [.append ⟨1#64, 0#32⟩ (.ofSizes 0#64 1#32 60#64)]).Refused ⟨1#64, 0#32⟩
          (.ofSizes 1#64 1#32 60#64)) :=
  ⟨_, rfl, (append_atomic (new_eq_ok_iff.2 ⟨by decide, rfl⟩) _ _ _).1⟩

end KvCache

end RiftGPU
