import RiftGPU.Lru.Eviction

/-!
# Stamps and times of last use

A cache stamps an entry with the value of a clock when the entry is used. When the clock never runs
backwards and advances with every use, the stamps order the entries as the times of their last use
in a history do, whatever else happened in between.

## Main definitions

* `Lru.Stamped`: the stamps of a map are ordered as the last uses of its keys are.

## Main results

* `Lru.Stamped.of_subset`, `Lru.Stamped.of_use`: removals and uses keep the order.
* `Lru.Stamped.lastUse_of_isEvictionOrder`: candidates are dropped in the order of their last use.
* `Lru.Stamped.exists_isQueue`, `Lru.Stamped.sorted_lastUse`: the candidates form a queue, in the
  order of their last use.
-/

namespace Lru

open OrderedMap
open Std (ExtTreeMap TransOrd LawfulEqOrd)

variable {K V : Type} [Ord K] [TransOrd K] [LawfulEqOrd K]
variable {stamp : V → ℕ} {m m' : ExtTreeMap K V} {clock clock' : ℕ} {lastUse lastUse' : K → ℕ}

variable (stamp) in
/-- Stamps do not exceed the clock, and are ordered as the last uses of their keys are. -/
structure Stamped (m : ExtTreeMap K V) (clock : ℕ) (lastUse : K → ℕ) : Prop where
  le_clock : ∀ (k : K) (v : V), m[k]? = some v → stamp v ≤ clock
  ordered : ∀ (k₁ k₂ : K) (v₁ v₂ : V), m[k₁]? = some v₁ → m[k₂]? = some v₂ → k₁ ≠ k₂ →
    stamp v₁ < stamp v₂ ∧ lastUse k₁ < lastUse k₂ ∨ stamp v₂ < stamp v₁ ∧ lastUse k₂ < lastUse k₁

namespace Stamped

omit [LawfulEqOrd K] in
/-- Removals keep the order, as does the clock when it advances. -/
theorem of_subset (h : Stamped stamp m clock lastUse)
    (hsub : ∀ (k : K) (v : V), m'[k]? = some v → m[k]? = some v) (hclock : clock ≤ clock')
    (huse : lastUse' = lastUse) : Stamped stamp m' clock' lastUse' where
  le_clock k v hv := (h.le_clock k v (hsub k v hv)).trans hclock
  ordered k₁ k₂ v₁ v₂ h₁ h₂ hne := by
    rw [huse]
    exact h.ordered k₁ k₂ v₁ v₂ (hsub k₁ v₁ h₁) (hsub k₂ v₂ h₂) hne

omit [LawfulEqOrd K] in
/-- The use of one key, whose entry is stamped with the advanced clock, keeps the order. -/
theorem of_use (h : Stamped stamp m clock lastUse) {k : K} {v : V} (hv : m'[k]? = some v)
    (hstamp : stamp v = clock') (hclock : clock < clock')
    (hsub : ∀ (k' : K) (v' : V), k' ≠ k → m'[k']? = some v' → m[k']? = some v')
    (huse : ∀ k', k' ≠ k → lastUse' k' = lastUse k' ∧ lastUse k' < lastUse' k) :
    Stamped stamp m' clock' lastUse' where
  le_clock k' v' hv' := by
    by_cases hk : k' = k
    · rw [hk, hv, Option.some.injEq] at hv'
      rw [← hv', hstamp]
    · exact (h.le_clock k' v' (hsub k' v' hk hv')).trans hclock.le
  ordered k₁ k₂ v₁ v₂ h₁ h₂ hne := by
    -- the used key is the latest both in stamp and in time
    have hlatest : ∀ (k' : K) (v' : V), k' ≠ k → m'[k']? = some v' →
        stamp v' < stamp v ∧ lastUse' k' < lastUse' k := by
      intro k' v' hk hv'
      have hle := h.le_clock k' v' (hsub k' v' hk hv')
      obtain ⟨hsame, hlt⟩ := huse k' hk
      exact ⟨hstamp ▸ hle.trans_lt hclock, hsame ▸ hlt⟩
    by_cases hk₁ : k₁ = k
    · rw [hk₁, hv, Option.some.injEq] at h₁
      rw [← h₁, hk₁]
      exact .inr (hlatest k₂ v₂ (fun hk₂ => hne (hk₁.trans hk₂.symm)) h₂)
    · by_cases hk₂ : k₂ = k
      · rw [hk₂, hv, Option.some.injEq] at h₂
        rw [← h₂, hk₂]
        exact .inl (hlatest k₁ v₁ hk₁ h₁)
      · rw [(huse k₁ hk₁).1, (huse k₂ hk₂).1]
        exact h.ordered k₁ k₂ v₁ v₂ (hsub k₁ v₁ hk₁ h₁) (hsub k₂ v₂ hk₂ h₂) hne

/-- Entries with ordered stamps form a queue. -/
theorem exists_isQueue [DecidableEq K] (h : Stamped stamp m clock lastUse) (p : K → Bool) :
    ∃ xs, IsQueue stamp p m xs := by
  refine Lru.exists_isQueue fun e e' he he' _ _ hstamp => ?_
  by_cases hk : e.1 = e'.1
  · rw [hk, he', Option.some.injEq] at he
    exact Prod.ext hk he.symm
  · have := h.ordered e.1 e'.1 e.2 e'.2 he he' hk
    omega

omit [LawfulEqOrd K] in
/-- Candidates are dropped in the order of their last use. -/
theorem lastUse_of_isEvictionOrder (h : Stamped stamp m clock lastUse) {p : K → Bool}
    {xs : List (K × V)} (hxs : IsEvictionOrder stamp p m xs) :
    xs.Pairwise fun a b => lastUse a.1 < lastUse b.1 := by
  refine hxs.sorted.imp_of_mem fun {a b} ha hb hprecedes => ?_
  obtain ⟨ha, -⟩ := (hxs.mem_iff a).1 ha
  obtain ⟨hb, -⟩ := (hxs.mem_iff b).1 hb
  have hne : a.1 ≠ b.1 := by
    intro hk
    rw [hk, hb, Option.some.injEq] at ha
    rw [Prod.ext hk ha.symm] at hprecedes
    exact Precedes.irrefl b hprecedes
  have hle : stamp a.2 ≤ stamp b.2 := hprecedes.elim le_of_lt fun heq => heq.1.le
  rcases h.ordered a.1 b.1 a.2 b.2 ha hb hne with ⟨-, huse⟩ | ⟨hstamp, -⟩
  · exact huse
  · omega

omit [LawfulEqOrd K] in
/-- A queue lists its keys by their last use. -/
theorem sorted_lastUse (h : Stamped stamp m clock lastUse) {p : K → Bool} {xs : List (K × V)}
    (hxs : IsQueue stamp p m xs) :
    (xs.map Prod.fst).Pairwise fun k₁ k₂ => lastUse k₁ < lastUse k₂ := by
  rw [List.pairwise_map]
  exact h.lastUse_of_isEvictionOrder hxs.isEvictionOrder

end Stamped

end Lru
