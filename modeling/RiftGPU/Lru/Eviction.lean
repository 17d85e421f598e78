import RiftGPU.Lru.OrderedMap

/-!
# Least-recently-used eviction

A cache keeps weighted entries under keys and stamps each entry when it is used. To make room for
an `additional` weight it drops entries, the one of least stamp first, while the total exceeds the
capacity. Only the entries whose key is a candidate may be dropped.

## Main definitions

* `Lru.Evicts`: a run of evictions, with its victims in order.
* `Lru.IsEvictionOrder`: the candidates of a map, in the order in which they are dropped.
* `Lru.IsQueue`: the candidates of a map, listed by strictly increasing stamp.
* `Lru.weightBefore`: the weight of the candidates that are dropped before an entry.

## Main results

* `Lru.Evicts.getElem?_eq`: what a run of evictions leaves in the map.
* `Lru.Evicts.total_eq`: a run of evictions removes exactly the weight of its victims.
* `Lru.exists_isEvictionOrder`, `Lru.Evicts.isEvictionOrder_drop`: the victims are the shortest
  sufficient prefix of the order, for stamps that need not be distinct.
* `Lru.Evicts.isQueue_drop`, `Lru.Evicts.keys_take`: the same for queues.
* `Lru.Evicts.survives_iff`: which candidates are left.
-/

namespace Lru

open OrderedMap
open Std (ExtTreeMap TransOrd LawfulEqOrd)

variable {K V : Type} [Ord K] [TransOrd K] [LawfulEqOrd K]
variable {weight stamp : V → ℕ} {p : K → Bool} {capacity additional : ℕ}
variable {m m' : ExtTreeMap K V} {victims : List (K × V)} {k : K} {v : V}

variable (weight stamp p capacity additional) in
/-- From `m`, the entries `victims` are dropped in this order, each while the total and
`additional` exceed the capacity, which leaves `m'`. -/
inductive Evicts : ExtTreeMap K V → List (K × V) → ExtTreeMap K V → Prop
  | refl (m : ExtTreeMap K V) : Evicts m [] m
  | evict {m m' : ExtTreeMap K V} {e : K × V} {victims : List (K × V)}
      (hover : capacity < total weight m + additional) (he : leastBy stamp p m = some e)
      (hrest : Evicts (m.erase e.1) victims m') : Evicts m (e :: victims) m'

namespace Evicts

/-- The entries that are left are those that were there and are not victims. -/
theorem getElem?_eq [DecidableEq K] (h : Evicts weight stamp p capacity additional m victims m')
    (k : K) : m'[k]? = if k ∈ victims.map Prod.fst then none else m[k]? := by
  induction h with
  | refl m => simp
  | @evict m m' e victims hover he hrest ih =>
    rw [ih, List.map_cons]
    by_cases hk : k = e.1
    · simp [hk]
    · simp only [List.mem_cons, hk, false_or, getElem?_erase_of_ne hk]

/-- An entry under a key that is no candidate is untouched. -/
theorem getElem?_of_not (h : Evicts weight stamp p capacity additional m victims m')
    (hp : p k = false) : m'[k]? = m[k]? := by
  induction h with
  | refl m => rfl
  | @evict m m' e victims hover he hrest ih =>
    have hne : k ≠ e.1 := by
      rintro rfl
      rw [(getElem?_of_leastBy he).2] at hp
      cases hp
    rw [ih, getElem?_erase_of_ne hne]

/-- No entry is new. -/
theorem getElem?_of_eq_some (h : Evicts weight stamp p capacity additional m victims m')
    (hv : m'[k]? = some v) : m[k]? = some v := by
  induction h with
  | refl m => exact hv
  | @evict m m' e victims hover he hrest ih => exact (getElem?_erase_eq_some_iff.1 (ih hv)).2

/-- The weight that is gone is that of the victims. -/
theorem total_eq (h : Evicts weight stamp p capacity additional m victims m') :
    total weight m = (victims.map fun e => weight e.2).sum + total weight m' := by
  induction h with
  | refl m => simp
  | @evict m m' e victims hover he hrest ih =>
    rw [total_eq_add_erase weight (getElem?_of_leastBy he).1, ih, List.map_cons, List.sum_cons,
      Nat.add_assoc]

/-- One entry is gone for each victim. -/
theorem size_eq (h : Evicts weight stamp p capacity additional m victims m') :
    m.size = victims.length + m'.size := by
  induction h with
  | refl m => simp
  | @evict m m' e victims hover he hrest ih =>
    have := size_erase_add_one (getElem?_of_leastBy he).1
    rw [List.length_cons]
    omega

end Evicts

/-- When every key but one is a candidate and no candidate is left, the map weighs what the entry
under that key weighs. -/
theorem total_eq_of_leastBy_eq_none [DecidableEq K] (weight : V → ℕ)
    (h : leastBy stamp (fun k' => k' != k) m = none) :
    total weight m = m[k]?.elim 0 weight := by
  have hother : ∀ k', k' ≠ k → m[k']? = none := by
    intro k' hk'
    exact leastBy_eq_none_iff.1 h k' (by simpa using hk')
  have herase : m.erase k = ∅ := by
    refine ExtTreeMap.ext_getElem? fun k' => ?_
    by_cases hk : k' = k
    · simp [hk]
    · rw [getElem?_erase_of_ne hk, hother k' hk]
      simp
  cases hk : m[k]? with
  | none =>
    rw [← erase_of_getElem?_eq_none hk, herase]
    simp
  | some v =>
    rw [total_eq_add_erase weight hk, herase]
    simp

/-! ### The order in which candidates are dropped -/

variable (stamp) in
/-- The entry `a` is dropped before the entry `b`: it has a lesser stamp, or the same stamp and a
lesser key. -/
def Precedes (a b : K × V) : Prop :=
  stamp a.2 < stamp b.2 ∨ stamp a.2 = stamp b.2 ∧ compare a.1 b.1 = .lt

instance (a b : K × V) : Decidable (Precedes stamp a b) := inferInstanceAs (Decidable (_ ∨ _))

omit [LawfulEqOrd K] in
theorem Precedes.asymm {a b : K × V} (h : Precedes stamp a b) : ¬Precedes stamp b a := by
  rintro (hlt | ⟨heq, hcompare⟩) <;> rcases h with hlt' | ⟨heq', hcompare'⟩
  · omega
  · omega
  · omega
  · exact Std.OrientedCmp.not_lt_of_lt hcompare hcompare'

omit [LawfulEqOrd K] in
theorem Precedes.irrefl (a : K × V) : ¬Precedes stamp a a := fun h => h.asymm h

variable (stamp p) in
/-- The list `xs` holds the candidates of `m`, in the order in which they are dropped. -/
structure IsEvictionOrder (m : ExtTreeMap K V) (xs : List (K × V)) : Prop where
  mem_iff : ∀ e, e ∈ xs ↔ m[e.1]? = some e.2 ∧ p e.1
  sorted : xs.Pairwise (Precedes stamp)

namespace IsEvictionOrder

variable {xs : List (K × V)} {e : K × V}

/-- The first candidate is the least entry. -/
theorem leastBy_eq (h : IsEvictionOrder stamp p m (e :: xs)) : leastBy stamp p m = some e := by
  obtain ⟨he, hp⟩ := (h.mem_iff e).1 (List.mem_cons_self ..)
  cases hl : leastBy stamp p m with
  | none =>
    rw [leastBy_eq_none_iff.1 hl e.1 hp] at he
    cases he
  | some e' =>
    obtain ⟨he', hp'⟩ := getElem?_of_leastBy hl
    rcases List.mem_cons.1 ((h.mem_iff e').2 ⟨he', hp'⟩) with rfl | hmem
    · rfl
    · have hprecedes := (List.pairwise_cons.1 h.sorted).1 e' hmem
      by_cases hkey : e.1 = e'.1
      · rw [hkey, he', Option.some.injEq] at he
        rw [Prod.ext hkey he.symm]
      · exact absurd (compare_of_leastBy hl he hp hkey) hprecedes.asymm

/-- Without the first candidate, the rest is the order of the remaining entries. -/
theorem erase (h : IsEvictionOrder stamp p m (e :: xs)) :
    IsEvictionOrder stamp p (m.erase e.1) xs where
  mem_iff e' := by
    obtain ⟨he, -⟩ := (h.mem_iff e).1 (List.mem_cons_self ..)
    have hfirst := (List.pairwise_cons.1 h.sorted).1
    rw [getElem?_erase_eq_some_iff]
    constructor
    · intro he'
      obtain ⟨hsome, hp⟩ := (h.mem_iff e').1 (List.mem_cons_of_mem _ he')
      refine ⟨⟨fun hkey => ?_, hsome⟩, hp⟩
      rw [hkey, he, Option.some.injEq] at hsome
      have hprecedes := hfirst e' he'
      rw [Prod.ext hkey hsome.symm] at hprecedes
      exact Precedes.irrefl e hprecedes
    · rintro ⟨⟨hne, hsome⟩, hp⟩
      rcases List.mem_cons.1 ((h.mem_iff e').2 ⟨hsome, hp⟩) with rfl | he'
      · exact absurd rfl hne
      · exact he'
  sorted := (List.pairwise_cons.1 h.sorted).2

/-- When every key is a candidate, the map weighs what its candidates weigh. -/
theorem total_eq (h : IsEvictionOrder stamp (fun _ => true) m xs) (weight : V → ℕ) :
    total weight m = (xs.map fun e => weight e.2).sum := by
  have hnodup : xs.Nodup := by
    refine h.sorted.imp fun {a b} hprecedes heq => ?_
    rw [heq] at hprecedes
    exact Precedes.irrefl b hprecedes
  have hperm : m.toList.Perm xs := by
    rw [List.perm_ext_iff_of_nodup (nodup_toList m) hnodup]
    intro e
    rw [mem_toList_iff, h.mem_iff, and_iff_left rfl]
  exact (hperm.map _).sum_nat

end IsEvictionOrder

variable (stamp p) in
/-- The candidates of a map can be listed in the order in which they are dropped. -/
theorem exists_isEvictionOrder (m : ExtTreeMap K V) : ∃ xs, IsEvictionOrder stamp p m xs := by
  induction hsize : m.size using Nat.strong_induction_on generalizing m with
  | _ n ih =>
    cases hl : leastBy stamp p m with
    | none =>
      refine ⟨[], fun e => ?_, .nil⟩
      simp only [List.not_mem_nil, false_iff, not_and]
      intro he hp
      rw [leastBy_eq_none_iff.1 hl e.1 hp] at he
      cases he
    | some e =>
      obtain ⟨he, hp⟩ := getElem?_of_leastBy hl
      have hsmaller := size_erase_add_one he
      obtain ⟨xs, hxs⟩ := ih (m.erase e.1).size (by omega) (m.erase e.1) rfl
      refine ⟨e :: xs, fun e' => ?_, List.pairwise_cons.2 ⟨fun e' he' => ?_, hxs.sorted⟩⟩
      · rw [List.mem_cons, hxs.mem_iff, getElem?_erase_eq_some_iff]
        constructor
        · rintro (rfl | ⟨⟨-, hsome⟩, hp'⟩)
          · exact ⟨he, hp⟩
          · exact ⟨hsome, hp'⟩
        · rintro ⟨hsome, hp'⟩
          by_cases hkey : e'.1 = e.1
          · rw [hkey, he, Option.some.injEq] at hsome
            exact .inl (Prod.ext hkey hsome.symm)
          · exact .inr ⟨⟨hkey, hsome⟩, hp'⟩
      · obtain ⟨hsome, hp'⟩ := (hxs.mem_iff e').1 he'
        obtain ⟨hne, hsome⟩ := getElem?_erase_eq_some_iff.1 hsome
        exact compare_of_leastBy hl hsome hp' hne

/-- **The victims are the shortest sufficient prefix of the order**: they are a prefix, the order
of what is left is the rest, and after any shorter prefix the total still exceeds the
capacity. -/
theorem Evicts.isEvictionOrder_drop
    (h : Evicts weight stamp p capacity additional m victims m') {xs : List (K × V)}
    (hxs : IsEvictionOrder stamp p m xs) :
    victims = xs.take victims.length ∧ IsEvictionOrder stamp p m' (xs.drop victims.length) ∧
      ∀ i < victims.length,
        capacity + ((xs.take i).map fun e => weight e.2).sum < total weight m + additional := by
  induction h generalizing xs with
  | refl m => exact ⟨by simp, hxs, by simp⟩
  | @evict m m' e victims hover he hrest ih =>
    obtain ⟨hsome, hp⟩ := getElem?_of_leastBy he
    cases xs with
    | nil => cases (hxs.mem_iff e).2 ⟨hsome, hp⟩
    | cons x xs =>
      obtain rfl : x = e := Option.some.inj (hxs.leastBy_eq.symm.trans he)
      obtain ⟨htake, horder, hshort⟩ := ih hxs.erase
      refine ⟨?_, ?_, ?_⟩
      · rw [List.length_cons, List.take_succ_cons, ← htake]
      · rwa [List.length_cons, List.drop_succ_cons]
      · intro i hi
        cases i with
        | zero => simpa using hover
        | succ i =>
          have := hshort i (by simpa using hi)
          rw [total_eq_add_erase weight hsome, List.take_succ_cons, List.map_cons, List.sum_cons]
          omega

/-! ### The queue of candidates -/

variable (stamp p) in
/-- The list `xs` holds the candidates of `m`, by strictly increasing stamp. -/
structure IsQueue (m : ExtTreeMap K V) (xs : List (K × V)) : Prop where
  mem_iff : ∀ e, e ∈ xs ↔ m[e.1]? = some e.2 ∧ p e.1
  sorted : xs.Pairwise fun a b => stamp a.2 < stamp b.2

omit [LawfulEqOrd K] in
theorem IsQueue.isEvictionOrder {xs : List (K × V)} (h : IsQueue stamp p m xs) :
    IsEvictionOrder stamp p m xs :=
  ⟨h.mem_iff, h.sorted.imp .inl⟩

/-- Candidates with distinct stamps form a queue. -/
theorem exists_isQueue (hinj : ∀ e e' : K × V, m[e.1]? = some e.2 → m[e'.1]? = some e'.2 →
    p e.1 → p e'.1 → stamp e.2 = stamp e'.2 → e = e') : ∃ xs, IsQueue stamp p m xs := by
  obtain ⟨xs, hxs⟩ := exists_isEvictionOrder stamp p m
  refine ⟨xs, hxs.mem_iff, hxs.sorted.imp_of_mem fun {a b} ha hb hprecedes => ?_⟩
  obtain ⟨ha, hpa⟩ := (hxs.mem_iff a).1 ha
  obtain ⟨hb, hpb⟩ := (hxs.mem_iff b).1 hb
  rcases id hprecedes with hlt | ⟨heq, -⟩
  · exact hlt
  · rw [hinj a b ha hb hpa hpb heq] at hprecedes
    exact absurd hprecedes (Precedes.irrefl b)

/-- The victims are the shortest sufficient prefix of the queue. -/
theorem Evicts.isQueue_drop (h : Evicts weight stamp p capacity additional m victims m')
    {xs : List (K × V)} (hxs : IsQueue stamp p m xs) :
    victims = xs.take victims.length ∧ IsQueue stamp p m' (xs.drop victims.length) ∧
      ∀ i < victims.length,
        capacity + ((xs.take i).map fun e => weight e.2).sum < total weight m + additional := by
  obtain ⟨htake, horder, hshort⟩ := h.isEvictionOrder_drop hxs.isEvictionOrder
  exact ⟨htake, ⟨horder.mem_iff, hxs.sorted.sublist (List.drop_sublist _ _)⟩, hshort⟩

/-- The same in terms of the keys of the queue, for a function that weighs them. -/
theorem Evicts.keys_take [DecidableEq K]
    (h : Evicts weight stamp p capacity additional m victims m') {xs : List (K × V)}
    (hxs : IsQueue stamp p m xs) (weightAt : K → ℕ)
    (hweight : ∀ e ∈ xs, weightAt e.1 = weight e.2) :
    victims.length ≤ (xs.map Prod.fst).length ∧
      total weight m =
        (((xs.map Prod.fst).take victims.length).map weightAt).sum + total weight m' ∧
      (∀ i < victims.length,
        capacity + (((xs.map Prod.fst).take i).map weightAt).sum < total weight m + additional) ∧
      ∀ k, m'[k]? = if k ∈ (xs.map Prod.fst).take victims.length then none else m[k]? := by
  obtain ⟨htake, -, hshort⟩ := h.isQueue_drop hxs
  have hsum (i : ℕ) : ((xs.map Prod.fst).take i).map weightAt =
      (xs.take i).map fun e => weight e.2 := by
    rw [← List.map_take, List.map_map]
    exact List.map_congr_left fun e he => hweight e (List.mem_of_mem_take he)
  refine ⟨?_, ?_, fun i hi => ?_, fun k => ?_⟩
  · have hlength := congrArg List.length htake
    rw [List.length_take] at hlength
    rw [List.length_map]
    omega
  · rw [hsum, ← htake]
    exact h.total_eq
  · rw [hsum]
    exact hshort i hi
  · rw [h.getElem?_eq, ← List.map_take, ← htake]

/-! ### Which candidates survive -/

variable (weight stamp p) in
/-- The weight of the candidates that are dropped before an entry. -/
def weightBefore (m : ExtTreeMap K V) (e : K × V) : ℕ :=
  ((m.toList.filter fun a => p a.1 && decide (Precedes stamp a e)).map fun a => weight a.2).sum

variable {a e : K × V}

theorem weightBefore_eq_add_erase (ha : m[a.1]? = some a.2) (hp : p a.1)
    (hprecedes : Precedes stamp a e) :
    weightBefore weight stamp p m e =
      weight a.2 + weightBefore weight stamp p (m.erase a.1) e := by
  unfold weightBefore
  rw [(((toList_perm_cons_erase ha).filter _).map _).sum_nat, List.filter_cons_of_pos,
    List.map_cons, List.sum_cons]
  simp [hp, hprecedes]

/-- Nothing is dropped before the least entry. -/
theorem weightBefore_of_leastBy (h : leastBy stamp p m = some e) :
    weightBefore weight stamp p m e = 0 := by
  have hnone : (m.toList.filter fun a => p a.1 && decide (Precedes stamp a e)) = [] := by
    rw [List.filter_eq_nil_iff]
    intro a ha
    rw [Bool.and_eq_true, decide_eq_true_eq]
    rintro ⟨hp, hprecedes⟩
    rw [mem_toList_iff] at ha
    by_cases hkey : a.1 = e.1
    · have hvalue : a.2 = e.2 := by
        rw [hkey, (getElem?_of_leastBy h).1] at ha
        exact (Option.some.inj ha).symm
      rw [Prod.ext hkey hvalue] at hprecedes
      exact Precedes.irrefl e hprecedes
    · exact hprecedes.asymm (compare_of_leastBy h ha hp hkey)
  rw [weightBefore, hnone, List.map_nil, List.sum_nil]

/-- **Which candidates survive.** When the evictions stop because the rest fits, a candidate is left
exactly when the candidates that are dropped before it make enough room. -/
theorem Evicts.survives_iff (h : Evicts weight stamp p capacity additional m victims m')
    (hfits : total weight m' + additional ≤ capacity) (he : m[e.1]? = some e.2) (hp : p e.1) :
    m'[e.1]? = some e.2 ↔
      total weight m + additional ≤ capacity + weightBefore weight stamp p m e := by
  induction h with
  | refl m => exact iff_of_true he (hfits.trans (Nat.le_add_right _ _))
  | @evict m m' a victims hover ha hrest ih =>
    obtain ⟨hsome, hpa⟩ := getElem?_of_leastBy ha
    by_cases hkey : e.1 = a.1
    · obtain rfl : e = a := by
        rw [hkey, hsome] at he
        exact Prod.ext hkey (Option.some.inj he).symm
      rw [weightBefore_of_leastBy ha]
      refine iff_of_false (fun hleft => ?_) (by omega)
      have herased := hrest.getElem?_of_eq_some hleft
      rw [getElem?_erase_eq_some_iff] at herased
      exact herased.1 rfl
    · have hprecedes : Precedes stamp a e := compare_of_leastBy ha he hp hkey
      rw [ih hfits (by rwa [getElem?_erase_of_ne hkey]), total_eq_add_erase weight hsome,
        weightBefore_eq_add_erase hsome hpa hprecedes]
      omega

end Lru
