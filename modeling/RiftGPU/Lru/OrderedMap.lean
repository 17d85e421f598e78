import Mathlib.Algebra.Ring.Nat
import Mathlib.Data.List.MinMax
import Mathlib.Data.List.Perm.Basic

/-!
# Sums and minima over an ordered map

An ordered map is enumerated in the order of its keys. This file relates the enumerations of a
map before and after an insertion or a removal, and derives how sums over the entries change.

## Main definitions

* `OrderedMap.total`: the sum of a weight over the entries.
* `OrderedMap.leastBy`: the first entry of least stamp among those whose key is a candidate.

## Main results

* `OrderedMap.toList_perm_cons_erase`, `OrderedMap.toList_insert_perm`.
* `OrderedMap.exists_of_getElem?_foldlM_insert`, `OrderedMap.getElem?_foldlM_insert`: the map that
  a loop of insertions builds, under any keys and under distinct ones.
* `OrderedMap.total_eq_add_erase`, `OrderedMap.total_insert`.
* `OrderedMap.compare_of_leastBy`: the least entry comes first.
-/

namespace OrderedMap

open Std (ExtTreeMap TransOrd LawfulEqOrd ReflOrd)

variable {K V : Type} [Ord K] [TransOrd K] [LawfulEqOrd K]
variable {m : ExtTreeMap K V} {k : K} {v : V}

theorem nodup_toList (m : ExtTreeMap K V) : m.toList.Nodup := by
  refine m.distinct_keys_toList.imp fun {a b} hne heq => hne ?_
  rw [heq]
  exact ReflOrd.compare_self

theorem mem_toList_iff {e : K × V} : e ∈ m.toList ↔ m[e.1]? = some e.2 :=
  ExtTreeMap.mem_toList_iff_getElem?_eq_some

theorem getElem?_erase_of_ne {k' : K} (h : k' ≠ k) : (m.erase k)[k']? = m[k']? := by
  rw [ExtTreeMap.getElem?_erase, if_neg]
  exact fun hc => h (LawfulEqOrd.eq_of_compare hc).symm

theorem getElem?_insert_of_ne {k' : K} (h : k' ≠ k) : (m.insert k v)[k']? = m[k']? := by
  rw [ExtTreeMap.getElem?_insert, if_neg]
  exact fun hc => h (LawfulEqOrd.eq_of_compare hc).symm

theorem getElem?_erase_eq_some_iff {k' : K} :
    (m.erase k)[k']? = some v ↔ k' ≠ k ∧ m[k']? = some v := by
  by_cases h : k' = k
  · subst h
    simp
  · simp [h, getElem?_erase_of_ne h]

/-- The enumeration of a map, with one entry moved to the front. -/
theorem toList_perm_cons_erase (h : m[k]? = some v) :
    m.toList.Perm ((k, v) :: (m.erase k).toList) := by
  have hnot : (k, v) ∉ (m.erase k).toList := by
    rw [mem_toList_iff, getElem?_erase_eq_some_iff]
    simp
  rw [List.perm_ext_iff_of_nodup (nodup_toList m) (List.nodup_cons.2 ⟨hnot, nodup_toList _⟩)]
  rintro ⟨k', v'⟩
  rw [List.mem_cons, mem_toList_iff, mem_toList_iff, getElem?_erase_eq_some_iff, Prod.mk.injEq]
  by_cases hk : k' = k
  · subst hk
    simp [h, eq_comm]
  · simp [hk]

theorem erase_insert_self (m : ExtTreeMap K V) (k : K) (v : V) :
    (m.insert k v).erase k = m.erase k := by
  refine ExtTreeMap.ext_getElem? fun k' => ?_
  rw [ExtTreeMap.getElem?_erase, ExtTreeMap.getElem?_insert, ExtTreeMap.getElem?_erase]
  split_ifs <;> rfl

theorem erase_of_getElem?_eq_none (h : m[k]? = none) : m.erase k = m := by
  refine ExtTreeMap.ext_getElem? fun k' => ?_
  by_cases hk : k' = k
  · rw [hk, ExtTreeMap.getElem?_erase_self, h]
  · exact getElem?_erase_of_ne hk

/-- The enumeration of a map after an insertion, with the new entry at the front. -/
theorem toList_insert_perm (m : ExtTreeMap K V) (k : K) (v : V) :
    (m.insert k v).toList.Perm ((k, v) :: (m.erase k).toList) := by
  have h := toList_perm_cons_erase (m := m.insert k v) ExtTreeMap.getElem?_insert_self
  rwa [erase_insert_self] at h

theorem size_erase_add_one (h : m[k]? = some v) : (m.erase k).size + 1 = m.size := by
  have := (toList_perm_cons_erase h).length_eq
  simpa [ExtTreeMap.length_toList] using this.symm

/-- The keys of `m` that are not keys of `m'`. -/
def missingKeys (m m' : ExtTreeMap K V) : List K := m.keys.filter fun k => !m'.contains k

theorem mem_missingKeys_iff {m' : ExtTreeMap K V} :
    k ∈ missingKeys m m' ↔ m[k]? ≠ none ∧ m'[k]? = none := by
  rw [missingKeys, List.mem_filter, ExtTreeMap.mem_keys, Bool.not_eq_true',
    ExtTreeMap.contains_eq_isSome_getElem?, ExtTreeMap.mem_iff_isSome_getElem?,
    Option.isSome_eq_false_iff, Option.isNone_iff_eq_none, Option.isSome_iff_ne_none]

omit [LawfulEqOrd K] in
/-- A loop of insertions that succeeds has computed a value for each element. -/
theorem exists_of_foldlM_insert {X ε : Type} {key : X → K} {f : X → Except ε V} {xs : List X}
    {m m' : ExtTreeMap K V}
    (h : xs.foldlM (fun m x => do let v ← f x; return m.insert (key x) v) m = .ok m') :
    ∀ x ∈ xs, ∃ v, f x = .ok v := by
  induction xs generalizing m with
  | nil => simp
  | cons x xs ih =>
    cases hf : f x with
    | error e => simp [hf, bind, Except.bind] at h
    | ok w =>
      intro y hy
      rcases List.mem_cons.1 hy with rfl | hy
      · exact ⟨w, hf⟩
      · exact ih (by simpa [hf, bind, Except.bind, pure, Except.pure] using h) y hy

omit [LawfulEqOrd K] in
/-- A loop of insertions succeeds when a value can be computed for each element. -/
theorem exists_foldlM_insert_eq_ok {X ε : Type} (key : X → K) {f : X → Except ε V} (xs : List X)
    (hf : ∀ x ∈ xs, ∃ v, f x = .ok v) (m : ExtTreeMap K V) :
    ∃ m', xs.foldlM (fun m x => do let v ← f x; return m.insert (key x) v) m = .ok m' := by
  induction xs generalizing m with
  | nil => exact ⟨m, rfl⟩
  | cons x xs ih =>
    rw [List.forall_mem_cons] at hf
    obtain ⟨w, hw⟩ := hf.1
    obtain ⟨m', hm'⟩ := ih hf.2 (m.insert (key x) w)
    exact ⟨m', by rw [List.foldlM_cons, hw]; exact hm'⟩

/-- An entry of the map that a loop of insertions builds was there before, or is the computed value
of an element with its key. -/
theorem exists_of_getElem?_foldlM_insert {X ε : Type} {key : X → K} {f : X → Except ε V}
    {xs : List X} {m m' : ExtTreeMap K V}
    (h : xs.foldlM (fun m x => do let v ← f x; return m.insert (key x) v) m = .ok m')
    (hk : m'[k]? = some v) : (∃ x ∈ xs, key x = k ∧ f x = .ok v) ∨ m[k]? = some v := by
  induction xs generalizing m with
  | nil =>
    obtain rfl : m = m' := by simpa [pure, Except.pure] using h
    exact .inr hk
  | cons x xs ih =>
    cases hf : f x with
    | error e => simp [hf, bind, Except.bind] at h
    | ok w =>
      rcases ih (m := m.insert (key x) w)
        (by simpa [hf, bind, Except.bind, pure, Except.pure] using h) with
        ⟨y, hy, hkey, hv⟩ | hold
      · exact .inl ⟨y, List.mem_cons_of_mem x hy, hkey, hv⟩
      · by_cases hx : key x = k
        · rw [← hx, ExtTreeMap.getElem?_insert_self] at hold
          exact .inl ⟨x, List.mem_cons_self, hx, hf.trans (congrArg _ (Option.some.inj hold))⟩
        · rw [getElem?_insert_of_ne (Ne.symm hx)] at hold
          exact .inr hold

omit [LawfulEqOrd K] in
/-- The entry that a loop of insertions makes last is in the map that it builds. -/
theorem exists_mem_of_foldlM_insert {X ε : Type} {key : X → K} {f : X → Except ε V} {xs : List X}
    {m m' : ExtTreeMap K V} (hne : xs ≠ [])
    (h : xs.foldlM (fun m x => do let v ← f x; return m.insert (key x) v) m = .ok m') :
    ∃ x ∈ xs, ∃ v, m'[key x]? = some v := by
  induction xs generalizing m with
  | nil => exact absurd rfl hne
  | cons x xs ih =>
    cases hf : f x with
    | error e => simp [hf, bind, Except.bind] at h
    | ok w =>
      have hrest : xs.foldlM (fun m x => do let v ← f x; return m.insert (key x) v)
          (m.insert (key x) w) = .ok m' := by
        simpa [hf, bind, Except.bind, pure, Except.pure] using h
      by_cases hxs : xs = []
      · subst hxs
        obtain rfl : m.insert (key x) w = m' := by simpa [pure, Except.pure] using hrest
        exact ⟨x, List.mem_cons_self, w, ExtTreeMap.getElem?_insert_self⟩
      · obtain ⟨y, hy, hv⟩ := ih hxs hrest
        exact ⟨y, List.mem_cons_of_mem x hy, hv⟩

/-- The map that a loop builds by inserting a computed value for each element of a list, under
distinct keys. -/
theorem getElem?_foldlM_insert {X ε : Type} {key : X → K} {f : X → Except ε V} {xs : List X}
    {m m' : ExtTreeMap K V} (hnodup : (xs.map key).Nodup)
    (h : xs.foldlM (fun m x => do let v ← f x; return m.insert (key x) v) m = .ok m') (k : K)
    (v : V) : m'[k]? = some v ↔
      (∃ x ∈ xs, key x = k ∧ f x = .ok v) ∨ (∀ x ∈ xs, key x ≠ k) ∧ m[k]? = some v := by
  induction xs generalizing m with
  | nil =>
    obtain rfl : m = m' := by simpa [pure, Except.pure] using h
    simp
  | cons x xs ih =>
    rw [List.map_cons, List.nodup_cons] at hnodup
    cases hf : f x with
    | error e => simp [hf, bind, Except.bind] at h
    | ok w =>
      have hrest := ih (m := m.insert (key x) w) hnodup.2
        (by simpa [hf, bind, Except.bind, pure, Except.pure] using h)
      rw [hrest]
      by_cases hk : key x = k
      · have hnot : ∀ y ∈ xs, key y ≠ k := by
          rintro y hy rfl
          exact hnodup.1 (hk ▸ List.mem_map_of_mem hy)
        have hnone : ¬∃ y ∈ xs, key y = k ∧ f y = .ok v := by
          rintro ⟨y, hy, hkey, -⟩
          exact hnot y hy hkey
        rw [← hk, ExtTreeMap.getElem?_insert_self, hk]
        simpa [hnone, hk, hf] using fun _ => hnot
      · rw [getElem?_insert_of_ne (Ne.symm hk)]
        simp [hk]

/-- A loop of insertions under distinct keys does not depend on the order of the elements. -/
theorem foldlM_insert_congr {X ε : Type} {key : X → K} {f : X → Except ε V} {xs ys : List X}
    (hxs : (xs.map key).Nodup) (hys : (ys.map key).Nodup) (hmem : ∀ x, x ∈ xs ↔ x ∈ ys)
    (hf : ∀ x ∈ xs, ∃ v, f x = .ok v) (m : ExtTreeMap K V) :
    xs.foldlM (fun m x => do let v ← f x; return m.insert (key x) v) m =
      ys.foldlM (fun m x => do let v ← f x; return m.insert (key x) v) m := by
  obtain ⟨mx, hmx⟩ := exists_foldlM_insert_eq_ok key xs hf m
  obtain ⟨my, hmy⟩ := exists_foldlM_insert_eq_ok key ys (fun x hx => hf x ((hmem x).2 hx)) m
  rw [hmx, hmy]
  refine congrArg Except.ok (ExtTreeMap.ext_getElem? fun k => Option.ext fun v => ?_)
  rw [getElem?_foldlM_insert hxs hmx, getElem?_foldlM_insert hys hmy]
  simp only [hmem]

/-! ### Sums over the entries -/

variable (weight : V → ℕ)

/-- The sum of the weights of all entries. -/
def total (m : ExtTreeMap K V) : ℕ := (m.toList.map fun e => weight e.2).sum

omit [LawfulEqOrd K] in
@[simp] theorem total_empty : total weight (∅ : ExtTreeMap K V) = 0 := by
  rw [total, ExtTreeMap.toList_eq_nil_iff.2 rfl, List.map_nil, List.sum_nil]

theorem total_eq_add_erase (h : m[k]? = some v) :
    total weight m = weight v + total weight (m.erase k) := by
  unfold total
  rw [((toList_perm_cons_erase h).map _).sum_nat, List.map_cons, List.sum_cons]

theorem total_eq_elim_add_erase (m : ExtTreeMap K V) (k : K) :
    total weight m = m[k]?.elim 0 weight + total weight (m.erase k) := by
  cases h : m[k]? with
  | none => rw [erase_of_getElem?_eq_none h, Option.elim_none, Nat.zero_add]
  | some v => rw [total_eq_add_erase weight h, Option.elim_some]

theorem total_insert (m : ExtTreeMap K V) (k : K) (v : V) :
    total weight (m.insert k v) = weight v + total weight (m.erase k) := by
  unfold total
  rw [((toList_insert_perm m k v).map _).sum_nat, List.map_cons, List.sum_cons]

theorem weight_le_total (h : m[k]? = some v) : weight v ≤ total weight m := by
  rw [total_eq_add_erase weight h]
  exact Nat.le_add_right _ _

/-! ### Least entries -/

/-- In a list that is sorted by a relation, the first least element is related to every other
element that is as little. -/
theorem argmin_of_pairwise {X B : Type} [LinearOrder B] {R : X → X → Prop} {f : X → B}
    {xs : List X} (hsorted : xs.Pairwise R) {a : X} (ha : xs.argmin f = some a) {x : X}
    (hx : x ∈ xs) (hne : x ≠ a) : f a < f x ∨ f a = f x ∧ R a x := by
  induction xs generalizing a with
  | nil => cases hx
  | cons y ys ih =>
    obtain ⟨hfirst, hrest⟩ := List.pairwise_cons.1 hsorted
    rw [List.argmin_cons] at ha
    cases hleast : ys.argmin f with
    | none =>
      rw [List.argmin_eq_none.1 hleast] at hx
      rw [hleast] at ha
      obtain rfl : y = a := by simpa using ha
      simp [hne] at hx
    | some b =>
      simp only [hleast] at ha
      split_ifs at ha with hlt
      · obtain rfl := Option.some.inj ha
        rcases List.mem_cons.1 hx with rfl | hx
        · exact .inl hlt
        · exact ih hrest hleast hx hne
      · obtain rfl := Option.some.inj ha
        have hx := (List.mem_cons.1 hx).resolve_left hne
        have hle : f y ≤ f x := (not_lt.1 hlt).trans (List.le_of_mem_argmin hx hleast)
        exact hle.lt_or_eq.imp id fun heq => ⟨heq, hfirst x hx⟩

variable (stamp : V → ℕ)

/-- The first entry of least stamp, in the order of keys, among the entries whose key satisfies
`p`. -/
def leastBy (p : K → Bool) (m : ExtTreeMap K V) : Option (K × V) :=
  (m.toList.filter fun e => p e.1).argmin fun e => stamp e.2

variable {stamp} {p : K → Bool} {e : K × V}

theorem getElem?_of_leastBy (h : leastBy stamp p m = some e) : m[e.1]? = some e.2 ∧ p e.1 := by
  have hmem := List.mem_filter.1 (List.argmin_mem h)
  exact ⟨mem_toList_iff.1 hmem.1, hmem.2⟩

/-- Of two candidates with the least stamp, the one with the lesser key is the least entry. -/
theorem compare_of_leastBy (h : leastBy stamp p m = some e) (hv : m[k]? = some v) (hp : p k)
    (hne : k ≠ e.1) : stamp e.2 < stamp v ∨ stamp e.2 = stamp v ∧ compare e.1 k = .lt :=
  argmin_of_pairwise (f := fun e : K × V => stamp e.2) (x := (k, v))
    (m.ordered_keys_toList.filter _) h (List.mem_filter.2 ⟨mem_toList_iff.2 hv, hp⟩)
    fun heq => hne (congrArg Prod.fst heq)

theorem leastBy_eq_none_iff : leastBy stamp p m = none ↔ ∀ k, p k → m[k]? = none := by
  rw [leastBy, List.argmin_eq_none, List.filter_eq_nil_iff]
  constructor
  · intro h k hk
    by_contra hne
    obtain ⟨v, hv⟩ := Option.ne_none_iff_exists'.1 hne
    exact h (k, v) (mem_toList_iff.2 hv) hk
  · intro h e he hp
    rw [mem_toList_iff, h e.1 hp] at he
    cases he

end OrderedMap
