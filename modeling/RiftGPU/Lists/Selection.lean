import Mathlib.Data.List.Basic
import Std.Data.ExtTreeMap

/-!
# Selecting a registered element

Elements are registered in buckets under their keys. A selection looks for the earliest element
that is suitable, and among the suitable elements for a preferred one first.

## Main definitions

* `List.pushBucket`: register an element in its bucket.
* `List.IsEarliest`: a position is the first at which a predicate holds.
* `List.IsFirstChoice`: the earliest suitable and preferred position, or the earliest suitable one.
* `List.selectPreferred`: the element at this position.

## Main results

* `List.getD_foldl_pushBucket`: a bucket holds the elements with its key in their order.
* `List.selectPreferred_filter`: it is enough to search the bucket of the suitable elements.
* `List.exists_isFirstChoice_of_selectPreferred`: what is selected is the first choice.
-/

namespace List

open Std (ExtTreeMap)

variable {α β κ : Type}

/-! ### Buckets -/

section Buckets

variable [Ord κ] [Std.TransOrd κ] [Std.LawfulEqOrd κ]

/-- The buckets after `a` is appended to the one under `key`. -/
def pushBucket (buckets : ExtTreeMap κ (List α)) (key : κ) (a : α) : ExtTreeMap κ (List α) :=
  buckets.insert key (buckets.getD key [] ++ [a])

variable [DecidableEq κ]

theorem getD_pushBucket (buckets : ExtTreeMap κ (List α)) (key : κ) (a : α) (k : κ) :
    (pushBucket buckets key a).getD k [] = buckets.getD k [] ++ if key = k then [a] else [] := by
  rw [pushBucket, ExtTreeMap.getD_insert]
  by_cases h : key = k
  · rw [if_pos (Std.LawfulEqOrd.compare_eq_iff_eq.2 h), if_pos h, h]
  · rw [if_neg (mt Std.LawfulEqOrd.compare_eq_iff_eq.1 h), if_neg h, append_nil]

/-- After a sequence of registrations a bucket has the elements with its key, in their order. -/
theorem getD_foldl_pushBucket (key : α → κ) (xs : List α) (buckets : ExtTreeMap κ (List α))
    (k : κ) :
    (xs.foldl (fun buckets a => pushBucket buckets (key a) a) buckets).getD k [] =
      buckets.getD k [] ++ xs.filter (fun a => key a = k) := by
  induction xs generalizing buckets with
  | nil => rw [foldl_nil, filter_nil, append_nil]
  | cons x xs ih =>
    rw [foldl_cons, ih, getD_pushBucket, append_assoc, filter_cons]
    by_cases h : key x = k <;> simp [h]

end Buckets

/-! ### Earliest positions -/

/-- `i` is the first position of `xs` at which `p` holds. -/
structure IsEarliest (p : α → Prop) (xs : List α) (i : ℕ) : Prop where
  at_position : ∃ a, xs[i]? = some a ∧ p a
  before : ∀ j < i, ∀ a, xs[j]? = some a → ¬p a

/-- The element that a search finds is at the earliest position. -/
theorem exists_isEarliest_of_find? {q : α → Bool} {xs : List α} {a : α}
    (h : xs.find? q = some a) : ∃ i, xs[i]? = some a ∧ IsEarliest (q ·) xs i := by
  obtain ⟨hq, i, hi, hget, hbefore⟩ := find?_eq_some_iff_getElem.1 h
  have hsome : xs[i]? = some a := by rw [getElem?_eq_getElem hi, hget]
  refine ⟨i, hsome, ⟨a, hsome, hq⟩, fun j hj b hb => ?_⟩
  obtain ⟨hlt, rfl⟩ := getElem?_eq_some_iff.1 hb
  simpa using hbefore j hj

/-- Two lists whose elements agree on the predicates have the same earliest positions. -/
theorem IsEarliest.congr {p : α → Prop} {q : β → Prop} {xs : List α} {ys : List β} {i : ℕ}
    (h : IsEarliest p xs i) (f : ℕ → β → α) (hget : ∀ j : ℕ, xs[j]? = ys[j]?.map (f j))
    (hpq : ∀ j b, p (f j b) ↔ q b) : IsEarliest q ys i := by
  obtain ⟨⟨a, ha, hp⟩, hbefore⟩ := h
  rw [hget, Option.map_eq_some_iff] at ha
  obtain ⟨b, hb, rfl⟩ := ha
  refine ⟨⟨b, hb, (hpq i b).1 hp⟩, fun j hj c hc hq => ?_⟩
  exact hbefore j hj (f j c) (by rw [hget, hc, Option.map_some]) ((hpq j c).2 hq)

/-- Searching a numbered list finds the earliest position. -/
theorem isEarliest_of_find?_zipIdx {q : α → Bool} {xs : List α} {a : α} {i : ℕ}
    (h : xs.zipIdx.find? (fun entry => q entry.1) = some (a, i)) :
    xs[i]? = some a ∧ IsEarliest (q ·) xs i := by
  obtain ⟨j, hget, hearliest⟩ := exists_isEarliest_of_find? h
  have hzip (j : ℕ) : xs.zipIdx[j]? = xs[j]?.map fun b => (b, j) := by
    rw [getElem?_zipIdx, Nat.zero_add]
  rw [hzip, Option.map_eq_some_iff] at hget
  obtain ⟨b, hb, heq⟩ := hget
  obtain ⟨rfl, rfl⟩ := Prod.mk.inj heq
  exact ⟨hb, hearliest.congr (fun j b => (b, j)) hzip fun _ _ => Iff.rfl⟩

/-- There is at most one earliest position. -/
theorem IsEarliest.unique {p : α → Prop} {xs : List α} {i j : ℕ} (hi : IsEarliest p xs i)
    (hj : IsEarliest p xs j) : i = j := by
  obtain ⟨⟨a, ha, hpa⟩, hbeforei⟩ := hi
  obtain ⟨⟨b, hb, hpb⟩, hbeforej⟩ := hj
  rcases Nat.lt_trichotomy i j with hlt | heq | hlt
  · exact absurd hpa (hbeforej i hlt a ha)
  · exact heq
  · exact absurd hpb (hbeforei j hlt b hb)

/-- `i` is the earliest suitable and preferred position or, when there is none, the earliest
suitable one. -/
def IsFirstChoice (preferred suitable : α → Prop) (xs : List α) (i : ℕ) : Prop :=
  IsEarliest (fun a => suitable a ∧ preferred a) xs i ∨
    (∀ a ∈ xs, suitable a → ¬preferred a) ∧ IsEarliest suitable xs i

theorem IsFirstChoice.congr {preferred suitable : α → Prop} {preferred' suitable' : β → Prop}
    {xs : List α} {ys : List β} {i : ℕ} (h : IsFirstChoice preferred suitable xs i)
    (f : ℕ → β → α) (hget : ∀ j : ℕ, xs[j]? = ys[j]?.map (f j))
    (hpreferred : ∀ j b, preferred (f j b) ↔ preferred' b)
    (hsuitable : ∀ j b, suitable (f j b) ↔ suitable' b) :
    IsFirstChoice preferred' suitable' ys i := by
  obtain h | ⟨hnone, h⟩ := h
  · exact .inl (h.congr f hget fun j b => and_congr (hsuitable j b) (hpreferred j b))
  · refine .inr ⟨fun b hb hs hp => ?_, h.congr f hget hsuitable⟩
    obtain ⟨j, hj⟩ := mem_iff_getElem?.1 hb
    have hmem : f j b ∈ xs := mem_iff_getElem?.2 ⟨j, by rw [hget, hj, Option.map_some]⟩
    exact hnone _ hmem ((hsuitable j b).2 hs) ((hpreferred j b).2 hp)

/-- The first choice is suitable. -/
theorem IsFirstChoice.suitable {preferred suitable : α → Prop} {xs : List α} {i : ℕ} {a : α}
    (h : IsFirstChoice preferred suitable xs i) (hget : xs[i]? = some a) : suitable a := by
  obtain ⟨⟨b, hb, hs, -⟩, -⟩ | ⟨-, ⟨b, hb, hs⟩, -⟩ := h
  all_goals
    obtain rfl : b = a := Option.some.inj (hb.symm.trans hget)
    exact hs

/-! ### Selection -/

/-- The first suitable element that is preferred, if there is a preference and such an element,
and otherwise the first suitable element. -/
def selectPreferred (preference : Option β) (preferred : β → α → Bool) (suitable : α → Bool)
    (xs : List α) : Option α :=
  (preference.bind fun b => (xs.filter suitable).find? (preferred b)).or (xs.find? suitable)

variable {preference : Option β} {preferred : β → α → Bool} {suitable : α → Bool} {xs : List α}

/-- Elements that are not suitable do not matter. -/
theorem selectPreferred_filter {p : α → Bool} (h : ∀ a, suitable a → p a) :
    selectPreferred preference preferred suitable (xs.filter p) =
      selectPreferred preference preferred suitable xs := by
  have hand (a : α) : (p a && suitable a) = suitable a := by
    cases hs : suitable a with
    | false => rw [Bool.and_false]
    | true => rw [h a hs, Bool.and_true]
  have hfilter : (xs.filter p).filter suitable = xs.filter suitable := by
    rw [filter_filter]
    exact congrArg (fun q => xs.filter q) (funext fun a => by rw [Bool.and_comm, hand])
  have hfind : (xs.filter p).find? suitable = xs.find? suitable := by
    rw [find?_filter]
    refine congrArg (fun q => xs.find? q) (funext fun a => ?_)
    rw [Bool.decide_and, Bool.decide_eq_true, Bool.decide_eq_true, hand]
  rw [selectPreferred, hfilter, hfind, selectPreferred]

/-- A selection fails when no element is suitable. -/
theorem selectPreferred_eq_none_iff :
    selectPreferred preference preferred suitable xs = none ↔ ∀ a ∈ xs, ¬suitable a := by
  rw [selectPreferred, Option.or_eq_none_iff, find?_eq_none]
  refine and_iff_right_of_imp fun h => ?_
  have hnil : xs.filter suitable = [] := filter_eq_nil_iff.2 h
  rw [hnil]
  cases preference <;> rfl

/-- What is selected is the first choice. -/
theorem exists_isFirstChoice_of_selectPreferred {a : α}
    (h : selectPreferred preference preferred suitable xs = some a) :
    ∃ i, xs[i]? = some a ∧
      IsFirstChoice (fun a => ∃ b ∈ preference, preferred b a) (suitable ·) xs i := by
  rw [selectPreferred, Option.or_eq_some_iff, Option.bind_eq_some_iff] at h
  obtain ⟨b, rfl, hfind⟩ | ⟨hnone, hfind⟩ := h
  · rw [find?_filter] at hfind
    obtain ⟨i, hget, hearliest⟩ := exists_isEarliest_of_find? hfind
    refine ⟨i, hget, .inl (hearliest.congr (fun _ a => a) (fun j => by simp) fun j a => ?_)⟩
    simp
  · obtain ⟨i, hget, hearliest⟩ := exists_isEarliest_of_find? hfind
    refine ⟨i, hget, .inr ⟨fun c hc hs => ?_, hearliest⟩⟩
    rintro ⟨b, rfl, hp⟩
    rw [Option.bind_some, find?_eq_none] at hnone
    exact hnone c (mem_filter.2 ⟨hc, hs⟩) hp

end List
