import Mathlib.Data.List.Basic
import Mathlib.Data.List.Nodup

/-!
# Lists as maps

A list of records with keys serves as a map: a lookup finds the first record under a key, and an
upsert replaces this record or, when there is none, appends a new one. Upserts keep the keys
distinct; a list with distinct keys is rebuilt by upserting its elements in order.

## Main definitions

* `List.upsert`: replace the first element with the same key, or append.

## Main results

* `List.nodup_upsert`: an upsert keeps the keys distinct.
* `List.find?_upsert`, `List.filter_upsert`: lookups and filters after an upsert.
* `List.foldl_upsert_of_nodup`: upserting elements with new, distinct keys appends them.
-/

namespace List

variable {α κ : Type} [DecidableEq κ] (key : α → κ)

/-- The first element with the key of `x` replaced by `x`, or `x` appended. -/
def upsert (x : α) : List α → List α
  | [] => [x]
  | y :: ys => if key y = key x then x :: ys else y :: upsert x ys

variable {key} {x y : α} {xs ys : List α}

theorem upsert_of_not_mem (h : key x ∉ xs.map key) : upsert key x xs = xs ++ [x] := by
  induction xs with
  | nil => rfl
  | cons y ys ih =>
    rw [map_cons, mem_cons, not_or] at h
    rw [upsert, if_neg (Ne.symm h.1), ih h.2, cons_append]

theorem map_upsert_of_mem (h : key x ∈ xs.map key) : (upsert key x xs).map key = xs.map key := by
  induction xs with
  | nil => cases h
  | cons y ys ih =>
    rw [upsert]
    split_ifs with hy
    · rw [map_cons, map_cons, hy]
    · rw [map_cons, mem_cons] at h
      rw [map_cons, map_cons, ih (h.resolve_left (Ne.symm hy))]

/-- An upsert keeps the keys distinct. -/
theorem nodup_upsert (h : (xs.map key).Nodup) : ((upsert key x xs).map key).Nodup := by
  by_cases hmem : key x ∈ xs.map key
  · rwa [map_upsert_of_mem hmem]
  · rw [upsert_of_not_mem hmem, map_append, nodup_append]
    refine ⟨h, nodup_singleton _, fun a ha b hb => ?_⟩
    rw [map_singleton, mem_singleton] at hb
    rintro rfl
    exact hmem (hb ▸ ha)

theorem eq_or_mem_of_mem_upsert (h : y ∈ upsert key x xs) : y = x ∨ y ∈ xs := by
  induction xs with
  | nil => exact .inl (mem_singleton.1 h)
  | cons z zs ih =>
    rw [upsert] at h
    split_ifs at h
    · exact (mem_cons.1 h).imp id fun hmem => mem_cons_of_mem _ hmem
    · rcases mem_cons.1 h with rfl | hmem
      · exact .inr mem_cons_self
      · exact (ih hmem).imp id fun hmem => mem_cons_of_mem _ hmem

/-- A lookup after an upsert finds the new element under its key and the old one elsewhere. -/
theorem find?_upsert (k : κ) : (upsert key x xs).find? (fun y => key y = k) =
    if key x = k then some x else xs.find? fun y => key y = k := by
  induction xs with
  | nil =>
    rw [upsert, find?_singleton]
    simp only [decide_eq_true_eq]
    rfl
  | cons y ys ih =>
    rw [upsert]
    split_ifs with hy hk hk
    · rw [find?_cons_of_pos (by simpa using hk)]
    · rw [find?_cons_of_neg (by simpa using hk), find?_cons_of_neg (by simpa [hy] using hk)]
    · rw [find?_cons_of_neg (by simpa [hk] using hy), ih, if_pos hk]
    · rw [find?_cons, find?_cons, ih, if_neg hk]

/-- An upsert of an element that a filter by keys drops is not seen through the filter, and every
other one is an upsert of what the filter keeps. -/
theorem filter_upsert {p : α → Bool} (hp : ∀ y, key y = key x → p y = p x) :
    (upsert key x xs).filter p = if p x then upsert key x (xs.filter p) else xs.filter p := by
  induction xs with
  | nil => rw [upsert, filter_singleton]; cases p x <;> rfl
  | cons y ys ih =>
    rw [upsert]
    split_ifs with hy hx hx
    · rw [filter_cons_of_pos hx, filter_cons_of_pos ((hp y hy).trans hx), upsert, if_pos hy]
    · rw [filter_cons_of_neg hx, filter_cons_of_neg (by rwa [hp y hy])]
    · rw [filter_cons, filter_cons, ih, if_pos hx]
      split_ifs
      · rw [upsert, if_neg hy]
      · rfl
    · rw [filter_cons, filter_cons, ih, if_neg hx]

/-- Upserting elements with new, distinct keys appends them. -/
theorem foldl_upsert_of_nodup (h : ((xs ++ ys).map key).Nodup) :
    ys.foldl (fun xs y => upsert key y xs) xs = xs ++ ys := by
  induction ys generalizing xs with
  | nil => simp
  | cons y ys ih =>
    have hnew : key y ∉ xs.map key := by
      rw [map_append, nodup_append] at h
      exact fun hmem => h.2.2 _ hmem _ (by simp) rfl
    rw [foldl_cons, upsert_of_not_mem hnew, ih (by rwa [append_assoc, singleton_append]),
      append_assoc, singleton_append]

end List
