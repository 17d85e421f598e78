import Mathlib.Data.Option.Basic
import Mathlib.Order.Lattice

/-!
# Outcomes of fallible calls

A call that may fail returns an `Except`. Functions that return early with an error are written
as a chain of binds over `Except.rejectIf` and `Option.okOr`, and the lemmas below turn a
statement that such a chain succeeds, or fails with a given error, into the conditions of its
links. A call that may also panic has the error type `Fault ε`.

## Main definitions

* `Except.rejectIf`: fail with an error when a condition holds.
* `Except.Settles`: a value or an error, depending on a condition.
* `Option.okOr`: the value of an option, or an error.
* `Fault`: an error of the callee's own type, or a panic.
* `Fault.orPanic`, `Fault.index`, `Fault.lift`, `Fault.ofAbort`: steps of a call that may panic.
* `Fault.NoPanic`: a call that does not.

## Main results

* `Except.bind_eq_ok_iff`, `Except.bind_eq_error_iff`: inversion of a bind.
* `Except.foldlM_range_invariant`, `Except.settles_foldlM_range`: invariants of loops, for a body
  that succeeds and for one that may fail.
-/

namespace Except

variable {ε α β : Type}

/-- A bind succeeds when both of its steps do. -/
theorem bind_eq_ok_iff {x : Except ε α} {f : α → Except ε β} {b : β} :
    (x >>= f) = .ok b ↔ ∃ a, x = .ok a ∧ f a = .ok b := by
  cases x with
  | error e => simp [bind, Except.bind]
  | ok a => simp [bind, Except.bind]

theorem bind_unit_eq_ok_iff {x : Except ε Unit} {f : Unit → Except ε β} {b : β} :
    (x >>= f) = .ok b ↔ x = .ok () ∧ f () = .ok b := by
  rw [bind_eq_ok_iff]
  exact ⟨fun ⟨_, h⟩ => h, fun h => ⟨(), h⟩⟩

/-- A bind fails in its first step, or in its second after the first succeeded. -/
theorem bind_eq_error_iff {x : Except ε α} {f : α → Except ε β} {e : ε} :
    (x >>= f) = .error e ↔ x = .error e ∨ ∃ a, x = .ok a ∧ f a = .error e := by
  cases x with
  | error e' => simp [bind, Except.bind]
  | ok a => simp [bind, Except.bind]

@[simp] theorem pure_eq_ok_iff {a b : α} : (pure a : Except ε α) = .ok b ↔ a = b := by
  simp [pure, Except.pure]

@[simp] theorem ok_bind (a : α) (f : α → Except ε β) : (Except.ok a >>= f) = f a := rfl

@[simp] theorem error_bind (e : ε) (f : α → Except ε β) : (Except.error e >>= f) = .error e := rfl

@[simp] theorem mapError_eq_ok_iff {δ : Type} {x : Except ε α} {f : ε → δ} {a : α} :
    x.mapError f = .ok a ↔ x = .ok a := by
  cases x <;> simp [Except.mapError]

/-- Return early with the error `e` when `p` holds. -/
def rejectIf (p : Prop) [Decidable p] (e : ε) : Except ε Unit :=
  if p then .error e else .ok ()

@[simp] theorem rejectIf_eq_ok_iff {p : Prop} [Decidable p] {e : ε} {u : Unit} :
    rejectIf p e = .ok u ↔ ¬p := by
  by_cases h : p <;> simp [rejectIf, h]

@[simp] theorem rejectIf_eq_error_iff {p : Prop} [Decidable p] {e e' : ε} :
    rejectIf p e = .error e' ↔ p ∧ e = e' := by
  by_cases h : p <;> simp [rejectIf, h]

theorem rejectIf_bind_eq_ok_iff {p : Prop} [Decidable p] {e : ε} {f : Unit → Except ε β} {b : β} :
    (rejectIf p e >>= f) = .ok b ↔ ¬p ∧ f () = .ok b := by
  by_cases h : p <;> simp [rejectIf, h]

theorem rejectIf_of_not {p : Prop} [Decidable p] {e : ε} (h : ¬p) : rejectIf p e = .ok () :=
  if_neg h

/-- A loop of checks passes when every entry passes. -/
theorem forM_eq_ok_iff {xs : List α} {check : α → Except ε Unit} {u : Unit} :
    forM xs check = .ok u ↔ ∀ x ∈ xs, check x = .ok () := by
  induction xs with
  | nil => simp [List.forM_nil]
  | cons x xs ih =>
    rw [List.forM_cons, bind_eq_ok_iff, List.forall_mem_cons]
    exact ⟨fun ⟨_, hx, hxs⟩ => ⟨hx, ih.1 hxs⟩, fun ⟨hx, hxs⟩ => ⟨(), hx, ih.2 hxs⟩⟩

/-- What every step of a loop preserves holds of the result of the loop. -/
theorem foldlM_induction {σ : Type} {step : σ → α → Except ε σ} (P : σ → Prop) {xs : List α}
    (hstep : ∀ s x s', x ∈ xs → P s → step s x = .ok s' → P s') {s s' : σ} (hs : P s)
    (h : xs.foldlM step s = .ok s') : P s' := by
  induction xs generalizing s with
  | nil =>
    rw [List.foldlM_nil, pure_eq_ok_iff] at h
    exact h ▸ hs
  | cons x xs ih =>
    rw [List.foldlM_cons, bind_eq_ok_iff] at h
    obtain ⟨mid, hmid, hrest⟩ := h
    exact ih (fun t y t' hy => hstep t y t' (List.mem_cons_of_mem x hy))
      (hstep s x mid List.mem_cons_self hs hmid) hrest

/-- A loop that pushes one entry in every iteration. -/
theorem length_of_foldlM {step : List β → α → Except ε (List β)} {xs : List α}
    (hstep : ∀ s x t, step s x = .ok t → t.length = s.length + 1) {s t : List β}
    (h : xs.foldlM step s = .ok t) : t.length = s.length + xs.length := by
  induction xs generalizing s with
  | nil =>
    rw [List.foldlM_nil, pure_eq_ok_iff] at h
    rw [h, List.length_nil, Nat.add_zero]
  | cons x xs ih =>
    rw [List.foldlM_cons, bind_eq_ok_iff] at h
    obtain ⟨mid, hmid, hrest⟩ := h
    rw [ih hrest, hstep s x mid hmid, List.length_cons]
    omega

/-- A loop over the indices below `n` runs through the states of a sequence when every iteration
leads from one state of the sequence to the next. -/
theorem foldlM_range_eq {σ : Type} (step : σ → ℕ → Except ε σ) (state : ℕ → σ) (n : ℕ)
    (hstep : ∀ i < n, step (state i) i = .ok (state (i + 1))) :
    (List.range n).foldlM step (state 0) = .ok (state n) := by
  induction n with
  | zero => rfl
  | succ n ih =>
    rw [List.range_succ, List.foldlM_append, ih fun i hi => hstep i (Nat.lt_succ_of_lt hi), ok_bind,
      List.foldlM_cons, hstep n (Nat.lt_succ_self n)]
    rfl

/-- A loop whose body only computes is the fold of the computation. -/
theorem foldlM_eq_ok_foldl {σ : Type} {step : σ → α → Except ε σ} {f : σ → α → σ} {xs : List α}
    (hstep : ∀ x ∈ xs, ∀ s, step s x = .ok (f s x)) (s : σ) :
    xs.foldlM step s = .ok (xs.foldl f s) := by
  induction xs generalizing s with
  | nil => rfl
  | cons x xs ih =>
    rw [List.foldlM_cons, hstep x List.mem_cons_self, ok_bind, List.foldl_cons]
    exact ih (fun y hy => hstep y (List.mem_cons_of_mem x hy)) (f s x)

/-- A loop over the indices below `n` keeps an invariant that every iteration keeps. -/
theorem foldlM_range_invariant {σ : Type} {step : σ → ℕ → Except ε σ} {S : ℕ → σ → Prop} {n : ℕ}
    (hstep : ∀ i < n, ∀ s, S i s → ∃ s', step s i = .ok s' ∧ S (i + 1) s') {s : σ} (hs : S 0 s) :
    ∃ s', (List.range n).foldlM step s = .ok s' ∧ S n s' := by
  induction n with
  | zero => exact ⟨s, rfl, hs⟩
  | succ n ih =>
    obtain ⟨mid, hmid, hinv⟩ := ih fun i hi => hstep i (Nat.lt_succ_of_lt hi)
    obtain ⟨s', hlast, hinv'⟩ := hstep n (Nat.lt_succ_self n) mid hinv
    refine ⟨s', ?_, hinv'⟩
    rw [List.range_succ, List.foldlM_append, hmid, ok_bind, List.foldlM_cons, hlast]
    rfl

/-- A loop finishes when all of its iterations do, if it does not depend on the state whether an
iteration finishes. -/
theorem exists_foldlM_eq_ok_iff {σ : Type} {step : σ → α → Except ε σ} {good : α → Prop}
    {xs : List α} (hstep : ∀ s, ∀ x ∈ xs, (∃ t, step s x = .ok t) ↔ good x) (s : σ) :
    (∃ t, xs.foldlM step s = .ok t) ↔ ∀ x ∈ xs, good x := by
  induction xs generalizing s with
  | nil => exact ⟨fun _ => List.forall_mem_nil good, fun _ => ⟨s, rfl⟩⟩
  | cons x xs ih =>
    have ih' := ih fun t y hy => hstep t y (List.mem_cons_of_mem x hy)
    simp only [List.foldlM_cons, bind_eq_ok_iff, List.forall_mem_cons,
      ← hstep s x List.mem_cons_self]
    constructor
    · rintro ⟨t, mid, hmid, hrest⟩
      exact ⟨⟨mid, hmid⟩, (ih' mid).1 ⟨t, hrest⟩⟩
    · rintro ⟨⟨mid, hmid⟩, hrest⟩
      obtain ⟨t, ht⟩ := (ih' mid).2 hrest
      exact ⟨t, mid, hmid, ht⟩

/-- The outcome is a value that satisfies `Q` when `good` holds, and the error `e` otherwise. -/
def Settles (good : Prop) (e : ε) (Q : α → Prop) (x : Except ε α) : Prop :=
  (good ∧ ∃ a, x = .ok a ∧ Q a) ∨ (¬good ∧ x = .error e)

/-- A loop over the indices below `n` settles on whether all of its iterations are good. -/
theorem settles_foldlM_range {σ : Type} (step : σ → ℕ → Except ε σ) {good : ℕ → Prop} {e : ε}
    {S : ℕ → σ → Prop} {n : ℕ}
    (hstep : ∀ i < n, ∀ s, S i s → Settles (good i) e (S (i + 1)) (step s i)) {s : σ}
    (hs : S 0 s) : Settles (∀ i < n, good i) e (S n) ((List.range n).foldlM step s) := by
  induction n with
  | zero => exact .inl ⟨nofun, s, rfl, hs⟩
  | succ n ih =>
    rw [List.range_succ, List.foldlM_append]
    rcases ih fun i hi => hstep i (Nat.lt_succ_of_lt hi) with
      ⟨hgood, mid, hmid, hinv⟩ | ⟨hbad, herror⟩
    · rw [hmid, ok_bind, List.foldlM_cons]
      rcases hstep n (Nat.lt_succ_self n) mid hinv with
        ⟨hlast, s', hs', hinv'⟩ | ⟨hlast, herror⟩
      · refine .inl ⟨fun i hi => ?_, s', by rw [hs']; rfl, hinv'⟩
        rcases Nat.lt_succ_iff_lt_or_eq.1 hi with hi | rfl
        · exact hgood i hi
        · exact hlast
      · exact .inr ⟨fun hall => hlast (hall n (Nat.lt_succ_self n)), by rw [herror]; rfl⟩
    · rw [herror]
      exact .inr ⟨fun hall => hbad fun i hi => hall i (Nat.lt_succ_of_lt hi), rfl⟩

end Except

namespace Option

variable {ε α : Type*}

/-- The value of an option, or the error `e`. -/
def okOr (x : Option α) (e : ε) : Except ε α :=
  match x with
  | some a => .ok a
  | none => .error e

@[simp] theorem okOr_some (a : α) (e : ε) : (some a).okOr e = .ok a := rfl

@[simp] theorem okOr_eq_ok_iff {x : Option α} {e : ε} {a : α} : x.okOr e = .ok a ↔ x = some a := by
  cases x <;> simp [okOr]

@[simp] theorem okOr_eq_error_iff {x : Option α} {e e' : ε} :
    x.okOr e = .error e' ↔ x = none ∧ e = e' := by
  cases x <;> simp [okOr]

end Option

/-- How a call ends without a value: with an error of its own type, or by a panic. -/
inductive Fault (ε : Type) where
  | error (e : ε)
  | panic (message : String)
deriving DecidableEq, Repr

namespace Fault

variable {ε α : Type}

/-- The value of an option, or a panic. -/
def orPanic (x : Option α) (message : String) : Except (Fault ε) α := x.okOr (.panic message)

/-- A call that does not panic, inside one that may. -/
def lift (x : Except ε α) : Except (Fault ε) α := x.mapError Fault.error

/-- A call that aborts with a message when it does not return. -/
def ofAbort (x : Except String α) : Except (Fault ε) α := x.mapError Fault.panic

/-- The fault with its error translated. -/
def mapError {δ : Type} (f : ε → δ) : Fault ε → Fault δ
  | error e => error (f e)
  | panic message => panic message

/-- The entry of a list at an index, or a panic when the index is out of range. -/
def index (xs : List α) (i : ℕ) : Except (Fault ε) α := orPanic xs[i]? "index out of bounds"

@[simp] theorem orPanic_some (a : α) (message : String) :
    (orPanic (some a) message : Except (Fault ε) α) = .ok a := rfl

@[simp] theorem lift_ok (a : α) : (lift (.ok a) : Except (Fault ε) α) = .ok a := rfl

@[simp] theorem lift_error (e : ε) : (lift (.error e) : Except (Fault ε) α) = .error (.error e) :=
  rfl

@[simp] theorem ofAbort_ok (a : α) : (ofAbort (.ok a) : Except (Fault ε) α) = .ok a := rfl

@[simp] theorem lift_eq_ok_iff {x : Except ε α} {a : α} : lift x = .ok a ↔ x = .ok a := by
  cases x <;> simp

theorem index_of_getElem? {xs : List α} {i : ℕ} {a : α} (h : xs[i]? = some a) :
    (index xs i : Except (Fault ε) α) = .ok a := by
  rw [index, h, orPanic_some]

theorem index_getD {xs : List α} {i : ℕ} (h : i < xs.length) (a : α) :
    (index xs i : Except (Fault ε) α) = .ok (xs.getD i a) := by
  refine index_of_getElem? ?_
  rw [List.getD_eq_getElem?_getD, List.getElem?_eq_getElem h, Option.getD_some]

/-! ### Calls that do not panic -/

/-- A call that returns a value or fails with an error of its own type. -/
def NoPanic (x : Except (Fault ε) α) : Prop := ∀ message, x ≠ .error (.panic message)

theorem noPanic_ok (a : α) : NoPanic (.ok a : Except (Fault ε) α) := nofun

theorem noPanic_lift (x : Except ε α) : NoPanic (lift x) := by
  cases x <;> exact nofun

theorem noPanic_rejectIf (p : Prop) [Decidable p] (e : ε) :
    NoPanic (Except.rejectIf p (error e)) := by
  intro message h
  cases (Except.rejectIf_eq_error_iff.1 h).2

theorem noPanic_okOr (x : Option α) (e : ε) : NoPanic (x.okOr (error e)) := by
  intro message h
  cases (Option.okOr_eq_error_iff.1 h).2

theorem NoPanic.bind {β : Type} {x : Except (Fault ε) α} {f : α → Except (Fault ε) β}
    (hx : NoPanic x) (hf : ∀ a, x = .ok a → NoPanic (f a)) : NoPanic (x >>= f) := by
  intro message h
  rcases Except.bind_eq_error_iff.1 h with h | ⟨a, ha, h⟩
  · exact hx message h
  · exact hf a ha message h

theorem noPanic_foldlM {σ : Type} {step : σ → α → Except (Fault ε) σ} {xs : List α}
    (hstep : ∀ s, ∀ x ∈ xs, NoPanic (step s x)) (s : σ) : NoPanic (xs.foldlM step s) := by
  induction xs generalizing s with
  | nil => exact noPanic_ok s
  | cons x xs ih =>
    rw [List.foldlM_cons]
    exact (hstep s x List.mem_cons_self).bind fun t _ =>
      ih (fun u y hy => hstep u y (List.mem_cons_of_mem x hy)) t

end Fault
