import Mathlib.Control.Monad.Writer
import RiftGPU.Word.Outcome

/-!
# Calls that record events

A call that may fail and that leaves a log of what it did. The log also holds what a failing call
did before it failed. A program is instrumented by recording events at the places of interest;
its result is then the one of the program itself, and statements about the events are read off
the log.

## Main definitions

* `Traced`: calls with a log, with their `Traced.result` and `Traced.log`.
* `Traced.record`: record an event.
* `Traced.Only`: all recorded events satisfy a predicate.

## Main results

* `Traced.result_bind`, `Traced.log_bind`: the result and the log of a sequence of two calls.
* `Traced.result_foldlM`: the result of a loop.
* `Traced.length_log_foldlM`: the number of events of a loop.
* `Traced.Only.bind`, `Traced.only_foldlM`: predicates on the events of a sequence and of a loop.
-/

/-- A call that returns a value of `α` or fails with an error of `ε`, and records events of `σ`. -/
abbrev Traced (σ ε : Type) : Type → Type := ExceptT ε (Writer (List σ))

namespace Traced

variable {σ ε α β : Type}

/-- How a call ends. -/
def result (x : Traced σ ε α) : Except ε α := x.run.run.run.1

/-- The events that a call records, in their order. -/
def log (x : Traced σ ε α) : List σ := x.run.run.run.2

/-- Record an event. -/
def record (event : σ) : Traced σ ε Unit :=
  ExceptT.lift (tell [event])

/-- A call that records nothing. -/
abbrev call (x : Except ε α) : Traced σ ε α := liftM x

/-- A call whose failure is returned as a value. -/
def caught {δ : Type} (x : Traced σ ε α) : Traced σ δ (Except ε α) :=
  ExceptT.mk (Except.ok <$> x.run)

/-! ### Results and logs -/

@[simp] theorem result_pure (a : α) : (pure a : Traced σ ε α).result = .ok a := rfl

@[simp] theorem log_pure (a : α) : (pure a : Traced σ ε α).log = [] := rfl

@[simp] theorem result_record (event : σ) : (record event : Traced σ ε Unit).result = .ok () := rfl

@[simp] theorem log_record (event : σ) : (record event : Traced σ ε Unit).log = [event] := rfl

@[simp] theorem result_liftM (x : Except ε α) : (liftM x : Traced σ ε α).result = x := rfl

@[simp] theorem liftM_ok_bind (a : α) (f : α → Traced σ ε β) :
    ((liftM (Except.ok a : Except ε α) : Traced σ ε α) >>= f) = f a := rfl

@[simp] theorem result_caught {δ : Type} (x : Traced σ ε α) :
    (caught x : Traced σ δ (Except ε α)).result = .ok x.result := rfl

@[simp] theorem log_caught {δ : Type} (x : Traced σ ε α) :
    (caught x : Traced σ δ (Except ε α)).log = x.log := rfl

@[simp] theorem result_bind (x : Traced σ ε α) (f : α → Traced σ ε β) :
    (x >>= f).result = x.result >>= fun a => (f a).result := by
  obtain ⟨outcome, events⟩ := x
  cases outcome <;> rfl

theorem log_bind_of_ok {x : Traced σ ε α} {a : α} (h : x.result = .ok a)
    (f : α → Traced σ ε β) : (x >>= f).log = x.log ++ (f a).log := by
  obtain ⟨outcome, events⟩ := x
  obtain rfl : outcome = .ok a := h
  rfl

theorem log_bind_of_error {x : Traced σ ε α} {e : ε} (h : x.result = .error e)
    (f : α → Traced σ ε β) : (x >>= f).log = x.log := by
  obtain ⟨outcome, events⟩ := x
  obtain rfl : outcome = .error e := h
  exact List.append_nil events

/-- The log of two calls is that of the first, followed by that of the second when it runs. -/
theorem log_bind (x : Traced σ ε α) (f : α → Traced σ ε β) :
    (x >>= f).log = x.log ++ match x.result with
      | .ok a => (f a).log
      | .error _ => [] := by
  cases h : x.result with
  | ok a => rw [log_bind_of_ok h]
  | error e => rw [log_bind_of_error h, List.append_nil]

@[simp] theorem log_record_bind (event : σ) (f : Unit → Traced σ ε β) :
    (record event >>= f).log = event :: (f ()).log := rfl

/-- A call that records nothing adds nothing to the log. -/
theorem log_bind_liftM (x : Traced σ ε α) (f : α → Except ε β) :
    (x >>= fun a => liftM (f a)).log = x.log := by
  rw [log_bind]
  cases x.result <;> exact List.append_nil x.log

theorem ext {x y : Traced σ ε α} (hresult : x.result = y.result) (hlog : x.log = y.log) :
    x = y := by
  obtain ⟨outcome, events⟩ := x
  obtain ⟨outcome', events'⟩ := y
  obtain rfl : outcome = outcome' := hresult
  obtain rfl : events = events' := hlog
  rfl

/-- Sequences of three calls. -/
theorem bind_bind {γ : Type} (x : Traced σ ε α) (f : α → Traced σ ε β)
    (g : β → Traced σ ε γ) : x >>= f >>= g = x >>= fun a => f a >>= g := by
  refine ext ?_ ?_
  · simp only [result_bind, bind_assoc]
  · cases hx : x.result with
    | error e =>
      rw [log_bind_of_error (by rw [result_bind, hx]; rfl), log_bind_of_error hx,
        log_bind_of_error hx]
    | ok a =>
      rw [log_bind, log_bind_of_ok hx, log_bind_of_ok hx, log_bind (f a), result_bind, hx,
        List.append_assoc]
      rfl

/-! ### Loops -/

/-- The result of a loop is that of the loop of the results. -/
theorem result_foldlM (step : β → α → Traced σ ε β) (xs : List α) (s : β) :
    (xs.foldlM step s).result = xs.foldlM (fun s x => (step s x).result) s := by
  induction xs generalizing s with
  | nil => rfl
  | cons x xs ih =>
    rw [List.foldlM_cons, List.foldlM_cons, result_bind]
    exact congrArg _ (funext ih)

/-- A loop that finishes, and whose iterations record `count` events each when they finish. -/
theorem length_log_foldlM {step : β → α → Traced σ ε β} {count : ℕ}
    (hstep : ∀ s x s', (step s x).result = .ok s' → (step s x).log.length = count)
    {xs : List α} {s s' : β} (h : (xs.foldlM step s).result = .ok s') :
    (xs.foldlM step s).log.length = xs.length * count := by
  induction xs generalizing s with
  | nil => rw [List.foldlM_nil, log_pure, List.length_nil, List.length_nil, Nat.zero_mul]
  | cons x xs ih =>
    rw [List.foldlM_cons, result_bind, Except.bind_eq_ok_iff] at h
    obtain ⟨mid, hmid, hrest⟩ := h
    rw [List.foldlM_cons, log_bind_of_ok hmid, List.length_append, hstep s x mid hmid, ih hrest,
      List.length_cons, Nat.succ_mul, Nat.add_comm]

/-- A loop records what its first iteration records. -/
theorem mem_log_foldlM_first {step : β → α → Traced σ ε β} {x : α} {s : β} {event : σ}
    (h : event ∈ (step s x).log) (xs : List α) : event ∈ ((x :: xs).foldlM step s).log := by
  rw [List.foldlM_cons, log_bind]
  exact List.mem_append_left _ h

/-- A loop that finishes records what one of its iterations records whenever it finishes. -/
theorem mem_log_foldlM {step : β → α → Traced σ ε β} {xs : List α} {s s' : β}
    (h : (xs.foldlM step s).result = .ok s') {x : α} (hx : x ∈ xs) {event : σ}
    (hevent : ∀ s t, (step s x).result = .ok t → event ∈ (step s x).log) :
    event ∈ (xs.foldlM step s).log := by
  induction xs generalizing s with
  | nil => cases hx
  | cons y ys ih =>
    rw [List.foldlM_cons, result_bind, Except.bind_eq_ok_iff] at h
    obtain ⟨mid, hmid, hrest⟩ := h
    rw [List.foldlM_cons, log_bind_of_ok hmid, List.mem_append]
    rcases List.mem_cons.1 hx with rfl | hx
    · exact .inl (hevent s mid hmid)
    · exact .inr (ih hrest hx)

/-! ### Predicates on events -/

/-- All events that a call records satisfy `P`. -/
def Only (P : σ → Prop) (x : Traced σ ε α) : Prop := ∀ event ∈ x.log, P event

variable {P : σ → Prop}

theorem only_pure (a : α) : Only P (pure a : Traced σ ε α) := List.forall_mem_nil P

theorem only_record {event : σ} (h : P event) : Only P (record event : Traced σ ε Unit) :=
  List.forall_mem_singleton.2 h

theorem only_liftM (x : Except ε α) : Only P (liftM x : Traced σ ε α) := List.forall_mem_nil P

theorem only_throw (e : ε) : Only P (throw e : Traced σ ε α) := List.forall_mem_nil P

/-- A sequence of two calls: the second one matters for the values that the first returns. -/
theorem Only.bind {x : Traced σ ε α} {f : α → Traced σ ε β} (hx : Only P x)
    (hf : ∀ a, x.result = .ok a → Only P (f a)) : Only P (x >>= f) := by
  cases h : x.result with
  | ok a =>
    rw [Only, log_bind_of_ok h, List.forall_mem_append]
    exact ⟨hx, hf a h⟩
  | error e =>
    rw [Only, log_bind_of_error h]
    exact hx

theorem only_liftM_bind {x : Except ε α} {f : α → Traced σ ε β}
    (hf : ∀ a, x = .ok a → Only P (f a)) : Only P (liftM x >>= f) :=
  (only_liftM x).bind hf

theorem only_record_bind {event : σ} {f : Unit → Traced σ ε β} (h : P event) (hf : Only P (f ())) :
    Only P (record event >>= f) :=
  (only_record h).bind fun _ _ => hf

theorem only_foldlM {step : β → α → Traced σ ε β} {xs : List α}
    (h : ∀ s, ∀ x ∈ xs, Only P (step s x)) (s : β) : Only P (xs.foldlM step s) := by
  induction xs generalizing s with
  | nil => exact only_pure s
  | cons x xs ih =>
    rw [List.foldlM_cons]
    exact (h s x List.mem_cons_self).bind fun s' _ =>
      ih (fun t y hy => h t y (List.mem_cons_of_mem x hy)) s'

end Traced
