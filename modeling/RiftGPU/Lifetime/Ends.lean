import RiftGPU.Lifetime.Scope

/-!
# What a program does from a given log

A statement about a program that starts after a given log, with a condition on the log when it
returns and one when it fails. The conditions may speak of the log at the start, so they relate
what was before with what is after. A program only adds to the log.

## Main definitions

* `Lifetime.Run.Ends`: the statement.

## Main results

* `Lifetime.Run.Ends.bind`, `Lifetime.Run.Ends.ensure`, `Lifetime.Run.Ends.onError`,
  `Lifetime.Run.Ends.foldlM_getElem`: composed programs.
-/

namespace Lifetime

variable {κ ρ ε α β : Type}

/-- After the log `log`, the program ends with `Q a` when it returns `a`, and with `E` when it
fails, where `Q` and `E` are about the log then. -/
def Run.Ends (log : List (Event κ ρ)) (x : Run κ ρ ε α) (Q : α → List (Event κ ρ) → Prop)
    (E : List (Event κ ρ) → Prop) : Prop :=
  match x.exec log with
  | (.ok a, log') => log <+: log' ∧ Q a log'
  | (.error _, log') => log <+: log' ∧ E log'

namespace Run.Ends

variable {log : List (Event κ ρ)} {x : Run κ ρ ε α} {Q : α → List (Event κ ρ) → Prop}
  {E : List (Event κ ρ) → Prop}

theorem pure {a : α} (h : Q a log) : Ends log (Pure.pure a : Run κ ρ ε α) Q E :=
  ⟨List.prefix_rfl, h⟩

theorem throw (e : ε) (h : E log) : Ends log (MonadExcept.throw e : Run κ ρ ε α) Q E :=
  ⟨List.prefix_rfl, h⟩

/-- A program without events. -/
theorem liftM {result : Except ε α} (hok : ∀ a, result = .ok a → Q a log) (herror : E log) :
    Ends log (MonadLiftT.monadLift result : Run κ ρ ε α) Q E := by
  cases result with
  | ok a => exact ⟨List.prefix_rfl, hok a rfl⟩
  | error e => exact ⟨List.prefix_rfl, herror⟩

theorem record {event : Event κ ρ} {R : Unit → List (Event κ ρ) → Prop}
    (h : R () (log ++ [event])) : Ends log (Run.record event : Run κ ρ ε Unit) R E :=
  ⟨List.prefix_append _ _, h⟩

theorem create {make : ℕ → ρ} {R : ℕ → List (Event κ ρ) → Prop}
    (h : R log.length (log ++ [.create (make log.length)])) :
    Ends log (Run.create make : Run κ ρ ε ℕ) R E :=
  ⟨List.prefix_append _ _, h⟩

/-! ### Composed programs -/

theorem weaken {Q' : α → List (Event κ ρ) → Prop} {E' : List (Event κ ρ) → Prop}
    (h : Ends log x Q E) (hok : ∀ a log', log <+: log' → Q a log' → Q' a log')
    (herror : ∀ log', log <+: log' → E log' → E' log') : Ends log x Q' E' := by
  unfold Ends at h ⊢
  cases hrun : x.exec log with
  | mk outcome log' =>
    rw [hrun] at h
    cases outcome with
    | ok a => exact ⟨h.1, hok a log' h.1 h.2⟩
    | error e => exact ⟨h.1, herror log' h.1 h.2⟩

theorem bind {f : α → Run κ ρ ε β} {R : β → List (Event κ ρ) → Prop} (hx : Ends log x Q E)
    (hf : ∀ a log', log <+: log' → Q a log' → Ends log' (f a) R E) :
    Ends log (x >>= f) R E := by
  unfold Ends at hx ⊢
  rw [exec_bind]
  cases hrun : x.exec log with
  | mk outcome log' =>
    rw [hrun] at hx
    cases outcome with
    | error e => exact hx
    | ok a =>
      have hrest := hf a log' hx.1 hx.2
      unfold Ends at hrest
      dsimp only
      cases hnext : (f a).exec log' with
      | mk outcome' log'' =>
        rw [hnext] at hrest
        cases outcome' <;> exact ⟨hx.1.trans hrest.1, hrest.2⟩

/-- A program whose failure is a value. -/
theorem caught {δ : Type} {E' : List (Event κ ρ) → Prop} (hx : Ends log x Q E) :
    Ends log (Run.caught x : Run κ ρ δ (Except ε α))
      (fun outcome log' => match outcome with
        | .ok a => Q a log'
        | .error _ => E log') E' := by
  unfold Ends at hx ⊢
  rw [exec_caught]
  cases hrun : x.exec log with
  | mk outcome log' =>
    rw [hrun] at hx
    cases outcome <;> exact hx

/-- A program whose outcome is not looked at. -/
theorem discard {R : List (Event κ ρ) → Prop} (h : Ends log x (fun _ => R) R) :
    log <+: (x.exec log).2 ∧ R (x.exec log).2 := by
  unfold Ends at h
  cases hrun : x.exec log with
  | mk outcome log' =>
    rw [hrun] at h
    cases outcome <;> exact h

/-- What is said about a run that returns a value. -/
theorem of_exec {a : α} {log' : List (Event κ ρ)} (h : Ends log x Q E)
    (hexec : x.exec log = (.ok a, log')) : Q a log' := by
  unfold Ends at h
  rw [hexec] at h
  exact h.2

/-- Two specifications of a program. -/
theorem and {Q' : α → List (Event κ ρ) → Prop} {E' : List (Event κ ρ) → Prop} (h : Ends log x Q E)
    (h' : Ends log x Q' E') :
    Ends log x (fun a log' => Q a log' ∧ Q' a log') fun log' => E log' ∧ E' log' := by
  unfold Ends at h h' ⊢
  cases hrun : x.exec log with
  | mk outcome log' =>
    rw [hrun] at h h'
    cases outcome with
    | ok a => exact ⟨h.1, h.2, h'.2⟩
    | error e => exact ⟨h.1, h.2, h'.2⟩

/-- What a program returns. -/
theorem and_yields {R : α → Prop} (h : Ends log x Q E) (hyields : x.Yields R) :
    Ends log x (fun a log' => Q a log' ∧ R a) E := by
  unfold Ends at h ⊢
  have hreturned := hyields log
  cases hrun : x.exec log with
  | mk outcome log' =>
    rw [hrun] at h hreturned
    cases outcome with
    | ok a => exact ⟨h.1, h.2, hreturned a rfl⟩
    | error e => exact h

/-- Cleaning up at the end of a scope. -/
theorem ensure {cleanup : Run κ ρ ε Unit} {Q' : α → List (Event κ ρ) → Prop}
    {E' : List (Event κ ρ) → Prop} (hx : Ends log x Q E)
    (hok : ∀ a log', log <+: log' → Q a log' → Ends log' cleanup (fun _ => Q' a) (Q' a))
    (herror : ∀ log', log <+: log' → E log' → Ends log' cleanup (fun _ => E') E') :
    Ends log (Run.ensure x cleanup) Q' E' := by
  unfold Ends at hx ⊢
  rw [exec_ensure]
  cases hrun : x.exec log with
  | mk outcome log' =>
    rw [hrun] at hx
    cases outcome with
    | ok a =>
      obtain ⟨hgrows, hpost⟩ := (hok a log' hx.1 hx.2).discard
      exact ⟨hx.1.trans hgrows, hpost⟩
    | error e =>
      obtain ⟨hgrows, hpost⟩ := (herror log' hx.1 hx.2).discard
      exact ⟨hx.1.trans hgrows, hpost⟩

/-- Cleaning up before an early return. -/
theorem onError {cleanup : Run κ ρ ε Unit} {E' : List (Event κ ρ) → Prop} (hx : Ends log x Q E)
    (herror : ∀ log', log <+: log' → E log' → Ends log' cleanup (fun _ => E') E') :
    Ends log (Run.onError x cleanup) Q E' := by
  unfold Ends at hx ⊢
  cases hrun : x.exec log with
  | mk outcome log' =>
    rw [hrun] at hx
    cases outcome with
    | ok a =>
      rw [exec_onError_of_ok hrun]
      exact hx
    | error e =>
      rw [exec_onError_of_error hrun]
      obtain ⟨hgrows, hpost⟩ := (herror log' hx.1 hx.2).discard
      exact ⟨hx.1.trans hgrows, hpost⟩

/-- A loop of which `n` elements are done. -/
theorem foldlM_from (Inv : ℕ → β → List (Event κ ρ) → Prop) {step : β → α → Run κ ρ ε β}
    {xs : List α} (n : ℕ)
    (hstep : ∀ k (hk : k < xs.length) b log, Inv (n + k) b log →
      Ends log (step b xs[k]) (Inv (n + k + 1)) E) (b : β) (h : Inv n b log) :
    Ends log (xs.foldlM step b) (Inv (n + xs.length)) E := by
  induction xs generalizing n b log with
  | nil => exact pure h
  | cons x xs ih =>
    rw [List.foldlM_cons, List.length_cons, Nat.add_comm xs.length, ← Nat.add_assoc]
    refine (hstep 0 (Nat.zero_lt_succ _) b log h).bind fun b' log' _ h' =>
      ih (n + 1) (fun k hk c log hc => ?_) b' h'
    have hshift : n + 1 + k = n + (k + 1) := by omega
    rw [hshift] at hc ⊢
    exact hstep (k + 1) (Nat.succ_lt_succ hk) c log hc

/-- A loop over a list, with an invariant on the number of its elements that are done. -/
theorem foldlM_getElem (Inv : ℕ → β → List (Event κ ρ) → Prop) {step : β → α → Run κ ρ ε β}
    {xs : List α}
    (hstep : ∀ k (hk : k < xs.length) b log, Inv k b log →
      Ends log (step b xs[k]) (Inv (k + 1)) E) (b : β) (h : Inv 0 b log) :
    Ends log (xs.foldlM step b) (Inv xs.length) E := by
  have hloop := foldlM_from Inv (E := E) 0 (fun k hk c log hc => by
    rw [Nat.zero_add] at hc ⊢
    exact hstep k hk c log hc) b h
  rwa [Nat.zero_add] at hloop

/-- A loop with an invariant. -/
theorem foldlM (Inv : β → List (Event κ ρ) → Prop) {step : β → α → Run κ ρ ε β} {xs : List α}
    (hstep : ∀ b, ∀ a ∈ xs, ∀ log, Inv b log → Ends log (step b a) Inv E) (b : β) (h : Inv b log) :
    Ends log (xs.foldlM step b) Inv E :=
  foldlM_getElem (fun _ => Inv) (fun k hk b log => hstep b xs[k] (List.getElem_mem hk) log) b h

/-- An iteration that pushes a value. -/
theorem pushStep {body : β → Run κ ρ ε α} {pushed : Pushed ε α} {b : β}
    (hbody : pushed.2 = .ok () → Ends log (body b) Q fun _ => True) :
    Ends log (Run.pushStep body pushed b)
      (fun pushed' log' => pushed'.2 = .ok () → pushed.2 = .ok () ∧
        ∃ a, pushed'.1 = pushed.1 ++ [a] ∧ Q a log') E := by
  obtain ⟨values, outcome⟩ := pushed
  cases outcome with
  | error e => exact pure fun h => by cases h
  | ok u =>
    refine (hbody rfl).caught.bind fun outcome log' _ h => ?_
    cases outcome with
    | ok a => exact pure fun _ => ⟨rfl, a, rfl, h⟩
    | error e => exact pure fun h => by cases h

end Run.Ends

-- What a program does is said with the lemmas above. Unfolding the specification would run it.
attribute [irreducible] Run.Ends

end Lifetime
