import Mathlib.Data.List.Forall2
import RiftGPU.Lifetime.Scope
import RiftGPU.Trace.Traced

/-!
# Programs that refine others

A program with objects refines a call without objects when both end in the same way and the calls
that are observed in its log are the events of the other. Returned values are compared by a
relation, because those of the program may hold objects.

## Main definitions

* `Lifetime.observed`: the observed events of a log.
* `Lifetime.Refines`: refinement, up to a relation on the returned values.

## Main results

* `Lifetime.Refines.bind`, `Lifetime.Refines.foldlM`, `Lifetime.Refines.caught`: refinement of
  composed programs.
* `Lifetime.Refines.ensure`, `Lifetime.Refines.onError`: releasing objects is not observed.
-/

namespace Lifetime

variable {κ ρ σ ε α β γ δ : Type}

/-- The event that a call is observed as. -/
def Event.observe (observe : κ → Option σ) : Event κ ρ → Option σ
  | call name _ => observe name
  | create _ => none
  | destroy _ => none

/-- The observed events of a log. -/
def observed (observe : κ → Option σ) (log : List (Event κ ρ)) : List σ :=
  log.filterMap (Event.observe observe)

/-- Outcomes that are equal up to a relation on the values. -/
inductive Matches (rel : α → β → Prop) : Except ε α → Except ε β → Prop where
  | ok {a : α} {b : β} (h : rel a b) : Matches rel (.ok a) (.ok b)
  | error (e : ε) : Matches rel (.error e) (.error e)

theorem Matches.eq {x y : Except ε α} (h : Matches Eq x y) : x = y := by
  cases h with
  | ok heq => exact congrArg _ heq
  | error e => rfl

/-- The program ends as the call does, and its log has the same events. -/
def Refines (observe : κ → Option σ) (rel : α → β → Prop) (x : Run κ ρ ε α)
    (y : Traced σ ε β) : Prop :=
  ∀ log, Matches rel (x.exec log).1 y.result ∧
    observed observe (x.exec log).2 = observed observe log ++ y.log

/-- What a loop has pushed, and the outcome of a loop that only returns the values when it is
complete. -/
inductive PushedMatches (rel : α → β → Prop) : Run.Pushed ε α → Except ε (List β) → Prop where
  | ok {pushed : List α} {values : List β} (h : List.Forall₂ rel pushed values) :
    PushedMatches rel (pushed, .ok ()) (.ok values)
  | error (pushed : List α) (e : ε) : PushedMatches rel (pushed, .error e) (.error e)

/-- A program without observed events, by how it ends. -/
abbrev Returns (observe : κ → Option σ) (rel : α → β → Prop) (x : Run κ ρ ε α)
    (outcome : Except ε β) : Prop := Refines observe rel x (Traced.call outcome)

namespace Refines

variable {observe : κ → Option σ} {rel : α → β → Prop} {x : Run κ ρ ε α} {y : Traced σ ε β}

theorem pure {a : α} {b : β} (h : rel a b) :
    Refines observe rel (Pure.pure a : Run κ ρ ε α) (Pure.pure b : Traced σ ε β) :=
  fun _ => ⟨.ok h, (List.append_nil _).symm⟩

/-- What the program returns, the call has a value for. -/
theorem yields (h : Refines observe rel x y) : x.Yields fun a => ∃ b, rel a b := by
  intro log a ha
  obtain ⟨hmatch, -⟩ := h log
  rw [ha] at hmatch
  generalize y.result = outcome at hmatch
  cases hmatch with
  | ok hrel => exact ⟨_, hrel⟩

theorem throw (e : ε) : Refines observe rel (MonadExcept.throw e : Run κ ρ ε α)
    (MonadExcept.throw e : Traced σ ε β) :=
  fun _ => ⟨.error e, (List.append_nil _).symm⟩

theorem lift (outcome : Except ε α) : Refines observe Eq (Run.lift outcome : Run κ ρ ε α)
    (Traced.call outcome : Traced σ ε α) := by
  intro log
  refine ⟨?_, (List.append_nil _).symm⟩
  cases outcome with
  | ok a => exact .ok rfl
  | error e => exact .error e

theorem mono {rel' : α → β → Prop} (h : Refines observe rel x y)
    (himp : ∀ a b, rel a b → rel' a b) : Refines observe rel' x y := by
  intro log
  obtain ⟨hmatch, hlog⟩ := h log
  refine ⟨?_, hlog⟩
  generalize (x.exec log).1 = outcome at hmatch
  generalize y.result = outcome' at hmatch
  cases hmatch with
  | ok hrel => exact .ok (himp _ _ hrel)
  | error e => exact .error e

theorem bind {rel' : γ → δ → Prop} {f : α → Run κ ρ ε γ} {g : β → Traced σ ε δ}
    (hx : Refines observe rel x y) (hf : ∀ a b, rel a b → Refines observe rel' (f a) (g b)) :
    Refines observe rel' (x >>= f) (y >>= g) := by
  intro log
  obtain ⟨hmatch, hlog⟩ := hx log
  rw [Run.exec_bind]
  cases hrun : x.exec log with
  | mk outcome log' =>
    rw [hrun] at hmatch hlog
    cases houtcome : y.result with
    | error e =>
      rw [houtcome] at hmatch
      cases hmatch
      rw [Traced.result_bind, houtcome, Traced.log_bind_of_error houtcome]
      exact ⟨.error e, hlog⟩
    | ok b =>
      rw [houtcome] at hmatch
      cases hmatch with
      | ok hrel =>
        obtain ⟨hmatch', hlog'⟩ := hf _ b hrel log'
        rw [Traced.result_bind, houtcome, Traced.log_bind_of_ok houtcome, ← List.append_assoc,
          ← hlog]
        exact ⟨hmatch', hlog'⟩

/-- A first step that returns the same value. -/
theorem andThen {x : Run κ ρ ε α} {y : Traced σ ε α} {rel' : γ → δ → Prop}
    {f : α → Run κ ρ ε γ} {g : α → Traced σ ε δ} (hx : Refines observe Eq x y)
    (hf : ∀ a, Refines observe rel' (f a) (g a)) : Refines observe rel' (x >>= f) (y >>= g) :=
  hx.bind fun a _ heq => heq ▸ hf a

/-- Loops over related lists, with related states. -/
theorem foldlM {entry : γ → δ → Prop} {step : α → γ → Run κ ρ ε α} {step' : β → δ → Traced σ ε β}
    {xs : List γ} {ys : List δ} (hentries : List.Forall₂ entry xs ys)
    (hstep : ∀ s t c d, rel s t → entry c d → Refines observe rel (step s c) (step' t d))
    {s : α} {t : β} (hrel : rel s t) :
    Refines observe rel (xs.foldlM step s) (ys.foldlM step' t) := by
  induction hentries generalizing s t with
  | nil => exact pure hrel
  | cons hentry _ ih =>
    rw [List.foldlM_cons, List.foldlM_cons]
    exact (hstep s t _ _ hrel hentry).bind fun s' t' hrel' => ih hrel'

theorem caught {δ : Type} (h : Refines observe rel x y) :
    Refines observe (Matches rel) (Run.caught x : Run κ ρ δ (Except ε α))
      (Traced.caught y : Traced σ δ (Except ε β)) := by
  intro log
  obtain ⟨hmatch, hlog⟩ := h log
  rw [Run.exec_caught, Traced.result_caught, Traced.log_caught]
  exact ⟨.ok hmatch, hlog⟩

/-- A loop that keeps what it pushed. -/
theorem foldlM_pushStep {δ : Type} {entry : γ → δ → Prop} {body : γ → Run κ ρ ε α}
    {step : List β → δ → Traced σ ε (List β)} {xs : List γ} {ys : List δ}
    (hentries : List.Forall₂ entry xs ys)
    (hbody : ∀ pushed values c d, List.Forall₂ rel pushed values → entry c d →
      Refines observe (fun a values => List.Forall₂ rel (pushed ++ [a]) values) (body c)
        (step values d)) {pushed : List α} {values : List β}
    (hpushed : List.Forall₂ rel pushed values) :
    Refines observe (PushedMatches rel) (xs.foldlM (Run.pushStep body) (pushed, .ok ()))
      (Traced.caught (ys.foldlM step values) : Traced σ ε _) := by
  induction hentries generalizing pushed values with
  | nil => exact pure (.ok hpushed)
  | cons hentry hrest ih =>
    rename_i c d xs ys
    intro log
    obtain ⟨hmatch, hlog⟩ := hbody pushed values c d hpushed hentry log
    rw [List.foldlM_cons, List.foldlM_cons, Traced.result_caught, Traced.log_caught,
      Traced.result_bind]
    cases hrun : (body c).exec log with
    | mk outcome log' =>
      rw [hrun] at hmatch hlog
      cases houtcome : (step values d).result with
      | error e =>
        rw [houtcome] at hmatch
        cases hmatch
        rw [Run.exec_bind_of_ok (Run.exec_pushStep_of_error hrun pushed),
          Run.exec_foldlM_pushStep_error, Traced.log_bind_of_error houtcome]
        exact ⟨.ok (.error pushed e), hlog⟩
      | ok values' =>
        rw [houtcome] at hmatch
        cases hmatch with
        | ok hrel =>
          rename_i a
          obtain ⟨hmatch', hlog'⟩ := ih hrel log'
          rw [Run.exec_bind_of_ok (Run.exec_pushStep_of_ok hrun pushed),
            Traced.log_bind_of_ok houtcome, ← List.append_assoc, ← hlog]
          exact ⟨hmatch', hlog'⟩

/-- A program that goes on after a failure that it returned as a value. -/
theorem bind_caught {δ : Type} {kept : γ → Except ε β → Prop} {rel' : α → δ → Prop}
    {x : Run κ ρ ε γ} {f : γ → Run κ ρ ε α} {g : β → Traced σ ε δ}
    (hx : Refines observe kept x (Traced.caught y : Traced σ ε _))
    (hok : ∀ c b, kept c (.ok b) → Refines observe rel' (f c) (g b))
    (herror : ∀ c e, kept c (.error e) → Returns observe rel' (f c) (.error e)) :
    Refines observe rel' (x >>= f) (y >>= g) := by
  intro log
  obtain ⟨hmatch, hlog⟩ := hx log
  rw [Traced.result_caught] at hmatch
  rw [Traced.log_caught] at hlog
  rw [Run.exec_bind]
  cases hrun : x.exec log with
  | mk outcome log' =>
    rw [hrun] at hmatch hlog
    cases hmatch with
    | ok hkept =>
      rename_i c
      cases houtcome : y.result with
      | error e =>
        rw [houtcome] at hkept
        obtain ⟨hmatch', hlog'⟩ := herror c e hkept log'
        rw [Traced.result_bind, houtcome, Traced.log_bind_of_error houtcome, ← hlog]
        exact ⟨hmatch', hlog'.trans (List.append_nil _)⟩
      | ok b =>
        rw [houtcome] at hkept
        obtain ⟨hmatch', hlog'⟩ := hok c b hkept log'
        rw [Traced.result_bind, houtcome, Traced.log_bind_of_ok houtcome, ← List.append_assoc,
          ← hlog]
        exact ⟨hmatch', hlog'⟩

/-! ### Events -/

theorem call {name : κ} {uses : List ρ} {event : σ} (h : observe name = some event) :
    Refines observe Eq (Run.call name uses : Run κ ρ ε Unit) (Traced.record event) := by
  intro log
  rw [Run.call, Run.exec_record, observed, List.filterMap_append]
  have hevent : Event.observe observe (.call name uses : Event κ ρ) = some event := h
  refine ⟨.ok rfl, congrArg _ ?_⟩
  rw [List.filterMap_cons_some hevent]
  rfl

/-- A call that is not observed is one that nothing happens in. -/
theorem hidden {name : κ} {uses : List ρ} (h : observe name = none) :
    Returns observe Eq (Run.call name uses : Run κ ρ ε Unit) (.ok ()) := by
  intro log
  rw [Run.call, Run.exec_record, observed, List.filterMap_append]
  have hevent : Event.observe observe (.call name uses : Event κ ρ) = none := h
  refine ⟨.ok rfl, congrArg _ ?_⟩
  rw [List.filterMap_cons_none hevent]
  rfl

theorem create (make : ℕ → ρ) :
    Returns observe (fun _ _ => True) (Run.create make : Run κ ρ ε ℕ) (.ok ()) := by
  intro log
  rw [Run.exec_create, observed, List.filterMap_append]
  exact ⟨.ok trivial, rfl⟩

theorem destroy (object : ρ) :
    Returns observe Eq (Run.destroy object : Run κ ρ ε Unit) (.ok ()) := by
  intro log
  rw [Run.destroy, Run.exec_record, observed, List.filterMap_append]
  exact ⟨.ok rfl, rfl⟩

/-! ### Releasing objects -/

theorem ensure {cleanup : Run κ ρ ε Unit} (h : Refines observe rel x y)
    (hcleanup : Returns observe Eq cleanup (.ok ())) :
    Refines observe rel (Run.ensure x cleanup) y := by
  intro log
  obtain ⟨hmatch, hlog⟩ := h log
  rw [Run.exec_ensure]
  exact ⟨hmatch, ((hcleanup _).2.trans (List.append_nil _)).trans hlog⟩

theorem onError {cleanup : Run κ ρ ε Unit} (h : Refines observe rel x y)
    (hcleanup : Returns observe Eq cleanup (.ok ())) :
    Refines observe rel (Run.onError x cleanup) y := by
  intro log
  obtain ⟨hmatch, hlog⟩ := h log
  cases hrun : x.exec log with
  | mk outcome log' =>
    rw [hrun] at hmatch hlog
    cases outcome with
    | ok a =>
      rw [Run.exec_onError_of_ok hrun]
      exact ⟨hmatch, hlog⟩
    | error e =>
      rw [Run.exec_onError_of_error hrun]
      exact ⟨hmatch, ((hcleanup _).2.trans (List.append_nil _)).trans hlog⟩

/-- A first step that only computes. -/
theorem lift_bind {outcome : Except ε γ} {f : γ → Run κ ρ ε α} {g : γ → Traced σ ε β}
    (h : ∀ c, outcome = .ok c → Refines observe rel (f c) (g c)) :
    Refines observe rel (Run.lift outcome >>= f) (Traced.call outcome >>= g) := by
  cases outcome with
  | error e => exact fun log => ⟨.error e, (List.append_nil _).symm⟩
  | ok c => exact h c rfl

/-- A first step that is not observed, and whose value is not compared. -/
theorem skipWith {f : γ → Run κ ρ ε α} {x : Run κ ρ ε γ} {seen : γ → Unit → Prop}
    (hx : Returns observe seen x (.ok ())) (hf : ∀ c, Refines observe rel (f c) y) :
    Refines observe rel (x >>= f) y := by
  intro log
  obtain ⟨hmatch, hlog⟩ := hx log
  rw [Run.exec_bind]
  cases hrun : x.exec log with
  | mk outcome log' =>
    rw [hrun] at hmatch hlog
    cases hmatch
    obtain ⟨hmatch', hlog'⟩ := hf _ log'
    exact ⟨hmatch', hlog'.trans (congrArg (· ++ y.log) (hlog.trans (List.append_nil _)))⟩

/-- A first step that is not observed. -/
theorem skip {f : Unit → Run κ ρ ε α} {x : Run κ ρ ε Unit} (hx : Returns observe Eq x (.ok ()))
    (hf : Refines observe rel (f ()) y) : Refines observe rel (x >>= f) y :=
  skipWith hx fun _ => hf

/-- A first step that is not observed, and whose failure is a value. -/
theorem caught_bind {ζ : Type} {seen : γ → δ → Prop} {x : Run κ ρ ζ γ} {outcome : Except ζ δ}
    {f : Except ζ γ → Run κ ρ ε α} (hx : Returns observe seen x outcome)
    (hf : ∀ result, Matches seen result outcome → Refines observe rel (f result) y) :
    Refines observe rel (Run.caught x >>= f) y := by
  intro log
  obtain ⟨hmatch, hlog⟩ := hx log
  rw [Run.exec_bind, Run.exec_caught]
  obtain ⟨hmatch', hlog'⟩ := hf (x.exec log).1 hmatch (x.exec log).2
  exact ⟨hmatch', hlog'.trans (congrArg (· ++ y.log) (hlog.trans (List.append_nil _)))⟩

end Refines

namespace Returns

variable {observe : κ → Option σ} {rel : α → β → Prop} {x : Run κ ρ ε α} {outcome : Except ε β}

theorem pure {a : α} {b : β} (h : rel a b) :
    Returns observe rel (Pure.pure a : Run κ ρ ε α) (.ok b) :=
  Refines.pure h

theorem bind {rel' : γ → δ → Prop} {f : α → Run κ ρ ε γ} {g : β → Except ε δ}
    (hx : Returns observe rel x outcome)
    (hf : ∀ a b, rel a b → Returns observe rel' (f a) (g b)) :
    Returns observe rel' (x >>= f) (outcome >>= g) := by
  have h := Refines.bind hx hf
  cases outcome <;> exact h

/-- A program whose value is not compared. -/
theorem forget (h : Returns observe rel x outcome) :
    Returns observe (fun a _ => ∃ b, outcome = .ok b ∧ rel a b) x
      (outcome.map fun _ => ()) := by
  intro log
  obtain ⟨hmatch, hlog⟩ := h log
  refine ⟨?_, hlog⟩
  change Matches _ (x.exec log).1 (outcome.map fun _ => ())
  rw [Traced.result_liftM] at hmatch
  generalize (x.exec log).1 = result at hmatch
  cases hmatch with
  | ok hrel => exact .ok ⟨_, rfl, hrel⟩
  | error e => exact .error e

/-- A program that goes on without a failure after `x`. -/
theorem finish {rel' : γ → β → Prop} {f : α → Run κ ρ ε γ} (hx : Returns observe rel x outcome)
    (hf : ∀ a b, rel a b → Returns observe rel' (f a) (.ok b)) :
    Returns observe rel' (x >>= f) outcome := by
  have h := hx.bind hf
  cases outcome <;> exact h

end Returns

end Lifetime
