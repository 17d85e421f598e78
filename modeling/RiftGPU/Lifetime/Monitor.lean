import RiftGPU.Lifetime.Ends
import RiftGPU.Trace.Monitor

/-!
# Monitored programs

The events of a program that owns objects are read by a monitor. A specification says from which
states of the monitor on all events of a program are allowed, and what its state is after them.

## Main definitions

* `Monitor.Watched`: the specification of a program.

## Main results

* `Monitor.Watched.record`, `Monitor.Watched.create`: single events.
* `Monitor.Watched.bind`, `Monitor.Watched.ensure`, `Monitor.Watched.foldlM`: composed programs.
-/

namespace Monitor

open Lifetime

variable {S κ ρ ε α β : Type} {monitor : Monitor S (Event κ ρ)} {s : S} {log : List (Event κ ρ)}

/-- All events of a log are allowed, and they lead to a state with `P`. -/
def Leads (monitor : Monitor S (Event κ ρ)) (s : S) (P : S → Prop) (log : List (Event κ ρ)) :
    Prop :=
  monitor.Allows s log ∧ P (monitor.after s log)

/-- From a state with `P` on, the events of a program are allowed. They lead to a state with `Q a`
when it returns `a`, and with `E` when it fails. -/
def Watched (monitor : Monitor S (Event κ ρ)) (P : S → Prop) (x : Run κ ρ ε α) (Q : α → S → Prop)
    (E : S → Prop) : Prop :=
  ∀ s log, monitor.Leads s P log →
    x.Ends log (fun a => monitor.Leads s (Q a)) (monitor.Leads s E)

theorem Leads.mono {P P' : S → Prop} (h : monitor.Leads s P log) (himp : ∀ s, P s → P' s) :
    monitor.Leads s P' log :=
  ⟨h.1, himp _ h.2⟩

theorem Leads.snoc {P R : S → Prop} {event : Event κ ρ} (h : monitor.Leads s P log)
    (hevent : ∀ s, P s → monitor.Allowed s event ∧ R (monitor.next s event)) :
    monitor.Leads s R (log ++ [event]) := by
  obtain ⟨hallowed, hnext⟩ := hevent _ h.2
  refine ⟨allows_append.2 ⟨h.1, hallowed, trivial⟩, ?_⟩
  rw [after_append]
  exact hnext

namespace Watched

variable {P : S → Prop} {Q : α → S → Prop} {E : S → Prop} {x : Run κ ρ ε α}

theorem pure {a : α} (h : ∀ s, P s → Q a s) :
    Watched monitor P (Pure.pure a : Run κ ρ ε α) Q E :=
  fun _ _ hleads => .pure (hleads.mono h)

theorem throw (e : ε) (h : ∀ s, P s → E s) :
    Watched monitor P (MonadExcept.throw e : Run κ ρ ε α) Q E :=
  fun _ _ hleads => .throw e (hleads.mono h)

/-- A program without events. -/
theorem liftM (result : Except ε α) :
    Watched monitor P (MonadLiftT.monadLift result : Run κ ρ ε α) (fun _ => P) P :=
  fun _ _ hleads => .liftM (fun _ _ => hleads) hleads

/-- A program without events, and what it returns. -/
theorem liftM_eq (result : Except ε α) :
    Watched monitor P (MonadLiftT.monadLift result : Run κ ρ ε α)
      (fun a s => P s ∧ result = .ok a) P :=
  fun _ _ hleads => .liftM (fun _ ha => hleads.mono fun _ hp => ⟨hp, ha⟩) hleads

theorem weaken {P' : S → Prop} {Q' : α → S → Prop} {E' : S → Prop}
    (h : Watched monitor P x Q E) (hpre : ∀ s, P' s → P s) (hok : ∀ a s, Q a s → Q' a s)
    (herror : ∀ s, E s → E' s) : Watched monitor P' x Q' E' :=
  fun s log hleads => (h s log (hleads.mono hpre)).weaken (fun a _ _ hpost => hpost.mono (hok a))
    fun _ _ hpost => hpost.mono herror

theorem bind {f : α → Run κ ρ ε β} {R : β → S → Prop} (hx : Watched monitor P x Q E)
    (hf : ∀ a, Watched monitor (Q a) (f a) R E) : Watched monitor P (x >>= f) R E :=
  fun s log hleads => (hx s log hleads).bind fun a log' _ => hf a s log'

/-- A program whose failure is a value. -/
theorem caught {δ : Type} {E' : S → Prop} (hx : Watched monitor P x Q E) :
    Watched monitor P (Run.caught x : Run κ ρ δ (Except ε α))
      (fun outcome s => match outcome with
        | .ok a => Q a s
        | .error _ => E s) E' :=
  fun s log hleads => (hx s log hleads).caught.weaken
    (fun outcome _ _ hpost => by cases outcome <;> exact hpost) fun _ _ hpost => hpost

/-- Cleaning up at the end of a scope. -/
theorem ensure {cleanup : Run κ ρ ε Unit} {Q' : α → S → Prop} {E' : S → Prop}
    (hx : Watched monitor P x Q E) (hok : ∀ a, Watched monitor (Q a) cleanup (fun _ => Q' a) (Q' a))
    (herror : Watched monitor E cleanup (fun _ => E') E') :
    Watched monitor P (Run.ensure x cleanup) Q' E' :=
  fun s log hleads => (hx s log hleads).ensure (fun a log' _ => hok a s log') fun log' _ =>
    herror s log'

/-- Cleaning up before an early return. -/
theorem onError {cleanup : Run κ ρ ε Unit} {E' : S → Prop} (hx : Watched monitor P x Q E)
    (herror : Watched monitor E cleanup (fun _ => E') E') :
    Watched monitor P (Run.onError x cleanup) Q E' :=
  fun s log hleads => (hx s log hleads).onError fun log' _ => herror s log'

/-- A loop with an invariant on its state and that of the monitor. -/
theorem foldlM {Inv : β → S → Prop} {step : β → α → Run κ ρ ε β} {xs : List α}
    (hstep : ∀ b, ∀ a ∈ xs, Watched monitor (Inv b) (step b a) Inv E) (b : β) :
    Watched monitor (Inv b) (xs.foldlM step b) Inv E :=
  fun s _ hleads => Run.Ends.foldlM _ (fun b a ha log' hlog => hstep b a ha s log' hlog) b hleads

/-- A loop with an invariant on the number of elements that are done. -/
theorem foldlM_getElem (Inv : ℕ → β → S → Prop) {step : β → α → Run κ ρ ε β} {xs : List α}
    (hstep : ∀ k (hk : k < xs.length) b, Watched monitor (Inv k b) (step b xs[k]) (Inv (k + 1)) E)
    (b : β) : Watched monitor (Inv 0 b) (xs.foldlM step b) (Inv xs.length) E :=
  fun s _ hleads => Run.Ends.foldlM_getElem (fun k b => monitor.Leads s (Inv k b))
    (fun k hk b log' h => hstep k hk b s log' h) b hleads

/-- An iteration that pushes a value, which keeps an invariant also when it fails. -/
theorem pushStep {body : β → Run κ ρ ε α} {b : β} {E' : S → Prop}
    (hbody : Watched monitor P (body b) (fun _ => P) P) (pushed : Run.Pushed ε α) :
    Watched monitor P (Run.pushStep body pushed b) (fun _ => P) E' := by
  rw [Run.pushStep]
  cases pushed.2 with
  | error e => exact pure fun _ h => h
  | ok u =>
    refine hbody.caught.bind fun outcome => ?_
    cases outcome with
    | ok a => exact pure fun _ h => h
    | error e => exact pure fun _ h => h

/-! ### Events -/

theorem record {event : Event κ ρ} {R : S → Prop}
    (h : ∀ s, P s → monitor.Allowed s event ∧ R (monitor.next s event)) :
    Watched monitor P (Run.record event : Run κ ρ ε Unit) (fun _ => R) E :=
  fun _ _ hleads => .record (hleads.snoc h)

theorem create {make : ℕ → ρ} {R : ℕ → S → Prop}
    (h : ∀ n s, P s → monitor.Allowed s (.create (make n)) ∧
      R n (monitor.next s (.create (make n)))) :
    Watched monitor P (Run.create make : Run κ ρ ε ℕ) R E :=
  fun _ log hleads => .create (hleads.snoc (h log.length))

end Watched

end Monitor
