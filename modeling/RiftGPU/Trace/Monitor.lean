import Mathlib.Data.List.Basic

/-!
# Monitors

A monitor reads events one after the other and keeps a state. It allows an event or not, depending
on the events before.

## Main definitions

* `Monitor`: monitors, with `Monitor.after` and `Monitor.Allows`.

## Main results

* `Monitor.allowed_of_split`: what an allowed log says about each of its events.
-/

/-- A monitor with states in `S`. -/
structure Monitor (S σ : Type) where
  next : S → σ → S
  Allowed : S → σ → Prop

namespace Monitor

variable {S σ : Type} {monitor : Monitor S σ} {s : S}

/-- The state after the events of a log. -/
def after (monitor : Monitor S σ) (s : S) (log : List σ) : S := log.foldl monitor.next s

/-- All events of a log are allowed. -/
def Allows (monitor : Monitor S σ) (s : S) : List σ → Prop
  | [] => True
  | event :: log => monitor.Allowed s event ∧ Allows monitor (monitor.next s event) log

instance decidableAllows [∀ s event, Decidable (monitor.Allowed s event)] :
    ∀ (s : S) (log : List σ), Decidable (monitor.Allows s log)
  | _, [] => isTrue trivial
  | s, event :: log =>
    have := decidableAllows (monitor.next s event) log
    inferInstanceAs
      (Decidable (monitor.Allowed s event ∧ monitor.Allows (monitor.next s event) log))

@[simp] theorem after_append (front back : List σ) :
    monitor.after s (front ++ back) = monitor.after (monitor.after s front) back :=
  List.foldl_append

theorem allows_append {front back : List σ} :
    monitor.Allows s (front ++ back) ↔
      monitor.Allows s front ∧ monitor.Allows (monitor.after s front) back := by
  induction front generalizing s with
  | nil => exact ⟨fun h => ⟨trivial, h⟩, And.right⟩
  | cons event front ih =>
    rw [List.cons_append, Allows, Allows, ih, and_assoc]
    rfl

/-- Each event of an allowed log is allowed after the events before it. -/
theorem allowed_of_split {front back : List σ} {event : σ}
    (h : monitor.Allows s (front ++ event :: back)) :
    monitor.Allowed (monitor.after s front) event :=
  (allows_append.1 h).2.1

end Monitor
