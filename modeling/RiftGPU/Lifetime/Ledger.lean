import Mathlib.Data.Multiset.Filter

/-!
# Lifetimes of objects

A program creates objects, some of them from others, uses them in calls and destroys them. The
events are kept in a log. Replaying the log says which objects are live, and it fails at the first
event that is out of order: an object that is made from one that does not exist, a use of an object
that is not live, or the destruction of an object that others were made from and that are live.

## Main definitions

* `Lifetime.Resource`: objects, with what they are made from.
* `Lifetime.Event`: what happens to objects.
* `Lifetime.replay`: the live objects after the events of a log.
* `Lifetime.HasLifetime`: an object is created once and destroyed once, and is not mentioned
  outside of this span.

## Main results

* `Lifetime.Sound.hasLifetime`: the objects that are not live at the end have a lifetime.
-/

namespace Lifetime

/-- Objects that are told apart by a serial number, and that may be made from other objects. -/
class Resource (ρ : Type) where
  serial : ρ → ℕ
  owners : ρ → List ρ

export Resource (serial owners)

/-- What happens to objects: they are created, used in a call and destroyed. -/
inductive Event (κ ρ : Type) where
  | create (object : ρ)
  | call (name : κ) (uses : List ρ)
  | destroy (object : ρ)
deriving DecidableEq, Repr

variable {κ ρ : Type} [DecidableEq ρ] [Resource ρ]

/-- The event names the object, or an object that is made from it. -/
def Event.Mentions (object : ρ) : Event κ ρ → Prop
  | create other => object = other ∨ object ∈ owners other
  | call _ uses => object ∈ uses
  | destroy other => object = other ∨ object ∈ owners other

/-- The objects that are live after an event. -/
def Event.step (live : Multiset ρ) : Event κ ρ → Option (Multiset ρ)
  | create object =>
    if object ∉ live ∧ ∀ owner ∈ owners object, owner ∈ live then some (object ::ₘ live) else none
  | call _ uses => if ∀ object ∈ uses, object ∈ live then some live else none
  | destroy object =>
    if object ∈ live ∧ ∀ other ∈ live, object ∉ owners other then some (live.erase object) else none

/-- The objects that are live after the events of a log. -/
def replay (live : Multiset ρ) (log : List (Event κ ρ)) : Option (Multiset ρ) :=
  log.foldlM Event.step live

/-- The objects that a log creates. -/
def created (log : List (Event κ ρ)) : List ρ :=
  log.filterMap fun event => match event with
    | .create object => some object
    | _ => none

omit [DecidableEq ρ] [Resource ρ] in
theorem mem_created {log : List (Event κ ρ)} {object : ρ} :
    object ∈ created log ↔ .create object ∈ log := by
  rw [created, List.mem_filterMap]
  constructor
  · rintro ⟨event, hmem, heq⟩
    cases event with
    | create other => exact Option.some.inj heq ▸ hmem
    | call name uses => cases heq
    | destroy other => cases heq
  · exact fun h => ⟨_, h, rfl⟩

/-! ### Steps -/

variable {live live' : Multiset ρ} {log : List (Event κ ρ)} {object : ρ}

theorem step_create_eq_some_iff : (Event.create object : Event κ ρ).step live = some live' ↔
    (object ∉ live ∧ ∀ owner ∈ owners object, owner ∈ live) ∧ object ::ₘ live = live' := by
  rw [Event.step, Option.ite_none_right_eq_some, Option.some_inj]

theorem step_call_eq_some_iff {name : κ} {uses : List ρ} :
    (Event.call name uses).step live = some live' ↔
      (∀ object ∈ uses, object ∈ live) ∧ live = live' := by
  rw [Event.step, Option.ite_none_right_eq_some, Option.some_inj]

theorem step_destroy_eq_some_iff : (Event.destroy object : Event κ ρ).step live = some live' ↔
    (object ∈ live ∧ ∀ other ∈ live, object ∉ owners other) ∧ live.erase object = live' := by
  rw [Event.step, Option.ite_none_right_eq_some, Option.some_inj]

@[simp] theorem replay_nil : replay live ([] : List (Event κ ρ)) = some live := rfl

theorem replay_cons_eq_some_iff {event : Event κ ρ} :
    replay live (event :: log) = some live' ↔
      ∃ mid, event.step live = some mid ∧ replay mid log = some live' := by
  rw [replay, List.foldlM_cons]
  exact Option.bind_eq_some_iff

theorem replay_append_eq_some_iff {front back : List (Event κ ρ)} :
    replay live (front ++ back) = some live' ↔
      ∃ mid, replay live front = some mid ∧ replay mid back = some live' := by
  rw [replay, List.foldlM_append]
  exact Option.bind_eq_some_iff

/-! ### Invariants of the live objects -/

/-- The objects that a live object is made from are live. -/
def Closed (live : Multiset ρ) : Prop := ∀ object ∈ live, ∀ owner ∈ owners object, owner ∈ live

omit [DecidableEq ρ] in
theorem closed_zero : Closed (0 : Multiset ρ) := fun _ h => absurd h (Multiset.notMem_zero _)

theorem Closed.step {event : Event κ ρ} (h : Closed live) (hnodup : live.Nodup)
    (hstep : event.step live = some live') : Closed live' ∧ live'.Nodup := by
  cases event with
  | create object =>
    obtain ⟨⟨hfresh, howners⟩, rfl⟩ := step_create_eq_some_iff.1 hstep
    refine ⟨fun other hmem owner howner => ?_, Multiset.nodup_cons.2 ⟨hfresh, hnodup⟩⟩
    rcases Multiset.mem_cons.1 hmem with rfl | hmem
    · exact Multiset.mem_cons_of_mem (howners owner howner)
    · exact Multiset.mem_cons_of_mem (h other hmem owner howner)
  | call name uses =>
    obtain ⟨-, rfl⟩ := step_call_eq_some_iff.1 hstep
    exact ⟨h, hnodup⟩
  | destroy object =>
    obtain ⟨⟨-, hchildren⟩, rfl⟩ := step_destroy_eq_some_iff.1 hstep
    refine ⟨fun other hmem owner howner => ?_, hnodup.erase object⟩
    have hother := Multiset.mem_of_mem_erase hmem
    refine (hnodup.mem_erase_iff).2 ⟨fun heq => ?_, h other hother owner howner⟩
    exact hchildren other hother (heq ▸ howner)

theorem Closed.replay (h : Closed live) (hnodup : live.Nodup)
    (hreplay : replay live log = some live') : Closed live' ∧ live'.Nodup := by
  induction log generalizing live with
  | nil =>
    obtain rfl := Option.some.inj hreplay
    exact ⟨h, hnodup⟩
  | cons event log ih =>
    obtain ⟨mid, hstep, hrest⟩ := replay_cons_eq_some_iff.1 hreplay
    obtain ⟨hmid, hmidNodup⟩ := h.step hnodup hstep
    exact ih hmid hmidNodup hrest

/-! ### What a replay says about an object -/

/-- An object that is not live is not live after an event that does not create it, and the event
does not mention it. -/
theorem not_mentions_of_step {event : Event κ ρ} (hclosed : Closed live) (hnotMem : object ∉ live)
    (hne : event ≠ .create object) (hstep : event.step live = some live') :
    ¬event.Mentions object ∧ object ∉ live' := by
  cases event with
  | create other =>
    obtain ⟨⟨-, howners⟩, rfl⟩ := step_create_eq_some_iff.1 hstep
    have hother : object ≠ other := fun heq => hne (heq ▸ rfl)
    refine ⟨?_, fun hmem => (Multiset.mem_cons.1 hmem).elim hother hnotMem⟩
    rintro (heq | howner)
    · exact hother heq
    · exact hnotMem (howners object howner)
  | call name uses =>
    obtain ⟨huses, rfl⟩ := step_call_eq_some_iff.1 hstep
    exact ⟨fun hmem => hnotMem (huses object hmem), hnotMem⟩
  | destroy other =>
    obtain ⟨⟨hmem, -⟩, rfl⟩ := step_destroy_eq_some_iff.1 hstep
    refine ⟨?_, fun h => hnotMem (Multiset.mem_of_mem_erase h)⟩
    rintro (rfl | howner)
    · exact hnotMem hmem
    · exact hnotMem (hclosed other hmem object howner)

/-- An object that is not live is not mentioned until it is created. -/
theorem not_mentions_of_replay (hclosed : Closed live) (hnodup : live.Nodup)
    (hnotMem : object ∉ live) (hcreate : .create object ∉ log)
    (hreplay : replay live log = some live') :
    (∀ event ∈ log, ¬event.Mentions object) ∧ object ∉ live' := by
  induction log generalizing live with
  | nil =>
    obtain rfl := Option.some.inj hreplay
    exact ⟨List.forall_mem_nil _, hnotMem⟩
  | cons event log ih =>
    obtain ⟨mid, hstep, hrest⟩ := replay_cons_eq_some_iff.1 hreplay
    obtain ⟨hne, hcreate⟩ := not_or.1 (mt List.mem_cons.2 hcreate)
    obtain ⟨hmentions, hmid⟩ := not_mentions_of_step hclosed hnotMem (Ne.symm hne) hstep
    obtain ⟨hclosedMid, hnodupMid⟩ := hclosed.step hnodup hstep
    obtain ⟨hlog, hend⟩ := ih hclosedMid hnodupMid hmid hcreate hrest
    exact ⟨List.forall_mem_cons.2 ⟨hmentions, hlog⟩, hend⟩

/-- A live object that is not live at the end is destroyed in between. -/
theorem exists_destroy_of_replay (hnodup : live.Nodup) (hclosed : Closed live)
    (hmem : object ∈ live) (hnotMem : object ∉ live') (hreplay : replay live log = some live') :
    ∃ between after, log = between ++ .destroy object :: after ∧
      .create object ∉ between ∧ .destroy object ∉ between := by
  induction log generalizing live with
  | nil =>
    obtain rfl := Option.some.inj hreplay
    exact absurd hmem hnotMem
  | cons event log ih =>
    by_cases heq : event = .destroy object
    · exact ⟨[], log, by rw [heq, List.nil_append], List.not_mem_nil, List.not_mem_nil⟩
    obtain ⟨mid, hstep, hrest⟩ := replay_cons_eq_some_iff.1 hreplay
    obtain ⟨hclosedMid, hnodupMid⟩ := hclosed.step hnodup hstep
    have hlive : object ∈ mid ∧ event ≠ .create object := by
      cases event with
      | create other =>
        obtain ⟨⟨hfresh, -⟩, rfl⟩ := step_create_eq_some_iff.1 hstep
        refine ⟨Multiset.mem_cons_of_mem hmem, fun h => hfresh ?_⟩
        exact Event.create.inj h ▸ hmem
      | call name uses =>
        obtain ⟨-, rfl⟩ := step_call_eq_some_iff.1 hstep
        exact ⟨hmem, by simp⟩
      | destroy other =>
        obtain ⟨-, rfl⟩ := step_destroy_eq_some_iff.1 hstep
        refine ⟨hnodup.mem_erase_iff.2 ⟨fun h => heq (h ▸ rfl), hmem⟩, by simp⟩
    obtain ⟨between, after, rfl, hcreate, hdestroy⟩ := ih hnodupMid hclosedMid hlive.1 hrest
    refine ⟨event :: between, after, rfl, ?_, ?_⟩
    · exact fun h => (List.mem_cons.1 h).elim (fun h => hlive.2 h.symm) hcreate
    · exact fun h => (List.mem_cons.1 h).elim (fun h => heq h.symm) hdestroy

/-! ### Lifetimes -/

/-- The object is created once and destroyed once. All events that name it, or that are about an
object made from it, lie in between. -/
def HasLifetime (log : List (Event κ ρ)) (object : ρ) : Prop :=
  ∃ before between after, log = before ++ .create object :: (between ++ .destroy object :: after) ∧
    (∀ event ∈ before ++ after, ¬event.Mentions object) ∧
    .create object ∉ between ∧ .destroy object ∉ between

/-- A log in which everything is in order, and after which the given objects are live. The serial
numbers of the objects are distinct, and below the length of the log. -/
structure Sound (log : List (Event κ ρ)) (live : Multiset ρ) : Prop where
  replay : replay 0 log = some live
  nodup : (created log).Nodup
  serial_lt : ∀ object ∈ created log, serial object < log.length

theorem sound_nil : Sound ([] : List (Event κ ρ)) 0 :=
  ⟨rfl, List.nodup_nil, List.forall_mem_nil _⟩

namespace Sound

theorem closed (h : Sound log live) : Closed live ∧ live.Nodup :=
  closed_zero.replay Multiset.nodup_zero h.replay

/-- The events that mention an object come after its creation. -/
theorem create_mem (h : Sound log live) {event : Event κ ρ} (hevent : event ∈ log)
    (hmentions : event.Mentions object) : .create object ∈ log := by
  by_contra hcreate
  exact (not_mentions_of_replay closed_zero Multiset.nodup_zero (Multiset.notMem_zero object)
    hcreate h.replay).1 event hevent hmentions

theorem mem_created_of_mem (h : Sound log live) (hmem : object ∈ live) : object ∈ created log := by
  by_contra hcreate
  exact (not_mentions_of_replay closed_zero Multiset.nodup_zero (Multiset.notMem_zero object)
    (fun hmem => hcreate (mem_created.2 hmem)) h.replay).2 hmem

/-- **Lifetimes.** Every object that is mentioned in the log and is not live at the end has a
lifetime. -/
theorem hasLifetime (h : Sound log live) {event : Event κ ρ} (hevent : event ∈ log)
    (hmentions : event.Mentions object) (hnotMem : object ∉ live) : HasLifetime log object := by
  obtain ⟨before, rest, rfl⟩ := List.append_of_mem (h.create_mem hevent hmentions)
  have hnodup := h.nodup
  rw [created, List.filterMap_append, List.filterMap_cons] at hnodup
  obtain ⟨-, hrest, hdisjoint⟩ := List.nodup_append.1 hnodup
  have hbefore : .create object ∉ before := fun hmem =>
    hdisjoint object (mem_created.2 hmem) object List.mem_cons_self rfl
  have hnotRest : .create object ∉ rest := fun hmem =>
    (List.nodup_cons.1 hrest).1 (mem_created.2 hmem)
  obtain ⟨mid, hfront, hback⟩ := replay_append_eq_some_iff.1 h.replay
  obtain ⟨hunmentioned, -⟩ := not_mentions_of_replay closed_zero Multiset.nodup_zero
    (Multiset.notMem_zero object) hbefore hfront
  obtain ⟨started, hcreate, htail⟩ := replay_cons_eq_some_iff.1 hback
  obtain ⟨hclosedMid, hnodupMid⟩ := closed_zero.replay Multiset.nodup_zero hfront
  obtain ⟨hclosed, hnodupStarted⟩ := hclosedMid.step hnodupMid hcreate
  have hmem : object ∈ started := by
    rw [← (step_create_eq_some_iff.1 hcreate).2]
    exact Multiset.mem_cons_self object mid
  obtain ⟨between, after, rfl, hcreateBetween, hdestroyBetween⟩ :=
    exists_destroy_of_replay hnodupStarted hclosed hmem hnotMem htail
  obtain ⟨last, hbetween, hend⟩ := replay_append_eq_some_iff.1 htail
  obtain ⟨stopped, hdestroy, hafter⟩ := replay_cons_eq_some_iff.1 hend
  obtain ⟨hclosedLast, hnodupLast⟩ := hclosed.replay hnodupStarted hbetween
  obtain ⟨hclosedStopped, hnodupStopped⟩ := hclosedLast.step hnodupLast hdestroy
  have hgone : object ∉ stopped := by
    rw [← (step_destroy_eq_some_iff.1 hdestroy).2]
    exact hnodupLast.notMem_erase
  have hnotAfter : .create object ∉ after := fun hmem =>
    hnotRest (List.mem_append_right _ (List.mem_cons_of_mem _ hmem))
  obtain ⟨hafterUnmentioned, -⟩ :=
    not_mentions_of_replay hclosedStopped hnodupStopped hgone hnotAfter hafter
  exact ⟨before, between, after, rfl, List.forall_mem_append.2 ⟨hunmentioned, hafterUnmentioned⟩,
    hcreateBetween, hdestroyBetween⟩

/-- What is mentioned in the log is live at the end or has a lifetime. -/
theorem mem_or_hasLifetime (h : Sound log live) {event : Event κ ρ} (hevent : event ∈ log)
    (hmentions : event.Mentions object) : object ∈ live ∨ HasLifetime log object :=
  (Decidable.em (object ∈ live)).imp_right (h.hasLifetime hevent hmentions)

end Sound

end Lifetime
