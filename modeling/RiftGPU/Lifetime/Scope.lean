import Mathlib.Algebra.BigOperators.Group.Multiset.Basic
import RiftGPU.Lifetime.Ledger

/-!
# Programs that own objects

A program may fail, and it appends the events that happen to a log. The serial number of an object
that it creates is the length of the log, so no two objects have the same. Objects are released
when the variable that owns them goes out of scope, and where a program returns early.

A specification says which objects of its environment a program needs, which objects it is given,
and which it hands over when it succeeds and when it fails. It speaks of these objects only:
whatever else is live stays so.

## Main definitions

* `Lifetime.Run`: programs, with `Lifetime.Run.exec`.
* `Lifetime.Run.ensure`, `Lifetime.Run.onError`: release objects at the end of a scope, and on
  failure.
* `Lifetime.Run.Yields`: a predicate on the returned values.
* `Lifetime.Triple`: the specification of a program.

## Main results

* `Lifetime.Triple.create`, `Lifetime.Triple.call`, `Lifetime.Triple.destroy`: single events.
* `Lifetime.Triple.bind`, `Lifetime.Triple.ensure`, `Lifetime.Triple.onError`,
  `Lifetime.Triple.foldlM`: composed programs.
* `Lifetime.Triple.frame`: a program inside of a larger environment.
* `Lifetime.Triple.sound`: the log of a program that is run by itself.
-/

namespace Lifetime

variable {κ ρ ε α β : Type}

/-- A program that may fail and that appends events to a log. -/
abbrev Run (κ ρ ε : Type) : Type → Type := ExceptT ε (StateM (List (Event κ ρ)))

namespace Run

/-- How a program ends that is run after the events of a log, and the log then. -/
def exec (x : Run κ ρ ε α) (log : List (Event κ ρ)) : Except ε α × List (Event κ ρ) :=
  StateT.run (ExceptT.run x) log

/-- A program without events. -/
abbrev lift (result : Except ε α) : Run κ ρ ε α := liftM result

/-- Append an event. -/
def record (event : Event κ ρ) : Run κ ρ ε Unit := modify fun log => log ++ [event]

/-- Create an object. Its serial number is returned. -/
def create (make : ℕ → ρ) : Run κ ρ ε ℕ := do
  let serial := (← get).length
  record (.create (make serial))
  return serial

/-- A call that uses objects. -/
def call (name : κ) (uses : List ρ) : Run κ ρ ε Unit := record (.call name uses)

/-- The destruction of an object. -/
def destroy (object : ρ) : Run κ ρ ε Unit := record (.destroy object)

/-- A program whose failure is returned as a value. -/
def caught {δ : Type} (body : Run κ ρ ε α) : Run κ ρ δ (Except ε α) :=
  ExceptT.mk (Except.ok <$> body.run)

/-- Run `cleanup` after the body, however it ends. -/
def ensure (body : Run κ ρ ε α) (cleanup : Run κ ρ ε Unit) : Run κ ρ ε α :=
  fun log => ((body.exec log).1, (cleanup.exec (body.exec log).2).2)

/-- Run `cleanup` after the body when it fails. -/
def onError (body : Run κ ρ ε α) (cleanup : Run κ ρ ε Unit) : Run κ ρ ε α :=
  fun log => match body.exec log with
    | (.ok a, log) => (.ok a, log)
    | (.error e, log) => (.error e, (cleanup.exec log).2)

/-- The values that a loop has pushed, and the failure that ended it. -/
abbrev Pushed (ε α : Type) : Type := List α × Except ε Unit

/-- An iteration that pushes a value. When one fails, what was pushed before is kept. -/
def pushStep (body : β → Run κ ρ ε α) (pushed : Pushed ε α) (b : β) :
    Run κ ρ ε (Pushed ε α) :=
  match pushed.2 with
  | .error _ => return pushed
  | .ok () => do
    match ← caught (body b) with
    | .ok a => return (pushed.1 ++ [a], .ok ())
    | .error e => return (pushed.1, .error e)

/-! ### Executions -/

variable {x : Run κ ρ ε α} {f : α → Run κ ρ ε β} {log log' : List (Event κ ρ)}

@[simp] theorem exec_pure (a : α) : (pure a : Run κ ρ ε α).exec log = (.ok a, log) := rfl

@[simp] theorem exec_throw (e : ε) : (throw e : Run κ ρ ε α).exec log = (.error e, log) := rfl

@[simp] theorem exec_liftM (result : Except ε α) :
    (liftM result : Run κ ρ ε α).exec log = (result, log) := rfl

@[simp] theorem exec_record (event : Event κ ρ) :
    (record event : Run κ ρ ε Unit).exec log = (.ok (), log ++ [event]) := rfl

@[simp] theorem exec_create (make : ℕ → ρ) : (create make : Run κ ρ ε ℕ).exec log =
    (.ok log.length, log ++ [.create (make log.length)]) := rfl

theorem exec_bind : (x >>= f).exec log = match x.exec log with
    | (.ok a, log) => (f a).exec log
    | (.error e, log) => (.error e, log) := by
  change (ExceptT.bindCont f (x.exec log).1 (x.exec log).2) = _
  cases h : x.exec log with
  | mk outcome log' => cases outcome <;> rfl

theorem exec_bind_of_ok {a : α} (h : x.exec log = (.ok a, log')) :
    (x >>= f).exec log = (f a).exec log' := by
  rw [exec_bind, h]

theorem exec_bind_of_error {e : ε} (h : x.exec log = (.error e, log')) :
    (x >>= f).exec log = (.error e, log') := by
  rw [exec_bind, h]

@[simp] theorem exec_caught {δ : Type} : (caught x : Run κ ρ δ (Except ε α)).exec log =
    (.ok (x.exec log).1, (x.exec log).2) := rfl

theorem exec_ensure {cleanup : Run κ ρ ε Unit} : (ensure x cleanup).exec log =
    ((x.exec log).1, (cleanup.exec (x.exec log).2).2) := rfl

theorem exec_onError_of_ok {cleanup : Run κ ρ ε Unit} {a : α} (h : x.exec log = (.ok a, log')) :
    (onError x cleanup).exec log = (.ok a, log') := by
  change (match x.exec log with
    | (.ok a, log) => (.ok a, log)
    | (.error e, log) => (.error e, (cleanup.exec log).2) : Except ε α × _) = _
  rw [h]

theorem exec_onError_of_error {cleanup : Run κ ρ ε Unit} {e : ε}
    (h : x.exec log = (.error e, log')) :
    (onError x cleanup).exec log = (.error e, (cleanup.exec log').2) := by
  change (match x.exec log with
    | (.ok a, log) => (.ok a, log)
    | (.error e, log) => (.error e, (cleanup.exec log).2) : Except ε α × _) = _
  rw [h]

theorem exec_pushStep_of_ok {body : β → Run κ ρ ε α} {b : β} {a : α}
    (h : (body b).exec log = (.ok a, log')) (pushed : List α) :
    (pushStep body (pushed, .ok ()) b).exec log = (.ok (pushed ++ [a], .ok ()), log') := by
  rw [pushStep, exec_bind, exec_caught, h]
  rfl

theorem exec_pushStep_of_error {body : β → Run κ ρ ε α} {b : β} {e : ε}
    (h : (body b).exec log = (.error e, log')) (pushed : List α) :
    (pushStep body (pushed, .ok ()) b).exec log = (.ok (pushed, .error e), log') := by
  rw [pushStep, exec_bind, exec_caught, h]
  rfl

/-- A loop that has failed does nothing any more. -/
theorem exec_foldlM_pushStep_error {body : β → Run κ ρ ε α} (bs : List β) (pushed : List α)
    (e : ε) : (bs.foldlM (pushStep body) (pushed, .error e)).exec log =
      (.ok (pushed, .error e), log) := by
  induction bs with
  | nil => rfl
  | cons b bs ih =>
    rw [List.foldlM_cons, exec_bind_of_ok (by rw [pushStep]; rfl)]
    exact ih

/-! ### Returned values -/

/-- The values that a program returns satisfy a predicate. -/
def Yields (x : Run κ ρ ε α) (R : α → Prop) : Prop := ∀ log a, (x.exec log).1 = .ok a → R a

namespace Yields

variable {R : α → Prop}

theorem pure {a : α} (h : R a) : Yields (Pure.pure a : Run κ ρ ε α) R :=
  fun _ _ heq => Except.ok.inj heq ▸ h

theorem throw (e : ε) : Yields (MonadExcept.throw e : Run κ ρ ε α) R :=
  fun _ _ heq => by cases heq

theorem bind {f : β → Run κ ρ ε α} {y : Run κ ρ ε β} (hf : ∀ b, Yields (f b) R) :
    Yields (y >>= f) R := by
  intro log a heq
  rw [exec_bind] at heq
  cases hrun : y.exec log with
  | mk outcome log' =>
    rw [hrun] at heq
    cases outcome with
    | error e => cases heq
    | ok b => exact hf b log' a heq

theorem caught {δ : Type} (h : Yields x R) :
    Yields (Run.caught x : Run κ ρ δ (Except ε α)) fun outcome => ∀ a, outcome = .ok a → R a :=
  fun log _ heq a hok => h log a ((Except.ok.inj heq).trans hok)

end Yields

end Run

/-! ### Specifications -/

variable [DecidableEq ρ] [Resource ρ]

/-- No object of `frame` is made from one of `held`. -/
def Free (frame held : Multiset ρ) : Prop :=
  ∀ object ∈ frame, ∀ owner ∈ owners object, owner ∉ held

omit [DecidableEq ρ] in
theorem free_zero (frame : Multiset ρ) : Free frame 0 :=
  fun _ _ owner _ => Multiset.notMem_zero owner

omit [DecidableEq ρ] in
theorem free_add_right_iff {frame held held' : Multiset ρ} :
    Free frame (held + held') ↔ Free frame held ∧ Free frame held' := by
  simp only [Free, Multiset.mem_add, not_or]
  exact ⟨fun h => ⟨fun o ho p hp => (h o ho p hp).1, fun o ho p hp => (h o ho p hp).2⟩,
    fun h o ho p hp => ⟨h.1 o ho p hp, h.2 o ho p hp⟩⟩

omit [DecidableEq ρ] in
theorem free_add_left_iff {frame frame' held : Multiset ρ} :
    Free (frame + frame') held ↔ Free frame held ∧ Free frame' held := by
  simp only [Free, Multiset.mem_add, or_imp, forall_and]

/-- The objects `frame + held` are live, and none of `frame` is made from one of `held`. -/
structure Owns (log : List (Event κ ρ)) (frame held : Multiset ρ) : Prop where
  sound : Sound log (frame + held)
  free : Free frame held

/-- What a program hands over, depending on how it ends. -/
def handed (ok : α → Multiset ρ) (error : Multiset ρ) : Except ε α → Multiset ρ
  | .ok a => ok a
  | .error _ => error

omit [DecidableEq ρ] [Resource ρ] in
theorem handed_const (held : Multiset ρ) (outcome : Except ε α) :
    handed (fun _ => held) held outcome = held := by
  cases outcome <;> rfl

/-- A program that needs some objects of its environment and is given the objects `held`. It hands
over the objects `ok a` when it returns `a`, and `error` when it fails. -/
def Triple (needs held : Multiset ρ) (x : Run κ ρ ε α) (ok : α → Multiset ρ)
    (error : Multiset ρ) : Prop :=
  ∀ log frame, Owns log frame held → (∀ object ∈ needs, object ∈ frame) →
    Owns (x.exec log).2 frame (handed ok error (x.exec log).1)

namespace Triple

variable {needs held error : Multiset ρ} {ok : α → Multiset ρ} {x : Run κ ρ ε α}

theorem pure {a : α} (h : held = ok a) :
    Triple needs held (Pure.pure a : Run κ ρ ε α) ok error := by
  subst h
  exact fun _ _ howns _ => howns

theorem throw (e : ε) : Triple needs error (MonadExcept.throw e : Run κ ρ ε α) ok error :=
  fun _ _ h _ => h

theorem liftM (result : Except ε α) :
    Triple needs held (MonadLiftT.monadLift result : Run κ ρ ε α) (fun _ => held) held := by
  intro log frame h _
  rw [handed_const]
  exact h

/-- A program that is given and hands over other expressions for the same objects. -/
theorem congr {held' error' : Multiset ρ} {ok' : α → Multiset ρ}
    (h : Triple needs held x ok error) (hheld : held = held') (hok : ∀ a, ok a = ok' a)
    (herror : error = error') : Triple needs held' x ok' error' := by
  obtain rfl : ok = ok' := funext hok
  subst hheld herror
  exact h

/-- A sequence whose second part relies on what the first one returns. -/
theorem bindYields {f : α → Run κ ρ ε β} {mid : α → Multiset ρ} {ok : β → Multiset ρ}
    {R : α → Prop} (hx : Triple needs held x mid error) (hyields : x.Yields R)
    (hf : ∀ a, R a → Triple needs (mid a) (f a) ok error) :
    Triple needs held (x >>= f) ok error := by
  intro log frame h hneeds
  have hfirst := hx log frame h hneeds
  rw [Run.exec_bind]
  cases hrun : x.exec log with
  | mk outcome log' =>
    rw [hrun] at hfirst
    cases outcome with
    | error e => exact hfirst
    | ok a => exact hf a (hyields log a (congrArg Prod.fst hrun)) log' frame hfirst hneeds

theorem bind {f : α → Run κ ρ ε β} {mid : α → Multiset ρ} {ok : β → Multiset ρ}
    (hx : Triple needs held x mid error) (hf : ∀ a, Triple needs (mid a) (f a) ok error) :
    Triple needs held (x >>= f) ok error :=
  hx.bindYields (fun _ _ _ => trivial) fun a _ => hf a

/-- A program whose outcome is not looked at. -/
theorem discard {rest : Multiset ρ} (h : Triple needs held x (fun _ => rest) rest)
    {log : List (Event κ ρ)} {frame : Multiset ρ} (howns : Owns log frame held)
    (hneeds : ∀ object ∈ needs, object ∈ frame) : Owns (x.exec log).2 frame rest := by
  have hrun := h log frame howns hneeds
  rwa [handed_const] at hrun

/-- Cleaning up at the end of a scope. -/
theorem ensure {cleanup : Run κ ρ ε Unit} {mid : α → Multiset ρ} {midError : Multiset ρ}
    (hx : Triple needs held x mid midError)
    (hok : ∀ a, Triple needs (mid a) cleanup (fun _ => ok a) (ok a))
    (herror : Triple needs midError cleanup (fun _ => error) error) :
    Triple needs held (Run.ensure x cleanup) ok error := by
  intro log frame h hneeds
  have hfirst := hx log frame h hneeds
  rw [Run.exec_ensure]
  cases hrun : (x.exec log).1 with
  | error e =>
    rw [hrun] at hfirst
    exact herror.discard hfirst hneeds
  | ok a =>
    rw [hrun] at hfirst
    exact (hok a).discard hfirst hneeds

/-- Cleaning up before an early return. -/
theorem onError {cleanup : Run κ ρ ε Unit} {midError : Multiset ρ}
    (hx : Triple needs held x ok midError)
    (herror : Triple needs midError cleanup (fun _ => error) error) :
    Triple needs held (Run.onError x cleanup) ok error := by
  intro log frame h hneeds
  have hfirst := hx log frame h hneeds
  cases hrun : x.exec log with
  | mk outcome log' =>
    rw [hrun] at hfirst
    cases outcome with
    | ok a =>
      rw [Run.exec_onError_of_ok hrun]
      exact hfirst
    | error e =>
      rw [Run.exec_onError_of_error hrun]
      exact herror.discard hfirst hneeds

/-- A program whose failure is a value does not fail. -/
theorem caught {δ : Type} {error' : Multiset ρ} (hx : Triple needs held x ok error) :
    Triple needs held (Run.caught x : Run κ ρ δ (Except ε α)) (handed ok error) error' :=
  fun log frame h hneeds => hx log frame h hneeds

/-- A loop whose iterations keep an invariant on the objects that the state holds. -/
theorem foldlM {step : β → α → Run κ ρ ε β} {owned : β → Multiset ρ} {xs : List α}
    (hstep : ∀ s, ∀ a ∈ xs, Triple needs (owned s) (step s a) owned error) (s : β) :
    Triple needs (owned s) (xs.foldlM step s) owned error := by
  induction xs generalizing s with
  | nil => exact pure rfl
  | cons a xs ih =>
    rw [List.foldlM_cons]
    exact bind (hstep s a List.mem_cons_self) fun s' =>
      ih (fun t b hb => hstep t b (List.mem_cons_of_mem a hb)) s'

/-! ### Events -/

theorem call {name : κ} {uses : List ρ} (huses : ∀ object ∈ uses, object ∈ needs + held) :
    Triple needs held (Run.call name uses : Run κ ρ ε Unit) (fun _ => held) error := by
  intro log frame h hneeds
  rw [Run.call, Run.exec_record]
  refine ⟨⟨?_, ?_, ?_⟩, h.free⟩
  · refine replay_append_eq_some_iff.2 ⟨_, h.sound.replay, replay_cons_eq_some_iff.2 ⟨_, ?_, rfl⟩⟩
    refine step_call_eq_some_iff.2 ⟨fun object hmem => ?_, rfl⟩
    rcases Multiset.mem_add.1 (huses object hmem) with hmem | hmem
    · exact Multiset.mem_add.2 (.inl (hneeds object hmem))
    · exact Multiset.mem_add.2 (.inr hmem)
  · rw [created, List.filterMap_append]
    exact (List.append_nil (created log)).symm ▸ h.sound.nodup
  · intro object hmem
    rw [created, List.filterMap_append, List.mem_append] at hmem
    rw [List.length_append]
    exact Nat.lt_add_right 1 (h.sound.serial_lt object (hmem.resolve_right List.not_mem_nil))

/-- The serial number of a new object tells it from all others. -/
theorem create {make : ℕ → ρ} (hserial : ∀ n, serial (make n) = n)
    (howners : ∀ n, ∀ owner ∈ owners (make n), owner ∈ needs + held) :
    Triple needs held (Run.create make : Run κ ρ ε ℕ) (fun n => make n ::ₘ held) error := by
  intro log frame h hneeds
  rw [Run.exec_create]
  have hfresh : make log.length ∉ created log := fun hmem =>
    (h.sound.serial_lt _ hmem).ne (hserial log.length)
  have hnotMem : make log.length ∉ frame + held := fun hmem =>
    hfresh (h.sound.mem_created_of_mem hmem)
  have hlive : ∀ owner ∈ owners (make log.length), owner ∈ frame + held := by
    intro owner howner
    rcases Multiset.mem_add.1 (howners log.length owner howner) with hmem | hmem
    · exact Multiset.mem_add.2 (.inl (hneeds owner hmem))
    · exact Multiset.mem_add.2 (.inr hmem)
  refine ⟨⟨?_, ?_, ?_⟩, fun object hmem owner howner hmemOwner => ?_⟩
  · refine replay_append_eq_some_iff.2 ⟨_, h.sound.replay, replay_cons_eq_some_iff.2 ⟨_, ?_, rfl⟩⟩
    exact step_create_eq_some_iff.2 ⟨⟨hnotMem, hlive⟩, (Multiset.add_cons _ _ _).symm⟩
  · rw [created, List.filterMap_append]
    refine List.nodup_append.2 ⟨h.sound.nodup, List.nodup_singleton _, ?_⟩
    rintro other hmem _ hnew rfl
    exact hfresh (List.mem_singleton.1 hnew ▸ hmem)
  · intro object hmem
    rw [created, List.filterMap_append, List.mem_append] at hmem
    rw [List.length_append, List.length_singleton]
    rcases hmem with hmem | hmem
    · exact Nat.lt_succ_of_lt (h.sound.serial_lt object hmem)
    · rw [List.mem_singleton.1 hmem, hserial]
      exact Nat.lt_succ_self _
  · rcases Multiset.mem_cons.1 hmemOwner with rfl | hmemHeld
    · exact hnotMem (h.sound.closed.1 object (Multiset.mem_add.2 (.inl hmem)) _ howner)
    · exact h.free object hmem owner howner hmemHeld

theorem destroy {object : ρ} (hchildren : ∀ other ∈ held, object ∉ owners other)
    (hself : object ∉ owners object) :
    Triple needs (object ::ₘ held) (Run.destroy object : Run κ ρ ε Unit) (fun _ => held)
      error := by
  intro log frame h _
  rw [Run.destroy, Run.exec_record]
  have hfree : Free frame ({object} + held) := by
    rw [Multiset.singleton_add]
    exact h.free
  rw [free_add_right_iff] at hfree
  refine ⟨⟨?_, ?_, ?_⟩, hfree.2⟩
  · refine replay_append_eq_some_iff.2 ⟨_, h.sound.replay, replay_cons_eq_some_iff.2 ⟨_, ?_, rfl⟩⟩
    rw [Multiset.add_cons]
    refine step_destroy_eq_some_iff.2 ⟨⟨Multiset.mem_cons_self _ _, fun other hmem => ?_⟩,
      Multiset.erase_cons_head _ _⟩
    rcases Multiset.mem_cons.1 hmem with rfl | hmem
    · exact hself
    rcases Multiset.mem_add.1 hmem with hmem | hmem
    · exact fun howner => hfree.1 other hmem object howner (Multiset.mem_singleton_self object)
    · exact hchildren other hmem
  · rw [created, List.filterMap_append]
    exact (List.append_nil (created log)).symm ▸ h.sound.nodup
  · intro other hmem
    rw [created, List.filterMap_append, List.mem_append] at hmem
    rw [List.length_append]
    exact Nat.lt_add_right 1 (h.sound.serial_lt other (hmem.resolve_right List.not_mem_nil))

/-! ### Environments -/

/-- A program in an environment that holds more objects than the program is given. -/
theorem frame {needs' rest : Multiset ρ} (h : Triple needs' held x ok error)
    (hneeds : ∀ object ∈ needs', object ∈ needs + rest) (hfree : Free rest held) :
    Triple needs (rest + held) x (fun a => rest + ok a) (rest + error) := by
  intro log frame howns hmem
  obtain ⟨hfreeRest, hfreeHeld⟩ := free_add_right_iff.1 howns.free
  have hframe : Owns log (frame + rest) held :=
    ⟨by rw [Multiset.add_assoc]; exact howns.sound, free_add_left_iff.2 ⟨hfreeHeld, hfree⟩⟩
  have hrun := h log (frame + rest) hframe fun object hobject => by
    rcases Multiset.mem_add.1 (hneeds object hobject) with hin | hin
    · exact Multiset.mem_add.2 (.inl (hmem object hin))
    · exact Multiset.mem_add.2 (.inr hin)
  have hhanded (outcome : Except ε α) :
      handed (fun a => rest + ok a) (rest + error) outcome = rest + handed ok error outcome := by
    cases outcome <;> rfl
  rw [hhanded]
  exact ⟨by rw [← Multiset.add_assoc]; exact hrun.sound,
    free_add_right_iff.2 ⟨hfreeRest, (free_add_left_iff.1 hrun.free).1⟩⟩

/-- An iteration that pushes a value, when the values own objects. -/
theorem pushStep {body : β → Run κ ρ ε α} {owned : α → Multiset ρ} {b : β}
    (hbody : Triple needs 0 (body b) owned 0) (pushed : Run.Pushed ε α) :
    Triple needs (pushed.1.map owned).sum (Run.pushStep body pushed b)
      (fun pushed => (pushed.1.map owned).sum) error := by
  obtain ⟨values, outcome⟩ := pushed
  cases outcome with
  | error e => exact pure rfl
  | ok =>
    have hframe : Triple needs ((values.map owned).sum + 0) (body b)
        (fun a => (values.map owned).sum + owned a) ((values.map owned).sum + 0) :=
      hbody.frame (fun object hmem => Multiset.mem_add.2 (.inl hmem)) (free_zero _)
    rw [Multiset.add_zero] at hframe
    refine hframe.caught.bind fun outcome => ?_
    cases outcome with
    | error e => exact pure rfl
    | ok a =>
      refine pure ?_
      rw [List.map_append, List.sum_append, List.map_singleton, List.sum_singleton]
      rfl

end Triple

/-- A program that leaves no objects behind, and none of which it is not given. -/
abbrev Keeps (needs : Multiset ρ) (x : Run κ ρ ε α) : Prop := Triple needs 0 x (fun _ => 0) 0

namespace Keeps

variable {needs : Multiset ρ} {x : Run κ ρ ε α}

/-- A program that keeps its environment, with objects at hand that it does not release. -/
theorem holding {needs' held : Multiset ρ} (h : Keeps needs' x)
    (hneeds : ∀ object ∈ needs', object ∈ needs + held) :
    Triple needs held x (fun _ => held) held :=
  (h.frame hneeds (free_zero held)).congr (Multiset.add_zero held)
    (fun _ => Multiset.add_zero held) (Multiset.add_zero held)

theorem mono {needs' : Multiset ρ} (h : Keeps needs' x)
    (hneeds : ∀ object ∈ needs', object ∈ needs) : Keeps needs x :=
  h.holding fun object hmem => Multiset.mem_add.2 (.inl (hneeds object hmem))

/-- A program with a local variable, which is dropped at the end of its scope. -/
theorem scope {owned : α → Multiset ρ} {body : α → Run κ ρ ε β} {cleanup : α → Run κ ρ ε Unit}
    (hx : Triple needs 0 x owned 0) (hbody : ∀ a, Keeps (needs + owned a) (body a))
    (hcleanup : ∀ a, Triple needs (owned a) (cleanup a) (fun _ => 0) 0) :
    Keeps needs (x >>= fun a => Run.ensure (body a) (cleanup a)) :=
  hx.bind fun a => ((hbody a).holding fun _ hmem => hmem).ensure (fun _ => hcleanup a) (hcleanup a)

end Keeps

/-- The log of a program that is run when only the objects that it is given are live. -/
theorem Triple.sound {held error : Multiset ρ} {ok : α → Multiset ρ} {x : Run κ ρ ε α}
    (h : Triple 0 held x ok error) {log : List (Event κ ρ)} (hlog : Sound log held) :
    Sound (x.exec log).2 (handed ok error (x.exec log).1) := by
  have hrun := h log 0 ⟨by rwa [Multiset.zero_add],
    fun _ hmem => absurd hmem (Multiset.notMem_zero _)⟩ fun _ hmem =>
      absurd hmem (Multiset.notMem_zero _)
  have hsound := hrun.sound
  rwa [Multiset.zero_add] at hsound

end Lifetime
