import Mathlib.Algebra.Order.Monoid.Unbundled.Basic
import Mathlib.Data.Set.Image
import Mathlib.Order.Bounds.Basic

/-!
# Shortest walks through layers

A layered problem is a list of stages, each with the nodes that are allowed in it and the cost of
a visit. A walk visits one allowed node in each stage and pays the cost of each visit and of each
edge between consecutive nodes. Costs are added from the left, along the walk, and adding the same
cost on the right is monotone. No other law of addition is assumed.

The minimum over all walks is computed from one stage to the next by a table that keeps, for each
node of a stage, the least cost of a walk that ends there.

## Main definitions

* `Layered.Reaches`: the costs of the walks that end at a node.
* `Layered.IsTable`: a table of walks that contains one of least cost for every end.

## Main results

* `Layered.IsTable.extend`: a table for one more stage.
* `Layered.IsTable.isLeast`: the least entry of a table is the least cost of all walks.
-/

namespace Layered

variable {N T : Type*}

/-- The nodes that are allowed in a stage and the cost of a visit. -/
structure Stage (N T : Type*) where
  nodes : Set N
  cost : N → T

section Add

variable [Add T]

/-- There is a walk of the given cost through the stages, the latest of which comes first, that
ends at the given node. -/
inductive Reaches (edge : N → N → T) : List (Stage N T) → N → T → Prop
  | single {s : Stage N T} {n : N} (hn : n ∈ s.nodes) : Reaches edge [s] n (s.cost n)
  | step {s : Stage N T} {ss : List (Stage N T)} {n n' : N} {c : T} (hn : n ∈ s.nodes)
      (hprev : Reaches edge ss n' c) : Reaches edge (s :: ss) n (c + edge n' n + s.cost n)

variable {edge : N → N → T} {s : Stage N T} {ss : List (Stage N T)} {n : N} {c : T}

@[simp] theorem not_reaches_nil : ¬Reaches edge [] n c := nofun

theorem reaches_cons_iff : Reaches edge (s :: ss) n c ↔ n ∈ s.nodes ∧
    (ss = [] ∧ c = s.cost n ∨
      ∃ n' c', Reaches edge ss n' c' ∧ c = c' + edge n' n + s.cost n) := by
  constructor
  · intro h
    cases h with
    | single hn => exact ⟨hn, .inl ⟨rfl, rfl⟩⟩
    | step hn hprev => exact ⟨hn, .inr ⟨_, _, hprev, rfl⟩⟩
  · rintro ⟨hn, ⟨rfl, rfl⟩ | ⟨n', c', hprev, rfl⟩⟩
    · exact .single hn
    · exact .step hn hprev

end Add

/-! ### Tables -/

variable [LinearOrder T] [Add T]
variable {edge : N → N → T} {s : Stage N T} {ss : List (Stage N T)} {table table' : Set (N × T)}

variable (edge ss) in
/-- The entries of the table are ends and costs of walks, and for every walk there is an entry
with its end that costs no more. -/
structure IsTable (table : Set (N × T)) : Prop where
  sound : ∀ e ∈ table, Reaches edge ss e.1 e.2
  complete : ∀ n c, Reaches edge ss n c → ∃ b, (n, b) ∈ table ∧ b ≤ c

/-- The table of a single stage holds its nodes and their costs. -/
theorem IsTable.single (htable : ∀ e, e ∈ table ↔ e.1 ∈ s.nodes ∧ e.2 = s.cost e.1) :
    IsTable edge [s] table where
  sound e he := by
    obtain ⟨hn, hc⟩ := (htable e).1 he
    rw [hc]
    exact .single hn
  complete n c h := by
    obtain ⟨hn, ⟨-, rfl⟩ | ⟨n', c', hprev, -⟩⟩ := reaches_cons_iff.1 h
    · exact ⟨s.cost n, (htable _).2 ⟨hn, rfl⟩, le_rfl⟩
    · exact absurd hprev not_reaches_nil

/-- **The step of the dynamic program.** From a table of the earlier stages, the table of one more
stage holds, for each of its nodes, the least cost of reaching it from an entry. A node whose best
predecessor is replaced by a cheaper walk to that predecessor does not become more expensive, as
addition is monotone. -/
theorem IsTable.extend [AddRightMono T] (h : IsTable edge ss table) (hss : ss ≠ [])
    (hmem : ∀ e ∈ table', e.1 ∈ s.nodes ∧
      IsLeast ((fun prev : N × T => prev.2 + edge prev.1 e.1 + s.cost e.1) '' table) e.2)
    (hall : ∀ n ∈ s.nodes, table.Nonempty → ∃ b, (n, b) ∈ table') :
    IsTable edge (s :: ss) table' where
  sound e he := by
    obtain ⟨hn, ⟨prev, hprev, hcost⟩, -⟩ := hmem e he
    rw [← hcost]
    exact .step hn (h.sound prev hprev)
  complete n c hc := by
    obtain ⟨hn, ⟨hnil, -⟩ | ⟨n', c', hprev, rfl⟩⟩ := reaches_cons_iff.1 hc
    · exact absurd hnil hss
    · obtain ⟨b', hb', hle⟩ := h.complete n' c' hprev
      obtain ⟨b, hb⟩ := hall n hn ⟨_, hb'⟩
      refine ⟨b, hb, ?_⟩
      have hleast : b ≤ b' + edge n' n + s.cost n := (hmem _ hb).2.2 ⟨_, hb', rfl⟩
      calc b ≤ b' + edge n' n + s.cost n := hleast
        _ ≤ c' + edge n' n + s.cost n :=
          add_le_add_left (add_le_add_left hle _) _

/-- **The least entry of a table is the least cost of all walks.** -/
theorem IsTable.isLeast (h : IsTable edge ss table) {b : T}
    (hb : IsLeast (Prod.snd '' table) b) : IsLeast {c | ∃ n, Reaches edge ss n c} b := by
  obtain ⟨⟨e, he, rfl⟩, hleast⟩ := hb
  refine ⟨⟨e.1, h.sound e he⟩, ?_⟩
  rintro c ⟨n, hc⟩
  obtain ⟨b, hb, hle⟩ := h.complete n c hc
  exact (hleast ⟨_, hb, rfl⟩).trans hle

end Layered
