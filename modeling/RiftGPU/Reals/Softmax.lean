import Mathlib.Algebra.BigOperators.Field
import Mathlib.Analysis.SpecialFunctions.Log.ERealExp
import Mathlib.Data.EReal.Inv

/-!
# The softmax of real scores

The softmax of a family of scores does not change when a constant is subtracted from all of them,
which is why it may be computed from their differences to the greatest one. Loops that add up or
compare real numbers in the extended reals stay real.

## Main definitions

* `Softmax.softmax`: the share of one exponential in their sum.

## Main results

* `Softmax.softmax_sub_const`: the invariance under shifts.
* `Softmax.foldl_add_coe`, `Softmax.exists_foldl_max_coe`: loops over the extended reals.
-/

namespace Softmax

open Finset

section Real

variable {ι : Type*} (s : ι → ℝ) (t : Finset ι)

/-- The share of an exponential in the sum of all exponentials. -/
noncomputable def softmax (j : ι) : ℝ := Real.exp (s j) / ∑ l ∈ t, Real.exp (s l)

variable {t} in
theorem sum_exp_pos (ht : t.Nonempty) : 0 < ∑ l ∈ t, Real.exp (s l) :=
  sum_pos (fun l _ => Real.exp_pos (s l)) ht

/-- Subtracting a constant from all scores does not change the softmax. -/
theorem softmax_sub_const (c : ℝ) (j : ι) :
    softmax (fun l => s l - c) t j = softmax s t j := by
  have hne : Real.exp c ≠ 0 := Real.exp_ne_zero c
  simp only [softmax, Real.exp_sub]
  rw [← sum_div, div_div_div_cancel_right₀ hne]

end Real

section Extended

variable (f : ℕ → ℝ)

/-- Adding up real numbers in the extended reals. -/
theorem foldl_add_coe (n : ℕ) :
    (List.range n).foldl (fun total j => total + (f j : EReal)) 0 =
      ((∑ j ∈ range n, f j : ℝ) : EReal) := by
  induction n with
  | zero => simp
  | succ n ih =>
    rw [List.range_succ, List.foldl_append, ih, sum_range_succ, EReal.coe_add]
    rfl

/-- The maximum of at least one real number, starting from minus infinity, is real. -/
theorem exists_foldl_max_coe {n : ℕ} (hn : 0 < n) :
    ∃ m : ℝ, (List.range n).foldl (fun best j => max best (f j : EReal)) ⊥ = m := by
  induction n with
  | zero => cases hn
  | succ n ih =>
    rw [List.range_succ, List.foldl_append, List.foldl_cons, List.foldl_nil]
    rcases Nat.eq_zero_or_pos n with rfl | hpos
    · exact ⟨f 0, max_eq_right bot_le⟩
    · obtain ⟨m, hm⟩ := ih hpos
      exact ⟨max m (f n), by rw [hm, EReal.coe_strictMono.monotone.map_max]⟩

/-- The exponential of a real number. -/
theorem coe_exp_coe (x : ℝ) : ((EReal.exp x : ENNReal) : EReal) = (Real.exp x : ℝ) := by
  rw [EReal.exp_coe, EReal.coe_ennreal_ofReal, max_eq_left (Real.exp_pos x).le]

end Extended

end Softmax
