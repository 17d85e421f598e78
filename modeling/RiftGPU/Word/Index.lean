import RiftGPU.Word.Checked
import RiftGPU.Word.Outcome

/-!
# Index arithmetic that panics

The arithmetic on lengths and indices of a 64-bit machine, in a build that panics on overflow. Each
operation has one lemma that says when it does not panic.

## Main definitions

* `Fault.usizeAdd`, `Fault.usizeMul`, `Fault.usizeSub`, `Fault.usizeDiv`.

## Main results

* `BitVec.foldlM_checkedMul_eq_ok_iff`: a checked product of several words.
-/

namespace BitVec

/-- A checked product of words that are not zero succeeds exactly when it is exact. -/
theorem foldlM_checkedMul_eq_ok_iff {ε : Type} {e : ε} {w : ℕ} {values : List (BitVec w)}
    (hpos : ∀ value ∈ values, 0 < value.toNat) {start product : BitVec w} :
    values.foldlM (fun acc value => (acc.checkedMul value).okOr e) start = .ok product ↔
      product.toNat = start.toNat * (values.map BitVec.toNat).prod := by
  induction values generalizing start with
  | nil =>
    rw [List.foldlM_nil, Except.pure_eq_ok_iff, List.map_nil, List.prod_nil, Nat.mul_one,
      ← toNat_inj, eq_comm]
  | cons value values ih =>
    rw [List.forall_mem_cons] at hpos
    rw [List.foldlM_cons, Except.bind_eq_ok_iff, List.map_cons, List.prod_cons, ← Nat.mul_assoc]
    constructor
    · rintro ⟨next, hnext, hrest⟩
      rw [Option.okOr_eq_ok_iff, checkedMul_eq_some_iff] at hnext
      rw [(ih hpos.2).1 hrest, hnext]
    · intro h
      have hrest : 0 < (values.map BitVec.toNat).prod :=
        List.prod_pos_iff_forall_pos_nat.2 (List.forall_mem_map.2 hpos.2)
      have hlt : start.toNat * value.toNat < 2 ^ w :=
        (Nat.le_mul_of_pos_right _ hrest).trans_lt (h ▸ product.isLt)
      obtain ⟨next, hnext⟩ := exists_toNat_eq hlt
      exact ⟨next, by rwa [Option.okOr_eq_ok_iff, checkedMul_eq_some_iff],
        (ih hpos.2).2 (by rw [hnext, h])⟩

end BitVec

namespace Fault

variable {ε : Type} {a b : ℕ}

/-- The sum of two indices, which panics when it overflows. -/
def usizeAdd (a b : ℕ) : Except (Fault ε) ℕ :=
  orPanic (Usize.checkedAdd a b) "attempt to add with overflow"

/-- The product of two indices, which panics when it overflows. -/
def usizeMul (a b : ℕ) : Except (Fault ε) ℕ :=
  orPanic (Usize.checkedMul a b) "attempt to multiply with overflow"

/-- The difference of two indices, which panics when it is negative. -/
def usizeSub (a b : ℕ) : Except (Fault ε) ℕ :=
  orPanic (Usize.checkedSub a b) "attempt to subtract with overflow"

/-- The quotient of two indices, which panics when the second one is zero. -/
def usizeDiv (a b : ℕ) : Except (Fault ε) ℕ :=
  orPanic (Usize.checkedDiv a b) "attempt to divide by zero"

theorem usizeAdd_of_lt (h : a + b < 2 ^ 64) :
    (usizeAdd a b : Except (Fault ε) ℕ) = .ok (a + b) := by
  rw [usizeAdd, Usize.checkedAdd_of_lt h, orPanic_some]

theorem usizeMul_of_lt (h : a * b < 2 ^ 64) :
    (usizeMul a b : Except (Fault ε) ℕ) = .ok (a * b) := by
  rw [usizeMul, Usize.checkedMul_of_lt h, orPanic_some]

theorem usizeSub_of_le (h : b ≤ a) : (usizeSub a b : Except (Fault ε) ℕ) = .ok (a - b) := by
  rw [usizeSub, Usize.checkedSub, if_pos h, orPanic_some]

theorem usizeDiv_of_ne (h : b ≠ 0) : (usizeDiv a b : Except (Fault ε) ℕ) = .ok (a / b) := by
  rw [usizeDiv, Usize.checkedDiv, if_pos h, orPanic_some]

end Fault
