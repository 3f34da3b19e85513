import Mathlib.Algebra.Order.Ring.Rat
import Mathlib.Tactic.Linarith
import ReviewDesk.Number.Rounding

set_option autoImplicit false

namespace ReviewDesk.Number

theorem nearestEven_cases (q : Rat) :
    nearestEven q = q.floor ∨ nearestEven q = q.floor + 1 ∧ (q.floor : Rat) < q := by
  unfold nearestEven
  simp only
  split_ifs with less more even
  next => exact .inl rfl
  next => exact .inr ⟨rfl, by linarith⟩
  next => exact .inl rfl
  next => exact .inr ⟨rfl, by linarith⟩

@[simp] theorem nearestEven_intCast (n : Int) : nearestEven n = n := by
  rcases nearestEven_cases n with same | ⟨-, less⟩
  next => rw [same, Rat.floor_intCast]
  next => rw [Rat.floor_intCast] at less; exact absurd less (lt_irrefl _)

theorem le_nearestEven {low : Int} {q : Rat} (bound : (low : Rat) ≤ q) : low ≤ nearestEven q := by
  have below := Rat.le_floor_iff.mpr bound
  rcases nearestEven_cases q with same | ⟨above, -⟩ <;> omega

theorem nearestEven_le {high : Int} {q : Rat} (bound : q ≤ (high : Rat)) :
    nearestEven q ≤ high := by
  rcases nearestEven_cases q with same | ⟨above, less⟩
  next =>
    rw [same]
    exact_mod_cast (Rat.floor_le q).trans bound
  next =>
    rw [above]
    exact_mod_cast less.trans_le bound

theorem nearestEven_mono {q r : Rat} (ordered : q ≤ r) : nearestEven q ≤ nearestEven r := by
  have floors : q.floor ≤ r.floor := Rat.le_floor_iff.mpr ((Rat.floor_le q).trans ordered)
  rcases floors.lt_or_eq with less | same
  next =>
    have above := le_nearestEven (Rat.floor_le r)
    rcases nearestEven_cases q with below | ⟨below, -⟩ <;> omega
  next =>
    unfold nearestEven
    simp only [same]
    split_ifs <;> first | omega | linarith

theorem floor_bounds (q : Rat) : (q.floor : Rat) ≤ q ∧ q < q.floor + 1 :=
  ⟨Rat.floor_le q, by exact_mod_cast Rat.lt_floor_add_one q⟩

theorem abs_sub_nearestEven_le (q : Rat) : |q - nearestEven q| ≤ 1 / 2 := by
  obtain ⟨above, below⟩ := floor_bounds q
  unfold nearestEven
  simp only
  rw [abs_le]
  split_ifs <;> push_cast <;> constructor <;> linarith

theorem even_nearestEven {q : Rat} (tie : |q - nearestEven q| = 1 / 2) : Even (nearestEven q) := by
  obtain ⟨above, below⟩ := floor_bounds q
  unfold nearestEven at tie ⊢
  simp only at tie ⊢
  split_ifs at tie ⊢ with less more even
  next =>
    rw [abs_of_nonneg (sub_nonneg.mpr above)] at tie
    exact absurd tie less.ne
  next =>
    push_cast at tie
    rw [abs_of_nonpos (by linarith)] at tie
    linarith
  next => exact Int.even_iff.mpr even
  next => rw [Int.even_iff]; omega

theorem clamp_of_mem {low high q : Rat} (above : low ≤ q) (below : q ≤ high) :
    clamp low high q = q := by
  rw [clamp, if_neg (not_lt.mpr below), if_neg (not_lt.mpr above)]

theorem clamp_mem {low high : Rat} (ordered : low ≤ high) (q : Rat) :
    low ≤ clamp low high q ∧ clamp low high q ≤ high := by
  unfold clamp
  split
  next => exact ⟨ordered, le_refl high⟩
  next within =>
    split
    next => exact ⟨le_refl low, ordered⟩
    next above => exact ⟨not_lt.mp above, not_lt.mp within⟩

end ReviewDesk.Number
