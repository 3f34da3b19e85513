import Mathlib.Algebra.Order.Field.Power
import Mathlib.Data.Rat.Lemmas
import Mathlib.Tactic.Ring
import ReviewDesk.Number.Double
import ReviewDesk.Proofs.Number.Rounding

set_option autoImplicit false

namespace ReviewDesk.Number

theorem pow2_eq_zpow (exponent : Int) : pow2 exponent = (2 : Rat) ^ exponent := by
  unfold pow2
  split
  next large => rw [← zpow_natCast, Int.toNat_of_nonneg large]
  next small =>
    have opposite : ((-exponent).toNat : Int) = -exponent := Int.toNat_of_nonneg (by omega)
    rw [← zpow_natCast, opposite, zpow_neg, one_div, inv_inv]

theorem pow2_pos (exponent : Int) : 0 < pow2 exponent := by
  rw [pow2_eq_zpow]
  positivity

theorem pow2_add (m n : Int) : pow2 (m + n) = pow2 m * pow2 n := by
  simp only [pow2_eq_zpow]
  exact zpow_add₀ two_ne_zero m n

theorem pow2_le_pow2_iff {m n : Int} : pow2 m ≤ pow2 n ↔ m ≤ n := by
  rw [pow2_eq_zpow, pow2_eq_zpow]
  exact zpow_le_zpow_iff_right₀ one_lt_two

theorem pow2_lt_pow2_iff {m n : Int} : pow2 m < pow2 n ↔ m < n := by
  rw [pow2_eq_zpow, pow2_eq_zpow]
  exact zpow_lt_zpow_iff_right₀ one_lt_two

theorem pow2_natCast (n : Nat) : pow2 n = ((2 ^ n : Nat) : Rat) := by
  rw [pow2_eq_zpow, zpow_natCast]
  norm_cast

theorem log2_spec {q : Rat} (positive : 0 < q) :
    pow2 (log2 q) ≤ q ∧ q < pow2 (log2 q + 1) := by
  have value : ((q.num.natAbs : Nat) : Rat) / q.den = q := by
    have size : |q.num| = q.num := abs_of_nonneg (Rat.num_nonneg.mpr positive.le)
    rw [Nat.cast_natAbs, size, Rat.num_div_den]
  have some : q.num.natAbs ≠ 0 := Int.natAbs_ne_zero.mpr (Rat.num_ne_zero.mpr positive.ne')
  have bounds (n : Nat) (nonzero : n ≠ 0) : pow2 n.log2 ≤ n ∧ (n : Rat) < pow2 (n.log2 + 1) := by
    have next : ((n.log2 : Int) + 1) = ((n.log2 + 1 : Nat) : Int) := rfl
    rw [next, pow2_natCast, pow2_natCast, Nat.cast_le, Nat.cast_lt]
    exact ⟨Nat.log2_self_le nonzero, Nat.lt_log2_self⟩
  have num := bounds q.num.natAbs some
  have den := bounds q.den q.den_nz
  have quotient (m n : Int) : pow2 (m - n) = pow2 m / pow2 n := by
    rw [eq_div_iff (pow2_pos n).ne', ← pow2_add, sub_add_cancel]
  have above : q < pow2 ((q.num.natAbs.log2 : Int) - q.den.log2 + 1) := by
    rw [show (q.num.natAbs.log2 : Int) - q.den.log2 + 1 =
      ((q.num.natAbs.log2 : Int) + 1) - q.den.log2 by omega, quotient]
    calc q = (q.num.natAbs : Rat) / q.den := value.symm
      _ < pow2 (q.num.natAbs.log2 + 1) / pow2 q.den.log2 :=
        div_lt_div₀ num.2 den.1 (pow2_pos _).le (pow2_pos _)
  have below : pow2 ((q.num.natAbs.log2 : Int) - q.den.log2 - 1) ≤ q := by
    rw [show (q.num.natAbs.log2 : Int) - q.den.log2 - 1 =
      (q.num.natAbs.log2 : Int) - (q.den.log2 + 1) by omega, quotient]
    calc pow2 q.num.natAbs.log2 / pow2 (q.den.log2 + 1)
        ≤ (q.num.natAbs : Rat) / q.den :=
          div_le_div₀ (Nat.cast_nonneg _) num.1 (Nat.cast_pos.mpr q.den_pos) den.2.le
      _ = q := value
  unfold log2
  simp only
  split
  next reached => exact ⟨reached, above⟩
  next missed => exact ⟨below, by simpa using not_le.mp missed⟩

theorem log2_mono {q r : Rat} (positive : 0 < q) (ordered : q ≤ r) : log2 q ≤ log2 r := by
  have below := (log2_spec positive).1.trans ordered
  have above := below.trans_lt (log2_spec (positive.trans_le ordered)).2
  have := pow2_lt_pow2_iff.mp above
  omega

namespace Double

/-- The exponent of the last bit that a double near the number can have. -/
def grain (q : Rat) : Int := max (log2 q - 52) leastExponent

/-- The value of the nearest double, were there no greatest one. -/
def rounded (q : Rat) : Rat := nearestEven (q / pow2 (grain q)) * pow2 (grain q)

theorem grains_nonneg {q : Rat} (positive : 0 < q) : 0 ≤ nearestEven (q / pow2 (grain q)) :=
  le_nearestEven (by simpa using (div_pos positive (pow2_pos _)).le)

theorem rounded_nonneg {q : Rat} (positive : 0 < q) : 0 ≤ rounded q :=
  mul_nonneg (Int.cast_nonneg (grains_nonneg positive)) (pow2_pos _).le

section Powers

variable {q : Rat} {exponent : Int} (coarse : grain q ≤ exponent)

include coarse

theorem pow2_eq_grains :
    pow2 exponent = ((2 ^ (exponent - grain q).toNat : Nat) : Int) * pow2 (grain q) := by
  have steps : ((exponent - grain q).toNat : Int) = exponent - grain q := by omega
  have split := pow2_add (exponent - grain q) (grain q)
  rw [sub_add_cancel, ← steps, pow2_natCast] at split
  exact_mod_cast split

theorem pow2_le_rounded (bound : pow2 exponent ≤ q) : pow2 exponent ≤ rounded q := by
  rw [pow2_eq_grains coarse, ← le_div_iff₀ (pow2_pos _)] at bound
  rw [pow2_eq_grains coarse]
  exact mul_le_mul_of_nonneg_right (Int.cast_le.mpr (le_nearestEven bound)) (pow2_pos _).le

theorem rounded_le_pow2 (bound : q ≤ pow2 exponent) : rounded q ≤ pow2 exponent := by
  rw [pow2_eq_grains coarse, ← div_le_iff₀ (pow2_pos _)] at bound
  rw [pow2_eq_grains coarse]
  exact mul_le_mul_of_nonneg_right (Int.cast_le.mpr (nearestEven_le bound)) (pow2_pos _).le

end Powers

theorem rounded_mono {q r : Rat} (positive : 0 < q) (ordered : q ≤ r) :
    rounded q ≤ rounded r := by
  have logs := log2_mono positive ordered
  have grains : grain q ≤ grain r := max_le_max_right _ (by omega)
  rcases grains.lt_or_eq with finer | same
  next =>
    -- A power of two lies between the two numbers, and rounding does not take them past it.
    have normal : grain r = log2 r - 52 ∧ log2 q < log2 r := by
      unfold grain at finer ⊢
      omega
    have below : q ≤ pow2 (log2 r) :=
      (log2_spec positive).2.le.trans (pow2_le_pow2_iff.mpr (by omega))
    calc rounded q ≤ pow2 (log2 r) := rounded_le_pow2 (by omega) below
      _ ≤ rounded r := pow2_le_rounded (by omega) (log2_spec (positive.trans_le ordered)).1
  next =>
    have quotients : q / pow2 (grain r) ≤ r / pow2 (grain r) :=
      div_le_div_of_nonneg_right ordered (pow2_pos _).le
    rw [rounded, rounded, same]
    exact mul_le_mul_of_nonneg_right (Int.cast_le.mpr (nearestEven_mono quotients))
      (pow2_pos _).le

theorem nearest_cases (negative : Bool) {q : Rat} (positive : 0 < q) :
    nearest negative q = .infinite negative ∧ pow2 1023 ≤ rounded q ∨
      (nearest negative q).value? = some ((if negative then -1 else 1) * rounded q) := by
  have cast : (((nearestEven (q / pow2 (grain q))).toNat : Nat) : Rat) =
      nearestEven (q / pow2 (grain q)) := by
    exact_mod_cast Int.toNat_of_nonneg (grains_nonneg positive)
  -- Where there is no finite double the number is that large, and so is what it rounds to.
  have large (coarse : greatestExponent ≤ grain q) : pow2 1023 ≤ rounded q := by
    have normal : 1023 ≤ log2 q ∧ grain q ≤ log2 q := by
      unfold grain greatestExponent leastExponent at *
      omega
    exact (pow2_le_pow2_iff.mpr normal.1).trans (pow2_le_rounded normal.2 (log2_spec positive).1)
  unfold nearest
  rw [if_neg (not_le.mpr positive)]
  simp only [show max (log2 q - 52) leastExponent = grain q from rfl]
  by_cases carried : (nearestEven (q / pow2 (grain q))).toNat = 2 * normalSignificand
  next =>
    simp only [carried, beq_self_eq_true, if_true]
    split
    next huge => exact .inl ⟨rfl, large (by omega)⟩
    next =>
      right
      have doubled : (nearestEven (q / pow2 (grain q)) : Rat) = 2 * normalSignificand := by
        rw [← cast, carried]
        norm_cast
      have two : pow2 1 = 2 := by decide +kernel
      rw [value?, rounded, doubled, pow2_add, two]
      congr 1
      ring
  next =>
    have kept : ((nearestEven (q / pow2 (grain q))).toNat == 2 * normalSignificand) = false := by
      simpa using carried
    simp only [kept, Bool.false_eq_true, if_false]
    split
    next huge => exact .inl ⟨rfl, large (by omega)⟩
    next =>
      right
      rw [value?, cast, rounded]
      congr 1
      ring

theorem lessThan_of_value {x : Double} {value : Rat} (known : x.value? = some value)
    (bound : Rat) : x.lessThan bound = true ↔ value < bound := by
  cases x with
  | nan | infinite => simp [value?] at known
  | finite => simp [lessThan, known]

theorem atLeast_of_lessThan {x : Double} {bound : Rat} (less : x.lessThan bound = true) :
    x.atLeast bound = false := by
  cases x with
  | nan => rfl
  | infinite negative => simpa [lessThan, atLeast] using less
  | finite negative significand exponent =>
    simpa [lessThan, atLeast, value?] using less

section Bounds

variable {bound : Rat} (positive : 0 < bound) (moderate : bound ≤ pow2 1023)

include positive moderate

theorem lessThan_ofRat_iff (q : Rat) :
    (ofRat q).lessThan bound = true ↔ q ≤ 0 ∨ rounded q < bound := by
  rcases lt_trichotomy q 0 with below | rfl | above
  next =>
    have size : 0 < -q := neg_pos.mpr below
    have less : (nearest true (-q)).lessThan bound = true := by
      rcases nearest_cases true size with ⟨infinite, -⟩ | known
      next => rw [infinite]; rfl
      next =>
        rw [lessThan_of_value known]
        have := rounded_nonneg size
        simp only [if_true]
        linarith
    rw [ofRat, if_pos below, decide_eq_true below, less]
    exact iff_of_true rfl (.inl below.le)
  next =>
    have zero : (ofRat 0).value? = some 0 := by decide +kernel
    rw [lessThan_of_value zero]
    exact iff_of_true positive (.inl le_rfl)
  next =>
    rw [ofRat, if_neg above.not_gt, decide_eq_false above.not_gt]
    rcases nearest_cases false above with ⟨infinite, huge⟩ | known
    next =>
      rw [infinite]
      refine iff_of_false Bool.false_ne_true ?_
      rintro (low | less) <;> linarith
    next =>
      rw [lessThan_of_value known]
      simp [above.not_ge]

theorem lessThan_ofRat_mono {q r : Rat} (ordered : q ≤ r)
    (less : (ofRat r).lessThan bound = true) : (ofRat q).lessThan bound = true := by
  rw [lessThan_ofRat_iff positive moderate] at less ⊢
  rcases less with low | less
  next => exact .inl (ordered.trans low)
  next =>
    by_cases above : 0 < q
    next => exact .inr ((rounded_mono above ordered).trans_lt less)
    next => exact .inl (not_lt.mp above)

end Bounds

end Double

end ReviewDesk.Number
