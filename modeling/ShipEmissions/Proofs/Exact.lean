import Mathlib
import ShipEmissions.Time

/-!
# Exact arithmetic

The formulas run on floating-point numbers. Read over the real numbers, with the sine, the cosine,
the angle and the root that analysis knows, they say what is computed apart from rounding.

* `Scalar.real`: the real numbers as scalars.
* `Scalar.least_real`, `Scalar.greatest_real`, `Scalar.size_real`, `Scalar.sum_real`: what the
  formulas build from their operations.
* `Scalar.remainder_turn`: a remainder by a full turn lies within the turn.
* `Scalar.round_real_mono`: rounding keeps the order.
* `Duration.hours_real`: hours where microseconds count them.
-/

namespace ShipEmissions

namespace Scalar

/-- The real numbers. Nothing overflows, and every value is a number. -/
noncomputable instance real : Scalar ℝ where
  decLt := inferInstance
  decLe := inferInstance
  ofInt n := n
  remainder x y := x - y * (if 0 ≤ x / y then (⌊x / y⌋ : ℝ) else (⌈x / y⌉ : ℝ))
  sqrt := Real.sqrt
  sin := Real.sin
  cos := Real.cos
  atan2 y x := Complex.arg ⟨x, y⟩
  degree := Real.pi / 180
  radian := 180 / Real.pi
  isFinite _ := true
  round x := if 0 ≤ x then ⌊x + 1 / 2⌋ else ⌈x - 1 / 2⌉
  zero_le_zero := by simp
  zero_lt_turn := by norm_num

theorem ofInt_real (n : ℤ) : (ofInt n : ℝ) = n := rfl

/-- A literal in a formula is that number. This is no rule of `simp`, since a literal of the real
numbers is also read as one of a formula. -/
theorem ofNat_real (n : ℕ) : (@OfNat.ofNat ℝ n instOfNat) = n := rfl

theorem least_real (x y : ℝ) : least x y = min x y := by
  unfold least
  rcases lt_or_ge x y with h | h
  · rw [if_pos h, min_eq_left h.le]
  · rw [if_neg (not_lt.2 h), if_pos (beq_self_eq_true y), min_eq_right h]

theorem greatest_real (x y : ℝ) : greatest x y = max x y := by
  unfold greatest
  rcases lt_or_ge y x with h | h
  · rw [if_pos h, max_eq_left h.le]
  · rw [if_neg (not_lt.2 h), if_pos (beq_self_eq_true y), max_eq_right h]

theorem size_real (x : ℝ) : size x = |x| := by
  rw [size, ofNat_real, Nat.cast_zero]
  split
  · next hneg => exact (abs_of_neg hneg).symm
  · next hneg => exact (abs_of_nonneg (not_lt.1 hneg)).symm

theorem foldl_add_real (xs : List ℝ) (x : ℝ) : xs.foldl (fun a b => a + b) x = x + xs.sum := by
  induction xs generalizing x with
  | nil => simp
  | cons y xs ih => rw [List.foldl_cons, ih, List.sum_cons, add_assoc]

theorem sum_real (xs : List ℝ) : sum xs = xs.sum := by
  cases xs with
  | nil => rw [sum, ofNat_real, Nat.cast_zero, List.sum_nil]
  | cons x xs => exact (foldl_add_real xs x).trans List.sum_cons.symm

/-- Of a number that is not negative, the remainder by a full turn lies within the turn. -/
theorem remainder_turn {x : ℝ} (h : 0 ≤ x) : 0 ≤ remainder x 360 ∧ remainder x 360 < 360 := by
  have hquotient : 0 ≤ x / 360 := by positivity
  show 0 ≤ x - 360 * _ ∧ x - 360 * _ < 360
  rw [if_pos hquotient]
  have hbelow := Int.floor_le (x / 360)
  have habove := Int.lt_floor_add_one (x / 360)
  constructor <;> linarith

/-- A point above the abscissa has a positive angle. -/
theorem atan2_pos {y x : ℝ} (h : 0 < y) : 0 < atan2 y x := by
  refine (Complex.arg_nonneg_iff.2 h.le).lt_of_ne ?_
  intro hzero
  exact h.ne' (Complex.arg_eq_zero_iff.1 hzero.symm).2

theorem round_real_mono {x y : ℝ} (h : x ≤ y) : round x ≤ round y := by
  show (if 0 ≤ x then ⌊x + 1 / 2⌋ else ⌈x - 1 / 2⌉) ≤ if 0 ≤ y then ⌊y + 1 / 2⌋ else ⌈y - 1 / 2⌉
  split <;> rename_i hx
  · rw [if_pos (hx.trans h)]
    exact Int.floor_mono (by linarith)
  · split <;> rename_i hy
    · have hbelow : ⌈x - 1 / 2⌉ ≤ 0 := Int.ceil_le.2 (by push_cast; linarith)
      have habove : 0 ≤ ⌊y + 1 / 2⌋ := Int.le_floor.2 (by push_cast; linarith)
      exact hbelow.trans habove
    · exact Int.ceil_mono (by linarith)

/-- A whole number is what it is rounded to. -/
theorem round_real_intCast (n : ℤ) : round (n : ℝ) = n := by
  show (if (0 : ℝ) ≤ n then ⌊(n : ℝ) + 1 / 2⌋ else ⌈(n : ℝ) - 1 / 2⌉) = n
  split
  · rw [Int.floor_eq_iff]
    norm_num
  · rw [Int.ceil_eq_iff]
    norm_num

end Scalar

/-! ## Hours -/

namespace Duration

/-- Hours count the whole microseconds, as long as these fit 64 bits. -/
theorem hours_real {d : Duration} {n : ℤ} (hd : d.micros = n) (h : Bits64.Holds n) :
    (d.hours : ℝ) = n / 3600000000 := by
  rw [hours, hd, if_pos h, Scalar.ofInt_real, Scalar.ofInt_real]
  norm_num

end Duration

end ShipEmissions
