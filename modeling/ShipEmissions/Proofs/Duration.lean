import ShipEmissions.Proofs.Exact

/-!
# Hours of durations

Hours are counted in whole microseconds, as long as their number has 64 bits, and in whole seconds
beyond. What is left over goes, so hours are exact to the microsecond only before the change. A
duration just behind the change may even have fewer hours than one just before it, since it loses
its microseconds.

* `Duration.micros_add`: what whole microseconds of a sum there are that its parts do not have.
* `Duration.counted`, `Duration.hours_eq_counted`: the nanoseconds that the hours count.
* `Duration.abs_hours_sub_lt_iff`: hours are exact to the microsecond, or only to the second.
* `Duration.hours_le_iff`: longer durations have no fewer hours, or do.
* `Duration.hours_exact_iff`: when either is the case.
-/

namespace ShipEmissions

namespace Duration

variable {d e : Duration}

/-! ## Whole parts -/

/-- Division toward zero leaves less than the divisor, with the sign of the number. -/
theorem tdiv_bounds (n : ℤ) {m : ℤ} (hm : 0 < m) :
    (0 ≤ n → m * n.tdiv m ≤ n ∧ n < m * n.tdiv m + m) ∧
      (n ≤ 0 → n ≤ m * n.tdiv m ∧ m * n.tdiv m < n + m) := by
  have hrest := Int.mul_tdiv_add_tmod n m
  refine ⟨fun hn => ?_, fun hn => ?_⟩
  · have hlower := Int.tmod_nonneg m hn
    have hupper := Int.tmod_lt_of_pos n hm
    omega
  · have hlower := Int.lt_tmod_of_pos n hm
    have hupper := Int.tmod_nonneg m (Int.neg_nonneg_of_nonpos hn)
    rw [Int.neg_tmod] at hupper
    omega

theorem micros_bounds (d : Duration) :
    (0 ≤ d.nanos → 1000 * d.micros ≤ d.nanos ∧ d.nanos < 1000 * d.micros + 1000) ∧
      (d.nanos ≤ 0 → d.nanos ≤ 1000 * d.micros ∧ 1000 * d.micros < d.nanos + 1000) :=
  tdiv_bounds d.nanos (by decide)

theorem seconds_bounds (d : Duration) :
    (0 ≤ d.nanos →
        1000000000 * d.seconds ≤ d.nanos ∧ d.nanos < 1000000000 * d.seconds + 1000000000) ∧
      (d.nanos ≤ 0 →
        d.nanos ≤ 1000000000 * d.seconds ∧ 1000000000 * d.seconds < d.nanos + 1000000000) :=
  tdiv_bounds d.nanos (by decide)

theorem holds_iff {n : ℤ} :
    Bits64.Holds n ↔ -9223372036854775808 ≤ n ∧ n ≤ 9223372036854775807 := Iff.rfl

/-! ## What counts -/

/-- The length in hours. -/
noncomputable def exactHours (d : Duration) : ℝ := d.nanos / 3600000000000

/-- The nanoseconds of a duration that its hours count. -/
def counted (d : Duration) : ℤ :=
  if Bits64.Holds d.micros then 1000 * d.micros else 1000000000 * d.seconds

theorem counted_of_holds (h : Bits64.Holds d.micros) : d.counted = 1000 * d.micros := if_pos h

theorem counted_of_not_holds (h : ¬Bits64.Holds d.micros) : d.counted = 1000000000 * d.seconds :=
  if_neg h

theorem hours_eq_counted (d : Duration) : (d.hours : ℝ) = d.counted / 3600000000000 := by
  rw [hours, counted]
  split <;> simp only [Scalar.ofInt_real] <;> push_cast <;> ring

theorem hours_le_iff : (d.hours : ℝ) ≤ e.hours ↔ d.counted ≤ e.counted := by
  rw [hours_eq_counted, hours_eq_counted, div_le_div_iff_of_pos_right (by norm_num), Int.cast_le]

/-- Hours are as far from the length as what they count is from the nanoseconds. -/
theorem abs_hours_sub_lt_iff (d : Duration) (n : ℤ) :
    |(d.hours : ℝ) - d.exactHours| < n / 3600000000000 ↔ |d.counted - d.nanos| < n := by
  have hpos : (0 : ℝ) < 3600000000000 := by norm_num
  rw [hours_eq_counted, exactHours, ← sub_div, abs_div, abs_of_pos hpos,
    div_lt_div_iff_of_pos_right hpos]
  norm_cast

/-! ## How exact hours are -/

/-- No microsecond is left over beyond the whole seconds. -/
def IsWholeSeconds (d : Duration) : Prop := d.micros = 1000000 * d.seconds

theorem abs_counted_sub_lt_second (d : Duration) : |d.counted - d.nanos| < 1000000000 := by
  have hmicros := d.micros_bounds
  have hseconds := d.seconds_bounds
  rw [abs_lt]
  by_cases h : Bits64.Holds d.micros
  · rw [counted_of_holds h]
    omega
  · rw [counted_of_not_holds h]
    omega

theorem abs_counted_sub_lt_microsecond_iff (d : Duration) :
    |d.counted - d.nanos| < 1000 ↔ Bits64.Holds d.micros ∨ d.IsWholeSeconds := by
  have hmicros := d.micros_bounds
  have hseconds := d.seconds_bounds
  by_cases h : Bits64.Holds d.micros
  · rw [counted_of_holds h, abs_lt]
    exact iff_of_true (by omega) (.inl h)
  · rw [counted_of_not_holds h, abs_lt, or_iff_right h, IsWholeSeconds]
    omega

/-! ## Longer durations -/

/-- The longer of two durations has fewer hours: both have the same whole seconds, only one of them
counts microseconds, and it has some beyond the seconds. -/
def RunsBack (d e : Duration) : Prop :=
  d.seconds = e.seconds ∧
    (Bits64.Holds d.micros ∧ ¬Bits64.Holds e.micros ∧ 1000000 * d.seconds < d.micros ∨
      Bits64.Holds e.micros ∧ ¬Bits64.Holds d.micros ∧ e.micros < 1000000 * e.seconds)

/-- Numbers of 64 bits lie between all others. -/
theorem counted_le_iff (h : d ≤ e) : d.counted ≤ e.counted ↔ ¬RunsBack d e := by
  have hle : d.nanos ≤ e.nanos := h
  have hmicros := d.micros_bounds
  have hseconds := d.seconds_bounds
  have hmicros' := e.micros_bounds
  have hseconds' := e.seconds_bounds
  -- the cases differ in the side of the change that each duration lies on
  by_cases hd : Bits64.Holds d.micros <;> by_cases he : Bits64.Holds e.micros <;>
    simp only [RunsBack, hd, he, not_true_eq_false, not_false_eq_true, false_and, true_and,
      and_false, or_false, false_or, iff_true]
  · rw [counted_of_holds hd, counted_of_holds he]
    omega
  · rw [counted_of_holds hd, counted_of_not_holds he]
    rw [holds_iff] at hd he
    omega
  · rw [counted_of_not_holds hd, counted_of_holds he]
    rw [holds_iff] at hd he
    omega
  · rw [counted_of_not_holds hd, counted_of_not_holds he]
    omega

/-- Hours run back only within the second in which the microseconds run out of 64 bits. -/
theorem RunsBack.seconds_eq (h : RunsBack d e) :
    d.seconds = 9223372036854 ∨ d.seconds = -9223372036854 := by
  have hmicros := d.micros_bounds
  have hseconds := d.seconds_bounds
  have hmicros' := e.micros_bounds
  have hseconds' := e.seconds_bounds
  obtain ⟨hsame, h⟩ := h
  rw [holds_iff, holds_iff] at h
  omega

/-- Hours are exact to the microsecond iff the microseconds have 64 bits or there are none beyond
the whole seconds, and to the second always. A longer duration has no fewer hours, except within the
second in which the microseconds run out of 64 bits, where those that have some beyond the second
have more hours than those without 64 bits. -/
theorem hours_exact_iff (d e : Duration) :
    (|(d.hours : ℝ) - d.exactHours| < 1 / 3600000000 ↔
        Bits64.Holds d.micros ∨ d.IsWholeSeconds) ∧
      |(d.hours : ℝ) - d.exactHours| < 1 / 3600 ∧
      (d ≤ e → ((d.hours : ℝ) ≤ e.hours ↔ ¬RunsBack d e)) ∧
      (RunsBack d e → d.seconds = 9223372036854 ∨ d.seconds = -9223372036854) := by
  have hmicrosecond : (1 / 3600000000 : ℝ) = (1000 : ℤ) / 3600000000000 := by norm_num
  have hsecond : (1 / 3600 : ℝ) = (1000000000 : ℤ) / 3600000000000 := by norm_num
  refine ⟨?_, ?_, fun hle => hours_le_iff.trans (counted_le_iff hle), RunsBack.seconds_eq⟩
  · rw [hmicrosecond, abs_hours_sub_lt_iff, abs_counted_sub_lt_microsecond_iff]
  · rw [hsecond, abs_hours_sub_lt_iff]
    exact d.abs_counted_sub_lt_second

/-- The last whole second with 64 bits of microseconds has no more hours than the first duration
without. The last millisecond with 64 bits has more, and runs back in that second. -/
theorem hours_exact_iff_change :
    ofMillis 9223372036854000 ≤ ofMillis 9223372036854776 ∧
      ¬Bits64.Holds (ofMillis 9223372036854776).micros ∧
      |((ofMillis 9223372036854000).hours : ℝ) - (ofMillis 9223372036854000).exactHours| <
        1 / 3600000000 ∧
      ((ofMillis 9223372036854000).hours : ℝ) ≤ (ofMillis 9223372036854776).hours ∧
      RunsBack (ofMillis 9223372036854775) (ofMillis 9223372036854776) ∧
      (ofMillis 9223372036854775).seconds = 9223372036854 := by
  have hle : ofMillis 9223372036854000 ≤ ofMillis 9223372036854776 := by decide
  obtain ⟨hexact, -, horder, -⟩ :=
    hours_exact_iff (ofMillis 9223372036854000) (ofMillis 9223372036854776)
  have hforth : ¬RunsBack (ofMillis 9223372036854000) (ofMillis 9223372036854776) := by
    rintro ⟨-, ⟨-, -, hlt⟩ | ⟨hholds, -, -⟩⟩
    · revert hlt
      decide
    · revert hholds
      decide
  have hback : RunsBack (ofMillis 9223372036854775) (ofMillis 9223372036854776) :=
    ⟨by decide, .inl ⟨by decide, by decide, by decide⟩⟩
  obtain ⟨-, -, -, hsecond⟩ :=
    hours_exact_iff (ofMillis 9223372036854775) (ofMillis 9223372036854776)
  exact ⟨hle, by decide, hexact.2 (.inl (by decide)), (horder hle).2 hforth, hback,
    (hsecond hback).resolve_right (by decide)⟩

/-- A millisecond on, the hours are fewer, and more than a microsecond off. -/
theorem hours_run_back :
    ofMillis 9223372036854775 ≤ ofMillis 9223372036854776 ∧
      ((ofMillis 9223372036854776).hours : ℝ) < (ofMillis 9223372036854775).hours ∧
      ¬|((ofMillis 9223372036854776).hours : ℝ) - (ofMillis 9223372036854776).exactHours| <
        1 / 3600000000 := by
  have hbefore : (ofMillis 9223372036854775).counted = 9223372036854775000000 := rfl
  have hbehind : (ofMillis 9223372036854776).counted = 9223372036854000000000 := rfl
  refine ⟨by decide, ?_, ?_⟩
  · rw [hours_eq_counted, hours_eq_counted, hbefore, hbehind]
    norm_num
  · rw [hours_eq_counted, hbehind, exactHours]
    norm_num [ofMillis]

end Duration

end ShipEmissions
