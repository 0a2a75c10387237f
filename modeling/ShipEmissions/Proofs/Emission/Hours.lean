import Mathlib
import ShipEmissions.Emission.HourLimits
import ShipEmissions.Proofs.Track.Runs

/-!
# The hours that count for a segment

Over the real numbers, the distance that a ship reports by its speed is clamped to the covered
distance with its deviations, and the hours follow from it. The cap on their increase comes last: it
wins where the clamp would stretch the hours further.

* `HourLimits.clamp`, `HourLimits.factor_eq_clamp`: what a reported distance is multiplied by takes
  it to the clamp.
* `HourLimits.adjusted`: the hours that count, which depend on the hours, the mean speed and the
  covered distance alone.
* `HourLimits.adjusted_mem_Icc`: they are not negative and stay below the cap.
* `HourLimits.adjusted_again`: to adjust them again changes nothing unless they were capped.
* `HourLimits.Clamped`, `HourLimits.hours_clamped`: all of this for the hours of a segment.
-/

namespace ShipEmissions

/-! ## Segments -/

theorem Duration.hours_nonneg {d : Duration} (h : 0 ≤ d.nanos) : 0 ≤ (d.hours : ℝ) := by
  have hmicros : 0 ≤ d.micros := Int.tdiv_nonneg h (by decide)
  have hseconds : 0 ≤ d.seconds := Int.tdiv_nonneg h (by decide)
  rw [hours]
  simp only [Scalar.ofInt_real]
  split <;> positivity

/-- Nor are the hours of a segment negative. -/
theorem Segment.hours_nonneg (s : Segment ℝ) : 0 ≤ s.hours :=
  Duration.hours_nonneg s.nanos_duration_nonneg

theorem nauticalMiles_real (meters : ℝ) : nauticalMiles meters = meters / 1852 := by
  rw [nauticalMiles, metersPerMile, Scalar.ofInt_real]
  norm_num

theorem nauticalMiles_nonneg {meters : ℝ} (h : 0 ≤ meters) : 0 ≤ nauticalMiles meters := by
  rw [nauticalMiles_real]
  positivity

namespace HourLimits

theorem meanSog_real (s : Segment ℝ) : meanSog s = (s.start.sog.val + s.stop.sog.val) / 2 := by
  rw [meanSog, Scalar.ofNat_real]

theorem meanSog_nonneg (s : Segment ℝ) : 0 ≤ meanSog s := by
  have hstart := isSpeed_real.1 s.start.sog.property
  have hstop := isSpeed_real.1 s.stop.sog.property
  rw [meanSog_real]
  positivity

/-! ## Distances that fit -/

variable {limits : HourLimits ℝ} {reported h v D : ℝ}

/-- The shortest distance that fits a covered one. -/
noncomputable def shortest (limits : HourLimits ℝ) (D : ℝ) : ℝ := D * (1 - limits.deviation)

/-- The longest distance that fits a covered one. -/
noncomputable def longest (limits : HourLimits ℝ) (D : ℝ) : ℝ := D * (1 + limits.deviation)

/-- Of the distances that fit a covered one, the one that is nearest to a reported one. -/
noncomputable def clamp (limits : HourLimits ℝ) (reported D : ℝ) : ℝ :=
  max (limits.shortest D) (min reported (limits.longest D))

theorem clamp_of_le_shortest (h : reported ≤ limits.shortest D) :
    limits.clamp reported D = limits.shortest D :=
  max_eq_left ((min_le_left _ _).trans h)

theorem clamp_of_fits (hshortest : limits.shortest D ≤ reported)
    (hlongest : reported ≤ limits.longest D) : limits.clamp reported D = reported := by
  rw [clamp, min_eq_left hlongest, max_eq_right hshortest]

theorem factor_zero (D : ℝ) : limits.factor 0 D = 1 := by
  simp only [factor, Scalar.ofNat_real, Nat.cast_zero, Nat.cast_one, beq_self_eq_true, if_true]

section

variable (hdeviation : 0 ≤ limits.deviation) (hD : 0 ≤ D)

include hdeviation hD

theorem shortest_le_longest : limits.shortest D ≤ limits.longest D :=
  mul_le_mul_of_nonneg_left (by linarith) hD

theorem clamp_of_longest_le (h : limits.longest D ≤ reported) :
    limits.clamp reported D = limits.longest D := by
  rw [clamp, min_eq_right h, max_eq_right (shortest_le_longest hdeviation hD)]

theorem clamp_le_longest (reported : ℝ) : limits.clamp reported D ≤ limits.longest D :=
  max_le (shortest_le_longest hdeviation hD) (min_le_right _ _)

theorem clamp_nonneg (hreported : 0 ≤ reported) : 0 ≤ limits.clamp reported D :=
  le_max_of_le_right (le_min hreported (mul_nonneg hD (by linarith)))

/-- What the factor makes of a reported distance is the clamp. -/
theorem factor_eq_clamp (hreported : 0 < reported) :
    limits.factor reported D = limits.clamp reported D / reported := by
  have hzero : ¬(reported == 0) = true := by simpa using hreported.ne'
  simp only [factor, Scalar.ofNat_real, Nat.cast_zero, Nat.cast_one]
  rw [if_neg hzero]
  split_ifs with hshort hlong
  · rw [clamp_of_le_shortest hshort.le, shortest]
  · rw [clamp_of_longest_le hdeviation hD hlong.le, longest]
  · rw [clamp_of_fits (not_lt.1 hshort) (not_lt.1 hlong), div_self hreported.ne']

/-- No factor is negative. -/
theorem factor_nonneg (hreported : 0 ≤ reported) : 0 ≤ limits.factor reported D := by
  rcases hreported.eq_or_lt with rfl | hpos
  · rw [factor_zero]
    exact zero_le_one
  · rw [factor_eq_clamp hdeviation hD hpos]
    exact div_nonneg (clamp_nonneg hdeviation hD hreported) hreported

end

/-! ## Hours -/

/-- The hours that count for hours `h` at a mean speed `v` in which `D` miles were covered. -/
noncomputable def adjusted (limits : HourLimits ℝ) (h v D : ℝ) : ℝ :=
  h * Scalar.least (limits.factor (h * v) D) limits.increase

theorem hours_eq_adjusted (limits : HourLimits ℝ) (s : Segment ℝ) :
    limits.hours s = limits.adjusted s.hours (meanSog s) (nauticalMiles s.distance) := rfl

/-- The cap keeps the hours below those that the clamp asks for. -/
def Capped (limits : HourLimits ℝ) (h v D : ℝ) : Prop :=
  h * v ≠ 0 ∧ limits.increase * h < limits.clamp (h * v) D / v

theorem adjusted_of_zero (hincrease : 1 ≤ limits.increase) (hzero : h * v = 0) (D : ℝ) :
    limits.adjusted h v D = h := by
  rw [adjusted, hzero, factor_zero, Scalar.least_real, min_eq_left hincrease, mul_one]

section

variable (hdeviation : 0 ≤ limits.deviation) (hD : 0 ≤ D) (hv : 0 ≤ v)

include hdeviation hD hv

/-- Without a cap above one there may be less than the hours, but never a negative number. -/
theorem adjusted_mem_Icc (hincrease : 0 ≤ limits.increase) (hh : 0 ≤ h) :
    limits.adjusted h v D ∈ Set.Icc 0 (limits.increase * h) := by
  have hfactor := factor_nonneg hdeviation hD (mul_nonneg hh hv)
  rw [adjusted, Scalar.least_real]
  constructor
  · exact mul_nonneg hh (le_min hfactor hincrease)
  · rw [mul_comm limits.increase]
    exact mul_le_mul_of_nonneg_left (min_le_right _ _) hh

end

/-! ### Reported distances other than zero -/

section

variable (hdeviation : 0 ≤ limits.deviation) (hD : 0 ≤ D) (hh : 0 ≤ h) (hpos : 0 < h * v)

include hdeviation hD hh hpos

/-- The clamp by the speed, then the cap. -/
theorem adjusted_eq_min :
    limits.adjusted h v D = min (limits.clamp (h * v) D / v) (limits.increase * h) := by
  have hne : h ≠ 0 := left_ne_zero_of_mul hpos.ne'
  rw [adjusted, factor_eq_clamp hdeviation hD hpos, Scalar.least_real, mul_min_of_nonneg _ _ hh,
    mul_comm h limits.increase, mul_div_assoc', mul_div_mul_left _ _ hne]

theorem adjusted_of_capped (hcapped : limits.Capped h v D) :
    limits.adjusted h v D = limits.increase * h := by
  rw [adjusted_eq_min hdeviation hD hh hpos, min_eq_right hcapped.2.le]

/-- Without the cap, the hours mean the clamped distance. -/
theorem adjusted_mul_of_not_capped (hcapped : ¬limits.Capped h v D) :
    limits.adjusted h v D * v = limits.clamp (h * v) D := by
  have hle : limits.clamp (h * v) D / v ≤ limits.increase * h :=
    not_lt.1 fun hlt => hcapped ⟨hpos.ne', hlt⟩
  rw [adjusted_eq_min hdeviation hD hh hpos, min_eq_left hle,
    div_mul_cancel₀ _ (right_ne_zero_of_mul hpos.ne')]

theorem adjusted_mul_le_clamp : limits.adjusted h v D * v ≤ limits.clamp (h * v) D := by
  have hv : 0 < v := pos_of_mul_pos_right hpos hh
  rw [adjusted_eq_min hdeviation hD hh hpos, ← le_div_iff₀ hv]
  exact min_le_left _ _

variable (hincrease : 1 ≤ limits.increase)

include hincrease

theorem adjusted_of_fits (hshortest : limits.shortest D ≤ h * v)
    (hlongest : h * v ≤ limits.longest D) : limits.adjusted h v D = h := by
  rw [adjusted_eq_min hdeviation hD hh hpos, clamp_of_fits hshortest hlongest,
    mul_div_cancel_right₀ _ (right_ne_zero_of_mul hpos.ne')]
  exact min_eq_left (le_mul_of_one_le_left hh hincrease)

/-- No hours that fit and that the cap allows are nearer: where the hours have to change, the hours
that count lie between them and all others that fit. -/
theorem abs_adjusted_sub_le {x : ℝ} (hshortest : limits.shortest D ≤ x * v)
    (hlongest : x * v ≤ limits.longest D) (hcap : x ≤ limits.increase * h) :
    |limits.adjusted h v D - h| ≤ |x - h| := by
  have hv : 0 < v := pos_of_mul_pos_right hpos hh
  have hgrow : h ≤ limits.increase * h := le_mul_of_one_le_left hh hincrease
  have hmin := adjusted_eq_min hdeviation hD hh hpos
  rcases lt_or_ge (h * v) (limits.shortest D) with hshort | hshort
  · rw [clamp_of_le_shortest hshort.le] at hmin
    have hbelow : h ≤ limits.adjusted h v D := by
      rw [hmin]
      exact le_min ((le_div_iff₀ hv).2 hshort.le) hgrow
    have habove : limits.adjusted h v D ≤ x := by
      rw [hmin]
      exact (min_le_left _ _).trans ((div_le_iff₀ hv).2 hshortest)
    rw [abs_of_nonneg (sub_nonneg.2 hbelow), abs_of_nonneg (sub_nonneg.2 (hbelow.trans habove))]
    exact sub_le_sub_right habove h
  · rcases le_or_gt (h * v) (limits.longest D) with hlong | hlong
    · rw [adjusted_of_fits hdeviation hD hh hpos hincrease hshort hlong, sub_self, abs_zero]
      exact abs_nonneg _
    · rw [clamp_of_longest_le hdeviation hD hlong.le] at hmin
      have hbelow : x ≤ limits.adjusted h v D := by
        rw [hmin]
        exact le_min ((le_div_iff₀ hv).2 hlongest) hcap
      have habove : limits.adjusted h v D ≤ h := by
        rw [hmin]
        exact (min_le_left _ _).trans ((div_le_iff₀ hv).2 hlong.le)
      rw [abs_sub_comm, abs_sub_comm x, abs_of_nonneg (sub_nonneg.2 habove),
        abs_of_nonneg (sub_nonneg.2 (hbelow.trans habove))]
      exact sub_le_sub_left hbelow h

end

/-- Hours that were not capped fit, so to adjust them again changes nothing. -/
theorem adjusted_again (hdeviation : 0 ≤ limits.deviation) (hincrease : 1 ≤ limits.increase)
    (hh : 0 ≤ h) (hv : 0 ≤ v) (hD : 0 ≤ D) (hcapped : ¬limits.Capped h v D) :
    limits.adjusted (limits.adjusted h v D) v D = limits.adjusted h v D := by
  rcases (mul_nonneg hh hv).eq_or_lt with hzero | hpos
  · rw [adjusted_of_zero hincrease hzero.symm, adjusted_of_zero hincrease hzero.symm]
  · have hmul := adjusted_mul_of_not_capped hdeviation hD hh hpos hcapped
    have hagain := (adjusted_mem_Icc hdeviation hD hv (zero_le_one.trans hincrease) hh).1
    rcases (mul_nonneg hagain hv).eq_or_lt with hzero | hpos'
    · exact adjusted_of_zero hincrease hzero.symm D
    · refine adjusted_of_fits hdeviation hD hagain hpos' hincrease ?_ ?_
      · rw [hmul]
        exact le_max_left _ _
      · rw [hmul]
        exact clamp_le_longest hdeviation hD _

/-! ## Hours of segments -/

/-- Hours `h'` count for hours `h` at a mean speed `v` in which `D` miles were covered: the clamp of
the reported distance by the speed, up to the cap. -/
structure Clamped (limits : HourLimits ℝ) (h v D h' : ℝ) : Prop where
  of_zero : h * v = 0 → h' = h
  eq_min : h * v ≠ 0 → h' = min (max (D * (1 - limits.deviation))
    (min (h * v) (D * (1 + limits.deviation))) / v) (limits.increase * h)
  mul_le : 0 < h * v → h' * v ≤ D * (1 + limits.deviation)
  le_mul : 0 < h * v → h' ≠ limits.increase * h → D * (1 - limits.deviation) ≤ h' * v
  of_fits : 0 < h * v → D * (1 - limits.deviation) ≤ h * v → h * v ≤ D * (1 + limits.deviation) →
    h' = h
  nearest : 0 < h * v → ∀ x, D * (1 - limits.deviation) ≤ x * v →
    x * v ≤ D * (1 + limits.deviation) → x ≤ limits.increase * h → |h' - h| ≤ |x - h|

theorem clamped_adjusted (hdeviation : 0 ≤ limits.deviation) (hincrease : 1 ≤ limits.increase)
    (hh : 0 ≤ h) (hv : 0 ≤ v) (hD : 0 ≤ D) : limits.Clamped h v D (limits.adjusted h v D) where
  of_zero hzero := adjusted_of_zero hincrease hzero D
  eq_min hne := adjusted_eq_min hdeviation hD hh ((mul_nonneg hh hv).lt_of_ne' hne)
  mul_le hpos := (adjusted_mul_le_clamp hdeviation hD hh hpos).trans
    (clamp_le_longest hdeviation hD _)
  le_mul hpos hne := by
    have hcapped : ¬limits.Capped h v D := fun hcapped =>
      hne (adjusted_of_capped hdeviation hD hh hpos hcapped)
    rw [adjusted_mul_of_not_capped hdeviation hD hh hpos hcapped]
    exact le_max_left _ _
  of_fits hpos := adjusted_of_fits hdeviation hD hh hpos hincrease
  nearest hpos _ := abs_adjusted_sub_le hdeviation hD hh hpos hincrease

/-- The hours that count for a segment are its clamped hours. They count as they are if they are
adjusted again, be it for another segment with the same mean speed and the same distance, unless
they were capped. -/
theorem hours_clamped (hdeviation : 0 ≤ limits.deviation) (hincrease : 1 ≤ limits.increase)
    {s : Segment ℝ} (hdistance : 0 ≤ s.distance) :
    limits.Clamped s.hours (meanSog s) (nauticalMiles s.distance) (limits.hours s) ∧
      (¬limits.Capped s.hours (meanSog s) (nauticalMiles s.distance) →
        limits.adjusted (limits.hours s) (meanSog s) (nauticalMiles s.distance) = limits.hours s ∧
        ∀ again : Segment ℝ, again.hours = limits.hours s → meanSog again = meanSog s →
          again.distance = s.distance → limits.hours again = limits.hours s) := by
  have hmiles := nauticalMiles_nonneg hdistance
  refine ⟨clamped_adjusted hdeviation hincrease s.hours_nonneg (meanSog_nonneg s) hmiles, ?_⟩
  intro hcapped
  have hagain := adjusted_again hdeviation hincrease s.hours_nonneg (meanSog_nonneg s) hmiles
    hcapped
  refine ⟨hagain, fun again hhours hsog hlength => ?_⟩
  rw [hours_eq_adjusted, hhours, hsog, hlength]
  exact hagain

/-- Two hours at 8 knots mean 16 miles. Of 13 covered miles that is more than a fifth too much, so
15.6 miles count, and the hours in which the ship makes them. -/
theorem hours_clamped_too_long :
    let limits : HourLimits ℝ := ⟨1 / 5, 10⟩
    let s : Segment ℝ :=
      { start := { Track.anchored 0 with sog := ⟨7, by norm_num⟩ }
        stop := { Track.anchored 7200000 with sog := ⟨9, by norm_num⟩ }
        distance := 24076
        start_le_stop := Track.anchored_le (show (0 : ℤ) ≤ 7200000 by decide) }
    0 ≤ limits.deviation ∧ 1 ≤ limits.increase ∧ 0 ≤ s.distance ∧
      limits.hours s = 39 / 20 ∧ limits.adjusted (39 / 20) 8 13 = 39 / 20 := by
  intro limits s
  have hdeviation : 0 ≤ limits.deviation := by norm_num
  have hincrease : 1 ≤ limits.increase := by norm_num
  have hdistance : 0 ≤ s.distance := by norm_num
  obtain ⟨hclamped, hagain⟩ := hours_clamped hdeviation hincrease hdistance
  have hsegment : s.hours = 2 :=
    (Duration.hours_real (n := 7200000000) rfl (by decide)).trans (by norm_num)
  have hsog : meanSog s = 8 := by
    rw [meanSog_real]
    norm_num
  have hmiles : nauticalMiles s.distance = 13 := by
    rw [nauticalMiles_real]
    norm_num
  rw [hsegment, hsog, hmiles] at hclamped hagain
  have hhours : limits.hours s = 39 / 20 := by
    rw [hclamped.eq_min (by norm_num)]
    norm_num
  have hcapped : ¬limits.Capped 2 8 13 := by
    rintro ⟨-, hlt⟩
    revert hlt
    norm_num [clamp, shortest, longest]
  rw [hhours] at hagain
  exact ⟨hdeviation, hincrease, hdistance, hhours, (hagain hcapped).1⟩

end HourLimits

end ShipEmissions
