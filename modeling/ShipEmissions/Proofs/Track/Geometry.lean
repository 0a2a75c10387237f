import ShipEmissions.Proofs.Exact
import ShipEmissions.Track.Segment

/-!
# Distances and bearings over the real numbers

* `Place.isDistance_distance`: a great-circle distance is not negative.
* `Place.isBearing_bearing`, `isBearing_averageBearing`: what is computed as a bearing is one.
-/

namespace ShipEmissions

/-! ## Quantities -/

@[simp] theorem isLongitude_real {x : ℝ} : IsLongitude x ↔ -180 ≤ x ∧ x < 180 := by
  simp only [IsLongitude, Scalar.ofNat_real]

@[simp] theorem isLatitude_real {x : ℝ} : IsLatitude x ↔ -90 ≤ x ∧ x ≤ 90 := by
  simp only [IsLatitude, Scalar.ofNat_real]

@[simp] theorem isSpeed_real {x : ℝ} : IsSpeed x ↔ 0 ≤ x := by
  simp only [IsSpeed, Scalar.ofNat_real]
  norm_num

@[simp] theorem isBearing_real {x : ℝ} : IsBearing x ↔ 0 ≤ x ∧ x < 360 := by
  simp only [IsBearing, Scalar.ofNat_real]
  norm_num

@[simp] theorem isDistance_real {x : ℝ} : IsDistance x ↔ 0 ≤ x := by
  simp only [IsDistance, Scalar.ofNat_real]
  norm_num

/-! ## Places -/

namespace Place

/-- The angle of a point in the first quadrant is not negative, and so is the distance. -/
theorem isDistance_distance (a b : Place ℝ) : IsDistance (a.distance b) := by
  rw [isDistance_real]
  unfold distance
  refine mul_nonneg ?_ (Complex.arg_nonneg_iff.2 (Real.sqrt_nonneg _))
  rw [Scalar.ofNat_real, earthRadius, Scalar.ofInt_real]
  norm_num

/-- A full turn is added to an angle between two half turns, so the remainder lies within a turn. -/
theorem isBearing_bearing (a b : Place ℝ) : IsBearing (a.bearing b) := by
  rw [isBearing_real]
  refine Scalar.remainder_turn ?_
  set angle : ℝ := Scalar.atan2 (b.lon - a.lon) (b.lat - a.lat) with hangle
  have hlower : -Real.pi < angle := Complex.neg_pi_lt_arg _
  have hdegrees : -180 ≤ Scalar.toDegrees angle := by
    show -180 ≤ angle * (180 / Real.pi)
    rw [mul_div_assoc', le_div_iff₀ Real.pi_pos]
    linarith
  simp only [Scalar.ofNat_real]
  push_cast
  linarith

end Place

/-- The mean is taken of the bearings as they are, or with a full turn added to one of them. -/
theorem averageBearing_eq_remainder {α : Type} [Scalar α] (b c : α) :
    ∃ x y, averageBearing b c = Scalar.remainder ((x + y) / 2) 360 ∧
      (x = b ∨ x = b + 360) ∧ (y = c ∨ y = c + 360) := by
  unfold averageBearing
  split
  next x y hpair =>
    refine ⟨x, y, rfl, ?_⟩
    split_ifs at hpair
    · cases hpair
      exact ⟨.inr rfl, .inl rfl⟩
    · cases hpair
      exact ⟨.inl rfl, .inr rfl⟩
    · cases hpair
      exact ⟨.inl rfl, .inl rfl⟩

/-- The mean of two bearings is one. -/
theorem isBearing_averageBearing {b c : ℝ} (hb : IsBearing b) (hc : IsBearing c) :
    IsBearing (averageBearing b c) := by
  rw [isBearing_real] at hb hc
  have hturned : ∀ {x y : ℝ}, 0 ≤ y → x = y ∨ x = y + (@OfNat.ofNat ℝ 360 Scalar.instOfNat) →
      0 ≤ x := by
    rintro x y hy (rfl | rfl)
    · exact hy
    · rw [Scalar.ofNat_real]
      positivity
  obtain ⟨x, y, hmean, hx, hy⟩ := averageBearing_eq_remainder b c
  have hx := hturned hb.1 hx
  have hy := hturned hc.1 hy
  rw [hmean, isBearing_real, Scalar.ofNat_real 2]
  exact Scalar.remainder_turn (by positivity)

end ShipEmissions
