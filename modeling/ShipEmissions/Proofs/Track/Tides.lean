import Mathlib
import ShipEmissions.Proofs.Track.Plot

/-!
# Tides and the speed through water

What a ship makes good over ground is what it makes through water and what the tide adds. The three
speeds are the sides of a triangle, so the one through water follows from the other two and the
cosine of the angle between them. Over the real numbers, any function with values from -1 to 1 may
stand for the cosine.

* `IsThirdSide`, `isThirdSide_sqrt`: the law of cosines, and how long it lets the third side be.
* `Reals`: the real numbers with another cosine.
* `toReal_speedThroughWater_eq_sqrt`: one formula gives the speed through water, also where the
  water stands still.
* `stw_isThirdSide`: the speed through water of positions and of plots.
-/

namespace ShipEmissions

/-! ## Triangles -/

section Triangles

variable {a b c : ℝ}

/-- The square of the third side of a triangle with sides `a` and `b`, between which lies an angle
of cosine `c`. -/
noncomputable def thirdSquare (a b c : ℝ) : ℝ := a ^ 2 + b ^ 2 - 2 * a * b * c

/-- A length `x` is the third side of such a triangle. -/
structure IsThirdSide (a b c x : ℝ) : Prop where
  sq_eq : x ^ 2 = thirdSquare a b c
  sq_mem : thirdSquare a b c ∈ Set.Icc ((a - b) ^ 2) ((a + b) ^ 2)
  nonneg : 0 ≤ x
  mem : x ∈ Set.Icc |a - b| (a + b)

section

variable (ha : 0 ≤ a) (hb : 0 ≤ b) (hc : c ∈ Set.Icc (-1) 1)

include ha hb hc

/-- The square is least where both sides point in one direction, and greatest where they point in
opposite ones. -/
theorem thirdSquare_mem : thirdSquare a b c ∈ Set.Icc ((a - b) ^ 2) ((a + b) ^ 2) := by
  have hproduct : 0 ≤ 2 * a * b := by positivity
  have hsame : 2 * a * b * c ≤ 2 * a * b := mul_le_of_le_one_right hproduct hc.2
  have hopposite : 2 * a * b * -1 ≤ 2 * a * b * c := mul_le_mul_of_nonneg_left hc.1 hproduct
  rw [thirdSquare, sub_sq, add_sq]
  constructor <;> linarith

theorem thirdSquare_nonneg : 0 ≤ thirdSquare a b c :=
  (sq_nonneg _).trans (thirdSquare_mem ha hb hc).1

theorem isThirdSide_sqrt : IsThirdSide a b c √(thirdSquare a b c) where
  sq_eq := Real.sq_sqrt (thirdSquare_nonneg ha hb hc)
  sq_mem := thirdSquare_mem ha hb hc
  nonneg := Real.sqrt_nonneg _
  mem := ⟨Real.abs_le_sqrt (thirdSquare_mem ha hb hc).1,
    Real.sqrt_le_iff.2 ⟨add_nonneg ha hb, (thirdSquare_mem ha hb hc).2⟩⟩

end

end Triangles

/-! ## Another cosine -/

/-- The real numbers, to be computed with this function as the cosine. -/
def Reals (_ : ℝ → ℝ) : Type := ℝ

namespace Reals

variable {cosine : ℝ → ℝ}

noncomputable instance (cosine : ℝ → ℝ) : Scalar (Reals cosine) :=
  { Scalar.real with cos := cosine }

/-- With the cosine that analysis knows, these are the real numbers. -/
theorem scalar_cos : (inferInstance : Scalar (Reals Real.cos)) = Scalar.real := rfl

/-- The number itself. -/
def toReal (x : Reals cosine) : ℝ := x

/-- The cosine of the angle between two bearings. -/
noncomputable def cosineBetween (b c : Reals cosine) : ℝ :=
  cosine ((b.toReal - c.toReal) * (Real.pi / 180))

theorem isSpeed_iff {x : Reals cosine} : IsSpeed x ↔ 0 ≤ x.toReal := by
  show @IsSpeed ℝ Scalar.real x.toReal ↔ _
  exact isSpeed_real

end Reals

/-! ## Speeds -/

section

variable {cosine : ℝ → ℝ}

/-- The square of the speed through water that goes with this tide. -/
noncomputable def stwSquare (sog cog flow bearing : Reals cosine) : ℝ :=
  thirdSquare sog.toReal flow.toReal (cog.cosineBetween bearing)

theorem toReal_speedThroughWater (sog cog flow bearing : Reals cosine) :
    (speedThroughWater sog cog flow bearing).toReal =
      if flow.toReal = 0 then sog.toReal else √(max (stwSquare sog cog flow bearing) 0) := by
  have h : (speedThroughWater sog cog flow bearing).toReal =
      if (flow.toReal == ((0 : ℤ) : ℝ)) = true then sog.toReal
      else √(Scalar.greatest (sog.toReal * sog.toReal + flow.toReal * flow.toReal -
        ((2 : ℤ) : ℝ) * sog.toReal * flow.toReal * cog.cosineBetween bearing) ((0 : ℤ) : ℝ)) := rfl
  rw [h, Scalar.greatest_real, stwSquare, thirdSquare, pow_two, pow_two, Int.cast_zero,
    Int.cast_ofNat]
  simp only [beq_iff_eq]

/-- Where the water stands still, the formula gives the speed over ground. -/
theorem toReal_speedThroughWater_eq_sqrt {sog : Reals cosine} (hsog : IsSpeed sog)
    (cog flow bearing : Reals cosine) :
    (speedThroughWater sog cog flow bearing).toReal =
      √(max (stwSquare sog cog flow bearing) 0) := by
  rw [toReal_speedThroughWater]
  split
  · next hflow =>
    have hsquare : stwSquare sog cog flow bearing = sog.toReal ^ 2 := by
      rw [stwSquare, thirdSquare, hflow]
      ring
    rw [hsquare, max_eq_left (sq_nonneg _), Real.sqrt_sq (Reals.isSpeed_iff.1 hsog)]
  · rfl

theorem isThirdSide_speedThroughWater (hcosine : ∀ x, cosine x ∈ Set.Icc (-1) 1)
    {sog flow : Reals cosine} (hsog : IsSpeed sog) (hflow : IsSpeed flow)
    (cog bearing : Reals cosine) :
    IsThirdSide sog.toReal flow.toReal (cog.cosineBetween bearing)
        (speedThroughWater sog cog flow bearing).toReal ∧
      max (stwSquare sog cog flow bearing) 0 = stwSquare sog cog flow bearing := by
  have ha := Reals.isSpeed_iff.1 hsog
  have hb := Reals.isSpeed_iff.1 hflow
  have hnonneg : 0 ≤ stwSquare sog cog flow bearing := thirdSquare_nonneg ha hb (hcosine _)
  rw [toReal_speedThroughWater_eq_sqrt hsog, max_eq_left hnonneg]
  exact ⟨isThirdSide_sqrt ha hb (hcosine _), rfl⟩

/-- A plot that has nothing noted, or what it has worked out itself, reads as its position. -/
theorem Plot.reading_of_noted {α : Type} [Scalar α] {p : Plot α}
    (h : p.noted = none ∨ p.noted = some p.position.derivedStw) :
    p.reading = p.position.derivedStw := by
  rw [reading, run_stw]
  rcases h with h | h <;> rw [h]

/-- The speed through water, the speed over ground and the tide are the sides of a triangle,
whatever the cosine between the last two. So nothing is lost where a negative square counts as zero,
still water makes no difference to the formula, and positions, as well as plots on which no other
speed is noted, have speeds through water that are not negative and that the tide moves away from
the speed over ground by no more than it flows. -/
theorem stw_isThirdSide (hcosine : ∀ x, cosine x ∈ Set.Icc (-1) 1) :
    (∀ sog cog flow bearing : Reals cosine, IsSpeed sog → IsSpeed flow →
      IsThirdSide sog.toReal flow.toReal (cog.cosineBetween bearing)
          (speedThroughWater sog cog flow bearing).toReal ∧
        max (stwSquare sog cog flow bearing) 0 = stwSquare sog cog flow bearing ∧
        (speedThroughWater sog cog flow bearing).toReal =
          √(max (stwSquare sog cog flow bearing) 0)) ∧
      (∀ p : Position (Reals cosine),
        IsThirdSide p.sog.val.toReal p.tide.flow.val.toReal
            (p.cog.val.cosineBetween p.tide.bearing.val) p.derivedStw.toReal ∧
          (p.givenStw = none → p.stw = p.derivedStw)) ∧
      ∀ p : Plot (Reals cosine), p.noted = none ∨ p.noted = some p.position.derivedStw →
        IsThirdSide p.sog.val.toReal p.tide.flow.val.toReal
          (p.cog.val.cosineBetween p.tide.bearing.val) p.reading.toReal := by
  have hposition : ∀ p : Position (Reals cosine),
      IsThirdSide p.sog.val.toReal p.tide.flow.val.toReal
        (p.cog.val.cosineBetween p.tide.bearing.val) p.derivedStw.toReal := fun p =>
    (isThirdSide_speedThroughWater hcosine p.sog.property p.tide.flow.property _ _).1
  refine ⟨fun sog cog flow bearing hsog hflow => ?_, fun p => ⟨hposition p, fun hgiven => ?_⟩,
    fun p hnoted => ?_⟩
  · obtain ⟨hside, hmax⟩ := isThirdSide_speedThroughWater hcosine hsog hflow cog bearing
    exact ⟨hside, hmax, toReal_speedThroughWater_eq_sqrt hsog cog flow bearing⟩
  · rw [Position.stw, hgiven]
  · rw [Plot.reading_of_noted hnoted]
    exact hposition p.position

end

/-- A ship that makes 3 knots to the north, over ground, in a tide of 4 knots to the east. -/
noncomputable def crossing : Position (Reals Real.cos) :=
  let p : Position ℝ := { Track.anchored 0 with
    sog := ⟨3, by norm_num⟩
    tide := ⟨⟨4, by norm_num⟩, ⟨90, by norm_num⟩⟩ }
  p

/-- Its course through water is the hypotenuse, also as its plot has it. -/
theorem stw_isThirdSide_crossing :
    (∀ x, Real.cos x ∈ Set.Icc (-1) 1) ∧ IsSpeed crossing.sog.val ∧
      IsSpeed crossing.tide.flow.val ∧ crossing.givenStw = none ∧ crossing.plot.noted = none ∧
      (speedThroughWater crossing.sog.val crossing.cog.val crossing.tide.flow.val
        crossing.tide.bearing.val).toReal = 5 ∧
      crossing.stw.toReal = 5 ∧ crossing.plot.reading.toReal = 5 := by
  have hcosine : ∀ x, Real.cos x ∈ Set.Icc (-1) 1 := fun x =>
    ⟨Real.neg_one_le_cos x, Real.cos_le_one x⟩
  have hright : crossing.cog.val.cosineBetween crossing.tide.bearing.val = 0 := by
    show Real.cos (((0 : ℝ) - 90) * (Real.pi / 180)) = 0
    rw [show ((0 : ℝ) - 90) * (Real.pi / 180) = -(Real.pi / 2) by ring, Real.cos_neg,
      Real.cos_pi_div_two]
  have hfive : ∀ {x : ℝ}, IsThirdSide crossing.sog.val.toReal crossing.tide.flow.val.toReal
      (crossing.cog.val.cosineBetween crossing.tide.bearing.val) x → x = 5 := by
    intro x hside
    have hsq : x ^ 2 = (3 : ℝ) ^ 2 + 4 ^ 2 - 2 * 3 * 4 * 0 := by
      rw [hside.sq_eq, hright]
      rfl
    exact (sq_eq_sq₀ hside.nonneg (by norm_num)).1 (hsq.trans (by norm_num))
  obtain ⟨hspeeds, hpositions, hplots⟩ := stw_isThirdSide hcosine
  obtain ⟨hderived, hstw⟩ := hpositions crossing
  have hsog := crossing.sog.property
  have hflow := crossing.tide.flow.property
  have hgiven : crossing.givenStw = none := rfl
  have hnoted : crossing.plot.noted = none := rfl
  exact ⟨hcosine, hsog, hflow, hgiven, hnoted, hfive (hspeeds _ _ _ _ hsog hflow).1,
    (congrArg Reals.toReal (hstw hgiven)).trans (hfive hderived),
    hfive (hplots crossing.plot (.inl hnoted))⟩

end ShipEmissions
