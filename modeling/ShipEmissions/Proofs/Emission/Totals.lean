import Mathlib
import ShipEmissions.Proofs.Emission.Powers
import ShipEmissions.Proofs.Pollutants
import ShipEmissions.Proofs.Track.Runs

/-!
# Totals of emissions

The emissions on a track are folded from maps: one for every segment, scaled and adjusted, and one
each for auxiliary engines and boilers. Over the real numbers they are, pollutant by pollutant, a
sum over the segments and two terms for the time that the track takes.

An interval with an infinite bound is as good as one with a bound beyond all loads of a track. Loads
are at most one.

* `Calculator.meanLoad`, `Calculator.multiplier`: the load on a segment, and what it does to a
  pollutant, by their formulas.
* `Calculator.mem_trackTotal`, `Calculator.amount_trackTotal`: what the emissions on a track are.
* `Calculator.trackEmissions?_eq_total`: so much is emitted.
-/

namespace ShipEmissions

namespace Calculator

section

variable {α : Type} [Scalar α] {c : Calculator α} {config : EmissionConfig α} {mode : Mode}
  {p : String}

/-! ## Which pollutants are emitted -/

/-- What is emitted on a track with these factors and powers. -/
def trackTotal (c : Calculator α) (config : EmissionConfig α) (t : Track α) : Pollutants α :=
  ((Pollutants.total (t.segments.map (c.segmentEmissions config))).add
    (config.emissions .auxiliary (config.auxiliaryKw * t.hours))).add
    (config.emissions .boiler (config.boilerKw * t.hours))

theorem trackEmissions?_eq_ok (hmode : mode.isMoving = true)
    (hconfig : c.configFor? c.vessel mode = .ok config) (t : Track α) :
    c.trackEmissions? t mode = .ok (c.trackTotal config t) := by
  rw [trackEmissions?, if_pos hmode, hconfig]
  exact withFixedEmissions?_eq_ok config t.hours _

/-- An adjustment neither adds nor drops a pollutant. -/
theorem mem_segmentEmissions {s : Segment α} :
    p ∈ c.segmentEmissions config s ↔ p ∈ config.factors .propulsion := by
  rw [segmentEmissions]
  cases config.adjustmentAt? (c.segmentLoad s) with
  | some factors => exact Pollutants.mem_adjust.trans Pollutants.mem_scale
  | none => exact Pollutants.mem_scale

/-- Propulsion engines emit if there is a segment. -/
theorem mem_total_segmentEmissions {t : Track α} :
    p ∈ Pollutants.total (t.segments.map (c.segmentEmissions config)) ↔
      t.segments ≠ [] ∧ p ∈ config.factors .propulsion := by
  rw [Pollutants.mem_total]
  constructor
  · rintro ⟨_, hmasses, hp⟩
    obtain ⟨s, hs, rfl⟩ := List.mem_map.1 hmasses
    exact ⟨List.ne_nil_of_mem hs, mem_segmentEmissions.1 hp⟩
  · rintro ⟨hne, hp⟩
    obtain ⟨s, hs⟩ := List.exists_mem_of_ne_nil _ hne
    exact ⟨_, List.mem_map_of_mem hs, mem_segmentEmissions.2 hp⟩

/-- Propulsion engines emit if there is a segment, the others in any case. -/
theorem mem_trackTotal {t : Track α} :
    p ∈ c.trackTotal config t ↔
      p ∈ config.factors .auxiliary ∨ p ∈ config.factors .boiler ∨
        t.segments ≠ [] ∧ p ∈ config.factors .propulsion := by
  rw [trackTotal, Pollutants.mem_add, Pollutants.mem_add, mem_total_segmentEmissions,
    EmissionConfig.emissions, Pollutants.mem_scale, EmissionConfig.emissions, Pollutants.mem_scale]
  tauto

end

/-! ## Loads -/

/-- The load of the propulsion engines on a segment: the mean of those at its ends, each by the
propeller law and at most one. -/
noncomputable def meanLoad (c : Calculator ℝ) (s : Segment ℝ) : ℝ :=
  (min ((s.start.stw / c.vessel.maxSpeed) ^ 3 * c.seaMargin) 1 +
    min ((s.stop.stw / c.vessel.maxSpeed) ^ 3 * c.seaMargin) 1) / 2

/-- What a load multiplies a pollutant by: the factor of the first interval that holds the load, if
there is one. -/
noncomputable def multiplier (load : ℝ) (p : String) : List (Interval ℝ × Pollutants ℝ) → ℝ
  | [] => 1
  | (range, factors) :: rest =>
    if range.lower ≤ load ∧ load < range.upper then factors.getD p 1 else multiplier load p rest

theorem loadAt_real (c : Calculator ℝ) (stw : ℝ) :
    c.loadAt stw = min ((stw / c.vessel.maxSpeed) ^ 3 * c.seaMargin) 1 := by
  simp only [loadAt, Scalar.least_real, Scalar.ofNat_real, Nat.cast_one]
  congr 1
  ring

theorem segmentLoad_real (c : Calculator ℝ) (s : Segment ℝ) : c.segmentLoad s = c.meanLoad s := by
  rw [segmentLoad, loadAt_real, loadAt_real, Scalar.ofNat_real]
  rfl

/-- The first interval that holds the load is the one that is found. -/
theorem getD_adjustmentAt (config : EmissionConfig ℝ) (load : ℝ) (p : String) :
    ((config.adjustmentAt? load).map fun factors => factors.getD p 1).getD 1 =
      multiplier load p config.lowLoad := by
  rw [EmissionConfig.adjustmentAt?]
  induction config.lowLoad with
  | nil => rfl
  | cons entry rest ih =>
    obtain ⟨range, factors⟩ := entry
    rw [multiplier]
    by_cases h : range.Mem load
    · rw [List.find?_cons_of_pos (by simpa using h)]
      exact (if_pos h).symm
    · rw [List.find?_cons_of_neg (by simpa using h), ih]
      exact (if_neg h).symm

/-! ## How much is emitted -/

variable (c : Calculator ℝ) (config : EmissionConfig ℝ) (p : String)

/-- What the propulsion engines emit of a pollutant on a segment. -/
noncomputable def segmentAmount (s : Segment ℝ) : ℝ :=
  c.vessel.engineKw * c.segmentHours s * c.meanLoad s *
    (config.factors .propulsion).amount p * multiplier (c.meanLoad s) p config.lowLoad

theorem amount_segmentEmissions (s : Segment ℝ) :
    (c.segmentEmissions config s).amount p = c.segmentAmount config p s := by
  rw [segmentEmissions, segmentAmount, ← getD_adjustmentAt, ← segmentLoad_real]
  cases config.adjustmentAt? (c.segmentLoad s) with
  | some factors =>
    show (Pollutants.adjust _ _).amount p = _
    rw [Pollutants.amount_adjust, EmissionConfig.emissions, Pollutants.amount_scale]
    show _ = _ * factors.getD p 1
    ring
  | none =>
    show (config.emissions _ _).amount p = _
    rw [EmissionConfig.emissions, Pollutants.amount_scale]
    show _ = _ * (1 : ℝ)
    ring

theorem amount_total_segmentEmissions (t : Track ℝ) :
    (Pollutants.total (t.segments.map (c.segmentEmissions config))).amount p =
      (t.segments.map (c.segmentAmount config p)).sum := by
  rw [Pollutants.amount_total, List.map_map]
  exact congrArg List.sum (List.map_congr_left fun s _ => c.amount_segmentEmissions config p s)

theorem amount_trackTotal (t : Track ℝ) :
    (c.trackTotal config t).amount p =
      (t.segments.map (c.segmentAmount config p)).sum +
        (config.auxiliaryKw * t.hours * (config.factors .auxiliary).amount p +
          config.boilerKw * t.hours * (config.factors .boiler).amount p) := by
  rw [trackTotal, Pollutants.amount_add, Pollutants.amount_add, amount_total_segmentEmissions,
    EmissionConfig.emissions, Pollutants.amount_scale, EmissionConfig.emissions,
    Pollutants.amount_scale]
  ring

/-- In a mode in which vessels move, auxiliary engines and boilers emit what they have factors for,
and propulsion engines too if there is a segment. The amounts are sums over the segments and for the
time of the track. -/
theorem trackEmissions?_eq_total {c : Calculator ℝ} {config : EmissionConfig ℝ} {mode : Mode}
    (hmode : mode.isMoving = true) (hconfig : c.configFor? c.vessel mode = .ok config)
    (t : Track ℝ) :
    ∃ total, c.trackEmissions? t mode = .ok total ∧
      (∀ p, p ∈ total ↔ p ∈ config.factors .auxiliary ∨ p ∈ config.factors .boiler ∨
        t.segments ≠ [] ∧ p ∈ config.factors .propulsion) ∧
      ∀ p ∈ total, total[p]? = some (
        (t.segments.map fun s =>
          c.vessel.engineKw * c.segmentHours s * c.meanLoad s *
            (config.factors .propulsion).amount p *
            multiplier (c.meanLoad s) p config.lowLoad).sum +
          (config.auxiliaryKw * t.hours * (config.factors .auxiliary).amount p +
            config.boilerKw * t.hours * (config.factors .boiler).amount p)) := by
  refine ⟨_, trackEmissions?_eq_ok hmode hconfig t, fun p => mem_trackTotal, ?_⟩
  intro p hp
  rw [Pollutants.getElem?_of_mem hp, amount_trackTotal]
  rfl

/-! ### A sample -/

/-- A ship of 10 knots. -/
noncomputable def sampleVessel : Vessel ℝ where
  maxSpeed := 10
  engineKw := 1000
  engineRpm := 500
  engineCategory := .c3
  noxTier := .tier2
  shipType := .tug
  size := 0
  sizeUnit := .notApplicable
  valid := by
    simp only [Particulars.Valid, Scalar.ofNat_real]
    norm_num
    decide

/-- Carbon dioxide only, with twice as much at low load. -/
noncomputable def sampleConfig : EmissionConfig ℝ where
  factors _ := (∅ : Pollutants ℝ).insert "co2" 3
  auxiliaryKw := 100
  boilerKw := 50
  lowLoad := [(⟨0, 1 / 5⟩, (∅ : Pollutants ℝ).insert "co2" 2)]

/-- A calculation for the ship with these hours for segments. -/
noncomputable def sample (segmentHours : Segment ℝ → ℝ) : Calculator ℝ where
  seaMargin := 1
  configFor? _ _ := .ok sampleConfig
  vessel := sampleVessel
  segmentHours

/-- A ship that makes 5 knots through water, at the place without longitude and latitude. -/
noncomputable def sailing (millis : ℤ) : Position ℝ :=
  { Track.anchored millis with givenStw := some ⟨5, by norm_num⟩ }

/-- An hour at 5 knots. -/
noncomputable def sailingHour : Track ℝ :=
  .voyage (sailing 0) [⟨none, sailing 3600000⟩] ⟨Track.anchored_le (by decide), trivial⟩

theorem hours_hour : ((⟨3600000000000⟩ : Duration).hours : ℝ) = 1 := by
  refine (Duration.hours_real (n := 3600000000) rfl (by decide)).trans ?_
  norm_num

/-- At half of its speed the ship runs its propulsion engines at an eighth of their power. -/
theorem meanLoad_sailing {segmentHours : Segment ℝ → ℝ} {s : Segment ℝ}
    (hs : s ∈ sailingHour.segments) : (sample segmentHours).meanLoad s = 1 / 8 := by
  cases List.mem_singleton.1 hs
  show (min (((5 : ℝ) / 10) ^ 3 * 1) 1 + min (((5 : ℝ) / 10) ^ 3 * 1) 1) / 2 = 1 / 8
  norm_num

theorem multiplier_sample : multiplier (1 / 8) "co2" sampleConfig.lowLoad = 2 := by
  rw [sampleConfig, multiplier, if_pos (by norm_num), Std.ExtTreeMap.getD_insert_self]

/-- The propulsion engines give 125 kWh at twice the factor, the others 150 kWh. -/
theorem trackEmissions?_eq_total_sailing :
    Mode.isMoving .transit = true ∧
      (sample Segment.hours).configFor? sampleVessel .transit = .ok sampleConfig ∧
      ∃ total, (sample Segment.hours).trackEmissions? sailingHour .transit = .ok total ∧
        total["co2"]? = some 1200 := by
  have hmode : Mode.isMoving .transit = true := rfl
  have hconfig : (sample Segment.hours).configFor? sampleVessel .transit = .ok sampleConfig := rfl
  obtain ⟨total, htotal, hmem, hamount⟩ := trackEmissions?_eq_total hmode hconfig sailingHour
  have hlisted : "co2" ∈ (∅ : Pollutants ℝ).insert "co2" 3 := Std.ExtTreeMap.mem_insert_self
  have hfactor : ∀ group, (sampleConfig.factors group).amount "co2" = 3 := fun _ =>
    Std.ExtTreeMap.getD_insert_self
  refine ⟨hmode, hconfig, total, htotal, ?_⟩
  rw [hamount "co2" ((hmem "co2").2 (.inl hlisted)), hfactor, hfactor, hfactor]
  obtain ⟨s, hs, hsegments⟩ : ∃ s ∈ sailingHour.segments, sailingHour.segments = [s] :=
    ⟨_, List.mem_singleton_self _, rfl⟩
  have hsegment : s.hours = 1 := by
    cases List.mem_singleton.1 hs
    exact hours_hour
  have htrack : sailingHour.hours = 1 := hours_hour
  rw [hsegments, List.map_singleton, List.sum_singleton, meanLoad_sailing hs, multiplier_sample,
    htrack]
  show some (1000 * s.hours * (1 / 8) * 3 * 2 + (100 * 1 * 3 + 50 * 1 * 3)) = some (1200 : ℝ)
  rw [hsegment]
  norm_num

end Calculator

end ShipEmissions
