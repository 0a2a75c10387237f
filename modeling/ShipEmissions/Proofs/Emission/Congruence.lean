import ShipEmissions.Proofs.Emission.Totals
import ShipEmissions.Proofs.Track.Equality

/-!
# Emissions on equal tracks

Equal tracks whose positions have the same speeds through water are not told apart by their
emissions. The speeds must be the same as well, since a known speed through water does not make
positions different: equal tracks may emit different amounts.

* `Pollutants.Alike`: maps that list the same pollutants with amounts that are alike.
* `Calculator.trackTotal_alike`: what is emitted on segments that are alike.
* `Calculator.emissions_of_equal_tracks`: equality of positions and tracks, as far as it carries
  over to speeds through water and to emissions.
* `Calculator.equal_tracks_emit_differently`: where it does not.
-/

namespace ShipEmissions

open Scalar (IgnoresZeroSign)

variable {α : Type} [Scalar α]

/-- Outcomes with the same error or with results that are related. -/
def Outcome.Related {ε β : Type} (R : β → β → Prop) : Except ε β → Except ε β → Prop
  | .ok a, .ok b => R a b
  | .error e, .error e' => e = e'
  | _, _ => False

/-! ## Amounts that are alike -/

namespace Pollutants

/-- Maps that list the same pollutants, with amounts that are alike. -/
def Alike (a b : Pollutants α) : Prop := ∀ p : String, Option.Rel Scalar.Alike a[p]? b[p]?

theorem Alike.refl (a : Pollutants α) : Alike a a := by
  intro p
  cases a[p]? with
  | none => exact .none
  | some x => exact .some (.refl x)

/-- Real amounts that are alike are the same. -/
theorem alike_real {a b : Pollutants ℝ} : Alike a b ↔ a = b := by
  constructor
  · intro h
    apply Std.ExtTreeMap.ext_getElem?
    intro p
    have hp := h p
    generalize a[p]? = x, b[p]? = y at hp ⊢
    cases hp with
    | none => rfl
    | some hx => rw [Scalar.alike_real.1 hx]
  · rintro rfl
    exact .refl a

/-- A sum lists what its second part lists, with what the first has of it added. -/
theorem getElem?_add (a b : Pollutants α) (p : String) :
    (a.add b)[p]? = (b[p]?.map fun x => a.getD p 0 + x).or a[p]? := by
  rw [add, Std.ExtTreeMap.getElem?_union, Std.ExtTreeMap.getElem?_map]

section

variable {a a' b b' : Pollutants α}

theorem Alike.getD (h : Alike a a') (p : String) : Scalar.Alike (a.getD p 0) (a'.getD p 0) := by
  rw [Std.ExtTreeMap.getD_eq_getD_getElem?, Std.ExtTreeMap.getD_eq_getD_getElem?]
  exact .getD (h p) (.refl 0)

variable (laws : IgnoresZeroSign α)

include laws

theorem Alike.add (ha : Alike a a') (hb : Alike b b') : Alike (a.add b) (a'.add b') := by
  intro p
  have hp := hb p
  rw [getElem?_add, getElem?_add]
  generalize b[p]? = x, b'[p]? = x' at hp ⊢
  cases hp with
  | none => exact ha p
  | some hx => exact .some (laws.add (ha.getD p) hx)

theorem Alike.foldl_add {maps maps' : List (Pollutants α)} (h : List.Forall₂ Alike maps maps')
    (ha : Alike a a') : Alike (maps.foldl Pollutants.add a) (maps'.foldl Pollutants.add a') := by
  induction h generalizing a a' with
  | nil => exact ha
  | cons hb _ ih => exact ih (ha.add laws hb)

theorem Alike.scale (a : Pollutants α) {x x' : α} (hx : Scalar.Alike x x') :
    Alike (a.scale x) (a.scale x') := by
  intro p
  rw [Pollutants.scale, Pollutants.scale, Std.ExtTreeMap.getElem?_map, Std.ExtTreeMap.getElem?_map]
  cases a[p]? with
  | none => exact .none
  | some amount => exact .some (laws.mul (.refl amount) hx)

theorem Alike.adjust (h : Alike a a') (factors : Pollutants α) :
    Alike (a.adjust factors) (a'.adjust factors) := by
  intro p
  have hp := h p
  rw [Pollutants.adjust, Pollutants.adjust, Std.ExtTreeMap.getElem?_map,
    Std.ExtTreeMap.getElem?_map]
  generalize a[p]? = x, a'[p]? = x' at hp ⊢
  cases hp with
  | none => exact .none
  | some hx =>
    cases factors[p]? with
    | none => exact .some hx
    | some factor => exact .some (laws.mul hx (.refl factor))

end

end Pollutants

/-! ## Emissions on segments that are alike -/

namespace Calculator

section

variable (laws : IgnoresZeroSign α) (c : Calculator α) (config : EmissionConfig α)

include laws

theorem loadAt_alike {x x' : α} (h : Scalar.Alike x x') :
    Scalar.Alike (c.loadAt x) (c.loadAt x') := by
  have hratio := laws.div c.vessel.maxSpeed h
  have hcube := laws.mul (laws.mul hratio hratio) hratio
  exact laws.least (laws.mul hcube (.refl c.seaMargin)) (.refl 1)

theorem adjustmentAt_congr {load load' : α} (h : Scalar.Alike load load') :
    config.adjustmentAt? load = config.adjustmentAt? load' := by
  have hmem : (fun entry : Interval α × Pollutants α => decide (entry.1.Mem load)) =
      fun entry => decide (entry.1.Mem load') := by
    funext ⟨range, _⟩
    exact decide_eq_decide.2 (and_congr (laws.le (.refl range.lower) h)
      (laws.lt h (.refl range.upper)))
  exact congrArg (fun holds => (config.lowLoad.find? holds).map Prod.snd) hmem

theorem segmentEmissions_alike (hhours : Segment.HoursByValues c.segmentHours) {s r : Segment α}
    (h : s.Alike r) :
    (c.segmentEmissions config s).Alike (c.segmentEmissions config r) := by
  have hload : Scalar.Alike (c.segmentLoad s) (c.segmentLoad r) :=
    laws.div 2 (laws.add (loadAt_alike laws c h.start.stw) (loadAt_alike laws c h.stop.stw))
  have hkwh := laws.mul (laws.mul (.refl c.vessel.engineKw) (hhours s r h)) hload
  have hmasses := Pollutants.Alike.scale laws (config.factors .propulsion) hkwh
  rw [segmentEmissions, segmentEmissions, adjustmentAt_congr laws config hload]
  cases config.adjustmentAt? (c.segmentLoad r) with
  | none => exact hmasses
  | some factors => exact hmasses.adjust laws factors

theorem trackTotal_alike (hhours : Segment.HoursByValues c.segmentHours) {t u : Track α}
    (h : List.Forall₂ Segment.Alike t.segments u.segments) :
    (c.trackTotal config t).Alike (c.trackTotal config u) := by
  have hmaps : List.Forall₂ Pollutants.Alike (t.segments.map (c.segmentEmissions config))
      (u.segments.map (c.segmentEmissions config)) :=
    List.forall₂_map_left_iff.2 (List.forall₂_map_right_iff.2
      (h.imp fun _ _ => segmentEmissions_alike laws c config hhours))
  have hpropulsion := Pollutants.Alike.foldl_add laws hmaps (.refl ∅)
  rw [trackTotal, trackTotal, Track.hours_congr h]
  exact (hpropulsion.add laws (.refl _)).add laws (.refl _)

/-- Equal positions have the same speed through water if the calls that they are built by leave the
same one given. Equal tracks with the same speeds through water lead to the same error, or to
emissions that are alike, for hours that go by what segments show, as they do within limits. -/
theorem emissions_of_equal_tracks :
    (∀ (changes changes' : List (Position.Change α)) (p q : Position α),
      Position.Built changes p → Position.Built changes' q → (p == q) = true →
      Option.Rel Scalar.Alike (Position.givenBy changes) (Position.givenBy changes') →
      Scalar.Alike p.stw q.stw) ∧
    (∀ limits : HourLimits α, Segment.HoursByValues limits.hours) ∧
    ∀ (c : Calculator α) (t u : Track α) (mode : Mode), Segment.HoursByValues c.segmentHours →
      (t == u) = true →
      List.Forall₂ (fun p q => Scalar.Alike p.stw q.stw) t.positions u.positions →
      Outcome.Related Pollutants.Alike (c.trackEmissions? t mode) (c.trackEmissions? u mode) := by
  refine ⟨?_, HourLimits.hoursByValues laws, ?_⟩
  · intro changes changes' p q hp hq h hgiven
    rw [← hp.givenValue_eq, ← hq.givenValue_eq] at hgiven
    exact Position.stw_alike laws h hgiven
  · intro c t u mode hhours h hstw
    have hsegments := Track.segments_alike laws h hstw
    by_cases hmode : mode.isMoving = true
    · cases hconfig : c.configFor? c.vessel mode with
      | error e =>
        rw [trackEmissions?, if_pos hmode, hconfig, trackEmissions?, if_pos hmode, hconfig]
        rfl
      | ok config =>
        rw [trackEmissions?_eq_ok hmode hconfig, trackEmissions?_eq_ok hmode hconfig]
        exact trackTotal_alike laws c config hhours hsegments
    · rw [trackEmissions?, if_neg hmode, trackEmissions?, if_neg hmode]
      rfl

end

/-! ### A sample -/

/-- A position with a given speed through water equals the one without. -/
theorem beq_withGiven (p : Position ℝ) (stw : Option (Speed ℝ)) :
    (p == { p with givenStw := stw }) = true :=
  Position.beq_iff.2 ⟨rfl, beq_self_eq_true _, beq_self_eq_true _, beq_self_eq_true _,
    beq_self_eq_true _, beq_self_eq_true _, beq_self_eq_true _, beq_self_eq_true _⟩

/-- Still water leaves the speed over ground. -/
theorem stw_of_still {p : Position ℝ} (hstill : p.tide = .still) (hgiven : p.givenStw = none) :
    p.stw = p.sog.val := by
  rw [Position.stw, hgiven]
  show speedThroughWater p.sog.val p.cog.val p.tide.flow.val p.tide.bearing.val = _
  rw [speedThroughWater, hstill]
  exact if_pos (beq_self_eq_true _)

/-- An hour between positions of these instants. -/
noncomputable def hourTrack (p : ℤ → Position ℝ) (h : ∀ n, (p n).instant = .ofMillis n) : Track ℝ :=
  .voyage (p 0) [⟨none, p 3600000⟩]
    ⟨by rw [h, h]; exact Instant.ofMillis_le_ofMillis_iff.2 (by decide), trivial⟩

theorem beq_hourTrack {p q : ℤ → Position ℝ} (hp : ∀ n, (p n).instant = .ofMillis n)
    (hq : ∀ n, (q n).instant = .ofMillis n) (h : ∀ n, (p n == q n) = true) :
    (hourTrack p hp == hourTrack q hq) = true := by
  refine Bool.and_eq_true_iff.2 ⟨?_, rfl⟩
  show ([p 0, p 3600000] == [q 0, q 3600000]) = true
  rw [List.cons_beq_cons, List.cons_beq_cons, h, h]
  rfl

theorem isSpeed_five : IsSpeed (5 : ℝ) := by norm_num

/-- A ship that makes 5 knots over ground, in still water. -/
noncomputable def drifting (millis : ℤ) : Position ℝ :=
  { Track.anchored millis with sog := ⟨5, isSpeed_five⟩ }

/-- The ship with 5 knots through water given, as they are there anyway. -/
noncomputable def measured (millis : ℤ) : Position ℝ :=
  { drifting millis with givenStw := some ⟨5, isSpeed_five⟩ }

theorem emissions_of_equal_tracks_measured :
    let t := hourTrack drifting fun _ => rfl
    let u := hourTrack measured fun _ => rfl
    IgnoresZeroSign ℝ ∧ (t == u) = true ∧ ∃ total,
      (sample (HourLimits.hours ⟨1 / 4, 10⟩)).trackEmissions? t .transit = .ok total ∧
        (sample (HourLimits.hours ⟨1 / 4, 10⟩)).trackEmissions? u .transit = .ok total := by
  intro t u
  have hbeq : (t == u) = true := beq_hourTrack _ _ fun n => beq_withGiven (drifting n) _
  have hstw : ∀ n, Scalar.Alike (drifting n).stw (measured n).stw := fun n =>
    .inl (stw_of_still rfl rfl)
  obtain ⟨-, hlimits, htracks⟩ := emissions_of_equal_tracks Scalar.ignoresZeroSign_real
  have hsame := htracks (sample (HourLimits.hours ⟨1 / 4, 10⟩)) t u .transit (hlimits _) hbeq
    (.cons (hstw 0) (.cons (hstw 3600000) .nil))
  have hconfig : (sample (HourLimits.hours ⟨1 / 4, 10⟩)).configFor? sampleVessel .transit =
      .ok sampleConfig := rfl
  have hmode : Mode.isMoving .transit = true := rfl
  rw [trackEmissions?_eq_ok hmode hconfig, trackEmissions?_eq_ok hmode hconfig] at hsame
  refine ⟨Scalar.ignoresZeroSign_real, hbeq, _, trackEmissions?_eq_ok hmode hconfig t, ?_⟩
  rw [trackEmissions?_eq_ok hmode hconfig, Pollutants.alike_real.1 hsame]

/-! ## Equal tracks that emit different amounts -/

/-- What is emitted in an hour, by the load. -/
theorem getElem?_hourTrack (p : ℤ → Position ℝ) (h : ∀ n, (p n).instant = .ofMillis n) {load : ℝ}
    (hload : ∀ s ∈ (hourTrack p h).segments, (sample Segment.hours).meanLoad s = load) :
    ((sample Segment.hours).trackTotal sampleConfig (hourTrack p h))["co2"]? =
      some (3000 * load * multiplier load "co2" sampleConfig.lowLoad + 450) := by
  have hlisted : "co2" ∈ (∅ : Pollutants ℝ).insert "co2" 3 := Std.ExtTreeMap.mem_insert_self
  have hfactor : ∀ group, (sampleConfig.factors group).amount "co2" = 3 := fun _ =>
    Std.ExtTreeMap.getD_insert_self
  obtain ⟨s, hs, hsegments⟩ : ∃ s ∈ (hourTrack p h).segments, (hourTrack p h).segments = [s] :=
    ⟨_, List.mem_singleton_self _, rfl⟩
  have hhours : s.hours = 1 := by
    cases List.mem_singleton.1 hs
    show (((p 0).instant.timeTo (p 3600000).instant).hours : ℝ) = 1
    rw [h, h]
    exact hours_hour
  have htrack : (hourTrack p h).hours = 1 := by
    show ((Duration.zero + (p 0).instant.timeTo (p 3600000).instant).hours : ℝ) = 1
    rw [h, h]
    exact hours_hour
  rw [Pollutants.getElem?_of_mem (mem_trackTotal.2 (.inl hlisted)), amount_trackTotal, hsegments,
    List.map_singleton, List.sum_singleton, segmentAmount, hload s hs, hfactor, hfactor, hfactor,
    htrack]
  show some (1000 * s.hours * load * 3 * _ + (100 * 1 * 3 + 50 * 1 * 3)) = _
  rw [hhours]
  congr 1
  ring

/-- Equal positions have different speeds through water, and equal tracks different emissions, if a
speed was given only to one of them. -/
theorem equal_tracks_emit_differently :
    (∃ p q : Position ℝ, Position.of? ⟨0⟩ 0 0 0 0 0 = .ok p ∧ p.withStw? 5 = .ok q ∧
      (p == q) = true ∧ p.stw = 0 ∧ q.stw = 5) ∧
    ∃ (t u : Track ℝ) (a b : Pollutants ℝ), (t == u) = true ∧
      (sample Segment.hours).trackEmissions? t .transit = .ok a ∧
      (sample Segment.hours).trackEmissions? u .transit = .ok b ∧
      a["co2"]? = some 450 ∧ b["co2"]? = some 1200 := by
  have hstw : ∀ n, (Track.anchored n).stw = 0 := fun n => stw_of_still rfl rfl
  constructor
  · refine ⟨Track.anchored 0, sailing 0, ?_, ?_, beq_withGiven _ _, hstw 0, rfl⟩
    · exact Position.of?_eq_ok_iff.2 ⟨rfl, rfl, rfl, rfl, rfl, rfl, rfl, rfl⟩
    · rw [Position.withStw?, Speed.of?, dif_pos isSpeed_five]
      rfl
  · have hmode : Mode.isMoving .transit = true := rfl
    have hconfig : (sample Segment.hours).configFor? sampleVessel .transit = .ok sampleConfig := rfl
    have hanchored : ∀ s ∈ (hourTrack Track.anchored fun _ => rfl).segments,
        (sample Segment.hours).meanLoad s = 0 := by
      intro s hs
      cases List.mem_singleton.1 hs
      show (min (((Track.anchored 0).stw / 10) ^ 3 * 1) 1 +
        min (((Track.anchored 3600000).stw / 10) ^ 3 * 1) 1) / 2 = (0 : ℝ)
      rw [hstw, hstw]
      norm_num
    have hsailing : ∀ s ∈ (hourTrack sailing fun _ => rfl).segments,
        (sample Segment.hours).meanLoad s = 1 / 8 := fun s hs => meanLoad_sailing hs
    refine ⟨hourTrack Track.anchored fun _ => rfl, hourTrack sailing fun _ => rfl, _, _,
      beq_hourTrack _ _ fun n => beq_withGiven _ _, trackEmissions?_eq_ok hmode hconfig _,
      trackEmissions?_eq_ok hmode hconfig _, ?_, ?_⟩
    · rw [getElem?_hourTrack _ _ hanchored]
      norm_num
    · rw [getElem?_hourTrack _ _ hsailing, multiplier_sample]
      norm_num

end Calculator

end ShipEmissions
