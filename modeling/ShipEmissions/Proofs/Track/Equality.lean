import ShipEmissions.Emission.HourLimits
import ShipEmissions.Proofs.Alike
import ShipEmissions.Proofs.Track.Survivors

/-!
# Equal positions and tracks

Equality of positions leaves out the speed through water, which may have been given. A speed that
was given counts until another tide is, so equal positions have the same one if what was given to
them is the same. All else that is computed from them is the same in any case.

* `Position.Change`: the calls that change a position, and what they leave given.
* `Position.stw_alike`: equal positions to which the same was given.
* `Place.distance_congr`, `HourLimits.hours_alike`: what is computed from equal positions.
* `Track.segments_alike`: the segments of equal tracks.
-/

namespace ShipEmissions

open Scalar (Alike IgnoresZeroSign)

variable {α : Type} [Scalar α]

/-! ## Calls that change a position -/

namespace Position

/-- A call that gives a position another tide or makes its speed through water known. -/
inductive Change (α : Type) where
  | tideFlow (x : α)
  | tideBearing (x : α)
  | tide (flow bearing : α)
  | stw (x : α)

namespace Change

/-- What a call gives. -/
def result? (p : Position α) : Change α → Except (Fault α) (Position α)
  | tideFlow x => p.setTideFlow? x
  | tideBearing x => p.setTideBearing? x
  | tide flow bearing => p.withTide? flow bearing
  | stw x => p.withStw? x

/-- The position after a call. A call that fails leaves it as it was. -/
def next (p : Position α) (change : Change α) : Position α :=
  match change.result? p with
  | .ok p' => p'
  | .error _ => p

/-- The speed through water that is known after a call, if one was known before: that of a call
that gives one, and none behind a call that changes the tide. -/
def given (before : Option α) : Change α → Option α
  | tideFlow x => if IsSpeed x then none else before
  | tideBearing x => if IsBearing x then none else before
  | tide flow bearing => if IsSpeed flow ∧ IsBearing bearing then none else before
  | stw x => if IsSpeed x then some x else before

end Change

/-- The position after several calls. -/
def changed (p : Position α) (changes : List (Change α)) : Position α :=
  changes.foldl Change.next p

/-- The speed through water that calls on a new position leave known. -/
def givenBy (changes : List (Change α)) : Option α := changes.foldl Change.given none

/-- The known speed through water. -/
def givenValue (p : Position α) : Option α := p.givenStw.map Subtype.val

theorem givenValue_next (p : Position α) (change : Change α) :
    (change.next p).givenValue = change.given p.givenValue := by
  cases change with
  | tideFlow x =>
    rw [Change.next, Change.result?, Change.given, setTideFlow?, Tide.withFlow?, Speed.of?]
    by_cases hx : IsSpeed x
    · rw [dif_pos hx, if_pos hx]
      rfl
    · rw [dif_neg hx, if_neg hx]
      rfl
  | tideBearing x =>
    rw [Change.next, Change.result?, Change.given, setTideBearing?, Tide.withBearing?, Bearing.of?]
    by_cases hx : IsBearing x
    · rw [dif_pos hx, if_pos hx]
      rfl
    · rw [dif_neg hx, if_neg hx]
      rfl
  | tide flow bearing =>
    rw [Change.next, Change.result?, Change.given, withTide?, Tide.of?, Speed.of?, Bearing.of?]
    by_cases hflow : IsSpeed flow
    · by_cases hbearing : IsBearing bearing
      · rw [dif_pos hflow, dif_pos hbearing, if_pos ⟨hflow, hbearing⟩]
        rfl
      · rw [dif_pos hflow, dif_neg hbearing, if_neg (mt And.right hbearing)]
        rfl
    · rw [dif_neg hflow, if_neg (mt And.left hflow)]
      rfl
  | stw x =>
    rw [Change.next, Change.result?, Change.given, withStw?, Speed.of?]
    by_cases hx : IsSpeed x
    · rw [dif_pos hx, if_pos hx]
      rfl
    · rw [dif_neg hx, if_neg hx]
      rfl

theorem givenValue_changed (p : Position α) (changes : List (Change α)) :
    (p.changed changes).givenValue = changes.foldl Change.given p.givenValue := by
  induction changes generalizing p with
  | nil => rfl
  | cons change changes ih =>
    rw [changed, List.foldl_cons, List.foldl_cons, ← givenValue_next]
    exact ih (change.next p)

/-- A position that is made of values and then changed by calls. -/
def Built (changes : List (Change α)) (p : Position α) : Prop :=
  ∃ instant lon lat sog cog heading start,
    of? instant lon lat sog cog heading = .ok start ∧ start.changed changes = p

/-- What is known of the speed through water is what the calls have left known. -/
theorem Built.givenValue_eq {changes : List (Change α)} {p : Position α} (h : Built changes p) :
    p.givenValue = givenBy changes := by
  obtain ⟨instant, lon, lat, sog, cog, heading, start, hstart, rfl⟩ := h
  have hnone : start.givenValue = none := by
    rw [givenValue, (of?_eq_ok_iff.1 hstart).2.2.2.2.2.2.2]
    rfl
  rw [givenValue_changed, hnone, givenBy]

/-! ## Equal positions -/

theorem stw_eq_getD (p : Position α) : p.stw = p.givenValue.getD p.derivedStw := by
  unfold stw givenValue
  cases p.givenStw <;> rfl

theorem beq_iff {p q : Position α} : (p == q) = true ↔
    p.instant = q.instant ∧ (p.lon.val == q.lon.val) = true ∧ (p.lat.val == q.lat.val) = true ∧
      (p.sog.val == q.sog.val) = true ∧ (p.cog.val == q.cog.val) = true ∧
      (p.heading.val == q.heading.val) = true ∧ (p.tide.flow.val == q.tide.flow.val) = true ∧
      (p.tide.bearing.val == q.tide.bearing.val) = true := by
  show (_ && _ && _ && _ && _ && _ && _ && _) = true ↔ _
  simp only [Bool.and_eq_true, beq_iff_eq, and_assoc]

end Position

section

variable (laws : IgnoresZeroSign α)

include laws

theorem speedThroughWater_congr {sog sog' cog cog' flow flow' bearing bearing' : α}
    (hsog : Alike sog sog') (hcog : Alike cog cog') (hflow : Alike flow flow')
    (hbearing : Alike bearing bearing') :
    Alike (speedThroughWater sog cog flow bearing)
      (speedThroughWater sog' cog' flow' bearing') := by
  have hcos := laws.cos (laws.toRadians (laws.sub hcog hbearing))
  have hproduct := laws.mul (laws.mul (laws.mul (.refl 2) hsog) hflow) (.inl hcos)
  have hsquares := laws.add (.inl (laws.square hsog)) (.inl (laws.square hflow))
  unfold speedThroughWater
  rw [laws.beq hflow (.refl 0)]
  split
  · exact hsog
  · exact laws.sqrt (laws.greatest (laws.sub hsquares hproduct) (.refl 0))

/-- Equal positions have the same speed through water if what was given to them is the same. -/
theorem Position.stw_alike {p q : Position α} (h : (p == q) = true)
    (hgiven : Option.Rel Alike p.givenValue q.givenValue) : Alike p.stw q.stw := by
  obtain ⟨-, -, -, hsog, hcog, -, hflow, hbearing⟩ := beq_iff.1 h
  have hderived : Alike p.derivedStw q.derivedStw :=
    speedThroughWater_congr laws (.inr hsog) (.inr hcog) (.inr hflow) (.inr hbearing)
  rw [stw_eq_getD, stw_eq_getD]
  exact .getD hgiven hderived

/-! ## Segments between equal positions -/

/-- Places between which only the sign of zero differs are equally far away, as both sines are
squared. -/
theorem Place.distance_congr {a a' b b' : Place α} (halon : Alike a.lon a'.lon)
    (halat : Alike a.lat a'.lat) (hblon : Alike b.lon b'.lon) (hblat : Alike b.lat b'.lat) :
    a.distance b = a'.distance b' := by
  have hdlat := laws.sub (laws.toRadians hblat) (laws.toRadians halat)
  have hdlon := laws.sub (laws.toRadians hblon) (laws.toRadians halon)
  have hhalfLat := laws.square (laws.sin (laws.div 2 hdlat))
  have hhalfLon := laws.square (laws.sin (laws.div 2 hdlon))
  have hcos := laws.cos (laws.toRadians halat)
  have hcos' := laws.cos (laws.toRadians hblat)
  unfold distance
  dsimp only
  rw [hhalfLat, hhalfLon, hcos, hcos']

end

/-- Equal positions with the same speed through water. -/
structure Position.Alike (p q : Position α) : Prop where
  equal : (p == q) = true
  stw : Scalar.Alike p.stw q.stw

/-- Segments of the same length between positions that are alike. -/
structure Segment.Alike (s r : Segment α) : Prop where
  start : s.start.Alike r.start
  stop : s.stop.Alike r.stop
  distance : Scalar.Alike s.distance r.distance

namespace Segment

theorem lengthOf_eq_getD (p q : Position α) (known : Option (Distance α)) :
    lengthOf p q known = (known.map Subtype.val).getD (p.place.distance q.place) := by
  cases known <;> rfl

theorem Alike.duration_eq {s r : Segment α} (h : s.Alike r) : s.duration = r.duration := by
  rw [duration, duration, (Position.beq_iff.1 h.start.equal).1, (Position.beq_iff.1 h.stop.equal).1]

end Segment

/-- Hours that go by what segments show: for segments that are alike they are. -/
def Segment.HoursByValues (hours : Segment α → α) : Prop :=
  ∀ s r : Segment α, s.Alike r → Scalar.Alike (hours s) (hours r)

section

variable (laws : IgnoresZeroSign α)

include laws

theorem HourLimits.factor_alike (limits : HourLimits α) {reported reported' covered covered' : α}
    (hreported : Alike reported reported') (hcovered : Alike covered covered') :
    Alike (limits.factor reported covered) (limits.factor reported' covered') := by
  have hlower := laws.mul hcovered (.refl (1 - limits.deviation))
  have hupper := laws.mul hcovered (.refl (1 + limits.deviation))
  unfold factor
  dsimp only
  by_cases hzero : (reported == 0) = true
  · rw [if_pos hzero, if_pos (laws.beq hreported (.refl 0) ▸ hzero)]
  · -- what is divided by is no zero, so its sign is the same
    obtain rfl := laws.eq_of_ne_zero hreported hzero
    rw [if_neg hzero, if_neg hzero]
    simp only [laws.lt hreported hlower, laws.lt hupper hreported]
    split
    · exact laws.div reported hlower
    · split
      · exact laws.div reported hupper
      · rfl

/-- The hours that count for a segment go by what it shows. -/
theorem HourLimits.hoursByValues (limits : HourLimits α) : Segment.HoursByValues limits.hours := by
  intro s r h
  have hhours : (s.hours : α) = r.hours := by
    rw [Segment.hours, Segment.hours, h.duration_eq]
  have hsog := (Position.beq_iff.1 h.start.equal).2.2.2.1
  have hsog' := (Position.beq_iff.1 h.stop.equal).2.2.2.1
  have hmean : Alike (meanSog s) (meanSog r) := laws.div 2 (laws.add (.inr hsog) (.inr hsog'))
  have hreported := laws.mul (.inl hhours) hmean
  have hcovered : Alike (nauticalMiles s.distance) (nauticalMiles r.distance) :=
    laws.div (Scalar.ofInt metersPerMile) h.distance
  have hfactor := limits.factor_alike laws hreported hcovered
  exact laws.mul (.inl hhours) (laws.least hfactor (.refl limits.increase))

end

/-! ## Equal tracks -/

/-- Equal lists have equal items. -/
theorem forall₂_of_beq {β : Type} [BEq β] {xs ys : List β} (h : (xs == ys) = true) :
    List.Forall₂ (fun x y => (x == y) = true) xs ys := by
  induction xs generalizing ys with
  | nil =>
    cases ys with
    | nil => exact .nil
    | cons y ys => cases h
  | cons x xs ih =>
    cases ys with
    | nil => cases h
    | cons y ys =>
      rw [List.cons_beq_cons, Bool.and_eq_true] at h
      exact .cons h.1 (ih h.2)

/-- Legs to positions that are alike, with the same length as far as it is known. -/
structure Leg.Alike (l m : Leg α) : Prop where
  stop : l.stop.Alike m.stop
  known : Option.Rel Scalar.Alike (l.known.map Subtype.val) (m.known.map Subtype.val)

/-- Equal positions are alike if their speeds through water are. -/
theorem forall₂_position_alike {ps qs : List (Position α)} (h : (ps == qs) = true)
    (hstw : List.Forall₂ (fun p q => Alike p.stw q.stw) ps qs) :
    List.Forall₂ Position.Alike ps qs := by
  induction hstw with
  | nil => exact .nil
  | cons hp _ ih =>
    rw [List.cons_beq_cons, Bool.and_eq_true] at h
    exact .cons ⟨h.1, hp⟩ (ih h.2)

/-- Equal known lengths are alike. -/
theorem forall₂_known_alike {xs ys : List (Option α)} (h : (xs == ys) = true) :
    List.Forall₂ (Option.Rel Alike) xs ys := by
  refine (forall₂_of_beq h).imp fun x y hxy => ?_
  cases x with
  | none =>
    cases y with
    | none => exact .none
    | some y => cases hxy
  | some x =>
    cases y with
    | none => cases hxy
    | some y => exact .some (.of_beq hxy)

theorem forall₂_leg_alike {legs legs' : List (Leg α)}
    (hstops : List.Forall₂ Position.Alike (legs.map Leg.stop) (legs'.map Leg.stop))
    (hknown : List.Forall₂ (Option.Rel Alike) (legs.map fun leg => leg.known.map Subtype.val)
      (legs'.map fun leg => leg.known.map Subtype.val)) : List.Forall₂ Leg.Alike legs legs' := by
  induction legs generalizing legs' with
  | nil =>
    cases legs' with
    | nil => exact .nil
    | cons leg' legs' => cases hstops
  | cons leg legs ih =>
    cases legs' with
    | nil => cases hstops
    | cons leg' legs' =>
      cases hstops with
      | cons hstop hstops =>
        cases hknown with
        | cons hlength hknown => exact .cons ⟨hstop, hlength⟩ (ih hstops hknown)

section

variable (laws : IgnoresZeroSign α) {start start' : Position α}

include laws

theorem Leg.segment_alike {leg leg' : Leg α} (hstart : start.Alike start')
    (hleg : leg.Alike leg') (h : start.instant ≤ leg.stop.instant)
    (h' : start'.instant ≤ leg'.stop.instant) :
    (leg.segment start h).Alike (leg'.segment start' h') := by
  obtain ⟨-, hlon, hlat, -⟩ := Position.beq_iff.1 hstart.equal
  obtain ⟨-, hlon', hlat', -⟩ := Position.beq_iff.1 hleg.stop.equal
  have hdistance : start.place.distance leg.stop.place =
      start'.place.distance leg'.stop.place :=
    Place.distance_congr laws (.inr hlon) (.inr hlat) (.inr hlon') (.inr hlat')
  refine ⟨hstart, hleg.stop, ?_⟩
  rw [distance_segment, distance_segment, Segment.lengthOf_eq_getD, Segment.lengthOf_eq_getD]
  exact .getD hleg.known (.inl hdistance)

theorem Leg.segments_alike {legs legs' : List (Leg α)} (hstart : start.Alike start')
    (hlegs : List.Forall₂ Leg.Alike legs legs') (h : Forward start legs)
    (h' : Forward start' legs') :
    List.Forall₂ Segment.Alike (segments start legs h) (segments start' legs' h') := by
  induction hlegs generalizing start start' with
  | nil => exact .nil
  | cons hleg _ ih =>
    exact .cons (segment_alike laws hstart hleg h.1 h'.1) (ih hleg.stop h.2 h'.2)

/-- Equal tracks with the same speeds through water have segments that are alike, one for one. -/
theorem Track.segments_alike {t u : Track α} (h : (t == u) = true)
    (hstw : List.Forall₂ (fun p q => Alike p.stw q.stw) t.positions u.positions) :
    List.Forall₂ Segment.Alike t.segments u.segments := by
  obtain ⟨hpositions, hknown⟩ := Bool.and_eq_true_iff.1 h
  have hpositions := forall₂_position_alike hpositions hstw
  have hknown := forall₂_known_alike hknown
  cases t with
  | empty =>
    cases u with
    | empty => exact .nil
    | voyage => cases hpositions
  | voyage origin legs forward =>
    cases u with
    | empty => cases hpositions
    | voyage origin' legs' forward' =>
      cases hpositions with
      | cons horigin hstops =>
        rw [knownDistances, knownDistances, List.map_map, List.map_map] at hknown
        exact Leg.segments_alike laws horigin (forall₂_leg_alike hstops hknown) forward forward'

end

/-- Segments that are alike take the same time. -/
theorem map_duration_congr {ss rs : List (Segment α)} (h : List.Forall₂ Segment.Alike ss rs) :
    ss.map Segment.duration = rs.map Segment.duration := by
  induction h with
  | nil => rfl
  | cons hs _ ih => rw [List.map_cons, List.map_cons, hs.duration_eq, ih]

theorem Track.hours_congr {t u : Track α} (h : List.Forall₂ Segment.Alike t.segments u.segments) :
    (t.hours : α) = u.hours := by
  rw [hours, hours, duration, duration, map_duration_congr h]

end ShipEmissions
