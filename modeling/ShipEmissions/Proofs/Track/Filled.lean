import ShipEmissions.Proofs.Binary.Remainder
import ShipEmissions.Proofs.Track.Survivors

/-!
# Values that replace others on a computer

The speed and the course that replace missing ones are rounded at every step of their computation,
and they are valid all the same. Sine, cosine and the angle of a point are those of some library, of
which it is enough to know that distances are not negative and that angles are at most half a turn.

* `Trigonometry`: the functions of a library, and the numbers that are computed with them.
* `isBearing_turned`, `isBearing_averageBearing_float`: remainders by a full turn are bearings,
  although sums are rounded.
* `notNegative_speed`: speeds are not negative, if they are numbers.
* `Trigonometry.speedTo_eq_zero_iff`: between reports at the same time there is none, if that time
  is finite.
* `Track.replaced_valid`: the values that replace missing ones.
* `Track.replaced_endless_nowhere`: where times are infinite, or places are none, they fail.
-/

namespace ShipEmissions

/-! ## Bearings -/

namespace Binary

open Float.Model Float.Model.UnpackedFloat

variable {x y b c : Float}

theorem unpack_turn : (Scalar.ofInt 360 : Float).toModel.unpack =
    .finite .positive 6333186975989760 (-44) (by norm_num) := rfl

theorem unpack_halfTurn : (Scalar.ofInt 180 : Float).toModel.unpack =
    .finite .positive 6333186975989760 (-45) (by norm_num) := rfl

theorem unpack_neg_halfTurn : (-Scalar.ofInt 180 : Float).toModel.unpack =
    .finite .negative 6333186975989760 (-45) (by norm_num) := rfl

theorem unpack_ofInt_zero : (Scalar.ofInt 0 : Float).toModel.unpack = .zero .positive := rfl

theorem unpack_one : (Scalar.ofInt 1 : Float).toModel.unpack =
    .finite .positive 4503599627370496 (-52) (by norm_num) := rfl

theorem unpack_two : (Scalar.ofInt 2 : Float).toModel.unpack =
    .finite .positive 4503599627370496 (-51) (by norm_num) := rfl

theorem within_turn : Within 8 (Scalar.ofInt 360 : Float).toModel.unpack := by
  rw [unpack_turn]
  exact .finite _ _ _ _ (by decide)

/-- A remainder by a full turn is a bearing, if it is taken of a finite number that is not
negative. -/
theorem isBearing_remainder {k : ℤ} (hsign : NotNegative x.toModel.unpack)
    (hsize : Within k x.toModel.unpack) : IsBearing (Scalar.remainder x (Scalar.ofInt 360)) :=
  remainder_bounds unpack_turn (by norm_num) (by norm_num) hsign (isFinite_of_within hsize)

/-- A full turn more than an angle of at most half a turn is not negative. -/
theorem isBearing_turned (hlower : -Scalar.ofInt 180 ≤ x) (hupper : x ≤ Scalar.ofInt 180) :
    IsBearing (Scalar.remainder (x + Scalar.ofInt 360) (Scalar.ofInt 360)) := by
  have hsize : Within 7 x.toModel.unpack := by
    rw [le_iff, unpack_neg_halfTurn] at hlower
    rw [le_iff, unpack_halfTurn] at hupper
    exact within_of_bounds hlower hupper
  have horder := inOrder_of_le rfl (isFinite_of_within hsize) hlower
  rw [unpack_neg_halfTurn] at horder
  have hsign : NotNegative (x + Scalar.ofInt 360 : Float).toModel.unpack := by
    rw [unpack_add, unpack_turn]
    exact (notNegative_add_of_inOrder (horder.of_atMost ⟨1, rfl, by norm_num⟩)).pack
  exact isBearing_remainder hsign
    ((hsize.mono (by norm_num)).add within_turn (by norm_num) (by norm_num))

/-- A bearing is not negative, and it has at most nine places before the point. -/
theorem notNegative_of_isBearing (h : IsBearing b) :
    NotNegative b.toModel.unpack ∧ Within 8 b.toModel.unpack := by
  obtain ⟨hlower, hupper⟩ := h
  have hsign := not_lt_zero_iff.1 (zero_le_iff.1 hlower).1
  have hupper : b.toModel.unpack.le (Scalar.ofInt 360 : Float).toModel.unpack = true :=
    le_iff.1 (float_le_of_lt hupper)
  rw [unpack_turn] at hupper
  exact ⟨hsign, hsign.within hupper⟩

/-- The mean of two bearings is one, also where a full turn is added to one of them and the sum is
rounded up. -/
theorem isBearing_averageBearing_float (hb : IsBearing b) (hc : IsBearing c) :
    IsBearing (averageBearing b c) := by
  have hturn : NotNegative (Scalar.ofInt 360 : Float).toModel.unpack := by
    rw [unpack_turn]
    exact .finite _ _ _
  have hturned : ∀ {x y : Float}, IsBearing y → x = y ∨ x = y + Scalar.ofInt 360 →
      NotNegative x.toModel.unpack ∧ Within 10 x.toModel.unpack := by
    rintro x y hy (rfl | rfl)
    · obtain ⟨hsign, hsize⟩ := notNegative_of_isBearing hy
      exact ⟨hsign, hsize.mono (by norm_num)⟩
    · obtain ⟨hsign, hsize⟩ := notNegative_of_isBearing hy
      exact ⟨notNegative_add hsign hturn, hsize.add within_turn (by norm_num) (by norm_num)⟩
  obtain ⟨x, y, hmean, hx, hy⟩ := averageBearing_eq_remainder b c
  obtain ⟨hx, hsizex⟩ := hturned hb hx
  obtain ⟨hy, hsizey⟩ := hturned hc hy
  have hsum : Within 12 (x + y).toModel.unpack := hsizex.add hsizey (by norm_num) (by norm_num)
  have hhalf : Within 64 ((x + y) / Scalar.ofInt 2).toModel.unpack :=
    within_div unpack_two hsum (by norm_num) (by norm_num) (by norm_num)
  rw [hmean]
  exact isBearing_remainder (notNegative_div unpack_two (notNegative_add hx hy)) hhalf

/-! ## Speeds -/

section

variable {t u : Float}

theorem unpack_hour : (Scalar.ofInt 3600 : Float).toModel.unpack =
    .finite .positive 7916483719987200 (-41) (by norm_num) := rfl

theorem unpack_mile : (Scalar.ofInt 1852 : Float).toModel.unpack =
    .finite .positive 8145182138564608 (-42) (by norm_num) := rfl

theorem notNegative_ofInt_zero : NotNegative (Scalar.ofInt 0 : Float).toModel.unpack := by
  rw [unpack_ofInt_zero]
  exact .zero .positive

theorem beq_zero_iff : (x == Scalar.ofInt 0) = true ↔ ∃ s, x.toModel.unpack = .zero s := by
  constructor
  · intro h
    rcases alike_iff.1 (.of_beq h) with h | ⟨s, -, h, -⟩
    · exact ⟨.positive, h.trans unpack_ofInt_zero⟩
    · exact ⟨s, h⟩
  · rintro ⟨s, h⟩
    show x.toModel.unpack.beq (Scalar.ofInt 0 : Float).toModel.unpack = true
    rw [h, unpack_ofInt_zero]
    rfl

/-- A number that is not negative and not zero is positive. -/
theorem zero_lt_of_notNegative (hsign : NotNegative x.toModel.unpack)
    (hnumber : x.toModel.unpack ≠ .notANumber) (hne : ¬(x == Scalar.ofInt 0) = true) :
    Scalar.ofInt 0 < x := by
  rw [beq_zero_iff] at hne
  rw [lt_iff, unpack_ofInt_zero]
  generalize x.toModel.unpack = a at hsign hnumber hne
  cases hsign with
  | notANumber => exact absurd rfl hnumber
  | infinity => rfl
  | zero s => exact absurd ⟨s, rfl⟩ hne
  | finite m e hm => rfl

/-- No time lies between finite times that are equal. -/
theorem exists_sub_eq_zero (h : (t == u) = true) (ht : t.isFinite = true) :
    ∃ s, u.toModel.unpack.sub Format.binary64 t.toModel.unpack = .zero s := by
  have ht : t.toModel.unpack.isFinite = true := ht
  rcases alike_iff.1 (.of_beq h) with h | ⟨s, s', ht', hu'⟩
  · rw [← h]
    cases ha : t.toModel.unpack with
    | notANumber => rw [ha] at ht; cases ht
    | infinity s => rw [ha] at ht; cases ht
    | zero s => cases s <;> exact ⟨_, rfl⟩
    | finite s m e hm =>
      refine ⟨.positive, ?_⟩
      show UnpackedFloat.normalize Format.binary64 (s.apply _ - s.apply _) _ _ = _
      rw [Int.sub_self]
      rfl
  · rw [ht', hu']
    cases s <;> cases s' <;> exact ⟨_, rfl⟩

/-- The hours from one time to another that is not earlier are not negative. -/
theorem notNegative_hours (h : t ≤ u) :
    NotNegative ((u - t) / Scalar.ofInt 3600).toModel.unpack :=
  notNegative_div unpack_hour (notNegative_sub h)

/-- Between finite times there is a number of hours. -/
theorem hours_ne_notANumber (ht : t.isFinite = true) (hu : u.isFinite = true) :
    ((u - t) / Scalar.ofInt 3600).toModel.unpack ≠ .notANumber := by
  have hnumber : (u - t).toModel.unpack ≠ .notANumber :=
    unpack_pack_ne_notANumber (sub_ne_notANumber hu ht)
  rw [unpack_div, unpack_hour]
  exact unpack_pack_ne_notANumber (div_ne_notANumber hnumber)

theorem hours_eq_zero (h : (t == u) = true) (ht : t.isFinite = true) :
    ((u - t) / Scalar.ofInt 3600 == Scalar.ofInt 0) = true := by
  have hzero : ∃ s, (u - t).toModel.unpack = .zero s := by
    obtain ⟨s, hs⟩ := exists_sub_eq_zero h ht
    exact ⟨s, by rw [unpack_sub, hs, unpack_zero]⟩
  obtain ⟨s, hs⟩ := hzero
  refine beq_zero_iff.2 ⟨s * .positive, ?_⟩
  rw [unpack_div, unpack_hour, hs]
  exact unpack_zero _

/-- Between infinite times that are equal there is no number of hours. -/
theorem hours_eq_notANumber (h : (t == u) = true) (ht : ¬t.isFinite = true) :
    ((u - t) / Scalar.ofInt 3600).toModel.unpack = .notANumber := by
  have hnone : u.toModel.unpack.sub Format.binary64 t.toModel.unpack = .notANumber := by
    have ht : ¬t.toModel.unpack.isFinite = true := ht
    rcases alike_iff.1 (.of_beq h) with h | ⟨s, -, h, -⟩
    · rw [← h]
      cases ha : t.toModel.unpack with
      | notANumber => rfl
      | infinity s => cases s <;> rfl
      | zero s => rw [ha] at ht; exact absurd rfl ht
      | finite s m e hm => rw [ha] at ht; exact absurd rfl ht
    · rw [h] at ht
      exact absurd rfl ht
  refine unpack_div_of_notANumber (.inl ?_)
  rw [unpack_sub, hnone]
  rfl

/-- A distance over some time is not negative, in nautical miles. -/
theorem notNegative_speed {distance hours : Float} (hdistance : Scalar.ofInt 0 ≤ distance)
    (hhours : NotNegative hours.toModel.unpack) (hne : ¬(hours == Scalar.ofInt 0) = true) :
    NotNegative (distance / hours / Scalar.ofInt 1852).toModel.unpack := by
  have hdistance := not_lt_zero_iff.1 (zero_le_iff.1 hdistance).1
  refine notNegative_div unpack_mile (hdistance.div hhours fun s hs => hne ?_).pack
  exact beq_zero_iff.2 ⟨s, hs⟩

/-- What is not negative, cut off at a speed. What is no number is cut off, too. -/
theorem least_bounds {limit : Float} (hlimit : Scalar.ofInt 0 ≤ limit)
    (hsign : NotNegative x.toModel.unpack) :
    Scalar.ofInt 0 ≤ Scalar.least x limit ∧ Scalar.least x limit ≤ limit := by
  unfold Scalar.least
  split
  · next hlt =>
    exact ⟨zero_le_iff.2 ⟨not_lt_zero_iff.2 hsign, beq_self_of_lt_left hlt⟩, float_le_of_lt hlt⟩
  · have hnumber : (limit == limit) = true := beq_self_of_le hlimit
    rw [if_pos hnumber]
    exact ⟨hlimit, float_le_of_beq hnumber⟩

end

end Binary

/-! ## Trigonometry -/

/-- The functions of a library, on angles in radians. -/
structure Trigonometry where
  sin : Float → Float
  cos : Float → Float
  atan2 : (y x : Float) → Float

namespace Trigonometry

/-- The numbers that are computed with the functions of a library. -/
def Number (_ : Trigonometry) : Type := Float

instance (trig : Trigonometry) : Scalar trig.Number :=
  { (inferInstance : Scalar Float) with
    sin := trig.sin
    cos := trig.cos
    atan2 := trig.atan2 }

/-- The functions that programs run with. -/
def native : Trigonometry := ⟨Float.sin, Float.cos, Float.atan2⟩

/-- With these, the numbers are those that programs compute with. -/
theorem number_native : (inferInstance : Scalar native.Number) = (inferInstance : Scalar Float) :=
  rfl

variable {trig : Trigonometry} {a b : Fix trig.Number}

/-! ## Speeds and bearings -/

open Binary

/-- The time from one fix to another, in hours. -/
def hoursBetween (a b : Fix trig.Number) : trig.Number := (b.time - a.time) / 3600

theorem speedTo_eq (a b : Fix trig.Number) :
    a.speedTo b = if hoursBetween a b == 0 then 0
      else nauticalMiles (a.place.distance b.place / hoursBetween a b) := rfl

/-- A speed is not negative if no time is gone back. -/
theorem notNegative_speedTo (htime : a.time ≤ b.time)
    (hdistance : IsDistance (a.place.distance b.place)) :
    NotNegative (a.speedTo b : Float).toModel.unpack := by
  rw [speedTo_eq]
  split
  · exact notNegative_ofInt_zero
  · next hne => exact notNegative_speed hdistance (notNegative_hours htime) hne

/-- Between fixes at the same time the speed is zero iff that time is finite. -/
theorem speedTo_eq_zero_iff (h : (a.time == b.time) = true) :
    a.speedTo b = 0 ↔ Scalar.isFinite a.time = true := by
  rw [speedTo_eq]
  constructor
  · intro hzero
    by_contra ha
    have hhours : (hoursBetween a b : Float).toModel.unpack = .notANumber :=
      hours_eq_notANumber h ha
    have hne : ¬(hoursBetween a b == 0) = true := by
      intro hbeq
      obtain ⟨s, hs⟩ := beq_zero_iff.1 hbeq
      rw [hhours] at hs
      cases hs
    rw [if_neg hne] at hzero
    have hnone : (nauticalMiles (a.place.distance b.place / hoursBetween a b) :
        Float).toModel.unpack = .notANumber :=
      unpack_div_of_notANumber (.inl (unpack_div_of_notANumber (.inr hhours)))
    have hspeed := congrArg (fun x : Float => x.toModel.unpack) hzero
    cases (hnone.symm.trans hspeed).trans unpack_ofInt_zero
  · intro ha
    exact if_pos (hours_eq_zero h ha)

/-- A speed is never a distance over no time, and one over a positive time if both times are
finite. -/
theorem speedTo_cases (htime : a.time ≤ b.time) :
    a.speedTo b = 0 ∨ (hoursBetween a b == 0) = false ∧
      (Scalar.isFinite a.time = true → Scalar.isFinite b.time = true → 0 < hoursBetween a b) ∧
      a.speedTo b = nauticalMiles (a.place.distance b.place / hoursBetween a b) := by
  rw [speedTo_eq]
  split
  · exact .inl rfl
  · next hne =>
    refine .inr ⟨Bool.eq_false_iff.2 hne, fun ha hb => ?_, rfl⟩
    exact zero_lt_of_notNegative (notNegative_hours htime) (hours_ne_notANumber ha hb) hne

/-- The angle in degrees of the way from one place to another, from north. -/
def angle (a b : Place trig.Number) : trig.Number :=
  Scalar.toDegrees (Scalar.atan2 (b.lon - a.lon) (b.lat - a.lat))

/-- An angle of at most half a turn gives a bearing. -/
theorem isBearing_bearing {a b : Place trig.Number} (hangle : -180 ≤ angle a b ∧ angle a b ≤ 180) :
    IsBearing (a.bearing b) :=
  isBearing_turned hangle.1 hangle.2

theorem zero_le_sixteen : (0 : trig.Number) ≤ 16 := by
  show (Scalar.ofInt 0 : Float) ≤ Scalar.ofInt 16
  decide

/-- The mean of up to two numbers that are not negative is not negative. -/
theorem notNegative_meanOf {x : trig.Number} {xs : List trig.Number} (hlength : xs.length ≤ 1)
    (h : ∀ y ∈ x :: xs, NotNegative (y : Float).toModel.unpack) :
    NotNegative (Fix.meanOf (x :: xs) : Float).toModel.unpack := by
  have hx := h x List.mem_cons_self
  match xs with
  | [] => exact notNegative_div unpack_one hx
  | [y] => exact notNegative_div unpack_two (notNegative_add hx (h y (by simp)))

end Trigonometry

/-! ## Replaced values -/

/-- Of valid other values, only the longitude and the latitude can keep a position from being
made. -/
theorem Position.exists_of?_iff {α : Type} [Scalar α] {instant : Instant}
    {lon lat sog cog heading : α} (hsog : IsSpeed sog) (hcog : IsBearing cog)
    (hheading : IsBearing heading) :
    (∃ p, Position.of? instant lon lat sog cog heading = .ok p) ↔
      IsLongitude lon ∧ IsLatitude lat := by
  constructor
  · rintro ⟨p, hp⟩
    obtain ⟨-, rfl, rfl, -⟩ := Position.of?_eq_ok_iff.1 hp
    exact ⟨p.lon.property, p.lat.property⟩
  · rintro ⟨hlon, hlat⟩
    exact ⟨⟨instant, ⟨lon, hlon⟩, ⟨lat, hlat⟩, ⟨sog, hsog⟩, ⟨cog, hcog⟩, ⟨heading, hheading⟩,
      .still, none⟩, Position.of?_eq_ok_iff.2 ⟨rfl, rfl, rfl, rfl, rfl, rfl, rfl, rfl⟩⟩

namespace Track

open Trigonometry Binary

variable {trig : Trigonometry} {w : Window (Report trig.Number)}

theorem length_adjacentMoves_le {α : Type} [Scalar α] (w : Window (Report α)) :
    (adjacentMoves w).length ≤ 2 := by
  rw [adjacentMoves, List.length_append]
  cases w.past.getLast? <;> cases w.future.head? <;> simp

/-- The speed of what is not negative is between zero and the limit. -/
theorem replacedSog_bounds
    (h : ∀ move ∈ adjacentMoves w, NotNegative (move.1.speedTo move.2 : Float).toModel.unpack) :
    0 ≤ replacedSog w ∧ replacedSog w ≤ 16 := by
  unfold replacedSog
  generalize hspeeds : ((adjacentMoves w).map fun (a, b) => a.speedTo b) = speeds
  have hlength : speeds.length ≤ 2 := by
    rw [← hspeeds, List.length_map]
    exact length_adjacentMoves_le w
  have hall : ∀ x ∈ speeds, NotNegative (x : Float).toModel.unpack := by
    rw [← hspeeds]
    intro x hx
    obtain ⟨move, hmove, rfl⟩ := List.mem_map.1 hx
    exact h move hmove
  cases speeds with
  | nil => exact ⟨Scalar.zero_le_zero, zero_le_sixteen⟩
  | cons x xs =>
    have hmean := notNegative_meanOf (Nat.le_of_succ_le_succ hlength) hall
    exact least_bounds zero_le_sixteen hmean

/-- Reports in the order of time, with distances and angles between them that make sense, give a
speed from zero to the limit and a course that is a bearing, so a position is never refused for a
value that replaces a missing one. A report at the same time counts with no speed iff that time is
finite. -/
theorem replaced_valid
    (hpast : ∀ r, w.past.getLast? = some r → r.fix.time ≤ w.current.fix.time)
    (hfuture : ∀ r, w.future.head? = some r → w.current.fix.time ≤ r.fix.time)
    (hdistance : ∀ move ∈ adjacentMoves w, IsDistance (move.1.place.distance move.2.place))
    (hangle : ∀ move ∈ adjacentMoves w,
      -180 ≤ angle move.1.place move.2.place ∧ angle move.1.place move.2.place ≤ 180) :
    (0 ≤ replacedSog w ∧ replacedSog w ≤ 16) ∧
      (w.past = [] → w.future = [] → replacedSog w = 0) ∧
      (adjacentMoves w ≠ [] → replacedSog w =
        Scalar.least (Fix.meanOf ((adjacentMoves w).map fun (a, b) => a.speedTo b)) 16) ∧
      (∀ a b : Fix trig.Number, (a, b) ∈ adjacentMoves w →
        ((a.time == b.time) = true → (a.speedTo b = 0 ↔ Scalar.isFinite a.time = true)) ∧
          (a.speedTo b = 0 ∨ (hoursBetween a b == 0) = false ∧
            (Scalar.isFinite a.time = true → Scalar.isFinite b.time = true →
              0 < hoursBetween a b) ∧
            a.speedTo b = nauticalMiles (a.place.distance b.place / hoursBetween a b))) ∧
      IsBearing (replacedCog w) ∧
      ∀ (instant : Instant) (lon lat sog cog heading : trig.Number),
        sog = replacedSog w ∨ IsSpeed sog → cog = replacedCog w ∨ IsBearing cog →
        heading = cog ∨ IsBearing heading →
        ((∃ p, Position.of? instant lon lat sog cog heading = .ok p) ↔
          IsLongitude lon ∧ IsLatitude lat) := by
  have htime : ∀ move ∈ adjacentMoves w, move.1.time ≤ move.2.time :=
    forall_mem_adjacentMoves hpast hfuture
  have hspeeds : ∀ move ∈ adjacentMoves w,
      NotNegative (move.1.speedTo move.2 : Float).toModel.unpack := by
    intro move hmove
    exact notNegative_speedTo (htime move hmove) (hdistance move hmove)
  have hbounds := replacedSog_bounds hspeeds
  have hcog : IsBearing (replacedCog w) :=
    isBearing_replacedCog_of_moves (fun move hmove => isBearing_bearing (hangle move hmove))
      fun _ _ => isBearing_averageBearing_float
  refine ⟨hbounds, ?_, ?_,
    fun a b hmove => ⟨speedTo_eq_zero_iff, speedTo_cases (htime (a, b) hmove)⟩, hcog, ?_⟩
  · intro hnone hnone'
    unfold replacedSog adjacentMoves
    rw [hnone, hnone']
    rfl
  · intro hsome
    unfold replacedSog
    split
    · next hnone => exact absurd (List.map_eq_nil_iff.1 hnone) hsome
    · rfl
  · intro instant lon lat sog cog heading hsog hcog' hheading
    have hcog' : IsBearing cog := by
      rcases hcog' with rfl | h
      · exact hcog
      · exact h
    refine Position.exists_of?_iff ?_ hcog' ?_
    · rcases hsog with rfl | h
      · exact hbounds.1
      · exact h
    · rcases hheading with rfl | h
      · exact hcog'
      · exact h

/-- The first terms of the series for small angles, and the angles to the east and to the west. -/
def seriesTrigonometry : Trigonometry where
  sin x := x - x * x * x / 6
  cos x := 1 - x * x / 2
  atan2 y x :=
    if x == 0 then if y == 0 then 0 else if 0 < y then Binary.pi / 2 else -(Binary.pi / 2)
    else y / x - y / x * (y / x) * (y / x) / 3

/-- A degree along the equator in ten hours, and another report at the same time and place. -/
def equatorWindow : Window (Report seriesTrigonometry.Number) where
  past := [⟨⟨0, ⟨0, 0⟩⟩, none, none, none, none, none⟩]
  current := ⟨⟨36000, ⟨1, 0⟩⟩, none, none, none, none, none⟩
  future := [⟨⟨36000, ⟨1, 0⟩⟩, none, none, none, none, none⟩]

/-- The mean of six knots and none makes a position. -/
theorem replaced_valid_equator :
    (∀ r, equatorWindow.past.getLast? = some r →
        r.fix.time ≤ equatorWindow.current.fix.time) ∧
      (∀ r, equatorWindow.future.head? = some r →
        equatorWindow.current.fix.time ≤ r.fix.time) ∧
      (∀ move ∈ adjacentMoves equatorWindow, IsDistance (move.1.place.distance move.2.place)) ∧
      (∀ move ∈ adjacentMoves equatorWindow,
        -180 ≤ angle move.1.place move.2.place ∧ angle move.1.place move.2.place ≤ 180) ∧
      3 < replacedSog equatorWindow ∧ replacedSog equatorWindow ≤ 16 ∧
      ∃ p, Position.of? (.ofMillis 36000000) 1 0 (replacedSog equatorWindow)
        (replacedCog equatorWindow) (replacedCog equatorWindow) = .ok p := by
  have hpast : ∀ r, equatorWindow.past.getLast? = some r →
      r.fix.time ≤ equatorWindow.current.fix.time := by
    rintro r ⟨⟩
    decide +kernel
  have hfuture : ∀ r, equatorWindow.future.head? = some r →
      equatorWindow.current.fix.time ≤ r.fix.time := by
    rintro r ⟨⟩
    decide +kernel
  have hdistance : ∀ move ∈ adjacentMoves equatorWindow,
      IsDistance (move.1.place.distance move.2.place) := by
    decide +kernel
  have hangle : ∀ move ∈ adjacentMoves equatorWindow,
      -180 ≤ angle move.1.place move.2.place ∧ angle move.1.place move.2.place ≤ 180 := by
    decide +kernel
  obtain ⟨⟨-, hsog⟩, -, -, -, -, hposition⟩ := replaced_valid hpast hfuture hdistance hangle
  refine ⟨hpast, hfuture, hdistance, hangle, by decide +kernel, hsog, ?_⟩
  exact (hposition _ _ _ _ _ _ (.inl rfl) (.inl rfl) (.inl rfl)).2 (by decide +kernel)

/-- An infinite time. -/
def endless : Float := 1 / 0

/-- No number of degrees. -/
def nowhere : Float := 0 / 0

/-- A degree along the equator, with both reports at the same infinite time. -/
def endlessWindow : Window (Report seriesTrigonometry.Number) where
  past := [⟨⟨endless, ⟨0, 0⟩⟩, none, none, none, none, none⟩]
  current := ⟨⟨endless, ⟨1, 0⟩⟩, none, none, none, none, none⟩
  future := []

/-- A report in front of one whose latitude is no number. -/
def nowhereWindow : Window (Report seriesTrigonometry.Number) where
  past := []
  current := ⟨⟨0, ⟨0, 0⟩⟩, none, none, none, none, none⟩
  future := [⟨⟨10, ⟨0, nowhere⟩⟩, none, none, none, none, none⟩]

/-- A report at the same infinite time counts with a speed that is no number, and the replaced speed
is the limit, although order, distance and angle are as they should be. A course towards a place
without a latitude is no bearing, although the reports are in the order of time, and no position can
be made with it. -/
theorem replaced_endless_nowhere :
    ((∀ r, endlessWindow.past.getLast? = some r →
        r.fix.time ≤ endlessWindow.current.fix.time) ∧
      (∀ r, endlessWindow.future.head? = some r →
        endlessWindow.current.fix.time ≤ r.fix.time) ∧
      (∀ move ∈ adjacentMoves endlessWindow, IsDistance (move.1.place.distance move.2.place)) ∧
      (∀ move ∈ adjacentMoves endlessWindow,
        -180 ≤ angle move.1.place move.2.place ∧ angle move.1.place move.2.place ≤ 180) ∧
      (∀ move ∈ adjacentMoves endlessWindow, (move.1.time == move.2.time) = true ∧
        move.1.speedTo move.2 ≠ 0) ∧
      adjacentMoves endlessWindow ≠ [] ∧ (replacedSog endlessWindow == 16) = true) ∧
    (∀ r, nowhereWindow.past.getLast? = some r →
        r.fix.time ≤ nowhereWindow.current.fix.time) ∧
      (∀ r, nowhereWindow.future.head? = some r →
        nowhereWindow.current.fix.time ≤ r.fix.time) ∧
      ¬IsBearing (replacedCog nowhereWindow) ∧
      ∀ p, Position.of? (.ofMillis 0) 0 0 0 (replacedCog nowhereWindow) 0 ≠ .ok p := by
  have hpast : ∀ r, endlessWindow.past.getLast? = some r →
      r.fix.time ≤ endlessWindow.current.fix.time := by
    rintro r ⟨⟩
    decide +kernel
  have hdistance : ∀ move ∈ adjacentMoves endlessWindow,
      IsDistance (move.1.place.distance move.2.place) := by
    decide +kernel
  have hangle : ∀ move ∈ adjacentMoves endlessWindow,
      -180 ≤ angle move.1.place move.2.place ∧ angle move.1.place move.2.place ≤ 180 := by
    decide +kernel
  have hspeed : ∀ move ∈ adjacentMoves endlessWindow, (move.1.time == move.2.time) = true ∧
      move.1.speedTo move.2 ≠ 0 := by
    have htimes : ∀ move ∈ adjacentMoves endlessWindow, (move.1.time == move.2.time) = true ∧
        ¬Scalar.isFinite move.1.time = true := by
      decide +kernel
    intro move hmove
    obtain ⟨hbeq, hinfinite⟩ := htimes move hmove
    exact ⟨hbeq, fun hzero => hinfinite ((speedTo_eq_zero_iff hbeq).1 hzero)⟩
  have hsog : (replacedSog endlessWindow == 16) = true := by decide +kernel
  have hfuture : ∀ r, nowhereWindow.future.head? = some r →
      nowhereWindow.current.fix.time ≤ r.fix.time := by
    rintro r ⟨⟩
    decide +kernel
  have hcog : ¬IsBearing (replacedCog nowhereWindow) := by decide +kernel
  refine ⟨⟨hpast, ?_, hdistance, hangle, hspeed, List.cons_ne_nil _ _, hsog⟩, ?_, hfuture, hcog, ?_⟩
  · rintro r ⟨⟩
  · rintro r ⟨⟩
  · intro p hp
    obtain ⟨-, -, -, -, hp, -⟩ := Position.of?_eq_ok_iff.1 hp
    rw [← hp] at hcog
    exact hcog p.cog.property

end Track

end ShipEmissions
