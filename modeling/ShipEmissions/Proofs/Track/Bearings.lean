import ShipEmissions.Proofs.Track.Geometry

/-!
# The middle of two bearings

Bearings are angles up to full turns. Two bearings part a turn into two arcs, and the mean of the
bearings is the middle of the shorter one. Opposite bearings leave two arcs of the same length; then
the middle of the one that does not lead through north is taken.

* `wrapped`: the bearing that an angle comes down to.
* `arc`: how long the shorter arc between two bearings is.
* `averageBearing_eq`: the mean, with the turn that is added where the shorter arc leads through
  north.
* `averageBearing_of_turn`: where the arcs differ, it is half of the shorter turn away from the
  first bearing.
* `averageBearing_bisects`: the mean as the middle of the shorter arc.
-/

namespace ShipEmissions

/-! ## Full turns -/

theorem fullTurn_pos : (0 : ℝ) < 360 := by norm_num

/-- The bearing that an angle in degrees comes down to, however many full turns it makes. -/
noncomputable def wrapped (angle : ℝ) : ℝ := toIcoMod fullTurn_pos 0 angle

theorem isBearing_wrapped (angle : ℝ) : IsBearing (wrapped angle) :=
  isBearing_real.2 (toIcoMod_mem_Ico' fullTurn_pos angle)

/-- What an angle comes down to is the angle less some full turns. -/
theorem exists_wrapped (angle : ℝ) : ∃ turns : ℤ, wrapped angle = angle + 360 * turns := by
  refine ⟨-toIcoDiv fullTurn_pos 0 angle, ?_⟩
  rw [wrapped, ← self_sub_toIcoDiv_zsmul, zsmul_eq_mul]
  push_cast
  ring

theorem wrapped_add_turns (angle : ℝ) (turns : ℤ) :
    wrapped (angle + 360 * turns) = wrapped angle := by
  rw [wrapped, mul_comm, ← zsmul_eq_mul]
  exact toIcoMod_add_zsmul fullTurn_pos 0 angle turns

theorem wrapped_add_turn (angle : ℝ) : wrapped (angle + 360) = wrapped angle :=
  toIcoMod_add_right fullTurn_pos 0 angle

/-- A remainder by a full turn is what an angle comes down to, if it is not negative. -/
theorem remainder_turn_eq_wrapped {angle : ℝ} (h : 0 ≤ angle) :
    Scalar.remainder angle (@OfNat.ofNat ℝ 360 Scalar.instOfNat) = wrapped angle := by
  rw [Scalar.ofNat_real]
  push_cast
  refine .symm ((toIcoMod_eq_iff fullTurn_pos).2 ⟨?_, ⌊angle / 360⌋, ?_⟩)
  · rw [zero_add]
    exact Scalar.remainder_turn h
  · have hquotient : 0 ≤ angle / 360 := by positivity
    show angle = angle - 360 * (if 0 ≤ angle / 360 then _ else _) + _
    rw [if_pos hquotient, zsmul_eq_mul]
    ring

/-! ## Arcs -/

/-- The length in degrees of the shorter arc between two bearings. -/
noncomputable def arc (b c : ℝ) : ℝ := min |b - c| (360 - |b - c|)

/-- The shorter arc is at most half a turn. -/
theorem arc_le (b c : ℝ) : arc b c ≤ 180 := by
  rw [arc, min_le_iff]
  by_contra! h
  linarith

/-- The shorter arc is as long as the shortest turn from one bearing to the other. -/
theorem arc_eq_abs {b c turn : ℝ} (hb : IsBearing b) (hc : IsBearing c) (hturn : |turn| ≤ 180)
    (h : ∃ turns : ℤ, c = b + turn + 360 * turns) : arc b c = |turn| := by
  rw [isBearing_real] at hb hc
  obtain ⟨turns, hturns⟩ := h
  obtain ⟨hleft, hright⟩ := abs_le.1 hturn
  have hlower : (-2 : ℤ) < turns := by
    have : (-2 : ℝ) < turns := by linarith
    exact_mod_cast this
  have hupper : turns < (2 : ℤ) := by
    have : (turns : ℝ) < 2 := by linarith
    exact_mod_cast this
  obtain rfl | rfl | rfl : turns = 0 ∨ turns = 1 ∨ turns = -1 := by omega
  · have hdiff : |b - c| = |turn| := by
      rw [abs_sub_comm]
      congr 1
      push_cast at hturns
      linarith
    rw [arc, hdiff, min_eq_left (by linarith)]
  · -- a turn to the left that leads through north
    push_cast at hturns
    have hdiff : |b - c| = 360 + turn := by
      rw [abs_sub_comm, abs_of_pos] <;> linarith
    rw [arc, hdiff, abs_of_nonpos (by linarith), min_eq_right (by linarith)]
    ring
  · -- a turn to the right that leads through north
    push_cast at hturns
    have hdiff : |b - c| = 360 - turn := by
      rw [abs_of_pos] <;> linarith
    rw [arc, hdiff, abs_of_nonneg (by linarith), min_eq_right (by linarith)]
    ring

/-! ## The mean -/

/-- Where the bearings are more than half a turn apart, the mean is taken half a turn further. -/
theorem averageBearing_eq {b c : ℝ} (hb : IsBearing b) (hc : IsBearing c) :
    averageBearing b c =
      if 180 < |b - c| then wrapped ((b + c + 360) / 2) else wrapped ((b + c) / 2) := by
  rw [isBearing_real] at hb hc
  have hmean : ∀ x y : ℝ, 0 ≤ x + y →
      Scalar.remainder ((x + y) / (@OfNat.ofNat ℝ 2 Scalar.instOfNat))
        (@OfNat.ofNat ℝ 360 Scalar.instOfNat) = wrapped ((x + y) / 2) := by
    intro x y hsum
    rw [Scalar.ofNat_real 2]
    push_cast
    exact remainder_turn_eq_wrapped (by linarith)
  have hcondition : (@OfNat.ofNat ℝ 180 Scalar.instOfNat) < Scalar.size (b - c) ↔
      180 < |b - c| := by
    rw [Scalar.size_real, Scalar.ofNat_real, Nat.cast_ofNat]
  have hturn : (@OfNat.ofNat ℝ 360 Scalar.instOfNat) = 360 := by
    rw [Scalar.ofNat_real, Nat.cast_ofNat]
  unfold averageBearing
  split
  next x y hpair =>
    split_ifs at hpair with hapart horder
    · rw [if_pos (hcondition.1 hapart)]
      cases hpair
      rw [hturn, hmean _ _ (by linarith), add_right_comm]
    · rw [if_pos (hcondition.1 hapart)]
      cases hpair
      rw [hturn, hmean _ _ (by linarith), add_assoc]
    · rw [if_neg (mt hcondition.2 hapart)]
      cases hpair
      exact hmean _ _ (by linarith)

theorem averageBearing_comm {b c : ℝ} (hb : IsBearing b) (hc : IsBearing c) :
    averageBearing c b = averageBearing b c := by
  rw [averageBearing_eq hc hb, averageBearing_eq hb hc, abs_sub_comm, add_comm c b]

/-- The mean is half of a shortest turn away from the first bearing. -/
theorem exists_turn {b c : ℝ} (hb : IsBearing b) (hc : IsBearing c) :
    ∃ turn : ℝ, |turn| ≤ 180 ∧ (∃ turns : ℤ, c = b + turn + 360 * turns) ∧
      averageBearing b c = wrapped (b + turn / 2) := by
  have hmean := averageBearing_eq hb hc
  rw [isBearing_real] at hb hc
  rcases le_or_gt |b - c| 180 with hnear | hfar
  · rw [if_neg hnear.not_gt] at hmean
    refine ⟨c - b, ?_, ⟨0, by push_cast; ring⟩, ?_⟩
    · rwa [abs_sub_comm]
    · rw [hmean]
      congr 1
      ring
  · rw [if_pos hfar] at hmean
    rcases lt_or_ge b c with horder | horder
    · -- the shorter arc leads to the left
      rw [abs_sub_comm, abs_of_pos (by linarith)] at hfar
      refine ⟨c - b - 360, abs_le.2 ⟨by linarith, by linarith⟩, ⟨1, by push_cast; ring⟩, ?_⟩
      rw [hmean, ← wrapped_add_turn (b + _)]
      congr 1
      ring
    · rw [abs_of_nonneg (by linarith)] at hfar
      refine ⟨c - b + 360, abs_le.2 ⟨by linarith, by linarith⟩, ⟨-1, by push_cast; ring⟩, ?_⟩
      rw [hmean]
      congr 1
      ring

/-- Of turns that are shorter than half a turn, only one leads from one bearing to another. -/
theorem averageBearing_of_turn {b c turn : ℝ} (hb : IsBearing b) (hc : IsBearing c)
    (hturn : |turn| < 180) (h : ∃ turns : ℤ, c = b + turn + 360 * turns) :
    averageBearing b c = wrapped (b + turn / 2) := by
  obtain ⟨turn', hturn', ⟨turns', hturns'⟩, hmean⟩ := exists_turn hb hc
  obtain ⟨turns, hturns⟩ := h
  have hbounds := abs_lt.1 hturn
  have hbounds' := abs_le.1 hturn'
  have hlower : (-1 : ℤ) < turns - turns' := by
    have : (-1 : ℝ) < turns - turns' := by linarith
    exact_mod_cast this
  have hupper : turns - turns' < (1 : ℤ) := by
    have : (turns - turns' : ℝ) < 1 := by linarith
    exact_mod_cast this
  obtain rfl : turns = turns' := by omega
  have hsame : turn' = turn := by linarith
  rw [hmean, hsame]

/-- The mean is half as far from each bearing as they are from each other. -/
theorem arc_averageBearing {b c : ℝ} (hb : IsBearing b) (hc : IsBearing c) :
    arc (averageBearing b c) b = arc b c / 2 ∧ arc (averageBearing b c) c = arc b c / 2 := by
  have hm := isBearing_averageBearing hb hc
  obtain ⟨turn, hturn, ⟨turns, hturns⟩, hmean⟩ := exists_turn hb hc
  obtain ⟨added, hadded⟩ := exists_wrapped (b + turn / 2)
  have hhalf : |turn / 2| = |turn| / 2 := by rw [abs_div, abs_two]
  have hback : arc (averageBearing b c) b = |-(turn / 2)| := by
    refine arc_eq_abs hm hb ?_ ⟨-added, ?_⟩
    · rw [abs_neg, hhalf]
      linarith [abs_nonneg turn]
    · rw [hmean, hadded]
      push_cast
      ring
  have hon : arc (averageBearing b c) c = |turn / 2| := by
    refine arc_eq_abs hm hc ?_ ⟨turns - added, ?_⟩
    · rw [hhalf]
      linarith [abs_nonneg turn]
    · rw [hmean, hadded, hturns]
      push_cast
      ring
  rw [hback, hon, abs_neg, hhalf, arc_eq_abs hb hc hturn ⟨turns, hturns⟩]
  exact ⟨rfl, rfl⟩

/-- Bearings that are not opposite can be turned before or after their mean is taken. -/
theorem averageBearing_wrapped_add {b c : ℝ} (hb : IsBearing b) (hc : IsBearing c)
    (hopposite : arc b c ≠ 180) (angle : ℝ) :
    averageBearing (wrapped (b + angle)) (wrapped (c + angle)) =
      wrapped (averageBearing b c + angle) := by
  obtain ⟨turn, hturn, ⟨turns, hturns⟩, hmean⟩ := exists_turn hb hc
  obtain ⟨ofMean, hofMean⟩ := exists_wrapped (b + turn / 2)
  obtain ⟨ofB, hofB⟩ := exists_wrapped (b + angle)
  obtain ⟨ofC, hofC⟩ := exists_wrapped (c + angle)
  have hshort : |turn| < 180 := by
    refine hturn.lt_of_ne ?_
    rwa [← arc_eq_abs hb hc hturn ⟨turns, hturns⟩]
  have hturned : wrapped (c + angle) =
      wrapped (b + angle) + turn + 360 * ((turns + ofC - ofB : ℤ) : ℝ) := by
    rw [hofB, hofC, hturns]
    push_cast
    ring
  calc averageBearing (wrapped (b + angle)) (wrapped (c + angle))
      = wrapped (wrapped (b + angle) + turn / 2) :=
        averageBearing_of_turn (isBearing_wrapped _) (isBearing_wrapped _) hshort ⟨_, hturned⟩
    _ = wrapped (b + turn / 2 + angle) := by
        rw [hofB, ← wrapped_add_turns (b + turn / 2 + angle) ofB]
        congr 1
        ring
    _ = wrapped (averageBearing b c + angle) := by
        rw [hmean, hofMean, ← wrapped_add_turns (b + turn / 2 + angle) ofMean]
        congr 1
        ring

/-- The mean of two bearings is a bearing, whichever of them comes first, and it is the middle of
the shorter arc between them: it is half as far from each as they are from each other, which is at
most a quarter of a turn. Unless they are opposite, turning both by an angle turns the mean by
it. -/
theorem averageBearing_bisects {b c : ℝ} (hb : IsBearing b) (hc : IsBearing c) :
    IsBearing (averageBearing b c) ∧ averageBearing c b = averageBearing b c ∧
      arc (averageBearing b c) b = arc b c / 2 ∧ arc (averageBearing b c) c = arc b c / 2 ∧
      arc b c / 2 ≤ 90 ∧
      (arc b c ≠ 180 → ∀ angle,
        averageBearing (wrapped (b + angle)) (wrapped (c + angle)) =
          wrapped (averageBearing b c + angle)) := by
  obtain ⟨hfirst, hsecond⟩ := arc_averageBearing hb hc
  refine ⟨isBearing_averageBearing hb hc, averageBearing_comm hb hc, hfirst, hsecond, ?_,
    averageBearing_wrapped_add hb hc⟩
  linarith [arc_le b c]

/-- From 350 to 20 degrees, the shorter arc leads through north. -/
theorem averageBearing_bisects_north :
    IsBearing (350 : ℝ) ∧ IsBearing (20 : ℝ) ∧ arc 350 20 = 30 ∧
      arc (averageBearing 350 20) 350 = 15 ∧ arc (averageBearing 350 20) 20 = 15 ∧
      averageBearing (wrapped (350 + 15)) (wrapped (20 + 15)) =
        wrapped (averageBearing 350 20 + 15) := by
  have hb : IsBearing (350 : ℝ) := isBearing_real.2 (by norm_num)
  have hc : IsBearing (20 : ℝ) := isBearing_real.2 (by norm_num)
  have harc : arc 350 20 = 30 := by norm_num [arc]
  obtain ⟨-, -, hfirst, hsecond, -, hturned⟩ := averageBearing_bisects hb hc
  rw [harc] at hfirst hsecond hturned
  refine ⟨hb, hc, harc, ?_, ?_, hturned (by norm_num) 15⟩
  · rw [hfirst]
    norm_num
  · rw [hsecond]
    norm_num

end ShipEmissions
