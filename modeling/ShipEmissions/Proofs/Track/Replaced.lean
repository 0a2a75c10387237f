import ShipEmissions.Proofs.Binary.Rounding
import ShipEmissions.Proofs.Track.Geometry
import ShipEmissions.Proofs.Window
import ShipEmissions.Track.Sanitized

/-!
# Values that replace others

A speed and a course that replace missing ones are computed from the reports on both sides, which
have not been checked.

* `Instant.ofSeconds?_mono`, `Instant.ofSeconds?_mono_float`: later seconds give no earlier instant.
* `isSpeed_replacedSog`: a mean speed is a speed where the reports are in the order of time.
* `isBearing_replacedCog`: a mean bearing is always one.
-/

namespace ShipEmissions

/-! ## Moves in the order of time -/

/-- An instant is the time in seconds, rounded to milliseconds, if it is in range. -/
theorem Instant.ofSeconds?_eq_ok_iff {α : Type} [Scalar α] {x : α} {i : Instant} :
    Instant.ofSeconds? x = .ok i ↔ Scalar.isFinite x = true ∧
      i = .ofMillis (Scalar.round (x * 1000)) ∧ .earliest ≤ i ∧ i ≤ .latest := by
  rw [Instant.ofSeconds?]
  dsimp only
  constructor
  · intro h
    split at h
    · next hfinite =>
      split at h
      · next hrange =>
        cases h
        exact ⟨hfinite, rfl, hrange⟩
      · cases h
    · cases h
  · rintro ⟨hfinite, rfl, hrange⟩
    rw [if_pos hfinite]
    exact if_pos hrange

theorem Instant.eq_of_ofSeconds? {α : Type} [Scalar α] {x : α} {i : Instant}
    (h : Instant.ofSeconds? x = .ok i) : i = .ofMillis (Scalar.round (x * 1000)) :=
  (ofSeconds?_eq_ok_iff.1 h).2.1

/-- Later seconds give no earlier instant. -/
theorem Instant.ofSeconds?_mono {x y : ℝ} {i j : Instant} (h : x ≤ y)
    (hi : Instant.ofSeconds? x = .ok i) (hj : Instant.ofSeconds? y = .ok j) : i ≤ j := by
  rw [Instant.eq_of_ofSeconds? hi, Instant.eq_of_ofSeconds? hj, Instant.ofMillis_le_ofMillis_iff]
  apply Scalar.round_real_mono
  rw [Scalar.ofNat_real]
  push_cast
  linarith

/-- The same on a computer, where the product is rounded first. -/
theorem Instant.ofSeconds?_mono_float {x y : Float} {i j : Instant} (h : x ≤ y)
    (hi : Instant.ofSeconds? x = .ok i) (hj : Instant.ofSeconds? y = .ok j) : i ≤ j := by
  have hthousand : (Scalar.ofInt 1000 : Float).toModel.unpack =
      .finite .positive 8796093022208000 (-43) (by norm_num) := rfl
  obtain ⟨hx, hi, -⟩ := Instant.ofSeconds?_eq_ok_iff.1 hi
  obtain ⟨hy, hj, -⟩ := Instant.ofSeconds?_eq_ok_iff.1 hj
  rw [hi, hj, Instant.ofMillis_le_ofMillis_iff]
  exact Binary.roundFloat_mul_mono hthousand (by norm_num) hx hy h

/-- A speed is not negative if no time is gone back. -/
theorem Fix.speedTo_nonneg {a b : Fix ℝ} (h : a.time ≤ b.time) : 0 ≤ a.speedTo b := by
  have hhours : 0 ≤ (b.time - a.time) / (@OfNat.ofNat ℝ 3600 Scalar.instOfNat) := by
    rw [Scalar.ofNat_real]
    exact div_nonneg (sub_nonneg.2 h) (by norm_num)
  rw [speedTo]
  split
  · rw [Scalar.ofNat_real, Nat.cast_zero]
  · have hdistance := isDistance_real.1 (Place.isDistance_distance a.place b.place)
    rw [nauticalMiles, metersPerMile, Scalar.ofInt_real]
    exact div_nonneg (div_nonneg hdistance hhours) (by norm_num)

namespace Track

theorem forall_mem_adjacentMoves {α : Type} [Scalar α] {w : Window (Report α)}
    {p : Fix α × Fix α → Prop}
    (hpast : ∀ r, w.past.getLast? = some r → p (r.fix, w.current.fix))
    (hfuture : ∀ r, w.future.head? = some r → p (w.current.fix, r.fix)) :
    ∀ move ∈ adjacentMoves w, p move := by
  intro move hmove
  rcases List.mem_append.1 hmove with hmove | hmove
  · obtain ⟨before, hbefore, rfl⟩ := Option.map_eq_some_iff.1 (Option.mem_toList.1 hmove)
    exact hpast before hbefore
  · obtain ⟨next, hnext, rfl⟩ := Option.map_eq_some_iff.1 (Option.mem_toList.1 hmove)
    exact hfuture next hnext

/-- Next to each other, reports in the order of time are so as well. -/
theorem le_of_mem_adjacentMoves {reports : List (Report ℝ)} {w : Window (Report ℝ)}
    (horder : reports.Pairwise fun r s => r.fix.time ≤ s.fix.time)
    (hw : w ∈ windows pastReports futureReports reports) :
    ∀ move ∈ adjacentMoves w, move.1.time ≤ move.2.time := by
  obtain ⟨hpast, hfuture⟩ := mem_windows hw
  refine forall_mem_adjacentMoves (fun before hbefore => ?_) fun next hnext => ?_
  · have hpair := horder.sublist (hpast before hbefore)
    exact (List.pairwise_cons.1 hpair).1 _ (List.mem_singleton_self _)
  · have hpair := horder.sublist (hfuture next hnext)
    exact (List.pairwise_cons.1 hpair).1 _ (List.mem_singleton_self _)

/-- The mean of speeds that are not negative is none that is. -/
theorem isSpeed_replacedSog {w : Window (Report ℝ)}
    (h : ∀ move ∈ adjacentMoves w, move.1.time ≤ move.2.time) : IsSpeed (replacedSog w) := by
  have hspeeds : ∀ x ∈ (adjacentMoves w).map fun (a, b) => a.speedTo b, 0 ≤ x := by
    intro x hx
    obtain ⟨move, hmove, rfl⟩ := List.mem_map.1 hx
    exact Fix.speedTo_nonneg (h move hmove)
  rw [isSpeed_real]
  unfold replacedSog
  split
  · rw [Scalar.ofNat_real, Nat.cast_zero]
  · rw [Scalar.least_real, Fix.meanOf, Scalar.sum_real, Scalar.ofInt_real, speedLimit,
      Scalar.ofInt_real]
    refine le_min (div_nonneg (List.sum_nonneg hspeeds) ?_) (by norm_num)
    exact Int.cast_nonneg (Int.natCast_nonneg _)

/-- A replaced course is a bearing if moves have bearings and these have means. -/
theorem isBearing_replacedCog_of_moves {α : Type} [Scalar α] {w : Window (Report α)}
    (hmoves : ∀ move ∈ adjacentMoves w, IsBearing (move.1.place.bearing move.2.place))
    (hmean : ∀ b c : α, IsBearing b → IsBearing c → IsBearing (averageBearing b c)) :
    IsBearing (replacedCog w) := by
  unfold replacedCog
  split
  · next bearing hbearings =>
    have hall : ∀ x ∈ [bearing], IsBearing x := by
      rw [← hbearings]
      exact List.forall_mem_map.2 hmoves
    exact hall _ (List.mem_singleton_self _)
  · next before after hbearings =>
    have hall : ∀ x ∈ [before, after], IsBearing x := by
      rw [← hbearings]
      exact List.forall_mem_map.2 hmoves
    exact hmean _ _ (hall _ List.mem_cons_self)
      (hall _ (List.mem_cons_of_mem _ (List.mem_singleton_self _)))
  · exact ⟨Scalar.zero_le_zero, Scalar.zero_lt_turn⟩

theorem isBearing_replacedCog (w : Window (Report ℝ)) : IsBearing (replacedCog w) :=
  isBearing_replacedCog_of_moves (fun _ _ => Place.isBearing_bearing _ _)
    fun _ _ => isBearing_averageBearing

end Track

end ShipEmissions
