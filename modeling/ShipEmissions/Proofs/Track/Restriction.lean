import ShipEmissions.Proofs.Track.Runs

/-!
# Restricting a track to a period

Positions are in the order of time, so the slice that is the part of a track in a period holds
exactly the positions in the period and the segments with both ends in it.

* `takeWhile_eq_filter`, `drop_findIdx_eq_filter`: cutting an ordered list is filtering it.
* `Track.between?_eq_ok_iff_filter`: the part as a filter of positions and of segments.
* `Track.between?_between?`: a part of a part is the part in the time that both periods share.
* `Track.between?_exact`: all of this about the part in a period that is not reversed.
-/

namespace ShipEmissions

/-! ## Cutting ordered lists -/

section Cutting

variable {β : Type} {p : β → Bool} {l : List β}

/-- Where the test fails for all that comes after a failure, the front that passes is all that
passes. -/
theorem takeWhile_eq_filter (h : l.Pairwise fun x y => p y = true → p x = true) :
    l.takeWhile p = l.filter p := by
  induction l with
  | nil => rfl
  | cons x l ih =>
    obtain ⟨hx, hl⟩ := List.pairwise_cons.1 h
    by_cases hp : p x = true
    · rw [List.takeWhile_cons_of_pos hp, List.filter_cons_of_pos hp, ih hl]
    · rw [List.takeWhile_cons_of_neg hp, List.filter_cons_of_neg hp, eq_comm,
        List.filter_eq_nil_iff]
      exact fun y hy hpy => hp (hx y hy hpy)

/-- Where the test passes for all that comes after a success, what is left from the first success on
is all that passes. -/
theorem drop_findIdx_eq_filter (h : l.Pairwise fun x y => p x = true → p y = true) :
    l.drop (l.findIdx p) = l.filter p := by
  induction l with
  | nil => rfl
  | cons x l ih =>
    obtain ⟨hx, hl⟩ := List.pairwise_cons.1 h
    rw [List.findIdx_cons]
    by_cases hp : p x = true
    · rw [hp, List.filter_cons_of_pos hp, cond_true, List.drop_zero,
        List.filter_eq_self.2 fun y hy => hx y hy hp]
    · rw [Bool.not_eq_true] at hp
      rw [hp, List.filter_cons_of_neg (by simp [hp]), cond_false, List.drop_succ_cons, ih hl]

end Cutting

/-! ## Periods -/

namespace Instant

instance : LinearOrder Instant where
  le_refl := le_refl
  le_trans _ _ _ := le_trans
  le_antisymm _ _ := le_antisymm
  lt_iff_le_not_ge a b := lt_iff_le_not_ge (a := a.nanos) (b := b.nanos)
  le_total a b := le_total a.nanos b.nanos
  toDecidableLE := inferInstance

/-- An instant lies in a period, the ends included. -/
def Within (t start stop : Instant) : Prop := start ≤ t ∧ t ≤ stop

instance (t start stop : Instant) : Decidable (t.Within start stop) :=
  inferInstanceAs (Decidable (_ ∧ _))

/-- What lies in two periods lies in the time that they share. -/
theorem within_and_within_iff {t a b c d : Instant} :
    t.Within a b ∧ t.Within c d ↔ t.Within (max a c) (min b d) := by
  simp only [Within, max_le_iff, le_min_iff]
  tauto

theorem Within.le {t start stop : Instant} (h : t.Within start stop) : start ≤ stop :=
  h.1.trans h.2

end Instant

variable {α : Type} [Scalar α] {origin : Position α} {legs : List (Leg α)}

/-! ## Segments and what is known of them -/

namespace Leg

/-- The segments that legs are, each with its length if that is known. -/
def ways (start : Position α) (legs : List (Leg α)) (h : Forward start legs) :
    List (Segment α × Option (Distance α)) := (segments start legs h).zip (legs.map known)

theorem ways_congr {legs' : List (Leg α)} (h : legs = legs') (forward : Forward origin legs)
    (forward' : Forward origin legs') : ways origin legs forward = ways origin legs' forward' := by
  cases h
  rfl

theorem ways_cons {leg : Leg α} (h : origin.instant ≤ leg.stop.instant)
    (hlegs : Forward leg.stop legs) (forward : Forward origin (leg :: legs)) :
    ways origin (leg :: legs) forward =
      (leg.segment origin h, leg.known) :: ways leg.stop legs hlegs := rfl

theorem le_of_mem_ways (forward : Forward origin legs) {way : Segment α × Option (Distance α)}
    (h : way ∈ ways origin legs forward) : origin.instant ≤ way.1.start.instant :=
  (mem_of_mem_segments forward (List.of_mem_zip h).1).1

/-- Up to an instant there are the segments that end by then. -/
theorem ways_upTo (stop : Instant) (forward : Forward origin legs) :
    ways origin (upTo stop legs) (forward.upTo stop) =
      (ways origin legs forward).filter fun way => decide (way.1.stop.instant ≤ stop) := by
  induction legs generalizing origin with
  | nil => rfl
  | cons leg legs ih =>
    have hleg : origin.instant ≤ leg.stop.instant := forward.1
    have hlegs : Forward leg.stop legs := forward.2
    by_cases h : leg.stop.instant ≤ stop
    · have hkept : Forward origin (leg :: upTo stop legs) := ⟨hleg, hlegs.upTo stop⟩
      rw [ways_congr (upTo_cons_of_le h legs) _ hkept, ways_cons hleg (hlegs.upTo stop),
        ways_cons hleg hlegs, ih hlegs, List.filter_cons]
      exact (if_pos (decide_eq_true h)).symm
    · rw [ways_congr (upTo_cons_of_not_le h legs) _ trivial, eq_comm]
      refine List.filter_eq_nil_iff.2 fun way hway hstop => h ?_
      -- the first leg ends too late, and no other segment starts before that
      rcases List.mem_cons.1 hway with rfl | hway
      · exact of_decide_eq_true hstop
      · exact (le_of_mem_ways hlegs hway).trans
          (way.1.start_le_stop.trans (of_decide_eq_true hstop))

end Leg

namespace Track

variable {t t' : Track α}

/-- The segments, each with its length if that is known. -/
def ways (t : Track α) : List (Segment α × Option (Distance α)) :=
  t.segments.zip t.knownDistances

theorem map_fst_ways (t : Track α) : t.ways.map Prod.fst = t.segments :=
  List.map_fst_zip (by rw [length_segments, length_knownDistances])

theorem map_snd_ways (t : Track α) : t.ways.map Prod.snd = t.knownDistances :=
  List.map_snd_zip (by rw [length_segments, length_knownDistances])

/-- A track is its positions and its segments with what is known of them. -/
theorem ext_ways (hpositions : t.positions = t'.positions) (hways : t.ways = t'.ways) : t = t' :=
  ext_lists hpositions (by rw [← map_snd_ways, hways, map_snd_ways])

theorem ways_upTo (stop : Instant) (t : Track α) :
    (t.upTo stop).ways = t.ways.filter fun way => decide (way.1.stop.instant ≤ stop) := by
  cases t with
  | empty => rfl
  | voyage origin legs forward =>
    by_cases h : origin.instant ≤ stop
    · rw [upTo, if_pos h]
      exact Leg.ways_upTo stop forward
    · rw [upTo, if_neg h, eq_comm]
      refine List.filter_eq_nil_iff.2 fun way hway hstop => h ?_
      exact (Leg.le_of_mem_ways forward hway).trans
        (way.1.start_le_stop.trans (of_decide_eq_true hstop))

/-- From an instant on there are the segments that start no earlier. -/
theorem ways_since (start : Instant) (forward : Forward origin legs) :
    (since start origin legs forward).ways =
      (Leg.ways origin legs forward).filter fun way => decide (start ≤ way.1.start.instant) := by
  induction legs generalizing origin with
  | nil =>
    rw [since]
    split <;> rfl
  | cons leg legs ih =>
    have hleg : origin.instant ≤ leg.stop.instant := forward.1
    have hlegs : Forward leg.stop legs := forward.2
    by_cases h : start ≤ origin.instant
    · rw [since_of_le forward h, eq_comm]
      exact List.filter_eq_self.2 fun way hway =>
        decide_eq_true (h.trans (Leg.le_of_mem_ways forward hway))
    · rw [since_cons_of_not_le forward h, ih hlegs, Leg.ways_cons hleg hlegs, List.filter_cons]
      exact (if_neg fun hstart => h (of_decide_eq_true hstart)).symm

/-! ## Parts -/

/-- The positions of a part are those in the period. -/
theorem slice_eq_filter (start stop : Instant) (t : Track α) :
    ((t.positions.drop (startIndex start t.positions)).takeWhile
        fun p => decide (p.instant ≤ stop)) =
      t.positions.filter fun p => decide (p.instant.Within start stop) := by
  have hsorted := t.pairwise_positions
  rw [startIndex, drop_findIdx_eq_filter, takeWhile_eq_filter, List.filter_filter]
  · refine List.filter_congr fun p _ => ?_
    rw [← Bool.decide_and]
    exact decide_eq_decide.2 and_comm
  · exact (hsorted.sublist List.filter_sublist).imp fun hpq hq => by
      simpa using hpq.trans (of_decide_eq_true hq)
  · exact hsorted.imp fun hpq hp => by simpa using (of_decide_eq_true hp).trans hpq

/-- The part is what lies in the period, of the positions and of the segments. -/
theorem between?_eq_ok_iff_filter {start stop : Instant} :
    t.between? start stop = .ok t' ↔ start ≤ stop ∧
      (t'.positions = t.positions.filter fun p => decide (p.instant.Within start stop)) ∧
      t'.ways = t.ways.filter fun way => decide
        (way.1.start.instant.Within start stop ∧ way.1.stop.instant.Within start stop) := by
  have hok : start ≤ stop → ∃ part, t.between? start stop = .ok part ∧
      (part.positions = t.positions.filter fun p => decide (p.instant.Within start stop)) ∧
      part.ways = t.ways.filter fun way => decide
        (way.1.start.instant.Within start stop ∧ way.1.stop.instant.Within start stop) := by
    intro h
    obtain ⟨part, hpart, hpositions, -⟩ := exists_between h t
    refine ⟨part, hpart, hpositions.trans (slice_eq_filter start stop t), ?_⟩
    cases t with
    | empty =>
      cases (if_neg (not_lt.2 h)).symm.trans hpart
      rfl
    | voyage origin legs forward =>
      cases (if_neg (not_lt.2 h)).symm.trans hpart
      rw [ways_upTo, ways_since, List.filter_filter]
      refine List.filter_congr fun way _ => ?_
      have hle := way.1.start_le_stop
      rw [← Bool.decide_and]
      refine decide_eq_decide.2 ⟨fun h => ?_, fun h => ⟨h.2.2, h.1.1⟩⟩
      exact ⟨⟨h.2, hle.trans h.1⟩, h.2.trans hle, h.1⟩
  constructor
  · intro h
    have hle : start ≤ stop := (between?_eq_ok_iff.1 h).1
    obtain ⟨part, hpart, hfilters⟩ := hok hle
    cases h.symm.trans hpart
    exact ⟨hle, hfilters⟩
  · rintro ⟨hle, hpositions, hways⟩
    obtain ⟨part, hpart, hpositions', hways'⟩ := hok hle
    rw [hpart, ext_ways (hpositions'.trans hpositions.symm) (hways'.trans hways.symm)]

/-- A part of a part is the part in the time that both periods share. -/
theorem between?_between? {a b c d : Instant} (h : t.between? a b = .ok t') (hcd : c ≤ d) :
    t'.between? c d = if max a c ≤ min b d then t.between? (max a c) (min b d) else .ok .empty := by
  obtain ⟨-, hpositions, hways⟩ := between?_eq_ok_iff_filter.1 h
  split
  · next hle =>
    obtain ⟨part, hpart, -⟩ := exists_between hle t
    obtain ⟨-, hpositions', hways'⟩ := between?_eq_ok_iff_filter.1 hpart
    rw [hpart, between?_eq_ok_iff_filter, hpositions, hways, List.filter_filter,
      List.filter_filter, hpositions', hways']
    refine ⟨hcd, List.filter_congr fun p _ => ?_, List.filter_congr fun way _ => ?_⟩
    · rw [← Bool.decide_and, decide_eq_decide, ← Instant.within_and_within_iff, and_comm]
    · rw [← Bool.decide_and, decide_eq_decide, ← Instant.within_and_within_iff,
        ← Instant.within_and_within_iff]
      tauto
  · next hle =>
    -- nothing lies in both periods
    have hnone : ∀ t : Instant, t.Within a b → ¬t.Within c d := fun t hab hcd =>
      hle (Instant.within_and_within_iff.1 ⟨hab, hcd⟩).le
    rw [between?_eq_ok_iff_filter, hpositions, hways]
    refine ⟨hcd, ?_, ?_⟩
    · refine (List.filter_eq_nil_iff.2 fun p hp hin => ?_).symm
      exact hnone _ (of_decide_eq_true (List.mem_filter.1 hp).2) (of_decide_eq_true hin)
    · refine (List.filter_eq_nil_iff.2 fun way hway hin => ?_).symm
      exact hnone _ (of_decide_eq_true (List.mem_filter.1 hway).2).1 (of_decide_eq_true hin).1

/-- The first position that is not before an instant stands no further than there are known
lengths. -/
theorem startIndex_le {start : Instant} (h : startIndex start t.positions < t.positions.length) :
    startIndex start t.positions ≤ t.knownDistances.length := by
  rw [length_knownDistances]
  omega

/-- Every track has a part in every period that is not reversed. The slices of positions and of
known lengths start within both lists, and what they hold is exact: the positions in the period, and
the segments with both ends in the period, with the same lengths, known or not. The part fits
together as the track does, and a part of it is the part of the track in the time that both periods
share, or empty if they share none. -/
theorem between?_exact {a b : Instant} (h : a ≤ b) (t : Track α) :
    ∃ part, t.between? a b = .ok part ∧
      (startIndex a t.positions < t.positions.length →
        startIndex a t.positions ≤ t.knownDistances.length) ∧
      part.positions = (t.positions.drop (startIndex a t.positions)).takeWhile
        (fun p => decide (p.instant ≤ b)) ∧
      part.knownDistances = (t.knownDistances.drop (startIndex a t.positions)).take
        (part.positions.length - 1) ∧
      (part.positions = t.positions.filter fun p => decide (p.instant.Within a b)) ∧
      (part.segments = t.segments.filter fun s =>
        decide (s.start.instant.Within a b ∧ s.stop.instant.Within a b)) ∧
      (part.segments.zip part.knownDistances = (t.segments.zip t.knownDistances).filter fun way =>
        decide (way.1.start.instant.Within a b ∧ way.1.stop.instant.Within a b)) ∧
      ((∀ p q : Position α, IsDistance (p.place.distance q.place)) → FitsTogether part) ∧
      ∀ c d, c ≤ d → part.between? c d =
        if max a c ≤ min b d then t.between? (max a c) (min b d) else .ok .empty := by
  obtain ⟨part, hpart, hpositions, hknown⟩ := exists_between h t
  obtain ⟨-, hfilter, hways⟩ := between?_eq_ok_iff_filter.1 hpart
  refine ⟨part, hpart, startIndex_le, hpositions, hknown, hfilter, ?_, hways,
    fun hdistance => fitsTogether hdistance part, fun c d hcd => between?_between? hpart hcd⟩
  rw [← map_fst_ways, hways, ← map_fst_ways, List.filter_map]
  rfl

/-- Four positions at anchor, two of them at the same instant. The leg between these two has a known
length. -/
noncomputable def swinging : Track ℝ :=
  voyage (anchored 0)
    [⟨none, anchored 1000⟩, ⟨some ⟨42, show IsDistance (42 : ℝ) by norm_num⟩, anchored 1000⟩,
      ⟨none, anchored 3000⟩]
    ⟨by decide, by decide, by decide, trivial⟩

/-- The part in the second second has both positions that are at its start, and the leg between them
with its length. From the half of that second on there is nothing of it. -/
theorem between?_exact_swinging : ∃ part,
    swinging.between? (.ofMillis 1000) (.ofMillis 2000) = .ok part ∧
    part.positions = [anchored 1000, anchored 1000] ∧
    part.segments.map Segment.distance = [42] ∧ FitsTogether part ∧
    part.between? (.ofMillis 1500) (.ofMillis 5000) = .ok .empty := by
  obtain ⟨part, hpart, -, -, -, hpositions, hsegments, -, hfits, hparts⟩ :=
    between?_exact (show Instant.ofMillis 1000 ≤ .ofMillis 2000 by decide) swinging
  refine ⟨part, hpart, hpositions.trans rfl, ?_,
    hfits fun p q => Place.isDistance_distance p.place q.place, ?_⟩
  · rw [hsegments]
    rfl
  · rw [hparts (.ofMillis 1500) (.ofMillis 5000) (by decide), if_pos (by decide)]
    rfl

end Track

end ShipEmissions
