import Mathlib
import ShipEmissions.Proofs.Outcome
import ShipEmissions.Track.Basic

/-!
# What a track shows

A track shows two lists, its positions and the known lengths of its legs, and what follows from
them: its segments and its duration. A track is these two lists, and every change is an edit of each
of them.

* `Forward.pairwise`: positions are in the order of time, also those far apart.
* `Track.getElem?_segments_iff`: a segment is read off the two positions around it and the length
  known between them.
* `Track.duration_eq`: the time that a track takes is that from its first to its last position.
* `Track.append?_eq_ok_iff`, `Track.setDistance?_eq_ok_iff`: when a change succeeds, and what the
  two lists are then.
-/

namespace ShipEmissions

/-! ## Checked numbers -/

/-- A check that keeps the number gives nothing but that number. -/
theorem check_eq_ok_iff {α : Type} {P : α → Prop} [DecidablePred P] {x : α} {e : Fault α}
    {v : {x // P x}} :
    (if h : P x then Except.ok (⟨x, h⟩ : {x // P x}) else .error e) = .ok v ↔ v.val = x := by
  constructor
  · intro h
    split at h
    · cases h
      rfl
    · cases h
  · rintro rfl
    exact dif_pos v.property

variable {α : Type} [Scalar α]

theorem Distance.of?_eq_ok_iff {x : α} {distance : Distance α} :
    Distance.of? x = .ok distance ↔ distance.val = x := check_eq_ok_iff

/-! ## Instants and durations -/

namespace Instant

theorem le_refl (a : Instant) : a ≤ a := Int.le_refl a.nanos

theorem le_trans {a b c : Instant} (hab : a ≤ b) (hbc : b ≤ c) : a ≤ c := Int.le_trans hab hbc

theorem le_antisymm {a b : Instant} (hab : a ≤ b) (hba : b ≤ a) : a = b := by
  cases a
  cases b
  exact congrArg Instant.mk (Int.le_antisymm hab hba)

end Instant

namespace Duration

theorem ext_nanos {d e : Duration} (h : d.nanos = e.nanos) : d = e := by
  cases d
  cases e
  exact congrArg Duration.mk h

theorem nanos_timeTo (a b : Instant) : (a.timeTo b).nanos = b.nanos - a.nanos := rfl

theorem nanos_foldl_add (ds : List Duration) (d : Duration) :
    (ds.foldl (· + ·) d).nanos = d.nanos + (ds.map nanos).sum := by
  induction ds generalizing d with
  | nil => exact (Int.add_zero d.nanos).symm
  | cons e ds ih =>
    rw [List.foldl_cons, ih, List.map_cons, List.sum_cons, ← Int.add_assoc]
    rfl

end Duration

/-! ## Segments -/

namespace Segment

/-- No segment takes a negative time. -/
theorem nanos_duration_nonneg (s : Segment α) : 0 ≤ s.duration.nanos :=
  Int.sub_nonneg_of_le s.start_le_stop

/-- The length of the way between two positions, where it may be known. -/
def lengthOf (p q : Position α) (known : Option (Distance α)) : α :=
  match known with
  | none => p.place.distance q.place
  | some distance => distance.val

/-- The segment is the one that is built from one position to another, with a length if one is
known. -/
def Joins (p q : Position α) (known : Option (Distance α)) (s : Segment α) : Prop :=
  match known with
  | none => between? p q = .ok s
  | some distance => withDistance? p q distance.val = .ok s

theorem withDistance?_eq_ok {p q : Position α} {x : α} (h : p.instant ≤ q.instant)
    (hx : IsDistance x) : withDistance? p q x = .ok ⟨p, q, x, h⟩ := by
  rw [withDistance?, dif_pos h, Distance.of?, dif_pos hx]
  rfl

theorem ext_ends {s u : Segment α} (hstart : s.start = u.start) (hstop : s.stop = u.stop)
    (hdistance : s.distance = u.distance) : s = u := by
  cases s
  cases u
  cases hstart
  cases hstop
  cases hdistance
  rfl

/-- A segment with the right ends and the right length would also be built from them. -/
theorem joins_mk {p q : Position α} (h : p.instant ≤ q.instant) (known : Option (Distance α))
    (hdistance : IsDistance (p.place.distance q.place)) :
    Joins p q known ⟨p, q, lengthOf p q known, h⟩ := by
  cases known with
  | none => exact withDistance?_eq_ok h hdistance
  | some distance => exact withDistance?_eq_ok h distance.property

end Segment

/-! ## Legs -/

namespace Forward

variable {start : Position α} {legs : List (Leg α)}

theorem le_of_mem (h : Forward start legs) {leg : Leg α} (hleg : leg ∈ legs) :
    start.instant ≤ leg.stop.instant := by
  induction legs generalizing start with
  | nil => cases hleg
  | cons first legs ih =>
    rcases List.mem_cons.1 hleg with rfl | hleg
    · exact h.1
    · exact Instant.le_trans h.1 (ih h.2 hleg)

theorem le_of_mem_positions (h : Forward start legs) {p : Position α}
    (hp : p ∈ start :: legs.map Leg.stop) : start.instant ≤ p.instant := by
  rcases List.mem_cons.1 hp with rfl | hp
  · exact Instant.le_refl _
  · obtain ⟨leg, hleg, rfl⟩ := List.mem_map.1 hp
    exact h.le_of_mem hleg

/-- No position is earlier than one that stands before it. -/
theorem pairwise (h : Forward start legs) :
    (start :: legs.map Leg.stop).Pairwise fun p q => p.instant ≤ q.instant := by
  induction legs generalizing start with
  | nil => exact List.pairwise_singleton _ _
  | cons leg legs ih =>
    refine List.pairwise_cons.2 ⟨?_, ih h.2⟩
    intro p hp
    exact h.le_of_mem_positions (List.mem_cons_of_mem start hp)

theorem of_append {leg : Leg α} (h : Forward start (legs ++ [leg])) :
    Forward start legs ∧ (Leg.last start legs).instant ≤ leg.stop.instant := by
  induction legs generalizing start with
  | nil => exact ⟨trivial, h.1⟩
  | cons first legs ih => exact ⟨⟨h.1, (ih h.2).1⟩, (ih h.2).2⟩

end Forward

namespace Leg

variable {start : Position α} {legs : List (Leg α)}

theorem length_segments (h : Forward start legs) :
    (segments start legs h).length = legs.length := by
  induction legs generalizing start with
  | nil => rfl
  | cons leg legs ih => exact congrArg (· + 1) (ih h.2)

theorem distance_segment {leg : Leg α} (h : start.instant ≤ leg.stop.instant) :
    (leg.segment start h).distance = Segment.lengthOf start leg.stop leg.known := by
  unfold segment Segment.lengthOf
  cases leg.known <;> rfl

/-- The segment at a place leads from the position there to the next. -/
theorem getElem?_segments_iff (h : Forward start legs) {i : ℕ} {s : Segment α} :
    (segments start legs h)[i]? = some s ↔
      ∃ length, (start :: legs.map stop)[i]? = some s.start ∧
        (start :: legs.map stop)[i + 1]? = some s.stop ∧ (legs.map known)[i]? = some length ∧
        s.distance = Segment.lengthOf s.start s.stop length := by
  induction legs generalizing start i with
  | nil => simp [segments]
  | cons leg legs ih =>
    cases i with
    | succ i => exact ih h.2
    | zero =>
      constructor
      · intro hs
        cases hs
        exact ⟨leg.known, rfl, rfl, rfl, distance_segment h.1⟩
      · rintro ⟨length, hstart, hstop, hlength, hdistance⟩
        have hstart := Option.some.inj hstart
        have hstop := Option.some.inj hstop
        cases hlength
        refine congrArg some (Segment.ext_ends hstart hstop ?_)
        rw [hdistance, ← hstart, ← hstop]
        exact distance_segment h.1

theorem getLast?_stops (start : Position α) (legs : List (Leg α)) :
    (start :: legs.map stop).getLast? = some (last start legs) := by
  induction legs generalizing start with
  | nil => rfl
  | cons leg legs ih =>
    rw [List.map_cons, List.getLast?_cons_cons]
    exact ih leg.stop

/-- The times of the segments add up to the time from the first to the last position. -/
theorem sum_nanos_segments (h : Forward start legs) :
    ((segments start legs h).map fun s => s.duration.nanos).sum =
      (start.instant.timeTo (last start legs).instant).nanos := by
  induction legs generalizing start with
  | nil => simp [segments, last, Duration.nanos_timeTo]
  | cons leg legs ih =>
    rw [segments, List.map_cons, List.sum_cons, ih, last]
    show (start.instant.timeTo leg.stop.instant).nanos + _ = _
    simp only [Duration.nanos_timeTo]
    omega

/-! ### Changes of legs -/

theorem map_stop_setDistance (distance : Distance α) (i : ℕ) (legs : List (Leg α)) :
    (setDistance distance i legs).map stop = legs.map stop := by
  induction legs generalizing i with
  | nil => cases i <;> rfl
  | cons leg legs ih =>
    cases i with
    | zero => rfl
    | succ i => exact congrArg (leg.stop :: ·) (ih i)

theorem map_known_setDistance (distance : Distance α) (i : ℕ) (legs : List (Leg α)) :
    (setDistance distance i legs).map known = (legs.map known).set i (some distance) := by
  induction legs generalizing i with
  | nil => cases i <;> rfl
  | cons leg legs ih =>
    cases i with
    | zero => rfl
    | succ i => exact congrArg (leg.known :: ·) (ih i)

theorem ext_lists {legs' : List (Leg α)} (hstop : legs.map stop = legs'.map stop)
    (hknown : legs.map known = legs'.map known) : legs = legs' := by
  induction legs generalizing legs' with
  | nil => exact (List.map_eq_nil_iff.1 hstop.symm).symm
  | cons leg legs ih =>
    cases legs' with
    | nil => cases hstop
    | cons leg' legs' =>
      obtain ⟨hstop, hstops⟩ := List.cons.inj hstop
      obtain ⟨hknown, hknowns⟩ := List.cons.inj hknown
      cases leg
      cases leg'
      cases hstop
      cases hknown
      rw [ih hstops hknowns]

end Leg

/-! ## Tracks -/

namespace Track

variable {t t' : Track α}

/-- A track is its positions and the known lengths of its legs. -/
theorem ext_lists (hpositions : t.positions = t'.positions)
    (hknown : t.knownDistances = t'.knownDistances) : t = t' := by
  cases t with
  | empty =>
    cases t' with
    | empty => rfl
    | voyage origin legs forward => cases hpositions
  | voyage origin legs forward =>
    cases t' with
    | empty => cases hpositions
    | voyage origin' legs' forward' =>
      obtain ⟨rfl, hstops⟩ := List.cons.inj hpositions
      cases Leg.ext_lists hstops hknown
      rfl

theorem pairwise_positions (t : Track α) :
    t.positions.Pairwise fun p q => p.instant ≤ q.instant := by
  cases t with
  | empty => exact List.Pairwise.nil
  | voyage origin legs forward => exact forward.pairwise

theorem length_knownDistances (t : Track α) :
    t.knownDistances.length = t.positions.length - 1 := by
  cases t with
  | empty => rfl
  | voyage origin legs forward => simp [knownDistances, positions]

theorem length_segments (t : Track α) : t.segments.length = t.positions.length - 1 := by
  cases t with
  | empty => rfl
  | voyage origin legs forward => simp [segments, positions, Leg.length_segments]

/-- A segment is read off the two positions around it and the length known between them. -/
theorem getElem?_segments_iff {i : ℕ} {s : Segment α} :
    t.segments[i]? = some s ↔
      ∃ length, t.positions[i]? = some s.start ∧ t.positions[i + 1]? = some s.stop ∧
        t.knownDistances[i]? = some length ∧
        s.distance = Segment.lengthOf s.start s.stop length := by
  cases t with
  | empty => simp [segments, positions]
  | voyage origin legs forward => exact Leg.getElem?_segments_iff forward

theorem nanos_duration (t : Track α) :
    t.duration.nanos = (t.segments.map fun s => s.duration.nanos).sum := by
  rw [duration, Duration.nanos_foldl_add, List.map_map]
  exact Int.zero_add _

/-- No track takes a negative time. -/
theorem nanos_duration_nonneg (t : Track α) : 0 ≤ t.duration.nanos := by
  rw [nanos_duration]
  refine List.sum_nonneg ?_
  intro n hn
  obtain ⟨s, -, rfl⟩ := List.mem_map.1 hn
  exact s.nanos_duration_nonneg

/-- The time that a track takes is that from its first to its last position. -/
theorem duration_eq {p q : Position α} (hp : t.positions.head? = some p)
    (hq : t.positions.getLast? = some q) : t.duration = p.instant.timeTo q.instant := by
  cases t with
  | empty => cases hp
  | voyage origin legs forward =>
    obtain rfl := Option.some.inj hp
    obtain rfl := Option.some.inj ((Leg.getLast?_stops origin legs).symm.trans hq)
    apply Duration.ext_nanos
    rw [nanos_duration]
    exact Leg.sum_nanos_segments forward

/-! ## Changes -/

/-- A position is added iff it is not earlier than the last. -/
theorem append?_eq_ok_iff {p : Position α} :
    t.append? p = .ok t' ↔
      (∀ q, t.positions.getLast? = some q → q.instant ≤ p.instant) ∧
        t'.positions = t.positions ++ [p] ∧
        t'.knownDistances = t.knownDistances ++ if t.positions.isEmpty then [] else [none] := by
  cases t with
  | empty =>
    constructor
    · intro h
      cases h
      exact ⟨fun q hq => (by cases hq), rfl, rfl⟩
    · rintro ⟨-, hpositions, hknown⟩
      exact congrArg Except.ok (ext_lists hpositions.symm hknown.symm)
  | voyage origin legs forward =>
    have hlast : (voyage origin legs forward).positions.getLast? = some (Leg.last origin legs) :=
      Leg.getLast?_stops origin legs
    rw [append?, hlast]
    constructor
    · intro h
      split at h
      · next hle =>
        cases h
        refine ⟨?_, ?_, ?_⟩
        · intro q hq
          cases hq
          exact hle
        · simp [positions]
        · simp [knownDistances, positions]
      · cases h
    · rintro ⟨hlater, hpositions, hknown⟩
      rw [dif_pos (hlater _ rfl)]
      refine congrArg Except.ok (ext_lists ?_ ?_)
      · rw [hpositions]
        simp [positions]
      · rw [hknown]
        simp [knownDistances, positions]

theorem exists_append? {p : Position α}
    (h : ∀ q, t.positions.getLast? = some q → q.instant ≤ p.instant) :
    ∃ t', t.append? p = .ok t' := by
  cases t with
  | empty => exact ⟨_, rfl⟩
  | voyage origin legs forward => exact ⟨_, dif_pos (h _ (Leg.getLast?_stops origin legs))⟩

theorem lists_setDistance {origin : Position α} {legs : List (Leg α)}
    (forward : Forward origin legs) (distance : Distance α) (i : ℕ) :
    let changed := voyage origin (Leg.setDistance distance i legs) (forward.setDistance distance i)
    changed.positions = (voyage origin legs forward).positions ∧
      changed.knownDistances = (voyage origin legs forward).knownDistances.set i (some distance) :=
  ⟨congrArg (origin :: ·) (Leg.map_stop_setDistance distance i legs),
    Leg.map_known_setDistance distance i legs⟩

/-- The length of a leg is made known iff it is not negative and there is such a leg. -/
theorem setDistance?_eq_ok_iff {i : ℕ} {x : α} :
    t.setDistance? i x = .ok t' ↔
      ∃ distance : Distance α, distance.val = x ∧ i < t.knownDistances.length ∧
        t'.positions = t.positions ∧
        t'.knownDistances = t.knownDistances.set i (some distance) := by
  constructor
  · intro h
    obtain ⟨distance, hx, h⟩ := Outcome.bind_eq_ok.1 h
    refine ⟨distance, Distance.of?_eq_ok_iff.1 hx, ?_⟩
    cases t with
    | empty => cases h
    | voyage origin legs forward =>
      dsimp only at h
      split at h
      · next hi =>
        cases h
        exact ⟨by simpa [knownDistances] using hi, lists_setDistance forward distance i⟩
      · cases h
  · rintro ⟨distance, hx, hi, hpositions, hknown⟩
    refine Outcome.bind_eq_ok.2 ⟨distance, Distance.of?_eq_ok_iff.2 hx, ?_⟩
    cases t with
    | empty => cases hi
    | voyage origin legs forward =>
      have hi : i < legs.length := by simpa [knownDistances] using hi
      have hsame := lists_setDistance forward distance i
      refine (if_pos hi).trans (congrArg Except.ok (ext_lists ?_ ?_))
      · exact hsame.1.trans hpositions.symm
      · exact hsame.2.trans hknown.symm

end Track

end ShipEmissions
