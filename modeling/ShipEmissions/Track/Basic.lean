import ShipEmissions.Track.Segment

/-!
# Tracks

A track is a sequence of positions in the order of time, with a leg from each position to the next.
The length of a leg may be known; otherwise it is the great-circle distance.

* `Track.append?` adds a position at the end, `Track.setDistance?` makes the length of a leg known,
  `Track.setTide` gives a position another tide.
* `Track.between?` is the part of a track that lies in a period.
* `Track.segments` is what the emissions are computed from.
-/

namespace ShipEmissions

/-- The way to a position from the one before it. -/
structure Leg (α : Type) [Scalar α] where
  known : Option (Distance α)
  stop : Position α

/-- Whether legs that start at a position lead forward in time. -/
def Forward {α : Type} [Scalar α] : Position α → List (Leg α) → Prop
  | _, [] => True
  | start, leg :: legs => start.instant ≤ leg.stop.instant ∧ Forward leg.stop legs

/-- Positions in the order of time, with the legs between them. -/
inductive Track (α : Type) [Scalar α] where
  | empty
  | voyage (origin : Position α) (legs : List (Leg α)) (forward : Forward origin legs)

namespace Leg

variable {α : Type} [Scalar α]

/-- The segment that a leg is. -/
def segment (start : Position α) (leg : Leg α) (h : start.instant ≤ leg.stop.instant) :
    Segment α :=
  let distance :=
    match leg.known with
    | some distance => distance.val
    | none => start.place.distance leg.stop.place
  ⟨start, leg.stop, distance, h⟩

/-- The segments that legs are. -/
def segments : (start : Position α) → (legs : List (Leg α)) → Forward start legs → List (Segment α)
  | _, [], _ => []
  | start, leg :: legs, h => leg.segment start h.1 :: segments leg.stop legs h.2

/-- The position where legs end. -/
def last (start : Position α) : List (Leg α) → Position α
  | [] => start
  | leg :: legs => last leg.stop legs

/-- The legs with a known length of one of them. -/
def setDistance (distance : Distance α) : Nat → List (Leg α) → List (Leg α)
  | _, [] => []
  | 0, leg :: legs => { leg with known := some distance } :: legs
  | i + 1, leg :: legs => leg :: setDistance distance i legs

/-- The legs with another tide where one of them ends. -/
def setTide (tide : Tide α) : Nat → List (Leg α) → List (Leg α)
  | _, [] => []
  | 0, leg :: legs => { leg with stop := leg.stop.setTide tide } :: legs
  | i + 1, leg :: legs => leg :: setTide tide i legs

/-- The legs up to the first that ends behind an instant. -/
def upTo (stop : Instant) : List (Leg α) → List (Leg α)
  | [] => []
  | leg :: legs => if leg.stop.instant ≤ stop then leg :: upTo stop legs else []

end Leg

namespace Forward

variable {α : Type} [Scalar α]

theorem append {start : Position α} {legs : List (Leg α)} {leg : Leg α} (h : Forward start legs)
    (later : (Leg.last start legs).instant ≤ leg.stop.instant) : Forward start (legs ++ [leg]) := by
  induction legs generalizing start with
  | nil => exact ⟨later, trivial⟩
  | cons first legs ih => exact ⟨h.1, ih h.2 later⟩

theorem of_instant_eq {p q : Position α} {legs : List (Leg α)} (h : Forward p legs)
    (same : p.instant = q.instant) : Forward q legs := by
  cases legs with
  | nil => trivial
  | cons leg legs => exact ⟨same ▸ h.1, h.2⟩

theorem setDistance {start : Position α} {legs : List (Leg α)} (distance : Distance α) (i : Nat)
    (h : Forward start legs) : Forward start (Leg.setDistance distance i legs) := by
  induction legs generalizing start i with
  | nil => cases i <;> trivial
  | cons leg legs ih =>
    cases i with
    | zero => exact h
    | succ i => exact ⟨h.1, ih i h.2⟩

theorem setTide {start : Position α} {legs : List (Leg α)} (tide : Tide α) (i : Nat)
    (h : Forward start legs) : Forward start (Leg.setTide tide i legs) := by
  induction legs generalizing start i with
  | nil => cases i <;> trivial
  | cons leg legs ih =>
    cases i with
    | zero => exact ⟨h.1, h.2.of_instant_eq rfl⟩
    | succ i => exact ⟨h.1, ih i h.2⟩

theorem upTo {start : Position α} {legs : List (Leg α)} (stop : Instant)
    (h : Forward start legs) : Forward start (Leg.upTo stop legs) := by
  induction legs generalizing start with
  | nil => trivial
  | cons leg legs ih =>
    unfold Leg.upTo
    split
    · exact ⟨h.1, ih h.2⟩
    · trivial

end Forward

namespace Track

variable {α : Type} [Scalar α]

/-! ## What a track holds -/

/-- The positions in the order of time. -/
def positions : Track α → List (Position α)
  | .empty => []
  | .voyage origin legs _ => origin :: legs.map Leg.stop

/-- The segments in the order of time. -/
def segments : Track α → List (Segment α)
  | .empty => []
  | .voyage origin legs forward => Leg.segments origin legs forward

/-- The lengths of legs where they are known, in the order of time. -/
def knownDistances : Track α → List (Option (Distance α))
  | .empty => []
  | .voyage _ legs _ => legs.map Leg.known

/-- The length of a track in meters. -/
def distance (t : Track α) : α := Scalar.sum (t.segments.map Segment.distance)

/-- The time that a track takes. -/
def duration (t : Track α) : Duration :=
  (t.segments.map Segment.duration).foldl (· + ·) Duration.zero

/-- The time that a track takes, in hours. -/
def hours (t : Track α) : α := t.duration.hours

/-- Tracks are equal if their positions are, and the same legs have a known and equal length. -/
instance : BEq (Track α) where
  beq t u := t.positions == u.positions &&
    t.knownDistances.map (Option.map Subtype.val) == u.knownDistances.map (Option.map Subtype.val)

/-! ## Changing a track -/

/-- The track with a further position, which must not be earlier than the last. -/
def append? (t : Track α) (p : Position α) : Except (Fault α) (Track α) :=
  match t with
  | .empty => .ok (.voyage p [] trivial)
  | .voyage origin legs forward =>
    let last := Leg.last origin legs
    if h : last.instant ≤ p.instant then
      .ok (.voyage origin (legs ++ [⟨none, p⟩]) (forward.append h))
    else .error (.positionOlder p.instant last.instant)

/-- The track with a known length of a leg. The length is checked before the index. -/
def setDistance? (t : Track α) (i : Nat) (x : α) : Except (Fault α) (Track α) :=
  (Distance.of? x).bind fun distance =>
    match t with
    | .empty => .error (.noSegment i 0)
    | .voyage origin legs forward =>
      if i < legs.length then
        .ok (.voyage origin (Leg.setDistance distance i legs) (forward.setDistance distance i))
      else .error (.noSegment i (legs.length + 1))

/-- The track with another tide at one of its positions, if there is such a position. -/
def setTide (t : Track α) (i : Nat) (tide : Tide α) : Track α :=
  match t, i with
  | .empty, _ => .empty
  | .voyage origin legs forward, 0 =>
    .voyage (origin.setTide tide) legs (forward.of_instant_eq rfl)
  | .voyage origin legs forward, i + 1 =>
    .voyage origin (Leg.setTide tide i legs) (forward.setTide tide i)

/-- The track with another speed of the tide at a position; `none` without such a position. -/
def setTideFlow? (t : Track α) (i : Nat) (x : α) : Option (Except (Fault α) (Track α)) :=
  t.positions[i]?.map fun p => (p.tide.withFlow? x).map (t.setTide i)

/-- The track with another bearing of the tide at a position; `none` without such a position. -/
def setTideBearing? (t : Track α) (i : Nat) (x : α) : Option (Except (Fault α) (Track α)) :=
  t.positions[i]?.map fun p => (p.tide.withBearing? x).map (t.setTide i)

/-! ## Parts of a track -/

/-- The part of a track from an instant on. -/
def since (start : Instant) : (origin : Position α) → (legs : List (Leg α)) →
    Forward origin legs → Track α
  | origin, [], h => if start ≤ origin.instant then .voyage origin [] h else .empty
  | origin, leg :: legs, h =>
    if start ≤ origin.instant then .voyage origin (leg :: legs) h else since start leg.stop legs h.2

/-- The part of a track up to an instant. -/
def upTo (stop : Instant) : Track α → Track α
  | .empty => .empty
  | .voyage origin legs forward =>
    if origin.instant ≤ stop then .voyage origin (Leg.upTo stop legs) (forward.upTo stop)
    else .empty

/-- The part of a track in the period from `start` to `stop`, both included. -/
def between? (t : Track α) (start stop : Instant) : Except (Fault α) (Track α) :=
  if stop < start then .error .periodReversed
  else
    match t with
    | .empty => .ok .empty
    | .voyage origin legs forward => .ok ((since start origin legs forward).upTo stop)

end Track

end ShipEmissions
