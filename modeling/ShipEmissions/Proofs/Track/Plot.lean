import ShipEmissions.Proofs.Track.Equality
import ShipEmissions.Proofs.Track.Runs
import ShipEmissions.Track.Plot

/-!
# The speed through water of a plot

The one note of a plot holds a speed through water that was given as well as one that was worked
out, and it has to go whenever the tide changes. Positions have no such note: they know what was
given, and work out the rest each time. A plot answers as its position does, whatever is called in
whatever order.

* `Position.LastGiven`: a speed through water that was given last and still counts.
* `Position.givenBy_eq_some_iff`: it is the one that a position knows.
* `Plot.eq_of_refused`: a change in place that is refused does nothing.
* `Plot.Shows`: the invariant, with `Plot.run_stw`, `Plot.perform_change` for one call and
  `Plot.run_calls` for many.
* `Plot.stw_coherent`: which speed is read, that reading changes no later answer, and that refused
  changes leave everything as it was.
-/

namespace ShipEmissions

variable {α : Type} [Scalar α]

/-! ## Calls that go through -/

namespace Position

/-- Whether a call goes through: its numbers are speeds and bearings. -/
def Change.Takes : Change α → Prop
  | tideFlow x => IsSpeed x
  | tideBearing x => IsBearing x
  | tide flow bearing => IsSpeed flow ∧ IsBearing bearing
  | stw x => IsSpeed x

/-- Some calls give `x` as the speed through water, and behind that no call that gives another one
and no call that changes the tide goes through. -/
def LastGiven (changes : List (Change α)) (x : α) : Prop :=
  ∃ earlier later, changes = earlier ++ .stw x :: later ∧ IsSpeed x ∧
    ∀ change ∈ later, ¬change.Takes

variable {p : Position α} {change : Change α} {changes : List (Change α)}

theorem exists_result?_iff : (∃ p', change.result? p = .ok p') ↔ change.Takes := by
  cases change with
  | tideFlow x =>
    by_cases hx : IsSpeed x <;>
      simp [Change.result?, Change.Takes, setTideFlow?, Tide.withFlow?, Speed.of?, hx, Except.map]
  | tideBearing x =>
    by_cases hx : IsBearing x <;>
      simp [Change.result?, Change.Takes, setTideBearing?, Tide.withBearing?, Bearing.of?, hx,
        Except.map]
  | tide flow bearing =>
    by_cases hflow : IsSpeed flow <;> by_cases hbearing : IsBearing bearing <;>
      simp [Change.result?, Change.Takes, withTide?, Tide.of?, Speed.of?, Bearing.of?, hflow,
        hbearing, Except.map, bind, Except.bind, pure, Except.pure]
  | stw x =>
    by_cases hx : IsSpeed x <;>
      simp [Change.result?, Change.Takes, withStw?, Speed.of?, hx, Except.map]

theorem given_eq_some_iff {before : Option α} {x : α} :
    change.given before = some x ↔
      change = .stw x ∧ change.Takes ∨ ¬change.Takes ∧ before = some x := by
  cases change with
  | tideFlow y => by_cases hy : IsSpeed y <;> simp [Change.given, Change.Takes, hy]
  | tideBearing y => by_cases hy : IsBearing y <;> simp [Change.given, Change.Takes, hy]
  | tide flow bearing =>
    by_cases h : IsSpeed flow ∧ IsBearing bearing <;> simp [Change.given, Change.Takes, h]
  | stw y => by_cases hy : IsSpeed y <;> simp [Change.given, Change.Takes, hy]

theorem lastGiven_concat {x : α} :
    LastGiven (changes ++ [change]) x ↔
      change = .stw x ∧ change.Takes ∨ ¬change.Takes ∧ LastGiven changes x := by
  constructor
  · rintro ⟨earlier, later, h, hx, hlater⟩
    rcases List.eq_nil_or_concat later with rfl | ⟨later', last, rfl⟩
    · obtain ⟨-, hlast⟩ := List.append_inj' h rfl
      obtain rfl : change = .stw x := List.singleton_inj.1 hlast
      exact .inl ⟨rfl, hx⟩
    · have h' : changes ++ [change] = (earlier ++ .stw x :: later') ++ [last] := by simpa using h
      obtain ⟨hchanges, hlast⟩ := List.append_inj' h' rfl
      obtain rfl := List.singleton_inj.1 hlast
      have hrefused : ¬change.Takes := hlater change (by simp)
      exact .inr ⟨hrefused, earlier, later', hchanges, hx, fun c hc => hlater c (by simp [hc])⟩
  · rintro (⟨rfl, hx⟩ | ⟨hrefused, earlier, later, rfl, hx, hlater⟩)
    · exact ⟨changes, [], rfl, hx, by simp⟩
    · refine ⟨earlier, later ++ [change], by simp, hx, fun c hc => ?_⟩
      rcases List.mem_append.1 hc with hc | hc
      · exact hlater c hc
      · rwa [List.mem_singleton.1 hc]

/-- What calls leave known is what the last of them that went through has given. -/
theorem givenBy_eq_some_iff {x : α} : givenBy changes = some x ↔ LastGiven changes x := by
  induction changes using List.reverseRecOn with
  | nil => simp [givenBy, LastGiven]
  | append_singleton changes change ih =>
    have hstep : givenBy (changes ++ [change]) = change.given (givenBy changes) := by
      simp [givenBy]
    rw [hstep, given_eq_some_iff, lastGiven_concat, ih]

end Position

/-! ## Calls on a plot -/

namespace Plot

open Edit
open Position (Change LastGiven Built givenBy givenBy_eq_some_iff)

/-- A call on a plot: one that changes it, or one that reads its speed through water. -/
inductive Call (α : Type) where
  | change (change : Change α)
  | read

/-- What a call answers. -/
inductive Reply (α : Type) where
  | done
  | refused (fault : Fault α)
  | speed (x : α)

/-- The answer to a change with this outcome. -/
def Reply.ofOutcome {β : Type} : Except (Fault α) β → Reply α
  | .ok _ => .done
  | .error fault => .refused fault

/-- The answer to a change in place. -/
def inPlace (edit : Edit (Plot α) α Unit) : StateM (Plot α) (Reply α) := do
  return .ofOutcome (← edit.run)

/-- The answer to a call that makes another plot, which takes the place of this one. -/
def replaced (next? : Plot α → Except (Fault α) (Plot α)) : StateM (Plot α) (Reply α) := do
  match next? (← get) with
  | .ok p =>
    set p
    return .done
  | .error fault => return .refused fault

/-- Performs a call. -/
def Call.perform : Call α → StateM (Plot α) (Reply α)
  | change (.tideFlow x) => inPlace (setTideFlow x)
  | change (.tideBearing x) => inPlace (setTideBearing x)
  | change (.tide flow bearing) => replaced fun p => p.withTide? flow bearing
  | change (.stw x) => replaced fun p => p.withStw? x
  | read => .speed <$> stw

/-- The changes among some calls. -/
def changesOf (calls : List (Call α)) : List (Change α) :=
  calls.filterMap fun
    | .change change => some change
    | .read => none

omit [Scalar α] in
@[simp] theorem changesOf_map (changes : List (Change α)) :
    changesOf (changes.map .change) = changes := by
  simp [changesOf, List.filterMap_map]

/-- The plot after some calls. -/
def after (p : Plot α) (calls : List (Call α)) : Plot α := ((calls.mapM Call.perform).run p).2

/-- The answers to some calls. -/
def replies (p : Plot α) (calls : List (Call α)) : List (Reply α) :=
  ((calls.mapM Call.perform).run p).1

/-- The speed through water that is read. -/
def reading (p : Plot α) : α := (stw.run p).1

/-! ## One edit -/

variable {p p' : Plot α}

theorem eq_of_refused {change : Tide α → Except (Fault α) (Tide α)} {fault : Fault α}
    (h : (editTide change).on p = (.error fault, p')) : p' = p := by
  rw [on_editTide] at h
  cases hchange : change p.tide with
  | ok tide => simp [hchange] at h
  | error fault' =>
    have hboth : fault' = fault ∧ p = p' := by simpa [hchange] using h
    exact hboth.2.symm

theorem withTide?_eq (flow bearing : α) :
    p.withTide? flow bearing =
      (Tide.of? flow bearing).map fun tide => { p with tide, noted := none } := by
  simp only [withTide?, edited?, on_bind, setTideFlow, setTideBearing, on_editTide,
    Tide.withFlow?, Tide.withBearing?, Tide.of?]
  cases Speed.of? .tide flow with
  | ok flow => cases Bearing.of? .tide bearing <;> rfl
  | error fault => rfl

theorem withStw?_eq (x : α) :
    p.withStw? x = (Speed.of? .throughWater x).map fun stw => { p with noted := some stw.val } := by
  simp only [withStw?, edited?, on_bind, on_ofExcept]
  cases Speed.of? .throughWater x <;> rfl

/-- Reading works out the speed only where none is noted. -/
theorem run_stw (p : Plot α) :
    stw.run p =
      match p.noted with
      | some x => (x, p)
      | none => (p.position.derivedStw, { p with noted := some p.position.derivedStw }) := by
  obtain ⟨instant, lon, lat, sog, cog, heading, tide, noted⟩ := p
  cases noted <;> rfl

theorem run_inPlace (edit : Edit (Plot α) α Unit) :
    (inPlace edit).run p = (.ofOutcome (edit.on p).1, (edit.on p).2) := rfl

theorem run_replaced (next? : Plot α → Except (Fault α) (Plot α)) :
    (replaced next?).run p =
      match next? p with
      | .ok p' => (.done, p')
      | .error fault => (.refused fault, p) := by
  show (match next? p with
    | .ok p' => (do set p'; return .done : StateM (Plot α) (Reply α))
    | .error fault => return .refused fault).run p = _
  cases next? p <;> rfl

/-! ## Plots and positions -/

/-- The plot shows the position: nothing but a given speed through water is noted on it, or the
speed that is read. -/
def Shows (p : Plot α) (q : Position α) : Prop :=
  p = q.plot ∨ p = { q.plot with noted := some q.stw }

variable {q : Position α}

/-- Reading answers with the speed of the position. -/
theorem run_stw_of_shows (h : p.Shows q) :
    stw.run p = (q.stw, { q.plot with noted := some q.stw }) := by
  obtain rfl | rfl := h
  · cases hgiven : q.givenStw with
    | some given => simp [run_stw, Position.plot, Position.stw, hgiven]
    | none =>
      simp [run_stw, Position.plot, Position.stw, hgiven, position, Position.derivedStw]
  · rw [run_stw]

theorem tide_of_shows (h : p.Shows q) : p.tide = q.tide := by
  obtain rfl | rfl := h <;> rfl

/-- A change has the effect that it has on the position; a refused one has none. -/
theorem perform_change (h : p.Shows q) (change : Change α) :
    (Call.change change).perform.run p =
      match change.result? q with
      | .ok q' => (.done, q'.plot)
      | .error fault => (.refused fault, p) := by
  have htide := tide_of_shows h
  cases change with
  | tideFlow x =>
    simp only [Call.perform, run_inPlace, setTideFlow, on_editTide, Change.result?,
      Position.setTideFlow?, htide]
    cases q.tide.withFlow? x with
    | ok tide => obtain rfl | rfl := h <;> rfl
    | error fault => rfl
  | tideBearing x =>
    simp only [Call.perform, run_inPlace, setTideBearing, on_editTide, Change.result?,
      Position.setTideBearing?, htide]
    cases q.tide.withBearing? x with
    | ok tide => obtain rfl | rfl := h <;> rfl
    | error fault => rfl
  | tide flow bearing =>
    simp only [Call.perform, run_replaced, withTide?_eq, Change.result?, Position.withTide?]
    cases Tide.of? flow bearing with
    | ok tide => obtain rfl | rfl := h <;> rfl
    | error fault => rfl
  | stw x =>
    simp only [Call.perform, run_replaced, withStw?_eq, Change.result?, Position.withStw?]
    cases Speed.of? .throughWater x with
    | ok given => obtain rfl | rfl := h <;> rfl
    | error fault => rfl

/-- The position after a call. -/
def Call.next (q : Position α) : Call α → Position α
  | change c => c.next q
  | read => q

/-- The answer of a position to a call. -/
def Call.reply (q : Position α) : Call α → Reply α
  | change c => .ofOutcome (c.result? q)
  | read => .speed q.stw

/-- The answers of a position to some calls. -/
def repliesOf (q : Position α) : List (Call α) → List (Reply α)
  | [] => []
  | call :: calls => call.reply q :: repliesOf (call.next q) calls

/-- One call: the plot answers as the position does, and shows it afterwards. -/
theorem perform_of_shows (h : p.Shows q) (call : Call α) :
    ∃ p', call.perform.run p = (call.reply q, p') ∧ p'.Shows (call.next q) := by
  cases call with
  | change change =>
    rw [perform_change h, Call.reply, Call.next, Change.next]
    cases change.result? q with
    | ok q' => exact ⟨q'.plot, rfl, .inl rfl⟩
    | error fault => exact ⟨p, rfl, h⟩
  | read =>
    have hread : (Call.read : Call α).perform.run p = (.speed (stw.run p).1, (stw.run p).2) := rfl
    rw [hread, run_stw_of_shows h]
    exact ⟨_, rfl, .inr rfl⟩

/-- Many calls: the plot answers as the position does, and shows it afterwards. -/
theorem run_calls (h : p.Shows q) (calls : List (Call α)) :
    ∃ p', (calls.mapM Call.perform).run p = (repliesOf q calls, p') ∧
      p'.Shows (q.changed (changesOf calls)) := by
  induction calls generalizing p q with
  | nil => exact ⟨p, rfl, h⟩
  | cons call calls ih =>
    obtain ⟨p₁, hcall, hp₁⟩ := perform_of_shows h call
    obtain ⟨p₂, hcalls, hp₂⟩ := ih hp₁
    have hchanged :
        (call.next q).changed (changesOf calls) = q.changed (changesOf (call :: calls)) := by
      cases call <;> rfl
    have hrun : ((call :: calls).mapM Call.perform).run p =
        let first := call.perform.run p
        let rest := (calls.mapM Call.perform).run first.2
        (first.1 :: rest.1, rest.2) := by
      rw [List.mapM_cons]
      rfl
    refine ⟨p₂, ?_, hchanged ▸ hp₂⟩
    simp only [hrun, hcall, hcalls, repliesOf]

/-! ## Every sequence of calls -/

theorem shows_after (h : p.Shows q) (calls : List (Call α)) :
    (p.after calls).Shows (q.changed (changesOf calls)) := by
  obtain ⟨p', hrun, hp'⟩ := run_calls h calls
  rwa [after, hrun]

theorem replies_eq (h : p.Shows q) (calls : List (Call α)) :
    p.replies calls = repliesOf q calls := by
  obtain ⟨p', hrun, -⟩ := run_calls h calls
  rw [replies, hrun]

theorem reading_eq (h : p.Shows q) : p.reading = q.stw := by
  rw [reading, run_stw_of_shows h]

theorem position_of_shows (h : p.Shows q) : p.position = q.plot.position := by
  obtain rfl | rfl := h <;> rfl

theorem reply_change_eq_done_iff (change : Change α) :
    repliesOf q [.change change] = [.done] ↔ change.Takes := by
  rw [← Position.exists_result?_iff (p := q)]
  simp only [repliesOf, Call.reply]
  cases change.result? q <;> simp [Reply.ofOutcome]

/-- What is read of a plot is the speed that was given last, if no later change of the tide has gone
through, and the one that follows from the tide otherwise. What has been read makes no difference to
any later answer, and a change in place that is refused leaves the plot as it was, its note
included. -/
theorem stw_coherent {instant : Instant} {lon lat sog cog heading : α} {start : Plot α}
    (hstart : of? instant lon lat sog cog heading = .ok start) (calls : List (Call α)) :
    (∀ x, LastGiven (changesOf calls) x → (start.after calls).reading = x) ∧
      ((∀ x, ¬LastGiven (changesOf calls) x) →
        (start.after calls).reading =
          speedThroughWater (start.after calls).sog.val (start.after calls).cog.val
            (start.after calls).tide.flow.val (start.after calls).tide.bearing.val) ∧
      (start.after calls).position = (start.after ((changesOf calls).map .change)).position ∧
      (∀ later, (start.after calls).replies later =
        (start.after ((changesOf calls).map .change)).replies later) ∧
      (∀ change : Change α, (start.after calls).replies [.change change] = [.done] ↔ change.Takes) ∧
      (∀ x fault p', (setTideFlow x).on (start.after calls) = (.error fault, p') →
        p' = start.after calls) ∧
      (∀ x fault p', (setTideBearing x).on (start.after calls) = (.error fault, p') →
        p' = start.after calls) := by
  obtain ⟨q, hq, rfl⟩ := Outcome.map_eq_ok.1 hstart
  have hshows : (q.plot.after calls).Shows (q.changed (changesOf calls)) :=
    shows_after (.inl rfl) calls
  have hsilent : (q.plot.after ((changesOf calls).map .change)).Shows
      (q.changed (changesOf calls)) := by
    have h := shows_after (p := q.plot) (.inl rfl) ((changesOf calls).map .change)
    rwa [changesOf_map] at h
  have hgiven : (q.changed (changesOf calls)).givenValue = givenBy (changesOf calls) :=
    Built.givenValue_eq ⟨instant, lon, lat, sog, cog, heading, q, hq, rfl⟩
  have hread : (q.plot.after calls).reading =
      (givenBy (changesOf calls)).getD (q.changed (changesOf calls)).derivedStw := by
    rw [reading_eq hshows, Position.stw_eq_getD, hgiven]
  refine ⟨?given, ?derived, ?same, ?silent, ?done, ?flow, ?bearing⟩
  case given =>
    intro x hx
    rw [hread, givenBy_eq_some_iff.2 hx, Option.getD_some]
  case derived =>
    intro hnone
    have hunknown : givenBy (changesOf calls) = none :=
      Option.eq_none_iff_forall_ne_some.2 fun x hx => hnone x (givenBy_eq_some_iff.1 hx)
    rw [hread, hunknown, Option.getD_none]
    obtain h | h := hshows <;> rw [h] <;> rfl
  case same => rw [position_of_shows hshows, position_of_shows hsilent]
  case silent =>
    intro later
    rw [replies_eq hshows, replies_eq hsilent]
  case done =>
    intro change
    rw [replies_eq hshows, reply_change_eq_done_iff]
  case flow => exact fun x fault p' h => eq_of_refused h
  case bearing => exact fun x fault p' h => eq_of_refused h

/-- A speed of 1 knot is given between two readings, and then a tide that runs at -1 knots is
refused. -/
theorem stw_coherent_given :
    ∃ start : Plot ℝ, of? ⟨0⟩ 0 0 0 0 0 = .ok start ∧
      (start.after [.read, .change (.stw 1), .read, .change (.tideFlow (-1))]).reading = 1 := by
  have hstart : of? ⟨0⟩ (0 : ℝ) 0 0 0 0 = .ok (Track.anchored 0).plot :=
    Outcome.map_eq_ok.2 ⟨Track.anchored 0,
      Position.of?_eq_ok_iff.2 ⟨rfl, rfl, rfl, rfl, rfl, rfl, rfl, rfl⟩, rfl⟩
  have hgiven : LastGiven [.stw (1 : ℝ), .tideFlow (-1)] 1 := by
    refine ⟨[], [.tideFlow (-1)], rfl, isSpeed_real.2 (by norm_num), ?_⟩
    intro change hmem
    obtain rfl := List.mem_singleton.1 hmem
    exact fun htakes => absurd (isSpeed_real.1 htakes) (by norm_num)
  exact ⟨_, hstart, (stw_coherent hstart _).1 1 hgiven⟩

end Plot

end ShipEmissions
