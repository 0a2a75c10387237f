import ShipEmissions.Proofs.Track.Questions
import ShipEmissions.Proofs.Track.Runs

/-!
# Complete reports

A report is complete if it says everything and all of it makes sense. Where no question about
complete reports is answered with no, each of them becomes a position with the same values.

* `log_of_extend`: what every question keeps of the log holds at the end of a run.
* `run_extend_of_noneRefused`: a run on complete reports without a no.
* `sanitized?_report`: the positions of a track from reports, reported again, make the same track.
* `sanitized?_complete`: both about lists of reports.
-/

namespace ShipEmissions

variable {α σ : Type} [Scalar α]

/-! ## What a complete report says -/

/-- Time and place, speed and both bearings are there and make sense. -/
structure CompleteReport (r : Report α) : Prop where
  instant : ∃ instant, Instant.ofSeconds? r.fix.time = .ok instant
  lon : IsLongitude r.fix.place.lon
  lat : IsLatitude r.fix.place.lat
  sog : ∃ x, r.sog = some x ∧ IsSpeed x
  cog : ∃ x, r.cog = some x ∧ IsBearing x
  heading : ∃ x, r.heading = some x ∧ IsBearing x

/-- The report gives both values of a tide, and they make sense. -/
def GivesTide (r : Report α) (flow bearing : α) : Prop :=
  r.tideFlow = some flow ∧ r.tideBearing = some bearing ∧ IsSpeed flow ∧ IsBearing bearing

theorem Report.tide_of_givesTide {r : Report α} {flow bearing : α}
    (h : GivesTide r flow bearing) :
    r.tide.flow.val = flow ∧ r.tide.bearing.val = bearing := by
  obtain ⟨hflow, hbearing, hspeed, hdirection⟩ := h
  have htide : Tide.of? flow bearing = .ok ⟨⟨flow, hspeed⟩, ⟨bearing, hdirection⟩⟩ := by
    rw [Tide.of?, Speed.of?_eq_ok_iff.2 (show (⟨flow, hspeed⟩ : Speed α).val = flow from rfl)]
    show (Bearing.of? .tide bearing >>= _) = _
    rw [Bearing.of?_eq_ok_iff.2 (show (⟨bearing, hdirection⟩ : Bearing α).val = bearing from rfl)]
    rfl
  rw [Report.tide, hflow, hbearing]
  dsimp only
  rw [htide]
  exact ⟨rfl, rfl⟩

theorem Report.tide_of_not_givesTide {r : Report α}
    (h : ∀ flow bearing, ¬GivesTide r flow bearing) : r.tide = .still := by
  rw [Report.tide]
  split
  · next flow bearing hflow hbearing =>
    split
    · next tide htide =>
      obtain ⟨speed, hspeed, htide⟩ := Outcome.bind_eq_ok.1 htide
      obtain ⟨direction, hdirection, -⟩ := Outcome.bind_eq_ok.1 htide
      cases Speed.of?_eq_ok_iff.1 hspeed
      cases Bearing.of?_eq_ok_iff.1 hdirection
      exact absurd ⟨hflow, hbearing, speed.property, direction.property⟩ (h _ _)
    · rfl
  · rfl

/-- The position has what the report says: its time to the millisecond, its place, its speed, its
bearings, and the tide if the report gives one that makes sense, else still water. -/
structure Unchanged (r : Report α) (p : Position α) : Prop where
  standsFor : Track.StandsFor r p
  sog : r.sog = some p.sog.val
  cog : r.cog = some p.cog.val
  heading : r.heading = some p.heading.val
  tide : ∀ flow bearing, GivesTide r flow bearing →
    p.tide.flow.val = flow ∧ p.tide.bearing.val = bearing
  still : (∀ flow bearing, ¬GivesTide r flow bearing) → p.tide.flow.val = 0 ∧ p.tide.bearing.val = 0

/-! ## Reporting positions -/

/-- The report that says what a position says, its time to the millisecond. -/
def Position.report (p : Position α) : Report α where
  fix := ⟨Scalar.ofInt p.instant.millis / 1000, p.place⟩
  sog := some p.sog
  cog := some p.cog
  heading := some p.heading
  tideFlow := some p.tide.flow
  tideBearing := some p.tide.bearing

/-- The exact seconds of an instant that is read from seconds stand for that instant. -/
theorem Instant.ofSeconds?_report {p : Position ℝ} {x : ℝ}
    (h : Instant.ofSeconds? x = .ok p.instant) :
    Instant.ofSeconds? p.report.fix.time = .ok p.instant := by
  obtain ⟨-, hmillis, hrange⟩ := ofSeconds?_eq_ok_iff.1 h
  refine ofSeconds?_eq_ok_iff.2 ⟨rfl, ?_, hrange⟩
  have hexact : p.report.fix.time * (@OfNat.ofNat ℝ 1000 Scalar.instOfNat) =
      (p.instant.millis : ℝ) := by
    show ((p.instant.millis : ℝ) / (@OfNat.ofNat ℝ 1000 Scalar.instOfNat)) * _ = _
    rw [Scalar.ofNat_real]
    push_cast
    exact div_mul_cancel₀ _ (by norm_num)
  rw [hexact, Scalar.round_real_intCast, hmillis, millis_ofMillis]

/-- The tide of a position is the one that is reported. -/
theorem Position.tide_report (p : Position α) : p.report.tide = p.tide := by
  obtain ⟨hflow, hbearing⟩ := Report.tide_of_givesTide (r := p.report)
    ⟨rfl, rfl, p.tide.flow.property, p.tide.bearing.property⟩
  generalize p.report.tide = tide at hflow hbearing
  obtain ⟨flow, bearing⟩ := tide
  cases Subtype.ext hflow
  cases Subtype.ext hbearing
  rfl

namespace Track

variable {checks : Plausibility (StateM σ) α} {t t' : Track α} {w : Window (Report α)}
  {ws : List (Window (Report α))} {state state' : σ} {log : List (Asked α)} {p : Position α} {x : α}

/-- With the speed that it gives, a complete report becomes a position without any change. -/
theorem exists_sanitizedPosition? (h : CompleteReport w.current) :
    ∃ p, (∃ x, w.current.sog = some x ∧ sanitizedPosition? w x = .ok p) ∧
      Unchanged w.current p := by
  obtain ⟨instant, hinstant⟩ := h.instant
  obtain ⟨sog, hsog, hspeed⟩ := h.sog
  obtain ⟨cog, hcog, hcourse⟩ := h.cog
  obtain ⟨heading, hheading, hdirection⟩ := h.heading
  let p : Position α := ⟨instant, ⟨_, h.lon⟩, ⟨_, h.lat⟩, ⟨sog, hspeed⟩, ⟨cog, hcourse⟩,
    ⟨heading, hdirection⟩, w.current.tide, none⟩
  have hposition : sanitizedPosition? w sog = .ok p := by
    refine sanitizedPosition?_eq_ok_iff.2 ⟨hinstant, rfl, rfl, rfl, ?_, ?_, rfl, rfl⟩
    · rw [hcog]
      rfl
    · rw [hheading]
      rfl
  refine ⟨p, ⟨sog, hsog, hposition⟩, standsFor_of_sanitizedPosition? hposition, hsog, hcog,
    hheading, fun flow bearing => Report.tide_of_givesTide, fun hnone => ?_⟩
  show w.current.tide.flow.val = 0 ∧ w.current.tide.bearing.val = 0
  rw [Report.tide_of_not_givesTide hnone]
  exact ⟨rfl, rfl⟩

/-! ## What is answered -/

theorem run_sanitizedSog_of_accepted (hsog : w.current.sog = some x)
    (h : ((checks.sog x).run state).1 = true) :
    (sanitizedSog checks w).run state = (x, ((checks.sog x).run state).2) := by
  rw [sanitizedSog, hsog]
  show (if ((checks.sog x).run state).1 = true then x else _, _) = _
  rw [if_pos h]
  rfl

/-- What is written about the speed of a report that gives one. -/
theorem run_sanitizedSog_recorded_of_sog (hsog : w.current.sog = some x)
    (checks : Plausibility (StateM σ) α) (state : σ) (log : List (Asked α)) :
    (sanitizedSog checks.recorded w).run (state, log) =
      (((sanitizedSog checks w).run state).1, ((sanitizedSog checks w).run state).2,
        log ++ [⟨.sog x, ((checks.sog x).run state).1⟩]) := by
  rw [sanitizedSog, sanitizedSog, hsog]
  rfl

section Log

variable {P : List (Asked α) → Prop}
  (hmove : ∀ a b state log, P log → P (log ++ [⟨.move a b, ((checks.move a b).run state).1⟩]))
  (hsog : ∀ x state log, P log → P (log ++ [⟨.sog x, ((checks.sog x).run state).1⟩]))

include hmove in
theorem log_of_isKept (w : Window (Report α)) (state : σ) (h : P log) :
    P ((isKept checks.recorded w).run (state, log)).2.2 := by
  unfold isKept
  cases w.past.isEmpty with
  | true => exact h
  | false => exact hmove _ _ state log h

include hsog in
theorem log_of_sanitizedSog (w : Window (Report α)) (state : σ) (h : P log) :
    P ((sanitizedSog checks.recorded w).run (state, log)).2.2 := by
  unfold sanitizedSog
  cases w.current.sog with
  | none => exact h
  | some x => exact hsog x state log h

include hmove hsog in
/-- What every question keeps of the log holds of it at the end. -/
theorem log_of_extend (h : P log) : P ((extend? checks.recorded t ws).run (state, log)).2.2 := by
  induction ws generalizing t state log with
  | nil => exact h
  | cons w ws ih =>
    have hkeptLog := log_of_isKept hmove w state h
    cases hkept : ((isKept checks.recorded w).run (state, log)).1 with
    | false =>
      rw [run_extend_of_not_kept hkept]
      exact ih hkeptLog
    | true =>
      have hsogLog := log_of_sanitizedSog hsog w
        ((isKept checks.recorded w).run (state, log)).2.1 hkeptLog
      rcases hrun : (sanitizedSog checks.recorded w).run
        ((isKept checks.recorded w).run (state, log)).2 with ⟨sog, next, log'⟩
      rw [hrun] at hsogLog
      rw [run_extend_of_kept hkept hrun]
      cases (sanitizedPosition? w sog).bind t.append? with
      | error e => exact hsogLog
      | ok between => exact ih hsogLog

end Log

/-- Nothing that is written is taken back. -/
theorem prefix_log_extend (checks : Plausibility (StateM σ) α) (t : Track α)
    (ws : List (Window (Report α))) (state : σ) (log : List (Asked α)) :
    log <+: ((extend? checks.recorded t ws).run (state, log)).2.2 :=
  log_of_extend (P := fun later => log <+: later)
    (fun _ _ _ _ h => h.trans (List.prefix_append _ _))
    (fun _ _ _ h => h.trans (List.prefix_append _ _)) (List.prefix_refl log)

/-! ## Runs without a no -/

/-- No answer that was written down is a no. -/
def NoneRefused (log : List (Asked α)) : Prop := ∀ asked ∈ log, asked.answer = true

omit [Scalar α] in
theorem NoneRefused.of_prefix {log' : List (Asked α)} (h : NoneRefused log')
    (hlog : log <+: log') : NoneRefused log := fun asked hasked =>
  h asked (hlog.subset hasked)

theorem isKept_of_noneRefused
    (h : NoneRefused ((extend? checks.recorded t (w :: ws)).run (state, log)).2.2) :
    ((isKept checks w).run state).1 = true := by
  have hrecorded := run_isKept_recorded checks w state log
  by_contra hkept
  rw [Bool.not_eq_true] at hkept
  rw [hkept] at hrecorded
  rw [run_extend_of_not_kept (by rw [hrecorded]), hrecorded] at h
  have hasked := h.of_prefix (prefix_log_extend checks t ws _ _)
  cases hfirst : w.past.isEmpty with
  | true => exact absurd (isKept_of_isEmpty hfirst state) (by rw [hkept]; exact Bool.false_ne_true)
  | false =>
    rw [moveAsked, hfirst] at hasked
    cases hasked _ (List.mem_append_right log (List.mem_singleton_self _))

theorem sog_of_noneRefused (hx : w.current.sog = some x)
    (hkept : ((isKept checks w).run state).1 = true)
    (h : NoneRefused ((extend? checks.recorded t (w :: ws)).run (state, log)).2.2) :
    ((checks.sog x).run ((isKept checks w).run state).2).1 = true := by
  have hrecorded := run_isKept_recorded checks w state log
  rw [hkept] at hrecorded
  have hsog := run_sanitizedSog_recorded_of_sog hx checks ((isKept checks w).run state).2
    (log ++ moveAsked w true)
  rw [run_extend_of_kept (by rw [hrecorded]) (by rw [hrecorded]; exact hsog)] at h
  have hasked : NoneRefused (log ++ moveAsked w true ++
      [⟨.sog x, ((checks.sog x).run ((isKept checks w).run state).2).1⟩]) := by
    refine h.of_prefix ?_
    cases (sanitizedPosition? w _).bind t.append? with
    | error e => exact List.prefix_refl _
    | ok between => exact prefix_log_extend checks between ws _ _
  exact hasked _ (List.mem_append_right _ (List.mem_singleton_self _))

/-- A run on reports that give their speed, where no answer is a no: if they become positions in the
order of time, all of these are added. -/
theorem run_extend_of_noneRefused {ps : List (Position α)}
    (hps : List.Forall₂ (fun w p => ∃ x, w.current.sog = some x ∧ sanitizedPosition? w x = .ok p)
      ws ps)
    (horder : (t.positions ++ ps).Pairwise fun p q => p.instant ≤ q.instant)
    (hanswers : NoneRefused ((extend? checks.recorded t ws).run (state, log)).2.2) :
    ∃ t' state', (extend? checks t ws).run state = (.ok t', state') ∧
      t'.positions = t.positions ++ ps := by
  induction hps generalizing t state log with
  | nil => exact ⟨t, state, rfl, (List.append_nil _).symm⟩
  | @cons w p ws ps hp hps ih =>
    obtain ⟨x, hx, hp⟩ := hp
    have hkept := isKept_of_noneRefused hanswers
    have haccepted := sog_of_noneRefused hx hkept hanswers
    have hlast : ∀ q, t.positions.getLast? = some q → q.instant ≤ p.instant := fun q hq =>
      (List.pairwise_append.1 horder).2.2 q (List.mem_of_getLast? hq) p List.mem_cons_self
    obtain ⟨between, hbetween⟩ := exists_append? hlast
    have hadd : (sanitizedPosition? w x).bind t.append? = .ok between :=
      Outcome.bind_eq_ok.2 ⟨p, hp, hbetween⟩
    have hpositions := (append?_eq_ok_iff.1 hbetween).2.1
    rw [List.append_cons, ← hpositions] at horder ⊢
    have hsog := run_sanitizedSog_of_accepted hx haccepted
    -- the recorded run goes on from the same track
    have hrecorded := run_isKept_recorded checks w state log
    rw [hkept] at hrecorded
    have hsogRecorded := run_sanitizedSog_recorded_of_sog hx checks ((isKept checks w).run state).2
      (log ++ moveAsked w true)
    rw [hsog] at hsogRecorded
    rw [run_extend_of_kept (by rw [hrecorded]) (by rw [hrecorded]; exact hsogRecorded), hadd]
      at hanswers
    rw [run_extend_of_kept hkept hsog, hadd]
    exact ih horder hanswers

/-- The instants that the times of reports stand for are in the order of time. -/
def OrderedReports (reports : List (Report α)) : Prop :=
  reports.Pairwise fun r s => ∀ i j, Instant.ofSeconds? r.fix.time = .ok i →
    Instant.ofSeconds? s.fix.time = .ok j → i ≤ j

/-- Reports whose times are in order are in the order of time. -/
theorem orderedReports_of_time {reports : List (Report Float)}
    (h : reports.Pairwise fun r s => r.fix.time ≤ s.fix.time) : OrderedReports reports :=
  h.imp fun hle _ _ => Instant.ofSeconds?_mono_float hle

theorem ordered_windows {reports : List (Report α)} (h : OrderedReports reports) :
    Ordered (windows pastReports futureReports reports) := by
  rw [OrderedReports, ← map_current_windows pastReports futureReports reports,
    List.pairwise_map] at h
  exact h

/-- Complete reports in the order of time pass unchanged if no question is answered with no. -/
theorem exists_sanitized?_of_noneRefused {reports : List (Report α)}
    (hcomplete : ∀ r ∈ reports, CompleteReport r) (horder : OrderedReports reports)
    (hanswers : NoneRefused ((sanitized? checks.recorded reports).run (state, [])).2.2) :
    ∃ t state', (sanitized? checks reports).run state = (.ok t, state') ∧
      List.Forall₂ Unchanged reports t.positions := by
  obtain ⟨ps, hps⟩ := Outcome.exists_forall₂_iff.2 fun w hw =>
    exists_sanitizedPosition? (hcomplete w.current (current_mem_of_mem_windows hw))
  have hsorted : ps.Pairwise fun p q => p.instant ≤ q.instant := by
    refine pairwise_positionsOf (ordered_windows horder) (hps.imp fun w p hp => ?_)
    obtain ⟨⟨x, -, hposition⟩, -⟩ := hp
    exact (sanitizedPosition?_eq_ok_iff.1 hposition).1
  obtain ⟨t, state', hrun, hpositions⟩ :=
    run_extend_of_noneRefused (t := .empty) (hps.imp fun _ _ hp => hp.1) hsorted hanswers
  refine ⟨t, state', hrun, ?_⟩
  rw [hpositions]
  exact forall₂_windows_iff.1 (hps.imp fun _ _ hp => hp.2)

/-! ## Reporting positions again -/

/-- A position that was made from a report, reported again, becomes the same position. -/
theorem sanitizedPosition?_report {v w : Window (Report ℝ)} {x : ℝ} {p : Position ℝ}
    (h : sanitizedPosition? v x = .ok p) (hw : w.current = p.report) :
    sanitizedPosition? w p.sog = .ok p := by
  obtain ⟨hinstant, -, -, -, -, -, -, hstw⟩ := sanitizedPosition?_eq_ok_iff.1 h
  rw [sanitizedPosition?_eq_ok_iff, hw]
  exact ⟨Instant.ofSeconds?_report hinstant, rfl, rfl, rfl, rfl, rfl, p.tide_report.symm, hstw⟩

/-- All positions of a track from reports are made from reports. -/
theorem exists_of_mem_positions {reports : List (Report α)}
    (h : ((sanitized? checks reports).run state).1 = .ok t) :
    ∀ p ∈ t.positions, ∃ w x, sanitizedPosition? w x = .ok p := by
  refine always_extend (P := fun t => ∀ p ∈ t.positions, ∃ w x, sanitizedPosition? w x = .ok p)
    (fun t t' w x p hfrom hp happend q hq => ?_) checks _ ?_ state t h
  · rw [(append?_eq_ok_iff.1 happend).2.1] at hq
    rcases List.mem_append.1 hq with hq | hq
    · exact hfrom q hq
    · cases List.mem_singleton.1 hq
      exact ⟨w, x, hp⟩
  · rintro p ⟨⟩

theorem noneRefused_lenient (t : Track α) (ws : List (Window (Report α))) (state : σ) :
    NoneRefused
      ((extend? (Plausibility.lenient (m := StateM σ)).recorded t ws).run (state, [])).2.2 := by
  have hyes : ∀ (log : List (Asked α)) question, NoneRefused log →
      NoneRefused (log ++ [⟨question, true⟩]) := by
    intro log question h asked hasked
    rcases List.mem_append.1 hasked with hasked | hasked
    · exact h asked hasked
    · cases List.mem_singleton.1 hasked
      rfl
  refine log_of_extend (fun a b _ log h => hyes log (.move a b) h)
    (fun x _ log h => hyes log (.sog x) h) ?_
  rintro asked ⟨⟩

/-- Tracks with the same positions are the same if no length of them is known. -/
theorem NothingKnown.ext (h : NothingKnown t) (h' : NothingKnown t')
    (hpositions : t.positions = t'.positions) : t = t' := by
  refine ext_lists hpositions ?_
  rw [List.eq_replicate_of_mem h, List.eq_replicate_of_mem h', length_knownDistances,
    length_knownDistances, hpositions]

/-- The positions of a track from reports, reported again, make the same track. -/
theorem sanitized?_report {τ : Type} {checks : Plausibility (StateM σ) ℝ} {t : Track ℝ}
    {reports : List (Report ℝ)} (h : ((sanitized? checks reports).run state).1 = .ok t)
    (start : τ) :
    ((sanitized? (m := StateM τ) .lenient (t.positions.map Position.report)).run start).1 =
      .ok t := by
  have hreports : List.Forall₂ (fun w p => w.current = Position.report p ∧ p ∈ t.positions)
      (windows pastReports futureReports (t.positions.map Position.report)) t.positions := by
    refine (forall₂_windows_iff (R := fun r p => r = Position.report p ∧ p ∈ t.positions)).2 ?_
    exact List.forall₂_map_left_iff.2 (List.forall₂_same.2 fun p hp => ⟨rfl, hp⟩)
  have hps : List.Forall₂ (fun w p => ∃ x, w.current.sog = some x ∧ sanitizedPosition? w x = .ok p)
      (windows pastReports futureReports (t.positions.map Position.report)) t.positions := by
    refine hreports.imp ?_
    rintro w p ⟨hw, hp⟩
    obtain ⟨v, x, hx⟩ := exists_of_mem_positions h p hp
    exact ⟨p.sog, by rw [hw]; rfl, sanitizedPosition?_report hx hw⟩
  obtain ⟨t', state', hrun, hpositions⟩ := run_extend_of_noneRefused (t := .empty) hps
    t.pairwise_positions (noneRefused_lenient .empty _ start)
  have hknown : NothingKnown t' := nothingKnown_of_sanitized? (congrArg Prod.fst hrun)
  rw [hknown.ext (nothingKnown_of_sanitized? h) hpositions] at hrun
  exact congrArg Prod.fst hrun

/-! ## Complete reports and tracks -/

/-- Complete reports in the order of time make a track if the answers to all questions about them
are yes: one position for each report, in order, with nothing changed. They are in the order of time
if their times are. In exact arithmetic, the positions of every track from reports, whatever was
asked and answered, make the same track if they are reported again and everything is plausible. -/
theorem sanitized?_complete :
    (∀ {checks : Plausibility (StateM σ) α} {state : σ} {reports : List (Report α)},
      (∀ r ∈ reports, CompleteReport r) → OrderedReports reports →
      NoneRefused ((sanitized? checks.recorded reports).run (state, [])).2.2 →
      ∃ t state', (sanitized? checks reports).run state = (.ok t, state') ∧
        List.Forall₂ Unchanged reports t.positions) ∧
    (∀ {reports : List (Report Float)},
      (reports.Pairwise fun r s => r.fix.time ≤ s.fix.time) → OrderedReports reports) ∧
    ∀ {τ : Type} {checks : Plausibility (StateM σ) ℝ} {state : σ} {reports : List (Report ℝ)}
      {t : Track ℝ}, ((sanitized? checks reports).run state).1 = .ok t → ∀ start : τ,
      ((sanitized? (m := StateM τ) .lenient (t.positions.map Position.report)).run start).1 =
        .ok t :=
  ⟨exists_sanitized?_of_noneRefused, orderedReports_of_time, sanitized?_report⟩

/-- A report from the equator. -/
def driftingReport (time lon : Float) (flow : Option Float) : Report Float :=
  ⟨⟨time, ⟨lon, 0⟩⟩, some 7, some 90, some 91, flow, some 90⟩

/-- A ship that sails along the equator with the tide. Its second report does not say how fast the
tide is, and its third has the same time and a speed of the tide that makes no sense. -/
def drifting : List (Report Float) :=
  [driftingReport 10 0.5 (some 2), driftingReport 20 1 none, driftingReport 20 1 (some (-1))]

theorem ofSeconds?_ten : Instant.ofSeconds? (10 : Float) = .ok (.ofMillis 10000) :=
  Outcome.eq_ok_of_toOption (by decide +kernel)

theorem ofSeconds?_twenty : Instant.ofSeconds? (20 : Float) = .ok (.ofMillis 20000) :=
  Outcome.eq_ok_of_toOption (by decide +kernel)

theorem completeReport_drifting : ∀ r ∈ drifting, CompleteReport r := by
  have hcomplete : ∀ time lon flow, (∃ i, Instant.ofSeconds? time = .ok i) → IsLongitude lon →
      CompleteReport (driftingReport time lon flow) := fun time lon flow htime hlon =>
    ⟨htime, hlon, show IsLatitude (0 : Float) by decide +kernel, ⟨7, rfl, by decide +kernel⟩,
      ⟨90, rfl, by decide +kernel⟩, ⟨91, rfl, by decide +kernel⟩⟩
  intro r hr
  simp only [drifting, List.mem_cons, List.not_mem_nil, or_false] at hr
  obtain rfl | rfl | rfl := hr
  · exact hcomplete _ _ _ ⟨_, ofSeconds?_ten⟩ (by decide +kernel)
  · exact hcomplete _ _ _ ⟨_, ofSeconds?_twenty⟩ (by decide +kernel)
  · exact hcomplete _ _ _ ⟨_, ofSeconds?_twenty⟩ (by decide +kernel)

/-- The report that gives no speed makes a track of one position, where nothing moves. -/
theorem sanitized?_silent :
    ((sanitized? (m := StateM Unit) .lenient [silentReport]).run ()).1 =
      .ok (.voyage (anchored 1000000) [] trivial) := by
  have hposition : sanitizedPosition? ⟨[], silentReport, []⟩
      (replacedSog ⟨[], silentReport, []⟩) = .ok (anchored 1000000) := by
    refine sanitizedPosition?_eq_ok_iff.2 ⟨ofSeconds?_silent, rfl, rfl, ?_, rfl, rfl, rfl, rfl⟩
    exact (Nat.cast_zero (R := ℝ)).symm
  have hsog : (sanitizedSog (m := StateM Unit) .lenient ⟨[], silentReport, []⟩).run () =
    (replacedSog ⟨[], silentReport, []⟩, ()) := rfl
  show ((extend? (m := StateM Unit) .lenient .empty [⟨[], silentReport, []⟩]).run ()).1 = _
  rw [run_extend_of_kept rfl hsog, hposition]
  rfl

/-- The reports of the ship that drifts pass unchanged, and the position that a silent report makes
makes the same track again. -/
theorem sanitized?_complete_drifting :
    (∃ t state', (sanitized? scripted drifting).run [] = (.ok t, state') ∧
      List.Forall₂ Unchanged drifting t.positions) ∧
    ∃ t, ((sanitized? (m := StateM Unit) .lenient [silentReport]).run ()).1 = .ok t ∧
      ((sanitized? (m := StateM Unit) .lenient (t.positions.map Position.report)).run ()).1 =
        .ok t := by
  obtain ⟨hunchanged, hordered, -⟩ := sanitized?_complete (α := Float) (σ := List Bool)
  obtain ⟨-, -, hagain⟩ := sanitized?_complete (α := Float) (σ := Unit)
  constructor
  · refine hunchanged completeReport_drifting (hordered (by decide +kernel)) ?_
    show ∀ asked ∈ _, _
    decide +kernel
  · exact ⟨_, sanitized?_silent, hagain sanitized?_silent ()⟩

end Track

end ShipEmissions
