import ShipEmissions.Proofs.Track.Survivors

/-!
# What is asked about reports

Whether a move or a speed is plausible is asked of predicates, whose answers may depend on what was
asked before. A recorder writes down every question with its answer and leaves the answers as they
are. What it has written when a track comes out tells which reports were kept.

* `Plausibility.recorded`: the same predicates, with all questions and answers written down.
* `questionsAt`: what is asked about the report at a place, if it is kept and if it is not.
* `sanitized?_asks`: the questions in their order, and the positions that the answers leave.
-/

namespace ShipEmissions

/-! ## Recording -/

/-- What is asked about reports. -/
inductive Question (α : Type) where
  | move (start stop : Fix α)
  | sog (x : α)

/-- A question with its answer. -/
structure Asked (α : Type) where
  question : Question α
  answer : Bool

variable {α σ : Type}

/-- Asks as before, and writes question and answer behind what has been written. -/
def Question.recorded (question : Question α) (ask : StateM σ Bool) :
    StateM (σ × List (Asked α)) Bool := fun (state, log) =>
  let (answer, state) := ask.run state
  (answer, state, log ++ [⟨question, answer⟩])

/-- The same predicates, with all questions and answers written down. -/
def Plausibility.recorded (checks : Plausibility (StateM σ) α) :
    Plausibility (StateM (σ × List (Asked α))) α where
  sog x := (Question.sog x).recorded (checks.sog x)
  move a b := (Question.move a b).recorded (checks.move a b)

namespace Track

variable [Scalar α] {checks : Plausibility (StateM σ) α} {t : Track α} {w : Window (Report α)}
  {ws : List (Window (Report α))} {state : σ} {log : List (Asked α)}

/-! ## One report -/

/-- The question whether the ship may have moved to a report, unless it is the first. -/
def moveAsked (w : Window (Report α)) (kept : Bool) : List (Asked α) :=
  if w.past.isEmpty then []
  else [⟨.move (Fix.mean (w.past.map fun r => r.fix)) w.current.fix, kept⟩]

/-- The question whether the ship may have had the speed that a report gives, if it gives one. -/
def sogAsked (r : Report α) (accepted : Bool) : List (Asked α) :=
  match r.sog with
  | none => []
  | some x => [⟨.sog x, accepted⟩]

/-- All questions about a report. Its speed is only asked about if it is kept. -/
def asked (w : Window (Report α)) (kept accepted : Bool) : List (Asked α) :=
  moveAsked w kept ++ if kept then sogAsked w.current accepted else []

theorem run_isKept_recorded (checks : Plausibility (StateM σ) α) (w : Window (Report α))
    (state : σ) (log : List (Asked α)) :
    (isKept checks.recorded w).run (state, log) =
      (((isKept checks w).run state).1, ((isKept checks w).run state).2,
        log ++ moveAsked w ((isKept checks w).run state).1) := by
  unfold isKept moveAsked
  cases w.past.isEmpty with
  | true =>
    rw [if_pos rfl, if_pos rfl, if_pos rfl, List.append_nil]
    rfl
  | false => rfl

/-- The first report is kept without a question. -/
theorem isKept_of_isEmpty (h : w.past.isEmpty = true) (state : σ) :
    ((isKept checks w).run state).1 = true := by
  rw [isKept, if_pos h]
  rfl

theorem run_sanitizedSog_recorded (checks : Plausibility (StateM σ) α) (w : Window (Report α))
    (state : σ) (log : List (Asked α)) :
    ∃ accepted, (sanitizedSog checks.recorded w).run (state, log) =
      (((sanitizedSog checks w).run state).1, ((sanitizedSog checks w).run state).2,
        log ++ sogAsked w.current accepted) := by
  unfold sanitizedSog sogAsked
  cases w.current.sog with
  | none => exact ⟨true, by rw [List.append_nil]; rfl⟩
  | some x => exact ⟨((checks.sog x).run state).1, rfl⟩

/-! ## One step -/

theorem run_extend_of_not_kept (h : ((isKept checks w).run state).1 = false) :
    (extend? checks t (w :: ws)).run state =
      (extend? checks t ws).run ((isKept checks w).run state).2 := by
  show StateT.run (if ((isKept checks w).run state).1 = true then _ else _) _ = _
  rw [h]
  rfl

theorem run_extend_of_kept {sog : α} {next : σ} (h : ((isKept checks w).run state).1 = true)
    (hsog : (sanitizedSog checks w).run ((isKept checks w).run state).2 = (sog, next)) :
    (extend? checks t (w :: ws)).run state =
      match (sanitizedPosition? w sog).bind t.append? with
      | .ok t' => (extend? checks t' ws).run next
      | .error e => (.error e, next) := by
  show StateT.run (if ((isKept checks w).run state).1 = true then _ else _)
    ((isKept checks w).run state).2 = _
  rw [if_pos h, StateT.run_bind, hsog]
  show StateT.run (match (sanitizedPosition? w sog).bind t.append? with
    | .ok t' => _ | .error e => _) next = _
  cases (sanitizedPosition? w sog).bind t.append? <;> rfl

/-! ## All reports -/

/-- The position stands where the report says and when, to the millisecond. -/
def StandsFor (r : Report α) (p : Position α) : Prop :=
  p.instant = .ofMillis (Scalar.round (r.fix.time * 1000)) ∧ p.lon.val = r.fix.place.lon ∧
    p.lat.val = r.fix.place.lat

theorem standsFor_of_sanitizedPosition? {sog : α} {p : Position α}
    (h : sanitizedPosition? w sog = .ok p) : StandsFor w.current p := by
  obtain ⟨hinstant, hlon, hlat, -⟩ := sanitizedPosition?_eq_ok_iff.1 h
  exact ⟨Instant.eq_of_ofSeconds? hinstant, hlon, hlat⟩

/-- What was asked about windows, where `kept` and `accepted` are the answers by place. -/
def askedAll (ws : List (Window (Report α))) (kept accepted : ℕ → Bool) : List (Asked α) :=
  (List.range ws.length).flatMap fun i =>
    (ws[i]?.map fun w => asked w (kept i) (accepted i)).getD []

/-- The answers for a first window put before those for the others. -/
def prepend (first : Bool) (others : ℕ → Bool) : ℕ → Bool
  | 0 => first
  | i + 1 => others i

theorem askedAll_cons (w : Window (Report α)) (ws : List (Window (Report α))) (first second : Bool)
    (kept accepted : ℕ → Bool) :
    askedAll (w :: ws) (prepend first kept) (prepend second accepted) =
      asked w first second ++ askedAll ws kept accepted := by
  rw [askedAll, List.length_cons, List.range_succ_eq_map, List.flatMap_cons, List.flatMap_map]
  rfl

theorem filter_range_prepend (n : ℕ) (first : Bool) (kept : ℕ → Bool) :
    (List.range (n + 1)).filter (prepend first kept) =
      (if first then [0] else []) ++ ((List.range n).filter kept).map (· + 1) := by
  rw [List.range_succ_eq_map, List.filter_cons, List.filter_map]
  cases first <;> rfl

/-- The positions stand for the windows that are kept, one for one and in order. -/
def Kept (ws : List (Window (Report α))) (kept : ℕ → Bool) (ps : List (Position α)) : Prop :=
  List.Forall₂ (fun i p => ∃ w, ws[i]? = some w ∧ StandsFor w.current p)
    ((List.range ws.length).filter kept) ps

theorem Kept.skip {kept : ℕ → Bool} {ps : List (Position α)} (h : Kept ws kept ps)
    (w : Window (Report α)) : Kept (w :: ws) (prepend false kept) ps := by
  rw [Kept, List.length_cons, filter_range_prepend]
  exact List.forall₂_map_left_iff.2 h

theorem Kept.cons {kept : ℕ → Bool} {ps : List (Position α)} {p : Position α}
    (h : Kept ws kept ps) (hp : StandsFor w.current p) :
    Kept (w :: ws) (prepend true kept) (p :: ps) := by
  rw [Kept, List.length_cons, filter_range_prepend]
  exact .cons ⟨w, rfl, hp⟩ (List.forall₂_map_left_iff.2 h)

/-- A run that gives a track: the recorded run gives the same, with the questions about each report
written down in order, and the positions of the reports that are kept are added. -/
theorem run_extend_recorded {t' : Track α} {state' : σ}
    (h : (extend? checks t ws).run state = (.ok t', state')) (log : List (Asked α)) :
    ∃ kept accepted ps, (∀ w, ws[0]? = some w → w.past.isEmpty = true → kept 0 = true) ∧
      (extend? checks.recorded t ws).run (state, log) =
        (.ok t', state', log ++ askedAll ws kept accepted) ∧
      t'.positions = t.positions ++ ps ∧ Kept ws kept ps := by
  -- the windows that are left; the log and the state are those that the ones before have led to
  induction ws generalizing t state log with
  | nil =>
    cases h
    refine ⟨fun _ => true, fun _ => true, [], fun _ _ _ => rfl, ?_, (List.append_nil _).symm, .nil⟩
    rw [askedAll, List.length_nil, List.range_zero, List.flatMap_nil, List.append_nil]
    rfl
  | cons w ws ih =>
    have hrecorded := run_isKept_recorded checks w state log
    cases hkept : ((isKept checks w).run state).1 with
    | false =>
      rw [run_extend_of_not_kept hkept] at h
      obtain ⟨kept, accepted, ps, -, hrun, hpositions, hps⟩ := ih h (log ++ moveAsked w false)
      rw [hkept] at hrecorded
      refine ⟨prepend false kept, prepend true accepted, ps, ?_, ?_, hpositions, hps.skip w⟩
      · -- a first report that is not kept: there is none
        rintro _ ⟨⟩ hfirst
        rw [isKept_of_isEmpty hfirst] at hkept
        cases hkept
      · rw [run_extend_of_not_kept (by rw [hrecorded]), hrecorded, hrun, askedAll_cons, asked,
          if_neg Bool.false_ne_true, List.append_nil, List.append_assoc]
    | true =>
      rw [hkept] at hrecorded
      obtain ⟨accepted₀, hsogRecorded⟩ := run_sanitizedSog_recorded checks w
        ((isKept checks w).run state).2 (log ++ moveAsked w true)
      rcases hsog : (sanitizedSog checks w).run ((isKept checks w).run state).2 with ⟨sog, next⟩
      rw [hsog] at hsogRecorded
      rw [run_extend_of_kept hkept hsog] at h
      rw [run_extend_of_kept (by rw [hrecorded]) (by rw [hrecorded]; exact hsogRecorded)]
      cases hadd : (sanitizedPosition? w sog).bind t.append? with
      | error e => rw [hadd] at h; cases h
      | ok between =>
        rw [hadd] at h
        obtain ⟨p, hp, happend⟩ := Outcome.bind_eq_ok.1 hadd
        obtain ⟨kept, accepted, ps, -, hrun, hpositions, hps⟩ := ih h
          (log ++ moveAsked w true ++ sogAsked w.current accepted₀)
        refine ⟨prepend true kept, prepend accepted₀ accepted, p :: ps, fun _ _ _ => rfl, ?_, ?_,
          hps.cons (standsFor_of_sanitizedPosition? hp)⟩
        · show (extend? checks.recorded between ws).run _ = _
          rw [hrun, askedAll_cons, asked, if_pos rfl, List.append_assoc, List.append_assoc,
            List.append_assoc]
        · rw [hpositions, (append?_eq_ok_iff.1 happend).2.1, List.append_assoc]
          rfl

/-! ## By place -/

/-- The reports right before a place, up to three, whether they were kept or not. -/
def precedents (reports : List (Report α)) (i : ℕ) : List (Report α) :=
  (reports.take i).drop (i - pastReports)

/-- The questions about the report at a place: whether the ship may have moved there from the mean
of the reports right before, and then, if so, about the speed. -/
def questionsAt (reports : List (Report α)) (kept accepted : ℕ → Bool) (i : ℕ) : List (Asked α) :=
  match reports[i]? with
  | none => []
  | some r =>
    (if i = 0 then []
      else [⟨.move (Fix.mean ((precedents reports i).map fun r => r.fix)) r.fix, kept i⟩]) ++
    if kept i then sogAsked r (accepted i) else []

omit [Scalar α] in
/-- Only the first report has none before it. -/
theorem isEmpty_precedents_iff {reports : List (Report α)} {i : ℕ} (h : i < reports.length) :
    (precedents reports i).isEmpty = true ↔ i = 0 := by
  have hlength : (precedents reports i).length = min i pastReports := by
    rw [precedents, List.length_drop, List.length_take]
    omega
  rw [List.isEmpty_iff_length_eq_zero, hlength, pastReports]
  omega

theorem asked_window {reports : List (Report α)} {r : Report α} {i : ℕ} (h : reports[i]? = some r)
    (future : List (Report α)) (kept accepted : ℕ → Bool) :
    asked ⟨precedents reports i, r, future⟩ (kept i) (accepted i) =
      questionsAt reports kept accepted i := by
  have hempty := isEmpty_precedents_iff (List.getElem?_eq_some_iff.1 h).1
  rw [asked, moveAsked, questionsAt, h]
  dsimp only
  by_cases hi : i = 0
  · rw [if_pos (hempty.2 hi), if_pos hi]
  · rw [if_neg (fun hnone => hi (hempty.1 hnone)), if_neg hi]

/-- What is asked about the windows of reports is what is asked place by place. -/
theorem askedAll_windows (reports : List (Report α)) (kept accepted : ℕ → Bool) :
    askedAll (windows pastReports futureReports reports) kept accepted =
      (List.range reports.length).flatMap (questionsAt reports kept accepted) := by
  rw [askedAll, length_windows]
  refine List.flatMap_congr fun i _ => ?_
  rw [getElem?_windows]
  cases hr : reports[i]? with
  | none => rw [questionsAt, hr]; rfl
  | some r => exact asked_window hr _ kept accepted

/-- Where reports make a track, whatever the answers are: the questions that were asked are those
about each report in order, about the move to every report but the first and about the speed of
those that are kept, and the positions are those of the reports that are kept. The first report is
kept, and another is iff the answer about the move to it is yes. -/
theorem sanitized?_asks {reports : List (Report α)} {t : Track α} {state' : σ}
    (h : (sanitized? checks reports).run state = (.ok t, state')) :
    ∃ kept accepted : ℕ → Bool, (reports ≠ [] → kept 0 = true) ∧
      (sanitized? checks.recorded reports).run (state, []) =
        (.ok t, state',
          (List.range reports.length).flatMap (questionsAt reports kept accepted)) ∧
      List.Forall₂ (fun i p => ∃ r, reports[i]? = some r ∧ StandsFor r p)
        ((List.range reports.length).filter kept) t.positions := by
  obtain ⟨kept, accepted, ps, hfirst, hrun, hpositions, hps⟩ := run_extend_recorded h []
  refine ⟨kept, accepted, fun hreports => ?_, ?_, ?_⟩
  · obtain ⟨first, others, rfl⟩ := List.exists_cons_of_ne_nil hreports
    exact hfirst _ rfl rfl
  · rw [← askedAll_windows]
    exact hrun
  · rw [hpositions]
    rw [Kept, length_windows] at hps
    refine hps.imp fun i p => ?_
    rintro ⟨w, hw, hp⟩
    rw [getElem?_windows] at hw
    obtain ⟨r, hr, rfl⟩ := Option.map_eq_some_iff.1 hw
    exact ⟨r, hr, hp⟩

/-- Answers one after the other, whatever is asked, and yes where none is left. -/
def scripted : Plausibility (StateM (List Bool)) α where
  sog _ answers := (answers.headD true, answers.tail)
  move _ _ answers := (answers.headD true, answers.tail)

/-- A ship that sails along the equator, with a stray report. -/
def equatorReports : List (Report Float) :=
  [(0, 0), (10, 5), (20, 0.5)].map fun (time, lon) =>
    ⟨⟨time, ⟨lon, 0⟩⟩, some 7, some 90, some 90, none, none⟩

/-- The speed of the first report is plausible, the move to the second is not, and the move to the
third is again, as is its speed. -/
def equatorAnswers : List Bool := [true, false, true, true]

/-- The reports on the equator make a track. -/
theorem exists_run_equatorReports :
    ∃ t, (sanitized? scripted equatorReports).run equatorAnswers = (.ok t, []) := by
  have hrun : ((sanitized? scripted equatorReports).run equatorAnswers).1.toBool = true ∧
      ((sanitized? scripted equatorReports).run equatorAnswers).2 = [] := by
    decide +kernel
  rcases htrack : (sanitized? scripted equatorReports).run equatorAnswers with ⟨_ | t, answers⟩
  · rw [htrack] at hrun
    cases hrun.1
  · rw [htrack] at hrun
    exact ⟨t, congrArg _ hrun.2⟩

theorem sanitized?_asks_equator : ∃ t,
    (sanitized? scripted equatorReports).run equatorAnswers = (.ok t, []) ∧
    ∃ kept accepted : ℕ → Bool, (equatorReports ≠ [] → kept 0 = true) ∧
      (sanitized? scripted.recorded equatorReports).run (equatorAnswers, []) =
        (.ok t, [], (List.range equatorReports.length).flatMap
          (questionsAt equatorReports kept accepted)) ∧
      List.Forall₂ (fun i p => ∃ r, equatorReports[i]? = some r ∧ StandsFor r p)
        ((List.range equatorReports.length).filter kept) t.positions := by
  obtain ⟨t, h⟩ := exists_run_equatorReports
  exact ⟨t, h, sanitized?_asks h⟩

end Track

end ShipEmissions
