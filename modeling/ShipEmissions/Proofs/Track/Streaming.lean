import ShipEmissions.Proofs.Track.Questions

/-!
# More reports

A feed grows while a ship sails. What follows a report counts only for the values that replace
missing ones, and only as far as the next report. So what has come out for all reports but the last
stays as it is, and what has come out for the last may get another speed and another course.

* `Window.after_append`, `windows_append`: the windows of a longer list.
* `keptPlaces`: the places of the reports that are kept.
* `SameButReplaced`: positions that differ at most in values that replace missing ones.
* `sanitized?_append`: a track of reports and one of these and more.
-/

namespace ShipEmissions

/-! ## Windows of a longer list -/

section

variable {β : Type} {past future : ℕ}

/-- The window with more items behind it. -/
def Window.extended (future : ℕ) (more : List β) (w : Window β) : Window β :=
  { w with future := (w.future ++ more).take future }

theorem Window.after_append (before items more : List β) :
    after past future before (items ++ more) =
      (after past future before items).map (extended future more) ++
        after past future (items.reverse ++ before) more := by
  induction items generalizing before with
  | nil => rfl
  | cons item items ih =>
    have hfuture : (items ++ more).take future = (items.take future ++ more).take future := by
      rw [List.take_append, List.take_append, List.take_take, Nat.min_self, List.length_take]
      congr 2
      omega
    have hbefore : (item :: items).reverse ++ before = items.reverse ++ item :: before := by simp
    rw [List.cons_append, after, after, ih, hfuture, hbefore]
    rfl

/-- More items change no window but by what they put behind it. -/
theorem windows_append (items more : List β) :
    windows past future (items ++ more) =
      (windows past future items).map (Window.extended future more) ++
        Window.after past future items.reverse more := by
  rw [windows, windows, Window.after_append, List.append_nil]

/-- A window that has all items behind it that it can have stays as it is. -/
theorem Window.extended_of_full {w : Window β} (h : w.future.length = future) (more : List β) :
    w.extended future more = w := by
  rw [extended, List.take_left' h]

end

variable {α : Type} [Scalar α] {checks : Plausibility Id α}

namespace Track

/-! ## The reports that are kept -/

/-- Whether the report in the window at a place is kept. -/
def keptAt (checks : Plausibility Id α) (ws : List (Window (Report α))) (i : ℕ) : Bool :=
  ws[i]?.any fun w => (isKept checks w).run

/-- The places of the reports that are kept. -/
def keptPlaces (checks : Plausibility Id α) (reports : List (Report α)) : List ℕ :=
  (List.range reports.length).filter (keptAt checks (windows pastReports futureReports reports))

/-- Positions stand for the reports at some places, one for one. -/
def StandFor (reports : List (Report α)) (places : List ℕ) (ps : List (Position α)) : Prop :=
  List.Forall₂ (fun i p => ∃ r, reports[i]? = some r ∧ StandsFor r p) places ps

/-- The windows that are kept are those at the places that are. -/
theorem forall₂_keptAmong (ws : List (Window (Report α))) :
    List.Forall₂ (fun i w => ws[i]? = some w) ((List.range ws.length).filter (keptAt checks ws))
      (keptAmong checks ws) := by
  induction ws with
  | nil => exact .nil
  | cons w ws ih =>
    have hkept : keptAt checks (w :: ws) = prepend (isKept checks w).run (keptAt checks ws) := by
      funext i
      cases i <;> rfl
    rw [hkept, List.length_cons, filter_range_prepend]
    have hlater : List.Forall₂ (fun i v => (w :: ws)[i]? = some v)
        (((List.range ws.length).filter (keptAt checks ws)).map (· + 1)) (keptAmong checks ws) :=
      List.forall₂_map_left_iff.2 ih
    cases hw : (isKept checks w).run with
    | false => rwa [keptAmong_cons_of_not_kept hw]
    | true =>
      rw [keptAmong_cons_of_kept hw]
      exact .cons rfl hlater

/-- Whether a report is kept is decided by what stands before it. -/
theorem keptAmong_map_extended (ws : List (Window (Report α))) (more : List (Report α)) :
    keptAmong checks (ws.map (Window.extended futureReports more)) =
      (keptAmong checks ws).map (Window.extended futureReports more) := by
  rw [keptAmong, List.filter_map]
  rfl

/-- Of a longer list the same reports are kept, and maybe some that are new. -/
theorem keptPlaces_append (reports more : List (Report α)) :
    ∃ later, keptPlaces checks (reports ++ more) = keptPlaces checks reports ++ later ∧
      ∀ i ∈ later, reports.length ≤ i := by
  have hsame : ∀ i ∈ List.range reports.length,
      keptAt checks (windows pastReports futureReports (reports ++ more)) i =
        keptAt checks (windows pastReports futureReports reports) i := by
    intro i hi
    have hlt : i < (windows pastReports futureReports reports).length := by
      rw [length_windows]
      exact List.mem_range.1 hi
    rw [keptAt, keptAt, windows_append, List.getElem?_append_left (by simpa using hlt),
      List.getElem?_map, Option.any_map]
    -- the window differs only in what stands behind the report
    rfl
  refine ⟨((List.range more.length).map (reports.length + ·)).filter
    (keptAt checks (windows pastReports futureReports (reports ++ more))), ?_, fun i hi => ?_⟩
  · rw [keptPlaces, keptPlaces, List.length_append, List.range_add, List.filter_append,
      List.filter_congr hsame]
  · obtain ⟨n, -, rfl⟩ := List.mem_map.1 (List.mem_of_mem_filter hi)
    omega

/-! ## The positions of one report -/

/-- Positions of a report that differ at most in the values that replace missing ones: in the speed
if it was not given or not accepted, in the course if it was not given, and in the heading if it is
that course. -/
structure SameButReplaced (checks : Plausibility Id α) (r : Report α) (p q : Position α) :
    Prop where
  instant : p.instant = q.instant
  lon : p.lon = q.lon
  lat : p.lat = q.lat
  tide : p.tide = q.tide
  givenStw : p.givenStw = q.givenStw
  sog : KeepsSog checks r → p.sog = q.sog
  cog : r.cog ≠ none → p.cog = q.cog
  heading : r.heading ≠ none → p.heading = q.heading
  headingIsCog : r.heading = none → p.heading = p.cog ∧ q.heading = q.cog

/-- Nothing differs where nothing was missing. -/
theorem SameButReplaced.eq {r : Report α} {p q : Position α} (h : SameButReplaced checks r p q)
    (hsog : KeepsSog checks r) (hcog : r.cog ≠ none) : p = q := by
  have hheading : p.heading = q.heading := by
    by_cases hnone : r.heading = none
    · obtain ⟨hp, hq⟩ := h.headingIsCog hnone
      rw [hp, hq, h.cog hcog]
    · exact h.heading hnone
  obtain ⟨instant, lon, lat, sog, cog, heading, tide, givenStw⟩ := p
  obtain ⟨instant', lon', lat', sog', cog', heading', tide', givenStw'⟩ := q
  cases h.instant
  cases h.lon
  cases h.lat
  cases h.sog hsog
  cases h.cog hcog
  cases hheading
  cases h.tide
  cases h.givenStw
  rfl

theorem sanitizedSog_of_keepsSog {w : Window (Report α)} {x : α} (hx : w.current.sog = some x)
    (haccepted : (checks.sog x).run = true) : (sanitizedSog checks w).run = x := by
  unfold sanitizedSog
  rw [hx]
  show (if (checks.sog x).run = true then x else replacedSog w) = x
  rw [if_pos haccepted]

/-- The positions that a report becomes among different others. -/
theorem sameButReplaced {w v : Window (Report α)} {p q : Position α}
    (hcurrent : v.current = w.current) (hp : positionOf? checks w = .ok p)
    (hq : positionOf? checks v = .ok q) : SameButReplaced checks w.current p q := by
  obtain ⟨hinstant, hlon, hlat, hsog, hcog, hheading, htide, hstw⟩ :=
    sanitizedPosition?_eq_ok_iff.1 hp
  obtain ⟨hinstant', hlon', hlat', hsog', hcog', hheading', htide', hstw'⟩ :=
    sanitizedPosition?_eq_ok_iff.1 hq
  rw [hcurrent] at hinstant' hlon' hlat' hcog' hheading' htide'
  refine ⟨?instant, ?lon, ?lat, ?tide, ?givenStw, ?sog, ?cog, ?heading, ?headingIsCog⟩
  case instant => exact Except.ok.inj (hinstant.symm.trans hinstant')
  case lon => exact Subtype.ext (hlon.trans hlon'.symm)
  case lat => exact Subtype.ext (hlat.trans hlat'.symm)
  case tide => rw [htide, htide']
  case givenStw => rw [hstw, hstw']
  case sog =>
    rintro ⟨x, hx, haccepted⟩
    refine Subtype.ext ?_
    rw [hsog, hsog', sanitizedSog_of_keepsSog hx haccepted,
      sanitizedSog_of_keepsSog (hcurrent ▸ hx) haccepted]
  case cog =>
    intro hgiven
    obtain ⟨x, hx⟩ := Option.ne_none_iff_exists'.1 hgiven
    refine Subtype.ext ?_
    rw [hcog, hcog', hx, Option.getD_some, Option.getD_some]
  case heading =>
    intro hgiven
    obtain ⟨x, hx⟩ := Option.ne_none_iff_exists'.1 hgiven
    refine Subtype.ext ?_
    rw [hheading, hheading', hx, Option.getD_some, Option.getD_some]
  case headingIsCog =>
    intro hnone
    rw [hnone, Option.getD_none] at hheading hheading'
    exact ⟨Subtype.ext (hheading.trans hcog.symm), Subtype.ext (hheading'.trans hcog'.symm)⟩

/-! ## Tracks of reports and more -/

theorem forall₂_comp {β γ δ : Type} {R : β → γ → Prop} {S : γ → δ → Prop} {bs : List β}
    {cs : List γ} {ds : List δ} (h : List.Forall₂ R bs cs) (h' : List.Forall₂ S cs ds) :
    List.Forall₂ (fun b d => ∃ c, R b c ∧ S c d) bs ds := by
  induction h generalizing ds with
  | nil =>
    cases h'
    exact .nil
  | cons hfirst _ ih =>
    cases h' with
    | cons hfirst' hrest' => exact .cons ⟨_, hfirst, hfirst'⟩ (ih hrest')

/-- The positions of a track are those of the reports that are kept. -/
theorem positions_of_sanitized {reports : List (Report α)} {t : Track α}
    (h : (sanitized? checks reports).run = .ok t) :
    List.Forall₂ (fun w p => positionOf? checks w = .ok p) (survivors checks reports)
      t.positions := by
  obtain ⟨ps, hps, hpositions⟩ := positions_of_extend h
  rw [hpositions]
  exact Outcome.mapM_eq_ok_iff.1 hps

theorem forall₂_survivors (reports : List (Report α)) :
    List.Forall₂ (fun i w => (windows pastReports futureReports reports)[i]? = some w)
      (keptPlaces checks reports) (survivors checks reports) := by
  rw [keptPlaces, ← length_windows pastReports futureReports reports]
  exact forall₂_keptAmong _

theorem standFor_of_sanitized {reports : List (Report α)} {t : Track α}
    (h : (sanitized? checks reports).run = .ok t) :
    StandFor reports (keptPlaces checks reports) t.positions := by
  refine (forall₂_comp (forall₂_survivors reports) (positions_of_sanitized h)).imp ?_
  rintro i p ⟨w, hw, hp⟩
  rw [getElem?_windows] at hw
  obtain ⟨r, hr, rfl⟩ := Option.map_eq_some_iff.1 hw
  exact ⟨r, hr, standsFor_of_sanitizedPosition? hp⟩

/-- The windows that are kept come first among those of a longer list. -/
theorem survivors_append (reports more : List (Report α)) :
    survivors checks (reports ++ more) =
      (survivors checks reports).map (Window.extended futureReports more) ++
        keptAmong checks (Window.after pastReports futureReports reports.reverse more) := by
  rw [survivors, windows_append, keptAmong, List.filter_append]
  exact congrArg (· ++ _) (keptAmong_map_extended _ more)

omit [Scalar α] in
/-- The window of a report that is not the last has all behind it that it can have. -/
theorem length_future_of_not_last {reports : List (Report α)} {i : ℕ} {w : Window (Report α)}
    (hw : (windows pastReports futureReports reports)[i]? = some w) (h : i + 1 < reports.length) :
    w.future.length = futureReports := by
  rw [getElem?_windows] at hw
  obtain ⟨r, -, rfl⟩ := Option.map_eq_some_iff.1 hw
  rw [List.length_take, List.length_drop, futureReports]
  omega

/-- Where reports make a track and these reports and more do so as well: the same of them are kept,
the positions of all but the last of them are the same, and that of the last is the same as well,
but for a speed or a course, and a heading taken from it, that had to be replaced. -/
theorem sanitized?_append {reports more : List (Report α)} {t t' : Track α}
    (h : (sanitized? checks reports).run = .ok t)
    (h' : (sanitized? checks (reports ++ more)).run = .ok t') :
    (∃ later, keptPlaces checks (reports ++ more) = keptPlaces checks reports ++ later ∧
      ∀ i ∈ later, reports.length ≤ i) ∧
    StandFor reports (keptPlaces checks reports) t.positions ∧
    StandFor (reports ++ more) (keptPlaces checks (reports ++ more)) t'.positions ∧
    ∀ k i : ℕ, (keptPlaces checks reports)[k]? = some i →
      ∃ (r : Report α) (p p' : Position α), reports[i]? = some r ∧
        t.positions[k]? = some p ∧ t'.positions[k]? = some p' ∧
        (i + 1 < reports.length → p = p') ∧
        (KeepsSog checks r → r.cog ≠ none → p = p') ∧ SameButReplaced checks r p p' := by
  refine ⟨keptPlaces_append reports more, standFor_of_sanitized h, standFor_of_sanitized h', ?_⟩
  intro k i hi
  obtain ⟨w, hsurvivor, hw⟩ := Outcome.exists_getElem?_of_forall₂ (forall₂_survivors reports) hi
  obtain ⟨p, hp, hposition⟩ :=
    Outcome.exists_getElem?_of_forall₂ (positions_of_sanitized h) hsurvivor
  -- in the longer list the report has the same place among those that are kept
  have hsurvivor' : (survivors checks (reports ++ more))[k]? =
      some (w.extended futureReports more) := by
    have hmap : ((survivors checks reports).map (Window.extended futureReports more))[k]? =
        some (w.extended futureReports more) := by
      rw [List.getElem?_map, hsurvivor, Option.map_some]
    rw [survivors_append,
      List.getElem?_append_left (List.getElem?_eq_some_iff.1 hmap).1, hmap]
  obtain ⟨p', hp', hposition'⟩ :=
    Outcome.exists_getElem?_of_forall₂ (positions_of_sanitized h') hsurvivor'
  have hreport : reports[i]? = some w.current := by
    rw [getElem?_windows] at hw
    obtain ⟨r, hr, rfl⟩ := Option.map_eq_some_iff.1 hw
    exact hr
  have hsame : SameButReplaced checks w.current p p' :=
    sameButReplaced (v := w.extended futureReports more) rfl hposition hposition'
  refine ⟨w.current, p, p', hreport, hp, hp', fun hnext => ?_, hsame.eq, hsame⟩
  have hfull := length_future_of_not_last hw hnext
  rw [Window.extended_of_full hfull] at hposition'
  exact Except.ok.inj (hposition.symm.trans hposition')

/-- A report half way to the stray one. It gives no speed. -/
noncomputable def halfwayReport : Report ℝ := ⟨⟨2000, ⟨30, 0⟩⟩, none, some 0, some 0, none, none⟩

/-- The stray report is left out. The mean of what comes before the last is half way between. -/
noncomputable def strayedReports : List (Report ℝ) :=
  [silentReport, strayReport 1500, halfwayReport]

theorem keptPlaces_strayed : keptPlaces withinDegree strayedReports = [0, 2] := by
  have hfirst : keptAt withinDegree (windows pastReports futureReports strayedReports) 0 = true :=
    rfl
  have hstray : keptAt withinDegree (windows pastReports futureReports strayedReports) 1 =
      false := by
    have hmean : Fix.meanOf [(0 : ℝ)] = 0 := by
      rw [Fix.meanOf, Scalar.sum_real, List.sum_singleton, zero_div]
    refine decide_eq_false ?_
    rintro ⟨hlon, -⟩
    have hlon : |(60 : ℝ) - Fix.meanOf [(0 : ℝ)]| ≤ 1 := hlon
    rw [hmean] at hlon
    norm_num at hlon
  have hhalfway : keptAt withinDegree (windows pastReports futureReports strayedReports) 2 =
      true := by
    have hlon : Fix.meanOf [(0 : ℝ), 60] = 30 := by
      rw [Fix.meanOf, Scalar.sum_real, Scalar.ofInt_real]
      norm_num
    have hlat : Fix.meanOf [(0 : ℝ), 0] = 0 := by
      rw [Fix.meanOf, Scalar.sum_real, Scalar.ofInt_real]
      norm_num
    refine decide_eq_true ?_
    show |(30 : ℝ) - Fix.meanOf [(0 : ℝ), 60]| ≤ 1 ∧ |(0 : ℝ) - Fix.meanOf [(0 : ℝ), 0]| ≤ 1
    rw [hlon, hlat]
    norm_num
  show ([0, 1, 2].filter _) = [0, 2]
  simp [hfirst, hstray, hhalfway]

theorem soundReport_strayed :
    ∀ r ∈ strayedReports ++ [strayReport 2500], SoundReport withinDegree r := by
  have hhalfway : SoundReport withinDegree halfwayReport :=
    soundReport_equator (n := 2000) (by norm_num) (by decide) (by decide) (by norm_num)
      fun x hx => by cases hx
  intro r hr
  simp only [strayedReports, List.cons_append, List.nil_append, List.mem_cons, List.not_mem_nil,
    or_false] at hr
  rcases hr with rfl | rfl | rfl | rfl
  · exact soundReport_silent
  · exact soundReport_stray (n := 1500) (by norm_num) (by decide) (by decide)
  · exact hhalfway
  · exact soundReport_stray (n := 2500) (by norm_num) (by decide) (by decide)

theorem exists_sanitized?_strayed {reports : List (Report ℝ)}
    (h : reports <+: strayedReports ++ [strayReport 2500]) :
    ∃ t, (sanitized? withinDegree reports).run = .ok t := by
  have horder : (strayedReports ++ [strayReport 2500]).Pairwise fun r s =>
      r.fix.time ≤ s.fix.time := by
    norm_num [strayedReports, silentReport, strayReport, halfwayReport]
  exact exists_sanitized?_of_ordered
    (fun w hw => soundReport_strayed _
      (h.subset (current_mem_of_mem_windows (List.mem_of_mem_filter hw))))
    (horder.sublist h.sublist)

/-- A stray report is left out between two others, of which the last gives no speed. When more
comes, the first position stays as it is, and only the speed of the last may change. -/
theorem sanitized?_append_silent :
    ∃ t t', (sanitized? withinDegree strayedReports).run = .ok t ∧
      (sanitized? withinDegree (strayedReports ++ [strayReport 2500])).run = .ok t' ∧
      keptPlaces withinDegree strayedReports = [0, 2] ∧
      (∃ p, t.positions[0]? = some p ∧ t'.positions[0]? = some p) ∧
      ∃ p p', t.positions[1]? = some p ∧ t'.positions[1]? = some p' ∧
        SameButReplaced withinDegree halfwayReport p p' := by
  obtain ⟨t, ht⟩ := exists_sanitized?_strayed (List.prefix_append _ _)
  obtain ⟨t', ht'⟩ := exists_sanitized?_strayed (List.prefix_refl _)
  obtain ⟨-, -, -, hpositions⟩ := sanitized?_append ht ht'
  rw [keptPlaces_strayed] at hpositions
  obtain ⟨-, p, p', -, hp, hp', hsame, -⟩ := hpositions 0 0 rfl
  obtain ⟨r, q, q', hr, hq, hq', -, -, hreplaced⟩ := hpositions 1 2 rfl
  obtain rfl : halfwayReport = r := Option.some.inj hr
  rw [← hsame (by decide)] at hp'
  exact ⟨t, t', ht, ht', keptPlaces_strayed, ⟨p, hp, hp'⟩, q, q', hq, hq', hreplaced⟩

end Track

end ShipEmissions
