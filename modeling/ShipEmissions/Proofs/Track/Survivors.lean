import ShipEmissions.Proofs.Track.Replaced
import ShipEmissions.Proofs.Track.Views

/-!
# Reports that survive

Where the answers on what is plausible have no effects, the reports that are kept can be told in
advance. A track comes out iff each of them becomes a position and these are in the order of time.

* `sanitizedPosition?_eq_ok_iff`: the position that a report makes.
* `sanitized?_isOk_iff`: when reports make a track.
* `exists_sanitized?_of_ordered`: reports in the order of time do if those that are kept are sound.
* `sanitized?_isOk_iff_replaced`: of sound reports only the values that replace missing ones can be
  at fault.
* `discarded_report_spoils_speed`: such a value may come from a report that is left out itself, and
  then there is no track.
-/

namespace ShipEmissions

variable {α : Type} [Scalar α] {checks : Plausibility Id α}

/-! ## Positions from values -/

theorem Longitude.of?_eq_ok_iff {x : α} {lon : Longitude α} :
    Longitude.of? x = .ok lon ↔ lon.val = x := check_eq_ok_iff

theorem Latitude.of?_eq_ok_iff {x : α} {lat : Latitude α} :
    Latitude.of? x = .ok lat ↔ lat.val = x := check_eq_ok_iff

theorem Speed.of?_eq_ok_iff {kind : SpeedKind} {x : α} {speed : Speed α} :
    Speed.of? kind x = .ok speed ↔ speed.val = x := check_eq_ok_iff

theorem Bearing.of?_eq_ok_iff {kind : BearingKind} {x : α} {bearing : Bearing α} :
    Bearing.of? kind x = .ok bearing ↔ bearing.val = x := check_eq_ok_iff

/-- A position holds the values that it is made of, in still water. -/
theorem Position.of?_eq_ok_iff {instant : Instant} {lon lat sog cog heading : α}
    {p : Position α} :
    Position.of? instant lon lat sog cog heading = .ok p ↔
      p.instant = instant ∧ p.lon.val = lon ∧ p.lat.val = lat ∧ p.sog.val = sog ∧
        p.cog.val = cog ∧ p.heading.val = heading ∧ p.tide = .still ∧ p.givenStw = none := by
  constructor
  · intro h
    obtain ⟨lon, hlon, h⟩ := Outcome.bind_eq_ok.1 h
    obtain ⟨lat, hlat, h⟩ := Outcome.bind_eq_ok.1 h
    obtain ⟨sog, hsog, h⟩ := Outcome.bind_eq_ok.1 h
    obtain ⟨cog, hcog, h⟩ := Outcome.bind_eq_ok.1 h
    obtain ⟨heading, hheading, h⟩ := Outcome.bind_eq_ok.1 h
    cases h
    exact ⟨rfl, Longitude.of?_eq_ok_iff.1 hlon, Latitude.of?_eq_ok_iff.1 hlat,
      Speed.of?_eq_ok_iff.1 hsog, Bearing.of?_eq_ok_iff.1 hcog, Bearing.of?_eq_ok_iff.1 hheading,
      rfl, rfl⟩
  · obtain ⟨instant, lon, lat, sog, cog, heading, tide, givenStw⟩ := p
    rintro ⟨rfl, rfl, rfl, rfl, rfl, rfl, rfl, rfl⟩
    refine Outcome.bind_eq_ok.2 ⟨lon, Longitude.of?_eq_ok_iff.2 rfl, ?_⟩
    refine Outcome.bind_eq_ok.2 ⟨lat, Latitude.of?_eq_ok_iff.2 rfl, ?_⟩
    refine Outcome.bind_eq_ok.2 ⟨sog, Speed.of?_eq_ok_iff.2 rfl, ?_⟩
    refine Outcome.bind_eq_ok.2 ⟨cog, Bearing.of?_eq_ok_iff.2 rfl, ?_⟩
    exact Outcome.bind_eq_ok.2 ⟨heading, Bearing.of?_eq_ok_iff.2 rfl, rfl⟩

/-! ## Positions of surviving reports -/

namespace Track

/-- Those of some windows that are about a report that is kept. -/
def keptAmong (checks : Plausibility Id α) (ws : List (Window (Report α))) :
    List (Window (Report α)) :=
  ws.filter fun w => (isKept checks w).run

/-- The reports that are kept, with those around them. -/
def survivors (checks : Plausibility Id α) (reports : List (Report α)) :
    List (Window (Report α)) :=
  keptAmong checks (windows pastReports futureReports reports)

/-- The position that a report becomes. -/
def positionOf? (checks : Plausibility Id α) (w : Window (Report α)) :
    Except (Fault α) (Position α) :=
  sanitizedPosition? w (sanitizedSog checks w).run

variable {t : Track α} {w : Window (Report α)} {ws : List (Window (Report α))}

theorem keptAmong_cons_of_not_kept (h : (isKept checks w).run = false) :
    keptAmong checks (w :: ws) = keptAmong checks ws :=
  List.filter_cons_of_neg (by rw [h]; decide)

theorem keptAmong_cons_of_kept (h : (isKept checks w).run = true) :
    keptAmong checks (w :: ws) = w :: keptAmong checks ws := List.filter_cons_of_pos h

theorem extend_of_not_kept (h : (isKept checks w).run = false) :
    (extend? checks t (w :: ws)).run = (extend? checks t ws).run := by
  show Id.run (if (isKept checks w).run = true then _ else _) = _
  rw [h]
  rfl

theorem extend_of_kept (h : (isKept checks w).run = true) :
    (extend? checks t (w :: ws)).run =
      ((positionOf? checks w).bind t.append?).bind fun t' => (extend? checks t' ws).run := by
  show Id.run (if (isKept checks w).run = true then _ else _) = _
  rw [if_pos h, positionOf?]
  dsimp only [Id.run, bind]
  cases (sanitizedPosition? w (sanitizedSog checks w)).bind t.append? <;> rfl

/-- A run that succeeds adds the positions of the reports that are kept. -/
theorem positions_of_extend {t' : Track α} (h : (extend? checks t ws).run = .ok t') :
    ∃ ps, (keptAmong checks ws).mapM (positionOf? checks) = .ok ps ∧
      t'.positions = t.positions ++ ps := by
  induction ws generalizing t with
  | nil =>
    cases h
    exact ⟨[], rfl, (List.append_nil _).symm⟩
  | cons w ws ih =>
    cases hkept : (isKept checks w).run with
    | false =>
      rw [extend_of_not_kept hkept] at h
      rw [keptAmong_cons_of_not_kept hkept]
      exact ih h
    | true =>
      rw [extend_of_kept hkept] at h
      obtain ⟨between, hadd, h⟩ := Outcome.bind_eq_ok.1 h
      obtain ⟨p, hp, happend⟩ := Outcome.bind_eq_ok.1 hadd
      obtain ⟨ps, hps, hpositions⟩ := ih h
      refine ⟨p :: ps, ?_, ?_⟩
      · rw [keptAmong_cons_of_kept hkept, Outcome.mapM_eq_ok_iff]
        exact .cons hp (Outcome.mapM_eq_ok_iff.1 hps)
      · rw [hpositions, (append?_eq_ok_iff.1 happend).2.1, List.append_assoc]
        rfl

/-- Positions in the order of time are all added. -/
theorem exists_extend {ps : List (Position α)}
    (hps : (keptAmong checks ws).mapM (positionOf? checks) = .ok ps)
    (horder : (t.positions ++ ps).Pairwise fun p q => p.instant ≤ q.instant) :
    ∃ t', (extend? checks t ws).run = .ok t' := by
  induction ws generalizing t ps with
  | nil => exact ⟨t, rfl⟩
  | cons w ws ih =>
    cases hkept : (isKept checks w).run with
    | false =>
      rw [keptAmong_cons_of_not_kept hkept] at hps
      rw [extend_of_not_kept hkept]
      exact ih hps horder
    | true =>
      rw [keptAmong_cons_of_kept hkept, Outcome.mapM_eq_ok_iff] at hps
      obtain ⟨p, rest, hp, hrest, rfl⟩ := List.forall₂_cons_left_iff.1 hps
      have hlast : ∀ q, t.positions.getLast? = some q → q.instant ≤ p.instant := fun q hq =>
        (List.pairwise_append.1 horder).2.2 q (List.mem_of_getLast? hq) p List.mem_cons_self
      obtain ⟨between, hbetween⟩ := exists_append? hlast
      have hpositions := (append?_eq_ok_iff.1 hbetween).2.1
      have horder : (between.positions ++ rest).Pairwise fun p q => p.instant ≤ q.instant := by
        rw [hpositions, List.append_assoc]
        exact horder
      obtain ⟨t', ht'⟩ := ih (Outcome.mapM_eq_ok_iff.2 hrest) horder
      refine ⟨t', ?_⟩
      rw [extend_of_kept hkept, hp]
      show (t.append? p).bind _ = _
      rw [hbetween]
      exact ht'

/-- Reports make a track iff those that are kept become positions in the order of time. -/
theorem sanitized?_isOk_iff {reports : List (Report α)} :
    (∃ t, (sanitized? checks reports).run = .ok t) ↔
      ∃ ps, (survivors checks reports).mapM (positionOf? checks) = .ok ps ∧
        ps.Pairwise fun p q => p.instant ≤ q.instant := by
  constructor
  · rintro ⟨t, ht⟩
    obtain ⟨ps, hps, hpositions⟩ := positions_of_extend ht
    refine ⟨ps, hps, ?_⟩
    have horder := t.pairwise_positions
    rwa [hpositions] at horder
  · rintro ⟨ps, hps, horder⟩
    exact exists_extend hps horder

/-- What a report becomes: its own values as far as it has them, and the water flows as it says. -/
theorem sanitizedPosition?_eq_ok_iff {sog : α} {p : Position α} :
    sanitizedPosition? w sog = .ok p ↔
      Instant.ofSeconds? w.current.fix.time = .ok p.instant ∧
        p.lon.val = w.current.fix.place.lon ∧ p.lat.val = w.current.fix.place.lat ∧
        p.sog.val = sog ∧ p.cog.val = w.current.cog.getD (replacedCog w) ∧
        p.heading.val = w.current.heading.getD (w.current.cog.getD (replacedCog w)) ∧
        p.tide = w.current.tide ∧ p.givenStw = none := by
  constructor
  · intro h
    obtain ⟨instant, hinstant, h⟩ := Outcome.bind_eq_ok.1 h
    obtain ⟨q, hq, h⟩ := Outcome.bind_eq_ok.1 h
    cases h
    obtain ⟨rfl, hlon, hlat, hsog, hcog, hheading, -, -⟩ := Position.of?_eq_ok_iff.1 hq
    exact ⟨hinstant, hlon, hlat, hsog, hcog, hheading, rfl, rfl⟩
  · rintro ⟨hinstant, hlon, hlat, hsog, hcog, hheading, htide, hstw⟩
    refine Outcome.bind_eq_ok.2 ⟨p.instant, hinstant, ?_⟩
    refine Outcome.bind_eq_ok.2 ⟨{ p with tide := .still, givenStw := none }, ?_, ?_⟩
    · exact Position.of?_eq_ok_iff.2 ⟨rfl, hlon, hlat, hsog, hcog, hheading, rfl, rfl⟩
    · cases p
      cases htide
      cases hstw
      rfl

/-! ## Sound reports -/

/-- What a report gives itself makes sense, apart from a speed that is not accepted. -/
structure SoundReport (checks : Plausibility Id α) (r : Report α) : Prop where
  instant : ∃ instant, Instant.ofSeconds? r.fix.time = .ok instant
  lon : IsLongitude r.fix.place.lon
  lat : IsLatitude r.fix.place.lat
  sog : ∀ x, r.sog = some x → (checks.sog x).run = true → IsSpeed x
  cog : ∀ x, r.cog = some x → IsBearing x
  heading : ∀ x, r.heading = some x → IsBearing x

/-- The report gives a speed, and this is accepted. -/
def KeepsSog (checks : Plausibility Id α) (r : Report α) : Prop :=
  ∃ x, r.sog = some x ∧ (checks.sog x).run = true

theorem isSpeed_sanitizedSog_iff (h : SoundReport checks w.current) :
    IsSpeed (sanitizedSog checks w).run ↔
      (¬KeepsSog checks w.current → IsSpeed (replacedSog w)) := by
  unfold sanitizedSog
  split
  · next hsog =>
    have hmissing : ¬KeepsSog checks w.current := by
      rintro ⟨x, hx, -⟩
      cases hsog.symm.trans hx
    exact (imp_iff_right hmissing).symm
  · next x hsog =>
    show IsSpeed (if (checks.sog x).run = true then x else replacedSog w) ↔ _
    by_cases haccepted : (checks.sog x).run = true
    · rw [if_pos haccepted]
      exact iff_of_true (h.sog x hsog haccepted) fun hkeeps => absurd ⟨x, hsog, haccepted⟩ hkeeps
    · have hrejected : ¬KeepsSog checks w.current := by
        rintro ⟨y, hy, haccepts⟩
        cases hsog.symm.trans hy
        exact haccepted haccepts
      rw [if_neg haccepted]
      exact (imp_iff_right hrejected).symm

theorem isBearing_sanitizedCog_iff (h : SoundReport checks w.current) :
    IsBearing (w.current.cog.getD (replacedCog w)) ↔
      (w.current.cog = none → IsBearing (replacedCog w)) := by
  cases hcog : w.current.cog with
  | none => exact (imp_iff_right rfl).symm
  | some x => exact iff_of_true (h.cog x hcog) fun hnone => by cases hnone

/-- Of a sound report only a value that replaces a missing one can be at fault. -/
theorem exists_positionOf?_iff (h : SoundReport checks w.current) :
    (∃ p, positionOf? checks w = .ok p) ↔
      (¬KeepsSog checks w.current → IsSpeed (replacedSog w)) ∧
        (w.current.cog = none → IsBearing (replacedCog w)) := by
  rw [← isSpeed_sanitizedSog_iff h, ← isBearing_sanitizedCog_iff h]
  constructor
  · rintro ⟨p, hp⟩
    obtain ⟨-, -, -, hsog, hcog, -⟩ := sanitizedPosition?_eq_ok_iff.1 hp
    rw [← hsog, ← hcog]
    exact ⟨p.sog.property, p.cog.property⟩
  · rintro ⟨hsog, hcog⟩
    have hheading :
        IsBearing (w.current.heading.getD (w.current.cog.getD (replacedCog w))) := by
      cases hheading : w.current.heading with
      | none => exact hcog
      | some x => exact h.heading x hheading
    obtain ⟨instant, hinstant⟩ := h.instant
    exact ⟨⟨instant, ⟨_, h.lon⟩, ⟨_, h.lat⟩, ⟨_, hsog⟩, ⟨_, hcog⟩, ⟨_, hheading⟩, w.current.tide,
      none⟩, sanitizedPosition?_eq_ok_iff.2 ⟨hinstant, rfl, rfl, rfl, rfl, rfl, rfl, rfl⟩⟩

/-- The instants of reports are in the order of time. -/
def Ordered (ws : List (Window (Report α))) : Prop :=
  ws.Pairwise fun v w => ∀ i j, Instant.ofSeconds? v.current.fix.time = .ok i →
    Instant.ofSeconds? w.current.fix.time = .ok j → i ≤ j

theorem pairwise_positionsOf {ps : List (Position α)} (horder : Ordered ws)
    (h : List.Forall₂ (fun w p => Instant.ofSeconds? w.current.fix.time = .ok p.instant) ws ps) :
    ps.Pairwise fun p q => p.instant ≤ q.instant := by
  induction h with
  | nil => exact List.Pairwise.nil
  | @cons v p ws ps hp hps ih =>
    obtain ⟨hfirst, hrest⟩ := List.pairwise_cons.1 horder
    refine List.pairwise_cons.2 ⟨?_, ih hrest⟩
    intro q hq
    obtain ⟨i, hi⟩ := List.mem_iff_getElem?.1 hq
    obtain ⟨w, hw, hwq⟩ := Outcome.exists_getElem?_of_forall₂ hps.flip hi
    exact hfirst w (List.mem_of_getElem? hw) _ _ hp hwq

/-- Reports whose survivors are in the order of time make a track iff each survivor becomes a
position. -/
theorem sanitized?_isOk_iff_positions {reports : List (Report α)}
    (horder : Ordered (survivors checks reports)) :
    (∃ t, (sanitized? checks reports).run = .ok t) ↔
      ∀ w ∈ survivors checks reports, ∃ p, positionOf? checks w = .ok p := by
  rw [sanitized?_isOk_iff, ← Outcome.exists_mapM_eq_ok_iff]
  constructor
  · rintro ⟨ps, hps, -⟩
    exact ⟨ps, hps⟩
  · rintro ⟨ps, hps⟩
    refine ⟨ps, hps, pairwise_positionsOf horder ?_⟩
    exact (Outcome.mapM_eq_ok_iff.1 hps).imp fun w p hp => (sanitizedPosition?_eq_ok_iff.1 hp).1

/-- Reports in the order of time make a track if those that are kept are sound, whatever the others
say. -/
theorem exists_sanitized?_of_ordered {checks : Plausibility Id ℝ} {reports : List (Report ℝ)}
    (hsound : ∀ w ∈ survivors checks reports, SoundReport checks w.current)
    (horder : reports.Pairwise fun r s => r.fix.time ≤ s.fix.time) :
    ∃ t, (sanitized? checks reports).run = .ok t := by
  have hsurvivors : Ordered (survivors checks reports) := by
    have hall : (windows pastReports futureReports reports).Pairwise fun v w =>
        v.current.fix.time ≤ w.current.fix.time := by
      rw [← map_current_windows pastReports futureReports reports, List.pairwise_map] at horder
      exact horder
    exact (hall.sublist List.filter_sublist).imp fun h i j => Instant.ofSeconds?_mono h
  rw [sanitized?_isOk_iff_positions hsurvivors]
  intro w hw
  rw [exists_positionOf?_iff (hsound w hw)]
  have hwindow : w ∈ windows pastReports futureReports reports := List.mem_of_mem_filter hw
  exact ⟨fun _ => isSpeed_replacedSog (le_of_mem_adjacentMoves horder hwindow),
    fun _ => isBearing_replacedCog w⟩

/-! ## A stray report -/

/-- A move is plausible within a degree, and every speed is. -/
noncomputable def withinDegree : Plausibility Id ℝ where
  sog _ := true
  move a b := decide (|b.place.lon - a.place.lon| ≤ 1 ∧ |b.place.lat - a.place.lat| ≤ 1)

/-- A report that gives no speed. -/
noncomputable def silentReport : Report ℝ := ⟨⟨1000, ⟨0, 0⟩⟩, none, some 0, some 0, none, none⟩

/-- A report from far away. -/
noncomputable def strayReport (time : ℝ) : Report ℝ :=
  ⟨⟨time, ⟨60, 0⟩⟩, some 5, some 0, some 0, none, none⟩

/-- The report that is kept, with the stray one behind it. -/
noncomputable def silentWindow (time : ℝ) : Window (Report ℝ) :=
  ⟨[], silentReport, [strayReport time]⟩

theorem survivors_stray (time : ℝ) :
    survivors withinDegree [silentReport, strayReport time] = [silentWindow time] := by
  have hstray : (isKept withinDegree ⟨[silentReport], strayReport time, []⟩).run = false := by
    have hmean : (Fix.mean [silentReport.fix]).place.lon = 0 := by
      show Fix.meanOf [(0 : ℝ)] = 0
      rw [Fix.meanOf, Scalar.sum_real, List.sum_singleton, zero_div]
    refine decide_eq_false ?_
    rintro ⟨hlon, -⟩
    have hlon : |(60 : ℝ) - (Fix.mean [silentReport.fix]).place.lon| ≤ 1 := hlon
    rw [hmean] at hlon
    norm_num at hlon
  show keptAmong withinDegree [silentWindow time, ⟨[silentReport], strayReport time, []⟩] = _
  rw [keptAmong_cons_of_kept rfl, keptAmong_cons_of_not_kept hstray]
  rfl

/-- Whole seconds are an instant, as far as there are dates for it. -/
theorem ofSeconds?_intCast {n : ℤ} (hearliest : .earliest ≤ Instant.ofMillis (n * 1000))
    (hlatest : Instant.ofMillis (n * 1000) ≤ .latest) :
    Instant.ofSeconds? (n : ℝ) = .ok (.ofMillis (n * 1000)) := by
  have hexact : (n : ℝ) * (@OfNat.ofNat ℝ 1000 Scalar.instOfNat) = ((n * 1000 : ℤ) : ℝ) := by
    rw [Scalar.ofNat_real]
    push_cast
    ring
  refine Instant.ofSeconds?_eq_ok_iff.2 ⟨rfl, ?_, hearliest, hlatest⟩
  rw [hexact, Scalar.round_real_intCast]

theorem ofSeconds?_silent : Instant.ofSeconds? silentReport.fix.time =
    .ok (.ofMillis 1000000) := by
  have hwhole : silentReport.fix.time = ((1000 : ℤ) : ℝ) := by norm_num [silentReport]
  rw [hwhole]
  exact ofSeconds?_intCast (by decide) (by decide)

/-- Reports from the equator on a course to the north, at whole seconds, are sound. -/
theorem soundReport_equator {time lon : ℝ} {sog : Option ℝ} {n : ℤ} (htime : time = n)
    (hearliest : .earliest ≤ Instant.ofMillis (n * 1000))
    (hlatest : Instant.ofMillis (n * 1000) ≤ .latest) (hlon : IsLongitude lon)
    (hsog : ∀ x, sog = some x → IsSpeed x) :
    SoundReport withinDegree ⟨⟨time, ⟨lon, 0⟩⟩, sog, some 0, some 0, none, none⟩ where
  instant := by
    subst htime
    exact ⟨_, ofSeconds?_intCast hearliest hlatest⟩
  lon := hlon
  lat := by norm_num
  sog := fun x hx _ => hsog x hx
  cog := by
    rintro x ⟨⟩
    norm_num
  heading := by
    rintro x ⟨⟩
    norm_num

theorem soundReport_silent : SoundReport withinDegree silentReport :=
  soundReport_equator (n := 1000) (by norm_num) (by decide) (by decide) (by norm_num)
    fun x hx => by cases hx

theorem soundReport_stray {time : ℝ} {n : ℤ} (htime : time = n)
    (hearliest : .earliest ≤ Instant.ofMillis (n * 1000))
    (hlatest : Instant.ofMillis (n * 1000) ≤ .latest) :
    SoundReport withinDegree (strayReport time) := by
  refine soundReport_equator htime hearliest hlatest (by norm_num) ?_
  rintro x ⟨⟩
  norm_num

theorem soundReport_survivors (time : ℝ) :
    ∀ w ∈ survivors withinDegree [silentReport, strayReport time],
      SoundReport withinDegree w.current := by
  rw [survivors_stray]
  intro w hw
  cases List.mem_singleton.1 hw
  exact soundReport_silent

theorem ordered_survivors (time : ℝ) :
    Ordered (survivors withinDegree [silentReport, strayReport time]) := by
  rw [survivors_stray]
  exact List.pairwise_singleton _ _

/-- The stray report is a sixth of the equator away. -/
theorem distance_stray (time : ℝ) :
    0 < silentReport.fix.place.distance (strayReport time).fix.place := by
  show 0 < Place.distance ⟨(0 : ℝ), 0⟩ ⟨60, 0⟩
  have hzero : Scalar.toRadians (0 : ℝ) = 0 := zero_mul _
  have hsixth : Scalar.toRadians ((60 : ℕ) : ℝ) = Real.pi / 3 := by
    show (60 : ℕ) * (Real.pi / 180) = _
    push_cast
    ring
  have hstill : Scalar.sin ((0 : ℝ) / (2 : ℕ)) = 0 := by
    rw [zero_div]
    exact Real.sin_zero
  have hcos : Scalar.cos (0 : ℝ) = 1 := Real.cos_zero
  have hsin : Scalar.sin (Real.pi / 3 / (2 : ℕ)) = (1 / 2 : ℝ) := by
    rw [← Real.sin_pi_div_six]
    exact congrArg Real.sin (by push_cast; ring)
  rw [Place.distance]
  simp only [Scalar.ofNat_real, sub_zero, hzero]
  rw [hsixth, hstill, hcos, hsin]
  refine mul_pos ?_ (Scalar.atan2_pos (Real.sqrt_pos.2 (by norm_num)))
  rw [Place.earthRadius, Scalar.ofInt_real]
  norm_num

theorem replacedSog_stray : replacedSog (silentWindow 0) < 0 := by
  have hspeed : silentReport.fix.speedTo (strayReport 0).fix < 0 := by
    have hhours : ((0 : ℝ) - 1000) / (@OfNat.ofNat ℝ 3600 Scalar.instOfNat) < 0 := by
      rw [Scalar.ofNat_real]
      norm_num
    show (if _ then _ else _) < (0 : ℝ)
    rw [if_neg]
    · rw [nauticalMiles, metersPerMile, Scalar.ofInt_real]
      exact div_neg_of_neg_of_pos (div_neg_of_pos_of_neg (distance_stray 0) hhours) (by norm_num)
    · rw [beq_iff_eq, Scalar.ofNat_real 0, Nat.cast_zero]
      exact hhours.ne
  show Scalar.least (Fix.meanOf [silentReport.fix.speedTo (strayReport 0).fix]) _ < 0
  rw [Scalar.least_real, Fix.meanOf, Scalar.sum_real, List.sum_singleton]
  refine min_lt_of_left_lt ?_
  exact div_neg_of_neg_of_pos hspeed (Nat.cast_pos.2 Nat.one_pos)

/-! ## Replaced values at fault -/

/-- Where the reports that are kept are sound and in the order of time, there is a track iff every
speed and every course that replaces a missing one makes sense. -/
theorem sanitized?_isOk_iff_replaced {reports : List (Report α)}
    (hsound : ∀ w ∈ survivors checks reports, SoundReport checks w.current)
    (horder : Ordered (survivors checks reports)) :
    (∃ t, (sanitized? checks reports).run = .ok t) ↔
      ∀ w ∈ survivors checks reports,
        (¬KeepsSog checks w.current → IsSpeed (replacedSog w)) ∧
          (w.current.cog = none → IsBearing (replacedCog w)) := by
  rw [sanitized?_isOk_iff_positions horder]
  exact forall₂_congr fun w hw => exists_positionOf?_iff (hsound w hw)

/-- A stray report that is later does no harm: the speed that it gives is one. -/
theorem sanitized?_isOk_iff_replaced_later :
    (∀ w ∈ survivors withinDegree [silentReport, strayReport 2000],
      SoundReport withinDegree w.current) ∧
    Ordered (survivors withinDegree [silentReport, strayReport 2000]) ∧
    ∃ t, (sanitized? withinDegree [silentReport, strayReport 2000]).run = .ok t := by
  have hsound := soundReport_survivors 2000
  have horder := ordered_survivors 2000
  refine ⟨hsound, horder, (sanitized?_isOk_iff_replaced hsound horder).2 ?_⟩
  intro w hw
  rw [survivors_stray] at hw
  cases List.mem_singleton.1 hw
  refine ⟨fun _ => isSpeed_replacedSog ?_, fun _ => isBearing_replacedCog _⟩
  intro move hmove
  cases List.mem_singleton.1 hmove
  show (1000 : ℝ) ≤ 2000
  norm_num

/-- A report that is left out, as it is too far away, is also too early: then the mean speed to it
is negative, and there is no track. -/
theorem discarded_report_spoils_speed :
    (∀ w ∈ survivors withinDegree [silentReport, strayReport 0],
      SoundReport withinDegree w.current) ∧
    Ordered (survivors withinDegree [silentReport, strayReport 0]) ∧
    ¬∃ t, (sanitized? withinDegree [silentReport, strayReport 0]).run = .ok t := by
  refine ⟨soundReport_survivors 0, ordered_survivors 0, ?_⟩
  rw [sanitized?_isOk_iff_positions (ordered_survivors 0), survivors_stray]
  intro hpositions
  have hposition := hpositions (silentWindow 0) (List.mem_singleton_self _)
  have hsilent : ¬KeepsSog withinDegree silentReport := by
    rintro ⟨x, ⟨⟩, -⟩
  have hspeed := ((exists_positionOf?_iff soundReport_silent).1 hposition).1 hsilent
  exact absurd replacedSog_stray (not_lt.2 (isSpeed_real.1 hspeed))

end Track

end ShipEmissions
