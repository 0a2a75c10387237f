import Mathlib.Data.List.Induction
import ShipEmissions.Proofs.Rule.Language

/-!
# The registry of names

Every call that registers a name either adds that name or is refused and does nothing. So a name
that is registered stays registered, with the check that it got, and a criterion on it is accepted
or refused ever after as it is now.

* `Names.on_steps`: what one call answers, and what it leaves.
* `Names.Within`, `Names.within_after`: nothing that is registered is ever changed or removed.
* `Names.isRegistered_after_iff`: what is registered after any number of calls.
* `Criterion.accept?_congr`, `Rule.criterion?_congr`: criteria on a name depend on its entry alone.
* `Names.SameVerdicts`: two registries under which criteria on a name are built alike.
* `Names.written_once`: all of this for calls that start with the built-in names.
-/

namespace ShipEmissions

namespace Names

/-! ## Calls -/

/-- A call that registers a name. -/
inductive Call where
  | register (name : String)
  | registerWith (name : String) (check : Check)

namespace Call

/-- The name that a call registers. -/
def name : Call → String
  | register name => name
  | registerWith name _ => name

/-- The check that a call registers for its name. -/
def check : Call → Option Check
  | register _ => none
  | registerWith _ check => some check

/-- What a call does. -/
def steps : Call → Registering Unit
  | register name => Names.register name
  | registerWith name check => Names.registerWith name check

/-- The call goes through. -/
def Succeeds (call : Call) (names : Names) : Prop := (call.steps.on names).1 = .ok ()

/-- The names that a call leaves. -/
def next (call : Call) (names : Names) : Names := (call.steps.on names).2

end Call

/-- The names after some calls. -/
def after (names : Names) (calls : List Call) : Names :=
  calls.foldl (fun names call => call.next names) names

/-- One of the calls has gone through, after those before it, and registered the name. -/
def RegisteredBy (names : Names) (calls : List Call) (name : String) : Prop :=
  ∃ earlier call, earlier ++ [call] <+: calls ∧ call.name = name ∧
    call.Succeeds (names.after earlier)

variable {names small large : Names} {name : String} {call : Call} {calls : List Call}

/-! ## One call -/

theorem on_enter (name : String) (check : Option Check) :
    (enter name check).on names =
      match names.register? name check with
      | .ok names' => (.ok (), names')
      | .error e => (.error e, names) := by
  -- the names are read before they are written, so what is refused has changed nothing
  show Registering.on (do set (← ofExcept (names.register? name check))) names = _
  cases names.register? name check <;> rfl

theorem on_steps (call : Call) (names : Names) :
    call.steps.on names =
      if names.isRegistered call.name then (.error (.nameTaken call.name), names)
      else (.ok (), ⟨names.checks.insert call.name call.check⟩) := by
  have hsteps : call.steps = enter call.name call.check := by cases call <;> rfl
  rw [hsteps, on_enter, register?]
  cases names.isRegistered call.name <;> rfl

theorem succeeds_iff : call.Succeeds names ↔ names.isRegistered call.name = false := by
  rw [Call.Succeeds, on_steps]
  cases names.isRegistered call.name <;> simp

/-- A refused call says that the name is taken, and does nothing. -/
theorem eq_of_refused {e : Error} (h : (call.steps.on names).1 = .error e) :
    e = .nameTaken call.name ∧ (call.steps.on names).2 = names := by
  rw [on_steps] at h ⊢
  cases hname : names.isRegistered call.name with
  | true =>
    rw [hname, if_pos rfl] at h
    exact ⟨(Except.error.inj h).symm, rfl⟩
  | false =>
    rw [hname] at h
    cases h

theorem getElem?_next (call : Call) (names : Names) (name : String) :
    (call.next names).checks[name]? =
      if call.name = name ∧ names.isRegistered name = false then some call.check
      else names.checks[name]? := by
  rw [Call.next, on_steps]
  cases hname : names.isRegistered call.name with
  | true =>
    rw [if_pos rfl, if_neg]
    rintro ⟨rfl, hfree⟩
    rw [hname] at hfree
    cases hfree
  | false =>
    by_cases h : call.name = name
    · subst h
      simp [hname]
    · simp [h, Std.ExtTreeMap.getElem?_insert]

/-! ## Registered names -/

theorem isRegistered_iff :
    names.isRegistered name = true ↔ ∃ check, names.checks[name]? = some check := by
  rw [isRegistered, Std.ExtTreeMap.contains_eq_isSome_getElem?, Option.isSome_iff_exists]

/-- Every name of `small` is registered in `large` with the same check. -/
def Within (small large : Names) : Prop :=
  ∀ (name : String) (check : Option Check), small.checks[name]? = some check →
    large.checks[name]? = some check

theorem Within.refl (names : Names) : names.Within names := fun _ _ h => h

theorem Within.trans {middle : Names} (h : small.Within middle) (h' : middle.Within large) :
    small.Within large :=
  fun name check hname => h' name check (h name check hname)

/-- A registered name has the same entry in every registry that keeps it. -/
theorem Within.getElem?_eq (h : small.Within large) (hname : small.isRegistered name = true) :
    large.checks[name]? = small.checks[name]? := by
  obtain ⟨check, hcheck⟩ := isRegistered_iff.1 hname
  rw [h name check hcheck, hcheck]

theorem within_next (call : Call) (names : Names) : names.Within (call.next names) := by
  intro name check hcheck
  have hname : names.isRegistered name = true := isRegistered_iff.2 ⟨check, hcheck⟩
  rw [getElem?_next, hname, if_neg (by simp), hcheck]

theorem isRegistered_next_iff :
    (call.next names).isRegistered name = true ↔
      names.isRegistered name = true ∨ call.name = name := by
  rw [isRegistered_iff, getElem?_next, isRegistered_iff]
  cases hname : names.isRegistered name with
  | true => simp [isRegistered_iff.1 hname]
  | false =>
    by_cases h : call.name = name
    · simp [h]
    · simp [h]

/-! ## Many calls -/

theorem after_append (names : Names) (calls later : List Call) :
    names.after (calls ++ later) = (names.after calls).after later := by
  rw [after, List.foldl_append]
  rfl

theorem after_concat (names : Names) (calls : List Call) (call : Call) :
    names.after (calls ++ [call]) = call.next (names.after calls) := after_append names calls [call]

theorem within_after (names : Names) (calls : List Call) : names.Within (names.after calls) := by
  induction calls using List.reverseRecOn with
  | nil => exact .refl names
  | append_singleton calls call ih =>
    rw [after_concat]
    exact ih.trans (within_next call _)

theorem registeredBy_concat :
    names.RegisteredBy (calls ++ [call]) name ↔
      names.RegisteredBy calls name ∨ call.name = name ∧ call.Succeeds (names.after calls) := by
  simp only [RegisteredBy, List.prefix_concat_iff]
  constructor
  · rintro ⟨earlier, c, h | h, hname, hsucceeds⟩
    · obtain ⟨rfl, hlast⟩ := List.append_inj' h rfl
      obtain rfl := List.singleton_inj.1 hlast
      exact .inr ⟨hname, hsucceeds⟩
    · exact .inl ⟨earlier, c, h, hname, hsucceeds⟩
  · rintro (⟨earlier, c, h, hname, hsucceeds⟩ | ⟨hname, hsucceeds⟩)
    · exact ⟨earlier, c, .inr h, hname, hsucceeds⟩
    · exact ⟨calls, call, .inl rfl, hname, hsucceeds⟩

/-- What is registered was so from the start, or one of the calls has registered it. -/
theorem isRegistered_after_iff :
    (names.after calls).isRegistered name = true ↔
      names.isRegistered name = true ∨ names.RegisteredBy calls name := by
  induction calls using List.reverseRecOn with
  | nil => simp [after, RegisteredBy]
  | append_singleton calls call ih =>
    rw [after_concat, isRegistered_next_iff, registeredBy_concat, ih, succeeds_iff,
      ← Bool.not_eq_true, ← or_assoc]
    by_cases hname : call.name = name
    · rw [hname, ih]
      tauto
    · simp [hname]

theorem isRegistered_builtIn_iff :
    builtIn.isRegistered name = true ↔ name ∈ builtInChecks.map Prod.fst := by
  rw [isRegistered, builtIn, Std.ExtTreeMap.contains_iff_mem, Std.ExtTreeMap.mem_ofList,
    List.contains_iff_mem]

end Names

/-! ## Verdicts on criteria -/

variable {names names' : Names} {name : String}

namespace Criterion

theorem accept?_congr {c : Criterion} (h : names.checks[c.name]? = names'.checks[c.name]?) :
    accept? names c = accept? names' c := by
  rw [accept?, accept?, h]

theorem within?_congr (h : names.checks[name]? = names'.checks[name]?) (lower upper : Float) :
    within? names name lower upper = within? names' name lower upper := by
  rw [within?, within?]
  cases Interval.of? lower upper with
  | none => rfl
  | some range => exact accept?_congr h

theorem anyOf?_congr (h : names.checks[name]? = names'.checks[name]?) (cs : List Criterion) :
    anyOf? names name cs = anyOf? names' name cs := by
  rw [anyOf?, anyOf?]
  split
  · exact accept?_congr h
  · rfl

end Criterion

/-- The entry of a name decides which specs are read under it, and what is wrong with the others. -/
theorem Rule.criterion?_congr (h : names.checks[name]? = names'.checks[name]?) (doc : Json) :
    criterion? names name doc = criterion? names' name doc := by
  induction doc using spec_induction with
  | other doc hother =>
    rw [criterion?, criterion?]
    · cases Value.ofJson? doc with
      | none => rfl
      | some v => exact Criterion.accept?_congr h
    · exact hother
    · exact hother
  | object fields ih =>
    rw [criterion?, criterion?, alternatives?_eq, alternatives?_eq]
    split
    · split
      · exact Criterion.within?_congr h _ _
      · rfl
    · cases hitems : fields.lookup "any_of" with
      | none => rfl
      | some value =>
        cases value with
        | array items =>
          have hread : items.mapM (criterion? names name) = items.mapM (criterion? names' name) :=
            Outcome.mapM_congr (ih items hitems)
          have hany : Criterion.anyOf? names name = Criterion.anyOf? names' name :=
            funext (Criterion.anyOf?_congr h)
          simp only [hread, hany]
        | _ => rfl

namespace Names

/-- Criteria on a name are built alike under two registries, or refused for the same reason: specs
of any depth, constants, intervals and alternatives. -/
structure SameVerdicts (names names' : Names) (name : String) : Prop where
  spec : ∀ doc : Json, Rule.criterion? names' name doc = Rule.criterion? names name doc
  constant : ∀ v : Value, Criterion.equals? names' name v = Criterion.equals? names name v
  interval : ∀ lower upper : Float,
    Criterion.within? names' name lower upper = Criterion.within? names name lower upper
  alternatives : ∀ cs : List Criterion,
    Criterion.anyOf? names' name cs = Criterion.anyOf? names name cs

variable {small large : Names}

theorem Within.sameVerdicts (h : small.Within large) (hname : small.isRegistered name = true) :
    SameVerdicts small large name := by
  have hentry := h.getElem?_eq hname
  exact ⟨Rule.criterion?_congr hentry, fun v => Criterion.accept?_congr hentry,
    Criterion.within?_congr hentry, Criterion.anyOf?_congr hentry⟩

theorem Within.accept?_eq_ok {c : Criterion} (h : small.Within large)
    (hc : Criterion.accept? small c = .ok c) : Criterion.accept? large c = .ok c := by
  obtain ⟨-, hname, -⟩ := Criterion.accept?_eq_ok_iff.1 hc
  rw [Criterion.accept?_congr (h.getElem?_eq hname), hc]

theorem Within.criterion?_eq_ok {doc : Json} {c : Criterion} (h : small.Within large)
    (hc : Rule.criterion? small name doc = .ok c) : Rule.criterion? large name doc = .ok c := by
  obtain ⟨rfl, hname, -⟩ := Rule.accepted_of_criterion? hc
  rw [(h.sameVerdicts hname).spec, hc]

/-! ## The built-in names and what is added to them -/

/-- Whatever has been registered before, a call goes through iff its name is neither built in nor
registered by an earlier call. A call that is refused leaves all names as they were. What is
registered keeps its check through all later calls. So the verdicts on criteria under a registered
name are settled for all later times, and a criterion that is accepted once always will be. -/
theorem written_once (calls : List Call) :
    (∀ call : Call, call.Succeeds (builtIn.after calls) ↔
      call.name ∉ builtInChecks.map Prod.fst ∧ ¬builtIn.RegisteredBy calls call.name) ∧
    (∀ (call : Call) (e : Error), (call.steps.on (builtIn.after calls)).1 = .error e →
      e = .nameTaken call.name ∧ (call.steps.on (builtIn.after calls)).2 = builtIn.after calls) ∧
    (∀ (later : List Call) (name : String) (check : Option Check),
      (builtIn.after calls).checks[name]? = some check →
        (builtIn.after (calls ++ later)).checks[name]? = some check) ∧
    (∀ (later : List Call) (name : String), (builtIn.after calls).isRegistered name = true →
      SameVerdicts (builtIn.after calls) (builtIn.after (calls ++ later)) name) ∧
    (∀ (later : List Call) (name : String) (doc : Json) (c : Criterion),
      Rule.criterion? (builtIn.after calls) name doc = .ok c →
        Rule.criterion? (builtIn.after (calls ++ later)) name doc = .ok c) ∧
    ∀ (later : List Call) (c : Criterion), Criterion.accept? (builtIn.after calls) c = .ok c →
      Criterion.accept? (builtIn.after (calls ++ later)) c = .ok c := by
  have hwithin : ∀ later, (builtIn.after calls).Within (builtIn.after (calls ++ later)) := by
    intro later
    rw [after_append]
    exact within_after _ later
  refine ⟨?succeeds, ?refused, hwithin, ?verdicts, ?specs, ?criteria⟩
  case succeeds =>
    intro call
    rw [succeeds_iff, ← Bool.not_eq_true, isRegistered_after_iff, isRegistered_builtIn_iff, not_or]
  case refused => exact fun call e => eq_of_refused
  case verdicts => exact fun later name => (hwithin later).sameVerdicts
  case specs => exact fun later name doc c => (hwithin later).criterion?_eq_ok
  case criteria => exact fun later c => (hwithin later).accept?_eq_ok

/-- Draughts are registered as numbers from zero on. -/
def draughtCalls : List Call := [.registerWith "draught" .nonNegative]

/-- A draught of five, or one from eight on but below ten. -/
def draughtSpec : Json := .object [("any_of", .array [
  .number (.integer 5),
  .object [("any_of", .array [
    .object [("ge", .number (.integer 8)), ("lt", .number (.integer 10))]])]])]

/-- Registering draughts once more is refused, another name goes through, and the spec is read as
before. -/
theorem written_once_draught :
    ¬(Call.register "draught").Succeeds (builtIn.after draughtCalls) ∧
    (Call.register "colour").Succeeds (builtIn.after draughtCalls) ∧
    ∃ c, Rule.criterion? (builtIn.after draughtCalls) "draught" draughtSpec = .ok c ∧
      Rule.criterion? (builtIn.after (draughtCalls ++ [.register "draught", .register "colour"]))
        "draught" draughtSpec = .ok c := by
  obtain ⟨hsucceeds, -, -, -, hspecs, -⟩ := written_once draughtCalls
  have hfirst : builtIn.RegisteredBy draughtCalls "draught" := by
    refine ⟨[], .registerWith "draught" .nonNegative, List.prefix_rfl, rfl, succeeds_iff.2 ?_⟩
    exact Bool.eq_false_iff.2 (mt isRegistered_builtIn_iff.1 (by decide))
  refine ⟨fun h => ((hsucceeds _).1 h).2 hfirst, (hsucceeds _).2 ⟨by decide, ?_⟩, ?_⟩
  · rintro ⟨earlier, call, hcall, hname, -⟩
    have hmem : call ∈ draughtCalls := hcall.subset (by simp)
    rw [List.mem_singleton.1 hmem] at hname
    exact absurd hname (by decide)
  · have hread : (Rule.criterion? (builtIn.after draughtCalls) "draught" draughtSpec).toBool =
        true := by decide +kernel
    cases hc : Rule.criterion? (builtIn.after draughtCalls) "draught" draughtSpec with
    | error e => rw [hc] at hread; cases hread
    | ok c => exact ⟨c, rfl, hspecs _ _ _ _ hc⟩

end Names

end ShipEmissions
