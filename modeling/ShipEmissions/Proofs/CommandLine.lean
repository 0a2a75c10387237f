import ShipEmissions.CommandLine.Run
import ShipEmissions.Proofs.Emission.Powers
import ShipEmissions.Proofs.Json.Values
import ShipEmissions.Proofs.Outcome

/-!
# Results that are given to the program again

A completed bag is written as an object. The program takes this object for the attributes of the
bag, as long as numbers are read as they were written.

* `attributes?_toJson`: a bag is read from its own document.
* `result?_guess_eq_ok_iff`: what the document of a completed bag comes from.
* `ofArguments?_guess`: the document can be given as an argument.
-/

namespace ShipEmissions

namespace CommandLine

open Json (ReadsBack ReadAs FieldReadAs)

variable {bag : Bag}

/-! ## Documents of bags -/

/-- A value is read from the document that it is written as. -/
theorem exists_readAs_toJson {v : Value} (h : ∀ x, v = .number x → ReadsBack x) :
    ∃ doc, ReadAs v.toJson doc ∧ Value.read? doc = .ok v := by
  cases v with
  | null => exact ⟨.null, Json.readAs_null, rfl⟩
  | boolean b => exact ⟨.boolean b, Json.readAs_boolean b, rfl⟩
  | text s => exact ⟨.text s, Json.readAs_text s, rfl⟩
  | number x =>
    obtain ⟨n, rfl, hread⟩ := (h x rfl).readAs
    exact ⟨.number n, hread, rfl⟩

/-- All numbers of a bag are read as they were written. -/
def NumbersReadBack (bag : Bag) : Prop :=
  ∀ (name : String) (x : Float), bag[name]? = some (.number x) → ReadsBack x

instance (bag : Bag) : Decidable (NumbersReadBack bag) :=
  decidable_of_iff (∀ entry ∈ bag.toList, ∀ x ∈ entry.2.number?, ReadsBack x) <| by
    constructor
    · intro h name x hx
      exact h (name, .number x) (Std.ExtTreeMap.mem_toList_iff_getElem?_eq_some.2 hx) x rfl
    · rintro h ⟨name, v⟩ hentry x hx
      obtain rfl := Value.number?_eq_some_iff.1 hx
      exact h name x (Std.ExtTreeMap.mem_toList_iff_getElem?_eq_some.1 hentry)

/-- The fields of a bag's document are read as fields that give the entries of the bag. -/
theorem exists_fields_toJson (h : NumbersReadBack bag) :
    ∃ again : Json.Fields,
      List.Forall₂ FieldReadAs (bag.toList.map fun (name, v) => (name, v.toJson)) again ∧
      again.mapM (Bag.entryOfField? fun name _ => Failure.attributeRefused name) =
        .ok bag.toList := by
  have hentries : ∀ entry ∈ bag.toList, ∃ field : String × Json,
      FieldReadAs (entry.1, entry.2.toJson) field ∧
        Bag.entryOfField? (fun name _ => Failure.attributeRefused name) field = .ok entry := by
    rintro ⟨name, v⟩ hentry
    have hv := Std.ExtTreeMap.mem_toList_iff_getElem?_eq_some.1 hentry
    obtain ⟨doc, hread, hdoc⟩ := exists_readAs_toJson (v := v) fun x hx => h name x (hx ▸ hv)
    refine ⟨(name, doc), ⟨rfl, hread⟩, ?_⟩
    exact Bag.entryOfField?_eq_ok_iff.2 ⟨rfl, hdoc⟩
  obtain ⟨again, hagain⟩ := Outcome.exists_forall₂_iff.2 hentries
  refine ⟨again, ?_, Outcome.mapM_eq_ok_iff.2 ?_⟩
  · exact List.forall₂_map_left_iff.2 (hagain.imp fun _ _ hfield => hfield.1)
  · exact hagain.flip.imp fun _ _ hfield => hfield.2

theorem attributes?_toJson (h : NumbersReadBack bag) :
    attributes? ((Bag.toJson bag).indented "") = .ok bag := by
  obtain ⟨again, hfields, hentries⟩ := exists_fields_toJson h
  have hread := Json.read?_indented_of_ordered hfields
    (List.pairwise_map.2 Std.ExtTreeMap.ordered_keys_toList)
  have hbag : (Except.ok bag.toList : Except Failure _).map Bag.ofList = .ok bag :=
    congrArg Except.ok (Bag.ofList_toList bag)
  rw [attributes?, Bag.toJson, hread]
  exact (congrArg (Except.map Bag.ofList) hentries).trans hbag

/-! ## The command that completes a bag -/

theorem failing_eq_ok_iff {ε α : Type} {failure : ε → Failure} {x : Except ε α} {a : α} :
    failing failure x = .ok a ↔ x = .ok a := by
  cases x <;> simp [failing, Except.mapError]

/-- The rules for guessing in a configuration that is read from a file have passed their checks. -/
theorem rules_of_config? {path : String} {text : Option String} {config : Config}
    (h : config? path text = .ok config) :
    ∃ guesses buildTimes, Guesser.ofRules? guesses buildTimes = .ok config.guesser := by
  have hfile := failing_eq_ok_iff.1 h
  cases text with
  | none => cases hfile
  | some text =>
    rw [Config.ofFile?] at hfile
    split at hfile
    · obtain ⟨doc, -, hdoc⟩ := Outcome.bind_eq_ok.1 hfile
      exact (Config.rules_of_ofJson? hdoc).2
    · cases hfile

/-- Where files do not change, a step that may fail is followed by the next. -/
theorem run_bind {ε α β : Type} (x : ExceptT ε Id α) (f : α → ExceptT ε Id β) :
    Id.run (ExceptT.run (x >>= f)) = Id.run x.run >>= fun a => Id.run (f a).run := by
  show (match x.run with | .ok a => f a | .error e => Except.error e) = _
  cases x.run <;> rfl

variable {read : String → Option String} {limits : Option String} {path text : String} {doc : Json}

theorem run_guess (read : String → Option String) (hours : HourLimits Float) (path text : String) :
    Id.run (ExceptT.run ((Command.guess path text).run? read hours)) =
      config? path (read path) >>= fun config => attributes? text >>= fun given =>
        failing .error (config.guesser.complete? given) >>= fun guess =>
          .ok (Bag.toJson guess) := by
  rw [Command.run?]
  simp only [run_bind]
  rfl

/-- The limits of hours that are asked for. -/
def limits? (read : String → Option String) : Option String → Except Failure (HourLimits Float)
  | none => .ok .standard
  | some path => limitsOfText? path (read path)

/-- What an invocation gives where files do not change. -/
def Invocation.result? (read : String → Option String) (invocation : Invocation) :
    Except Failure Json := Id.run (invocation.run? read)

theorem result?_eq_bind (read : String → Option String) (invocation : Invocation) :
    invocation.result? read = limits? read invocation.limits >>= fun hours =>
      Id.run (ExceptT.run (invocation.command.run? read hours)) := by
  obtain ⟨limits, command⟩ := invocation
  cases limits with
  | none => rfl
  | some path =>
    rw [Invocation.result?, Invocation.run?]
    exact run_bind (ExceptT.mk (limitsOfText? path (read path))) fun hours =>
      command.run? read hours

/-- A bag is completed iff all that is read is as it should be. -/
theorem result?_guess_eq_ok_iff :
    Invocation.result? read ⟨limits, .guess path text⟩ = .ok doc ↔
      (∃ hours, limits? read limits = .ok hours) ∧
      ∃ config given guess, config? path (read path) = .ok config ∧ attributes? text = .ok given ∧
        config.guesser.complete? given = .ok guess ∧ Bag.toJson guess = doc := by
  simp only [result?_eq_bind, run_guess, Outcome.bind_eq_ok, failing_eq_ok_iff, Except.ok.injEq]
  constructor
  · rintro ⟨hours, hhours, config, hconfig, given, hgiven, guess, hguess, hdoc⟩
    exact ⟨⟨hours, hhours⟩, config, given, guess, hconfig, hgiven, hguess, hdoc⟩
  · rintro ⟨⟨hours, hhours⟩, config, given, guess, hconfig, hgiven, hguess, hdoc⟩
    exact ⟨hours, hhours, config, hconfig, given, hgiven, guess, hguess, hdoc⟩

/-! ## Arguments -/

/-- A value may be attached to the name of an option. -/
theorem Argument.ofText_attached (name : String) (hname : '=' ∉ name.toList) (value : String) :
    Argument.ofText ("--" ++ name ++ "=" ++ value) = .named name (some value) := by
  have hchars : ("--" ++ name ++ "=" ++ value).toList =
      '-' :: '-' :: (name.toList ++ '=' :: value.toList) := by
    simp only [String.toList_append, List.append_assoc]
    rfl
  have hbefore : ∀ c ∈ name.toList, (c != '=') = true := by
    intro c hc
    rw [bne_iff_ne]
    rintro rfl
    exact hname hc
  have htake : (name.toList ++ '=' :: value.toList).takeWhile (· != '=') = name.toList := by
    rw [List.takeWhile_append_of_pos hbefore, List.takeWhile_cons_of_neg (by decide),
      List.append_nil]
  have hdrop : (name.toList ++ '=' :: value.toList).dropWhile (· != '=') =
      '=' :: value.toList := by
    rw [List.dropWhile_append_of_pos hbefore, List.dropWhile_cons_of_neg (by decide)]
  -- the first character behind the dashes tells the text from the end of all options
  obtain ⟨first, rest, hrest⟩ := List.exists_cons_of_ne_nil
    (List.append_ne_nil_of_right_ne_nil name.toList (List.cons_ne_nil '=' value.toList))
  rw [hrest] at hchars htake hdrop
  simp only [Argument.ofText, hchars, hdrop, htake, String.ofList_toList]

/-- What starts with a brace is no option. -/
theorem Argument.ofText_block {lines : List String} :
    Argument.ofText (Json.block "\x7b" "\x7d" "" lines) = .plain := by
  have hchars : ∃ rest, (Json.block "\x7b" "\x7d" "" lines).toList = '\x7b' :: rest := by
    rw [Json.block]
    split
    · exact ⟨['\x7d'], rfl⟩
    · simp only [String.toList_append, List.append_assoc]
      exact ⟨_, rfl⟩
  obtain ⟨rest, hrest⟩ := hchars
  rw [Argument.ofText, hrest]
  rfl

theorem ofArguments?_guess {path text : String} (hpath : path ≠ "")
    (htext : Argument.ofText text = .plain) :
    Invocation.ofArguments? ["guess", "--config=" ++ path, "--attrs", text] =
      some ⟨none, .guess path text⟩ := by
  have hconfig : Argument.ofText ("--config=" ++ path) = .named "config" (some path) :=
    Argument.ofText_attached "config" (by decide) path
  have hguess : settings? [limitsFlag] [] ["guess", "--config=" ++ path, "--attrs", text] =
      some ([], ["guess", "--config=" ++ path, "--attrs", text]) := rfl
  have hattrs : Argument.ofText "--attrs" = .named "attrs" none := rfl
  have hsettings : settings? [limitsFlag, configFlag, attributesFlag] []
      ["--config=" ++ path, "--attrs", text] = some ([("attrs", text), ("config", path)], []) := by
    simp [settings?, hconfig, hattrs, htext, Argument.flag?, limitsFlag, configFlag,
      attributesFlag, Settings.add?, hpath]
  rw [Invocation.ofArguments?, hguess]
  show (settings? [limitsFlag, configFlag, attributesFlag] []
    ["--config=" ++ path, "--attrs", text]).bind _ = _
  rw [hsettings]
  rfl

end CommandLine

end ShipEmissions
