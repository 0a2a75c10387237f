import ShipEmissions.Proofs.Guess.Sizes

/-!
# Vessels of a known type without a size

Rules are only accepted if every ship type meets a rule with a size that asks for nothing else. The
check looks at the types that the rule matches, whereas a size only counts for the type that the
rule gives. So a vessel of a known type gets a size iff some rule about its type fires, and rules
that were accepted can leave it without one.

* `AsksFor`: bags that give a type and leave out the size.
* `SizeRuleFires`: some rule about a type fires in one of the passes.
* `completes_iff_sizeRuleFires`: such a bag is completed to a vessel iff some rule about its type
  fires, which it does where a rule that the check counts is about that type.
* `tug_without_size`: accepted rules that leave a tug without a size.
-/

namespace ShipEmissions

namespace GuessRules

open Vessel (isAttribute attributeFits)

variable {g : GuessRules} {given known context : Bag} {t : ShipType}

/-- The bag gives the ship type, but neither a size nor a unit. What else it gives makes sense. -/
structure AsksFor (t : ShipType) (given : Bag) : Prop where
  shipType : given["ship_type"]? = some (.ofTerm t)
  size : given.present? "size" = none
  sizeUnit : given.present? "size_unit" = none
  fits : ∀ name v, isAttribute name = true → given.present? name = some v →
    attributeFits name v = true
  year : ∀ v, given.present? "year_of_build" = some v → ∃ y, v = .number y

/-- A rule about ships of type `t` matches when its turn comes, in the first or the second pass. -/
def SizeRuleFires (g : GuessRules) (t : ShipType) (given : Bag) : Prop :=
  SizeFires given (givenAttributes given) g.guesses t ∨
    "engine_nox_tier" ∉ given ∧ ∃ context,
      g.keelContext? (g.afterFirst given) given = some context ∧
        SizeFires context ((g.afterFirst given).erase "engine_nox_tier") g.guesses t

/-! ## What is known on the way -/

/-- What is known about a vessel of type `t` before, between and after the passes. -/
structure Typed (t : ShipType) (known : Bag) : Prop where
  coherent : Coherent known
  shipType : known["ship_type"]? = some (.ofTerm t)

theorem Typed.gather (h : Typed t known) (hg : Sound g) :
    Typed t (gather context g.guesses known) :=
  ⟨h.coherent.gather hg.guesses.data, within_gather context known g.guesses _ _ h.shipType⟩

theorem Typed.eraseTier (h : Typed t known) : Typed t (known.erase "engine_nox_tier") := by
  have htype : (known.erase "engine_nox_tier")["ship_type"]? = known["ship_type"]? :=
    Bag.getElem?_erase_of_ne known (by decide)
  have hunit : (known.erase "engine_nox_tier")["size_unit"]? = known["size_unit"]? :=
    Bag.getElem?_erase_of_ne known (by decide)
  refine ⟨⟨?_, ?_, ?_⟩, ?_⟩
  · intro name v hv
    exact h.coherent.fits name v (Bag.within_erase known _ name v hv)
  · rw [Bag.mem_erase_iff, Bag.mem_erase_iff, h.coherent.together]
    simp
  · intro hmem
    exact (Vessel.unitFits_congr htype hunit).2 (h.coherent.unit (Bag.mem_erase_iff.1 hmem).2)
  · rw [htype, h.shipType]

theorem AsksFor.typed (h : AsksFor t given) : Typed t (givenAttributes given) := by
  have hmissing : ∀ name, given.present? name = none → name ∉ givenAttributes given := by
    intro name hname
    rw [← Bag.getElem?_eq_none_iff, getElem?_givenAttributes, hname, ite_self]
  refine ⟨⟨?_, ?_, ?_⟩, ?_⟩
  · intro name v hv
    rw [getElem?_givenAttributes] at hv
    split at hv
    · next hname => exact h.fits name v hname hv
    · cases hv
  · exact ⟨fun hs => absurd hs (hmissing _ h.size), fun hu => absurd hu (hmissing _ h.sizeUnit)⟩
  · intro hu
    exact absurd hu (hmissing _ h.sizeUnit)
  · rw [getElem?_givenAttributes, if_pos (by decide)]
    exact Bag.present?_of_getElem? h.shipType rfl

theorem AsksFor.firstPass? (h : AsksFor t given) : g.firstPass? given = .ok (g.afterFirst given) :=
  firstPass?_eq_ok fun _ => ⟨h.size, h.sizeUnit⟩

/-! ## The result -/

/-- All attributes but size and unit are known. -/
def SettledButSize (known : Bag) : Prop :=
  ∀ name ∈ Vessel.attributes, isSizeName name = false → name ∈ known

theorem Typed.settled (h : Typed t known) (hg : Sound g) :
    SettledButSize (GuessRules.gather context g.guesses known) :=
  fun _ hname hsize => hg.mem_gather h.coherent.fits.attributes hname hsize

theorem AsksFor.mem_afterFirst_iff (h : AsksFor t given) (hg : Sound g) :
    "size_unit" ∈ g.afterFirst given ↔ SizeFires given (givenAttributes given) g.guesses t := by
  have hunknown : "size_unit" ∉ givenAttributes given := by
    rw [← Bag.getElem?_eq_none_iff, getElem?_givenAttributes, h.sizeUnit, ite_self]
  rw [afterFirst, mem_gather_sizeUnit_iff h.typed.coherent hg.guesses.data h.typed.shipType,
    or_iff_right hunknown]

/-- A bag that asks for a size is completed to one that knows everything else about the vessel. It
has a unit iff a rule about the ship type fires. -/
theorem AsksFor.complete? (h : AsksFor t given) (hg : Sound g) :
    ∃ result, g.complete? given = .ok result ∧ Typed t result ∧ SettledButSize result ∧
      ("size_unit" ∈ result ↔ SizeRuleFires g t given) := by
  have hfirst : Typed t (g.afterFirst given) := h.typed.gather hg
  have hsettled : SettledButSize (g.afterFirst given) := h.typed.settled hg
  rw [complete?_eq, h.firstPass?]
  by_cases htier : "engine_nox_tier" ∈ given
  · refine ⟨_, if_pos (Std.ExtTreeMap.contains_iff_mem.2 htier), hfirst, hsettled, ?_⟩
    rw [h.mem_afterFirst_iff hg, SizeRuleFires, or_iff_left fun hsecond => hsecond.1 htier]
  · refine ⟨g.secondPass (g.afterFirst given) given, ?_, ?_⟩
    · show (if given.contains "engine_nox_tier" then _ else _) = _
      rw [if_neg (mt Std.ExtTreeMap.contains_iff_mem.1 htier), improveTier?_eq hg h.year]
    · rw [secondPass, SizeRuleFires, ← h.mem_afterFirst_iff hg]
      cases hkeel : g.keelContext? (g.afterFirst given) given with
      | none =>
        refine ⟨hfirst, hsettled, ?_⟩
        simp
      | some context =>
        refine ⟨hfirst.eraseTier.gather hg, hfirst.eraseTier.settled hg, ?_⟩
        rw [mem_gather_sizeUnit_iff hfirst.eraseTier.coherent hg.guesses.data
          hfirst.eraseTier.shipType, Bag.mem_erase_iff]
        simp [htier]

/-! ## Rules that the check counts -/

/-- A rule that the check counts for a type fires for every vessel of the type, as long as it is
about that type itself. -/
theorem sizeFires_of_givesSize {rules : List (Rule Bag)} {r : Rule Bag} (h : Typed t known)
    (hr : r ∈ rules) (hgives : givesSize t r = true)
    (hdata : r.data["ship_type"]? = some (.ofTerm t)) : SizeFires context known rules t := by
  obtain ⟨before, after, rfl⟩ := List.append_of_mem hr
  refine ⟨before, r, after, rfl, ?_, hdata⟩
  rw [givesSize, Bool.and_eq_true] at hgives
  -- the criterion is met by a bag with nothing but the type, and so by every bag with the type
  refine Rule.matchesBag_of_within ?_ hgives.2
  intro name v hv
  rw [Bag.getElem?_ofList_singleton] at hv
  split at hv
  · next hname =>
    rw [← hname, ← hv]
    exact Bag.within_overlay _ _ _ _ (within_gather context known before _ _ h.shipType)
  · cases hv

/-- A bag that gives the type of a vessel and leaves out its size is always completed, with the type
kept and everything but the size found. Size and unit are found, and the result is a vessel, iff a
rule about that type fires. This is so wherever a rule that the check counts for the type is about
the type itself. -/
theorem completes_iff_sizeRuleFires {guesses buildTimes : List (Rule Json.Fields)} {g : Guesser}
    (hg : Guesser.ofRules? guesses buildTimes = .ok g) (h : AsksFor t given) :
    ∃ result, g.complete? given = .ok result ∧ result["ship_type"]? = some (.ofTerm t) ∧
      (∀ name ∈ Vessel.attributes, isSizeName name = false → name ∈ result) ∧
      ("size" ∈ result ↔ g.SizeRuleFires t given) ∧
      ("size_unit" ∈ result ↔ g.SizeRuleFires t given) ∧
      ((∃ v, Vessel.ofBag? result = .ok v) ↔ g.SizeRuleFires t given) ∧
      ((∃ r ∈ g.guesses, givesSize t r = true ∧ r.data["ship_type"]? = some (.ofTerm t)) →
        g.SizeRuleFires t given) := by
  obtain ⟨result, hresult, htyped, hsettled, hunit⟩ := h.complete? (sound_of_guesser hg)
  refine ⟨result, hresult, htyped.shipType, hsettled, ?_, hunit, ?_, ?_⟩
  · rw [htyped.coherent.together, hunit]
  · rw [Vessel.exists_ofBag?_iff, htyped.coherent.complete_iff hsettled, hunit]
  · rintro ⟨r, hr, hgives, hdata⟩
    exact Or.inl (sizeFires_of_givesSize h.typed hr hgives hdata)

theorem asksFor_singleton (t : ShipType) : AsksFor t (.ofList [("ship_type", .ofTerm t)]) := by
  have hpresent : ∀ name v, (Bag.ofList [("ship_type", Value.ofTerm t)]).present? name = some v →
      name = "ship_type" ∧ v = .ofTerm t := by
    intro name v hv
    have hget := (Bag.present?_eq_some_iff.1 hv).1
    rw [Bag.getElem?_ofList_singleton] at hget
    split at hget
    · next hname => exact ⟨hname.symm, (Option.some.inj hget).symm⟩
    · cases hget
  refine ⟨?_, ?_, ?_, ?_, ?_⟩
  · rw [Bag.getElem?_ofList_singleton, if_pos rfl]
  · exact Option.eq_none_iff_forall_ne_some.2 fun v hv => absurd (hpresent _ v hv).1 (by decide)
  · exact Option.eq_none_iff_forall_ne_some.2 fun v hv => absurd (hpresent _ v hv).1 (by decide)
  · intro name v _ hv
    obtain ⟨rfl, rfl⟩ := hpresent name v hv
    exact Vessel.isSome_term?_iff.2 ⟨t, rfl⟩
  · intro v hv
    exact absurd (hpresent _ v hv).1 (by decide)

/-- A vessel of no particular type gets the size of the small set of rules. -/
theorem completes_iff_sizeRuleFires_misc : ∃ (guesses buildTimes : List (Rule Json.Fields))
    (g : Guesser) (given result : Bag), Guesser.ofRules? guesses buildTimes = .ok g ∧
      AsksFor .misc given ∧ g.complete? given = .ok result ∧
      ("size" ∈ result ↔ g.SizeRuleFires .misc given) := by
  obtain ⟨g, hg, -⟩ := exists_sampleGuesser
  obtain ⟨guesses, buildTimes, -, -, hg⟩ := sampleGuesser?_eq_ok_iff.1 hg
  have hasks := asksFor_singleton .misc
  obtain ⟨result, hresult, -, -, hsize, -⟩ := completes_iff_sizeRuleFires hg hasks
  exact ⟨guesses, buildTimes, g, _, result, hg, hasks, hresult, hsize⟩

/-- The small set of rules passes all checks, with a size for every type by the count of the check,
and leaves a tug without size and unit. -/
theorem tug_without_size : ∃ (guesses buildTimes : List (Rule Json.Fields)) (g : Guesser)
    (given result : Bag), Rule.listOfJson? .builtIn sampleGuesses = .ok guesses ∧
      Rule.listOfJson? .builtIn sampleBuildTimes = .ok buildTimes ∧
      Guesser.ofRules? guesses buildTimes = .ok g ∧ AsksFor .tug given ∧
      g.complete? given = .ok result ∧ "size" ∉ result ∧ "size_unit" ∉ result ∧
      ∀ v, Vessel.ofBag? result ≠ .ok v := by
  obtain ⟨g, hg, hmisc⟩ := exists_sampleGuesser
  obtain ⟨guesses, buildTimes, hguesses, htimes, hrules⟩ := sampleGuesser?_eq_ok_iff.1 hg
  have hnone : ∀ context known, ¬SizeFires context known g.guesses .tug := by
    rintro context known ⟨before, r, after, hsplit, -, hdata⟩
    have hr : r ∈ g.guesses := by
      rw [hsplit]
      exact List.mem_append_right _ List.mem_cons_self
    rw [hmisc r hr] at hdata
    cases Value.ofTerm_injective (Option.some.inj hdata)
  have hasks := asksFor_singleton .tug
  obtain ⟨result, hresult, htyped, -, hunit⟩ := hasks.complete? (sound_of_guesser hrules)
  have hsizeUnit : "size_unit" ∉ result := by
    intro hmem
    rcases hunit.1 hmem with hfires | ⟨-, context, -, hfires⟩
    · exact hnone _ _ hfires
    · exact hnone _ _ hfires
  have hsize : "size" ∉ result := fun hmem => hsizeUnit (htyped.coherent.together.1 hmem)
  refine ⟨guesses, buildTimes, g, _, result, hguesses, htimes, hrules, hasks, hresult, hsize,
    hsizeUnit, ?_⟩
  intro v hv
  obtain ⟨x, hx, -⟩ := (Vessel.exists_ofBag?_iff.1 ⟨v, hv⟩).has "size" (by decide)
  exact hsize (Bag.mem_iff.2 ⟨x, hx⟩)

end GuessRules

end ShipEmissions
