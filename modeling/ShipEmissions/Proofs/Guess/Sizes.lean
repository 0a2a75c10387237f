import ShipEmissions.Proofs.Guess.Passes

/-!
# Type, size and unit

Checked rules give type, size and unit together, and a size only counts for the rule's own type. So
whatever is gathered on the way, the unit that is known is one for the ship type that is known.

* `agrees_iff`: a rule's size counts iff its type is the one that is known, or none is known.
* `Coherent`, `Coherent.gather`: the invariant, and that a run preserves it.
* `mem_gather_sizeUnit_iff`: when a vessel of a known type gets a size.
* `complete_standard`: when nothing is given, checked rules always give a whole vessel.
-/

namespace ShipEmissions

namespace GuessRules

open Vessel (UnitFits)

variable {context known data : Bag} {rules : List (Rule Bag)} {t : ShipType}

/-! ## Agreeing on the type -/

theorem present?_of_fitting {bag : Bag} (h : Fitting bag) {v : Value}
    (hv : bag["ship_type"]? = some v) : bag.present? "ship_type" = some v := by
  obtain ⟨t, rfl⟩ := h.shipType hv
  exact Bag.present?_of_getElem? hv rfl

theorem fitsShipType_ofTerm_iff {bag : Bag} (h : bag["ship_type"]? = some (.ofTerm t)) {v : Value} :
    fitsShipType bag v = true ↔ v = .ofTerm t := by
  rw [fitsShipType, h]
  show (false || Value.ofTerm t == v) = true ↔ _
  rw [Bool.false_or, Value.ofTerm_beq_iff]

/-- The size of a rule counts iff its ship type is the one that is known, or none is known. -/
theorem agrees_iff (hknown : Fitting known) (hdata : Fitting data) :
    agrees known data = true ↔ ∃ t : ShipType, data["ship_type"]? = some (.ofTerm t) ∧
      ∀ v, known["ship_type"]? = some v → v = .ofTerm t := by
  rw [agrees]
  cases hd : data["ship_type"]? with
  | none =>
    have hnone : data.present? "ship_type" = none := by rw [Bag.present?, hd]; rfl
    rw [hnone]
    simp
  | some v =>
    obtain ⟨t, rfl⟩ := hdata.shipType hd
    rw [present?_of_fitting hdata hd, Option.any_some]
    cases hk : known["ship_type"]? with
    | none =>
      have htop : (Bag.overlay data known)["ship_type"]? = some (.ofTerm t) := by
        rw [Bag.getElem?_overlay, hk, hd, Option.none_or]
      rw [fitsShipType_ofTerm_iff htop]
      simp
    | some w =>
      obtain ⟨s, rfl⟩ := hknown.shipType hk
      have htop := Bag.within_overlay data known _ _ hk
      rw [fitsShipType_ofTerm_iff htop]
      constructor
      · intro h
        exact ⟨t, rfl, fun v hv => by rw [← Option.some.inj hv, h]⟩
      · rintro ⟨t', ht', h⟩
        rw [h _ rfl, Option.some.inj ht']

/-! ## The invariant -/

/-- Everything that is known makes sense by itself, the size and its unit are known together or not
at all, and the unit is one for the ship type. -/
structure Coherent (known : Bag) : Prop where
  fits : Fitting known
  together : "size" ∈ known ↔ "size_unit" ∈ known
  unit : "size_unit" ∈ known → UnitFits known

theorem mem_contribute_iff {name : String} :
    name ∈ contribute known data ↔ name ∈ known ∨ ∃ v, offer? known data name = some v := by
  rw [Bag.mem_iff, Bag.mem_iff, getElem?_contribute]
  cases known[name]? <;> simp

theorem offer?_size {name : String} (hname : isSizeName name = true) :
    offer? known data name = if agrees known data then data[name]? else none := by
  rw [offer?, hname, Bool.true_and]
  cases agrees known data <;> rfl

theorem Fitting.contribute (hknown : Fitting known) (hdata : Fitting data) :
    Fitting (contribute known data) := by
  intro name v hv
  rw [getElem?_contribute, Option.or_eq_some_iff] at hv
  rcases hv with hv | ⟨-, hv⟩
  · exact hknown name v hv
  · exact hdata name v (mem_of_offer? hv)

theorem unitFits_of_within {small large : Bag} (hwithin : small.Within large) (h : UnitFits small) :
    UnitFits large := by
  obtain ⟨t, u, htype, hunit, hfits⟩ := h
  exact ⟨t, u, hwithin _ _ htype, hwithin _ _ hunit, hfits⟩

theorem SoundData.size_mem_iff (h : SoundData data) : "size" ∈ data ↔ "size_unit" ∈ data :=
  ⟨fun hs => h.together "size" (by decide) hs "size_unit" (by decide),
    fun hu => h.together "size_unit" (by decide) hu "size" (by decide)⟩

/-- Where a size counts, its unit is one for the ship type that is known afterwards. -/
theorem unitFits_contribute (hknown : Coherent known) (hdata : SoundData data)
    (hagrees : agrees known data = true) : UnitFits (contribute known data) := by
  obtain ⟨t, htype, hsame⟩ := (agrees_iff hknown.fits hdata.fits).1 hagrees
  by_cases hunit : "size_unit" ∈ known
  · exact unitFits_of_within (within_contribute known data) (hknown.unit hunit)
  have htypeAfter : (contribute known data)["ship_type"]? = some (.ofTerm t) := by
    rw [getElem?_contribute]
    cases hk : known["ship_type"]? with
    | some v => rw [Option.some_or, hsame v hk]
    | none => rw [Option.none_or, offer?_of_not_isSizeName rfl, htype]
  obtain ⟨t', u, htype', hu, hfits⟩ := hdata.unit (Bag.mem_iff.2 ⟨_, htype⟩)
  have hunitAfter : (contribute known data)["size_unit"]? = some (.ofTerm u) := by
    rw [getElem?_contribute, Bag.getElem?_eq_none_iff.2 hunit, Option.none_or, offer?_size rfl,
      if_pos hagrees, hu]
  rw [htype] at htype'
  rw [← Value.ofTerm_injective (Option.some.inj htype')] at hfits
  exact ⟨t, u, htypeAfter, hunitAfter, hfits⟩

theorem Coherent.contribute (hknown : Coherent known) (hdata : SoundData data) :
    Coherent (contribute known data) := by
  refine ⟨hknown.fits.contribute hdata.fits, ?_, ?_⟩
  · rw [mem_contribute_iff, mem_contribute_iff, offer?_size rfl, offer?_size rfl, hknown.together]
    cases agrees known data with
    | false => rfl
    | true => rw [if_pos rfl, if_pos rfl, ← Bag.mem_iff, ← Bag.mem_iff, hdata.size_mem_iff]
  · intro hunit
    rcases mem_contribute_iff.1 hunit with hunit | ⟨v, hoffer⟩
    · exact unitFits_of_within (within_contribute known data) (hknown.unit hunit)
    · rw [offer?_size rfl] at hoffer
      split at hoffer
      · next hagrees => exact unitFits_contribute hknown hdata hagrees
      · cases hoffer

theorem Coherent.tryRule {r : Rule Bag} (hknown : Coherent known) (hdata : SoundData r.data) :
    Coherent (tryRule context known r) :=
  tryRule_induction hknown fun _ => hknown.contribute hdata

theorem Coherent.gather (hknown : Coherent known) (hrules : ∀ r ∈ rules, SoundData r.data) :
    Coherent (gather context rules known) :=
  gather_induction hknown fun _ r hr h => h.tryRule (hrules r hr)

/-- Data about the type that is known, if one is, has a unit that counts. -/
theorem exists_offer?_sizeUnit (hknown : Fitting known) (hdata : SoundData data)
    (htype : data["ship_type"]? = some (.ofTerm t))
    (hsame : ∀ v, known["ship_type"]? = some v → v = .ofTerm t) :
    ∃ u, offer? known data "size_unit" = some u := by
  have hagrees := (agrees_iff hknown hdata.fits).2 ⟨t, htype, hsame⟩
  obtain ⟨u, hu⟩ := Bag.mem_iff.1 (hdata.sizeUnit_mem (Bag.mem_iff.2 ⟨_, htype⟩))
  refine ⟨u, ?_⟩
  rw [offer?_size rfl, if_pos hagrees, hu]

/-! ## Vessels of a known type -/

/-- A rule about ships of type `t` matches when its turn comes. -/
def SizeFires (context known : Bag) (rules : List (Rule Bag)) (t : ShipType) : Prop :=
  ∃ before r after, rules = before ++ r :: after ∧ fires context known before r = true ∧
    r.data["ship_type"]? = some (.ofTerm t)

/-- A vessel of a known type gets a size iff it has one or a rule about ships of its type fires. -/
theorem mem_gather_sizeUnit_iff (hknown : Coherent known) (hrules : ∀ r ∈ rules, SoundData r.data)
    (htype : known["ship_type"]? = some (.ofTerm t)) :
    "size_unit" ∈ gather context rules known ↔
      "size_unit" ∈ known ∨ SizeFires context known rules t := by
  have honly : OnlyGive rules := fun r hr => (hrules r hr).fits.attributes
  constructor
  · intro h
    obtain ⟨v, hv⟩ := Bag.mem_iff.1 h
    rcases (getElem?_gather_eq_some_iff hknown.fits.attributes honly).1 hv with
      hv | ⟨before, r, after, rfl, hsupplies⟩
    · exact Or.inl (Bag.mem_iff.2 ⟨v, hv⟩)
    · have hbefore : ∀ s ∈ before, SoundData s.data := fun s hs =>
        hrules s (List.mem_append_left _ hs)
      have hoffer := hsupplies.offer
      rw [offer?_size rfl] at hoffer
      split at hoffer
      · next hagrees =>
        obtain ⟨t', hdata, hsame⟩ := (agrees_iff (hknown.gather hbefore).fits
          (hrules r (by simp)).fits).1 hagrees
        rw [← hsame _ (within_gather context known before _ _ htype)] at hdata
        exact Or.inr ⟨before, r, after, rfl, hsupplies.fires, hdata⟩
      · cases hoffer
  · rintro (h | ⟨before, r, after, rfl, hfires, hdata⟩)
    · exact (within_gather context known rules).mem h
    · have hbefore : ∀ s ∈ before, SoundData s.data := fun s hs =>
        hrules s (List.mem_append_left _ hs)
      have hsame : ∀ v, (gather context before known)["ship_type"]? = some v → v = .ofTerm t := by
        intro v hv
        rw [within_gather context known before _ _ htype] at hv
        exact (Option.some.inj hv).symm
      obtain ⟨u, hu⟩ := exists_offer?_sizeUnit (hknown.gather hbefore).fits (hrules r (by simp))
        hdata hsame
      exact mem_gather_of_fires hknown.fits.attributes honly hfires hu

/-! ## Whole vessels -/

variable {g : GuessRules}

theorem isSizeName_iff {name : String} :
    isSizeName name = true ↔ name = "size" ∨ name = "size_unit" := by
  rw [isSizeName, Bool.or_eq_true, beq_iff_eq, beq_iff_eq]

/-- Checked rules leave no attribute open, except for the size and its unit. -/
theorem Sound.mem_gather (hg : Sound g) (hknown : OnlyAttributes known) {name : String}
    (hname : name ∈ Vessel.attributes) (hsize : isSizeName name = false) :
    name ∈ gather context g.guesses known := by
  obtain ⟨r, hr, huncond, hmem⟩ := hg.guesses.defaults name hname
  exact mem_gather_of_isUnconditional hknown hg.onlyGive hr huncond hsize hmem

/-- A coherent bag that lacks at most size and unit is a vessel iff it has a unit. -/
theorem Coherent.complete_iff {bag : Bag} (h : Coherent bag)
    (hothers : ∀ name ∈ Vessel.attributes, isSizeName name = false → name ∈ bag) :
    Vessel.Complete bag ↔ "size_unit" ∈ bag := by
  constructor
  · intro hcomplete
    obtain ⟨v, hv, -⟩ := hcomplete.has "size_unit" (by decide)
    exact Bag.mem_iff.2 ⟨v, hv⟩
  · intro hunit
    refine ⟨h.fits.attributes, ?_, h.unit hunit⟩
    intro name hname
    have hmem : name ∈ bag := by
      cases hsize : isSizeName name with
      | false => exact hothers name hname hsize
      | true =>
        rcases isSizeName_iff.1 hsize with rfl | rfl
        · exact h.together.2 hunit
        · exact hunit
    obtain ⟨v, hv⟩ := Bag.mem_iff.1 hmem
    exact ⟨v, hv, h.fits name v hv⟩

/-- Where the type comes from a rule, the size comes with it. -/
theorem sizeUnit_mem_gather (hknown : Coherent known) (hrules : ∀ r ∈ rules, SoundData r.data)
    (h : "ship_type" ∈ known → "size_unit" ∈ known) :
    "ship_type" ∈ gather context rules known → "size_unit" ∈ gather context rules known := by
  have hboth : Coherent (gather context rules known) ∧
      ("ship_type" ∈ gather context rules known → "size_unit" ∈ gather context rules known) := by
    apply gather_induction (P := fun bag => Coherent bag ∧
      ("ship_type" ∈ bag → "size_unit" ∈ bag)) ⟨hknown, h⟩
    rintro now r hr ⟨hnow, hunit⟩
    refine ⟨hnow.tryRule (hrules r hr), ?_⟩
    apply tryRule_induction (P := fun bag => "ship_type" ∈ bag → "size_unit" ∈ bag) hunit
    intro _ htype
    have hsound := hrules r hr
    by_cases hnowType : "ship_type" ∈ now
    · exact (within_contribute now r.data).mem (hunit hnowType)
    · rcases mem_contribute_iff.1 htype with htype | ⟨v, hv⟩
      · exact absurd htype hnowType
      · have hdata := mem_of_offer? hv
        obtain ⟨t, rfl⟩ := hsound.fits.shipType hdata
        exact mem_contribute_iff.2 (Or.inr (exists_offer?_sizeUnit hnow.fits hsound hdata
          fun w hw => absurd (Bag.mem_iff.2 ⟨w, hw⟩) hnowType))
  exact hboth.2

theorem coherent_empty : Coherent ∅ := by
  have hempty : ∀ name : String, name ∉ (∅ : Bag) := fun name => Std.ExtTreeMap.not_mem_empty
  refine ⟨?_, ?_, ?_⟩
  · intro name v hv
    exact absurd (Bag.mem_iff.2 ⟨v, hv⟩) (hempty name)
  · exact ⟨fun h => absurd h (hempty _), fun h => absurd h (hempty _)⟩
  · intro h
    exact absurd h (hempty _)

theorem givenAttributes_empty : givenAttributes ∅ = ∅ := by
  apply Std.ExtTreeMap.ext_getElem?
  intro name
  rw [getElem?_givenAttributes]
  simp [Bag.present?]

/-- When nothing is given, checked rules give a whole vessel. -/
theorem complete_standard (hg : Sound g) :
    ∃ bag, g.complete? ∅ = .ok bag ∧ Vessel.Complete bag := by
  have hcoherent : Coherent (gather ∅ g.guesses ∅) := coherent_empty.gather hg.guesses.data
  have hothers : ∀ name ∈ Vessel.attributes, isSizeName name = false →
      name ∈ gather ∅ g.guesses ∅ := fun name hname hsize =>
    hg.mem_gather coherent_empty.fits.attributes hname hsize
  refine ⟨gather ∅ g.guesses ∅, ?_, (hcoherent.complete_iff hothers).2 ?_⟩
  · have hfirst : g.firstPass? ∅ = .ok (gather ∅ g.guesses ∅) := by
      rw [firstPass?_eq_ok fun _ => ⟨rfl, rfl⟩, afterFirst, givenAttributes_empty]
    have hnone : (∅ : Bag).present? "year_of_build" = none := rfl
    have hstands : g.improveTier? (gather ∅ g.guesses ∅) ∅ = .ok (gather ∅ g.guesses ∅) :=
      improveTier?_eq_self (Or.inr (Or.inr hnone))
    rw [complete?_eq, hfirst]
    exact hstands
  · apply sizeUnit_mem_gather coherent_empty hg.guesses.data
    · intro h
      exact absurd h Std.ExtTreeMap.not_mem_empty
    · exact hothers "ship_type" (by decide) rfl

end GuessRules

end ShipEmissions
