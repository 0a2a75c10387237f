import ShipEmissions.Proofs.Guess.Checks

/-!
# Gathering attributes

What one rule adds to what is known, and what a run over a list of rules adds. A run never changes
what is known, and the value of an attribute that was not known comes from the first rule that
matched and offered one when its turn came.

* `offer?`, `getElem?_contribute`: what the data of a rule offers, and what becomes of it.
* `gather_eq_foldl`: stopping as soon as no attribute is missing does not change the result.
* `gather_induction`: what every rule preserves, a run preserves.
* `getElem?_gather_eq_some_iff`: where a value that was gathered comes from.
-/

namespace ShipEmissions

namespace GuessRules

open Vessel (isAttribute)

variable {context known data : Bag} {rules before after : List (Rule Bag)} {r : Rule Bag}
  {name : String} {v : Value}

/-! ## One rule -/

/-- Whether the ship type of a rule is the one that is known once the rule has had its say. -/
def agrees (known data : Bag) : Bool :=
  (data.present? "ship_type").any fun shipType =>
    fitsShipType (Bag.overlay data known) shipType

/-- What the data of a rule offers for an attribute. A size and its unit are only offered to a
vessel of the rule's ship type. -/
def offer? (known data : Bag) (name : String) : Option Value :=
  if isSizeName name && !agrees known data then none else data[name]?

theorem offer?_of_not_isSizeName (h : isSizeName name = false) :
    offer? known data name = data[name]? := by
  rw [offer?, h, Bool.false_and, if_neg Bool.false_ne_true]

theorem mem_of_offer? (h : offer? known data name = some v) : data[name]? = some v := by
  rw [offer?] at h
  split at h
  · cases h
  · exact h

theorem fitsShipType_congr {a b : Bag} (h : a["ship_type"]? = b["ship_type"]?) (t : Value) :
    fitsShipType a t = fitsShipType b t := by
  rw [fitsShipType, fitsShipType, h]

/-- A rule leaves what is known as it is, and adds what it offers. -/
theorem getElem?_contribute (known data : Bag) (name : String) :
    (contribute known data)[name]? = known[name]?.or (offer? known data name) := by
  have htype : (Bag.overlay (data.filter fun name _ => !isSizeName name) known)["ship_type"]? =
      (Bag.overlay data known)["ship_type"]? := by
    rw [Bag.getElem?_overlay, Bag.getElem?_overlay, Bag.getElem?_filter_name]
    rfl
  rw [contribute]
  cases hdata : data.present? "ship_type" with
  | none =>
    have hagrees : agrees known data = false := by rw [agrees, hdata]; rfl
    rw [offer?, hagrees, Bag.getElem?_overlay, Bag.getElem?_filter_name]
    cases isSizeName name <;> rfl
  | some t =>
    have hagrees : agrees known data = fitsShipType (Bag.overlay data known) t := by
      rw [agrees, hdata]; rfl
    simp only [fitsShipType_congr htype, ← hagrees]
    rw [offer?]
    cases agrees known data with
    | true =>
      rw [if_pos rfl, Bag.getElem?_overlay, Bag.getElem?_overlay, Bag.getElem?_filter_name,
        Bag.getElem?_filter_name]
      cases isSizeName name <;> simp
    | false =>
      rw [if_neg Bool.false_ne_true, Bag.getElem?_overlay, Bag.getElem?_filter_name]
      cases isSizeName name <;> rfl

theorem within_contribute (known data : Bag) : known.Within (contribute known data) := by
  intro name v h
  rw [getElem?_contribute, h, Option.some_or]

/-- Nothing but attributes of vessels has a value. -/
def OnlyAttributes (bag : Bag) : Prop := ∀ name ∈ bag, isAttribute name = true

theorem OnlyAttributes.contribute (hknown : OnlyAttributes known) (hdata : OnlyAttributes data) :
    OnlyAttributes (contribute known data) := by
  intro name hname
  obtain ⟨v, hv⟩ := Bag.mem_iff.1 hname
  rw [getElem?_contribute, Option.or_eq_some_iff] at hv
  rcases hv with hv | ⟨-, hv⟩
  · exact hknown name (Bag.mem_iff.2 ⟨v, hv⟩)
  · exact hdata name (Bag.mem_iff.2 ⟨v, mem_of_offer? hv⟩)

/-- A rule adds nothing where all attributes are known. -/
theorem contribute_of_full (hfull : ∀ name ∈ Vessel.attributes, name ∈ known)
    (hdata : OnlyAttributes data) : contribute known data = known := by
  apply Std.ExtTreeMap.ext_getElem?
  intro name
  rw [getElem?_contribute]
  cases hknown : known[name]? with
  | some v => rw [Option.some_or]
  | none =>
    rw [Option.none_or]
    cases hoffer : offer? known data name with
    | none => rfl
    | some v =>
      have hname := hdata name (Bag.mem_iff.2 ⟨v, mem_of_offer? hoffer⟩)
      exact absurd (hfull name (Bag.isAttribute_iff.1 hname)) (Bag.getElem?_eq_none_iff.1 hknown)

/-! ## One step -/

theorem tryRule_of_matches (h : r.matchesBag (Bag.overlay context known) = true) :
    tryRule context known r = contribute known r.data := by
  rw [tryRule, if_pos h]

theorem tryRule_of_not_matches (h : r.matchesBag (Bag.overlay context known) = false) :
    tryRule context known r = known := by
  rw [tryRule, h, if_neg Bool.false_ne_true]

/-- What every contribution preserves, a step preserves. -/
theorem tryRule_induction {P : Bag → Prop} (hknown : P known)
    (hstep : r.matchesBag (Bag.overlay context known) = true → P (contribute known r.data)) :
    P (tryRule context known r) := by
  cases h : r.matchesBag (Bag.overlay context known) with
  | true => rw [tryRule_of_matches h]; exact hstep h
  | false => rw [tryRule_of_not_matches h]; exact hknown

theorem within_tryRule (context known : Bag) (r : Rule Bag) :
    known.Within (tryRule context known r) :=
  tryRule_induction (P := known.Within) (Bag.Within.refl known)
    fun _ => within_contribute known r.data

theorem OnlyAttributes.tryRule (hknown : OnlyAttributes known) (hdata : OnlyAttributes r.data) :
    OnlyAttributes (tryRule context known r) :=
  tryRule_induction hknown fun _ => hknown.contribute hdata

theorem tryRule_of_full (hfull : ∀ name ∈ Vessel.attributes, name ∈ known)
    (hdata : OnlyAttributes r.data) : tryRule context known r = known :=
  tryRule_induction (P := (· = known)) rfl fun _ => contribute_of_full hfull hdata

/-! ## Runs -/

/-- What every step preserves, a run preserves. -/
theorem gather_induction {P : Bag → Prop} (hknown : P known)
    (hstep : ∀ known, ∀ r ∈ rules, P known → P (tryRule context known r)) :
    P (gather context rules known) := by
  induction rules generalizing known with
  | nil => exact hknown
  | cons r rules ih =>
    have hr := hstep known r List.mem_cons_self hknown
    rw [gather]
    split
    · exact hr
    · exact ih hr fun known s hs => hstep known s (List.mem_cons_of_mem r hs)

theorem within_gather (context known : Bag) (rules : List (Rule Bag)) :
    known.Within (gather context rules known) :=
  gather_induction (P := known.Within) (Bag.Within.refl known)
    fun now r _ h => h.trans (within_tryRule context now r)

/-- Rules that give nothing but attributes of vessels. -/
def OnlyGive (rules : List (Rule Bag)) : Prop := ∀ r ∈ rules, OnlyAttributes r.data

theorem OnlyGive.head (h : OnlyGive (r :: rules)) : OnlyAttributes r.data :=
  h r List.mem_cons_self

theorem OnlyGive.tail (h : OnlyGive (r :: rules)) : OnlyGive rules :=
  fun s hs => h s (List.mem_cons_of_mem r hs)

theorem OnlyGive.left (h : OnlyGive (before ++ after)) : OnlyGive before :=
  fun s hs => h s (List.mem_append_left after hs)

theorem OnlyGive.right (h : OnlyGive (before ++ after)) : OnlyGive after :=
  fun s hs => h s (List.mem_append_right before hs)

theorem OnlyAttributes.gather (hknown : OnlyAttributes known) (hrules : OnlyGive rules) :
    OnlyAttributes (gather context rules known) :=
  gather_induction hknown fun _ r hr h => h.tryRule (hrules r hr)

theorem foldl_tryRule_of_full (hfull : ∀ name ∈ Vessel.attributes, name ∈ known)
    (hrules : OnlyGive rules) : rules.foldl (tryRule context) known = known := by
  induction rules with
  | nil => rfl
  | cons r rules ih =>
    rw [List.foldl_cons, tryRule_of_full hfull hrules.head]
    exact ih hrules.tail

/-- A run that stops as soon as no attribute is missing gathers as much as one over all rules. -/
theorem gather_eq_foldl (hknown : OnlyAttributes known) (hrules : OnlyGive rules) :
    gather context rules known = rules.foldl (tryRule context) known := by
  induction rules generalizing known with
  | nil => rfl
  | cons r rules ih =>
    have hr : OnlyAttributes (GuessRules.tryRule context known r) := hknown.tryRule hrules.head
    rw [gather, List.foldl_cons]
    split
    · next hsize => exact (foldl_tryRule_of_full ((Bag.size_eq_iff hr).1 hsize) hrules.tail).symm
    · exact ih hr hrules.tail

theorem gather_append (hknown : OnlyAttributes known) (hrules : OnlyGive (before ++ after)) :
    gather context (before ++ after) known =
      gather context after (gather context before known) := by
  rw [gather_eq_foldl hknown hrules, List.foldl_append, ← gather_eq_foldl hknown hrules.left,
    gather_eq_foldl (hknown.gather hrules.left) hrules.right]

theorem gather_cons (hknown : OnlyAttributes known) (hrules : OnlyGive (r :: after)) :
    gather context (r :: after) known = gather context after (tryRule context known r) := by
  rw [gather_eq_foldl hknown hrules, List.foldl_cons,
    gather_eq_foldl (hknown.tryRule hrules.head) hrules.tail]

/-! ## Where values come from -/

/-- Whether a rule matches when its turn comes, after the rules before it. -/
def fires (context known : Bag) (before : List (Rule Bag)) (r : Rule Bag) : Bool :=
  r.matchesBag (Bag.overlay context (gather context before known))

/-- The rule `r` is the first to give an attribute: it matches and offers the value `v` when its
turn comes, and the attribute is not known by then. -/
structure Supplies (context known : Bag) (before : List (Rule Bag)) (r : Rule Bag) (name : String)
    (v : Value) : Prop where
  unknown : name ∉ gather context before known
  fires : fires context known before r = true
  offer : offer? (gather context before known) r.data name = some v

theorem getElem?_tryRule_eq_some_iff :
    (tryRule context known r)[name]? = some v ↔
      known[name]? = some v ∨ Supplies context known [] r name v := by
  constructor
  · intro h
    cases hmatch : r.matchesBag (Bag.overlay context known) with
    | false => rw [tryRule_of_not_matches hmatch] at h; exact Or.inl h
    | true =>
      rw [tryRule_of_matches hmatch, getElem?_contribute, Option.or_eq_some_iff] at h
      rcases h with h | ⟨hknown, h⟩
      · exact Or.inl h
      · exact Or.inr ⟨Bag.getElem?_eq_none_iff.1 hknown, hmatch, h⟩
  · rintro (h | h)
    · exact within_tryRule context known r name v h
    · have hmatch : r.matchesBag (Bag.overlay context known) = true := h.fires
      have hunknown : name ∉ known := h.unknown
      rw [tryRule_of_matches hmatch, getElem?_contribute, Bag.getElem?_eq_none_iff.2 hunknown,
        Option.none_or]
      exact h.offer

/-- A value that is known after a run was known before, or the first rule to give the attribute gave
it. -/
theorem getElem?_gather_eq_some_iff (hknown : OnlyAttributes known) (hrules : OnlyGive rules) :
    (gather context rules known)[name]? = some v ↔
      known[name]? = some v ∨
        ∃ before r after, rules = before ++ r :: after ∧
          Supplies context known before r name v := by
  induction rules generalizing known with
  | nil => simp [gather]
  | cons r rules ih =>
    have hr : OnlyAttributes (GuessRules.tryRule context known r) := hknown.tryRule hrules.head
    have hcons : ∀ before s after, rules = before ++ s :: after →
        gather context (r :: before) known = gather context before (tryRule context known r) := by
      rintro before s after rfl
      have hfront : OnlyGive (r :: before) := OnlyGive.left hrules
      exact gather_cons hknown hfront
    have hsupplies : ∀ before s after, rules = before ++ s :: after →
        (Supplies context known (r :: before) s name v ↔
          Supplies context (tryRule context known r) before s name v) := by
      intro before s after h
      constructor
      · rintro ⟨hunknown, hfires, hoffer⟩
        rw [fires] at hfires
        rw [hcons before s after h] at hunknown hfires hoffer
        exact ⟨hunknown, hfires, hoffer⟩
      · rintro ⟨hunknown, hfires, hoffer⟩
        rw [fires, ← hcons before s after h] at hfires
        rw [← hcons before s after h] at hunknown hoffer
        exact ⟨hunknown, hfires, hoffer⟩
    rw [gather_cons hknown hrules, ih hr hrules.tail, getElem?_tryRule_eq_some_iff, or_assoc]
    constructor
    · rintro (h | h | ⟨before, s, after, rfl, h⟩)
      · exact Or.inl h
      · exact Or.inr ⟨[], r, rules, rfl, h⟩
      · exact Or.inr ⟨r :: before, s, after, rfl, (hsupplies before s after rfl).2 h⟩
    · rintro (h | ⟨before, s, after, hsplit, h⟩)
      · exact Or.inl h
      · rcases List.cons_eq_append_iff.1 hsplit with ⟨rfl, hs⟩ | ⟨before', rfl, hrules'⟩
        · cases hs
          exact Or.inr (Or.inl h)
        · have hs := (hsupplies before' s after hrules').1 h
          exact Or.inr (Or.inr ⟨before', s, after, hrules', hs⟩)

/-- What a rule offers when it fires is known in the end, from this rule or from one before it. -/
theorem mem_gather_of_fires (hknown : OnlyAttributes known)
    (hrules : OnlyGive (before ++ r :: after)) (hfires : fires context known before r = true)
    (hoffer : offer? (gather context before known) r.data name = some v) :
    name ∈ gather context (before ++ r :: after) known := by
  by_cases hunknown : name ∈ gather context before known
  · rw [gather_append hknown hrules]
    exact (within_gather context _ (r :: after)).mem hunknown
  · rw [Bag.mem_iff]
    exact ⟨v, (getElem?_gather_eq_some_iff hknown hrules).2
      (Or.inr ⟨before, r, after, rfl, hunknown, hfires, hoffer⟩)⟩

/-- Apart from sizes, what an unconditional rule gives is known in the end. -/
theorem mem_gather_of_isUnconditional (hknown : OnlyAttributes known) (hrules : OnlyGive rules)
    (hr : r ∈ rules) (huncond : r.isUnconditional = true) (hname : isSizeName name = false)
    (hmem : name ∈ r.data) : name ∈ gather context rules known := by
  obtain ⟨before, after, rfl⟩ := List.append_of_mem hr
  obtain ⟨v, hv⟩ := Bag.mem_iff.1 hmem
  apply mem_gather_of_fires hknown hrules (Rule.matchesBag_of_isUnconditional huncond _) (v := v)
  rw [offer?_of_not_isSizeName hname, hv]

end GuessRules

end ShipEmissions
