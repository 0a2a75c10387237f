import Mathlib.Data.Int.Notation
import ShipEmissions.Proofs.Document
import ShipEmissions.Proofs.Json.Objects

/-!
# Values of objects that are written and read again

Null, truth values and texts are read as they were written, wherever they stand in an object. A
number is written in one word, so where it stands does not matter to how it is read either.

* `readAs_null`, `readAs_boolean`, `readAs_text`: what is read as itself.
* `isPlain_text`: a number is written in one word, in every style.
* `ReadsBack`, `ReadsBack.readAs`: numbers that are read back as they were written.
-/

namespace ShipEmissions

namespace Json

/-! ## Names and texts -/

theorem spells_null : Spells "null" [.scalar .null] :=
  spells_of_isWord ⟨by simp, by simp [inWord_iff, mark?]⟩ rfl

theorem spells_boolean (b : Bool) : Spells (if b then "true" else "false") [.scalar (.boolean b)] :=
  match b with
  | false => spells_of_isWord ⟨by simp, by simp [inWord_iff, mark?]⟩ rfl
  | true => spells_of_isWord ⟨by simp, by simp [inWord_iff, mark?]⟩ rfl

theorem readAs_null : ReadAs .null .null :=
  ⟨.null, fun _ => spells_null, fun _ => rfl, rfl⟩

theorem readAs_boolean (b : Bool) : ReadAs (.boolean b) (.boolean b) :=
  ⟨.boolean b, fun _ => spells_boolean b, fun _ => rfl, rfl⟩

theorem readAs_text (s : String) : ReadAs (.text s) (.text s) := by
  refine ⟨_, fun margin => spells_quotedText s, fun depth => ?_, rfl⟩
  simp only [Written.value?, textOf?_pieces, Option.map_some]

theorem compactItems_eq_map (items : List Json) : compactItems items = items.map compact := by
  induction items with
  | nil => rfl
  | cons item items ih => rw [compactItems, ih, List.map_cons]

/-! ## Numbers -/

/-- All characters of a text may stand in a word. -/
def IsPlain (text : String) : Prop := ∀ c ∈ text.toList, InWord c

theorem inWord_of_isDigit {c : Char} (h : c.isDigit) : InWord c := by
  constructor
  · rintro rfl
    cases h
  · unfold mark?
    split
    case h_11 => rfl
    all_goals cases h

theorem IsPlain.append {a b : String} (ha : IsPlain a) (hb : IsPlain b) : IsPlain (a ++ b) := by
  intro c hc
  rw [String.toList_append] at hc
  exact (List.mem_append.1 hc).elim (ha c) (hb c)

theorem isPlain_ofList {chars : List Char} (h : ∀ c ∈ chars, InWord c) :
    IsPlain (String.ofList chars) := by
  rwa [IsPlain, String.toList_ofList]

theorem isPlain_toString (n : ℕ) : IsPlain (toString n) := by
  intro c hc
  exact inWord_of_isDigit (Nat.isDigit_of_mem_toDigits (by decide) (by decide)
    (Nat.toList_repr ▸ hc))

theorem isPlain_zeros (count : ℤ) : IsPlain (NumberStyle.zeros count) :=
  isPlain_ofList fun _ hc => List.eq_of_mem_replicate hc ▸ inWord_of_isDigit rfl

theorem IsPlain.ite {a b : String} (p : Prop) [Decidable p] (ha : IsPlain a) (hb : IsPlain b) :
    IsPlain (if p then a else b) := by
  split
  · exact ha
  · exact hb

/-- The parts of numbers that are no runs of digits. -/
def numberMarks : List String :=
  ["", "-", "+", ".", ".0", "0", "0.", "0.0", "e", "NaN", "inf", "-inf"]

theorem isPlain_mark : ∀ {text}, text ∈ numberMarks → IsPlain text := by
  simp [numberMarks, IsPlain, inWord_iff, mark?]

theorem isPlain_positionalText (pointZero : Bool) (d : Digits) :
    IsPlain (NumberStyle.positionalText pointZero d) := by
  have hdigits : IsPlain d.text := isPlain_toString d.significand
  have hwhole := isPlain_ofList fun c (hc : c ∈ d.text.toList.take (d.leading + 1).toNat) =>
    hdigits c (List.mem_of_mem_take hc)
  have hfraction := isPlain_ofList fun c (hc : c ∈ d.text.toList.drop (d.leading + 1).toNat) =>
    hdigits c (List.mem_of_mem_drop hc)
  have hend : IsPlain (if pointZero then ".0" else "") :=
    .ite _ (isPlain_mark (by decide)) (isPlain_mark (by decide))
  refine .ite _ ?integer (.ite _ ?small ?mixed)
  case integer => exact (hdigits.append (isPlain_zeros _)).append hend
  case small => exact ((isPlain_mark (by decide)).append (isPlain_zeros _)).append hdigits
  case mixed => exact (hwhole.append (isPlain_mark (by decide))).append hfraction

theorem isPlain_exponentText (signed : Bool) (d : Digits) :
    IsPlain (NumberStyle.exponentText signed d) := by
  have hdigits : ∀ c ∈ d.text.toList, InWord c := isPlain_toString d.significand
  refine ((IsPlain.append ?mantissa (isPlain_mark (by decide))).append ?sign).append
    (isPlain_toString _)
  case mantissa =>
    split
    case h_1 => exact isPlain_mark (by decide)
    case h_2 c hc => exact isPlain_ofList (hc ▸ hdigits)
    case h_3 c rest _ hc =>
      obtain ⟨hfirst, hrest⟩ := List.forall_mem_cons.1 (hc ▸ hdigits)
      refine isPlain_ofList (List.forall_mem_cons.2 ⟨hfirst, List.forall_mem_cons.2 ⟨?_, hrest⟩⟩)
      exact ⟨by decide, rfl⟩
  case sign =>
    have hplus : IsPlain (if signed then "+" else "") :=
      .ite _ (isPlain_mark (by decide)) (isPlain_mark (by decide))
    exact .ite _ (isPlain_mark (by decide)) hplus

theorem isPlain_digitsText (style : NumberStyle) (d : Digits) : IsPlain (style.digitsText d) := by
  unfold NumberStyle.digitsText
  split
  · exact isPlain_positionalText _ _
  · exact .ite _ (isPlain_positionalText _ _) (isPlain_exponentText _ _)

/-- Numbers are written in one word, in every style. -/
theorem isPlain_text (style : NumberStyle) (x : Float) : IsPlain (style.text x) := by
  unfold NumberStyle.text
  split
  case h_1 => exact isPlain_mark (by decide)
  case h_2 => exact .ite _ (isPlain_mark (by decide)) (isPlain_mark (by decide))
  case h_3 negative m e _ =>
    have hsign : IsPlain (if negative then "-" else "") :=
      .ite _ (isPlain_mark (by decide)) (isPlain_mark (by decide))
    have hzero : IsPlain (if style.pointZero then "0.0" else "0") :=
      .ite _ (isPlain_mark (by decide)) (isPlain_mark (by decide))
    exact hsign.append (.ite _ hzero (isPlain_digitsText style _))

/-- A number is read as it was written. Numbers that are not finite have no written form. -/
def ReadsBack (x : Float) : Prop := (read? (Json.ofFloat x).compact).bind number? = some x

instance (x : Float) : Decidable (ReadsBack x) := inferInstanceAs (Decidable (_ = _))

/-- A word that is read as a number spells this number. -/
theorem exists_spells_of_read? {text : String} {n : Number} (hplain : IsPlain text)
    (hread : read? text = some (.number n)) :
    ∃ d, Spells text [.scalar (.number d)] ∧ Number.ofDecimal? d = some n := by
  have hword : IsWord text.toList := by
    refine ⟨fun hnil => ?_, hplain⟩
    rw [read?, Written.ofText?, hnil] at hread
    cases hread
  rw [read?, ofText?_of_isWord hword] at hread
  obtain ⟨written, hwritten, hread⟩ := Option.bind_eq_some_iff.1 hread
  obtain ⟨doc, hvalue, hdoc⟩ := Option.bind_eq_some_iff.1 hread
  -- what is no number is not read as one
  cases written with
  | number d =>
    obtain ⟨n', hn', rfl⟩ := Option.map_eq_some_iff.1 hvalue
    cases hdoc
    exact ⟨d, spells_of_isWord hword hwritten, hn'⟩
  | null | boolean b => cases hvalue; cases hdoc
  | text _ | array _ | object _ =>
    obtain ⟨_, -, rfl⟩ := Option.map_eq_some_iff.1 hvalue
    cases hdoc

/-- A number that is read back on its own is read back where it stands in an object. -/
theorem ReadsBack.readAs {x : Float} (h : ReadsBack x) :
    ∃ n : Number, n.toFloat = x ∧ ReadAs (.ofFloat x) (.number n) := by
  obtain ⟨doc, hread, hdoc⟩ := Option.bind_eq_some_iff.1 h
  obtain ⟨n, rfl, hn⟩ := number?_eq_some_iff.1 hdoc
  refine ⟨n, hn, ?_⟩
  by_cases hfinite : x.isFinite = true
  case neg =>
    rw [ofFloat, if_neg hfinite] at hread
    cases hread
  rw [ofFloat, if_pos hfinite] at hread ⊢
  obtain ⟨d, hspells, hd⟩ := exists_spells_of_read? (isPlain_text .interchange x) hread
  refine ⟨.number d, fun _ => hspells, fun _ => ?_, rfl⟩
  rw [Written.value?, hd]
  rfl

end Json

end ShipEmissions
