import Mathlib.Data.List.Nodup
import ShipEmissions.Proofs.Bag
import ShipEmissions.Proofs.Json.Scanning

/-!
# Objects that are written and read again

An object of values that hold no others is written one field a line. Reading it gives the fields
back, each with the value that its text is read as.

* `ofTokens?_fields`, `ofText?_block`: the tree of the tokens and of the lines of an object.
* `ReadAs`: what a value is read as where it stands in an object.
* `sortedFields_eq_self`: fields that are in order stay as they are.
* `read?_indented`, `read?_indented_of_ordered`: what an object is read as.
-/

namespace ShipEmissions

namespace Json

open Scan (Reaches)

/-! ## Trees of tokens -/

/-- The tokens of a field. -/
def fieldTokens (field : List Piece × Written) : List Token :=
  [.scalar (.text field.1), .colon, .scalar field.2]

/-- Fields are read wherever a name may follow, and the end of the object behind them. -/
theorem foldlM_fields {stage : Stage} {done : List (List Piece × Written)} {frames : List Frame}
    (hname : ∀ name, stage.step? (.scalar (.text name)) = some (.needColon done name frames))
    (field : List Piece × Written) (fields : List (List Piece × Written)) :
    ([Token.comma].intercalate ((field :: fields).map fieldTokens) ++
        [Token.closeObject]).foldlM Stage.step? stage =
      some (.complete (.object (done.reverse ++ field :: fields)) frames) := by
  induction fields generalizing stage done field with
  | nil =>
    obtain ⟨name, value⟩ := field
    rw [List.map_cons, List.map_nil, List.intercalate_singleton, fieldTokens]
    show (stage.step? (.scalar (.text name)) >>= _) = _
    rw [hname]
    show some (Stage.complete (.object ((name, value) :: done).reverse) frames) = _
    rw [List.reverse_cons]
  | cons next fields ih =>
    obtain ⟨name, value⟩ := field
    have hrest := @ih (.needName ((name, value) :: done) frames) ((name, value) :: done)
      (fun _ => rfl) next
    rw [List.reverse_cons, List.append_assoc] at hrest
    rw [List.map_cons, List.map_cons, List.intercalate_cons_cons, ← List.map_cons,
      List.append_assoc, List.append_assoc, fieldTokens]
    show (stage.step? (.scalar (.text name)) >>= _) = _
    rw [hname]
    exact hrest

theorem ofTokens?_fields (fields : List (List Piece × Written)) :
    ofTokens? (.openObject :: ([Token.comma].intercalate (fields.map fieldTokens) ++
      [.closeObject])) = some (.object fields) := by
  cases fields with
  | nil => rfl
  | cons field fields =>
    have hname : ∀ name, (Stage.needFirstName []).step? (.scalar (.text name)) =
        some (.needColon [] name []) := fun _ => rfl
    have hopen : ∀ tokens, (Token.openObject :: tokens).foldlM Stage.step? (.needValue []) =
        tokens.foldlM Stage.step? (.needFirstName []) := fun _ => rfl
    rw [ofTokens?, hopen, foldlM_fields hname field fields]
    rfl

/-! ## Lines -/

theorem spells_field {name text : String} {value : Written} (h : Spells text [.scalar value]) :
    Spells (quotedText name ++ ": " ++ text) (fieldTokens (name.toList.map pieceOf, value)) :=
  (spells_quotedText name).next rfl (c := ':') rfl rfl h

theorem spells_lines {lines : List String} {tokens : List (List Token)}
    (h : List.Forall₂ Spells lines tokens) (hne : lines ≠ []) :
    Spells (",\n".intercalate lines) ([Token.comma].intercalate tokens) := by
  induction h with
  | nil => exact absurd rfl hne
  | @cons line first lines tokens hline hlines ih =>
    cases hlines with
    | nil =>
      rw [String.intercalate_singleton, List.intercalate_singleton]
      exact hline
    | cons hnext hlines =>
      rw [String.intercalate_cons_cons, List.intercalate_cons_cons]
      exact hline.next rfl (c := ',') rfl rfl (ih (List.cons_ne_nil _ _))

/-- The lines of an object are read as its fields. -/
theorem ofText?_block {lines : List String} {fields : List (List Piece × Written)}
    (h : List.Forall₂ Spells lines (fields.map fieldTokens)) :
    Written.ofText? (block "\x7b" "\x7d" "" lines) = some (.object fields) := by
  by_cases hne : lines = []
  · subst hne
    obtain rfl := List.map_eq_nil_iff.1 (List.forall₂_nil_left_iff.1 h)
    rfl
  · have hbody : Spells (",\n".intercalate (lines.map fun line => "" ++ "  " ++ line))
        ([Token.comma].intercalate (fields.map fieldTokens)) := by
      refine spells_lines (List.forall₂_map_left_iff.2 (h.imp fun line tokens hline => ?_)) ?_
      · exact hline.indent (n := 2) rfl
      · exact fun hmap => hne (List.map_eq_nil_iff.1 hmap)
    have hopen : Reaches .between ['\x7b', '\n'] .between [.openObject] :=
      (reaches_mark (c := '\x7b') rfl).append (reaches_mark (c := '\n') rfl)
    have hrun := (hopen.append (hbody '\n' [] rfl)).append (reaches_mark (c := '\x7d') rfl)
    have hchars : (block "\x7b" "\x7d" "" lines).toList = ['\x7b', '\n'] ++
        ((",\n".intercalate (lines.map fun line => "" ++ "  " ++ line)).toList ++ ['\n']) ++
        ['\x7d'] := by
      rw [block, if_neg (by rwa [List.isEmpty_iff])]
      simp only [String.toList_append, List.append_assoc]
      rfl
    rw [Written.ofText?, hchars, hrun.tokens?_eq]
    simp only [Scan.finish?, Option.map_some, Option.bind_some, List.append_nil, List.append_assoc]
    exact ofTokens?_fields fields

/-! ## Fields -/

/-- What a value is read as where it stands in an object. -/
def ReadAs (doc again : Json) : Prop :=
  ∃ value : Written, (∀ margin, Spells (doc.indented margin) [.scalar value]) ∧
    (∀ depth, value.value? depth = some again) ∧ again.normalized = again

/-- The same name, with a value that is read as the other. -/
def FieldReadAs (field again : String × Json) : Prop :=
  field.1 = again.1 ∧ ReadAs field.2 again.2

theorem exists_written {fields again : Fields} (h : List.Forall₂ FieldReadAs fields again)
    (margin : String) (depth : ℕ) :
    ∃ written : List (List Piece × Written),
      List.Forall₂ Spells (indentedFields margin fields) (written.map fieldTokens) ∧
      fieldValues? depth written = some again ∧ normalizedFields again = again := by
  induction h with
  | nil => exact ⟨[], .nil, rfl, rfl⟩
  | @cons field other fields again hfield _ ih =>
    obtain ⟨name, doc⟩ := field
    obtain ⟨_, doc'⟩ := other
    obtain ⟨rfl, value, hspells, hvalue, hnormal⟩ := hfield
    obtain ⟨written, hlines, hvalues, hnormals⟩ := ih
    refine ⟨(name.toList.map pieceOf, value) :: written,
      .cons (spells_field (hspells margin)) hlines, ?_, ?_⟩
    · simp only [fieldValues?, textOf?_pieces, hvalue, hvalues]
      rfl
    · simp only [normalizedFields, hnormal, hnormals]

/-- An object is read as the object of what its fields are read as. -/
theorem read?_indented {fields again : Fields} (h : List.Forall₂ FieldReadAs fields again) :
    read? ((object fields).indented "") = some (.object (sortedFields again)) := by
  obtain ⟨written, hlines, hvalues, hnormals⟩ := exists_written h ("" ++ "  ") 126
  have hvalue : (Written.object written).value? maxDepth = some (.object again) := by
    rw [maxDepth, Written.value?, hvalues]
    rfl
  rw [read?, indented, ofText?_block hlines]
  show ((Written.object written).value? maxDepth).bind _ = _
  rw [hvalue]
  show some (Json.object again).normalized = _
  rw [normalized, hnormals]

/-! ## Order -/

/-- Fields in the order of their names, each name once, stay as they are. -/
theorem sortedFields_eq_self {fields : Fields}
    (hordered : fields.Pairwise fun a b => compare a.1 b.1 = .lt) :
    sortedFields fields = fields := by
  have hne : ∀ {a b : String × Json}, compare a.1 b.1 = .lt → a.1 ≠ b.1 := by
    intro a b hlt heq
    have hself : compare b.1 b.1 = .eq := Std.ReflCmp.compare_self
    rw [heq, hself] at hlt
    cases hlt
  have hnames : (fields.map Prod.fst).Nodup := List.pairwise_map.2 (hordered.imp hne)
  have hsorted := Std.ExtTreeMap.ordered_keys_toList (t := Std.ExtTreeMap.ofList fields)
  have hperm : (Std.ExtTreeMap.ofList fields).toList.Perm fields := by
    refine (List.perm_ext_iff_of_nodup ?_ hnames.of_map).2 ?_
    · exact hsorted.imp fun hlt heq => hne hlt (congrArg Prod.fst heq)
    · rintro ⟨name, value⟩
      rw [Std.ExtTreeMap.mem_toList_iff_getElem?_eq_some, getElem?_ofList_eq_some_iff hnames]
  refine hperm.eq_of_pairwise ?_ hsorted hordered
  intro a b _ _ hab hba
  have hswap : compare a.1 b.1 = (compare b.1 a.1).swap := Std.OrientedCmp.eq_swap
  rw [hswap, hba] at hab
  cases hab

/-- An object with its fields in order is read as the object of what they are read as. -/
theorem read?_indented_of_ordered {fields again : Fields}
    (h : List.Forall₂ FieldReadAs fields again)
    (hordered : fields.Pairwise fun a b => compare a.1 b.1 = .lt) :
    read? ((object fields).indented "") = some (.object again) := by
  have hnames : fields.map Prod.fst = again.map Prod.fst := by
    rw [← List.forall₂_eq_eq_eq, List.forall₂_map_left_iff, List.forall₂_map_right_iff]
    exact h.imp fun _ _ hfield => hfield.1
  have hsorted : (fields.map Prod.fst).Pairwise fun a b => compare a b = .lt :=
    List.pairwise_map.2 hordered
  rw [hnames] at hsorted
  rw [read?_indented h, sortedFields_eq_self (List.pairwise_map.1 hsorted)]

end Json

end ShipEmissions
