import Mathlib.Data.List.Forall2
import Mathlib.Tactic.MkIffOfInductiveProp
import ShipEmissions.Json.Printer
import ShipEmissions.Json.Reader

/-!
# Documents that are written and read again

An object whose fields hold no other objects and no lists is written over several lines. Reading
takes these lines apart into the tokens that they were put together from.

* `Scan.Reaches`: what has been read of a text, and which tokens came with it.
* `reaches_quotedText`, `textOf?_pieces`: a text between quotes stands for the text.
* `Spells`, `Spells.next`: the tokens of a text in front of a mark, and of two texts with a mark
  between them.
-/

namespace ShipEmissions

namespace Json

/-! ## Runs of the scanner -/

/-- A text takes the scanner from one state to another, and completes some tokens on the way. -/
inductive Scan.Reaches : Scan → List Char → Scan → List Token → Prop
  | nil (s : Scan) : Reaches s [] s []
  | cons {s middle after : Scan} {c : Char} {text : List Char} {first others : List Token} :
    s.step? c = some (middle, first) → Reaches middle text after others →
    Reaches s (c :: text) after (first ++ others)

namespace Scan

variable {s middle after : Scan} {c : Char} {text more : List Char} {first others : List Token}

theorem Reaches.single (h : s.step? c = some (after, first)) : Reaches s [c] after first := by
  have hrun := Reaches.cons h (.nil after)
  rwa [List.append_nil] at hrun

theorem Reaches.silent (h : s.step? c = some (middle, [])) (h' : Reaches middle text after others) :
    Reaches s (c :: text) after others := .cons h h'

theorem Reaches.append (h : Reaches s text middle first) (h' : Reaches middle more after others) :
    Reaches s (text ++ more) after (first ++ others) := by
  induction h with
  | nil s => exact h'
  | cons hstep _ ih =>
    rw [List.append_assoc]
    exact .cons hstep (ih h')

/-- A run does not depend on the tokens that were completed before. -/
theorem Reaches.foldlM_eq (h : Reaches s text after first) (done : List Token) :
    text.foldlM (fun (state : Scan × List Token) c =>
      (state.1.step? c).map fun (s, tokens) => (s, tokens.reverse ++ state.2)) (s, done) =
      some (after, first.reverse ++ done) := by
  induction h generalizing done with
  | nil s => rfl
  | cons hstep _ ih =>
    rw [List.foldlM_cons, hstep, List.reverse_append, List.append_assoc]
    exact ih _

/-- The tokens of a text are those of a run over it, and those that its end completes. -/
theorem Reaches.tokens?_eq (h : Reaches .between text after first) :
    tokens? text = after.finish?.map (first ++ ·) := by
  rw [tokens?, h.foldlM_eq, List.append_nil]
  show after.finish?.map (fun last => first.reverse.reverse ++ last) = _
  rw [List.reverse_reverse]

end Scan

/-! ## Words -/

/-- A character that may stand in a word: no quote, mark or blank. -/
@[mk_iff]
structure InWord (c : Char) : Prop where
  quote : c ≠ '"'
  mark : mark? c = none

/-- A text that is one word. -/
structure IsWord (word : List Char) : Prop where
  nonempty : word ≠ []
  chars : ∀ c ∈ word, InWord c

open Scan (Reaches)

theorem reaches_word {done word : List Char} (h : ∀ c ∈ word, InWord c) :
    Reaches (.word done) word (.word (word.reverse ++ done)) [] := by
  induction word generalizing done with
  | nil => exact .nil _
  | cons c word ih =>
    obtain ⟨⟨hquote, hmark⟩, hword⟩ := List.forall_mem_cons.1 h
    have hstep : (Scan.word done).step? c = some (.word (c :: done), []) :=
      if_neg (by simp [hquote, hmark])
    rw [List.reverse_cons, List.append_assoc]
    exact .cons hstep (ih hword)

theorem reaches_of_isWord {word : List Char} (h : IsWord word) :
    Reaches .between word (.word word.reverse) [] := by
  obtain ⟨hne, hword⟩ := h
  cases word with
  | nil => exact absurd rfl hne
  | cons c word =>
    obtain ⟨⟨hquote, hmark⟩, hword⟩ := List.forall_mem_cons.1 hword
    have hstep : Scan.between.step? c = some (.word [c], []) := by
      show some (stepBetween c) = _
      rw [stepBetween, if_neg hquote, hmark]
    rw [List.reverse_cons]
    exact .cons hstep (reaches_word hword)

/-- A word on its own is a document if it is the word of a value. -/
theorem ofText?_of_isWord {text : String} (h : IsWord text.toList) :
    Written.ofText? text = Written.ofWord? text.toList := by
  rw [Written.ofText?, (reaches_of_isWord h).tokens?_eq, Scan.finish?, List.reverse_reverse]
  cases Written.ofWord? text.toList with
  | none => rfl
  | some value => rfl

/-! ## Texts -/

/-- The control characters that have a short form. -/
def shortForms : List Char := ['\n', '\r', '\t', '\x08', '\x0c']

/-- How a character of a text is read again: control characters without a short form are code
units. -/
def pieceOf (c : Char) : Piece :=
  if c.toNat < 0x20 ∧ c ∉ shortForms then .unit c.toNat else .char c

/-- Control characters without a short form are written by their number, in four digits. -/
theorem escapedChar_control : ∀ n < 0x20, Char.ofNat n ∉ shortForms →
    (escapedChar (Char.ofNat n)).toList.take 2 = ['\\', 'u'] ∧
      ((escapedChar (Char.ofNat n)).toList.drop 2).length = 4 ∧
      hexValue? ((escapedChar (Char.ofNat n)).toList.drop 2) = some n := by
  decide +kernel

theorem reaches_code (done : List Piece) {digits : List Char} {n : ℕ} (hlength : digits.length = 4)
    (hvalue : hexValue? digits = some n) :
    Reaches (.text done) ('\\' :: 'u' :: digits) (.text (.unit n :: done)) [] := by
  match digits, hlength with
  | [a, b, c, d], _ =>
    have hlast : (Scan.code done [c, b, a]).step? d = some (.text (.unit n :: done), []) := by
      show (hexValue? [a, b, c, d]).map _ = _
      rw [hvalue]
      rfl
    exact .silent rfl (.silent rfl (.silent rfl (.silent rfl (.silent rfl (.single hlast)))))

/-- Behind a backslash, a letter stands for a character. -/
theorem reaches_short (done : List Piece) {e c : Char} (hletter : e ≠ 'u')
    (hshort : escaped? e = some c) :
    Reaches (.text done) ['\\', e] (.text (.char c :: done)) [] := by
  have hlast : (Scan.escape done).step? e = some (.text (.char c :: done), []) := by
    rw [Scan.step?, if_neg hletter, hshort]
    rfl
  exact .silent rfl (.single hlast)

/-- What is written for a character between quotes is read as that character. -/
theorem reaches_escapedChar (done : List Piece) (c : Char) :
    Reaches (.text done) (escapedChar c).toList (.text (pieceOf c :: done)) [] := by
  by_cases hcontrol : c.toNat < 0x20 ∧ c ∉ shortForms
  · obtain ⟨hmark, hlength, hvalue⟩ := escapedChar_control c.toNat hcontrol.1
      (by rw [Char.ofNat_toNat]; exact hcontrol.2)
    rw [Char.ofNat_toNat] at hmark hlength hvalue
    rw [pieceOf, if_pos hcontrol, ← List.take_append_drop 2 (escapedChar c).toList, hmark]
    exact reaches_code done hlength hvalue
  · rw [pieceOf, if_neg hcontrol]
    unfold escapedChar
    split
    case h_1 => exact reaches_short done (e := '"') (by decide) rfl
    case h_2 => exact reaches_short done (e := '\\') (by decide) rfl
    case h_3 => exact reaches_short done (e := 'n') (by decide) rfl
    case h_4 => exact reaches_short done (e := 'r') (by decide) rfl
    case h_5 => exact reaches_short done (e := 't') (by decide) rfl
    case h_6 => exact reaches_short done (e := 'b') (by decide) rfl
    case h_7 => exact reaches_short done (e := 'f') (by decide) rfl
    case h_8 hquote hbackslash hn hr ht hb hf =>
      have hplain : ¬c.toNat < 0x20 := by
        intro hsmall
        refine hcontrol ⟨hsmall, ?_⟩
        simp only [shortForms, List.mem_cons, List.not_mem_nil, or_false]
        rintro (h | h | h | h | h)
        exacts [hn h, hr h, ht h, hb h, hf h]
      have hstep : (Scan.text done).step? c = some (.text (.char c :: done), []) := by
        rw [Scan.step?, if_neg hquote, if_neg hbackslash, if_neg hplain]
      rw [if_neg hplain, Char.toString_eq_singleton, String.toList_singleton]
      exact .single hstep

theorem reaches_escaped (done : List Piece) (text : List Char) :
    Reaches (.text done) (text.flatMap fun c => (escapedChar c).toList)
      (.text ((text.map pieceOf).reverse ++ done)) [] := by
  induction text generalizing done with
  | nil => exact .nil _
  | cons c text ih =>
    rw [List.flatMap_cons, List.map_cons, List.reverse_cons, List.append_assoc]
    exact (reaches_escapedChar done c).append (ih (pieceOf c :: done))

theorem toList_quotedText (s : String) :
    (quotedText s).toList =
      ['"'] ++ (s.toList.flatMap fun c => (escapedChar c).toList) ++ ['"'] := by
  rw [quotedText, String.toList_append, String.toList_append, String.toList_join, List.flatMap_map]
  rfl

theorem reaches_quotedText (s : String) :
    Reaches .between (quotedText s).toList .between [.scalar (.text (s.toList.map pieceOf))] := by
  have hopen : Reaches .between ['"'] (.text []) [] := .single rfl
  have hclose : Reaches (.text ((s.toList.map pieceOf).reverse ++ [])) ['"'] .between
      [.scalar (.text (s.toList.map pieceOf))] := by
    refine .single ?_
    rw [List.append_nil]
    show some (Scan.between, [Token.scalar (.text _)]) = _
    rw [List.reverse_reverse]
  rw [toList_quotedText]
  exact (hopen.append (reaches_escaped [] s.toList)).append hclose

theorem joined?_cons_pieceOf (c : Char) (pieces : List Piece) :
    joined? (pieceOf c :: pieces) = (joined? pieces).map (c :: ·) := by
  rw [pieceOf]
  split
  · next h =>
    -- a control character is no half of a pair
    have hsmall : c.toNat < 0xd800 := Nat.lt_trans h.1 (by decide)
    have hhigh : isHigh c.toNat = false := by
      rw [isHigh, decide_eq_false (Nat.not_le.2 hsmall), Bool.false_and]
    have hlow : isLow c.toNat = false := by
      rw [isLow, decide_eq_false (Nat.not_le.2 (Nat.lt_trans hsmall (by decide))), Bool.false_and]
    cases pieces with
    | nil => simp [joined?, hhigh, hlow]
    | cons piece pieces =>
      cases piece with
      | char d => simp [joined?, hhigh, hlow]
      | unit n => simp [joined?, hhigh, hlow]
  · rfl

/-- The pieces that a text is read as stand for the text. -/
theorem textOf?_pieces (s : String) : textOf? (s.toList.map pieceOf) = some s := by
  have hjoined : ∀ text : List Char, joined? (text.map pieceOf) = some text := by
    intro text
    induction text with
    | nil => rfl
    | cons c text ih => rw [List.map_cons, joined?_cons_pieceOf, ih]; rfl
  rw [textOf?, hjoined, Option.map_some, String.ofList_toList]

/-! ## Texts in front of marks -/

/-- A text spells tokens: in front of a mark or a blank it is read as these. -/
def Spells (text : String) (tokens : List Token) : Prop :=
  ∀ (c : Char) (more : List Token), mark? c = some more →
    Reaches .between (text.toList ++ [c]) .between (tokens ++ more)

theorem stepBetween_of_mark {c : Char} {tokens : List Token} (h : mark? c = some tokens) :
    stepBetween c = (.between, tokens) := by
  have hquote : c ≠ '"' := by
    rintro rfl
    cases h
  rw [stepBetween, if_neg hquote, h]

theorem reaches_mark {c : Char} {tokens : List Token} (h : mark? c = some tokens) :
    Reaches .between [c] .between tokens :=
  .single (congrArg some (stepBetween_of_mark h))

theorem spells_of_isWord {text : String} {value : Written} (h : IsWord text.toList)
    (hvalue : Written.ofWord? text.toList = some value) : Spells text [.scalar value] := by
  intro c more hmark
  have hstep : (Scan.word text.toList.reverse).step? c =
      some (.between, .scalar value :: more) := by
    rw [Scan.step?, if_pos (Or.inr (by rw [hmark]; rfl)), List.reverse_reverse, hvalue]
    show some ((stepBetween c).1, Token.scalar value :: (stepBetween c).2) = _
    rw [stepBetween_of_mark hmark]
  exact (reaches_of_isWord h).append (.single hstep)

theorem spells_quotedText (s : String) :
    Spells (quotedText s) [.scalar (.text (s.toList.map pieceOf))] := fun _ _ hmark =>
  (reaches_quotedText s).append (reaches_mark hmark)

/-- Blanks in front of a text do not count. -/
theorem Spells.indent {text : String} {tokens : List Token} {margin : String} {n : ℕ}
    (hmargin : margin.toList = List.replicate n ' ') (h : Spells text tokens) :
    Spells (margin ++ text) tokens := by
  have hblanks : ∀ n, Reaches .between (List.replicate n ' ') .between [] := by
    intro n
    induction n with
    | zero => exact .nil _
    | succ n ih => exact (reaches_mark (c := ' ') rfl).append ih
  intro c more hmark
  rw [String.toList_append, List.append_assoc, hmargin]
  exact (hblanks n).append (h c more hmark)

/-- A mark and a blank stand between two texts. -/
theorem Spells.next {a b gap : String} {first second others : List Token} {c blank : Char}
    (ha : Spells a first) (hgap : gap.toList = [c, blank]) (hmark : mark? c = some second)
    (hblank : mark? blank = some []) (hb : Spells b others) :
    Spells (a ++ gap ++ b) (first ++ second ++ others) := by
  intro d more hd
  have hchars : (a ++ gap ++ b).toList ++ [d] =
      (a.toList ++ [c]) ++ ([blank] ++ (b.toList ++ [d])) := by
    rw [String.toList_append, String.toList_append, hgap]
    simp only [List.append_assoc, List.cons_append, List.nil_append]
  rw [hchars, List.append_assoc _ others]
  exact (ha c second hmark).append ((reaches_mark hblank).append (hb d more hd))

end Json

end ShipEmissions
