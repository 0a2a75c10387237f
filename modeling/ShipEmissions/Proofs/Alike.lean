import ShipEmissions.Proofs.Exact

/-!
# Values apart from the sign of zero

Floating-point zeros are equal whatever their signs, and no other values are that are not the same.
In the formulas for emissions the sign of a zero gets lost or stays the sign of a zero: it never
becomes a difference that counts.

* `Scalar.Alike`: values that are the same or equal.
* `Scalar.IgnoresZeroSign`: what the operations make of values that are alike.
* `Scalar.ignoresZeroSign_real`, `Scalar.ignoresZeroSign_float`: these operations do.
-/

namespace ShipEmissions

namespace Scalar

/-! ## Values that are alike -/

section

variable {α : Type} [Scalar α]

/-- Values that are the same or equal. What is no number is alike itself. -/
def Alike (x y : α) : Prop := x = y ∨ (x == y) = true

@[refl] theorem Alike.refl (x : α) : Alike x x := .inl rfl

theorem Alike.of_beq {x y : α} (h : (x == y) = true) : Alike x y := .inr h

/-- Values that may be missing are alike if those that stand in for them are. -/
theorem Alike.getD {a b : Option α} {x y : α} (h : Option.Rel Alike a b) (hxy : Alike x y) :
    Alike (a.getD x) (b.getD y) := by
  cases h with
  | none => exact hxy
  | some h => exact h

/-- Operations on values that are alike give values that are alike. Squares and cosines do not tell
them apart at all, nor do comparisons. Only zeros are alike without being the same. -/
structure IgnoresZeroSign (α : Type) [Scalar α] : Prop where
  add {x x' y y' : α} : Alike x x' → Alike y y' → Alike (x + y) (x' + y')
  sub {x x' y y' : α} : Alike x x' → Alike y y' → Alike (x - y) (x' - y')
  mul {x x' y y' : α} : Alike x x' → Alike y y' → Alike (x * y) (x' * y')
  div {x x' : α} (y : α) : Alike x x' → Alike (x / y) (x' / y)
  sqrt {x x' : α} : Alike x x' → Alike (sqrt x) (sqrt x')
  sin {x x' : α} : Alike x x' → Alike (sin x) (sin x')
  cos {x x' : α} : Alike x x' → cos x = cos x'
  square {x x' : α} : Alike x x' → x * x = x' * x'
  lt {x x' y y' : α} : Alike x x' → Alike y y' → (x < y ↔ x' < y')
  le {x x' y y' : α} : Alike x x' → Alike y y' → (x ≤ y ↔ x' ≤ y')
  beq {x x' y y' : α} : Alike x x' → Alike y y' → (x == y) = (x' == y')
  eq_of_ne_zero {x x' : α} : Alike x x' → ¬(x == 0) = true → x = x'

namespace IgnoresZeroSign

variable {x x' y y' : α} (laws : IgnoresZeroSign α)

include laws

theorem least (hx : Alike x x') (hy : Alike y y') : Alike (least x y) (least x' y') := by
  unfold Scalar.least
  rw [laws.beq hy hy]
  simp only [laws.lt hx hy]
  split
  · exact hx
  · split
    · exact hy
    · exact hx

theorem greatest (hx : Alike x x') (hy : Alike y y') : Alike (greatest x y) (greatest x' y') := by
  unfold Scalar.greatest
  rw [laws.beq hy hy]
  simp only [laws.lt hy hx]
  split
  · exact hx
  · split
    · exact hy
    · exact hx

theorem toRadians (hx : Alike x x') : Alike (toRadians x) (toRadians x') :=
  laws.mul hx (.refl degree)

end IgnoresZeroSign

end

/-! ## Real numbers -/

@[simp] theorem alike_real {x y : ℝ} : Alike x y ↔ x = y := by
  constructor
  · rintro (h | h)
    · exact h
    · exact beq_iff_eq.1 h
  · exact .inl

theorem ignoresZeroSign_real : IgnoresZeroSign ℝ where
  add hx hy := by rw [alike_real.1 hx, alike_real.1 hy]
  sub hx hy := by rw [alike_real.1 hx, alike_real.1 hy]
  mul hx hy := by rw [alike_real.1 hx, alike_real.1 hy]
  div y hx := by rw [alike_real.1 hx]
  sqrt hx := by rw [alike_real.1 hx]
  sin hx := by rw [alike_real.1 hx]
  cos hx := by rw [alike_real.1 hx]
  square hx := by rw [alike_real.1 hx]
  lt hx hy := by rw [alike_real.1 hx, alike_real.1 hy]
  le hx hy := by rw [alike_real.1 hx, alike_real.1 hy]
  beq hx hy := by rw [alike_real.1 hx, alike_real.1 hy]
  eq_of_ne_zero hx _ := alike_real.1 hx

end Scalar

/-! ## Floating-point numbers -/

namespace Binary

open Float.Model Float.Model.UnpackedFloat

/-- Floating-point data that is the same, or that are two zeros. -/
def SameOrZero (a b : UnpackedFloat) : Prop := a = b ∨ ∃ s t, a = .zero s ∧ b = .zero t

namespace SameOrZero

variable {a a' b b' c : UnpackedFloat} {format : Format}

theorem refl (a : UnpackedFloat) : SameOrZero a a := .inl rfl

theorem zero (s t : Sign) : SameOrZero (.zero s) (.zero t) := .inr ⟨s, t, rfl, rfl⟩

theorem symm (h : SameOrZero a b) : SameOrZero b a := by
  rcases h with rfl | ⟨s, t, rfl, rfl⟩
  · exact refl a
  · exact zero t s

theorem trans (h : SameOrZero a b) (h' : SameOrZero b c) : SameOrZero a c := by
  rcases h with rfl | ⟨s, t, rfl, rfl⟩
  · exact h'
  · rcases h' with rfl | ⟨_, t', _, rfl⟩
    · exact zero s t
    · exact zero s t'

/-- What keeps zeros alike keeps all data alike. -/
theorem map {f : UnpackedFloat → UnpackedFloat}
    (hzero : ∀ s t, SameOrZero (f (.zero s)) (f (.zero t))) (h : SameOrZero a a') :
    SameOrZero (f a) (f a') := by
  rcases h with rfl | ⟨s, t, rfl, rfl⟩
  · exact refl _
  · exact hzero s t

theorem map₂ {f : UnpackedFloat → UnpackedFloat → UnpackedFloat}
    (hleft : ∀ s t b, SameOrZero (f (.zero s) b) (f (.zero t) b))
    (hright : ∀ s t a, SameOrZero (f a (.zero s)) (f a (.zero t)))
    (ha : SameOrZero a a') (hb : SameOrZero b b') : SameOrZero (f a b) (f a' b') :=
  (map (f := fun a => f a b) (fun s t => hleft s t b) ha).trans
    (map (fun s t => hright s t a') hb)

theorem add (ha : SameOrZero a a') (hb : SameOrZero b b') :
    SameOrZero (a.add format b) (a'.add format b') := by
  -- two zeros add up to a zero; added to anything else, a zero leaves it as it is
  refine map₂ (fun s t b => ?_) (fun s t a => ?_) ha hb
  · cases b with
    | zero u => cases s <;> cases t <;> cases u <;> exact zero _ _
    | _ => exact refl _
  · cases a with
    | zero u => cases s <;> cases t <;> cases u <;> exact zero _ _
    | _ => exact refl _

theorem sub (ha : SameOrZero a a') (hb : SameOrZero b b') :
    SameOrZero (a.sub format b) (a'.sub format b') := by
  refine map₂ (fun s t b => ?_) (fun s t a => ?_) ha hb
  · cases b with
    | zero u => cases s <;> cases t <;> cases u <;> exact zero _ _
    | _ => exact refl _
  · cases a with
    | zero u => cases s <;> cases t <;> cases u <;> exact zero _ _
    | _ => exact refl _

theorem mul (ha : SameOrZero a a') (hb : SameOrZero b b') :
    SameOrZero (a.mul format b) (a'.mul format b') := by
  refine map₂ (fun s t b => ?_) (fun s t a => ?_) ha hb
  · cases b with
    | zero u => exact zero _ _
    | finite => exact zero _ _
    | _ => exact refl _
  · cases a with
    | zero u => exact zero _ _
    | finite => exact zero _ _
    | _ => exact refl _

theorem div (ha : SameOrZero a a') (b : UnpackedFloat) :
    SameOrZero (a.div format b) (a'.div format b) := by
  refine map (f := fun a => a.div format b) (fun s t => ?_) ha
  cases b with
  | infinity => exact zero _ _
  | finite => exact zero _ _
  | _ => exact refl _

theorem sqrt (ha : SameOrZero a a') : SameOrZero (a.sqrt format) (a'.sqrt format) :=
  map (fun s t => zero s t) ha

theorem mul_self (ha : SameOrZero a a') : a.mul format a = a'.mul format a' := by
  rcases ha with rfl | ⟨s, t, rfl, rfl⟩
  · rfl
  · cases s <;> cases t <;> rfl

theorem compare (ha : SameOrZero a a') (hb : SameOrZero b b') : a.compare b = a'.compare b' := by
  have hleft : a.compare b = a'.compare b := by
    rcases ha with rfl | ⟨s, t, rfl, rfl⟩
    · rfl
    · cases b with
      | infinity u => cases u <;> rfl
      | finite u => cases u <;> rfl
      | _ => rfl
  rw [hleft]
  rcases hb with rfl | ⟨s, t, rfl, rfl⟩
  · rfl
  · cases a' with
    | infinity u => cases u <;> rfl
    | finite u => cases u <;> rfl
    | _ => rfl

end SameOrZero

/-- A floating-point number is its data. -/
theorem float_eq_iff {x y : Float} : x = y ↔ x.toModel.unpack = y.toModel.unpack := by
  constructor
  · rintro rfl
    rfl
  · intro h
    have hbits := (unpack_inj_of_valid x.toModel.valid y.toModel.valid).1 h
    obtain ⟨⟨⟨bits⟩, _⟩⟩ := x
    obtain ⟨⟨⟨bits'⟩, _⟩⟩ := y
    cases hbits
    rfl

theorem alike_iff {x y : Float} :
    Scalar.Alike x y ↔ SameOrZero x.toModel.unpack y.toModel.unpack := by
  constructor
  · rintro (rfl | h)
    · exact .refl _
    · rcases ((beq_iff_ne_notANumber_and_eq _ _).1 h).2.2 with h | ⟨hx, hy⟩ | ⟨hx, hy⟩
      · exact .inl h
      · exact .inr ⟨_, _, hx, hy⟩
      · exact .inr ⟨_, _, hx, hy⟩
  · rintro (h | ⟨s, t, hx, hy⟩)
    · exact .inl (float_eq_iff.2 h)
    · refine .of_beq ?_
      show x.toModel.unpack.beq y.toModel.unpack = true
      rw [hx, hy]
      rfl

theorem lt_iff {x y : Float} : x < y ↔ x.toModel.unpack.lt y.toModel.unpack = true :=
  decide_eq_true_iff

theorem le_iff {x y : Float} : x ≤ y ↔ x.toModel.unpack.le y.toModel.unpack = true :=
  decide_eq_true_iff

theorem float_beq_comm {x y : Float} : (x == y) = (y == x) := by
  rw [Bool.eq_iff_iff]
  refine (beq_iff_ne_notANumber_and_eq _ _).trans ?_
  refine .trans ?_ (beq_iff_ne_notANumber_and_eq _ _).symm
  tauto

/-- What is at least something is a number, and equal to itself. -/
theorem beq_self_of_le {x y : Float} (h : x ≤ y) : (y == y) = true := by
  have hnumber : y.toModel.unpack ≠ .notANumber := by
    intro hy
    rw [le_iff, hy] at h
    cases hx : x.toModel.unpack <;> rw [hx] at h <;> cases h
  exact (beq_iff_ne_notANumber_and_eq _ _).2 ⟨hnumber, hnumber, .inl rfl⟩

theorem float_le_of_lt {x y : Float} (h : x < y) : x ≤ y := by
  rw [lt_iff, UnpackedFloat.lt, beq_iff_eq] at h
  rw [le_iff, UnpackedFloat.le, h]
  rfl

theorem beq_self_of_lt {x y : Float} (h : x < y) : (y == y) = true :=
  beq_self_of_le (float_le_of_lt h)

/-- What is less than something is a number, too. -/
theorem beq_self_of_lt_left {x y : Float} (h : x < y) : (x == x) = true := by
  have hnumber : x.toModel.unpack ≠ .notANumber := by
    intro hx
    rw [lt_iff, hx] at h
    cases h
  exact (beq_iff_ne_notANumber_and_eq _ _).2 ⟨hnumber, hnumber, .inl rfl⟩

theorem float_le_of_beq {x y : Float} (h : (x == y) = true) : x ≤ y := by
  have hequal : (x.toModel.unpack.compare y.toModel.unpack == some .eq) = true := h
  rw [le_iff, UnpackedFloat.le, beq_iff_eq.1 hequal]
  rfl

/-- Rounding keeps zeros. -/
theorem alike_pack {a b : UnpackedFloat} (h : SameOrZero a b) :
    Scalar.Alike (⟨pack a⟩ : Float) ⟨pack b⟩ := by
  rcases h with rfl | ⟨s, t, rfl, rfl⟩
  · rfl
  · exact alike_iff.2 (.inr ⟨s, t, unpack_packedZero, unpack_packedZero⟩)

theorem eq_zero_of_unpack {x : Float} {s : Sign} (h : x.toModel.unpack = .zero s) :
    x = -0.0 ∨ x = 0.0 := by
  cases s with
  | negative => exact .inl (float_eq_iff.2 (h.trans rfl))
  | positive => exact .inr (float_eq_iff.2 (h.trans rfl))

/-- Only the two zeros are alike without being the same. -/
theorem alike_cases {x y : Float} (h : Scalar.Alike x y) :
    x = y ∨ (x = -0.0 ∨ x = 0.0) ∧ (y = -0.0 ∨ y = 0.0) := by
  rcases alike_iff.1 h with h | ⟨s, t, hx, hy⟩
  · exact .inl (float_eq_iff.2 h)
  · exact .inr ⟨eq_zero_of_unpack hx, eq_zero_of_unpack hy⟩

/-! ### Comparisons -/

theorem lt_congr {x x' y y' : Float} (hx : Scalar.Alike x x') (hy : Scalar.Alike y y') :
    x < y ↔ x' < y' := by
  rw [lt_iff, lt_iff, UnpackedFloat.lt, (alike_iff.1 hx).compare (alike_iff.1 hy)]
  rfl

theorem le_congr {x x' y y' : Float} (hx : Scalar.Alike x x') (hy : Scalar.Alike y y') :
    x ≤ y ↔ x' ≤ y' := by
  rw [le_iff, le_iff, UnpackedFloat.le, (alike_iff.1 hx).compare (alike_iff.1 hy)]
  rfl

theorem beq_congr {x x' y y' : Float} (hx : Scalar.Alike x x') (hy : Scalar.Alike y y') :
    (x == y) = (x' == y') := by
  show UnpackedFloat.beq _ _ = UnpackedFloat.beq _ _
  rw [UnpackedFloat.beq, (alike_iff.1 hx).compare (alike_iff.1 hy)]
  rfl

end Binary

namespace Scalar

open Binary Float.Model

/-- Floating-point operations ignore the sign of zero if sine and cosine do. -/
theorem ignoresZeroSign_float (hsin : Alike (Float.sin (-0.0)) (Float.sin 0.0))
    (hcos : Float.cos (-0.0) = Float.cos 0.0) : IgnoresZeroSign Float where
  add hx hy := alike_pack ((alike_iff.1 hx).add (alike_iff.1 hy))
  sub hx hy := alike_pack ((alike_iff.1 hx).sub (alike_iff.1 hy))
  mul hx hy := alike_pack ((alike_iff.1 hx).mul (alike_iff.1 hy))
  div y hx := alike_pack ((alike_iff.1 hx).div y.toModel.unpack)
  sqrt hx := alike_pack (alike_iff.1 hx).sqrt
  sin hx := by
    rcases alike_cases hx with rfl | ⟨rfl | rfl, rfl | rfl⟩
    · rfl
    · rfl
    · exact hsin
    · exact alike_iff.2 (alike_iff.1 hsin).symm
    · rfl
  cos hx := by
    rcases alike_cases hx with rfl | ⟨rfl | rfl, rfl | rfl⟩
    · rfl
    · rfl
    · exact hcos
    · exact hcos.symm
    · rfl
  square hx := congrArg (fun a => (⟨Float.Model.pack a⟩ : Float)) (alike_iff.1 hx).mul_self
  lt := lt_congr
  le := le_congr
  beq := beq_congr
  eq_of_ne_zero hx hne := by
    rcases alike_cases hx with h | ⟨rfl | rfl, -⟩
    · exact h
    · exact absurd rfl hne
    · exact absurd rfl hne

end Scalar

end ShipEmissions
