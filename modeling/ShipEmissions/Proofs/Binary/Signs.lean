import ShipEmissions.Proofs.Binary.Rounding

/-!
# Floating-point numbers that are not negative

What an operation makes of numbers that are not negative is not negative either, if it is a number
at all. Infinite values may leave no number, which is harmless wherever only the sign counts.

* `NotNegative`: a zero, something positive, or no number.
* `notNegative_add`, `notNegative_sub`, `notNegative_div`: the operations, rounded.
* `zero_le_iff`: from the data to the order of numbers.
-/

namespace ShipEmissions

namespace Binary

open Float.Model Float.Model.UnpackedFloat

variable {m m₁ m₂ : ℕ} {e e₁ e₂ : ℤ} {a b : UnpackedFloat} {x y : Float} {format : Format}

/-- Data that is not below zero: a zero, something positive, or no number. -/
inductive NotNegative : UnpackedFloat → Prop
  | notANumber : NotNegative .notANumber
  | infinity : NotNegative (.infinity .positive)
  | zero (s : Sign) : NotNegative (.zero s)
  | finite (m : ℕ) (e : ℤ) (hm : 0 < m) : NotNegative (.finite .positive m e hm)

theorem unpack_literal_zero : (0 : Float).toModel.unpack = .zero .positive := rfl

theorem not_lt_zero_iff : ¬x < 0 ↔ NotNegative x.toModel.unpack := by
  rw [lt_iff, unpack_literal_zero]
  generalize x.toModel.unpack = a
  constructor
  · intro h
    cases a with
    | notANumber => exact .notANumber
    | infinity s =>
      cases s with
      | positive => exact .infinity
      | negative => exact absurd rfl h
    | zero s => exact .zero s
    | finite s m e hm =>
      cases s with
      | positive => exact .finite m e hm
      | negative => exact absurd rfl h
  · intro h
    cases h <;> exact Bool.false_ne_true

/-- Of a number that is not below zero, zero is a lower bound. -/
theorem zero_le_iff : 0 ≤ x ↔ ¬x < 0 ∧ (x == x) = true := by
  constructor
  · intro h
    refine ⟨?_, beq_self_of_le h⟩
    rw [not_lt_zero_iff]
    rw [le_iff, unpack_literal_zero] at h
    generalize x.toModel.unpack = a at h
    cases a with
    | notANumber => exact .notANumber
    | infinity s =>
      cases s with
      | positive => exact .infinity
      | negative => cases h
    | zero s => exact .zero s
    | finite s m e hm =>
      cases s with
      | positive => exact .finite m e hm
      | negative => cases h
  · rintro ⟨hsign, hnumber⟩
    have hnumber := ((beq_iff_ne_notANumber_and_eq _ _).1 hnumber).1
    rw [not_lt_zero_iff] at hsign
    rw [le_iff, unpack_literal_zero]
    generalize x.toModel.unpack = a at hsign hnumber
    cases hsign with
    | notANumber => exact absurd rfl hnumber
    | infinity => rfl
    | zero s => rfl
    | finite m e hm => rfl

/-! ## Packing and rounding -/

theorem notNegative_unpack {bits : BitVec Format.binary64.numBits}
    (h : unpackSign bits = Sign.positive.toBitVec) :
    NotNegative (UnpackedFloat.unpack Format.binary64 bits) := by
  have hsign : Sign.ofBitVec (unpackSign bits) = .positive := by rw [h, Sign.ofBitVec_toBitVec]
  unfold UnpackedFloat.unpack
  dsimp only
  rw [hsign]
  split
  · split
    · exact .infinity
    · exact .notANumber
  · split
    · split
      · exact .zero _
      · exact .finite _ _ _
    · exact .finite _ _ _

/-- Packing keeps the sign. -/
theorem NotNegative.pack (h : NotNegative a) : NotNegative (Float.Model.pack a).unpack := by
  cases h with
  | notANumber =>
    have hunpack : (Float.Model.pack .notANumber).unpack = .notANumber := unpack_packedNaN
    rw [hunpack]
    exact .notANumber
  | infinity =>
    rw [unpack_infinity]
    exact .infinity
  | zero s =>
    rw [unpack_zero]
    exact .zero s
  | finite m e hm =>
    refine notNegative_unpack ?_
    show unpackSign (UnpackedFloat.pack Format.binary64 (.finite .positive m e hm)) = _
    unfold UnpackedFloat.pack
    dsimp only
    split
    · rw [packedInfinity, unpackSign_packComponents]
    · split <;> rw [unpackSign_packComponents]

theorem notNegative_roundWithAccuracy (m : ℕ) (e : ℤ) (accuracy : Accuracy) :
    NotNegative (roundWithAccuracy format .positive m e accuracy) := by
  unfold roundWithAccuracy
  dsimp only
  split
  · exact .zero _
  · exact .finite _ _ _

theorem notNegative_normalize {n : ℤ} (h : 0 ≤ n) (e : ℤ) (s : Sign) :
    NotNegative (UnpackedFloat.normalize format n e s) := by
  unfold UnpackedFloat.normalize
  split
  · next hlt => exact absurd (compare_lt_iff_lt.1 hlt) h.not_gt
  · exact .zero s
  · exact notNegative_roundWithAccuracy _ _ _

/-! ## Operations -/

theorem NotNegative.add (ha : NotNegative a) (hb : NotNegative b) :
    NotNegative (a.add format b) := by
  cases ha with
  | notANumber => exact .notANumber
  | infinity => cases hb <;> first | exact .infinity | exact .notANumber
  | zero s =>
    cases hb with
    | notANumber => exact .notANumber
    | infinity => exact .infinity
    | zero t =>
      unfold UnpackedFloat.add
      dsimp only
      split <;> exact .zero _
    | finite m e hm => exact .finite m e hm
  | finite m e hm =>
    cases hb with
    | notANumber => exact .notANumber
    | infinity => exact .infinity
    | zero t => exact .finite m e hm
    | finite n f hn =>
      refine notNegative_normalize ?_ _ _
      exact Int.add_nonneg (Int.natCast_nonneg _) (Int.natCast_nonneg _)

theorem NotNegative.div (ha : NotNegative a) (hb : NotNegative b) (hzero : ∀ s, b ≠ .zero s) :
    NotNegative (a.div format b) := by
  cases hb with
  | notANumber => cases ha <;> exact .notANumber
  | infinity => cases ha <;> first | exact .zero _ | exact .notANumber
  | zero s => exact absurd rfl (hzero s)
  | finite n f hn =>
    cases ha with
    | notANumber => exact .notANumber
    | infinity => exact .infinity
    | zero s => exact .zero _
    | finite m e hm => exact notNegative_roundWithAccuracy _ _ _

theorem notNegative_sub_of_inOrder (h : InOrder a b) : NotNegative (b.sub format a) := by
  cases h with
  | signs ha hb =>
    cases ha with
    | zero s =>
      cases hb with
      | zero t =>
        unfold UnpackedFloat.sub
        dsimp only
        split <;> exact .zero _
      | finite n f hn => exact .finite n f hn
    | finite m e hm =>
      cases hb with
      | zero t => exact .finite m e hm
      | finite n f hn =>
        refine notNegative_normalize ?_ _ _
        exact Int.sub_nonneg_of_le ((neg_nonpos.2 (Int.natCast_nonneg _)).trans
          (Int.natCast_nonneg _))
  | @positive m₁ m₂ e₁ e₂ _ _ h =>
    refine notNegative_normalize ?_ _ _
    exact Int.sub_nonneg_of_le (Int.ofNat_le.2 (h.shiftLeft_le (min_eq_right h.exponent_le)))
  | @negative m₁ m₂ e₁ e₂ _ _ h =>
    refine notNegative_normalize ?_ _ _
    exact Int.sub_nonneg_of_le (neg_le_neg
      (Int.ofNat_le.2 (h.shiftLeft_le (min_eq_left h.exponent_le))))

/-- To a number that is at least the opposite of another, the other can be added. -/
theorem notNegative_add_of_inOrder {n : ℕ} {f : ℤ} {hn : 0 < n}
    (h : InOrder (.finite .negative n f hn) a) :
    NotNegative (a.add format (.finite .positive n f hn)) := by
  cases h with
  | signs _ ha =>
    cases ha with
    | zero s => exact .finite n f hn
    | finite m e hm => exact (NotNegative.finite m e hm).add (.finite n f hn)
  | @negative m₁ m₂ e₁ e₂ _ _ h =>
    refine notNegative_normalize ?_ _ _
    rw [Sign.apply, Sign.apply, neg_add_eq_sub]
    exact Int.sub_nonneg_of_le (Int.ofNat_le.2 (h.shiftLeft_le (min_eq_left h.exponent_le)))

theorem notNegative_sub_of_infinite (hle : a.le b = true)
    (hinfinite : ¬(a.isFinite = true ∧ b.isFinite = true)) : NotNegative (b.sub format a) := by
  cases a with
  | notANumber => cases b <;> exact .notANumber
  | infinity s =>
    cases s with
    | positive =>
      cases b with
      | notANumber => exact .notANumber
      | infinity t => cases t <;> first | exact .notANumber | cases hle
      | zero t => cases hle
      | finite t n f hn => cases hle
    | negative =>
      cases b with
      | notANumber => exact .notANumber
      | infinity t => cases t <;> first | exact .infinity | exact .notANumber
      | zero t => exact .infinity
      | finite t n f hn => exact .infinity
  | zero s =>
    cases b with
    | notANumber => exact .notANumber
    | infinity t =>
      cases t with
      | positive => exact .infinity
      | negative => cases hle
    | zero t => exact absurd ⟨rfl, rfl⟩ hinfinite
    | finite t n f hn => exact absurd ⟨rfl, rfl⟩ hinfinite
  | finite s m e hm =>
    cases b with
    | notANumber => exact .notANumber
    | infinity t =>
      cases t with
      | positive => exact .infinity
      | negative => cases s <;> cases hle
    | zero t => exact absurd ⟨rfl, rfl⟩ hinfinite
    | finite t n f hn => exact absurd ⟨rfl, rfl⟩ hinfinite

/-! ## Rounded operations -/

/-- From the greater of two numbers the lesser can be taken away. -/
theorem notNegative_sub (h : x ≤ y) : NotNegative (y - x).toModel.unpack := by
  have hsign : NotNegative (y.toModel.unpack.sub Format.binary64 x.toModel.unpack) := by
    by_cases hfinite : x.toModel.unpack.isFinite = true ∧ y.toModel.unpack.isFinite = true
    · exact notNegative_sub_of_inOrder (inOrder_of_le hfinite.1 hfinite.2 h)
    · exact notNegative_sub_of_infinite (le_iff.1 h) hfinite
  exact hsign.pack

theorem notNegative_add (hx : NotNegative x.toModel.unpack) (hy : NotNegative y.toModel.unpack) :
    NotNegative (x + y).toModel.unpack := (hx.add hy).pack

theorem notNegative_div {n : ℕ} {f : ℤ} {hn : 0 < n}
    (hy : y.toModel.unpack = .finite .positive n f hn) (hx : NotNegative x.toModel.unpack) :
    NotNegative (x / y).toModel.unpack := by
  rw [unpack_div, hy]
  exact (hx.div (.finite n f hn) (by simp)).pack

end Binary

end ShipEmissions
