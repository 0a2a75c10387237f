import ShipEmissions.Proofs.Alike

/-!
# The data of floating-point numbers

A finite number is a sign and a size, which is a mantissa times a power of two. Read from the bits,
the mantissa is as long as it can be, so that sizes are ordered like their exponents first.

* `ofFloat_eq`: the bits of a number stand for its data.
* `canonical_of_unpack`, `unpack_pack`: the sizes that are read, and that are packed unchanged.
* `inOrder_of_le`: what it means for finite numbers to be in order.
-/

namespace ShipEmissions

namespace Binary

open Float.Model Float.Model.UnpackedFloat

variable {m m₁ m₂ : ℕ} {e e₁ e₂ : ℤ}

/-! ## Reading bits -/

/-- Data, written like what the bits are read as. -/
def ofUnpacked : UnpackedFloat → Binary
  | .notANumber => .nan
  | .infinity s => .infinite (s == .negative)
  | .zero s => .finite (s == .negative) 0 leastExponent
  | .finite s m e _ => .finite (s == .negative) m e

section

variable (b : BitVec Format.binary64.numBits)

theorem toNat_unpackMantissa : (unpackMantissa b).toNat = b.toNat % 2 ^ 52 := by
  rw [unpackMantissa_def, BitVec.extractLsb'_toNat, Nat.shiftRight_zero]

theorem toNat_unpackExponent : (unpackExponent b).toNat = b.toNat / 2 ^ 52 % 2 ^ 11 := by
  rw [unpackExponent_def, BitVec.extractLsb'_toNat, Nat.shiftRight_eq_div_pow]

theorem toNat_unpackSign : (unpackSign b).toNat = b.toNat / 2 ^ 63 := by
  have hbits : b.toNat < 2 ^ 64 := b.isLt
  rw [unpackSign_def, BitVec.extractLsb'_toNat, Nat.shiftRight_eq_div_pow]
  exact Nat.mod_eq_of_lt (by show b.toNat / 2 ^ 63 < 2 ^ 1; omega)

theorem ofBitVec_unpackSign :
    (Sign.ofBitVec (unpackSign b) == .negative) = decide (2 ^ 63 ≤ b.toNat) := by
  have hsign := toNat_unpackSign b
  by_cases h : 2 ^ 63 ≤ b.toNat
  · have hone : unpackSign b ≠ 0#1 := by
      intro hzero
      rw [hzero, BitVec.toNat_zero] at hsign
      omega
    rw [Sign.ofBitVec, if_neg hone, decide_eq_true h]
    rfl
  · have hzero : unpackSign b = 0#1 := by
      refine BitVec.eq_of_toNat_eq ?_
      rw [hsign, BitVec.toNat_zero]
      omega
    rw [Sign.ofBitVec, if_pos hzero, decide_eq_false h]
    rfl

end

/-- The first place of a full mantissa, which is not among the bits. -/
theorem toNat_one_append (v : BitVec 52) : (1#1 ++ v).toNat = 2 ^ 52 + v.toNat := by
  rw [BitVec.toNat_append]
  exact (Nat.two_pow_add_eq_or_of_lt v.isLt 1).symm

/-- The bits of a number stand for its data. -/
theorem ofFloat_eq (x : Float) : ofFloat x = ofUnpacked x.toModel.unpack := by
  let b : BitVec Format.binary64.numBits := x.toModel.toBits.toBitVec
  have hmantissa : (unpackMantissa b).toNat = x.toBits.toNat % twoTo 52 := toNat_unpackMantissa b
  have hexponent : (unpackExponent b).toNat = x.toBits.toNat / twoTo 52 % twoTo 11 :=
    toNat_unpackExponent b
  have hsign : (Sign.ofBitVec (unpackSign b) == .negative) = decide (twoTo 63 ≤ x.toBits.toNat) :=
    ofBitVec_unpackSign b
  have hones : (unpackExponent b).toNat = 2047 ↔ unpackExponent b = -1#_ :=
    BitVec.toNat_inj (y := -1#11)
  have hzeros : (unpackExponent b).toNat = 0 ↔ unpackExponent b = 0#_ :=
    BitVec.toNat_inj (y := 0#11)
  have hempty : (unpackMantissa b).toNat = 0 ↔ unpackMantissa b = 0#_ :=
    BitVec.toNat_inj (y := 0#52)
  show _ = ofUnpacked (UnpackedFloat.unpack Format.binary64 b)
  rw [ofFloat]
  simp only [← hmantissa, ← hexponent, ← hsign]
  fun_cases UnpackedFloat.unpack Format.binary64 b with
  | case1 m e s sign he hm =>
    rw [if_pos (hones.2 he), if_pos (hempty.2 hm)]
    rfl
  | case2 m e he hm =>
    rw [if_pos (hones.2 he), if_neg (hempty.not.2 hm)]
    rfl
  | case3 m e s sign he he' hm =>
    rw [if_neg (hones.not.2 he), if_pos (hzeros.2 he'), hempty.2 hm]
    rfl
  | case4 m e exponent s sign he he' hm =>
    have hleast : exponent + 1 = leastExponent := by
      show (((unpackExponent b).toNat : ℤ) - (1023 + 52)) + 1 = -1074
      rw [hzeros.2 he']
      rfl
    rw [if_neg (hones.not.2 he), if_pos (hzeros.2 he'), hleast]
    rfl
  | case5 m e exponent s sign he he' =>
    have hbiased : exponent = leastExponent + (((unpackExponent b).toNat : ℤ) - 1) := by
      show ((unpackExponent b).toNat : ℤ) - (1023 + 52) = -1074 + _
      omega
    have hfull : (1#1 ++ m).toNat = twoTo 52 + (unpackMantissa b).toNat := toNat_one_append m
    rw [if_neg (hones.not.2 he), if_neg (hzeros.not.2 he'), ← hfull, ← hbiased]
    rfl

/-! ## Sizes -/

/-- The size `m₁ · 2 ^ e₁` is at most the size `m₂ · 2 ^ e₂`, which has no lesser exponent. -/
def AtMost (m₁ : ℕ) (e₁ : ℤ) (m₂ : ℕ) (e₂ : ℤ) : Prop := ∃ d : ℕ, e₂ = e₁ + d ∧ m₁ ≤ m₂ * 2 ^ d

theorem AtMost.mul (h : AtMost m₁ e₁ m₂ e₂) (c : ℕ) (f : ℤ) :
    AtMost (m₁ * c) (e₁ + f) (m₂ * c) (e₂ + f) := by
  obtain ⟨d, rfl, hle⟩ := h
  refine ⟨d, by ring, ?_⟩
  rw [mul_right_comm]
  exact Nat.mul_le_mul_right c hle

theorem AtMost.trans {m₃ : ℕ} {e₃ : ℤ} (h : AtMost m₁ e₁ m₂ e₂) (h' : AtMost m₂ e₂ m₃ e₃) :
    AtMost m₁ e₁ m₃ e₃ := by
  obtain ⟨d, rfl, hle⟩ := h
  obtain ⟨d', rfl, hle'⟩ := h'
  refine ⟨d' + d, by push_cast; ring, hle.trans ?_⟩
  rw [pow_add, ← mul_assoc]
  exact Nat.mul_le_mul_right _ hle'

theorem AtMost.exponent_le (h : AtMost m₁ e₁ m₂ e₂) : e₁ ≤ e₂ := by
  obtain ⟨d, rfl, -⟩ := h
  omega

/-- Written with the lesser exponent, the mantissas are in order. -/
theorem AtMost.shiftLeft_le (h : AtMost m₁ e₁ m₂ e₂) (he : e = e₁) :
    m₁ <<< (e₁ - e).toNat ≤ m₂ <<< (e₂ - e).toNat := by
  obtain ⟨d, rfl, hle⟩ := h
  subst he
  rw [Int.sub_self, add_sub_cancel_left, Int.toNat_natCast, Nat.shiftLeft_eq, Nat.shiftLeft_eq]
  simpa using hle

/-- The mantissa has 53 places, or fewer if the exponent is the least. -/
def Canonical (m : ℕ) (e : ℤ) : Prop :=
  m < 2 ^ 53 ∧ leastExponent ≤ e ∧ (2 ^ 52 ≤ m ∨ e = leastExponent)

/-- The sizes that are read from bits. -/
theorem canonical_of_unpack {b : BitVec Format.binary64.numBits} {s : Sign} {hm : 0 < m}
    (h : UnpackedFloat.unpack Format.binary64 b = .finite s m e hm) : Canonical m e := by
  have hmantissa : (unpackMantissa b).toNat < 2 ^ 52 := (unpackMantissa b).isLt
  unfold UnpackedFloat.unpack at h
  dsimp only at h
  split at h
  · split at h <;> cases h
  · split at h
    · next hzero =>
      split at h
      · cases h
      · cases h
        have hleast : ((unpackExponent b).toNat : ℤ) - (1023 + 52) + 1 = leastExponent := by
          rw [hzero]
          rfl
        exact ⟨by omega, hleast.ge, .inr hleast⟩
    · next hzero =>
      cases h
      have hexponent : (unpackExponent b).toNat ≠ 0 := fun h => hzero (BitVec.eq_of_toNat_eq h)
      rw [toNat_one_append]
      refine ⟨by omega, ?_, .inl (by omega)⟩
      show -1074 ≤ ((unpackExponent b).toNat : ℤ) - (1023 + 52)
      omega

/-- Sizes that are read from bits are ordered by their exponents and then by their mantissas. -/
theorem Canonical.atMost (h₁ : Canonical m₁ e₁) (h₂ : Canonical m₂ e₂)
    (h : ((compare e₁ e₂).then (compare m₁ m₂)).isLE = true) : AtMost m₁ e₁ m₂ e₂ := by
  rw [Ordering.isLE_then_iff_or, compare_lt_iff_lt, compare_eq_iff_eq, Nat.isLE_compare] at h
  rcases h with hlt | ⟨rfl, hle⟩
  · obtain ⟨hsmall, hleast, -⟩ := h₁
    have hlarge : 2 ^ 52 ≤ m₂ := h₂.2.2.resolve_right (hleast.trans_lt hlt).ne'
    obtain ⟨d, hd⟩ := Int.le.dest (Int.add_one_le_of_lt hlt)
    refine ⟨1 + d, by push_cast; omega, ?_⟩
    calc m₁ ≤ 2 ^ 52 * 2 ^ 1 := hsmall.le
      _ ≤ m₂ * 2 ^ (1 + d) := Nat.mul_le_mul hlarge (Nat.pow_le_pow_right two_pos (by omega))
  · exact ⟨0, by omega, by rwa [pow_zero, mul_one]⟩

/-! ## The order of numbers -/

/-- Zero, or finite data with a sign. -/
inductive HasSign (s : Sign) : UnpackedFloat → Prop
  | zero (t : Sign) : HasSign s (.zero t)
  | finite (m : ℕ) (e : ℤ) (hm : 0 < m) : HasSign s (.finite s m e hm)

/-- Finite data in order has different signs, or the same sign and sizes in order. -/
inductive InOrder : UnpackedFloat → UnpackedFloat → Prop
  | signs {a b : UnpackedFloat} : HasSign .negative a → HasSign .positive b → InOrder a b
  | positive {m₁ m₂ : ℕ} {e₁ e₂ : ℤ} {hm₁ : 0 < m₁} {hm₂ : 0 < m₂} : AtMost m₁ e₁ m₂ e₂ →
      InOrder (.finite .positive m₁ e₁ hm₁) (.finite .positive m₂ e₂ hm₂)
  | negative {m₁ m₂ : ℕ} {e₁ e₂ : ℤ} {hm₁ : 0 < m₁} {hm₂ : 0 < m₂} : AtMost m₂ e₂ m₁ e₁ →
      InOrder (.finite .negative m₁ e₁ hm₁) (.finite .negative m₂ e₂ hm₂)

/-- What is at least a negative number is at least every lesser one. -/
theorem InOrder.of_atMost {a : UnpackedFloat} {hm₁ : 0 < m₁} {hm₂ : 0 < m₂}
    (h : InOrder (.finite .negative m₁ e₁ hm₁) a) (hle : AtMost m₁ e₁ m₂ e₂) :
    InOrder (.finite .negative m₂ e₂ hm₂) a := by
  cases h with
  | signs _ ha => exact .signs (.finite _ _ _) ha
  | negative h => exact .negative (h.trans hle)

theorem inOrder_of_le {x y : Float} (hx : x.isFinite = true) (hy : y.isFinite = true)
    (h : x ≤ y) : InOrder x.toModel.unpack y.toModel.unpack := by
  have hx : x.toModel.unpack.isFinite = true := hx
  have hy : y.toModel.unpack.isFinite = true := hy
  have h : x.toModel.unpack.le y.toModel.unpack = true := le_iff.1 h
  cases ha : x.toModel.unpack with
  | notANumber => rw [ha] at hx; cases hx
  | infinity s => rw [ha] at hx; cases hx
  | zero s =>
    cases hb : y.toModel.unpack with
    | notANumber => rw [hb] at hy; cases hy
    | infinity t => rw [hb] at hy; cases hy
    | zero t => exact .signs (.zero s) (.zero t)
    | finite t n k hn =>
      rw [ha, hb] at h
      cases t with
      | negative => cases h
      | positive => exact .signs (.zero s) (.finite n k hn)
  | finite s m e hm =>
    cases hb : y.toModel.unpack with
    | notANumber => rw [hb] at hy; cases hy
    | infinity t => rw [hb] at hy; cases hy
    | zero t =>
      rw [ha, hb] at h
      cases s with
      | negative => exact .signs (.finite m e hm) (.zero t)
      | positive => cases h
    | finite t n k hn =>
      have hcanonical := canonical_of_unpack ha
      have hcanonical' := canonical_of_unpack hb
      rw [ha, hb] at h
      cases s with
      | negative =>
        cases t with
        | negative =>
          have h : ((compare e k).then (compare m n)).swap.isLE = true := h
          rw [Ordering.swap_then, Int.compare_swap, Nat.compare_swap] at h
          exact .negative (hcanonical'.atMost hcanonical h)
        | positive => exact .signs (.finite m e hm) (.finite n k hn)
      | positive =>
        cases t with
        | negative => cases h
        | positive => exact .positive (hcanonical.atMost hcanonical' h)

/-! ## Packing -/

theorem finite_congr {s : Sign} {hm₁ : 0 < m₁} {hm₂ : 0 < m₂} (hm : m₁ = m₂) (he : e₁ = e₂) :
    UnpackedFloat.finite s m₁ e₁ hm₁ = .finite s m₂ e₂ hm₂ := by
  subst hm he
  rfl

/-- Up to the greatest exponent, full mantissas are packed with their exponents and all others
without. -/
theorem pack_finite (he : e ≤ 971) (s : Sign) (hm : 0 < m) :
    UnpackedFloat.pack Format.binary64 (.finite s m e hm) =
      if m.log2 + 1 = 53 then packComponents Format.binary64 s
        (BitVec.ofNat 11 (e + 1023 + 52).toNat) (BitVec.ofNat 52 m)
      else packComponents Format.binary64 s 0#11 (BitVec.ofNat 52 m) := by
  have hbiased : ¬2048 ≤ (e + 1023 + 52).toNat + 1 := by omega
  exact if_neg hbiased

theorem unpack_pack_of_le (hlarge : 2 ^ 52 ≤ m) (hmantissa : m < 2 ^ 53) (hleast : -1074 ≤ e)
    (he : e ≤ 971) (s : Sign) (hm : 0 < m) :
    (Float.Model.pack (.finite s m e hm)).unpack = .finite s m e hm := by
  have hlog : m.log2 + 1 = 53 := by
    rw [(Nat.log2_eq_iff hm.ne').2 ⟨hlarge, hmantissa⟩]
  have hexponent : (BitVec.ofNat 11 (e + 1023 + 52).toNat).toNat = (e + 1023 + 52).toNat :=
    Nat.mod_eq_of_lt (by omega)
  show UnpackedFloat.unpack Format.binary64 (UnpackedFloat.pack Format.binary64 _) = _
  rw [pack_finite he, if_pos hlog, UnpackedFloat.unpack]
  simp only [unpackMantissa_packComponents, unpackExponent_packComponents,
    unpackSign_packComponents, Sign.ofBitVec_toBitVec]
  rw [if_neg, if_neg]
  · refine finite_congr ?_ ?_
    · rw [toNat_one_append, BitVec.toNat_ofNat]
      omega
    · show ((BitVec.ofNat 11 (e + 1023 + 52).toNat).toNat : ℤ) - (1023 + 52) = e
      omega
  · intro hzeros
    have : (BitVec.ofNat 11 (e + 1023 + 52).toNat).toNat = 0 := congrArg BitVec.toNat hzeros
    omega
  · intro hones
    have : (BitVec.ofNat 11 (e + 1023 + 52).toNat).toNat = 2047 := congrArg BitVec.toNat hones
    omega

theorem unpack_pack_of_lt (hsmall : m < 2 ^ 52) (s : Sign) (hm : 0 < m) :
    (Float.Model.pack (.finite s m leastExponent hm)).unpack = .finite s m leastExponent hm := by
  have hlog : m.log2 + 1 ≠ 53 := by
    have := (Nat.log2_lt hm.ne').2 hsmall
    omega
  have hmantissa : (BitVec.ofNat 52 m).toNat = m := Nat.mod_eq_of_lt hsmall
  show UnpackedFloat.unpack Format.binary64 (UnpackedFloat.pack Format.binary64 _) = _
  rw [pack_finite (by decide), if_neg hlog, UnpackedFloat.unpack]
  simp only [unpackMantissa_packComponents, unpackExponent_packComponents,
    unpackSign_packComponents, Sign.ofBitVec_toBitVec]
  rw [if_neg (by decide), if_pos trivial, dif_neg]
  · exact finite_congr hmantissa rfl
  · intro hzeros
    have : (BitVec.ofNat 52 m).toNat = 0 := congrArg BitVec.toNat hzeros
    omega

/-- Sizes that are read from bits are packed unchanged, up to the greatest exponent. -/
theorem unpack_pack (h : Canonical m e) (he : e ≤ 971) (s : Sign) (hm : 0 < m) :
    (Float.Model.pack (.finite s m e hm)).unpack = .finite s m e hm := by
  obtain ⟨hmantissa, hleast, hform⟩ := h
  rcases le_or_gt (2 ^ 52) m with hlarge | hsmall
  · exact unpack_pack_of_le hlarge hmantissa hleast he s hm
  · cases hform.resolve_left hsmall.not_ge
    exact unpack_pack_of_lt hsmall s hm

/-- Beyond the greatest exponent, an infinite value is packed. -/
theorem pack_of_lt (he : 971 < e) (s : Sign) (hm : 0 < m) :
    Float.Model.pack (.finite s m e hm) = Float.Model.pack (.infinity s) := by
  have hbiased : 2048 ≤ (e + 1023 + 52).toNat + 1 := by omega
  have hpack : UnpackedFloat.pack Format.binary64 (.finite s m e hm) =
      packedInfinity Format.binary64 s := if_pos hbiased
  rw [Float.Model.pack, Float.Model.pack]
  congr 2

theorem unpack_add (x y : Float) : (x + y).toModel.unpack =
    (Float.Model.pack (x.toModel.unpack.add Format.binary64 y.toModel.unpack)).unpack := rfl

theorem unpack_sub (x y : Float) : (x - y).toModel.unpack =
    (Float.Model.pack (x.toModel.unpack.sub Format.binary64 y.toModel.unpack)).unpack := rfl

theorem unpack_div (x y : Float) : (x / y).toModel.unpack =
    (Float.Model.pack (x.toModel.unpack.div Format.binary64 y.toModel.unpack)).unpack := rfl

theorem unpack_zero (s : Sign) : (Float.Model.pack (.zero s)).unpack = .zero s := unpack_packedZero

theorem unpack_infinity (s : Sign) : (Float.Model.pack (.infinity s)).unpack = .infinity s := by
  show UnpackedFloat.unpack Format.binary64 (packedInfinity Format.binary64 s) = _
  rw [packedInfinity, UnpackedFloat.unpack]
  simp only [unpackMantissa_packComponents, unpackExponent_packComponents,
    unpackSign_packComponents, Sign.ofBitVec_toBitVec, if_true]
  rfl

end Binary

end ShipEmissions
