import ShipEmissions.Proofs.Binary.Data

/-!
# Rounding to floating-point numbers

A product is exact before it is rounded to 53 places. Rounding keeps the order of sizes, whatever
their exponents are, and so does rounding to whole numbers.

* `rounded_mono`: dropping places keeps the order of mantissas.
* `AtMost.roundedSize`: rounding keeps the order of sizes.
* `AtMost.nearestInteger`: so does rounding to whole numbers.
* `roundFloat_mul_mono`: products with a positive number, rounded to whole numbers.
-/

namespace ShipEmissions

namespace Binary

open Float.Model Float.Model.UnpackedFloat

variable {m m₁ m₂ : ℕ} {e e₁ e₂ : ℤ}

/-! ## Mantissas with their residual bits -/

/-- A mantissa with its residual bits, as one number with two more places. -/
def withBits (a : ExtendedMantissa) : ℕ := 4 * a.mantissa + 2 * a.roundBit.toNat + a.stickyBit.toNat

/-- Of two places that are dropped, only whether there was anything stays. -/
theorem withBits_shiftRightOne (a : ExtendedMantissa) :
    withBits a.shiftRightOne = 2 * (withBits a / 4) + min 1 (withBits a % 4) := by
  obtain ⟨m, round, sticky⟩ := a
  rcases Nat.mod_two_eq_zero_or_one m with hm | hm <;> cases round <;> cases sticky <;>
    simp [withBits, ExtendedMantissa.shiftRightOne, hm] <;> omega

theorem withBits_shiftRight_mono {a b : ExtendedMantissa} (h : withBits a ≤ withBits b) (k : ℕ) :
    withBits (a >>> k) ≤ withBits (b >>> k) := by
  induction k with
  | zero => exact h
  | succ k ih =>
    show withBits (a >>> k).shiftRightOne ≤ withBits (b >>> k).shiftRightOne
    rw [withBits_shiftRightOne, withBits_shiftRightOne]
    omega

theorem roundedMantissa_mono {a b : ExtendedMantissa} (h : withBits a ≤ withBits b) :
    a.roundedMantissa ≤ b.roundedMantissa := by
  obtain ⟨m, round, sticky⟩ := a
  obtain ⟨n, round', sticky'⟩ := b
  cases round <;> cases sticky <;> cases round' <;> cases sticky' <;>
    simp only [withBits, Bool.toNat_false, Bool.toNat_true, ExtendedMantissa.roundedMantissa,
      ExtendedMantissa.accuracy, Accuracy.roundToNearestEven] at h ⊢ <;> omega

/-- The mantissa without its last `k` places, to the nearest, a half going to the even one. -/
def rounded (m k : ℕ) : ℕ :=
  (ExtendedMantissa.ofMantissaAndAccuracy m .exact >>> k).roundedMantissa

theorem rounded_mono {m n : ℕ} (h : m ≤ n) (k : ℕ) : rounded m k ≤ rounded n k := by
  refine roundedMantissa_mono (withBits_shiftRight_mono ?_ k)
  show 4 * m + 0 + 0 ≤ 4 * n + 0 + 0
  omega

theorem shiftRight_add (a : ExtendedMantissa) (k l : ℕ) : a >>> (k + l) = a >>> k >>> l := by
  induction l with
  | zero => rfl
  | succ l ih => exact congrArg ExtendedMantissa.shiftRightOne ih

/-- Zeros at the end are dropped without a trace. -/
theorem shiftRight_mul_twoPow (m k : ℕ) :
    ExtendedMantissa.ofMantissaAndAccuracy (m * 2 ^ k) .exact >>> k =
      ExtendedMantissa.ofMantissaAndAccuracy m .exact := by
  induction k generalizing m with
  | zero => rw [pow_zero, mul_one]; rfl
  | succ k ih =>
    have hshift := ih (m * 2)
    rw [mul_assoc, ← pow_succ'] at hshift
    show (ExtendedMantissa.ofMantissaAndAccuracy _ .exact >>> k).shiftRightOne = _
    rw [hshift]
    simp [ExtendedMantissa.shiftRightOne, ExtendedMantissa.ofMantissaAndAccuracy]

theorem rounded_mul_twoPow (m k l : ℕ) : rounded (m * 2 ^ k) (k + l) = rounded m l := by
  rw [rounded, shiftRight_add, shiftRight_mul_twoPow]
  rfl

theorem rounded_self (m k : ℕ) : rounded (m * 2 ^ k) k = m := rounded_mul_twoPow m k 0

/-- Shifting alone cuts the places off. -/
theorem mantissa_shiftRight (a : ExtendedMantissa) (k : ℕ) :
    (a >>> k).mantissa = a.mantissa / 2 ^ k := by
  induction k with
  | zero => exact (Nat.div_one _).symm
  | succ k ih =>
    show (a >>> k).mantissa / 2 = _
    rw [ih, Nat.div_div_eq_div_mul, pow_succ]

/-! ## Sizes -/

/-- The exponent that a size is rounded to. -/
def target (m : ℕ) (e : ℤ) : ℤ := Format.binary64.targetExponent (totalExponent m e)

theorem target_eq (m : ℕ) (e : ℤ) : target m e = max (m.log2 + e - 52) leastExponent := by
  show max (((m.log2 : ℤ) + 1 + e) - 53) (-1074) = max (m.log2 + e - 52) (-1074)
  omega

theorem log2_mul_twoPow (hm : 0 < m) (d : ℕ) : (m * 2 ^ d).log2 = m.log2 + d := by
  rw [Nat.log2_eq_iff (by positivity), pow_add, add_right_comm, pow_add]
  exact ⟨Nat.mul_le_mul_right _ (Nat.log2_self_le hm.ne'),
    Nat.mul_lt_mul_of_pos_right Nat.lt_log2_self (by positivity)⟩

theorem log2_mono (hm : 0 < m₁) (h : m₁ ≤ m₂) : m₁.log2 ≤ m₂.log2 :=
  (Nat.le_log2 (by omega)).2 ((Nat.log2_self_le hm.ne').trans h)

theorem target_mul_twoPow (hm : 0 < m) (e : ℤ) (d : ℕ) :
    target (m * 2 ^ d) e = target m (e + d) := by
  rw [target_eq, target_eq, log2_mul_twoPow hm]
  push_cast
  congr 1
  omega

/-- The mantissa of a size once it is rounded to its exponent. -/
def roundedSize (m : ℕ) (e : ℤ) : ℕ := rounded m (target m e - e).toNat

theorem roundedSize_mul_twoPow (hm : 0 < m) {d : ℕ} (he : e + d ≤ target m (e + d)) :
    roundedSize (m * 2 ^ d) e = roundedSize m (e + d) := by
  have hshift : (target m (e + d) - e).toNat = d + (target m (e + d) - (e + d)).toNat := by omega
  rw [roundedSize, target_mul_twoPow hm, hshift, rounded_mul_twoPow, roundedSize]

/-- A rounded mantissa has 53 places, or it is the first number beyond. -/
theorem roundedSize_le (he : e ≤ target m e) : roundedSize m e ≤ 2 ^ 53 := by
  obtain ⟨k, hk⟩ := Int.le.dest he
  have hplaces : m.log2 + 1 ≤ 53 + k := by
    have := target_eq m e
    omega
  have hm : m ≤ 2 ^ 53 * 2 ^ k := by
    rw [← pow_add]
    exact (Nat.lt_log2_self.trans_le (Nat.pow_le_pow_right two_pos hplaces)).le
  rw [roundedSize, show (target m e - e).toNat = k by omega]
  exact (rounded_mono hm k).trans_eq (rounded_self _ k)

/-- Above the least exponent, no place of a rounded mantissa is empty. -/
theorem le_roundedSize (hm : 0 < m) (he : e ≤ target m e) (htarget : leastExponent < target m e) :
    2 ^ 52 ≤ roundedSize m e := by
  obtain ⟨k, hk⟩ := Int.le.dest he
  have hplaces : 52 + k ≤ m.log2 := by
    have := target_eq m e
    omega
  have hm : 2 ^ 52 * 2 ^ k ≤ m := by
    rw [← pow_add]
    exact (Nat.pow_le_pow_right two_pos hplaces).trans (Nat.log2_self_le hm.ne')
  rw [roundedSize, show (target m e - e).toNat = k by omega]
  exact (rounded_self _ k).symm.trans_le (rounded_mono hm k)

/-- Sizes with the same exponent. Where they are rounded to different exponents, the lesser mantissa
reaches at most the place where the greater one begins. -/
theorem atMost_roundedSize_of_le (h : m₁ ≤ m₂) (hm₁ : 0 < m₁) (he₁ : e ≤ target m₁ e)
    (he₂ : e ≤ target m₂ e) :
    AtMost (roundedSize m₁ e) (target m₁ e) (roundedSize m₂ e) (target m₂ e) := by
  have hlog := log2_mono hm₁ h
  have htarget₁ := target_eq m₁ e
  have htarget₂ := target_eq m₂ e
  have htarget : target m₁ e ≤ target m₂ e := by omega
  rcases htarget.eq_or_lt with heq | hlt
  · refine ⟨0, by omega, ?_⟩
    rw [roundedSize, roundedSize, heq, pow_zero, mul_one]
    exact rounded_mono h _
  · obtain ⟨d, hd⟩ := Int.le.dest (Int.add_one_le_of_lt hlt)
    refine ⟨1 + d, by push_cast; omega, ?_⟩
    have hsmall := roundedSize_le he₁
    have hlarge := le_roundedSize (hm₁.trans_le h) he₂ (by omega)
    calc roundedSize m₁ e ≤ 2 ^ 52 * 2 ^ 1 := hsmall
      _ ≤ roundedSize m₂ e * 2 ^ (1 + d) :=
        Nat.mul_le_mul hlarge (Nat.pow_le_pow_right two_pos (by omega))

/-- Rounding keeps the order of sizes. -/
theorem AtMost.roundedSize (h : AtMost m₁ e₁ m₂ e₂) (hm₁ : 0 < m₁) (he₁ : e₁ ≤ target m₁ e₁)
    (he₂ : e₂ ≤ target m₂ e₂) :
    AtMost (roundedSize m₁ e₁) (target m₁ e₁) (roundedSize m₂ e₂) (target m₂ e₂) := by
  obtain ⟨d, rfl, hle⟩ := h
  have hm₂ : 0 < m₂ := Nat.pos_of_mul_pos_right (hm₁.trans_le hle)
  have htarget := target_mul_twoPow hm₂ e₁ d
  rw [← roundedSize_mul_twoPow hm₂ he₂, ← htarget]
  exact atMost_roundedSize_of_le hle hm₁ he₁ (by omega)

theorem target_le (h : Canonical m e) : target m e ≤ e := by
  have hlog : m.log2 < 53 := by
    rcases m.eq_zero_or_pos with rfl | hm
    · decide
    · exact (Nat.log2_lt hm.ne').2 h.1
  have := target_eq m e
  have := h.2.1
  omega

/-! ## Whole numbers -/

theorem nearestInteger_true (m : ℕ) (e : ℤ) :
    nearestInteger true m e = -nearestInteger false m e := rfl

theorem nearestInteger_nonneg (m : ℕ) (e : ℤ) : 0 ≤ nearestInteger false m e :=
  Int.natCast_nonneg _

theorem nearestInteger_mono (h : m₁ ≤ m₂) (e : ℤ) :
    nearestInteger false m₁ e ≤ nearestInteger false m₂ e := by
  refine Int.ofNat_le.2 ?_
  split
  · exact Nat.mul_le_mul_right _ h
  · exact Nat.div_le_div_right (by omega)

theorem twoTo_succ (k : ℕ) : twoTo (k + 1) = 2 * twoTo k := pow_succ' 2 k

/-- A size is rounded to the same whole number however it is written. -/
theorem nearestInteger_mul_two (m : ℕ) (e : ℤ) :
    nearestInteger false (m * 2) e = nearestInteger false m (e + 1) := by
  refine congrArg Int.ofNat ?_
  rcases lt_or_ge e 0 with he | he
  · obtain ⟨k, hk⟩ := Int.le.dest (Int.add_one_le_of_lt he)
    have hplaces : (-e).toNat = k + 1 := by omega
    have hhalved : (2 * (m * 2) + twoTo (k + 1)) / twoTo (k + 1 + 1) =
        (2 * m + twoTo k) / twoTo (k + 1) := by
      have hsum : 2 * (m * 2) + twoTo (k + 1) = 2 * (2 * m + twoTo k) := by
        rw [twoTo_succ]
        omega
      rw [hsum, twoTo_succ (k + 1)]
      exact Nat.mul_div_mul_left _ _ two_pos
    rw [if_neg he.not_ge, hplaces, hhalved]
    split
    · -- the last half is gone
      have hzero : k = 0 := by omega
      subst hzero
      rw [show (e + 1).toNat = 0 by omega]
      show (2 * m + 1) / 2 = m * 1
      omega
    · rw [show (-(e + 1)).toNat = k by omega]
  · rw [if_pos he, if_pos (by omega), show (e + 1).toNat = e.toNat + 1 by omega, mul_assoc,
      twoTo_succ]

theorem nearestInteger_mul_twoPow (m : ℕ) (e : ℤ) (d : ℕ) :
    nearestInteger false (m * 2 ^ d) e = nearestInteger false m (e + d) := by
  induction d generalizing e with
  | zero => simp
  | succ d ih =>
    rw [pow_succ, ← mul_assoc, nearestInteger_mul_two, ih]
    congr 1
    push_cast
    omega

/-- Rounding to whole numbers keeps the order of sizes. -/
theorem AtMost.nearestInteger (h : AtMost m₁ e₁ m₂ e₂) :
    nearestInteger false m₁ e₁ ≤ nearestInteger false m₂ e₂ := by
  obtain ⟨d, rfl, hle⟩ := h
  rw [← nearestInteger_mul_twoPow]
  exact nearestInteger_mono hle e₁

theorem nearestInteger_zero (negative : Bool) (e : ℤ) : nearestInteger negative 0 e = 0 := by
  have hsize : nearestInteger false 0 e = 0 := by
    refine congrArg Int.ofNat ?_
    split
    · exact Nat.zero_mul _
    · have hpos : 0 < twoTo (-e).toNat := Nat.two_pow_pos _
      rw [Nat.mul_zero, Nat.zero_add, twoTo_succ]
      exact Nat.div_eq_of_lt (by omega)
  cases negative with
  | false => exact hsize
  | true => rw [nearestInteger_true, hsize, neg_zero]

/-! ## Rounded numbers -/

theorem greatest_lt_nearestInteger (hm : 2 ^ 52 ≤ m) (he : 971 < e) :
    Bits64.greatest < nearestInteger false m e := by
  have hpower : twoTo 11 ≤ twoTo e.toNat := Nat.pow_le_pow_right two_pos (by omega)
  have hsize : 2 ^ 52 * twoTo 11 ≤ m * twoTo e.toNat := Nat.mul_le_mul hm hpower
  have hnearest : nearestInteger false m e = ((m * twoTo e.toNat : ℕ) : ℤ) :=
    congrArg Int.ofNat (if_pos (by omega))
  rw [hnearest]
  exact lt_of_lt_of_le (by decide) (Int.ofNat_le.2 hsize)

/-- Numbers out of range are far beyond 64 bits. -/
theorem roundFloat_pack (h : Canonical m e) (s : Sign) (hm : 0 < m) :
    roundFloat ⟨Float.Model.pack (.finite s m e hm)⟩ =
      Bits64.clamp (nearestInteger (s == .negative) m e) := by
  rcases le_or_gt e 971 with he | he
  · rw [roundFloat, ofFloat_eq, unpack_pack h he]
    rfl
  · have hlarge : 2 ^ 52 ≤ m := h.2.2.resolve_right (by show e ≠ -1074; omega)
    have hbeyond := greatest_lt_nearestInteger hlarge he
    rw [pack_of_lt he, roundFloat, ofFloat_eq, unpack_infinity, Bits64.clamp]
    cases s with
    | positive =>
      show Bits64.greatest = max Bits64.least (min Bits64.greatest (nearestInteger false m e))
      rw [min_eq_left hbeyond.le]
      rfl
    | negative =>
      show Bits64.least = max Bits64.least (min Bits64.greatest (nearestInteger true m e))
      have hbelow : nearestInteger true m e ≤ Bits64.least := by
        rw [nearestInteger_true]
        show -_ ≤ -Bits64.greatest - 1
        omega
      exact (max_eq_left ((min_le_right _ _).trans hbelow)).symm

theorem roundFloat_pack_zero (s : Sign) : roundFloat ⟨Float.Model.pack (.zero s)⟩ = 0 := by
  rw [roundFloat, ofFloat_eq, unpack_zero]
  show Bits64.clamp (nearestInteger _ 0 _) = 0
  rw [nearestInteger_zero]
  rfl

/-- The places that a rounded mantissa has too many. -/
def carry (m : ℕ) (e : ℤ) : ℕ := (target (roundedSize m e) (target m e) - target m e).toNat

/-- There is at most one place too many, and nothing is lost with it. -/
theorem canonical_rounded (hm : 0 < m) (he : e ≤ target m e) :
    Canonical (roundedSize m e / 2 ^ carry m e) (target m e + carry m e) ∧
      nearestInteger false (roundedSize m e / 2 ^ carry m e) (target m e + carry m e) =
        nearestInteger false (roundedSize m e) (target m e) := by
  have hleast : leastExponent ≤ target m e := by
    rw [target_eq]
    exact le_max_right _ _
  rcases (roundedSize_le he).lt_or_eq with hlt | heq
  · have hcanonical : Canonical (roundedSize m e) (target m e) := by
      refine ⟨hlt, hleast, ?_⟩
      rcases hleast.lt_or_eq with h | h
      · exact .inl (le_roundedSize hm he h)
      · exact .inr h.symm
    have hcarry : carry m e = 0 := by
      have := target_le hcanonical
      rw [carry]
      omega
    rw [hcarry, pow_zero, Nat.div_one, Nat.cast_zero, add_zero]
    exact ⟨hcanonical, rfl⟩
  · have hcarry : carry m e = 1 := by
      have hlog : (2 ^ 53).log2 = 53 := Nat.log2_two_pow
      rw [carry, heq, target_eq, hlog]
      omega
    rw [hcarry, heq]
    exact ⟨⟨by norm_num, by push_cast; omega, .inl (by norm_num)⟩,
      (nearestInteger_mul_two (2 ^ 52) (target m e)).symm⟩

/-- The data for a size with a sign. -/
def ofSize (s : Sign) (m : ℕ) (e : ℤ) : UnpackedFloat :=
  if h : m = 0 then .zero s else .finite s m e (Nat.pos_of_ne_zero h)

theorem roundFloat_ofSize (h : Canonical m e) (s : Sign) :
    roundFloat ⟨Float.Model.pack (ofSize s m e)⟩ =
      Bits64.clamp (nearestInteger (s == .negative) m e) := by
  rw [ofSize]
  split
  · next hzero =>
    rw [roundFloat_pack_zero, hzero, nearestInteger_zero]
    rfl
  · exact roundFloat_pack h s _

theorem roundWithAccuracy_eq (he : e ≤ target m e) (s : Sign) :
    roundWithAccuracy Format.binary64 s m e .exact =
      ofSize s (roundedSize m e / 2 ^ carry m e) (target m e + carry m e) := by
  have htarget : e + (target m e - e).toNat = target m e := by omega
  show ofSize s (shiftToTargetExponent Format.binary64 (roundedSize m e)
    (e + (target m e - e).toNat) .exact).1.mantissa (shiftToTargetExponent Format.binary64
      (roundedSize m e) (e + (target m e - e).toNat) .exact).2 = _
  rw [htarget]
  exact congrArg (ofSize s · _) (mantissa_shiftRight _ _)

/-- Rounding to a floating-point number and then to an integer. -/
theorem roundFloat_roundWithAccuracy (hm : 0 < m) (he : e ≤ target m e) (s : Sign) :
    roundFloat ⟨Float.Model.pack (roundWithAccuracy Format.binary64 s m e .exact)⟩ =
      Bits64.clamp (nearestInteger (s == .negative) (roundedSize m e) (target m e)) := by
  obtain ⟨hcanonical, hsize⟩ := canonical_rounded hm he
  rw [roundWithAccuracy_eq he, roundFloat_ofSize hcanonical]
  cases s with
  | positive => exact congrArg Bits64.clamp hsize
  | negative => exact congrArg (fun n => Bits64.clamp (-n)) hsize

/-! ## Products -/

/-- The product of a mantissa and a full one has enough places. -/
theorem le_target_mul {c : ℕ} (hm : 0 < m) (hc : 2 ^ 52 ≤ c) (e : ℤ) : e ≤ target (m * c) e := by
  have hlog : 52 ≤ (m * c).log2 := by
    rw [Nat.le_log2 (Nat.mul_pos hm (by omega)).ne']
    exact hc.trans (Nat.le_mul_of_pos_left c hm)
  rw [target_eq]
  omega

theorem clamp_mono {i j : ℤ} (h : i ≤ j) : Bits64.clamp i ≤ Bits64.clamp j :=
  max_le_max_left _ (min_le_min_left _ h)

section

variable {x y z : Float} {c : ℕ} {f : ℤ} {hc : 0 < c}
  (hz : z.toModel.unpack = .finite .positive c f hc) (hfull : 2 ^ 52 ≤ c)

include hz

theorem roundFloat_mul_of_zero {s : Sign} (hx : x.toModel.unpack = .zero s) :
    roundFloat (x * z) = 0 := by
  show roundFloat ⟨Float.Model.pack (UnpackedFloat.mul Format.binary64 x.toModel.unpack
    z.toModel.unpack)⟩ = 0
  rw [hx, hz]
  exact roundFloat_pack_zero _

include hfull

theorem roundFloat_mul_of_finite {s : Sign} {hm : 0 < m}
    (hx : x.toModel.unpack = .finite s m e hm) :
    roundFloat (x * z) = Bits64.clamp (nearestInteger (s == .negative)
      (roundedSize (m * c) (e + f)) (target (m * c) (e + f))) := by
  have hsign : s * .positive = s := by cases s <;> rfl
  show roundFloat ⟨Float.Model.pack (UnpackedFloat.mul Format.binary64 x.toModel.unpack
    z.toModel.unpack)⟩ = _
  rw [hx, hz, UnpackedFloat.mul, hsign]
  exact roundFloat_roundWithAccuracy (Nat.mul_pos hm hc) (le_target_mul hm hfull _) s

theorem roundFloat_mul_nonpos (hx : HasSign .negative x.toModel.unpack) :
    roundFloat (x * z) ≤ 0 := by
  generalize hxu : x.toModel.unpack = a at hx
  cases hx with
  | zero s => rw [roundFloat_mul_of_zero hz hxu]
  | finite m e hm =>
    rw [roundFloat_mul_of_finite hz hfull hxu]
    exact clamp_mono (j := 0) (neg_nonpos.2 (nearestInteger_nonneg _ _))

theorem roundFloat_mul_nonneg (hx : HasSign .positive x.toModel.unpack) :
    0 ≤ roundFloat (x * z) := by
  generalize hxu : x.toModel.unpack = a at hx
  cases hx with
  | zero s => rw [roundFloat_mul_of_zero hz hxu]
  | finite m e hm =>
    rw [roundFloat_mul_of_finite hz hfull hxu]
    exact clamp_mono (i := 0) (nearestInteger_nonneg _ _)

/-- Products with a positive number, rounded to integers, are in the order of the factors. -/
theorem roundFloat_mul_mono (hx : x.isFinite = true) (hy : y.isFinite = true) (h : x ≤ y) :
    roundFloat (x * z) ≤ roundFloat (y * z) := by
  have hmono : ∀ {m₁ m₂ : ℕ} {e₁ e₂ : ℤ}, 0 < m₁ → 0 < m₂ → AtMost m₁ e₁ m₂ e₂ →
      nearestInteger false (roundedSize (m₁ * c) (e₁ + f)) (target (m₁ * c) (e₁ + f)) ≤
        nearestInteger false (roundedSize (m₂ * c) (e₂ + f)) (target (m₂ * c) (e₂ + f)) :=
    fun hm₁ hm₂ h => ((h.mul c f).roundedSize (Nat.mul_pos hm₁ hc) (le_target_mul hm₁ hfull _)
      (le_target_mul hm₂ hfull _)).nearestInteger
  have hordered := inOrder_of_le hx hy h
  generalize hxu : x.toModel.unpack = a at hordered
  generalize hyu : y.toModel.unpack = b at hordered
  cases hordered with
  | signs ha hb =>
    exact (roundFloat_mul_nonpos hz hfull (hxu ▸ ha)).trans
      (roundFloat_mul_nonneg hz hfull (hyu ▸ hb))
  | @positive m₁ m₂ e₁ e₂ hm₁ hm₂ h =>
    rw [roundFloat_mul_of_finite hz hfull hxu, roundFloat_mul_of_finite hz hfull hyu]
    exact clamp_mono (hmono hm₁ hm₂ h)
  | @negative m₁ m₂ e₁ e₂ hm₁ hm₂ h =>
    rw [roundFloat_mul_of_finite hz hfull hxu, roundFloat_mul_of_finite hz hfull hyu]
    exact clamp_mono (neg_le_neg (hmono hm₂ hm₁ h))

end

end Binary

end ShipEmissions
