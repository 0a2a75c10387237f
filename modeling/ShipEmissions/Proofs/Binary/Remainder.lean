import ShipEmissions.Proofs.Binary.Sizes

/-!
# Remainders of floating-point numbers

A remainder has no more places than the dividend or the divisor, so it is exact. Bits count the
exponent of a size first and its mantissa then: a size that is less than another has lesser bits,
and the bits give a lesser number.

* `sizeBits_lt`: the bits that are written for a size.
* `ofBits_lt`: the number that bits are read as.
* `remainder_bounds`: a remainder of a number that is not negative lies between zero and the
  divisor.
-/

namespace ShipEmissions

namespace Binary

open Float.Model Float.Model.UnpackedFloat

variable {m n : ℕ} {e f : ℤ} {hn : 0 < n} {bits : UInt64} {x z : Float}

/-! ## Bits -/

/-- A size that is less than another, which has a full mantissa, has lesser bits. -/
theorem sizeBits_lt (hmantissa : m < 2 ^ 53) (hleast : leastExponent ≤ e) (hfull : 2 ^ 52 ≤ n)
    (h : e < f ∨ e = f ∧ m < n) : sizeBits m e < (f - leastExponent).toNat * 2 ^ 52 + n := by
  unfold sizeBits
  split
  · omega
  · next hm =>
    have hpos : 0 < m := Nat.pos_of_ne_zero hm
    set room := min (52 - m.log2) (e - leastExponent).toNat
    have hplaces : m * 2 ^ room < 2 ^ 53 := by
      have hlog := (Nat.log2_lt hm).2 hmantissa
      have hne : m * 2 ^ room ≠ 0 := by positivity
      rw [← Nat.log2_lt hne, log2_mul_twoPow hpos]
      omega
    show (if m * 2 ^ room < 2 ^ 52 then m * 2 ^ room
      else (e - room - leastExponent + 1).toNat * 2 ^ 52 + (m * 2 ^ room - 2 ^ 52)) < _
    split
    · omega
    · rcases Nat.eq_zero_or_pos room with hroom | hroom
      · have hsame : m * 2 ^ room = m := by rw [hroom, pow_zero, mul_one]
        omega
      · omega

/-- Bits without a sign stand for a size, if they are those of a number. -/
theorem ofFloat_ofBits (bits : UInt64) (h : bits.toNat < 2047 * 2 ^ 52) :
    ∃ m e, ofFloat (Float.ofBits bits) = .finite false m e ∧ Canonical m e ∧
      (e - leastExponent).toNat * 2 ^ 52 + m = bits.toNat := by
  have hexponent : bits.toNat / twoTo 52 % twoTo 11 = bits.toNat / 2 ^ 52 :=
    Nat.mod_eq_of_lt (by show bits.toNat / 2 ^ 52 < 2 ^ 11; omega)
  have hbits : (Float.ofBits bits).toBits = bits := by
    let b : BitVec Format.binary64.numBits := bits.toBitVec
    have hnumber : isNaNBits b = false := by
      refine decide_eq_false ?_
      rintro ⟨hones, -⟩
      have hones : (unpackExponent b).toNat = 2047 := congrArg BitVec.toNat hones
      have hexponent := toNat_unpackExponent b
      have : b.toNat = bits.toNat := rfl
      omega
    have hpack := pack_unpack b
    rw [hnumber] at hpack
    exact congrArg UInt64.ofBitVec hpack
  have hsign : decide (twoTo 63 ≤ bits.toNat) = false :=
    decide_eq_false (by show ¬2 ^ 63 ≤ bits.toNat; omega)
  rw [ofFloat, hbits, hexponent, hsign, if_neg (by omega)]
  split
  · next hzero =>
    refine ⟨_, _, rfl, ⟨?_, le_rfl, .inr rfl⟩, ?_⟩
    · show bits.toNat % 2 ^ 52 < _
      omega
    · show _ * _ + bits.toNat % 2 ^ 52 = _
      rw [Int.sub_self]
      omega
  · next hpos =>
    refine ⟨_, _, rfl, ⟨?_, ?_, .inl ?_⟩, ?_⟩
    · show 2 ^ 52 + bits.toNat % 2 ^ 52 < _
      omega
    · omega
    · exact Nat.le_add_right _ _
    · show _ * _ + (2 ^ 52 + bits.toNat % 2 ^ 52) = _
      omega

/-- Bits that are less than those of a number stand for a lesser one. -/
theorem ofBits_lt (hz : z.toModel.unpack = .finite .positive n f hn) (hf : f ≤ 971)
    (h : bits.toNat < (f - leastExponent).toNat * 2 ^ 52 + n) :
    0 ≤ Float.ofBits bits ∧ Float.ofBits bits < z := by
  have hleast : leastExponent = -1074 := rfl
  obtain ⟨hmantissa, hexponent, -⟩ := canonical_of_unpack hz
  obtain ⟨m, e, hdata, ⟨-, he, hform⟩, hbits⟩ := ofFloat_ofBits bits (by omega)
  rw [ofFloat_eq] at hdata
  rw [le_iff, lt_iff, hz, unpack_literal_zero]
  cases ha : (Float.ofBits bits).toModel.unpack with
  | notANumber => rw [ha] at hdata; cases hdata
  | infinity s => rw [ha] at hdata; cases hdata
  | zero s => exact ⟨rfl, rfl⟩
  | finite s k g hk =>
    rw [ha] at hdata
    cases s with
    | negative => cases hdata
    | positive =>
      cases hdata
      have hlt : (compare e f).then (compare m n) = .lt := by
        rw [Ordering.then_eq_lt, compare_lt_iff_lt, compare_eq_iff_eq, Nat.compare_eq_lt]
        omega
      exact ⟨rfl, beq_iff_eq.2 (congrArg some hlt)⟩

/-! ## Remainders -/

section

variable (hz : z.toModel.unpack = .finite .positive n f hn)

include hz

/-- Zeros are put together with their signs. -/
theorem toFloat_zero_lt (negative : Bool) (e : ℤ) :
    0 ≤ toFloat (.finite negative 0 e) ∧ toFloat (.finite negative 0 e) < z := by
  have hdata : ∃ s, (toFloat (.finite negative 0 e)).toModel.unpack = .zero s := by
    have hsize : sizeBits 0 e = 0 := if_pos rfl
    rw [toFloat, hsize]
    cases negative with
    | false => exact ⟨.positive, rfl⟩
    | true => exact ⟨.negative, rfl⟩
  obtain ⟨s, hs⟩ := hdata
  rw [le_iff, lt_iff, hs, hz, unpack_literal_zero]
  exact ⟨rfl, rfl⟩

variable (hf : f ≤ 971)

include hf

/-- A size that is less than a number with a full mantissa is put together as a lesser number. -/
theorem toFloat_lt (hfull : 2 ^ 52 ≤ n) (hmantissa : m < 2 ^ 53) (hleast : leastExponent ≤ e)
    (h : e < f ∨ e = f ∧ m < n) :
    0 ≤ toFloat (.finite false m e) ∧ toFloat (.finite false m e) < z := by
  obtain ⟨hn, -, -⟩ := canonical_of_unpack hz
  have hlt := sizeBits_lt hmantissa hleast hfull h
  have hbits : (UInt64.ofNat (sizeBits m e)).toNat = sizeBits m e := by
    rw [UInt64.toNat_ofNat']
    refine Nat.mod_eq_of_lt ?_
    have : leastExponent = -1074 := rfl
    omega
  refine ofBits_lt hz hf ?_
  rw [← hbits] at hlt
  exact hlt

/-- A remainder of a finite number that is not negative lies between zero and the divisor. -/
theorem remainder_bounds (hfull : 2 ^ 52 ≤ n) (hsign : NotNegative x.toModel.unpack)
    (hx : x.isFinite = true) : 0 ≤ Scalar.remainder x z ∧ Scalar.remainder x z < z := by
  have hx : x.toModel.unpack.isFinite = true := hx
  have hdivisor : ofFloat z = .finite false n f := by
    rw [ofFloat_eq, hz]
    rfl
  have hremainder : ∀ negative m e,
      remainder (.finite negative m e) (.finite false n f) = .finite negative
        (m * twoTo (e - min e f).toNat % (n * twoTo (f - min e f).toNat)) (min e f) :=
    fun negative m e => if_neg hn.ne'
  show 0 ≤ (remainder (ofFloat x) (ofFloat z)).toFloat ∧
    (remainder (ofFloat x) (ofFloat z)).toFloat < z
  rw [hdivisor, ofFloat_eq]
  obtain ⟨hmantissa', hleast, -⟩ := canonical_of_unpack hz
  cases ha : x.toModel.unpack with
  | notANumber => rw [ha] at hx; cases hx
  | infinity s => rw [ha] at hx; cases hx
  | zero s =>
    rw [ofUnpacked, hremainder, Nat.zero_mul, Nat.zero_mod]
    exact toFloat_zero_lt hz _ _
  | finite s m e hm =>
    obtain ⟨hmantissa, he, -⟩ := canonical_of_unpack ha
    rw [ha] at hsign
    cases hsign
    rw [ofUnpacked, hremainder]
    rcases lt_or_ge e f with hlt | hge
    · -- the remainder has the places of the dividend
      have hsmall : m * twoTo (e - min e f).toNat = m := by
        rw [min_eq_left hlt.le, Int.sub_self]
        exact Nat.mul_one m
      rw [hsmall]
      exact toFloat_lt hz hf hfull ((Nat.mod_le _ _).trans_lt hmantissa) (le_min he hleast)
        (.inl (min_lt_iff.2 (.inl hlt)))
    · -- the remainder has the places of the divisor
      have hsame : n * twoTo (f - min e f).toNat = n := by
        rw [min_eq_right hge, Int.sub_self]
        exact Nat.mul_one n
      rw [hsame]
      have hmod := Nat.mod_lt (m * twoTo (e - min e f).toNat) hn
      exact toFloat_lt hz hf hfull (hmod.trans hmantissa') (le_min he hleast)
        (.inr ⟨min_eq_right hge, hmod⟩)

end

end Binary

end ShipEmissions
