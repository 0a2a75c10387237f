import ShipEmissions.Proofs.Binary.Signs

/-!
# The places of floating-point numbers

How large the numbers can become in a computation, by the place of their first digit. It is enough
to know that nothing grows beyond all numbers: rounding adds a place at most, a sum one more, and a
division no more than the divisor has places behind the point.

* `Within`: finite data with a bound on the place of the first digit.
* `Within.add`, `within_div`: the operations.
* `within_of_bounds`: numbers between two bounds.
* `sub_ne_notANumber`, `div_ne_notANumber`: operations that always leave a number.
-/

namespace ShipEmissions

namespace Binary

open Float.Model Float.Model.UnpackedFloat

variable {m m₁ m₂ : ℕ} {e e₁ e₂ : ℤ} {a b : UnpackedFloat} {x y : Float} {format : Format}

/-- Data of finite size, at most with the place `k`. -/
inductive Within (k : ℤ) : UnpackedFloat → Prop
  | zero (s : Sign) : Within k (.zero s)
  | finite (s : Sign) (m : ℕ) (e : ℤ) (hm : 0 < m) (h : m.log2 + e ≤ k) :
      Within k (.finite s m e hm)

theorem Within.mono {k l : ℤ} (h : Within k a) (hkl : k ≤ l) : Within l a := by
  cases h with
  | zero s => exact .zero s
  | finite s m e hm h => exact .finite s m e hm (h.trans hkl)

theorem isFinite_of_within {k : ℤ} (h : Within k x.toModel.unpack) : x.isFinite = true := by
  show x.toModel.unpack.isFinite = true
  generalize x.toModel.unpack = a at h
  cases h with
  | zero s => rfl
  | finite s m e hm h => rfl

/-! ## Packing and rounding -/

theorem log2_lt_of_lt {n k : ℕ} (h : n < 2 ^ k) (hk : 0 < k) : n.log2 < k := by
  rcases Nat.eq_zero_or_pos n with rfl | hn
  · rwa [Nat.log2_zero]
  · exact (Nat.log2_lt hn.ne').2 h

theorem log2_div_add_le {n j : ℕ} (h : n / 2 ^ j ≠ 0) : (n / 2 ^ j).log2 + j ≤ n.log2 := by
  have hn : n ≠ 0 := by
    rintro rfl
    exact h (Nat.zero_div _)
  rw [Nat.le_log2 hn, pow_add]
  exact (Nat.mul_le_mul_right _ (Nat.log2_self_le h)).trans (Nat.div_mul_le_self n _)

theorem roundedMantissa_le (a : ExtendedMantissa) : a.roundedMantissa ≤ a.mantissa + 1 := by
  obtain ⟨m, round, sticky⟩ := a
  cases round <;> cases sticky <;>
    simp only [ExtendedMantissa.roundedMantissa, ExtendedMantissa.accuracy,
      Accuracy.roundToNearestEven] <;> omega

theorem mantissa_ofMantissaAndAccuracy (m : ℕ) (accuracy : Accuracy) :
    (ExtendedMantissa.ofMantissaAndAccuracy m accuracy).mantissa = m := by
  cases accuracy with
  | exact => rfl
  | inexact o => cases o <;> rfl

/-- Without its last places a mantissa may be rounded up to the next place. -/
theorem log2_roundedMantissa_le {k : ℕ} (hk : k ≤ m.log2) (accuracy : Accuracy) :
    (ExtendedMantissa.ofMantissaAndAccuracy m accuracy >>> k).roundedMantissa.log2 + k ≤
      m.log2 + 1 := by
  have hle := roundedMantissa_le (ExtendedMantissa.ofMantissaAndAccuracy m accuracy >>> k)
  rw [mantissa_shiftRight, mantissa_ofMantissaAndAccuracy] at hle
  generalize (ExtendedMantissa.ofMantissaAndAccuracy m accuracy >>> k).roundedMantissa = n at hle
  have hplaces : m / 2 ^ k < 2 ^ (m.log2 - k + 1) := by
    rw [Nat.div_lt_iff_lt_mul (Nat.two_pow_pos k), ← pow_add]
    have hlog : m.log2 - k + 1 + k = m.log2 + 1 := by omega
    rw [hlog]
    exact Nat.lt_log2_self
  have hlt : n < 2 ^ (m.log2 - k + 2) := by
    have hdouble : 2 ^ (m.log2 - k + 2) = 2 * 2 ^ (m.log2 - k + 1) := pow_succ' 2 _
    have hpos := Nat.two_pow_pos (m.log2 - k + 1)
    omega
  have := log2_lt_of_lt hlt (Nat.succ_pos _)
  omega

/-- A mantissa that is rounded to the places there are gains at most one. -/
theorem log2_roundedMantissa_add_le (m : ℕ) (e : ℤ) (accuracy : Accuracy) :
    ((ExtendedMantissa.ofMantissaAndAccuracy m accuracy >>>
        (target m e - e).toNat).roundedMantissa.log2 : ℤ) + (e + (target m e - e).toNat) ≤
      max (m.log2 + e + 1) leastExponent := by
  have htarget := target_eq m e
  rcases le_or_gt (target m e - e).toNat m.log2 with hplaces | hplaces
  · have := log2_roundedMantissa_le hplaces accuracy
    omega
  · -- all places are dropped
    have hnone : m / 2 ^ (target m e - e).toNat = 0 := Nat.div_eq_of_lt
      (Nat.lt_log2_self.trans_le (Nat.pow_le_pow_right two_pos hplaces))
    have hle := roundedMantissa_le
      (ExtendedMantissa.ofMantissaAndAccuracy m accuracy >>> (target m e - e).toNat)
    rw [mantissa_shiftRight, mantissa_ofMantissaAndAccuracy, hnone] at hle
    have := log2_lt_of_lt (Nat.lt_succ_of_le hle) one_pos
    omega

/-- Rounding gains at most one place. -/
theorem within_roundWithAccuracy (s : Sign) (m : ℕ) (e : ℤ) (accuracy : Accuracy) :
    Within (max (m.log2 + e + 1) leastExponent)
      (roundWithAccuracy Format.binary64 s m e accuracy) := by
  have hrounded := log2_roundedMantissa_add_le m e accuracy
  set k := (target m e - e).toNat
  set n := (ExtendedMantissa.ofMantissaAndAccuracy m accuracy >>> k).roundedMantissa
  set j := (target n (e + k) - (e + k)).toNat
  have hfinal : (ExtendedMantissa.ofMantissaAndAccuracy n .exact >>> j).mantissa = n / 2 ^ j :=
    mantissa_shiftRight _ _
  show Within _ (if h : (ExtendedMantissa.ofMantissaAndAccuracy n .exact >>> j).mantissa = 0 then
    .zero s else .finite s (ExtendedMantissa.ofMantissaAndAccuracy n .exact >>> j).mantissa
      (e + k + j) (Nat.pos_of_ne_zero h))
  split
  · exact .zero s
  · next hne =>
    refine .finite s _ _ _ ?_
    rw [hfinal] at hne ⊢
    have := log2_div_add_le hne
    omega

theorem within_unpack_packComponents (s : Sign) {exponent : BitVec 11} (mantissa : BitVec 52)
    (hexponent : exponent ≠ -1#11) :
    Within (max (exponent.toNat - 1023) (-1023)) (UnpackedFloat.unpack Format.binary64
      (packComponents Format.binary64 s exponent mantissa)) := by
  have hmantissa := mantissa.isLt
  unfold UnpackedFloat.unpack
  simp only [unpackMantissa_packComponents, unpackExponent_packComponents,
    unpackSign_packComponents, Sign.ofBitVec_toBitVec]
  rw [if_neg hexponent]
  split
  · next hzero =>
    split
    · exact .zero s
    · next hne =>
      refine .finite s _ _ _ ?_
      have := log2_lt_of_lt hmantissa (by norm_num)
      have hexponent : exponent.toNat = 0 := congrArg BitVec.toNat hzero
      show (mantissa.toNat.log2 : ℤ) + (exponent.toNat - (1023 + 52) + 1) ≤ _
      omega
  · refine .finite s _ _ _ ?_
    have hfull : (1#1 ++ mantissa).toNat = 2 ^ 52 + mantissa.toNat := toNat_one_append mantissa
    have hlt : (1#1 ++ mantissa).toNat < 2 ^ 53 := by omega
    have := log2_lt_of_lt hlt (by norm_num)
    show ((1#1 ++ mantissa).toNat.log2 : ℤ) + (exponent.toNat - (1023 + 52)) ≤ _
    omega

theorem within_unpack_pack {s : Sign} {hm : 0 < m} {k : ℤ} (h : m.log2 + e ≤ k) (hleast : -1023 ≤ k)
    (he : e ≤ 971) : Within k (Float.Model.pack (.finite s m e hm)).unpack := by
  show Within k (UnpackedFloat.unpack Format.binary64
    (UnpackedFloat.pack Format.binary64 (.finite s m e hm)))
  rw [pack_finite he]
  split
  · next hlog =>
    have hexponent : (BitVec.ofNat 11 (e + 1023 + 52).toNat).toNat = (e + 1023 + 52).toNat :=
      Nat.mod_eq_of_lt (by omega)
    refine (within_unpack_packComponents s _ ?_).mono ?_
    · intro hones
      have : (BitVec.ofNat 11 (e + 1023 + 52).toNat).toNat = 2047 := congrArg BitVec.toNat hones
      omega
    · omega
  · refine (within_unpack_packComponents s _ (by decide)).mono ?_
    show max (((0#11).toNat : ℤ) - 1023) (-1023) ≤ k
    simpa using hleast

/-- Packing keeps sizes that are not beyond all numbers. -/
theorem Within.pack {k : ℤ} (h : Within k a) (hleast : -1023 ≤ k) (hgreatest : k ≤ 971) :
    Within k (Float.Model.pack a).unpack := by
  cases h with
  | zero s =>
    rw [unpack_zero]
    exact .zero s
  | finite s m e hm h => exact within_unpack_pack h hleast (by omega)

/-- Rounding to a floating-point number gains at most one place. -/
theorem within_pack_roundWithAccuracy (s : Sign) (m : ℕ) {e k : ℤ} (accuracy : Accuracy)
    (h : m.log2 + e < k) (hleast : -1023 ≤ k) (hgreatest : k ≤ 971) :
    Within k (Float.Model.pack (roundWithAccuracy Format.binary64 s m e accuracy)).unpack := by
  refine ((within_roundWithAccuracy s m e accuracy).mono ?_).pack hleast hgreatest
  have : leastExponent = -1074 := rfl
  omega

/-! ## Operations -/

theorem log2_shiftLeft (m j : ℕ) : ((m <<< j).log2 : ℤ) ≤ m.log2 + j := by
  rcases Nat.eq_zero_or_pos m with rfl | hm
  · rw [Nat.zero_shiftLeft, Nat.log2_zero]
    omega
  · rw [Nat.shiftLeft_eq, log2_mul_twoPow hm]
    push_cast
    rfl

theorem within_pack_round (s : Sign) (m : ℕ) {e k : ℤ} (h : m.log2 + e < k) (hleast : -1023 ≤ k)
    (hgreatest : k ≤ 971) :
    Within k (Float.Model.pack (UnpackedFloat.round Format.binary64 s m e)).unpack := by
  refine within_pack_roundWithAccuracy s _ _ ?_ hleast hgreatest
  have := log2_shiftLeft m (e - target m e).toNat
  show ((m <<< (e - target m e).toNat).log2 : ℤ) + (e - (e - target m e).toNat) < k
  omega

theorem within_pack_normalize {n : ℤ} {e k : ℤ} (h : n.natAbs.log2 + e < k) (s : Sign)
    (hleast : -1023 ≤ k) (hgreatest : k ≤ 971) :
    Within k (Float.Model.pack (UnpackedFloat.normalize Format.binary64 n e s)).unpack := by
  unfold UnpackedFloat.normalize
  split
  · next hneg =>
    have hneg := compare_lt_iff_lt.1 hneg
    refine within_pack_round _ _ ?_ hleast hgreatest
    rwa [show (-n).toNat = n.natAbs by omega]
  · exact (Within.zero s).pack hleast hgreatest
  · next hpos =>
    have hpos := compare_gt_iff_gt.1 hpos
    refine within_pack_round _ _ ?_ hleast hgreatest
    rwa [show n.toNat = n.natAbs by omega]

theorem lt_twoPow_of_log2_shiftLeft {k f : ℤ} (hf : f ≤ e) (h : m.log2 + e ≤ k) :
    m <<< (e - f).toNat < 2 ^ ((k - f).toNat + 1) := by
  rcases Nat.eq_zero_or_pos m with rfl | hm
  · rw [Nat.zero_shiftLeft]
    exact Nat.two_pow_pos _
  · have hne : m <<< (e - f).toNat ≠ 0 := by
      rw [Nat.shiftLeft_eq]
      positivity
    have := log2_shiftLeft m (e - f).toNat
    rw [← Nat.log2_lt hne]
    omega

theorem natAbs_apply_add_le (s t : Sign) (p q : ℕ) :
    (s.apply p + t.apply q).natAbs ≤ p + q := by
  cases s <;> cases t <;> simp only [Sign.apply] <;> omega

/-- A sum of two sizes needs one place more, and rounding it another one. -/
theorem Within.add {k : ℤ} (ha : Within k a) (hb : Within k b) (hleast : -1023 ≤ k)
    (hgreatest : k + 2 ≤ 971) :
    Within (k + 2) (Float.Model.pack (a.add Format.binary64 b)).unpack := by
  have hleast' : -1023 ≤ k + 2 := by omega
  cases ha with
  | zero s =>
    cases hb with
    | zero t =>
      unfold UnpackedFloat.add
      dsimp only
      split <;> exact (Within.zero _).pack hleast' hgreatest
    | finite t n f hn h => exact ((Within.finite t n f hn h).mono (by omega)).pack hleast' hgreatest
  | finite s m e hm h =>
    cases hb with
    | zero t => exact ((Within.finite s m e hm h).mono (by omega)).pack hleast' hgreatest
    | finite t n f hn h' =>
      refine within_pack_normalize ?_ _ hleast' hgreatest
      have hm' := lt_twoPow_of_log2_shiftLeft (min_le_left e f) h
      have hn' := lt_twoPow_of_log2_shiftLeft (min_le_right e f) h'
      have hsum := natAbs_apply_add_le s t (m <<< (e - min e f).toNat) (n <<< (f - min e f).toNat)
      have hpow : 2 ^ ((k - min e f).toNat + 2) = 2 * 2 ^ ((k - min e f).toNat + 1) :=
        pow_succ' 2 _
      have hlt : m <<< (e - min e f).toNat + n <<< (f - min e f).toNat <
          2 ^ ((k - min e f).toNat + 2) := by omega
      have hlog := log2_lt_of_lt (hsum.trans_lt hlt) (Nat.succ_pos _)
      show ((s.apply (m <<< (e - min e f).toNat : ℕ) +
        t.apply (n <<< (f - min e f).toNat : ℕ)).natAbs.log2 : ℤ) + min e f < k + 2
      omega

/-- Divided by a number, a size gains at most the places behind the point of that number. -/
theorem Within.div {k l : ℤ} (ha : Within k a) {s : Sign} {n : ℕ} {f : ℤ} {hn : 0 < n}
    (h : k - f < l) (hleast : -1023 ≤ l) (hgreatest : l ≤ 971) :
    Within l (Float.Model.pack (a.div Format.binary64 (.finite s n f hn))).unpack := by
  cases ha with
  | zero t => exact (Within.zero _).pack hleast hgreatest
  | finite t m e hm hsize =>
    refine within_pack_roundWithAccuracy _ _ _ ?_ hleast hgreatest
    have hquotient : ∀ j, ((m <<< j / n).log2 : ℤ) ≤ m.log2 + j := by
      intro j
      refine le_trans (Int.ofNat_le.2 ?_) (log2_shiftLeft m j)
      rcases Nat.eq_zero_or_pos (m <<< j / n) with hzero | hpos
      · rw [hzero, Nat.log2_zero]
        exact Nat.zero_le _
      · exact log2_mono hpos (Nat.div_le_self _ _)
    have hshift := hquotient (e - f - min (e - f) (Format.binary64.targetExponent
      (totalExponent m e - totalExponent n f))).toNat
    show ((m <<< (e - f - min (e - f) (Format.binary64.targetExponent
      (totalExponent m e - totalExponent n f))).toNat / n).log2 : ℤ) +
        min (e - f) (Format.binary64.targetExponent (totalExponent m e - totalExponent n f)) < _
    omega

theorem within_div {k l : ℤ} {n : ℕ} {f : ℤ} {hn : 0 < n}
    (hy : y.toModel.unpack = .finite .positive n f hn) (hx : Within k x.toModel.unpack)
    (h : k - f < l) (hleast : -1023 ≤ l) (hgreatest : l ≤ 971) :
    Within l (x / y).toModel.unpack := by
  rw [unpack_div, hy]
  exact hx.div h hleast hgreatest

/-! ## Bounds -/

/-- Between a number and its opposite, no size is beyond the places of that number. -/
theorem within_of_bounds {x : Float} {n : ℕ} {f : ℤ} {hn : 0 < n}
    (hlower : (UnpackedFloat.finite .negative n f hn).le x.toModel.unpack = true)
    (hupper : x.toModel.unpack.le (.finite .positive n f hn) = true) :
    Within (52 + f) x.toModel.unpack := by
  have hexponent : ∀ {m e}, ((compare e f).then (compare m n)).isLE = true → e ≤ f := by
    intro m e h
    rw [Ordering.isLE_then_iff_or, compare_lt_iff_lt, compare_eq_iff_eq] at h
    rcases h with h | ⟨h, -⟩ <;> omega
  cases ha : x.toModel.unpack with
  | notANumber => rw [ha] at hupper; cases hupper
  | infinity s =>
    rw [ha] at hlower hupper
    cases s with
    | positive => cases hupper
    | negative => cases hlower
  | zero s => exact .zero s
  | finite s m e hm =>
    have hmantissa : m.log2 < 53 := (Nat.log2_lt hm.ne').2 (canonical_of_unpack ha).1
    refine .finite s m e hm ?_
    rw [ha] at hlower hupper
    cases s with
    | positive =>
      have := hexponent (m := m) hupper
      omega
    | negative =>
      have hlower : ((compare f e).then (compare n m)).swap.isLE = true := hlower
      rw [Ordering.swap_then, Int.compare_swap, Nat.compare_swap] at hlower
      have := hexponent (m := m) hlower
      omega

/-- A number that is not negative and at most another has no more places. -/
theorem NotNegative.within {n : ℕ} {f : ℤ} {hn : 0 < n} (h : NotNegative x.toModel.unpack)
    (hupper : x.toModel.unpack.le (.finite .positive n f hn) = true) :
    Within (52 + f) x.toModel.unpack := by
  refine within_of_bounds ?_ hupper
  generalize x.toModel.unpack = a at h hupper
  cases h with
  | notANumber => cases hupper
  | infinity => rfl
  | zero s => rfl
  | finite m e hm => rfl

/-! ## Numbers -/

theorem normalize_ne_notANumber (n e : ℤ) (s : Sign) :
    UnpackedFloat.normalize format n e s ≠ .notANumber := by
  have hround : ∀ s m, UnpackedFloat.round format s m e ≠ .notANumber := by
    intro s m
    unfold UnpackedFloat.round roundWithAccuracy
    dsimp only
    split <;> simp
  unfold UnpackedFloat.normalize
  split
  · exact hround _ _
  · simp
  · exact hround _ _

/-- Finite numbers have a difference. -/
theorem sub_ne_notANumber (ha : a.isFinite = true) (hb : b.isFinite = true) :
    a.sub format b ≠ .notANumber := by
  cases a with
  | notANumber => cases ha
  | infinity s => cases ha
  | zero s =>
    cases b with
    | notANumber => cases hb
    | infinity t => cases hb
    | zero t =>
      unfold UnpackedFloat.sub
      dsimp only
      split <;> simp
    | finite t n f hn => simp [UnpackedFloat.sub]
  | finite s m e hm =>
    cases b with
    | notANumber => cases hb
    | infinity t => cases hb
    | zero t => simp [UnpackedFloat.sub]
    | finite t n f hn => exact normalize_ne_notANumber _ _ _

theorem div_ne_notANumber (ha : a ≠ .notANumber) {s : Sign} {n : ℕ} {f : ℤ} {hn : 0 < n} :
    a.div format (.finite s n f hn) ≠ .notANumber := by
  cases a with
  | notANumber => exact absurd rfl ha
  | infinity t => simp [UnpackedFloat.div]
  | zero t => simp [UnpackedFloat.div]
  | finite t m e hm =>
    unfold UnpackedFloat.div roundWithAccuracy
    dsimp only
    split <;> simp

theorem unpack_div_of_notANumber {x y : Float}
    (h : x.toModel.unpack = .notANumber ∨ y.toModel.unpack = .notANumber) :
    (x / y).toModel.unpack = .notANumber := by
  have hnone : x.toModel.unpack.div Format.binary64 y.toModel.unpack = .notANumber := by
    rcases h with h | h <;> rw [h]
    · rfl
    · cases x.toModel.unpack <;> simp [UnpackedFloat.div]
  rw [unpack_div, hnone]
  rfl

/-- What is packed stays a number, if only an infinite one. -/
theorem unpack_pack_ne_notANumber (ha : a ≠ .notANumber) :
    (Float.Model.pack a).unpack ≠ .notANumber := by
  cases a with
  | notANumber => exact absurd rfl ha
  | infinity s =>
    rw [unpack_infinity]
    simp
  | zero s =>
    rw [unpack_zero]
    simp
  | finite s m e hm =>
    rcases le_or_gt e 971 with he | he
    · have hwithin : Within (max (m.log2 + e) (-1023))
          (Float.Model.pack (.finite s m e hm)).unpack :=
        within_unpack_pack (le_max_left _ _) (le_max_right _ _) he
      intro hnone
      rw [hnone] at hwithin
      cases hwithin
    · rw [pack_of_lt he, unpack_infinity]
      simp

end Binary

end ShipEmissions
