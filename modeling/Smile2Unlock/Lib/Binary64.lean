/-
  Smile2Unlock.Lib.Binary64

  Doubles as real numbers.

  `Represents s u y` says that the unpacked double `u` is a number of the sign `s` and the
  magnitude `y`.  The operations of Lean's model of IEEE 754 compute a mantissa and an
  exponent, round them (`roundWithAccuracy`) and pack the result into 64 bits.
  `roundWithAccuracy_near` says what rounding gives: a number that is off by one unit in the
  last place at most.
-/

import Mathlib

namespace Lib.Binary64

open Float.Model Float.Model.UnpackedFloat

-- ============================================================================
-- Mantissas and exponents
-- ============================================================================

/-- The number with a mantissa and an exponent. -/
noncomputable def dyadic (m : Nat) (e : Int) : ℝ := m * 2 ^ e

theorem dyadic_nonneg (m : Nat) (e : Int) : 0 ≤ dyadic m e := by
  rw [dyadic]
  positivity

theorem dyadic_pos {m : Nat} (h : 0 < m) (e : Int) : 0 < dyadic m e := by
  rw [dyadic]
  positivity

theorem dyadic_le_dyadic {m n : Nat} (h : m ≤ n) (e : Int) : dyadic m e ≤ dyadic n e := by
  have hcast : (m : ℝ) ≤ n := Nat.cast_le.mpr h
  exact mul_le_mul_of_nonneg_right hcast (by positivity)

theorem dyadic_succ (m : Nat) (e : Int) : dyadic (m + 1) e = dyadic m e + 2 ^ e := by
  rw [dyadic, dyadic, Nat.cast_succ]
  ring

/-- Bits move between the two. -/
theorem dyadic_mul_pow (m k : Nat) (e : Int) : dyadic (m * 2 ^ k) e = dyadic m (e + k) := by
  rw [dyadic, dyadic, zpow_add₀ (by norm_num), Nat.cast_mul, Nat.cast_pow, zpow_natCast]
  push_cast
  ring

/-- The leading bit is a lower bound. -/
theorem pow_log2_le_dyadic {m : Nat} (h : 0 < m) (e : Int) :
    (2 : ℝ) ^ ((m.log2 : Int) + e) ≤ dyadic m e := by
  have hlog : ((2 ^ m.log2 : Nat) : ℝ) ≤ m := Nat.cast_le.mpr (Nat.log2_self_le h.ne')
  rw [zpow_add₀ (by norm_num), zpow_natCast, dyadic]
  push_cast at hlog
  exact mul_le_mul_of_nonneg_right hlog (by positivity)

/-- A mantissa after a shift to the left. -/
theorem pow_le_mul_pow {m k n : Nat} (hm : 0 < m) (h : n ≤ m.log2 + k) : 2 ^ n ≤ m * 2 ^ k := by
  refine le_trans (Nat.pow_le_pow_right (by decide) h) ?_
  rw [Nat.pow_add]
  exact Nat.mul_le_mul_right _ (Nat.log2_self_le hm.ne')

/-- A double: 53 bits, or fewer with the smallest exponent. -/
structure Canonical (m : Nat) (e : Int) : Prop where
  mantissa : m < 2 ^ 53
  smallest : -1074 ≤ e
  largest : e ≤ 971
  normal : 2 ^ 52 ≤ m ∨ e = -1074

/-- The exponent that rounding aims at. -/
def target (m : Nat) (e : Int) : Int := max (m.log2 + e - 52) (-1074)

theorem targetExponent_eq (m : Nat) (e : Int) :
    Format.binary64.targetExponent (totalExponent m e) = target m e := by
  simp only [Format.targetExponent, totalExponent, Format.mantissaBits, Format.minExponent, target]
  norm_num
  congr 1
  omega

/-- No bit of a short mantissa is dropped. -/
theorem target_le {m : Nat} {e : Int} (h : m < 2 ^ 53) (he : -1074 ≤ e) : target m e ≤ e := by
  have hlog : m.log2 < 53 := by
    by_cases hm : m = 0
    · rw [hm]
      decide
    · exact (Nat.log2_lt hm).mpr h
  rw [target]
  omega

/-- Nothing has to be shifted to the left if there are 53 bits, or the smallest exponent. -/
theorem le_target {m : Nat} {e : Int} (h : 2 ^ 52 ≤ m ∨ e ≤ -1074) : e ≤ target m e := by
  rw [target]
  rcases h with hbits | hsmall
  · have hlog := (Nat.le_log2 (by omega)).mpr hbits
    omega
  · omega

/-- A number below `2 ^ 1000` is rounded to an exponent that fits. -/
theorem target_le_of_le {m : Nat} {e : Int} {y : ℝ} (he : e ≤ target m e) (hy : dyadic m e ≤ y)
    (hmax : y ≤ 2 ^ (1000 : Int)) : target m e ≤ 970 := by
  by_cases hm : m = 0
  · subst hm
    rw [target, show (0 : Nat).log2 = 0 from rfl] at he ⊢
    omega
  · have hlead := pow_log2_le_dyadic (Nat.pos_of_ne_zero hm) e
    have hpow : (2 : ℝ) ^ ((m.log2 : Int) + e) ≤ 2 ^ (1000 : Int) := by linarith
    have hexp := (zpow_le_zpow_iff_right₀ (by norm_num)).mp hpow
    rw [target]
    omega

-- ============================================================================
-- Orders of magnitude
-- ============================================================================

theorem mul_le_pow {x y : ℝ} {i j : Int} (hx : 0 ≤ x) (hy : 0 ≤ y) (hi : x ≤ 2 ^ i)
    (hj : y ≤ 2 ^ j) : x * y ≤ 2 ^ (i + j) := by
  rw [zpow_add₀ (by norm_num)]
  exact mul_le_mul hi hj hy (le_trans hx hi)

theorem pow_le_mul {x y : ℝ} {i j : Int} (hi : 2 ^ i ≤ x) (hj : 2 ^ j ≤ y) :
    2 ^ (i + j) ≤ x * y := by
  rw [zpow_add₀ (by norm_num)]
  exact mul_le_mul hi hj (by positivity) (le_trans (by positivity) hi)

theorem div_le_pow {x y : ℝ} {i j : Int} (hi : x ≤ 2 ^ i) (hj : 2 ^ j ≤ y) :
    x / y ≤ 2 ^ (i - j) := by
  have hy : 0 < y := lt_of_lt_of_le (by positivity) hj
  rw [div_le_iff₀ hy]
  have hscaled : (2 : ℝ) ^ (i - j + j) ≤ 2 ^ (i - j) * y := pow_le_mul (le_refl _) hj
  rw [sub_add_cancel] at hscaled
  exact le_trans hi hscaled

theorem pow_le_div {x y : ℝ} {i j : Int} (hy : 0 < y) (hi : 2 ^ i ≤ x) (hj : y ≤ 2 ^ j) :
    2 ^ (i - j) ≤ x / y := by
  rw [le_div_iff₀ hy]
  have hscaled : 2 ^ (i - j) * y ≤ (2 : ℝ) ^ (i - j + j) :=
    mul_le_pow (by positivity) hy.le (le_refl _) hj
  rw [sub_add_cancel] at hscaled
  exact le_trans hscaled hi

-- ============================================================================
-- Rounding
-- ============================================================================

/-- Shifting drops the low bits. -/
theorem mantissa_shiftRight (em : ExtendedMantissa) (k : Nat) :
    (em >>> k).mantissa = em.mantissa / 2 ^ k := by
  show (Nat.repeat ExtendedMantissa.shiftRightOne k em).mantissa = _
  induction k with
  | zero => rw [Nat.repeat, Nat.pow_zero, Nat.div_one]
  | succ k ih => rw [Nat.repeat, ExtendedMantissa.shiftRightOne, ih, Nat.div_div_eq_div_mul, Nat.pow_succ]

/-- Rounding moves a mantissa up by one at most. -/
theorem roundedMantissa_le (em : ExtendedMantissa) :
    em.mantissa ≤ em.roundedMantissa ∧ em.roundedMantissa ≤ em.mantissa + 1 := by
  rw [ExtendedMantissa.roundedMantissa]
  cases em.accuracy with
  | exact => exact ⟨Nat.le_refl _, Nat.le_succ _⟩
  | inexact order =>
      cases order with
      | lt => exact ⟨Nat.le_refl _, Nat.le_succ _⟩
      | eq =>
          rw [Accuracy.roundToNearestEven]
          omega
      | gt => exact ⟨Nat.le_succ _, Nat.le_refl _⟩

theorem shiftToTargetExponent_eq (m : Nat) (e : Int) (acc : Accuracy) :
    (shiftToTargetExponent Format.binary64 m e acc).1.mantissa = m / 2 ^ (target m e - e).toNat ∧
    (shiftToTargetExponent Format.binary64 m e acc).2 = e + (target m e - e).toNat := by
  rw [shiftToTargetExponent, targetExponent_eq, shiftToExponent]
  refine ⟨?_, rfl⟩
  simp only [mantissa_shiftRight]
  cases acc with
  | exact => rfl
  | inexact order => cases order <;> rfl

/-- The mantissa after the first shift: 53 bits, or fewer at the smallest exponent. -/
theorem div_target_lt (m : Nat) (e : Int) : m / 2 ^ (target m e - e).toNat < 2 ^ 53 := by
  rw [Nat.div_lt_iff_lt_mul (by positivity), ← Nat.pow_add]
  have hexp : m.log2 + 1 ≤ 53 + (target m e - e).toNat := by
    rw [target]
    omega
  exact lt_of_lt_of_le Nat.lt_log2_self (Nat.pow_le_pow_right (by decide) hexp)

theorem le_div_target {m : Nat} {e : Int} (he : e ≤ target m e) (h : target m e ≠ -1074) :
    2 ^ 52 ≤ m / 2 ^ (target m e - e).toNat := by
  rw [target] at h he
  have hm : m ≠ 0 := by
    intro hm
    rw [hm, show (0 : Nat).log2 = 0 from rfl] at h he
    omega
  rw [Nat.le_div_iff_mul_le (by positivity), ← Nat.pow_add]
  have hexp : 52 + (target m e - e).toNat ≤ m.log2 := by
    rw [target]
    omega
  exact le_trans (Nat.pow_le_pow_right (by decide) hexp) (Nat.log2_self_le hm)

/-- The second shift: a mantissa that rounding made one bit too long loses a zero. -/
theorem carry_canonical {r : Nat} {e : Int} (hr : r ≤ 2 ^ 53) (hlow : -1074 ≤ e) (hhigh : e ≤ 970)
    (hnormal : 2 ^ 52 ≤ r ∨ e = -1074) :
    Canonical (r / 2 ^ (target r e - e).toNat) (e + (target r e - e).toNat) ∧
    dyadic (r / 2 ^ (target r e - e).toNat) (e + (target r e - e).toNat) = dyadic r e := by
  by_cases hlt : r < 2 ^ 53
  · have hzero : (target r e - e).toNat = 0 := by
      have := target_le hlt hlow
      omega
    rw [hzero, Nat.pow_zero, Nat.div_one, Nat.cast_zero, add_zero]
    exact ⟨⟨hlt, hlow, by omega, hnormal⟩, rfl⟩
  · have hfull : r = 2 ^ 52 * 2 ^ 1 := by omega
    have hone : (target r e - e).toNat = 1 := by
      rw [target, hfull, show (2 ^ 52 * 2 ^ 1 : Nat).log2 = 53 from by decide]
      omega
    rw [hone, hfull, Nat.mul_div_cancel _ (by decide), dyadic_mul_pow]
    exact ⟨⟨by decide, by omega, by push_cast; omega, Or.inl (Nat.le_refl _)⟩, rfl⟩

/-- A number of a sign and a magnitude; zeros of both signs count. -/
inductive Represents (s : Sign) : UnpackedFloat → ℝ → Prop where
  | zero (t : Sign) : Represents s (.zero t) 0
  | finite {m : Nat} {e : Int} (h : 0 < m) (canonical : Canonical m e) :
      Represents s (.finite s m e h) (dyadic m e)

theorem Represents.nonneg {s : Sign} {u : UnpackedFloat} {y : ℝ} (h : Represents s u y) : 0 ≤ y := by
  cases h with
  | zero t => exact le_refl 0
  | finite h canonical => exact dyadic_nonneg _ _

/-- `roundWithAccuracy` takes the mantissa of the first shift, or the one above. -/
theorem roundWithAccuracy_represents (s : Sign) {m : Nat} {e : Int} (acc : Accuracy)
    (he : e ≤ target m e) (hmax : target m e ≤ 970) :
    ∃ r, m / 2 ^ (target m e - e).toNat ≤ r ∧ r ≤ m / 2 ^ (target m e - e).toNat + 1 ∧
      Represents s (roundWithAccuracy Format.binary64 s m e acc) (dyadic r (target m e)) := by
  obtain ⟨hmantissa, hexponent⟩ := shiftToTargetExponent_eq m e acc
  have hround := roundedMantissa_le (shiftToTargetExponent Format.binary64 m e acc).1
  rw [hmantissa] at hround
  rw [Int.toNat_of_nonneg (by omega), show e + (target m e - e) = target m e by omega] at hexponent
  refine ⟨_, hround.1, hround.2, ?_⟩
  rw [roundWithAccuracy]
  generalize shiftToTargetExponent Format.binary64 m e acc = first at *
  obtain ⟨em, e₁⟩ := first
  dsimp only at *
  subst hexponent
  have hlt := div_target_lt m e
  have hcarry := carry_canonical (r := em.roundedMantissa) (e := target m e) (by omega)
    (le_max_right _ _) hmax (by
      by_cases h : target m e = -1074
      · exact Or.inr h
      · exact Or.inl (le_trans (le_div_target he h) hround.1))
  obtain ⟨hmantissa₂, hexponent₂⟩ := shiftToTargetExponent_eq em.roundedMantissa (target m e) .exact
  rw [← hmantissa₂, ← hexponent₂] at hcarry
  rw [← hcarry.2]
  split
  · rename_i hzero
    rw [hzero, dyadic, Nat.cast_zero, zero_mul]
    exact .zero s
  · exact .finite _ hcarry.1

/-- The rounding error of an operation. -/
def Near (q y : ℝ) : Prop := |q - y| ≤ 2 ^ (-52 : Int) * y + 2 ^ (-1074 : Int)

theorem near_self {y : ℝ} (h : 0 ≤ y) : Near y y := by
  rw [Near, sub_self, abs_zero]
  positivity

/-- Away from the subnormal numbers the error is a relative one. -/
theorem Near.relative {q y : ℝ} {i : Int} (h : Near q y) (hlow : 2 ^ i ≤ y) (hi : -1000 ≤ i) :
    (1 - 2 ^ (-51 : Int)) * y ≤ q ∧ q ≤ (1 + 2 ^ (-51 : Int)) * y := by
  have hy : (2 : ℝ) ^ (-1000 : Int) ≤ y := le_trans (zpow_le_zpow_right₀ (by norm_num) hi) hlow
  have hsmall : (2 : ℝ) ^ (-1074 : Int) ≤ 2 ^ (-52 : Int) * y := by
    calc (2 : ℝ) ^ (-1074 : Int) ≤ 2 ^ (-1052 : Int) := zpow_le_zpow_right₀ (by norm_num) (by norm_num)
      _ = 2 ^ (-52 : Int) * 2 ^ (-1000 : Int) := by rw [← zpow_add₀ (by norm_num)]; norm_num
      _ ≤ 2 ^ (-52 : Int) * y := mul_le_mul_of_nonneg_left hy (by positivity)
  have hdouble : (2 : ℝ) ^ (-51 : Int) * y = 2 ^ (-52 : Int) * y + 2 ^ (-52 : Int) * y := by
    rw [show (-51 : Int) = 1 + -52 by norm_num, zpow_add₀ (by norm_num)]
    ring
  obtain ⟨hbelow, habove⟩ := abs_le.mp h
  constructor <;> linarith

/-- Rounding leaves the order of magnitude. -/
theorem Near.magnitude {q y : ℝ} {i j : Int} (h : Near q y) (hlow : 2 ^ i ≤ y) (hhigh : y ≤ 2 ^ j)
    (hi : -1000 ≤ i) : 2 ^ (i - 1) ≤ q ∧ q ≤ 2 ^ (j + 1) := by
  obtain ⟨hq, hq'⟩ := h.relative hlow hi
  have hpos : 0 ≤ y := le_trans (by positivity) hlow
  have hhalf : (2 : ℝ) ^ (-51 : Int) * 2 ≤ 1 := by norm_num
  have hulp : (2 : ℝ) ^ (-51 : Int) * 2 * y ≤ 1 * y := mul_le_mul_of_nonneg_right hhalf hpos
  have hpred : (2 : ℝ) ^ i = 2 ^ (i - 1) * 2 := by rw [← zpow_add_one₀ (by norm_num), sub_add_cancel]
  have hsucc : (2 : ℝ) ^ (j + 1) = 2 ^ j * 2 := zpow_add_one₀ (by norm_num) j
  generalize (2 : ℝ) ^ (-51 : Int) = δ at *
  constructor <;> linarith

/-- One unit of the target exponent is one of the last of 53 bits, or of the smallest. -/
theorem pow_target_le {m : Nat} {e : Int} {y : ℝ} (he : e ≤ target m e) (hlow : dyadic m e ≤ y) :
    (2 : ℝ) ^ target m e ≤ 2 ^ (-52 : Int) * y + 2 ^ (-1074 : Int) := by
  have hy : 0 ≤ y := le_trans (dyadic_nonneg m e) hlow
  by_cases hsmall : target m e = -1074
  · rw [hsmall]
    have hprod : (0 : ℝ) ≤ 2 ^ (-52 : Int) * y := by positivity
    linarith
  · have hm : m ≠ 0 := by
      intro hm
      rw [hm, target, show (0 : Nat).log2 = 0 from rfl] at hsmall he
      omega
    have hlead := pow_log2_le_dyadic (Nat.pos_of_ne_zero hm) e
    have htarget : target m e = -52 + ((m.log2 : Int) + e) := by
      rw [target] at hsmall ⊢
      omega
    rw [htarget, zpow_add₀ (by norm_num)]
    have hscaled : (2 : ℝ) ^ (-52 : Int) * 2 ^ ((m.log2 : Int) + e) ≤ 2 ^ (-52 : Int) * y :=
      mul_le_mul_of_nonneg_left (le_trans hlead hlow) (by positivity)
    have hmin : (0 : ℝ) < 2 ^ (-1074 : Int) := by positivity
    linarith

/-- Neighbours of the exponent `e` lie between neighbours of the target exponent. -/
theorem between_target {m : Nat} {e : Int} {y : ℝ} (he : e ≤ target m e) (hlow : dyadic m e ≤ y)
    (hhigh : y ≤ dyadic (m + 1) e) :
    dyadic (m / 2 ^ (target m e - e).toNat) (target m e) ≤ y ∧
      y ≤ dyadic (m / 2 ^ (target m e - e).toNat + 1) (target m e) := by
  have hexp : e + (target m e - e).toNat = target m e := by omega
  have hpos : 0 < 2 ^ (target m e - e).toNat := by positivity
  constructor
  · refine le_trans ?_ hlow
    rw [← hexp, ← dyadic_mul_pow, hexp]
    exact dyadic_le_dyadic (Nat.div_mul_le_self _ _) e
  · refine le_trans hhigh ?_
    rw [← hexp, ← dyadic_mul_pow, hexp, Nat.mul_comm]
    exact dyadic_le_dyadic (Nat.lt_mul_div_succ m hpos) e

/-- A result between two neighbours of the exponent `e`, rounded. -/
theorem roundWithAccuracy_near (s : Sign) {m : Nat} {e : Int} {y : ℝ} (acc : Accuracy)
    (he : e ≤ target m e) (hlow : dyadic m e ≤ y) (hhigh : y ≤ dyadic (m + 1) e)
    (hmax : y ≤ 2 ^ (1000 : Int)) :
    ∃ q, Represents s (roundWithAccuracy Format.binary64 s m e acc) q ∧ Near q y := by
  obtain ⟨r, hr, hr', hrep⟩ := roundWithAccuracy_represents s acc he (target_le_of_le he hlow hmax)
  refine ⟨_, hrep, le_trans ?_ (pow_target_le he hlow)⟩
  -- the result and `y` are between the same neighbours
  obtain ⟨hfloor, hceil⟩ := between_target he hlow hhigh
  have hbelow := dyadic_le_dyadic hr (target m e)
  have habove := dyadic_le_dyadic hr' (target m e)
  rw [dyadic_succ] at habove hceil
  rw [abs_le]
  constructor <;> linarith

theorem log2_mul_pow {m : Nat} (h : 0 < m) (k : Nat) : (m * 2 ^ k).log2 = m.log2 + k := by
  induction k with
  | zero => rw [Nat.pow_zero, Nat.mul_one, Nat.add_zero]
  | succ k ih =>
      have hpos : m * 2 ^ k ≠ 0 := by positivity
      rw [Nat.pow_succ, ← Nat.mul_assoc, Nat.mul_comm, Nat.log2_two_mul hpos, ih, Nat.add_assoc]

/-- `decreaseExponent` keeps the number. -/
theorem dyadic_decreaseExponent (m : Nat) (e t : Int) :
    dyadic (decreaseExponent m e t).1 (decreaseExponent m e t).2 = dyadic m e := by
  rw [decreaseExponent, Nat.shiftLeft_eq, dyadic_mul_pow]
  congr 1
  omega

theorem round_near (s : Sign) {m : Nat} {e : Int} (hm : 0 < m)
    (hmax : dyadic m e ≤ 2 ^ (1000 : Int)) :
    ∃ q, Represents s (UnpackedFloat.round Format.binary64 s m e) q ∧ Near q (dyadic m e) := by
  rw [UnpackedFloat.round, targetExponent_eq]
  have hvalue := dyadic_decreaseExponent m e (target m e)
  have htarget : (decreaseExponent m e (target m e)).2 ≤
      target (decreaseExponent m e (target m e)).1 (decreaseExponent m e (target m e)).2 := by
    simp only [decreaseExponent, Nat.shiftLeft_eq, target]
    rw [log2_mul_pow hm]
    omega
  refine roundWithAccuracy_near s .exact htarget (le_of_eq hvalue) ?_ hmax
  rw [← hvalue]
  exact dyadic_le_dyadic (Nat.le_succ _) _

-- ============================================================================
-- Packing
-- ============================================================================

/-- The implicit bit in front of those that are stored. -/
theorem toNat_implicit {w : Nat} (m : BitVec w) : (1#1 ++ m).toNat = 2 ^ w + m.toNat := by
  rw [BitVec.toNat_append, ← Nat.shiftLeft_add_eq_or_of_lt m.isLt, Nat.shiftLeft_eq]
  simp

/-- A biased exponent below the one of the infinities. -/
theorem toNat_lt_of_ne {w : Nat} {e : BitVec w} (h : e ≠ -1#_) : e.toNat + 1 < 2 ^ w := by
  have hlt := e.isLt
  have hne : e.toNat ≠ 2 ^ w - 1 := by
    intro heq
    apply h
    rw [BitVec.neg_one_eq_allOnes]
    exact BitVec.eq_of_toNat_eq (heq.trans BitVec.toNat_allOnes.symm)
  omega

theorem unpack_packComponents_normal {spec : Format} (s : Sign) {e : BitVec spec.exponentBits}
    (m : BitVec spec.mantissaBitsWithoutImplicit) (hmax : e ≠ -1#_) (hmin : e ≠ 0#_) :
    UnpackedFloat.unpack spec (packComponents spec s e m) = .finite s
      (2 ^ spec.mantissaBitsWithoutImplicit + m.toNat)
      (e.toNat - (spec.exponentBias + spec.mantissaBitsWithoutImplicit))
      (Nat.add_pos_left (Nat.two_pow_pos _) _) := by
  rw [UnpackedFloat.unpack]
  simp only [unpackMantissa_packComponents, unpackExponent_packComponents,
    unpackSign_packComponents, Sign.ofBitVec_toBitVec, if_neg hmax, if_neg hmin, toNat_implicit]

theorem unpack_packComponents_subnormal {spec : Format} (s : Sign)
    {m : BitVec spec.mantissaBitsWithoutImplicit} (hspec : (0#_ : BitVec spec.exponentBits) ≠ -1#_)
    (hm : 0 < m.toNat) :
    UnpackedFloat.unpack spec (packComponents spec s 0#_ m) = .finite s m.toNat
      (1 - (spec.exponentBias + spec.mantissaBitsWithoutImplicit)) hm := by
  have hne : m ≠ 0#_ := by
    intro h
    rw [h, BitVec.toNat_zero] at hm
    omega
  rw [UnpackedFloat.unpack]
  simp only [unpackMantissa_packComponents, unpackExponent_packComponents,
    unpackSign_packComponents, Sign.ofBitVec_toBitVec, if_neg hspec, if_pos, dif_neg hne,
    BitVec.toNat_zero]
  congr 1
  push_cast
  omega

/-- `pack`, with the widths of the format. -/
theorem pack_finite_eq (s : Sign) {m : Nat} (e : Int) (h : 0 < m) :
    UnpackedFloat.pack Format.binary64 (.finite s m e h) =
      if 2 ^ 11 ≤ (e + 1075).toNat + 1 then packedInfinity Format.binary64 s
      else if m.log2 + 1 = 53 then
        packComponents Format.binary64 s (BitVec.ofNat 11 (e + 1075).toNat) (BitVec.ofNat 52 m)
      else packComponents Format.binary64 s 0#11 (BitVec.ofNat 52 m) := by
  have hbiased : (e + (1023 : Nat) + (52 : Nat)).toNat = (e + 1075).toNat := by omega
  rw [← hbiased]
  rfl

theorem unpack_pack_normal (s : Sign) {m : Nat} {e : Int} (h : 0 < m) (hc : Canonical m e)
    (hm : 2 ^ 52 ≤ m) :
    UnpackedFloat.unpack Format.binary64 (UnpackedFloat.pack Format.binary64 (.finite s m e h)) =
      .finite s m e h := by
  obtain ⟨hmantissa, hsmallest, hlargest, -⟩ := hc
  have hbias : Format.binary64.exponentBias = 1023 := rfl
  have hlog : m.log2 + 1 = 53 := by
    have hlow := (Nat.le_log2 h.ne').mpr hm
    have hhigh := (Nat.log2_lt h.ne').mpr hmantissa
    omega
  have hexponent : (BitVec.ofNat 11 (e + 1075).toNat).toNat = (e + 1075).toNat := by
    rw [BitVec.toNat_ofNat, Nat.mod_eq_of_lt (by omega)]
  have hstored : (BitVec.ofNat 52 m).toNat = m - 2 ^ 52 := by
    rw [BitVec.toNat_ofNat]
    omega
  have hmax : BitVec.ofNat 11 (e + 1075).toNat ≠ -1#11 := by
    intro heq
    rw [heq, show (-1#11 : BitVec 11).toNat = 2047 from rfl] at hexponent
    omega
  have hmin : BitVec.ofNat 11 (e + 1075).toNat ≠ 0#11 := by
    intro heq
    rw [heq, show (0#11 : BitVec 11).toNat = 0 from rfl] at hexponent
    omega
  rw [pack_finite_eq, if_neg (by omega), if_pos hlog]
  refine (unpack_packComponents_normal s _ hmax hmin).trans ?_
  simp only [finite.injEq, true_and, hbias]
  refine ⟨by rw [hstored]; omega, ?_⟩
  rw [hexponent]
  push_cast
  omega

theorem unpack_pack_subnormal (s : Sign) {m : Nat} (h : 0 < m) (hm : m < 2 ^ 52) :
    UnpackedFloat.unpack Format.binary64
      (UnpackedFloat.pack Format.binary64 (.finite s m (-1074) h)) = .finite s m (-1074) h := by
  have hbias : Format.binary64.exponentBias = 1023 := rfl
  have hlog : ¬ m.log2 + 1 = 53 := by
    have hhigh := (Nat.log2_lt h.ne').mpr hm
    omega
  have hstored : (BitVec.ofNat 52 m).toNat = m := by
    rw [BitVec.toNat_ofNat, Nat.mod_eq_of_lt hm]
  rw [pack_finite_eq, if_neg (by decide), if_neg hlog]
  refine (unpack_packComponents_subnormal s (by decide) (by rw [hstored]; exact h)).trans ?_
  simp only [finite.injEq, true_and, hbias]
  exact ⟨hstored, rfl⟩

/-- The bits of a double are those of its mantissa and exponent. -/
theorem unpack_pack_finite (s : Sign) {m : Nat} {e : Int} (h : 0 < m) (hc : Canonical m e) :
    UnpackedFloat.unpack Format.binary64 (UnpackedFloat.pack Format.binary64 (.finite s m e h)) =
      .finite s m e h := by
  by_cases hm : 2 ^ 52 ≤ m
  · exact unpack_pack_normal s h hc hm
  · have hsmall := hc.normal.resolve_left hm
    subst hsmall
    exact unpack_pack_subnormal s h (Nat.lt_of_not_le hm)

theorem Represents.unpack_pack {s : Sign} {u : UnpackedFloat} {y : ℝ} (h : Represents s u y) :
    UnpackedFloat.unpack Format.binary64 (UnpackedFloat.pack Format.binary64 u) = u := by
  cases h with
  | zero t => exact unpack_packedZero
  | finite h canonical => exact unpack_pack_finite s h canonical

end Lib.Binary64
