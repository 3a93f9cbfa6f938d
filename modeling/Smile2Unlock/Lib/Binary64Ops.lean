/-
  Smile2Unlock.Lib.Binary64Ops

  The operations on `Float` against those on the real numbers.

  Each operation has one theorem with its error (`Near`), as long as nothing overflows;
  comparisons are exact.
-/

import Smile2Unlock.Lib.Binary64

namespace Lib.Binary64

open Float.Model Float.Model.UnpackedFloat

-- ============================================================================
-- The operations
-- ============================================================================

/-- A double is a number of a sign and a magnitude. -/
def IsNumber (s : Sign) (x : Float) (y : ℝ) : Prop := Represents s x.toModel.unpack y

theorem Represents.isNumber {s : Sign} {u : UnpackedFloat} {y : ℝ} (h : Represents s u y) :
    IsNumber s (.ofModel (.pack u)) y := by
  show Represents s (UnpackedFloat.unpack Format.binary64 (UnpackedFloat.pack Format.binary64 u)) y
  rw [h.unpack_pack]
  exact h

/-- The result of an operation, packed. -/
theorem exists_isNumber {s : Sign} {u : UnpackedFloat} {y : ℝ}
    (h : ∃ r, Represents s u r ∧ Near r y) : ∃ r, IsNumber s (.ofModel (.pack u)) r ∧ Near r y := by
  obtain ⟨r, hr, hnear⟩ := h
  exact ⟨r, hr.isNumber, hnear⟩

theorem dyadic_mul (m n : Nat) (e f : Int) : dyadic m e * dyadic n f = dyadic (m * n) (e + f) := by
  rw [dyadic, dyadic, dyadic, zpow_add₀ (by norm_num), Nat.cast_mul]
  ring

theorem le_target_mul {m n : Nat} {e f : Int} (hm : Canonical m e) (hn : Canonical n f)
    (hpos : 0 < m) (hpos' : 0 < n) : e + f ≤ target (m * n) (e + f) := by
  by_cases hbits : 2 ^ 52 ≤ m * n
  · exact le_target (.inl hbits)
  · -- both are subnormal
    have he : e = -1074 := hm.normal.resolve_left fun h =>
      hbits (le_trans h (Nat.le_mul_of_pos_right m hpos'))
    have hf : f = -1074 := hn.normal.resolve_left fun h =>
      hbits (le_trans h (Nat.le_mul_of_pos_left n hpos))
    exact le_target (.inr (by omega))

theorem IsNumber.mul {s t : Sign} {x y : Float} {p q : ℝ} (hx : IsNumber s x p)
    (hy : IsNumber t y q) (hmax : p * q ≤ 2 ^ (1000 : Int)) :
    ∃ r, IsNumber (s * t) (x * y) r ∧ Near r (p * q) := by
  refine exists_isNumber (u := UnpackedFloat.mul Format.binary64 x.toModel.unpack y.toModel.unpack) ?_
  rw [IsNumber] at hx hy
  generalize x.toModel.unpack = u, y.toModel.unpack = v at *
  cases hx with
  | zero =>
      rw [zero_mul]
      cases hy with
      | zero => exact ⟨0, .zero _, near_self (le_refl 0)⟩
      | finite => exact ⟨0, .zero _, near_self (le_refl 0)⟩
  | finite hm hcm =>
      cases hy with
      | zero =>
          rw [mul_zero]
          exact ⟨0, .zero _, near_self (le_refl 0)⟩
      | finite hn hcn =>
          rw [dyadic_mul] at hmax ⊢
          exact roundWithAccuracy_near _ .exact (le_target_mul hcm hcn hm hn) (le_refl _)
            (dyadic_le_dyadic (Nat.le_succ _) _) hmax

/-- The sum of two mantissas at the smaller exponent. -/
theorem dyadic_add (m n : Nat) (e f : Int) :
    dyadic m e + dyadic n f =
      dyadic ((decreaseExponent m e (min e f)).1 + (decreaseExponent n f (min e f)).1)
        (min e f) := by
  have hm := dyadic_decreaseExponent m e (min e f)
  have hn := dyadic_decreaseExponent n f (min e f)
  rw [show (decreaseExponent m e (min e f)).2 = min e f by rw [decreaseExponent]; omega] at hm
  rw [show (decreaseExponent n f (min e f)).2 = min e f by rw [decreaseExponent]; omega] at hn
  rw [← hm, ← hn, dyadic, dyadic, dyadic, Nat.cast_add]
  ring

theorem normalize_of_pos {n : Nat} (h : 0 < n) (e : Int) :
    normalize Format.binary64 n e .positive = UnpackedFloat.round Format.binary64 .positive n e := by
  have hgt : compare (n : Int) 0 = .gt := Int.compare_eq_gt.mpr (by omega)
  rw [UnpackedFloat.normalize, hgt]
  rfl

theorem IsNumber.add {x y : Float} {p q : ℝ} (hx : IsNumber .positive x p)
    (hy : IsNumber .positive y q) (hmax : p + q ≤ 2 ^ (1000 : Int)) :
    ∃ r, IsNumber .positive (x + y) r ∧ Near r (p + q) := by
  refine exists_isNumber (u := UnpackedFloat.add Format.binary64 x.toModel.unpack y.toModel.unpack) ?_
  rw [IsNumber] at hx hy
  generalize x.toModel.unpack = u, y.toModel.unpack = v at *
  cases hx with
  | zero t =>
      rw [zero_add]
      cases hy with
      | zero t' =>
          refine ⟨0, ?_, near_self (le_refl 0)⟩
          rw [UnpackedFloat.add]
          split <;> exact .zero _
      | finite hn hcn => exact ⟨_, .finite hn hcn, near_self (dyadic_nonneg _ _)⟩
  | @finite m e hm hcm =>
      cases hy with
      | zero t =>
          rw [add_zero]
          exact ⟨_, .finite hm hcm, near_self (dyadic_nonneg _ _)⟩
      | @finite n f hn hcn =>
          rw [dyadic_add] at hmax ⊢
          have hpos : 0 < (decreaseExponent n f (min e f)).1 := by
            rw [decreaseExponent, Nat.shiftLeft_eq]
            exact Nat.mul_pos hn (Nat.two_pow_pos _)
          have hround := round_near .positive (Nat.add_pos_right _ hpos) hmax
          rw [← normalize_of_pos (Nat.add_pos_right _ hpos)] at hround
          exact hround

theorem targetExponent_binary64 (k : Int) :
    Format.binary64.targetExponent k = max (k - 53) (-1074) := rfl

/-- The quotient of two mantissas at the exponent of `divCore` has 53 bits at least. -/
theorem divCore_bounds {m n : Nat} {e f : Int} (hm : 0 < m) (hn : 0 < n) :
    (divCore Format.binary64 m e n f).2.1 ≤
      target (divCore Format.binary64 m e n f).1 (divCore Format.binary64 m e n f).2.1 ∧
    dyadic (divCore Format.binary64 m e n f).1 (divCore Format.binary64 m e n f).2.1 ≤
      dyadic m e / dyadic n f ∧
    dyadic m e / dyadic n f ≤
      dyadic ((divCore Format.binary64 m e n f).1 + 1) (divCore Format.binary64 m e n f).2.1 := by
  rw [divCore]
  simp only [targetExponent_binary64, totalExponent, Nat.shiftLeft_eq]
  generalize ht : min (e - f) (max (m.log2 + 1 + e - (n.log2 + 1 + f) - 53) (-1074)) = t
  obtain ⟨k, hk⟩ : ∃ k, (e - f - t).toNat = k := ⟨_, rfl⟩
  have hexp : e - f = t + k := by omega
  rw [hk]
  refine ⟨?_, ?_⟩
  · by_cases hsmall : t ≤ -1074
    · exact le_target (.inr hsmall)
    · -- the dividend is 53 bits longer than the divisor
      have hdividend : 2 ^ (53 + n.log2) ≤ m * 2 ^ k := pow_le_mul_pow hm (by omega)
      have hquotient : 2 ^ 52 ≤ m * 2 ^ k / n := by
        rw [Nat.le_div_iff_mul_le hn]
        have hdivisor : n ≤ 2 ^ (n.log2 + 1) := Nat.le_of_lt Nat.lt_log2_self
        refine le_trans (Nat.mul_le_mul_left _ hdivisor) (le_of_eq_of_le ?_ hdividend)
        rw [← Nat.pow_add]
        congr 1
        omega
      exact le_target (.inl hquotient)
  · -- both sides over the divisor are numbers of the exponent `t`
    have hvalue : dyadic m e / dyadic n f = ((m * 2 ^ k : Nat) : ℝ) / n * 2 ^ t := by
      have hcast : (0 : ℝ) < n := Nat.cast_pos.mpr hn
      rw [dyadic, dyadic, show e = t + k + f by omega, zpow_add₀ (by norm_num),
        zpow_add₀ (by norm_num), zpow_natCast]
      push_cast
      field_simp
    rw [hvalue, dyadic, dyadic]
    constructor
    · exact mul_le_mul_of_nonneg_right Nat.cast_div_le (by positivity)
    · refine mul_le_mul_of_nonneg_right ?_ (by positivity)
      rw [div_le_iff₀ (Nat.cast_pos.mpr hn), ← Nat.cast_mul]
      exact Nat.cast_le.mpr ((Nat.lt_mul_div_succ _ hn).le.trans_eq (Nat.mul_comm _ _))

theorem IsNumber.div {s t : Sign} {x y : Float} {p q : ℝ} (hx : IsNumber s x p)
    (hy : IsNumber t y q) (hq : 0 < q) (hmax : p / q ≤ 2 ^ (1000 : Int)) :
    ∃ r, IsNumber (s / t) (x / y) r ∧ Near r (p / q) := by
  refine exists_isNumber (u := UnpackedFloat.div Format.binary64 x.toModel.unpack y.toModel.unpack) ?_
  rw [IsNumber] at hx hy
  generalize x.toModel.unpack = u, y.toModel.unpack = v at *
  cases hy with
  | zero => exact absurd hq (lt_irrefl 0)
  | finite hn hcn =>
      cases hx with
      | zero =>
          rw [zero_div]
          exact ⟨0, .zero _, near_self (le_refl 0)⟩
      | finite hm hcm =>
          obtain ⟨htarget, hlow, hhigh⟩ := divCore_bounds hm hn
          exact roundWithAccuracy_near _ _ htarget hlow hhigh hmax

/-- The root of the mantissa at the exponent of `sqrtCore` has 53 bits at least. -/
theorem sqrtCore_bounds {m : Nat} {e : Int} (hm : 0 < m) :
    (sqrtCore Format.binary64 m e).2.1 ≤
      target (sqrtCore Format.binary64 m e).1 (sqrtCore Format.binary64 m e).2.1 ∧
    dyadic (sqrtCore Format.binary64 m e).1 (sqrtCore Format.binary64 m e).2.1 ≤
      √(dyadic m e) ∧
    √(dyadic m e) ≤
      dyadic ((sqrtCore Format.binary64 m e).1 + 1) (sqrtCore Format.binary64 m e).2.1 := by
  rw [sqrtCore]
  simp only [targetExponent_binary64, totalExponent, Nat.shiftLeft_eq]
  generalize ht : min (e.ediv 2) (max ((m.log2 + 1 + e + 1 : Int).ediv 2 - 53) (-1074)) = t
  obtain ⟨k, hk⟩ : ∃ k, (e - 2 * t).toNat = k := ⟨_, rfl⟩
  have hhalf : 2 * e.ediv 2 ≤ e := Int.mul_ediv_self_le (show (2 : Int) ≠ 0 by decide)
  have hexp : e = 2 * t + k := by omega
  rw [hk]
  refine ⟨?_, ?_⟩
  · by_cases hsmall : t ≤ -1074
    · exact le_target (.inr hsmall)
    · have hdiv : 2 * (m.log2 + 1 + e + 1 : Int).ediv 2 ≤ m.log2 + 1 + e + 1 :=
        Int.mul_ediv_self_le (show (2 : Int) ≠ 0 by decide)
      have hradicand : 2 ^ 104 ≤ m * 2 ^ k := pow_le_mul_pow hm (by omega)
      exact le_target (.inl (Nat.le_sqrt.mpr hradicand))
  · -- the square of the exponent `t` comes out of the root
    have hvalue : √(dyadic m e) = √((m * 2 ^ k : Nat) : ℝ) * 2 ^ t := by
      have hsquare : dyadic m e = ((m * 2 ^ k : Nat) : ℝ) * ((2 : ℝ) ^ t) ^ 2 := by
        rw [dyadic, hexp, zpow_add₀ (by norm_num), zpow_natCast, two_mul,
          zpow_add₀ (by norm_num)]
        push_cast
        ring
      rw [hsquare, Real.sqrt_mul (Nat.cast_nonneg _), Real.sqrt_sq (by positivity)]
    rw [hvalue, dyadic, dyadic]
    constructor
    · exact mul_le_mul_of_nonneg_right Real.nat_sqrt_le_real_sqrt (by positivity)
    · refine mul_le_mul_of_nonneg_right ?_ (by positivity)
      push_cast
      exact_mod_cast Real.real_sqrt_le_nat_sqrt_succ

theorem IsNumber.sqrt {x : Float} {p : ℝ} (hx : IsNumber .positive x p)
    (hmax : √p ≤ 2 ^ (1000 : Int)) : ∃ r, IsNumber .positive x.sqrt r ∧ Near r (√p) := by
  refine exists_isNumber (u := UnpackedFloat.sqrt Format.binary64 x.toModel.unpack) ?_
  rw [IsNumber] at hx
  generalize x.toModel.unpack = u at *
  cases hx with
  | zero t =>
      rw [Real.sqrt_zero]
      exact ⟨0, .zero _, near_self (le_refl 0)⟩
  | finite hm hcm =>
      obtain ⟨htarget, hlow, hhigh⟩ := sqrtCore_bounds hm
      exact roundWithAccuracy_near _ _ htarget hlow hhigh hmax

-- ============================================================================
-- Comparisons
-- ============================================================================

/-- A larger exponent makes a larger number: its mantissa is normal. -/
theorem dyadic_lt_of_lt {m n : Nat} {e f : Int} (hm : Canonical m e) (hn : Canonical n f)
    (h : e < f) : dyadic m e < dyadic n f := by
  have hnormal : 2 ^ 52 ≤ n := hn.normal.resolve_right (by have := hm.smallest; omega)
  have hdouble : m < n * 2 ^ 1 := by
    have := hm.mantissa
    omega
  obtain ⟨k, hk⟩ : ∃ k : Nat, f = e + (1 + k : Nat) := ⟨(f - e - 1).toNat, by omega⟩
  have hlong : n * 2 ^ 1 ≤ n * 2 ^ (1 + k) :=
    Nat.mul_le_mul_left n (Nat.pow_le_pow_right (by decide) (Nat.le_add_right 1 k))
  have hcast : (m : ℝ) < (n * 2 ^ (1 + k) : Nat) := Nat.cast_lt.mpr (lt_of_lt_of_le hdouble hlong)
  rw [hk, ← dyadic_mul_pow, dyadic, dyadic]
  exact mul_lt_mul_of_pos_right hcast (by positivity)

theorem dyadic_compare {m n : Nat} {e f : Int} (hm : Canonical m e) (hn : Canonical n f) :
    (compare e f).then (compare m n) = compare (dyadic m e) (dyadic n f) := by
  rcases lt_trichotomy e f with h | h | h
  · rw [compare_lt_iff_lt.mpr h, compare_lt_iff_lt.mpr (dyadic_lt_of_lt hm hn h)]
    rfl
  · subst h
    rw [compare_eq_iff_eq.mpr rfl]
    show compare m n = _
    have hpow : (0 : ℝ) < 2 ^ e := by positivity
    rcases lt_trichotomy m n with h | h | h
    · have hlt : dyadic m e < dyadic n e := mul_lt_mul_of_pos_right (Nat.cast_lt.mpr h) hpow
      rw [compare_lt_iff_lt.mpr h, compare_lt_iff_lt.mpr hlt]
    · subst h
      rw [compare_eq_iff_eq.mpr rfl, compare_eq_iff_eq.mpr rfl]
    · have hgt : dyadic n e < dyadic m e := mul_lt_mul_of_pos_right (Nat.cast_lt.mpr h) hpow
      rw [compare_gt_iff_gt.mpr h, compare_gt_iff_gt.mpr hgt]
  · rw [compare_gt_iff_gt.mpr h, compare_gt_iff_gt.mpr (dyadic_lt_of_lt hn hm h)]
    rfl

theorem Represents.compare {u v : UnpackedFloat} {p q : ℝ} (hu : Represents .positive u p)
    (hv : Represents .positive v q) : u.compare v = some (Ord.compare p q) := by
  cases hu with
  | zero t =>
      cases hv with
      | zero t' => rw [compare_eq_iff_eq.mpr rfl]; rfl
      | finite hn hcn => rw [compare_lt_iff_lt.mpr (dyadic_pos hn _)]; rfl
  | finite hm hcm =>
      cases hv with
      | zero t => rw [compare_gt_iff_gt.mpr (dyadic_pos hm _)]; rfl
      | finite hn hcn => exact congrArg some (dyadic_compare hcm hcn)

theorem lt_iff_compare (x y : Float) :
    x < y ↔ x.toModel.unpack.compare y.toModel.unpack = some .lt :=
  (decide_eq_true_iff (p := x.toModel < y.toModel)).trans beq_iff_eq

theorem le_iff_compare (x y : Float) :
    x ≤ y ↔ (x.toModel.unpack.compare y.toModel.unpack).any (·.isLE) = true :=
  decide_eq_true_iff (p := x.toModel ≤ y.toModel)

theorem IsNumber.lt_iff {x y : Float} {p q : ℝ} (hx : IsNumber .positive x p)
    (hy : IsNumber .positive y q) : x < y ↔ p < q := by
  rw [lt_iff_compare, Represents.compare hx hy, Option.some_inj, compare_lt_iff_lt]

theorem IsNumber.le_iff {x y : Float} {p q : ℝ} (hx : IsNumber .positive x p)
    (hy : IsNumber .positive y q) : x ≤ y ↔ p ≤ q := by
  rw [le_iff_compare, Represents.compare hx hy, Option.any_some, Ordering.isLE_iff_ne_gt]
  exact compare_le_iff_le

/-- A number is not below one that is negative. -/
theorem IsNumber.not_lt_negative {x y : Float} {p q : ℝ} (hx : IsNumber .positive x p)
    (hy : IsNumber .negative y q) : ¬ x < y := by
  rw [lt_iff_compare]
  rw [IsNumber] at hx hy
  generalize x.toModel.unpack = u, y.toModel.unpack = v at *
  cases hx with
  | zero => cases hy <;> exact fun h => absurd h (by simp [UnpackedFloat.compare])
  | finite => cases hy <;> exact fun h => absurd h (by simp [UnpackedFloat.compare])

-- ============================================================================
-- Conversions
-- ============================================================================

/-- A number of one format in another; zeros, infinities and NaN stay what they are. -/
def convert (spec : Format) : UnpackedFloat → UnpackedFloat
  | .finite s m e _ => UnpackedFloat.round spec s m e
  | u => u

/-- The double of a single, and the single nearest to a double. -/
def widen (x : Float32) : Float := .ofModel (.pack (convert Format.binary64 x.toModel.unpack))
def narrow (x : Float) : Float32 := .ofModel (.pack (convert Format.binary32 x.toModel.unpack))

/-- The real number of an unpacked float; infinities and NaN have none. -/
noncomputable def value : UnpackedFloat → ℝ
  | .finite .positive m e _ => dyadic m e
  | .finite .negative m e _ => -dyadic m e
  | _ => 0

/-- The real number of a finite single. -/
noncomputable def realOf (x : Float32) : ℝ := value x.toModel.unpack

/-- A single has 24 bits and an exponent of 104 at most. -/
theorem unpack_binary32_bounds {b : BitVec 32} {s : Sign} {m : Nat} {e : Int} {h : 0 < m}
    (hb : UnpackedFloat.unpack Format.binary32 b = .finite s m e h) : m ≤ 2 ^ 24 ∧ e ≤ 104 := by
  have hmantissa : (@unpackMantissa Format.binary32 b).toNat < 2 ^ 23 := BitVec.isLt _
  have hbias : Format.binary32.exponentBias = 127 := rfl
  rw [UnpackedFloat.unpack] at hb
  dsimp only at hb
  split at hb
  · split at hb <;> cases hb
  · rename_i hmax
    have hexponent : (@unpackExponent Format.binary32 b).toNat + 1 < 2 ^ 8 :=
      toNat_lt_of_ne hmax
    split at hb
    · split at hb
      · cases hb
      · cases hb
        rename_i hmin _
        rw [hmin, hbias, BitVec.toNat_zero]
        exact ⟨by omega, by omega⟩
    · cases hb
      rw [toNat_implicit]
      rw [hbias]
      have hbits : (2 : Nat) ^ Format.binary32.mantissaBitsWithoutImplicit = 2 ^ 23 := rfl
      exact ⟨by omega, by omega⟩

theorem isNumber_widen {x : Float32} (h : x.isFinite = true) :
    ∃ s q, IsNumber s (widen x) q ∧ q ≤ 2 ^ (129 : Int) := by
  have hbounds := @unpack_binary32_bounds x.toModel.toBits.toBitVec
  have hunpacked : ∃ s q, Represents s (convert Format.binary64 x.toModel.unpack) q ∧
      q ≤ 2 ^ (129 : Int) := by
    replace h : x.toModel.unpack.isFinite = true := h
    replace hbounds : ∀ {s m e h}, x.toModel.unpack = .finite s m e h → m ≤ 2 ^ 24 ∧ e ≤ 104 :=
      hbounds
    generalize x.toModel.unpack = u at *
    cases u with
    | infinity s => cases h
    | notANumber => cases h
    | zero s => exact ⟨s, 0, .zero s, by positivity⟩
    | finite s m e hm =>
        obtain ⟨hmantissa, hexponent⟩ := hbounds rfl
        have hle : dyadic m e ≤ 2 ^ (128 : Int) := by
          refine le_trans (dyadic_le_dyadic hmantissa e) ?_
          rw [← Nat.one_mul (2 ^ 24), dyadic_mul_pow, dyadic, Nat.cast_one, one_mul]
          exact zpow_le_zpow_right₀ (by norm_num) (by omega)
        have hmax : dyadic m e ≤ 2 ^ (1000 : Int) :=
          le_trans hle (zpow_le_zpow_right₀ (by norm_num) (by norm_num))
        obtain ⟨q, hq, hnear⟩ := round_near s hm hmax
        refine ⟨s, q, hq, ?_⟩
        have herror := (abs_le.mp hnear).2
        have hulp : (2 : ℝ) ^ (-52 : Int) * dyadic m e ≤ 2 ^ (76 : Int) := by
          refine le_trans (mul_le_mul_of_nonneg_left hle (by positivity)) (le_of_eq ?_)
          rw [← zpow_add₀ (by norm_num)]
          norm_num
        have htiny : (2 : ℝ) ^ (-1074 : Int) ≤ 1 :=
          zpow_le_one_of_nonpos₀ (by norm_num) (by norm_num)
        have hdouble : (2 : ℝ) ^ (128 : Int) + 2 ^ (76 : Int) + 1 ≤ 2 ^ (129 : Int) := by norm_num
        linarith
  obtain ⟨s, q, hq, hle⟩ := hunpacked
  exact ⟨s, q, hq.isNumber, hle⟩

end Lib.Binary64
