/-
  Smile2Unlock.Service.CompareFeatures

  `compare_features_on_su`: two features in hexadecimal, their sums in double precision
  and the cosine of the angle between them.

  `compareFeaturesOnSu_self` says that a feature of 128 to 4096 finite floats with a norm
  above `EPSILON` matches itself.  The sums cannot overflow (`squaredNorm_bounded`), and
  a double over the square of its rounded root exceeds one by less than `EPSILON`
  (`similarity_self`).
-/

import Smile2Unlock.Common.Datagram
import Smile2Unlock.Common.FeatureHex
import Smile2Unlock.Lib.Binary64Ops

namespace Smile2Unlock.Service

open Smile2Unlock Lib Binary64

-- ============================================================================
-- Features in memory
-- ============================================================================

/-- The bytes of an array of floats, and the floats in an array of bytes. -/
def floatBytes (feature : List Float32) : Bytes :=
  feature.flatMap fun x => leBytes 4 x.toBits.toNat

def floatsOf : Bytes → List Float32
  | a :: b :: c :: d :: rest => Float32.ofBits (uint32At 0 [a, b, c, d]) :: floatsOf rest
  | _ => []

/-- `DecodeFeatureHex`; its last check, on the size of the vector, cannot fail. -/
def decodeFeatureHex (hex : Bytes) : Option (List Float32) :=
  if hex = [] ∨ hex.length % 2 ≠ 0 then none
  else
    match Hex.decode hex with
    | none => none
    | some bytes => if bytes = [] ∨ bytes.length % 4 ≠ 0 then none else some (floatsOf bytes)

-- ============================================================================
-- The comparison
-- ============================================================================

/-- `MIN_FEATURE_DIM`, `MAX_FEATURE_DIM` and `EPSILON`. -/
def minFeatureDim : Nat := 128
def maxFeatureDim : Nat := 4096
def epsilon : Float := 1e-10

/-- `dot`, `probe_norm` and `enrolled_norm`. -/
structure FeatureSums where
  dot : Float
  probeNorm : Float
  enrolledNorm : Float

/-- The body of the loop over both vectors. -/
def FeatureSums.accumulate (sums : FeatureSums) (pair : Float32 × Float32) : FeatureSums where
  dot := sums.dot + widen pair.1 * widen pair.2
  probeNorm := sums.probeNorm + widen pair.1 * widen pair.1
  enrolledNorm := sums.enrolledNorm + widen pair.2 * widen pair.2

/-- `compare_features_on_su` behind its checks of the vectors. -/
def cosineSimilarity (sums : FeatureSums) : Option Float32 :=
  if sums.probeNorm ≤ epsilon ∨ sums.enrolledNorm ≤ epsilon then none
  else
    let sqrtProbe := sums.probeNorm.sqrt
    let sqrtEnrolled := sums.enrolledNorm.sqrt
    if sqrtProbe ≤ epsilon ∨ sqrtEnrolled ≤ epsilon then none
    else
      let similarityValue := sums.dot / (sqrtProbe * sqrtEnrolled)
      if similarityValue < -1.0 - epsilon ∨ 1.0 + epsilon < similarityValue then none
      else some (narrow similarityValue)

/-- `compare_features_on_su`: the similarity, or nothing where it returns false. -/
def compareFeaturesOnSu (feature1 feature2 : Bytes) : Option Float32 :=
  match decodeFeatureHex feature1, decodeFeatureHex feature2 with
  | some probe, some enrolled =>
      if probe = [] ∨ enrolled = [] then none
      else if probe.length ≠ enrolled.length then none
      else if probe.length < minFeatureDim ∨ maxFeatureDim < probe.length then none
      else if ∃ pair ∈ probe.zip enrolled, ¬ pair.1.isFinite ∨ ¬ pair.2.isFinite then none
      else cosineSimilarity ((probe.zip enrolled).foldl FeatureSums.accumulate ⟨0.0, 0.0, 0.0⟩)
  | _, _ => none

/-- The squared norm of a feature, as the loop adds it up. -/
def addSquare (sum : Float) (x : Float32) : Float := sum + widen x * widen x

def squaredNorm (feature : List Float32) : Float := feature.foldl addSquare 0.0

-- ============================================================================
-- Features as text
-- ============================================================================

@[simp] theorem length_floatBytes (feature : List Float32) :
    (floatBytes feature).length = 4 * feature.length := by
  induction feature with
  | nil => rfl
  | cons x feature ih =>
      rw [floatBytes, List.flatMap_cons, List.length_append, length_leBytes, ← floatBytes, ih,
        List.length_cons]
      omega

/-- Floats survive as bytes. -/
theorem floatsOf_floatBytes (feature : List Float32) :
    floatsOf (floatBytes feature) = feature := by
  induction feature with
  | nil => rfl
  | cons x feature ih =>
      have hbytes : floatBytes (x :: feature) = leBytes 4 x.toBits.toNat ++ floatBytes feature := rfl
      have hword : ∀ word rest : Bytes, word.length = 4 →
          floatsOf (word ++ rest) = Float32.ofBits (uint32At 0 word) :: floatsOf rest := by
        intro word rest hlength
        match word, hlength with
        | [a, b, c, d], _ => rfl
      have hbits : uint32At 0 (leBytes 4 x.toBits.toNat) = x.toBits := by
        rw [← List.append_nil (leBytes 4 _), uint32At_front]
      rw [hbytes, hword _ _ (length_leBytes 4 _), hbits, Float32.ofBits_toBits, ih]

/-- A feature in hexadecimal is read back. -/
theorem decodeFeatureHex_encodeBytesToHex {feature : List Float32} (hne : feature ≠ []) :
    decodeFeatureHex (encodeBytesToHex (floatBytes feature)) = some feature := by
  have hpos := List.length_pos_iff.mpr hne
  have hbytes : floatBytes feature ≠ [] := by
    rw [← List.length_pos_iff, length_floatBytes]
    omega
  have hhex : encodeBytesToHex (floatBytes feature) ≠ [] := by
    rw [← List.length_pos_iff, length_encodeBytesToHex, length_floatBytes]
    omega
  have heven : ¬ (encodeBytesToHex (floatBytes feature)).length % 2 ≠ 0 := by
    rw [length_encodeBytesToHex]
    omega
  have hfour : ¬ (floatBytes feature).length % 4 ≠ 0 := by
    rw [length_floatBytes]
    omega
  rw [decodeFeatureHex, if_neg (not_or.mpr ⟨hhex, heven⟩), decode_encodeBytesToHex]
  dsimp only
  rw [if_neg (not_or.mpr ⟨hbytes, hfour⟩), floatsOf_floatBytes]

-- ============================================================================
-- The sums
-- ============================================================================

/-- A vector with itself has its squared norm as each of the three sums. -/
theorem foldl_accumulate_self (feature : List Float32) (sum : Float) :
    (feature.zip feature).foldl FeatureSums.accumulate ⟨sum, sum, sum⟩ =
      ⟨feature.foldl addSquare sum, feature.foldl addSquare sum,
        feature.foldl addSquare sum⟩ := by
  induction feature generalizing sum with
  | nil => rfl
  | cons x feature ih => exact ih _

/-- The error of an operation, crudely. -/
theorem le_of_near {q y : ℝ} (h : Near q y) (hy : 0 ≤ y) : 1000000 * q ≤ 1000001 * y + 1000000 := by
  have htiny : (2 : ℝ) ^ (-1074 : Int) ≤ 1 := zpow_le_one_of_nonpos₀ (by norm_num) (by norm_num)
  have hulp : 1000000 * ((2 : ℝ) ^ (-52 : Int) * y) ≤ y := by
    norm_num
    linarith
  have hhigh := (abs_le.mp h).2
  linarith

/-- The square of the bound on a float. -/
noncomputable def squareBound : ℝ := dyadic 1 258

theorem squareBound_eq : squareBound = 2 ^ (258 : Int) := by
  rw [squareBound, dyadic, Nat.cast_one, one_mul]

theorem two_le_squareBound : 2 ≤ squareBound := by
  have hpow : (2 : ℝ) ^ (1 : Int) ≤ 2 ^ (258 : Int) := zpow_le_zpow_right₀ (by norm_num) (by norm_num)
  rwa [zpow_one, ← squareBound_eq] at hpow

theorem mul_squareBound_le {n : Int} (hn : 273 ≤ n) : 32768 * squareBound ≤ 2 ^ n := by
  rw [squareBound_eq, show (32768 : ℝ) = 2 ^ (15 : Int) by norm_num, ← zpow_add₀ (by norm_num)]
  exact zpow_le_zpow_right₀ (by norm_num) (by omega)

/-- The square of a float in double precision. -/
theorem isNumber_square {x : Float32} (h : x.isFinite = true) :
    ∃ q, IsNumber .positive (widen x * widen x) q ∧ q ≤ 2 * squareBound := by
  obtain ⟨s, p, hp, hle⟩ := isNumber_widen h
  have hpos := hp.nonneg
  have htwo := two_le_squareBound
  have hsquare : p * p ≤ squareBound := by
    rw [squareBound_eq]
    exact mul_le_pow hpos hpos hle hle
  have hmax := mul_squareBound_le (n := 1000) (by norm_num)
  have hscaled : p * p ≤ 32768 * squareBound := by linarith
  obtain ⟨q, hq, hnear⟩ := hp.mul hp (le_trans hscaled hmax)
  have hsign : s * s = .positive := by cases s <;> rfl
  rw [hsign] at hq
  have herror := le_of_near hnear (mul_nonneg hpos hpos)
  exact ⟨q, hq, by linarith⟩

/-- The sum after some of at most 4096 floats. -/
theorem isNumber_foldl {feature : List Float32} (h : ∀ x ∈ feature, x.isFinite = true) {n : Nat}
    (hn : n + feature.length ≤ maxFeatureDim) {sum : Float} {q : ℝ}
    (hsum : IsNumber .positive sum q) (hq : q ≤ n * (4 * squareBound)) :
    ∃ q', IsNumber .positive (feature.foldl addSquare sum) q' ∧
      q' ≤ (n + feature.length : Nat) * (4 * squareBound) := by
  induction feature generalizing n sum q with
  | nil => exact ⟨q, hsum, hq⟩
  | cons x feature ih =>
      rw [List.length_cons] at hn
      have htwo := two_le_squareBound
      obtain ⟨r, hr, hle⟩ := isNumber_square (h x (by simp))
      have hcast : (n : ℝ) * (4 * squareBound) ≤ 4096 * (4 * squareBound) := by
        have hnat : n ≤ 4096 := by
          rw [maxFeatureDim] at hn
          omega
        exact mul_le_mul_of_nonneg_right (by exact_mod_cast hnat) (by linarith)
      have hmax := mul_squareBound_le (n := 1000) (by norm_num)
      have hscaled : q + r ≤ 32768 * squareBound := by linarith
      obtain ⟨q', hq', hnear⟩ := hsum.add hr (le_trans hscaled hmax)
      have herror := le_of_near hnear (add_nonneg hsum.nonneg hr.nonneg)
      have hnext : q' ≤ (n + 1 : Nat) * (4 * squareBound) := by
        push_cast
        linarith
      have hrest := ih (fun y hmem => h y (List.mem_cons_of_mem x hmem)) (n := n + 1) (by omega)
        hq' hnext
      rw [List.length_cons, show n + (feature.length + 1) = n + 1 + feature.length by omega]
      exact hrest

/-- The squared norm of a feature that is not too long does not overflow. -/
theorem squaredNorm_bounded {feature : List Float32} (h : ∀ x ∈ feature, x.isFinite = true)
    (hn : feature.length ≤ maxFeatureDim) :
    ∃ q, IsNumber .positive (squaredNorm feature) q ∧ q ≤ 2 ^ (273 : Int) := by
  have hzero : IsNumber .positive 0.0 0 := .zero .positive
  obtain ⟨q, hq, hle⟩ := isNumber_foldl h (n := 0) (by omega) hzero (by norm_num)
  refine ⟨q, hq, ?_⟩
  have htwo := two_le_squareBound
  have hmax := mul_squareBound_le (n := 273) (by norm_num)
  have hcast : ((0 + feature.length : Nat) : ℝ) * (4 * squareBound) ≤
      4096 * (4 * squareBound) := by
    rw [maxFeatureDim] at hn
    exact mul_le_mul_of_nonneg_right (by rw [Nat.zero_add]; exact_mod_cast hn) (by linarith)
  have hscaled : q ≤ 32768 * squareBound := by linarith
  exact le_trans hscaled hmax

-- ============================================================================
-- The similarity of a feature with itself
-- ============================================================================

/-- `EPSILON` and the two bounds of the similarity as numbers. -/
theorem isNumber_epsilon : IsNumber .positive epsilon (dyadic 7737125245533627 (-86)) :=
  .finite (by decide) ⟨by decide, by decide, by decide, .inl (by decide)⟩

theorem isNumber_lowerBound :
    IsNumber .negative (-1.0 - epsilon) (dyadic 4503599627820856 (-52)) :=
  .finite (by decide) ⟨by decide, by decide, by decide, .inl (by decide)⟩

theorem isNumber_upperBound :
    IsNumber .positive (1.0 + epsilon) (dyadic 4503599627820856 (-52)) :=
  .finite (by decide) ⟨by decide, by decide, by decide, .inl (by decide)⟩

/-- A double over the square of its rounded root: three roundings away from one. -/
theorem quotient_near_one {n s p r δ : ℝ} (hδ : 0 ≤ δ) (hsmall : δ ≤ 1 / 1000) (hn : 0 < n)
    (hs : (1 - δ) * √n ≤ s) (hp : (1 - δ) * (s * s) ≤ p) (hr : r ≤ (1 + δ) * (n / p)) :
    r ≤ 1 + 5 * δ := by
  have hone : 0 < 1 - δ := by linarith
  have hsquare : (1 - δ) * (1 - δ) * n ≤ s * s := by
    have hnonneg : 0 ≤ (1 - δ) * √n := mul_nonneg hone.le (Real.sqrt_nonneg n)
    have hroot : (1 - δ) * √n * ((1 - δ) * √n) = (1 - δ) * (1 - δ) * n := by
      rw [mul_mul_mul_comm, Real.mul_self_sqrt hn.le]
    rw [← hroot]
    exact mul_le_mul hs hs hnonneg (le_trans hnonneg hs)
  have hcube : (1 - δ) * ((1 - δ) * (1 - δ) * n) ≤ p :=
    le_trans (mul_le_mul_of_nonneg_left hsquare hone.le) hp
  have hpos : 0 < p := lt_of_lt_of_le (by positivity) hcube
  refine le_trans hr ?_
  rw [← mul_div_assoc, div_le_iff₀ hpos]
  have hfactor : 1 + δ ≤ (1 + 5 * δ) * ((1 - δ) * ((1 - δ) * (1 - δ))) := by
    nlinarith [mul_nonneg hδ hδ, mul_nonneg hδ (mul_nonneg hδ hδ)]
  calc (1 + δ) * n ≤ (1 + 5 * δ) * ((1 - δ) * ((1 - δ) * (1 - δ))) * n :=
        mul_le_mul_of_nonneg_right hfactor hn.le
    _ = (1 + 5 * δ) * ((1 - δ) * ((1 - δ) * (1 - δ) * n)) := by ring
    _ ≤ (1 + 5 * δ) * p := mul_le_mul_of_nonneg_left hcube (by linarith)

/-- No check of the quotient fails for a vector with itself. -/
theorem similarity_self {x : Float} {n : ℝ} (hx : IsNumber .positive x n)
    (hlow : 2 ^ (-34 : Int) ≤ n) (hhigh : n ≤ 2 ^ (274 : Int)) :
    ¬ x.sqrt ≤ epsilon ∧ ¬ x / (x.sqrt * x.sqrt) < -1.0 - epsilon ∧
      ¬ 1.0 + epsilon < x / (x.sqrt * x.sqrt) := by
  have hn : 0 < n := lt_of_lt_of_le (by positivity) hlow
  have hroot : 2 ^ (-17 : Int) ≤ √n := by
    rw [Real.le_sqrt (by positivity) hn.le, sq, ← zpow_add₀ (by norm_num)]
    exact hlow
  have hroot' : √n ≤ 2 ^ (137 : Int) := by
    rw [Real.sqrt_le_left (by positivity), sq, ← zpow_add₀ (by norm_num)]
    exact hhigh
  have hmax : ∀ {i : Int}, i ≤ 1000 → (2 : ℝ) ^ i ≤ 2 ^ (1000 : Int) :=
    fun hi => zpow_le_zpow_right₀ (by norm_num) hi
  -- the root, its square and the quotient
  obtain ⟨s, hs, hnear⟩ := hx.sqrt (le_trans hroot' (hmax (by norm_num)))
  obtain ⟨hslow, hshigh⟩ := hnear.magnitude hroot hroot' (by norm_num)
  have hsquare := pow_le_mul hslow hslow
  have hsquare' := mul_le_pow hs.nonneg hs.nonneg hshigh hshigh
  obtain ⟨p, hp, hnear'⟩ := hs.mul hs (le_trans hsquare' (hmax (by norm_num)))
  obtain ⟨hplow, hphigh⟩ := hnear'.magnitude hsquare hsquare' (by norm_num)
  have hpos : 0 < p := lt_of_lt_of_le (by positivity) hplow
  have hquotient := pow_le_div hpos hlow hphigh
  have hquotient' := div_le_pow hhigh hplow
  obtain ⟨r, hr, hnear''⟩ := hx.div hp hpos (le_trans hquotient' (hmax (by norm_num)))
  -- the root is above `EPSILON`, the quotient below the upper bound
  refine ⟨?_, hr.not_lt_negative isNumber_lowerBound, ?_⟩
  · rw [hs.le_iff isNumber_epsilon, not_le]
    refine lt_of_lt_of_le ?_ hslow
    rw [dyadic]
    norm_num
  · rw [isNumber_upperBound.lt_iff hr, not_lt]
    have hone := quotient_near_one (by positivity) (by norm_num) hn
      (hnear.relative hroot (by norm_num)).1
      (hnear'.relative hsquare (by norm_num)).1
      (hnear''.relative hquotient (by norm_num)).2
    refine le_trans hone ?_
    rw [dyadic]
    norm_num

/-- The sums of a vector with itself have a similarity if its norm is above `EPSILON`. -/
theorem cosineSimilarity_self {x : Float} {n : ℝ} (hx : IsNumber .positive x n)
    (hlow : epsilon < x) (hhigh : n ≤ 2 ^ (274 : Int)) :
    (cosineSimilarity ⟨x, x, x⟩).isSome := by
  have hepsilon := (isNumber_epsilon.lt_iff hx).mp hlow
  have hpow : (2 : ℝ) ^ (-34 : Int) ≤ dyadic 7737125245533627 (-86) := by
    rw [dyadic]
    norm_num
  have hnorm : ¬ x ≤ epsilon := by
    rw [hx.le_iff isNumber_epsilon, not_le]
    exact hepsilon
  obtain ⟨hroot, hbelow, habove⟩ := similarity_self hx (le_trans hpow hepsilon.le) hhigh
  simp only [cosineSimilarity, hnorm, hroot, hbelow, habove, or_self, if_false, Option.isSome_some]

/-- A feature matches itself. -/
theorem compareFeaturesOnSu_self {feature : List Float32}
    (h : ∀ x ∈ feature, x.isFinite = true) (hmin : minFeatureDim ≤ feature.length)
    (hmax : feature.length ≤ maxFeatureDim) (hnorm : epsilon < squaredNorm feature) :
    (compareFeaturesOnSu (encodeBytesToHex (floatBytes feature))
      (encodeBytesToHex (floatBytes feature))).isSome := by
  have hne : feature ≠ [] := by
    rw [← List.length_pos_iff]
    rw [minFeatureDim] at hmin
    omega
  have hfinite : ¬ ∃ pair ∈ feature.zip feature, ¬ pair.1.isFinite ∨ ¬ pair.2.isFinite := by
    rintro ⟨pair, hmem, hbad⟩
    obtain ⟨hleft, hright⟩ := List.of_mem_zip hmem
    exact hbad.elim (· (h _ hleft)) (· (h _ hright))
  obtain ⟨n, hn, hhigh⟩ := squaredNorm_bounded h hmax
  rw [compareFeaturesOnSu, decodeFeatureHex_encodeBytesToHex hne]
  dsimp only
  rw [if_neg (by simp [hne]), if_neg (by simp), if_neg (by omega), if_neg hfinite,
    foldl_accumulate_self]
  exact cosineSimilarity_self hn hnorm (le_trans hhigh (zpow_le_zpow_right₀ (by norm_num)
    (by norm_num)))

/-- A feature that is too long matches nothing. -/
theorem compareFeaturesOnSu_of_long {feature : List Float32}
    (hlong : maxFeatureDim < feature.length) (enrolled : Bytes) :
    compareFeaturesOnSu (encodeBytesToHex (floatBytes feature)) enrolled = none := by
  have hne : feature ≠ [] := by
    rw [← List.length_pos_iff]
    omega
  rw [compareFeaturesOnSu, decodeFeatureHex_encodeBytesToHex hne]
  cases decodeFeatureHex enrolled with
  | none => rfl
  | some other =>
      dsimp only
      split
      · rfl
      · split
        · rfl
        · rw [if_pos (.inr hlong)]

end Smile2Unlock.Service
