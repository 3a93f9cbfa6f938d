/-
  Smile2Unlock.Service.ExactSimilarity

  `compare_features_on_su` over the real numbers.

  The comparison is written once, for any arithmetic (`Arithmetic.compare`): with doubles
  it is `compareFeaturesOnSu` (`doubles_compare`), with the real numbers it has no rounding.
  There it is the cosine of the two vectors (`reals_compare`), and its guards behind the
  norms can never be taken.
-/

import Smile2Unlock.Lib.Cosine
import Smile2Unlock.Service.CompareFeatures

namespace Smile2Unlock.Service

open Smile2Unlock Lib Binary64

-- ============================================================================
-- The comparison in any arithmetic
-- ============================================================================

/-- What the comparison computes with: `A` for `double`, `B` for the similarity. -/
structure Arithmetic (A B : Type) where
  widen : Float32 → A
  zero : A
  add : A → A → A
  mul : A → A → A
  div : A → A → A
  sqrt : A → A
  le : A → A → Bool
  lt : A → A → Bool
  epsilon : A
  lowerBound : A
  upperBound : A
  narrow : A → B
  noSimilarity : B

namespace Arithmetic

variable {A B : Type} (arith : Arithmetic A B)

/-- The body of the loop: `dot`, `probe_norm` and `enrolled_norm`. -/
def accumulate (sums : A × A × A) (pair : Float32 × Float32) : A × A × A :=
  (arith.add sums.1 (arith.mul (arith.widen pair.1) (arith.widen pair.2)),
    arith.add sums.2.1 (arith.mul (arith.widen pair.1) (arith.widen pair.1)),
    arith.add sums.2.2 (arith.mul (arith.widen pair.2) (arith.widen pair.2)))

/-- The checks of the norms and of the quotient. -/
def quotient (sums : A × A × A) : Bool × B :=
  if arith.le sums.2.1 arith.epsilon ∨ arith.le sums.2.2 arith.epsilon then
    (false, arith.noSimilarity)
  else
    let sqrtProbe := arith.sqrt sums.2.1
    let sqrtEnrolled := arith.sqrt sums.2.2
    if arith.le sqrtProbe arith.epsilon ∨ arith.le sqrtEnrolled arith.epsilon then
      (false, arith.noSimilarity)
    else
      let similarityValue := arith.div sums.1 (arith.mul sqrtProbe sqrtEnrolled)
      if arith.lt similarityValue arith.lowerBound ∨ arith.lt arith.upperBound similarityValue then
        (false, arith.noSimilarity)
      else (true, arith.narrow similarityValue)

/-- `compare_features_on_su`: its result and `similarity` after it. -/
def compare (feature1 feature2 : Bytes) : Bool × B :=
  match decodeFeatureHex feature1, decodeFeatureHex feature2 with
  | some probe, some enrolled =>
      if probe = [] ∨ enrolled = [] then (false, arith.noSimilarity)
      else if probe.length ≠ enrolled.length then (false, arith.noSimilarity)
      else if probe.length < minFeatureDim ∨ maxFeatureDim < probe.length then
        (false, arith.noSimilarity)
      else if ∃ pair ∈ probe.zip enrolled, ¬ pair.1.isFinite ∨ ¬ pair.2.isFinite then
        (false, arith.noSimilarity)
      else
        arith.quotient
          ((probe.zip enrolled).foldl arith.accumulate (arith.zero, arith.zero, arith.zero))
  | _, _ => (false, arith.noSimilarity)

end Arithmetic

/-- The arithmetic of the code. -/
def doubles : Arithmetic Float Float32 where
  widen := Binary64.widen
  zero := 0.0
  add := (· + ·)
  mul := (· * ·)
  div := (· / ·)
  sqrt := Float.sqrt
  le x y := decide (x ≤ y)
  lt x y := decide (x < y)
  epsilon := epsilon
  lowerBound := -1.0 - epsilon
  upperBound := 1.0 + epsilon
  narrow := Binary64.narrow
  noSimilarity := 0.0

/-- A result as the code returns it. -/
def returned (similarity : Option Float32) : Bool × Float32 :=
  match similarity with
  | none => (false, 0.0)
  | some similarity => (true, similarity)

theorem doubles_foldl (pairs : List (Float32 × Float32)) (sums : FeatureSums) :
    pairs.foldl doubles.accumulate (sums.dot, sums.probeNorm, sums.enrolledNorm) =
      ((pairs.foldl FeatureSums.accumulate sums).dot,
        (pairs.foldl FeatureSums.accumulate sums).probeNorm,
        (pairs.foldl FeatureSums.accumulate sums).enrolledNorm) := by
  induction pairs generalizing sums with
  | nil => rfl
  | cons pair pairs ih => exact ih (sums.accumulate pair)

theorem doubles_quotient (sums : FeatureSums) :
    doubles.quotient (sums.dot, sums.probeNorm, sums.enrolledNorm) =
      returned (cosineSimilarity sums) := by
  simp only [Arithmetic.quotient, cosineSimilarity, doubles, decide_eq_true_eq]
  split
  · rfl
  · split
    · rfl
    · split
      · rfl
      · rfl

/-- With doubles it is the comparison of the code. -/
theorem doubles_compare (feature1 feature2 : Bytes) :
    doubles.compare feature1 feature2 = returned (compareFeaturesOnSu feature1 feature2) := by
  rw [Arithmetic.compare, compareFeaturesOnSu]
  cases decodeFeatureHex feature1 with
  | none => rfl
  | some probe =>
      cases decodeFeatureHex feature2 with
      | none => rfl
      | some enrolled =>
          dsimp only
          split
          · rfl
          · split
            · rfl
            · split
              · rfl
              · split
                · rfl
                · rw [← doubles_quotient, ← doubles_foldl]
                  rfl

-- ============================================================================
-- Over the real numbers
-- ============================================================================

/-- The exact arithmetic. -/
noncomputable def reals : Arithmetic ℝ ℝ where
  widen := realOf
  zero := 0
  add := (· + ·)
  mul := (· * ·)
  div := (· / ·)
  sqrt := Real.sqrt
  le x y := decide (x ≤ y)
  lt x y := decide (x < y)
  epsilon := 1e-10
  lowerBound := -1 - 1e-10
  upperBound := 1 + 1e-10
  narrow := id
  noSimilarity := 0

/-- The vector of a feature. -/
noncomputable def vector (feature : List Float32) : List ℝ := feature.map realOf

@[simp] theorem length_vector (feature : List Float32) :
    (vector feature).length = feature.length := List.length_map ..

/-- The text decodes to a finite vector of 128 to 4096 dimensions whose squared norm is
    above `EPSILON`. -/
structure Usable (text : Bytes) (feature : List Float32) : Prop where
  decoded : decodeFeatureHex text = some feature
  finite : ∀ x ∈ feature, x.isFinite = true
  minDim : minFeatureDim ≤ feature.length
  maxDim : feature.length ≤ maxFeatureDim
  norm : 1e-10 < dot (vector feature) (vector feature)

/-- Both texts are usable, and the vectors have one dimension. -/
def Comparable (feature1 feature2 : Bytes) : Prop :=
  ∃ probe enrolled, Usable feature1 probe ∧ Usable feature2 enrolled ∧
    probe.length = enrolled.length

theorem Comparable.symm {feature1 feature2 : Bytes} (h : Comparable feature1 feature2) :
    Comparable feature2 feature1 := by
  obtain ⟨probe, enrolled, hprobe, henrolled, hlength⟩ := h
  exact ⟨enrolled, probe, henrolled, hprobe, hlength.symm⟩

/-- The three sums are inner products. -/
theorem reals_foldl {probe enrolled : List Float32} (h : probe.length = enrolled.length)
    (sums : ℝ × ℝ × ℝ) :
    (probe.zip enrolled).foldl reals.accumulate sums =
      (sums.1 + dot (vector probe) (vector enrolled),
        sums.2.1 + dot (vector probe) (vector probe),
        sums.2.2 + dot (vector enrolled) (vector enrolled)) := by
  induction probe generalizing enrolled sums with
  | nil =>
      cases enrolled with
      | nil => simp [vector]
      | cons y enrolled => cases h
  | cons x probe ih =>
      cases enrolled with
      | nil => cases h
      | cons y enrolled =>
          have hlength : probe.length = enrolled.length := Nat.succ.inj h
          rw [List.zip_cons_cons, List.foldl_cons, ih hlength]
          simp only [vector, List.map_cons, dot_cons, Arithmetic.accumulate, reals, Prod.mk.injEq]
          exact ⟨add_assoc .., add_assoc .., add_assoc ..⟩

/-- The guards behind the norms are never taken. -/
theorem reals_quotient {u v : List ℝ} (h : u.length = v.length) (hu : 1e-10 < dot u u)
    (hv : 1e-10 < dot v v) : reals.quotient (dot u v, dot u u, dot v v) = (true, cosine u v) := by
  have hroot : ∀ {x : ℝ}, 1e-10 < x → ¬ √x ≤ 1e-10 := by
    intro x hx
    rw [not_le, Real.lt_sqrt (by norm_num)]
    refine lt_trans ?_ hx
    norm_num
  obtain ⟨hlow, hhigh⟩ := abs_le.mp (abs_cosine_le_one h)
  have hbelow : ¬ cosine u v < -1 - 1e-10 := by
    rw [not_lt]
    refine le_trans ?_ hlow
    norm_num
  have habove : ¬ 1 + 1e-10 < cosine u v := by
    rw [not_lt]
    refine le_trans hhigh ?_
    norm_num
  rw [cosine] at hbelow habove ⊢
  simp only [Arithmetic.quotient, reals, decide_eq_true_eq, not_le.mpr hu, not_le.mpr hv, hroot hu,
    hroot hv, hbelow, habove, or_self, if_false, id]

/-- The comparison of two usable texts. -/
theorem reals_compare {feature1 feature2 : Bytes} {probe enrolled : List Float32}
    (h1 : Usable feature1 probe) (h2 : Usable feature2 enrolled)
    (hlength : probe.length = enrolled.length) :
    reals.compare feature1 feature2 = (true, cosine (vector probe) (vector enrolled)) := by
  have hmin : 128 ≤ probe.length := h1.minDim
  have hne : ¬ (probe = [] ∨ enrolled = []) := by
    rw [← List.length_eq_zero_iff, ← List.length_eq_zero_iff]
    omega
  have hdim : ¬ (probe.length < minFeatureDim ∨ maxFeatureDim < probe.length) :=
    not_or.mpr ⟨Nat.not_lt.mpr h1.minDim, Nat.not_lt.mpr h1.maxDim⟩
  have hfinite : ¬ ∃ pair ∈ probe.zip enrolled, ¬ pair.1.isFinite ∨ ¬ pair.2.isFinite := by
    rintro ⟨pair, hmem, hbad⟩
    obtain ⟨hleft, hright⟩ := List.of_mem_zip hmem
    exact hbad.elim (· (h1.finite _ hleft)) (· (h2.finite _ hright))
  have hvectors : (vector probe).length = (vector enrolled).length := by simp [hlength]
  rw [Arithmetic.compare, h1.decoded, h2.decoded]
  dsimp only
  rw [if_neg hne, if_neg (not_not_intro hlength), if_neg hdim, if_neg hfinite,
    reals_foldl hlength, ← reals_quotient hvectors h1.norm h2.norm]
  simp only [reals, zero_add]

/-- No pair of the loop over both vectors has a float that is not finite. -/
theorem finite_of_zip {probe enrolled : List Float32} (h : probe.length = enrolled.length)
    (hfinite : ¬ ∃ pair ∈ probe.zip enrolled, ¬ pair.1.isFinite ∨ ¬ pair.2.isFinite) :
    (∀ x ∈ probe, x.isFinite = true) ∧ ∀ y ∈ enrolled, y.isFinite = true := by
  constructor
  · intro x hx
    rw [← List.map_fst_zip (le_of_eq h)] at hx
    obtain ⟨pair, hpair, rfl⟩ := List.mem_map.mp hx
    by_contra hbad
    exact hfinite ⟨pair, hpair, .inl hbad⟩
  · intro y hy
    rw [← List.map_snd_zip (le_of_eq h.symm)] at hy
    obtain ⟨pair, hpair, rfl⟩ := List.mem_map.mp hy
    by_contra hbad
    exact hfinite ⟨pair, hpair, .inr hbad⟩

/-- Any other two texts are rejected. -/
theorem reals_compare_of_not_comparable {feature1 feature2 : Bytes}
    (h : ¬ Comparable feature1 feature2) : reals.compare feature1 feature2 = (false, 0) := by
  rw [Arithmetic.compare]
  cases h1 : decodeFeatureHex feature1 with
  | none => rfl
  | some probe =>
      cases h2 : decodeFeatureHex feature2 with
      | none => rfl
      | some enrolled =>
          dsimp only
          split
          · rfl
          split
          · rfl
          split
          · rfl
          split
          · rfl
          rename_i hne hlength hdim hfinite
          have hlength := not_not.mp hlength
          obtain ⟨hmin, hmax⟩ := not_or.mp hdim
          obtain ⟨hprobe, henrolled⟩ := finite_of_zip hlength hfinite
          -- what is left to fail is a norm
          have hnorm : ¬ (1e-10 < dot (vector probe) (vector probe) ∧
              1e-10 < dot (vector enrolled) (vector enrolled)) := by
            rintro ⟨hnorm, hnorm'⟩
            exact h ⟨probe, enrolled, ⟨h1, hprobe, Nat.not_lt.mp hmin, Nat.not_lt.mp hmax, hnorm⟩,
              ⟨h2, henrolled, hlength ▸ Nat.not_lt.mp hmin, hlength ▸ Nat.not_lt.mp hmax, hnorm'⟩,
              hlength⟩
          rw [not_and_or, not_lt, not_lt] at hnorm
          rw [reals_foldl hlength, Arithmetic.quotient]
          simp only [reals, zero_add, decide_eq_true_eq]
          rw [if_pos hnorm]

-- ============================================================================
-- The similarity
-- ============================================================================

/-- The second text decodes to a finite vector that is `c` times that of the first, with a
    squared norm above `EPSILON`. -/
def Scaled (c : ℝ) (text text' : Bytes) : Prop :=
  ∃ feature feature', decodeFeatureHex text = some feature ∧
    decodeFeatureHex text' = some feature' ∧ (∀ x ∈ feature', x.isFinite = true) ∧
    vector feature' = (vector feature).map (c * ·) ∧
    1e-10 < dot (vector feature') (vector feature')

/-- Scaling keeps a text usable. -/
theorem Scaled.usable {c : ℝ} {text text' : Bytes} (h : Scaled c text text')
    {feature : List Float32} (hfeature : Usable text feature) :
    ∃ feature', Usable text' feature' ∧ feature'.length = feature.length ∧
      vector feature' = (vector feature).map (c * ·) := by
  obtain ⟨decoded, feature', hdecoded, hdecoded', hfinite, hvector, hnorm⟩ := h
  rw [hfeature.decoded] at hdecoded
  cases hdecoded
  have hlength : feature'.length = feature.length := by
    rw [← length_vector feature', hvector, List.length_map, length_vector]
  exact ⟨feature', ⟨hdecoded', hfinite, hlength ▸ hfeature.minDim, hlength ▸ hfeature.maxDim, hnorm⟩,
    hlength, hvector⟩

theorem reals_compare_comm (feature1 feature2 : Bytes) :
    reals.compare feature1 feature2 = reals.compare feature2 feature1 := by
  by_cases h : Comparable feature1 feature2
  · obtain ⟨probe, enrolled, hprobe, henrolled, hlength⟩ := h
    rw [reals_compare hprobe henrolled hlength, reals_compare henrolled hprobe hlength.symm,
      cosine_comm]
  · rw [reals_compare_of_not_comparable h,
      reals_compare_of_not_comparable fun hsymm => h hsymm.symm]

theorem reals_compare_scaled {c : ℝ} (hc : 0 < c) {feature1 feature1' feature2 : Bytes}
    (h : Comparable feature1 feature2) (hscaled : Scaled c feature1 feature1') :
    reals.compare feature1' feature2 = reals.compare feature1 feature2 := by
  obtain ⟨probe, enrolled, hprobe, henrolled, hlength⟩ := h
  obtain ⟨probe', hprobe', hlength', hvector⟩ := hscaled.usable hprobe
  rw [reals_compare hprobe henrolled hlength,
    reals_compare hprobe' henrolled (hlength'.trans hlength), hvector, cosine_map_mul hc]

/-- In exact arithmetic: two comparable features have a similarity between -1 and 1, which
    is symmetric, ignores the lengths of the vectors and is 1 for a feature with itself;
    any others have none. -/
theorem exactSimilarity :
    (∀ feature1 feature2, Comparable feature1 feature2 →
      (reals.compare feature1 feature2).1 = true ∧ -1 ≤ (reals.compare feature1 feature2).2 ∧
        (reals.compare feature1 feature2).2 ≤ 1) ∧
    (∀ feature1 feature2, reals.compare feature1 feature2 = reals.compare feature2 feature1) ∧
    (∀ (c : ℝ) (feature1 feature1' feature2 : Bytes), 0 < c → Comparable feature1 feature2 →
      Scaled c feature1 feature1' →
      reals.compare feature1' feature2 = reals.compare feature1 feature2 ∧
        reals.compare feature2 feature1' = reals.compare feature2 feature1) ∧
    (∀ feature, Comparable feature feature → reals.compare feature feature = (true, 1)) ∧
    (∀ feature1 feature2, ¬ Comparable feature1 feature2 →
      reals.compare feature1 feature2 = (false, 0)) := by
  refine ⟨?_, reals_compare_comm, ?_, ?_, fun _ _ h => reals_compare_of_not_comparable h⟩
  · rintro feature1 feature2 ⟨probe, enrolled, hprobe, henrolled, hlength⟩
    have hvectors : (vector probe).length = (vector enrolled).length := by simp [hlength]
    rw [reals_compare hprobe henrolled hlength]
    exact ⟨rfl, abs_le.mp (abs_cosine_le_one hvectors)⟩
  · intro c feature1 feature1' feature2 hc h hscaled
    have heq := reals_compare_scaled hc h hscaled
    exact ⟨heq, by rw [reals_compare_comm, heq, reals_compare_comm]⟩
  · rintro feature ⟨probe, enrolled, hprobe, henrolled, -⟩
    have heq : probe = enrolled := Option.some.inj (hprobe.decoded.symm.trans henrolled.decoded)
    have hpos : 0 < dot (vector probe) (vector probe) := lt_trans (by norm_num) hprobe.norm
    rw [reals_compare hprobe henrolled (by rw [heq]), ← heq, cosine_self hpos]

/-- A vector with one number in all 128 dimensions. -/
def constantFeature (x : Float32) : List Float32 := List.replicate 128 x

theorem realOf_one : realOf 1.0 = 1 := by
  have hunpack : (1.0 : Float32).toModel.unpack = .finite .positive 8388608 (-23) (by decide) := rfl
  rw [realOf, hunpack, value, dyadic]
  norm_num

theorem realOf_two : realOf 2.0 = 2 := by
  have hunpack : (2.0 : Float32).toModel.unpack = .finite .positive 8388608 (-22) (by decide) := rfl
  rw [realOf, hunpack, value, dyadic]
  norm_num

theorem dot_replicate (n : Nat) (x : ℝ) :
    dot (List.replicate n x) (List.replicate n x) = n * (x * x) := by
  induction n with
  | zero => simp
  | succ n ih =>
      rw [List.replicate_succ, dot_cons, ih]
      push_cast
      ring

theorem usable_constantFeature {x : Float32} (hfinite : x.isFinite = true) (hx : 1 ≤ realOf x) :
    Usable (encodeBytesToHex (floatBytes (constantFeature x))) (constantFeature x) := by
  have hlength : (constantFeature x).length = 128 := List.length_replicate
  refine ⟨decodeFeatureHex_encodeBytesToHex ?_, ?_, ?_, ?_, ?_⟩
  · intro hnil
    rw [hnil] at hlength
    cases hlength
  · intro y hy
    rw [List.eq_of_mem_replicate hy]
    exact hfinite
  · rw [hlength, minFeatureDim]
  · rw [hlength, maxFeatureDim]
    decide
  · have hsquare : 1 ≤ realOf x * realOf x := one_le_mul_of_one_le_of_one_le hx hx
    rw [vector, constantFeature, List.map_replicate, dot_replicate]
    norm_num
    linarith

theorem exactSimilarity_constant :
    Scaled 2 (encodeBytesToHex (floatBytes (constantFeature 1.0)))
      (encodeBytesToHex (floatBytes (constantFeature 2.0))) ∧
    reals.compare (encodeBytesToHex (floatBytes (constantFeature 2.0)))
      (encodeBytesToHex (floatBytes (constantFeature 1.0))) = (true, 1) ∧
    reals.compare [] [] = (false, 0) := by
  obtain ⟨-, -, hscale, hself, hother⟩ := exactSimilarity
  have hone := usable_constantFeature (x := 1.0) (by decide) (by rw [realOf_one])
  have htwo := usable_constantFeature (x := 2.0) (by decide) (by rw [realOf_two]; norm_num)
  have hcomparable : Comparable (encodeBytesToHex (floatBytes (constantFeature 1.0)))
      (encodeBytesToHex (floatBytes (constantFeature 1.0))) := ⟨_, _, hone, hone, rfl⟩
  have hvector : vector (constantFeature 2.0) = (vector (constantFeature 1.0)).map (2 * ·) := by
    rw [vector, vector, constantFeature, constantFeature, List.map_replicate, List.map_replicate,
      List.map_replicate, realOf_one, realOf_two, mul_one]
  have hscaled : Scaled 2 (encodeBytesToHex (floatBytes (constantFeature 1.0)))
      (encodeBytesToHex (floatBytes (constantFeature 2.0))) :=
    ⟨_, _, hone.decoded, htwo.decoded, htwo.finite, hvector, htwo.norm⟩
  refine ⟨hscaled, ?_, hother [] [] ?_⟩
  · rw [(hscale 2 _ _ _ (by norm_num) hcomparable hscaled).1, hself _ hcomparable]
  · rintro ⟨probe, enrolled, hprobe, -⟩
    have hnone : (none : Option (List Float32)) = some probe := hprobe.decoded
    cases hnone

end Smile2Unlock.Service
