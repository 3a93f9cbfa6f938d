/-
  Smile2Unlock.Lib.Cosine

  The inner product of two lists of numbers and the cosine of the angle between them.

  `dot_sq_le` is the inequality of Cauchy and Schwarz for lists of one length; from it the
  cosine lies between -1 and 1 (`abs_cosine_le_one`).  The cosine is symmetric, does not
  change when one list is scaled, and is one for a list with itself.
-/

import Mathlib.Algebra.BigOperators.Fin
import Mathlib.Algebra.Order.BigOperators.Ring.Finset
import Mathlib.Analysis.Real.Sqrt

namespace Lib

section

variable {R : Type _} [CommRing R]

/-- The sum of the products. -/
def dot (u v : List R) : R := (List.zipWith (· * ·) u v).sum

@[simp] theorem dot_nil (v : List R) : dot [] v = 0 := rfl

@[simp] theorem dot_cons (x y : R) (u v : List R) : dot (x :: u) (y :: v) = x * y + dot u v := by
  rw [dot, List.zipWith_cons_cons, List.sum_cons, dot]

theorem dot_comm (u v : List R) : dot u v = dot v u := by
  rw [dot, dot, List.zipWith_comm]
  congr 2
  funext x y
  exact mul_comm y x

/-- A factor of one list is a factor of the product. -/
theorem dot_map_mul (c : R) (u v : List R) : dot (u.map (c * ·)) v = c * dot u v := by
  induction u generalizing v with
  | nil => rw [List.map_nil, dot_nil, mul_zero]
  | cons x u ih =>
      cases v with
      | nil =>
          rw [dot_comm, dot_nil, dot_comm, dot_nil, mul_zero]
      | cons y v =>
          rw [List.map_cons, dot_cons, dot_cons, ih v, mul_add, mul_assoc]

theorem dot_map_mul_self (c : R) (u : List R) :
    dot (u.map (c * ·)) (u.map (c * ·)) = c * c * dot u u := by
  rw [dot_map_mul, dot_comm, dot_map_mul, mul_assoc]

/-- The product of lists of one length, by position. -/
theorem dot_eq_sum {u v : List R} (h : u.length = v.length) :
    dot u v = ∑ i : Fin u.length, u.get i * v.get (i.cast h) := by
  induction u generalizing v with
  | nil => rfl
  | cons x u ih =>
      cases v with
      | nil => cases h
      | cons y v =>
          rw [dot_cons, ih (Nat.succ.inj h)]
          exact (Fin.sum_univ_succ fun i : Fin (u.length + 1) =>
            (x :: u).get i * (y :: v).get (i.cast h)).symm

variable [LinearOrder R] [IsStrictOrderedRing R]

theorem dot_self_nonneg (u : List R) : 0 ≤ dot u u := by
  induction u with
  | nil => exact le_refl 0
  | cons x u ih =>
      rw [dot_cons]
      exact add_nonneg (mul_self_nonneg x) ih

/-- The inequality of Cauchy and Schwarz. -/
theorem dot_sq_le {u v : List R} (h : u.length = v.length) :
    dot u v ^ 2 ≤ dot u u * dot v v := by
  have hv : dot v v = ∑ i : Fin u.length, v.get (i.cast h) * v.get (i.cast h) := by
    rw [dot_eq_sum rfl]
    exact (Fintype.sum_equiv (finCongr h) (fun i => v.get (i.cast h) * v.get (i.cast h))
      (fun i => v.get i * v.get i) fun i => rfl).symm
  have hcauchy := Finset.sum_mul_sq_le_sq_mul_sq Finset.univ u.get fun i => v.get (i.cast h)
  simp only [sq] at hcauchy ⊢
  rw [dot_eq_sum h, dot_eq_sum rfl, hv]
  exact hcauchy

end

-- ============================================================================
-- The cosine
-- ============================================================================

/-- The product over the two norms. -/
noncomputable def cosine (u v : List ℝ) : ℝ := dot u v / (√(dot u u) * √(dot v v))

theorem cosine_comm (u v : List ℝ) : cosine u v = cosine v u := by
  rw [cosine, cosine, dot_comm u v, mul_comm]

theorem abs_cosine_le_one {u v : List ℝ} (h : u.length = v.length) : |cosine u v| ≤ 1 := by
  have hdot : |dot u v| ≤ √(dot u u) * √(dot v v) := by
    rw [← Real.sqrt_mul (dot_self_nonneg u)]
    exact Real.abs_le_sqrt (dot_sq_le h)
  have hnorms : 0 ≤ √(dot u u) * √(dot v v) := by positivity
  rw [cosine, abs_div, abs_of_nonneg hnorms]
  exact div_le_one_of_le₀ hdot hnorms

theorem cosine_self {u : List ℝ} (h : 0 < dot u u) : cosine u u = 1 := by
  rw [cosine, Real.mul_self_sqrt h.le, div_self h.ne']

/-- A positive factor cancels. -/
theorem cosine_map_mul {c : ℝ} (hc : 0 < c) (u v : List ℝ) :
    cosine (u.map (c * ·)) v = cosine u v := by
  have hnorm : √(dot (u.map (c * ·)) (u.map (c * ·))) = c * √(dot u u) := by
    rw [dot_map_mul_self, Real.sqrt_mul (mul_self_nonneg c), Real.sqrt_mul_self hc.le]
  rw [cosine, cosine, hnorm, dot_map_mul, mul_assoc, mul_div_mul_left _ _ hc.ne']

end Lib
