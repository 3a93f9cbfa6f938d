/-
  Smile2Unlock.Lib.Queue

  A queue on which one kind of value follows another.

  `Queued p q` says that the queue holds values with `p`, and from the first of them
  on nothing else: whoever takes the values off its front meets the first one with
  `p` (`Queued.tail`) and after that only such values.
-/

import Mathlib.Data.List.Basic

namespace Lib

variable {α : Type _} {p : α → Prop}

/-- Values without `p`, then one with `p`, then only values with `p`. -/
def Queued (p : α → Prop) (q : List α) : Prop :=
  ∃ front a back, q = front ++ a :: back ∧ (∀ b ∈ front, ¬ p b) ∧ p a ∧ ∀ b ∈ back, p b

/-- The first value with `p`. -/
theorem queued_of_snoc {q : List α} {a : α} (hq : ∀ b ∈ q, ¬ p b) (ha : p a) :
    Queued p (q ++ [a]) :=
  ⟨q, a, [], rfl, hq, ha, by simp⟩

theorem Queued.snoc {q : List α} {a : α} (h : Queued p q) (ha : p a) : Queued p (q ++ [a]) := by
  obtain ⟨front, b, back, rfl, hfront, hb, hback⟩ := h
  refine ⟨front, b, back ++ [a], by simp, hfront, hb, ?_⟩
  intro c hc
  rcases List.mem_append.mp hc with hc | hc
  · exact hback c hc
  · rw [List.mem_singleton.mp hc]
    exact ha

/-- The value at the front is one without `p`, and the rest is still queued so, or it is
    the first with `p`, and only such values follow. -/
theorem Queued.tail {q : List α} {a : α} (h : Queued p (a :: q)) :
    (¬ p a ∧ Queued p q) ∨ (p a ∧ ∀ b ∈ q, p b) := by
  obtain ⟨front, b, back, heq, hfront, hb, hback⟩ := h
  cases front with
  | nil =>
      cases heq
      exact Or.inr ⟨hb, hback⟩
  | cons c front =>
      cases heq
      exact Or.inl ⟨hfront a (by simp), front, b, back, rfl,
        fun d hd => hfront d (by simp [hd]), hb, hback⟩

theorem Queued.exists_mem {q : List α} (h : Queued p q) : ∃ a ∈ q, p a := by
  obtain ⟨front, a, back, rfl, -, ha, -⟩ := h
  exact ⟨a, by simp, ha⟩

end Lib
