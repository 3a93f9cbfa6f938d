/-
  Smile2Unlock.Lib.PaddedLex

  Lists compared entry by entry, where an entry behind the end of a list is read as a
  default.

  As sequences the lists are ordered lexicographically (`Pi.Lex`), which is a linear order.
  The loop stops at the end of the longer list: `comparePadded_cases` says that this
  decides the order of the sequences.
-/

import Mathlib.Data.List.GetD
import Mathlib.Order.PiLex

namespace Lib.PaddedLex

variable {α : Type _} (d : α)

/-- A list as a sequence. -/
def padded (l : List α) : Nat → α := fun i => l.getD i d

variable [LinearOrder α]

/-- One pass of the loop: the result, if the entries differ. -/
def compareEntry (l r : List α) (i : Nat) : Option Int :=
  if l.getD i d < r.getD i d then some (-1) else if l.getD i d > r.getD i d then some 1 else none

/-- The result at the first difference, else 0. -/
def comparePadded (l r : List α) : Int :=
  ((List.range (max l.length r.length)).findSome? (compareEntry d l r)).getD 0

variable {d} {l r : List α}

/-- What the first `n` passes say. -/
theorem findSome?_range (n : Nat) :
    ((List.range n).findSome? (compareEntry d l r) = none ∧
      ∀ i < n, padded d l i = padded d r i) ∨
    ((List.range n).findSome? (compareEntry d l r) = some (-1) ∧
      toLex (padded d l) < toLex (padded d r)) ∨
    ((List.range n).findSome? (compareEntry d l r) = some 1 ∧
      toLex (padded d r) < toLex (padded d l)) := by
  induction n with
  | zero => exact .inl ⟨rfl, fun i hi => absurd hi (Nat.not_lt_zero i)⟩
  | succ n ih =>
      rw [List.range_succ, List.findSome?_append]
      rcases ih with ⟨hnone, hsame⟩ | ⟨hsome, hlt⟩ | ⟨hsome, hlt⟩
      · rw [hnone, Option.none_or, List.findSome?_singleton, compareEntry]
        by_cases hlt : l.getD n d < r.getD n d
        · rw [if_pos hlt]
          exact .inr (.inl ⟨rfl, n, hsame, hlt⟩)
        · rw [if_neg hlt]
          by_cases hgt : l.getD n d > r.getD n d
          · rw [if_pos hgt]
            exact .inr (.inr ⟨rfl, n, fun i hi => (hsame i hi).symm, hgt⟩)
          · rw [if_neg hgt]
            refine .inl ⟨rfl, fun i hi => ?_⟩
            rcases Nat.lt_succ_iff_lt_or_eq.mp hi with hi | rfl
            · exact hsame i hi
            · exact le_antisymm (not_lt.mp hgt) (not_lt.mp hlt)
      · exact .inr (.inl ⟨by rw [hsome, Option.some_or], hlt⟩)
      · exact .inr (.inr ⟨by rw [hsome, Option.some_or], hlt⟩)

/-- The loop decides the order of the sequences. -/
theorem comparePadded_cases :
    (comparePadded d l r = 0 ∧ padded d l = padded d r) ∨
    (comparePadded d l r = -1 ∧ toLex (padded d l) < toLex (padded d r)) ∨
    (comparePadded d l r = 1 ∧ toLex (padded d r) < toLex (padded d l)) := by
  rw [comparePadded]
  rcases @findSome?_range _ d _ l r (max l.length r.length) with ⟨hnone, hsame⟩ | ⟨hsome, hlt⟩ | ⟨hsome, hlt⟩
  · refine .inl ⟨by rw [hnone, Option.getD_none], funext fun i => ?_⟩
    by_cases hi : i < max l.length r.length
    · exact hsame i hi
    · -- both lists have ended
      have hl : l.length ≤ i := by omega
      have hr : r.length ≤ i := by omega
      rw [padded, padded, List.getD_eq_default _ _ hl, List.getD_eq_default _ _ hr]
  · exact .inr (.inl ⟨by rw [hsome, Option.getD_some], hlt⟩)
  · exact .inr (.inr ⟨by rw [hsome, Option.getD_some], hlt⟩)

theorem comparePadded_eq_zero_iff : comparePadded d l r = 0 ↔ padded d l = padded d r := by
  rcases @comparePadded_cases _ d _ l r with ⟨heq, hsame⟩ | ⟨heq, hlt⟩ | ⟨heq, hlt⟩
  · exact iff_of_true heq hsame
  · exact iff_of_false (by omega) fun hsame => lt_irrefl _ (hsame ▸ hlt)
  · exact iff_of_false (by omega) fun hsame => lt_irrefl _ (hsame ▸ hlt)

theorem comparePadded_lt_zero_iff :
    comparePadded d l r < 0 ↔ toLex (padded d l) < toLex (padded d r) := by
  rcases @comparePadded_cases _ d _ l r with ⟨heq, hsame⟩ | ⟨heq, hlt⟩ | ⟨heq, hlt⟩
  · rw [hsame]
    exact iff_of_false (by omega) (lt_irrefl _)
  · exact iff_of_true (by omega) hlt
  · exact iff_of_false (by omega) (lt_asymm hlt)

/-- Comparing the other way gives the other sign. -/
theorem comparePadded_swap : comparePadded d r l = -comparePadded d l r := by
  rcases @comparePadded_cases _ d _ l r with ⟨heq, hsame⟩ | ⟨heq, hlt⟩ | ⟨heq, hlt⟩
  · rw [heq, comparePadded_eq_zero_iff.mpr hsame.symm, Int.neg_zero]
  · rcases @comparePadded_cases _ d _ r l with ⟨-, hsame⟩ | ⟨-, hlt'⟩ | ⟨heq', -⟩
    · exact absurd (hsame ▸ hlt) (lt_irrefl _)
    · exact absurd hlt' (lt_asymm hlt)
    · rw [heq, heq', Int.neg_neg]
  · have hneg := comparePadded_lt_zero_iff.mpr hlt
    rcases @comparePadded_cases _ d _ r l with ⟨heq', -⟩ | ⟨heq', -⟩ | ⟨heq', -⟩
    · omega
    · rw [heq, heq']
    · omega

theorem comparePadded_le_zero_iff :
    comparePadded d l r ≤ 0 ↔ toLex (padded d l) ≤ toLex (padded d r) := by
  have hswap := @comparePadded_swap _ d _ l r
  have hlt := @comparePadded_lt_zero_iff _ d _ r l
  have hle : ¬ toLex (padded d r) < toLex (padded d l) ↔ toLex (padded d l) ≤ toLex (padded d r) :=
    not_lt
  rw [← hle, ← hlt]
  omega

theorem comparePadded_trans {m : List α} (hl : comparePadded d l m ≤ 0)
    (hr : comparePadded d m r ≤ 0) : comparePadded d l r ≤ 0 :=
  comparePadded_le_zero_iff.mpr
    (le_trans (comparePadded_le_zero_iff.mp hl) (comparePadded_le_zero_iff.mp hr))

end Lib.PaddedLex
