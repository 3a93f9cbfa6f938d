/-
  Smile2Unlock.Lib.FirstMax

  A running maximum: a fold that keeps the best key seen so far and the owner
  of the entry it came from.

  Entries without a key are skipped and the comparison is strict, so the fold
  ends with the owner of the first entry that attains the greatest key above
  the start value (`foldl_keepMax_of_isGreatest`), or with the start value when
  no key exceeds it (`foldl_keepMax_of_le`).
-/

import Mathlib.Order.Bounds.Basic
import Mathlib.Data.Finset.Max
import Mathlib.Data.Finset.Dedup

namespace Lib

variable {α β R : Type _} [LinearOrder R]

/-- One step of the running maximum. -/
def keepMax (key : α → Option R) (owner : α → β) (best : R × β) (a : α) : R × β :=
  match key a with
  | none => best
  | some x => if best.1 < x then (x, owner a) else best

/-- The keys above `z` that occur in a list. -/
def keysAbove (key : α → Option R) (z : R) (l : List α) : Set R :=
  {x | z < x ∧ ∃ a ∈ l, key a = some x}

variable {key : α → Option R} {owner : α → β}

/-- No key exceeds the start value: the fold returns its start. -/
theorem foldl_keepMax_of_le {l : List α} {z : R} {b : β}
    (h : ∀ a ∈ l, ∀ x, key a = some x → x ≤ z) : l.foldl (keepMax key owner) (z, b) = (z, b) := by
  induction l with
  | nil => rfl
  | cons a l ih =>
      have hstep : keepMax key owner (z, b) a = (z, b) := by
        rw [keepMax]
        split
        · rfl
        · rename_i x hx
          exact if_neg (not_lt.mpr (h a (by simp) x hx))
      rw [List.foldl_cons, hstep]
      exact ih fun c hc => h c (by simp [hc])

/-- `m` is the greatest key above the start value: the fold returns it, with the
    owner of the first entry that has it. -/
theorem foldl_keepMax_of_isGreatest {l : List α} {z m : R} {b : β}
    (h : IsGreatest (keysAbove key z l) m) :
    ∃ a, l.find? (fun a => key a = some m) = some a ∧
      l.foldl (keepMax key owner) (z, b) = (m, owner a) := by
  induction l generalizing z b with
  | nil =>
      obtain ⟨⟨-, a, ha, -⟩, -⟩ := h
      cases ha
  | cons a l ih =>
      obtain ⟨⟨hzm, c, hc, hcm⟩, hub⟩ := h
      have htail : ∀ x, z < x → (∃ c ∈ l, key c = some x) → x ≤ m :=
        fun x hx ⟨c, hc, hcx⟩ => hub ⟨hx, c, by simp [hc], hcx⟩
      by_cases ham : key a = some m
      · -- the head attains the maximum, and nothing after it is greater
        refine ⟨a, by simp [ham], ?_⟩
        have hstep : keepMax key owner (z, b) a = (m, owner a) := by
          simp [keepMax, ham, hzm]
        rw [List.foldl_cons, hstep]
        refine foldl_keepMax_of_le fun c hc x hcx => ?_
        by_contra hlt
        exact hlt (htail x (lt_trans hzm (not_le.mp hlt)) ⟨c, hc, hcx⟩)
      · have hcl : c ∈ l := by
          rcases List.mem_cons.mp hc with rfl | hc
          · exact absurd hcm ham
          · exact hc
        -- whatever the head leaves as start value is still below `m`
        obtain ⟨z', b', hstep, hz', hzz'⟩ : ∃ z' b',
            keepMax key owner (z, b) a = (z', b') ∧ z' < m ∧ z ≤ z' := by
          rw [keepMax]
          split
          · exact ⟨z, b, rfl, hzm, le_refl z⟩
          · rename_i x hx
            split
            · rename_i hzx
              have hxm : x ≠ m := fun h => ham (h ▸ hx)
              exact ⟨x, owner a, rfl, lt_of_le_of_ne (hub ⟨hzx, a, by simp, hx⟩) hxm, le_of_lt hzx⟩
            · exact ⟨z, b, rfl, hzm, le_refl z⟩
        have hg : IsGreatest (keysAbove key z' l) m :=
          ⟨⟨hz', c, hcl, hcm⟩, fun x ⟨hx, hex⟩ => htail x (lt_of_le_of_lt hzz' hx) hex⟩
        obtain ⟨d, hd, hfold⟩ := ih (b := b') hg
        refine ⟨d, by simp [ham, hd], ?_⟩
        rw [List.foldl_cons, hstep, hfold]

/-- A finite list has a greatest key above `z`, or no key exceeds `z`. -/
theorem exists_isGreatest_or_le (key : α → Option R) (z : R) (l : List α) :
    (∃ m, IsGreatest (keysAbove key z l) m) ∨ ∀ a ∈ l, ∀ x, key a = some x → x ≤ z := by
  have hkeys : ∀ x, x ∈ ((l.filterMap key).toFinset.filter (z < ·)) ↔ x ∈ keysAbove key z l := by
    intro x
    rw [Finset.mem_filter, List.mem_toFinset, List.mem_filterMap, keysAbove, Set.mem_ofPred_eq]
    exact and_comm
  rcases ((l.filterMap key).toFinset.filter (z < ·)).eq_empty_or_nonempty with hnone | hsome
  · refine Or.inr fun a ha x hx => not_lt.mp fun hzx => ?_
    have hmem := (hkeys x).mpr ⟨hzx, a, ha, hx⟩
    rw [hnone] at hmem
    exact Finset.notMem_empty x hmem
  · obtain ⟨hmem, hub⟩ := Finset.isGreatest_max' _ hsome
    exact Or.inl ⟨_, (hkeys _).mp hmem, fun x hx => hub ((hkeys x).mpr hx)⟩

end Lib
