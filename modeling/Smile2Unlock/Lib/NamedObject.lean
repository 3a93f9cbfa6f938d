/-
  Smile2Unlock.Lib.NamedObject

  An object that a system keeps under a name as long as somebody has a handle of it.

  Parties ask for the object in two ways: a party that creates it becomes its owner if
  nobody has a handle and else gets a handle of the object that is there; a party that
  looks for it gets such a handle or learns that there is none.  `Tenure` is how a party
  stands to the object.  There is one owner at most (`namedOwner_unique`), and who works without
  the object next to an owner did so before the owner created it (`creates_of_beside`).
-/

import Mathlib.Logic.Function.Basic
import Smile2Unlock.Lib.Machine

namespace Lib

/-- A party `passing` has a handle of an object that it did not create; one `beside` it
    works without: it has found no object, or it has given its own back. -/
inductive Tenure where
  | outside
  | passing
  | owner
  | beside
deriving DecidableEq

/-- The party has a handle. -/
def Tenure.Holds : Tenure → Prop
  | .passing | .owner => True
  | .outside | .beside => False

instance : DecidablePred Tenure.Holds
  | .passing | .owner => inferInstanceAs (Decidable True)
  | .outside | .beside => inferInstanceAs (Decidable False)

inductive NamedEvent (π : Type _) where
  | creates (p : π)
  | finds (p : π)
  | misses (p : π)
  | releases (p : π)
  | leaves (p : π)
  | stays

variable {π : Type _} [DecidableEq π]

open Classical in
/-- The parties after an event. -/
noncomputable def NamedEvent.apply (tenure : π → Tenure) : NamedEvent π → Option (π → Tenure)
  | .creates p =>
      if tenure p = .outside ∧ ∀ q, ¬ (tenure q).Holds then
        some (Function.update tenure p .owner)
      else none
  | .finds p =>
      if tenure p = .outside ∧ ∃ q, (tenure q).Holds then
        some (Function.update tenure p .passing)
      else none
  | .misses p =>
      if tenure p = .outside ∧ ∀ q, ¬ (tenure q).Holds then
        some (Function.update tenure p .beside)
      else none
  | .releases p =>
      if tenure p = .owner then some (Function.update tenure p .beside) else none
  | .leaves p => some (Function.update tenure p .outside)
  | .stays => some tenure

/-- Any number of parties and one object.  At first nobody has anything to do with it. -/
noncomputable def namedObject (π : Type _) [DecidableEq π] :
    Machine (π → Tenure) (NamedEvent π) Unit where
  init tenure := ∀ p, tenure p = .outside
  step tenure e := (e.apply tenure).map (·, [])

namespace NamedEvent

theorem apply_creates {tenure : π → Tenure} {p : π} (hp : tenure p = .outside)
    (hnone : ∀ q, ¬ (tenure q).Holds) :
    (creates p).apply tenure = some (Function.update tenure p .owner) :=
  if_pos ⟨hp, hnone⟩

theorem apply_finds {tenure : π → Tenure} {p : π} (hp : tenure p = .outside)
    (hsome : ∃ q, (tenure q).Holds) :
    (finds p).apply tenure = some (Function.update tenure p .passing) :=
  if_pos ⟨hp, hsome⟩

theorem apply_misses {tenure : π → Tenure} {p : π} (hp : tenure p = .outside)
    (hnone : ∀ q, ¬ (tenure q).Holds) :
    (misses p).apply tenure = some (Function.update tenure p .beside) :=
  if_pos ⟨hp, hnone⟩

theorem apply_releases {tenure : π → Tenure} {p : π} (hp : tenure p = .owner) :
    (releases p).apply tenure = some (Function.update tenure p .beside) :=
  if_pos hp

end NamedEvent

-- ============================================================================
-- Owners
-- ============================================================================

section Owners

variable {before after : π → Tenure} {e : NamedEvent π}

theorem eq_of_update {p q : π} {x y : Tenure} (hafter : Function.update before p x = after)
    (hq : after q = y) (hne : x ≠ y) : before q = y := by
  by_cases heq : q = p
  · rw [← hafter, heq, Function.update_self] at hq
    exact absurd hq hne
  · rwa [← hafter, Function.update_of_ne heq] at hq

/-- A party that is the owner after an event was it before, or has created the object
    that nobody had. -/
theorem owner_cases (h : e.apply before = some after) {q : π} (hq : after q = .owner) :
    before q = .owner ∨ (e = .creates q ∧ after = Function.update before q .owner ∧
      ∀ r, ¬ (before r).Holds) := by
  cases e with
  | creates p =>
      obtain ⟨⟨-, hnone⟩, hafter⟩ := Option.ite_none_right_eq_some.mp h
      by_cases heq : q = p
      · subst heq
        exact Or.inr ⟨rfl, (Option.some.inj hafter).symm, hnone⟩
      · rw [← Option.some.inj hafter, Function.update_of_ne heq] at hq
        exact Or.inl hq
  | finds p =>
      have hafter := Option.some.inj (Option.ite_none_right_eq_some.mp h).2
      exact Or.inl (eq_of_update hafter hq (by decide))
  | misses p =>
      have hafter := Option.some.inj (Option.ite_none_right_eq_some.mp h).2
      exact Or.inl (eq_of_update hafter hq (by decide))
  | releases p =>
      have hafter := Option.some.inj (Option.ite_none_right_eq_some.mp h).2
      exact Or.inl (eq_of_update hafter hq (by decide))
  | leaves p => exact Or.inl (eq_of_update (Option.some.inj h) hq (by decide))
  | stays =>
      rw [← Option.some.inj h] at hq
      exact Or.inl hq

/-- A party that is beside the object after an event was so before, has found no object,
    or has given its own back. -/
theorem beside_cases (h : e.apply before = some after) {p : π} (hp : after p = .beside) :
    before p = .beside ∨ (∀ r, ¬ (before r).Holds ∧ after r ≠ .owner) ∨
      (before p = .owner ∧ after = Function.update before p .beside) := by
  cases e with
  | creates r =>
      have hafter := Option.some.inj (Option.ite_none_right_eq_some.mp h).2
      exact Or.inl (eq_of_update hafter hp (by decide))
  | finds r =>
      have hafter := Option.some.inj (Option.ite_none_right_eq_some.mp h).2
      exact Or.inl (eq_of_update hafter hp (by decide))
  | misses r =>
      obtain ⟨⟨-, hnone⟩, hafter⟩ := Option.ite_none_right_eq_some.mp h
      refine Or.inr (Or.inl fun q => ⟨hnone q, fun hq => ?_⟩)
      rcases owner_cases h hq with howner | ⟨hcreates, -⟩
      · exact hnone q (by rw [howner]; trivial)
      · cases hcreates
  | releases r =>
      obtain ⟨howner, hafter⟩ := Option.ite_none_right_eq_some.mp h
      by_cases heq : p = r
      · subst heq
        exact Or.inr (Or.inr ⟨howner, (Option.some.inj hafter).symm⟩)
      · rw [← Option.some.inj hafter, Function.update_of_ne heq] at hp
        exact Or.inl hp
  | leaves r => exact Or.inl (eq_of_update (Option.some.inj h) hp (by decide))
  | stays =>
      rw [← Option.some.inj h] at hp
      exact Or.inl hp

end Owners

section Runs

open Machine

variable {tr : List (Transition (π → Tenure) (NamedEvent π) Unit)} {tenure : π → Tenure}

theorem apply_of_takes {t : Transition (π → Tenure) (NamedEvent π) Unit}
    (ht : (namedObject π).Takes t) : t.event.apply t.before = some t.after := by
  obtain ⟨after, happly, heq⟩ := Option.map_eq_some_iff.mp ht
  obtain ⟨rfl, -⟩ := Prod.mk.inj heq
  exact happly

/-- The object has one owner at most. -/
theorem namedOwner_unique (h : (namedObject π).Run tr tenure) {p q : π} (hp : tenure p = .owner)
    (hq : tenure q = .owner) : p = q := by
  refine h.invariant (P := fun _ tenure => ∀ p q, tenure p = .owner → tenure q = .owner → p = q)
    ?_ ?_ p q hp hq
  · intro tenure₀ hinit p q hp
    rw [hinit p] at hp
    cases hp
  · intro tr t ih ht p q hp hq
    have happly := apply_of_takes ht
    rcases owner_cases happly hp with hp' | ⟨hcreates, -, hnone⟩
    · rcases owner_cases happly hq with hq' | ⟨-, -, hnone⟩
      · exact ih p q hp' hq'
      · exact absurd (by rw [hp']; trivial) (hnone p)
    · rcases owner_cases happly hq with hq' | ⟨hcreates', -⟩
      · exact absurd (by rw [hq']; trivial) (hnone q)
      · rw [hcreates] at hcreates'
        exact NamedEvent.creates.inj hcreates'

/-- A party beside the object of somebody else was so when the owner created it. -/
theorem creates_of_beside (h : (namedObject π).Run tr tenure) {p q : π}
    (hp : tenure p = .beside) (hq : tenure q = .owner) :
    ∃ t ∈ tr, t.event = .creates q ∧ t.before p = .beside := by
  obtain ⟨tenure₀, hinit, hsteps⟩ := h
  induction hsteps generalizing p q with
  | nil =>
      rw [hinit p] at hp
      cases hp
  | @snoc tr t hsteps ht ih =>
      have happly := apply_of_takes ht
      rcases owner_cases happly hq with hq' | ⟨hcreates, hafter, -⟩
      · rcases beside_cases happly hp with hp' | hmissed | ⟨howner, hafter⟩
        · exact exists_mem_snoc (ih hp' hq') t
        · exact absurd hq (hmissed q).2
        · -- the only owner has just given the object back
          obtain rfl := namedOwner_unique ⟨tenure₀, hinit, hsteps⟩ howner hq'
          rw [hp] at hq
          cases hq
      · refine ⟨t, List.mem_append_right _ (List.mem_singleton_self t), hcreates, ?_⟩
        by_cases heq : p = q
        · rw [heq, hq] at hp
          cases hp
        · rwa [hafter, Function.update_of_ne heq] at hp

end Runs

end Lib
