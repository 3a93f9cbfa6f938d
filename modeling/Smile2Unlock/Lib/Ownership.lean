/-
  Smile2Unlock.Lib.Ownership

  Parents, and children that are given to one parent each.

  The names of parents and children may be used again after a removal, so that a
  name alone does not say who is meant.  `given` says it by the history: a child
  that is there was given to its parent by some step, and since that step the
  parent was neither created nor removed, nor the child taken away.
-/

import Mathlib.Data.Set.Insert
import Smile2Unlock.Lib.Machine

namespace Lib

variable {α β : Type _}

/-- The parents that exist, and each child with its parent. -/
@[ext]
structure Owners (α β : Type _) where
  parents : Set α
  children : Set (α × β)

/-- What one step does to them. -/
inductive OwnerChange (α β : Type _) where
  | keep
  | create (a : α)
  | remove (a : α)
  | give (a : α) (b : β)
  | take (a : α) (b : β)

namespace Owners

/-- A parent takes its children along when it is removed. -/
def apply (o : Owners α β) : OwnerChange α β → Owners α β
  | .keep => o
  | .create a => ⟨insert a o.parents, o.children⟩
  | .remove a => ⟨o.parents \ {a}, {p | p ∈ o.children ∧ p.1 ≠ a}⟩
  | .give a b => ⟨o.parents, insert (a, b) o.children⟩
  | .take a b => ⟨o.parents, o.children \ {(a, b)}⟩

/-- A parent is created under a free name, and a child under a free name is given
    to a parent that exists. -/
def Allows (o : Owners α β) : OwnerChange α β → Prop
  | .create a => a ∉ o.parents
  | .give a b => a ∈ o.parents ∧ ∀ p ∈ o.children, p.2 ≠ b
  | _ => True

abbrev Step (α β : Type _) := Transition (Owners α β) (OwnerChange α β) Empty

open Classical in
/-- The machine of the allowed changes, from nobody and nothing. -/
noncomputable def machine (α β : Type _) : Machine (Owners α β) (OwnerChange α β) Empty where
  init o := o.parents = ∅ ∧ o.children = ∅
  step o c := if o.Allows c then some (o.apply c, []) else none

/-- The step that makes an allowed change. -/
def stepOf (o : Owners α β) (c : OwnerChange α β) : Step α β := ⟨o, c, [], o.apply c⟩

theorem takes_stepOf {o : Owners α β} {c : OwnerChange α β} (h : o.Allows c) :
    (machine α β).Takes (o.stepOf c) :=
  if_pos h

theorem allows_of_takes {t : Step α β} (h : (machine α β).Takes t) :
    t.before.Allows t.event ∧ t.after = t.before.apply t.event := by
  simp only [Machine.Takes, machine] at h
  split at h
  · rename_i hallows
    exact ⟨hallows, (Prod.mk.inj (Option.some.inj h)).1.symm⟩
  · cases h

-- ============================================================================
-- Runs
-- ============================================================================

/-- No child outlives its parent, and no child has two. -/
structure Sound (o : Owners α β) : Prop where
  parent_mem : ∀ p ∈ o.children, p.1 ∈ o.parents
  parent_unique : ∀ p ∈ o.children, ∀ q ∈ o.children, p.2 = q.2 → p = q

theorem Sound.apply {o : Owners α β} (h : o.Sound) {c : OwnerChange α β} (hc : o.Allows c) :
    (o.apply c).Sound := by
  cases c with
  | keep => exact h
  | create a =>
      exact ⟨fun p hp => Set.mem_insert_of_mem a (h.parent_mem p hp), h.parent_unique⟩
  | remove a =>
      refine ⟨?_, ?_⟩
      · rintro p ⟨hp, hne⟩
        exact ⟨h.parent_mem p hp, hne⟩
      · rintro p ⟨hp, -⟩ q ⟨hq, -⟩
        exact h.parent_unique p hp q hq
  | give a b =>
      obtain ⟨ha, hfree⟩ := hc
      refine ⟨?_, ?_⟩
      · rintro p (rfl | hp)
        · exact ha
        · exact h.parent_mem p hp
      · rintro p (rfl | hp) q (rfl | hq) heq
        · rfl
        · exact absurd heq.symm (hfree q hq)
        · exact absurd heq (hfree p hp)
        · exact h.parent_unique p hp q hq heq
  | take a b =>
      refine ⟨?_, ?_⟩
      · rintro p ⟨hp, -⟩
        exact h.parent_mem p hp
      · rintro p ⟨hp, -⟩ q ⟨hq, -⟩
        exact h.parent_unique p hp q hq

theorem sound_of_run {o : Owners α β} {tr : List (Step α β)} (h : (machine α β).Run tr o) :
    o.Sound := by
  refine Machine.Run.invariant (P := fun _ o => o.Sound) ?_ ?_ h
  · rintro o ⟨-, hnone⟩
    have hno : ∀ p, p ∉ o.children := by
      intro p
      rw [hnone]
      exact Set.notMem_empty p
    exact ⟨fun p hp => absurd hp (hno p), fun p hp => absurd hp (hno p)⟩
  · intro tr t ih ht
    obtain ⟨hallows, hafter⟩ := allows_of_takes ht
    rw [hafter]
    exact ih.apply hallows

/-- The step gives `b` to `a`, who exists. -/
def Gives (a : α) (b : β) (t : Step α β) : Prop :=
  t.event = .give a b ∧ a ∈ t.before.parents

/-- The step changes who `a` is, or takes `b` from `a`. -/
def Ends (a : α) (b : β) (t : Step α β) : Prop :=
  t.event = .create a ∨ t.event = .remove a ∨ t.event = .take a b

/-- A child that is there after a step was there before it and the step ends
    nothing, or the step gives it. -/
theorem mem_children_of_takes {t : Step α β} (h : (machine α β).Takes t) (hs : t.before.Sound)
    {a : α} {b : β} (hmem : (a, b) ∈ t.after.children) :
    Gives a b t ∨ ((a, b) ∈ t.before.children ∧ ¬ Ends a b t) := by
  obtain ⟨hallows, hafter⟩ := allows_of_takes h
  rw [hafter] at hmem
  rw [Gives, Ends]
  cases he : t.event with
  | keep =>
      rw [he] at hmem
      exact Or.inr ⟨hmem, by simp⟩
  | create a' =>
      rw [he] at hmem hallows
      refine Or.inr ⟨hmem, ?_⟩
      -- the parent exists, so its name is not free
      rintro (heq | heq | heq)
      · obtain rfl := OwnerChange.create.inj heq
        exact hallows (hs.parent_mem _ hmem)
      · cases heq
      · cases heq
  | remove a' =>
      rw [he] at hmem
      obtain ⟨hmem, hne⟩ := hmem
      refine Or.inr ⟨hmem, ?_⟩
      rintro (heq | heq | heq)
      · cases heq
      · exact hne (OwnerChange.remove.inj heq).symm
      · cases heq
  | give a' b' =>
      rw [he] at hmem hallows
      rcases hmem with heq | hmem
      · obtain ⟨rfl, rfl⟩ := Prod.mk.inj heq
        exact Or.inl ⟨rfl, hallows.1⟩
      · exact Or.inr ⟨hmem, by simp⟩
  | take a' b' =>
      rw [he] at hmem
      obtain ⟨hmem, hne⟩ := hmem
      refine Or.inr ⟨hmem, ?_⟩
      rintro (heq | heq | heq)
      · cases heq
      · cases heq
      · obtain ⟨rfl, rfl⟩ := OwnerChange.take.inj heq
        exact hne rfl

/-- A child was given to its parent, and who the parent is has not changed
    since. -/
theorem given {o : Owners α β} {tr : List (Step α β)} (h : (machine α β).Run tr o) {a : α}
    {b : β} (hmem : (a, b) ∈ o.children) : Since (Gives a b) (Ends a b) tr := by
  obtain ⟨o₀, ⟨hparents, hnone⟩, hs⟩ := h
  induction hs with
  | nil =>
      rw [hnone] at hmem
      cases hmem
  | @snoc tr t hs ht ih =>
      have hsound : t.before.Sound := sound_of_run ⟨o₀, ⟨hparents, hnone⟩, hs⟩
      rw [since_snoc]
      exact (mem_children_of_takes ht hsound hmem).imp_right fun hold => ⟨ih hold.1, hold.2⟩

/-- A parent has no child when it is created. -/
theorem childless_of_create {o : Owners α β} {tr : List (Step α β)}
    (h : (machine α β).Run tr o) {t : Step α β} (ht : t ∈ tr) {a : α}
    (hcreate : t.event = .create a) (b : β) : (a, b) ∉ t.after.children := by
  obtain ⟨pre, post, rfl⟩ := List.append_of_mem ht
  obtain ⟨hrun, htakes⟩ := h.cut pre t post rfl
  obtain ⟨hallows, hafter⟩ := allows_of_takes htakes
  rw [hcreate] at hallows hafter
  rw [hafter]
  exact fun hmem => hallows ((sound_of_run hrun).parent_mem _ hmem)

end Owners

end Lib
