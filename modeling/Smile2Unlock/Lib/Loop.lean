/-
  Smile2Unlock.Lib.Loop

  Loops that a `break` or an exception leaves.

  The body takes the state and the next input, and continues with a state or leaves the
  loop with a result.  `loop_invariant` carries an invariant to where the loop stands,
  `loop_exit` to its result; `loop_history` carries one that speaks about the inputs so
  far, and `loop_exit_iff` finds the pass that leaves the loop.

  On an endless stream of inputs a loop may never be left.  It is (`Leaves`) exactly if
  some pass leaves it (`leaves_iff`).
-/

import Mathlib.Data.List.Basic
import Mathlib.Data.List.Induction

namespace Lib

variable {σ ι ρ : Type _}

/-- What follows a pass through the body. -/
inductive ControlFlow (σ ρ : Type _) where
  | next (s : σ)
  | exit (r : ρ)
deriving DecidableEq

/-- The loop on the inputs so far: still running, or left. -/
def loop (body : σ → ι → ControlFlow σ ρ) (s : σ) : List ι → ControlFlow σ ρ
  | [] => .next s
  | i :: rest =>
      match body s i with
      | .next s' => loop body s' rest
      | .exit r => .exit r

theorem loop_cons_next {body : σ → ι → ControlFlow σ ρ} {s s' : σ} {i : ι}
    (h : body s i = .next s') (rest : List ι) : loop body s (i :: rest) = loop body s' rest := by
  rw [loop, h]

theorem loop_cons_exit {body : σ → ι → ControlFlow σ ρ} {s : σ} {i : ι} {r : ρ}
    (h : body s i = .exit r) (rest : List ι) : loop body s (i :: rest) = .exit r := by
  rw [loop, h]

theorem loop_append_next {body : σ → ι → ControlFlow σ ρ} {s s' : σ} {is : List ι}
    (h : loop body s is = .next s') (rest : List ι) :
    loop body s (is ++ rest) = loop body s' rest := by
  induction is generalizing s with
  | nil =>
      obtain rfl := ControlFlow.next.inj h
      rfl
  | cons i is ih =>
      cases hbody : body s i with
      | next t =>
          rw [loop_cons_next hbody] at h
          rw [List.cons_append, loop_cons_next hbody]
          exact ih h
      | exit r => rw [loop_cons_exit hbody] at h; cases h

theorem loop_append_exit {body : σ → ι → ControlFlow σ ρ} {s : σ} {is : List ι} {r : ρ}
    (h : loop body s is = .exit r) (rest : List ι) : loop body s (is ++ rest) = .exit r := by
  induction is generalizing s with
  | nil => cases h
  | cons i is ih =>
      cases hbody : body s i with
      | next t =>
          rw [loop_cons_next hbody] at h
          rw [List.cons_append, loop_cons_next hbody]
          exact ih h
      | exit r' =>
          rw [loop_cons_exit hbody] at h
          rw [List.cons_append, loop_cons_exit hbody]
          exact h

/-- What the body keeps holds wherever the loop stands. -/
theorem loop_invariant {body : σ → ι → ControlFlow σ ρ} {P : σ → Prop}
    (hstep : ∀ s i s', P s → body s i = .next s' → P s') {s s' : σ} {is : List ι} (hs : P s)
    (h : loop body s is = .next s') : P s' := by
  induction is generalizing s with
  | nil =>
      obtain rfl := ControlFlow.next.inj h
      exact hs
  | cons i rest ih =>
      cases hbody : body s i with
      | next t => exact ih (hstep s i t hs hbody) (by rwa [loop_cons_next hbody] at h)
      | exit r => rw [loop_cons_exit hbody] at h; cases h

/-- What the body gives its result under the invariant holds of the result. -/
theorem loop_exit {body : σ → ι → ControlFlow σ ρ} {P : σ → Prop} {Q : ρ → Prop}
    (hstep : ∀ s i s', P s → body s i = .next s' → P s')
    (hexit : ∀ s i r, P s → body s i = .exit r → Q r) {s : σ} {r : ρ} {is : List ι} (hs : P s)
    (h : loop body s is = .exit r) : Q r := by
  induction is generalizing s with
  | nil => cases h
  | cons i rest ih =>
      cases hbody : body s i with
      | next t => exact ih (hstep s i t hs hbody) (by rwa [loop_cons_next hbody] at h)
      | exit r' =>
          rw [loop_cons_exit hbody] at h
          obtain rfl := ControlFlow.exit.inj h
          exact hexit s i r' hs hbody

-- ============================================================================
-- The passes before
-- ============================================================================

/-- The loop still runs after one more input if it did before, and the body continued. -/
theorem loop_snoc_next {body : σ → ι → ControlFlow σ ρ} {s t : σ} {is : List ι} {i : ι} :
    loop body s (is ++ [i]) = .next t ↔ ∃ s', loop body s is = .next s' ∧ body s' i = .next t := by
  constructor
  · intro h
    cases hloop : loop body s is with
    | exit r => rw [loop_append_exit hloop] at h; cases h
    | next s' =>
        rw [loop_append_next hloop] at h
        refine ⟨s', rfl, ?_⟩
        cases hbody : body s' i with
        | next t' => rw [loop_cons_next hbody] at h; exact h
        | exit r => rw [loop_cons_exit hbody] at h; cases h
  · rintro ⟨s', hloop, hbody⟩
    rw [loop_append_next hloop, loop_cons_next hbody]
    rfl

/-- An invariant of the state and the inputs so far. -/
theorem loop_history {body : σ → ι → ControlFlow σ ρ} {P : List ι → σ → Prop} {s t : σ}
    {is : List ι} (h0 : P [] s)
    (hstep : ∀ before s' i t, P before s' → body s' i = .next t → P (before ++ [i]) t)
    (h : loop body s is = .next t) : P is t := by
  induction is using List.reverseRecOn generalizing t with
  | nil =>
      obtain rfl := ControlFlow.next.inj h
      exact h0
  | append_singleton before i ih =>
      obtain ⟨s', hloop, hbody⟩ := loop_snoc_next.mp h
      exact hstep before s' i t (ih hloop) hbody

/-- A loop is left in one of its passes. -/
theorem loop_exit_iff {body : σ → ι → ControlFlow σ ρ} {s : σ} {is : List ι} {r : ρ} :
    loop body s is = .exit r ↔ ∃ before i after s', is = before ++ i :: after ∧
      loop body s before = .next s' ∧ body s' i = .exit r := by
  constructor
  · intro h
    induction is generalizing s with
    | nil => cases h
    | cons i rest ih =>
        cases hbody : body s i with
        | exit r' =>
            rw [loop_cons_exit hbody] at h
            exact ⟨[], i, rest, s, rfl, rfl, by rw [hbody, ControlFlow.exit.inj h]⟩
        | next t =>
            rw [loop_cons_next hbody] at h
            obtain ⟨before, j, after, s', rfl, hloop, hleaves⟩ := ih h
            exact ⟨i :: before, j, after, s', rfl, by rw [loop_cons_next hbody, hloop], hleaves⟩
  · rintro ⟨before, i, after, s', rfl, hloop, hbody⟩
    rw [loop_append_next hloop, loop_cons_exit hbody]

-- ============================================================================
-- Endless inputs
-- ============================================================================

/-- The first inputs of a stream. -/
def firsts (inputs : Nat → ι) (n : Nat) : List ι := (List.range n).map inputs

theorem firsts_succ (inputs : Nat → ι) (n : Nat) :
    firsts inputs (n + 1) = firsts inputs n ++ [inputs n] := by
  rw [firsts, List.range_succ, List.map_append, List.map_singleton, ← firsts]

theorem mem_firsts {inputs : Nat → ι} {n : Nat} {i : ι} :
    i ∈ firsts inputs n ↔ ∃ m < n, inputs m = i := by
  simp [firsts]

/-- The loop on a stream of inputs is left with a result. -/
def Leaves (body : σ → ι → ControlFlow σ ρ) (s : σ) (inputs : Nat → ι) (r : ρ) : Prop :=
  ∃ n, loop body s (firsts inputs n) = .exit r

theorem leaves_iff {body : σ → ι → ControlFlow σ ρ} {s : σ} {inputs : Nat → ι} {r : ρ} :
    Leaves body s inputs r ↔
      ∃ n s', loop body s (firsts inputs n) = .next s' ∧ body s' (inputs n) = .exit r := by
  constructor
  · rintro ⟨n, h⟩
    induction n with
    | zero => cases h
    | succ n ih =>
        rw [firsts_succ] at h
        cases hloop : loop body s (firsts inputs n) with
        | exit r' =>
            rw [loop_append_exit hloop] at h
            rw [ControlFlow.exit.inj h] at hloop
            exact ih hloop
        | next s' =>
            rw [loop_append_next hloop] at h
            refine ⟨n, s', hloop, ?_⟩
            cases hbody : body s' (inputs n) with
            | next t => rw [loop_cons_next hbody] at h; cases h
            | exit r' => rw [loop_cons_exit hbody] at h; exact h
  · rintro ⟨n, s', hloop, hbody⟩
    refine ⟨n + 1, ?_⟩
    rw [firsts_succ, loop_append_next hloop, loop_cons_exit hbody]

end Lib
