/-
  Smile2Unlock.Lib.Regex

  Regular expressions by the rules of ECMAScript: characters, sequences, choices and greedy
  loops.

  `results` lists what is left of a text behind each match at its start, in the order in
  which backtracking comes to them.  `first` is the first of them at which the rest of an
  expression succeeds, and its lemmas, one for each operator, are what a proof about a
  pattern uses.
-/

import Mathlib.Data.List.Infix

namespace Lib

variable {α β : Type _}

/-- An expression over characters. -/
inductive Regex (α : Type _) where
  | empty
  | char (p : α → Bool)
  | seq (a b : Regex α)
  | alt (a b : Regex α)
  | star (a : Regex α)

namespace Regex

-- ============================================================================
-- Matches at the start of a text
-- ============================================================================

/-- Up to `n` passes of a loop, as many as possible first; a pass that takes no character
    is not made. -/
def iterate (pass : List α → List (List α)) : Nat → List α → List (List α)
  | 0, s => [s]
  | n + 1, s =>
      ((pass s).filter fun rest => rest.length < s.length).flatMap (iterate pass n) ++ [s]

def results : Regex α → List α → List (List α)
  | empty, s => [s]
  | char p, s =>
      match s with
      | [] => []
      | c :: s => if p c then [s] else []
  | seq a b, s => (results a s).flatMap (results b)
  | alt a b, s => results a s ++ results b s
  | star a, s => iterate (results a) s.length s

/-- The first match behind which `f` succeeds. -/
def first (r : Regex α) (f : List α → Option β) (s : List α) : Option β :=
  (results r s).findSome? f

variable {f : List α → Option β} {s : List α} {v : β}

theorem findSome?_flatMap {γ : Type _} {l : List γ} {g : γ → List (List α)} :
    (l.flatMap g).findSome? f = l.findSome? fun x => (g x).findSome? f := by
  induction l with
  | nil => rfl
  | cons x l ih =>
      rw [List.flatMap_cons, List.findSome?_append, ih, List.findSome?_cons]
      cases (g x).findSome? f with
      | none => rfl
      | some v => rfl

theorem findSome?_filter {l : List (List α)} {p : List α → Bool} :
    (l.filter p).findSome? f = l.findSome? fun x => if p x then f x else none := by
  induction l with
  | nil => rfl
  | cons x l ih =>
      cases hp : p x with
      | false => rw [List.filter_cons_of_neg (by simp [hp]), ih, List.findSome?_cons, hp]; rfl
      | true =>
          rw [List.filter_cons_of_pos hp, List.findSome?_cons, List.findSome?_cons, hp, ih]
          rfl

theorem first_empty : first empty f s = f s := by
  rw [first, results, List.findSome?_cons, List.findSome?_nil]
  cases f s with
  | none => rfl
  | some v => rfl

theorem first_char_nil {p : α → Bool} : first (char p) f [] = none := rfl

theorem first_char_cons {p : α → Bool} {c : α} :
    first (char p) f (c :: s) = if p c then f s else none := by
  rw [first, results]
  split
  · exact first_empty
  · rfl

theorem first_seq {a b : Regex α} : first (seq a b) f s = first a (first b f) s :=
  findSome?_flatMap

theorem first_alt {a b : Regex α} : first (alt a b) f s = (first a f s).or (first b f s) :=
  List.findSome?_append

theorem iterate_nil {pass : List α → List (List α)} (n : Nat) : iterate pass n [] = [[]] := by
  cases n with
  | zero => rfl
  | succ n => simp [iterate]

/-- More passes than there are characters make no difference. -/
theorem iterate_eq {pass : List α → List (List α)} {n m : Nat} (hn : s.length ≤ n)
    (hm : s.length ≤ m) : iterate pass n s = iterate pass m s := by
  induction n generalizing m s with
  | zero =>
      obtain rfl := List.eq_nil_of_length_eq_zero (Nat.le_zero.mp hn)
      rw [iterate_nil, iterate_nil]
  | succ n ih =>
      cases m with
      | zero =>
          obtain rfl := List.eq_nil_of_length_eq_zero (Nat.le_zero.mp hm)
          rw [iterate_nil, iterate_nil]
      | succ m =>
          simp only [iterate]
          congr 1
          refine List.flatMap_congr fun rest hrest => ?_
          have hshorter : rest.length < s.length := of_decide_eq_true (List.mem_filter.mp hrest).2
          exact ih (by omega) (by omega)

/-- A greedy loop: a pass and the loop again, or else no pass. -/
theorem first_star {a : Regex α} : first (star a) f s =
    (first a (fun rest => if rest.length < s.length then first (star a) f rest else none) s).or
      (f s) := by
  rw [first, results, iterate_eq (le_refl _) (Nat.le_succ _), iterate, List.findSome?_append,
    findSome?_flatMap, findSome?_filter]
  congr 1
  · refine congrArg (fun g => (results a s).findSome? g) (funext fun rest => ?_)
    by_cases hshorter : rest.length < s.length
    · rw [if_pos (decide_eq_true hshorter), if_pos hshorter, first, results,
        iterate_eq (Nat.le_of_lt hshorter) (le_refl _)]
    · rw [if_neg (by simpa using hshorter), if_neg hshorter]
  · exact first_empty

/-- A loop that stands behind its last pass, where the rest of the expression succeeds. -/
theorem first_star_of_stop {a : Regex α} (hstop : results a s = []) (hf : f s = some v) :
    first (star a) f s = some v := by
  rw [first_star, first, hstop, hf]
  rfl

/-- A loop over characters takes all there are. -/
theorem first_star_char {p : α → Bool} {w : List α} (hw : ∀ c ∈ w, p c = true)
    (hs : ∀ c ∈ s.head?, p c = false) (hf : f s = some v) :
    first (star (char p)) f (w ++ s) = some v := by
  induction w with
  | nil =>
      refine first_star_of_stop ?_ hf
      cases s with
      | nil => rfl
      | cons c s =>
          rw [List.nil_append, results, if_neg (by simp [hs c rfl])]
  | cons c w ih =>
      have hrest := ih fun d hd => hw d (List.mem_cons_of_mem c hd)
      rw [List.cons_append, first_star, first_char_cons, if_pos (hw c List.mem_cons_self),
        if_pos (by simp), hrest, Option.some_or]

-- ============================================================================
-- Literal text
-- ============================================================================

/-- The characters of a text, each for itself. -/
def literal [DecidableEq α] : List α → Regex α
  | [] => empty
  | c :: text => seq (char fun d => d = c) (literal text)

variable [DecidableEq α]

theorem first_literal_append (text : List α) : first (literal text) f (text ++ s) = f s := by
  induction text with
  | nil => exact first_empty
  | cons c text ih =>
      rw [literal, first_seq, List.cons_append, first_char_cons, if_pos (decide_eq_true rfl), ih]

theorem first_literal_of_not_prefix {text : List α} (h : ¬ text <+: s) :
    first (literal text) f s = none := by
  induction text generalizing s with
  | nil => exact absurd List.nil_prefix h
  | cons c text ih =>
      rw [literal, first_seq]
      cases s with
      | nil => exact first_char_nil
      | cons d s =>
          rw [first_char_cons]
          by_cases heq : d = c
          · subst heq
            rw [if_pos (decide_eq_true rfl), ih fun htext => h (List.cons_prefix_cons.mpr ⟨rfl, htext⟩)]
          · rw [if_neg (by simpa using heq)]

end Regex

-- ============================================================================
-- Search
-- ============================================================================

/-- An expression with one group that is captured. -/
structure Pattern (α : Type _) where
  before : Regex α
  group : Regex α
  after : Regex α

namespace Pattern

open Regex

/-- The text of the group, if there is a match at the start of a text. -/
def matchAt (p : Pattern α) (s : List α) : Option (List α) :=
  first p.before (fun start => first p.group (fun stop =>
    first p.after (fun _ => some (start.take (start.length - stop.length))) stop) start) s

/-- The text of the group in the match that starts first. -/
def search (p : Pattern α) (s : List α) : Option (List α) := s.tails.findSome? p.matchAt

theorem search_append {p : Pattern α} {a s v : List α}
    (ha : ∀ i < a.length, p.matchAt ((a ++ s).drop i) = none) (hs : p.matchAt s = some v) :
    p.search (a ++ s) = some v := by
  induction a with
  | nil =>
      cases s with
      | nil => rw [search, List.nil_append, List.tails, List.findSome?_cons, hs]
      | cons c s => rw [search, List.nil_append, List.tails, List.findSome?_cons, hs]
  | cons c a ih =>
      have hrest := ih fun i hi => ha (i + 1) (Nat.succ_lt_succ hi)
      have hfirst := ha 0 (Nat.succ_pos _)
      rw [List.drop_zero, List.cons_append] at hfirst
      rw [search, List.cons_append, List.tails, List.findSome?_cons, hfirst]
      exact hrest

end Pattern

-- ============================================================================
-- Replacement
-- ============================================================================

namespace Regex

/-- All matches from the left replaced by a text; for an expression that does not match the
    empty text. -/
def replaceAll (r : Regex α) (format : List α) : List α → List α
  | [] => []
  | c :: s =>
      match (results r (c :: s)).head? with
      | none => c :: replaceAll r format s
      | some rest =>
          if rest.length < (c :: s).length then format ++ replaceAll r format rest
          else c :: replaceAll r format s
termination_by s => s.length
decreasing_by
  all_goals
    simp only [List.length_cons] at *
    omega

/-- Every `a` in front of a `b` replaced, with it, by `c`. -/
def replacePair [DecidableEq α] (a b c : α) : List α → List α
  | [] => []
  | [x] => [x]
  | x :: y :: s =>
      if x = a ∧ y = b then c :: replacePair a b c s else x :: replacePair a b c (y :: s)

theorem replaceAll_literal_pair [DecidableEq α] (a b c : α) (s : List α) :
    replaceAll (literal [a, b]) [c] s = replacePair a b c s := by
  induction s using replacePair.induct a b with
  | case1 => rw [replaceAll, replacePair]
  | case2 x =>
      rw [replaceAll, replacePair]
      by_cases hx : x = a
      · simp [results, literal, hx, replaceAll]
      · simp [results, literal, hx, replaceAll]
  | case3 x y s h ih =>
      obtain ⟨rfl, rfl⟩ := h
      have hsome : (results (literal [x, y]) (x :: y :: s)).head? = some s := by
        simp [results, literal]
      have hshorter : s.length < (x :: y :: s).length := by
        simp only [List.length_cons]
        omega
      rw [replaceAll, replacePair, hsome]
      simp only [if_pos hshorter, ih, and_self, if_true, List.singleton_append]
  | case4 x y s h ih =>
      rw [replaceAll, replacePair, if_neg h, ih]
      have hnone : (results (literal [a, b]) (x :: y :: s)).head? = none := by
        by_cases hx : x = a
        · have hy : y ≠ b := fun hy => h ⟨hx, hy⟩
          simp [results, literal, hx, hy]
        · simp [results, literal, hx]
      rw [hnone]

end Regex

end Lib
