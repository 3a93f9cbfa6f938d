/-
  Smile2Unlock.Lib.ArrayAccess

  Arrays that are read and written element by element.

  A read is checked: one behind the end is a `Fault`, which no handler catches, beside the
  exceptions that the reading function throws.  Reads that stay inside are those of the
  list (`readRange_eq`, `checkRange_eq`).

  A loop over indices may be left in the middle; `forIndices` returns its state then as well,
  so that an array that `fill` writes in place keeps what was written until then.
-/

import Mathlib.Data.List.Basic

namespace Lib

variable {α ε σ : Type _}

-- ============================================================================
-- Checked reads
-- ============================================================================

/-- Why a function does not return: it left its array, or threw. -/
inductive Fault (ε : Type _) where
  | outside
  | thrown (e : ε)
deriving DecidableEq

/-- `a[i]`. -/
def readAt (a : List α) (i : Nat) : Except (Fault ε) α :=
  match a[i]? with
  | some x => .ok x
  | none => .error .outside

/-- The `n` elements from `i` on. -/
def readRange (a : List α) : Nat → Nat → Except (Fault ε) (List α)
  | _, 0 => .ok []
  | i, n + 1 => do
      let x ← readAt a i
      let rest ← readRange a (i + 1) n
      return x :: rest

/-- A loop over the `n` elements from `i` on that throws `e` at the first one without `p`. -/
def checkRange (p : α → Bool) (e : ε) (a : List α) : Nat → Nat → Except (Fault ε) Unit
  | _, 0 => .ok ()
  | i, n + 1 => do
      let x ← readAt a i
      if p x then checkRange p e a (i + 1) n else throw (.thrown e)

theorem readAt_of_lt {a : List α} {i : Nat} (h : i < a.length) :
    readAt (ε := ε) a i = .ok a[i] := by
  rw [readAt, List.getElem?_eq_getElem h]

theorem readRange_eq {a : List α} {i n : Nat} (h : i + n ≤ a.length) :
    readRange (ε := ε) a i n = .ok ((a.drop i).take n) := by
  induction n generalizing i with
  | zero => rfl
  | succ n ih =>
      have hi : i < a.length := by omega
      rw [readRange, readAt_of_lt hi, ih (by omega), List.drop_eq_getElem_cons hi,
        List.take_succ_cons]
      rfl

theorem checkRange_eq {p : α → Bool} {e : ε} {a : List α} {i n : Nat} (h : i + n ≤ a.length) :
    checkRange p e a i n =
      if ((a.drop i).take n).all p then .ok () else .error (.thrown e) := by
  induction n generalizing i with
  | zero => rfl
  | succ n ih =>
      have hi : i < a.length := by omega
      rw [checkRange, readAt_of_lt hi, ih (by omega), List.drop_eq_getElem_cons hi,
        List.take_succ_cons, List.all_cons]
      show (if p a[i] then _ else _) = _
      cases p a[i] with
      | true => rfl
      | false => rfl

-- ============================================================================
-- Loops over indices
-- ============================================================================

/-- A loop over the `n` indices from `i` on: it takes `f(i)` and updates its state with it,
    until an `f(i)` throws. -/
def forIndices (update : σ → Nat → α → σ) (f : Nat → Except ε α) :
    Nat → Nat → σ → Except ε Unit × σ
  | _, 0, s => (.ok (), s)
  | i, n + 1, s =>
      match f i with
      | .ok x => forIndices update f (i + 1) n (update s i x)
      | .error e => (.error e, s)

/-- `out[i] = f(i)`, into an array that is there. -/
def fill (f : Nat → Except ε α) (i n : Nat) (out : List α) : Except ε Unit × List α :=
  forIndices (fun out i x => out.set i x) f i n out

/-- `xs.push_back(f(i))`. -/
def collect (f : Nat → Except ε α) (i n : Nat) (xs : List α) : Except ε Unit × List α :=
  forIndices (fun xs _ x => xs ++ [x]) f i n xs

/-- What the loop keeps of its state. -/
theorem forIndices_invariant {update : σ → Nat → α → σ} {P : σ → Prop}
    (hstep : ∀ s i x, P s → P (update s i x)) (f : Nat → Except ε α) (i n : Nat) {s : σ} (hs : P s) :
    P (forIndices update f i n s).2 := by
  induction n generalizing i s with
  | zero => exact hs
  | succ n ih =>
      rw [forIndices]
      cases f i with
      | ok x => exact ih (i + 1) (hstep s i x hs)
      | error e => exact hs

/-- A loop without an exception makes every update. -/
theorem forIndices_of_ok {update : σ → Nat → α → σ} {f : Nat → Except ε α} {i : Nat} {xs : List α}
    (hf : ∀ j x, xs[j]? = some x → f (i + j) = .ok x) (s : σ) :
    forIndices update f i xs.length s =
      (.ok (), (xs.zipIdx i).foldl (fun s p => update s p.2 p.1) s) := by
  induction xs generalizing i s with
  | nil => rfl
  | cons x xs ih =>
      have hfirst : f i = .ok x := hf 0 x rfl
      have hrest : ∀ j y, xs[j]? = some y → f (i + 1 + j) = .ok y := by
        intro j y hy
        rw [Nat.add_assoc, Nat.add_comm 1 j]
        exact hf (j + 1) y hy
      rw [List.length_cons, forIndices, hfirst, List.zipIdx_cons, List.foldl_cons]
      exact ih hrest _

/-- The first element that throws ends the loop. -/
theorem forIndices_error {update : σ → Nat → α → σ} {f : Nat → Except ε α} {e : ε} {i n : Nat}
    (he : ∀ j e', f j = .error e' → e' = e) (hbad : ∃ j < n, f (i + j) = .error e) (s : σ) :
    ∃ s', forIndices update f i n s = (.error e, s') := by
  induction n generalizing i s with
  | zero =>
      obtain ⟨j, hj, -⟩ := hbad
      omega
  | succ n ih =>
      rw [forIndices]
      cases hfirst : f i with
      | error e' => exact ⟨s, by rw [he i e' hfirst]⟩
      | ok x =>
          refine ih ?_ _
          obtain ⟨j, hj, hbad⟩ := hbad
          cases j with
          | zero =>
              rw [Nat.add_zero, hfirst] at hbad
              cases hbad
          | succ j => exact ⟨j, by omega, by rw [Nat.add_assoc, Nat.add_comm 1 j]; exact hbad⟩

@[simp] theorem length_fill (f : Nat → Except ε α) (i n : Nat) (out : List α) :
    (fill f i n out).2.length = out.length :=
  forIndices_invariant (P := fun xs : List α => xs.length = out.length)
    (fun xs i x h => by rw [List.length_set, h]) f i n rfl

theorem foldl_set_zipIdx {xs out : List α} {i : Nat} (hout : out.length = i + xs.length) :
    (xs.zipIdx i).foldl (fun out p => out.set p.2 p.1) out = out.take i ++ xs := by
  induction xs generalizing i out with
  | nil =>
      rw [List.length_nil, Nat.add_zero] at hout
      rw [List.append_nil, ← hout, List.take_length]
      rfl
  | cons x xs ih =>
      rw [List.length_cons] at hout
      have htake : (out.set i x).take (i + 1) = out.take i ++ [x] := by
        rw [List.take_add_one, List.take_set_of_le (Nat.le_refl i),
          List.getElem?_set_self (by omega), Option.toList_some]
      rw [List.zipIdx_cons, List.foldl_cons, ih (by rw [List.length_set]; omega), htake,
        List.append_assoc, List.singleton_append]

theorem foldl_push_zipIdx (xs acc : List α) (i : Nat) :
    (xs.zipIdx i).foldl (fun acc p => acc ++ [p.1]) acc = acc ++ xs := by
  induction xs generalizing i acc with
  | nil => exact (List.append_nil acc).symm
  | cons x xs ih =>
      rw [List.zipIdx_cons, List.foldl_cons, ih, List.append_assoc, List.singleton_append]

theorem fill_of_ok {f : Nat → Except ε α} {xs out : List α} (hout : out.length = xs.length)
    (hf : ∀ j x, xs[j]? = some x → f j = .ok x) : fill f 0 xs.length out = (.ok (), xs) := by
  have hf' : ∀ j x, xs[j]? = some x → f (0 + j) = .ok x := by
    intro j x hx
    rw [Nat.zero_add]
    exact hf j x hx
  rw [fill, forIndices_of_ok hf', foldl_set_zipIdx (by rw [hout, Nat.zero_add]), List.take_zero,
    List.nil_append]

theorem collect_of_ok {f : Nat → Except ε α} {xs : List α}
    (hf : ∀ j x, xs[j]? = some x → f j = .ok x) : collect f 0 xs.length [] = (.ok (), xs) := by
  have hf' : ∀ j x, xs[j]? = some x → f (0 + j) = .ok x := by
    intro j x hx
    rw [Nat.zero_add]
    exact hf j x hx
  rw [collect, forIndices_of_ok hf', foldl_push_zipIdx, List.nil_append]

end Lib
