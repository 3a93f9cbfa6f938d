/-
  Smile2Unlock.Lib.Split

  Splitting a text at a separator: at its first occurrence, at a position found from
  another one on, and into lines.

  `splitAtFirst_eq_some_iff` characterizes the first split by the text and its two
  parts, `find_append` a search that starts behind a prefix; `lines_append` peels one
  line off.  `lines` reads a text as `getline` does: a text that ends in the separator
  has no empty line after it.  `ended` keeps only what the separator ends.  The text of
  a list of entries that is cut somewhere ends with a part of one entry
  (`take_of_entryAt`).
-/

import Mathlib.Data.List.TakeWhile

namespace Lib

variable {α : Type _} [DecidableEq α] {c : α}

-- ============================================================================
-- The first occurrence
-- ============================================================================

/-- The parts before and after the first `c`. -/
def splitAtFirst (c : α) : List α → Option (List α × List α)
  | [] => none
  | x :: xs =>
      if x = c then some ([], xs)
      else (splitAtFirst c xs).map fun p => (x :: p.1, p.2)

theorem splitAtFirst_append {a : List α} (ha : c ∉ a) (b : List α) :
    splitAtFirst c (a ++ c :: b) = some (a, b) := by
  induction a with
  | nil => rw [List.nil_append, splitAtFirst, if_pos rfl]
  | cons x a ih =>
      obtain ⟨hx, ha'⟩ := not_or.mp (List.mem_cons.not.mp ha)
      rw [List.cons_append, splitAtFirst, if_neg (Ne.symm hx), ih ha', Option.map_some]

theorem splitAtFirst_eq_none_iff {s : List α} : splitAtFirst c s = none ↔ c ∉ s := by
  induction s with
  | nil => simp [splitAtFirst]
  | cons x s ih =>
      rw [splitAtFirst, List.mem_cons]
      by_cases hx : x = c
      · simp [hx]
      · rw [if_neg hx, Option.map_eq_none_iff, ih]
        simp [Ne.symm hx]

/-- The split says what the text was. -/
theorem splitAtFirst_eq_some_iff {s a b : List α} :
    splitAtFirst c s = some (a, b) ↔ s = a ++ c :: b ∧ c ∉ a := by
  constructor
  · intro h
    induction s generalizing a with
    | nil => simp [splitAtFirst] at h
    | cons x s ih =>
        rw [splitAtFirst] at h
        by_cases hx : x = c
        · rw [if_pos hx] at h
          cases h
          simp [hx]
        · rw [if_neg hx] at h
          obtain ⟨⟨a', b'⟩, hsplit, heq⟩ := Option.map_eq_some_iff.mp h
          cases heq
          obtain ⟨hs, hc⟩ := ih hsplit
          exact ⟨by rw [hs, List.cons_append], by simp [hc, Ne.symm hx]⟩
  · rintro ⟨rfl, ha⟩
    exact splitAtFirst_append ha b

/-- The parts, by what comes before the first `c`. -/
theorem takeWhile_of_splitAtFirst {s a b : List α} (h : splitAtFirst c s = some (a, b)) :
    s.takeWhile (· ≠ c) = a ∧ (s.dropWhile (· ≠ c)).tail = b := by
  obtain ⟨rfl, ha⟩ := splitAtFirst_eq_some_iff.mp h
  have hpos : ∀ x ∈ a, decide (x ≠ c) = true :=
    fun x hx => decide_eq_true fun heq => ha (heq ▸ hx)
  rw [List.takeWhile_append_of_pos hpos, List.dropWhile_append_of_pos hpos]
  simp

/-- The parts, by the length of the first. -/
theorem take_drop_of_splitAtFirst {s a b : List α} (h : splitAtFirst c s = some (a, b)) :
    s.take a.length = a ∧ s.drop (a.length + 1) = b := by
  obtain ⟨rfl, -⟩ := splitAtFirst_eq_some_iff.mp h
  refine ⟨List.take_left, ?_⟩
  rw [List.drop_append, List.drop_eq_nil_of_le (Nat.le_succ _), Nat.add_sub_cancel_left,
    List.nil_append, List.drop_one, List.tail_cons]

/-- A split uses up one `c`. -/
theorem count_of_splitAtFirst {s a b : List α} (h : splitAtFirst c s = some (a, b)) :
    s.count c = b.count c + 1 := by
  obtain ⟨rfl, ha⟩ := splitAtFirst_eq_some_iff.mp h
  rw [List.count_append, List.count_eq_zero_of_not_mem ha, List.count_cons_self, Nat.zero_add]

theorem count_of_splitAtFirst_none {s : List α} (h : splitAtFirst c s = none) : s.count c = 0 :=
  List.count_eq_zero_of_not_mem (splitAtFirst_eq_none_iff.mp h)

-- ============================================================================
-- Positions
-- ============================================================================

/-- The position of the first `c` at or after `pos`. -/
def find (c : α) (s : List α) (pos : Nat) : Option Nat :=
  (splitAtFirst c (s.drop pos)).map fun p => pos + p.1.length

/-- A search from the front finds the end of the first part. -/
theorem find_zero (s : List α) : find c s 0 = (splitAtFirst c s).map fun p => p.1.length := by
  simp only [find, List.drop_zero, Nat.zero_add]

/-- A search that starts behind a prefix does not see it. -/
theorem find_append (a b : List α) (pos : Nat) :
    find c (a ++ b) (a.length + pos) = (find c b pos).map (a.length + ·) := by
  rw [find, find, List.drop_append, Nat.add_sub_cancel_left, List.drop_of_length_le (by omega),
    List.nil_append, Option.map_map]
  congr 1
  funext p
  exact Nat.add_assoc ..

-- ============================================================================
-- Lines
-- ============================================================================

/-- The lines of a text, each ended by `c` or by the end of the text. -/
def lines (c : α) : List α → List (List α)
  | [] => []
  | x :: xs =>
      if x = c then [] :: lines c xs
      else
        match lines c xs with
        | [] => [[x]]
        | l :: ls => (x :: l) :: ls

@[simp] theorem lines_nil : lines c ([] : List α) = [] := rfl

/-- Reading peels off one line at a time. -/
theorem lines_append {l : List α} (hl : c ∉ l) (rest : List α) :
    lines c (l ++ c :: rest) = l :: lines c rest := by
  induction l with
  | nil => rw [List.nil_append, lines, if_pos rfl]
  | cons x l ih =>
      obtain ⟨hx, hl'⟩ := not_or.mp (List.mem_cons.not.mp hl)
      rw [List.cons_append, lines, if_neg (Ne.symm hx), ih hl']

/-- A text without the separator is one line, if it is not empty. -/
theorem lines_of_not_mem {l : List α} (hl : c ∉ l) (hne : l ≠ []) : lines c l = [l] := by
  induction l with
  | nil => exact absurd rfl hne
  | cons x l ih =>
      obtain ⟨hx, hl'⟩ := not_or.mp (List.mem_cons.not.mp hl)
      rw [lines, if_neg (Ne.symm hx)]
      cases l with
      | nil => rw [lines]
      | cons y l => rw [ih hl' (by simp)]

/-- The fields of a text that `c` ends; what follows the last `c` is left out. -/
def ended (c : α) : List α → List (List α)
  | [] => []
  | x :: xs =>
      if x = c then [] :: ended c xs
      else
        match ended c xs with
        | [] => []
        | l :: ls => (x :: l) :: ls

theorem ended_append {l : List α} (hl : c ∉ l) (rest : List α) :
    ended c (l ++ c :: rest) = l :: ended c rest := by
  induction l with
  | nil => rw [List.nil_append, ended, if_pos rfl]
  | cons x l ih =>
      obtain ⟨hx, hl'⟩ := not_or.mp (List.mem_cons.not.mp hl)
      rw [List.cons_append, ended, if_neg (Ne.symm hx), ih hl']

theorem ended_of_not_mem {l : List α} (hl : c ∉ l) : ended c l = [] := by
  induction l with
  | nil => rfl
  | cons x l ih =>
      obtain ⟨hx, hl'⟩ := not_or.mp (List.mem_cons.not.mp hl)
      rw [ended, if_neg (Ne.symm hx), ih hl']

/-- The fields that a prefix ends are the first ones of the text. -/
theorem ended_prefix {a b : List α} (h : a <+: b) : ended c a <+: ended c b := by
  induction a generalizing b with
  | nil => exact List.nil_prefix
  | cons x a ih =>
      obtain ⟨rest, rfl⟩ := h
      have hleading := ih (List.prefix_append a rest)
      rw [List.cons_append, ended, ended]
      by_cases hx : x = c
      · rw [if_pos hx, if_pos hx]
        exact List.cons_prefix_cons.mpr ⟨rfl, hleading⟩
      · rw [if_neg hx, if_neg hx]
        cases hfields : ended c a with
        | nil => exact List.nil_prefix
        | cons l ls =>
            rw [hfields] at hleading
            obtain ⟨ls', hls'⟩ := hleading
            rw [← hls', List.cons_append]
            exact List.cons_prefix_cons.mpr ⟨rfl, List.prefix_append ls ls'⟩

/-- The lines of a text that ends each of them with `c`, and of what follows it. -/
theorem lines_flatMap_append {β : Type _} {f : β → List α} {bs : List β} (hf : ∀ b ∈ bs, c ∉ f b)
    (rest : List α) :
    lines c ((bs.flatMap fun b => f b ++ [c]) ++ rest) = bs.map f ++ lines c rest := by
  induction bs with
  | nil => rfl
  | cons b bs ih =>
      rw [List.flatMap_cons, List.append_assoc, List.append_assoc, List.singleton_append,
        lines_append (hf b List.mem_cons_self), ih fun b' hb' => hf b' (List.mem_cons_of_mem _ hb'),
        List.map_cons, List.cons_append]

theorem lines_flatMap {β : Type _} {f : β → List α} {bs : List β} (hf : ∀ b ∈ bs, c ∉ f b) :
    lines c (bs.flatMap fun b => f b ++ [c]) = bs.map f := by
  have h := lines_flatMap_append hf []
  rwa [List.append_nil, lines_nil, List.append_nil] at h

-- ============================================================================
-- A text that is cut
-- ============================================================================

/-- The entry of a list in whose text the position `n` of the whole text lies, and how
    far into it. -/
def entryAt {β : Type _} (f : β → List α) : List β → Nat → Option (β × Nat)
  | [], _ => none
  | b :: bs, n => if n < (f b).length then some (b, n) else entryAt f bs (n - (f b).length)

omit [DecidableEq α] in
theorem length_le_of_entryAt {β : Type _} {f : β → List α} {bs : List β} {n : Nat}
    (h : entryAt f bs n = none) : (bs.flatMap f).length ≤ n := by
  induction bs generalizing n with
  | nil => exact Nat.zero_le n
  | cons b bs ih =>
      rw [entryAt] at h
      split at h
      · cases h
      · have hle := ih h
        rw [List.flatMap_cons, List.length_append]
        omega

omit [DecidableEq α] in
/-- The text up to a position: the entries before it, and a part of one. -/
theorem take_of_entryAt {β : Type _} {f : β → List α} {bs : List β} {n k : Nat} {b : β}
    (h : entryAt f bs n = some (b, k)) :
    ∃ before after, bs = before ++ b :: after ∧ k < (f b).length ∧
      (bs.flatMap f).take n = before.flatMap f ++ (f b).take k := by
  induction bs generalizing n with
  | nil => cases h
  | cons b' bs ih =>
      rw [entryAt] at h
      split at h
      · rename_i hlt
        cases h
        refine ⟨[], bs, rfl, hlt, ?_⟩
        rw [List.flatMap_cons, List.take_append_of_le_length (Nat.le_of_lt hlt)]
        rfl
      · rename_i hge
        obtain ⟨before, after, rfl, hlt, htake⟩ := ih h
        refine ⟨b' :: before, after, rfl, hlt, ?_⟩
        rw [List.flatMap_cons, List.take_append, List.take_of_length_le (Nat.le_of_not_lt hge),
          htake, List.flatMap_cons, List.append_assoc]

end Lib
