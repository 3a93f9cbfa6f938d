/-
  Smile2Unlock.Lib.Escape

  Texts in which some characters are written as two, a lead character and a second one, and
  what becomes of them when each pair is replaced on its own, one after another.

  Replacements that share the lead are one replacement by a table (`replaceTable`).  If the
  pair of two leads is replaced last, an escaped lead is taken apart where a second
  character of the table follows: `reread` is what comes out, and `reread_eq_self_iff` says
  when that is the text that was escaped.
-/

import Mathlib.Data.List.Chain
import Smile2Unlock.Lib.Regex

namespace Lib.Escape

open Regex

variable {α : Type _} [DecidableEq α]

-- ============================================================================
-- Replacement by a table
-- ============================================================================

/-- Every lead with a second character of the table replaced, in one pass. -/
def replaceTable (lead : α) (table : α → Option α) : List α → List α
  | [] => []
  | [x] => [x]
  | x :: y :: s =>
      match table y with
      | some c =>
          if x = lead then c :: replaceTable lead table s
          else x :: replaceTable lead table (y :: s)
      | none => x :: replaceTable lead table (y :: s)

variable {lead : α} {table : α → Option α}

theorem replaceTable_cons_of_ne {x : α} (hx : x ≠ lead) (s : List α) :
    replaceTable lead table (x :: s) = x :: replaceTable lead table s := by
  cases s with
  | nil => rfl
  | cons y s =>
      rw [replaceTable]
      cases table y with
      | none => rfl
      | some c => exact if_neg hx

theorem replaceTable_of_some {y c : α} (hy : table y = some c) (s : List α) :
    replaceTable lead table (lead :: y :: s) = c :: replaceTable lead table s := by
  rw [replaceTable, hy]
  exact if_pos rfl

theorem replaceTable_of_none {y : α} (hy : table y = none) (x : α) (s : List α) :
    replaceTable lead table (x :: y :: s) = x :: replaceTable lead table (y :: s) := by
  rw [replaceTable, hy]

theorem replaceTable_none (s : List α) : replaceTable lead (fun _ => none) s = s := by
  induction s with
  | nil => rfl
  | cons x s ih =>
      cases s with
      | nil => rfl
      | cons y s => rw [replaceTable_of_none rfl, ih]

theorem replacePair_cons_of_ne {a b c x : α} (hx : x ≠ a) (s : List α) :
    replacePair a b c (x :: s) = x :: replacePair a b c s := by
  cases s with
  | nil => rfl
  | cons y s => rw [replacePair, if_neg fun h => hx h.1]

theorem replacePair_cons_cons_of_ne {a b c y : α} (hy : y ≠ b) (x : α) (s : List α) :
    replacePair a b c (x :: y :: s) = x :: replacePair a b c (y :: s) := by
  rw [replacePair, if_neg fun h => hy h.2]

/-- A replacement starts with the same character, or with one that the table puts in. -/
theorem exists_replaceTable_cons (y : α) (s : List α) :
    ∃ z rest, replaceTable lead table (y :: s) = z :: rest ∧ (z = y ∨ ∃ w, table w = some z) := by
  cases s with
  | nil => exact ⟨y, [], rfl, .inl rfl⟩
  | cons w s =>
      rw [replaceTable]
      cases hw : table w with
      | none => exact ⟨y, _, rfl, .inl rfl⟩
      | some c =>
          dsimp only
          split
          · exact ⟨c, _, rfl, .inr ⟨w, hw⟩⟩
          · exact ⟨y, _, rfl, .inl rfl⟩

/-- One more replacement is one more entry, if what the table puts in is neither the lead
    nor the new second character. -/
theorem replacePair_replaceTable {b c : α} (hb : b ≠ lead) (hnew : table b = none)
    (hout : ∀ y d, table y = some d → d ≠ lead ∧ d ≠ b) (s : List α) :
    replacePair lead b c (replaceTable lead table s) =
      replaceTable lead (Function.update table b (some c)) s := by
  induction s using replaceTable.induct lead table with
  | case1 => rfl
  | case2 x => rfl
  | case3 y s d hy ih =>
      have hyb : y ≠ b := by
        rintro rfl
        rw [hnew] at hy
        cases hy
      have hy' : Function.update table b (some c) y = some d := by
        rw [Function.update_of_ne hyb, hy]
      rw [replaceTable_of_some hy, replaceTable_of_some hy',
        replacePair_cons_of_ne (hout y d hy).1, ih]
  | case4 x y s d hy hx ih =>
      rw [replaceTable_cons_of_ne hx, replaceTable_cons_of_ne hx, replacePair_cons_of_ne hx, ih]
  | case5 x y s hy ih =>
      by_cases hx : x = lead
      · subst hx
        rw [replaceTable_of_none hy]
        by_cases hyb : y = b
        · -- the new pair
          subst hyb
          have hnext : Function.update table y (some c) y = some c := Function.update_self ..
          rw [replaceTable_cons_of_ne hb, replaceTable_cons_of_ne hb, replacePair_cons_of_ne hb,
            List.cons_inj_right] at ih
          rw [replaceTable_cons_of_ne hb, replacePair, if_pos ⟨rfl, rfl⟩, ih,
            replaceTable_of_some hnext]
        · have hnext : Function.update table b (some c) y = none := by
            rw [Function.update_of_ne hyb, hy]
          obtain ⟨z, rest, heq, hz⟩ := @exists_replaceTable_cons _ _ x table y s
          have hzb : z ≠ b := by
            rcases hz with rfl | ⟨w, hw⟩
            · exact hyb
            · exact (hout w z hw).2
          rw [replaceTable_of_none hnext, ← ih, heq, replacePair_cons_cons_of_ne hzb]
      · rw [replaceTable_cons_of_ne hx, replaceTable_cons_of_ne hx, replacePair_cons_of_ne hx, ih]

/-- Replacements one after another are one by the table of their pairs, if no pair puts in
    the lead or what a later one looks for. -/
theorem foldl_replacePair {entries : List (α × α)} (hlead : ∀ e ∈ entries, e.1 ≠ lead ∧ e.2 ≠ lead)
    (hlater : entries.Pairwise fun e e' => e.1 ≠ e'.1 ∧ e.2 ≠ e'.1) (s : List α) :
    entries.foldl (fun s e => replacePair lead e.1 e.2 s) s =
      replaceTable lead (fun y => entries.lookup y) s := by
  induction entries using List.reverseRecOn with
  | nil => exact (replaceTable_none s).symm
  | append_singleton entries e ih =>
      obtain ⟨b, c⟩ := e
      obtain ⟨hearlier, -, hall⟩ := List.pairwise_append.mp hlater
      have hb : b ≠ lead := (hlead (b, c) (by simp)).1
      have hnew : entries.lookup b = none := by
        rw [List.lookup_eq_none_iff]
        intro e' he'
        exact bne_iff_ne.mpr (hall e' he' (b, c) (by simp)).1.symm
      rw [List.foldl_append, List.foldl_cons, List.foldl_nil,
        ih (fun e' he' => hlead e' (List.mem_append_left _ he')) hearlier,
        replacePair_replaceTable hb hnew]
      · refine congrArg (fun table => replaceTable lead table s) (funext fun y => ?_)
        rw [List.lookup_append]
        by_cases hy : y = b
        · subst hy
          rw [Function.update_self, hnew]
          simp
        · rw [Function.update_of_ne hy]
          simp [hy]
      · intro y d hy
        obtain ⟨l₁, l₂, hsplit, -⟩ := List.lookup_eq_some_iff.mp hy
        have hmem : (y, d) ∈ entries := by
          rw [hsplit]
          simp
        exact ⟨(hlead _ (List.mem_append_left _ hmem)).2, (hall _ hmem (b, c) (by simp)).2⟩

-- ============================================================================
-- Escaped text
-- ============================================================================

/-- A text and a way to write it: characters that are plain stand for themselves, the lead
    is doubled, and a lead before a second character stands for what the table says. -/
inductive Escaped (lead : α) (table : α → Option α) (plain : α → Prop) :
    List α → List α → Prop
  | nil : Escaped lead table plain [] []
  | plain {c : α} {s t : List α} : plain c → Escaped lead table plain s t →
      Escaped lead table plain (c :: s) (c :: t)
  | lead {s t : List α} : Escaped lead table plain s t →
      Escaped lead table plain (lead :: s) (lead :: lead :: t)
  | second {c x : α} {s t : List α} : table x = some c → Escaped lead table plain s t →
      Escaped lead table plain (c :: s) (lead :: x :: t)

/-- A text in which a second character of the table behind a lead (`after`) is taken for the
    end of a pair. -/
def reread (lead : α) (table : α → Option α) : Bool → List α → List α
  | _, [] => []
  | after, c :: s =>
      (if after then (table c).getD c else c) :: reread lead table (c = lead) s

/-- The lead is no second character, no second character stands for it, and what stands for
    itself as plain text is not the lead; a character that has an escape is not changed when
    it is reread. -/
structure Sound (lead : α) (table : α → Option α) (plain : α → Prop) : Prop where
  lead_none : table lead = none
  ne_lead : ∀ x c, table x = some c → c ≠ lead
  plain_ne : ∀ c, plain c → c ≠ lead
  kept : ∀ x c, table x = some c → (table c).getD c = c

variable {plain : α → Prop} {s t : List α}

/-- What the two steps make of an escaped text, at its start and behind an escaped lead. -/
theorem replace_escaped (hsound : Sound lead table plain) (h : Escaped lead table plain s t) :
    replacePair lead lead lead (replaceTable lead table t) = reread lead table false s ∧
      replacePair lead lead lead (replaceTable lead table (lead :: lead :: t)) =
        lead :: reread lead table true s := by
  have hdouble : ∀ rest, replacePair lead lead lead (lead :: lead :: rest) =
      lead :: replacePair lead lead lead rest := fun rest => by rw [replacePair, if_pos ⟨rfl, rfl⟩]
  induction h with
  | nil =>
      rw [replaceTable_of_none hsound.lead_none]
      exact ⟨rfl, hdouble []⟩
  | @plain c s t hplain _ ih =>
      have hc := hsound.plain_ne c hplain
      rw [replaceTable_of_none hsound.lead_none, replaceTable_cons_of_ne hc, replacePair_cons_of_ne hc,
        ih.1, reread, reread, decide_eq_false hc]
      refine ⟨rfl, ?_⟩
      cases htable : table c with
      | none =>
          rw [replaceTable_of_none htable, replaceTable_cons_of_ne hc, hdouble,
            replacePair_cons_of_ne hc, ih.1]
          rfl
      | some d =>
          -- the second half of the escaped lead is taken for the start of a pair
          have hd := hsound.ne_lead c d htable
          rw [replaceTable_of_some htable, replacePair_cons_cons_of_ne hd, replacePair_cons_of_ne hd,
            ih.1]
          rfl
  | @lead s t _ ih =>
      rw [ih.2, reread, reread, decide_eq_true rfl, hsound.lead_none]
      refine ⟨rfl, ?_⟩
      rw [replaceTable_of_none hsound.lead_none, replaceTable_of_none hsound.lead_none, hdouble, ih.2]
      rfl
  | @second c x s t htable _ ih =>
      have hc := hsound.ne_lead x c htable
      rw [replaceTable_of_none hsound.lead_none, replaceTable_of_none hsound.lead_none,
        replaceTable_of_some htable, hdouble, replacePair_cons_of_ne hc, ih.1, reread, reread,
        decide_eq_false hc, hsound.kept x c htable]
      exact ⟨rfl, rfl⟩

/-- A text is not changed when it is reread exactly if no lead in it stands before a
    character that the table changes. -/
theorem reread_eq_self_iff : reread lead table false s = s ↔
    s.IsChain fun x y => x = lead → (table y).getD y = y := by
  have hafter : ∀ after, reread lead table after s = s ↔
      (after = true → ∀ y ∈ s.head?, (table y).getD y = y) ∧
        s.IsChain fun x y => x = lead → (table y).getD y = y := by
    induction s with
    | nil => simp [reread]
    | cons c s ih =>
        intro after
        have hnext : (decide (c = lead) = true → ∀ y ∈ s.head?, (table y).getD y = y) ↔
            ∀ y ∈ s.head?, c = lead → (table y).getD y = y :=
          ⟨fun h y hy hc => h (decide_eq_true hc) y hy, fun h hc y hy => h y hy (of_decide_eq_true hc)⟩
        rw [reread, List.cons_eq_cons, ih, List.isChain_cons, hnext]
        cases after with
        | false => simp
        | true => simp
  simpa using hafter false

end Lib.Escape
