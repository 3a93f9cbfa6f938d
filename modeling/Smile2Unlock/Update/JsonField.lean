/-
  Smile2Unlock.Update.JsonField

  `ExtractJsonStringField` of the update check (application.cppm): a string field of the
  release description, found by a regular expression and unescaped by six replacements.

  The expression is one of `Lib.Regex`, and a JSON string with its escaped form is
  `Lib.Escape.Escaped` at the six escapes that the function knows.  The backslashes are
  halved last, so an escaped backslash in front of a letter is taken for an escape:
  `extractJsonStringField_iff` says for which strings that does not matter.
-/

import Mathlib.Data.Bool.AllAny
import Smile2Unlock.Common.Text
import Smile2Unlock.Lib.Escape

namespace Smile2Unlock.Update

open Lib Lib.Regex Lib.Escape

-- ============================================================================
-- The function
-- ============================================================================

def quote : UInt8 := 34
def backslash : UInt8 := 92
def slash : UInt8 := 47
def carriageReturn : UInt8 := 13

/-- Letters, digits and the underscore, which stand for themselves in an expression. -/
def isWord (c : UInt8) : Bool :=
  c = 95 || (48 ≤ c && c ≤ 57) || (65 ≤ c && c ≤ 90) || (97 ≤ c && c ≤ 122)

/-- A field name, as the callers pass it. -/
structure FieldName where
  bytes : Bytes
  word : ∀ c ∈ bytes, isWord c = true

def quoted (field : FieldName) : Bytes := quote :: (field.bytes ++ [quote])

/-- `"name"\s*:\s*"((?:\\.|[^"\\])*)"`; the dot is no line terminator. -/
def fieldPattern (field : FieldName) : Pattern UInt8 where
  before := seq (literal (quoted field)) (seq (star (char isSpace)) (seq (char (· = colon))
    (seq (star (char isSpace)) (char (· = quote)))))
  group := star (alt
    (seq (char (· = backslash)) (char fun c => c ≠ newline && c ≠ carriageReturn))
    (char fun c => c ≠ quote && c ≠ backslash))
  after := char (· = quote)

/-- The six calls of `std::regex_replace`. -/
def unescapeValue (value : Bytes) : Bytes :=
  let value := replaceAll (literal [backslash, slash]) [slash] value
  let value := replaceAll (literal [backslash, quote]) [quote] value
  let value := replaceAll (literal [backslash, 114]) [carriageReturn] value
  let value := replaceAll (literal [backslash, 110]) [newline] value
  let value := replaceAll (literal [backslash, 116]) [tab] value
  replaceAll (literal [backslash, backslash]) [backslash] value

def extractJsonStringField (json : Bytes) (field : FieldName) : Option Bytes :=
  ((fieldPattern field).search json).map unescapeValue

-- ============================================================================
-- JSON strings
-- ============================================================================

/-- What may follow a backslash, other than one more, and what the two stand for. -/
def escapes : List (UInt8 × UInt8) :=
  [(slash, slash), (quote, quote), (114, carriageReturn), (110, newline), (116, tab)]

/-- The characters that JSON allows in a string without an escape. -/
def IsPlain (c : UInt8) : Prop := c ≠ quote ∧ c ≠ backslash ∧ 32 ≤ c

instance (c : UInt8) : Decidable (IsPlain c) := inferInstanceAs (Decidable (_ ∧ _))

/-- A string of such characters and of those with an escape, and an escaped form of it; a
    slash may be escaped or not. -/
def JsonEscaped (s t : Bytes) : Prop := Escaped backslash (fun x => escapes.lookup x) IsPlain s t

/-- The first occurrence of the quoted name is followed by a colon, with spaces around it,
    and by an escaped form of `s` in quotes. -/
def FirstField (field : FieldName) (json s : Bytes) : Prop :=
  ∃ before spaces spaces' t rest, json = before ++ (quoted field ++ (spaces ++ colon ::
      (spaces' ++ quote :: (t ++ quote :: rest)))) ∧
    (∀ i < before.length, ¬ quoted field <+: json.drop i) ∧
    (∀ c ∈ spaces, isSpace c = true) ∧ (∀ c ∈ spaces', isSpace c = true) ∧ JsonEscaped s t

theorem mem_escapes {x c : UInt8} (h : escapes.lookup x = some c) : (x, c) ∈ escapes := by
  obtain ⟨l₁, l₂, hsplit, -⟩ := List.lookup_eq_some_iff.mp h
  rw [hsplit]
  simp

theorem sound_escapes : Sound backslash (fun x => escapes.lookup x) IsPlain where
  lead_none := by decide
  ne_lead x c h := by
    have hall : escapes.all (fun e => e.2 ≠ backslash) = true := by decide
    exact List.all_iff_forall_prop.mp hall (x, c) (mem_escapes h)
  plain_ne c h := h.2.1
  kept x c h := by
    have hall : escapes.all (fun e => (escapes.lookup e.2).getD e.2 = e.2) = true := by decide
    exact List.all_iff_forall_prop.mp hall (x, c) (mem_escapes h)

/-- The first five replacements are one by the table. -/
theorem unescapeValue_eq (value : Bytes) : unescapeValue value =
    replacePair backslash backslash backslash
      (replaceTable backslash (fun x => escapes.lookup x) value) := by
  have hlead : escapes.all (fun e => e.1 ≠ backslash ∧ e.2 ≠ backslash) = true := by decide
  rw [← foldl_replacePair (List.all_iff_forall_prop.mp hlead) (by decide)]
  simp only [unescapeValue, replaceAll_literal_pair, escapes, List.foldl_cons, List.foldl_nil]

theorem unescapeValue_escaped {s t : Bytes} (h : JsonEscaped s t) :
    unescapeValue t = reread backslash (fun x => escapes.lookup x) false s := by
  rw [unescapeValue_eq, (replace_escaped sound_escapes h).1]

-- ============================================================================
-- The match
-- ============================================================================

variable {field : FieldName} {json s t : Bytes}

theorem matchAt_of_not_prefix (h : ¬ quoted field <+: s) : (fieldPattern field).matchAt s = none := by
  rw [Pattern.matchAt, fieldPattern, first_seq]
  exact first_literal_of_not_prefix h

/-- The group takes an escaped text up to the quote behind it. -/
theorem first_group {f : Bytes → Option Bytes} {v rest : Bytes} (h : JsonEscaped s t)
    (hf : f (quote :: rest) = some v) :
    first (fieldPattern field).group f (t ++ quote :: rest) = some v := by
  have hshorter : ∀ (c : UInt8) (r : Bytes), r.length < (c :: r).length := fun c r => by simp
  induction h with
  | nil =>
      have hquote : quote ≠ backslash := by decide
      exact first_star_of_stop (by simp [results, hquote]) hf
  | @plain c s t hplain _ ih =>
      obtain ⟨hquote, hbackslash, -⟩ := hplain
      rw [fieldPattern] at ih ⊢
      rw [List.cons_append, first_star, first_alt, first_seq, first_char_cons,
        if_neg (by simpa using hbackslash), first_char_cons, if_pos (by simp [hquote, hbackslash]),
        if_pos (hshorter _ _), ih]
      rfl
  | @lead s t _ ih =>
      rw [fieldPattern] at ih ⊢
      rw [List.cons_append, List.cons_append, first_star, first_alt, first_seq, first_char_cons,
        if_pos (by decide), first_char_cons, if_pos (by decide),
        if_pos (lt_trans (hshorter _ _) (hshorter _ _)), ih]
      rfl
  | @second c x s t htable _ ih =>
      have hall : escapes.all (fun e => e.1 ≠ newline && e.1 ≠ carriageReturn) = true := by decide
      have hx := List.all_eq_true.mp hall (x, c) (mem_escapes htable)
      rw [fieldPattern] at ih ⊢
      rw [List.cons_append, List.cons_append, first_star, first_alt, first_seq, first_char_cons,
        if_pos (by decide), first_char_cons, if_pos hx,
        if_pos (lt_trans (hshorter _ _) (hshorter _ _)), ih]
      rfl

theorem matchAt_field {spaces spaces' rest : Bytes} (hspaces : ∀ c ∈ spaces, isSpace c = true)
    (hspaces' : ∀ c ∈ spaces', isSpace c = true) (h : JsonEscaped s t) :
    (fieldPattern field).matchAt (quoted field ++ (spaces ++ colon ::
      (spaces' ++ quote :: (t ++ quote :: rest)))) = some t := by
  rw [Pattern.matchAt]
  show first (seq (literal (quoted field)) _) _ _ = some t
  rw [first_seq, first_literal_append, first_seq]
  refine first_star_char hspaces (by simp; decide) ?_
  rw [first_seq, first_char_cons, if_pos (by decide), first_seq]
  refine first_star_char hspaces' (by simp; decide) ?_
  rw [first_char_cons, if_pos (by decide)]
  refine first_group h ?_
  rw [fieldPattern, first_char_cons, if_pos (by decide), List.length_append, Nat.add_sub_cancel,
    List.take_left]

theorem extractJsonStringField_eq (h : FirstField field json s) : extractJsonStringField json field =
    some (reread backslash (fun x => escapes.lookup x) false s) := by
  obtain ⟨before, spaces, spaces', t, rest, rfl, hfirst, hspaces, hspaces', hescaped⟩ := h
  have hsearch := Pattern.search_append
    (fun i hi => matchAt_of_not_prefix (hfirst i hi)) (matchAt_field hspaces hspaces' hescaped)
  rw [extractJsonStringField, hsearch, Option.map_some, unescapeValue_escaped hescaped]

-- ============================================================================
-- Strings that come back
-- ============================================================================

/-- The letters r, n and t. -/
def letters : List UInt8 := [114, 110, 116]

/-- They are the characters that an escape changes. -/
theorem lookup_eq_self_iff {y : UInt8} : (escapes.lookup y).getD y = y ↔ y ∉ letters := by
  constructor
  · intro hsame hmem
    have hchanged : letters.all (fun x => (escapes.lookup x).getD x ≠ x) = true := by decide
    exact List.all_iff_forall_prop.mp hchanged y hmem hsame
  · intro hnot
    cases hlookup : escapes.lookup y with
    | none => rfl
    | some c =>
        have hall : escapes.all (fun e => e.1 ∉ letters → e.2 = e.1) = true := by decide
        exact List.all_iff_forall_prop.mp hall (y, c) (mem_escapes hlookup) hnot

/-- The string is found and unescaped exactly if no backslash in it stands directly before
    an r, an n or a t. -/
theorem extractJsonStringField_iff (h : FirstField field json s) :
    extractJsonStringField json field = some s ↔
      s.IsChain fun x y => x = backslash → y ∉ letters := by
  rw [extractJsonStringField_eq h, Option.some_inj, reread_eq_self_iff]
  simp only [lookup_eq_self_iff]

/-- A string without a backslash is always found. -/
theorem extractJsonStringField_of_not_mem (h : FirstField field json s) (hs : backslash ∉ s) :
    extractJsonStringField json field = some s := by
  rw [extractJsonStringField_eq h, reread_eq_self_iff.mpr]
  exact (List.isChain_isInfix s).imp_of_mem_imp fun x y hx _ _ hlead => absurd (hlead ▸ hx) hs

def tagName : FieldName := ⟨utf8 "tag_name", List.all_eq_true.mp (by decide)⟩

/-- The text `a\"`, with all three kinds of characters. -/
theorem extractJsonStringField_backslash :
    extractJsonStringField (utf8 "\x7b\"tag_name\": \"a\\\\\\\"\"\x7d") tagName =
      some [97, backslash, quote] := by
  have h : FirstField tagName (utf8 "\x7b\"tag_name\": \"a\\\\\\\"\"\x7d") [97, backslash, quote] := by
    refine ⟨utf8 "\x7b", [], [32], [97, backslash, backslash, backslash, quote], utf8 "\x7d", by decide,
      by decide, by simp, by simp; decide, ?_⟩
    exact .plain ⟨by decide, by decide, by decide⟩ (.lead (.second (by decide) .nil))
  exact (extractJsonStringField_iff h).mpr (by decide)

/-- A backslash and an n are written as three characters, of which the last two are taken
    for a line break. -/
theorem extractJsonStringField_fails :
    ¬ ∀ (field : FieldName) (json s : Bytes), FirstField field json s →
      extractJsonStringField json field = some s := by
  intro h
  have hfield : FirstField tagName (utf8 "\x7b\"tag_name\":\"\\\\n\"\x7d") [backslash, 110] := by
    refine ⟨utf8 "\x7b", [], [], [backslash, backslash, 110], utf8 "\x7d", by decide, by decide,
      by simp, by simp, ?_⟩
    exact .lead (.plain ⟨by decide, by decide, by decide⟩ .nil)
  have hsome := h _ _ _ hfield
  rw [extractJsonStringField_eq hfield] at hsome
  exact absurd hsome (by decide)

end Smile2Unlock.Update
