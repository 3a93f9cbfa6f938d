/-
  Smile2Unlock.Common.Text

  Byte strings, C strings, fixed `char` fields and SQLite text columns.

  A `std::string` is a list of bytes.  Whatever crosses a `const char*` on its
  way (`c_str()`, `std::string(field)`, `sqlite3_bind_text(.., -1, ..)`) is cut
  at its first NUL: that is `cString`.  A packed `char name[n]` field is a
  `CharField n`, a text column is a `SqlText`; both carry their shape, so no
  over-long field and no column with an embedded NUL can be built.
-/

import Mathlib.Data.List.Basic
import Mathlib.Data.List.TakeWhile

namespace Smile2Unlock

/-- A `std::string`. -/
abbrev Bytes := List UInt8

/-- The bytes of a string literal of the source (UTF-8). -/
def utf8 (s : String) : Bytes := s.toList.flatMap String.utf8EncodeChar

/-- `'\t'`, `'\n'`, `':'`, `'='` and `'|'`. -/
def tab : UInt8 := 9
def newline : UInt8 := 10
def colon : UInt8 := 58
def equals : UInt8 := 61
def bar : UInt8 := 124

/-- `std::isspace` in the C locale. -/
def isSpace (ch : UInt8) : Bool := ch = 32 || (9 ≤ ch && ch ≤ 13)

-- ============================================================================
-- C strings
-- ============================================================================

/-- What a reader of a `const char*` sees: the bytes before the first NUL. -/
def cString (s : Bytes) : Bytes := s.takeWhile (· != 0)

theorem zero_not_mem_cString (s : Bytes) : (0 : UInt8) ∉ cString s := by
  intro h
  have := List.mem_takeWhile_imp h
  simp at this

/-- A string without NUL passes through a `const char*` unchanged. -/
theorem cString_eq_self {s : Bytes} (h : (0 : UInt8) ∉ s) : cString s = s := by
  rw [cString, List.takeWhile_eq_self_iff]
  intro b hb
  simpa using fun hb0 : b = 0 => h (hb0 ▸ hb)

@[simp] theorem cString_cString (s : Bytes) : cString (cString s) = cString s :=
  cString_eq_self (zero_not_mem_cString s)

theorem cString_take {s : Bytes} (h : (0 : UInt8) ∉ s) (n : Nat) :
    cString (s.take n) = s.take n :=
  cString_eq_self fun hm => h (List.mem_of_mem_take hm)

/-- The reader stops at the first NUL, whatever follows it in memory. -/
theorem cString_append_zero {s : Bytes} (h : (0 : UInt8) ∉ s) (t : Bytes) :
    cString (s ++ 0 :: t) = s := by
  rw [cString, List.takeWhile_append_of_pos]
  · simp
  · intro b hb
    simpa using fun hb0 : b = 0 => h (hb0 ▸ hb)

-- ============================================================================
-- Fixed-size fields of a packed struct
-- ============================================================================

/-- A `char name[n]` field. -/
structure CharField (n : Nat) where
  bytes : Bytes
  length_eq : bytes.length = n
deriving DecidableEq

/-- A zero-initialised field after `memcpy` of `s` to its front. -/
def CharField.copied (n : Nat) (s : Bytes) (h : s.length ≤ n) : CharField n where
  bytes := s ++ List.replicate (n - s.length) 0
  length_eq := by simp; omega

/-- `memcpy` of `s` to the front of a field; the rest stays. -/
def CharField.overwrite {n : Nat} (field : CharField n) (s : Bytes) (h : s.length ≤ n) :
    CharField n where
  bytes := s ++ field.bytes.drop s.length
  length_eq := by
    rw [List.length_append, List.length_drop, field.length_eq]
    omega

@[simp] theorem CharField.overwrite_bytes {n : Nat} (field : CharField n) (s : Bytes)
    (h : s.length ≤ n) : (field.overwrite s h).bytes = s ++ field.bytes.drop s.length := rfl

/-- `strncpy_s(field, n, s.c_str(), _TRUNCATE)` on a zero-initialised field: as
    much of the C string as leaves room for the NUL. -/
def strncpyTruncate (n : Nat) (s : Bytes) : CharField n :=
  CharField.copied n ((cString s).take (n - 1)) (by
    rw [List.length_take]
    omega)

@[simp] theorem CharField.copied_bytes (n : Nat) (s : Bytes) (h : s.length ≤ n) :
    (CharField.copied n s h).bytes = s ++ List.replicate (n - s.length) 0 := rfl

/-- `std::string(packet.field)`: reads from the field on until a NUL.  The bytes
    `following` are what lies behind the field in memory; they are read only if
    the field has no NUL. -/
def CharField.readText {n : Nat} (field : CharField n) (following : Bytes) : Bytes :=
  cString (field.bytes ++ following)

/-- The reader stops at the first NUL of the field. -/
theorem CharField.readText_of_zero {n : Nat} {field : CharField n} {s t : Bytes}
    (h : field.bytes = s ++ 0 :: t) (following : Bytes) : field.readText following = cString s := by
  rw [readText, h, List.append_assoc, List.cons_append, cString, cString]
  by_cases hzero : (0 : UInt8) ∈ s
  · obtain ⟨a, b, rfl⟩ := List.append_of_mem hzero
    simp [List.takeWhile_append]
  · rw [← cString, cString_append_zero hzero, ← cString, cString_eq_self hzero]

/-- A name written with `strncpy_s` and read back has been cut at its first NUL
    and to `n - 1` bytes. -/
theorem readText_strncpyTruncate {n : Nat} (hn : 0 < n) (s following : Bytes) :
    (strncpyTruncate n s).readText following = (cString s).take (n - 1) := by
  have hzero : (0 : UInt8) ∉ (cString s).take (n - 1) :=
    fun h => zero_not_mem_cString s (List.mem_of_mem_take h)
  obtain ⟨k, hroom⟩ : ∃ k, n - ((cString s).take (n - 1)).length = k + 1 := by
    refine ⟨n - ((cString s).take (n - 1)).length - 1, ?_⟩
    rw [List.length_take]
    omega
  rw [CharField.readText, strncpyTruncate, CharField.copied_bytes, hroom,
    List.replicate_succ, List.append_assoc, List.cons_append]
  exact cString_append_zero hzero _

-- ============================================================================
-- SQLite text columns
-- ============================================================================

/-- A TEXT column written through `sqlite3_bind_text(stmt, i, p, -1, ..)`. -/
structure SqlText where
  bytes : Bytes
  noNul : (0 : UInt8) ∉ bytes
deriving DecidableEq

theorem SqlText.ext_iff {a b : SqlText} : a = b ↔ a.bytes = b.bytes := by
  cases a with
  | mk a ha =>
      cases b with
      | mk b hb => simp

/-- `sqlite3_bind_text` of a `std::string`'s `c_str()` with length -1. -/
def bindText (s : Bytes) : SqlText := ⟨cString s, zero_not_mem_cString s⟩

@[simp] theorem bindText_bytes (s : Bytes) : (bindText s).bytes = cString s := rfl

/-- Binding what was read from a column gives the column back. -/
@[simp] theorem bindText_of_bytes (c : SqlText) : bindText c.bytes = c := by
  cases c with
  | mk bytes noNul => simp [bindText, cString_eq_self noNul]

end Smile2Unlock
