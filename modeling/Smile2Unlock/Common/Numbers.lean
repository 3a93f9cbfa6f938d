/-
  Smile2Unlock.Common.Numbers

  Numbers as text, by the rules of the C++ library: `std::to_string`, `std::stoi`, and
  the two directions for `float`, which are a parameter (`FloatText`).

  An `int` is an `Int` that satisfies `IsInt`.  `stoi` returns the number and how many
  characters it read, or the exception it throws.
-/

import Smile2Unlock.Common.Text
import Smile2Unlock.Lib.Decimal

namespace Smile2Unlock

open Lib

/-- The exceptions of the standard library that the modelled code runs into. -/
inductive StdException where
  | invalidArgument
  | outOfRange
  | lengthError
deriving DecidableEq, Repr

-- ============================================================================
-- Integers
-- ============================================================================

/-- The range of `int`. -/
def IsInt (i : Int) : Prop := -2147483648 ≤ i ∧ i ≤ 2147483647

instance (i : Int) : Decidable (IsInt i) := inferInstanceAs (Decidable (_ ∧ _))

/-- `std::to_string` of an `int`, and what `operator<<` writes. -/
def toText (i : Int) : Bytes := Decimal.int i

/-- `std::stoi(s, &pos)`: the number and `pos`. -/
def stoi (s : Bytes) : Except StdException (Int × Nat) :=
  match Decimal.readInt (s.dropWhile isSpace) with
  | none => .error .invalidArgument
  | some (value, rest) =>
      if IsInt value then .ok (value, s.length - rest.length) else .error .outOfRange

theorem not_space_of_digit {c : UInt8} (h : c = 45 ∨ Decimal.isDigit c = true) :
    isSpace c = false := by
  rcases h with rfl | h
  · rfl
  · obtain ⟨hlow, -⟩ := Decimal.isDigit_iff.mp h
    have h32 : c ≠ 32 := by
      rintro rfl
      exact absurd hlow (by decide)
    have h13 : ¬ c ≤ 13 := by
      simp only [UInt8.le_iff_toNat_le, UInt8.reduceToNat]
      omega
    simp [isSpace, h32, h13]

/-- A printed integer is read back, and nothing of what follows it. -/
theorem stoi_append {i : Int} (hi : IsInt i) {rest : Bytes} (hrest : Decimal.Stops rest) :
    stoi (toText i ++ rest) = .ok (i, (toText i).length) := by
  have hdrop : (toText i ++ rest).dropWhile isSpace = toText i ++ rest := by
    obtain ⟨c, text, htext⟩ := List.exists_cons_of_ne_nil (Decimal.int_ne_nil i)
    have hc : c ∈ Decimal.int i := by rw [htext]; exact List.mem_cons_self
    have hspace : ¬ isSpace c = true := by simp [not_space_of_digit (Decimal.of_mem_int hc)]
    rw [toText, htext, List.cons_append, List.dropWhile_cons_of_neg hspace]
  rw [stoi, hdrop, toText, Decimal.readInt_append i hrest]
  dsimp only
  rw [if_pos hi, List.length_append, Nat.add_sub_cancel]

theorem stoi_toText {i : Int} (hi : IsInt i) : stoi (toText i) = .ok (i, (toText i).length) := by
  simpa using stoi_append hi Decimal.stops_nil

/-- Digits alone are read to their end, and may exceed the range. -/
theorem stoi_digits {digits : Bytes} (hne : digits ≠ [])
    (hdigits : ∀ c ∈ digits, Decimal.isDigit c = true) : stoi digits =
      if Decimal.value digits ≤ 2147483647 then .ok ((Decimal.value digits : Int), digits.length)
      else .error .outOfRange := by
  have hread := Decimal.readNat_append hdigits hne Decimal.stops_nil
  obtain ⟨c, rest, rfl⟩ := List.exists_cons_of_ne_nil hne
  have hc := hdigits c List.mem_cons_self
  have hspace : ¬ isSpace c = true := by simp [not_space_of_digit (.inr hc)]
  rw [List.append_nil] at hread
  rw [stoi, List.dropWhile_cons_of_neg hspace, Decimal.readInt_of_isDigit hc, hread, Option.map_some]
  dsimp only
  by_cases hfits : Decimal.value (c :: rest) ≤ 2147483647
  · rw [if_pos hfits, if_pos ⟨by omega, by omega⟩, List.length_nil, Nat.sub_zero]
  · rw [if_neg hfits, if_neg fun h => hfits (by have := h.2; omega)]

/-- `std::stoul(s)` with its 32-bit result; a minus sign negates modulo 2^32. -/
def stoul (s : Bytes) : Except StdException Nat :=
  match Decimal.readInt (s.dropWhile isSpace) with
  | none => .error .invalidArgument
  | some (value, _) =>
      if value.natAbs ≤ 4294967295 then .ok (value % 4294967296).toNat else .error .outOfRange

theorem stoul_nat {n : Nat} (hn : n ≤ 4294967295) : stoul (Decimal.nat n) = .ok n := by
  have hdrop : (Decimal.nat n).dropWhile isSpace = Decimal.nat n := by
    obtain ⟨c, text, htext⟩ := List.exists_cons_of_ne_nil (Decimal.nat_ne_nil n)
    have hc : c ∈ Decimal.nat n := by rw [htext]; exact List.mem_cons_self
    have hspace : ¬ isSpace c = true := by
      simp [not_space_of_digit (.inr (Decimal.isDigit_of_mem_nat hc))]
    rw [htext, List.dropWhile_cons_of_neg hspace]
  have hint : Decimal.nat n = Decimal.int n := by
    rw [Decimal.int, if_neg (by omega), Int.natAbs_natCast]
  have hread := Decimal.readInt_append n Decimal.stops_nil
  rw [List.append_nil] at hread
  rw [stoul, hdrop, hint, hread]
  dsimp only
  rw [if_pos (by omega)]
  exact congrArg Except.ok (by omega)

/-- A byte that is neither a digit nor a minus sign is not in a printed integer. -/
theorem not_mem_toText {c : UInt8} (hminus : c ≠ 45) (hdigit : Decimal.isDigit c = false)
    (i : Int) : c ∉ toText i := by
  intro hc
  rcases Decimal.of_mem_int hc with rfl | h
  · exact hminus rfl
  · rw [hdigit] at h
    cases h

theorem length_toText_le {i : Int} (hi : IsInt i) : (toText i).length ≤ 11 := by
  have h := hi
  rw [IsInt] at h
  exact Decimal.length_int_le (by decide) (by omega)

-- ============================================================================
-- Floating-point numbers
-- ============================================================================

/-- `float`, printed by `operator<<` with its six digits and read by `std::stof`, and the
    literals `0.62f` and `0.8f`.  A printed number is short and has no control character. -/
structure FloatText (F : Type) where
  print : F → Bytes
  stof : Bytes → Except StdException (F × Nat)
  faceThreshold : F
  livenessThreshold : F
  length_print : ∀ x, (print x).length ≤ 16
  printable : ∀ x, ∀ c ∈ print x, 32 < c

/-- The number survives the six-digit text form. -/
def FloatText.Survives {F : Type} (ft : FloatText F) (x : F) : Prop :=
  ft.stof (ft.print x) = .ok (x, (ft.print x).length)

/-- `std::stof` reads what was printed as a number that prints alike. -/
def FloatText.ReadsPrint {F : Type} (ft : FloatText F) (x : F) : Prop :=
  ∃ y pos, ft.stof (ft.print x) = .ok (y, pos) ∧ ft.print y = ft.print x

/-- The floats 0.62 and 0.8 with their texts. -/
def exampleFloats : FloatText Bool where
  print x := if x then utf8 "0.8" else utf8 "0.62"
  stof s := if s = utf8 "0.8" then .ok (true, 3) else if s = utf8 "0.62" then .ok (false, 4)
    else .error .invalidArgument
  faceThreshold := false
  livenessThreshold := true
  length_print x := by
    cases x
    · decide
    · decide
  printable x c hc := by
    have hall : (if x then utf8 "0.8" else utf8 "0.62").all (32 < ·) = true := by
      cases x
      · rfl
      · rfl
    exact of_decide_eq_true (List.all_eq_true.mp hall c hc)

end Smile2Unlock
