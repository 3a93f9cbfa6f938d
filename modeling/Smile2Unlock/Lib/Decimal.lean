/-
  Smile2Unlock.Lib.Decimal

  Integers as decimal text: a sign for the negative ones, then the digits without a
  leading zero.

  Reading takes the longest run of digits after an optional sign and returns what
  follows.  `readInt_append` is the round trip, whatever follows the text as long as
  it does not start with a digit.
-/

import Mathlib.Algebra.GroupWithZero.Nat
import Mathlib.Data.List.TakeWhile

namespace Lib.Decimal

/-- `'0'` to `'9'`. -/
def isDigit (c : UInt8) : Bool := 48 ≤ c && c ≤ 57

def digit (n : Nat) : UInt8 := UInt8.ofNat (48 + n)

/-- The digits of a number. -/
def nat (n : Nat) : List UInt8 := (Nat.toDigits 10 n).map fun c => UInt8.ofNat c.toNat

/-- The text of an integer. -/
def int (i : Int) : List UInt8 := if i < 0 then 45 :: nat i.natAbs else nat i.natAbs

/-- The number that a run of digits denotes. -/
def value (digits : List UInt8) : Nat := digits.foldl (fun n c => 10 * n + (c.toNat - 48)) 0

/-- The number at the front of a text and what follows it. -/
def readNat (text : List UInt8) : Option (Nat × List UInt8) :=
  if text.takeWhile isDigit = [] then none
  else some (value (text.takeWhile isDigit), text.dropWhile isDigit)

/-- The integer at the front of a text, with `+`, `-` or no sign, and what follows it. -/
def readInt : List UInt8 → Option (Int × List UInt8)
  | 45 :: text => (readNat text).map fun p => (-(p.1 : Int), p.2)
  | 43 :: text => (readNat text).map fun p => ((p.1 : Int), p.2)
  | text => (readNat text).map fun p => ((p.1 : Int), p.2)

-- ============================================================================
-- Digits
-- ============================================================================

theorem toNat_digit {n : Nat} (hn : n < 10) : (digit n).toNat = 48 + n :=
  UInt8.toNat_ofNat_of_lt' (Nat.lt_of_lt_of_le (Nat.add_lt_add_left hn 48) (by decide))

theorem isDigit_iff {c : UInt8} : isDigit c = true ↔ 48 ≤ c.toNat ∧ c.toNat ≤ 57 := by
  simp only [isDigit, UInt8.le_iff_toNat_le, UInt8.reduceToNat, Bool.and_eq_true, decide_eq_true_eq]

theorem isDigit_digit {n : Nat} (hn : n < 10) : isDigit (digit n) = true := by
  rw [isDigit_iff, toNat_digit hn]
  omega

theorem nat_of_lt {n : Nat} (hn : n < 10) : nat n = [digit n] := by
  rw [nat, Nat.toDigits_of_lt_base hn, List.map_singleton, Nat.toNat_digitChar_of_lt_ten hn, digit]

/-- The last digit and the digits before it. -/
theorem nat_of_le {n : Nat} (hn : 10 ≤ n) : nat n = nat (n / 10) ++ [digit (n % 10)] := by
  have hmod : n % 10 < 10 := Nat.mod_lt _ (by decide)
  rw [nat, Nat.toDigits_of_base_le (by decide) hn, List.map_append, List.map_singleton,
    Nat.toNat_digitChar_of_lt_ten hmod, digit, nat]

theorem value_append_singleton (digits : List UInt8) (c : UInt8) :
    value (digits ++ [c]) = 10 * value digits + (c.toNat - 48) := by
  rw [value, List.foldl_append, List.foldl_cons, List.foldl_nil, value]

theorem value_nat (n : Nat) : value (nat n) = n := by
  induction n using Nat.strongRecOn with
  | ind n ih =>
      by_cases hn : n < 10
      · rw [nat_of_lt hn, ← List.nil_append [digit n], value_append_singleton, toNat_digit hn]
        show 10 * 0 + (48 + n - 48) = n
        omega
      · have hmod : n % 10 < 10 := Nat.mod_lt _ (by decide)
        rw [nat_of_le (by omega), value_append_singleton, ih (n / 10) (by omega), toNat_digit hmod]
        omega

theorem isDigit_of_mem_nat {n : Nat} {c : UInt8} (hc : c ∈ nat n) : isDigit c = true := by
  induction n using Nat.strongRecOn with
  | ind n ih =>
      by_cases hn : n < 10
      · rw [nat_of_lt hn, List.mem_singleton] at hc
        rw [hc]
        exact isDigit_digit hn
      · rw [nat_of_le (by omega), List.mem_append, List.mem_singleton] at hc
        rcases hc with hc | rfl
        · exact ih (n / 10) (by omega) hc
        · exact isDigit_digit (Nat.mod_lt _ (by decide))

theorem nat_ne_nil (n : Nat) : nat n ≠ [] := by
  rw [nat, List.map_eq_nil_iff.ne]
  exact Nat.toDigits_ne_nil

theorem int_ne_nil (i : Int) : int i ≠ [] := by
  rw [int]
  split
  · exact List.cons_ne_nil _ _
  · exact nat_ne_nil _

/-- A text of an integer has digits and a minus sign only. -/
theorem of_mem_int {i : Int} {c : UInt8} (hc : c ∈ int i) : c = 45 ∨ isDigit c = true := by
  rw [int] at hc
  split at hc
  · rcases List.mem_cons.mp hc with rfl | hc
    · exact Or.inl rfl
    · exact Or.inr (isDigit_of_mem_nat hc)
  · exact Or.inr (isDigit_of_mem_nat hc)

/-- A number below `10 ^ k` has at most `k` digits. -/
theorem length_int_le {i : Int} {k : Nat} (hk : 0 < k) (hi : i.natAbs < 10 ^ k) :
    (int i).length ≤ k + 1 := by
  have hlength : (nat i.natAbs).length ≤ k := by
    rw [nat, List.length_map]
    exact (Nat.length_toDigits_le_iff (by decide) hk).mpr hi
  rw [int]
  split
  · rw [List.length_cons]
    omega
  · omega

-- ============================================================================
-- The round trip
-- ============================================================================

/-- What follows does not continue the digits. -/
def Stops (rest : List UInt8) : Prop := ∀ c ∈ rest.head?, isDigit c = false

theorem stops_nil : Stops [] := by
  intro c hc
  cases hc

theorem readNat_append {digits rest : List UInt8} (hdigits : ∀ c ∈ digits, isDigit c = true)
    (hne : digits ≠ []) (hrest : Stops rest) :
    readNat (digits ++ rest) = some (value digits, rest) := by
  have htake : rest.takeWhile isDigit = [] ∧ rest.dropWhile isDigit = rest := by
    cases rest with
    | nil => exact ⟨rfl, rfl⟩
    | cons c rest =>
        have hc : isDigit c = false := hrest c rfl
        simp [hc]
  rw [readNat, List.takeWhile_append_of_pos hdigits, List.dropWhile_append_of_pos hdigits,
    htake.1, htake.2, List.append_nil, if_neg hne]

theorem readNat_nat_append (n : Nat) {rest : List UInt8} (hrest : Stops rest) :
    readNat (nat n ++ rest) = some (n, rest) := by
  rw [readNat_append (fun _ hc => isDigit_of_mem_nat hc) (nat_ne_nil n) hrest, value_nat]

/-- Without a sign in front the integer is the number. -/
theorem readInt_of_isDigit {c : UInt8} (hc : isDigit c = true) (text : List UInt8) :
    readInt (c :: text) = (readNat (c :: text)).map fun p => ((p.1 : Int), p.2) := by
  rw [isDigit_iff] at hc
  unfold readInt
  split
  · rename_i heq
    cases heq
    exact absurd hc.1 (by decide)
  · rename_i heq
    cases heq
    exact absurd hc.1 (by decide)
  · rfl

/-- An integer reads back. -/
theorem readInt_append (i : Int) {rest : List UInt8} (hrest : Stops rest) :
    readInt (int i ++ rest) = some (i, rest) := by
  rw [int]
  split
  · rw [List.cons_append, readInt, readNat_nat_append _ hrest, Option.map_some]
    have : -(i.natAbs : Int) = i := by omega
    rw [this]
  · have hread := readNat_nat_append i.natAbs hrest
    obtain ⟨c, digits, hdigits⟩ := List.exists_cons_of_ne_nil (nat_ne_nil i.natAbs)
    have hc : isDigit c = true := isDigit_of_mem_nat (n := i.natAbs) (by rw [hdigits]; simp)
    rw [hdigits, List.cons_append] at hread ⊢
    rw [readInt_of_isDigit hc, hread, Option.map_some]
    have : (i.natAbs : Int) = i := by omega
    rw [this]

example : readInt (int (-207) ++ [124]) = some (-207, [124]) := by decide

end Lib.Decimal
