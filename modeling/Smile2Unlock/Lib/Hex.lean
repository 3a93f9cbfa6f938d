/-
  Smile2Unlock.Lib.Hex

  Bytes as hexadecimal text: two digits a byte, high half first, written in either
  case and read in either.

  `value_digit` is the round trip of a digit, `decode_encodeWith` that of a byte string
  under any digits that read back as their values, and `encode_of_decode` the other
  direction.  For readers that go through a text by index, `pair_of_decode` and
  `exists_bad_pair` say what they find there.
-/

import Mathlib.Data.List.Basic

namespace Lib.Hex

/-- The digit of a value below 16, in lower case. -/
def digit (n : Nat) : UInt8 := if n < 10 then UInt8.ofNat (48 + n) else UInt8.ofNat (87 + n)

/-- The value of a digit of either case. -/
def value (c : UInt8) : Option Nat :=
  if 48 ≤ c ∧ c ≤ 57 then some (c.toNat - 48)
  else if 97 ≤ c ∧ c ≤ 102 then some (c.toNat - 87)
  else if 65 ≤ c ∧ c ≤ 70 then some (c.toNat - 55)
  else none

/-- A digit reads back as its value. -/
theorem value_digit {n : Nat} (hn : n < 16) : value (digit n) = some n := by
  have hall : ∀ m : Fin 16, value (digit m) = some m.val := by decide
  exact hall ⟨n, hn⟩

/-- A digit is 0 to 9, a to f or A to F, and its value is below 16. -/
theorem range_of_value {c : UInt8} {n : Nat} (h : value c = some n) : n < 16 ∧
    ((48 ≤ c.toNat ∧ c.toNat ≤ 57) ∨ (97 ≤ c.toNat ∧ c.toNat ≤ 102) ∨
      (65 ≤ c.toNat ∧ c.toNat ≤ 70)) := by
  simp only [value, UInt8.le_iff_toNat_le, UInt8.reduceToNat] at h
  split at h
  · cases h
    omega
  · split at h
    · cases h
      omega
    · split at h
      · cases h
        omega
      · cases h

/-- The digits of a byte string. -/
def encode (bytes : List UInt8) : List UInt8 :=
  bytes.flatMap fun b => [digit (b.toNat / 16), digit (b.toNat % 16)]

/-- The same with other digits. -/
def encodeWith (digit : Nat → UInt8) (bytes : List UInt8) : List UInt8 :=
  bytes.flatMap fun b => [digit (b.toNat / 16), digit (b.toNat % 16)]

/-- The bytes of a text of digit pairs. -/
def decode : List UInt8 → Option (List UInt8)
  | [] => some []
  | [_] => none
  | hi :: lo :: rest =>
      match value hi, value lo, decode rest with
      | some h, some l, some bytes => some (UInt8.ofNat (16 * h + l) :: bytes)
      | _, _, _ => none

theorem encodeWith_cons (d : Nat → UInt8) (b : UInt8) (bytes : List UInt8) :
    encodeWith d (b :: bytes) = d (b.toNat / 16) :: d (b.toNat % 16) :: encodeWith d bytes := rfl

@[simp] theorem length_encodeWith (d : Nat → UInt8) (bytes : List UInt8) :
    (encodeWith d bytes).length = 2 * bytes.length := by
  induction bytes with
  | nil => rfl
  | cons b bytes ih =>
      rw [encodeWith_cons, List.length_cons, List.length_cons, List.length_cons, ih]
      omega

@[simp] theorem length_encode (bytes : List UInt8) : (encode bytes).length = 2 * bytes.length :=
  length_encodeWith digit bytes

/-- What was encoded is decoded. -/
theorem decode_encodeWith {d : Nat → UInt8} (hd : ∀ n < 16, value (d n) = some n)
    (bytes : List UInt8) : decode (encodeWith d bytes) = some bytes := by
  induction bytes with
  | nil => rfl
  | cons b bytes ih =>
      have hb : b.toNat < 256 := b.toNat_lt
      have hhi : value (d (b.toNat / 16)) = some (b.toNat / 16) := hd _ (by omega)
      have hlo : value (d (b.toNat % 16)) = some (b.toNat % 16) := hd _ (by omega)
      have hbyte : UInt8.ofNat (16 * (b.toNat / 16) + b.toNat % 16) = b := by
        rw [Nat.div_add_mod]
        exact UInt8.ofNat_toNat
      rw [encodeWith_cons, decode, hhi, hlo, ih]
      simp only [hbyte]

theorem decode_encode (bytes : List UInt8) : decode (encode bytes) = some bytes :=
  decode_encodeWith (fun _ hn => value_digit hn) bytes

/-- The first pair of a decoded text. -/
theorem decode_cons_cons_eq_some {hi lo : UInt8} {rest bytes : List UInt8}
    (h : decode (hi :: lo :: rest) = some bytes) : ∃ high low bytes', value hi = some high ∧
      value lo = some low ∧ decode rest = some bytes' ∧
      bytes = UInt8.ofNat (16 * high + low) :: bytes' := by
  rw [decode] at h
  split at h
  · rename_i high low bytes' hhigh hlow hrest
    cases h
    exact ⟨high, low, bytes', hhigh, hlow, hrest, rfl⟩
  · cases h

/-- Decoded text has two digits for each byte. -/
theorem length_of_decode : ∀ {text bytes : List UInt8}, decode text = some bytes →
    text.length = 2 * bytes.length
  | [], bytes, h => by
      cases h
      rfl
  | [_], bytes, h => by cases h
  | hi :: lo :: rest, bytes, h => by
      obtain ⟨high, low, bytes', -, -, hrest, rfl⟩ := decode_cons_cons_eq_some h
      rw [List.length_cons, List.length_cons, List.length_cons, length_of_decode hrest]
      omega

/-- A text of digits with an even length can be decoded. -/
theorem exists_decode : ∀ {text : List UInt8}, text.length % 2 = 0 →
    (∀ c ∈ text, (value c).isSome) → ∃ bytes, decode text = some bytes
  | [], _, _ => ⟨[], rfl⟩
  | [_], heven, _ => absurd heven (by simp)
  | hi :: lo :: rest, heven, hdigits => by
      obtain ⟨high, hhigh⟩ := Option.isSome_iff_exists.mp (hdigits hi (by simp))
      obtain ⟨low, hlow⟩ := Option.isSome_iff_exists.mp (hdigits lo (by simp))
      obtain ⟨bytes, hrest⟩ := @exists_decode rest
        (by rw [List.length_cons, List.length_cons] at heven; omega)
        fun c hc => hdigits c (by simp [hc])
      exact ⟨_, by rw [decode, hhigh, hlow, hrest]⟩

/-- Encoded text consists of digits. -/
theorem value_of_mem_encode {bytes : List UInt8} {c : UInt8} (hc : c ∈ encode bytes) :
    (value c).isSome := by
  obtain ⟨b, -, hc⟩ := List.mem_flatMap.mp hc
  have hb : b.toNat < 256 := b.toNat_lt
  rcases List.mem_cons.mp hc with rfl | hc
  · rw [value_digit (by omega)]
    rfl
  · rw [List.mem_singleton.mp hc, value_digit (by omega)]
    rfl

/-- Decoded text consists of digits. -/
theorem isSome_value_of_decode : ∀ {text bytes : List UInt8}, decode text = some bytes →
    ∀ c ∈ text, (value c).isSome
  | [], _, _, c, hc => by cases hc
  | [_], _, h, _, _ => by cases h
  | hi :: lo :: rest, bytes, h, c, hc => by
      obtain ⟨high, low, bytes', hhigh, hlow, hrest, -⟩ := decode_cons_cons_eq_some h
      rcases List.mem_cons.mp hc with rfl | hc
      · rw [hhigh]
        rfl
      rcases List.mem_cons.mp hc with rfl | hc
      · rw [hlow]
        rfl
      · exact isSome_value_of_decode hrest c hc

/-- A text can be decoded exactly if it consists of digits and has an even length. -/
theorem exists_decode_iff {text : List UInt8} :
    (∃ bytes, decode text = some bytes) ↔ text.length % 2 = 0 ∧ ∀ c ∈ text, (value c).isSome := by
  constructor
  · rintro ⟨bytes, h⟩
    have hlength := length_of_decode h
    exact ⟨by omega, isSome_value_of_decode h⟩
  · rintro ⟨heven, hdigits⟩
    exact exists_decode heven hdigits

-- ============================================================================
-- Case
-- ============================================================================

/-- `'A'` to `'Z'` in lower case. -/
def lower (c : UInt8) : UInt8 := if 65 ≤ c ∧ c ≤ 90 then c + 32 else c

/-- The digit of a value is the one it was read from, in lower case. -/
theorem digit_of_value {c : UInt8} {n : Nat} (h : value c = some n) : digit n = lower c := by
  have hall : ∀ k : Fin 256, ((value (UInt8.ofNat k)).all fun n =>
      digit n == lower (UInt8.ofNat k)) = true := by decide +kernel
  have hc := hall ⟨c.toNat, c.toNat_lt⟩
  rw [UInt8.ofNat_toNat, h, Option.all_some] at hc
  exact eq_of_beq hc

theorem encode_cons (b : UInt8) (bytes : List UInt8) :
    encode (b :: bytes) = digit (b.toNat / 16) :: digit (b.toNat % 16) :: encode bytes := rfl

/-- What was decoded is encoded again, in lower case. -/
theorem encode_of_decode : ∀ {text bytes : List UInt8}, decode text = some bytes →
    encode bytes = text.map lower
  | [], bytes, h => by
      cases h
      rfl
  | [_], bytes, h => by cases h
  | hi :: lo :: rest, bytes, h => by
      obtain ⟨high, low, bytes', hhigh, hlow, hrest, rfl⟩ := decode_cons_cons_eq_some h
      have hhigh16 := (range_of_value hhigh).1
      have hlow16 := (range_of_value hlow).1
      have hbyte : (UInt8.ofNat (16 * high + low)).toNat = 16 * high + low :=
        UInt8.toNat_ofNat_of_lt' (show 16 * high + low < 256 by omega)
      have hdiv : (16 * high + low) / 16 = high := by omega
      have hmod : (16 * high + low) % 16 = low := by omega
      rw [encode_cons, hbyte, hdiv, hmod, digit_of_value hhigh, digit_of_value hlow,
        encode_of_decode hrest, List.map_cons, List.map_cons]

-- ============================================================================
-- Reading by index
-- ============================================================================

/-- The byte of two digits. -/
def pair (hi lo : UInt8) : Option UInt8 :=
  match value hi, value lo with
  | some high, some low => some (UInt8.ofNat (16 * high + low))
  | _, _ => none

/-- The digits of each decoded byte. -/
theorem pair_of_decode : ∀ {text bytes : List UInt8}, decode text = some bytes →
    ∀ j b, bytes[j]? = some b → pair (text.getD (2 * j) 0) (text.getD (2 * j + 1) 0) = some b
  | [], bytes, h, j, b, hb => by
      cases h
      cases hb
  | [_], bytes, h, _, _, _ => by cases h
  | hi :: lo :: rest, bytes, h, j, b, hb => by
      obtain ⟨high, low, bytes', hhigh, hlow, hrest, rfl⟩ := decode_cons_cons_eq_some h
      cases j with
      | zero =>
          cases hb
          show pair hi lo = _
          rw [pair, hhigh, hlow]
      | succ j => exact pair_of_decode hrest j b hb

/-- A text of pairs that cannot be decoded has a pair that is none. -/
theorem exists_bad_pair : ∀ {text : List UInt8} {n : Nat}, text.length = 2 * n →
    decode text = none → ∃ j < n, pair (text.getD (2 * j) 0) (text.getD (2 * j + 1) 0) = none
  | [], _, _, h => by cases h
  | [_], n, hlength, _ => by
      rw [List.length_singleton] at hlength
      omega
  | hi :: lo :: rest, n, hlength, h => by
      rw [List.length_cons, List.length_cons] at hlength
      cases hpair : pair hi lo with
      | none => exact ⟨0, by omega, hpair⟩
      | some b =>
          have hrest : decode rest = none := by
            rw [pair] at hpair
            split at hpair
            · rename_i high low hhigh hlow
              cases hdecode : decode rest with
              | none => rfl
              | some bytes =>
                  rw [decode, hhigh, hlow, hdecode] at h
                  cases h
            · cases hpair
          obtain ⟨j, hj, hbad⟩ := exists_bad_pair (n := n - 1) (by omega) hrest
          exact ⟨j + 1, by omega, hbad⟩

end Lib.Hex
