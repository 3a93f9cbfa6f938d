/-
  Smile2Unlock.Common.HexLoops

  The hexadecimal decoders as the loops they are: `DecodeHexToBytes` of FaceRecognizer,
  which throws in its loop, and `HexToBytes` and `HexToBytesVector` of crypto.cppm, whose
  `HexNibble` throws while the bytes are written in place.

  `HexToBytes` writes into the key of the object.  What a rejected text leaves there is a
  state of the model; `setHex_atomic` says that it is the key from before, since
  `ValidateHex` accepts nothing that `HexNibble` refuses.
-/

import Smile2Unlock.Common.Crypto
import Smile2Unlock.Common.FeatureHex
import Smile2Unlock.Lib.ArrayAccess

namespace Smile2Unlock

open Lib

-- ============================================================================
-- DecodeHexToBytes
-- ============================================================================

/-- `hex_value` of `DecodeHexToBytes`, and `HexValue` of face_recognition.cppm. -/
def hexValue (ch : UInt8) : Int :=
  if 48 ≤ ch ∧ ch ≤ 57 then (ch.toNat : Int) - 48
  else if 97 ≤ ch ∧ ch ≤ 102 then 10 + ((ch.toNat : Int) - 97)
  else if 65 ≤ ch ∧ ch ≤ 70 then 10 + ((ch.toNat : Int) - 65)
  else -1

/-- The body of the loop at `i`: `(high << 4) | low`, or what the loop is left with. -/
def valuePair {ε : Type} (e : ε) (hex : Bytes) (i : Nat) : Except ε UInt8 :=
  let high := hexValue (hex.getD i 0)
  let low := hexValue (hex.getD (i + 1) 0)
  if high < 0 ∨ low < 0 then .error e
  else .ok (UInt8.ofNat (high.toNat <<< 4 ||| low.toNat))

/-- `DecodeHexToBytes`; `i` goes from 0 in steps of two while it is below the size. -/
def decodeHexToBytes (hex : Bytes) : Except Bytes Bytes :=
  if hex.length % 2 ≠ 0 then .error (utf8 "Hex string length must be even")
  else
    match collect (fun k => valuePair (utf8 "Invalid hex character") hex (2 * k))
        0 ((hex.length + 1) / 2) [] with
    | (.ok (), bytes) => .ok bytes
    | (.error e, _) => .error e

theorem hexValue_of_value {ch : UInt8} {n : Nat} (h : Hex.value ch = some n) : hexValue ch = n := by
  simp only [Hex.value, UInt8.le_iff_toNat_le, UInt8.reduceToNat] at h
  simp only [hexValue, UInt8.le_iff_toNat_le, UInt8.reduceToNat]
  split at h
  · rename_i hdigit
    rw [if_pos hdigit]
    cases h
    omega
  · rename_i hdigit
    rw [if_neg hdigit]
    split at h
    · rename_i hlower
      rw [if_pos hlower]
      cases h
      omega
    · rename_i hlower
      rw [if_neg hlower]
      split at h
      · rename_i hupper
        rw [if_pos hupper]
        cases h
        omega
      · cases h

theorem hexValue_of_none {ch : UInt8} (h : Hex.value ch = none) : hexValue ch = -1 := by
  rw [Hex.value] at h
  rw [hexValue]
  split at h
  · cases h
  split at h
  · cases h
  split at h
  · cases h
  · rename_i hdigit hlower hupper
    rw [if_neg hdigit, if_neg hlower, if_neg hupper]

/-- The two halves of a byte. -/
theorem shiftLeft_or {high low : Nat} (hlow : low < 16) : high <<< 4 ||| low = 16 * high + low := by
  rw [← Nat.shiftLeft_add_eq_or_of_lt (show low < 2 ^ 4 from hlow), Nat.shiftLeft_eq]
  omega

theorem valuePair_eq {ε : Type} (e : ε) (hex : Bytes) (i : Nat) : valuePair e hex i =
    match Hex.pair (hex.getD i 0) (hex.getD (i + 1) 0) with
    | some b => .ok b
    | none => .error e := by
  rw [valuePair, Hex.pair]
  cases hhigh : Hex.value (hex.getD i 0) with
  | none =>
      rw [hexValue_of_none hhigh]
      exact if_pos (.inl (by decide))
  | some high =>
      rw [hexValue_of_value hhigh]
      cases hlow : Hex.value (hex.getD (i + 1) 0) with
      | none =>
          rw [hexValue_of_none hlow]
          exact if_pos (.inr (by decide))
      | some low =>
          rw [hexValue_of_value hlow]
          dsimp only
          rw [if_neg (by omega), Int.toNat_natCast, Int.toNat_natCast,
            shiftLeft_or (Hex.range_of_value hlow).1]

-- ============================================================================
-- Loops over pairs of digits
-- ============================================================================

/-- A body that reads the digits `2 * k` and `2 * k + 1`, and throws `e` where one is none. -/
def ReadsPairs {ε : Type} (e : ε) (hex : Bytes) (f : Nat → Except ε UInt8) : Prop :=
  ∀ k, f k =
    match Hex.pair (hex.getD (2 * k) 0) (hex.getD (2 * k + 1) 0) with
    | some b => .ok b
    | none => .error e

section ReadsPairs

variable {ε : Type} {e : ε} {hex bytes : Bytes} {f : Nat → Except ε UInt8}

theorem ReadsPairs.of_decode (hf : ReadsPairs e hex f) (h : Hex.decode hex = some bytes) :
    ∀ j b, bytes[j]? = some b → f j = .ok b := by
  intro j b hb
  rw [hf j, Hex.pair_of_decode h j b hb]

/-- Text that cannot be decoded ends a loop over all its pairs. -/
theorem ReadsPairs.error {σ : Type} (hf : ReadsPairs e hex f) {n : Nat}
    (hlength : hex.length = 2 * n) (h : Hex.decode hex = none) (update : σ → Nat → UInt8 → σ)
    (s : σ) : ∃ s', forIndices update f 0 n s = (.error e, s') := by
  refine forIndices_error (fun j e' he' => ?_) ?_ s
  · rw [hf j] at he'
    split at he'
    · cases he'
    · cases he'
      rfl
  · obtain ⟨j, hj, hbad⟩ := Hex.exists_bad_pair hlength h
    exact ⟨j, hj, by rw [Nat.zero_add, hf j, hbad]⟩

theorem length_of_pairs (h : Hex.decode hex = some bytes) {n : Nat} (hlength : hex.length = 2 * n) :
    n = bytes.length := by
  have hbytes := Hex.length_of_decode h
  omega

/-- A loop over all pairs collects the bytes, or is left with `e`. -/
theorem ReadsPairs.collect (hf : ReadsPairs e hex f) {n : Nat} (hlength : hex.length = 2 * n) :
    (∃ bytes, Hex.decode hex = some bytes ∧ Lib.collect f 0 n [] = (.ok (), bytes)) ∨
      (Hex.decode hex = none ∧ ∃ xs, Lib.collect f 0 n [] = (.error e, xs)) := by
  cases h : Hex.decode hex with
  | some bytes =>
      obtain rfl := length_of_pairs h hlength
      exact .inl ⟨bytes, rfl, collect_of_ok (hf.of_decode h)⟩
  | none => exact .inr ⟨rfl, hf.error hlength h _ []⟩

/-- The same for a loop that fills an array of their number. -/
theorem ReadsPairs.fill (hf : ReadsPairs e hex f) {n : Nat} (hlength : hex.length = 2 * n)
    {out : Bytes} (hout : out.length = n) :
    (∃ bytes, Hex.decode hex = some bytes ∧ Lib.fill f 0 n out = (.ok (), bytes)) ∨
      (Hex.decode hex = none ∧ ∃ out', Lib.fill f 0 n out = (.error e, out')) := by
  cases h : Hex.decode hex with
  | some bytes =>
      obtain rfl := length_of_pairs h hlength
      exact .inl ⟨bytes, rfl, fill_of_ok hout (hf.of_decode h)⟩
  | none => exact .inr ⟨rfl, hf.error hlength h _ out⟩

end ReadsPairs

/-- `DecodeHexToBytes` is the decoding of the text, with its own exceptions. -/
theorem decodeHexToBytes_eq (hex : Bytes) : decodeHexToBytes hex =
    if hex.length % 2 ≠ 0 then .error (utf8 "Hex string length must be even")
    else
      match Hex.decode hex with
      | some bytes => .ok bytes
      | none => .error (utf8 "Invalid hex character") := by
  rw [decodeHexToBytes]
  by_cases heven : hex.length % 2 ≠ 0
  · rw [if_pos heven, if_pos heven]
  · have hf : ReadsPairs (utf8 "Invalid hex character") hex
        fun k => valuePair (utf8 "Invalid hex character") hex (2 * k) :=
      fun k => valuePair_eq _ hex (2 * k)
    have hlength : hex.length = 2 * ((hex.length + 1) / 2) := by omega
    rw [if_neg heven, if_neg heven]
    rcases hf.collect hlength with ⟨bytes, hdecode, hloop⟩ | ⟨hdecode, xs, hloop⟩
    · rw [hdecode, hloop]
    · rw [hdecode, hloop]

-- ============================================================================
-- HexToBytes and HexToBytesVector
-- ============================================================================

/-- `std::isxdigit` in the C locale. -/
def isXDigit (ch : UInt8) : Bool := ch ∈ utf8 "0123456789abcdefABCDEF"

/-- `HexNibble`. -/
def hexNibble (ch : UInt8) : Except Bytes UInt8 :=
  if 48 ≤ ch ∧ ch ≤ 57 then .ok (ch - 48)
  else if 97 ≤ ch ∧ ch ≤ 102 then .ok (10 + ch - 97)
  else if 65 ≤ ch ∧ ch ≤ 70 then .ok (10 + ch - 65)
  else .error (utf8 "Invalid hex character")

/-- The right-hand side of both loops. -/
def nibblePair (hex : Bytes) (i : Nat) : Except Bytes UInt8 :=
  match hexNibble (hex.getD (i * 2) 0), hexNibble (hex.getD (i * 2 + 1) 0) with
  | .ok high, .ok low => .ok (high <<< 4 ||| low)
  | .error e, _ => .error e
  | _, .error e => .error e

/-- `ValidateHex`. -/
def validateHex (hex : Bytes) (expectedBytes : Nat) : Except Bytes Unit :=
  if hex.length ≠ expectedBytes * 2 then .error (utf8 "Invalid hex length")
  else if hex.all isXDigit then .ok () else .error (utf8 "Invalid hex character")

namespace Bytewise

/-- `HexToBytes`, and what it leaves in `out`. -/
def hexToBytes {n : Nat} (hex : Bytes) (out : ByteArrayOf n) : Except Bytes Unit × ByteArrayOf n :=
  match validateHex hex n with
  | .error e => (.error e, out)
  | .ok () =>
      let written := fill (nibblePair hex) 0 n out.val
      (written.1, ⟨written.2, by rw [length_fill, out.property]⟩)

/-- `HexToBytesVector`. -/
def hexToBytesVector (hex : Bytes) : Except Bytes Bytes :=
  if hex.length % 2 ≠ 0 then .error (utf8 "Invalid hex length")
  else
    match fill (nibblePair hex) 0 (hex.length / 2) (List.replicate (hex.length / 2) 0) with
    | (.ok (), result) => .ok result
    | (.error e, _) => .error e

/-- `Crypto::hexToBytes`. -/
def Crypto.hexToBytes (hex : Bytes) : Bytes :=
  match hexToBytesVector hex with
  | .ok bytes => bytes
  | .error _ => []

/-- `setKeyHex`; the bytes of the key are written where they are. -/
def setKeyHex (c : Crypto) (keyHex : Bytes) : Crypto × Bool :=
  match hexToBytes keyHex c.key with
  | (.ok (), key) => ({ c with key := key }, true)
  | (.error _, key) => ({ c with key := key }, false)

/-- `setIvHex`. -/
def setIvHex (c : Crypto) (ivHex : Bytes) : Crypto × Bool :=
  match hexToBytes ivHex c.iv with
  | (.ok (), iv) => ({ c with iv := iv }, true)
  | (.error _, iv) => ({ c with iv := iv }, false)

end Bytewise

theorem isXDigit_eq (ch : UInt8) : isXDigit ch = (Hex.value ch).isSome := by
  have hall : ∀ k : Fin 256, isXDigit (UInt8.ofNat k) = (Hex.value (UInt8.ofNat k)).isSome := by
    decide +kernel
  have hch := hall ⟨ch.toNat, ch.toNat_lt⟩
  rwa [UInt8.ofNat_toNat] at hch

theorem hexNibble_eq (ch : UInt8) : hexNibble ch =
    match Hex.value ch with
    | some n => .ok (UInt8.ofNat n)
    | none => .error (utf8 "Invalid hex character") := by
  have hall : ∀ k : Fin 256, hexNibble (UInt8.ofNat k) =
      match Hex.value (UInt8.ofNat k) with
      | some n => .ok (UInt8.ofNat n)
      | none => .error (utf8 "Invalid hex character") := by
    decide +kernel
  have hch := hall ⟨ch.toNat, ch.toNat_lt⟩
  rwa [UInt8.ofNat_toNat] at hch

/-- Two nibbles as a byte. -/
theorem nibbles_eq {high low : Nat} (hhigh : high < 16) (hlow : low < 16) :
    UInt8.ofNat high <<< 4 ||| UInt8.ofNat low = UInt8.ofNat (16 * high + low) := by
  have hall : ∀ h l : Fin 16,
      UInt8.ofNat h <<< 4 ||| UInt8.ofNat l = UInt8.ofNat (16 * h + l) := by
    decide +kernel
  exact hall ⟨high, hhigh⟩ ⟨low, hlow⟩

theorem readsPairs_nibblePair (hex : Bytes) :
    ReadsPairs (utf8 "Invalid hex character") hex (nibblePair hex) := by
  intro k
  rw [nibblePair, hexNibble_eq, hexNibble_eq, Nat.mul_comm k 2, Hex.pair]
  cases hhigh : Hex.value (hex.getD (2 * k) 0) with
  | none => rfl
  | some high =>
      cases hlow : Hex.value (hex.getD (2 * k + 1) 0) with
      | none => rfl
      | some low =>
          dsimp only
          rw [nibbles_eq (Hex.range_of_value hhigh).1 (Hex.range_of_value hlow).1]

theorem decode_isSome_of_all {hex : Bytes} (heven : hex.length % 2 = 0)
    (h : hex.all isXDigit = true) : ∃ bytes, Hex.decode hex = some bytes :=
  Hex.exists_decode heven fun c hc => by
    rw [← isXDigit_eq]
    exact List.all_eq_true.mp h c hc

theorem all_of_decode {hex bytes : Bytes} (h : Hex.decode hex = some bytes) :
    hex.all isXDigit = true :=
  List.all_eq_true.mpr fun c hc => by
    rw [isXDigit_eq]
    exact Hex.isSome_value_of_decode h c hc

namespace Bytewise

/-- The validated text is read to its end, and any other leaves `out` alone. -/
theorem hexToBytes_eq {n : Nat} (hex : Bytes) (out : ByteArrayOf n) : hexToBytes hex out =
    match Smile2Unlock.hexToBytes hex n with
    | .ok bytes => (.ok (), bytes)
    | .error e => (.error e, out) := by
  by_cases hlength : hex.length ≠ n * 2
  · rw [hexToBytes, validateHex, if_pos hlength, Smile2Unlock.hexToBytes, dif_pos hlength]
  rw [not_not] at hlength
  cases hdecode : Hex.decode hex with
  | none =>
      have hall : ¬ hex.all isXDigit = true := by
        intro hall
        obtain ⟨bytes, hbytes⟩ := decode_isSome_of_all (by omega) hall
        rw [hdecode] at hbytes
        cases hbytes
      rw [hexToBytes, validateHex, if_neg (not_not.mpr hlength), if_neg hall,
        hexToBytes_of_none hlength hdecode]
  | some bytes =>
      obtain rfl := length_of_pairs hdecode (show hex.length = 2 * n by omega)
      have hfill : fill (nibblePair hex) 0 bytes.length out.val = (.ok (), bytes) :=
        fill_of_ok out.property ((readsPairs_nibblePair hex).of_decode hdecode)
      rw [hexToBytes, validateHex, if_neg (not_not.mpr hlength), if_pos (all_of_decode hdecode),
        hexToBytes_of_decode hdecode]
      simp only [hfill]

theorem hexToBytesVector_eq (hex : Bytes) :
    hexToBytesVector hex = Smile2Unlock.hexToBytesVector hex := by
  rw [hexToBytesVector, Smile2Unlock.hexToBytesVector]
  by_cases heven : hex.length % 2 ≠ 0
  · rw [if_pos heven, if_pos heven]
  · rw [if_neg heven, if_neg heven]
    rcases (readsPairs_nibblePair hex).fill (show hex.length = 2 * (hex.length / 2) by omega)
      List.length_replicate with ⟨bytes, hdecode, hloop⟩ | ⟨hdecode, out, hloop⟩
    · rw [hdecode, hloop]
    · rw [hdecode, hloop]

theorem setKeyHex_eq (c : Crypto) (keyHex : Bytes) : setKeyHex c keyHex = c.setKeyHex keyHex := by
  rw [setKeyHex, hexToBytes_eq, Crypto.setKeyHex]
  cases Smile2Unlock.hexToBytes keyHex kAesKeySize with
  | ok key => rfl
  | error e => rfl

theorem setIvHex_eq (c : Crypto) (ivHex : Bytes) : setIvHex c ivHex = c.setIvHex ivHex := by
  rw [setIvHex, hexToBytes_eq, Crypto.setIvHex]
  cases Smile2Unlock.hexToBytes ivHex kAesIvSize with
  | ok iv => rfl
  | error e => rfl

end Bytewise

-- ============================================================================
-- Keys and IVs as text
-- ============================================================================

/-- A text of `n` hexadecimal digits. -/
def IsHexText (n : Nat) (hex : Bytes) : Prop := hex.length = n ∧ ∀ ch ∈ hex, isXDigit ch = true

/-- A setter takes a text of `n` digits, which the getter shows in lower case, and leaves
    the object alone on any other text; what is decrypted after that is decrypted as before. -/
structure SetsHex (set : Crypto → Bytes → Crypto × Bool) (get : Crypto → Bytes) (n : Nat) :
    Prop where
  accepts : ∀ c hex, (set c hex).2 = true ↔ IsHexText n hex
  shows : ∀ c hex, (set c hex).2 = true → get (set c hex).1 = hex.map Hex.lower
  keeps : ∀ c hex, (set c hex).2 = false → (set c hex).1 = c ∧
    ∀ (aes : AesCbc) ciphertext, (set c hex).1.decrypt aes ciphertext = c.decrypt aes ciphertext

theorem exists_hexToBytes_iff {hex : Bytes} {n : Nat} :
    (∃ bytes, hexToBytes hex n = .ok bytes) ↔ IsHexText (n * 2) hex := by
  constructor
  · rintro ⟨bytes, h⟩
    by_cases hlength : hex.length = n * 2
    · cases hdecode : Hex.decode hex with
      | some bytes' => exact ⟨hlength, List.all_eq_true.mp (all_of_decode hdecode)⟩
      | none =>
          rw [hexToBytes_of_none hlength hdecode] at h
          cases h
    · rw [hexToBytes, dif_pos hlength] at h
      cases h
  · rintro ⟨hlength, hdigits⟩
    obtain ⟨bytes, hdecode⟩ := decode_isSome_of_all (by omega) (List.all_eq_true.mpr hdigits)
    obtain rfl := length_of_pairs hdecode (show hex.length = 2 * n by omega)
    exact ⟨_, hexToBytes_of_decode hdecode⟩

theorem bytesToHexImpl_of_hexToBytes {hex : Bytes} {n : Nat} {bytes : ByteArrayOf n}
    (h : hexToBytes hex n = .ok bytes) : bytesToHexImpl bytes.val = hex.map Hex.lower := by
  obtain ⟨hlength, -⟩ := exists_hexToBytes_iff.mp ⟨bytes, h⟩
  cases hdecode : Hex.decode hex with
  | none =>
      rw [hexToBytes_of_none hlength hdecode] at h
      cases h
  | some bytes' =>
      obtain rfl := length_of_pairs hdecode (show hex.length = 2 * n by omega)
      rw [hexToBytes_of_decode hdecode] at h
      cases h
      exact Hex.encode_of_decode hdecode

/-- A setter that stores what `hexToBytes` returns, and nothing where it throws. -/
theorem setsHex_of_hexToBytes {n : Nat} {set : Crypto → Bytes → Crypto × Bool}
    {get : Crypto → Bytes} (store : Crypto → ByteArrayOf n → Crypto)
    (hok : ∀ c hex bytes, hexToBytes hex n = .ok bytes → set c hex = (store c bytes, true))
    (herror : ∀ c hex e, hexToBytes hex n = .error e → set c hex = (c, false))
    (hget : ∀ c bytes, get (store c bytes) = bytesToHexImpl bytes.val) :
    SetsHex set get (n * 2) := by
  refine ⟨fun c hex => ?_, fun c hex htrue => ?_, fun c hex hfalse => ?_⟩
  · rw [← exists_hexToBytes_iff]
    cases h : hexToBytes hex n with
    | ok bytes => exact iff_of_true (by rw [hok c hex bytes h]) ⟨bytes, rfl⟩
    | error e =>
        refine iff_of_false (by rw [herror c hex e h]; exact Bool.false_ne_true) ?_
        rintro ⟨bytes, hbytes⟩
        cases hbytes
  · cases h : hexToBytes hex n with
    | ok bytes =>
        rw [hok c hex bytes h, hget]
        exact bytesToHexImpl_of_hexToBytes h
    | error e =>
        rw [herror c hex e h] at htrue
        cases htrue
  · cases h : hexToBytes hex n with
    | ok bytes =>
        rw [hok c hex bytes h] at hfalse
        cases hfalse
    | error e =>
        rw [herror c hex e h]
        exact ⟨rfl, fun _ _ => rfl⟩

/-- `setKeyHex` and `setIvHex` store a whole key or IV, or nothing. -/
theorem setHex_atomic : SetsHex Bytewise.setKeyHex Crypto.getKeyHex 64 ∧
    SetsHex Bytewise.setIvHex Crypto.getIvHex 32 := by
  constructor
  · refine setsHex_of_hexToBytes (n := kAesKeySize) (fun c key => { c with key := key })
      (fun c hex bytes h => ?_) (fun c hex e h => ?_) (fun c bytes => rfl)
    · rw [Bytewise.setKeyHex_eq, Crypto.setKeyHex, h]
    · rw [Bytewise.setKeyHex_eq, Crypto.setKeyHex, h]
  · refine setsHex_of_hexToBytes (n := kAesIvSize) (fun c iv => { c with iv := iv })
      (fun c hex bytes h => ?_) (fun c hex e h => ?_) (fun c bytes => rfl)
    · rw [Bytewise.setIvHex_eq, Crypto.setIvHex, h]
    · rw [Bytewise.setIvHex_eq, Crypto.setIvHex, h]

end Smile2Unlock
