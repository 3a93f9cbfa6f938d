/-
  Smile2Unlock.Service.HexCodecs

  The hexadecimal readers and writers of the three programs side by side.  FaceRecognizer
  writes upper case and throws, `Crypto` writes lower case and returns nothing,
  `DecodeFeatureHex` returns false and counts its bytes.

  All of them read what either writes, and the same texts at all (`hexCodecs_agree`).
-/

import Smile2Unlock.Common.HexLoops
import Smile2Unlock.Service.CompareFeatures

namespace Smile2Unlock

open Lib

-- ============================================================================
-- DecodeFeatureHex as a loop
-- ============================================================================

namespace Bytewise

/-- The bytes of `DecodeFeatureHex`; `i` goes in steps of two while `i + 1` is below the
    size. -/
def featureBytes (hex : Bytes) : Option Bytes :=
  if hex.length % 2 ≠ 0 then none
  else
    match collect (fun k => valuePair () hex (2 * k)) 0 (hex.length / 2) [] with
    | (.ok (), bytes) => some bytes
    | (.error (), _) => none

/-- `DecodeFeatureHex`. -/
def decodeFeatureHex (hex : Bytes) : Option (List Float32) :=
  if hex = [] then none
  else
    match featureBytes hex with
    | none => none
    | some bytes =>
        if bytes = [] ∨ bytes.length % 4 ≠ 0 then none
        else
          let featureSize := bytes.length / 4
          if featureSize * 4 < bytes.length then none else some (Service.floatsOf bytes)

theorem featureBytes_eq (hex : Bytes) : featureBytes hex = Hex.decode hex := by
  rw [featureBytes]
  by_cases heven : hex.length % 2 ≠ 0
  · cases h : Hex.decode hex with
    | none => exact if_pos heven
    | some bytes =>
        have hlength := Hex.length_of_decode h
        omega
  · have hf : ReadsPairs () hex fun k => valuePair () hex (2 * k) :=
      fun k => valuePair_eq () hex (2 * k)
    rw [if_neg heven]
    rcases hf.collect (show hex.length = 2 * (hex.length / 2) by omega) with
      ⟨bytes, hdecode, hloop⟩ | ⟨hdecode, xs, hloop⟩
    · rw [hdecode, hloop]
    · rw [hdecode, hloop]

/-- The loop is the decoding that the comparison was modelled with. -/
theorem decodeFeatureHex_eq (hex : Bytes) :
    decodeFeatureHex hex = Service.decodeFeatureHex hex := by
  rw [decodeFeatureHex, Service.decodeFeatureHex, featureBytes_eq]
  by_cases hempty : hex = []
  · rw [if_pos hempty, if_pos (.inl hempty)]
  rw [if_neg hempty]
  cases h : Hex.decode hex with
  | none =>
      dsimp only
      rw [ite_self]
  | some bytes =>
      have hlength := Hex.length_of_decode h
      rw [if_neg (not_or.mpr ⟨hempty, by omega⟩)]
      dsimp only
      by_cases hbytes : bytes = [] ∨ bytes.length % 4 ≠ 0
      · rw [if_pos hbytes, if_pos hbytes]
      · have hfour : ¬ bytes.length / 4 * 4 < bytes.length := by
          rw [not_or] at hbytes
          omega
        rw [if_neg hbytes, if_neg hbytes, if_neg hfour]

end Bytewise

-- ============================================================================
-- The readers compared
-- ============================================================================

/-- Pairs of hexadecimal digits of either case. -/
def IsHexPairs (hex : Bytes) : Prop := hex.length % 2 = 0 ∧ ∀ ch ∈ hex, isXDigit ch = true

/-- `Crypto::hexToBytes`, an empty result read as a failure unless the text is empty. -/
def readHexToBytes (hex : Bytes) : Option Bytes :=
  if Bytewise.Crypto.hexToBytes hex = [] ∧ hex ≠ [] then none
  else some (Bytewise.Crypto.hexToBytes hex)

/-- What the readers make of a text that stands for `bytes`. -/
structure ReadAs (hex bytes : Bytes) : Prop where
  faceRecognizer : decodeHexToBytes hex = .ok bytes
  crypto : readHexToBytes hex = some bytes
  byteStage : Bytewise.featureBytes hex = some bytes
  feature : Bytewise.decodeFeatureHex hex =
    if bytes = [] ∨ bytes.length % 4 ≠ 0 then none else some (Service.floatsOf bytes)

/-- All readers reject the text. -/
structure Unread (hex : Bytes) : Prop where
  faceRecognizer : ∃ e, decodeHexToBytes hex = .error e
  crypto : readHexToBytes hex = none
  byteStage : Bytewise.featureBytes hex = none
  feature : Bytewise.decodeFeatureHex hex = none

theorem isHexPairs_iff {hex : Bytes} : IsHexPairs hex ↔ ∃ bytes, Hex.decode hex = some bytes := by
  rw [Hex.exists_decode_iff, IsHexPairs]
  simp only [isXDigit_eq]

theorem crypto_hexToBytes_eq (hex : Bytes) :
    Bytewise.Crypto.hexToBytes hex = (Hex.decode hex).getD [] := by
  rw [Bytewise.Crypto.hexToBytes, Bytewise.hexToBytesVector_eq, hexToBytesVector]
  cases h : Hex.decode hex with
  | none =>
      split
      · rename_i heq
        split at heq
        · cases heq
        · cases heq
      · rfl
  | some bytes =>
      have hlength := Hex.length_of_decode h
      rw [if_neg (by omega)]
      rfl

theorem readAs_of_decode {hex bytes : Bytes} (h : Hex.decode hex = some bytes) :
    ReadAs hex bytes := by
  have hlength := Hex.length_of_decode h
  have hcrypto : Bytewise.Crypto.hexToBytes hex = bytes := by
    rw [crypto_hexToBytes_eq, h, Option.getD_some]
  refine ⟨?_, ?_, by rw [Bytewise.featureBytes_eq, h], ?_⟩
  · rw [decodeHexToBytes_eq, if_neg (by omega), h]
  · rw [readHexToBytes, hcrypto, if_neg]
    rintro ⟨rfl, hne⟩
    exact hne (List.length_eq_zero_iff.mp hlength)
  · rw [Bytewise.decodeFeatureHex_eq, Service.decodeFeatureHex, h]
    by_cases hempty : hex = []
    · have hbytes : bytes = [] := by
        rw [hempty, List.length_nil] at hlength
        exact List.length_eq_zero_iff.mp (by omega)
      rw [if_pos (.inl hempty), if_pos (.inl hbytes)]
    · rw [if_neg (not_or.mpr ⟨hempty, by omega⟩)]

theorem unread_of_decode_none {hex : Bytes} (h : Hex.decode hex = none) : Unread hex := by
  refine ⟨?_, ?_, by rw [Bytewise.featureBytes_eq, h], ?_⟩
  · rw [decodeHexToBytes_eq, h]
    by_cases heven : hex.length % 2 ≠ 0
    · exact ⟨_, if_pos heven⟩
    · exact ⟨_, if_neg heven⟩
  · rw [readHexToBytes, crypto_hexToBytes_eq, h]
    refine if_pos ⟨rfl, ?_⟩
    rintro rfl
    cases h
  · rw [Bytewise.decodeFeatureHex_eq, Service.decodeFeatureHex, h]
    exact ite_self none

/-- Both encoders are read by every decoder, and the decoders accept the same texts with
    the same bytes. -/
theorem hexCodecs_agree :
    (∀ b, ReadAs (encodeBytesToHex b) b ∧ Bytewise.Crypto.hexToBytes (encodeBytesToHex b) = b) ∧
    (∀ b, ReadAs (Crypto.bytesToHex b) b ∧ Bytewise.Crypto.hexToBytes (Crypto.bytesToHex b) = b) ∧
    ∀ h, (IsHexPairs h ∧ ∃ b, ReadAs h b) ∨ (¬ IsHexPairs h ∧ Unread h) := by
  refine ⟨fun b => ⟨readAs_of_decode (decode_encodeBytesToHex b), ?_⟩,
    fun b => ⟨readAs_of_decode (Hex.decode_encode b), ?_⟩, fun h => ?_⟩
  · rw [crypto_hexToBytes_eq, decode_encodeBytesToHex, Option.getD_some]
  · rw [crypto_hexToBytes_eq, Crypto.bytesToHex, bytesToHexImpl, Hex.decode_encode,
      Option.getD_some]
  · cases hdecode : Hex.decode h with
    | some bytes =>
        exact .inl ⟨isHexPairs_iff.mpr ⟨bytes, hdecode⟩, bytes, readAs_of_decode hdecode⟩
    | none =>
        refine .inr ⟨fun hpairs => ?_, unread_of_decode_none hdecode⟩
        obtain ⟨bytes, hbytes⟩ := isHexPairs_iff.mp hpairs
        rw [hdecode] at hbytes
        cases hbytes

end Smile2Unlock
