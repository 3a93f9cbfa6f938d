/-
  Smile2Unlock.Common.Crypto

  The class `Crypto` (common/modules/crypto.cppm): padding, hexadecimal text, and
  AES-256-CBC, which mbed TLS computes and which is a parameter here.

  An exception is an `Except.error` with its message.  `removePadding_addPadding` and
  `decrypt_encrypt` are the round trips.
-/

import Smile2Unlock.Common.Text
import Smile2Unlock.Lib.Hex

namespace Smile2Unlock

open Lib

/-- `kAesKeySize`, `kAesBlockSize` and `kAesIvSize`. -/
def kAesKeySize : Nat := 32
def kAesBlockSize : Nat := 16
def kAesIvSize : Nat := 16

/-- A `std::array<uint8_t, n>`. -/
abbrev ByteArrayOf (n : Nat) := { bytes : Bytes // bytes.length = n }

abbrev Key := ByteArrayOf kAesKeySize
abbrev Iv := ByteArrayOf kAesIvSize

/-- `mbedtls_aes_setkey_enc` or `_dec` followed by `mbedtls_aes_crypt_cbc`; `none` is a
    return code other than 0.  The output buffer is as long as the input. -/
structure AesCbc where
  encrypt : Key → Iv → Bytes → Option Bytes
  decrypt : Key → Iv → Bytes → Option Bytes
  length_encrypt : ∀ {key iv plain cipher}, encrypt key iv plain = some cipher →
    cipher.length = plain.length

/-- Decryption inverts encryption under the same key and IV. -/
def AesCbc.Inverts (aes : AesCbc) : Prop :=
  ∀ key iv plain cipher, aes.encrypt key iv plain = some cipher →
    aes.decrypt key iv cipher = some plain

-- ============================================================================
-- Padding
-- ============================================================================

/-- `AddPadding`. -/
def addPadding (data : Bytes) : Bytes :=
  let padLen := kAesBlockSize - data.length % kAesBlockSize
  data ++ List.replicate padLen (UInt8.ofNat padLen)

/-- `RemovePadding`; the last byte says how many to take away. -/
def removePadding (data : Bytes) : Except Bytes Bytes :=
  if data.length % kAesBlockSize ≠ 0 then .error (utf8 "Invalid padded data length")
  else
    match data.getLast? with
    | none => .error (utf8 "Invalid padded data length")
    | some padLen =>
        if padLen = 0 ∨ kAesBlockSize < padLen.toNat ∨ data.length < padLen.toNat then
          .error (utf8 "Invalid padding")
        else if (data.drop (data.length - padLen.toNat)).any (· ≠ padLen) then
          .error (utf8 "Invalid padding")
        else .ok (data.take (data.length - padLen.toNat))

theorem padLen_bounds (data : Bytes) :
    0 < kAesBlockSize - data.length % kAesBlockSize ∧
      kAesBlockSize - data.length % kAesBlockSize ≤ kAesBlockSize := by
  have hmod : data.length % kAesBlockSize < kAesBlockSize := Nat.mod_lt _ (by decide)
  omega

theorem length_addPadding (data : Bytes) : (addPadding data).length =
    data.length + (kAesBlockSize - data.length % kAesBlockSize) := by
  simp [addPadding]

/-- Padded data fills whole blocks, at least one. -/
theorem length_addPadding_mod (data : Bytes) :
    (addPadding data).length % kAesBlockSize = 0 ∧ addPadding data ≠ [] := by
  have hlength := length_addPadding data
  have hbounds := padLen_bounds data
  constructor
  · rw [hlength, kAesBlockSize] at *
    omega
  · intro hnil
    rw [hnil, List.length_nil] at hlength
    omega

/-- The padding comes off again. -/
theorem removePadding_addPadding (data : Bytes) : removePadding (addPadding data) = .ok data := by
  obtain ⟨hpos, hle⟩ := padLen_bounds data
  obtain ⟨hmod, -⟩ := length_addPadding_mod data
  have hlength := length_addPadding data
  generalize hpad : kAesBlockSize - data.length % kAesBlockSize = padLen at hpos hle hlength
  have hdata : addPadding data = data ++ List.replicate padLen (UInt8.ofNat padLen) := by
    rw [addPadding, hpad]
  have hsize : padLen < 256 := Nat.lt_of_le_of_lt hle (by decide)
  have htoNat : (UInt8.ofNat padLen).toNat = padLen := UInt8.toNat_ofNat_of_lt' hsize
  have hlast : (addPadding data).getLast? = some (UInt8.ofNat padLen) := by
    rw [hdata, List.getLast?_append, List.getLast?_replicate, if_neg (by omega), Option.some_or]
  have hne : UInt8.ofNat padLen ≠ 0 := by
    intro hzero
    rw [hzero] at htoNat
    have : (0 : UInt8).toNat = 0 := rfl
    omega
  rw [removePadding, if_neg (by omega), hlast]
  dsimp only
  rw [htoNat, hlength, Nat.add_sub_cancel, if_neg (by simp only [hne, false_or]; omega),
    if_neg, hdata, List.take_left]
  rw [hdata, List.drop_left]
  simp

-- ============================================================================
-- Hexadecimal text
-- ============================================================================

/-- `IsHexDigit`. -/
def isHexDigit (ch : UInt8) : Bool := (Hex.value ch).isSome

/-- `bytesToHexImpl`. -/
def bytesToHexImpl (data : Bytes) : Bytes := Hex.encode data

/-- `HexToBytes` with its `ValidateHex`. -/
def hexToBytes (hex : Bytes) (expectedBytes : Nat) : Except Bytes (ByteArrayOf expectedBytes) :=
  if hlength : hex.length ≠ expectedBytes * 2 then .error (utf8 "Invalid hex length")
  else
    match hbytes : Hex.decode hex with
    | some bytes => .ok ⟨bytes, by
        have := Hex.length_of_decode hbytes
        omega⟩
    | none => .error (utf8 "Invalid hex character")

/-- `HexToBytesVector`. -/
def hexToBytesVector (hex : Bytes) : Except Bytes Bytes :=
  if hex.length % 2 ≠ 0 then .error (utf8 "Invalid hex length")
  else
    match Hex.decode hex with
    | some bytes => .ok bytes
    | none => .error (utf8 "Invalid hex character")

theorem hexToBytes_of_decode {hex bytes : Bytes} (h : Hex.decode hex = some bytes) :
    hexToBytes hex bytes.length = .ok ⟨bytes, rfl⟩ := by
  have hlength : ¬ hex.length ≠ bytes.length * 2 := by
    rw [Hex.length_of_decode h]
    omega
  rw [hexToBytes, dif_neg hlength]
  split
  · rename_i bytes' hdecode
    rw [h] at hdecode
    cases hdecode
    rfl
  · rename_i hdecode
    rw [h] at hdecode
    cases hdecode

theorem hexToBytes_of_none {hex : Bytes} {n : Nat} (hlength : hex.length = n * 2)
    (h : Hex.decode hex = none) : hexToBytes hex n = .error (utf8 "Invalid hex character") := by
  rw [hexToBytes, dif_neg (not_not.mpr hlength)]
  split
  · rename_i hdecode
    rw [h] at hdecode
    cases hdecode
  · rfl

theorem hexToBytes_bytesToHexImpl {n : Nat} (bytes : ByteArrayOf n) :
    hexToBytes (bytesToHexImpl bytes.val) n = .ok bytes := by
  obtain ⟨bytes, rfl⟩ := bytes
  exact hexToBytes_of_decode (Hex.decode_encode bytes)

theorem hexToBytesVector_bytesToHexImpl (bytes : Bytes) :
    hexToBytesVector (bytesToHexImpl bytes) = .ok bytes := by
  have hlength : ¬ (bytesToHexImpl bytes).length % 2 ≠ 0 := by
    rw [bytesToHexImpl, Hex.length_encode]
    omega
  rw [hexToBytesVector, if_neg hlength, bytesToHexImpl, Hex.decode_encode]

-- ============================================================================
-- Crypto
-- ============================================================================

/-- An object of the class; its constructor draws both at random. -/
structure Crypto where
  key : Key
  iv : Iv
deriving DecidableEq

namespace Crypto

/-- `getKeyHex` and `getIvHex`. -/
def getKeyHex (c : Crypto) : Bytes := bytesToHexImpl c.key.val
def getIvHex (c : Crypto) : Bytes := bytesToHexImpl c.iv.val

/-- `setKeyHex`: the object after it and the result. -/
def setKeyHex (c : Crypto) (keyHex : Bytes) : Crypto × Bool :=
  match hexToBytes keyHex kAesKeySize with
  | .ok key => ({ c with key := key }, true)
  | .error _ => (c, false)

/-- `setIvHex`. -/
def setIvHex (c : Crypto) (ivHex : Bytes) : Crypto × Bool :=
  match hexToBytes ivHex kAesIvSize with
  | .ok iv => ({ c with iv := iv }, true)
  | .error _ => (c, false)

/-- `Crypto::bytesToHex`. -/
def bytesToHex (bytes : Bytes) : Bytes := bytesToHexImpl bytes

/-- `Crypto::hexToBytes`: empty when the text is not hexadecimal. -/
def hexToBytes (hex : Bytes) : Bytes :=
  match hexToBytesVector hex with
  | .ok bytes => bytes
  | .error _ => []

/-- `encrypt`: empty on an error. -/
def encrypt (aes : AesCbc) (c : Crypto) (plaintext : Bytes) : Bytes :=
  match aes.encrypt c.key c.iv (addPadding plaintext) with
  | some ciphertext => ciphertext
  | none => []

/-- `decrypt`: empty on an error. -/
def decrypt (aes : AesCbc) (c : Crypto) (ciphertext : Bytes) : Bytes :=
  if ciphertext = [] ∨ ciphertext.length % kAesBlockSize ≠ 0 then []
  else
    match aes.decrypt c.key c.iv ciphertext with
    | none => []
    | some decrypted =>
        match removePadding decrypted with
        | .ok unpadded => unpadded
        | .error _ => []

theorem setIvHex_getIvHex (c d : Crypto) : c.setIvHex d.getIvHex = ({ c with iv := d.iv }, true) := by
  rw [setIvHex, getIvHex, hexToBytes_bytesToHexImpl]

/-- What was encrypted is decrypted under the same key and IV. -/
theorem decrypt_encrypt {aes : AesCbc} (haes : aes.Inverts) (c : Crypto) (plaintext : Bytes)
    (hne : c.encrypt aes plaintext ≠ []) :
    c.decrypt aes (c.encrypt aes plaintext) = plaintext := by
  rw [encrypt] at hne ⊢
  cases hcipher : aes.encrypt c.key c.iv (addPadding plaintext) with
  | none =>
      rw [hcipher] at hne
      exact absurd rfl hne
  | some cipher =>
      rw [hcipher] at hne
      have hlength := aes.length_encrypt hcipher
      have hmod := (length_addPadding_mod plaintext).1
      have hwhole : ¬ (cipher = [] ∨ cipher.length % kAesBlockSize ≠ 0) := by
        rw [hlength]
        exact not_or.mpr ⟨hne, by omega⟩
      dsimp only
      rw [decrypt, if_neg hwhole, haes _ _ _ _ hcipher]
      dsimp only
      rw [removePadding_addPadding]

end Crypto

end Smile2Unlock
