/-
  Smile2Unlock.Storage.Password

  The stored form of a password (modules/database.cppm): `aes256cbc:`, the IV in
  hexadecimal, `:`, the ciphertext in hexadecimal.

  `unseal_seal` is the round trip of the text under one key, and
  `decryptPasswordFromStorage_encrypt` that of the two calls, with the key file
  between them and any calls in between.
-/

import Smile2Unlock.Storage.KeyFile

namespace Smile2Unlock.Storage

open Smile2Unlock Lib

/-- `kPasswordPrefix`. -/
def kPasswordPrefix : Bytes := utf8 "aes256cbc:"

/-- The text that `EncryptPasswordForStorage` returns once it has its object. -/
def sealPassword (aes : AesCbc) (crypto : Crypto) (plainPassword : Bytes) : Bytes :=
  let ivHex := crypto.getIvHex
  let cipherBytes := crypto.encrypt aes plainPassword
  if ivHex = [] ∨ cipherBytes = [] then []
  else kPasswordPrefix ++ (ivHex ++ colon :: bytesToHexImpl cipherBytes)

/-- `EncryptPasswordForStorage`: its result, and the key file after it. -/
def encryptPasswordForStorage (aes : AesCbc) (io : KeyIo) (draws : Draws) (file : Option Bytes)
    (plainPassword : Bytes) : Except Bytes Bytes × Option Bytes :=
  match createStorageCrypto io draws file with
  | (.error message, file') => (.error message, file')
  | (.ok none, file') => (.ok [], file')
  | (.ok (some crypto), file') => (.ok (sealPassword aes crypto plainPassword), file')

/-- What `DecryptPasswordFromStorage` returns once it has its object. -/
def unsealPassword (aes : AesCbc) (crypto : Crypto) (ivHex cipherHex : Bytes) : Bytes :=
  let (crypto', ivSet) := crypto.setIvHex ivHex
  if ivSet = false then []
  else
    let cipherBytes := Crypto.hexToBytes cipherHex
    if cipherBytes = [] then [] else crypto'.decrypt aes cipherBytes

/-- IV and ciphertext text of a stored value; `none` if one of them is missing. -/
def splitStored (storedPassword : Bytes) : Option (Bytes × Bytes) :=
  match splitAtFirst colon (storedPassword.drop kPasswordPrefix.length) with
  | none => none
  | some (ivHex, cipherHex) => if ivHex = [] ∨ cipherHex = [] then none else some (ivHex, cipherHex)

/-- `DecryptPasswordFromStorage`: its result, and the key file after it. -/
def decryptPasswordFromStorage (aes : AesCbc) (io : KeyIo) (draws : Draws) (file : Option Bytes)
    (storedPassword : Bytes) : Except Bytes Bytes × Option Bytes :=
  if ¬ kPasswordPrefix <+: storedPassword then (.ok storedPassword, file)
  else
    match splitStored storedPassword with
    | none => (.ok [], file)
    | some (ivHex, cipherHex) =>
        match createStorageCrypto io draws file with
        | (.error message, file') => (.error message, file')
        | (.ok none, file') => (.ok [], file')
        | (.ok (some crypto), file') => (.ok (unsealPassword aes crypto ivHex cipherHex), file')

/-- A call of one of the two, with what it draws and what the file system does. -/
inductive StorageCall where
  | encryptPassword (io : KeyIo) (draws : Draws) (plainPassword : Bytes)
  | decryptPassword (io : KeyIo) (draws : Draws) (storedPassword : Bytes)

/-- The key file after a call. -/
def StorageCall.fileAfter (aes : AesCbc) (file : Option Bytes) : StorageCall → Option Bytes
  | .encryptPassword io draws plainPassword =>
      (encryptPasswordForStorage aes io draws file plainPassword).2
  | .decryptPassword io draws storedPassword =>
      (decryptPasswordFromStorage aes io draws file storedPassword).2

/-- The key file after a list of calls. -/
def fileAfterCalls (aes : AesCbc) (calls : List StorageCall) (file : Option Bytes) : Option Bytes :=
  calls.foldl (StorageCall.fileAfter aes) file

-- ============================================================================
-- One text
-- ============================================================================

theorem colon_not_mem_getIvHex (crypto : Crypto) : colon ∉ crypto.getIvHex := by
  intro hmem
  have hdigit : isHexDigit colon = true := Hex.value_of_mem_encode hmem
  revert hdigit
  decide

theorem bytesToHexImpl_ne_nil {bytes : Bytes} (h : bytes ≠ []) : bytesToHexImpl bytes ≠ [] := by
  intro hnil
  have hlength := Hex.length_encode bytes
  rw [bytesToHexImpl] at hnil
  rw [hnil, List.length_nil] at hlength
  exact h (List.length_eq_zero_iff.mp (by omega))

theorem getIvHex_ne_nil (crypto : Crypto) : crypto.getIvHex ≠ [] := by
  apply bytesToHexImpl_ne_nil
  intro hnil
  have hlength := crypto.iv.property
  rw [hnil] at hlength
  cases hlength

/-- A sealed text is not empty exactly if encryption succeeded. -/
theorem sealPassword_eq {aes : AesCbc} {crypto : Crypto} {plain : Bytes}
    (h : sealPassword aes crypto plain ≠ []) :
    crypto.encrypt aes plain ≠ [] ∧ sealPassword aes crypto plain =
      kPasswordPrefix ++ (crypto.getIvHex ++ colon :: bytesToHexImpl (crypto.encrypt aes plain)) := by
  unfold sealPassword at h ⊢
  dsimp only at h ⊢
  split at h
  · exact absurd rfl h
  · rename_i hboth
    exact ⟨(not_or.mp hboth).2, if_neg hboth⟩

theorem prefix_sealPassword {aes : AesCbc} {crypto : Crypto} {plain : Bytes}
    (h : sealPassword aes crypto plain ≠ []) : kPasswordPrefix <+: sealPassword aes crypto plain := by
  rw [(sealPassword_eq h).2]
  exact List.prefix_append _ _

/-- The parts of a sealed text. -/
theorem splitStored_sealPassword {aes : AesCbc} {crypto : Crypto} {plain : Bytes}
    (h : sealPassword aes crypto plain ≠ []) :
    splitStored (sealPassword aes crypto plain) =
      some (crypto.getIvHex, bytesToHexImpl (crypto.encrypt aes plain)) := by
  obtain ⟨hcipher, heq⟩ := sealPassword_eq h
  have hboth : ¬ (crypto.getIvHex = [] ∨ bytesToHexImpl (crypto.encrypt aes plain) = []) :=
    not_or.mpr ⟨getIvHex_ne_nil crypto, bytesToHexImpl_ne_nil hcipher⟩
  rw [splitStored, heq, List.drop_left, splitAtFirst_append (colon_not_mem_getIvHex crypto)]
  dsimp only
  rw [if_neg hboth]

/-- A sealed text opens under its key, whatever IV the opening object had drawn. -/
theorem unseal_seal {aes : AesCbc} (haes : aes.Inverts) {crypto crypto' : Crypto}
    (hkey : crypto'.key = crypto.key) (plain : Bytes) (h : crypto.encrypt aes plain ≠ []) :
    unsealPassword aes crypto' crypto.getIvHex (bytesToHexImpl (crypto.encrypt aes plain)) =
      plain := by
  have hobject : ({ crypto' with iv := crypto.iv } : Crypto) = crypto := by
    rw [hkey]
  have hbytes : Crypto.hexToBytes (bytesToHexImpl (crypto.encrypt aes plain)) =
      crypto.encrypt aes plain := by
    rw [Crypto.hexToBytes, hexToBytesVector_bytesToHexImpl]
  rw [unsealPassword, Crypto.setIvHex_getIvHex]
  dsimp only
  rw [if_neg (by simp), hbytes, if_neg h, hobject]
  exact Crypto.decrypt_encrypt haes crypto plain h

-- ============================================================================
-- One block under two keys
-- ============================================================================

/-- The bytes `first`, `first + 1`, .. of a key or an IV. -/
def countFrom (first n : Nat) : Bytes := (List.range' first n).map UInt8.ofNat

/-- Two objects with different keys and one IV. -/
def exampleCrypto : Crypto := ⟨⟨countFrom 0 32, by decide⟩, ⟨countFrom 100 16, by decide⟩⟩
def otherCrypto : Crypto := ⟨⟨countFrom 200 32, by decide⟩, ⟨countFrom 100 16, by decide⟩⟩

def exampleCipher : Bytes :=
  [100, 255, 135, 143, 203, 216, 202, 133, 40, 244, 181, 205, 96, 42, 7, 22]

/-- The block that AES-256-CBC encrypts to `exampleCipher`: under the first key the
    padded "secret", under the second one without valid padding. -/
def examplePlain (key : Key) (iv : Iv) : Bytes :=
  if key = exampleCrypto.key ∧ iv = exampleCrypto.iv then addPadding (utf8 "secret")
  else if key = otherCrypto.key ∧ iv = otherCrypto.iv then
    [73, 208, 47, 16, 182, 172, 177, 131, 148, 216, 196, 91, 212, 222, 94, 135]
  else exampleCipher

theorem length_examplePlain (key : Key) (iv : Iv) : (examplePlain key iv).length = 16 := by
  unfold examplePlain
  split
  · decide
  · split
    · rfl
    · rfl

/-- The exchange of two blocks. -/
def exchange (a b data : Bytes) : Bytes := if data = a then b else if data = b then a else data

theorem exchange_exchange (a b data : Bytes) : exchange a b (exchange a b data) = data := by
  unfold exchange
  split
  · split
    · simp_all
    · simp_all
  · split
    · simp_all
    · simp_all

theorem length_exchange {a b : Bytes} (h : a.length = b.length) (data : Bytes) :
    (exchange a b data).length = data.length := by
  unfold exchange
  split
  · rename_i ha
    rw [ha, h]
  · split
    · rename_i hb
      rw [hb, h]
    · rfl

/-- A cipher that does what AES-256-CBC does on these blocks, and leaves all else alone. -/
def exampleAes : AesCbc where
  encrypt key iv plain := some (exchange (examplePlain key iv) exampleCipher plain)
  decrypt key iv cipher := some (exchange (examplePlain key iv) exampleCipher cipher)
  length_encrypt h := by
    cases h
    exact length_exchange (length_examplePlain _ _) _

theorem exampleAes_inverts : exampleAes.Inverts := by
  intro key iv plain cipher h
  cases h
  exact congrArg some (exchange_exchange _ _ plain)

theorem sealPassword_secret : sealPassword exampleAes exampleCrypto (utf8 "secret") ≠ [] := by
  decide

-- ============================================================================
-- The calls
-- ============================================================================

/-- A call leaves an existing key file as it is. -/
theorem StorageCall.fileAfter_some (aes : AesCbc) (content : Bytes) (call : StorageCall) :
    call.fileAfter aes (some content) = some content := by
  cases call with
  | encryptPassword io draws plain =>
      have hfile := createStorageCrypto_some io draws content
      simp only [fileAfter, encryptPasswordForStorage]
      split <;> (rename_i hcrypto; rw [hcrypto] at hfile; exact hfile)
  | decryptPassword io draws stored =>
      have hfile := createStorageCrypto_some io draws content
      simp only [fileAfter, decryptPasswordFromStorage]
      split
      · rfl
      · split
        · rfl
        · split <;> (rename_i hcrypto; rw [hcrypto] at hfile; exact hfile)

theorem fileAfterCalls_some (aes : AesCbc) (content : Bytes) (calls : List StorageCall) :
    fileAfterCalls aes calls (some content) = some content := by
  induction calls with
  | nil => rfl
  | cons call calls ih =>
      rw [fileAfterCalls, List.foldl_cons, StorageCall.fileAfter_some]
      exact ih

/-- A text without the prefix is returned as it is, and no key is touched. -/
theorem decryptPasswordFromStorage_of_not_prefix (aes : AesCbc) (io : KeyIo) (draws : Draws)
    (file : Option Bytes) {stored : Bytes} (h : ¬ kPasswordPrefix <+: stored) :
    decryptPasswordFromStorage aes io draws file stored = (.ok stored, file) := by
  rw [decryptPasswordFromStorage, if_pos h]

/-- What was sealed under the key of the file is decrypted. -/
theorem decryptPasswordFromStorage_seal {aes : AesCbc} (haes : aes.Inverts) {content : Bytes}
    {crypto : Crypto} (hkey : keyOfFile content = some crypto.key) {plain : Bytes}
    (h : sealPassword aes crypto plain ≠ []) (own : Crypto) (fresh : Draw) (written : Option Nat) :
    decryptPasswordFromStorage aes ⟨true, written⟩ ⟨.ok own, fresh⟩ (some content)
        (sealPassword aes crypto plain) = (.ok plain, some content) := by
  have hkeys : ({ own with key := crypto.key } : Crypto).key = crypto.key := rfl
  rw [decryptPasswordFromStorage, if_neg (not_not_intro (prefix_sealPassword h)),
    splitStored_sealPassword h]
  dsimp only
  rw [createStorageCrypto_of_keyOfFile hkey]
  dsimp only
  rw [unseal_seal haes hkeys plain (sealPassword_eq h).1]

/-- A text that encryption returned was sealed under the key that the file has then. -/
theorem seal_of_encryptPasswordForStorage {aes : AesCbc} {draws : Draws}
    {file file' : Option Bytes} {plain stored : Bytes}
    (h : encryptPasswordForStorage aes .reliable draws file plain = (.ok stored, file'))
    (hne : stored ≠ []) :
    ∃ crypto content, stored = sealPassword aes crypto plain ∧ file' = some content ∧
      keyOfFile content = some crypto.key := by
  unfold encryptPasswordForStorage at h
  split at h
  · cases h
  · cases h
    exact absurd rfl hne
  · rename_i crypto _ hcrypto
    obtain ⟨content, hfile, hkey⟩ := keyOfFile_of_createStorageCrypto hcrypto
    obtain ⟨hstored, rfl⟩ := Prod.mk.inj h
    exact ⟨crypto, content, (Except.ok.inj hstored).symm, hfile, hkey⟩

/-- With a key file that is written and read back unchanged, every text that
    `EncryptPasswordForStorage` returns is decrypted by every later call, whatever calls
    come in between and whatever they draw; a text without the prefix stays as it is. -/
theorem decryptPasswordFromStorage_encrypt (aes : AesCbc) (haes : aes.Inverts) :
    (∀ draws file plain stored file',
      encryptPasswordForStorage aes .reliable draws file plain = (.ok stored, file') →
      stored ≠ [] → ∀ calls own fresh,
        (decryptPasswordFromStorage aes .reliable ⟨.ok own, fresh⟩
          (fileAfterCalls aes calls file') stored).1 = .ok plain) ∧
    (∀ io draws file stored, ¬ kPasswordPrefix <+: stored →
      decryptPasswordFromStorage aes io draws file stored = (.ok stored, file)) := by
  constructor
  · intro draws file plain stored file' hencrypt hne calls own fresh
    obtain ⟨crypto, content, rfl, rfl, hkey⟩ := seal_of_encryptPasswordForStorage hencrypt hne
    rw [fileAfterCalls_some, KeyIo.reliable, decryptPasswordFromStorage_seal haes hkey hne]
  · intro io draws file stored h
    exact decryptPasswordFromStorage_of_not_prefix aes io draws file h

theorem decryptPasswordFromStorage_encrypt_secret :
    exampleAes.Inverts ∧ ∃ stored, stored ≠ [] ∧
      encryptPasswordForStorage exampleAes .reliable ⟨.ok exampleCrypto, .ok exampleCrypto⟩ none
        (utf8 "secret") = (.ok stored, some (keyFileContent exampleCrypto.getKeyHex)) ∧
      (decryptPasswordFromStorage exampleAes .reliable ⟨.ok exampleCrypto, .error []⟩
        (some (keyFileContent exampleCrypto.getKeyHex)) stored).1 = .ok (utf8 "secret") := by
  have hencrypt : encryptPasswordForStorage exampleAes .reliable
      ⟨.ok exampleCrypto, .ok exampleCrypto⟩ none (utf8 "secret") =
      (.ok (sealPassword exampleAes exampleCrypto (utf8 "secret")),
        some (keyFileContent exampleCrypto.getKeyHex)) := by rfl
  exact ⟨exampleAes_inverts, _, sealPassword_secret, hencrypt,
    (decryptPasswordFromStorage_encrypt exampleAes exampleAes_inverts).1 _ _ _ _ _ hencrypt
      sealPassword_secret [] exampleCrypto (.error [])⟩

end Smile2Unlock.Storage
