/-
  Smile2Unlock.Storage.KeyFile

  The key file of the password store (modules/database.cppm): reading it, creating
  it when it is absent, and the `Crypto` object that uses its key.

  A file is its content, or nothing when it does not exist.  What the file system
  does is an argument: whether an open succeeds and how much of a write arrives.
-/

import Mathlib.Data.List.DropRight
import Smile2Unlock.Common.Crypto
import Smile2Unlock.Lib.Split

namespace Smile2Unlock.Storage

open Smile2Unlock Lib

-- ============================================================================
-- Reading
-- ============================================================================

/-- `TrimWhitespace`. -/
def trimWhitespace (value : Bytes) : Bytes := (value.dropWhile isSpace).rdropWhile isSpace

/-- `std::getline`: the line and what is left of the stream. -/
def getline (stream : Bytes) : Bytes × Bytes :=
  match splitAtFirst newline stream with
  | some (line, rest) => (line, rest)
  | none => (stream, [])

/-- `kKeyFileHeader`. -/
def kKeyFileHeader : Bytes := utf8 "SMILE2UNLOCK_KEY_V1"

/-- The key text of a key file, empty when the file is not one. -/
def readKeyHex (content : Bytes) : Bytes :=
  let (header, rest) := getline content
  let (keyHex, _) := getline rest
  if trimWhitespace header ≠ kKeyFileHeader ∨ trimWhitespace keyHex = [] then []
  else trimWhitespace keyHex

/-- The content that a new key file gets. -/
def keyFileContent (keyHex : Bytes) : Bytes :=
  kKeyFileHeader ++ newline :: (keyHex ++ [newline])

/-- The key that a key file holds. -/
def keyOfFile (content : Bytes) : Option Key := (hexToBytes (readKeyHex content) kAesKeySize).toOption

-- ============================================================================
-- Loading and creating
-- ============================================================================

/-- What the file system does with the key file: the open succeeds or not, and so many
    bytes of a write arrive (`none`: all of them). -/
structure KeyIo where
  opened : Bool
  written : Option Nat

/-- The file is written and read back unchanged. -/
def KeyIo.reliable : KeyIo := ⟨true, none⟩

/-- What arrives of a write. -/
def KeyIo.arrives (io : KeyIo) (content : Bytes) : Bytes :=
  match io.written with
  | none => content
  | some n => content.take n

/-- The random draw of a `Crypto` constructor, or its exception. -/
abbrev Draw := Except Bytes Crypto

/-- The draws of a call: of its own object, and of the object whose key is saved if the
    key file has to be created. -/
structure Draws where
  own : Draw
  fresh : Draw

/-- `LoadOrCreateStorageKeyHex`: the key text or an exception, and the file after it. -/
def loadOrCreateStorageKeyHex (io : KeyIo) (fresh : Draw) (file : Option Bytes) :
    Except Bytes Bytes × Option Bytes :=
  match file with
  | some content => (.ok (if io.opened then readKeyHex content else []), some content)
  | none =>
      match fresh with
      | .error message => (.error message, none)
      | .ok crypto =>
          -- a failed write goes unnoticed
          if io.opened then
            (.ok crypto.getKeyHex, some (io.arrives (keyFileContent crypto.getKeyHex)))
          else (.ok [], none)

/-- The object with the key, unless the text is empty or `setKeyHex` refuses it. -/
def withKeyHex (crypto : Crypto) (keyHex : Bytes) : Option Crypto :=
  if keyHex = [] ∨ (crypto.setKeyHex keyHex).2 = false then none
  else some (crypto.setKeyHex keyHex).1

/-- `CreateStorageCrypto`; the IV text is that of the object. -/
def createStorageCrypto (io : KeyIo) (draws : Draws) (file : Option Bytes) :
    Except Bytes (Option Crypto) × Option Bytes :=
  match draws.own with
  | .error message => (.error message, file)
  | .ok crypto =>
      match loadOrCreateStorageKeyHex io draws.fresh file with
      | (.error message, file') => (.error message, file')
      | (.ok keyHex, file') => (.ok (withKeyHex crypto keyHex), file')

-- ============================================================================
-- What a key file says
-- ============================================================================

theorem trimWhitespace_append {before value after : Bytes} (hbefore : ∀ c ∈ before, isSpace c)
    (hvalue : ∀ c ∈ value, isSpace c = false) (hafter : ∀ c ∈ after, isSpace c) :
    trimWhitespace (before ++ (value ++ after)) = value := by
  have hdrop : ∀ {text : Bytes}, (∀ c ∈ text, isSpace c = false) → text.dropWhile isSpace = text := by
    intro text htext
    rw [List.dropWhile_eq_self_iff]
    intro hpos
    simp [htext _ (List.getElem_mem hpos)]
  rw [trimWhitespace, List.dropWhile_append_of_pos hbefore]
  cases value with
  | nil =>
      rw [List.nil_append, List.dropWhile_eq_nil_iff.mpr hafter]
      rfl
  | cons c value =>
      have hc : ¬ isSpace c = true := by simp [hvalue c List.mem_cons_self]
      rw [List.cons_append, List.dropWhile_cons_of_neg hc, ← List.cons_append, List.rdropWhile,
        List.reverse_append,
        List.dropWhile_append_of_pos fun d hd => hafter d (List.mem_reverse.mp hd),
        hdrop fun d hd => hvalue d (List.mem_reverse.mp hd), List.reverse_reverse]

theorem getline_append {line : Bytes} (h : newline ∉ line) (rest : Bytes) :
    getline (line ++ newline :: rest) = (line, rest) := by
  rw [getline, splitAtFirst_append h]

theorem kKeyFileHeader_not_space : ∀ c ∈ kKeyFileHeader, isSpace c = false := by
  have hall : kKeyFileHeader.all (fun c => !isSpace c) = true := rfl
  intro c hc
  simpa using List.all_eq_true.mp hall c hc

theorem newline_not_mem_of_not_space {text : Bytes} (h : ∀ c ∈ text, isSpace c = false) :
    newline ∉ text := by
  intro hmem
  have hspace := h newline hmem
  revert hspace
  decide

/-- The lines of a key file, with whitespace around header and key and anything after
    the second line. -/
theorem readKeyHex_lines {before₁ after₁ before₂ keyHex after₂ rest : Bytes}
    (hbefore₁ : ∀ c ∈ before₁, isSpace c) (hafter₁ : ∀ c ∈ after₁, isSpace c)
    (hbefore₂ : ∀ c ∈ before₂, isSpace c) (hafter₂ : ∀ c ∈ after₂, isSpace c)
    (hline₁ : newline ∉ before₁ ++ after₁) (hline₂ : newline ∉ before₂ ++ after₂)
    (hkey : ∀ c ∈ keyHex, isSpace c = false) (hne : keyHex ≠ []) :
    readKeyHex ((before₁ ++ (kKeyFileHeader ++ after₁)) ++ newline ::
      ((before₂ ++ (keyHex ++ after₂)) ++ newline :: rest)) = keyHex := by
  have hheader := newline_not_mem_of_not_space kKeyFileHeader_not_space
  have hkeyLine := newline_not_mem_of_not_space hkey
  have hfirst : newline ∉ before₁ ++ (kKeyFileHeader ++ after₁) := by
    simp only [List.mem_append, not_or] at hline₁ ⊢
    exact ⟨hline₁.1, hheader, hline₁.2⟩
  have hsecond : newline ∉ before₂ ++ (keyHex ++ after₂) := by
    simp only [List.mem_append, not_or] at hline₂ ⊢
    exact ⟨hline₂.1, hkeyLine, hline₂.2⟩
  rw [readKeyHex, getline_append hfirst]
  dsimp only
  rw [getline_append hsecond]
  dsimp only
  rw [trimWhitespace_append hbefore₁ kKeyFileHeader_not_space hafter₁,
    trimWhitespace_append hbefore₂ hkey hafter₂, if_neg (by simp [hne])]

/-- A hexadecimal digit is no whitespace. -/
theorem not_space_of_hexDigit {c : UInt8} (h : isHexDigit c = true) : isSpace c = false := by
  obtain ⟨n, hn⟩ := Option.isSome_iff_exists.mp h
  obtain ⟨-, hrange⟩ := Hex.range_of_value hn
  have h32 : c ≠ 32 := by
    rintro rfl
    simp at hrange
  have h13 : ¬ c ≤ 13 := by
    simp only [UInt8.le_iff_toNat_le, UInt8.reduceToNat]
    omega
  simp [isSpace, h32, h13]

theorem isHexDigit_of_mem_getKeyHex {crypto : Crypto} {c : UInt8} (hc : c ∈ crypto.getKeyHex) :
    isHexDigit c = true := Hex.value_of_mem_encode hc

theorem getKeyHex_ne_nil (crypto : Crypto) : crypto.getKeyHex ≠ [] := by
  intro hnil
  have hlength := congrArg List.length hnil
  rw [Crypto.getKeyHex, bytesToHexImpl, Hex.length_encode, crypto.key.property] at hlength
  exact absurd hlength (by decide)

/-- A new key file reads as its key. -/
theorem readKeyHex_keyFileContent (crypto : Crypto) :
    readKeyHex (keyFileContent crypto.getKeyHex) = crypto.getKeyHex := by
  have hread := @readKeyHex_lines [] [] [] crypto.getKeyHex [] [] (by simp) (by simp) (by simp)
    (by simp) (by simp) (by simp)
    (fun c hc => not_space_of_hexDigit (isHexDigit_of_mem_getKeyHex hc)) (getKeyHex_ne_nil crypto)
  simpa [keyFileContent] using hread

theorem keyOfFile_keyFileContent (crypto : Crypto) :
    keyOfFile (keyFileContent crypto.getKeyHex) = some crypto.key := by
  rw [keyOfFile, readKeyHex_keyFileContent, Crypto.getKeyHex, hexToBytes_bytesToHexImpl]
  rfl

/-- Header and 64 hexadecimal digits of either case, with whitespace around each on its
    line, hold a key. -/
theorem keyOfFile_lines {before₁ after₁ before₂ keyHex after₂ rest : Bytes}
    (hbefore₁ : ∀ c ∈ before₁, isSpace c) (hafter₁ : ∀ c ∈ after₁, isSpace c)
    (hbefore₂ : ∀ c ∈ before₂, isSpace c) (hafter₂ : ∀ c ∈ after₂, isSpace c)
    (hline₁ : newline ∉ before₁ ++ after₁) (hline₂ : newline ∉ before₂ ++ after₂)
    (hkey : ∀ c ∈ keyHex, isHexDigit c) (hlength : keyHex.length = 2 * kAesKeySize) :
    ∃ key, keyOfFile ((before₁ ++ (kKeyFileHeader ++ after₁)) ++ newline ::
      ((before₂ ++ (keyHex ++ after₂)) ++ newline :: rest)) = some key := by
  have hne : keyHex ≠ [] := by
    intro hnil
    rw [hnil, kAesKeySize] at hlength
    cases hlength
  have hread := @readKeyHex_lines _ _ _ _ _ rest hbefore₁ hafter₁ hbefore₂ hafter₂ hline₁ hline₂
    (fun c hc => not_space_of_hexDigit (hkey c hc)) hne
  obtain ⟨key, hdecode⟩ := Hex.exists_decode (by omega) hkey
  refine ⟨⟨key, ?_⟩, ?_⟩
  · have := Hex.length_of_decode hdecode
    omega
  · rw [keyOfFile, hread, hexToBytes, dif_neg (by omega)]
    split
    · rename_i bytes hbytes
      rw [hdecode] at hbytes
      cases hbytes
      rfl
    · rename_i hnone
      rw [hdecode] at hnone
      cases hnone

-- ============================================================================
-- What loading does
-- ============================================================================

/-- An existing key file stays as it is. -/
theorem createStorageCrypto_some (io : KeyIo) (draws : Draws) (content : Bytes) :
    (createStorageCrypto io draws (some content)).2 = some content := by
  unfold createStorageCrypto
  split <;> rfl

theorem withKeyHex_eq_some_iff {crypto crypto' : Crypto} {keyHex : Bytes} :
    withKeyHex crypto keyHex = some crypto' ↔
      (hexToBytes keyHex kAesKeySize).toOption = some crypto'.key ∧ crypto'.iv = crypto.iv := by
  rw [withKeyHex, Crypto.setKeyHex]
  cases hhex : hexToBytes keyHex kAesKeySize with
  | error message => simp [Except.toOption]
  | ok key =>
      have hne : keyHex ≠ [] := by
        rintro rfl
        cases hhex
      obtain ⟨key', iv'⟩ := crypto'
      simp [hne, Except.toOption, eq_comm]

/-- A file that holds a key gives it to the object, which keeps its own IV. -/
theorem createStorageCrypto_of_keyOfFile {content : Bytes} {key : Key}
    (hkey : keyOfFile content = some key) (own : Crypto) (fresh : Draw) (written : Option Nat) :
    createStorageCrypto ⟨true, written⟩ ⟨.ok own, fresh⟩ (some content) =
      (.ok (some { own with key := key }), some content) := by
  have hset : withKeyHex own (readKeyHex content) = some { own with key := key } :=
    withKeyHex_eq_some_iff.mpr ⟨hkey, rfl⟩
  rw [createStorageCrypto, loadOrCreateStorageKeyHex]
  dsimp only
  rw [if_pos rfl, hset]

/-- The object that a call gets has its own IV and the key of the file after the call,
    if a new file is written in full. -/
theorem keyOfFile_of_createStorageCrypto {draws : Draws} {file file' : Option Bytes}
    {crypto : Crypto}
    (h : createStorageCrypto .reliable draws file = (.ok (some crypto), file')) :
    ∃ content, file' = some content ∧ keyOfFile content = some crypto.key := by
  unfold createStorageCrypto at h
  split at h
  · cases h
  · split at h
    · cases h
    · rename_i own _ _ _ keyHex file'' hload
      obtain ⟨hobject, rfl⟩ := Prod.mk.inj h
      obtain ⟨hkey, -⟩ := withKeyHex_eq_some_iff.mp (Except.ok.inj hobject)
      cases file with
      | some content =>
          cases hload
          exact ⟨content, rfl, hkey⟩
      | none =>
          cases hfresh : draws.fresh with
          | error message =>
              rw [hfresh] at hload
              cases hload
          | ok fresh =>
              rw [hfresh] at hload
              cases hload
              -- the text of the fresh key is the key that the new file holds
              refine ⟨_, rfl, ?_⟩
              rw [Crypto.getKeyHex, hexToBytes_bytesToHexImpl] at hkey
              rw [← hkey]
              exact keyOfFile_keyFileContent fresh

end Smile2Unlock.Storage
