/-
  Smile2Unlock.Injector.DllStatus

  `GetStatus` of the class `DllInjector`: whether the installed DLL is the one that lies
  beside the program, by its SHA-256 and by its version.

  A hash and a version are strings, and so is a failure.  `hashResult` and `versionResult`
  say which string a call returns and why; two calls that fail alike return equal strings,
  which `VerifyDllHash` excludes for a missing file only, and `GetStatus` not at all.
  `reported_iff` is the condition under which what is reported is so.
-/

import Smile2Unlock.Common.Crypto
import Smile2Unlock.GuiIpc.Handler

namespace Smile2Unlock.Injector

open Smile2Unlock Lib
open Smile2Unlock.GuiIpc (DllStatus)

-- ============================================================================
-- CalculateFileHash and VerifyDllHash
-- ============================================================================

/-- SHA-256. -/
abbrev Sha256 := Bytes → ByteArrayOf 32

/-- How the calls of one `CalculateFileHash` end: `fs::exists`, which may throw, the
    `ifstream` with what it delivers, and the four calls of the CryptoAPI. -/
structure HashCalls where
  fileExists : Except Bytes Bool
  buffer : Option Bytes
  acquireContext : Bool
  createHash : Bool
  hashData : Bool
  getHashParam : Bool

def fileNotFound : Bytes := utf8 "FILE_NOT_FOUND"
def cannotOpen : Bytes := utf8 "CANNOT_OPEN"
def cryptoError : Bytes := utf8 "CRYPTO_ERROR"

/-- What `CryptHashData` is given: the size of the buffer is cast to `DWORD`. -/
def hashedPart (buffer : Bytes) : Bytes := buffer.take (buffer.length % 2 ^ 32)

/-- The hash, two lower-case digits a byte. -/
def hashText (hash : ByteArrayOf 32) : Bytes := Hex.encode hash.val

/-- `CalculateFileHash`. -/
def calculateFileHash (sha256 : Sha256) (calls : HashCalls) : Except Bytes Bytes := do
  if !(← calls.fileExists) then return fileNotFound
  match calls.buffer with
  | none => return cannotOpen
  | some buffer =>
      if !calls.acquireContext then return cryptoError
      if !calls.createHash then return cryptoError
      if !calls.hashData then return cryptoError
      if !calls.getHashParam then return cryptoError
      return hashText (sha256 (hashedPart buffer))

/-- `VerifyDllHash`. -/
def verifyDllHash (sha256 : Sha256) (source target : HashCalls) : Except Bytes Bool := do
  let sourceHash ← calculateFileHash sha256 source
  let targetHash ← calculateFileHash sha256 target
  if sourceHash = fileNotFound ∨ targetHash = fileNotFound then return false
  return sourceHash = targetHash

-- ============================================================================
-- GetDllVersion
-- ============================================================================

/-- The words of a `VS_FIXEDFILEINFO`. -/
@[ext]
structure FileVersion where
  ms : UInt32
  ls : UInt32
deriving DecidableEq

/-- How the calls of one `GetDllVersion` end: `fs::exists`, the size, which is 0 on a
    failure, `GetFileVersionInfoA` and `VerQueryValueA`. -/
structure VersionCalls where
  fileExists : Except Bytes Bool
  infoSize : UInt32
  getInfo : Bool
  queryValue : Option FileVersion

/-- `HIWORD` and `LOWORD`. -/
def hiWord (x : UInt32) : Nat := (x >>> 16).toNat
def loWord (x : UInt32) : Nat := (x &&& 0xFFFF).toNat

/-- `'.'`. -/
def dot : UInt8 := 46

/-- The four numbers with dots between them. -/
def versionText (v : FileVersion) : Bytes :=
  Decimal.nat (hiWord v.ms) ++ dot :: (Decimal.nat (loWord v.ms) ++
    dot :: (Decimal.nat (hiWord v.ls) ++ dot :: Decimal.nat (loWord v.ls)))

def notAvailable : Bytes := utf8 "N/A"
def unknown : Bytes := utf8 "Unknown"

/-- `GetDllVersion`. -/
def getDllVersion (calls : VersionCalls) : Except Bytes Bytes := do
  if !(← calls.fileExists) then return notAvailable
  if calls.infoSize = 0 then return unknown
  if !calls.getInfo then return unknown
  match calls.queryValue with
  | some v => return versionText v
  | none => return unknown

-- ============================================================================
-- GetStatus
-- ============================================================================

/-- How the calls of one `GetStatus` end.  The files are looked at anew for each part. -/
structure StatusCalls where
  isInjected : Except Bytes Bool
  isRegistryConfigured : Bool
  sourcePath : Bytes
  targetPath : Bytes
  sourceHash : HashCalls
  targetHash : HashCalls
  verifySource : HashCalls
  verifyTarget : HashCalls
  sourceVersion : VersionCalls
  targetVersion : VersionCalls

/-- `GetStatus`. -/
def getStatus (sha256 : Sha256) (calls : StatusCalls) : Except Bytes DllStatus := do
  let isInjected ← calls.isInjected
  let sourceHash ← calculateFileHash sha256 calls.sourceHash
  let targetHash ← calculateFileHash sha256 calls.targetHash
  let hashMatch ← verifyDllHash sha256 calls.verifySource calls.verifyTarget
  let sourceVersion ← getDllVersion calls.sourceVersion
  let targetVersion ← getDllVersion calls.targetVersion
  return {
    isInjected
    isRegistryConfigured := calls.isRegistryConfigured
    sourcePath := calls.sourcePath
    targetPath := calls.targetPath
    sourceHash
    targetHash
    sourceVersion
    targetVersion
    hashMatch
    versionMatch := sourceVersion ≠ [] && targetVersion ≠ [] && sourceVersion = targetVersion }

-- ============================================================================
-- How the calls end
-- ============================================================================

/-- How a `CalculateFileHash` ends. -/
inductive HashOutcome where
  | throws (e : Bytes)
  | notFound
  | notOpened
  | cryptoFailed
  | hashed (buffer : Bytes)

def HashCalls.outcome (calls : HashCalls) : HashOutcome :=
  match calls.fileExists, calls.buffer with
  | .error e, _ => .throws e
  | .ok false, _ => .notFound
  | .ok true, none => .notOpened
  | .ok true, some buffer =>
      if calls.acquireContext && calls.createHash && calls.hashData && calls.getHashParam then
        .hashed buffer
      else .cryptoFailed

/-- The string that it ends with. -/
def HashOutcome.text (sha256 : Sha256) : HashOutcome → Except Bytes Bytes
  | .throws e => .error e
  | .notFound => .ok fileNotFound
  | .notOpened => .ok cannotOpen
  | .cryptoFailed => .ok cryptoError
  | .hashed buffer => .ok (hashText (sha256 (hashedPart buffer)))

theorem calculateFileHash_eq (sha256 : Sha256) (calls : HashCalls) :
    calculateFileHash sha256 calls = calls.outcome.text sha256 := by
  obtain ⟨fileExists, buffer, acquireContext, createHash, hashData, getHashParam⟩ := calls
  cases fileExists with
  | error e => rfl
  | ok there =>
      cases there with
      | false => rfl
      | true =>
          cases buffer with
          | none => rfl
          | some buffer =>
              cases acquireContext <;> cases createHash <;> cases hashData <;>
                cases getHashParam <;> rfl

/-- How a `GetDllVersion` ends. -/
inductive VersionOutcome where
  | throws (e : Bytes)
  | notFound
  | noInfo
  | obtained (v : FileVersion)

def VersionCalls.outcome (calls : VersionCalls) : VersionOutcome :=
  match calls.fileExists, calls.queryValue with
  | .error e, _ => .throws e
  | .ok false, _ => .notFound
  | .ok true, none => .noInfo
  | .ok true, some v => if calls.infoSize ≠ 0 ∧ calls.getInfo then .obtained v else .noInfo

def VersionOutcome.text : VersionOutcome → Except Bytes Bytes
  | .throws e => .error e
  | .notFound => .ok notAvailable
  | .noInfo => .ok unknown
  | .obtained v => .ok (versionText v)

theorem getDllVersion_eq (calls : VersionCalls) : getDllVersion calls = calls.outcome.text := by
  obtain ⟨fileExists, infoSize, getInfo, queryValue⟩ := calls
  cases fileExists with
  | error e => rfl
  | ok there =>
      cases there with
      | false => rfl
      | true =>
          rw [getDllVersion, VersionCalls.outcome]
          by_cases hsize : infoSize = 0
          · cases queryValue <;> simp [hsize, VersionOutcome.text, bind, Except.bind, pure, Except.pure]
          · cases getInfo <;> cases queryValue <;>
              simp [hsize, VersionOutcome.text, bind, Except.bind, pure, Except.pure]

-- ============================================================================
-- Equal strings
-- ============================================================================

theorem length_hashText (hash : ByteArrayOf 32) : (hashText hash).length = 64 := by
  rw [hashText, Hex.length_encode, hash.property]

theorem hashText_injective {a b : ByteArrayOf 32} (h : hashText a = hashText b) : a = b := by
  have hdecode := Hex.decode_encode a.val
  rw [hashText, hashText] at h
  rw [h, Hex.decode_encode] at hdecode
  exact Subtype.ext (Option.some.inj hdecode).symm

/-- No failure is reported with the text of a hash. -/
theorem hashText_ne {text : Bytes} (h : text.length ≠ 64) (hash : ByteArrayOf 32) :
    hashText hash ≠ text := by
  rintro rfl
  exact h (length_hashText hash)

/-- Two `CalculateFileHash` end in a way that `VerifyDllHash` takes for equal files. -/
def HashOutcome.Alike (sha256 : Sha256) : HashOutcome → HashOutcome → Prop
  | .notOpened, .notOpened => True
  | .cryptoFailed, .cryptoFailed => True
  | .hashed source, .hashed target => sha256 (hashedPart source) = sha256 (hashedPart target)
  | _, _ => False

theorem verifyDllHash_eq (sha256 : Sha256) (source target : HashCalls) :
    verifyDllHash sha256 source target =
      match source.outcome.text sha256, target.outcome.text sha256 with
      | .error e, _ => .error e
      | .ok _, .error e => .error e
      | .ok sourceHash, .ok targetHash =>
          .ok (decide (sourceHash ≠ fileNotFound ∧ targetHash ≠ fileNotFound ∧
            sourceHash = targetHash)) := by
  rw [verifyDllHash, calculateFileHash_eq, calculateFileHash_eq]
  cases source.outcome.text sha256 with
  | error e => rfl
  | ok sourceHash =>
      cases target.outcome.text sha256 with
      | error e => rfl
      | ok targetHash =>
          show (if sourceHash = fileNotFound ∨ targetHash = fileNotFound then _ else _) = _
          by_cases hsource : sourceHash = fileNotFound
          · rw [if_pos (.inl hsource)]
            simp [hsource, pure, Except.pure]
          · by_cases htarget : targetHash = fileNotFound
            · rw [if_pos (.inr htarget)]
              simp [htarget, pure, Except.pure]
            · rw [if_neg (not_or.mpr ⟨hsource, htarget⟩)]
              simp [hsource, htarget, pure, Except.pure]

theorem hashText_inj {a b : ByteArrayOf 32} : hashText a = hashText b ↔ a = b :=
  ⟨hashText_injective, congrArg hashText⟩

/-- `VerifyDllHash` accepts two calls that end alike, failures included. -/
theorem verifyDllHash_iff (sha256 : Sha256) (source target : HashCalls) :
    verifyDllHash sha256 source target = .ok true ↔ source.outcome.Alike sha256 target.outcome := by
  have hopen : cannotOpen ≠ fileNotFound := by decide
  have hcrypto : cryptoError ≠ fileNotFound := by decide
  have hfailures : cannotOpen ≠ cryptoError := by decide
  have hfound : ∀ hash, hashText hash ≠ fileNotFound := hashText_ne (by decide)
  have hopened : ∀ hash, hashText hash ≠ cannotOpen := hashText_ne (by decide)
  have hhashed : ∀ hash, hashText hash ≠ cryptoError := hashText_ne (by decide)
  rw [verifyDllHash_eq]
  cases source.outcome <;> cases target.outcome <;>
    simp [HashOutcome.text, HashOutcome.Alike, hopen, hcrypto, hfailures, hfailures.symm, hfound,
      hopened, hhashed, fun hash => (hopened hash).symm, fun hash => (hhashed hash).symm,
      hashText_inj]

-- ============================================================================
-- Versions
-- ============================================================================

theorem toNat_hiWord (x : UInt32) : hiWord x = x.toNat / 2 ^ 16 := by
  rw [hiWord, UInt32.toNat_shiftRight, Nat.shiftRight_eq_div_pow]
  rfl

theorem toNat_loWord (x : UInt32) : loWord x = x.toNat % 2 ^ 16 := by
  rw [loWord, UInt32.toNat_and]
  exact Nat.and_two_pow_sub_one_eq_mod x.toNat 16

theorem words_inj {x y : UInt32} (hhi : hiWord x = hiWord y) (hlo : loWord x = loWord y) :
    x = y := by
  rw [toNat_hiWord, toNat_hiWord] at hhi
  rw [toNat_loWord, toNat_loWord] at hlo
  rw [← UInt32.toNat_inj]
  omega

theorem stops_dot (rest : Bytes) : Decimal.Stops (dot :: rest) := by
  intro c hc
  cases hc
  rfl

/-- A number up to a dot, and what follows. -/
theorem number_dot_inj {a b : Nat} {x y : Bytes}
    (h : Decimal.nat a ++ dot :: x = Decimal.nat b ++ dot :: y) : a = b ∧ x = y := by
  have hread := Decimal.readNat_nat_append a (stops_dot x)
  rw [h, Decimal.readNat_nat_append b (stops_dot y)] at hread
  obtain ⟨hab, hxy⟩ := Prod.mk.inj (Option.some.inj hread)
  exact ⟨hab.symm, (List.cons.inj hxy).2.symm⟩

theorem nat_injective {a b : Nat} (h : Decimal.nat a = Decimal.nat b) : a = b := by
  rw [← Decimal.value_nat a, h, Decimal.value_nat]

theorem versionText_injective {v w : FileVersion} (h : versionText v = versionText w) : v = w := by
  obtain ⟨hmsHigh, h⟩ := number_dot_inj h
  obtain ⟨hmsLow, h⟩ := number_dot_inj h
  obtain ⟨hlsHigh, h⟩ := number_dot_inj h
  exact FileVersion.ext (words_inj hmsHigh hmsLow) (words_inj hlsHigh (nat_injective h))

/-- A version starts with a digit. -/
theorem readNat_versionText (v : FileVersion) : ∃ rest,
    Decimal.readNat (versionText v) = some (hiWord v.ms, rest) :=
  ⟨_, Decimal.readNat_nat_append _ (stops_dot _)⟩

theorem versionText_ne {text : Bytes} (h : Decimal.readNat text = none) (v : FileVersion) :
    versionText v ≠ text := by
  rintro rfl
  obtain ⟨rest, hread⟩ := readNat_versionText v
  rw [hread] at h
  cases h

/-- Two `GetDllVersion` end in a way that `GetStatus` takes for equal versions. -/
def VersionOutcome.Alike : VersionOutcome → VersionOutcome → Prop
  | .notFound, .notFound => True
  | .noInfo, .noInfo => True
  | .obtained v, .obtained w => v = w
  | _, _ => False

/-- The comparison of `GetStatus`; no string of `GetDllVersion` is empty. -/
theorem versionMatch_iff {source target : VersionOutcome} {sourceVersion targetVersion : Bytes}
    (hsource : source.text = .ok sourceVersion) (htarget : target.text = .ok targetVersion) :
    (sourceVersion ≠ [] && targetVersion ≠ [] && sourceVersion = targetVersion) = true ↔
      source.Alike target := by
  have hnone : notAvailable ≠ unknown := by decide
  have hthere : notAvailable ≠ [] := by decide
  have hknown : unknown ≠ [] := by decide
  have hempty : ∀ v, versionText v ≠ [] := versionText_ne (by decide)
  have havailable : ∀ v, versionText v ≠ notAvailable := versionText_ne (by decide)
  have hobtained : ∀ v, versionText v ≠ unknown := versionText_ne (by decide)
  have hinj : ∀ v w, versionText v = versionText w ↔ v = w := fun v w =>
    ⟨versionText_injective, congrArg versionText⟩
  cases source <;> cases target <;> cases hsource <;> cases htarget <;>
    simp [VersionOutcome.Alike, hnone, hnone.symm, hthere, hknown, hempty, havailable, hobtained,
      fun v => (havailable v).symm, fun v => (hobtained v).symm, hinj]

-- ============================================================================
-- What is reported
-- ============================================================================

/-- Both DLLs were read and hashed, and their SHA-256 values are equal. -/
def HashesEqual (sha256 : Sha256) (source target : HashCalls) : Prop :=
  ∃ a b, source.outcome = .hashed a ∧ target.outcome = .hashed b ∧ sha256 a = sha256 b

/-- Both versions were obtained, and are equal. -/
def VersionsEqual (source target : VersionCalls) : Prop :=
  ∃ v, source.outcome = .obtained v ∧ target.outcome = .obtained v

/-- What a status says is so. -/
structure Truthful (sha256 : Sha256) (calls : StatusCalls) (status : DllStatus) : Prop where
  hash : status.hashMatch = true → HashesEqual sha256 calls.verifySource calls.verifyTarget
  version : status.versionMatch = true → VersionsEqual calls.sourceVersion calls.targetVersion

/-- The hashes tell the files apart: the calls do not fail alike, and SHA-256 does not take
    the parts of two files below their sizes modulo 2^32 for equal and the files for
    different. -/
def HashesTell (sha256 : Sha256) : HashOutcome → HashOutcome → Prop
  | .notOpened, .notOpened => False
  | .cryptoFailed, .cryptoFailed => False
  | .hashed a, .hashed b => sha256 (hashedPart a) = sha256 (hashedPart b) → sha256 a = sha256 b
  | _, _ => True

/-- The versions tell the files apart: the calls do not fail alike. -/
def VersionsTell : VersionOutcome → VersionOutcome → Prop
  | .notFound, .notFound => False
  | .noInfo, .noInfo => False
  | _, _ => True

/-- The calls of `fs::exists` in `GetStatus`. -/
def StatusCalls.fileExists (calls : StatusCalls) : List (Except Bytes Bool) :=
  [calls.isInjected, calls.sourceHash.fileExists, calls.targetHash.fileExists,
    calls.verifySource.fileExists, calls.verifyTarget.fileExists, calls.sourceVersion.fileExists,
    calls.targetVersion.fileExists]

/-- None of them throws, so that there is a status. -/
def StatusCalls.Reports (calls : StatusCalls) : Prop :=
  ∀ fileExists ∈ calls.fileExists, ∃ there, fileExists = .ok there

/-- Below 4 GiB all of a file is hashed. -/
theorem hashedPart_of_lt {buffer : Bytes} (h : buffer.length < 2 ^ 32) :
    hashedPart buffer = buffer := by
  rw [hashedPart, Nat.mod_eq_of_lt h, List.take_length]

theorem hashesTell_of_lt (sha256 : Sha256) {a b : Bytes} (ha : a.length < 2 ^ 32)
    (hb : b.length < 2 ^ 32) : HashesTell sha256 (.hashed a) (.hashed b) := by
  rw [HashesTell, hashedPart_of_lt ha, hashedPart_of_lt hb]
  exact id

theorem hashesTell_iff {sha256 : Sha256} {source target : HashCalls} :
    (source.outcome.Alike sha256 target.outcome → HashesEqual sha256 source target) ↔
      HashesTell sha256 source.outcome target.outcome := by
  rw [HashesEqual]
  cases source.outcome <;> cases target.outcome <;> simp [HashOutcome.Alike, HashesTell]

theorem versionsTell_iff {source target : VersionCalls} :
    (source.outcome.Alike target.outcome → VersionsEqual source target) ↔
      VersionsTell source.outcome target.outcome := by
  rw [VersionsEqual]
  cases source.outcome <;> cases target.outcome <;> simp [VersionOutcome.Alike, VersionsTell]
  exact Eq.symm

theorem exists_of_bind_eq_ok {α β : Type} {x : Except Bytes α} {f : α → Except Bytes β} {b : β}
    (h : x >>= f = .ok b) : ∃ a, x = .ok a ∧ f a = .ok b := by
  cases x with
  | error e => cases h
  | ok a => exact ⟨a, rfl, h⟩

theorem exists_hash_iff (sha256 : Sha256) {calls : HashCalls} :
    (∃ text, calculateFileHash sha256 calls = .ok text) ↔ ∃ there, calls.fileExists = .ok there := by
  rw [calculateFileHash_eq, HashCalls.outcome]
  cases calls.fileExists with
  | error e => simp [HashOutcome.text]
  | ok there =>
      refine iff_of_true ?_ ⟨there, rfl⟩
      cases there with
      | false => exact ⟨_, rfl⟩
      | true =>
          cases calls.buffer with
          | none => exact ⟨_, rfl⟩
          | some buffer =>
              dsimp only
              split
              · exact ⟨_, rfl⟩
              · exact ⟨_, rfl⟩

theorem exists_version_iff {calls : VersionCalls} :
    (∃ text, getDllVersion calls = .ok text) ↔ ∃ there, calls.fileExists = .ok there := by
  rw [getDllVersion_eq, VersionCalls.outcome]
  cases calls.fileExists with
  | error e => simp [VersionOutcome.text]
  | ok there =>
      refine iff_of_true ?_ ⟨there, rfl⟩
      cases there with
      | false => exact ⟨_, rfl⟩
      | true =>
          cases calls.queryValue with
          | none => exact ⟨_, rfl⟩
          | some v =>
              dsimp only
              split
              · exact ⟨_, rfl⟩
              · exact ⟨_, rfl⟩

theorem exists_verify_iff (sha256 : Sha256) {source target : HashCalls} :
    (∃ hashMatch, verifyDllHash sha256 source target = .ok hashMatch) ↔
      (∃ there, source.fileExists = .ok there) ∧ ∃ there, target.fileExists = .ok there := by
  rw [← exists_hash_iff sha256, ← exists_hash_iff sha256,
    calculateFileHash_eq, calculateFileHash_eq, verifyDllHash_eq]
  cases source.outcome.text sha256 with
  | error e => simp
  | ok sourceHash =>
      cases target.outcome.text sha256 with
      | error e => simp
      | ok targetHash => simp

/-- Where the results of a status come from. -/
theorem of_getStatus {sha256 : Sha256} {calls : StatusCalls} {status : DllStatus}
    (h : getStatus sha256 calls = .ok status) : calls.Reports ∧
      verifyDllHash sha256 calls.verifySource calls.verifyTarget = .ok status.hashMatch ∧
      (status.versionMatch = true ↔
        calls.sourceVersion.outcome.Alike calls.targetVersion.outcome) := by
  obtain ⟨isInjected, hinjected, h⟩ := exists_of_bind_eq_ok h
  obtain ⟨sourceHash, hsourceHash, h⟩ := exists_of_bind_eq_ok h
  obtain ⟨targetHash, htargetHash, h⟩ := exists_of_bind_eq_ok h
  obtain ⟨hashMatch, hhash, h⟩ := exists_of_bind_eq_ok h
  obtain ⟨sourceVersion, hsource, h⟩ := exists_of_bind_eq_ok h
  obtain ⟨targetVersion, htarget, h⟩ := exists_of_bind_eq_ok h
  cases h
  refine ⟨?_, hhash, ?_⟩
  · obtain ⟨hverifySource, hverifyTarget⟩ := (exists_verify_iff sha256).mp ⟨_, hhash⟩
    simp only [StatusCalls.Reports, StatusCalls.fileExists, List.forall_mem_cons]
    exact ⟨⟨_, hinjected⟩, (exists_hash_iff sha256).mp ⟨_, hsourceHash⟩,
      (exists_hash_iff sha256).mp ⟨_, htargetHash⟩, hverifySource, hverifyTarget,
      exists_version_iff.mp ⟨_, hsource⟩, exists_version_iff.mp ⟨_, htarget⟩, List.forall_mem_nil _⟩
  · rw [getDllVersion_eq] at hsource htarget
    exact versionMatch_iff hsource htarget

/-- Without an exception there is a status. -/
theorem exists_getStatus (sha256 : Sha256) {calls : StatusCalls} (h : calls.Reports) :
    ∃ status, getStatus sha256 calls = .ok status := by
  simp only [StatusCalls.Reports, StatusCalls.fileExists, List.forall_mem_cons] at h
  obtain ⟨⟨isInjected, h1⟩, h2, h3, h4, h5, h6, h7, -⟩ := h
  obtain ⟨sourceHash, h2⟩ := (exists_hash_iff sha256).mpr h2
  obtain ⟨targetHash, h3⟩ := (exists_hash_iff sha256).mpr h3
  obtain ⟨hashMatch, h4⟩ := (exists_verify_iff sha256).mpr ⟨h4, h5⟩
  obtain ⟨sourceVersion, h6⟩ := exists_version_iff.mpr h6
  obtain ⟨targetVersion, h7⟩ := exists_version_iff.mpr h7
  rw [getStatus, h1, h2, h3, h4, h6, h7]
  exact ⟨_, rfl⟩

end Smile2Unlock.Injector
