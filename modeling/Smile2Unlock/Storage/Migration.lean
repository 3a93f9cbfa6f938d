/-
  Smile2Unlock.Storage.Migration

  The move of database and key file from the install root to the data directory
  (common/utils/app_paths.h), and the stored passwords across it.

  The machine `dataFiles` runs `MigrateLegacyDataFiles`, `EncryptPasswordForStorage`
  and `DecryptPasswordFromStorage` in any order over the four files, with every
  outcome of a rename, copy, remove, open and write; `exists` tells the truth and a
  failed `create_directories` shows as a failed rename, copy or open.
  `holdsKey_iff` says which runs leave the legacy key where the next migration finds
  it, `readable_of_holdsKey` that the passwords can then be read.
-/

import Smile2Unlock.Lib.Machine
import Smile2Unlock.Storage.Password

namespace Smile2Unlock.Storage

open Smile2Unlock Lib Machine

-- ============================================================================
-- The files
-- ============================================================================

/-- `smile2unlock.db` and `smile2unlock.key` in the install root and in the data
    directory; `none` is a file that does not exist. -/
structure DataFiles where
  legacyDb : Option Bytes
  dataDb : Option Bytes
  legacyKey : Option Bytes
  dataKey : Option Bytes

/-- The outcome of `copy_file`: the whole file, or an error with so many bytes at the
    destination, or with no destination. -/
inductive CopyOutcome where
  | copied
  | failed (left : Option Nat)

/-- What the file system does with the calls of `MoveFileIfExists`. -/
structure MoveIo where
  renamed : Bool
  copy : CopyOutcome
  removed : Bool

/-- No call fails. -/
def MoveIo.reliable : MoveIo := ⟨true, .copied, true⟩

/-- `MoveFileIfExists`: source and destination after it. -/
def moveFileIfExists (io : MoveIo) (source destination : Option Bytes) :
    Option Bytes × Option Bytes :=
  match source, destination with
  | none, _ => (source, destination)
  | some _, some _ => (source, destination)
  | some content, none =>
      if io.renamed then (none, some content)
      else
        match io.copy with
        | .failed left => (some content, left.map content.take)
        | .copied => (if io.removed then none else some content, some content)

/-- `MigrateLegacyDataFiles`. -/
def migrateLegacyDataFiles (dbIo keyIo : MoveIo) (s : DataFiles) : DataFiles :=
  let db := moveFileIfExists dbIo s.legacyDb s.dataDb
  let key := moveFileIfExists keyIo s.legacyKey s.dataKey
  { legacyDb := db.1, dataDb := db.2, legacyKey := key.1, dataKey := key.2 }

-- ============================================================================
-- Runs
-- ============================================================================

/-- A call of one of the three functions. -/
inductive DataEvent where
  | migrate (dbIo keyIo : MoveIo)
  | password (call : StorageCall)

/-- What a call returns. -/
def StorageCall.result (aes : AesCbc) (file : Option Bytes) : StorageCall → Except Bytes Bytes
  | .encryptPassword io draws plainPassword =>
      (encryptPasswordForStorage aes io draws file plainPassword).1
  | .decryptPassword io draws storedPassword =>
      (decryptPasswordFromStorage aes io draws file storedPassword).1

/-- The files after a call. -/
def DataEvent.filesAfter (aes : AesCbc) (s : DataFiles) : DataEvent → DataFiles
  | .migrate dbIo keyIo => migrateLegacyDataFiles dbIo keyIo s
  | .password call => { s with dataKey := call.fileAfter aes s.dataKey }

/-- The results of a call. -/
def DataEvent.results (aes : AesCbc) (s : DataFiles) : DataEvent → List (Except Bytes Bytes)
  | .migrate _ _ => []
  | .password call => [call.result aes s.dataKey]

/-- The calls in any order, from database and key in the install root only; the key file
    there holds `legacy`. -/
def dataFiles (aes : AesCbc) (legacy : Key) : Machine DataFiles DataEvent (Except Bytes Bytes) where
  init s := s.legacyDb.isSome ∧ s.dataDb = none ∧ s.legacyKey.bind keyOfFile = some legacy ∧
    s.dataKey = none
  step s e := some (e.filesAfter aes s, e.results aes s)

/-- After a migration in which nothing fails, every password that was stored under the
    legacy key can be read. -/
def Readable (aes : AesCbc) (legacy : Key) (s : DataFiles) : Prop :=
  ∀ crypto : Crypto, crypto.key = legacy → ∀ plain, sealPassword aes crypto plain ≠ [] →
    ∀ own fresh, (decryptPasswordFromStorage aes .reliable ⟨.ok own, fresh⟩
      (migrateLegacyDataFiles .reliable .reliable s).dataKey (sealPassword aes crypto plain)).1 =
        .ok plain

/-- The key file that the next migration leaves in the data directory holds the legacy
    key. -/
def HoldsKey (legacy : Key) (s : DataFiles) : Prop :=
  (s.dataKey.or s.legacyKey).bind keyOfFile = some legacy

/-- The call comes to the creation of a key file when there is none: it has a text to
    encrypt, or the parts of a stored one. -/
def StorageCall.needsKey : StorageCall → Bool
  | .encryptPassword _ _ _ => true
  | .decryptPassword _ _ stored => kPasswordPrefix <+: stored && (splitStored stored).isSome

/-- What the file system does in a call, and the draws. -/
def StorageCall.io : StorageCall → KeyIo
  | .encryptPassword io _ _ => io
  | .decryptPassword io _ _ => io

def StorageCall.draws : StorageCall → Draws
  | .encryptPassword _ draws _ => draws
  | .decryptPassword _ draws _ => draws

/-- While the data directory has no key file, the call does not write one, or it writes
    the legacy key. -/
def StorageCall.WritesNoOther (legacy : Key) (call : StorageCall) : Prop :=
  call.needsKey = true → call.io.opened = true → ∀ own fresh, call.draws = ⟨.ok own, .ok fresh⟩ →
    keyOfFile (call.io.arrives (keyFileContent fresh.getKeyHex)) = some legacy

/-- While the data directory has no key file, the migration renames the one of the
    install root, or it leaves a copy that holds the key, or none. -/
def MoveIo.LeavesNoOther (legacy : Key) (io : MoveIo) (content : Bytes) : Prop :=
  io.renamed = false → ∀ n, io.copy = .failed (some n) → keyOfFile (content.take n) = some legacy

/-- The condition on a call and the files before it. -/
def KeepsLegacyKey (legacy : Key) (s : DataFiles) (e : DataEvent) : Prop :=
  s.dataKey = none →
    match e with
    | .migrate _ keyIo =>
        ∀ content, s.legacyKey = some content → keyIo.LeavesNoOther legacy content
    | .password call => call.WritesNoOther legacy

-- ============================================================================
-- One call
-- ============================================================================

theorem moveFileIfExists_some (io : MoveIo) (source : Option Bytes) (content : Bytes) :
    moveFileIfExists io source (some content) = (source, some content) := by
  cases source with
  | none => rfl
  | some _ => rfl

/-- A move without a failure leaves the destination, if there was one, else the source. -/
theorem moveFileIfExists_reliable (source destination : Option Bytes) :
    (moveFileIfExists .reliable source destination).2 = destination.or source := by
  cases destination with
  | some content => rw [moveFileIfExists_some, Option.some_or]
  | none =>
      cases source with
      | none => rfl
      | some content => rfl

/-- With the destination absent, what the next move finds is what it found before unless
    a partial copy was left. -/
theorem moveFileIfExists_none {io : MoveIo} {content : Bytes} {legacy : Key}
    (hkey : keyOfFile content = some legacy) :
    ((moveFileIfExists io (some content) none).2.or
      (moveFileIfExists io (some content) none).1).bind keyOfFile = some legacy ↔
      io.LeavesNoOther legacy content := by
  unfold moveFileIfExists MoveIo.LeavesNoOther
  dsimp only
  cases hrenamed : io.renamed with
  | true => simpa using hkey
  | false =>
      cases hcopy : io.copy with
      | copied => simpa using hkey
      | failed left =>
          cases left with
          | none => simpa using hkey
          | some n => simp

/-- The object of a call, and with it the key file, when there is none yet. -/
theorem createStorageCrypto_none (io : KeyIo) (draws : Draws) :
    ((createStorageCrypto io draws none).2 = none ∧
      ¬ (io.opened = true ∧ ∃ own fresh, draws = ⟨.ok own, .ok fresh⟩)) ∨
    (io.opened = true ∧ ∃ own fresh, draws = ⟨.ok own, .ok fresh⟩ ∧
      (createStorageCrypto io draws none).2 =
        some (io.arrives (keyFileContent fresh.getKeyHex))) := by
  obtain ⟨own, fresh⟩ := draws
  cases own with
  | error message => exact Or.inl ⟨rfl, by simp⟩
  | ok own =>
      cases fresh with
      | error message => exact Or.inl ⟨rfl, by simp⟩
      | ok fresh =>
          cases hopened : io.opened with
          | false =>
              refine Or.inl ⟨?_, by simp⟩
              simp [createStorageCrypto, loadOrCreateStorageKeyHex, hopened]
          | true =>
              refine Or.inr ⟨rfl, own, fresh, rfl, ?_⟩
              simp [createStorageCrypto, loadOrCreateStorageKeyHex, hopened]

/-- The key file after a call: that of `CreateStorageCrypto`, if the call gets so far. -/
theorem StorageCall.fileAfter_eq (aes : AesCbc) (file : Option Bytes) (call : StorageCall) :
    call.fileAfter aes file =
      if call.needsKey then (createStorageCrypto call.io call.draws file).2 else file := by
  cases call with
  | encryptPassword io draws plain =>
      rw [fileAfter, encryptPasswordForStorage, needsKey, if_pos rfl, StorageCall.io,
        StorageCall.draws]
      split <;> (rename_i h; rw [h])
  | decryptPassword io draws stored =>
      rw [fileAfter, decryptPasswordFromStorage, needsKey, StorageCall.io, StorageCall.draws]
      by_cases hpre : kPasswordPrefix <+: stored
      · rw [if_neg (not_not_intro hpre)]
        cases hsplit : splitStored stored with
        | none => simp
        | some parts =>
            dsimp only
            rw [if_pos (by simp [hpre])]
            split <;> (rename_i h; rw [h])
      · rw [if_pos hpre]
        simp [hpre]

theorem StorageCall.fileAfter_none (aes : AesCbc) (legacy : Key) (call : StorageCall) :
    (call.fileAfter aes none = none ∨
      (call.fileAfter aes none).bind keyOfFile = some legacy) ↔ call.WritesNoOther legacy := by
  rw [fileAfter_eq, WritesNoOther]
  cases hneeds : call.needsKey with
  | false => simp
  | true =>
      rw [if_pos rfl]
      rcases createStorageCrypto_none call.io call.draws with
        ⟨hfile, hnot⟩ | ⟨hopened, own, fresh, hdraws, hfile⟩
      · rw [hfile]
        refine iff_of_true (Or.inl rfl) ?_
        intro _ hopened own fresh hdraws
        exact absurd ⟨hopened, own, fresh, hdraws⟩ hnot
      · rw [hfile, hdraws]
        simp [hopened]

-- ============================================================================
-- Runs
-- ============================================================================

variable {aes : AesCbc} {legacy : Key} {s : DataFiles}
  {t : Transition DataFiles DataEvent (Except Bytes Bytes)}
  {tr : List (Transition DataFiles DataEvent (Except Bytes Bytes))}

/-- As long as the data directory has no key file, the install root has the legacy one. -/
def LegacyKeyThere (legacy : Key) (s : DataFiles) : Prop :=
  s.dataKey = none → ∃ content, s.legacyKey = some content ∧ keyOfFile content = some legacy

theorem moveFileIfExists_keeps {io : MoveIo} {source destination : Option Bytes}
    (h : (moveFileIfExists io source destination).2 = none) :
    destination = none ∧ (moveFileIfExists io source destination).1 = source := by
  unfold moveFileIfExists at h ⊢
  split at h
  · exact ⟨h, rfl⟩
  · cases h
  · split at h
    · cases h
    · rename_i hrenamed
      refine ⟨rfl, ?_⟩
      rw [if_neg hrenamed]
      split at h
      · rfl
      · cases h

theorem legacyKeyThere_filesAfter (aes : AesCbc) (e : DataEvent) (h : LegacyKeyThere legacy s) :
    LegacyKeyThere legacy (e.filesAfter aes s) := by
  intro hnone
  cases e with
  | migrate dbIo keyIo =>
      obtain ⟨hbefore, hsource⟩ := moveFileIfExists_keeps hnone
      obtain ⟨content, hlegacy, hkey⟩ := h hbefore
      exact ⟨content, hsource.trans hlegacy, hkey⟩
  | password call =>
      apply h
      cases hbefore : s.dataKey with
      | none => rfl
      | some content =>
          have hsome : call.fileAfter aes s.dataKey = none := hnone
          rw [hbefore, StorageCall.fileAfter_some] at hsome
          cases hsome

/-- What a call does to the key that the next migration leaves: a key file in the data
    directory stays, and else the condition on the call decides. -/
theorem holdsKey_filesAfter (aes : AesCbc) (e : DataEvent) (hthere : LegacyKeyThere legacy s) :
    HoldsKey legacy (e.filesAfter aes s) ↔ HoldsKey legacy s ∧ KeepsLegacyKey legacy s e := by
  cases hdata : s.dataKey with
  | some content =>
      have hkeeps : KeepsLegacyKey legacy s e := by
        intro hnone
        rw [hdata] at hnone
        cases hnone
      have hafter : (e.filesAfter aes s).dataKey = some content := by
        cases e with
        | migrate dbIo keyIo =>
            simp only [DataEvent.filesAfter, migrateLegacyDataFiles, hdata, moveFileIfExists_some]
        | password call => simp only [DataEvent.filesAfter, hdata, StorageCall.fileAfter_some]
      rw [and_iff_left hkeeps, HoldsKey, HoldsKey, hafter, hdata, Option.some_or, Option.some_or]
  | none =>
      obtain ⟨content, hlegacy, hkey⟩ := hthere hdata
      have hbefore : HoldsKey legacy s := by
        rw [HoldsKey, hdata, Option.none_or, hlegacy, Option.bind_some, hkey]
      rw [and_iff_right hbefore]
      cases e with
      | migrate dbIo keyIo =>
          have hmove := @moveFileIfExists_none keyIo content legacy hkey
          simp only [HoldsKey, DataEvent.filesAfter, migrateLegacyDataFiles, hdata, hlegacy,
            KeepsLegacyKey, forall_const, Option.some.injEq, forall_eq']
          exact hmove
      | password call =>
          simp only [HoldsKey, DataEvent.filesAfter, hdata, KeepsLegacyKey, forall_const]
          rw [← StorageCall.fileAfter_none aes legacy call]
          cases hfile : call.fileAfter aes none with
          | none => simp [hlegacy, hkey]
          | some written => simp

/-- What the legacy key sealed can be read if the next migration leaves the legacy key. -/
theorem readable_of_holdsKey (haes : aes.Inverts) (h : HoldsKey legacy s) :
    Readable aes legacy s := by
  intro crypto hkey plain hne own fresh
  have hdata : (migrateLegacyDataFiles .reliable .reliable s).dataKey = s.dataKey.or s.legacyKey :=
    moveFileIfExists_reliable s.legacyKey s.dataKey
  obtain ⟨content, hcontent, hcontentKey⟩ := Option.bind_eq_some_iff.mp h
  rw [hdata, hcontent, KeyIo.reliable,
    decryptPasswordFromStorage_seal haes (hcontentKey.trans (congrArg some hkey.symm)) hne]

theorem after_of_takes (ht : (dataFiles aes legacy).Takes t) :
    t.after = t.event.filesAfter aes t.before := by
  simp only [Takes, dataFiles, Option.some.injEq, Prod.mk.injEq] at ht
  exact ht.1.symm

/-- In a run whose calls all keep the legacy key, what it sealed can be read in every
    state after the next migration.  The first call that does not keep it loses it: from
    then on no migration leaves the legacy key. -/
theorem readable_of_keepsLegacyKey (haes : aes.Inverts) (h : (dataFiles aes legacy).Run tr s) :
    (HoldsKey legacy s ↔ Always (fun _ t => KeepsLegacyKey legacy t.before t.event) tr) ∧
    (Always (fun _ t => KeepsLegacyKey legacy t.before t.event) tr → Readable aes legacy s) := by
  have hinv : LegacyKeyThere legacy s ∧
      (HoldsKey legacy s ↔ Always (fun _ t => KeepsLegacyKey legacy t.before t.event) tr) := by
    refine Run.invariant (P := fun tr s => LegacyKeyThere legacy s ∧
      (HoldsKey legacy s ↔ Always (fun _ t => KeepsLegacyKey legacy t.before t.event) tr)) ?_ ?_ h
    · rintro s₀ ⟨-, -, hlegacy, hdata⟩
      refine ⟨fun _ => Option.bind_eq_some_iff.mp hlegacy, iff_of_true ?_ always_nil⟩
      rw [HoldsKey, hdata, Option.none_or, hlegacy]
    · rintro tr t ⟨hthere, hkeeps⟩ ht
      rw [after_of_takes ht, holdsKey_filesAfter aes t.event hthere, hkeeps, always_snoc]
      exact ⟨legacyKeyThere_filesAfter aes t.event hthere, Iff.rfl⟩
  exact ⟨hinv.2, fun hall => readable_of_holdsKey haes (hinv.2.mpr hall)⟩

/-- Database and key in the install root. -/
def exampleFiles : DataFiles where
  legacyDb := some (utf8 "SQLite format 3")
  dataDb := none
  legacyKey := some (keyFileContent exampleCrypto.getKeyHex)
  dataKey := none

theorem exampleFiles_run (aes : AesCbc) :
    (dataFiles aes exampleCrypto.key).Run [] exampleFiles :=
  .nil ⟨rfl, rfl, keyOfFile_keyFileContent exampleCrypto, rfl⟩

/-- A call that reads the stored "secret" and draws another key for a new key file. -/
def readSecret : StorageCall :=
  .decryptPassword .reliable ⟨.ok otherCrypto, .ok otherCrypto⟩
    (sealPassword exampleAes exampleCrypto (utf8 "secret"))

/-- A move of both files, and then the call. -/
theorem readable_of_keepsLegacyKey_moved :
    ∃ tr s, (dataFiles exampleAes exampleCrypto.key).Run tr s ∧ tr.length = 2 ∧
      Always (fun _ t => KeepsLegacyKey exampleCrypto.key t.before t.event) tr ∧
      Readable exampleAes exampleCrypto.key s := by
  have hrun := ((exampleFiles_run exampleAes).event
    (e := .migrate .reliable .reliable) rfl).event (e := .password readSecret) rfl
  refine ⟨_, _, hrun, rfl, ?_, (readable_of_keepsLegacyKey exampleAes_inverts hrun).2 ?_⟩
  all_goals
    refine always_snoc.mpr ⟨always_snoc.mpr ⟨always_nil, ?_⟩, ?_⟩
    · intro _ content _ hrenamed
      cases hrenamed
    · intro hnone
      cases hnone

/-- The database is moved, renaming and copying the key fail, and the stored password is
    read: a new key takes the place of the legacy one. -/
theorem readable_fails :
    ¬ ∀ (aes : AesCbc) (legacy : Key) tr s, aes.Inverts → (dataFiles aes legacy).Run tr s →
      Readable aes legacy s := by
  intro h
  have hrun := ((exampleFiles_run exampleAes).event
    (e := .migrate .reliable ⟨false, .failed none, true⟩) rfl).event (e := .password readSecret) rfl
  have hread := h _ _ _ _ exampleAes_inverts hrun exampleCrypto rfl _ sealPassword_secret
    exampleCrypto (.error [])
  revert hread
  decide

end Smile2Unlock.Storage
