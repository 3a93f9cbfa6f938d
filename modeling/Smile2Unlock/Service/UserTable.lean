/-
  Smile2Unlock.Service.UserTable

  `AddUser`, `UpdateUser` and `DeleteUser` as operations of a user table: when each
  succeeds, and what exactly it changes.

  The stored password comes from `EncryptPasswordForStorage`; its text has no NUL
  (`zero_not_mem_storageEncryption`), so the column holds all of it.  An update without
  a password writes back the password it has read, and a NULL column is read as an
  empty text: that is the one change an update makes beyond its arguments.
-/

import Smile2Unlock.Service.Backend
import Smile2Unlock.Storage.Password

namespace Smile2Unlock.Service

open Smile2Unlock Lib Storage

-- ============================================================================
-- The encryption
-- ============================================================================

/-- `EncryptPasswordForStorage` after `CreateStorageCrypto` has returned its object, or
    nothing. -/
def storageEncryption (aes : AesCbc) (crypto : Option Crypto) (plainPassword : Bytes) : Bytes :=
  match crypto with
  | none => []
  | some crypto => sealPassword aes crypto plainPassword

theorem encryptPasswordForStorage_eq {aes : AesCbc} {io : KeyIo} {draws : Draws}
    {file file' : Option Bytes} {crypto : Option Crypto}
    (h : createStorageCrypto io draws file = (.ok crypto, file')) (plainPassword : Bytes) :
    encryptPasswordForStorage aes io draws file plainPassword =
      (.ok (storageEncryption aes crypto plainPassword), file') := by
  rw [encryptPasswordForStorage, h]
  cases crypto <;> rfl

theorem zero_not_mem_bytesToHexImpl (bytes : Bytes) : (0 : UInt8) ∉ bytesToHexImpl bytes := by
  intro hmem
  have hdigit := Hex.value_of_mem_encode hmem
  revert hdigit
  decide

/-- A stored password consists of the prefix, digits and a colon. -/
theorem zero_not_mem_storageEncryption (aes : AesCbc) (crypto : Option Crypto)
    (plainPassword : Bytes) : (0 : UInt8) ∉ storageEncryption aes crypto plainPassword := by
  cases crypto with
  | none => simp [storageEncryption]
  | some crypto =>
      rw [storageEncryption]
      by_cases hnil : sealPassword aes crypto plainPassword = []
      · simp [hnil]
      · have hpre : (0 : UInt8) ∉ kPasswordPrefix := by decide
        have hiv : (0 : UInt8) ∉ crypto.getIvHex := zero_not_mem_bytesToHexImpl _
        rw [(sealPassword_eq hnil).2, List.mem_append, List.mem_append, List.mem_cons]
        rintro (hmem | hmem | hmem | hmem)
        · exact hpre hmem
        · exact hiv hmem
        · revert hmem
          decide
        · exact zero_not_mem_bytesToHexImpl _ hmem

-- ============================================================================
-- The table
-- ============================================================================

/-- A call of the three. -/
inductive UserCall where
  | addUser (username password remark : Bytes)
  | updateUser (userId : Int) (username password remark : Bytes)
  | deleteUser (userId : Int)

/-- No argument contains a NUL. -/
def UserCall.NulFree : UserCall → Prop
  | .addUser username password remark | .updateUser _ username password remark =>
      (0 : UInt8) ∉ username ∧ (0 : UInt8) ∉ password ∧ (0 : UInt8) ∉ remark
  | .deleteUser _ => True

instance : (call : UserCall) → Decidable call.NulFree
  | .addUser username password remark | .updateUser _ username password remark =>
      inferInstanceAs
        (Decidable ((0 : UInt8) ∉ username ∧ (0 : UInt8) ∉ password ∧ (0 : UInt8) ∉ remark))
  | .deleteUser _ => inferInstanceAs (Decidable True)

variable (encrypt : Bytes → Bytes)

def UserCall.reply (db : Database) : UserCall → BackendService.Reply
  | .addUser username password remark =>
      BackendService.addUser encrypt db username password remark
  | .updateUser userId username password remark =>
      BackendService.updateUser encrypt db userId username password remark
  | .deleteUser userId => BackendService.deleteUser db userId

/-- The calls that the table accepts. -/
def UserCall.Accepted (db : Database) : UserCall → Prop
  | .addUser username password _ =>
      username ≠ [] ∧ password ≠ [] ∧ (∀ row ∈ db.users, row.username.bytes ≠ username) ∧
        encrypt password ≠ []
  | .updateUser userId username password _ =>
      (∃ row ∈ db.users, row.id = userId) ∧ username ≠ [] ∧
        (∀ row ∈ db.users, row.id ≠ userId → row.username.bytes ≠ username) ∧
        (password = [] ∨ encrypt password ≠ [])
  | .deleteUser userId => ∃ row ∈ db.users, row.id = userId

/-- The row holds the texts. -/
def UserRow.Holds (row : UserRow) (username : Bytes) (encryptedPassword : Option Bytes)
    (remark : Bytes) : Prop :=
  row.username.bytes = username ∧ row.encryptedPassword.map (·.bytes) = encryptedPassword ∧
    row.remark.map (·.bytes) = some remark

/-- What an accepted call makes of the tables; `kept` is what an update without a
    password makes of the password column. -/
def UserCall.Changes (kept : Option Bytes → Option Bytes) (db db' : Database) : UserCall → Prop
  | .addUser username password remark =>
      ∃ row : UserRow, (∀ old ∈ db.users, old.id ≠ row.id) ∧
        row.Holds username (some (encrypt password)) remark ∧
        db'.users = db.users ++ [row] ∧ db'.faces = db.faces
  | .updateUser userId username password remark =>
      ∃ change : UserRow → UserRow,
        (∀ row ∈ db.users, row.id ≠ userId → change row = row) ∧
        (∀ row ∈ db.users, row.id = userId → (change row).id = userId ∧
          (change row).Holds username
            (if password = [] then kept (row.encryptedPassword.map (·.bytes))
              else some (encrypt password)) remark) ∧
        db'.users = db.users.map change ∧ db'.faces = db.faces
  | .deleteUser userId =>
      db'.users = db.users.filter (·.id ≠ userId) ∧
        db'.faces = db.faces.filter (·.userId ≠ userId)

/-- A NULL password is written back as an empty text. -/
def nullAsEmpty (column : Option Bytes) : Option Bytes := some (column.getD [])

-- ============================================================================
-- The queries and the writes
-- ============================================================================

theorem username_eq_bindText {name : Bytes} (h : (0 : UInt8) ∉ name) (row : UserRow) :
    row.username = bindText name ↔ row.username.bytes = name := by
  rw [SqlText.ext_iff, bindText_bytes, cString_eq_self h]

theorem holds_bindText {id : Int} {username encrypted remark : Bytes} (hname : (0 : UInt8) ∉ username)
    (hencrypted : (0 : UInt8) ∉ encrypted) (hremark : (0 : UInt8) ∉ remark) :
    (⟨id, bindText username, some (bindText encrypted), some (bindText remark)⟩ : UserRow).Holds
      username (some encrypted) remark := by
  refine ⟨?_, ?_, ?_⟩
  · exact cString_eq_self hname
  · exact congrArg some (cString_eq_self hencrypted)
  · exact congrArg some (cString_eq_self hremark)

namespace Database

theorem userExists_iff {db : Database} {name : Bytes} (h : (0 : UInt8) ∉ name) :
    db.userExists name = true ↔ ∃ row ∈ db.users, row.username.bytes = name := by
  rw [userExists, getUserByUsername, Option.isSome_map, List.find?_isSome]
  simp only [decide_eq_true_eq, username_eq_bindText h]

/-- `GetUserById` finds the row. -/
theorem exists_getUserById {db : Database} {id : Int} :
    (∃ user, db.getUserById id = some user) ↔ ∃ row ∈ db.users, row.id = id := by
  rw [← Option.isSome_iff_exists, getUserById, Option.isSome_map, List.find?_isSome]
  simp only [decide_eq_true_eq]

theorem getUserById_eq {db : Database} {id : Int} {user : User} (h : db.getUserById id = some user) :
    ∃ row ∈ db.users, row.id = id ∧ user = db.toUser row := by
  obtain ⟨row, hrow, rfl⟩ := Option.map_eq_some_iff.mp h
  exact ⟨row, List.mem_of_find?_eq_some hrow, by simpa using List.find?_some hrow, rfl⟩

/-- Another row has the name. -/
theorem taken_iff {db : Database} {name : Bytes} (h : (0 : UInt8) ∉ name) (id : Int) :
    (db.getUserByUsername name).any (·.id ≠ id) = true ↔
      ∃ row ∈ db.users, row.id ≠ id ∧ row.username.bytes = name := by
  rw [Option.any_eq_true]
  constructor
  · rintro ⟨user, hfound, hid⟩
    obtain ⟨row, hrow, rfl⟩ := Option.map_eq_some_iff.mp hfound
    have hname := getUserByUsername_username hfound
    rw [cString_eq_self h] at hname
    exact ⟨row, List.mem_of_find?_eq_some hrow, of_decide_eq_true hid, hname⟩
  · rintro ⟨row, hrow, hid, hname⟩
    refine ⟨db.toUser row, (getUserByUsername_eq_some hrow).mpr ?_, decide_eq_true hid⟩
    rw [hname, cString_eq_self h]

/-- A free name is inserted, with a fresh id. -/
theorem insertUser_free {db : Database} {username : SqlText} (encryptedPassword remark : SqlText)
    (h : ∀ row ∈ db.users, row.username ≠ username) :
    ∃ db', db.insertUser username encryptedPassword remark = some db' ∧
      db'.users = db.users ++ [⟨db.nextRowId, username, some encryptedPassword, some remark⟩] ∧
      db'.faces = db.faces := by
  have hnew : username ∉ db.users.map (·.username) := by
    intro hmem
    obtain ⟨row, hrow, heq⟩ := List.mem_map.mp hmem
    exact h row hrow heq
  rw [insertUser, dif_neg hnew]
  exact ⟨_, rfl, rfl, rfl⟩

theorem updateUserRow_free {db : Database} {id : Int} {username : SqlText}
    (encryptedPassword remark : SqlText)
    (h : ∀ row ∈ db.users, row.id ≠ id → row.username ≠ username) :
    ∃ db', db.updateUserRow id username encryptedPassword remark = some db' ∧
      db'.users = db.users.map (updateRow id username encryptedPassword remark) ∧
      db'.faces = db.faces := by
  have hnew : ¬ ∃ row ∈ db.users, row.id ≠ id ∧ row.username = username := by
    rintro ⟨row, hrow, hid, heq⟩
    exact h row hrow hid heq
  rw [updateUserRow, dif_neg hnew]
  exact ⟨_, rfl, rfl, rfl⟩

end Database

-- ============================================================================
-- The three calls
-- ============================================================================

/-- What a call does to the tables: it succeeds exactly when it is accepted, and a call
    that fails changes nothing. -/
def UserCall.Refines (kept : Option Bytes → Option Bytes) (db : Database) (call : UserCall) : Prop :=
  ((call.reply encrypt db).ok = true ↔ call.Accepted encrypt db) ∧
  ((call.reply encrypt db).ok = true →
    call.Changes encrypt kept db (call.reply encrypt db).database) ∧
  ((call.reply encrypt db).ok = false → (call.reply encrypt db).database = db)

variable {encrypt} {kept : Option Bytes → Option Bytes} {db : Database}
  {username password remark : Bytes} {userId : Int}

theorem UserCall.Refines.of_reply {call : UserCall}
    (haccepts : call.Accepted encrypt db →
      ∃ db' message, call.reply encrypt db = ⟨db', true, message⟩ ∧
        call.Changes encrypt kept db db')
    (hsucceeds : (call.reply encrypt db).ok = true → call.Accepted encrypt db)
    (hfails : (call.reply encrypt db).ok = false → (call.reply encrypt db).database = db) :
    call.Refines encrypt kept db := by
  refine ⟨⟨hsucceeds, fun h => ?_⟩, fun h => ?_, hfails⟩
  · obtain ⟨db', message, hreply, -⟩ := haccepts h
    rw [hreply]
  · obtain ⟨db', message, hreply, hchanges⟩ := haccepts (hsucceeds h)
    rw [hreply]
    exact hchanges

/-- The encryption of a non-empty password either fails or gives the stored text. -/
theorem encryptPasswordForPersistence_eq_ok (hpassword : password ≠ []) {encrypted : Bytes} :
    BackendService.encryptPasswordForPersistence encrypt password = .ok encrypted ↔
      encrypt password ≠ [] ∧ encrypted = encrypt password := by
  rw [BackendService.encryptPasswordForPersistence, if_neg hpassword]
  by_cases hnil : encrypt password = []
  · simp [hnil]
  · simp [hnil, eq_comm]

theorem addUser_of_accepted (hencrypt : ∀ password, (0 : UInt8) ∉ encrypt password)
    (hnul : (UserCall.addUser username password remark).NulFree)
    (h : (UserCall.addUser username password remark).Accepted encrypt db) :
    ∃ db' message, BackendService.addUser encrypt db username password remark =
        ⟨db', true, message⟩ ∧
      (UserCall.addUser username password remark).Changes encrypt kept db db' := by
  obtain ⟨hname, hpassword, hfree, hcipher⟩ := h
  have hexists : db.userExists username = false := by
    rw [← Bool.not_eq_true, Database.userExists_iff hnul.1]
    rintro ⟨row, hrow, heq⟩
    exact hfree row hrow heq
  have hpersist : BackendService.encryptPasswordForPersistence encrypt password =
      .ok (encrypt password) := (encryptPasswordForPersistence_eq_ok hpassword).mpr ⟨hcipher, rfl⟩
  obtain ⟨db', hinsert, husers, hfaces⟩ := Database.insertUser_free
    (bindText (encrypt password)) (bindText remark)
    fun row hrow heq => hfree row hrow ((username_eq_bindText hnul.1 row).mp heq)
  have hadd : db.addUser ⟨0, username, encrypt password, [], remark⟩ = some db' := by
    rw [Database.addUser, if_neg (by simp [hexists])]
    exact hinsert
  refine ⟨db', utf8 "用户添加成功", ?_, _, ?_, ?_, husers, hfaces⟩
  · rw [BackendService.addUser, if_neg hname, if_neg hpassword, if_neg (by simp [hexists]),
      hpersist]
    simp only [hadd]
  · intro old hold
    have := Database.lt_nextRowId hold
    show old.id ≠ db.nextRowId
    omega
  · exact holds_bindText hnul.1 (hencrypt password) hnul.2.2

theorem accepted_of_addUser (hnul : (0 : UInt8) ∉ username)
    (h : (BackendService.addUser encrypt db username password remark).ok = true) :
    (UserCall.addUser username password remark).Accepted encrypt db := by
  rw [BackendService.addUser] at h
  split at h
  · cases h
  · rename_i hname
    split at h
    · cases h
    · rename_i hpassword
      split at h
      · cases h
      · rename_i hexists
        split at h
        · cases h
        · rename_i encrypted hpersist
          have hcipher := ((encryptPasswordForPersistence_eq_ok hpassword).mp hpersist).1
          refine ⟨hname, hpassword, fun row hrow heq => hexists ?_, hcipher⟩
          exact (Database.userExists_iff hnul).mpr ⟨row, hrow, heq⟩

theorem refines_addUser (hencrypt : ∀ password, (0 : UInt8) ∉ encrypt password)
    (hnul : (UserCall.addUser username password remark).NulFree) :
    (UserCall.addUser username password remark).Refines encrypt kept db :=
  .of_reply (addUser_of_accepted hencrypt hnul) (accepted_of_addUser hnul.1)
    BackendService.addUser_of_not_ok

/-- The password column that an update writes. -/
theorem updateUser_password (hencrypt : ∀ password, (0 : UInt8) ∉ encrypt password)
    (db : Database) (row : UserRow) (h : password = [] ∨ encrypt password ≠ []) :
    ∃ encrypted, (0 : UInt8) ∉ encrypted ∧
      (if password = [] then .ok (db.toUser row).encryptedPassword
        else BackendService.encryptPasswordForPersistence encrypt password) =
          (.ok encrypted : Except Bytes Bytes) ∧
      some encrypted = if password = [] then nullAsEmpty (row.encryptedPassword.map (·.bytes))
        else some (encrypt password) := by
  by_cases hempty : password = []
  · refine ⟨(db.toUser row).encryptedPassword, ?_, by rw [if_pos hempty], ?_⟩
    · show (0 : UInt8) ∉ columnText row.encryptedPassword
      cases hcolumn : row.encryptedPassword with
      | none => simp [columnText]
      | some text => exact text.noNul
    · rw [if_pos hempty]
      rfl
  · refine ⟨encrypt password, hencrypt password, ?_, by rw [if_neg hempty]⟩
    rw [if_neg hempty, encryptPasswordForPersistence_eq_ok hempty]
    exact ⟨h.resolve_left hempty, rfl⟩

theorem updateUser_of_accepted (hencrypt : ∀ password, (0 : UInt8) ∉ encrypt password)
    (hnul : (UserCall.updateUser userId username password remark).NulFree)
    (h : (UserCall.updateUser userId username password remark).Accepted encrypt db) :
    ∃ db' message, BackendService.updateUser encrypt db userId username password remark =
        ⟨db', true, message⟩ ∧
      (UserCall.updateUser userId username password remark).Changes encrypt nullAsEmpty db db' := by
  obtain ⟨hexists, hname, hfree, hcipher⟩ := h
  obtain ⟨user, hfound⟩ := Database.exists_getUserById.mpr hexists
  obtain ⟨row, hrow, hid, rfl⟩ := Database.getUserById_eq hfound
  obtain ⟨encrypted, hnul', hpersist, hcolumn⟩ :=
    updateUser_password hencrypt db row hcipher
  have htaken : ¬ (db.getUserByUsername username).any (·.id ≠ userId) = true := by
    rw [Database.taken_iff hnul.1]
    rintro ⟨other, hother, hne, heq⟩
    exact hfree other hother hne heq
  obtain ⟨db', hupdate, husers, hfaces⟩ := Database.updateUserRow_free
    (bindText encrypted) (bindText remark)
    fun other hother hne heq => hfree other hother hne ((username_eq_bindText hnul.1 other).mp heq)
  refine ⟨db', utf8 "用户更新成功", ?_, _, ?_, ?_, husers, hfaces⟩
  · rw [BackendService.updateUser, hfound]
    dsimp only
    rw [if_neg hname, if_neg htaken, hpersist]
    dsimp only
    have hupdate' : db.updateUser { db.toUser row with
        username := username, encryptedPassword := encrypted, remark := remark } = some db' := by
      rw [Database.updateUser, show (db.toUser row).id = userId from hid]
      exact hupdate
    rw [hupdate']
  · intro other _ hne
    rw [Database.updateRow, if_neg hne]
  · intro other hother hid'
    have hsame : other = row :=
      List.inj_on_of_nodup_map db.idUnique hother hrow (hid'.trans hid.symm)
    rw [Database.updateRow, if_pos hid', hsame, ← hcolumn]
    exact ⟨hid, holds_bindText hnul.1 hnul' hnul.2.2⟩

theorem accepted_of_updateUser (hnul : (0 : UInt8) ∉ username)
    (h : (BackendService.updateUser encrypt db userId username password remark).ok = true) :
    (UserCall.updateUser userId username password remark).Accepted encrypt db := by
  rw [BackendService.updateUser] at h
  split at h
  · cases h
  · rename_i user hfound
    split at h
    · cases h
    · rename_i hname
      split at h
      · cases h
      · rename_i htaken
        rw [Database.taken_iff hnul] at htaken
        dsimp only at h
        split at h
        · cases h
        · rename_i encrypted hpersist
          refine ⟨Database.exists_getUserById.mp ⟨user, hfound⟩, hname, ?_, ?_⟩
          · exact fun row hrow hid heq => htaken ⟨row, hrow, hid, heq⟩
          · by_cases hempty : password = []
            · exact Or.inl hempty
            · rw [if_neg hempty, encryptPasswordForPersistence_eq_ok hempty] at hpersist
              exact Or.inr hpersist.1

theorem refines_updateUser (hencrypt : ∀ password, (0 : UInt8) ∉ encrypt password)
    (hnul : (UserCall.updateUser userId username password remark).NulFree) :
    (UserCall.updateUser userId username password remark).Refines encrypt nullAsEmpty db :=
  .of_reply (updateUser_of_accepted hencrypt hnul) (accepted_of_updateUser hnul.1)
    BackendService.updateUser_of_not_ok

theorem refines_deleteUser : (UserCall.deleteUser userId).Refines encrypt kept db := by
  have hmem : userId ∈ db.users.map (·.id) ↔ ∃ row ∈ db.users, row.id = userId := List.mem_map
  simp only [UserCall.Refines, UserCall.reply]
  by_cases hid : userId ∈ db.users.map (·.id)
  · rw [BackendService.deleteUser, Database.deleteUser, if_pos hid]
    exact ⟨iff_of_true rfl (hmem.mp hid), fun _ => ⟨rfl, rfl⟩, fun h => absurd h (by simp)⟩
  · rw [BackendService.deleteUser, Database.deleteUser, if_neg hid]
    dsimp only
    exact ⟨iff_of_false (by simp) (mt hmem.mpr hid), fun h => absurd h (by simp), fun _ => rfl⟩

/-- Every call on every table succeeds exactly when it is accepted, changes what it
    says and nothing else, and leaves the tables alone when it fails; an update without
    a password makes an empty text of a NULL password. -/
theorem userCall_refines (aes : AesCbc) (crypto : Option Crypto) (db : Database) (call : UserCall)
    (h : call.NulFree) : call.Refines (storageEncryption aes crypto) nullAsEmpty db := by
  have hencrypt := zero_not_mem_storageEncryption aes crypto
  cases call with
  | addUser username password remark => exact refines_addUser hencrypt h
  | updateUser userId username password remark => exact refines_updateUser hencrypt h
  | deleteUser userId => exact refines_deleteUser

/-- Renaming a user and giving it a new password. -/
theorem userCall_refines_rename :
    (UserCall.updateUser 1 (utf8 "c") (utf8 "secret") []).NulFree ∧
    (UserCall.updateUser 1 (utf8 "c") (utf8 "secret") []).Refines
      (storageEncryption exampleAes (some exampleCrypto)) nullAsEmpty
      FaceRecognition.exampleDatabase :=
  ⟨by decide, userCall_refines exampleAes (some exampleCrypto) _ _ (by decide)⟩

/-- A user whose password column is NULL. -/
def nullPasswordDatabase : Database where
  users := [⟨1, bindText (utf8 "a"), none, none⟩]
  faces := []
  idUnique := by decide
  usernameUnique := by decide

/-- An update without a password does change a NULL password. -/
theorem userCall_not_kept :
    ¬ ∀ (aes : AesCbc) (crypto : Option Crypto) (db : Database) (call : UserCall), call.NulFree →
      call.Refines (storageEncryption aes crypto) id db := by
  intro hall
  have hrefines := hall exampleAes none nullPasswordDatabase (.updateUser 1 (utf8 "a") [] [])
    (by decide)
  obtain ⟨change, -, hrow, husers, -⟩ := hrefines.2.1 rfl
  obtain ⟨-, -, hcolumn, -⟩ := hrow _ (List.mem_singleton.mpr rfl) rfl
  have hchanged : change ⟨1, bindText (utf8 "a"), none, none⟩ =
      ⟨1, bindText (utf8 "a"), some (bindText []), some (bindText [])⟩ :=
    (List.singleton_inj.mp husers).symm
  rw [hchanged, if_pos rfl] at hcolumn
  cases hcolumn

end Smile2Unlock.Service
