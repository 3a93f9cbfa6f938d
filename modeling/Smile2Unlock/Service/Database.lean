/-
  Smile2Unlock.Service.Database

  The user store (modules/database.cppm): the two SQLite tables, the queries the
  service makes and the six writes behind it.

  A table is the list of its rows in rowid order, which is the order a `SELECT`
  without `ORDER BY` scans it in.  The `PRIMARY KEY` and the `UNIQUE` constraint
  of the schema are fields of `Database`: a write that would break one of them
  has no result.
-/

import Mathlib.Data.List.Nodup
import Smile2Unlock.Common.Text

namespace Smile2Unlock.Service

open Smile2Unlock

/-- A row of `users`; a NULL column is `none`. -/
structure UserRow where
  id : Int
  username : SqlText
  encryptedPassword : Option SqlText
  remark : Option SqlText
deriving DecidableEq

/-- A row of `faces`. -/
structure FaceRow where
  id : Int
  userId : Int
  feature : Option SqlText
  imagePath : Option SqlText
  remark : Option SqlText
  createdAt : Option SqlText
deriving DecidableEq

/-- The tables, with the constraints of `CreateTables`. -/
structure Database where
  users : List UserRow
  faces : List FaceRow
  idUnique : (users.map (·.id)).Nodup
  usernameUnique : (users.map (·.username)).Nodup
deriving DecidableEq

/-- `struct FaceData` and `struct User` of models.h. -/
structure FaceData where
  id : Int
  feature : Bytes
  imagePath : Bytes
  remark : Bytes
  createdAt : Bytes
deriving DecidableEq

structure User where
  id : Int
  username : Bytes
  encryptedPassword : Bytes
  faces : List FaceData
  remark : Bytes
deriving DecidableEq

/-- A nullable text column; NULL leaves the string empty. -/
def columnText (c : Option SqlText) : Bytes := (c.map (·.bytes)).getD []

namespace Database

-- ============================================================================
-- Queries
-- ============================================================================

/-- `Database::GetUserFaces`. -/
def getUserFaces (db : Database) (userId : Int) : List FaceData :=
  (db.faces.filter (·.userId = userId)).map fun f =>
    ⟨f.id, columnText f.feature, columnText f.imagePath, columnText f.remark, columnText f.createdAt⟩

/-- The `User` that the three queries build from a row. -/
def toUser (db : Database) (row : UserRow) : User where
  id := row.id
  username := row.username.bytes
  encryptedPassword := columnText row.encryptedPassword
  faces := db.getUserFaces row.id
  remark := columnText row.remark

/-- `Database::GetAllUsers`. -/
def getAllUsers (db : Database) : List User := db.users.map db.toUser

/-- `Database::GetUserById`. -/
def getUserById (db : Database) (id : Int) : Option User :=
  (db.users.find? (·.id = id)).map db.toUser

/-- `Database::GetUserByUsername`: the name is bound through its `c_str()`. -/
def getUserByUsername (db : Database) (username : Bytes) : Option User :=
  (db.users.find? (·.username = bindText username)).map db.toUser

/-- `Database::UserExists`. -/
def userExists (db : Database) (username : Bytes) : Bool :=
  (db.getUserByUsername username).isSome

/-- The query compares the stored names with the C string of its argument. -/
theorem getUserByUsername_eq_find? (db : Database) (name : Bytes) :
    db.getUserByUsername name = db.getAllUsers.find? (·.username = cString name) := by
  have hkey : (fun r : UserRow => decide (r.username = bindText name))
      = fun r => decide ((db.toUser r).username = cString name) := by
    funext r
    rw [decide_eq_decide, SqlText.ext_iff, bindText_bytes, toUser]
  rw [getUserByUsername, getAllUsers, List.find?_map, hkey]
  rfl

/-- The user found under a name has the name's C string as username. -/
theorem getUserByUsername_username {db : Database} {name : Bytes} {u : User}
    (h : db.getUserByUsername name = some u) : u.username = cString name := by
  obtain ⟨row, hrow, rfl⟩ := Option.map_eq_some_iff.mp h
  have hname : row.username = bindText name := by
    simpa using List.find?_some hrow
  rw [toUser, hname, bindText_bytes]

/-- Usernames are unique: a name selects at most one row. -/
theorem row_eq_of_username {db : Database} {r s : UserRow} (hr : r ∈ db.users)
    (hs : s ∈ db.users) (h : r.username = s.username) : r = s :=
  List.inj_on_of_nodup_map db.usernameUnique hr hs h

/-- A stored name finds its row. -/
theorem find?_username {db : Database} {r : UserRow} (hr : r ∈ db.users) :
    db.users.find? (·.username = r.username) = some r := by
  obtain ⟨s, hs⟩ : ∃ s, db.users.find? (·.username = r.username) = some s := by
    rw [← Option.isSome_iff_exists, List.find?_isSome]
    exact ⟨r, hr, by simp⟩
  have hname : s.username = r.username := by simpa using List.find?_some hs
  rw [hs, row_eq_of_username (List.mem_of_find?_eq_some hs) hr hname]

/-- A name without NUL finds the user stored under it, and no other. -/
theorem getUserByUsername_eq_some {db : Database} {name : Bytes} {r : UserRow}
    (hr : r ∈ db.users) :
    db.getUserByUsername name = some (db.toUser r) ↔ r.username.bytes = cString name := by
  constructor
  · intro h
    exact getUserByUsername_username h
  · intro h
    have hname : bindText name = r.username := by
      rw [← bindText_of_bytes r.username, h, bindText, bindText]
      simp
    rw [getUserByUsername, hname, find?_username hr, Option.map_some]

-- ============================================================================
-- Writes
-- ============================================================================

/-- The rowid SQLite gives a new row: one more than the largest. -/
def nextRowId (db : Database) : Int := (db.users.map (·.id)).foldr max 0 + 1

/-- The same for a new row of `faces`. -/
def nextFaceId (db : Database) : Int := (db.faces.map (·.id)).foldr max 0 + 1

theorem le_foldr_max {x : Int} {l : List Int} (h : x ∈ l) : x ≤ l.foldr max 0 := by
  induction l with
  | nil => cases h
  | cons y l ih =>
      rw [List.foldr_cons]
      rcases List.mem_cons.mp h with rfl | h
      · omega
      · have := ih h
        omega

theorem lt_nextRowId {db : Database} {r : UserRow} (hr : r ∈ db.users) :
    r.id < db.nextRowId := by
  have := le_foldr_max (List.mem_map_of_mem (f := fun r : UserRow => r.id) hr)
  rw [nextRowId]
  omega

theorem lt_nextFaceId {db : Database} {f : FaceRow} (hf : f ∈ db.faces) :
    f.id < db.nextFaceId := by
  have := le_foldr_max (List.mem_map_of_mem (f := fun f : FaceRow => f.id) hf)
  rw [nextFaceId]
  omega

/-- `INSERT INTO users`: refused when the name is taken. -/
def insertUser (db : Database) (username encryptedPassword remark : SqlText) :
    Option Database :=
  if h : username ∈ db.users.map (·.username) then none
  else some {
    users := db.users ++ [⟨db.nextRowId, username, some encryptedPassword, some remark⟩]
    faces := db.faces
    idUnique := by
      rw [List.map_append, List.nodup_append]
      refine ⟨db.idUnique, by simp, ?_⟩
      intro a ha b hb hab
      obtain ⟨r, hr, rfl⟩ := List.mem_map.mp ha
      have hb' : b = db.nextRowId := by simpa using hb
      exact absurd (lt_nextRowId hr) (by rw [hab, hb']; omega)
    usernameUnique := by
      rw [List.map_append, List.nodup_append]
      refine ⟨db.usernameUnique, by simp, ?_⟩
      rintro a ha b hb rfl
      have hb' : a = username := by simpa using hb
      exact h (hb' ▸ ha) }

/-- One row under `UPDATE users SET .. WHERE id = ?`. -/
def updateRow (id : Int) (username encryptedPassword remark : SqlText) (r : UserRow) : UserRow :=
  if r.id = id then ⟨r.id, username, some encryptedPassword, some remark⟩ else r

theorem updateRow_id (id : Int) (username encryptedPassword remark : SqlText) (r : UserRow) :
    (updateRow id username encryptedPassword remark r).id = r.id := by
  rw [updateRow]
  split <;> rfl

/-- `UPDATE users SET .. WHERE id = ?`: refused when another row has the name. -/
def updateUserRow (db : Database) (id : Int) (username encryptedPassword remark : SqlText) :
    Option Database :=
  if h : ∃ r ∈ db.users, r.id ≠ id ∧ r.username = username then none
  else some {
    users := db.users.map (updateRow id username encryptedPassword remark)
    faces := db.faces
    idUnique := by
      rw [List.map_map]
      have hid : (fun r => (updateRow id username encryptedPassword remark r).id)
          = fun r : UserRow => r.id := funext fun r => updateRow_id ..
      simpa [Function.comp_def, hid] using db.idUnique
    usernameUnique := by
      rw [List.map_map, List.Nodup, List.pairwise_map]
      have hids := List.pairwise_map.mp db.idUnique
      have hnames := List.pairwise_map.mp db.usernameUnique
      refine (hids.and hnames).imp_of_mem ?_
      rintro a b ha hb ⟨hid, hname⟩
      simp only [Function.comp_apply, updateRow]
      split <;> split
      · rename_i h1 h2; exact absurd (h1.trans h2.symm) hid
      · rename_i h1 h2; exact fun heq => h ⟨b, hb, h2, heq.symm⟩
      · rename_i h1 h2; exact fun heq => h ⟨a, ha, h1, heq⟩
      · exact hname }

/-- `Database::AddUser`: the new content, or nothing when it returns false. -/
def addUser (db : Database) (user : User) : Option Database :=
  if db.userExists user.username then none
  else db.insertUser (bindText user.username) (bindText user.encryptedPassword)
    (bindText user.remark)

/-- `Database::UpdateUser`. -/
def updateUser (db : Database) (user : User) : Option Database :=
  db.updateUserRow user.id (bindText user.username) (bindText user.encryptedPassword)
    (bindText user.remark)

/-- `Database::DeleteUser`: `ON DELETE CASCADE` takes the faces of the row along.
    No table is `AUTOINCREMENT`, so `ResetSequenceIfTableEmpty` finds no
    `sqlite_sequence` to reset. -/
def deleteUser (db : Database) (id : Int) : Option Database :=
  if id ∈ db.users.map (·.id) then some {
    users := db.users.filter (·.id ≠ id)
    faces := db.faces.filter (·.userId ≠ id)
    idUnique := db.idUnique.sublist (List.filter_sublist.map _)
    usernameUnique := db.usernameUnique.sublist (List.filter_sublist.map _) }
  else none

/-- `Database::AddFace` at the time `now`: the foreign key wants the user's row. -/
def addFace (db : Database) (now : Bytes) (userId : Int) (face : FaceData) : Option Database :=
  if userId ∈ db.users.map (·.id) then some { db with
    faces := db.faces ++ [⟨db.nextFaceId, userId, some (bindText face.feature),
      some (bindText face.imagePath), some (bindText face.remark), some (bindText now)⟩] }
  else none

/-- `Database::DeleteFace`. -/
def deleteFace (db : Database) (userId faceId : Int) : Option Database :=
  if ∃ f ∈ db.faces, f.id = faceId ∧ f.userId = userId then some { db with
    faces := db.faces.filter fun f => ¬ (f.id = faceId ∧ f.userId = userId) }
  else none

/-- One row under `UPDATE faces SET .. WHERE id = ? AND user_id = ?`. -/
def updateFaceRow (userId : Int) (face : FaceData) (f : FaceRow) : FaceRow :=
  if f.id = face.id ∧ f.userId = userId then { f with
    feature := some (bindText face.feature)
    imagePath := some (bindText face.imagePath)
    remark := some (bindText face.remark) }
  else f

/-- `Database::UpdateFace`: the statement is done whether a row matched or not. -/
def updateFace (db : Database) (userId : Int) (face : FaceData) : Option Database :=
  some { db with faces := db.faces.map (updateFaceRow userId face) }

/-- A row after `AddUser` is an old one or has the new name. -/
theorem mem_addUser {db db' : Database} {user : User} (h : db.addUser user = some db')
    {r : UserRow} (hr : r ∈ db'.users) :
    r ∈ db.users ∨ r.username = bindText user.username := by
  rw [addUser] at h
  split at h
  · cases h
  · rw [insertUser] at h
    split at h
    · cases h
    · obtain rfl := Option.some.inj h
      rcases List.mem_append.mp hr with hr | hr
      · exact Or.inl hr
      · rw [List.mem_singleton.mp hr]
        exact Or.inr rfl

/-- A row after `UpdateUser` is an old one or has the new name. -/
theorem mem_updateUser {db db' : Database} {user : User} (h : db.updateUser user = some db')
    {r : UserRow} (hr : r ∈ db'.users) :
    r ∈ db.users ∨ r.username = bindText user.username := by
  rw [updateUser, updateUserRow] at h
  split at h
  · cases h
  · obtain rfl := Option.some.inj h
    obtain ⟨q, hq, rfl⟩ := List.mem_map.mp hr
    rw [updateRow]
    split
    · exact Or.inr rfl
    · exact Or.inl hq

end Database

end Smile2Unlock.Service
