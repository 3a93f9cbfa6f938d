/-
  Smile2Unlock.Service.Backend

  The calls of `BackendService` that write users and faces (modules/service.cppm):
  the checks before the writes, and the databases `AddUser` and `UpdateUser` can
  produce.

  `BackendService.Reachable` is reachability by these two calls on names without NUL;
  the face table may change in any way.  Reachable databases have no empty
  username (`usernamesNonempty_of_reachable`).
-/

import Smile2Unlock.Service.Decision

namespace Smile2Unlock.Service

open Smile2Unlock

namespace BackendService

/-- What a call returns: the database after it, the result and `error_message`. -/
structure Reply where
  database : Database
  ok : Bool
  errorMessage : Bytes

variable (encryptPasswordForStorage : Bytes → Bytes)

/-- `EncryptPasswordForPersistence`: the stored form, or the error message. -/
def encryptPasswordForPersistence (password : Bytes) : Except Bytes Bytes :=
  if password = [] then .error (utf8 "密码不能为空")
  else if encryptPasswordForStorage password = [] then .error (utf8 "密码加密失败")
  else .ok (encryptPasswordForStorage password)

/-- `BackendService::AddUser`. -/
def addUser (db : Database) (username password remark : Bytes) : Reply :=
  if username = [] then ⟨db, false, utf8 "用户名不能为空"⟩
  else if password = [] then ⟨db, false, utf8 "密码不能为空"⟩
  else if db.userExists username then ⟨db, false, utf8 "用户名已存在"⟩
  else
    match encryptPasswordForPersistence encryptPasswordForStorage password with
    | .error message => ⟨db, false, message⟩
    | .ok encrypted =>
        match db.addUser ⟨0, username, encrypted, [], remark⟩ with
        | some db' => ⟨db', true, utf8 "用户添加成功"⟩
        | none => ⟨db, false, utf8 "添加用户失败"⟩

/-- `BackendService::UpdateUser`; an empty password keeps the stored one. -/
def updateUser (db : Database) (userId : Int) (username password remark : Bytes) : Reply :=
  match db.getUserById userId with
  | none => ⟨db, false, utf8 "用户不存在"⟩
  | some user =>
      if username = [] then ⟨db, false, utf8 "用户名不能为空"⟩
      else if (db.getUserByUsername username).any (·.id ≠ userId) then
        ⟨db, false, utf8 "用户名已存在"⟩
      else
        let encrypted := if password = [] then .ok user.encryptedPassword
          else encryptPasswordForPersistence encryptPasswordForStorage password
        match encrypted with
        | .error message => ⟨db, false, message⟩
        | .ok encrypted =>
            match db.updateUser { user with
              username := username, encryptedPassword := encrypted, remark := remark } with
            | some db' => ⟨db', true, utf8 "用户更新成功"⟩
            | none => ⟨db, false, utf8 "更新用户失败"⟩

/-- `BackendService::DeleteUser`. -/
def deleteUser (db : Database) (userId : Int) : Reply :=
  match db.deleteUser userId with
  | some db' => ⟨db', true, utf8 "用户删除成功"⟩
  | none => ⟨db, false, utf8 "删除用户失败"⟩

/-- `BackendService::AddFace`; the user is not looked up. -/
def addFace (db : Database) (now : Bytes) (userId : Int) (feature remark : Bytes) : Reply :=
  if feature = [] then ⟨db, false, utf8 "人脸特征不能为空"⟩
  else
    match db.addFace now userId ⟨0, feature, [], remark, []⟩ with
    | some db' => ⟨db', true, utf8 "人脸添加成功"⟩
    | none => ⟨db, false, utf8 "添加人脸失败"⟩

/-- `BackendService::CaptureAndAddFace`: `captured` is the feature or the error
    message that `CaptureFrameAndFeature` leaves.  Pausing the preview around it
    touches neither table. -/
def captureAndAddFace (db : Database) (now : Bytes) (userId : Int) (remark : Bytes)
    (captured : Except Bytes Bytes) : Reply :=
  match db.getUserById userId with
  | none => ⟨db, false, utf8 "用户不存在"⟩
  | some _ =>
      match captured with
      | .error message => ⟨db, false, message⟩
      | .ok feature => addFace db now userId feature remark

/-- `BackendService::DeleteFace`. -/
def deleteFace (db : Database) (userId faceId : Int) : Reply :=
  match db.deleteFace userId faceId with
  | some db' => ⟨db', true, utf8 "人脸删除成功"⟩
  | none => ⟨db, false, utf8 "删除人脸失败"⟩

/-- `BackendService::UpdateFaceRemark`: the other fields of the `FaceData` it
    passes on are empty. -/
def updateFaceRemark (db : Database) (userId faceId : Int) (remark : Bytes) : Reply :=
  match db.updateFace userId ⟨faceId, [], [], remark, []⟩ with
  | some db' => ⟨db', true, utf8 "备注更新成功"⟩
  | none => ⟨db, false, utf8 "更新备注失败"⟩

/-- The databases reachable from the empty tables. -/
inductive Reachable : Database → Prop where
  | empty {db : Database} (h : db.users = []) : Reachable db
  | addUser {db : Database} {username password remark : Bytes} (h : Reachable db)
      (hname : (0 : UInt8) ∉ username) :
      Reachable (addUser encryptPasswordForStorage db username password remark).database
  | updateUser {db : Database} {userId : Int} {username password remark : Bytes}
      (h : Reachable db) (hname : (0 : UInt8) ∉ username) :
      Reachable (updateUser encryptPasswordForStorage db userId username password remark).database
  | faces {db : Database} (faces : List FaceRow) (h : Reachable db) :
      Reachable { db with faces := faces }

variable {encryptPasswordForStorage}

/-- A call that does not succeed leaves the database as it is. -/
theorem addUser_of_not_ok {db : Database} {username password remark : Bytes}
    (h : (addUser encryptPasswordForStorage db username password remark).ok = false) :
    (addUser encryptPasswordForStorage db username password remark).database = db := by
  revert h
  rw [addUser]
  repeat' split
  all_goals simp

theorem updateUser_of_not_ok {db : Database} {userId : Int} {username password remark : Bytes}
    (h : (updateUser encryptPasswordForStorage db userId username password remark).ok = false) :
    (updateUser encryptPasswordForStorage db userId username password remark).database = db := by
  revert h
  rw [updateUser]
  dsimp only
  repeat' split
  all_goals simp

theorem addFace_of_not_ok {db : Database} {now : Bytes} {userId : Int} {feature remark : Bytes}
    (h : (addFace db now userId feature remark).ok = false) :
    (addFace db now userId feature remark).database = db := by
  revert h
  rw [addFace]
  repeat' split
  all_goals simp

theorem mem_addUser {db : Database} {username password remark : Bytes} {r : UserRow}
    (hr : r ∈ (addUser encryptPasswordForStorage db username password remark).database.users) :
    r ∈ db.users ∨ (username ≠ [] ∧ r.username = bindText username) := by
  rw [addUser] at hr
  split at hr
  · exact Or.inl hr
  · rename_i hne
    split at hr
    · exact Or.inl hr
    · split at hr
      · exact Or.inl hr
      · split at hr
        · exact Or.inl hr
        · split at hr
          · rename_i hadd
            exact (Database.mem_addUser hadd hr).imp_right fun h => ⟨hne, h⟩
          · exact Or.inl hr

theorem mem_updateUser {db : Database} {userId : Int} {username password remark : Bytes}
    {r : UserRow}
    (hr : r ∈ (updateUser encryptPasswordForStorage db userId username password
      remark).database.users) :
    r ∈ db.users ∨ (username ≠ [] ∧ r.username = bindText username) := by
  rw [updateUser] at hr
  split at hr
  · exact Or.inl hr
  · split at hr
    · exact Or.inl hr
    · rename_i hne
      split at hr
      · exact Or.inl hr
      · dsimp only at hr
        split at hr
        · exact Or.inl hr
        · split at hr
          · rename_i hupdate
            exact (Database.mem_updateUser hupdate hr).imp_right fun h => ⟨hne, h⟩
          · exact Or.inl hr

/-- No username of a reachable database is empty. -/
theorem usernamesNonempty_of_reachable {db : Database}
    (h : Reachable encryptPasswordForStorage db) : db.UsernamesNonempty := by
  have hbound : ∀ username : Bytes, (0 : UInt8) ∉ username → username ≠ [] →
      ∀ r : UserRow, r.username = bindText username → r.username.bytes ≠ [] := by
    intro username hnul hne r hr
    rw [hr, bindText_bytes, cString_eq_self hnul]
    exact hne
  induction h with
  | empty h => exact fun r hr => absurd hr (by rw [h]; exact List.not_mem_nil)
  | addUser _ hname ih =>
      intro r hr
      rcases mem_addUser hr with hold | ⟨hne, hnew⟩
      · exact ih r hold
      · exact hbound _ hname hne r hnew
  | updateUser _ hname ih =>
      intro r hr
      rcases mem_updateUser hr with hold | ⟨hne, hnew⟩
      · exact ih r hold
      · exact hbound _ hname hne r hnew
  | faces _ _ ih => exact ih

end BackendService

end Smile2Unlock.Service
