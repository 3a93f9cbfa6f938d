/-
  Smile2Unlock.Service.Ownership

  Whose face a row of `faces` is, over any sequence of the seven calls that write
  the two tables.

  Row ids are used again after a deletion.  `Database.owners` forgets all of the
  tables but who has which face, and every call refines one change of the
  ownership machine (`refines_owners`); the schema is what makes the change an
  allowed one: a new row gets an id that no row has, the foreign key refuses a
  face without its user, and the cascade takes the faces of a deleted user along.
-/

import Smile2Unlock.Lib.Ownership
import Smile2Unlock.Service.Backend

namespace Smile2Unlock.Service

open Smile2Unlock Lib

-- ============================================================================
-- The calls
-- ============================================================================

/-- A call with its arguments and what it finds outside the tables: the storage
    encryption, the clock and the camera. -/
inductive StoreCall where
  | addUser (encryptPasswordForStorage : Bytes → Bytes) (username password remark : Bytes)
  | updateUser (encryptPasswordForStorage : Bytes → Bytes) (userId : Int)
      (username password remark : Bytes)
  | deleteUser (userId : Int)
  | addFace (now : Bytes) (userId : Int) (feature remark : Bytes)
  | captureAndAddFace (now : Bytes) (userId : Int) (remark : Bytes)
      (captured : Except Bytes Bytes)
  | deleteFace (userId faceId : Int)
  | updateFaceRemark (userId faceId : Int) (remark : Bytes)

open BackendService (Reply)

def StoreCall.reply (db : Database) : StoreCall → Reply
  | .addUser encrypt username password remark =>
      BackendService.addUser encrypt db username password remark
  | .updateUser encrypt userId username password remark =>
      BackendService.updateUser encrypt db userId username password remark
  | .deleteUser userId => BackendService.deleteUser db userId
  | .addFace now userId feature remark =>
      BackendService.addFace db now userId feature remark
  | .captureAndAddFace now userId remark captured =>
      BackendService.captureAndAddFace db now userId remark captured
  | .deleteFace userId faceId => BackendService.deleteFace db userId faceId
  | .updateFaceRemark userId faceId remark =>
      BackendService.updateFaceRemark db userId faceId remark

/-- The tables as `CreateTables` makes them. -/
def Database.empty : Database where
  users := []
  faces := []
  idUnique := List.nodup_nil
  usernameUnique := List.nodup_nil

/-- The tables under the calls. -/
def store : Machine Database StoreCall (Bool × Bytes) where
  init db := db = .empty
  step db call :=
    let reply := call.reply db
    some (reply.database, [(reply.ok, reply.errorMessage)])

abbrev StoreStep := Transition Database StoreCall (Bool × Bytes)

/-- The tables after the calls. -/
def Database.afterCalls (db : Database) (calls : List StoreCall) : Database :=
  calls.foldl (fun db call => (call.reply db).database) db

/-- The steps of the calls. -/
def history (db : Database) : List StoreCall → List StoreStep
  | [] => []
  | call :: calls =>
      ⟨db, call, [((call.reply db).ok, (call.reply db).errorMessage)], (call.reply db).database⟩ ::
        history (call.reply db).database calls

theorem steps_history (db : Database) (calls : List StoreCall) :
    Machine.Steps store db (history db calls) (db.afterCalls calls) := by
  induction calls generalizing db with
  | nil => exact .nil
  | cons call calls ih => exact Machine.Steps.cons (t := ⟨db, call, _, _⟩) rfl (ih _)

/-- Any sequence of calls is a run. -/
theorem run_history (calls : List StoreCall) :
    store.Run (history .empty calls) (Database.empty.afterCalls calls) :=
  ⟨.empty, rfl, steps_history .empty calls⟩

theorem after_of_takes {t : StoreStep} (h : store.Takes t) :
    t.after = (t.event.reply t.before).database := by
  simp only [Machine.Takes, store] at h
  exact (Prod.mk.inj (Option.some.inj h)).1.symm

/-- A call that does not succeed leaves the tables as they are. -/
theorem StoreCall.database_of_not_ok {db : Database} {call : StoreCall}
    (h : (call.reply db).ok = false) : (call.reply db).database = db := by
  revert h
  cases call with
  | addUser encrypt username password remark => exact BackendService.addUser_of_not_ok
  | updateUser encrypt userId username password remark =>
      exact BackendService.updateUser_of_not_ok
  | deleteUser userId =>
      simp only [reply, BackendService.deleteUser]
      split <;> simp
  | addFace now userId feature remark => exact BackendService.addFace_of_not_ok
  | captureAndAddFace now userId remark captured =>
      simp only [reply, BackendService.captureAndAddFace]
      split
      · simp
      · split
        · simp
        · exact BackendService.addFace_of_not_ok
  | deleteFace userId faceId =>
      simp only [reply, BackendService.deleteFace]
      split <;> simp
  | updateFaceRemark userId faceId remark =>
      simp only [reply, BackendService.updateFaceRemark]
      split <;> simp

/-- What a call that succeeds means for who has which face. -/
def StoreCall.meaning (db : Database) : StoreCall → OwnerChange Int Int
  | .addUser .. => .create db.nextRowId
  | .deleteUser userId => .remove userId
  | .addFace _ userId _ _ => .give userId db.nextFaceId
  | .captureAndAddFace _ userId _ _ => .give userId db.nextFaceId
  | .deleteFace userId faceId => .take userId faceId
  | .updateUser .. => .keep
  | .updateFaceRemark .. => .keep

/-- What a call does to that. -/
def StoreCall.change (db : Database) (call : StoreCall) : OwnerChange Int Int :=
  if (call.reply db).ok then call.meaning db else .keep

-- ============================================================================
-- The writes
-- ============================================================================

namespace Database

/-- The users by id, and the faces by user and id. -/
def owners (db : Database) : Owners Int Int where
  parents := {id | id ∈ db.users.map (·.id)}
  children := {p | p ∈ db.faces.map fun f => (f.userId, f.id)}

/-- The tables `db'` are those of `db` after the change, which `db` allows. -/
def Makes (db db' : Database) (c : OwnerChange Int Int) : Prop :=
  db.owners.Allows c ∧ db'.owners = db.owners.apply c

theorem Makes.keep (db : Database) : db.Makes db .keep := ⟨trivial, rfl⟩

theorem makes_addUser {db db' : Database} {user : User} (h : db.addUser user = some db') :
    db.Makes db' (.create db.nextRowId) := by
  rw [addUser] at h
  split at h
  · cases h
  · rw [insertUser] at h
    split at h
    · cases h
    · obtain rfl := Option.some.inj h
      refine ⟨?_, Owners.ext ?_ rfl⟩
      · intro hmem
        obtain ⟨r, hr, heq⟩ := List.mem_map.mp hmem
        have := lt_nextRowId hr
        omega
      · ext id
        simp [owners, Owners.apply, or_comm]

theorem makes_updateUser {db db' : Database} {user : User} (h : db.updateUser user = some db') :
    db.Makes db' .keep := by
  rw [updateUser, updateUserRow] at h
  split at h
  · cases h
  · obtain rfl := Option.some.inj h
    refine ⟨trivial, Owners.ext ?_ rfl⟩
    simp [owners, Owners.apply, Function.comp_def, updateRow_id]

/-- Deleting the rows with a key deletes the key. -/
theorem mem_map_filter {α κ : Type} (key : α → κ) (p : κ → Bool) (l : List α) (k : κ) :
    k ∈ (l.filter fun r => p (key r)).map key ↔ k ∈ l.map key ∧ p k := by
  rw [← List.mem_filter, List.filter_map]
  rfl

theorem makes_deleteUser {db db' : Database} {id : Int} (h : db.deleteUser id = some db') :
    db.Makes db' (.remove id) := by
  rw [deleteUser] at h
  split at h
  · obtain rfl := Option.some.inj h
    refine ⟨trivial, Owners.ext ?_ ?_⟩
    · ext x
      have := mem_map_filter (fun r : UserRow => r.id) (fun k => decide (k ≠ id)) db.users x
      simpa [owners, Owners.apply] using this
    · ext p
      have := mem_map_filter (fun f : FaceRow => (f.userId, f.id)) (fun k => decide (k.1 ≠ id))
        db.faces p
      simpa [owners, Owners.apply] using this
  · cases h

theorem makes_addFace {db db' : Database} {now : Bytes} {userId : Int} {face : FaceData}
    (h : db.addFace now userId face = some db') :
    db.Makes db' (.give userId db.nextFaceId) := by
  rw [addFace] at h
  split at h
  · rename_i huser
    obtain rfl := Option.some.inj h
    refine ⟨⟨huser, ?_⟩, Owners.ext rfl ?_⟩
    · intro p hp
      obtain ⟨f, hf, rfl⟩ := List.mem_map.mp hp
      have := lt_nextFaceId hf
      dsimp only
      omega
    · ext p
      simp [owners, Owners.apply, or_comm, eq_comm]
  · cases h

theorem makes_deleteFace {db db' : Database} {userId faceId : Int}
    (h : db.deleteFace userId faceId = some db') : db.Makes db' (.take userId faceId) := by
  rw [deleteFace] at h
  split at h
  · obtain rfl := Option.some.inj h
    refine ⟨trivial, Owners.ext rfl ?_⟩
    ext p
    have := mem_map_filter (fun f : FaceRow => (f.userId, f.id))
      (fun k => decide ¬ (k.2 = faceId ∧ k.1 = userId)) db.faces p
    have hpair : p = (userId, faceId) ↔ p.2 = faceId ∧ p.1 = userId := by
      rw [Prod.ext_iff, and_comm]
    simpa only [owners, Owners.apply, Set.mem_sdiff, Set.mem_ofPred_eq, Set.mem_singleton_iff,
      hpair, decide_eq_true_eq] using this
  · cases h

theorem updateFaceRow_owner (userId : Int) (face : FaceData) (f : FaceRow) :
    ((updateFaceRow userId face f).userId, (updateFaceRow userId face f).id) = (f.userId, f.id) := by
  rw [updateFaceRow]
  split <;> rfl

theorem makes_updateFace {db db' : Database} {userId : Int} {face : FaceData}
    (h : db.updateFace userId face = some db') : db.Makes db' .keep := by
  obtain rfl := Option.some.inj h
  refine ⟨trivial, Owners.ext rfl ?_⟩
  simp only [owners, Owners.apply, List.map_map, Function.comp_def, updateFaceRow_owner]

end Database

namespace BackendService

/-- A call that returns `reply` makes the change `c` if it succeeds. -/
def Reply.Makes (reply : Reply) (db : Database) (c : OwnerChange Int Int) : Prop :=
  db.Makes reply.database (if reply.ok then c else .keep)

theorem Reply.makes_of_write {db db' : Database} {c : OwnerChange Int Int} {message : Bytes}
    (h : db.Makes db' c) : Reply.Makes ⟨db', true, message⟩ db c := h

theorem Reply.makes_refused (db : Database) (c : OwnerChange Int Int) (message : Bytes) :
    Reply.Makes ⟨db, false, message⟩ db c := .keep db

variable (encryptPasswordForStorage : Bytes → Bytes)

theorem makes_addUser (db : Database) (username password remark : Bytes) :
    (addUser encryptPasswordForStorage db username password remark).Makes db
      (.create db.nextRowId) := by
  rw [addUser]
  split
  · exact Reply.makes_refused ..
  · split
    · exact Reply.makes_refused ..
    · split
      · exact Reply.makes_refused ..
      · split
        · exact Reply.makes_refused ..
        · split
          · rename_i hwrite
            exact Reply.makes_of_write (Database.makes_addUser hwrite)
          · exact Reply.makes_refused ..

theorem makes_updateUser (db : Database) (userId : Int) (username password remark : Bytes) :
    (updateUser encryptPasswordForStorage db userId username password remark).Makes db
      .keep := by
  rw [updateUser]
  split
  · exact Reply.makes_refused ..
  · split
    · exact Reply.makes_refused ..
    · split
      · exact Reply.makes_refused ..
      · dsimp only
        split
        · exact Reply.makes_refused ..
        · split
          · rename_i hwrite
            exact Reply.makes_of_write (Database.makes_updateUser hwrite)
          · exact Reply.makes_refused ..

theorem makes_deleteUser (db : Database) (userId : Int) :
    (deleteUser db userId).Makes db (.remove userId) := by
  rw [deleteUser]
  split
  · rename_i hwrite
    exact Reply.makes_of_write (Database.makes_deleteUser hwrite)
  · exact Reply.makes_refused ..

theorem makes_addFace (db : Database) (now : Bytes) (userId : Int) (feature remark : Bytes) :
    (addFace db now userId feature remark).Makes db (.give userId db.nextFaceId) := by
  rw [addFace]
  split
  · exact Reply.makes_refused ..
  · split
    · rename_i hwrite
      exact Reply.makes_of_write (Database.makes_addFace hwrite)
    · exact Reply.makes_refused ..

theorem makes_captureAndAddFace (db : Database) (now : Bytes) (userId : Int) (remark : Bytes)
    (captured : Except Bytes Bytes) :
    (captureAndAddFace db now userId remark captured).Makes db (.give userId db.nextFaceId) := by
  unfold captureAndAddFace
  split
  · exact Reply.makes_refused ..
  · split
    · exact Reply.makes_refused ..
    · exact makes_addFace ..

theorem makes_deleteFace (db : Database) (userId faceId : Int) :
    (deleteFace db userId faceId).Makes db (.take userId faceId) := by
  rw [deleteFace]
  split
  · rename_i hwrite
    exact Reply.makes_of_write (Database.makes_deleteFace hwrite)
  · exact Reply.makes_refused ..

theorem makes_updateFaceRemark (db : Database) (userId faceId : Int) (remark : Bytes) :
    (updateFaceRemark db userId faceId remark).Makes db .keep := by
  rw [updateFaceRemark]
  split
  · rename_i hwrite
    exact Reply.makes_of_write (Database.makes_updateFace hwrite)
  · exact Reply.makes_refused ..

end BackendService

-- ============================================================================
-- Runs
-- ============================================================================

/-- Every call makes its change, and the tables allow it. -/
theorem StoreCall.makes_change (db : Database) (call : StoreCall) :
    db.Makes (call.reply db).database (call.change db) := by
  cases call with
  | addUser encrypt username password remark =>
      exact BackendService.makes_addUser encrypt db username password remark
  | updateUser encrypt userId username password remark =>
      exact BackendService.makes_updateUser encrypt db userId username password remark
  | deleteUser userId => exact BackendService.makes_deleteUser db userId
  | addFace now userId feature remark =>
      exact BackendService.makes_addFace db now userId feature remark
  | captureAndAddFace now userId remark captured =>
      exact BackendService.makes_captureAndAddFace db now userId remark captured
  | deleteFace userId faceId => exact BackendService.makes_deleteFace db userId faceId
  | updateFaceRemark userId faceId remark =>
      exact BackendService.makes_updateFaceRemark db userId faceId remark

/-- The step as one of the ownership machine. -/
def ownersStep (t : StoreStep) : Owners.Step Int Int :=
  ⟨t.before.owners, t.event.change t.before, [], t.after.owners⟩

/-- The store refines the ownership machine. -/
theorem refines_owners {tr : List StoreStep} {db : Database} (h : store.Run tr db) :
    (Owners.machine Int Int).Run (tr.map ownersStep) db.owners := by
  refine h.map Database.owners ownersStep ?_ (fun _ => rfl) (fun _ => rfl) ?_
  · rintro _ rfl
    simp [Owners.machine, Database.owners, Database.empty]
  · intro t ht
    obtain ⟨hallows, hafter⟩ := StoreCall.makes_change t.before t.event
    have hstep : ownersStep t = t.before.owners.stepOf (t.event.change t.before) := by
      rw [ownersStep, after_of_takes ht, hafter]
      rfl
    rw [hstep]
    exact Owners.takes_stepOf hallows

/-- The call inserts the row of a new user under this id. -/
def CreatesUser (userId : Int) (t : StoreStep) : Prop :=
  t.event.change t.before = .create userId

/-- The call inserts the face for the user, whose row is there. -/
def AddsFace (userId faceId : Int) (t : StoreStep) : Prop :=
  t.event.change t.before = .give userId faceId ∧ ∃ u ∈ t.before.users, u.id = userId

/-- The call inserts or deletes the user's row, or deletes the face. -/
def EndsFace (userId faceId : Int) (t : StoreStep) : Prop :=
  CreatesUser userId t ∨ t.event.change t.before = .remove userId ∨
    t.event.change t.before = .take userId faceId

theorem gives_ownersStep {userId faceId : Int} {t : StoreStep} :
    Owners.Gives userId faceId (ownersStep t) → AddsFace userId faceId t := by
  rintro ⟨hevent, hmem⟩
  exact ⟨hevent, List.mem_map.mp hmem⟩

theorem mem_children {db : Database} {f : FaceRow} (hf : f ∈ db.faces) :
    (f.userId, f.id) ∈ db.owners.children :=
  List.mem_map_of_mem (f := fun f : FaceRow => (f.userId, f.id)) hf

/-- No two users have a face under one id. -/
theorem owner_unique {tr : List StoreStep} {db : Database} (h : store.Run tr db) {f g : FaceRow}
    (hf : f ∈ db.faces) (hg : g ∈ db.faces) (hid : f.id = g.id) : f.userId = g.userId :=
  (Prod.mk.inj ((Owners.sound_of_run (refines_owners h)).parent_unique _ (mem_children hf) _
    (mem_children hg) hid)).1

/-- Over any sequence of calls a face belongs to a user who exists and was added
    for that user's very row: since the call that inserted it, the user's row was
    neither inserted nor deleted.  A user starts without faces, also under an id
    that another user had before. -/
theorem faces_owned {tr : List StoreStep} {db : Database} (h : store.Run tr db) :
    (∀ f ∈ db.faces, (∃ u ∈ db.users, u.id = f.userId) ∧
      Since (AddsFace f.userId f.id) (EndsFace f.userId f.id) tr) ∧
    ∀ t ∈ tr, ∀ userId, CreatesUser userId t → ∀ f ∈ t.after.faces, f.userId ≠ userId := by
  have howners := refines_owners h
  refine ⟨?_, ?_⟩
  · intro f hf
    refine ⟨?_, ?_⟩
    · exact List.mem_map.mp ((Owners.sound_of_run howners).parent_mem _ (mem_children hf))
    · have hsince := since_map.mp (Owners.given howners (mem_children hf))
      exact hsince.mono (fun t => gives_ownersStep) (fun t hends => hends)
  · rintro t ht _ hcreate f hf rfl
    exact Owners.childless_of_create howners (List.mem_map_of_mem ht) hcreate f.id
      (mem_children hf)

/-- A user with a face is deleted, and the next one gets the id and a face. -/
def recycledId : List StoreCall :=
  [.addUser id [97] [1] [], .addFace [0] 1 [10] [], .deleteUser 1,
    .addUser id [98] [2] [], .addFace [0] 1 [20] []]

theorem faces_owned_recycledId :
    Since (AddsFace 1 1) (EndsFace 1 1) (history .empty recycledId) ∧
    ∀ t ∈ history .empty recycledId, CreatesUser 1 t → ∀ f ∈ t.after.faces, f.userId ≠ 1 := by
  obtain ⟨howned, hchildless⟩ := faces_owned (run_history recycledId)
  have hmem : ⟨1, 1, some (bindText [20]), some (bindText []), some (bindText []),
      some (bindText [0])⟩ ∈ (Database.empty.afterCalls recycledId).faces := by decide
  exact ⟨(howned _ hmem).2, fun t ht => hchildless t ht 1⟩

end Smile2Unlock.Service
