/-
  Smile2Unlock.Service.FaceRemark

  `BackendService::UpdateFaceRemark` on the table of faces.

  The call should edit one column of one row.  It passes on a `FaceData` in which only the
  id and the remark are filled, and `Database::UpdateFace` writes three columns of it and
  reports success whether a row matched or not.  `editsRemark_iff` says for which tables
  this is the edit: the ones whose face has no template and no image path to lose.
-/

import Smile2Unlock.Service.Backend

namespace Smile2Unlock.Service

open Smile2Unlock

-- ============================================================================
-- The edit of a remark
-- ============================================================================

/-- The row is the face with this id, and belongs to this user. -/
def FaceRow.IsFaceOf (f : FaceRow) (userId faceId : Int) : Prop := f.id = faceId ∧ f.userId = userId

instance (f : FaceRow) (userId faceId : Int) : Decidable (f.IsFaceOf userId faceId) :=
  inferInstanceAs (Decidable (_ ∧ _))

/-- The user has the face. -/
def Database.HasFace (db : Database) (userId faceId : Int) : Prop :=
  ∃ f ∈ db.faces, f.IsFaceOf userId faceId

/-- One row under the edit: the remark is replaced, every other column stays. -/
def editRow (userId faceId : Int) (remark : Bytes) (f : FaceRow) : FaceRow :=
  if f.IsFaceOf userId faceId then { f with remark := some (bindText remark) } else f

/-- The call succeeds if the user has the face, and then edits its remark and nothing
    else; a call that fails changes nothing. -/
structure EditsRemark (db : Database) (userId faceId : Int) (remark : Bytes)
    (reply : BackendService.Reply) : Prop where
  ok_iff : reply.ok = true ↔ db.HasFace userId faceId
  users : reply.database.users = db.users
  edited : reply.ok = true → reply.database.faces = db.faces.map (editRow userId faceId remark)
  unchanged : reply.ok = false → reply.database.faces = db.faces

-- ============================================================================
-- What the call does
-- ============================================================================

/-- The columns that `UpdateFace` overwrites are empty already. -/
def FaceRow.IsBlank (f : FaceRow) : Prop :=
  f.feature = some (bindText []) ∧ f.imagePath = some (bindText [])

variable {db : Database} {userId faceId : Int} {remark : Bytes}

/-- The row that `UpdateFace` writes for the call. -/
theorem updateFaceRow_of_isFaceOf {f : FaceRow} (h : f.IsFaceOf userId faceId) :
    Database.updateFaceRow userId ⟨faceId, [], [], remark, []⟩ f =
      { f with
        feature := some (bindText [])
        imagePath := some (bindText [])
        remark := some (bindText remark) } := if_pos h

theorem updateFaceRow_of_other {f : FaceRow} (h : ¬ f.IsFaceOf userId faceId) :
    Database.updateFaceRow userId ⟨faceId, [], [], remark, []⟩ f = f := if_neg h

/-- The written row is the edited one if there was nothing to lose. -/
theorem updateFaceRow_eq_editRow_iff (f : FaceRow) :
    Database.updateFaceRow userId ⟨faceId, [], [], remark, []⟩ f = editRow userId faceId remark f ↔
      (f.IsFaceOf userId faceId → f.IsBlank) := by
  by_cases hface : f.IsFaceOf userId faceId
  · rw [updateFaceRow_of_isFaceOf hface, editRow, if_pos hface, FaceRow.mk.injEq, FaceRow.IsBlank]
    constructor
    · rintro ⟨-, -, hfeature, himagePath, -⟩ -
      exact ⟨hfeature.symm, himagePath.symm⟩
    · intro hblank
      obtain ⟨hfeature, himagePath⟩ := hblank hface
      exact ⟨rfl, rfl, hfeature.symm, himagePath.symm, rfl, rfl⟩
  · rw [updateFaceRow_of_other hface, editRow, if_neg hface]
    exact iff_of_true rfl fun h => absurd h hface

/-- The call edits the remark exactly if the user has the face, and the face has neither
    a feature nor an image path. -/
theorem editsRemark_iff (db : Database) (userId faceId : Int) (remark : Bytes) :
    EditsRemark db userId faceId remark
        (BackendService.updateFaceRemark db userId faceId remark) ↔
      db.HasFace userId faceId ∧
        ∀ f ∈ db.faces, f.IsFaceOf userId faceId → f.IsBlank := by
  have hok : (BackendService.updateFaceRemark db userId faceId remark).ok = true := rfl
  have hfaces : (BackendService.updateFaceRemark db userId faceId remark).database.faces =
      db.faces.map (Database.updateFaceRow userId ⟨faceId, [], [], remark, []⟩) := rfl
  have hedited : db.faces.map (Database.updateFaceRow userId ⟨faceId, [], [], remark, []⟩) =
      db.faces.map (editRow userId faceId remark) ↔
      ∀ f ∈ db.faces, f.IsFaceOf userId faceId → f.IsBlank := by
    rw [List.map_inj_left]
    exact forall₂_congr fun f _ => updateFaceRow_eq_editRow_iff f
  constructor
  · intro h
    have hmap := h.edited hok
    rw [hfaces] at hmap
    exact ⟨h.ok_iff.mp hok, hedited.mp hmap⟩
  · rintro ⟨hhas, hblank⟩
    refine ⟨iff_of_true hok hhas, rfl, fun _ => ?_, fun hfails => ?_⟩
    · rw [hfaces]
      exact hedited.mpr hblank
    · rw [hok] at hfails
      cases hfails

/-- The call is no edit of a face that `AddFace` has just stored, which has a feature. -/
theorem not_editsRemark_of_addFace {db' : Database} {now feature : Bytes}
    (hfeature : cString feature ≠ []) (label : Bytes)
    (h : db.addFace now userId ⟨0, feature, [], label, []⟩ = some db') (remark : Bytes) :
    ¬ EditsRemark db' userId db.nextFaceId remark
      (BackendService.updateFaceRemark db' userId db.nextFaceId remark) := by
  rw [editsRemark_iff]
  rintro ⟨-, hblank⟩
  rw [Database.addFace] at h
  split at h
  · obtain rfl := Option.some.inj h
    have hrow := hblank _ (List.mem_append_right _ (List.mem_singleton.mpr rfl)) ⟨rfl, rfl⟩
    exact hfeature (congrArg SqlText.bytes (Option.some.inj hrow.1))
  · cases h

/-- A user with one face. -/
def enrolledDatabase : Database where
  users := [⟨1, bindText (utf8 "alice"), none, none⟩]
  faces := [⟨1, 1, some (bindText (utf8 "0A0B0C0D")), some (bindText []), some (bindText []), none⟩]
  idUnique := by decide
  usernameUnique := by decide

/-- The edit of the only face loses its feature. -/
theorem editsRemark_fails :
    ¬ ∀ (db : Database) (userId faceId : Int) (remark : Bytes),
      EditsRemark db userId faceId remark
        (BackendService.updateFaceRemark db userId faceId remark) := by
  intro hclaim
  have hedited := (hclaim enrolledDatabase 1 1 (utf8 "x")).edited rfl
  have hfeature := congrArg (·.map (·.feature)) hedited
  revert hfeature
  decide

end Smile2Unlock.Service
