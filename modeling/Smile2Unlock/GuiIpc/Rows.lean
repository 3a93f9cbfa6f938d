/-
  Smile2Unlock.GuiIpc.Rows

  The user list and the face lists from the backend to the GUI: one line for a row,
  with tabs between its fields.

  The client reads the fields that a tab ends, so it never sees the last one.
  `parseUsers_rows` and `parseFaces_rows` say what it makes of a reply, `keepsRows_iff`
  for which lists that is what the backend returned.
-/

import Smile2Unlock.GuiIpc.Remote

namespace Smile2Unlock.GuiIpc

open Smile2Unlock Lib
open Smile2Unlock.Service (User FaceData)
open RemoteBackendService (newUser newFace)
open Handler (userRow faceRow)

/-- A text without tab, newline and NUL. -/
def Plain (text : Bytes) : Prop := tab ∉ text ∧ newline ∉ text ∧ 0 ∉ text

instance (text : Bytes) : Decidable (Plain text) := inferInstanceAs (Decidable (_ ∧ _ ∧ _))

theorem plain_toText (i : Int) : Plain (toText i) :=
  ⟨not_mem_toText (by decide) (by decide) i, not_mem_toText (by decide) (by decide) i,
    not_mem_toText (by decide) (by decide) i⟩

/-- A user that fits into a row. -/
structure UserFits (user : User) : Prop where
  id : IsInt user.id
  named : user.username ≠ []
  username : Plain user.username
  encryptedPassword : Plain user.encryptedPassword
  remark : Plain user.remark

/-- A face that fits into a row. -/
structure FaceFits (face : FaceData) : Prop where
  id : IsInt face.id
  remark : Plain face.remark

-- ============================================================================
-- Rows
-- ============================================================================

/-- A separator joins two texts without the byte to one without it. -/
theorem not_mem_join {c s : UInt8} {a b : Bytes} (hs : c ≠ s) (ha : c ∉ a) (hb : c ∉ b) :
    c ∉ a ++ s :: b := by
  rw [List.mem_append, List.mem_cons, not_or, not_or]
  exact ⟨ha, hs, hb⟩

theorem not_mem_userRow {user : User} (h : UserFits user) :
    newline ∉ userRow user ∧ 0 ∉ userRow user := by
  have hid := plain_toText user.id
  constructor
  · exact not_mem_join (by decide) hid.2.1 (not_mem_join (by decide) h.username.2.1
      (not_mem_join (by decide) h.encryptedPassword.2.1 h.remark.2.1))
  · exact not_mem_join (by decide) hid.2.2 (not_mem_join (by decide) h.username.2.2
      (not_mem_join (by decide) h.encryptedPassword.2.2 h.remark.2.2))

theorem not_mem_faceRow {face : FaceData} (h : FaceFits face) :
    newline ∉ faceRow face ∧ 0 ∉ faceRow face := by
  have hid := plain_toText face.id
  exact ⟨not_mem_join (by decide) hid.2.1 h.remark.2.1,
    not_mem_join (by decide) hid.2.2 h.remark.2.2⟩

/-- The fields of a row that a tab ends: all but the remark. -/
theorem ended_userRow {user : User} (h : UserFits user) :
    ended tab (userRow user) = [toText user.id, user.username, user.encryptedPassword] := by
  rw [userRow, ended_append (plain_toText user.id).1, ended_append h.username.1,
    ended_append h.encryptedPassword.1, ended_of_not_mem h.remark.1]

theorem ended_faceRow {face : FaceData} (h : FaceFits face) :
    ended tab (faceRow face) = [toText face.id] := by
  rw [faceRow, ended_append (plain_toText face.id).1, ended_of_not_mem h.remark.1]

/-- The user that the client makes of a row. -/
def shownUser (user : User) : User := { newUser with id := user.id, username := user.username }

/-- The face that the client makes of a row. -/
def shownFace (face : FaceData) : FaceData := { newFace with id := face.id }

theorem readUserLine_userRow {user : User} (h : UserFits user) (users : List User) :
    RemoteBackendService.readUserLine users (userRow user) = .ok (users ++ [shownUser user]) := by
  have hne : userRow user ≠ [] := by simp [userRow]
  have hread : (ended tab (userRow user)).zipIdx.foldlM RemoteBackendService.readUserField newUser =
      .ok (shownUser user) := by
    rw [ended_userRow h]
    simp only [List.zipIdx_cons, List.zipIdx_nil, List.foldlM_cons, List.foldlM_nil,
      RemoteBackendService.readUserField, stoi_toText h.id]
    rfl
  have hnamed : ¬ (shownUser user).username = [] := h.named
  rw [RemoteBackendService.readUserLine, if_neg hne, hread]
  dsimp only
  rw [if_neg hnamed]

theorem readFaceLine_faceRow {face : FaceData} (h : FaceFits face) (faces : List FaceData) :
    RemoteBackendService.readFaceLine faces (faceRow face) = .ok (faces ++ [shownFace face]) := by
  have hne : faceRow face ≠ [] := by simp [faceRow]
  have hread : (ended tab (faceRow face)).zipIdx.foldlM RemoteBackendService.readFaceField newFace =
      .ok (shownFace face) := by
    rw [ended_faceRow h]
    simp only [List.zipIdx_cons, List.zipIdx_nil, List.foldlM_cons, List.foldlM_nil,
      RemoteBackendService.readFaceField, stoi_toText h.id]
    rfl
  rw [RemoteBackendService.readFaceLine, if_neg hne, hread]

-- ============================================================================
-- Lists
-- ============================================================================

/-- A reader that appends one value for each line reads the list of the values. -/
theorem foldlM_append {α β ε : Type} {read : List β → α → Except ε (List β)} {value : α → β}
    {l : List α} (h : ∀ a ∈ l, ∀ done, read done a = .ok (done ++ [value a])) (done : List β) :
    l.foldlM read done = .ok (done ++ l.map value) := by
  induction l generalizing done with
  | nil => simp [List.foldlM, pure, Except.pure]
  | cons a l ih =>
      rw [List.foldlM_cons, h a List.mem_cons_self done]
      show l.foldlM read (done ++ [value a]) = _
      rw [ih fun b hb => h b (List.mem_cons_of_mem _ hb)]
      simp

/-- The text of a list with a row for each value is read row by row. -/
theorem foldlM_lines {α β ε : Type} {read : List β → Bytes → Except ε (List β)} {row : α → Bytes}
    {value : α → β} {l : List α} (hrow : ∀ a ∈ l, newline ∉ row a)
    (h : ∀ a ∈ l, ∀ done, read done (row a) = .ok (done ++ [value a])) :
    (lines newline (l.flatMap fun a => row a ++ [newline])).foldlM read [] =
      .ok (l.map value) := by
  rw [lines_flatMap hrow, List.foldlM_map]
  exact foldlM_append h []

theorem parseUsers_rows {users : List User} (h : ∀ user ∈ users, UserFits user) :
    RemoteBackendService.parseUsers (users.flatMap fun user => userRow user ++ [newline]) =
      .ok (users.map shownUser) :=
  foldlM_lines (fun user hu => (not_mem_userRow (h user hu)).1)
    fun user hu done => readUserLine_userRow (h user hu) done

theorem parseFaces_rows {faces : List FaceData} (h : ∀ face ∈ faces, FaceFits face) :
    RemoteBackendService.parseFaces (faces.flatMap fun face => faceRow face ++ [newline]) =
      .ok (faces.map shownFace) :=
  foldlM_lines (fun face hf => (not_mem_faceRow (h face hf)).1)
    fun face hf done => readFaceLine_faceRow (h face hf) done

theorem zero_not_mem_rows {α : Type} {row : α → Bytes} {l : List α} (h : ∀ a ∈ l, 0 ∉ row a) :
    0 ∉ l.flatMap fun a => row a ++ [newline] := by
  intro hmem
  obtain ⟨a, ha, hrow⟩ := List.mem_flatMap.mp hmem
  rcases List.mem_append.mp hrow with hrow | hrow
  · exact h a ha hrow
  · rw [List.mem_singleton] at hrow
    exact absurd hrow (by decide)

-- ============================================================================
-- From the backend to the client
-- ============================================================================

variable {F : Type} (service : PipeService F) (now : Int64) (beyond : Bytes)
  (remote : RemoteBackendService)

/-- A list of users that crosses the pipe in one reply. -/
structure UsersFit (users : List User) : Prop where
  rows : ∀ user ∈ users, UserFits user
  length : (users.flatMap fun user => userRow user ++ [newline]).length < kPayloadSize

/-- A list of faces that crosses the pipe in one reply. -/
structure FacesFit (faces : List FaceData) : Prop where
  rows : ∀ face ∈ faces, FaceFits face
  length : (faces.flatMap fun face => faceRow face ++ [newline]).length < kPayloadSize

/-- The client reads as much of the user list as fits into the reply. -/
theorem getAllUsers_eq {users : List User} (hbackend : service.backend .getAllUsers = .ok users)
    (h : ∀ user ∈ users, UserFits user) :
    (remote.getAllUsers (service.clientIo now beyond)).value =
      RemoteBackendService.parseUsers
        ((users.flatMap fun user => userRow user ++ [newline]).take (kPayloadSize - 1)) := by
  have hran : ∀ request, (service.ran .getAllUsers [] request).2 =
      (Handler.opened request).setPayloadText
        (users.flatMap fun user => userRow user ++ [newline]) .success := by
    intro request
    rw [PipeService.ran]
    show (Handler.run _ _ (Handler.getAllUsers _)).2 = _
    rw [Handler.getAllUsers, Handler.run, hbackend]
  obtain ⟨hok, htext⟩ := service.sendRequest_text .getAllUsers now beyond [] remote hran
  have hzero := zero_not_mem_rows fun user hu => (not_mem_userRow (h user hu)).2
  rw [RemoteBackendService.getAllUsers]
  dsimp only
  rw [if_pos hok, htext, cString_eq_self fun hmem => hzero (List.mem_of_mem_take hmem)]

theorem getUserFaces_eq {userId : Int} (hid : IsInt userId) {faces : List FaceData}
    (hbackend : service.backend (.getUserFaces userId) = .ok faces)
    (h : ∀ face ∈ faces, FaceFits face) :
    (remote.getUserFaces (service.clientIo now beyond) userId).value =
      RemoteBackendService.parseFaces
        ((faces.flatMap fun face => faceRow face ++ [newline]).take (kPayloadSize - 1)) := by
  have hran : ∀ request, (service.ran .getUserFaces (toText userId) request).2 =
      (Handler.opened request).setPayloadText
        (faces.flatMap fun face => faceRow face ++ [newline]) .success := by
    intro request
    have hfits : (toText userId).take (kPayloadSize - 1) = toText userId := by
      have hlength := length_toText_le hid
      exact List.take_of_length_le (Nat.le_trans hlength (by decide))
    rw [PipeService.ran, hfits]
    show (Handler.run _ _ (Handler.getUserFaces _ _)).2 = _
    rw [Handler.getUserFaces, parseInt_toText hid]
    dsimp only
    rw [Handler.run, hbackend]
  obtain ⟨hok, htext⟩ := service.sendRequest_text .getUserFaces now beyond (toText userId) remote hran
  have hzero := zero_not_mem_rows fun face hf => (not_mem_faceRow (h face hf)).2
  rw [RemoteBackendService.getUserFaces]
  dsimp only
  rw [if_pos hok, htext, cString_eq_self fun hmem => hzero (List.mem_of_mem_take hmem)]

theorem getAllUsers_value {users : List User} (hbackend : service.backend .getAllUsers = .ok users)
    (h : UsersFit users) :
    (remote.getAllUsers (service.clientIo now beyond)).value = .ok (users.map shownUser) := by
  have hlength := h.length
  rw [getAllUsers_eq service now beyond remote hbackend h.rows, List.take_of_length_le (by omega),
    parseUsers_rows h.rows]

theorem getUserFaces_value {userId : Int} (hid : IsInt userId) {faces : List FaceData}
    (hbackend : service.backend (.getUserFaces userId) = .ok faces) (h : FacesFit faces) :
    (remote.getUserFaces (service.clientIo now beyond) userId).value =
      .ok (faces.map shownFace) := by
  have hlength := h.length
  rw [getUserFaces_eq service now beyond remote hid hbackend h.rows,
    List.take_of_length_le (by omega), parseFaces_rows h.rows]

/-- The client has the users that the backend returned. -/
def KeepsUsers (users : List User) (got : Except StdException (List User)) : Prop :=
  ∃ users', got = .ok users' ∧
    users'.map (fun user => (user.id, user.username, user.remark)) =
      users.map fun user => (user.id, user.username, user.remark)

/-- The client has the faces that the backend returned. -/
def KeepsFaces (faces : List FaceData) (got : Except StdException (List FaceData)) : Prop :=
  ∃ faces', got = .ok faces' ∧
    faces'.map (fun face => (face.id, face.remark)) = faces.map fun face => (face.id, face.remark)

theorem keepsUsers_iff {users : List User} (hbackend : service.backend .getAllUsers = .ok users)
    (h : UsersFit users) :
    KeepsUsers users (remote.getAllUsers (service.clientIo now beyond)).value ↔
      ∀ user ∈ users, user.remark = [] := by
  rw [getAllUsers_value service now beyond remote hbackend h, KeepsUsers]
  constructor
  · rintro ⟨users', heq, hmap⟩ user hu
    cases heq
    rw [List.map_map, List.map_inj_left] at hmap
    exact (congrArg (·.2.2) (hmap user hu)).symm
  · intro hremark
    refine ⟨_, rfl, ?_⟩
    rw [List.map_map, List.map_inj_left]
    intro user hu
    show (user.id, user.username, []) = _
    rw [hremark user hu]

theorem keepsFaces_iff {userId : Int} (hid : IsInt userId) {faces : List FaceData}
    (hbackend : service.backend (.getUserFaces userId) = .ok faces) (h : FacesFit faces) :
    KeepsFaces faces (remote.getUserFaces (service.clientIo now beyond) userId).value ↔
      ∀ face ∈ faces, face.remark = [] := by
  rw [getUserFaces_value service now beyond remote hid hbackend h, KeepsFaces]
  constructor
  · rintro ⟨faces', heq, hmap⟩ face hf
    cases heq
    rw [List.map_map, List.map_inj_left] at hmap
    exact (congrArg (·.2) (hmap face hf)).symm
  · intro hremark
    refine ⟨_, rfl, ?_⟩
    rw [List.map_map, List.map_inj_left]
    intro face hf
    show (face.id, []) = _
    rw [hremark face hf]

/-- Lists that fit into a reply arrive exactly if no row has a remark. -/
theorem keepsRows_iff :
    (∀ users : List User, service.backend .getAllUsers = .ok users → UsersFit users →
      (KeepsUsers users (remote.getAllUsers (service.clientIo now beyond)).value ↔
        ∀ user ∈ users, user.remark = [])) ∧
    (∀ (userId : Int) (faces : List FaceData), IsInt userId →
      service.backend (.getUserFaces userId) = .ok faces → FacesFit faces →
      (KeepsFaces faces (remote.getUserFaces (service.clientIo now beyond) userId).value ↔
        ∀ face ∈ faces, face.remark = [])) :=
  ⟨fun _ hbackend h => keepsUsers_iff service now beyond remote hbackend h,
    fun _ _ hid hbackend h => keepsFaces_iff service now beyond remote hid hbackend h⟩

def alice (remark : Bytes) : User := ⟨1, utf8 "alice", utf8 "aes256cbc:00:00", [], remark⟩
def bob : User := ⟨2, utf8 "bob", [], [], []⟩
def aliceFace (remark : Bytes) : FaceData := ⟨1, utf8 "f", [], remark, []⟩
def secondFace : FaceData := ⟨2, [], [], [], []⟩

/-- A service with two users and two faces; the first ones may have a remark. -/
def twoRows (userRemark faceRemark : Bytes) : PipeService Bool :=
  { exampleService with
    backend
      | .getAllUsers => .ok [alice userRemark, bob]
      | .getUserFaces _ => .ok [aliceFace faceRemark, secondFace]
      | _ => .error [] }

theorem userFits_twoRows {remark : Bytes} (h : Plain remark) :
    ∀ user ∈ [alice remark, bob], UserFits user := by
  rintro user hu
  rcases List.mem_pair.mp hu with rfl | rfl
  · exact ⟨(by decide : IsInt 1), (by decide : utf8 "alice" ≠ []),
      (by decide : Plain (utf8 "alice")), (by decide : Plain (utf8 "aes256cbc:00:00")), h⟩
  · exact ⟨by decide, by decide, by decide, by decide, by decide⟩

theorem faceFits_twoRows {remark : Bytes} (h : Plain remark) :
    ∀ face ∈ [aliceFace remark, secondFace], FaceFits face := by
  rintro face hf
  rcases List.mem_pair.mp hf with rfl | rfl
  · exact ⟨(by decide : IsInt 1), h⟩
  · exact ⟨by decide, by decide⟩

theorem keepsRows_two :
    KeepsUsers [alice [], bob]
      (exampleRemote.getAllUsers ((twoRows [] []).clientIo 0 [])).value ∧
    KeepsFaces [aliceFace [], secondFace]
      (exampleRemote.getUserFaces ((twoRows [] []).clientIo 0 []) 1).value := by
  have hkeeps := keepsRows_iff (twoRows [] []) 0 [] exampleRemote
  have husers : UsersFit [alice [], bob] := ⟨userFits_twoRows (by decide), by decide⟩
  have hfaces : FacesFit [aliceFace [], secondFace] := ⟨faceFits_twoRows (by decide), by decide⟩
  refine ⟨(hkeeps.1 _ rfl husers).mpr ?_, (hkeeps.2 1 _ (by decide) rfl hfaces).mpr ?_⟩
  · rintro user hu
    rcases List.mem_pair.mp hu with rfl | rfl
    · rfl
    · rfl
  · rintro face hf
    rcases List.mem_pair.mp hf with rfl | rfl
    · rfl
    · rfl

/-- The remark of a user does not arrive. -/
theorem keepsRows_fails :
    ¬ ∀ (F : Type) (service : PipeService F) (now : Int64) (beyond : Bytes)
      (remote : RemoteBackendService) (users : List User),
      service.backend .getAllUsers = .ok users → UsersFit users →
      KeepsUsers users (remote.getAllUsers (service.clientIo now beyond)).value := by
  intro h
  have husers : UsersFit [alice (utf8 "boss"), bob] :=
    ⟨userFits_twoRows (by decide), by decide⟩
  have hkeeps := h Bool (twoRows (utf8 "boss") []) 0 [] exampleRemote _ rfl husers
  have hremark := (keepsUsers_iff _ 0 [] exampleRemote rfl husers).mp hkeeps
    (alice (utf8 "boss")) List.mem_cons_self
  exact absurd hremark (by decide)

end Smile2Unlock.GuiIpc
