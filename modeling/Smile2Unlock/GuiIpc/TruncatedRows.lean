/-
  Smile2Unlock.GuiIpc.TruncatedRows

  Lists that do not fit into a reply.  `set_payload_text` copies what fits, so the last
  row of the reply may be a part of one.

  `parse_users` drops a row without a name, and the name is only read behind its tab: a
  part of a row is dropped or gives the whole user (`parseUsers_take`).  `parse_faces`
  keeps every row: a part without the tab behind the id gives a face with the id 0
  (`parseFaces_take_iff`).
-/

import Smile2Unlock.GuiIpc.Rows

namespace Smile2Unlock.GuiIpc

open Smile2Unlock Lib
open Smile2Unlock.Service (User FaceData)
open RemoteBackendService (newUser newFace)
open Handler (userRow faceRow)

-- ============================================================================
-- A list that is cut
-- ============================================================================

theorem lines_part {part : Bytes} (h : newline ∉ part) :
    lines newline part = if part = [] then [] else [part] := by
  by_cases hne : part = []
  · rw [if_pos hne, hne, lines_nil]
  · rw [if_neg hne, lines_of_not_mem h hne]

/-- The text of a list up to a position in one of its rows is read row by row, and then
    the part of that row. -/
theorem foldlM_lines_take {α β ε : Type} {read : List β → Bytes → Except ε (List β)}
    {row : α → Bytes} (value : α → β) {l : List α} (hrow : ∀ a ∈ l, newline ∉ row a)
    (h : ∀ a ∈ l, ∀ done, read done (row a) = .ok (done ++ [value a]))
    (hempty : ∀ done, read done [] = .ok done) {n k : Nat} {a : α}
    (hentry : entryAt (fun a => row a ++ [newline]) l n = some (a, k)) :
    ∃ before after, l = before ++ a :: after ∧
      (lines newline ((l.flatMap fun a => row a ++ [newline]).take n)).foldlM read [] =
        read (before.map value) ((row a).take k) := by
  obtain ⟨before, after, rfl, hk, htake⟩ := take_of_entryAt hentry
  refine ⟨before, after, rfl, ?_⟩
  have hbefore : ∀ b ∈ before, b ∈ before ++ a :: after :=
    fun b hb => List.mem_append_left _ hb
  have ha : a ∈ before ++ a :: after := List.mem_append_right _ List.mem_cons_self
  have hpart : (row a ++ [newline]).take k = (row a).take k := by
    rw [List.length_append, List.length_singleton] at hk
    rw [List.take_append_of_le_length (by omega)]
  have hclean : newline ∉ (row a).take k := fun hmem => hrow a ha (List.mem_of_mem_take hmem)
  have hdone := foldlM_append (fun b hb => h b (hbefore b hb)) []
  rw [htake, hpart, lines_flatMap_append fun b hb => hrow b (hbefore b hb), List.foldlM_append,
    List.foldlM_map, hdone, List.nil_append, lines_part hclean]
  show (if (row a).take k = [] then [] else [(row a).take k]).foldlM read (before.map value) = _
  by_cases hne : (row a).take k = []
  · rw [if_pos hne, hne, hempty]
    rfl
  · rw [if_neg hne, List.foldlM_cons]
    cases read (before.map value) ((row a).take k) with
    | error e => rfl
    | ok done => rfl

-- ============================================================================
-- Users
-- ============================================================================

/-- A part of a row is dropped, or it gives the user of the row. -/
theorem readUserLine_part {user : User} (h : UserFits user) {part : Bytes}
    (hpart : part <+: userRow user) (users : List User) :
    RemoteBackendService.readUserLine users part = .ok users ∨
    RemoteBackendService.readUserLine users part = .ok (users ++ [shownUser user]) := by
  have hended := ended_prefix (c := tab) hpart
  rw [ended_userRow h] at hended
  rw [RemoteBackendService.readUserLine]
  by_cases hempty : part = []
  · exact .inl (if_pos hempty)
  rw [if_neg hempty]
  have hfields := List.prefix_iff_eq_take.mp hended
  have hlength := hended.length_le
  rw [List.length_cons, List.length_cons, List.length_singleton] at hlength
  -- one case for each number of tabs in the part
  obtain hzero | hone | htwo | hthree :
      (ended tab part).length = 0 ∨ (ended tab part).length = 1 ∨
      (ended tab part).length = 2 ∨ (ended tab part).length = 3 := by omega
  · rw [hzero] at hfields
    rw [hfields]
    exact .inl rfl
  · rw [hone] at hfields
    rw [hfields]
    left
    simp only [List.take_succ_cons, List.take_zero, List.zipIdx_cons, List.zipIdx_nil,
      List.foldlM_cons, List.foldlM_nil, RemoteBackendService.readUserField, stoi_toText h.id]
    rfl
  · rw [htwo] at hfields
    rw [hfields]
    right
    simp only [List.take_succ_cons, List.take_zero, List.zipIdx_cons, List.zipIdx_nil,
      List.foldlM_cons, List.foldlM_nil, RemoteBackendService.readUserField, stoi_toText h.id]
    show Except.ok (if user.username = [] then users else users ++ [shownUser user]) = _
    rw [if_neg h.named]
  · rw [hthree] at hfields
    rw [hfields]
    right
    simp only [List.take_succ_cons, List.take_zero, List.zipIdx_cons, List.zipIdx_nil,
      List.foldlM_cons, List.foldlM_nil, RemoteBackendService.readUserField, stoi_toText h.id]
    show Except.ok (if user.username = [] then users else users ++ [shownUser user]) = _
    rw [if_neg h.named]

/-- The client has the first users of the list, each with its id and name. -/
def FirstUsers (users : List User) (got : Except StdException (List User)) : Prop :=
  ∃ users', got = .ok users' ∧
    users'.map (fun user => (user.id, user.username)) <+:
      users.map fun user => (user.id, user.username)

theorem firstUsers_shown (before after : List User) :
    FirstUsers (before ++ after) (.ok (before.map shownUser)) := by
  refine ⟨_, rfl, ?_⟩
  rw [List.map_map, List.map_append]
  exact List.prefix_append (before.map fun user => (user.id, user.username)) _

/-- Wherever the text of the list is cut, the first users are read from it. -/
theorem parseUsers_take {users : List User} (h : ∀ user ∈ users, UserFits user) (n : Nat) :
    FirstUsers users (RemoteBackendService.parseUsers
      ((users.flatMap fun user => userRow user ++ [newline]).take n)) := by
  cases hentry : entryAt (fun user => userRow user ++ [newline]) users n with
  | none =>
      rw [List.take_of_length_le (length_le_of_entryAt hentry), parseUsers_rows h]
      have hwhole := firstUsers_shown users []
      rwa [List.append_nil] at hwhole
  | some found =>
      obtain ⟨user, k⟩ := found
      obtain ⟨before, after, rfl, hread⟩ := foldlM_lines_take shownUser
        (fun user hu => (not_mem_userRow (h user hu)).1)
        (fun user hu done => readUserLine_userRow (h user hu) done) (fun _ => rfl) hentry
      have hfits := h user (List.mem_append_right _ List.mem_cons_self)
      rw [RemoteBackendService.parseUsers, hread]
      rcases readUserLine_part hfits (List.take_prefix k _) (before.map shownUser) with hline | hline
      · rw [hline]
        exact firstUsers_shown before (user :: after)
      · rw [hline]
        have hshown := firstUsers_shown (before ++ [user]) after
        rwa [List.map_append, List.append_assoc] at hshown

-- ============================================================================
-- Faces
-- ============================================================================

/-- A part of a row without its first tab becomes a face with the id 0. -/
theorem readFaceLine_part {face : FaceData} (h : FaceFits face) {k : Nat} (hk : k ≠ 0)
    (faces : List FaceData) :
    RemoteBackendService.readFaceLine faces ((faceRow face).take k) =
      .ok (faces ++ [if k ≤ (toText face.id).length then newFace else shownFace face]) := by
  have hne : (faceRow face).take k ≠ [] := by simp [faceRow, hk]
  rw [RemoteBackendService.readFaceLine, if_neg hne]
  by_cases hle : k ≤ (toText face.id).length
  · have hpart : (faceRow face).take k = (toText face.id).take k := by
      rw [faceRow, List.take_append_of_le_length hle]
    have htab : tab ∉ (toText face.id).take k :=
      fun hmem => (plain_toText face.id).1 (List.mem_of_mem_take hmem)
    rw [if_pos hle, hpart, ended_of_not_mem htab]
    rfl
  · obtain ⟨k', hk'⟩ : ∃ k', k = (toText face.id).length + (k' + 1) :=
      ⟨k - (toText face.id).length - 1, by omega⟩
    have hpart : (faceRow face).take k = toText face.id ++ tab :: face.remark.take k' := by
      rw [faceRow, hk', List.take_length_add_append, List.take_succ_cons]
    have htab : tab ∉ face.remark.take k' := fun hmem => h.remark.1 (List.mem_of_mem_take hmem)
    have hread : (ended tab ((faceRow face).take k)).zipIdx.foldlM
        RemoteBackendService.readFaceField newFace = .ok (shownFace face) := by
      rw [hpart, ended_append (plain_toText face.id).1, ended_of_not_mem htab]
      simp only [List.zipIdx_cons, List.zipIdx_nil, List.foldlM_cons, List.foldlM_nil,
        RemoteBackendService.readFaceField, stoi_toText h.id]
      rfl
    rw [if_neg hle, hread]

/-- Every face that the client has is one of the list, and they are its first ones. -/
def FirstFaces (faces : List FaceData) (got : Except StdException (List FaceData)) : Prop :=
  ∃ faces', got = .ok faces' ∧ (∀ face ∈ faces', ∃ face' ∈ faces, face'.id = face.id) ∧
    faces'.map (·.id) <+: faces.map (·.id)

theorem firstFaces_iff {faces faces' : List FaceData} :
    FirstFaces faces (.ok faces') ↔ faces'.map (·.id) <+: faces.map (·.id) := by
  constructor
  · rintro ⟨faces'', heq, -, hleading⟩
    cases heq
    exact hleading
  · intro hleading
    refine ⟨faces', rfl, ?_, hleading⟩
    intro face hface
    exact List.mem_map.mp (hleading.subset (List.mem_map_of_mem hface))

theorem firstFaces_shown (before after : List FaceData) :
    FirstFaces (before ++ after) (.ok (before.map shownFace)) := by
  rw [firstFaces_iff, List.map_map, List.map_append]
  exact List.prefix_append (before.map (·.id)) _

/-- Position `n` lies in the id of a row, behind its first byte, or at the tab; ids that
    are 0 are left out. -/
def CutsId (faces : List FaceData) (n : Nat) : Prop :=
  ∃ face k, entryAt (fun face => faceRow face ++ [newline]) faces n = some (face, k) ∧
    face.id ≠ 0 ∧ k ≠ 0 ∧ k ≤ (toText face.id).length

/-- Where the text of the list is cut decides whether a face appears that is not in it. -/
theorem parseFaces_take_iff {faces : List FaceData} (h : ∀ face ∈ faces, FaceFits face) (n : Nat) :
    FirstFaces faces (RemoteBackendService.parseFaces
      ((faces.flatMap fun face => faceRow face ++ [newline]).take n)) ↔ ¬ CutsId faces n := by
  cases hentry : entryAt (fun face => faceRow face ++ [newline]) faces n with
  | none =>
      rw [List.take_of_length_le (length_le_of_entryAt hentry), parseFaces_rows h]
      have hwhole := firstFaces_shown faces []
      rw [List.append_nil] at hwhole
      refine iff_of_true hwhole ?_
      rintro ⟨face, k, hfound, -⟩
      rw [hentry] at hfound
      cases hfound
  | some found =>
      obtain ⟨face, k⟩ := found
      obtain ⟨before, after, rfl, hread⟩ := foldlM_lines_take shownFace
        (fun face hf => (not_mem_faceRow (h face hf)).1)
        (fun face hf done => readFaceLine_faceRow (h face hf) done) (fun _ => rfl) hentry
      have hfits := h face (List.mem_append_right _ List.mem_cons_self)
      have hcuts : CutsId (before ++ face :: after) n ↔
          face.id ≠ 0 ∧ k ≠ 0 ∧ k ≤ (toText face.id).length := by
        constructor
        · rintro ⟨face', k', hfound, hcut⟩
          rw [hentry] at hfound
          cases hfound
          exact hcut
        · exact fun hcut => ⟨face, k, hentry, hcut⟩
      rw [RemoteBackendService.parseFaces, hread, hcuts]
      by_cases hk : k = 0
      · rw [hk, List.take_zero]
        exact iff_of_true (firstFaces_shown before (face :: after)) fun hcut => hcut.2.1 rfl
      rw [readFaceLine_part hfits hk]
      by_cases hle : k ≤ (toText face.id).length
      · -- the id is lost
        rw [if_pos hle, firstFaces_iff, List.map_append, List.map_append, List.map_map]
        have hids : before.map ((·.id) ∘ shownFace) = before.map (·.id) := rfl
        rw [hids, List.prefix_append_right_inj, List.map_cons, List.map_cons, List.map_nil,
          List.cons_prefix_cons]
        constructor
        · rintro ⟨hzero, -⟩ hcut
          exact hcut.1 hzero.symm
        · intro hcut
          refine ⟨?_, List.nil_prefix⟩
          by_contra hne
          exact hcut ⟨fun hzero => hne hzero.symm, hk, hle⟩
      · rw [if_neg hle]
        have hshown := firstFaces_shown (before ++ [face]) after
        rw [List.map_append, List.append_assoc] at hshown
        exact iff_of_true hshown fun hcut => hle hcut.2.2

-- ============================================================================
-- From the backend to the client
-- ============================================================================

variable {F : Type} (service : PipeService F) (now : Int64) (beyond : Bytes)
  (remote : RemoteBackendService)

/-- The user list may be of any length: what the client has are its first users. -/
theorem getAllUsers_firstUsers {users : List User}
    (hbackend : service.backend .getAllUsers = .ok users) (h : ∀ user ∈ users, UserFits user) :
    FirstUsers users (remote.getAllUsers (service.clientIo now beyond)).value := by
  rw [getAllUsers_eq service now beyond remote hbackend h]
  exact parseUsers_take h (kPayloadSize - 1)

/-- A list of faces of any length arrives without a face of its own exactly if the reply
    does not end in an id. -/
theorem getUserFaces_firstFaces_iff {userId : Int} (hid : IsInt userId) {faces : List FaceData}
    (hbackend : service.backend (.getUserFaces userId) = .ok faces)
    (h : ∀ face ∈ faces, FaceFits face) :
    FirstFaces faces (remote.getUserFaces (service.clientIo now beyond) userId).value ↔
      ¬ CutsId faces (kPayloadSize - 1) := by
  rw [getUserFaces_eq service now beyond remote hid hbackend h]
  exact parseFaces_take_iff h (kPayloadSize - 1)

/-- A remark of some length. -/
def longRemark (length : Nat) : Bytes := List.replicate length 97

theorem length_longRemark (length : Nat) : (longRemark length).length = length :=
  List.length_replicate

theorem plain_longRemark (length : Nat) : Plain (longRemark length) := by
  have hother (c : UInt8) (hc : c ≠ 97) : c ∉ longRemark length :=
    fun hmem => hc (List.eq_of_mem_replicate hmem)
  exact ⟨hother tab (by decide), hother newline (by decide), hother 0 (by decide)⟩

theorem length_userRows (remark : Bytes) :
    remark.length < ([alice remark, bob].flatMap fun user => userRow user ++ [newline]).length := by
  simp only [List.flatMap_cons, userRow, alice, List.length_append, List.length_cons]
  omega

/-- The reply ends in the remark of the first user. -/
theorem getAllUsers_firstUsers_cut :
    kPayloadSize - 1 < ([alice (longRemark kPayloadSize), bob].flatMap fun user =>
      userRow user ++ [newline]).length ∧
    FirstUsers [alice (longRemark kPayloadSize), bob] (exampleRemote.getAllUsers
      ((twoRows (longRemark kPayloadSize) []).clientIo 0 [])).value := by
  have hlength := length_userRows (longRemark kPayloadSize)
  rw [length_longRemark] at hlength
  exact ⟨Nat.lt_of_le_of_lt (Nat.sub_le _ _) hlength,
    getAllUsers_firstUsers _ 0 [] exampleRemote rfl (userFits_twoRows (plain_longRemark _))⟩

theorem length_longRow (length : Nat) :
    (faceRow (aliceFace (longRemark length)) ++ [newline]).length = length + 3 := by
  have hid : (toText 1).length = 1 := by decide
  simp only [faceRow, aliceFace, List.length_append, List.length_cons, List.length_nil, hid,
    length_longRemark]
  omega

/-- With this remark of the first face the reply ends `k` bytes behind the start of the
    second row. -/
theorem entryAt_twoRows {n k : Nat} (hlength : n + k = 1048572) (hk : k < 3) :
    entryAt (fun face => faceRow face ++ [newline]) [aliceFace (longRemark n), secondFace]
      (kPayloadSize - 1) = some (secondFace, k) := by
  have hrow := length_longRow n
  have hsecond : (faceRow secondFace ++ [newline]).length = 3 := by decide
  have hsize : kPayloadSize - 1 = n + 3 + k := by
    rw [show kPayloadSize - 1 = 1048575 from rfl]
    omega
  rw [hsize, entryAt, hrow, if_neg (by omega), entryAt, hsecond, Nat.add_sub_cancel_left,
    if_pos hk]

/-- The reply ends behind the id of the second face. -/
theorem getUserFaces_firstFaces_cut :
    kPayloadSize - 1 < ([aliceFace (longRemark 1048570), secondFace].flatMap fun face =>
      faceRow face ++ [newline]).length ∧
    FirstFaces [aliceFace (longRemark 1048570), secondFace] (exampleRemote.getUserFaces
      ((twoRows [] (longRemark 1048570)).clientIo 0 []) 1).value := by
  have hentry := entryAt_twoRows (n := 1048570) (k := 2) rfl (by decide)
  refine ⟨?_, ?_⟩
  · have hsecond : (faceRow secondFace ++ [newline]).length = 3 := by decide
    rw [List.flatMap_cons, List.flatMap_cons, List.flatMap_nil, List.append_nil,
      List.length_append, length_longRow, hsecond]
    decide
  · refine (getUserFaces_firstFaces_iff (twoRows [] (longRemark 1048570)) 0 [] exampleRemote
      (by decide) rfl (faceFits_twoRows (plain_longRemark _))).mpr ?_
    rintro ⟨face, k, hfound, -, -, hle⟩
    rw [hentry] at hfound
    cases hfound
    exact absurd hle (by decide)

/-- The reply ends in the id of the second face, and the client gets a face with the id 0. -/
theorem firstFaces_fails :
    ¬ ∀ (F : Type) (service : PipeService F) (now : Int64) (beyond : Bytes)
      (remote : RemoteBackendService) (userId : Int) (faces : List FaceData), IsInt userId →
      service.backend (.getUserFaces userId) = .ok faces → (∀ face ∈ faces, FaceFits face) →
      FirstFaces faces (remote.getUserFaces (service.clientIo now beyond) userId).value := by
  intro h
  have hfits := faceFits_twoRows (plain_longRemark 1048571)
  have hfirst := h Bool (twoRows [] (longRemark 1048571)) 0 [] exampleRemote 1 _ (by decide) rfl
    hfits
  rw [getUserFaces_eq (twoRows [] (longRemark 1048571)) 0 [] exampleRemote (by decide) rfl hfits,
    parseFaces_take_iff hfits] at hfirst
  exact hfirst ⟨secondFace, 1, entryAt_twoRows (n := 1048571) rfl (by decide), by decide,
    by decide, by decide⟩

end Smile2Unlock.GuiIpc
